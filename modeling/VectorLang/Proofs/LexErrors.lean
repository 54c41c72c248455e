import VectorLang.Proofs.TokenPlaces

/-!
# The places of lexical errors

Reading stops at the first text that is neither gap nor token. What stands before it can be
read by itself, and is no comment that goes on. So a lexical error tells a place of the
source: the text there, its line, and why no token is written so.
-/

namespace VectorLang

open Lexer Source

/-! ## Errors in their text -/

/-- The byte offset is within a comment: two slashes stand there, or before it in its line. -/
def Source.InComment (source : String) (place : Nat) : Prop :=
  ∃ start ≤ place, IsBoundary source start ∧
    ['/', '/'] <+: between source start source.utf8ByteSize ∧
    '\n' ∉ between source start place

/-- What the offending text was read as. -/
def LexError.piece : LexError → Piece
  | .invalidCharacter char _ => .unknown char
  | .integerOutOfRange digits _ => .tooLarge digits

/-- The error tells what stands at a byte offset of the source, and why it is refused. -/
structure LexError.Placed (source : String) (place : Nat) (error : LexError) : Prop where
  boundary : IsBoundary source place
  outside : ¬ InComment source place
  readable : ∃ tokens, tokenize (String.ofList (between source 0 place)) = .ok tokens
  written : between source place (place + error.text.utf8ByteSize) = error.text.toList
  line : error.line = min (2 ^ 32 - 1) (1 + (between source 0 place).count '\n')
  refused : Stands error.piece error.text.toList
    (between source (place + error.text.utf8ByteSize) source.utf8ByteSize)
  /-- The place is in no run of digits whose value fits. -/
  fits : ∀ start stop, IsBoundary source start → IsBoundary source stop →
    IsNumber (between source start stop) →
    (∀ char ∈ (between source stop source.utf8ByteSize).head?, char.isDigit = false) →
    Nat.ofDigitChars 10 (between source start stop) 0 ≤ Token.maxInt →
    place < start ∨ stop ≤ place

namespace Lexer

variable {tokens found : List Located} {before text piece rest more : List Char}
  {error : LexError}

/-! ## The text before an error -/

/-- Every slash of the text has a line end behind it, so that no comment goes on. -/
def ClosesComments (text : List Char) : Prop :=
  ∀ before after, text = before ++ '/' :: after → '\n' ∈ after

theorem ClosesComments.append (closed : ClosesComments text)
    (first : '/' ∈ piece → '\n' ∈ text) : ClosesComments (piece ++ text) := by
  intro before after split
  rcases List.append_eq_append_iff.mp split with ⟨inner, rfl, inText⟩ | ⟨inner, rfl, inPiece⟩
  · exact closed inner after inText
  · cases inner with
    | nil => exact closed [] after inPiece.symm
    | cons char inner =>
        cases inPiece
        exact List.mem_append_right inner (first (by simp))

theorem Lexeme.slash_not_mem (lexeme : Lexeme text) : '/' ∉ text := by
  cases lexeme with
  | symbol mark => cases mark <;> decide
  | number number =>
      intro member
      exact (head_of_isAlphanum (number.isAlphanum _ member)).2 rfl
  | word word =>
      intro member
      exact (head_of_isAlphanum (word.isAlphanum _ member)).2 rfl

/-- A gap stays one when the text behind it is cut short. -/
theorem Stands.gap_of_append (stands : Stands .gap piece (rest ++ more)) :
    Stands .gap piece rest := by
  cases stands with
  | blank blank => exact .blank blank
  | comment inLine ends =>
      refine .comment inLine fun char first => ends char ?_
      simp [Option.mem_def.mp first]

/-- The longest lexeme stays one when the text behind it is cut short. -/
theorem Longest.of_append (longest : Longest text (rest ++ more)) : Longest text rest := by
  intro other lexeme begins
  refine longest other lexeme (begins.trans ?_)
  rw [← List.append_assoc]
  exact List.prefix_append _ more

/-- A comment before the offending text ends with its line. -/
theorem Stands.lineEnd_mem {first : Char} (stands : Stands .gap piece (text ++ first :: rest))
    (solid : isBlank first = false) (slash : '/' ∈ piece) : '\n' ∈ text := by
  cases stands with
  | blank blank =>
      cases List.mem_singleton.mp slash
      contradiction
  | comment _ ends =>
      cases text with
      | nil =>
          cases ends first rfl
          contradiction
      | cons char text =>
          cases ends char rfl
          exact List.mem_cons_self

/-- What is refused is a character that nothing starts with, or a number that is too large. -/
theorem Stands.refused_cases (refused : Stands error.piece text rest) :
    (∃ char, text = [char] ∧ isBlank char = false ∧ ¬ ['/', '/'] <+: text ++ rest ∧
      ∀ other, Lexeme other → ¬ other <+: text ++ rest) ∨
    (IsNumber text ∧ (∀ char ∈ rest.head?, char.isDigit = false) ∧
      Token.maxInt < Nat.ofDigitChars 10 text 0) := by
  cases error with
  | invalidCharacter char =>
      cases refused with
      | unknown solid noComment none => exact .inl ⟨char, rfl, solid, noComment, none⟩
  | integerOutOfRange digits =>
      cases refused with
      | tooLarge number stops large => exact .inr ⟨number, stops, large⟩

/-- The offending text is not empty, and starts no gap. -/
theorem Stands.exists_head (refused : Stands error.piece text rest) :
    ∃ first more, text = first :: more ∧ isBlank first = false := by
  rcases refused.refused_cases with ⟨char, rfl, solid, _⟩ | ⟨number, _⟩
  · exact ⟨char, [], rfl, solid⟩
  · rcases (Lexeme.number number).exists_head with ⟨first, more, written, solid, _⟩
    exact ⟨first, more, written, solid⟩

theorem Stands.not_comment (refused : Stands error.piece text rest) :
    ¬ ['/', '/'] <+: text ++ rest := by
  rcases refused.refused_cases with ⟨_, _, _, noComment, _⟩ | ⟨number, _⟩
  · exact noComment
  · rcases (Lexeme.number number).exists_head with ⟨first, more, rfl, _, noSlash⟩
    intro begins
    exact noSlash (List.cons_prefix_cons.mp begins).1.symm

theorem Stands.eq_text (refused : Stands error.piece text rest) : text = error.text.toList := by
  cases error with
  | invalidCharacter char =>
      cases refused with
      | unknown => exact (String.toList_singleton char).symm
  | integerOutOfRange digits =>
      cases refused with
      | tooLarge => exact String.toList_ofList.symm

/-- The text is laid out as tokens up to a place where it is refused with the error. No
comment goes on there. -/
inductive Fault (before : List Char) (error : LexError) : List Char → Prop where
  | intro {passed rest : List Char} {tokens : List Located} :
      Laid before passed tokens → ClosesComments passed →
      Stands error.piece error.text.toList rest →
      error.line = lineAfter ((before ++ passed).count '\n') →
      Fault before error (passed ++ error.text.toList ++ rest)

theorem Fault.of_stands (stands : Stands error.piece text rest)
    (line : error.line = lineAfter (before.count '\n')) : Fault before error (text ++ rest) := by
  have closed : ClosesComments [] := by simp [ClosesComments]
  cases stands.eq_text
  exact .intro (.last (.nil [])) closed stands (by rwa [List.append_nil])

theorem Fault.gap (fault : Fault (before ++ piece) error text) (stands : Stands .gap piece text) :
    Fault before error (piece ++ text) := by
  cases fault with
  | @intro passed rest tokens laid closed refused line =>
      rcases refused.exists_head with ⟨first, more, written, solid⟩
      rw [List.append_assoc] at stands
      have ended : '/' ∈ piece → '\n' ∈ passed := by
        rw [written] at stands
        exact stands.lineEnd_mem solid
      have grown : Laid before (piece ++ passed) tokens :=
        laid.grow fun _ _ => gap_of_stands stands.gap_of_append
      rw [List.append_assoc before] at line
      simpa using Fault.intro grown (closed.append ended) refused line

theorem Fault.token {token : Token} (fault : Fault (before ++ piece) error text)
    (written : token.Written piece) (longest : Longest piece text) :
    Fault before error (piece ++ text) := by
  cases fault with
  | @intro passed rest tokens laid closed refused line =>
      rw [List.append_assoc] at longest
      have noSlash : '/' ∉ piece := written.lexeme.slash_not_mem
      rw [List.append_assoc before] at line
      simpa using Fault.intro (laid.follow written longest.of_append)
        (closed.append fun slash => absurd slash noSlash) refused line

/-- Reading only fails at a fault. -/
theorem fault_of_scan (fails : scanBehind tokens before text = .error error) :
    Fault before error text := by
  induction text using pieces_induction generalizing tokens before with
  | nil => contradiction
  | cons first more after piece taken stands ih =>
      cases piece with
      | gap =>
          rw [scanBehind_gap taken] at fails
          exact (ih fails).gap stands
      | token token =>
          cases stands with
          | token written longest =>
              rw [scanBehind_token taken written.lexeme] at fails
              exact (ih fails).token written longest
      | unknown char =>
          rw [List.cons_append, scanBehind_unknown taken] at fails
          cases fails
          exact .of_stands stands rfl
      | tooLarge digits =>
          rw [List.cons_append, scanBehind_tooLarge taken] at fails
          cases fails
          exact .of_stands stands rfl

/-- A character that only starts a pair is refused if it stands alone. -/
theorem stands_unknown_of_lone {char : Char} (half : char ∈ ['&', '/'])
    (lone : ∀ next ∈ rest.head?, next ≠ char) : Stands (.unknown char) [char] rest := by
  have noPair (mark : Char) : ¬ [mark, mark] <+: char :: rest := by
    rintro ⟨after, pair⟩
    cases pair
    exact lone char rfl rfl
  obtain ⟨solid, symbolic, none⟩ : isBlank char = false ∧ char.isAlphanum = false ∧
      Symbol.ofChar? char = none := by
    rcases List.mem_pair.mp half with rfl | rfl <;> decide
  simpa only [none] using ofChar?_stands solid symbolic (noPair '/') (noPair '=') (noPair '&')

/-! ## The place of an error -/

theorem IsNumber.of_append {front : List Char} {first : Char}
    (number : IsNumber (front ++ first :: rest)) : IsNumber (first :: rest) := by
  cases front with
  | nil => exact number
  | cons => exact List.forall_mem_cons.mp (List.forall_mem_append.mp number.2).2

/-- A run of digits at the offending text has a value that is too large. -/
theorem Stands.maxInt_lt {front after : List Char} {first : Char}
    (refused : Stands error.piece text rest) (number : IsNumber (front ++ first :: more))
    (stops : ∀ char ∈ after.head?, char.isDigit = false)
    (same : text ++ rest = first :: more ++ after) :
    Token.maxInt < Nat.ofDigitChars 10 (front ++ first :: more) 0 := by
  have digits : IsNumber (first :: more) := number.of_append
  rcases refused.refused_cases with ⟨_, _, _, _, none⟩ | ⟨run, ends, large⟩
  · exact absurd ⟨after, same.symm⟩ (none _ (.number digits))
  · -- both are the longest run there, and the digits in front only add to the value
    cases (run.longest ends).unique (.number run) (digits.longest stops) (.number digits) same
    rw [Nat.ofDigitChars_append, Nat.ofDigitChars_eq_ofDigitChars_zero]
    omega

section Place

variable {source : String} {passed after : List Char}

/-- The text before one byte offset is split by an earlier one. -/
theorem exists_before {offset : Nat} (boundary : IsBoundary source offset)
    (split : source.toList = passed ++ after) (le : offset ≤ String.utf8Len passed) :
    ∃ front inner, passed = front ++ inner ∧ offset = String.utf8Len front := by
  rcases isBoundary_iff.mp boundary with ⟨front, behind, splitFront, rfl⟩
  rcases prefix_of_utf8Len_le le ⟨behind, splitFront.symm⟩ ⟨after, split.symm⟩ with ⟨inner, rfl⟩
  exact ⟨front, inner, rfl, rfl⟩

theorem ClosesComments.not_inComment (closed : ClosesComments passed)
    (split : source.toList = passed ++ after) (noComment : ¬ ['/', '/'] <+: after) :
    ¬ InComment source (String.utf8Len passed) := by
  rintro ⟨start, le, boundary, begins, inLine⟩
  rcases exists_before boundary split le with ⟨front, inner, rfl, rfl⟩
  have splitFront : source.toList = front ++ (inner ++ after) := by simp [split]
  rw [between_end splitFront] at begins
  rw [between_eq split] at inLine
  cases inner with
  | nil => exact noComment begins
  | cons char inner =>
      cases (List.cons_prefix_cons.mp begins).1
      exact inLine (List.mem_cons_of_mem _ (closed front inner rfl))

theorem Fault.placed (fault : Fault [] error source.toList) :
    ∃ place, error.Placed source place := by
  generalize whole : source.toList = text at fault
  cases fault with
  | @intro passed rest tokens laid closed refused line =>
      have split : source.toList = passed ++ (error.text.toList ++ rest) := by
        rw [whole, List.append_assoc]
      have stop : String.utf8Len passed + error.text.utf8ByteSize =
          String.utf8Len (passed ++ error.text.toList) := by
        rw [String.utf8Len_append, String.utf8Len_toList]
      refine ⟨String.utf8Len passed, {
        boundary := isBoundary_iff.mpr ⟨passed, _, split, rfl⟩
        outside := closed.not_inComment split refused.not_comment
        readable := ⟨tokens, ?_⟩
        written := by rw [stop, between_eq whole]
        line := ?_
        refused := by rwa [stop, between_end whole]
        fits := ?_ }⟩
      · rw [between_start split, tokenize, String.toList_ofList, tokensOf_eq_ok_iff]
        exact laid
      · rw [line, between_start split, List.nil_append, lineAfter]
        omega
      · intro start stop startBoundary stopBoundary number stops small
        by_contra inside
        rw [not_or, Nat.not_lt, Nat.not_le] at inside
        rcases exists_before startBoundary split inside.1 with ⟨front, inner, rfl, rfl⟩
        rcases stopBoundary.exists_split split (Nat.le_of_lt inside.2) with
          ⟨digits, after, same, rfl⟩
        have splitEnd : source.toList = front ++ (inner ++ digits) ++ after := by
          simp [split, same]
        rw [List.append_assoc] at stops number small
        rw [between_end splitEnd] at stops
        rw [between_eq splitEnd] at number small
        cases digits with
        | nil => simp at inside
        | cons first more => exact Nat.not_le_of_lt (refused.maxInt_lt number stops same) small

end Place

end Lexer

/-- A lexical error tells the first place that cannot be read: the place is within no comment,
the text before it can be read by itself, and the text of the error stands there, in its line.
It is the whole run of digits there, with a value that is too large, or one character that no
token, gap or comment starts with, such as `&` and `/` alone. Digits whose value fits are never
the cause, with any number of zeros in front. -/
theorem tokenize_eq_error {source : String} {error : LexError}
    (fails : tokenize source = .error error) :
    (∃ place, error.Placed source place) ∧
    ∀ char ∈ ['&', '/'], ∀ rest : List Char, (∀ next ∈ rest.head?, next ≠ char) →
      Stands (.unknown char) [char] rest := by
  have scanned : scanBehind [] [] source.toList = .error error := fails
  exact ⟨(fault_of_scan scanned).placed, fun _ half _ => stands_unknown_of_lone half⟩

/-- Behind a comment with a wide character and a small number with zeros in front, a number is
too large. -/
theorem tokenize_eq_error_of_number :
    tokenize "x // é&\n007 002147483648;" = .error (.integerOutOfRange "002147483648" 2) ∧
    ∃ place, LexError.Placed "x // é&\n007 002147483648;" place
      (.integerOutOfRange "002147483648" 2) := by
  have fails : tokenize "x // é&\n007 002147483648;" =
      .error (.integerOutOfRange "002147483648" 2) := by decide
  exact ⟨fails, (tokenize_eq_error fails).1⟩

end VectorLang
