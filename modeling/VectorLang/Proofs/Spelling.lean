import Mathlib.Data.List.Chain
import VectorLang.Proofs.Lexing

/-!
# Written tokens are read again

Tokens may be written one behind the other, with white space and comments between them.
They are read again as they are, if no token runs on into the next one. Only five pairs of
tokens do so, and only these have to be kept apart.
-/

namespace VectorLang

open Lexer

/-- The name can be written: it is a word that is not reserved. -/
def Name.Writable (name : Name) : Prop :=
  IsWord name.toList ∧ name ∉ Name.reserved

instance : DecidablePred Name.Writable :=
  fun name => inferInstanceAs (Decidable (IsWord name.toList ∧ name ∉ Name.reserved))

namespace Token

/-- The token can be written: no integer is negative, and a name can be written. -/
def Writable : Token → Prop
  | .int value => 0 ≤ value.toInt
  | .name text => text.Writable
  | .symbol _ | .keyword _ | .bool _ => True

instance : DecidablePred Writable
  | .int value => inferInstanceAs (Decidable (0 ≤ value.toInt))
  | .name text => inferInstanceAs (Decidable text.Writable)
  | .symbol _ | .keyword _ | .bool _ => inferInstanceAs (Decidable True)

theorem isNumber_toDigits (value : Nat) : IsNumber (Nat.toDigits 10 value) := by
  have digits : ∀ char ∈ Nat.toDigits 10 value, char.isDigit :=
    fun char member => Nat.isDigit_of_mem_toDigits (by decide) (by decide) member
  cases spelled : Nat.toDigits 10 value with
  | nil => exact absurd spelled Nat.toDigits_ne_nil
  | cons first rest => exact List.forall_mem_cons.mp (spelled ▸ digits)

/-- A token that can be written is written as its spelling. -/
theorem Writable.written {token : Token} (writable : token.Writable) :
    token.Written token.spelling.toList := by
  cases token with
  | keyword word => exact .keyword word
  | symbol mark => exact .symbol mark
  | bool value => exact .bool value
  | int value =>
      rcases Int.eq_ofNat_of_zero_le writable with ⟨count, valued⟩
      have spelled : (Token.int value).spelling.toList = Nat.toDigits 10 count := by
        change (toString value.toInt).toList = _
        rw [valued]
        exact (congrArg String.toList Nat.toString_eq_ofList_toDigits).trans String.toList_ofList
      rw [spelled]
      refine .int (isNumber_toDigits count) ?_
      rw [valued, Nat.ofDigitChars_toDigits (by decide) (by decide)]
  | name text => exact .name writable.1 writable.2

theorem Written.writable {token : Token} {text : List Char} (written : token.Written text) :
    token.Writable := by
  cases written with
  | symbol | keyword | bool => trivial
  | int number valued =>
      rw [Writable, valued]
      exact Int.natCast_nonneg _
  | name word free => exact ⟨word, free⟩

/-! ## Tokens that run on -/

/-- Keywords, truth values and names are words. -/
def isWord : Token → Bool
  | .keyword _ | .bool _ | .name _ => true
  | .symbol _ | .int _ => false

/-- Integers are numbers. -/
def isInt : Token → Bool
  | .int _ => true
  | .keyword _ | .bool _ | .name _ | .symbol _ => false

/-- The left token runs on into the right one, if nothing stands between them. -/
def Merges (left right : Token) : Prop :=
  (left.isWord ∧ right.isWord) ∨ (left.isWord ∧ right.isInt) ∨ (left.isInt ∧ right.isInt) ∨
    (left = .symbol .assign ∧ right = .symbol .assign) ∨
    (left = .symbol .assign ∧ right = .symbol .equals)

instance (left right : Token) : Decidable (left.Merges right) :=
  inferInstanceAs (Decidable (_ ∨ _ ∨ _ ∨ _ ∨ _))

theorem isWord_ofWord (word : Name) : (ofWord word).isWord := by
  rcases ofWord_cases word with ⟨_, _, read⟩ | ⟨_, _, read⟩ | ⟨_, read⟩ <;> rw [read] <;> rfl

theorem Written.isWord_of_isAlpha {token : Token} {first : Char} {rest : List Char}
    (written : token.Written (first :: rest)) (letter : first.isAlpha) : token.isWord := by
  have word := written.lexeme.isWord_of_isAlpha letter
  rcases written.kinds with ⟨_, rfl⟩ | ⟨number, _⟩ | ⟨mark, spelled, _⟩
  · exact isWord_ofWord _
  · exact absurd number word.not_isNumber
  · exact absurd (spelled ▸ word) (not_isWord_spelling mark)

theorem Written.isInt_of_isDigit {token : Token} {first : Char} {rest : List Char}
    (written : token.Written (first :: rest)) (digit : first.isDigit) : token.isInt := by
  have number := written.lexeme.isNumber_of_isDigit digit
  rcases written.kinds with ⟨word, _⟩ | ⟨_, _, rfl, _⟩ | ⟨mark, spelled, _⟩
  · exact absurd number word.not_isNumber
  · rfl
  · exact absurd (spelled ▸ number) (not_isNumber_spelling mark)

/-- Only `=` and `==` start with `=`. -/
theorem Written.eq_of_head {token : Token} {rest : List Char}
    (written : token.Written ('=' :: rest)) :
    token = .symbol .assign ∨ token = .symbol .equals := by
  rcases written.kinds with ⟨word, _⟩ | ⟨number, _⟩ | ⟨mark, spelled, rfl⟩
  · exact absurd word.1 (by decide)
  · exact absurd number.1 (by decide)
  · rcases mark.spelling_cases with ⟨char, single, read⟩ | rfl | rfl
    · cases spelled.trans single
      cases read
      exact .inl rfl
    · exact .inr rfl
    · cases spelled

/-- Where a token runs on, it does so into a token that it merges with. -/
theorem Written.merges {left right : Token} {first : Char} {rest : List Char}
    (written : right.Written (first :: rest)) (runs : left.RunsOn first) : left.Merges right := by
  cases left with
  | symbol mark =>
      rcases runs with ⟨rfl, rfl⟩
      rcases written.eq_of_head with rfl | rfl
      · exact .inr (.inr (.inr (.inl ⟨rfl, rfl⟩)))
      · exact .inr (.inr (.inr (.inr ⟨rfl, rfl⟩)))
  | int value => exact .inr (.inr (.inl ⟨rfl, written.isInt_of_isDigit runs⟩))
  | keyword | bool | name =>
      rcases Bool.or_eq_true_iff.mp runs with letter | digit
      · exact .inl ⟨rfl, written.isWord_of_isAlpha letter⟩
      · exact .inr (.inl ⟨rfl, written.isInt_of_isDigit digit⟩)

/-- No token runs on into white space or a comment. -/
theorem RunsOn.solid {token : Token} {char : Char} (runs : token.RunsOn char) :
    isBlank char = false ∧ char ≠ '/' := by
  cases token with
  | symbol mark =>
      rcases runs with ⟨_, rfl⟩
      decide
  | int value => exact head_of_isAlphanum (isAlphanum_of_isDigit runs)
  | keyword | bool | name => exact head_of_isAlphanum runs

/-! ## Written texts -/

/-- A separator consists of white space and of comments up to the ends of their lines. -/
inductive Separator : List Char → Prop where
  | nil : Separator []
  | blank {char : Char} {rest : List Char} :
      char ∈ spaces → Separator rest → Separator (char :: rest)
  | comment {body rest : List Char} :
      '\n' ∉ body → Separator rest → Separator ('/' :: '/' :: body ++ '\n' :: rest)

/-- A separator is a gap, whatever follows. -/
theorem Separator.gap {separator : List Char} (separates : Separator separator)
    (rest : List Char) : Gap separator rest := by
  induction separates with
  | nil => exact .nil rest
  | blank blank _ ih => exact .blank blank ih
  | comment inLine _ ih => exact .comment inLine (by simp [EndsLine]) (.blank (by decide) ih)

/-- The text of tokens, each behind its separator, with `last` behind all of them. -/
def textOf : List (List Char × Token) → List Char → List Char
  | [], last => last
  | (separator, token) :: rest, last => separator ++ token.spelling.toList ++ textOf rest last

/-- No token runs on into a gap. -/
theorem not_runsOn_of_gap {token : Token} {gap rest : List Char} (inner : Gap gap rest) :
    ∀ char ∈ gap.head?, ¬ token.RunsOn char := by
  intro char behind runs
  cases inner with
  | nil => contradiction
  | blank blank =>
      cases behind
      have solid := runs.solid.1
      simp [isBlank_iff.mpr blank] at solid
  | comment =>
      cases behind
      exact runs.solid.2 rfl

/-- A token does not run on into the text behind it, if it is kept apart from the next
token there. -/
theorem not_runsOn_textOf {token : Token} {pieces : List (List Char × Token)} {last : List Char}
    (writable : ∀ piece ∈ pieces, piece.2.Writable)
    (separators : ∀ piece ∈ pieces, Separator piece.1) (lastGap : Gap last [])
    (apart : ∀ next ∈ pieces.head?, token.Merges next.2 → next.1 ≠ []) :
    ∀ char ∈ (textOf pieces last).head?, ¬ token.RunsOn char := by
  rcases pieces with _ | ⟨⟨separator, next⟩, rest⟩
  · exact not_runsOn_of_gap lastGap
  · have written := (writable _ List.mem_cons_self).written
    have separates := separators _ List.mem_cons_self
    cases separator with
    | cons head separator =>
        intro char behind
        exact not_runsOn_of_gap (separates.gap []) char behind
    | nil =>
        intro char behind runs
        rcases written.lexeme.exists_head with ⟨first, more, spelled, _⟩
        rw [spelled] at written
        have same : first = char := by simpa [textOf, spelled] using behind
        subst same
        exact apart _ rfl (written.merges runs) rfl

/-- A written text is laid out as its tokens. -/
theorem exists_laid_textOf {pieces : List (List Char × Token)} {last : List Char}
    (writable : ∀ piece ∈ pieces, piece.2.Writable)
    (separators : ∀ piece ∈ pieces, Separator piece.1) (lastGap : Gap last [])
    (apart : pieces.IsChain fun left right => left.2.Merges right.2 → right.1 ≠ [])
    (before : List Char) :
    ∃ tokens, Laid before (textOf pieces last) tokens ∧
      tokens.map (·.token) = pieces.map (·.2) := by
  induction pieces generalizing before with
  | nil => exact ⟨[], .last lastGap, rfl⟩
  | cons piece rest ih =>
      rcases piece with ⟨separator, token⟩
      rcases List.forall_mem_cons.mp writable with ⟨tokenWritable, restWritable⟩
      rcases List.forall_mem_cons.mp separators with ⟨separates, restSeparators⟩
      rcases List.isChain_cons.mp apart with ⟨next, restApart⟩
      rcases ih restWritable restSeparators restApart
        (before ++ separator ++ token.spelling.toList) with ⟨tokens, laid, same⟩
      have written := tokenWritable.written
      have stops := not_runsOn_textOf restWritable restSeparators lastGap next
      refine ⟨_, .token (separates.gap _) written (written.longest stops) laid, ?_⟩
      simp [locate, same]

/-! ## Tokens that need a separator -/

theorem Writable.isWord_spelling {token : Token} (writable : token.Writable)
    (word : token.isWord) : IsWord token.spelling.toList := by
  cases token with
  | keyword keyword => exact isWord_spelling_keyword keyword
  | bool value => exact isWord_spelling_bool value
  | name text => exact writable.1
  | symbol | int => contradiction

theorem Writable.isNumber_spelling {token : Token} (writable : token.Writable)
    (number : token.isInt) : IsNumber token.spelling.toList := by
  cases token with
  | int value =>
      cases writable.written
      assumption
  | keyword | bool | name | symbol => contradiction

/-- Tokens that merge are one lexeme together, but for `===`, which is read as `==` and `=`. -/
theorem Merges.lexeme {left right : Token} (merges : left.Merges right)
    (leftWritable : left.Writable) (rightWritable : right.Writable) :
    Lexeme (left.spelling.toList ++ right.spelling.toList) ∨
      (left = .symbol .assign ∧ right = .symbol .equals) := by
  rcases merges with ⟨leftWord, rightWord⟩ | ⟨leftWord, rightInt⟩ | ⟨leftInt, rightInt⟩ |
    ⟨rfl, rfl⟩ | both
  · exact .inl (.word ((leftWritable.isWord_spelling leftWord).append
      (rightWritable.isWord_spelling rightWord).isAlphanum))
  · exact .inl (.word ((leftWritable.isWord_spelling leftWord).append
      (rightWritable.isNumber_spelling rightInt).isAlphanum))
  · exact .inl (.number ((leftWritable.isNumber_spelling leftInt).append
      (rightWritable.isNumber_spelling rightInt)))
  · exact .inl (.symbol .equals)
  · exact .inr both

end Token

theorem Lexer.Laid.writable {before text : List Char} {tokens : List Located}
    (laid : Laid before text tokens) : ∀ located ∈ tokens, located.token.Writable := by
  induction laid with
  | last => simp
  | token _ written _ _ ih => exact List.forall_mem_cons.mpr ⟨written.writable, ih⟩

/-- A text is tokenized if it is laid out. -/
theorem map_tokenize_eq_ok_iff {source : String} {tokens : List Token} :
    (tokenize source).map (·.map (·.token)) = .ok tokens ↔
      ∃ found, Laid [] source.toList found ∧ found.map (·.token) = tokens := by
  simp only [← tokensOf_eq_ok_iff, tokenize]
  cases tokensOf source.toList <;> simp [Except.map]

/-- Writable tokens are read again as they were written, with any separators between
them, if those that merge are kept apart; and two of those are not read again without a
separator. -/
theorem tokenize_textOf :
    (∀ (pieces : List (List Char × Token)) (last : List Char),
      (∀ piece ∈ pieces, piece.2.Writable) →
      (∀ piece ∈ pieces, Token.Separator piece.1) → Token.Separator last →
      (pieces.IsChain fun left right => left.2.Merges right.2 → right.1 ≠ []) →
      (tokenize (String.ofList (Token.textOf pieces last))).map (·.map (·.token)) =
        .ok (pieces.map (·.2))) ∧
    ∀ left right : Token, left.Writable → right.Writable → left.Merges right →
      (tokenize (left.spelling ++ right.spelling)).map (·.map (·.token)) ≠ .ok [left, right] := by
  constructor
  · intro pieces last writable separators lastSeparator apart
    rcases Token.exists_laid_textOf writable separators (lastSeparator.gap []) apart [] with
      ⟨found, laid, same⟩
    exact map_tokenize_eq_ok_iff.mpr ⟨found, by rwa [String.toList_ofList], same⟩
  · intro left right leftWritable rightWritable merges read
    rcases merges.lexeme leftWritable rightWritable with lexeme | ⟨rfl, rfl⟩
    · rcases map_tokenize_eq_ok_iff.mp read with ⟨found, laid, same⟩
      rw [String.toList_append] at laid
      have two := congrArg List.length same
      rw [List.length_map] at two
      have one := laid.length_le_one lexeme
      simp [two] at one
    · revert read
      decide

/-- A comment keeps `=` and `==` apart, and a number ends where a name starts. -/
theorem tokenize_textOf_of_comment :
    (tokenize "a=//=\n==7b\n").map (·.map (·.token)) =
      .ok [.name "a", .symbol .assign, .symbol .equals, .int 7, .name "b"] := by
  have comment : Token.Separator ('/' :: '/' :: ['='] ++ ['\n']) := .comment (by decide) .nil
  have newline : Token.Separator ['\n'] := .blank (by decide) .nil
  exact tokenize_textOf.1
    [([], .name "a"), ([], .symbol .assign), (['/', '/', '=', '\n'], .symbol .equals),
      ([], .int 7), ([], .name "b")] ['\n']
    (by decide) (by simpa [Token.Separator.nil] using comment) newline (by decide)

end VectorLang
