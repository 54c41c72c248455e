import VectorLang.Proofs.Lexeme

/-!
# Reading text by its lexemes

A text is laid out as tokens if it consists of gaps and of the longest lexemes between
them. The reader finds the tokens of a text exactly where it is laid out so, each with its
place: the bytes and the line ends before it.
-/

namespace VectorLang

namespace Lexer

/-! ## Gaps -/

/-- Space, tab, carriage return, line feed and form feed. -/
def spaces : List Char :=
  [' ', '\t', '\r', '\n', '\x0c']

theorem isBlank_iff {char : Char} : isBlank char ↔ char ∈ spaces := by
  simp [isBlank, spaces, or_assoc]

/-- A comment ends with its line, or with the text. -/
def EndsLine (rest : List Char) : Prop :=
  ∀ char ∈ rest.head?, char = '\n'

/-- White space and comments before the text `rest`. -/
inductive Gap : List Char → List Char → Prop where
  | nil (rest : List Char) : Gap [] rest
  | blank {char : Char} {gap rest : List Char} :
      char ∈ spaces → Gap gap rest → Gap (char :: gap) rest
  | comment {body gap rest : List Char} :
      '\n' ∉ body → EndsLine (gap ++ rest) → Gap gap rest →
      Gap ('/' :: '/' :: body ++ gap) rest

/-! ## Pieces -/

/-- What stands at the front of a text, before `rest`. -/
inductive Stands : Piece → List Char → List Char → Prop where
  | blank {char : Char} {rest : List Char} : isBlank char → Stands .gap [char] rest
  | comment {body rest : List Char} :
      '\n' ∉ body → EndsLine rest → Stands .gap ('/' :: '/' :: body) rest
  | token {token : Token} {text rest : List Char} :
      token.Written text → Longest text rest → Stands (.token token) text rest
  | tooLarge {text rest : List Char} :
      IsNumber text → (∀ char ∈ rest.head?, char.isDigit = false) →
      Token.maxInt < Nat.ofDigitChars 10 text 0 →
      Stands (.tooLarge (String.ofList text)) text rest
  | unknown {char : Char} {rest : List Char} :
      isBlank char = false → ¬ ['/', '/'] <+: char :: rest →
      (∀ text, Lexeme text → ¬ text <+: char :: rest) → Stands (.unknown char) [char] rest

/-- The run at the front of a text ends where the text does not go on with it. -/
theorem exists_run (p : Char → Bool) (text : List Char) :
    ∃ run rest, text = run ++ rest ∧ text.takeWhile p = run ∧ (∀ char ∈ run, p char) ∧
      ∀ char ∈ rest.head?, p char = false := by
  refine ⟨text.takeWhile p, text.dropWhile p, List.takeWhile_append_dropWhile.symm, rfl,
    List.all_eq_true.mp List.all_takeWhile, ?_⟩
  intro char behind
  have stops := List.head?_dropWhile_not p text
  rwa [Option.mem_def.mp behind] at stops

theorem takeWhile_run {p : Char → Bool} {run rest : List Char} (inside : ∀ char ∈ run, p char)
    (stops : ∀ char ∈ rest.head?, p char = false) : (run ++ rest).takeWhile p = run := by
  have none : rest.takeWhile p = [] := by
    cases rest with
    | nil => rfl
    | cons char rest => simp [stops char rfl]
  rw [List.takeWhile_append_of_pos inside, none, List.append_nil]

theorem ofDigits_stands {text rest : List Char} (number : IsNumber text)
    (stops : ∀ char ∈ rest.head?, char.isDigit = false) :
    Stands (.ofDigits text) text rest := by
  unfold Piece.ofDigits
  dsimp only
  split
  · next small =>
      refine .token (.int number (Int32.toInt_ofNat_of_lt ?_)) (number.longest stops)
      simp only [Token.maxInt] at small
      omega
  · next large => exact .tooLarge number stops (Nat.lt_of_not_le large)

theorem not_begins_pair {char first : Char} {rest : List Char}
    (other : ∀ more, first = char → rest = char :: more → False) :
    ¬ [char, char] <+: first :: rest := by
  rintro ⟨more, equal⟩
  cases equal
  exact other more rfl rfl

/-- Where no gap, word or number starts, a symbol does, or nothing. -/
theorem ofChar?_stands {first : Char} {rest : List Char} (solid : isBlank first = false)
    (symbolic : first.isAlphanum = false) (noComment : ¬ ['/', '/'] <+: first :: rest)
    (noEquals : ¬ ['=', '='] <+: first :: rest) (noAnd : ¬ ['&', '&'] <+: first :: rest) :
    Stands
      (match Symbol.ofChar? first with
        | some symbol => .token (.symbol symbol)
        | none => .unknown first)
      [first] rest := by
  cases known : Symbol.ofChar? first with
  | some mark =>
      have spelled := Symbol.spelling_of_ofChar? known
      refine .token (spelled ▸ .symbol mark) (spelled ▸ longest_spelling mark ?_)
      rintro rfl char behind rfl
      cases spelled
      cases rest with
      | nil => contradiction
      | cons next rest =>
          cases behind
          exact noEquals ⟨rest, rfl⟩
  | none =>
      refine .unknown solid noComment fun text lexeme begins => ?_
      rcases lexeme.exists_head with ⟨head, more, rfl, _⟩
      rcases List.cons_prefix_cons.mp begins with ⟨rfl, _⟩
      rcases lexeme.exists_symbol symbolic with ⟨mark, spelled⟩
      rcases mark.spelling_cases with ⟨char, single, read⟩ | rfl | rfl
      · cases spelled.symm.trans single
        rw [known] at read
        contradiction
      · cases spelled
        exact noEquals begins
      · cases spelled
        exact noAnd begins

/-- The reader takes up what stands at the front of the text. -/
theorem exists_stands (first : Char) (rest : List Char) :
    ∃ more after, rest = more ++ after ∧ (piece first rest).2 = more.length ∧
      Stands (piece first rest).1 (first :: more) after := by
  unfold piece
  split
  · next blank => exact ⟨[], rest, rfl, rfl, .blank blank⟩
  · next solid =>
      split
      · next digit =>
          rcases exists_run Char.isDigit rest with ⟨run, after, rfl, taken, inside, stops⟩
          rw [taken]
          exact ⟨run, after, rfl, rfl, ofDigits_stands ⟨digit, inside⟩ stops⟩
      · next noDigit =>
          split
          · next letter =>
              rcases exists_run Char.isAlphanum rest with ⟨run, after, rfl, taken, inside, stops⟩
              have word : IsWord (first :: run) := ⟨letter, inside⟩
              rw [taken]
              exact ⟨run, after, rfl, rfl, .token (Token.written_ofWord word) (word.longest stops)⟩
          · next noLetter =>
              split
              · next rest =>
                  rcases exists_run (· != '\n') rest with ⟨body, after, rfl, taken, inside, stops⟩
                  refine ⟨'/' :: body, after, rfl, by simp [taken], .comment ?_ ?_⟩
                  · intro member
                    simpa using inside _ member
                  · intro char behind
                    simpa using stops char behind
              · next rest =>
                  exact ⟨['='], rest, rfl, rfl,
                    .token (.symbol .equals) (longest_spelling .equals (by simp))⟩
              · next rest =>
                  exact ⟨['&'], rest, rfl, rfl,
                    .token (.symbol .bothAnd) (longest_spelling .bothAnd (by simp))⟩
              · next noComment noEquals noAnd =>
                  have stands := ofChar?_stands (by simpa using solid)
                    (by simp [Char.isAlphanum, noDigit, noLetter])
                    (not_begins_pair noComment) (not_begins_pair noEquals) (not_begins_pair noAnd)
                  refine ⟨[], rest, rfl, ?_, ?_⟩
                  · cases Symbol.ofChar? first <;> rfl
                  · cases known : Symbol.ofChar? first <;> simpa [known] using stands

/-- Every text is read piece by piece. -/
@[elab_as_elim]
theorem pieces_induction {motive : List Char → Prop} (nil : motive [])
    (cons : ∀ first more after found, piece first (more ++ after) = (found, more.length) →
      Stands found (first :: more) after → motive after → motive (first :: more ++ after))
    (text : List Char) : motive text := by
  -- a piece may have many characters, so the induction is on the length of the text
  induction counted : text.length using Nat.strongRecOn generalizing text with
  | ind length ih =>
    cases text with
    | nil => exact nil
    | cons first rest =>
        rcases exists_stands first rest with ⟨more, after, rfl, measured, stands⟩
        have shorter : after.length < length := by
          rw [← counted, List.length_cons, List.length_append]
          omega
        exact cons first more after _ (Prod.ext rfl measured) stands (ih _ shorter after rfl)

theorem piece_of_isBlank {char : Char} (blank : isBlank char) (rest : List Char) :
    piece char rest = (.gap, 0) :=
  if_pos blank

theorem piece_comment {body rest : List Char} (inLine : '\n' ∉ body) (ends : EndsLine rest) :
    piece '/' ('/' :: body ++ rest) = (.gap, ('/' :: body).length) := by
  have inside : ∀ char ∈ '/' :: body, (char != '\n') = true := by
    intro char member
    rcases List.mem_cons.mp member with rfl | member
    · decide
    · have inBody : char ≠ '\n' := fun equal => inLine (equal ▸ member)
      simpa using inBody
  have stops : ∀ char ∈ rest.head?, (char != '\n') = false := by
    intro char behind
    simp [ends char behind]
  change (Piece.gap, (('/' :: body ++ rest).takeWhile (· != '\n')).length) = _
  rw [takeWhile_run inside stops]

/-- A token is taken up if it is written at the front and no longer lexeme is. -/
theorem piece_of_written {token : Token} {first : Char} {more rest : List Char}
    (written : token.Written (first :: more)) (longest : Longest (first :: more) rest) :
    piece first (more ++ rest) = (.token token, more.length) := by
  rcases exists_stands first (more ++ rest) with ⟨taken, after, split, measured, stands⟩
  rcases written.lexeme.exists_head with ⟨_, _, same, solid, noSlash⟩
  cases same
  have whole : first :: more ++ rest = first :: taken ++ after := congrArg (first :: ·) split
  generalize piece first (more ++ rest) = found at measured stands ⊢
  rcases found with ⟨found, count⟩
  dsimp only at measured stands
  subst measured
  cases stands with
  | blank blank =>
      rw [solid] at blank
      contradiction
  | comment => contradiction
  | token otherWritten otherLongest =>
      cases longest.unique written.lexeme otherLongest otherWritten.lexeme whole
      rw [written.unique otherWritten]
  | tooLarge number stops large =>
      cases longest.unique written.lexeme (number.longest stops) (.number number) whole
      exact absurd (written.le_maxInt number) (Nat.not_le_of_lt large)
  | unknown _ _ none =>
      have begins : first :: more <+: [first] ++ after := whole ▸ List.prefix_append _ rest
      exact absurd begins (none _ written.lexeme)

/-! ## Reading on -/

/-- Read on behind the text `before`. -/
def scanBehind (tokens : List Located) (before text : List Char) :
    Except LexError (List Located) :=
  scan tokens 0 (String.utf8Len before) (before.count '\n') text

/-- The token with its place, written as the text behind `before`. -/
def locate (before text : List Char) (token : Token) : Located where
  token := token
  start := String.utf8Len before
  stop := String.utf8Len (before ++ text)
  line := lineAfter (before.count '\n')

theorem utf8Len_eq_length {text : List Char} (singles : ∀ char ∈ text, char.utf8Size = 1) :
    String.utf8Len text = text.length := by
  induction text with
  | nil => rfl
  | cons char rest ih =>
      rcases List.forall_mem_cons.mp singles with ⟨single, singles⟩
      rw [String.utf8Len_cons, ih singles, single, List.length_cons]

theorem scan_skip (tokens : List Located) (offset newlines : Nat) (more rest : List Char) :
    scan tokens more.length offset newlines (more ++ rest) =
      scan tokens 0 (offset + String.utf8Len more) (newlines + more.count '\n') rest := by
  induction more generalizing offset newlines with
  | nil => rfl
  | cons char more ih =>
      rw [List.cons_append, List.length_cons, scan, ih]
      congr 1
      · rw [String.utf8Len_cons]
        omega
      · rw [List.count_cons]
        split <;> simp [*]
        omega

/-- Behind its first character, a piece is skipped. -/
theorem scan_piece (tokens : List Located) (before : List Char) (first : Char)
    (more rest : List Char) :
    scan tokens more.length (String.utf8Len before + first.utf8Size)
        (if first = '\n' then before.count '\n' + 1 else before.count '\n') (more ++ rest) =
      scanBehind tokens (before ++ first :: more) rest := by
  rw [scan_skip, scanBehind]
  congr 1
  · rw [String.utf8Len_append, String.utf8Len_cons]
    omega
  · rw [List.count_append, List.count_cons]
    split <;> simp [*]
    omega

variable {tokens : List Located} {before : List Char} {first : Char} {more rest : List Char}

theorem scanBehind_gap (taken : piece first (more ++ rest) = (.gap, more.length)) :
    scanBehind tokens before (first :: more ++ rest) =
      scanBehind tokens (before ++ first :: more) rest := by
  rw [← scan_piece, scanBehind, List.cons_append, scan, taken]

theorem scanBehind_token {token : Token}
    (taken : piece first (more ++ rest) = (.token token, more.length))
    (lexeme : Lexeme (first :: more)) :
    scanBehind tokens before (first :: more ++ rest) =
      scanBehind (locate before (first :: more) token :: tokens) (before ++ first :: more)
        rest := by
  rcases List.forall_mem_cons.mp lexeme.utf8Size_eq with ⟨single, singles⟩
  have place : locate before (first :: more) token =
      ⟨token, String.utf8Len before, String.utf8Len before + first.utf8Size + more.length,
        lineAfter (before.count '\n')⟩ := by
    simp [locate, utf8Len_eq_length singles, single]
    omega
  rw [← scan_piece, scanBehind, List.cons_append, scan, taken, place]

theorem scanBehind_unknown {char : Char} {count : Nat}
    (taken : piece first rest = (.unknown char, count)) :
    scanBehind tokens before (first :: rest) =
      .error (.invalidCharacter char (lineAfter (before.count '\n'))) := by
  rw [scanBehind, scan, taken]

theorem scanBehind_tooLarge {digits : String} {count : Nat}
    (taken : piece first rest = (.tooLarge digits, count)) :
    scanBehind tokens before (first :: rest) =
      .error (.integerOutOfRange digits (lineAfter (before.count '\n'))) := by
  rw [scanBehind, scan, taken]

theorem scanBehind_nil (tokens : List Located) (before : List Char) :
    scanBehind tokens before [] = .ok tokens.reverse := rfl

/-! ## Laid out texts -/

/-- The text behind `before` is laid out as the tokens. -/
inductive Laid : List Char → List Char → List Located → Prop where
  | last {before gap : List Char} : Gap gap [] → Laid before gap []
  | token {before gap text rest : List Char} {token : Token} {tokens : List Located} :
      Gap gap (text ++ rest) → token.Written text → Longest text rest →
      Laid (before ++ gap ++ text) rest tokens →
      Laid before (gap ++ text ++ rest) (locate (before ++ gap) text token :: tokens)

/-- An empty text has no tokens. -/
theorem Laid.eq_nil {text : List Char} (laid : Laid before text tokens) (empty : text = []) :
    tokens = [] := by
  cases laid with
  | last => rfl
  | token _ written =>
      rcases written.lexeme.exists_head with ⟨first, more, rfl, _⟩
      simp at empty

/-- A text that is one lexeme has one token at most. -/
theorem Laid.length_le_one {text : List Char} (laid : Laid before text tokens)
    (lexeme : Lexeme text) : tokens.length ≤ 1 := by
  cases laid with
  | last => exact Nat.zero_le 1
  | @token _ gap text rest token tokens inner written longest laid =>
      rcases lexeme.exists_head with ⟨first, more, whole, solid, noSlash⟩
      -- a lexeme does not start with a gap, so the first token starts where the text does,
      -- and its lexeme is no shorter than the text
      cases inner with
      | nil =>
          have shorter := longest _ lexeme List.prefix_rfl
          have behind : rest = [] := by simpa using shorter
          simp [laid.eq_nil behind]
      | blank blank =>
          cases whole
          simp [isBlank_iff.mpr blank] at solid
      | comment =>
          cases whole
          contradiction

/-- A gap may grow at its front. -/
theorem Laid.grow {piece text : List Char} (laid : Laid (before ++ piece) text tokens)
    (grows : ∀ gap rest, gap ++ rest = text → Gap gap rest → Gap (piece ++ gap) rest) :
    Laid before (piece ++ text) tokens := by
  cases laid with
  | last gap => exact .last (grows _ _ (List.append_nil _) gap)
  | token gap written longest laid =>
      have grown := grows _ _ (List.append_assoc _ _ _).symm gap
      rw [← List.append_assoc, ← List.append_assoc, List.append_assoc before]
      exact .token grown written longest (by simpa only [List.append_assoc] using laid)

/-- A token may stand in front, without a gap. -/
theorem Laid.follow {text : List Char} {token : Token} (laid : Laid (before ++ text) rest tokens)
    (written : token.Written text) (longest : Longest text rest) :
    Laid before (text ++ rest) (locate before text token :: tokens) := by
  have whole := Laid.token (.nil (text ++ rest)) written longest
    (by rwa [List.append_nil before])
  rwa [List.append_nil, List.nil_append] at whole

/-- What is taken up as a gap makes a gap longer. -/
theorem gap_of_stands {piece after gap rest : List Char} (stands : Stands .gap piece after)
    (whole : gap ++ rest = after) (inner : Gap gap rest) : Gap (piece ++ gap) rest := by
  subst whole
  cases stands with
  | blank blank => exact .blank (isBlank_iff.mp blank) inner
  | comment inLine ends => exact .comment inLine ends inner

/-- A text that was read is laid out as the tokens. -/
theorem laid_of_scan {text : List Char} {result : List Located}
    (read : scanBehind tokens before text = .ok result) :
    ∃ found, Laid before text found ∧ result = tokens.reverse ++ found := by
  induction text using pieces_induction generalizing tokens before with
  | nil =>
      cases read
      exact ⟨[], .last (.nil []), (List.append_nil _).symm⟩
  | cons first more after found taken stands ih =>
      cases found with
      | gap =>
          rw [scanBehind_gap taken] at read
          rcases ih read with ⟨found, laid, equal⟩
          exact ⟨found, laid.grow fun _ _ => gap_of_stands stands, equal⟩
      | token token =>
          cases stands with
          | token written longest =>
              rw [scanBehind_token taken written.lexeme] at read
              rcases ih read with ⟨found, laid, rfl⟩
              exact ⟨_, laid.follow written longest, by simp⟩
      | unknown =>
          rw [List.cons_append, scanBehind_unknown taken] at read
          contradiction
      | tooLarge =>
          rw [List.cons_append, scanBehind_tooLarge taken] at read
          contradiction

/-- A gap is passed over. -/
theorem scanBehind_of_gap {gap rest : List Char} (inner : Gap gap rest) (tokens : List Located)
    (before : List Char) :
    scanBehind tokens before (gap ++ rest) = scanBehind tokens (before ++ gap) rest := by
  induction inner generalizing before with
  | nil rest => rw [List.append_nil, List.nil_append]
  | @blank char gap rest blank inner ih =>
      have taken : piece char ([] ++ (gap ++ rest)) = (.gap, 0) :=
        piece_of_isBlank (isBlank_iff.mpr blank) _
      have step : scanBehind tokens before ([char] ++ (gap ++ rest)) =
          scanBehind tokens (before ++ [char]) (gap ++ rest) := scanBehind_gap taken
      rw [← List.singleton_append, List.append_assoc, step, ih, List.append_assoc]
  | @comment body gap rest inLine ends inner ih =>
      have step : scanBehind tokens before ('/' :: '/' :: body ++ (gap ++ rest)) =
          scanBehind tokens (before ++ '/' :: '/' :: body) (gap ++ rest) :=
        scanBehind_gap (piece_comment inLine ends)
      rw [List.append_assoc, step, ih, List.append_assoc]

/-- A text that is laid out as the tokens is read so. -/
theorem scan_of_laid {text : List Char} {found : List Located} (laid : Laid before text found)
    (tokens : List Located) : scanBehind tokens before text = .ok (tokens.reverse ++ found) := by
  induction laid generalizing tokens with
  | @last before gap inner =>
      have passed := scanBehind_of_gap inner tokens before
      rw [List.append_nil] at passed
      rw [passed, scanBehind_nil, List.append_nil]
  | @token before gap text rest token found inner written longest laid ih =>
      rcases written.lexeme.exists_head with ⟨first, more, rfl, _⟩
      rw [List.append_assoc, scanBehind_of_gap inner,
        scanBehind_token (piece_of_written written longest) written.lexeme, ih]
      simp

/-- A text is read as the tokens that it is laid out as. -/
theorem tokensOf_eq_ok_iff {text : List Char} {tokens : List Located} :
    tokensOf text = .ok tokens ↔ Laid [] text tokens := by
  constructor
  · intro read
    have behind : scanBehind [] [] text = .ok tokens := read
    rcases laid_of_scan behind with ⟨found, laid, rfl⟩
    exact laid
  · intro laid
    exact scan_of_laid laid []

end Lexer

end VectorLang
