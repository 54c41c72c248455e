import VectorLang.Proofs.ComputedValues
import VectorLang.Proofs.ExprExtent
import VectorLang.Proofs.Joining
import VectorLang.Proofs.PrintedText

/-!
# Printed values are source text

The printed text of a value without vectors is read as an expression of that value. A
negative integer comes back as the opposite of a literal, so the least integer does not:
its digits are no literal, and a text with them cannot be read.
-/

namespace VectorLang

namespace Lexer

variable {text more rest : List Char} {tokens moreTokens : List Token} {digits : String}

/-! ## Reading the front of a text -/

/-- In front of `rest` the text, which has no line end, is read as the tokens, wherever it
stands. -/
structure ReadsAs (text rest : List Char) (tokens : List Token) : Prop where
  inLine : '\n' ∉ text
  scan (found : List Located) (before : List Char) :
    ∃ located : List Located, located.map (·.token) = tokens ∧
      scanBehind found before (text ++ rest) =
        scanBehind (located.reverse ++ found) (before ++ text) rest

/-- In front of `rest` the text leads to digits that are too large, in the line that it
stands on. -/
def Overflows (text rest : List Char) (digits : String) : Prop :=
  ∀ (found : List Located) (before : List Char),
    scanBehind found before (text ++ rest) =
      .error (.integerOutOfRange digits (lineAfter (before.count '\n')))

/-- A token is read where it does not run on. -/
theorem ReadsAs.token {token : Token} (writable : token.Writable)
    (stops : ∀ char ∈ rest.head?, ¬ token.RunsOn char) :
    ReadsAs token.spelling.toList rest [token] := by
  have written := writable.written
  obtain ⟨first, more, spelled, -⟩ := written.lexeme.exists_head
  rw [spelled] at written ⊢
  exact {
    inLine := written.lexeme.lineEnd_not_mem
    scan found before := ⟨[locate before (first :: more) token], rfl,
      scanBehind_token (piece_of_written written (written.longest stops)) written.lexeme⟩ }

/-- A symbol of one character is read alone, but for `=`. -/
theorem ReadsAs.symbol (char : Char) {mark : Symbol} (known : Symbol.ofChar? char = some mark)
    (other : mark ≠ .assign) : ReadsAs [char] rest [.symbol mark] := by
  rw [← Symbol.spelling_of_ofChar? known]
  have writable : (Token.symbol mark).Writable := trivial
  exact .token writable fun _ _ runs => other runs.1

theorem ReadsAs.append (reads : ReadsAs text (more ++ rest) tokens)
    (readsMore : ReadsAs more rest moreTokens) :
    ReadsAs (text ++ more) rest (tokens ++ moreTokens) where
  inLine := by simp [reads.inLine, readsMore.inLine]
  scan found before := by
    obtain ⟨located, rfl, scanned⟩ := reads.scan found before
    obtain ⟨moreLocated, rfl, scannedMore⟩ :=
      readsMore.scan (located.reverse ++ found) (before ++ text)
    refine ⟨located ++ moreLocated, List.map_append, ?_⟩
    rw [List.append_assoc, scanned, scannedMore]
    simp

/-- What is read in front of the digits changes nothing. -/
theorem Overflows.behind (overflows : Overflows more rest digits)
    (reads : ReadsAs text (more ++ rest) tokens) : Overflows (text ++ more) rest digits := by
  intro found before
  obtain ⟨located, -, scanned⟩ := reads.scan found before
  rw [List.append_assoc, scanned, overflows, List.count_append,
    List.count_eq_zero.mpr reads.inLine, Nat.add_zero]

/-- What follows the digits is not reached. -/
theorem Overflows.append (overflows : Overflows text (more ++ rest) digits) :
    Overflows (text ++ more) rest digits := by
  intro found before
  rw [List.append_assoc, overflows]

/-- A number that is too large is taken up as a whole. -/
theorem piece_of_tooLarge {first : Char} (number : IsNumber (first :: more))
    (ends : Text.EndsRun Char.isDigit rest)
    (large : Token.maxInt < Nat.ofDigitChars 10 (first :: more) 0) :
    piece first (more ++ rest) =
      (.tooLarge (String.ofList (first :: more)), more.length) := by
  have solid : isBlank first = false := (head_of_isAlphanum (isAlphanum_of_isDigit number.1)).1
  simp [piece, solid, number.1, takeWhile_run number.2 ends, Piece.ofDigits, large]

theorem Overflows.number (number : IsNumber text) (ends : Text.EndsRun Char.isDigit rest)
    (large : Token.maxInt < Nat.ofDigitChars 10 text 0) :
    Overflows text rest (String.ofList text) := by
  obtain ⟨first, more, rfl, -⟩ := number.exists_head
  exact fun found before => scanBehind_tooLarge (piece_of_tooLarge number ends large)

/-- A whole text that is read is tokenized. -/
theorem ReadsAs.tokenize {source : String} (reads : ReadsAs source.toList [] tokens) :
    ∃ located : List Located, located.map (·.token) = tokens ∧
      tokenize source = .ok located := by
  obtain ⟨located, same, scanned⟩ := reads.scan [] []
  simp only [List.append_nil, scanBehind_nil, List.reverse_reverse] at scanned
  exact ⟨located, same, scanned⟩

end Lexer

/-! ## Literals -/

/-- Where words end, numbers do. -/
theorem Text.EndsRun.number {rest : List Char} (ends : EndsRun Char.isAlphanum rest) :
    EndsRun Char.isDigit rest := by
  intro char behind
  have other := ends char behind
  rw [Char.isAlphanum, Bool.or_eq_false_iff] at other
  exact other.2

namespace Value

open Lexer Text

/-- No part of the value is a vector. -/
def VectorFree : Value → Prop
  | .int _ | .bool _ => True
  | .pair first second => first.VectorFree ∧ second.VectorFree
  | .vector _ => False

instance decidableVectorFree : DecidablePred VectorFree
  | .int _ | .bool _ => inferInstanceAs (Decidable True)
  | .pair first second =>
      have := decidableVectorFree first
      have := decidableVectorFree second
      inferInstanceAs (Decidable (first.VectorFree ∧ second.VectorFree))
  | .vector _ => inferInstanceAs (Decidable False)

/-- All integers in the value, those of vectors too. -/
def integers : Value → List Int32
  | .int value => [value]
  | .bool _ => []
  | .pair first second => first.integers ++ second.integers
  | .vector elements => elements

/-- The value is written with literals: as the tokens, which spell the expression. -/
inductive Literal : Value → List Token → Expr → Prop where
  | natural {value : Int32} :
      0 ≤ value.toInt → Literal (.int value) [.int value] (.int value)
  /-- A negative integer is the opposite of a literal. -/
  | negative {value : Int32} :
      0 < value.toInt →
      Literal (.int (-value)) [.symbol .minus, .int value] (.unary .negate (.int value))
  | bool (value : Bool) : Literal (.bool value) [.bool value] (.bool value)
  | pair {first second : Value} {firstTokens secondTokens : List Token}
      {firstExpr secondExpr : Expr} :
      Literal first firstTokens firstExpr → Literal second secondTokens secondExpr →
      Literal (.pair first second)
        (.symbol .leftParen :: (firstTokens ++ .symbol .comma :: secondTokens) ++
          [.symbol .rightParen])
        (.binary .pair firstExpr secondExpr)

/-- Only the least integer has no opposite. -/
theorem toInt_neg_of_ne {value : Int32} (other : value ≠ Int32.minValue) :
    (-value).toInt = -value.toInt := by
  have least := value.le_toInt
  have most := value.toInt_lt
  have above : value.toInt ≠ -2 ^ 31 := fun equal =>
    other (Int32.toInt_inj.mp (equal.trans Int32.toInt_minValue.symm))
  rw [Int32.toInt_neg]
  exact Int.bmod_eq_of_le (by omega) (by omega)

theorem readsAs_intText {value : Int32} {rest : List Char} (natural : 0 ≤ value.toInt)
    (ends : EndsRun Char.isDigit rest) : ReadsAs (intText value).toList rest [.int value] := by
  have writable : (Token.int value).Writable := natural
  exact .token writable fun char behind => by simp [Token.RunsOn, ends char behind]

/-- A sign in front of a positive integer makes the text of its opposite. -/
theorem toList_intText_neg {value : Int32} (positive : 0 < value.toInt) :
    (intText (-value)).toList = '-' :: (intText value).toList := by
  obtain ⟨count, valued⟩ := Int.eq_ofNat_of_zero_le (Int.le_of_lt positive)
  have other : value ≠ Int32.minValue := by
    rintro rfl
    exact absurd positive (by decide)
  have opposite : (-value).toInt = -count := by rw [toInt_neg_of_ne other, valued]
  rw [toList_intText_of_negative (by omega) opposite, toList_intText_of_natural valued]

theorem toList_text_pair (first second : Value) :
    (pair first second).text.toList =
      '(' :: (first.text.toList ++ ',' :: (second.text.toList ++ [')'])) :=
  (List.append_nil _).symm.trans (text_pair_append first second [])

/-- A value without vectors is written with literals, if the least integer is not in it. -/
theorem exists_literal {value : Value} (free : value.VectorFree)
    (fits : Int32.minValue ∉ value.integers) : ∃ tokens expr, value.Literal tokens expr := by
  induction value with
  | int value =>
      by_cases natural : 0 ≤ value.toInt
      · exact ⟨_, _, .natural natural⟩
      · have opposite := toInt_neg_of_ne fun least => fits (least ▸ List.mem_singleton_self value)
        have literal : Literal (.int (- -value)) _ _ := .negative (by omega)
        rw [Int32.neg_neg] at literal
        exact ⟨_, _, literal⟩
  | bool value => exact ⟨_, _, .bool value⟩
  | pair first second firstIH secondIH =>
      rw [integers, List.mem_append, not_or] at fits
      obtain ⟨_, _, firstLiteral⟩ := firstIH free.1 fits.1
      obtain ⟨_, _, secondLiteral⟩ := secondIH free.2 fits.2
      exact ⟨_, _, .pair firstLiteral secondLiteral⟩
  | vector => exact free.elim

namespace Literal

variable {value : Value} {tokens : List Token} {expr : Expr}

/-- Literals are operands: a pair has parentheses around it. -/
theorem spelled (literal : value.Literal tokens expr) :
    expr.Spelled Expr.atomLevel tokens := by
  induction literal with
  | natural => exact .int _
  | negative => exact .unary .negate (.int _)
  | bool value => exact .bool value
  | pair _ _ first second =>
      exact .paren (.binary .pair (first.lower (by decide) (by decide))
        (second.lower (by decide) (by decide)))

theorem denotes (literal : value.Literal tokens expr) : expr.Denotes value := by
  induction literal with
  | natural natural => exact Expr.denotes_int (Int32.le_iff_toInt_le.mpr natural)
  | negative positive =>
      exact (Expr.denotes_int (Int32.le_iff_toInt_le.mpr (Int.le_of_lt positive))).negate
  | bool value => exact ⟨fun _ => rfl, fun _ => rfl, trivial⟩
  | pair _ _ first second => exact first.binary second rfl (.pair _ _)

/-- The text is read as the literals, in front of what goes on with no word and no number. -/
theorem readsAs (literal : value.Literal tokens expr) {rest : List Char}
    (ends : EndsRun Char.isAlphanum rest) : ReadsAs value.text.toList rest tokens := by
  induction literal generalizing rest with
  | natural natural => exact readsAs_intText natural ends.number
  | negative positive =>
      rw [text, toList_intText_neg positive]
      exact (ReadsAs.symbol '-' rfl (by decide)).append
        (readsAs_intText (Int.le_of_lt positive) ends.number)
  | bool value =>
      have reads : ReadsAs (Token.bool value).spelling.toList rest [.bool value] :=
        .token trivial fun char behind => by simp [Token.RunsOn, ends char behind]
      cases value <;> exact reads
  | pair _ _ first second =>
      have reads := (ReadsAs.symbol '(' rfl (by decide)).append <|
        (first (endsRun_cons (by decide) _)).append <|
        (ReadsAs.symbol ',' rfl (by decide)).append <|
        (second (endsRun_cons (by decide) rest)).append <|
        ReadsAs.symbol ')' rfl (by decide)
      rw [toList_text_pair]
      simpa using reads

end Literal

/-- The least integer ends the reading of a value without vectors. -/
theorem overflows {value : Value} {rest : List Char} (free : value.VectorFree)
    (least : Int32.minValue ∈ value.integers) (ends : EndsRun Char.isAlphanum rest) :
    Overflows value.text.toList rest "2147483648" := by
  induction value generalizing rest with
  | int value =>
      cases List.mem_singleton.mp least
      have printed : (intText Int32.minValue).toList = '-' :: Nat.toDigits 10 2147483648 :=
        toList_intText_of_negative (by decide) (by decide)
      have large : Token.maxInt < Nat.ofDigitChars 10 (Nat.toDigits 10 2147483648) 0 := by
        rw [Nat.ofDigitChars_ten_toDigits]
        decide
      rw [text, printed]
      exact (Overflows.number (Token.isNumber_toDigits _) ends.number large).behind
        (.symbol '-' rfl (by decide))
  | bool => cases least
  | pair first second firstIH secondIH =>
      rw [toList_text_pair]
      refine Overflows.behind ?_ (.symbol '(' rfl (by decide))
      by_cases inFirst : Int32.minValue ∈ first.integers
      · exact (firstIH free.1 inFirst (endsRun_cons (by decide) _)).append
      · obtain ⟨_, _, literal⟩ := exists_literal free.1 inFirst
        have inSecond := (List.mem_append.mp least).resolve_left inFirst
        refine Overflows.behind ?_ (literal.readsAs (endsRun_cons (by decide) _))
        refine Overflows.behind ?_ (.symbol ',' rfl (by decide))
        exact (secondIH free.2 inSecond (endsRun_cons (by decide) _)).append
  | vector => exact free.elim

end Value

/-- The printed text of a value without vectors is read as an expression that computes the
value and has its type, wherever it stands, and nothing is left of the text behind it; but if
the least integer is in the value, its digits cannot be read. -/
theorem printed_text_denotes {value : Value} (free : value.VectorFree) :
    (Int32.minValue ∉ value.integers →
      ∃ tokens expr, tokenize value.text = .ok tokens ∧
        Expr.ofTokens tokens = .ok (expr, tokens.length) ∧
        (∀ env, expr.eval env = .ok value) ∧ ∀ types, expr.typeIn types = .ok value.ty) ∧
      (Int32.minValue ∈ value.integers →
        tokenize value.text = .error (.integerOutOfRange "2147483648" 1)) := by
  have ends := Text.endsRun_nil Char.isAlphanum
  constructor
  · intro fits
    obtain ⟨_, expr, literal⟩ := Value.exists_literal free fits
    obtain ⟨tokens, rfl, read⟩ := (literal.readsAs ends).tokenize
    have spelled := literal.spelled.lower (Nat.le_refl 1) (by decide)
    have whole : Expr.ofTokens tokens = .ok (expr, tokens.length) :=
      Expr.ofTokens_eq_ok_iff.mpr ⟨tokens, [], (List.append_nil _).symm, rfl, spelled, by simp⟩
    exact ⟨tokens, expr, read, whole, literal.denotes.eval, literal.denotes.typed⟩
  · intro least
    have fails := Value.overflows free least ends [] []
    rwa [List.append_nil] at fails

/-- A pair in a pair is read again with its negative integers, and the least integer is not
read behind a comma. -/
theorem printed_text_denotes_of_negative :
    (∃ tokens expr, tokenize "((-7,true),-2147483647)" = .ok tokens ∧
      Expr.ofTokens tokens = .ok (expr, tokens.length) ∧
      (∀ env, expr.eval env =
        .ok (.pair (.pair (.int (-7)) (.bool true)) (.int (-2147483647)))) ∧
      ∀ types, expr.typeIn types = .ok (.pair (.pair .int .bool) .int)) ∧
    tokenize "(0,-2147483648)" = .error (.integerOutOfRange "2147483648" 1) := by
  constructor
  · have free : (Value.pair (.pair (.int (-7)) (.bool true)) (.int (-2147483647))).VectorFree := by
      decide
    exact (printed_text_denotes free).1 (by decide)
  · have free : (Value.pair (.int 0) (.int Int32.minValue)).VectorFree := by decide
    exact (printed_text_denotes free).2 (by decide)

end VectorLang
