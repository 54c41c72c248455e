import Mathlib.Data.String.Basic
import VectorLang.Token.Lexer

/-!
# Lexemes

The texts that tokens are written as, independently of any reading: symbols, numbers
(runs of digits of any length) and words. A reserved word is written like a name, and
is never one.

A lexeme is read up to its longest form. Whether the text behind it makes it longer shows
at the first character there, which depends on the token alone.
-/

namespace VectorLang

/-! ## Symbols -/

namespace Symbol

/-- The symbol that is written as `text`. -/
def ofText? : List Char → Option Symbol
  | ['=', '='] => some .equals
  | ['&', '&'] => some .bothAnd
  | [char] => ofChar? char
  | _ => none

theorem ofText?_spelling (mark : Symbol) : ofText? mark.spelling.toList = some mark := by
  cases mark <;> rfl

theorem spelling_of_ofChar? {char : Char} {mark : Symbol} (known : ofChar? char = some mark) :
    mark.spelling.toList = [char] := by
  unfold ofChar? at known
  split at known <;> cases known <;> rfl

/-- A symbol has one character, but for `==` and `&&`. -/
theorem spelling_cases (mark : Symbol) :
    (∃ char, mark.spelling.toList = [char] ∧ ofChar? char = some mark) ∨
      mark = .equals ∨ mark = .bothAnd := by
  cases mark with
  | equals => exact .inr (.inl rfl)
  | bothAnd => exact .inr (.inr rfl)
  | assign | minus | plus | star | bang | semicolon | comma | leftParen | rightParen
    | leftBrace | rightBrace | leftBracket | rightBracket => exact .inl ⟨_, rfl, rfl⟩

/-- No symbol starts like a word, a number, a gap or a comment. -/
theorem head_spelling (mark : Symbol) :
    ∃ first rest, mark.spelling.toList = first :: rest ∧ first.isAlphanum = false ∧
      Lexer.isBlank first = false ∧ first ≠ '/' := by
  cases mark <;> exact ⟨_, _, rfl, by decide, by decide, by decide⟩

end Symbol

/-! ## Words and numbers -/

/-- The words that are no names. -/
def Name.reserved : List Name :=
  ["print", "var", "if", "else", "fst", "snd", "foreach", "in", "true", "false"]

theorem Name.reserved_eq :
    Name.reserved = Keyword.all.map Keyword.spelling ++ ["true", "false"] := rfl

namespace Lexer

/-- A word is a letter with letters and digits behind it. -/
def IsWord : List Char → Prop
  | [] => False
  | first :: rest => first.isAlpha ∧ ∀ char ∈ rest, char.isAlphanum

/-- A number is a run of digits. -/
def IsNumber : List Char → Prop
  | [] => False
  | first :: rest => first.isDigit ∧ ∀ char ∈ rest, char.isDigit

-- The characters of the word are tested one by one; the general instance for `∀` would
-- go through all characters there are.
instance : DecidablePred IsWord
  | [] => inferInstanceAs (Decidable False)
  | first :: rest =>
      decidable_of_iff (first.isAlpha && rest.all Char.isAlphanum) (by simp [IsWord])

theorem isAlphanum_of_isAlpha {char : Char} (letter : char.isAlpha) : char.isAlphanum := by
  rw [Char.isAlphanum, letter, Bool.true_or]

theorem isAlphanum_of_isDigit {char : Char} (digit : char.isDigit) : char.isAlphanum := by
  rw [Char.isAlphanum, digit, Bool.or_true]

theorem isAlpha_of_isDigit {char : Char} (digit : char.isDigit) : char.isAlpha = false := by
  delta Char.isDigit at digit
  delta Char.isAlpha Char.isUpper Char.isLower
  grind

theorem IsWord.exists_head {text : List Char} (word : IsWord text) :
    ∃ first rest, text = first :: rest ∧ first.isAlpha := by
  cases text with
  | nil => exact word.elim
  | cons first rest => exact ⟨first, rest, rfl, word.1⟩

theorem IsNumber.exists_head {text : List Char} (number : IsNumber text) :
    ∃ first rest, text = first :: rest ∧ first.isDigit := by
  cases text with
  | nil => exact number.elim
  | cons first rest => exact ⟨first, rest, rfl, number.1⟩

theorem IsWord.isAlphanum {text : List Char} (word : IsWord text) :
    ∀ char ∈ text, char.isAlphanum := by
  rcases word.exists_head with ⟨first, rest, rfl, letter⟩
  exact List.forall_mem_cons.mpr ⟨isAlphanum_of_isAlpha letter, word.2⟩

theorem IsNumber.isAlphanum {text : List Char} (number : IsNumber text) :
    ∀ char ∈ text, char.isAlphanum := by
  rcases number.exists_head with ⟨first, rest, rfl, _⟩
  have digits : ∀ char ∈ first :: rest, char.isDigit := List.forall_mem_cons.mpr number
  exact fun char member => isAlphanum_of_isDigit (digits char member)

theorem IsWord.append {text rest : List Char} (word : IsWord text)
    (more : ∀ char ∈ rest, char.isAlphanum) : IsWord (text ++ rest) := by
  rcases word.exists_head with ⟨first, letters, rfl, letter⟩
  exact ⟨letter, List.forall_mem_append.mpr ⟨word.2, more⟩⟩

theorem IsNumber.append {text rest : List Char} (number : IsNumber text)
    (more : IsNumber rest) : IsNumber (text ++ rest) := by
  rcases number.exists_head with ⟨first, digits, rfl, digit⟩
  rcases more.exists_head with ⟨other, others, rfl, _⟩
  exact ⟨digit, List.forall_mem_append.mpr ⟨number.2, List.forall_mem_cons.mpr more⟩⟩

theorem IsWord.not_isNumber {text : List Char} (word : IsWord text) : ¬ IsNumber text := by
  cases text with
  | nil => exact word.elim
  | cons first rest =>
      intro number
      have letter := word.1
      rw [isAlpha_of_isDigit number.1] at letter
      contradiction

theorem not_isWord_spelling (mark : Symbol) : ¬ IsWord mark.spelling.toList := by
  rcases mark.head_spelling with ⟨first, rest, spelled, other, _⟩
  intro word
  rw [spelled] at word
  rw [isAlphanum_of_isAlpha word.1] at other
  contradiction

theorem not_isNumber_spelling (mark : Symbol) : ¬ IsNumber mark.spelling.toList := by
  rcases mark.head_spelling with ⟨first, rest, spelled, other, _⟩
  intro number
  rw [spelled] at number
  rw [isAlphanum_of_isDigit number.1] at other
  contradiction

theorem head_of_isAlphanum {char : Char} (alphanum : char.isAlphanum) :
    isBlank char = false ∧ char ≠ '/' := by
  constructor
  · by_contra blank
    simp only [isBlank, Bool.not_eq_false, Bool.or_eq_true, beq_iff_eq] at blank
    rcases blank with (((rfl | rfl) | rfl) | rfl) | rfl <;> contradiction
  · rintro rfl
    contradiction

theorem utf8Size_of_isAlphanum {char : Char} (alphanum : char.isAlphanum) :
    char.utf8Size = 1 := by
  rw [Char.utf8Size_eq_one_iff]
  delta Char.isAlphanum Char.isAlpha Char.isUpper Char.isLower Char.isDigit at alphanum
  grind

/-- The texts that tokens may be written as, whether or not a number is too large. -/
inductive Lexeme : List Char → Prop where
  | symbol (mark : Symbol) : Lexeme mark.spelling.toList
  | number {text : List Char} : IsNumber text → Lexeme text
  | word {text : List Char} : IsWord text → Lexeme text

namespace Lexeme

variable {first : Char} {rest : List Char}

theorem isWord_of_isAlpha (lexeme : Lexeme (first :: rest)) (letter : first.isAlpha) :
    IsWord (first :: rest) := by
  generalize equal : first :: rest = text at lexeme
  cases lexeme with
  | symbol mark =>
      rcases mark.head_spelling with ⟨_, _, spelled, other, _⟩
      cases equal.trans spelled
      simp [isAlphanum_of_isAlpha letter] at other
  | number number =>
      subst equal
      simp [isAlpha_of_isDigit number.1] at letter
  | word word => exact word

theorem isNumber_of_isDigit (lexeme : Lexeme (first :: rest)) (digit : first.isDigit) :
    IsNumber (first :: rest) := by
  generalize equal : first :: rest = text at lexeme
  cases lexeme with
  | symbol mark =>
      rcases mark.head_spelling with ⟨_, _, spelled, other, _⟩
      cases equal.trans spelled
      simp [isAlphanum_of_isDigit digit] at other
  | number number => exact number
  | word word =>
      subst equal
      have letter := word.1
      simp [isAlpha_of_isDigit digit] at letter

/-- What starts with neither letter nor digit is a symbol. -/
theorem exists_symbol (lexeme : Lexeme (first :: rest)) (other : first.isAlphanum = false) :
    ∃ mark : Symbol, mark.spelling.toList = first :: rest := by
  generalize equal : first :: rest = text at lexeme
  rw [Char.isAlphanum, Bool.or_eq_false_iff] at other
  cases lexeme with
  | symbol mark => exact ⟨mark, rfl⟩
  | number number =>
      subst equal
      exact absurd number.1 (by simp [other.2])
  | word word =>
      subst equal
      exact absurd word.1 (by simp [other.1])

/-- A lexeme is not empty, and starts neither a gap nor a comment. -/
theorem exists_head {text : List Char} (lexeme : Lexeme text) :
    ∃ first rest, text = first :: rest ∧ isBlank first = false ∧ first ≠ '/' := by
  cases lexeme with
  | symbol mark =>
      rcases mark.head_spelling with ⟨first, rest, spelled, _, other⟩
      exact ⟨first, rest, spelled, other⟩
  | number number =>
      rcases number.exists_head with ⟨first, rest, rfl, digit⟩
      exact ⟨first, rest, rfl, head_of_isAlphanum (isAlphanum_of_isDigit digit)⟩
  | word word =>
      rcases word.exists_head with ⟨first, rest, rfl, letter⟩
      exact ⟨first, rest, rfl, head_of_isAlphanum (isAlphanum_of_isAlpha letter)⟩

/-- A lexeme takes one byte for each character. -/
theorem utf8Size_eq {text : List Char} (lexeme : Lexeme text) :
    ∀ char ∈ text, char.utf8Size = 1 := by
  cases lexeme with
  | symbol mark => cases mark <;> simp [Symbol.spelling, Char.utf8Size]
  | number number => exact fun char member => utf8Size_of_isAlphanum (number.isAlphanum char member)
  | word word => exact fun char member => utf8Size_of_isAlphanum (word.isAlphanum char member)

end Lexeme

/-! ## The longest lexeme -/

/-- No lexeme at the front of the text and what follows is longer than the text. -/
def Longest (text rest : List Char) : Prop :=
  ∀ other, Lexeme other → other <+: text ++ rest → other.length ≤ text.length

/-- The longest lexeme at the front of a text is determined. -/
theorem Longest.unique {left right leftRest rightRest : List Char}
    (longest : Longest left leftRest) (lexeme : Lexeme left)
    (otherLongest : Longest right rightRest) (otherLexeme : Lexeme right)
    (same : left ++ leftRest = right ++ rightRest) : left = right := by
  have le := otherLongest left lexeme (same ▸ List.prefix_append left leftRest)
  have ge := longest right otherLexeme (same ▸ List.prefix_append right rightRest)
  exact (List.append_inj same (Nat.le_antisymm le ge)).1

/-- A run of characters ends where the text behind it does not go on with it. -/
theorem length_le_of_stops {p : Char → Bool} {run inside rest : List Char}
    (inRun : ∀ char ∈ run, p char) (stops : ∀ char ∈ rest.head?, p char = false)
    (begins : run <+: inside ++ rest) : run.length ≤ inside.length := by
  rcases Nat.le_total run.length inside.length with le | le
  · exact le
  · rcases List.prefix_of_prefix_length_le (List.prefix_append inside rest) begins le with
      ⟨more, rfl⟩
    rw [List.prefix_append_right_inj] at begins
    cases more with
    | nil => simp
    | cons char more =>
        rcases begins with ⟨after, rfl⟩
        have goes := inRun char (by simp)
        have halts := stops char rfl
        simp [goes] at halts

theorem IsWord.longest {text rest : List Char} (word : IsWord text)
    (stops : ∀ char ∈ rest.head?, char.isAlphanum = false) : Longest text rest := by
  intro other lexeme begins
  rcases text with _ | ⟨first, letters⟩
  · exact word.elim
  · rcases lexeme.exists_head with ⟨otherFirst, otherLetters, rfl, _⟩
    rw [List.cons_append, List.cons_prefix_cons] at begins
    rcases begins with ⟨rfl, begins⟩
    have otherWord := lexeme.isWord_of_isAlpha word.1
    exact Nat.succ_le_succ (length_le_of_stops otherWord.2 stops begins)

theorem IsNumber.longest {text rest : List Char} (number : IsNumber text)
    (stops : ∀ char ∈ rest.head?, char.isDigit = false) : Longest text rest := by
  intro other lexeme begins
  rcases text with _ | ⟨first, digits⟩
  · exact number.elim
  · rcases lexeme.exists_head with ⟨otherFirst, otherDigits, rfl, _⟩
    rw [List.cons_append, List.cons_prefix_cons] at begins
    rcases begins with ⟨rfl, begins⟩
    have otherNumber := lexeme.isNumber_of_isDigit number.1
    exact Nat.succ_le_succ (length_le_of_stops otherNumber.2 stops begins)

/-- The only symbol that a longer one starts with is `=`. -/
theorem longest_spelling (mark : Symbol) {rest : List Char}
    (stops : mark = .assign → ∀ char ∈ rest.head?, char ≠ '=') :
    Longest mark.spelling.toList rest := by
  intro other lexeme begins
  rcases mark.head_spelling with ⟨first, more, spelled, symbolic, _⟩
  rcases lexeme.exists_head with ⟨otherFirst, otherMore, rfl, _⟩
  rw [spelled] at begins ⊢
  rw [List.cons_append, List.cons_prefix_cons] at begins
  rcases begins with ⟨rfl, begins⟩
  rcases lexeme.exists_symbol symbolic with ⟨otherMark, otherSpelled⟩
  have known := mark.ofText?_spelling
  cases more with
  | cons =>
      rcases otherMark.spelling_cases with ⟨char, single, _⟩ | rfl | rfl
      · cases otherSpelled.symm.trans single
        simp
      · cases otherSpelled
        simp
      · cases otherSpelled
        simp
  | nil =>
      -- the other symbol is longer only if it is `==`, since `&` is none
      rcases otherMark.spelling_cases with ⟨char, single, _⟩ | rfl | rfl
      · cases otherSpelled.symm.trans single
        exact Nat.le_refl 1
      · cases otherSpelled
        rw [spelled] at known
        cases known
        rcases begins with ⟨after, rfl⟩
        exact absurd rfl (stops rfl '=' rfl)
      · cases otherSpelled
        rw [spelled] at known
        cases known

end Lexer

open Lexer

namespace Token

/-- The token is written as the text. -/
inductive Written : Token → List Char → Prop where
  | symbol (mark : Symbol) : Written (.symbol mark) mark.spelling.toList
  | keyword (word : Keyword) : Written (.keyword word) word.spelling.toList
  | bool (value : Bool) : Written (.bool value) (Token.bool value).spelling.toList
  /-- The value is that of the digits, which may start with zeros. -/
  | int {value : Int32} {text : List Char} :
      IsNumber text → value.toInt = Nat.ofDigitChars 10 text 0 → Written (.int value) text
  | name {text : Name} :
      IsWord text.toList → text ∉ Name.reserved → Written (.name text) text.toList

theorem ofWord_spelling_keyword (word : Keyword) : ofWord word.spelling = .keyword word := by
  cases word <;> rfl

theorem ofWord_spelling_bool (value : Bool) :
    ofWord (Token.bool value).spelling = .bool value := by
  cases value <;> rfl

theorem isWord_spelling_keyword (word : Keyword) : IsWord word.spelling.toList := by
  cases word <;> decide

theorem isWord_spelling_bool (value : Bool) : IsWord (Token.bool value).spelling.toList := by
  cases value <;> decide

theorem spelling_keyword_mem_reserved (word : Keyword) : word.spelling ∈ Name.reserved := by
  cases word <;> decide

theorem spelling_bool_mem_reserved (value : Bool) :
    (Token.bool value).spelling ∈ Name.reserved := by
  cases value <;> decide

/-- A word is a keyword, a truth value or a name. -/
theorem ofWord_cases (word : Name) :
    (∃ keyword : Keyword, keyword.spelling = word ∧ ofWord word = .keyword keyword) ∨
    (∃ value, (Token.bool value).spelling = word ∧ ofWord word = .bool value) ∨
    (word ∉ Name.reserved ∧ ofWord word = .name word) := by
  unfold ofWord
  split
  · next spelled => exact .inr (.inl ⟨true, spelled.symm, rfl⟩)
  · next notTrue =>
      split
      · next spelled => exact .inr (.inl ⟨false, spelled.symm, rfl⟩)
      · next notFalse =>
          split
          · next keyword known =>
              have spelled : keyword.spelling = word := by simpa using List.find?_some known
              exact .inl ⟨keyword, spelled, rfl⟩
          · next unknown =>
              have other : word ∉ Keyword.all.map Keyword.spelling := by
                intro member
                rcases List.mem_map.mp member with ⟨keyword, listed, spelled⟩
                exact List.find?_eq_none.mp unknown keyword listed (by simp [spelled])
              refine .inr (.inr ⟨?_, rfl⟩)
              simp [Name.reserved_eq, other, notTrue, notFalse]

theorem ofWord_of_not_reserved {text : Name} (free : text ∉ Name.reserved) :
    ofWord text = .name text := by
  rcases ofWord_cases text with ⟨keyword, rfl, _⟩ | ⟨value, rfl, _⟩ | ⟨_, read⟩
  · exact absurd (spelling_keyword_mem_reserved keyword) free
  · exact absurd (spelling_bool_mem_reserved value) free
  · exact read

/-- Every word writes the token that it is read as. -/
theorem written_ofWord {text : List Char} (word : IsWord text) :
    (ofWord (String.ofList text)).Written text := by
  have listed : (String.ofList text).toList = text := String.toList_ofList
  rcases ofWord_cases (String.ofList text) with ⟨keyword, spelled, read⟩ |
    ⟨value, spelled, read⟩ | ⟨free, read⟩
  · rw [read, ← listed, ← spelled]
    exact .keyword keyword
  · rw [read, ← listed, ← spelled]
    exact .bool value
  · rw [read]
    simpa using Written.name (listed.symm ▸ word) free

/-- With the character behind it the token would be a longer one. -/
def RunsOn : Token → Char → Prop
  | .symbol mark, char => mark = .assign ∧ char = '='
  | .int _, char => char.isDigit
  | .keyword _, char | .bool _, char | .name _, char => char.isAlphanum

namespace Written

variable {token : Token} {text : List Char}

/-- What is written starts like a word, like a number or like a symbol. -/
theorem kinds (written : token.Written text) :
    (IsWord text ∧ token = ofWord (String.ofList text)) ∨
    (IsNumber text ∧ ∃ value, token = .int value ∧ value.toInt = Nat.ofDigitChars 10 text 0) ∨
    ∃ mark : Symbol, text = mark.spelling.toList ∧ token = .symbol mark := by
  cases written with
  | symbol mark => exact .inr (.inr ⟨mark, rfl, rfl⟩)
  | keyword word =>
      refine .inl ⟨isWord_spelling_keyword word, ?_⟩
      rw [String.ofList_toList, ofWord_spelling_keyword]
  | bool value =>
      refine .inl ⟨isWord_spelling_bool value, ?_⟩
      rw [String.ofList_toList, ofWord_spelling_bool]
  | int number valued => exact .inr (.inl ⟨number, _, rfl, valued⟩)
  | name word free =>
      refine .inl ⟨word, ?_⟩
      rw [String.ofList_toList, ofWord_of_not_reserved free]

theorem lexeme (written : token.Written text) : Lexeme text := by
  rcases written.kinds with ⟨word, _⟩ | ⟨number, _⟩ | ⟨mark, rfl, _⟩
  · exact .word word
  · exact .number number
  · exact .symbol mark

/-- Whether a written token is the longest lexeme shows at the next character. -/
theorem longest {rest : List Char} (written : token.Written text)
    (stops : ∀ char ∈ rest.head?, ¬ token.RunsOn char) : Longest text rest := by
  cases written with
  | symbol mark =>
      exact longest_spelling mark fun assign char behind equal => stops char behind ⟨assign, equal⟩
  | keyword word => exact (isWord_spelling_keyword word).longest (by simpa [RunsOn] using stops)
  | bool value => exact (isWord_spelling_bool value).longest (by simpa [RunsOn] using stops)
  | int number => exact number.longest (by simpa [RunsOn] using stops)
  | name word => exact word.longest (by simpa [RunsOn] using stops)

/-- A text writes one token at most. -/
theorem unique {left right : Token} (leftWritten : left.Written text)
    (rightWritten : right.Written text) : left = right := by
  rcases leftWritten.kinds with ⟨word, rfl⟩ | ⟨number, value, rfl, valued⟩ | ⟨mark, rfl, rfl⟩
  · rcases rightWritten.kinds with ⟨_, rfl⟩ | ⟨number, _⟩ | ⟨mark, rfl, _⟩
    · rfl
    · exact absurd number word.not_isNumber
    · exact absurd word (not_isWord_spelling mark)
  · rcases rightWritten.kinds with ⟨word, _⟩ | ⟨_, other, rfl, otherValued⟩ | ⟨mark, rfl, _⟩
    · exact absurd number word.not_isNumber
    · rw [Int32.toInt_inj.mp (valued.trans otherValued.symm)]
    · exact absurd number (not_isNumber_spelling mark)
  · rcases rightWritten.kinds with ⟨word, _⟩ | ⟨number, _⟩ | ⟨other, same, rfl⟩
    · exact absurd word (not_isWord_spelling mark)
    · exact absurd number (not_isNumber_spelling mark)
    · have known := Symbol.ofText?_spelling mark
      rw [same, Symbol.ofText?_spelling] at known
      rw [Option.some.inj known]

/-- The value of a written number fits. -/
theorem le_maxInt (written : token.Written text) (number : IsNumber text) :
    Nat.ofDigitChars 10 text 0 ≤ maxInt := by
  rcases written.kinds with ⟨word, _⟩ | ⟨_, value, _, valued⟩ | ⟨mark, rfl, _⟩
  · exact absurd number word.not_isNumber
  · have fits := value.toInt_le
    have top : Int32.maxValue.toInt = maxInt := by decide
    rw [valued, top] at fits
    exact_mod_cast fits
  · exact absurd number (not_isNumber_spelling mark)

end Written

end Token

end VectorLang
