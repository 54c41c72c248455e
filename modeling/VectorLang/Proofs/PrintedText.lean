import VectorLang.Evaluation
import VectorLang.Proofs.Spelling

/-!
# Printed values can be told apart

Different values print different texts, and values that are printed one after the other
can be told apart in the text of all of them. The text of a value ends with the value,
whatever stands behind it, but for an integer: it goes on as long as digits do. Nothing
that is printed behind an integer starts with a digit.
-/

namespace VectorLang

open Lexer

namespace Text

/-- A run of such characters in front of the text ends there: the text does not go on with it. -/
def EndsRun (p : Char → Bool) (rest : List Char) : Prop := ∀ char ∈ rest.head?, p char = false

theorem endsRun_nil (p : Char → Bool) : EndsRun p [] :=
  fun _ none => nomatch none

theorem endsRun_cons {p : Char → Bool} {char : Char} (other : p char = false)
    (rest : List Char) : EndsRun p (char :: rest) := by
  rintro _ ⟨⟩
  exact other

/-- Numbers are told apart where both of them end. -/
theorem toDigits_append_inj {count count' : Nat} {rest rest' : List Char}
    (ends : EndsRun Char.isDigit rest) (ends' : EndsRun Char.isDigit rest')
    (same : Nat.toDigits 10 count ++ rest = Nat.toDigits 10 count' ++ rest') :
    count = count' ∧ rest = rest' := by
  have digits (count : Nat) : ∀ char ∈ Nat.toDigits 10 count, char.isDigit :=
    fun _ member => Nat.isDigit_of_mem_toDigits (by decide) (by decide) member
  have spelled : Nat.toDigits 10 count = Nat.toDigits 10 count' := by
    rw [← takeWhile_run (digits count) ends, same, takeWhile_run (digits count') ends']
  have counted : count = count' := calc
    count = Nat.ofDigitChars 10 (Nat.toDigits 10 count) 0 := Nat.ofDigitChars_ten_toDigits.symm
    _ = Nat.ofDigitChars 10 (Nat.toDigits 10 count') 0 := by rw [spelled]
    _ = count' := Nat.ofDigitChars_ten_toDigits
  exact ⟨counted, List.append_cancel_left (spelled ▸ same)⟩

/-- Every piece but the first has the separator in front of it. -/
theorem intercalate_cons (separator piece : List Char) (pieces : List (List Char)) :
    separator.intercalate (piece :: pieces) = piece ++ pieces.flatMap (separator ++ ·) := by
  induction pieces generalizing piece with
  | nil => simp
  | cons next pieces ih =>
      rw [List.intercalate_cons_cons, ih, List.flatMap_cons, List.append_assoc,
        List.append_assoc]

end Text

namespace Value

open Text

/-! ## Integers -/

theorem toList_intText_of_natural {value : Int32} {count : Nat} (valued : value.toInt = count) :
    (intText value).toList = Nat.toDigits 10 count := by
  rw [intText, valued]
  exact Nat.toList_repr

/-- A negative integer has a sign in front of its digits. -/
theorem toList_intText_of_negative {value : Int32} {count : Nat} (positive : 0 < count)
    (valued : value.toInt = -count) : (intText value).toList = '-' :: Nat.toDigits 10 count := by
  rw [intText, valued, Int.toString_eq_repr, Int.repr_eq_if, if_neg (by omega),
    String.toList_append, Int.neg_neg, Int.toNat_natCast, Nat.toList_repr]
  rfl

theorem toList_intText_cases (value : Int32) :
    (∃ count : Nat, value.toInt = count ∧ (intText value).toList = Nat.toDigits 10 count) ∨
      ∃ count : Nat, value.toInt = -count ∧
        (intText value).toList = '-' :: Nat.toDigits 10 count := by
  by_cases natural : 0 ≤ value.toInt
  · obtain ⟨count, valued⟩ := Int.eq_ofNat_of_zero_le natural
    exact .inl ⟨count, valued, toList_intText_of_natural valued⟩
  · have valued : value.toInt = -value.toInt.natAbs := by omega
    exact .inr ⟨_, valued, toList_intText_of_negative (by omega) valued⟩

/-- An integer starts with its sign or its first digit. -/
theorem exists_first_intText (value : Int32) :
    ∃ first more, (intText value).toList = first :: more ∧ (first = '-' ∨ first.isDigit) := by
  obtain ⟨count, -, printed⟩ | ⟨count, -, printed⟩ := toList_intText_cases value
  · obtain ⟨first, more, spelled, digit⟩ := (Token.isNumber_toDigits count).exists_head
    exact ⟨first, more, printed.trans spelled, .inr digit⟩
  · exact ⟨'-', _, printed, .inl rfl⟩

/-- No digit is a sign. -/
theorem toDigits_append_ne_minus {count : Nat} {rest more : List Char} :
    Nat.toDigits 10 count ++ rest ≠ '-' :: more := by
  obtain ⟨first, digits, spelled, digit⟩ := (Token.isNumber_toDigits count).exists_head
  rw [spelled]
  rintro ⟨⟩
  exact absurd digit (by decide)

/-- Integers are told apart where the digits of both end. -/
theorem intText_append_inj {value other : Int32} {rest rest' : List Char}
    (ends : EndsRun Char.isDigit rest) (ends' : EndsRun Char.isDigit rest')
    (same : (intText value).toList ++ rest = (intText other).toList ++ rest') :
    value = other ∧ rest = rest' := by
  obtain ⟨count, valued, printed⟩ | ⟨count, valued, printed⟩ := toList_intText_cases value <;>
  obtain ⟨count', valued', printed'⟩ | ⟨count', valued', printed'⟩ := toList_intText_cases other <;>
  rw [printed, printed'] at same
  · obtain ⟨rfl, behind⟩ := toDigits_append_inj ends ends' same
    exact ⟨Int32.toInt_inj.mp (valued.trans valued'.symm), behind⟩
  · exact absurd same toDigits_append_ne_minus
  · exact absurd same.symm toDigits_append_ne_minus
  · obtain ⟨equal, behind⟩ := toDigits_append_inj ends ends' (List.cons.inj same).2
    exact ⟨Int32.toInt_inj.mp (valued.trans (equal ▸ valued'.symm)), behind⟩

/-! ## Vectors -/

/-- The text behind the first element of a vector: a separator and an element, again and
again, up to the closing bracket, and `rest` behind that. -/
def furtherElements (elements : List Int32) (rest : List Char) : List Char :=
  elements.flatMap (fun element => ';' :: (intText element).toList) ++ ']' :: rest

/-- The text behind the opening bracket of a vector, and `rest` behind that. -/
def elementsText : List Int32 → List Char → List Char
  | [], rest => ']' :: rest
  | element :: elements, rest => (intText element).toList ++ furtherElements elements rest

theorem furtherElements_cons (element : Int32) (elements : List Int32) (rest : List Char) :
    furtherElements (element :: elements) rest =
      ';' :: elementsText (element :: elements) rest := by
  simp [furtherElements, elementsText]

theorem text_vector_append (elements : List Int32) (rest : List Char) :
    (vector elements).text.toList ++ rest = '[' :: elementsText elements rest := by
  cases elements with
  | nil => simp [text, elementsText]
  | cons element elements =>
      simp [text, elementsText, furtherElements, intercalate_cons, List.flatMap_map]

theorem endsRun_furtherElements (elements : List Int32) (rest : List Char) :
    EndsRun Char.isDigit (furtherElements elements rest) := by
  cases elements with
  | nil => exact endsRun_cons (by decide) rest
  | cons element elements => exact endsRun_cons (by decide) _

/-- An element ends where the separator or the closing bracket stands behind it. -/
theorem furtherElements_inj {elements others : List Int32} {rest rest' : List Char}
    (same : furtherElements elements rest = furtherElements others rest') :
    elements = others ∧ rest = rest' := by
  induction elements generalizing others with
  | nil =>
      cases others with
      | nil => exact ⟨rfl, (List.cons.inj same).2⟩
      | cons other others => exact absurd (List.cons.inj same).1 (by decide)
  | cons element elements ih =>
      cases others with
      | nil => exact absurd (List.cons.inj same).1 (by decide)
      | cons other others =>
          rw [furtherElements_cons, furtherElements_cons] at same
          obtain ⟨rfl, further⟩ := intText_append_inj (endsRun_furtherElements elements rest)
            (endsRun_furtherElements others rest') (List.cons.inj same).2
          obtain ⟨rfl, behind⟩ := ih further
          exact ⟨rfl, behind⟩

/-- The closing bracket of an empty vector starts no element. -/
theorem elementsText_cons_ne_bracket {element : Int32} {elements : List Int32}
    {rest more : List Char} : elementsText (element :: elements) rest ≠ ']' :: more := by
  obtain ⟨first, chars, printed, starts⟩ := exists_first_intText element
  rw [elementsText, printed]
  rintro ⟨⟩
  exact absurd starts (by decide)

theorem elementsText_inj {elements others : List Int32} {rest rest' : List Char}
    (same : elementsText elements rest = elementsText others rest') :
    elements = others ∧ rest = rest' := by
  cases elements with
  | nil =>
      cases others with
      | nil => exact ⟨rfl, (List.cons.inj same).2⟩
      | cons other others => exact absurd same.symm elementsText_cons_ne_bracket
  | cons element elements =>
      cases others with
      | nil => exact absurd same elementsText_cons_ne_bracket
      | cons other others =>
          -- A separator in front of both leaves the case of the further elements.
          apply furtherElements_inj
          rw [furtherElements_cons, furtherElements_cons, same]

/-! ## Values -/

theorem text_pair_append (first second : Value) (rest : List Char) :
    (pair first second).text.toList ++ rest =
      '(' :: (first.text.toList ++ ',' :: (second.text.toList ++ ')' :: rest)) := by
  simp [text]

/-- The kind of the values whose text starts with a character. -/
def kindOfFirst (first : Char) : Kind :=
  if first = '(' then .pair
  else if first = '[' then .vector
  else if first = 't' ∨ first = 'f' then .bool
  else .int

theorem exists_first (value : Value) :
    ∃ first more, value.text.toList = first :: more ∧ kindOfFirst first = value.kind := by
  cases value with
  | int value =>
      obtain ⟨first, more, printed, rfl | digit⟩ := exists_first_intText value
      · exact ⟨'-', more, printed, rfl⟩
      · refine ⟨first, more, printed, ?_⟩
        have other (char : Char) (solid : char.isDigit = false) : first ≠ char := by
          rintro rfl
          rw [solid] at digit
          cases digit
        simp [kindOfFirst, kind, other]
  | bool value => cases value <;> exact ⟨_, _, rfl, rfl⟩
  | pair first second =>
      exact ⟨'(', _, (List.append_nil _).symm.trans (text_pair_append first second []), rfl⟩
  | vector elements =>
      exact ⟨'[', _, (List.append_nil _).symm.trans (text_vector_append elements []), rfl⟩

/-- The kind of a value shows at the first character of its text. -/
theorem kind_eq_of_text {value other : Value} {rest rest' : List Char}
    (same : value.text.toList ++ rest = other.text.toList ++ rest') :
    value.kind = other.kind := by
  obtain ⟨first, more, printed, kind⟩ := value.exists_first
  obtain ⟨first', more', printed', kind'⟩ := other.exists_first
  rw [printed, printed'] at same
  rw [← kind, ← kind', (List.cons.inj same).1]

/-- Values are told apart where the text of both ends. -/
theorem text_append_inj {value other : Value} {rest rest' : List Char}
    (ends : EndsRun Char.isDigit rest) (ends' : EndsRun Char.isDigit rest')
    (same : value.text.toList ++ rest = other.text.toList ++ rest') :
    value = other ∧ rest = rest' := by
  induction value generalizing other rest rest' with
  | int value =>
      cases other with
      | int other =>
          obtain ⟨rfl, behind⟩ := intText_append_inj ends ends' same
          exact ⟨rfl, behind⟩
      | bool | pair | vector => cases kind_eq_of_text same
  | bool value =>
      cases other with
      | bool other =>
          cases value <;> cases other <;>
            first
              | exact ⟨rfl, List.append_cancel_left same⟩
              | exact absurd (List.cons.inj same).1 (by decide)
      | int | pair | vector => cases kind_eq_of_text same
  | pair first second ihFirst ihSecond =>
      cases other with
      | pair first' second' =>
          rw [text_pair_append, text_pair_append] at same
          -- The comma and the closing parenthesis end a number in front of them.
          obtain ⟨rfl, seconds⟩ := ihFirst (endsRun_cons (by decide) _)
            (endsRun_cons (by decide) _) (List.cons.inj same).2
          obtain ⟨rfl, behind⟩ := ihSecond (endsRun_cons (by decide) _)
            (endsRun_cons (by decide) _) (List.cons.inj seconds).2
          exact ⟨rfl, (List.cons.inj behind).2⟩
      | int | bool | vector => cases kind_eq_of_text same
  | vector elements =>
      cases other with
      | vector others =>
          rw [text_vector_append, text_vector_append] at same
          obtain ⟨rfl, behind⟩ := elementsText_inj (List.cons.inj same).2
          exact ⟨rfl, behind⟩
      | int | bool | pair => cases kind_eq_of_text same

/-- Different values are printed differently. -/
theorem text_inj {value other : Value} : value.text = other.text ↔ value = other := by
  refine ⟨fun same => ?_, congrArg text⟩
  exact (text_append_inj (endsRun_nil _) (endsRun_nil _) (congrArg (·.toList ++ []) same)).1

/-! ## Lines -/

theorem toList_lines_cons (value : Value) (values : List Value) :
    (lines (value :: values)).toList = value.text.toList ++ '\n' :: (lines values).toList := by
  simp [lines, Text.unlines]

/-- A line holds at least its line end. -/
theorem toList_lines_cons_ne_nil (value : Value) (values : List Value) :
    (lines (value :: values)).toList ≠ [] := by
  simp [toList_lines_cons]

/-- A value ends at the line end behind it. -/
theorem lines_inj {values others : List Value} :
    lines values = lines others ↔ values = others := by
  refine ⟨fun same => ?_, congrArg lines⟩
  replace same := congrArg String.toList same
  induction values generalizing others with
  | nil =>
      cases others with
      | nil => rfl
      | cons other others => exact absurd same.symm (toList_lines_cons_ne_nil other others)
  | cons value values ih =>
      cases others with
      | nil => exact absurd same (toList_lines_cons_ne_nil value values)
      | cons other others =>
          rw [toList_lines_cons, toList_lines_cons] at same
          obtain ⟨rfl, behind⟩ := text_append_inj (endsRun_cons (by decide) _)
            (endsRun_cons (by decide) _) same
          rw [ih (List.cons.inj behind).2]

end Value

/-! ## Printing -/

namespace Machine

/-- Print values one after the other. -/
def printAll (machine : Machine) (values : List Value) : Outcome EvalError Machine :=
  Outcome.forEach (fun value machine => machine.print value) values machine

theorem printAll_eq (machine : Machine) (values : List Value) :
    machine.printAll values =
      .done { machine with output := machine.output ++ values.toArray } := by
  unfold printAll
  induction values generalizing machine with
  | nil => simp [Outcome.forEach]
  | cons value values ih =>
      exact (ih { machine with output := machine.output.push value }).trans (by simp)

/-- What is printed from the start is the text of one line after the other. -/
theorem printed_printAll_start (values : List Value) :
    (start.printAll values).state.printed = Value.lines values := by
  simp [printAll_eq, start, Outcome.done, printed]

end Machine

/-- What is printed from the start tells which values were printed, and in which order:
no other values have the same text. Two values have the same text just where they are
equal in the language. -/
theorem printed_text_unambiguous :
    (∀ values others : List Value,
      (Machine.start.printAll values).state.printed =
        (Machine.start.printAll others).state.printed ↔ values = others) ∧
      ∀ value other : Value,
        value.text = other.text ↔ BinaryOp.equal.apply value other = .ok (.bool true) := by
  constructor
  · intro values others
    rw [Machine.printed_printAll_start, Machine.printed_printAll_start]
    exact Value.lines_inj
  · intro value other
    rw [Value.text_inj]
    simp [BinaryOp.apply]

end VectorLang
