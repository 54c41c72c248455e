import VectorLang.Proofs.PrintedText
import VectorLang.Text.Quoted

/-!
# Quoted texts can be told apart

A quoted text ends at the first quote that no backslash stands in front of, and different texts
are quoted differently. Every escape starts with a backslash, and the character behind it
tells which one it is; a code point goes on up to its closing brace.
-/

namespace VectorLang.Text

/-- Runs of such characters are told apart where both of them end. -/
theorem run_append_inj {p : Char → Bool} {run run' rest rest' : List Char}
    (inside : ∀ char ∈ run, p char) (inside' : ∀ char ∈ run', p char) (ends : EndsRun p rest)
    (ends' : EndsRun p rest') (same : run ++ rest = run' ++ rest') : run = run' ∧ rest = rest' := by
  have equal : run = run' := by
    rw [← Lexer.takeWhile_run inside ends, same, Lexer.takeWhile_run inside' ends']
  exact ⟨equal, List.append_cancel_left (equal ▸ same)⟩

/-! ## Code points -/

/-- The last digit, behind the digits of what is left. -/
theorem toDigits_sixteen_eq (count : Nat) :
    Nat.toDigits 16 count =
      (if count < 16 then [] else Nat.toDigits 16 (count / 16)) ++ [(count % 16).digitChar] := by
  split
  case isTrue small => rw [Nat.toDigits_of_lt_base small, Nat.mod_eq_of_lt small, List.nil_append]
  case isFalse large => exact Nat.toDigits_of_base_le (by decide) (Nat.le_of_not_lt large)

theorem digitChar_inj : ∀ digit < 16, ∀ other < 16,
    Nat.digitChar digit = Nat.digitChar other → digit = other := by
  decide

theorem toDigits_sixteen_inj {count other : Nat}
    (same : Nat.toDigits 16 count = Nat.toDigits 16 other) : count = other := by
  induction count using Nat.strongRecOn generalizing other with
  | _ count ih =>
      rw [toDigits_sixteen_eq count, toDigits_sixteen_eq other] at same
      obtain ⟨fronts, lasts⟩ := List.append_inj' same rfl
      have digits : count % 16 = other % 16 :=
        digitChar_inj _ (Nat.mod_lt _ (by decide)) _ (Nat.mod_lt _ (by decide))
          (List.singleton_inj.mp lasts)
      split at fronts <;> split at fronts
      · omega
      · exact absurd fronts.symm Nat.toDigits_ne_nil
      · exact absurd fronts Nat.toDigits_ne_nil
      · have quotients : count / 16 = other / 16 :=
          ih (count / 16) (Nat.div_lt_self (by omega) (by decide)) fronts
        omega

theorem exists_digitChar_of_mem {count : Nat} {char : Char}
    (member : char ∈ Nat.toDigits 16 count) : ∃ digit < 16, char = Nat.digitChar digit := by
  induction count using Nat.strongRecOn with
  | _ count ih =>
      rw [toDigits_sixteen_eq, List.mem_append, List.mem_singleton] at member
      rcases member with front | last
      · split at front
        · cases front
        · exact ih (count / 16) (Nat.div_lt_self (by omega) (by decide)) front
      · exact ⟨count % 16, Nat.mod_lt _ (by decide), last⟩

/-- No brace and no line end is a digit of a code point. -/
theorem digitChar_visible : ∀ digit < 16,
    Nat.digitChar digit ≠ '\x7d' ∧ Nat.digitChar digit ≠ '\n' := by
  decide

/-! ## Escapes -/

/-- The characters with an escape of their own, and what stands behind its backslash. -/
def shortEscapes : List (Char × Char) :=
  [('\x22', '\x22'), ('\\', '\\'), ('\t', 't'), ('\n', 'n'), ('\r', 'r'), ('\x00', '0')]

/-- How a character may be written between quotes. -/
inductive Escaped (char : Char) : List Char → Prop where
  | short {code : Char} : (char, code) ∈ shortEscapes → Escaped char ['\\', code]
  | codePoint :
      Escaped char ('\\' :: 'u' :: '\x7b' :: Nat.toDigits 16 char.toNat ++ ['\x7d'])
  | plain : char ∉ ['\x22', '\\', '\n'] → Escaped char [char]

theorem escape_of_mem {char code : Char} (member : (char, code) ∈ shortEscapes) :
    escape char = ['\\', code] := by
  simp only [shortEscapes, List.mem_cons, Prod.mk.injEq, List.not_mem_nil, or_false] at member
  rcases member with ⟨rfl, rfl⟩ | ⟨rfl, rfl⟩ | ⟨rfl, rfl⟩ | ⟨rfl, rfl⟩ | ⟨rfl, rfl⟩ | ⟨rfl, rfl⟩ <;>
    rfl

theorem escaped_escape (char : Char) : Escaped char (escape char) := by
  by_cases short : ∃ code, (char, code) ∈ shortEscapes
  · obtain ⟨code, member⟩ := short
    exact escape_of_mem member ▸ .short member
  · have other (escaped : Char × Char) (member : escaped ∈ shortEscapes) : char ≠ escaped.1 := by
      rintro rfl
      exact short ⟨escaped.2, member⟩
    have long := List.forall_iff_forall_mem.mpr other
    simp only [shortEscapes, List.Forall] at long
    obtain ⟨noQuote, noBackslash, noTab, noLineEnd, noReturn, noNull⟩ := long
    rw [escape, if_neg noQuote, if_neg noBackslash, if_neg noTab, if_neg noLineEnd,
      if_neg noReturn, if_neg noNull]
    split
    · exact .codePoint
    · exact .plain (by simp [noQuote, noBackslash, noLineEnd])

/-- The character behind a backslash tells which escape it is. -/
theorem shortEscapes_inj : ∀ escaped ∈ shortEscapes, ∀ other ∈ shortEscapes,
    escaped.2 = other.2 → escaped.1 = other.1 := by
  decide

theorem code_ne_u : ∀ escaped ∈ shortEscapes, escaped.2 ≠ 'u' := by
  decide

theorem code_ne_lineEnd : ∀ escaped ∈ shortEscapes, escaped.2 ≠ '\n' := by
  decide

theorem visible_toDigits (count : Nat) :
    ∀ char ∈ Nat.toDigits 16 count, char ≠ '\x7d' ∧ char ≠ '\n' := by
  intro char member
  obtain ⟨digit, small, rfl⟩ := exists_digitChar_of_mem member
  exact digitChar_visible digit small

namespace Escaped

variable {char other : Char} {written written' rest rest' : List Char}

/-- A character that stands for itself is none that starts an escape. -/
theorem plain_append_inj (plain : char ∉ ['\x22', '\\', '\n']) (escaped : Escaped other written)
    (same : [char] ++ rest = written ++ rest') : char = other ∧ rest = rest' := by
  have noBackslash : char ≠ '\\' := by
    rintro rfl
    simp at plain
  cases escaped with
  | short | codePoint => exact absurd (List.cons.inj same).1 noBackslash
  | plain => exact List.cons.inj same

/-- A character ends where its escape does. -/
theorem append_inj (escaped : Escaped char written) (escaped' : Escaped other written')
    (same : written ++ rest = written' ++ rest') : char = other ∧ rest = rest' := by
  cases escaped with
  | plain plain => exact plain_append_inj plain escaped' same
  | short member =>
      cases escaped' with
      | plain plain => exact (plain_append_inj plain (.short member) same.symm).imp Eq.symm Eq.symm
      | short member' =>
          obtain ⟨codes, behind⟩ := List.cons.inj (List.cons.inj same).2
          exact ⟨shortEscapes_inj _ member _ member' codes, behind⟩
      | codePoint => exact absurd (List.cons.inj (List.cons.inj same).2).1 (code_ne_u _ member)
  | codePoint =>
      cases escaped' with
      | plain plain => exact (plain_append_inj plain .codePoint same.symm).imp Eq.symm Eq.symm
      | short member =>
          exact absurd (List.cons.inj (List.cons.inj same).2).1.symm (code_ne_u _ member)
      | codePoint =>
          simp only [List.cons_append, List.append_assoc, List.cons.injEq, true_and] at same
          have inside (count : Nat) : ∀ char ∈ Nat.toDigits 16 count, (char != '\x7d') = true :=
            fun char member => by simp [(visible_toDigits count char member).1]
          obtain ⟨digits, behind⟩ := run_append_inj (inside _) (inside _)
            (endsRun_cons (by decide) rest) (endsRun_cons (by decide) rest') same
          exact ⟨Char.toNat_inj.mp (toDigits_sixteen_inj digits), (List.cons.inj behind).2⟩

theorem lineEnd_not_mem (escaped : Escaped char written) : '\n' ∉ written := by
  cases escaped with
  | plain plain =>
      intro member
      cases List.mem_singleton.mp member
      simp at plain
  | short member => simp [(code_ne_lineEnd _ member).symm]
  | codePoint =>
      have digits : '\n' ∉ Nat.toDigits 16 char.toNat :=
        fun member => (visible_toDigits _ _ member).2 rfl
      simp [digits]

/-- No escape starts with the quote that ends a text. -/
theorem ne_quote (escaped : Escaped char written) : written ++ rest ≠ '\x22' :: rest' := by
  intro same
  cases escaped with
  | plain plain =>
      obtain ⟨rfl, -⟩ := List.cons.inj same
      simp at plain
  | short | codePoint => exact absurd (List.cons.inj same).1 (by decide)

end Escaped

/-! ## Quoted texts -/

/-- What is quoted ends at the closing quote. -/
theorem escape_flatMap_inj {chars others rest rest' : List Char}
    (same : chars.flatMap escape ++ '\x22' :: rest = others.flatMap escape ++ '\x22' :: rest') :
    chars = others ∧ rest = rest' := by
  induction chars generalizing others with
  | nil =>
      cases others with
      | nil => exact ⟨rfl, (List.cons.inj same).2⟩
      | cons other others =>
          rw [List.flatMap_cons, List.append_assoc] at same
          exact absurd same.symm (escaped_escape other).ne_quote
  | cons char chars ih =>
      rw [List.flatMap_cons, List.append_assoc] at same
      cases others with
      | nil => exact absurd same (escaped_escape char).ne_quote
      | cons other others =>
          rw [List.flatMap_cons, List.append_assoc] at same
          obtain ⟨rfl, further⟩ := (escaped_escape char).append_inj (escaped_escape other) same
          obtain ⟨rfl, behind⟩ := ih further
          exact ⟨rfl, behind⟩

theorem toList_quote (text : String) :
    (quote text).toList = '\x22' :: (text.toList.flatMap escape ++ ['\x22']) := by
  simp [quote]

/-- Different texts are quoted differently. -/
theorem quote_inj {text other : String} : quote text = quote other ↔ text = other := by
  refine ⟨fun same => ?_, congrArg quote⟩
  have quoted := congrArg String.toList same
  rw [toList_quote, toList_quote] at quoted
  exact String.toList_inj.mp (escape_flatMap_inj (List.cons.inj quoted).2).1

/-- A quoted text stands on one line. -/
theorem lineEnd_not_mem_quote (text : String) : '\n' ∉ (quote text).toList := by
  rw [toList_quote]
  have escaped : ∀ char ∈ text.toList, '\n' ∉ escape char :=
    fun char _ => (escaped_escape char).lineEnd_not_mem
  simpa using escaped

end VectorLang.Text
