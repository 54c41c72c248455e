import VectorLang.Proofs.Exchange

/-!
# Vectors as linear algebra

Sums, products and multiples of vectors obey the laws of linear algebra over the integers modulo
2³². The dot product is linear, and with a one-hot vector it takes an element out. The only
reason for a failure is that two vectors differ in length, or that an index lies outside of its
vector.
-/

namespace VectorLang

/-! ## Numbers in a row -/

variable {u v w : List Int32}

theorem dotProduct_cons (x y : Int32) (u v : List Int32) :
    dotProduct (x :: u) (y :: v) = x * y + dotProduct u v := by
  rw [dotProduct, dotProduct, List.zipWith_cons_cons, ← List.sum_eq_foldl, ← List.sum_eq_foldl,
    List.sum_cons]

theorem length_scale (factor : Int32) (vector : List Int32) :
    (scale factor vector).length = vector.length :=
  List.length_map _

/-- The dot product is linear in its left operand. -/
theorem dotProduct_linear (j k : Int32) (uLength : u.length = w.length)
    (vLength : v.length = w.length) :
    dotProduct (List.zipWith (· + ·) (scale j u) (scale k v)) w =
      j * dotProduct u w + k * dotProduct v w := by
  induction w generalizing u v with
  | nil =>
      rw [List.eq_nil_of_length_eq_zero uLength, List.eq_nil_of_length_eq_zero vLength]
      change (0 : Int32) = j * 0 + k * 0
      grind
  | cons z w ih =>
      obtain ⟨x, u, rfl⟩ := List.exists_cons_of_length_eq_add_one uLength
      obtain ⟨y, v, rfl⟩ := List.exists_cons_of_length_eq_add_one vLength
      have rest := ih (Nat.succ.inj uLength) (Nat.succ.inj vLength)
      rw [scale, scale] at rest
      simp only [scale, List.map_cons, List.zipWith_cons_cons, dotProduct_cons, rest]
      grind

theorem zipWith_add_assoc (u v w : List Int32) :
    List.zipWith (· + ·) (List.zipWith (· + ·) u v) w =
      List.zipWith (· + ·) u (List.zipWith (· + ·) v w) := by
  apply List.ext_getElem
  · simp only [List.length_zipWith, Nat.min_assoc]
  · intro position _ _
    simp only [List.getElem_zipWith, Int32.add_assoc]

theorem scale_scale (j k : Int32) (u : List Int32) : scale j (scale k u) = scale (j * k) u := by
  rw [scale, scale, scale, List.map_map]
  apply List.map_congr_left
  intro element _
  change element * k * j = element * (j * k)
  grind

theorem scale_add (j k : Int32) (u : List Int32) :
    scale (j + k) u = List.zipWith (· + ·) (scale j u) (scale k u) := by
  rw [scale, scale, scale, List.zipWith_map, List.zipWith_self]
  apply List.map_congr_left
  intro element _
  exact Int32.mul_add

/-- A row of zeros has no part in a dot product. -/
theorem dotProduct_zeros (v : List Int32) :
    dotProduct v (List.replicate v.length 0) = 0 := by
  induction v with
  | nil => rfl
  | cons x v ih =>
      rw [List.length_cons, List.replicate_succ, dotProduct_cons, ih]
      grind

/-- A one among zeros takes the element at its place. -/
theorem dotProduct_unit {v : List Int32} {index : Nat} (inside : index < v.length) :
    dotProduct v ((List.replicate v.length 0).set index 1) = v[index] := by
  induction v generalizing index with
  | nil => contradiction
  | cons x v ih =>
      rw [List.length_cons, List.replicate_succ]
      cases index with
      | zero =>
          rw [List.set_cons_zero, dotProduct_cons, dotProduct_zeros, List.getElem_cons_zero]
          grind
      | succ index =>
          rw [List.set_cons_succ, dotProduct_cons, ih (Nat.lt_of_succ_lt_succ inside),
            List.getElem_cons_succ]
          grind

/-! ## Computed values -/

/-- A value that was computed, or the error that was met first. -/
def Computed : Type := Except EvalError Value

namespace Computed

/-- Apply an operator to computed operands, the left one first. -/
def apply (op : BinaryOp) (left right : Computed) : Computed :=
  Except.bind left fun left => Except.bind right fun right => op.apply left right

instance : Add Computed := ⟨apply .add⟩

instance : Mul Computed := ⟨apply .mul⟩

/-- An integer. -/
def number (value : Int32) : Computed := Except.ok (.int value)

/-- A vector. -/
def vector (elements : List Int32) : Computed := Except.ok (.vector elements)

/-- No value, because of an error. -/
def failed (error : EvalError) : Computed := Except.error error

/-- The vector of zeros with a one at `index`, if it exists. -/
def oneHot (length index : Int32) : Computed := Value.oneHot length index

variable {j k length index : Int32}

@[simp] theorem number_add_number : number j + number k = number (j + k) := rfl

@[simp] theorem number_mul_number : number j * number k = number (j * k) := rfl

@[simp] theorem number_mul_vector : number k * vector u = vector (scale k u) := rfl

theorem vector_add_vector :
    vector u + vector v =
      if u.length = v.length then vector (List.zipWith (· + ·) u v)
      else failed (.dimensionMismatch u.length v.length) := by
  change Value.add (.vector u) (.vector v) = _
  rw [Value.add, Value.requireSameLength]
  split <;> rfl

theorem vector_mul_vector :
    vector u * vector v =
      if u.length = v.length then number (dotProduct u v)
      else failed (.dimensionMismatch u.length v.length) := by
  change Value.mul (.vector u) (.vector v) = _
  rw [Value.mul, Value.requireSameLength]
  split <;> rfl

theorem number_ne_failed (error : EvalError) : number k ≠ failed error :=
  nofun

theorem vector_ne_failed (error : EvalError) : vector u ≠ failed error :=
  nofun

theorem failed_inj {error error' : EvalError} : failed error = failed error' ↔ error = error' :=
  ⟨Except.error.inj, congrArg failed⟩

/-! ## Vectors with a one among zeros -/

theorem oneHot_of_inside (inside : 0 ≤ index ∧ index < length) :
    oneHot length index =
      vector ((List.replicate length.toNatClampNeg 0).set index.toNatClampNeg 1) := by
  have natural : ¬ length < 0 :=
    Int32.not_lt.mpr (Int32.le_trans inside.1 (Int32.le_of_lt inside.2))
  rw [oneHot, Value.oneHot, if_neg natural, if_pos inside]
  rfl

theorem oneHot_of_outside (outside : ¬ (0 ≤ index ∧ index < length)) :
    oneHot length index =
      failed (if length < 0 then .negativeLength length else .indexOutOfBounds index length) := by
  rw [oneHot, Value.oneHot, if_neg outside]
  split <;> rfl

theorem exists_oneHot_iff :
    (∃ elements, oneHot length index = vector elements) ↔ 0 ≤ index ∧ index < length := by
  constructor
  · intro ⟨elements, made⟩
    by_cases inside : 0 ≤ index ∧ index < length
    · exact inside
    · rw [oneHot_of_outside inside] at made
      exact absurd made.symm (vector_ne_failed _)
  · intro inside
    exact ⟨_, oneHot_of_inside inside⟩

/-- The dot product with a one-hot vector is the element at its place. -/
theorem vector_mul_oneHot (sized : v.length = length.toInt) (inside : 0 ≤ index ∧ index < length) :
    ∃ element, v[index.toNatClampNeg]? = some element ∧
      vector v * oneHot length index = number element := by
  have count : length.toNatClampNeg = v.length := by
    rw [← Int32.toNat_toInt, ← sized, Int.toNat_natCast]
  have place : index.toNatClampNeg < v.length := by
    have natural := Int32.le_iff_toInt_le.mp inside.1
    have below := Int32.lt_iff_toInt_lt.mp inside.2
    rw [Int32.toInt_zero] at natural
    rw [← Int32.toNat_toInt]
    omega
  refine ⟨v[index.toNatClampNeg], List.getElem?_eq_getElem place, ?_⟩
  rw [oneHot_of_inside inside, count, vector_mul_vector, if_pos (by simp), dotProduct_unit place]

/-! ## The laws -/

theorem linear (uLength : u.length = w.length) (vLength : v.length = w.length) :
    (number j * vector u + number k * vector v) * vector w =
        number (j * dotProduct u w + k * dotProduct v w) ∧
      number j * (vector u * vector w) + number k * (vector v * vector w) =
        number (j * dotProduct u w + k * dotProduct v w) := by
  have scaled : (scale j u).length = (scale k v).length := by
    rw [length_scale, length_scale, uLength, vLength]
  have summed : (List.zipWith (· + ·) (scale j u) (scale k v)).length = w.length := by
    rw [List.length_zipWith, ← scaled, Nat.min_self, length_scale, uLength]
  constructor
  · rw [number_mul_vector, number_mul_vector, vector_add_vector, if_pos scaled, vector_mul_vector,
      if_pos summed, dotProduct_linear j k uLength vLength]
  · rw [vector_mul_vector, vector_mul_vector, if_pos uLength, if_pos vLength, number_mul_number,
      number_mul_number, number_add_number]

theorem add_assoc (uLength : u.length = w.length) (vLength : v.length = w.length) :
    vector u + vector v + vector w =
        vector (List.zipWith (· + ·) u (List.zipWith (· + ·) v w)) ∧
      vector u + (vector v + vector w) =
        vector (List.zipWith (· + ·) u (List.zipWith (· + ·) v w)) := by
  have first : (List.zipWith (· + ·) u v).length = w.length := by
    rw [List.length_zipWith, uLength, vLength, Nat.min_self]
  have last : u.length = (List.zipWith (· + ·) v w).length := by
    rw [List.length_zipWith, uLength, vLength, Nat.min_self]
  constructor
  · rw [vector_add_vector, if_pos (uLength.trans vLength.symm), vector_add_vector, if_pos first,
      zipWith_add_assoc]
  · rw [vector_add_vector, if_pos vLength, vector_add_vector, if_pos last]

theorem add_mul (j k : Int32) (u : List Int32) :
    number j * vector u + number k * vector u = vector (scale (j + k) u) := by
  have same : (scale j u).length = (scale k u).length := by
    rw [length_scale, length_scale]
  rw [number_mul_vector, number_mul_vector, vector_add_vector, if_pos same, ← scale_add]

/-- What has a value for vectors of one length fails just for different lengths. -/
theorem ite_length_fails_iff {result : Computed} {error : EvalError}
    (succeeds : result ≠ failed error) :
    (if u.length = v.length then result else failed (.dimensionMismatch u.length v.length)) =
        failed error ↔
      u.length ≠ v.length ∧ error = .dimensionMismatch u.length v.length := by
  split
  · next same => simp [succeeds, same]
  · next differ => simp [failed_inj, differ, eq_comm]

theorem vector_add_fails_iff {error : EvalError} :
    vector u + vector v = failed error ↔
      u.length ≠ v.length ∧ error = .dimensionMismatch u.length v.length := by
  rw [vector_add_vector]
  exact ite_length_fails_iff (vector_ne_failed error)

theorem vector_mul_fails_iff {error : EvalError} :
    vector u * vector v = failed error ↔
      u.length ≠ v.length ∧ error = .dimensionMismatch u.length v.length := by
  rw [vector_mul_vector]
  exact ite_length_fails_iff (number_ne_failed error)

end Computed

open Computed

/-- Vectors of one length obey the laws of linear algebra, with numbers that wrap around, and
none of these sums and products fails. The dot product with a one-hot vector is an element, and
there is such a vector just for the indices that are in range. Sums and products of vectors fail
just for different lengths, and tell these. -/
theorem vector_algebra :
    (∀ (u v w : List Int32) (j k : Int32), u.length = w.length → v.length = w.length →
      (∃ result, (number j * vector u + number k * vector v) * vector w = number result ∧
        number j * (vector u * vector w) + number k * (vector v * vector w) = number result) ∧
      (∃ result, (vector u + vector v) + vector w = vector result ∧
        vector u + (vector v + vector w) = vector result) ∧
      (∃ result, number j * (number k * vector u) = vector result ∧
        number j * number k * vector u = vector result) ∧
      ∃ result, (number j + number k) * vector u = vector result ∧
        number j * vector u + number k * vector u = vector result) ∧
    (∀ (v : List Int32) (length index : Int32), v.length = length.toInt →
      0 ≤ index ∧ index < length →
      ∃ element, v[index.toNatClampNeg]? = some element ∧
        vector v * oneHot length index = number element) ∧
    (∀ length index : Int32,
      ((∃ elements, oneHot length index = vector elements) ↔ 0 ≤ index ∧ index < length) ∧
      (¬ (0 ≤ index ∧ index < length) → oneHot length index =
        failed (if length < 0 then .negativeLength length else .indexOutOfBounds index length))) ∧
    ∀ (u v : List Int32) (error : EvalError),
      (vector u + vector v = failed error ↔
        u.length ≠ v.length ∧ error = .dimensionMismatch u.length v.length) ∧
      (vector u * vector v = failed error ↔
        u.length ≠ v.length ∧ error = .dimensionMismatch u.length v.length) := by
  refine ⟨?_, ?_, ?_, ?_⟩
  · intro u v w j k uLength vLength
    refine ⟨⟨_, linear uLength vLength⟩, ⟨_, add_assoc uLength vLength⟩, ?_, ?_⟩
    · exact ⟨scale (j * k) u, congrArg vector (scale_scale j k u), rfl⟩
    · exact ⟨scale (j + k) u, rfl, add_mul j k u⟩
  · exact fun v length index => vector_mul_oneHot
  · exact fun length index => ⟨exists_oneHot_iff, oneHot_of_outside⟩
  · exact fun u v error => ⟨vector_add_fails_iff, vector_mul_fails_iff⟩

/-- The law of linearity where every product and sum wraps around. -/
theorem vector_algebra_of_overflow :
    (number Int32.maxValue * vector [3, -5] + number 2 * vector [Int32.minValue, 7]) *
        vector [2, Int32.maxValue] = number (-25) ∧
      number Int32.maxValue * (vector [3, -5] * vector [2, Int32.maxValue]) +
        number 2 * (vector [Int32.minValue, 7] * vector [2, Int32.maxValue]) = number (-25) ∧
      vector [4, 8, Int32.minValue] * oneHot 3 2 = number Int32.minValue := by
  obtain ⟨result, left, right⟩ := (vector_algebra.1 [3, -5] [Int32.minValue, 7]
    [2, Int32.maxValue] Int32.maxValue 2 rfl rfl).1
  obtain ⟨element, found, product⟩ := vector_algebra.2.1 [4, 8, Int32.minValue] 3 2 (by decide)
    (by decide)
  cases found
  refine ⟨rfl, right.trans ?_, product⟩
  rw [← left]
  rfl

end VectorLang
