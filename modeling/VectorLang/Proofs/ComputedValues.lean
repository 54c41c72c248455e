import VectorLang.Proofs.Agreement
import VectorLang.Proofs.Passage
import VectorLang.Proofs.Rendering
import VectorLang.Proofs.Soundness
import VectorLang.Proofs.TypingRules

/-!
# The values that programs compute

A program computes a value exactly if the length of each of its vectors is a positive
integer. Of other vectors none is ever stored or printed, not even on the way. And every
value has an expression: a vector is the sum of its elements times one-hot vectors, and a
negative number a sum, since there are no negative literals.
-/

namespace VectorLang

/-! ## Values on the way -/

namespace Machine

theorem round_wellSized {machine : Machine} (sized : machine.WellSized) (name : Name)
    (body : Block) (element : Int32) : (machine.round name body element).state.WellSized := by
  have number : (Value.int element).WellSized := trivial
  apply Outcome.ensures_both_iff.mp
  apply Outcome.Ensures.andThen (assign_wellSized sized number)
  intro machine sized
  exact inScope_wellSized (Stmt.execAll_wellSized sized.enter body)

end Machine

namespace Task

variable {task next : Task}

theorem Continues.wellSized (continues : task.Continues next) (sized : task.machine.WellSized) :
    next.machine.WellSized := by
  cases continues with
  | @stmt machine _ stmt _ success =>
      rw [← (Outcome.eq_done_iff.mp success).2]
      exact Stmt.exec_wellSized sized stmt
  | @declare machine _ name _ _ success =>
      have number : (Value.int 0).WellSized := trivial
      rw [← (Outcome.eq_done_iff.mp success).2]
      exact Outcome.ensures_both_iff.mp (Machine.declare_wellSized sized number)
  | @round machine _ name element _ body success =>
      rw [← (Outcome.eq_done_iff.mp success).2]
      exact Machine.round_wellSized sized name body element

theorem Opens.wellSized (opens : task.Opens next) (sized : task.machine.WellSized) :
    next.machine.WellSized := by
  cases opens with
  | ifThen | ifElse | forEach => exact sized.enter
  | @round machine after name element _ _ success =>
      have number : (Value.int element).WellSized := trivial
      have assigned : after.WellSized := by
        rw [← (Outcome.eq_done_iff.mp success).2]
        exact Outcome.ensures_both_iff.mp (Machine.assign_wellSized sized number)
      exact assigned.enter

/-- Wherever a run passes through, the lengths of vectors are in range. -/
theorem Passes.wellSized (passes : task.Passes next) (sized : task.machine.WellSized) :
    next.machine.WellSized := by
  apply passes.preserves _ sized
  rintro task next (continues | opens)
  · exact continues.wellSized
  · exact opens.wellSized

end Task

/-! ## Expressions of values -/

/-- The expression computes the value and has its type, wherever it stands, and it can be
written. -/
structure Expr.Denotes (expr : Expr) (value : Value) : Prop where
  eval : ∀ env, expr.eval env = .ok value
  typed : ∀ types, expr.typeIn types = .ok value.ty
  writable : expr.Writable

/-- An expression of an integer. -/
def Expr.ofInt (value : Int32) : Expr :=
  if 0 ≤ value then .int value
  else .binary .add (.unary .negate (.int (-(value + 1)))) (.unary .negate (.int 1))

/-- An expression of the vector that has the elements behind `index` zeros. -/
def Expr.ofElements (length : Int32) (index : Nat) : List Int32 → Expr
  | [] => .binary .mul (.int 0) (.oneHot (.int length) (.int 0))
  | element :: rest =>
      .binary .add
        (.binary .mul (.ofInt element) (.oneHot (.int length) (.int (Int32.ofNat index))))
        (.ofElements length (index + 1) rest)

/-- An expression of a value. -/
def Value.expr : Value → Expr
  | .int value => .ofInt value
  | .bool value => .bool value
  | .pair first second => .binary .pair first.expr second.expr
  | .vector elements => .ofElements (Int32.ofNat elements.length) 0 elements

/-! ## One-hot vectors -/

namespace Value

theorem oneHot_ofNat {index more : Nat} (fits : index + (more + 1) ≤ 2147483647) :
    oneHot (Int32.ofNat (index + (more + 1))) (Int32.ofNat index) =
      .ok (.vector (List.replicate index 0 ++ 1 :: List.replicate more 0)) := by
  have lengthInt : (Int32.ofNat (index + (more + 1))).toInt = (index + (more + 1) : Nat) :=
    Int32.toInt_ofNat_of_lt (by omega)
  have indexInt : (Int32.ofNat index).toInt = index := Int32.toInt_ofNat_of_lt (by omega)
  have natural : ¬ Int32.ofNat (index + (more + 1)) < 0 := by
    rw [Int32.lt_iff_toInt_lt, lengthInt, Int32.toInt_zero]
    omega
  have inside : 0 ≤ Int32.ofNat index ∧ Int32.ofNat index < Int32.ofNat (index + (more + 1)) := by
    rw [Int32.le_iff_toInt_le, Int32.lt_iff_toInt_lt, lengthInt, indexInt, Int32.toInt_zero]
    omega
  rw [oneHot, if_neg natural, if_pos inside, Int32.toNatClampNeg_ofNat_of_lt (by omega),
    Int32.toNatClampNeg_ofNat_of_lt (by omega)]
  simp [List.replicate_add, List.replicate_succ]

/-- A multiple of a one-hot vector has the factor at its place. -/
theorem mul_oneHot (factor : Int32) (index more : Nat) :
    BinaryOp.mul.apply (.int factor)
        (.vector (List.replicate index 0 ++ 1 :: List.replicate more 0)) =
      .ok (.vector (List.replicate index 0 ++ factor :: List.replicate more 0)) := by
  simp [BinaryOp.apply, mul, scale]

theorem zipWith_add_zeros (elements : List Int32) :
    List.zipWith (· + ·) (List.replicate elements.length 0) elements = elements := by
  induction elements with
  | nil => rfl
  | cons element rest ih => simp [List.replicate_succ, ih]

/-- One more element is put in front of those that stand behind zeros. -/
theorem add_element (index : Nat) (element : Int32) (rest : List Int32) :
    BinaryOp.add.apply
        (.vector (List.replicate index 0 ++ element :: List.replicate rest.length 0))
        (.vector (List.replicate (index + 1) 0 ++ rest)) =
      .ok (.vector (List.replicate index 0 ++ element :: rest)) := by
  have behind : List.replicate (index + 1) (0 : Int32) ++ rest =
      List.replicate index 0 ++ 0 :: rest := by
    simp [List.replicate_succ']
  rw [behind]
  simp [BinaryOp.apply, add, requireSameLength, List.zipWith_append, zipWith_add_zeros]

end Value

/-! ## Every value has an expression -/

namespace Expr

theorem denotes_int {value : Int32} (natural : 0 ≤ value) :
    (Expr.int value).Denotes (.int value) where
  eval _ := rfl
  typed _ := rfl
  writable := ⟨Int32.le_iff_toInt_le.mp natural, value.toInt_le⟩

namespace Denotes

variable {operand left right length index : Expr} {value leftValue rightValue : Value}

theorem negate {number : Int32} (denotes : operand.Denotes (.int number)) :
    (Expr.unary .negate operand).Denotes (.int (-number)) where
  eval env := by
    rw [Expr.eval, denotes.eval]
    rfl
  typed types := by
    rw [typeIn, denotes.typed]
    rfl
  writable := denotes.writable

theorem binary {op : BinaryOp} (denotesLeft : left.Denotes leftValue)
    (denotesRight : right.Denotes rightValue) (applied : op.apply leftValue rightValue = .ok value)
    (takes : op.Takes leftValue.ty rightValue.ty value.ty) :
    (Expr.binary op left right).Denotes value where
  eval env := by rw [Expr.eval, denotesLeft.eval, ok_bind, denotesRight.eval, ok_bind, applied]
  typed types := by
    rw [typeIn, denotesLeft.typed, ok_bind, takes.requireLeft, ok_bind, denotesRight.typed, ok_bind,
      BinaryOp.takes_iff.mp takes]
  writable := ⟨denotesLeft.writable, denotesRight.writable⟩

theorem oneHot {lengthNumber indexNumber : Int32} {elements : List Int32}
    (denotesLength : length.Denotes (.int lengthNumber))
    (denotesIndex : index.Denotes (.int indexNumber))
    (shaped : Value.oneHot lengthNumber indexNumber = .ok (.vector elements)) :
    (Expr.oneHot length index).Denotes (.vector elements) where
  eval env := by
    rw [Expr.eval, denotesLength.eval, denotesIndex.eval]
    exact shaped
  typed types := by
    rw [typeIn, denotesLength.typed, denotesIndex.typed]
    rfl
  writable := ⟨denotesLength.writable, denotesIndex.writable⟩

end Denotes

/-- The successor of a negative number is not positive, so its opposite is a literal. -/
theorem denotes_ofInt (value : Int32) : (ofInt value).Denotes (.int value) := by
  rw [ofInt]
  split
  · next natural => exact denotes_int natural
  · next negative =>
      have natural : 0 ≤ -(value + 1) := by
        have least := value.le_toInt
        have most := value.toInt_lt
        rw [Int32.le_iff_toInt_le, Int32.toInt_zero] at negative ⊢
        have successor : (value + 1).toInt = value.toInt + 1 := by
          rw [Int32.toInt_add, Int32.toInt_one]
          exact Int.bmod_eq_of_le (by omega) (by omega)
        rw [Int32.toInt_neg, successor, Int.bmod_eq_of_le (by omega) (by omega)]
        omega
      have sum : -(-(value + 1)) + -1 = value := by grind
      have one : (Expr.int 1).Denotes (.int 1) := denotes_int (by decide)
      exact (denotes_int natural).negate.binary one.negate
        (congrArg (Except.ok ∘ Value.int) sum) .addInt

theorem denotes_oneHot (index more : Nat) (fits : index + (more + 1) ≤ 2147483647) :
    (Expr.oneHot (.int (Int32.ofNat (index + (more + 1)))) (.int (Int32.ofNat index))).Denotes
      (.vector (List.replicate index 0 ++ 1 :: List.replicate more 0)) := by
  have natural (number : Nat) (small : number ≤ 2147483647) : 0 ≤ Int32.ofNat number := by
    rw [Int32.le_iff_toInt_le, Int32.toInt_ofNat_of_lt (by omega), Int32.toInt_zero]
    omega
  exact (denotes_int (natural _ fits)).oneHot (denotes_int (natural index (by omega)))
    (Value.oneHot_ofNat fits)

theorem denotes_ofElements {length : Nat} (index : Nat) (elements : List Int32)
    (whole : index + elements.length = length) (positive : 1 ≤ length)
    (fits : length ≤ 2147483647) :
    (ofElements (Int32.ofNat length) index elements).Denotes
      (.vector (List.replicate index 0 ++ elements)) := by
  induction elements generalizing index with
  | nil =>
      have zero : (Expr.int 0).Denotes (.int 0) := denotes_int (by decide)
      rcases Nat.exists_eq_add_of_le' positive with ⟨more, rfl⟩
      have zeros : List.replicate index (0 : Int32) ++ [] =
          List.replicate 0 0 ++ 0 :: List.replicate more 0 := by
        cases whole
        simp [List.replicate_succ]
      have base := denotes_oneHot 0 more (by omega)
      rw [Nat.zero_add] at base
      rw [zeros]
      exact zero.binary base (Value.mul_oneHot 0 0 more) .scaleLeft
  | cons element rest ih =>
      subst whole
      have last := ih (index + 1) (by rw [List.length_cons]; omega)
      have factor := (denotes_ofInt element).binary (denotes_oneHot index rest.length fits)
        (Value.mul_oneHot element index rest.length) .scaleLeft
      exact factor.binary last (Value.add_element index element rest) .addVector

end Expr

/-- Every value with lengths in range has an expression. -/
theorem Value.denotes_expr {value : Value} (sized : value.WellSized) :
    value.expr.Denotes value := by
  induction value with
  | int value => exact Expr.denotes_ofInt value
  | bool value => exact ⟨fun _ => rfl, fun _ => rfl, trivial⟩
  | pair first second firstIH secondIH =>
      exact (firstIH sized.1).binary (secondIH sized.2) rfl (.pair _ _)
  | vector elements => exact Expr.denotes_ofElements 0 elements (Nat.zero_add _) sized.1 sized.2

/-! ## Programs -/

namespace Program

/-- The program that prints the value of an expression. -/
def printing (expr : Expr) : Program :=
  [.print expr]

variable {expr : Expr} {value : Value}

theorem check_printing (denotes : expr.Denotes value) : (printing expr).check = .ok () := by
  rw [check, Outcome.result_eq_ok_iff, printing, Stmt.checkAll_cons_succeeds_iff,
    Stmt.check_print_succeeds_iff]
  exact ⟨⟨_, denotes.typed .empty⟩, rfl⟩

theorem exec_printing (denotes : expr.Denotes value) :
    (printing expr).exec = .done ⟨.empty, #[value]⟩ := by
  rw [exec, printing, Stmt.execAll, Stmt.exec, denotes.eval]
  rfl

theorem ofSource_printing (denotes : expr.Denotes value) :
    ofSource (render (printing expr)) = .ok (printing expr) :=
  ofSource_of_writable ⟨List.cons_ne_nil _ _, denotes.writable, trivial⟩

end Program

namespace Source

/-- Whatever a source text prints has lengths in range. -/
theorem wellSized_of_run {source : String} {typecheck : Bool} :
    ∀ value ∈ (run source typecheck).state, value.WellSized := by
  rw [run]
  cases prepare source typecheck with
  | error fault => simp
  | ok program => exact (Stmt.execAll_wellSized Machine.start_wellSized program).output

/-- The text that prints the value of an expression. -/
def printing (expr : Expr) : String :=
  Program.render (Program.printing expr)

theorem check_printing {expr : Expr} {value : Value} (denotes : expr.Denotes value) :
    check (printing expr) = .ok () := by
  rw [check, printing, Program.ofSource_printing denotes, ok_bind,
    Program.check_printing denotes]
  rfl

theorem run_printing {expr : Expr} {value : Value} (denotes : expr.Denotes value)
    (typecheck : Bool) : run (printing expr) typecheck = .done #[value] := by
  rw [printing, run_of_read (Program.ofSource_printing denotes)
    (Program.check_printing denotes), Program.exec_printing denotes]
  rfl

end Source

/-- The values of programs are those whose vectors have a positive length that is an
integer. No other value is stored or printed, neither on the way nor at the end, and each of
these values is the whole output of some source text. -/
theorem program_values :
    (∀ (program : Program) (task : Task),
      Task.Passes ⟨.sequence program, .start⟩ task → task.machine.WellSized) ∧
    (∀ program : Program, program.exec.state.WellSized) ∧
    (∀ (source : String) (typecheck : Bool),
      ∀ value ∈ (Source.run source typecheck).state, value.WellSized) ∧
    ∀ value : Value, value.WellSized →
      ∃ source, Source.check source = .ok () ∧
        ∀ typecheck, (Source.run source typecheck).error? = none ∧
          (Source.run source typecheck).state = #[value] ∧
          Value.lines (Source.run source typecheck).state.toList = value.text ++ "\n" := by
  refine ⟨?_, ?_, ?_, ?_⟩
  · intro program task passes
    exact passes.wellSized Machine.start_wellSized
  · intro program
    exact Stmt.execAll_wellSized Machine.start_wellSized program
  · intro source typecheck
    exact Source.wellSized_of_run
  · intro value sized
    have denotes := Value.denotes_expr sized
    refine ⟨Source.printing value.expr, Source.check_printing denotes, fun typecheck => ?_⟩
    rw [Source.run_printing denotes typecheck]
    exact ⟨rfl, rfl, by simp [Outcome.done, Value.lines, Text.unlines]⟩

/-- A vector that is stored in a block only, and a pair with the least integer, which has no
literal. -/
theorem program_values_of_block :
    (∃ task : Task, Task.Passes
        ⟨.sequence [.ifThen (.bool true) [.declare "v" (.oneHot (.int 2) (.int 1))]], .start⟩
        task ∧
      task.machine.env.lookup "v" = .ok (.vector [0, 1]) ∧ task.machine.WellSized) ∧
    ∃ source, Source.check source = .ok () ∧
      Value.lines (Source.run source true).state.toList =
        "(-2147483648,[7;-2147483648;0])\n" := by
  constructor
  · have passes : Task.Passes
        ⟨.sequence [.ifThen (.bool true) [.declare "v" (.oneHot (.int 2) (.int 1))]], .start⟩
        ⟨.sequence [], ⟨⟨[("v", .vector [0, 1])], [[]]⟩, #[]⟩⟩ :=
      .tail (.single (.inr (.ifThen rfl))) (.inl (.stmt (by decide)))
    exact ⟨_, passes, rfl, program_values.1 _ _ passes⟩
  · have sized : (Value.pair (.int Int32.minValue)
        (.vector [7, Int32.minValue, 0])).WellSized := ⟨trivial, by decide, by decide⟩
    rcases program_values.2.2.2 _ sized with ⟨source, accepted, prints⟩
    exact ⟨source, accepted, (prints true).2.2.trans (by decide)⟩

end VectorLang
