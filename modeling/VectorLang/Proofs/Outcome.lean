import VectorLang.Outcome

/-!
# Contracts of outcomes

A contract says what holds of the state after a success, and of the error and the
state after a failure. The rules follow the way outcomes are put together, so that
a proof about statements never takes the error of an outcome apart by itself.
-/

namespace VectorLang

variable {α β ε σ τ : Type}

/-! ## Computed values -/

@[simp] theorem pure_eq_ok (value : α) : (pure value : Except ε α) = .ok value := rfl

@[simp] theorem ok_bind (value : α) (next : α → Except ε β) :
    (Except.ok value >>= next) = next value := rfl

@[simp] theorem error_bind (error : ε) (next : α → Except ε β) :
    (Except.error error >>= next) = .error error := rfl

@[simp] theorem mapError_ok (change : ε → τ) (value : α) :
    (Except.ok value).mapError change = .ok value := rfl

@[simp] theorem mapError_error (change : ε → τ) (error : ε) :
    (Except.error error : Except ε α).mapError change = .error (change error) := rfl

@[simp] theorem mapError_eq_ok_iff {change : ε → τ} {value : Except ε α} {result : α} :
    value.mapError change = .ok result ↔ value = .ok result := by
  cases value <;> simp

/-- A computation in two steps succeeds when both do. -/
theorem bind_eq_ok_iff {first : Except ε α} {next : α → Except ε β} {result : β} :
    (first >>= next) = .ok result ↔ ∃ value, first = .ok value ∧ next value = .ok result := by
  cases first <;> simp

/-- A computation in two steps fails in the first or in the second one. -/
theorem bind_eq_error_iff {first : Except ε α} {next : α → Except ε β} {error : ε} :
    (first >>= next) = .error error ↔
      first = .error error ∨ ∃ value, first = .ok value ∧ next value = .error error := by
  cases first <;> simp

/-- Translate the value or the error of a computation. -/
def translate {α' ε' : Type} (changeError : ε → ε') (change : α → α') :
    Except ε α → Except ε' α'
  | .ok value => .ok (change value)
  | .error error => .error (changeError error)

section Translate

variable {α' ε' : Type} {changeError : ε → ε'} {change : α → α'}

theorem translate_eq_ok_iff {computation : Except ε α} {result : α'} :
    translate changeError change computation = .ok result ↔
      ∃ value, computation = .ok value ∧ change value = result := by
  cases computation <;> simp [translate]

theorem translate_eq_error_iff {computation : Except ε α} {result : ε'} :
    translate changeError change computation = .error result ↔
      ∃ error, computation = .error error ∧ changeError error = result := by
  cases computation <;> simp [translate]

/-- A computation in two steps is translated step by step. -/
theorem translate_bind {β' : Type} {changeLast : β → β'} {first : Except ε α}
    {first' : Except ε' α'} {next : α → Except ε β} {next' : α' → Except ε' β'}
    (sameFirst : translate changeError change first = first')
    (sameNext : ∀ value, translate changeError changeLast (next value) = next' (change value)) :
    translate changeError changeLast (first >>= next) = first' >>= next' := by
  subst sameFirst
  cases first with
  | ok value => exact sameNext value
  | error error => rfl

end Translate

/-- The value of a computation satisfies `good`, or its error satisfies `bad`. -/
def Computes (result : Except ε α) (good : α → Prop) (bad : ε → Prop) : Prop :=
  match result with
  | .ok value => good value
  | .error error => bad error

theorem computes_trivial (result : Except ε α) :
    Computes result (fun _ => True) fun _ => True := by
  cases result <;> trivial

theorem Computes.mono {result : Except ε α} {good good' : α → Prop} {bad bad' : ε → Prop}
    (computes : Computes result good bad) (weakenGood : ∀ value, good value → good' value)
    (weakenBad : ∀ error, bad error → bad' error) : Computes result good' bad' := by
  cases result with
  | ok value => exact weakenGood value computes
  | error error => exact weakenBad error computes

theorem Computes.and {result : Except ε α} {good good' : α → Prop} {bad bad' : ε → Prop}
    (left : Computes result good bad) (right : Computes result good' bad') :
    Computes result (fun value => good value ∧ good' value)
      fun error => bad error ∧ bad' error := by
  cases result with
  | ok value => exact ⟨left, right⟩
  | error error => exact ⟨left, right⟩

/-- A computation that cannot succeed does not get to its second step. -/
theorem Computes.bind_of_fails {first : Except ε α} {bad : ε → Prop} {good : β → Prop}
    (fails : Computes first (fun _ => False) bad) (next : α → Except ε β) :
    Computes (first >>= next) good bad := by
  cases first with
  | ok value => exact fails.elim
  | error error => exact fails

/-- The rule for a computation in two steps. -/
theorem Computes.bind {first : Except ε α} {next : α → Except ε β} {middle : α → Prop}
    {good : β → Prop} {bad : ε → Prop} (early : Computes first middle bad)
    (late : ∀ value, middle value → Computes (next value) good bad) :
    Computes (first >>= next) good bad := by
  cases first with
  | ok value => exact late value early
  | error error => exact early

/-- Both computations fail with the same error, or both have values, which are in the relation. -/
inductive ComputesAlike (relation : α → β → Prop) : Except ε α → Except ε β → Prop where
  | ok {value : α} {value' : β} :
      relation value value' → ComputesAlike relation (.ok value) (.ok value')
  | error (error : ε) : ComputesAlike relation (.error error) (.error error)

namespace Outcome

@[simp] theorem error?_done (state : σ) : (done state : Outcome ε σ).error? = none := rfl

@[simp] theorem state_done (state : σ) : (done state : Outcome ε σ).state = state := rfl

@[simp] theorem error?_failed (error : ε) (state : σ) :
    (failed error state).error? = some error := rfl

@[simp] theorem state_failed (error : ε) (state : σ) : (failed error state).state = state := rfl

@[simp] theorem error?_mapState (outcome : Outcome ε σ) (change : σ → τ) :
    (outcome.mapState change).error? = outcome.error? := rfl

@[simp] theorem state_mapState (outcome : Outcome ε σ) (change : σ → τ) :
    (outcome.mapState change).state = change outcome.state := rfl

/-! ## Successes taken apart -/

theorem eq_done_iff {outcome : Outcome ε σ} {state : σ} :
    outcome = .done state ↔ outcome.error? = none ∧ outcome.state = state := by
  constructor
  · intro equal
    exact equal ▸ ⟨rfl, rfl⟩
  · intro ⟨success, equal⟩
    rcases outcome with ⟨error?, last⟩
    cases success
    cases equal
    rfl

/-- A statement that computes a value succeeds when the value exists and what is
done with it succeeds. -/
theorem withValue_succeeds_iff {state : σ} {value : Except ε α} {next : α → Outcome ε σ} :
    (withValue state value next).error? = none ↔
      ∃ result, value = .ok result ∧ (next result).error? = none := by
  cases value <;> simp

/-- A statement that computes a value fails with the value or with what is done with
it. -/
theorem withValue_fails_iff {state : σ} {value : Except ε α} {next : α → Outcome ε σ}
    {error : ε} :
    (withValue state value next).error? = some error ↔
      value = .error error ∨ ∃ result, value = .ok result ∧ (next result).error? = some error := by
  cases value <;> simp

/-- After a success the second of two steps decides. -/
theorem andThen_of_success {outcome : Outcome ε σ} (success : outcome.error? = none)
    (next : σ → Outcome ε σ) : outcome.andThen next = next outcome.state := by
  rcases outcome with ⟨error?, state⟩
  cases success
  rfl

/-- After a failure the second of two steps is left out. -/
theorem andThen_of_failure {outcome : Outcome ε σ} {error : ε}
    (failure : outcome.error? = some error) (next : σ → Outcome ε σ) :
    outcome.andThen next = outcome := by
  rcases outcome with ⟨error?, state⟩
  cases failure
  rfl

theorem andThen_of_ne_none {outcome : Outcome ε σ} (failure : outcome.error? ≠ none)
    (next : σ → Outcome ε σ) : outcome.andThen next = outcome := by
  rcases Option.ne_none_iff_exists'.mp failure with ⟨error, failed⟩
  exact andThen_of_failure failed next

@[simp] theorem andThen_done (outcome : Outcome ε σ) : outcome.andThen done = outcome := by
  rcases outcome with ⟨error?, state⟩
  cases error? <;> rfl

/-- A change of the final state that the second of two steps agrees with may come first. -/
theorem mapState_andThen {outcome : Outcome ε σ} {next : σ → Outcome ε σ} {change : σ → τ}
    {later : τ → Outcome ε τ}
    (commutes : outcome.error? = none →
      (next outcome.state).mapState change = later (change outcome.state)) :
    (outcome.andThen next).mapState change = (outcome.mapState change).andThen later := by
  rcases outcome with ⟨error?, state⟩
  cases error? with
  | none => exact commutes rfl
  | some error => rfl

/-- Two steps succeed when both do. -/
theorem andThen_succeeds_iff {outcome : Outcome ε σ} {next : σ → Outcome ε σ} :
    (outcome.andThen next).error? = none ↔
      outcome.error? = none ∧ (next outcome.state).error? = none := by
  cases success : outcome.error? with
  | none => simp [andThen_of_success success]
  | some error => simp [andThen_of_failure success, success]

/-- Two steps fail with the first one, or with the second one after a success. -/
theorem andThen_fails_iff {outcome : Outcome ε σ} {next : σ → Outcome ε σ} {error : ε} :
    (outcome.andThen next).error? = some error ↔
      outcome.error? = some error ∨
        outcome.error? = none ∧ (next outcome.state).error? = some error := by
  cases success : outcome.error? with
  | none => simp [andThen_of_success success]
  | some error => simp [andThen_of_failure success, success]

theorem result_eq_ok_iff {outcome : Outcome ε σ} :
    outcome.result = .ok () ↔ outcome.error? = none := by
  cases failure : outcome.error? <;> simp [result, failure]

theorem result_eq_error_iff {outcome : Outcome ε σ} {error : ε} :
    outcome.result = .error error ↔ outcome.error? = some error := by
  cases failure : outcome.error? <;> simp [result, failure]

/-! ## Contracts -/

/-- After a success the state satisfies `good`; after a failure the error and the
state satisfy `bad`. -/
def Ensures (outcome : Outcome ε σ) (good : σ → Prop) (bad : ε → σ → Prop) : Prop :=
  match outcome.error? with
  | none => good outcome.state
  | some error => bad error outcome.state

variable {outcome : Outcome ε σ} {good middle : σ → Prop} {bad : ε → σ → Prop}

@[simp] theorem ensures_done {state : σ} :
    (done state : Outcome ε σ).Ensures good bad ↔ good state := Iff.rfl

@[simp] theorem ensures_failed {error : ε} {state : σ} :
    (failed error state).Ensures good bad ↔ bad error state := Iff.rfl

/-- What a contract says of a success. -/
theorem Ensures.of_success (contract : outcome.Ensures good bad)
    (success : outcome.error? = none) : good outcome.state := by
  simpa only [Ensures, success] using contract

/-- What a contract says of a failure. -/
theorem Ensures.of_failure (contract : outcome.Ensures good bad) {error : ε}
    (failure : outcome.error? = some error) : bad error outcome.state := by
  simpa only [Ensures, failure] using contract

/-- What a contract promises in both cases holds in any case. -/
theorem ensures_both_iff : (outcome.Ensures good fun _ => good) ↔ good outcome.state := by
  cases failure : outcome.error? <;> simp [Ensures, failure]

/-- A contract may promise less. -/
theorem Ensures.mono {good' : σ → Prop} {bad' : ε → σ → Prop}
    (contract : outcome.Ensures good bad) (weakenGood : ∀ state, good state → good' state)
    (weakenBad : ∀ error state, bad error state → bad' error state) :
    outcome.Ensures good' bad' := by
  cases failure : outcome.error? with
  | none => simpa only [Ensures, failure] using weakenGood _ (contract.of_success failure)
  | some error =>
      simpa only [Ensures, failure] using weakenBad _ _ (contract.of_failure failure)

theorem Ensures.and {good' : σ → Prop} {bad' : ε → σ → Prop} (left : outcome.Ensures good bad)
    (right : outcome.Ensures good' bad') :
    outcome.Ensures (fun state => good state ∧ good' state)
      fun error state => bad error state ∧ bad' error state := by
  cases failure : outcome.error? with
  | none =>
      simpa only [Ensures, failure] using And.intro (left.of_success failure)
        (right.of_success failure)
  | some error =>
      simpa only [Ensures, failure] using And.intro (left.of_failure failure)
        (right.of_failure failure)

/-- The rule for two steps; a failure of the first one is one of both. -/
theorem Ensures.andThen {next : σ → Outcome ε σ} (first : outcome.Ensures middle bad)
    (second : ∀ state, middle state → (next state).Ensures good bad) :
    (outcome.andThen next).Ensures good bad := by
  cases failure : outcome.error? with
  | none =>
      rw [andThen_of_success failure]
      exact second _ (first.of_success failure)
  | some error =>
      rw [andThen_of_failure failure]
      simpa only [Ensures, failure] using first.of_failure failure

/-- A step that cannot succeed leaves the next one out. -/
theorem Ensures.andThen_of_fails (fails : outcome.Ensures (fun _ => False) bad)
    (next : σ → Outcome ε σ) : (outcome.andThen next).Ensures good bad :=
  fails.andThen fun _ impossible => impossible.elim

/-- The rule for a computed value, which changes no state. -/
theorem ensures_withValue {state : σ} {value : Except ε α} {next : α → Outcome ε σ}
    (failing : ∀ error, value = .error error → bad error state)
    (going : ∀ result, value = .ok result → (next result).Ensures good bad) :
    (withValue state value next).Ensures good bad := by
  cases value with
  | error error => exact failing error rfl
  | ok result => exact going result rfl

/-- The rule for a computed value of which only a contract is known. -/
theorem ensures_withValue_of_computes {state : σ} {value : Except ε α} {next : α → Outcome ε σ}
    {goodValue : α → Prop} {badValue : ε → Prop} (computes : Computes value goodValue badValue)
    (failing : ∀ error, badValue error → bad error state)
    (going : ∀ result, goodValue result → (next result).Ensures good bad) :
    (withValue state value next).Ensures good bad := by
  cases value with
  | error error => exact failing error computes
  | ok result => exact going result computes

/-- The rule for a change of the final state. -/
theorem Ensures.mapState {change : σ → τ} {good' : τ → Prop} {bad' : ε → τ → Prop}
    (contract : outcome.Ensures good bad) (changeGood : ∀ state, good state → good' (change state))
    (changeBad : ∀ error state, bad error state → bad' error (change state)) :
    (outcome.mapState change).Ensures good' bad' := by
  change outcome.Ensures (fun state => good' (change state))
    (fun error state => bad' error (change state))
  exact contract.mono changeGood changeBad

/-- The rule for a loop: what every round preserves holds at the end. -/
theorem ensures_forEach {step : α → σ → Outcome ε σ} (items : List α)
    (round : ∀ item ∈ items, ∀ state, good state → (step item state).Ensures good bad)
    {state : σ} (start : good state) : (forEach step items state).Ensures good bad := by
  induction items generalizing state with
  | nil => exact start
  | cons item rest ih =>
      apply Ensures.andThen (round item List.mem_cons_self state start)
      intro state kept
      exact ih (fun item member => round item (List.mem_cons_of_mem _ member)) kept

/-! ## Errors alone -/

/-- The outcome ends with no other errors than such. -/
abbrev FailsOnly (outcome : Outcome ε σ) (bad : ε → Prop) : Prop :=
  outcome.Ensures (fun _ => True) fun error _ => bad error

theorem failsOnly_withValue {bad : ε → Prop} {state : σ} {value : Except ε α}
    {next : α → Outcome ε σ} (computes : Computes value (fun _ => True) bad)
    (going : ∀ result, (next result).FailsOnly bad) :
    (withValue state value next).FailsOnly bad :=
  ensures_withValue_of_computes computes (fun _ => id) fun result _ => going result

theorem FailsOnly.andThen {bad : ε → Prop} {next : σ → Outcome ε σ}
    (first : outcome.FailsOnly bad) (second : ∀ state, (next state).FailsOnly bad) :
    (outcome.andThen next).FailsOnly bad :=
  Ensures.andThen first fun state _ => second state

theorem failsOnly_forEach {bad : ε → Prop} {step : α → σ → Outcome ε σ} (items : List α)
    (round : ∀ item state, (step item state).FailsOnly bad) (state : σ) :
    (forEach step items state).FailsOnly bad :=
  ensures_forEach items (fun item _ state _ => round item state) trivial

/-! ## Two runs side by side -/

variable {σ' : Type}

/-- The second outcome is like the first one: a success if that is one, with states in the
relation `good`, and otherwise a failure with the same error and states in the relation `bad`.
Nothing is said where the first one fails with an excused error. -/
def SimulatedBy (outcome : Outcome ε σ) (other : Outcome ε σ') (excused : ε → Prop)
    (good bad : σ → σ' → Prop) : Prop :=
  outcome.Ensures (fun state => other.error? = none ∧ good state other.state)
    fun error state => ¬excused error → other.error? = some error ∧ bad state other.state

variable {other : Outcome ε σ'} {excused : ε → Prop} {good middle bad : σ → σ' → Prop}

@[simp] theorem simulatedBy_done {state : σ} {state' : σ'} :
    (done state : Outcome ε σ).SimulatedBy (done state') excused good bad ↔ good state state' := by
  simp [SimulatedBy]

theorem simulatedBy_of_excused {error : ε} (excuse : excused error) (state : σ) :
    (failed error state).SimulatedBy other excused good bad :=
  fun serious => (serious excuse).elim

/-- What the second run is like when the first one succeeds. -/
theorem SimulatedBy.of_success (simulated : outcome.SimulatedBy other excused good bad)
    (success : outcome.error? = none) : other.error? = none ∧ good outcome.state other.state :=
  Ensures.of_success simulated success

/-- What the second run is like when the first one fails. -/
theorem SimulatedBy.of_failure (simulated : outcome.SimulatedBy other excused good bad)
    {error : ε} (failure : outcome.error? = some error) (serious : ¬excused error) :
    other.error? = some error ∧ bad outcome.state other.state :=
  Ensures.of_failure simulated failure serious

theorem SimulatedBy.mono {good' : σ → σ' → Prop}
    (simulated : outcome.SimulatedBy other excused good bad)
    (weaken : ∀ state state', good state state' → good' state state') :
    outcome.SimulatedBy other excused good' bad :=
  Ensures.mono simulated (fun state => And.imp_right (weaken state other.state)) fun _ _ => id

/-- The rule for two steps in both runs. -/
theorem SimulatedBy.andThen {next : σ → Outcome ε σ} {next' : σ' → Outcome ε σ'}
    (first : outcome.SimulatedBy other excused middle bad)
    (second : ∀ state state', middle state state' →
      (next state).SimulatedBy (next' state') excused good bad) :
    (outcome.andThen next).SimulatedBy (other.andThen next') excused good bad := by
  cases failure : outcome.error? with
  | none =>
      rcases first.of_success failure with ⟨success, related⟩
      rw [andThen_of_success failure, andThen_of_success success]
      exact second _ _ related
  | some error =>
      rw [andThen_of_failure failure, SimulatedBy, Ensures, failure]
      intro serious
      rcases first.of_failure failure serious with ⟨same, related⟩
      rw [andThen_of_failure same]
      exact ⟨same, related⟩

/-- The rule for a value that both runs compute. -/
theorem simulatedBy_withValue {state : σ} {state' : σ'} {value : Except ε α}
    {next : α → Outcome ε σ} {next' : α → Outcome ε σ'} (related : bad state state')
    (going : ∀ result, (next result).SimulatedBy (next' result) excused good bad) :
    (withValue state value next).SimulatedBy (withValue state' value next') excused good bad := by
  cases value with
  | error error => exact fun _ => ⟨rfl, related⟩
  | ok result => exact going result

/-- The rule for a change of the final states. -/
theorem SimulatedBy.mapState {τ' : Type} {change : σ → τ} {change' : σ' → τ'}
    {good' bad' : τ → τ' → Prop} (simulated : outcome.SimulatedBy other excused good bad)
    (changeGood : ∀ state state', good state state' → good' (change state) (change' state'))
    (changeBad : ∀ state state', bad state state' → bad' (change state) (change' state')) :
    (outcome.mapState change).SimulatedBy (other.mapState change') excused good' bad' :=
  Ensures.mapState simulated (fun state => And.imp_right (changeGood state other.state))
    fun _ state promise serious => (promise serious).imp_right (changeBad state other.state)

/-- The rule for a loop over the same items in both runs. -/
theorem simulatedBy_forEach {step : α → σ → Outcome ε σ} {step' : α → σ' → Outcome ε σ'}
    (round : ∀ item state state', good state state' →
      (step item state).SimulatedBy (step' item state') excused good bad)
    (items : List α) {state : σ} {state' : σ'} (start : good state state') :
    (forEach step items state).SimulatedBy (forEach step' items state') excused good bad := by
  induction items generalizing state state' with
  | nil => exact simulatedBy_done.mpr start
  | cons item rest ih => exact (round item state state' start).andThen fun _ _ => ih

/-- Both outcomes are successes, or failures with the same error, and in both cases their states
are in the relation. -/
abbrev Alike (outcome : Outcome ε σ) (other : Outcome ε σ') (relation : σ → σ' → Prop) : Prop :=
  outcome.SimulatedBy other (fun _ => False) relation relation

variable {relation : σ → σ' → Prop}

theorem alike_iff :
    outcome.Alike other relation ↔
      other.error? = outcome.error? ∧ relation outcome.state other.state := by
  cases failure : outcome.error? <;> simp [SimulatedBy, Ensures, failure]

/-- The rule for values that both runs compute, each from its own state. -/
theorem alike_withValue {state : σ} {state' : σ'} {value : Except ε α} {value' : Except ε β}
    {next : α → Outcome ε σ} {next' : β → Outcome ε σ'} {values : α → β → Prop}
    (computed : ComputesAlike values value value') (related : relation state state')
    (going : ∀ result result', values result result' →
      (next result).Alike (next' result') relation) :
    (withValue state value next).Alike (withValue state' value' next') relation := by
  cases computed with
  | error error => exact fun _ => ⟨rfl, related⟩
  | ok found => exact going _ _ found

end Outcome

end VectorLang
