import Mathlib.Data.List.Induction
import Mathlib.Data.List.Infix
import VectorLang.Proofs.Env

/-!
# Scopes and their history

An environment takes requests: to open and to close scopes, to declare names, to overwrite
them and to look them up. Here its answers are derived from the history of requests and
replies alone. A declaration lives until the scope that it was made in is closed, and a name
stands for what was written last to its innermost living declaration.
-/

namespace VectorLang

variable {α : Type}

namespace Env

/-! ## Requests and replies -/

/-- What is asked of an environment. -/
inductive Request (α : Type) where
  | enter
  | leave
  | declare (name : Name) (payload : α)
  | update (name : Name) (payload : α)
  | lookup (name : Name)
  deriving DecidableEq, Repr

/-- What an environment answers. -/
inductive Reply (α : Type) where
  | done
  | payload (payload : α)
  | refused (error : NameError)
  deriving DecidableEq, Repr

/-- A request with its reply. -/
structure Event (α : Type) where
  request : Request α
  reply : Reply α
  deriving DecidableEq, Repr

/-- What has happened so far, the first event in front. -/
abbrev History (α : Type) := List (Event α)

/-- Carry out a request; one that is refused changes nothing. -/
def perform (env : Env α) : Request α → Reply α × Env α
  | .enter => (.done, env.enter)
  | .leave => (.done, env.leave)
  | .declare name payload =>
      match env.declare name payload with
      | .ok after => (.done, after)
      | .error error => (.refused error, env)
  | .update name payload =>
      match env.update name payload with
      | .ok (replaced, after) => (.payload replaced, after)
      | .error error => (.refused error, env)
  | .lookup name =>
      match env.lookup name with
      | .ok payload => (.payload payload, env)
      | .error error => (.refused error, env)

/-- The environment behind some requests. -/
def after (env : Env α) (requests : List (Request α)) : Env α :=
  requests.foldl (fun env request => (env.perform request).2) env

/-- What happens at some requests. -/
def history (env : Env α) : List (Request α) → History α
  | [] => []
  | request :: rest =>
      ⟨request, (env.perform request).1⟩ :: (env.perform request).2.history rest

theorem after_concat (env : Env α) (requests : List (Request α)) (request : Request α) :
    env.after (requests ++ [request]) = ((env.after requests).perform request).2 := by
  simp [after]

theorem history_concat (env : Env α) (requests : List (Request α)) (request : Request α) :
    env.history (requests ++ [request]) =
      env.history requests ++ [⟨request, ((env.after requests).perform request).1⟩] := by
  induction requests generalizing env with
  | nil => rfl
  | cons first rest ih => simp [history, after, ih]

theorem map_request_history (env : Env α) (requests : List (Request α)) :
    (env.history requests).map (·.request) = requests := by
  induction requests generalizing env with
  | nil => rfl
  | cons request rest ih => simp [history, ih]

theorem perform_declare_cases (env : Env α) (name : Name) (payload : α) :
    env.innermost.lookup name = none ∧
        env.perform (.declare name payload) =
          (.done, ⟨(name, payload) :: env.innermost, env.outer⟩) ∨
      env.perform (.declare name payload) = (.refused (.alreadyDeclared name), env) := by
  cases bound : List.lookup name env.innermost with
  | none => simp [perform, declare, bound]
  | some old => simp [perform, declare, bound]

theorem perform_update_cases (env : Env α) (name : Name) (payload : α) :
    (∃ old, env.find? name = some old ∧
        env.perform (.update name payload) = (.payload old, env.rebind name payload)) ∨
      env.perform (.update name payload) = (.refused (.undeclared name), env) := by
  cases found : env.find? name with
  | none => simp [perform, update, found]
  | some old => simp [perform, update, found]

theorem perform_lookup (env : Env α) (name : Name) :
    (env.perform (.lookup name)).2 = env := by
  cases found : env.find? name <;> simp [perform, lookup, found]

/-- What was refused changed nothing. -/
theorem perform_of_refused {env : Env α} {request : Request α} {error : NameError}
    (refused : (env.perform request).1 = .refused error) : (env.perform request).2 = env := by
  cases request with
  | enter | leave => simp [perform] at refused
  | declare name payload =>
      rcases env.perform_declare_cases name payload with ⟨_, equal⟩ | equal
      · simp [equal] at refused
      · rw [equal]
  | update name payload =>
      rcases env.perform_update_cases name payload with ⟨_, _, equal⟩ | equal
      · simp [equal] at refused
      · rw [equal]
  | lookup name => exact env.perform_lookup name

/-! ## Declarations that live -/

/-- The request opens a scope. -/
def Request.opens : Request α → Bool
  | .enter => true
  | .leave | .declare _ _ | .update _ _ | .lookup _ => false

/-- The request closes a scope. -/
def Request.closes : Request α → Bool
  | .leave => true
  | .enter | .declare _ _ | .update _ _ | .lookup _ => false

/-- At no time more scopes are closed than were opened. -/
def Balanced (requests : List (Request α)) : Prop :=
  ∀ earlier, earlier <+: requests →
    earlier.countP Request.closes ≤ earlier.countP Request.opens

instance (requests : List (Request α)) : Decidable (Balanced requests) :=
  decidable_of_iff
    (∀ earlier ∈ requests.inits,
      earlier.countP Request.closes ≤ earlier.countP Request.opens)
    (by simp [Balanced])

namespace History

/-- The number of scopes that were opened. -/
def opened (history : History α) : Nat :=
  history.countP (·.request.opens)

/-- The number of scopes that were closed. -/
def closed (history : History α) : Nat :=
  history.countP (·.request.closes)

/-- The number of scopes that were opened and not closed. -/
def nesting (history : History α) : Nat :=
  history.opened - history.closed

/-- The number of scopes that were open in this sense before the event at `time`. -/
def level (history : History α) (time : Nat) : Nat :=
  nesting (history.take time)

/-- The scope that was the innermost one before the event at `place` is still open. -/
def Open (history : History α) (place : Nat) : Prop :=
  ∀ time, place ≤ time → time ≤ history.length → history.level place ≤ history.level time

/-- The name was declared at `place`, in a scope that is still open. -/
def Live (history : History α) (name : Name) (place : Nat) : Prop :=
  (∃ payload, history[place]? = some ⟨.declare name payload, .done⟩) ∧ history.Open place

/-- Of the living declarations of the name, the one at `place` was made in the innermost
scope. -/
def Innermost (history : History α) (name : Name) (place : Nat) : Prop :=
  history.Live name place ∧
    ∀ other, history.Live name other → history.level other ≤ history.level place

/-- The event at `time` wrote the payload to the declaration at `place`: it is the declaration
itself, or an update at a time when that declaration was the innermost one. -/
inductive Writes (history : History α) (name : Name) (place : Nat) : Nat → α → Prop where
  | declare {payload : α} :
      history[place]? = some ⟨.declare name payload, .done⟩ →
      Writes history name place place payload
  | update {time : Nat} {payload replaced : α} :
      history[time]? = some ⟨.update name payload, .payload replaced⟩ →
      Innermost (history.take time) name place → Writes history name place time payload

/-- The payload was written last to the declaration at `place`. -/
def Holds (history : History α) (name : Name) (place : Nat) (payload : α) : Prop :=
  ∃ time, history.Writes name place time payload ∧
    ∀ later other, history.Writes name place later other → later ≤ time

variable {history : History α} {event : Event α} {name : Name} {place time : Nat}
  {payload other : α}

/-! ## One more event -/

theorem getElem?_concat_eq_some_iff {found : Event α} :
    (history ++ [event])[time]? = some found ↔
      history[time]? = some found ∨ time = history.length ∧ event = found := by
  rcases Nat.lt_trichotomy time history.length with before | rfl | behind
  · simp [List.getElem?_append_left before, Nat.ne_of_lt before]
  · simp
  · have outside : (history ++ [event]).length ≤ time := by
      rw [List.length_append, List.length_singleton]
      exact behind
    simp [List.getElem?_eq_none outside, Nat.ne_of_gt behind, Nat.le_of_lt behind]

theorem level_length (history : History α) : history.level history.length = history.nesting := by
  simp [level]

theorem level_concat (history : History α) (event : Event α) (bounded : time ≤ history.length) :
    level (history ++ [event]) time = history.level time := by
  rw [level, List.take_append_of_le_length bounded]
  rfl

theorem opened_concat (history : History α) (event : Event α) :
    opened (history ++ [event]) = history.opened + if event.request.opens then 1 else 0 := by
  simp [opened, List.countP_singleton]

theorem closed_concat (history : History α) (event : Event α) :
    closed (history ++ [event]) = history.closed + if event.request.closes then 1 else 0 := by
  simp [closed, List.countP_singleton]

/-- Only the opening and the closing of scopes counts. -/
theorem nesting_concat (history : History α) (event : Event α)
    (opens : event.request.opens = false) (closes : event.request.closes = false) :
    nesting (history ++ [event]) = history.nesting := by
  simp [nesting, opened_concat, closed_concat, opens, closes]

theorem open_length (history : History α) : history.Open history.length := by
  intro time le bounded
  exact Nat.le_of_eq (congrArg history.level (Nat.le_antisymm le bounded))

theorem open_concat_iff (history : History α) (event : Event α) (bounded : place ≤ history.length) :
    Open (history ++ [event]) place ↔
      history.Open place ∧ history.level place ≤ nesting (history ++ [event]) := by
  have last : (history ++ [event]).length = history.length + 1 := by simp
  rw [← level_length, last, ← level_concat history event bounded]
  constructor
  · intro still
    constructor
    · intro time le early
      rw [← level_concat history event bounded, ← level_concat history event early]
      exact still time le (by omega)
    · exact still _ (by omega) (by omega)
  · intro ⟨still, kept⟩ time le late
    rcases Nat.lt_or_ge history.length time with behind | early
    · rwa [Nat.le_antisymm (Nat.le_trans late (Nat.le_of_eq last)) behind]
    · rw [level_concat history event bounded, level_concat history event early]
      exact still time le early

theorem Live.lt_length (live : history.Live name place) : place < history.length := by
  rcases live.1 with ⟨payload, declared⟩
  exact (List.getElem?_eq_some_iff.mp declared).1

/-- A declaration lives on while its scope is open, and a new one comes to life. -/
theorem live_concat_iff :
    Live (history ++ [event]) name place ↔
      history.Live name place ∧ history.level place ≤ nesting (history ++ [event]) ∨
        place = history.length ∧ ∃ payload, event = ⟨.declare name payload, .done⟩ := by
  constructor
  · intro ⟨⟨payload, declared⟩, still⟩
    rcases getElem?_concat_eq_some_iff.mp declared with earlier | ⟨rfl, rfl⟩
    · have bounded := Nat.le_of_lt (List.getElem?_eq_some_iff.mp earlier).1
      rw [open_concat_iff history event bounded] at still
      exact .inl ⟨⟨⟨payload, earlier⟩, still.1⟩, still.2⟩
    · exact .inr ⟨rfl, payload, rfl⟩
  · rintro (⟨live, kept⟩ | ⟨rfl, payload, rfl⟩)
    · rcases live.1 with ⟨payload, declared⟩
      refine ⟨⟨payload, getElem?_concat_eq_some_iff.mpr (.inl declared)⟩, ?_⟩
      exact (open_concat_iff history event (Nat.le_of_lt live.lt_length)).mpr ⟨live.2, kept⟩
    · refine ⟨⟨payload, getElem?_concat_eq_some_iff.mpr (.inr ⟨rfl, rfl⟩)⟩, ?_⟩
      rw [open_concat_iff history _ (Nat.le_refl _), level_length, nesting_concat history _ rfl rfl]
      exact ⟨history.open_length, Nat.le_refl _⟩

theorem Live.level_le (live : history.Live name place) :
    history.level place ≤ history.nesting := by
  rw [← level_length]
  exact live.2 _ (Nat.le_of_lt live.lt_length) (Nat.le_refl _)

theorem Live.level_concat (live : history.Live name place) (event : Event α) :
    level (history ++ [event]) place = history.level place :=
  History.level_concat history event (Nat.le_of_lt live.lt_length)

theorem Writes.lt_length (writes : history.Writes name place time payload) :
    time < history.length := by
  cases writes with
  | declare declared => exact (List.getElem?_eq_some_iff.mp declared).1
  | update updated _ => exact (List.getElem?_eq_some_iff.mp updated).1

/-- The last of the events so far wrote the payload to the declaration at `place`. -/
def WritesNow (history : History α) (event : Event α) (name : Name) (place : Nat) (payload : α) :
    Prop :=
  place = history.length ∧ event = ⟨.declare name payload, .done⟩ ∨
    history.Innermost name place ∧
      ∃ replaced, event = ⟨.update name payload, .payload replaced⟩

theorem writes_concat_iff :
    Writes (history ++ [event]) name place time payload ↔
      history.Writes name place time payload ∨
        time = history.length ∧ history.WritesNow event name place payload := by
  constructor
  · intro writes
    cases writes with
    | declare declared =>
        rcases getElem?_concat_eq_some_iff.mp declared with earlier | ⟨rfl, rfl⟩
        · exact .inl (.declare earlier)
        · exact .inr ⟨rfl, .inl ⟨rfl, rfl⟩⟩
    | update updated innermost =>
        rcases getElem?_concat_eq_some_iff.mp updated with earlier | ⟨rfl, rfl⟩
        · have bounded := Nat.le_of_lt (List.getElem?_eq_some_iff.mp earlier).1
          rw [List.take_append_of_le_length bounded] at innermost
          exact .inl (.update earlier innermost)
        · rw [List.take_left] at innermost
          exact .inr ⟨rfl, .inr ⟨innermost, _, rfl⟩⟩
  · rintro (writes | ⟨rfl, ⟨rfl, rfl⟩ | ⟨innermost, replaced, rfl⟩⟩)
    · have bounded := Nat.le_of_lt writes.lt_length
      cases writes with
      | declare declared => exact .declare (getElem?_concat_eq_some_iff.mpr (.inl declared))
      | update updated innermost =>
          refine .update (getElem?_concat_eq_some_iff.mpr (.inl updated)) ?_
          rwa [List.take_append_of_le_length bounded]
    · exact .declare (getElem?_concat_eq_some_iff.mpr (.inr ⟨rfl, rfl⟩))
    · refine .update (getElem?_concat_eq_some_iff.mpr (.inr ⟨rfl, rfl⟩)) ?_
      rwa [List.take_left]

/-- What was written stays there until something else is. -/
theorem Holds.concat (holds : history.Holds name place payload)
    (unwritten : ∀ other, ¬history.WritesNow event name place other) :
    Holds (history ++ [event]) name place payload := by
  rcases holds with ⟨time, writes, last⟩
  refine ⟨time, writes_concat_iff.mpr (.inl writes), ?_⟩
  intro later other written
  rcases writes_concat_iff.mp written with earlier | ⟨_, now⟩
  · exact last later other earlier
  · exact absurd now (unwritten other)

theorem WritesNow.holds (now : history.WritesNow event name place payload) :
    Holds (history ++ [event]) name place payload := by
  refine ⟨history.length, writes_concat_iff.mpr (.inr ⟨rfl, now⟩), ?_⟩
  intro later other written
  rcases writes_concat_iff.mp written with earlier | ⟨rfl, _⟩
  · exact Nat.le_of_lt earlier.lt_length
  · exact Nat.le_refl _

/-- An event writes one payload. -/
theorem Writes.unique (writes : history.Writes name place time payload)
    (again : history.Writes name place time other) : payload = other := by
  cases writes with
  | declare declared =>
      cases again with
      | declare found => simpa [declared] using found
      | update found => simp [declared] at found
  | update updated =>
      cases again with
      | declare found => simp [updated] at found
      | update found =>
          have equal : Event.mk _ _ = Event.mk _ _ := Option.some.inj (updated.symm.trans found)
          simp at equal
          exact equal.1

theorem Holds.unique (holds : history.Holds name place payload)
    (again : history.Holds name place other) : payload = other := by
  rcases holds with ⟨time, writes, last⟩
  rcases again with ⟨later, writesToo, lastToo⟩
  have same : time = later :=
    Nat.le_antisymm (lastToo time payload writes) (last later other writesToo)
  subst same
  exact writes.unique writesToo

end History

end Env

/-! ## Bindings by level -/

namespace Scope

/-- The payload that the scope of the given level binds the name to; the outermost scope is of
level zero. -/
def boundAt (name : Name) : List (Scope α) → Nat → Option α
  | [], _ => none
  | scope :: outer, level =>
      if level = outer.length then scope.lookup name else boundAt name outer level

/-- The innermost scope that binds the name is of this level. -/
def Topmost (name : Name) (scopes : List (Scope α)) (level : Nat) : Prop :=
  (∃ payload, boundAt name scopes level = some payload) ∧
    ∀ other payload, boundAt name scopes other = some payload → other ≤ level

variable {name query : Name} {scope : Scope α} {scopes outer : List (Scope α)} {level : Nat}
  {payload : α}

@[simp] theorem boundAt_innermost (name : Name) (scope : Scope α) (outer : List (Scope α)) :
    boundAt name (scope :: outer) outer.length = scope.lookup name := by
  simp [boundAt]

theorem boundAt_cons_of_ne (inner : level ≠ outer.length) :
    boundAt name (scope :: outer) level = boundAt name outer level := by
  simp [boundAt, inner]

theorem lt_length_of_boundAt (bound : boundAt name scopes level = some payload) :
    level < scopes.length := by
  induction scopes with
  | nil => contradiction
  | cons scope outer ih =>
      by_cases innermost : level = outer.length
      · simp [innermost]
      · rw [boundAt_cons_of_ne innermost] at bound
        exact Nat.lt_succ_of_lt (ih bound)

theorem boundAt_eq_none (beyond : scopes.length ≤ level) : boundAt name scopes level = none := by
  cases bound : boundAt name scopes level with
  | none => rfl
  | some payload => exact absurd (lt_length_of_boundAt bound) (Nat.not_lt.mpr beyond)

theorem boundAt_declare (name query : Name) (payload : α) (scope : Scope α)
    (outer : List (Scope α)) (level : Nat) :
    boundAt query (((name, payload) :: scope) :: outer) level =
      if query = name ∧ level = outer.length then some payload
      else boundAt query (scope :: outer) level := by
  by_cases innermost : level = outer.length
  · subst innermost
    by_cases same : query = name
    · simp [same]
    · simp [same, lookup_cons_of_ne same]
  · simp [innermost, boundAt_cons_of_ne innermost]

theorem boundAt_cons_of_unbound (unbound : scope.lookup name = none) :
    boundAt name (scope :: outer) level = boundAt name outer level := by
  by_cases innermost : level = outer.length
  · rw [innermost, boundAt_innermost, unbound, boundAt_eq_none (Nat.le_refl _)]
  · exact boundAt_cons_of_ne innermost

theorem topmost_cons_of_unbound (unbound : scope.lookup name = none) :
    Topmost name (scope :: outer) level ↔ Topmost name outer level := by
  simp [Topmost, boundAt_cons_of_unbound unbound]

theorem topmost_cons_of_bound (bound : scope.lookup name = some payload) :
    Topmost name (scope :: outer) level ↔ level = outer.length := by
  have atTop : boundAt name (scope :: outer) outer.length = some payload := by simpa using bound
  have below {other : Nat} {old : α} (found : boundAt name (scope :: outer) other = some old) :
      other ≤ outer.length := Nat.le_of_lt_succ (lt_length_of_boundAt found)
  constructor
  · intro ⟨⟨old, found⟩, highest⟩
    exact Nat.le_antisymm (below found) (highest _ payload atTop)
  · rintro rfl
    exact ⟨⟨payload, atTop⟩, fun other old found => below found⟩

/-- A look-up from the inside out ends in the innermost scope that binds the name. -/
theorem Topmost.findSome?_eq (topmost : Topmost name scopes level) :
    scopes.findSome? (·.lookup name) = boundAt name scopes level := by
  induction scopes with
  | nil => rfl
  | cons scope outer ih =>
      rw [List.findSome?_cons]
      cases bound : scope.lookup name with
      | some found =>
          rw [(topmost_cons_of_bound bound).mp topmost, boundAt_innermost, bound]
      | none =>
          rw [boundAt_cons_of_unbound bound]
          exact ih ((topmost_cons_of_unbound bound).mp topmost)

theorem exists_topmost (found : scopes.findSome? (·.lookup name) = some payload) :
    ∃ level, Topmost name scopes level := by
  induction scopes with
  | nil => contradiction
  | cons scope outer ih =>
      rw [List.findSome?_cons] at found
      cases bound : scope.lookup name with
      | some inner => exact ⟨outer.length, (topmost_cons_of_bound bound).mpr rfl⟩
      | none =>
          rw [bound] at found
          rcases ih found with ⟨level, topmost⟩
          exact ⟨level, (topmost_cons_of_unbound bound).mpr topmost⟩

theorem boundAt_of_findSome?_eq_none (missing : scopes.findSome? (·.lookup name) = none) :
    boundAt name scopes level = none := by
  induction scopes with
  | nil => rfl
  | cons scope outer ih =>
      rw [List.findSome?_cons] at missing
      cases bound : scope.lookup name with
      | some inner => simp [bound] at missing
      | none =>
          rw [bound] at missing
          rw [boundAt_cons_of_unbound bound, ih missing]

theorem length_rebindFirst (name : Name) (payload : α) (scopes : List (Scope α)) :
    (rebindFirst name payload scopes).length = scopes.length := by
  induction scopes with
  | nil => rfl
  | cons scope outer ih =>
      rw [rebindFirst]
      split
      · rfl
      · exact congrArg Nat.succ ih

/-- Overwriting a name reaches the innermost scope that binds it, and changes nothing else. -/
theorem boundAt_rebindFirst_cases (name query : Name) (payload : α) (scopes : List (Scope α))
    (level : Nat) :
    (query = name ∧ Topmost name scopes level) ∧
        boundAt query (rebindFirst name payload scopes) level = some payload ∨
      ¬(query = name ∧ Topmost name scopes level) ∧
        boundAt query (rebindFirst name payload scopes) level = boundAt query scopes level := by
  induction scopes with
  | nil =>
      refine .inr ⟨?_, rfl⟩
      rintro ⟨_, ⟨_, found⟩, _⟩
      contradiction
  | cons scope outer ih =>
      rw [rebindFirst]
      cases bound : scope.lookup name with
      | some inner =>
          rw [topmost_cons_of_bound bound]
          by_cases innermost : level = outer.length
          · subst innermost
            rw [boundAt_innermost, boundAt_innermost, lookup_rebind]
            by_cases same : query = name
            · subst same
              simp [bound]
            · simp [same]
          · rw [boundAt_cons_of_ne innermost, boundAt_cons_of_ne innermost]
            exact .inr ⟨fun both => innermost both.2, rfl⟩
      | none =>
          rw [topmost_cons_of_unbound bound]
          by_cases innermost : level = outer.length
          · subst innermost
            refine .inr ⟨?_, by simp [boundAt, length_rebindFirst]⟩
            rintro ⟨_, ⟨_, found⟩, _⟩
            exact absurd (lt_length_of_boundAt found) (Nat.lt_irrefl _)
          · have further : level ≠ (rebindFirst name payload outer).length := by
              rwa [length_rebindFirst]
            rw [boundAt_cons_of_ne further, boundAt_cons_of_ne innermost]
            exact ih

end Scope

/-! ## Environments and histories -/

namespace Env

/-- The environment is what the history says: its scopes are those that are open, and they
bind what the living declarations hold. -/
structure Records (env : Env α) (history : History α) : Prop where
  nested : env.outer.length + history.closed = history.opened
  bound : ∀ name place, history.Live name place →
    ∃ payload, Scope.boundAt name env.scopes (history.level place) = some payload ∧
      history.Holds name place payload
  declared : ∀ name level payload, Scope.boundAt name env.scopes level = some payload →
    ∃ place, history.Live name place ∧ history.level place = level
  unique : ∀ name place other, history.Live name place → history.Live name other →
    history.level place = history.level other → place = other

namespace Records

variable {env after : Env α} {history : History α} {event : Event α} {name : Name} {place : Nat}

theorem empty : Records (.empty : Env α) [] := by
  have noneLive (name : Name) (place : Nat) : ¬History.Live ([] : History α) name place :=
    fun live => absurd live.lt_length (Nat.not_lt_zero place)
  constructor
  · rfl
  · exact fun name place live => absurd live (noneLive name place)
  · intro name level payload bound
    rw [show (Env.empty : Env α).scopes = [[]] from rfl] at bound
    simp [Scope.boundAt] at bound
  · exact fun name place other live => absurd live (noneLive name place)

theorem nesting_eq (records : env.Records history) : history.nesting = env.outer.length := by
  rw [History.nesting, ← records.nested, Nat.add_sub_cancel]

/-- A declaration is the innermost one of its name when its scope is. -/
theorem innermost_iff (records : env.Records history) (live : history.Live name place) :
    history.Innermost name place ↔ Scope.Topmost name env.scopes (history.level place) := by
  constructor
  · intro innermost
    rcases records.bound name place live with ⟨payload, bound, _⟩
    refine ⟨⟨payload, bound⟩, ?_⟩
    intro level other found
    rcases records.declared name level other found with ⟨otherPlace, otherLive, rfl⟩
    exact innermost.2 otherPlace otherLive
  · intro topmost
    refine ⟨live, ?_⟩
    intro other otherLive
    rcases records.bound name other otherLive with ⟨payload, bound, _⟩
    exact topmost.2 _ payload bound

/-- The step of an event that writes nothing: the scopes that are still open bind what they
did. -/
theorem concat_of_kept (records : env.Records history)
    (nested : after.outer.length + History.closed (history ++ [event]) =
      History.opened (history ++ [event]))
    (kept : ∀ name level, level ≤ after.outer.length →
      Scope.boundAt name after.scopes level = Scope.boundAt name env.scopes level)
    (undeclared : ∀ name payload, event ≠ ⟨.declare name payload, .done⟩)
    (unwritten : ∀ name payload replaced, event ≠ ⟨.update name payload, .payload replaced⟩) :
    after.Records (history ++ [event]) := by
  have nesting : History.nesting (history ++ [event]) = after.outer.length := by
    rw [History.nesting, ← nested, Nat.add_sub_cancel]
  have liveIff (name : Name) (place : Nat) : History.Live (history ++ [event]) name place ↔
      history.Live name place ∧ history.level place ≤ after.outer.length := by
    simp [History.live_concat_iff, nesting, undeclared]
  constructor
  · exact nested
  · intro name place live
    rcases (liveIff name place).mp live with ⟨earlier, still⟩
    rcases records.bound name place earlier with ⟨payload, bound, holds⟩
    refine ⟨payload, ?_, holds.concat ?_⟩
    · rw [earlier.level_concat, kept name _ still, bound]
    · rintro other (⟨_, equal⟩ | ⟨_, replaced, equal⟩)
      · exact undeclared name other equal
      · exact unwritten name other replaced equal
  · intro name bindingLevel payload bound
    have still : bindingLevel ≤ after.outer.length :=
      Nat.le_of_lt_succ (Scope.lt_length_of_boundAt bound)
    rw [kept name _ still] at bound
    rcases records.declared name bindingLevel payload bound with ⟨place, live, rfl⟩
    exact ⟨place, (liveIff name place).mpr ⟨live, still⟩, live.level_concat event⟩
  · intro name place other live otherLive
    rw [liveIff] at live otherLive
    rw [live.1.level_concat, otherLive.1.level_concat]
    exact records.unique name place other live.1 otherLive.1

/-- The step of an event that leaves the environment as it is. -/
theorem concat_of_quiet (records : env.Records history) (opens : event.request.opens = false)
    (closes : event.request.closes = false)
    (undeclared : ∀ name payload, event ≠ ⟨.declare name payload, .done⟩)
    (unwritten : ∀ name payload replaced, event ≠ ⟨.update name payload, .payload replaced⟩) :
    env.Records (history ++ [event]) := by
  refine records.concat_of_kept ?_ (fun _ _ _ => rfl) undeclared unwritten
  simpa [History.opened_concat, History.closed_concat, opens, closes] using records.nested

/-- The step of a declaration. -/
theorem concat_declare (records : env.Records history)
    (absent : env.innermost.lookup name = none) (payload : α) :
    Records ⟨(name, payload) :: env.innermost, env.outer⟩
      (history ++ [⟨.declare name payload, .done⟩]) := by
  have liveIff {query : Name} {place : Nat} :
      History.Live (history ++ [⟨.declare name payload, .done⟩]) query place ↔
        history.Live query place ∨ place = history.length ∧ query = name := by
    rw [History.live_concat_iff, History.nesting_concat history _ rfl rfl]
    refine or_congr ⟨And.left, fun live => ⟨live, live.level_le⟩⟩ (and_congr_right fun _ => ?_)
    simp [eq_comm]
  have newLevel : History.level (history ++ [⟨.declare name payload, .done⟩]) history.length =
      env.outer.length := by
    rw [History.level_concat history _ (Nat.le_refl _), History.level_length, records.nesting_eq]
  have fresh {place : Nat} (live : history.Live name place) :
      history.level place ≠ env.outer.length := by
    intro innermost
    rcases records.bound name place live with ⟨old, bound, _⟩
    rw [innermost, Env.scopes, Scope.boundAt_innermost, absent] at bound
    contradiction
  constructor
  · simpa [History.opened_concat, History.closed_concat, Request.opens, Request.closes]
      using records.nested
  · intro query place live
    rcases liveIff.mp live with earlier | ⟨rfl, rfl⟩
    · rcases records.bound query place earlier with ⟨old, bound, holds⟩
      have other : ¬(query = name ∧ history.level place = env.outer.length) := by
        rintro ⟨rfl, innermost⟩
        exact fresh earlier innermost
      refine ⟨old, ?_, holds.concat ?_⟩
      · rw [earlier.level_concat, Env.scopes, Scope.boundAt_declare, if_neg other]
        exact bound
      · rintro written (⟨rfl, _⟩ | ⟨_, _, equal⟩)
        · exact absurd earlier.lt_length (Nat.lt_irrefl _)
        · simp at equal
    · refine ⟨payload, ?_, History.WritesNow.holds (.inl ⟨rfl, rfl⟩)⟩
      rw [newLevel, Env.scopes, Scope.boundAt_declare, if_pos ⟨rfl, rfl⟩]
  · intro query level old bound
    rw [Env.scopes, Scope.boundAt_declare] at bound
    split at bound
    case isTrue new =>
      rcases new with ⟨rfl, rfl⟩
      exact ⟨history.length, liveIff.mpr (.inr ⟨rfl, rfl⟩), newLevel⟩
    case isFalse =>
      rcases records.declared query level old bound with ⟨place, live, rfl⟩
      exact ⟨place, liveIff.mpr (.inl live), live.level_concat _⟩
  · intro query place other live otherLive
    rcases liveIff.mp live with earlier | ⟨rfl, rfl⟩
    · rcases liveIff.mp otherLive with otherEarlier | ⟨rfl, rfl⟩
      · rw [earlier.level_concat, otherEarlier.level_concat]
        exact records.unique query place other earlier otherEarlier
      · rw [earlier.level_concat, newLevel]
        exact fun same => absurd same (fresh earlier)
    · rcases liveIff.mp otherLive with otherEarlier | ⟨rfl, _⟩
      · rw [newLevel, otherEarlier.level_concat]
        exact fun same => absurd same.symm (fresh otherEarlier)
      · exact fun _ => rfl

/-- The step of an update, which reaches the innermost living declaration of the name. -/
theorem concat_update (records : env.Records history) (name : Name) (payload replaced : α) :
    (env.rebind name payload).Records
      (history ++ [⟨.update name payload, .payload replaced⟩]) := by
  have liveIff {query : Name} {place : Nat} :
      History.Live (history ++ [⟨.update name payload, .payload replaced⟩]) query place ↔
        history.Live query place := by
    rw [History.live_concat_iff, History.nesting_concat history _ rfl rfl]
    simpa using fun live : history.Live query place => live.level_le
  constructor
  · have sameDepth : (env.rebind name payload).outer.length = env.outer.length := by
      have sameLength := Scope.length_rebindFirst name payload env.scopes
      rw [← Env.scopes_rebind] at sameLength
      exact Nat.succ.inj sameLength
    simpa [sameDepth, History.opened_concat, History.closed_concat, Request.opens, Request.closes]
      using records.nested
  · intro query place live
    rw [liveIff] at live
    rw [live.level_concat, Env.scopes_rebind]
    rcases records.bound query place live with ⟨old, bound, holds⟩
    rcases Scope.boundAt_rebindFirst_cases name query payload env.scopes (history.level place) with
      ⟨⟨rfl, topmost⟩, now⟩ | ⟨other, kept⟩
    · refine ⟨payload, now, History.WritesNow.holds (.inr ⟨?_, replaced, rfl⟩)⟩
      exact (records.innermost_iff live).mpr topmost
    · refine ⟨old, kept.trans bound, holds.concat ?_⟩
      rintro written (⟨_, equal⟩ | ⟨innermost, _, equal⟩)
      · simp at equal
      · have same : query = name := by simp at equal; exact equal.1.1.symm
        subst same
        exact other ⟨rfl, (records.innermost_iff live).mp innermost⟩
  · intro query level found bound
    have before : ∃ old, Scope.boundAt query env.scopes level = some old := by
      rw [Env.scopes_rebind] at bound
      rcases Scope.boundAt_rebindFirst_cases name query payload env.scopes level with
        ⟨⟨rfl, topmost⟩, _⟩ | ⟨_, kept⟩
      · exact topmost.1
      · exact ⟨found, kept.symm.trans bound⟩
    rcases before with ⟨old, bound⟩
    rcases records.declared query level old bound with ⟨place, live, rfl⟩
    exact ⟨place, liveIff.mpr live, live.level_concat _⟩
  · intro query place other live otherLive
    rw [liveIff] at live otherLive
    rw [live.level_concat, otherLive.level_concat]
    exact records.unique query place other live otherLive

/-- The step of any request; a scope is only closed if there is one around it. -/
theorem perform (records : env.Records history) (request : Request α)
    (nested : request = .leave → env.outer ≠ []) :
    (env.perform request).2.Records (history ++ [⟨request, (env.perform request).1⟩]) := by
  cases request with
  | enter =>
      refine records.concat_of_kept ?_ ?_ (by simp) (by simp)
      · have counted := records.nested
        simp [History.opened_concat, History.closed_concat, Env.perform, Env.enter, Env.scopes,
          Request.opens, Request.closes]
        omega
      · intro name level bounded
        exact Scope.boundAt_cons_of_unbound rfl
  | leave =>
      rcases env with ⟨innermost, outer⟩
      cases outer with
      | nil => exact absurd rfl (nested rfl)
      | cons scope outer =>
          refine records.concat_of_kept ?_ ?_ (by simp) (by simp)
          · have counted := records.nested
            simp [History.opened_concat, History.closed_concat, Env.perform, Env.leave,
              Env.leave?, Request.opens, Request.closes] at counted ⊢
            omega
          · intro name level bounded
            exact (Scope.boundAt_cons_of_ne (Nat.ne_of_lt (Nat.lt_succ_of_le bounded))).symm
  | declare name payload =>
      rcases env.perform_declare_cases name payload with ⟨absent, equal⟩ | equal
      · rw [equal]
        exact records.concat_declare absent payload
      · rw [equal]
        exact records.concat_of_quiet rfl rfl (by simp) (by simp)
  | update name payload =>
      rcases env.perform_update_cases name payload with ⟨old, _, equal⟩ | equal
      · rw [equal]
        exact records.concat_update name payload old
      · rw [equal]
        exact records.concat_of_quiet rfl rfl (by simp) (by simp)
  | lookup name =>
      rw [env.perform_lookup]
      exact records.concat_of_quiet rfl rfl (by simp) (by simp)

/-- A name is bound to what its innermost living declaration holds. -/
theorem find?_eq_some_iff (records : env.Records history) {payload : α} :
    env.find? name = some payload ↔
      ∃ place, history.Innermost name place ∧ history.Holds name place payload := by
  constructor
  · intro found
    rcases Scope.exists_topmost found with ⟨level, topmost⟩
    rcases topmost.1 with ⟨old, bound⟩
    rcases records.declared name level old bound with ⟨place, live, rfl⟩
    rcases records.bound name place live with ⟨held, bound, holds⟩
    have equal : held = payload := by
      rw [Env.find?, topmost.findSome?_eq, bound] at found
      exact Option.some.inj found
    exact ⟨place, (records.innermost_iff live).mpr topmost, equal ▸ holds⟩
  · rintro ⟨place, innermost, holds⟩
    have topmost := (records.innermost_iff innermost.1).mp innermost
    rcases records.bound name place innermost.1 with ⟨held, bound, heldToo⟩
    rw [Env.find?, topmost.findSome?_eq, bound, heldToo.unique holds]

/-- A name is unbound if none of its declarations lives. -/
theorem find?_eq_none_iff (records : env.Records history) :
    env.find? name = none ↔ ∀ place, ¬history.Live name place := by
  constructor
  · intro missing place live
    rcases records.bound name place live with ⟨payload, bound, _⟩
    rw [Scope.boundAt_of_findSome?_eq_none missing] at bound
    contradiction
  · intro noneLive
    cases found : env.find? name with
    | none => rfl
    | some payload =>
        rcases records.find?_eq_some_iff.mp found with ⟨place, innermost, _⟩
        exact absurd innermost.1 (noneLive place)

/-- A name is bound in the innermost scope if it was declared there. -/
theorem innermost_lookup_ne_none_iff (records : env.Records history) :
    env.innermost.lookup name ≠ none ↔
      ∃ place, history.Live name place ∧ history.level place = history.nesting := by
  have atTop : Scope.boundAt name env.scopes history.nesting = env.innermost.lookup name := by
    rw [records.nesting_eq]
    exact Scope.boundAt_innermost name env.innermost env.outer
  rw [← atTop, Option.ne_none_iff_exists']
  constructor
  · intro ⟨payload, bound⟩
    exact records.declared name _ payload bound
  · intro ⟨place, live, level⟩
    rcases records.bound name place live with ⟨payload, bound, _⟩
    exact ⟨payload, level ▸ bound⟩

end Records

theorem opened_history (env : Env α) (requests : List (Request α)) :
    (env.history requests).opened = requests.countP Request.opens := by
  conv_rhs => rw [← env.map_request_history requests, List.countP_map]
  rfl

theorem closed_history (env : Env α) (requests : List (Request α)) :
    (env.history requests).closed = requests.countP Request.closes := by
  conv_rhs => rw [← env.map_request_history requests, List.countP_map]
  rfl

/-- The run of requests on an environment without bindings. -/
theorem records_history {requests : List (Request α)} (balanced : Balanced requests) :
    (empty.after requests).Records (empty.history requests) := by
  induction requests using List.reverseRecOn with
  | nil => exact .empty
  | append_singleton requests request ih =>
      have earlier : Balanced requests := fun before early =>
        balanced before (early.trans (List.prefix_append _ _))
      have records := ih earlier
      rw [after_concat, history_concat]
      apply records.perform
      rintro rfl lone
      have counted := records.nested
      have closable := balanced _ List.prefix_rfl
      rw [opened_history, closed_history, lone] at counted
      simp only [List.countP_append, List.countP_singleton, Request.opens, Request.closes]
        at closable
      simp at closable counted
      omega

/-- What an environment answers behind any balanced requests, by their history alone. A name
stands for the payload that was written last to its innermost living declaration, and is
undeclared if there is none; an update replaces what a look-up finds; a declaration is refused
exactly if a living one of its name was made in the innermost open scope. The depth counts the
open scopes, and whatever is refused leaves no trace in later answers. -/
theorem lexical_scoping {requests : List (Request α)} (balanced : Balanced requests) :
    let env := empty.after requests
    let history := empty.history requests
    (∀ name payload, env.lookup name = .ok payload ↔
      ∃ place, history.Innermost name place ∧ history.Holds name place payload) ∧
    (∀ name error, env.lookup name = .error error ↔
      error = .undeclared name ∧ ∀ place, ¬history.Live name place) ∧
    (∀ name payload replaced, (∃ after, env.update name payload = .ok (replaced, after)) ↔
      env.lookup name = .ok replaced) ∧
    (∀ name payload error, env.update name payload = .error error ↔
      env.lookup name = .error error) ∧
    (∀ name payload error, env.declare name payload = .error error ↔
      error = .alreadyDeclared name ∧
        ∃ place, history.Live name place ∧ history.level place = history.nesting) ∧
    env.depth + requests.countP Request.closes = 1 + requests.countP Request.opens ∧
    ∀ (request : Request α) (error : NameError) (more : List (Request α)),
      (env.perform request).1 = .refused error →
        env.history (request :: more) = ⟨request, .refused error⟩ :: env.history more := by
  intro env history
  have records : env.Records history := records_history balanced
  refine ⟨?_, ?_, ?_, ?_, ?_, ?_, ?_⟩
  · intro name payload
    rw [← records.find?_eq_some_iff]
    cases found : env.find? name <;> simp [lookup, found]
  · intro name error
    rw [← records.find?_eq_none_iff]
    cases found : env.find? name <;> simp [lookup, found, eq_comm]
  · intro name payload replaced
    cases found : env.find? name <;> simp [lookup, update, found]
  · intro name payload error
    cases found : env.find? name <;> simp [lookup, update, found]
  · intro name payload error
    rw [← records.innermost_lookup_ne_none_iff]
    cases bound : List.lookup name env.innermost <;> simp [declare, bound, eq_comm]
  · have counted := records.nested
    rw [opened_history, closed_history] at counted
    rw [depth, scopes, List.length_cons]
    omega
  · intro request error more refused
    rw [Env.history, refused, perform_of_refused refused]

/-- An update in an inner scope that hits the outer binding survives the scope, one that hits
the inner binding does not; a refused declaration is forgotten. -/
theorem lexical_scoping_of_shadowed :
    let requests : List (Request Nat) :=
      [.declare "x" 1, .enter, .update "x" 2, .declare "x" 3, .update "x" 4, .declare "x" 5, .leave]
    let env := empty.after requests
    let history := empty.history requests
    Balanced requests ∧
    (∃ place, history.Innermost "x" place ∧ history.Holds "x" place 2) ∧
    (∀ place, ¬history.Live "y" place) ∧
    (∃ place, history.Live "x" place ∧ history.level place = history.nesting) ∧
    env.depth = 1 ∧
    env.history [.update "y" 6, .lookup "x"] =
      [⟨.update "y" 6, .refused (.undeclared "y")⟩, ⟨.lookup "x", .payload 2⟩] := by
  intro requests env history
  have balanced : Balanced requests := by decide
  rcases lexical_scoping balanced with ⟨found, missing, _, _, refused, depth, forgotten⟩
  refine ⟨balanced, ?_, ?_, ?_, ?_, ?_⟩
  · exact (found "x" 2).mp (by decide)
  · exact ((missing "y" (.undeclared "y")).mp (by decide)).2
  · exact ((refused "x" 7 (.alreadyDeclared "x")).mp (by decide)).2
  · exact Nat.add_right_cancel depth
  · exact forgotten (.update "y" 6) (.undeclared "y") [.lookup "x"] (by decide)

end Env

end VectorLang
