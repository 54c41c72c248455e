import VectorLang.Proofs.Descent
import VectorLang.Proofs.Outcome

/-!
# Following the descent token by token

The readers take up one token at a time, and the procedures of the descent call each other.
A reader follows a procedure if it takes up the tokens that the procedure moves over, and
refuses the token that the procedure gives up at, with the same wish.
-/

namespace VectorLang.Descent

variable {α β ρ : Type}

/-- What a reader does at a token. -/
structure Device (ρ : Type) where
  /-- Take up the token, if it can stand here. -/
  read : ρ → Token → Option ρ
  /-- What else is wanted at a token that cannot stand here, or at the end of the tokens. -/
  wants : ρ → Option Token → Option Wanted

section Follows

variable {device : Device ρ} {tokens : List Token} {reader next last : ρ} {cursor stop : Nat}

/-- The reader takes up the tokens between the cursors. -/
inductive Goes (device : Device ρ) (tokens : List Token) : ρ → Nat → ρ → Nat → Prop where
  | refl (reader : ρ) (cursor : Nat) : Goes device tokens reader cursor reader cursor
  | step {reader next last : ρ} {token : Token} {cursor stop : Nat} :
      tokens[cursor]? = some token → device.read reader token = some next →
      Goes device tokens next (cursor + 1) last stop →
      Goes device tokens reader cursor last stop

theorem Goes.trans {middle : Nat} (first : Goes device tokens reader cursor next middle)
    (second : Goes device tokens next middle last stop) :
    Goes device tokens reader cursor last stop := by
  induction first with
  | refl => exact second
  | step stands read _ ih => exact .step stands read (ih second)

theorem drop_of_some {token : Token} (stands : tokens[cursor]? = some token) :
    tokens.drop cursor = token :: tokens.drop (cursor + 1) := by
  obtain ⟨left, rfl⟩ := List.getElem?_eq_some_iff.mp stands
  exact List.drop_eq_getElem_cons left

theorem ne_of_stands {token expected : Token} (stands : tokens[cursor]? = some token)
    (other : tokens[cursor]? ≠ some expected) : token ≠ expected := by
  rintro rfl
  exact other stands

/-- A run that takes up tokens one by one comes to where the reader goes. -/
theorem Goes.run_eq {γ : Type} {run : ρ → Nat → List Token → γ}
    (takes : ∀ {reader next : ρ} {token : Token} (position : Nat) (rest : List Token),
      device.read reader token = some next →
      run reader position (token :: rest) = run next (position + 1) rest)
    (goes : Goes device tokens reader cursor last stop) :
    run reader cursor (tokens.drop cursor) = run last stop (tokens.drop stop) := by
  induction goes with
  | refl => rfl
  | step stands read _ ih => rw [drop_of_some stands, takes _ _ read, ih]

/-- The reader cannot go on at the cursor, and wants something else. -/
structure Refuses (device : Device ρ) (tokens : List Token) (reader : ρ) (wanted : Wanted)
    (cursor : Nat) : Prop where
  stuck : ∀ token, tokens[cursor]? = some token → device.read reader token = none
  wants : device.wants reader tokens[cursor]? = some wanted

/-- The reader goes where a procedure went, to a state that is good for the value; and it
refuses what the procedure gave up at. Nothing is said of a procedure with too few calls. -/
def Reaches (device : Device ρ) (tokens : List Token) (reader : ρ) (cursor : Nat)
    (good : α → Nat → ρ → Prop) (outcome : Except Failure (α × Nat)) : Prop :=
  Computes outcome
    (fun result => ∃ last, Goes device tokens reader cursor last result.2 ∧
      good result.1 result.2 last)
    fun failure => ∀ wanted stop, failure = .refused wanted stop →
      ∃ last, Goes device tokens reader cursor last stop ∧
        Refuses device tokens last wanted stop

/-- The reader follows the procedure from the cursor. -/
def Follows (device : Device ρ) (tokens : List Token) (reader : ρ) (procedure : Procedure α)
    (cursor : Nat) (good : α → Nat → ρ → Prop) : Prop :=
  Reaches device tokens reader cursor good (procedure cursor)

variable {good : β → Nat → ρ → Prop}

/-- A reader that takes up tokens first reaches what it reaches behind them. -/
theorem Reaches.of_goes {middle : Nat} {outcome : Except Failure (β × Nat)}
    (goes : Goes device tokens reader cursor next middle)
    (reaches : Reaches device tokens next middle good outcome) :
    Reaches device tokens reader cursor good outcome := by
  refine Computes.mono reaches ?_ ?_
  · rintro result ⟨last, further, reached⟩
    exact ⟨last, goes.trans further, reached⟩
  · intro failure refused wanted stop given
    obtain ⟨last, further, refuses⟩ := refused wanted stop given
    exact ⟨last, goes.trans further, refuses⟩

theorem Follows.mono {procedure : Procedure β} {weak : β → Nat → ρ → Prop}
    (follows : Follows device tokens reader procedure cursor good)
    (weaken : ∀ value after last, good value after last → weak value after last) :
    Follows device tokens reader procedure cursor weak :=
  Computes.mono follows
    (fun result ⟨last, goes, reached⟩ => ⟨last, goes, weaken result.1 result.2 last reached⟩)
    fun _ refused => refused

/-- The rule for two procedures one after the other. -/
theorem Follows.bind {first : Procedure α} {rest : α → Procedure β}
    {middle : α → Nat → ρ → Prop} (early : Follows device tokens reader first cursor middle)
    (late : ∀ value after last, middle value after last →
      Follows device tokens last (rest value) after good) :
    Follows device tokens reader (first >>= rest) cursor good :=
  Computes.bind early fun result ⟨last, goes, reached⟩ =>
    Reaches.of_goes goes (late result.1 result.2 last reached)

theorem follows_pure {value : β} (reached : good value cursor reader) :
    Follows device tokens reader (pure value) cursor good :=
  ⟨reader, .refl reader cursor, reached⟩

theorem follows_exhausted (reader : ρ) (cursor : Nat) (good : β → Nat → ρ → Prop) :
    Follows device tokens reader (throw .exhausted) cursor good :=
  fun _ _ impossible => nomatch impossible

theorem follows_refuse {wanted : Wanted} (refuses : Refuses device tokens reader wanted cursor) :
    Follows device tokens reader (refuse wanted) cursor good := by
  rintro _ _ ⟨⟩
  exact ⟨reader, .refl reader cursor, refuses⟩

theorem Follows.peek {rest : Option Token → Procedure β}
    (follows : Follows device tokens reader (rest tokens[cursor]?) cursor good) :
    Follows device tokens reader (Descent.peek tokens >>= rest) cursor good :=
  follows

theorem Follows.standsAt {token : Token} {rest : Bool → Procedure β}
    (there : tokens[cursor]? = some token →
      Follows device tokens reader (rest true) cursor good)
    (other : tokens[cursor]? ≠ some token →
      Follows device tokens reader (rest false) cursor good) :
    Follows device tokens reader (Descent.standsAt tokens token >>= rest) cursor good := by
  rw [Follows, standsAt_bind]
  by_cases stands : tokens[cursor]? = some token
  · rw [beq_iff_eq.mpr stands]
    exact there stands
  · rw [beq_false_of_ne stands]
    exact other stands

/-- The reader takes up the token that the procedure moves over. -/
theorem Follows.advance {token : Token} {rest : Unit → Procedure β}
    (stands : tokens[cursor]? = some token) (read : device.read reader token = some next)
    (follows : Follows device tokens next (rest ()) (cursor + 1) good) :
    Follows device tokens reader (Descent.advance tokens >>= rest) cursor good := by
  rw [Follows, bind_apply, advance_of_some stands]
  exact Reaches.of_goes (.step stands read (.refl next _)) follows

/-- At the cursor the reader takes up the token, and refuses any other one. -/
structure Awaits (device : Device ρ) (tokens : List Token) (reader : ρ) (token : Token)
    (next : ρ) (cursor : Nat) : Prop where
  takes : device.read reader token = some next
  refuses : tokens[cursor]? ≠ some token → Refuses device tokens reader (.token token) cursor

theorem awaits_of_stands {token : Token} (stands : tokens[cursor]? = some token)
    (read : device.read reader token = some next) :
    Awaits device tokens reader token next cursor :=
  ⟨read, fun other => absurd stands other⟩

theorem Follows.consume {token : Token} {rest : Unit → Procedure β}
    (awaits : Awaits device tokens reader token next cursor)
    (follows : Follows device tokens next (rest ()) (cursor + 1) good) :
    Follows device tokens reader (Descent.consume tokens token >>= rest) cursor good := by
  rw [Follows, bind_apply]
  by_cases stands : tokens[cursor]? = some token
  · rw [consume_of_some stands]
    exact Reaches.of_goes (.step stands awaits.takes (.refl next _)) follows
  · rw [consume_of_ne stands]
    exact follows_refuse (awaits.refuses stands)

theorem Follows.name {rest : Name → Procedure β}
    (takes : ∀ text, tokens[cursor]? = some (.name text) →
      ∃ next, device.read reader (.name text) = some next ∧
        Follows device tokens next (rest text) (cursor + 1) good)
    (refuses : (∀ text, tokens[cursor]? ≠ some (.name text)) →
      Refuses device tokens reader .name cursor) :
    Follows device tokens reader (Descent.name tokens >>= rest) cursor good := by
  rw [Follows, bind_apply]
  by_cases named : ∃ text, tokens[cursor]? = some (.name text)
  · obtain ⟨text, stands⟩ := named
    obtain ⟨next, read, follows⟩ := takes text stands
    rw [name_of_some stands]
    exact Reaches.of_goes (.step stands read (.refl next _)) follows
  · rw [name_of_ne (not_exists.mp named)]
    exact follows_refuse (refuses (not_exists.mp named))

end Follows

end VectorLang.Descent
