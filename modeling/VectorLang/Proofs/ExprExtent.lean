import VectorLang.Proofs.ExprReading

/-!
# How far an expression reaches

At the front of a token list one expression is read, the longest one: it ends where no
operator follows. Tokens behind the first one that does not belong to it play no part. An
operator needs an expression behind it; without one it is an error, and no end of the
expression before it.
-/

namespace VectorLang

namespace ExprReader

variable {reader last : ExprReader} {tokens rest : List Token} {token : Token} {expr : Expr}

/-! ## Where reading stops -/

/-- The expression may end here, and no operator goes on with it. -/
structure Ends (last : ExprReader) (expr : Expr) (rest : List Token) : Prop where
  finish : last.finish = .ok expr
  stops : ∀ op : BinaryOp, rest.head? ≠ some op.token

theorem finish_eq_ok_iff :
    last.finish = .ok expr ↔ ∃ value pending,
      last = .operator value pending [] ∧ Pending.closeAll value pending = expr := by
  constructor
  · intro finished
    cases last with
    | operand => contradiction
    | operator value pending outer =>
        cases outer with
        | nil => exact ⟨value, pending, rfl, Except.ok.inj finished⟩
        | cons => contradiction
  · rintro ⟨value, pending, rfl, rfl⟩
    rfl

/-- Behind a whole expression only operators are taken up. -/
theorem read_eq_none_iff (finished : last.finish = .ok expr) :
    last.read token = none ↔ ∀ op : BinaryOp, token ≠ op.token := by
  rcases finish_eq_ok_iff.mp finished with ⟨value, pending, rfl, _⟩
  constructor
  · rintro refused op rfl
    rw [read_binary] at refused
    contradiction
  · intro other
    cases known : BinaryOp.ofToken? token with
    | some op => exact absurd (BinaryOp.ofToken?_eq_some_iff.mp known) (other op)
    | none =>
        unfold ExprReader.read
        simp [known]

theorem stop_eq_ok_iff {position stop : Nat} :
    reader.stop position = .ok (expr, stop) ↔ reader.finish = .ok expr ∧ stop = position := by
  unfold ExprReader.stop
  cases reader.finish <;> simp [eq_comm]

theorem run_of_ends {taken : List Token} (read : reader.readAll taken = some last)
    (ends : last.Ends expr rest) (position : Nat) :
    reader.run position (taken ++ rest) = .ok (expr, position + taken.length) := by
  induction taken generalizing reader position with
  | nil =>
      cases read
      cases rest with
      | nil => exact stop_eq_ok_iff.mpr ⟨ends.finish, rfl⟩
      | cons token rest =>
          have refused := (read_eq_none_iff ends.finish).mpr (by simpa using ends.stops)
          rw [List.nil_append, run, refused]
          exact stop_eq_ok_iff.mpr ⟨ends.finish, rfl⟩
  | cons token taken ih =>
      rcases Option.bind_eq_some_iff.mp read with ⟨next, first, read⟩
      rw [List.cons_append, run, first, List.length_cons, Nat.add_comm taken.length,
        ← Nat.add_assoc]
      exact ih read (position + 1)

theorem exists_of_run {position stop : Nat} (ran : reader.run position tokens = .ok (expr, stop)) :
    ∃ taken rest last, tokens = taken ++ rest ∧ stop = position + taken.length ∧
      reader.readAll taken = some last ∧ last.Ends expr rest := by
  induction tokens generalizing reader position with
  | nil =>
      rcases stop_eq_ok_iff.mp ran with ⟨finished, rfl⟩
      exact ⟨[], [], reader, rfl, rfl, rfl, finished, by simp⟩
  | cons token tokens ih =>
      rw [run] at ran
      cases first : reader.read token with
      | none =>
          rw [first] at ran
          rcases stop_eq_ok_iff.mp ran with ⟨finished, rfl⟩
          have stops := (read_eq_none_iff finished).mp first
          exact ⟨[], token :: tokens, reader, rfl, rfl, rfl, finished, by simpa using stops⟩
      | some next =>
          rw [first] at ran
          rcases ih ran with ⟨taken, rest, last, rfl, rfl, read, ends⟩
          refine ⟨token :: taken, rest, last, rfl, ?_, ?_, ends⟩
          · rw [List.length_cons]
            omega
          · rw [readAll_cons, first]
            exact read

/-! ## What may follow -/

/-- The ends of the brackets that are open, from the inside out. -/
def closings (outer : List (Bracket × Hole)) : List Token :=
  outer.map fun entry => entry.1.closing

@[simp] theorem closings_cons (entry : Bracket × Hole) (outer : List (Bracket × Hole)) :
    closings (entry :: outer) = entry.1.closing :: closings outer := rfl

/-- What decides which tokens may follow: whether an operand is due, and the brackets that
are open. The trees read so far do not take part in it. -/
def outlook : ExprReader → Bool × List Token
  | .operand _ outer => (true, closings outer)
  | .operator _ _ outer => (false, closings outer)

theorem outlook_closeBracket {bracket other : Bracket} {outer others : List (Bracket × Hole)}
    (same : bracket.closing = other.closing) (alike : closings outer = closings others)
    (hole otherHole : Hole) (value otherValue : Expr) :
    (closeBracket bracket hole outer value).outlook =
      (closeBracket other otherHole others otherValue).outlook := by
  cases bracket <;> cases other <;> simp_all [Bracket.closing, closeBracket, fill, outlook]

/-- Readers with the same outlook take up the same tokens. -/
theorem outlook_read {other : ExprReader} (alike : reader.outlook = other.outlook)
    (token : Token) : (reader.read token).map outlook = (other.read token).map outlook := by
  cases reader with
  | operand hole outer =>
      cases other with
      | operator => cases alike
      | operand otherHole others =>
          have same : closings outer = closings others := congrArg Prod.snd alike
          unfold ExprReader.read
          cases token with
          | int | bool | name => simp [fill, outlook, same]
          | keyword word => cases word <;> simp [UnaryOp.ofToken?, outlook, same]
          | symbol mark => cases mark <;> simp [UnaryOp.ofToken?, outlook, same]
  | operator value pending outer =>
      cases other with
      | operand => cases alike
      | operator otherValue otherPending others =>
          have same : closings outer = closings others := congrArg Prod.snd alike
          unfold ExprReader.read
          cases known : BinaryOp.ofToken? token with
          | some op => simp [known, outlook, same]
          | none =>
              cases outer with
              | nil =>
                  rcases List.map_eq_nil_iff.mp same.symm with rfl
                  simp [known]
              | cons entry outer =>
                  rcases List.map_eq_cons_iff.mp same.symm with ⟨otherEntry, others, rfl, -⟩
                  rcases List.cons.inj same with ⟨closing, same⟩
                  simp only [known, closing]
                  split
                  · exact congrArg some (outlook_closeBracket closing same _ _ _ _)
                  · rfl

theorem outlook_readAll {other : ExprReader} (alike : reader.outlook = other.outlook)
    (tokens : List Token) :
    (reader.readAll tokens).map outlook = (other.readAll tokens).map outlook := by
  induction tokens generalizing reader other with
  | nil => exact congrArg some alike
  | cons token rest ih =>
      have next := outlook_read alike token
      rw [readAll_cons, readAll_cons]
      cases first : reader.read token with
      | none =>
          rw [first] at next
          rw [Option.map_eq_none_iff.mp next.symm]
      | some reader =>
          rw [first] at next
          rcases Option.map_eq_some_iff.mp next.symm with ⟨other, second, same⟩
          rw [second]
          exact ih same.symm

theorem exists_finish_iff : (∃ value, last.finish = .ok value) ↔ last.outlook = (false, []) := by
  cases last with
  | operand => simp [finish, outlook]
  | operator value pending outer => cases outer <;> simp [finish, outlook, closings]

/-- Behind an operator the end of the expression is an expression of its own. -/
theorem exists_spelled_of_readAll {pending : List Pending} {value : Expr}
    (read : readAll (.operand ⟨[], pending⟩ []) tokens = some last)
    (finished : last.finish = .ok value) : ∃ expr : Expr, expr.Spelled 1 tokens := by
  have alike : (ExprReader.operand ⟨[], pending⟩ []).outlook = start.outlook := rfl
  have whole := outlook_readAll alike tokens
  rw [read, Option.map_some, exists_finish_iff.mp ⟨value, finished⟩] at whole
  rcases Option.map_eq_some_iff.mp whole.symm with ⟨other, otherRead, same⟩
  rcases exists_finish_iff.mpr same with ⟨expr, otherFinished⟩
  exact ⟨expr, readAll_finish_iff.mp ⟨other, otherRead, otherFinished⟩⟩

end ExprReader

/-! ## Expressions in front of tokens -/

namespace Expr

theorem Spelled.ne_nil {level : Nat} {tokens : List Token} {expr : Expr}
    (spelled : expr.Spelled level tokens) : tokens ≠ [] := by
  induction spelled with
  | operand _ _ ih => exact ih
  | int | bool | var | unary | paren | oneHot | binary => simp

variable {tokens before behind : List Located} {expr : Expr}

/-- The expression in front is the one that is spelled up to where no operator follows. -/
theorem ofTokens_eq_ok_iff {count : Nat} :
    ofTokens tokens = .ok (expr, count) ↔
      ∃ taken rest, tokens = taken ++ rest ∧ count = taken.length ∧
        expr.Spelled 1 (taken.map (·.token)) ∧
        ∀ op : BinaryOp, rest.head?.map (·.token) ≠ some op.token := by
  have run : ofTokens tokens = .ok (expr, count) ↔
      ExprReader.start.run 0 (tokens.map (·.token)) = .ok (expr, count) := by
    unfold ofTokens
    split <;> simp [*]
  rw [run]
  constructor
  · intro ran
    rcases ExprReader.exists_of_run ran with ⟨_, _, last, split, rfl, read, ends⟩
    rcases List.map_eq_append_iff.mp split with ⟨taken, rest, rfl, rfl, rfl⟩
    refine ⟨taken, rest, rfl, by simp, ?_, by simpa using ends.stops⟩
    exact ExprReader.readAll_finish_iff.mp ⟨last, read, ends.finish⟩
  · rintro ⟨taken, rest, rfl, rfl, spelled, stops⟩
    rcases ExprReader.readAll_of_spelled spelled with ⟨last, read, finished⟩
    have ends : last.Ends expr (rest.map (·.token)) := ⟨finished, by simpa using stops⟩
    simpa using ExprReader.run_of_ends read ends 0

theorem ofTokens_eq_ok_iff_take {count : Nat} :
    ofTokens tokens = .ok (expr, count) ↔
      count ≤ tokens.length ∧ expr.Spelled 1 ((tokens.map (·.token)).take count) ∧
        ∀ op : BinaryOp, (tokens.map (·.token))[count]? ≠ some op.token := by
  rw [ofTokens_eq_ok_iff]
  constructor
  · rintro ⟨taken, rest, rfl, rfl, spelled, stops⟩
    rw [List.map_append, List.getElem?_append_right (by simp)]
    refine ⟨by simp, by simpa using spelled, ?_⟩
    simpa [List.head?_eq_getElem?] using stops
  · rintro ⟨le, spelled, stops⟩
    refine ⟨tokens.take count, tokens.drop count, by simp, by simp [le], ?_, ?_⟩
    · simpa only [List.map_take] using spelled
    · simpa [List.head?_drop] using stops

/-- Only the tokens up to the one behind the expression matter. -/
theorem ofTokens_of_take_eq {others : List Located} {count : Nat}
    (read : ofTokens tokens = .ok (expr, count))
    (same : (others.map (·.token)).take (count + 1) = (tokens.map (·.token)).take (count + 1)) :
    ofTokens others = .ok (expr, count) := by
  rcases ofTokens_eq_ok_iff_take.mp read with ⟨le, spelled, stops⟩
  refine ofTokens_eq_ok_iff_take.mpr ⟨?_, ?_, ?_⟩
  · have lengths := congrArg List.length same
    simp only [List.length_take, List.length_map] at lengths
    omega
  · have taken := congrArg (List.take count) same
    simp only [List.take_take, Nat.min_eq_left (Nat.le_succ count)] at taken
    rwa [taken]
  · have next := congrArg (·[count]?) same
    simp only [List.getElem?_take_of_lt (Nat.lt_succ_self count)] at next
    rwa [next]

/-- No complete expression ends before an operator, and one that goes on behind it has an
expression there. -/
theorem exists_spelled_behind {operator : Located} {op : BinaryOp} {other : Expr} {count : Nat}
    (spelled : expr.Spelled 1 (before.map (·.token))) (operates : operator.token = op.token)
    (read : ofTokens (before ++ operator :: behind) = .ok (other, count)) :
    ∃ more rest, behind = more ++ rest ∧ count = before.length + 1 + more.length ∧
      ∃ next : Expr, next.Spelled 1 (more.map (·.token)) := by
  rcases ofTokens_eq_ok_iff.mp read with ⟨taken, rest, split, rfl, otherSpelled, stops⟩
  rcases ExprReader.readAll_of_spelled spelled with ⟨reached, readBefore, finished⟩
  rcases ExprReader.readAll_of_spelled otherSpelled with ⟨last, readTaken, otherFinished⟩
  rcases List.append_eq_append_iff.mp split with ⟨more, rfl, behindSplit⟩ |
    ⟨beyond, rfl, rfl⟩
  · cases more with
    | nil =>
        cases behindSplit
        exact absurd (congrArg some operates) (stops op)
    | cons next more =>
        cases behindSplit
        rcases ExprReader.finish_eq_ok_iff.mp finished with ⟨value, pending, rfl, _⟩
        rw [List.map_append, ExprReader.readAll_append, readBefore, Option.bind_some,
          List.map_cons, operates, ExprReader.readAll_cons, ExprReader.read_binary,
          Option.bind_some] at readTaken
        refine ⟨more, rest, rfl, ?_, ExprReader.exists_spelled_of_readAll readTaken otherFinished⟩
        simp
        omega
  · cases beyond with
    | nil => exact absurd (congrArg some operates) (stops op)
    | cons next beyond =>
        have refused := (ExprReader.read_eq_none_iff otherFinished).mpr (by simpa using stops)
        rw [List.map_append, ExprReader.readAll_append, readTaken, Option.bind_some,
          List.map_cons, ExprReader.readAll_cons, refused] at readBefore
        contradiction

/-- A token list has an expression in front exactly if some tokens spell it and the next one,
if there is any, is no operator. No token behind that one matters. Behind an operator that
follows an expression there has to be a further expression: the one before it is no
result, and without the further one there is an error. -/
theorem ofTokens_extent (tokens : List Located) :
    (∀ (expr : Expr) (count : Nat), ofTokens tokens = .ok (expr, count) ↔
      count ≤ tokens.length ∧ expr.Spelled 1 ((tokens.map (·.token)).take count) ∧
        ∀ op : BinaryOp, (tokens.map (·.token))[count]? ≠ some op.token) ∧
    (∀ (others : List Located) (expr : Expr) (count : Nat),
      ofTokens tokens = .ok (expr, count) →
      (others.map (·.token)).take (count + 1) = (tokens.map (·.token)).take (count + 1) →
      ofTokens others = .ok (expr, count)) ∧
    ∀ (before behind : List Located) (operator : Located) (op : BinaryOp) (expr : Expr),
      tokens = before ++ operator :: behind → expr.Spelled 1 (before.map (·.token)) →
      operator.token = op.token →
      (∀ (other : Expr) (count : Nat), ofTokens tokens = .ok (other, count) →
        before.length + 1 < count) ∧
      ((∀ (more rest : List Located) (next : Expr), behind = more ++ rest →
        ¬ next.Spelled 1 (more.map (·.token))) →
        ∃ error, ofTokens tokens = .error error) := by
  refine ⟨fun expr count => ofTokens_eq_ok_iff_take, fun others expr count => ofTokens_of_take_eq,
    ?_⟩
  rintro before behind operator op expr rfl spelled operates
  constructor
  · intro other count read
    rcases exists_spelled_behind spelled operates read with ⟨more, rest, rfl, rfl, next, behind⟩
    have positive := List.length_pos_iff.mpr behind.ne_nil
    rw [List.length_map] at positive
    omega
  · intro none
    cases read : ofTokens (before ++ operator :: behind) with
    | error error => exact ⟨error, rfl⟩
    | ok result =>
        rcases exists_spelled_behind spelled operates read with ⟨more, rest, split, _, next, behind⟩
        exact absurd behind (none more rest next split)

/-- A closing bracket ends an expression, whatever stands behind it, and leaves an operator
before it without an operand. -/
theorem ofTokens_extent_of_bracket :
    ofTokens [⟨.name "x", 0, 1, 1⟩, ⟨.symbol .plus, 2, 3, 1⟩, ⟨.int 1, 4, 5, 1⟩,
        ⟨.symbol .rightParen, 5, 6, 1⟩, ⟨.symbol .star, 7, 8, 1⟩] =
      .ok (.binary .add (.var "x") (.int 1), 3) ∧
    ofTokens [⟨.name "x", 0, 1, 1⟩, ⟨.symbol .plus, 2, 3, 1⟩, ⟨.int 1, 4, 5, 1⟩,
        ⟨.symbol .rightParen, 5, 6, 1⟩] =
      .ok (.binary .add (.var "x") (.int 1), 3) ∧
    ∃ error, ofTokens [⟨.int 1, 0, 1, 1⟩, ⟨.symbol .comma, 1, 2, 1⟩,
      ⟨.symbol .rightParen, 3, 4, 2⟩] = .error error := by
  have longer : ofTokens [⟨.name "x", 0, 1, 1⟩, ⟨.symbol .plus, 2, 3, 1⟩, ⟨.int 1, 4, 5, 1⟩,
      ⟨.symbol .rightParen, 5, 6, 1⟩, ⟨.symbol .star, 7, 8, 1⟩] =
        .ok (.binary .add (.var "x") (.int 1), 3) := rfl
  refine ⟨longer, (ofTokens_extent _).2.1 _ _ _ longer rfl, ?_⟩
  have one : (Expr.int 1).Spelled 1 [.int 1] := (Spelled.int 1).lower (Nat.le_refl 1) (by decide)
  refine ((ofTokens_extent _).2.2 [⟨.int 1, 0, 1, 1⟩] [⟨.symbol .rightParen, 3, 4, 2⟩]
    ⟨.symbol .comma, 1, 2, 1⟩ .pair (.int 1) rfl one rfl).2 ?_
  intro more rest next split spelled
  rcases ExprReader.readAll_of_spelled spelled with ⟨last, read, finished⟩
  cases more with
  | nil => exact spelled.ne_nil rfl
  | cons located more =>
      rcases List.cons.inj split with ⟨rfl, _⟩
      cases read

end Expr

end VectorLang
