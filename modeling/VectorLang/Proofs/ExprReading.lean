import VectorLang.Proofs.Grammar

/-!
# Reading expressions by the grammar

The reader takes up exactly what the grammar spells. An operator that waits for its
right operand binds less tightly than all that is read before it is completed; so the
operators that wait bind ever less tightly from the hole outward, and completing them
from the inside builds the tree that associates to the left.
-/

namespace VectorLang

/-! ## Operators that wait -/

namespace Pending

/-- The operators outside a chain of the level do not take part in it. -/
def Looser (level : Nat) (pending : List Pending) : Prop :=
  ∀ last ∈ pending.head?, last.op.binding < level

theorem Looser.nil (level : Nat) : Looser level [] := by
  simp [Looser]

theorem Looser.mono {low high : Nat} {pending : List Pending} (looser : Looser low pending)
    (le : low ≤ high) : Looser high pending :=
  fun last member => Nat.lt_of_lt_of_le (looser last member) le

theorem looser_cons_iff {level : Nat} {last : Pending} {pending : List Pending} :
    Looser level (last :: pending) ↔ last.op.binding < level := by
  simp [Looser]

/-- An operator completes nothing that binds less tightly. -/
theorem closeFrom_of_looser {level : Nat} {pending : List Pending}
    (looser : Looser level pending) (value : Expr) :
    closeFrom level value pending = (value, pending) := by
  cases pending with
  | nil => rfl
  | cons last pending =>
      have lt := looser_cons_iff.mp looser
      rw [closeFrom, if_neg (Nat.not_le_of_lt lt)]

/-- An operator completes first all that binds at least as tightly. -/
theorem closeFrom_append {level : Nat} {inner : List Pending}
    (tight : ∀ pending ∈ inner, level ≤ pending.op.binding) (value : Expr)
    (pending : List Pending) :
    closeFrom level value (inner ++ pending) =
      closeFrom level (closeAll value inner) pending := by
  induction inner generalizing value with
  | nil => rfl
  | cons last inner ih =>
      rw [List.cons_append, closeFrom, if_pos (tight last List.mem_cons_self)]
      exact ih (fun pending member => tight pending (List.mem_cons_of_mem _ member)) _

/-- The end of a bracket completes everything in it. -/
theorem closeFrom_one (value : Expr) (pending : List Pending) :
    closeFrom 1 value pending = (closeAll value pending, []) := by
  have tight : ∀ last ∈ pending, 1 ≤ last.op.binding := fun last _ => last.op.one_le_binding
  simpa [closeFrom] using closeFrom_append tight value []

theorem closeAll_append (value : Expr) (inner outer : List Pending) :
    closeAll value (inner ++ outer) = closeAll (closeAll value inner) outer :=
  List.foldl_append

/-- The tokens spell the left operands that wait, each with its operator. -/
inductive Spelled : List Pending → List Token → Prop where
  | nil : Spelled [] []
  | cons {op : BinaryOp} {left : Expr} {pending : List Pending}
      {tokens leftTokens : List Token} :
      Spelled pending tokens → Looser op.binding pending →
      left.Spelled op.binding leftTokens →
      Spelled (⟨op, left⟩ :: pending) (tokens ++ leftTokens ++ [op.token])

/-- What an operator completes is its left operand. -/
theorem Spelled.closeFrom {pending : List Pending} {tokens valueTokens : List Token}
    (waiting : Spelled pending tokens) {high low : Nat} (looser : Looser high pending)
    {value : Expr} (spelled : value.Spelled high valueTokens) (positive : 1 ≤ low)
    (le : low ≤ high) :
    ∃ restTokens leftTokens, tokens ++ valueTokens = restTokens ++ leftTokens ∧
      Spelled (Pending.closeFrom low value pending).2 restTokens ∧
      Looser low (Pending.closeFrom low value pending).2 ∧
      (Pending.closeFrom low value pending).1.Spelled low leftTokens := by
  induction waiting generalizing high value valueTokens with
  | nil => exact ⟨[], valueTokens, rfl, .nil, .nil low, spelled.lower positive le⟩
  | @cons op left pending tokens leftTokens waiting outside leftSpelled ih =>
      rw [Pending.closeFrom]
      have lt := looser_cons_iff.mp looser
      split
      · next completes =>
          have right := spelled.lower (Nat.le_add_left 1 op.binding) lt
          have chain := Expr.Spelled.binary op leftSpelled right
          rcases ih outside chain completes with ⟨restTokens, allTokens, equal, rest⟩
          refine ⟨restTokens, allTokens, ?_, rest⟩
          simpa using equal
      · next waits =>
          refine ⟨_, valueTokens, rfl, .cons waiting outside leftSpelled, ?_,
            spelled.lower positive le⟩
          exact looser_cons_iff.mpr (Nat.lt_of_not_le waits)

/-- The end of a bracket completes the expression in it. -/
theorem Spelled.closeAll {pending : List Pending} {tokens valueTokens : List Token}
    (waiting : Spelled pending tokens) {value : Expr}
    (spelled : value.Spelled Expr.atomLevel valueTokens) :
    (Pending.closeAll value pending).Spelled 1 (tokens ++ valueTokens) := by
  have looser : Looser Expr.atomLevel pending := fun last _ => last.op.binding_lt_atomLevel
  rcases waiting.closeFrom looser spelled (Nat.le_refl 1) (by decide) with
    ⟨restTokens, allTokens, equal, rest, _, all⟩
  rw [closeFrom_one] at rest all
  cases rest
  rw [equal]
  exact all

end Pending

namespace ExprReader

/-- Take up all tokens, if each can go on the expression. -/
def readAll (reader : ExprReader) (tokens : List Token) : Option ExprReader :=
  tokens.foldlM read reader

@[simp] theorem readAll_nil (reader : ExprReader) : reader.readAll [] = some reader := rfl

@[simp] theorem readAll_cons (reader : ExprReader) (token : Token) (rest : List Token) :
    reader.readAll (token :: rest) = (reader.read token).bind (·.readAll rest) := rfl

@[simp] theorem readAll_append (reader : ExprReader) (tokens rest : List Token) :
    reader.readAll (tokens ++ rest) = (reader.readAll tokens).bind (·.readAll rest) :=
  List.foldlM_append

/-! ## Everything spelled is read -/

/-- At an operand the reader takes up the token of a unary operator. -/
theorem read_unary (op : UnaryOp) (hole : Hole) (outer : List (Bracket × Hole)) :
    read (.operand hole outer) op.token =
      some (.operand { hole with unary := op :: hole.unary } outer) := by
  cases op <;> rfl

/-- Behind an operand the reader takes up the token of a binary operator. -/
theorem read_binary (op : BinaryOp) (value : Expr) (pending : List Pending)
    (outer : List (Bracket × Hole)) :
    read (.operator value pending outer) op.token =
      some (.operand ⟨[], ⟨op, (Pending.closeFrom op.binding value pending).1⟩ ::
        (Pending.closeFrom op.binding value pending).2⟩ outer) := by
  cases op <;> rfl

/-- The end of a bracket is no operator, and ends the bracket. -/
theorem read_closing (bracket : Bracket) (hole : Hole) (value : Expr) (pending : List Pending)
    (outer : List (Bracket × Hole)) :
    read (.operator value pending ((bracket, hole) :: outer)) bracket.closing =
      some (closeBracket bracket hole outer (Pending.closeAll value pending)) := by
  cases bracket <;> rfl

/-- A chain of the level is read behind operators that wait outside of it: it ends with
an operand and operators of its own, which complete to the whole. -/
def ReadsChain (level : Nat) (tokens : List Token) (expr : Expr) : Prop :=
  ∀ pending outer, Pending.Looser level pending →
    ∃ value inner,
      readAll (.operand ⟨[], pending⟩ outer) tokens =
        some (.operator value (inner ++ pending) outer) ∧
      Pending.closeAll value inner = expr ∧ ∀ last ∈ inner, level ≤ last.op.binding

/-- An atom fills the hole it is read in. -/
def ReadsAtom (tokens : List Token) (expr : Expr) : Prop :=
  ∀ hole outer, readAll (.operand hole outer) tokens = some (fill hole outer expr)

/-- What the grammar spells at a level is read as a chain, and atoms are so in any hole. -/
structure Reads (level : Nat) (tokens : List Token) (expr : Expr) : Prop where
  chain : ReadsChain level tokens expr
  atom : level = Expr.atomLevel → ReadsAtom tokens expr

variable {tokens : List Token} {expr : Expr}

/-- A chain of one operand is read as its operand, at whose end no operator waits. -/
theorem ReadsAtom.reads (reads : ReadsAtom tokens expr) (level : Nat) :
    Reads level tokens expr := by
  constructor
  · intro pending outer _
    exact ⟨expr, [], reads _ outer, rfl, by simp⟩
  · intro _
    exact reads

theorem ReadsChain.reads {op : BinaryOp} (reads : ReadsChain op.binding tokens expr) :
    Reads op.binding tokens expr :=
  ⟨reads, fun top => absurd top (Nat.ne_of_lt op.binding_lt_atomLevel)⟩

/-- A whole expression is read up to the end of the bracket around it. -/
theorem ReadsChain.closes (reads : ReadsChain 1 tokens expr) (bracket : Bracket) (hole : Hole)
    (outer : List (Bracket × Hole)) :
    readAll (.operand .fresh ((bracket, hole) :: outer)) (tokens ++ [bracket.closing]) =
      some (closeBracket bracket hole outer expr) := by
  rcases reads [] ((bracket, hole) :: outer) (.nil 1) with ⟨value, inner, read, all, _⟩
  rw [List.append_nil] at read
  rw [Hole.fresh, readAll_append, read, Option.bind_some, readAll_cons, read_closing, all]
  rfl

theorem ReadsAtom.unary (op : UnaryOp) (reads : ReadsAtom tokens expr) :
    ReadsAtom (op.token :: tokens) (.unary op expr) := by
  intro hole outer
  rw [readAll_cons, read_unary, Option.bind_some, reads]
  rfl

theorem ReadsChain.oneHot {lengthTokens indexTokens : List Token} {length index : Expr}
    (readsLength : ReadsChain 1 lengthTokens length)
    (readsIndex : ReadsChain 1 indexTokens index) :
    ReadsAtom
      (.symbol .leftBracket :: lengthTokens ++
        .symbol .semicolon :: indexTokens ++ [.symbol .rightBracket])
      (.oneHot length index) := by
  intro hole outer
  -- the length ends at the semicolon, and the index at the second bracket
  have split : .symbol .leftBracket :: lengthTokens ++
      .symbol .semicolon :: indexTokens ++ [.symbol .rightBracket] =
        .symbol .leftBracket :: ((lengthTokens ++ [Bracket.closing .length]) ++
          (indexTokens ++ [Bracket.closing (.index length)])) := by
    simp [Bracket.closing]
  rw [split, readAll_cons]
  change readAll (.operand .fresh ((.length, hole) :: outer)) _ = _
  rw [readAll_append, readsLength.closes .length hole outer]
  exact readsIndex.closes (.index length) hole outer

/-- What is read as an operand of a chain is read as a chain. -/
theorem ReadsChain.operand {level : Nat} (reads : ReadsChain (level + 1) tokens expr) :
    ReadsChain level tokens expr := by
  intro pending outer looser
  rcases reads pending outer (looser.mono (Nat.le_succ _)) with ⟨value, inner, read, all, tight⟩
  exact ⟨value, inner, read, all, fun last member => Nat.le_of_succ_le (tight last member)⟩

/-- One more operand of a chain: its operator completes the chain before it, and waits
until the operand is read. -/
theorem ReadsChain.binary {op : BinaryOp} {leftTokens rightTokens : List Token}
    {left right : Expr} (readsLeft : ReadsChain op.binding leftTokens left)
    (readsRight : ReadsChain (op.binding + 1) rightTokens right) :
    ReadsChain op.binding (leftTokens ++ op.token :: rightTokens) (.binary op left right) := by
  intro pending outer looser
  rcases readsLeft pending outer looser with ⟨leftValue, leftInner, leftRead, leftAll, leftTight⟩
  have completed : Pending.closeFrom op.binding leftValue (leftInner ++ pending) =
      (left, pending) := by
    rw [Pending.closeFrom_append leftTight, leftAll, Pending.closeFrom_of_looser looser]
  rcases readsRight (⟨op, left⟩ :: pending) outer
      (Pending.looser_cons_iff.mpr (Nat.lt_succ_self _)) with
    ⟨value, inner, rightRead, rightAll, tight⟩
  refine ⟨value, inner ++ [⟨op, left⟩], ?_, ?_, ?_⟩
  · rw [readAll_append, leftRead, Option.bind_some, readAll_cons, read_binary, completed,
      Option.bind_some, rightRead]
    simp
  · rw [Pending.closeAll_append, rightAll]
    rfl
  · intro last member
    rcases List.mem_append.mp member with inside | only
    · exact Nat.le_of_succ_le (tight last inside)
    · cases List.mem_singleton.mp only
      exact Nat.le_refl _

/-- Whatever the grammar spells is read. -/
theorem reads_of_spelled {level : Nat} (spelled : expr.Spelled level tokens) :
    Reads level tokens expr := by
  induction spelled with
  | int value =>
      have reads : ReadsAtom [.int value] (.int value) := fun _ _ => rfl
      exact reads.reads _
  | bool value =>
      have reads : ReadsAtom [.bool value] (.bool value) := fun _ _ => rfl
      exact reads.reads _
  | var name =>
      have reads : ReadsAtom [.name name] (.var name) := fun _ _ => rfl
      exact reads.reads _
  | unary op _ ih => exact ((ih.atom rfl).unary op).reads _
  | @paren tokens expr _ ih =>
      have reads : ReadsAtom (.symbol .leftParen :: tokens ++ [.symbol .rightParen]) expr :=
        fun hole outer => ih.chain.closes .paren hole outer
      exact reads.reads _
  | oneHot _ _ lengthIH indexIH => exact (lengthIH.chain.oneHot indexIH.chain).reads _
  | operand op _ ih => exact ih.chain.operand.reads
  | binary op _ _ leftIH rightIH => exact (leftIH.chain.binary rightIH.chain).reads

/-- A spelled expression is read to a place where it may end. -/
theorem readAll_of_spelled (spelled : expr.Spelled 1 tokens) :
    ∃ reader, start.readAll tokens = some reader ∧ reader.finish = .ok expr := by
  rcases (reads_of_spelled spelled).chain [] [] (.nil 1) with ⟨value, inner, read, all, _⟩
  refine ⟨_, read, ?_⟩
  rw [List.append_nil, finish, all]

end ExprReader

/-! ## Everything read is spelled -/

/-- The tokens open the bracket, up to the expression that is being read in it. -/
inductive Bracket.Opened : Bracket → List Token → Prop where
  | paren : Opened .paren [.symbol .leftParen]
  | length : Opened .length [.symbol .leftBracket]
  | index {tokens : List Token} {length : Expr} :
      length.Spelled 1 tokens →
      Opened (.index length) (.symbol .leftBracket :: tokens ++ [.symbol .semicolon])

/-- The tokens stand before the hole in its bracket. -/
inductive Hole.Spelled : Hole → List Token → Prop where
  | waiting {pending : List Pending} {tokens : List Token} :
      Pending.Spelled pending tokens → Spelled ⟨[], pending⟩ tokens
  | unary (op : UnaryOp) {unary : List UnaryOp} {pending : List Pending} {tokens : List Token} :
      Spelled ⟨unary, pending⟩ tokens → Spelled ⟨op :: unary, pending⟩ (tokens ++ [op.token])

theorem Hole.Spelled.fresh : Hole.fresh.Spelled [] :=
  .waiting .nil

namespace ExprReader

/-- The tokens stand before the innermost bracket, and open it. -/
inductive Surrounded : List (Bracket × Hole) → List Token → Prop where
  | nil : Surrounded [] []
  | cons {bracket : Bracket} {hole : Hole} {outer : List (Bracket × Hole)}
      {tokens holeTokens bracketTokens : List Token} :
      Surrounded outer tokens → hole.Spelled holeTokens → bracket.Opened bracketTokens →
      Surrounded ((bracket, hole) :: outer) (tokens ++ holeTokens ++ bracketTokens)

/-- The unfinished expression that the tokens lead to. -/
inductive Reached : ExprReader → List Token → Prop where
  | operand {hole : Hole} {outer : List (Bracket × Hole)} {tokens holeTokens : List Token} :
      Surrounded outer tokens → hole.Spelled holeTokens →
      Reached (.operand hole outer) (tokens ++ holeTokens)
  | operator {value : Expr} {pending : List Pending} {outer : List (Bracket × Hole)}
      {tokens waitingTokens valueTokens : List Token} :
      Surrounded outer tokens → Pending.Spelled pending waitingTokens →
      value.Spelled Expr.atomLevel valueTokens →
      Reached (.operator value pending outer) (tokens ++ waitingTokens ++ valueTokens)

variable {token : Token} {next : ExprReader}

/-- What may stand at an operand. -/
theorem read_operand_cases {hole : Hole} {outer : List (Bracket × Hole)}
    (read : ExprReader.read (.operand hole outer) token = some next) :
    (∃ expr : Expr, expr.Spelled Expr.atomLevel [token] ∧ next = fill hole outer expr) ∨
    (∃ bracket : Bracket, bracket.Opened [token] ∧
      next = .operand .fresh ((bracket, hole) :: outer)) ∨
    ∃ op : UnaryOp, token = op.token ∧
      next = .operand { hole with unary := op :: hole.unary } outer := by
  cases token with
  | int value =>
      cases read
      exact .inl ⟨_, .int value, rfl⟩
  | bool value =>
      cases read
      exact .inl ⟨_, .bool value, rfl⟩
  | name text =>
      cases read
      exact .inl ⟨_, .var text, rfl⟩
  | keyword word =>
      cases word <;> cases read
      case keyword.first.refl => exact .inr (.inr ⟨.first, rfl, rfl⟩)
      case keyword.second.refl => exact .inr (.inr ⟨.second, rfl, rfl⟩)
  | symbol mark =>
      cases mark <;> cases read
      case symbol.minus.refl => exact .inr (.inr ⟨.negate, rfl, rfl⟩)
      case symbol.bang.refl => exact .inr (.inr ⟨.not, rfl, rfl⟩)
      case symbol.leftParen.refl => exact .inr (.inl ⟨.paren, .paren, rfl⟩)
      case symbol.leftBracket.refl => exact .inr (.inl ⟨.length, .length, rfl⟩)

/-- What may stand behind an operand. -/
theorem read_operator_cases {value : Expr} {pending : List Pending}
    {outer : List (Bracket × Hole)}
    (read : ExprReader.read (.operator value pending outer) token = some next) :
    (∃ op : BinaryOp, token = op.token ∧
      next = .operand ⟨[], ⟨op, (Pending.closeFrom op.binding value pending).1⟩ ::
        (Pending.closeFrom op.binding value pending).2⟩ outer) ∨
    ∃ bracket hole rest, outer = (bracket, hole) :: rest ∧ token = bracket.closing ∧
      next = closeBracket bracket hole rest (Pending.closeAll value pending) := by
  unfold ExprReader.read at read
  dsimp only at read
  split at read
  · next op known =>
      cases read
      exact .inl ⟨op, BinaryOp.ofToken?_eq_some_iff.mp known, rfl⟩
  · split at read
    · contradiction
    · next bracket hole rest =>
        split at read
        · next closing =>
            cases read
            exact .inr ⟨bracket, hole, rest, rfl, closing, rfl⟩
        · contradiction

/-- An atom at the hole completes the unary operators before it. -/
theorem fill_reached {hole : Hole} {outer : List (Bracket × Hole)}
    {tokens holeTokens valueTokens : List Token} {value : Expr}
    (surrounded : Surrounded outer tokens) (before : hole.Spelled holeTokens)
    (spelled : value.Spelled Expr.atomLevel valueTokens) :
    (fill hole outer value).Reached (tokens ++ holeTokens ++ valueTokens) := by
  induction before generalizing value valueTokens with
  | waiting waiting => exact .operator surrounded waiting spelled
  | @unary op unary pending holeTokens before ih =>
      change (fill ⟨unary, pending⟩ outer (.unary op value)).Reached _
      simpa using ih (.unary op spelled)

/-- The end of a bracket makes an atom of the bracket, or goes on to the index. -/
theorem closeBracket_reached {bracket : Bracket} {hole : Hole} {outer : List (Bracket × Hole)}
    {tokens holeTokens bracketTokens valueTokens : List Token} {value : Expr}
    (surrounded : Surrounded outer tokens) (before : hole.Spelled holeTokens)
    (opened : bracket.Opened bracketTokens) (spelled : value.Spelled 1 valueTokens) :
    (closeBracket bracket hole outer value).Reached
      (tokens ++ holeTokens ++ bracketTokens ++ valueTokens ++ [bracket.closing]) := by
  cases opened with
  | paren =>
      have reached := fill_reached surrounded before (.paren spelled)
      simpa [closeBracket, Bracket.closing] using reached
  | length =>
      have inside := Surrounded.cons surrounded before (.index spelled)
      have reached := Reached.operand inside .fresh
      simpa [closeBracket, Bracket.closing] using reached
  | index lengthSpelled =>
      have reached := fill_reached surrounded before (.oneHot lengthSpelled spelled)
      simpa [closeBracket, Bracket.closing] using reached

theorem start_reached : start.Reached [] :=
  .operand .nil .fresh

/-- One more token leads one step further. -/
theorem Reached.read {reader : ExprReader} {tokens : List Token}
    (reached : reader.Reached tokens) (read : reader.read token = some next) :
    next.Reached (tokens ++ [token]) := by
  cases reached with
  | @operand hole outer tokens holeTokens surrounded before =>
      rcases read_operand_cases read with ⟨expr, spelled, rfl⟩ | ⟨bracket, opened, rfl⟩ |
        ⟨op, rfl, rfl⟩
      · exact fill_reached surrounded before spelled
      · simpa using Reached.operand (.cons surrounded before opened) .fresh
      · simpa using Reached.operand surrounded (.unary op before)
  | @operator value pending outer tokens waitingTokens valueTokens surrounded waiting spelled =>
      rcases read_operator_cases read with ⟨op, rfl, rfl⟩ | ⟨bracket, hole, rest, rfl, rfl, rfl⟩
      · have looser : Pending.Looser Expr.atomLevel pending :=
          fun last _ => last.op.binding_lt_atomLevel
        rcases waiting.closeFrom looser spelled op.one_le_binding
            (Nat.le_of_lt op.binding_lt_atomLevel) with
          ⟨restTokens, leftTokens, equal, rest, outside, left⟩
        have reached := Reached.operand surrounded (.waiting (.cons rest outside left))
        simpa [← equal] using reached
      · cases surrounded with
        | cons surrounded before opened =>
            have reached := closeBracket_reached surrounded before opened (waiting.closeAll spelled)
            simpa using reached

/-- All tokens lead further one by one. -/
theorem Reached.readAll {reader : ExprReader} {tokens more : List Token}
    (reached : reader.Reached tokens) (read : reader.readAll more = some next) :
    next.Reached (tokens ++ more) := by
  induction more generalizing reader tokens with
  | nil =>
      cases read
      simpa using reached
  | cons token rest ih =>
      rcases Option.bind_eq_some_iff.mp read with ⟨middle, first, rest⟩
      simpa using ih (reached.read first) rest

/-- An expression that may end was spelled. -/
theorem Reached.finish {reader : ExprReader} {tokens : List Token}
    (reached : reader.Reached tokens) {expr : Expr} (finished : reader.finish = .ok expr) :
    expr.Spelled 1 tokens := by
  cases reached with
  | operand => contradiction
  | operator surrounded waiting spelled =>
      cases surrounded with
      | nil =>
          cases finished
          exact waiting.closeAll spelled
      | cons => contradiction

/-- The reader takes up a whole expression exactly where the grammar spells one. -/
theorem readAll_finish_iff {tokens : List Token} {expr : Expr} :
    (∃ reader, start.readAll tokens = some reader ∧ reader.finish = .ok expr) ↔
      expr.Spelled 1 tokens := by
  constructor
  · intro ⟨reader, read, finished⟩
    exact (start_reached.readAll read).finish finished
  · exact readAll_of_spelled

end ExprReader

end VectorLang
