import VectorLang.Proofs.Outcome
import VectorLang.Proofs.ProgramReading
import VectorLang.Proofs.Spelling
import VectorLang.Source

/-!
# Programs that have a source text

Every program is rendered as a text, in which all operators stand in parentheses. If the
program can be written at all, its rendering is read as the program again. So the programs
that are read from source texts are those that can be written.
-/

namespace VectorLang

/-! ## Programs that can be written -/

/-- The expression can be written: its integers are not negative, and its names can be
written. -/
def Expr.Writable : Expr → Prop
  | .int value => 0 ≤ value.toInt ∧ value.toInt ≤ 2147483647
  | .bool _ => True
  | .var name => name.Writable
  | .unary _ operand => operand.Writable
  | .binary _ left right => left.Writable ∧ right.Writable
  | .oneHot length index => length.Writable ∧ index.Writable

namespace Stmt

mutual

/-- The statement can be written: besides, no block of it is empty. -/
def Writable : Stmt → Prop
  | .declare name value | .assign name value => name.Writable ∧ value.Writable
  | .print value => value.Writable
  | .ifThen condition body => condition.Writable ∧ body ≠ [] ∧ WritableAll body
  | .ifElse condition body alternative =>
      condition.Writable ∧ (body ≠ [] ∧ WritableAll body) ∧
        alternative ≠ [] ∧ WritableAll alternative
  | .forEach name elements body =>
      name.Writable ∧ elements.Writable ∧ body ≠ [] ∧ WritableAll body

/-- All the statements can be written. -/
def WritableAll : List Stmt → Prop
  | [] => True
  | stmt :: rest => Writable stmt ∧ WritableAll rest

end

end Stmt

/-- The program can be written: it is not empty, and its statements can be written. -/
def Program.Writable (program : Program) : Prop :=
  program ≠ [] ∧ Stmt.WritableAll program

/-! ## Renderings -/

/-- The tokens of an expression with all its operators in parentheses. -/
def Expr.tokens : Expr → List Token
  | .int value => [.int value]
  | .bool value => [.bool value]
  | .var name => [.name name]
  | .unary op operand =>
      .symbol .leftParen :: (op.token :: operand.tokens) ++ [.symbol .rightParen]
  | .binary op left right =>
      .symbol .leftParen :: (left.tokens ++ op.token :: right.tokens) ++ [.symbol .rightParen]
  | .oneHot length index =>
      .symbol .leftBracket :: length.tokens ++
        .symbol .semicolon :: index.tokens ++ [.symbol .rightBracket]

namespace Stmt

mutual

/-- The tokens of a statement. -/
def tokens : Stmt → List Token
  | .declare name value => .keyword .declare :: .name name :: .symbol .assign :: value.tokens
  | .assign name value => .name name :: .symbol .assign :: value.tokens
  | .print value => .keyword .print :: value.tokens
  | .ifThen condition body =>
      .keyword .branch :: .symbol .leftParen :: condition.tokens ++
        .symbol .rightParen :: Token.braced (tokensAll body)
  | .ifElse condition body alternative =>
      .keyword .branch :: .symbol .leftParen :: condition.tokens ++
        .symbol .rightParen :: Token.braced (tokensAll body) ++
        .keyword .otherwise :: Token.braced (tokensAll alternative)
  | .forEach name elements body =>
      .keyword .each :: .name name :: .keyword .within :: elements.tokens ++
        Token.braced (tokensAll body)

/-- The tokens of statements with semicolons between them. -/
def tokensAll : List Stmt → List Token
  | [] => []
  | [stmt] => tokens stmt
  | stmt :: rest => tokens stmt ++ .symbol .semicolon :: tokensAll rest

end

end Stmt

/-- The text of a program, with a space between any two tokens. -/
def Program.render (program : Program) : String :=
  " ".intercalate ((Stmt.tokensAll program).map Token.spelling)

/-! ## Renderings are spelled by the grammar -/

theorem Expr.spelled_tokens (expr : Expr) : expr.Spelled Expr.atomLevel expr.tokens := by
  induction expr with
  | int value => exact .int value
  | bool value => exact .bool value
  | var name => exact .var name
  | unary op operand ih =>
      exact .paren ((Spelled.unary op ih).lower (Nat.le_refl 1) (by decide))
  | binary op left right leftIH rightIH =>
      have leftSpelled := leftIH.lower op.one_le_binding (Nat.le_of_lt op.binding_lt_atomLevel)
      have rightSpelled := rightIH.lower (Nat.le_add_left 1 _) op.binding_lt_atomLevel
      have spelled := Spelled.binary op leftSpelled rightSpelled
      exact .paren (spelled.lower (Nat.le_refl 1) op.one_le_binding)
  | oneHot length index lengthIH indexIH =>
      exact .oneHot (lengthIH.lower (Nat.le_refl 1) (by decide))
        (indexIH.lower (Nat.le_refl 1) (by decide))

theorem Expr.spelled_expr (expr : Expr) : expr.Spelled 1 expr.tokens :=
  expr.spelled_tokens.lower (Nat.le_refl 1) (by decide)

namespace Stmt

mutual

theorem spelled_tokens (stmt : Stmt) (writable : stmt.Writable) : stmt.Spelled stmt.tokens := by
  cases stmt with
  | declare name value => exact .declare name value.spelled_expr
  | assign name value => exact .assign name value.spelled_expr
  | print value => exact .print value.spelled_expr
  | ifThen condition body =>
      exact .ifThen condition.spelled_expr (spelledSeq_tokensAll body writable.2.1 writable.2.2)
  | ifElse condition body alternative =>
      rcases writable with ⟨_, ⟨bodySome, bodyWritable⟩, elseSome, elseWritable⟩
      exact .ifElse condition.spelled_expr (spelledSeq_tokensAll body bodySome bodyWritable)
        (spelledSeq_tokensAll alternative elseSome elseWritable)
  | forEach name elements body =>
      rcases writable with ⟨_, _, some, bodyWritable⟩
      exact .forEach name elements.spelled_expr (spelledSeq_tokensAll body some bodyWritable)

theorem spelledSeq_tokensAll (stmts : List Stmt) (some : stmts ≠ [])
    (writable : WritableAll stmts) : SpelledSeq (tokensAll stmts) stmts := by
  match stmts with
  | [] => contradiction
  | [stmt] => exact .last (spelled_tokens stmt writable.1)
  | stmt :: next :: rest =>
      exact .cons (spelled_tokens stmt writable.1)
        (spelledSeq_tokensAll (next :: rest) (by simp) writable.2)

end

end Stmt

/-! ## What is spelled can be written -/

@[simp] theorem UnaryOp.token_writable (op : UnaryOp) : op.token.Writable := by
  cases op <;> trivial

@[simp] theorem BinaryOp.token_writable (op : BinaryOp) : op.token.Writable := by
  cases op <;> trivial

/-- The tokens of a list can be written. -/
def Token.AllWritable (tokens : List Token) : Prop :=
  ∀ token ∈ tokens, token.Writable

namespace Token

@[simp] theorem allWritable_cons {token : Token} {rest : List Token} :
    AllWritable (token :: rest) ↔ token.Writable ∧ AllWritable rest :=
  List.forall_mem_cons

@[simp] theorem allWritable_append {left right : List Token} :
    AllWritable (left ++ right) ↔ AllWritable left ∧ AllWritable right :=
  List.forall_mem_append

@[simp] theorem allWritable_nil : AllWritable [] := by
  simp [AllWritable]

end Token

open Token

/-- An expression can be written if the tokens of any spelling of it can. -/
theorem Expr.Spelled.writable_iff {level : Nat} {tokens : List Token} {expr : Expr}
    (spelled : expr.Spelled level tokens) : AllWritable tokens ↔ expr.Writable := by
  induction spelled with
  | int value =>
      have top : value.toInt ≤ 2147483647 := value.toInt_le
      simp [Token.Writable, Expr.Writable, top]
  | bool value => simp [Token.Writable, Expr.Writable]
  | var name => simp [Token.Writable, Expr.Writable]
  | unary op _ ih => simp [Expr.Writable, ih]
  | paren _ ih => simp [Token.Writable, ih]
  | oneHot _ _ lengthIH indexIH =>
      simp [Token.Writable, Expr.Writable,
        lengthIH, indexIH]
  | operand op _ ih => exact ih
  | binary op _ _ leftIH rightIH =>
      simp [Expr.Writable, leftIH, rightIH]

namespace Stmt

theorem SpelledSeq.ne_nil {tokens : List Token} {stmts : List Stmt}
    (spelled : SpelledSeq tokens stmts) : stmts ≠ [] := by
  cases spelled <;> simp

mutual

/-- A statement can be written if the tokens of any spelling of it can. -/
theorem Spelled.writable_iff {tokens : List Token} {stmt : Stmt} (spelled : stmt.Spelled tokens) :
    AllWritable tokens ↔ stmt.Writable := by
  cases spelled with
  | declare name value =>
      simp [Token.Writable, Writable, value.writable_iff]
  | assign name value =>
      simp [Token.Writable, Writable, value.writable_iff]
  | print value => simp [Token.Writable, Writable, value.writable_iff]
  | ifThen condition body =>
      simp [Token.braced, Token.Writable,
        Writable, condition.writable_iff, body.writable_iff, body.ne_nil]
  | ifElse condition body alternative =>
      simp [Token.braced, Token.Writable,
        Writable, condition.writable_iff, body.writable_iff, body.ne_nil,
        alternative.writable_iff, alternative.ne_nil]
  | forEach name elements body =>
      simp [Token.braced, Token.Writable,
        Writable, elements.writable_iff, body.writable_iff, body.ne_nil]

/-- Statements can be written if the tokens of any spelling of them can. -/
theorem SpelledSeq.writable_iff {tokens : List Token} {stmts : List Stmt}
    (spelled : SpelledSeq tokens stmts) : AllWritable tokens ↔ WritableAll stmts := by
  cases spelled with
  | last spelled => simp [WritableAll, spelled.writable_iff]
  | lastEnded spelled =>
      simp [Token.Writable, WritableAll,
        spelled.writable_iff]
  | cons spelled rest =>
      simp [Token.Writable, WritableAll,
        spelled.writable_iff, rest.writable_iff]

end

end Stmt

/-! ## Renderings are read again -/

namespace Token

/-- The tokens with the separators of a rendering. -/
def spaced : List Token → List (List Char × Token)
  | [] => []
  | token :: rest => ([], token) :: rest.map ([' '], ·)

theorem textOf_spaced_cons (token next : Token) (rest : List Token) :
    textOf (spaced (token :: next :: rest)) [] =
      token.spelling.toList ++ [' '] ++ textOf (spaced (next :: rest)) [] := by
  simp [spaced, textOf]

theorem toList_intercalate (tokens : List Token) :
    (" ".intercalate (tokens.map spelling)).toList = textOf (spaced tokens) [] := by
  rw [String.toList_intercalate, List.map_map]
  induction tokens with
  | nil => rfl
  | cons token rest ih =>
      cases rest with
      | nil => simp [spaced, textOf]
      | cons next rest =>
          rw [textOf_spaced_cons, ← ih]
          simp [List.intercalate]

theorem map_spaced (tokens : List Token) : (spaced tokens).map (·.2) = tokens := by
  cases tokens <;> simp [spaced, Function.comp_def]

theorem spaced_separators (tokens : List Token) :
    ∀ piece ∈ spaced tokens, Separator piece.1 := by
  have space : Separator [' '] := .blank (by decide) .nil
  cases tokens <;> simp [spaced, Separator.nil, space]

/-- Behind separators that are not empty, no token needs to be kept apart. -/
theorem apart_of_separated {first : List Char × Token} {rest : List (List Char × Token)}
    (separated : ∀ next ∈ rest, next.1 ≠ []) :
    (first :: rest).IsChain fun left right => left.2.Merges right.2 → right.1 ≠ [] := by
  induction rest generalizing first with
  | nil => exact .singleton first
  | cons next rest ih =>
      rcases List.forall_mem_cons.mp separated with ⟨nextSeparated, restSeparated⟩
      exact .cons_cons (fun _ => nextSeparated) (ih restSeparated)

theorem spaced_apart (tokens : List Token) :
    (spaced tokens).IsChain fun left right => left.2.Merges right.2 → right.1 ≠ [] := by
  cases tokens with
  | nil => exact .nil
  | cons token rest => exact apart_of_separated (by simp)

/-- Tokens that can be written are laid out with a space between any two of them. -/
theorem exists_laid_intercalate {tokens : List Token} (writable : AllWritable tokens) :
    ∃ found, Lexer.Laid [] (" ".intercalate (tokens.map spelling)).toList found ∧
      found.map (·.token) = tokens := by
  have allWritable : ∀ piece ∈ spaced tokens, piece.2.Writable :=
    List.forall_mem_map.mp ((map_spaced tokens).symm ▸ writable)
  rcases exists_laid_textOf allWritable (spaced_separators tokens) (.nil []) (spaced_apart tokens)
    [] with ⟨found, laid, same⟩
  rw [toList_intercalate]
  exact ⟨found, laid, same.trans (map_spaced tokens)⟩

end Token

namespace Program

theorem ofSource_eq_ok_iff {source : String} {program : Program} :
    ofSource source = .ok program ↔
      ∃ tokens, tokenize source = .ok tokens ∧ ofTokens tokens = .ok program := by
  simp [ofSource, bind_eq_ok_iff]

/-- What is read from a source text can be written. -/
theorem writable_of_ofSource {source : String} {program : Program}
    (read : ofSource source = .ok program) : program.Writable := by
  rcases ofSource_eq_ok_iff.mp read with ⟨tokens, tokenized, parsed⟩
  have laid := Lexer.tokensOf_eq_ok_iff.mp tokenized
  have spelled := ofTokens_eq_ok_iff.mp parsed
  refine ⟨spelled.ne_nil, spelled.writable_iff.mp ?_⟩
  exact List.forall_mem_map.mpr laid.writable

/-- What can be written is read from its rendering. -/
theorem ofSource_of_writable {program : Program} (writable : program.Writable) :
    ofSource program.render = .ok program := by
  have spelled := Stmt.spelledSeq_tokensAll program writable.1 writable.2
  have allWritable := spelled.writable_iff.mpr writable.2
  rcases Token.exists_laid_intercalate allWritable with ⟨found, laid, same⟩
  refine ofSource_eq_ok_iff.mpr ⟨found, Lexer.tokensOf_eq_ok_iff.mpr laid, ?_⟩
  exact ofTokens_eq_ok_iff.mpr (same ▸ spelled)

example :
    render [.print (.binary .add (.int 1) (.unary .negate (.var "x")))] =
      "print ( 1 + ( - x ) )" ∧
    ofSource "print ( 1 + ( - x ) )" =
      .ok [.print (.binary .add (.int 1) (.unary .negate (.var "x")))] :=
  ⟨by decide, rfl⟩

/-- The programs that source texts hold are those that can be written, and each of them
is read from its rendering. -/
theorem ofSource_image (program : Program) :
    ((∃ source, ofSource source = .ok program) ↔ program.Writable) ∧
      (program.Writable → ofSource program.render = .ok program) := by
  refine ⟨⟨?_, ?_⟩, ofSource_of_writable⟩
  · intro ⟨source, read⟩
    exact writable_of_ofSource read
  · intro writable
    exact ⟨program.render, ofSource_of_writable writable⟩

/-- The largest literal, a name that starts like a keyword and nested blocks. -/
theorem ofSource_image_of_loop :
    ofSource (render [.forEach "ink" (.oneHot (.int 2) (.int 0))
        [.ifElse (.bool true) [.print (.unary .negate (.int 2147483647))] [.print (.var "ink")]]]) =
      .ok [.forEach "ink" (.oneHot (.int 2) (.int 0))
        [.ifElse (.bool true) [.print (.unary .negate (.int 2147483647))]
          [.print (.var "ink")]]] := by
  apply (ofSource_image _).2
  have name : Name.Writable "ink" := by decide
  simp [Writable, Stmt.WritableAll, Stmt.Writable, Expr.Writable, name]

end Program

end VectorLang
