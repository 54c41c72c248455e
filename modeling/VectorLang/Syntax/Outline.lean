import VectorLang.Syntax
import VectorLang.Text.Quoted

/-!
# Outlines of program trees

An outline shows a tree over many lines: every part of a node stands on a line of
its own, four columns further right than the node, with a comma behind it.
-/

namespace VectorLang

/-- A tree of text. -/
inductive Outline where
  /-- A text without parts. -/
  | leaf (text : String)
  /-- A part with the name of its role. -/
  | labelled (label : String) (item : Outline)
  /-- A node whose parts are known by their order. -/
  | tuple (head : String) (items : List Outline)
  /-- A node whose parts have labels. -/
  | record (head : String) (items : List Outline)
  deriving Repr

namespace Outline

/-- The blanks before a line at `depth`. -/
def indent (depth : Nat) : String :=
  String.ofList (List.replicate (4 * depth) ' ')

mutual

/-- The text of an outline whose first line stands at `depth`. -/
def textAt (depth : Nat) : Outline → String
  | .leaf text => text
  | .labelled label item => label ++ ": " ++ textAt depth item
  | .tuple head items => head ++ "(\n" ++ linesAt (depth + 1) items ++ indent depth ++ ")"
  | .record head items =>
      head ++ " \x7b\n" ++ linesAt (depth + 1) items ++ indent depth ++ "\x7d"

/-- The lines of the parts of a node. -/
def linesAt (depth : Nat) : List Outline → String
  | [] => ""
  | item :: rest => indent depth ++ textAt depth item ++ ",\n" ++ linesAt depth rest

end

/-- The text of an outline. -/
def text (outline : Outline) : String := outline.textAt 0

end Outline

/-- How outlines show a name. -/
def Name.outlineText (name : Name) : String := "Name(" ++ Text.quote name ++ ")"

/-- The outline of a unary operator. -/
def UnaryOp.outline : UnaryOp → Outline
  | .negate => .leaf "Neg"
  | .not => .leaf "Not"
  | .first => .leaf "Fst"
  | .second => .leaf "Snd"

/-- The outline of a binary operator. -/
def BinaryOp.outline : BinaryOp → Outline
  | .mul => .leaf "Mul"
  | .add => .leaf "Add"
  | .equal => .leaf "Eq"
  | .and => .leaf "And"
  | .pair => .leaf "Pair"

/-- The outline of an expression. -/
def Expr.outline : Expr → Outline
  | .int value => .tuple "Int" [.leaf (toString value.toInt)]
  | .bool true => .tuple "Bool" [.leaf "true"]
  | .bool false => .tuple "Bool" [.leaf "false"]
  | .var name => .tuple "Variable" [.leaf name.outlineText]
  | .unary op operand =>
      .record "Unary" [.labelled "op" op.outline, .labelled "operand" operand.outline]
  | .binary op left right =>
      .record "Binary" [.labelled "op" op.outline, .labelled "left" left.outline,
        .labelled "right" right.outline]
  | .oneHot length index =>
      .record "Vector" [.labelled "length" length.outline, .labelled "index" index.outline]

/-- The outline of a block whose statements have the outline `stmts`. -/
def Outline.block (stmts : Outline) : Outline := .record "Block" [.labelled "stmts" stmts]

namespace Stmt

mutual

/-- The outline of a statement. -/
def outline : Stmt → Outline
  | .declare name value =>
      .record "VarDecl" [.labelled "name" (.leaf name.outlineText),
        .labelled "init" value.outline]
  | .assign name value =>
      .record "Assign" [.labelled "name" (.leaf name.outlineText),
        .labelled "value" value.outline]
  | .print value => .tuple "Print" [value.outline]
  | .ifThen condition body =>
      .record "If" [.labelled "cond" condition.outline,
        .labelled "then_block" (.block (outlineAll body)),
        .labelled "else_block" (.leaf "None")]
  | .ifElse condition body alternative =>
      .record "If" [.labelled "cond" condition.outline,
        .labelled "then_block" (.block (outlineAll body)),
        .labelled "else_block" (.tuple "Some" [.block (outlineAll alternative)])]
  | .forEach name elements body =>
      .record "Foreach" [.labelled "name" (.leaf name.outlineText),
        .labelled "iter" elements.outline,
        .labelled "body" (.block (outlineAll body))]

/-- The outline of a sequence of statements: the first one and the sequence
behind it. -/
def outlineAll : List Stmt → Outline
  | [] => .leaf "Empty"
  | stmt :: rest => .tuple "NonEmpty" [outline stmt, outlineAll rest]

end

end Stmt

/-- The outline of a program. -/
def Program.outline (program : Program) : Outline :=
  .record "Program" [.labelled "stmts" (Stmt.outlineAll program)]

end VectorLang
