import VectorLang.Command.Plan
import VectorLang.Proofs.OutlineText

/-!
# Program trees can be told apart by their outlines

Every node of a program tree has an outline of its own, which holds the outlines of its parts.
So the report on a program that was read shows which program it is.
-/

namespace VectorLang

open Text
open List (forall_mem_cons forall_mem_singleton)

/-! ## Leaves -/

namespace Outline

/-- A leaf that starts with no label character. -/
theorem Plain.leaf_of_head {text : String} {first : Char} {more : List Char}
    (spelled : text.toList = first :: more) (noLabel : isLabelChar first = false)
    (noColon : first ≠ ':') (noLineEnd : '\n' ∉ text.toList) : (Outline.leaf text).Plain := by
  refine .leaf ⟨by simpa using noLineEnd, ?_⟩
  simp [spelled, noLabel, noColon]

end Outline

namespace Name

theorem toList_outlineText (name : Name) :
    name.outlineText.toList = 'N' :: ('a' :: 'm' :: 'e' :: '(' ::
      ((quote name).toList ++ [')'])) := by
  simp [outlineText]

theorem outlineText_inj {name other : Name} :
    name.outlineText = other.outlineText ↔ name = other := by
  refine ⟨fun same => ?_, congrArg outlineText⟩
  have texts := congrArg String.toList same
  rw [toList_outlineText, toList_outlineText] at texts
  simp only [List.cons.injEq, true_and] at texts
  exact quote_inj.mp (String.toList_inj.mp (List.append_inj' texts rfl).1)

theorem outlineText_plain (name : Name) : (Outline.leaf name.outlineText).Plain := by
  refine .leaf_of_head (toList_outlineText name) (by decide) (by decide) ?_
  simp [toList_outlineText, lineEnd_not_mem_quote name]

end Name

theorem Value.mem_intText {value : Int32} {char : Char}
    (member : char ∈ (intText value).toList) : char = '-' ∨ char.isDigit := by
  have digit {count : Nat} (member : char ∈ Nat.toDigits 10 count) : char.isDigit :=
    Nat.isDigit_of_mem_toDigits (by decide) (by decide) member
  obtain ⟨count, -, printed⟩ | ⟨count, -, printed⟩ := toList_intText_cases value
  · exact .inr (digit (printed ▸ member))
  · rw [printed, List.mem_cons] at member
    exact member.imp_right digit

theorem Value.intText_plain (value : Int32) : (Outline.leaf (intText value)).Plain := by
  have solid {char : Char} (member : char ∈ (intText value).toList) :
      Outline.isLabelChar char = false ∧ char ≠ ':' ∧ char ≠ '\n' := by
    rcases mem_intText member with rfl | digit
    · decide
    · have other (special : Char) (noDigit : special.isDigit = false) : char ≠ special := by
        rintro rfl
        rw [noDigit] at digit
        cases digit
      have noLower : char.isLower = false :=
        (Bool.or_eq_false_iff.mp (Lexer.isAlpha_of_isDigit digit)).2
      refine ⟨?_, other ':' (by decide), other '\n' (by decide)⟩
      simp [Outline.isLabelChar, noLower, other '_' (by decide)]
  obtain ⟨first, more, spelled, -⟩ := exists_first_intText value
  obtain ⟨noLabel, noColon, -⟩ := solid (spelled ▸ List.mem_cons_self)
  exact .leaf_of_head spelled noLabel noColon fun member => (solid member).2.2 rfl

theorem Value.intText_inj {value other : Int32} :
    intText value = intText other ↔ value = other := by
  refine ⟨fun same => ?_, congrArg intText⟩
  have texts := congrArg (fun text => text.toList ++ []) same
  exact (intText_append_inj (endsRun_nil _) (endsRun_nil _) texts).1

theorem Value.boolText_plain (value : Bool) : (Outline.leaf (boolText value)).Plain := by
  cases value <;> exact .leaf ⟨by decide, by decide⟩

theorem Value.boolText_inj {value other : Bool} :
    boolText value = boolText other ↔ value = other := by
  cases value <;> cases other <;> simp [boolText]

/-! ## Operators -/

theorem UnaryOp.outline_plain (op : UnaryOp) : op.outline.Plain := by
  cases op <;> exact .leaf ⟨by decide, by decide⟩

theorem UnaryOp.outline_inj {op other : UnaryOp} : op.outline = other.outline ↔ op = other := by
  cases op <;> cases other <;> simp [outline]

theorem BinaryOp.outline_plain (op : BinaryOp) : op.outline.Plain := by
  cases op <;> exact .leaf ⟨by decide, by decide⟩

theorem BinaryOp.outline_inj {op other : BinaryOp} : op.outline = other.outline ↔ op = other := by
  cases op <;> cases other <;> simp [outline]

/-! ## Expressions -/

namespace Expr

open Outline

theorem outline_int (value : Int32) :
    (int value).outline = .tuple "Int" [.leaf (Value.intText value)] := rfl

theorem outline_bool (value : Bool) :
    (bool value).outline = .tuple "Bool" [.leaf (Value.boolText value)] := by
  cases value <;> rfl

theorem outline_plain (expr : Expr) : expr.outline.Plain := by
  induction expr with
  | int value =>
      rw [outline_int]
      exact .tuple ⟨by decide, by decide⟩ (forall_mem_singleton.mpr (Value.intText_plain value))
  | bool value =>
      rw [outline_bool]
      exact .tuple ⟨by decide, by decide⟩ (forall_mem_singleton.mpr (Value.boolText_plain value))
  | var name =>
      exact .tuple ⟨by decide, by decide⟩ (forall_mem_singleton.mpr name.outlineText_plain)
  | unary op operand ih =>
      exact .record ⟨by decide, by decide⟩
        (forall_mem_cons.mpr ⟨.labelled (by decide) op.outline_plain,
          forall_mem_singleton.mpr (.labelled (by decide) ih)⟩)
  | binary op left right leftIH rightIH =>
      exact .record ⟨by decide, by decide⟩
        (forall_mem_cons.mpr ⟨.labelled (by decide) op.outline_plain,
          forall_mem_cons.mpr ⟨.labelled (by decide) leftIH,
            forall_mem_singleton.mpr (.labelled (by decide) rightIH)⟩⟩)
  | oneHot length index lengthIH indexIH =>
      exact .record ⟨by decide, by decide⟩
        (forall_mem_cons.mpr ⟨.labelled (by decide) lengthIH,
          forall_mem_singleton.mpr (.labelled (by decide) indexIH)⟩)

/-- Expressions are told apart by the heads of their outlines, and then by the parts. -/
theorem outline_inj {expr other : Expr} : expr.outline = other.outline ↔ expr = other := by
  refine ⟨fun same => ?_, congrArg outline⟩
  induction expr generalizing other with
  | int value =>
      cases other with
      | int other =>
          simp only [outline_int, tuple.injEq, List.cons.injEq, leaf.injEq, and_true,
            true_and] at same
          rw [Value.intText_inj.mp same]
      | bool | var | unary | binary | oneHot => simp [outline, outline_bool] at same
  | bool value =>
      cases other with
      | bool other =>
          simp only [outline_bool, tuple.injEq, List.cons.injEq, leaf.injEq, and_true,
            true_and] at same
          rw [Value.boolText_inj.mp same]
      | int | var | unary | binary | oneHot => simp [outline, outline_bool] at same
  | var name =>
      cases other with
      | var other =>
          simp only [outline, tuple.injEq, List.cons.injEq, leaf.injEq, and_true,
            true_and] at same
          rw [Name.outlineText_inj.mp same]
      | int | bool | unary | binary | oneHot => simp [outline, outline_bool] at same
  | unary op operand ih =>
      cases other with
      | unary other operand' =>
          simp only [outline, record.injEq, List.cons.injEq, labelled.injEq, and_true,
            true_and] at same
          rw [UnaryOp.outline_inj.mp same.1, ih same.2]
      | int | bool | var | binary | oneHot => simp [outline, outline_bool] at same
  | binary op left right leftIH rightIH =>
      cases other with
      | binary other left' right' =>
          simp only [outline, record.injEq, List.cons.injEq, labelled.injEq, and_true,
            true_and] at same
          rw [BinaryOp.outline_inj.mp same.1, leftIH same.2.1, rightIH same.2.2]
      | int | bool | var | unary | oneHot => simp [outline, outline_bool] at same
  | oneHot length index lengthIH indexIH =>
      cases other with
      | oneHot length' index' =>
          simp only [outline, record.injEq, List.cons.injEq, labelled.injEq, and_true,
            true_and] at same
          rw [lengthIH same.1, indexIH same.2]
      | int | bool | var | unary | binary => simp [outline, outline_bool] at same

end Expr

/-! ## Statements -/

namespace Stmt

open Outline

theorem block_plain {stmts : Outline} (plain : stmts.Plain) : (Outline.block stmts).Plain :=
  .record ⟨by decide, by decide⟩ (forall_mem_singleton.mpr (.labelled (by decide) plain))

mutual

theorem outline_plain (stmt : Stmt) : stmt.outline.Plain := by
  match stmt with
  | .declare name value =>
      exact .record ⟨by decide, by decide⟩
        (forall_mem_cons.mpr ⟨.labelled (by decide) name.outlineText_plain,
          forall_mem_singleton.mpr (.labelled (by decide) value.outline_plain)⟩)
  | .assign name value =>
      exact .record ⟨by decide, by decide⟩
        (forall_mem_cons.mpr ⟨.labelled (by decide) name.outlineText_plain,
          forall_mem_singleton.mpr (.labelled (by decide) value.outline_plain)⟩)
  | .print value =>
      exact .tuple ⟨by decide, by decide⟩ (forall_mem_singleton.mpr value.outline_plain)
  | .ifThen condition body =>
      exact .record ⟨by decide, by decide⟩
        (forall_mem_cons.mpr ⟨.labelled (by decide) condition.outline_plain,
          forall_mem_cons.mpr ⟨.labelled (by decide) (block_plain (outlineAll_plain body)),
            forall_mem_singleton.mpr (.labelled (by decide) (.leaf ⟨by decide, by decide⟩))⟩⟩)
  | .ifElse condition body alternative =>
      have block := block_plain (outlineAll_plain alternative)
      have present : (tuple "Some" [.block (outlineAll alternative)]).Plain :=
        .tuple ⟨by decide, by decide⟩ (forall_mem_singleton.mpr block)
      exact .record ⟨by decide, by decide⟩
        (forall_mem_cons.mpr ⟨.labelled (by decide) condition.outline_plain,
          forall_mem_cons.mpr ⟨.labelled (by decide) (block_plain (outlineAll_plain body)),
            forall_mem_singleton.mpr (.labelled (by decide) present)⟩⟩)
  | .forEach name elements body =>
      have block := block_plain (outlineAll_plain body)
      exact .record ⟨by decide, by decide⟩
        (forall_mem_cons.mpr ⟨.labelled (by decide) name.outlineText_plain,
          forall_mem_cons.mpr ⟨.labelled (by decide) elements.outline_plain,
            forall_mem_singleton.mpr (.labelled (by decide) block)⟩⟩)

theorem outlineAll_plain (stmts : List Stmt) : (outlineAll stmts).Plain := by
  match stmts with
  | [] => exact .leaf ⟨by decide, by decide⟩
  | stmt :: rest =>
      exact .tuple ⟨by decide, by decide⟩
        (forall_mem_cons.mpr ⟨outline_plain stmt,
          forall_mem_singleton.mpr (outlineAll_plain rest)⟩)

end

mutual

/-- The head of a node and, for the two forms of a condition, the alternative tell the kind of
a statement. -/
theorem eq_of_outline {stmt other : Stmt} (same : stmt.outline = other.outline) :
    stmt = other := by
  match stmt with
  | .declare name value =>
      cases other with
      | declare other value' =>
          simp only [outline, record.injEq, List.cons.injEq, labelled.injEq, leaf.injEq, and_true,
            true_and] at same
          rw [Name.outlineText_inj.mp same.1, Expr.outline_inj.mp same.2]
      | assign | print | ifThen | ifElse | forEach => simp [outline] at same
  | .assign name value =>
      cases other with
      | assign other value' =>
          simp only [outline, record.injEq, List.cons.injEq, labelled.injEq, leaf.injEq, and_true,
            true_and] at same
          rw [Name.outlineText_inj.mp same.1, Expr.outline_inj.mp same.2]
      | declare | print | ifThen | ifElse | forEach => simp [outline] at same
  | .print value =>
      cases other with
      | print other =>
          simp only [outline, tuple.injEq, List.cons.injEq, and_true, true_and] at same
          rw [Expr.outline_inj.mp same]
      | declare | assign | ifThen | ifElse | forEach => simp [outline] at same
  | .ifThen condition body =>
      cases other with
      | ifThen condition' body' =>
          simp only [outline, record.injEq, List.cons.injEq, labelled.injEq, block, and_true,
            true_and] at same
          rw [Expr.outline_inj.mp same.1, eq_of_outlineAll same.2]
      | declare | assign | print | ifElse | forEach => simp [outline] at same
  | .ifElse condition body alternative =>
      cases other with
      | ifElse condition' body' alternative' =>
          simp only [outline, record.injEq, tuple.injEq, List.cons.injEq, labelled.injEq, block,
            and_true, true_and] at same
          rw [Expr.outline_inj.mp same.1, eq_of_outlineAll same.2.1, eq_of_outlineAll same.2.2]
      | declare | assign | print | ifThen | forEach => simp [outline] at same
  | .forEach name elements body =>
      cases other with
      | forEach other elements' body' =>
          simp only [outline, record.injEq, List.cons.injEq, labelled.injEq, leaf.injEq, block,
            and_true, true_and] at same
          rw [Name.outlineText_inj.mp same.1, Expr.outline_inj.mp same.2.1,
            eq_of_outlineAll same.2.2]
      | declare | assign | print | ifThen | ifElse => simp [outline] at same

theorem eq_of_outlineAll {stmts others : List Stmt}
    (same : outlineAll stmts = outlineAll others) : stmts = others := by
  match stmts with
  | [] =>
      cases others with
      | nil => rfl
      | cons => simp [outlineAll] at same
  | stmt :: rest =>
      cases others with
      | nil => simp [outlineAll] at same
      | cons other rest' =>
          simp only [outlineAll, tuple.injEq, List.cons.injEq, and_true, true_and] at same
          rw [eq_of_outline same.1, eq_of_outlineAll same.2]

end

end Stmt

/-! ## Programs -/

namespace Program

theorem outline_plain (program : Program) : (outline program).Plain :=
  .record ⟨by decide, by decide⟩
    (forall_mem_singleton.mpr (.labelled (by decide) (Stmt.outlineAll_plain program)))

/-- Different programs have different outlines. -/
theorem text_outline_inj {program other : Program} :
    (outline program).text = (outline other).text ↔ program = other := by
  rw [(outline_plain program).text_inj (outline_plain other)]
  refine ⟨fun same => ?_, congrArg outline⟩
  simp only [outline, Outline.record.injEq, List.cons.injEq, Outline.labelled.injEq, and_true,
    true_and] at same
  exact Stmt.eq_of_outlineAll same

end Program

end VectorLang
