import Mathlib.Data.List.Chain
import VectorLang.Proofs.ProgramOutline

/-!
# Reports on programs that were read

The report on a program holds the path of its file, the number of its statements and its
outline. All but the first line and the last one of an outline are indented. So the outline is
found in the report from its end, and the heading in front of it, whatever the path holds.
-/

namespace VectorLang

open Text

/-! ## Indented lines -/

namespace Outline

/-- No line of the text starts as the outlines of programs do. -/
def Indented (text : List Char) : Prop :=
  ('\n' :: text).IsChain fun char next => char = '\n' → next ≠ 'P'

theorem indented_nil : Indented [] := .singleton '\n'

theorem Indented.append {text more : List Char} (first : Indented text) (second : Indented more) :
    Indented (text ++ more) := by
  unfold Indented
  rw [← List.cons_append, List.isChain_append]
  rw [Indented, List.isChain_cons] at second
  exact ⟨first, second.2, fun _ _ next member _ => second.1 next member rfl⟩

/-- A single line that starts with another character. -/
theorem indented_line {first : Char} {line : List Char} (other : first ≠ 'P')
    (oneLine : '\n' ∉ first :: line) : Indented (first :: line) := by
  have inside : (first :: line).IsChain fun char next => char = '\n' → next ≠ 'P' := by
    apply List.Pairwise.isChain
    apply List.pairwise_of_forall_mem_list
    rintro char member _ - rfl
    exact absurd member oneLine
  exact .cons_cons (fun _ => other) inside

theorem indented_lineEnd : Indented ['\n'] :=
  .cons_cons (fun _ => by decide) (.singleton '\n')

theorem indented_indent (depth : Nat) : Indented (indent depth).toList := by
  cases depth with
  | zero => exact indented_nil
  | succ depth =>
      simp only [indent, Nat.mul_succ, List.replicate_succ, String.toList_ofList]
      exact indented_line (by decide) (by simp [List.mem_replicate])

/-- The lines of the parts of a node are indented if what stands behind their first lines is. -/
theorem indented_linesAt {items : List Outline} (plain : ∀ item ∈ items, item.Plain) {depth : Nat}
    (further : ∀ item ∈ items, Indented (furtherLines (depth + 1) item)) :
    Indented (linesAt (depth + 1) items).toList := by
  induction items with
  | nil => exact indented_nil
  | cons item items ih =>
      obtain ⟨itemPlain, itemsPlain⟩ := List.forall_mem_cons.mp plain
      obtain ⟨itemFurther, itemsFurther⟩ := List.forall_mem_cons.mp further
      have line : Indented (' ' :: ' ' :: ' ' :: ' ' :: firstLine item) :=
        indented_line (by decide) (by simp [itemPlain.lineEnd_not_mem])
      have spelled := toList_linesAt_cons_append depth item items []
      rw [List.append_nil, List.append_nil] at spelled
      rw [spelled]
      exact (indented_indent depth).append (line.append (indented_lineEnd.append
        (itemFurther.append (ih itemsPlain itemsFurther))))

/-- All but the first line of an outline are indented. -/
theorem Plain.indented {outline : Outline} (plain : outline.Plain) (depth : Nat) :
    Indented (furtherLines depth outline) := by
  have close {char : Char} (other : char ≠ 'P') (oneLine : '\n' ∉ [char, ',']) :
      Indented [char, ',', '\n'] := (indented_line other oneLine).append indented_lineEnd
  induction plain generalizing depth with
  | leaf clear => exact indented_nil
  | labelled inside itemPlain ih => exact ih depth
  | tuple clear itemsPlain ih =>
      exact (indented_linesAt itemsPlain fun item member => ih item member (depth + 1)).append
        ((indented_indent depth).append (close (by decide) (by decide)))
  | record clear itemsPlain ih =>
      exact (indented_linesAt itemsPlain fun item member => ih item member (depth + 1)).append
        ((indented_indent depth).append (close (by decide) (by decide)))

/-- In an indented text no outline of a program starts. -/
theorem Indented.ne_start {text : List Char} (indented : Indented text)
    {before after : List Char} : text ≠ before ++ '\n' :: 'P' :: after := by
  rintro rfl
  have behind := (List.isChain_append.mp (List.isChain_cons.mp indented).2).2.1
  exact (List.isChain_cons_cons.mp behind).1 rfl rfl

/-- The first outline of a program starts at the front. -/
theorem Indented.eq_nil_of_start {before text text' : List Char} (indented : Indented text)
    (same : '\n' :: 'P' :: text = before ++ '\n' :: 'P' :: text') : before = [] := by
  match before with
  | [] => rfl
  | [_] => exact absurd (List.cons.inj (List.cons.inj same).2).1 (by decide)
  | _ :: _ :: before => exact (indented.ne_start (List.cons.inj (List.cons.inj same).2).2).elim

/-- A heading ends where the outline of a program starts. -/
theorem heading_append_inj {heading heading' text text' : List Char} (indented : Indented text)
    (indented' : Indented text')
    (same : heading ++ '\n' :: 'P' :: text = heading' ++ '\n' :: 'P' :: text') :
    heading = heading' ∧ text = text' := by
  have headings : heading = heading' := by
    obtain ⟨before, rfl, starts⟩ | ⟨before, rfl, starts⟩ := List.append_eq_append_iff.mp same
    · simp [indented.eq_nil_of_start starts]
    · simp [indented'.eq_nil_of_start starts]
  subst headings
  exact ⟨rfl, (List.cons.inj (List.cons.inj (List.append_cancel_left same)).2).2⟩

end Outline

/-! ## Reports -/

/-- An outline of a program starts as no line behind it does. -/
theorem Program.exists_toList_text_outline (program : Program) :
    ∃ lines, (outline program).text.toList = 'P' :: lines ∧ Outline.Indented lines := by
  have parts : ∀ part ∈ [Outline.labelled "stmts" (Stmt.outlineAll program)], part.Plain :=
    List.forall_mem_singleton.mpr (.labelled (by decide) (Stmt.outlineAll_plain program))
  have lines := Outline.indented_linesAt parts fun part member => (parts part member).indented 1
  refine ⟨"rogram \x7b".toList ++ (['\n'] ++ ((Outline.linesAt 1 _).toList ++ ['\x7d'])), ?_,
    (Outline.indented_line (by decide) (by decide)).append (Outline.indented_lineEnd.append
      (lines.append (Outline.indented_line (by decide) (by decide))))⟩
  simp [outline, Outline.text, Outline.textAt, Outline.indent]

namespace Command

/-- The first line of the report on a program. -/
def parseHeading (path : String) (count : Nat) : String :=
  "Parse result for '" ++ path ++ "' (" ++ toString count ++ " statements):"

theorem parseHeading_inj {path path' : String} {count : Nat} :
    parseHeading path count = parseHeading path' count ↔ path = path' := by
  constructor
  · intro same
    unfold parseHeading at same
    rw [String.append_left_inj, String.append_left_inj, String.append_left_inj,
      String.append_right_inj] at same
    exact same
  · rintro rfl
    rfl

/-- The report on a program that was read, as the characters of its lines. -/
theorem toList_out_reportOn_parse {path source : String} {program : Program}
    (read : Program.ofSource source = .ok program) :
    (reportOn .parse path source).out.toList =
      (parseHeading path program.length).toList ++
        '\n' :: ((Program.outline program).text.toList ++ ['\n']) := by
  have ended : " statements):\n" = " statements):" ++ "\n" := by decide
  have spelled : (reportOn .parse path source).out =
      parseHeading path program.length ++ "\n" ++ ((Program.outline program).text ++ "\n") := by
    unfold reportOn parseHeading
    simp only [read, Report.ok, ended, String.append_assoc]
    rfl
  simp [spelled]

/-- The report on a program that was read tells which program it is, and from which path. -/
theorem parse_report_faithful {path path' source source' : String} {program program' : Program}
    (read : Program.ofSource source = .ok program)
    (read' : Program.ofSource source' = .ok program') :
    (reportOn .parse path source).out = (reportOn .parse path' source').out ↔
      path = path' ∧ program = program' := by
  rw [← String.toList_inj, toList_out_reportOn_parse read, toList_out_reportOn_parse read']
  constructor
  · intro same
    obtain ⟨lines, outlined, indented⟩ := Program.exists_toList_text_outline program
    obtain ⟨lines', outlined', indented'⟩ := Program.exists_toList_text_outline program'
    rw [outlined, outlined', List.cons_append, List.cons_append] at same
    obtain ⟨headings, behind⟩ := Outline.heading_append_inj
      (indented.append Outline.indented_lineEnd) (indented'.append Outline.indented_lineEnd) same
    rw [← List.append_cancel_right behind, ← outlined, String.toList_inj] at outlined'
    obtain rfl := Program.text_outline_inj.mp outlined'
    exact ⟨parseHeading_inj.mp (String.toList_inj.mp headings), rfl⟩
  · rintro ⟨rfl, rfl⟩
    rfl

/-- Parentheses and comments do not show in the report. -/
theorem parse_report_faithful_of_parens :
    Program.ofSource "print 1" = .ok [.print (.int 1)] ∧
      Program.ofSource "print (1) // one" = .ok [.print (.int 1)] ∧
      (reportOn .parse "one" "print 1").out = (reportOn .parse "one" "print (1) // one").out :=
  have read : Program.ofSource "print 1" = .ok [.print (.int 1)] := by rfl
  have read' : Program.ofSource "print (1) // one" = .ok [.print (.int 1)] := by rfl
  ⟨read, read', (parse_report_faithful read read').mpr ⟨rfl, rfl⟩⟩

end Command

end VectorLang
