import VectorLang.Proofs.QuotedText
import VectorLang.Syntax.Outline

/-!
# Outlines can be told apart

The text of an outline tells which outline it is. The first line of an outline ends with what
stands behind a leaf or opens a node, and it starts with a label if the outline has one. The
lines of the parts of a node are further right than the line that closes the node, so it is
told from a line whether a further part starts there.
-/

namespace VectorLang

open Text

namespace Outline

/-! ## Lines -/

/-- The characters of labels. -/
def isLabelChar (char : Char) : Bool := char.isLower || char == '_'

/-- The line is one line and does not start with a label. -/
structure Clear (line : List Char) : Prop where
  lineEnd_not_mem : '\n' ∉ line
  unlabelled : (line.dropWhile isLabelChar).head? ≠ some ':'

/-- An outline whose text can be read again. -/
inductive Plain : Outline → Prop where
  | leaf {text : String} : Clear (text.toList ++ [',']) → Plain (leaf text)
  | labelled {label : String} {item : Outline} :
      label.toList.all isLabelChar → Plain item → Plain (labelled label item)
  | tuple {head : String} {items : List Outline} :
      Clear (head.toList ++ ['(']) → (∀ item ∈ items, Plain item) → Plain (tuple head items)
  | record {head : String} {items : List Outline} :
      Clear (head.toList ++ [' ', '\x7b']) → (∀ item ∈ items, Plain item) →
      Plain (record head items)

/-- The first line of an outline, with the comma behind a leaf. -/
def firstLine : Outline → List Char
  | leaf text => text.toList ++ [',']
  | labelled label item => label.toList ++ ':' :: ' ' :: firstLine item
  | tuple head _ => head.toList ++ ['(']
  | record head _ => head.toList ++ [' ', '\x7b']

/-- The lines behind the first one, with the comma behind a node. -/
def furtherLines (depth : Nat) : Outline → List Char
  | leaf _ => []
  | labelled _ item => furtherLines depth item
  | tuple _ items =>
      (linesAt (depth + 1) items).toList ++ ((indent depth).toList ++ [')', ',', '\n'])
  | record _ items =>
      (linesAt (depth + 1) items).toList ++ ((indent depth).toList ++ ['\x7d', ',', '\n'])

/-- The last character of the first line. -/
def ending : Outline → Char
  | leaf _ => ','
  | labelled _ item => ending item
  | tuple _ _ => '('
  | record _ _ => '\x7b'

theorem toList_textAt_append (depth : Nat) (outline : Outline) (rest : List Char) :
    (textAt depth outline).toList ++ ',' :: '\n' :: rest =
      firstLine outline ++ '\n' :: (furtherLines depth outline ++ rest) := by
  match outline with
  | leaf text => simp [textAt, firstLine, furtherLines]
  | labelled label item =>
      have inner := toList_textAt_append depth item rest
      simp [textAt, firstLine, furtherLines, inner]
  | tuple head items => simp [textAt, firstLine, furtherLines]
  | record head items => simp [textAt, firstLine, furtherLines]

theorem getLast?_firstLine (outline : Outline) :
    (firstLine outline).getLast? = some outline.ending := by
  match outline with
  | leaf text => simp [firstLine, ending]
  | labelled label item =>
      have inner := getLast?_firstLine item
      simp [firstLine, ending, List.getLast?_append, List.getLast?_cons, inner]
  | tuple head items => simp [firstLine, ending]
  | record head items => simp [firstLine, ending]

theorem ending_eq_of_firstLine {outline other : Outline}
    (same : firstLine outline = firstLine other) : outline.ending = other.ending := by
  have endings := congrArg List.getLast? same
  rw [getLast?_firstLine, getLast?_firstLine] at endings
  exact Option.some.inj endings

theorem Plain.lineEnd_not_mem {outline : Outline} (plain : outline.Plain) :
    '\n' ∉ firstLine outline := by
  induction plain with
  | leaf clear | tuple clear | record clear => exact clear.lineEnd_not_mem
  | labelled label _ ih =>
      have outside : '\n' ∉ _ :=
        fun member => absurd (List.all_eq_true.mp label '\n' member) (by decide)
      simp [firstLine, outside, ih]

/-- A line that starts with a label is not clear. -/
theorem Clear.ne_labelled {line : List Char} (clear : Clear line) {label rest : List Char}
    (inside : label.all isLabelChar) : line ≠ label ++ ':' :: rest := by
  rintro rfl
  apply clear.unlabelled
  rw [List.dropWhile_append_of_pos (List.all_eq_true.mp inside)]
  rfl

/-- Outlines are told apart by their first lines and the lines behind. -/
def Readable (outline : Outline) : Prop :=
  ∀ {depth : Nat} {other : Outline} {rest rest' : List Char}, other.Plain →
    firstLine outline = firstLine other →
    furtherLines depth outline ++ rest = furtherLines depth other ++ rest' →
    outline = other ∧ rest = rest'

/-- A first line ends where its line end stands. -/
theorem firstLine_append_inj {outline other : Outline} (plain : outline.Plain)
    (plain' : other.Plain) {rest rest' : List Char}
    (same : firstLine outline ++ '\n' :: rest = firstLine other ++ '\n' :: rest') :
    firstLine outline = firstLine other ∧ rest = rest' := by
  have inside {outline : Outline} (plain : outline.Plain) :
      ∀ char ∈ firstLine outline, (char != '\n') = true := by
    intro char member
    rw [bne_iff_ne]
    rintro rfl
    exact plain.lineEnd_not_mem member
  obtain ⟨firsts, behind⟩ := run_append_inj (inside plain) (inside plain')
    (endsRun_cons (by decide) rest) (endsRun_cons (by decide) rest') same
  exact ⟨firsts, (List.cons.inj behind).2⟩

theorem toList_indent_succ (depth : Nat) :
    (indent (depth + 1)).toList = (indent depth).toList ++ [' ', ' ', ' ', ' '] := by
  simp [indent, Nat.mul_add, List.replicate_add]

/-- A part starts further right than the line that closes its node. -/
theorem toList_linesAt_cons_append (depth : Nat) (item : Outline) (items : List Outline)
    (rest : List Char) :
    (linesAt (depth + 1) (item :: items)).toList ++ rest =
      (indent depth).toList ++ ' ' :: ' ' :: ' ' :: ' ' ::
        (firstLine item ++ '\n' :: (furtherLines (depth + 1) item ++
          ((linesAt (depth + 1) items).toList ++ rest))) := by
  rw [← toList_textAt_append]
  simp [linesAt, toList_indent_succ]

/-- The parts of a node are told apart, up to the line that closes it. -/
theorem linesAt_append_inj {items others : List Outline} (plain : ∀ item ∈ items, item.Plain)
    (readable : ∀ item ∈ items, item.Readable) (plain' : ∀ item ∈ others, item.Plain)
    {depth : Nat} {close : Char} (visible : close ≠ ' ') {rest rest' : List Char}
    (same : (linesAt (depth + 1) items).toList ++ ((indent depth).toList ++ close :: rest) =
      (linesAt (depth + 1) others).toList ++ ((indent depth).toList ++ close :: rest')) :
    items = others ∧ rest = rest' := by
  induction items generalizing others with
  | nil =>
      cases others with
      | nil =>
          have closed := List.append_cancel_left (List.append_cancel_left same)
          exact ⟨rfl, (List.cons.inj closed).2⟩
      | cons other others =>
          rw [toList_linesAt_cons_append] at same
          exact absurd (List.cons.inj (List.append_cancel_left same)).1 visible
  | cons item items ih =>
      cases others with
      | nil =>
          rw [toList_linesAt_cons_append] at same
          exact absurd (List.cons.inj (List.append_cancel_left same)).1.symm visible
      | cons other others =>
          obtain ⟨itemPlain, itemsPlain⟩ := List.forall_mem_cons.mp plain
          obtain ⟨otherPlain, othersPlain⟩ := List.forall_mem_cons.mp plain'
          obtain ⟨itemReadable, itemsReadable⟩ := List.forall_mem_cons.mp readable
          rw [toList_linesAt_cons_append, toList_linesAt_cons_append] at same
          have lines := List.append_cancel_left same
          simp only [List.cons.injEq, true_and] at lines
          obtain ⟨firsts, further⟩ := firstLine_append_inj itemPlain otherPlain lines
          obtain ⟨rfl, parts⟩ := itemReadable otherPlain firsts further
          obtain ⟨rfl, behind⟩ := ih itemsPlain itemsReadable othersPlain parts
          exact ⟨rfl, behind⟩

/-- The first line tells the kind of an outline: by its label or, without one, by its end. -/
theorem Plain.readable {outline : Outline} (plain : outline.Plain) : outline.Readable := by
  induction plain with
  | labelled inside _ ih =>
      intro depth other rest rest' plain' firsts further
      cases plain' with
      | labelled inside' itemPlain' =>
          obtain ⟨labels, items⟩ := run_append_inj (List.all_eq_true.mp inside)
            (List.all_eq_true.mp inside') (endsRun_cons (by decide) _) (endsRun_cons (by decide) _)
            firsts
          simp only [List.cons.injEq, true_and] at items
          obtain rfl := String.toList_inj.mp labels
          obtain ⟨rfl, behind⟩ := ih itemPlain' items further
          exact ⟨rfl, behind⟩
      | leaf clear' | tuple clear' | record clear' =>
          exact (clear'.ne_labelled inside firsts.symm).elim
  | leaf clear =>
      intro depth other rest rest' plain' firsts further
      cases plain' with
      | leaf =>
          obtain rfl := String.toList_inj.mp (List.append_inj' firsts rfl).1
          exact ⟨rfl, further⟩
      | labelled inside' => exact (clear.ne_labelled inside' firsts).elim
      | tuple | record => exact absurd (ending_eq_of_firstLine firsts) (by simp [ending])
  | tuple clear itemsPlain ih =>
      intro depth other rest rest' plain' firsts further
      cases plain' with
      | tuple clear' itemsPlain' =>
          obtain rfl := String.toList_inj.mp (List.append_inj' firsts rfl).1
          simp only [furtherLines, List.append_assoc, List.cons_append] at further
          obtain ⟨rfl, behind⟩ := linesAt_append_inj itemsPlain ih itemsPlain' (by decide) further
          exact ⟨rfl, by simpa using behind⟩
      | labelled inside' => exact (clear.ne_labelled inside' firsts).elim
      | leaf | record => exact absurd (ending_eq_of_firstLine firsts) (by simp [ending])
  | record clear itemsPlain ih =>
      intro depth other rest rest' plain' firsts further
      cases plain' with
      | record clear' itemsPlain' =>
          obtain rfl := String.toList_inj.mp (List.append_inj' firsts rfl).1
          simp only [furtherLines, List.append_assoc, List.cons_append] at further
          obtain ⟨rfl, behind⟩ := linesAt_append_inj itemsPlain ih itemsPlain' (by decide) further
          exact ⟨rfl, by simpa using behind⟩
      | labelled inside' => exact (clear.ne_labelled inside' firsts).elim
      | leaf | tuple => exact absurd (ending_eq_of_firstLine firsts) (by simp [ending])

/-- Different plain outlines have different texts. -/
theorem Plain.text_inj {outline other : Outline} (plain : outline.Plain) (plain' : other.Plain) :
    outline.text = other.text ↔ outline = other := by
  refine ⟨fun same => ?_, congrArg text⟩
  have lines := congrArg (fun text => text.toList ++ ',' :: '\n' :: []) same
  simp only [text, toList_textAt_append] at lines
  obtain ⟨firsts, further⟩ := firstLine_append_inj plain plain' lines
  exact (plain.readable plain' firsts further).1

end Outline

end VectorLang
