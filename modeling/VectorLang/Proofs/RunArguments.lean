import Mathlib.Data.List.Induction
import VectorLang.Command.Arguments
import VectorLang.Proofs.Outcome

/-!
# Arguments of a run

The words behind `run` are read as items from the left, in one way only: an output path takes
the word behind its `-o`, whatever that is, and all other items are one word. What the items
ask for does not depend on their order, but for the output paths, of which the last one
counts; and the first item that cannot stand where it does is reported.
-/

namespace VectorLang

namespace RunOptions

/-! ## Items and their words -/

/-- The words write the item. -/
inductive Item.Written : List String → Item → Prop where
  | output (path : String) : Written ["-o", path] (.output path)
  | skipTypecheck {word : String} :
      word = "--no-typecheck" ∨ word = "-ntc" → Written [word] .skipTypecheck
  /-- The empty word is an input, too. -/
  | input {path : String} :
      path = "-" ∨ path.toList.head? ≠ some '-' → Written [path] (.input path)
  | unknown {word : String} :
      word.toList.head? = some '-' → word ∉ ["-", "-o", "--no-typecheck", "-ntc"] →
      Written [word] (.unknown word)

/-- The words are read as the items, from the left. -/
inductive ReadAs : List String → List Item → Prop where
  | nil : ReadAs [] []
  | cons {words rest : List String} {item : Item} {items : List Item} :
      item.Written words → ReadAs rest items → ReadAs (words ++ rest) (item :: items)
  /-- Behind the last word there is no path. -/
  | missingOutputPath : ReadAs ["-o"] [.missingOutputPath]

theorem Item.written_ofWord {word : String} (other : word ≠ "-o") :
    (Item.ofWord word).Written [word] := by
  unfold Item.ofWord
  split
  · next flag => exact .skipTypecheck flag
  · next noFlag =>
      split
      · next dash => exact .input (.inl dash)
      · next noDash =>
          split
          · next start => exact .unknown (by simp [start]) (by simp_all)
          · next start =>
              refine .input (.inr fun dashed => ?_)
              obtain ⟨rest, spelled⟩ := List.head?_eq_some_iff.mp dashed
              exact start rest spelled

/-- An item of one word is the item of that word. -/
theorem Item.ofWord_of_written {word : String} {item : Item} (written : item.Written [word]) :
    word ≠ "-o" ∧ Item.ofWord word = item := by
  unfold Item.ofWord
  cases written with
  | skipTypecheck flag => rcases flag with rfl | rfl <;> simp
  | input dashOrNone =>
      rcases dashOrNone with rfl | start
      · simp
      · have other (option : String) (dashed : option.toList.head? = some '-') :
            word ≠ option := by
          rintro rfl
          exact start dashed
        have noFlag : ¬ (word = "--no-typecheck" ∨ word = "-ntc") :=
          not_or.mpr ⟨other _ (by simp), other _ (by simp)⟩
        refine ⟨other "-o" (by simp), ?_⟩
        rw [if_neg noFlag, if_neg (other "-" (by simp))]
        split
        · next dashed => exact absurd (by simp [dashed]) start
        · rfl
  | unknown start other =>
      obtain ⟨rest, spelled⟩ := List.head?_eq_some_iff.mp start
      simp only [List.mem_cons, List.not_mem_nil, or_false, not_or] at other
      obtain ⟨noDash, noOutput, noFlag⟩ := other
      refine ⟨noOutput, ?_⟩
      rw [if_neg (not_or.mpr noFlag), if_neg noDash, spelled]
      rfl

theorem items_word {word : String} {item : Item} (written : item.Written [word])
    (rest : List String) : items (word :: rest) = item :: items rest := by
  obtain ⟨other, read⟩ := Item.ofWord_of_written written
  cases rest <;> simp [items, other, read]

/-- What stands behind an item has no part in it. -/
theorem items_append {words : List String} {item : Item} (written : item.Written words)
    (rest : List String) : items (words ++ rest) = item :: items rest := by
  cases written with
  | output path => rfl
  | skipTypecheck flag => exact items_word (.skipTypecheck flag) rest
  | input start => exact items_word (.input start) rest
  | unknown start other => exact items_word (.unknown start other) rest

theorem readAs_items (args : List String) : ReadAs args (items args) := by
  fun_induction items args with
  | case1 => exact .nil
  | case2 => exact .missingOutputPath
  | case3 word other => exact .cons (Item.written_ofWord other) .nil
  | case4 next rest ih => exact .cons (.output next) ih
  | case5 word next rest other ih => exact .cons (Item.written_ofWord other) ih

/-- There is one way to read words as items. -/
theorem readAs_iff {args : List String} {read : List Item} :
    ReadAs args read ↔ read = items args := by
  constructor
  · intro reads
    induction reads with
    | nil => rfl
    | cons written _ ih => rw [items_append written, ih]
    | missingOutputPath => rfl
  · rintro rfl
    exact readAs_items args

/-! ## What items ask for -/

/-- The input that the item is. -/
def Item.input? : Item → Option String
  | .input path => some path
  | .output _ | .skipTypecheck | .missingOutputPath | .unknown _ => none

/-- The output path that the item is. -/
def Item.output? : Item → Option String
  | .output path => some path
  | .input _ | .skipTypecheck | .missingOutputPath | .unknown _ => none

/-- The inputs among the items. -/
def inputs (read : List Item) : List String := read.filterMap Item.input?

/-- The output paths among the items. -/
def outputs (read : List Item) : List String := read.filterMap Item.output?

@[simp] theorem inputs_append (before after : List Item) :
    inputs (before ++ after) = inputs before ++ inputs after :=
  List.filterMap_append

@[simp] theorem outputs_append (before after : List Item) :
    outputs (before ++ after) = outputs before ++ outputs after :=
  List.filterMap_append

@[simp] theorem inputs_singleton (item : Item) : inputs [item] = item.input?.toList := by
  cases item <;> rfl

@[simp] theorem outputs_singleton (item : Item) : outputs [item] = item.output?.toList := by
  cases item <;> rfl

theorem outputs_cons (item : Item) (read : List Item) :
    outputs (item :: read) = item.output?.toList ++ outputs read := by
  rw [← List.singleton_append, outputs_append, outputs_singleton]

theorem mem_inputs_iff {read : List Item} {path : String} :
    path ∈ inputs read ↔ .input path ∈ read := by
  rw [inputs, List.mem_filterMap]
  constructor
  · rintro ⟨item, member, input⟩
    cases item with
    | input found => exact Option.some.inj input ▸ member
    | output | skipTypecheck | missingOutputPath | unknown => cases input
  · exact fun member => ⟨_, member, rfl⟩

/-- The item cannot stand behind the items `before`. -/
inductive Item.Offends (before : List Item) : Item → UsageError → Prop where
  | missingOutputPath : Offends before .missingOutputPath .missingOutputPath
  | unknown (word : String) : Offends before (.unknown word) (.unknownOption word)
  /-- There is an input before. -/
  | input {first path : String} :
      .input first ∈ before → Offends before (.input path) (.unexpectedArgument path)

/-- Every item can stand behind those before it. -/
def Faultless (read : List Item) : Prop :=
  ∀ before item after error, read = before ++ item :: after → ¬ item.Offends before error

/-- The options that the items ask for. -/
def asked (read : List Item) : RunOptions :=
  ⟨(inputs read).head?, (outputs read).getLast?, decide (.skipTypecheck ∉ read)⟩

/-- One more item is refused just where it cannot stand, and else is taken into account. -/
theorem add_asked (before : List Item) (item : Item) :
    (∃ error, item.Offends before error ∧ (asked before).add item = .error error) ∨
      (∀ error, ¬ item.Offends before error) ∧
        (asked before).add item = .ok (asked (before ++ [item])) := by
  cases item with
  | output path =>
      refine .inr ⟨fun _ => nofun, ?_⟩
      simp [asked, add, Item.input?, Item.output?]
  | skipTypecheck =>
      refine .inr ⟨fun _ => nofun, ?_⟩
      simp [asked, add, Item.input?, Item.output?]
  | missingOutputPath => exact .inl ⟨_, .missingOutputPath, rfl⟩
  | unknown word => exact .inl ⟨_, .unknown word, rfl⟩
  | input path =>
      cases given : inputs before with
      | nil =>
          have first : (asked before).input? = none := congrArg List.head? given
          refine .inr ⟨?_, ?_⟩
          · rintro _ (_ | _ | member)
            simpa [given] using mem_inputs_iff.mpr member
          · rw [add, first]
            simp [asked, given, Item.input?, Item.output?]
      | cons other more =>
          have first : (asked before).input? = some other := congrArg List.head? given
          have member : Item.input other ∈ before :=
            mem_inputs_iff.mp (given ▸ List.mem_cons_self)
          refine .inl ⟨_, .input member, ?_⟩
          rw [add, first]

theorem faultless_nil : Faultless [] := by
  intro before item after error split
  simp at split

theorem faultless_concat_iff {before : List Item} {item : Item} :
    Faultless (before ++ [item]) ↔ Faultless before ∧ ∀ error, ¬ item.Offends before error := by
  constructor
  · intro faultless
    refine ⟨?_, fun error => faultless before item [] error rfl⟩
    rintro first middle last error rfl
    exact faultless first middle (last ++ [item]) error (by simp)
  · rintro ⟨faultless, stands⟩ first middle last error split
    rcases List.eq_nil_or_concat last with rfl | ⟨last, final, rfl⟩
    · obtain ⟨rfl, same⟩ := List.append_inj' split rfl
      cases same
      exact stands error
    · have split : before ++ [item] = (first ++ middle :: last) ++ [final] := by
        simpa using split
      exact faultless first middle last error (List.append_inj' split rfl).1

theorem not_offends_iff {before : List Item} {item : Item} :
    (∀ error, ¬ item.Offends before error) ↔
      item ≠ .missingOutputPath ∧ (∀ word, item ≠ .unknown word) ∧
        (item.input? ≠ none → inputs before = []) := by
  constructor
  · intro stands
    refine ⟨?_, ?_, ?_⟩
    · rintro rfl
      exact stands _ .missingOutputPath
    · rintro word rfl
      exact stands _ (.unknown word)
    · intro input
      cases item with
      | input path =>
          refine List.eq_nil_iff_forall_not_mem.mpr fun first member => ?_
          exact stands _ (.input (mem_inputs_iff.mp member))
      | output | skipTypecheck | missingOutputPath | unknown => exact absurd rfl input
  · rintro ⟨path, known, first⟩ error offends
    cases offends with
    | missingOutputPath => exact path rfl
    | unknown word => exact known word rfl
    | input member =>
        rw [← mem_inputs_iff, first nofun] at member
        cases member

/-- Without an offence there are no items but flags, output paths, and at most one input. -/
theorem faultless_iff {read : List Item} :
    Faultless read ↔
      .missingOutputPath ∉ read ∧ (∀ word, .unknown word ∉ read) ∧ (inputs read).length ≤ 1 := by
  induction read using List.reverseRecOn with
  | nil => simp [faultless_nil, inputs]
  | append_singleton before item ih =>
      rw [faultless_concat_iff, ih, not_offends_iff]
      cases item with
      | input path =>
          have first_iff : (inputs (before ++ [.input path])).length ≤ 1 ↔ inputs before = [] := by
            rw [inputs_append, List.length_append, ← List.length_eq_zero_iff]
            exact Nat.succ_le_succ_iff.trans Nat.le_zero
          rw [first_iff]
          constructor
          · rintro ⟨⟨path, known, -⟩, -, -, first⟩
            exact ⟨by simp [path], by simp [known], first nofun⟩
          · rintro ⟨path, known, first⟩
            simp only [List.mem_append, not_or] at path known
            refine ⟨⟨path.1, fun word => (known word).1, ?_⟩, nofun, nofun, fun _ => first⟩
            simp [first]
      | unknown word =>
          constructor
          · rintro ⟨-, -, known, -⟩
            exact (known word rfl).elim
          · rintro ⟨-, known, -⟩
            exact (known word (by simp)).elim
      | output | skipTypecheck | missingOutputPath => simp [Item.input?]

/-- Items are taken into account one by one, up to the first one that offends. -/
theorem foldlM_add_cases (read : List Item) :
    (Faultless read ∧ read.foldlM add default = .ok (asked read)) ∨
      ∃ before item after error, read = before ++ item :: after ∧ Faultless before ∧
        item.Offends before error ∧ read.foldlM add default = .error error := by
  induction read using List.reverseRecOn with
  | nil => exact .inl ⟨faultless_nil, rfl⟩
  | append_singleton before item ih =>
      rw [List.foldlM_append]
      rcases ih with
        ⟨faultless, folded⟩ | ⟨first, middle, last, error, rfl, faultless, offends, folded⟩
      · rw [folded, ok_bind, List.foldlM_cons]
        rcases add_asked before item with ⟨error, offends, refused⟩ | ⟨stands, added⟩
        · refine .inr ⟨before, item, [], error, rfl, faultless, offends, ?_⟩
          rw [refused, error_bind]
        · refine .inl ⟨faultless_concat_iff.mpr ⟨faultless, stands⟩, ?_⟩
          rw [added, ok_bind, List.foldlM_nil, pure_eq_ok]
      · refine .inr ⟨first, middle, last ++ [item], error, by simp, faultless, offends, ?_⟩
        rw [folded, error_bind]

theorem Item.Offends.unique {before : List Item} {item : Item} {error error' : UsageError}
    (offends : item.Offends before error) (offends' : item.Offends before error') :
    error = error' := by
  cases offends <;> cases offends' <;> rfl

variable {args : List String} {read : List Item} {options : RunOptions}

theorem foldlM_add_of_faultless (faultless : Faultless read) :
    read.foldlM add default = .ok (asked read) := by
  rcases foldlM_add_cases read with ⟨-, folded⟩ | ⟨before, item, after, error, split, -, offends, -⟩
  · exact folded
  · exact (faultless before item after error split offends).elim

theorem ofArgs_eq_ok_iff (reads : ReadAs args read) :
    ofArgs args = .ok options ↔ Faultless read ∧ options = asked read := by
  rw [ofArgs, ← readAs_iff.mp reads]
  constructor
  · intro folded
    rcases foldlM_add_cases read with ⟨faultless, same⟩ | ⟨_, _, _, _, _, _, _, failed⟩
    · exact ⟨faultless, Except.ok.inj (folded.symm.trans same)⟩
    · cases folded.symm.trans failed
  · rintro ⟨faultless, rfl⟩
    exact foldlM_add_of_faultless faultless

/-- The error is that of the first item that offends. -/
theorem ofArgs_eq_error_iff {error : UsageError} (reads : ReadAs args read) :
    ofArgs args = .error error ↔
      ∃ before item after, read = before ++ item :: after ∧ Faultless before ∧
        item.Offends before error := by
  rw [ofArgs, ← readAs_iff.mp reads]
  constructor
  · intro folded
    rcases foldlM_add_cases read with
      ⟨-, succeeded⟩ | ⟨before, item, after, error, rfl, faultless, offends, failed⟩
    · cases folded.symm.trans succeeded
    · cases folded.symm.trans failed
      exact ⟨before, item, after, rfl, faultless, offends⟩
  · rintro ⟨before, item, after, rfl, faultless, offends⟩
    rw [List.foldlM_append, foldlM_add_of_faultless faultless, ok_bind, List.foldlM_cons]
    rcases add_asked before item with ⟨error, offends', refused⟩ | ⟨stands, -⟩
    · rw [refused, error_bind, offends.unique offends']
    · exact (stands error offends).elim

/-! ## Items in another order -/

/-- Each group of words writes an item. -/
def Grouped (groups : List (List String)) : Prop :=
  ∀ words ∈ groups, ∃ item : Item, item.Written words

/-- The words write an output path. -/
def writesOutput (words : List String) : Bool := words.head? == some "-o"

variable {groups others : List (List String)}

theorem grouped_cons_iff {words : List String} :
    Grouped (words :: groups) ↔ (∃ item : Item, item.Written words) ∧ Grouped groups :=
  List.forall_mem_cons

/-- An item is one word, unless it is an output path. -/
theorem Item.Written.words_cases {words : List String} {item : Item}
    (written : item.Written words) :
    (∃ path, words = ["-o", path] ∧ item = .output path) ∨
      ∃ word, words = [word] ∧ word ≠ "-o" ∧ item.output? = none := by
  cases written with
  | output path => exact .inl ⟨path, rfl, rfl⟩
  | skipTypecheck flag =>
      exact .inr ⟨_, rfl, (Item.ofWord_of_written (.skipTypecheck flag)).1, rfl⟩
  | input start => exact .inr ⟨_, rfl, (Item.ofWord_of_written (.input start)).1, rfl⟩
  | unknown start other =>
      exact .inr ⟨_, rfl, (Item.ofWord_of_written (.unknown start other)).1, rfl⟩

theorem items_of_written {words : List String} {item : Item} (written : item.Written words) :
    items words = [item] := by
  simpa [items] using items_append written []

theorem items_flatten (grouped : Grouped groups) :
    items groups.flatten = groups.flatMap items := by
  induction groups with
  | nil => rfl
  | cons words groups ih =>
      obtain ⟨⟨item, written⟩, grouped⟩ := grouped_cons_iff.mp grouped
      rw [List.flatten_cons, List.flatMap_cons, items_append written, ih grouped,
        items_of_written written]
      rfl

/-- Words are grouped in one way only. -/
theorem Grouped.unique (grouped : Grouped groups) (otherGrouped : Grouped others)
    (same : others.flatten = groups.flatten) : others = groups := by
  induction groups generalizing others with
  | nil =>
      cases others with
      | nil => rfl
      | cons words others =>
          obtain ⟨⟨item, written⟩, -⟩ := grouped_cons_iff.mp otherGrouped
          cases written <;> cases same
  | cons words groups ih =>
      obtain ⟨⟨item, written⟩, restGrouped⟩ := grouped_cons_iff.mp grouped
      cases others with
      | nil => cases written <;> cases same
      | cons otherWords others =>
          obtain ⟨⟨other, otherWritten⟩, othersGrouped⟩ := grouped_cons_iff.mp otherGrouped
          rw [List.flatten_cons, List.flatten_cons] at same
          have sameWords : otherWords = words := by
            rcases written.words_cases with ⟨path, rfl, -⟩ | ⟨word, rfl, single, -⟩ <;>
              rcases otherWritten.words_cases with ⟨path', rfl, -⟩ | ⟨word', rfl, single', -⟩ <;>
              simp_all
          subst sameWords
          rw [ih restGrouped othersGrouped (List.append_cancel_left same)]

theorem exists_grouped (reads : ReadAs args read) (complete : .missingOutputPath ∉ read) :
    ∃ groups, args = groups.flatten ∧ Grouped groups := by
  induction reads with
  | nil => exact ⟨[], rfl, nofun⟩
  | cons written _ ih =>
      obtain ⟨groups, rfl, grouped⟩ := ih fun member => complete (List.mem_cons_of_mem _ member)
      exact ⟨_ :: groups, rfl, grouped_cons_iff.mpr ⟨⟨_, written⟩, grouped⟩⟩
  | missingOutputPath => exact absurd List.mem_cons_self complete

/-- Only the groups that write output paths matter for these. -/
theorem outputs_flatMap_items (grouped : Grouped groups) :
    outputs (groups.flatMap items) = outputs ((groups.filter writesOutput).flatMap items) := by
  induction groups with
  | nil => rfl
  | cons words groups ih =>
      obtain ⟨⟨item, written⟩, grouped⟩ := grouped_cons_iff.mp grouped
      rw [List.flatMap_cons, items_of_written written, List.singleton_append, outputs_cons,
        ih grouped]
      rcases written.words_cases with ⟨path, rfl, rfl⟩ | ⟨word, rfl, single, none⟩
      · simp [writesOutput, items_of_written written, outputs_cons]
      · simp [writesOutput, single, none]

theorem toList_head?_of_length_le_one {paths : List String} (one : paths.length ≤ 1) :
    paths.head?.toList = paths := by
  match paths with
  | [] | [_] => rfl
  | _ :: _ :: _ => simp at one

/-- Where there is at most one input, only the order of the output paths matters. -/
theorem asked_of_perm {read' : List Item} (perm : read'.Perm read)
    (one : (inputs read).length ≤ 1) (same : outputs read' = outputs read) :
    asked read' = asked read := by
  have inputsPerm : (inputs read').Perm (inputs read) := perm.filterMap _
  have sameInputs : inputs read' = inputs read := by
    match given : inputs read with
    | [] => exact List.perm_nil.mp (given ▸ inputsPerm)
    | [path] => exact List.perm_singleton.mp (given ▸ inputsPerm)
    | _ :: _ :: _ => simp [given] at one
  simp only [asked, sameInputs, same, perm.mem_iff]

/-- The groups of an accepted list in another order, with the output paths among them in
their order, stand for the same options. -/
theorem ofArgs_of_perm (grouped : Grouped groups) (accepted : ofArgs groups.flatten = .ok options)
    (perm : others.Perm groups)
    (same : others.filter writesOutput = groups.filter writesOutput) :
    ofArgs others.flatten = .ok options := by
  have otherGrouped : Grouped others := fun words member => grouped words (perm.mem_iff.mp member)
  have read : ReadAs groups.flatten (groups.flatMap items) :=
    readAs_iff.mpr (items_flatten grouped).symm
  have otherRead : ReadAs others.flatten (others.flatMap items) :=
    readAs_iff.mpr (items_flatten otherGrouped).symm
  have itemsPerm : (others.flatMap items).Perm (groups.flatMap items) := perm.flatMap_right items
  obtain ⟨faultless, rfl⟩ := (ofArgs_eq_ok_iff read).mp accepted
  obtain ⟨path, known, one⟩ := faultless_iff.mp faultless
  refine (ofArgs_eq_ok_iff otherRead).mpr ⟨?_, ?_⟩
  · have inputsPerm : (inputs (others.flatMap items)).Perm (inputs (groups.flatMap items)) :=
      itemsPerm.filterMap _
    refine faultless_iff.mpr ⟨?_, fun word => ?_, ?_⟩
    · exact fun member => path (itemsPerm.mem_iff.mp member)
    · exact fun member => known word (itemsPerm.mem_iff.mp member)
    · exact Nat.le_trans (Nat.le_of_eq inputsPerm.length_eq) one
  · refine (asked_of_perm itemsPerm one ?_).symm
    rw [outputs_flatMap_items otherGrouped, same, outputs_flatMap_items grouped]

/-- Words are read from the left as items, in one way. They are accepted just where no `-o`
stands last, there is no unknown option and at most one input; then the input is that one,
the output path is the last one, and types are left unchecked just where a flag says so. All
other words are refused for the first item that cannot stand where it does. The words of an
accepted list are grouped by items in one way, and the groups may stand in any order that
keeps the order of the output paths. -/
theorem run_arguments_by_items :
    (∀ args, ∃ read, ReadAs args read ∧ ∀ other, ReadAs args other → other = read) ∧
    (∀ args read, ReadAs args read →
      ((∃ options, ofArgs args = .ok options) ↔
        .missingOutputPath ∉ read ∧ (∀ word, .unknown word ∉ read) ∧
          (inputs read).length ≤ 1) ∧
      (∀ options, ofArgs args = .ok options →
        options.input?.toList = inputs read ∧ options.output? = (outputs read).getLast? ∧
          (options.typecheck = false ↔ .skipTypecheck ∈ read)) ∧
      ∀ error, ofArgs args = .error error ↔
        ∃ before item after, read = before ++ item :: after ∧ Faultless before ∧
          item.Offends before error) ∧
    ∀ args options, ofArgs args = .ok options →
      ∃ groups, args = groups.flatten ∧ Grouped groups ∧
        (∀ others, Grouped others → others.flatten = args → others = groups) ∧
        ∀ others : List (List String), others.Perm groups →
          others.filter writesOutput = groups.filter writesOutput →
          ofArgs others.flatten = .ok options := by
  refine ⟨?_, ?_, ?_⟩
  · intro args
    exact ⟨items args, readAs_items args, fun other reads => readAs_iff.mp reads⟩
  · intro args read reads
    refine ⟨?_, ?_, fun error => ofArgs_eq_error_iff reads⟩
    · rw [← faultless_iff]
      constructor
      · rintro ⟨options, accepted⟩
        exact ((ofArgs_eq_ok_iff reads).mp accepted).1
      · exact fun faultless => ⟨asked read, (ofArgs_eq_ok_iff reads).mpr ⟨faultless, rfl⟩⟩
    · intro options accepted
      obtain ⟨faultless, rfl⟩ := (ofArgs_eq_ok_iff reads).mp accepted
      obtain ⟨-, -, one⟩ := faultless_iff.mp faultless
      refine ⟨?_, rfl, by simp [asked]⟩
      exact toList_head?_of_length_le_one one
  · intro args options accepted
    have reads := readAs_items args
    obtain ⟨faultless, rfl⟩ := (ofArgs_eq_ok_iff reads).mp accepted
    obtain ⟨groups, rfl, grouped⟩ := exists_grouped reads (faultless_iff.mp faultless).1
    refine ⟨groups, rfl, grouped, fun others => grouped.unique, fun others perm same => ?_⟩
    exact ofArgs_of_perm grouped accepted perm same

/-- A path that looks like a flag, another one that looks like an input, and a flag. -/
theorem run_arguments_by_items_of_path :
    ReadAs ["-o", "-ntc", "-", "-o", "a", "-ntc"]
        [.output "-ntc", .input "-", .output "a", .skipTypecheck] ∧
      ofArgs ["-o", "-ntc", "-", "-o", "a", "-ntc"] = .ok ⟨some "-", some "a", false⟩ ∧
      ofArgs ["-ntc", "-o", "-ntc", "-o", "a", "-"] = .ok ⟨some "-", some "a", false⟩ ∧
      ReadAs ["a", "", "-o"] [.input "a", .input "", .missingOutputPath] ∧
      ofArgs ["a", "", "-o"] = .error (.unexpectedArgument "") := by
  have accepted : ofArgs ["-o", "-ntc", "-", "-o", "a", "-ntc"] =
      .ok ⟨some "-", some "a", false⟩ := by decide
  have read : ReadAs ["-o", "-ntc", "-", "-o", "a", "-ntc"]
      [.output "-ntc", .input "-", .output "a", .skipTypecheck] := readAs_iff.mpr (by decide)
  have refused : ReadAs ["a", "", "-o"] [.input "a", .input "", .missingOutputPath] :=
    readAs_iff.mpr (by decide)
  refine ⟨read, accepted, ?_, refused, ?_⟩
  · obtain ⟨groups, -, -, unique, permuted⟩ := run_arguments_by_items.2.2 _ _ accepted
    have grouped : Grouped [["-o", "-ntc"], ["-"], ["-o", "a"], ["-ntc"]] := by
      simp only [grouped_cons_iff]
      refine ⟨⟨_, .output _⟩, ⟨_, .input (.inl rfl)⟩, ⟨_, .output _⟩,
        ⟨_, .skipTypecheck (.inr rfl)⟩, nofun⟩
    obtain rfl := unique _ grouped rfl
    exact permuted [["-ntc"], ["-o", "-ntc"], ["-o", "a"], ["-"]] (by decide) (by decide)
  · refine ((run_arguments_by_items.2.1 _ _ refused).2.2 _).mpr
      ⟨[.input "a"], .input "", [.missingOutputPath], rfl, ?_, .input (List.mem_singleton_self _)⟩
    exact faultless_iff.mpr ⟨by decide, by simp, by decide⟩

end RunOptions

end VectorLang
