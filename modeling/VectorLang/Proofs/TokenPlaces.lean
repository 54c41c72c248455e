import VectorLang.Proofs.Lexing

/-!
# The places of tokens

Tokenizing loses nothing: every token tells the bytes that it is written in, and between
the tokens there are gaps only. No other list of tokens has these places in its text.
-/

namespace VectorLang

/-! ## Byte offsets -/

namespace Source

/-- The characters of a text between two byte offsets. -/
def between (source : String) (start stop : Nat) : List Char :=
  (String.Pos.Raw.extract source ⟨start⟩ ⟨stop⟩).toList

/-- The byte offset is one of a character, or behind the last one. -/
abbrev IsBoundary (source : String) (offset : Nat) : Prop :=
  String.Pos.Raw.IsValid source ⟨offset⟩

variable {source : String} {before middle after : List Char}

theorem between_eq (split : source.toList = before ++ middle ++ after) :
    between source (String.utf8Len before) (String.utf8Len (before ++ middle)) = middle := by
  have whole : source = String.ofList (before ++ middle ++ after) := by
    rw [← split, String.ofList_toList]
  rw [between, whole, String.utf8Len_append, String.extract_of_valid, String.toList_ofList]

/-- The characters before a byte offset. -/
theorem between_start (split : source.toList = before ++ after) :
    between source 0 (String.utf8Len before) = before := by
  have whole : source.toList = [] ++ before ++ after := split
  simpa using between_eq whole

/-- The characters behind a byte offset. -/
theorem between_end (split : source.toList = before ++ after) :
    between source (String.utf8Len before) source.utf8ByteSize = after := by
  have size : source.utf8ByteSize = String.utf8Len (before ++ after) := by
    rw [← String.utf8Len_toList, split]
  rw [size, between_eq (by rw [split, List.append_nil])]

theorem between_utf8ByteSize (source : String) :
    between source source.utf8ByteSize source.utf8ByteSize = [] := by
  have none := between_end (List.append_nil source.toList).symm
  rwa [String.utf8Len_toList] at none

theorem isBoundary_iff {offset : Nat} :
    IsBoundary source offset ↔
      ∃ before after, source.toList = before ++ after ∧ offset = String.utf8Len before := by
  rw [IsBoundary, String.Pos.Raw.isValid_iff_exists_append]
  constructor
  · rintro ⟨left, right, rfl, same⟩
    refine ⟨left.toList, right.toList, String.toList_append, ?_⟩
    rw [String.utf8Len_toList]
    exact congrArg String.Pos.Raw.byteIdx same
  · rintro ⟨before, after, split, rfl⟩
    refine ⟨String.ofList before, String.ofList after, ?_, ?_⟩
    · rw [← String.ofList_append, ← split, String.ofList_toList]
    · rw [String.rawEndPos_ofList]

/-- Of two beginnings of a text, the one with no more bytes begins the other. -/
theorem prefix_of_utf8Len_le {left right : List Char}
    (fewer : String.utf8Len left ≤ String.utf8Len right) (leftBegins : left <+: source.toList)
    (rightBegins : right <+: source.toList) : left <+: right := by
  rcases List.prefix_or_prefix_of_prefix leftBegins rightBegins with begins | ⟨more, rfl⟩
  · exact begins
  · rw [String.utf8Len_append] at fewer
    have none : more = [] := String.utf8Len_eq_zero.mp (by omega)
    simp [none]

/-- The text behind one byte offset is split by a later one. -/
theorem IsBoundary.exists_split {offset : Nat} (boundary : IsBoundary source offset)
    (split : source.toList = before ++ after) (behind : String.utf8Len before ≤ offset) :
    ∃ middle rest, after = middle ++ rest ∧ offset = String.utf8Len (before ++ middle) := by
  rcases isBoundary_iff.mp boundary with ⟨ahead, rest, splitAhead, rfl⟩
  rcases prefix_of_utf8Len_le behind ⟨after, split.symm⟩ ⟨rest, splitAhead.symm⟩ with
    ⟨middle, rfl⟩
  refine ⟨middle, rest, ?_, rfl⟩
  rw [split, List.append_assoc] at splitAhead
  exact List.append_cancel_left splitAhead

end Source

/-! ## Tokens in their text -/

open Lexer Source

/-- The token stands in the source text as its place says. -/
structure Located.Placed (source : String) (located : Located) : Prop where
  start_boundary : IsBoundary source located.start
  stop_boundary : IsBoundary source located.stop
  nonempty : located.start < located.stop
  written : located.token.Written (between source located.start located.stop)
  longest : ∀ stop, located.stop < stop → IsBoundary source stop →
    ¬ Lexeme (between source located.start stop)
  line : located.line = min (2 ^ 32 - 1) (1 + (between source 0 located.start).count '\n')

namespace Lexer

variable {source : String} {before text rest : List Char} {token : Token}
  {tokens : List Located}

/-- A lexeme is the longest one if no lexeme ends at a later byte offset. -/
theorem longest_iff (split : source.toList = before ++ text ++ rest) :
    Longest text rest ↔ ∀ stop, String.utf8Len (before ++ text) < stop →
      IsBoundary source stop → ¬ Lexeme (between source (String.utf8Len before) stop) := by
  constructor
  · intro longest stop behind boundary lexeme
    -- the text up to the later offset goes on behind the lexeme with `more`
    rcases boundary.exists_split split (Nat.le_of_lt behind) with ⟨more, after, rfl, rfl⟩
    have splitMore : source.toList = before ++ (text ++ more) ++ after := by simp [split]
    rw [List.append_assoc before, between_eq splitMore] at lexeme
    have none : more = [] := by
      simpa using longest _ lexeme ⟨after, List.append_assoc text more after⟩
    simp [none] at behind
  · intro none other lexeme begins
    rcases Nat.le_total other.length text.length with le | le
    · exact le
    · rcases List.prefix_of_prefix_length_le (List.prefix_append text rest) begins le with
        ⟨more, rfl⟩
      rw [List.prefix_append_right_inj] at begins
      rcases begins with ⟨after, rfl⟩
      have splitMore : source.toList = before ++ (text ++ more) ++ after := by simp [split]
      have later := none (String.utf8Len (before ++ (text ++ more)))
      rw [between_eq splitMore] at later
      cases more with
      | nil => simp
      | cons char more =>
          refine absurd lexeme (later ?_ (isBoundary_iff.mpr ⟨_, after, splitMore, rfl⟩))
          have positive := char.utf8Size_pos
          simp only [String.utf8Len_append, String.utf8Len_cons]
          omega

theorem line_locate (split : source.toList = before ++ rest) :
    (locate before text token).line =
      min (2 ^ 32 - 1) (1 + (between source 0 (locate before text token).start).count '\n') := by
  simp only [locate, lineAfter, between_start split]
  omega

/-- A text of the source is placed there as a token if it writes the token and is the
longest lexeme. -/
theorem placed_locate_iff (split : source.toList = before ++ text ++ rest) :
    (locate before text token).Placed source ↔ token.Written text ∧ Longest text rest := by
  constructor
  · intro placed
    have written := placed.written
    simp only [locate, between_eq split] at written
    exact ⟨written, (longest_iff split).mpr placed.longest⟩
  · rintro ⟨written, longest⟩
    have splitStart : source.toList = before ++ (text ++ rest) := by simp [split]
    exact {
      start_boundary := isBoundary_iff.mpr ⟨before, text ++ rest, splitStart, rfl⟩
      stop_boundary := isBoundary_iff.mpr ⟨before ++ text, rest, split, rfl⟩
      nonempty := by
        rcases written.lexeme.exists_head with ⟨first, more, rfl, _⟩
        have positive := first.utf8Size_pos
        simp only [locate, String.utf8Len_append, String.utf8Len_cons]
        omega
      written := by simpa only [locate, between_eq split] using written
      longest := (longest_iff split).mp longest
      line := line_locate splitStart }

/-- A token that is placed behind a text is one of the text there. -/
theorem exists_locate {located : Located} (placed : located.Placed source)
    (split : source.toList = before ++ text) (behind : String.utf8Len before ≤ located.start) :
    ∃ gap spelling rest token, text = gap ++ spelling ++ rest ∧
      located = locate (before ++ gap) spelling token := by
  rcases located with ⟨token, start, stop, line⟩
  rcases placed.start_boundary.exists_split split behind with ⟨gap, more, rfl, rfl⟩
  rw [← List.append_assoc] at split
  rcases placed.stop_boundary.exists_split split (Nat.le_of_lt placed.nonempty) with
    ⟨spelling, rest, rfl, rfl⟩
  refine ⟨gap, spelling, rest, token, (List.append_assoc ..).symm, ?_⟩
  have lined : line = (locate (before ++ gap) spelling token).line :=
    placed.line.trans (line_locate split).symm
  rw [lined]
  rfl

/-- The tokens of a text stand behind the text before it. -/
theorem Laid.le_start (laid : Laid before text tokens) :
    ∀ located ∈ tokens, String.utf8Len before ≤ located.start := by
  induction laid with
  | last => simp
  | token _ _ _ _ ih =>
      intro located member
      rcases List.mem_cons.mp member with rfl | member
      · simp [locate]
      · have le := ih located member
        simp only [String.utf8Len_append] at le
        omega

theorem Laid.placed (laid : Laid before text tokens) (split : source.toList = before ++ text) :
    ∀ located ∈ tokens, located.Placed source := by
  induction laid with
  | last => simp
  | @token before gap text rest token tokens _ written longest _ ih =>
      have whole : source.toList = before ++ gap ++ text ++ rest := by simp [split]
      have placed := (placed_locate_iff whole).mpr ⟨written, longest⟩
      exact List.forall_mem_cons.mpr ⟨placed, ih whole⟩

theorem Laid.ordered (laid : Laid before text tokens) :
    tokens.Pairwise fun left right => left.stop ≤ right.start := by
  induction laid with
  | last => exact .nil
  | token _ _ _ laid ih => exact .cons laid.le_start ih

/-- The byte ranges before, between and behind the tokens of a text, from the byte `start`
to the byte `stop`. -/
def gaps (start stop : Nat) (tokens : List Located) : List (Nat × Nat) :=
  (start :: tokens.map (·.stop)).zip (tokens.map (·.start) ++ [stop])

theorem Laid.gaps (laid : Laid before text tokens) (split : source.toList = before ++ text) :
    ∀ gap ∈ Lexer.gaps (String.utf8Len before) source.utf8ByteSize tokens,
      Gap (between source gap.1 gap.2) (between source gap.2 source.utf8ByteSize) := by
  induction laid with
  | @last before gap inner =>
      rintro ⟨_, _⟩ member
      cases List.mem_singleton.mp member
      simpa only [between_end split, between_utf8ByteSize] using inner
  | @token before gap text rest token tokens inner written longest laid ih =>
      have whole : source.toList = before ++ gap ++ (text ++ rest) := by simp [split]
      refine List.forall_mem_cons.mpr ⟨?_, ih (by simp [split])⟩
      simpa only [locate, between_eq whole, between_end whole] using inner

/-- Tokens that are placed one behind the other, with gaps between them, make up the text. -/
theorem laid_of_placed (split : source.toList = before ++ text)
    (placed : ∀ located ∈ tokens, located.Placed source)
    (ordered : tokens.Pairwise fun left right => left.stop ≤ right.start)
    (behind : ∀ located ∈ tokens, String.utf8Len before ≤ located.start)
    (gaps : ∀ gap ∈ Lexer.gaps (String.utf8Len before) source.utf8ByteSize tokens,
      Gap (between source gap.1 gap.2) (between source gap.2 source.utf8ByteSize)) :
    Laid before text tokens := by
  induction tokens generalizing before text with
  | nil =>
      have inner := gaps _ (List.mem_singleton.mpr rfl)
      simp only [between_end split, between_utf8ByteSize] at inner
      exact .last inner
  | cons located tokens ih =>
      rcases List.forall_mem_cons.mp placed with ⟨first, restPlaced⟩
      rcases List.pairwise_cons.mp ordered with ⟨next, restOrdered⟩
      rcases List.forall_mem_cons.mp gaps with ⟨inner, restGaps⟩
      rcases exists_locate first split (behind _ List.mem_cons_self) with
        ⟨gap, text, rest, token, rfl, rfl⟩
      have splitGap : source.toList = before ++ gap ++ (text ++ rest) := by simp [split]
      have splitText : source.toList = before ++ gap ++ text ++ rest := by simp [split]
      rcases (placed_locate_iff splitText).mp first with ⟨written, longest⟩
      simp only [locate, between_eq splitGap, between_end splitGap] at inner
      exact .token inner written longest (ih splitText restPlaced restOrdered next restGaps)

end Lexer

/-- The tokens of a text are those that stand in it, each at its place, with nothing but
gaps before, between and behind them. -/
theorem tokenize_eq_ok_iff {source : String} {tokens : List Located} :
    tokenize source = .ok tokens ↔
      (∀ located ∈ tokens, located.Placed source) ∧
      (tokens.Pairwise fun left right => left.stop ≤ right.start) ∧
      ∀ gap ∈ gaps 0 source.utf8ByteSize tokens,
        Gap (between source gap.1 gap.2) (between source gap.2 source.utf8ByteSize) := by
  rw [tokenize, tokensOf_eq_ok_iff]
  constructor
  · intro laid
    exact ⟨laid.placed rfl, laid.ordered, laid.gaps rfl⟩
  · rintro ⟨placed, ordered, gaps⟩
    exact laid_of_placed rfl placed ordered (fun _ _ => Nat.zero_le _) gaps

/-- Behind a comment with a wide character, a symbol meets a number with leading zeros. -/
theorem tokenize_eq_ok_iff_of_comment :
    tokenize "x // é\n==007" =
      .ok [⟨.name "x", 0, 1, 1⟩, ⟨.symbol .equals, 8, 10, 2⟩, ⟨.int 7, 10, 13, 2⟩] ∧
    Located.Placed "x // é\n==007" ⟨.symbol .equals, 8, 10, 2⟩ ∧
    Located.Placed "x // é\n==007" ⟨.int 7, 10, 13, 2⟩ ∧
    Gap (between "x // é\n==007" 1 8) (between "x // é\n==007" 8 13) := by
  have read : tokenize "x // é\n==007" =
      .ok [⟨.name "x", 0, 1, 1⟩, ⟨.symbol .equals, 8, 10, 2⟩, ⟨.int 7, 10, 13, 2⟩] := by decide
  rcases tokenize_eq_ok_iff.mp read with ⟨placed, _, gaps⟩
  exact ⟨read, placed _ (by simp), placed _ (by simp), gaps (1, 8) (by decide)⟩

end VectorLang
