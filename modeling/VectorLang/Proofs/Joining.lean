import VectorLang.Proofs.Passage
import VectorLang.Proofs.Rendering
import VectorLang.Proofs.Typing
import VectorLang.Session

/-!
# Joining source texts

Two source texts are joined by a semicolon on a line of its own. The line end before it
closes a comment at the end of the first text, and adds to no token of it. The joined text
is read as the statements of both, and a session takes them up like two programs, one after
the other.
-/

namespace VectorLang

namespace Lexer

variable {before gap text rest more : List Char}

/-! ## A further line -/

theorem Lexeme.lineEnd_not_mem (lexeme : Lexeme text) : '\n' ∉ text := by
  cases lexeme with
  | symbol mark => cases mark <;> decide
  | number number => exact fun member => absurd (number.isAlphanum _ member) (by decide)
  | word word => exact fun member => absurd (word.isAlphanum _ member) (by decide)

/-- A further line makes no lexeme longer. -/
theorem Longest.add_line (longest : Longest text rest) (more : List Char) :
    Longest text (rest ++ '\n' :: more) := by
  intro other lexeme begins
  rw [← List.append_assoc] at begins
  rcases Nat.le_total other.length (text ++ rest).length with le | le
  · exact longest other lexeme
      (List.prefix_of_prefix_length_le begins (List.prefix_append _ _) le)
  · rcases List.prefix_of_prefix_length_le (List.prefix_append _ _) begins le with
      ⟨beyond, rfl⟩
    rw [List.prefix_append_right_inj] at begins
    cases beyond with
    | nil => exact longest _ lexeme (by simp)
    | cons char beyond =>
        rcases List.cons_prefix_cons.mp begins with ⟨rfl, _⟩
        exact absurd (by simp) lexeme.lineEnd_not_mem

theorem EndsLine.add_line (ends : EndsLine text) (more : List Char) :
    EndsLine (text ++ '\n' :: more) := by
  cases text with
  | nil => exact fun char behind => (Option.some.inj behind).symm
  | cons first rest => exact ends

theorem Gap.add_line (inner : Gap gap rest) (more : List Char) :
    Gap gap (rest ++ '\n' :: more) := by
  induction inner with
  | nil => exact .nil _
  | blank blank _ ih => exact .blank blank ih
  | comment inLine ends _ ih =>
      have further := ends.add_line more
      rw [List.append_assoc] at further
      exact .comment inLine further ih

theorem Gap.append (first : Gap gap (text ++ rest)) (second : Gap text rest) :
    Gap (gap ++ text) rest := by
  generalize whole : text ++ rest = behind at first
  induction first with
  | nil => exact second
  | blank blank _ ih => exact .blank blank (ih whole)
  | comment inLine ends _ ih =>
      subst whole
      rw [List.append_assoc]
      exact .comment inLine (by rwa [List.append_assoc]) (ih rfl)

namespace Laid

variable {tokens moreTokens : List Located}

/-- Whole lines may follow a text. -/
theorem append_line (laid : Laid before text tokens)
    (behind : Laid (before ++ text) ('\n' :: rest) moreTokens) :
    Laid before (text ++ '\n' :: rest) (tokens ++ moreTokens) := by
  induction laid with
  | @last before gap inner =>
      -- the gap at the end of the text and the one behind it are a single gap
      refine behind.grow fun more after whole moreGap => ?_
      exact Gap.append (whole ▸ inner.add_line rest) moreGap
  | @token before gap text after token tokens inner written longest laid ih =>
      have further := inner.add_line rest
      rw [List.append_assoc] at further
      have read := ih (by simpa only [List.append_assoc] using behind)
      rw [List.append_assoc, List.cons_append]
      exact .token further written (longest.add_line rest) read

/-- A text has the same tokens wherever it stands. -/
theorem exists_behind (laid : Laid before text tokens) (other : List Char) :
    ∃ moved, Laid other text moved ∧ moved.map (·.token) = tokens.map (·.token) := by
  induction laid generalizing other with
  | last inner => exact ⟨[], .last inner, rfl⟩
  | @token before gap text rest token tokens inner written longest laid ih =>
      rcases ih (other ++ gap ++ text) with ⟨moved, laid, same⟩
      exact ⟨_, .token inner written longest laid, congrArg (token :: ·) same⟩

theorem line_end (laid : Laid (before ++ ['\n']) text tokens) :
    Laid before ('\n' :: text) tokens :=
  laid.grow fun _ _ _ inner => .blank (by decide) inner

/-- A semicolon on a line of its own. -/
theorem semicolon_line (laid : Laid (before ++ ['\n', ';', '\n']) text tokens) :
    Laid before ('\n' :: ';' :: '\n' :: text)
      (locate (before ++ ['\n']) [';'] (.symbol .semicolon) :: tokens) := by
  have lineEnd : Gap ['\n'] ([';'] ++ '\n' :: text) := .blank (by decide) (.nil _)
  have longest : Longest [';'] ('\n' :: text) := longest_spelling .semicolon (by simp)
  have next : Laid (before ++ ['\n'] ++ [';']) ('\n' :: text) tokens :=
    line_end (by simpa using laid)
  exact .token lineEnd (.symbol .semicolon) longest next

end Laid

end Lexer

/-! ## The tokens of joined texts -/

/-- The tokens of both texts, with a semicolon between them. -/
theorem tokenize_join {left right : String} {leftTokens rightTokens : List Located}
    (leftRead : tokenize left = .ok leftTokens) (rightRead : tokenize right = .ok rightTokens) :
    ∃ tokens, tokenize (left ++ "\n;\n" ++ right) = .ok tokens ∧
      tokens.map (·.token) =
        leftTokens.map (·.token) ++ .symbol .semicolon :: rightTokens.map (·.token) := by
  have leftLaid := Lexer.tokensOf_eq_ok_iff.mp leftRead
  have rightLaid := Lexer.tokensOf_eq_ok_iff.mp rightRead
  rcases rightLaid.exists_behind (left.toList ++ ['\n', ';', '\n']) with ⟨moved, laid, same⟩
  have whole : (left ++ "\n;\n" ++ right).toList =
      left.toList ++ '\n' :: ';' :: '\n' :: right.toList := by simp
  have joined := leftLaid.append_line laid.semicolon_line
  rw [← whole] at joined
  exact ⟨_, Lexer.tokensOf_eq_ok_iff.mpr joined, by simp [Lexer.locate, same]⟩

/-! ## The statements of joined programs -/

theorem Stmt.SpelledSeq.join {tokens moreTokens : List Token} {stmts more : List Stmt}
    (spelled : SpelledSeq tokens stmts) (unended : .symbol .semicolon ∉ tokens.getLast?)
    (moreSpelled : SpelledSeq moreTokens more) :
    SpelledSeq (tokens ++ .symbol .semicolon :: moreTokens) (stmts ++ more) := by
  induction stmts generalizing tokens with
  | nil => cases spelled
  | cons stmt rest ih =>
      cases spelled with
      | last spelled => exact .cons spelled moreSpelled
      | lastEnded => simp at unended
      | @cons tokens restTokens _ _ spelled restSpelled =>
          rcases ProgramReader.first_of_spelledSeq restSpelled with ⟨first, others, rfl, _⟩
          have restUnended : .symbol .semicolon ∉ (first :: others).getLast? := by
            simpa using unended
          have joined := Stmt.SpelledSeq.cons spelled (ih restSpelled restUnended)
          simpa using joined

namespace Session

theorem run_append (session : Session) (program more : Program) :
    session.run (program ++ more) =
      (session.run program).andThen fun session => session.run more := by
  rw [run, Stmt.execAll_append]
  exact Outcome.mapState_andThen fun _ => rfl

theorem check_append (session : Session) (program more : Program) :
    session.check (program ++ more) =
      (session.check program).andThen fun session => session.check more := by
  rw [check, Stmt.checkAll_append]
  exact Outcome.mapState_andThen fun _ => rfl

end Session

/-- Two texts that can be read, the first without a semicolon at its end, are joined to a
text of the statements of both. In any session, the joined program runs and is checked like
the two programs one after the other, and like the first one alone if that fails. -/
theorem join_sources {left right : String} {program more : Program}
    (leftRead : Program.ofSource left = .ok program)
    (rightRead : Program.ofSource right = .ok more)
    (unended : ∀ tokens, tokenize left = .ok tokens →
      .symbol .semicolon ∉ (tokens.map (·.token)).getLast?) :
    Program.ofSource (left ++ "\n;\n" ++ right) = .ok (program ++ more) ∧
    ∀ session : Session,
      ((session.run program).error? = none →
        session.run (program ++ more) = (session.run program).state.run more) ∧
      ((session.run program).error? ≠ none →
        session.run (program ++ more) = session.run program) ∧
      ((session.check program).error? = none →
        session.check (program ++ more) = (session.check program).state.check more) ∧
      ((session.check program).error? ≠ none →
        session.check (program ++ more) = session.check program) := by
  constructor
  · rcases Program.ofSource_eq_ok_iff.mp leftRead with ⟨leftTokens, leftScanned, leftParsed⟩
    rcases Program.ofSource_eq_ok_iff.mp rightRead with ⟨rightTokens, rightScanned, rightParsed⟩
    rcases tokenize_join leftScanned rightScanned with ⟨tokens, scanned, listed⟩
    refine Program.ofSource_eq_ok_iff.mpr ⟨tokens, scanned, Program.ofTokens_eq_ok_iff.mpr ?_⟩
    rw [listed]
    exact (Program.ofTokens_eq_ok_iff.mp leftParsed).join (unended leftTokens leftScanned)
      (Program.ofTokens_eq_ok_iff.mp rightParsed)
  · intro session
    rw [session.run_append, session.check_append]
    refine ⟨?_, ?_, ?_, ?_⟩
    · exact fun success => Outcome.andThen_of_success success _
    · exact fun failure => Outcome.andThen_of_ne_none failure _
    · exact fun success => Outcome.andThen_of_success success _
    · exact fun failure => Outcome.andThen_of_ne_none failure _

/-- A comment at the end of the first text, and a first program that fails in its run. -/
theorem join_sources_of_comment :
    (∃ program, Program.ofSource ("var a = 1 // a" ++ "\n;\n" ++ "print a") = .ok program ∧
      Session.start.run program = .done ⟨.empty, ⟨⟨[("a", .int 1)], []⟩, #[.int 1]⟩⟩) ∧
    ∃ program, Program.ofSource ("print 1; print b" ++ "\n;\n" ++ "var b = 2") = .ok program ∧
      Session.start.run program =
        .failed (.binding (.undeclared "b")) ⟨.empty, ⟨.empty, #[.int 1]⟩⟩ := by
  constructor
  · have leftScanned : tokenize "var a = 1 // a" = .ok
        [⟨.keyword .declare, 0, 3, 1⟩, ⟨.name "a", 4, 5, 1⟩, ⟨.symbol .assign, 6, 7, 1⟩,
          ⟨.int 1, 8, 9, 1⟩] := by decide
    have leftRead : Program.ofSource "var a = 1 // a" = .ok [.declare "a" (.int 1)] := rfl
    have rightRead : Program.ofSource "print a" = .ok [.print (.var "a")] := rfl
    rcases join_sources leftRead rightRead (by simp [leftScanned]) with ⟨read, sessions⟩
    refine ⟨_, read, ?_⟩
    rw [(sessions .start).1 (by decide)]
    decide
  · have leftScanned : tokenize "print 1; print b" = .ok
        [⟨.keyword .print, 0, 5, 1⟩, ⟨.int 1, 6, 7, 1⟩, ⟨.symbol .semicolon, 7, 8, 1⟩,
          ⟨.keyword .print, 9, 14, 1⟩, ⟨.name "b", 15, 16, 1⟩] := by decide
    have leftRead : Program.ofSource "print 1; print b" =
        .ok [.print (.int 1), .print (.var "b")] := rfl
    have rightRead : Program.ofSource "var b = 2" = .ok [.declare "b" (.int 2)] := rfl
    rcases join_sources leftRead rightRead (by simp [leftScanned]) with ⟨read, sessions⟩
    refine ⟨_, read, ?_⟩
    rw [(sessions .start).2.1 (by decide)]
    decide

end VectorLang
