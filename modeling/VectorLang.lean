import VectorLang.Main
import VectorLang.Command.Directory
import VectorLang.Session
import VectorLang.Proofs.Env
import VectorLang.Proofs.Outcome
import VectorLang.Proofs.Typing
import VectorLang.Proofs.Agreement
import VectorLang.Proofs.Soundness
import VectorLang.Proofs.SessionSoundness
import VectorLang.Proofs.StraightLine
import VectorLang.Proofs.ExprReading
import VectorLang.Proofs.ProgramReading
import VectorLang.Proofs.Refusal
import VectorLang.Proofs.Lexeme
import VectorLang.Proofs.Lexing
import VectorLang.Proofs.Spelling
import VectorLang.Proofs.TokenPlaces
import VectorLang.Proofs.Rendering
import VectorLang.Proofs.TypingRules
import VectorLang.Proofs.Passage
import VectorLang.Proofs.Frame
import VectorLang.Proofs.ComputedValues
import VectorLang.Proofs.Joining
import VectorLang.Proofs.ScopeHistory
import VectorLang.Proofs.Unrolling
import VectorLang.Proofs.CheckFrame
import VectorLang.Proofs.Renaming
import VectorLang.Proofs.BoundNames
import VectorLang.Proofs.Exchange
import VectorLang.Proofs.ExprExtent
import VectorLang.Proofs.UnboundedNumbers
import VectorLang.Proofs.Wrapping
import VectorLang.Proofs.LexErrors
import VectorLang.Proofs.MentionedNames
import VectorLang.Proofs.VectorAlgebra
import VectorLang.Proofs.PrintedText
import VectorLang.Proofs.PrintedSource
import VectorLang.Proofs.Mismatches
import VectorLang.Proofs.RunArguments
import VectorLang.Proofs.QuotedText
import VectorLang.Proofs.OutlineText
import VectorLang.Proofs.ProgramOutline
import VectorLang.Proofs.ParseReport
import VectorLang.Proofs.Descent
import VectorLang.Proofs.DescentProgress
import VectorLang.Proofs.EnoughCalls
import VectorLang.Proofs.Following
import VectorLang.Proofs.ExprDescent
import VectorLang.Proofs.ProgramDescent
