import TextGrammar.Grammar.Draft
import TextGrammar.Value.Mapping
import TextGrammar.Value.Arithmetic
import TextGrammar.Session
import TextGrammar.Pairing
import TextGrammar.Proofs.Alternation
import TextGrammar.Proofs.Anchoring
import TextGrammar.Proofs.Lockstep
import TextGrammar.Proofs.Run
import TextGrammar.Proofs.RunInvariant
import TextGrammar.Proofs.Replay
import TextGrammar.Proofs.Translation
import TextGrammar.Proofs.LeftCall
import TextGrammar.Proofs.Termination
import TextGrammar.Proofs.Reachable
import TextGrammar.Proofs.Location
import TextGrammar.Proofs.Whole
import TextGrammar.Proofs.PanicFreedom
import TextGrammar.Proofs.Budget
import TextGrammar.Proofs.Equations
import TextGrammar.Proofs.RepetitionRule
import TextGrammar.Proofs.Rounds
import TextGrammar.Proofs.Bracketing
import TextGrammar.Proofs.Failures
import TextGrammar.Proofs.Pattern.Taking
import TextGrammar.Proofs.Verbatim
import TextGrammar.Proofs.Reading
import TextGrammar.Proofs.Language.Tokens
import TextGrammar.Proofs.Language.Tree
import TextGrammar.Proofs.Language.Expression
import TextGrammar.Proofs.Language.Nested
import TextGrammar.Proofs.Language.Numbers
import TextGrammar.Proofs.Refusal
import TextGrammar.Proofs.Moves
import TextGrammar.Proofs.Sequencing
import TextGrammar.Proofs.Inlining
import TextGrammar.Proofs.Pattern.Comment
import TextGrammar.Proofs.Wrapping
import TextGrammar.Proofs.Messages
import TextGrammar.Proofs.Unwinding
import TextGrammar.Proofs.LastRound
import TextGrammar.Proofs.Language.Trimming
import TextGrammar.Proofs.OwnStart
import TextGrammar.Proofs.Factoring
import TextGrammar.Proofs.Mapping
