import GrammarEngine.Grammar.Build
import GrammarEngine.Grammar.Session
import GrammarEngine.Proofs.Builds
import GrammarEngine.Proofs.Calculator
import GrammarEngine.Proofs.Retry
import GrammarEngine.Proofs.Shift
import GrammarEngine.Proofs.Desugar
import GrammarEngine.Proofs.Failures
import GrammarEngine.Proofs.Pieces
import GrammarEngine.Proofs.Acceptance
import GrammarEngine.Proofs.Repetition
import GrammarEngine.Proofs.Fractions
import GrammarEngine.Proofs.Lockstep
import GrammarEngine.Proofs.Alternatives
import GrammarEngine.Proofs.Digits
import GrammarEngine.Proofs.Anchoring
import GrammarEngine.Proofs.Sequencing
import GrammarEngine.Proofs.Mapping
import GrammarEngine.Proofs.Prefixes
import GrammarEngine.Proofs.Collapse
import GrammarEngine.Proofs.Sessions
