import Kaleidoscope.Session
import Kaleidoscope.Main
import Kaleidoscope.Proofs.Chain
import Kaleidoscope.Proofs.Derivation
import Kaleidoscope.Proofs.Expressions
import Kaleidoscope.Proofs.Segments
import Kaleidoscope.Proofs.Joining
import Kaleidoscope.Proofs.Statements
import Kaleidoscope.Proofs.Programs
import Kaleidoscope.Proofs.Likeness
import Kaleidoscope.Proofs.Continuations
import Kaleidoscope.Proofs.Locality
import Kaleidoscope.Proofs.Isolation
import Kaleidoscope.Proofs.Lists
import Kaleidoscope.Proofs.Numerals
import Kaleidoscope.Proofs.Pieces
import Kaleidoscope.Proofs.Rendering
import Kaleidoscope.Proofs.Limits
import Kaleidoscope.Proofs.Printing
import Kaleidoscope.Proofs.RoundTrip
import Kaleidoscope.Proofs.Completions
import Kaleidoscope.Proofs.ViablePrefix
import Kaleidoscope.Proofs.Cutoff
import Kaleidoscope.Proofs.Histories
import Kaleidoscope.Proofs.Parametricity
import Kaleidoscope.Proofs.Boundaries
import Kaleidoscope.Proofs.Finiteness
import Kaleidoscope.Proofs.LexicalFaults
import Kaleidoscope.Proofs.Unambiguity
import Kaleidoscope.Proofs.Paths
import Kaleidoscope.Proofs.Damage
import Kaleidoscope.Proofs.Lines
import Kaleidoscope.Proofs.Deliveries
import Kaleidoscope.Proofs.Provenance
import Kaleidoscope.Proofs.Reports
import Kaleidoscope.Proofs.Climbing
import Kaleidoscope.Proofs.Accounts
