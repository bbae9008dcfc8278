import Landmark.Config.Text
import Landmark.Host
import Landmark.Proofs.Bisection
import Landmark.Proofs.Checked.Basic
import Landmark.Proofs.Checked.Entry
import Landmark.Proofs.Checked.LoadedModule
import Landmark.Proofs.Checked.Routine
import Landmark.Proofs.Checked.Scan
import Landmark.Proofs.Checked.Segment
import Landmark.Proofs.Checked.Symbol
import Landmark.Proofs.Host
import Landmark.Proofs.Image.Acceptance
import Landmark.Proofs.Image.Alias
import Landmark.Proofs.Image.Spill
import Landmark.Proofs.LoadedModule.Built
import Landmark.Proofs.LoadedModule.Forwarding
import Landmark.Proofs.LoadedModule.Functions
import Landmark.Proofs.LoadedModule.Location
import Landmark.Proofs.LoadedModule.TableOrder
import Landmark.Proofs.Resolver.Memory
import Landmark.Proofs.Routine.Effort
import Landmark.Proofs.Routine.Queries
import Landmark.Proofs.Routine.Reconstruction
import Landmark.Proofs.Routine.Redecoding
import Landmark.Proofs.Routine.Relocation
import Landmark.Proofs.Routine.Scanning
import Landmark.Proofs.Routine.Written
import Landmark.Proofs.Segment.Backing
import Landmark.Proofs.Segment.Calls
import Landmark.Proofs.Segment.Compare
import Landmark.Proofs.Segment.Entry
import Landmark.Proofs.Segment.Gathering
import Landmark.Proofs.Segment.Greedy
import Landmark.Proofs.Segment.References
import Landmark.Proofs.Segment.Walk
import Landmark.Proofs.Survivor
import Landmark.Proofs.Symbol.CallSequence
import Landmark.Proofs.Symbol.Containment
import Landmark.Proofs.Symbol.Cvar
import Landmark.Proofs.Symbol.Globals
import Landmark.Proofs.Symbol.Notifier
import Landmark.Proofs.Symbol.Player
import Landmark.Proofs.Symbol.Precedence
import Landmark.Proofs.Symbol.Soundness
import Landmark.Proofs.Symbol.Steps
import Landmark.Proofs.Symbol.Tested
import Landmark.Proofs.X86.Sites
import Landmark.Proofs.X86.Taken
import Landmark.X86.Encode
import Landmark.Proofs.Image.Mapped
import Landmark.Proofs.Selection
import Landmark.Proofs.X86.Branches
import Landmark.Proofs.Config.Field
import Landmark.Proofs.Config.Override
