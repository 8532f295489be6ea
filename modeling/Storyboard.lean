import Storyboard.Disk.Tree
import Storyboard.Main
import Storyboard.Preview.State
import Storyboard.Proofs.Cache.Files
import Storyboard.Proofs.Cache.Pass
import Storyboard.Proofs.Cache.Convergence
import Storyboard.Proofs.Cache.InUse
import Storyboard.Proofs.Cache.Orphans
import Storyboard.Proofs.Generation.Tour
import Storyboard.Proofs.Generation.Visiting
import Storyboard.Proofs.Disk.Tree
import Storyboard.Proofs.Cache.TreeStore
import Storyboard.Proofs.Generation.Cancelling
import Storyboard.Proofs.Generation.Harvest
import Storyboard.Proofs.Events.Decoding
import Storyboard.Proofs.Generation.Faults
import Storyboard.Proofs.Generation.Trace
import Storyboard.Proofs.Pipeline.Standard
import Storyboard.Proofs.Pipeline.Outline
import Storyboard.Proofs.Generation.Verdict
import Storyboard.Proofs.Generation.Agreement
import Storyboard.Proofs.Generation.Sections
import Storyboard.Proofs.Generation.Reshaping
import Storyboard.Proofs.Preview.Replay
import Storyboard.Proofs.Generation.Dropping
import Storyboard.Proofs.Generation.Delivery
import Storyboard.Proofs.Generation.Lifting
import Storyboard.Proofs.Cache.Atomicity
import Storyboard.Proofs.Generation.Calls
import Storyboard.Proofs.Generation.Protocol
import Storyboard.Proofs.Generation.Reordering
import Storyboard.Proofs.Script.Splitting
import Storyboard.Proofs.Sprite.Bracketing
import Storyboard.Proofs.Project.RoundTrip
import Storyboard.Proofs.Pipeline.Rounding
import Storyboard.Proofs.Asset.Identity
import Storyboard.Proofs.Events.Chronology
import Storyboard.Proofs.Image.Cropping
import Storyboard.Proofs.Track.Blending
import Storyboard.Proofs.Preview.Frames
import Storyboard.Proofs.Script.Appending
import Storyboard.Proofs.Color.HexText
import Storyboard.Proofs.Cache.Integrity
