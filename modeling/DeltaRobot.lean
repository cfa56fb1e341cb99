import DeltaRobot.Duration
import DeltaRobot.Main
import DeltaRobot.Proofs.Exact.Coherence
import DeltaRobot.Proofs.Script.Start
import DeltaRobot.Run.Report
import DeltaRobot.Proofs.Exact.Elbow
import DeltaRobot.Proofs.Exact.RoundTrip
import DeltaRobot.Proofs.Move.Plan
import DeltaRobot.Proofs.Exact.Distance
import DeltaRobot.Proofs.Exact.Reversal
import DeltaRobot.Proofs.Move.FeedRate
import DeltaRobot.Proofs.Machine.Reset
import DeltaRobot.Proofs.Exact.Symmetry
import DeltaRobot.Proofs.Run.Stages
import DeltaRobot.Proofs.Script.Records
import DeltaRobot.Proofs.Run.Records
import DeltaRobot.Proofs.Files.Archive
import DeltaRobot.Proofs.Script.Idle
import DeltaRobot.Proofs.Run.Failure
import DeltaRobot.Proofs.Files.Twins
import DeltaRobot.Proofs.Parameters.Foreign
import DeltaRobot.Proofs.Run.Independence
import DeltaRobot.Proofs.Kinematics.Overflow
import DeltaRobot.Proofs.Exact.Partition
import DeltaRobot.Proofs.Exact.Capacity
import DeltaRobot.Proofs.Exact.ZeroPose
import DeltaRobot.Proofs.Parameters.Access
import DeltaRobot.Proofs.Machine.Build
import DeltaRobot.Proofs.Json.Scanning
import DeltaRobot.Proofs.Json.Grammar
import DeltaRobot.Proofs.Json.Texts
import DeltaRobot.Proofs.Json.Numbers
import DeltaRobot.Proofs.Json.Arrangement
import DeltaRobot.Proofs.Json.Decoding
import DeltaRobot.Proofs.Json.Records
import DeltaRobot.Proofs.Json.Rendering
import DeltaRobot.Proofs.Command.Codec
import DeltaRobot.Proofs.Command.RoundTrip
import DeltaRobot.Proofs.Command.Parsing
import DeltaRobot.Proofs.Files.Names
import DeltaRobot.Proofs.Files.Keeping
import DeltaRobot.Proofs.Run.Inputs
