import Slipway.Main
import Slipway.Program
import Slipway.Text.Utf8.RoundTrip
import Slipway.Run.Runner
import Slipway.Proofs.Run.Sequence
import Slipway.Proofs.Tools
import Slipway.Proofs.Task.Errand
import Slipway.Proofs.WayBack
import Slipway.Proofs.Machine.Join
import Slipway.Proofs.Machine.Growth
import Slipway.Proofs.Task.Preparation
import Slipway.Proofs.Task.Handed
import Slipway.Proofs.Task.Prepared
import Slipway.Proofs.Task.Configure
import Slipway.Proofs.Machine.Search
import Slipway.Proofs.CommandLine.Token
import Slipway.Proofs.CommandLine.Items
import Slipway.Proofs.CommandLine.Request
import Slipway.Proofs.Task.CheckedPrograms
import Slipway.Proofs.DotEnv.Additions
import Slipway.Proofs.DotEnv.Characters
import Slipway.Proofs.Settings.Reading
import Slipway.Proofs.Path.Lexical
import Slipway.Proofs.CommandLine.InstallRoot
import Slipway.Proofs.DotEnv.Earliest
import Slipway.Proofs.Settings.Precedence
import Slipway.Proofs.Machine.Alike
import Slipway.Proofs.Task.Judged
import Slipway.Proofs.Task.Ends
import Slipway.Proofs.Program.Arguments
import Slipway.Proofs.Program.Status
import Slipway.Proofs.Task.Packing
import Slipway.Proofs.Task.Probe
import Slipway.Proofs.Plan.Omissions
import Slipway.Proofs.Plan.Reading
import Slipway.Proofs.Settings.Nearest
import Slipway.Proofs.Machine.Changes
import Slipway.Proofs.Task.Sound
import Slipway.Proofs.Plan.OptionReading
import Slipway.Proofs.Task.Roots
import Slipway.Proofs.Program.Blame
import Slipway.Proofs.Machine.SameBut
import Slipway.Proofs.Task.Lockstep
import Slipway.Proofs.Task.Overlooked
import Slipway.Proofs.DotEnv.Quotation
import Slipway.Proofs.Settings.Filed
import Slipway.Proofs.Program.Filed
import Slipway.Proofs.Path.Split
import Slipway.Proofs.Text.Digits
import Slipway.Proofs.Date
import Slipway.Proofs.Plan.FileName
import Slipway.Proofs.Plan.Root
import Slipway.Proofs.Text.Words
import Slipway.Proofs.Settings.CompileOptions
import Slipway.Proofs.Task.Checks
import Slipway.Proofs.Settings.Bindings
import Slipway.Proofs.Binary64
import Slipway.Proofs.Duration
import Slipway.Proofs.CommandLine.Refusal
import Slipway.Proofs.CommandLine.Diagnosis
