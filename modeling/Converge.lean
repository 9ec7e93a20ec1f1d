import Converge.Main
import Converge.Proofs.CapturedOutput
import Converge.Proofs.Deadline
import Converge.Proofs.DeclaredState
import Converge.Proofs.Failure
import Converge.Proofs.OptionOrder
import Converge.Proofs.Registry
import Converge.Proofs.Release
import Converge.Proofs.Reordering
import Converge.Proofs.ReportFiling
import Converge.Proofs.Rerun
import Converge.Proofs.ScriptPaths
import Converge.Proofs.SettingKeys
import Converge.Rehearsal.Session
