import Probe.Expectation.OfJson
import Probe.Http.Script
import Probe.Main
import Probe.Output
import Probe.Proofs.Case.Body
import Probe.Proofs.Case.LifeCycle
import Probe.Proofs.Case.Reordering
import Probe.Proofs.Case.Verdict
import Probe.Proofs.Config.Nearest
import Probe.Proofs.Discovery.ConfigFile
import Probe.Proofs.Discovery.Spellings
import Probe.Proofs.Discovery.Unmentioned
import Probe.Proofs.Expectation.Bytes
import Probe.Proofs.Expectation.MailTag
import Probe.Proofs.Expectation.ReadFields
import Probe.Proofs.Expectation.Written
import Probe.Proofs.Http.Url
import Probe.Proofs.Output.Colours
import Probe.Proofs.Output.Lines
import Probe.Proofs.Output.Rendering
import Probe.Proofs.Run.Blame
import Probe.Proofs.Run.Exchange
import Probe.Proofs.Run.Misplaced
import Probe.Proofs.Run.Omission
import Probe.Proofs.Run.Parts
import Probe.Proofs.Run.Result
import Probe.Proofs.Run.Rounds
import Probe.Proofs.Run.Silence
import Probe.Proofs.Run.Unloadable
import Probe.Proofs.Suite.Generation
import Probe.Proofs.Suite.Placeholders
import Probe.Proofs.Suite.Seeding
import Probe.Suite.Error
