import Gatekeeper.Main
import Gatekeeper.Session
import Gatekeeper.Proofs.Text.Encoding
import Gatekeeper.Proofs.Text.Lines
import Gatekeeper.Proofs.Text.Places
import Gatekeeper.Proofs.Text.Front
import Gatekeeper.Proofs.Text.Basic
import Gatekeeper.Proofs.Text.Quoted
import Gatekeeper.Proofs.Gate.Check
import Gatekeeper.Proofs.Screening.Reference
import Gatekeeper.Proofs.Screening.Answers
import Gatekeeper.Proofs.Screening.Limit
import Gatekeeper.Proofs.Gate.Mask
import Gatekeeper.Proofs.Screening.Agreement
import Gatekeeper.Proofs.Screening.Framing
import Gatekeeper.Proofs.Session.Secrecy
import Gatekeeper.Proofs.Json.Grammar
import Gatekeeper.Proofs.Json.Spelling
import Gatekeeper.Proofs.Json.Number
import Gatekeeper.Proofs.Json.Completeness
import Gatekeeper.Proofs.Json.Cut
import Gatekeeper.Proofs.Json.Truncation
import Gatekeeper.Proofs.Json.Settled
import Gatekeeper.Proofs.Json.Scalars
import Gatekeeper.Proofs.Json.Locality
import Gatekeeper.Proofs.Json.Padding
import Gatekeeper.Proofs.Configuration.Document
import Gatekeeper.Proofs.Configuration.Truncation
import Gatekeeper.Proofs.Configuration.Locality
import Gatekeeper.Proofs.Configuration.Members
import Gatekeeper.Proofs.Gate.Exactness
import Gatekeeper.Proofs.Gate.Logged
import Gatekeeper.Proofs.Session.Construction
import Gatekeeper.Proofs.Session.Blank
import Gatekeeper.Proofs.Session.Loading
import Gatekeeper.Proofs.Settings.Reachable
import Gatekeeper.Proofs.Log.Readable
import Gatekeeper.Proofs.Log.Level
import Gatekeeper.Proofs.Program.Run
import Gatekeeper.Proofs.Files.Alike
import Gatekeeper.Proofs.Files.Target
import Gatekeeper.Proofs.Settings.Level
import Gatekeeper.Proofs.Program.Logging
import Gatekeeper.Proofs.Program.Level
import Gatekeeper.Proofs.Settings.Names
import Gatekeeper.Proofs.Environment.Supply
import Gatekeeper.Proofs.Program.Settings
