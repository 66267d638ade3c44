import Rulebook.Json.Pointer
import Rulebook.Setup.Service
import Rulebook.Store.Pool
import Rulebook.World
import Rulebook.Proofs.Json.Record
import Rulebook.Proofs.Rule.Order
import Rulebook.Proofs.Rule.Ranked
import Rulebook.Proofs.Program.Run
import Rulebook.Proofs.Rule.Sequence
import Rulebook.Proofs.Program.Only
import Rulebook.Proofs.Program.Kept
import Rulebook.Proofs.Login.Completion
import Rulebook.Proofs.Login.Standing
import Rulebook.Proofs.Site.Questions
import Rulebook.Proofs.Site.Run
import Rulebook.Proofs.Site.Challenges
import Rulebook.Proofs.Site.Tokens
import Rulebook.Proofs.Page.Hole
import Rulebook.Proofs.Page.Markup
import Rulebook.Proofs.Text.Utf8
import Rulebook.Proofs.Digest.Letters
import Rulebook.Proofs.Http.Target
import Rulebook.Proofs.Store.Kind
import Rulebook.Proofs.Ruleset.RoundTrip
import Rulebook.Proofs.Ruleset.Link
import Rulebook.Proofs.Ruleset.ReadBack
import Rulebook.Proofs.Store.Filled
import Rulebook.Proofs.Program.Outage
import Rulebook.Proofs.Time.Order
import Rulebook.Proofs.Text.Blank
import Rulebook.Proofs.Text.Tsv
import Rulebook.Proofs.Ruleset.Export
import Rulebook.Proofs.Rule.Step
import Rulebook.Proofs.Rule.Proper
import Rulebook.Proofs.Site.Work
import Rulebook.Proofs.Store.WellFormed
import Rulebook.Proofs.Site.WellFormed
import Rulebook.Proofs.Program.Views
import Rulebook.Proofs.Site.Anonymous
import Rulebook.Proofs.Site.Twin
import Rulebook.Proofs.Site.Secrets
import Rulebook.Proofs.Program.Crowd
import Rulebook.Proofs.Ruleset.Calls
import Rulebook.Proofs.Ruleset.Writers
import Rulebook.Proofs.Ruleset.SideBySide
import Rulebook.Proofs.Ruleset.Deletions
import Rulebook.Proofs.Store.Path
import Rulebook.Proofs.Text.ByteOrder
import Rulebook.Proofs.Store.DocumentMap
import Rulebook.Proofs.Store.Change
import Rulebook.Proofs.Site.Frame
import Rulebook.Proofs.Program.CleanFailure
import Rulebook.Proofs.Site.ErrorAnswers
import Rulebook.Proofs.Http.Header
import Rulebook.Proofs.Site.Download
import Rulebook.Proofs.Rule.Append
import Rulebook.Proofs.Rule.Arrange
import Rulebook.Proofs.Site.Moved
import Rulebook.Proofs.Ruleset.Update
import Rulebook.Proofs.Rule.Commute
import Rulebook.Proofs.Ruleset.Accounted
import Rulebook.Proofs.Ruleset.ByProject
import Rulebook.Proofs.Rule.Form
import Rulebook.Proofs.Login.AllOrNothing
import Rulebook.Proofs.Site.Consumed
import Rulebook.Proofs.Json.RoundTrip
import Rulebook.Proofs.Login.Verdict
import Rulebook.Proofs.Site.Callback
import Rulebook.Proofs.Rule.Resave
import Rulebook.Proofs.Setup.Session
import Rulebook.Proofs.Site.TraceIds
import Rulebook.Proofs.Platform.Answers
import Rulebook.Proofs.Site.Links
import Rulebook.Proofs.Failure
