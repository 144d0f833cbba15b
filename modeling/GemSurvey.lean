import GemSurvey.Main
import GemSurvey.Proofs.Fault
import GemSurvey.Proofs.Gemspec.Files
import GemSurvey.Proofs.Gemspec.Heredocs
import GemSurvey.Proofs.Gemspec.Legible
import GemSurvey.Proofs.Ledger.History
import GemSurvey.Proofs.Listing
import GemSurvey.Proofs.Program.Unavailable
import GemSurvey.Proofs.Program.Uncommitted
import GemSurvey.Proofs.Project.Placed
import GemSurvey.Proofs.Readme.Further
import GemSurvey.Proofs.Readme.Returns
import GemSurvey.Proofs.Reference.Marker
import GemSurvey.Proofs.Reference.Required
import GemSurvey.Proofs.Release.Priority
import GemSurvey.Proofs.Resolution.Installed
import GemSurvey.Proofs.Source.Entries
import GemSurvey.Proofs.Survey.Blanked
import GemSurvey.Proofs.Survey.Isolated
import GemSurvey.Proofs.Survey.OwnGem
import GemSurvey.Proofs.Survey.Refusal
import GemSurvey.Proofs.Survey.Reordered
import GemSurvey.Proofs.Survey.Versions
import GemSurvey.Proofs.Tracked
