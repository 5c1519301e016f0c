import Portal.Client.ExportWait
import Portal.Config.Place
import Portal.Http.Replay
import Portal.Model.Access
import Portal.Proofs.Client.ErrorOrigin
import Portal.Proofs.Client.PathArguments
import Portal.Proofs.Client.PlainAnswers
import Portal.Proofs.Client.QueryParameters
import Portal.Proofs.Client.SentHeaders
import Portal.Proofs.Client.UnambiguousCalls
import Portal.Proofs.Config.Concatenation
import Portal.Proofs.Config.HiddenKey
import Portal.Proofs.Config.Noise
import Portal.Proofs.Config.Origins
import Portal.Proofs.Config.Reload
import Portal.Proofs.Config.Timeouts
import Portal.Proofs.Config.Values
import Portal.Proofs.Http.ErrorBody
import Portal.Proofs.Http.HeaderMaps
import Portal.Proofs.Model.Envelopes
import Portal.Proofs.Model.Reencoding
import Portal.Proofs.Model.SchemaGrowth
import Portal.Proofs.Model.WholeLists
import Portal.Proofs.Search.Views
import Portal.Proofs.Url.Joining
import Portal.Proofs.Url.PathCode
import Portal.Proofs.Url.SegmentCode
import Portal.Proofs.Wait.Capped
import Portal.Proofs.Wait.Deadline
import Portal.Proofs.Wait.FirstDecisive
import Portal.Proofs.Wait.Growth
import Portal.Proofs.Wire.Acceptance
import Portal.Proofs.Wire.SpareMembers
