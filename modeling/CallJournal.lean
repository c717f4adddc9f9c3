import CallJournal.Chain
import CallJournal.Identifier
import CallJournal.Output.Setup
import CallJournal.Reception
import CallJournal.Token.Signing
import CallJournal.Traffic
import CallJournal.Proofs.Growth
import CallJournal.Proofs.OutcomeRecord
import CallJournal.Proofs.SentId
import CallJournal.Proofs.SignedClaim
import CallJournal.Proofs.RequestIdHops
import CallJournal.Proofs.Deadline
import CallJournal.Proofs.Additions
import CallJournal.Proofs.OutcomeFields
import CallJournal.Proofs.Transparency
import CallJournal.Proofs.Isolation
import CallJournal.Proofs.StackedGateways
import CallJournal.Proofs.JsonNumber
import CallJournal.Proofs.JsonString
import CallJournal.Proofs.JsonReadBack
import CallJournal.Proofs.RecordLine
import CallJournal.Proofs.Base64Text
import CallJournal.Proofs.UnverifiedClaim
import CallJournal.Proofs.TestTokens
import CallJournal.Proofs.OverlookedField
import CallJournal.Proofs.AccountField
import CallJournal.Proofs.UsableId
import CallJournal.Proofs.AssignedId
import CallJournal.Proofs.BroughtId
import CallJournal.Proofs.WrittenClaims
import CallJournal.Proofs.UncheckedClaim
import CallJournal.Proofs.ForwardedHeader
import CallJournal.Proofs.IdentifierText
import CallJournal.Proofs.HiddenHeaders
import CallJournal.Proofs.LevelHeader
import CallJournal.Proofs.Verbosity
import CallJournal.Proofs.TimeoutText
import CallJournal.Proofs.CarriedToken
import CallJournal.Proofs.JsonSpelling
import CallJournal.Proofs.MetadataLaws
import CallJournal.Proofs.IdentifierJson
import CallJournal.Proofs.WrittenTimeout
import CallJournal.Proofs.Calendar
import CallJournal.Proofs.TimeText
import CallJournal.Handles
import CallJournal.Proofs.LoggedTimes
import CallJournal.Proofs.SharedLogger
import CallJournal.Proofs.EventLine
import CallJournal.Proofs.PathParts
