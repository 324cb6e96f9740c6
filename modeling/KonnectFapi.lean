import KonnectFapi.Guarantees.FailureLatch
import KonnectFapi.Guarantees.OriginGuard
import KonnectFapi.Guarantees.CredentialPost
import KonnectFapi.Guarantees.SingleSend
import KonnectFapi.Guarantees.SigningLatch
import KonnectFapi.Guarantees.ConcurrentRequests
import KonnectFapi.Guarantees.TokenBody
import KonnectFapi.Guarantees.DelegateReadiness
import KonnectFapi.Guarantees.Reconfiguration
import KonnectFapi.Guarantees.RoutingHeaders
import KonnectFapi.Guarantees.VerifierAdmission
import KonnectFapi.Guarantees.EvidenceDelivery
import KonnectFapi.Guarantees.AuthenticationSettings
import KonnectFapi.Guarantees.ApprovalDigest
import KonnectFapi.Guarantees.FormDigest
import KonnectFapi.Guarantees.FormGrammar
import KonnectFapi.Guarantees.ContentType
import KonnectFapi.Guarantees.SignerAgreement
import KonnectFapi.Guarantees.EvidenceErrors
import KonnectFapi.Guarantees.RequestGuard
import KonnectFapi.Guarantees.SchemaPagination
import KonnectFapi.Guarantees.RsaRoundTrip
import KonnectFapi.Guarantees.CleanShutdown
import KonnectFapi.Guarantees.SchemaAgreement
import KonnectFapi.Guarantees.SanitizedOutput
import KonnectFapi.Guarantees.ObservationRecords
import KonnectFapi.Guarantees.TargetAdmission
import KonnectFapi.Guarantees.TlsEvidence
import KonnectFapi.Guarantees.SyncConvergence
import KonnectFapi.Guarantees.SyncFrame
import KonnectFapi.Guarantees.MarkerAgreement
import KonnectFapi.Guarantees.ReadinessGate
import KonnectFapi.Guarantees.SyncGate
import KonnectFapi.Guarantees.SchemaGate
