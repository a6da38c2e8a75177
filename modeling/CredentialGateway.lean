import CredentialGateway.Main
import CredentialGateway.Proofs.ConfigFile
import CredentialGateway.Proofs.Confinement
import CredentialGateway.Proofs.Destination
import CredentialGateway.Proofs.Drain
import CredentialGateway.Proofs.Eligibility
import CredentialGateway.Proofs.FieldProblems
import CredentialGateway.Proofs.Isolation
import CredentialGateway.Proofs.ListedNames
import CredentialGateway.Proofs.LiteralPath
import CredentialGateway.Proofs.OutboundQuery
import CredentialGateway.Proofs.OwnEntry
import CredentialGateway.Proofs.Reissue
import CredentialGateway.Proofs.Relay
import CredentialGateway.Proofs.Replacement
import CredentialGateway.Proofs.RequestBody
import CredentialGateway.Proofs.SignalHistory
import CredentialGateway.Proofs.TargetProblems
