import Zkdeal.AcceptanceRunner.Records
import Zkdeal.AcceptanceRunner.RpcLoadShadow
import Zkdeal.AcceptanceRunner.TokenRouting
import Zkdeal.BackupRestore.Isolation
import Zkdeal.BackupRestore.Envelope
import Zkdeal.BackupRestore.LogicalDigest
import Zkdeal.BackupRestore.ObjectBundle
import Zkdeal.FaultControl.JournalRuns
import Zkdeal.FaultControl.Reorg
import Zkdeal.FaultControl.Status
import Zkdeal.FailoverProvider.Durability
import Zkdeal.FailoverProvider.IdempotencyKeys
import Zkdeal.FailoverProvider.KubernetesReports
import Zkdeal.FailoverProvider.Restart
import Zkdeal.FailoverProvider.SingleShot
import Zkdeal.OwnerSoak.Billing
import Zkdeal.OwnerSoak.Budgets
import Zkdeal.OwnerSoak.Keccak256
import Zkdeal.OwnerSoak.Plan
import Zkdeal.OwnerSoak.Recovery
import Zkdeal.OwnerSoak.Rlp
import Zkdeal.OwnerSoak.ScheduledFaults
import Zkdeal.PromotionController.Requests
import Zkdeal.PromotionController.Responses
import Zkdeal.PromotionController.Resume
import Zkdeal.Soak.Charges
import Zkdeal.Scripts.LogPositions
import Zkdeal.Scripts.Pointers
import Zkdeal.Scripts.ReferenceDocs
import Zkdeal.Scripts.SourceBundle
import Zkdeal.Scripts.SymlinkGuards
import Zkdeal.Scripts.TreeDigests
import Zkdeal.Soak6h.MakeManifest
import Zkdeal.Scripts.ReleaseEligible
import Zkdeal.Scripts.Authorities
import Zkdeal.Curves.Jacobian
import Zkdeal.Numbers.Primality
import Zkdeal.OwnerSoak.Secp256k1
import Zkdeal.OwnerSoak.Secp256k1Group
import Zkdeal.Curves.Ecdsa
import Zkdeal.OwnerSoak.Signatures
import Zkdeal.OwnerSoak.Transactions
import Zkdeal.OwnerSoak.AdmissionReceipts
import Zkdeal.OwnerSoak.AdmissionRuns
