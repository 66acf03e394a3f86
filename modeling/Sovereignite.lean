import Sovereignite.CertificateUsages
import Sovereignite.CrewRegistry
import Sovereignite.CsrSignerApproval
import Sovereignite.DiscoveryService
import Sovereignite.EndpointFile
import Sovereignite.IdentityDerivations
import Sovereignite.IpfsDurability
import Sovereignite.IpfsInspection
import Sovereignite.IpfsPublicationBoundary
import Sovereignite.IpfsRecordEncoding
import Sovereignite.IpfsRefresh
import Sovereignite.KeyManagerReopening
import Sovereignite.KeyManagerRetirement
import Sovereignite.Libp2pLifetimeIdentity
import Sovereignite.SpireKeyRefinement
import Sovereignite.TrustContinuity
import Sovereignite.TrustFileStoreRollback
import Sovereignite.TrustMemory
import Sovereignite.TrustPeerRecords
import Sovereignite.TrustPublicJson
import Sovereignite.TrustPublicView
