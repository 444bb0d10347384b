import LinkOwnership.Json.Reader
import LinkOwnership.Main
import LinkOwnership.Proofs.Arguments
import LinkOwnership.Proofs.Atomicity
import LinkOwnership.Proofs.Canonical
import LinkOwnership.Proofs.Codes
import LinkOwnership.Proofs.Contention
import LinkOwnership.Proofs.Delimiting
import LinkOwnership.Proofs.Description
import LinkOwnership.Proofs.Isolation
import LinkOwnership.Proofs.Lifetime
import LinkOwnership.Proofs.LinkHandling
import LinkOwnership.Proofs.LoadIsolation
import LinkOwnership.Proofs.NamedPackages
import LinkOwnership.Proofs.Refusals
import LinkOwnership.Proofs.Removal
import LinkOwnership.Proofs.Selection
import LinkOwnership.Proofs.Snapshot
import LinkOwnership.Proofs.Suggestions
import LinkOwnership.Proofs.TableRestore
import LinkOwnership.Proofs.Takeover
import LinkOwnership.Proofs.Verification
import LinkOwnership.Proofs.Yielding
import LinkOwnership.Proofs.ZoneList
import LinkOwnership.Service.Stripe
import LinkOwnership.Settings
