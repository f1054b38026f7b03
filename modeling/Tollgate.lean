import Tollgate.Json.Printer
import Tollgate.Main
import Tollgate.Proofs.Command.Check
import Tollgate.Proofs.Gateway.Accounts
import Tollgate.Proofs.Gateway.Isolation
import Tollgate.Proofs.Gateway.Limits
import Tollgate.Proofs.Gateway.Mediation
import Tollgate.Proofs.Gateway.RateSafety
import Tollgate.Proofs.Gateway.Refinement
import Tollgate.Proofs.Gateway.Refusals
import Tollgate.Proofs.Gateway.Revocation
import Tollgate.Proofs.Gateway.Spelling
import Tollgate.Proofs.Reload.Again
import Tollgate.Proofs.Reload.Blank
import Tollgate.Proofs.Reload.Bystanders
import Tollgate.Proofs.Reload.TearDown
import Tollgate.Proofs.Reload.Watch
import Tollgate.Proofs.Schema.Resources
import Tollgate.Proofs.Store.Coverage
import Tollgate.Proofs.Store.Delivery
import Tollgate.Proofs.Store.NamedWrites
import Tollgate.Proofs.Store.Rotation
import Tollgate.Proofs.Store.RouteMoves
import Tollgate.Proofs.Trie.Addresses
import Tollgate.Proofs.Trie.Nodes
import Tollgate.Proofs.Trie.Writes
import Tollgate.Schema.Encode
