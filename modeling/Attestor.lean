import Attestor.Main
import Attestor.Proofs.CommandLine.Persistence
import Attestor.Settings.Document
import Attestor.Proofs.Octets
import Attestor.Proofs.OpenPgp.Integer
import Attestor.Proofs.OpenPgp.Packets
import Attestor.Proofs.OpenPgp.Armor
import Attestor.Proofs.OpenPgp.Signature
import Attestor.Proofs.OpenPgp.Detached
import Attestor.Proofs.OpenPgp.Validity
import Attestor.Proofs.Signing
import Attestor.Proofs.Engine.Durability
import Attestor.Proofs.Evidence.Catalogue
import Attestor.Proofs.Store.Order
import Attestor.Proofs.CommandLine.Keeping
import Attestor.Proofs.Engine.Request
import Attestor.Proofs.Engine.Quiet
import Attestor.Proofs.Engine.Independence
import Attestor.Proofs.Policy.Evidence
import Attestor.Proofs.Engine.Cancellation
import Attestor.Proofs.Engine.Requirement
import Attestor.Proofs.Engine.Neutrality
import Attestor.Proofs.Image.Identity
import Attestor.Proofs.Engine.Coherence
import Attestor.Proofs.CommandLine.Frame
import Attestor.Proofs.Engine.Relabelling
import Attestor.Proofs.Engine.Configuration
import Attestor.Proofs.Settings.Loading
import Attestor.Proofs.Engine.Faults
import Attestor.Proofs.Policy.Trust
import Attestor.Proofs.Policy.Approval
import Attestor.Proofs.SigningKey
import Attestor.Proofs.Settings.Variables
import Attestor.Proofs.Policy.Organizations
import Attestor.Proofs.Store.Reloading
import Attestor.Proofs.Engine.Naming
import Attestor.Proofs.Image.Spelling
import Attestor.Proofs.Policy.Slashes
import Attestor.Proofs.Policy.Findings
import Attestor.Proofs.Policy.Widening
import Attestor.Proofs.Report
import Attestor.Proofs.Evidence.Reading
import Attestor.Proofs.Engine.Kinds
import Attestor.Proofs.OpenPgp.Blocks
import Attestor.Proofs.Image.WellFormed
import Attestor.Proofs.KeyRing.Provision
import Attestor.Proofs.KeyRing.KeyId
import Attestor.Proofs.Evidence.Branches
