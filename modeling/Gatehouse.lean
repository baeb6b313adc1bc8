import Gatehouse.Authority.Command
import Gatehouse.Config.Printer
import Gatehouse.Context.Wait
import Gatehouse.Gateway.Printer
import Gatehouse.Gateway.Setup
import Gatehouse.Maintenance.Command
import Gatehouse.Token.Envelope.Text
import Gatehouse.Proofs.Authority.Agreement
import Gatehouse.Proofs.Authority.Cleanup
import Gatehouse.Proofs.Authority.Permanence
import Gatehouse.Proofs.Authority.Pruning
import Gatehouse.Proofs.Authority.Records
import Gatehouse.Proofs.Authority.Refresh
import Gatehouse.Proofs.Authority.Validation
import Gatehouse.Proofs.Config.Usability
import Gatehouse.Proofs.Gateway.Admission
import Gatehouse.Proofs.Gateway.Cancellation
import Gatehouse.Proofs.Limiter.RetryAfter
import Gatehouse.Proofs.Policy.Decision
import Gatehouse.Proofs.Resilience.Attempts
import Gatehouse.Proofs.Resilience.Composition
import Gatehouse.Proofs.Resilience.Cycle
import Gatehouse.Proofs.Resilience.Permits
import Gatehouse.Proofs.Resilience.Trials
import Gatehouse.Proofs.Authority.Replacement
import Gatehouse.Proofs.Policy.Catalogue
import Gatehouse.Proofs.Policy.Loading
import Gatehouse.Proofs.Value.Shown
import Gatehouse.Proofs.Policy.Printing
import Gatehouse.Proofs.Policy.Reading
import Gatehouse.Proofs.KeyRing.Order
import Gatehouse.Proofs.KeyRing.Soundness
import Gatehouse.Proofs.Authority.KeyHint
import Gatehouse.Proofs.Authority.Signing
import Gatehouse.Proofs.KeyRing.Idleness
import Gatehouse.Proofs.Limiter.Numbers
import Gatehouse.Proofs.Limiter.Reckoning
import Gatehouse.Proofs.Binary64.Units
import Gatehouse.Proofs.Limiter.AdmissionBound
import Gatehouse.Proofs.Gateway.Upkeep
import Gatehouse.Proofs.Resilience.Observation
import Gatehouse.Proofs.Policy.Dependence
import Gatehouse.Proofs.Config.Backoff
import Gatehouse.Proofs.Config.Quota
import Gatehouse.Proofs.Duration.Text
import Gatehouse.Proofs.Token.Listing
import Gatehouse.Proofs.Maintenance.Punctuality
import Gatehouse.Proofs.Resilience.Watching
import Gatehouse.Proofs.Authority.Locking
