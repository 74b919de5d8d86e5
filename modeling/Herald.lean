import Herald.Main
import Herald.Wire.Config
import Herald.Wire.Warning
import Herald.Proofs.Caller.Resolution
import Herald.Proofs.Level.Parse
import Herald.Proofs.Remote.Barrier
import Herald.Proofs.Remote.Closed
import Herald.Proofs.Remote.Closing
import Herald.Proofs.Remote.Order
import Herald.Proofs.Remote.Room
import Herald.Proofs.Manager.Dispatch
import Herald.Proofs.Manager.Isolation
import Herald.Proofs.Manager.Shield
import Herald.Proofs.Manager.Threshold
import Herald.Proofs.Shipping.Counters
import Herald.Proofs.Shipping.Delivery
import Herald.Proofs.Bus.Queues
import Herald.Proofs.Wire.RoundTrip
import Herald.Proofs.Level.Name
import Herald.Proofs.Caller.Skipping
import Herald.Proofs.Manager.Apart
import Herald.Proofs.Remote.Topic
import Herald.Proofs.Escalation.TestRunner
import Herald.Proofs.Manager.Setup
