import MessageBus.Envelope.Record
import MessageBus.Main
import MessageBus.Proofs.Broker.Isolation
import MessageBus.Proofs.Broker.Receipts
import MessageBus.Proofs.Bus.Batch
import MessageBus.Proofs.Bus.Consistency
import MessageBus.Proofs.Bus.Creation
import MessageBus.Proofs.Bus.DeadLetter
import MessageBus.Proofs.Bus.Fanout
import MessageBus.Proofs.Bus.Publication
import MessageBus.Proofs.Bus.QueueArn
import MessageBus.Proofs.Bus.Refusal
import MessageBus.Proofs.Bus.Selection
import MessageBus.Proofs.Bus.Visibility
import MessageBus.Proofs.Envelope.Prototype
import MessageBus.Proofs.Envelope.Stability
import MessageBus.Proofs.Naming
import MessageBus.Proofs.Provisioning.Cold
import MessageBus.Proofs.Provisioning.Once
import MessageBus.Proofs.Provisioning.Retry
import MessageBus.Proofs.Publisher
import MessageBus.Proofs.Session.Accounting
import MessageBus.Proofs.Session.Cancellation
import MessageBus.Proofs.Session.Drain
import MessageBus.Proofs.Session.Limits
import MessageBus.Proofs.Settings.Load
