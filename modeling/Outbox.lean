import Outbox.Main
import Outbox.Scenario.Database
import Outbox.Scenario.Thread
import Outbox.Proofs.Delivery
import Outbox.Proofs.Overlap
import Outbox.Proofs.DedupeKeys
import Outbox.Proofs.UnitOfWork
import Outbox.Proofs.Effect
import Outbox.Proofs.Lifecycle
import Outbox.Proofs.Alone
import Outbox.Proofs.ExactlyOnce
import Outbox.Proofs.RetryBudget
import Outbox.Proofs.RetryCount
import Outbox.Proofs.Claims
import Outbox.Proofs.Terminal
import Outbox.Proofs.TodoRows
import Outbox.Proofs.TodoRetry
import Outbox.Proofs.EarliestDelivery
import Outbox.Proofs.Wire
import Outbox.Proofs.Ledger
import Outbox.Proofs.Pace
import Outbox.Proofs.RecordText
import Outbox.Proofs.TodoMessages
import Outbox.Proofs.Conservation
import Outbox.Proofs.ValidSettings
import Outbox.Proofs.Secrets
import Outbox.Proofs.DueOrder
import Outbox.Proofs.DeliveryOrder
import Outbox.Proofs.LeaseBudget
import Outbox.Proofs.StagedTodos
import Outbox.Proofs.Commands
import Outbox.Proofs.RetryDelay
import Outbox.Proofs.HeldBack
import Outbox.Proofs.KeyParts
import Outbox.Proofs.Retention
import Outbox.Proofs.DeadLetters
import Outbox.Proofs.Rows
import Outbox.Proofs.RequestBody
import Outbox.Proofs.Forecast
import Outbox.Proofs.PolicyText
import Outbox.Proofs.Rollbacks
