import Raiden.Channel.Adversary
import Raiden.Channel.PendingLimit
import Raiden.Channel.Sweep
import Raiden.Channel.Overflow
import Raiden.Storage.Recovery
import Raiden.Storage.Atomic
import Raiden.Storage.Snapshot
import Raiden.Mediator.Redeemable
import Raiden.Mediator.Finalized
import Raiden.Mediator.Fallback
import Raiden.Mediator.RegistersOnce
import Raiden.Mediator.Resolved
import Raiden.Mediator.Funding
import Raiden.Target.Terminal
import Raiden.RegisteredLocks
import Raiden.Node.Pending
import Raiden.Blockchain.Order
import Raiden.Channel.Rejected
import Raiden.Target.Init
import Raiden.Mediator.Expirations
import Raiden.Mediator.Waiting
import Raiden.Node.Reroute
import Raiden.Initiator.Robust
import Raiden.MediationFee.Payout
import Raiden.EventHandler.OlderProof
import Raiden.Network.Price
import Raiden.Network.RetrySchedule
import Raiden.Network.Services
import Raiden.Channel.Locksroot
