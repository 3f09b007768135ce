import Raiden.Node.Transition
import Raiden.Storage.Wal

/-! # The unlock of a settled channel

After a settlement with locks the state machine asks for a batch unlock. The
handler finds the channel, searches the write-ahead log for the balance proofs
the channel was settled with, restores the channel as it was then, and sends an
unlock transaction for each side on which there is something to gain. -/
namespace Raiden.EventHandler

open Lib Channel Storage

/-! ## The service -/

/-- What stops the handler: an exception of the code it calls, or its own. -/
inductive HandlerError where
  | raised (err : Raised)
  | raidenUnrecoverableError (msg : String)
deriving DecidableEq

/-- A call of the unlock method of the token network proxy. -/
structure UnlockTransaction where
  channelIdentifier : ChannelID
  sender : Address
  receiver : Address
  pendingLocks : List EncodedData
  givenBlockIdentifier : BlockHash
deriving DecidableEq

structure Handled where
  sent : List UnlockTransaction
  raised : Option HandlerError
deriving DecidableEq

/-- What the handler reads of the service: the current state, the rows of the
log in the order of their identifiers, and the restored states. -/
structure RaidenService where
  chainId : ChainID
  chainState : ChainState
  stateChanges : List (ULID × StateChange)
  /-- The events, with the identifiers of the state changes they come from. -/
  events : List (ULID × Event)
  restoreState : ULID → Fallible (Option ChainState)

structure ContractSendChannelBatchUnlock where
  canonicalIdentifier : CanonicalIdentifier
  sender : Address
  triggeredByBlockHash : BlockHash

end Raiden.EventHandler

namespace Raiden

def StateChange.balanceProof? : StateChange → Option BalanceProofSignedState
  | .actionInitMediator change => some change.balanceProof
  | .actionInitTarget change => some change.balanceProof
  | .actionTransferReroute change => some change.balanceProof
  | .receiveTransferCancelRoute change => some change.balanceProof
  | .receiveTransferRefund change => some change.balanceProof
  | .receiveUnlock change => some change.balanceProof
  | .receiveLockExpired change => some change.balanceProof
  | _ => none

/-- The balance proof of an event, its own or that of its transfer, and the recipient. -/
def Event.balanceProof? : Event → Option (BalanceProofUnsignedState × Address)
  | .sendLockedTransfer message => some (message.transfer.balanceProof, message.recipient)
  | .sendUnlock message => some (message.balanceProof, message.recipient)
  | .sendLockExpired message => some (message.balanceProof, message.recipient)
  | _ => none

end Raiden

namespace Raiden.EventHandler

open Lib Channel Storage

variable (P : Primitives)

/-! ## Searching and restoring -/

section

variable (raiden : RaidenService) (canonicalIdentifier : CanonicalIdentifier)

def getStateChangeWithBalanceProofByLocksroot (locksroot : Locksroot) (sender : Address) : Option ULID :=
  (raiden.stateChanges.reverse.find? fun row => row.2.balanceProof?.any fun balanceProof =>
    balanceProof.canonicalIdentifier = canonicalIdentifier ∧ balanceProof.locksroot = locksroot ∧
      balanceProof.sender = sender).map Prod.fst

def getEventWithBalanceProofByLocksroot (locksroot : Locksroot) (recipient : Address) : Option ULID :=
  (raiden.events.reverse.find? fun row => row.2.balanceProof?.any fun (balanceProof, receiver) =>
    balanceProof.canonicalIdentifier = canonicalIdentifier ∧ balanceProof.locksroot = locksroot ∧
      receiver = recipient).map Prod.fst

def channelStateUntilStateChange
    (stateChangeIdentifier : ULID) : Except HandlerError NettingChannelState :=
  match raiden.restoreState stateChangeIdentifier with
  | .error err => .error (.raised err)
  | .ok none =>
    .error (.raised (.assertionError
      "There is a state change, therefore the state must be different from None"))
  | .ok (some chainState) =>
    match ChainState.Views.getChannelstateByCanonicalIdentifier chainState canonicalIdentifier with
    | none => .error (.raidenUnrecoverableError
        s!"Channel was not found before state_change {stateChangeIdentifier}")
    | some (_, channelState) => .ok channelState

end

/-! ## The locks of an older state -/

/-- A lock that was unlocked on-chain meanwhile, if the old state has it as locked. -/
def moveUnlocked
    (locks : Dict SecretHash HashTimeLockState × Dict SecretHash UnlockPartialProofState)
    (entry : SecretHash × UnlockPartialProofState) :
    Dict SecretHash HashTimeLockState × Dict SecretHash UnlockPartialProofState :=
  if entry.1 ∈ locks.1 then (locks.1.del entry.1, locks.2.set entry.1 entry.2) else locks

/-- The old state of an end with the lock information of its current state. -/
def updateLockInfo (oldState newState : NettingChannelEndState) (chainState : ChainState) :
    NettingChannelEndState :=
  -- no unlock can be processed after settlement
  let locked := oldState.secrethashesToUnlockedlocks.entries.foldl
    (fun locked entry => locked.set entry.1 entry.2.lock) oldState.secrethashesToLockedlocks
  let (locked, onchain) := newState.secrethashesToOnchainUnlockedlocks.entries.foldl moveUnlocked
    (locked, oldState.secrethashesToOnchainUnlockedlocks)
  { oldState with
    -- a lock without a payment task is not relevant to us
    secrethashesToLockedlocks := locked.filter fun secrethash => secrethash ∈ chainState.secrethashesToTask
    secrethashesToUnlockedlocks := .empty
    secrethashesToOnchainUnlockedlocks := onchain }

/-! ## The handler -/

section Handler

variable (raiden : RaidenService) (event : ContractSendChannelBatchUnlock) (chainState : ChainState)

/-- The tail of the error messages about a balance proof that is not found. -/
def searchDetails (channelState : NettingChannelState) : String :=
  let chainId := raiden.chainId
  let tokenNetwork := P.toChecksumAddress event.canonicalIdentifier.tokenNetworkAddress
  let channelIdentifier := event.canonicalIdentifier.channelIdentifier
  let participant := P.toChecksumAddress event.sender
  let ourLocksroot := encodeHex channelState.ourState.onchainLocksroot
  let partnerLocksroot := encodeHex channelState.partnerState.onchainLocksroot
  s!"chain_id:{chainId} token_network:{tokenNetwork} channel:{channelIdentifier} " ++
    s!"participant:{participant} our_locksroot:{ourLocksroot} partner_locksroot:{partnerLocksroot} "

section

variable (channelIdentifier : ChannelID) (channelState : NettingChannelState)

/-- The unlock of the partner's locks, from which we gain the registered ones. -/
def unlockPartner : Except HandlerError (List UnlockTransaction) :=
  let partnerLocksroot := channelState.partnerState.onchainLocksroot
  if partnerLocksroot = locksrootOfNoLocks P then .ok []
  else
    match getStateChangeWithBalanceProofByLocksroot raiden event.canonicalIdentifier partnerLocksroot
        channelState.partnerState.address with
    | none => .error (.raidenUnrecoverableError
        ("Failed to find state that matches the current channel locksroots. " ++
          searchDetails P raiden event channelState))
    | some stateChangeIdentifier => do
      let restored ← channelStateUntilStateChange raiden event.canonicalIdentifier stateChangeIdentifier
      let partnerState := updateLockInfo restored.partnerState channelState.partnerState chainState
      let gain := partnerState.secrethashesToOnchainUnlockedlocks.sum fun unlock => unlock.lock.amount
      if 0 < gain then
        .ok [⟨channelIdentifier, channelState.partnerState.address, channelState.ourState.address,
          partnerState.pendingLocks, event.triggeredByBlockHash⟩]
      else .ok []

/-- The unlock of our locks, from which we gain those nobody claimed. -/
def unlockOurs : Except HandlerError (List UnlockTransaction) :=
  let ourLocksroot := channelState.ourState.onchainLocksroot
  if ourLocksroot = locksrootOfNoLocks P then .ok []
  else
    match getEventWithBalanceProofByLocksroot raiden event.canonicalIdentifier ourLocksroot
        channelState.partnerState.address with
    | none => .error (.raidenUnrecoverableError
        ("Failed to find event that match current channel locksroots. " ++
          searchDetails P raiden event channelState))
    | some stateChangeIdentifier => do
      let restored ← channelStateUntilStateChange raiden event.canonicalIdentifier stateChangeIdentifier
      let ourState := updateLockInfo restored.ourState channelState.ourState chainState
      let gain := ourState.secrethashesToLockedlocks.sum fun lock => lock.amount
      if 0 < gain then
        .ok [⟨channelIdentifier, channelState.ourState.address, channelState.partnerState.address,
          ourState.pendingLocks, event.triggeredByBlockHash⟩]
      else .ok []

/-- The decision from the on-chain locksroots and the locks of one channel. A
transaction that was sent stays sent when the handler raises later. -/
def unlockChannel : Handled :=
  match unlockPartner P raiden event chainState channelIdentifier channelState with
  | .error err => ⟨[], some err⟩
  | .ok first =>
    match unlockOurs P raiden event chainState channelIdentifier channelState with
    | .error err => ⟨first, some err⟩
    | .ok second => ⟨first ++ second, none⟩

end

/-- The payment channel is the one the event names, the decision is made from
the channel that the partner's address leads to. -/
def handleContractSendChannelunlock : Handled :=
  match ChainState.Views.getChannelstateByCanonicalIdentifier raiden.chainState
      event.canonicalIdentifier with
  | none => ⟨[], some (.raidenUnrecoverableError
      "ContractSendChannelBatchUnlock for non-existing channel.")⟩
  | some (_, named) =>
    match ChainState.Views.getChannelstateByTokenNetworkAndPartner chainState
        event.canonicalIdentifier.tokenNetworkAddress event.sender with
    | .error err => ⟨[], some (.raised err)⟩
    | .ok none =>
      let partner := P.toChecksumAddress event.sender
      let tokenNetwork := P.toChecksumAddress event.canonicalIdentifier.tokenNetworkAddress
      ⟨[], some (.raidenUnrecoverableError
        s!"Failed to find channel state with partner:{partner}, token_network:{tokenNetwork}")⟩
    | .ok (some channelState) => unlockChannel P raiden event chainState named.identifier channelState

end Handler

end Raiden.EventHandler
