import Raiden.Task

/-! # The target

The state machine of the node a payment is meant for. Its task lives as long as
the received lock is pending in the channel it came through. One field of the
task says whether the secret was requested, learned, is being registered
on-chain, was registered, or whether the lock was reported as expired. -/
namespace Raiden.Target

open Lib Channel

variable (P : Primitives)

structure TargetIteration where
  channel : NettingChannelState
  newState : Option TargetTransferState
  events : List Event

def sanityCheck (oldState newState : Option TargetTransferState) (c : NettingChannelState) :
    Fallible Unit :=
  match oldState, newState with
  | some old, none =>
    assert (getLock c.partnerState old.transfer.lock.secrethash = none)
      "The lock must be cleared once the task exists"
  | _, some new =>
    assert (getLock c.partnerState new.transfer.lock.secrethash ≠ none)
      "The lock must not be cleared while the task is running"
  | none, none => .ok ()

/-- Register the secret on-chain if the transfer cannot be settled off-chain. -/
def eventsForOnchainSecretreveal (state : TargetTransferState) (c : NettingChannelState)
    (blockNumber : Nat) (blockHash : BlockHash) : Fallible (TargetTransferState × List Event) := do
  let lock := state.transfer.lock
  let safeToWait ← isSafeToWait lock.expiration c.revealTimeout blockNumber
  if safeToWait.isOk = false ∧ isSecretKnownOffchain c.partnerState lock.secrethash = true ∧
      state.state ≠ .onchainSecretReveal then
    match getSecret c.partnerState lock.secrethash with
    | some (b :: rest) =>
      return ({ state with state := .onchainSecretReveal },
        Raiden.eventsForOnchainSecretreveal c (b :: rest) lock.expiration blockHash)
    | _ => throw (.assertionError "secret should be known at this point")
  else return (state, [])

def secretRequest (transfer : LockedTransferSignedState) (messageIdentifier : MessageID) : Event :=
  .sendSecretRequest {
    recipient := transfer.initiator
    recipientMetadata := transfer.initiatorAddressMetadata
    canonicalIdentifier := canonicalIdentifierUnorderedQueue
    messageIdentifier
    paymentIdentifier := transfer.paymentIdentifier
    amount := transfer.lock.amount
    expiration := transfer.lock.expiration
    secrethash := transfer.lock.secrethash }

def handleInittarget (change : ActionInitTarget) (c : NettingChannelState) (blockNumber : Nat) :
    Handler TargetIteration := do
  let transfer := change.transfer
  assert (c.identifier = transfer.balanceProof.channelIdentifier)
    "channel_id mismatch in handle_inittarget"
  let (c, received) := handleReceiveLockedtransfer P c transfer transfer.payerAddressMetadata
  if received.isValid then
    let state : TargetTransferState := { fromHop := change.fromHop, transfer }
    if change.receivedValidSecret then return ⟨c, some state, received.events⟩
    else
      let safeToWait ← isSafeToWait transfer.lock.expiration c.revealTimeout blockNumber
      if safeToWait.isOk then
        let messageIdentifier ← messageIdentifierFromPrng
        return ⟨c, some state, received.events ++ [secretRequest transfer messageIdentifier]⟩
      -- a lock that is too near to its expiration is left to expire
      else return ⟨c, some state, received.events⟩
  else
    assert (received.msg.any (· ≠ "") = true)
      "handle_receive_lockedtransfer should return error msg if not valid"
    return ⟨c, none, received.events ++ [.eventUnlockClaimFailed transfer.paymentIdentifier
      transfer.lock.secrethash (received.msg.getD "")]⟩

def handleOffchainSecretreveal (state : TargetTransferState) (change : ReceiveSecretReveal)
    (c : NettingChannelState) (blockNumber : Nat) : Handler TargetIteration := do
  if change.secrethash P = state.transfer.lock.secrethash ∧
      isTransferExpired state.transfer c blockNumber = false then
    let messageIdentifier ← messageIdentifierFromPrng
    return ⟨registerOffchainSecret c change.secret (change.secrethash P),
      some { state with state := .offchainSecretReveal, secret := some change.secret },
      [.sendSecretReveal {
        recipient := state.fromHop.nodeAddress
        recipientMetadata := state.transfer.payerAddressMetadata
        canonicalIdentifier := canonicalIdentifierUnorderedQueue
        messageIdentifier
        secret := change.secret }]⟩
  else return ⟨c, some state, []⟩

def handleOnchainSecretreveal (state : TargetTransferState) (change : ContractReceiveSecretReveal)
    (c : NettingChannelState) : Fallible TargetIteration := do
  if change.secrethash = state.transfer.lock.secrethash then
    let c ← registerOnchainSecret c change.secret change.secrethash change.blockNumber
    return ⟨c, some { state with state := .onchainUnlock, secret := some change.secret }, []⟩
  else return ⟨c, some state, []⟩

def handleUnlock (state : TargetTransferState) (change : ReceiveUnlock) (c : NettingChannelState) :
    Fallible TargetIteration := do
  let transfer := state.transfer
  let (c, received) ← Channel.handleUnlock P c change transfer.payerAddressMetadata
  if received.isValid then
    return ⟨c, none, received.events ++
      [.eventPaymentReceivedSuccess c.tokenNetworkRegistryAddress c.tokenNetworkAddress
          transfer.paymentIdentifier transfer.lock.amount transfer.initiator,
        .eventUnlockClaimSuccess transfer.paymentIdentifier transfer.lock.secrethash]⟩
  else return ⟨c, some state, received.events⟩

def lockExpiredReason : String := "lock expired"

def handleBlock (state : TargetTransferState) (c : NettingChannelState) (blockNumber : Nat)
    (blockHash : BlockHash) : Fallible TargetIteration := do
  let lock := state.transfer.lock
  let lockHasExpired := isLockExpired c.ourState lock blockNumber
    (getReceiverExpirationThreshold lock.expiration)
  if lockHasExpired.isOk = true ∧ state.state ≠ .expired then
    return ⟨c, some { state with state := .expired },
      [.eventUnlockClaimFailed state.transfer.paymentIdentifier lock.secrethash lockExpiredReason]⟩
  else if isSecretKnown c.partnerState lock.secrethash then
    let (state, events) ← eventsForOnchainSecretreveal state c blockNumber blockHash
    return ⟨c, some state, events⟩
  else return ⟨c, some state, []⟩

def handleLockExpired (state : TargetTransferState) (change : ReceiveLockExpired)
    (c : NettingChannelState) (blockNumber : Nat) : TargetIteration :=
  let result := handleReceiveLockExpired P c change blockNumber state.transfer.payerAddressMetadata
  if (getLock result.newState.partnerState state.transfer.lock.secrethash).isNone then
    ⟨result.newState, none, result.events ++ [.eventUnlockClaimFailed state.transfer.paymentIdentifier
      state.transfer.lock.secrethash "Lock expired"]⟩
  else ⟨result.newState, some state, result.events⟩

/-! ## The state machine -/

variable (state : Option TargetTransferState) (change : PaymentStateChange)
  (c : NettingChannelState) (blockNumber : Nat)

/-- The transition before the final check. -/
def handleStateChange : Handler TargetIteration :=
  match change, state with
  | .actionInitTarget change, none => handleInittarget P change c blockNumber
  | .block change, state => do
    assert (change.blockNumber = blockNumber) "Block number mismatch"
    match state with
    | some state => handleBlock state c change.blockNumber change.blockHash
    | none =>
      throw (.assertionError "Block state changes should be accompanied by a valid target state")
  | .receiveSecretReveal change, some state => handleOffchainSecretreveal P state change c blockNumber
  | .receiveSecretReveal _, none =>
    throw (.assertionError "ReceiveSecretReveal should be accompanied by a valid target state")
  | .contractReceiveSecretReveal change, some state => handleOnchainSecretreveal state change c
  | .contractReceiveSecretReveal _, none =>
    throw (.assertionError "ContractReceiveSecretReveal should be accompanied by a valid target state")
  | .receiveUnlock change, some state => handleUnlock P state change c
  | .receiveUnlock _, none =>
    throw (.assertionError "ReceiveUnlock should be accompanied by a valid target state")
  | .receiveLockExpired change, some state => return handleLockExpired P state change c blockNumber
  | .receiveLockExpired _, none =>
    throw (.assertionError "ReceiveLockExpired should be accompanied by a valid target state")
  | _, state => return ⟨c, state, []⟩

def stateTransition : Handler TargetIteration := do
  let iteration ← handleStateChange P state change c blockNumber
  sanityCheck state iteration.newState iteration.channel
  return iteration

end Raiden.Target
