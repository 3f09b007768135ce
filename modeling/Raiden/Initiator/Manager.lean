import Raiden.Initiator.Transition

/-! # A payment of the initiator

The payment task holds the transfers the node started for one payment. A refund
lets the node try a further route under a new secret; the transfer that was
refunded stays until its lock is removed. -/
namespace Raiden.InitiatorManager

open Lib Channel Initiator

variable (P : Primitives) (M : FeeMargins) (tokenNetwork : TokenNetworkRef)

/-- The secrethash of the transfer that is to replace the refunded one. -/
def secrethash (change : ActionTransferReroute) : SecretHash :=
  P.sha256Secrethash change.secret

def channelRef (state : InitiatorTransferState) : ChannelRef := ⟨tokenNetwork, state.channelIdentifier⟩

/-- The task is cleared once it has no transfer. -/
def clearIfFinalized (iteration : Iteration (Option InitiatorPaymentState)) :
    Iteration (Option InitiatorPaymentState) :=
  { iteration with
    newState := iteration.newState.filter fun state => ¬state.initiatorTransfers.entries.isEmpty }

section

variable (payment : InitiatorPaymentState)

def transferExists (secrethash : SecretHash) : Bool :=
  secrethash ∈ payment.initiatorTransfers

def cancelOtherTransfers : InitiatorPaymentState :=
  { payment with
    initiatorTransfers := payment.initiatorTransfers.map fun _ state =>
      { state with transferState := .transferCancelled } }

def canCancel (state : InitiatorTransferState) : Bool := state.transferState ≠ .transferSecretRevealed

def eventsForCancelCurrentRoute (route : RouteState)
    (description : TransferDescriptionWithSecretState) : List Event :=
  [.eventUnlockFailed description.paymentIdentifier description.secrethash "route was canceled",
    .eventRouteFailed description.secrethash route.route description.tokenNetworkAddress]

def cancelCurrentRoute (state : InitiatorTransferState) :
    Fallible (InitiatorPaymentState × List Event) := do
  assert (canCancel state) "Cannot cancel a route after the secret is revealed"
  return ({ payment with cancelledChannels := payment.cancelledChannels ++ [state.channelIdentifier] },
    eventsForCancelCurrentRoute state.route state.transferDescription)

/-- Hand a state change to the transfer stored under `key`, with its channel. -/
def subdispatchToInitiatortransfer (key : SecretHash)
    (state : InitiatorTransferState) (change : PaymentStateChange) (channels : Channels)
    (blockNumber : Nat) : Handler (Iteration InitiatorPaymentState) := do
  let ref := channelRef tokenNetwork state
  match channels.get? ref with
  | none => return ⟨channels, payment, []⟩
  | some c =>
    let iteration ← Initiator.stateTransition P state change c blockNumber
    let channels := channels.set ref iteration.channel
    match iteration.newState with
    | some state => return ⟨channels, { payment with
        initiatorTransfers := payment.initiatorTransfers.set key state }, iteration.events⟩
    | none =>
      let own := state.transfer.lock.secrethash
      check (own ∈ payment.initiatorTransfers) .keyError
      return ⟨channels, { payment with
        initiatorTransfers := payment.initiatorTransfers.del own }, iteration.events⟩

/-- The loop over the keys the payment had at its start. -/
def subdispatchToAllInitiatortransfer (payment : InitiatorPaymentState) (change : PaymentStateChange)
    (channels : Channels) (blockNumber : Nat) :
    List SecretHash → Handler (Iteration InitiatorPaymentState)
  | [] => return ⟨channels, payment, []⟩
  | key :: keys => do
    let some state := payment.initiatorTransfers.get? key | throw .keyError
    let first ← subdispatchToInitiatortransfer P tokenNetwork payment key state change channels blockNumber
    let rest ← subdispatchToAllInitiatortransfer first.newState change first.channels blockNumber keys
    return ⟨rest.channels, rest.newState, first.events ++ rest.events⟩

def handleBlock (change : Block) (channels : Channels)
    (blockNumber : Nat) : Handler (Iteration InitiatorPaymentState) :=
  subdispatchToAllInitiatortransfer P tokenNetwork payment (.block change) channels blockNumber
    payment.initiatorTransfers.keys

end

/-- A payment that already runs is not started again. -/
def handleInit (payment : Option InitiatorPaymentState) (change : ActionInitInitiator)
    (channels : Channels) (addressesToChannel : AddressesToChannel) (blockNumber : Nat) :
    Handler (Iteration (Option InitiatorPaymentState)) := do
  match payment with
  | some payment => return ⟨channels, some payment, []⟩
  | none =>
    let iteration ← tryNewRoute P M channels addressesToChannel change.routes change.transfer blockNumber
    return ⟨iteration.channels, iteration.newState.map fun state => {
        routes := change.routes
        initiatorTransfers := Dict.empty.set state.transfer.lock.secrethash state }, iteration.events⟩

def cancelTransfers (channels : Channels) : List (SecretHash × InitiatorTransferState) →
    InitiatorPaymentState → Fallible (InitiatorPaymentState × List Event)
  | [], payment => .ok (payment, [])
  | (key, state) :: rest, payment => do
    match channels.get? (channelRef tokenNetwork state) with
    | none => cancelTransfers channels rest payment
    | some c =>
      if canCancel state then
        let (payment, cancelEvents) ← cancelCurrentRoute payment state
        let payment := { payment with
          initiatorTransfers := payment.initiatorTransfers.set key
            { state with transferState := .transferCancelled } }
        let cancel : Event := .eventPaymentSentFailed c.tokenNetworkRegistryAddress c.tokenNetworkAddress
          state.transferDescription.paymentIdentifier state.transferDescription.target
          "user canceled payment"
        let (payment, events) ← cancelTransfers channels rest payment
        return (payment, cancelEvents ++ [cancel] ++ events)
      else cancelTransfers channels rest payment

section

variable (payment : InitiatorPaymentState)

def handleCancelpayment (channels : Channels) :
    Fallible (Iteration InitiatorPaymentState) := do
  let (payment, events) ←
    cancelTransfers tokenNetwork channels payment.initiatorTransfers.entries payment
  return ⟨channels, payment, events⟩

def handleFailroute (change : ReceiveTransferCancelRoute)
    (channels : Channels) : Fallible (Iteration InitiatorPaymentState) := do
  match payment.initiatorTransfers.get? change.transfer.lock.secrethash with
  | none => return ⟨channels, payment, []⟩
  | some state =>
    if canCancel state then
      let (payment, events) ← cancelCurrentRoute payment state
      return ⟨channels, payment, events⟩
    else return ⟨channels, payment, []⟩

/-- The description of the transfer that replaces a refunded one. -/
def rerouted (old : TransferDescriptionWithSecretState) (change : ActionTransferReroute) :
    TransferDescriptionWithSecretState where
  tokenNetworkRegistryAddress := old.tokenNetworkRegistryAddress
  paymentIdentifier := old.paymentIdentifier
  amount := old.amount
  tokenNetworkAddress := old.tokenNetworkAddress
  initiator := old.initiator
  target := old.target
  secret := change.secret
  secrethash := secrethash P change

def isValidRefundLock (refund : LockedTransferSignedState) (original : LockedTransferUnsignedState) :
    Bool :=
  refund.lock.secrethash = original.lock.secrethash ∧ refund.lock.amount = original.lock.amount ∧
    refund.lock.expiration = original.lock.expiration

/-- The channel takes the refund before the refund is compared with the transfer. -/
def handleTransferreroute (change : ActionTransferReroute)
    (channels : Channels) (addressesToChannel : AddressesToChannel) (blockNumber : Nat) :
    Handler (Iteration InitiatorPaymentState) := do
  match payment.initiatorTransfers.get? change.transfer.lock.secrethash with
  | none => return ⟨channels, payment, []⟩
  | some state =>
    let ref := channelRef tokenNetwork state
    match channels.get? ref with
    | none => return ⟨channels, payment, []⟩
    | some c =>
      let refund := change.transfer
      let recipientMetadata := getAddressMetadata c.partnerState.address payment.routes
      let (c, received) := handleReceiveLockedtransfer P c refund recipientMetadata
      let channels := channels.set ref c
      if isValidRefundLock refund state.transfer = false ∨
          refundTransferMatchesTransfer refund state.transfer = false ∨ received.isValid = false then
        return ⟨channels, payment, []⟩
      else
        let old := state.transferDescription
        let filteredRouteStates := filterAcceptableRoutes payment.routes payment.cancelledChannels
          channels addressesToChannel old.tokenNetworkAddress c.ourState.address
        let iteration ← tryNewRoute P M channels addressesToChannel filteredRouteStates
          (rerouted P old change) blockNumber
        match iteration.newState with
        -- the task stays for the expiration of the refund
        | none => return ⟨iteration.channels, payment, received.events ++ iteration.events⟩
        | some new => return ⟨iteration.channels, { payment with
            initiatorTransfers := payment.initiatorTransfers.set new.transfer.lock.secrethash new },
            received.events ++ iteration.events⟩

def handleLockExpired (change : ReceiveLockExpired)
    (channels : Channels) (blockNumber : Nat) : Iteration InitiatorPaymentState :=
  match payment.initiatorTransfers.get? change.secrethash with
  | none => ⟨channels, payment, []⟩
  | some state =>
    let ref := channelRef tokenNetwork state
    match channels.get? ref with
    | none => ⟨channels, payment, []⟩
    | some c =>
      let transfer := state.transfer
      let result := handleReceiveLockExpired P c change blockNumber
        (getAddressMetadata c.partnerState.address payment.routes)
      let unlockFailed : List Event :=
        if (getLock result.newState.partnerState transfer.lock.secrethash).isNone then
          [.eventUnlockClaimFailed transfer.paymentIdentifier transfer.lock.secrethash "Lock expired"]
        else []
      ⟨channels.set ref result.newState, payment, result.events ++ unlockFailed⟩

/-- A reveal that unlocked the transfer cancels the others. -/
def cancelOthersIfUnlocked (secrethash : SecretHash) (iteration : Iteration InitiatorPaymentState) :
    Iteration InitiatorPaymentState :=
  if transferExists iteration.newState secrethash then iteration
  else { iteration with newState := cancelOtherTransfers iteration.newState }

/-- The handler of both reveals; `msg` is the text of the assertion. -/
def handleSecretreveal (change : PaymentStateChange)
    (secrethash : SecretHash) (msg : String) (channels : Channels) (blockNumber : Nat) :
    Handler (Iteration InitiatorPaymentState) := do
  match payment.initiatorTransfers.get? secrethash with
  | none => return ⟨channels, payment, []⟩
  | some state =>
    assert (state.transferState ≠ .transferCancelled) msg
    let iteration ← subdispatchToInitiatortransfer P tokenNetwork payment secrethash state change
      channels blockNumber
    return cancelOthersIfUnlocked secrethash iteration

def handleOffchainSecretreveal (change : ReceiveSecretReveal)
    (channels : Channels) (blockNumber : Nat) : Handler (Iteration InitiatorPaymentState) :=
  handleSecretreveal P tokenNetwork payment (.receiveSecretReveal change) (change.secrethash P)
    "Can't handle reveal for cancelled transfer" channels blockNumber

def handleOnchainSecretreveal (change : ContractReceiveSecretReveal)
    (channels : Channels) (blockNumber : Nat) : Handler (Iteration InitiatorPaymentState) :=
  handleSecretreveal P tokenNetwork payment (.contractReceiveSecretReveal change) change.secrethash
    "Must not reveal secret for cancelled payment" channels blockNumber

def handleSecretrequest (change : ReceiveSecretRequest)
    (channels : Channels) (blockNumber : Nat) : Handler (Iteration InitiatorPaymentState) :=
  match payment.initiatorTransfers.get? change.secrethash with
  | none => return ⟨channels, payment, []⟩
  | some state =>
    if state.transferState = .transferCancelled then return ⟨channels, payment, []⟩
    else subdispatchToInitiatortransfer P tokenNetwork payment change.secrethash state
      (.receiveSecretRequest change) channels blockNumber

end

/-! ## The state machine -/

/-- The text of the assertion that a task exists, for the state changes that need one. -/
def requiresPayment : PaymentStateChange → Option String
  | .block _ => some "Block state changes should be accompanied by a valid payment state"
  | .receiveTransferCancelRoute _ =>
    some "ReceiveTransferCancelRoute should be accompanied by a valid payment state"
  | .actionTransferReroute _ =>
    some "ActionTransferReroute should be accompanied by a valid payment state"
  | .receiveSecretRequest _ =>
    some "ReceiveSecretRequest should be accompanied by a valid payment state"
  | .actionCancelPayment _ =>
    some "ActionCancelPayment should be accompanied by a valid payment state"
  | .receiveSecretReveal _ =>
    some "ReceiveSecretReveal should be accompanied by a valid payment state"
  | .receiveLockExpired _ =>
    some "ReceiveLockExpired should be accompanied by a valid payment state"
  | .contractReceiveSecretReveal _ =>
    some "ContractReceiveSecretReveal should be accompanied by a valid payment state"
  | _ => none

def handleRunning (payment : InitiatorPaymentState) (change : PaymentStateChange) (channels : Channels)
    (addressesToChannel : AddressesToChannel) (blockNumber : Nat) :
    Handler (Iteration InitiatorPaymentState) :=
  match change with
  | .block change => handleBlock P tokenNetwork payment change channels blockNumber
  | .receiveTransferCancelRoute change => handleFailroute payment change channels
  | .actionTransferReroute change =>
    handleTransferreroute P M tokenNetwork payment change channels addressesToChannel blockNumber
  | .receiveSecretRequest change => handleSecretrequest P tokenNetwork payment change channels blockNumber
  | .actionCancelPayment _ => handleCancelpayment tokenNetwork payment channels
  | .receiveSecretReveal change =>
    handleOffchainSecretreveal P tokenNetwork payment change channels blockNumber
  | .receiveLockExpired change =>
    return handleLockExpired P tokenNetwork payment change channels blockNumber
  | .contractReceiveSecretReveal change =>
    handleOnchainSecretreveal P tokenNetwork payment change channels blockNumber
  | _ => return ⟨channels, payment, []⟩

variable (payment : Option InitiatorPaymentState) (change : PaymentStateChange)
  (channels : Channels) (addressesToChannel : AddressesToChannel) (blockNumber : Nat)

/-- The transition before finished payments are cleared. -/
def handleStateChange :
    Handler (Iteration (Option InitiatorPaymentState)) := do
  match payment, change, requiresPayment change with
  | payment, .actionInitInitiator change, _ =>
    handleInit P M payment change channels addressesToChannel blockNumber
  | none, _, some msg => throw (.assertionError msg)
  | none, _, none => return ⟨channels, none, []⟩
  | some payment, change, _ =>
    let iteration ← handleRunning P M tokenNetwork payment change channels addressesToChannel blockNumber
    return ⟨iteration.channels, some iteration.newState, iteration.events⟩

def stateTransition :
    Handler (Iteration (Option InitiatorPaymentState)) := do
  let iteration ← handleStateChange P M tokenNetwork payment change channels addressesToChannel blockNumber
  return clearIfFinalized iteration

end Raiden.InitiatorManager
