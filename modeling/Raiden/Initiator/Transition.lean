import Raiden.Task

/-! # A transfer of the initiator

The state machine of one transfer the node started for a payment of its own: it
reveals the secret to the target on request, unlocks the transfer once the next
hop proves that it knows the secret, and removes the lock once it expired. -/
namespace Raiden.Initiator

open Lib Channel

/-- The floating-point margins of a payment; `none` is a float overflow. -/
structure FeeMargins where
  /-- The rounded margin for an amount and the absolute value of a fee that is not zero. -/
  margin : Nat → Nat → Option Nat
  /-- How much the fees may add to an amount. -/
  maxFee : Nat → Option Nat

variable (P : Primitives) (M : FeeMargins)

def raiseOverflow {α : Type} : Option α → Fallible α
  | some a => .ok a
  | none => .error .overflowError

def calculateFeeMargin (paymentAmount : Nat) (estimatedFee : Int) : Fallible Nat :=
  if estimatedFee = 0 then .ok 0 else raiseOverflow (M.margin paymentAmount estimatedFee.natAbs)

def calculateSafeAmountWithFee (paymentAmount : Nat) (estimatedFee : Int) : Fallible Int := do
  let margin ← calculateFeeMargin M paymentAmount estimatedFee
  return paymentAmount + estimatedFee + margin

structure TransferIteration where
  channel : NettingChannelState
  newState : Option InitiatorTransferState
  events : List Event

variable (state : InitiatorTransferState)

/-- The report of a payment whose lock was unlocked off-chain. -/
def eventsForUnlock (c : NettingChannelState) (secret : Secret) (unlock : SendUnlock) : List Event :=
  let description := state.transferDescription
  [.sendUnlock unlock,
    .eventPaymentSentSuccess {
      tokenNetworkRegistryAddress := c.tokenNetworkRegistryAddress
      tokenNetworkAddress := c.tokenNetworkAddress
      identifier := description.paymentIdentifier
      amount := description.amount
      target := description.target
      secret
      route := state.route.route },
    .eventUnlockSuccess description.paymentIdentifier description.secrethash]

def eventsForUnlockLock (c : NettingChannelState) (secret : Secret)
    (secrethash : SecretHash) (blockNumber : Nat) : Handler (NettingChannelState × List Event) := do
  let messageIdentifier ← messageIdentifierFromPrng
  let (c, unlockLock) ← sendUnlock P c messageIdentifier state.transferDescription.paymentIdentifier secret
    secrethash blockNumber (getAddressMetadata c.partnerState.address [state.route])
  return (c, eventsForUnlock state c secret unlockLock)

/-- Why an expired transfer failed. -/
def expiredReason : String :=
  if state.receivedSecretRequest then "lock expired, despite receiving secret request"
  else "lock expired"

def eventsForExpired : List Event :=
  let description := state.transferDescription
  [.eventPaymentSentFailed description.tokenNetworkRegistryAddress description.tokenNetworkAddress
      description.paymentIdentifier description.target (expiredReason state),
    .eventRouteFailed state.transfer.lock.secrethash state.route.route description.tokenNetworkAddress,
    .eventUnlockFailed description.paymentIdentifier description.secrethash (expiredReason state)]

def removeExpiredLock (c : NettingChannelState)
    (lockedLock : HashTimeLockState) : Handler (NettingChannelState × List Event) :=
  if getStatus c = .opened then
    sendLockExpired P c lockedLock (getAddressMetadata c.partnerState.address [state.route])
  else return (c, [])

def handleBlock (change : Block) (c : NettingChannelState) :
    Handler TransferIteration := do
  let secrethash := state.transfer.lock.secrethash
  match c.ourState.secrethashesToLockedlocks.get? secrethash with
  | none =>
    if secrethash ∈ c.partnerState.secrethashesToLockedlocks then return ⟨c, some state, []⟩
    else return ⟨c, none, []⟩
  | some lockedLock =>
    let lockHasExpired := isLockExpired c.ourState lockedLock change.blockNumber
      (getSenderExpirationThreshold lockedLock.expiration)
    if lockHasExpired.isOk = true ∧ state.transferState ≠ .transferExpired then
      let (c, events) ← removeExpiredLock P state c lockedLock
      let failed := eventsForExpired state
      -- the task stays until the removal of the lock is synchronized
      if lockExistsInEitherChannelSide secrethash c then
        return ⟨c, some { state with transferState := .transferExpired }, events ++ failed⟩
      else return ⟨c, none, events ++ failed⟩
    else return ⟨c, some state, []⟩

/-! ## A new route -/

/-- The route a transfer takes and the channel of its first hop. -/
structure ChosenRoute where
  route : RouteState
  ref : ChannelRef
  channel : NettingChannelState

/-- The first usable candidate, and whether one was left out because of its fees. -/
def chooseRoute (channels : Channels) (addressesToChannel : AddressesToChannel)
    (description : TransferDescriptionWithSecretState) (ourAddress : Address) :
    List RouteState → Bool → Fallible (Option ChosenRoute × Bool)
  | [], routeFeeExceedsMax => .ok (none, routeFeeExceedsMax)
  | route :: routes, routeFeeExceedsMax =>
    let found := (route.hopAfter ourAddress).bind fun nextHop =>
      (addressesToChannel.get? (description.tokenNetworkAddress, nextHop)).bind fun ref =>
        (channels.get? ref).map (ChosenRoute.mk route ref)
    match found with
    | none => chooseRoute channels addressesToChannel description ourAddress routes routeFeeExceedsMax
    | some candidate => do
      let amountWithFee ← calculateSafeAmountWithFee M description.amount route.estimatedFee
      let maxFee ← raiseOverflow (M.maxFee description.amount)
      if ((description.amount + maxFee : Nat) : Int) < amountWithFee then
        chooseRoute channels addressesToChannel description ourAddress routes true
      else if isChannelUsableForNewTransfer P candidate.channel amountWithFee
          (description.lockTimeout.map Int.ofNat) = .usable then
        return (some candidate, routeFeeExceedsMax)
      else chooseRoute channels addressesToChannel description ourAddress routes routeFeeExceedsMax

def sendLockedtransfer (description : TransferDescriptionWithSecretState) (c : NettingChannelState)
    (messageIdentifier : MessageID) (blockNumber : Nat) (route : RouteState)
    (routeStates : List RouteState) : Fallible (NettingChannelState × SendLockedTransfer) := do
  assert (c.tokenNetworkAddress = description.tokenNetworkAddress) "token_network_address mismatch"
  let totalAmount ← calculateSafeAmountWithFee M description.amount route.estimatedFee
  Channel.sendLockedtransfer P c {
    initiator := description.initiator
    target := description.target
    amount := totalAmount
    messageIdentifier
    paymentIdentifier := description.paymentIdentifier
    expiration := getSafeInitialExpiration blockNumber c.revealTimeout description.lockTimeout
    secret := some description.secret
    secrethash := description.secrethash
    routeStates
    recipientMetadata := getAddressMetadata c.partnerState.address routeStates }

def noRouteReason (routeFeeExceedsMax : Bool) : String :=
  "None of the available routes could be used" ++
    if routeFeeExceedsMax then
      " and at least one of them exceeded the maximum fee limit " ++
        "(see https://raiden-network.readthedocs.io/en/stable/using-raiden-on-mainnet/overview.html" ++
        "#frequently-asked-questions)"
    else ""

/-- Without any channel no route can be tried. -/
def chooseCandidate (channels : Channels) (addressesToChannel : AddressesToChannel)
    (candidateRouteStates : List RouteState) (description : TransferDescriptionWithSecretState) :
    Fallible (Option ChosenRoute × Bool) :=
  match addressesToChannel.values.head?.bind channels.get? with
  | none => .ok (none, false)
  | some anyChannel =>
    chooseRoute P M channels addressesToChannel description anyChannel.ourState.address
      candidateRouteStates false

def tryNewRoute (channels : Channels) (addressesToChannel : AddressesToChannel)
    (candidateRouteStates : List RouteState) (description : TransferDescriptionWithSecretState)
    (blockNumber : Nat) : Handler (Iteration (Option InitiatorTransferState)) := do
  match ← chooseCandidate P M channels addressesToChannel candidateRouteStates description with
  | (none, routeFeeExceedsMax) =>
    return ⟨channels, none, [.eventPaymentSentFailed description.tokenNetworkRegistryAddress
      description.tokenNetworkAddress description.paymentIdentifier description.target
      (noRouteReason routeFeeExceedsMax)]⟩
  | (some chosen, _) =>
    let messageIdentifier ← messageIdentifierFromPrng
    let (c, lockedtransferEvent) ← sendLockedtransfer P M description chosen.channel messageIdentifier
      blockNumber chosen.route candidateRouteStates
    return ⟨channels.set chosen.ref c, some {
        route := chosen.route
        transferDescription := description
        channelIdentifier := c.identifier
        transfer := lockedtransferEvent.transfer },
      [.sendLockedTransfer lockedtransferEvent]⟩

/-! ## Secrets -/

def isMessageFromTarget (change : ReceiveSecretRequest) : Bool :=
  change.sender = state.transferDescription.target ∧
    change.secrethash = state.transferDescription.secrethash ∧
    change.paymentIdentifier = state.transferDescription.paymentIdentifier

def revealEvent (messageIdentifier : MessageID) : SendSecretReveal where
  recipient := state.transferDescription.target
  recipientMetadata := getAddressMetadata state.transferDescription.target [state.route]
  canonicalIdentifier := canonicalIdentifierUnorderedQueue
  messageIdentifier
  secret := state.transferDescription.secret

def handleSecretrequest (change : ReceiveSecretRequest)
    (c : NettingChannelState) : Handler TransferIteration := do
  let description := state.transferDescription
  if isMessageFromTarget state change = false then return ⟨c, some state, []⟩
  else
    let some lock := getLock c.ourState description.secrethash
      | throw (.assertionError "channel is does not have the transfer's lock")
    if state.receivedSecretRequest then return ⟨c, some state, []⟩
    else if description.amount ≤ change.amount ∧ change.expiration = lock.expiration ∧
        description.secret ≠ absentSecret then
      let messageIdentifier ← messageIdentifierFromPrng
      return ⟨c, some { state with
          transferState := .transferSecretRevealed
          receivedSecretRequest := true },
        [.sendSecretReveal (revealEvent state messageIdentifier)]⟩
    else
      return ⟨c, some { state with receivedSecretRequest := true },
        [.eventInvalidSecretRequest change.paymentIdentifier description.amount change.amount]⟩

def handleOffchainSecretreveal (change : ReceiveSecretReveal)
    (c : NettingChannelState) (blockNumber : Nat) : Handler TransferIteration := do
  let lock := state.transfer.lock
  let expired := isLockExpired c.ourState lock blockNumber lock.expiration
  if change.secrethash P = state.transferDescription.secrethash ∧ getStatus c = .opened ∧
      change.sender = c.partnerState.address ∧ expired.isOk = false then
    let (c, events) ← eventsForUnlockLock P state c change.secret (change.secrethash P) blockNumber
    return ⟨c, none, events⟩
  else return ⟨c, some state, []⟩

def handleOnchainSecretreveal (change : ContractReceiveSecretReveal)
    (c : NettingChannelState) (blockNumber : Nat) : Handler TransferIteration := do
  let lock := state.transfer.lock
  if change.secrethash = state.transferDescription.secrethash ∧ change.blockNumber ≤ lock.expiration then
    let status := getStatus c
    let c ← registerOnchainSecret c change.secret state.transferDescription.secrethash change.blockNumber
    let expired := isLockExpired c.ourState lock blockNumber lock.expiration
    if status = .opened ∧ expired.isOk = false then
      let (c, events) ← eventsForUnlockLock P state c change.secret change.secrethash blockNumber
      return ⟨c, none, events⟩
    else return ⟨c, some state, []⟩
  else return ⟨c, some state, []⟩

def stateTransition (change : PaymentStateChange)
    (c : NettingChannelState) (blockNumber : Nat) : Handler TransferIteration :=
  match change with
  | .block change => handleBlock P state change c
  | .receiveSecretRequest change => handleSecretrequest state change c
  | .receiveSecretReveal change => handleOffchainSecretreveal P state change c blockNumber
  | .contractReceiveSecretReveal change => handleOnchainSecretreveal P state change c blockNumber
  | _ => return ⟨c, some state, []⟩

end Raiden.Initiator
