import Raiden.Task

/-! # The mediator

The state machine of a node that forwards a payment. Every received transfer
that was forwarded is one pair of a payer and a payee transfer; a refund of the
last payee starts a further pair, so one payment can pass the node several
times. A received transfer without a usable route waits for a later block. -/
namespace Raiden.Mediator

open Lib Channel

variable (P : Primitives) (tokenNetwork : TokenNetworkRef)

/-! ## States of a pair -/

def payeeSecretKnown : PayeeState → Bool
  | .payeeSecretRevealed | .payeeContractUnlock | .payeeBalanceProof => true
  | _ => false

def payerSecretKnown : PayerState → Bool
  | .payerSecretRevealed | .payerWaitingUnlock | .payerBalanceProof => true
  | _ => false

def payeePaid : PayeeState → Bool
  | .payeeContractUnlock | .payeeBalanceProof => true
  | _ => false

def payerPaid : PayerState → Bool
  | .payerBalanceProof => true
  | _ => false

def payeeFinal : PayeeState → Bool
  | .payeeContractUnlock | .payeeBalanceProof | .payeeExpired => true
  | _ => false

def payerFinal : PayerState → Bool
  | .payerBalanceProof | .payerExpired => true
  | _ => false

def isPendingPair (pair : MediationPairState) : Bool :=
  !payeeFinal pair.payeeState || !payerFinal pair.payerState

def isSendTransferAlmostEqual (send : LockedTransferUnsignedState)
    (received : LockedTransferSignedState) : Bool :=
  send.paymentIdentifier = received.paymentIdentifier ∧ send.token = received.token ∧
    send.lock.expiration = received.lock.expiration ∧
    send.lock.secrethash = received.lock.secrethash ∧
    send.initiator = received.initiator ∧ send.target = received.target

/-! ## The channels of a pair -/

def channelRef (channelIdentifier : ChannelID) : ChannelRef := ⟨tokenNetwork, channelIdentifier⟩

def payeeRef (pair : MediationPairState) : ChannelRef :=
  channelRef tokenNetwork pair.payeeTransfer.balanceProof.channelIdentifier

def payerRef (pair : MediationPairState) : ChannelRef :=
  channelRef tokenNetwork pair.payerTransfer.balanceProof.channelIdentifier

def waitingRef (waiting : WaitingTransferState) : ChannelRef :=
  channelRef tokenNetwork waiting.transfer.balanceProof.channelIdentifier

section

variable (channels : Channels)

def getPayeeChannel (pair : MediationPairState) : Option NettingChannelState :=
  channels.get? (payeeRef tokenNetwork pair)

def getPayerChannel (pair : MediationPairState) : Option NettingChannelState :=
  channels.get? (payerRef tokenNetwork pair)

def hasSecretRegistrationStarted (transfersPair : List MediationPairState)
    (secrethash : SecretHash) : Bool :=
  (transfersPair.filterMap (getPayerChannel tokenNetwork channels)).any
      (fun payerChannel => isSecretKnownOnchain payerChannel.partnerState secrethash) ||
    transfersPair.any fun pair => pair.payerState = .payerWaitingSecretReveal

/-! ## Checks after a transition -/

/-- The part of `sanity_check` about one pair; a missing channel may have been removed. -/
def sanityCheckPair (pair : MediationPairState) : Fallible Unit :=
  match getPayeeChannel tokenNetwork channels pair with
  | none => .ok ()
  | some _ =>
    assert (isSendTransferAlmostEqual pair.payeeTransfer pair.payerTransfer)
      "Payee and payer transfers are too different"

def sanityCheckRefund (original refund : MediationPairState) : Fallible Unit := do
  assert (original.payeeAddress = refund.payerAddress) "payee/payer address mismatch"
  match getPayerChannel tokenNetwork channels refund with
  | none => return
  | some _ =>
    assert (isSendTransferAlmostEqual original.payeeTransfer refund.payerTransfer)
      "Payee and payer transfers are too different (refund)"

def sanityCheckWaiting (state : MediatorTransferState) (channels : Channels) : Fallible Unit :=
  match state.waitingTransfer, state.transfersPair.getLast? with
  | some waiting, some last =>
    match getPayeeChannel tokenNetwork channels last with
    | none => .ok ()
    | some _ =>
      assert (isSendTransferAlmostEqual last.payeeTransfer waiting.transfer)
        "Payee and payer transfers are too different (waiting transfer)"
  | _, _ => .ok ()

def sanityCheck (state : MediatorTransferState) (channels : Channels) : Fallible Unit := do
  assert ((state.transfersPair.any fun pair => payeePaid pair.payeeState || payerPaid pair.payerState) =
    true → state.secret.isSome = true) "Mediator's state must have secret"
  assert (state.transfersPair.head?.all (fun first =>
    state.secrethash = first.payerTransfer.lock.secrethash) = true) "Secret hash mismatch"
  state.transfersPair.forM (sanityCheckPair tokenNetwork channels)
  (state.transfersPair.zip state.transfersPair.tail).forM fun (original, refund) =>
    sanityCheckRefund tokenNetwork channels original refund
  sanityCheckWaiting tokenNetwork state channels

def hasPendingLock (state : MediatorTransferState) (channels : Channels) : Bool :=
  (state.transfersPair.any fun pair =>
    (getPayerChannel tokenNetwork channels pair).any
        (fun c => isLockPending c.partnerState state.secrethash) ||
      (getPayeeChannel tokenNetwork channels pair).any
        fun c => isLockPending c.ourState state.secrethash) ||
  state.waitingTransfer.any fun waiting =>
    (channels.get? (waitingRef tokenNetwork waiting)).any
      fun c => isLockPending c.partnerState state.secrethash

/-- The task ends once all its locks have been removed. -/
def clearIfFinalized (iteration : Iteration (Option MediatorTransferState)) :
    Iteration (Option MediatorTransferState) :=
  match iteration.newState with
  | none => iteration
  | some state =>
    if hasPendingLock tokenNetwork state iteration.channels then iteration
    else { iteration with newState := none }

/-! ## Forwarding -/

/-- The transfer to the next hop: the amount after fees, everything else as received. -/
def forwardArguments (payerTransfer : LockedTransferSignedState) (recipient : Address) (amount : Nat)
    (messageIdentifier : MessageID) : LockedTransferArguments where
  initiator := payerTransfer.initiator
  target := payerTransfer.target
  amount := amount
  messageIdentifier := messageIdentifier
  paymentIdentifier := payerTransfer.paymentIdentifier
  expiration := payerTransfer.lock.expiration
  secret := payerTransfer.secret
  secrethash := payerTransfer.lock.secrethash
  routeStates := payerTransfer.routeStates
  recipientMetadata := getAddressMetadata recipient payerTransfer.routeStates
  previousMetadata := payerTransfer.metadata

def forwardTransferPair (payerTransfer : LockedTransferSignedState)
    (payerChannel : NettingChannelState) (payee : ChannelRef) (payeeChannel : NettingChannelState)
    (blockNumber : Nat) : Handler (Option (Channels × MediationPairState × List Event)) := do
  let amountAfterFees ← MediationFee.getAmountWithoutFees payerTransfer.lock.amount payerChannel payeeChannel
  match amountAfterFees with
  | none | some 0 => return none
  | some amount =>
    let lockTimeout : Int := payerTransfer.lock.expiration - blockNumber
    if isChannelUsableForMediation P payeeChannel amount lockTimeout = false then return none
    else
      assert (lockTimeout ≤ payeeChannel.settleTimeout) "settle_timeout must be >= lock_timeout"
      let messageIdentifier ← messageIdentifierFromPrng
      let recipient := payeeChannel.partnerState.address
      let (payeeChannel, message) ← sendLockedtransfer P payeeChannel
        (forwardArguments payerTransfer recipient amount messageIdentifier)
      let pair := {
        payerTransfer
        payeeAddress := recipient
        payeeTransfer := message.transfer : MediationPairState }
      return some (channels.set payee payeeChannel, pair, [.sendLockedTransfer message])

def routeChannel (addressesToChannel : AddressesToChannel)
    (payerChannel : NettingChannelState) (route : RouteState) :
    Option (ChannelRef × NettingChannelState) := do
  let ourAddress := payerChannel.ourState.address
  let nextHop ← route.hopAfter ourAddress
  let target := (route.swaps.get? ourAddress).getD payerChannel.tokenNetworkAddress
  let payee ← addressesToChannel.get? (target, nextHop)
  let payeeChannel ← channels.get? payee
  return (payee, payeeChannel)

end

/-- Mediate through the first route that can be used. -/
def tryRoutes (channels : Channels) (addressesToChannel : AddressesToChannel)
    (payerTransfer : LockedTransferSignedState) (payerChannel : NettingChannelState)
    (blockNumber : Nat) :
    List RouteState → Handler (Option (Channels × MediationPairState × List Event))
  | [] => return none
  | route :: routes =>
    match routeChannel channels addressesToChannel payerChannel route with
    | none => tryRoutes channels addressesToChannel payerTransfer payerChannel blockNumber routes
    | some (payee, payeeChannel) => do
      match ← forwardTransferPair P channels payerTransfer payerChannel payee payeeChannel blockNumber with
      | some forwarded => return some forwarded
      | none => tryRoutes channels addressesToChannel payerTransfer payerChannel blockNumber routes

section

variable (state : MediatorTransferState)

def mediateTransfer (payerChannel : NettingChannelState)
    (channels : Channels) (addressesToChannel : AddressesToChannel)
    (payerTransfer : LockedTransferSignedState) (blockNumber : Nat) :
    Handler (Iteration MediatorTransferState) := do
  assert (payerChannel.partnerState.address = payerTransfer.balanceProof.sender)
    "Transfer must be signed by sender"
  let candidates := filterAcceptableRoutes state.routes state.refundedChannels channels
    addressesToChannel payerChannel.tokenNetworkAddress payerChannel.ourState.address
  match ← tryRoutes P channels addressesToChannel payerTransfer payerChannel blockNumber candidates with
  | some (channels, pair, events) =>
    return ⟨channels, { state with transfersPair := state.transfersPair ++ [pair] }, events⟩
  | none => return ⟨channels, { state with waitingTransfer := some { transfer := payerTransfer } }, []⟩

/-! ## Secrets -/

/-- The channels that learn a secret, in order: payer and payee of every pair,
then the one of the waiting transfer. -/
def secretRefs : List ChannelRef :=
  state.transfersPair.flatMap (fun pair => [payerRef tokenNetwork pair, payeeRef tokenNetwork pair]) ++
    state.waitingTransfer.toList.map (waitingRef tokenNetwork)

/-- Register a secret in these channels, with `register` off-chain or on-chain. -/
def registerSecret (register : NettingChannelState → Fallible NettingChannelState)
    (state : MediatorTransferState) (channels : Channels) : Fallible Channels :=
  (secretRefs tokenNetwork state).foldlM (fun channels ref => channels.updateM ref register) channels

/-- The secret should not be revealed while a transfer waits. -/
def unexpectedReveal (secrethash : SecretHash) : List Event :=
  match state.waitingTransfer with
  | none => []
  | some _ => [.eventUnexpectedSecretReveal secrethash "The mediator has a waiting transfer."]

def setOffchainSecret (channels : Channels) (secret : Secret)
    (secrethash : SecretHash) : Fallible (Iteration MediatorTransferState) := do
  let channels ← registerSecret tokenNetwork (fun c => .ok (registerOffchainSecret c secret secrethash))
    state channels
  return ⟨channels, { state with secret := some secret }, unexpectedReveal state secrethash⟩

def setOnchainSecret (channels : Channels) (secret : Secret)
    (secrethash : SecretHash) (blockNumber : Nat) : Fallible (Iteration MediatorTransferState) := do
  let channels ← registerSecret tokenNetwork
    (fun c => registerOnchainSecret c secret secrethash blockNumber) state channels
  return ⟨channels, { state with secret := some secret }, unexpectedReveal state secrethash⟩

end

def setOffchainRevealState (transfersPair : List MediationPairState) (payeeAddress : Address) :
    List MediationPairState :=
  transfersPair.map fun pair =>
    if pair.payeeAddress = payeeAddress then { pair with payeeState := .payeeSecretRevealed } else pair

def secretrevealForPair (secret : Secret) (_ : PUnit) (pair : MediationPairState) :
    Handler (PUnit × MediationPairState × List Event) := do
  if payeeSecretKnown pair.payeeState ∧ payerSecretKnown pair.payerState = false ∧
      pair.payerState = .payerPending then
    let messageIdentifier ← messageIdentifierFromPrng
    let reveal : SendSecretReveal := {
      recipient := pair.payerTransfer.balanceProof.sender
      recipientMetadata := pair.payerTransfer.payerAddressMetadata
      canonicalIdentifier := canonicalIdentifierUnorderedQueue
      messageIdentifier, secret }
    return (.unit, { pair with payerState := .payerSecretRevealed }, [.sendSecretReveal reveal])
  else return (.unit, pair, [])

def eventsForSecretreveal (transfersPair : List MediationPairState) (secret : Secret) :
    Handler (List MediationPairState × List Event) := do
  let (_, transfersPair, events) ← visitReversed (secretrevealForPair secret) .unit transfersPair
  return (transfersPair, events)

/-- Whether the lock of the payer is far enough from its expiration; false
without a payer channel. -/
def isSafeToSendBalanceproof (payerChannel : Option NettingChannelState) (pair : MediationPairState)
    (blockNumber : Nat) : Fallible Bool :=
  match payerChannel with
  | none => .ok false
  | some c => do
    return (← isSafeToWait pair.payerTransfer.lock.expiration c.revealTimeout blockNumber).isOk

def balanceproofForPair (blockNumber : Nat) (secret : Secret) (secrethash : SecretHash)
    (channels : Channels) (pair : MediationPairState) :
    Handler (Channels × MediationPairState × List Event) := do
  let safe ← isSafeToSendBalanceproof (getPayerChannel tokenNetwork channels pair) pair blockNumber
  match getPayeeChannel tokenNetwork channels pair with
  | none => return (channels, pair, [])
  | some payeeChannel =>
    if getStatus payeeChannel = .opened ∧ payeeSecretKnown pair.payeeState ∧
        payeePaid pair.payeeState = false ∧ safe = true then
      let messageIdentifier ← messageIdentifierFromPrng
      let (payeeChannel, unlock) ← sendUnlock P payeeChannel messageIdentifier
        pair.payeeTransfer.paymentIdentifier secret secrethash blockNumber
        (getAddressMetadata pair.payeeAddress pair.payeeTransfer.routeStates)
      return (channels.set (payeeRef tokenNetwork pair) payeeChannel,
        { pair with payeeState := .payeeBalanceProof },
        [.sendUnlock unlock, .eventUnlockSuccess pair.payerTransfer.paymentIdentifier
          pair.payerTransfer.lock.secrethash])
    else return (channels, pair, [])

section

variable (channels : Channels)

def eventsForBalanceproof (transfersPair : List MediationPairState)
    (blockNumber : Nat) (secret : Secret) (secrethash : SecretHash) :
    Handler (Channels × List MediationPairState × List Event) :=
  visitReversed (balanceproofForPair P tokenNetwork blockNumber secret secrethash) channels transfersPair

/-! ## Registering the secret on-chain -/

/-- One pending pair near the expiration of its payer lock. The state of the
loop says whether a registration was sent already. -/
def dangerzoneForPair (blockNumber : Nat) (blockHash : BlockHash)
    (transactionSent : Bool) (pair : MediationPairState) :
    Handler (Bool × MediationPairState × List Event) := do
  match isPendingPair pair, getPayerChannel tokenNetwork channels pair with
  | true, some payerChannel =>
    let lock := pair.payerTransfer.lock
    let safeToWait ← isSafeToWait lock.expiration payerChannel.revealTimeout blockNumber
    if safeToWait.isOk = false ∧ isSecretKnown payerChannel.partnerState lock.secrethash = true then
      let pair := { pair with payerState := .payerWaitingSecretReveal }
      if transactionSent then return (true, pair, [])
      else
        match getSecret payerChannel.partnerState lock.secrethash with
        | some (b :: rest) =>
          return (true, pair,
            eventsForOnchainSecretreveal payerChannel (b :: rest) lock.expiration blockHash)
        | _ => throw (.assertionError "the secret should be known at this point")
    else return (transactionSent, pair, [])
  | _, _ => return (transactionSent, pair, [])

def eventsForOnchainSecretrevealIfDangerzone (secrethash : SecretHash)
    (transfersPair : List MediationPairState) (blockNumber : Nat) (blockHash : BlockHash) :
    Handler (List MediationPairState × List Event) := do
  let transactionSent := hasSecretRegistrationStarted tokenNetwork channels transfersPair secrethash
  let (_, transfersPair, events) ←
    visit (dangerzoneForPair tokenNetwork channels blockNumber blockHash) transactionSent transfersPair
  return (transfersPair, events)

def closedForPair (secret : Secret) (secrethash : SecretHash)
    (blockHash : BlockHash) (transactionSent : Bool) (pair : MediationPairState) :
    Handler (Bool × MediationPairState × List Event) := do
  match isPendingPair pair, getPayerChannel tokenNetwork channels pair with
  | true, some payerChannel =>
    if getStatus payerChannel = .closed then
      let pair := { pair with payerState := .payerWaitingSecretReveal }
      match transactionSent, getLock payerChannel.partnerState secrethash with
      | false, some lock =>
        return (true, pair, eventsForOnchainSecretreveal payerChannel secret lock.expiration blockHash)
      | _, _ => return (transactionSent, pair, [])
    else return (transactionSent, pair, [])
  | _, _ => return (transactionSent, pair, [])

def eventsForOnchainSecretrevealIfClosed
    (transfersPair : List MediationPairState) (secret : Secret) (secrethash : SecretHash)
    (blockHash : BlockHash) : Handler (List MediationPairState × List Event) := do
  let transactionSent := hasSecretRegistrationStarted tokenNetwork channels transfersPair secrethash
  let (_, transfersPair, events) ←
    visit (closedForPair tokenNetwork channels secret secrethash blockHash) transactionSent transfersPair
  return (transfersPair, events)

/-! ## Expirations -/

def expiredPair (blockNumber : Nat) (pair : MediationPairState) : MediationPairState × List Event :=
  match isPendingPair pair, getPayerChannel tokenNetwork channels pair with
  | true, some payerChannel =>
    if isTransferExpired pair.payerTransfer payerChannel blockNumber then
      ({ pair with payerState := .payerExpired },
        [.eventUnlockClaimFailed pair.payerTransfer.paymentIdentifier
          pair.payerTransfer.lock.secrethash "lock expired"])
    else (pair, [])
  | _, _ => (pair, [])

def expiredWaiting (blockNumber : Nat) (waiting : WaitingTransferState) :
    WaitingTransferState × List Event :=
  if waiting.state ≠ .expired ∧
      getReceiverExpirationThreshold waiting.transfer.lock.expiration ≤ blockNumber then
    ({ waiting with state := .expired },
      [.eventUnlockClaimFailed waiting.transfer.paymentIdentifier waiting.transfer.lock.secrethash
        "lock expired"])
  else (waiting, [])

def eventsForExpiredPairs (state : MediatorTransferState) (blockNumber : Nat) :
    MediatorTransferState × List Event :=
  let pairs := state.transfersPair.map (expiredPair tokenNetwork channels blockNumber)
  let waiting := state.waitingTransfer.map (expiredWaiting blockNumber)
  ({ state with
    transfersPair := pairs.map Prod.fst
    waitingTransfer := waiting.map Prod.fst },
  pairs.flatMap Prod.snd ++ waiting.elim [] Prod.snd)

end

def ownUnclaimedLock (e : NettingChannelEndState) (secrethash : SecretHash) :
    Fallible (Option HashTimeLockState) := do
  match e.secrethashesToLockedlocks.get? secrethash with
  | some lock =>
    assert (secrethash ∉ e.secrethashesToUnlockedlocks) "Locks for secrethash are already unlocked"
    return some lock
  | none => return (e.secrethashesToUnlockedlocks.get? secrethash).map UnlockPartialProofState.lock

def removeExpiredLock (initialPayerTransfer : LockedTransferSignedState) (secrethash : SecretHash)
    (blockNumber : Nat) (channels : Channels) (pair : MediationPairState) :
    Handler (Channels × MediationPairState × List Event) := do
  match getPayeeChannel tokenNetwork channels pair with
  | none => return (channels, pair, [])
  | some c =>
    match ← ownUnclaimedLock c.ourState secrethash with
    | none => return (channels, pair, [])
    | some lock =>
      let expired := isLockExpired c.ourState lock blockNumber (getSenderExpirationThreshold lock.expiration)
      if expired.isOk ∧ getStatus c = .opened then
        let (c, events) ← sendLockExpired P c lock
          (getAddressMetadata pair.payeeAddress initialPayerTransfer.routeStates)
        return (channels.set (payeeRef tokenNetwork pair) c, { pair with payeeState := .payeeExpired },
          events ++ [.eventUnlockFailed pair.payeeTransfer.paymentIdentifier
            pair.payeeTransfer.lock.secrethash "lock expired"])
      else return (channels, pair, [])

section

variable (state : MediatorTransferState) (channels : Channels) (blockNumber : Nat)

def eventsToRemoveExpiredLocks : Handler (Iteration MediatorTransferState) := do
  match state.transfersPair with
  | [] => return ⟨channels, state, []⟩
  | first :: rest =>
    let (channels, transfersPair, events) ←
      visit (removeExpiredLock P tokenNetwork first.payerTransfer state.secrethash blockNumber) channels
        (first :: rest)
    return ⟨channels, { state with transfersPair }, events⟩

/-! ## Handlers -/

/-- Unlock the payee lock, reveal the secret to the payer, and if necessary
register the secret on-chain. -/
def secretLearned
    (blockHash : BlockHash) (secret : Secret) (secrethash : SecretHash) (payeeAddress : Address) :
    Handler (Iteration MediatorTransferState) := do
  let learned ← setOffchainSecret tokenNetwork state channels secret secrethash
  let transfersPair := setOffchainRevealState learned.newState.transfersPair payeeAddress
  let (transfersPair, onchainSecretReveal) ← eventsForOnchainSecretrevealIfClosed tokenNetwork
    learned.channels transfersPair secret secrethash blockHash
  let (transfersPair, offchainSecretReveal) ← eventsForSecretreveal transfersPair secret
  let (channels, transfersPair, balanceProof) ← eventsForBalanceproof P tokenNetwork learned.channels
    transfersPair blockNumber secret secrethash
  return ⟨channels, { learned.newState with transfersPair },
    learned.events ++ offchainSecretReveal ++ balanceProof ++ onchainSecretReveal⟩

end

def handleInit (change : ActionInitMediator) (channels : Channels)
    (addressesToChannel : AddressesToChannel) (blockNumber : Nat) :
    Handler (Iteration (Option MediatorTransferState)) := do
  let payer := channelRef tokenNetwork change.fromHop.channelIdentifier
  match channels.get? payer with
  | none => return ⟨channels, none, []⟩
  | some payerChannel =>
    let (payerChannel, received) := handleReceiveLockedtransfer P payerChannel change.fromTransfer
      change.fromTransfer.payerAddressMetadata
    let channels := channels.set payer payerChannel
    if received.isValid = false then return ⟨channels, none, received.events⟩
    else
      let state := {
        secrethash := change.fromTransfer.lock.secrethash
        routes := change.candidateRouteStates : MediatorTransferState }
      let iteration ← mediateTransfer P state payerChannel channels addressesToChannel
        change.fromTransfer blockNumber
      return ⟨iteration.channels, some iteration.newState, received.events ++ iteration.events⟩

def isForwardOf (secrethash : SecretHash) : Event → Bool
  | .sendLockedTransfer message => message.transfer.lock.secrethash = secrethash
  | _ => false

section

variable (state : MediatorTransferState)

def retryWaiting (channels : Channels)
    (addressesToChannel : AddressesToChannel) (blockNumber : Nat) :
    Handler (Iteration MediatorTransferState) := do
  match state.waitingTransfer with
  | none => return ⟨channels, state, []⟩
  | some waiting =>
    match channels.get? (waitingRef tokenNetwork waiting) with
    | none => return ⟨channels, state, []⟩
    | some payerChannel =>
      let attempt ← mediateTransfer P state payerChannel channels addressesToChannel waiting.transfer
        blockNumber
      if attempt.events.any (isForwardOf waiting.transfer.lock.secrethash) then
        return { attempt with newState := { attempt.newState with waitingTransfer := none } }
      else return attempt

def handleBlock (change : Block) (channels : Channels)
    (addressesToChannel : AddressesToChannel) : Handler (Iteration MediatorTransferState) := do
  let mediate ← retryWaiting P tokenNetwork state channels addressesToChannel change.blockNumber
  let expired ← eventsToRemoveExpiredLocks P tokenNetwork mediate.newState mediate.channels
    change.blockNumber
  let (transfersPair, secretReveal) ← eventsForOnchainSecretrevealIfDangerzone tokenNetwork
    expired.channels expired.newState.secrethash expired.newState.transfersPair change.blockNumber
    change.blockHash
  let (state, unlockFail) := eventsForExpiredPairs tokenNetwork expired.channels
    { expired.newState with transfersPair } change.blockNumber
  return ⟨expired.channels, state, mediate.events ++ unlockFail ++ secretReveal ++ expired.events⟩

def handleRefundtransfer (change : ReceiveTransferRefund)
    (channels : Channels) (addressesToChannel : AddressesToChannel) (blockNumber : Nat) :
    Handler (Iteration MediatorTransferState) := do
  match state.secret with
  | some _ => return ⟨channels, state, []⟩
  | none =>
    -- only the last sent transfer may be refunded
    let some last := state.transfersPair.getLast? | throw .indexError
    let payer := channelRef tokenNetwork change.transfer.balanceProof.channelIdentifier
    match channels.get? payer with
    | none => return ⟨channels, state, []⟩
    | some payerChannel =>
      let (payerChannel, received) := Channel.handleRefundtransfer P last.payeeTransfer payerChannel change
      let channels := channels.set payer payerChannel
      if received.isValid = false then return ⟨channels, state, received.events⟩
      else
        let state := { state with refundedChannels := state.refundedChannels ++ [payerChannel.identifier] }
        let iteration ← mediateTransfer P state payerChannel channels addressesToChannel change.transfer
          blockNumber
        return { iteration with events := received.events ++ iteration.events }

def handleOffchainSecretreveal (change : ReceiveSecretReveal)
    (channels : Channels) (blockNumber : Nat) (blockHash : BlockHash) :
    Handler (Iteration MediatorTransferState) := do
  match state.transfersPair.getLast? with
  | none => return ⟨channels, state, []⟩
  | some last =>
    match getPayerChannel tokenNetwork channels last with
    | none => return ⟨channels, state, []⟩
    | some payerChannel =>
      let expired := isTransferExpired last.payerTransfer payerChannel blockNumber
      if state.secret = none ∧ change.secrethash P = state.secrethash ∧ expired = false then
        secretLearned P tokenNetwork state channels blockNumber blockHash change.secret
          (change.secrethash P) change.sender
      else return ⟨channels, state, []⟩

def handleOnchainSecretreveal (change : ContractReceiveSecretReveal)
    (channels : Channels) : Handler (Iteration MediatorTransferState) := do
  if change.secrethash = state.secrethash then
    let learned ← setOnchainSecret tokenNetwork state channels change.secret change.secrethash
      change.blockNumber
    -- the block of the event counts, not the current one
    let (channels, transfersPair, balanceProof) ← eventsForBalanceproof P tokenNetwork learned.channels
      learned.newState.transfersPair change.blockNumber change.secret change.secrethash
    return ⟨channels, { learned.newState with transfersPair }, learned.events ++ balanceProof⟩
  else return ⟨channels, state, []⟩

/-- One pair whose payer sent an unlock; the channel is the one of the message. -/
def unlockForPair (routes : List RouteState) (change : ReceiveUnlock) (channels : Channels)
    (pair : MediationPairState) : Handler (Channels × MediationPairState × List Event) := do
  let ref := channelRef tokenNetwork change.balanceProof.channelIdentifier
  match channels.get? ref with
  | none => return (channels, pair, [])
  | some c =>
    if pair.payerTransfer.balanceProof.sender = change.balanceProof.sender then
      let (c, received) ← Channel.handleUnlock P c change
        (getAddressMetadata change.balanceProof.sender routes)
      let channels := channels.set ref c
      if received.isValid then
        return (channels, { pair with payerState := .payerBalanceProof },
          received.events ++ [.eventUnlockClaimSuccess pair.payeeTransfer.paymentIdentifier
            pair.payeeTransfer.lock.secrethash])
      else return (channels, pair, received.events)
    else return (channels, pair, [])

def handleUnlock (change : ReceiveUnlock) (channels : Channels) :
    Handler (Iteration MediatorTransferState) := do
  let (channels, transfersPair, events) ←
    visit (unlockForPair P tokenNetwork state.routes change) channels state.transfersPair
  return ⟨channels, { state with transfersPair }, events⟩

/-- Hand an expiration to the payer channel of every pair. The loop ends at the
first pair whose payer channel is gone. -/
def lockExpiredForPairs (state : MediatorTransferState) (change : ReceiveLockExpired)
    (blockNumber : Nat) : Channels → List MediationPairState →
    Channels × List MediationPairState × List Event × Bool
  | channels, [] => (channels, [], [], true)
  | channels, pair :: pairs =>
    match getPayerChannel tokenNetwork channels pair with
    | none => (channels, pair :: pairs, [], false)
    | some c =>
      let result := handleReceiveLockExpired P c change blockNumber
        (getAddressMetadata c.partnerState.address state.routes)
      let channels := channels.set (payerRef tokenNetwork pair) result.newState
      let pair :=
        if (getLock result.newState.partnerState state.secrethash).isNone then
          { pair with payerState := .payerExpired }
        else pair
      let (channels, pairs, events, finished) := lockExpiredForPairs state change blockNumber channels pairs
      (channels, pair :: pairs, result.events ++ events, finished)

def lockExpiredForWaiting (change : ReceiveLockExpired)
    (blockNumber : Nat) (channels : Channels) : Channels × List Event :=
  match state.waitingTransfer with
  | none => (channels, [])
  | some waiting =>
    match channels.get? (waitingRef tokenNetwork waiting) with
    | none => (channels, [])
    | some c =>
      let result := handleReceiveLockExpired P c change blockNumber
        (getAddressMetadata c.partnerState.address state.routes)
      (channels.set (waitingRef tokenNetwork waiting) result.newState, result.events)

def handleLockExpired (change : ReceiveLockExpired)
    (channels : Channels) (blockNumber : Nat) : Iteration MediatorTransferState :=
  let (channels, transfersPair, events, finished) :=
    lockExpiredForPairs P tokenNetwork state change blockNumber channels state.transfersPair
  let state := { state with transfersPair }
  -- the early return drops the events of the pairs before the missing channel
  if finished = false then ⟨channels, state, []⟩
  else
    let (channels, waitingEvents) := lockExpiredForWaiting P tokenNetwork state change blockNumber channels
    ⟨channels, state, events ++ waitingEvents⟩

/-! ## The state machine -/

def handleRunning (change : PaymentStateChange) (channels : Channels)
    (addressesToChannel : AddressesToChannel) (blockNumber : Nat) (blockHash : BlockHash) :
    Handler (Iteration MediatorTransferState) :=
  match change with
  | .block change => handleBlock P tokenNetwork state change channels addressesToChannel
  | .receiveTransferRefund change =>
    handleRefundtransfer P tokenNetwork state change channels addressesToChannel blockNumber
  | .receiveSecretReveal change =>
    handleOffchainSecretreveal P tokenNetwork state change channels blockNumber blockHash
  | .contractReceiveSecretReveal change => handleOnchainSecretreveal P tokenNetwork state change channels
  | .receiveUnlock change => handleUnlock P tokenNetwork state change channels
  | .receiveLockExpired change => return handleLockExpired P tokenNetwork state change channels blockNumber
  | _ => return ⟨channels, state, []⟩

end

/-- The text of the assertion that a running task exists. -/
def requiresTask : PaymentStateChange → Option String
  | .block _ => some "Block should be accompanied by a valid mediator state"
  | .receiveTransferRefund _ =>
    some "ReceiveTransferRefund should be accompanied by a valid mediator state"
  | .receiveSecretReveal _ => some "ReceiveSecretReveal should be accompanied by a valid mediator state"
  | .contractReceiveSecretReveal _ =>
    some "ContractReceiveSecretReveal should be accompanied by a valid mediator state"
  | .receiveUnlock _ => some "ReceiveUnlock should be accompanied by a valid mediator state"
  | .receiveLockExpired _ => some "ReceiveLockExpired should be accompanied by a valid mediator state"
  | _ => none

def handleStateChange (state : Option MediatorTransferState) (change : PaymentStateChange)
    (channels : Channels) (addressesToChannel : AddressesToChannel) (blockNumber : Nat)
    (blockHash : BlockHash) : Handler (Iteration (Option MediatorTransferState)) := do
  match state, change, requiresTask change with
  | none, .actionInitMediator change, _ =>
    handleInit P tokenNetwork change channels addressesToChannel blockNumber
  | none, _, some msg => throw (.assertionError msg)
  | none, _, none => return ⟨channels, none, []⟩
  | some state, change, _ =>
    let iteration ← handleRunning P tokenNetwork state change channels addressesToChannel blockNumber
      blockHash
    return ⟨iteration.channels, some iteration.newState, iteration.events⟩

def sanityCheckNewState (iteration : Iteration (Option MediatorTransferState)) : Fallible Unit :=
  match iteration.newState with
  | none => .ok ()
  | some state => sanityCheck tokenNetwork state iteration.channels

def stateTransition (state : Option MediatorTransferState) (change : PaymentStateChange)
    (channels : Channels) (addressesToChannel : AddressesToChannel) (blockNumber : Nat)
    (blockHash : BlockHash) : Handler (Iteration (Option MediatorTransferState)) := do
  let iteration ← handleStateChange P tokenNetwork state change channels addressesToChannel blockNumber
    blockHash
  sanityCheckNewState tokenNetwork iteration
  return clearIfFinalized tokenNetwork iteration

end Raiden.Mediator
