import Raiden.Node.State

/-! # The node

The state machine of a node hands each state change to the channels, token
networks and payment tasks it concerns, keeps the queues of messages that wait
for an acknowledgement, and keeps the transactions that wait for their effect. -/
namespace Raiden

open Lib

structure ReceiveDelivered where
  sender : Address
  messageIdentifier : MessageID

structure ReceiveProcessed where
  sender : Address
  messageIdentifier : MessageID

/-- A registry, as its constructor got it. -/
structure ContractReceiveNewTokenNetworkRegistry where
  address : Address
  tokenNetworkList : List TokenNetworkState

structure ContractReceiveNewTokenNetwork where
  tokenNetworkRegistryAddress : Address
  tokenNetwork : TokenNetworkState

/-- The inputs of a node. -/
inductive StateChange where
  | block (change : Block)
  | actionChannelClose (canonicalIdentifier : CanonicalIdentifier)
  | actionChannelSetRevealTimeout (canonicalIdentifier : CanonicalIdentifier) (revealTimeout : Nat)
  | actionChannelWithdraw (change : ActionChannelWithdraw)
  | actionChannelCoopSettle (change : ActionChannelCoopSettle)
  | actionInitInitiator (change : ActionInitInitiator)
  | actionInitMediator (change : ActionInitMediator)
  | actionInitTarget (change : ActionInitTarget)
  | actionTransferReroute (change : ActionTransferReroute)
  | actionCancelPayment (paymentIdentifier : PaymentID)
  | receiveTransferCancelRoute (change : ReceiveTransferCancelRoute)
  | receiveTransferRefund (change : ReceiveTransferRefund)
  | receiveSecretRequest (change : ReceiveSecretRequest)
  | receiveSecretReveal (change : ReceiveSecretReveal)
  | receiveUnlock (change : ReceiveUnlock)
  | receiveLockExpired (change : ReceiveLockExpired)
  | receiveWithdrawRequest (change : ReceiveWithdrawRequest)
  | receiveWithdrawConfirmation (change : ReceiveWithdrawConfirmation)
  | receiveWithdrawExpired (change : ReceiveWithdrawExpired)
  | receiveDelivered (change : ReceiveDelivered)
  | receiveProcessed (change : ReceiveProcessed)
  | contractReceiveNewTokenNetworkRegistry (change : ContractReceiveNewTokenNetworkRegistry)
  | contractReceiveNewTokenNetwork (change : ContractReceiveNewTokenNetwork)
  | contractReceiveChannelNew (channelState : NettingChannelState)
  | contractReceiveChannelClosed (change : ContractReceiveChannelClosed)
  | contractReceiveChannelSettled (change : ContractReceiveChannelSettled)
  | contractReceiveChannelDeposit (change : ContractReceiveChannelDeposit)
  | contractReceiveChannelWithdraw (change : ContractReceiveChannelWithdraw)
  | contractReceiveChannelBatchUnlock (change : ContractReceiveChannelBatchUnlock)
  | contractReceiveUpdateTransfer (change : ContractReceiveUpdateTransfer)
  | contractReceiveSecretReveal (change : ContractReceiveSecretReveal)
  | contractReceiveRouteNew (canonicalIdentifier : CanonicalIdentifier)
      (participant1 participant2 : Address)
  | updateServicesAddressesStateChange (service : Address) (validTill : Nat)

def StateChange.isContractReceive : StateChange → Bool
  | .contractReceiveNewTokenNetworkRegistry _ | .contractReceiveNewTokenNetwork _
  | .contractReceiveChannelNew _ | .contractReceiveChannelClosed _ | .contractReceiveChannelSettled _
  | .contractReceiveChannelDeposit _ | .contractReceiveChannelWithdraw _
  | .contractReceiveChannelBatchUnlock _ | .contractReceiveUpdateTransfer _
  | .contractReceiveSecretReveal _ | .contractReceiveRouteNew .. => true
  | _ => false

namespace Node

variable (P : Primitives) (M : Initiator.FeeMargins)

/-! ## Channels and token networks -/

/-- The channels in the order in which a block reaches them. -/
def channelRefs (s : ChainState) : List ChannelRef :=
  s.identifiersToTokennetworkregistries.values.flatMap fun registry =>
    registry.tokennetworkaddressesToTokennetworks.values.flatMap fun ref =>
      match s.tokenNetworks[ref.object]? with
      | none => []
      | some tokenNetwork => tokenNetwork.channelidentifiersToChannels.keys.map (ChannelRef.mk ref)

/-- The loop over the channels; a block never removes one. -/
def subdispatchToChannels (change : Block) (blockNumber : Nat) (blockHash : BlockHash) :
    List ChannelRef → ChainState → Handler (TransitionResult ChainState)
  | [], s => return ⟨s, []⟩
  | ref :: refs, s => do
    match s.getChannel ref with
    | none => subdispatchToChannels change blockNumber blockHash refs s
    | some c =>
      let result ← Channel.stateTransition P c (.block change) blockNumber blockHash
      let rest ← subdispatchToChannels change blockNumber blockHash refs
        (s.setChannel ref (result.newState.getD c))
      return ⟨rest.newState, result.events ++ rest.events⟩

section

variable (s : ChainState)

def subdispatchToAllChannels (change : Block) (blockNumber : Nat)
    (blockHash : BlockHash) : Handler (TransitionResult ChainState) :=
  subdispatchToChannels P change blockNumber blockHash (channelRefs s) s

def subdispatchToTokenNetwork (change : TokenNetworkStateChange)
    (tokenNetworkAddress : Address) : Handler (TransitionResult ChainState) := do
  match s.getTokenNetworkByAddress tokenNetworkAddress with
  | none => return ⟨s, []⟩
  | some (ref, tokenNetwork) =>
    let iteration ← TokenNetwork.stateTransition P tokenNetwork change s.blockNumber s.blockHash
    return ⟨s.setTokenNetwork ref.object iteration.newState, iteration.events⟩

def subdispatchByCanonicalId (change : ChannelStateChange)
    (canonicalIdentifier : CanonicalIdentifier) : Handler (TransitionResult ChainState) :=
  subdispatchToTokenNetwork P s (.channel change) canonicalIdentifier.tokenNetworkAddress

def handleTokenNetworkAction (change : TokenNetworkStateChange)
    (tokenNetworkAddress : Address) : Handler (TransitionResult ChainState) :=
  subdispatchToTokenNetwork P s change tokenNetworkAddress

/-! ## Payment tasks -/

def setTask (secrethash : SecretHash) : Option TransferTask → ChainState
  | some task => { s with secrethashesToTask := s.secrethashesToTask.set secrethash task }
  | none => { s with secrethashesToTask := s.secrethashesToTask.del secrethash }

def runInitiator (tokenNetworkAddress : Address)
    (managerState : Option InitiatorPaymentState) (change : PaymentStateChange)
    (secrethash : SecretHash) : Handler (TransitionResult ChainState) := do
  match s.getTokenNetworkByAddress tokenNetworkAddress with
  | none => return ⟨s, []⟩
  | some (ref, _) =>
    let iteration ← InitiatorManager.stateTransition P M ref managerState change s.channels
      s.addressesToChannel s.blockNumber
    return ⟨setTask (s.setChannels iteration.channels) secrethash
      (iteration.newState.map (.initiatorTask tokenNetworkAddress)), iteration.events⟩

def runMediator (tokenNetworkAddress : Address)
    (mediatorState : Option MediatorTransferState) (change : PaymentStateChange)
    (secrethash : SecretHash) : Handler (TransitionResult ChainState) := do
  match s.getTokenNetworkByAddress tokenNetworkAddress with
  | none => return ⟨s, []⟩
  | some (ref, _) =>
    let iteration ← Mediator.stateTransition P ref mediatorState change s.channels
      s.addressesToChannel s.blockNumber s.blockHash
    return ⟨setTask (s.setChannels iteration.channels) secrethash
      (iteration.newState.map (.mediatorTask tokenNetworkAddress)), iteration.events⟩

/-- Run the target on the channel of an identifier; `identifierOf` names the
channel in the stored task. -/
def runTarget (tokenNetworkAddress : Address) (channelIdentifier : ChannelID)
    (targetState : Option TargetTransferState) (change : PaymentStateChange) (secrethash : SecretHash)
    (identifierOf : NettingChannelState → CanonicalIdentifier) :
    Handler (TransitionResult ChainState) := do
  match ChainState.Views.getChannelstateByCanonicalIdentifier s
      ⟨s.chainId, tokenNetworkAddress, channelIdentifier⟩ with
  | none => return ⟨s, []⟩
  | some (ref, c) =>
    let iteration ← Target.stateTransition P targetState change c s.blockNumber
    return ⟨setTask (s.setChannel ref iteration.channel) secrethash
      (iteration.newState.map (.targetTask (identifierOf c))), iteration.events⟩

def subdispatchToPaymenttask (change : PaymentStateChange) (secrethash : SecretHash) :
    Handler (TransitionResult ChainState) :=
  match s.secrethashesToTask.get? secrethash with
  | none => return ⟨s, []⟩
  | some (.initiatorTask tokenNetworkAddress managerState) =>
    runInitiator P M s tokenNetworkAddress (some managerState) change secrethash
  | some (.mediatorTask tokenNetworkAddress mediatorState) =>
    runMediator P s tokenNetworkAddress (some mediatorState) change secrethash
  | some (.targetTask identifier targetState) =>
    runTarget P s identifier.tokenNetworkAddress identifier.channelIdentifier (some targetState) change
      secrethash fun _ => identifier

end

/-- The loop over the secrethashes that had a task at its start. -/
def subdispatchToLockedtransfers (change : PaymentStateChange) :
    List SecretHash → ChainState → Handler (TransitionResult ChainState)
  | [], s => return ⟨s, []⟩
  | secrethash :: secrethashes, s => do
    let result ← subdispatchToPaymenttask P M s change secrethash
    let rest ← subdispatchToLockedtransfers change secrethashes result.newState
    return ⟨rest.newState, result.events ++ rest.events⟩

def subdispatchToAllLockedtransfers (s : ChainState) (change : PaymentStateChange) :
    Handler (TransitionResult ChainState) :=
  subdispatchToLockedtransfers P M change s.secrethashesToTask.keys s

section

variable (s : ChainState) (change : PaymentStateChange) (tokenNetworkAddress : Address)

/-- A task of another role or token network is not replaced. -/
def subdispatchInitiatortask (secrethash : SecretHash) : Handler (TransitionResult ChainState) :=
  match s.secrethashesToTask.get? secrethash with
  | none => runInitiator P M s tokenNetworkAddress none change secrethash
  | some (.initiatorTask address managerState) =>
    if tokenNetworkAddress = address then
      runInitiator P M s tokenNetworkAddress (some managerState) change secrethash
    else return ⟨s, []⟩
  | some _ => return ⟨s, []⟩

def subdispatchMediatortask (secrethash : SecretHash) : Handler (TransitionResult ChainState) :=
  match s.secrethashesToTask.get? secrethash with
  | none => runMediator P s tokenNetworkAddress none change secrethash
  | some (.mediatorTask address mediatorState) =>
    if tokenNetworkAddress = address then
      runMediator P s tokenNetworkAddress (some mediatorState) change secrethash
    else return ⟨s, []⟩
  | some _ => return ⟨s, []⟩

def subdispatchTargettask (channelIdentifier : ChannelID) (secrethash : SecretHash) :
    Handler (TransitionResult ChainState) :=
  match s.secrethashesToTask.get? secrethash with
  | none =>
    runTarget P s tokenNetworkAddress channelIdentifier none change secrethash
      NettingChannelState.canonicalIdentifier
  | some (.targetTask identifier targetState) =>
    if tokenNetworkAddress = identifier.tokenNetworkAddress then
      runTarget P s tokenNetworkAddress channelIdentifier (some targetState) change secrethash
        NettingChannelState.canonicalIdentifier
    else return ⟨s, []⟩
  | some _ => return ⟨s, []⟩

end

/-! ## Registries -/

def newRefs (n : Nat) : List TokenNetworkState → List (TokenNetworkRef × Address)
  | [] => []
  | tokenNetwork :: rest =>
    (⟨n, tokenNetwork.address⟩, tokenNetwork.tokenAddress) :: newRefs (n + 1) rest

/-- A new registry is created with the token network, which is then added to it as
to one that was known. -/
def maybeAddTokennetwork (s : ChainState) (registryAddress : Address)
    (tokenNetwork : TokenNetworkState) : ChainState :=
  let ref : TokenNetworkRef := ⟨s.tokenNetworks.length, tokenNetwork.address⟩
  let add (registry : TokenNetworkRegistryState) : ChainState :=
    { s with
      tokenNetworks := s.tokenNetworks ++ [tokenNetwork]
      identifiersToTokennetworkregistries :=
        s.identifiersToTokennetworkregistries.set registryAddress
          (registry.addTokenNetwork ref tokenNetwork.tokenAddress)
      tokennetworkaddressesToTokennetworkregistryaddresses :=
        s.tokennetworkaddressesToTokennetworkregistryaddresses.set tokenNetwork.address registryAddress }
  match ChainState.Views.getNetworks s registryAddress tokenNetwork.tokenAddress with
  | (none, _) =>
    add (.create registryAddress [(ref, tokenNetwork.tokenAddress)])
  | (some registry, none) => add registry
  | (some _, some _) => s

def handleContractReceiveNewTokenNetworkRegistry (s : ChainState)
    (change : ContractReceiveNewTokenNetworkRegistry) : TransitionResult ChainState :=
  if change.address ∈ s.identifiersToTokennetworkregistries then ⟨s, []⟩
  else
    ⟨{ s with
      tokenNetworks := s.tokenNetworks ++ change.tokenNetworkList
      identifiersToTokennetworkregistries :=
        s.identifiersToTokennetworkregistries.set change.address
          (.create change.address (newRefs s.tokenNetworks.length change.tokenNetworkList)) }, []⟩

def handleContractReceiveNewTokenNetwork (s : ChainState) (change : ContractReceiveNewTokenNetwork) :
    TransitionResult ChainState :=
  ⟨maybeAddTokennetwork s change.tokenNetworkRegistryAddress change.tokenNetwork, []⟩

/-! ## Message queues -/

/-- The state changes that can remove messages from a queue. -/
inductive Acknowledgement where
  | delivered (change : ReceiveDelivered)
  | processed (change : ReceiveProcessed)
  | withdrawConfirmation (change : ReceiveWithdrawConfirmation)

namespace Acknowledgement

def sender : Acknowledgement → Address
  | .delivered change => change.sender
  | .processed change => change.sender
  | .withdrawConfirmation change => change.sender

def messageIdentifier : Acknowledgement → MessageID
  | .delivered change => change.messageIdentifier
  | .processed change => change.messageIdentifier
  | .withdrawConfirmation change => change.messageIdentifier

def isWithdrawConfirmation : Acknowledgement → Bool
  | .withdrawConfirmation _ => true
  | _ => false

end Acknowledgement

section

variable (acknowledgement : Acknowledgement)

/-- Only a withdraw confirmation removes a withdraw request. -/
def messageFound (message : QueuedMessage) : Bool :=
  ¬(message.1.isSendWithdrawRequest = true ∧ acknowledgement.isWithdrawConfirmation = false) ∧
    message.message.messageIdentifier = acknowledgement.messageIdentifier ∧
    message.message.recipient = acknowledgement.sender

/-- The loop over a copy of the queue. -/
def inplaceDeleteMessage (queue : List QueuedMessage) : List QueuedMessage :=
  queue.foldl (fun queue message =>
    if messageFound acknowledgement message then queue.erase message else queue) queue

def inplaceDeleteMessageQueue (queues : Queues) (queueid : QueueIdentifier) : Queues :=
  match queues.get? queueid with
  | none => queues
  | some queue =>
    match inplaceDeleteMessage acknowledgement queue with
    | [] => queues.del queueid
    | message :: rest => queues.set queueid (message :: rest)

/-- The loop over the queues there are at its start. -/
def inplaceDeleteFromAllQueues (queues : Queues) : Queues :=
  queues.keys.foldl (inplaceDeleteMessageQueue acknowledgement) queues

end

/-! ## Handlers -/

section

variable (s : ChainState)

def handleBlock (change : Block) : Handler (TransitionResult ChainState) := do
  let s := { s with blockNumber := change.blockNumber, blockHash := change.blockHash }
  let channelsResult ← subdispatchToAllChannels P s change change.blockNumber s.blockHash
  let transfersResult ← subdispatchToAllLockedtransfers P M channelsResult.newState (.block change)
  return ⟨transfersResult.newState, channelsResult.events ++ transfersResult.events⟩

def dropQueue (change : ContractReceiveChannelClosed) : ChainState :=
  let identifier : CanonicalIdentifier := ⟨s.chainId,
    change.canonicalIdentifier.tokenNetworkAddress, change.canonicalIdentifier.channelIdentifier⟩
  match ChainState.Views.getChannelstateByCanonicalIdentifier s identifier with
  | none => s
  | some (_, c) =>
    { s with queueidsToQueues := s.queueidsToQueues.del ⟨c.partnerState.address, identifier⟩ }

def handleContractReceiveChannelClosed (change : ContractReceiveChannelClosed) :
    Handler (TransitionResult ChainState) :=
  handleTokenNetworkAction P (dropQueue s change) (.channel (.contractReceiveChannelClosed change))
    change.canonicalIdentifier.tokenNetworkAddress

def handleReceiveDelivered (change : ReceiveDelivered) : TransitionResult ChainState :=
  let queueid : QueueIdentifier := ⟨change.sender, canonicalIdentifierUnorderedQueue⟩
  ⟨{ s with
    queueidsToQueues := inplaceDeleteMessageQueue (.delivered change) s.queueidsToQueues queueid }, []⟩

def handleReceiveProcessed (change : ReceiveProcessed) : TransitionResult ChainState :=
  ⟨{ s with
    queueidsToQueues := inplaceDeleteFromAllQueues (.processed change) s.queueidsToQueues }, []⟩

def handleReceiveWithdrawConfirmation (change : ReceiveWithdrawConfirmation) :
    Handler (TransitionResult ChainState) := do
  let iteration ← subdispatchByCanonicalId P s (.receiveWithdrawConfirmation change)
    change.canonicalIdentifier
  let s := iteration.newState
  return ⟨{ s with
      queueidsToQueues := inplaceDeleteFromAllQueues (.withdrawConfirmation change) s.queueidsToQueues },
    iteration.events⟩

def handleActionInitInitiator (change : ActionInitInitiator) :
    Handler (TransitionResult ChainState) :=
  subdispatchInitiatortask P M s (.actionInitInitiator change) change.transfer.tokenNetworkAddress
    change.transfer.secrethash

def handleActionInitMediator (change : ActionInitMediator) :
    Handler (TransitionResult ChainState) :=
  let transfer := change.fromTransfer
  subdispatchMediatortask P s (.actionInitMediator change) transfer.balanceProof.tokenNetworkAddress
    transfer.lock.secrethash

def handleActionInitTarget (change : ActionInitTarget) : Handler (TransitionResult ChainState) :=
  let transfer := change.transfer
  subdispatchTargettask P s (.actionInitTarget change) transfer.balanceProof.tokenNetworkAddress
    transfer.balanceProof.channelIdentifier transfer.lock.secrethash

/-- The task is copied, so the old secrethash keeps one of its own. -/
def handleActionTransferReroute (change : ActionTransferReroute) :
    Handler (TransitionResult ChainState) := do
  let newSecrethash := InitiatorManager.secrethash P change
  let some currentPaymentTask := s.secrethashesToTask.get? change.transfer.lock.secrethash
    | throw .keyError
  subdispatchToPaymenttask P M
    { s with secrethashesToTask := s.secrethashesToTask.set newSecrethash currentPaymentTask }
    (.actionTransferReroute change) newSecrethash

def handleStateChange : StateChange → Handler (TransitionResult ChainState)
  | .block change => handleBlock P M s change
  | .actionChannelClose identifier =>
    handleTokenNetworkAction P s (.channel (.actionChannelClose identifier)) identifier.tokenNetworkAddress
  | .actionChannelSetRevealTimeout identifier revealTimeout =>
    subdispatchByCanonicalId P s (.actionChannelSetRevealTimeout identifier revealTimeout) identifier
  | .actionChannelWithdraw change =>
    subdispatchByCanonicalId P s (.actionChannelWithdraw change) change.canonicalIdentifier
  | .actionChannelCoopSettle change =>
    subdispatchByCanonicalId P s (.actionChannelCoopSettle change) change.canonicalIdentifier
  | .actionInitInitiator change => handleActionInitInitiator P M s change
  | .actionInitMediator change => handleActionInitMediator P s change
  | .actionInitTarget change => handleActionInitTarget P s change
  | .receiveTransferCancelRoute change =>
    subdispatchToPaymenttask P M s (.receiveTransferCancelRoute change) change.transfer.lock.secrethash
  | .actionTransferReroute change => handleActionTransferReroute P M s change
  | .contractReceiveNewTokenNetworkRegistry change =>
    return handleContractReceiveNewTokenNetworkRegistry s change
  | .contractReceiveNewTokenNetwork change => return handleContractReceiveNewTokenNetwork s change
  | .contractReceiveChannelBatchUnlock change =>
    handleTokenNetworkAction P s (.channel (.contractReceiveChannelBatchUnlock change))
      change.canonicalIdentifier.tokenNetworkAddress
  | .contractReceiveChannelNew c =>
    handleTokenNetworkAction P s (.contractReceiveChannelNew c) c.tokenNetworkAddress
  | .contractReceiveChannelWithdraw change =>
    handleTokenNetworkAction P s (.channel (.contractReceiveChannelWithdraw change))
      change.canonicalIdentifier.tokenNetworkAddress
  | .contractReceiveChannelClosed change => handleContractReceiveChannelClosed P s change
  | .contractReceiveChannelDeposit change =>
    handleTokenNetworkAction P s (.channel (.contractReceiveChannelDeposit change))
      change.canonicalIdentifier.tokenNetworkAddress
  | .contractReceiveChannelSettled change =>
    handleTokenNetworkAction P s (.channel (.contractReceiveChannelSettled change))
      change.canonicalIdentifier.tokenNetworkAddress
  | .contractReceiveSecretReveal change =>
    subdispatchToPaymenttask P M s (.contractReceiveSecretReveal change) change.secrethash
  | .contractReceiveUpdateTransfer change =>
    handleTokenNetworkAction P s (.channel (.contractReceiveUpdateTransfer change))
      change.canonicalIdentifier.tokenNetworkAddress
  | .receiveDelivered change => return handleReceiveDelivered s change
  | .receiveSecretReveal change =>
    subdispatchToPaymenttask P M s (.receiveSecretReveal change) (change.secrethash P)
  | .receiveTransferRefund change =>
    subdispatchToPaymenttask P M s (.receiveTransferRefund change) change.transfer.lock.secrethash
  | .receiveSecretRequest change =>
    subdispatchToPaymenttask P M s (.receiveSecretRequest change) change.secrethash
  | .receiveProcessed change => return handleReceiveProcessed s change
  | .receiveUnlock change =>
    subdispatchToPaymenttask P M s (.receiveUnlock change) (change.secrethash P)
  | .receiveLockExpired change =>
    subdispatchToPaymenttask P M s (.receiveLockExpired change) change.secrethash
  | .receiveWithdrawRequest change =>
    subdispatchByCanonicalId P s (.receiveWithdrawRequest change) change.canonicalIdentifier
  | .receiveWithdrawConfirmation change => handleReceiveWithdrawConfirmation P s change
  | .receiveWithdrawExpired change =>
    subdispatchByCanonicalId P s (.receiveWithdrawExpired change) change.canonicalIdentifier
  | .updateServicesAddressesStateChange service validTill =>
    return ⟨s, [.updateServicesAddresses service validTill]⟩
  -- state changes no handler is registered for
  | .actionCancelPayment _ | .contractReceiveRouteNew .. => return ⟨s, []⟩

/-! ## Pending transactions -/

def sameChannel (identifier other : CanonicalIdentifier) : Bool :=
  identifier.tokenNetworkAddress = other.tokenNetworkAddress ∧
    identifier.channelIdentifier = other.channelIdentifier

def partnerOf (change : ContractReceiveChannelBatchUnlock) : Option Address :=
  if change.receiver = s.ourAddress then some change.sender
  else if change.sender = s.ourAddress then some change.receiver
  else none

def isTransactionEffectSatisfied (transaction : Event) (change : StateChange) : Fallible Bool :=
  match change, transaction with
  | .contractReceiveUpdateTransfer change, .contractSendChannelUpdateTransfer _ balanceProof _ =>
    return sameChannel change.canonicalIdentifier balanceProof.canonicalIdentifier ∧
      change.nonce = balanceProof.nonce
  | .contractReceiveChannelClosed change, .contractSendChannelClose identifier _ _ =>
    return sameChannel change.canonicalIdentifier identifier
  | .contractReceiveChannelSettled change, .contractSendChannelSettle identifier _ =>
    return sameChannel change.canonicalIdentifier identifier
  | .contractReceiveSecretReveal change, .contractSendSecretReveal _ secret _ =>
    return change.secret = secret
  | .contractReceiveChannelBatchUnlock change, .contractSendChannelBatchUnlock .. =>
    -- the identifier of the transaction is not compared
    match partnerOf s change with
    | none => return false
    | some partner => do
      let c ← ChainState.Views.getChannelstateByTokenNetworkAndPartner s
        change.canonicalIdentifier.tokenNetworkAddress partner
      return c.isNone
  | _, _ => return false

def isTransactionInvalidated (transaction : Event) (change : StateChange) : Bool :=
  match change, transaction with
  | .contractReceiveChannelSettled change, .contractSendChannelUpdateTransfer _ balanceProof _ =>
    sameChannel change.canonicalIdentifier balanceProof.canonicalIdentifier
  | .contractReceiveChannelClosed change, .contractSendChannelWithdraw identifier _ _ _ _ =>
    sameChannel change.canonicalIdentifier identifier
  | _, _ => false

def isTransactionExpired (transaction : Event) (blockNumber : Nat) : Bool :=
  match transaction with
  | .contractSendChannelUpdateTransfer expiration _ _ => expiration < blockNumber
  | .contractSendSecretReveal expiration _ _ => expiration < blockNumber
  | _ => false

def isTransactionPending (transaction : Event) (change : StateChange) :
    Fallible Bool := do
  let satisfied ← isTransactionEffectSatisfied s transaction change
  return !(satisfied || isTransactionInvalidated transaction change ||
    isTransactionExpired transaction s.blockNumber)

def enqueue (event : Event) : ChainState :=
  let s :=
    if h : event.message?.isSome = true then
      let queueid := (event.message?.get h).queueIdentifier
      { s with
        queueidsToQueues := s.queueidsToQueues.set queueid
          ((s.queueidsToQueues.get? queueid).getD [] ++ [⟨event, h⟩]) }
    else s
  if h : event.isContractSend = true then
    { s with pendingTransactions := s.pendingTransactions ++ [⟨event, h⟩] }
  else s

/-- On-chain logs clear the transactions that are no longer pending. -/
def pendingAfter (change : StateChange) : Fallible (List Transaction) :=
  if change.isContractReceive then
    s.pendingTransactions.filterM fun transaction => isTransactionPending s transaction.1 change
  else .ok s.pendingTransactions

end

def updateQueues (iteration : TransitionResult ChainState) (change : StateChange) :
    Fallible ChainState := do
  let s := iteration.newState
  let pendingTransactions ← pendingAfter s change
  return iteration.events.foldl enqueue { s with pendingTransactions }

def stateTransition (s : ChainState) (change : StateChange) : Handler (TransitionResult ChainState) := do
  let iteration ← handleStateChange P M s change
  let s ← updateQueues iteration change
  return ⟨s, iteration.events⟩

end Node

end Raiden
