import Raiden.Node.TokenNetwork
import Raiden.Mediator.Transition
import Raiden.Target.Transition
import Raiden.Initiator.Manager

/-! # The state of a node

The chain state holds the token network registries, the payment tasks, the
transactions and messages that still have to be delivered. Registries share the
token network objects: they keep references, the objects stand in one list. -/
namespace Raiden

open Lib

/-! ## Events the node keeps -/

def Event.message? : Event → Option SendMessageEvent
  | .sendLockedTransfer message => some message.toSendMessageEvent
  | .sendUnlock message => some message.toSendMessageEvent
  | .sendLockExpired message => some message.toSendMessageEvent
  | .sendSecretReveal message => some message.toSendMessageEvent
  | .sendSecretRequest message => some message.toSendMessageEvent
  | .sendProcessed message => some message
  | .sendWithdrawRequest message => some message.toSendMessageEvent
  | .sendWithdrawConfirmation message => some message.toSendMessageEvent
  | .sendWithdrawExpired message => some message.toSendMessageEvent
  | _ => none

def Event.isSendWithdrawRequest : Event → Bool
  | .sendWithdrawRequest _ => true
  | _ => false

def Event.isContractSend : Event → Bool
  | .contractSendChannelWithdraw .. | .contractSendChannelCoopSettle .. | .contractSendChannelClose ..
  | .contractSendChannelSettle .. | .contractSendChannelUpdateTransfer ..
  | .contractSendChannelBatchUnlock .. | .contractSendSecretReveal .. => true
  | _ => false

abbrev QueuedMessage := { event : Event // event.message?.isSome = true }

abbrev Transaction := { event : Event // event.isContractSend = true }

def QueuedMessage.message (message : QueuedMessage) : SendMessageEvent :=
  message.1.message?.get message.2

structure QueueIdentifier where
  recipient : Address
  canonicalIdentifier : CanonicalIdentifier
deriving DecidableEq

def SendMessageEvent.queueIdentifier (message : SendMessageEvent) : QueueIdentifier :=
  ⟨message.recipient, message.canonicalIdentifier⟩

abbrev Queues := Dict QueueIdentifier (List QueuedMessage)

/-! ## Registries and tasks -/

structure TokenNetworkRegistryState where
  address : Address
  tokenNetworkList : List TokenNetworkRef := []
  tokenaddressesToTokennetworkaddresses : Dict Address Address := .empty
  tokennetworkaddressesToTokennetworks : Dict Address TokenNetworkRef := .empty

def TokenNetworkRegistryState.addTokenNetwork (registry : TokenNetworkRegistryState)
    (tokenNetwork : TokenNetworkRef) (tokenAddress : Address) : TokenNetworkRegistryState :=
  { registry with
    tokenNetworkList := registry.tokenNetworkList ++ [tokenNetwork]
    tokennetworkaddressesToTokennetworks :=
      registry.tokennetworkaddressesToTokennetworks.set tokenNetwork.address tokenNetwork
    tokenaddressesToTokennetworkaddresses :=
      registry.tokenaddressesToTokennetworkaddresses.set tokenAddress tokenNetwork.address }

/-- The constructor: every token network is listed with the address of its token. -/
def TokenNetworkRegistryState.create (address : Address)
    (tokenNetworkList : List (TokenNetworkRef × Address)) : TokenNetworkRegistryState :=
  tokenNetworkList.foldl (fun registry (tokenNetwork, tokenAddress) =>
    registry.addTokenNetwork tokenNetwork tokenAddress) { address }

inductive TransferTask where
  | initiatorTask (tokenNetworkAddress : Address) (managerState : InitiatorPaymentState)
  | mediatorTask (tokenNetworkAddress : Address) (mediatorState : MediatorTransferState)
  | targetTask (canonicalIdentifier : CanonicalIdentifier) (targetState : TargetTransferState)

structure ChainState where
  blockNumber : Nat
  blockHash : BlockHash
  ourAddress : Address
  chainId : ChainID
  /-- The token network objects; a reference names one by its position. -/
  tokenNetworks : List TokenNetworkState := []
  identifiersToTokennetworkregistries : Dict Address TokenNetworkRegistryState := .empty
  secrethashesToTask : Dict SecretHash TransferTask := .empty
  pendingTransactions : List Transaction := []
  queueidsToQueues : Queues := .empty
  tokennetworkaddressesToTokennetworkregistryaddresses : Dict Address Address := .empty

namespace ChainState

variable (s : ChainState)

/-! ## Objects -/

def setTokenNetwork (object : Nat) (tokenNetwork : TokenNetworkState) : ChainState :=
  { s with tokenNetworks := s.tokenNetworks.set object tokenNetwork }

def getChannel (ref : ChannelRef) : Option NettingChannelState :=
  s.tokenNetworks[ref.tokenNetwork.object]?.bind fun tokenNetwork =>
    tokenNetwork.channelidentifiersToChannels.get? ref.channelIdentifier

def setChannel (ref : ChannelRef) (c : NettingChannelState) : ChainState :=
  { s with
    tokenNetworks := s.tokenNetworks.modify ref.tokenNetwork.object fun tokenNetwork =>
      TokenNetwork.setChannel tokenNetwork ref.channelIdentifier c }

/-- The entries of the store for the token network objects from number `n` on. -/
def channelEntries (n : Nat) : List TokenNetworkState → List (ChannelRef × NettingChannelState)
  | [] => []
  | tokenNetwork :: rest =>
    tokenNetwork.channelidentifiersToChannels.entries.map
        (fun e => (⟨⟨n, tokenNetwork.address⟩, e.1⟩, e.2)) ++ channelEntries (n + 1) rest

theorem le_of_mem_channelEntries {n : Nat} {tokenNetworks : List TokenNetworkState} {ref : ChannelRef}
    (h : ref ∈ (channelEntries n tokenNetworks).map Prod.fst) : n ≤ ref.tokenNetwork.object := by
  induction tokenNetworks generalizing n with
  | nil => cases h
  | cons tn rest ih =>
    rw [channelEntries, List.map_append, List.map_map, List.mem_append] at h
    rcases h with h | h
    · obtain ⟨e, -, rfl⟩ := List.mem_map.mp h
      exact Nat.le_refl n
    · exact Nat.le_of_succ_le (ih h)

theorem nodup_channelEntries (n : Nat) (tokenNetworks : List TokenNetworkState) :
    ((channelEntries n tokenNetworks).map Prod.fst).Nodup := by
  induction tokenNetworks generalizing n with
  | nil => exact List.nodup_nil
  | cons tn rest ih =>
    rw [channelEntries, List.map_append, List.map_map]
    refine List.Nodup.append ?_ (ih (n + 1)) ?_
    · have hkeys := tn.channelidentifiersToChannels.nodup
      rw [List.nodup_map_iff_inj_on (List.Nodup.of_map _ hkeys)] at hkeys
      refine (List.nodup_map_iff_inj_on (List.Nodup.of_map _
        tn.channelidentifiersToChannels.nodup)).mpr fun e he e' he' heq => ?_
      exact hkeys e he e' he' (congrArg ChannelRef.channelIdentifier heq)
    · intro ref hhere hlater
      obtain ⟨e, -, rfl⟩ := List.mem_map.mp hhere
      exact absurd (le_of_mem_channelEntries hlater) (Nat.not_succ_le_self n)

/-- The channel objects a task can reach. -/
def channels : Channels := ⟨channelEntries 0 s.tokenNetworks, nodup_channelEntries 0 s.tokenNetworks⟩

/-- What a task did to the channel objects of the token networks from number `n` on. -/
def writeChannels (channels : Channels) (n : Nat) : List TokenNetworkState → List TokenNetworkState
  | [] => []
  | tokenNetwork :: rest =>
    { tokenNetwork with
      channelidentifiersToChannels := tokenNetwork.channelidentifiersToChannels.map fun identifier c =>
        (channels.get? ⟨⟨n, tokenNetwork.address⟩, identifier⟩).getD c } ::
      writeChannels channels (n + 1) rest

def setChannels (channels : Channels) : ChainState :=
  { s with tokenNetworks := writeChannels channels 0 s.tokenNetworks }

/-- The loop over registries, their lists of token networks, and channels; of
several channels with one partner the last one stays. -/
def addressesToChannel : AddressesToChannel :=
  let refs := s.identifiersToTokennetworkregistries.values.flatMap
    TokenNetworkRegistryState.tokenNetworkList
  refs.foldl (fun book ref =>
    match s.tokenNetworks[ref.object]? with
    | none => book
    | some tokenNetwork =>
      tokenNetwork.channelidentifiersToChannels.entries.foldl (fun book (identifier, c) =>
        book.set (tokenNetwork.address, c.partnerState.address) ⟨ref, identifier⟩) book) .empty

/-! ## Views -/

/-- A reference together with its object. -/
def resolve (ref : TokenNetworkRef) : Option (TokenNetworkRef × TokenNetworkState) :=
  s.tokenNetworks[ref.object]?.map fun tokenNetwork => (ref, tokenNetwork)

def getTokenNetworkByAddress (tokenNetworkAddress : Address) :
    Option (TokenNetworkRef × TokenNetworkState) := do
  let registryAddress ← s.tokennetworkaddressesToTokennetworkregistryaddresses.get? tokenNetworkAddress
  let registry ← s.identifiersToTokennetworkregistries.get? registryAddress
  let ref ← registry.tokennetworkaddressesToTokennetworks.get? tokenNetworkAddress
  s.resolve ref

namespace Views

/-- The lookup of the views, which searches every registry. -/
def getTokenNetworkByAddress (tokenNetworkAddress : Address) :
    Option (TokenNetworkRef × TokenNetworkState) :=
  s.identifiersToTokennetworkregistries.values.findSome? fun registry =>
    (registry.tokennetworkaddressesToTokennetworks.get? tokenNetworkAddress).bind s.resolve

def getChannelstateByCanonicalIdentifier (identifier : CanonicalIdentifier) :
    Option (ChannelRef × NettingChannelState) := do
  let (ref, tokenNetwork) ← getTokenNetworkByAddress s identifier.tokenNetworkAddress
  let c ← tokenNetwork.channelidentifiersToChannels.get? identifier.channelIdentifier
  return (⟨ref, identifier.channelIdentifier⟩, c)

/-- The last channel with a partner that is not unusable. An absent list of a
partner reads as the empty one. -/
def getChannelstateByTokenNetworkAndPartner (tokenNetworkAddress partner : Address) :
    Fallible (Option NettingChannelState) :=
  match getTokenNetworkByAddress s tokenNetworkAddress with
  | none => .ok none
  | some (_, tokenNetwork) => do
    let channels ← (TokenNetwork.identifiersOf tokenNetwork partner).mapM fun identifier =>
      match tokenNetwork.channelidentifiersToChannels.get? identifier with
      | some c => .ok c
      | none => .error .keyError
    return (channels.filter fun c => Channel.getStatus c ≠ .unusable).getLast?

def getNetworks (registryAddress tokenAddress : Address) :
    Option TokenNetworkRegistryState × Option TokenNetworkRef :=
  match s.identifiersToTokennetworkregistries.get? registryAddress with
  | none => (none, none)
  | some registry =>
    (some registry, (registry.tokenaddressesToTokennetworkaddresses.get? tokenAddress).bind
      registry.tokennetworkaddressesToTokennetworks.get?)

end Views

end ChainState

end Raiden
