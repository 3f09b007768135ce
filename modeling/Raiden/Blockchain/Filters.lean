import Mathlib.Data.Finset.Image
import Raiden.Types

/-! # Filters for the logs of the contracts

A filter names the contracts and channels the node follows. For the Ethereum client
it becomes a list of requests, each with addresses and topics. The first topic of a log
is its event, the others are its indexed arguments. -/
namespace Raiden.Blockchain

open Lib

/-! ## Logs -/

inductive ChannelEvent where
  | closed
  | settled
  | deposit
  | withdraw
  | unlocked
  | balanceProofUpdated
deriving DecidableEq

/-- A decoded event, with the arguments the filters and the tracking read. -/
inductive ContractEvent where
  | tokenNetworkCreated (tokenAddress tokenNetworkAddress : Address)
  | channelOpened (channelIdentifier : ChannelID) (participant1 participant2 : Address)
  | channel (event : ChannelEvent) (channelIdentifier : ChannelID)
  | secretRevealed (secrethash : SecretHash)
  | registeredService (service : Address)
deriving DecidableEq

inductive EventName where
  | tokenNetworkCreated
  | channelOpened
  | channel (event : ChannelEvent)
  | secretRevealed
  | registeredService
deriving DecidableEq

/-- The hash of an event's signature, or an encoded argument. -/
inductive Topic where
  | event (name : EventName)
  | word (n : Nat)
deriving DecidableEq

def ContractEvent.topics : ContractEvent → List Topic
  | .tokenNetworkCreated tokenAddress tokenNetworkAddress =>
    [.event .tokenNetworkCreated, .word tokenAddress.toNat, .word tokenNetworkAddress.toNat]
  | .channelOpened channelIdentifier participant1 participant2 =>
    [.event .channelOpened, .word channelIdentifier, .word participant1.toNat, .word participant2.toNat]
  | .channel event channelIdentifier => [.event (.channel event), .word channelIdentifier]
  | .secretRevealed secrethash => [.event .secretRevealed, .word secrethash.toNat]
  | .registeredService service => [.event .registeredService, .word service.toNat]

structure LogReceipt where
  address : Address
  event : ContractEvent
  blockNumber : Nat
  blockHash : BlockHash
  transactionHash : Bytes
  /-- The position in the block. -/
  logIndex : Nat
deriving DecidableEq

/-- The parameters of an `eth_getLogs` request; a position of `topics` is any topic
or one of several. -/
structure FilterParams where
  fromBlock : Nat
  toBlock : Nat
  address : Finset Address
  topics : List (Option (Finset Topic))

/-- The topics of a log match by position; an empty choice admits every topic. -/
def topicsMatch : List (Option (Finset Topic)) → List Topic → Bool
  | [], _ => true
  | _ :: _, [] => false
  | none :: rest, _ :: topics => topicsMatch rest topics
  | some choice :: rest, topic :: topics => (choice = ∅ ∨ topic ∈ choice) && topicsMatch rest topics

def FilterParams.admits (params : FilterParams) (log : LogReceipt) : Bool :=
  decide (params.fromBlock ≤ log.blockNumber ∧ log.blockNumber ≤ params.toBlock) &&
    decide (log.address ∈ params.address) && topicsMatch params.topics log.event.topics

/-! ## The filter of the node -/

structure RaidenContractFilter where
  tokenNetworkRegistryAddresses : Finset Address := ∅
  tokenNetworkAddresses : Finset Address := ∅
  channelsOfTokenNetwork : Dict Address (Finset ChannelID) := .empty
  secretRegistryAddress : Option Address := none
  ignoreSecretRegistryUntilChannelFound : Bool := false
  serviceRegistry : Option Address := none

namespace RaidenContractFilter

/-- `__bool__`: there is something to query. -/
def isActive (filter : RaidenContractFilter) : Bool :=
  filter.tokenNetworkRegistryAddresses ≠ ∅ ∨ filter.tokenNetworkAddresses ≠ ∅ ∨
    filter.channelsOfTokenNetwork.values.any (fun channels => channels ≠ ∅) ∨
    filter.secretRegistryAddress.isSome

def channelTopics : Finset Topic :=
  {.event (.channel .closed), .event (.channel .settled), .event (.channel .deposit),
    .event (.channel .withdraw), .event (.channel .unlocked)}

def toWeb3Filters (filter : RaidenContractFilter) (fromBlock toBlock : Nat) (nodeAddress : Address) :
    List FilterParams :=
  let nodeTopic : Option (Finset Topic) := some {.word nodeAddress.toNat}
  (if filter.tokenNetworkRegistryAddresses ≠ ∅ then
    [⟨fromBlock, toBlock, filter.tokenNetworkRegistryAddresses, [some {.event .tokenNetworkCreated}]⟩]
  else []) ++
  (filter.secretRegistryAddress.toList.filter fun _ => !filter.ignoreSecretRegistryUntilChannelFound).map
    (fun address => ⟨fromBlock, toBlock, {address}, [some {.event .secretRevealed}]⟩) ++
  (if filter.tokenNetworkAddresses ≠ ∅ then
    [⟨fromBlock, toBlock, filter.tokenNetworkAddresses, [some {.event .channelOpened}, none, nodeTopic]⟩,
      ⟨fromBlock, toBlock, filter.tokenNetworkAddresses,
        [some {.event .channelOpened}, none, none, nodeTopic]⟩]
  else []) ++
  filter.channelsOfTokenNetwork.entries.map (fun entry =>
    ⟨fromBlock, toBlock, {entry.1}, [some channelTopics, some (entry.2.image .word)]⟩) ++
  filter.serviceRegistry.toList.map
    (fun address => ⟨fromBlock, toBlock, {address}, [some {.event .registeredService}]⟩)

end RaidenContractFilter

/-! ## ABIs -/

inductive ContractAbi where
  | tokenNetworkRegistry
  | tokenNetwork
  | secretRegistry
  | serviceRegistry
deriving DecidableEq

def ContractAbi.declares : ContractAbi → ContractEvent → Bool
  | .tokenNetworkRegistry, .tokenNetworkCreated .. => true
  | .tokenNetwork, .channelOpened .. => true
  | .tokenNetwork, .channel .. => true
  | .secretRegistry, .secretRevealed .. => true
  | .serviceRegistry, .registeredService .. => true
  | _, _ => false

abbrev AddressToAbi := Address → Option ContractAbi

/-- Where an address is in several roles the last one counts. -/
def RaidenContractFilter.abiOfContractAddress (filter : RaidenContractFilter) : AddressToAbi := fun address =>
  if filter.serviceRegistry = some address then some .serviceRegistry
  else if filter.secretRegistryAddress = some address then some .secretRegistry
  else if address ∈ filter.tokenNetworkAddresses then some .tokenNetwork
  else if address ∈ filter.tokenNetworkRegistryAddresses then some .tokenNetworkRegistry
  else none

/-! ## Errors and unions -/

inductive PollError where
  | targetInPast (target lastFetchedBlock : Nat)
  | ethGetLogsTimeout
  | blockBatchSizeTooSmall (min : Nat)
  | unknownAbi (address : Address)
  | unknownEvent (event : ContractEvent)
  | missingBlockNumber
  | missingTransactionHash
  | missingBlockHash
  | mismatchingSecretRegistry
  /-- Not an error of the code: the bound on the rounds of a query was reached. -/
  | tooManyRounds
deriving DecidableEq

def unionSecretRegistry : Option Address → Option Address → Except PollError (Option Address)
  | some a, some b => if a = b then .ok (some a) else .error .mismatchingSecretRegistry
  | some a, none => .ok (some a)
  | none, other => .ok other

def RaidenContractFilter.union (filter other : RaidenContractFilter) :
    Except PollError RaidenContractFilter := do
  let secretRegistryAddress ← unionSecretRegistry filter.secretRegistryAddress other.secretRegistryAddress
  return {
    secretRegistryAddress
    tokenNetworkRegistryAddresses :=
      filter.tokenNetworkRegistryAddresses ∪ other.tokenNetworkRegistryAddresses
    tokenNetworkAddresses := filter.tokenNetworkAddresses ∪ other.tokenNetworkAddresses
    channelsOfTokenNetwork :=
      .ofKeys (filter.channelsOfTokenNetwork.keys ++ other.channelsOfTokenNetwork.keys) fun tokenNetwork =>
        (filter.channelsOfTokenNetwork.get? tokenNetwork).getD ∅ ∪
          (other.channelsOfTokenNetwork.get? tokenNetwork).getD ∅
    ignoreSecretRegistryUntilChannelFound :=
      filter.ignoreSecretRegistryUntilChannelFound && other.ignoreSecretRegistryUntilChannelFound
    -- the code pops one of two different registries; the added filter never has one
    serviceRegistry := filter.serviceRegistry.or other.serviceRegistry }

end Raiden.Blockchain
