import Mathlib.Data.List.Sort
import Mathlib.Data.Stream.Defs
import Raiden.Blockchain.Filters

/-! # Polling the blockchain

One call fetches the logs of a limited range of blocks. It starts with the filter of the
node and queries what the results let it discover, in the same range, until nothing is
discovered any more. Every discovery extends the filter of the node at once, also if a
later request of the same call times out. -/
namespace Raiden.Blockchain

open Lib

/-! ## Decoded events -/

structure DecodedEvent where
  chainId : ChainID
  blockNumber : Nat
  blockHash : BlockHash
  transactionHash : Bytes
  originatingContract : Address
  event : ContractEvent
  logIndex : Nat
deriving DecidableEq

def LogReceipt.decoded (chainId : ChainID) (log : LogReceipt) : DecodedEvent where
  chainId
  blockNumber := log.blockNumber
  blockHash := log.blockHash
  transactionHash := log.transactionHash
  originatingContract := log.address
  event := log.event
  logIndex := log.logIndex

def decodeRaidenEventToInternal (abi : ContractAbi) (chainId : ChainID) (log : LogReceipt) :
    Except PollError DecodedEvent :=
  if ¬abi.declares log.event then .error (.unknownEvent log.event)
  else if log.blockNumber = 0 then .error .missingBlockNumber
  else if log.transactionHash = [] then .error .missingTransactionHash
  else if log.blockHash = [] then .error .missingBlockHash
  else .ok (log.decoded chainId)

def decodeLog (addressToAbi : AddressToAbi) (chainId : ChainID) (log : LogReceipt) :
    Except PollError DecodedEvent :=
  match addressToAbi log.address with
  | none => .error (.unknownAbi log.address)
  | some abi => decodeRaidenEventToInternal abi chainId log

def sortEvents (events : List DecodedEvent) : List DecodedEvent :=
  events.insertionSort fun a b => a.blockNumber ≤ b.blockNumber

/-! ## What the events let the node follow -/

def tokenNetworkOf : DecodedEvent → Option Address
  | { event := .tokenNetworkCreated _ tokenNetworkAddress, .. } => some tokenNetworkAddress
  | _ => none

def followChannel (filter : RaidenContractFilter) (entry : DecodedEvent) : RaidenContractFilter :=
  match entry.event with
  | .channelOpened channelIdentifier _ _ =>
    { filter with
      channelsOfTokenNetwork := filter.channelsOfTokenNetwork.set entry.originatingContract
        (insert channelIdentifier
          ((filter.channelsOfTokenNetwork.get? entry.originatingContract).getD ∅))
      ignoreSecretRegistryUntilChannelFound := false }
  | _ => filter

def newFiltersFromEvents (events : List DecodedEvent) : RaidenContractFilter :=
  events.foldl followChannel
    { tokenNetworkAddresses := (events.filterMap tokenNetworkOf).toFinset
      ignoreSecretRegistryUntilChannelFound := true }

/-! ## The size of a batch -/

structure BlockBatchSizeConfig where
  min : Nat
  max : Nat

/-- The floating-point scale of the batch size, as its bits: one step up, one step down,
and the size it stands for. -/
structure BatchScale where
  up : UInt64 → UInt64
  down : UInt64 → UInt64
  size : UInt64 → Nat

structure BlockBatchSizeAdjuster where
  config : BlockBatchSizeConfig
  scaleCurrent : UInt64

namespace BlockBatchSizeAdjuster

variable (scale : BatchScale) (adjuster : BlockBatchSizeAdjuster)

def batchSize : Nat :=
  max adjuster.config.min (min adjuster.config.max (scale.size adjuster.scaleCurrent))

def increase : BlockBatchSizeAdjuster :=
  if adjuster.config.max ≤ adjuster.batchSize scale then adjuster
  else { adjuster with scaleCurrent := scale.up adjuster.scaleCurrent }

def decrease : Except PollError BlockBatchSizeAdjuster :=
  if adjuster.batchSize scale ≤ adjuster.config.min then
    .error (.blockBatchSizeTooSmall adjuster.config.min)
  else .ok { adjuster with scaleCurrent := scale.down adjuster.scaleCurrent }

end BlockBatchSizeAdjuster

/-! ## Queries -/

structure Chain where
  logs : List LogReceipt
  /-- The hash and the gas limit of a block. -/
  getBlock : Nat → BlockHash × Nat

/-- `eth_getLogs` returns the logs the request admits. -/
def Chain.getLogs (chain : Chain) (params : FilterParams) : List LogReceipt :=
  chain.logs.filter params.admits

structure BlockchainEvents where
  chainId : ChainID
  lastFetchedBlock : Nat
  eventFilter : RaidenContractFilter
  blockBatchSizeAdjuster : BlockBatchSizeAdjuster
  nodeAddress : Address
  addressToAbi : AddressToAbi

/-- What becomes of the requests of a call, in order: the duration in milliseconds, or
`none` for a timeout. -/
abbrev Responses := Stream' (Option Nat)

/-- The requests of one round; `none` if one of them timed out. -/
def queryFilters (chain : Chain) : List FilterParams → Responses → Nat →
    Option (List LogReceipt × Nat × Responses)
  | [], responses, maxDuration => some ([], maxDuration, responses)
  | params :: rest, responses, maxDuration =>
    match responses.head with
    | none => none
    | some duration =>
      (queryFilters chain rest responses.tail (max maxDuration duration)).map fun done =>
        (chain.getLogs params ++ done.1, done.2)

/-- The loop of `_query_and_track`: query a filter, and then what its results let the node
discover. The state is returned with the error, since what was discovered before stays, and
with it the number of rounds in which something was queried. -/
def trackFilters (chain : Chain) (fromBlock toBlock : Nat) : (rounds : Nat) → BlockchainEvents →
    RaidenContractFilter → Responses → List DecodedEvent → Nat →
    Except PollError (List DecodedEvent × Nat) × BlockchainEvents × Nat
  | 0, s, _, _, _, _ => (.error .tooManyRounds, s, 0)
  | rounds + 1, s, filter, responses, result, maxDuration =>
    if ¬filter.isActive then (.ok (result, maxDuration), s, 0)
    else
      match queryFilters chain (filter.toWeb3Filters fromBlock toBlock s.nodeAddress) responses
          maxDuration with
      | none => (.error .ethGetLogsTimeout, s, 1)
      | some (logs, maxDuration, responses) =>
        if logs = [] then (.ok (result, maxDuration), s, 1)
        else
          match logs.mapM (decodeLog s.addressToAbi s.chainId) with
          | .error e => (.error e, s, 1)
          | .ok decoded =>
            let decodedEvents := sortEvents decoded
            let discovered := newFiltersFromEvents decodedEvents
            match s.eventFilter.union discovered with
            | .error e => (.error e, s, 1)
            | .ok union =>
              let (outcome, s, queried) := trackFilters chain fromBlock toBlock rounds
                { s with
                  eventFilter := union
                  addressToAbi := fun address =>
                    (discovered.abiOfContractAddress address).or (s.addressToAbi address) }
                discovered responses (result ++ decodedEvents) maxDuration
              (outcome, s, queried + 1)

/-- The rounds end by themselves: contracts lead to token networks, these to channels,
and channels to nothing. -/
def maxRounds : Nat := 4

def queryAndTrack (chain : Chain) (fromBlock toBlock : Nat) (s : BlockchainEvents) (responses : Responses) :
    Except PollError (List DecodedEvent × Nat) × BlockchainEvents :=
  let (outcome, s, _) := trackFilters chain fromBlock toBlock maxRounds s s.eventFilter responses [] 0
  (outcome, s)

/-! ## Fetching a batch -/

structure PollResult where
  polledBlockNumber : Nat
  polledBlockHash : BlockHash
  polledBlockGasLimit : Nat
  events : List DecodedEvent

/-- In milliseconds. -/
def ethGetLogsThresholdFast : Nat := 2000

def ethGetLogsThresholdSlow : Nat := 5000

/-- The new size of a batch after requests that took at most `maxDuration`. -/
def adjustBatchSize (scale : BatchScale) (adjuster : BlockBatchSizeAdjuster) (maxDuration : Nat)
    (canUseBiggerBatches : Bool) : Except PollError BlockBatchSizeAdjuster :=
  if maxDuration < ethGetLogsThresholdFast then
    .ok (if canUseBiggerBatches then adjuster.increase scale else adjuster)
  else if ethGetLogsThresholdSlow < maxDuration then adjuster.decrease scale
  else .ok adjuster

def BlockchainEvents.batchEnd (scale : BatchScale) (s : BlockchainEvents) (target : Nat) : Nat :=
  min (s.lastFetchedBlock + 1 + s.blockBatchSizeAdjuster.batchSize scale) target

/-- `none` is returned if a request timed out. -/
def fetchLogsInBatch (scale : BatchScale) (chain : Chain) (target : Nat) (responses : Responses)
    (s : BlockchainEvents) : Except PollError (Option PollResult) × BlockchainEvents :=
  if target ≤ s.lastFetchedBlock then (.error (.targetInPast target s.lastFetchedBlock), s)
  else
    let fromBlock := s.lastFetchedBlock + 1
    let toBlock := s.batchEnd scale target
    match queryAndTrack chain fromBlock toBlock s responses with
    | (.error .ethGetLogsTimeout, s) =>
      match s.blockBatchSizeAdjuster.decrease scale with
      | .error e => (.error e, s)
      | .ok adjuster => (.ok none, { s with blockBatchSizeAdjuster := adjuster })
    | (.error e, s) => (.error e, s)
    | (.ok (decodedResult, maxDuration), s) =>
      match adjustBatchSize scale s.blockBatchSizeAdjuster maxDuration
          (s.blockBatchSizeAdjuster.batchSize scale < target - fromBlock) with
      | .error e => (.error e, s)
      | .ok adjuster =>
        (.ok (some ⟨toBlock, (chain.getBlock toBlock).1, (chain.getBlock toBlock).2, decodedResult⟩),
          { s with lastFetchedBlock := toBlock, blockBatchSizeAdjuster := adjuster })

end Raiden.Blockchain
