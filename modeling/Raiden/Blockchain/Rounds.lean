import Raiden.Blockchain.Events

/-! # The rounds of a query

A round returns a log as often as the requests of its filter admit it. The rounds of a
call follow what they discover, so a token network or a channel discovered in the range
is queried once more than the filter of the node says. -/
namespace Raiden.Blockchain

open Lib

variable {chain : Chain} {lo hi n : Nat} {node net : Address} {filter discovered : RaidenContractFilter}
  {log : LogReceipt} {cid : ChannelID} {chainId : ChainID} {params : List FilterParams}

def InRange (lo hi : Nat) (log : LogReceipt) : Prop :=
  lo ≤ log.blockNumber ∧ log.blockNumber ≤ hi

instance (lo hi : Nat) (log : LogReceipt) : Decidable (InRange lo hi log) :=
  inferInstanceAs (Decidable (_ ∧ _))

/-- How many of the requests for a filter return the log. -/
def RaidenContractFilter.requestsFor (filter : RaidenContractFilter) (lo hi : Nat)
    (node : Address) (log : LogReceipt) : Nat :=
  (filter.toWeb3Filters lo hi node).countP fun params => params.admits log

theorem admits_eq (hrange : InRange lo hi log) (addresses : Finset Address)
    (topics : List (Option (Finset Topic))) :
    FilterParams.admits ⟨lo, hi, addresses, topics⟩ log =
      (decide (log.address ∈ addresses) && topicsMatch topics log.event.topics) := by
  simp [FilterParams.admits, hrange.1, hrange.2]

/-- Requests to no address would return nothing. -/
private theorem countP_ite_empty {addresses : Finset Address} (h : ∀ p ∈ params, p.address = addresses) :
    List.countP (fun p : FilterParams => p.admits log) (if addresses ≠ ∅ then params else []) =
      params.countP fun p => p.admits log := by
  split
  · rfl
  · next hempty =>
    refine (List.countP_eq_zero.mpr fun p hp hadmits => ?_).symm
    simp [FilterParams.admits, h p hp, not_not.mp hempty] at hadmits

theorem requestsFor_eq (hrange : InRange lo hi log) :
    filter.requestsFor lo hi node log = (if log.address ∈ filter.tokenNetworkRegistryAddresses ∧
        topicsMatch [some {.event .tokenNetworkCreated}] log.event.topics then 1 else 0) +
      (filter.secretRegistryAddress.toList.filter
        fun _ => !filter.ignoreSecretRegistryUntilChannelFound).countP (fun addr =>
          log.address = addr ∧ topicsMatch [some {.event .secretRevealed}] log.event.topics) +
      ((if log.address ∈ filter.tokenNetworkAddresses ∧ topicsMatch
        [some {.event .channelOpened}, none, none, some {.word node.toNat}] log.event.topics then 1 else 0) +
      (if log.address ∈ filter.tokenNetworkAddresses ∧ topicsMatch
        [some {.event .channelOpened}, none, some {.word node.toNat}] log.event.topics then 1 else 0)) +
      ((filter.channelsOfTokenNetwork.get? log.address).any fun cs => topicsMatch
        [some RaidenContractFilter.channelTopics, some (cs.image .word)] log.event.topics).toNat +
      filter.serviceRegistry.toList.countP (fun addr =>
        log.address = addr ∧ topicsMatch [some {.event .registeredService}] log.event.topics) := by
  unfold RaidenContractFilter.requestsFor RaidenContractFilter.toWeb3Filters
  rw [← Dict.countP_entries]
  simp only [List.countP_append, List.countP_map, Function.comp_def]
  rw [countP_ite_empty (by simp), countP_ite_empty (by simp)]
  simp only [admits_eq hrange, List.countP_cons, List.countP_nil, Finset.mem_singleton, Bool.decide_and,
    Bool.decide_eq_true, Bool.and_eq_true, decide_eq_true_eq, Nat.zero_add]

/-- The requests of the filter return the logs of the channel. -/
def RaidenContractFilter.follows (filter : RaidenContractFilter) (net : Address)
    (channelIdentifier : ChannelID) : Prop :=
  ∃ cs, filter.channelsOfTokenNetwork.get? net = some cs ∧
    (cs = ∅ ∨ channelIdentifier ∈ cs)

instance (filter : RaidenContractFilter) (net : Address) (channelIdentifier : ChannelID) :
    Decidable (filter.follows net channelIdentifier) :=
  decidable_of_iff ((filter.channelsOfTokenNetwork.get? net).any
    fun cs => cs = ∅ ∨ channelIdentifier ∈ cs) (by
      simp [RaidenContractFilter.follows, Option.any_eq_true])

theorem requestsFor_created (hrange : InRange lo hi log)
    (h : log.event = .tokenNetworkCreated tokenAddress net) :
    filter.requestsFor lo hi node log =
      if log.address ∈ filter.tokenNetworkRegistryAddresses then 1 else 0 := by
  simp [requestsFor_eq hrange, h, ContractEvent.topics, topicsMatch, RaidenContractFilter.channelTopics]

theorem requestsFor_opened (hrange : InRange lo hi log)
    (h : log.event = .channelOpened cid participant1 participant2) :
    filter.requestsFor lo hi node log = if log.address ∈ filter.tokenNetworkAddresses then
        (if participant2 = node then 1 else 0) + (if participant1 = node then 1 else 0) else 0 := by
  simp only [requestsFor_eq hrange, h, ContractEvent.topics, topicsMatch, RaidenContractFilter.channelTopics]
  by_cases haddress : log.address ∈ filter.tokenNetworkAddresses <;>
    simp [haddress, BitVec.toNat_inj]

theorem requestsFor_channel (hrange : InRange lo hi log)
    (h : log.event = .channel event cid) (hevent : event ≠ .balanceProofUpdated) :
    filter.requestsFor lo hi node log = if filter.follows log.address cid then 1 else 0 := by
  have htopic : Topic.event (.channel event) ∈ RaidenContractFilter.channelTopics := by
    cases event <;> first | decide | exact absurd rfl hevent
  have hnonempty : RaidenContractFilter.channelTopics ≠ ∅ := by decide
  simp only [requestsFor_eq hrange, h, ContractEvent.topics, topicsMatch, htopic, hnonempty]
  cases hchannels : filter.channelsOfTokenNetwork.get? log.address with
  | none => simp [RaidenContractFilter.follows, hchannels]
  | some cs =>
    by_cases hempty : cs = ∅ <;> by_cases hid : cid ∈ cs <;>
      simp [RaidenContractFilter.follows, hchannels, hempty, hid]

def Chain.round (chain : Chain) (lo hi : Nat) (node : Address) (filter : RaidenContractFilter) :
    List LogReceipt :=
  (filter.toWeb3Filters lo hi node).flatMap chain.getLogs

theorem queryFilters_logs {responses : Responses} {maxDuration : Nat}
    {done : List LogReceipt × Nat × Responses}
    (h : queryFilters chain params responses maxDuration = some done) :
    done.1 = params.flatMap chain.getLogs := by
  induction params generalizing responses maxDuration done with
  | nil =>
    cases h
    rfl
  | cons first rest ih =>
    unfold queryFilters at h
    split at h
    · cases h
    · obtain ⟨tail, htail, rfl⟩ := Option.map_eq_some_iff.mp h
      rw [List.flatMap_cons, ← ih htail]

/-- A log is returned as often as it is requested. -/
theorem count_round (hnodup : chain.logs.Nodup) (hlog : log ∈ chain.logs) :
    (chain.round lo hi node filter).count log = filter.requestsFor lo hi node log := by
  unfold Chain.round RaidenContractFilter.requestsFor
  induction filter.toWeb3Filters lo hi node with
  | nil => rfl
  | cons params rest ih =>
    rw [List.flatMap_cons, List.count_append, ih, List.countP_cons, Nat.add_comm]
    congr 1
    unfold Chain.getLogs
    split
    · next hadmits => rw [List.count_filter hadmits, List.count_eq_one_of_mem hnodup hlog]
    · next hadmits => exact List.count_eq_zero_of_not_mem fun hmem => hadmits (List.mem_filter.mp hmem).2

theorem toWeb3Filters_range {params : FilterParams} (h : params ∈ filter.toWeb3Filters lo hi node) :
    params.fromBlock = lo ∧ params.toBlock = hi := by
  simp only [RaidenContractFilter.toWeb3Filters, List.mem_append, List.mem_map] at h
  rcases h with (((h | ⟨_, _, rfl⟩) | h) | ⟨_, _, rfl⟩) | ⟨_, _, rfl⟩
  · split at h
    · cases List.mem_singleton.mp h
      exact ⟨rfl, rfl⟩
    · cases h
  · exact ⟨rfl, rfl⟩
  · split at h
    · rcases List.mem_pair.mp h with rfl | rfl <;> exact ⟨rfl, rfl⟩
    · cases h
  · exact ⟨rfl, rfl⟩
  · exact ⟨rfl, rfl⟩

theorem mem_round : log ∈ chain.round lo hi node filter ↔
    log ∈ chain.logs ∧ InRange lo hi log ∧ 0 < filter.requestsFor lo hi node log := by
  simp only [Chain.round, Chain.getLogs, List.mem_flatMap, List.mem_filter, RaidenContractFilter.requestsFor,
    List.countP_pos_iff]
  constructor
  · rintro ⟨params, hparams, hlog, hadmits⟩
    refine ⟨hlog, ?_, params, hparams, hadmits⟩
    obtain ⟨hfrom, hto⟩ := toWeb3Filters_range hparams
    simp only [FilterParams.admits, Bool.and_eq_true, decide_eq_true_eq, hfrom, hto] at hadmits
    exact hadmits.1.1
  · rintro ⟨hlog, -, params, hparams, hadmits⟩
    exact ⟨params, hparams, hlog, hadmits⟩

/-! ## What a round discovers -/

def Chain.CreatedIn (chain : Chain) (lo hi : Nat) (registries : Finset Address)
    (net : Address) : Prop :=
  ∃ log ∈ chain.logs, InRange lo hi log ∧ log.address ∈ registries ∧
    ∃ tokenAddress, log.event = .tokenNetworkCreated tokenAddress net

def LogReceipt.opens (node : Address) (channelIdentifier : ChannelID) (log : LogReceipt) : Prop :=
  ∃ participant1 participant2, log.event = .channelOpened channelIdentifier participant1 participant2 ∧
    (participant1 = node ∨ participant2 = node)

def Chain.OpenedIn (chain : Chain) (lo hi : Nat) (node net : Address)
    (channelIdentifier : ChannelID) : Prop :=
  ∃ log ∈ chain.logs, InRange lo hi log ∧ log.address = net ∧
    log.opens node channelIdentifier

def RaidenContractFilter.lists (filter : RaidenContractFilter) (net : Address)
    (channelIdentifier : ChannelID) : Prop :=
  ∃ cs, filter.channelsOfTokenNetwork.get? net = some cs ∧ channelIdentifier ∈ cs

theorem RaidenContractFilter.lists.follows (h : filter.lists net cid) : filter.follows net cid := by
  obtain ⟨cs, hget, hmem⟩ := h
  exact ⟨cs, hget, .inr hmem⟩

def RaidenContractFilter.Proper (filter : RaidenContractFilter) : Prop :=
  ∀ net cs, filter.channelsOfTokenNetwork.get? net = some cs → cs ≠ ∅

theorem RaidenContractFilter.Proper.follows_iff (hproper : filter.Proper) :
    filter.follows net cid ↔ filter.lists net cid := by
  refine ⟨?_, fun h => h.follows⟩
  rintro ⟨cs, hget, hempty | hmem⟩
  · exact absurd hempty (hproper net cs hget)
  · exact ⟨cs, hget, hmem⟩

def DecodedEvent.Opens (net : Address) (channelIdentifier : ChannelID) (entry : DecodedEvent) :
    Prop :=
  entry.originatingContract = net ∧ ∃ participant1 participant2,
    entry.event = .channelOpened channelIdentifier participant1 participant2

structure Follows (es : List DecodedEvent) (filter filter' : RaidenContractFilter) : Prop where
  registries : filter'.tokenNetworkRegistryAddresses = filter.tokenNetworkRegistryAddresses
  networks : filter'.tokenNetworkAddresses = filter.tokenNetworkAddresses
  secretRegistry : filter'.secretRegistryAddress = filter.secretRegistryAddress
  proper : filter.Proper → filter'.Proper
  lists : ∀ net channelIdentifier, filter'.lists net channelIdentifier ↔
    filter.lists net channelIdentifier ∨ ∃ entry ∈ es, entry.Opens net channelIdentifier

theorem followChannel_follows (filter : RaidenContractFilter) (entry : DecodedEvent) :
    Follows [entry] filter (followChannel filter entry) := by
  unfold followChannel
  split
  · next cid participant1 participant2 hevent =>
    refine ⟨rfl, rfl, rfl, fun hproper net cs hget => ?_, fun net other => ?_⟩
    · rw [Dict.get?_set] at hget
      split at hget
      · cases hget
        exact Finset.insert_ne_empty _ _
      · exact hproper net cs hget
    · simp only [RaidenContractFilter.lists, Dict.get?_set, List.mem_singleton, exists_eq_left,
        DecodedEvent.Opens, hevent]
      by_cases htn : net = entry.originatingContract
      · subst htn
        cases filter.channelsOfTokenNetwork.get? entry.originatingContract <;> simp [or_comm, eq_comm]
      · simp [htn, Ne.symm htn]
  · next hevent =>
    refine ⟨rfl, rfl, rfl, id, fun net other => ?_⟩
    simp only [List.mem_singleton, exists_eq_left, DecodedEvent.Opens]
    refine (or_iff_left ?_).symm
    rintro ⟨-, participant1, participant2, hopened⟩
    exact hevent _ _ _ hopened

theorem foldl_follows (es : List DecodedEvent) (filter : RaidenContractFilter) :
    Follows es filter (es.foldl followChannel filter) := by
  induction es generalizing filter with
  | nil => exact ⟨rfl, rfl, rfl, id, fun _ _ => by simp⟩
  | cons entry rest ih =>
    have hfirst := followChannel_follows filter entry
    have hrest := ih (followChannel filter entry)
    refine ⟨hrest.registries.trans hfirst.registries, hrest.networks.trans hfirst.networks,
      hrest.secretRegistry.trans hfirst.secretRegistry, fun h => hrest.proper (hfirst.proper h),
      fun net cid => ?_⟩
    rw [List.foldl_cons, hrest.lists, hfirst.lists]
    simp only [List.mem_singleton, exists_eq_left, List.exists_mem_cons_iff, or_assoc]

/-- What the events let the node follow. -/
theorem newFiltersFromEvents_spec (es : List DecodedEvent) :
    (newFiltersFromEvents es).tokenNetworkRegistryAddresses = ∅ ∧
    (newFiltersFromEvents es).secretRegistryAddress = none ∧ (newFiltersFromEvents es).Proper ∧
    (∀ net, net ∈ (newFiltersFromEvents es).tokenNetworkAddresses ↔
      ∃ entry ∈ es, tokenNetworkOf entry = some net) ∧
    ∀ net cid, (newFiltersFromEvents es).lists net cid ↔ ∃ entry ∈ es, entry.Opens net cid := by
  have h := foldl_follows es
    { tokenNetworkAddresses := (es.filterMap tokenNetworkOf).toFinset
      ignoreSecretRegistryUntilChannelFound := true }
  refine ⟨h.registries, h.secretRegistry, h.proper fun _ _ hget => ?_, fun net => ?_,
    fun net cid => ?_⟩
  · cases hget
  · rw [newFiltersFromEvents, h.networks, List.mem_toFinset, List.mem_filterMap]
  · refine (h.lists net cid).trans (or_iff_right ?_)
    rintro ⟨cs, hget, -⟩
    cases hget

structure Discovery (chain : Chain) (lo hi : Nat) (node : Address)
    (filter discovered : RaidenContractFilter) : Prop where
  registries : discovered.tokenNetworkRegistryAddresses = ∅
  secretRegistry : discovered.secretRegistryAddress = none
  proper : discovered.Proper
  networks : ∀ net, net ∈ discovered.tokenNetworkAddresses ↔
    chain.CreatedIn lo hi filter.tokenNetworkRegistryAddresses net
  lists : ∀ net channelIdentifier, discovered.lists net channelIdentifier ↔
    net ∈ filter.tokenNetworkAddresses ∧
      chain.OpenedIn lo hi node net channelIdentifier

theorem mem_round_created (h : log.event = .tokenNetworkCreated tokenAddress net) :
    log ∈ chain.round lo hi node filter ↔ log ∈ chain.logs ∧ InRange lo hi log ∧
        log.address ∈ filter.tokenNetworkRegistryAddresses := by
  rw [mem_round]
  refine and_congr_right fun _ => and_congr_right fun hrange => ?_
  rw [requestsFor_created hrange h]
  split <;> simp_all

theorem mem_round_opened (h : log.event = .channelOpened cid participant1 participant2) :
    log ∈ chain.round lo hi node filter ↔
      log ∈ chain.logs ∧ InRange lo hi log ∧ log.address ∈ filter.tokenNetworkAddresses ∧
        (participant1 = node ∨ participant2 = node) := by
  rw [mem_round]
  refine and_congr_right fun _ => and_congr_right fun hrange => ?_
  rw [requestsFor_opened hrange h]
  by_cases haddress : log.address ∈ filter.tokenNetworkAddresses <;>
    by_cases h₁ : participant1 = node <;> by_cases h₂ : participant2 = node <;> simp [haddress, h₁, h₂]

theorem tokenNetworkOf_decoded :
    tokenNetworkOf (log.decoded chainId) = some net ↔
      ∃ tokenAddress, log.event = .tokenNetworkCreated tokenAddress net := by
  unfold tokenNetworkOf LogReceipt.decoded
  cases log.event <;> simp

theorem Discovery.of_round {es : List DecodedEvent}
    (h : es.Perm ((chain.round lo hi node filter).map (LogReceipt.decoded chainId))) :
    Discovery chain lo hi node filter (newFiltersFromEvents es) := by
  obtain ⟨hregistries, hsecret, hproper, hnetworks, hlists⟩ := newFiltersFromEvents_spec es
  refine ⟨hregistries, hsecret, hproper, fun net => ?_, fun net cid => ?_⟩
  · rw [hnetworks]
    simp only [h.mem_iff, List.mem_map, exists_exists_and_eq_and, tokenNetworkOf_decoded]
    constructor
    · rintro ⟨log, hlog, tokenAddress, hevent⟩
      obtain ⟨hmem, hrange, haddress⟩ := (mem_round_created hevent).mp hlog
      exact ⟨log, hmem, hrange, haddress, tokenAddress, hevent⟩
    · rintro ⟨log, hmem, hrange, haddress, tokenAddress, hevent⟩
      exact ⟨log, (mem_round_created hevent).mpr ⟨hmem, hrange, haddress⟩, tokenAddress, hevent⟩
  · rw [hlists]
    simp only [h.mem_iff, List.mem_map, exists_exists_and_eq_and, DecodedEvent.Opens, LogReceipt.decoded]
    constructor
    · rintro ⟨log, hlog, rfl, participant1, participant2, hevent⟩
      obtain ⟨hmem, hrange, haddress, hown⟩ := (mem_round_opened hevent).mp hlog
      exact ⟨haddress, log, hmem, hrange, rfl, participant1, participant2, hevent, hown⟩
    · rintro ⟨haddress, log, hmem, hrange, rfl, participant1, participant2, hevent, hown⟩
      exact ⟨log, (mem_round_opened hevent).mpr ⟨hmem, hrange, haddress, hown⟩, rfl, participant1,
        participant2, hevent⟩

theorem union_spec {other union : RaidenContractFilter} (h : filter.union other = .ok union) :
    union.tokenNetworkRegistryAddresses =
      filter.tokenNetworkRegistryAddresses ∪ other.tokenNetworkRegistryAddresses ∧
    union.tokenNetworkAddresses = filter.tokenNetworkAddresses ∪ other.tokenNetworkAddresses ∧
    ∀ net cid, union.lists net cid ↔ filter.lists net cid ∨ other.lists net cid := by
  simp only [RaidenContractFilter.union, seq_ok_iff] at h
  obtain ⟨secretRegistry, -, h⟩ := h
  cases h
  refine ⟨rfl, rfl, fun net cid => ?_⟩
  simp only [RaidenContractFilter.lists, Dict.get?_ofKeys]
  cases hfilter : filter.channelsOfTokenNetwork.get? net <;>
    cases hother : other.channelsOfTokenNetwork.get? net <;>
    simp [Dict.mem_keys_iff, Dict.mem_iff, hfilter, hother]

/-! ## The rounds of a call -/

section Rounds

variable (chain lo hi node) (chainId : ChainID)

/-- The rounds of a call that returns: from a filter and the filter of the node, with the
events and the filter of the node in the end. -/
inductive Rounds : RaidenContractFilter → RaidenContractFilter → List DecodedEvent →
    RaidenContractFilter → Prop
  | idle {filter own : RaidenContractFilter} (inactive : filter.isActive = false) : Rounds filter own [] own
  | empty {filter own : RaidenContractFilter} (none : chain.round lo hi node filter = []) :
      Rounds filter own [] own
  | round {filter own union final : RaidenContractFilter} {decoded es : List DecodedEvent}
      (active : filter.isActive = true) (sorted : decoded.Pairwise fun a b => a.blockNumber ≤ b.blockNumber)
      (perm : decoded.Perm ((chain.round lo hi node filter).map (LogReceipt.decoded chainId)))
      (extended : own.union (newFiltersFromEvents decoded) = .ok union)
      (rest : Rounds (newFiltersFromEvents decoded) union es final) :
      Rounds filter own (decoded ++ es) final

/-- The rounds of a call that may raise, as far as they got. -/
inductive Extends : RaidenContractFilter → RaidenContractFilter → RaidenContractFilter → Prop
  | stop {filter own : RaidenContractFilter} : Extends filter own own
  | round {filter own union final : RaidenContractFilter} {decoded : List DecodedEvent}
      (perm : decoded.Perm ((chain.round lo hi node filter).map (LogReceipt.decoded chainId)))
      (extended : own.union (newFiltersFromEvents decoded) = .ok union)
      (rest : Extends (newFiltersFromEvents decoded) union final) : Extends filter own final

end Rounds

section Track

variable {s s' : BlockchainEvents} {responses : Responses} {result : List DecodedEvent}
  {rounds maxDuration queried : Nat} {outcome : Except PollError (List DecodedEvent × Nat)}

theorem decodeLog_cases (addressToAbi : AddressToAbi) (chainId : ChainID) (log : LogReceipt) :
    decodeLog addressToAbi chainId log = .ok (log.decoded chainId) ∨
      ∃ e, decodeLog addressToAbi chainId log = .error e ∧ e ≠ .tooManyRounds := by
  unfold decodeLog decodeRaidenEventToInternal
  split
  · exact .inr ⟨_, rfl, by simp⟩
  · split_ifs
    all_goals first | exact .inl rfl | exact .inr ⟨_, rfl, by simp⟩

theorem mapM_decodeLog (addressToAbi : AddressToAbi) (chainId : ChainID) (logs : List LogReceipt) :
    logs.mapM (decodeLog addressToAbi chainId) = .ok (logs.map (LogReceipt.decoded chainId)) ∨
      ∃ e, logs.mapM (decodeLog addressToAbi chainId) = .error e ∧ e ≠ .tooManyRounds := by
  induction logs with
  | nil => exact .inl rfl
  | cons log rest ih =>
    rw [List.mapM_cons]
    rcases decodeLog_cases addressToAbi chainId log with hlog | ⟨e, hlog, he⟩
    · rw [hlog]
      rcases ih with hrest | ⟨e, hrest, he⟩
      · rw [hrest]
        exact .inl rfl
      · rw [hrest]
        exact .inr ⟨e, rfl, he⟩
    · rw [hlog]
      exact .inr ⟨e, rfl, he⟩

theorem exists_union (filter : RaidenContractFilter) (es : List DecodedEvent) :
    ∃ union, filter.union (newFiltersFromEvents es) = .ok union := by
  have hnone := (newFiltersFromEvents_spec es).2.1
  unfold RaidenContractFilter.union
  rw [hnone]
  cases filter.secretRegistryAddress <;> exact ⟨_, rfl⟩

theorem sortEvents_sorted (es : List DecodedEvent) :
    (sortEvents es).Pairwise fun a b => a.blockNumber ≤ b.blockNumber :=
  haveI : Std.Total fun a b : DecodedEvent => a.blockNumber ≤ b.blockNumber := ⟨fun _ _ => Nat.le_total _ _⟩
  haveI : IsTrans DecodedEvent fun a b => a.blockNumber ≤ b.blockNumber := ⟨fun _ _ _ => Nat.le_trans⟩
  List.pairwise_insertionSort _ es

/-- One step of the loop. -/
theorem trackFilters_cases
    (h : trackFilters chain lo hi (rounds + 1) s filter responses result maxDuration =
      (outcome, s', queried)) :
    (s' = s ∧ queried = 1 ∧ (∃ e, outcome = .error e ∧ e ≠ .tooManyRounds)) ∨
    (s' = s ∧ (filter.isActive = false ∧ queried = 0 ∨
        chain.round lo hi s.nodeAddress filter = [] ∧ queried = 1) ∧
      ∃ duration, outcome = .ok (result, duration)) ∨
    ∃ decoded union responses' duration queried', queried = queried' + 1 ∧ filter.isActive = true ∧
      (decoded.Pairwise fun a b => a.blockNumber ≤ b.blockNumber) ∧
      decoded.Perm
        ((chain.round lo hi s.nodeAddress filter).map (LogReceipt.decoded s.chainId)) ∧
      s.eventFilter.union (newFiltersFromEvents decoded) = .ok union ∧
      trackFilters chain lo hi rounds
        { s with
          eventFilter := union
          addressToAbi := fun addr =>
            ((newFiltersFromEvents decoded).abiOfContractAddress addr).or (s.addressToAbi addr) }
        (newFiltersFromEvents decoded) responses' (result ++ decoded) duration =
          (outcome, s', queried') := by
  unfold trackFilters at h
  split at h
  · next hinactive =>
    cases h
    exact .inr (.inl ⟨rfl, .inl ⟨Bool.eq_false_iff.mpr hinactive, rfl⟩, _, rfl⟩)
  · next hactive =>
    split at h
    · cases h
      exact .inl ⟨rfl, rfl, _, rfl, by decide⟩
    · next logs duration responses' hquery =>
      have hlogs : logs = chain.round lo hi s.nodeAddress filter := queryFilters_logs hquery
      subst hlogs
      split at h
      · next hempty =>
        cases h
        exact .inr (.inl ⟨rfl, .inr ⟨hempty, rfl⟩, _, rfl⟩)
      · rcases mapM_decodeLog s.addressToAbi s.chainId
          (chain.round lo hi s.nodeAddress filter) with hdecode | ⟨e, hdecode, he⟩
        · obtain ⟨union, hunion⟩ := exists_union s.eventFilter (sortEvents
            ((chain.round lo hi s.nodeAddress filter).map (LogReceipt.decoded s.chainId)))
          simp only [hdecode, hunion] at h
          cases h
          exact .inr (.inr ⟨_, union, responses', duration, _, rfl, not_not.mp hactive, sortEvents_sorted _,
            List.perm_insertionSort _ _, hunion, rfl⟩)
        · simp only [hdecode] at h
          cases h
          exact .inl ⟨rfl, rfl, e, rfl, he⟩

/-- What a query leaves of the state. -/
structure Kept (s s' : BlockchainEvents) : Prop where
  chainId : s'.chainId = s.chainId
  nodeAddress : s'.nodeAddress = s.nodeAddress
  lastFetchedBlock : s'.lastFetchedBlock = s.lastFetchedBlock
  adjuster : s'.blockBatchSizeAdjuster = s.blockBatchSizeAdjuster

theorem trackFilters_spec
    (h : trackFilters chain lo hi rounds s filter responses result maxDuration = (outcome, s', queried)) :
    Kept s s' ∧ Extends chain lo hi s.nodeAddress s.chainId filter s.eventFilter s'.eventFilter ∧
      ∀ es duration, outcome = .ok (es, duration) → ∃ found, es = result ++ found ∧
        Rounds chain lo hi s.nodeAddress s.chainId filter s.eventFilter found s'.eventFilter := by
  induction rounds generalizing s filter responses result maxDuration queried with
  | zero =>
    cases h
    exact ⟨⟨rfl, rfl, rfl, rfl⟩, .stop, nofun⟩
  | succ rounds ih =>
    rcases trackFilters_cases h with ⟨rfl, -, e, rfl, -⟩ | ⟨rfl, hlast, duration, rfl⟩ |
      ⟨decoded, union, responses', duration, _, -, hactive, hsorted, hperm, hunion, hrest⟩
    · exact ⟨⟨rfl, rfl, rfl, rfl⟩, .stop, nofun⟩
    · refine ⟨⟨rfl, rfl, rfl, rfl⟩, .stop, fun es _ h => ?_⟩
      cases h
      refine ⟨[], (List.append_nil _).symm, ?_⟩
      rcases hlast with ⟨hinactive, -⟩ | ⟨hempty, -⟩
      · exact .idle hinactive
      · exact .empty hempty
    · obtain ⟨hkept, hextends, hrounds⟩ := ih hrest
      refine ⟨⟨hkept.chainId, hkept.nodeAddress, hkept.lastFetchedBlock, hkept.adjuster⟩,
        .round hperm hunion hextends, fun es duration' houtcome => ?_⟩
      obtain ⟨found, rfl, hfound⟩ := hrounds es duration' houtcome
      exact ⟨decoded ++ found, List.append_assoc _ _ _, .round hactive hsorted hperm hunion hfound⟩

theorem queryAndTrack_spec (h : queryAndTrack chain lo hi s responses = (outcome, s')) :
    Kept s s' ∧ Extends chain lo hi s.nodeAddress s.chainId s.eventFilter s.eventFilter s'.eventFilter ∧
      ∀ es duration, outcome = .ok (es, duration) →
        Rounds chain lo hi s.nodeAddress s.chainId s.eventFilter s.eventFilter es s'.eventFilter := by
  cases h
  have htrack : trackFilters chain lo hi maxRounds s s.eventFilter responses [] 0 = (_, _, _) := rfl
  obtain ⟨hkept, hextends, hrounds⟩ := trackFilters_spec htrack
  refine ⟨hkept, hextends, fun es duration houtcome => ?_⟩
  obtain ⟨found, rfl, hfound⟩ := hrounds es duration houtcome
  exact hfound

/-- How many rounds may follow a filter, at most. -/
def RaidenContractFilter.Rank (filter : RaidenContractFilter) : Nat → Prop
  | 0 => filter.isActive = false
  | 1 => filter.tokenNetworkRegistryAddresses = ∅ ∧ filter.tokenNetworkAddresses = ∅
  | 2 => filter.tokenNetworkRegistryAddresses = ∅
  | _ + 3 => True

theorem isActive_eq_false : filter.isActive = false ↔ filter.tokenNetworkRegistryAddresses = ∅ ∧
    filter.tokenNetworkAddresses = ∅ ∧ (∀ net cid,
      ¬filter.lists net cid) ∧ filter.secretRegistryAddress = none := by
  have hchannels : filter.channelsOfTokenNetwork.values.any (fun cs => cs ≠ ∅) = false ↔
      ∀ net cid, ¬filter.lists net cid := by
    simp only [List.any_eq_false, Dict.mem_values_iff, decide_eq_true_eq, not_not,
      Finset.eq_empty_iff_forall_notMem, RaidenContractFilter.lists]
    constructor
    · rintro h net cid ⟨cs, hget, hmem⟩
      exact h cs ⟨net, hget⟩ cid hmem
    · rintro h cs ⟨net, hget⟩ cid hmem
      exact h net cid ⟨cs, hget, hmem⟩
  rw [← hchannels]
  simp [RaidenContractFilter.isActive]

theorem Discovery.rank (h : Discovery chain lo hi node filter discovered)
    (hrank : filter.Rank (n + 1)) : discovered.Rank n := by
  have hcreated : filter.tokenNetworkRegistryAddresses = ∅ → discovered.tokenNetworkAddresses = ∅ := by
    intro hempty
    refine Finset.eq_empty_of_forall_notMem fun net hmem => ?_
    obtain ⟨log, -, -, haddress, -⟩ := (h.networks net).mp hmem
    rw [hempty] at haddress
    exact Finset.notMem_empty _ haddress
  match n with
  | 0 =>
    refine isActive_eq_false.mpr ⟨h.registries, hcreated hrank.1,
      fun net cid hlists => ?_, h.secretRegistry⟩
    have hmem := ((h.lists net cid).mp hlists).1
    rw [hrank.2] at hmem
    exact Finset.notMem_empty _ hmem
  | 1 => exact ⟨h.registries, hcreated hrank⟩
  | 2 => exact h.registries
  | _ + 3 => trivial

/-- The rank bounds the rounds of queries, and a larger bound on the rounds is not reached. -/
theorem trackFilters_ends (hrank : filter.Rank n)
    (h : trackFilters chain lo hi rounds s filter responses result maxDuration = (outcome, s', queried)) :
    queried ≤ n ∧ (n < rounds → outcome ≠ .error .tooManyRounds) := by
  induction rounds generalizing n s filter responses result maxDuration queried with
  | zero =>
    cases h
    exact ⟨Nat.zero_le n, fun hrounds => absurd hrounds (Nat.not_lt_zero n)⟩
  | succ rounds ih =>
    cases n with
    | zero =>
      -- the filter is inactive, so this round does not take place
      unfold trackFilters at h
      rw [if_pos (by simp [show filter.isActive = false from hrank])] at h
      cases h
      exact ⟨Nat.le_refl 0, fun _ => nofun⟩
    | succ n =>
      rcases trackFilters_cases h with ⟨-, rfl, e, rfl, he⟩ | ⟨-, hlast, duration, rfl⟩ |
        ⟨decoded, union, responses', duration, queried', rfl, -, -, hperm, hunion, hrest⟩
      · exact ⟨Nat.le_add_left 1 n, fun _ heq => he (Except.error.inj heq)⟩
      · exact ⟨by omega, fun _ => nofun⟩
      · obtain ⟨hle, hends⟩ := ih ((Discovery.of_round hperm).rank hrank) hrest
        exact ⟨Nat.succ_le_succ hle, fun hrounds => hends (Nat.lt_of_succ_lt_succ hrounds)⟩

/-- The loop stops by itself after at most three rounds of queries: a registry leads to token
networks, these to channels, and channels to nothing. -/
theorem filter_discovery_ends (chain : Chain) (lo hi : Nat) (s : BlockchainEvents)
    (responses : Responses) (rounds : Nat) :
    (trackFilters chain lo hi rounds s s.eventFilter responses [] 0).2.2 ≤ 3 ∧
      (trackFilters chain lo hi (rounds + 4) s s.eventFilter responses [] 0).1 ≠
        .error .tooManyRounds := by
  have hrank : s.eventFilter.Rank 3 := trivial
  exact ⟨(trackFilters_ends hrank rfl).1, (trackFilters_ends hrank rfl).2 (Nat.lt_add_left rounds (by decide))⟩

end Track

/-! ## How often a call delivers a log -/

section Count

variable {chainId : ChainID} {own final : RaidenContractFilter} {es : List DecodedEvent}

theorem LogReceipt.decoded_injective (chainId : ChainID) :
    Function.Injective (LogReceipt.decoded chainId) := by
  rintro ⟨⟩ ⟨⟩ h
  simp_all [LogReceipt.decoded]

theorem count_decoded {decoded : List DecodedEvent} (hnodup : chain.logs.Nodup) (hlog : log ∈ chain.logs)
    (hperm : decoded.Perm ((chain.round lo hi node filter).map (LogReceipt.decoded chainId))) :
    decoded.count (log.decoded chainId) = filter.requestsFor lo hi node log := by
  rw [hperm.count_eq, List.count_map_of_injective _ _ (LogReceipt.decoded_injective chainId),
    count_round hnodup hlog]

/-- Nothing was created by no registry. -/
theorem Chain.not_createdIn_empty : ¬chain.CreatedIn lo hi ∅ net := by
  rintro ⟨log, -, -, haddress, -⟩
  exact Finset.notMem_empty _ haddress

theorem Chain.CreatedIn.round_ne_nil
    (h : chain.CreatedIn lo hi filter.tokenNetworkRegistryAddresses net) :
    chain.round lo hi node filter ≠ [] := by
  obtain ⟨log, hlog, hrange, haddress, tokenAddress, hevent⟩ := h
  exact List.ne_nil_of_mem ((mem_round_created hevent).mpr ⟨hlog, hrange, haddress⟩)

theorem Chain.OpenedIn.round_ne_nil (h : chain.OpenedIn lo hi node net cid)
    (hmem : net ∈ filter.tokenNetworkAddresses) : chain.round lo hi node filter ≠ [] := by
  obtain ⟨log, hlog, hrange, rfl, participant1, participant2, hevent, hown⟩ := h
  exact List.ne_nil_of_mem ((mem_round_opened hevent).mpr ⟨hlog, hrange, hmem, hown⟩)

variable (hnodup : chain.logs.Nodup) (hlog : log ∈ chain.logs) (hrange : InRange lo hi log)
  (h : Rounds chain lo hi node chainId filter own es final)

include hnodup hlog hrange h

theorem Rounds.count_created (hevent : log.event = .tokenNetworkCreated tokenAddress net) :
    es.count (log.decoded chainId) =
      if log.address ∈ filter.tokenNetworkRegistryAddresses then 1 else 0 := by
  induction h with
  | idle inactive => simp [(isActive_eq_false.mp inactive).1]
  | @empty filter own none =>
    have hnot : log ∉ chain.round lo hi node filter := none ▸ List.not_mem_nil
    rw [mem_round_created hevent] at hnot
    simp [show log.address ∉ filter.tokenNetworkRegistryAddresses from fun hmem => hnot ⟨hlog, hrange, hmem⟩]
  | round _ _ perm extended rest ih =>
    rw [List.count_append, count_decoded hnodup hlog perm, requestsFor_created hrange hevent, ih,
      (Discovery.of_round perm).registries]
    simp

open scoped Classical in
theorem Rounds.count_opened (hevent : log.event = .channelOpened cid participant1 participant2)
    (hown : participant1 = node ∨ participant2 = node) (hne : participant1 ≠ participant2) :
    es.count (log.decoded chainId) = (if log.address ∈ filter.tokenNetworkAddresses then 1 else 0) +
      (if chain.CreatedIn lo hi filter.tokenNetworkRegistryAddresses log.address
        then 1 else 0) := by
  induction h with
  | idle inactive =>
    obtain ⟨hregistries, hnetworks, -⟩ := isActive_eq_false.mp inactive
    simp [hregistries, hnetworks, Chain.not_createdIn_empty]
  | @empty filter own none =>
    have hnetworks : log.address ∉ filter.tokenNetworkAddresses := fun hmem =>
      Chain.OpenedIn.round_ne_nil ⟨log, hlog, hrange, rfl, participant1, participant2, hevent, hown⟩ hmem none
    have hcreated : ¬chain.CreatedIn lo hi filter.tokenNetworkRegistryAddresses log.address :=
      fun hcreated => hcreated.round_ne_nil none
    simp [hnetworks, hcreated]
  | round _ _ perm extended rest ih =>
    have hdiscovery := Discovery.of_round perm
    have hone : (if participant2 = node then 1 else 0) + (if participant1 = node then 1 else 0) = 1 := by
      rcases hown with rfl | rfl
      · simp [Ne.symm hne]
      · simp [hne]
    rw [List.count_append, count_decoded hnodup hlog perm, requestsFor_opened hrange hevent, ih, hone,
      hdiscovery.registries]
    simp [hdiscovery.networks, Chain.not_createdIn_empty]

open scoped Classical in
theorem Rounds.count_channel (hevent : log.event = .channel event cid)
    (hqueried : event ≠ .balanceProofUpdated) (hfilter : filter.isActive = true ∨ filter.Proper) :
    es.count (log.decoded chainId) = (if filter.follows log.address cid then 1 else 0) +
      (if log.address ∈ filter.tokenNetworkAddresses ∧
        chain.OpenedIn lo hi node log.address cid then 1 else 0) +
      (if chain.CreatedIn lo hi filter.tokenNetworkRegistryAddresses log.address ∧
        chain.OpenedIn lo hi node log.address cid then 1 else 0) := by
  induction h with
  | @idle filter own inactive =>
    obtain ⟨hregistries, hnetworks, hlists, -⟩ := isActive_eq_false.mp inactive
    have hproper : filter.Proper := hfilter.resolve_left (by rw [inactive]; exact Bool.false_ne_true)
    have hfollows : ¬filter.follows log.address cid :=
      fun h => hlists _ _ (hproper.follows_iff.mp h)
    simp [hregistries, hnetworks, hfollows, Chain.not_createdIn_empty]
  | @empty filter own none =>
    have hfollows : ¬filter.follows log.address cid := by
      intro hfollows
      have hmem : log ∈ chain.round lo hi node filter := by
        refine mem_round.mpr ⟨hlog, hrange, ?_⟩
        rw [requestsFor_channel hrange hevent hqueried, if_pos hfollows]
        exact Nat.one_pos
      exact List.ne_nil_of_mem hmem none
    have hopened : ¬(log.address ∈ filter.tokenNetworkAddresses ∧
        chain.OpenedIn lo hi node log.address cid) :=
      fun h => h.2.round_ne_nil h.1 none
    have hcreated : ¬(chain.CreatedIn lo hi filter.tokenNetworkRegistryAddresses log.address ∧
        chain.OpenedIn lo hi node log.address cid) :=
      fun h => h.1.round_ne_nil none
    simp only [hfollows, hopened, hcreated, if_false, List.count_nil]
  | round _ _ perm extended rest ih =>
    have hdiscovery := Discovery.of_round perm
    rw [List.count_append, count_decoded hnodup hlog perm, requestsFor_channel hrange hevent hqueried,
      ih (.inr hdiscovery.proper), hdiscovery.registries]
    simp [hdiscovery.networks, hdiscovery.lists, hdiscovery.proper.follows_iff, Chain.not_createdIn_empty,
      Nat.add_assoc]

end Count

/-! ## What the filter of the node gains -/

section Gain

variable {chainId : ChainID} {own final : RaidenContractFilter} {es : List DecodedEvent}

/-- The filter of the node only grows, and keeps its registries. -/
structure Grows (own final : RaidenContractFilter) : Prop where
  registries : final.tokenNetworkRegistryAddresses = own.tokenNetworkRegistryAddresses
  networks : own.tokenNetworkAddresses ⊆ final.tokenNetworkAddresses
  lists : ∀ net channelIdentifier, own.lists net channelIdentifier →
    final.lists net channelIdentifier

theorem Grows.union {union : RaidenContractFilter} (h : own.union discovered = .ok union)
    (hregistries : discovered.tokenNetworkRegistryAddresses = ∅) : Grows own union := by
  obtain ⟨hr, hn, hl⟩ := union_spec h
  rw [hregistries, Finset.union_empty] at hr
  exact ⟨hr, hn ▸ Finset.subset_union_left, fun _ _ h => (hl _ _).mpr (.inl h)⟩

theorem Grows.trans {union : RaidenContractFilter} (h : Grows own union) (h' : Grows union final) :
    Grows own final :=
  ⟨h'.registries.trans h.registries, h.networks.trans h'.networks, fun _ _ hl => h'.lists _ _ (h.lists _ _ hl)⟩

theorem Extends.grows (h : Extends chain lo hi node chainId filter own final) :
    Grows own final := by
  induction h with
  | stop => exact ⟨rfl, Finset.Subset.refl _, fun _ _ h => h⟩
  | round perm extended _ ih => exact (Grows.union extended (Discovery.of_round perm).registries).trans ih

variable (h : Rounds chain lo hi node chainId filter own es final)

include h

theorem Rounds.extends : Extends chain lo hi node chainId filter own final := by
  induction h with
  | idle | empty => exact .stop
  | round _ _ perm extended _ ih => exact .round perm extended ih

/-- Rounds that return follow all that was created or opened in the range. -/
theorem Rounds.complete :
    (∀ net, chain.CreatedIn lo hi filter.tokenNetworkRegistryAddresses net →
      net ∈ final.tokenNetworkAddresses) ∧ ∀ net cid, (net ∈ filter.tokenNetworkAddresses ∨
        chain.CreatedIn lo hi filter.tokenNetworkRegistryAddresses net) →
      chain.OpenedIn lo hi node net cid → final.lists net cid := by
  induction h with
  | idle inactive =>
    obtain ⟨hregistries, hnetworks, -⟩ := isActive_eq_false.mp inactive
    rw [hregistries, hnetworks]
    refine ⟨fun _ h => absurd h Chain.not_createdIn_empty, fun _ _ h => ?_⟩
    rcases h with h | h
    · exact absurd h (Finset.notMem_empty _)
    · exact absurd h Chain.not_createdIn_empty
  | empty none =>
    refine ⟨fun _ h => absurd none h.round_ne_nil, fun _ _ h hopened => ?_⟩
    rcases h with h | h
    · exact absurd none (hopened.round_ne_nil h)
    · exact absurd none h.round_ne_nil
  | round _ _ perm extended rest ih =>
    have hdiscovery := Discovery.of_round perm
    have hgrows := rest.extends.grows
    obtain ⟨-, hnetworks, hlists⟩ := union_spec extended
    refine ⟨fun net hcreated => hgrows.networks ?_, fun net cid h hopened => ?_⟩
    · rw [hnetworks, Finset.mem_union, hdiscovery.networks]
      exact .inr hcreated
    · rcases h with hmem | hcreated
      · refine hgrows.lists _ _ ((hlists _ _).mpr (.inr ?_))
        exact (hdiscovery.lists _ _).mpr ⟨hmem, hopened⟩
      · exact ih.2 _ _ (.inl ((hdiscovery.networks _).mpr hcreated)) hopened

theorem Rounds.range : ∀ event ∈ es, lo ≤ event.blockNumber ∧ event.blockNumber ≤ hi := by
  induction h with
  | idle | empty => exact nofun
  | round _ _ perm _ _ ih =>
    intro event hevent
    rcases List.mem_append.mp hevent with hevent | hevent
    · obtain ⟨log, hlog, rfl⟩ := List.mem_map.mp (perm.mem_iff.mp hevent)
      exact (mem_round.mp hlog).2.1
    · exact ih event hevent

end Gain

end Raiden.Blockchain
