import Raiden.Blockchain.Polling

/-! # The order of the events of a query

Each round of a query is sorted by block number and appended to the rounds before it.
The result is in the order of the chain if nothing that a round returns is later than
what the contracts discovered by it return. -/
namespace Raiden.Blockchain

open Lib

variable (chain : Chain) (lo hi : Nat) (node : Address) (filter : RaidenContractFilter)
  (log : LogReceipt)

/-- The log is of a channel that one of the token networks opens in the range. -/
def Chain.OfOpened (networks : Address → Prop) : Prop :=
  ∃ event channelIdentifier, log.event = .channel event channelIdentifier ∧ event ≠ .balanceProofUpdated ∧
    networks log.address ∧ chain.OpenedIn lo hi node log.address channelIdentifier

/-- The logs of the chain by level: what the filter requests; what token networks created
in the range open, and what happens in the channels opened by token networks of the filter;
and what happens in the channels of token networks created in the range. -/
def AtLevel : Nat → Prop
  | 0 => filter.isActive = true ∧ log ∈ chain.round lo hi node filter
  | 1 => log ∈ chain.logs ∧ InRange lo hi log ∧
      ((∃ channelIdentifier, log.opens node channelIdentifier) ∧
        chain.CreatedIn lo hi filter.tokenNetworkRegistryAddresses log.address ∨
      chain.OfOpened lo hi node log (· ∈ filter.tokenNetworkAddresses))
  | 2 => log ∈ chain.logs ∧ InRange lo hi log ∧ chain.OfOpened lo hi node log
      (chain.CreatedIn lo hi filter.tokenNetworkRegistryAddresses)
  | _ => False

/-- No log is later than one of a higher level. -/
def Ordered : Prop :=
  ∀ level level' log log', level < level' → AtLevel chain lo hi node filter log level →
    AtLevel chain lo hi node filter log' level' → log.blockNumber ≤ log'.blockNumber

section Rounds

variable {chain lo hi node filter log} {discovered own final : RaidenContractFilter}
  {chainId : ChainID} {es : List DecodedEvent}

theorem newFiltersFromEvents_serviceRegistry (es : List DecodedEvent) :
    (newFiltersFromEvents es).serviceRegistry = none := by
  refine List.foldlRecOn es followChannel
    (motive := fun filter : RaidenContractFilter => filter.serviceRegistry = none) rfl ?_
  intro filter hfilter entry _
  unfold followChannel
  split <;> exact hfilter

section

variable (h : Discovery chain lo hi node filter discovered) (hservice : discovered.serviceRegistry = none)

include h hservice

theorem Discovery.mem_round_iff :
    log ∈ chain.round lo hi node discovered ↔ AtLevel chain lo hi node filter log 1 := by
  rw [mem_round, AtLevel, Chain.OfOpened]
  refine and_congr_right fun _ => and_congr_right fun hrange => ?_
  cases hevent : log.event with
  | tokenNetworkCreated => simp [requestsFor_created hrange hevent, h.registries, LogReceipt.opens, hevent]
  | channelOpened cid participant1 participant2 =>
    rw [requestsFor_opened hrange hevent]
    by_cases hmem : log.address ∈ discovered.tokenNetworkAddresses <;>
      by_cases h₁ : participant1 = node <;> by_cases h₂ : participant2 = node <;>
      simp [← h.networks, LogReceipt.opens, hevent, hmem, h₁, h₂]
  | channel event cid =>
    by_cases hqueried : event = .balanceProofUpdated
    · subst hqueried
      simp [requestsFor_eq hrange, hevent, ContractEvent.topics, topicsMatch,
        RaidenContractFilter.channelTopics, LogReceipt.opens]
    · have hlists := h.proper.follows_iff.trans (h.lists log.address cid)
      rw [requestsFor_channel hrange hevent hqueried]
      by_cases hfollows : discovered.follows log.address cid
      · simp [LogReceipt.opens, hevent, hqueried, hfollows, hlists.mp hfollows]
      · simpa [LogReceipt.opens, hevent, hqueried, hfollows] using hlists.not.mp hfollows
  | secretRevealed | registeredService =>
    simp [requestsFor_eq hrange, hevent, ContractEvent.topics, topicsMatch, h.secretRegistry, hservice,
      RaidenContractFilter.channelTopics, LogReceipt.opens]

theorem Discovery.atLevel_iff (log : LogReceipt) (level : Nat) :
    AtLevel chain lo hi node discovered log level ↔
      AtLevel chain lo hi node filter log (level + 1) := by
  match level with
  | 0 =>
    rw [← h.mem_round_iff hservice, AtLevel]
    refine and_iff_right_of_imp fun hmem => ?_
    by_contra hinactive
    obtain ⟨-, hnetworks, hlists, -⟩ := isActive_eq_false.mp (Bool.eq_false_iff.mpr hinactive)
    obtain ⟨-, -, ⟨-, hcreated⟩ | ⟨_, _, -, -, hmem, hopened⟩⟩ := (h.mem_round_iff hservice).mp hmem
    · rw [← h.networks, hnetworks] at hcreated
      exact Finset.notMem_empty _ hcreated
    · exact hlists _ _ ((h.lists _ _).mpr ⟨hmem, hopened⟩)
  | 1 => simp only [AtLevel, Chain.OfOpened, h.registries, h.networks, Chain.not_createdIn_empty, and_false,
      false_or]
  | 2 => simp [AtLevel, Chain.OfOpened, h.registries, Chain.not_createdIn_empty]
  | _ + 3 => exact Iff.rfl

end

/-- Without a first round there is nothing at any level. -/
theorem not_atLevel (h : filter.isActive = false ∨ chain.round lo hi node filter = [])
    (level : Nat) : ¬AtLevel chain lo hi node filter log level := by
  have hcreated : ∀ net,
      ¬chain.CreatedIn lo hi filter.tokenNetworkRegistryAddresses net := by
    intro net hcreated
    rcases h with hinactive | hnil
    · rw [(isActive_eq_false.mp hinactive).1] at hcreated
      exact Chain.not_createdIn_empty hcreated
    · exact hcreated.round_ne_nil hnil
  match level with
  | 0 => rcases h with h | h <;> simp [AtLevel, h]
  | 1 =>
    rintro ⟨-, -, ⟨-, h⟩ | ⟨_, _, -, -, hmem, hopened⟩⟩
    · exact hcreated _ h
    · rcases h with hinactive | hnil
      · rw [(isActive_eq_false.mp hinactive).2.1] at hmem
        exact Finset.notMem_empty _ hmem
      · exact hopened.round_ne_nil hmem hnil
  | 2 => exact fun ⟨_, _, _, _, _, _, h, _⟩ => hcreated _ h
  | _ + 3 => exact id

theorem Rounds.mem_iff (h : Rounds chain lo hi node chainId filter own es final)
    {entry : DecodedEvent} : entry ∈ es ↔ ∃ level log, log.decoded chainId = entry ∧
      AtLevel chain lo hi node filter log level := by
  induction h with
  | idle inactive => simp [not_atLevel (.inl inactive)]
  | empty none => simp [not_atLevel (.inr none)]
  | round active _ perm _ _ ih =>
    simp only [List.mem_append, perm.mem_iff, List.mem_map, ih,
      (Discovery.of_round perm).atLevel_iff (newFiltersFromEvents_serviceRegistry _)]
    constructor
    · rintro (⟨log, hlog, rfl⟩ | ⟨level, log, rfl, hlevel⟩)
      · exact ⟨0, log, rfl, active, hlog⟩
      · exact ⟨level + 1, log, rfl, hlevel⟩
    · rintro ⟨level, log, rfl, hlevel⟩
      cases level with
      | zero => exact .inl ⟨log, hlevel.2, rfl⟩
      | succ level => exact .inr ⟨level, log, rfl, hlevel⟩

theorem Rounds.sorted_iff (h : Rounds chain lo hi node chainId filter own es final) :
    (es.Pairwise fun a b => a.blockNumber ≤ b.blockNumber) ↔ Ordered chain lo hi node filter := by
  induction h with
  | idle inactive => simp [Ordered, not_atLevel (.inl inactive)]
  | empty none => simp [Ordered, not_atLevel (.inr none)]
  | round active sorted perm _ rest ih =>
    have hnext := (Discovery.of_round perm).atLevel_iff (newFiltersFromEvents_serviceRegistry _)
    rw [List.pairwise_append, ih]
    constructor
    · rintro ⟨-, hrest, hacross⟩ level level' log log' hlt hlog hlog'
      obtain ⟨level', rfl⟩ := Nat.exists_eq_add_one_of_ne_zero (Nat.ne_zero_of_lt hlt)
      rw [← hnext] at hlog'
      cases level with
      | zero =>
        exact hacross _ (perm.mem_iff.mpr (List.mem_map_of_mem hlog.2)) _
          (rest.mem_iff.mpr ⟨level', log', rfl, hlog'⟩)
      | succ level =>
        exact hrest level level' log log' (Nat.lt_of_succ_lt_succ hlt) ((hnext log level).mpr hlog) hlog'
    · intro hordered
      refine ⟨sorted, fun level level' log log' hlt hlog hlog' => ?_, fun entry hentry entry' hentry' => ?_⟩
      · exact hordered _ _ log log' (Nat.succ_lt_succ hlt) ((hnext log level).mp hlog)
          ((hnext log' level').mp hlog')
      · obtain ⟨log, hlog, rfl⟩ := List.mem_map.mp (perm.mem_iff.mp hentry)
        obtain ⟨level', log', rfl, hlog'⟩ := rest.mem_iff.mp hentry'
        exact hordered 0 _ log log' (Nat.succ_pos level') ⟨active, hlog⟩ ((hnext log' level').mp hlog')

end Rounds

/-- The events of a query are sorted by block number if and only if no log is later than
those of the contracts that are discovered after it. -/
theorem polled_events_sorted_iff {chain : Chain} {lo hi : Nat} {s s' : BlockchainEvents}
    {responses : Responses} {es : List DecodedEvent} {maxDuration : Nat}
    (h : queryAndTrack chain lo hi s responses = (.ok (es, maxDuration), s')) :
    (es.Pairwise fun a b => a.blockNumber ≤ b.blockNumber) ↔
      Ordered chain lo hi s.nodeAddress s.eventFilter :=
  ((queryAndTrack_spec h).2.2 es maxDuration rfl).sorted_iff

/-- The events of a query in the chain of the first token network are sorted. -/
theorem polled_events_sorted_toy :
    (queryAndTrack (toyChain .closed) 1 8 toyEvents answered).1.toOption.any
      (fun result => result.1.map (·.blockNumber) = [3, 5, 6]) = true ∧
    Ordered (toyChain .closed) 1 8 1 { tokenNetworkRegistryAddresses := {7} } := by
  have hblocks : (queryAndTrack (toyChain .closed) 1 8 toyEvents answered).1.toOption.any
      (fun result => result.1.map (·.blockNumber) = [3, 5, 6]) = true := by decide +kernel
  refine ⟨hblocks, ?_⟩
  cases hquery : queryAndTrack (toyChain .closed) 1 8 toyEvents answered with
  | mk outcome s' =>
    cases outcome with
    | error e =>
      rw [hquery] at hblocks
      cases hblocks
    | ok result =>
      rw [hquery] at hblocks
      refine (polled_events_sorted_iff hquery).mp (List.pairwise_map.mp ?_)
      rw [of_decide_eq_true hblocks]
      decide

/-- A second token network is created at block 6, after the first one opened a channel. -/
def twoNetworks : Chain where
  logs := [toyLog 7 (.tokenNetworkCreated 8 9) 3, toyLog 9 (.channelOpened 1 1 2) 5,
    toyLog 7 (.tokenNetworkCreated 18 19) 6]
  getBlock _ := ([1], 0)

/-- The opening of block 5 is returned after the creation of block 6. -/
theorem polled_events_unsorted :
    (queryAndTrack twoNetworks 1 8 toyEvents answered).1.toOption.any
      (fun result => result.1.map (·.blockNumber) = [3, 6, 5]) = true := by
  decide +kernel

end Raiden.Blockchain
