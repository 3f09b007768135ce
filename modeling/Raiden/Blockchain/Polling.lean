import Raiden.Lib.Run
import Raiden.Blockchain.Rounds

/-! # Polling delivers the followed logs once

What a call discovers in its range it delivers once, unless the filter of the node followed
it already. So what a call discovers before it times out is delivered twice by the next
one. -/
namespace Raiden.Blockchain

open Lib

variable {chain : Chain} {hi : Nat} {log : LogReceipt} {net : Address} {es : List DecodedEvent}
  {last : Nat}

structure Call where
  target : Nat
  responses : Responses

/-- A result with the first block of its range. -/
structure Batch where
  fromBlock : Nat
  result : PollResult

/-- The batch of a call that returns a result. -/
def batchOf (s : BlockchainEvents) : Except PollError (Option PollResult) → Option Batch
  | .ok (some result) => some ⟨s.lastFetchedBlock + 1, result⟩
  | _ => none

def Poll (scale : BatchScale) (chain : Chain) (s : BlockchainEvents) (label : Call × Option Batch)
    (s' : BlockchainEvents) : Prop :=
  ∃ outcome, fetchLogsInBatch scale chain label.1.target label.1.responses s = (outcome, s') ∧
    label.2 = batchOf s outcome

/-- The cases of a call: nothing is returned and the filter may have grown, or a batch is. -/
inductive Polled (scale : BatchScale) (chain : Chain) (s : BlockchainEvents) (call : Call) :
    Option Batch → BlockchainEvents → Prop
  | failed {s' : BlockchainEvents} (chainId : s'.chainId = s.chainId)
      (nodeAddress : s'.nodeAddress = s.nodeAddress) (last : s'.lastFetchedBlock = s.lastFetchedBlock)
      (grows : Grows s.eventFilter s'.eventFilter) : Polled scale chain s call none s'
  | fetched {s' : BlockchainEvents} {batch : Batch} (chainId : s'.chainId = s.chainId)
      (nodeAddress : s'.nodeAddress = s.nodeAddress) (from_eq : batch.fromBlock = s.lastFetchedBlock + 1)
      (to_eq : batch.result.polledBlockNumber = s.batchEnd scale call.target)
      (nonempty : s.lastFetchedBlock < s.batchEnd scale call.target)
      (last : s'.lastFetchedBlock = s.batchEnd scale call.target)
      (rounds : Rounds chain (s.lastFetchedBlock + 1) (s.batchEnd scale call.target) s.nodeAddress s.chainId
        s.eventFilter s.eventFilter batch.result.events s'.eventFilter) :
      Polled scale chain s call (some batch) s'

theorem Poll.polled {scale : BatchScale} {s s' : BlockchainEvents} {label : Call × Option Batch}
    (h : Poll scale chain s label s') : Polled scale chain s label.1 label.2 s' := by
  obtain ⟨⟨call, batch⟩, outcome, hfetch, hbatch⟩ := label, h
  dsimp only at hbatch hfetch ⊢
  subst hbatch
  unfold fetchLogsInBatch at hfetch
  split at hfetch
  · cases hfetch
    exact .failed rfl rfl rfl ⟨rfl, Finset.Subset.refl _, fun _ _ h => h⟩
  · next htarget =>
    dsimp only at hfetch
    cases hquery : queryAndTrack chain (s.lastFetchedBlock + 1) (s.batchEnd scale call.target) s
      call.responses with
    | mk outcome₁ s₁ =>
      obtain ⟨hkept, hextends, hrounds⟩ := queryAndTrack_spec hquery
      have hgrows := hextends.grows
      rw [hquery] at hfetch
      have hfailed : ∀ {s₂ : BlockchainEvents}, s₂.chainId = s₁.chainId →
          s₂.nodeAddress = s₁.nodeAddress →
          s₂.lastFetchedBlock = s₁.lastFetchedBlock → s₂.eventFilter = s₁.eventFilter →
          Polled scale chain s call none s₂ := fun hid hnode hlast hfilter =>
        .failed (hid.trans hkept.chainId) (hnode.trans hkept.nodeAddress)
          (hlast.trans hkept.lastFetchedBlock) (hfilter ▸ hgrows)
      split at hfetch
      · next heq =>
        cases heq
        split at hfetch <;> cases hfetch <;> exact hfailed rfl rfl rfl rfl
      · next heq =>
        cases heq
        cases hfetch
        exact hfailed rfl rfl rfl rfl
      · next decoded maxDuration _ heq =>
        cases heq
        split at hfetch
        · cases hfetch
          exact hfailed rfl rfl rfl rfl
        · cases hfetch
          refine .fetched hkept.chainId hkept.nodeAddress rfl rfl ?_ rfl (hrounds decoded maxDuration rfl)
          unfold BlockchainEvents.batchEnd
          omega

/-! ## What is to be delivered -/

section Delivery

variable {scale : BatchScale} {start s s' : BlockchainEvents} {batches : List Batch}

section

variable (chain : Chain) (start : BlockchainEvents)

/-- The token network was followed from the start, or a followed registry created it since. -/
def Discovered (hi : Nat) (net : Address) : Prop :=
  net ∈ start.eventFilter.tokenNetworkAddresses ∨
    chain.CreatedIn (start.lastFetchedBlock + 1) hi start.eventFilter.tokenNetworkRegistryAddresses
      net

/-- The channel was followed from the start, or a discovered token network opened it since
for the node. -/
def OwnChannel (hi : Nat) (net : Address) (channelIdentifier : ChannelID) : Prop :=
  start.eventFilter.lists net channelIdentifier ∨
    Discovered chain start hi net ∧
      chain.OpenedIn (start.lastFetchedBlock + 1) hi start.nodeAddress net channelIdentifier

/-- The logs of a followed registry, of a token network discovered up to a block, and of a
channel of the node opened up to it. -/
inductive Followed (chain : Chain) (start : BlockchainEvents) (hi : Nat) (log : LogReceipt) : Prop
  | registry {tokenAddress net : Address}
      (event_eq : log.event = .tokenNetworkCreated tokenAddress net)
      (followed : log.address ∈ start.eventFilter.tokenNetworkRegistryAddresses)
  | network {channelIdentifier : ChannelID} (opens : log.opens start.nodeAddress channelIdentifier)
      (discovered : Discovered chain start hi log.address)
  | channel {event : ChannelEvent} {channelIdentifier : ChannelID}
      (event_eq : log.event = .channel event channelIdentifier)
      (own : OwnChannel chain start hi log.address channelIdentifier)

/-- What the contracts guarantee of a chain: logs are distinct, a channel has two different
participants, and a token network logs nothing before its creation. -/
structure Lawful : Prop where
  nodup : chain.logs.Nodup
  participants : ∀ log ∈ chain.logs, ∀ channelIdentifier participant1 participant2,
    log.event = .channelOpened channelIdentifier participant1 participant2 →
      (∃ hi, Discovered chain start hi log.address) → participant1 ≠ participant2
  created : ∀ creation ∈ chain.logs,
    creation.address ∈ start.eventFilter.tokenNetworkRegistryAddresses → ∀ tokenAddress net,
      creation.event = .tokenNetworkCreated tokenAddress net →
        ∀ log ∈ chain.logs, log.address = net → creation.blockNumber ≤ log.blockNumber

end

/-- The filter of the node does not follow yet what the next range will discover, as far as
it has logs there, and there is no update of a balance proof in the range. -/
structure Deliverable (chain : Chain) (start s : BlockchainEvents) (hi : Nat) : Prop where
  networks : ∀ log ∈ chain.logs, InRange (s.lastFetchedBlock + 1) hi log →
    ∀ channelIdentifier, log.opens s.nodeAddress channelIdentifier →
      log.address ∈ s.eventFilter.tokenNetworkAddresses →
        ¬chain.CreatedIn (s.lastFetchedBlock + 1) hi s.eventFilter.tokenNetworkRegistryAddresses
          log.address
  channels : ∀ log ∈ chain.logs, InRange (s.lastFetchedBlock + 1) hi log →
    ∀ event channelIdentifier, log.event = .channel event channelIdentifier →
      s.eventFilter.follows log.address channelIdentifier →
        ¬chain.OpenedIn (s.lastFetchedBlock + 1) hi s.nodeAddress log.address channelIdentifier
  updates : ∀ log ∈ chain.logs, InRange (s.lastFetchedBlock + 1) hi log →
    ∀ channelIdentifier, log.event = .channel .balanceProofUpdated channelIdentifier →
      ¬OwnChannel chain start hi log.address channelIdentifier

/-! ## What the node follows along a run -/

structure Tracks (chain : Chain) (start s : BlockchainEvents) : Prop where
  chainId : s.chainId = start.chainId
  nodeAddress : s.nodeAddress = start.nodeAddress
  last : start.lastFetchedBlock ≤ s.lastFetchedBlock
  registries : s.eventFilter.tokenNetworkRegistryAddresses = start.eventFilter.tokenNetworkRegistryAddresses
  networks : ∀ net, Discovered chain start s.lastFetchedBlock net →
    net ∈ s.eventFilter.tokenNetworkAddresses
  lists : ∀ net channelIdentifier,
    OwnChannel chain start s.lastFetchedBlock net channelIdentifier →
      s.eventFilter.lists net channelIdentifier

theorem Tracks.refl (start : BlockchainEvents) : Tracks chain start start := by
  have hempty : ∀ {log : LogReceipt},
      ¬InRange (start.lastFetchedBlock + 1) start.lastFetchedBlock log := fun hrange => by
    have hfrom := hrange.1
    have hto := hrange.2
    omega
  refine ⟨rfl, rfl, Nat.le_refl _, rfl, fun net h => ?_, fun net channelIdentifier h => ?_⟩
  · rcases h with h | ⟨log, -, hrange, -⟩
    · exact h
    · exact absurd hrange hempty
  · rcases h with h | ⟨-, log, -, hrange, -⟩
    · exact h
    · exact absurd hrange hempty

theorem Tracks.discovered_cases (h : Tracks chain start s)
    (hdiscovered : Discovered chain start hi net) :
    net ∈ s.eventFilter.tokenNetworkAddresses ∨
      chain.CreatedIn (s.lastFetchedBlock + 1) hi s.eventFilter.tokenNetworkRegistryAddresses
        net := by
  rcases hdiscovered with hstart | ⟨log, hlog, hrange, haddress, hcreated⟩
  · exact .inl (h.networks net (.inl hstart))
  · rcases Nat.lt_or_ge s.lastFetchedBlock log.blockNumber with hlater | hearlier
    · exact .inr ⟨log, hlog, ⟨hlater, hrange.2⟩, h.registries ▸ haddress, hcreated⟩
    · exact .inl (h.networks net
        (.inr ⟨log, hlog, ⟨hrange.1, hearlier⟩, haddress, hcreated⟩))

theorem Tracks.own_cases (hlawful : Lawful chain start) (h : Tracks chain start s)
    {channelIdentifier : ChannelID} (hown : OwnChannel chain start hi net channelIdentifier) :
    s.eventFilter.lists net channelIdentifier ∨ (net ∈ s.eventFilter.tokenNetworkAddresses ∨
        chain.CreatedIn (s.lastFetchedBlock + 1) hi s.eventFilter.tokenNetworkRegistryAddresses
          net) ∧
      chain.OpenedIn (s.lastFetchedBlock + 1) hi s.nodeAddress net channelIdentifier := by
  rcases hown with hstart | ⟨hdiscovered, log, hlog, hrange, haddress, hopens⟩
  · exact .inl (h.lists _ _ (.inl hstart))
  · rcases Nat.lt_or_ge s.lastFetchedBlock log.blockNumber with hlater | hearlier
    · exact .inr ⟨h.discovered_cases hdiscovered, log, hlog, ⟨hlater, hrange.2⟩, haddress,
        h.nodeAddress ▸ hopens⟩
    · -- the token network was created before the opening, so it was discovered by then
      refine .inl (h.lists _ _ (.inr ⟨?_, log, hlog, ⟨hrange.1, hearlier⟩, haddress, hopens⟩))
      rcases hdiscovered with hstart | ⟨creation, hcreation, hcreated, hregistry, tokenAddress, hevent⟩
      · exact .inl hstart
      · have hfirst := hlawful.created creation hcreation hregistry tokenAddress net hevent log hlog
          haddress
        exact .inr ⟨creation, hcreation, ⟨hcreated.1, hfirst.trans hearlier⟩, hregistry, tokenAddress, hevent⟩

theorem Tracks.failed (h : Tracks chain start s) (hid : s'.chainId = s.chainId)
    (hnode : s'.nodeAddress = s.nodeAddress) (hlast : s'.lastFetchedBlock = s.lastFetchedBlock)
    (hgrows : Grows s.eventFilter s'.eventFilter) : Tracks chain start s' where
  chainId := hid.trans h.chainId
  nodeAddress := hnode.trans h.nodeAddress
  last := hlast ▸ h.last
  registries := hgrows.registries.trans h.registries
  networks net hdiscovered := hgrows.networks (h.networks net (hlast ▸ hdiscovered))
  lists _ _ hown := hgrows.lists _ _ (h.lists _ _ (hlast ▸ hown))

theorem Tracks.fetched (hlawful : Lawful chain start) (h : Tracks chain start s)
    (hid : s'.chainId = s.chainId) (hnode : s'.nodeAddress = s.nodeAddress)
    (hlast : s'.lastFetchedBlock = hi) (hlater : s.lastFetchedBlock < hi)
    (hrounds : Rounds chain (s.lastFetchedBlock + 1) hi s.nodeAddress s.chainId s.eventFilter
      s.eventFilter es s'.eventFilter) : Tracks chain start s' := by
  have hgrows := hrounds.extends.grows
  obtain ⟨hcreated, hopened⟩ := hrounds.complete
  refine ⟨hid.trans h.chainId, hnode.trans h.nodeAddress, ?_, hgrows.registries.trans h.registries,
    fun net hdiscovered => ?_, fun net channelIdentifier hown => ?_⟩
  · rw [hlast]
    exact h.last.trans (Nat.le_of_lt hlater)
  · rw [hlast] at hdiscovered
    rcases h.discovered_cases hdiscovered with hmem | hnew
    · exact hgrows.networks hmem
    · exact hcreated net hnew
  · rw [hlast] at hown
    rcases h.own_cases hlawful hown with hmem | ⟨hnetwork, hnew⟩
    · exact hgrows.lists _ _ hmem
    · exact hopened _ _ hnetwork hnew

theorem Rounds.count_followed {final : RaidenContractFilter} (hlawful : Lawful chain start)
    (h : Tracks chain start s) (hdeliverable : Deliverable chain start s hi)
    (hrounds : Rounds chain (s.lastFetchedBlock + 1) hi s.nodeAddress s.chainId s.eventFilter
      s.eventFilter es final) (hlog : log ∈ chain.logs)
    (hrange : InRange (s.lastFetchedBlock + 1) hi log)
    (hfollowed : Followed chain start hi log) : es.count (log.decoded s.chainId) = 1 := by
  have hnodup := hlawful.nodup
  cases hfollowed with
  | registry event_eq followed =>
    rw [hrounds.count_created hnodup hlog hrange event_eq, if_pos (h.registries ▸ followed)]
  | @network channelIdentifier opens discovered =>
    rw [← h.nodeAddress] at opens
    obtain ⟨participant1, participant2, hevent, hown⟩ := opens
    have hne := hlawful.participants log hlog _ _ _ hevent ⟨hi, discovered⟩
    have hnot := hdeliverable.networks log hlog hrange channelIdentifier
      ⟨participant1, participant2, hevent, hown⟩
    rw [hrounds.count_opened hnodup hlog hrange hevent hown hne]
    by_cases hmem : log.address ∈ s.eventFilter.tokenNetworkAddresses
    · rw [if_pos hmem, if_neg (hnot hmem)]
    · rw [if_neg hmem, if_pos ((h.discovered_cases discovered).resolve_left hmem)]
  | @channel event channelIdentifier event_eq own =>
    have hqueried : event ≠ .balanceProofUpdated := by
      rintro rfl
      exact hdeliverable.updates log hlog hrange channelIdentifier event_eq own
    have hnot := hdeliverable.channels log hlog hrange event channelIdentifier event_eq
    have hcases := h.own_cases hlawful own
    have hactive : s.eventFilter.isActive = true := by
      by_contra hinactive
      obtain ⟨hregistries, hnetworks, hlists, -⟩ := isActive_eq_false.mp (Bool.eq_false_iff.mpr hinactive)
      rcases hcases with hmem | ⟨hnetwork, -⟩
      · exact hlists _ _ hmem
      · rw [hregistries, hnetworks] at hnetwork
        exact hnetwork.elim (Finset.notMem_empty _) Chain.not_createdIn_empty
    rw [hrounds.count_channel hnodup hlog hrange event_eq hqueried (.inl hactive)]
    by_cases hfollows : s.eventFilter.follows log.address channelIdentifier
    · simp [hfollows, hnot hfollows]
    · obtain ⟨hnetwork, hopened⟩ := hcases.resolve_left fun hmem => hfollows hmem.follows
      obtain ⟨opening, hopening, hopeningRange, haddress, hopens⟩ := hopened
      have hopened : chain.OpenedIn (s.lastFetchedBlock + 1) hi s.nodeAddress log.address
          channelIdentifier := ⟨opening, hopening, hopeningRange, haddress, hopens⟩
      have hboth := hdeliverable.networks opening hopening hopeningRange channelIdentifier hopens
      rw [haddress] at hboth
      rcases hnetwork with hmem | hcreated
      · simp [hfollows, hopened, hmem, hboth hmem]
      · have hunfollowed : log.address ∉ s.eventFilter.tokenNetworkAddresses := fun hmem => hboth hmem hcreated
        simp [hfollows, hopened, hcreated, hunfollowed]

/-- The ranges of the batches follow each other, from the first block to the last. -/
inductive Contiguous (start : Nat) : List Batch → Nat → Prop
  | nil : Contiguous start [] start
  | snoc {batches : List Batch} {batch : Batch} {last : Nat} (past : Contiguous start batches last)
      (from_eq : batch.fromBlock = last + 1) (nonempty : batch.fromBlock ≤ batch.result.polledBlockNumber)
      (within : ∀ event ∈ batch.result.events,
        batch.fromBlock ≤ event.blockNumber ∧ event.blockNumber ≤ batch.result.polledBlockNumber) :
      Contiguous start (batches ++ [batch]) batch.result.polledBlockNumber

theorem Contiguous.le {first : Nat} (h : Contiguous first batches last) :
    ∀ batch ∈ batches, batch.result.polledBlockNumber ≤ last ∧
      ∀ event ∈ batch.result.events, event.blockNumber ≤ last := by
  induction h with
  | nil => exact nofun
  | @snoc batches batch last past from_eq nonempty within ih =>
    intro other hother
    rcases List.mem_append.mp hother with hother | hother
    · obtain ⟨hto, hevents⟩ := ih other hother
      exact ⟨by omega, fun event hevent => by have := hevents event hevent; omega⟩
    · cases List.mem_singleton.mp hother
      exact ⟨Nat.le_refl _, fun event hevent => (within event hevent).2⟩

/-- Every log that is followed up to the range of a batch and lies in it is delivered by
the batches once. -/
def ExactlyOnce (chain : Chain) (start : BlockchainEvents) (batches : List Batch) : Prop :=
  ∀ batch ∈ batches, ∀ log ∈ chain.logs, InRange batch.fromBlock batch.result.polledBlockNumber log →
    Followed chain start batch.result.polledBlockNumber log →
      (batches.flatMap fun batch => batch.result.events).count (log.decoded start.chainId) = 1

/-- One more batch. -/
theorem ExactlyOnce.snoc {batch : Batch} (h : ExactlyOnce chain start batches)
    (hcontiguous : Contiguous start.lastFetchedBlock batches last) (from_eq : batch.fromBlock = last + 1)
    (within : ∀ event ∈ batch.result.events, batch.fromBlock ≤ event.blockNumber)
    (hbatch : ∀ log ∈ chain.logs, InRange batch.fromBlock batch.result.polledBlockNumber log → Followed
      chain start batch.result.polledBlockNumber log → batch.result.events.count (log.decoded
      start.chainId) = 1) : ExactlyOnce chain start (batches ++ [batch]) := by
  intro other hother log hlog hrange hfollowed
  rw [List.flatMap_append, List.flatMap_singleton, List.count_append]
  rcases List.mem_append.mp hother with hother | hother
  · have hnew : batch.result.events.count (log.decoded start.chainId) = 0 := by
      refine List.count_eq_zero_of_not_mem fun hmem => ?_
      have hlower : batch.fromBlock ≤ log.blockNumber := within _ hmem
      have hupper := (hcontiguous.le other hother).1
      have hlast := hrange.2
      omega
    rw [h other hother log hlog hrange hfollowed, hnew]
  · cases List.mem_singleton.mp hother
    have hold : (batches.flatMap fun batch => batch.result.events).count (log.decoded start.chainId) = 0 := by
      refine List.count_eq_zero_of_not_mem fun hmem => ?_
      obtain ⟨old, hold, hevent⟩ := List.mem_flatMap.mp hmem
      have hupper : log.blockNumber ≤ last := (hcontiguous.le old hold).2 _ hevent
      have hlower := hrange.1
      omega
    rw [hold, hbatch log hlog hrange hfollowed]

def batchesOf (calls : List (Call × Option Batch)) : List Batch := calls.filterMap Prod.snd

theorem batchesOf_snoc (calls : List (Call × Option Batch)) (call : Call) (batch : Option Batch) :
    batchesOf (calls ++ [(call, batch)]) = batchesOf calls ++ batch.toList := by
  cases batch <;> simp [batchesOf]

/-- In every run all of whose calls meet the condition, the results cover contiguous
ranges and every followed log is delivered once. -/
theorem polling_exactly_once {calls : List (Call × Option Batch)} (hlawful : Lawful chain start)
    (h : Run (fun s label s' => Deliverable chain start s (s.batchEnd scale label.1.target) ∧
      Poll scale chain s label s') start calls s) :
    Contiguous start.lastFetchedBlock (batchesOf calls) s.lastFetchedBlock ∧
      ExactlyOnce chain start (batchesOf calls) := by
  have hinv := h.invariant_log (I := fun calls s => Tracks chain start s ∧
      Contiguous start.lastFetchedBlock (batchesOf calls) s.lastFetchedBlock ∧
      ExactlyOnce chain start (batchesOf calls))
    ⟨.refl start, .nil, fun _ h => absurd h List.not_mem_nil⟩ ?_
  · exact hinv.2
  · rintro calls s ⟨call, batch⟩ s' ⟨htracks, hcontiguous, honce⟩ ⟨hdeliverable, hpoll⟩
    have hpolled := hpoll.polled
    rw [batchesOf_snoc]
    cases hpolled with
    | failed chainId nodeAddress last grows =>
      rw [Option.toList_none, List.append_nil, last]
      exact ⟨htracks.failed chainId nodeAddress last grows, hcontiguous, honce⟩
    | @fetched _ batch chainId nodeAddress from_eq to_eq nonempty last rounds =>
      have hwithin : ∀ event ∈ batch.result.events,
          batch.fromBlock ≤ event.blockNumber ∧ event.blockNumber ≤ batch.result.polledBlockNumber := by
        rw [from_eq, to_eq]
        exact rounds.range
      rw [Option.toList_some, last, ← to_eq]
      refine ⟨htracks.fetched hlawful chainId nodeAddress last nonempty rounds,
        .snoc hcontiguous from_eq (from_eq ▸ to_eq ▸ nonempty) hwithin,
        honce.snoc hcontiguous from_eq (fun event hevent => (hwithin event hevent).1) ?_⟩
      intro log hlog hrange hfollowed
      rw [from_eq, to_eq] at hrange
      rw [to_eq] at hfollowed
      rw [← htracks.chainId]
      exact rounds.count_followed hlawful htracks hdeliverable hlog hrange hfollowed

end Delivery

section

variable (scale : BatchScale) (chain : Chain) (s : BlockchainEvents) (call : Call)

/-- The label and the state after a call. -/
def pollNext : (Call × Option Batch) × BlockchainEvents :=
  let done := fetchLogsInBatch scale chain call.target call.responses s
  ((call, batchOf s done.1), done.2)

theorem pollNext_poll :
    Poll scale chain s (pollNext scale chain s call).1 (pollNext scale chain s call).2 :=
  ⟨_, rfl, rfl⟩

end

/-- The size of a batch is the scale itself. -/
def toyScale : BatchScale := ⟨(· + 1), (· - 1), UInt64.toNat⟩

def toyEvents : BlockchainEvents where
  chainId := 1
  lastFetchedBlock := 0
  eventFilter := { tokenNetworkRegistryAddresses := {7} }
  blockBatchSizeAdjuster := ⟨⟨5, 20⟩, 10⟩
  nodeAddress := 1
  addressToAbi := RaidenContractFilter.abiOfContractAddress { tokenNetworkRegistryAddresses := {7} }

def toyLog (address : Address) (event : ContractEvent) (now : Nat) : LogReceipt :=
  ⟨address, event, now, [1], [1], 0⟩

section

variable (event : ChannelEvent)

/-- The registry creates the token network 9 at block 3, which opens channel 1 at block 5
for the node. The channel has one more event at block 6. -/
def toyChain : Chain where
  logs := [toyLog 7 (.tokenNetworkCreated 8 9) 3, toyLog 9 (.channelOpened 1 1 2) 5,
    toyLog 9 (.channel event 1) 6]
  getBlock _ := ([1], 0)

theorem toyChain_lawful : Lawful (toyChain event) toyEvents where
  nodup := by simp [toyChain, toyLog]
  participants := by simp [toyChain, toyLog]
  created := by simp [toyChain, toyLog]

theorem toyChain_discovered : Discovered (toyChain event) toyEvents 8 9 :=
  Or.inr ⟨toyLog 7 (.tokenNetworkCreated 8 9) 3, List.mem_cons_self, by decide, by decide, 8, rfl⟩

theorem toyChain_opened :
    Followed (toyChain event) toyEvents 8 (toyLog 9 (.channelOpened 1 1 2) 5) :=
  .network ⟨1, 2, rfl, .inl rfl⟩ (toyChain_discovered event)

theorem toyChain_channel : Followed (toyChain event) toyEvents 8 (toyLog 9 (.channel event 1) 6) :=
  .channel rfl (.inr ⟨toyChain_discovered event, toyLog 9 (.channelOpened 1 1 2) 5,
    List.mem_cons_of_mem _ List.mem_cons_self, by decide, rfl, 1, 2, rfl, .inl rfl⟩)

end

def answered : Responses := fun _ => some 1

def secondTimesOut : Responses := fun n => if n = 1 then none else some 1

/-- The first call times out at once, and the second one fetches all. -/
theorem polling_exactly_once_after_timeout :
    ∃ calls s, Run (Poll toyScale (toyChain .closed)) toyEvents calls s ∧
      (∃ batch ∈ batchesOf calls, batch.result.polledBlockNumber = 8) ∧
      Contiguous 0 (batchesOf calls) s.lastFetchedBlock ∧
      ExactlyOnce (toyChain .closed) toyEvents (batchesOf calls) := by
  have hdeliverable : ∀ (s : BlockchainEvents) (hi : Nat), s.eventFilter = toyEvents.eventFilter →
      Deliverable (toyChain .closed) toyEvents s hi := by
    intro s hi hfilter
    refine ⟨fun _ _ _ _ _ hmem => ?_, fun _ _ _ _ _ _ hfollows => ?_, fun log hlog _ _ hevent => ?_⟩
    · rw [hfilter] at hmem
      exact absurd hmem (Finset.notMem_empty _)
    · rw [hfilter] at hfollows
      obtain ⟨cs, hget, -⟩ := hfollows
      cases hget
    · simp only [toyChain, List.mem_cons, List.not_mem_nil, or_false] at hlog
      rcases hlog with rfl | rfl | rfl <;> cases hevent
  let first := pollNext toyScale (toyChain .closed) toyEvents ⟨8, fun _ => none⟩
  let second := pollNext toyScale (toyChain .closed) first.2 ⟨8, answered⟩
  have hfirst := pollNext_poll toyScale (toyChain .closed) toyEvents ⟨8, fun _ => none⟩
  have hsecond := pollNext_poll toyScale (toyChain .closed) first.2 ⟨8, answered⟩
  have hbatch : second.1.2.any (fun batch => batch.result.polledBlockNumber = 8) = true := by decide +kernel
  have honce := polling_exactly_once (toyChain_lawful .closed)
    (((Run.start toyEvents).step ⟨hdeliverable _ _ rfl, hfirst⟩).step ⟨hdeliverable first.2 _ rfl, hsecond⟩)
  obtain ⟨batch, hsome, hto⟩ := (Option.any_eq_true _ _).mp hbatch
  refine ⟨_, _, ((Run.start toyEvents).step hfirst).step hsecond, ⟨batch, ?_, of_decide_eq_true hto⟩,
    honce.1, honce.2⟩
  exact List.mem_filterMap.mpr ⟨second.1, List.mem_append_right _ List.mem_cons_self, hsome⟩

private theorem not_exactlyOnce {event : ChannelEvent} {calls : List (Call × Option Batch)}
    (hlog : log ∈ (toyChain event).logs) (hfollowed : Followed (toyChain event) toyEvents 8 log)
    (h : ((batchesOf calls).any fun batch =>
        decide (InRange batch.fromBlock batch.result.polledBlockNumber log) &&
          decide (batch.result.polledBlockNumber = 8)) = true)
    (hcount : ((batchesOf calls).flatMap fun batch => batch.result.events).count (log.decoded 1) ≠ 1) :
    ¬ExactlyOnce (toyChain event) toyEvents (batchesOf calls) := by
  simp only [List.any_eq_true, Bool.and_eq_true, decide_eq_true_eq] at h
  obtain ⟨batch, hbatch, hrange, hto⟩ := h
  exact fun honce => hcount (honce batch hbatch log hlog hrange (hto ▸ hfollowed))

/-- The first call times out after it discovered the token network, so the second one
delivers the opening of the channel twice. And the update of a balance proof is not
delivered at all. -/
theorem polling_not_exactly_once :
    (∀ event, Lawful (toyChain event) toyEvents) ∧
    (∃ calls s, Run (Poll toyScale (toyChain .closed)) toyEvents calls s ∧
      ¬ExactlyOnce (toyChain .closed) toyEvents (batchesOf calls)) ∧
    ∃ calls s, Run (Poll toyScale (toyChain .balanceProofUpdated)) toyEvents calls s ∧
      ¬ExactlyOnce (toyChain .balanceProofUpdated) toyEvents (batchesOf calls) := by
  refine ⟨toyChain_lawful, ?_, ?_⟩
  · have hfirst := pollNext_poll toyScale (toyChain .closed) toyEvents ⟨8, secondTimesOut⟩
    have hsecond := pollNext_poll toyScale (toyChain .closed)
      (pollNext toyScale (toyChain .closed) toyEvents ⟨8, secondTimesOut⟩).2 ⟨8, answered⟩
    refine ⟨_, _, ((Run.start toyEvents).step hfirst).step hsecond, ?_⟩
    exact not_exactlyOnce (by decide) (toyChain_opened .closed) (by decide +kernel) (by decide +kernel)
  · have hfirst := pollNext_poll toyScale (toyChain .balanceProofUpdated) toyEvents ⟨8, answered⟩
    refine ⟨_, _, (Run.start toyEvents).step hfirst, ?_⟩
    exact not_exactlyOnce (by decide) (toyChain_channel .balanceProofUpdated) (by decide +kernel)
      (by decide +kernel)

end Raiden.Blockchain
