import Mathlib.Data.List.Induction
import Raiden.MediationFee
import Raiden.Node.Placement
import Raiden.Node.Queues

/-! # Snapshots of the state

The messages and the transactions of a snapshot are dumped with the name of their class, and
are loaded through lists of the classes a field may hold. Of a registry and of a fee schedule
only what the constructor takes is dumped: the constructor of the loaded object builds the
indexes and the penalty function anew. Primitive fields are taken to be loaded as they were
dumped. -/
namespace Raiden.Storage

open Lib Node

/-- The classes of the messages and transactions that a node keeps. -/
inductive EventClass where
  | sendLockExpired | sendLockedTransfer | sendSecretReveal | sendUnlock | sendSecretRequest
  | sendWithdrawRequest | sendWithdrawConfirmation | sendWithdrawExpired | sendProcessed
  | contractSendChannelWithdraw | contractSendChannelCoopSettle | contractSendChannelClose
  | contractSendChannelSettle | contractSendChannelUpdateTransfer | contractSendChannelBatchUnlock
  | contractSendSecretReveal
deriving DecidableEq

def classType : Event → Option EventClass
  | .sendLockExpired _ => some .sendLockExpired
  | .sendLockedTransfer _ => some .sendLockedTransfer
  | .sendSecretReveal _ => some .sendSecretReveal
  | .sendUnlock _ => some .sendUnlock
  | .sendSecretRequest _ => some .sendSecretRequest
  | .sendWithdrawRequest _ => some .sendWithdrawRequest
  | .sendWithdrawConfirmation _ => some .sendWithdrawConfirmation
  | .sendWithdrawExpired _ => some .sendWithdrawExpired
  | .sendProcessed _ => some .sendProcessed
  | .contractSendChannelWithdraw .. => some .contractSendChannelWithdraw
  | .contractSendChannelCoopSettle .. => some .contractSendChannelCoopSettle
  | .contractSendChannelClose .. => some .contractSendChannelClose
  | .contractSendChannelSettle .. => some .contractSendChannelSettle
  | .contractSendChannelUpdateTransfer .. => some .contractSendChannelUpdateTransfer
  | .contractSendChannelBatchUnlock .. => some .contractSendChannelBatchUnlock
  | .contractSendSecretReveal .. => some .contractSendSecretReveal
  | _ => none

/-- The classes the schema accepts for a `SendMessageEvent`. -/
def sendMessageEventClasses : List EventClass :=
  [.sendLockExpired, .sendLockedTransfer, .sendSecretReveal, .sendUnlock, .sendSecretRequest,
    .sendWithdrawRequest, .sendWithdrawConfirmation, .sendWithdrawExpired, .sendProcessed]

/-- The classes the schema accepts for a `ContractSendEvent`. -/
def contractSendEventClasses : List EventClass :=
  [.contractSendChannelWithdraw, .contractSendChannelClose, .contractSendChannelSettle,
    .contractSendChannelUpdateTransfer, .contractSendChannelBatchUnlock, .contractSendSecretReveal]

/-- A dumped object: the name of its class, and its fields. -/
structure Dumped (α : Type) where
  type : Option EventClass
  fields : α

/-- The name of the class is looked up among the accepted ones. -/
def Dumped.accepted {α : Type} (classes : List EventClass) (dumped : Dumped α) : Bool :=
  dumped.type.any (· ∈ classes)

/-- The arguments of the constructor of a registry. -/
structure DumpedRegistry where
  address : Address
  tokenNetworkList : List TokenNetworkRef

def tokenAddressAt (nets : List TokenNetworkState) (ref : TokenNetworkRef) : Address :=
  (nets[ref.object]?.map TokenNetworkState.tokenAddress).getD emptyAddress

def DumpedRegistry.load (nets : List TokenNetworkState) (dumped : DumpedRegistry) : TokenNetworkRegistryState :=
  .create dumped.address (dumped.tokenNetworkList.map fun ref => (ref, tokenAddressAt nets ref))

/-- The token networks are dumped with the registry that lists them; here the list has their
references. -/
structure Snapshot where
  blockNumber : Nat
  blockHash : BlockHash
  ourAddress : Address
  chainId : ChainID
  tokenNetworks : List TokenNetworkState
  identifiersToTokennetworkregistries : Dict Address DumpedRegistry
  secrethashesToTask : Dict SecretHash TransferTask
  pendingTransactions : List (Dumped Transaction)
  queueidsToQueues : Dict QueueIdentifier (List (Dumped QueuedMessage))
  tokennetworkaddressesToTokennetworkregistryaddresses : Dict Address Address

def serialize (s : ChainState) : Snapshot where
  blockNumber := s.blockNumber
  blockHash := s.blockHash
  ourAddress := s.ourAddress
  chainId := s.chainId
  tokenNetworks := s.tokenNetworks
  identifiersToTokennetworkregistries := s.identifiersToTokennetworkregistries.map
    fun _ registry => ⟨registry.address, registry.tokenNetworkList⟩
  secrethashesToTask := s.secrethashesToTask
  pendingTransactions := s.pendingTransactions.map fun t => ⟨classType t.1, t⟩
  queueidsToQueues := s.queueidsToQueues.map fun _ queue => queue.map fun m => ⟨classType m.1, m⟩
  tokennetworkaddressesToTokennetworkregistryaddresses := s.tokennetworkaddressesToTokennetworkregistryaddresses

/-- `none` for the exception of a class that is not accepted. -/
def deserialize (snapshot : Snapshot) : Option ChainState :=
  if snapshot.queueidsToQueues.values.all (fun queue => queue.all (Dumped.accepted sendMessageEventClasses)) &&
      snapshot.pendingTransactions.all (Dumped.accepted contractSendEventClasses) then
    some {
      blockNumber := snapshot.blockNumber
      blockHash := snapshot.blockHash
      ourAddress := snapshot.ourAddress
      chainId := snapshot.chainId
      tokenNetworks := snapshot.tokenNetworks
      identifiersToTokennetworkregistries := snapshot.identifiersToTokennetworkregistries.map
        fun _ dumped => dumped.load snapshot.tokenNetworks
      secrethashesToTask := snapshot.secrethashesToTask
      pendingTransactions := snapshot.pendingTransactions.map Dumped.fields
      queueidsToQueues := snapshot.queueidsToQueues.map fun _ queue => queue.map Dumped.fields
      tokennetworkaddressesToTokennetworkregistryaddresses :=
        snapshot.tokennetworkaddressesToTokennetworkregistryaddresses }
  else none

/-! ## Equality with a loaded state -/

/-- A fee schedule as its comparison sees it: `Interpolate` has no equality of its own, so a
penalty function is the object that `__post_init__` made. -/
structure FeeScheduleObject where
  schedule : FeeScheduleState
  penaltyFunc : Option Nat
deriving DecidableEq

def FeeScheduleObject.create (newObject : Nat) (schedule : FeeScheduleState) : FeeScheduleObject :=
  ⟨schedule, schedule.penaltyFunc.map fun _ => newObject⟩

theorem FeeScheduleObject.create_eq_iff {object object' : Nat} (hne : object ≠ object')
    (schedule : FeeScheduleState) : create object schedule = create object' schedule ↔
      schedule.penaltyFunc = none := by
  cases hfunc : schedule.penaltyFunc <;> simp [create, hfunc, hne]

def channelsOf (s : ChainState) : List NettingChannelState :=
  s.identifiersToTokennetworkregistries.values.flatMap fun registry =>
    registry.tokenNetworkList.flatMap fun ref =>
      (s.tokenNetworks[ref.object]?).toList.flatMap fun net => net.channelidentifiersToChannels.values

/-- The state `loaded`, whose objects are new, equals `s`. -/
structure EqualsLoaded (s loaded : ChainState) : Prop where
  fields : loaded = s
  schedules : ∀ c ∈ channelsOf s, ∀ object newObject, object ≠ newObject →
    FeeScheduleObject.create object c.feeSchedule = .create newObject c.feeSchedule

/-! ## The registries of a run -/

def Rebuilt (nets : List TokenNetworkState) (reg : TokenNetworkRegistryState) : Prop :=
  ∃ address refs, reg = .create address refs ∧ ∀ entry ∈ refs,
    nets[entry.1.object]?.map TokenNetworkState.tokenAddress = some entry.2

section Registries

variable {P : Primitives} {M : Initiator.FeeMargins} {s s' : ChainState} {sc : StateChange}
  {es : List Event} {nets nets' : List TokenNetworkState} {reg : TokenNetworkRegistryState}

theorem create_append (address : Address) (refs : List (TokenNetworkRef × Address)) (ref : TokenNetworkRef)
    (token : Address) : TokenNetworkRegistryState.create address (refs ++ [(ref, token)]) =
      (TokenNetworkRegistryState.create address refs).addTokenNetwork ref token :=
  List.foldl_append

theorem create_dumped (address : Address) (refs : List (TokenNetworkRef × Address)) :
    (TokenNetworkRegistryState.create address refs).address = address ∧
      (TokenNetworkRegistryState.create address refs).tokenNetworkList = refs.map Prod.fst := by
  induction refs using List.reverseRecOn with
  | nil => exact ⟨rfl, rfl⟩
  | append_singleton refs entry ih =>
    rw [create_append]
    refine ⟨ih.1, ?_⟩
    rw [TokenNetworkRegistryState.addTokenNetwork, ih.2, List.map_append]
    rfl

theorem Rebuilt.load (h : Rebuilt nets reg) :
    DumpedRegistry.load nets ⟨reg.address, reg.tokenNetworkList⟩ = reg := by
  obtain ⟨address, refs, rfl, hrefs⟩ := h
  obtain ⟨haddress, hlist⟩ := create_dumped address refs
  rw [DumpedRegistry.load, haddress, hlist, List.map_map]
  congr 1
  refine (List.map_congr_left fun entry hentry => ?_).trans (List.map_id refs)
  simp only [Function.comp_apply, tokenAddressAt, hrefs entry hentry, Option.getD_some]
  rfl

theorem Rebuilt.mono (h : Rebuilt nets reg) (hsame : ∀ (object : Nat) token,
    nets[object]?.map TokenNetworkState.tokenAddress = some token →
      nets'[object]?.map TokenNetworkState.tokenAddress = some token) : Rebuilt nets' reg := by
  obtain ⟨address, refs, rfl, hrefs⟩ := h
  exact ⟨address, refs, rfl, fun entry hentry => hsame _ _ (hrefs entry hentry)⟩

theorem Rebuilt.append (h : Rebuilt nets reg) (more : List TokenNetworkState) : Rebuilt (nets ++ more) reg := by
  refine h.mono fun object token hget => ?_
  obtain ⟨net, hnet, rfl⟩ := Option.map_eq_some_iff.mp hget
  rw [List.getElem?_append_left (List.getElem?_eq_some_iff.mp hnet).1, hnet]
  rfl

theorem Rebuilt.addTokenNetwork {ref : TokenNetworkRef} {net : TokenNetworkState} (h : Rebuilt nets reg)
    (hget : nets[ref.object]? = some net) : Rebuilt nets (reg.addTokenNetwork ref net.tokenAddress) := by
  obtain ⟨address, refs, rfl, hrefs⟩ := h
  refine ⟨address, refs ++ [(ref, net.tokenAddress)], (create_append _ _ _ _).symm, fun entry hentry => ?_⟩
  rcases List.mem_append.mp hentry with hentry | hentry
  · exact hrefs entry hentry
  · rw [List.mem_singleton.mp hentry, hget]
    rfl

/-- Every registry of the node is what its constructor makes of its list. -/
def AllRebuilt (s : ChainState) : Prop :=
  ∀ address reg, s.identifiersToTokennetworkregistries.get? address = some reg → Rebuilt s.tokenNetworks reg

theorem AllRebuilt.set (h : AllRebuilt s) {address : Address} {more : List TokenNetworkState}
    {networks : Dict Address Address} (hreg : Rebuilt (s.tokenNetworks ++ more) reg) :
    AllRebuilt { s with
      tokenNetworks := s.tokenNetworks ++ more
      identifiersToTokennetworkregistries := s.identifiersToTokennetworkregistries.set address reg
      tokennetworkaddressesToTokennetworkregistryaddresses := networks } := by
  intro other reg' hget
  rw [Dict.get?_set] at hget
  split at hget
  · cases hget
    exact hreg
  · exact (h other reg' hget).append more

theorem AllRebuilt.maybeAddTokennetwork (h : AllRebuilt s) (regAddr : Address) (net : TokenNetworkState) :
    AllRebuilt (maybeAddTokennetwork s regAddr net) := by
  have hnew : (s.tokenNetworks ++ [net])[s.tokenNetworks.length]? = some net := by
    rw [List.getElem?_append_right (Nat.le_refl _), Nat.sub_self]
    rfl
  unfold Node.maybeAddTokennetwork ChainState.Views.getNetworks
  split
  · refine h.set (Rebuilt.addTokenNetwork ⟨regAddr, _, rfl, fun entry hentry => ?_⟩ hnew)
    rw [List.mem_singleton.mp hentry, hnew]
    rfl
  · next reg _ hnetworks =>
    split at hnetworks
    · cases hnetworks
    · next known hregistry =>
      obtain rfl := Option.some.inj (congrArg Prod.fst hnetworks)
      exact h.set (((h _ _ hregistry).append [net]).addTokenNetwork hnew)
  · exact h

theorem AllRebuilt.prepared (h : AllRebuilt s) (sc : StateChange) : AllRebuilt (prepared s sc) := by
  cases sc with
  | contractReceiveNewTokenNetworkRegistry sc =>
    simp only [Node.prepared, handleContractReceiveNewTokenNetworkRegistry]
    split
    · exact h
    · refine h.set ⟨_, _, rfl, fun entry hentry => ?_⟩
      obtain ⟨k, net, hk, rfl⟩ := mem_newRefs hentry
      rw [List.getElem?_append_right (Nat.le_add_right _ _), Nat.add_sub_cancel_left, hk]
      rfl
  | contractReceiveNewTokenNetwork sc => exact h.maybeAddTokennetwork _ _
  | contractReceiveChannelClosed sc =>
    simp only [Node.prepared, dropQueue]
    split <;> exact h
  | _ => exact h

theorem AllRebuilt.next (h : AllRebuilt s) (hnext : Next P M s (sc, es) s') : AllRebuilt s' := by
  have hsame := hnext.sameRegistries
  intro address reg hget
  rw [hsame.registries] at hget
  refine (h.prepared sc address reg hget).mono fun object token htoken => ?_
  obtain ⟨net, hnet, rfl⟩ := Option.map_eq_some_iff.mp htoken
  obtain ⟨net', hnet', hnetwork⟩ := (hsame.objects object).of_left hnet
  rw [hnet', Option.map_some, hnetwork.tokenAddress]

end Registries

/-! ## The round trip -/

theorem accepted_message (m : QueuedMessage) :
    Dumped.accepted sendMessageEventClasses ⟨classType m.1, m⟩ = true := by
  obtain ⟨event, h⟩ := m
  cases event <;> first | rfl | cases h

theorem accepted_transaction (t : Transaction) :
    Dumped.accepted contractSendEventClasses ⟨classType t.1, t⟩ = true ↔
      classType t.1 ≠ some .contractSendChannelCoopSettle := by
  obtain ⟨event, h⟩ := t
  cases event <;> first | (cases h; done) | simp [Dumped.accepted, classType, contractSendEventClasses]

theorem AllRebuilt.registries {s : ChainState} (h : AllRebuilt s) :
    (serialize s).identifiersToTokennetworkregistries.map (fun _ dumped => dumped.load s.tokenNetworks) =
      s.identifiersToTokennetworkregistries := by
  refine Dict.ext (List.map_map.trans ((List.map_congr_left fun entry hentry => ?_).trans (List.map_id _)))
  exact Prod.ext rfl (h entry.1 entry.2 (Dict.mem_entries_iff.mp hentry)).load

theorem deserialize_serialize {s : ChainState} (h : AllRebuilt s) (loaded : ChainState) :
    deserialize (serialize s) = some loaded ↔ loaded = s ∧
      ∀ t ∈ s.pendingTransactions, classType t.1 ≠ some .contractSendChannelCoopSettle := by
  have hqueues : (serialize s).queueidsToQueues.values.all (fun queue =>
      queue.all (Dumped.accepted sendMessageEventClasses)) = true := by
    simp [serialize, Dict.values, Dict.map, accepted_message]
  have hpending : (serialize s).pendingTransactions.all (Dumped.accepted contractSendEventClasses) = true ↔
      ∀ t ∈ s.pendingTransactions, classType t.1 ≠ some .contractSendChannelCoopSettle := by
    simp only [serialize, List.all_map, List.all_eq_true, Function.comp_apply, accepted_transaction]
  have hmessages : (serialize s).queueidsToQueues.map (fun _ queue => queue.map Dumped.fields) =
      s.queueidsToQueues := by
    simp [serialize, Dict.map, Function.comp_def]
  have htransactions : (serialize s).pendingTransactions.map Dumped.fields = s.pendingTransactions := by
    simp [serialize, Function.comp_def]
  rw [deserialize, hqueues, Bool.true_and, hmessages, htransactions, ← hpending]
  split
  · next haccepted =>
    rw [show (serialize s).tokenNetworks = s.tokenNetworks from rfl, h.registries, Option.some.injEq]
    exact ⟨fun heq => ⟨heq.symm, haccepted⟩, fun heq => heq.1.symm⟩
  · next hrejected => exact iff_of_false (fun heq => by cases heq) fun heq => hrejected heq.2

/-- The snapshot of a reachable state is loaded as an equal state if and only if no
cooperative settlement is pending and no channel has a penalty function; every message that
can be queued is accepted. -/
theorem snapshot_loads_iff {P : Primitives} {M : Initiator.FeeMargins} {s₀ s : ChainState}
    {log : List (StateChange × List Event)} (h₀ : Fresh s₀) (hrun : Run (Next P M) s₀ log s) :
    (∃ loaded, deserialize (serialize s) = some loaded ∧ EqualsLoaded s loaded) ↔
      (∀ t ∈ s.pendingTransactions, classType t.1 ≠ some .contractSendChannelCoopSettle) ∧
      ∀ c ∈ channelsOf s, c.feeSchedule.penaltyFunc = none := by
  have hrebuilt : AllRebuilt s := by
    refine hrun.invariant (I := AllRebuilt) ?_ fun _ label _ hi hnext => hi.next hnext
    intro address reg hget
    rw [h₀.registries] at hget
    cases hget
  simp only [deserialize_serialize hrebuilt]
  constructor
  · rintro ⟨_, ⟨-, haccepted⟩, hequals⟩
    refine ⟨haccepted, fun c hc => ?_⟩
    exact (FeeScheduleObject.create_eq_iff Nat.zero_ne_one _).mp (hequals.schedules c hc 0 1 Nat.zero_ne_one)
  · rintro ⟨haccepted, hnone⟩
    refine ⟨s, ⟨rfl, haccepted⟩, rfl, fun c hc object newObject hne => ?_⟩
    exact (FeeScheduleObject.create_eq_iff hne _).mpr (hnone c hc)

/-- A node with an open channel and a queued transfer. -/
theorem snapshot_of_payment_loads : ∃ log s, Run (Next Channel.toyPrimitives toyMargins) toyChainState log s ∧
    (channelsOf s).length = 1 ∧ (queueOf s.queueidsToQueues toyQueueid).length = 1 ∧
    ∃ loaded, deserialize (serialize s) = some loaded ∧ EqualsLoaded s loaded := by
  have hexec : (execute (advance Channel.toyPrimitives toyMargins 0) (toyOpened ++ [toyPayment 5])
      ([], toyChainState)).any (fun finish => (channelsOf finish.2).length = 1 ∧
        (queueOf finish.2.queueidsToQueues toyQueueid).length = 1 ∧
        finish.2.pendingTransactions.length = 0 ∧
        ∀ c ∈ channelsOf finish.2, c.feeSchedule.penaltyFunc = none) = true := by decide +kernel
  obtain ⟨log, s, hrun, hfinish⟩ := exists_run hexec
  obtain ⟨hchannels, hqueue, hpending, hnone⟩ := of_decide_eq_true hfinish
  refine ⟨log, s, hrun, hchannels, hqueue, (snapshot_loads_iff toyChainState_fresh hrun).mpr ⟨?_, hnone⟩⟩
  rw [List.length_eq_zero_iff.mp hpending]
  exact fun _ h => (by cases h)

/-- The fees of a channel with 20 tokens, at its two ends. -/
def curvePrimitives : Primitives :=
  { Channel.toyPrimitives with imbalanceCurve := fun _ _ => some [(0, 0), (20, 0)] }

/-- A deposit is reported with the default fees. -/
def toyDeposited : List StateChange :=
  toyOpened ++ [.contractReceiveChannelDeposit ⟨2, [], Channel.toyIdentifier, 1, 10, {}⟩]

/-- After a deposit the snapshot is loaded, but as a state that is not equal. -/
theorem snapshot_of_deposit_differs : ∃ log s loaded,
    Run (Next curvePrimitives toyMargins) toyChainState log s ∧
      deserialize (serialize s) = some loaded ∧ ¬EqualsLoaded s loaded := by
  have hexec : (execute (advance curvePrimitives toyMargins 0) toyDeposited ([], toyChainState)).any
      (fun finish => (deserialize (serialize finish.2)).isSome &&
        (channelsOf finish.2).any fun c => c.feeSchedule.penaltyFunc ≠ none) = true := by decide +kernel
  obtain ⟨log, s, hrun, hfinish⟩ := exists_run hexec
  obtain ⟨hsome, hany⟩ := Bool.and_eq_true_iff.mp hfinish
  obtain ⟨c, hc, hpenalty⟩ := List.any_eq_true.mp hany
  obtain ⟨loaded, hloaded⟩ := Option.isSome_iff_exists.mp hsome
  refine ⟨log, s, loaded, hrun, hloaded, fun hequals => of_decide_eq_true hpenalty ?_⟩
  exact (FeeScheduleObject.create_eq_iff Nat.zero_ne_one _).mp (hequals.schedules c hc 0 1 Nat.zero_ne_one)

end Raiden.Storage
