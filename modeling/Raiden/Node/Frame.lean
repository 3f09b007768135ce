import Raiden.Node.Transition

/-! # What a handler of the node can change

Handing a state change to channels, token networks and tasks changes the
channels, the tasks and the block, and nothing else: the registries, the queues
and the pending transactions are changed by the few handlers that say so. -/
namespace Raiden.Node

open Lib

variable {t : ChainState} {msgId : MessageID} {ref : TokenNetworkRef}
  {net : TokenNetworkState}

structure SameNetwork (net net' : TokenNetworkState) : Prop where
  address : net'.address = net.address
  tokenAddress : net'.tokenAddress = net.tokenAddress

theorem SameNetwork.refl (net : TokenNetworkState) : SameNetwork net net :=
  ⟨rfl, rfl⟩

theorem SameNetwork.trans {t u v : TokenNetworkState} (h : SameNetwork t u) (h' : SameNetwork u v) :
    SameNetwork t v :=
  ⟨h'.address.trans h.address, h'.tokenAddress.trans h.tokenAddress⟩

def SameObjects (nets nets' : List TokenNetworkState) : Prop :=
  ∀ object : Nat, Option.Rel SameNetwork nets[object]? nets'[object]?

theorem SameObjects.refl (nets : List TokenNetworkState) : SameObjects nets nets :=
  fun object => .refl .refl nets[object]?

theorem SameObjects.trans {t u v : List TokenNetworkState} (h : SameObjects t u) (h' : SameObjects u v) :
    SameObjects t v :=
  fun object => (h object).trans (fun _ _ _ h h' => h.trans h') (h' object)

/-- Only channels, tasks and the block may differ. -/
structure Dispatched (s s' : ChainState) : Prop where
  ourAddress : s'.ourAddress = s.ourAddress
  chainId : s'.chainId = s.chainId
  objects : SameObjects s.tokenNetworks s'.tokenNetworks
  registries : s'.identifiersToTokennetworkregistries = s.identifiersToTokennetworkregistries
  networks : s'.tokennetworkaddressesToTokennetworkregistryaddresses =
    s.tokennetworkaddressesToTokennetworkregistryaddresses
  pending : s'.pendingTransactions = s.pendingTransactions
  queues : s'.queueidsToQueues = s.queueidsToQueues

namespace Dispatched

variable {s s' s'' : ChainState}

theorem refl (s : ChainState) : Dispatched s s := ⟨rfl, rfl, .refl _, rfl, rfl, rfl, rfl⟩

theorem trans (h : Dispatched s s') (h' : Dispatched s' s'') : Dispatched s s'' where
  ourAddress := h'.ourAddress.trans h.ourAddress
  chainId := h'.chainId.trans h.chainId
  objects := h.objects.trans h'.objects
  registries := h'.registries.trans h.registries
  networks := h'.networks.trans h.networks
  pending := h'.pending.trans h.pending
  queues := h'.queues.trans h.queues

theorem setTask (s : ChainState) (hash : SecretHash) (task : Option TransferTask) :
    Dispatched s (setTask s hash task) := by
  cases task <;> exact ⟨rfl, rfl, .refl _, rfl, rfl, rfl, rfl⟩

theorem of_objects {nets : List TokenNetworkState}
    (h : SameObjects s.tokenNetworks nets) :
    Dispatched s { s with tokenNetworks := nets } :=
  ⟨rfl, rfl, h, rfl, rfl, rfl, rfl⟩

theorem setTokenNetwork {object : Nat} {net' : TokenNetworkState}
    (hget : s.tokenNetworks[object]? = some net) (h : SameNetwork net net') :
    Dispatched s (s.setTokenNetwork object net') := by
  refine of_objects fun other => ?_
  rw [List.getElem?_set]
  have hlt := (List.getElem?_eq_some_iff.mp hget).1
  by_cases heq : object = other
  · rw [if_pos heq, if_pos hlt, ← heq, hget]
    exact .some h
  · rw [if_neg heq]
    exact SameObjects.refl _ other

theorem setChannel (s : ChainState) (ref : ChannelRef) (c : NettingChannelState) :
    Dispatched s (s.setChannel ref c) := by
  refine of_objects fun other => ?_
  rw [List.getElem?_modify]
  cases s.tokenNetworks[other]? with
  | none => exact .none
  | some net =>
    split
    · exact .some ⟨rfl, rfl⟩
    · exact .some (.refl net)

theorem getElem?_writeChannels (cs : Channels) (n : Nat) (nets : List TokenNetworkState)
    (object : Nat) :
    (ChainState.writeChannels cs n nets)[object]? =
      nets[object]?.map fun net => { net with
        channelidentifiersToChannels :=
          net.channelidentifiersToChannels.map fun ident c =>
            (cs.get? ⟨⟨n + object, net.address⟩, ident⟩).getD c } := by
  induction nets generalizing n object with
  | nil => rfl
  | cons net rest ih =>
    cases object with
    | zero => rfl
    | succ object =>
      rw [ChainState.writeChannels, List.getElem?_cons_succ, List.getElem?_cons_succ, ih (n + 1)]
      simp only [Nat.add_assoc, Nat.add_comm 1]

theorem setChannels (s : ChainState) (cs : Channels) : Dispatched s (s.setChannels cs) := by
  refine of_objects fun object => ?_
  rw [getElem?_writeChannels]
  cases s.tokenNetworks[object]? with
  | none => exact .none
  | some net => exact .some ⟨rfl, rfl⟩

end Dispatched

section Handlers

variable {P : Primitives} {M : Initiator.FeeMargins} {s : ChainState}

theorem resolve_eq_some {ref' : TokenNetworkRef} (h : s.resolve ref = some (ref', net)) :
    ref = ref' ∧ s.tokenNetworks[ref.object]? = some net := by
  unfold ChainState.resolve at h
  cases hget : s.tokenNetworks[ref.object]? with
  | none => rw [hget] at h; cases h
  | some net =>
    rw [hget] at h
    cases h
    exact ⟨rfl, rfl⟩

theorem getTokenNetworkByAddress_eq_some {addr : Address}
    (h : s.getTokenNetworkByAddress addr = some (ref, net)) :
    s.tokenNetworks[ref.object]? = some net ∧ ∃ regAddr reg,
      s.tokennetworkaddressesToTokennetworkregistryaddresses.get? addr = some regAddr ∧
      s.identifiersToTokennetworkregistries.get? regAddr = some reg ∧
      reg.tokennetworkaddressesToTokennetworks.get? addr = some ref := by
  unfold ChainState.getTokenNetworkByAddress at h
  simp only [Option.bind_eq_bind, Option.bind_eq_some_iff] at h
  obtain ⟨regAddr, hregistryAddress, reg, hregistry, ref', href, h⟩ := h
  obtain ⟨rfl, hget⟩ := resolve_eq_some h
  exact ⟨hget, regAddr, reg, hregistryAddress, hregistry, href⟩

theorem sameNetwork_of_changed {sc : TokenNetworkStateChange} {now : Nat} {bh : BlockHash}
    {r : TransitionResult TokenNetworkState} (h : TokenNetwork.Changed P net now bh sc r) :
    SameNetwork net r.newState := by
  cases h with
  | ignored => exact .refl _
  | opened | stepped | removed => exact ⟨rfl, rfl⟩

/-- The part of a transition that works on the registries and the queues. -/
def prepared (s : ChainState) : StateChange → ChainState
  | .contractReceiveNewTokenNetworkRegistry change =>
    (handleContractReceiveNewTokenNetworkRegistry s change).newState
  | .contractReceiveNewTokenNetwork change => (handleContractReceiveNewTokenNetwork s change).newState
  | .receiveDelivered change => (handleReceiveDelivered s change).newState
  | .receiveProcessed change => (handleReceiveProcessed s change).newState
  | .receiveWithdrawConfirmation change => { s with
      queueidsToQueues := inplaceDeleteFromAllQueues (.withdrawConfirmation change) s.queueidsToQueues }
  | .contractReceiveChannelClosed change => dropQueue s change
  | _ => s

end Handlers

/-- A transition of the node that returned, labelled by its input and the events. -/
inductive Next (P : Primitives) (M : Initiator.FeeMargins) (s : ChainState) :
    StateChange × List Event → ChainState → Prop
  | intro {change : StateChange} {prng prng' : Prng} {r : TransitionResult ChainState}
      (run : (stateTransition P M s change).run prng = .ok (r, prng')) :
      Next P M s (change, r.events) r.newState

section Next

variable {P : Primitives} {M : Initiator.FeeMargins} {s s' : ChainState} {sc : StateChange}
  {es : List Event}

theorem Next.inv (h : Next P M s (sc, es) s') : ∃ t prng prng',
    (handleStateChange P M s sc).run prng = .ok (⟨t, es⟩, prng') ∧
      updateQueues ⟨t, es⟩ sc = .ok s' := by
  obtain @⟨_, prng, prng', r, hrun⟩ := h
  obtain ⟨⟨t, es⟩, prng₁, hhandled, hrun⟩ := run_bind_eq_ok.mp hrun
  obtain ⟨s'', prng₂, hupdated, hrun⟩ := run_bind_eq_ok.mp hrun
  obtain ⟨rfl, -⟩ := run_pure_eq_ok.mp hrun
  exact ⟨t, prng, prng₁, hhandled, (run_lift_eq_ok.mp hupdated).1⟩

theorem foldl_enqueue_eq (es : List Event) (s : ChainState) :
    es.foldl enqueue s = { s with
      queueidsToQueues := (es.foldl enqueue s).queueidsToQueues
      pendingTransactions := (es.foldl enqueue s).pendingTransactions } := by
  induction es generalizing s with
  | nil => rfl
  | cons event es ih =>
    rw [List.foldl_cons, ih (enqueue s event)]
    unfold enqueue
    split <;> split <;> rfl

theorem updateQueues_ok (h : updateQueues ⟨t, es⟩ sc = .ok s') :
    ∃ pending, pendingAfter t sc = .ok pending ∧
      s' = es.foldl enqueue { t with pendingTransactions := pending } := by
  obtain ⟨pending, hpending, h⟩ := seq_ok_iff.mp h
  exact ⟨pending, hpending, (pure_eq_ok.mp h).symm⟩

/-- Updating the queues leaves the rest of the state alone. -/
theorem updateQueues_eq (h : updateQueues ⟨t, es⟩ sc = .ok s') :
    s' = { t with
      queueidsToQueues := s'.queueidsToQueues
      pendingTransactions := s'.pendingTransactions } := by
  obtain ⟨pending, -, rfl⟩ := updateQueues_ok h
  exact foldl_enqueue_eq es { t with pendingTransactions := pending }

/-- Execute a transition, for a generator that returns the given identifier. -/
def advance (P : Primitives) (M : Initiator.FeeMargins) (msgId : MessageID) (s : ChainState)
    (change : StateChange) : Option ((StateChange × List Event) × ChainState) :=
  match (stateTransition P M s change).run (Stream'.const msgId) with
  | .ok (r, _) => some ((change, r.events), r.newState)
  | .error _ => none

theorem advance_sound {label : StateChange × List Event}
    (h : advance P M msgId s sc = some (label, s')) : Next P M s label s' := by
  unfold advance at h
  split at h
  · next hrun =>
    cases h
    exact .intro hrun
  · cases h

theorem exists_run {inputs : List StateChange} {p : List (StateChange × List Event) × ChainState → Bool}
    (h : (execute (advance P M msgId) inputs ([], s)).any p = true) :
    ∃ log t, Run (Next P M) s log t ∧ p (log, t) = true :=
  Run.execute (.start s) h fun _ _ _ _ hnext => advance_sound hnext

theorem Next.of_advance (msgId : MessageID)
    (h : advance P M msgId s sc = some ((sc, es), s')) : Next P M s (sc, es) s' :=
  advance_sound h

end Next

end Raiden.Node
