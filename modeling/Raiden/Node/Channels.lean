import Raiden.Initiator.Spec
import Raiden.Mediator.Handlers
import Raiden.Node.Frame
import Raiden.Target.System

/-! # The channels of a node

A payment task changes channels by operations only. What every such operation
does to its channel, a step of the node does to all of them: `ChannelsRel` says
that the channels stand where they stood, each related to what it was. -/
namespace Raiden.Node

open Lib Channel

variable {addr : Address} {s : ChainState} {cs : Channels} {es : List Event}
  {sc : StateChange} {net : TokenNetworkState}
  {R : NettingChannelState → NettingChannelState → Prop}

/-- A relation that the operations of a kind keep. -/
structure Respects (P : Primitives) (A : ChannelRef → NettingChannelState → ChannelOp → Prop)
    (R : NettingChannelState → NettingChannelState → Prop) : Prop where
  refl : ∀ c, R c c
  trans : ∀ c₁ c₂ c₃, R c₁ c₂ → R c₂ c₃ → R c₁ c₃
  step : ∀ ref c op es c', A ref c op → Step P c (op, es) c' → R c c'

theorem respects_true {P : Primitives} {A : ChannelRef → NettingChannelState → ChannelOp → Prop} :
    Respects P A fun _ _ => True :=
  ⟨fun _ => trivial, fun _ _ _ _ _ => trivial, fun _ _ _ _ _ _ _ => trivial⟩

structure NetworkRel (R : NettingChannelState → NettingChannelState → Prop)
    (net net' : TokenNetworkState) : Prop where
  same : SameNetwork net net'
  partners : ∀ partner, TokenNetwork.identifiersOf net' partner =
    TokenNetwork.identifiersOf net partner
  channels : ∀ identifier, Option.Rel R (net.channelidentifiersToChannels.get? identifier)
    (net'.channelidentifiersToChannels.get? identifier)

def ChannelsRel (R : NettingChannelState → NettingChannelState → Prop) (s s' : ChainState) : Prop :=
  ∀ object : Nat, Option.Rel (NetworkRel R) s.tokenNetworks[object]? s'.tokenNetworks[object]?

section Rel

variable {R : NettingChannelState → NettingChannelState → Prop} {s s' s'' : ChainState}
  {ref : ChannelRef} {c c' : NettingChannelState}

theorem NetworkRel.refl (hR : ∀ c, R c c) (net : TokenNetworkState) : NetworkRel R net net :=
  ⟨.refl _, fun _ => rfl, fun _ => .refl hR _⟩

theorem NetworkRel.trans (hR : ∀ c₁ c₂ c₃, R c₁ c₂ → R c₂ c₃ → R c₁ c₃)
    {t u v : TokenNetworkState}
    (h : NetworkRel R t u) (h' : NetworkRel R u v) : NetworkRel R t v where
  same := h.same.trans h'.same
  partners partner := (h'.partners partner).trans (h.partners partner)
  channels ident := (h.channels ident).trans hR (h'.channels ident)

theorem NetworkRel.setChannel (hR : ∀ c, R c c) {ident : ChannelID}
    (found : net.channelidentifiersToChannels.get? ident = some c) (h : R c c') :
    NetworkRel R net (TokenNetwork.setChannel net ident c') := by
  refine ⟨⟨rfl, rfl⟩, fun _ => rfl, fun other => ?_⟩
  rw [TokenNetwork.setChannel, Dict.get?_set]
  split
  · next heq =>
    rw [heq, found]
    exact .some h
  · exact (NetworkRel.refl hR net).channels other

theorem ChannelsRel.of_eq (hR : ∀ c, R c c) (h : s'.tokenNetworks = s.tokenNetworks) :
    ChannelsRel R s s' := by
  intro object
  rw [h]
  exact .refl (.refl hR) _

theorem ChannelsRel.refl (hR : ∀ c, R c c) (s : ChainState) : ChannelsRel R s s := .of_eq hR rfl

theorem ChannelsRel.trans (hR : ∀ c₁ c₂ c₃, R c₁ c₂ → R c₂ c₃ → R c₁ c₃)
    (h : ChannelsRel R s s')
    (h' : ChannelsRel R s' s'') : ChannelsRel R s s'' :=
  fun object => (h object).trans (fun _ _ _ => .trans hR) (h' object)

theorem ChannelsRel.congr {t : ChainState} (h : ChannelsRel R s s')
    (ht : t.tokenNetworks = s'.tokenNetworks) : ChannelsRel R s t := by
  intro object
  rw [ht]
  exact h object

theorem getChannel_eq_some (h : s.getChannel ref = some c) : ∃ net,
    s.tokenNetworks[ref.tokenNetwork.object]? = some net ∧
      net.channelidentifiersToChannels.get? ref.channelIdentifier = some c :=
  Option.bind_eq_some_iff.mp h

theorem ChannelsRel.setChannel (hR : ∀ c, R c c) (found : s.getChannel ref = some c) (h : R c c') :
    ChannelsRel R s (s.setChannel ref c') := by
  obtain ⟨net, hget, hfound⟩ := getChannel_eq_some found
  intro other
  rw [ChainState.setChannel, List.getElem?_modify]
  by_cases heq : ref.tokenNetwork.object = other
  · simp only [heq, if_true]
    rw [← heq, hget]
    exact .some (.setChannel hR hfound h)
  · simp only [heq, if_false]
    rw [id_map']
    exact ChannelsRel.refl hR s other

/-! ## The store of the tasks -/

theorem mem_channelEntries {n : Nat} {tokenNetworks : List TokenNetworkState} :
    (ref, c) ∈ ChainState.channelEntries n tokenNetworks ↔ ∃ (k : Nat) (net : TokenNetworkState),
      tokenNetworks[k]? = some net ∧ ref.tokenNetwork = ⟨n + k, net.address⟩ ∧
      net.channelidentifiersToChannels.get? ref.channelIdentifier = some c := by
  induction tokenNetworks generalizing n with
  | nil => simp [ChainState.channelEntries]
  | cons net rest ih =>
    rw [ChainState.channelEntries, List.mem_append, ih]
    constructor
    · rintro (hmem | ⟨k, t, hk, href, hget⟩)
      · obtain ⟨⟨ident, d⟩, hentry, heq⟩ := List.mem_map.mp hmem
        cases heq
        exact ⟨0, net, rfl, rfl, Dict.mem_entries_iff.mp hentry⟩
      · refine ⟨k + 1, t, hk, ?_, hget⟩
        rw [href, Nat.add_assoc, Nat.add_comm 1]
    · rintro ⟨k, t, hk, href, hget⟩
      cases k with
      | zero =>
        cases hk
        obtain ⟨network, ident⟩ := ref
        cases href
        exact .inl (List.mem_map.mpr ⟨(ident, c), Dict.mem_entries_iff.mpr hget, rfl⟩)
      | succ k =>
        refine .inr ⟨k, t, hk, ?_, hget⟩
        rw [href, Nat.add_assoc, Nat.add_comm 1]

theorem get?_channels : s.channels.get? ref = some c ↔ ∃ net,
    s.tokenNetworks[ref.tokenNetwork.object]? = some net ∧ net.address = ref.tokenNetwork.address ∧
      net.channelidentifiersToChannels.get? ref.channelIdentifier = some c := by
  rw [← Dict.mem_entries_iff, ChainState.channels, mem_channelEntries]
  constructor
  · rintro ⟨k, net, hk, href, hget⟩
    rw [Nat.zero_add] at href
    rw [href]
    exact ⟨net, hk, rfl, hget⟩
  · rintro ⟨net, hk, haddress, hget⟩
    refine ⟨_, net, hk, ?_, hget⟩
    rw [Nat.zero_add, haddress]

theorem ChannelsRel.setChannels (h : StoreRel R s.channels cs) :
    ChannelsRel R s (s.setChannels cs) := by
  intro object
  rw [ChainState.setChannels, Dispatched.getElem?_writeChannels, Nat.zero_add]
  cases hget : s.tokenNetworks[object]? with
  | none => exact .none
  | some net =>
    refine .some ⟨⟨rfl, rfl⟩, fun _ => rfl, fun ident => ?_⟩
    rw [Dict.get?_map]
    cases hfound : net.channelidentifiersToChannels.get? ident with
    | none => exact .none
    | some c =>
      have hstore : s.channels.get? ⟨⟨object, net.address⟩, ident⟩ = some c :=
        get?_channels.mpr ⟨net, hget, rfl, hfound⟩
      obtain ⟨c', hc', hR⟩ := h.get_some' hstore
      rw [Option.map_some, hc', Option.getD_some]
      exact .some hR

end Rel

/-! ## Payment tasks -/

/-- Only channels, tasks and the block may differ, and the channels are related. -/
structure Handed (R : NettingChannelState → NettingChannelState → Prop) (s s' : ChainState) : Prop where
  dispatched : Dispatched s s'
  channels : ChannelsRel R s s'

theorem Handed.refl (hR : ∀ c, R c c) (s : ChainState) : Handed R s s :=
  ⟨.refl s, .refl hR s⟩

theorem Handed.trans {s s' s'' : ChainState}
    (hR : ∀ c₁ c₂ c₃, R c₁ c₂ → R c₂ c₃ → R c₁ c₃) (h : Handed R s s') (h' : Handed R s' s'') :
    Handed R s s'' :=
  ⟨h.dispatched.trans h'.dispatched, h.channels.trans hR h'.channels⟩

/-- What handing a state change to a task leaves: related channels, and no
registration of a secret that was just registered. -/
structure TaskDone (R : NettingChannelState → NettingChannelState → Prop) (change : PaymentStateChange)
    (s : ChainState) (r : TransitionResult ChainState) : Prop extends Handed R s r.newState where
  unregistered : ∀ reveal, change = .contractReceiveSecretReveal reveal →
    ∀ event ∈ r.events, isRegistration event = false

section Tasks

variable {P : Primitives} {M : Initiator.FeeMargins} {sc : PaymentStateChange}
  {R : NettingChannelState → NettingChannelState → Prop}

theorem TaskDone.nothing (hR : Respects P (TaskOp P sc) R) (s : ChainState) :
    TaskDone R sc s ⟨s, []⟩ :=
  ⟨.refl hR.refl s, nofun⟩

theorem TaskDone.of_performed (hR : Respects P (TaskOp P sc) R)
    (h : Performed P sc s.channels cs es) (hash : SecretHash) (task : Option TransferTask) :
    TaskDone R sc s ⟨setTask (s.setChannels cs) hash task, es⟩ := by
  have hstore := h.evolves.storeRel hR.refl hR.trans hR.step
  refine ⟨⟨(Dispatched.setChannels s cs).trans (.setTask _ _ _),
    (ChannelsRel.setChannels hstore).congr ?_⟩, h.unregistered⟩
  cases task <;> rfl

theorem TaskDone.trans (hR : Respects P (TaskOp P sc) R) {first rest : TransitionResult ChainState}
    (h : TaskDone R sc s first) (h' : TaskDone R sc first.newState rest) :
    TaskDone R sc s ⟨rest.newState, first.events ++ rest.events⟩ := by
  refine ⟨h.toHanded.trans hR.trans h'.toHanded, fun reveal hreveal event hmem => ?_⟩
  rcases List.mem_append.mp hmem with hmem | hmem
  · exact h.unregistered reveal hreveal event hmem
  · exact h'.unregistered reveal hreveal event hmem

theorem views_getTokenNetworkByAddress {ref : TokenNetworkRef}
    (h : ChainState.Views.getTokenNetworkByAddress s addr = some (ref, net)) :
    s.tokenNetworks[ref.object]? = some net := by
  obtain ⟨registry, -, hfound⟩ := List.exists_of_findSome?_eq_some h
  obtain ⟨ref', -, hresolve⟩ := Option.bind_eq_some_iff.mp hfound
  obtain ⟨rfl, hget⟩ := resolve_eq_some hresolve
  exact hget

theorem views_getChannelstate {ident : CanonicalIdentifier} {ref : ChannelRef}
    {c : NettingChannelState}
    (h : ChainState.Views.getChannelstateByCanonicalIdentifier s ident = some (ref, c)) :
    s.getChannel ref = some c := by
  simp only [ChainState.Views.getChannelstateByCanonicalIdentifier, Option.bind_eq_bind,
    Option.bind_eq_some_iff] at h
  obtain ⟨⟨network, net⟩, hnetwork, c', hc', heq⟩ := h
  cases heq
  exact Option.bind_eq_some_iff.mpr ⟨net, views_getTokenNetworkByAddress hnetwork, hc'⟩

section Runs

variable (hR : Respects P (TaskOp P sc) R)

include hR

variable (s : ChainState) (addr : Address)

theorem runInitiator_done (managerState : Option InitiatorPaymentState) (hash : SecretHash) :
    Ensures (runInitiator P M s addr managerState sc hash) (TaskDone R sc s) := by
  unfold runInitiator
  cases s.getTokenNetworkByAddress addr with
  | none => exact .pure (.nothing hR s)
  | some found =>
    refine .bind (InitiatorManager.stateTransition_performed _ _) fun r hr => ?_
    exact .pure (.of_performed hR hr hash _)

theorem runMediator_done (mediatorState : Option MediatorTransferState) (hash : SecretHash) :
    Ensures (runMediator P s addr mediatorState sc hash) (TaskDone R sc s) := by
  unfold runMediator
  cases s.getTokenNetworkByAddress addr with
  | none => exact .pure (.nothing hR s)
  | some found =>
    refine .bind (Mediator.stateTransition_performed _ _) fun r hr => ?_
    exact .pure (.of_performed hR hr hash _)

theorem runTarget_done (ident : ChannelID)
    (targetState : Option TargetTransferState) (hash : SecretHash)
    (identifierOf : NettingChannelState → CanonicalIdentifier) :
    Ensures (runTarget P s addr ident targetState sc hash identifierOf) (TaskDone R sc s) := by
  unfold runTarget
  cases hfound : ChainState.Views.getChannelstateByCanonicalIdentifier s
      ⟨s.chainId, addr, ident⟩ with
  | none => exact .pure (.nothing hR s)
  | some found =>
    obtain ⟨ref, c⟩ := found
    refine .bind (Target.stateTransition_operated targetState sc c s.blockNumber)
      fun r hr => .pure ?_
    have hrel : R c r.channel := by
      rcases hr.1 with heq | ⟨op, es, hop, step⟩
      · rw [heq]
        exact hR.refl c
      · exact hR.step ref c op es _ (hop ref) step
    refine ⟨⟨(Dispatched.setChannel s ref r.channel).trans (.setTask _ _ _),
      (ChannelsRel.setChannel hR.refl (views_getChannelstate hfound) hrel).congr ?_⟩, ?_⟩
    · cases r.newState <;> rfl
    · intro reveal hreveal event hmem
      rw [hr.2 reveal hreveal] at hmem
      cases hmem

theorem subdispatchToPaymenttask_done (s : ChainState) (hash : SecretHash) :
    Ensures (subdispatchToPaymenttask P M s sc hash) (TaskDone R sc s) := by
  unfold subdispatchToPaymenttask
  cases s.secrethashesToTask.get? hash with
  | none => exact .pure (.nothing hR s)
  | some task =>
    cases task with
    | initiatorTask => exact runInitiator_done hR s _ _ _
    | mediatorTask => exact runMediator_done hR s _ _ _
    | targetTask => exact runTarget_done hR s _ _ _ _ _

theorem subdispatchToLockedtransfers_done (secrethashes : List SecretHash) (s : ChainState) :
    Ensures (subdispatchToLockedtransfers P M sc secrethashes s) (TaskDone R sc s) := by
  induction secrethashes generalizing s with
  | nil => exact .pure (.nothing hR s)
  | cons hash secrethashes ih =>
    refine .bind (subdispatchToPaymenttask_done hR s hash) fun r hr => ?_
    exact .bind (ih r.newState) fun rest hrest => .pure (hr.trans hR hrest)

theorem subdispatchInitiatortask_done (hash : SecretHash) :
    Ensures (subdispatchInitiatortask P M s sc addr hash) (TaskDone R sc s) := by
  unfold subdispatchInitiatortask
  split
  · exact runInitiator_done hR s _ _ _
  · split
    · exact runInitiator_done hR s _ _ _
    · exact .pure (.nothing hR s)
  · exact .pure (.nothing hR s)

theorem subdispatchMediatortask_done (hash : SecretHash) :
    Ensures (subdispatchMediatortask P s sc addr hash) (TaskDone R sc s) := by
  unfold subdispatchMediatortask
  split
  · exact runMediator_done hR s _ _ _
  · split
    · exact runMediator_done hR s _ _ _
    · exact .pure (.nothing hR s)
  · exact .pure (.nothing hR s)

theorem subdispatchTargettask_done (ident : ChannelID) (hash : SecretHash) :
    Ensures (subdispatchTargettask P s sc addr ident hash) (TaskDone R sc s) := by
  unfold subdispatchTargettask
  split
  · exact runTarget_done hR s _ _ _ _ _
  · split
    · exact runTarget_done hR s _ _ _ _ _
    · exact .pure (.nothing hR s)
  · exact .pure (.nothing hR s)

end Runs

end Tasks

/-! ## The other state changes -/

section Changes

variable {P : Primitives} {M : Initiator.FeeMargins}
  {R : NettingChannelState → NettingChannelState → Prop}

def atNetwork? (change : ChannelStateChange) : Option (TokenNetworkStateChange × Address) :=
  change.canonicalIdentifier?.map fun identifier => (.channel change, identifier.tokenNetworkAddress)

/-- The state change of a token network that an input of the node is, and the
address of the token network. -/
def networkChange? : StateChange → Option (TokenNetworkStateChange × Address)
  | .actionChannelClose identifier => atNetwork? (.actionChannelClose identifier)
  | .actionChannelSetRevealTimeout identifier revealTimeout =>
    atNetwork? (.actionChannelSetRevealTimeout identifier revealTimeout)
  | .actionChannelWithdraw change => atNetwork? (.actionChannelWithdraw change)
  | .actionChannelCoopSettle change => atNetwork? (.actionChannelCoopSettle change)
  | .receiveWithdrawRequest change => atNetwork? (.receiveWithdrawRequest change)
  | .receiveWithdrawConfirmation change => atNetwork? (.receiveWithdrawConfirmation change)
  | .receiveWithdrawExpired change => atNetwork? (.receiveWithdrawExpired change)
  | .contractReceiveChannelNew c => some (.contractReceiveChannelNew c, c.tokenNetworkAddress)
  | .contractReceiveChannelClosed change => atNetwork? (.contractReceiveChannelClosed change)
  | .contractReceiveChannelSettled change => atNetwork? (.contractReceiveChannelSettled change)
  | .contractReceiveChannelDeposit change => atNetwork? (.contractReceiveChannelDeposit change)
  | .contractReceiveChannelWithdraw change => atNetwork? (.contractReceiveChannelWithdraw change)
  | .contractReceiveChannelBatchUnlock change => atNetwork? (.contractReceiveChannelBatchUnlock change)
  | .contractReceiveUpdateTransfer change => atNetwork? (.contractReceiveUpdateTransfer change)
  | _ => none

/-- What such an input leaves of the token network objects, with the events. -/
inductive Networked (P : Primitives) (s : ChainState) (change : TokenNetworkStateChange)
    (address : Address) : List TokenNetworkState → List Event → Prop
  | unknown (h : s.getTokenNetworkByAddress address = none) :
      Networked P s change address s.tokenNetworks []
  | changed {ref : TokenNetworkRef} {net : TokenNetworkState}
      {r : TransitionResult TokenNetworkState}
      (found : s.getTokenNetworkByAddress address = some (ref, net))
      (h : TokenNetwork.Changed P net s.blockNumber s.blockHash change r) :
      Networked P s change address (s.tokenNetworks.set ref.object r.newState) r.events

theorem subdispatchToTokenNetwork_networked (s : ChainState) (sc : TokenNetworkStateChange)
    (addr : Address) :
    Ensures (subdispatchToTokenNetwork P s sc addr) fun r =>
      Dispatched s r.newState ∧ Networked P s sc addr r.newState.tokenNetworks r.events := by
  unfold subdispatchToTokenNetwork
  cases found : s.getTokenNetworkByAddress addr with
  | none => exact .pure ⟨.refl s, .unknown found⟩
  | some network =>
    refine .bind (TokenNetwork.stateTransition_changed sc s.blockNumber s.blockHash)
      fun r hr => .pure ⟨?_, .changed found hr⟩
    exact .setTokenNetwork (getTokenNetworkByAddress_eq_some found).1 (sameNetwork_of_changed hr)

theorem dropQueue_networked (s : ChainState) (closed : ContractReceiveChannelClosed)
    {sc : TokenNetworkStateChange} {objects : List TokenNetworkState}
    (h : Networked P (dropQueue s closed) sc addr objects es) :
    Networked P s sc addr objects es := by
  unfold dropQueue at h
  dsimp only at h
  split at h
  · exact h
  · cases h with
    | unknown h => exact .unknown h
    | changed found h => exact .changed found h

theorem handleStateChange_networked (s : ChainState) {networkChange : TokenNetworkStateChange}
    (hchange : networkChange? sc = some (networkChange, addr)) :
    Ensures (handleStateChange P M s sc) fun r => Dispatched (prepared s sc) r.newState ∧
      Networked P s networkChange addr r.newState.tokenNetworks r.events := by
  cases sc with
  | contractReceiveChannelClosed closed =>
    cases hchange
    exact (subdispatchToTokenNetwork_networked (dropQueue s closed) _ _).mono fun r hr =>
      ⟨hr.1, dropQueue_networked s closed hr.2⟩
  | receiveWithdrawConfirmation =>
    cases hchange
    refine .bind (subdispatchToTokenNetwork_networked s _ _) fun r ⟨hr, hnetworked⟩ => .pure ⟨?_, hnetworked⟩
    exact ⟨hr.ourAddress, hr.chainId, hr.objects, hr.registries, hr.networks, hr.pending,
      by rw [hr.queues]; rfl⟩
  | actionChannelClose | actionChannelSetRevealTimeout | actionChannelWithdraw
  | actionChannelCoopSettle | receiveWithdrawRequest | receiveWithdrawExpired
  | contractReceiveChannelNew | contractReceiveChannelSettled | contractReceiveChannelDeposit
  | contractReceiveChannelWithdraw | contractReceiveChannelBatchUnlock
  | contractReceiveUpdateTransfer =>
    cases hchange
    exact subdispatchToTokenNetwork_networked s _ _
  | _ => cases hchange

section

variable (hR : Respects P (fun _ _ _ => True) R)

include hR

theorem subdispatchToChannels_handed (sc : Block)
    (now : Nat) (bh : BlockHash) (refs : List ChannelRef) (s : ChainState) :
    Ensures (subdispatchToChannels P sc now bh refs s) fun r => Handed R s r.newState := by
  induction refs generalizing s with
  | nil => exact .pure (.refl hR.refl s)
  | cons ref refs ih =>
    unfold subdispatchToChannels
    cases found : s.getChannel ref with
    | none => exact ih s
    | some c =>
      refine .bind (Q := fun r => R c (r.newState.getD c)) ?_ fun r hr => ?_
      · intro prng r prng' hrun
        obtain ⟨newState, es⟩ := r
        cases newState with
        | none => exact hR.refl c
        | some c' =>
          have hstep : Step P c (.stateChange (.block sc) now bh, es) c' :=
            ⟨prng, prng', hrun⟩
          exact hR.step ref c _ es c' trivial hstep
      · refine .bind (ih _) fun rest hrest => .pure ?_
        have hset : Handed R s (s.setChannel ref (r.newState.getD c)) :=
          ⟨.setChannel s ref _, .setChannel hR.refl found hr⟩
        exact hset.trans hR.trans hrest

theorem Respects.taskOp (sc : PaymentStateChange) : Respects P (TaskOp P sc) R :=
  ⟨hR.refl, hR.trans, fun ref c op es c' _ => hR.step ref c op es c' trivial⟩

theorem handleBlock_handed (s : ChainState) (sc : Block) :
    Ensures (handleBlock P M s sc) fun r => Handed R s r.newState := by
  refine .bind (subdispatchToChannels_handed hR _ _ _ _ _) fun r hr => ?_
  refine .bind (subdispatchToLockedtransfers_done (hR.taskOp (.block sc)) _ r.newState)
    fun rest hrest => .pure ?_
  have hblock : Handed R s { s with blockNumber := sc.blockNumber, blockHash := sc.blockHash } :=
    ⟨⟨rfl, rfl, .refl _, rfl, rfl, rfl, rfl⟩, .of_eq hR.refl rfl⟩
  exact (hblock.trans hR.trans hr).trans hR.trans hrest.toHanded

/-- All other inputs keep the channels where they are. -/
theorem handleStateChange_handed (s : ChainState) (hchange : networkChange? sc = none) :
    Ensures (handleStateChange P M s sc) fun r => Handed R (prepared s sc) r.newState := by
  have hpayment : ∀ payment k, Ensures (subdispatchToPaymenttask P M s payment k) fun r =>
      Handed R s r.newState := fun payment k =>
    (subdispatchToPaymenttask_done (hR.taskOp payment) s k).mono fun _ hr => hr.toHanded
  cases sc with
  | block sc => exact handleBlock_handed hR s sc
  | actionInitInitiator sc =>
    exact (subdispatchInitiatortask_done (hR.taskOp _) s _ _).mono fun _ hr => hr.toHanded
  | actionInitMediator sc =>
    exact (subdispatchMediatortask_done (hR.taskOp _) s _ _).mono fun _ hr => hr.toHanded
  | actionInitTarget sc =>
    exact (subdispatchTargettask_done (hR.taskOp _) s _ _ _).mono fun _ hr => hr.toHanded
  | actionTransferReroute sc =>
    show Ensures (handleActionTransferReroute P M s sc) _
    unfold handleActionTransferReroute
    cases s.secrethashesToTask.get? sc.transfer.lock.secrethash with
    | none => exact .throw
    | some task =>
      refine (subdispatchToPaymenttask_done (hR.taskOp _) _ _).mono fun r hr => ?_
      have htask : Handed R s (setTask s (InitiatorManager.secrethash P sc) (some task)) :=
        ⟨.setTask s _ _, .of_eq hR.refl rfl⟩
      exact htask.trans hR.trans hr.toHanded
  | receiveTransferCancelRoute | receiveTransferRefund | receiveSecretRequest | receiveSecretReveal
  | receiveUnlock | receiveLockExpired | contractReceiveSecretReveal => exact hpayment _ _
  | contractReceiveNewTokenNetworkRegistry | contractReceiveNewTokenNetwork | receiveDelivered
  | receiveProcessed | updateServicesAddressesStateChange | actionCancelPayment
  | contractReceiveRouteNew => exact .pure (.refl hR.refl _)
  | _ => cases hchange

end

/-- The rest of a transition works on channels and tasks. -/
theorem handleStateChange_dispatched (s : ChainState) (sc : StateChange) :
    Ensures (handleStateChange P M s sc) fun r => Dispatched (prepared s sc) r.newState := by
  cases hchange : networkChange? sc with
  | none => exact (handleStateChange_handed respects_true s hchange).mono fun _ hr => hr.dispatched
  | some found => exact (handleStateChange_networked s hchange).mono fun _ hr => hr.1

/-- The registries are as the handler of the state change left them. -/
structure SameRegistries (s s' : ChainState) : Prop where
  objects : SameObjects s.tokenNetworks s'.tokenNetworks
  registries : s'.identifiersToTokennetworkregistries = s.identifiersToTokennetworkregistries
  networks : s'.tokennetworkaddressesToTokennetworkregistryaddresses =
    s.tokennetworkaddressesToTokennetworkregistryaddresses

theorem Next.sameRegistries {s' : ChainState} (h : Next P M s (sc, es) s') :
    SameRegistries (prepared s sc) s' := by
  obtain ⟨t, prng, prng', hhandled, hupdated⟩ := h.inv
  have hdispatched := handleStateChange_dispatched s sc prng _ prng' hhandled
  rw [updateQueues_eq hupdated]
  exact ⟨hdispatched.objects, hdispatched.registries, hdispatched.networks⟩

end Changes

end Raiden.Node
