import Raiden.Node.Channels
import Raiden.Node.Queues

/-! # Refunds of the initiator

A refund makes the payment try another route. The refund should be taken as a
whole or leave no trace. But the channel takes it before it is compared with the
transfer it refunds, and the node copies the task for the new secrethash before
anybody looked at the refund. -/
namespace Raiden.Node

open Lib Channel

variable (P : Primitives) {addr : Address} {ref : ChannelRef} {cs : Channels}
  {c : NettingChannelState}

section

variable (s : ChainState) (change : ActionTransferReroute)

/-- The transfer a refund is for and the channel of the transfer, as the node finds them. -/
def refundedTransfer : Option (ChannelRef × InitiatorTransferState × NettingChannelState) :=
  match s.secrethashesToTask.get? change.transfer.lock.secrethash with
  | some (.initiatorTask address payment) =>
    (s.getTokenNetworkByAddress address).bind fun found =>
      InitiatorManager.refundedIn found.1 payment change.transfer s.channels
  | _ => none

def refundTaken : Bool :=
  (refundedTransfer s change).any fun (_, _, c) =>
    (isValidLockedtransfer P change.transfer c c.partnerState c.ourState).isOk

def refundAccepted : Bool :=
  (refundedTransfer s change).any fun (_, st, c) =>
    (isValidLockedtransfer P change.transfer c c.partnerState c.ourState).isOk &&
      InitiatorManager.refundMatches change.transfer st.transfer

/-- What is left of a task that has nothing to do: it ends if it is finalized. -/
def remaining (s : ChainState) : TransferTask → Option TransferTask
  | .initiatorTask address payment =>
    match s.getTokenNetworkByAddress address with
    | none => some (.initiatorTask address payment)
    | some _ => (InitiatorManager.clearIfFinalized ⟨s.channels, some payment, []⟩).newState.map
        (.initiatorTask address)
  | .mediatorTask address st =>
    match s.getTokenNetworkByAddress address with
    | none => some (.mediatorTask address st)
    | some (net, _) =>
      (Mediator.clearIfFinalized net ⟨s.channels, some st, []⟩).newState.map
        (.mediatorTask address)
  | .targetTask identifier st => some (.targetTask identifier st)

/-- An accepted refund advances the partner's nonce and is acknowledged; any other
leaves the channels and the tasks alone. -/
structure AllOrNothing (es : List Event) (s' : ChainState) : Prop where
  accepted : refundAccepted P s change = true →
    (∃ ref st c c', refundedTransfer s change = some (ref, st, c) ∧
      s'.channels.get? ref = some c' ∧ c'.partnerState.nonce = c.partnerState.nonce + 1) ∧
    ∃ metadata, processed change.transfer.balanceProof.sender metadata
      change.transfer.messageIdentifier ∈ es
  refused : refundAccepted P s change = false →
    (∀ ref, s'.channels.get? ref = s.channels.get? ref) ∧ s'.secrethashesToTask = s.secrethashesToTask

/-- The refund is not taken by the channel, and the new secrethash already has what
is left of the task. -/
structure WithoutTrace : Prop where
  refused : refundTaken P s change = false
  task : ∀ task, s.secrethashesToTask.get? change.transfer.lock.secrethash = some task →
    s.secrethashesToTask.get? (InitiatorManager.secrethash P change) = remaining s task

end

/-! ## The state of the node -/

section

variable {P} {M : Initiator.FeeMargins} {s s' : ChainState} {sc change : ActionTransferReroute}
  {es : List Event} {R : NettingChannelState → NettingChannelState → Prop}

theorem get?_channels_setChannels (h : StoreRel R s.channels cs) (ref : ChannelRef) :
    (s.setChannels cs).channels.get? ref = cs.get? ref := by
  have hlookup : ∀ c, (s.setChannels cs).channels.get? ref = some c ↔
      ∃ d, s.channels.get? ref = some d ∧ (cs.get? ref).getD d = c := by
    intro c
    obtain ⟨⟨object, addr⟩, ident⟩ := ref
    simp only [get?_channels, ChainState.setChannels, Dispatched.getElem?_writeChannels, Nat.zero_add,
      Option.map_eq_some_iff]
    constructor
    · rintro ⟨_, ⟨net, hget, rfl⟩, rfl, hfound⟩
      rw [Dict.get?_map, Option.map_eq_some_iff] at hfound
      obtain ⟨d, hd, rfl⟩ := hfound
      exact ⟨d, ⟨net, hget, rfl, hd⟩, rfl⟩
    · rintro ⟨d, ⟨net, hget, rfl, hd⟩, rfl⟩
      refine ⟨_, ⟨net, hget, rfl⟩, rfl, ?_⟩
      rw [Dict.get?_map, hd, Option.map_some]
  cases hold : s.channels.get? ref with
  | none =>
    cases hnew : cs.get? ref with
    | none =>
      refine Option.eq_none_iff_forall_ne_some.mpr fun c hc => ?_
      obtain ⟨d, hd, -⟩ := (hlookup c).mp hc
      rw [hold] at hd
      cases hd
    | some c =>
      obtain ⟨d, hd, -⟩ := h.get_some hnew
      rw [hold] at hd
      cases hd
  | some d =>
    obtain ⟨c, hc, -⟩ := h.get_some' hold
    rw [hc]
    exact (hlookup c).mpr ⟨d, hold, by rw [hc, Option.getD_some]⟩

theorem setChannel_eq_self (h : s.getChannel ref = some c) : s.setChannel ref c = s := by
  obtain ⟨net, hget, hfound⟩ := getChannel_eq_some h
  have hobjects : s.tokenNetworks.modify ref.tokenNetwork.object
      (fun net => TokenNetwork.setChannel net ref.channelIdentifier c) =
      s.tokenNetworks := by
    refine List.ext_getElem? fun object => ?_
    rw [List.getElem?_modify]
    by_cases hobject : ref.tokenNetwork.object = object
    · subst hobject
      rw [hget]
      simp [TokenNetwork.setChannel, Dict.set_eq_self hfound]
    · simp [hobject]
  rw [ChainState.setChannel, hobjects]

theorem setTask_eq_self_iff (hash : SecretHash) (task : Option TransferTask) :
    (setTask s hash task).secrethashesToTask = s.secrethashesToTask ↔
      s.secrethashesToTask.get? hash = task := by
  cases task with
  | some task =>
    refine ⟨fun h => ?_, fun h => Dict.set_eq_self h⟩
    rw [← h]
    exact Dict.get?_set_self _ _ _
  | none =>
    refine ⟨fun h => ?_, fun h => Dict.del_eq_self (Dict.not_mem_iff.mpr h)⟩
    rw [← h]
    exact Dict.get?_del_self _ _

def copyTask (s : ChainState) (hash : SecretHash) (task : TransferTask) : ChainState :=
  { s with secrethashesToTask := s.secrethashesToTask.set hash task }

theorem copyTask_getTokenNetwork (hash : SecretHash) (task : TransferTask) (addr : Address) :
    (copyTask s hash task).getTokenNetworkByAddress addr = s.getTokenNetworkByAddress addr :=
  rfl

theorem setTask_copyTask (hash : SecretHash) (first : TransferTask) (last : Option TransferTask)
    (cs : Channels) :
    (setTask ((copyTask s hash first).setChannels cs) hash last).secrethashesToTask =
      (setTask s hash last).secrethashesToTask := by
  cases last with
  | some task => exact Dict.set_set_self _ _ _ _
  | none => exact Dict.del_set_self _ _ _

theorem channels_setTask (hash : SecretHash) (task : Option TransferTask) :
    (setTask s hash task).channels = s.channels := by
  cases task <;> rfl

/-- What the node does with a refund, before it updates its queues. -/
inductive RerouteHandled (P : Primitives) (s : ChainState) (change : ActionTransferReroute) :
    TransitionResult ChainState → Prop
  | ignored {task : TransferTask} {t : ChainState}
      (found : s.secrethashesToTask.get? change.transfer.lock.secrethash = some task)
      (refused : refundTaken P s change = false)
      (cs : ∀ ref, t.channels.get? ref = s.channels.get? ref)
      (tasks : t.secrethashesToTask =
        (setTask s (InitiatorManager.secrethash P change) (remaining s task)).secrethashesToTask) :
      RerouteHandled P s change ⟨t, []⟩
  | mismatch {ref : ChannelRef} {st : InitiatorTransferState} {c : NettingChannelState}
      {locks : List EncodedData} {t : ChainState}
      (found : refundedTransfer s change = some (ref, st, c))
      (valid : isValidLockedtransfer P change.transfer c c.partnerState c.ourState = .ok locks)
      (differs : InitiatorManager.refundMatches change.transfer st.transfer = false)
      (channel : t.channels.get? ref = some (withTransfer c change.transfer locks)) :
      RerouteHandled P s change ⟨t, []⟩
  | accepted {ref : ChannelRef} {st : InitiatorTransferState} {c c' : NettingChannelState}
      {locks : List EncodedData} {t : ChainState} {metadata : Option AddressMetadata} {es : List Event}
      (found : refundedTransfer s change = some (ref, st, c))
      (valid : isValidLockedtransfer P change.transfer c c.partnerState c.ourState = .ok locks)
      (equal : InitiatorManager.refundMatches change.transfer st.transfer = true)
      (channel : t.channels.get? ref = some c')
      (partner : c'.partnerState = (withTransfer c change.transfer locks).partnerState) :
      RerouteHandled P s change ⟨t, processed change.transfer.balanceProof.sender metadata
        change.transfer.messageIdentifier :: es⟩

/-- The channels a task returns are the ones the node has afterwards. -/
theorem get?_channels_stored
    (h : StoreRel R s.channels cs) (hash : SecretHash) (task : Option TransferTask)
    (ref : ChannelRef) :
    (setTask (s.setChannels cs) hash task).channels.get? ref = cs.get? ref := by
  rw [channels_setTask]
  exact get?_channels_setChannels h ref

private theorem reroute_initiator {payment : InitiatorPaymentState}
    (found : s.secrethashesToTask.get? sc.transfer.lock.secrethash = some (.initiatorTask addr
      payment)) :
    Ensures (runInitiator P M (copyTask s (InitiatorManager.secrethash P sc) (.initiatorTask addr payment))
      addr (some payment) (.actionTransferReroute sc) (InitiatorManager.secrethash P sc))
      (RerouteHandled P s sc) := by
  unfold runInitiator
  cases hnetwork : s.getTokenNetworkByAddress addr with
  | none =>
    rw [copyTask_getTokenNetwork, hnetwork]
    refine .pure (.ignored found ?_ (fun _ => rfl) ?_)
    · simp [refundTaken, refundedTransfer, found, hnetwork]
    · simp only [remaining, hnetwork]
      rfl
  | some network =>
    obtain ⟨net, object⟩ := network
    rw [copyTask_getTokenNetwork, hnetwork]
    have hrefunded : refundedTransfer s sc =
        InitiatorManager.refundedIn net payment sc.transfer s.channels := by
      simp [refundedTransfer, found, hnetwork]
    refine .bind (InitiatorManager.stateTransition_reroute.and
      (InitiatorManager.stateTransition_performed _ _)) ?_
    rintro _ ⟨⟨r, hr, rfl⟩, hperformed⟩
    replace hr : InitiatorManager.RefundHandled P net payment sc s.channels r := hr
    have hstore := hperformed.evolves.storeRel (R := fun _ _ => True) (fun _ => trivial)
      (fun _ _ _ _ _ => trivial) fun _ _ _ _ _ _ _ => trivial
    have hchannels := get?_channels_stored hstore (InitiatorManager.secrethash P sc)
    have hleft : remaining s (.initiatorTask addr payment) =
        (InitiatorManager.clearIfFinalized ⟨s.channels, some payment, []⟩).newState.map
          (.initiatorTask addr) := by
      simp only [remaining, hnetwork]
    cases hr with
    | unknown missing =>
      refine .pure (.ignored found ?_ (hchannels _) ?_)
      · simp [refundTaken, hrefunded, missing]
      · rw [hleft]
        exact setTask_copyTask _ _ _ _
    | invalid tr invalid =>
      refine .pure (.ignored found ?_ (hchannels _) ?_)
      · simp [refundTaken, hrefunded, tr, invalid, Except.isOk, Except.toBool]
      · rw [hleft]
        exact setTask_copyTask _ _ _ _
    | mismatch tr valid differs =>
      refine .pure (.mismatch (hrefunded.trans tr) valid differs ?_)
      exact (hchannels _ _).trans (Dict.get?_set_self _ _ _)
    | accepted tr valid equal route =>
      obtain ⟨c', hc', hpartner⟩ := InitiatorManager.Tried.partner_eq route (Dict.get?_set_self _ _ _)
      exact .pure (.accepted (hrefunded.trans tr) valid equal ((hchannels _ _).trans hc')
        hpartner)

private theorem reroute_mediator {st : MediatorTransferState}
    (found : s.secrethashesToTask.get? sc.transfer.lock.secrethash = some (.mediatorTask addr st)) :
    Ensures (runMediator P (copyTask s (InitiatorManager.secrethash P sc) (.mediatorTask addr st))
      addr (some st) (.actionTransferReroute sc) (InitiatorManager.secrethash P sc))
      (RerouteHandled P s sc) := by
  have hrefused : refundTaken P s sc = false := by
    simp [refundTaken, refundedTransfer, found]
  unfold runMediator
  cases hnetwork : s.getTokenNetworkByAddress addr with
  | none =>
    rw [copyTask_getTokenNetwork, hnetwork]
    refine .pure (.ignored found hrefused (fun _ => rfl) ?_)
    simp only [remaining, hnetwork]
    rfl
  | some network =>
    obtain ⟨net, object⟩ := network
    rw [copyTask_getTokenNetwork, hnetwork]
    refine .bind (Q := fun r =>
      r = Mediator.clearIfFinalized net ⟨s.channels, some st, []⟩) ?_ ?_
    · refine .bind (Q := fun r => r = ⟨s.channels, some st, []⟩) (Ensures.pure rfl) ?_
      rintro _ rfl
      exact .after fun _ => .pure rfl
    · rintro _ rfl
      have hsame : (Mediator.clearIfFinalized net ⟨s.channels, some st, []⟩).channels =
          s.channels ∧
          (Mediator.clearIfFinalized net ⟨s.channels, some st, []⟩).events = [] := by
        simp only [Mediator.clearIfFinalized]
        split <;> exact ⟨rfl, rfl⟩
      rw [hsame.1, hsame.2]
      refine .pure (.ignored found hrefused (fun ref => ?_) ?_)
      · exact get?_channels_stored (.refl (R := fun _ _ => True) (fun _ => trivial) _) _ _ ref
      · simp only [remaining, hnetwork]
        exact setTask_copyTask _ _ _ _

private theorem reroute_target {ident : CanonicalIdentifier} {st : TargetTransferState}
    (found : s.secrethashesToTask.get? sc.transfer.lock.secrethash = some (.targetTask ident st)) :
    Ensures (runTarget P (copyTask s (InitiatorManager.secrethash P sc) (.targetTask ident st))
      ident.tokenNetworkAddress ident.channelIdentifier (some st)
      (.actionTransferReroute sc) (InitiatorManager.secrethash P sc) fun _ => ident)
      (RerouteHandled P s sc) := by
  have hrefused : refundTaken P s sc = false := by
    simp [refundTaken, refundedTransfer, found]
  unfold runTarget
  split
  · exact .pure (.ignored found hrefused (fun _ => rfl) rfl)
  · next ref c hfound =>
    refine .bind (Q := fun r => r = ⟨c, some st, []⟩) ?_ ?_
    · refine .bind (Q := fun r => r = ⟨c, some st, []⟩) (Ensures.pure rfl) ?_
      rintro _ rfl
      exact .after fun _ => .pure rfl
    · rintro _ rfl
      rw [setChannel_eq_self (views_getChannelstate hfound)]
      refine .pure (.ignored found hrefused (fun _ => rfl) ?_)
      exact Dict.set_set_self _ _ _ _

theorem handleActionTransferReroute_ensures :
    Ensures (handleActionTransferReroute P M s sc) (RerouteHandled P s sc) := by
  unfold handleActionTransferReroute
  cases found : s.secrethashesToTask.get? sc.transfer.lock.secrethash with
  | none => exact .throw
  | some task =>
    unfold subdispatchToPaymenttask
    simp only [Dict.get?_set_self]
    cases task with
    | initiatorTask => exact reroute_initiator found
    | mediatorTask => exact reroute_mediator found
    | targetTask => exact reroute_target found

theorem refundedTransfer_found {st : InitiatorTransferState}
    (h : refundedTransfer s sc = some (ref, st, c)) : s.channels.get? ref = some c := by
  unfold refundedTransfer at h
  split at h
  · obtain ⟨_, -, h⟩ := Option.bind_eq_some_iff.mp h
    obtain ⟨_, -, h⟩ := Option.bind_eq_some_iff.mp h
    obtain ⟨_, hfound, heq⟩ := Option.map_eq_some_iff.mp h
    cases heq
    exact hfound
  · cases h

theorem withTransfer_nonce {tr : LockedTransferSignedState} {locks : List EncodedData}
    (h : isValidLockedtransfer P tr c c.partnerState c.ourState = .ok locks) :
    (withTransfer c tr locks).partnerState.nonce = c.partnerState.nonce + 1 :=
  ((validLockedtransferCheck_ok P).mp h).usable.nonce

/-- A refund is handled as a whole exactly when it is accepted, or when the channel
refuses it and the copy of the task was there before. -/
theorem reroute_all_or_nothing_iff (h : Next P M s (.actionTransferReroute change, es) s') :
    AllOrNothing P s change es s' ↔ refundAccepted P s change = true ∨ WithoutTrace P s change := by
  obtain ⟨t, prng, prng', hhandled, hupdated⟩ := h.inv
  have hsame := updateQueues_eq hupdated
  have htasks : s'.secrethashesToTask = t.secrethashesToTask := by rw [hsame]
  have hchannels : s'.channels = t.channels := by rw [hsame]; rfl
  have hcases := handleActionTransferReroute_ensures prng _ prng' hhandled
  generalize hr : (⟨t, es⟩ : TransitionResult ChainState) = r at hcases
  cases hcases with
  | @ignored task t' found refused cs tasks =>
    cases hr
    have hnot : refundAccepted P s change = false := by
      rw [Bool.eq_false_iff]
      intro haccepted
      obtain ⟨⟨ref, st, c⟩, hfound, hboth⟩ := (Option.any_eq_true _ _).mp haccepted
      have htaken : refundTaken P s change = true :=
        (Option.any_eq_true _ _).mpr ⟨_, hfound, ((Bool.and_eq_true _ _).mp hboth).1⟩
      cases htaken.symm.trans refused
    have htask : s'.secrethashesToTask = s.secrethashesToTask ↔
        s.secrethashesToTask.get? (InitiatorManager.secrethash P change) = remaining s task := by
      rw [htasks, tasks]
      exact setTask_eq_self_iff _ _
    constructor
    · intro hall
      refine .inr ⟨refused, fun other hother => ?_⟩
      cases found.symm.trans hother
      exact htask.mp (hall.refused hnot).2
    · intro hcondition
      have htrace := hcondition.resolve_left (by rw [hnot]; exact Bool.false_ne_true)
      refine ⟨fun haccepted => ?_, fun _ => ⟨fun ref => ?_, htask.mpr (htrace.task _ found)⟩⟩
      · rw [hnot] at haccepted
        cases haccepted
      · rw [hchannels]
        exact cs ref
  | @mismatch ref st c locks t' found valid differs channel =>
    cases hr
    have hnot : refundAccepted P s change = false := by
      simp [refundAccepted, found, differs]
    have htaken : refundTaken P s change = true := by
      simp [refundTaken, found, valid, Except.isOk, Except.toBool]
    constructor
    · intro hall
      have hkept := (hall.refused hnot).1 ref
      rw [hchannels, channel, refundedTransfer_found found] at hkept
      have hnonce := withTransfer_nonce valid
      rw [Option.some.inj hkept] at hnonce
      omega
    · intro hcondition
      have htrace := hcondition.resolve_left (by rw [hnot]; exact Bool.false_ne_true)
      cases htaken.symm.trans htrace.refused
  | accepted found valid equal channel partner =>
    cases hr
    have haccepted : refundAccepted P s change = true := by
      simp [refundAccepted, found, valid, equal, Except.isOk, Except.toBool]
    refine ⟨fun _ => .inl haccepted, fun _ => ⟨fun _ => ⟨?_, _, List.mem_cons_self⟩, fun hnot => ?_⟩⟩
    · refine ⟨_, _, _, _, found, hchannels ▸ channel, ?_⟩
      rw [partner]
      exact withTransfer_nonce valid
    · cases haccepted.symm.trans hnot

end

def mediatedPayment : StateChange :=
  .actionInitInitiator {
    transfer := {
      tokenNetworkRegistryAddress := 7
      paymentIdentifier := 1
      amount := 3
      tokenNetworkAddress := 9
      initiator := 1
      target := 4
      secret := [5]
      secrethash := 5 }
    routes := [{ route := [1, 2, 4] }] }

/-- A refund of the partner after `earlier` messages, with a lock of the amount. -/
def toyRefund (earlier amount : Fin 256) : ActionTransferReroute :=
  let lock := toyLockUntil 20 amount 5
  let balanceProof := toyBalanceProof earlier 0 amount [lock]
  { sender := 2
    balanceProof
    transfer := { toyTransfer lock balanceProof with
      initiator := 1
      target := 4 }
    secret := [6] }

theorem refund_all_or_nothing_toy : ∃ log s es s',
    Run (Next toyPrimitives toyMargins) toyChainState log s ∧
      Next toyPrimitives toyMargins s (.actionTransferReroute (toyRefund 0 3), es) s' ∧
      AllOrNothing toyPrimitives s (toyRefund 0 3) es s' := by
  have hexec : (execute (advance toyPrimitives toyMargins 0) (toyOpened ++ [mediatedPayment])
      ([], toyChainState)).any (fun finish => refundAccepted toyPrimitives finish.2 (toyRefund 0 3) &&
        (toyNext finish.2 (.actionTransferReroute (toyRefund 0 3))).isSome) = true := by decide +kernel
  obtain ⟨log, s, hrun, hfinish⟩ := exists_run hexec
  rw [Bool.and_eq_true, Option.isSome_iff_exists] at hfinish
  obtain ⟨haccepted, ⟨es, s'⟩, hnext⟩ := hfinish
  have hstep := toyNext_sound hnext
  exact ⟨log, s, es, s', hrun, hstep, (reroute_all_or_nothing_iff hstep).mpr (.inl haccepted)⟩

/-- A refund with a wrong nonce leaves a copy of the task; one with a wrong amount
is taken by the channel, and nothing is sent. -/
theorem refused_refund_leaves_trace :
    (∃ log s es s', Run (Next toyPrimitives toyMargins) toyChainState log s ∧
      Next toyPrimitives toyMargins s (.actionTransferReroute (toyRefund 1 3), es) s' ∧
      refundAccepted toyPrimitives s (toyRefund 1 3) = false ∧
      (s.secrethashesToTask.get? 6).isSome = false ∧ (s'.secrethashesToTask.get? 6).isSome = true) ∧
    ∃ log s es s', Run (Next toyPrimitives toyMargins) toyChainState log s ∧
      Next toyPrimitives toyMargins s (.actionTransferReroute (toyRefund 0 2), es) s' ∧
      refundAccepted toyPrimitives s (toyRefund 0 2) = false ∧ es = [] ∧
      (s.channels.get? ⟨⟨0, 9⟩, 1⟩).map (·.partnerState.nonce) = some 0 ∧
      (s'.channels.get? ⟨⟨0, 9⟩, 1⟩).map (·.partnerState.nonce) = some 1 := by
  constructor
  · have hexec : (execute (advance toyPrimitives toyMargins 0) (toyOpened ++ [mediatedPayment])
        ([], toyChainState)).any (fun finish =>
          !refundAccepted toyPrimitives finish.2 (toyRefund 1 3) &&
          !(finish.2.secrethashesToTask.get? 6).isSome &&
          (toyNext finish.2 (.actionTransferReroute (toyRefund 1 3))).any fun done =>
            (done.2.secrethashesToTask.get? 6).isSome) = true := by decide +kernel
    obtain ⟨log, s, hrun, hfinish⟩ := exists_run hexec
    simp only [Bool.and_eq_true, Bool.not_eq_true', Option.any_eq_true] at hfinish
    obtain ⟨⟨hrefused, hnone⟩, ⟨es, s'⟩, hnext, hcopied⟩ := hfinish
    exact ⟨log, s, es, s', hrun, toyNext_sound hnext, hrefused, hnone, hcopied⟩
  · have hexec : (execute (advance toyPrimitives toyMargins 0) (toyOpened ++ [mediatedPayment])
        ([], toyChainState)).any (fun finish =>
          !refundAccepted toyPrimitives finish.2 (toyRefund 0 2) &&
          decide ((finish.2.channels.get? ⟨⟨0, 9⟩, 1⟩).map (·.partnerState.nonce) = some 0) &&
          (toyNext finish.2 (.actionTransferReroute (toyRefund 0 2))).any fun done => done.1 = [] &&
            decide ((done.2.channels.get? ⟨⟨0, 9⟩, 1⟩).map (·.partnerState.nonce) = some 1)) = true := by
      decide +kernel
    obtain ⟨log, s, hrun, hfinish⟩ := exists_run hexec
    simp only [Bool.and_eq_true, Bool.not_eq_true', Option.any_eq_true, decide_eq_true_iff] at hfinish
    obtain ⟨⟨hrefused, hbefore⟩, ⟨es, s'⟩, hnext, hsilent, hafter⟩ := hfinish
    exact ⟨log, s, es, s', hrun, toyNext_sound hnext, hrefused, hsilent, hbefore, hafter⟩

def secondRefund : ActionTransferReroute :=
  let first := toyLockUntil 20 2 5
  let second := toyLockUntil 20 1 5
  let balanceProof := toyBalanceProof 1 0 3 [first, second]
  { sender := 2
    balanceProof
    transfer := { toyTransfer second balanceProof with
      initiator := 1
      target := 4 }
    secret := [6] }

/-- Two refunds of wrong amounts are both taken by the channel: the list of pending locks
holds two locks of the secrethash, the maps one. -/
theorem second_refund_overwrites_lock : ∃ log s c, Run (Next toyPrimitives toyMargins) toyChainState log s ∧
    s.channels.get? ⟨⟨0, 9⟩, 1⟩ = some c ∧ c.partnerState.pendingLocks.length = 2 ∧
    (locksOf c.partnerState).length = 1 ∧ ¬LocksConsistent toyPrimitives c.partnerState := by
  have hexec : (execute (advance toyPrimitives toyMargins 0) (toyOpened ++ [mediatedPayment,
      .actionTransferReroute (toyRefund 0 2), .actionTransferReroute secondRefund])
      ([], toyChainState)).any (fun finish => (finish.2.channels.get? ⟨⟨0, 9⟩, 1⟩).any fun c =>
        c.partnerState.pendingLocks.length = 2 && (locksOf c.partnerState).length = 1) = true := by
    decide +kernel
  obtain ⟨log, s, hrun, hfinish⟩ := exists_run hexec
  obtain ⟨c, hc, hlengths⟩ := (Option.any_eq_true _ _).mp hfinish
  rw [Bool.and_eq_true, decide_eq_true_iff, decide_eq_true_iff] at hlengths
  obtain ⟨hpending, hlocks⟩ := hlengths
  refine ⟨log, s, c, hrun, hc, hpending, hlocks, fun hconsistent => ?_⟩
  have hlength := hconsistent.pending.length_eq
  rw [hpending, List.length_map, hlocks] at hlength
  cases hlength

end Raiden.Node
