import Raiden.Node.Registry

/-! # Message queues

A queue keeps the messages to one recipient in one channel in the order in which
they were sent. A step appends the messages it sends, and it removes the
messages that its input acknowledges, in place. -/
namespace Raiden.Node

open Lib

variable {ack : Acknowledgement}

def queueOf (queues : Queues) (qid : QueueIdentifier) : List QueuedMessage :=
  (queues.get? qid).getD []

section Acknowledgements

variable {ack : Acknowledgement} {queues : Queues} {qid : QueueIdentifier}

def unacknowledged (ack : Acknowledgement) (queue : List QueuedMessage) : List QueuedMessage :=
  queue.filter fun message => messageFound ack message = false

theorem unacknowledged_idem (ack : Acknowledgement) (queue : List QueuedMessage) :
    unacknowledged ack (unacknowledged ack queue) = unacknowledged ack queue := by
  simp only [unacknowledged, List.filter_filter, Bool.and_self]

/-- What stands in front of the rest of the loop was looked at and kept, so a
message that is found is the first one of its kind. -/
theorem foldl_delete (kept queue : List QueuedMessage)
    (hkept : ∀ msg ∈ kept, messageFound ack msg = false) :
    queue.foldl (fun queue msg =>
        if messageFound ack msg then queue.erase msg else queue) (kept ++ queue) =
      kept ++ unacknowledged ack queue := by
  induction queue generalizing kept with
  | nil => rfl
  | cons msg queue ih =>
    rw [List.foldl_cons]
    by_cases hfound : messageFound ack msg = true
    · have hnot : msg ∉ kept := fun hmem => by
        rw [hkept msg hmem] at hfound
        cases hfound
      rw [if_pos hfound, List.erase_append_right _ hnot, List.erase_cons_head, ih kept hkept,
        unacknowledged, unacknowledged, List.filter_cons_of_neg (by simp [hfound])]
    · have hfound : messageFound ack msg = false := by simpa using hfound
      have happend := ih (kept ++ [msg]) fun m hm => by
        rcases List.mem_append.mp hm with hm | hm
        · exact hkept m hm
        · rw [List.mem_singleton.mp hm]
          exact hfound
      rw [List.append_assoc, List.append_assoc, List.singleton_append, List.singleton_append] at happend
      rw [if_neg (by simp [hfound]), happend, unacknowledged, unacknowledged,
        List.filter_cons_of_pos (by simp [hfound])]

theorem inplaceDeleteMessage_eq (ack : Acknowledgement) (queue : List QueuedMessage) :
    inplaceDeleteMessage ack queue = unacknowledged ack queue :=
  foldl_delete [] queue nofun

theorem queueOf_inplaceDeleteMessageQueue (other : QueueIdentifier) :
    queueOf (inplaceDeleteMessageQueue ack queues qid) other =
      if other = qid then unacknowledged ack (queueOf queues other) else queueOf queues other := by
  unfold inplaceDeleteMessageQueue queueOf
  cases hget : queues.get? qid with
  | none =>
    dsimp only
    split
    · next heq => rw [heq, hget]; rfl
    · rfl
  | some queue =>
    dsimp only
    rw [inplaceDeleteMessage_eq]
    split
    · next hempty =>
      rw [Dict.get?_del]
      split
      · next heq => rw [heq, hget, Option.getD_some, hempty]; rfl
      · rfl
    · next msg rest hrest =>
      rw [Dict.get?_set]
      split
      · next heq => rw [heq, hget, Option.getD_some, Option.getD_some, hrest]
      · rfl

theorem queueOf_foldl_delete (queueids : List QueueIdentifier) (queues : Queues)
    (other : QueueIdentifier) :
    queueOf (queueids.foldl (inplaceDeleteMessageQueue ack) queues) other =
      if other ∈ queueids then unacknowledged ack (queueOf queues other)
      else queueOf queues other := by
  induction queueids generalizing queues with
  | nil => rfl
  | cons qid queueids ih =>
    rw [List.foldl_cons, ih, queueOf_inplaceDeleteMessageQueue]
    by_cases heq : other = qid
    · rw [if_pos heq, unacknowledged_idem, ite_self, if_pos (List.mem_cons.mpr (.inl heq))]
    · rw [if_neg heq]
      simp only [List.mem_cons, heq, false_or]

theorem queueOf_inplaceDeleteFromAllQueues (other : QueueIdentifier) :
    queueOf (inplaceDeleteFromAllQueues ack queues) other =
      unacknowledged ack (queueOf queues other) := by
  rw [inplaceDeleteFromAllQueues, queueOf_foldl_delete]
  split
  · rfl
  · next hnot =>
    have hnone : queues.get? other = none := Dict.not_mem_iff.mp (mt Dict.mem_keys_iff.mpr hnot)
    rw [queueOf, hnone]
    rfl

end Acknowledgements

section Sent

def messagesTo (qid : QueueIdentifier) : List Event → List QueuedMessage
  | [] => []
  | event :: es =>
    if h : event.message?.isSome = true then
      if (event.message?.get h).queueIdentifier = qid then ⟨event, h⟩ :: messagesTo qid es
      else messagesTo qid es
    else messagesTo qid es

theorem queueOf_enqueue (s : ChainState) (event : Event) (qid : QueueIdentifier) :
    queueOf (enqueue s event).queueidsToQueues qid =
      queueOf s.queueidsToQueues qid ++ messagesTo qid [event] := by
  have hqueues : (enqueue s event).queueidsToQueues =
      if h : event.message?.isSome = true then
        s.queueidsToQueues.set (event.message?.get h).queueIdentifier
          (queueOf s.queueidsToQueues (event.message?.get h).queueIdentifier ++ [⟨event, h⟩])
      else s.queueidsToQueues := by
    unfold enqueue
    split <;> split <;> rfl
  rw [hqueues, messagesTo]
  split
  · next h =>
    rw [queueOf, Dict.get?_set]
    by_cases heq : qid = (event.message?.get h).queueIdentifier
    · rw [if_pos heq, if_pos heq.symm, ← heq]
      rfl
    · rw [if_neg heq, if_neg (Ne.symm heq)]
      exact (List.append_nil _).symm
  · exact (List.append_nil _).symm

theorem messagesTo_cons (qid : QueueIdentifier) (event : Event) (es : List Event) :
    messagesTo qid (event :: es) = messagesTo qid [event] ++ messagesTo qid es := by
  simp only [messagesTo]
  split
  · split
    · rfl
    · rfl
  · rfl

theorem queueOf_foldl_enqueue (es : List Event) (s : ChainState) (qid : QueueIdentifier) :
    queueOf (es.foldl enqueue s).queueidsToQueues qid =
      queueOf s.queueidsToQueues qid ++ messagesTo qid es := by
  induction es generalizing s with
  | nil => exact (List.append_nil _).symm
  | cons event es ih =>
    rw [List.foldl_cons, ih, queueOf_enqueue, messagesTo_cons qid event es, List.append_assoc]

end Sent

section Retention

variable {P : Primitives} {M : Initiator.FeeMargins} {s s' : ChainState} {sc : StateChange}
  {es : List Event} {qid : QueueIdentifier} {msg : QueuedMessage}

section

variable (P : Primitives) (s : ChainState)

def Accepted (confirmation : ReceiveWithdrawConfirmation) : Prop :=
  ∃ ref net c,
    s.getTokenNetworkByAddress confirmation.canonicalIdentifier.tokenNetworkAddress =
      some (ref, net) ∧
    net.channelidentifiersToChannels.get?
      confirmation.canonicalIdentifier.channelIdentifier = some c ∧
    Channel.isValidWithdrawConfirmation P c confirmation = .ok ()

structure Answers (confirmation : ReceiveWithdrawConfirmation) (request : SendWithdrawRequest) :
    Prop where
  messageIdentifier : request.messageIdentifier = confirmation.messageIdentifier
  recipient : request.recipient = confirmation.sender
  channel : request.canonicalIdentifier = confirmation.canonicalIdentifier
  totalWithdraw : request.totalWithdraw = confirmation.totalWithdraw
  participant : request.participant = confirmation.participant
  expiration : request.expiration = confirmation.expiration

def closedIdentifier (s : ChainState) (change : ContractReceiveChannelClosed) : CanonicalIdentifier :=
  ⟨s.chainId, change.canonicalIdentifier.tokenNetworkAddress,
    change.canonicalIdentifier.channelIdentifier⟩

/-- An acknowledgement of a message that is not a withdraw request, by its recipient. -/
structure AcknowledgedBy (sender : Address) (msgId : MessageID) (message : QueuedMessage) :
    Prop where
  notRequest : message.1.isSendWithdrawRequest = false
  messageIdentifier : message.message.messageIdentifier = msgId
  recipient : message.message.recipient = sender

/-- What a node may forget a queued message for: the acknowledgement of its
recipient (only a `Delivered` outside the channel queues), the confirmation of a
withdraw request that its channel accepts, and the end of the channel. -/
def Released (qid : QueueIdentifier) (message : QueuedMessage) : StateChange → Prop
  | .receiveProcessed change => AcknowledgedBy change.sender change.messageIdentifier message
  | .receiveDelivered change =>
    qid.canonicalIdentifier = canonicalIdentifierUnorderedQueue ∧
      AcknowledgedBy change.sender change.messageIdentifier message
  | .receiveWithdrawConfirmation change =>
    ∃ request, message.1 = .sendWithdrawRequest request ∧ Answers change request ∧ Accepted P s change
  | .contractReceiveChannelClosed change =>
    ∃ ref c, ChainState.Views.getChannelstateByCanonicalIdentifier s (closedIdentifier s change) =
        some (ref, c) ∧ qid = ⟨c.partnerState.address, closedIdentifier s change⟩
  | _ => False

/-- Every queued message with the identifier and the sender of a withdraw
confirmation is the withdraw request it answers, and the channel accepts it. -/
def ConfirmsRequests : StateChange → Prop
  | .receiveWithdrawConfirmation change =>
    ∀ qid, ∀ message ∈ queueOf s.queueidsToQueues qid,
      message.message.messageIdentifier = change.messageIdentifier →
      message.message.recipient = change.sender →
      ∃ request, message.1 = .sendWithdrawRequest request ∧ Answers change request ∧ Accepted P s change
  | _ => True

theorem messageFound_eq_true :
    messageFound ack msg = true ↔
      ¬(msg.1.isSendWithdrawRequest = true ∧ ack.isWithdrawConfirmation = false) ∧
      msg.message.messageIdentifier = ack.messageIdentifier ∧
      msg.message.recipient = ack.sender := by
  exact decide_eq_true_iff

theorem acknowledgedBy_of_found (hkind : ack.isWithdrawConfirmation = false)
    (h : messageFound ack msg = true) : AcknowledgedBy ack.sender ack.messageIdentifier msg := by
  obtain ⟨hrequest, hidentifier, hrecipient⟩ := messageFound_eq_true.mp h
  refine ⟨?_, hidentifier, hrecipient⟩
  cases hcase : msg.1.isSendWithdrawRequest with
  | false => rfl
  | true => exact absurd ⟨hcase, hkind⟩ hrequest

/-- The messages a step keeps are in their old order, and those it does not keep are released. -/
def Retains (change : StateChange) (qid : QueueIdentifier) (queue : List QueuedMessage) : Prop :=
  ∃ kept : QueuedMessage → Bool, queue = (queueOf s.queueidsToQueues qid).filter kept ∧
    ∀ message ∈ queueOf s.queueidsToQueues qid, kept message = false →
      Released P s qid message change

end

theorem Retains.same : Retains P s sc qid (queueOf s.queueidsToQueues qid) :=
  ⟨fun _ => true, (List.filter_true _).symm, nofun⟩

theorem Retains.unacknowledged
    (h : ∀ msg ∈ queueOf s.queueidsToQueues qid, messageFound ack msg = true →
      Released P s qid msg sc) :
    Retains P s sc qid (unacknowledged ack (queueOf s.queueidsToQueues qid)) :=
  ⟨_, rfl, fun msg hmem hkept => h msg hmem (by simpa using hkept)⟩

theorem retains_prepared (hconfirms : ConfirmsRequests P s sc) (qid : QueueIdentifier) :
    Retains P s sc qid (queueOf (prepared s sc).queueidsToQueues qid) := by
  cases sc with
  | receiveProcessed sc =>
    simp only [prepared, handleReceiveProcessed, queueOf_inplaceDeleteFromAllQueues]
    exact .unacknowledged fun msg _ hfound => acknowledgedBy_of_found rfl hfound
  | receiveDelivered sc =>
    simp only [prepared, handleReceiveDelivered, queueOf_inplaceDeleteMessageQueue]
    split
    · next heq =>
      exact .unacknowledged fun msg _ hfound =>
        ⟨congrArg QueueIdentifier.canonicalIdentifier heq, acknowledgedBy_of_found rfl hfound⟩
    · exact .same
  | receiveWithdrawConfirmation sc =>
    simp only [prepared, queueOf_inplaceDeleteFromAllQueues]
    refine .unacknowledged fun msg hmem hfound => ?_
    obtain ⟨-, hidentifier, hrecipient⟩ := messageFound_eq_true.mp hfound
    exact hconfirms qid msg hmem hidentifier hrecipient
  | contractReceiveChannelClosed sc =>
    simp only [prepared, dropQueue]
    split
    · exact .same
    · next ref c hget =>
      rw [queueOf, Dict.get?_del]
      split
      · next heq =>
        refine ⟨fun _ => false, (List.filter_false _).symm, fun _ _ _ => ⟨ref, c, hget, heq⟩⟩
      · exact .same
  | contractReceiveNewTokenNetworkRegistry sc =>
    simp only [prepared, handleContractReceiveNewTokenNetworkRegistry]
    split <;> exact .same
  | contractReceiveNewTokenNetwork sc =>
    simp only [prepared, handleContractReceiveNewTokenNetwork, maybeAddTokennetwork]
    split <;> exact .same
  | _ => exact .same

theorem Next.queueOf_eq (h : Next P M s (sc, es) s') (qid : QueueIdentifier) :
    queueOf s'.queueidsToQueues qid =
      queueOf (prepared s sc).queueidsToQueues qid ++ messagesTo qid es := by
  obtain ⟨t, prng, prng', hhandled, hupdated⟩ := h.inv
  have hdispatched := handleStateChange_dispatched s sc prng _ prng' hhandled
  obtain ⟨pending, -, rfl⟩ := updateQueues_ok hupdated
  rw [queueOf_foldl_enqueue]
  change queueOf t.queueidsToQueues qid ++ _ = _
  rw [hdispatched.queues]

/-- A step of the node whose withdraw confirmations answer the requests they remove. -/
def ConfirmingNext (P : Primitives) (M : Initiator.FeeMargins) (s : ChainState)
    (label : StateChange × List Event) (s' : ChainState) : Prop :=
  ConfirmsRequests P s label.1 ∧ Next P M s label s'

theorem ConfirmingNext.retains (h : ConfirmingNext P M s (sc, es) s')
    (qid : QueueIdentifier) : ∃ queue, Retains P s sc qid queue ∧
      queueOf s'.queueidsToQueues qid = queue ++ messagesTo qid es :=
  ⟨_, retains_prepared h.1 qid, h.2.queueOf_eq qid⟩

theorem ConfirmingNext.mem_or_released (h : ConfirmingNext P M s (sc, es) s')
    (hmem : msg ∈ queueOf s.queueidsToQueues qid) :
    msg ∈ queueOf s'.queueidsToQueues qid ∨ Released P s qid msg sc := by
  obtain ⟨queue, ⟨kept, rfl, hreleased⟩, hqueue⟩ := h.retains qid
  cases hkept : kept msg with
  | true =>
    rw [hqueue]
    exact .inl (List.mem_append_left _ (List.mem_filter.mpr ⟨hmem, hkept⟩))
  | false => exact .inr (hreleased msg hmem hkept)

/-- In every run in which withdraw confirmations answer the requests they
remove, a queued message stays until a step releases it; a step removes nothing
else and keeps the order of what stays in front of what it sends. -/
theorem messages_stay_until_released {s₀ : ChainState} {log : List (StateChange × List Event)}
    (hrun : Run (ConfirmingNext P M) s₀ log s) :
    (∀ qid, ∀ message ∈ queueOf s₀.queueidsToQueues qid, message ∈ queueOf s.queueidsToQueues qid ∨
      ∃ past change es t t', Run (ConfirmingNext P M) s₀ past t ∧
        past ++ [(change, es)] <+: log ∧ ConfirmingNext P M t (change, es) t' ∧
        Released P t qid message change) ∧
    ∀ change es s', ConfirmingNext P M s (change, es) s' → ∀ qid, ∃ kept : QueuedMessage → Bool,
        queueOf s'.queueidsToQueues qid =
          (queueOf s.queueidsToQueues qid).filter kept ++ messagesTo qid es ∧
        ∀ message ∈ queueOf s.queueidsToQueues qid, kept message = false →
          Released P s qid message change := by
  refine ⟨fun qid message hmem => ?_, fun change es s' hnext qid => ?_⟩
  · induction hrun with
    | start => exact .inl hmem
    | @step t u log label past last ih =>
      obtain ⟨change, es⟩ := label
      rcases ih with hqueued | ⟨past', change', es', t', t'', hpast, hprefix, hnext, hreleased⟩
      · rcases last.mem_or_released hqueued with hqueued | hreleased
        · exact .inl hqueued
        · exact .inr ⟨log, change, es, t, u, past, List.prefix_rfl, last, hreleased⟩
      · exact .inr ⟨past', change', es', t', t'', hpast,
          hprefix.trans (List.prefix_append _ _), hnext, hreleased⟩
  · obtain ⟨queue, ⟨kept, rfl, hreleased⟩, hqueue⟩ := hnext.retains qid
    exact ⟨kept, hqueue, hreleased⟩

theorem queueOf_prepared_sublist (P : Primitives) (s : ChainState) (sc : StateChange) (qid : QueueIdentifier) :
    (queueOf (prepared s sc).queueidsToQueues qid).Sublist (queueOf s.queueidsToQueues qid) := by
  have hretained (hconfirms : ConfirmsRequests P s sc) :
      (queueOf (prepared s sc).queueidsToQueues qid).Sublist (queueOf s.queueidsToQueues qid) := by
    obtain ⟨kept, hkept, -⟩ := retains_prepared hconfirms qid
    rw [hkept]
    exact List.filter_sublist
  cases sc with
  | receiveWithdrawConfirmation sc =>
    simp only [prepared, queueOf_inplaceDeleteFromAllQueues]
    exact List.filter_sublist
  | _ => exact hretained trivial

theorem messagesTo_append (qid : QueueIdentifier) (es es' : List Event) :
    messagesTo qid (es ++ es') = messagesTo qid es ++ messagesTo qid es' := by
  induction es with
  | nil => rfl
  | cons event es ih =>
    rw [List.cons_append, messagesTo_cons, ih, messagesTo_cons qid event es, List.append_assoc]

/-- In every run from empty queues a queue holds only messages that the node sent to
it, in the order in which they were sent and none more often than it was sent. -/
theorem queues_hold_what_was_sent {s₀ : ChainState} {log : List (StateChange × List Event)}
    (hempty : s₀.queueidsToQueues = .empty) (hrun : Run (Next P M) s₀ log s) (qid : QueueIdentifier) :
    (queueOf s.queueidsToQueues qid).Sublist (messagesTo qid (log.flatMap Prod.snd)) := by
  refine hrun.invariant_log (I := fun log s =>
    (queueOf s.queueidsToQueues qid).Sublist (messagesTo qid (log.flatMap Prod.snd))) ?_ ?_
  · rw [hempty]
    exact .refl _
  · intro log t label u hqueue hnext
    obtain ⟨sc, es⟩ := label
    rw [hnext.queueOf_eq qid, List.flatMap_append, messagesTo_append, List.flatMap_singleton]
    exact ((queueOf_prepared_sublist P t sc qid).trans hqueue).append (.refl _)

end Retention

def toyOpened : List StateChange :=
  [newToyRegistry, newToyTokenNetwork, .contractReceiveChannelNew (Channel.toyChannel 10 10)]

def toyWithdraw : StateChange := .actionChannelWithdraw ⟨Channel.toyIdentifier, 5, none⟩

/-- A payment of 3 tokens under the secrethash `n`. -/
def toyPayment (n : Nat) : StateChange :=
  .actionInitInitiator {
    transfer := {
      tokenNetworkRegistryAddress := 7
      paymentIdentifier := n
      amount := 3
      tokenNetworkAddress := 9
      initiator := 1
      target := 2
      secret := [.ofNat n]
      secrethash := .ofNat _ n }
    routes := [{ route := [1, 2] }] }

/-- A confirmation of the withdraw; only the nonce 1 is the one the channel expects. -/
def toyConfirmation (nonce : Nat) : StateChange :=
  .receiveWithdrawConfirmation {
    sender := 2
    messageIdentifier := 0
    canonicalIdentifier := Channel.toyIdentifier
    totalWithdraw := 5
    nonce
    expiration := 20
    signature := [0, 0]
    participant := 1 }

def toyQueueid : QueueIdentifier := ⟨2, Channel.toyIdentifier⟩

def toyProcessed : StateChange := .receiveProcessed ⟨2, 0⟩

def toyNext (s : ChainState) (change : StateChange) : Option (List Event × ChainState) :=
  (advance Channel.toyPrimitives toyMargins 0 s change).map fun done => (done.1.2, done.2)

theorem toyNext_sound {s s' : ChainState} {sc : StateChange} {es : List Event}
    (h : toyNext s sc = some (es, s')) : Next Channel.toyPrimitives toyMargins s (sc, es) s' := by
  unfold toyNext advance at h
  split at h
  · next hrun =>
    cases h
    exact .intro hrun
  · cases h

/-- A locked transfer is queued, and it stays until the partner acknowledges it. -/
theorem locked_transfer_stays_until_processed : ∃ s log s' message,
    Run (ConfirmingNext Channel.toyPrimitives toyMargins) s log s' ∧ log ≠ [] ∧
      message ∈ queueOf s.queueidsToQueues toyQueueid ∧
      (message ∈ queueOf s'.queueidsToQueues toyQueueid ∨ ∃ past change es t t',
          Run (ConfirmingNext Channel.toyPrimitives toyMargins) s past t ∧
          past ++ [(change, es)] <+: log ∧
          ConfirmingNext Channel.toyPrimitives toyMargins t (change, es) t' ∧
          Released Channel.toyPrimitives t toyQueueid message change) := by
  have hexec : (execute (advance Channel.toyPrimitives toyMargins 0) (toyOpened ++ [toyPayment 5])
      ([], toyChainState)).any (fun finish =>
        (queueOf finish.2.queueidsToQueues toyQueueid).length = 1 &&
          (toyNext finish.2 toyProcessed).isSome) = true := by decide +kernel
  obtain ⟨log, s, -, hfinish⟩ := exists_run hexec
  rw [Bool.and_eq_true, decide_eq_true_iff, Option.isSome_iff_exists] at hfinish
  obtain ⟨hlength, ⟨es, s'⟩, hnext⟩ := hfinish
  obtain ⟨message, hqueue⟩ := List.length_eq_one_iff.mp hlength
  have hmem : message ∈ queueOf s.queueidsToQueues toyQueueid := by
    rw [hqueue]
    exact List.mem_singleton_self message
  have hstep : ConfirmingNext Channel.toyPrimitives toyMargins s (toyProcessed, es) s' :=
    ⟨trivial, toyNext_sound hnext⟩
  have hrun := (Run.start s).step hstep
  exact ⟨s, _, s', message, hrun, List.cons_ne_nil _ _, hmem,
    (messages_stay_until_released hrun).1 toyQueueid message hmem⟩

/-- After the transfer of a payment was acknowledged, that of the next payment is the only
message of the queue. -/
theorem second_payment_queues_its_transfer : ∃ log s,
    Run (Next Channel.toyPrimitives toyMargins) toyChainState log s ∧
    (messagesTo toyQueueid (log.flatMap Prod.snd)).length = 2 ∧
    (queueOf s.queueidsToQueues toyQueueid).length = 1 ∧
    (queueOf s.queueidsToQueues toyQueueid).Sublist (messagesTo toyQueueid (log.flatMap Prod.snd)) := by
  have hexec : (execute (advance Channel.toyPrimitives toyMargins 0)
      (toyOpened ++ [toyPayment 5, toyProcessed, toyPayment 6]) ([], toyChainState)).any (fun finish =>
        (messagesTo toyQueueid (finish.1.flatMap Prod.snd)).length = 2 ∧
          (queueOf finish.2.queueidsToQueues toyQueueid).length = 1) = true := by decide +kernel
  obtain ⟨log, s, hrun, hlength⟩ := exists_run hexec
  obtain ⟨hsent, hqueued⟩ := of_decide_eq_true hlength
  exact ⟨log, s, hrun, hsent, hqueued, queues_hold_what_was_sent rfl hrun toyQueueid⟩

/-- A rejected confirmation removes the only message of the queue, which is a withdraw
request or not. -/
def DropsMessage (isRequest : Bool) : Prop :=
  ∃ log s message es s', Run (Next Channel.toyPrimitives toyMargins) toyChainState log s ∧
    Next Channel.toyPrimitives toyMargins s (toyConfirmation 7, es) s' ∧
    queueOf s.queueidsToQueues toyQueueid = [message] ∧ message.1.isSendWithdrawRequest = isRequest ∧
    queueOf s'.queueidsToQueues toyQueueid = [] ∧ es.map Event.isInvalidReceived = [true]

private theorem dropsMessage_of_execute (setup : StateChange) {isRequest : Bool}
    (h : (execute (advance Channel.toyPrimitives toyMargins 0) (toyOpened ++ [setup])
      ([], toyChainState)).any (fun finish =>
        (queueOf finish.2.queueidsToQueues toyQueueid).map (·.1.isSendWithdrawRequest) = [isRequest] &&
          (toyNext finish.2 (toyConfirmation 7)).any fun done =>
            queueOf done.2.queueidsToQueues toyQueueid = [] &&
              done.1.map Event.isInvalidReceived = [true]) = true) : DropsMessage isRequest := by
  obtain ⟨log, s, hrun, hfinish⟩ := exists_run h
  rw [Bool.and_eq_true, decide_eq_true_iff, Option.any_eq_true] at hfinish
  obtain ⟨hqueue, ⟨es, s'⟩, hnext, hdone⟩ := hfinish
  obtain ⟨msg, hmessage, hrequest⟩ := List.map_eq_singleton_iff.mp hqueue
  rw [Bool.and_eq_true, decide_eq_true_iff, decide_eq_true_iff] at hdone
  exact ⟨log, s, msg, es, s', hrun, toyNext_sound hnext, hmessage, hrequest, hdone.1, hdone.2⟩

/-- A confirmation the channel rejects removes the withdraw request it names, and
a locked transfer that has its identifier. -/
theorem rejected_confirmation_drops_messages : DropsMessage true ∧ DropsMessage false := by
  have hrequest : DropsMessage true := dropsMessage_of_execute toyWithdraw (by decide +kernel)
  have htransfer : DropsMessage false := dropsMessage_of_execute (toyPayment 5) (by decide +kernel)
  exact ⟨hrequest, htransfer⟩

end Raiden.Node
