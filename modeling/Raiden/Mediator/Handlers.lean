import Raiden.Mediator.Spec

/-! # What the handlers of the mediator do

One relation for each state change between the state of the task before and
after it, with the operations on the channels and what is known of the events. -/
namespace Raiden.Mediator

open Lib Channel

variable {P : Primitives} {net : TokenNetworkRef} {cs : Channels} {a2c : AddressesToChannel}
  {now : Nat} {bh : BlockHash} {st : MediatorTransferState} {payee ref : ChannelRef}
  {registered : Channels} {r : Iteration MediatorTransferState} {out : List Event}
  {routes : List RouteState} {tr : LockedTransferSignedState} {p p' : MediationPairState}
  {c c' : NettingChannelState} {task : Option MediatorTransferState} {sc : ReceiveUnlock}
  {secret : Secret} {k hash : SecretHash} {msg : SendLockedTransfer} {cs' : Channels}
  {mediate : Iteration MediatorTransferState} {es : List Event}
  {A : ChannelRef → NettingChannelState → ChannelOp → Prop}
  {R : MediationPairState → MediationPairState → Prop}

def incoming (st : MediatorTransferState) : List LockedTransferSignedState :=
  st.transfersPair.map MediationPairState.payerTransfer ++
    st.waitingTransfer.toList.map WaitingTransferState.transfer

def incomingRef (net : TokenNetworkRef) (transfer : LockedTransferSignedState) : ChannelRef :=
  channelRef net transfer.balanceProof.channelIdentifier

theorem routeChannel_found {payerC : NettingChannelState} {route : RouteState}
    (h : routeChannel cs a2c payerC route = some (payee, c)) : cs.get? payee = some c := by
  simp only [routeChannel, Option.bind_eq_bind, Option.bind_eq_some_iff, Option.pure_def,
    Option.some.injEq, Prod.mk.injEq] at h
  obtain ⟨_, -, _, -, _, hget, rfl, rfl⟩ := h
  exact hget

namespace Forwarded

variable (h : Forwarded P cs a2c tr payerC now routes payee c c'
  msg)

include h

theorem secrethash_eq : msg.transfer.lock.secrethash = tr.lock.secrethash := by
  obtain ⟨amount, id, -, -, hsend⟩ := h.sent
  obtain ⟨locks, hsent, -⟩ := sendLockedtransfer_ok P hsend
  exact hsent.secrethash_eq

theorem found : cs.get? payee = some c := by
  obtain ⟨route, -, hroute⟩ := h.route
  exact routeChannel_found hroute

theorem step : ∃ arguments, arguments.secrethash = tr.lock.secrethash ∧
    Step P c (.sendLockedtransfer arguments, [.sendLockedTransfer msg]) c' := by
  obtain ⟨amount, id, -, -, hsend⟩ := h.sent
  exact ⟨_, rfl, Step.sendLockedtransfer hsend⟩

theorem evolves : Evolves P (Sends P tr.lock.secrethash) cs (cs.set payee c') := by
  obtain ⟨arguments, hsecrethash, hstep⟩ := h.step
  have hallowed : Sends P tr.lock.secrethash payee c (.sendLockedtransfer arguments) :=
    ⟨rfl, congrArg some hsecrethash⟩
  exact .single h.found hallowed hstep

end Forwarded

namespace Mediated

variable (h : Mediated P st payerC cs a2c tr now r)

include h

theorem quiet : Silent r.events := by
  cases h with
  | waits => exact .nil
  | forwards => exact .singleton ⟨rfl, rfl, rfl⟩

theorem evolves : Evolves P (Sends P tr.lock.secrethash) cs r.channels := by
  cases h with
  | waits => exact .refl
  | forwards facts => exact facts.evolves

theorem mem_incoming : ∀ t ∈ incoming r.newState, t = tr ∨ t ∈ incoming st := by
  intro t ht
  cases h with
  | waits =>
    simp only [incoming, List.mem_append, Option.toList_some, List.map_cons, List.map_nil,
      List.mem_singleton] at ht ⊢
    tauto
  | forwards =>
    simp only [incoming, List.map_append, List.mem_append, List.map_cons, List.map_nil,
      List.mem_singleton, forwardedPair] at ht ⊢
    tauto

theorem mem_pairs : ∀ p ∈ r.newState.transfersPair, p ∈ st.transfersPair ∨
    p.payeeState = .payeePending ∧ p.payerState = .payerPending := by
  intro p hp
  cases h with
  | waits => exact .inl hp
  | forwards =>
    rcases List.mem_append.mp hp with hp | hp
    · exact .inl hp
    · rw [List.mem_singleton] at hp
      rw [hp]
      exact .inr ⟨rfl, rfl⟩

end Mediated

inductive Retried (P : Primitives) (net : TokenNetworkRef) (st : MediatorTransferState)
    (cs : Channels) (a2c : AddressesToChannel) (now : Nat) :
    Iteration MediatorTransferState → Prop
  | idle (absent : ∀ waiting ∈ st.waitingTransfer, cs.get? (waitingRef net waiting) = none) :
      Retried P net st cs a2c now ⟨cs, st, []⟩
  | waits {waiting : WaitingTransferState} {payerChannel : NettingChannelState}
      (hwaiting : st.waitingTransfer = some waiting)
      (found : cs.get? (waitingRef net waiting) = some payerChannel) :
      Retried P net st cs a2c now
        ⟨cs, { st with waitingTransfer := some { transfer := waiting.transfer } }, []⟩
  | forwards {waiting : WaitingTransferState} {payerChannel c c' : NettingChannelState}
      {payee : ChannelRef} {message : SendLockedTransfer}
      (hwaiting : st.waitingTransfer = some waiting)
      (found : cs.get? (waitingRef net waiting) = some payerChannel)
      (facts : Forwarded P cs a2c waiting.transfer payerChannel now
        (candidateRoutes st payerChannel cs a2c) payee c c' message) :
      Retried P net st cs a2c now
        ⟨cs.set payee c', { st with
          transfersPair := st.transfersPair ++ [forwardedPair waiting.transfer c message]
          waitingTransfer := none },
        [.sendLockedTransfer message]⟩

theorem retryWaiting_ensures :
    Ensures (retryWaiting P net st cs a2c now) fun r => Retried P net st cs a2c now r := by
  unfold retryWaiting
  split
  · next hnone => exact .pure (.idle (by simp [hnone]))
  · next waiting hwaiting =>
    split
    · next habsent => exact .pure (.idle (by simp [hwaiting, habsent]))
    · next payerC hpayer =>
      refine .bind (mediateTransfer_ensures st) fun attempt hattempt => ?_
      cases hattempt.2 with
      | waits =>
        exact .pure (.waits hwaiting hpayer)
      | forwards facts =>
        rw [if_pos (by simp [isForwardOf, facts.secrethash_eq])]
        exact .pure (.forwards hwaiting hpayer facts)

namespace Retried

variable (h : Retried P net st cs a2c now r)

include h

theorem secrethash_eq : r.newState.secrethash = st.secrethash := by
  cases h <;> rfl

theorem secret_eq : r.newState.secret = st.secret := by
  cases h <;> rfl

theorem quiet : Silent r.events := by
  cases h with
  | idle | waits => exact .nil
  | forwards => exact .singleton ⟨rfl, rfl, rfl⟩

theorem evolves : ∃ k, Evolves P (Sends P k) cs r.channels := by
  cases h with
  | idle | waits => exact ⟨0, .refl⟩
  | forwards _ _ facts => exact ⟨_, facts.evolves⟩

theorem mem_incoming : ∀ tr ∈ incoming r.newState, tr ∈ incoming st := by
  intro tr ht
  cases h with
  | idle => exact ht
  | waits hwaiting => simpa [incoming, hwaiting] using ht
  | forwards hwaiting => simpa [incoming, hwaiting, forwardedPair] using ht

/-- A pair that a block adds is new. -/
theorem mem_pairs : ∀ p ∈ r.newState.transfersPair, p ∈ st.transfersPair ∨
    p.payeeState = .payeePending ∧ p.payerState = .payerPending := by
  intro p hp
  cases h with
  | idle | waits => exact .inl hp
  | forwards =>
    rcases List.mem_append.mp hp with hp | hp
    · exact .inl hp
    · rw [List.mem_singleton] at hp
      rw [hp]
      exact .inr ⟨rfl, rfl⟩

end Retried

/-- What a block does to one pair. -/
structure Aged (net : TokenNetworkRef) (cs : Channels) (now : Nat)
    (p p' : MediationPairState) : Prop where
  same : SameTransfers p p'
  payee : p'.payeeState = p.payeeState ∨ p'.payeeState = .payeeExpired
  payer : p'.payerState = p.payerState ∨
    (p'.payerState = .payerWaitingSecretReveal ∧ ∃ c, getPayerChannel net cs p = some c ∧
      isSecretKnown c.partnerState p.payerTransfer.lock.secrethash = true) ∨
    p'.payerState = .payerExpired ∧
      getSenderExpirationThreshold p.payerTransfer.lock.expiration ≤ now

theorem Aged.of_visits {p₁ p₃ : MediationPairState} (h₁ : PayeeExpired p p₁ out)
    (h₃ : PayerExpired net cs now (markIf (inDanger net cs now) p₁) p₃) : Aged net cs now p p₃ := by
  rcases markIf_inDanger net cs now p₁ with h₂ | ⟨h₂, hknown⟩
  all_goals
    rw [h₂] at h₃
    cases h₁ <;> cases h₃
  all_goals
    refine ⟨⟨rfl, rfl, rfl⟩, ?_, ?_⟩
    · simp
    · simp_all [getPayerChannel, payerRef]

/-- The three passes of a block over the pairs: expired locks of the payees are
removed, registrations are started, and expired locks of the payers are reported. -/
structure Watched (net : TokenNetworkRef) (now : Nat)
    (mediate r : Iteration MediatorTransferState) (removed : List MediationPairState)
    (removals registrations : List Event) : Prop where
  expires : Visited PayeeExpired mediate.newState.transfersPair removed removals
  first : FirstVisited (markIf (inDanger net r.channels now))
    (inDanger net r.channels now)
    (fun p => Registration net r.channels
      (fun _ expiration => expiration = p.payerTransfer.lock.expiration) p)
    (hasSecretRegistrationStarted net r.channels removed mediate.newState.secrethash) removed
    (removed.map (markIf (inDanger net r.channels now))) registrations
  pairs_eq : r.newState.transfersPair =
    (removed.map (markIf (inDanger net r.channels now))).map fun p =>
      (expiredPair net r.channels now p).1
  events_eq : r.events = mediate.events ++
    ((removed.map (markIf (inDanger net r.channels now))).flatMap
        (fun p => (expiredPair net r.channels now p).2) ++
      (mediate.newState.waitingTransfer.map (expiredWaiting now)).elim [] Prod.snd) ++
    registrations ++ removals

structure BlockHandled (P : Primitives) (net : TokenNetworkRef) (st : MediatorTransferState)
    (cs : Channels) (a2c : AddressesToChannel) (now : Nat)
    (mediate r : Iteration MediatorTransferState) : Prop where
  retried : Retried P net st cs a2c now mediate
  evolves : Evolves P (Expires st.secrethash now) mediate.channels r.channels
  pairs : List.Forall₂ (Aged net r.channels now) mediate.newState.transfersPair
    r.newState.transfersPair
  rest : ∃ pairs, r.newState = { mediate.newState with
    transfersPair := pairs
    waitingTransfer := mediate.newState.waitingTransfer.map fun w => (expiredWaiting now w).1 }
  origin : ∀ e ∈ r.events, e ∈ mediate.events ∨
    isUnlock e = false ∧ ∀ message, e ≠ .sendLockedTransfer message
  watched : ∃ removed removals registrations,
    Watched net now mediate r removed removals registrations

theorem plain_of_isReport {e : Event} (h : isReport e = true) :
    isUnlock e = false ∧ ∀ msg, e ≠ .sendLockedTransfer msg :=
  ⟨(isReport_only h).1, by rintro _ rfl; cases h⟩

theorem handleBlock_ensures (sc : Block) :
    Ensures (handleBlock P net st sc cs a2c) fun r =>
      ∃ mediate, BlockHandled P net st cs a2c sc.blockNumber mediate r := by
  refine .bind retryWaiting_ensures fun mediate hmediate => ?_
  refine .bind (eventsToRemoveExpiredLocks_ensures mediate.newState) fun expired hexpired => ?_
  obtain ⟨hevolves, hremovals, pairs₁, hstate, hvisited₁⟩ := hexpired
  refine .bind (eventsForOnchainSecretrevealIfDangerzone_first _) fun danger hfirst => ?_
  rw [hstate] at hfirst
  refine .pure ⟨mediate, hmediate, ?_, ?_, ?_, ?_, ⟨pairs₁, expired.events, danger.2, ?_⟩⟩
  · rw [← hmediate.secrethash_eq]
    exact hevolves
  · rw [hfirst.replaced, List.map_map, List.map_map, List.forall₂_map_right_iff]
    exact hvisited₁.each.imp fun p p₁ ⟨_, ho₁, _⟩ => .of_visits ho₁ (expiredPair_spec _)
  · refine ⟨(danger.1.map (expiredPair net expired.channels sc.blockNumber)).map Prod.fst, ?_⟩
    rw [hstate, Option.map_map]
    rfl
  · intro e he
    simp only [List.mem_append, List.mem_flatMap, List.mem_map] at he
    rcases he with ((he | ⟨_, ⟨p, -, rfl⟩, he⟩ | he) | he) | he
    · exact .inl he
    · exact .inr (plain_of_isReport (expiredPair_isReport p e he))
    · cases hw : expired.newState.waitingTransfer with
      | none => simp [hw] at he
      | some w =>
        simp only [hw, Option.map_some, Option.elim_some] at he
        exact .inr (plain_of_isReport (expiredWaiting_isReport w e he))
    · have hregistration := registrations_isRegistration hfirst e he
      exact .inr ⟨(isRegistration_only hregistration).1, by rintro _ rfl; cases hregistration⟩
    · refine .inr ⟨?_, fun msg heq => hremovals msg (heq ▸ he)⟩
      obtain ⟨_, _, _, -, ho, he⟩ := hvisited₁.only e he
      cases ho with
      | expired quiet => exact (quiet e he).1
      | kept => cases he
  · have hpairs := hfirst.replaced
    rw [hpairs] at hfirst
    refine ⟨hvisited₁, hfirst, ?_, ?_⟩
    · simp only [hpairs, List.map_map]
      rfl
    · simp only [hpairs, hstate, List.flatMap_map]

theorem BlockHandled.quiet (h : BlockHandled P net st cs a2c now mediate r) :
    ∀ e ∈ r.events, isUnlock e = false :=
  fun e he => (h.origin e he).elim (fun he => (h.retried.quiet e he).1) And.left

theorem BlockHandled.sent (h : BlockHandled P net st cs a2c now mediate r)
    (hmem : .sendLockedTransfer msg ∈ r.events) : .sendLockedTransfer msg ∈ mediate.events :=
  (h.origin _ hmem).resolve_right fun hplain => hplain.2 msg rfl

/-- The reports of a block: those of the pairs, and that of the waiting transfer. -/
theorem Watched.reports {removed : List MediationPairState} {removals registrations : List Event}
    (hmediate : Silent mediate.events)
    (h : Watched net now mediate r removed removals registrations) :
    r.events.filter isReport = (removed.map (markIf (inDanger net r.channels now))).flatMap
        (fun p => (expiredPair net r.channels now p).2) ++
      (mediate.newState.waitingTransfer.map (expiredWaiting now)).elim [] Prod.snd := by
  have hmediate : mediate.events.filter isReport = [] :=
    List.filter_eq_nil_iff.mpr fun e he => by simp [(hmediate e he).2.1]
  have hregistrations : registrations.filter isReport = [] := by
    refine List.filter_eq_nil_iff.mpr fun e he => ?_
    simp [(isRegistration_only (registrations_isRegistration h.first e he)).2]
  have hremovals : removals.filter isReport = [] := by
    refine List.filter_eq_nil_iff.mpr fun e he => ?_
    obtain ⟨_, _, _, -, hexpired, he⟩ := h.expires.only e he
    cases hexpired with
    | expired quiet => simp [(quiet e he).2.1]
    | kept => cases he
  rw [h.events_eq]
  simp only [List.filter_append, hmediate, hregistrations, hremovals, List.nil_append, List.append_nil]
  congr 1
  · refine List.filter_eq_self.mpr fun e he => ?_
    obtain ⟨p, -, he⟩ := List.mem_flatMap.mp he
    exact expiredPair_isReport p e he
  · cases mediate.newState.waitingTransfer with
    | none => rfl
    | some w => exact List.filter_eq_self.mpr (expiredWaiting_isReport w)

/-- The reaction to the first transfer of a payment. -/
inductive Initiated (P : Primitives) (net : TokenNetworkRef) (change : ActionInitMediator)
    (cs : Channels) (a2c : AddressesToChannel) (now : Nat) :
    Iteration (Option MediatorTransferState) → Prop
  | rejected {es : List Event} (quiet : Silent es) (plain : NoTransfer es) :
      Initiated P net change cs a2c now ⟨cs, none, es⟩
  | accepted {c : NettingChannelState} {locks : List EncodedData} {es : List Event}
      {r : Iteration MediatorTransferState}
      (found : cs.get? (channelRef net change.fromHop.channelIdentifier) = some c)
      (facts : LockedtransferAccepted P c c.partnerState c.ourState change.fromTransfer.balanceProof
        change.fromTransfer.lock locks)
      (quiet : Silent es)
      (mediated : Mediated P
        { secrethash := change.fromTransfer.lock.secrethash, routes := change.candidateRouteStates }
        (withTransfer c change.fromTransfer locks)
        (cs.set (channelRef net change.fromHop.channelIdentifier)
          (withTransfer c change.fromTransfer locks))
        a2c change.fromTransfer now r) (plain : NoTransfer es) :
      Initiated P net change cs a2c now
        ⟨r.channels, some r.newState, es ++ r.events⟩

theorem handleInit_ensures (sc : ActionInitMediator) :
    Ensures (handleInit P net sc cs a2c now) fun r => Initiated P net sc cs a2c now r := by
  unfold handleInit
  dsimp only
  split
  · exact .pure (.rejected .nil .nil)
  · next c hc =>
    rcases handleReceiveLockedtransfer_cases P (c := c) sc.fromTransfer
      sc.fromTransfer.payerAddressMetadata with ⟨msg, heq⟩ | ⟨locks, hfacts, heq⟩
    · simp only [heq, if_true, Dict.set_eq_self hc]
      exact .pure (.rejected (.singleton ⟨rfl, rfl, rfl⟩) (.singleton fun _ h => by cases h))
    · simp only [heq, Bool.true_eq_false, if_false]
      refine .bind (mediateTransfer_ensures _) fun r hr => .pure ?_
      exact .accepted hc hfacts (.singleton ⟨rfl, rfl, rfl⟩) hr.2 (.singleton fun _ h => by cases h)

inductive Refunded (P : Primitives) (net : TokenNetworkRef) (st : MediatorTransferState)
    (change : ReceiveTransferRefund) (cs : Channels) (a2c : AddressesToChannel)
    (now : Nat) : Iteration MediatorTransferState → Prop
  | rejected {es : List Event} (quiet : Silent es) (plain : NoTransfer es) :
      Refunded P net st change cs a2c now
        ⟨cs, st, es⟩
  | accepted {last : MediationPairState} {c : NettingChannelState} {locks : List EncodedData}
      {es : List Event} {r : Iteration MediatorTransferState} (unknown : st.secret = none)
      (hlast : st.transfersPair.getLast? = some last)
      (found : cs.get?
        (channelRef net change.transfer.balanceProof.channelIdentifier) = some c)
      (facts : LockedtransferAccepted P c c.partnerState c.ourState change.transfer.balanceProof
        change.transfer.lock locks)
      (hmatches : refundTransferMatchesTransfer change.transfer last.payeeTransfer = true)
      (quiet : Silent es)
      (mediated : Mediated P { st with refundedChannels := st.refundedChannels ++ [c.identifier] }
        (withTransfer c change.transfer locks)
        (cs.set (channelRef net change.transfer.balanceProof.channelIdentifier)
          (withTransfer c change.transfer locks))
        a2c change.transfer now r) (plain : NoTransfer es) :
      Refunded P net st change cs a2c now
        { r with events := es ++ r.events }

theorem handleRefundtransfer_ensures (sc : ReceiveTransferRefund) :
    Ensures (handleRefundtransfer P net st sc cs a2c now)
      fun r => Refunded P net st sc cs a2c now r := by
  unfold handleRefundtransfer
  split
  · exact .pure (.rejected .nil .nil)
  · next hsecret =>
    split
    · next last hlast =>
      dsimp only
      split
      · exact .pure (.rejected .nil .nil)
      · next c hc =>
        rcases handleRefundtransfer_cases P (c := c) last.payeeTransfer sc with
          ⟨msg, heq⟩ | ⟨locks, hfacts, hmatches, heq⟩
        · simp only [heq, if_true, Dict.set_eq_self hc]
          exact .pure (.rejected (.singleton ⟨rfl, rfl, rfl⟩) (.singleton fun _ h => by cases h))
        · simp only [heq, Bool.true_eq_false, if_false]
          refine .bind (mediateTransfer_ensures _) fun r hr => .pure ?_
          exact .accepted hsecret hlast hc hfacts hmatches (.singleton ⟨rfl, rfl, rfl⟩) hr.2
            (.singleton fun _ h => by cases h)
    · exact .throw

theorem unexpectedReveal_quiet (k : SecretHash) : Silent (unexpectedReveal st k) := by
  unfold unexpectedReveal
  split
  · exact .nil
  · exact .singleton ⟨rfl, rfl, rfl⟩

/-- What `secret_learned` does: register the secret in the channels, tell the
payers of the payees that know it, and unlock these payees. -/
inductive Learned (P : Primitives) (net : TokenNetworkRef) (st : MediatorTransferState)
    (cs : Channels) (now : Nat) (secret : Secret) (hash : SecretHash)
    (payeeAddress : Address) : Iteration MediatorTransferState → Prop
  | intro {registered final : Channels} {closed revealed paid : List MediationPairState}
      {onchain reveals unlocks : List Event}
      (register : registerSecret net
        (fun c => .ok (registerOffchainSecret c secret hash)) st cs = .ok registered)
      (hfirst : FirstVisited (markIf (isPayerClosed net registered))
        (claimsClosed net registered hash)
        (Registration net registered fun c expiration =>
          ∃ lock, getLock c.partnerState hash = some lock ∧ expiration = lock.expiration)
        (hasSecretRegistrationStarted net registered
          (setOffchainRevealState st.transfersPair payeeAddress) hash)
        (setOffchainRevealState st.transfersPair payeeAddress) closed onchain)
      (hrevealed : Visited (Revealed secret) closed revealed reveals)
      (hpaid : Visited (Balanced net registered now secret) revealed paid unlocks)
      (evolves : Evolves P (SendsUnlock hash) registered final) :
      Learned P net st cs now secret hash payeeAddress
        ⟨final, { st with secret := some secret, transfersPair := paid },
          unexpectedReveal st hash ++ reveals ++ unlocks ++ onchain⟩

theorem secretLearned_ensures (secret : Secret) (hash : SecretHash) (payee : Address) :
    Ensures (secretLearned P net st cs now bh secret hash payee) fun r =>
      Learned P net st cs now secret hash payee r := by
  refine .bind (Ensures.lift fun _ h => h) fun learned hlearned => ?_
  simp only [setOffchainSecret, seq_ok_iff, pure_eq_ok] at hlearned
  obtain ⟨registered, hregistered, rfl⟩ := hlearned
  refine .bind (eventsForOnchainSecretrevealIfClosed_first _) fun closed hfirst => ?_
  refine .bind (eventsForSecretreveal_returns _ _).ensures fun revealed hrevealed => ?_
  refine .bind (eventsForBalanceproof_ensures _) fun paid hpaid => .pure ?_
  exact .intro hregistered hfirst hrevealed hpaid.2 hpaid.1

theorem handleOffchainSecretreveal_ensures (sc : ReceiveSecretReveal) :
    Ensures (handleOffchainSecretreveal P net st sc cs now bh)
      fun r => r = ⟨cs, st, []⟩ ∨ st.secret = none ∧ sc.secrethash P = st.secrethash ∧
        Learned P net st cs now sc.secret (sc.secrethash P) sc.sender r := by
  unfold handleOffchainSecretreveal
  split
  · exact .pure (.inl rfl)
  · split
    · exact .pure (.inl rfl)
    · dsimp only
      split
      · next hnew =>
        exact (secretLearned_ensures _ _ _).mono fun r hr => .inr ⟨hnew.1, hnew.2.1, hr⟩
      · exact .pure (.inl rfl)

/-- What the on-chain registration of the secret does. -/
inductive LearnedOnchain (P : Primitives) (net : TokenNetworkRef)
    (st : MediatorTransferState) (cs : Channels) (now : Nat) (secret : Secret)
    (hash : SecretHash) : Iteration MediatorTransferState → Prop
  | intro {registered final : Channels} {paid : List MediationPairState} {unlocks : List Event}
      (register : registerSecret net
        (fun c => registerOnchainSecret c secret hash now) st cs = .ok registered)
      (hpaid : Visited (Balanced net registered now secret) st.transfersPair paid
        unlocks)
      (evolves : Evolves P (SendsUnlock hash) registered final) :
      LearnedOnchain P net st cs now secret hash
        ⟨final, { st with secret := some secret, transfersPair := paid },
          unexpectedReveal st hash ++ unlocks⟩

theorem handleOnchainSecretreveal_ensures (sc : ContractReceiveSecretReveal) :
    Ensures (handleOnchainSecretreveal P net st sc cs) fun r =>
      sc.secrethash ≠ st.secrethash ∧ r = ⟨cs, st, []⟩ ∨ sc.secrethash = st.secrethash ∧
        LearnedOnchain P net st cs sc.blockNumber sc.secret sc.secrethash r := by
  unfold handleOnchainSecretreveal
  split
  · next hvalid =>
    refine .bind (Ensures.lift fun _ h => h) fun learned hlearned => ?_
    simp only [setOnchainSecret, seq_ok_iff, pure_eq_ok] at hlearned
    obtain ⟨registered, hregistered, rfl⟩ := hlearned
    refine .bind (eventsForBalanceproof_ensures _) fun paid hpaid => .pure ?_
    exact .inr ⟨hvalid, .intro hregistered hpaid.2 hpaid.1⟩
  · next hother => exact .pure (.inl ⟨hother, rfl⟩)

/-! ## Unlocks and expirations of the payers -/

def NoneLeft (cs : Channels) (ref : ChannelRef) (k : SecretHash) : Prop :=
  ∀ c, cs.get? ref = some c → isLockPending c.partnerState k = false

theorem NoneLeft.evolves (h : NoneLeft cs ref k) (hev : Evolves P A cs cs')
    (hA : ∀ ref c op, A ref c op → op.addedByPartner P c = none) : NoneLeft cs' ref k := by
  intro c' hc'
  have hrel := hev.storeRel (R := fun c c' => isLockPending c.partnerState k = false →
      isLockPending c'.partnerState k = false) (fun _ h => h) (fun _ _ _ h h' hk => h' (h hk))
    fun ref c op _ _ hop hstep hnone =>
      hstep.isLockPending_partner (by rw [hA ref c op hop]; exact (Option.some_ne_none k).symm) hnone
  obtain ⟨c, hc, hkept⟩ := hrel.get_some hc'
  exact hkept (h c hc)

inductive PayerUnlocked (change : ReceiveUnlock) (noneLeft : Prop) (p : MediationPairState) :
    MediationPairState → Prop
  | paid (sender : p.payerTransfer.balanceProof.sender = change.balanceProof.sender)
      (gone : noneLeft) : PayerUnlocked change noneLeft p { p with payerState := .payerBalanceProof }
  | kept : PayerUnlocked change noneLeft p p

theorem PayerUnlocked.mono {A B : Prop} (h : PayerUnlocked sc A p p') (hAB : A → B) :
    PayerUnlocked sc B p p' := by
  cases h with
  | paid sender gone => exact .paid sender (hAB gone)
  | kept => exact .kept

def ReceivesUnlock (change : ReceiveUnlock) (_ : ChannelRef) (_ : NettingChannelState)
    (op : ChannelOp) : Prop :=
  ∃ md, op = .receiveUnlock change md

def unlockRef (net : TokenNetworkRef) (change : ReceiveUnlock) : ChannelRef :=
  channelRef net change.balanceProof.channelIdentifier

/-- What the loop over the pairs did, from the channels `t` to the channels `t'`. -/
structure Unlocking (P : Primitives) (net : TokenNetworkRef) (change : ReceiveUnlock)
    (t t' : Channels) (pairs pairs' : List MediationPairState) (es : List Event) : Prop where
  evolves : Evolves P (ReceivesUnlock change) t t'
  others : ∀ ref, ref ≠ unlockRef net change → t'.get? ref = t.get? ref
  pairs : List.Forall₂ (PayerUnlocked change
    (NoneLeft t' (unlockRef net change) (change.secrethash P))) pairs pairs'
  quiet : Silent es
  plain : NoTransfer es
  unpaid : (∃ p ∈ pairs', payerPaid p.payerState = true) ∨ t' = t

theorem Unlocking.keep (t : Channels) (p : MediationPairState) (quiet : Silent es)
    (plain : NoTransfer es) : Unlocking P net sc t t [p] [p] es :=
  ⟨.refl, fun _ _ => rfl, .cons .kept .nil, quiet, plain, .inr rfl⟩

theorem unlockForPair_returns (sc : ReceiveUnlock) (p : MediationPairState) (t : Channels) :
    Returns (unlockForPair P net routes sc t p) fun r =>
      Unlocking P net sc t r.1 [p] [r.2.1] r.2.2 := by
  unfold unlockForPair
  dsimp only
  split
  · exact .pure (.keep t p .nil .nil)
  · next c hc =>
    split
    · next hsender =>
      rcases handleUnlock_cases P (c := c) sc
        (getAddressMetadata sc.balanceProof.sender routes) with ⟨msg, heq⟩ | ⟨lock, locks, -, heq⟩
      · refine .bind (Returns.lift heq rfl) fun r hr => ?_
        subst hr
        rw [Dict.set_eq_self hc]
        exact .pure (.keep t p (.singleton ⟨rfl, rfl, rfl⟩) (.singleton fun _ h => by cases h))
      · refine .bind (Returns.lift heq rfl) fun r hr => ?_
        subst hr
        refine .pure ⟨.single hc ⟨_, rfl⟩ (Step.receiveUnlock heq), ?_, .cons (.paid hsender ?_) .nil,
          ?_, ?_, .inl ⟨_, List.mem_cons_self, rfl⟩⟩
        · exact fun ref href => Dict.get?_set_ne _ _ href
        · intro c' hc'
          rw [unlockRef, Dict.get?_set_self] at hc'
          cases hc'
          simp [isLockPending, dropLock, delUnclaimedLock]
        · exact Silent.append (.singleton ⟨rfl, rfl, rfl⟩) (.singleton ⟨rfl, rfl, rfl⟩)
        · exact NoTransfer.append (.singleton fun _ h => by cases h) (.singleton fun _ h => by cases h)
    · exact .pure (.keep t p .nil .nil)

theorem ReceivesUnlock.adds_nothing (ref : ChannelRef) (c : NettingChannelState) (op : ChannelOp)
    (h : ReceivesUnlock sc ref c op) : op.addedByPartner P c = none := by
  obtain ⟨_, rfl⟩ := h
  rfl

/-- The loop over the pairs. -/
private theorem unlockForPairs_returns (sc : ReceiveUnlock) (pairs : List MediationPairState)
    (t : Channels) :
    Returns (visit (unlockForPair P net routes sc) t pairs) fun r =>
      Unlocking P net sc t r.1 pairs r.2.1 r.2.2 := by
  induction pairs generalizing t with
  | nil => exact .pure ⟨.refl, fun _ _ => rfl, .nil, .nil, .nil, .inr rfl⟩
  | cons p rest ih =>
    refine .bind (unlockForPair_returns sc p t) fun first hfirst => ?_
    refine .bind (ih first.1) fun later hlater => .pure ?_
    refine ⟨hfirst.evolves.trans hlater.evolves, fun ref href => ?_, .cons ?_ hlater.pairs,
      hfirst.quiet.append hlater.quiet, hfirst.plain.append hlater.plain, ?_⟩
    · exact (hlater.others ref href).trans (hfirst.others ref href)
    · cases hfirst.pairs with
      | cons head _ =>
        exact head.mono fun gone => gone.evolves hlater.evolves ReceivesUnlock.adds_nothing
    · rcases hfirst.unpaid with ⟨p', hp', hpaid⟩ | hsame
      · rw [List.mem_singleton] at hp'
        exact .inl ⟨p', hp' ▸ List.mem_cons_self, hpaid⟩
      · rcases hlater.unpaid with ⟨p', hp', hpaid⟩ | hsame'
        · exact .inl ⟨p', List.mem_cons_of_mem _ hp', hpaid⟩
        · exact .inr (hsame'.trans hsame)

/-- The reaction to an unlock of a payer. -/
structure UnlockHandled (P : Primitives) (net : TokenNetworkRef) (st : MediatorTransferState)
    (change : ReceiveUnlock) (cs : Channels) (r : Iteration MediatorTransferState) : Prop where
  unlocking : Unlocking P net change cs r.channels st.transfersPair
    r.newState.transfersPair r.events
  rest : r.newState = { st with transfersPair := r.newState.transfersPair }

theorem UnlockHandled.unpaid (h : UnlockHandled P net st sc cs r)
    (hunpaid : ∀ p ∈ r.newState.transfersPair, payerPaid p.payerState = false) :
    r.channels = cs := by
  rcases h.unlocking.unpaid with ⟨p, hp, hpaid⟩ | hsame
  · rw [hunpaid p hp] at hpaid
    cases hpaid
  · exact hsame

theorem handleUnlock_returns (sc : ReceiveUnlock) :
    Returns (handleUnlock P net st sc cs) fun r => UnlockHandled P net st sc cs r := by
  refine .bind (unlockForPairs_returns sc st.transfersPair cs) fun r hr => ?_
  exact .pure ⟨hr, rfl⟩

def ReceivesExpiration (change : ReceiveLockExpired) (now : Nat) (_ : ChannelRef)
    (_ : NettingChannelState) (op : ChannelOp) : Prop :=
  ∃ md, op = .receiveLockExpired change now md

theorem ReceivesExpiration.adds_nothing {sc : ReceiveLockExpired} (ref : ChannelRef)
    (c : NettingChannelState) (op : ChannelOp) (h : ReceivesExpiration sc now ref c op) :
    op.addedByPartner P c = none := by
  obtain ⟨_, rfl⟩ := h
  rfl

/-- A pair after an expiration was handed to its payer channel; the payer is
marked when the channel has no lock of the payment left. -/
inductive PayerGone (net : TokenNetworkRef) (hash : SecretHash) (cs : Channels)
    (p : MediationPairState) : MediationPairState → Prop
  | gone (found : (getPayerChannel net cs p).isSome = true)
      (none_left : NoneLeft cs (payerRef net p) hash) :
      PayerGone net hash cs p { p with payerState := .payerExpired }
  | kept : PayerGone net hash cs p p

theorem PayerGone.evolves (h : PayerGone net k cs p p') (hev : Evolves P A cs cs')
    (hA : ∀ ref c op, A ref c op → op.addedByPartner P c = none) : PayerGone net k cs' p p' := by
  cases h with
  | gone found none_left =>
    obtain ⟨c, hc⟩ := Option.isSome_iff_exists.mp found
    have hkept : StoreRel (fun _ _ => True) cs cs' :=
      hev.storeRel (fun _ => trivial) (fun _ _ _ _ _ => trivial) fun _ _ _ _ _ _ _ => trivial
    obtain ⟨c', hc', -⟩ := hkept.get_some' hc
    exact .gone (Option.isSome_iff_exists.mpr ⟨c', hc'⟩) (none_left.evolves hev hA)
  | kept => exact .kept

theorem handleReceiveLockExpired_quiet (c : NettingChannelState) (sc : ReceiveLockExpired)
    (now : Nat) (md : Option AddressMetadata) :
    Silent (handleReceiveLockExpired P c sc now md).events ∧
      NoTransfer (handleReceiveLockExpired P c sc now md).events := by
  rcases handleReceiveLockExpired_cases P (c := c) sc now md with
    ⟨msg, heq⟩ | ⟨lock, locks, -, heq⟩ <;> rw [heq] <;>
    exact ⟨.singleton ⟨rfl, rfl, rfl⟩, .singleton nofun⟩

theorem getLock_eq_none {e : NettingChannelEndState} :
    getLock e k = none ↔ isLockPending e k = false := by
  simp only [getLock, isLockPending, Dict.mem_iff, decide_eq_false_iff_not]
  cases e.secrethashesToLockedlocks.get? k <;> cases e.secrethashesToUnlockedlocks.get? k <;>
    cases e.secrethashesToOnchainUnlockedlocks.get? k <;> simp

private theorem lockExpiredForPairs_spec (net : TokenNetworkRef) (st : MediatorTransferState)
    (sc : ReceiveLockExpired) (pairs : List MediationPairState) (t : Channels) :
    let r := lockExpiredForPairs P net st sc now t pairs
    Evolves P (ReceivesExpiration sc now) t r.1 ∧
      List.Forall₂ (PayerGone net st.secrethash r.1) pairs r.2.1 ∧ Silent r.2.2.1 ∧
      NoTransfer r.2.2.1 := by
  induction pairs generalizing t with
  | nil => exact ⟨.refl, .nil, .nil, .nil⟩
  | cons p rest ih =>
    simp only [lockExpiredForPairs]
    cases hc : getPayerChannel net t p with
    | none =>
      refine ⟨.refl, ?_, .nil, .nil⟩
      rw [List.forall₂_same]
      exact fun _ _ => .kept
    | some c =>
      have hfirst : Evolves P (ReceivesExpiration sc now) t (t.set (payerRef net p)
          (handleReceiveLockExpired P c sc now
            (getAddressMetadata c.partnerState.address st.routes)).newState) :=
        .single hc ⟨_, rfl⟩ (Step.receiveLockExpired c sc now _)
      obtain ⟨hev, hpairs, hquiet, hplain⟩ := ih (t.set (payerRef net p)
        (handleReceiveLockExpired P c sc now
          (getAddressMetadata c.partnerState.address st.routes)).newState)
      obtain ⟨hquiet', hplain'⟩ := handleReceiveLockExpired_quiet (P := P) c sc now
        (getAddressMetadata c.partnerState.address st.routes)
      refine ⟨hfirst.trans hev, .cons ?_ hpairs, hquiet'.append hquiet, hplain'.append hplain⟩
      dsimp only
      split
      · next hgone =>
        refine (PayerGone.gone ?_ fun c' hc' => ?_).evolves hev ReceivesExpiration.adds_nothing
        · rw [getPayerChannel, Dict.get?_set_self, Option.isSome_some]
        · rw [Dict.get?_set_self] at hc'
          cases hc'
          exact getLock_eq_none.mp (Option.isNone_iff_eq_none.mp hgone)
      · exact .kept

/-- The reaction to an expiration sent by a payer. -/
structure LockExpiredHandled (P : Primitives) (net : TokenNetworkRef)
    (st : MediatorTransferState) (change : ReceiveLockExpired) (cs : Channels)
    (now : Nat) (r : Iteration MediatorTransferState) : Prop where
  evolves : Evolves P (ReceivesExpiration change now) cs r.channels
  pairs : List.Forall₂ (PayerGone net st.secrethash r.channels) st.transfersPair
    r.newState.transfersPair
  rest : r.newState = { st with transfersPair := r.newState.transfersPair }
  quiet : Silent r.events
  plain : NoTransfer r.events

theorem handleLockExpired_spec (sc : ReceiveLockExpired) :
    LockExpiredHandled P net st sc cs now (handleLockExpired P net st sc cs now) := by
  obtain ⟨hev, hpairs, hquiet, hplain⟩ :=
    lockExpiredForPairs_spec (P := P) net st sc st.transfersPair cs
  unfold handleLockExpired
  dsimp only
  split
  · exact ⟨hev, hpairs, rfl, .nil, .nil⟩
  · unfold lockExpiredForWaiting
    split
    · exact ⟨hev, hpairs, rfl, hquiet.append .nil, hplain.append .nil⟩
    · split
      · exact ⟨hev, hpairs, rfl, hquiet.append .nil, hplain.append .nil⟩
      · next waiting _ c hc =>
        have hlast := Evolves.single (A := ReceivesExpiration sc now) hc ⟨_, rfl⟩
          (Step.receiveLockExpired (P := P) c sc now
            (getAddressMetadata c.partnerState.address st.routes))
        obtain ⟨hquiet', hplain'⟩ := handleReceiveLockExpired_quiet (P := P) c sc now
          (getAddressMetadata c.partnerState.address st.routes)
        refine ⟨hev.trans hlast, ?_, rfl, hquiet.append hquiet', hplain.append hplain'⟩
        exact hpairs.imp fun _ _ hp => hp.evolves hlast ReceivesExpiration.adds_nothing

/-! ## The reaction of the task -/

inductive Reaction (P : Primitives) (net : TokenNetworkRef) (cs : Channels)
    (a2c : AddressesToChannel) (now : Nat) :
    Option MediatorTransferState → PaymentStateChange → Iteration (Option MediatorTransferState) → Prop
  | ignored {task : Option MediatorTransferState} {change : PaymentStateChange}
      (unmatched : ∀ reveal st, change = .contractReceiveSecretReveal reveal → task = some st →
        reveal.secrethash ≠ st.secrethash)
      (idle : ∀ block, change = .block block → task = none) :
      Reaction P net cs a2c now task change ⟨cs, task, []⟩
  | initiated {change : ActionInitMediator} {r : Iteration (Option MediatorTransferState)}
      (h : Initiated P net change cs a2c now r) :
      Reaction P net cs a2c now none (.actionInitMediator change) r
  | block {st : MediatorTransferState} {change : Block} {mediate r : Iteration MediatorTransferState}
      (h : BlockHandled P net st cs a2c change.blockNumber mediate r) :
      Reaction P net cs a2c now (some st) (.block change)
        ⟨r.channels, some r.newState, r.events⟩
  | refunded {st : MediatorTransferState} {change : ReceiveTransferRefund}
      {r : Iteration MediatorTransferState}
      (h : Refunded P net st change cs a2c now r) :
      Reaction P net cs a2c now (some st)
        (.receiveTransferRefund change) ⟨r.channels, some r.newState, r.events⟩
  | learned {st : MediatorTransferState} {change : ReceiveSecretReveal}
      {r : Iteration MediatorTransferState} (unknown : st.secret = none)
      (secrethash_eq : change.secrethash P = st.secrethash)
      (h : Learned P net st cs now change.secret (change.secrethash P)
        change.sender r) :
      Reaction P net cs a2c now (some st)
        (.receiveSecretReveal change) ⟨r.channels, some r.newState, r.events⟩
  | learnedOnchain {st : MediatorTransferState} {change : ContractReceiveSecretReveal}
      {r : Iteration MediatorTransferState} (secrethash_eq : change.secrethash = st.secrethash)
      (h : LearnedOnchain P net st cs change.blockNumber change.secret
        change.secrethash r) :
      Reaction P net cs a2c now (some st)
        (.contractReceiveSecretReveal change) ⟨r.channels, some r.newState, r.events⟩
  | unlocked {st : MediatorTransferState} {change : ReceiveUnlock}
      {r : Iteration MediatorTransferState} (h : UnlockHandled P net st change cs r) :
      Reaction P net cs a2c now (some st)
        (.receiveUnlock change) ⟨r.channels, some r.newState, r.events⟩
  | expired {st : MediatorTransferState} {change : ReceiveLockExpired}
      {r : Iteration MediatorTransferState}
      (h : LockExpiredHandled P net st change cs now r) :
      Reaction P net cs a2c now (some st)
        (.receiveLockExpired change) ⟨r.channels, some r.newState, r.events⟩

private theorem handleRunning_ensures (st : MediatorTransferState) (sc : PaymentStateChange) :
    Ensures (handleRunning P net st sc cs a2c now bh)
      fun r => Reaction P net cs a2c now (some st) sc ⟨r.channels, some r.newState, r.events⟩ := by
  cases sc with
  | block sc => exact (handleBlock_ensures sc).mono fun r ⟨mediate, hr⟩ => .block hr
  | receiveTransferRefund sc => exact (handleRefundtransfer_ensures sc).mono fun r hr => .refunded hr
  | receiveSecretReveal sc =>
    refine (handleOffchainSecretreveal_ensures sc).mono fun r hr => ?_
    rcases hr with rfl | ⟨hunknown, hsecrethash, hr⟩
    · exact .ignored nofun fun _ h => (by cases h)
    · exact .learned hunknown hsecrethash hr
  | contractReceiveSecretReveal sc =>
    refine (handleOnchainSecretreveal_ensures sc).mono fun r hr => ?_
    rcases hr with ⟨hother, rfl⟩ | ⟨hsecrethash, hr⟩
    · exact .ignored (fun _ _ h hstate => by cases h; cases hstate; exact hother) nofun
    · exact .learnedOnchain hsecrethash hr
  | receiveUnlock sc => exact (handleUnlock_returns sc).ensures.mono fun r hr => .unlocked hr
  | receiveLockExpired sc => exact .pure (.expired (handleLockExpired_spec sc))
  | _ => exact .pure (.ignored nofun fun _ h => (by cases h))

theorem handleStateChange_ensures (task : Option MediatorTransferState) (sc : PaymentStateChange) :
    Ensures (handleStateChange P net task sc cs a2c now
      bh) (Reaction P net cs a2c now task sc) := by
  unfold handleStateChange
  split
  · exact (handleInit_ensures _).mono fun r hr => .initiated hr
  · exact .throw
  · exact .pure (.ignored nofun fun _ _ => rfl)
  · exact .bind (handleRunning_ensures _ _) fun r hr => .pure hr

theorem stateTransition_ensures (task : Option MediatorTransferState) (sc : PaymentStateChange) :
    Ensures (stateTransition P net task sc cs a2c now bh) fun r => ∃ iter,
        Reaction P net cs a2c now task sc iter ∧
        sanityCheckNewState net iter = .ok () ∧ r = clearIfFinalized net iter := by
  refine .bind (handleStateChange_ensures task sc) fun iter hiteration => ?_
  refine .bind (Ensures.lift fun u hu => hu) fun u hu => .pure ?_
  exact ⟨iter, hiteration, hu, rfl⟩

theorem Reaction.unlock_cases {sc : PaymentStateChange}
    {r : Iteration (Option MediatorTransferState)} {unlock : SendUnlock}
    (h : Reaction P net cs a2c now task sc r) (hmem : .sendUnlock unlock ∈ r.events) :
    (∃ st reveal r', task = some st ∧ sc = .receiveSecretReveal reveal ∧
      r = ⟨r'.channels, some r'.newState, r'.events⟩ ∧ st.secret = none ∧
      reveal.secrethash P = st.secrethash ∧
      Learned P net st cs now reveal.secret (reveal.secrethash P) reveal.sender r') ∨
    ∃ st reveal r', task = some st ∧ sc = .contractReceiveSecretReveal reveal ∧
      r = ⟨r'.channels, some r'.newState, r'.events⟩ ∧
      LearnedOnchain P net st cs reveal.blockNumber reveal.secret reveal.secrethash r' := by
  cases h with
  | ignored => cases hmem
  | initiated h =>
    cases h with
    | rejected quiet => cases (quiet _ hmem).1
    | accepted _ _ quiet mediated =>
      rcases List.mem_append.mp hmem with hmem | hmem
      · cases (quiet _ hmem).1
      · cases (mediated.quiet _ hmem).1
  | block h => cases h.quiet _ hmem
  | refunded h =>
    cases h with
    | rejected quiet => cases (quiet _ hmem).1
    | accepted _ _ _ _ _ quiet mediated =>
      rcases List.mem_append.mp hmem with hmem | hmem
      · cases (quiet _ hmem).1
      · cases (mediated.quiet _ hmem).1
  | learned unknown secrethash_eq h =>
    exact .inl ⟨_, _, _, rfl, rfl, rfl, unknown, secrethash_eq, h⟩
  | learnedOnchain _ h => exact .inr ⟨_, _, _, rfl, rfl, rfl, h⟩
  | unlocked h => cases (h.unlocking.quiet _ hmem).1
  | expired h => cases (h.quiet _ hmem).1

/-- Ending the task is the only thing that `clear_if_finalized` does. -/
theorem clearIfFinalized_cases (net : TokenNetworkRef)
    (iter : Iteration (Option MediatorTransferState)) :
    clearIfFinalized net iter = iter ∨
      clearIfFinalized net iter = { iter with newState := none } := by
  unfold clearIfFinalized
  split
  · exact .inl rfl
  · split
    · exact .inl rfl
    · exact .inr rfl

theorem clearIfFinalized_of_pending {iter : Iteration (Option MediatorTransferState)}
    (hstate : iter.newState = some st) (hp : p ∈ st.transfersPair)
    (hc : getPayerChannel net iter.channels p = some c)
    (hpending : isLockPending c.partnerState st.secrethash = true) :
    (clearIfFinalized net iter).newState = some st := by
  have hhas : hasPendingLock net st iter.channels = true := by
    rw [hasPendingLock, Bool.or_eq_true]
    refine .inl (List.any_eq_true.mpr ⟨p, hp, ?_⟩)
    rw [hc, Option.any_some, hpending, Bool.true_or]
  rw [clearIfFinalized, hstate]
  dsimp only
  rw [if_pos hhas]
  exact hstate

/-- A payment is paid only once its secret is known. -/
theorem sanityCheck_paid (h : sanityCheck net st cs = .ok ())
    (hsecret : st.secret = none) (hp : p ∈ st.transfersPair) :
    payeePaid p.payeeState = false ∧ payerPaid p.payerState = false := by
  simp only [sanityCheck, seq_ok_iff, assert_eq_ok] at h
  obtain ⟨_, hpaid, -⟩ := h
  by_contra hcontra
  have hany : (st.transfersPair.any fun pair =>
      payeePaid pair.payeeState || payerPaid pair.payerState) = true := by
    refine List.any_eq_true.mpr ⟨p, hp, ?_⟩
    revert hcontra
    cases payeePaid p.payeeState <;> cases payerPaid p.payerState <;> simp
  rw [hsecret] at hpaid
  exact absurd (hpaid hany) (by simp)

theorem sane_of_some {r : Iteration (Option MediatorTransferState)}
    (sane : sanityCheckNewState net r = .ok ()) (hstate : r.newState = some st) :
    sanityCheck net st r.channels = .ok () := by
  rw [sanityCheckNewState, hstate] at sane
  exact sane

/-- An unlock is accepted only once the secret is known. -/
theorem UnlockHandled.unchanged (h : UnlockHandled P net st sc cs r)
    (sane : sanityCheck net r.newState r.channels = .ok ()) (hsecret : st.secret = none) :
    r.channels = cs ∧ ∀ p ∈ r.newState.transfersPair, payerPaid p.payerState = false := by
  have hnone : r.newState.secret = none := by
    rw [h.rest]
    exact hsecret
  have hunpaid : ∀ p ∈ r.newState.transfersPair, payerPaid p.payerState = false :=
    fun p hp => (sanityCheck_paid sane hnone hp).2
  exact ⟨h.unpaid hunpaid, hunpaid⟩

/-! ## Every change of a channel is an operation -/

theorem registerOffchainSecret_evolves
    (h : registerSecret net (fun c => .ok (registerOffchainSecret c secret hash)) st
      cs = .ok registered) :
    Evolves P (fun _ _ op => op = .registerOffchainSecret secret hash) cs registered :=
  updateAll_evolves (fun c _ hc => by cases hc; exact Step.registerOffchainSecret c secret hash) h

theorem registerOnchainSecret_evolves
    (h : registerSecret net (fun c => registerOnchainSecret c secret hash now)
      st cs = .ok registered) :
    Evolves P (fun _ _ op => op = .registerOnchainSecret secret hash now) cs registered :=
  updateAll_evolves (fun _ _ hc => Step.registerOnchainSecret hc) h

/-- Every change of a channel by the task is a lock operation. -/
theorem Reaction.evolves {sc : PaymentStateChange} {r : Iteration (Option MediatorTransferState)}
    (h : Reaction P net cs a2c now task sc r) : Evolves P LockOp cs r.channels := by
  cases h with
  | ignored => exact .refl
  | initiated h =>
    cases h with
    | rejected => exact .refl
    | accepted found facts _ mediated =>
      obtain ⟨es, hstep⟩ := facts.step
      exact (Evolves.single found rfl hstep).trans (mediated.evolves.mono Sends.isLockOp)
  | block h =>
    obtain ⟨k, hretried⟩ := h.retried.evolves
    exact (hretried.mono Sends.isLockOp).trans
      (h.evolves.mono fun ref c op hop => Sends.isLockOp (P := P) ref c op (hop.sends ref c op))
  | refunded h =>
    cases h with
    | rejected => exact .refl
    | accepted _ _ found facts _ _ mediated =>
      obtain ⟨es, hstep⟩ := facts.step
      exact (Evolves.single found rfl hstep).trans (mediated.evolves.mono Sends.isLockOp)
  | learned _ _ h =>
    obtain ⟨register, -, -, -, evolves⟩ := h
    exact ((registerOffchainSecret_evolves register).mono fun _ _ _ hop => by rw [hop]; rfl).trans
      (evolves.mono SendsUnlock.isLockOp)
  | learnedOnchain _ h =>
    obtain ⟨register, -, evolves⟩ := h
    exact ((registerOnchainSecret_evolves register).mono fun _ _ _ hop => by rw [hop]; rfl).trans
      (evolves.mono SendsUnlock.isLockOp)
  | unlocked h => exact h.unlocking.evolves.mono fun _ _ _ ⟨_, hop⟩ => by rw [hop]; rfl
  | expired h => exact h.evolves.mono fun _ _ _ ⟨_, hop⟩ => by rw [hop]; rfl

theorem Balanced.unregistered {t : Channels} (h : Balanced net t now secret p p' es) :
    ∀ event ∈ es, isRegistration event = false := by
  cases h with
  | paid =>
    simp only [List.mem_cons, List.not_mem_nil, or_false]
    rintro _ (rfl | rfl) <;> rfl
  | kept => exact nofun

theorem LearnedOnchain.unregistered (h : LearnedOnchain P net st cs now secret k r) :
    ∀ event ∈ r.events, isRegistration event = false := by
  obtain ⟨-, hpaid, -⟩ := h
  intro event hmem
  rcases List.mem_append.mp hmem with hmem | hmem
  · exact (unexpectedReveal_quiet _ event hmem).2.2
  · obtain ⟨p, p', part, -, hbalanced, hpart⟩ := hpaid.only event hmem
    exact hbalanced.unregistered event hpart

/-- Messages and logs about the payment lead to operations about the payment. -/
theorem Reaction.performed {sc : PaymentStateChange} {r : Iteration (Option MediatorTransferState)}
    (h : Reaction P net cs a2c now task sc r) : Performed P sc cs r.channels r.events := by
  have hunlocks : ∀ {k : SecretHash} {t u : Channels} {sc : PaymentStateChange},
      sc.secrethash? P = some k → Evolves P (SendsUnlock k) t u → Evolves P (TaskOp P sc) t u := by
    intro k t u sc hchange hevolves
    refine hevolves.mono fun ref c op hop => ⟨hop.isLockOp ref c op, fun k' hk' => ?_⟩
    rw [(hop.sends (P := P) ref c op).2, ← hchange, hk']
  have hlocks : Evolves P LockOp cs r.channels := h.evolves
  cases h with
  | ignored => exact .nothing P _ cs
  | initiated | block | refunded => exact ⟨hlocks.mono fun _ _ _ hop => ⟨hop, nofun⟩, nofun⟩
  | learned _ _ h =>
    obtain ⟨register, -, -, -, evolves⟩ := h
    refine ⟨Evolves.trans ?_ (hunlocks rfl evolves), nofun⟩
    refine (registerOffchainSecret_evolves register).mono fun _ _ op hop => ?_
    rw [hop]
    exact ⟨rfl, fun _ h => h⟩
  | learnedOnchain _ h =>
    have hquiet := h.unregistered
    obtain ⟨register, -, evolves⟩ := h
    refine ⟨Evolves.trans ?_ (hunlocks rfl evolves), fun _ _ => hquiet⟩
    refine (registerOnchainSecret_evolves register).mono fun _ _ op hop => ?_
    rw [hop]
    exact ⟨rfl, fun _ h => h⟩
  | unlocked h =>
    refine ⟨h.unlocking.evolves.mono fun _ _ op hop => ?_, nofun⟩
    obtain ⟨_, rfl⟩ := hop
    exact ⟨rfl, fun _ h => h⟩
  | expired h =>
    refine ⟨h.evolves.mono fun _ _ op hop => ?_, nofun⟩
    obtain ⟨_, rfl⟩ := hop
    exact ⟨rfl, fun _ h => h⟩

theorem stateTransition_performed (task : Option MediatorTransferState) (sc : PaymentStateChange) :
    Ensures (stateTransition P net task sc cs a2c now
      bh) fun r => Performed P sc cs r.channels r.events := by
  refine (stateTransition_ensures task sc).mono fun r hr => ?_
  obtain ⟨iter, hreaction, -, rfl⟩ := hr
  rcases clearIfFinalized_cases net iter with heq | heq <;> rw [heq] <;>
    exact hreaction.performed

/-! ## The transfers the mediation received -/

theorem incomingRef_mem (h : tr ∈ incoming st) : incomingRef net tr ∈ secretRefs net st := by
  simp only [incoming, List.mem_append, List.mem_map] at h
  simp only [secretRefs, List.mem_append, List.mem_flatMap, List.mem_map]
  rcases h with ⟨p, hp, rfl⟩ | ⟨w, hw, rfl⟩
  · exact .inl ⟨p, hp, List.mem_cons_self⟩
  · exact .inr ⟨w, hw, rfl⟩

theorem payerRef_mem (h : p ∈ st.transfersPair) : payerRef net p ∈ secretRefs net st :=
  List.mem_append_left _ (List.mem_flatMap.mpr ⟨p, h, List.mem_cons_self⟩)

theorem payeeRef_mem (h : p ∈ st.transfersPair) : payeeRef net p ∈ secretRefs net st :=
  List.mem_append_left _ (List.mem_flatMap.mpr ⟨p, h, List.mem_cons_of_mem _ List.mem_cons_self⟩)

def outgoing (st : MediatorTransferState) : List LockedTransferUnsignedState :=
  st.transfersPair.map MediationPairState.payeeTransfer

/-- Loops over the pairs that change only their states keep all transfers. -/
theorem SameTransfers.maps {pairs pairs' : List MediationPairState}
    (hpairs : List.Forall₂ R pairs pairs') (hR : ∀ p p', R p p' → SameTransfers p p') :
    pairs'.map MediationPairState.payerTransfer = pairs.map MediationPairState.payerTransfer ∧
      pairs'.map MediationPairState.payeeTransfer = pairs.map MediationPairState.payeeTransfer := by
  induction hpairs with
  | nil => exact ⟨rfl, rfl⟩
  | cons head _ ih =>
    have hsame := hR _ _ head
    simp only [List.map_cons, hsame.payer, hsame.payee, ih.1, ih.2, and_self]

theorem incoming_eq {st' : MediatorTransferState}
    (hpairs : List.Forall₂ R st.transfersPair st'.transfersPair)
    (hR : ∀ p p', R p p' → SameTransfers p p')
    (hwaiting : st'.waitingTransfer.map WaitingTransferState.transfer =
      st.waitingTransfer.map WaitingTransferState.transfer) : incoming st' = incoming st := by
  have hlist : ∀ w : Option WaitingTransferState, w.toList.map WaitingTransferState.transfer =
      (w.map WaitingTransferState.transfer).toList := fun w => by cases w <;> rfl
  rw [incoming, incoming, (SameTransfers.maps hpairs hR).1, hlist, hlist, hwaiting]

theorem BlockHandled.incoming_eq (h : BlockHandled P net st cs a2c now mediate r) :
    incoming r.newState = incoming mediate.newState := by
  obtain ⟨pairs, hrest⟩ := h.rest
  refine Mediator.incoming_eq h.pairs (fun _ _ hp => hp.same) ?_
  rw [hrest, Option.map_map]
  congr 1
  funext w
  exact expiredWaiting_transfer w

theorem PayerUnlocked.same {noneLeft : Prop} (h : PayerUnlocked sc noneLeft p p') :
    SameTransfers p p' ∧ p'.payeeState = p.payeeState := by
  cases h <;> exact ⟨⟨rfl, rfl, rfl⟩, rfl⟩

theorem PayerGone.same (h : PayerGone net k cs p p') :
    SameTransfers p p' ∧ p'.payeeState = p.payeeState := by
  cases h <;> exact ⟨⟨rfl, rfl, rfl⟩, rfl⟩

/-! ## Channels in which the secret was registered -/

theorem registerSecret_get? {f : NettingChannelState → Fallible NettingChannelState}
    (hidem : ∀ c c', f c = .ok c' → f c' = .ok c') (h : registerSecret net f st cs = .ok registered)
    (href : ref ∈ secretRefs net st) (found : registered.get? ref = some c') :
    ∃ c, cs.get? ref = some c ∧ f c = .ok c' := by
  have hrel := updateAll_get? hidem h ref
  rw [if_pos href] at hrel
  exact hrel.of_right found

theorem registerOffchainSecret_get?
    (h : registerSecret net (fun c => .ok (registerOffchainSecret c secret hash)) st
      cs = .ok registered) (href : ref ∈ secretRefs net st)
    (found : registered.get? ref = some c') :
    ∃ c, cs.get? ref = some c ∧ c' = registerOffchainSecret c secret hash := by
  obtain ⟨c, hc, heq⟩ := registerSecret_get?
    (fun c c' hc => by cases hc; rw [registerOffchainSecret_idem]) h href found
  exact ⟨c, hc, (Except.ok.inj heq).symm⟩

theorem registerOnchainSecret_get?
    (h : registerSecret net (fun c => registerOnchainSecret c secret hash now)
      st cs = .ok registered) (href : ref ∈ secretRefs net st)
    (found : registered.get? ref = some c') :
    ∃ c, cs.get? ref = some c ∧ registerOnchainSecret c secret hash now = .ok c' :=
  registerSecret_get? (fun _ _ hc => registerOnchainSecret_idem hc) h href found

/-! ## The transfers of the pairs do not change -/

theorem Revealed.same (h : Revealed secret p p' out) : SameTransfers p p' := by
  cases h <;> exact ⟨rfl, rfl, rfl⟩

theorem Balanced.same (h : Balanced net cs now secret p p' out) : SameTransfers p p' := by
  cases h <;> exact ⟨rfl, rfl, rfl⟩

theorem setOffchainRevealState_same (pairs : List MediationPairState) (payee : Address) :
    List.Forall₂ SameTransfers pairs (setOffchainRevealState pairs payee) := by
  rw [setOffchainRevealState, List.forall₂_map_right_iff, List.forall₂_same]
  intro p _
  split
  · exact ⟨rfl, rfl, rfl⟩
  · exact .refl p

/-- Before the unlocks `secret_learned` keeps the transfers of the pairs. -/
theorem sameTransfers_of_visits {q : MediationPairState → Bool} {pairs revealed : List MediationPairState}
    {reveals : List Event} {payee : Address} (hrevealed : Visited (Revealed secret)
      ((setOffchainRevealState pairs payee).map (markIf q)) revealed reveals) :
    List.Forall₂ SameTransfers pairs revealed := by
  have hmarked := List.forall₂_map_right_iff.mpr <|
    (setOffchainRevealState_same pairs payee).imp fun _ p h => h.trans (markIf_same q p)
  exact forall₂_comp hmarked hrevealed.each fun _ _ _ h ⟨_, ho, _⟩ => h.trans ho.same

theorem Learned.same {payee : Address} (h : Learned P net st cs now secret hash payee r) :
    List.Forall₂ SameTransfers st.transfersPair r.newState.transfersPair := by
  obtain ⟨-, hfirst, hrevealed, hpaid, -⟩ := h
  rw [hfirst.replaced] at hrevealed
  exact forall₂_comp (sameTransfers_of_visits hrevealed) hpaid.each fun _ _ _ h ⟨_, ho, _⟩ => h.trans ho.same

theorem LearnedOnchain.same (h : LearnedOnchain P net st cs now secret hash r) :
    List.Forall₂ SameTransfers st.transfersPair r.newState.transfersPair := by
  obtain ⟨-, hpaid, -⟩ := h
  exact hpaid.each.imp fun _ _ ⟨_, ho, _⟩ => ho.same

end Raiden.Mediator
