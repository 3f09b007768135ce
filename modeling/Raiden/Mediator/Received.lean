import Raiden.Mediator.Execution

/-! # The locks a mediation received

All transfers of one mediation have the same secrethash and the same expiration.
The ends of its payers change in few ways: a transfer is accepted, the secret is
registered, or locks are lost. What holds of these ends is followed through the
state changes of the task and the steps of its environment. -/
namespace Raiden.Mediator

open Lib Channel

variable {P : Primitives} {net : TokenNetworkRef} {hash : SecretHash} {exp : Nat} {cs : Channels}
  {a2c : AddressesToChannel} {now : Nat} {st st' : MediatorTransferState} {s s' : Mediation}
  {cs' : Channels} {input : Input} {r : Iteration (Option MediatorTransferState)}
  {tr : LockedTransferSignedState} {p : MediationPairState} {c payerC : NettingChannelState}
  {sc : PaymentStateChange} {E : NettingChannelEndState → Prop}

/-- All transfers of the payment have the same secrethash and the same expiration. -/
structure Uniform (hash : SecretHash) (expiration : Nat) (st : MediatorTransferState) : Prop where
  secrethash_eq : st.secrethash = hash
  received : ∀ t ∈ incoming st, t.lock.secrethash = hash ∧ t.lock.expiration = expiration
  sent : ∀ t ∈ outgoing st, t.lock.expiration = expiration

theorem payerTransfer_mem (hp : p ∈ st.transfersPair) : p.payerTransfer ∈ incoming st :=
  List.mem_append_left _ (List.mem_map_of_mem hp)

theorem waiting_mem_incoming {waiting : WaitingTransferState} (h : waiting ∈ st.waitingTransfer) :
    waiting.transfer ∈ incoming st :=
  List.mem_append_right _ (List.mem_map_of_mem (Option.mem_toList.mpr h))

theorem Uniform.payer (h : Uniform hash exp st) (hp : p ∈ st.transfersPair) :
    p.payerTransfer.lock.secrethash = hash ∧ p.payerTransfer.lock.expiration = exp :=
  h.received _ (payerTransfer_mem hp)

/-- Changes of the states of the pairs only. -/
theorem Uniform.keep {R : MediationPairState → MediationPairState → Prop}
    (h : Uniform hash exp st) (hk : st'.secrethash = st.secrethash)
    (hpairs : List.Forall₂ R st.transfersPair st'.transfersPair)
    (hR : ∀ p p', R p p' → SameTransfers p p')
    (hwaiting : st'.waitingTransfer.map WaitingTransferState.transfer =
      st.waitingTransfer.map WaitingTransferState.transfer) : Uniform hash exp st' := by
  refine ⟨hk.trans h.secrethash_eq, ?_, ?_⟩
  · rw [incoming_eq hpairs hR hwaiting]
    exact h.received
  · rw [outgoing, (SameTransfers.maps hpairs hR).2]
    exact h.sent

theorem Forwarded.expiration_eq {c' : NettingChannelState} {routes : List RouteState}
    {payee : ChannelRef} {msg : SendLockedTransfer}
    (h : Forwarded P cs a2c tr payerC now routes payee c c' msg) :
    msg.transfer.lock.expiration = tr.lock.expiration := by
  obtain ⟨amount, id, -, -, hsend⟩ := h.sent
  obtain ⟨locks, hsent, -⟩ := sendLockedtransfer_ok P hsend
  exact hsent.expiration_eq

/-- A further transfer of the same payment. -/
theorem Uniform.mediated {r : Iteration MediatorTransferState} (h : Uniform hash exp st)
    (hk : tr.lock.secrethash = hash) (hx : tr.lock.expiration = exp)
    (hr : Mediated P st payerC cs a2c tr now r) : Uniform hash exp r.newState := by
  have hreceived : ∀ t ∈ incoming r.newState,
      t.lock.secrethash = hash ∧ t.lock.expiration = exp := by
    intro t ht
    rcases hr.mem_incoming t ht with rfl | ht
    · exact ⟨hk, hx⟩
    · exact h.received t ht
  cases hr with
  | waits => exact ⟨h.secrethash_eq, hreceived, h.sent⟩
  | forwards facts =>
    refine ⟨h.secrethash_eq, hreceived, fun t ht => ?_⟩
    simp only [outgoing, List.map_append, List.map_cons, List.map_nil, List.mem_append,
      List.mem_singleton, forwardedPair] at ht
    rcases ht with ht | rfl
    · exact h.sent t ht
    · exact facts.expiration_eq.trans hx

theorem Uniform.retried {r : Iteration MediatorTransferState} (h : Uniform hash exp st)
    (hr : Retried P net st cs a2c now r) : Uniform hash exp r.newState := by
  have hreceived : ∀ t ∈ incoming r.newState,
      t.lock.secrethash = hash ∧ t.lock.expiration = exp :=
    fun t ht => h.received t (hr.mem_incoming t ht)
  cases hr with
  | idle => exact h
  | waits => exact ⟨h.secrethash_eq, hreceived, h.sent⟩
  | @forwards waiting _ _ _ _ _ hwaiting _ facts =>
    obtain ⟨hk, hx⟩ := h.received waiting.transfer (waiting_mem_incoming hwaiting)
    have hidle : Uniform hash exp { st with waitingTransfer := none } := by
      refine ⟨h.secrethash_eq, fun t ht => h.received t (List.mem_append_left _ ?_), h.sent⟩
      exact (List.mem_append.mp ht).resolve_right List.not_mem_nil
    exact hidle.mediated hk hx (.forwards facts)

/-- The first transfer determines the expiration. -/
theorem Initiated.uniform {init : ActionInitMediator} (h : Initiated P net init cs a2c now r)
    (hk : init.fromTransfer.lock.secrethash = hash) :
    ∀ st ∈ r.newState, Uniform hash init.fromTransfer.lock.expiration st := by
  cases h with
  | rejected => exact fun _ h => absurd h.symm (Option.some_ne_none _)
  | accepted _ _ _ mediated =>
    rintro _ ⟨⟩
    have hempty : Uniform hash init.fromTransfer.lock.expiration
        { secrethash := init.fromTransfer.lock.secrethash, routes := init.candidateRouteStates } :=
      ⟨hk, nofun, nofun⟩
    exact hempty.mediated hk rfl mediated

/-- The task stays at its expiration. -/
theorem Reaction.uniform (h : Reaction P net cs a2c now (some st) sc r)
    (hs : Uniform hash exp st) (dispatched : s.dispatches P hash sc) :
    ∀ st' ∈ r.newState, Uniform hash exp st' := by
  rintro st' hstate'
  cases h with
  | ignored =>
    cases hstate'
    exact hs
  | block h =>
    cases hstate'
    have hpairs := h.pairs
    obtain ⟨pairs, hrest⟩ := h.rest
    have hwaiting := congrArg MediatorTransferState.waitingTransfer hrest
    refine (hs.retried h.retried).keep (by rw [hrest]) hpairs (fun _ _ hp => hp.same) ?_
    rw [hwaiting, Option.map_map]
    congr 1
    funext w
    exact expiredWaiting_transfer w
  | refunded h =>
    cases hstate'
    cases h with
    | rejected => exact hs
    | @accepted last c locks es r unknown hlast found facts hmatches _ mediated =>
      have hlast' : last.payeeTransfer ∈ outgoing st :=
        List.mem_map_of_mem (List.mem_of_getLast? hlast)
      have hx := hs.sent _ hlast'
      simp only [refundTransferMatchesTransfer, decide_eq_true_eq] at hmatches
      have hs' : Uniform hash exp
          { st with refundedChannels := st.refundedChannels ++ [c.identifier] } :=
        ⟨hs.secrethash_eq, hs.received, hs.sent⟩
      have huniform := hs'.mediated dispatched.2 (hmatches.2.2.2.2.2.1.symm.trans hx) mediated
      exact huniform
  | learned _ _ h =>
    cases hstate'
    have hsame := h.same
    cases h
    exact hs.keep rfl hsame (fun _ _ h => h) rfl
  | learnedOnchain _ h =>
    cases hstate'
    have hsame := h.same
    cases h
    exact hs.keep rfl hsame (fun _ _ h => h) rfl
  | unlocked h =>
    cases hstate'
    exact hs.keep (by rw [h.rest]) h.unlocking.pairs (fun _ _ hp => hp.same.1) (by rw [h.rest])
  | expired h =>
    cases hstate'
    exact hs.keep (by rw [h.rest]) h.pairs (fun _ _ hp => hp.same.1) (by rw [h.rest])

/-! ## The ends of the payers -/

/-- The end of the partner satisfies `E` in every channel that received a transfer. -/
def Received (E : NettingChannelEndState → Prop) (net : TokenNetworkRef) (cs : Channels)
    (st : MediatorTransferState) : Prop :=
  ∀ t ∈ incoming st, ∀ c, cs.get? (incomingRef net t) = some c → E c.partnerState

theorem Received.payer (h : Received E net cs st)
    (hp : p ∈ st.transfersPair) (hc : getPayerChannel net cs p = some c) : E c.partnerState :=
  h _ (payerTransfer_mem hp) c hc

/-- Transfers are accepted under a secrethash that is not pending in the channel. -/
def Unused (P : Primitives) (net : TokenNetworkRef) (s : Mediation) : Input → Prop
  | .task (.actionInitMediator init) _ => s.task.isNone = true →
    ∀ c, s.channels.get? (channelRef net init.fromHop.channelIdentifier) = some c →
      NoReuse P c (.receiveLockedtransfer init.fromTransfer init.fromTransfer.payerAddressMetadata)
  | .task (.receiveTransferRefund refund) _ =>
    ∀ st, s.task = some st → ∀ last, st.transfersPair.getLast? = some last →
      ∀ c, s.channels.get? (channelRef net refund.transfer.balanceProof.channelIdentifier) =
        some c → NoReuse P c (.receiveRefundtransfer last.payeeTransfer refund)
  | _ => True

instance (P : Primitives) (net : TokenNetworkRef) (s : Mediation) (input : Input) :
    Decidable (Unused P net s input) := by
  unfold Unused
  induction input using Input.casesOn with
  | task change => induction change using PaymentStateChange.casesOn <;> infer_instance
  | _ => infer_instance

theorem Unused.of_outside (outside : ∀ sc bh, input ≠ .task sc bh) : Unused P net s input := by
  cases input with
  | task sc bh => exact absurd rfl (outside sc bh)
  | _ => trivial

section Ends

variable {E E' : NettingChannelEndState → Prop} {bh : BlockHash}

theorem partner_eq_of_sends {k : SecretHash} (h : Evolves P (Sends P k) cs cs') :
    StoreRel (fun c c' => c'.partnerState = c.partnerState) cs cs' :=
  h.storeRel (fun _ => rfl) (fun _ _ _ h h' => h'.trans h) fun _ _ _ _ _ hop hstep =>
    hstep.partner_eq hop.1

theorem LearnedOnchain.payer_end {secret : Secret} {k : SecretHash} {c' : NettingChannelState}
    {r : Iteration MediatorTransferState} (h : LearnedOnchain P net st cs now secret k r)
    (ht : tr ∈ incoming r.newState) (hc' : r.channels.get? (incomingRef net tr) = some c') :
    tr ∈ incoming st ∧ ∃ c, cs.get? (incomingRef net tr) = some c ∧
      registerOnchainSecretEndstate c.partnerState secret k now = .ok c'.partnerState := by
  have hsame := h.same
  obtain ⟨register, -, evolves⟩ := h
  rw [@incoming_eq st _ _ hsame (fun _ _ h => h) rfl] at ht
  obtain ⟨c₁, hc₁, hpartner⟩ := (partner_eq_of_sends (evolves.mono SendsUnlock.sends)).get_some hc'
  obtain ⟨c, hc, hregister⟩ := registerOnchainSecret_get? register (incomingRef_mem ht) hc₁
  obtain ⟨our, partner, -, hend, rfl⟩ := registerOnchainSecret_ok.mp hregister
  exact ⟨ht, c, hc, hpartner ▸ hend⟩

theorem losesAt_of_releases {A : ChannelRef → NettingChannelState → ChannelOp → Prop}
    (h : Evolves P A cs cs') (hA : ∀ ref c op, A ref c op → op.isRelease = true) :
    StoreRel (fun c c' => LosesAt hash c.partnerState c'.partnerState) cs cs' :=
  h.storeRel (fun _ => .refl _ _) (fun _ _ _ h h' => h.trans h') fun ref c op _ _ hop hstep =>
    hstep.losesAt_partner (hA ref c op hop) hash

/-- Fewer transfers, and less in their channels. -/
theorem Received.loses (h : Received E net cs st) (hincoming : ∀ t ∈ incoming st', t ∈ incoming st)
    (hchannels : StoreRel (fun c c' => LosesAt hash c.partnerState c'.partnerState) cs
      cs') (hE : ∀ e e', E e → LosesAt hash e e' → E' e') : Received E' net cs' st' := by
  intro t ht c' hc'
  obtain ⟨c, hc, hloses⟩ := hchannels.get_some hc'
  exact hE _ _ (h t (hincoming t ht) c hc) hloses

theorem storeRel_losesAt (h : StoreRel (fun c c' => c'.partnerState = c.partnerState) cs cs') :
    StoreRel (fun c c' => LosesAt hash c.partnerState c'.partnerState) cs cs' :=
  h.mono fun _ _ hrel => hrel ▸ .refl _ _

theorem Received.accepted {locks : List EncodedData} {r : Iteration MediatorTransferState}
    (h : Received E net cs st)
    (haccepts : E' (withTransfer c tr locks).partnerState) (hE : ∀ e, E e → E' e)
    (hr : Mediated P st payerC (cs.set (incomingRef net tr) (withTransfer
      c tr locks)) a2c tr now r) : Received E' net r.channels r.newState := by
  intro t ht c' hc'
  obtain ⟨c₁, hc₁, hpartner⟩ := (partner_eq_of_sends hr.evolves).get_some hc'
  rw [hpartner]
  rw [Dict.get?_set] at hc₁
  split at hc₁
  · cases hc₁
    exact haccepts
  · next hne =>
    rcases hr.mem_incoming t ht with rfl | ht
    · exact absurd rfl hne
    · exact hE _ (h t ht c₁ hc₁)

/-- A new lock of the payment at an end without one gives `E`. -/
def Accepts (hash : SecretHash) (expiration : Nat) (E : NettingChannelEndState → Prop) : Prop :=
  ∀ e bp locks lock, isLockPending e hash = false → lock.secrethash = hash →
    lock.expiration = expiration → E (addLock e bp locks lock)

theorem Initiated.received {init : ActionInitMediator}
    (h : Initiated P net init s.channels s.channels.addressesToChannel s.blockNumber r)
    (hfiled : ∀ ref c, s.channels.get? ref = some c → Filed ref c)
    (hk : init.fromTransfer.lock.secrethash = hash) (absent : s.task = none)
    (unused : Unused P net s (.task (.actionInitMediator init) bh))
    (haccepts : Accepts hash init.fromTransfer.lock.expiration E) :
    ∀ st ∈ r.newState, Received E net r.channels st := by
  cases h with
  | rejected => exact fun _ h => absurd h.symm (Option.some_ne_none _)
  | @accepted c locks _ _ found facts _ mediated =>
    rintro _ ⟨⟩
    have href : _ = incomingRef net _ := (hfiled _ c found).incomingRef_eq facts rfl
    rw [href] at mediated
    have hfresh := (unused (by rw [absent]; rfl) c found).2 _ (addedByPartner_receiveLockedtransfer _ facts)
    have hempty : Received (fun _ => False) net s.channels
        { secrethash := init.fromTransfer.lock.secrethash, routes := init.candidateRouteStates } :=
      nofun
    exact hempty.accepted (haccepts _ _ _ _ (hk ▸ hfresh) hk rfl) (fun _ hfalse => hfalse.elim) mediated

theorem Reaction.received (htask : s.task = some st)
    (h : Reaction P net s.channels s.channels.addressesToChannel s.blockNumber (some st)
      sc r) (hfiled : ∀ ref c, s.channels.get? ref = some c → Filed ref c)
    (huniform : Uniform hash exp st) (dispatched : s.dispatches P hash sc)
    (unused : st.secret = none → Unused P net s (.task sc bh)) (hs : Received E net s.channels st)
    (haccepts : st.secret = none → (∀ st' ∈ r.newState, st'.secret = none) → Accepts hash exp E')
    (hloses : (∀ st' ∈ r.newState, st'.secret = st.secret) → ∀ e e', E e → LosesAt hash e
      e' → E' e')
    (hlearns : st.secret = none → (∀ st' ∈ r.newState, st'.secret ≠ none) → ∀ e secret, E e →
      E' (registerSecretEndstate e secret hash))
    (honchain : ∀ reveal, sc = .contractReceiveSecretReveal reveal → (∀ st' ∈ r.newState,
      st'.secret ≠ none) → ∀ e e', E e → registerOnchainSecretEndstate e reveal.secret hash
      reveal.blockNumber = .ok e' → E' e') :
    ∀ st' ∈ r.newState, Received E' net r.channels st' := by
  intro st' hstate'
  cases h with
  | ignored =>
    have hloses := hloses fun _ h => by cases h; rfl
    cases hstate'
    exact fun t ht c hc => hloses _ _ (hs t ht c hc) (.refl _ _)
  | @block _ _ _ r h =>
    have hloses := hloses fun _ heq => by
      cases heq
      obtain ⟨pairs, hrest⟩ := h.rest
      rw [hrest]
      cases h.retried <;> rfl
    cases hstate'
    have hincoming : ∀ t ∈ incoming r.newState, t ∈ incoming st := by
      intro t ht
      rw [h.incoming_eq] at ht
      exact h.retried.mem_incoming t ht
    obtain ⟨k, hretried⟩ := h.retried.evolves
    have hchannels := (partner_eq_of_sends hretried).trans (fun _ _ _ h h' => h'.trans h)
      (partner_eq_of_sends (h.evolves.mono Expires.sends))
    exact hs.loses hincoming (storeRel_losesAt hchannels) hloses
  | @refunded _ refund _ h =>
    cases hstate'
    cases h with
    | rejected =>
      have hloses := hloses fun _ h => by cases h; rfl
      exact fun t ht c hc => hloses _ _ (hs t ht c hc) (.refl _ _)
    | @accepted last c locks es r unknown hlast found facts hmatches _ mediated =>
      have hloses := hloses fun _ heq => by cases heq; cases mediated <;> rfl
      have hunknown := haccepts unknown fun _ heq => by cases heq; cases mediated <;> exact unknown
      have href : _ = incomingRef net _ := (hfiled _ c found).incomingRef_eq facts rfl
      have hk := dispatched.2
      have hfresh := (unused unknown st htask last hlast c found).2 _
        (addedByPartner_receiveRefundtransfer facts hmatches)
      have hx := huniform.sent _ (List.mem_map_of_mem (List.mem_of_getLast? hlast))
      simp only [refundTransferMatchesTransfer, decide_eq_true_eq] at hmatches
      have hnew := hunknown c.partnerState (.signed refund.transfer.balanceProof) locks _
        (hk ▸ hfresh) hk (hmatches.2.2.2.2.2.1.symm.trans hx)
      have hreceived : Received E net s.channels
          { st with refundedChannels := st.refundedChannels ++ [c.identifier] } := hs
      exact hreceived.accepted hnew (fun e he => hloses e e he (.refl _ _)) mediated
  | @learned _ reveal _ unknown _ h =>
    have hlearned := hlearns unknown fun _ heq => by cases heq; cases h; exact Option.some_ne_none _
    cases hstate'
    have hsame := h.same
    obtain ⟨register, -, -, -, evolves⟩ := h
    intro t ht c' hc'
    rw [@incoming_eq st _ _ hsame (fun _ _ h => h) rfl] at ht
    obtain ⟨c₁, hc₁, hpartner⟩ := (partner_eq_of_sends (evolves.mono SendsUnlock.sends)).get_some hc'
    obtain ⟨c, hc, rfl⟩ := registerOffchainSecret_get? register (incomingRef_mem ht) hc₁
    have hk : reveal.secrethash P = hash := dispatched.2
    rw [hpartner, hk]
    exact hlearned _ _ (hs t ht c hc)
  | @learnedOnchain _ reveal _ _ h =>
    have hregistered := honchain reveal rfl fun _ heq => by cases heq; cases h; exact Option.some_ne_none _
    cases hstate'
    intro t ht c' hc'
    obtain ⟨ht', c, hc, hend⟩ := h.payer_end ht hc'
    have hk : reveal.secrethash = hash := dispatched.2
    exact hregistered _ _ (hs t ht' c hc) (hk ▸ hend)
  | unlocked h =>
    have hloses := hloses fun _ heq => by cases heq; rw [h.rest]
    cases hstate'
    refine hs.loses ?_
      (losesAt_of_releases h.unlocking.evolves fun _ _ _ ⟨_, hop⟩ => by rw [hop]; rfl) hloses
    rw [incoming_eq h.unlocking.pairs (fun _ _ hp => hp.same.1) (by rw [h.rest])]
    exact fun _ ht => ht
  | expired h =>
    have hloses := hloses fun _ heq => by cases heq; rw [h.rest]
    cases hstate'
    refine hs.loses ?_ (losesAt_of_releases h.evolves fun _ _ _ ⟨_, hop⟩ => by rw [hop]; rfl) hloses
    rw [incoming_eq h.pairs (fun _ _ hp => hp.same.1) (by rw [h.rest])]
    exact fun _ ht => ht

end Ends

theorem Reaction.secret_known (h : Reaction P net cs a2c now (some st) sc r)
    (hs : st.secret ≠ none) : ∀ st' ∈ r.newState, st'.secret ≠ none := by
  intro st' hstate'
  cases h with
  | ignored =>
    cases hstate'
    exact hs
  | block h =>
    cases hstate'
    obtain ⟨pairs, hrest⟩ := h.rest
    rw [hrest]
    cases h.retried <;> exact hs
  | refunded h =>
    cases hstate'
    cases h with
    | rejected => exact hs
    | accepted unknown => exact absurd unknown hs
  | learned _ _ h =>
    cases hstate'
    cases h
    exact Option.some_ne_none _
  | learnedOnchain _ h =>
    cases hstate'
    cases h
    exact Option.some_ne_none _
  | unlocked h =>
    cases hstate'
    rw [h.rest]
    exact hs
  | expired h =>
    cases hstate'
    rw [h.rest]
    exact hs

/-- What a block leaves of a channel: the end of the payer, the life cycle, and what is
registered at our end. -/
theorem BlockHandled.frame (k : SecretHash) {mediate r : Iteration MediatorTransferState}
    (h : BlockHandled P net st cs a2c now mediate r) :
    StoreRel (fun c c' => c'.partnerState = c.partnerState ∧ SameLife c c' ∧
      isSecretKnownOnchain c'.ourState k = isSecretKnownOnchain c.ourState k) cs r.channels := by
  have hrefl : ∀ c : NettingChannelState, c.partnerState = c.partnerState ∧ SameLife c c ∧
      isSecretKnownOnchain c.ourState k = isSecretKnownOnchain c.ourState k := fun c => ⟨rfl, .refl c, rfl⟩
  have hretried : StoreRel (fun c c' => c'.partnerState = c.partnerState ∧ SameLife c c' ∧
      isSecretKnownOnchain c'.ourState k = isSecretKnownOnchain c.ourState k) cs mediate.channels := by
    cases h.retried with
    | idle | waits => exact .refl hrefl _
    | forwards _ _ facts =>
      obtain ⟨arguments, -, hstep⟩ := facts.step
      exact .set hrefl facts.found
        ⟨hstep.partner_eq rfl, hstep.sameLife rfl, hstep.onchain_eq (.inl ⟨_, rfl⟩)⟩
  have htrans : ∀ c₁ c₂ c₃ : NettingChannelState,
      (c₂.partnerState = c₁.partnerState ∧ SameLife c₁ c₂ ∧
        isSecretKnownOnchain c₂.ourState k = isSecretKnownOnchain c₁.ourState k) →
      (c₃.partnerState = c₂.partnerState ∧ SameLife c₂ c₃ ∧
        isSecretKnownOnchain c₃.ourState k = isSecretKnownOnchain c₂.ourState k) →
      c₃.partnerState = c₁.partnerState ∧ SameLife c₁ c₃ ∧
        isSecretKnownOnchain c₃.ourState k = isSecretKnownOnchain c₁.ourState k :=
    fun _ _ _ h h' => ⟨h'.1.trans h.1, h.2.1.trans h'.2.1, h'.2.2.trans h.2.2⟩
  refine hretried.trans htrans (h.evolves.storeRel hrefl htrans ?_)
  rintro _ _ _ _ _ ⟨md, rfl⟩ hstep
  exact ⟨hstep.partner_eq rfl, hstep.sameLife rfl, hstep.onchain_eq (.inr ⟨_, _, _, rfl⟩)⟩

/-- What a step of the environment does to the channels of the task. -/
structure Surrounds (net : TokenNetworkRef) (hash : SecretHash) (s : Mediation) (input : Input)
    (s' : Mediation) : Prop where
  task : s'.task = s.task
  blockNumber : s'.blockNumber = s.blockNumber ∨
    ∃ n, input = .tick n ∧ s'.blockNumber = n ∧ s.blockNumber < n
  channels : ∀ st ∈ s.task, ∀ ref ∈ secretRefs net st,
    ∀ c', s'.channels.get? ref = some c' →
    ∃ c, s.channels.get? ref = some c ∧ SameChannelLocksAt hash c c'

theorem Mediation.Next.surrounds {es : List Event} (h : s.Next P net hash (input, es) s')
    (hfiled : ∀ ref c, s.channels.get? ref = some c → Filed ref c)
    (hinput : ∀ sc bh, input ≠ .task sc bh) : Surrounds net hash s input s' := by
  have hrefl : ∀ c, SameChannelLocksAt hash c c := fun c => ⟨.refl _ _, .refl _ _⟩
  cases h with
  | @tick n later _ =>
    exact ⟨rfl, .inr ⟨n, rfl, rfl, later⟩, fun _ _ _ _ c' hc' => ⟨c', hc', hrefl c'⟩⟩
  | @opened ref c _ unused _ =>
    refine ⟨rfl, .inl rfl, fun st hstate other hother c' hc' => ?_⟩
    rw [Mediation.taskRefs, hstate, Option.elim_some] at unused
    have hne : other ≠ ref := by
      rintro rfl
      exact unused hother
    rw [Dict.get?_set_ne _ _ hne] at hc'
    exact ⟨c', hc', hrefl c'⟩
  | @channel ref c c' op _ found step foreign _ _ =>
    refine ⟨rfl, .inl rfl, fun _ _ other _ d hd => ?_⟩
    rw [Dict.get?_set] at hd
    split at hd
    · next hother =>
      cases hd
      rw [hother]
      exact ⟨c, found, step.sameLocksAt (hfiled ref c found).our foreign⟩
    · exact ⟨d, hd, hrefl d⟩
  | removed =>
    exact ⟨rfl, .inl rfl, fun _ _ _ _ d hd => ⟨d, (Dict.get?_del_eq_some.mp hd).2, hrefl d⟩⟩
  | task => exact absurd rfl (hinput _ _)

/-- The cases of a step, as the task sees them. -/
inductive Seen (P : Primitives) (net : TokenNetworkRef) (hash : SecretHash) (s : Mediation) :
    Input × List Event → Mediation → Prop
  | surrounded {input : Input} {es : List Event} {s' : Mediation}
      (outside : ∀ change bh, input ≠ .task change bh)
      (h : Surrounds net hash s input s') : Seen P net hash s (input, es) s'
  | started {init : ActionInitMediator} {bh : BlockHash} {s' : Mediation}
      {r : Iteration (Option MediatorTransferState)} (absent : s.task = none)
      (secrethash_eq : init.fromTransfer.lock.secrethash = hash)
      (h : Initiated P net init s.channels s.channels.addressesToChannel s.blockNumber r)
      (task : ∀ st ∈ s'.task, r.newState = some st) (cs : s'.channels = r.channels)
      (now : s'.blockNumber = s.blockNumber) :
      Seen P net hash s (.task (.actionInitMediator init) bh, r.events) s'
  | reacted {st : MediatorTransferState} {change : PaymentStateChange} {bh : BlockHash}
      {s' : Mediation} {r : Iteration (Option MediatorTransferState)} (htask : s.task = some st)
      (dispatched : s.dispatches P hash change)
      (h : Reaction P net s.channels s.channels.addressesToChannel s.blockNumber (some st)
        change r)
      (sane : sanityCheckNewState net r = .ok ())
      (task : ∀ st' ∈ s'.task, r.newState = some st') (cs : s'.channels = r.channels)
      (now : s'.blockNumber = s.blockNumber) :
      Seen P net hash s (.task change bh, r.events) s'

theorem Mediation.Next.seen {label : Input × List Event} (h : s.Next P net hash label s')
    (hfiled : ∀ ref c, s.channels.get? ref = some c → Filed ref c) :
    Seen P net hash s label s' := by
  obtain ⟨input, es⟩ := label
  by_cases outside : ∀ sc bh, input ≠ .task sc bh
  · exact .surrounded outside (h.surrounds hfiled outside)
  · cases h with
    | @task sc bh prng prng' r dispatched order run =>
      obtain ⟨iter, hreaction, sane, rfl⟩ := Mediation.Next.reaction run
      rw [clearIfFinalized_events]
      have htask' : ∀ st ∈ (clearIfFinalized net iter).newState,
          iter.newState = some st := fun _ hstate => clearIfFinalized_newState hstate
      cases htask : s.task with
      | some st =>
        rw [htask] at hreaction
        exact .reacted htask dispatched hreaction sane htask' (clearIfFinalized_channels _) rfl
      | none =>
        rw [htask] at hreaction
        cases sc with
        | actionInitMediator init =>
          cases hreaction with
          | ignored => exact .started htask dispatched (.rejected .nil .nil) htask' (clearIfFinalized_channels _) rfl
          | initiated hinit => exact .started htask dispatched hinit htask' (clearIfFinalized_channels _) rfl
        | _ =>
          -- everything else reaches only a task that exists
          simp [Mediation.dispatches, htask] at dispatched
    | _ => exact absurd (fun _ _ heq => by cases heq) outside

theorem Received.surrounds
    (h : Received E net s.channels st) (hstate : st ∈ s.task) (hs : Surrounds net hash s input s')
    (hE : ∀ e e', E e → LosesAt hash e e' → E e') : Received E net s'.channels st := by
  intro t ht c' hc'
  obtain ⟨c, hc, hsame⟩ := hs.channels st hstate _ (incomingRef_mem ht) c' hc'
  exact hE _ _ (h t ht c hc) hsame.2.losesAt

end Raiden.Mediator
