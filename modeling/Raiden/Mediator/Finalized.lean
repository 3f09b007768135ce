import Raiden.Mediator.Execution

/-! # The task of a mediation outlives its locks

The task ends when the channels of its pairs and of its waiting transfer have no
lock of the payment left. It finds these channels by identifier in one token
network, and it remembers one waiting transfer. As long as no route swaps the
token at this node and no refund replaces a waiting transfer, these are all the
channels that hold a lock of the payment. -/
namespace Raiden.Mediator

open Lib Channel

variable {a2c : AddressesToChannel} {ref : ChannelRef} {r : Iteration MediatorTransferState}
  {tr : LockedTransferSignedState} {s : Mediation} {c : NettingChannelState} {op : ChannelOp}
  {now : Nat} {c' payerC : NettingChannelState} {P : Primitives} {net : TokenNetworkRef}

/-! ## Runs without swaps and replaced transfers -/

section

variable (net : TokenNetworkRef)

/-- No route leaves the token network at this node. -/
def StaysIn (cs : Channels) (routes : List RouteState) : Prop :=
  ∀ route ∈ routes, ∀ ref c, cs.get? ref = some c →
    ∀ target ∈ route.swaps.get? c.ourState.address, target = net.address

/-- Routes stay in the token network, and no refund is accepted while a transfer waits. -/
def Traceable (P : Primitives) (net : TokenNetworkRef) (s : Mediation) : Input → Prop
  | .task (.actionInitMediator init) _ => StaysIn net s.channels init.candidateRouteStates
  | .task (.block _) _ => ∀ st ∈ s.task, StaysIn net s.channels st.routes
  | .task (.receiveTransferRefund refund) _ => ∀ st ∈ s.task,
      StaysIn net s.channels st.routes ∧
      (st.waitingTransfer ≠ none → ∀ last ∈ st.transfersPair.getLast?,
        ∀ c ∈ s.channels.get? (incomingRef net refund.transfer),
          (isValidRefund P refund c c.partnerState c.ourState last.payeeTransfer).isOk = false)
  | _ => True

/-! ## The channels of the payment -/

def receivedRefs (st : MediatorTransferState) : List ChannelRef :=
  (incoming st).map (incomingRef net)

def sentRefs (st : MediatorTransferState) : List ChannelRef :=
  (outgoing st).map fun transfer => channelRef net transfer.balanceProof.channelIdentifier

structure Covered (hash : SecretHash) (cs : Channels) (received sent : List ChannelRef) : Prop where
  received : ∀ ref c, cs.get? ref = some c → isLockPending c.partnerState hash = true →
    ref ∈ received
  sent : ∀ ref c, cs.get? ref = some c → isLockPending c.ourState hash = true → ref ∈ sent

/-- The task looks at every channel with a pending lock of the payment. -/
def CoveredBy (hash : SecretHash) (cs : Channels) (task : Option MediatorTransferState) : Prop :=
  Covered hash cs (task.elim [] (receivedRefs net))
    (task.elim [] (sentRefs net))

end

/-- No lock of the payment is added. -/
structure Shrinks (hash : SecretHash) (c c' : NettingChannelState) : Prop where
  our : isLockPending c'.ourState hash = true → isLockPending c.ourState hash = true
  partner : isLockPending c'.partnerState hash = true →
    isLockPending c.partnerState hash = true

section Shrinks

variable {P : Primitives} {hash : SecretHash} {c c' : NettingChannelState} {cs cs' : Channels}

theorem Shrinks.refl (c : NettingChannelState) : Shrinks hash c c := ⟨id, id⟩

theorem Shrinks.trans (c₁ c₂ c₃ : NettingChannelState) (h : Shrinks hash c₁ c₂)
    (h' : Shrinks hash c₂ c₃) : Shrinks hash c₁ c₃ :=
  ⟨h.our ∘ h'.our, h.partner ∘ h'.partner⟩

theorem Shrinks.step {es : List Event} (h : Step P c (op, es) c')
    (hour : op.addedByUs ≠ some hash) (hpartner : op.addedByPartner P c ≠ some hash) :
    Shrinks hash c c' := by
  constructor <;> intro hpending <;> obtain ⟨lock, hlock⟩ := isLockPending_iff.mp hpending
  · exact ((h.hasLock hour hpartner).1 hlock).isLockPending
  · exact ((h.hasLock hour hpartner).2 hlock).isLockPending

/-- The operations that add no lock at all. -/
def addsNothing : ChannelOp → Bool
  | .sendLockedtransfer _ | .receiveLockedtransfer .. | .receiveRefundtransfer .. => false
  | _ => true

theorem Shrinks.evolves {A : ChannelRef → NettingChannelState → ChannelOp → Prop}
    (h : Evolves P A cs cs') (hA : ∀ ref c op, A ref c op → addsNothing op = true) :
    StoreRel (Shrinks hash) cs cs' := by
  refine h.storeRel Shrinks.refl Shrinks.trans fun ref c op es c' hop hstep => ?_
  have hnothing := hA ref c op hop
  refine .step hstep ?_ ?_ <;> cases op <;> first
    | exact absurd hnothing Bool.false_ne_true
    | exact fun h => absurd h.symm (Option.some_ne_none _)

variable (ref : ChannelRef) (c : NettingChannelState) (op : ChannelOp)

theorem addsNothing_expires (h : Expires hash now ref c op) : addsNothing op = true := by
  obtain ⟨_, rfl⟩ := h
  rfl

theorem addsNothing_sendsUnlock (h : SendsUnlock hash ref c op) : addsNothing op = true := by
  obtain ⟨_, _, _, _, _, rfl⟩ := h
  rfl

end Shrinks

section Covered

variable {P : Primitives} {net : TokenNetworkRef} {hash : SecretHash}
  {cs cs' : Channels} {received received' sent sent' : List ChannelRef}
  {st st' : MediatorTransferState} {now : Nat}

theorem Covered.shrink (h : Covered hash cs received sent)
    (hchannels : StoreRel (Shrinks hash) cs cs') : Covered hash cs' received sent := by
  constructor <;> intro ref c' hc' hpending <;> obtain ⟨c, hc, hshrinks⟩ := hchannels.get_some hc'
  · exact h.received ref c hc (hshrinks.partner hpending)
  · exact h.sent ref c hc (hshrinks.our hpending)

theorem Covered.mono (h : Covered hash cs received sent)
    (hreceived : ∀ ref ∈ received, ref ∈ received') (hsent : ∀ ref ∈ sent, ref ∈ sent') :
    Covered hash cs received' sent' :=
  ⟨fun ref c hc hpending => hreceived ref (h.received ref c hc hpending),
    fun ref c hc hpending => hsent ref (h.sent ref c hc hpending)⟩

/-- An operation on one channel can add a lock to each of its ends. -/
theorem Covered.set (h : Covered hash cs received sent) (found : cs.get? ref = some c)
    (hreceived : isLockPending c'.partnerState hash = true → isLockPending c.partnerState
      hash = true ∨ ref ∈ received)
    (hsent : isLockPending c'.ourState hash = true → isLockPending c.ourState hash = true ∨
      ref ∈ sent) : Covered hash (cs.set ref c') received sent := by
  constructor <;> intro other d hd hpending <;> rw [Dict.get?_set] at hd <;> split at hd
  · next hother =>
    cases hd
    rw [hother]
    exact (hreceived hpending).elim (h.received ref c found) id
  · exact h.received other d hd hpending
  · next hother =>
    cases hd
    rw [hother]
    exact (hsent hpending).elim (h.sent ref c found) id
  · exact h.sent other d hd hpending

/-- A task that ends has no pending lock in any channel. -/
theorem CoveredBy.cleared {iter : Iteration (Option MediatorTransferState)}
    (h : CoveredBy net hash iter.channels iter.newState)
    (hsecrethash : ∀ st ∈ iter.newState, st.secrethash = hash) :
    CoveredBy net hash iter.channels (clearIfFinalized net iter).newState := by
  unfold clearIfFinalized
  split
  · exact h
  · next st hsome =>
    split
    · exact h
    · next hpending =>
      have hkey := hsecrethash st hsome
      rw [CoveredBy, hsome] at h
      rw [Bool.not_eq_true, hasPendingLock, Bool.or_eq_false_iff] at hpending
      refine ⟨fun ref c hc hlock => ?_, fun ref c hc hlock => ?_⟩ <;> rw [← hkey] at hlock
      · obtain ⟨tr, htransfer, rfl⟩ := List.mem_map.mp (h.received ref c hc (hkey ▸ hlock))
        rcases List.mem_append.mp htransfer with htransfer | htransfer
        · obtain ⟨p, hp, rfl⟩ := List.mem_map.mp htransfer
          have hpair := List.any_eq_false.mp hpending.1 p hp
          rw [show getPayerChannel net iter.channels p = some c from hc, Option.any_some, hlock,
            Bool.true_or] at hpair
          exact absurd rfl hpair
        · obtain ⟨w, hw, rfl⟩ := List.mem_map.mp htransfer
          have hwaiting := hpending.2
          rw [Option.mem_toList.mp hw, Option.any_some,
            show iter.channels.get? (waitingRef net w) = some c from hc, Option.any_some,
            hlock] at hwaiting
          cases hwaiting
      · obtain ⟨tr, htransfer, rfl⟩ := List.mem_map.mp (h.sent ref c hc (hkey ▸ hlock))
        obtain ⟨p, hp, rfl⟩ := List.mem_map.mp htransfer
        have hpair := List.any_eq_false.mp hpending.1 p hp
        rw [show getPayeeChannel net iter.channels p = some c from hc, Option.any_some, hlock,
          Bool.or_true] at hpair
        exact absurd rfl hpair

/-- The channels as the node files them; a token network belongs to one registry. -/
structure Placed (net : TokenNetworkRef) (cs : Channels) : Prop where
  filed : ∀ ref c, cs.get? ref = some c → Filed ref c
  registry : ∀ ref c, cs.get? ref = some c →
    ref.tokenNetwork.address = net.address → ref.tokenNetwork = net

/-- The task finds the channel over which it forwarded a transfer. -/
theorem Forwarded.payee_eq {routes : List RouteState} {payee : ChannelRef} {msg : SendLockedTransfer}
    (h : Forwarded P cs a2c tr payerC now routes payee c c' msg) (hplaced : Placed net cs)
    (ha2c : ∀ key ref, a2c.get? key = some ref → ref.tokenNetwork.address = key.1)
    (hnetwork : payerC.tokenNetworkAddress = net.address)
    (hstays : ∀ route ∈ routes, ∀ target ∈ route.swaps.get? payerC.ourState.address, target =
      net.address) : channelRef net msg.transfer.balanceProof.channelIdentifier = payee := by
  have hfound := h.found
  obtain ⟨route, hroute, hchannel⟩ := h.route
  obtain ⟨amount, id, -, -, hsend⟩ := h.sent
  obtain ⟨locks, hsent, -⟩ := sendLockedtransfer_ok P hsend
  have htarget : (route.swaps.get? payerC.ourState.address).getD payerC.tokenNetworkAddress =
      net.address := by
    cases hswap : route.swaps.get? payerC.ourState.address with
    | none => exact hnetwork
    | some target => exact hstays route hroute target hswap
  have haddress : payee.tokenNetwork.address = net.address := by
    simp only [routeChannel, Option.bind_eq_bind, Option.bind_eq_some_iff, Option.pure_def,
      Option.some.injEq, Prod.mk.injEq] at hchannel
    obtain ⟨_, -, _, hget, _, -, rfl, -⟩ := hchannel
    exact (ha2c _ _ hget).trans htarget
  have hidentifier : msg.transfer.balanceProof.channelIdentifier = payee.channelIdentifier := by
    rw [BalanceProofUnsignedState.channelIdentifier, hsent.identifier_eq]
    exact (hplaced.filed payee c hfound).identifier
  rw [hidentifier, ← hplaced.registry payee c hfound haddress]
  rfl

/-- The transfer is forwarded over a channel that the task finds again, or kept. -/
theorem Covered.mediated (h : Covered hash cs (incomingRef net tr :: receivedRefs net
      st) (sentRefs net st)) (hr : Mediated P st payerC cs a2c tr now r) (hplaced : Placed net cs)
    (ha2c : ∀ key ref, a2c.get? key = some ref → ref.tokenNetwork.address = key.1)
    (hnetwork : payerC.tokenNetworkAddress = net.address)
    (hstays : ∀ route ∈ st.routes, ∀ target ∈ route.swaps.get? payerC.ourState.address, target
      = net.address) (hwaiting : st.waitingTransfer = none) :
    CoveredBy net hash r.channels (some r.newState) := by
  cases hr with
  | waits =>
    refine h.mono (fun ref href => ?_) fun ref href => href
    simp only [receivedRefs, incoming, hwaiting] at href
    simp only [Option.elim_some, receivedRefs, incoming, List.map_append, List.mem_append]
    simpa [or_comm] using href
  | @forwards payee c c' msg facts =>
    obtain ⟨arguments, hsecrethash, hstep⟩ := facts.step
    have hpayee := facts.payee_eq hplaced ha2c hnetwork fun route hroute =>
      hstays route (List.mem_of_mem_filter hroute)
    have hpartner := hstep.partner_eq rfl
    have hcovered : CoveredBy net hash cs (some { st with
        transfersPair := st.transfersPair ++ [forwardedPair tr c msg] }) := by
      refine h.mono (fun ref href => ?_) (fun ref href => ?_)
      · simp only [Option.elim_some, receivedRefs, incoming, List.map_append, List.mem_append,
          forwardedPair, List.map_cons, List.map_nil, List.mem_cons] at href ⊢
        tauto
      · simp only [Option.elim_some, sentRefs, outgoing, List.map_append, List.mem_append] at href ⊢
        exact .inl href
    refine hcovered.set facts.found (fun hp => .inl (hpartner ▸ hp)) fun _ => .inr ?_
    simp only [Option.elim_some, sentRefs, outgoing, List.map_append, List.mem_append, forwardedPair,
      List.map_cons, List.map_nil, List.mem_singleton]
    exact .inr hpayee.symm

theorem Placed.evolves {A : ChannelRef → NettingChannelState → ChannelOp → Prop}
    (h : Placed net cs) (hev : Evolves P A cs cs') : Placed net cs' := by
  constructor
  · exact hev.forall_channels h.filed fun ref c op es c' hi _ hstep => hi.step hstep
  · exact hev.forall_channels h.registry fun ref c op es c' hi _ _ => hi

theorem Covered.accepted {locks : List EncodedData}
    (h : Covered hash cs (receivedRefs net st) (sentRefs net st))
    (hr : Mediated P st (withTransfer c tr locks) (cs.set ref (withTransfer c tr
      locks)) a2c tr now r) (hplaced : Placed net cs)
    (ha2c : ∀ key ref, a2c.get? key = some ref → ref.tokenNetwork.address = key.1)
    (href : ref.tokenNetwork = net) (found : cs.get? ref = some c)
    (facts : LockedtransferAccepted P c c.partnerState c.ourState tr.balanceProof tr.lock locks)
    (hstays : StaysIn net cs st.routes) (hwaiting : st.waitingTransfer = none) :
    CoveredBy net hash r.channels (some r.newState) := by
  have hfiled := hplaced.filed ref c found
  obtain ⟨es, hstep⟩ := facts.step
  have hop : LockOp ref c (.receiveLockedtransfer tr none) := rfl
  have hplaced' := hplaced.evolves (Evolves.single found hop hstep)
  have hincoming : incomingRef net tr = ref := by
    rw [incomingRef, BalanceProofUnsignedState.channelIdentifier, facts.usable.identifier]
    rw [show c.canonicalIdentifier.channelIdentifier = ref.channelIdentifier from hfiled.identifier, ← href]
    rfl
  have hcovered : Covered hash (cs.set ref (withTransfer c tr locks))
      (incomingRef net tr :: receivedRefs net st)
      (sentRefs net st) := by
    refine Covered.set (h.mono (fun ref href => List.mem_cons_of_mem _ href) fun _ h => h) found
      (fun _ => .inr ?_) fun hp => .inl hp
    rw [hincoming]
    exact List.mem_cons_self
  refine hcovered.mediated hr hplaced' ha2c ?_ ?_ hwaiting
  · rw [← href]
    exact hfiled.network
  · exact fun route hroute => hstays route hroute ref c found

/-- A waiting transfer is forwarded, or waits on. -/
theorem CoveredBy.retried (h : CoveredBy net hash cs (some st)) (hplaced : Placed net cs)
    (ha2c : ∀ key ref, a2c.get? key = some ref → ref.tokenNetwork.address = key.1)
    (hstays : StaysIn net cs st.routes) (hr : Retried P net st cs a2c now r) :
    CoveredBy net hash r.channels (some r.newState) := by
  cases hr with
  | idle => exact h
  | waits hwaiting =>
    refine h.mono (fun ref href => ?_) fun _ href => href
    rw [Option.elim_some, receivedRefs, incoming, hwaiting] at href
    exact href
  | @forwards waiting payerC c c' payee msg hwaiting found facts =>
    have hcovered : Covered hash cs (incomingRef net waiting.transfer ::
        receivedRefs net { st with waitingTransfer := none })
        (sentRefs net { st with waitingTransfer := none }) := by
      refine h.mono (fun ref href => ?_) fun _ href => href
      simp only [Option.elim_some, receivedRefs, incoming, hwaiting, Option.toList_some, List.map_append,
        List.map_cons, List.map_nil, List.mem_append, List.mem_singleton] at href
      simp only [receivedRefs, incoming, List.map_append, List.mem_cons, List.mem_append]
      tauto
    have hmediated : Mediated P { st with waitingTransfer := none } payerC cs a2c
        waiting.transfer now ⟨cs.set payee c', { st with
          transfersPair := st.transfersPair ++ [forwardedPair waiting.transfer c msg]
          waitingTransfer := none }, [.sendLockedTransfer msg]⟩ := .forwards facts
    exact hcovered.mediated hmediated hplaced ha2c (hplaced.filed _ _ found).network
      (fun route hroute => hstays route hroute _ _ found) rfl

theorem CoveredBy.keep {R : MediationPairState → MediationPairState → Prop}
    (h : CoveredBy net hash cs (some st)) (hchannels : StoreRel (Shrinks hash) cs cs')
    (hpairs : List.Forall₂ R st.transfersPair st'.transfersPair)
    (hR : ∀ p p', R p p' → SameTransfers p p')
    (hwaiting : st'.waitingTransfer.map WaitingTransferState.transfer =
      st.waitingTransfer.map WaitingTransferState.transfer) :
    CoveredBy net hash cs' (some st') := by
  refine (h.shrink hchannels).mono (fun ref href => ?_) fun ref href => ?_
  · rwa [Option.elim_some, receivedRefs, incoming_eq hpairs hR hwaiting]
  · rwa [Option.elim_some, sentRefs, outgoing, (SameTransfers.maps hpairs hR).2]

/-- Every reaction of the task keeps the locks of the payment covered. -/
theorem CoveredBy.reaction {sc : PaymentStateChange} {bh : BlockHash}
    {r : Iteration (Option MediatorTransferState)}
    (h : CoveredBy net hash s.channels s.task) (hplaced : Placed net s.channels)
    (ha2c : ∀ key ref, a2c.get? key = some ref → ref.tokenNetwork.address = key.1)
    (traceable : Traceable P net s (.task sc bh))
    (hr : Reaction P net s.channels a2c now s.task sc r) :
    CoveredBy net hash r.channels r.newState := by
  obtain ⟨task, cs, current, height⟩ := s
  cases hr with
  | ignored => exact h
  | initiated hr =>
    cases hr with
    | rejected => exact h
    | accepted found facts _ mediated =>
      refine Covered.accepted ?_ mediated hplaced ha2c rfl found facts traceable rfl
      exact h
  | @block st sc mediate r hr =>
    have hretried := h.retried hplaced ha2c (traceable st rfl) hr.retried
    refine hretried.keep (Shrinks.evolves hr.evolves addsNothing_expires) hr.pairs (fun _ _ hp => hp.same) ?_
    obtain ⟨pairs, hrest⟩ := hr.rest
    rw [hrest, Option.map_map]
    congr 1
    funext w
    exact expiredWaiting_transfer w
  | @refunded st sc r hr =>
    cases hr with
    | rejected => exact h
    | @accepted last c locks es r unknown hlast found facts hmatches _ mediated =>
      obtain ⟨hstays, hrefund⟩ := traceable st rfl
      have hvalid : isValidRefund P sc c c.partnerState c.ourState last.payeeTransfer = .ok locks :=
        (isValidRefund_ok P).mpr ⟨facts, hmatches⟩
      have hwaiting : st.waitingTransfer = none := by
        by_contra hsome
        have hinvalid := hrefund hsome last hlast c found
        rw [hvalid] at hinvalid
        cases hinvalid
      refine Covered.accepted ?_ mediated hplaced ha2c rfl found facts hstays hwaiting
      exact h
  | @learned st sc r _ _ hr =>
    have hsame := hr.same
    obtain ⟨register, -, -, -, evolves⟩ := hr
    have hregister : StoreRel (Shrinks hash) cs _ :=
      Shrinks.evolves (registerOffchainSecret_evolves (P := P) register) fun _ _ _ hop => by rw [hop]; rfl
    exact h.keep (hregister.trans Shrinks.trans (Shrinks.evolves evolves addsNothing_sendsUnlock)) hsame
      (fun _ _ h => h) rfl
  | @learnedOnchain st sc r _ hr =>
    have hsame := hr.same
    obtain ⟨register, -, evolves⟩ := hr
    have hregister : StoreRel (Shrinks hash) cs _ :=
      Shrinks.evolves (registerOnchainSecret_evolves (P := P) register) fun _ _ _ hop => by rw [hop]; rfl
    exact h.keep (hregister.trans Shrinks.trans (Shrinks.evolves evolves addsNothing_sendsUnlock)) hsame
      (fun _ _ h => h) rfl
  | unlocked hr =>
    refine h.keep (Shrinks.evolves hr.unlocking.evolves fun _ _ _ ⟨_, hop⟩ => by rw [hop]; rfl)
      hr.unlocking.pairs
      (fun _ _ hp => hp.same.1) ?_
    rw [hr.rest]
  | expired hr =>
    refine h.keep (Shrinks.evolves hr.evolves fun _ _ _ ⟨_, hop⟩ => by rw [hop]; rfl) hr.pairs
      (fun _ _ hp => hp.same.1) ?_
    rw [hr.rest]

end Covered

/-- The invariant of traceable runs. -/
structure Accounted (net : TokenNetworkRef) (hash : SecretHash) (s : Mediation) : Prop where
  placed : Placed net s.channels
  secrethash_eq : ∀ st ∈ s.task, st.secrethash = hash
  covered : CoveredBy net hash s.channels s.task

section Runs

variable {P : Primitives} {net : TokenNetworkRef} {hash : SecretHash} {s s' : Mediation}
  {label : Input × List Event}

theorem Accounted.start (now : Nat) : Accounted net hash (Mediation.start now) := by
  have habsent : ∀ {ref : ChannelRef} {c : NettingChannelState},
      (Mediation.start now).channels.get? ref = some c → False := nofun
  exact ⟨⟨fun _ _ h => (habsent h).elim, fun _ _ h => (habsent h).elim⟩, nofun,
    ⟨fun _ _ h => (habsent h).elim, fun _ _ h => (habsent h).elim⟩⟩

theorem Placed.next (h : Placed net s.channels) (hnext : s.Next P net hash label s') :
    Placed net s'.channels :=
  ⟨hnext.filed h.filed, hnext.forall_channels (fun _ _ hopened => hopened.registry)
    (fun _ _ _ _ _ hi _ => hi) h.registry⟩

theorem not_pending_of_fresh {e : NettingChannelEndState} (h : FreshEnd e) :
    isLockPending e hash = false := by
  refine Bool.eq_false_iff.mpr fun hpending => ?_
  obtain ⟨lock, hlock⟩ := isLockPending_iff.mp hpending
  cases hlock with
  | locked hl => rw [h.locked] at hl; cases hl
  | unlocked hl => rw [h.unlocked] at hl; cases hl
  | onchain hl => rw [h.onchain] at hl; cases hl

theorem ChannelOp.added_eq_none (h : op.secrethash P ≠ some hash) :
    op.addedByUs ≠ some hash ∧ op.addedByPartner P c ≠ some hash := by
  have hif : ∀ {b : Bool} {k : SecretHash}, some k ≠ some hash →
      (if b = true then some k else none) ≠ some hash := by
    intro b k hk
    split
    · exact hk
    · exact fun h => absurd h.symm (Option.some_ne_none _)
  have hnone : (none : Option SecretHash) ≠ some hash := fun h => absurd h.symm (Option.some_ne_none _)
  cases op with
  | sendLockedtransfer => exact ⟨h, hnone⟩
  | receiveLockedtransfer | receiveRefundtransfer => exact ⟨hnone, hif h⟩
  | _ => exact ⟨hnone, hnone⟩

theorem Accounted.next (h : Accounted net hash s)
    (hnext : s.NextIf P net hash (Traceable P net) label s') : Accounted net hash s' := by
  obtain ⟨traceable, hnext⟩ := hnext
  have hplaced := h.placed.next hnext
  cases hnext with
  | tick => exact ⟨hplaced, h.secrethash_eq, h.covered⟩
  | @opened ref c _ _ fresh =>
    refine ⟨hplaced, h.secrethash_eq, ⟨fun other d hd hpending => ?_, fun other d hd hpending => ?_⟩⟩ <;>
      change (s.channels.set ref c).get? other = some d at hd <;> rw [Dict.get?_set] at hd <;> split at hd
    · cases hd
      rw [not_pending_of_fresh fresh.fresh.partner] at hpending
      cases hpending
    · exact h.covered.received other d hd hpending
    · cases hd
      rw [not_pending_of_fresh fresh.fresh.our] at hpending
      cases hpending
    · exact h.covered.sent other d hd hpending
  | @channel ref c c' op es found step foreign =>
    obtain ⟨hour, hpartner⟩ := ChannelOp.added_eq_none (c := c) foreign
    have hshrinks := Shrinks.step step hour hpartner
    exact ⟨hplaced, h.secrethash_eq, h.covered.shrink (.set Shrinks.refl found hshrinks)⟩
  | removed found =>
    refine ⟨hplaced, h.secrethash_eq, ⟨fun other d hd => ?_, fun other d hd => ?_⟩⟩
    · exact h.covered.received other d (Dict.get?_del_eq_some.mp hd).2
    · exact h.covered.sent other d (Dict.get?_del_eq_some.mp hd).2
  | @task sc bh prng prng' r dispatched order run =>
    obtain ⟨iter, hreaction, -, rfl⟩ := Mediation.Next.reaction run
    have hsecrethash := hreaction.secrethash_eq h.secrethash_eq dispatched
    have hcovered := h.covered.reaction h.placed
      (fun _ _ => Channels.addressesToChannel_network) traceable hreaction
    refine ⟨hplaced, fun st hstate => hsecrethash st (clearIfFinalized_newState hstate), ?_⟩
    rw [clearIfFinalized_channels]
    exact hcovered.cleared hsecrethash

end Runs

/-- In a traceable run a payment without a task has no pending lock in any channel. -/
theorem no_lock_without_task {P : Primitives} {net : TokenNetworkRef} {hash : SecretHash}
    {now : Nat} {log : List (Input × List Event)} {s : Mediation}
    (run : Run (Mediation.NextIf P net hash (Traceable P net))
      (.start now) log s) (ended : s.task = none) {ref : ChannelRef} {c : NettingChannelState}
    (found : s.channels.get? ref = some c) :
    isLockPending c.ourState hash = false ∧ isLockPending c.partnerState hash = false := by
  have haccounted := run.invariant (I := Accounted net hash) (.start now)
    fun _ _ _ h hnext => h.next hnext
  have hcovered := haccounted.covered
  rw [ended] at hcovered
  constructor <;> refine Bool.eq_false_iff.mpr fun hpending => ?_
  · exact absurd (hcovered.sent ref c found hpending) List.not_mem_nil
  · exact absurd (hcovered.received ref c found hpending) List.not_mem_nil

def payerExpires : Input :=
  .task (.receiveLockExpired ⟨2, toyBalanceProof 1 0 0 [], 7, 1⟩) []

/-- The neighbour 3 also has a channel in the token network with the address 10. -/
def swapNeighbours : List (ChannelRef × NettingChannelState) :=
  toyNeighbours 50 50 ++
    [(⟨⟨7, 10⟩, 5⟩, { toyChannelWith 5 3 50 with canonicalIdentifier := ⟨1, 10, 5⟩ })]

def swapInit : ActionInitMediator :=
  { toyInit (toyLockUntil 40 50 7) 50 with
    candidateRouteStates := [{ route := [1, 3, 4], swaps := Dict.empty.set 1 10 }] }

def forwardsOver (canonicalIdentifier : CanonicalIdentifier) (hash : SecretHash) : Event → Bool
  | .sendLockedTransfer message =>
    message.transfer.balanceProof.canonicalIdentifier = canonicalIdentifier ∧
      message.transfer.lock.secrethash = hash
  | _ => false

/-- With a swap the task does not find the channel it forwarded over, and ends
when the payer's lock is gone although its own lock is still pending. -/
theorem swapped_lock_outlives_task :
    ∃ log s ref c, Run (Mediation.Next toyPrimitives toyTokenNetwork 7) (.start 1) log s ∧
      s.task = none ∧ s.channels.get? ref = some c ∧
      (∃ e ∈ log.flatMap Prod.snd, forwardsOver c.canonicalIdentifier 7 e = true) ∧
      isLockPending c.ourState 7 = true := by
  have hexec : (execute (Mediation.next toyPrimitives toyTokenNetwork 7 (fun _ _ => True) 0)
      [.task (.actionInitMediator swapInit) [], .tick 50, .task (.block ⟨50, []⟩) [], payerExpires]
      (opening 1 swapNeighbours)).any (fun finish => finish.2.task.isNone = true ∧
        (finish.2.channels.get? ⟨⟨7, 10⟩, 5⟩).any (fun c =>
          (finish.1.flatMap Prod.snd).any (forwardsOver c.canonicalIdentifier 7) = true ∧
          isLockPending c.ourState 7 = true) = true) = true := by decide +kernel
  have hopened : ∀ entry ∈ swapNeighbours, OpenedAs toyTokenNetwork entry.1 entry.2 := by
    intro entry hentry
    rcases List.mem_append.mp hentry with hentry | hentry
    · exact toyNeighbours_opened _ _ entry hentry
    · rw [List.mem_singleton.mp hentry]
      exact ⟨⟨⟨rfl, rfl, rfl, rfl, rfl, rfl, rfl, rfl, rfl, rfl⟩,
        ⟨rfl, rfl, rfl, rfl, rfl, rfl, rfl, rfl, rfl, rfl⟩, rfl, rfl, rfl⟩, rfl, rfl, by decide,
        fun h => absurd h (by decide)⟩
  have hnodup : [toyRef 1, toyRef 2, ⟨⟨7, 10⟩, 5⟩].Nodup := by decide
  obtain ⟨log, s, hrun, hstate⟩ := opening_run (fun _ _ _ => trivial) hopened hnodup hexec
  obtain ⟨hended, hchannel⟩ := of_decide_eq_true hstate
  obtain ⟨c, hc, hlock⟩ := (Option.any_eq_true _ _).mp hchannel
  obtain ⟨hforward, hpending⟩ := of_decide_eq_true hlock
  exact ⟨log, s, _, c, hrun.mono fun _ _ _ h => h.2, Option.isNone_iff_eq_none.mp hended, hc,
    List.any_eq_true.mp hforward, hpending⟩

/-- No route swaps at all, and there are no refunds. -/
def Plain (s : Mediation) : Input → Prop
  | .task (.actionInitMediator init) _ => ∀ route ∈ init.candidateRouteStates, route.swaps = .empty
  | .task (.block _) _ => ∀ st ∈ s.task, ∀ route ∈ st.routes, route.swaps = .empty
  | .task (.receiveTransferRefund _) _ => False
  | _ => True

instance (s : Mediation) (input : Input) : Decidable (Plain s input) := by
  unfold Plain
  split <;> infer_instance

theorem Plain.traceable {input : Input} (h : Plain s input) : Traceable P net s input := by
  have hstays : ∀ {routes : List RouteState}, (∀ route ∈ routes, route.swaps = .empty) →
      StaysIn net s.channels routes := by
    intro routes hroutes route hroute ref c _ target htarget
    rw [hroutes route hroute] at htarget
    cases htarget
  unfold Traceable
  split
  · exact hstays h
  · exact fun st hstate => hstays (h st hstate)
  · exact h.elim
  · trivial

/-- Both locks expire, and with the last of them the task ends. -/
theorem no_lock_after_expirations :
    ∃ log s, Run (Mediation.NextIf toyPrimitives toyTokenNetwork 7 (Traceable toyPrimitives toyTokenNetwork))
        (.start 1) log s ∧ s.task = none ∧
      ((log.flatMap Prod.snd).any (forwardsOver ⟨1, 9, 2⟩ 7) = true) ∧
      ∃ c, s.channels.get? (toyRef 2) = some c ∧
        isLockPending c.ourState 7 = false ∧ isLockPending c.partnerState 7 = false := by
  have hexec : (execute (Mediation.next toyPrimitives toyTokenNetwork 7 Plain 0)
      [.task (.actionInitMediator (toyInit (toyLockUntil 40 50 7) 50)) [], .tick 50,
        .task (.block ⟨50, []⟩) [], payerExpires] (toyStart 50 50)).any (fun finish =>
      finish.2.task.isNone = true ∧ (finish.1.flatMap Prod.snd).any (forwardsOver ⟨1, 9, 2⟩ 7) = true ∧
        (finish.2.channels.get? (toyRef 2)).isSome = true) = true := by decide +kernel
  obtain ⟨log, s, hplain, hstate⟩ := toyStart_run (fun _ _ _ => trivial) hexec
  obtain ⟨hended, hforward, hchannel⟩ := of_decide_eq_true hstate
  obtain ⟨c, hc⟩ := Option.isSome_iff_exists.mp hchannel
  have hrun : Run (Mediation.NextIf toyPrimitives toyTokenNetwork 7 (Traceable toyPrimitives toyTokenNetwork))
      (.start 1) log s := hplain.mono fun _ _ _ h => ⟨h.1.traceable, h.2⟩
  have hended := Option.isNone_iff_eq_none.mp hended
  exact ⟨log, s, hrun, hended, hforward, c, hc, no_lock_without_task hrun hended hc⟩

end Raiden.Mediator
