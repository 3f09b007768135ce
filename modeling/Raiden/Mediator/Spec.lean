import Raiden.Mediator.Transition
import Raiden.Store
import Raiden.Channel.Life

/-! # What the functions of the mediator do

One statement for each function: how the pairs change, which operations it
performs on the channels, and which events it emits, whenever it returns. -/
namespace Raiden.Mediator

open Lib Channel

variable {P : Primitives} {net : TokenNetworkRef} {out : List Event} {p p' : MediationPairState}
  {now revealTimeout exp : Nat} {hash : SecretHash}

/-- The facts behind a transfer that was forwarded over the channel `c`. -/
structure Forwarded (P : Primitives) (cs : Channels) (a2c : AddressesToChannel)
    (payerTransfer : LockedTransferSignedState) (payerChannel : NettingChannelState)
    (now : Nat) (routes : List RouteState) (payee : ChannelRef) (c c' : NettingChannelState)
    (message : SendLockedTransfer) : Prop where
  route : ∃ route ∈ routes, routeChannel cs a2c payerChannel route = some (payee, c)
  sent : ∃ amount msgId,
    MediationFee.getAmountWithoutFees payerTransfer.lock.amount payerChannel c = .ok (some amount) ∧
    isChannelUsableForMediation P c amount (payerTransfer.lock.expiration - now) = true ∧
    sendLockedtransfer P c
      (forwardArguments payerTransfer c.partnerState.address amount msgId) = .ok (c', message)

def forwardedPair (payerTransfer : LockedTransferSignedState) (c : NettingChannelState)
    (message : SendLockedTransfer) : MediationPairState where
  payerTransfer := payerTransfer
  payeeAddress := c.partnerState.address
  payeeTransfer := message.transfer

section Forward

variable {cs : Channels} {a2c : AddressesToChannel}
  {payerTransfer : LockedTransferSignedState} {payerC : NettingChannelState} {now : Nat}

theorem forwardTransferPair_ensures (payee : ChannelRef) (c : NettingChannelState) :
    Ensures (forwardTransferPair P cs payerTransfer payerC payee c now) fun r =>
      ∀ forwarded, r = some forwarded → ∃ amount msgId c' msg,
        MediationFee.getAmountWithoutFees payerTransfer.lock.amount payerC c = .ok (some amount) ∧
        isChannelUsableForMediation P c amount (payerTransfer.lock.expiration - now) = true ∧
        sendLockedtransfer P c
          (forwardArguments payerTransfer c.partnerState.address amount msgId) = .ok (c', msg) ∧
        forwarded = (cs.set payee c', forwardedPair payerTransfer c msg,
          [.sendLockedTransfer msg]) := by
  refine .bind (Ensures.lift fun amount hamount => hamount) fun amount hamount => ?_
  split
  · exact .pure fun _ h => absurd h.symm (Option.some_ne_none _)
  · exact .pure fun _ h => absurd h.symm (Option.some_ne_none _)
  · next amount _ =>
    dsimp only
    split
    · exact .pure fun _ h => absurd h.symm (Option.some_ne_none _)
    · next husable =>
      refine .after fun _ => ?_
      refine .after fun id => ?_
      refine .bind (Ensures.lift fun sent hsent => hsent) fun sent hsent => .pure ?_
      rintro _ ⟨⟩
      exact ⟨amount, id, sent.1, sent.2, hamount, by simpa using husable, hsent, rfl⟩

theorem tryRoutes_ensures (routes : List RouteState) :
    Ensures (tryRoutes P cs a2c payerTransfer payerC now routes)
      fun r => ∀ forwarded, r = some forwarded → ∃ payee c c' msg,
        Forwarded P cs a2c payerTransfer payerC now routes payee c c' msg ∧
        forwarded = (cs.set payee c', forwardedPair payerTransfer c msg,
          [.sendLockedTransfer msg]) := by
  induction routes with
  | nil => exact .pure fun _ h => absurd h.symm (Option.some_ne_none _)
  | cons route routes ih =>
    have hlater : Ensures (tryRoutes P cs a2c payerTransfer payerC
        now routes) fun r => ∀ forwarded, r = some forwarded → ∃ payee c c' msg,
          Forwarded P cs a2c payerTransfer payerC now
            (route :: routes) payee c c' msg ∧
          forwarded = (cs.set payee c', forwardedPair payerTransfer c msg,
            [.sendLockedTransfer msg]) := by
      refine ih.mono fun r hr forwarded heq => ?_
      obtain ⟨payee, c, c', msg, ⟨⟨route', hmem, hchannel⟩, hsent⟩, hf⟩ := hr forwarded heq
      exact ⟨payee, c, c', msg, ⟨⟨route', List.mem_cons_of_mem route hmem, hchannel⟩, hsent⟩, hf⟩
    unfold tryRoutes
    split
    · exact hlater
    · next payee c hchannel =>
      refine .bind (forwardTransferPair_ensures payee c) fun r hr => ?_
      cases r with
      | none => exact hlater
      | some forwarded =>
        refine .pure ?_
        rintro _ ⟨⟩
        obtain ⟨amount, id, c', msg, hfee, husable, hsend, heq⟩ := hr forwarded rfl
        exact ⟨payee, c, c', msg,
          ⟨⟨route, List.mem_cons_self, hchannel⟩, amount, id, hfee, husable, hsend⟩, heq⟩

def candidateRoutes (st : MediatorTransferState) (payerChannel : NettingChannelState)
    (cs : Channels) (a2c : AddressesToChannel) : List RouteState :=
  filterAcceptableRoutes st.routes st.refundedChannels cs a2c
    payerChannel.tokenNetworkAddress payerChannel.ourState.address

/-- A transfer is kept for later or forwarded as a further pair. -/
inductive Mediated (P : Primitives) (st : MediatorTransferState) (payerChannel : NettingChannelState)
    (cs : Channels) (a2c : AddressesToChannel)
    (payerTransfer : LockedTransferSignedState) (now : Nat) :
    Iteration MediatorTransferState → Prop
  | waits : Mediated P st payerChannel cs a2c payerTransfer now
      ⟨cs, { st with waitingTransfer := some { transfer := payerTransfer } }, []⟩
  | forwards {payee : ChannelRef} {c c' : NettingChannelState} {message : SendLockedTransfer}
      (facts : Forwarded P cs a2c payerTransfer payerChannel now
        (candidateRoutes st payerChannel cs a2c) payee c c' message) :
      Mediated P st payerChannel cs a2c payerTransfer now
        ⟨cs.set payee c', { st with
          transfersPair := st.transfersPair ++ [forwardedPair payerTransfer c message] },
        [.sendLockedTransfer message]⟩

theorem mediateTransfer_ensures (st : MediatorTransferState) :
    Ensures (mediateTransfer P st payerC cs a2c payerTransfer now)
      fun r => payerC.partnerState.address = payerTransfer.balanceProof.sender ∧
        Mediated P st payerC cs a2c payerTransfer now r := by
  refine .bind (Ensures.lift fun u hu => assert_eq_ok.mp hu) fun _ hsender => ?_
  refine .bind (tryRoutes_ensures _) fun r hr => ?_
  cases r with
  | none => exact .pure ⟨hsender, .waits⟩
  | some forwarded =>
    obtain ⟨payee, c, c', msg, hfacts, rfl⟩ := hr forwarded rfl
    exact .pure ⟨hsender, .forwards hfacts⟩

end Forward

/-! ## The loops over the pairs -/

/-- Only the states of the pair may have changed. -/
structure SameTransfers (p p' : MediationPairState) : Prop where
  payer : p'.payerTransfer = p.payerTransfer
  address : p'.payeeAddress = p.payeeAddress
  payee : p'.payeeTransfer = p.payeeTransfer

theorem SameTransfers.refl (p : MediationPairState) : SameTransfers p p := ⟨rfl, rfl, rfl⟩

theorem SameTransfers.trans {p'' : MediationPairState} (h : SameTransfers p p')
    (h' : SameTransfers p' p'') : SameTransfers p p'' :=
  ⟨h'.payer.trans h.payer, h'.address.trans h.address, h'.payee.trans h.payee⟩

/-- One visit of `events_for_secretreveal`. -/
inductive Revealed (secret : Secret) (p : MediationPairState) : MediationPairState → List Event → Prop
  | sent {reveal : SendSecretReveal} (known : payeeSecretKnown p.payeeState = true)
      (pending : p.payerState = .payerPending)
      (recipient : reveal.recipient = p.payerTransfer.balanceProof.sender)
      (secret_eq : reveal.secret = secret) :
      Revealed secret p { p with payerState := .payerSecretRevealed } [.sendSecretReveal reveal]
  | kept (h : ¬(payeeSecretKnown p.payeeState = true ∧ p.payerState = .payerPending)) :
      Revealed secret p p []

theorem eventsForSecretreveal_returns (pairs : List MediationPairState) (secret : Secret) :
    Returns (eventsForSecretreveal pairs secret) fun r => Visited (Revealed secret) pairs r.1 r.2 := by
  have hvisit : ∀ p (u : PUnit), Returns (secretrevealForPair secret u p) fun r =>
      Revealed secret p r.2.1 r.2.2 := by
    intro p u
    unfold secretrevealForPair
    split
    · next h =>
      refine .bind (Q := fun _ => True) (fun prng => ⟨_, _, rfl, trivial⟩) fun _ _ => ?_
      exact .pure (.sent h.1 h.2.2 rfl rfl)
    · next h =>
      refine .pure (.kept fun hsend => h ⟨hsend.1, ?_, hsend.2⟩)
      rw [hsend.2]
      rfl
  refine .bind (Returns.visitReversed (I := fun _ _ => True) (O := Revealed secret)
    (fun p _ u _ => (hvisit p u).mono fun _ h => ⟨trivial, h⟩) trivial) fun r hr => ?_
  exact .pure hr.2

/-- The payee can be unlocked: its channel is open, and the lock of the payer is
far enough from its expiration. -/
structure Sendable (net : TokenNetworkRef) (cs : Channels) (now : Nat)
    (p : MediationPairState) : Prop where
  payee : ∃ c, getPayeeChannel net cs p = some c ∧ getStatus c = .opened
  payer : ∃ c, getPayerChannel net cs p = some c ∧
    now + c.revealTimeout < p.payerTransfer.lock.expiration

/-- One visit of `events_for_balanceproof`, seen from the channels before the loop. -/
inductive Balanced (net : TokenNetworkRef) (cs : Channels) (now : Nat)
    (secret : Secret) (p : MediationPairState) : MediationPairState → List Event → Prop
  | paid {unlock : SendUnlock} {c : NettingChannelState}
      (sendable : Sendable net cs now p)
      (known : payeeSecretKnown p.payeeState = true) (unpaid : payeePaid p.payeeState = false)
      (found : getPayeeChannel net cs p = some c)
      (recipient : unlock.recipient = c.partnerState.address) (secret_eq : unlock.secret = secret)
      (identifier : unlock.balanceProof.canonicalIdentifier = c.canonicalIdentifier) :
      Balanced net cs now secret p
        { p with payeeState := .payeeBalanceProof }
        [.sendUnlock unlock, .eventUnlockSuccess p.payerTransfer.paymentIdentifier
          p.payerTransfer.lock.secrethash]
  | kept (h : ¬(Sendable net cs now p ∧ payeeSecretKnown p.payeeState = true ∧
      payeePaid p.payeeState = false)) : Balanced net cs now secret p p []

theorem isSafeToWait_isOk {r : SuccessOrError} (h : isSafeToWait exp revealTimeout now = .ok r) :
    r.isOk = true ↔ now + revealTimeout < exp := by
  simp only [isSafeToWait, seq_ok_iff, assert_eq_ok, exists_const] at h
  obtain ⟨-, -, -, h⟩ := h
  split at h
  · next hsafe =>
    cases h
    exact ⟨fun _ => by omega, fun _ => rfl⟩
  · next hunsafe =>
    cases h
    exact ⟨fun h => (by cases h), fun h => absurd (by omega) hunsafe⟩

theorem isSafeToWait_returns_iff :
    (∃ r, isSafeToWait exp revealTimeout now = .ok r) ↔
      0 < now ∧ 0 < revealTimeout ∧ revealTimeout < exp := by
  constructor
  · rintro ⟨r, h⟩
    simp only [isSafeToWait, seq_ok_iff, assert_eq_ok, exists_const] at h
    exact ⟨h.1, h.2.1, h.2.2.1⟩
  · rintro ⟨hblock, hreveal, hexpiration⟩
    simp only [isSafeToWait, seq_ok_iff, assert_eq_ok, exists_const, hblock, hreveal, hexpiration,
      true_and]
    split
    · exact ⟨_, rfl⟩
    · exact ⟨_, rfl⟩

theorem isSafeToSendBalanceproof_ok {payer : Option NettingChannelState} {safe : Bool}
    (h : isSafeToSendBalanceproof payer p now = .ok safe) :
    safe = true ↔ ∃ c, payer = some c ∧
      now + c.revealTimeout < p.payerTransfer.lock.expiration := by
  cases payer with
  | none =>
    cases h
    simp
  | some c =>
    simp only [isSafeToSendBalanceproof, seq_ok_iff, pure_eq_ok] at h
    obtain ⟨r, hr, rfl⟩ := h
    simpa using isSafeToWait_isOk hr

/-- The operations on our end for a secrethash. -/
def Sends (P : Primitives) (hash : SecretHash) (_ : ChannelRef) (_ : NettingChannelState)
    (op : ChannelOp) : Prop :=
  op.isSend = true ∧ op.secrethash P = some hash

section

variable (ref : ChannelRef) (c : NettingChannelState) (op : ChannelOp)

theorem Sends.isLockOp (h : Sends P hash ref c op) : op.isLockOp = true := by
  cases op with
  | stateChange => cases h.1
  | _ => rfl

def SendsUnlock (hash : SecretHash) (_ : ChannelRef) (_ : NettingChannelState) (op : ChannelOp) :
    Prop :=
  ∃ msgId paymentIdentifier secret now md,
    op = .sendUnlock msgId paymentIdentifier secret hash now md

theorem SendsUnlock.sends (h : SendsUnlock hash ref c op) : Sends P hash ref c op := by
  obtain ⟨_, _, _, _, _, rfl⟩ := h
  exact ⟨rfl, rfl⟩

theorem SendsUnlock.isLockOp (h : SendsUnlock hash ref c op) : op.isLockOp = true := by
  obtain ⟨_, _, _, _, _, rfl⟩ := h
  rfl

end

section Balance

variable {cs t : Channels} {now : Nat} {secret : Secret} {hash : SecretHash}

theorem sendable_congr (h : StoreRel (fun c c' => SameIdentity c c' ∧ SameLife c c') cs t)
    (p : MediationPairState) : Sendable net t now p ↔ Sendable net cs now p := by
  constructor
  · rintro ⟨⟨payee, hpayee, hopened⟩, payer, hpayer, hsafe⟩
    obtain ⟨payee₀, hpayee₀, -, hlife⟩ := h.get_some hpayee
    obtain ⟨payer₀, hpayer₀, -, hlife'⟩ := h.get_some hpayer
    exact ⟨⟨payee₀, hpayee₀, hlife.getStatus_eq ▸ hopened⟩, payer₀, hpayer₀,
      hlife'.revealTimeout ▸ hsafe⟩
  · rintro ⟨⟨payee, hpayee, hopened⟩, payer, hpayer, hsafe⟩
    obtain ⟨payee₁, hpayee₁, -, hlife⟩ := h.get_some' hpayee
    obtain ⟨payer₁, hpayer₁, -, hlife'⟩ := h.get_some' hpayer
    exact ⟨⟨payee₁, hpayee₁, hlife.getStatus_eq.trans hopened⟩, payer₁, hpayer₁,
      by rw [hlife'.revealTimeout]; exact hsafe⟩

/-- What `events_for_balanceproof` asks for before it unlocks a payee. -/
def Payable (net : TokenNetworkRef) (cs : Channels) (now : Nat) (p : MediationPairState) : Prop :=
  Sendable net cs now p ∧ payeeSecretKnown p.payeeState = true ∧
    payeePaid p.payeeState = false

/-- One visit of `events_for_balanceproof`, seen from the channels it starts with. -/
theorem balanceproofForPair_cases (t : Channels) (p : MediationPairState) :
    Ensures (balanceproofForPair P net now secret hash t p) fun r =>
      ¬Payable net t now p ∧ r = (t, p, []) ∨
      Payable net t now p ∧ ∃ c msgId pid md sent,
        getPayeeChannel net t p = some c ∧
        sendUnlock P c msgId pid secret hash now md =
          .ok sent ∧
        r = (t.set (payeeRef net p) sent.1, { p with payeeState := .payeeBalanceProof },
          [.sendUnlock sent.2, .eventUnlockSuccess p.payerTransfer.paymentIdentifier
            p.payerTransfer.lock.secrethash]) := by
  refine .bind (Ensures.lift fun safe hsafe => isSafeToSendBalanceproof_ok hsafe)
    fun safe hsafe => ?_
  cases hpayee : getPayeeChannel net t p with
  | none =>
    refine .pure (.inl ⟨fun h => ?_, rfl⟩)
    obtain ⟨c, hc, -⟩ := h.1.payee
    cases hpayee.symm.trans hc
  | some payee =>
    dsimp only
    split
    · next hcond =>
      refine .after fun id => ?_
      refine .bind (Ensures.lift fun sent hsent => hsent) fun sent hsent => .pure ?_
      refine .inr ⟨⟨⟨⟨payee, hpayee, hcond.1⟩, hsafe.mp hcond.2.2.2⟩, hcond.2.1, hcond.2.2.1⟩, ?_⟩
      exact ⟨payee, _, _, _, sent, rfl, hsent, rfl⟩
    · next hcond =>
      refine .pure (.inl ⟨fun h => hcond ?_, rfl⟩)
      obtain ⟨⟨c, hc, hopened⟩, hpayer⟩ := h.1
      obtain rfl : payee = c := Option.some.inj (hpayee.symm.trans hc)
      exact ⟨hopened, h.2.1, h.2.2, hsafe.mpr hpayer⟩

theorem payable_congr (hev : Evolves P (SendsUnlock hash) cs t) (p : MediationPairState) :
    Payable net t now p ↔ Payable net cs now p :=
  and_congr_left' (sendable_congr (hev.sameLife SendsUnlock.isLockOp) p)

theorem balanceproofForPair_ensures (hev : Evolves P (SendsUnlock hash) cs t)
    (p : MediationPairState) :
    Ensures (balanceproofForPair P net now secret hash t p) fun r =>
      Evolves P (SendsUnlock hash) cs r.1 ∧ Balanced net cs now secret p r.2.1 r.2.2 := by
  refine (balanceproofForPair_cases t p).mono fun r hr => ?_
  rcases hr with ⟨hkept, rfl⟩ | ⟨hpayable, payee, _, _, _, sent, hpayee, hsent, rfl⟩
  · exact ⟨hev, .kept fun h => hkept ((payable_congr hev p).mpr h)⟩
  · refine ⟨hev.step hpayee ⟨_, _, _, _, _, rfl⟩ (Step.sendUnlock hsent), ?_⟩
    obtain ⟨hrecipient, hsecret, lock, locks, hfacts, -⟩ := sendUnlock_ok P hsent
    obtain ⟨payee₀, hpayee₀, hid, -⟩ := (hev.sameLife SendsUnlock.isLockOp).get_some hpayee
    obtain ⟨hsendable, hknown, hunpaid⟩ := (payable_congr hev p).mp hpayable
    exact .paid hsendable hknown hunpaid hpayee₀ (hrecipient.trans hid.partner) hsecret
      (hfacts.identifier_eq.trans hid.identifier)

theorem eventsForBalanceproof_ensures (pairs : List MediationPairState) :
    Ensures (eventsForBalanceproof P net cs pairs now secret hash) fun r =>
      Evolves P (SendsUnlock hash) cs r.1 ∧
        Visited (Balanced net cs now secret) pairs r.2.1 r.2.2 :=
  Ensures.visitReversed (I := fun _ t => Evolves P (SendsUnlock hash) cs t)
    (fun p _ _ hev => balanceproofForPair_ensures hev p) .refl

end Balance

theorem eventsForOnchainSecretreveal_isRegistration (c : NettingChannelState) (secret : Secret)
    (exp : Nat) (bh : BlockHash) :
    ∀ e ∈ eventsForOnchainSecretreveal c secret exp bh, isRegistration e = true := by
  intro e he
  unfold eventsForOnchainSecretreveal at he
  split at he
  · rw [List.mem_singleton.mp he]
    rfl
  · cases he

section Registrations

variable {cs : Channels} {now : Nat} {bh : BlockHash} {secret : Secret}
  {hash : SecretHash} {q : MediationPairState → Bool}

/-! ### Which pairs register, and which one sends the registration -/

section

variable (net : TokenNetworkRef) (cs : Channels)

/-- A pending pair near the expiration of the payer lock, with a known secret. -/
def inDanger (now : Nat) (p : MediationPairState) : Bool :=
  isPendingPair p && (getPayerChannel net cs p).any fun c =>
    decide (p.payerTransfer.lock.expiration ≤ now + c.revealTimeout) &&
      isSecretKnown c.partnerState p.payerTransfer.lock.secrethash

def isPayerClosed (p : MediationPairState) : Bool :=
  isPendingPair p && (getPayerChannel net cs p).any fun c => getStatus c = .closed

def claimsClosed (hash : SecretHash) (p : MediationPairState) : Bool :=
  isPayerClosed net cs p &&
    (getPayerChannel net cs p).any fun c => (getLock c.partnerState hash).isSome

def markIf (q : MediationPairState → Bool) (p : MediationPairState) : MediationPairState :=
  if q p then { p with payerState := .payerWaitingSecretReveal } else p

theorem markIf_of_not (h : q p = false) : markIf q p = p := by
  rw [markIf, h]
  rfl

theorem markIf_same (q : MediationPairState → Bool) (p : MediationPairState) :
    SameTransfers p (markIf q p) := by
  unfold markIf
  split
  · exact ⟨rfl, rfl, rfl⟩
  · exact .refl p

theorem markIf_inDanger (now : Nat)
    (p : MediationPairState) :
    markIf (inDanger net cs now) p = p ∨
      markIf (inDanger net cs now) p =
          { p with payerState := .payerWaitingSecretReveal } ∧
        ∃ c, getPayerChannel net cs p = some c ∧
          isSecretKnown c.partnerState p.payerTransfer.lock.secrethash = true := by
  unfold markIf
  split
  · next h =>
    simp only [inDanger, Bool.and_eq_true, Option.any_eq_true] at h
    obtain ⟨-, c, hc, -, hknown⟩ := h
    exact .inr ⟨rfl, c, hc, hknown⟩
  · exact .inl rfl

/-- The registration for the lock of the payer of a pair, claimed by `claim`. -/
def Registration
    (claim : NettingChannelState → Nat → Prop) (p : MediationPairState) (out : List Event) : Prop :=
  ∃ c secret expiration bh, getPayerChannel net cs p = some c ∧
    claim c expiration ∧ out = eventsForOnchainSecretreveal c secret expiration bh

end

theorem eventsForOnchainSecretrevealIfClosed_first (pairs : List MediationPairState) :
    Ensures (eventsForOnchainSecretrevealIfClosed net cs pairs secret hash bh) fun r =>
      FirstVisited (markIf (isPayerClosed net cs)) (claimsClosed net cs hash)
        (Registration net cs fun c exp =>
          ∃ lock, getLock c.partnerState hash = some lock ∧ exp = lock.expiration)
        (hasSecretRegistrationStarted net cs pairs hash) pairs r.1 r.2 := by
  refine .bind (Ensures.visit_first (fun sent p => ?_) _ pairs) fun r hr => .pure hr
  have hunclaimed : isPayerClosed net cs p = false →
      claimsClosed net cs hash p = false := by
    intro hopen
    rw [claimsClosed, hopen, Bool.false_and]
  unfold closedForPair
  cases hpending : isPendingPair p with
  | false =>
    have hopen : isPayerClosed net cs p = false := by
      rw [isPayerClosed, hpending, Bool.false_and]
    exact .pure (FirstVisited.skip (hunclaimed hopen) (markIf_of_not hopen))
  | true =>
    cases hpayer : getPayerChannel net cs p with
    | none =>
      have hopen : isPayerClosed net cs p = false := by
        rw [isPayerClosed, hpayer, Option.any_none, Bool.and_false]
      exact .pure (FirstVisited.skip (hunclaimed hopen) (markIf_of_not hopen))
    | some c =>
      have hclosed : isPayerClosed net cs p = decide (getStatus c = .closed) := by
        rw [isPayerClosed, hpending, hpayer, Bool.true_and, Option.any_some]
      dsimp only
      split
      · next hstatus =>
        rw [decide_eq_true hstatus] at hclosed
        have hmark : markIf (isPayerClosed net cs) p =
            { p with payerState := .payerWaitingSecretReveal } := by rw [markIf, hclosed, if_pos rfl]
        have hclaims : claimsClosed net cs hash p =
            (getLock c.partnerState hash).isSome := by
          rw [claimsClosed, hclosed, hpayer, Option.any_some, Bool.true_and]
        rw [hclaims, hmark]
        cases sent with
        | true => exact .pure ⟨by simp, rfl, fun _ => rfl, nofun⟩
        | false =>
          cases hget : getLock c.partnerState hash with
          | none => exact .pure ⟨rfl, rfl, fun _ => rfl, nofun⟩
          | some lock =>
            refine .pure ⟨rfl, rfl, fun h => ?_, fun _ _ => ?_⟩
            · rcases h with h | h <;> cases h
            · exact ⟨c, secret, lock.expiration, bh, hpayer, ⟨lock, hget, rfl⟩, rfl⟩
      · next hstatus =>
        rw [decide_eq_false hstatus] at hclosed
        exact .pure (FirstVisited.skip (hunclaimed hclosed) (markIf_of_not hclosed))

theorem eventsForOnchainSecretrevealIfDangerzone_first (pairs : List MediationPairState) :
    Ensures (eventsForOnchainSecretrevealIfDangerzone net cs hash pairs now bh) fun r =>
      FirstVisited (markIf (inDanger net cs now)) (inDanger net cs now)
        (fun p => Registration net cs (fun _ exp => exp = p.payerTransfer.lock.expiration) p)
        (hasSecretRegistrationStarted net cs pairs hash) pairs r.1 r.2 := by
  refine .bind (Ensures.visit_first (fun sent p => ?_) _ pairs) fun r hr => .pure hr
  unfold dangerzoneForPair
  cases hpending : isPendingPair p with
  | false =>
    have hsafe : inDanger net cs now p = false := by
      rw [inDanger, hpending, Bool.false_and]
    exact .pure (FirstVisited.skip hsafe (markIf_of_not hsafe))
  | true =>
    cases hpayer : getPayerChannel net cs p with
    | none =>
      have hsafe : inDanger net cs now p = false := by
        rw [inDanger, hpayer, Option.any_none, Bool.and_false]
      exact .pure (FirstVisited.skip hsafe (markIf_of_not hsafe))
    | some c =>
      refine .bind (Ensures.lift fun safe hsafe => isSafeToWait_isOk hsafe) fun safe hsafe => ?_
      have hdanger : inDanger net cs now p = (!safe.isOk &&
          isSecretKnown c.partnerState p.payerTransfer.lock.secrethash) := by
        rw [inDanger, hpending, hpayer, Bool.true_and, Option.any_some]
        congr 1
        rw [Bool.eq_iff_iff, decide_eq_true_iff, Bool.not_eq_true', ← Bool.not_eq_true, hsafe]
        exact Nat.not_lt.symm
      split
      · next hcond =>
        rw [hcond.1, hcond.2] at hdanger
        have hmark : markIf (inDanger net cs now) p =
            { p with payerState := .payerWaitingSecretReveal } := by rw [markIf, hdanger]; rfl
        rw [hdanger, hmark]
        cases sent with
        | true => exact .pure ⟨rfl, rfl, fun _ => rfl, nofun⟩
        | false =>
          split
          · next h => cases h
          · split
            · refine .pure ⟨rfl, rfl, fun h => ?_, fun _ _ => ⟨c, _, _, _, hpayer, rfl, rfl⟩⟩
              rcases h with h | h <;> cases h
            · exact .throw
      · next hcond =>
        have hnot : inDanger net cs now p = false := by
          rw [hdanger]
          cases hok : safe.isOk with
          | true => rfl
          | false =>
            cases hknown : isSecretKnown c.partnerState p.payerTransfer.lock.secrethash with
            | false => rfl
            | true => exact absurd ⟨hok, hknown⟩ hcond
        exact .pure (FirstVisited.skip hnot (markIf_of_not hnot))

theorem registrations_isRegistration {g : MediationPairState → MediationPairState}
    {claim : MediationPairState → NettingChannelState → Nat → Prop}
    {sent : Bool} {pairs pairs' : List MediationPairState}
    (h : FirstVisited g q (fun p => Registration net cs (claim p) p) sent pairs pairs' out) :
    ∀ e ∈ out, isRegistration e = true := by
  intro e he
  cases sent with
  | true =>
    rw [h.silent rfl] at he
    cases he
  | false =>
    cases hfind : pairs.find? q with
    | none =>
      rw [h.unclaimed hfind] at he
      cases he
    | some p =>
      obtain ⟨c, secret, exp, bh, -, -, rfl⟩ := h.first p rfl hfind
      exact eventsForOnchainSecretreveal_isRegistration _ _ _ _ e he

end Registrations

/-! ## Expirations -/

section Expirations

variable {cs t : Channels} {now : Nat} {hash : SecretHash}

/-- One pair in `events_for_expired_pairs`. -/
inductive PayerExpired (net : TokenNetworkRef) (cs : Channels) (now : Nat)
    (p : MediationPairState) : MediationPairState → Prop
  | expired {c : NettingChannelState} (found : getPayerChannel net cs p = some c)
      (h : getSenderExpirationThreshold p.payerTransfer.lock.expiration ≤ now) :
      PayerExpired net cs now p { p with payerState := .payerExpired }
  | kept : PayerExpired net cs now p p

theorem expiredPair_spec (p : MediationPairState) :
    PayerExpired net cs now p (expiredPair net cs now p).1 := by
  unfold expiredPair
  split
  · next c _ hpayer =>
    split
    · next hexpired => exact .expired hpayer (isLockExpired_ok.mp hexpired).2
    · exact .kept
  · exact .kept

theorem expiredPair_isReport (p : MediationPairState) :
    ∀ e ∈ (expiredPair net cs now p).2, isReport e = true := by
  unfold expiredPair
  split
  · split
    · simp [isReport]
    · simp
  · simp

theorem expiredWaiting_isReport (waiting : WaitingTransferState) :
    ∀ e ∈ (expiredWaiting now waiting).2, isReport e = true := by
  unfold expiredWaiting
  split <;> simp [isReport]

theorem expiredWaiting_transfer (waiting : WaitingTransferState) :
    (expiredWaiting now waiting).1.transfer = waiting.transfer := by
  unfold expiredWaiting
  split <;> rfl

def Expires (hash : SecretHash) (now : Nat) (_ : ChannelRef) (_ : NettingChannelState)
    (op : ChannelOp) : Prop :=
  ∃ md, op = .sendLockExpired hash now md

theorem Expires.sends (ref : ChannelRef) (c : NettingChannelState) (op : ChannelOp)
    (h : Expires hash now ref c op) : Sends P hash ref c op := by
  obtain ⟨md, rfl⟩ := h
  exact ⟨rfl, rfl⟩

/-- One visit of `events_to_remove_expired_locks`. -/
inductive PayeeExpired (p : MediationPairState) : MediationPairState → List Event → Prop
  | expired {out : List Event} (quiet : Silent out) :
      PayeeExpired p { p with payeeState := .payeeExpired } out
  | kept : PayeeExpired p p []

theorem PayeeExpired.same (h : PayeeExpired p p' out) :
    SameTransfers p p' ∧ p'.payerState = p.payerState := by
  cases h <;> exact ⟨⟨rfl, rfl, rfl⟩, rfl⟩

theorem PayeeExpired.isPendingPair (h : PayeeExpired p p' out) (hpending : isPendingPair p' = true) :
    Mediator.isPendingPair p = true := by
  cases h with
  | kept => exact hpending
  | expired =>
    rw [Mediator.isPendingPair, Bool.or_eq_true] at hpending ⊢
    rcases hpending with hpayee | hpayer
    · cases hpayee
    · exact .inr hpayer

theorem ownUnclaimedLock_ok {e : NettingChannelEndState} {r : Option HashTimeLockState}
    (h : ownUnclaimedLock e hash = .ok r) : r = getUnclaimedLock e hash := by
  unfold ownUnclaimedLock at h
  unfold getUnclaimedLock
  cases hlocked : e.secrethashesToLockedlocks.get? hash with
  | none =>
    rw [hlocked] at h
    cases h
    rw [Option.none_or]
  | some lock =>
    rw [hlocked] at h
    simp only [seq_ok_iff, pure_eq_ok] at h
    obtain ⟨_, -, rfl⟩ := h
    rfl

theorem removeExpiredLock_ensures {initial : LockedTransferSignedState}
    (hev : Evolves P (Expires hash now) cs t) (p : MediationPairState) :
    Ensures (removeExpiredLock P net initial hash now t p) fun r =>
      Evolves P (Expires hash now) cs r.1 ∧ PayeeExpired p r.2.1 r.2.2 ∧ NoTransfer r.2.2 := by
  unfold removeExpiredLock
  split
  · exact .pure ⟨hev, .kept, .nil⟩
  · next c hc =>
    refine .bind (Ensures.lift fun r hr => ownUnclaimedLock_ok hr) fun found hfound => ?_
    cases found with
    | none => exact .pure ⟨hev, .kept, .nil⟩
    | some lock =>
      dsimp only
      split
      · next hexpired =>
        refine .bind (Q := fun r => Step P c (.sendLockExpired hash now
            (getAddressMetadata p.payeeAddress initial.routeStates), r.2) r.1 ∧
            Silent r.2 ∧ NoTransfer r.2) ?_ fun r hr => .pure ⟨?_, .expired ?_, ?_⟩
        · intro prng r prng' hrun
          refine ⟨Step.sendLockExpired hfound.symm hexpired.1 prng r prng' hrun, ?_⟩
          rcases sendLockExpired_ensures P c lock _ prng r prng' hrun with rfl | ⟨_, _, -, -, -, rfl⟩
          · exact ⟨.nil, .nil⟩
          · exact ⟨.singleton ⟨rfl, rfl, rfl⟩, .singleton nofun⟩
        · exact hev.step hc ⟨_, rfl⟩ hr.1
        · exact hr.2.1.append (.singleton ⟨rfl, rfl, rfl⟩)
        · exact hr.2.2.append (.singleton nofun)
      · exact .pure ⟨hev, .kept, .nil⟩

theorem eventsToRemoveExpiredLocks_ensures (st : MediatorTransferState) :
    Ensures (eventsToRemoveExpiredLocks P net st cs now) fun r =>
      Evolves P (Expires st.secrethash now) cs r.channels ∧ NoTransfer r.events ∧
        ∃ pairs, r.newState = { st with transfersPair := pairs } ∧
          Visited PayeeExpired st.transfersPair pairs r.events := by
  unfold eventsToRemoveExpiredLocks
  split
  · next hnil =>
    exact .pure ⟨.refl, .nil, [], by rw [← hnil], by rw [hnil]; exact .nil⟩
  · next first rest hpairs =>
    refine .bind (Ensures.visit
      (I := fun _ t => Evolves P (Expires st.secrethash now) cs t)
      (O := fun p p' out => PayeeExpired p p' out ∧ NoTransfer out)
      (fun p _ t hev => removeExpiredLock_ensures hev p) .refl) fun r hr => .pure ⟨hr.1, ?_, _, rfl, ?_⟩
    · intro msg hmem
      obtain ⟨_, _, _, -, hpart, hmem⟩ := hr.2.only _ hmem
      exact hpart.2 msg hmem
    · rw [hpairs]
      exact hr.2.mono fun _ _ _ h => h.1

end Expirations

end Raiden.Mediator
