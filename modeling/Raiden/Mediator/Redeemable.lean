import Raiden.Mediator.Execution

/-! # The mediator pays against a redeemable lock

An unlock for a payee is sent when the lock of the payer is still pending in a
channel that is not being settled, with its secret known and with time left to
register it. The decision of the code looks at block distances only, so this
rests on what holds of every received lock as long as the secret is unknown:
its channel cannot be settled before the lock expires, and the lock stays where
it was put. Neither is checked when a transfer is accepted. -/
namespace Raiden.Mediator

open Lib Channel

variable {payeeAddress : Address} {op : ChannelOp} {ref : ChannelRef}
  {r : Iteration MediatorTransferState} {es : List Event} {k : SecretHash}
  {a2c : AddressesToChannel} {bh : BlockHash} {lock : HashTimeLockState} {event : Nat}
  {change : ReceiveLockExpired} {secret : Secret} {unlock : SendUnlock}

/-! ## Settlement comes after expiration -/

/-- A lock that expires at `expiration` has either expired, or its channel is
not being settled and the settlement window ends later. -/
def Timed (height expiration : Nat) (c : NettingChannelState) : Prop :=
  expiration ≤ height ∨
    c.settleTransaction = none ∧ expiration ≤ (closedBlock c).getD height + c.settleTimeout

section Timed

variable {P : Primitives} {c c' : NettingChannelState} {height height' expiration : Nat}

theorem Timed.mono (h : Timed height expiration c) (hle : height ≤ height') :
    Timed height' expiration c := by
  rcases h with h | ⟨hsettle, h⟩
  · exact .inl (h.trans hle)
  · refine .inr ⟨hsettle, ?_⟩
    cases hclosed : closedBlock c with
    | none =>
      rw [hclosed, Option.getD_none] at h
      rw [Option.getD_none]
      omega
    | some n =>
      rw [hclosed] at h
      exact h

theorem Timed.congr (h : Timed height expiration c) (hclosed : closedBlock c' = closedBlock c)
    (hsettle : c'.settleTransaction = c.settleTransaction)
    (htimeout : c'.settleTimeout = c.settleTimeout) : Timed height expiration c' := by
  unfold Timed
  rw [hclosed, hsettle, htimeout]
  exact h

theorem Timed.sameLife (h : Timed height expiration c) (hlife : SameLife c c') :
    Timed height expiration c' :=
  h.congr (by unfold closedBlock; rw [hlife.close]) hlife.settle hlife.settleTimeout

theorem closedBlock_setFinished (c : NettingChannelState) (now : Nat) :
    (setFinished c.closeTransaction now).bind TransactionExecutionStatus.finishedBlockNumber =
        closedBlock c ∨
      (setFinished c.closeTransaction now).bind TransactionExecutionStatus.finishedBlockNumber =
        some now ∧ (closedBlock c).getD 0 = 0 := by
  unfold closedBlock setFinished
  cases c.closeTransaction with
  | none => exact .inr ⟨rfl, rfl⟩
  | some t =>
    dsimp only
    split
    · exact .inl rfl
    · next hset =>
      refine .inr ⟨rfl, ?_⟩
      cases hfinished : t.finishedBlockNumber with
      | none => simp [hfinished]
      | some n =>
        rw [hfinished] at hset
        cases n with
        | zero => simp [hfinished]
        | succ n => simp [isSet] at hset

/-- A channel operation keeps a lock timed, because events come in block order
and the settlement waits for the settlement window. -/
theorem Timed.step {s : Mediation} (h : Timed s.height expiration c) (hstep : Step P c (op, es) c')
    (hheight : s.blockNumber ≤ s.height) (order : s.inOrder (eventBlock op)) (lawful : s.lawful P c op) :
    Timed ((eventBlock op).getD s.height) expiration c' := by
  have hle := order.height_le
  have hpassed : ∀ {n}, closedBlock c = some n → n + c.settleTimeout < (eventBlock op).getD s.height →
      expiration ≤ (eventBlock op).getD s.height := by
    intro n hclosed hn
    rcases h with h | ⟨-, h⟩
    · omega
    · rw [hclosed, Option.getD_some] at h
      omega
  cases hstep.cases with
  | lock step =>
    rw [step.rest]
    exact h.mono hle
  | stateChange heq frame _ =>
    subst heq
    have htimeout := frame.life.settleTimeout
    cases frame.life.step with
    | same close settle => exact (h.mono hle).congr (by unfold closedBlock; rw [close]) settle htimeout
    | closing prior close settle =>
      refine (h.mono hle).congr ?_ settle htimeout
      rw [prior]
      unfold closedBlock
      rw [close]
      rfl
    | @closed act hchange close settle =>
      subst hchange
      change s.height ≤ act.blockNumber at hle
      change Timed act.blockNumber expiration c'
      have hclosed : closedBlock c' = (setFinished c.closeTransaction act.blockNumber).bind
          TransactionExecutionStatus.finishedBlockNumber := by
        rw [closedBlock, close]
      rcases closedBlock_setFinished c act.blockNumber with hkept | ⟨hnew, hzero⟩
      · exact (h.mono hle).congr (hclosed.trans hkept) settle htimeout
      · rcases h with h | ⟨hsettle, h⟩
        · exact .inl (h.trans hle)
        · refine .inr ⟨settle.trans hsettle, ?_⟩
          rw [hclosed, hnew, Option.getD_some, htimeout]
          cases hc : closedBlock c with
          | none =>
            rw [hc, Option.getD_none] at h
            omega
          | some n =>
            rw [hc, Option.getD_some] at h hzero
            omega
    | @settling act n hchange mined passed _ _ =>
      subst hchange
      have hblock : act.blockNumber = s.blockNumber := lawful
      exact .inl (hpassed mined (by omega))
    | @settled act hchange locks _ _ =>
      subst hchange
      rcases lawful with hempty | ⟨n, hn, hlate⟩
      · exact absurd hempty locks
      · exact .inl (hpassed hn hlate)

end Timed

/-- A received lock that can be claimed once the secret is known. -/
structure Secured (hash : SecretHash) (now height : Nat) (lock : HashTimeLockState)
    (c : NettingChannelState) : Prop where
  timed : Timed height lock.expiration c
  held : now < lock.expiration →
    c.partnerState.secrethashesToLockedlocks.get? hash = some lock ∧
      isSecretKnown c.partnerState hash = false

/-- While the secret is unknown every received lock is secured and no payee has
revealed it; afterwards the payees that could not be unlocked when they revealed
it never can be. -/
structure Guarded (net : TokenNetworkRef) (hash : SecretHash) (now height : Nat)
    (cs : Channels) (st : MediatorTransferState) : Prop where
  secrethash_eq : st.secrethash = hash
  secured : st.secret = none → ∀ transfer ∈ incoming st, ∀ c,
    cs.get? (incomingRef net transfer) = some c →
      Secured hash now height transfer.lock c
  unrevealed : st.secret = none → ∀ p ∈ st.transfersPair, payeeSecretKnown p.payeeState = false
  stuck : st.secret ≠ none → ∀ p ∈ st.transfersPair, p.payeeState = .payeeSecretRevealed →
    ¬Sendable net cs now p

def IsPayerRef (net : TokenNetworkRef) (st : MediatorTransferState) (ref : ChannelRef) : Prop :=
  ∃ p ∈ st.transfersPair, payerRef net p = ref

/-- What happens to a channel while nothing is done for the secrethash. -/
structure Undisturbed (payer : Prop) (hash : SecretHash) (height height' : Nat)
    (c c' : NettingChannelState) : Prop where
  locks : SameLocksAt hash c.partnerState c'.partnerState
  revealTimeout : payer → c.revealTimeout ≤ c'.revealTimeout
  opened : getStatus c' = .opened → getStatus c = .opened
  timed : ∀ expiration, Timed height expiration c → Timed height' expiration c'

section Environment

variable {P : Primitives} {net : TokenNetworkRef} {hash : SecretHash}
  {now now' height height' : Nat} {cs cs' : Channels}
  {st : MediatorTransferState} {c c' : NettingChannelState} {payer : Prop}

theorem Undisturbed.refl (hle : height ≤ height') (c : NettingChannelState) :
    Undisturbed payer hash height height' c c :=
  ⟨.refl _ _, fun _ => Nat.le_refl _, id, fun _ h => h.mono hle⟩

theorem Secured.undisturbed (h : Secured hash now height lock c)
    (hle : now ≤ now') (hc : Undisturbed payer hash height height' c c') :
    Secured hash now' height' lock c' := by
  refine ⟨hc.timed _ h.timed, fun hlt => ?_⟩
  obtain ⟨hlocked, hunknown⟩ := h.held (by omega)
  exact ⟨hc.locks.locked.trans hlocked, hc.locks.isSecretKnown_eq.trans hunknown⟩

/-- The environment cannot make a payee payable again. -/
theorem Guarded.undisturbed (h : Guarded net hash now height cs st) (hle : now ≤ now')
    (hchannels : ∀ ref ∈ secretRefs net st, ∀ c', cs'.get? ref = some c' →
      ∃ c, cs.get? ref = some c ∧ Undisturbed (IsPayerRef net st ref) hash height height' c c') :
    Guarded net hash now' height' cs' st := by
  refine ⟨h.secrethash_eq, fun hsecret transfer ht c' hc' => ?_, h.unrevealed,
    fun hsecret p hp hrevealed hsend => h.stuck hsecret p hp hrevealed ?_⟩
  · obtain ⟨c, hc, hrel⟩ := hchannels _ (incomingRef_mem ht) c' hc'
    exact (h.secured hsecret transfer ht c hc).undisturbed hle hrel
  · obtain ⟨⟨payee', hpayee', hopened⟩, payer', hpayer', hsafe⟩ := hsend
    obtain ⟨payee, hpayee, hrel⟩ := hchannels _ (payeeRef_mem hp) payee' hpayee'
    obtain ⟨payer, hpayer, hrel'⟩ := hchannels _ (payerRef_mem hp) payer' hpayer'
    have hreveal := hrel'.revealTimeout ⟨p, hp, rfl⟩
    exact ⟨⟨payee, hpayee, hrel.opened hopened⟩, payer, hpayer, by omega⟩

end Environment

/-- The operation of accepting a transfer adds its lock under a secrethash that is
not pending, and the lock expires within the settlement window. -/
structure Acceptable (P : Primitives) (s : Mediation) (c : NettingChannelState) (op : ChannelOp)
    (lock : HashTimeLockState) : Prop where
  fresh : NoReuse P c op
  timely : (op.addedByPartner P c).isSome = true → lock.expiration ≤ s.blockNumber + c.settleTimeout

/-- The reveal timeout of a channel is not lowered while it is the payer channel of
a pair of the mediation, transfers are acceptable, and no message is handled between
an on-chain event and the block of its height. -/
def Prudent (P : Primitives) (net : TokenNetworkRef) (s : Mediation) : Input → Prop
  | .channel ref (.stateChange (.actionChannelSetRevealTimeout _ revealTimeout) _ _) =>
    ∀ st, s.task = some st → IsPayerRef net st ref →
      ∀ c, s.channels.get? ref = some c → c.revealTimeout ≤ revealTimeout
  | .task (.actionInitMediator init) _ =>
    ∀ c, s.channels.get? (channelRef net init.fromHop.channelIdentifier) = some c →
      Acceptable P s c (.receiveLockedtransfer init.fromTransfer init.fromTransfer.payerAddressMetadata)
        init.fromTransfer.lock
  | .task (.receiveTransferRefund refund) _ =>
    ∀ st, s.task = some st → ∀ last, st.transfersPair.getLast? = some last →
      ∀ c, s.channels.get? (channelRef net refund.transfer.balanceProof.channelIdentifier) =
        some c → Acceptable P s c (.receiveRefundtransfer last.payeeTransfer refund) refund.transfer.lock
  | .task (.receiveSecretReveal _) _ => s.height ≤ s.blockNumber
  | _ => True

/-- The invariant of prudent runs. -/
structure Safe (net : TokenNetworkRef) (hash : SecretHash) (s : Mediation) : Prop where
  height : s.blockNumber ≤ s.height
  filed : ∀ ref c, s.channels.get? ref = some c → Filed ref c
  guarded : ∀ st, s.task = some st →
    Guarded net hash s.blockNumber s.height s.channels st

section Steps

variable {P : Primitives} {net : TokenNetworkRef} {hash : SecretHash} {s : Mediation}
  {c c' : NettingChannelState} {st : MediatorTransferState}

/-- An operation for another secrethash. -/
theorem undisturbed_of_step (hs : Safe net hash s) (hstate : s.task = some st) (found : s.channels.get? ref = some c)
    (step : Step P c (op, es) c') (foreign : op.secrethash P ≠ some hash)
    (order : s.inOrder (eventBlock op)) (lawful : s.lawful P c op)
    (prudent : Prudent P net s (.channel ref op)) :
    Undisturbed (IsPayerRef net st ref) hash s.height ((eventBlock op).getD s.height) c c' := by
  refine ⟨(step.sameLocksAt (hs.filed ref c found).our foreign).2, fun hpayer => ?_, step.opened,
    fun expiration h => h.step step hs.height order lawful⟩
  cases step.cases with
  | lock step => rw [step.rest]
  | stateChange heq frame _ =>
    rcases frame.life.revealTimeout with hsame | ⟨ident, hchange⟩
    · rw [hsame]
    · subst heq hchange
      exact prudent st hstate hpayer c found

end Steps

/-! ## The task keeps the locks guarded -/

section Task

variable {P : Primitives} {net : TokenNetworkRef} {hash : SecretHash}
  {now height : Nat} {cs cs' : Channels} {a2c : AddressesToChannel}
  {st st' : MediatorTransferState} {c c' : NettingChannelState}

theorem SameTransfers.sendable {p p' : MediationPairState} (h : SameTransfers p p')
    (hsend : Sendable net cs now p') : Sendable net cs now p := by
  obtain ⟨hopened, hsafe⟩ := hsend
  rw [getPayeeChannel, payeeRef, h.payee] at hopened
  rw [getPayerChannel, payerRef, h.payer] at hsafe
  exact ⟨hopened, hsafe⟩

structure Keeps (hash : SecretHash) (now height : Nat) (c c' : NettingChannelState) : Prop where
  identity : SameIdentity c c'
  life : SameLife c c'
  secured : ∀ lock, Secured hash now height lock c →
    Secured hash now height lock c'

theorem Keeps.refl (c : NettingChannelState) : Keeps hash now height c c :=
  ⟨.refl c, .refl c, fun _ h => h⟩

theorem Keeps.trans {c₁ c₂ c₃ : NettingChannelState} (h : Keeps hash now height c₁ c₂)
    (h' : Keeps hash now height c₂ c₃) : Keeps hash now height c₁ c₃ :=
  ⟨h.identity.trans h'.identity, h.life.trans h'.life, fun lock hl => h'.secured lock (h.secured lock hl)⟩

theorem Secured.partner_eq (h : Secured hash now height lock c) (hlife : SameLife c c')
    (hpartner : c'.partnerState = c.partnerState) : Secured hash now height lock c' :=
  ⟨h.timed.sameLife hlife, fun hlt => by rw [hpartner]; exact h.held hlt⟩

theorem Keeps.sends (hop : Sends P k ref c op) (hstep : Step P c (op, es) c') :
    Keeps hash now height c c' := by
  have hlife := hstep.sameLife (Sends.isLockOp ref c op hop)
  exact ⟨hstep.sameIdentity, hlife, fun _ h => h.partner_eq hlife (hstep.partner_eq hop.1)⟩

theorem storeRel_keeps_of_sends (h : Evolves P (Sends P k) cs cs') :
    StoreRel (Keeps hash now height) cs cs' :=
  h.storeRel Keeps.refl (fun _ _ _ => Keeps.trans) fun _ _ _ _ _ hop hstep => Keeps.sends hop hstep

/-- The partner can only expire a lock that has expired. -/
theorem Keeps.receivesExpiration (hk : change.secrethash = hash)
    (hop : ReceivesExpiration change now ref c op) (hstep : Step P c (op, es) c') :
    Keeps hash now height c c' := by
  obtain ⟨md, rfl⟩ := hop
  have hlife := hstep.sameLife rfl
  refine ⟨hstep.sameIdentity, hlife, fun lock h => ⟨h.timed.sameLife hlife, fun hlt => ?_⟩⟩
  obtain ⟨hlocked, hunknown⟩ := h.held hlt
  cases hstep.outcome with
  | refused => exact ⟨hlocked, hunknown⟩
  | receivedExpired facts =>
    -- the lock that is found is the one that is held, and that one has not expired
    have hfound := facts.lock_eq
    rw [getUnclaimedLock, hk, hlocked, Option.some_or, Option.some.injEq] at hfound
    have hdue := facts.due
    rw [← hfound, getReceiverExpirationThreshold] at hdue
    omega

theorem Keeps.sameLife (h : StoreRel (Keeps hash now height) cs cs') :
    StoreRel (fun c c' => SameIdentity c c' ∧ SameLife c c') cs cs' :=
  h.mono fun _ _ hrel => ⟨hrel.identity, hrel.life⟩

structure AcceptedPrudently (P : Primitives) (net : TokenNetworkRef) (hash : SecretHash)
    (now : Nat) (cs : Channels) (transfer : LockedTransferSignedState)
    (c : NettingChannelState) (locks : List EncodedData) : Prop where
  found : cs.get? (incomingRef net transfer) = some c
  facts : LockedtransferAccepted P c c.partnerState c.ourState transfer.balanceProof transfer.lock locks
  secrethash_eq : transfer.lock.secrethash = hash
  fresh : isLockPending c.partnerState hash = false
  timely : transfer.lock.expiration ≤ now + c.settleTimeout

variable {transfer : LockedTransferSignedState} {locks : List EncodedData}

theorem AcceptedPrudently.keeps (h : AcceptedPrudently P net hash now cs transfer c locks) :
    Keeps hash now height c (withTransfer c transfer locks) := by
  refine ⟨⟨rfl, rfl, rfl, rfl, rfl⟩, ⟨rfl, rfl, rfl, rfl⟩, fun lock hl => ⟨hl.timed, fun hlt => ?_⟩⟩
  have hpending := (not_isLockPending_iff.mp h.fresh).1
  exact absurd (Dict.mem_of_get? ((hl.held hlt).1)) hpending

theorem AcceptedPrudently.secured (h : AcceptedPrudently P net hash now cs transfer c locks)
    (hheight : now ≤ height) :
    Secured hash now height transfer.lock (withTransfer c transfer locks) := by
  obtain ⟨hsettle, hclose⟩ := getStatus_eq_opened.mp h.facts.usable.opened
  refine ⟨.inr ⟨hsettle, ?_⟩, fun _ => ⟨?_, ?_⟩⟩
  · have htimely := h.timely
    have hclosed : closedBlock (withTransfer c transfer locks) = none := by
      show c.closeTransaction.bind _ = none
      rw [hclose]
      rfl
    rw [hclosed, Option.getD_none]
    show _ ≤ height + c.settleTimeout
    omega
  · show (c.partnerState.secrethashesToLockedlocks.set transfer.lock.secrethash transfer.lock).get? _ = _
    rw [h.secrethash_eq]
    exact Dict.get?_set_self _ _ _
  · obtain ⟨-, hunlocked, honchain⟩ := not_isLockPending_iff.mp h.fresh
    exact decide_eq_false (not_or.mpr ⟨hunlocked, honchain⟩)

variable (h : Guarded net hash now height cs st)

include h

/-- The steps of the task that accept no transfer and learn no secret. -/
theorem Guarded.of_quiet (hsecrethash : st'.secrethash = st.secrethash) (hsecret : st'.secret = st.secret)
    (hincoming : ∀ transfer ∈ incoming st', transfer ∈ incoming st)
    (hpairs : ∀ p' ∈ st'.transfersPair, payeeSecretKnown p'.payeeState = true →
      ∃ p ∈ st.transfersPair, SameTransfers p p' ∧ p'.payeeState = p.payeeState)
    (hlife : StoreRel (fun c c' => SameIdentity c c' ∧ SameLife c c') cs cs')
    (hkeeps : st.secret = none → StoreRel (Keeps hash now height) cs cs') :
    Guarded net hash now height cs' st' := by
  refine ⟨hsecrethash.trans h.secrethash_eq, fun hnone transfer ht c' hc' => ?_, fun hnone p' hp' => ?_,
    fun hsome p' hp' hrevealed hsend => ?_⟩
  · rw [hsecret] at hnone
    obtain ⟨c, hc, hrel⟩ := (hkeeps hnone).get_some hc'
    exact hrel.secured _ (h.secured hnone transfer (hincoming transfer ht) c hc)
  · rw [hsecret] at hnone
    by_contra hknown
    rw [Bool.not_eq_false] at hknown
    obtain ⟨p, hp, -, hstate⟩ := hpairs p' hp' hknown
    rw [hstate, h.unrevealed hnone p hp] at hknown
    cases hknown
  · rw [hsecret] at hsome
    obtain ⟨p, hp, hsame, hstate⟩ := hpairs p' hp' (by rw [hrevealed]; rfl)
    refine h.stuck hsome p hp (hstate ▸ hrevealed) ?_
    exact (sendable_congr hlife p).mp (hsame.sendable hsend)

theorem Guarded.block {mediate : Iteration MediatorTransferState}
    (hr : BlockHandled P net st cs a2c now mediate r) :
    Guarded net hash now height r.channels r.newState := by
  obtain ⟨pairs, hrest⟩ := hr.rest
  have hpairs := hr.pairs
  have hkeeps : StoreRel (Keeps hash now height) cs r.channels := by
    obtain ⟨k, hretried⟩ := hr.retried.evolves
    exact (storeRel_keeps_of_sends hretried).trans (fun _ _ _ => Keeps.trans)
      (storeRel_keeps_of_sends (hr.evolves.mono Expires.sends))
  refine h.of_quiet ?_ ?_ ?_ ?_ (Keeps.sameLife hkeeps) fun _ => hkeeps
  · rw [hrest]
    exact hr.retried.secrethash_eq
  · rw [hrest]
    exact hr.retried.secret_eq
  · intro transfer ht
    refine hr.retried.mem_incoming transfer ?_
    rwa [hr.incoming_eq] at ht
  · intro p' hp' hknown
    obtain ⟨p, hp, haged⟩ := exists_mem_of_forall₂ hpairs hp'
    rcases haged.payee with hsame | hexpired
    · rcases hr.retried.mem_pairs p hp with hp | hpending
      · exact ⟨p, hp, haged.same, hsame⟩
      · rw [hsame, hpending.1] at hknown
        cases hknown
    · rw [hexpired] at hknown
      cases hknown

/-- A transfer is accepted and forwarded or kept. -/
theorem Guarded.accepted (hsecret : st.secret = none) (hheight : now ≤ height)
    (ha : AcceptedPrudently P net hash now cs transfer c locks)
    (hr : Mediated P st (withTransfer c transfer locks) (cs.set (incomingRef net
      transfer) (withTransfer c transfer locks)) a2c transfer now r) :
    Guarded net hash now height r.channels r.newState := by
  have hset : StoreRel (Keeps hash now height) cs
      (cs.set (incomingRef net transfer) (withTransfer c transfer locks)) :=
    .set Keeps.refl ha.found ha.keeps
  have hlater : StoreRel (Keeps hash now height)
      (cs.set (incomingRef net transfer) (withTransfer c transfer locks)) r.channels :=
    storeRel_keeps_of_sends hr.evolves
  have hincoming := hr.mem_incoming
  have hsecret' : r.newState.secret = none := by cases hr <;> exact hsecret
  refine ⟨?_, fun _ t ht c' hc' => ?_, fun _ p hp => ?_, fun hsome => absurd hsecret' hsome⟩
  · cases hr <;> exact h.secrethash_eq
  · obtain ⟨c₁, hc₁, hrel₁⟩ := hlater.get_some hc'
    refine hrel₁.secured _ ?_
    rcases hincoming t ht with rfl | ht
    · rw [Dict.get?_set_self] at hc₁
      cases hc₁
      exact ha.secured hheight
    · obtain ⟨c₀, hc₀, hrel₀⟩ := hset.get_some hc₁
      exact hrel₀.secured _ (h.secured hsecret t ht c₀ hc₀)
  · rcases hr.mem_pairs p hp with hp | ⟨hpending, -⟩
    · exact h.unrevealed hsecret p hp
    · rw [hpending]
      rfl

/-! ### Secrets, unlocks and expirations -/

theorem Guarded.learned (hr : Learned P net st cs now secret k payeeAddress r) :
    Guarded net hash now height r.channels r.newState := by
  obtain ⟨-, -, -, hpaid, evolves⟩ := hr
  refine ⟨h.secrethash_eq, nofun, nofun, fun _ p' hp' hrevealed hsend => ?_⟩
  have hlife := evolves.sameLife SendsUnlock.isLockOp
  obtain ⟨p, -, out, hbalanced, -⟩ := exists_mem_of_forall₂ hpaid.each hp'
  cases hbalanced with
  | paid => cases hrevealed
  | kept hkept =>
    refine hkept ⟨(sendable_congr hlife p').mp hsend, ?_, ?_⟩ <;> rw [hrevealed] <;> rfl

theorem Guarded.learnedOnchain (hr : LearnedOnchain P net st cs event secret k r) :
    Guarded net hash now height r.channels r.newState := by
  obtain ⟨register, hpaid, evolves⟩ := hr
  refine ⟨h.secrethash_eq, nofun, nofun, fun _ p' hp' hrevealed hsend => ?_⟩
  have hevolves : Evolves P LockOp cs _ :=
    ((registerOnchainSecret_evolves register).mono fun _ _ _ hop => by rw [hop]; rfl).trans
      (evolves.mono SendsUnlock.isLockOp)
  have hlife := hevolves.sameLife fun _ _ _ hop => hop
  obtain ⟨p, hp, out, hbalanced, -⟩ := exists_mem_of_forall₂ hpaid.each hp'
  cases hbalanced with
  | paid => cases hrevealed
  | kept =>
    by_cases hsecret : st.secret = none
    · have hunknown := h.unrevealed hsecret p' hp
      rw [hrevealed] at hunknown
      cases hunknown
    · exact h.stuck hsecret p' hp hrevealed ((sendable_congr hlife p').mp hsend)

theorem Guarded.payers {R : MediationPairState → MediationPairState → Prop}
    (hrest : st' = { st with transfersPair := st'.transfersPair })
    (hpairs : List.Forall₂ R st.transfersPair st'.transfersPair)
    (hR : ∀ p p', R p p' → SameTransfers p p' ∧ p'.payeeState = p.payeeState)
    (hlife : StoreRel (fun c c' => SameIdentity c c' ∧ SameLife c c') cs cs')
    (hkeeps : st.secret = none → StoreRel (Keeps hash now height) cs cs') :
    Guarded net hash now height cs' st' := by
  refine h.of_quiet (by rw [hrest]) (by rw [hrest]) ?_ ?_ hlife hkeeps
  · rw [incoming_eq hpairs (fun p p' hp => (hR p p' hp).1) (by rw [hrest])]
    exact fun _ ht => ht
  · intro p' hp' _
    obtain ⟨p, hp, hrel⟩ := exists_mem_of_forall₂ hpairs hp'
    exact ⟨p, hp, hR p p' hrel⟩

theorem Guarded.unlocked {change : ReceiveUnlock} (hr : UnlockHandled P net st change cs r)
    (hsane : sanityCheck net r.newState r.channels = .ok ()) :
    Guarded net hash now height r.channels r.newState := by
  refine h.payers hr.rest hr.unlocking.pairs (fun _ _ hp => hp.same) ?_ fun hnone => ?_
  · exact hr.unlocking.evolves.sameLife fun _ _ _ ⟨_, hop⟩ => by rw [hop]; rfl
  · -- without the secret no payer can have paid, so the message was not accepted
    have hsecret : r.newState.secret = none := by rw [hr.rest]; exact hnone
    rw [hr.unpaid fun p hp => (sanityCheck_paid hsane hsecret hp).2]
    exact .refl Keeps.refl cs

theorem Guarded.expired (hk : change.secrethash = hash)
    (hr : LockExpiredHandled P net st change cs now r) :
    Guarded net hash now height r.channels r.newState := by
  have hkeeps : StoreRel (Keeps hash now height) cs r.channels :=
    hr.evolves.storeRel Keeps.refl (fun _ _ _ => Keeps.trans) fun _ _ _ _ _ hop hstep =>
      Keeps.receivesExpiration hk hop hstep
  exact h.payers hr.rest hr.pairs (fun _ _ hp => hp.same) (Keeps.sameLife hkeeps) fun _ => hkeeps

end Task

/-- The lock can still be claimed from the channel. -/
structure Redeemable (hash : SecretHash) (now : Nat) (lock : HashTimeLockState)
    (c : NettingChannelState) : Prop where
  unsettled : getStatus c ≠ .settling ∧ getStatus c ≠ .settled
  pending : getLock c.partnerState hash = some lock
  listed : lock.encoded ∈ c.partnerState.pendingLocks
  known : isSecretKnown c.partnerState hash = true
  time : now + c.revealTimeout < lock.expiration ∨
    isSecretKnownOnchain c.partnerState hash = true

section Unlocks

variable {P : Primitives} {net : TokenNetworkRef} {hash : SecretHash}
  {now height : Nat} {cs : Channels} {st : MediatorTransferState}
  {c c' : NettingChannelState} {lock : HashTimeLockState} {secret : Secret}

theorem getStatus_of_unsettled (h : c.settleTransaction = none) :
    getStatus c ≠ .settling ∧ getStatus c ≠ .settled := by
  unfold getStatus
  rw [h]
  cases c.closeTransaction with
  | none => exact ⟨by decide, by decide⟩
  | some close =>
    dsimp only
    unfold TransactionExecutionStatus.status
    split_ifs
    all_goals exact ⟨by decide, by decide⟩

theorem registerSecretEndstate_held {e : NettingChannelEndState} (secret : Secret)
    (hlocked : e.secrethashesToLockedlocks.get? hash = some lock) :
    getLock (registerSecretEndstate e secret hash) hash = some lock ∧
      isSecretKnown (registerSecretEndstate e secret hash) hash = true := by
  unfold registerSecretEndstate
  rw [hlocked]
  constructor
  · simp [getLock]
  · simp [isSecretKnown]

theorem Secured.redeemable (h : Secured hash now height lock c)
    (hheight : height ≤ now) (hsafe : now + c.revealTimeout < lock.expiration)
    (hlife : SameLife c c')
    (hpartner : c'.partnerState = registerSecretEndstate c.partnerState secret hash)
    (htracked : Tracked c'.partnerState) : Redeemable hash now lock c' := by
  obtain ⟨hlock, hknown⟩ := registerSecretEndstate_held secret (h.held (by omega)).1
  rw [← hpartner] at hlock hknown
  refine ⟨?_, hlock, htracked.pending (.of_getLock hlock), hknown, .inl ?_⟩
  · rcases h.timed with hexpired | ⟨hsettle, -⟩
    · omega
    · exact getStatus_of_unsettled (hlife.settle.trans hsettle)
  · rw [hlife.revealTimeout]
    exact hsafe

/-- The unlocks of an off-chain reveal. -/
theorem Learned.redeemable (hg : Guarded net hash now height cs st)
    (unknown : st.secret = none) (hheight : height ≤ now)
    (hfiled : ∀ ref c, r.channels.get? ref = some c → Filed ref c)
    (h : Learned P net st cs now secret hash payeeAddress r)
    (hmem : .sendUnlock unlock ∈ r.events) :
    ∃ p p' c, (p, p') ∈ st.transfersPair.zip r.newState.transfersPair ∧ SameTransfers p p' ∧
      payeePaid p.payeeState = false ∧ p'.payeeState = .payeeBalanceProof ∧
      unlock.balanceProof.channelIdentifier = p.payeeTransfer.balanceProof.channelIdentifier ∧
      getPayerChannel net r.channels p = some c ∧ Redeemable hash now p.payerTransfer.lock c := by
  obtain ⟨register, hfirst, hrevealed, hpaid, evolves⟩ := h
  rename_i registered final closed revealed paid onchain reveals unlocks
  have hmem' : .sendUnlock unlock ∈ unlocks := by
    simp only [List.mem_append] at hmem
    rcases hmem with ((hmem | hmem) | hmem) | hmem
    · cases (unexpectedReveal_quiet _ _ hmem).1
    · obtain ⟨_, _, _, -, hrev, hpart⟩ := hrevealed.only _ hmem
      cases hrev with
      | sent => simp at hpart
      | kept => cases hpart
    · exact hmem
    · cases registrations_isRegistration hfirst _ hmem
  obtain ⟨x, p', part, hzip, hbalanced, hpart⟩ := hpaid.only _ hmem'
  rw [hfirst.replaced] at hrevealed
  obtain ⟨p, hpzip, hsame⟩ := exists_mem_zip_of_forall₂ (sameTransfers_of_visits hrevealed) hzip
  have hp : p ∈ st.transfersPair := (List.of_mem_zip hpzip).1
  cases hbalanced with
  | kept => cases hpart
  | @paid unlock' payee sendable known unpaid found recipient secret_eq ident =>
    obtain rfl : unlock = unlock' := by simpa using hpart
    have hunknown := hg.unrevealed unknown p hp
    obtain ⟨c₁, hc₁, hsafe⟩ := sendable.payer
    have hpayer : getPayerChannel net registered x = getPayerChannel net registered p := by
      simp only [getPayerChannel, payerRef, hsame.payer]
    rw [hpayer] at hc₁
    rw [hsame.payer] at hsafe
    obtain ⟨c₀, hc₀, rfl⟩ := registerOffchainSecret_get? register (payerRef_mem hp) hc₁
    obtain ⟨c₂, hc₂, hpartner, hlife⟩ := (evolves.storeRel
      (R := fun c c' => c'.partnerState = c.partnerState ∧ SameLife c c')
      (fun c => ⟨rfl, .refl c⟩) (fun _ _ _ h h' => ⟨h'.1.trans h.1, h.2.trans h'.2⟩)
      (fun ref c op es c' hop hstep =>
        ⟨hstep.partner_eq (SendsUnlock.sends (P := P) ref c op hop).1,
          hstep.sameLife (SendsUnlock.isLockOp ref c op hop)⟩)).get_some' hc₁
    have hsecured := hg.secured unknown p.payerTransfer
      (List.mem_append_left _ (List.mem_map_of_mem hp)) c₀ hc₀
    refine ⟨p, _, c₂, hpzip, ⟨hsame.payer, hsame.address, hsame.payee⟩, ?_, rfl, ?_, hc₂, ?_⟩
    · revert hunknown
      cases p.payeeState <;> simp [payeeSecretKnown, payeePaid]
    · obtain ⟨payee', hpayee', hidentity, -⟩ := (evolves.sameLife SendsUnlock.isLockOp).get_some' found
      rw [← hsame.payee]
      calc unlock.balanceProof.channelIdentifier
          = payee.identifier := congrArg CanonicalIdentifier.channelIdentifier ident
        _ = payee'.identifier :=
          (congrArg CanonicalIdentifier.channelIdentifier hidentity.identifier).symm
        _ = x.payeeTransfer.balanceProof.channelIdentifier := (hfiled _ _ hpayee').identifier
    · have hregistered : SameLife c₀ (registerOffchainSecret c₀ secret hash) := ⟨rfl, rfl, rfl, rfl⟩
      exact hsecured.redeemable hheight hsafe (hregistered.trans hlife) hpartner (hfiled _ _ hc₂).partner

/-- An on-chain reveal unlocks nobody: who could be unlocked was when it revealed. -/
theorem LearnedOnchain.quiet (hg : Guarded net hash now height cs st)
    (hevent : now < event) (h : LearnedOnchain P net st cs event secret k r) :
    ∀ e ∈ r.events, isUnlock e = false := by
  obtain ⟨register, hpaid, -⟩ := h
  intro e he
  rcases List.mem_append.mp he with he | he
  · exact (unexpectedReveal_quiet _ e he).1
  · obtain ⟨p, p', part, hzip, hbalanced, hpart⟩ := hpaid.only e he
    have hp := (List.of_mem_zip hzip).1
    cases hbalanced with
    | kept => cases hpart
    | paid sendable known unpaid =>
      exfalso
      by_cases hsecret : st.secret = none
      · rw [hg.unrevealed hsecret p hp] at known
        cases known
      · have hrevealed : p.payeeState = .payeeSecretRevealed := by
          revert known unpaid
          cases p.payeeState <;> simp [payeeSecretKnown, payeePaid]
        refine hg.stuck hsecret p hp hrevealed ?_
        have hlife := (registerOnchainSecret_evolves (P := P) register).sameLife
          fun _ _ _ hop => by rw [hop]; rfl
        obtain ⟨hpayee, payer, hpayer, hsafe⟩ := (sendable_congr hlife p).mp sendable
        exact ⟨hpayee, payer, hpayer, by omega⟩

end Unlocks

section Runs

variable {P : Primitives} {net : TokenNetworkRef} {hash : SecretHash}
  {s s' : Mediation} {label : Input × List Event}

theorem AcceptedPrudently.of_acceptable {c : NettingChannelState} {transfer : LockedTransferSignedState}
    {locks : List EncodedData} (hs : Safe net hash s)
    (hnetwork : ref.tokenNetwork = net) (found : s.channels.get? ref = some c)
    (facts : LockedtransferAccepted P c c.partnerState c.ourState transfer.balanceProof transfer.lock locks)
    (hk : transfer.lock.secrethash = hash)
    (hadded : op.addedByPartner P c = some transfer.lock.secrethash)
    (ha : Acceptable P s c op transfer.lock) :
    ref = incomingRef net transfer ∧
      AcceptedPrudently P net hash s.blockNumber s.channels transfer c locks := by
  have href := (hs.filed ref c found).incomingRef_eq facts hnetwork
  refine ⟨href, href ▸ found, facts, hk, ?_, ha.timely (by rw [hadded]; rfl)⟩
  rw [hk] at hadded
  exact ha.fresh.2 _ hadded

theorem Reaction.guarded {change : PaymentStateChange} {r : Iteration (Option MediatorTransferState)}
    (hs : Safe net hash s) (dispatched : s.dispatches P hash change)
    (prudent : Prudent P net s (.task change bh))
    (h : Reaction P net s.channels s.channels.addressesToChannel s.blockNumber s.task change r)
    (hsane : sanityCheckNewState net r = .ok ()) :
    ∀ st', r.newState = some st' → Guarded net hash s.blockNumber s.height r.channels st' := by
  have hg := hs.guarded
  revert hg prudent dispatched hsane
  generalize htask : s.task = task at h
  intro dispatched prudent hsane hg st' hstate'
  cases h with
  | ignored => exact hg st' hstate'
  | @initiated init _ h =>
    cases h with
    | rejected => cases hstate'
    | @accepted c locks es r found facts _ mediated =>
      cases hstate'
      have hg' : Guarded net hash s.blockNumber s.height s.channels
          { secrethash := init.fromTransfer.lock.secrethash, routes := init.candidateRouteStates } :=
        ⟨dispatched, fun _ t ht => absurd ht List.not_mem_nil, fun _ p hp => absurd hp List.not_mem_nil,
          fun hsome => absurd rfl hsome⟩
      obtain ⟨href, ha⟩ := AcceptedPrudently.of_acceptable hs rfl found facts dispatched
        (addedByPartner_receiveLockedtransfer _ facts) (prudent c found)
      rw [href] at mediated
      exact Guarded.accepted hg' rfl hs.height ha mediated
  | @block st change mediate r h =>
    cases hstate'
    have hblock : change.blockNumber = s.blockNumber := dispatched.2
    rw [hblock] at h
    exact (hg st rfl).block h
  | @refunded st change r h =>
    cases hstate'
    have hgs := hg st rfl
    cases h with
    | rejected => exact hgs
    | @accepted last c locks es r unknown hlast found facts hmatches _ mediated =>
      obtain ⟨href, ha⟩ := AcceptedPrudently.of_acceptable hs rfl found facts dispatched.2
        (addedByPartner_receiveRefundtransfer facts hmatches) (prudent st htask last hlast c found)
      have hg' : Guarded net hash s.blockNumber s.height s.channels
          { st with refundedChannels := st.refundedChannels ++ [c.identifier] } :=
        ⟨hgs.secrethash_eq, hgs.secured, hgs.unrevealed, hgs.stuck⟩
      exact Guarded.accepted hg' unknown hs.height ha mediated
  | @learned st change r _ _ h =>
    cases hstate'
    exact (hg st rfl).learned h
  | @learnedOnchain st change r _ h =>
    cases hstate'
    exact (hg st rfl).learnedOnchain h
  | @unlocked st change r h =>
    cases hstate'
    exact (hg st rfl).unlocked h hsane
  | @expired st change r h =>
    cases hstate'
    exact (hg st rfl).expired dispatched.2 h

theorem Safe.start (now : Nat) : Safe net hash (.start now) :=
  ⟨Nat.le_refl _, fun _ _ h => (by cases h), fun _ h => (by cases h)⟩

/-- A prudent step keeps the invariant. -/
theorem Safe.next (hs : Safe net hash s) (prudent : Prudent P net s label.1)
    (h : s.Next P net hash label s') : Safe net hash s' := by
  have hfiled := h.filed hs.filed
  cases h with
  | @tick n later order =>
    refine ⟨Nat.le_refl _, hfiled, fun st hstate => ?_⟩
    exact (hs.guarded st hstate).undisturbed (Nat.le_of_lt later) fun ref _ c' hc' =>
      ⟨c', hc', .refl order c'⟩
  | @opened ref c _ unused _ =>
    refine ⟨hs.height, hfiled, fun st hstate => ?_⟩
    refine (hs.guarded st hstate).undisturbed (Nat.le_refl _) fun other hother c' hc' => ?_
    rw [Mediation.taskRefs, hstate, Option.elim_some] at unused
    have hne : other ≠ ref := by
      rintro rfl
      exact unused hother
    rw [Dict.get?_set_ne _ _ hne] at hc'
    exact ⟨c', hc', .refl (Nat.le_refl _) c'⟩
  | @channel ref c c' op es found step foreign order lawful =>
    refine ⟨hs.height.trans order.height_le, hfiled, fun st hstate => ?_⟩
    refine (hs.guarded st hstate).undisturbed (Nat.le_refl _) fun other _ d hd => ?_
    rw [Dict.get?_set] at hd
    split at hd
    · next heq =>
      cases hd
      rw [heq]
      exact ⟨c, found, undisturbed_of_step hs hstate found step foreign order lawful prudent⟩
    · exact ⟨d, hd, .refl order.height_le d⟩
  | removed found _ order =>
    refine ⟨hs.height.trans order.height_le, hfiled, fun st hstate => ?_⟩
    refine (hs.guarded st hstate).undisturbed (Nat.le_refl _) fun other _ d hd => ?_
    exact ⟨d, (Dict.get?_del_eq_some.mp hd).2, .refl order.height_le d⟩
  | task dispatched order run =>
    refine ⟨hs.height.trans order.height_le, hfiled, fun st hstate => ?_⟩
    obtain ⟨iter, hreaction, hsane, rfl⟩ := Mediation.Next.reaction run
    rw [clearIfFinalized_channels]
    have hg := hreaction.guarded hs dispatched prudent hsane st (clearIfFinalized_newState hstate)
    exact hg.undisturbed (Nat.le_refl _) fun ref _ c' hc' => ⟨c', hc', .refl order.height_le c'⟩

/-- In every prudent run of a mediation, whenever the task sends an unlock, it is
for the payee of a pair that was not paid before, and the lock of the payer of
that pair is redeemable. -/
theorem unlocks_only_against_redeemable {start : Nat} {log : List (Input × List Event)}
    {change : PaymentStateChange} {bh : BlockHash} {es : List Event} {unlock : SendUnlock}
    (run : Run (Mediation.NextIf P net hash (Prudent P net)) (.start start) log s)
    (prudent : Prudent P net s (.task change bh))
    (step : s.Next P net hash (.task change bh, es) s') (sent : .sendUnlock unlock ∈ es) :
    ∃ st st' p p' c, s.task = some st ∧ s'.task = some st' ∧
      (p, p') ∈ st.transfersPair.zip st'.transfersPair ∧ SameTransfers p p' ∧
      payeePaid p.payeeState = false ∧ p'.payeeState = .payeeBalanceProof ∧
      unlock.balanceProof.channelIdentifier = p.payeeTransfer.balanceProof.channelIdentifier ∧
      getPayerChannel net s'.channels p = some c ∧
      Redeemable hash s'.blockNumber p.payerTransfer.lock c := by
  have hs : Safe net hash s :=
    run.invariant (I := Safe net hash) (.start start) fun _ _ _ hi hstep =>
      hi.next hstep.1 hstep.2
  have hs' := hs.next prudent step
  cases step with
  | task dispatched order run =>
    obtain ⟨iter, hreaction, -, rfl⟩ := Mediation.Next.reaction run
    rw [clearIfFinalized_events] at sent
    rcases hreaction.unlock_cases sent with
      ⟨st, reveal, r, htask, rfl, rfl, hunknown, -, hlearned⟩ |
      ⟨st, reveal, r, htask, rfl, rfl, hlearned⟩
    · have hg := hs.guarded st htask
      have hk : reveal.secrethash P = hash := dispatched.2
      rw [hk] at hlearned
      have hfiled := hs'.filed
      dsimp only at hfiled
      rw [clearIfFinalized_channels] at hfiled
      obtain ⟨p, p', c, hzip, hsame, hunpaid, hpaid, hid, hc, hredeem⟩ :=
        hlearned.redeemable hg hunknown prudent hfiled sent
      have hp' := (List.of_mem_zip hzip).2
      have hsecrethash : r.newState.secrethash = hash := by
        cases hlearned
        exact hg.secrethash_eq
      have hpayer : getPayerChannel net r.channels p' = some c := by
        rw [getPayerChannel, payerRef, hsame.payer]
        exact hc
      refine ⟨st, r.newState, p, p', c, htask, ?_, hzip, hsame, hunpaid, hpaid, hid, ?_, hredeem⟩
      · refine clearIfFinalized_of_pending rfl hp' hpayer ?_
        rw [hsecrethash]
        exact (HasLock.of_getLock hredeem.pending).isLockPending
      · dsimp only
        rw [clearIfFinalized_channels]
        exact hc
    · have hg := hs.guarded st htask
      cases hlearned.quiet hg (order _ rfl).1 _ sent

end Runs

instance (P : Primitives) (s : Mediation) (c : NettingChannelState) (op : ChannelOp)
    (lock : HashTimeLockState) : Decidable (Acceptable P s c op lock) :=
  decidable_of_iff (NoReuse P c op ∧ ((op.addedByPartner P c).isSome = true →
    lock.expiration ≤ s.blockNumber + c.settleTimeout))
      ⟨fun h => ⟨h.1, h.2⟩, fun h => ⟨h.fresh, h.timely⟩⟩

instance (net : TokenNetworkRef) (st : MediatorTransferState) (ref : ChannelRef) :
    Decidable (IsPayerRef net st ref) :=
  inferInstanceAs (Decidable (∃ p ∈ st.transfersPair, payerRef net p = ref))

instance (P : Primitives) (net : TokenNetworkRef) (s : Mediation) (input : Input) :
    Decidable (Prudent P net s input) := by
  unfold Prudent
  induction input using Input.casesOn with
  | channel _ op =>
    induction op using ChannelOp.casesOn with
    | stateChange sc => induction sc using ChannelStateChange.casesOn <;> infer_instance
    | _ => infer_instance
  | task change => induction change using PaymentStateChange.casesOn <;> infer_instance
  | _ => infer_instance

/-- The channel of the payer is closed at block 10 and settled with its lock at block 100. -/
def payerSettles : List Input :=
  [.channel (toyRef 1) (.stateChange (.contractReceiveChannelClosed ⟨10, [], 2, ⟨1, 9, 1⟩⟩) 1 []),
    .channel (toyRef 1)
      (.stateChange (.contractReceiveChannelSettled ⟨100, [], ⟨1, 9, 1⟩, [], 0, [1], 0⟩) 1 []),
    .tick 120]

/-- The channel of the payer is settled before its lock expires, and the payee is
unlocked nevertheless. -/
theorem settled_payer_unlocks_payee :
    ∃ log s es s' unlock st p c,
      Run (Mediation.Next toyPrimitives toyTokenNetwork 7) (.start 1) log s ∧
      s.Next toyPrimitives toyTokenNetwork 7 (payeeReveals, es) s' ∧
      .sendUnlock unlock ∈ es ∧ s'.task = some st ∧ p ∈ st.transfersPair ∧
      p.payeeState = .payeeBalanceProof ∧
      getPayerChannel toyTokenNetwork s'.channels p = some c ∧ getStatus c = .settled := by
  have hexec : (execute (Mediation.next toyPrimitives toyTokenNetwork 7 (fun _ _ => True) 0)
      (forwardUntil 400 :: payerSettles) (toyStart 50 500)).any (fun done =>
        (done.2.next toyPrimitives toyTokenNetwork 7 (fun _ _ => True) 0 payeeReveals).any fun last =>
          last.1.2.any isUnlock && last.2.task.any fun st => st.transfersPair.any fun p =>
            decide (p.payeeState = .payeeBalanceProof) &&
              (getPayerChannel toyTokenNetwork last.2.channels p).any fun c => getStatus c = .settled) =
      true := by decide +kernel
  obtain ⟨log, s, hrun, hexec⟩ := toyStart_run (fun _ _ _ => trivial) hexec
  obtain ⟨es, s', hlast, hexec⟩ := Mediation.exists_next hexec
  simp only [Option.any_eq_true, List.any_eq_true, Bool.and_eq_true, decide_eq_true_eq] at hexec
  obtain ⟨⟨e, he, hunlock⟩, st, hstate, p, hp, hpaid, c, hc, hsettled⟩ := hexec
  obtain ⟨unlock, rfl⟩ := isUnlock_eq_true hunlock
  exact ⟨log, s, es, s', unlock, st, p, c, hrun.mono fun _ _ _ h => h.2, hlast.2, he, hstate, hp,
    hpaid, hc, hsettled⟩

/-- With a settlement window that covers the lock the unlock is sent while the
channel of the payer is open. -/
theorem unlock_against_redeemable_lock :
    ∃ log s es s' unlock,
      Run (Mediation.NextIf toyPrimitives toyTokenNetwork 7 (Prudent toyPrimitives toyTokenNetwork))
        (.start 1) log s ∧
      s.Next toyPrimitives toyTokenNetwork 7 (payeeReveals, es) s' ∧ .sendUnlock unlock ∈ es ∧
      ∃ st st' p p' c, s.task = some st ∧ s'.task = some st' ∧
        (p, p') ∈ st.transfersPair.zip st'.transfersPair ∧ SameTransfers p p' ∧
        payeePaid p.payeeState = false ∧ p'.payeeState = .payeeBalanceProof ∧
        unlock.balanceProof.channelIdentifier = p.payeeTransfer.balanceProof.channelIdentifier ∧
        getPayerChannel toyTokenNetwork s'.channels p = some c ∧
        Redeemable 7 s'.blockNumber p.payerTransfer.lock c := by
  have hexec : (execute (Mediation.next toyPrimitives toyTokenNetwork 7
      (Prudent toyPrimitives toyTokenNetwork) 0) [forwardUntil 400, .tick 120] (toyStart 500 500)).any
      (fun done => (done.2.next toyPrimitives toyTokenNetwork 7 (Prudent toyPrimitives toyTokenNetwork) 0
        payeeReveals).any fun last => last.1.2.any isUnlock) = true := by decide +kernel
  obtain ⟨log, s, hrun, hexec⟩ := toyStart_run (fun _ _ _ => trivial) hexec
  obtain ⟨es, s', ⟨hprudent, hstep⟩, hexec⟩ := Mediation.exists_next hexec
  obtain ⟨e, he, hunlock⟩ := List.any_eq_true.mp hexec
  obtain ⟨unlock, rfl⟩ := isUnlock_eq_true hunlock
  exact ⟨log, s, es, s', unlock, hrun, hstep, he,
    unlocks_only_against_redeemable hrun hprudent hstep he⟩

end Raiden.Mediator
