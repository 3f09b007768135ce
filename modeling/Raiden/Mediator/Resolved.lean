import Raiden.Mediator.Execution

/-! # What an on-chain registration of the secret resolves

`handle_onchain_secretreveal` registers the secret in every channel of the task
and unlocks a payee only if that payee revealed the secret before and the lock
of its payer is not near its expiration. So the registration itself resolves no
outgoing lock: the theorem says for which locks of the payees an unlock is sent. -/
namespace Raiden.Mediator

open Lib Channel

variable {P : Primitives} {net : TokenNetworkRef} {hash : SecretHash} {cs : Channels}
  {st : MediatorTransferState} {bh : BlockHash} {es : List Event} {now : Nat} {secret : Secret}

/-! ## Which locks the loop over the pairs releases -/

/-- The locks of the payees that are left: those without a pair that was unlocked. -/
def Left (net : TokenNetworkRef) (hash : SecretHash) (now : Nat)
    (cs cs' : Channels) (pairs : List MediationPairState) : Prop :=
  ∀ ref c c', cs.get? ref = some c → cs'.get? ref = some c' →
    (isLockPending c'.ourState hash = true ↔ isLockPending c.ourState hash = true ∧
      ∀ p ∈ pairs, payeeRef net p = ref → ¬Payable net cs now p)

theorem sendUnlock_released {c : NettingChannelState} {messageIdentifier : MessageID}
    {pid : PaymentID} {md : Option AddressMetadata} {sent : NettingChannelState × SendUnlock}
    (h : sendUnlock P c messageIdentifier pid secret hash now md = .ok
      sent) (htracked : Tracked c.ourState) : isLockPending sent.1.ourState hash = false := by
  obtain ⟨-, -, lock, locks, hfacts, hc'⟩ := sendUnlock_ok P h
  rw [hc', htracked.keyed (.of_getLock hfacts.lock_eq)]
  simp [isLockPending, dropLock, delUnclaimedLock]

section Loop

variable {now : Nat} {secret : Secret}

theorem Left.visit {t : Channels} {done : List MediationPairState} {p : MediationPairState}
    (h : Left net hash now cs t done) (hev : Evolves P (SendsUnlock hash) cs t)
    (hfiled : ∀ ref c, cs.get? ref = some c → Filed ref c) :
    Ensures (balanceproofForPair P net now secret hash t p) fun r =>
      Left net hash now cs r.1 (done ++ [p]) := by
  refine (balanceproofForPair_cases t p).mono fun r hr => ?_
  have hpayable : Payable net t now p ↔ Payable net cs now p :=
    payable_congr hev p
  rcases hr with ⟨hkept, rfl⟩ | ⟨hpaid, payee, _, _, _, sent, hpayee, hsent, rfl⟩
  · intro ref c c' hc hc'
    rw [h ref c c' hc hc']
    refine and_congr_right' ⟨fun hdone q hq href => ?_, fun hdone q hq => hdone q (List.mem_append_left _ hq)⟩
    rcases List.mem_append.mp hq with hq | hq
    · exact hdone q hq href
    · rw [List.mem_singleton.mp hq]
      exact fun hp => hkept (hpayable.mpr hp)
  · intro ref c c' hc hc'
    have hfiled' := hev.forall_channels hfiled fun _ _ _ _ _ hi _ hstep => hi.step hstep
    rw [Dict.get?_set] at hc'
    split at hc'
    · next href =>
      cases hc'
      have hreleased := sendUnlock_released hsent (hfiled' _ _ hpayee).our
      refine ⟨fun hpending => absurd hpending (by rw [hreleased]; exact Bool.false_ne_true), fun hleft => ?_⟩
      exact absurd (hpayable.mp hpaid)
        (hleft.2 p (List.mem_append_right _ List.mem_cons_self) href.symm)
    · next href =>
      rw [h ref c c' hc hc']
      refine and_congr_right' ⟨fun hdone q hq hq' => ?_, fun hdone q hq => hdone q (List.mem_append_left _ hq)⟩
      rcases List.mem_append.mp hq with hq | hq
      · exact hdone q hq hq'
      · rw [List.mem_singleton.mp hq] at hq'
        exact absurd hq'.symm href

theorem eventsForBalanceproof_left (hfiled : ∀ ref c, cs.get? ref = some c → Filed ref c)
    (pairs : List MediationPairState) :
    Ensures (eventsForBalanceproof P net cs pairs now secret hash) fun r =>
      Left net hash now cs r.1 pairs := by
  -- the loop keeps what was visited so far; in the end these are the pairs in reverse order
  refine (Ensures.visitReversed (O := fun _ _ _ => True) (I := fun rest t =>
    Evolves P (SendsUnlock hash) cs t ∧ ∃ done, done ++ rest = pairs.reverse ∧
      Left net hash now cs t done) ?_ ?_).mono fun r hr => ?_
  · rintro p rest t ⟨hev, done, hdone, hleft⟩
    refine ((hleft.visit hev hfiled).and (balanceproofForPair_ensures hev p)).mono fun r hr => ?_
    exact ⟨⟨hr.2.1, done ++ [p], by rw [List.append_assoc]; exact hdone, hr.1⟩, trivial⟩
  · refine ⟨.refl, [], rfl, fun ref c c' hc hc' => ?_⟩
    rw [Option.some.inj (hc.symm.trans hc')]
    exact ⟨fun h => ⟨h, nofun⟩, fun h => h.1⟩
  · obtain ⟨-, done, hdone, hleft⟩ := hr.1
    rw [List.append_nil] at hdone
    intro ref c c' hc hc'
    rw [hleft ref c c' hc hc', hdone]
    simp only [List.mem_reverse]

end Loop

/-! ## The step of the task -/

theorem isLockPending_registerOnchain {e e' : NettingChannelEndState}
    (h : registerOnchainSecretEndstate e secret hash now = .ok e') (k : SecretHash) :
    isLockPending e' k = isLockPending e k := by
  rcases registerOnchainSecretEndstate_cases h with rfl | ⟨found, -, hfound, rfl⟩
  · rfl
  · by_cases hk : k = hash
    · subst hk
      rcases hfound with hfound | hfound <;> simp [isLockPending, hfound]
    · simp [isLockPending, dropLock, delUnclaimedLock, Dict.mem_set, Dict.mem_del, hk]

theorem registerOnchainSecret_pending {registered : Channels}
    (h : registerSecret net (fun c => registerOnchainSecret c secret hash now)
      st cs = .ok registered) :
    StoreRel (fun c c' => isLockPending c'.ourState hash = isLockPending c.ourState hash)
      cs registered := by
  intro ref
  have hrel := updateAll_get? (fun _ _ hc => registerOnchainSecret_idem hc) h ref
  split at hrel
  · refine hrel.mono fun c c' hc => ?_
    obtain ⟨our, partner, hour, -, rfl⟩ := registerOnchainSecret_ok.mp hc
    exact isLockPending_registerOnchain hour hash
  · rw [hrel]
    refine .refl (fun _ => ?_) _
    rfl

/-- What the task does with an on-chain reveal of its secret. -/
structure Released (net : TokenNetworkRef) (hash : SecretHash) (now : Nat)
    (cs cs' : Channels) (pairs : List MediationPairState) (es : List Event) : Prop where
  kept : StoreRel (fun c c' => SameIdentity c c' ∧ SameLife c c') cs cs'
  left : Left net hash now cs cs' pairs
  unlocks : ∀ p ∈ pairs, Payable net cs now p → ∃ c unlock,
    getPayeeChannel net cs p = some c ∧ .sendUnlock unlock ∈ es ∧
      unlock.balanceProof.canonicalIdentifier = c.canonicalIdentifier

section Step

variable {reveal : ContractReceiveSecretReveal}
  (hfiled : ∀ ref c, cs.get? ref = some c → Filed ref c)
  (hsecrethash : reveal.secrethash = st.secrethash)

include hfiled hsecrethash

private theorem onchainReveal_ensures :
    Ensures (handleOnchainSecretreveal P net st reveal cs) fun r =>
      ∃ registered paid unlocks, registerSecret net
          (fun c => registerOnchainSecret c reveal.secret st.secrethash reveal.blockNumber) st cs =
            .ok registered ∧ Evolves P (SendsUnlock st.secrethash) registered r.channels ∧
        Left net st.secrethash reveal.blockNumber registered r.channels st.transfersPair ∧
        Visited (Balanced net registered reveal.blockNumber reveal.secret) st.transfersPair paid
          unlocks ∧ ∀ event ∈ unlocks, event ∈ r.events := by
  unfold handleOnchainSecretreveal
  rw [if_pos hsecrethash, hsecrethash]
  refine .bind (Q := fun learned => ∃ registered, registerSecret net
      (fun c => registerOnchainSecret c reveal.secret st.secrethash reveal.blockNumber) st cs =
        .ok registered ∧ learned.channels = registered ∧
      learned.newState.transfersPair = st.transfersPair)
    (Ensures.lift fun learned hlearned => ?_) fun learned hlearned => ?_
  · simp only [setOnchainSecret, seq_ok_iff, pure_eq_ok] at hlearned
    obtain ⟨registered, hregistered, rfl⟩ := hlearned
    exact ⟨registered, hregistered, rfl, rfl⟩
  · obtain ⟨registered, hregistered, hchannels, hpairs⟩ := hlearned
    have hfiled' := (registerOnchainSecret_evolves (P := P) hregistered).forall_channels hfiled
      fun _ _ _ _ _ hi _ hstep => hi.step hstep
    rw [hchannels, hpairs]
    refine .bind ((eventsForBalanceproof_ensures st.transfersPair).and
      (eventsForBalanceproof_left hfiled' st.transfersPair)) fun r hr => .pure ?_
    exact ⟨registered, _, _, hregistered, hr.1.1, hr.2, hr.1.2, fun _ h => List.mem_append_right _ h⟩

theorem onchainReveal_released :
    Ensures (handleOnchainSecretreveal P net st reveal cs) fun r =>
      Released net st.secrethash reveal.blockNumber cs r.channels st.transfersPair r.events := by
  refine (onchainReveal_ensures (P := P) hfiled hsecrethash).mono fun r hr => ?_
  obtain ⟨registered, paid, unlocks, hregistered, hev, hleft, hvisited, hevents⟩ := hr
  have hregister := registerOnchainSecret_evolves (P := P) hregistered
  have hkept₁ := hregister.sameLife fun _ _ _ hop => by rw [hop]; rfl
  have hpayable : ∀ p, Payable net registered reveal.blockNumber p ↔
      Payable net cs reveal.blockNumber p := fun p =>
    and_congr_left' (sendable_congr hkept₁ p)
  have hpending := registerOnchainSecret_pending hregistered
  refine ⟨?_, fun ref c c' hc hc' => ?_, fun p hp hpay => ?_⟩
  · exact hkept₁.trans (fun _ _ _ h h' => ⟨h.1.trans h'.1, h.2.trans h'.2⟩)
      (hev.sameLife SendsUnlock.isLockOp)
  · obtain ⟨c₁, hc₁, hsame⟩ := hpending.get_some' hc
    rw [hleft ref c₁ c' hc₁ hc', hsame]
    simp only [hpayable]
  · obtain ⟨p', -, part, hbalanced, hpart⟩ := exists_mem_of_forall₂ hvisited.each.flip hp
    cases hbalanced with
    | kept hkept => exact absurd ((hpayable p).mpr hpay) hkept
    | @paid unlock c _ _ _ found _ _ ident =>
      obtain ⟨c₀, hc₀, hid, -⟩ := hkept₁.get_some found
      exact ⟨c₀, unlock, hc₀, hevents _ (hpart _ List.mem_cons_self), ident.trans hid.identifier⟩

theorem stateTransition_released {a2c : AddressesToChannel} :
    Ensures (stateTransition P net (some st) (.contractReceiveSecretReveal reveal) cs a2c
      now bh) fun r => Released net st.secrethash reveal.blockNumber cs r.channels st.transfersPair
          r.events := by
  refine .bind (Q := fun iter => Released net st.secrethash reveal.blockNumber
    cs iter.channels st.transfersPair iter.events) ?_ fun iter h => ?_
  · exact .bind (onchainReveal_released hfiled hsecrethash) fun r hr => .pure hr
  · refine .after fun _ => .pure ?_
    rw [clearIfFinalized_channels, clearIfFinalized_events]
    exact h

end Step

/-- The open channels over which the task forwarded hold no lock of it any more;
where one held it before, an unlock was sent. -/
def Resolved (hash : SecretHash) (st : MediatorTransferState) (cs cs' : Channels)
    (es : List Event) : Prop :=
  ∀ p ∈ st.transfersPair, ∀ ref c', cs'.get? ref = some c' →
    c'.canonicalIdentifier = p.payeeTransfer.balanceProof.canonicalIdentifier → getStatus c' = .opened →
      isLockPending c'.ourState hash = false ∧
      ∀ c, cs.get? ref = some c → isLockPending c.ourState hash = true → ∃ unlock,
        .sendUnlock unlock ∈ es ∧ unlock.balanceProof.canonicalIdentifier = c.canonicalIdentifier

/-- The open channels over which the task forwarded that still hold the lock have
a pair whose payee revealed the secret, was not unlocked, and whose payer's lock
is not near its expiration at the block of the registration. -/
def Resolvable (net : TokenNetworkRef) (hash : SecretHash) (now : Nat)
    (st : MediatorTransferState) (cs : Channels) : Prop :=
  ∀ p ∈ st.transfersPair, ∀ ref c, cs.get? ref = some c →
    c.canonicalIdentifier = p.payeeTransfer.balanceProof.canonicalIdentifier → getStatus c = .opened →
      isLockPending c.ourState hash = true →
        ∃ q ∈ st.transfersPair, payeeRef net q = ref ∧ Payable net cs now q

theorem Released.resolved_iff {cs' : Channels}
    (h : Released net hash now cs cs' st.transfersPair es) :
    Resolved hash st cs cs' es ↔ Resolvable net hash now st cs := by
  constructor
  · intro hresolved p hp ref c hc hid hopened hpending
    obtain ⟨c', hc', hsame, hlife⟩ := h.kept.get_some' hc
    have hgone := (hresolved p hp ref c' hc' (hsame.identifier.trans hid)
      (hlife.getStatus_eq.trans hopened)).1
    by_contra hnone
    refine Bool.false_ne_true (hgone.symm.trans ((h.left ref c c' hc hc').mpr ⟨hpending, ?_⟩))
    exact fun q hq href hpayable => hnone ⟨q, hq, href, hpayable⟩
  · intro hresolvable p hp ref c' hc' hid hopened
    obtain ⟨c, hc, hsame, hlife⟩ := h.kept.get_some hc'
    have hpayable := hresolvable p hp ref c hc (hsame.identifier.symm.trans hid)
      (hlife.getStatus_eq.symm.trans hopened)
    refine ⟨Bool.eq_false_iff.mpr fun hpending => ?_, fun c₀ hc₀ hpending => ?_⟩
    · obtain ⟨hbefore, hnone⟩ := (h.left ref c c' hc hc').mp hpending
      obtain ⟨q, hq, href, hpayable⟩ := hpayable hbefore
      exact hnone q hq href hpayable
    · obtain rfl : c₀ = c := Option.some.inj (hc₀.symm.trans hc)
      obtain ⟨q, hq, href, hpayable⟩ := hpayable hpending
      obtain ⟨d, unlock, hd, hmem, hunlock⟩ := h.unlocks q hq hpayable
      rw [getPayeeChannel, href] at hd
      obtain rfl : d = c₀ := Option.some.inj (hd.symm.trans hc)
      exact ⟨unlock, hmem, hunlock⟩

/-- An on-chain reveal resolves the outgoing locks exactly if every payee whose
lock is pending can be unlocked already. -/
theorem onchain_reveal_resolves_iff {now : Nat} {log : List (Input × List Event)}
    {s s' : Mediation} {reveal : ContractReceiveSecretReveal} {bh : BlockHash} {es : List Event}
    (hrun : Run (Mediation.Next P net hash) (.start now) log s) (htask : s.task = some st)
    (hnext : s.Next P net hash (.task (.contractReceiveSecretReveal reveal) bh, es) s') :
    Resolved hash st s.channels s'.channels es ↔
      Resolvable net hash reveal.blockNumber st s.channels := by
  have hregular := Regular.of_run hrun
  have hstate := hregular.secrethash_eq st htask
  cases hnext with
  | @task _ _ prng prng' r dispatched _ run =>
    have hreveal : reveal.secrethash = st.secrethash := dispatched.2.trans hstate.symm
    rw [htask] at run
    have hreleased := stateTransition_released hregular.filed hreveal prng r prng' run
    rw [hstate] at hreleased
    exact hreleased.resolved_iff

/-- The payee revealed the secret in time and was unlocked before the registration. -/
theorem onchain_reveal_after_unlock :
    ∃ log s es s' st,
      Run (Mediation.Next toyPrimitives toyTokenNetwork 7) (.start 1) log s ∧ s.task = some st ∧
      st.transfersPair ≠ [] ∧ s.Next toyPrimitives toyTokenNetwork 7 (registeredAt 20, es) s' ∧
      Resolved 7 st s.channels s'.channels es := by
  have hexec : (execute (Mediation.next toyPrimitives toyTokenNetwork 7 (fun _ _ => True) 0)
      [forwardUntil 400, payeeReveals] (toyStart 500 500)).any (fun done =>
        (done.2.channels.entries.all fun entry => !isLockPending entry.2.ourState 7) &&
        done.2.task.any (fun st => !st.transfersPair.isEmpty) &&
        (done.2.next toyPrimitives toyTokenNetwork 7 (fun _ _ => True) 0 (registeredAt 20)).any fun _ =>
          true) = true := by decide +kernel
  obtain ⟨log, s, hrun, hexec⟩ := toyStart_run (fun _ _ _ => trivial) hexec
  obtain ⟨hfacts, hexec⟩ := Bool.and_eq_true_iff.mp hexec
  obtain ⟨es, s', ⟨-, hnext⟩, -⟩ := Mediation.exists_next hexec
  simp only [Option.any_eq_true, Bool.and_eq_true, List.all_eq_true, Bool.not_eq_true'] at hfacts
  obtain ⟨hreleased, st, htask, hpairs⟩ := hfacts
  have hrun := hrun.mono fun _ _ _ h => h.2
  refine ⟨log, s, es, s', st, hrun, htask, ?_, hnext, ?_⟩
  · rintro hnil
    rw [hnil] at hpairs
    cases hpairs
  · refine (onchain_reveal_resolves_iff hrun htask hnext).mpr fun p hp ref c hc _ _ hpending => ?_
    rw [hreleased (ref, c) (Dict.mem_entries_iff.mpr hc)] at hpending
    cases hpending

/-- A registration at block `n` that leaves a lock of the mediation unresolved. -/
def LeavesLock (n : Nat) : Prop :=
  ∃ log s es s' st,
    Run (Mediation.Next toyPrimitives toyTokenNetwork 7) (.start 1) log s ∧ s.task = some st ∧
    s.Next toyPrimitives toyTokenNetwork 7 (registeredAt n, es) s' ∧
    (∀ p ∈ st.transfersPair, n ≤ p.payeeTransfer.lock.expiration) ∧
    ¬Resolved 7 st s.channels s'.channels es

/-- The run and its next step, the registration at block `n`, are computed; the
payee's channel is open in the end and holds the lock. -/
private theorem not_resolved_of_execute (inputs : List Input) (n : Nat)
    (h : (execute (Mediation.next toyPrimitives toyTokenNetwork 7 (fun _ _ => True) 0) inputs
      (toyStart 500 500)).any (fun done =>
        (done.2.next toyPrimitives toyTokenNetwork 7 (fun _ _ => True) 0 (registeredAt n)).any fun last =>
          done.2.task.any fun st =>
          (st.transfersPair.all fun p => decide (n ≤ p.payeeTransfer.lock.expiration)) &&
          st.transfersPair.any fun p => last.2.channels.entries.any fun entry =>
            decide (entry.2.canonicalIdentifier = p.payeeTransfer.balanceProof.canonicalIdentifier) &&
            decide (getStatus entry.2 = .opened) && isLockPending entry.2.ourState 7) = true) :
    LeavesLock n := by
  obtain ⟨log, s, hrun, h⟩ := toyStart_run (fun _ _ _ => trivial) h
  obtain ⟨es, s', hlast, h⟩ := Mediation.exists_next h
  simp only [Option.any_eq_true, Bool.and_eq_true, List.all_eq_true, List.any_eq_true,
    decide_eq_true_eq] at h
  obtain ⟨st, htask, htimely, p, hp, ⟨ref, c⟩, hc, ⟨hid, hopened⟩, hpending⟩ := h
  refine ⟨log, s, es, s', st, hrun.mono fun _ _ _ h => h.2, htask, hlast.2, htimely,
    fun hresolved => ?_⟩
  have hgone := (hresolved p hp ref c (Dict.mem_entries_iff.mp hc) hid hopened).1
  exact Bool.false_ne_true (hgone.symm.trans hpending)

/-- The lock expires at block 400. The secret is registered at block 20 and no
payee revealed it before; or the payee revealed it at block 395, too near to the
expiration, and it is registered at block 398. Both times the payee's channel is
open and keeps the lock. -/
theorem onchain_reveal_leaves_lock : LeavesLock 20 ∧ LeavesLock 398 := by
  constructor
  · exact not_resolved_of_execute [forwardUntil 400] 20 (by decide +kernel)
  · exact not_resolved_of_execute [forwardUntil 400, .tick 395, payeeReveals] 398 (by decide +kernel)

end Raiden.Mediator
