import Raiden.Mediator.Registration

/-! # The on-chain fallback of a mediator

Near the expiration of a payer lock the mediator registers the secret on-chain.
Whether it did so before is read off the states of the pairs: a marked pair stands
for a registration that was sent. This is so as long as a pair is marked only in a
channel for which the registration is really sent, and a payer is final only when
its lock is gone or has expired. -/
namespace Raiden.Mediator

open Lib Channel

variable {P : Primitives} {net : TokenNetworkRef} {hash : SecretHash} {exp : Nat} {s s' : Mediation}
  {st st' : MediatorTransferState} {bh : BlockHash} {r : Iteration MediatorTransferState}
  {p p' : MediationPairState} {sc : PaymentStateChange} {ref : ChannelRef}
  {log : List (Input × List Event)} {es registrations removals : List Event}
  {removed : List MediationPairState} {e : NettingChannelEndState} {c : NettingChannelState}

/-- No second mediation starts and refunds use a fresh secrethash; when the secret is
learned, a closed payer channel still has its lock; an unlock comes over the channel
of every pair of its sender; and at a block near the expiration no payer channel with
a known secret is being settled. -/
def Claimable (P : Primitives) (net : TokenNetworkRef) (hash : SecretHash) (s : Mediation) :
    Input → Prop
  | .task (.actionInitMediator _) _ => s.task.isSome = true
  | .task (.receiveTransferRefund refund) bh =>
    Unused P net s (.task (.receiveTransferRefund refund) bh)
  | .task (.receiveSecretReveal _) _ => ∀ st ∈ s.task, st.secret = none →
    ∀ p ∈ st.transfersPair, ∀ c, getPayerChannel net s.channels p = some c →
      getStatus c = .closed → isLockPending c.partnerState hash = true
  | .task (.receiveUnlock unlock) _ => ∀ st ∈ s.task, ∀ p ∈ st.transfersPair,
    p.payerTransfer.balanceProof.sender = unlock.balanceProof.sender →
      payerRef net p = unlockRef net unlock
  | .task (.block block) _ => ∀ st ∈ s.task, ∀ t ∈ incoming st,
    ∀ c, s.channels.get? (incomingRef net t) = some c →
      t.lock.expiration ≤ block.blockNumber + c.revealTimeout →
      isSecretKnown c.partnerState hash = true → getStatus c ∈ channelStatesUpToClosed
  | _ => True

section Marked

variable {cs : Channels} {a2c : AddressesToChannel} {now : Nat} {sent : Bool}

/-- No end of a payer has the lock registered on-chain. -/
abbrev Unregistered (hash : SecretHash) (e : NettingChannelEndState) : Prop :=
  isSecretKnownOnchain e hash = false

section

variable (h : BlockHandled P net st cs a2c now mediate r)
  (hw : Watched net now mediate r removed removals registrations)

include h hw

theorem BlockHandled.danger
    (huniform : Uniform hash exp st) (hunregistered : Received (Unregistered hash) net cs st)
    (hmarked : ∀ p ∈ st.transfersPair, isMarked p = true → sent = true)
    (hunsettled : ∀ t ∈ incoming st, ∀ c, cs.get? (incomingRef net t) = some c →
      t.lock.expiration ≤ now + c.revealTimeout → isSecretKnown c.partnerState hash = true
      → getStatus c ∈ channelStatesUpToClosed) (hp : p ∈ removed)
    (hdanger : inDanger net r.channels now p = true) :
    (sent || r.events.any isRegistration) = true := by
  have hframe := h.frame hash
  rw [Bool.or_eq_true]
  rcases hw.first.claimed hp hdanger with hstarted | ⟨q, hq, hdanger, hsent⟩
  · refine .inl ?_
    rcases hasSecretRegistrationStarted_iff.mp hstarted with ⟨q, hq, c', hc', hknown⟩ | ⟨q, hq, hmark⟩
    · -- nothing is registered at the ends of the payers
      obtain ⟨c, hc, hpartner, -, -⟩ := hframe.get_some hc'
      have hnot : Unregistered hash c.partnerState := hunregistered _ (hw.origin h hq).1 c hc
      have hk : mediate.newState.secrethash = hash :=
        h.retried.secrethash_eq.trans huniform.secrethash_eq
      rw [hk, hpartner, hnot] at hknown
      cases hknown
    · rcases (hw.origin h hq).2 with hpending | ⟨q₀, hq₀, -, hpayer⟩
      · simp [isMarked, hpending] at hmark
      · refine hmarked q₀ hq₀ ?_
        rw [isMarked, ← hpayer]
        exact hmark
  · refine .inr ?_
    have hregistered : registrations.any isRegistration = true := by
      refine hsent.emitted fun c' hc' => ?_
      obtain ⟨c, hc, hpartner, hlife, -⟩ := hframe.get_some hc'
      simp only [inDanger, Bool.and_eq_true, hc', Option.any_some, decide_eq_true_eq] at hdanger
      obtain ⟨-, hnear, hknown⟩ := hdanger
      have hmem := (hw.origin h hq).1
      rw [hpartner, (huniform.received _ hmem).1] at hknown
      rw [hlife.revealTimeout] at hnear
      rw [hlife.getStatus_eq]
      exact hunsettled _ hmem c hc hnear hknown
    rw [hw.events_eq, List.any_append, List.any_append, hregistered, Bool.or_true, Bool.true_or]

theorem BlockHandled.isMarked
    (hp' : p' ∈ r.newState.transfersPair) (hmark : Mediator.isMarked p' = true) :
    (∃ p ∈ removed, inDanger net r.channels now p = true) ∨
      ∃ p ∈ st.transfersPair, Mediator.isMarked p = true := by
  rw [hw.pairs_eq, List.map_map] at hp'
  obtain ⟨p, hp, rfl⟩ := List.mem_map.mp hp'
  have hmark' := (expiredPair_spec _).isMarked hmark
  cases hdanger : inDanger net r.channels now p with
  | true => exact .inl ⟨p, hp, hdanger⟩
  | false =>
    rw [markIf_of_not hdanger] at hmark'
    rcases (hw.origin h hp).2 with hpending | ⟨p₀, hp₀, -, hpayer⟩
    · simp [Mediator.isMarked, hpending] at hmark'
    · refine .inr ⟨p₀, hp₀, ?_⟩
      rw [Mediator.isMarked, ← hpayer]
      exact hmark'

end

theorem isLockPending_register (secret : Secret) (h : isLockPending e hash = true) :
    isLockPending (registerSecretEndstate e secret hash) hash = true := by
  unfold registerSecretEndstate
  split
  · exact h
  · simp [isLockPending]

theorem Learned.isMarked {secret : Secret} {payee : Address}
    (h : Learned P net st cs now secret hash payee r)
    (hunregistered : Received (Unregistered hash) net cs st)
    (hmarked : ∀ p ∈ st.transfersPair, Mediator.isMarked p = true → sent = true)
    (hclaims : ∀ p ∈ st.transfersPair, ∀ c, getPayerChannel net cs p = some c →
      getStatus c = .closed → isLockPending c.partnerState hash = true)
    (hp' : p' ∈ r.newState.transfersPair) (hmark : Mediator.isMarked p' = true) :
    (sent || r.events.any isRegistration) = true := by
  cases h with
  | @intro registered _ closed revealed paid onchain _ _ register hfirst hrevealed hpaid _ =>
    obtain ⟨q', hq', -, hpayer⟩ := payer_of_told hrevealed hpaid hp'
    have hmark' : Mediator.isMarked q' = true := by
      rcases hpayer with hpayer | hpayer
      · rw [Mediator.isMarked, ← hpayer]
        exact hmark
      · simp [Mediator.isMarked, hpayer] at hmark
    rw [hfirst.replaced] at hq'
    obtain ⟨q, hq, rfl⟩ := List.mem_map.mp hq'
    have hmarkedBefore : ∀ q ∈ setOffchainRevealState st.transfersPair payee,
        Mediator.isMarked q = true → sent = true := by
      intro q hq hmark
      obtain ⟨p, hp, -, hpayer⟩ := mem_setOffchainRevealState hq
      refine hmarked p hp ?_
      rw [Mediator.isMarked, ← hpayer]
      exact hmark
    rw [Bool.or_eq_true]
    cases hclosed : isPayerClosed net registered q with
    | false =>
      rw [markIf_of_not hclosed] at hmark'
      exact .inl (hmarkedBefore q hq hmark')
    | true =>
      have hclaim : claimsClosed net registered hash q = true := by
        rw [claimsClosed, hclosed, Bool.true_and]
        simp only [isPayerClosed, Bool.and_eq_true, Option.any_eq_true, decide_eq_true_eq] at hclosed
        obtain ⟨-, c', hc', hstatus⟩ := hclosed
        rw [hc', Option.any_some]
        obtain ⟨p, hp, c, hc, rfl⟩ := registered_payer register hq hc'
        have hpending := isLockPending_register secret (hclaims p hp c hc hstatus)
        rw [Option.isSome_iff_ne_none, ne_eq, getLock_eq_none]
        exact fun hgone => by cases hpending.symm.trans hgone
      rcases hfirst.claimed hq hclaim with hstarted | ⟨y, hy, hyclaim, hsent⟩
      · refine .inl ?_
        rcases hasSecretRegistrationStarted_iff.mp hstarted with ⟨y, hy, c', hc', hknown⟩ | ⟨y, hy, hmark⟩
        · obtain ⟨p, hp, c, hc, rfl⟩ := registered_payer register hy hc'
          have hnot : Unregistered hash c.partnerState := hunregistered.payer hp hc
          have hsame : isSecretKnownOnchain (registerSecretEndstate c.partnerState secret hash)
              hash = isSecretKnownOnchain c.partnerState hash := by
            unfold registerSecretEndstate
            split <;> rfl
          cases (hsame.trans hnot).symm.trans hknown
        · exact hmarkedBefore y hy hmark
      · refine .inr ?_
        have hemitted : onchain.any isRegistration = true := hsent.emitted fun c' hc' => by
          simp only [claimsClosed, isPayerClosed, Bool.and_eq_true, hc', Option.any_some,
            decide_eq_true_eq] at hyclaim
          rw [hyclaim.1.2]
          decide
        rw [List.any_append, hemitted, Bool.or_true]

/-- While no registration was seen, marked pairs stand for one that was sent. -/
theorem Reaction.marked {r : Iteration (Option MediatorTransferState)} (htask : s.task = some st)
    (h : Reaction P net s.channels a2c now (some st) sc r)
    (hclaim : Claimable P net hash s (.task sc bh)) (huniform : Uniform hash exp st)
    (hunregistered : Received (Unregistered hash) net s.channels st)
    (hmarked : ∀ p ∈ st.transfersPair, isMarked p = true → sent = true)
    (unseen : isOnchainReveal (.task sc bh) = false) :
    ∀ st' ∈ r.newState, ∀ p' ∈ st'.transfersPair, isMarked p' = true →
      (sent || r.events.any isRegistration) = true := by
  have hsent : ∀ p ∈ st.transfersPair, isMarked p = true →
      (sent || r.events.any isRegistration) = true := fun p hp hmark => by
    rw [hmarked p hp hmark, Bool.true_or]
  intro st' hstate' p' hp' hmark
  cases h with
  | ignored =>
    cases hstate'
    exact hsent p' hp' hmark
  | @block _ _ _ _ h =>
    cases hstate'
    obtain ⟨removed, removals, registrations, hw⟩ := h.watched
    rcases h.isMarked hw hp' hmark with ⟨p, hp, hdanger⟩ | ⟨p, hp, hmark⟩
    · exact h.danger hw huniform hunregistered hmarked (hclaim st htask) hp hdanger
    · exact hsent p hp hmark
  | refunded h =>
    cases hstate'
    cases h with
    | rejected => exact hsent p' hp' hmark
    | accepted _ _ _ _ _ _ mediated =>
      rcases mediated.mem_pairs p' hp' with hp | ⟨-, hpending⟩
      · exact hsent p' hp hmark
      · simp [isMarked, hpending] at hmark
  | learned unknown secrethash_eq h =>
    cases hstate'
    rw [secrethash_eq, huniform.secrethash_eq] at h
    exact h.isMarked hunregistered hmarked (hclaim st htask unknown) hp' hmark
  | learnedOnchain => cases unseen
  | unlocked h =>
    cases hstate'
    obtain ⟨p, hp, hpaid⟩ := exists_mem_of_forall₂ h.unlocking.pairs hp'
    cases hpaid with
    | paid => cases hmark
    | kept => exact hsent p' hp hmark
  | expired h =>
    cases hstate'
    obtain ⟨p, hp, hgone⟩ := exists_mem_of_forall₂ h.pairs hp'
    cases hgone with
    | gone => cases hmark
    | kept => exact hsent p' hp hmark

end Marked

section Final

variable {cs cs' : Channels} {a2c : AddressesToChannel} {now : Nat}

/-- A payer is final only when its lock has expired, or is gone after the secret was learned. -/
def Settled (net : TokenNetworkRef) (hash : SecretHash) (cs : Channels)
    (now : Nat) (st : MediatorTransferState) : Prop :=
  ∀ p ∈ st.transfersPair, payerFinal p.payerState = true →
    p.payerTransfer.lock.expiration < now ∨
      st.secret ≠ none ∧ NoneLeft cs (payerRef net p) hash

/-- Until the secret is learned, the locks that have not expired are held. -/
def Locked (net : TokenNetworkRef) (hash : SecretHash) (expiration : Nat) (cs : Channels)
    (now : Nat) (st : MediatorTransferState) : Prop :=
  st.secret = none → now ≤ expiration →
    Received (fun e => (e.secrethashesToLockedlocks.get? hash).isSome = true) net cs st

theorem receivesExpiration_locked {sc : ReceiveLockExpired} {c' : NettingChannelState}
    {op : ChannelOp} (hk : sc.secrethash = hash) (hx : ExpiresAt hash exp c.partnerState)
    (hop : ReceivesExpiration sc now ref c op) (hstep : Step P c (op, es) c')
    (htime : now ≤ exp) : c'.partnerState = c.partnerState := by
  obtain ⟨md, rfl⟩ := hop
  cases hstep.outcome with
  | refused => rfl
  | @receivedExpired _ _ _ found _ facts =>
    have hdue := facts.due
    rw [hx found (hk ▸ .of_getUnclaimedLock facts.lock_eq), getReceiverExpirationThreshold,
      defaultNumberOfBlockConfirmations] at hdue
    omega

theorem Reaction.locked {r : Iteration (Option MediatorTransferState)}
    (h : Reaction P net cs a2c now (some st) sc r)
    (hfiled : ∀ ref c, cs.get? ref = some c → Filed ref c) (dispatched : s.dispatches P hash sc)
    (hexpires : Received (ExpiresAt hash exp) net cs st)
    (sane : sanityCheckNewState net r = .ok ()) (hlocked : Locked net hash exp cs now st) :
    ∀ st' ∈ r.newState, Locked net hash exp r.channels now st' := by
  intro st' hstate' hsecret htime
  have hsane := sane_of_some sane hstate'
  cases h with
  | ignored =>
    cases hstate'
    exact hlocked hsecret htime
  | @block _ _ mediate r h =>
    cases hstate'
    obtain ⟨pairs, hrest⟩ := h.rest
    have hnone : st.secret = none := by
      rw [← h.retried.secret_eq]
      rw [hrest] at hsecret
      exact hsecret
    intro t ht c' hc'
    rw [h.incoming_eq] at ht
    obtain ⟨c, hc, hpartner, -, -⟩ := (h.frame hash).get_some hc'
    rw [hpartner]
    exact hlocked hnone htime t (h.retried.mem_incoming t ht) c hc
  | refunded h =>
    cases hstate'
    cases h with
    | rejected => exact hlocked hsecret htime
    | @accepted last c locks _ _ unknown _ found facts _ _ mediated =>
      have href : _ = incomingRef net _ := (hfiled _ c found).incomingRef_eq facts rfl
      have hreceived : Received (fun e => (e.secrethashesToLockedlocks.get? hash).isSome = true)
          net cs
          { st with refundedChannels := st.refundedChannels ++ [c.identifier] } :=
        hlocked unknown htime
      refine hreceived.accepted ?_ (fun _ he => he) mediated
      rw [← dispatched.2]
      show ((c.partnerState.secrethashesToLockedlocks.set _ _).get? _).isSome = true
      rw [Dict.get?_set_self, Option.isSome_some]
  | learned _ _ h =>
    cases hstate'
    cases h
    cases hsecret
  | learnedOnchain _ h =>
    cases hstate'
    cases h
    cases hsecret
  | @unlocked _ _ r h =>
    cases hstate'
    have hnone : st.secret = none := by
      rw [h.rest] at hsecret
      exact hsecret
    intro t ht c' hc'
    rw [incoming_eq h.unlocking.pairs (fun _ _ hp => hp.same.1) (by rw [h.rest])] at ht
    have hsame := (h.unchanged hsane hnone).1
    rw [hsame] at hc'
    exact hlocked hnone htime t ht c' hc'
  | @expired _ _ r h =>
    cases hstate'
    have hnone : st.secret = none := by
      rw [h.rest] at hsecret
      exact hsecret
    have hrel : StoreRel (fun c c' => ExpiresAt hash exp c.partnerState →
        c'.partnerState = c.partnerState) cs r.channels :=
      h.evolves.storeRel (fun _ _ => rfl)
        (fun _ _ _ h₁ h₂ hx => (h₂ (by rw [h₁ hx]; exact hx)).trans (h₁ hx))
        fun _ _ _ _ _ hop hstep hx => receivesExpiration_locked dispatched.2 hx hop hstep htime
    intro t ht c' hc'
    rw [incoming_eq h.pairs (fun _ _ hp => hp.same.1) (by rw [h.rest])] at ht
    obtain ⟨c, hc, hsame⟩ := hrel.get_some hc'
    rw [hsame (hexpires t ht c hc)]
    exact hlocked hnone htime t ht c hc

private theorem Settled.keep (h : Settled net hash cs now st)
    (hp : p ∈ st.transfersPair) (hsame : SameTransfers p p') (hpayer : p'.payerState = p.payerState)
    (hsecret : st.secret ≠ none → st'.secret ≠ none)
    (hnone : st.secret ≠ none → ∀ ref, NoneLeft cs ref hash → NoneLeft cs' ref
      hash) (hfinal : payerFinal p'.payerState = true) :
    p'.payerTransfer.lock.expiration < now ∨
      st'.secret ≠ none ∧ NoneLeft cs' (payerRef net p') hash := by
  rw [hpayer] at hfinal
  rw [payerRef, hsame.payer]
  rcases h p hp hfinal with hlt | ⟨hknown, hgone⟩
  · exact .inl hlt
  · exact .inr ⟨hsecret hknown, hnone hknown _ hgone⟩

private theorem noneLeft_of_partner_eq
    (h : StoreRel (fun c c' => c'.partnerState = c.partnerState) cs cs')
    (hgone : NoneLeft cs ref hash) : NoneLeft cs' ref hash := by
  intro c' hc'
  obtain ⟨c, hc, hpartner⟩ := h.get_some hc'
  rw [hpartner]
  exact hgone c hc

private theorem Settled.block {mediate : Iteration MediatorTransferState} (hs : Settled net hash cs now st)
    (h : BlockHandled P net st cs a2c now mediate r) :
    Settled net hash r.channels now r.newState := by
  intro p' hp' hfinal
  obtain ⟨pairs, hrest⟩ := h.rest
  have hsecret : r.newState.secret = st.secret := by
    rw [hrest]
    exact h.retried.secret_eq
  obtain ⟨p, hp, haged⟩ := exists_mem_of_forall₂ h.pairs hp'
  rcases haged.payer with hpayer | ⟨hmarked, -⟩ | ⟨-, hexpired⟩
  · rcases h.retried.mem_pairs p hp with hp | ⟨-, hpending⟩
    · refine hs.keep hp haged.same hpayer (by rw [hsecret]; exact id) (fun _ ref hgone c' hc' => ?_) hfinal
      obtain ⟨c, hc, hpartner, -, -⟩ := (h.frame hash).get_some hc'
      rw [hpartner]
      exact hgone c hc
    · rw [hpayer, hpending] at hfinal
      cases hfinal
  · rw [hmarked] at hfinal
    cases hfinal
  · refine .inl ?_
    rw [haged.same.payer]
    rw [getSenderExpirationThreshold, defaultNumberOfBlockConfirmations] at hexpired
    omega

theorem Reaction.settled {r : Iteration (Option MediatorTransferState)} (htask : s.task = some st)
    (h : Reaction P net s.channels a2c s.blockNumber (some st) sc r)
    (hclaim : Claimable P net hash s (.task sc bh))
    (dispatched : s.dispatches P hash sc) (huniform : Uniform hash exp st)
    (sane : sanityCheckNewState net r = .ok ())
    (hlocked : ∀ st' ∈ r.newState, Locked net hash exp r.channels s.blockNumber
      st') (hs : Settled net hash s.channels s.blockNumber st) :
    ∀ st' ∈ r.newState, Settled net hash r.channels s.blockNumber st' := by
  intro st' hstate'
  have hsane := sane_of_some sane hstate'
  cases h with
  | ignored =>
    cases hstate'
    exact hs
  | @block _ block mediate r h =>
    cases hstate'
    rw [show block.blockNumber = s.blockNumber from dispatched.2] at h
    exact hs.block h
  | refunded h =>
    cases hstate'
    cases h with
    | rejected => exact hs
    | accepted unknown _ _ _ _ _ mediated =>
      intro p' hp' hfinal
      rcases mediated.mem_pairs p' hp' with hp | ⟨-, hpending⟩
      · exact hs.keep hp (.refl p') rfl (fun h => absurd unknown h) (fun h => absurd unknown h) hfinal
      · rw [hpending] at hfinal
        cases hfinal
  | learned unknown _ h =>
    cases hstate'
    obtain ⟨-, hfirst, hrevealed, hpaid, -⟩ := h
    intro p' hp' hfinal
    obtain ⟨q', hq', hsame, hpayer⟩ := payer_of_told hrevealed hpaid hp'
    rw [hfirst.replaced] at hq'
    obtain ⟨q, hq, rfl⟩ := List.mem_map.mp hq'
    obtain ⟨p, hp, hsame', hpayer'⟩ := mem_setOffchainRevealState hq
    rcases hpayer with hpayer | hpayer
    · refine hs.keep hp ((hsame'.trans (markIf_same _ q)).trans hsame) ?_ (fun h => absurd unknown h)
        (fun h => absurd unknown h) hfinal
      rw [hpayer] at hfinal ⊢
      unfold markIf at hfinal ⊢
      split
      · next hclosed =>
        rw [if_pos hclosed] at hfinal
        cases hfinal
      · exact hpayer'
    · rw [hpayer] at hfinal
      cases hfinal
  | learnedOnchain _ h =>
    cases hstate'
    obtain ⟨register, hpaid, evolves⟩ := h
    intro p' hp' hfinal
    obtain ⟨p, hp, out, hbalanced, -⟩ := exists_mem_of_forall₂ hpaid.each hp'
    have hpayer : p'.payerState = p.payerState := by cases hbalanced <;> rfl
    refine hs.keep hp hbalanced.same hpayer (fun _ => Option.some_ne_none _) (fun _ ref hgone => ?_) hfinal
    have hregistered := hgone.evolves (registerOnchainSecret_evolves (P := P) register)
      fun _ _ _ hop => by rw [hop]; rfl
    exact noneLeft_of_partner_eq (partner_eq_of_sends (evolves.mono SendsUnlock.sends)) hregistered
  | @unlocked _ unlock r h =>
    cases hstate'
    intro p' hp' hfinal
    have hrest := congrArg MediatorTransferState.secret h.rest
    obtain ⟨p, hp, hpaid⟩ := exists_mem_of_forall₂ h.unlocking.pairs hp'
    cases hpaid with
    | paid sender gone =>
      refine .inr ⟨fun hnone => ?_, ?_⟩
      · -- a paid pair passes the sanity check only with a secret
        have hunpaid := (sanityCheck_paid hsane hnone hp').2
        cases hunpaid
      · rw [show unlock.secrethash P = hash from dispatched.2] at gone
        have href : payerRef net p = unlockRef net unlock := hclaim st htask p hp sender
        show NoneLeft r.channels (payerRef net p) hash
        rw [href]
        exact gone
    | kept =>
      exact hs.keep hp (.refl p') rfl (by rw [hrest]; exact id)
        (fun _ ref hgone => hgone.evolves h.unlocking.evolves ReceivesUnlock.adds_nothing) hfinal
  | @expired _ _ r h =>
    cases hstate'
    intro p' hp' hfinal
    have hrest := congrArg MediatorTransferState.secret h.rest
    obtain ⟨p, hp, hgone⟩ := exists_mem_of_forall₂ h.pairs hp'
    cases hgone with
    | gone found none_left =>
      rw [huniform.secrethash_eq] at none_left
      by_cases hlt : p.payerTransfer.lock.expiration < s.blockNumber
      · exact .inl hlt
      · refine .inr ⟨fun hnone => ?_, none_left⟩
        -- without the secret the lock is still held
        obtain ⟨c, hc⟩ := Option.isSome_iff_exists.mp found
        have htime : s.blockNumber ≤ exp := by
          rw [← (huniform.payer hp).2]
          exact Nat.not_lt.mp hlt
        have hheld := (hlocked _ rfl hnone htime).payer hp' hc
        obtain ⟨lock, hl⟩ := Option.isSome_iff_exists.mp hheld
        cases (HasLock.locked hl).isLockPending.symm.trans (none_left c hc)
    | kept =>
      exact hs.keep hp (.refl p') rfl (by rw [hrest]; exact id)
        (fun _ ref hgone => hgone.evolves h.evolves ReceivesExpiration.adds_nothing) hfinal

end Final

theorem Locked.congr {exp' : Nat} {cs : Channels} {now : Nat} (h : Locked net hash exp cs now st)
    (huniform : Uniform hash exp st) (huniform' : Uniform hash exp' st) :
    Locked net hash exp' cs now st := by
  intro hsecret htime t ht c hc
  have hx := (huniform.received t ht).2
  rw [(huniform'.received t ht).2] at hx
  exact h hsecret (hx ▸ htime) t ht c hc

/-- What the states of a mediation say about its registrations. -/
structure Backed (net : TokenNetworkRef) (hash : SecretHash) (log : List (Input × List Event))
    (s : Mediation) : Prop where
  holding : Holding net hash (seenOnchain log) s
  marked : seenOnchain log = false → ∀ st ∈ s.task, ∀ p ∈ st.transfersPair, isMarked p = true →
    (taskEvents log).any isRegistration = true
  locked : ∀ st ∈ s.task, ∃ expiration, Uniform hash expiration st ∧
    Locked net hash expiration s.channels s.blockNumber st
  settled : ∀ st ∈ s.task, Settled net hash s.channels s.blockNumber st
  unlocked : (taskEvents log).any isUnlock = true → ∀ st ∈ s.task, st.secret ≠ none

theorem Backed.begin (h : s.Begins P net hash) : Backed net hash [] s := by
  obtain ⟨start, log, s₀, init, bh, es, run, absent, unused, hnext⟩ := h
  have hstart := Holding.start run absent
  have hholding := hstart.next unused hnext
  have hnew : ∀ st ∈ s.task, st.secret = none ∧
      (∀ p ∈ st.transfersPair, p.payerState = .payerPending) ∧
      ∃ x, Uniform hash x st ∧
        Locked net hash x s.channels s.blockNumber st := by
    intro st hstate
    cases hnext.seen hstart.filed with
    | surrounded outside => exact absurd rfl (outside _ _)
    | reacted htask => exact absurd (htask.symm.trans absent) (Option.some_ne_none _)
    | started _ hk hinit task cs =>
      have hstate := task st hstate
      have huniform := hinit.uniform hk st hstate
      rw [cs]
      cases hinit with
      | rejected => cases hstate
      | accepted found facts _ mediated =>
        cases hstate
        refine ⟨by cases mediated <;> rfl, fun p hp => ?_, _, huniform, fun _ _ => ?_⟩
        · rcases mediated.mem_pairs p hp with hp | ⟨-, hpending⟩
          · cases hp
          · exact hpending
        · have href : _ = incomingRef net _ :=
            (hstart.filed _ _ found).incomingRef_eq facts rfl
          rw [href] at mediated
          have hempty : Received (fun _ => False) net s₀.channels
              { secrethash := init.fromTransfer.lock.secrethash, routes := init.candidateRouteStates } :=
            nofun
          refine hempty.accepted ?_ (fun _ hfalse => hfalse.elim) mediated
          rw [← hk]
          show ((Dict.set _ _ _).get? _).isSome = true
          rw [Dict.get?_set_self, Option.isSome_some]
  refine ⟨hholding, fun _ st hstate p hp hmark => ?_, fun st hstate => (hnew st hstate).2.2,
    fun st hstate p hp hfinal => ?_, nofun⟩
  · rw [isMarked, (hnew st hstate).2.1 p hp] at hmark
    cases hmark
  · rw [(hnew st hstate).2.1 p hp] at hfinal
    cases hfinal

theorem Held.isUnregistered {secret : Option Secret} (h : Held hash exp secret false e) :
    Unregistered hash e := decide_eq_false (Dict.not_mem_iff.mpr (h.unregistered rfl))

theorem Backed.next {label : Input × List Event} (h : Backed net hash log s)
    (hclaim : Claimable P net hash s label.1) (hnext : s.Next P net hash label s') :
    Backed net hash (log ++ [label]) s' := by
  cases hnext.seen h.holding.filed with
  | @surrounded input es _ outside hsur =>
    have hunused : Unused P net s input := .of_outside outside
    have hseen : isOnchainReveal input = false := by
      cases input with
      | task sc bh => exact absurd rfl (outside sc bh)
      | _ => rfl
    have hholding := h.holding.next hunused hnext
    have hle : s.blockNumber ≤ s'.blockNumber := by
      rcases hsur.blockNumber with hsame | ⟨n, -, hn, hlt⟩ <;> omega
    rw [← seenOnchain_append] at hholding
    refine ⟨hholding, ?_, ?_, ?_, ?_⟩
    · rw [seenOnchain_append, hseen, Bool.or_false, hsur.task, taskEvents_append_outside _ _ outside]
      exact h.marked
    · intro st hstate
      rw [hsur.task] at hstate
      obtain ⟨x, huniform, hlocked⟩ := h.locked st hstate
      refine ⟨x, huniform, fun hsecret htime t ht c' hc' => ?_⟩
      obtain ⟨c, hc, hsame⟩ := hsur.channels st hstate _ (incomingRef_mem ht) c' hc'
      rw [hsame.2.locked]
      exact hlocked hsecret (Nat.le_trans hle htime) t ht c hc
    · intro st hstate p hp hfinal
      rw [hsur.task] at hstate
      rcases h.settled st hstate p hp hfinal with hlt | ⟨hknown, hgone⟩
      · exact .inl (Nat.lt_of_lt_of_le hlt hle)
      · refine .inr ⟨hknown, fun c' hc' => ?_⟩
        obtain ⟨c, hc, hsame⟩ := hsur.channels st hstate _ (payerRef_mem hp) c' hc'
        rw [hsame.2.isLockPending_eq]
        exact hgone c hc
    · rw [taskEvents_append_outside _ _ outside, hsur.task]
      exact h.unlocked
  | started absent =>
    have hsome : s.task.isSome = true := hclaim
    rw [absent] at hsome
    cases hsome
  | @reacted st sc bh _ r htask dispatched hreaction sane task cs hblock =>
    have hunused : Unused P net s (.task sc bh) := by
      cases sc with
      | actionInitMediator init =>
        intro hnone
        rw [htask] at hnone
        cases hnone
      | receiveTransferRefund refund => exact hclaim
      | _ => trivial
    have hholding := h.holding.next hunused hnext
    rw [← seenOnchain_append] at hholding
    obtain ⟨x, huniform, hreceived⟩ := h.holding.received st htask
    obtain ⟨x', huniform', hlocked'⟩ := h.locked st htask
    have hlocked := hreaction.locked h.holding.filed dispatched (fun t ht c hc => (hreceived t ht c hc).expires)
      sane (hlocked'.congr huniform' huniform)
    have hsettled := hreaction.settled htask hclaim dispatched huniform sane hlocked (h.settled st htask)
    refine ⟨hholding, fun hseen st' hstate' p' hp' hmark => ?_, fun st' hstate' => ?_,
      fun st' hstate' => ?_, fun hany st' hstate' => ?_⟩ <;> have hnew := task st' hstate'
    · rw [seenOnchain_append, Bool.or_eq_false_iff] at hseen
      rw [taskEvents_append_task, List.any_append]
      rw [hseen.1] at hreceived
      exact hreaction.marked htask hclaim huniform (fun t ht c hc => (hreceived t ht c hc).isUnregistered)
        (h.marked hseen.1 st htask) hseen.2 st' hnew p' hp' hmark
    · rw [cs, hblock]
      exact ⟨x, hreaction.uniform huniform dispatched st' hnew, hlocked st' hnew⟩
    · rw [cs, hblock]
      exact hsettled st' hnew
    · rw [taskEvents_append_task, List.any_append, Bool.or_eq_true] at hany
      rcases hany with hany | hany
      · exact hreaction.secret_known (h.unlocked hany st htask) st' hnew
      · obtain ⟨e, he, hunlock⟩ := List.any_eq_true.mp hany
        obtain ⟨unlock, rfl⟩ := isUnlock_eq_true hunlock
        rcases hreaction.unlock_cases he with ⟨_, _, r', _, _, rfl, _, _, hlearned⟩ |
          ⟨_, _, r', _, _, rfl, hlearned⟩
        · cases hnew
          cases hlearned
          exact Option.some_ne_none _
        · cases hnew
          cases hlearned
          exact Option.some_ne_none _

/-- The registration of the secret is complete: after an unlock was sent, and while no
registration was seen, a block between the reveal timeout before the expiration of a
payer lock and that expiration finds the lock gone, or a registration sent. -/
theorem registered_before_expiration {log : List (Input × List Event)} {s₀ : Mediation} {block : Block}
    {bh : BlockHash} {es : List Event} {p : MediationPairState} {c : NettingChannelState}
    (begins : s₀.Begins P net hash)
    (run : Run (Mediation.NextIf P net hash (Claimable P net hash)) s₀ log s)
    (hblock : s.NextIf P net hash (Claimable P net hash) (.task (.block block) bh, es) s')
    (htask : s.task = some st) (hp : p ∈ st.transfersPair)
    (hunlocked : ∃ unlock, .sendUnlock unlock ∈ taskEvents log) (unseen : seenOnchain log = false)
    (hc : getPayerChannel net s.channels p = some c)
    (hpending : isLockPending c.partnerState hash = true)
    (hnear : p.payerTransfer.lock.expiration ≤ block.blockNumber + c.revealTimeout)
    (htime : block.blockNumber ≤ p.payerTransfer.lock.expiration) :
    (taskEvents log ++ es).any isRegistration = true := by
  have hbacked := run.invariant_log (I := Backed net hash) (.begin begins)
    fun _ _ _ _ hi hnext => hi.next hnext.1 hnext.2
  obtain ⟨hclaim, hnext⟩ := hblock
  obtain ⟨x, huniform, hreceived⟩ := hbacked.holding.received st htask
  rw [unseen] at hreceived
  obtain ⟨unlock, hunlock⟩ := hunlocked
  have hsecret := hbacked.unlocked (List.any_eq_true.mpr ⟨_, hunlock, rfl⟩) st htask
  have hknown := (hreceived.payer hp hc).known hsecret hpending
  cases hnext.seen hbacked.holding.filed with
  | surrounded outside => exact absurd rfl (outside _ _)
  | reacted htask' dispatched hreaction =>
    have hheight : block.blockNumber = s.blockNumber := dispatched.2
    have hopen : payerFinal p.payerState = false := by
      by_contra hfinal
      rcases hbacked.settled st htask p hp (by simpa using hfinal) with hlt | ⟨-, hgone⟩
      · omega
      · cases hpending.symm.trans (hgone c hc)
    cases htask.symm.trans htask'
    cases hreaction with
    | ignored _ idle => cases idle block rfl
    | @block _ _ _ r h =>
      obtain ⟨removed, removals, registrations, hw⟩ := h.watched
      obtain ⟨p₁, hp₁, hsame, hpayer⟩ := hw.remains h hp
      obtain ⟨c', hc', hpartner, hlife, -⟩ := (h.frame hash).get_some' hc
      have hdanger : inDanger net r.channels block.blockNumber p₁ = true := by
        have hpair : isPendingPair p₁ = true := by
          rw [isPendingPair, hpayer, hopen, Bool.not_false, Bool.or_true]
        have hfound : getPayerChannel net r.channels p₁ = some c' := by
          rw [getPayerChannel, payerRef, hsame.payer]
          exact hc'
        rw [inDanger, hpair, hfound, Bool.true_and, Option.any_some, hpartner, hlife.revealTimeout,
          hsame.payer, (huniform.payer hp).1, hknown, Bool.and_true, decide_eq_true_iff]
        exact hnear
      rw [List.any_append]
      exact h.danger hw huniform (fun t ht c hc => (hreceived t ht c hc).isUnregistered)
        (hbacked.marked unseen st htask) (hclaim st htask) hp₁ hdanger

instance (P : Primitives) (net : TokenNetworkRef) (hash : SecretHash) (s : Mediation) (input : Input) :
    Decidable (Claimable P net hash s input) := by
  unfold Claimable
  induction input using Input.casesOn with
  | task change => induction change using PaymentStateChange.casesOn <;> infer_instance
  | _ => infer_instance

/-- The mediation before the last block: the neighbour 3 refunds, the channel of the
payer is closed at block 2 and settled at block 8, and the payee 4 reveals the secret. -/
def refundedUntil20 : List Input :=
  [refundBy3 30,
    .channel (toyRef 1) (.stateChange (.contractReceiveChannelClosed ⟨2, [], 2, ⟨1, 9, 1⟩⟩) 1 [])] ++
  (List.range' 2 6).flatMap heightOf ++
  [.channel (toyRef 1)
    (.stateChange (.contractReceiveChannelSettled ⟨8, [], ⟨1, 9, 1⟩, [], 0, [1], 0⟩) 7 [])] ++
  heightOf 8 ++ [.task (.receiveSecretReveal ⟨4, [7]⟩) []] ++ (List.range' 9 11).flatMap heightOf ++ [.tick 20]

private def unlocks (address : Address) : Event → Bool
  | .sendUnlock unlock => unlock.recipient = address
  | _ => false

/-- The settled channel of the first payer is marked without a registration, so none is
sent for the lock that the refund left in an open channel. -/
theorem refund_never_registered :
    ∃ s₀ log s es s' st p c unlock,
      s₀.Begins toyPrimitives toyTokenNetwork 7 ∧
        Run (Mediation.Next toyPrimitives toyTokenNetwork 7) s₀ log s ∧
      s.Next toyPrimitives toyTokenNetwork 7 (.task (.block ⟨20, []⟩) [], es) s' ∧
      blocksHandled log = List.range' 2 18 ∧ seenOnchain log = false ∧
      s.task = some st ∧ p ∈ st.transfersPair ∧
      .sendUnlock unlock ∈ taskEvents log ∧ unlock.recipient = p.payeeAddress ∧
      getPayerChannel toyTokenNetwork s.channels p = some c ∧
      isLockPending c.partnerState 7 = true ∧ getStatus c = .opened ∧
      p.payerTransfer.lock.expiration ≤ 20 + c.revealTimeout ∧ 20 ≤ p.payerTransfer.lock.expiration ∧
      (taskEvents log ++ es).any isRegistration = false := by
  have hexec : ((opening 1 refundNeighbours).2.next toyPrimitives toyTokenNetwork 7
      (Unused toyPrimitives toyTokenNetwork) 0 (refundInit 30)).any (fun begun =>
      (execute (Mediation.next toyPrimitives toyTokenNetwork 7 (fun _ _ => True) 0) refundedUntil20
        ([], begun.2)).any fun done =>
      (done.2.next toyPrimitives toyTokenNetwork 7 (fun _ _ => True) 0 (.task (.block ⟨20, []⟩) [])).any
        fun last => done.2.task.any fun st => st.transfersPair.any fun p =>
          (getPayerChannel toyTokenNetwork done.2.channels p).any fun c =>
          (taskEvents done.1).any (unlocks p.payeeAddress) &&
            decide (blocksHandled done.1 = List.range' 2 18 ∧ seenOnchain done.1 = false ∧
              isLockPending c.partnerState 7 = true ∧ getStatus c = .opened ∧
              p.payerTransfer.lock.expiration ≤ 20 + c.revealTimeout ∧
              20 ≤ p.payerTransfer.lock.expiration ∧
              (taskEvents done.1 ++ last.1.2).any isRegistration = false)) = true := by decide +kernel
  obtain ⟨_, s₀, hbegins, hexec⟩ := exists_begins refundNeighbours_opened.1 refundNeighbours_opened.2 hexec
  obtain ⟨log, s, hrun, hexec⟩ := Mediation.exists_run hexec
  obtain ⟨es, s', hlast, hexec⟩ := Mediation.exists_next hexec
  simp only [Option.any_eq_true, List.any_eq_true, Bool.and_eq_true] at hexec
  obtain ⟨st, hstate, p, hp, c, hc, ⟨e, he, hunlock⟩, hfacts⟩ := hexec
  cases e with
  | sendUnlock unlock =>
    obtain ⟨hblocks, hseen, hpending, hopened, hnear, htime, hnone⟩ := of_decide_eq_true hfacts
    exact ⟨s₀, log, s, es, s', st, p, c, unlock, hbegins, hrun.mono fun _ _ _ h => h.2, hlast.2,
      hblocks, hseen, hstate, hp, he, of_decide_eq_true hunlock, hc, hpending, hopened, hnear, htime, hnone⟩
  | _ => cases hunlock

/-- The payee reveals the secret at block 120, and the secret is registered at block 390
for the lock of the payer that expires at block 400. -/
theorem registered_at_reveal_timeout :
    ∃ s₀ log s es s', s₀.Begins toyPrimitives toyTokenNetwork 7 ∧
      Run (Mediation.NextIf toyPrimitives toyTokenNetwork 7 (Claimable toyPrimitives toyTokenNetwork 7)) s₀
        log s ∧ s.NextIf toyPrimitives toyTokenNetwork 7 (Claimable toyPrimitives toyTokenNetwork 7)
        (.task (.block ⟨390, []⟩) [], es) s' ∧ (taskEvents log).any isRegistration = false ∧
      (taskEvents log ++ es).any isRegistration = true := by
  have hexec : ((opening 1 (toyNeighbours 500 500)).2.next toyPrimitives toyTokenNetwork 7
      (Unused toyPrimitives toyTokenNetwork) 0 (forwardUntil 400)).any (fun begun =>
      (execute (Mediation.next toyPrimitives toyTokenNetwork 7 (Claimable toyPrimitives toyTokenNetwork 7) 0)
        [.tick 120, payeeReveals, .tick 390] ([], begun.2)).any fun done =>
      (done.2.next toyPrimitives toyTokenNetwork 7 (Claimable toyPrimitives toyTokenNetwork 7) 0
        (.task (.block ⟨390, []⟩) [])).any
        fun last => done.2.task.any fun st => st.transfersPair.any fun p =>
          (getPayerChannel toyTokenNetwork done.2.channels p).any fun c =>
            (taskEvents done.1).any isUnlock && decide (seenOnchain done.1 = false ∧
              isLockPending c.partnerState 7 = true ∧
              p.payerTransfer.lock.expiration ≤ 390 + c.revealTimeout ∧
              390 ≤ p.payerTransfer.lock.expiration ∧
              (taskEvents done.1).any isRegistration = false)) = true := by decide +kernel
  obtain ⟨_, s₀, hbegins, hexec⟩ :=
    exists_begins (toyNeighbours_opened 500 500) (toyNeighbours_nodup 500 500) hexec
  obtain ⟨log, s, hrun, hexec⟩ := Mediation.exists_run hexec
  obtain ⟨es, s', hblock, hexec⟩ := Mediation.exists_next hexec
  simp only [Option.any_eq_true, List.any_eq_true, Bool.and_eq_true, decide_eq_true_eq] at hexec
  obtain ⟨st, hstate, p, hp, c, hc, ⟨e, he, hunlock⟩, hseen, hpending, hnear, htime, hnone⟩ := hexec
  obtain ⟨unlock, rfl⟩ := isUnlock_eq_true hunlock
  exact ⟨s₀, log, s, es, s', hbegins, hrun, hblock, hnone,
    registered_before_expiration hbegins hrun hblock hstate hp ⟨unlock, he⟩ hseen hc hpending hnear htime⟩

end Raiden.Mediator
