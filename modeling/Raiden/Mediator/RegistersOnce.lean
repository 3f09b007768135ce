import Raiden.Mediator.Registration

/-! # A mediator registers its secret once, and in time

That a registration was started is kept in the states of the pairs, which later
steps overwrite. It is not started again as long as the pairs that lose the mark
have nothing left to register, and it is not too late when every height is
processed and the secret is learned before the expiration. -/
namespace Raiden.Mediator

open Lib Channel

variable {P : Primitives} {net : TokenNetworkRef} {hash : SecretHash} {exp : Nat} {s s' : Mediation}
  {st st' : MediatorTransferState} {seen : Bool} {cs' : Channels} {input : Input}
  {mediate r : Iteration MediatorTransferState} {out : List Event} {p p' : MediationPairState}
  {n : Nat} {secret : Secret}

/-- No lock of the partner under the secrethash is unlocked off-chain. -/
def UnlearnedAt (hash : SecretHash) (cs : Channels) (ref : ChannelRef) : Prop :=
  ∀ c, cs.get? ref = some c → isSecretKnownOffchain c.partnerState hash = false

/-- The pair has nothing left to register. -/
def Cleared (net : TokenNetworkRef) (hash : SecretHash) (cs : Channels)
    (p : MediationPairState) : Prop :=
  isPendingPair p = true → UnlearnedAt hash cs (payerRef net p)

/-- With a registration started, every pair waits for it or has nothing left to register. -/
def Together (net : TokenNetworkRef) (hash : SecretHash) (cs : Channels)
    (st : MediatorTransferState) : Prop :=
  (∃ p ∈ st.transfersPair, isMarked p = true) → ∀ q ∈ st.transfersPair,
    isMarked q = true ∨ Cleared net hash cs q

/-- No second mediation starts and refunds use a fresh secrethash; the secret is learned
before the expiration and while no transfer waits; unlocks and expirations of the payers
find the pairs together, unlocks over the channel of every pair of their sender; and a
block that reports a pair as expired finds nothing left to register. -/
def Punctual (P : Primitives) (net : TokenNetworkRef) (hash : SecretHash) (s : Mediation) :
    Input → Prop
  | .task (.actionInitMediator _) _ => s.task.isSome = true
  | .task (.receiveTransferRefund refund) bh =>
    Unused P net s (.task (.receiveTransferRefund refund) bh)
  | .task (.receiveSecretReveal _) _ => ∀ st ∈ s.task, st.secret = none →
    st.waitingTransfer.isNone = true ∧
      ∀ p ∈ st.transfersPair, s.blockNumber < p.payerTransfer.lock.expiration
  | .task (.receiveUnlock unlock) _ => ∀ st ∈ s.task,
    Together net hash s.channels st ∧ ∀ p ∈ st.transfersPair,
      p.payerTransfer.balanceProof.sender = unlock.balanceProof.sender →
        payerRef net p = unlockRef net unlock
  | .task (.receiveLockExpired _) _ => ∀ st ∈ s.task, Together net hash s.channels st
  | .task (.block block) _ => ∀ st ∈ s.task, ∀ p ∈ st.transfersPair,
    getSenderExpirationThreshold p.payerTransfer.lock.expiration ≤ block.blockNumber →
      ∀ q ∈ st.transfersPair, Cleared net hash s.channels q
  | _ => True

/-! ## Every height is processed -/

/-- Heights come one by one, and the running task handles the block of a height before
anything else at that height. -/
def Paced (s : Mediation) (due : Bool) : Input → Prop
  | .tick n => n = s.blockNumber + 1 ∧ (due = true → s.task.isNone = true)
  | .task (.block _) _ => True
  | .task _ _ => due = false
  | _ => True

/-- Whether the block of the current height is still to be handled. -/
def dueAfter (due : Bool) : Input → Bool
  | .tick _ => true
  | .task (.block _) _ => false
  | _ => due

/-- A step of a mediation together with the block that is due. -/
def Mediation.NextPaced (P : Primitives) (net : TokenNetworkRef) (hash : SecretHash)
    (t : Mediation × Bool) (label : Input × List Event) (t' : Mediation × Bool) : Prop :=
  Paced t.1 t.2 label.1 ∧ t.1.NextIf P net hash (Punctual P net hash) label t'.1 ∧
    t'.2 = dueAfter t.2 label.1

/-! ## What is left to register -/

section Unlearned

variable {cs cs' : Channels} {a2c : AddressesToChannel} {now : Nat} {ref : ChannelRef}

theorem isSecretKnownOffchain_registerOnchain {e e' : NettingChannelEndState}
    (h : registerOnchainSecretEndstate e secret hash now = .ok e')
    (hknown : isSecretKnownOffchain e hash = false) : isSecretKnownOffchain e' hash = false := by
  rcases registerOnchainSecretEndstate_cases h with rfl | ⟨_, _, _, rfl⟩
  · exact hknown
  · exact decide_eq_false (Dict.not_mem_iff.mpr (Dict.get?_del_self _ _))

theorem NoneLeft.unlearnedAt (h : NoneLeft cs ref hash) : UnlearnedAt hash cs ref := by
  intro c hc
  have hgone := h c hc
  simp only [isLockPending, decide_eq_false_iff_not, not_or] at hgone
  exact decide_eq_false hgone.2.1

theorem UnlearnedAt.of_partner (h : UnlearnedAt hash cs ref)
    (hrel : StoreRel (fun c c' => c'.partnerState = c.partnerState) cs cs') :
    UnlearnedAt hash cs' ref := by
  intro c' hc'
  obtain ⟨c, hc, hpartner⟩ := hrel.get_some hc'
  rw [hpartner]
  exact h c hc

theorem UnlearnedAt.set {ref' : ChannelRef} {c : NettingChannelState} {tr : LockedTransferSignedState}
    {locks : List EncodedData} (h : UnlearnedAt hash cs ref) (found : cs.get? ref' = some c) :
    UnlearnedAt hash (cs.set ref' (withTransfer c tr locks)) ref := by
  intro d hd
  rw [Dict.get?_set] at hd
  split at hd
  · next heq =>
    cases hd
    exact h c (heq ▸ found)
  · exact h d hd

theorem UnlearnedAt.of_releases {A : ChannelRef → NettingChannelState → ChannelOp → Prop}
    (h : UnlearnedAt hash cs ref) (hev : Evolves P A cs cs')
    (hA : ∀ ref c op, A ref c op → op.isRelease = true) : UnlearnedAt hash cs' ref := by
  intro c' hc'
  have hrel : StoreRel (fun c c' => LosesAt hash c.partnerState c'.partnerState) cs cs' :=
    losesAt_of_releases hev hA
  obtain ⟨c, hc, hloses⟩ := hrel.get_some hc'
  exact hloses.isSecretKnownOffchain (h c hc)

theorem BlockHandled.unlearnedAt (h : BlockHandled P net st cs a2c now mediate r)
    (href : UnlearnedAt hash cs ref) : UnlearnedAt hash r.channels ref := by
  intro c' hc'
  obtain ⟨c, hc, hpartner, -, -⟩ := (h.frame hash).get_some hc'
  rw [hpartner]
  exact href c hc

/-- Only an off-chain reveal unlocks locks of the payers off-chain. -/
theorem Reaction.unlearnedAt {sc : PaymentStateChange} {r : Iteration (Option MediatorTransferState)}
    (h : Reaction P net cs a2c now (some st) sc r) (dispatched : s.dispatches P hash sc)
    (hchange : st.secret = none → ∀ reveal, sc ≠ .receiveSecretReveal reveal)
    (hmem : ref ∈ secretRefs net st) (href : UnlearnedAt hash cs ref) :
    UnlearnedAt hash r.channels ref := by
  cases h with
  | ignored => exact href
  | block h => exact h.unlearnedAt href
  | refunded h =>
    cases h with
    | rejected => exact href
    | accepted _ _ found _ _ _ mediated =>
      exact (href.set found).of_partner (partner_eq_of_sends mediated.evolves)
  | learned unknown => exact absurd rfl (hchange unknown _)
  | learnedOnchain _ h =>
    obtain ⟨register, -, evolves⟩ := h
    intro c' hc'
    obtain ⟨c₁, hc₁, hpartner⟩ := (partner_eq_of_sends (evolves.mono SendsUnlock.sends)).get_some hc'
    obtain ⟨c, hc, hregister⟩ := registerOnchainSecret_get? register hmem hc₁
    obtain ⟨our, partner, -, hend, rfl⟩ := registerOnchainSecret_ok.mp hregister
    rw [show _ = hash from dispatched.2] at hend
    rw [hpartner]
    exact isSecretKnownOffchain_registerOnchain hend (href c hc)
  | unlocked h => exact href.of_releases h.unlocking.evolves fun _ _ _ ⟨_, hop⟩ => by rw [hop]; rfl
  | expired h => exact href.of_releases h.evolves fun _ _ _ ⟨_, hop⟩ => by rw [hop]; rfl

theorem Held.unlearned {secret : Option Secret} {e : NettingChannelEndState}
    (h : Held hash exp secret seen e) (hsecret : secret = none) :
    isSecretKnownOffchain e hash = false :=
  decide_eq_false (Dict.not_mem_iff.mpr (h.unknown hsecret).1)

end Unlearned

section Blocks

variable {cs : Channels} {a2c : AddressesToChannel} {now : Nat}
  {mediate r : Iteration MediatorTransferState} {removed : List MediationPairState}
  {removals registrations : List Event} {p p' : MediationPairState} {q : MediationPairState → Bool}

theorem markIf_isPendingPair (hq : q p = true → isPendingPair p = true)
    (h : isPendingPair (markIf q p) = true) : isPendingPair p = true := by
  unfold markIf at h
  split at h
  · next hmark => exact hq hmark
  · exact h

theorem isMarked_markIf (h : isMarked p = true) : isMarked (markIf q p) = true := by
  unfold markIf
  split
  · rfl
  · exact h

theorem PayerExpired.isPendingPair (h : PayerExpired net cs now p p')
    (hpending : Mediator.isPendingPair p' = true) : Mediator.isPendingPair p = true := by
  cases h with
  | kept => exact hpending
  | expired =>
    rw [Mediator.isPendingPair, Bool.or_eq_true] at hpending ⊢
    rcases hpending with hpayee | hpayer
    · exact .inl hpayee
    · cases hpayer

theorem PayerExpired.same (h : PayerExpired net cs now p p') : SameTransfers p p' := by
  cases h <;> exact ⟨rfl, rfl, rfl⟩

theorem PayerExpired.eq_of_lt (h : PayerExpired net cs now p p')
    (hlt : now < getSenderExpirationThreshold p.payerTransfer.lock.expiration) : p' = p := by
  cases h with
  | expired _ hge => omega
  | kept => rfl

theorem filter_isRegistration_eq_nil {es : List Event} (h : ∀ e ∈ es, isRegistration e = false) :
    es.filter isRegistration = [] :=
  List.filter_eq_nil_iff.mpr fun e he => by simp [h e he]

theorem Watched.filter (h : BlockHandled P net st cs a2c now mediate r)
    (hw : Watched net now mediate r removed removals registrations) :
    r.events.filter isRegistration = registrations.filter isRegistration := by
  have hmediate : mediate.events.filter isRegistration = [] :=
    filter_isRegistration_eq_nil fun e he => (h.retried.quiet e he).2.2
  have hremovals : removals.filter isRegistration = [] := by
    refine filter_isRegistration_eq_nil fun e he => ?_
    obtain ⟨_, _, _, -, hexpired, he⟩ := hw.expires.only e he
    cases hexpired with
    | expired quiet => exact (quiet e he).2.2
    | kept => cases he
  have hpairs : ((removed.map (markIf (inDanger net r.channels now))).flatMap fun q =>
      (expiredPair net r.channels now q).2).filter isRegistration = [] := by
    refine filter_isRegistration_eq_nil fun e he => ?_
    obtain ⟨q, -, he⟩ := List.mem_flatMap.mp he
    exact (isReport_only (expiredPair_isReport q e he)).2
  have hwaiting : ((mediate.newState.waitingTransfer.map (expiredWaiting now)).elim []
      Prod.snd).filter isRegistration = [] := by
    cases mediate.newState.waitingTransfer with
    | none => rfl
    | some w => exact filter_isRegistration_eq_nil fun e he => (isReport_only (expiredWaiting_isReport w e he)).2
  simp only [hw.events_eq, List.filter_append, hmediate, hremovals, hpairs, hwaiting, List.nil_append,
    List.append_nil]

theorem Registration.countP_le {claim : NettingChannelState → Nat → Prop}
    (h : Registration net cs claim p out) : out.countP isRegistration ≤ 1 := by
  obtain ⟨c, secret, x, bh, -, -, rfl⟩ := h
  unfold eventsForOnchainSecretreveal
  split
  · exact Nat.le_refl 1
  · exact Nat.zero_le 1

theorem Watched.pair (hw : Watched net now mediate r removed removals registrations)
    (hp' : p' ∈ r.newState.transfersPair) : ∃ p ∈ removed, PayerExpired net r.channels now
        (markIf (inDanger net r.channels now) p) p' := by
  rw [hw.pairs_eq, List.map_map] at hp'
  obtain ⟨p, hp, rfl⟩ := List.mem_map.mp hp'
  exact ⟨p, hp, expiredPair_spec _⟩

theorem inDanger_isPendingPair (h : inDanger net cs now p = true) : isPendingPair p = true := by
  rw [inDanger, Bool.and_eq_true] at h
  exact h.1

/-- The registrations sent so far, `n` of them, are recorded in the states of the pairs. -/
def Recorded (net : TokenNetworkRef) (hash : SecretHash) (cs : Channels)
    (n : Nat) (st : MediatorTransferState) : Prop :=
  n ≠ 0 → (∃ p ∈ st.transfersPair, isMarked p = true) ∨
    ∀ q ∈ st.transfersPair, Cleared net hash cs q

theorem Watched.isMarked (hw : Watched net now mediate r removed removals registrations)
    (hp : p ∈ removed) (hmark : Mediator.isMarked (markIf (inDanger net r.channels now) p) = true)
    (hlt : now < getSenderExpirationThreshold p.payerTransfer.lock.expiration) :
    ∃ p' ∈ r.newState.transfersPair, Mediator.isMarked p' = true := by
  refine ⟨(expiredPair net r.channels now
    (markIf (inDanger net r.channels now) p)).1, ?_, ?_⟩
  · rw [hw.pairs_eq, List.map_map]
    exact List.mem_map_of_mem hp
  · rw [← (markIf_same (inDanger net r.channels now) p).payer] at hlt
    rw [(expiredPair_spec _).eq_of_lt hlt]
    exact hmark

/-- What is known about the task before a block. -/
structure BeforeBlock (net : TokenNetworkRef) (hash : SecretHash) (expiration : Nat)
    (cs : Channels) (st : MediatorTransferState) : Prop where
  uniform : Uniform hash expiration st
  unknown : st.secret = none → ∀ t ∈ incoming st,
    ∀ c, cs.get? (incomingRef net t) = some c → isSecretKnown c.partnerState hash = false
  waiting : ∀ w ∈ st.waitingTransfer, UnlearnedAt hash cs (waitingRef net w)

variable (hs : BeforeBlock net hash exp cs st)
  (h : BlockHandled P net st cs a2c now mediate r)
  (hw : Watched net now mediate r removed removals registrations)

include hs h hw

/-- The pairs that a block looks at: a pair of the task, or a new one without a known secret. -/
theorem BeforeBlock.origin (hp : p ∈ removed) :
    (∃ p₀ ∈ st.transfersPair, SameTransfers p₀ p ∧ p.payerState = p₀.payerState ∧
        (isPendingPair p = true → isPendingPair p₀ = true)) ∨
      p.payerState = .payerPending ∧ UnlearnedAt hash cs (payerRef net p) := by
  obtain ⟨p₀, hp₀, out, hexpired, -⟩ := exists_mem_of_forall₂ hw.expires.each hp
  obtain ⟨hsame, hpayer⟩ := hexpired.same
  have hold : p₀ ∈ st.transfersPair → (∃ p₀ ∈ st.transfersPair, SameTransfers p₀ p ∧
      p.payerState = p₀.payerState ∧ (isPendingPair p = true → isPendingPair p₀ = true)) :=
    fun hp₀ => ⟨p₀, hp₀, hsame, hpayer, hexpired.isPendingPair⟩
  cases h.retried with
  | idle | waits => exact .inl (hold hp₀)
  | forwards hwaiting =>
    rcases List.mem_append.mp hp₀ with hp₀ | hp₀
    · exact .inl (hold hp₀)
    · rw [List.mem_singleton.mp hp₀] at hsame hpayer
      refine .inr ⟨hpayer, ?_⟩
      rw [payerRef, hsame.payer]
      exact hs.waiting _ hwaiting

theorem BeforeBlock.danger (hp : p ∈ removed) (hdanger : inDanger net r.channels now p = true)
    (hstarted : hasSecretRegistrationStarted net r.channels removed mediate.newState.secrethash =
      false) :
    st.secret ≠ none ∧ ∃ p₀ ∈ st.transfersPair, SameTransfers p₀ p ∧ isMarked p₀ = false ∧
      ¬Cleared net hash cs p₀ := by
  have hnot : ¬((∃ q ∈ removed, ∃ c, getPayerChannel net r.channels q = some c ∧
      isSecretKnownOnchain c.partnerState mediate.newState.secrethash = true) ∨
      ∃ q ∈ removed, isMarked q = true) := by
    rw [← hasSecretRegistrationStarted_iff, hstarted]
    exact Bool.false_ne_true
  have hk : mediate.newState.secrethash = hash :=
    h.retried.secrethash_eq.trans hs.uniform.secrethash_eq
  have hmem := (hw.origin h hp).1
  simp only [inDanger, Bool.and_eq_true, Option.any_eq_true, decide_eq_true_eq] at hdanger
  obtain ⟨hpending, c', hc', -, hknown⟩ := hdanger
  obtain ⟨c, hc, hpartner, -, -⟩ := (h.frame hash).get_some hc'
  rw [(hs.uniform.received _ hmem).1, hpartner] at hknown
  have hoffchain : isSecretKnownOffchain c.partnerState hash = true := by
    simp only [isSecretKnown, decide_eq_true_eq] at hknown
    rcases hknown with hknown | honchain
    · exact decide_eq_true hknown
    · refine absurd (.inl ⟨p, hp, c', hc', ?_⟩) hnot
      rw [hk, hpartner]
      exact decide_eq_true honchain
  have hlearned : ¬UnlearnedAt hash cs (payerRef net p) := fun hun => by
    cases hoffchain.symm.trans (hun c hc)
  refine ⟨fun hnone => ?_, ?_⟩
  · cases hknown.symm.trans (hs.unknown hnone _ hmem c hc)
  · rcases hs.origin h hw hp with ⟨p₀, hp₀, hsame, hpayer, hpending₀⟩ | ⟨-, hun⟩
    · refine ⟨p₀, hp₀, hsame, ?_, fun hcleared => hlearned ?_⟩
      · by_contra hmark
        refine hnot (.inr ⟨p, hp, ?_⟩)
        rw [isMarked, hpayer]
        simpa [isMarked] using hmark
      · rw [payerRef, hsame.payer]
        exact hcleared (hpending₀ hpending)
    · exact absurd hun hlearned

theorem BeforeBlock.cleared (hcleared : ∀ q ∈ st.transfersPair, Cleared net hash cs q)
    (hp' : p' ∈ r.newState.transfersPair) : Cleared net hash r.channels p' := by
  intro hpending
  obtain ⟨p, hp, hexpired⟩ := hw.pair hp'
  have hpending := markIf_isPendingPair inDanger_isPendingPair (hexpired.isPendingPair hpending)
  rw [payerRef, ((markIf_same _ p).trans hexpired.same).payer]
  refine h.unlearnedAt ?_
  rcases hs.origin h hw hp with ⟨p₀, hp₀, hsame, -, hpending₀⟩ | ⟨-, hun⟩
  · rw [hsame.payer]
    exact hcleared p₀ hp₀ (hpending₀ hpending)
  · exact hun

/-- A block sends a registration only if none was sent before, for a lock that has not expired. -/
theorem BeforeBlock.registers (hsent : Recorded net hash cs n st)
    (hlate : st.secret ≠ none → ∀ p ∈ st.transfersPair, exp < now → isMarked p =
      true ∨ Cleared net hash cs p) :
    registrations = [] ∨ n = 0 ∧ st.secret ≠ none ∧ registrations.countP isRegistration ≤ 1 ∧
      (∃ p' ∈ r.newState.transfersPair, isMarked p' = true) ∧
      ∀ x secret bh, .contractSendSecretReveal x secret bh ∈ registrations → now ≤ x := by
  cases hstarted : hasSecretRegistrationStarted net r.channels removed
    mediate.newState.secrethash with
  | true => exact .inl (hw.first.silent hstarted)
  | false =>
    cases hfind : removed.find? (inDanger net r.channels now) with
    | none => exact .inl (hw.first.unclaimed hfind)
    | some q =>
      have hq := List.mem_of_find?_eq_some hfind
      have hdanger := List.find?_some hfind
      have hout := hw.first.first q hstarted hfind
      obtain ⟨hsecret, p₀, hp₀, hsame, hunmarked, huncleared⟩ := hs.danger h hw hq hdanger hstarted
      have hx : q.payerTransfer.lock.expiration = exp := by
        rw [hsame.payer]
        exact (hs.uniform.payer hp₀).2
      have htime : now ≤ exp := by
        by_contra hlt
        rcases hlate hsecret p₀ hp₀ (Nat.not_le.mp hlt) with hmark | hcleared
        · rw [hunmarked] at hmark
          cases hmark
        · exact huncleared hcleared
      refine .inr ⟨?_, hsecret, hout.countP_le, ?_, ?_⟩
      · by_contra hn
        rcases hsent hn with ⟨p₁, hp₁, hmark⟩ | hcleared
        · -- the mark of an earlier registration would have stopped this one
          obtain ⟨p₂, hp₂, -, hpayer⟩ := hw.remains h hp₁
          have hmark₂ : isMarked p₂ = true := by
            rw [isMarked, hpayer]
            exact hmark
          rw [hasSecretRegistrationStarted_iff.mpr (.inr ⟨p₂, hp₂, hmark₂⟩)] at hstarted
          cases hstarted
        · exact huncleared (hcleared p₀ hp₀)
      · refine hw.isMarked hq ?_ ?_
        · rw [markIf, if_pos hdanger]
          rfl
        · rw [hx, getSenderExpirationThreshold]
          have hpos : 0 < defaultNumberOfBlockConfirmations := by decide
          omega
      · intro x secret bh hmem
        obtain ⟨c, secret', y, hash, -, hy, rfl⟩ := hout
        unfold eventsForOnchainSecretreveal at hmem
        split at hmem
        · cases List.mem_singleton.mp hmem
          rw [show x = _ from hy, hx]
          exact htime
        · cases hmem

theorem BeforeBlock.recorded (hsent : Recorded net hash cs n st)
    (hthreshold : ∀ p ∈ st.transfersPair, getSenderExpirationThreshold
      p.payerTransfer.lock.expiration ≤ now → ∀ q ∈ st.transfersPair, Cleared net hash cs q) :
    Recorded net hash r.channels n r.newState := by
  intro hn
  rcases hsent hn with ⟨p, hp, hmark⟩ | hcleared
  · by_cases hlt : now < getSenderExpirationThreshold p.payerTransfer.lock.expiration
    · refine .inl ?_
      obtain ⟨p₁, hp₁, hsame, hpayer⟩ := hw.remains h hp
      refine hw.isMarked hp₁ (isMarked_markIf ?_) ?_
      · rw [isMarked, hpayer]
        exact hmark
      · rw [hsame.payer]
        exact hlt
    · exact .inr fun q hq => hs.cleared h hw (hthreshold p hp (Nat.not_lt.mp hlt)) hq
  · exact .inr fun q hq => hs.cleared h hw hcleared hq

theorem BeforeBlock.late (hthreshold : ∀ p ∈ st.transfersPair,
      getSenderExpirationThreshold p.payerTransfer.lock.expiration ≤ now →
        ∀ q ∈ st.transfersPair, Cleared net hash cs q)
    (hp' : p' ∈ r.newState.transfersPair) (htime : exp ≤ now) :
    isMarked p' = true ∨ Cleared net hash r.channels p' := by
  obtain ⟨p, hp, hexpired⟩ := hw.pair hp'
  have hmem := (hw.origin h hp).1
  have hx : p.payerTransfer.lock.expiration = exp := (hs.uniform.received _ hmem).2
  have hsame : SameTransfers p p' := (markIf_same _ p).trans hexpired.same
  cases hdanger : inDanger net r.channels now p with
  | false =>
    -- a pending pair that is not in danger does not know the secret
    refine .inr fun hpending c hc => ?_
    have hpending := markIf_isPendingPair inDanger_isPendingPair (hexpired.isPendingPair hpending)
    rw [payerRef, hsame.payer] at hc
    have hfound : getPayerChannel net r.channels p = some c := hc
    rw [inDanger, hpending, hfound, Bool.true_and, Option.any_some, hx,
      decide_eq_true (Nat.le_trans htime (Nat.le_add_right _ _)), Bool.true_and,
      (hs.uniform.received _ hmem).1] at hdanger
    simp only [isSecretKnown, decide_eq_false_iff_not, not_or] at hdanger
    exact decide_eq_false hdanger.1
  | true =>
    by_cases hlt : now < getSenderExpirationThreshold exp
    · refine .inl ?_
      rw [← hx, ← (markIf_same (inDanger net r.channels now) p).payer] at hlt
      rw [hexpired.eq_of_lt hlt, markIf, if_pos hdanger]
      rfl
    · refine .inr ?_
      by_cases hpairs : ∃ q, q ∈ st.transfersPair
      · obtain ⟨q, hq⟩ := hpairs
        refine hs.cleared h hw (hthreshold q hq ?_) hp'
        rw [(hs.uniform.payer hq).2]
        exact Nat.not_lt.mp hlt
      · exact hs.cleared h hw (fun q hq => absurd ⟨q, hq⟩ hpairs) hp'

end Blocks

/-! ## The reactions of the task -/

/-- The states of the pairs account for the `n` registrations that were sent, and every
lock that expires before the horizon waits for one or is cleared. -/
structure Watching (net : TokenNetworkRef) (hash : SecretHash) (n horizon : Nat)
    (cs : Channels) (st : MediatorTransferState) : Prop where
  unknown : st.secret = none → n = 0
  waiting : st.secret ≠ none → ∀ w ∈ st.waitingTransfer,
    UnlearnedAt hash cs (waitingRef net w)
  recorded : Recorded net hash cs n st
  late : st.secret ≠ none → ∀ p ∈ st.transfersPair, p.payerTransfer.lock.expiration < horizon →
    isMarked p = true ∨ Cleared net hash cs p

/-- What a step of the task does: at most one registration is sent so far, none of them late. -/
structure Reacts (net : TokenNetworkRef) (hash : SecretHash) (n now : Nat)
    (r : Iteration (Option MediatorTransferState)) : Prop where
  count : n + r.events.countP isRegistration ≤ 1
  inTime : ∀ x secret bh, .contractSendSecretReveal x secret bh ∈ r.events → now ≤ x
  watching : ∀ st' ∈ r.newState, Watching net hash
    (n + r.events.countP isRegistration) (now + 1) r.channels st'

section Reactions

variable {cs : Channels} {a2c : AddressesToChannel} {now n horizon : Nat}

theorem Reacts.of_silent {r : Iteration (Option MediatorTransferState)} (hn : n ≤ 1)
    (hquiet : ∀ e ∈ r.events, isRegistration e = false) (hwatching : ∀ st' ∈ r.newState,
      Watching net hash n (now + 1) r.channels st') : Reacts net hash n now r := by
  have hcount : r.events.countP isRegistration = 0 :=
    List.countP_eq_zero.mpr fun e he => by simp [hquiet e he]
  refine ⟨by rw [hcount]; exact hn, fun x secret bh hmem => ?_, ?_⟩
  · cases hquiet _ hmem
  · rw [hcount]
    exact hwatching

theorem Watching.beforeBlock (h : Watching net hash n horizon cs st)
    (huniform : Uniform hash exp st) (hheld : Received (Held hash exp st.secret seen) net cs st) :
    BeforeBlock net hash exp cs st := by
  refine ⟨huniform, fun hnone t ht c hc => ?_, fun w hw => ?_⟩
  · obtain ⟨hunlocked, honchain⟩ := (hheld t ht c hc).unknown hnone
    refine decide_eq_false fun hmem => ?_
    simp only [Dict.mem_iff, hunlocked, honchain] at hmem
    rcases hmem with ⟨_, h⟩ | ⟨_, h⟩ <;> cases h
  · by_cases hnone : st.secret = none
    · exact fun c hc => (hheld _ (waiting_mem_incoming hw) c hc).unlearned hnone
    · exact h.waiting hnone w hw

theorem BlockHandled.waiting {w : WaitingTransferState}
    (h : BlockHandled P net st cs a2c now mediate r) (hw : w ∈ r.newState.waitingTransfer) :
    ∃ w₀ ∈ st.waitingTransfer, w.transfer = w₀.transfer := by
  obtain ⟨pairs, hrest⟩ := h.rest
  rw [hrest] at hw
  obtain ⟨w₁, hw₁, rfl⟩ := Option.map_eq_some_iff.mp hw
  rw [expiredWaiting_transfer w₁]
  cases h.retried with
  | idle => exact ⟨w₁, hw₁, rfl⟩
  | waits hwaiting =>
    cases hw₁
    exact ⟨_, hwaiting, rfl⟩
  | forwards => cases hw₁

theorem Watching.block (hs : Watching net hash n now cs st) (huniform : Uniform hash exp st)
    (hheld : Received (Held hash exp st.secret seen) net cs st)
    (hn : n ≤ 1) (h : BlockHandled P net st cs a2c now mediate r)
    (hthreshold : ∀ p ∈ st.transfersPair, getSenderExpirationThreshold
      p.payerTransfer.lock.expiration ≤ now → ∀ q ∈ st.transfersPair, Cleared net hash cs q) :
    Reacts net hash n now ⟨r.channels, some r.newState, r.events⟩ := by
  obtain ⟨removed, removals, registrations, hw⟩ := h.watched
  have hbefore := hs.beforeBlock huniform hheld
  have hfilter := hw.filter h
  have hcount : r.events.countP isRegistration = registrations.countP isRegistration := by
    rw [List.countP_eq_length_filter, hfilter, ← List.countP_eq_length_filter]
  have hregisters := hbefore.registers h hw hs.recorded fun hsecret p hp hlt =>
    hs.late hsecret p hp (by rw [(huniform.payer hp).2]; exact hlt)
  obtain ⟨pairs, hrest⟩ := h.rest
  have hsecret : r.newState.secret = st.secret := by
    rw [hrest]
    exact h.retried.secret_eq
  refine ⟨?_, fun x secret bh hmem => ?_, ?_⟩
  · rw [hcount]
    rcases hregisters with rfl | ⟨rfl, -, hle, -⟩
    · exact hn
    · rw [Nat.zero_add]
      exact hle
  · have hregistration : .contractSendSecretReveal x secret bh ∈ registrations := by
      have hin : .contractSendSecretReveal x secret bh ∈ r.events.filter isRegistration :=
        List.mem_filter.mpr ⟨hmem, rfl⟩
      rw [hfilter] at hin
      exact (List.mem_filter.mp hin).1
    rcases hregisters with rfl | ⟨-, -, -, -, htime⟩
    · cases hregistration
    · exact htime x secret bh hregistration
  · rintro _ ⟨⟩
    rw [hcount]
    refine ⟨fun hnone => ?_, fun hknown w hwaiting => ?_, ?_, fun _ p hp hlt => ?_⟩
    · rw [hsecret] at hnone
      rcases hregisters with rfl | ⟨-, hknown, -⟩
      · exact hs.unknown hnone
      · exact absurd hnone hknown
    · obtain ⟨w₀, hw₀, hsame⟩ := h.waiting hwaiting
      rw [waitingRef, hsame]
      exact h.unlearnedAt (hbefore.waiting w₀ hw₀)
    · rcases hregisters with rfl | ⟨-, -, -, hmarked, -⟩
      · exact hbefore.recorded h hw hs.recorded hthreshold
      · exact fun _ => .inl hmarked
    · refine hbefore.late h hw hthreshold hp ?_
      have hmem := payerTransfer_mem hp
      rw [h.incoming_eq] at hmem
      have hx := (huniform.received _ (h.retried.mem_incoming _ hmem)).2
      omega

/-- A pair of which only the state of the payee was changed, to a state that is not less final. -/
structure KeptPair (p p' : MediationPairState) : Prop where
  same : SameTransfers p p'
  payer : p'.payerState = p.payerState
  pending : isPendingPair p' = true → isPendingPair p = true

theorem KeptPair.isMarked (h : KeptPair p p') (hmark : Mediator.isMarked p = true) :
    Mediator.isMarked p' = true := by
  rw [Mediator.isMarked, h.payer]
  exact hmark

theorem KeptPair.cleared (h : KeptPair p p') (hp : p ∈ st.transfersPair)
    (hun : ∀ ref ∈ secretRefs net st, UnlearnedAt hash cs ref → UnlearnedAt
      hash cs' ref) (hcleared : Cleared net hash cs p) : Cleared net hash cs' p' := by
  intro hpending
  rw [payerRef, h.same.payer]
  exact hun _ (payerRef_mem hp) (hcleared (h.pending hpending))

/-- Every pair of the new state is one of the old state, kept, or has nothing left to register,
and nothing more is unlocked off-chain. -/
structure KeptOrCleared (net : TokenNetworkRef) (hash : SecretHash)
    (cs cs' : Channels) (st st' : MediatorTransferState) : Prop where
  pairs : ∀ p' ∈ st'.transfersPair, (∃ p ∈ st.transfersPair, KeptPair p p') ∨
    UnlearnedAt hash cs' (payerRef net p')
  unlearned : ∀ ref ∈ secretRefs net st,
    UnlearnedAt hash cs ref → UnlearnedAt hash cs' ref

theorem Watching.keep (hs : Watching net hash n horizon cs st)
    (hk : KeptOrCleared net hash cs cs' st st') (hwaiting : ∀ w ∈ st'.waitingTransfer, w ∈ st.waitingTransfer)
    (hmarks : (∃ p ∈ st.transfersPair, isMarked p = true) → (∃ p' ∈ st'.transfersPair, isMarked p'
      = true) ∨ ∀ q ∈ st'.transfersPair, Cleared net hash cs' q)
    (hnone : st'.secret = none → st.secret = none)
    (hknown : st'.secret ≠ none → st.secret ≠ none ∨ ∀ t ∈ incoming st, UnlearnedAt hash
      cs (incomingRef net t)) : Watching net hash n horizon cs' st' := by
  have hcleared : (∀ p ∈ st.transfersPair, Cleared net hash cs p) →
      ∀ q ∈ st'.transfersPair, Cleared net hash cs' q := by
    intro hall q hq
    rcases hk.pairs q hq with ⟨p, hp, hkept⟩ | hunlearned
    · exact hkept.cleared hp hk.unlearned (hall p hp)
    · exact fun _ => hunlearned
  refine ⟨fun h => hs.unknown (hnone h), fun hsecret w hw => ?_, fun hn => ?_, fun hsecret p' hp' hlt => ?_⟩
  · have hmem := waiting_mem_incoming (hwaiting w hw)
    rcases hknown hsecret with hsecret | hall
    · exact hk.unlearned _ (incomingRef_mem hmem) (hs.waiting hsecret w (hwaiting w hw))
    · exact hk.unlearned _ (incomingRef_mem hmem) (hall _ hmem)
  · rcases hs.recorded hn with hmarked | hall
    · exact hmarks hmarked
    · exact .inr (hcleared hall)
  · rcases hk.pairs p' hp' with ⟨p, hp, hkept⟩ | hunlearned
    · rcases hknown hsecret with hsecret | hall
      · rw [hkept.same.payer] at hlt
        rcases hs.late hsecret p hp hlt with hmark | hcleared
        · exact .inl (hkept.isMarked hmark)
        · exact .inr (hkept.cleared hp hk.unlearned hcleared)
      · exact .inr (hkept.cleared hp hk.unlearned fun _ => hall _ (payerTransfer_mem hp))
    · exact .inr fun _ => hunlearned

theorem Together.marks (h : Together net hash cs st)
    (hk : KeptOrCleared net hash cs cs' st st') (hmarked : ∃ p ∈ st.transfersPair, isMarked p = true) :
    (∃ p' ∈ st'.transfersPair, isMarked p' = true) ∨
      ∀ q ∈ st'.transfersPair, Cleared net hash cs' q := by
  by_cases hleft : ∃ p' ∈ st'.transfersPair, isMarked p' = true
  · exact .inl hleft
  · refine .inr fun q hq => ?_
    rcases hk.pairs q hq with ⟨p, hp, hkept⟩ | hunlearned
    · rcases h hmarked p hp with hmark | hcleared
      · exact absurd ⟨q, hq, hkept.isMarked hmark⟩ hleft
      · exact hkept.cleared hp hk.unlearned hcleared
    · exact fun _ => hunlearned

theorem Together.reacts (h : Together net hash cs st) (hn : n ≤ 1)
    (hs : Watching net hash n (now + 1) cs st)
    (hrest : r.newState = { st with transfersPair := r.newState.transfersPair })
    (hk : KeptOrCleared net hash cs r.channels st r.newState)
    (hquiet : ∀ e ∈ r.events, isRegistration e = false) :
    Reacts net hash n now ⟨r.channels, some r.newState, r.events⟩ := by
  refine .of_silent hn hquiet ?_
  rintro _ ⟨⟩
  refine hs.keep hk ?_ (h.marks hk) ?_ ?_ <;> rw [hrest]
  · exact fun _ hw => hw
  · exact id
  · exact .inl

theorem Balanced.keptPair (h : Balanced net cs now secret p p' out) : KeptPair p p' := by
  cases h with
  | kept => exact ⟨.refl p, rfl, id⟩
  | paid =>
    refine ⟨⟨rfl, rfl, rfl⟩, rfl, fun hpending => ?_⟩
    rw [isPendingPair, Bool.or_eq_true] at hpending ⊢
    rcases hpending with hpayee | hpayer
    · cases hpayee
    · exact .inr hpayer

theorem Revealed.silent (h : Revealed secret p p' out) : ∀ e ∈ out, isRegistration e = false := by
  intro e he
  cases h with
  | kept => cases he
  | sent =>
    rw [List.mem_singleton.mp he]
    rfl

theorem Watching.learned {payee : Address}
    (hs : Watching net hash n horizon cs st) (huniform : Uniform hash exp st)
    (hheld : Received (Held hash exp st.secret seen) net cs st)
    (hnone : st.secret = none) (hwaiting : st.waitingTransfer.isNone = true)
    (htime : ∀ p ∈ st.transfersPair, now < p.payerTransfer.lock.expiration)
    (h : Learned P net st cs now secret hash payee r) :
    Reacts net hash n now ⟨r.channels, some r.newState, r.events⟩ := by
  have hn : n = 0 := hs.unknown hnone
  have hpairs := h.same
  cases h with
  | @intro registered _ closed revealed paid onchain reveals unlocks register hfirst hrevealed hpaid _ =>
    have hfilter : (unexpectedReveal st hash ++ reveals ++ unlocks ++ onchain).filter isRegistration =
        onchain.filter isRegistration := by
      have hunexpected : (unexpectedReveal st hash).filter isRegistration = [] :=
        filter_isRegistration_eq_nil fun e he => (unexpectedReveal_quiet hash e he).2.2
      have hreveals : reveals.filter isRegistration = [] := filter_isRegistration_eq_nil fun e he => by
        obtain ⟨_, _, _, -, ho, he⟩ := hrevealed.only e he
        exact ho.silent e he
      have hunlocks : unlocks.filter isRegistration = [] := filter_isRegistration_eq_nil fun e he => by
        obtain ⟨_, _, _, -, ho, he⟩ := hpaid.only e he
        exact ho.unregistered e he
      simp only [List.filter_append, hunexpected, hreveals, hunlocks, List.nil_append]
    have hcount : (unexpectedReveal st hash ++ reveals ++ unlocks ++ onchain).countP isRegistration =
        onchain.countP isRegistration := by
      rw [List.countP_eq_length_filter, hfilter, ← List.countP_eq_length_filter]
    -- the registration, if there is one, and the pair it is for
    have hone : onchain = [] ∨ ∃ q ∈ setOffchainRevealState st.transfersPair payee,
        claimsClosed net registered hash q = true ∧
        Registration net registered (fun c x =>
          ∃ lock, getLock c.partnerState hash = some lock ∧ x = lock.expiration) q onchain := by
      cases hstarted : hasSecretRegistrationStarted net registered
        (setOffchainRevealState st.transfersPair payee) hash with
      | true => exact .inl (hfirst.silent hstarted)
      | false =>
        cases hfind : (setOffchainRevealState st.transfersPair payee).find?
          (claimsClosed net registered hash) with
        | none => exact .inl (hfirst.unclaimed hfind)
        | some q => exact .inr ⟨q, List.mem_of_find?_eq_some hfind, List.find?_some hfind,
            hfirst.first q hstarted hfind⟩
    refine ⟨?_, fun x secret' bh hmem => ?_, ?_⟩
    · rw [hcount, hn, Nat.zero_add]
      rcases hone with rfl | ⟨q, -, -, hq⟩
      · exact Nat.zero_le 1
      · exact hq.countP_le
    · have hin : .contractSendSecretReveal x secret' bh ∈ onchain.filter isRegistration := by
        rw [← hfilter]
        exact List.mem_filter.mpr ⟨hmem, rfl⟩
      have hin := (List.mem_filter.mp hin).1
      rcases hone with rfl | ⟨q, hq, -, c', _, y, _, hc', ⟨lock, hlock, hy⟩, rfl⟩
      · cases hin
      · unfold eventsForOnchainSecretreveal at hin
        split at hin
        · cases List.mem_singleton.mp hin
          obtain ⟨p, hp, c, hc, rfl⟩ := registered_payer register hq hc'
          have hx := (hheld.payer hp hc).expires lock (HasLock.of_getLock hlock).of_register
          rw [hy, hx, ← (huniform.payer hp).2]
          exact Nat.le_of_lt (htime p hp)
        · cases hin
    · rintro _ ⟨⟩
      refine ⟨nofun, fun _ w hw => ?_, fun hne => ?_, fun _ p' hp' hlt => ?_⟩
      · rw [Option.isNone_iff_eq_none] at hwaiting
        cases hwaiting.symm.trans hw
      · rw [hcount, hn, Nat.zero_add] at hne
        rcases hone with rfl | ⟨q, hq, hclaim, -⟩
        · exact absurd rfl hne
        · -- the pair of the registration is marked, and stays so
          refine .inl ?_
          have hmark : isMarked (markIf (isPayerClosed net registered) q) = true := by
            rw [claimsClosed, Bool.and_eq_true] at hclaim
            rw [markIf, if_pos hclaim.1]
            rfl
          have hmem : markIf (isPayerClosed net registered) q ∈ closed := by
            rw [hfirst.replaced]
            exact List.mem_map_of_mem hq
          obtain ⟨p₁, hp₁, _, hreveal, -⟩ := exists_mem_of_forall₂ hrevealed.each.flip hmem
          obtain ⟨p₂, hp₂, _, hbalanced, -⟩ := exists_mem_of_forall₂ hpaid.each.flip hp₁
          refine ⟨p₂, hp₂, hbalanced.keptPair.isMarked ?_⟩
          cases hreveal with
          | kept => exact hmark
          | sent _ pending => simp [isMarked, pending] at hmark
      · obtain ⟨p, hp, hsame⟩ := exists_mem_of_forall₂ hpairs hp'
        have hlt' := htime p hp
        rw [hsame.payer] at hlt
        omega

/-- The task accounts for its registrations in every step. -/
theorem Reaction.reacts {sc : PaymentStateChange} {bh : BlockHash}
    {r : Iteration (Option MediatorTransferState)} (htask : s.task = some st)
    (h : Reaction P net s.channels a2c s.blockNumber (some st) sc r)
    (hpunctual : Punctual P net hash s (.task sc bh))
    (dispatched : s.dispatches P hash sc) (huniform : Uniform hash exp st)
    (hheld : Received (Held hash exp st.secret seen) net s.channels st)
    (hn : n ≤ 1) (hs : Watching net hash n s.blockNumber s.channels st)
    (hs' : (∀ block, sc ≠ .block block) → Watching net hash n (s.blockNumber + 1)
      s.channels st) : Reacts net hash n s.blockNumber r := by
  have hun : (st.secret = none → ∀ reveal, sc ≠ .receiveSecretReveal reveal) →
      ∀ ref ∈ secretRefs net st, UnlearnedAt hash s.channels ref →
        UnlearnedAt hash r.channels ref :=
    fun hchange ref hmem href => h.unlearnedAt dispatched hchange hmem href
  cases h with
  | ignored _ idle =>
    refine .of_silent hn nofun ?_
    rintro _ ⟨⟩
    exact hs' fun block heq => absurd (idle block heq) (Option.some_ne_none _)
  | @block _ block _ _ h =>
    have hthreshold := hpunctual st htask
    rw [show block.blockNumber = s.blockNumber from dispatched.2] at h hthreshold
    exact hs.block huniform hheld hn h hthreshold
  | refunded h =>
    cases h with
    | rejected quiet =>
      refine .of_silent hn (fun e he => (quiet e he).2.2) ?_
      rintro _ ⟨⟩
      exact hs' nofun
    | accepted unknown _ _ _ _ quiet mediated =>
      refine .of_silent hn (fun e he => ?_) ?_
      · rcases List.mem_append.mp he with he | he
        · exact (quiet e he).2.2
        · exact (mediated.quiet e he).2.2
      · rintro _ ⟨⟩
        have hnone : n = 0 := hs.unknown unknown
        have hsecret : ∀ {st' : MediatorTransferState}, st'.secret = st.secret →
            st'.secret ≠ none → False := fun heq h => h (heq.trans unknown)
        refine ⟨fun _ => hnone, fun h => (hsecret ?_ h).elim, fun h => absurd hnone h,
          fun h => (hsecret ?_ h).elim⟩ <;> cases mediated <;> rfl
  | learned unknown secrethash_eq h =>
    obtain ⟨hwaiting, htime⟩ := hpunctual st htask unknown
    rw [secrethash_eq, huniform.secrethash_eq] at h
    exact hs.learned huniform hheld unknown hwaiting htime h
  | learnedOnchain _ h =>
    refine .of_silent hn h.unregistered ?_
    obtain ⟨register, hpaid, evolves⟩ := h
    · rintro _ ⟨⟩
      refine (hs' nofun).keep ⟨fun p' hp' => ?_, hun nofun⟩
        (fun _ hw => hw) (fun ⟨p, hp, hmark⟩ => ?_) nofun
        fun _ => ?_
      · obtain ⟨p, hp, _, hbalanced, -⟩ := exists_mem_of_forall₂ hpaid.each hp'
        exact .inl ⟨p, hp, hbalanced.keptPair⟩
      · obtain ⟨p', hp', _, hbalanced, -⟩ := exists_mem_of_forall₂ hpaid.each.flip hp
        exact .inl ⟨p', hp', hbalanced.keptPair.isMarked hmark⟩
      · by_cases hnone : st.secret = none
        · exact .inr fun t ht c hc => (hheld t ht c hc).unlearned hnone
        · exact .inl hnone
  | @unlocked _ unlock r h =>
    obtain ⟨htogether, hchannel⟩ := hpunctual st htask
    refine htogether.reacts hn (hs' nofun) h.rest
      ⟨fun p' hp' => ?_, hun nofun⟩ fun e he => (h.unlocking.quiet e he).2.2
    obtain ⟨p, hp, hpaid⟩ := exists_mem_of_forall₂ h.unlocking.pairs hp'
    cases hpaid with
    | kept => exact .inl ⟨p', hp, .refl p', rfl, id⟩
    | paid sender gone =>
      refine .inr ?_
      rw [show unlock.secrethash P = hash from dispatched.2, ← hchannel p hp sender] at gone
      exact gone.unlearnedAt
  | @expired _ _ r h =>
    have htogether := hpunctual st htask
    refine htogether.reacts hn (hs' nofun) h.rest
      ⟨fun p' hp' => ?_, hun nofun⟩ fun e he => (h.quiet e he).2.2
    obtain ⟨p, hp, hgone⟩ := exists_mem_of_forall₂ h.pairs hp'
    cases hgone with
    | kept => exact .inl ⟨p', hp, .refl p', rfl, id⟩
    | gone _ none_left =>
      refine .inr ?_
      rw [huniform.secrethash_eq] at none_left
      exact none_left.unlearnedAt

end Reactions

section Runs

variable {log : List (Input × List Event)} {t t' : Mediation × Bool} {label : Input × List Event}
  {cs : Channels}

/-- The heights up to which every expiring lock was looked at. -/
def horizon (t : Mediation × Bool) : Nat := if t.2 = true then t.1.blockNumber else t.1.blockNumber + 1

/-- At most one registration was sent, and the task accounts for it. -/
structure Once (net : TokenNetworkRef) (hash : SecretHash) (log : List (Input × List Event))
    (t : Mediation × Bool) : Prop where
  holding : Holding net hash (seenOnchain log) t.1
  count : (taskEvents log).countP isRegistration ≤ 1
  watching : ∀ st ∈ t.1.task, Watching net hash
    ((taskEvents log).countP isRegistration) (horizon t) t.1.channels st

theorem Watching.of_unknown {horizon : Nat} (h : st.secret = none) :
    Watching net hash 0 horizon cs st :=
  ⟨fun _ => rfl, fun hknown => absurd h hknown, fun hne => absurd rfl hne, fun hknown => absurd h hknown⟩

theorem Watching.mono {horizon horizon' : Nat}
    (h : Watching net hash n horizon cs st) (hle : horizon' ≤ horizon) :
    Watching net hash n horizon' cs st :=
  ⟨h.unknown, h.waiting, h.recorded, fun hsecret p hp hlt => h.late hsecret p hp (Nat.lt_of_lt_of_le hlt hle)⟩

theorem Once.begin (h : s.Begins P net hash) : Once net hash [] (s, false) := by
  obtain ⟨start, log, s₀, init, bh, es, run, absent, unused, hnext⟩ := h
  have hstart := Holding.start run absent
  refine ⟨hstart.next unused hnext, Nat.zero_le 1, fun st hstate => Watching.of_unknown ?_⟩
  cases hnext.seen hstart.filed with
  | surrounded outside => exact absurd rfl (outside _ _)
  | reacted htask => exact absurd (htask.symm.trans absent) (Option.some_ne_none _)
  | started _ _ hinit task =>
    have hstate := task st hstate
    cases hinit with
    | rejected => cases hstate
    | accepted _ _ _ mediated =>
      cases hstate
      cases mediated <;> rfl

/-- Outside of the task the heights that were looked at do not grow beyond the processed ones. -/
theorem Surrounds.horizon_le (h : Surrounds net hash t.1 input s')
    (hpaced : Paced t.1 t.2 input) (outside : ∀ sc bh, input ≠ .task sc bh)
    (htask : t.1.task = some st) : horizon (s', dueAfter t.2 input) ≤ horizon t := by
  rcases h.blockNumber with hsame | ⟨n, rfl, hn, -⟩
  · have hdue : dueAfter t.2 input = true ∨ dueAfter t.2 input = t.2 := by
      cases input with
      | task sc bh => exact absurd rfl (outside sc bh)
      | tick => exact .inl rfl
      | _ => exact .inr rfl
    rcases hdue with hdue | hdue
    · simp only [horizon, hdue, hsame, if_true]
      split <;> omega
    · simp only [horizon, hdue, hsame]
      exact Nat.le_refl _
  · have hdue : t.2 = false := by
      refine Bool.eq_false_iff.mpr fun htrue => ?_
      have hnone := hpaced.2 htrue
      rw [htask] at hnone
      cases hnone
    simp only [horizon, dueAfter, hdue, hn, hpaced.1]
    exact Nat.le_refl _

theorem Once.surrounds {es : List Event} {due : Bool} (h : Once net hash log t)
    (hsur : Surrounds net hash t.1 input s') (outside : ∀ sc bh, input ≠ .task sc bh)
    (hholding : Holding net hash (seenOnchain (log ++ [(input, es)])) s')
    (hhorizon : ∀ st ∈ t.1.task, horizon (s', due) ≤ horizon t) :
    Once net hash (log ++ [(input, es)]) (s', due) := by
  have hevents := taskEvents_append_outside log es outside
  refine ⟨hholding, by rw [hevents]; exact h.count, fun st hstate => ?_⟩
  rw [hsur.task] at hstate
  have hun : ∀ ref ∈ secretRefs net st, UnlearnedAt hash t.1.channels ref →
      UnlearnedAt hash s'.channels ref := by
    intro ref hmem href c' hc'
    obtain ⟨c, hc, hsame⟩ := hsur.channels st hstate ref hmem c' hc'
    exact hsame.2.losesAt.isSecretKnownOffchain (href c hc)
  rw [hevents]
  exact ((h.watching st hstate).mono (hhorizon st hstate)).keep
    ⟨fun p hp => .inl ⟨p, hp, .refl p, rfl, id⟩, hun⟩ (fun _ hw => hw) Or.inl id Or.inl

theorem Punctual.unused (h : Punctual P net hash s input) : Unused P net s input := by
  cases input with
  | task sc bh =>
    cases sc with
    | actionInitMediator init =>
      intro hnone
      have hsome : s.task.isSome = true := h
      rw [Option.isNone_iff_eq_none.mp hnone] at hsome
      cases hsome
    | receiveTransferRefund refund => exact h
    | _ => trivial
  | _ => trivial

/-- One step, with what it registers. -/
theorem Once.next (h : Once net hash log t) (hnext : Mediation.NextPaced P net hash t label t') :
    Once net hash (log ++ [label]) t' ∧ ∀ x secret bh,
      .contractSendSecretReveal x secret bh ∈ taskEvents [label] → t.1.blockNumber ≤ x := by
  obtain ⟨s', due'⟩ := t'
  obtain ⟨hpaced, ⟨hpunctual, hstep⟩, rfl⟩ := hnext
  have hholding := h.holding.next hpunctual.unused hstep
  rw [← seenOnchain_append] at hholding
  cases hstep.seen h.holding.filed with
  | @surrounded input es _ outside hsur =>
    refine ⟨h.surrounds hsur outside hholding fun st hstate =>
      hsur.horizon_le hpaced outside hstate, fun x secret bh he => ?_⟩
    rw [← List.nil_append [(input, es)], taskEvents_append_outside _ _ outside] at he
    cases he
  | started absent =>
    have hsome : t.1.task.isSome = true := hpunctual
    rw [absent] at hsome
    cases hsome
  | @reacted st sc bh _ r htask dispatched hreaction sane task cs hblock =>
    obtain ⟨x, huniform, hheld⟩ := h.holding.received st htask
    have hwatching := h.watching st htask
    have hreacts := hreaction.reacts htask hpunctual dispatched huniform hheld h.count
      (hwatching.mono (by unfold horizon; split <;> omega)) fun hchange =>
        hwatching.mono (by
          have hdue : t.2 = false := by
            cases sc with
            | block block => exact absurd rfl (hchange block)
            | _ => exact hpaced
          rw [horizon, hdue]
          exact Nat.le_refl _)
    refine ⟨⟨hholding, ?_, fun st' hstate' => ?_⟩, ?_⟩
    · rw [taskEvents_append_task, List.countP_append]
      exact hreacts.count
    · rw [taskEvents_append_task, List.countP_append]
      rw [cs]
      refine (hreacts.watching st' (task st' hstate')).mono ?_
      unfold horizon
      split <;> omega
    · rw [← List.nil_append [_], taskEvents_append_task]
      exact hreacts.inTime

/-- When every step is punctual and every height is processed, a mediation sends at most
one registration, and sends it before the lock of the payer expires. -/
theorem registers_once_in_time {s₀ : Mediation} (begins : s₀.Begins P net hash)
    (run : Run (Mediation.NextPaced P net hash) (s₀, false) log t)
    (hnext : Mediation.NextPaced P net hash t label t') :
    (taskEvents (log ++ [label])).countP isRegistration ≤ 1 ∧ ∀ x secret bh,
      .contractSendSecretReveal x secret bh ∈ taskEvents [label] → t.1.blockNumber ≤ x := by
  have honce := run.invariant_log (I := Once net hash) (.begin begins)
    fun _ _ _ _ hi hnext => (hi.next hnext).1
  obtain ⟨hafter, hintime⟩ := honce.next hnext
  exact ⟨hafter.count, hintime⟩

end Runs

section Concrete

instance (hash : SecretHash) (cs : Channels) (ref : ChannelRef) :
    Decidable (UnlearnedAt hash cs ref) :=
  inferInstanceAs (Decidable (∀ c, cs.get? ref = some c → _ = false))

instance (net : TokenNetworkRef) (hash : SecretHash) (cs : Channels)
    (p : MediationPairState) : Decidable (Cleared net hash cs p) :=
  inferInstanceAs (Decidable (isPendingPair p = true → _))

instance (net : TokenNetworkRef) (hash : SecretHash) (cs : Channels)
    (st : MediatorTransferState) : Decidable (Together net hash cs st) :=
  inferInstanceAs (Decidable ((∃ p ∈ st.transfersPair, isMarked p = true) →
    ∀ q ∈ st.transfersPair, isMarked q = true ∨ Cleared net hash cs q))

instance (P : Primitives) (net : TokenNetworkRef) (hash : SecretHash) (s : Mediation) (input : Input) :
    Decidable (Punctual P net hash s input) := by
  unfold Punctual
  induction input using Input.casesOn with
  | task change => induction change using PaymentStateChange.casesOn <;> infer_instance
  | _ => infer_instance

instance (s : Mediation) (due : Bool) (input : Input) : Decidable (Paced s due input) := by
  unfold Paced
  induction input using Input.casesOn with
  | task change => induction change using PaymentStateChange.casesOn <;> infer_instance
  | _ => infer_instance

def nextPaced (P : Primitives) (net : TokenNetworkRef) (hash : SecretHash)
    (t : Mediation × Bool) (input : Input) : Option ((Input × List Event) × (Mediation × Bool)) :=
  if Paced t.1 t.2 input then
    (t.1.next P net hash (Punctual P net hash) 0 input).map fun next =>
      (next.1, next.2, dueAfter t.2 input)
  else none

theorem nextPaced_sound {t t' : Mediation × Bool} {label : Input × List Event}
    (h : nextPaced P net hash t input = some (label, t')) :
    label.1 = input ∧ Mediation.NextPaced P net hash t label t' := by
  unfold nextPaced at h
  split_ifs at h with hpaced
  obtain ⟨⟨label', s'⟩, hnext, heq⟩ := Option.map_eq_some_iff.mp h
  cases heq
  obtain ⟨rfl, hstep⟩ := Mediation.next_sound hnext
  exact ⟨rfl, hpaced, hstep, rfl⟩

def closedUntil40 : List Input :=
  [.channel (toyRef 2) (.stateChange (.contractReceiveChannelClosed ⟨2, [], 3, ⟨1, 9, 2⟩⟩) 1 [])] ++
  (List.range' 2 17).flatMap heightOf ++ [payeeReveals] ++ (List.range' 19 22).flatMap heightOf ++ [.tick 41]

private def registersLate (now : Nat) : Event → Bool
  | .contractSendSecretReveal expiration _ _ => expiration < now
  | _ => false

/-- The secret is registered at block 20, for a lock until block 30, and a second time at
block 41, after the mark of the first registration was overwritten at block 40. -/
theorem registered_again_after_expiration :
    ∃ s₀ log s es s' x secret bh,
      s₀.Begins toyPrimitives toyTokenNetwork 7 ∧
        Run (Mediation.Next toyPrimitives toyTokenNetwork 7) s₀ log s ∧
      s.Next toyPrimitives toyTokenNetwork 7 (.task (.block ⟨41, []⟩) [], es) s' ∧
      blocksHandled log = List.range' 2 39 ∧ (taskEvents log ++ es).countP isRegistration = 2 ∧
      .contractSendSecretReveal x secret bh ∈ es ∧ x < s.blockNumber := by
  have hexec : ((opening 1 refundNeighbours).2.next toyPrimitives toyTokenNetwork 7
      (Unused toyPrimitives toyTokenNetwork) 0 (refundInit 30)).any (fun begun =>
      (execute (Mediation.next toyPrimitives toyTokenNetwork 7 (fun _ _ => True) 0) closedUntil40
        ([], begun.2)).any fun done =>
      (done.2.next toyPrimitives toyTokenNetwork 7 (fun _ _ => True) 0 (.task (.block ⟨41, []⟩) [])).any
        fun last => last.1.2.any (registersLate done.2.blockNumber) &&
          decide (blocksHandled done.1 = List.range' 2 39 ∧
            (taskEvents done.1 ++ last.1.2).countP isRegistration = 2)) = true := by decide +kernel
  obtain ⟨_, s₀, hbegins, hexec⟩ := exists_begins refundNeighbours_opened.1 refundNeighbours_opened.2 hexec
  obtain ⟨log, s, hrun, hexec⟩ := Mediation.exists_run hexec
  obtain ⟨es, s', hlast, hexec⟩ := Mediation.exists_next hexec
  simp only [List.any_eq_true, Bool.and_eq_true] at hexec
  obtain ⟨⟨e, he, hlate⟩, hfacts⟩ := hexec
  cases e with
  | contractSendSecretReveal x secret bh =>
    obtain ⟨hblocks, hcount⟩ := of_decide_eq_true hfacts
    exact ⟨s₀, log, s, es, s', x, secret, bh, hbegins, hrun.mono fun _ _ _ h => h.2, hlast.2,
      hblocks, hcount, he, of_decide_eq_true hlate⟩
  | _ => cases hlate

/-- The payee reveals the secret at block 18, and the secret is registered at block 20
for the lock of the payer that expires at block 30. -/
theorem registered_once_at_20 :
    ∃ s₀ log t es t', s₀.Begins toyPrimitives toyTokenNetwork 7 ∧
      Run (Mediation.NextPaced toyPrimitives toyTokenNetwork 7) (s₀, false) log t ∧
      Mediation.NextPaced toyPrimitives toyTokenNetwork 7 t (.task (.block ⟨20, []⟩) [], es) t' ∧
      es.any isRegistration = true ∧
      (taskEvents (log ++ [(.task (.block ⟨20, []⟩) [], es)])).countP isRegistration ≤ 1 := by
  have hexec : ((opening 1 refundNeighbours).2.next toyPrimitives toyTokenNetwork 7
      (Unused toyPrimitives toyTokenNetwork) 0 (refundInit 30)).any (fun begun =>
      (execute (nextPaced toyPrimitives toyTokenNetwork 7)
        ((List.range' 2 17).flatMap heightOf ++ [payeeReveals] ++ heightOf 19 ++ [.tick 20])
        ([], begun.2, false)).any fun done =>
      (nextPaced toyPrimitives toyTokenNetwork 7 done.2 (.task (.block ⟨20, []⟩) [])).any
        fun last => last.1.2.any isRegistration) = true := by decide +kernel
  obtain ⟨_, s₀, hbegins, hexec⟩ := exists_begins refundNeighbours_opened.1 refundNeighbours_opened.2 hexec
  obtain ⟨log, t, hrun, hexec⟩ :=
    Run.execute (.start (s₀, false)) hexec fun _ _ _ _ hnext => (nextPaced_sound hnext).2
  obtain ⟨⟨⟨input, es⟩, t'⟩, hlast, hregistered⟩ := (Option.any_eq_true _ _).mp hexec
  obtain ⟨rfl, hblock⟩ : input = _ ∧ _ := nextPaced_sound hlast
  exact ⟨s₀, log, t, es, t', hbegins, hrun, hblock, hregistered,
    (registers_once_in_time hbegins hrun hblock).1⟩

end Concrete

end Raiden.Mediator
