import Raiden.Mediator.Received

/-! # What a mediation knows of its secret

The locks a mediation received are locked until the secret is learned, and
unlocked off-chain as long as no on-chain registration of the secret was seen.
This is followed through one mediation, from the step that starts it. -/
namespace Raiden.Mediator

open Lib Channel

variable {P : Primitives} {net : TokenNetworkRef} {hash : SecretHash} {exp : Nat} {s : Mediation}
  {st : MediatorTransferState} {label : Input × List Event} {registrations removals : List Event}
  {removed : List MediationPairState} {now : Nat} {secret : Secret}

/-- A mediation starts in a reachable state without a task, with a transfer whose
secrethash is not pending in its channel. -/
def Mediation.Begins (P : Primitives) (net : TokenNetworkRef) (hash : SecretHash)
    (s : Mediation) : Prop :=
  ∃ start log s₀ init bh es,
    Run (Mediation.Next P net hash) (.start start) log s₀ ∧ s₀.task = none ∧
    Unused P net s₀ (.task (.actionInitMediator init) bh) ∧
    s₀.Next P net hash (.task (.actionInitMediator init) bh, es) s

section

variable (log : List (Input × List Event))

def taskEvents : List Event :=
  log.flatMap fun label =>
    match label.1 with
    | .task _ _ => label.2
    | _ => []

def isOnchainReveal : Input → Bool
  | .task (.contractReceiveSecretReveal _) _ => true
  | _ => false

/-- Whether an on-chain registration of the secret was seen. -/
def seenOnchain : Bool := log.any fun label => isOnchainReveal label.1

theorem seenOnchain_append (label : Input × List Event) :
    seenOnchain (log ++ [label]) = (seenOnchain log || isOnchainReveal label.1) := by
  rw [seenOnchain, List.any_append, List.any_cons, List.any_nil, Bool.or_false]
  rfl

theorem taskEvents_append_task (sc : PaymentStateChange) (bh : BlockHash) (es : List Event) :
    taskEvents (log ++ [(.task sc bh, es)]) = taskEvents log ++ es := by
  simp [taskEvents]

theorem taskEvents_append_outside {input : Input} (es : List Event)
    (outside : ∀ sc bh, input ≠ .task sc bh) :
    taskEvents (log ++ [(input, es)]) = taskEvents log := by
  cases input with
  | task sc bh => exact absurd rfl (outside sc bh)
  | _ => simp [taskEvents]

end

/-! ## The ends of the payers -/

/-- The locks of a payer under the secrethash of the mediation. -/
structure Held (hash : SecretHash) (expiration : Nat) (secret : Option Secret) (seen : Bool)
    (e : NettingChannelEndState) : Prop where
  expires : ExpiresAt hash expiration e
  unknown : secret = none → e.secrethashesToUnlockedlocks.get? hash = none ∧
    e.secrethashesToOnchainUnlockedlocks.get? hash = none
  unregistered : seen = false → e.secrethashesToOnchainUnlockedlocks.get? hash = none
  learned : secret ≠ none → seen = false → e.secrethashesToLockedlocks.get? hash = none

section Held

variable {secret : Option Secret} {seen : Bool} {e e' : NettingChannelEndState}

private theorem eq_none_of_subset {α : Type} {x y : Option α} (h : ∀ a, y = some a → x = some a)
    (hx : x = none) : y = none := by
  cases y with
  | none => rfl
  | some a => exact absurd ((h a rfl).symm.trans hx) (Option.some_ne_none a)

theorem Held.loses {seen' : Bool} (h : Held hash exp secret seen e) (hloses : LosesAt hash e e')
    (hseen : seen' = false → seen = false) : Held hash exp secret seen' e' where
  expires := h.expires.loses hloses
  unknown hsecret :=
    ⟨eq_none_of_subset hloses.unlocked (h.unknown hsecret).1,
      eq_none_of_subset hloses.onchain (h.unknown hsecret).2⟩
  unregistered hs := eq_none_of_subset hloses.onchain (h.unregistered (hseen hs))
  learned hsecret hs := eq_none_of_subset hloses.locked (h.learned hsecret (hseen hs))

theorem Held.learns {secret' : Option Secret} {seen' : Bool} (h : Held hash exp none seen e)
    (revealed : Secret) (hknown : secret' ≠ none) :
    Held hash exp secret' seen' (registerSecretEndstate e revealed hash) where
  expires lock hl := h.expires lock hl.of_register
  unknown hsecret := absurd hsecret hknown
  unregistered _ := by
    have honchain := (h.unknown rfl).2
    unfold registerSecretEndstate
    split <;> exact honchain
  learned _ _ := by
    unfold registerSecretEndstate
    split
    · assumption
    · exact Dict.get?_del_self _ _

theorem Held.registers {secret' : Option Secret} {revealed : Secret} (h : Held hash exp secret seen e)
    (hr : registerOnchainSecretEndstate e revealed hash now = .ok e')
    (hknown : secret' ≠ none) : Held hash exp secret' true e' where
  expires lock hl := h.expires lock (hl.of_registerOnchain hr)
  unknown hsecret := absurd hsecret hknown
  unregistered hs := by cases hs
  learned _ hs := by cases hs

theorem held_addLock {bp : BalanceProofState} {locks : List EncodedData} {lock : HashTimeLockState}
    (fresh : isLockPending e hash = false) (hx : lock.expiration = exp) :
    Held hash exp none seen (addLock e bp locks lock) := by
  simp only [isLockPending, decide_eq_false_iff_not, not_or, Dict.not_mem_iff] at fresh
  refine ⟨expiresAt_addLock ?_ hx, fun _ => ⟨fresh.2.1, fresh.2.2⟩, fun _ => fresh.2.2,
    fun h => absurd rfl h⟩
  simp only [isLockPending, decide_eq_false_iff_not, not_or, Dict.not_mem_iff]
  exact fresh

/-- A pending lock whose secret was learned, but not registered, is unlocked off-chain. -/
theorem Held.known (h : Held hash exp secret false e) (hsecret : secret ≠ none)
    (hpending : isLockPending e hash = true) : isSecretKnown e hash = true := by
  have hlocked := h.learned hsecret rfl
  simp only [isLockPending, Dict.mem_iff, hlocked, decide_eq_true_eq] at hpending
  simp only [isSecretKnown, decide_eq_true_eq, Dict.mem_iff]
  rcases hpending with ⟨_, h⟩ | h
  · cases h
  · exact h

end Held

/-! ## Started registrations -/

section Started

variable {cs : Channels} {a2c : AddressesToChannel} {now : Nat}
  {mediate r : Iteration MediatorTransferState} {p : MediationPairState}

def isMarked (p : MediationPairState) : Bool := p.payerState = .payerWaitingSecretReveal

theorem hasSecretRegistrationStarted_iff {pairs : List MediationPairState} :
    hasSecretRegistrationStarted net cs pairs hash = true ↔
      (∃ p ∈ pairs, ∃ c, getPayerChannel net cs p = some c ∧
        isSecretKnownOnchain c.partnerState hash = true) ∨ ∃ p ∈ pairs, isMarked p = true := by
  simp only [hasSecretRegistrationStarted, isMarked, Bool.or_eq_true, List.any_eq_true,
    List.mem_filterMap, decide_eq_true_eq]
  constructor
  · rintro (⟨c, ⟨p, hp, hc⟩, hknown⟩ | hmarked)
    · exact .inl ⟨p, hp, c, hc, hknown⟩
    · exact .inr hmarked
  · rintro (⟨p, hp, c, hc, hknown⟩ | hmarked)
    · exact .inl ⟨c, ⟨p, hp, hc⟩, hknown⟩
    · exact .inr hmarked

section

variable (h : BlockHandled P net st cs a2c now mediate r)
  (hw : Watched net now mediate r removed removals registrations)

include h hw

/-- The pairs that a block looks at are those of the task, and a new one. -/
theorem Watched.origin (hp : p ∈ removed) :
    p.payerTransfer ∈ incoming st ∧ (p.payerState = .payerPending ∨
      ∃ p₀ ∈ st.transfersPair, SameTransfers p₀ p ∧ p.payerState = p₀.payerState) := by
  obtain ⟨p₀, hp₀, out, hexpired, -⟩ := exists_mem_of_forall₂ hw.expires.each hp
  obtain ⟨hsame, hpayer⟩ := hexpired.same
  constructor
  · rw [hsame.payer]
    exact h.retried.mem_incoming _ (payerTransfer_mem hp₀)
  · rcases h.retried.mem_pairs p₀ hp₀ with hp₀ | hnew
    · exact .inr ⟨p₀, hp₀, hsame, hpayer⟩
    · exact .inl (hpayer.trans hnew.2)

theorem Watched.remains (hp : p ∈ st.transfersPair) :
    ∃ p₁ ∈ removed, SameTransfers p p₁ ∧ p₁.payerState = p.payerState := by
  have hmem : p ∈ mediate.newState.transfersPair := by
    cases h.retried with
    | idle | waits => exact hp
    | forwards => exact List.mem_append_left _ hp
  obtain ⟨p₁, hp₁, out, hexpired, -⟩ := exists_mem_of_forall₂ hw.expires.each.flip hmem
  exact ⟨p₁, hp₁, hexpired.same.1, hexpired.same.2⟩

end

theorem payer_of_told {p' : MediationPairState} {closed revealed paid : List MediationPairState}
    {reveals unlocks : List Event}
    (hrevealed : Visited (Revealed secret) closed revealed reveals)
    (hpaid : Visited (Balanced net cs now secret) revealed paid unlocks)
    (hp' : p' ∈ paid) : ∃ p ∈ closed, SameTransfers p p' ∧
      (p'.payerState = p.payerState ∨ p'.payerState = .payerSecretRevealed) := by
  obtain ⟨p₁, hp₁, out₁, hbalanced, -⟩ := exists_mem_of_forall₂ hpaid.each hp'
  obtain ⟨p, hp, out, hreveal, -⟩ := exists_mem_of_forall₂ hrevealed.each hp₁
  refine ⟨p, hp, hreveal.same.trans hbalanced.same, ?_⟩
  have hpayer : p'.payerState = p₁.payerState := by cases hbalanced <;> rfl
  rw [hpayer]
  cases hreveal with
  | sent => exact .inr rfl
  | kept => exact .inl rfl

theorem mem_setOffchainRevealState {pairs : List MediationPairState} {payee : Address}
    (hp : p ∈ setOffchainRevealState pairs payee) :
    ∃ p₀ ∈ pairs, SameTransfers p₀ p ∧ p.payerState = p₀.payerState := by
  obtain ⟨p₀, hp₀, rfl⟩ := List.mem_map.mp hp
  refine ⟨p₀, hp₀, ?_⟩
  split
  · exact ⟨⟨rfl, rfl, rfl⟩, rfl⟩
  · exact ⟨.refl p₀, rfl⟩

theorem PayerExpired.isMarked {p' p : MediationPairState}
    (h : PayerExpired net cs now p p') (hmark : Mediator.isMarked p' = true) :
    Mediator.isMarked p = true := by
  cases h with
  | expired => cases hmark
  | kept => exact hmark

theorem registered_payer {payee : Address} {registered : Channels} {q : MediationPairState}
    {c' : NettingChannelState}
    (register : registerSecret net (fun c => .ok (registerOffchainSecret c secret hash))
      st cs = .ok registered) (hq : q ∈ setOffchainRevealState st.transfersPair payee)
    (hc' : getPayerChannel net registered q = some c') :
    ∃ p ∈ st.transfersPair, ∃ c, getPayerChannel net cs p = some c ∧
      c' = registerOffchainSecret c secret hash := by
  obtain ⟨p, hp, hsame, -⟩ := mem_setOffchainRevealState hq
  rw [getPayerChannel, payerRef, hsame.payer] at hc'
  obtain ⟨c, hc, heq⟩ := registerOffchainSecret_get? register (payerRef_mem hp) hc'
  exact ⟨p, hp, c, hc, heq⟩

theorem Registration.emitted {claim : NettingChannelState → Nat → Prop} {out : List Event}
    (h : Registration net cs claim p out) (hstatus : ∀ c, getPayerChannel net cs p = some c →
      getStatus c ∈ channelStatesUpToClosed) : out.any isRegistration = true := by
  obtain ⟨c, secret, x, bh, hc, -, rfl⟩ := h
  rw [eventsForOnchainSecretreveal, if_pos (hstatus c hc)]
  rfl

end Started

/-- The ends of the payers of a mediation. -/
structure Holding (net : TokenNetworkRef) (hash : SecretHash) (seen : Bool) (s : Mediation) :
    Prop where
  filed : ∀ ref c, s.channels.get? ref = some c → Filed ref c
  received : ∀ st ∈ s.task, ∃ expiration, Uniform hash expiration st ∧
    Received (Held hash expiration st.secret seen) net s.channels st

theorem Holding.start {start : Nat} {log : List (Input × List Event)}
    (run : Run (Mediation.Next P net hash) (.start start) log s) (absent : s.task = none) :
    Holding net hash false s := by
  refine ⟨run.invariant (I := fun s => ∀ ref c, s.channels.get? ref = some c → Filed ref c)
    (fun _ _ h => (by cases h)) fun _ _ _ hi hnext => hnext.filed hi, fun st hstate => ?_⟩
  rw [absent] at hstate
  cases hstate

theorem Holding.next {s' : Mediation} {seen : Bool} (h : Holding net hash seen s)
    (unused : Unused P net s label.1) (hnext : s.Next P net hash label s') :
    Holding net hash (seen || isOnchainReveal label.1) s' := by
  have hseen : ∀ input, (seen || isOnchainReveal input) = false → seen = false := fun _ hs =>
    (Bool.or_eq_false_iff.mp hs).1
  refine ⟨hnext.filed h.filed, fun st' hstate' => ?_⟩
  cases hnext.seen h.filed with
  | surrounded _ hsur =>
    rw [hsur.task] at hstate'
    obtain ⟨x, huniform, hreceived⟩ := h.received st' hstate'
    refine ⟨x, huniform, fun t ht c' hc' => ?_⟩
    obtain ⟨c, hc, hsame⟩ := hsur.channels st' hstate' _ (incomingRef_mem ht) c' hc'
    exact (hreceived t ht c hc).loses hsame.2.losesAt (hseen _)
  | started absent hk hinit task cs =>
    rw [cs]
    have hnew := task st' hstate'
    have hsecret : st'.secret = none := by
      cases hinit with
      | rejected => cases hnew
      | accepted _ _ _ mediated =>
        cases hnew
        cases mediated <;> rfl
    rw [hsecret]
    exact ⟨_, hinit.uniform hk st' hnew,
      hinit.received h.filed hk absent unused (fun _ _ _ _ fresh _ hx => held_addLock fresh hx) st' hnew⟩
  | @reacted st sc bh _ r htask dispatched hreaction _ task cs =>
    rw [cs]
    have hnew := task st' hstate'
    obtain ⟨x, huniform, hreceived⟩ := h.received st htask
    refine ⟨x, hreaction.uniform huniform dispatched st' hnew, ?_⟩
    have hall : Received (fun e => ∀ st' ∈ r.newState, Held hash x st'.secret
        (seen || isOnchainReveal (.task sc bh)) e) net r.channels st' := by
      refine hreaction.received htask h.filed huniform dispatched (fun _ => unused) hreceived ?_ ?_ ?_ ?_
        st' hnew
      · intro _ hunknown e bp locks lock fresh _ hx st' hstate'
        rw [hunknown st' hstate']
        exact held_addLock fresh hx
      · intro hsecret e e' he hl st' hstate'
        rw [hsecret st' hstate']
        exact he.loses hl (hseen _)
      · intro hnone hknown e revealed he st' hstate'
        rw [hnone] at he
        exact he.learns revealed (hknown st' hstate')
      · intro reveal hchange hknown e e' he hr st' hstate'
        have htrue : (seen || isOnchainReveal (.task sc bh)) = true := by
          rw [hchange]
          exact Bool.or_true _
        rw [htrue]
        exact he.registers hr (hknown st' hstate')
    exact fun t ht c hc => hall t ht c hc st' hnew

theorem openAll_task (opened : List (ChannelRef × NettingChannelState)) (s : Mediation) :
    (openAll s opened).task = s.task := by
  induction opened generalizing s with
  | nil => rfl
  | cons entry rest ih => exact ih _

theorem exists_begins {opened : List (ChannelRef × NettingChannelState)} {msgId : MessageID}
    {init : ActionInitMediator} {bh : BlockHash}
    (hopened : ∀ entry ∈ opened, OpenedAs net entry.1 entry.2)
    (hnodup : (opened.map Prod.fst).Nodup) {p : (Input × List Event) × Mediation → Bool}
    (h : ((opening now opened).2.next P net hash (Unused P net) msgId
      (.task (.actionInitMediator init) bh)).any p = true) :
    ∃ label s, s.Begins P net hash ∧ p (label, s) = true := by
  have hrun := openAll_run P hash (fun _ _ _ => trivial) (G := fun _ _ => True) opened
    (.start (Mediation.start now)) rfl hopened hnodup fun _ _ => rfl
  obtain ⟨es, s, ⟨unused, hnext⟩, hp⟩ := Mediation.exists_next h
  exact ⟨_, s, ⟨now, _, _, init, bh, es, hrun.mono fun _ _ _ h => h.2, openAll_task _ _, unused,
    hnext⟩, hp⟩

/-- The channels with the payer 2, the payee 3 and a further payee 4. -/
def refundNeighbours : List (ChannelRef × NettingChannelState) :=
  [(toyRef 1, toyChannelWith 1 2 5), (toyRef 2, toyChannelWith 2 3 500), (toyRef 3, toyChannelWith 3 4 500)]

theorem refundNeighbours_opened :
    (∀ entry ∈ refundNeighbours, OpenedAs toyTokenNetwork entry.1 entry.2) ∧
      (refundNeighbours.map Prod.fst).Nodup := by
  refine ⟨fun entry hentry => ?_, ?_⟩
  · simp only [refundNeighbours, List.mem_cons, List.not_mem_nil, or_false] at hentry
    rcases hentry with rfl | rfl | rfl
    · exact toyChannelWith_opened 2 _ (by decide)
    · exact toyChannelWith_opened 3 _ (by decide)
    · exact toyChannelWith_opened 4 _ (by decide)
  · decide

/-- A payment to the address 4, over the neighbour 3 or directly. -/
def refundInit (expiration : Fin 65536) : Input :=
  .task (.actionInitMediator { toyInit (toyLockUntil expiration 50 7) 50 with
    candidateRouteStates := [{ route := [1, 3, 4] }, { route := [1, 4] }] }) []

/-- The neighbour 3 sends the transfer back. -/
def refundBy3 (expiration : Fin 65536) : Input :=
  .task (.receiveTransferRefund
    { sender := 3
      balanceProof := (toyReceived 2 3 (toyLockUntil expiration 50 7) 50).balanceProof
      transfer := toyReceived 2 3 (toyLockUntil expiration 50 7) 50 }) []

/-- One height: the block reaches the channels, then the task. -/
def heightOf (now : Nat) : List Input :=
  [.tick now,
    .channel (toyRef 1) (.stateChange (.block ⟨now, []⟩) now []),
    .channel (toyRef 2) (.stateChange (.block ⟨now, []⟩) now []),
    .channel (toyRef 3) (.stateChange (.block ⟨now, []⟩) now []),
    .task (.block ⟨now, []⟩) []]

def blocksHandled (log : List (Input × List Event)) : List Nat :=
  log.filterMap fun label =>
    match label.1 with
    | .task (.block block) _ => some block.blockNumber
    | _ => none

end Raiden.Mediator
