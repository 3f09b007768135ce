import Raiden.Mediator.Registration

/-! # Reports of an expired waiting transfer

A transfer that could not be forwarded waits, and is reported once its lock expired. The
report marks it as expired, but the next block first tries to forward it again, and the
attempt replaces the waiting transfer by an unmarked one. -/
namespace Raiden.Mediator

open Lib Channel

variable (P : Primitives) (net : TokenNetworkRef) (hash : SecretHash)

def Mediation.waiting (s : Mediation) : Option WaitingTransferState := s.task.bind (·.waitingTransfer)

def dueWaiting (now : Nat) (w : WaitingTransferState) : Bool :=
  getReceiverExpirationThreshold w.transfer.lock.expiration ≤ now

def payerPresent (cs : Channels) (w : WaitingTransferState) : Bool :=
  (cs.get? (waitingRef net w)).isSome

/-- A waiting transfer after an attempt to forward it: without its payer channel there is none. -/
def retriedWaiting (cs : Channels) (w : WaitingTransferState) : WaitingTransferState :=
  if payerPresent net cs w then { transfer := w.transfer } else w

def waitingReport (cs : Channels) (now : Nat) (w : WaitingTransferState) : List Event :=
  (expiredWaiting now (retriedWaiting net cs w)).2

/-- A pair as a block hands it to `events_for_expired_pairs`, from the pair before the block and
after it: the payee is already marked, and the payer too if the registration starts with it. -/
def handedPair (cs : Channels) (now : Nat) (p p' : MediationPairState) : MediationPairState :=
  markIf (inDanger net cs now) { p with payeeState := p'.payeeState }

def pairReports (now : Nat) (s s' : Mediation) : List Event :=
  ((s.task.elim [] (·.transfersPair)).zip (s'.task.elim [] (·.transfersPair))).flatMap fun p =>
    (expiredPair net s'.channels now (handedPair net s'.channels now p.1 p.2)).2

/-- A mediation whose transfer stays waiting, with what happened to it so far. -/
structure Watch where
  mediation : Mediation
  reports : Nat := 0
  /-- A block came at which the lock was expired. -/
  due : Bool := false
  /-- Another one came after it, with the payer channel still there. -/
  repeated : Bool := false

/-- The reports of a step are counted on the events that are emitted: those of a block that
are not for the pairs, and all of any other step. -/
inductive Watch.Next (o : Watch) : Input × List Event → Watch → Prop
  | block {w w' : WaitingTransferState} {block : Block} {bh : BlockHash} {out report : List Event}
      {s' : Mediation} (before : o.mediation.waiting = some w) (after : s'.waiting = some w')
      (step : o.mediation.Next P net hash (.task (.block block) bh, out) s')
      (reported : out.filter isReport = pairReports net block.blockNumber o.mediation s' ++ report) :
      Next o (.task (.block block) bh, out)
        { mediation := s'
          reports := o.reports + report.length
          due := o.due || dueWaiting block.blockNumber w
          repeated := o.repeated || (o.due && dueWaiting block.blockNumber w &&
            payerPresent net o.mediation.channels w) }
  | other {label : Input × List Event} {s' : Mediation}
      (other : ∀ block bh, label.1 ≠ .task (.block block) bh)
      (stays : s'.waiting = o.mediation.waiting) (step : o.mediation.Next P net hash label s') :
      Next o label { o with
        mediation := s', reports := o.reports + (taskEvents [label]).countP isReport }

section Retry

variable (cs : Channels) (now : Nat) (w : WaitingTransferState)

theorem expiredWaiting_retried :
    (expiredWaiting now (retriedWaiting net cs w)).1.transfer = w.transfer ∧
      ((expiredWaiting now (retriedWaiting net cs w)).1.state = .expired ↔
        dueWaiting now w = true ∨ payerPresent net cs w = false ∧ w.state = .expired) := by
  unfold retriedWaiting expiredWaiting dueWaiting
  cases payerPresent net cs w <;>
    by_cases hdue : getReceiverExpirationThreshold w.transfer.lock.expiration ≤ now <;>
    by_cases hstate : w.state = .expired <;> simp [hdue, hstate]

/-- The mark only counts while the payer channel is gone. -/
theorem length_waitingReport :
    (waitingReport net cs now w).length =
      if dueWaiting now w = true ∧ (payerPresent net cs w = true ∨ w.state ≠ .expired)
      then 1 else 0 := by
  unfold waitingReport retriedWaiting expiredWaiting dueWaiting
  cases payerPresent net cs w <;>
    by_cases hdue : getReceiverExpirationThreshold w.transfer.lock.expiration ≤ now <;>
    by_cases hstate : w.state = .expired <;> simp [hdue, hstate]

end Retry

section Steps

variable {P net hash} {s s' : Mediation} {label : Input × List Event}

theorem Mediation.Next.blockNumber_le (h : s.Next P net hash label s') :
    s.blockNumber ≤ s'.blockNumber := by
  cases h with
  | tick later => exact Nat.le_of_lt later
  | _ => exact Nat.le_refl _

theorem PayerExpired.payeeState_eq {cs : Channels} {now : Nat} {p p' : MediationPairState}
    (h : PayerExpired net cs now p p') : p'.payeeState = p.payeeState := by
  cases h <;> rfl

theorem handedPair_eq {p p₁ : MediationPairState} {out : List Event} (h : PayeeExpired p p₁ out)
    (cs : Channels) (now : Nat) :
    handedPair net cs now p (expiredPair net cs now (markIf (inDanger net cs now) p₁)).1 =
      markIf (inDanger net cs now) p₁ := by
  have hpayee : (expiredPair net cs now (markIf (inDanger net cs now) p₁)).1.payeeState =
      p₁.payeeState := by
    rw [(expiredPair_spec _).payeeState_eq]
    rcases markIf_inDanger net cs now p₁ with hmark | ⟨hmark, -⟩ <;> rw [hmark]
  rw [handedPair, hpayee]
  cases h <;> rfl

theorem flatMap_handedPair {pairs removed : List MediationPairState} {removals : List Event}
    (h : Visited PayeeExpired pairs removed removals) (cs : Channels) (now : Nat) :
    (pairs.zip ((removed.map (markIf (inDanger net cs now))).map
        fun p => (expiredPair net cs now p).1)).flatMap
        (fun p => (expiredPair net cs now (handedPair net cs now p.1 p.2)).2) =
      (removed.map (markIf (inDanger net cs now))).flatMap fun p => (expiredPair net cs now p).2 := by
  have heach := h.each
  clear h
  induction heach with
  | nil => rfl
  | cons hp _ ih =>
    obtain ⟨_, hexpired, -⟩ := hp
    simp only [List.map_cons, List.zip_cons_cons, List.flatMap_cons, handedPair_eq hexpired, ih]

theorem revealed_not_isReport {secret : Secret} {pairs pairs' : List MediationPairState}
    {out : List Event} (h : Visited (Revealed secret) pairs pairs' out) : ∀ e ∈ out, isReport e = false := by
  intro e he
  obtain ⟨_, _, _, -, hrevealed, he⟩ := h.only e he
  cases hrevealed with
  | sent =>
    rw [List.mem_singleton.mp he]
    rfl
  | kept => cases he

theorem balanced_not_isReport {cs : Channels} {now : Nat} {secret : Secret}
    {pairs pairs' : List MediationPairState} {out : List Event}
    (h : Visited (Balanced net cs now secret) pairs pairs' out) : ∀ e ∈ out, isReport e = false := by
  intro e he
  obtain ⟨_, _, _, -, hbalanced, he⟩ := h.only e he
  cases hbalanced with
  | paid =>
    rcases List.mem_pair.mp he with rfl | rfl <;> rfl
  | kept => cases he

theorem Reaction.not_isReport {cs : Channels} {a2c : AddressesToChannel} {now : Nat}
    {task : Option MediatorTransferState} {sc : PaymentStateChange}
    {r : Iteration (Option MediatorTransferState)} (h : Reaction P net cs a2c now task sc r)
    (other : ∀ block, sc ≠ .block block) : ∀ e ∈ r.events, isReport e = false := by
  have hsilent : Silent r.events → ∀ e ∈ r.events, isReport e = false := fun h e he => (h e he).2.1
  cases h with
  | ignored => exact hsilent .nil
  | initiated h =>
    cases h with
    | rejected quiet => exact hsilent quiet
    | accepted _ _ quiet mediated => exact hsilent (quiet.append mediated.quiet)
  | block => exact absurd rfl (other _)
  | refunded h =>
    cases h with
    | rejected quiet => exact hsilent quiet
    | accepted _ _ _ _ _ quiet mediated => exact hsilent (quiet.append mediated.quiet)
  | learned _ _ h =>
    cases h with
    | intro _ hfirst hrevealed hpaid =>
      intro e he
      rcases List.mem_append.mp he with he | he
      · rcases List.mem_append.mp he with he | he
        · rcases List.mem_append.mp he with he | he
          · exact (unexpectedReveal_quiet _ e he).2.1
          · exact revealed_not_isReport hrevealed e he
        · exact balanced_not_isReport hpaid e he
      · exact (isRegistration_only (registrations_isRegistration hfirst e he)).2
  | learnedOnchain _ h =>
    cases h with
    | intro _ hpaid =>
      intro e he
      rcases List.mem_append.mp he with he | he
      · exact (unexpectedReveal_quiet _ e he).2.1
      · exact balanced_not_isReport hpaid e he
  | unlocked h => exact hsilent h.unlocking.quiet
  | expired h => exact hsilent h.quiet

theorem Mediation.Next.not_isReport (h : s.Next P net hash label s')
    (other : ∀ block bh, label.1 ≠ .task (.block block) bh) : (taskEvents [label]).countP isReport = 0 := by
  cases h with
  | @task sc bh _ _ r _ _ run =>
    obtain ⟨iter, hreaction, -, rfl⟩ := Mediation.Next.reaction run
    have hnone := hreaction.not_isReport fun block heq => other block bh (by rw [heq])
    refine List.countP_eq_zero.mpr fun e he => ?_
    simp only [taskEvents, List.flatMap_singleton, clearIfFinalized_events] at he
    simp [hnone e he]
  | _ => rfl

theorem Mediation.Next.waits {block : Block} {bh : BlockHash} {out : List Event}
    {w w' : WaitingTransferState} (h : s.Next P net hash (.task (.block block) bh, out) s')
    (hw : s.waiting = some w) (hw' : s'.waiting = some w') :
    block.blockNumber = s.blockNumber ∧
      w' = (expiredWaiting block.blockNumber (retriedWaiting net s.channels w)).1 ∧
      out.filter isReport = pairReports net block.blockNumber s s' ++
        waitingReport net s.channels block.blockNumber w := by
  cases h with
  | @task _ _ _ _ r dispatched _ run =>
    obtain ⟨iter, hreaction, -, rfl⟩ := Mediation.Next.reaction run
    obtain ⟨task', htask', hw'⟩ := Option.bind_eq_some_iff.mp hw'
    obtain ⟨st, hstate, hw⟩ := Option.bind_eq_some_iff.mp hw
    rw [hstate] at hreaction
    refine ⟨dispatched.2, ?_⟩
    cases hreaction with
    | ignored _ idle => cases idle block rfl
    | @block _ _ mediate r handled =>
      obtain ⟨removed, removals, registrations, hwatched⟩ := handled.watched
      obtain ⟨pairs, hrest⟩ := handled.rest
      cases clearIfFinalized_newState htask'
      have hmediate : mediate.newState.waitingTransfer = some (retriedWaiting net s.channels w) ∧
          mediate.newState.transfersPair = st.transfersPair := by
        cases hafter : mediate.newState.waitingTransfer with
        | none =>
          rw [hrest, hafter] at hw'
          cases hw'
        | some after =>
          cases handled.retried with
          | idle absent =>
            cases hafter.symm.trans hw
            exact ⟨by simp [retriedWaiting, payerPresent, absent w hw], rfl⟩
          | waits hwaiting found =>
            cases hwaiting.symm.trans hw
            cases hafter
            exact ⟨by simp [retriedWaiting, payerPresent, found], rfl⟩
          | forwards => cases hafter
      constructor
      · rw [hrest, hmediate.1] at hw'
        exact (Option.some.inj hw').symm
      · have hreports := hwatched.reports handled.retried.quiet
        have hexpires := hwatched.expires
        rw [hmediate.2] at hexpires
        rw [hmediate.1, ← flatMap_handedPair hexpires, ← hwatched.pairs_eq] at hreports
        have hnew : (clearIfFinalized net ⟨r.channels, some r.newState, r.events⟩).newState =
            some r.newState := htask'
        simp only [clearIfFinalized_events, pairReports, clearIfFinalized_channels, hstate, hnew,
          Option.elim_some]
        exact hreports

end Steps

/-- What is known of a transfer that started waiting unmarked. -/
structure Watch.Counted (transfer : LockedTransferSignedState) (o : Watch) : Prop where
  waits : ∃ w, o.mediation.waiting = some w ∧ w.transfer = transfer ∧
    if o.due then w.state = .expired ∧ dueWaiting o.mediation.blockNumber w = true else w.state ≠ .expired
  reports : if o.due then 1 ≤ o.reports ∧ (o.reports ≤ 1 ↔ o.repeated = false)
    else o.reports = 0 ∧ o.repeated = false

theorem Watch.Counted.next {P : Primitives} {net : TokenNetworkRef} {hash : SecretHash}
    {tr : LockedTransferSignedState} {o o' : Watch} {label : Input × List Event}
    (h : o.Counted tr) (hnext : Watch.Next P net hash o label o') : o'.Counted tr := by
  obtain ⟨⟨w, hw, rfl, hmark⟩, hreports⟩ := h
  cases hnext with
  | other _ stays step =>
    refine ⟨⟨w, stays.trans hw, rfl, ?_⟩, by rwa [step.not_isReport ‹_›, Nat.add_zero]⟩
    have hle := step.blockNumber_le
    cases hdue : o.due <;> simp_all [dueWaiting]
    omega
  | @block w₀ w' block _ _ report s' before after step reported =>
    cases before.symm.trans hw
    obtain ⟨hnumber, rfl, hwaits⟩ := step.waits hw after
    -- what is left of the reports without those of the pairs is the one of the waiting transfer
    cases List.append_cancel_left (reported.symm.trans hwaits)
    have hblock : s'.blockNumber = block.blockNumber := by
      cases step
      exact hnumber.symm
    obtain ⟨htransfer, hstate⟩ := expiredWaiting_retried net o.mediation.channels
      block.blockNumber w
    have hlength := length_waitingReport net o.mediation.channels block.blockNumber w
    have hsame : dueWaiting s'.blockNumber (expiredWaiting block.blockNumber
        (retriedWaiting net o.mediation.channels w)).1 = dueWaiting block.blockNumber w := by
      rw [dueWaiting, htransfer, hblock, dueWaiting]
    cases hdue : o.due with
    | false =>
      simp only [hdue, Bool.false_eq_true, if_false] at hmark hreports
      refine ⟨⟨_, after, htransfer, ?_⟩, ?_⟩
      all_goals cases hblockDue : dueWaiting block.blockNumber w
      · simp [hstate, hblockDue, hmark]
      · simp [hstate, hsame, hblockDue]
      · simp [hlength, hblockDue, hreports]
      · simp [hlength, hblockDue, hmark, hreports]
    | true =>
      -- blocks come in order, so the lock is expired at this one too
      simp only [hdue, if_true] at hmark hreports
      have hblockDue : dueWaiting block.blockNumber w = true := hnumber ▸ hmark.2
      refine ⟨⟨_, after, htransfer, ?_⟩, ?_⟩
      · simp [hstate, hsame, hblockDue]
      · cases hpresent : payerPresent net o.mediation.channels w <;>
          simp [hlength, hblockDue, hpresent, hmark.1] <;> omega

/-- A waiting transfer is reported at most once if and only if, once a block came at which its
lock was expired, no other one finds the payer channel. The count follows every step of the
mediation in which the transfer stays waiting. -/
theorem waiting_reported_once_iff {P : Primitives} {net : TokenNetworkRef} {hash : SecretHash}
    {start : Mediation} {transfer : LockedTransferSignedState} {log : List (Input × List Event)} {o : Watch}
    (hstart : start.waiting = some { transfer })
    (h : Run (Watch.Next P net hash) { mediation := start } log o) :
    (o.reports ≤ 1 ↔ o.repeated = false) ∧
      ∀ label s', o.mediation.Next P net hash label s' →
        (match label.1 with
          | .task (.block _) _ => s'.waiting.isSome = true
          | _ => s'.waiting = o.mediation.waiting) →
        ∃ o', Watch.Next P net hash o label o' ∧ o'.mediation = s' := by
  have hcounted : o.Counted transfer :=
    h.invariant ⟨⟨_, hstart, rfl, by simp⟩, by simp⟩ fun _ _ _ ho hnext => ho.next hnext
  constructor
  · have hreports := hcounted.reports
    cases hdue : o.due with
    | true => simpa [hdue] using (hdue ▸ hreports).2
    | false => simp_all
  · intro label s' step stays
    obtain ⟨w, hw, -⟩ := hcounted.waits
    split at stays
    · next block bh hinput =>
      obtain ⟨input, out⟩ := label
      cases hinput
      obtain ⟨w', hw'⟩ := Option.isSome_iff_exists.mp stays
      obtain ⟨-, -, hreported⟩ := step.waits hw hw'
      exact ⟨_, .block hw hw' step hreported, rfl⟩
    · next hother => exact ⟨_, .other hother stays step, rfl⟩

/-! ## A transfer without a route -/

/-- The lock of a payment expires at block 11, which is too early to forward it. -/
def waitUntil (blocks : List Nat) : List Input :=
  forwardUntil 11 :: blocks.flatMap fun n => [.tick n, .task (.block ⟨n, []⟩) []]

/-- The first block after the expiration reports the transfer. -/
theorem waiting_reported_once :
    ∃ start transfer log o, start.waiting = some { transfer } ∧
      Run (Watch.Next toyPrimitives toyTokenNetwork 7) { mediation := start } log o ∧ o.due = true ∧
      o.reports ≤ 1 := by
  have hexec : (execute (Mediation.next toyPrimitives toyTokenNetwork 7 (fun _ _ => True) 0)
      [forwardUntil 11, .tick 16] (toyStart 50 50)).any (fun done =>
        done.2.waiting.any (fun w => w.state = .waiting ∧ dueWaiting 16 w = true) = true ∧
        (done.2.next toyPrimitives toyTokenNetwork 7 (fun _ _ => True) 0 (.task (.block ⟨16, []⟩) [])).any
          (fun next => next.2.waiting.isSome) = true) = true := by decide +kernel
  obtain ⟨log, start, -, hp⟩ := toyStart_run (fun _ _ _ => trivial) hexec
  obtain ⟨hwaiting, hnext⟩ := of_decide_eq_true hp
  obtain ⟨⟨transfer, st⟩, hwaiting, hstate⟩ := (Option.any_eq_true _ _).mp hwaiting
  obtain ⟨rfl, hdue⟩ := of_decide_eq_true hstate
  obtain ⟨out, s', hnext, hafter⟩ := Mediation.exists_next hnext
  obtain ⟨w', hafter⟩ := Option.isSome_iff_exists.mp hafter
  have hstep : Watch.Next toyPrimitives toyTokenNetwork 7 { mediation := start } _ _ :=
    .block hwaiting hafter hnext.2 (hnext.2.waits hwaiting hafter).2.2
  have hrun := (Run.start _).step hstep
  exact ⟨start, _, _, _, hwaiting, hrun, hdue, (waiting_reported_once_iff hwaiting hrun).1.mpr rfl⟩

/-- Two blocks after the expiration both report the transfer; there is no pair. -/
theorem waiting_reported_twice :
    ∃ log s, Run (Mediation.Next toyPrimitives toyTokenNetwork 7) (.start 1) log s ∧
      s.task.any (fun st => st.transfersPair = [] ∧ st.waitingTransfer.isSome = true) = true ∧
      (log.flatMap Prod.snd).countP isReport = 2 := by
  have hexec : (execute (Mediation.next toyPrimitives toyTokenNetwork 7 (fun _ _ => True) 0)
      (waitUntil [16, 17]) (toyStart 50 50)).any (fun done =>
        done.2.task.any (fun st => st.transfersPair = [] ∧ st.waitingTransfer.isSome = true) = true ∧
          (done.1.flatMap Prod.snd).countP isReport = 2) = true := by decide +kernel
  obtain ⟨log, s, hrun, hp⟩ := toyStart_run (fun _ _ _ => trivial) hexec
  exact ⟨log, s, hrun.mono fun _ _ _ h => h.2, of_decide_eq_true hp⟩

end Raiden.Mediator
