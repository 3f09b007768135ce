import Raiden.Channel.LockInvariant
import Raiden.Store
import Raiden.Target.Transition

/-! # A target in its environment

What the task of a target does with each state change, and the runs of one
task: blocks pass, other payments and on-chain events change the channel, and
the node hands state changes to the task as long as the channel exists. -/
namespace Raiden.Target

open Lib Channel

variable {P : Primitives} {init : ActionInitTarget} {es : List Event} {c : NettingChannelState}
  {sc : PaymentStateChange} {r : TargetIteration}

/-! ## The reactions of a running task -/

def expirationReport (transfer : LockedTransferSignedState) : Event :=
  .eventUnlockClaimFailed transfer.paymentIdentifier transfer.lock.secrethash lockExpiredReason

theorem isReport_expirationReport (tr : LockedTransferSignedState) :
    isReport (expirationReport tr) = true := decide_eq_true (Eq.refl lockExpiredReason)

/-- What a running task does with a state change, before the final check. -/
inductive Reaction (P : Primitives) (now : Nat) (st : TargetTransferState)
    (c : NettingChannelState) : PaymentStateChange → TargetIteration → Prop
  | ignored {change : PaymentStateChange}
      (unmatched : ∀ reveal, change = .contractReceiveSecretReveal reveal →
        reveal.secrethash ≠ st.transfer.lock.secrethash) :
      Reaction P now st c change ⟨c, some st, []⟩
  | reports {change : Block}
      (expired : (isLockExpired c.ourState st.transfer.lock change.blockNumber
        (getReceiverExpirationThreshold st.transfer.lock.expiration)).isOk = true)
      (unreported : st.state ≠ .expired) (current : change.blockNumber = now) :
      Reaction P now st c (.block change)
        ⟨c, some { st with state := .expired }, [expirationReport st.transfer]⟩
  | registers {change : Block} {secret : Secret}
      (known : isSecretKnownOffchain c.partnerState st.transfer.lock.secrethash = true)
      (unstarted : st.state ≠ .onchainSecretReveal) (current : change.blockNumber = now) :
      Reaction P now st c (.block change)
        ⟨c, some { st with state := .onchainSecretReveal },
          Raiden.eventsForOnchainSecretreveal c secret st.transfer.lock.expiration change.blockHash⟩
  | learned {change : ReceiveSecretReveal} {reveal : SendSecretReveal}
      (secrethash_eq : change.secrethash P = st.transfer.lock.secrethash)
      (unexpired : isTransferExpired st.transfer c now = false) :
      Reaction P now st c (.receiveSecretReveal change)
        ⟨registerOffchainSecret c change.secret (change.secrethash P),
          some { st with state := .offchainSecretReveal, secret := some change.secret },
          [.sendSecretReveal reveal]⟩
  | learnedOnchain {change : ContractReceiveSecretReveal} {c' : NettingChannelState}
      (secrethash_eq : change.secrethash = st.transfer.lock.secrethash)
      (register : registerOnchainSecret c change.secret change.secrethash change.blockNumber = .ok c') :
      Reaction P now st c (.contractReceiveSecretReveal change)
        ⟨c', some { st with state := .onchainUnlock, secret := some change.secret }, []⟩
  | unlocked {change : ReceiveUnlock} {c' : NettingChannelState} {es received : List Event}
      {newState : Option TargetTransferState}
      (step : Step P c (.receiveUnlock change st.transfer.payerAddressMetadata, received) c')
      (hstate : newState = none ∨ newState = some st ∧ c' = c)
      (quiet : Quiet es) :
      Reaction P now st c (.receiveUnlock change) ⟨c', newState, es⟩
  | expires {change : ReceiveLockExpired} {es : List Event} {newState : Option TargetTransferState}
      (hstate : newState = none ∨ newState = some st)
      (quiet : Quiet es) :
      Reaction P now st c (.receiveLockExpired change)
        ⟨(handleReceiveLockExpired P c change now st.transfer.payerAddressMetadata).newState,
          newState, es⟩

section Inversion

variable {now : Nat} {st : TargetTransferState} {c : NettingChannelState}

theorem eventsForOnchainSecretreveal_ok {bh : BlockHash} {r : TargetTransferState × List Event}
    (h : eventsForOnchainSecretreveal st c now bh = .ok r) :
    r = (st, []) ∨ isSecretKnownOffchain c.partnerState st.transfer.lock.secrethash = true ∧
      st.state ≠ .onchainSecretReveal ∧ ∃ secret, r = ({ st with state := .onchainSecretReveal },
        Raiden.eventsForOnchainSecretreveal c secret st.transfer.lock.expiration bh) := by
  simp only [eventsForOnchainSecretreveal, seq_ok_iff] at h
  obtain ⟨safe, -, h⟩ := h
  split at h
  · next hcond =>
    split at h
    · next b rest _ =>
      cases h
      exact .inr ⟨hcond.2.1, hcond.2.2, b :: rest, rfl⟩
    · exact absurd h throw_ne_ok
  · cases h
    exact .inl rfl

private theorem handleBlock_reaction {sc : Block} (current : sc.blockNumber = now)
    (h : handleBlock st c sc.blockNumber sc.blockHash = .ok r) :
    Reaction P now st c (.block sc) r := by
  unfold handleBlock at h
  dsimp only at h
  split at h
  · next hexpired =>
    cases h
    exact .reports hexpired.1 hexpired.2 current
  · split at h
    · simp only [seq_ok_iff] at h
      obtain ⟨⟨st', es⟩, hr, h⟩ := h
      cases h
      rcases eventsForOnchainSecretreveal_ok hr with heq | ⟨hknown, hstarted, secret, heq⟩ <;> cases heq
      · exact .ignored nofun
      · exact .registers hknown hstarted current
    · cases h
      exact .ignored nofun

private theorem handleUnlock_reaction {sc : ReceiveUnlock}
    (h : handleUnlock P st sc c = .ok r) : Reaction P now st c (.receiveUnlock sc) r := by
  unfold handleUnlock at h
  dsimp only at h
  rcases handleUnlock_cases P (c := c) sc st.transfer.payerAddressMetadata with
    ⟨msg, heq⟩ | ⟨lock, locks, -, heq⟩
  · have hstep := Step.receiveUnlock heq
    rw [heq] at h
    cases h
    refine .unlocked hstep (.inr ⟨rfl, rfl⟩) fun e he => ?_
    rw [List.mem_singleton] at he
    rw [he]
    exact ⟨rfl, rfl⟩
  · have hstep := Step.receiveUnlock heq
    rw [heq] at h
    cases h
    refine .unlocked hstep (.inl rfl) fun e he => ?_
    simp only [List.cons_append, List.nil_append, List.mem_cons, List.not_mem_nil, or_false] at he
    rcases he with rfl | rfl | rfl <;> exact ⟨rfl, rfl⟩

private theorem handleLockExpired_reaction (sc : ReceiveLockExpired) :
    Reaction P now st c (.receiveLockExpired sc) (handleLockExpired P st sc c now) := by
  have hquiet : Quiet (handleReceiveLockExpired P c sc now
      st.transfer.payerAddressMetadata).events := by
    intro e he
    rcases handleReceiveLockExpired_cases P (c := c) sc now
      st.transfer.payerAddressMetadata with ⟨msg, heq⟩ | ⟨lock, locks, -, heq⟩ <;>
      rw [heq, List.mem_singleton] at he <;> rw [he] <;> exact ⟨rfl, rfl⟩
  unfold handleLockExpired
  dsimp only
  split
  · refine .expires (.inl rfl) fun e he => ?_
    rcases List.mem_append.mp he with he | he
    · exact hquiet e he
    · rw [List.mem_singleton] at he
      rw [he]
      exact ⟨decide_eq_false (show "Lock expired" ≠ lockExpiredReason by decide), rfl⟩
  · exact .expires (.inr rfl) hquiet

theorem handleStateChange_ensures (sc : PaymentStateChange) :
    Ensures (handleStateChange P (some st) sc c now) (Reaction P now st c sc) := by
  cases sc with
  | block sc =>
    refine .bind (Ensures.lift fun _ h => assert_eq_ok.mp h) fun _ current => ?_
    exact .lift fun r h => handleBlock_reaction current h
  | receiveSecretReveal sc =>
    show Ensures (handleOffchainSecretreveal P st sc c now) _
    unfold handleOffchainSecretreveal
    split
    · next hvalid =>
      refine .after fun id => ?_
      exact .pure (.learned hvalid.1 hvalid.2)
    · exact .pure (.ignored nofun)
  | contractReceiveSecretReveal sc =>
    refine .lift fun r h => ?_
    unfold handleOnchainSecretreveal at h
    split at h
    · next hvalid =>
      simp only [seq_ok_iff] at h
      obtain ⟨c', hc', h⟩ := h
      cases h
      exact .learnedOnchain hvalid hc'
    · next hother =>
      cases h
      exact .ignored fun _ h => by cases h; exact hother
  | receiveUnlock sc => exact .lift fun r h => handleUnlock_reaction h
  | receiveLockExpired sc => exact .pure (handleLockExpired_reaction sc)
  | _ => exact .pure (.ignored nofun)

theorem stateTransition_ensures (sc : PaymentStateChange) :
    Ensures (stateTransition P (some st) sc c now) fun r =>
      Reaction P now st c sc r ∧ sanityCheck (some st) r.newState r.channel = .ok () := by
  refine .bind (handleStateChange_ensures sc) fun r hr => ?_
  exact .bind (Ensures.lift fun _ h => h) fun _ hsane => .pure ⟨hr, hsane⟩

def Operated (P : Primitives) (change : PaymentStateChange) (c c' : NettingChannelState) : Prop :=
  c' = c ∨ ∃ op es, (∀ ref, TaskOp P change ref c op) ∧ Step P c (op, es) c'

theorem Operated.of_step {c' : NettingChannelState} {op : ChannelOp} (h : Step P c (op, es) c')
    (hop : op.isLockOp = true) (hsame : op.secrethash P = sc.secrethash? P) : Operated P sc c c' :=
  Or.inr ⟨op, es, fun _ => ⟨hop, fun _ h => hsame.trans h⟩, h⟩

theorem Reaction.operated (h : Reaction P now st c sc r) : Operated P sc c r.channel := by
  cases h with
  | ignored | reports | registers => exact .inl rfl
  | learned => exact .of_step (.registerOffchainSecret c _ _) rfl rfl
  | learnedOnchain _ register => exact .of_step (.registerOnchainSecret register) rfl rfl
  | unlocked step => exact .of_step step rfl rfl
  | expires => exact .of_step (.receiveLockExpired c _ _ _) rfl rfl

theorem Reaction.unregistered {reveal : ContractReceiveSecretReveal}
    (h : Reaction P now st c (.contractReceiveSecretReveal reveal) r) : r.events = [] := by
  cases h <;> rfl

theorem handleInittarget_operated (init : ActionInitTarget) (c : NettingChannelState) (now : Nat) :
    Ensures (handleInittarget P init c now) fun r =>
      Operated P (.actionInitTarget init) c r.channel := by
  have hoperated : Operated P (.actionInitTarget init) c
      (handleReceiveLockedtransfer P c init.transfer init.transfer.payerAddressMetadata).1 :=
    Or.inr ⟨_, _, fun _ => ⟨rfl, nofun⟩, .receiveLockedtransfer c _ _⟩
  refine .after fun _ => ?_
  dsimp only
  split
  · split
    · exact .pure hoperated
    · refine .after fun safe => ?_
      split
      · refine .after fun _ => ?_
        exact .pure hoperated
      · exact .pure hoperated
  · refine .after fun _ => ?_
    exact .pure hoperated

/-- A running or a new task. -/
theorem stateTransition_operated (task : Option TargetTransferState) (sc : PaymentStateChange)
    (c : NettingChannelState) (now : Nat) :
    Ensures (stateTransition P task sc c now) fun r => Operated P sc c r.channel ∧
      ∀ reveal, sc = .contractReceiveSecretReveal reveal → r.events = [] := by
  cases task with
  | some st =>
    refine (stateTransition_ensures sc).mono fun r hr => ⟨hr.1.operated, ?_⟩
    rintro reveal rfl
    exact hr.1.unregistered
  | none =>
    refine .bind (Q := fun r => Operated P sc c r.channel ∧
      ∀ reveal, sc = .contractReceiveSecretReveal reveal → r.events = []) ?_ fun r hr =>
        Ensures.after fun _ => .pure hr
    cases sc with
    | actionInitTarget init =>
      exact (handleInittarget_operated init c now).mono fun r hr => ⟨hr, nofun⟩
    | block sc =>
      exact .after fun _ => .throw
    | receiveSecretReveal | contractReceiveSecretReveal | receiveUnlock | receiveLockExpired =>
      exact .throw
    | _ => exact .pure ⟨.inl rfl, nofun⟩

end Inversion

/-- The task for one secrethash and the channel its transfer comes through. -/
structure Receiving where
  task : Option TargetTransferState
  channel : Option NettingChannelState
  blockNumber : Nat

inductive Input where
  | tick (now : Nat)
  | channel (op : ChannelOp)
  | task (change : PaymentStateChange)

section

variable (P : Primitives) (hash : SecretHash)

/-- The start of a task: the initial transfer was accepted in the channel `c`. -/
structure Receiving.Starts (init : ActionInitTarget)
    (c : NettingChannelState) (es : List Event) (s : Receiving) : Prop where
  secrethash_eq : init.transfer.lock.secrethash = hash
  running : s.task.isSome = true
  run : ∃ prng prng' r, (stateTransition P none (.actionInitTarget init) c s.blockNumber).run prng =
    .ok (r, prng') ∧ r.events = es ∧ s.task = r.newState ∧ s.channel = some r.channel

/-- The state changes the node hands to the running task. -/
def Receiving.dispatches (s : Receiving) : PaymentStateChange → Prop
  | .actionInitTarget init => init.transfer.lock.secrethash = hash
  | .block block => block.blockNumber = s.blockNumber
  | .receiveSecretReveal reveal => reveal.secrethash P = hash
  | .receiveUnlock unlock => unlock.secrethash P = hash
  | .receiveLockExpired expired => expired.secrethash = hash
  | .contractReceiveSecretReveal reveal => reveal.secrethash = hash
  | _ => False

/-- One step, labelled by its input and the events the task emits. Operations of
other payments change the channel, and it can be removed. -/
inductive Receiving.Next (P : Primitives) (hash : SecretHash) (s : Receiving) :
    Input × List Event → Receiving → Prop
  | tick {n : Nat} (later : s.blockNumber < n) :
      Next P hash s (.tick n, []) { s with blockNumber := n }
  | channel {c c' : NettingChannelState} {op : ChannelOp} {es : List Event}
      (found : s.channel = some c) (step : Step P c (op, es) c')
      (foreign : op.secrethash P ≠ some hash) :
      Next P hash s (.channel op, []) { s with channel := some c' }
  | removed {c : NettingChannelState} {op : ChannelOp} {es : List Event} {prng prng' : Prng}
      (found : s.channel = some c) (step : (op.run P c).run prng = .ok (⟨none, es⟩, prng')) :
      Next P hash s (.channel op, []) { s with channel := none }
  | task {c : NettingChannelState} {st : TargetTransferState} {change : PaymentStateChange}
      {prng prng' : Prng} {r : TargetIteration} (found : s.channel = some c)
      (running : s.task = some st) (dispatched : s.dispatches P hash change)
      (run : (stateTransition P (some st) change c s.blockNumber).run prng = .ok (r, prng')) :
      Next P hash s (.task change, r.events)
        { s with task := r.newState, channel := some r.channel }

/-- A step on an input that meets a condition. -/
def Receiving.NextIf (G : Receiving → Input → Prop)
    (s : Receiving) (label : Input × List Event) (s' : Receiving) : Prop :=
  G s label.1 ∧ s.Next P hash label s'

end

/-! ## The start of a task -/

structure Accepted (P : Primitives) (change : ActionInitTarget) (c : NettingChannelState)
    (r : TargetIteration) (st : TargetTransferState) : Prop where
  state_eq : st = { fromHop := change.fromHop, transfer := change.transfer }
  channel : ∃ locks, LockedtransferAccepted P c c.partnerState c.ourState change.transfer.balanceProof
    change.transfer.lock locks ∧ r.channel = withTransfer c change.transfer locks
  quiet : Quiet r.events

theorem handleInittarget_ensures (sc : ActionInitTarget) (c : NettingChannelState) (now : Nat) :
    Ensures (handleInittarget P sc c now) fun r => ∀ st, r.newState = some st →
      Accepted P sc c r st := by
  unfold handleInittarget
  refine .after fun _ => ?_
  rcases handleReceiveLockedtransfer_cases P (c := c) sc.transfer
    sc.transfer.payerAddressMetadata with ⟨msg, heq⟩ | ⟨locks, facts, heq⟩
  · simp only [heq, Bool.false_eq_true, if_false]
    refine .after fun _ => ?_
    exact .pure fun st h => absurd h.symm (Option.some_ne_none _)
  · have hprocessed : ∀ processed, Quiet [.sendProcessed processed] := fun _ e he => by
      rw [List.mem_singleton.mp he]
      exact ⟨rfl, rfl⟩
    simp only [heq, if_true]
    split
    · exact .pure fun st h => ⟨(Option.some.inj h).symm, ⟨locks, facts, rfl⟩, hprocessed _⟩
    · refine .after fun safe => ?_
      split
      · refine .after fun id => ?_
        refine .pure fun st h => ⟨(Option.some.inj h).symm, ⟨locks, facts, rfl⟩, fun e he => ?_⟩
        rcases List.mem_append.mp he with he | he
        · exact hprocessed _ e he
        · rw [List.mem_singleton.mp he]
          exact ⟨rfl, rfl⟩
      · exact .pure fun st h => ⟨(Option.some.inj h).symm, ⟨locks, facts, rfl⟩, hprocessed _⟩

theorem Receiving.Starts.accepted {hash : SecretHash} {s : Receiving}
    (h : s.Starts P hash init c es) :
    s.task = some { fromHop := init.fromHop, transfer := init.transfer } ∧ Quiet es ∧
      ∃ locks, LockedtransferAccepted P c c.partnerState c.ourState init.transfer.balanceProof
        init.transfer.lock locks ∧ s.channel = some (withTransfer c init.transfer locks) := by
  obtain ⟨prng, prng', r, hrun, hevents, htask, hchannel⟩ := h.run
  have hens : Ensures (stateTransition P none (.actionInitTarget init) c s.blockNumber) fun r =>
      ∀ st, r.newState = some st → Accepted P init c r st := by
    refine .bind (handleInittarget_ensures init c s.blockNumber) fun r hr => ?_
    exact .after fun _ => .pure hr
  obtain ⟨st, hstate⟩ := Option.isSome_iff_exists.mp (htask ▸ h.running)
  obtain ⟨hinit, ⟨locks, facts, hwith⟩, hquiet⟩ := hens prng r prng' hrun st hstate
  rw [htask, hstate, hinit]
  exact ⟨rfl, hevents ▸ hquiet, locks, facts, hchannel.trans (congrArg some hwith)⟩

/-! ## Executing a task -/

instance (P : Primitives) (hash : SecretHash) (s : Receiving) (change : PaymentStateChange) :
    Decidable (s.dispatches P hash change) := by
  unfold Receiving.dispatches
  induction change using PaymentStateChange.casesOn <;> infer_instance

section Exec

variable (P : Primitives) (hash : SecretHash) (G : Receiving → Input → Prop)
  [∀ s input, Decidable (G s input)]

/-- One step on an input that meets `G`, for blocks and what the task receives. -/
def Receiving.next (msgId : MessageID) (s : Receiving) (input : Input) :
    Option ((Input × List Event) × Receiving) :=
  if ¬G s input then none else
  match input, s.channel, s.task with
  | .tick n, _, _ =>
    if s.blockNumber < n then some ((.tick n, []), { s with blockNumber := n }) else none
  | .task change, some c, some st =>
    if s.dispatches P hash change then
      match (stateTransition P (some st) change c s.blockNumber).run
          (Stream'.const msgId) with
      | .ok (r, _) =>
        some ((.task change, r.events), { s with task := r.newState, channel := some r.channel })
      | .error _ => none
    else none
  | _, _, _ => none

def Receiving.start (msgId : MessageID) (init : ActionInitTarget) (c : NettingChannelState)
    (now : Nat) : Option (List Event × Receiving) :=
  match (stateTransition P none (.actionInitTarget init) c now).run
      (Stream'.const msgId) with
  | .ok (⟨c', some st, es⟩, _) => some (es, ⟨some st, some c', now⟩)
  | _ => none

variable {P hash G} {msgId : MessageID} {s t : Receiving} {input : Input}

theorem Receiving.next_sound {label : Input × List Event}
    (h : s.next P hash G msgId input = some (label, t)) :
    label.1 = input ∧ s.NextIf P hash G label t := by
  unfold Receiving.next at h
  split_ifs at h with hG
  split at h
  · split_ifs at h with hn
    cases h
    exact ⟨rfl, hG, .tick hn⟩
  · next sc c st hc hstate =>
    split_ifs at h with hd
    split at h
    · next hrun =>
      cases h
      exact ⟨rfl, hG, .task hc hstate hd hrun⟩
    · cases h
  · cases h

theorem Receiving.exists_start {now : Nat} {p : List Event × Receiving → Bool}
    (h : (Receiving.start P msgId init c now).any p = true) :
    ∃ es s, s.Starts P init.transfer.lock.secrethash init c es ∧ p (es, s) = true := by
  obtain ⟨⟨es, s⟩, hstart, hp⟩ := (Option.any_eq_true _ _).mp h
  refine ⟨es, s, ?_, hp⟩
  unfold Receiving.start at hstart
  split at hstart
  · next hrun =>
    cases hstart
    exact ⟨rfl, rfl, _, _, _, hrun, rfl, rfl, rfl⟩
  · cases hstart

theorem Receiving.exists_next {p : (Input × List Event) × Receiving → Bool}
    (h : (s.next P hash G msgId input).any p = true) :
    ∃ es t, s.NextIf P hash G (input, es) t ∧ p ((input, es), t) = true := by
  obtain ⟨⟨⟨_, es⟩, t⟩, hnext, hp⟩ := (Option.any_eq_true _ _).mp h
  obtain ⟨rfl, hstep⟩ := Receiving.next_sound hnext
  exact ⟨es, t, hstep, hp⟩

theorem Receiving.exists_run {inputs : List Input} {p : List (Input × List Event) × Receiving → Bool}
    (h : (execute (Receiving.next P hash G msgId) inputs ([], s)).any p = true) :
    ∃ log t, Run (Receiving.NextIf P hash G) s log t ∧ p (log, t) = true :=
  Run.execute (.start s) h fun _ _ _ _ hnext => (Receiving.next_sound hnext).2

end Exec

/-- The first transfer of the partner 2: a lock of 50 that expires at block 40. -/
def toyInit : ActionInitTarget where
  sender := 2
  balanceProof := toyBalanceProof 0 0 50 [toyLock 50 7]
  fromHop := ⟨2, 1⟩
  transfer := toyTransfer (toyLock 50 7) (toyBalanceProof 0 0 50 [toyLock 50 7])

def toyBlock (now : Nat) : List Input := [.tick now, .task (.block ⟨now, []⟩)]

end Raiden.Target
