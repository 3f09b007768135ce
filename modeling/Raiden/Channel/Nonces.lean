import Raiden.Channel.Step

/-! # The nonces of a channel

Six kinds of messages carry a nonce of our end, and the partner accepts them in
the order of their nonces only. Every operation uses up the nonces between that
of our end before it and that of our end after it, one message each, except for
the answer to a cooperative settlement of the partner, whose request is sent
twice. -/
namespace Raiden.Channel

open Lib

variable (P : Primitives) {es : List Event} {r : TransitionResult NettingChannelState}

def sentNonce : Event → Option Nat
  | .sendLockedTransfer message => some message.transfer.balanceProof.nonce
  | .sendUnlock message => some message.balanceProof.nonce
  | .sendLockExpired message => some message.balanceProof.nonce
  | .sendWithdrawRequest message => some message.nonce
  | .sendWithdrawConfirmation message => some message.nonce
  | .sendWithdrawExpired message => some message.nonce
  | _ => none

def sentNonces (log : List (ChannelOp × List Event)) : List Nat :=
  (log.flatMap Prod.snd).filterMap sentNonce

/-- The operation is a cooperative settlement of the partner that is answered with a
withdraw request of ours. -/
def AnswersCoopSettle (c : NettingChannelState) : ChannelOp → Prop
  | .stateChange (.receiveWithdrawRequest act) _ _ =>
    isValidWithdrawRequest P c act = .ok () ∧ act.coopSettle = true ∧
      c.ourState.initiatedCoopSettle = none ∧
      getMaxWithdrawAmount c.partnerState c.ourState = act.totalWithdraw ∧
      getNumberOfPendingTransfers c.partnerState = 0 ∧ getNumberOfPendingTransfers c.ourState = 0
  | _ => False

def NoAnswerStep (c : NettingChannelState) (label : ChannelOp × List Event) (c' : NettingChannelState) :
    Prop :=
  ¬AnswersCoopSettle P c label.1 ∧ Step P c label c'

section Uses

/-- After the nonce `n` the events carry the following ones, up to `m`. -/
def Uses (n : Nat) (es : List Event) (m : Nat) : Prop :=
  ∃ k, m = n + k ∧ es.filterMap sentNonce = List.range' (n + 1) k

variable {n m l : Nat} {es es' : List Event}

theorem Uses.silent (h : es.filterMap sentNonce = []) : Uses n es n := ⟨0, rfl, h⟩

theorem Uses.one {event : Event} (h : sentNonce event = some (n + 1)) : Uses n [event] (n + 1) := by
  refine ⟨1, rfl, ?_⟩
  rw [List.filterMap_cons_some h]
  rfl

theorem Uses.append (h : Uses n es m) (h' : Uses m es' l) : Uses n (es ++ es') l := by
  obtain ⟨k, rfl, hk⟩ := h
  obtain ⟨j, rfl, hj⟩ := h'
  refine ⟨k + j, Nat.add_assoc n k j, ?_⟩
  rw [List.filterMap_append, hk, hj, Nat.add_right_comm, List.range'_append_1]

end Uses

section Handlers

variable {P} {c : NettingChannelState} {now : Nat} {bh : BlockHash}

/-- A result that uses up the nonces between those of our end before and after it; a
channel that was removed sends nothing. -/
def Numbered (c : NettingChannelState) (r : TransitionResult (Option NettingChannelState)) : Prop :=
  Uses c.ourState.nonce r.events ((r.newState.map fun c' => c'.ourState.nonce).getD c.ourState.nonce)

theorem WithdrawRequested.uses {t : Int} (h : WithdrawRequested c t r) :
    Uses c.ourState.nonce r.events r.newState.ourState.nonce := by
  cases h with
  | closed => exact .silent rfl
  | sent _ nonce => exact .one (congrArg some nonce)

theorem CoopSigned.silent {coopSettle s : CoopSettleState} (h : CoopSigned coopSettle s es) :
    es.filterMap sentNonce = [] := by
  cases h with
  | stored | sent => rfl

theorem Swept.uses {ws : List PendingWithdrawState} (h : Swept now ws c r) :
    Uses c.ourState.nonce r.events r.newState.ourState.nonce := by
  induction h with
  | done | stopped => exact .silent rfl
  | @expired _ _ c msg _ _ _ nonce _ ih =>
    have hone : Uses c.ourState.nonce [.sendWithdrawExpired msg] (getNextNonce c.ourState) :=
      .one (congrArg some nonce)
    exact hone.append ih

theorem confirmWithdraw_uses {n : Nat} {iteration : TransitionResult NettingChannelState}
    (act : ReceiveWithdrawRequest) (h : Uses n iteration.events iteration.newState.ourState.nonce) :
    Uses n (confirmWithdraw act iteration).events
      (confirmWithdraw act iteration).newState.ourState.nonce :=
  h.append (.one rfl)

theorem clearOnchainLocksroot_nonce (sender : Address) :
    (clearOnchainLocksroot P c sender).ourState.nonce = c.ourState.nonce := by
  unfold clearOnchainLocksroot
  repeat' split
  all_goals rfl

theorem addDeposit_nonce (part : Address) (balance : Nat) :
    (addDeposit c part balance).ourState.nonce = c.ourState.nonce := by
  unfold addDeposit updateContractBalance
  repeat' split
  all_goals rfl

/-- While a cooperative settlement is ours, nothing is sent before the confirmation. -/
theorem Handled.numbered {sc : ChannelStateChange} {r : TransitionResult (Option NettingChannelState)}
    (h : Handled P c now bh sc r)
    (hno : ¬AnswersCoopSettle P c (.stateChange sc now bh)) : Numbered c r := by
  cases h with
  | refused notice => cases notice <;> exact .silent rfl
  | unlocked =>
    show Uses _ _ (clearOnchainLocksroot P c _).ourState.nonce
    rw [clearOnchainLocksroot_nonce]
    exact .silent rfl
  | deposited =>
    show Uses _ _ (addDeposit c _ _).ourState.nonce
    rw [addDeposit_nonce]
    exact .silent rfl
  | withdrawing valid requested | coopSettling valid total requested => exact requested.uses
  | @requestConfirmed act => exact confirmWithdraw_uses act (.silent rfl)
  | @requestJoined act r valid coop handled =>
    cases handled with
    | signed ours signed => exact confirmWithdraw_uses act (.silent signed.silent)
    | answered none total partners ours requested =>
      refine absurd ⟨valid, coop.resolve_left ?_, none, total, partners, ours⟩ hno
      rw [show c.ourState.initiatedCoopSettle = .none from none]
      exact Bool.noConfusion
  | confirmedOurs valid ours signed => exact .silent signed.silent
  | swept opened sweep => exact sweep.uses
  | _ => exact .silent rfl

end Handlers

section Operations

variable {P} {c c' : NettingChannelState} {op : ChannelOp}

theorem registerSecretEndstate_nonce (e : NettingChannelEndState) (secret : Secret)
    (hash : SecretHash) : (registerSecretEndstate e secret hash).nonce = e.nonce := by
  unfold registerSecretEndstate
  split <;> rfl

theorem registerOnchainSecretEndstate_nonce {e e' : NettingChannelEndState} {secret : Secret}
    {hash : SecretHash} {now : Nat}
    (h : registerOnchainSecretEndstate e secret hash now = .ok e') : e'.nonce = e.nonce := by
  unfold registerOnchainSecretEndstate at h
  split at h
  · cases h; rfl
  · split at h
    · cases h; rfl
    · simp only [delLock, seq_ok_iff, assert_eq_ok, exists_const, pure_eq_ok] at h
      obtain ⟨_, ⟨-, rfl⟩, rfl⟩ := h
      rfl

theorem Outcome.numbered {r : TransitionResult (Option NettingChannelState)} (h : Outcome P c op r)
    (hno : ¬AnswersCoopSettle P c op) : Numbered c r := by
  have hone : ∀ {c' : NettingChannelState} {event : Event} {n : Nat}, n = getNextNonce c.ourState →
      c'.ourState.nonce = n → sentNonce event = some n → Numbered c ⟨some c', [event]⟩ := by
    rintro c' event n rfl hnonce hsent
    show Uses _ _ c'.ourState.nonce
    rw [hnonce]
    exact .one hsent
  cases h with
  | handled handled => exact handled.numbered hno
  | refused notice => cases notice <;> exact .silent rfl
  | sentTransfer facts | sentUnlock facts | sentExpired _ facts => exact hone facts.nonce_eq rfl rfl
  | @registered secret hash =>
    show Uses _ _ (registerSecretEndstate c.ourState secret hash).nonce
    rw [registerSecretEndstate_nonce]
    exact .silent rfl
  | @registeredOnchain _ _ _ our _ our_eq =>
    show Uses _ _ our.nonce
    rw [registerOnchainSecretEndstate_nonce our_eq]
    exact .silent rfl
  | _ => exact .silent rfl

/-- Every operation uses up the nonces from that of our end before it to that after it. -/
theorem ChannelOp.run_numbered (hno : ¬AnswersCoopSettle P c op) :
    Ensures (op.run P c) fun r => Numbered c r :=
  (ChannelOp.run_outcome op c).mono fun _ h => h.numbered hno

theorem Step.uses (h : NoAnswerStep P c (op, es) c') : Uses c.ourState.nonce es c'.ourState.nonce :=
  h.2.of_ensures P (ChannelOp.run_numbered h.1)

end Operations

/-- While no cooperative settlement of the partner is answered, the nonces of what was sent
are 1, 2, 3, ... up to the nonce of our end, and nothing is sent when the channel is removed. -/
theorem sent_nonces_gapless {P : Primitives} {c₀ c : NettingChannelState}
    {log : List (ChannelOp × List Event)} (fresh : Fresh c₀) (run : Run (NoAnswerStep P) c₀ log c) :
    sentNonces log = List.range' 1 c.ourState.nonce ∧
      ∀ op prng prng' es, ¬AnswersCoopSettle P c op →
        (op.run P c).run prng = .ok (⟨none, es⟩, prng') → es.filterMap sentNonce = [] := by
  refine ⟨?_, fun op prng prng' es hno hrun => ?_⟩
  · have huses := run.invariant_log (I := fun log c => Uses 0 (log.flatMap Prod.snd) c.ourState.nonce) ?_ ?_
    · obtain ⟨k, hk, hnonces⟩ := huses
      rw [hk, Nat.zero_add]
      exact hnonces
    · rw [fresh.our.nonce]
      exact .silent rfl
    · intro log c label c' hlog hstep
      rw [List.flatMap_append, List.flatMap_singleton]
      exact hlog.append (Step.uses hstep)
  · obtain ⟨k, hk, hnonces⟩ := ChannelOp.run_numbered hno prng _ prng' hrun
    have hzero : k = 0 := Nat.left_eq_add.mp hk
    rw [hnonces, hzero]
    rfl

section Concrete

instance (c : NettingChannelState) (op : ChannelOp) : Decidable (AnswersCoopSettle P c op) := by
  unfold AnswersCoopSettle
  split <;> infer_instance

def partnerCoopSettle : ChannelOp :=
  .stateChange (.receiveWithdrawRequest {
    sender := 2
    messageIdentifier := 2
    canonicalIdentifier := toyIdentifier
    totalWithdraw := 100
    nonce := 1
    expiration := 30
    signature := [0, 0]
    participant := 2
    coopSettle := true }) 10 []

theorem coop_settle_answer_repeats_nonce :
    ∃ log c, Run (Step toyPrimitives) (toyChannel 100 100) log c ∧ sentNonces log = [1, 1, 2] ∧
      c.ourState.nonce = 2 := by
  have hexec : (execute (ChannelOp.record toyPrimitives (fun _ _ => True) 0) [partnerCoopSettle]
      ([], toyChannel 100 100)).any
      (fun done => sentNonces done.1 = [1, 1, 2] ∧ done.2.ourState.nonce = 2) = true := by decide +kernel
  obtain ⟨log, c, hrun, hfacts⟩ := ChannelOp.exists_run hexec
  exact ⟨log, c, hrun.mono fun _ _ _ h => h.2, of_decide_eq_true hfacts⟩

def twoWithdrawsExpire : List ChannelOp :=
  [.stateChange (.actionChannelWithdraw { canonicalIdentifier := toyIdentifier, totalWithdraw := 30 }) 5 [],
    .stateChange (.actionChannelWithdraw { canonicalIdentifier := toyIdentifier, totalWithdraw := 50 }) 6 [],
    .stateChange (.block ⟨100, []⟩) 100 []]

theorem sent_nonces_of_expired_withdraws :
    ∃ log c, Run (NoAnswerStep toyPrimitives) (toyChannel 100 100) log c ∧ c.ourState.nonce = 4 ∧
      sentNonces log = List.range' 1 c.ourState.nonce := by
  have hexec : (execute (ChannelOp.record toyPrimitives
      (fun c op => ¬AnswersCoopSettle toyPrimitives c op) 0) twoWithdrawsExpire
      ([], toyChannel 100 100)).any (fun done => done.2.ourState.nonce = 4) = true := by decide +kernel
  obtain ⟨log, c, hrun, hnonce⟩ := ChannelOp.exists_run hexec
  exact ⟨log, c, hrun, of_decide_eq_true hnonce, (sent_nonces_gapless (toyChannel_fresh 100 100) hrun).1⟩

end Concrete

end Raiden.Channel
