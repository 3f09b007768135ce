import Raiden.Channel.LifeCycle
import Raiden.Channel.Ledger

/-! # The amounts of a balance proof fit into 256 bits

A balance proof commits to a transferred and to a locked amount, and the
contracts add the two. A new lock is bounded by what is distributable, an
unlock moves its amount from one term to the other, and an expiration only
takes away. So the sum stays within 256 bits as long as no secrethash is
reused while it is pending, and no balance proof is refused for its amounts. -/
namespace Raiden.Channel

open Lib

variable {P : Primitives} {c c' : NettingChannelState} {bp : BalanceProofUnsignedState}
  {op : ChannelOp} {event : Event} {amount : Int} {es : List Event} {e : NettingChannelEndState}
  {err : Raised} {hash : SecretHash} {msg : String}

def Bounded (e : NettingChannelEndState) : Prop :=
  e.transferredAmount + provenLockedAmount e ≤ uint256Max

section EndState

variable {e o e' : NettingChannelEndState} {lock : HashTimeLockState} {bp : BalanceProofState}
  {locks : List EncodedData} {k : SecretHash}

theorem LocksConsistent.getAmountLocked_eq (hc : LocksConsistent P e) :
    getAmountLocked e = provenLockedAmount e := hc.views.2.2

/-- What is distributable leaves room for the amounts that are already committed to. -/
theorem Bounded.add_le (hb : Bounded e) (hc : LocksConsistent P e)
    (hamount : amount ≤ getDistributable P e o) :
    (e.transferredAmount : Int) + provenLockedAmount e + amount ≤ uint256Max := by
  have hlimit := (Int.le_min.mp hamount).1
  obtain ⟨htransferred, hlocked, -⟩ := hc.views
  rw [htransferred, hlocked] at hlimit
  unfold Bounded at hb
  simp only [ledgerOf] at hlimit
  omega

theorem Recorded.bounded {entry : Entry} (h : Recorded P e e' entry)
    (hledger : ((ledgerOf P e).record P entry).transferred + ((ledgerOf P e).record P entry).locked ≤
      uint256Max) : Bounded e' := by
  rw [← h.ledger] at hledger
  exact hledger

theorem LockAdded.bounded (h : LockAdded P e o bp lock locks) (hc : LocksConsistent P e)
    (ht : Tracked e) (hfresh : isLockPending e lock.secrethash = false) (hb : Bounded e) :
    Bounded (addLock e bp locks lock) := by
  refine (h.recorded hc ht hfresh).bounded ?_
  have hroom := hb.add_le hc h.amount_le
  simp only [Ledger.record, ledgerOf]
  omega

theorem LockUnlocked.bounded (h : LockUnlocked P e bp lock locks k) (hc : LocksConsistent P e)
    (ht : Tracked e) (hb : Bounded e) : Bounded (dropLock (setBalanceProof e bp locks) k) := by
  refine (h.recorded hc ht).bounded ?_
  have hle := hc.amount_le (h.hasLock ht)
  unfold Bounded at hb
  simp only [Ledger.record, ledgerOf] at hle ⊢
  omega

theorem LockExpired.bounded (h : LockExpired P e bp lock locks k) (hc : LocksConsistent P e)
    (ht : Tracked e) (hb : Bounded e) : Bounded (delUnclaimedLock (setBalanceProof e bp locks) k) := by
  refine (h.recorded hc ht).bounded ?_
  unfold Bounded at hb
  simp only [Ledger.record, ledgerOf]
  omega

theorem Bounded.of_balanceProof (hb : Bounded e) (h : e'.balanceProof = e.balanceProof) : Bounded e' := by
  unfold Bounded NettingChannelEndState.transferredAmount provenLockedAmount at hb ⊢
  rwa [h]

theorem EndStep.bounded {added : Option SecretHash} (h : EndStep P added e o e') (ht : Tracked e)
    (hc : LocksConsistent P e) (hfresh : ∀ k, added = some k → isLockPending e k = false)
    (hb : Bounded e) : Bounded e' := by
  cases h with
  | unchanged => exact hb
  | add hadded facts => exact facts.bounded hc ht (hfresh _ hadded) hb
  | unlock facts | expire facts => exact facts.bounded hc ht hb
  | register secret hash =>
    refine hb.of_balanceProof ?_
    unfold registerSecretEndstate
    split <;> rfl
  | registerOnchain h =>
    refine hb.of_balanceProof ?_
    rcases registerOnchainSecretEndstate_cases h with rfl | ⟨_, _, _, rfl⟩ <;> rfl

end EndState

/-- The invariant of a run without reuse of a pending secrethash. -/
structure BoundedLocks (P : Primitives) (c : NettingChannelState) : Prop where
  locks : ChannelLocks P c
  our : Bounded c.ourState
  partner : Bounded c.partnerState

theorem FreshEnd.bounded (h : FreshEnd e) : Bounded e := by
  rw [Bounded, NettingChannelEndState.transferredAmount, provenLockedAmount, h.balanceProof]
  exact Nat.zero_le _

theorem BoundedLocks.start (h : Fresh c) : BoundedLocks P c :=
  ⟨⟨h.our.tracked, h.partner.tracked, h.our.locksConsistent, h.partner.locksConsistent⟩,
    h.our.bounded, h.partner.bounded⟩

theorem BoundedLocks.step {label : ChannelOp × List Event} (h : BoundedLocks P c)
    (hreuse : NoReuse P c label.1) (hstep : Step P c label c') : BoundedLocks P c' := by
  have hlocks := hstep.channelLocks hreuse h.locks
  cases hstep.cases with
  | stateChange _ frame _ =>
    exact ⟨hlocks, h.our.of_balanceProof frame.our.same.balanceProof,
      h.partner.of_balanceProof frame.partner.same.balanceProof⟩
  | lock step =>
    exact ⟨hlocks, step.our.bounded h.locks.ourTracked h.locks.our hreuse.1 h.our,
      step.partner.bounded h.locks.partnerTracked h.locks.partner hreuse.2 h.partner⟩

theorem Step.balanceProof_of_lockOp (h : Step P c (op, es) c') (hop : op.isLockOp = true)
    (hmem : event ∈ es) (hbp : Event.balanceProof event = some bp) :
    c'.ourState.balanceProof = some (.unsigned bp) := by
  cases h.outcome with
  | handled => cases hop
  | refused notice => cases notice <;> cases List.mem_singleton.mp hmem <;> cases hbp
  | unexpired | registered | registeredOnchain => cases hmem
  | _ =>
    cases List.mem_singleton.mp hmem
    cases hbp
    try rfl

/-- The balance proof that is sent is one of the latest balance proofs of the two ends. -/
theorem Step.balanceProof (h : Step P c (op, es) c') (hmem : event ∈ es)
    (hbp : Event.balanceProof event = some bp) :
    c'.ourState.balanceProof = some (.unsigned bp) ∨
      ∃ signed, c.partnerState.balanceProof = some (.signed signed) ∧
        bp = signed.toBalanceProofUnsignedState := by
  have hbare : ∀ {l : List Event}, Bare l → event ∉ l := by
    intro l hl hevent
    rw [(hl event hevent).2] at hbp
    cases hbp
  cases h.of_ensures P (ChannelOp.run_life op c) with
  | calm _ bare | settled bare => exact absurd hmem (hbare bare)
  | lock hop => exact .inl (h.balanceProof_of_lockOp hop hmem hbp)
  | closing _ sent =>
    right
    cases sent with
    | @close balanceProof _ proof =>
      cases List.mem_singleton.mp hmem
      obtain ⟨signed, rfl, rfl⟩ := Option.map_eq_some_iff.mp hbp
      exact ⟨signed, proof, rfl⟩
  | closed _ _ sent =>
    right
    cases sent with
    | nothing => cases hmem
    | update _ proof =>
      cases List.mem_singleton.mp hmem
      cases hbp
      exact ⟨_, proof, rfl⟩
  | settling bare =>
    rcases List.mem_append.mp hmem with hmem | hmem
    · exact absurd hmem (hbare bare)
    · cases List.mem_singleton.mp hmem
      cases hbp
  | unlocked => cases hmem

theorem Bounded.of_unsigned {bp : BalanceProofState} (hb : Bounded e) (h : e.balanceProof = some bp) :
    bp.data.transferredAmount + bp.data.lockedAmount ≤ uint256Max := by
  rw [Bounded, NettingChannelEndState.transferredAmount, provenLockedAmount, h] at hb
  exact hb

/-- The errors of a balance proof, or of its lock, with an amount beyond 256 bits. -/
inductive IsOverflow : Raised → Prop
  | sum : IsOverflow (.assertionError "caller must make sure the result wont overflow")
  | transferred : IsOverflow (.valueError "transferred_amount is too large")
  | packed : IsOverflow .overflowError
  | lock (amount : Int) : IsOverflow (.valueError s!"amount {amount} is too large")

theorem not_isOverflow_assertionError
    (h : msg ≠ "caller must make sure the result wont overflow" := by decide) :
    ¬IsOverflow (.assertionError msg) := by
  intro ho
  generalize hraised : Raised.assertionError msg = raised at ho
  cases ho with
  | sum => exact h (Raised.assertionError.inj hraised)
  | _ => cases hraised

theorem IsOverflow.valueError (h : IsOverflow (.valueError msg)) :
    msg = "transferred_amount is too large" ∨ ∃ amount : Int, msg = s!"amount {amount} is too large" := by
  generalize hraised : Raised.valueError msg = raised at h
  cases h with
  | transferred => exact .inl (Raised.valueError.inj hraised)
  | lock amount => exact .inr ⟨amount, Raised.valueError.inj hraised⟩
  | _ => cases hraised

/-- A message about something else starts differently. -/
theorem not_isOverflow_valueError (first : Char) (h : msg.toList.head? = some first)
    (ha : first ≠ 'a' := by decide) (ht : first ≠ 't' := by decide) : ¬IsOverflow (.valueError msg) := by
  intro ho
  rcases ho.valueError with rfl | ⟨amount, rfl⟩
  · exact ht (Option.some.inj h).symm
  · rw [String.toList_append, String.toList_append] at h
    exact ha (Option.some.inj h).symm

private theorem amount_message_ne (a b : Int) :
    s!"amount {a} needs to be positive" ≠ s!"amount {b} is too large" := by
  intro h
  have hlast := congrArg (fun s => s.toList.reverse.take 2) h
  simp only [String.toList_append, List.reverse_append] at hlast
  rw [List.take_append_of_le_length (by decide), List.take_append_of_le_length (by decide)] at hlast
  exact absurd hlast (by decide)

theorem HashTimeLockState.create_error {exp : Nat}
    (h : HashTimeLockState.create amount exp hash = .error err)
    (hamount : amount ≤ uint256Max) : ¬IsOverflow err := by
  unfold HashTimeLockState.create at h
  split_ifs at h with hneg hle
  · cases h
    intro ho
    rcases ho.valueError with heq | ⟨b, heq⟩
    · have hfirst := congrArg (fun s => s.toList.head?) heq
      rw [String.toList_append, String.toList_append] at hfirst
      exact absurd (Option.some.inj hfirst) (by decide)
    · exact amount_message_ne amount b heq
  · cases h
    refine not_isOverflow_valueError 'e' ?_
    rw [String.toList_append, String.toList_append]
    rfl
  · omega

theorem BalanceProofUnsignedState.create_error {nonce transferredAmount : Nat} {lockedAmount : Int}
    {locksroot : Locksroot} {ident : CanonicalIdentifier}
    (h : BalanceProofUnsignedState.create nonce transferredAmount lockedAmount locksroot ident =
      .error err) (ht : transferredAmount ≤ uint256Max) (hpos : 0 ≤ lockedAmount)
    (hl : lockedAmount ≤ uint256Max) : ¬IsOverflow err := by
  unfold BalanceProofUnsignedState.create at h
  split_ifs at h
  · omega
  · omega
  · cases h
    exact not_isOverflow_valueError 'c' (by decide)
  · cases h
    exact not_isOverflow_valueError 'n' (by decide)
  · cases h
    exact not_isOverflow_valueError 'n' (by decide)

theorem sendLockedtransfer_error {arguments : LockedTransferArguments} (h : BoundedLocks P c)
    (he : sendLockedtransfer P c arguments = .error err) : ¬IsOverflow err := by
  rw [sendLockedtransfer, seq_error_iff] at he
  rcases he with he | ⟨_, -, he⟩
  · simp only [createSendlockedtransfer, seq_error_iff, assert, check_eq_error, check_eq_ok] at he
    rcases he with ⟨-, rfl⟩ | ⟨-, hamount, he⟩
    · exact not_isOverflow_assertionError
    have hroom := h.our.add_le h.locks.our hamount
    have hlocked := h.locks.our.getAmountLocked_eq
    rcases he with ⟨-, rfl⟩ | ⟨-, -, he⟩
    · exact not_isOverflow_assertionError
    rcases he with he | ⟨lock, hlock, he⟩
    · exact HashTimeLockState.create_error he (by omega)
    have hpos := (HashTimeLockState.create_ok hlock).1
    cases hlocks : computeLocksWith c.ourState.pendingLocks lock with
    | none =>
      rw [hlocks] at he
      cases he
      exact not_isOverflow_assertionError
    | some pending =>
      rw [hlocks] at he
      simp only [seq_error_iff, check_eq_error, check_eq_ok] at he
      rcases he with ⟨hsum, -⟩ | ⟨-, -, he⟩
      · exact absurd (by omega) hsum
      rcases he with he | ⟨bp, -, he⟩
      · exact BalanceProofUnsignedState.create_error he (by omega) (by omega) (by omega)
      rcases he with ⟨-, rfl⟩ | ⟨-, -, he⟩
      · exact not_isOverflow_valueError 'b' (by decide)
      · cases he
  · cases he

theorem sendUnlock_error {messageIdentifier : MessageID} {pid : PaymentID}
    {secret : Secret} {now : Nat} {md : Option AddressMetadata} (h : BoundedLocks P c)
    (he : sendUnlock P c messageIdentifier pid secret hash now md =
      .error err) : ¬IsOverflow err := by
  unfold sendUnlock at he
  cases hlock : getLock c.ourState hash with
  | none =>
    rw [hlock] at he
    cases he
    exact not_isOverflow_assertionError
  | some lock =>
    rw [hlock] at he
    have hle : lock.amount ≤ provenLockedAmount c.ourState :=
      h.locks.our.amount_le (.of_getLock hlock)
    have hsum : c.ourState.transferredAmount + provenLockedAmount c.ourState ≤ uint256Max := h.our
    have hlocked := h.locks.our.getAmountLocked_eq
    simp only [createUnlock, delLock, seq_error_iff, assert, check_eq_error, check_eq_ok] at he
    rcases he with he | ⟨_, -, (⟨-, rfl⟩ | ⟨-, -, he⟩) | ⟨_, -, he⟩⟩
    · rcases he with ⟨-, rfl⟩ | ⟨-, -, ⟨-, rfl⟩ | ⟨-, -, ⟨-, rfl⟩ | ⟨-, -, he⟩⟩⟩
      · exact not_isOverflow_assertionError
      · exact not_isOverflow_assertionError
      · exact not_isOverflow_assertionError
      cases hbp : c.ourState.balanceProof with
      | none =>
        rw [hbp] at he
        cases he
        exact not_isOverflow_assertionError
      | some ours =>
        rw [hbp] at he
        cases hlocks : computeLocksWithout c.ourState.pendingLocks lock.encoded with
        | none =>
          rw [hlocks] at he
          cases he
          exact not_isOverflow_assertionError
        | some pending =>
          rw [hlocks] at he
          simp only [seq_error_iff] at he
          rcases he with he | ⟨_, -, he⟩
          · rw [NettingChannelEndState.transferredAmount, hbp, Option.elim_some] at hsum
            exact BalanceProofUnsignedState.create_error he (by omega) (by omega) (by omega)
          · cases he
    · exact not_isOverflow_assertionError
    · cases he
    · cases he

theorem expireOwnLock_fails (h : BoundedLocks P c) (hash : SecretHash) (now : Nat)
    (md : Option AddressMetadata) :
    Fails (expireOwnLock P c hash now md) fun err => ¬IsOverflow err := by
  unfold expireOwnLock
  cases hlock : getUnclaimedLock c.ourState hash with
  | none => exact Fails.pure
  | some lock =>
    have hle : lock.amount ≤ provenLockedAmount c.ourState :=
      h.locks.our.amount_le (.of_getUnclaimedLock hlock)
    have hsum : c.ourState.transferredAmount + provenLockedAmount c.ourState ≤ uint256Max := h.our
    have hlocked := h.locks.our.getAmountLocked_eq
    dsimp only
    split
    · refine Fails.bind (Fails.lift fun err he => ?_) fun _ => ?_
      · rw [assert, check_eq_error] at he
        rw [← he.2]
        exact not_isOverflow_assertionError
      refine Fails.bind ?_ fun sent => ?_
      · unfold createSendexpiredlock
        cases hbp : c.ourState.balanceProof with
        | none =>
          intro prng err he
          cases he
          exact not_isOverflow_assertionError
        | some ours =>
          cases hlocks : computeLocksWithout c.ourState.pendingLocks lock.encoded with
          | none => exact Fails.pure
          | some pending =>
            refine Fails.bind (Fails.lift fun err he => ?_) fun _ => ?_
            · rw [NettingChannelEndState.transferredAmount, hbp, Option.elim_some] at hsum
              exact BalanceProofUnsignedState.create_error he (by omega) (by omega) (by omega)
            · exact Fails.bind (fun _ _ he => by cases he) fun _ => Fails.pure
      · cases sent with
        | none | some sent => exact Fails.pure
    · exact Fails.pure

def ChannelOp.sendsBalanceProof : ChannelOp → Bool
  | .sendLockedtransfer _ | .sendUnlock .. | .sendLockExpired .. => true
  | _ => false

theorem ChannelOp.run_fails (h : BoundedLocks P c) (hop : op.sendsBalanceProof = true) :
    Fails (op.run P c) fun err => ¬IsOverflow err := by
  cases op with
  | sendLockedtransfer arguments =>
    exact Fails.bind (Fails.lift fun err he => sendLockedtransfer_error h he) fun _ => Fails.pure
  | sendUnlock messageIdentifier pid secret hash now md =>
    exact Fails.bind (Fails.lift fun err he => sendUnlock_error h he) fun _ => Fails.pure
  | sendLockExpired hash now md =>
    exact Fails.bind (expireOwnLock_fails h hash now md) fun _ => Fails.pure
  | _ => cases hop

/-- In every run without reuse of a pending secrethash the amounts of both ends
fit into 256 bits, so do those of every balance proof that the next operation
sends, and no operation fails because they would not. -/
theorem balance_proofs_do_not_overflow {c₀ : NettingChannelState} {log : List (ChannelOp × List Event)}
    (h₀ : Fresh c₀)
    (hrun : Run (fun c label c' => NoReuse P c label.1 ∧ Step P c label c') c₀ log c) :
    (∀ e ∈ [c.ourState, c.partnerState], e.transferredAmount + provenLockedAmount e ≤ uint256Max ∧
        e.transferredAmount + getAmountLocked e ≤ uint256Max) ∧
      (∀ op es c', NoReuse P c op → Step P c (op, es) c' → (∀ e ∈ [c'.ourState, c'.partnerState],
          e.transferredAmount + provenLockedAmount e ≤ uint256Max) ∧
        ∀ event ∈ es, ∀ bp, Event.balanceProof event = some bp →
          bp.transferredAmount + bp.lockedAmount ≤ uint256Max) ∧
      ∀ (op : ChannelOp) prng err, op.sendsBalanceProof = true → (op.run P c).run prng = .error err →
        ¬IsOverflow err := by
  have hinv : BoundedLocks P c :=
    hrun.invariant (I := BoundedLocks P) (.start h₀) fun _ _ _ h hstep => h.step hstep.1 hstep.2
  refine ⟨?_, fun op es c' hreuse hstep => ⟨?_, fun event hmem bp hbp => ?_⟩,
    fun op prng err hop herr => ChannelOp.run_fails hinv hop prng err herr⟩
  · have hboth : ∀ {e}, LocksConsistent P e → Bounded e →
        e.transferredAmount + provenLockedAmount e ≤ uint256Max ∧
          e.transferredAmount + getAmountLocked e ≤ uint256Max :=
      fun hc hb => ⟨hb, hc.getAmountLocked_eq ▸ hb⟩
    rw [List.forall_mem_cons, List.forall_mem_singleton]
    exact ⟨hboth hinv.locks.our hinv.our, hboth hinv.locks.partner hinv.partner⟩
  · have hnext : BoundedLocks P c' := hinv.step hreuse hstep
    rw [List.forall_mem_cons, List.forall_mem_singleton]
    exact ⟨hnext.our, hnext.partner⟩
  · have hnext : BoundedLocks P c' := hinv.step hreuse hstep
    rcases hstep.balanceProof hmem hbp with hour | ⟨signed, hpartner, rfl⟩
    · exact hnext.our.of_unsigned hour
    · exact hinv.partner.of_unsigned hpartner

theorem two_locks_one_unlock_do_not_overflow :
    ∃ c log, Run (fun c label c' => NoReuse toyPrimitives c label.1 ∧ Step toyPrimitives c label c')
        (toyChannel 0 100) log c ∧ c.partnerState.transferredAmount = 50 ∧
      ∀ e ∈ [c.ourState, c.partnerState], e.transferredAmount + provenLockedAmount e ≤ uint256Max ∧
        e.transferredAmount + getAmountLocked e ≤ uint256Max := by
  have hexec : (execute (ChannelOp.record toyPrimitives (NoReuse toyPrimitives) 0) twoLocksOneUnlock
      ([], toyChannel 0 100)).any (fun done => done.2.partnerState.transferredAmount = 50) = true := by
    decide +kernel
  obtain ⟨log, c, hrun, htransferred⟩ := ChannelOp.exists_run hexec
  exact ⟨c, log, hrun, of_decide_eq_true htransferred,
    (balance_proofs_do_not_overflow (toyChannel_fresh 0 100) hrun).1⟩

end Raiden.Channel
