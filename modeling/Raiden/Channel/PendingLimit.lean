import Raiden.Channel.Agreement

/-! # The limit of pending transfers

`send_lockedtransfer` leaves it to its callers to ask whether the channel is usable. The
sender of one transfer after the other that does not ask reaches the limit of pending
transfers, and the partner refuses the next one. -/
namespace Raiden.Channel

open Lib

/-- The transfers of one token, each under its own secrethash. -/
def transferOf (i : Nat) : LockedTransferArguments :=
  { toyArguments with amount := 1, secrethash := BitVec.ofNat 256 i }

/-- The first `k` transfers have been sent and accepted. -/
structure Loaded (k : Nat) (n : Network) : Prop where
  agree : Agree toyPrimitives n
  fromX : n.fromX = []
  rest : n.x = { toyChannel 200 0 with ourState := n.x.ourState }
  deposit : n.x.ourState.contractBalance = 200
  nonce : (ledgerOf toyPrimitives n.x.ourState).nonce = k
  transferred : (ledgerOf toyPrimitives n.x.ourState).transferred = 0
  locked : (ledgerOf toyPrimitives n.x.ourState).locked = k
  pending : (ledgerOf toyPrimitives n.x.ourState).pending.length = k
  fresh : ∀ i < uint256Max, k ≤ i → isLockPending n.x.ourState (BitVec.ofNat 256 i) = false
  opened : getStatus n.y = .opened
  known : n.y.partnerState.contractBalance = 200

variable {k : Nat} {n : Network}

theorem Loaded.distributable (h : Loaded k n) (hk : k < 200) :
    getDistributable toyPrimitives n.x.ourState n.x.partnerState = 200 - k := by
  obtain ⟨htransferred, hlocked, hamount⟩ := h.agree.xLocks.our.views
  have hpartner : n.x.partnerState.transferredAmount = 0 := by rw [h.rest]; rfl
  have hours : n.x.ourState.transferredAmount = 0 := h.transferred
  simp only [getDistributable, getBalance, getBalanceWith, htransferred, hlocked, hamount, h.transferred,
    h.locked, h.deposit, h.agree.xWithdraws.our, hpartner, hours, uint256Max, if_true]
  omega

theorem Loaded.status (h : Loaded k n) : getStatus n.x = .opened := by
  rw [h.rest]
  rfl

/-- No earlier transfer has the lock of the next one. -/
theorem Loaded.lock_notMem (h : Loaded k n) (hk : k < 200) {lock : HashTimeLockState}
    (hlock : lock.secrethash = (transferOf k).secrethash) : lock.encoded ∉ n.x.ourState.pendingLocks := by
  intro hmem
  obtain ⟨l, hl⟩ := (h.agree.xLocks.our.hasLock h.agree.xLocks.ourTracked hmem).getLock_isSome
  rw [hlock] at hl
  cases (isLockPending_of_getLock hl).symm.trans (h.fresh k (by unfold uint256Max; omega) (Nat.le_refl k))

theorem Loaded.balanceProof (h : Loaded k n) (hk : k < 200) (locksroot : Locksroot) :
    ∃ bp : BalanceProofUnsignedState, BalanceProofUnsignedState.create (getNextNonce n.x.ourState) 0
        (getAmountLocked n.x.ourState + (transferOf k).amount) locksroot toyIdentifier = .ok bp ∧
      bp.locksroot = locksroot := by
  obtain ⟨-, -, hamount⟩ := h.agree.xLocks.our.views
  have hnonce : n.x.ourState.nonce = k := h.nonce
  rw [hamount, h.locked, getNextNonce, hnonce]
  change ∃ bp, BalanceProofUnsignedState.create (k + 1) 0 (k + 1) _ _ = _ ∧ _
  rw [BalanceProofUnsignedState.create, dif_pos (Nat.succ_pos k), dif_pos (by unfold uint64Max; omega),
    dif_pos (Nat.zero_le _), if_pos (by unfold uint256Max; decide), if_neg (by omega),
    dif_pos (by unfold uint256Max; omega)]
  exact ⟨_, rfl, rfl⟩

/-- The next transfer is sent, whatever the number of pending ones. -/
theorem Loaded.send (h : Loaded k n) (hk : k < 200) :
    ∃ c' event, sendLockedtransfer toyPrimitives n.x (transferOf k) = .ok (c', event) := by
  obtain ⟨lock, hlock⟩ : ∃ lock, HashTimeLockState.create (transferOf k).amount
      (transferOf k).expiration (transferOf k).secrethash = .ok lock := ⟨_, rfl⟩
  have hnew := h.lock_notMem hk (HashTimeLockState.create_ok hlock).2.2
  have hidentifier : n.x.canonicalIdentifier = toyIdentifier := by rw [h.rest]; rfl
  have hours : n.x.ourState.transferredAmount = 0 := h.transferred
  obtain ⟨bp, hproof, hbp⟩ := h.balanceProof hk
    (computeLocksroot toyPrimitives (n.x.ourState.pendingLocks ++ [lock.encoded]))
  have hroot : bp.locksroot ≠ locksrootOfNoLocks toyPrimitives := by
    rw [hbp]
    simp [computeLocksroot, locksrootOfNoLocks, toyPrimitives, wordBytes]
  have hle : (transferOf k).amount ≤ getDistributable toyPrimitives n.x.ourState n.x.partnerState := by
    rw [h.distributable hk]
    change (1 : Int) ≤ _
    omega
  have hmax : (0 : Int) + (transferOf k).amount ≤ uint256Max := by
    change (0 : Int) + 1 ≤ _
    unfold uint256Max
    omega
  suffices hcreate : ∃ r, createSendlockedtransfer toyPrimitives n.x (transferOf k) = .ok r by
    obtain ⟨r, hr⟩ := hcreate
    exact ⟨_, _, seq_ok_iff.mpr ⟨r, hr, rfl⟩⟩
  simp only [createSendlockedtransfer, seq_ok_iff, assert_eq_ok, exists_const, hlock, Except.ok.injEq,
    exists_eq_left', computeLocksWith, hnew, not_false_eq_true, if_true, hours, hidentifier, hle,
    h.status, true_and]
  exact ⟨_, hmax, bp, hproof, (), check_eq_ok.mpr hroot, rfl⟩

theorem Loaded.usable (h : Loaded k n) (hk : k < maximumPendingTransfers) :
    isChannelUsableForNewTransfer toyPrimitives n.x (transferOf k).amount none = .usable := by
  obtain ⟨htransferred, hlocked, -⟩ := h.agree.xLocks.our.views
  have htimeouts : ¬n.x.settleTimeout < n.x.revealTimeout * 2 := by
    rw [h.rest]
    exact (by decide : ¬50 < 10 * 2)
  have hpending : n.x.ourState.pendingLocks.length = k := h.pending
  unfold maximumPendingTransfers at hk
  have hdistributable := h.distributable (by omega)
  have hvalid : isValidAmount toyPrimitives n.x.ourState 1 = true := by
    simp only [isValidAmount, htransferred, hlocked, h.transferred, h.locked, uint256Max, decide_eq_true_eq]
    omega
  change isChannelUsableForNewTransfer toyPrimitives n.x 1 none = .usable
  rw [isChannelUsableForNewTransfer, if_neg (not_not_intro h.status), if_neg htimeouts,
    if_neg (by rw [getNumberOfPendingTransfers, hpending, maximumPendingTransfers]; omega),
    if_neg (by omega), hvalid]
  rfl

theorem Loaded.fresh_addLock {bp : BalanceProofState} {locks : List EncodedData} {lock : HashTimeLockState}
    {i : Nat} (h : Loaded k n) (hkey : lock.secrethash = BitVec.ofNat 256 k) (hi : i < uint256Max)
    (hlt : k < i) : isLockPending (addLock n.x.ourState bp locks lock) (BitVec.ofNat 256 i) = false := by
  have hother := h.fresh i hi (Nat.le_of_lt hlt)
  have hne : BitVec.ofNat 256 i ≠ BitVec.ofNat 256 k := by
    intro heq
    have hnat := congrArg BitVec.toNat heq
    simp only [BitVec.toNat_ofNat, uint256Max] at hnat hi
    omega
  simp only [isLockPending, addLock, hkey] at hother ⊢
  simpa [Dict.mem_set, hne] using hother

/-- One more transfer is sent and accepted. -/
theorem Loaded.next (h : Loaded k n) (hk : k < maximumPendingTransfers) :
    ∃ sent n₁ received n', NetStep toyPrimitives toySigning n sent n₁ ∧
      NetStep toyPrimitives toySigning n₁ received n' ∧ Loaded (k + 1) n' := by
  have hlt : k < 200 := Nat.lt_trans hk (by decide)
  obtain ⟨c', event, hsend⟩ := h.send hlt
  have hfresh := h.fresh k (by unfold uint256Max; omega) (Nat.le_refl k)
  have husable := h.usable hk
  obtain ⟨locks, hsent, hc'⟩ := sendLockedtransfer_ok _ hsend
  obtain ⟨hrecorded, -⟩ :=
    sendLockedtransfer_issued toySigning h.agree.xLocks h.agree.half.safe hfresh hsend []
  obtain ⟨x, y, fromX, fromY⟩ := n
  obtain rfl : fromX = [] := h.fromX
  obtain ⟨m, hact, ⟨t, hm⟩, hdeposit⟩ : ∃ m : Envelope,
      Acts toyPrimitives toySigning ⟨x, y, [], fromY⟩ (.transfer (transferOf k)) ⟨c', y, [m], fromY⟩ ∧
        (∃ t, m.message = .lockedTransfer t) ∧ m.deposit = x.ourState.contractBalance :=
    ⟨_, .transfer [] husable hfresh hsend, ⟨_, rfl⟩, rfl⟩
  have hagree := hact.agree h.agree
  obtain ⟨y', hdeliver⟩ := (hagree.inOrder _ _ rfl 1 none).2 (fun _ heq => by cases hm.symm.trans heq)
    h.opened (Nat.le_of_eq (hdeposit.trans (h.deposit.trans h.known.symm)))
  have hreceive : NetStep toyPrimitives toySigning ⟨c', y, [m], fromY⟩ (false, .receive 1)
      ⟨c', y', [], fromY⟩ := .y (.accept rfl hdeliver)
  rw [hm] at hdeliver
  obtain ⟨hrefused, -⟩ | ⟨-, locks', -, rfl⟩ := deliver_lockedTransfer hdeliver
  · cases hrefused
  have hledger := hrecorded.ledger
  have hlock : event.transfer.lock.amount = 1 := Int.ofNat_inj.mp hsent.amount_eq
  have hkey : event.transfer.lock.secrethash = BitVec.ofNat 256 k := hsent.secrethash_eq
  refine ⟨_, _, _, _, .x hact, hreceive, hreceive.agree hagree, rfl, ?_, ?_, ?_, ?_,
    ?_, ?_, ?_, h.opened, h.known⟩
  · rw [hc', h.rest]
  · rw [hc']; exact h.deposit
  · rw [hledger]; exact congrArg (· + 1) h.nonce
  · rw [hledger]; exact h.transferred
  · rw [hledger]; exact congrArg₂ (· + ·) h.locked hlock
  · rw [hledger]; simp [Ledger.record, h.pending]
  · rw [hc']
    exact fun i hi hle => h.fresh_addLock hkey hi hle

end Raiden.Channel
