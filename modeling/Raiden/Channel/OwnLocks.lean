import Raiden.Channel.Overflow

/-! # The locks a node sent

A node that never adds a lock under a secrethash that is still pending at its
end can always unlock a lock it holds: all the assertions on the way are met,
and only the nonce can run out. -/
namespace Raiden.Channel

open Lib

variable {P : Primitives} {c c' : NettingChannelState} {op : ChannelOp} {es : List Event}
  {now : Nat} {secret : Secret}

/-- The invariant of our end. -/
structure OwnLocks (P : Primitives) (c : NettingChannelState) : Prop where
  tracked : Tracked c.ourState
  consistent : LocksConsistent P c.ourState
  bounded : Bounded c.ourState
  proven : c.ourState.balanceProof = none → c.ourState.pendingLocks = []

/-- The operation adds no lock to our end under a secrethash that is pending there. -/
def AddsFresh (c : NettingChannelState) (op : ChannelOp) : Prop :=
  ∀ k, op.addedByUs = some k → isLockPending c.ourState k = false

instance (c : NettingChannelState) (op : ChannelOp) : Decidable (AddsFresh c op) :=
  decidable_of_iff (op.addedByUs.all (fun k => isLockPending c.ourState k = false) = true) (by
    simp [AddsFresh, Option.all_eq_true])

theorem OwnLocks.start (h : Fresh c) : OwnLocks P c :=
  ⟨h.our.tracked, h.our.locksConsistent, h.our.bounded, fun _ => h.our.pendingLocks⟩

private theorem EndStep.proven {added : Option SecretHash} {e o e' : NettingChannelEndState}
    (h : EndStep P added e o e') (hp : e.balanceProof = none → e.pendingLocks = []) :
    e'.balanceProof = none → e'.pendingLocks = [] := by
  cases h with
  | unchanged => exact hp
  | add | unlock | expire => exact nofun
  | register secret hash =>
    unfold registerSecretEndstate
    split <;> exact hp
  | registerOnchain h => rcases registerOnchainSecretEndstate_cases h with rfl | ⟨_, _, _, rfl⟩ <;> exact hp

theorem OwnLocks.step (h : OwnLocks P c) (hfresh : AddsFresh c op) (hstep : Step P c (op, es) c') :
    OwnLocks P c' := by
  cases hstep.cases with
  | stateChange _ frame _ =>
    have hsame := frame.our.same
    refine ⟨hsame.tracked h.tracked, hsame.locksConsistent h.consistent,
      h.bounded.of_balanceProof hsame.balanceProof, fun hnone => ?_⟩
    rw [hsame.pendingLocks]
    exact h.proven (hsame.balanceProof ▸ hnone)
  | lock step =>
    exact ⟨step.our.tracked h.tracked, step.our.locksConsistent h.tracked h.consistent hfresh,
      step.our.bounded h.tracked h.consistent hfresh h.bounded, step.our.proven h.proven⟩

theorem OwnLocks.of_ourState (h : OwnLocks P c) (hour : c'.ourState = c.ourState) : OwnLocks P c' := by
  obtain ⟨tracked, consistent, bounded, proven⟩ := h
  rw [← hour] at tracked consistent bounded proven
  exact ⟨tracked, consistent, bounded, proven⟩

/-! ## Looking a lock up -/

section Lookup

variable {e e' : NettingChannelEndState} {k : SecretHash} {lock : HashTimeLockState}

theorem getLock_eq_none_iff : getLock e k = none ↔ isLockPending e k = false := by
  simp only [not_isLockPending_iff, Dict.not_mem_iff, getLock, Option.or_eq_none_iff,
    Option.map_eq_none_iff]

theorem SameLocksAt.getLock_eq (h : SameLocksAt k e e') : getLock e' k = getLock e k := by
  simp only [getLock, h.locked, h.unlocked, h.onchain]

theorem getLock_of_locked (h : e.secrethashesToLockedlocks.get? k = some lock) : getLock e k = some lock := by
  rw [getLock, h, Option.some_or]

/-- Registering the secret of a lock on chain moves the lock, it does not change it. -/
theorem getLock_registerOnchain (hd : MapsDisjoint e)
    (h : registerOnchainSecretEndstate e secret k now = .ok e') : getLock e' k = getLock e k := by
  rcases registerOnchainSecretEndstate_cases h with rfl | ⟨found, hfound, -, rfl⟩
  · rfl
  · rw [HasLock.getLock_eq hd hfound]
    simp [getLock, dropLock, delUnclaimedLock]

theorem getLock_addLock (e : NettingChannelEndState) (bp : BalanceProofState) (locks : List EncodedData)
    (lock : HashTimeLockState) : getLock (addLock e bp locks lock) lock.secrethash = some lock :=
  getLock_of_locked (Dict.get?_set_self _ _ _)

theorem isLockPending_delUnclaimedLock {bp : BalanceProofState} {locks : List EncodedData}
    (h : k ∉ e.secrethashesToOnchainUnlockedlocks) :
    isLockPending (delUnclaimedLock (setBalanceProof e bp locks) k) k = false := by
  simp [isLockPending, delUnclaimedLock, setBalanceProof, h]

end Lookup

/-! ## Operations for one secrethash -/

section Touched

variable {k : SecretHash}

/-- Our end after operations for the secrethash `k`. -/
structure Touched (P : Primitives) (k : SecretHash) (c c' : NettingChannelState) : Prop where
  own : OwnLocks P c'
  identity : SameIdentity c c'
  others : ∀ k', k' ≠ k → SameLocksAt k' c.ourState c'.ourState

theorem Touched.refl (h : OwnLocks P c) (k : SecretHash) : Touched P k c c :=
  ⟨h, .refl c, fun k' _ => .refl k' _⟩

theorem Touched.trans {c'' : NettingChannelState} (h : Touched P k c c') (h' : Touched P k c' c'') :
    Touched P k c c'' := by
  refine ⟨h'.own, h.identity.trans h'.identity, fun k' hk => ?_⟩
  have hfirst := h.others k' hk
  have hsecond := h'.others k' hk
  exact ⟨hsecond.locked.trans hfirst.locked, hsecond.unlocked.trans hfirst.unlocked,
    hsecond.onchain.trans hfirst.onchain⟩

theorem Touched.of_step (h : OwnLocks P c) (hstep : Step P c (op, es) c') (hfresh : AddsFresh c op)
    (hop : op.secrethash P = some k) : Touched P k c c' := by
  refine ⟨h.step hfresh hstep, hstep.sameIdentity, fun k' hk => ?_⟩
  refine (hstep.sameLocksAt h.tracked ?_).1
  rw [hop]
  exact fun heq => hk (Option.some.inj heq).symm

theorem addsFresh_of_none (h : op.addedByUs = none) : AddsFresh c op := by
  intro k hk
  rw [h] at hk
  cases hk

theorem Step.expired_cases {md : Option AddressMetadata}
    (h : Step P c (.sendLockExpired k now md, es) c') (ht : Tracked c.ourState) :
    c'.ourState = c.ourState ∨ isLockPending c'.ourState k = false := by
  have hcases : Ensures ((ChannelOp.sendLockExpired k now md).run P c) fun r =>
      ∀ d, r.newState = some d → d.ourState = c.ourState ∨ isLockPending d.ourState k = false := by
    refine .bind (expireOwnLock_cases c k now md) fun r hr => .pure ?_
    rintro d ⟨⟩
    rcases hr with rfl | ⟨lock, msg, locks, ⟨hlock, -⟩, facts, -, -, rfl⟩
    · exact .inl rfl
    · rw [ht.keyed (.of_getUnclaimedLock hlock)] at facts ⊢
      exact .inr (isLockPending_delUnclaimedLock facts.not_onchain)
  exact h.of_ensures P hcases c' rfl

theorem getLock_registerOnchainSecret {n : Nat} (hown : OwnLocks P c)
    (h : registerOnchainSecret c secret k n = .ok c') : getLock c'.ourState k = getLock c.ourState k := by
  simp only [registerOnchainSecret, seq_ok_iff, pure_eq_ok] at h
  obtain ⟨our, hour, partner, -, rfl⟩ := h
  exact getLock_registerOnchain hown.consistent.disjoint hour

end Touched

/-- The assertion on the way to an on-chain unlocked lock is always met. -/
theorem registerOnchainSecretEndstate_returns (e : NettingChannelEndState) (secret : Secret)
    (hash : SecretHash) (now : Nat) :
    ∃ e', registerOnchainSecretEndstate e secret hash now = .ok e' := by
  unfold registerOnchainSecretEndstate
  split
  · exact ⟨e, rfl⟩
  · next found hfound =>
    split
    · exact ⟨e, rfl⟩
    · have hpending : isLockPending e hash = true := by
        simp only [Option.or_eq_some_iff, Option.map_eq_some_iff] at hfound
        rcases hfound with ⟨u, hu, rfl⟩ | ⟨-, hl⟩
        · exact (HasLock.unlocked hu rfl).isLockPending
        · exact (HasLock.locked hl).isLockPending
      exact ⟨_, seq_ok_iff.mpr ⟨_, seq_ok_iff.mpr ⟨(), assert_eq_ok.mpr hpending, rfl⟩, rfl⟩⟩

theorem registerOnchainSecret_returns (c : NettingChannelState) (secret : Secret) (hash : SecretHash)
    (now : Nat) : ∃ c', registerOnchainSecret c secret hash now = .ok c' := by
  obtain ⟨ourState, hour⟩ := registerOnchainSecretEndstate_returns c.ourState secret hash now
  obtain ⟨partnerState, hpartner⟩ :=
    registerOnchainSecretEndstate_returns c.partnerState secret hash now
  exact ⟨_, seq_ok_iff.mpr ⟨ourState, hour, seq_ok_iff.mpr ⟨partnerState, hpartner, rfl⟩⟩⟩

theorem BalanceProofUnsignedState.create_returns {nonce transferredAmount : Nat} {lockedAmount : Int}
    {locksroot : Locksroot} {ident : CanonicalIdentifier} (hn : 0 < nonce)
    (ht : transferredAmount ≤ uint256Max) (hpos : 0 ≤ lockedAmount) (hl : lockedAmount ≤ uint256Max)
    (hid : ident.channelIdentifier ≤ uint256Max) :
    (∃ bp, BalanceProofUnsignedState.create nonce transferredAmount lockedAmount locksroot ident =
      .ok bp) ∨
    BalanceProofUnsignedState.create nonce transferredAmount lockedAmount locksroot ident =
      .error (.valueError "nonce is too large") := by
  unfold BalanceProofUnsignedState.create
  by_cases hlarge : nonce ≤ uint64Max
  · left
    have hnat : lockedAmount.toNat ≤ uint256Max := by omega
    simp [hn, hlarge, ht, hid, hnat, Int.not_lt.mpr hpos]
  · right
    simp [hn, hlarge]

theorem OwnLocks.sendUnlock_returns {hash : SecretHash} {lock : HashTimeLockState}
    (h : OwnLocks P c) (hid : c.identifier ≤ uint256Max)
    (hlock : getLock c.ourState hash = some lock) (hopened : getStatus c = .opened)
    (hexpired : (isLockExpired c.ourState lock now lock.expiration).isOk = false)
    (msgId : MessageID) (pid : PaymentID) (secret : Secret) (md : Option AddressMetadata) :
    (∃ r, sendUnlock P c msgId pid secret hash now md = .ok r) ∨
    sendUnlock P c msgId pid secret hash now md = .error (.valueError "nonce is too large") := by
  have hheld : HasLock c.ourState hash lock := .of_getLock hlock
  have hkey := h.tracked.keyed hheld
  have hmem := h.tracked.pending hheld
  have hpending : isLockPending c.ourState lock.secrethash = true := hkey ▸ hheld.isLockPending
  have hle : lock.amount ≤ provenLockedAmount c.ourState := h.consistent.amount_le hheld
  have hsum : c.ourState.transferredAmount + provenLockedAmount c.ourState ≤ uint256Max := h.bounded
  have hlocked := h.consistent.getAmountLocked_eq
  obtain ⟨ours, hours⟩ : ∃ ours, c.ourState.balanceProof = some ours := by
    refine Option.ne_none_iff_exists'.mp fun hnone => ?_
    rw [h.proven hnone] at hmem
    cases hmem
  have hlocks : computeLocksWithout c.ourState.pendingLocks lock.encoded =
      some (c.ourState.pendingLocks.erase lock.encoded) := by
    rw [computeLocksWithout, if_pos hmem]
  rw [NettingChannelEndState.transferredAmount, hours, Option.elim_some] at hsum
  unfold sendUnlock
  rw [hlock]
  simp only [createUnlock, hours, hlocks]
  -- the amounts of the new balance proof are in range
  rcases BalanceProofUnsignedState.create_returns (Nat.succ_pos _)
    (show lock.amount + ours.data.transferredAmount ≤ uint256Max by omega)
    (show 0 ≤ (getAmountLocked c.ourState : Int) - lock.amount by omega) (by omega) hid with
    ⟨bp, hbp⟩ | hbp
  · left
    simp only [seq_ok_iff, assert_eq_ok, exists_const, pure_eq_ok, delLock]
    refine ⟨_, _, ⟨hpending, hopened, hexpired, bp, hbp, rfl⟩, _, ⟨?_, rfl⟩, rfl⟩
    exact hpending
  · right
    simp only [seq_error_iff, assert, check_eq_error, check_eq_ok]
    exact .inl (.inr ⟨(), hpending, .inr ⟨(), hopened, .inr ⟨(), hexpired, .inl hbp⟩⟩⟩)

end Raiden.Channel
