import Raiden.Channel.Solvency

/-! # The sanity check

What `sanityCheck` asserts, one end at a time. An end whose locks are consistent
and that is solvent passes, so the rest of the check is about the order of the
pending withdraws of our end. -/
namespace Raiden.Channel

open Lib

/-- The assertions about one end, seen against the other. -/
structure EndSane (P : Primitives) (e o : NettingChannelEndState) : Prop where
  balance : 0 ≤ getBalance e o
  locked : getAmountLocked e = (getCurrentBalanceproof P e).lockedAmount
  distributable : getDistributable P e o + getAmountLocked e ≤ getBalance e o
  locksroot : computeLocksroot P e.pendingLocks = (getCurrentBalanceproof P e).locksroot
  synchronized : mapsSynchronized e = true

def coopSettleInitiated (c : NettingChannelState) : Bool :=
  c.ourState.initiatedCoopSettle.isSome || c.partnerState.initiatedCoopSettle.isSome

structure Sane (P : Primitives) (c : NettingChannelState) : Prop where
  ordered : checkWithdrawsOrdered (coopSettleInitiated c) 0 c.ourState.withdrawsPending.entries = .ok ()
  our : EndSane P c.ourState c.partnerState
  partner : EndSane P c.partnerState c.ourState

theorem getBalance_add_getBalance (c : NettingChannelState) :
    getBalance c.ourState c.partnerState + getBalance c.partnerState c.ourState = getCapacity c := by
  simp only [getBalance, getBalanceWith, getCapacity, if_true]
  omega

theorem sanityCheck_iff {P : Primitives} {c : NettingChannelState} :
    sanityCheck P c = .ok () ↔ Sane P c := by
  simp only [sanityCheck, seq_ok_iff, assert_eq_ok, exists_const]
  constructor
  · rintro ⟨_, hordered, hour, hpartner, -, hplocked, hlocked, hdist, hpdist, hroot, hproot, hpsync, hsync⟩
    exact ⟨hordered, ⟨hour, hlocked, hdist, hroot, hsync⟩, ⟨hpartner, hplocked, hpdist, hproot, hpsync⟩⟩
  · rintro ⟨hordered, hour, hpartner⟩
    exact ⟨(), hordered, hour.balance, hpartner.balance, getBalance_add_getBalance c, hpartner.locked,
      hour.locked, hour.distributable, hpartner.distributable, hour.locksroot, hpartner.locksroot,
      hpartner.synchronized, hour.synchronized⟩

section Ends

variable {P : Primitives} {e e' o o' : NettingChannelEndState}

theorem getCurrentBalanceproof_lockedAmount (e : NettingChannelEndState) :
    (getCurrentBalanceproof P e).lockedAmount = e.balanceProof.elim 0 fun _ => getAmountLocked e := by
  unfold getCurrentBalanceproof
  cases e.balanceProof <;> rfl

theorem getCurrentBalanceproof_locksroot (e : NettingChannelEndState) :
    (getCurrentBalanceproof P e).locksroot = provenLocksroot P e := by
  unfold getCurrentBalanceproof provenLocksroot
  cases e.balanceProof <;> rfl

structure SameFunds (e e' : NettingChannelEndState) : Prop where
  locks : SameLocks e e'
  deposit : e'.contractBalance = e.contractBalance
  withdraw : e'.totalWithdraw = e.totalWithdraw

theorem SameFunds.getBalance_eq (he : SameFunds e e') (ho : SameFunds o o') :
    getBalance e' o' = getBalance e o := by
  rw [getBalance, getBalanceWith, he.deposit, he.withdraw, he.locks.transferredAmount_eq,
    ho.locks.transferredAmount_eq]
  rfl

theorem EndSane.congr (he : SameFunds e e') (ho : SameFunds o o') (h : EndSane P e o) : EndSane P e' o' := by
  have hlocked : (getCurrentBalanceproof P e').lockedAmount = (getCurrentBalanceproof P e).lockedAmount := by
    rw [getCurrentBalanceproof_lockedAmount, getCurrentBalanceproof_lockedAmount, he.locks.balanceProof,
      he.locks.getAmountLocked_eq]
  have hbalance := he.getBalance_eq ho
  have hamount := he.locks.getAmountLocked_eq
  refine ⟨?_, ?_, ?_, ?_, ?_⟩
  · rw [hbalance]
    exact h.balance
  · rw [hamount, hlocked]
    exact h.locked
  · rw [getDistributable, hbalance, hamount, hlocked, getCurrentBalanceproof_transferredAmount,
      he.locks.transferredAmount_eq, ← getCurrentBalanceproof_transferredAmount P e]
    exact h.distributable
  · rw [getCurrentBalanceproof_locksroot, provenLocksroot, he.locks.balanceProof, he.locks.pendingLocks]
    exact h.locksroot.trans (getCurrentBalanceproof_locksroot e)
  · rw [mapsSynchronized, he.locks.locked, he.locks.unlocked, he.locks.onchain, he.locks.pendingLocks]
    exact h.synchronized

theorem LocksConsistent.endSane (h : LocksConsistent P e) (hs : Solvent e o) : EndSane P e o := by
  have hsum := (getAmountLocked_eq_sum e).trans h.amount
  refine ⟨?_, ?_, ?_, ?_, ?_⟩
  · unfold Solvent at hs
    omega
  · rw [getCurrentBalanceproof_lockedAmount]
    cases hbp : e.balanceProof with
    | none => rw [hsum, provenLockedAmount, hbp, Option.elim_none, Option.elim_none]
    | some bp => rfl
  · have hle := getDistributable_le (P := P) e o
    omega
  · rw [getCurrentBalanceproof_locksroot]
    exact h.locksroot
  · have hmem : ∀ lock ∈ locksOf e, lock.encoded ∈ e.pendingLocks := fun lock hlock =>
      h.pending.mem_iff.mpr (List.mem_map_of_mem hlock)
    simp only [mapsSynchronized, Bool.and_eq_true, List.all_eq_true, decide_eq_true_eq]
    simp only [locksOf, List.mem_append, List.mem_map] at hmem
    exact ⟨⟨fun lock hl => hmem lock (.inl hl), fun u hu => hmem _ (.inr (.inl ⟨u, hu, rfl⟩))⟩,
      fun u hu => hmem _ (.inr (.inr ⟨u, hu, rfl⟩))⟩

end Ends

end Raiden.Channel
