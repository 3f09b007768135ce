import Raiden.Channel.LockInvariant

/-! # The ledger of an end

What the two nodes of a channel must agree on about one of its ends: nonce,
amounts, locksroot and the ordered pending locks. Sending a message and
accepting it both record the same entry in such a ledger. -/
namespace Raiden.Channel

open Lib

@[ext]
structure Ledger where
  nonce : Nat
  transferred : Nat
  locked : Nat
  locksroot : Locksroot
  pending : List EncodedData

/-- What a message with a balance proof does to the locks of its sender. -/
inductive Entry where
  | add (lock : HashTimeLockState)
  | unlock (lock : HashTimeLockState)
  | expire (lock : HashTimeLockState)

variable (P : Primitives)

def Ledger.record (l : Ledger) : Entry → Ledger
  | .add lock =>
    let pending := l.pending ++ [lock.encoded]
    ⟨l.nonce + 1, l.transferred, l.locked + lock.amount, computeLocksroot P pending, pending⟩
  | .unlock lock =>
    let pending := l.pending.erase lock.encoded
    ⟨l.nonce + 1, l.transferred + lock.amount, l.locked - lock.amount, computeLocksroot P pending,
      pending⟩
  | .expire lock =>
    let pending := l.pending.erase lock.encoded
    ⟨l.nonce + 1, l.transferred, l.locked - lock.amount, computeLocksroot P pending, pending⟩

/-- A new lock differs from the pending ones in its secrethash; a removed one is pending. -/
def Ledger.Admits (l : Ledger) : Entry → Prop
  | .add lock => ∀ other : HashTimeLockState, other.encoded ∈ l.pending →
      other.secrethash ≠ lock.secrethash
  | .unlock lock | .expire lock => lock.encoded ∈ l.pending ∧ lock.amount ≤ l.locked

theorem Ledger.record_nonce (l : Ledger) (entry : Entry) :
    (l.record P entry).nonce = l.nonce + 1 := by
  cases entry <;> rfl

theorem Ledger.transferred_le_record (l : Ledger) (entry : Entry) :
    l.transferred ≤ (l.record P entry).transferred := by
  cases entry with
  | add lock => exact Nat.le_refl _
  | unlock lock => exact Nat.le_add_right _ _
  | expire lock => exact Nat.le_refl _

def ledgerOf (e : NettingChannelEndState) : Ledger :=
  ⟨e.nonce, e.transferredAmount, provenLockedAmount e, provenLocksroot P e, e.pendingLocks⟩

/-! ## Locks of a consistent end -/

section Locks

variable {P} {e o : NettingChannelEndState} {k : SecretHash} {lock : HashTimeLockState}

private theorem ofNat_inj_of_le {m n : Nat} (hm : m ≤ uint256Max) (hn : n ≤ uint256Max)
    (h : BitVec.ofNat 256 m = BitVec.ofNat 256 n) : m = n := by
  have htoNat := congrArg BitVec.toNat h
  simp only [BitVec.toNat_ofNat] at htoNat
  unfold uint256Max at hm hn
  omega

/-- The bounds of a lock are those of its encoding, so nothing is cut off. -/
theorem encoded_injective {a b : HashTimeLockState} (h : a.encoded = b.encoded) : a = b := by
  have hsecrethash := encoded_secrethash h
  have hhigh := congrArg (BitVec.extractLsb' 256 (256 + 256)) h
  replace hhigh := BitVec.extractLsb'_append_eq_left.symm.trans
    (hhigh.trans BitVec.extractLsb'_append_eq_left)
  have hexpiration := congrArg (BitVec.extractLsb' 256 256) hhigh
  replace hexpiration := ofNat_inj_of_le a.expiration_le b.expiration_le
    (BitVec.extractLsb'_append_eq_left.symm.trans
      (hexpiration.trans BitVec.extractLsb'_append_eq_left))
  have hamount := congrArg (BitVec.setWidth 256) hhigh
  replace hamount := ofNat_inj_of_le a.amount_le b.amount_le
    (BitVec.setWidth_append_eq_right.symm.trans (hamount.trans BitVec.setWidth_append_eq_right))
  cases a
  cases b
  cases hsecrethash
  cases hexpiration
  cases hamount
  rfl

theorem HasLock.unique (hd : MapsDisjoint e) {l l' : HashTimeLockState} (h : HasLock e k l)
    (h' : HasLock e k l') : l = l' := by
  have hmem : ∀ {α : Type} {d : Dict SecretHash α} {v : α}, d.get? k = some v → k ∈ d :=
    fun h => Dict.mem_of_get? h
  rcases h with h | ⟨h, rfl⟩ | ⟨h, rfl⟩ <;> rcases h' with h' | ⟨h', rfl⟩ | ⟨h', rfl⟩
  · exact Option.some.inj (h.symm.trans h')
  · exact absurd (hmem h') (hd.locked_unlocked k (hmem h))
  · exact absurd (hmem h') (hd.locked_onchain k (hmem h))
  · exact absurd (hmem h) (hd.locked_unlocked k (hmem h'))
  · rw [Option.some.inj (h.symm.trans h')]
  · exact absurd (hmem h') (hd.unlocked_onchain k (hmem h))
  · exact absurd (hmem h) (hd.locked_onchain k (hmem h'))
  · exact absurd (hmem h) (hd.unlocked_onchain k (hmem h'))
  · rw [Option.some.inj (h.symm.trans h')]

theorem HasLock.getLock_isSome (h : HasLock e k lock) : ∃ l, getLock e k = some l := by
  rcases h with h | ⟨h, -⟩ | ⟨h, -⟩ <;> simp [getLock, h]

theorem HasLock.getLock_eq (hd : MapsDisjoint e) (h : HasLock e k lock) :
    getLock e k = some lock := by
  obtain ⟨l, hl⟩ := h.getLock_isSome
  rw [hl, (HasLock.of_getLock hl).unique hd h]

theorem LocksConsistent.hasLock (hc : LocksConsistent P e) (ht : Tracked e)
    (hp : lock.encoded ∈ e.pendingLocks) : HasLock e lock.secrethash lock := by
  obtain ⟨l, hl, heq⟩ := List.mem_map.mp (hc.pending.mem_iff.mp hp)
  obtain rfl := encoded_injective heq
  have hfiled : ∃ k, HasLock e k l := by
    simp only [locksOf, List.mem_append, List.mem_map, Dict.mem_values_iff] at hl
    rcases hl with ⟨k, h⟩ | ⟨u, ⟨k, h⟩, rfl⟩ | ⟨u, ⟨k, h⟩, rfl⟩
    · exact ⟨k, .locked h⟩
    · exact ⟨k, .unlocked h rfl⟩
    · exact ⟨k, .onchain h rfl⟩
  obtain ⟨k, h⟩ := hfiled
  exact ht.keyed h ▸ h

theorem exists_hasLock_of_isLockPending (h : isLockPending e k = true) : ∃ lock, HasLock e k lock := by
  simp only [isLockPending, decide_eq_true_iff, Dict.mem_iff] at h
  rcases h with ⟨lock, h⟩ | ⟨u, h⟩ | ⟨u, h⟩
  · exact ⟨lock, .locked h⟩
  · exact ⟨u.lock, .unlocked h rfl⟩
  · exact ⟨u.lock, .onchain h rfl⟩

theorem LocksConsistent.lockedAmount_eq (hc : LocksConsistent P e) {n : Nat}
    (hn : IsLockedAmount e n) : n = (ledgerOf P e).locked :=
  (hc.amount_eq hn).trans hc.amount

theorem LocksConsistent.views (hc : LocksConsistent P e) :
    (getCurrentBalanceproof P e).transferredAmount = (ledgerOf P e).transferred ∧
      (getCurrentBalanceproof P e).lockedAmount = (ledgerOf P e).locked ∧
      getAmountLocked e = (ledgerOf P e).locked :=
  ⟨getCurrentBalanceproof_transferredAmount P e, hc.lockedAmount_eq (isLockedAmount_current P e),
    hc.lockedAmount_eq (.inl rfl)⟩

theorem LocksConsistent.amount_le (hc : LocksConsistent P e) (hl : HasLock e k lock) :
    lock.amount ≤ (ledgerOf P e).locked := by
  have hsum := ((hc.disjoint.locksOf_drop hl).map HashTimeLockState.amount).sum_eq
  rw [List.map_cons, List.sum_cons, hc.amount] at hsum
  exact Nat.le.intro hsum.symm

end Locks

/-! ## Operations record entries -/

section Record

variable {P} {e o : NettingChannelEndState} {k : SecretHash} {lock : HashTimeLockState}
  {bp : BalanceProofState} {locks : List EncodedData}

theorem LockAdded.ledgerOf_eq (h : LockAdded P e o bp lock locks) (hc : LocksConsistent P e) :
    ledgerOf P (addLock e bp locks lock) = (ledgerOf P e).record P (.add lock) := by
  have hlocks : e.pendingLocks ++ [lock.encoded] = locks := by
    have := h.locks_eq
    unfold computeLocksWith at this
    split at this <;> cases this
    rfl
  obtain ⟨n, hn, hlocked⟩ := h.locked_eq
  rw [hc.lockedAmount_eq hn] at hlocked
  subst hlocks
  exact Ledger.ext h.nonce_eq h.transferred_eq hlocked h.locksroot_eq rfl

theorem erase_of_computeLocksWithout {pending : List EncodedData} {encoded : EncodedData}
    (h : computeLocksWithout pending encoded = some locks) :
    encoded ∈ pending ∧ pending.erase encoded = locks := by
  unfold computeLocksWithout at h
  split at h <;> cases h
  next hmem => exact ⟨hmem, rfl⟩

theorem LockUnlocked.ledgerOf_eq (h : LockUnlocked P e bp lock locks k) (hc : LocksConsistent P e) :
    ledgerOf P (dropLock (setBalanceProof e bp locks) k) = (ledgerOf P e).record P (.unlock lock) := by
  obtain ⟨-, hlocks⟩ := erase_of_computeLocksWithout h.locks_eq
  obtain ⟨n, hn, hlocked⟩ := h.locked_eq
  rw [hc.lockedAmount_eq hn] at hlocked
  have hamount : bp.data.lockedAmount = (ledgerOf P e).locked - lock.amount := by omega
  subst hlocks
  exact Ledger.ext h.nonce_eq h.transferred_eq hamount h.locksroot_eq rfl

theorem LockExpired.ledgerOf_eq (h : LockExpired P e bp lock locks k) (hc : LocksConsistent P e) :
    ledgerOf P (delUnclaimedLock (setBalanceProof e bp locks) k) =
      (ledgerOf P e).record P (.expire lock) := by
  obtain ⟨-, hlocks⟩ := erase_of_computeLocksWithout h.locks_eq
  obtain ⟨n, hn, hlocked⟩ := h.locked_eq
  rw [hc.lockedAmount_eq hn] at hlocked
  have hamount : bp.data.lockedAmount = (ledgerOf P e).locked - lock.amount := by omega
  subst hlocks
  exact Ledger.ext h.nonce_eq h.transferred_eq hamount h.locksroot_eq rfl

/-- An end that recorded an entry; its deposit and withdraws are as before. -/
structure Recorded (P : Primitives) (e e' : NettingChannelEndState) (entry : Entry) : Prop where
  ledger : ledgerOf P e' = (ledgerOf P e).record P entry
  locks : LocksConsistent P e'
  tracked : Tracked e'
  address : e'.address = e.address
  withdraw : e'.totalWithdraw = e.totalWithdraw

theorem LockAdded.recorded (h : LockAdded P e o bp lock locks) (hc : LocksConsistent P e)
    (ht : Tracked e) (hfresh : isLockPending e lock.secrethash = false) :
    Recorded P e (addLock e bp locks lock) (.add lock) :=
  ⟨h.ledgerOf_eq hc, hc.add h hfresh, ht.add h.locks_eq, rfl, rfl⟩

theorem LockUnlocked.recorded (h : LockUnlocked P e bp lock locks k) (hc : LocksConsistent P e)
    (ht : Tracked e) : Recorded P e (dropLock (setBalanceProof e bp locks) k) (.unlock lock) :=
  ⟨h.ledgerOf_eq hc, hc.remove (h.hasLock ht) h.locks_eq h.locked_eq h.locksroot_eq,
    ht.drop (h.hasLock ht) h.locks_eq, rfl, rfl⟩

theorem LockExpired.recorded (h : LockExpired P e bp lock locks k) (hc : LocksConsistent P e)
    (ht : Tracked e) : Recorded P e (delUnclaimedLock (setBalanceProof e bp locks) k) (.expire lock) := by
  have hledger := h.ledgerOf_eq hc
  rw [delUnclaimedLock_eq_dropLock (e := setBalanceProof e _ _) h.not_onchain] at hledger ⊢
  exact ⟨hledger, hc.remove (h.hasLock ht) h.locks_eq h.locked_eq h.locksroot_eq,
    ht.drop (h.hasLock ht) h.locks_eq, rfl, rfl⟩

end Record

end Raiden.Channel
