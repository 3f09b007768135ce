import Raiden.Channel.Step

/-! # The locks of an end

Which locks the three maps of an end hold, and what the lock operations do to
them. Two facts hold in every run, whatever messages arrive: a lock is filed
under its own secrethash, and its encoding is in the list of pending locks. -/
namespace Raiden.Channel

open Lib

variable {bp : BalanceProofState} {lock : HashTimeLockState} {pending : List EncodedData}
  {c c' : NettingChannelState} {added : Option SecretHash} {P : Primitives} {k : SecretHash}
  {op : ChannelOp} {es : List Event} {now : Nat} {e' : NettingChannelEndState}

/-- The lock is in one of the three maps, under the secrethash. -/
inductive HasLock (e : NettingChannelEndState) (hash : SecretHash) (lock : HashTimeLockState) :
    Prop
  | locked (h : e.secrethashesToLockedlocks.get? hash = some lock)
  | unlocked {u : UnlockPartialProofState} (h : e.secrethashesToUnlockedlocks.get? hash = some u)
      (hu : u.lock = lock)
  | onchain {u : UnlockPartialProofState}
      (h : e.secrethashesToOnchainUnlockedlocks.get? hash = some u) (hu : u.lock = lock)

section HasLock

variable {e : NettingChannelEndState} {hash k : SecretHash} {lock l : HashTimeLockState}
  {bp : BalanceProofState} {pending : List EncodedData} {secret : Secret}

theorem HasLock.of_getUnclaimedLock (h : getUnclaimedLock e hash = some lock) :
    HasLock e hash lock := by
  simp only [getUnclaimedLock, Option.or_eq_some_iff, Option.map_eq_some_iff] at h
  rcases h with h | ⟨-, u, hu, rfl⟩
  · exact .locked h
  · exact .unlocked hu rfl

theorem HasLock.of_getLock (h : getLock e hash = some lock) : HasLock e hash lock := by
  simp only [getLock, Option.or_eq_some_iff, Option.map_eq_some_iff] at h
  rcases h with h | ⟨-, u, hu | ⟨-, hu⟩, rfl⟩
  · exact .locked h
  · exact .unlocked hu rfl
  · exact .onchain hu rfl

theorem HasLock.isLockPending (h : HasLock e hash lock) : isLockPending e hash = true := by
  refine decide_eq_true ?_
  cases h with
  | locked h => exact .inl (Dict.mem_of_get? h)
  | unlocked h => exact .inr (.inl (Dict.mem_of_get? h))
  | onchain h => exact .inr (.inr (Dict.mem_of_get? h))

theorem isLockPending_iff : isLockPending e hash = true ↔ ∃ lock, HasLock e hash lock := by
  refine ⟨fun h => ?_, fun ⟨_, h⟩ => h.isLockPending⟩
  rcases of_decide_eq_true h with h | h | h <;> obtain ⟨found, hfound⟩ := Dict.mem_iff.mp h
  · exact ⟨found, .locked hfound⟩
  · exact ⟨found.lock, .unlocked hfound rfl⟩
  · exact ⟨found.lock, .onchain hfound rfl⟩

theorem HasLock.of_addLock (h : HasLock (addLock e bp pending l) hash lock) :
    hash = l.secrethash ∧ lock = l ∨ HasLock e hash lock := by
  cases h with
  | unlocked h hu => exact .inr (.unlocked h hu)
  | onchain h hu => exact .inr (.onchain h hu)
  | locked h =>
    simp only [addLock, Dict.get?_set] at h
    split at h
    · next hk => exact .inl ⟨hk, (Option.some.inj h).symm⟩
    · exact .inr (.locked h)

theorem hasLock_dropLock : HasLock (dropLock e k) hash lock ↔ hash ≠ k ∧ HasLock e hash lock := by
  constructor
  · rintro (h | ⟨h, hu⟩ | ⟨h, hu⟩) <;> obtain ⟨hk, h⟩ := Dict.get?_del_eq_some.mp h
    · exact ⟨hk, .locked h⟩
    · exact ⟨hk, .unlocked h hu⟩
    · exact ⟨hk, .onchain h hu⟩
  · rintro ⟨hk, h | ⟨h, hu⟩ | ⟨h, hu⟩⟩ <;> have h' := Dict.get?_del_eq_some.mpr ⟨hk, h⟩
    · exact .locked h'
    · exact .unlocked h' hu
    · exact .onchain h' hu

/-- Without an on-chain unlocked entry nothing of the lock is left. -/
theorem delUnclaimedLock_eq_dropLock (h : k ∉ e.secrethashesToOnchainUnlockedlocks) :
    delUnclaimedLock e k = dropLock e k := by
  rw [dropLock, Dict.del_eq_self h]
  rfl

theorem HasLock.of_register (h : HasLock (registerSecretEndstate e secret k) hash lock) :
    HasLock e hash lock := by
  unfold registerSecretEndstate at h
  split at h
  · exact h
  · next found hfound =>
    cases h with
    | locked h =>
      rw [Dict.get?_del] at h
      split at h
      · cases h
      · exact .locked h
    | onchain h hu => exact .onchain h hu
    | unlocked h hu =>
      rw [Dict.get?_set] at h
      split at h
      · next hk =>
        cases h
        exact hk ▸ hu ▸ .locked hfound
      · exact .unlocked h hu

/-- Registering a secret on chain either changes nothing or files one of the
locks of the secrethash with its secret, in place of all of them. -/
theorem registerOnchainSecretEndstate_cases
    (h : registerOnchainSecretEndstate e secret k now = .ok e') :
    e' = e ∨ ∃ found, HasLock e k found ∧
      (k ∈ e.secrethashesToUnlockedlocks ∨ k ∈ e.secrethashesToLockedlocks) ∧
      e' = { dropLock e k with
        secrethashesToOnchainUnlockedlocks :=
          (e.secrethashesToOnchainUnlockedlocks.del k).set k ⟨found, secret⟩ } := by
  unfold registerOnchainSecretEndstate at h
  split at h
  · cases h
    exact .inl rfl
  · next found hfound =>
    split at h
    · cases h
      exact .inl rfl
    · simp only [delLock, seq_ok_iff, assert_eq_ok, exists_const, pure_eq_ok] at h
      obtain ⟨_, ⟨-, rfl⟩, rfl⟩ := h
      rw [Option.or_eq_some_iff, Option.map_eq_some_iff] at hfound
      refine .inr ⟨found, ?_, ?_, rfl⟩
      · rcases hfound with ⟨u, hu, rfl⟩ | ⟨-, hl⟩
        · exact .unlocked hu rfl
        · exact .locked hl
      · rcases hfound with ⟨u, hu, rfl⟩ | ⟨-, hl⟩
        · exact .inl (Dict.mem_of_get? hu)
        · exact .inr (Dict.mem_of_get? hl)

theorem HasLock.of_registerOnchain (h : registerOnchainSecretEndstate e secret k now = .ok e')
    (hl : HasLock e' hash lock) : HasLock e hash lock := by
  rcases registerOnchainSecretEndstate_cases h with rfl | ⟨found, hfound, -, rfl⟩
  · exact hl
  · cases hl with
    | locked hl => exact (hasLock_dropLock.mp (.locked (e := dropLock e k) hl)).2
    | unlocked hl hu => exact (hasLock_dropLock.mp (.unlocked (e := dropLock e k) hl hu)).2
    | onchain hl hu =>
      simp only [Dict.get?_set] at hl
      split at hl
      · next hk =>
        cases hl
        exact hk ▸ hu ▸ hfound
      · exact (hasLock_dropLock.mp (.onchain (e := dropLock e k) hl hu)).2

end HasLock

/-! ## Two facts about every run -/

/-- Each lock is filed under its own secrethash and listed as pending. -/
structure Tracked (e : NettingChannelEndState) : Prop where
  keyed : ∀ {hash lock}, HasLock e hash lock → lock.secrethash = hash
  pending : ∀ {hash lock}, HasLock e hash lock → lock.encoded ∈ e.pendingLocks

theorem encoded_secrethash {a b : HashTimeLockState} (h : a.encoded = b.encoded) :
    a.secrethash = b.secrethash := by
  have hwidth := congrArg (BitVec.setWidth 256) h
  exact BitVec.setWidth_append_eq_right.symm.trans (hwidth.trans BitVec.setWidth_append_eq_right)

section Tracked

variable {P : Primitives} {e o e' : NettingChannelEndState}

theorem Tracked.of_hasLock (ht : Tracked e)
    (hl : ∀ {hash lock}, HasLock e' hash lock → HasLock e hash lock)
    (hp : e'.pendingLocks = e.pendingLocks) : Tracked e' :=
  ⟨fun h => ht.keyed (hl h), fun h => hp ▸ ht.pending (hl h)⟩

/-- Taking a lock of the maps out of both representations keeps them together. -/
theorem Tracked.drop (ht : Tracked e) (hl : HasLock e k lock)
    (hp : computeLocksWithout e.pendingLocks lock.encoded = some pending) :
    Tracked (dropLock (setBalanceProof e bp pending) k) := by
  have hpending : pending = e.pendingLocks.erase lock.encoded := by
    unfold computeLocksWithout at hp
    split at hp <;> cases hp
    rfl
  have hold : ∀ {hash l}, HasLock (dropLock (setBalanceProof e bp pending) k) hash l →
      hash ≠ k ∧ HasLock e hash l := by
    intro hash l h
    obtain ⟨hk, h⟩ := hasLock_dropLock.mp h
    cases h with
    | locked h => exact ⟨hk, .locked h⟩
    | unlocked h hu => exact ⟨hk, .unlocked h hu⟩
    | onchain h hu => exact ⟨hk, .onchain h hu⟩
  refine ⟨fun h => ht.keyed (hold h).2, fun {hash l} h => ?_⟩
  obtain ⟨hk, h⟩ := hold h
  -- the encodings differ because the secrethashes do
  have hne : l.encoded ≠ lock.encoded := fun heq =>
    hk (by rw [← ht.keyed h, ← ht.keyed hl, encoded_secrethash heq])
  rw [show (dropLock (setBalanceProof e bp pending) k).pendingLocks = pending from rfl, hpending]
  exact (List.mem_erase_of_ne hne).mpr (ht.pending h)

theorem Tracked.add (ht : Tracked e) (hp : computeLocksWith e.pendingLocks lock = some pending) :
    Tracked (addLock e bp pending lock) := by
  have hpending : pending = e.pendingLocks ++ [lock.encoded] := by
    unfold computeLocksWith at hp
    split at hp <;> cases hp
    rfl
  constructor
  · intro hash l h
    rcases h.of_addLock with ⟨rfl, rfl⟩ | h
    · rfl
    · exact ht.keyed h
  · intro hash l h
    rw [show (addLock e bp pending lock).pendingLocks = pending from rfl, hpending, List.mem_append]
    rcases h.of_addLock with ⟨-, rfl⟩ | h
    · exact .inr List.mem_cons_self
    · exact .inl (ht.pending h)

/-- The lock that is unlocked, filed under the secrethash that is dropped. -/
theorem LockUnlocked.hasLock (ht : Tracked e) (h : LockUnlocked P e bp lock pending k) :
    HasLock e k lock := by
  obtain ⟨key, hget, rfl | rfl⟩ := h.lock_eq
  · exact .of_getLock hget
  · rw [ht.keyed (.of_getLock hget)]
    exact .of_getLock hget

theorem LockExpired.hasLock (ht : Tracked e) (h : LockExpired P e bp lock pending k) :
    HasLock e k lock := by
  obtain ⟨key, hget, rfl | rfl⟩ := h.lock_eq
  · exact .of_getUnclaimedLock hget
  · rw [ht.keyed (.of_getUnclaimedLock hget)]
    exact .of_getUnclaimedLock hget

/-- What no lock operation touches. -/
structure SameAccount (e e' : NettingChannelEndState) : Prop where
  address : e'.address = e.address
  deposit : e'.contractBalance = e.contractBalance
  withdrawsPending : e'.withdrawsPending = e.withdrawsPending
  initiatedCoopSettle : e'.initiatedCoopSettle = e.initiatedCoopSettle
  onchainLocksroot : e'.onchainLocksroot = e.onchainLocksroot

theorem EndStep.sameAccount (h : EndStep P added e o e') : SameAccount e e' := by
  cases h with
  | unchanged | add | unlock | expire => exact ⟨rfl, rfl, rfl, rfl, rfl⟩
  | register secret hash =>
    unfold registerSecretEndstate
    split <;> exact ⟨rfl, rfl, rfl, rfl, rfl⟩
  | registerOnchain h =>
    rcases registerOnchainSecretEndstate_cases h with rfl | ⟨_, _, _, rfl⟩ <;>
      exact ⟨rfl, rfl, rfl, rfl, rfl⟩

theorem EndStep.tracked (h : EndStep P added e o e') (ht : Tracked e) : Tracked e' := by
  cases h with
  | unchanged => exact ht
  | add _ facts => exact ht.add facts.locks_eq
  | unlock facts => exact ht.drop (facts.hasLock ht) facts.locks_eq
  | expire facts =>
    rw [delUnclaimedLock_eq_dropLock (e := setBalanceProof e _ _) facts.not_onchain]
    exact ht.drop (facts.hasLock ht) facts.locks_eq
  | register secret k =>
    refine ht.of_hasLock HasLock.of_register ?_
    unfold registerSecretEndstate
    split <;> rfl
  | registerOnchain h =>
    refine ht.of_hasLock (HasLock.of_registerOnchain h) ?_
    rcases registerOnchainSecretEndstate_cases h with rfl | ⟨_, _, _, rfl⟩ <;> rfl

theorem SameLocks.hasLock (h : SameLocks e e') {hash : SecretHash}
    (hl : HasLock e' hash lock) : HasLock e hash lock := by
  cases hl with
  | locked hl => exact .locked (h.locked ▸ hl)
  | unlocked hl hu => exact .unlocked (h.unlocked ▸ hl) hu
  | onchain hl hu => exact .onchain (h.onchain ▸ hl) hu

/-- A lock appears at an end only if it is added there. -/
theorem EndStep.hasLock (h : EndStep P added e o e') (hadded : added ≠ some k) (hl : HasLock e' k lock) :
    HasLock e k lock := by
  have hdrop : ∀ {bp : BalanceProofState} {pending : List EncodedData} {key : SecretHash},
      HasLock (dropLock (setBalanceProof e bp pending) key) k lock → HasLock e k lock := by
    intro bp pending key hl
    cases (hasLock_dropLock.mp hl).2 with
    | locked h => exact .locked h
    | unlocked h hu => exact .unlocked h hu
    | onchain h hu => exact .onchain h hu
  cases h with
  | unchanged => exact hl
  | add heq =>
    rcases hl.of_addLock with ⟨hk, -⟩ | hl
    · exact absurd (hk ▸ heq) hadded
    · exact hl
  | unlock => exact hdrop hl
  | expire facts =>
    rw [delUnclaimedLock_eq_dropLock (e := setBalanceProof e _ _) facts.not_onchain] at hl
    exact hdrop hl
  | register => exact hl.of_register
  | registerOnchain h => exact hl.of_registerOnchain h

theorem SameLocks.tracked (h : SameLocks e e') (ht : Tracked e) : Tracked e' :=
  ht.of_hasLock h.hasLock h.pendingLocks

end Tracked

theorem Step.tracked {label : ChannelOp × List Event} (h : Step P c label c') (hour : Tracked c.ourState)
    (hpartner : Tracked c.partnerState) : Tracked c'.ourState ∧ Tracked c'.partnerState := by
  cases h.cases with
  | stateChange _ frame _ => exact ⟨frame.our.same.tracked hour, frame.partner.same.tracked hpartner⟩
  | lock step => exact ⟨step.our.tracked hour, step.partner.tracked hpartner⟩

/-- An operation that adds no lock for the secrethash leaves none that was not there. -/
theorem Step.hasLock (h : Step P c (op, es) c') (hour : op.addedByUs ≠ some k)
    (hpartner : op.addedByPartner P c ≠ some k) :
    (HasLock c'.ourState k lock → HasLock c.ourState k lock) ∧
      (HasLock c'.partnerState k lock → HasLock c.partnerState k lock) := by
  cases h.cases with
  | stateChange _ frame _ => exact ⟨frame.our.same.hasLock, frame.partner.same.hasLock⟩
  | lock step => exact ⟨step.our.hasLock hour, step.partner.hasLock hpartner⟩

theorem Step.isLockPending_partner (h : Step P c (op, es) c') (hop : op.addedByPartner P c ≠ some k)
    (hnone : isLockPending c.partnerState k = false) : isLockPending c'.partnerState k = false := by
  by_contra hpending
  rw [Bool.not_eq_false, isLockPending_iff] at hpending
  obtain ⟨lock, hl⟩ := hpending
  have hbefore : HasLock c.partnerState k lock := by
    cases h.cases with
    | stateChange _ frame _ => exact frame.partner.same.hasLock hl
    | lock step => exact step.partner.hasLock hop hl
  rw [hbefore.isLockPending] at hnone
  cases hnone

end Raiden.Channel
