import Raiden.Channel.Locks

/-! # The four representations of the pending locks

The locks of an end are kept in three maps by secrethash, in the ordered list
of encodings, in the locked amount and in the locksroot of the latest balance
proof. They agree in every run in which no lock is added to an end under a
secrethash that is already pending there. Nothing in the handlers enforces that
condition: the maps are keyed by secrethash, the list by the full encoding. -/
namespace Raiden.Channel

open Lib

def locksOf (e : NettingChannelEndState) : List HashTimeLockState :=
  e.secrethashesToLockedlocks.values ++
    (e.secrethashesToUnlockedlocks.values.map UnlockPartialProofState.lock ++
      e.secrethashesToOnchainUnlockedlocks.values.map UnlockPartialProofState.lock)

/-- The locked amount of the latest balance proof, zero before the first one. -/
def provenLockedAmount (e : NettingChannelEndState) : Nat :=
  e.balanceProof.elim 0 fun bp => bp.data.lockedAmount

variable (P : Primitives)

/-- The locksroot of the latest balance proof, that of no locks before the first one. -/
def provenLocksroot (e : NettingChannelEndState) : Locksroot :=
  e.balanceProof.elim (locksrootOfNoLocks P) fun bp => bp.data.locksroot

structure MapsDisjoint (e : NettingChannelEndState) : Prop where
  locked_unlocked : ∀ h ∈ e.secrethashesToLockedlocks, h ∉ e.secrethashesToUnlockedlocks
  locked_onchain : ∀ h ∈ e.secrethashesToLockedlocks, h ∉ e.secrethashesToOnchainUnlockedlocks
  unlocked_onchain : ∀ h ∈ e.secrethashesToUnlockedlocks, h ∉ e.secrethashesToOnchainUnlockedlocks

/-- The maps, the list and the balance proof describe the same locks. -/
structure LocksConsistent (e : NettingChannelEndState) : Prop where
  disjoint : MapsDisjoint e
  pending : e.pendingLocks.Perm ((locksOf e).map HashTimeLockState.encoded)
  once : e.pendingLocks.Nodup
  amount : ((locksOf e).map HashTimeLockState.amount).sum = provenLockedAmount e
  locksroot : computeLocksroot P e.pendingLocks = provenLocksroot P e

section Maps

variable {P} {e : NettingChannelEndState} {k : SecretHash} {lock : HashTimeLockState}

theorem getAmountLocked_eq_sum (e : NettingChannelEndState) :
    getAmountLocked e = ((locksOf e).map HashTimeLockState.amount).sum := by
  simp only [getAmountLocked, getAmountUnclaimedOnchain, Dict.sum, locksOf, List.map_append,
    List.sum_append, List.map_map]
  exact Nat.add_assoc _ _ _

private theorem map_del_of_not_mem {d : Dict SecretHash UnlockPartialProofState} (h : k ∉ d) :
    (d.del k).values = d.values := by rw [Dict.del_eq_self h]

/-- Dropping a pending secrethash takes exactly its lock out of the maps. -/
theorem MapsDisjoint.locksOf_drop (hd : MapsDisjoint e) (hl : HasLock e k lock) :
    (locksOf e).Perm (lock :: locksOf (dropLock e k)) := by
  simp only [locksOf, dropLock, delUnclaimedLock]
  cases hl with
  | locked h =>
    have hmem := Dict.mem_of_get? h
    rw [map_del_of_not_mem (hd.locked_unlocked k hmem), map_del_of_not_mem (hd.locked_onchain k hmem)]
    exact (Dict.values_perm_of_get? h).append_right _
  | unlocked h hu =>
    have hmem := Dict.mem_of_get? h
    have hlocked : k ∉ e.secrethashesToLockedlocks := fun hk => hd.locked_unlocked k hk hmem
    rw [Dict.del_eq_self hlocked, map_del_of_not_mem (hd.unlocked_onchain k hmem)]
    subst hu
    have hp := ((Dict.values_perm_of_get? h).map UnlockPartialProofState.lock).append_right
      (e.secrethashesToOnchainUnlockedlocks.values.map UnlockPartialProofState.lock)
    exact (hp.append_left _).trans List.perm_middle
  | onchain h hu =>
    have hmem := Dict.mem_of_get? h
    have hlocked : k ∉ e.secrethashesToLockedlocks := fun hk => hd.locked_onchain k hk hmem
    have hunlocked : k ∉ e.secrethashesToUnlockedlocks := fun hk => hd.unlocked_onchain k hk hmem
    rw [Dict.del_eq_self hlocked, map_del_of_not_mem hunlocked]
    subst hu
    have hp := (Dict.values_perm_of_get? h).map UnlockPartialProofState.lock
    exact ((hp.append_left _).trans List.perm_middle).append_left _ |>.trans List.perm_middle

theorem MapsDisjoint.drop (hd : MapsDisjoint e) : MapsDisjoint (dropLock e k) := by
  constructor <;> simp only [dropLock, delUnclaimedLock, Dict.mem_del, not_and]
  · exact fun h hm _ => hd.locked_unlocked h hm.2
  · exact fun h hm _ => hd.locked_onchain h hm.2
  · exact fun h hm _ => hd.unlocked_onchain h hm.2

theorem not_isLockPending_iff : isLockPending e k = false ↔
    k ∉ e.secrethashesToLockedlocks ∧ k ∉ e.secrethashesToUnlockedlocks ∧
      k ∉ e.secrethashesToOnchainUnlockedlocks := by
  simp [isLockPending]

end Maps

section Operations

variable {P} {e e' o : NettingChannelEndState} {lock : HashTimeLockState} {k : SecretHash}
  {bp : BalanceProofState} {pending : List EncodedData} (h : LocksConsistent P e)

include h

theorem LocksConsistent.amount_eq {n : Nat} (hn : IsLockedAmount e n) :
    n = ((locksOf e).map HashTimeLockState.amount).sum := by
  rcases hn with rfl | ⟨hbp, rfl⟩
  · exact getAmountLocked_eq_sum e
  · rw [h.amount, provenLockedAmount, hbp]
    rfl

theorem LocksConsistent.add (facts : LockAdded P e o bp lock pending)
    (hfresh : isLockPending e lock.secrethash = false) :
    LocksConsistent P (addLock e bp pending lock) := by
  obtain ⟨hlocked, hunlocked, honchain⟩ := not_isLockPending_iff.mp hfresh
  have hpending : lock.encoded ∉ e.pendingLocks ∧ e.pendingLocks ++ [lock.encoded] = pending := by
    have := facts.locks_eq
    unfold computeLocksWith at this
    split at this <;> cases this
    next hnew => exact ⟨hnew, rfl⟩
  have hlocks : (locksOf (addLock e bp pending lock)).Perm (lock :: locksOf e) := by
    have hset := Dict.values_set_perm e.secrethashesToLockedlocks lock.secrethash lock
    rw [Dict.del_eq_self hlocked] at hset
    exact hset.append_right _
  refine ⟨⟨?_, ?_, ?_⟩, ?_, ?_, ?_, ?_⟩
  · intro x hx
    rcases Dict.mem_set.mp hx with rfl | hx
    exacts [hunlocked, h.disjoint.locked_unlocked x hx]
  · intro x hx
    rcases Dict.mem_set.mp hx with rfl | hx
    exacts [honchain, h.disjoint.locked_onchain x hx]
  · exact h.disjoint.unlocked_onchain
  · rw [show (addLock e bp pending lock).pendingLocks = pending from rfl, ← hpending.2]
    refine List.perm_append_comm.trans ?_
    exact (h.pending.cons _).trans (hlocks.map _).symm
  · rw [show (addLock e bp pending lock).pendingLocks = pending from rfl, ← hpending.2]
    exact List.nodup_append_comm.mp (List.nodup_cons.mpr ⟨hpending.1, h.once⟩)
  · obtain ⟨n, hn, hlockedAmount⟩ := facts.locked_eq
    rw [(hlocks.map _).sum_eq, List.map_cons, List.sum_cons, ← h.amount_eq hn, Nat.add_comm]
    exact hlockedAmount.symm
  · exact facts.locksroot_eq.symm

/-- An unlock or an expiration: the lock leaves every representation. -/
theorem LocksConsistent.remove (hl : HasLock e k lock)
    (hlocks : computeLocksWithout e.pendingLocks lock.encoded = some pending)
    (hamount : ∃ n, IsLockedAmount e n ∧ (bp.data.lockedAmount : Int) = n - lock.amount)
    (hroot : bp.data.locksroot = computeLocksroot P pending) :
    LocksConsistent P (dropLock (setBalanceProof e bp pending) k) := by
  have hpending : e.pendingLocks.erase lock.encoded = pending := by
    unfold computeLocksWithout at hlocks
    split at hlocks <;> cases hlocks
    rfl
  have hperm : (locksOf e).Perm (lock :: locksOf (dropLock e k)) := h.disjoint.locksOf_drop hl
  have hdisjoint : MapsDisjoint (setBalanceProof e bp pending) :=
    ⟨h.disjoint.locked_unlocked, h.disjoint.locked_onchain, h.disjoint.unlocked_onchain⟩
  refine ⟨hdisjoint.drop, ?_, ?_, ?_, hroot.symm⟩
  · have herase := (h.pending.trans (hperm.map _)).erase lock.encoded
    rw [List.map_cons, List.erase_cons_head, hpending] at herase
    exact herase
  · rw [show (dropLock (setBalanceProof e bp pending) k).pendingLocks = pending from rfl, ← hpending]
    exact h.once.erase _
  · obtain ⟨n, hn, hlocked⟩ := hamount
    have hsum := (hperm.map HashTimeLockState.amount).sum_eq
    rw [List.map_cons, List.sum_cons, ← h.amount_eq hn] at hsum
    rw [show provenLockedAmount (dropLock (setBalanceProof e bp pending) k) = bp.data.lockedAmount
      from rfl]
    have hsame : locksOf (dropLock (setBalanceProof e bp pending) k) = locksOf (dropLock e k) := rfl
    rw [hsame]
    omega

/-- A change that only moves locks between the maps. -/
theorem LocksConsistent.moved (hd : MapsDisjoint e')
    (hlocks : (locksOf e').Perm (locksOf e)) (hp : e'.pendingLocks = e.pendingLocks)
    (hbp : e'.balanceProof = e.balanceProof) : LocksConsistent P e' := by
  refine ⟨hd, ?_, hp ▸ h.once, ?_, ?_⟩
  · rw [hp]
    exact h.pending.trans (hlocks.map _).symm
  · rw [(hlocks.map _).sum_eq, h.amount, provenLockedAmount, provenLockedAmount, hbp]
  · rw [hp, h.locksroot, provenLocksroot, provenLocksroot, hbp]

theorem LocksConsistent.register (secret : Secret) :
    LocksConsistent P (registerSecretEndstate e secret k) := by
  unfold registerSecretEndstate
  split
  · exact h
  · next found hfound =>
    have hmem := Dict.mem_of_get? hfound
    have hunlocked := h.disjoint.locked_unlocked k hmem
    have honchain := h.disjoint.locked_onchain k hmem
    refine h.moved ⟨?_, ?_, ?_⟩ ?_ rfl rfl
    · intro x hx hset
      obtain ⟨hne, hx⟩ := Dict.mem_del.mp hx
      exact (Dict.mem_set.mp hset).elim hne (h.disjoint.locked_unlocked x hx)
    · exact fun x hx => h.disjoint.locked_onchain x (Dict.mem_del.mp hx).2
    · intro x hx
      rcases Dict.mem_set.mp hx with rfl | hx
      exacts [honchain, h.disjoint.unlocked_onchain x hx]
    · have hset := Dict.values_set_perm e.secrethashesToUnlockedlocks k ⟨found, secret⟩
      rw [Dict.del_eq_self hunlocked] at hset
      have hback := (Dict.values_perm_of_get? hfound).append_right
        (e.secrethashesToUnlockedlocks.values.map UnlockPartialProofState.lock ++
          e.secrethashesToOnchainUnlockedlocks.values.map UnlockPartialProofState.lock)
      refine List.Perm.trans ?_ hback.symm
      exact (((hset.map UnlockPartialProofState.lock).append_right _).append_left _).trans
        List.perm_middle

theorem LocksConsistent.registerOnchain {secret : Secret} {now : Nat}
    (hr : registerOnchainSecretEndstate e secret k now = .ok e') : LocksConsistent P e' := by
  rcases registerOnchainSecretEndstate_cases hr with rfl | ⟨found, hfound, -, rfl⟩
  · exact h
  · have hd := h.disjoint.drop (k := k)
    refine h.moved ⟨?_, ?_, ?_⟩ ?_ rfl rfl
    · exact hd.locked_unlocked
    · intro x hx hset
      exact (Dict.mem_set.mp hset).elim (Dict.mem_del.mp hx).1 (hd.locked_onchain x hx)
    · intro x hx hset
      exact (Dict.mem_set.mp hset).elim (Dict.mem_del.mp hx).1 (hd.unlocked_onchain x hx)
    · have hset := Dict.values_set_perm (e.secrethashesToOnchainUnlockedlocks.del k) k ⟨found, secret⟩
      rw [Dict.del_eq_self (d := e.secrethashesToOnchainUnlockedlocks.del k) (by simp)] at hset
      refine List.Perm.trans ?_ (h.disjoint.locksOf_drop hfound).symm
      exact (((hset.map UnlockPartialProofState.lock).append_left _).trans List.perm_middle).append_left
        _ |>.trans List.perm_middle

end Operations

variable {P} {e e' : NettingChannelEndState}

theorem EndStep.locksConsistent {added : Option SecretHash} {o : NettingChannelEndState}
    (h : EndStep P added e o e') (ht : Tracked e) (hc : LocksConsistent P e)
    (hfresh : ∀ k, added = some k → isLockPending e k = false) : LocksConsistent P e' := by
  cases h with
  | unchanged => exact hc
  | add hadded facts => exact hc.add facts (hfresh _ hadded)
  | unlock facts => exact hc.remove (facts.hasLock ht) facts.locks_eq facts.locked_eq facts.locksroot_eq
  | expire facts =>
    rw [delUnclaimedLock_eq_dropLock (e := setBalanceProof e _ _) facts.not_onchain]
    exact hc.remove (facts.hasLock ht) facts.locks_eq facts.locked_eq facts.locksroot_eq
  | register secret k => exact hc.register secret
  | registerOnchain h => exact hc.registerOnchain h

theorem SameLocks.locksConsistent (h : SameLocks e e')
    (hc : LocksConsistent P e) : LocksConsistent P e' := by
  have hlocks : locksOf e' = locksOf e := by
    simp only [locksOf, h.locked, h.unlocked, h.onchain]
  refine hc.moved ⟨?_, ?_, ?_⟩ (hlocks ▸ List.Perm.refl _) h.pendingLocks h.balanceProof
  · rw [h.locked, h.unlocked]
    exact hc.disjoint.locked_unlocked
  · rw [h.locked, h.onchain]
    exact hc.disjoint.locked_onchain
  · rw [h.unlocked, h.onchain]
    exact hc.disjoint.unlocked_onchain

theorem FreshEnd.tracked (h : FreshEnd e) : Tracked e := by
  have hnone : ∀ {hash lock}, ¬HasLock e hash lock := by
    rintro hash lock (hl | ⟨hl, -⟩ | ⟨hl, -⟩)
    · rw [h.locked] at hl
      cases hl
    · rw [h.unlocked] at hl
      cases hl
    · rw [h.onchain] at hl
      cases hl
  exact ⟨fun hl => absurd hl hnone, fun hl => absurd hl hnone⟩

theorem FreshEnd.locksConsistent (h : FreshEnd e) : LocksConsistent P e := by
  have hlocks : locksOf e = [] := by
    rw [locksOf, h.locked, h.unlocked, h.onchain]
    rfl
  refine ⟨⟨?_, ?_, ?_⟩, ?_, ?_, ?_, ?_⟩
  · simp [h.locked]
  · simp [h.locked]
  · simp [h.unlocked]
  · rw [h.pendingLocks, hlocks]
    exact List.Perm.refl _
  · rw [h.pendingLocks]
    exact List.nodup_nil
  · rw [hlocks, provenLockedAmount, h.balanceProof]
    rfl
  · rw [h.pendingLocks, provenLocksroot, h.balanceProof]
    rfl

/-- The operation adds no lock under a secrethash that is pending at that end. -/
def NoReuse (P : Primitives) (c : NettingChannelState) (op : ChannelOp) : Prop :=
  (∀ k, op.addedByUs = some k → isLockPending c.ourState k = false) ∧
    ∀ k, op.addedByPartner P c = some k → isLockPending c.partnerState k = false

instance (c : NettingChannelState) (op : ChannelOp) : Decidable (NoReuse P c op) :=
  decidable_of_iff (op.addedByUs.all (fun k => isLockPending c.ourState k = false) = true ∧
    (op.addedByPartner P c).all (fun k => isLockPending c.partnerState k = false) = true) (by
      simp [NoReuse, Option.all_eq_true])

/-- Both ends: the invariant carried along a run. -/
structure ChannelLocks (P : Primitives) (c : NettingChannelState) : Prop where
  ourTracked : Tracked c.ourState
  partnerTracked : Tracked c.partnerState
  our : LocksConsistent P c.ourState
  partner : LocksConsistent P c.partnerState

theorem Step.channelLocks {c c' : NettingChannelState} {label : ChannelOp × List Event}
    (h : Step P c label c') (hreuse : NoReuse P c label.1) (hc : ChannelLocks P c) :
    ChannelLocks P c' := by
  obtain ⟨hour, hpartner⟩ := h.tracked hc.ourTracked hc.partnerTracked
  cases h.cases with
  | stateChange _ frame _ =>
    exact ⟨hour, hpartner, frame.our.same.locksConsistent hc.our,
      frame.partner.same.locksConsistent hc.partner⟩
  | lock step =>
    exact ⟨hour, hpartner, step.our.locksConsistent hc.ourTracked hc.our hreuse.1,
      step.partner.locksConsistent hc.partnerTracked hc.partner hreuse.2⟩

/-- In every run without reuse of a pending secrethash the maps, the list of
pending locks and the balance proof of each end describe the same locks. -/
theorem locks_consistent_of_no_reuse {c₀ c : NettingChannelState}
    {log : List (ChannelOp × List Event)} (h₀ : Fresh c₀)
    (hrun : Run (fun c label c' => NoReuse P c label.1 ∧ Step P c label c') c₀ log c) :
    LocksConsistent P c.ourState ∧ LocksConsistent P c.partnerState := by
  have hinv : ChannelLocks P c := by
    refine hrun.invariant (I := ChannelLocks P) ?_ ?_
    · exact ⟨h₀.our.tracked, h₀.partner.tracked, h₀.our.locksConsistent, h₀.partner.locksConsistent⟩
    · exact fun _ _ _ hi hs => hs.2.channelLocks hs.1 hi
  exact ⟨hinv.our, hinv.partner⟩

def twoLocksOneUnlock : List ChannelOp :=
  let first := toyLock 50 7
  let second := toyLock 20 9
  [.receiveLockedtransfer (toyTransfer first (toyBalanceProof 0 0 50 [first])) none,
    .receiveLockedtransfer (toyTransfer second (toyBalanceProof 1 0 70 [first, second])) none,
    .receiveUnlock {
      sender := 2
      messageIdentifier := 3
      secret := [7]
      balanceProof := toyBalanceProof 2 50 20 [second] } none]

theorem locks_consistent_after_unlock :
    ∃ c log, Run (fun c label c' => NoReuse toyPrimitives c label.1 ∧ Step toyPrimitives c label c')
        (toyChannel 0 100) log c ∧ c.partnerState.pendingLocks = [(toyLock 20 9).encoded] ∧
      LocksConsistent toyPrimitives c.ourState ∧ LocksConsistent toyPrimitives c.partnerState := by
  have hexec : (execute (ChannelOp.record toyPrimitives (NoReuse toyPrimitives) 0) twoLocksOneUnlock
      ([], toyChannel 0 100)).any (fun done => done.2.partnerState.pendingLocks = [(toyLock 20 9).encoded]) =
      true := by decide +kernel
  obtain ⟨log, c, hrun, hpending⟩ := ChannelOp.exists_run hexec
  exact ⟨c, log, hrun, of_decide_eq_true hpending, locks_consistent_of_no_reuse (toyChannel_fresh 0 100) hrun⟩

end Raiden.Channel
