import Raiden.Channel.Ledger

/-! # The locksroot commits to the pending locks

Every pending lock is encoded in 96 bytes. Their concatenation can be cut in only
one way, so the hash of it stands for the locks in their order. -/
namespace Raiden.Channel

inductive Registered : List EncodedData → Prop
  | empty : Registered []
  | added {pending pending' : List EncodedData} {lock : HashTimeLockState} (before : Registered pending)
    (locks_eq : computeLocksWith pending lock = some pending') : Registered pending'
  | removed {pending pending' : List EncodedData} {lockEncoded : EncodedData} (before : Registered pending)
    (locks_eq : computeLocksWithout pending lockEncoded = some pending') : Registered pending'

variable {P : Primitives} {pending : List EncodedData} {lock : HashTimeLockState} {locks : List HashTimeLockState}

/-- Every bit of a word is a bit of one of its bytes. -/
theorem wordBytes_injective {n : Nat} {v w : BitVec (8 * n)} (h : wordBytes v = wordBytes w) : v = w := by
  apply BitVec.eq_of_getLsbD_eq
  intro i hi
  have hindex : n - 1 - i / 8 < n := by omega
  have hbyte := List.map_inj_left.mp h _ (List.mem_range.mpr hindex)
  have hbit := congrArg (fun byte => byte.toBitVec.getLsbD (i % 8)) hbyte
  have hposition : 8 * (n - 1 - (n - 1 - i / 8)) + i % 8 = i := by omega
  simpa [BitVec.getLsbD_extractLsb', Nat.mod_lt i, hposition] using hbit

theorem flatMap_wordBytes_injective {n : Nat} (hn : 0 < n) {vs ws : List (BitVec (8 * n))}
    (h : vs.flatMap wordBytes = ws.flatMap wordBytes) : vs = ws := by
  have hlength : ∀ v : BitVec (8 * n), (wordBytes v).length = n := by simp [wordBytes]
  have hcons : ∀ (v : BitVec (8 * n)) vs, (v :: vs).flatMap wordBytes ≠ [] := by
    intro v vs hnil
    have := hlength v
    rw [List.flatMap_cons, List.append_eq_nil_iff] at hnil
    rw [hnil.1, List.length_nil] at this
    omega
  induction vs generalizing ws with
  | nil =>
    cases ws with
    | nil => rfl
    | cons w ws => exact absurd h.symm (hcons w ws)
  | cons v vs ih =>
    cases ws with
    | nil => exact absurd h (hcons v vs)
    | cons w ws =>
      obtain ⟨hhead, htail⟩ := List.append_inj h ((hlength v).trans (hlength w).symm)
      rw [wordBytes_injective hhead, ih htail]

theorem map_encoded_injective : Function.Injective (List.map HashTimeLockState.encoded) :=
  List.map_injective_iff.mpr fun _ _ => encoded_injective

theorem mem_map_encoded : lock.encoded ∈ locks.map HashTimeLockState.encoded ↔ lock ∈ locks :=
  List.mem_map_of_injective fun _ _ => encoded_injective

theorem Registered.exists_locks (h : Registered pending) :
    ∃ locks : List HashTimeLockState, pending = locks.map HashTimeLockState.encoded := by
  induction h with
  | empty => exact ⟨[], rfl⟩
  | @added pending pending' lock _ locks_eq ih =>
    obtain ⟨locks, rfl⟩ := ih
    unfold computeLocksWith at locks_eq
    split at locks_eq <;> cases locks_eq
    exact ⟨locks ++ [lock], by rw [List.map_append, List.map_singleton]⟩
  | @removed pending pending' lockEncoded _ locks_eq ih =>
    obtain ⟨locks, rfl⟩ := ih
    obtain ⟨-, rfl⟩ := erase_of_computeLocksWithout locks_eq
    obtain ⟨rest, -, hrest⟩ := List.sublist_map_iff.mp (List.erase_sublist (a := lockEncoded))
    exact ⟨rest, hrest⟩

/-- Lists of pending locks are encodings of locks, and equal locksroots stand for the same locks in the same
order. A lock is refused exactly if it is in the list; removing it again restores the list, and removing a
lock keeps the others in their order. -/
theorem locksroot_commits_to_locks (hkeccak : Function.Injective P.keccak) :
    (∀ pending, Registered pending →
      ∃ locks : List HashTimeLockState, pending = locks.map HashTimeLockState.encoded) ∧
    (∀ locks locks' : List HashTimeLockState,
      computeLocksroot P (locks.map HashTimeLockState.encoded) =
        computeLocksroot P (locks'.map HashTimeLockState.encoded) → locks = locks') ∧
    (∀ (locks : List HashTimeLockState) (lock : HashTimeLockState),
      computeLocksWith (locks.map HashTimeLockState.encoded) lock = none ↔ lock ∈ locks) ∧
    (∀ (pending pending' : List EncodedData) (lock : HashTimeLockState),
      computeLocksWith pending lock = some pending' → computeLocksWithout pending' lock.encoded = some pending) ∧
    ∀ (locks : List HashTimeLockState) (lock : HashTimeLockState) (pending : List EncodedData),
      computeLocksWithout (locks.map HashTimeLockState.encoded) lock.encoded = some pending →
      ∃ before after, locks = before ++ lock :: after ∧ lock ∉ before ∧
        pending = (before ++ after).map HashTimeLockState.encoded := by
  refine ⟨fun pending => Registered.exists_locks, ?_, ?_, ?_, ?_⟩
  · intro locks locks' h
    exact map_encoded_injective (flatMap_wordBytes_injective (n := 96) (by decide) (hkeccak h))
  · intro locks lock
    rw [computeLocksWith, ite_eq_right_iff]
    simp [mem_map_encoded]
  · intro pending pending' lock h
    unfold computeLocksWith at h
    split at h <;> cases h
    next hnew =>
    rw [computeLocksWithout, if_pos (by simp), List.erase_append_right _ hnew]
    simp
  · intro locks lock pending h
    obtain ⟨hmem, rfl⟩ := erase_of_computeLocksWithout h
    obtain ⟨_, _, hbefore, hlocks, herase⟩ := List.exists_erase_eq hmem
    obtain ⟨before, _, rfl, rfl, hrest⟩ := List.map_eq_append_iff.mp hlocks
    obtain ⟨lock', after, rfl, hlock, rfl⟩ := List.map_eq_cons_iff.mp hrest
    obtain rfl := encoded_injective hlock
    exact ⟨before, after, rfl, mt mem_map_encoded.mpr hbefore, herase.trans List.map_append.symm⟩

/-- With the identity for the hash, and two locks. -/
theorem toy_locksroot_commits :
    computeLocksroot toyPrimitives ([toyLock 1 1, toyLock 2 2].map HashTimeLockState.encoded) ≠
      computeLocksroot toyPrimitives ([toyLock 2 2, toyLock 1 1].map HashTimeLockState.encoded) := by
  intro h
  have hlocks := (locksroot_commits_to_locks (P := toyPrimitives) Function.injective_id).2.1 _ _ h
  exact absurd hlocks (by decide)

end Raiden.Channel
