import Raiden.Lib.Dict
import Raiden.Types

/-! # The addresses of the services

The transport keeps the validity of every registered service. The purge of the
expired ones removes entries of the dictionary it iterates over. The iteration
compares the size of the dictionary with the one at its start before every
entry and before it stops, so the purge raises after the first entry it removes. -/
namespace Raiden.Transport

open Lib

inductive RuntimeError
  | dictionaryChangedSize
deriving DecidableEq

def updateServicesAddresses (servicesAddresses addressesValidity : Dict Address Int) : Dict Address Int :=
  addressesValidity.entries.foldl (fun known e => known.set e.1 e.2) servicesAddresses

/-- The loop over the entries that are left, with the size at its start. What was removed before an
error stays removed. -/
def expireEntries (currentTimestamp : Int) (size : Nat) (servicesAddresses : Dict Address Int)
    (entries : List (Address × Int)) : Except RuntimeError Unit × Dict Address Int :=
  if servicesAddresses.entries.length ≠ size then (.error .dictionaryChangedSize, servicesAddresses)
  else
    match entries with
    | [] => (.ok (), servicesAddresses)
    | (address, validity) :: entries =>
      if validity < currentTimestamp then
        expireEntries currentTimestamp size (servicesAddresses.del address) entries
      else expireEntries currentTimestamp size servicesAddresses entries

def expireServicesAddresses (servicesAddresses : Dict Address Int) (currentTimestamp : Int) :
    Except RuntimeError Unit × Dict Address Int :=
  expireEntries currentTimestamp servicesAddresses.entries.length servicesAddresses servicesAddresses.entries

section

variable {known : Dict Address Int} {currentTimestamp : Int} {entries : List (Address × Int)}

/-- No address is purged: every validity that is left has not passed. -/
theorem expireEntries_of_valid (h : ∀ e ∈ entries, currentTimestamp ≤ e.2) :
    expireEntries currentTimestamp known.entries.length known entries = (.ok (), known) := by
  induction entries with
  | nil => simp [expireEntries]
  | cons e entries ih =>
    obtain ⟨hvalid, hrest⟩ := List.forall_mem_cons.mp h
    rw [expireEntries, if_neg (not_not.mpr rfl)]
    exact (if_neg (Int.not_lt.mpr hvalid)).trans (ih hrest)

/-- The entry after the first one that is purged raises, or the end of the iteration. -/
theorem expireEntries_of_expired (hknown : ∀ e ∈ entries, e.1 ∈ known)
    (h : ∃ e ∈ entries, e.2 < currentTimestamp) :
    (expireEntries currentTimestamp known.entries.length known entries).1 = .error .dictionaryChangedSize := by
  induction entries with
  | nil =>
    obtain ⟨_, he, -⟩ := h
    cases he
  | cons e entries ih =>
    obtain ⟨hmem, hrest⟩ := List.forall_mem_cons.mp hknown
    rw [expireEntries, if_neg (not_not.mpr rfl)]
    split
    · have hsize : (known.del e.1).entries.length ≠ known.entries.length := by
        obtain ⟨validity, hget⟩ := Dict.mem_iff.mp hmem
        refine Nat.ne_of_lt (List.length_filter_lt_length_iff_exists.mpr ?_)
        exact ⟨_, Dict.mem_entries_iff.mpr hget, by simp⟩
      rw [expireEntries.eq_def, if_pos hsize]
    · next hvalid => exact ih hrest (((List.exists_mem_cons_iff ..).mp h).resolve_left hvalid)

theorem expireServicesAddresses_of_valid
    (h : ∀ addr validity, known.get? addr = some validity → currentTimestamp ≤ validity) :
    expireServicesAddresses known currentTimestamp = (.ok (), known) :=
  expireEntries_of_valid fun _ he => h _ _ (Dict.mem_entries_iff.mp he)

end

inductive ServicesCall
  | update (addressesValidity : Dict Address Int)
  | expire (currentTimestamp : Int)

def ServicesCall.run (known : Dict Address Int) : ServicesCall → Except RuntimeError Unit × Dict Address Int
  | .update addressesValidity => (.ok (), updateServicesAddresses known addressesValidity)
  | .expire currentTimestamp => expireServicesAddresses known currentTimestamp

/-- The call returns, and an expiry leaves exactly the services that are still valid. -/
def ServicesCall.Purges (known : Dict Address Int) (call : ServicesCall) : Prop :=
  (call.run known).1 = .ok () ∧
    ∀ t, call = .expire t → ∀ address validity,
      (call.run known).2.get? address = some validity ↔ known.get? address = some validity ∧ t ≤ validity

/-- Every call of the sequence does what it is for. -/
def AllPurge (known : Dict Address Int) : List ServicesCall → Prop
  | [] => True
  | call :: calls => call.Purges known ∧ AllPurge (call.run known).2 calls

/-- At every expiry all validities that were last registered reach its timestamp. -/
def NoneExpired (registered : Dict Address Int) : List ServicesCall → Prop
  | [] => True
  | .update addressesValidity :: calls => NoneExpired (updateServicesAddresses registered addressesValidity) calls
  | .expire t :: calls =>
    (∀ address validity, registered.get? address = some validity → t ≤ validity) ∧ NoneExpired registered calls

theorem expire_purges_iff (known : Dict Address Int) (t : Int) :
    (ServicesCall.expire t).Purges known ↔
      ∀ addr validity, known.get? addr = some validity → t ≤ validity := by
  constructor
  · rintro ⟨hok, -⟩ addr validity hget
    by_contra hexpired
    have hraises : (expireEntries t known.entries.length known known.entries).1 = _ := expireEntries_of_expired
      (fun e he => Dict.mem_of_get? (Dict.mem_entries_iff.mp he))
      ⟨_, Dict.mem_entries_iff.mpr hget, Int.not_le.mp hexpired⟩
    cases hok.symm.trans hraises
  · intro hvalid
    have hrun : (ServicesCall.expire t).run known = (.ok (), known) := expireServicesAddresses_of_valid hvalid
    refine ⟨by rw [hrun], ?_⟩
    rintro _ ⟨⟩ addr validity
    rw [hrun]
    exact ⟨fun hget => ⟨hget, hvalid addr validity hget⟩, And.left⟩

/-- The purges of a sequence of calls are complete and raise nothing exactly if there is nothing to purge. -/
theorem services_purged_iff (calls : List ServicesCall) (known : Dict Address Int) :
    AllPurge known calls ↔ NoneExpired known calls := by
  induction calls generalizing known with
  | nil => exact Iff.rfl
  | cons call calls ih =>
    cases call with
    | update addressesValidity =>
      have hupdate : (ServicesCall.update addressesValidity).Purges known := ⟨rfl, nofun⟩
      exact (and_iff_right hupdate).trans (ih _)
    | expire t =>
      refine (and_congr_right fun hpurges => ?_).trans (and_congr_left' (expire_purges_iff known t))
      have hrun : (ServicesCall.expire t).run known = (.ok (), known) :=
        expireServicesAddresses_of_valid ((expire_purges_iff known t).mp hpurges)
      rw [hrun]
      exact ih known

/-- One service that is registered until 5 and expired at 6 is removed, but the purge raises. -/
theorem purge_raises :
    ¬ AllPurge .empty [.update (Dict.empty.set 1 5), .expire 6] ∧
      (ServicesCall.expire 6).run (Dict.empty.set 1 5) = (.error .dictionaryChangedSize, .empty) := by
  have hrun : (ServicesCall.expire 6).run (Dict.empty.set 1 5) = (.error .dictionaryChangedSize, .empty) := rfl
  refine ⟨?_, hrun⟩
  rintro ⟨-, ⟨hok, -⟩, -⟩
  cases (congrArg Prod.fst hrun).symm.trans hok

end Raiden.Transport
