import Mathlib.Data.List.Nodup
import Mathlib.Algebra.BigOperators.Group.List.Basic
import Mathlib.Algebra.GroupWithZero.Nat

/-! # Insertion-ordered dictionaries

A dictionary is a list of entries with pairwise distinct keys, in insertion
order. Assignment to a present key keeps its position and assignment to an
absent key appends; the order is observable through `values`, and a loop over
a dictionary runs over `entries`. -/

namespace Option.Rel

variable {α : Type*} {R : α → α → Prop} {o p q : Option α} {a : α}

theorem refl (hR : ∀ a, R a a) (o : Option α) : Option.Rel R o o := by
  cases o with
  | none => exact .none
  | some a => exact .some (hR a)

theorem trans (hR : ∀ a b c, R a b → R b c → R a c) (h : Option.Rel R o p) (h' : Option.Rel R p q) :
    Option.Rel R o q := by
  cases h with
  | none => exact h'
  | some h =>
    cases h' with
    | some h' => exact .some (hR _ _ _ h h')

theorem mono {S : α → α → Prop} (h : Option.Rel R o p) (hRS : ∀ a b, R a b → S a b) :
    Option.Rel S o p := by
  cases h with
  | none => exact .none
  | some h => exact .some (hRS _ _ h)

theorem of_left (h : Option.Rel R o p) (ho : o = .some a) : ∃ b, p = .some b ∧ R a b := by
  cases h with
  | none => cases ho
  | some h =>
    cases ho
    exact ⟨_, rfl, h⟩

theorem of_right (h : Option.Rel R o p) (hp : p = .some a) : ∃ b, o = .some b ∧ R b a := by
  cases h with
  | none => cases hp
  | some h =>
    cases hp
    exact ⟨_, rfl, h⟩

theorem eq_none_iff (h : Option.Rel R o p) : o = .none ↔ p = .none := by
  cases h with
  | none => exact Iff.rfl
  | some => exact ⟨nofun, nofun⟩

end Option.Rel

namespace Raiden.Lib

universe u v

/-- Entries in insertion order; no key occurs twice. -/
@[ext]
structure Dict (κ : Type u) (α : Type v) where
  entries : List (κ × α)
  nodup : (entries.map Prod.fst).Nodup

namespace Dict

variable {κ : Type u} {α : Type v} {d : Dict κ α} {k k' : κ} {v : α} {es : List (κ × α)}

instance [DecidableEq κ] [DecidableEq α] : DecidableEq (Dict κ α) := fun d e =>
  decidable_of_iff (d.entries = e.entries) Dict.ext_iff.symm

def empty : Dict κ α := ⟨[], List.nodup_nil⟩

instance : Inhabited (Dict κ α) := ⟨empty⟩

def keys (d : Dict κ α) : List κ := d.entries.map Prod.fst

def values (d : Dict κ α) : List α := d.entries.map Prod.snd

/-- Replace every value in place. -/
def map {β : Type v} (f : κ → α → β) (d : Dict κ α) : Dict κ β :=
  ⟨d.entries.map fun e => (e.1, f e.1 e.2), by
    rw [List.map_map]
    exact d.nodup⟩

/-- The entries whose key meets `p`. -/
def filter (p : κ → Bool) (d : Dict κ α) : Dict κ α :=
  ⟨d.entries.filter fun e => p e.1, d.nodup.sublist (List.filter_sublist.map _)⟩

/-- The sum of `f` over the values. -/
def sum (d : Dict κ α) (f : α → Nat) : Nat := (d.values.map f).sum

@[simp]
theorem sum_empty (f : α → Nat) : (empty : Dict κ α).sum f = 0 := rfl

variable [DecidableEq κ]

/-- Update the first entry of the key in place, or append one. -/
def assign (k : κ) (v : α) : List (κ × α) → List (κ × α)
  | [] => [(k, v)]
  | e :: es => if e.1 = k then (k, v) :: es else e :: assign k v es

private theorem mem_keys_assign :
    k' ∈ (assign k v es).map Prod.fst ↔ k' = k ∨ k' ∈ es.map Prod.fst := by
  induction es with
  | nil => simp [assign]
  | cons e es ih =>
    by_cases he : e.1 = k
    · subst he
      simp [assign]
    · simp only [assign, if_neg he, List.map_cons, List.mem_cons, ih]
      tauto

private theorem nodup_assign
    (h : (es.map Prod.fst).Nodup) : ((assign k v es).map Prod.fst).Nodup := by
  induction es with
  | nil => simp [assign]
  | cons e es ih =>
    rw [List.map_cons, List.nodup_cons] at h
    by_cases he : e.1 = k
    · simpa [assign, if_pos he, ← he] using h
    · rw [assign, if_neg he, List.map_cons, List.nodup_cons, mem_keys_assign]
      exact ⟨by rintro (hk | hk); exacts [he hk, h.1 hk], ih h.2⟩

def get? (d : Dict κ α) (k : κ) : Option α :=
  (d.entries.find? fun e => e.1 = k).map Prod.snd

def set (d : Dict κ α) (k : κ) (v : α) : Dict κ α :=
  ⟨assign k v d.entries, nodup_assign d.nodup⟩

def del (d : Dict κ α) (k : κ) : Dict κ α :=
  ⟨d.entries.filter fun e => e.1 ≠ k, d.nodup.sublist (List.filter_sublist.map _)⟩

instance : Membership κ (Dict κ α) := ⟨fun d k => (d.get? k).isSome⟩

instance (d : Dict κ α) (k : κ) : Decidable (k ∈ d) :=
  inferInstanceAs (Decidable ((d.get? k).isSome = true))

theorem mem_iff : k ∈ d ↔ ∃ v, d.get? k = some v :=
  Option.isSome_iff_exists

theorem mem_of_get? (h : d.get? k = some v) : k ∈ d := mem_iff.mpr ⟨v, h⟩

theorem not_mem_iff : k ∉ d ↔ d.get? k = none := by
  change ¬(d.get? k).isSome = true ↔ _
  simp

@[simp]
theorem get?_empty (k : κ) : (empty : Dict κ α).get? k = none := rfl

@[simp]
theorem not_mem_empty (k : κ) : k ∉ (empty : Dict κ α) := not_mem_iff.mpr rfl

@[simp]
theorem get?_set_self (d : Dict κ α) (k : κ) (v : α) : (d.set k v).get? k = some v := by
  suffices h : ∀ es : List (κ × α), (assign k v es).find? (fun e => e.1 = k) = some (k, v) by
    simp [get?, set, h]
  intro es
  induction es with
  | nil => simp [assign]
  | cons e es ih =>
    by_cases he : e.1 = k <;> simp [assign, he, ih]

theorem get?_set_ne (d : Dict κ α) (v : α) (h : k' ≠ k) : (d.set k v).get? k' = d.get? k' := by
  suffices hs : ∀ es : List (κ × α),
      (assign k v es).find? (fun e => e.1 = k') = es.find? (fun e => e.1 = k') by
    simp [get?, set, hs]
  intro es
  induction es with
  | nil => simp [assign, h.symm]
  | cons e es ih =>
    by_cases he : e.1 = k
    · simp [assign, he, h.symm]
    · simp [assign, he, List.find?_cons, ih]

theorem get?_set (d : Dict κ α) (k k' : κ) (v : α) :
    (d.set k v).get? k' = if k' = k then some v else d.get? k' := by
  split
  · next h => rw [h, get?_set_self]
  · next h => exact get?_set_ne d v h

@[simp]
theorem mem_set : k' ∈ d.set k v ↔ k' = k ∨ k' ∈ d := by
  rw [mem_iff, mem_iff, get?_set]
  split <;> simp_all

@[simp]
theorem get?_del_self (d : Dict κ α) (k : κ) : (d.del k).get? k = none := by
  simp [get?, del, List.find?_eq_none]

theorem get?_del_ne (d : Dict κ α) (h : k' ≠ k) : (d.del k).get? k' = d.get? k' := by
  have hp : (fun e : κ × α => decide (e.1 ≠ k) && decide (e.1 = k')) = fun e => decide (e.1 = k') := by
    funext e
    by_cases he : e.1 = k' <;> simp [he, h]
  simp only [get?, del, List.find?_filter]
  rw [← hp]
  simp

theorem get?_del (d : Dict κ α) (k k' : κ) :
    (d.del k).get? k' = if k' = k then none else d.get? k' := by
  split
  · next h => rw [h, get?_del_self]
  · next h => exact get?_del_ne d h

theorem get?_del_eq_some : (d.del k).get? k' = some v ↔ k' ≠ k ∧ d.get? k' = some v := by
  rw [get?_del]
  split <;> simp_all

@[simp]
theorem mem_del : k' ∈ d.del k ↔ k' ≠ k ∧ k' ∈ d := by
  rw [mem_iff, mem_iff, get?_del]
  split <;> simp_all

theorem get?_map {β : Type v} (f : κ → α → β) (d : Dict κ α) (k : κ) :
    (d.map f).get? k = (d.get? k).map (f k) := by
  simp only [get?, map, List.find?_map, Option.map_map]
  change (d.entries.find? fun e => decide (e.1 = k)).map (fun e => f e.1 e.2) = _
  cases hfind : d.entries.find? fun e => decide (e.1 = k) with
  | none => rfl
  | some e =>
    have hkey : e.1 = k := by simpa using List.find?_some hfind
    simp [hkey]

theorem mem_entries_iff : (k, v) ∈ d.entries ↔ d.get? k = some v := by
  obtain ⟨es, hn⟩ := d
  simp only [get?]
  induction es with
  | nil => simp
  | cons e es ih =>
    rw [List.map_cons, List.nodup_cons] at hn
    by_cases he : e.1 = k
    · have hk : (k, v) ∉ es := fun hm => hn.1 (he ▸ List.mem_map_of_mem (f := Prod.fst) hm)
      simp [he, hk, Prod.ext_iff, eq_comm]
    · have hne : (k, v) ≠ e := fun h => he (by rw [← h])
      simp only [List.mem_cons, hne, false_or, List.find?_cons, he, decide_false]
      exact ih hn.2

theorem mem_values_iff : v ∈ d.values ↔ ∃ k, d.get? k = some v := by
  simp only [values, List.mem_map, Prod.exists, exists_eq_right, mem_entries_iff]

theorem mem_keys_iff : k ∈ d.keys ↔ k ∈ d := by
  simp only [keys, List.mem_map, Prod.exists, exists_and_right, exists_eq_right, mem_entries_iff,
    mem_iff]

theorem del_eq_self (h : k ∉ d) : d.del k = d := by
  rw [← mem_keys_iff, keys, List.mem_map, not_exists] at h
  apply Dict.ext
  rw [del, List.filter_eq_self]
  intro e he
  simpa using fun hk => h e ⟨he, hk⟩

theorem entries_del_head {e : κ × α} (h : d.entries = e :: es) : (d.del e.1).entries = es := by
  have hnodup := d.nodup
  rw [h, List.map_cons, List.nodup_cons] at hnodup
  show d.entries.filter (fun e' => e'.1 ≠ e.1) = es
  rw [h, List.filter_cons_of_neg (by simp), List.filter_eq_self]
  intro e' he'
  exact decide_eq_true fun heq => hnodup.1 (heq ▸ List.mem_map_of_mem he')

theorem del_set_self (d : Dict κ α) (k : κ) (v : α) : (d.set k v).del k = d.del k := by
  suffices h : ∀ es : List (κ × α), (assign k v es).filter (fun e => decide (e.1 ≠ k)) =
      es.filter fun e => decide (e.1 ≠ k) from Dict.ext (h d.entries)
  intro es
  induction es with
  | nil => simp [assign]
  | cons e es ih =>
    by_cases he : e.1 = k
    · simp [assign, he]
    · simp only [assign, if_neg he, List.filter_cons, ih]

theorem set_eq_self (h : d.get? k = some v) : d.set k v = d := by
  suffices hs : ∀ es : List (κ × α), (es.find? fun e => e.1 = k).map Prod.snd = some v →
      assign k v es = es from Dict.ext (hs d.entries h)
  intro es
  induction es with
  | nil => simp
  | cons e es ih =>
    intro hfind
    by_cases he : e.1 = k
    · rw [assign, if_pos he]
      simp only [List.find?_cons, he, decide_true, Option.map_some, Option.some.injEq] at hfind
      rw [← he, ← hfind]
    · rw [assign, if_neg he, ih (by simpa [List.find?_cons, he] using hfind)]

theorem set_set_self (d : Dict κ α) (k : κ) (v w : α) : (d.set k v).set k w = d.set k w := by
  suffices h : ∀ es : List (κ × α), assign k w (assign k v es) = assign k w es from
    Dict.ext (h d.entries)
  intro es
  induction es with
  | nil => simp [assign]
  | cons e es ih =>
    by_cases he : e.1 = k
    · simp [assign, he]
    · simp only [assign, if_neg he, ih]

theorem values_perm_of_get? (h : d.get? k = some v) : d.values.Perm (v :: (d.del k).values) := by
  obtain ⟨es, hn⟩ := d
  simp only [values, del, get?] at h ⊢
  induction es with
  | nil => simp at h
  | cons e es ih =>
    rw [List.map_cons, List.nodup_cons] at hn
    by_cases he : e.1 = k
    · have hrest : es.filter (fun e => decide (e.1 ≠ k)) = es := by
        rw [List.filter_eq_self]
        intro e' he'
        have : e'.1 ≠ k := fun hk => hn.1 (he ▸ hk ▸ List.mem_map_of_mem (f := Prod.fst) he')
        simpa using this
      have hv : e.2 = v := by simpa [he] using h
      rw [List.filter_cons_of_neg (by simpa using he), hrest, List.map_cons, hv]
    · have hr := ih hn.2 (by simpa [List.find?_cons, he] using h)
      rw [List.filter_cons_of_pos (by simpa using he), List.map_cons, List.map_cons]
      exact (hr.cons e.2).trans (List.Perm.swap v e.2 _)

theorem values_set_perm (d : Dict κ α) (k : κ) (v : α) :
    (d.set k v).values.Perm (v :: (d.del k).values) := by
  rw [← del_set_self d k v]
  exact values_perm_of_get? (get?_set_self d k v)

theorem sum_of_get? (f : α → Nat) (h : d.get? k = some v) : d.sum f = f v + (d.del k).sum f :=
  ((values_perm_of_get? h).map f).sum_eq

theorem sum_set (d : Dict κ α) (k : κ) (v : α) (f : α → Nat) :
    (d.set k v).sum f = f v + (d.del k).sum f :=
  ((values_set_perm d k v).map f).sum_eq

theorem sum_del_le (d : Dict κ α) (k : κ) (f : α → Nat) : (d.del k).sum f ≤ d.sum f := by
  cases h : d.get? k with
  | none => exact Nat.le_of_eq (by rw [del_eq_self (not_mem_iff.mpr h)])
  | some v =>
    rw [sum_of_get? f h]
    omega

/-- At most one entry has a given key. -/
theorem countP_entries (d : Dict κ α) (k : κ) (p : α → Bool) :
    d.entries.countP (fun e => decide (k = e.1) && p e.2) = ((d.get? k).any p).toNat := by
  obtain ⟨es, hn⟩ := d
  simp only [get?]
  induction es with
  | nil => rfl
  | cons e es ih =>
    rw [List.map_cons, List.nodup_cons] at hn
    rw [List.countP_cons, List.find?_cons]
    by_cases he : e.1 = k
    · have hrest : es.countP (fun e => decide (k = e.1) && p e.2) = 0 := by
        refine List.countP_eq_zero.mpr fun e' he' hp => hn.1 ?_
        have hk : k = e'.1 := by simpa using (Bool.and_eq_true_iff.mp hp).1
        exact List.mem_map.mpr ⟨e', he', hk.symm.trans he.symm⟩
      cases hp : p e.2 <;> simp [hrest, he, hp]
    · simp only [he, Ne.symm he, decide_false, Bool.false_and, Bool.false_eq_true, if_false, Nat.add_zero]
      exact ih hn.2

/-- A dictionary comprehension over keys that may repeat. -/
def ofKeys (keys : List κ) (f : κ → α) : Dict κ α := keys.foldl (fun d k => d.set k (f k)) .empty

theorem get?_ofKeys (keys : List κ) (f : κ → α) (k : κ) :
    (ofKeys keys f).get? k = if k ∈ keys then some (f k) else none := by
  suffices h : ∀ d : Dict κ α, (keys.foldl (fun d k => d.set k (f k)) d).get? k =
      if k ∈ keys then some (f k) else d.get? k from h .empty
  induction keys with
  | nil => simp
  | cons k' keys ih =>
    intro d
    rw [List.foldl_cons, ih, get?_set]
    by_cases hk : k = k' <;> by_cases hmem : k ∈ keys <;> simp [hk, hmem]

/-! ## Ascending keys -/

section Ascending

variable [LT κ]

/-- The keys were inserted in ascending order. -/
def Ascending (d : Dict κ α) : Prop := d.keys.Pairwise (· < ·)

omit [DecidableEq κ] in
theorem Ascending.empty : (empty : Dict κ α).Ascending := List.Pairwise.nil

theorem Ascending.del {d : Dict κ α} (h : d.Ascending) (k : κ) : (d.del k).Ascending :=
  h.sublist (List.filter_sublist.map _)

/-- Assigning to a key that no other key exceeds keeps the order. -/
theorem Ascending.set {d : Dict κ α} (h : d.Ascending) {k : κ} (v : α)
    (hmax : ∀ k' ∈ d, k' = k ∨ k' < k) : (d.set k v).Ascending := by
  simp only [← mem_keys_iff] at hmax
  obtain ⟨es, hn⟩ := d
  change (es.map Prod.fst).Pairwise (· < ·) at h
  change ∀ k' ∈ es.map Prod.fst, _ at hmax
  change ((assign k v es).map Prod.fst).Pairwise (· < ·)
  induction es with
  | nil => exact List.pairwise_singleton _ _
  | cons e es ih =>
    rw [List.map_cons, List.pairwise_cons] at h
    rw [List.map_cons, List.nodup_cons] at hn
    rw [assign]
    split
    · next he => exact List.pairwise_cons.mpr (he ▸ h)
    · next he =>
      have hrest := ih hn.2 h.2 fun k' hk' => hmax k' (List.mem_cons_of_mem _ hk')
      refine List.pairwise_cons.mpr ⟨fun k' hk' => ?_, hrest⟩
      rcases mem_keys_assign.mp hk' with rfl | hk'
      · exact (hmax e.1 List.mem_cons_self).resolve_left he
      · exact h.1 k' hk'

end Ascending

end Dict

end Raiden.Lib
