import Raiden.Lib.Polyline
import Raiden.MediationFee

/-! # Interpolated functions are polygonal chains

Calling an interpolation finds the section of its argument by bisection. On the
range of its abscissae the result is the value of the polygonal chain through
its points, and outside of it the call raises. -/
namespace Raiden.Interpolate

open Lib

def points (f : Interpolate) : List (ℚ × ℚ) := f.xList.zip f.yList

/-- An interpolation as its constructor checks it, with a value for every abscissa. -/
structure WellFormed (f : Interpolate) : Prop where
  ascending : f.xList.Pairwise (· < ·)
  length_eq : f.xList.length = f.yList.length

section

variable {f : Interpolate} {x y : ℚ} {xs ys : List ℚ} {p q : ℚ × ℚ}

theorem ascending_check (xs : List ℚ) :
    (xs.zip xs.tail).any (fun (x, y) => y - x ≤ 0) = false ↔ xs.Pairwise (· < ·) := by
  rw [← List.isChain_iff_pairwise]
  induction xs with
  | nil => simp
  | cons a xs ih =>
    cases xs with
    | nil => simp
    | cons b xs =>
      rw [List.isChain_cons_cons, ← ih]
      simp

theorem create_eq_ok : Interpolate.create xs ys = .ok f ↔ xs.Pairwise (· < ·) ∧ f = ⟨xs, ys⟩ := by
  rw [Interpolate.create, seq_ok_iff, ← ascending_check]
  simp only [check_eq_ok, exists_const, pure_eq_ok]
  exact and_congr_right fun _ => eq_comm

theorem WellFormed.ascendingPoints (h : f.WellFormed) : AscendingPoints f.points := by
  refine List.pairwise_map.mp (?_ : (f.points.map Prod.fst).Pairwise (· < ·))
  rw [points, List.map_fst_zip h.length_eq.le]
  exact h.ascending

theorem WellFormed.fst_points (h : f.WellFormed) : f.points.map Prod.fst = f.xList :=
  List.map_fst_zip h.length_eq.le

theorem WellFormed.eq_points (h : f.WellFormed) :
    f = ⟨f.points.map Prod.fst, f.points.map Prod.snd⟩ := by
  rw [h.fst_points, points, List.map_snd_zip h.length_eq.ge]

@[simp] theorem entry_zero {α : Type} (a : α) (l : List α) : entry (a :: l) 0 = .ok a := rfl

@[simp] theorem entry_succ {α : Type} (a : α) (l : List α) (i : Nat) :
    entry (a :: l) (i + 1) = entry l i := rfl

theorem entry_eq_ok {α : Type} {l : List α} {i : Nat} {a : α} : entry l i = .ok a ↔ l[i]? = some a := by
  unfold entry
  cases l[i]? with
  | none => exact ⟨nofun, nofun⟩
  | some b => exact ⟨fun h => congrArg some (Except.ok.inj h), fun h => congrArg Except.ok (Option.some.inj h)⟩

theorem atPredecessor_zero_cons {α : Type} (a b : α) (l : List α) :
    atPredecessor (a :: b :: l) 0 = atPredecessor (b :: l) 0 := rfl

/-- The last entry of a list that is not empty. -/
theorem atPredecessor_zero {α : Type} (a : α) (l : List α) :
    ∃ last ∈ a :: l, atPredecessor (a :: l) 0 = .ok last := by
  induction l generalizing a with
  | nil => exact ⟨a, List.mem_cons_self, rfl⟩
  | cons b l ih =>
    obtain ⟨last, hmem, hlast⟩ := ih b
    exact ⟨last, List.mem_cons_of_mem _ hmem, hlast⟩

/-- Beyond the second abscissa the first point plays no role. -/
theorem call_cons_of_ge (hp : p.1 ≤ x) (hq : q.1 ≤ x) :
    call ⟨p.1 :: q.1 :: xs, p.2 :: q.2 :: ys⟩ x = call ⟨q.1 :: xs, q.2 :: ys⟩ x := by
  obtain ⟨n, hn⟩ : ∃ n, bisectRight (q.1 :: xs) x = n + 1 := by
    simp [bisectRight, hq]
  have hbisect : bisectRight (p.1 :: q.1 :: xs) x = n + 2 := by
    have hlonger : bisectRight (p.1 :: q.1 :: xs) x = bisectRight (q.1 :: xs) x + 1 := by
      simp [bisectRight, hp]
    rw [hlonger, hn]
  obtain ⟨last, -, hlast⟩ := atPredecessor_zero q.1 xs
  simp only [call, entry_zero, atPredecessor_zero_cons, hn, hbisect, hlast, Nat.add_one_sub_one, entry_succ,
    bind, Except.bind, hp, hq, true_and]

theorem call_eq_polyline (points : List (ℚ × ℚ)) (hp : AscendingPoints points)
    (hx : InRange (points.map Prod.fst) x) :
    call ⟨points.map Prod.fst, points.map Prod.snd⟩ x = .ok (polyline points x) := by
  refine InRange.section hp hx ?_ ?_ ?_
  · rintro p rfl
    simp [call, atPredecessor, polyline, check, bind, Except.bind]
  · intro p q rest hp hpx h
    obtain ⟨last, hlast, hpred⟩ := atPredecessor_zero q.1 (rest.map Prod.fst)
    have hqlast : q.1 ≤ last := by
      rcases List.mem_cons.mp hlast with rfl | hlast
      · exact le_rfl
      · obtain ⟨r, hr, rfl⟩ := List.mem_map.mp hlast
        exact (hp.tail.head_lt hr).le
    have hbisect : bisectRight (p.1 :: q.1 :: rest.map Prod.fst) x = 1 := by
      simp [bisectRight, hpx, h]
    have hxlast : x < last := h.trans_le hqlast
    rw [polyline_of_le hp h.le]
    simp [call, atPredecessor_zero_cons, hpred, hpx, hxlast.le, hxlast.ne, hbisect, check, bind,
      Except.bind, lineThrough, pure, Except.pure]
  · intro p q rest hp h _ ih
    rw [polyline_of_ge h, ← ih]
    exact call_cons_of_ge ((hp.head_lt List.mem_cons_self).le.trans h) h

theorem inRange_of_call (h : f.call x = .ok y) : InRange f.xList x := by
  obtain ⟨xList, yList⟩ := f
  simp only [call, seq_ok_iff, check_eq_ok] at h
  obtain ⟨first, hfirst, last, hlast, _, ⟨hle, hge⟩, -⟩ := h
  cases xList with
  | nil => cases hfirst
  | cons a l =>
    obtain ⟨last', hmem, hlast'⟩ := atPredecessor_zero a l
    obtain rfl : a = first := Except.ok.inj hfirst
    obtain rfl : last = last' := Except.ok.inj (hlast.symm.trans hlast')
    exact ⟨⟨a, List.mem_cons_self, hle⟩, last, hmem, hge⟩

/-- Within the range of its abscissae an interpolation has the value of its chain. -/
theorem WellFormed.call_eq (h : f.WellFormed) (hx : InRange f.xList x) :
    f.call x = .ok (polyline f.points x) := by
  have heq := call_eq_polyline f.points h.ascendingPoints (h.fst_points.symm ▸ hx)
  rwa [← h.eq_points] at heq

theorem WellFormed.eq_of_call (h : f.WellFormed) (hcall : f.call x = .ok y) : y = polyline f.points x := by
  rw [h.call_eq (inRange_of_call hcall)] at hcall
  exact (Except.ok.inj hcall).symm

theorem WellFormed.toOption_call (h : f.WellFormed) [Decidable (InRange f.xList x)] :
    (f.call x).toOption = if InRange f.xList x then some (polyline f.points x) else none := by
  split
  · next hx => rw [h.call_eq hx, Except.toOption]
  · next hx =>
    cases hcall : f.call x with
    | ok y => exact absurd (inRange_of_call hcall) hx
    | error e => rfl

/-- Samples of a function that is affine between them interpolate to the function. -/
theorem call_eq_of_affineOn {g : ℚ → ℚ} (hxs : f.xList.Pairwise (· < ·)) (hys : f.yList = f.xList.map g)
    (hg : ∀ a ∈ f.xList, ∀ b ∈ f.xList, a < b → (∀ z ∈ f.xList, z ≤ a ∨ b ≤ z) → AffineOn g a b)
    (hx : InRange f.xList x) : f.call x = .ok (g x) := by
  have hwf : f.WellFormed := ⟨hxs, by rw [hys, List.length_map]⟩
  have hrange : InRange (f.points.map Prod.fst) x := hwf.fst_points.symm ▸ hx
  rw [hwf.call_eq hx, polyline_eq_of_affineOn hwf.ascendingPoints hrange (f := g)]
  · rw [points, hys, ← List.map_prod_left_eq_zip]
    intro p hp
    obtain ⟨_, -, rfl⟩ := List.mem_map.mp hp
    rfl
  · intro p hp q hq hlt hgap
    refine hg p.1 (List.of_mem_zip hp).1 q.1 (List.of_mem_zip hq).1 hlt fun z hz => ?_
    rw [← hwf.fst_points] at hz
    obtain ⟨r, hr, rfl⟩ := List.mem_map.mp hz
    exact hgap r hr

end

end Raiden.Interpolate
