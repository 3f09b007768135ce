import Raiden.MediationFee.Interpolation

/-! # Capping fees

Before the negative fees are lifted to zero, a point is inserted wherever the fee
function crosses the axis between two of its points. The loop that inserts them
runs over as many indices as there were sections at its start, and every point
it inserts takes one of them, so it can end before the last sections. A crossing
there is not inserted, and the capped function is too high on its section. -/
namespace Raiden.MediationFee

open Lib Interpolate

variable {p q : ℚ × ℚ} {points rest : List (ℚ × ℚ)} {f : Interpolate} {x : ℚ} {steps : Nat}

def Changes (p q : ℚ × ℚ) : Prop := sign p.2 * sign q.2 = -1

instance (p q : ℚ × ℚ) : Decidable (Changes p q) := inferInstanceAs (Decidable (_ = _))

/-- Where the section crosses the axis. -/
def zeroBetween (p q : ℚ × ℚ) : ℚ × ℚ := (p.1 + |p.2| / |q.2 - p.2| * (q.1 - p.1), 0)

/-- The loop over the sections that are left, with a number of indices left. The index after an insertion
is that of the section from the zero to the second point. -/
def insertZeros : Nat → List (ℚ × ℚ) → List (ℚ × ℚ)
  | steps, p :: q :: rest =>
    if Changes p q ∧ 0 < steps then p :: zeroBetween p q :: insertZeros (steps - 2) (q :: rest)
    else p :: insertZeros (steps - 1) (q :: rest)
  | _, points => points

/-- Every section on which the sign changes is reached with an index left. -/
def Reached : Nat → List (ℚ × ℚ) → Prop
  | steps, p :: q :: rest =>
    if Changes p q then 0 < steps ∧ Reached (steps - 2) (q :: rest) else Reached (steps - 1) (q :: rest)
  | _, _ => True

def lift (p : ℚ × ℚ) : ℚ × ℚ := (p.1, max p.2 0)

def columns (points : List (ℚ × ℚ)) : List ℚ × List ℚ := (points.map Prod.fst, points.map Prod.snd)

theorem changes_iff : Changes p q ↔ p.2 * q.2 < 0 := by
  unfold Changes
  rw [mul_neg_iff]
  rcases lt_trichotomy p.2 0 with h₁ | h₁ | h₁ <;> rcases lt_trichotomy q.2 0 with h₂ | h₂ | h₂ <;>
    simp_all [sign, not_lt.mpr, le_of_lt, ne_of_lt, ne_of_gt]

/-- A crossing lies on its section, strictly between the points. -/
theorem Changes.zeroBetween (h : Changes p q) (hlt : p.1 < q.1) :
    p.1 < (zeroBetween p q).1 ∧ (zeroBetween p q).1 < q.1 ∧ lineThrough p q (zeroBetween p q).1 = 0 := by
  rw [changes_iff] at h
  have hq : q.2 ≠ 0 := right_ne_zero_of_mul h.ne
  obtain ⟨x, hx, hpx, hxq, hzero⟩ := crossing (s := q.2) hlt (by linarith) (mul_self_nonneg q.2)
  have heq : (MediationFee.zeroBetween p q).1 = x := by
    have hratio : 0 ≤ -p.2 / (q.2 - p.2) := by
      refine (mul_nonneg_iff_of_pos_right (sub_pos.mpr hlt)).mp ?_
      rw [div_mul_eq_mul_div]
      linarith
    rw [hx, MediationFee.zeroBetween, ← abs_neg p.2, ← abs_div, abs_of_nonneg hratio]
    ring
  rw [heq, hzero]
  refine ⟨hpx, lt_of_le_of_ne hxq ?_, rfl⟩
  rintro rfl
  exact hq ((lineThrough_right hlt).symm.trans ((hzero q.1).mpr rfl))

theorem insertZeros_zero (points : List (ℚ × ℚ)) : insertZeros 0 points = points := by
  induction points with
  | nil => rfl
  | cons p rest ih =>
    cases rest with
    | nil => rfl
    | cons q rest => rw [insertZeros, if_neg (fun h => absurd h.2 (lt_irrefl 0)), ih]

theorem insertZeros_cons (steps : Nat) (p : ℚ × ℚ) (rest : List (ℚ × ℚ)) :
    ∃ later, insertZeros steps (p :: rest) = p :: later := by
  cases rest with
  | nil => exact ⟨[], rfl⟩
  | cons q rest =>
    rw [insertZeros]
    split
    · exact ⟨_, rfl⟩
    · exact ⟨_, rfl⟩

theorem insertIdx_after {α β : Type} (g : α → β) (l₁ l₂ : List α) (a : α) (b : β) :
    ((l₁ ++ a :: l₂).map g).insertIdx (l₁.length + 1) b = l₁.map g ++ g a :: b :: l₂.map g := by
  induction l₁ with
  | nil => rfl
  | cons c l₁ ih => exact congrArg (g c :: ·) ih

/-- One index of the loop. -/
theorem insertZero_columns {earlier : List (ℚ × ℚ)} (hp : AscendingPoints (earlier ++ p :: q :: rest)) :
    insertZero (columns (earlier ++ p :: q :: rest)) earlier.length =
      columns (if Changes p q then earlier ++ p :: zeroBetween p q :: q :: rest else earlier ++ p :: q :: rest) := by
  have hentry : ∀ g : ℚ × ℚ → ℚ, ((earlier ++ p :: q :: rest).map g)[earlier.length]? = some (g p) ∧
      ((earlier ++ p :: q :: rest).map g)[earlier.length + 1]? = some (g q) := by
    intro g
    simp
  simp only [insertZero, columns, hentry Prod.fst, hentry Prod.snd]
  by_cases hchanges : Changes p q
  · obtain ⟨-, hpair, hbefore⟩ := List.pairwise_append.mp hp
    obtain ⟨hpz, hzq, -⟩ := hchanges.zeroBetween (AscendingPoints.head_lt hpair List.mem_cons_self)
    have hindex : bisectRight ((earlier ++ p :: q :: rest).map Prod.fst) (zeroBetween p q).1 =
        earlier.length + 1 := by
      have hle : ∀ a ∈ (earlier ++ [p]).map Prod.fst, decide (a ≤ (zeroBetween p q).1) = true := by
        intro a ha
        obtain ⟨r, hr, rfl⟩ := List.mem_map.mp ha
        rcases List.mem_append.mp hr with hr | hr
        · exact decide_eq_true ((hbefore r hr p List.mem_cons_self).le.trans hpz.le)
        · exact decide_eq_true (List.mem_singleton.mp hr ▸ hpz.le)
      rw [bisectRight, List.append_cons, List.map_append, List.takeWhile_append_of_pos hle, List.map_cons,
        List.takeWhile_cons_of_neg (by simpa using hzq)]
      simp
    rw [if_pos hchanges]
    refine (if_pos hchanges).trans ?_
    rw [show p.1 + |p.2| / |q.2 - p.2| * (q.1 - p.1) = (zeroBetween p q).1 from rfl, hindex,
      insertIdx_after, insertIdx_after, List.map_append, List.map_append]
    rfl
  · rw [if_neg hchanges]
    exact if_neg hchanges

theorem insertZeros_of_not_changes (h : ¬ Changes p q) :
    insertZeros steps (p :: q :: rest) = p :: insertZeros (steps - 1) (q :: rest) := by
  rw [insertZeros, if_neg fun hc => h hc.1]

theorem not_changes_of_zero (h : p.2 * q.2 = 0) : ¬ Changes p q := by
  rw [changes_iff, h]
  exact lt_irrefl 0

/-- The loop from an index on: the points before it are done. -/
theorem foldl_insertZero (earlier : List (ℚ × ℚ)) (hp : AscendingPoints (earlier ++ points))
    (hsteps : steps ≤ points.length - 1) :
    (List.range' earlier.length steps).foldl insertZero (columns (earlier ++ points)) =
      columns (earlier ++ insertZeros steps points) := by
  induction steps generalizing earlier points with
  | zero => rw [insertZeros_zero, List.range'_zero, List.foldl_nil]
  | succ steps ih =>
    obtain ⟨p, q, rest, rfl⟩ : ∃ p q rest, points = p :: q :: rest := by
      match points, hsteps with
      | p :: q :: rest, _ => exact ⟨p, q, rest, rfl⟩
    replace hsteps : steps ≤ rest.length := Nat.le_of_succ_le_succ hsteps
    have hnext : ∀ points, AscendingPoints (earlier ++ p :: points) → steps ≤ points.length - 1 →
        (List.range' (earlier.length + 1) steps).foldl insertZero (columns (earlier ++ p :: points)) =
          columns (earlier ++ p :: insertZeros steps points) := by
      intro points hp hlength
      have hrest := ih (earlier ++ [p]) (by rwa [← List.append_cons]) hlength
      rwa [List.length_append, ← List.append_cons, ← List.append_cons] at hrest
    rw [List.range'_succ, List.foldl_cons, insertZero_columns hp]
    by_cases hchanges : Changes p q
    · -- the next index is that of the section from the zero on
      obtain ⟨hpz, hzq, -⟩ := hchanges.zeroBetween (ascendingPoints_iff.mp hp).2.1
      rw [if_pos hchanges, hnext _ (hp.insert hpz hzq) (Nat.le_succ_of_le hsteps),
        insertZeros_of_not_changes (not_changes_of_zero (zero_mul _)), insertZeros,
        if_pos ⟨hchanges, steps.succ_pos⟩]
      rfl
    · rw [if_neg hchanges, hnext _ hp hsteps, insertZeros_of_not_changes hchanges]
      rfl

theorem ascendingPoints_insertZeros (hp : AscendingPoints points) : AscendingPoints (insertZeros steps points) := by
  induction points generalizing steps with
  | nil => exact hp
  | cons p rest ih =>
    cases rest with
    | nil => exact hp
    | cons q rest =>
      have hlt := hp.head_lt List.mem_cons_self
      have hcons : ∀ steps, AscendingPoints ([] ++ p :: insertZeros steps (q :: rest)) := by
        intro steps
        have hrest : AscendingPoints (insertZeros steps (q :: rest)) := ih hp.tail
        obtain ⟨later, heq⟩ := insertZeros_cons steps q rest
        rw [heq] at hrest ⊢
        exact ascendingPoints_iff.mpr ⟨List.pairwise_singleton .., hlt, hrest⟩
      rw [insertZeros]
      split
      · next hchanges =>
        obtain ⟨hpz, hzq, -⟩ := hchanges.1.zeroBetween hlt
        have hnext := hcons (steps - 2)
        obtain ⟨later, heq⟩ := insertZeros_cons (steps - 2) q rest
        rw [heq] at hnext ⊢
        exact hnext.insert hpz hzq
      · exact hcons _

theorem sublist_insertZeros (steps : Nat) (points : List (ℚ × ℚ)) : points.Sublist (insertZeros steps points) := by
  induction points generalizing steps with
  | nil => exact .slnil
  | cons p rest ih =>
    cases rest with
    | nil => exact .refl _
    | cons q rest =>
      rw [insertZeros]
      split
      · exact ((ih _).cons _).cons_cons _
      · exact (ih _).cons_cons _

theorem inRange_of_mem_insertZeros (hp : AscendingPoints points) {r : ℚ × ℚ}
    (hr : r ∈ insertZeros steps points) :
    InRange (points.map Prod.fst) r.1 := by
  induction points generalizing steps with
  | nil => cases hr
  | cons p rest ih =>
    cases rest with
    | nil => exact .self (List.mem_map_of_mem hr)
    | cons q rest =>
      have hrest : ∀ steps, r ∈ insertZeros steps (q :: rest) → InRange ((p :: q :: rest).map Prod.fst) r.1 := by
        intro steps hr
        obtain ⟨⟨a, ha, hle⟩, b, hb, hge⟩ := ih hp.tail hr
        exact ⟨⟨a, List.mem_cons_of_mem _ ha, hle⟩, b, List.mem_cons_of_mem _ hb, hge⟩
      rw [insertZeros] at hr
      split at hr
      · next hchanges =>
        obtain ⟨hpz, hzq, -⟩ := hchanges.1.zeroBetween (hp.head_lt List.mem_cons_self)
        rcases List.mem_cons.mp hr with rfl | hr
        · exact .self List.mem_cons_self
        rcases List.mem_cons.mp hr with rfl | hr
        · exact ⟨⟨p.1, List.mem_cons_self, hpz.le⟩, q.1, List.mem_cons_of_mem _ List.mem_cons_self, hzq.le⟩
        · exact hrest _ hr
      · rcases List.mem_cons.mp hr with rfl | hr
        · exact .self List.mem_cons_self
        · exact hrest _ hr

/-- Lifting both ends of a section without a change of sign lifts the section. -/
theorem lineThrough_lift (hlt : p.1 < q.1) (hpx : p.1 ≤ x) (hxq : x ≤ q.1) (h : ¬ Changes p q) :
    lineThrough (lift p) (lift q) x = max (lineThrough p q x) 0 := by
  obtain ⟨t, ht, ht', hmean⟩ := lineThrough_mean hlt hpx hxq
  have hline : lineThrough p q x = (1 - t) * p.2 + t * q.2 := hmean p.2 q.2
  rw [lift, lift, hmean, hline]
  rw [changes_iff, not_lt, mul_nonneg_iff] at h
  have ht'' : 0 ≤ 1 - t := sub_nonneg.mpr ht'
  rcases h with ⟨hp, hq⟩ | ⟨hp, hq⟩
  · rw [max_eq_left hp, max_eq_left hq, max_eq_left (add_nonneg (mul_nonneg ht'' hp) (mul_nonneg ht hq))]
  · rw [max_eq_right hp, max_eq_right hq, max_eq_right, mul_zero, mul_zero, add_zero]
    exact add_nonpos (mul_nonpos_of_nonneg_of_nonpos ht'' hp) (mul_nonpos_of_nonneg_of_nonpos ht hq)

/-- Between its points the capped function is the original one, lifted to zero. -/
def Lifted (steps : Nat) (points : List (ℚ × ℚ)) : Prop :=
  ∀ x, InRange (points.map Prod.fst) x →
    polyline ((insertZeros steps points).map lift) x = max (polyline points x) 0

/-- A first section that is lifted leaves the others. -/
theorem lifted_tail_iff {g : ℚ → ℚ} (hp : AscendingPoints (p :: q :: rest))
    (hbeyond : ∀ x, q.1 ≤ x → g x = polyline ((insertZeros steps (q :: rest)).map lift) x)
    (hwithin : ∀ x, p.1 ≤ x → x < q.1 → g x = max (lineThrough p q x) 0) :
    (∀ x, InRange ((p :: q :: rest).map Prod.fst) x → g x = max (polyline (p :: q :: rest) x) 0) ↔
      Lifted steps (q :: rest) := by
  constructor
  · intro h x hx
    have hqx := hx.head_le hp.tail
    have hrange : InRange ((p :: q :: rest).map Prod.fst) x :=
      ⟨⟨q.1, List.mem_cons_of_mem _ List.mem_cons_self, hqx⟩,
        hx.2.imp fun _ h => ⟨List.mem_cons_of_mem _ h.1, h.2⟩⟩
    rw [← hbeyond x hqx, h x hrange, polyline_of_ge hqx]
  · intro h x hx
    rcases lt_or_ge x q.1 with hxq | hqx
    · rw [hwithin x (hx.head_le hp) hxq, polyline_of_le hp hxq.le]
    · rw [hbeyond x hqx, h x (hx.tail hp hqx), polyline_of_ge hqx]

/-- On a section without an inserted zero the capped function is too high where the fee is zero. -/
theorem lineThrough_lift_ne (hlt : p.1 < q.1) (h : Changes p q) :
    lineThrough (lift p) (lift q) (zeroBetween p q).1 ≠ 0 := by
  obtain ⟨hpz, hzq, hzero⟩ := h.zeroBetween hlt
  obtain ⟨t, -, -, hmean⟩ := lineThrough_mean hlt hpz.le hzq.le
  have hline : (1 - t) * p.2 + t * q.2 = 0 := (hmean p.2 q.2).symm.trans hzero
  rw [lift, lift, hmean]
  intro heq
  rcases mul_neg_iff.mp (changes_iff.mp h) with ⟨hp, hq⟩ | ⟨hp, hq⟩
  · rw [max_eq_left hp.le, max_eq_right hq.le, mul_zero, add_zero] at heq
    have ht : t = 1 := (sub_eq_zero.mp ((mul_eq_zero.mp heq).resolve_right hp.ne')).symm
    rw [heq, ht] at hline
    linarith
  · rw [max_eq_right hp.le, max_eq_left hq.le, mul_zero, zero_add] at heq
    have ht : t = 0 := (mul_eq_zero.mp heq).resolve_right hq.ne'
    rw [heq, ht] at hline
    linarith

theorem lifted_iff (hp : AscendingPoints points) : Lifted steps points ↔ Reached steps points := by
  induction points generalizing steps with
  | nil =>
    refine iff_of_true (fun x hx => ?_) trivial
    obtain ⟨⟨_, h, -⟩, -⟩ := hx
    cases h
  | cons p rest ih =>
    cases rest with
    | nil => exact iff_of_true (fun x _ => rfl) trivial
    | cons q rest =>
      have hlt : p.1 < q.1 := hp.head_lt List.mem_cons_self
      unfold Lifted
      rw [insertZeros, Reached]
      by_cases hchanges : Changes p q
      · rcases steps.eq_zero_or_pos with rfl | hsteps
        · obtain ⟨later, heq⟩ := insertZeros_cons (0 - 1) q rest
          rw [if_neg fun h => absurd h.2 (lt_irrefl 0), if_pos hchanges, heq]
          refine iff_of_false (fun h => ?_) fun h => absurd h.1 (lt_irrefl 0)
          obtain ⟨hpz, hzq, hzero⟩ := hchanges.zeroBetween hlt
          have hz := h (zeroBetween p q).1
            ⟨⟨p.1, List.mem_cons_self, hpz.le⟩, q.1, List.mem_cons_of_mem _ List.mem_cons_self, hzq.le⟩
          rw [polyline_of_le hp hzq.le, hzero, max_self] at hz
          exact lineThrough_lift_ne hlt hchanges ((if_pos hzq).symm.trans hz)
        · obtain ⟨later, heq⟩ := insertZeros_cons (steps - 2) q rest
          rw [if_pos ⟨hchanges, hsteps⟩, if_pos hchanges, and_iff_right hsteps, ← ih hp.tail]
          obtain ⟨hpz, hzq, hzero⟩ := hchanges.zeroBetween hlt
          refine lifted_tail_iff hp (fun x hqx => ?_) fun x hpx hxq => ?_
          · rw [heq]
            exact (polyline_of_ge (hzq.le.trans hqx)).trans (polyline_of_ge hqx)
          · have hsame := lineThrough_of_mem (x := x) (z := zeroBetween p q) hzero hpz hzq
            rw [heq]
            rcases lt_or_ge x (zeroBetween p q).1 with hxz | hzx
            · rw [← hsame.1]
              exact (if_pos hxz).trans (lineThrough_lift hpz hpx hxz.le (not_changes_of_zero (mul_zero _)))
            · rw [← hsame.2]
              refine (polyline_of_ge hzx).trans ((if_pos hxq).trans ?_)
              exact lineThrough_lift hzq hzx hxq.le (not_changes_of_zero (zero_mul _))
      · obtain ⟨later, heq⟩ := insertZeros_cons (steps - 1) q rest
        rw [if_neg fun h => hchanges h.1, if_neg hchanges, ← ih hp.tail]
        refine lifted_tail_iff hp (fun x hqx => ?_) fun x hpx hxq => ?_
        · rw [heq]
          exact polyline_of_ge hqx
        · rw [heq]
          exact (if_pos hxq).trans (lineThrough_lift hlt hpx hxq.le hchanges)

theorem capFees_eq (hf : f.WellFormed) :
    capFees f.xList f.yList = columns ((insertZeros (f.xList.length - 1) f.points).map lift) := by
  have hcolumns : (f.xList, f.yList) = columns f.points :=
    Prod.ext (List.map_fst_zip hf.length_eq.le).symm (List.map_snd_zip hf.length_eq.ge).symm
  have hsteps : f.xList.length - 1 ≤ f.points.length - 1 := by
    rw [points, List.length_zip, ← hf.length_eq, Nat.min_self]
  have hloop := foldl_insertZero [] (show AscendingPoints ([] ++ f.points) from hf.ascendingPoints) hsteps
  rw [List.length_nil, ← List.range_eq_range', List.nil_append, List.nil_append] at hloop
  rw [capFees, hcolumns, hloop]
  simp only [columns, List.map_map]
  rfl

/-- The capped function is defined on the same interval and is the original one lifted to zero exactly if
the loop reaches all crossings: an index is left at each, where every section takes one and every insertion
takes another one. -/
theorem capping_pointwise_iff (hf : f.WellFormed) :
    (∃ capped, Interpolate.create (capFees f.xList f.yList).1 (capFees f.xList f.yList).2 = .ok capped ∧
      ∀ x, (capped.call x).toOption = (f.call x).toOption.map (max · 0)) ↔
    Reached (f.xList.length - 1) f.points := by
  classical
  rw [capFees_eq hf, ← lifted_iff hf.ascendingPoints, Lifted, hf.fst_points]
  have hzeros : AscendingPoints (insertZeros (f.xList.length - 1) f.points) :=
    ascendingPoints_insertZeros hf.ascendingPoints
  have hmem (r) (hr : r ∈ insertZeros (f.xList.length - 1) f.points) :=
    inRange_of_mem_insertZeros hf.ascendingPoints hr
  have hsub := (sublist_insertZeros (f.xList.length - 1) f.points).subset
  generalize insertZeros (f.xList.length - 1) f.points = zeros at *
  have hcapped : WellFormed ⟨(columns (zeros.map lift)).1, (columns (zeros.map lift)).2⟩ := by
    refine ⟨List.pairwise_map.mpr (List.pairwise_map.mpr hzeros), ?_⟩
    simp only [columns, List.length_map]
  have hpoints : Interpolate.points ⟨(columns (zeros.map lift)).1, (columns (zeros.map lift)).2⟩ =
      zeros.map lift := by
    rw [Interpolate.points, columns, List.zip_map', List.map_id']
  have hrange : ∀ x, InRange (columns (zeros.map lift)).1 x ↔ InRange f.xList x := by
    intro x
    rw [columns, List.map_map, ← hf.fst_points]
    refine inRange_congr (List.map_subset _ hsub) fun y hy => ?_
    obtain ⟨r, hr, rfl⟩ := List.mem_map.mp hy
    exact hmem r hr
  have hcall : ∀ x, (Interpolate.call ⟨(columns (zeros.map lift)).1, (columns (zeros.map lift)).2⟩ x).toOption =
      (f.call x).toOption.map (max · 0) ↔
      (InRange f.xList x → polyline (zeros.map lift) x = max (polyline f.points x) 0) := by
    intro x
    rw [hcapped.toOption_call, hf.toOption_call, hpoints]
    simp only [hrange x]
    split
    · next hx => simp [hx]
    · next hx => simp [hx]
  simp only [← hcall, create_eq_ok]
  constructor
  · rintro ⟨_, ⟨-, rfl⟩, h⟩
    exact h
  · exact fun h => ⟨_, ⟨hcapped.ascending, rfl⟩, h⟩

/-- A fee that falls below zero again after its first crossing is zero at 7/4 once it is capped, but the
capped function has the value 1/4 there. -/
theorem late_crossing_not_capped :
    (Interpolate.call ⟨[0, 1, 2], [-1, 1, -1]⟩ (7 / 4)).toOption = some (-1 / 2) ∧
      (Interpolate.call ⟨(capFees [0, 1, 2] [-1, 1, -1]).1, (capFees [0, 1, 2] [-1, 1, -1]).2⟩ (7 / 4)).toOption =
        some (1 / 4) := by
  decide +kernel

theorem first_crossing_capped :
    ∃ capped, Interpolate.create (capFees [0, 1, 2] [-1, 1, 1]).1 (capFees [0, 1, 2] [-1, 1, 1]).2 = .ok capped ∧
      ∀ x, (capped.call x).toOption = (Interpolate.call ⟨[0, 1, 2], [-1, 1, 1]⟩ x).toOption.map (max · 0) :=
  (capping_pointwise_iff (f := ⟨[0, 1, 2], [-1, 1, 1]⟩) ⟨by decide +kernel, rfl⟩).mpr (by
    show Reached 2 [(0, -1), (1, 1), (2, 1)]
    norm_num [Reached, changes_iff])

end Raiden.MediationFee
