import Mathlib.Algebra.Order.Field.Basic
import Mathlib.Data.List.Chain
import Mathlib.Tactic.FieldSimp
import Mathlib.Tactic.Linarith
import Mathlib.Tactic.Ring

/-! # Polygonal chains

The function that interpolates linearly between points with ascending
abscissae. It is affine wherever it has no point, and it agrees with every
function that is affine between neighbouring points. -/
namespace Raiden.Lib

universe u

variable {K : Type u}

section Order

variable [LinearOrder K] {p q : K × K} {rest : List (K × K)} {x : K}

def AscendingPoints (points : List (K × K)) : Prop := points.Pairwise fun p q => p.1 < q.1

/-- The abscissa lies between two of the given ones. -/
def InRange (xs : List K) (x : K) : Prop := (∃ a ∈ xs, a ≤ x) ∧ ∃ b ∈ xs, x ≤ b

theorem AscendingPoints.tail (h : AscendingPoints (p :: rest)) : AscendingPoints rest :=
  (List.pairwise_cons.mp h).2

theorem AscendingPoints.head_lt (h : AscendingPoints (p :: rest)) (hq : q ∈ rest) : p.1 < q.1 :=
  (List.pairwise_cons.mp h).1 q hq

/-- Only neighbours have to be compared. -/
theorem ascendingPoints_iff {earlier : List (K × K)} : AscendingPoints (earlier ++ p :: q :: rest) ↔
    AscendingPoints (earlier ++ [p]) ∧ p.1 < q.1 ∧ AscendingPoints (q :: rest) := by
  let R (p q : K × K) : Prop := p.1 < q.1
  have : Trans R R R := ⟨lt_trans⟩
  change List.Pairwise R _ ↔ List.Pairwise R _ ∧ R p q ∧ List.Pairwise R _
  simp only [← List.isChain_iff_pairwise]
  exact List.isChain_append_cons_cons

theorem AscendingPoints.insert {earlier : List (K × K)} {z : K × K}
    (h : AscendingPoints (earlier ++ p :: q :: rest)) (hpz : p.1 < z.1) (hzq : z.1 < q.1) :
    AscendingPoints (earlier ++ p :: z :: q :: rest) := by
  obtain ⟨hbefore, -, hafter⟩ := ascendingPoints_iff.mp h
  have hz : AscendingPoints ([] ++ z :: q :: rest) :=
    ascendingPoints_iff.mpr ⟨List.pairwise_singleton .., hzq, hafter⟩
  exact ascendingPoints_iff.mpr ⟨hbefore, hpz, hz⟩

theorem InRange.between {xs : List K} {a b : K} (ha : InRange xs a) (hb : InRange xs b) (hax : a ≤ x)
    (hxb : x ≤ b) : InRange xs x :=
  ⟨ha.1.imp fun _ h => ⟨h.1, h.2.trans hax⟩, hb.2.imp fun _ h => ⟨h.1, hxb.trans h.2⟩⟩

theorem InRange.self {xs : List K} (h : x ∈ xs) : InRange xs x := ⟨⟨x, h, le_rfl⟩, x, h, le_rfl⟩

/-- Abscissae between the given ones extend no range. -/
theorem inRange_congr {xs ys : List K} (hsub : xs ⊆ ys) (hys : ∀ y ∈ ys, InRange xs y) :
    InRange ys x ↔ InRange xs x := by
  constructor
  · rintro ⟨⟨a, ha, hax⟩, b, hb, hxb⟩
    exact (hys a ha).between (hys b hb) hax hxb
  · rintro ⟨⟨a, ha, hax⟩, b, hb, hxb⟩
    exact ⟨⟨a, hsub ha, hax⟩, b, hsub hb, hxb⟩

/-- Beyond the second point the first one plays no role. -/
theorem InRange.tail (h : InRange ((p :: q :: rest).map Prod.fst) x)
    (hp : AscendingPoints (p :: q :: rest)) (hq : q.1 ≤ x) : InRange ((q :: rest).map Prod.fst) x := by
  obtain ⟨-, b, hb, hxb⟩ := h
  refine ⟨⟨q.1, List.mem_cons_self, hq⟩, b, ?_, hxb⟩
  rcases List.mem_cons.mp hb with rfl | hb
  · exact absurd (hp.head_lt List.mem_cons_self) (not_lt.mpr (hq.trans hxb))
  · exact hb

theorem InRange.head_le (h : InRange ((p :: rest).map Prod.fst) x) (hp : AscendingPoints (p :: rest)) :
    p.1 ≤ x := by
  obtain ⟨⟨a, ha, hax⟩, -⟩ := h
  obtain ⟨r, hr, rfl⟩ := List.mem_map.mp ha
  rcases List.mem_cons.mp hr with rfl | hr
  · exact hax
  · exact (hp.head_lt hr).le.trans hax

/-- The section of an abscissa: it is that of the last point, or it lies before the second point, or the
first point plays no role. -/
@[elab_as_elim]
theorem InRange.section {points : List (K × K)} {motive : List (K × K) → Prop} (hp : AscendingPoints points)
    (hx : InRange (points.map Prod.fst) x) (single : ∀ p : K × K, p.1 = x → motive [p])
    (within : ∀ p q rest, AscendingPoints (p :: q :: rest) → p.1 ≤ x → x < q.1 → motive (p :: q :: rest))
    (beyond : ∀ p q rest, AscendingPoints (p :: q :: rest) → q.1 ≤ x →
      InRange ((q :: rest).map Prod.fst) x → motive (q :: rest) → motive (p :: q :: rest)) :
    motive points := by
  induction points with
  | nil =>
    obtain ⟨⟨_, h, -⟩, -⟩ := hx
    cases h
  | cons p rest ih =>
    cases rest with
    | nil =>
      obtain ⟨⟨a, ha, hax⟩, b, hb, hxb⟩ := hx
      rw [List.mem_singleton.mp ha] at hax
      rw [List.mem_singleton.mp hb] at hxb
      exact single p (le_antisymm hax hxb)
    | cons q rest =>
      rcases lt_or_ge x q.1 with h | h
      · exact within p q rest hp (hx.head_le hp) h
      · exact beyond p q rest hp h (hx.tail hp h) (ih hp.tail (hx.tail hp h))

end Order

variable [Field K]

def lineThrough (p q : K × K) (x : K) : K := p.2 + (q.2 - p.2) / (q.1 - p.1) * (x - p.1)

theorem lineThrough_left (p q : K × K) : lineThrough p q p.1 = p.2 := by
  rw [lineThrough, sub_self, mul_zero, add_zero]

variable [LinearOrder K]

/-- The chain through the points. -/
def polyline : List (K × K) → K → K
  | [], _ => 0
  | [p], _ => p.2
  | p :: q :: rest, x => if x < q.1 then lineThrough p q x else polyline (q :: rest) x

/-- The function is affine between `a` and `b`. -/
def AffineOn (f : K → K) (a b : K) : Prop := ∃ s, ∀ x, a ≤ x → x ≤ b → f x = f a + s * (x - a)

section Affine

variable {f g : K → K} {a b : K}

theorem AffineOn.add (hf : AffineOn f a b) (hg : AffineOn g a b) :
    AffineOn (fun x => f x + g x) a b := by
  obtain ⟨s, hs⟩ := hf
  obtain ⟨t, ht⟩ := hg
  refine ⟨s + t, fun x ha hb => ?_⟩
  dsimp only
  rw [hs x ha hb, ht x ha hb]
  ring

theorem AffineOn.congr (hf : AffineOn f a b) (h : ∀ x, f x = g x) : AffineOn g a b :=
  (funext h : f = g) ▸ hf

theorem affineOn_const (c a b : K) : AffineOn (fun _ => c) a b := ⟨0, fun _ _ _ => by ring⟩

theorem affineOn_mul (c a b : K) : AffineOn (fun x => c * x) a b := ⟨c, fun _ _ _ => by ring⟩

variable [IsStrictOrderedRing K]

theorem AffineOn.comp_add {k : K} (h : AffineOn f (k + a) (k + b)) :
    AffineOn (fun x => f (k + x)) a b := by
  obtain ⟨s, hs⟩ := h
  refine ⟨s, fun x ha hb => ?_⟩
  dsimp only
  rw [hs (k + x) (by linarith) (by linarith)]
  ring

theorem AffineOn.comp_neg (h : AffineOn f (-b) (-a)) : AffineOn (fun x => f (-x)) a b := by
  obtain ⟨s, hs⟩ := h
  refine ⟨-s, fun x ha hb => ?_⟩
  dsimp only
  rw [hs (-x) (by linarith) (by linarith), hs (-a) (by linarith) (by linarith)]
  ring

end Affine

section Points

variable {p q : K × K} {rest points earlier : List (K × K)} {x s : K}

theorem polyline_of_ge (h : q.1 ≤ x) : polyline (p :: q :: rest) x = polyline (q :: rest) x := by
  rw [polyline, if_neg (not_lt.mpr h)]

/-- The chain starts at its first point. -/
theorem polyline_head (h : AscendingPoints (p :: rest)) : polyline (p :: rest) p.1 = p.2 := by
  cases rest with
  | nil => rfl
  | cons q rest => rw [polyline, if_pos (h.head_lt List.mem_cons_self), lineThrough_left]

variable [IsStrictOrderedRing K]

theorem lineThrough_right (h : p.1 < q.1) : lineThrough p q q.1 = q.2 := by
  have hne : q.1 - p.1 ≠ 0 := (sub_pos.mpr h).ne'
  rw [lineThrough, div_mul_cancel₀ _ hne, add_sub_cancel]

/-- A chain is continuous at its points. -/
theorem polyline_of_le (hp : AscendingPoints (p :: q :: rest)) (h : x ≤ q.1) :
    polyline (p :: q :: rest) x = lineThrough p q x := by
  rcases h.lt_or_eq with h | rfl
  · rw [polyline, if_pos h]
  · rw [polyline_of_ge le_rfl, polyline_head hp.tail, lineThrough_right (hp.head_lt List.mem_cons_self)]

theorem polyline_between (hp : AscendingPoints (earlier ++ p :: q :: rest))
    (hpx : p.1 ≤ x) (hxq : x ≤ q.1) : polyline (earlier ++ p :: q :: rest) x = lineThrough p q x := by
  induction earlier with
  | nil => exact polyline_of_le hp hxq
  | cons first earlier ih =>
    have htail := ih hp.tail
    cases earlier with
    | nil => exact (polyline_of_ge hpx).trans htail
    | cons second earlier =>
      have hsecond : second.1 < p.1 := by
        refine hp.tail.head_lt ?_
        exact List.mem_append_right _ List.mem_cons_self
      exact (polyline_of_ge (hsecond.le.trans hpx)).trans htail

/-- The line through a point of a line and one of its two points. -/
theorem lineThrough_of_mem {z : K × K} (hz : lineThrough p q z.1 = z.2) (hpz : p.1 < z.1) (hzq : z.1 < q.1) :
    lineThrough p z x = lineThrough p q x ∧ lineThrough z q x = lineThrough p q x := by
  have hq := lineThrough_right (hpz.trans hzq)
  unfold lineThrough at hz hq ⊢
  generalize (q.2 - p.2) / (q.1 - p.1) = m at hz hq ⊢
  have hz' : z.2 - p.2 = m * (z.1 - p.1) := by rw [← hz]; ring
  have hq' : q.2 - z.2 = m * (q.1 - z.1) := by rw [← hz, ← hq]; ring
  rw [hz', hq', mul_div_cancel_right₀ _ (sub_pos.mpr hpz).ne',
    mul_div_cancel_right₀ _ (sub_pos.mpr hzq).ne', ← hz]
  exact ⟨rfl, by ring⟩

/-- Between two abscissae all lines have the mean of their two values with one weight. -/
theorem lineThrough_mean {a b : K} (h : a < b) (hax : a ≤ x) (hxb : x ≤ b) :
    ∃ t, 0 ≤ t ∧ t ≤ 1 ∧ ∀ y z, lineThrough (a, y) (b, z) x = (1 - t) * y + t * z := by
  have hd : 0 < b - a := sub_pos.mpr h
  refine ⟨(x - a) / (b - a), div_nonneg (sub_nonneg.mpr hax) hd.le, ?_, fun y z => ?_⟩
  · rw [div_le_one hd]
    linarith
  · unfold lineThrough
    field_simp
    ring

theorem polyline_nonneg (hp : AscendingPoints points) (hx : InRange (points.map Prod.fst) x) :
    (∀ p ∈ points, 0 ≤ p.2) → 0 ≤ polyline points x := by
  refine InRange.section hp hx ?_ ?_ ?_
  · intro p _ hy
    exact hy p List.mem_cons_self
  · intro p q rest hp hpx hxq hy
    obtain ⟨t, ht, ht', heq⟩ := lineThrough_mean (hp.head_lt List.mem_cons_self) hpx hxq.le
    rw [polyline_of_le hp hxq.le, heq p.2 q.2]
    have hp0 := hy p List.mem_cons_self
    have hq0 := hy q (List.mem_cons_of_mem _ List.mem_cons_self)
    exact add_nonneg (mul_nonneg (sub_nonneg.mpr ht') hp0) (mul_nonneg ht hq0)
  · intro p q rest hp h _ ih hy
    rw [polyline_of_ge h]
    exact ih fun r hr => hy r (List.mem_cons_of_mem _ hr)

theorem polyline_sub_line (m c : K) (hp : AscendingPoints points) (hx : InRange (points.map Prod.fst) x) :
    polyline (points.map fun p => (p.1, p.2 - (m * p.1 + c))) x = polyline points x - (m * x + c) := by
  refine InRange.section hp hx ?_ ?_ ?_
  · rintro p rfl
    rfl
  · intro p q rest hp hpx hxq
    have hne : q.1 - p.1 ≠ 0 := (sub_pos.mpr (hp.head_lt List.mem_cons_self)).ne'
    rw [polyline, if_pos hxq, List.map_cons, List.map_cons, polyline, if_pos hxq]
    unfold lineThrough
    field_simp
    ring
  · intro p q rest hp h _ ih
    rw [polyline_of_ge h, ← ih]
    exact polyline_of_ge h

/-- Up to a point the chain keeps the sign that all points have so far. -/
theorem polyline_sign (hp : AscendingPoints (earlier ++ p :: rest))
    (hsign : ∀ r ∈ earlier ++ [p], s * r.2 < 0) (hx : InRange ((earlier ++ p :: rest).map Prod.fst) x)
    (hxp : x ≤ p.1) : s * polyline (earlier ++ p :: rest) x < 0 := by
  induction earlier with
  | nil =>
    obtain rfl : x = p.1 := le_antisymm hxp (hx.head_le hp)
    exact (polyline_head hp).symm ▸ hsign p List.mem_cons_self
  | cons first earlier ih =>
    obtain ⟨second, later, heq, hsecond⟩ :
        ∃ second later, earlier ++ p :: rest = second :: later ∧ second ∈ earlier ++ [p] := by
      cases earlier with
      | nil => exact ⟨p, rest, rfl, List.mem_cons_self⟩
      | cons second earlier => exact ⟨second, _, rfl, List.mem_cons_self⟩
    rw [List.cons_append, heq] at hp hx ⊢
    rw [heq] at ih
    obtain ⟨hfirst, hlater⟩ := List.forall_mem_cons.mp hsign
    rcases lt_or_ge x second.1 with h | h
    · obtain ⟨t, ht, ht', hmean⟩ :=
        lineThrough_mean (hp.head_lt List.mem_cons_self) (hx.head_le hp) h.le
      have hboth := hlater second hsecond
      rw [polyline_of_le hp h.le, hmean first.2 second.2]
      rcases ht.eq_or_lt with rfl | hpos
      · linarith
      · nlinarith [mul_nonneg (sub_nonneg.mpr ht') (neg_nonneg.mpr hfirst.le), mul_pos hpos (neg_pos.mpr hboth)]
    · rw [polyline_of_ge h]
      exact ih hp.tail hlater (hx.tail hp h)

theorem affineOn_polyline {a b : K} (hp : AscendingPoints points)
    (hgap : ∀ p ∈ points, p.1 ≤ a ∨ b ≤ p.1) (hb : ∃ q ∈ points, b ≤ q.1) :
    AffineOn (polyline points) a b := by
  induction points with
  | nil => exact affineOn_const 0 a b
  | cons p rest ih =>
    cases rest with
    | nil => exact affineOn_const p.2 a b
    | cons q rest =>
      by_cases hq : b ≤ q.1
      · refine ⟨(q.2 - p.2) / (q.1 - p.1), fun x ha hx => ?_⟩
        rw [polyline_of_le hp (hx.trans hq), polyline_of_le hp ((ha.trans hx).trans hq)]
        unfold lineThrough
        ring
      · have hqa : q.1 ≤ a := (hgap q (List.mem_cons_of_mem _ List.mem_cons_self)).resolve_right hq
        have htail : ∃ r ∈ q :: rest, b ≤ r.1 := by
          obtain ⟨r, hr, hbr⟩ := hb
          rcases List.mem_cons.mp hr with rfl | hr
          · exact absurd (hbr.trans (hp.head_lt List.mem_cons_self).le) hq
          · exact ⟨r, hr, hbr⟩
        obtain ⟨s, hs⟩ := ih hp.tail (fun r hr => hgap r (List.mem_cons_of_mem _ hr)) htail
        refine ⟨s, fun x ha hx => ?_⟩
        rw [polyline_of_ge (hqa.trans ha), polyline_of_ge hqa]
        exact hs x ha hx

/-- The chain through points of a function that is affine between neighbours is the function. -/
theorem polyline_eq_of_affineOn {f : K → K} (hp : AscendingPoints points)
    (hx : InRange (points.map Prod.fst) x) :
    (∀ p ∈ points, p.2 = f p.1) →
    (∀ p ∈ points, ∀ q ∈ points, p.1 < q.1 → (∀ r ∈ points, r.1 ≤ p.1 ∨ q.1 ≤ r.1) →
      AffineOn f p.1 q.1) →
    polyline points x = f x := by
  refine InRange.section hp hx ?_ ?_ ?_
  · rintro p rfl hpoints -
    exact hpoints p List.mem_cons_self
  · intro p q rest hp hpx hxq hpoints hf
    have hlt : p.1 < q.1 := hp.head_lt List.mem_cons_self
    have hgap : ∀ r ∈ p :: q :: rest, r.1 ≤ p.1 ∨ q.1 ≤ r.1 := by
      intro r hr
      rcases List.mem_cons.mp hr with rfl | hr
      · exact .inl le_rfl
      rcases List.mem_cons.mp hr with rfl | hr
      · exact .inr le_rfl
      · exact .inr (hp.tail.head_lt hr).le
    have hq : q ∈ p :: q :: rest := List.mem_cons_of_mem _ List.mem_cons_self
    obtain ⟨s, hs⟩ := hf p List.mem_cons_self q hq hlt hgap
    have hne : q.1 - p.1 ≠ 0 := (sub_pos.mpr hlt).ne'
    rw [polyline, if_pos hxq, lineThrough, hpoints q hq, hpoints p List.mem_cons_self, hs q.1 hlt.le le_rfl,
      hs x hpx hxq.le, add_sub_cancel_left, mul_div_cancel_right₀ _ hne]
  · intro p q rest hp h _ ih hpoints hf
    rw [polyline_of_ge h]
    refine ih (fun r hr => hpoints r (List.mem_cons_of_mem _ hr)) fun r hr r' hr' hlt hgap => ?_
    refine hf r (List.mem_cons_of_mem _ hr) r' (List.mem_cons_of_mem _ hr') hlt fun z hz => ?_
    rcases List.mem_cons.mp hz with rfl | hz
    · exact .inl (hp.head_lt hr).le
    · exact hgap z hz

/-- A line that changes its sign between two points vanishes once, between them. -/
theorem crossing (h : p.1 < q.1) (hp : s * p.2 < 0) (hq : 0 ≤ s * q.2) :
    ∃ x, x = -p.2 * (q.1 - p.1) / (q.2 - p.2) + p.1 ∧ p.1 < x ∧ x ≤ q.1 ∧
      ∀ z, lineThrough p q z = 0 ↔ z = x := by
  have hwidth : 0 < q.1 - p.1 := sub_pos.mpr h
  have hrise : 0 < s * (q.2 - p.2) := by linarith
  have hs : s ≠ 0 := left_ne_zero_of_mul hrise.ne'
  have hne : q.2 - p.2 ≠ 0 := right_ne_zero_of_mul hrise.ne'
  have hratio : 0 < -p.2 / (q.2 - p.2) ∧ -p.2 / (q.2 - p.2) ≤ 1 := by
    rw [← mul_div_mul_left _ _ hs]
    exact ⟨div_pos (by linarith) hrise, (div_le_one hrise).mpr (by linarith)⟩
  have hsplit : -p.2 * (q.1 - p.1) / (q.2 - p.2) = -p.2 / (q.2 - p.2) * (q.1 - p.1) := by ring
  refine ⟨_, rfl, ?_, ?_, fun z => ?_⟩
  · have := mul_pos hratio.1 hwidth
    linarith
  · have := mul_le_mul_of_nonneg_right hratio.2 hwidth.le
    linarith
  · unfold lineThrough
    constructor
    · intro hz
      field_simp at hz ⊢
      linarith
    · rintro rfl
      field_simp
      ring

end Points

end Raiden.Lib
