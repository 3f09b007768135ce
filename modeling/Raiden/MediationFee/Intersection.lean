import Raiden.MediationFee.Interpolation

/-! # Where a fee function meets a straight line

The search walks along the points as long as they lie on the side of the line on
which the function starts, and then intersects the section before the point at
which it stopped. A function that starts on the line stops at once. The section
before the first point is then taken between the last and the first point, which
has no slope against the line if the function also ends on it. -/
namespace Raiden.MediationFee

open Lib Interpolate

/-- The point lies strictly on the side of the line on which the function starts, if it does not start
on the line. -/
def Ahead (line : ℚ → ℚ) (first p : ℚ × ℚ) : Prop :=
  if first.2 < line first.1 then p.2 < line p.1 else line p.1 < p.2

instance (line : ℚ → ℚ) (first p : ℚ × ℚ) : Decidable (Ahead line first p) :=
  inferInstanceAs (Decidable (if first.2 < line first.1 then p.2 < line p.1 else line p.1 < p.2))

/-- All points lie strictly on one side of the line. -/
def Apart (line : ℚ → ℚ) (points : List (ℚ × ℚ)) : Prop :=
  (∀ p ∈ points, p.2 < line p.1) ∨ ∀ p ∈ points, line p.1 < p.2

/-- The function meets the line at the abscissa and nowhere before. -/
def FirstMeeting (f : Interpolate) (line : ℚ → ℚ) (x : ℚ) : Prop :=
  f.call x = .ok (line x) ∧ ∀ z, f.call z = .ok (line z) → x ≤ z

variable {f : Interpolate} {line : ℚ → ℚ} {first p q : ℚ × ℚ}
  {rest before earlier after : List (ℚ × ℚ)} {x : ℚ}

theorem ahead_self : Ahead line first first ↔ first.2 ≠ line first.1 := by
  unfold Ahead
  split
  · next h => exact ⟨fun _ => h.ne, fun _ => h⟩
  · next h => exact ⟨ne_of_gt, fun hne => lt_of_le_of_ne (not_lt.mp h) hne.symm⟩

theorem apart_iff : Apart line (first :: rest) ↔ ∀ p ∈ first :: rest, Ahead line first p := by
  unfold Apart Ahead
  constructor
  · rintro (h | h) p hp
    · rw [if_pos (h first List.mem_cons_self)]
      exact h p hp
    · rw [if_neg (h first List.mem_cons_self).not_gt]
      exact h p hp
  · intro h
    split at h
    · exact .inl h
    · exact .inr h

theorem entry_map {α β : Type} (g : α → β) (l : List α) (i : Nat) : entry (l.map g) i = (entry l i).map g := by
  unfold entry
  rw [List.getElem?_map]
  cases l[i]? <;> rfl

theorem atPredecessor_map {α β : Type} (g : α → β) (l : List α) (i : Nat) :
    atPredecessor (l.map g) i = (atPredecessor l i).map g := by
  cases i with
  | zero => rw [atPredecessor, List.length_map, entry_map, atPredecessor]
  | succ i => exact entry_map g l i

/-- Where the line through two points meets the other line. -/
def intersect (line : ℚ → ℚ) (p q : ℚ × ℚ) : Fallible (Option ℚ) := do
  check (q.2 - p.2 - (line q.1 - line p.1) ≠ 0) .zeroDivisionError
  return some ((line p.1 - p.2) * (q.1 - p.1) / (q.2 - p.2 - (line q.1 - line p.1)) + p.1)

section

variable (hf : f.WellFormed) (hpoints : f.points = first :: rest)

include hf hpoints

/-- The loop is a search for the first point that is no longer ahead. -/
theorem findIntersection_eq :
    findIntersection f line =
      ((first :: rest).findIdx? fun p => !decide (Ahead line first p)).elim (.ok none) fun i =>
        atPredecessor (first :: rest) i >>= fun p => entry (first :: rest) i >>= intersect line p := by
  obtain ⟨points, rfl⟩ : ∃ points : List (ℚ × ℚ), f = ⟨points.map Prod.fst, points.map Prod.snd⟩ :=
    ⟨_, hf.eq_points⟩
  rw [Interpolate.points, List.zip_map', List.map_id'] at hpoints
  subst hpoints
  have hside : (fun p : ℚ × ℚ => !decide (Ahead line first p)) =
      (fun p => !(if first.2 < line first.1 then decide (p.1 < line p.2) else decide (line p.2 < p.1))) ∘
        fun p => (p.2, p.1) := by
    funext p
    simp only [Ahead, Function.comp_apply]
    split <;> rfl
  rw [hside, ← List.findIdx?_map, ← List.zip_map']
  unfold findIntersection
  rw [show entry _ 0 = .ok first.2 from rfl, show entry _ 0 = .ok first.1 from rfl]
  simp only [entry_map, atPredecessor_map, bind, Except.bind]
  cases hfound : List.findIdx? _ _ with
  | none => rfl
  | some i =>
    dsimp only [Option.elim_some]
    cases atPredecessor (first :: rest) i with
    | error e => rfl
    | ok p =>
      cases entry (first :: rest) i with
      | error e => rfl
      | ok q => rfl

theorem findIntersection_of_ahead
    (h : ∀ p ∈ first :: rest, Ahead line first p) : findIntersection f line = .ok none := by
  rw [findIntersection_eq hf hpoints, List.findIdx?_eq_none_iff.mpr, Option.elim_none]
  intro p hp
  simpa using h p hp

theorem findIntersection_of_stop
    (hsplit : first :: rest = before ++ q :: after) (hbefore : ∀ p ∈ before, Ahead line first p)
    (hq : ¬ Ahead line first q) (hp : atPredecessor (first :: rest) before.length = .ok p) :
    findIntersection f line = intersect line p q := by
  have hfound : (first :: rest).findIdx? (fun p => !decide (Ahead line first p)) = some before.length := by
    have hnone : before.findIdx? (fun p => !decide (Ahead line first p)) = none := by
      rw [List.findIdx?_eq_none_iff]
      intro p hp
      simpa using hbefore p hp
    rw [hsplit, List.findIdx?_append, hnone]
    simp [List.findIdx?_cons, hq]
  have hentry : entry (first :: rest) before.length = .ok q := by
    rw [hsplit, entry_eq_ok, List.getElem?_append_right le_rfl, Nat.sub_self]
    rfl
  rw [findIntersection_eq hf hpoints, hfound, Option.elim_some, hp, hentry]
  rfl

end

section Line

variable {m c s : ℚ}

/-- A straight line as the search gets it. -/
def straight (m c x : ℚ) : ℚ := m * x + c

def aboveLine (m c : ℚ) (p : ℚ × ℚ) : ℚ × ℚ := (p.1, p.2 - straight m c p.1)

theorem call_eq_straight (hf : f.WellFormed) :
    f.call x = .ok (straight m c x) ↔ InRange f.xList x ∧ polyline (f.points.map (aboveLine m c)) x = 0 := by
  have hsub : InRange f.xList x →
      polyline (f.points.map (aboveLine m c)) x = polyline f.points x - straight m c x := fun hx =>
    polyline_sub_line m c hf.ascendingPoints (hf.fst_points.symm ▸ hx)
  constructor
  · intro h
    have hx := inRange_of_call h
    exact ⟨hx, by rw [hsub hx, ← hf.eq_of_call h, sub_self]⟩
  · rintro ⟨hx, hzero⟩
    rw [hf.call_eq hx, sub_eq_zero.mp ((hsub hx).symm.trans hzero)]

/-- The two sides of the line as a sign. -/
theorem ahead_sign (first : ℚ × ℚ) :
    ∃ s, ∀ p, Ahead (straight m c) first p ↔ s * (aboveLine m c p).2 < 0 := by
  unfold Ahead
  split
  · exact ⟨1, fun p => by rw [one_mul, aboveLine, sub_neg]⟩
  · exact ⟨-1, fun p => by rw [neg_one_mul, neg_lt_zero, aboveLine, sub_pos]⟩

/-- The first section at whose end the function is no longer strictly on the side of its start. -/
theorem firstMeeting_of_crossing (hf : f.WellFormed) (hpoints : f.points = earlier ++ p :: q :: after)
    (hsign : ∀ r ∈ earlier ++ [p], s * (aboveLine m c r).2 < 0) (hq : 0 ≤ s * (aboveLine m c q).2) :
    ∃ x, intersect (straight m c) p q = .ok (some x) ∧ FirstMeeting f (straight m c) x := by
  have hp : s * (aboveLine m c p).2 < 0 := hsign p (by simp)
  have hascending : AscendingPoints (f.points.map (aboveLine m c)) := List.pairwise_map.mpr hf.ascendingPoints
  have hrange : (f.points.map (aboveLine m c)).map Prod.fst = f.xList := by
    rw [List.map_map]
    exact hf.fst_points
  rw [hpoints, List.map_append, List.map_cons, List.map_cons] at hascending hrange
  have hlt : (aboveLine m c p).1 < (aboveLine m c q).1 :=
    AscendingPoints.head_lt (List.pairwise_append.mp hascending).2.1 List.mem_cons_self
  obtain ⟨x, hx, hlow, hhigh, hzero⟩ := crossing hlt hp hq
  have hslope : q.2 - p.2 - (straight m c q.1 - straight m c p.1) = (aboveLine m c q).2 - (aboveLine m c p).2 := by
    dsimp only [aboveLine]
    ring
  have hne : (aboveLine m c q).2 - (aboveLine m c p).2 ≠ 0 := by
    intro heq
    rw [sub_eq_zero.mp heq] at hq
    linarith
  refine ⟨x, ?_, ?_, ?_⟩
  · rw [intersect, hslope, seq_ok_iff]
    refine ⟨(), check_eq_ok.mpr hne, ?_⟩
    rw [hx, show -(aboveLine m c p).2 = straight m c p.1 - p.2 from neg_sub _ _]
    rfl
  · rw [call_eq_straight hf, hpoints, List.map_append, List.map_cons, List.map_cons,
      polyline_between hascending hlow.le hhigh, hzero]
    refine ⟨?_, rfl⟩
    rw [← hrange]
    exact ⟨⟨p.1, by simp [aboveLine], hlow.le⟩, q.1, by simp [aboveLine], hhigh⟩
  · intro z hz
    rw [call_eq_straight hf, hpoints, List.map_append, List.map_cons, List.map_cons, ← hrange] at hz
    obtain ⟨hz, hmeets⟩ := hz
    rcases le_or_gt z p.1 with hzp | hpz
    · -- up to the section all points are on one side
      have hsides : ∀ r ∈ earlier.map (aboveLine m c) ++ [aboveLine m c p], s * r.2 < 0 := by
        rw [← List.map_singleton, ← List.map_append]
        exact List.forall_mem_map.mpr hsign
      have hbefore := polyline_sign hascending hsides hz hzp
      rw [hmeets, mul_zero] at hbefore
      exact absurd hbefore (lt_irrefl 0)
    · rcases le_or_gt z q.1 with hzq | hqz
      · rw [polyline_between hascending hpz.le hzq, hzero] at hmeets
        exact hmeets.ge
      · exact hhigh.trans hqz.le

theorem firstMeeting_of_start (hf : f.WellFormed) (hpoints : f.points = first :: rest)
    (hfirst : first.2 = line first.1) : FirstMeeting f line first.1 := by
  have hascending := hf.ascendingPoints
  rw [hpoints] at hascending
  constructor
  · have hrange : InRange f.xList first.1 := by
      rw [← hf.fst_points, hpoints]
      exact ⟨⟨_, List.mem_cons_self, le_rfl⟩, _, List.mem_cons_self, le_rfl⟩
    rw [hf.call_eq hrange, hpoints, polyline_head hascending, hfirst]
  · intro z hz
    have hrange := inRange_of_call hz
    rw [← hf.fst_points, hpoints] at hrange
    exact hrange.head_le hascending

/-- A function that starts on the line is intersected between its last and its first point. -/
theorem intersect_start (hfirst : first.2 = line first.1) :
    intersect line p first = if p.2 = line p.1 then .error .zeroDivisionError else .ok (some first.1) := by
  have hslope : first.2 - p.2 - (line first.1 - line p.1) = line p.1 - p.2 := by
    rw [hfirst]
    ring
  rw [intersect, hslope]
  split
  · next hend =>
    rw [check_eq_error.mpr ⟨not_not.mpr (sub_eq_zero.mpr hend.symm), rfl⟩]
    rfl
  · next hend =>
    have hne : line p.1 - p.2 ≠ 0 := sub_ne_zero.mpr (Ne.symm hend)
    rw [seq_ok_iff, mul_div_cancel_left₀ _ hne, sub_add_cancel]
    exact ⟨(), check_eq_ok.mpr hne, rfl⟩

/-- What the search returns, or raises, for each position of the function to the line. -/
theorem findIntersection_spec {last : ℚ × ℚ} (hf : f.WellFormed) (hpoints : f.points = first :: rest)
    (hlast : atPredecessor (first :: rest) 0 = .ok last) :
    ((first.2 = straight m c first.1 ∧ last.2 = straight m c last.1) ∧
      findIntersection f (straight m c) = .error .zeroDivisionError) ∨
    ¬ (first.2 = straight m c first.1 ∧ last.2 = straight m c last.1) ∧
      ((Apart (straight m c) f.points ∧ findIntersection f (straight m c) = .ok none) ∨
        ¬ Apart (straight m c) f.points ∧
          ∃ x, findIntersection f (straight m c) = .ok (some x) ∧ FirstMeeting f (straight m c) x) := by
  rw [hpoints, apart_iff]
  cases hfind : (first :: rest).find? fun p => !decide (Ahead (straight m c) first p) with
  | none =>
    have hahead : ∀ p ∈ first :: rest, Ahead (straight m c) first p := by
      simpa using hfind
    refine .inr ⟨?_, .inl ⟨hahead, findIntersection_of_ahead hf hpoints hahead⟩⟩
    exact fun h => ahead_self.mp (hahead first List.mem_cons_self) h.1
  | some q =>
    obtain ⟨hq, before, after, hsplit, hbefore⟩ := List.find?_eq_some_iff_append.mp hfind
    replace hq : ¬ Ahead (straight m c) first q := by simpa using hq
    replace hbefore : ∀ p ∈ before, Ahead (straight m c) first p := by simpa using hbefore
    have hapart : ¬ ∀ p ∈ first :: rest, Ahead (straight m c) first p := by
      intro h
      refine hq (h q ?_)
      rw [hsplit]
      exact List.mem_append_right _ List.mem_cons_self
    have hstop := fun p => findIntersection_of_stop (p := p) hf hpoints hsplit hbefore hq
    rcases List.eq_nil_or_concat before with rfl | ⟨earlier, p, rfl⟩
    · obtain ⟨rfl, -⟩ := List.cons.inj hsplit
      have hfirst := not_not.mp (mt ahead_self.mpr hq)
      rw [hstop last hlast, intersect_start hfirst]
      by_cases hend : last.2 = straight m c last.1
      · exact .inl ⟨⟨hfirst, hend⟩, if_pos hend⟩
      · refine .inr ⟨fun h => hend h.2, .inr ⟨hapart, first.1, if_neg hend, ?_⟩⟩
        exact firstMeeting_of_start hf hpoints hfirst
    · rw [List.concat_eq_append] at hsplit hbefore hstop
      have hp : atPredecessor (first :: rest) (earlier ++ [p]).length = .ok p := by
        rw [hsplit, List.length_append, List.length_singleton, atPredecessor, entry_eq_ok]
        simp
      have hmem : first ∈ earlier ++ [p] := by
        cases earlier <;> obtain ⟨rfl, -⟩ := List.cons.inj hsplit <;> exact List.mem_cons_self
      obtain ⟨s, hs⟩ := ahead_sign (m := m) (c := c) first
      rw [hstop p hp]
      refine .inr ⟨fun h => ahead_self.mp (hbefore first hmem) h.1, .inr ⟨hapart, ?_⟩⟩
      refine firstMeeting_of_crossing hf (hpoints.trans (hsplit.trans (List.append_assoc ..)))
        (fun r hr => (hs r).mp (hbefore r hr)) (not_lt.mp (mt (hs q).mpr hq))

/-- The search returns, and its result is the first meeting of the function and the line, or none if the
function stays strictly on one side, exactly if not both ends of the function are on the line. -/
theorem intersection_found_iff {last : ℚ × ℚ} (hf : f.WellFormed) (hpoints : f.points = first :: rest)
    (hlast : f.points.getLast? = some last) :
    (∃ result, findIntersection f (straight m c) = .ok result ∧
      (result = none ↔ Apart (straight m c) f.points) ∧
      ∀ x, result = some x → FirstMeeting f (straight m c) x) ↔
    ¬ (first.2 = straight m c first.1 ∧ last.2 = straight m c last.1) := by
  have hpred : atPredecessor (first :: rest) 0 = .ok last := by
    rw [← hpoints, atPredecessor, entry_eq_ok, ← List.getLast?_eq_getElem?, hlast]
  rcases findIntersection_spec (m := m) (c := c) hf hpoints hpred with ⟨hboth, heq⟩ |
    ⟨hnot, ⟨hapart, heq⟩ | ⟨hapart, x, heq, hmeets⟩⟩
  · refine iff_of_false ?_ (not_not.mpr hboth)
    rintro ⟨result, hok, -⟩
    cases heq.symm.trans hok
  · exact iff_of_true ⟨none, heq, ⟨fun _ => hapart, fun _ => rfl⟩,
      fun _ h => absurd h.symm (Option.some_ne_none _)⟩ hnot
  · refine iff_of_true
      ⟨some x, heq, ⟨fun h => absurd h (Option.some_ne_none x), fun h => absurd h hapart⟩, ?_⟩ hnot
    intro y hy
    cases hy
    exact hmeets

/-- The function through (0, 0) and (1, 0) lies on the line of value 0. -/
theorem flat_function_raises :
    findIntersection ⟨[0, 1], [0, 0]⟩ (straight 0 0) = .error .zeroDivisionError := by
  decide +kernel

/-- The function through (0, 1) and (2, 3) does not start on the line of value 2. -/
theorem rising_function_meets :
    ∃ result, findIntersection ⟨[0, 2], [1, 3]⟩ (straight 0 2) = .ok result ∧
      (result = none ↔ Apart (straight 0 2) [(0, 1), (2, 3)]) ∧
      ∀ x, result = some x → FirstMeeting ⟨[0, 2], [1, 3]⟩ (straight 0 2) x :=
  (intersection_found_iff ⟨by decide +kernel, rfl⟩ rfl rfl).mpr (by decide +kernel)

end Line

end Raiden.MediationFee
