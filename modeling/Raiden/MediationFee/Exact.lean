import Raiden.Channel.Transition
import Raiden.MediationFee.Interpolation

/-! # The mediation fee between its sampled points

The fee of a mediation is sampled at the kinks of both penalty functions, moved
to the amount that varies and limited to what can be transferred. Every kink
inside of the limits is sampled, so the interpolation is exact: between the
samples it has the value of the formula, in both directions. -/
namespace Raiden

open Lib Interpolate

variable {schedule : FeeScheduleState} {balance : Int} {f penalty : Interpolate} {a b x : ℚ}

namespace FeeScheduleState

def Ascending (schedule : FeeScheduleState) : Prop :=
  ((schedule.imbalancePenalty.getD []).map Prod.fst).Pairwise (· < ·)

instance (schedule : FeeScheduleState) : Decidable schedule.Ascending :=
  inferInstanceAs (Decidable (List.Pairwise _ _))

theorem ascending_of_create {capFees : Bool} {flat : Int} {proportional : Nat}
    {imbalancePenalty : Option (List (Nat × Int))}
    (h : Channel.FeeScheduleState.create capFees flat proportional imbalancePenalty = .ok schedule) :
    schedule.Ascending := by
  have hchain : ∀ xs : List Nat, (xs.zip xs.tail).any (fun x => x.2 ≤ x.1) = false →
      xs.Pairwise (· < ·) := by
    intro xs
    rw [← List.isChain_iff_pairwise]
    induction xs with
    | nil => simp
    | cons a xs ih =>
      cases xs with
      | nil => simp
      | cons b xs =>
        intro hany
        rw [List.isChain_cons_cons]
        simp only [List.tail_cons, List.zip_cons_cons, List.any_cons, Bool.or_eq_false_iff,
          decide_eq_false_iff_not, not_le] at hany
        exact ⟨hany.1, ih hany.2⟩
  unfold Channel.FeeScheduleState.create at h
  dsimp only at h
  split at h
  · cases h
  · next hany =>
    cases h
    exact hchain _ (Bool.eq_false_of_not_eq_true hany)

/-- The penalty function that is used, with the one that stands in for none. -/
def penaltyOr (schedule : FeeScheduleState) (capacity : Int) : Interpolate :=
  schedule.penaltyFunc.getD ⟨[0, (capacity : ℚ)], [0, 0]⟩

theorem Ascending.penaltyFunc (h : schedule.Ascending) (hpenalty : schedule.penaltyFunc = some penalty) :
    penalty.WellFormed := by
  unfold FeeScheduleState.penaltyFunc at hpenalty
  unfold Ascending at h
  split at hpenalty
  · next point points heq =>
    rw [heq, Option.getD_some] at h
    cases hpenalty
    refine ⟨?_, by rw [List.length_map, List.length_map]⟩
    rw [List.pairwise_map] at h ⊢
    exact h.imp fun hlt => Nat.cast_lt.mpr hlt
  · cases hpenalty

/-- Part of the fee in millionths. -/
def proportion (schedule : FeeScheduleState) : ℚ := (schedule.proportional : ℚ) / 1000000

/-- What a transfer of the amount adds to the penalty. -/
def penaltyChange (penalty : Interpolate) (balance : Int) (amount : ℚ) : ℚ :=
  polyline penalty.points (balance + amount) - polyline penalty.points balance

theorem feeWith_ok {amount y : ℚ} (hp : penalty.WellFormed)
    (h : schedule.feeWith penalty balance amount = .ok y) :
    InRange penalty.xList (balance + amount) ∧ InRange penalty.xList balance ∧
      y = schedule.flat + schedule.proportion * |amount| + penaltyChange penalty balance amount := by
  simp only [feeWith, seq_ok_iff, pure_eq_ok] at h
  obtain ⟨after, hafter, before, hbefore, rfl⟩ := h
  refine ⟨inRange_of_call hafter, inRange_of_call hbefore, ?_⟩
  rw [hp.eq_of_call hafter, hp.eq_of_call hbefore]
  rfl

section

variable {points : List (Nat × Int)} {lo hi k amount : ℚ}

/-- Without a penalty no part of the fee is charged, so configuring one that is
constant where it is called changes nothing only if the other parts are zero. -/
theorem flat_penalty_neutral_iff (hnone : schedule.penaltyFunc = none)
    (hsome : { schedule with imbalancePenalty := some points }.penaltyFunc = some penalty)
    (hflat : ∀ x, lo ≤ x → x ≤ hi → penalty.call x = .ok k)
    (hbefore : lo ≤ balance ∧ balance ≤ hi) (hafter : lo ≤ balance + amount ∧ balance + amount ≤ hi) :
    schedule.fee balance amount =
        { schedule with imbalancePenalty := some points }.fee balance amount ↔
      schedule.flat + schedule.proportion * |amount| = 0 := by
  have hcharged : { schedule with imbalancePenalty := some points }.fee balance amount =
      .ok (schedule.flat + schedule.proportion * |amount|) := by
    simp only [fee, hsome, feeWith, hflat _ hbefore.1 hbefore.2, hflat _ hafter.1 hafter.2, proportion,
      bind, Except.bind, pure, Except.pure, sub_self, add_zero]
  rw [hcharged, fee, hnone, Except.ok.injEq]
  exact eq_comm

/-- Nothing is charged for a transfer of 5 either way, if the schedule has no other part. -/
theorem no_fee_with_flat_penalty :
    (⟨true, 0, 0, none⟩ : FeeScheduleState).fee 10 5 =
      (⟨true, 0, 0, some [(0, 7), (100, 7)]⟩ : FeeScheduleState).fee 10 5 := by
  refine (flat_penalty_neutral_iff (k := 7) rfl rfl (fun x (hlo : 0 ≤ x) (hhi : x ≤ 100) => ?_) ?_ ?_).mpr ?_
  · refine call_eq_of_affineOn (g := fun _ => 7) (by decide +kernel) rfl ?_ ?_
    · intro a _ b _ _ _
      exact affineOn_const 7 a b
    · exact ⟨⟨0, List.mem_cons_self, hlo⟩, 100, List.mem_cons_of_mem _ List.mem_cons_self, hhi⟩
  · decide +kernel
  · decide +kernel
  · decide +kernel

/-- A flat fee of 1 is charged for a transfer of 5 only with a penalty, be it 0 everywhere. -/
theorem flat_fee_needs_penalty :
    (⟨true, 1, 0, none⟩ : FeeScheduleState).fee 10 5 = .ok 0 ∧
      (⟨true, 1, 0, some [(0, 0), (100, 0)]⟩ : FeeScheduleState).fee 10 5 = .ok 1 := by
  decide +kernel

end

end FeeScheduleState

namespace MediationFee

variable {sIn sOut : FeeScheduleState} {bIn bOut recv : Int}

section Samples

variable {pIn pOut : Interpolate} {maxX : Int}

/-- An amount limited to what can be transferred. -/
def limited (bOut maxX : Int) (x : ℚ) : ℚ := max (min (min x (bOut : ℚ)) (maxX : ℚ)) 0

/-- The kinks of the penalty functions, as amounts. -/
def kinks (pIn pOut : Interpolate) (bIn bOut : Int) : List ℚ :=
  pIn.xList.map (fun x => x - (bIn : ℚ)) ++
    pOut.xList.map fun x => (bOut : ℚ) - x

theorem mem_collectXValues :
    x ∈ collectXValues pIn pOut bIn bOut maxX ↔
      ∃ k ∈ kinks pIn pOut bIn bOut, limited bOut maxX k = x := by
  simp only [collectXValues, List.mem_insertionSort, List.mem_dedup, List.mem_map]
  rfl

theorem limited_nonneg (bOut maxX : Int) (x : ℚ) : 0 ≤ limited bOut maxX x := le_max_right _ _

/-- Between two neighbouring samples there is no kink. -/
theorem no_kink_between {k : ℚ} (ha : a ∈ collectXValues pIn pOut bIn bOut maxX)
    (hb : b ∈ collectXValues pIn pOut bIn bOut maxX) (hab : a < b)
    (hgap : ∀ z ∈ collectXValues pIn pOut bIn bOut maxX, z ≤ a ∨ b ≤ z)
    (hk : k ∈ kinks pIn pOut bIn bOut) : k ≤ a ∨ b ≤ k := by
  obtain ⟨ka, -, rfl⟩ := mem_collectXValues.mp ha
  obtain ⟨kb, -, rfl⟩ := mem_collectXValues.mp hb
  have hpos : 0 < limited bOut maxX kb := (limited_nonneg _ _ ka).trans_lt hab
  have hupper : limited bOut maxX kb ≤ bOut ∧ limited bOut maxX kb ≤ maxX := by
    unfold limited at hpos ⊢
    rw [max_eq_left ((lt_max_iff.mp hpos).resolve_right (lt_irrefl 0)).le]
    exact ⟨(min_le_left _ _).trans (min_le_right _ _), min_le_right _ _⟩
  rcases hgap _ (mem_collectXValues.mpr ⟨k, hk, rfl⟩) with h | h
  · left
    by_contra hlt
    have hlow : limited bOut maxX ka < min (min k (bOut : ℚ)) (maxX : ℚ) :=
      lt_min (lt_min (not_le.mp hlt) (hab.trans_le hupper.1)) (hab.trans_le hupper.2)
    exact absurd (hlow.trans_le (le_max_left _ 0)) (not_lt.mpr h)
  · right
    have hkpos : 0 < limited bOut maxX k := hpos.trans_le h
    refine h.trans ?_
    unfold limited at hkpos ⊢
    rw [max_eq_left ((lt_max_iff.mp hkpos).resolve_right (lt_irrefl 0)).le]
    exact (min_le_left _ _).trans (min_le_left _ _)

end Samples

open FeeScheduleState

section

variable (sIn sOut : FeeScheduleState) (bIn bOut recv : Int)

/-- The fee of a mediation that takes the amount `a` and forwards the amount `x`. -/
def totalFee (a x : ℚ) : ℚ :=
  sIn.flat + sOut.flat + sIn.proportion * a + sOut.proportion * x +
    penaltyChange (sIn.penaltyOr (bIn + recv)) bIn a +
    penaltyChange (sOut.penaltyOr bOut) bOut (-x)

/-- The fee for taking `a` and forwarding `x`, with the values the penalty functions return. -/
def IsFee (a x y : ℚ) : Prop :=
  ∃ pIn pOut inAfter inBefore outAfter outBefore,
    findPenalty sIn (bIn + recv) = .ok pIn ∧
    findPenalty sOut bOut = .ok pOut ∧
    pIn.call (bIn + a) = .ok inAfter ∧ pIn.call bIn = .ok inBefore ∧
    pOut.call (bOut - x) = .ok outAfter ∧ pOut.call bOut = .ok outBefore ∧
    y = sIn.flat + sOut.flat + sIn.proportion * a + sOut.proportion * x +
      (inAfter - inBefore) + (outAfter - outBefore)

/-- What was computed on the way to a fee function. -/
structure Computed (amountWithFees amountWithoutFees : Option Nat) (pIn pOut : Interpolate)
    (xList yList : List ℚ) : Prop where
  penaltyIn_ok : findPenalty sIn (bIn + recv) = .ok pIn
  penaltyOut_ok : findPenalty sOut bOut = .ok pOut
  xList_eq : xList = collectXValues pIn pOut bIn bOut
    (if amountWithFees = none then recv else bOut)
  fees : List.Forall₂ (fun x y => feeAt sIn sOut bIn bOut pIn pOut
    (amountWithFees.elim x fun a => a) (amountWithoutFees.elim x fun a => a) = .ok y) xList yList

end

theorem mediationFeeFuncWith_ok {amountWithFees amountWithoutFees : Option Nat} {cap : Bool}
    (h : mediationFeeFuncWith sIn sOut bIn bOut recv amountWithFees amountWithoutFees cap = .ok f) :
    ∃ pIn pOut xList yList, Computed sIn sOut bIn bOut recv
      amountWithFees amountWithoutFees pIn pOut xList yList ∧ f.xList.Pairwise (· < ·) ∧
      (f.xList, f.yList) = if cap then capFees xList yList else (xList, yList) := by
  simp only [mediationFeeFuncWith, seq_ok_iff, assert_eq_ok, check_eq_ok, exists_const] at h
  obtain ⟨-, -, pIn, hin, pOut, hout, yList, hfees, hcreate⟩ := h
  have hmap : (collectXValues pIn pOut bIn bOut
      (if amountWithFees = none then recv else bOut)).mapM (fun x =>
        feeAt sIn sOut bIn bOut pIn pOut
          (amountWithFees.elim x fun a => a) (amountWithoutFees.elim x fun a => a)) = .ok yList := by
    unfold undefinedOnValueError at hfees
    split at hfees
    · cases hfees
    · exact hfees
  obtain ⟨hascending, rfl⟩ := create_eq_ok.mp hcreate
  exact ⟨pIn, pOut, _, yList, ⟨hin, hout, rfl, mapM_ok hmap⟩, hascending, rfl⟩

section Formula

variable {amountWithFees amountWithoutFees : Option Nat} {pIn pOut : Interpolate}
  {xList yList : List ℚ}

theorem findPenalty_ok (h : schedule.Ascending) {capacity : Int}
    (hpenalty : findPenalty schedule capacity = .ok penalty) :
    penalty = schedule.penaltyOr capacity ∧ penalty.WellFormed := by
  unfold findPenalty at hpenalty
  unfold penaltyOr
  cases hfunc : schedule.penaltyFunc with
  | some own =>
    rw [hfunc] at hpenalty
    cases hpenalty
    exact ⟨rfl, h.penaltyFunc hfunc⟩
  | none =>
    rw [hfunc] at hpenalty
    obtain ⟨hascending, rfl⟩ := create_eq_ok.mp hpenalty
    exact ⟨rfl, hascending, rfl⟩

/-- The fee at a point that is not negative is the one of the formula. -/
theorem feeAt_ok {y : ℚ} (hin : sIn.Ascending) (hout : sOut.Ascending)
    (hpin : findPenalty sIn (bIn + recv) = .ok pIn)
    (hpout : findPenalty sOut bOut = .ok pOut) (ha : 0 ≤ a) (hx : 0 ≤ x)
    (h : feeAt sIn sOut bIn bOut pIn pOut a x = .ok y) :
    y = totalFee sIn sOut bIn bOut recv a x ∧ InRange pIn.xList (bIn + a) ∧ InRange pIn.xList bIn ∧
      InRange pOut.xList (bOut + -x) ∧ InRange pOut.xList bOut := by
  obtain ⟨rfl, hwfin⟩ := findPenalty_ok hin hpin
  obtain ⟨rfl, hwfout⟩ := findPenalty_ok hout hpout
  simp only [feeAt, seq_ok_iff, pure_eq_ok] at h
  obtain ⟨feeIn, hfeeIn, feeOut, hfeeOut, rfl⟩ := h
  obtain ⟨hina, hin0, rfl⟩ := feeWith_ok hwfin hfeeIn
  obtain ⟨houtx, hout0, rfl⟩ := feeWith_ok hwfout hfeeOut
  refine ⟨?_, hina, hin0, houtx, hout0⟩
  rw [abs_of_nonneg ha, abs_neg, abs_of_nonneg hx, totalFee]
  ring

/-- A penalty function without a kink between `a` and `b` changes evenly there. -/
theorem affineOn_penaltyChange (hp : penalty.WellFormed)
    (hgap : ∀ z ∈ penalty.xList, z - balance ≤ a ∨ b ≤ z - balance)
    (hb : InRange penalty.xList (balance + b)) : AffineOn (penaltyChange penalty balance) a b := by
  obtain ⟨-, top, htop, hle⟩ := hb
  rw [← hp.fst_points] at hgap htop
  have hchain : AffineOn (polyline penalty.points) (balance + a) (balance + b) := by
    refine affineOn_polyline hp.ascendingPoints (fun p hmem => ?_) ?_
    · refine (hgap _ (List.mem_map_of_mem hmem)).imp (fun h => ?_) fun h => ?_ <;> linarith
    · obtain ⟨p, hmem, rfl⟩ := List.mem_map.mp htop
      exact ⟨p, hmem, hle⟩
  exact hchain.comp_add.add (affineOn_const (-polyline penalty.points balance) a b) |>.congr
    fun x => (sub_eq_add_neg _ _).symm

theorem affineOn_penaltyChange_neg (hp : penalty.WellFormed)
    (hgap : ∀ z ∈ penalty.xList, balance - z ≤ a ∨ b ≤ balance - z)
    (ha : InRange penalty.xList (balance + -a)) :
    AffineOn (fun x => penaltyChange penalty balance (-x)) a b := by
  refine AffineOn.comp_neg (affineOn_penaltyChange hp (fun z hz => ?_) ha)
  refine (hgap z hz).symm.imp (fun h => ?_) fun h => ?_ <;> linarith

/-- The samples of an uncapped function, for amounts given by `amounts`. -/
theorem Computed.samples (h : Computed sIn sOut bIn bOut recv
      amountWithFees amountWithoutFees pIn pOut xList yList)
    (hin : sIn.Ascending) (hout : sOut.Ascending) :
    yList = xList.map (fun x => totalFee sIn sOut bIn bOut recv
      (amountWithFees.elim x fun a => a) (amountWithoutFees.elim x fun a => a)) ∧
    ∀ x ∈ xList, 0 ≤ x ∧ InRange pIn.xList (bIn + amountWithFees.elim x fun a => a) ∧
      InRange pIn.xList bIn ∧ InRange pOut.xList (bOut + -amountWithoutFees.elim x fun a => a) ∧
      InRange pOut.xList bOut := by
  have hnonneg : ∀ x ∈ xList, 0 ≤ x := by
    intro x hx
    rw [h.xList_eq] at hx
    obtain ⟨_, -, rfl⟩ := mem_collectXValues.mp hx
    exact limited_nonneg _ _ _
  have hamount : ∀ (amount : Option Nat), ∀ x ∈ xList, (0 : ℚ) ≤ amount.elim x fun a => a := by
    intro amount x hx
    cases amount with
    | none => exact hnonneg x hx
    | some a => exact Nat.cast_nonneg a
  have hat : ∀ x ∈ xList, ∀ y, feeAt sIn sOut bIn bOut pIn pOut
      (amountWithFees.elim x fun a => a) (amountWithoutFees.elim x fun a => a) = .ok y → _ :=
    fun x hx y => feeAt_ok hin hout h.penaltyIn_ok h.penaltyOut_ok (hamount _ x hx) (hamount _ x hx)
  have hfees := h.fees
  clear h
  induction hfees with
  | nil => exact ⟨rfl, nofun⟩
  | @cons x y xList yList hxy _ ih =>
    obtain ⟨hy, hrange⟩ := hat x List.mem_cons_self y hxy
    obtain ⟨hys, hranges⟩ := ih (fun z hz => hnonneg z (List.mem_cons_of_mem _ hz))
      (fun amount z hz => hamount amount z (List.mem_cons_of_mem _ hz))
      fun z hz => hat z (List.mem_cons_of_mem _ hz)
    refine ⟨by rw [List.map_cons, ← hy, ← hys], fun z hz => ?_⟩
    rcases List.mem_cons.mp hz with rfl | hz
    · exact ⟨hnonneg z List.mem_cons_self, hrange⟩
    · exact hranges z hz

/-- What an uncapped function was made from. -/
theorem uncapped_ok (hin : sIn.Ascending) (hout : sOut.Ascending)
    (h : mediationFeeFuncWith sIn sOut bIn bOut recv amountWithFees
      amountWithoutFees false = .ok f) :
    ∃ pIn pOut, Computed sIn sOut bIn bOut recv amountWithFees
      amountWithoutFees pIn pOut f.xList f.yList ∧ f.xList.Pairwise (· < ·) ∧
      pIn.WellFormed ∧ pOut.WellFormed ∧ pIn = sIn.penaltyOr (bIn + recv) ∧
      pOut = sOut.penaltyOr bOut := by
  obtain ⟨pIn, pOut, xList, yList, hcomputed, hascending, heq⟩ := mediationFeeFuncWith_ok h
  obtain ⟨rfl, rfl⟩ := Prod.mk.inj heq
  obtain ⟨hpin, hwfin⟩ := findPenalty_ok hin hcomputed.penaltyIn_ok
  obtain ⟨hpout, hwfout⟩ := findPenalty_ok hout hcomputed.penaltyOut_ok
  exact ⟨pIn, pOut, hcomputed, hascending, hwfin, hwfout, hpin, hpout⟩

/-- Where the penalty functions are defined, the formula has their values. -/
theorem isFee_totalFee (hin : sIn.Ascending) (hout : sOut.Ascending)
    (hpin : findPenalty sIn (bIn + recv) = .ok pIn) (hpout : findPenalty sOut bOut = .ok pOut)
    (hina : InRange pIn.xList (bIn + a)) (hin0 : InRange pIn.xList bIn)
    (houtx : InRange pOut.xList (bOut + -x)) (hout0 : InRange pOut.xList bOut) :
    IsFee sIn sOut bIn bOut recv a x (totalFee sIn sOut bIn bOut recv a x) := by
  obtain ⟨rfl, hwfin⟩ := findPenalty_ok hin hpin
  obtain ⟨rfl, hwfout⟩ := findPenalty_ok hout hpout
  rw [← sub_eq_add_neg] at houtx
  refine ⟨_, _, _, _, _, _, hpin, hpout, hwfin.call_eq hina, hwfin.call_eq hin0, hwfout.call_eq houtx,
    hwfout.call_eq hout0, ?_⟩
  rw [totalFee, penaltyChange, penaltyChange, ← sub_eq_add_neg]

/-- Taking `a`, the function has the value of the formula at every amount it is defined for. -/
theorem mediationFeeFunc_exact {a : Nat} (hin : sIn.Ascending) (hout : sOut.Ascending)
    (h : mediationFeeFunc sIn sOut bIn bOut recv a false = .ok f) (hx : InRange f.xList x) :
    f.call x = .ok (totalFee sIn sOut bIn bOut recv a x) ∧ IsFee sIn sOut bIn bOut recv a x
        (totalFee sIn sOut bIn bOut recv a x) := by
  obtain ⟨pIn, pOut, hcomputed, hascending, hwfin, hwfout, hpin, hpout⟩ := uncapped_ok hin hout h
  obtain ⟨hy, hrange⟩ := hcomputed.samples hin hout
  refine ⟨call_eq_of_affineOn hascending hy (fun b hb c hc hbc hgap => ?_) hx, ?_⟩
  · have hpenalty : AffineOn (fun x => penaltyChange pOut bOut (-x)) b c := by
      refine affineOn_penaltyChange_neg hwfout (fun z hz => ?_) (hrange b hb).2.2.2.1
      rw [hcomputed.xList_eq] at hb hc hgap
      exact no_kink_between hb hc hbc hgap (List.mem_append_right _ (List.mem_map_of_mem hz))
    refine (((affineOn_const (sIn.flat + sOut.flat + sIn.proportion * a +
      penaltyChange pIn bIn a) b c).add (affineOn_mul sOut.proportion b c)).add
      hpenalty).congr fun x => ?_
    rw [hpin, hpout, totalFee]
    ring
  · obtain ⟨⟨low, hlow, hle⟩, high, hhigh, hge⟩ := hx
    obtain ⟨-, hina, hin0, houtlow, hout0⟩ := hrange low hlow
    obtain ⟨-, -, -, houthigh, -⟩ := hrange high hhigh
    refine isFee_totalFee hin hout hcomputed.penaltyIn_ok hcomputed.penaltyOut_ok hina hin0 ?_ hout0
    exact houthigh.between houtlow (add_le_add_right (neg_le_neg hge) _)
      (add_le_add_right (neg_le_neg hle) _)

/-- Forwarding `b`, the backwards function has the value of the formula at every amount it is defined for. -/
theorem mediationFeeBackwardsFunc_exact {b : Nat} (hin : sIn.Ascending) (hout : sOut.Ascending)
    (h : mediationFeeBackwardsFunc sIn sOut bIn bOut recv b false = .ok f)
    (hx : InRange f.xList x) :
    f.call x = .ok (totalFee sIn sOut bIn bOut recv x b) ∧ IsFee sIn sOut bIn bOut recv x b
        (totalFee sIn sOut bIn bOut recv x b) := by
  obtain ⟨pIn, pOut, hcomputed, hascending, hwfin, hwfout, hpin, hpout⟩ := uncapped_ok hin hout h
  obtain ⟨hy, hrange⟩ := hcomputed.samples hin hout
  refine ⟨call_eq_of_affineOn hascending hy (fun c hc d hd hcd hgap => ?_) hx, ?_⟩
  · have hpenalty : AffineOn (penaltyChange pIn bIn) c d := by
      refine affineOn_penaltyChange hwfin (fun z hz => ?_) (hrange d hd).2.1
      rw [hcomputed.xList_eq] at hc hd hgap
      exact no_kink_between hc hd hcd hgap (List.mem_append_left _ (List.mem_map_of_mem hz))
    refine (((affineOn_const (sIn.flat + sOut.flat + sOut.proportion * b +
      penaltyChange pOut bOut (-b)) c d).add (affineOn_mul sIn.proportion c d)).add
      hpenalty).congr fun x => ?_
    rw [hpin, hpout, totalFee, Option.elim_none, Option.elim_some]
    ring
  · obtain ⟨⟨low, hlow, hle⟩, high, hhigh, hge⟩ := hx
    obtain ⟨-, hinlow, hin0, houtb, hout0⟩ := hrange low hlow
    obtain ⟨-, hinhigh, -, -, -⟩ := hrange high hhigh
    refine isFee_totalFee hin hout hcomputed.penaltyIn_ok hcomputed.penaltyOut_ok ?_ hin0 houtb hout0
    exact hinlow.between hinhigh (add_le_add_right hle _) (add_le_add_right hge _)

end Formula

/-- For schedules as they are constructed, the uncapped fee function and its
backwards function are the formula on all of their domains, so they agree. -/
theorem mediation_fee_is_exact (hin : sIn.Ascending) (hout : sOut.Ascending) :
    (∀ (a : Nat) (forward : Interpolate) (x : ℚ),
      mediationFeeFunc sIn sOut bIn bOut recv a false = .ok forward → InRange forward.xList x →
      ∃ y, forward.call x = .ok y ∧ IsFee sIn sOut bIn bOut recv a x y) ∧
    (∀ (b : Nat) (backward : Interpolate) (x : ℚ),
      mediationFeeBackwardsFunc sIn sOut bIn bOut recv b false = .ok backward →
      InRange backward.xList x →
      ∃ y, backward.call x = .ok y ∧ IsFee sIn sOut bIn bOut recv x b y) ∧
    (∀ (a b : Nat) (forward backward : Interpolate) (y z : ℚ),
      mediationFeeFunc sIn sOut bIn bOut recv a false = .ok forward →
      mediationFeeBackwardsFunc sIn sOut bIn bOut recv b false = .ok backward →
      forward.call b = .ok y → backward.call a = .ok z → y = z) := by
  refine ⟨?_, ?_, ?_⟩
  · intro a forward x hforward hx
    exact ⟨_, mediationFeeFunc_exact hin hout hforward hx⟩
  · intro b backward x hbackward hx
    exact ⟨_, mediationFeeBackwardsFunc_exact hin hout hbackward hx⟩
  · intro a b forward backward y z hforward hbackward hy hz
    have hy' := (mediationFeeFunc_exact hin hout hforward (inRange_of_call hy)).1
    have hz' := (mediationFeeBackwardsFunc_exact hin hout hbackward (inRange_of_call hz)).1
    rw [hy'] at hy
    rw [hz'] at hz
    exact Except.ok.inj (hy.symm.trans hz)

/-- A schedule with all three parts of a fee. -/
def toySchedule : FeeScheduleState := ⟨true, 1, 20000, some [(0, 10), (50, 0), (100, 10)]⟩

/-- Forwarding 15 out of 10 is priced by the formula between the samples at 10 and 20. -/
theorem toy_fee_between_samples :
    ∃ forward y, mediationFeeFunc toySchedule toySchedule 30 60 50 10 false = .ok forward ∧
      forward.xList = [0, 10, 20, 60] ∧ forward.call 15 = .ok y ∧
      IsFee toySchedule toySchedule 30 60 50 (10 : Nat) 15 y := by
  have hok : ((mediationFeeFunc toySchedule toySchedule 30 60 50 10 false).toOption.any
      fun f => f.xList = [0, 10, 20, 60]) = true := by decide +kernel
  cases hforward : mediationFeeFunc toySchedule toySchedule 30 60 50 10 false with
  | error e =>
    rw [hforward] at hok
    cases hok
  | ok forward =>
    rw [hforward] at hok
    have hxs : forward.xList = [0, 10, 20, 60] := of_decide_eq_true hok
    have hrange : InRange forward.xList 15 := by
      rw [hxs]
      exact ⟨⟨10, by decide +kernel, by decide +kernel⟩, 20, by decide +kernel, by decide +kernel⟩
    obtain ⟨y, hy, hfee⟩ := (mediation_fee_is_exact (by decide) (by decide)).1 10 forward 15 hforward hrange
    exact ⟨forward, y, rfl, hxs, hy, hfee⟩

end MediationFee

end Raiden
