import Raiden.MediationFee.Capping
import Raiden.MediationFee.Exact
import Raiden.MediationFee.Intersection
import Raiden.Mediator.Spec

/-! # A mediation pays out at most what it takes

The amount to forward is where the capped fee meets the rest of the amount that
was taken. Capping inserts points between the samples and lifts the fees to zero,
so the intersection lies below the amount taken and below our balance. -/
namespace Raiden

open Lib Interpolate

variable {f : Interpolate} {xList yList : List ℚ} {x y₁ y₂ : ℚ}

namespace MediationFee

theorem collectXValues_ascending (penaltyIn penaltyOut : Interpolate) (balanceIn balanceOut maxX : Int) :
    (collectXValues penaltyIn penaltyOut balanceIn balanceOut maxX).Pairwise (· < ·) := by
  have hsorted : (collectXValues penaltyIn penaltyOut balanceIn balanceOut maxX).Pairwise (· ≤ ·) :=
    List.pairwise_insertionSort ..
  have hnodup : (collectXValues penaltyIn penaltyOut balanceIn balanceOut maxX).Nodup :=
    (List.perm_insertionSort ..).nodup_iff.mpr (List.nodup_dedup _)
  exact (hsorted.and hnodup).imp fun h => lt_of_le_of_ne h.1 h.2

/-- A capped fee function is never negative and covers no more than our balance. -/
theorem capped_ok {scheduleIn scheduleOut : FeeScheduleState} {balanceIn balanceOut receivable : Int}
    {amountWithFees : Nat}
    (h : mediationFeeFunc scheduleIn scheduleOut balanceIn balanceOut receivable amountWithFees true =
      .ok f) :
    f.WellFormed ∧ (∀ y ∈ f.yList, 0 ≤ y) ∧ ∀ x ∈ f.xList, x ≤ max (balanceOut : ℚ) 0 := by
  obtain ⟨penaltyIn, penaltyOut, xList, yList, hcomputed, hascending, heq⟩ := mediationFeeFuncWith_ok h
  have hwf : WellFormed ⟨xList, yList⟩ := by
    refine ⟨?_, hcomputed.fees.length_eq⟩
    rw [hcomputed.xList_eq]
    exact collectXValues_ascending ..
  rw [if_pos rfl, capFees_eq hwf, columns] at heq
  obtain ⟨hxs, hys⟩ := Prod.mk.inj heq
  refine ⟨⟨hascending, by simp only [hxs, hys, List.length_map]⟩, fun y hy => ?_, fun x hx => ?_⟩
  · rw [hys, List.map_map] at hy
    obtain ⟨_, -, rfl⟩ := List.mem_map.mp hy
    exact le_max_right _ _
  · -- an inserted zero lies before a sample
    rw [hxs, List.map_map] at hx
    obtain ⟨r, hr, rfl⟩ := List.mem_map.mp hx
    obtain ⟨-, b, hb, hle⟩ := inRange_of_mem_insertZeros hwf.ascendingPoints hr
    rw [hwf.fst_points, hcomputed.xList_eq] at hb
    obtain ⟨k, -, rfl⟩ := mem_collectXValues.mp hb
    exact hle.trans (max_le_max ((min_le_left _ _).trans (min_le_right _ _)) le_rfl)

theorem findIntersection_ok {a : ℚ} (hf : f.WellFormed)
    (h : findIntersection f (fun x => a - x) = .ok (some x)) : ∃ fee, f.call x = .ok fee ∧ x + fee = a := by
  have hline : (fun x => a - x) = straight (-1) a := by
    funext x
    unfold straight
    ring
  rw [hline] at h
  cases hpoints : f.points with
  | nil =>
    rw [hf.eq_points, hpoints] at h
    cases h
  | cons first rest =>
    obtain ⟨last, -, hlast⟩ := atPredecessor_zero first rest
    rcases findIntersection_spec hf hpoints hlast with ⟨-, heq⟩ |
      ⟨-, ⟨-, heq⟩ | ⟨-, x', heq, hmeets, -⟩⟩
    · cases heq.symm.trans h
    · cases heq.symm.trans h
    · cases heq.symm.trans h
      refine ⟨_, hmeets, ?_⟩
      unfold straight
      ring

theorem roundHalfEven_cases (x : ℚ) :
    roundHalfEven x = x.floor ∨ (roundHalfEven x = x.floor + 1 ∧ (x.floor : ℚ) < x) := by
  unfold roundHalfEven
  dsimp only
  split
  · exact .inl rfl
  · next hrest =>
    have hlt : (x.floor : ℚ) < x := by linarith
    split
    · exact .inr ⟨rfl, hlt⟩
    · split
      · exact .inl rfl
      · exact .inr ⟨rfl, hlt⟩

theorem roundHalfEven_le {n : Int} (h : x ≤ n) : roundHalfEven x ≤ n := by
  have hfloor : (x.floor : ℚ) ≤ x := Rat.le_floor_iff.mp le_rfl
  rcases roundHalfEven_cases x with heq | ⟨heq, hlt⟩
  · rw [heq]
    exact Int.cast_le.mp (hfloor.trans h)
  · rw [heq]
    exact Int.cast_lt.mp (hlt.trans_le h)

theorem roundHalfEven_nonneg (h : 0 < x) : 0 ≤ roundHalfEven x := by
  have hfloor : 0 ≤ x.floor := Rat.le_floor_iff.mpr (by exact_mod_cast h.le)
  rcases roundHalfEven_cases x with heq | ⟨heq, -⟩ <;> omega

/-! ## The amount to forward -/

section Amount

variable {a amount : Nat} {channelIn channelOut : NettingChannelState}

/-- The intersection behind an amount that is returned. -/
theorem getAmountWithoutFees_ok (h : getAmountWithoutFees a channelIn channelOut = .ok (some amount)) :
    ∃ feeFunc x, feeFuncBetween a channelIn channelOut = .ok feeFunc ∧
      findIntersection feeFunc (fun x => a - x) = .ok (some x) ∧ 0 < x ∧ (amount : Int) = roundHalfEven x := by
  simp only [getAmountWithoutFees, seq_ok_iff, assert_eq_ok, exists_const] at h
  obtain ⟨-, h⟩ := h
  split at h
  · cases h
  · cases h
  · cases h
  · next x hx =>
    split at h
    · cases h
    · next hpos =>
      simp only [pure_eq_ok, Option.some.injEq] at h
      obtain ⟨feeFunc, hfee, hfound⟩ := seq_ok_iff.mp hx
      have hpos : 0 < x := not_le.mp hpos
      refine ⟨feeFunc, x, hfee, hfound, hpos, ?_⟩
      rw [← h, Int.toNat_of_nonneg (roundHalfEven_nonneg hpos)]

theorem amount_is_covered (hcap : channelIn.feeSchedule.capFees = true)
    (h : getAmountWithoutFees a channelIn channelOut = .ok (some amount)) :
    ∃ feeFunc x fee, feeFuncBetween a channelIn channelOut = .ok feeFunc ∧
      feeFunc.call x = .ok fee ∧ x + fee = a ∧ (amount : Int) = roundHalfEven x ∧ amount ≤ a ∧
      (amount : Int) ≤ Channel.getBalance channelOut.ourState channelOut.partnerState := by
  obtain ⟨feeFunc, x, hfunc, hfound, hpos, hround⟩ := getAmountWithoutFees_ok h
  have hcapped := hfunc
  rw [feeFuncBetween, hcap] at hcapped
  obtain ⟨hwf, hnonneg, hbound⟩ := capped_ok hcapped
  obtain ⟨fee, hcall, hsum⟩ := findIntersection_ok hwf hfound
  have hrange := inRange_of_call hcall
  have hfee : 0 ≤ fee := by
    rw [hwf.eq_of_call hcall]
    refine polyline_nonneg hwf.ascendingPoints (hwf.fst_points.symm ▸ hrange) fun p hp => ?_
    exact hnonneg p.2 (List.of_mem_zip hp).2
  refine ⟨feeFunc, x, fee, hfunc, hcall, hsum, hround, ?_, ?_⟩
  · have hle : x ≤ ((a : Int) : ℚ) := by
      push_cast
      linarith
    have hamount := roundHalfEven_le hle
    omega
  · obtain ⟨-, top, htop, hxtop⟩ := hrange
    have hle := hxtop.trans (hbound top htop)
    rw [hround]
    exact roundHalfEven_le ((le_max_iff.mp hle).resolve_right (not_le.mpr hpos))

end Amount

/-- With capped fees the amount to forward is the rounding of the point where it
and its fee add up to the amount taken. It is covered by that amount and by our
balance, and so is every transfer that is forwarded. -/
theorem payout_is_covered {channelIn : NettingChannelState}
    (hcap : channelIn.feeSchedule.capFees = true) :
    (∀ (channelOut : NettingChannelState) (a amount : Nat),
      getAmountWithoutFees a channelIn channelOut = .ok (some amount) →
      ∃ feeFunc x fee, feeFuncBetween a channelIn channelOut = .ok feeFunc ∧
        feeFunc.call x = .ok fee ∧ x + fee = a ∧ (amount : Int) = roundHalfEven x ∧ amount ≤ a ∧
        (amount : Int) ≤ Channel.getBalance channelOut.ourState channelOut.partnerState) ∧
    ∀ (P : Primitives) (cs : Channels) (payerTransfer : LockedTransferSignedState)
      (payee : ChannelRef) (payeeChannel : NettingChannelState) (blockNumber : Nat),
      Ensures (Mediator.forwardTransferPair P cs payerTransfer channelIn payee payeeChannel blockNumber)
        fun r => ∀ forwarded, r = some forwarded → ∀ message, .sendLockedTransfer message ∈ forwarded.2.2 →
          message.transfer.lock.amount ≤ payerTransfer.lock.amount := by
  refine ⟨fun channelOut a amount => amount_is_covered hcap, ?_⟩
  intro P cs payerTransfer payee payeeChannel blockNumber
  refine (Mediator.forwardTransferPair_ensures payee payeeChannel).mono fun r hr forwarded heq message hmem => ?_
  obtain ⟨amount, _, _, sent, hamount, -, hsent, rfl⟩ := hr forwarded heq
  obtain rfl : message = sent := by simpa using hmem
  obtain ⟨_, hfacts, -⟩ := Channel.sendLockedtransfer_ok P hsent
  obtain ⟨_, _, _, -, -, -, -, hle, -⟩ := amount_is_covered hcap hamount
  have heq := hfacts.amount_eq
  simp only [Mediator.forwardArguments] at heq
  omega

/-- A channel with 50 tokens on each side. -/
def toyLeg : NettingChannelState := { Channel.toyChannel 50 50 with feeSchedule := toySchedule }

/-- Of 20 tokens 11 are forwarded. -/
theorem toy_payout_is_covered :
    getAmountWithoutFees 20 toyLeg toyLeg = .ok (some 11) ∧
      ∃ feeFunc x fee, feeFuncBetween 20 toyLeg toyLeg = .ok feeFunc ∧ feeFunc.call x = .ok fee ∧
        x + fee = (20 : Nat) ∧ ((11 : Nat) : Int) = roundHalfEven x ∧ 11 ≤ 20 ∧
        ((11 : Nat) : Int) ≤ Channel.getBalance toyLeg.ourState toyLeg.partnerState := by
  have hoption : (getAmountWithoutFees 20 toyLeg toyLeg).toOption = some (some 11) := by decide +kernel
  have hamount : getAmountWithoutFees 20 toyLeg toyLeg = .ok (some 11) := by
    cases h : getAmountWithoutFees 20 toyLeg toyLeg with
    | error e =>
      rw [h] at hoption
      cases hoption
    | ok amount =>
      rw [h] at hoption
      exact congrArg Except.ok (Option.some.inj hoption)
  exact ⟨hamount, (payout_is_covered rfl).1 toyLeg 20 11 hamount⟩

end MediationFee

end Raiden
