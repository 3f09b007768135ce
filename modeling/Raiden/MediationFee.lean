import Mathlib.Algebra.Order.Ring.Rat
import Mathlib.Data.List.Dedup
import Mathlib.Data.List.Sort
import Raiden.Channel.Query

/-! # Mediation fees

The fee schedules of two channels as piecewise linear functions over the
rationals, and the amount a mediator forwards after taking its fees. -/
namespace Raiden

/-- Linear interpolation between points. -/
structure Interpolate where
  xList : List ℚ
  yList : List ℚ
deriving DecidableEq

namespace Interpolate

def create (xList yList : List ℚ) : Fallible Interpolate := do
  check ((xList.zip xList.tail).any (fun (x, y) => y - x ≤ 0) = false)
    (.valueError "x_list must be in strictly ascending order!")
  return ⟨xList, yList⟩

/-- The number of entries of an ascending list that are not above `x`. -/
def bisectRight (xList : List ℚ) (x : ℚ) : Nat := (xList.takeWhile (· ≤ x)).length

/-- An index that must exist. -/
def entry {α : Type} (xs : List α) (i : Nat) : Fallible α :=
  match xs[i]? with
  | some x => .ok x
  | none => .error .indexError

/-- The entry before index `i`; for the first index that is the last entry. -/
def atPredecessor {α : Type} (xs : List α) : Nat → Fallible α
  | 0 => entry xs (xs.length - 1)
  | i + 1 => entry xs i

def call (f : Interpolate) (x : ℚ) : Fallible ℚ := do
  let first ← entry f.xList 0
  let last ← atPredecessor f.xList 0
  check (first ≤ x ∧ x ≤ last) (.valueError "x out of bounds!")
  if x = last then atPredecessor f.yList 0
  else
    let i := bisectRight f.xList x - 1
    let x1 ← entry f.xList i
    let x2 ← entry f.xList (i + 1)
    let y1 ← entry f.yList i
    let y2 ← entry f.yList (i + 1)
    return y1 + (y2 - y1) / (x2 - x1) * (x - x1)

end Interpolate

open Interpolate

namespace FeeScheduleState

def penaltyFunc (schedule : FeeScheduleState) : Option Interpolate :=
  match schedule.imbalancePenalty with
  | some (point :: points) =>
    some ⟨(point :: points).map fun p => p.1, (point :: points).map fun p => p.2⟩
  | _ => none

/-- The fee with a given penalty function. -/
def feeWith (schedule : FeeScheduleState) (penalty : Interpolate) (balance : Int) (amount : ℚ) :
    Fallible ℚ := do
  let after ← penalty.call (balance + amount)
  let before ← penalty.call balance
  return schedule.flat + (schedule.proportional : ℚ) / 1000000 * |amount| + (after - before)

/-- The condition on the penalty function covers the whole sum and not only its last term. -/
def fee (schedule : FeeScheduleState) (balance : Int) (amount : ℚ) : Fallible ℚ :=
  match schedule.penaltyFunc with
  | some penalty => schedule.feeWith penalty balance amount
  | none => .ok 0

end FeeScheduleState

namespace MediationFee

def sign (x : ℚ) : Int := if x = 0 then 0 else if 0 < x then 1 else -1

def collectXValues (penaltyFuncIn penaltyFuncOut : Interpolate) (balanceIn balanceOut : Int)
    (maxX : Int) : List ℚ :=
  let allXVals := penaltyFuncIn.xList.map (fun x => x - (balanceIn : ℚ)) ++
    penaltyFuncOut.xList.map fun x => (balanceOut : ℚ) - x
  let limitedXVals := allXVals.map fun x => max (min (min x (balanceOut : ℚ)) (maxX : ℚ)) 0
  limitedXVals.dedup.insertionSort (· ≤ ·)

/-- Insert the intersection with the x-axis between the points `i` and `i + 1`. -/
def insertZero (points : List ℚ × List ℚ) (i : Nat) : List ℚ × List ℚ :=
  match points.1[i]?, points.1[i + 1]?, points.2[i]?, points.2[i + 1]? with
  | some x1, some x2, some y1, some y2 =>
    if sign y1 * sign y2 = -1 then
      let newX := x1 + |y1| / |y2 - y1| * (x2 - x1)
      let newIndex := bisectRight points.1 newX
      (points.1.insertIdx newIndex newX, points.2.insertIdx newIndex 0)
    else points
  | _, _, _, _ => points

def capFees (xList yList : List ℚ) : List ℚ × List ℚ :=
  let (xList, yList) := (List.range (xList.length - 1)).foldl insertZero (xList, yList)
  (xList, yList.map (max · 0))

/-- A fee that cannot be computed because a balance leaves the domain of a
penalty function is reported as undefined. -/
def undefinedOnValueError {α : Type} : Fallible α → Fallible α
  | .error (.valueError _) => .error .undefinedMediationFee
  | result => result

/-- The penalty function of a schedule, or the constant one over the capacity. -/
def findPenalty (schedule : FeeScheduleState) (capacity : Int) : Fallible Interpolate :=
  match schedule.penaltyFunc with
  | some penalty => .ok penalty
  | none => Interpolate.create [0, (capacity : ℚ)] [0, 0]

section

variable (scheduleIn scheduleOut : FeeScheduleState) (balanceIn balanceOut : Int) (receivable : Int)

/-- The fee for taking the amount `a` and forwarding the amount `x`. -/
def feeAt (penaltyIn penaltyOut : Interpolate) (a x : ℚ) : Fallible ℚ := do
  let feeIn ← scheduleIn.feeWith penaltyIn balanceIn a
  let feeOut ← scheduleOut.feeWith penaltyOut balanceOut (-x)
  return feeIn + feeOut

def mediationFeeFuncWith (amountWithFees amountWithoutFees : Option Nat) (cap : Bool) :
    Fallible Interpolate := do
  assert (amountWithFees = none ∨ amountWithoutFees = none)
    "Must be called with either amount_with_fees or amount_without_fees as None"
  check (¬(balanceOut = 0 ∨ receivable = 0)) .undefinedMediationFee
  let penaltyIn ← findPenalty scheduleIn (balanceIn + receivable)
  let penaltyOut ← findPenalty scheduleOut balanceOut
  let maxX := if amountWithFees = none then receivable else balanceOut
  let xList := collectXValues penaltyIn penaltyOut balanceIn balanceOut maxX
  let yList ← undefinedOnValueError <| xList.mapM fun x =>
    feeAt scheduleIn scheduleOut balanceIn balanceOut penaltyIn penaltyOut
      (amountWithFees.elim x fun a => a) (amountWithoutFees.elim x fun a => a)
  let (xList, yList) := if cap then capFees xList yList else (xList, yList)
  Interpolate.create xList yList

/-- The total fee as a function of the amount without fees. -/
def mediationFeeFunc (amountWithFees : Nat) (cap : Bool) : Fallible Interpolate :=
  mediationFeeFuncWith scheduleIn scheduleOut balanceIn balanceOut receivable (some amountWithFees)
    none cap

def mediationFeeBackwardsFunc (amountWithoutFees : Nat) (cap : Bool) : Fallible Interpolate :=
  mediationFeeFuncWith scheduleIn scheduleOut balanceIn balanceOut receivable none
    (some amountWithoutFees) cap

end

/-- Where a fee function meets a straight line, given at the points of the fee
function; `none` is a lack of capacity. -/
def findIntersection (feeFunc : Interpolate) (line : ℚ → ℚ) : Fallible (Option ℚ) := do
  let y ← entry feeFunc.yList 0
  let start ← entry feeFunc.xList 0
  -- the loop walks on as long as the function stays on the side it starts on
  let side (p : ℚ × ℚ) : Bool := if y < line start then p.1 < line p.2 else line p.2 < p.1
  match (feeFunc.yList.zip feeFunc.xList).findIdx? fun p => !side p with
  | none => return none
  | some i =>
    let x1 ← atPredecessor feeFunc.xList i
    let x2 ← entry feeFunc.xList i
    let yf1 ← atPredecessor feeFunc.yList i
    let yf2 ← entry feeFunc.yList i
    let slope := (yf2 - yf1) - (line x2 - line x1)
    check (slope ≠ 0) .zeroDivisionError
    return some ((line x1 - yf1) * (x2 - x1) / slope + x1)

/-- Rounding to the nearest integer, ties to the even one. -/
def roundHalfEven (x : ℚ) : Int :=
  let rest := x - x.floor
  if rest < 1 / 2 then x.floor
  else if 1 / 2 < rest then x.floor + 1
  else if x.floor % 2 = 0 then x.floor else x.floor + 1

/-- The fee function for an amount taken from one channel and forwarded over the other. -/
def feeFuncBetween (amountWithFees : Nat) (channelIn channelOut : NettingChannelState) : Fallible Interpolate :=
  let balanceIn := Channel.getBalance channelIn.ourState channelIn.partnerState
  let balanceOut := Channel.getBalance channelOut.ourState channelOut.partnerState
  let receivable := (channelIn.ourState.contractBalance + channelIn.partnerState.contractBalance : Int) -
    balanceIn
  mediationFeeFunc channelIn.feeSchedule channelOut.feeSchedule balanceIn balanceOut receivable amountWithFees
    channelIn.feeSchedule.capFees

/-- The amount to forward after fees; `none` if the channels cannot forward it. -/
def getAmountWithoutFees (amountWithFees : Nat) (channelIn channelOut : NettingChannelState) :
    Fallible (Option Nat) := do
  assert (channelIn.feeSchedule.capFees = channelOut.feeSchedule.capFees)
    "Both channels must have the same cap_fees setting for the same mediator."
  let amountWithoutFees : Fallible (Option ℚ) := do
    let feeFunc ← feeFuncBetween amountWithFees channelIn channelOut
    findIntersection feeFunc fun x => amountWithFees - x
  match amountWithoutFees with
  | .error .undefinedMediationFee => return none
  | .error err => throw err
  | .ok none => return none
  | .ok (some amount) =>
    if amount ≤ 0 then return none
    return some (roundHalfEven amount).toNat

end MediationFee

end Raiden
