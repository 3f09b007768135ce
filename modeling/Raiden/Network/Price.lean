import Raiden.Network.Accumulation

/-! # The price of a path query

The fee of a query is read from the stored configuration before the first attempt.
A price that the service raises is stored, but the next attempt offers the old one. -/
namespace Raiden.Pathfinding

open Lib

variable (F : Formats) {ρ : Type} (client : Client) (query : Query)

/-- What the service answers in one attempt: its last IOU, the answer to the
request, and its info after that. -/
structure Round (ρ : Type) where
  lastIou : Except String (Option JsonObject)
  paths : PathsResponse ρ
  info : Except String PFSInfo

/-- A service that answers round by round and keeps the requests. -/
def scripted (rounds : Nat → Round ρ) : PathFindingService (List Payload) ρ where
  lastIou posted _ _ _ := (rounds posted.length).lastIou
  postPaths posted _ payload := (posted ++ [payload], (rounds posted.length).paths)
  getInfo posted := (rounds (posted.length - 1)).info

def posts (rounds : Nat → Round ρ) : List Payload :=
  (queryReached F (scripted rounds) client query []).service

def built (round : Round ρ) (pfsConfig : PFSConfig) (scrapped : Bool) : Except PfsException (Option IOU) :=
  attemptIou F (scripted fun _ => round) client query [] pfsConfig query.pfsConfig.info.price scrapped

def Round.code? (round : Round ρ) : Option Nat :=
  match round.paths with
  | .error code _ => some code
  | _ => none

/-- The last IOU is of no use once the service reports it as claimed or expired. -/
def scrapped (rounds : Nat → Round ρ) : Nat → Bool
  | 0 => false
  | attempt + 1 => scrapped rounds attempt || (rounds attempt).code? == some iouAlreadyClaimed ||
    (rounds attempt).code? == some iouExpiredTooEarly

/-- The price last learned before an attempt. The loop that waits for the service ends with
the info `currentInfo`. -/
def learned (currentInfo : PFSInfo) (rounds : Nat → Round ρ) : Nat → Nat
  | 0 => currentInfo.price
  | attempt + 1 =>
    match (rounds attempt).code? == some insufficientServicePayment, (rounds attempt).info with
    | true, .ok info => info.price
    | _, _ => learned currentInfo rounds attempt

def lastAmount (round : Round ρ) (scrapped : Bool) : Nat :=
  match scrapped, getLastIou F round.lastIou with
  | false, .ok (some iou) => iou.amount
  | _, _ => 0

/-- The request offers a fee: without an IOU nothing. -/
def Offers (round : Round ρ) (scrapped : Bool) (payload : Payload) (fee : Nat) : Prop :=
  match payload.iou with
  | none => fee = 0
  | some data => data.get? "amount" = some (.number (lastAmount F round scrapped + fee))

/-- Every request offers at least the price last learned and at most the maximum fee, and
after a rejection exactly the price that was raised. -/
def OffersCurrentPrice (currentInfo : PFSInfo) (rounds : Nat → Round ρ) : Prop :=
  ∀ attempt payload, (posts F client query rounds)[attempt]? = some payload → ∃ fee,
    Offers F (rounds attempt) (scrapped rounds attempt) payload fee ∧
      learned currentInfo rounds attempt ≤ fee ∧ fee ≤ query.pfsConfig.maximumFee ∧
      (0 < attempt → query.pfsConfig.info.price < learned currentInfo rounds attempt →
        fee = learned currentInfo rounds attempt)

/-- Once a request can be made, the stored price is current and within the maximum fee, and
it is not raised before another request. -/
def PriceKept (currentInfo : PFSInfo) (rounds : Nat → Round ρ) : Prop :=
  (built F client query (rounds 0) query.pfsConfig false).isOk = true →
    currentInfo.price ≤ query.pfsConfig.info.price ∧
    query.pfsConfig.info.price ≤ query.pfsConfig.maximumFee ∧
    ∀ info, (rounds 0).code? = some insufficientServicePayment → (rounds 0).info = .ok info →
      query.pfsConfig.info.price < info.price → info.price ≤ query.pfsConfig.maximumFee →
      (built F client query (rounds 1) { query.pfsConfig with info } false).isOk = false

/-! ## The requests of a query -/

section Requests

variable {F client query} {rounds : Nat → Round ρ} {round : Round ρ} {posted : List Payload}
  {pfsConfig : PFSConfig} {scrap : Bool} {iou : Option IOU} {currentInfo : PFSInfo}

def nextAttempt (pfsConfig : PFSConfig) (scrap : Bool) (round : Round ρ) : Option (PFSConfig × Bool) := do
  let code ← round.code?
  if isIouRejected code = false ∨ code = wrongIouRecipient ∨ code = depositTooLow then none
  else if code = iouAlreadyClaimed ∨ code = iouExpiredTooEarly then some (pfsConfig, true)
  else if code = insufficientServicePayment then
    match round.info with
    | .error _ => none
    | .ok info =>
      if pfsConfig.maximumFee < info.price then none
      else if pfsConfig.info.price < info.price then some ({ pfsConfig with info }, scrap)
      else some (pfsConfig, scrap)
  else some (pfsConfig, scrap)

theorem service_of_last :
    (queryAttempts F (scripted rounds) client query query.pfsConfig.info.price 0 pfsConfig scrap posted).service =
      posted ++ ((built F client query (rounds posted.length) pfsConfig scrap).toOption.map
        (request F query)).toList := by
  have hbuilt : attemptIou F (scripted rounds) client query posted pfsConfig query.pfsConfig.info.price scrap =
      built F client query (rounds posted.length) pfsConfig scrap := rfl
  rw [queryAttempts, hbuilt]
  cases built F client query (rounds posted.length) pfsConfig scrap with
  | error err => exact (List.append_nil posted).symm
  | ok iou =>
    simp only [scripted]
    cases (rounds posted.length).paths with
    | paths | failed => rfl
    | error code msg => dsimp only; split <;> rfl

/-- The first attempt, and the second one that may follow. -/
theorem posts_of_built (h : built F client query (rounds 0) query.pfsConfig false = .ok iou) :
    posts F client query rounds = request F query iou ::
      ((nextAttempt query.pfsConfig false (rounds 0)).bind fun next =>
        (built F client query (rounds 1) next.1 next.2).toOption.map (request F query)).toList := by
  have hbuilt : attemptIou F (scripted rounds) client query [] query.pfsConfig query.pfsConfig.info.price false =
      .ok iou := h
  have hlast : ∀ pfsConfig scrap, (queryAttempts F (scripted rounds) client query
      query.pfsConfig.info.price 0 pfsConfig scrap [request F query iou]).service = request F query iou ::
        ((built F client query (rounds 1) pfsConfig scrap).toOption.map (request F query)).toList :=
    fun _ _ => service_of_last
  rw [posts, queryReached, show maxPathsQueryAttempts - 1 = 0 + 1 from rfl, queryAttempts, hbuilt]
  unfold nextAttempt Round.code?
  simp only [scripted, request] at hlast ⊢
  cases hpaths : (rounds 0).paths with
  | paths | failed => simp
  | error code msg =>
    have hroute : isIouRejected code = true → code ≠ noRouteFound := by
      rintro hcode rfl
      cases hcode
    simp only [List.nil_append, List.length_singleton, Nat.sub_self,
      Option.bind_eq_bind, Option.bind_some]
    by_cases hcode : isIouRejected code = false
    · simp [hcode]
    by_cases hfatal : code = wrongIouRecipient ∨ code = depositTooLow
    · simp [hcode, hfatal]
    by_cases hscrap : code = iouAlreadyClaimed ∨ code = iouExpiredTooEarly
    · simp [hcode, hfatal, hscrap, hlast]
    by_cases hpayment : code = insufficientServicePayment
    · rw [if_neg hcode, if_neg hfatal, if_neg hscrap, if_pos hpayment, if_neg (by tauto), if_neg hscrap,
        if_pos hpayment]
      cases (rounds 0).info with
      | error => rfl
      | ok info =>
        dsimp only
        split
        · rfl
        · split <;> simp [hlast]
    · simp [hcode, hfatal, hscrap, hpayment, hroute, hlast]

theorem createCurrentIou_amount {bn fee : Nat} {iou : IOU}
    (h : createCurrentIou F round.lastIou pfsConfig client bn fee scrap = .ok iou) :
    iou.amount = lastAmount F round scrap + fee := by
  unfold lastAmount
  cases scrap with
  | true =>
    cases h
    exact (Nat.zero_add fee).symm
  | false =>
    obtain ⟨last, hlast, h⟩ := seq_ok_iff.mp h
    rw [hlast]
    cases last with
    | none =>
      cases h
      exact (Nat.zero_add fee).symm
    | some last =>
      unfold updateIou at h
      dsimp only at h
      split at h
      · cases h
      · cases h
        rfl

theorem offers_iff (h : built F client query round pfsConfig scrap = .ok iou) (fee : Nat) :
    Offers F round scrap (request F query iou) fee ↔ fee = query.pfsConfig.info.price := by
  unfold built attemptIou at h
  split at h
  · obtain ⟨created, hcreated, h⟩ := seq_ok_iff.mp h
    cases h
    have hget : (created.asJson F).get? "amount" = some (.number created.amount) := by
      rw [asJson_get?_of_ne F created (by decide)]
      simp [IOU.asJson, Dict.get?_set]
    have hamount : created.amount = lastAmount F round scrap + _ := createCurrentIou_amount hcreated
    simp only [Offers, request, Option.map_some, hget, Option.some.injEq, JsonValue.number.injEq]
    omega
  · cases h
    simp only [Offers, request, Option.map_none]
    omega

theorem nextAttempt_cases {next : PFSConfig × Bool} (currentInfo : PFSInfo)
    (h : nextAttempt query.pfsConfig false (rounds 0) = some next) :
    next.2 = scrapped rounds 1 ∧
      ((∃ info, (rounds 0).code? = some insufficientServicePayment ∧ (rounds 0).info = .ok info ∧
          query.pfsConfig.info.price < info.price ∧ info.price ≤ query.pfsConfig.maximumFee ∧
          next = ({ query.pfsConfig with info }, false)) ∨
        learned currentInfo rounds 1 ≤ max currentInfo.price query.pfsConfig.info.price) := by
  obtain ⟨code, hcode, h⟩ := Option.bind_eq_some_iff.mp h
  simp only [scrapped, learned, hcode, Option.some_beq_some]
  split at h
  · cases h
  split at h
  · next hscrap =>
    cases h
    rcases hscrap with rfl | rfl <;> exact ⟨rfl, .inr (Nat.le_max_left _ _)⟩
  next hscrap =>
  have hflag : false = (false || code == iouAlreadyClaimed || code == iouExpiredTooEarly) := by
    simpa using hscrap
  split at h
  · next hpayment =>
    subst hpayment
    cases hinfo : (rounds 0).info with
    | error err =>
      rw [hinfo] at h
      cases h
    | ok info =>
      simp only [hinfo] at h
      split at h
      · cases h
      next hmax =>
      split at h
      · next hraised =>
        cases h
        exact ⟨hflag, .inl ⟨info, rfl, rfl, hraised, Nat.not_lt.mp hmax, rfl⟩⟩
      · next hraised =>
        cases h
        exact ⟨hflag, .inr (le_max_of_le_right (Nat.not_lt.mp hraised))⟩
  · next hpayment =>
    cases h
    refine ⟨hflag, .inr ?_⟩
    rw [beq_eq_false_iff_ne.mpr hpayment]
    exact Nat.le_max_left _ _

theorem OffersCurrentPrice.kept (h : OffersCurrentPrice F client query currentInfo rounds) :
    PriceKept F client query currentInfo rounds := by
  intro hbuilt
  cases hiou : built F client query (rounds 0) query.pfsConfig false with
  | error err =>
    rw [hiou] at hbuilt
    cases hbuilt
  | ok iou =>
    have hposts := posts_of_built hiou
    obtain ⟨fee, hfee, hlearned, hmax, -⟩ := h 0 (request F query iou) (by rw [hposts]; rfl)
    obtain rfl := (offers_iff hiou fee).mp hfee
    refine ⟨hlearned, hmax, fun info hcode hinfo hraised hle => ?_⟩
    have hnext : nextAttempt query.pfsConfig false (rounds 0) =
        some ({ query.pfsConfig with info }, false) := by
      unfold nextAttempt
      rw [hcode, hinfo]
      simp only [Option.bind_eq_bind, Option.bind_some, Nat.not_lt.mpr hle, hraised, if_true, if_false]
      rfl
    cases hagain : built F client query (rounds 1) { query.pfsConfig with info } false with
    | error err => rfl
    | ok again =>
      -- the second request offers the stored price, which is below the one just learned
      obtain ⟨fee, hfee, hlearned, -⟩ := h 1 (request F query again) (by
        rw [hposts, hnext, Option.bind_some, hagain]
        rfl)
      simp only [scrapped, learned, hcode, hinfo] at hfee hlearned
      obtain rfl := (offers_iff hagain fee).mp hfee
      exact absurd hraised (Nat.not_lt.mpr hlearned)

theorem PriceKept.offers (h : PriceKept F client query currentInfo rounds) :
    OffersCurrentPrice F client query currentInfo rounds := by
  intro attempt payload hget
  cases hiou : built F client query (rounds 0) query.pfsConfig false with
  | error err =>
    have hbuilt : attemptIou F (scripted rounds) client query [] query.pfsConfig
        query.pfsConfig.info.price false = .error err := hiou
    rw [posts, queryReached, queryAttempts, hbuilt] at hget
    cases hget
  | ok iou =>
    obtain ⟨hlearned, hmax, hraise⟩ := h (by rw [hiou]; rfl)
    rw [posts_of_built hiou] at hget
    cases attempt with
    | zero =>
      cases hget
      exact ⟨_, (offers_iff hiou _).mpr rfl, hlearned, hmax, fun h => absurd h (by decide)⟩
    | succ attempt =>
      rw [List.getElem?_cons_succ] at hget
      obtain rfl : attempt = 0 :=
        Nat.lt_one_iff.mp ((List.getElem?_eq_some_iff.mp hget).1.trans_le Option.length_toList_le)
      have hsecond := List.mem_of_getElem? hget
      simp only [Option.mem_toList, Option.bind_eq_some_iff, Option.map_eq_some_iff] at hsecond
      obtain ⟨next, hnext, again, hagain, rfl⟩ := hsecond
      cases hbuilt : built F client query (rounds 1) next.1 next.2 with
      | error err =>
        rw [hbuilt] at hagain
        cases hagain
      | ok again =>
        rw [hbuilt] at hagain
        cases hagain
        obtain ⟨hflag, ⟨info, hcode, hinfo, hraised, hle, rfl⟩ | hle⟩ := nextAttempt_cases currentInfo hnext
        · have hnone := hraise info hcode hinfo hraised hle
          rw [hbuilt] at hnone
          cases hnone
        · rw [Nat.max_eq_right hlearned] at hle
          exact ⟨_, hflag ▸ (offers_iff hbuilt _).mpr rfl, hle, hmax, fun _ hlt =>
            absurd hlt (Nat.not_lt.mpr hle)⟩

end Requests

/-- Requests offer the current price if and only if the service does not raise it. -/
theorem offers_current_price_iff (currentInfo : PFSInfo) (rounds : Nat → Round ρ) :
    OffersCurrentPrice F client query currentInfo rounds ↔ PriceKept F client query currentInfo rounds :=
  ⟨OffersCurrentPrice.kept, PriceKept.offers⟩

def risingPrice (attempt : Nat) : Round Unit where
  lastIou := .ok none
  paths := if attempt = 0 then .error insufficientServicePayment "" else .paths ()
  info := .ok ⟨150, 3, 5⟩

def toyQuery : Query where
  pfsConfig := { toyRequest.pfsConfig with maximumFee := 200 }
  currentBlockNumber := 1
  tokenNetworkAddress := 9
  routeFrom := 1
  routeTo := 5
  value := 10
  pfsWaitForBlock := 5

/-- The second request offers 100 again. -/
theorem raised_price_not_offered :
    ((posts toyFormats toyClient toyQuery risingPrice).map fun payload =>
        payload.iou.bind fun data => data.get? "amount") = [some (.number 100), some (.number 100)] ∧
      ¬OffersCurrentPrice toyFormats toyClient toyQuery ⟨100, 3, 5⟩ risingPrice := by
  refine ⟨by decide +kernel, fun hoffers => ?_⟩
  cases (hoffers.kept rfl).2.2 _ rfl rfl (by decide) (by decide)

end Raiden.Pathfinding
