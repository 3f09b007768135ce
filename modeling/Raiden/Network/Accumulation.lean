import Mathlib.Logic.Equiv.List
import Raiden.Network.Pathfinding

/-! # IOUs accumulate

Against a service that stores every IOU it is sent and hands it out as the last
one, each query should add its fee to the amount of the last IOU. The object that
`as_json` writes has no entry for the expiration block, which `get_last_iou`
reads, so no query after the first builds an IOU. -/
namespace Raiden.Pathfinding

open Lib

variable (F : Formats)

/-! ## Reading an IOU back -/

theorem asJson_get?_of_ne (iou : IOU) {key : String} (hkey : key ≠ "signature") :
    (iou.asJson F).get? key = (({ iou with signature := none } : IOU).asJson F).get? key := by
  cases hsignature : iou.signature with
  | none => simp only [IOU.asJson, hsignature]
  | some signature => simp only [IOU.asJson, hsignature, Dict.get?_set_ne _ _ hkey]

theorem asJson_get?_expirationBlock (iou : IOU) : (iou.asJson F).get? "expiration_block" = none := by
  rw [asJson_get?_of_ne F iou (by decide)]
  simp [IOU.asJson, Dict.get?_set]

theorem numberField_of_absent {data : JsonObject} {key : String} (h : data.get? key = none) :
    numberField data key = .error (failed s!"'{key}'") := by
  simp only [numberField, field, h]
  rfl

theorem getLastIou_of_absent {data : JsonObject} (h : data.get? "expiration_block" = none)
    (last : Option IOU) : getLastIou F (.ok (some data)) ≠ .ok last := by
  intro hread
  obtain ⟨_, -, hread⟩ := seq_ok_iff.mp hread
  obtain ⟨_, -, hread⟩ := seq_ok_iff.mp hread
  obtain ⟨_, -, hread⟩ := seq_ok_iff.mp hread
  obtain ⟨_, -, hread⟩ := seq_ok_iff.mp hread
  obtain ⟨_, hexpiration, -⟩ := seq_ok_iff.mp hread
  rw [numberField_of_absent h] at hexpiration
  exact error_ne_ok hexpiration

variable {F} in
/-- The error names the field that nobody writes. -/
theorem getLastIou_asJson (hlawful : F.Lawful) (iou : IOU) :
    getLastIou F (.ok (some (iou.asJson F))) = .error (failed "'expiration_block'") := by
  have haddress : ∀ key addr, (iou.asJson F).get? key = some (.string (F.toChecksumAddress addr)) →
      addressField F (iou.asJson F) key = .ok addr := by
    intro key addr hkey
    simp only [addressField, stringField, field, hkey]
    show (F.toCanonicalAddress (F.toChecksumAddress addr)).mapError failed = .ok addr
    rw [hlawful.canonical_checksum]
    rfl
  have hsender := haddress "sender" iou.sender (by
    rw [asJson_get?_of_ne F iou (by decide)]
    simp [IOU.asJson, Dict.get?_set])
  have hreceiver := haddress "receiver" iou.receiver (by
    rw [asJson_get?_of_ne F iou (by decide)]
    simp [IOU.asJson, Dict.get?_set])
  have hcontract := haddress "one_to_n_address" iou.oneToNAddress (by
    rw [asJson_get?_of_ne F iou (by decide)]
    simp [IOU.asJson, Dict.get?_set])
  have hamount : (iou.asJson F).get? "amount" = some (.number iou.amount) := by
    rw [asJson_get?_of_ne F iou (by decide)]
    simp [IOU.asJson, Dict.get?_set]
  have hamount : numberField (iou.asJson F) "amount" = .ok iou.amount := by
    simp only [numberField, field, hamount]
    rfl
  have hexpiration := numberField_of_absent (asJson_get?_expirationBlock F iou)
  simp only [getLastIou, hsender, hreceiver, hcontract, hamount, hexpiration]
  rfl

variable {F} in
/-- Apart from the name of the field, the last IOU is checked against a signature
over another time than it was signed for. -/
theorem updateIou_sign (hlawful : F.Lawful) (iou : IOU) (privkey : PrivateKey) (addedAmount : Nat)
    (expirationBlock : Option Nat) (hexpiration : iou.expirationBlock ≠ 0) :
    updateIou F (iou.sign F privkey) privkey addedAmount expirationBlock = .error (failed
      "Last IOU as given by the Pathfinding Service is invalid (signature does not match)") := by
  have hne : (iou.sign F privkey).signature ≠
      some (F.signOneToNIou privkey ((iou.sign F privkey).signedData F iou.expirationBlock)) := by
    intro heq
    have hdata := (hlawful.sign_injective _ _ _ _ (Option.some.inj heq)).2
    have htime : iou.expirationBlock * 15 = iou.expirationBlock := congrArg SignedIou.claimableUntil hdata
    omega
  exact if_pos hne

/-! ## Queries after the first -/

theorem createCurrentIou_of_stored (stored : IOU) (pfsConfig : PFSConfig) (client : Client)
    (bn offeredFee : Nat) (iou : IOU) :
    createCurrentIou F (.ok (some (stored.asJson F))) pfsConfig client bn offeredFee false ≠
      .ok iou := by
  intro hbuilt
  obtain ⟨last, hlast, -⟩ := seq_ok_iff.mp hbuilt
  exact getLastIou_of_absent F (asJson_get?_expirationBlock F stored) last hlast

variable {F} in
/-- A whole query fails, whether a request for the info fails while it waits for the service, or
the first attempt, before the service is asked for paths. -/
theorem queryPaths_of_stored {σ ρ : Type} (hlawful : F.Lawful) (service : PathFindingService σ ρ)
    (client : Client) (query : Query) (infos : List (Except String PFSInfo)) (s : σ) (stored : IOU)
    (hfee : 0 < query.pfsConfig.info.price)
    (hstored : service.lastIou s query.tokenNetworkAddress client.ourAddress
      query.pfsConfig.info.paymentAddress = .ok (some (stored.asJson F))) :
    queryPaths F service client query infos s =
      (waitForBlock query.pfsWaitForBlock infos).map fun waited =>
        ⟨waited.bind fun _ => .error (.serviceRequestFailed "'expiration_block'"), query.pfsConfig, s⟩ := by
  have hattempt : attemptIou F service client query s query.pfsConfig query.pfsConfig.info.price false =
      .error (.serviceRequestFailed "'expiration_block'") := by
    simp only [attemptIou, if_pos hfee, hstored, createCurrentIou, getLastIou_asJson hlawful]
    rfl
  have hreached : queryReached F service client query s =
      ⟨.error (.serviceRequestFailed "'expiration_block'"), query.pfsConfig, s⟩ := by
    rw [queryReached, queryAttempts, hattempt]
  rw [queryPaths, hreached]
  cases waitForBlock query.pfsWaitForBlock infos with
  | none => rfl
  | some waited => cases waited <;> rfl

/-- What one query asks an IOU for; its fee is positive. -/
structure Request where
  pfsConfig : PFSConfig
  blockNumber : Nat
  offeredFee : Nat
  fee_pos : 0 < offeredFee

/-- An IOU of the client adds a fee to the previous one, and is signed for exactly
its own values. -/
structure AddsTo (client : Client) (previous : Option IOU) (fee : Nat) (iou : IOU) : Prop where
  amount : iou.amount = (previous.elim 0 IOU.amount) + fee
  sender : ∀ last ∈ previous, iou.sender = last.sender
  receiver : ∀ last ∈ previous, iou.receiver = last.receiver
  oneToNAddress : ∀ last ∈ previous, iou.oneToNAddress = last.oneToNAddress
  chainId : ∀ last ∈ previous, iou.chainId = last.chainId
  expirationBlock : ∀ last ∈ previous, iou.expirationBlock = last.expirationBlock
  signature : iou.signature =
    some (F.signOneToNIou client.privkey (iou.signedData F (iou.expirationBlock * 15)))

/-- Every request builds its IOU, which adds the fee to the previous one. The
service answers with the object of the IOU it was sent last, and no request
scraps it, since it is never reported as claimed or expired. -/
def Accumulates (client : Client) : Option IOU → List Request → Prop
  | _, [] => True
  | previous, request :: rest => ∃ iou,
    createCurrentIou F (.ok (previous.map (IOU.asJson F))) request.pfsConfig client request.blockNumber
      request.offeredFee false = .ok iou ∧
    AddsTo F client previous request.offeredFee iou ∧ Accumulates client (some iou) rest

theorem addsTo_makeIou (client : Client) (req : Request) :
    AddsTo F client none req.offeredFee
      (makeIou F req.pfsConfig client req.blockNumber req.offeredFee) where
  amount := (Nat.zero_add _).symm
  sender := nofun
  receiver := nofun
  oneToNAddress := nofun
  chainId := nofun
  expirationBlock := nofun
  signature := rfl

theorem not_accumulates_of_stored (client : Client) (previous : IOU) (req : Request)
    (rest : List Request) : ¬Accumulates F client (some previous) (req :: rest) := by
  rintro ⟨iou, hbuilt, -⟩
  exact createCurrentIou_of_stored F previous _ client _ _ iou hbuilt

theorem accumulates_singleton (client : Client) (req : Request) : Accumulates F client none [req] :=
  ⟨_, rfl, addsTo_makeIou F client req, trivial⟩

/-- The IOUs of a sequence of requests accumulate if and only if it has at most one. -/
theorem ious_accumulate_iff (client : Client) (requests : List Request) :
    Accumulates F client none requests ↔ requests.length ≤ 1 := by
  match requests with
  | [] => exact iff_of_true trivial (Nat.zero_le 1)
  | [request] => exact iff_of_true (accumulates_singleton F client request) le_rfl
  | first :: second :: rest =>
    constructor
    · rintro ⟨iou, -, -, hrest⟩
      exact absurd hrest (not_accumulates_of_stored F client iou second rest)
    · intro hlength
      simp only [List.length_cons] at hlength
      omega

/-- Addresses are spelled in unary. -/
def toySpelling (address : Address) : String := String.ofList (List.replicate address.toNat '0')

def toyReading (text : String) : Except String Address := .ok (BitVec.ofNat 160 text.length)

def charCodes (text : String) : List Nat := text.toList.map Char.toNat

theorem charCodes_injective : Function.Injective charCodes := by
  intro text text' h
  have hchars := List.map_injective_iff.mpr (fun _ _ => Char.toNat_inj.mp) h
  exact String.toList_injective hchars

/-- The arguments of a signature as one number. -/
def signedCode (privkey : PrivateKey) (iou : SignedIou) : Nat :=
  Encodable.encode (privkey.map UInt8.toNat, charCodes iou.sender, charCodes iou.receiver, iou.amount,
    iou.claimableUntil, charCodes iou.oneToNAddress, iou.chainId)

def toyFormats : Formats where
  toChecksumAddress := toySpelling
  toCanonicalAddress := toyReading
  decodeHex _ := .ok []
  signOneToNIou privkey iou := List.replicate (signedCode privkey iou) 0

theorem toyFormats_lawful : toyFormats.Lawful where
  canonical_checksum addr := by
    simp [toyFormats, toyReading, toySpelling]
  sign_injective privkey privkey' iou iou' h := by
    have hcode : signedCode privkey iou = signedCode privkey' iou' := by
      simpa [toyFormats] using congrArg List.length h
    have hargs := Encodable.encode_injective hcode
    simp only [Prod.mk.injEq, charCodes_injective.eq_iff] at hargs
    obtain ⟨hkey, hsender, hreceiver, hamount, htime, hcontract, hchain⟩ := hargs
    refine ⟨List.map_injective_iff.mpr (fun _ _ => UInt8.toNat_inj.mp) hkey, ?_⟩
    cases iou
    cases iou'
    simp_all

def toyClient : Client where
  ourAddress := 1
  privkey := [1]
  oneToNAddress := 2
  chainId := 1

def toyRequest : Request where
  pfsConfig := { info := ⟨100, 3, 5⟩, maximumFee := 100, iouTimeout := 500, maxPaths := 3 }
  blockNumber := 1
  offeredFee := 100
  fee_pos := by decide

theorem second_query_builds_no_iou :
    toyFormats.Lawful ∧ ¬Accumulates toyFormats toyClient none [toyRequest, toyRequest] := by
  refine ⟨toyFormats_lawful, ?_⟩
  rintro ⟨iou, -, -, hrest⟩
  exact not_accumulates_of_stored toyFormats toyClient iou toyRequest [] hrest

def storedIou : IOU where
  sender := 1
  receiver := 3
  oneToNAddress := 2
  amount := 100
  expirationBlock := 501
  chainId := 1

theorem first_iou_is_refused : storedIou.expirationBlock ≠ 0 ∧
    updateIou toyFormats (storedIou.sign toyFormats [1]) [1] 100 none = .error (failed
      "Last IOU as given by the Pathfinding Service is invalid (signature does not match)") :=
  ⟨by decide, updateIou_sign toyFormats_lawful storedIou [1] 100 none (by decide)⟩

/-- A service that hands out the same IOU to everybody. -/
def storedIouService : PathFindingService Unit Unit where
  lastIou _ _ _ _ := .ok (some (storedIou.asJson toyFormats))
  postPaths s _ _ := (s, .paths ())
  getInfo _ := .ok toyRequest.pfsConfig.info

def storedQuery : Query where
  pfsConfig := toyRequest.pfsConfig
  currentBlockNumber := 1
  tokenNetworkAddress := 4
  routeFrom := 1
  routeTo := 5
  value := 10
  pfsWaitForBlock := 5

/-- The service reaches the block 5 with its second answer. -/
theorem query_with_stored_iou_fails : 0 < storedQuery.pfsConfig.info.price ∧
    queryPaths toyFormats storedIouService toyClient storedQuery [.ok ⟨100, 3, 4⟩, .ok ⟨100, 3, 5⟩] () =
      some ⟨.error (.serviceRequestFailed "'expiration_block'"), storedQuery.pfsConfig, ()⟩ :=
  ⟨by decide, queryPaths_of_stored toyFormats_lawful storedIouService toyClient storedQuery _ () storedIou
    (by decide) rfl⟩

end Raiden.Pathfinding
