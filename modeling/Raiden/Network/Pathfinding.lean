import Raiden.Types

/-! # Paying the path finding service

Path queries are paid with IOUs: the service keeps the last one, and every query
offers an IOU over the amount of the last one plus the fee. The IOU crosses from
the client to the service and back as a JSON object. -/
namespace Raiden.Pathfinding

open Lib

abbrev PrivateKey := Bytes

structure SignedIou where
  sender : String
  receiver : String
  amount : Nat
  claimableUntil : Nat
  oneToNAddress : String
  chainId : ChainID
deriving DecidableEq

/-- The spellings of addresses and bytes and the signature of an IOU. The error
of a reader is the text of its exception. -/
structure Formats where
  toChecksumAddress : Address → String
  toCanonicalAddress : String → Except String Address
  decodeHex : String → Except String Bytes
  signOneToNIou : PrivateKey → SignedIou → Signature

/-- Addresses can be read back, and the signature is injective in its arguments. -/
structure Formats.Lawful (F : Formats) : Prop where
  canonical_checksum : ∀ address, F.toCanonicalAddress (F.toChecksumAddress address) = .ok address
  sign_injective : ∀ privkey privkey' iou iou', F.signOneToNIou privkey iou = F.signOneToNIou privkey' iou' →
    privkey = privkey' ∧ iou = iou'

inductive JsonValue where
  | string (value : String)
  | number (value : Nat)
deriving DecidableEq

abbrev JsonObject := Dict String JsonValue

inductive PfsException where
  | serviceRequestFailed (msg : String)
  | pfsReturnedError (msg : String) (errorCode : Nat)
  | serviceRequestIOURejected (msg : String) (errorCode : Nat)
  /-- A value of another type than the code expects; nothing catches it. -/
  | typeError
deriving DecidableEq

structure PFSInfo where
  price : Nat
  paymentAddress : Address
  confirmedBlockNumber : Nat

structure PFSConfig where
  info : PFSInfo
  maximumFee : Nat
  iouTimeout : Nat
  maxPaths : Nat

structure IOU where
  sender : Address
  receiver : Address
  oneToNAddress : Address
  amount : Nat
  expirationBlock : Nat
  chainId : ChainID
  signature : Option Signature := none
deriving DecidableEq

variable (F : Formats)

namespace IOU

/-- What the signature of an IOU is over, for a time it can be claimed until. -/
def signedData (iou : IOU) (claimableUntil : Nat) : SignedIou where
  sender := F.toChecksumAddress iou.sender
  receiver := F.toChecksumAddress iou.receiver
  amount := iou.amount
  claimableUntil
  oneToNAddress := F.toChecksumAddress iou.oneToNAddress
  chainId := iou.chainId

/-- A block takes 15 seconds. -/
def sign (iou : IOU) (privkey : PrivateKey) : IOU :=
  { iou with signature := some (F.signOneToNIou privkey (iou.signedData F (iou.expirationBlock * 15))) }

def asJson (iou : IOU) : JsonObject :=
  let data : JsonObject := ((((((Dict.empty.set "sender" (.string (F.toChecksumAddress iou.sender))).set
    "receiver" (.string (F.toChecksumAddress iou.receiver))).set
    "one_to_n_address" (.string (F.toChecksumAddress iou.oneToNAddress))).set
    "amount" (.number iou.amount)).set
    "claimable_until" (.number (iou.expirationBlock * 15))).set
    "chain_id" (.number iou.chainId))
  match iou.signature with
  | some signature => data.set "signature" (.string (encodeHex signature))
  | none => data

end IOU

/-! ## The last IOU -/

/-- An exception that `get_last_iou` reports as a failed request. -/
def failed (msg : String) : PfsException := .serviceRequestFailed msg

section

variable (data : JsonObject) (key : String)

/-- A lookup raises a `KeyError`, whose text is the key in quotes. -/
def field : Except PfsException JsonValue :=
  match data.get? key with
  | some value => .ok value
  | none => .error (failed s!"'{key}'")

def stringField : Except PfsException String := do
  match ← field data key with
  | .string value => return value
  | .number _ => throw .typeError

def numberField : Except PfsException Nat := do
  match ← field data key with
  | .number value => return value
  | .string _ => throw .typeError

def addressField : Except PfsException Address := do
  let text ← stringField data key
  (F.toCanonicalAddress text).mapError failed

end

/-- The answer of the service is `none` without a last IOU; its error is the
text of an exception of the request. -/
def getLastIou (answer : Except String (Option JsonObject)) : Except PfsException (Option IOU) := do
  match answer with
  | .error msg => throw (failed msg)
  | .ok none => return none
  | .ok (some data) =>
    let sender ← addressField F data "sender"
    let receiver ← addressField F data "receiver"
    let oneToNAddress ← addressField F data "one_to_n_address"
    let amount ← numberField data "amount"
    let expirationBlock ← numberField data "expiration_block"
    let chainId ← numberField data "chain_id"
    let signature ← stringField data "signature"
    let signature ← (F.decodeHex signature).mapError failed
    return some { sender, receiver, oneToNAddress, amount, expirationBlock, chainId, signature }

/-! ## The next IOU -/

/-- The node that asks. -/
structure Client where
  ourAddress : Address
  privkey : PrivateKey
  oneToNAddress : Address
  chainId : ChainID

def makeIou (pfsConfig : PFSConfig) (client : Client) (blockNumber offeredFee : Nat) : IOU :=
  IOU.sign F {
    sender := client.ourAddress
    receiver := pfsConfig.info.paymentAddress
    oneToNAddress := client.oneToNAddress
    amount := offeredFee
    expirationBlock := blockNumber + pfsConfig.iouTimeout
    chainId := client.chainId } client.privkey

def updateIou (iou : IOU) (privkey : PrivateKey) (addedAmount : Nat) (expirationBlock : Option Nat) :
    Except PfsException IOU := do
  let expectedSignature := F.signOneToNIou privkey (iou.signedData F iou.expirationBlock)
  if iou.signature ≠ some expectedSignature then
    throw (failed
      "Last IOU as given by the Pathfinding Service is invalid (signature does not match)")
  else
    let iou := { iou with amount := iou.amount + addedAmount }
    -- Python truth: an expiration of zero counts as none
    let iou := match expirationBlock with
      | none | some 0 => iou
      | some block => { iou with expirationBlock := block }
    return iou.sign F privkey

def createCurrentIou (answer : Except String (Option JsonObject)) (pfsConfig : PFSConfig)
    (client : Client) (blockNumber offeredFee : Nat) (scrapExistingIou : Bool) :
    Except PfsException IOU := do
  let latestIou ← if scrapExistingIou then pure none else getLastIou F answer
  match latestIou with
  | none => return makeIou F pfsConfig client blockNumber offeredFee
  | some latestIou => updateIou F latestIou client.privkey offeredFee none

/-! ## Path queries -/

def wrongIouRecipient : Nat := 2102
def iouExpiredTooEarly : Nat := 2103
def insufficientServicePayment : Nat := 2104
def iouAlreadyClaimed : Nat := 2105
def depositTooLow : Nat := 2107
def noRouteFound : Nat := 2201

def isIouRejected (errorCode : Nat) : Bool := 2100 ≤ errorCode ∧ errorCode < 2200

structure Payload where
  routeFrom : String
  routeTo : String
  value : Nat
  maxPaths : Nat
  iou : Option JsonObject := none

/-- The answer to a request for paths: paths, an error of the service, or the
text of an exception of the request. -/
inductive PathsResponse (ρ : Type) where
  | paths (result : ρ)
  | error (errorCode : Nat) (msg : String)
  | failed (msg : String)

/-- A service with the state `σ` that answers with paths of the type `ρ`. -/
structure PathFindingService (σ ρ : Type) where
  lastIou : σ → Address → Address → Address → Except String (Option JsonObject)
  postPaths : σ → Address → Payload → σ × PathsResponse ρ
  getInfo : σ → Except String PFSInfo

/-- What `_query_paths` is called with, apart from the client. -/
structure Query where
  pfsConfig : PFSConfig
  currentBlockNumber : Nat
  tokenNetworkAddress : Address
  routeFrom : Address
  routeTo : Address
  value : Nat
  pfsWaitForBlock : Nat

section Query

variable {σ ρ : Type} (service : PathFindingService σ ρ) (client : Client) (query : Query)

/-- The IOU of an attempt, which there is only for a positive fee. -/
def attemptIou (s : σ) (pfsConfig : PFSConfig) (offeredFee : Nat) (scrapExistingIou : Bool) :
    Except PfsException (Option IOU) :=
  if 0 < offeredFee then do
    let answer := service.lastIou s query.tokenNetworkAddress client.ourAddress pfsConfig.info.paymentAddress
    let iou ← createCurrentIou F answer pfsConfig client query.currentBlockNumber offeredFee scrapExistingIou
    return some iou
  else .ok none

/-- The payload of an attempt. -/
def request (iou : Option IOU) : Payload where
  routeFrom := F.toChecksumAddress query.routeFrom
  routeTo := F.toChecksumAddress query.routeTo
  value := query.value
  maxPaths := query.pfsConfig.maxPaths
  iou := iou.map (IOU.asJson F)

/-- The result of a query (`none` is no paths and no token), the configuration
and the service after it. -/
structure Queried (σ ρ : Type) where
  result : Except PfsException (Option ρ)
  pfsConfig : PFSConfig
  service : σ

/-- The attempts of a query, with the number of retries that are left. The
offered fee is the price from before the first attempt. -/
def queryAttempts (offeredFee : Nat) : Nat → PFSConfig → Bool → σ → Queried σ ρ
  | retries, pfsConfig, scrapExistingIou, s =>
    match attemptIou F service client query s pfsConfig offeredFee scrapExistingIou with
    | .error err => ⟨.error err, pfsConfig, s⟩
    | .ok iou =>
      match service.postPaths s query.tokenNetworkAddress (request F query iou) with
      | (s, .paths result) => ⟨.ok (some result), pfsConfig, s⟩
      | (s, .failed msg) => ⟨.error (.serviceRequestFailed msg), pfsConfig, s⟩
      | (s, .error code msg) =>
        if isIouRejected code = false then ⟨.error (.pfsReturnedError msg code), pfsConfig, s⟩
        else
          match retries with
          | 0 => ⟨.error (.serviceRequestIOURejected msg code), pfsConfig, s⟩
          | retries + 1 =>
            if code = wrongIouRecipient ∨ code = depositTooLow then
              ⟨.error (.serviceRequestIOURejected msg code), pfsConfig, s⟩
            else if code = iouAlreadyClaimed ∨ code = iouExpiredTooEarly then
              queryAttempts offeredFee retries pfsConfig true s
            else if code = insufficientServicePayment then
              match service.getInfo s with
              | .error _ => ⟨.error (.serviceRequestFailed
                  "Could not get updated fee information from Pathfinding Service."), pfsConfig, s⟩
              | .ok info =>
                if pfsConfig.maximumFee < info.price then
                  ⟨.error (.serviceRequestFailed "PFS fees too high."), pfsConfig, s⟩
                else if pfsConfig.info.price < info.price then
                  queryAttempts offeredFee retries { pfsConfig with info } scrapExistingIou s
                else queryAttempts offeredFee retries pfsConfig scrapExistingIou s
            else if code = noRouteFound then ⟨.ok none, pfsConfig, s⟩
            else queryAttempts offeredFee retries pfsConfig scrapExistingIou s

def maxPathsQueryAttempts : Nat := 2

/-- The query, once the service has reached the block to wait for. -/
def queryReached (s : σ) : Queried σ ρ :=
  queryAttempts F service client query query.pfsConfig.info.price (maxPathsQueryAttempts - 1)
    query.pfsConfig false s

/-- The loop that asks the service for its info until it has confirmed a block; `none` while
the answers so far leave it waiting. -/
def waitForBlock (block : Nat) : List (Except String PFSInfo) → Option (Except PfsException PFSInfo)
  | [] => none
  | .error msg :: _ => some (.error (.serviceRequestFailed msg))
  | .ok info :: infos => if info.confirmedBlockNumber < block then waitForBlock block infos else some (.ok info)

/-- The answers to the requests for the info come first, and `s` is the service after them. -/
def queryPaths (infos : List (Except String PFSInfo)) (s : σ) : Option (Queried σ ρ) :=
  (waitForBlock query.pfsWaitForBlock infos).map fun
    | .error err => ⟨.error err, query.pfsConfig, s⟩
    | .ok _ => queryReached F service client query s

end Query

end Raiden.Pathfinding
