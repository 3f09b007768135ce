import Mathlib.Data.Stream.Defs
import Raiden.Lib.Dict
import Raiden.Lib.Exec

/-! # Basic types, constants and primitives

Fixed-width values are bit vectors, block numbers, nonces and unsigned amounts
are naturals, and everything that the code subtracts from (withdraws, fees and
balances) is an integer. Hash functions, public-key recovery, the checksum
spelling of addresses and one floating-point curve are parameters. -/
namespace Raiden

open Lib

abbrev Bytes := List UInt8
abbrev Address := BitVec 160
abbrev SecretHash := BitVec 256
abbrev EncodedData := BitVec 768

instance encodedData_lawfulBEq : LawfulBEq EncodedData := inferInstance

abbrev Secret := Bytes
abbrev Signature := Bytes
abbrev Locksroot := Bytes
abbrev BlockHash := Bytes
abbrev AdditionalHash := Bytes
abbrev ChainID := Nat
abbrev ChannelID := Nat
abbrev MessageID := Nat
abbrev PaymentID := Nat

/-- Transport metadata of an address; it is only handed on. -/
abbrev AddressMetadata := String

def uint64Max : Nat := 2 ^ 64 - 1
def uint256Max : Nat := 2 ^ 256 - 1
def maximumPendingTransfers : Nat := 160
def defaultNumberOfBlockConfirmations : Nat := 5
def absentSecret : Secret := []
def emptyAddress : Address := 0

def hexDigit (n : Nat) : Char :=
  if n < 10 then Char.ofNat (48 + n) else Char.ofNat (87 + n)

def encodeHex (bytes : Bytes) : String :=
  "0x" ++ String.ofList (bytes.flatMap fun b => [hexDigit (b.toNat / 16), hexDigit (b.toNat % 16)])

/-- The big-endian bytes of a word of `n` bytes. -/
def wordBytes {n : Nat} (w : BitVec (8 * n)) : Bytes :=
  (List.range n).map fun i => UInt8.ofBitVec (w.extractLsb' (8 * (n - 1 - i)) 8)

def toHex (hash : SecretHash) : String :=
  encodeHex (wordBytes (n := 32) hash)

structure CanonicalIdentifier where
  chainIdentifier : ChainID
  tokenNetworkAddress : Address
  channelIdentifier : ChannelID
deriving DecidableEq, Inhabited

def canonicalIdentifierUnorderedQueue : CanonicalIdentifier := ⟨0, emptyAddress, 0⟩

/-- The fields a signature is computed over, by kind of message. -/
inductive SignedData where
  | balanceProof (nonce : Nat) (transferredAmount lockedAmount : Nat)
      (locksroot : Locksroot) (additionalHash : AdditionalHash)
      (canonicalIdentifier : CanonicalIdentifier)
  | withdraw (canonicalIdentifier : CanonicalIdentifier) (participant : Address)
      (totalWithdraw : Int) (expirationBlock : Nat)

/-- Operations whose results the code only compares or hands on. -/
structure Primitives where
  keccak : Bytes → Bytes
  sha256Secrethash : Secret → SecretHash
  /-- `none` is a recovery that raised. -/
  recover : SignedData → Signature → Option Address
  toChecksumAddress : Address → String
  /-- The floating-point points of the imbalance curve for a positive capacity
  and a positive fee; `none` is an overflow of the power function. -/
  imbalanceCurve : Nat → Nat → Option (List (Nat × Int))

/-- An exception of the code, with its text where it has one. -/
inductive Raised where
  | assertionError (msg : String)
  | valueError (msg : String)
  | overflowError
  | keyError
  | indexError
  | zeroDivisionError
  | attributeError
  | undefinedMediationFee
  | runtimeError (msg : String)
deriving DecidableEq

/-- Code that may raise. -/
abbrev Fallible (α : Type) := Except Raised α

/-- The message identifiers the pseudo random generator will return. -/
abbrev Prng := Stream' MessageID

/-- Code that may raise and draws message identifiers. -/
abbrev Handler (α : Type) := Exec Prng Raised α

/-- Go on only if `p` holds. -/
def check (p : Prop) [Decidable p] (err : Raised) : Fallible Unit :=
  if p then .ok () else .error err

/-- A Python `assert`. -/
def assert (p : Prop) [Decidable p] (msg : String) : Fallible Unit :=
  check p (.assertionError msg)

variable {p : Prop} {err : Raised}

theorem check_eq_ok [Decidable p] {u : Unit} : check p err = .ok u ↔ p := by
  unfold check
  split <;> simp [*]

theorem assert_eq_ok [Decidable p] {msg : String} {u : Unit} :
    assert p msg = .ok u ↔ p := check_eq_ok

theorem check_eq_error [Decidable p] {err' : Raised} :
    check p err = .error err' ↔ ¬p ∧ err = err' := by
  unfold check
  split <;> simp [*]

theorem throw_ne_ok {α : Type} {a : α} : (throw err : Fallible α) ≠ .ok a := nofun

theorem pure_eq_ok {α : Type} {a b : α} : (pure a : Fallible α) = .ok b ↔ a = b := by
  simp [pure, Except.pure]

theorem ite_error_eq_ok {ε α : Type} [Decidable p] {err : ε} {x : Except ε α} {a : α} :
    (if p then .error err else x) = .ok a ↔ ¬p ∧ x = .ok a := by
  split <;> simp [*]

def messageIdentifierFromPrng : Handler MessageID := fun prng => .ok (prng.head, prng.tail)

/-- A validation result: either nothing to report or the reason of the rejection. -/
abbrev SuccessOrError := Except String Unit

end Raiden
