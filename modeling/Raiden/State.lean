import Raiden.Types

/-! # The state objects

Locks, balance proofs, the two ends of a netting channel, transfers and the
payment states of the three roles. Objects whose constructor refuses some
values carry the accepted range as fields. Attributes that no modelled function
reads (the balance hash, the open transaction and the expired cooperative
settlements) are left out. -/
namespace Raiden

open Lib

/-! ## Locks and balance proofs -/

/-- A hash time lock; the bounds are those of its 96-byte encoding. -/
structure HashTimeLockState where
  amount : Nat
  expiration : Nat
  secrethash : SecretHash
  amount_le : amount ≤ uint256Max
  expiration_le : expiration ≤ uint256Max
deriving DecidableEq

def HashTimeLockState.create (amount : Int) (expiration : Nat) (secrethash : SecretHash) :
    Fallible HashTimeLockState :=
  if amount < 0 then .error (.valueError s!"amount {amount} needs to be positive")
  else if ha : amount.toNat ≤ uint256Max then
    if he : expiration ≤ uint256Max then .ok ⟨amount.toNat, expiration, secrethash, ha, he⟩
    else .error (.valueError s!"expiration {expiration} is too large")
  else .error (.valueError s!"amount {amount} is too large")

theorem HashTimeLockState.create_ok {amount : Int} {exp : Nat} {hash : SecretHash}
    {lock : HashTimeLockState} (h : HashTimeLockState.create amount exp hash = .ok lock) :
    (lock.amount : Int) = amount ∧ lock.expiration = exp ∧ lock.secrethash = hash := by
  unfold HashTimeLockState.create at h
  split_ifs at h with hneg ha he
  cases h
  exact ⟨Int.toNat_of_nonneg (by omega), rfl, rfl⟩

/-- Expiration, amount and secrethash, 32 bytes each. -/
def HashTimeLockState.encoded (lock : HashTimeLockState) : EncodedData :=
  BitVec.ofNat 256 lock.expiration ++ BitVec.ofNat 256 lock.amount ++ lock.secrethash

structure UnlockPartialProofState where
  lock : HashTimeLockState
  secret : Secret
deriving DecidableEq

/-- Balance proof of the local node, without the signature. -/
structure BalanceProofUnsignedState where
  nonce : Nat
  transferredAmount : Nat
  lockedAmount : Nat
  locksroot : Locksroot
  canonicalIdentifier : CanonicalIdentifier
  nonce_pos : 0 < nonce
  nonce_le : nonce ≤ uint64Max
  transferred_le : transferredAmount ≤ uint256Max
  locked_le : lockedAmount ≤ uint256Max
deriving DecidableEq

def BalanceProofUnsignedState.create (nonce : Nat) (transferredAmount : Nat)
    (lockedAmount : Int) (locksroot : Locksroot) (canonicalIdentifier : CanonicalIdentifier) :
    Fallible BalanceProofUnsignedState :=
  if hp : 0 < nonce then
    if hn : nonce ≤ uint64Max then
      if ht : transferredAmount ≤ uint256Max then
        if canonicalIdentifier.channelIdentifier ≤ uint256Max then
          -- the amounts are packed into 32 bytes each to compute the balance hash
          if lockedAmount < 0 then .error .overflowError
          else if hl : lockedAmount.toNat ≤ uint256Max then
            .ok ⟨nonce, transferredAmount, lockedAmount.toNat, locksroot, canonicalIdentifier,
              hp, hn, ht, hl⟩
          else .error .overflowError
        else .error (.valueError "channel id is invalid")
      else .error (.valueError "transferred_amount is too large")
    else .error (.valueError "nonce is too large")
  else .error (.valueError "nonce cannot be zero or negative")

theorem BalanceProofUnsignedState.create_ok {nonce transferredAmount : Nat} {lockedAmount : Int}
    {locksroot : Locksroot} {identifier : CanonicalIdentifier} {bp : BalanceProofUnsignedState}
    (h : BalanceProofUnsignedState.create nonce transferredAmount lockedAmount locksroot identifier =
      .ok bp) :
    bp.nonce = nonce ∧ bp.transferredAmount = transferredAmount ∧
      (bp.lockedAmount : Int) = lockedAmount ∧ bp.locksroot = locksroot ∧
      bp.canonicalIdentifier = identifier := by
  unfold BalanceProofUnsignedState.create at h
  split_ifs at h
  cases h
  exact ⟨rfl, rfl, Int.toNat_of_nonneg (by omega), rfl, rfl⟩

structure BalanceProofSignedState extends BalanceProofUnsignedState where
  messageHash : AdditionalHash
  signature : Signature
  sender : Address
deriving DecidableEq

inductive BalanceProofState where
  | unsigned (balanceProof : BalanceProofUnsignedState)
  | signed (balanceProof : BalanceProofSignedState)
deriving DecidableEq

def BalanceProofState.data : BalanceProofState → BalanceProofUnsignedState
  | .unsigned balanceProof => balanceProof
  | .signed balanceProof => balanceProof.toBalanceProofUnsignedState

/-! ## Channels -/

inductive TransactionResult where
  | success
  | failure
deriving DecidableEq

structure TransactionExecutionStatus where
  startedBlockNumber : Option Nat
  finishedBlockNumber : Option Nat
  result : Option TransactionResult
deriving DecidableEq

/-- Python truth of an optional block number: zero counts as absent. -/
def isSet (block : Option Nat) : Bool :=
  block.any (· ≠ 0)

inductive ChannelState where
  | closed
  | closing
  | opened
  | settled
  | settling
  | unusable
deriving DecidableEq

def channelStatesPriorToClosed : List ChannelState := [.opened, .closing]

structure PendingWithdrawState where
  totalWithdraw : Int
  expiration : Nat
  nonce : Nat
  recipientMetadata : Option AddressMetadata
deriving DecidableEq

structure ExpiredWithdrawState where
  totalWithdraw : Int
  expiration : Nat
  nonce : Nat
  recipientMetadata : Option AddressMetadata
deriving DecidableEq

structure CoopSettleState where
  totalWithdrawInitiator : Int
  totalWithdrawPartner : Int
  expiration : Nat
  partnerSignatureRequest : Option Signature := none
  partnerSignatureConfirmation : Option Signature := none
  transaction : Option TransactionExecutionStatus := none
deriving DecidableEq

/-- One of the two nodes of a channel. The three maps hold the locks whose
secret is unknown, known off-chain, and registered on-chain in time. -/
structure NettingChannelEndState where
  address : Address
  contractBalance : Nat
  onchainTotalWithdraw : Nat := 0
  withdrawsPending : Dict Int PendingWithdrawState := .empty
  initiatedCoopSettle : Option CoopSettleState := none
  withdrawsExpired : List ExpiredWithdrawState := []
  secrethashesToLockedlocks : Dict SecretHash HashTimeLockState := .empty
  secrethashesToUnlockedlocks : Dict SecretHash UnlockPartialProofState := .empty
  secrethashesToOnchainUnlockedlocks : Dict SecretHash UnlockPartialProofState := .empty
  balanceProof : Option BalanceProofState := none
  /-- Encodings of the pending locks, in order of insertion. -/
  pendingLocks : List EncodedData := []
  onchainLocksroot : Locksroot
  nonce : Nat := 0

namespace NettingChannelEndState

variable (e : NettingChannelEndState)

def offchainTotalWithdraw : Int :=
  e.withdrawsPending.keys.max?.getD 0

def totalWithdraw : Int :=
  max e.offchainTotalWithdraw (e.onchainTotalWithdraw : Int)

/-- Zero as long as there is no balance proof. -/
def transferredAmount : Nat :=
  e.balanceProof.elim 0 fun bp => bp.data.transferredAmount

end NettingChannelEndState

structure FeeScheduleState where
  capFees : Bool := true
  flat : Int := 0
  proportional : Nat := 0
  imbalancePenalty : Option (List (Nat × Int)) := none
deriving DecidableEq

structure NettingChannelState where
  canonicalIdentifier : CanonicalIdentifier
  tokenAddress : Address
  tokenNetworkRegistryAddress : Address
  revealTimeout : Nat
  settleTimeout : Nat
  feeSchedule : FeeScheduleState
  ourState : NettingChannelEndState
  partnerState : NettingChannelEndState
  closeTransaction : Option TransactionExecutionStatus := none
  settleTransaction : Option TransactionExecutionStatus := none
  updateTransaction : Option TransactionExecutionStatus := none

namespace NettingChannelState

variable (c : NettingChannelState)

def identifier : ChannelID := c.canonicalIdentifier.channelIdentifier

def tokenNetworkAddress : Address :=
  c.canonicalIdentifier.tokenNetworkAddress

def chainId : ChainID := c.canonicalIdentifier.chainIdentifier

end NettingChannelState

/-! ## Transfers and payments -/

/-- A possible route of a payment. -/
structure RouteState where
  route : List Address
  addressToMetadata : Dict Address AddressMetadata := .empty
  swaps : Dict Address Address := .empty
  estimatedFee : Int := 0
deriving DecidableEq

def RouteState.hopAfter (r : RouteState) (address : Address) : Option Address :=
  match r.route.dropWhile (· ≠ address) with
  | _ :: next :: _ => some next
  | _ => none

def getAddressMetadata (address : Address) (routeStates : List RouteState) :
    Option AddressMetadata :=
  routeStates.findSome? fun r => r.addressToMetadata.get? address

/-- A transfer created by the local node. -/
structure LockedTransferUnsignedState where
  paymentIdentifier : PaymentID
  token : Address
  lock : HashTimeLockState
  initiator : Address
  target : Address
  balanceProof : BalanceProofUnsignedState
  routeStates : List RouteState := []
  metadata : Option String := none
  secret : Option Secret := none
deriving DecidableEq

structure LockedTransferSignedState where
  paymentIdentifier : PaymentID
  token : Address
  lock : HashTimeLockState
  initiator : Address
  target : Address
  messageIdentifier : MessageID
  routeStates : List RouteState
  balanceProof : BalanceProofSignedState
  metadata : Option String := none
  secret : Option Secret := none

namespace LockedTransferSignedState

variable (t : LockedTransferSignedState)

def payerAddress : Address := t.balanceProof.sender

def payerAddressMetadata : Option AddressMetadata :=
  getAddressMetadata t.payerAddress t.routeStates

def initiatorAddressMetadata : Option AddressMetadata :=
  getAddressMetadata t.initiator t.routeStates

end LockedTransferSignedState

/-- Information about the next hop. -/
structure HopState where
  nodeAddress : Address
  channelIdentifier : ChannelID

structure TransferDescriptionWithSecretState where
  tokenNetworkRegistryAddress : Address
  paymentIdentifier : PaymentID
  amount : Nat
  tokenNetworkAddress : Address
  initiator : Address
  target : Address
  secret : Secret
  secrethash : SecretHash
  lockTimeout : Option Nat := none

inductive InitiatorTransferStatus where
  | transferPending
  | transferCancelled
  | transferExpired
  | transferSecretRevealed
deriving DecidableEq

structure InitiatorTransferState where
  route : RouteState
  transferDescription : TransferDescriptionWithSecretState
  channelIdentifier : ChannelID
  transfer : LockedTransferUnsignedState
  receivedSecretRequest : Bool := false
  transferState : InitiatorTransferStatus := .transferPending

/-- A payment of the initiator; refunds can give it several transfers. -/
structure InitiatorPaymentState where
  routes : List RouteState
  initiatorTransfers : Dict SecretHash InitiatorTransferState
  cancelledChannels : List ChannelID := []

inductive PayeeState where
  | payeePending
  | payeeSecretRevealed
  | payeeContractUnlock
  | payeeBalanceProof
  | payeeExpired
deriving DecidableEq

inductive PayerState where
  | payerPending
  | payerSecretRevealed
  | payerWaitingUnlock
  | payerWaitingSecretReveal
  | payerBalanceProof
  | payerExpired
deriving DecidableEq

/-- An incoming transfer and the outgoing one it funds. -/
structure MediationPairState where
  payerTransfer : LockedTransferSignedState
  payeeAddress : Address
  payeeTransfer : LockedTransferUnsignedState
  payerState : PayerState := .payerPending
  payeeState : PayeeState := .payeePending

def MediationPairState.payerAddress (pair : MediationPairState) : Address :=
  pair.payerTransfer.payerAddress

inductive WaitingStatus where
  | waiting
  | expired
deriving DecidableEq

structure WaitingTransferState where
  transfer : LockedTransferSignedState
  state : WaitingStatus := .waiting

structure MediatorTransferState where
  secrethash : SecretHash
  routes : List RouteState
  refundedChannels : List ChannelID := []
  secret : Option Secret := none
  transfersPair : List MediationPairState := []
  waitingTransfer : Option WaitingTransferState := none

inductive TargetStatus where
  | expired
  | offchainSecretReveal
  | onchainSecretReveal
  | onchainUnlock
  | secretRequest
deriving DecidableEq

structure TargetTransferState where
  fromHop : HopState
  transfer : LockedTransferSignedState
  secret : Option Secret := none
  state : TargetStatus := .secretRequest
  initiatorAddressMetadata : Option AddressMetadata := none

end Raiden
