import Raiden.StateChange

/-! # Channel queries

Read-only functions on the ends of a channel: which locks are pending, the
balances derived from deposits, withdraws and balance proofs, the channel
status, and the list of pending locks behind a locksroot. -/
namespace Raiden.Channel

open Lib

variable (P : Primitives)

def locksrootOfNoLocks : Locksroot := P.keccak []

/-! ## Expirations -/

def getSafeInitialExpiration (blockNumber : Nat) (revealTimeout : Nat)
    (lockTimeout : Option Nat := none) : Nat :=
  match lockTimeout with
  -- a timeout of zero is not truthy
  | some (t + 1) => blockNumber + (t + 1) - 1
  | _ => blockNumber + revealTimeout * 2 - 1

def getSenderExpirationThreshold (expiration : Nat) : Nat :=
  expiration + defaultNumberOfBlockConfirmations * 2

def getReceiverExpirationThreshold (expiration : Nat) : Nat :=
  expiration + defaultNumberOfBlockConfirmations

def isWithdrawExpired (blockNumber : Nat) (expirationThreshold : Nat) : Bool :=
  expirationThreshold ≤ blockNumber

/-! ## Locks of one end -/

variable (e : NettingChannelEndState) (secrethash : SecretHash)

def isLockPending : Bool :=
  secrethash ∈ e.secrethashesToLockedlocks ∨ secrethash ∈ e.secrethashesToUnlockedlocks ∨
    secrethash ∈ e.secrethashesToOnchainUnlockedlocks

def isSecretKnown : Bool :=
  secrethash ∈ e.secrethashesToUnlockedlocks ∨ secrethash ∈ e.secrethashesToOnchainUnlockedlocks

def isSecretKnownOffchain : Bool := secrethash ∈ e.secrethashesToUnlockedlocks

def isSecretKnownOnchain : Bool := secrethash ∈ e.secrethashesToOnchainUnlockedlocks

def isLockExpired (lock : HashTimeLockState) (blockNumber : Nat)
    (lockExpirationThreshold : Nat) : SuccessOrError :=
  if lock.secrethash ∈ e.secrethashesToOnchainUnlockedlocks then
    .error "lock has been unlocked on-chain"
  else if blockNumber < lockExpirationThreshold then
    .error (s!"current block number ({blockNumber}) is not larger than " ++
      s!"lock.expiration + confirmation blocks ({lockExpirationThreshold})")
  else .ok ()

def getSecret : Option Secret :=
  ((e.secrethashesToUnlockedlocks.get? secrethash).or
    (e.secrethashesToOnchainUnlockedlocks.get? secrethash)).map UnlockPartialProofState.secret

def getLock : Option HashTimeLockState :=
  (e.secrethashesToLockedlocks.get? secrethash).or
    (((e.secrethashesToUnlockedlocks.get? secrethash).or
      (e.secrethashesToOnchainUnlockedlocks.get? secrethash)).map UnlockPartialProofState.lock)

def lockExistsInEitherChannelSide (c : NettingChannelState) : Bool :=
  ((getLock c.ourState secrethash).or (getLock c.partnerState secrethash)).isSome

def getNumberOfPendingTransfers : Nat := e.pendingLocks.length

def getNextNonce : Nat := e.nonce + 1

/-! ## Balances -/

def getAmountUnclaimedOnchain : Nat :=
  e.secrethashesToOnchainUnlockedlocks.sum fun u => u.lock.amount

def getAmountLocked : Nat :=
  e.secrethashesToLockedlocks.sum (fun lock => lock.amount) +
    e.secrethashesToUnlockedlocks.sum (fun u => u.lock.amount) + getAmountUnclaimedOnchain e

section

variable (sender receiver : NettingChannelEndState)

/-- The balance of `sender`, with or without its withdraws taken off. -/
def getBalanceWith (subtractWithdraws : Bool) : Int :=
  sender.contractBalance - (if subtractWithdraws then sender.totalWithdraw else 0) -
    sender.transferredAmount + receiver.transferredAmount

def getBalance : Int :=
  getBalanceWith sender receiver true

def getMaxWithdrawAmount : Int :=
  getBalanceWith sender receiver false

def getCapacity (c : NettingChannelState) : Int :=
  c.ourState.contractBalance - c.ourState.totalWithdraw + c.partnerState.contractBalance -
    c.partnerState.totalWithdraw

/-- What the code takes as the current balance proof. The locked amount is the
one of the lock maps, not the one the balance proof carries. -/
structure BalanceProofData where
  locksroot : Locksroot
  nonce : Nat
  transferredAmount : Nat
  lockedAmount : Nat

def getCurrentBalanceproof : BalanceProofData :=
  match e.balanceProof with
  | some bp => ⟨bp.data.locksroot, e.nonce, bp.data.transferredAmount, getAmountLocked e⟩
  | none => ⟨locksrootOfNoLocks P, 0, 0, 0⟩

def getDistributable : Int :=
  let current := getCurrentBalanceproof P sender
  let distributable := getBalance sender receiver - getAmountLocked sender
  let overflowLimit := max ((uint256Max : Int) - current.transferredAmount - current.lockedAmount) 0
  min overflowLimit distributable

end

/-- The amount is an integer: fee margins of a route may be negative. -/
def isValidAmount (amount : Int) : Bool :=
  let current := getCurrentBalanceproof P e
  (current.transferredAmount + current.lockedAmount + amount : Int) ≤ uint256Max

/-! ## Status -/

def TransactionExecutionStatus.status (t : TransactionExecutionStatus) (done running : ChannelState) :
    ChannelState :=
  if t.result = some .success then done
  else if t.finishedBlockNumber = none then running
  else .unusable

def getStatus (c : NettingChannelState) : ChannelState :=
  match c.settleTransaction, c.closeTransaction with
  | some settle, _ => TransactionExecutionStatus.status settle .settled .settling
  | none, some close => TransactionExecutionStatus.status close .closed .closing
  | none, none => .opened

inductive ChannelUsability where
  | usable
  | notOpened
  | invalidSettleTimeout
  | channelReachedPendingLimit
  | channelDoesntHaveEnoughDistributable
  | channelBalanceProofWouldOverflow
  | locktimeoutMismatch
deriving DecidableEq

def isChannelUsableForNewTransfer (c : NettingChannelState) (transferAmount : Int)
    (lockTimeout : Option Int) : ChannelUsability :=
  let lockTimeoutValid : Bool :=
    lockTimeout.all fun (t : Int) => t ≤ (c.settleTimeout : Int) ∧ (c.revealTimeout : Int) < t
  if getStatus c ≠ .opened then .notOpened
  else if c.settleTimeout < c.revealTimeout * 2 then .invalidSettleTimeout
  else if maximumPendingTransfers ≤ getNumberOfPendingTransfers c.ourState then
    .channelReachedPendingLimit
  else if getDistributable P c.ourState c.partnerState < transferAmount then
    .channelDoesntHaveEnoughDistributable
  else if isValidAmount P c.ourState transferAmount = false then .channelBalanceProofWouldOverflow
  else if lockTimeoutValid = false then .locktimeoutMismatch
  else .usable

def isChannelUsableForMediation (c : NettingChannelState) (transferAmount : Int)
    (lockTimeout : Int) : Bool :=
  isChannelUsableForNewTransfer P c transferAmount (some lockTimeout) = .usable

def isTransferExpired (transfer : LockedTransferSignedState) (affectedChannel : NettingChannelState)
    (blockNumber : Nat) : Bool :=
  (isLockExpired affectedChannel.ourState transfer.lock blockNumber
    (getSenderExpirationThreshold transfer.lock.expiration)).isOk

/-! ## The list of pending locks -/

/-- `none` tells the caller that the lock is already registered. -/
def computeLocksWith (locks : List EncodedData) (lock : HashTimeLockState) :
    Option (List EncodedData) :=
  if lock.encoded ∉ locks then some (locks ++ [lock.encoded]) else none

/-- `none` tells the caller that the lock is unknown. -/
def computeLocksWithout (locks : List EncodedData) (lockEncoded : EncodedData) :
    Option (List EncodedData) :=
  if lockEncoded ∈ locks then some (locks.erase lockEncoded) else none

def computeLocksroot (locks : List EncodedData) : Locksroot :=
  P.keccak (locks.flatMap (wordBytes (n := 96)))

end Raiden.Channel
