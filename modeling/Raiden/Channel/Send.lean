import Raiden.Channel.Validate

/-! # Sending and registering

The operations that change a channel on behalf of a payment: sending a locked
transfer, an unlock or an expiration, and registering a secret. An operation
whose assertions fail raises; otherwise it returns the changed channel together
with the message to send. -/
namespace Raiden.Channel

open Lib

variable (P : Primitives)

/-! ## Updates of one end -/

section EndState

variable (e : NettingChannelEndState)

/-- A transfer of this end: the new balance proof and one more lock. -/
def addLock (balanceProof : BalanceProofState) (locks : List EncodedData)
    (lock : HashTimeLockState) : NettingChannelEndState :=
  { e with
    balanceProof := some balanceProof
    nonce := balanceProof.data.nonce
    pendingLocks := locks
    secrethashesToLockedlocks := e.secrethashesToLockedlocks.set lock.secrethash lock }

def delUnclaimedLock (secrethash : SecretHash) : NettingChannelEndState :=
  { e with
    secrethashesToLockedlocks := e.secrethashesToLockedlocks.del secrethash
    secrethashesToUnlockedlocks := e.secrethashesToUnlockedlocks.del secrethash }

/-- Remove a lock from the three maps, but not from the list of pending locks. -/
def dropLock (secrethash : SecretHash) : NettingChannelEndState :=
  { delUnclaimedLock e secrethash with
    secrethashesToOnchainUnlockedlocks := e.secrethashesToOnchainUnlockedlocks.del secrethash }

def delLock (secrethash : SecretHash) : Fallible NettingChannelEndState := do
  assert (isLockPending e secrethash) "Lock must be pending"
  return dropLock e secrethash

/-- A new balance proof with the list of pending locks it commits to. -/
def setBalanceProof (balanceProof : BalanceProofState) (locks : List EncodedData) :
    NettingChannelEndState :=
  { e with
    balanceProof := some balanceProof
    nonce := balanceProof.data.nonce
    pendingLocks := locks }

def registerSecretEndstate (secret : Secret) (secrethash : SecretHash) : NettingChannelEndState :=
  match e.secrethashesToLockedlocks.get? secrethash with
  | none => e
  | some pendingLock =>
    { e with
      secrethashesToLockedlocks := e.secrethashesToLockedlocks.del secrethash
      secrethashesToUnlockedlocks :=
        e.secrethashesToUnlockedlocks.set secrethash ⟨pendingLock, secret⟩ }

/-- The secret is ignored when it was registered after the lock expired. -/
def registerOnchainSecretEndstate (secret : Secret) (secrethash : SecretHash)
    (secretRevealBlockNumber : Nat) : Fallible NettingChannelEndState :=
  -- an entry in the map of unlocked locks takes precedence
  match ((e.secrethashesToUnlockedlocks.get? secrethash).map UnlockPartialProofState.lock).or
      (e.secrethashesToLockedlocks.get? secrethash) with
  | none => .ok e
  | some pendingLock =>
    if pendingLock.expiration < secretRevealBlockNumber then .ok e
    else do
      let e ← delLock e secrethash
      return { e with
        secrethashesToOnchainUnlockedlocks :=
          e.secrethashesToOnchainUnlockedlocks.set secrethash ⟨pendingLock, secret⟩ }

end EndState

/-! ## Secrets -/

variable (c : NettingChannelState)

def registerOffchainSecret (secret : Secret) (secrethash : SecretHash) : NettingChannelState :=
  { c with
    ourState := registerSecretEndstate c.ourState secret secrethash
    partnerState := registerSecretEndstate c.partnerState secret secrethash }

def registerOnchainSecret (secret : Secret) (secrethash : SecretHash)
    (secretRevealBlockNumber : Nat) : Fallible NettingChannelState := do
  let ourState ← registerOnchainSecretEndstate c.ourState secret secrethash secretRevealBlockNumber
  let partnerState ←
    registerOnchainSecretEndstate c.partnerState secret secrethash secretRevealBlockNumber
  return { c with ourState, partnerState }

/-! ## Locked transfers -/

/-- The arguments of `send_lockedtransfer` after the channel. -/
structure LockedTransferArguments where
  initiator : Address
  target : Address
  amount : Int
  messageIdentifier : MessageID
  paymentIdentifier : PaymentID
  expiration : Nat
  secret : Option Secret
  secrethash : SecretHash
  routeStates : List RouteState
  recipientMetadata : Option AddressMetadata := none
  previousMetadata : Option String := none

def createSendlockedtransfer (a : LockedTransferArguments) :
    Fallible (SendLockedTransfer × List EncodedData) := do
  assert (a.amount ≤ getDistributable P c.ourState c.partnerState)
    "caller must make sure there is enough balance"
  assert (getStatus c = .opened) "caller must make sure the channel is open"
  let lock ← HashTimeLockState.create a.amount a.expiration a.secrethash
  let some pendingLocks := computeLocksWith c.ourState.pendingLocks lock
    | throw (.assertionError "lock is already registered")
  let transferredAmount := c.ourState.transferredAmount
  assert (transferredAmount + a.amount ≤ uint256Max) "caller must make sure the result wont overflow"
  let balanceProof ← BalanceProofUnsignedState.create (getNextNonce c.ourState) transferredAmount
    (getAmountLocked c.ourState + a.amount) (computeLocksroot P pendingLocks) c.canonicalIdentifier
  check (balanceProof.locksroot ≠ locksrootOfNoLocks P) (.valueError "balance_proof must not be empty")
  let recipient := c.partnerState.address
  return ({
    recipient
    recipientMetadata := a.recipientMetadata.or (getAddressMetadata recipient a.routeStates)
    canonicalIdentifier := c.canonicalIdentifier
    messageIdentifier := a.messageIdentifier
    transfer := {
      paymentIdentifier := a.paymentIdentifier
      token := c.tokenAddress
      lock, balanceProof
      initiator := a.initiator
      target := a.target
      routeStates := a.routeStates
      metadata := a.previousMetadata
      secret := a.secret } }, pendingLocks)

def sendLockedtransfer (a : LockedTransferArguments) :
    Fallible (NettingChannelState × SendLockedTransfer) := do
  let (event, pendingLocks) ← createSendlockedtransfer P c a
  let transfer := event.transfer
  return ({ c with
    ourState := addLock c.ourState (.unsigned transfer.balanceProof) pendingLocks transfer.lock }, event)

/-! ## Unlocks -/

def createUnlock (messageIdentifier : MessageID)
    (paymentIdentifier : PaymentID) (secret : Secret) (lock : HashTimeLockState) (blockNumber : Nat)
    (recipientMetadata : Option AddressMetadata) : Fallible (SendUnlock × List EncodedData) := do
  assert (isLockPending c.ourState lock.secrethash) "caller must make sure the lock is known"
  assert (getStatus c = .opened) "caller must make sure the channel is open"
  let expired := isLockExpired c.ourState lock blockNumber lock.expiration
  assert (expired.isOk = false) "caller must make sure the lock is not expired"
  let some ourBalanceProof := c.ourState.balanceProof
    | throw (.assertionError "the lock is pending, it must be in the pending locks")
  let transferredAmount := lock.amount + ourBalanceProof.data.transferredAmount
  let some pendingLocks := computeLocksWithout c.ourState.pendingLocks lock.encoded
    | throw (.assertionError "the lock is pending, it must be in the pending locks")
  let balanceProof ← BalanceProofUnsignedState.create (getNextNonce c.ourState) transferredAmount
    (getAmountLocked c.ourState - lock.amount) (computeLocksroot P pendingLocks)
    c.canonicalIdentifier
  return ({
    recipient := c.partnerState.address
    recipientMetadata
    canonicalIdentifier := c.canonicalIdentifier
    messageIdentifier, paymentIdentifier
    tokenAddress := c.tokenAddress
    balanceProof, secret }, pendingLocks)

def sendUnlock (messageIdentifier : MessageID)
    (paymentIdentifier : PaymentID) (secret : Secret) (secrethash : SecretHash) (blockNumber : Nat)
    (recipientMetadata : Option AddressMetadata) : Fallible (NettingChannelState × SendUnlock) := do
  let some lock := getLock c.ourState secrethash
    | throw (.assertionError "caller must ensure the lock exists")
  let (unlock, pendingLocks) ←
    createUnlock P c messageIdentifier paymentIdentifier secret lock blockNumber recipientMetadata
  let ourState ← delLock (setBalanceProof c.ourState (.unsigned unlock.balanceProof) pendingLocks)
    lock.secrethash
  return ({ c with ourState }, unlock)

/-! ## Lock expirations -/

/-- Nothing is sent for a lock that is not in the list of pending locks. -/
def createSendexpiredlock (lockedLock : HashTimeLockState)
    (recipientMetadata : Option AddressMetadata) :
    Handler (Option (SendLockExpired × List EncodedData)) := do
  let some balanceProof := c.ourState.balanceProof
    | throw (.assertionError "there should be a balance proof because a lock is expiring")
  match computeLocksWithout c.ourState.pendingLocks lockedLock.encoded with
  | none => return none
  | some pendingLocks =>
    let balanceProof ← BalanceProofUnsignedState.create (getNextNonce c.ourState)
      balanceProof.data.transferredAmount (getAmountLocked c.ourState - lockedLock.amount)
      (computeLocksroot P pendingLocks) c.canonicalIdentifier
    let messageIdentifier ← messageIdentifierFromPrng
    return some ({
      recipient := c.partnerState.address
      recipientMetadata
      canonicalIdentifier := balanceProof.canonicalIdentifier
      messageIdentifier, balanceProof
      secrethash := lockedLock.secrethash }, pendingLocks)

def sendLockExpired (lockedLock : HashTimeLockState)
    (recipientMetadata : Option AddressMetadata) :
    Handler (NettingChannelState × List Event) := do
  assert (getStatus c = .opened) "caller must make sure the channel is open"
  match ← createSendexpiredlock P c lockedLock recipientMetadata with
  | none => return (c, [])
  | some (message, pendingLocks) =>
    let ourState := setBalanceProof c.ourState (.unsigned message.balanceProof) pendingLocks
    return ({ c with ourState := delUnclaimedLock ourState lockedLock.secrethash },
      [.sendLockExpired message])

/-! ## What a returned result means -/

structure TransferSent (a : LockedTransferArguments)
    (bp : BalanceProofUnsignedState) (lock : HashTimeLockState) (locks : List EncodedData) : Prop where
  opened : getStatus c = .opened
  amount_le : (lock.amount : Int) ≤ getDistributable P c.ourState c.partnerState
  amount_eq : (lock.amount : Int) = a.amount
  expiration_eq : lock.expiration = a.expiration
  secrethash_eq : lock.secrethash = a.secrethash
  locks_eq : computeLocksWith c.ourState.pendingLocks lock = some locks
  nonce_eq : bp.nonce = getNextNonce c.ourState
  transferred_eq : bp.transferredAmount = c.ourState.transferredAmount
  locked_eq : bp.lockedAmount = getAmountLocked c.ourState + lock.amount
  locksroot_eq : bp.locksroot = computeLocksroot P locks
  identifier_eq : bp.canonicalIdentifier = c.canonicalIdentifier

theorem sendLockedtransfer_ok {c c' : NettingChannelState} {a : LockedTransferArguments}
    {event : SendLockedTransfer} (h : sendLockedtransfer P c a = .ok (c', event)) :
    ∃ locks, TransferSent P c a event.transfer.balanceProof event.transfer.lock locks ∧
      c' = { c with
        ourState := addLock c.ourState (.unsigned event.transfer.balanceProof) locks
          event.transfer.lock } := by
  simp only [sendLockedtransfer, createSendlockedtransfer, seq_ok_iff, assert_eq_ok, exists_const,
    pure_eq_ok] at h
  obtain ⟨⟨event', locks⟩, ⟨hamount, hopened, lock, hlock, h⟩, heq⟩ := h
  obtain ⟨rfl, rfl⟩ := heq
  cases hlocks : computeLocksWith c.ourState.pendingLocks lock with
  | none => rw [hlocks] at h; exact absurd h throw_ne_ok
  | some pending =>
    rw [hlocks] at h
    simp only [seq_ok_iff, assert_eq_ok, check_eq_ok, pure_eq_ok, exists_const, Prod.mk.injEq] at h
    obtain ⟨-, bp, hbp, -, rfl, rfl⟩ := h
    obtain ⟨hla, hle, hls⟩ := HashTimeLockState.create_ok hlock
    obtain ⟨hn, ht, hl, hr, hi⟩ := BalanceProofUnsignedState.create_ok hbp
    exact ⟨pending, ⟨hopened, hla ▸ hamount, hla, hle, hls, hlocks, hn, ht,
      by dsimp only; omega, hr, hi⟩, rfl⟩

structure UnlockSent (secrethash : SecretHash) (blockNumber : Nat)
    (bp : BalanceProofUnsignedState) (lock : HashTimeLockState) (locks : List EncodedData) : Prop where
  opened : getStatus c = .opened
  lock_eq : getLock c.ourState secrethash = some lock
  not_expired : (isLockExpired c.ourState lock blockNumber lock.expiration).isOk = false
  locks_eq : computeLocksWithout c.ourState.pendingLocks lock.encoded = some locks
  nonce_eq : bp.nonce = getNextNonce c.ourState
  transferred_eq : bp.transferredAmount = c.ourState.transferredAmount + lock.amount
  locked_eq : (bp.lockedAmount : Int) = getAmountLocked c.ourState - lock.amount
  locksroot_eq : bp.locksroot = computeLocksroot P locks
  identifier_eq : bp.canonicalIdentifier = c.canonicalIdentifier

theorem sendUnlock_ok {c c' : NettingChannelState} {messageIdentifier : MessageID}
    {pid : PaymentID} {secret : Secret} {hash : SecretHash} {bn : Nat}
    {metadata : Option AddressMetadata} {unlock : SendUnlock}
    (h : sendUnlock P c messageIdentifier pid secret hash bn metadata =
      .ok (c', unlock)) :
    unlock.recipient = c.partnerState.address ∧ unlock.secret = secret ∧
      ∃ lock locks, UnlockSent P c hash bn unlock.balanceProof lock locks ∧
      c' = { c with
        ourState := dropLock (setBalanceProof c.ourState (.unsigned unlock.balanceProof) locks)
          lock.secrethash } := by
  unfold sendUnlock at h
  cases hlock : getLock c.ourState hash with
  | none => rw [hlock] at h; exact absurd h throw_ne_ok
  | some lock =>
    rw [hlock] at h
    simp only [createUnlock, delLock, seq_ok_iff, assert_eq_ok, exists_const, pure_eq_ok] at h
    obtain ⟨⟨unlock', locks⟩, ⟨-, hopened, hexpired, h⟩, ourState, ⟨-, rfl⟩, heq⟩ := h
    obtain ⟨rfl, rfl⟩ := heq
    cases hbp : c.ourState.balanceProof with
    | none => rw [hbp] at h; exact absurd h throw_ne_ok
    | some ours =>
      rw [hbp] at h
      cases hlocks : computeLocksWithout c.ourState.pendingLocks lock.encoded with
      | none => rw [hlocks] at h; exact absurd h throw_ne_ok
      | some pending =>
        rw [hlocks] at h
        simp only [seq_ok_iff, pure_eq_ok, Prod.mk.injEq] at h
        obtain ⟨bp, hcreate, rfl, rfl⟩ := h
        obtain ⟨hn, ht, hl, hr, hi⟩ := BalanceProofUnsignedState.create_ok hcreate
        refine ⟨rfl, rfl, lock, pending, ⟨hopened, hlock, hexpired, hlocks, hn, ?_, hl, hr, hi⟩, rfl⟩
        rw [ht, NettingChannelEndState.transferredAmount, hbp, Option.elim_some, Nat.add_comm]

structure LockExpiredSent (bp : BalanceProofUnsignedState)
    (lock : HashTimeLockState) (locks : List EncodedData) : Prop where
  opened : getStatus c = .opened
  locks_eq : computeLocksWithout c.ourState.pendingLocks lock.encoded = some locks
  nonce_eq : bp.nonce = getNextNonce c.ourState
  transferred_eq : bp.transferredAmount = c.ourState.transferredAmount
  locked_eq : (bp.lockedAmount : Int) = getAmountLocked c.ourState - lock.amount
  locksroot_eq : bp.locksroot = computeLocksroot P locks
  identifier_eq : bp.canonicalIdentifier = c.canonicalIdentifier

private theorem createSendexpiredlock_ensures (lock : HashTimeLockState)
    (metadata : Option AddressMetadata) :
    Ensures (createSendexpiredlock P c lock metadata) fun created => ∀ sent, created = some sent →
      sent.1.recipient = c.partnerState.address ∧ sent.1.secrethash = lock.secrethash ∧
        (getStatus c = .opened → LockExpiredSent P c sent.1.balanceProof lock sent.2) := by
  unfold createSendexpiredlock
  cases hbp : c.ourState.balanceProof with
  | none => exact .throw
  | some ours =>
    cases hlocks : computeLocksWithout c.ourState.pendingLocks lock.encoded with
    | none => exact .pure nofun
    | some locks =>
      refine .bind (Ensures.lift fun bp hbp => BalanceProofUnsignedState.create_ok hbp) ?_
      rintro bp ⟨hn, ht, hl, hr, hi⟩
      refine .after fun _ => .pure ?_
      rintro _ ⟨⟩
      have htransferred : bp.transferredAmount = c.ourState.transferredAmount := by
        rw [ht, NettingChannelEndState.transferredAmount, hbp, Option.elim_some]
      exact ⟨rfl, rfl, fun hopened => ⟨hopened, hlocks, hn, htransferred, hl, hr, hi⟩⟩

theorem sendLockExpired_ensures (lock : HashTimeLockState)
    (metadata : Option AddressMetadata) :
    Ensures (sendLockExpired P c lock metadata) fun r => r = (c, []) ∨
      ∃ msg locks, LockExpiredSent P c msg.balanceProof lock locks ∧
        msg.recipient = c.partnerState.address ∧ msg.secrethash = lock.secrethash ∧
        r = ({ c with
            ourState := delUnclaimedLock
              (setBalanceProof c.ourState (.unsigned msg.balanceProof) locks) lock.secrethash },
          [.sendLockExpired msg]) := by
  refine .bind (Ensures.lift fun u hu => assert_eq_ok.mp hu) fun _ hopened => ?_
  refine .bind (createSendexpiredlock_ensures P c lock metadata) fun created hcreated => ?_
  cases created with
  | none => exact .pure (.inl rfl)
  | some sent =>
    obtain ⟨hrecipient, hsecrethash, hsent⟩ := hcreated sent rfl
    exact .pure (.inr ⟨sent.1, sent.2, hsent hopened, hrecipient, hsecrethash, rfl⟩)

end Raiden.Channel
