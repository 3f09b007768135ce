import Raiden.Channel.Query

/-! # Validation of received messages

The checks a message has to pass before a channel is changed, with the reason
of each rejection. A check that accepts a transfer, an unlock or an expiration
returns the list of pending locks after the message. Each check comes with the
lemma that says what its acceptance means. -/
namespace Raiden.Channel

open Lib

variable (P : Primitives) {locks : List EncodedData} {recv sender : NettingChannelEndState}
  {c : NettingChannelState} {total : Int}

/-! ## Balance proofs -/

def isValidSignature (data : SignedData) (signature : Signature) (senderAddress : Address) :
    SuccessOrError :=
  match P.recover data signature with
  | none => .error "Signature invalid, could not be recovered."
  | some signerAddress =>
    if senderAddress = signerAddress then .ok ()
    else .error "Signature was valid but the expected address does not match."

def isValidBalanceproofSignature (balanceProof : BalanceProofSignedState) (senderAddress : Address) :
    SuccessOrError :=
  isValidSignature P
    (.balanceProof balanceProof.nonce balanceProof.transferredAmount balanceProof.lockedAmount
      balanceProof.locksroot balanceProof.messageHash balanceProof.canonicalIdentifier)
    balanceProof.signature senderAddress

def isBalanceProofSafeForOnchainOperations (balanceProof : BalanceProofSignedState) : Bool :=
  balanceProof.transferredAmount + balanceProof.lockedAmount ≤ uint256Max

section

variable (received : BalanceProofSignedState) (c : NettingChannelState) (sender : NettingChannelEndState)

def isBalanceProofUsableOnchain : SuccessOrError :=
  let expectedNonce := getNextNonce sender
  let nonce := received.nonce
  let identifier := received.canonicalIdentifier
  if getStatus c ≠ .opened then .error "The channel is already closed."
  else if identifier.channelIdentifier ≠ c.identifier then
    let expected := c.identifier
    let got := identifier.channelIdentifier
    .error s!"channel_identifier does not match. expected: {expected} got: {got}."
  else if identifier.tokenNetworkAddress ≠ c.tokenNetworkAddress then
    let expected := P.toChecksumAddress c.tokenNetworkAddress
    let got := P.toChecksumAddress identifier.tokenNetworkAddress
    .error s!"token_network_address does not match. expected: {expected} got: {got}."
  else if identifier.chainIdentifier ≠ c.chainId then
    let expected := c.chainId
    let got := identifier.chainIdentifier
    .error s!"chain_id does not match channel's chain_id. expected: {expected} got: {got}."
  else if isBalanceProofSafeForOnchainOperations received = false then
    let result := received.transferredAmount + received.lockedAmount
    .error (s!"Balance proof total transferred amount would overflow onchain. " ++
      s!"max: {uint256Max} result would be: {result}")
  else if nonce ≠ expectedNonce then
    .error s!"Nonce did not change sequentially, expected: {expectedNonce} got: {nonce}."
  else isValidBalanceproofSignature P received sender.address

structure BalanceProofUsable : Prop where
  opened : getStatus c = .opened
  identifier : received.canonicalIdentifier = c.canonicalIdentifier
  safe : received.transferredAmount + received.lockedAmount ≤ uint256Max
  nonce : received.nonce = getNextNonce sender
  signature : isValidBalanceproofSignature P received sender.address = .ok ()

theorem isBalanceProofUsableOnchain_ok :
    isBalanceProofUsableOnchain P received c sender = .ok () ↔
      BalanceProofUsable P received c sender := by
  have hs : isBalanceProofSafeForOnchainOperations received = true ↔
      received.transferredAmount + received.lockedAmount ≤ uint256Max := decide_eq_true_iff
  simp only [isBalanceProofUsableOnchain, ite_error_eq_ok, not_not, ne_eq, Bool.not_eq_false, hs]
  constructor
  · rintro ⟨hopened, hchannel, hnetwork, hchain, hsafe, hnonce, hsignature⟩
    refine ⟨hopened, ?_, hsafe, hnonce, hsignature⟩
    rw [CanonicalIdentifier.mk.injEq]
    exact ⟨hchain, hnetwork, hchannel⟩
  · rintro ⟨hopened, hidentifier, hsafe, hnonce, hsignature⟩
    exact ⟨hopened, by rw [hidentifier]; rfl, by rw [hidentifier]; rfl, by rw [hidentifier]; rfl,
      hsafe, hnonce, hsignature⟩

end

/-! ## Transfers -/

def validLockedtransferCheck (c : NettingChannelState) (sender receiver : NettingChannelEndState)
    (messageName : String) (received : BalanceProofSignedState) (lock : HashTimeLockState) :
    Except String (List EncodedData) :=
  let current := getCurrentBalanceproof P sender
  let distributable := getDistributable P sender receiver
  let expectedTransferredAmount := current.transferredAmount
  let expectedLockedAmount := current.lockedAmount + lock.amount
  match isBalanceProofUsableOnchain P received c sender with
  | .error msg => .error s!"Invalid {messageName} message. {msg}"
  | .ok () =>
    match computeLocksWith sender.pendingLocks lock with
    | none => .error s!"Invalid {messageName} message. Same lock handled twice."
    | some pendingLocks =>
      let locksrootWithLock := computeLocksroot P pendingLocks
      if maximumPendingTransfers < pendingLocks.length then
        .error (s!"Invalid {messageName} message. Adding the transfer would exceed the allowed " ++
          s!"limit of {maximumPendingTransfers} pending transfers per channel.")
      else if received.locksroot ≠ locksrootWithLock then
        let expected := encodeHex locksrootWithLock
        let got := encodeHex received.locksroot
        .error (s!"Invalid {messageName} message. " ++
          s!"Balance proof's locksroot didn't match, expected: {expected} got: {got}.")
      else if received.transferredAmount ≠ expectedTransferredAmount then
        let got := received.transferredAmount
        .error (s!"Invalid {messageName} message. Balance proof's transferred_amount changed, " ++
          s!"expected: {expectedTransferredAmount} got: {got}.")
      else if received.lockedAmount ≠ expectedLockedAmount then
        let got := received.lockedAmount
        .error (s!"Invalid {messageName} message. Balance proof's locked_amount is invalid, " ++
          s!"expected: {expectedLockedAmount} got: {got}.")
      else if distributable < lock.amount then
        let amount := lock.amount
        .error (s!"Invalid {messageName} message. " ++
          "Lock amount larger than the available distributable, " ++
          s!"lock amount: {amount} maximum distributable: {distributable}")
      else .ok pendingLocks

def isValidLockedtransfer (transfer : LockedTransferSignedState) (c : NettingChannelState)
    (sender receiver : NettingChannelEndState) : Except String (List EncodedData) :=
  validLockedtransferCheck P c sender receiver "LockedTransfer" transfer.balanceProof transfer.lock

structure LockedtransferAccepted (c : NettingChannelState) (sender receiver : NettingChannelEndState)
    (received : BalanceProofSignedState) (lock : HashTimeLockState) (locks : List EncodedData) :
    Prop where
  usable : BalanceProofUsable P received c sender
  locks_eq : computeLocksWith sender.pendingLocks lock = some locks
  length_le : locks.length ≤ maximumPendingTransfers
  locksroot_eq : received.locksroot = computeLocksroot P locks
  transferred_eq : received.transferredAmount = (getCurrentBalanceproof P sender).transferredAmount
  locked_eq : received.lockedAmount = (getCurrentBalanceproof P sender).lockedAmount + lock.amount
  amount_le : (lock.amount : Int) ≤ getDistributable P sender receiver

theorem validLockedtransferCheck_ok {messageName : String} {received : BalanceProofSignedState}
    {lock : HashTimeLockState} :
    validLockedtransferCheck P c sender recv messageName received lock = .ok locks ↔
      LockedtransferAccepted P c sender recv received lock locks := by
  have hu := isBalanceProofUsableOnchain_ok P received c sender
  unfold validLockedtransferCheck
  cases husable : isBalanceProofUsableOnchain P received c sender with
  | error msg =>
    rw [husable] at hu
    exact ⟨nofun, fun h => nomatch hu.mpr h.usable⟩
  | ok _ =>
    cases hlocks : computeLocksWith sender.pendingLocks lock with
    | none => exact ⟨nofun, fun h => nomatch hlocks.symm.trans h.locks_eq⟩
    | some pending =>
      simp only [ite_error_eq_ok, ne_eq, not_not, Except.ok.injEq, Nat.not_lt, Int.not_lt]
      constructor
      · rintro ⟨hlength, hroot, htransferred, hlocked, hamount, rfl⟩
        exact ⟨hu.mp husable, hlocks, hlength, hroot, htransferred, hlocked, hamount⟩
      · intro h
        obtain rfl : pending = locks := by simpa [hlocks] using h.locks_eq
        exact ⟨h.length_le, h.locksroot_eq, h.transferred_eq, h.locked_eq, h.amount_le, rfl⟩

/-! ## Refunds -/

def refundTransferMatchesTransfer (refund : LockedTransferSignedState)
    (transfer : LockedTransferUnsignedState) : Bool :=
  -- a refund from the target is ignored
  refund.balanceProof.sender ≠ transfer.target ∧
    transfer.paymentIdentifier = refund.paymentIdentifier ∧
    transfer.lock.amount = refund.lock.amount ∧
    transfer.lock.secrethash = refund.lock.secrethash ∧
    transfer.target = refund.target ∧
    transfer.lock.expiration = refund.lock.expiration ∧
    transfer.token = refund.token

def isValidRefund (refund : ReceiveTransferRefund) (c : NettingChannelState)
    (sender receiver : NettingChannelEndState) (receivedTransfer : LockedTransferUnsignedState) :
    Except String (List EncodedData) :=
  match validLockedtransferCheck P c sender receiver "RefundTransfer" refund.transfer.balanceProof
      refund.transfer.lock with
  | .error msg => .error msg
  | .ok pendingLocks =>
    if refundTransferMatchesTransfer refund.transfer receivedTransfer = false then
      .error "Refund transfer did not match the received transfer"
    else .ok pendingLocks

theorem isValidRefund_ok {refund : ReceiveTransferRefund}
    {receivedTransfer : LockedTransferUnsignedState} :
    isValidRefund P refund c sender recv receivedTransfer = .ok locks ↔
      LockedtransferAccepted P c sender recv refund.transfer.balanceProof refund.transfer.lock
        locks ∧ refundTransferMatchesTransfer refund.transfer receivedTransfer = true := by
  have hcheck : validLockedtransferCheck P c sender recv "RefundTransfer"
      refund.transfer.balanceProof refund.transfer.lock = .ok locks ↔ _ :=
    validLockedtransferCheck_ok P
  unfold isValidRefund
  rw [← hcheck]
  cases validLockedtransferCheck P c sender recv "RefundTransfer" refund.transfer.balanceProof
      refund.transfer.lock with
  | error msg => exact ⟨nofun, nofun⟩
  | ok pending =>
    simp only [ite_error_eq_ok, Bool.not_eq_false]
    exact and_comm

/-! ## Lock expirations -/

/-- The lock an expiration message may remove: not one registered on-chain. -/
def getUnclaimedLock (e : NettingChannelEndState) (secrethash : SecretHash) :
    Option HashTimeLockState :=
  (e.secrethashesToLockedlocks.get? secrethash).or
    ((e.secrethashesToUnlockedlocks.get? secrethash).map UnlockPartialProofState.lock)

section

variable (change : ReceiveLockExpired) (c : NettingChannelState)
  (sender receiver : NettingChannelEndState) (blockNumber : Nat)

def isValidLockExpired : Except String (List EncodedData) :=
  let received := change.balanceProof
  let current := getCurrentBalanceproof P sender
  if change.secrethash ∈ c.partnerState.secrethashesToOnchainUnlockedlocks then
    .error "Invalid LockExpired message. Lock was unlocked on-chain."
  else
    match getUnclaimedLock c.partnerState change.secrethash with
    | none =>
      let hash := toHex change.secrethash
      .error s!"Invalid LockExpired message. Lock with secrethash {hash} is not known."
    | some lock =>
      let expectedTransferredAmount := current.transferredAmount
      let expectedLockedAmount : Int := current.lockedAmount - lock.amount
      match isBalanceProofUsableOnchain P received c sender with
      | .error msg => .error s!"Invalid LockExpired message. {msg}"
      | .ok () =>
        match computeLocksWithout sender.pendingLocks lock.encoded with
        | none => .error "Invalid LockExpired message. Same lock handled twice."
        | some pendingLocks =>
          let locksrootWithoutLock := computeLocksroot P pendingLocks
          match isLockExpired receiver lock blockNumber
              (getReceiverExpirationThreshold lock.expiration) with
          | .error msg => .error s!"Invalid LockExpired message. {msg}"
          | .ok () =>
            if received.locksroot ≠ locksrootWithoutLock then
              let expected := encodeHex locksrootWithoutLock
              let got := encodeHex received.locksroot
              .error ("Invalid LockExpired message. " ++
                s!"Balance proof's locksroot didn't match, expected: {expected} got: {got}.")
            else if received.transferredAmount ≠ expectedTransferredAmount then
              let got := received.transferredAmount
              .error ("Invalid LockExpired message. Balance proof's transferred_amount changed, " ++
                s!"expected: {expectedTransferredAmount} got: {got}.")
            else if (received.lockedAmount : Int) ≠ expectedLockedAmount then
              let got := received.lockedAmount
              .error ("Invalid LockExpired message. Balance proof's locked_amount is invalid, " ++
                s!"expected: {expectedLockedAmount} got: {got}.")
            else .ok pendingLocks

structure LockExpiredAccepted (lock : HashTimeLockState) (locks : List EncodedData) : Prop where
  not_onchain : change.secrethash ∉ c.partnerState.secrethashesToOnchainUnlockedlocks
  lock_eq : getUnclaimedLock c.partnerState change.secrethash = some lock
  usable : BalanceProofUsable P change.balanceProof c sender
  locks_eq : computeLocksWithout sender.pendingLocks lock.encoded = some locks
  expired : isLockExpired receiver lock blockNumber
    (getReceiverExpirationThreshold lock.expiration) = .ok ()
  locksroot_eq : change.balanceProof.locksroot = computeLocksroot P locks
  transferred_eq : change.balanceProof.transferredAmount =
    (getCurrentBalanceproof P sender).transferredAmount
  locked_eq : (change.balanceProof.lockedAmount : Int) =
    (getCurrentBalanceproof P sender).lockedAmount - lock.amount

end

theorem isValidLockExpired_ok {sc : ReceiveLockExpired} {bn : Nat} :
    isValidLockExpired P sc c sender recv bn = .ok locks ↔
      ∃ lock, LockExpiredAccepted P sc c sender recv bn lock locks := by
  have hu := isBalanceProofUsableOnchain_ok P sc.balanceProof c sender
  unfold isValidLockExpired
  by_cases honchain : sc.secrethash ∈ c.partnerState.secrethashesToOnchainUnlockedlocks
  · rw [if_pos honchain]
    exact ⟨nofun, fun ⟨_, h⟩ => absurd honchain h.not_onchain⟩
  rw [if_neg honchain]
  cases hlock : getUnclaimedLock c.partnerState sc.secrethash with
  | none => exact ⟨nofun, fun ⟨_, h⟩ => nomatch hlock.symm.trans h.lock_eq⟩
  | some lock =>
    have hsame : ∀ {lock'}, LockExpiredAccepted P sc c sender recv bn lock' locks →
        lock' = lock := fun h => Option.some.inj (h.lock_eq.symm.trans hlock)
    dsimp only
    cases husable : isBalanceProofUsableOnchain P sc.balanceProof c sender with
    | error msg =>
      rw [husable] at hu
      exact ⟨nofun, fun ⟨_, h⟩ => nomatch hu.mpr h.usable⟩
    | ok _ =>
      cases hlocks : computeLocksWithout sender.pendingLocks lock.encoded with
      | none =>
        exact ⟨nofun, fun ⟨_, h⟩ => by cases hsame h; exact nomatch hlocks.symm.trans h.locks_eq⟩
      | some pending =>
        cases hexpired : isLockExpired recv lock bn
            (getReceiverExpirationThreshold lock.expiration) with
        | error msg =>
          exact ⟨nofun, fun ⟨_, h⟩ => by cases hsame h; exact nomatch hexpired.symm.trans h.expired⟩
        | ok _ =>
          simp only [ite_error_eq_ok, ne_eq, not_not, Except.ok.injEq]
          constructor
          · rintro ⟨hroot, htransferred, hlocked, rfl⟩
            exact ⟨lock, honchain, hlock, hu.mp husable, hlocks, hexpired, hroot, htransferred, hlocked⟩
          · rintro ⟨_, h⟩
            cases hsame h
            obtain rfl : pending = locks := by simpa [hlocks] using h.locks_eq
            exact ⟨h.locksroot_eq, h.transferred_eq, h.locked_eq, rfl⟩

/-! ## Unlocks -/

section

variable (unlock : ReceiveUnlock) (c : NettingChannelState) (sender : NettingChannelEndState)

def isValidUnlock : Except String (List EncodedData) :=
  let received := unlock.balanceProof
  let current := getCurrentBalanceproof P sender
  match getLock sender (unlock.secrethash P) with
  | none =>
    let hash := toHex (unlock.secrethash P)
    .error s!"Invalid Unlock message. There is no corresponding lock for {hash}"
  | some lock =>
    match computeLocksWithout sender.pendingLocks lock.encoded with
    | none =>
      let encoded := encodeHex (wordBytes (n := 96) lock.encoded)
      .error s!"Invalid unlock message. The lock is unknown {encoded}"
    | some pendingLocks =>
      let locksrootWithoutLock := computeLocksroot P pendingLocks
      let expectedTransferredAmount := current.transferredAmount + lock.amount
      let expectedLockedAmount : Int := current.lockedAmount - lock.amount
      match isBalanceProofUsableOnchain P received c sender with
      | .error msg => .error s!"Invalid Unlock message. {msg}"
      | .ok () =>
        if received.locksroot ≠ locksrootWithoutLock then
          let expected := encodeHex locksrootWithoutLock
          let got := encodeHex received.locksroot
          .error ("Invalid Unlock message. " ++
            s!"Balance proof's locksroot didn't match, expected: {expected} got: {got}.")
        else if received.transferredAmount ≠ expectedTransferredAmount then
          let got := received.transferredAmount
          .error ("Invalid Unlock message. Balance proof's wrong transferred_amount, " ++
            s!"expected: {expectedTransferredAmount} got: {got}.")
        else if (received.lockedAmount : Int) ≠ expectedLockedAmount then
          let got := received.lockedAmount
          .error ("Invalid Unlock message. Balance proof's wrong locked_amount, " ++
            s!"expected: {expectedLockedAmount} got: {got}.")
        else .ok pendingLocks

structure UnlockAccepted (lock : HashTimeLockState) (locks : List EncodedData) : Prop where
  lock_eq : getLock sender (unlock.secrethash P) = some lock
  locks_eq : computeLocksWithout sender.pendingLocks lock.encoded = some locks
  usable : BalanceProofUsable P unlock.balanceProof c sender
  locksroot_eq : unlock.balanceProof.locksroot = computeLocksroot P locks
  transferred_eq : unlock.balanceProof.transferredAmount =
    (getCurrentBalanceproof P sender).transferredAmount + lock.amount
  locked_eq : (unlock.balanceProof.lockedAmount : Int) =
    (getCurrentBalanceproof P sender).lockedAmount - lock.amount

end

theorem isValidUnlock_ok {unlock : ReceiveUnlock} :
    isValidUnlock P unlock c sender = .ok locks ↔
      ∃ lock, UnlockAccepted P unlock c sender lock locks := by
  have hu := isBalanceProofUsableOnchain_ok P unlock.balanceProof c sender
  unfold isValidUnlock
  cases hlock : getLock sender (unlock.secrethash P) with
  | none => exact ⟨nofun, fun ⟨_, h⟩ => nomatch hlock.symm.trans h.lock_eq⟩
  | some lock =>
    have hsame : ∀ {lock'}, UnlockAccepted P unlock c sender lock' locks → lock' = lock :=
      fun h => Option.some.inj (h.lock_eq.symm.trans hlock)
    dsimp only
    cases hlocks : computeLocksWithout sender.pendingLocks lock.encoded with
    | none =>
      exact ⟨nofun, fun ⟨_, h⟩ => by cases hsame h; exact nomatch hlocks.symm.trans h.locks_eq⟩
    | some pending =>
      cases husable : isBalanceProofUsableOnchain P unlock.balanceProof c sender with
      | error msg =>
        rw [husable] at hu
        exact ⟨nofun, fun ⟨_, h⟩ => nomatch hu.mpr h.usable⟩
      | ok _ =>
        simp only [ite_error_eq_ok, ne_eq, not_not, Except.ok.injEq]
        constructor
        · rintro ⟨hroot, htransferred, hlocked, rfl⟩
          exact ⟨lock, hlock, hlocks, hu.mp husable, hroot, htransferred, hlocked⟩
        · rintro ⟨_, h⟩
          cases hsame h
          obtain rfl : pending = locks := by simpa [hlocks] using h.locks_eq
          exact ⟨h.locksroot_eq, h.transferred_eq, h.locked_eq, rfl⟩

/-! ## Withdraws -/

def isValidChannelTotalWithdraw (channelTotalWithdraw : Int) : Bool :=
  channelTotalWithdraw ≤ uint256Max

section

variable (c : NettingChannelState)

def isValidTotalWithdraw (ourTotalWithdraw : Int) (allowZero : Bool) : SuccessOrError :=
  let balance := getBalance c.ourState c.partnerState
  let withdrawAmount := ourTotalWithdraw - c.ourState.totalWithdraw
  if getStatus c ≠ .opened then .error "Invalid withdraw, the channel is not opened"
  else if withdrawAmount < 0 then .error s!"Total withdraw {ourTotalWithdraw} decreased"
  else if allowZero = false ∧ withdrawAmount = 0 then
    .error s!"Total withdraw {ourTotalWithdraw} did not increase"
  else if balance < withdrawAmount then
    .error s!"Insufficient balance: {balance}. Requested {withdrawAmount} for withdraw"
  else if isValidChannelTotalWithdraw (ourTotalWithdraw + c.partnerState.totalWithdraw) = false then
    .error s!"The new total_withdraw {ourTotalWithdraw} will cause an overflow"
  else .ok ()

def isValidActionCoopsettle (totalWithdraw : Int) : SuccessOrError :=
  match isValidTotalWithdraw c totalWithdraw true with
  | .error msg => .error msg
  | .ok () =>
    if 0 < getNumberOfPendingTransfers c.ourState then
      .error "Coop-Settle not allowed: We still have pending locks"
    else if 0 < getNumberOfPendingTransfers c.partnerState then
      .error "Coop-Settle not allowed: Partner still has pending locks"
    else if 0 < c.ourState.offchainTotalWithdraw then
      .error "Coop-Settle not allowed: We still have pending withdraws"
    else if 0 < c.partnerState.offchainTotalWithdraw then
      .error "Coop-Settle not allowed: Partner still has pending withdraws"
    else .ok ()

def isValidWithdrawRequest (request : ReceiveWithdrawRequest) : SuccessOrError :=
  let expectedNonce := getNextNonce c.partnerState
  let nonce := request.nonce
  let balance := getBalance c.partnerState c.ourState
  let totalWithdraw := request.totalWithdraw
  let withdrawAmount : Int := totalWithdraw - c.partnerState.totalWithdraw
  if c.canonicalIdentifier ≠ request.canonicalIdentifier then
    .error "Invalid canonical identifier provided in withdraw request"
  else if request.participant ≠ c.partnerState.address then
    .error "Invalid participant, it must be the partner address"
  else if request.sender ≠ c.partnerState.address then
    .error "Invalid sender, withdraw request must be sent by the partner."
  else if withdrawAmount < 0 then .error s!"Total withdraw {totalWithdraw} decreased"
  else if balance < withdrawAmount then
    .error s!"Insufficient balance: {balance}. Requested {withdrawAmount} for withdraw"
  else if nonce ≠ expectedNonce then
    .error s!"Nonce did not change sequentially, expected: {expectedNonce} got: {nonce}."
  else if isValidChannelTotalWithdraw (totalWithdraw + c.ourState.totalWithdraw) = false then
    .error s!"The new total_withdraw {totalWithdraw} will cause an overflow"
  else
    isValidSignature P
      (.withdraw request.canonicalIdentifier request.participant request.totalWithdraw
        request.expiration)
      request.signature request.sender

def getWithdrawExpiration (e : NettingChannelEndState) (totalWithdraw : Int) : Option Nat :=
  ((e.withdrawsPending.get? totalWithdraw).map PendingWithdrawState.expiration).or
    ((e.withdrawsExpired.find? fun w => w.totalWithdraw = totalWithdraw).map
      ExpiredWithdrawState.expiration)

def isValidWithdrawConfirmation (received : ReceiveWithdrawConfirmation) : SuccessOrError :=
  let expectedNonce := getNextNonce c.partnerState
  let nonce := received.nonce
  let totalWithdraw := received.totalWithdraw
  let ourTotalWithdraw := c.ourState.totalWithdraw
  match getWithdrawExpiration c.ourState totalWithdraw with
  | none =>
    .error s!"Received withdraw confirmation {totalWithdraw} was not found in withdraw states"
  | some withdrawExpiration =>
    if c.canonicalIdentifier ≠ received.canonicalIdentifier then
      .error "Invalid canonical identifier provided in withdraw request"
    else if (totalWithdraw : Int) ≠ ourTotalWithdraw then
      .error (s!"Total withdraw confirmation {totalWithdraw} " ++
        s!"does not match our total withdraw {ourTotalWithdraw}")
    else if nonce ≠ expectedNonce then
      .error s!"Nonce did not change sequentially, expected: {expectedNonce} got: {nonce}."
    else if received.expiration ≠ withdrawExpiration then
      let expiration := received.expiration
      .error (s!"Invalid expiration {expiration}, withdraw confirmation must use the same " ++
        "confirmation as the request, otherwise the signatures will not match on-chain.")
    else if received.participant ≠ c.ourState.address then
      let participant := P.toChecksumAddress received.participant
      let expected := P.toChecksumAddress c.ourState.address
      .error s!"Invalid participant {participant}, it must be the same as the sender address {expected}"
    else if received.sender ≠ c.partnerState.address then
      .error "Invalid sender, withdraw confirmation must be sent by the partner."
    else if isValidChannelTotalWithdraw (totalWithdraw + c.partnerState.totalWithdraw) = false then
      .error s!"The new total_withdraw {totalWithdraw} will cause an overflow"
    else
      isValidSignature P
        (.withdraw received.canonicalIdentifier received.participant received.totalWithdraw
          received.expiration)
        received.signature received.sender

def isValidWithdrawExpired (change : ReceiveWithdrawExpired)
    (withdraw : PendingWithdrawState) (blockNumber : Nat) : SuccessOrError :=
  let expectedNonce := getNextNonce c.partnerState
  let nonce := change.nonce
  let totalWithdraw := change.totalWithdraw
  if isWithdrawExpired blockNumber (getReceiverExpirationThreshold withdraw.expiration) = false then
    .error s!"WithdrawExpired for withdraw that has not yet expired {totalWithdraw}."
  else if c.canonicalIdentifier ≠ change.canonicalIdentifier then
    .error "Invalid canonical identifier provided in WithdrawExpired"
  else if change.sender ≠ c.partnerState.address then
    .error "Expired withdraw not from partner."
  else if (totalWithdraw : Int) ≠ withdraw.totalWithdraw then
    let localAmount := withdraw.totalWithdraw
    .error (s!"WithdrawExpired and local withdraw amounts do not match. Received {totalWithdraw}, " ++
      s!"local amount {localAmount}")
  else if nonce ≠ expectedNonce then
    .error s!"Nonce did not change sequentially, expected: {expectedNonce} got: {nonce}."
  else .ok ()

end

theorem isValidTotalWithdraw_ok {zero : Bool} (h : isValidTotalWithdraw c total zero = .ok ()) :
    getStatus c = .opened ∧ c.ourState.totalWithdraw ≤ total ∧
      total - c.ourState.totalWithdraw ≤ getBalance c.ourState c.partnerState := by
  simp only [isValidTotalWithdraw, ite_error_eq_ok, ne_eq, not_not, Int.not_lt] at h
  obtain ⟨hopened, hdecreased, -, hbalance, -⟩ := h
  exact ⟨hopened, by omega, hbalance⟩

theorem isValidActionCoopsettle_ok (h : isValidActionCoopsettle c total = .ok ()) :
    getStatus c = .opened ∧ c.ourState.totalWithdraw ≤ total ∧ c.ourState.pendingLocks = [] ∧
      c.partnerState.pendingLocks = [] := by
  unfold isValidActionCoopsettle at h
  cases ht : isValidTotalWithdraw c total true with
  | error msg => rw [ht] at h; cases h
  | ok _ =>
    rw [ht] at h
    obtain ⟨hopened, htotal, -⟩ := isValidTotalWithdraw_ok ht
    simp only [ite_error_eq_ok, Nat.not_lt, Nat.le_zero] at h
    exact ⟨hopened, htotal, List.length_eq_zero_iff.mp h.1, List.length_eq_zero_iff.mp h.2.1⟩

theorem isValidWithdrawRequest_ok {req : ReceiveWithdrawRequest}
    (h : isValidWithdrawRequest P c req = .ok ()) :
    c.partnerState.totalWithdraw ≤ req.totalWithdraw ∧ req.nonce = getNextNonce c.partnerState := by
  simp only [isValidWithdrawRequest, ite_error_eq_ok, ne_eq, not_not, Int.not_lt] at h
  obtain ⟨-, -, -, hdecreased, -, hnonce, -⟩ := h
  exact ⟨by omega, hnonce⟩

theorem isValidWithdrawConfirmation_ok {received : ReceiveWithdrawConfirmation}
    (h : isValidWithdrawConfirmation P c received = .ok ()) :
    received.nonce = getNextNonce c.partnerState := by
  unfold isValidWithdrawConfirmation at h
  cases hw : getWithdrawExpiration c.ourState received.totalWithdraw with
  | none => simp [hw] at h
  | some exp =>
    simp only [hw, ite_error_eq_ok, ne_eq, not_not] at h
    exact h.2.2.1

theorem isValidWithdrawExpired_ok {sc : ReceiveWithdrawExpired} {withdraw : PendingWithdrawState}
    {bn : Nat} (h : isValidWithdrawExpired c sc withdraw bn = .ok ()) :
    sc.nonce = getNextNonce c.partnerState ∧ (sc.totalWithdraw : Int) = withdraw.totalWithdraw := by
  simp only [isValidWithdrawExpired, ite_error_eq_ok, ne_eq, not_not] at h
  exact ⟨h.2.2.2.2.1, h.2.2.2.1⟩

end Raiden.Channel
