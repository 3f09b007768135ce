import Raiden.Channel.Send

/-! # Receiving transfers, refunds, unlocks and expirations

The handlers the payment tasks call for messages that carry a balance proof of
the partner. They validate the message and, if it is accepted, replace the
partner's balance proof, nonce and locks; nothing else changes. -/
namespace Raiden.Channel

open Lib

variable (P : Primitives)

/-- Whether the message was valid, the resulting events, and the reason if not. -/
structure EventsOrError where
  isValid : Bool
  events : List Event
  msg : Option String

/-- The acknowledgement of a message, sent outside the ordered queues. -/
def processed (recipient : Address) (recipientMetadata : Option AddressMetadata)
    (messageIdentifier : MessageID) : Event :=
  .sendProcessed {
    recipient, recipientMetadata, messageIdentifier
    canonicalIdentifier := canonicalIdentifierUnorderedQueue }

def handleRefundtransfer (receivedTransfer : LockedTransferUnsignedState) (c : NettingChannelState)
    (refund : ReceiveTransferRefund) : NettingChannelState × EventsOrError :=
  match isValidRefund P refund c c.partnerState c.ourState receivedTransfer with
  | .ok pendingLocks =>
    let balanceProof := refund.transfer.balanceProof
    let partnerState := addLock c.partnerState (.signed balanceProof) pendingLocks refund.transfer.lock
    let recipientMetadata := getAddressMetadata c.partnerState.address receivedTransfer.routeStates
    ({ c with partnerState }, {
      isValid := true
      events := [processed balanceProof.sender recipientMetadata refund.transfer.messageIdentifier]
      msg := some "" })
  | .error msg =>
    (c, {
      isValid := false
      events := [.eventInvalidReceivedTransferRefund receivedTransfer.paymentIdentifier msg]
      msg := some msg })

def handleReceiveLockExpired (c : NettingChannelState) (change : ReceiveLockExpired)
    (blockNumber : Nat) (recipientMetadata : Option AddressMetadata) :
    TransitionResult NettingChannelState :=
  match isValidLockExpired P change c c.partnerState c.ourState blockNumber with
  | .ok pendingLocks =>
    let partnerState := setBalanceProof c.partnerState (.signed change.balanceProof) pendingLocks
    ⟨{ c with partnerState := delUnclaimedLock partnerState change.secrethash },
      [processed change.balanceProof.sender recipientMetadata change.messageIdentifier]⟩
  | .error msg => ⟨c, [.eventInvalidReceivedLockExpired change.secrethash msg]⟩

def handleReceiveLockedtransfer (c : NettingChannelState)
    (mediatedTransfer : LockedTransferSignedState) (recipientMetadata : Option AddressMetadata) :
    NettingChannelState × EventsOrError :=
  match isValidLockedtransfer P mediatedTransfer c c.partnerState c.ourState with
  | .ok pendingLocks =>
    let balanceProof := mediatedTransfer.balanceProof
    let partnerState := addLock c.partnerState (.signed balanceProof) pendingLocks mediatedTransfer.lock
    ({ c with partnerState }, {
      isValid := true
      events := [processed balanceProof.sender recipientMetadata mediatedTransfer.messageIdentifier]
      msg := none })
  | .error msg =>
    (c, {
      isValid := false
      events := [.eventInvalidReceivedLockedTransfer mediatedTransfer.paymentIdentifier msg]
      msg := some msg })

def handleUnlock (c : NettingChannelState) (unlock : ReceiveUnlock)
    (recipientMetadata : Option AddressMetadata) : Fallible (NettingChannelState × EventsOrError) :=
  match isValidUnlock P unlock c c.partnerState with
  | .ok pendingLocks => do
    let partnerState ←
      delLock (setBalanceProof c.partnerState (.signed unlock.balanceProof) pendingLocks)
        (unlock.secrethash P)
    return ({ c with partnerState }, {
      isValid := true
      events := [processed unlock.balanceProof.sender recipientMetadata unlock.messageIdentifier]
      msg := none })
  | .error msg =>
    .ok (c, {
      isValid := false
      events := [.eventInvalidReceivedUnlock (unlock.secrethash P) msg]
      msg := some msg })

/-! ## What the handlers do -/

variable {c : NettingChannelState} {lock : HashTimeLockState}

theorem handleReceiveLockedtransfer_cases (tr : LockedTransferSignedState)
    (metadata : Option AddressMetadata) :
    (∃ msg, handleReceiveLockedtransfer P c tr metadata =
      (c, ⟨false, [.eventInvalidReceivedLockedTransfer tr.paymentIdentifier msg], some msg⟩)) ∨
    ∃ locks, LockedtransferAccepted P c c.partnerState c.ourState tr.balanceProof tr.lock
        locks ∧
      handleReceiveLockedtransfer P c tr metadata =
        ({ c with
          partnerState := addLock c.partnerState (.signed tr.balanceProof) locks tr.lock },
        ⟨true, [processed tr.balanceProof.sender metadata tr.messageIdentifier], none⟩) := by
  unfold handleReceiveLockedtransfer
  cases hv : isValidLockedtransfer P tr c c.partnerState c.ourState with
  | error msg => exact .inl ⟨msg, rfl⟩
  | ok locks => exact .inr ⟨locks, (validLockedtransferCheck_ok P).mp hv, rfl⟩

theorem handleRefundtransfer_cases (received : LockedTransferUnsignedState)
    (refund : ReceiveTransferRefund) :
    (∃ msg, handleRefundtransfer P received c refund =
      (c, ⟨false, [.eventInvalidReceivedTransferRefund received.paymentIdentifier msg], some msg⟩)) ∨
    ∃ locks, LockedtransferAccepted P c c.partnerState c.ourState refund.transfer.balanceProof
        refund.transfer.lock locks ∧
      refundTransferMatchesTransfer refund.transfer received = true ∧
      handleRefundtransfer P received c refund =
        ({ c with
          partnerState := addLock c.partnerState (.signed refund.transfer.balanceProof) locks
            refund.transfer.lock },
        ⟨true, [processed refund.transfer.balanceProof.sender
          (getAddressMetadata c.partnerState.address received.routeStates)
          refund.transfer.messageIdentifier], some ""⟩) := by
  unfold handleRefundtransfer
  cases hv : isValidRefund P refund c c.partnerState c.ourState received with
  | error msg => exact .inl ⟨msg, rfl⟩
  | ok locks =>
    obtain ⟨haccepted, hmatches⟩ := (isValidRefund_ok P).mp hv
    exact .inr ⟨locks, haccepted, hmatches, rfl⟩

theorem handleReceiveLockExpired_cases (sc : ReceiveLockExpired) (bn : Nat)
    (metadata : Option AddressMetadata) :
    (∃ msg, handleReceiveLockExpired P c sc bn metadata =
      ⟨c, [.eventInvalidReceivedLockExpired sc.secrethash msg]⟩) ∨
    ∃ lock locks, LockExpiredAccepted P sc c c.partnerState c.ourState bn lock locks ∧
      handleReceiveLockExpired P c sc bn metadata =
        ⟨{ c with
          partnerState := delUnclaimedLock
            (setBalanceProof c.partnerState (.signed sc.balanceProof) locks) sc.secrethash },
        [processed sc.balanceProof.sender metadata sc.messageIdentifier]⟩ := by
  unfold handleReceiveLockExpired
  cases hv : isValidLockExpired P sc c c.partnerState c.ourState bn with
  | error msg => exact .inl ⟨msg, rfl⟩
  | ok locks =>
    obtain ⟨lock, haccepted⟩ := (isValidLockExpired_ok P).mp hv
    exact .inr ⟨lock, locks, haccepted, rfl⟩

theorem isLockPending_of_getLock {e : NettingChannelEndState} {hash : SecretHash}
    (h : getLock e hash = some lock) : isLockPending e hash = true := by
  simp only [isLockPending, decide_eq_true_iff, Dict.mem_iff]
  simp only [getLock, Option.or_eq_some_iff, Option.map_eq_some_iff] at h
  rcases h with h | ⟨-, u, hu | ⟨-, hu⟩, -⟩
  · exact .inl ⟨lock, h⟩
  · exact .inr (.inl ⟨u, hu⟩)
  · exact .inr (.inr ⟨u, hu⟩)

theorem handleUnlock_of_accepted {unlock : ReceiveUnlock}
    {locks : List EncodedData} (h : UnlockAccepted P unlock c c.partnerState lock locks)
    (metadata : Option AddressMetadata) :
    handleUnlock P c unlock metadata =
      .ok ({ c with
        partnerState := dropLock
          (setBalanceProof c.partnerState (.signed unlock.balanceProof) locks) (unlock.secrethash P) },
      ⟨true, [processed unlock.balanceProof.sender metadata unlock.messageIdentifier], none⟩) := by
  have hvalid : isValidUnlock P unlock c c.partnerState = .ok locks := (isValidUnlock_ok P).mpr ⟨lock, h⟩
  have hpending : isLockPending (setBalanceProof c.partnerState (.signed unlock.balanceProof) locks)
      (unlock.secrethash P) = true := isLockPending_of_getLock h.lock_eq
  simp only [handleUnlock, hvalid, delLock, assert, check, hpending, if_true]
  rfl

/-- An unlock is handled without raising: an accepted one has a pending lock. -/
theorem handleUnlock_cases (unlock : ReceiveUnlock) (metadata : Option AddressMetadata) :
    (∃ msg, handleUnlock P c unlock metadata =
      .ok (c, ⟨false, [.eventInvalidReceivedUnlock (unlock.secrethash P) msg], some msg⟩)) ∨
    ∃ lock locks, UnlockAccepted P unlock c c.partnerState lock locks ∧
      handleUnlock P c unlock metadata =
        .ok ({ c with
          partnerState := dropLock
            (setBalanceProof c.partnerState (.signed unlock.balanceProof) locks) (unlock.secrethash P) },
        ⟨true, [processed unlock.balanceProof.sender metadata unlock.messageIdentifier], none⟩) := by
  cases hv : isValidUnlock P unlock c c.partnerState with
  | error msg => exact .inl ⟨msg, by rw [handleUnlock, hv]⟩
  | ok locks =>
    obtain ⟨lock, haccepted⟩ := (isValidUnlock_ok P).mp hv
    exact .inr ⟨lock, locks, haccepted, handleUnlock_of_accepted P haccepted metadata⟩

end Raiden.Channel
