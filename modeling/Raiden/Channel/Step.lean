import Raiden.Channel.Frame
import Raiden.Lib.Run

/-! # Steps of a channel

Everything that changes a channel: its own state changes, and the operations
that payment tasks call on it, each with the checks their callers make. `Step`
is one such operation that returned; `Step.cases` says once what it can do, and
the invariants of the following modules are derived from it. -/
namespace Raiden.Channel

open Lib

variable (P : Primitives) {bp : BalanceProofUnsignedState} {lock : HashTimeLockState}
  {locks : List EncodedData} {msgId : MessageID} {now : Nat} {c c' : NettingChannelState}

inductive ChannelOp where
  | stateChange (change : ChannelStateChange) (now : Nat) (bh : BlockHash)
  | sendLockedtransfer (arguments : LockedTransferArguments)
  | sendUnlock (msgId : MessageID) (paymentIdentifier : PaymentID) (secret : Secret)
      (hash : SecretHash) (now : Nat) (md : Option AddressMetadata)
  | sendLockExpired (hash : SecretHash) (now : Nat) (md : Option AddressMetadata)
  | registerOffchainSecret (secret : Secret) (hash : SecretHash)
  | registerOnchainSecret (secret : Secret) (hash : SecretHash) (secretRevealBlockNumber : Nat)
  | receiveLockedtransfer (transfer : LockedTransferSignedState) (md : Option AddressMetadata)
  | receiveRefundtransfer (received : LockedTransferUnsignedState) (refund : ReceiveTransferRefund)
  | receiveLockExpired (change : ReceiveLockExpired) (now : Nat)
      (md : Option AddressMetadata)
  | receiveUnlock (unlock : ReceiveUnlock) (md : Option AddressMetadata)

/-- Send the expiration of a lock of ours, if the callers' test says it expired. -/
def expireOwnLock (c : NettingChannelState) (hash : SecretHash) (now : Nat)
    (md : Option AddressMetadata) : Handler (NettingChannelState × List Event) :=
  match getUnclaimedLock c.ourState hash with
  | none => return (c, [])
  | some lock =>
    if (isLockExpired c.ourState lock now
        (getSenderExpirationThreshold lock.expiration)).isOk = true then
      sendLockExpired P c lock md
    else return (c, [])

/-- The channel an operation leaves (none if it is removed) and the events. -/
def ChannelOp.run (op : ChannelOp) (c : NettingChannelState) :
    Handler (TransitionResult (Option NettingChannelState)) :=
  match op with
  | .stateChange change now bh => stateTransition P c change now bh
  | .sendLockedtransfer arguments => do
    let (c, message) ← Channel.sendLockedtransfer P c arguments
    return ⟨some c, [.sendLockedTransfer message]⟩
  | .sendUnlock msgId paymentIdentifier secret hash now md => do
    let (c, message) ← Channel.sendUnlock P c msgId paymentIdentifier secret hash
      now md
    return ⟨some c, [.sendUnlock message]⟩
  | .sendLockExpired hash now md => do
    let (c, es) ← expireOwnLock P c hash now md
    return ⟨some c, es⟩
  | .registerOffchainSecret secret hash =>
    return ⟨some (Channel.registerOffchainSecret c secret hash), []⟩
  | .registerOnchainSecret secret hash secretRevealBlockNumber => do
    let c ← Channel.registerOnchainSecret c secret hash secretRevealBlockNumber
    return ⟨some c, []⟩
  | .receiveLockedtransfer transfer md =>
    let (c, result) := handleReceiveLockedtransfer P c transfer md
    return ⟨some c, result.events⟩
  | .receiveRefundtransfer received refund =>
    let (c, result) := handleRefundtransfer P received c refund
    return ⟨some c, result.events⟩
  | .receiveLockExpired change now md =>
    return kept (handleReceiveLockExpired P c change now md)
  | .receiveUnlock unlock md => do
    let (c, result) ← handleUnlock P c unlock md
    return ⟨some c, result.events⟩

/-- The operation of the label returned the channel `c'` and the events of the label. -/
def Step (c : NettingChannelState) (label : ChannelOp × List Event) (c' : NettingChannelState) : Prop :=
  ∃ prng prng', (label.1.run P c).run prng = .ok (⟨some c', label.2⟩, prng')

theorem Step.of_ensures {label : ChannelOp × List Event}
    {Q : TransitionResult (Option NettingChannelState) → Prop} (h : Step P c label c')
    (he : Ensures (label.1.run P c) Q) : Q ⟨some c', label.2⟩ := by
  obtain ⟨prng, prng', hrun⟩ := h
  exact he prng _ prng' hrun

/-- Execute an operation, for a generator that returns the given identifier;
`none` when it raises or removes the channel. -/
def ChannelOp.next (msgId : MessageID) (c : NettingChannelState) (op : ChannelOp) :
    Option NettingChannelState :=
  match (op.run P c).run (Stream'.const msgId) with
  | .ok (⟨some c', _⟩, _) => some c'
  | _ => none

theorem ChannelOp.next_step {op : ChannelOp} (h : op.next P msgId c = some c') :
    ∃ es, Step P c (op, es) c' := by
  unfold ChannelOp.next at h
  split at h
  · next next es prng hrun =>
    cases h
    exact ⟨es, _, prng, hrun⟩
  · cases h

section Exec

variable (G : NettingChannelState → ChannelOp → Prop) [∀ c op, Decidable (G c op)]

/-- Execute an operation that meets `G` and record what it sends. -/
def ChannelOp.record (msgId : MessageID) (c : NettingChannelState) (op : ChannelOp) :
    Option ((ChannelOp × List Event) × NettingChannelState) :=
  if ¬G c op then none else
  match (op.run P c).run (Stream'.const msgId) with
  | .ok (⟨some c', es⟩, _) => some ((op, es), c')
  | _ => none

variable {P G}

theorem ChannelOp.record_sound {op : ChannelOp} {label : ChannelOp × List Event}
    (h : op.record P G msgId c = some (label, c')) :
    label.1 = op ∧ G c label.1 ∧ Step P c label c' := by
  unfold ChannelOp.record at h
  split_ifs at h with hG
  split at h
  · next hrun =>
    cases h
    exact ⟨rfl, hG, _, _, hrun⟩
  · cases h

theorem ChannelOp.exists_run {ops : List ChannelOp}
    {p : List (ChannelOp × List Event) × NettingChannelState → Bool}
    (h : (execute (ChannelOp.record P G msgId) ops ([], c)).any p = true) :
    ∃ log c', Run (fun c label c' => G c label.1 ∧ Step P c label c') c log c' ∧ p (log, c') = true :=
  Run.execute (.start c) h fun _ _ _ _ hnext => (ChannelOp.record_sound hnext).2

end Exec

/-! ## What a lock operation does to one end -/

def IsLockedAmount (e : NettingChannelEndState) (n : Nat) : Prop :=
  n = getAmountLocked e ∨ e.balanceProof = none ∧ n = 0

theorem isLockedAmount_current (e : NettingChannelEndState) :
    IsLockedAmount e (getCurrentBalanceproof P e).lockedAmount := by
  unfold IsLockedAmount getCurrentBalanceproof
  cases e.balanceProof with
  | none => exact .inr ⟨rfl, rfl⟩
  | some bp => exact .inl rfl

theorem getCurrentBalanceproof_transferredAmount (e : NettingChannelEndState) :
    (getCurrentBalanceproof P e).transferredAmount = e.transferredAmount := by
  unfold getCurrentBalanceproof NettingChannelEndState.transferredAmount
  cases e.balanceProof with
  | none | some bp => rfl

structure LockAdded (e o : NettingChannelEndState) (bp : BalanceProofState)
    (lock : HashTimeLockState) (locks : List EncodedData) : Prop where
  locks_eq : computeLocksWith e.pendingLocks lock = some locks
  locksroot_eq : bp.data.locksroot = computeLocksroot P locks
  nonce_eq : bp.data.nonce = getNextNonce e
  transferred_eq : bp.data.transferredAmount = e.transferredAmount
  locked_eq : ∃ n, IsLockedAmount e n ∧ bp.data.lockedAmount = n + lock.amount
  amount_le : (lock.amount : Int) ≤ getDistributable P e o

structure LockUnlocked (e : NettingChannelEndState) (bp : BalanceProofState)
    (lock : HashTimeLockState) (locks : List EncodedData) (hash : SecretHash) : Prop where
  lock_eq : ∃ key, getLock e key = some lock ∧ (hash = key ∨ hash = lock.secrethash)
  locks_eq : computeLocksWithout e.pendingLocks lock.encoded = some locks
  locksroot_eq : bp.data.locksroot = computeLocksroot P locks
  nonce_eq : bp.data.nonce = getNextNonce e
  transferred_eq : bp.data.transferredAmount = e.transferredAmount + lock.amount
  locked_eq : ∃ n, IsLockedAmount e n ∧ (bp.data.lockedAmount : Int) = n - lock.amount

structure LockExpired (e : NettingChannelEndState) (bp : BalanceProofState)
    (lock : HashTimeLockState) (locks : List EncodedData) (hash : SecretHash) : Prop where
  lock_eq : ∃ key, getUnclaimedLock e key = some lock ∧ (hash = key ∨ hash = lock.secrethash)
  not_onchain : hash ∉ e.secrethashesToOnchainUnlockedlocks
  locks_eq : computeLocksWithout e.pendingLocks lock.encoded = some locks
  locksroot_eq : bp.data.locksroot = computeLocksroot P locks
  nonce_eq : bp.data.nonce = getNextNonce e
  transferred_eq : bp.data.transferredAmount = e.transferredAmount
  locked_eq : ∃ n, IsLockedAmount e n ∧ (bp.data.lockedAmount : Int) = n - lock.amount

/-- The ways in which a lock operation changes the end `e`, seen against the other
end `o`; a lock can be added only for the secrethash `added`. -/
inductive EndStep (added : Option SecretHash) (e o : NettingChannelEndState) :
    NettingChannelEndState → Prop
  | unchanged : EndStep added e o e
  | add {bp : BalanceProofState} {lock : HashTimeLockState} {locks : List EncodedData}
      (hadded : added = some lock.secrethash) (facts : LockAdded P e o bp lock locks) :
      EndStep added e o (addLock e bp locks lock)
  | unlock {bp : BalanceProofState} {lock : HashTimeLockState} {locks : List EncodedData}
      {hash : SecretHash} (facts : LockUnlocked P e bp lock locks hash) :
      EndStep added e o (dropLock (setBalanceProof e bp locks) hash)
  | expire {bp : BalanceProofState} {lock : HashTimeLockState} {locks : List EncodedData}
      {hash : SecretHash} (facts : LockExpired P e bp lock locks hash) :
      EndStep added e o (delUnclaimedLock (setBalanceProof e bp locks) hash)
  | register (secret : Secret) (hash : SecretHash) :
      EndStep added e o (registerSecretEndstate e secret hash)
  | registerOnchain {e' : NettingChannelEndState} {secret : Secret} {hash : SecretHash}
      {now : Nat} (h : registerOnchainSecretEndstate e secret hash now = .ok e') :
      EndStep added e o e'

/-- The secrethash of the lock an operation adds to our end. -/
def ChannelOp.addedByUs : ChannelOp → Option SecretHash
  | .sendLockedtransfer arguments => some arguments.secrethash
  | _ => none

def ChannelOp.addedByPartner (c : NettingChannelState) : ChannelOp → Option SecretHash
  | .receiveLockedtransfer transfer _ =>
    if (isValidLockedtransfer P transfer c c.partnerState c.ourState).isOk = true then
      some transfer.lock.secrethash
    else none
  | .receiveRefundtransfer received refund =>
    if (isValidRefund P refund c c.partnerState c.ourState received).isOk = true then
      some refund.transfer.lock.secrethash
    else none
  | _ => none

/-- A lock operation changes the ends only, each by an `EndStep`. -/
structure LockStep (c : NettingChannelState) (op : ChannelOp) (c' : NettingChannelState) : Prop where
  our : EndStep P op.addedByUs c.ourState c.partnerState c'.ourState
  partner : EndStep P (op.addedByPartner P c) c.partnerState c.ourState c'.partnerState
  rest : c' = { c with ourState := c'.ourState, partnerState := c'.partnerState }

section Facts

variable {P} {c : NettingChannelState} {sc : ReceiveLockExpired} {hash : SecretHash}
  {sender recv : NettingChannelEndState}

theorem TransferSent.added {a : LockedTransferArguments} (h : TransferSent P c a bp lock locks) :
    LockAdded P c.ourState c.partnerState (.unsigned bp) lock locks :=
  ⟨h.locks_eq, h.locksroot_eq, h.nonce_eq, h.transferred_eq, ⟨_, .inl rfl, h.locked_eq⟩, h.amount_le⟩

theorem LockedtransferAccepted.added
    {bp : BalanceProofSignedState} (h : LockedtransferAccepted P c sender recv bp lock locks) :
    LockAdded P sender recv (.signed bp) lock locks :=
  ⟨h.locks_eq, h.locksroot_eq, h.usable.nonce,
    h.transferred_eq.trans (getCurrentBalanceproof_transferredAmount P sender),
    ⟨_, isLockedAmount_current P sender, h.locked_eq⟩, h.amount_le⟩

theorem addedByPartner_receiveLockedtransfer {tr : LockedTransferSignedState}
    (md : Option AddressMetadata)
    (h : LockedtransferAccepted P c c.partnerState c.ourState tr.balanceProof tr.lock locks) :
    (ChannelOp.receiveLockedtransfer tr md).addedByPartner P c = some tr.lock.secrethash := by
  have hvalid : isValidLockedtransfer P tr c c.partnerState c.ourState = .ok locks :=
    (validLockedtransferCheck_ok P).mpr h
  rw [ChannelOp.addedByPartner, hvalid]
  rfl

theorem addedByPartner_receiveRefundtransfer {received : LockedTransferUnsignedState}
    {refund : ReceiveTransferRefund}
    (h : LockedtransferAccepted P c c.partnerState c.ourState refund.transfer.balanceProof
      refund.transfer.lock locks)
    (hmatches : refundTransferMatchesTransfer refund.transfer received = true) :
    (ChannelOp.receiveRefundtransfer received refund).addedByPartner P c =
      some refund.transfer.lock.secrethash := by
  have hvalid : isValidRefund P refund c c.partnerState c.ourState received = .ok locks :=
    (isValidRefund_ok P).mpr ⟨h, hmatches⟩
  rw [ChannelOp.addedByPartner, hvalid]
  rfl

theorem UnlockSent.unlocked (h : UnlockSent P c hash now bp lock locks) :
    LockUnlocked P c.ourState (.unsigned bp) lock locks lock.secrethash :=
  ⟨⟨hash, h.lock_eq, .inr rfl⟩, h.locks_eq, h.locksroot_eq, h.nonce_eq, h.transferred_eq,
    ⟨_, .inl rfl, h.locked_eq⟩⟩

theorem UnlockAccepted.unlocked {unlock : ReceiveUnlock}
    (h : UnlockAccepted P unlock c sender lock locks) :
    LockUnlocked P sender (.signed unlock.balanceProof) lock locks (unlock.secrethash P) :=
  ⟨⟨_, h.lock_eq, .inl rfl⟩, h.locks_eq, h.locksroot_eq, h.usable.nonce,
    h.transferred_eq.trans (by rw [getCurrentBalanceproof_transferredAmount]),
    ⟨_, isLockedAmount_current P sender, h.locked_eq⟩⟩

theorem LockExpiredAccepted.expired'
    (h : LockExpiredAccepted P sc c c.partnerState c.ourState now lock locks) :
    LockExpired P c.partnerState (.signed sc.balanceProof) lock locks sc.secrethash :=
  ⟨⟨_, h.lock_eq, .inl rfl⟩, h.not_onchain, h.locks_eq, h.locksroot_eq, h.usable.nonce,
    h.transferred_eq.trans (getCurrentBalanceproof_transferredAmount P _),
    ⟨_, isLockedAmount_current P _, h.locked_eq⟩⟩

theorem isLockExpired_ok {e : NettingChannelEndState} {threshold : Nat} :
    (isLockExpired e lock now threshold).isOk = true ↔
      lock.secrethash ∉ e.secrethashesToOnchainUnlockedlocks ∧ threshold ≤ now := by
  unfold isLockExpired
  split
  · next h => simp [h, Except.isOk, Except.toBool]
  · next h =>
    split
    · next hb => simp [h, Except.isOk, Except.toBool, hb]
    · next hb => simpa [h, Except.isOk, Except.toBool] using hb

theorem LockExpiredAccepted.due (h : LockExpiredAccepted P sc c sender recv now lock locks) :
    getReceiverExpirationThreshold lock.expiration ≤ now :=
  (isLockExpired_ok.mp (by rw [h.expired]; rfl)).2

theorem LockExpiredSent.expired (h : LockExpiredSent P c bp lock locks)
    (hlock : getUnclaimedLock c.ourState hash = some lock)
    (hexpired : lock.secrethash ∉ c.ourState.secrethashesToOnchainUnlockedlocks) :
    LockExpired P c.ourState (.unsigned bp) lock locks lock.secrethash :=
  ⟨⟨_, hlock, .inr rfl⟩, hexpired, h.locks_eq, h.locksroot_eq, h.nonce_eq, h.transferred_eq,
    ⟨_, .inl rfl, h.locked_eq⟩⟩

end Facts

/-! ## The start of a channel -/

/-- An end as the opening of a channel creates it, with any deposit. -/
structure FreshEnd (e : NettingChannelEndState) : Prop where
  locked : e.secrethashesToLockedlocks = Dict.empty
  unlocked : e.secrethashesToUnlockedlocks = Dict.empty
  onchain : e.secrethashesToOnchainUnlockedlocks = Dict.empty
  pendingLocks : e.pendingLocks = []
  balanceProof : e.balanceProof = none
  nonce : e.nonce = 0
  onchainWithdraw : e.onchainTotalWithdraw = 0
  withdrawsPending : e.withdrawsPending = Dict.empty
  withdrawsExpired : e.withdrawsExpired = []
  initiatedCoopSettle : e.initiatedCoopSettle = none

/-- A channel that was just opened. -/
structure Fresh (c : NettingChannelState) : Prop where
  our : FreshEnd c.ourState
  partner : FreshEnd c.partnerState
  close : c.closeTransaction = none
  settle : c.settleTransaction = none
  update : c.updateTransaction = none

/-! ## What an operation does -/

inductive LockNotice : ChannelOp → Event → Prop
  | transfer {transfer : LockedTransferSignedState} {md : Option AddressMetadata} {msg : String} :
      LockNotice (.receiveLockedtransfer transfer md)
        (.eventInvalidReceivedLockedTransfer transfer.paymentIdentifier msg)
  | refund {received : LockedTransferUnsignedState} {refund : ReceiveTransferRefund} {msg : String} :
      LockNotice (.receiveRefundtransfer received refund)
        (.eventInvalidReceivedTransferRefund received.paymentIdentifier msg)
  | expired {change : ReceiveLockExpired} {now : Nat} {md : Option AddressMetadata}
      {msg : String} :
      LockNotice (.receiveLockExpired change now md)
        (.eventInvalidReceivedLockExpired change.secrethash msg)
  | unlock {unlock : ReceiveUnlock} {md : Option AddressMetadata} {msg : String} :
      LockNotice (.receiveUnlock unlock md) (.eventInvalidReceivedUnlock (unlock.secrethash P) msg)

/-- What an operation returns. -/
inductive Outcome (c : NettingChannelState) :
    ChannelOp → TransitionResult (Option NettingChannelState) → Prop
  | handled {change : ChannelStateChange} {now : Nat} {bh : BlockHash}
      {r : TransitionResult (Option NettingChannelState)}
      (handled : Handled P c now bh change r)
      (sane : ∀ c', r.newState = some c' → sanityCheck P c' = .ok ()) :
      Outcome c (.stateChange change now bh) r
  | refused {op : ChannelOp} {event : Event} (notice : LockNotice P op event) : Outcome c op ⟨some c, [event]⟩
  | sentTransfer {arguments : LockedTransferArguments} {message : SendLockedTransfer}
      {locks : List EncodedData}
      (facts : TransferSent P c arguments message.transfer.balanceProof message.transfer.lock locks) :
      Outcome c (.sendLockedtransfer arguments)
        ⟨some { c with
            ourState := addLock c.ourState (.unsigned message.transfer.balanceProof) locks
              message.transfer.lock },
          [.sendLockedTransfer message]⟩
  | sentUnlock {msgId : MessageID} {paymentIdentifier : PaymentID} {secret : Secret}
      {hash : SecretHash} {now : Nat} {md : Option AddressMetadata}
      {message : SendUnlock} {lock : HashTimeLockState} {locks : List EncodedData}
      (facts : UnlockSent P c hash now message.balanceProof lock locks) :
      Outcome c (.sendUnlock msgId paymentIdentifier secret hash now md)
        ⟨some { c with
            ourState := dropLock (setBalanceProof c.ourState (.unsigned message.balanceProof) locks)
              lock.secrethash },
          [.sendUnlock message]⟩
  | unexpired {hash : SecretHash} {now : Nat} {md : Option AddressMetadata} :
      Outcome c (.sendLockExpired hash now md) ⟨some c, []⟩
  | sentExpired {hash : SecretHash} {now : Nat} {md : Option AddressMetadata}
      {message : SendLockExpired} {lock : HashTimeLockState} {locks : List EncodedData}
      (lock_eq : getUnclaimedLock c.ourState hash = some lock)
      (facts : LockExpired P c.ourState (.unsigned message.balanceProof) lock locks lock.secrethash) :
      Outcome c (.sendLockExpired hash now md)
        ⟨some { c with
            ourState := delUnclaimedLock
              (setBalanceProof c.ourState (.unsigned message.balanceProof) locks) lock.secrethash },
          [.sendLockExpired message]⟩
  | registered {secret : Secret} {hash : SecretHash} :
      Outcome c (.registerOffchainSecret secret hash)
        ⟨some (Channel.registerOffchainSecret c secret hash), []⟩
  | registeredOnchain {secret : Secret} {hash : SecretHash} {now : Nat}
      {our partner : NettingChannelEndState}
      (our_eq : registerOnchainSecretEndstate c.ourState secret hash now = .ok our)
      (partner_eq : registerOnchainSecretEndstate c.partnerState secret hash now = .ok partner) :
      Outcome c (.registerOnchainSecret secret hash now)
        ⟨some { c with ourState := our, partnerState := partner }, []⟩
  | receivedTransfer {transfer : LockedTransferSignedState} {md : Option AddressMetadata}
      {locks : List EncodedData}
      (facts : LockedtransferAccepted P c c.partnerState c.ourState transfer.balanceProof transfer.lock locks) :
      Outcome c (.receiveLockedtransfer transfer md)
        ⟨some { c with
            partnerState := addLock c.partnerState (.signed transfer.balanceProof) locks transfer.lock },
          [processed transfer.balanceProof.sender md transfer.messageIdentifier]⟩
  | receivedRefund {received : LockedTransferUnsignedState} {refund : ReceiveTransferRefund}
      {locks : List EncodedData}
      (facts : LockedtransferAccepted P c c.partnerState c.ourState refund.transfer.balanceProof
        refund.transfer.lock locks)
      (same : refundTransferMatchesTransfer refund.transfer received = true) :
      Outcome c (.receiveRefundtransfer received refund)
        ⟨some { c with
            partnerState := addLock c.partnerState (.signed refund.transfer.balanceProof) locks
              refund.transfer.lock },
          [processed refund.transfer.balanceProof.sender
            (getAddressMetadata c.partnerState.address received.routeStates)
            refund.transfer.messageIdentifier]⟩
  | receivedExpired {change : ReceiveLockExpired} {now : Nat} {md : Option AddressMetadata}
      {lock : HashTimeLockState} {locks : List EncodedData}
      (facts : LockExpiredAccepted P change c c.partnerState c.ourState now lock locks) :
      Outcome c (.receiveLockExpired change now md)
        ⟨some { c with
            partnerState := delUnclaimedLock
              (setBalanceProof c.partnerState (.signed change.balanceProof) locks) change.secrethash },
          [processed change.balanceProof.sender md change.messageIdentifier]⟩
  | receivedUnlock {unlock : ReceiveUnlock} {md : Option AddressMetadata}
      {lock : HashTimeLockState} {locks : List EncodedData}
      (facts : UnlockAccepted P unlock c c.partnerState lock locks) :
      Outcome c (.receiveUnlock unlock md)
        ⟨some { c with
            partnerState := dropLock
              (setBalanceProof c.partnerState (.signed unlock.balanceProof) locks) (unlock.secrethash P) },
          [processed unlock.balanceProof.sender md unlock.messageIdentifier]⟩

variable {P}

theorem expireOwnLock_cases (c : NettingChannelState) (hash : SecretHash)
    (now : Nat) (md : Option AddressMetadata) :
    Ensures (expireOwnLock P c hash now md) fun r => r = (c, []) ∨
      ∃ lock msg locks,
        (getUnclaimedLock c.ourState hash = some lock ∧
          getSenderExpirationThreshold lock.expiration ≤ now) ∧
        LockExpired P c.ourState (.unsigned msg.balanceProof) lock locks lock.secrethash ∧
        msg.secrethash = lock.secrethash ∧
        msg.balanceProof.canonicalIdentifier = c.canonicalIdentifier ∧
        r = ({ c with
            ourState := delUnclaimedLock
              (setBalanceProof c.ourState (.unsigned msg.balanceProof) locks) lock.secrethash },
          [.sendLockExpired msg]) := by
  unfold expireOwnLock
  cases hlock : getUnclaimedLock c.ourState hash with
  | none => exact .pure (.inl rfl)
  | some lock =>
    dsimp only
    split
    · next hexpired =>
      refine (sendLockExpired_ensures P c lock md).mono fun r hr => ?_
      rcases hr with rfl | ⟨msg, locks, hsent, -, hsecrethash, rfl⟩
      · exact .inl rfl
      · obtain ⟨honchain, hdue⟩ := isLockExpired_ok.mp hexpired
        exact .inr ⟨lock, msg, locks, ⟨rfl, hdue⟩, hsent.expired hlock honchain, hsecrethash,
          hsent.identifier_eq, rfl⟩
    · exact .pure (.inl rfl)

theorem ChannelOp.run_outcome (op : ChannelOp) (c : NettingChannelState) :
    Ensures (op.run P c) (Outcome P c op) := by
  cases op with
  | stateChange sc now bh =>
    have h := stateTransition_ensures P (handleStateTransitions_handled P sc c now bh)
    exact h.mono fun r hr => .handled hr.1 hr.2
  | sendLockedtransfer arguments =>
    refine .bind (Ensures.lift fun r hr => sendLockedtransfer_ok P hr) ?_
    rintro ⟨c', message⟩ ⟨locks, hsent, hc'⟩
    dsimp only at hsent hc'
    subst hc'
    exact .pure (.sentTransfer hsent)
  | sendUnlock msgId pid secret hash now md =>
    refine .bind (Ensures.lift fun r hr => sendUnlock_ok P hr) ?_
    rintro ⟨c', message⟩ ⟨-, -, lock, locks, hsent, hc'⟩
    dsimp only at hsent hc'
    subst hc'
    exact .pure (.sentUnlock hsent)
  | sendLockExpired hash now md =>
    refine .bind (expireOwnLock_cases c hash now md) fun r hr => .pure ?_
    rcases hr with rfl | ⟨lock, message, locks, ⟨hlock, -⟩, hfacts, -, -, rfl⟩
    · exact .unexpired
    · exact .sentExpired hlock hfacts
  | registerOffchainSecret secret hash => exact .pure .registered
  | registerOnchainSecret secret hash now =>
    refine .bind (Ensures.lift fun r hr => hr) fun r hr => .pure ?_
    simp only [Channel.registerOnchainSecret, seq_ok_iff, pure_eq_ok] at hr
    obtain ⟨our, hour, partner, hpartner, rfl⟩ := hr
    exact .registeredOnchain hour hpartner
  | receiveLockedtransfer tr md =>
    rcases handleReceiveLockedtransfer_cases P (c := c) tr md with ⟨msg, heq⟩ | ⟨locks, ha, heq⟩
    all_goals simp only [ChannelOp.run, heq]
    · exact .pure (.refused .transfer)
    · exact .pure (.receivedTransfer ha)
  | receiveRefundtransfer received refund =>
    rcases handleRefundtransfer_cases P (c := c) received refund with
      ⟨msg, heq⟩ | ⟨locks, ha, hmatches, heq⟩
    all_goals simp only [ChannelOp.run, heq]
    · exact .pure (.refused .refund)
    · exact .pure (.receivedRefund ha hmatches)
  | receiveLockExpired sc now md =>
    rcases handleReceiveLockExpired_cases P (c := c) sc now md with
      ⟨msg, heq⟩ | ⟨lock, locks, ha, heq⟩
    all_goals simp only [ChannelOp.run, heq]
    · exact .pure (.refused .expired)
    · exact .pure (.receivedExpired ha)
  | receiveUnlock unlock md =>
    rcases handleUnlock_cases P (c := c) unlock md with ⟨msg, heq⟩ | ⟨lock, locks, ha, heq⟩
    all_goals simp only [ChannelOp.run, heq]
    · exact .pure (.refused .unlock)
    · exact .pure (.receivedUnlock ha)

theorem Step.outcome {op : ChannelOp} {es : List Event} (h : Step P c (op, es) c') :
    Outcome P c op ⟨some c', es⟩ :=
  h.of_ensures P (ChannelOp.run_outcome op c)

inductive OpCases (P : Primitives) (c : NettingChannelState) (op : ChannelOp) (c' : NettingChannelState) : Prop
  | stateChange {change : ChannelStateChange} {now : Nat} {bh : BlockHash}
      (hop : op = .stateChange change now bh) (frame : ChannelFrame P c change c')
      (sane : sanityCheck P c' = .ok ())
  | lock (step : LockStep P c op c')

theorem Outcome.cases {op : ChannelOp} {r : TransitionResult (Option NettingChannelState)}
    (h : Outcome P c op r) (hc : r.newState = some c') : OpCases P c op c' := by
  cases h with
  | handled handled sane => exact .stateChange rfl (handled.frame P c' hc) (sane c' hc)
  | refused => cases hc; exact .lock ⟨.unchanged, .unchanged, rfl⟩
  | sentTransfer facts =>
    cases hc
    exact .lock ⟨.add (congrArg some facts.secrethash_eq.symm) facts.added, .unchanged, rfl⟩
  | sentUnlock facts => cases hc; exact .lock ⟨.unlock facts.unlocked, .unchanged, rfl⟩
  | unexpired => cases hc; exact .lock ⟨.unchanged, .unchanged, rfl⟩
  | sentExpired _ facts => cases hc; exact .lock ⟨.expire facts, .unchanged, rfl⟩
  | registered => cases hc; exact .lock ⟨.register _ _, .register _ _, rfl⟩
  | registeredOnchain our partner =>
    cases hc
    exact .lock ⟨.registerOnchain our, .registerOnchain partner, rfl⟩
  | receivedTransfer facts =>
    cases hc
    exact .lock ⟨.unchanged, .add (addedByPartner_receiveLockedtransfer _ facts) facts.added, rfl⟩
  | receivedRefund facts same =>
    cases hc
    exact .lock ⟨.unchanged, .add (addedByPartner_receiveRefundtransfer facts same) facts.added, rfl⟩
  | receivedExpired facts => cases hc; exact .lock ⟨.unchanged, .expire facts.expired', rfl⟩
  | receivedUnlock facts => cases hc; exact .lock ⟨.unchanged, .unlock facts.unlocked, rfl⟩

theorem Step.cases {label : ChannelOp × List Event} (h : Step P c label c') : OpCases P c label.1 c' :=
  (Step.outcome h).cases rfl

/-! ## Concrete channels and messages -/

def bytesToNat (bytes : Bytes) : Nat := bytes.foldl (fun n b => n * 256 + b.toNat) 0

/-- Primitives for concrete runs: hashing keeps its input, and the length of a
signature is the address of its signer. -/
def toyPrimitives : Primitives where
  keccak := id
  sha256Secrethash secret := BitVec.ofNat 256 (bytesToNat secret)
  recover _ signature := some (BitVec.ofNat 160 signature.length)
  toChecksumAddress address := toString address.toNat
  imbalanceCurve _ _ := some []

def toyIdentifier : CanonicalIdentifier := ⟨1, 9, 1⟩

def toyChannel (ourDeposit partnerDeposit : Nat) : NettingChannelState where
  canonicalIdentifier := toyIdentifier
  tokenAddress := 8
  tokenNetworkRegistryAddress := 7
  revealTimeout := 10
  settleTimeout := 50
  feeSchedule := {}
  ourState := { address := 1, contractBalance := ourDeposit, onchainLocksroot := [] }
  partnerState := { address := 2, contractBalance := partnerDeposit, onchainLocksroot := [] }

theorem toyChannel_fresh (ourDeposit partnerDeposit : Nat) :
    Fresh (toyChannel ourDeposit partnerDeposit) :=
  ⟨⟨rfl, rfl, rfl, rfl, rfl, rfl, rfl, rfl, rfl, rfl⟩, ⟨rfl, rfl, rfl, rfl, rfl, rfl, rfl, rfl, rfl, rfl⟩,
    rfl, rfl, rfl⟩

instance neZero_256 : NeZero 256 := ⟨by decide⟩

instance neZero_65536 : NeZero 65536 := ⟨by decide⟩

def toyLockUntil (expiration : Fin 65536) (amount : Fin 256) (hash : SecretHash) :
    HashTimeLockState :=
  ⟨amount, expiration, hash, by unfold uint256Max; omega, by unfold uint256Max; omega⟩

def toyLock (amount : Fin 256) (hash : SecretHash) : HashTimeLockState :=
  ⟨amount, 40, hash, by unfold uint256Max; omega, by decide⟩

/-- A balance proof of the partner after `earlier` other messages. -/
def toyBalanceProof (earlier transferred locked : Fin 256) (locks : List HashTimeLockState) :
    BalanceProofSignedState where
  nonce := earlier + 1
  transferredAmount := transferred
  lockedAmount := locked
  locksroot := computeLocksroot toyPrimitives (locks.map HashTimeLockState.encoded)
  canonicalIdentifier := toyIdentifier
  nonce_pos := Nat.succ_pos _
  nonce_le := by unfold uint64Max; omega
  transferred_le := by unfold uint256Max; omega
  locked_le := by unfold uint256Max; omega
  messageHash := []
  signature := [0, 0]
  sender := 2

def toyTransfer (lock : HashTimeLockState) (balanceProof : BalanceProofSignedState) :
    LockedTransferSignedState where
  messageIdentifier := 1
  paymentIdentifier := 1
  token := 8
  lock := lock
  initiator := 2
  target := 1
  balanceProof := balanceProof
  routeStates := []

end Raiden.Channel
