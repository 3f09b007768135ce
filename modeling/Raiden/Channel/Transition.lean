import Raiden.Channel.Receive

/-! # The channel state machine

Handlers of the state changes that are delivered to a channel itself: blocks,
closing and settlement, deposits, withdraws and the cooperative settlement.
`stateTransition` runs the handler and then `sanityCheck`, whose assertions
stop the node. -/
namespace Raiden.Channel

open Lib

variable (P : Primitives)

/-! ## Life cycle -/

/-- Mark a transaction as mined, unless it already is. -/
def setFinished (transaction : Option TransactionExecutionStatus) (blockNumber : Nat) :
    Option TransactionExecutionStatus :=
  match transaction with
  | none => some ⟨none, some blockNumber, some .success⟩
  | some t =>
    if isSet t.finishedBlockNumber then some t
    else some { t with finishedBlockNumber := some blockNumber, result := some .success }

section

variable (c : NettingChannelState)

def setClosed (blockNumber : Nat) : NettingChannelState :=
  { c with closeTransaction := setFinished c.closeTransaction blockNumber }

def setSettled (blockNumber : Nat) : NettingChannelState :=
  { c with settleTransaction := setFinished c.settleTransaction blockNumber }

def setCoopSettled (e : NettingChannelEndState) (blockNumber : Nat) :
    Fallible NettingChannelEndState :=
  match e.initiatedCoopSettle with
  | none =>
    .error (.assertionError "This should only be called on a state where a CoopSettle is initiated")
  | some coopSettle =>
    .ok { e with
      initiatedCoopSettle := some { coopSettle with
        transaction := setFinished coopSettle.transaction blockNumber } }

def eventsForClose (blockNumber : Nat) (blockHash : BlockHash) :
    Fallible (TransitionResult NettingChannelState) := do
  if getStatus c ∈ channelStatesPriorToClosed then
    let close (balanceProof : Option BalanceProofSignedState) :
        TransitionResult NettingChannelState :=
      ⟨{ c with closeTransaction := some ⟨some blockNumber, none, none⟩ },
        [.contractSendChannelClose c.canonicalIdentifier balanceProof blockHash]⟩
    match c.partnerState.balanceProof with
    | none => return close none
    | some (.signed balanceProof) => return close (some balanceProof)
    | some (.unsigned _) => throw (.assertionError "BP is not signed")
  else return ⟨c, []⟩

def handleActionClose (identifier : CanonicalIdentifier) (c : NettingChannelState)
    (blockNumber : Nat) (blockHash : BlockHash) : Fallible (TransitionResult NettingChannelState) := do
  assert (c.identifier = identifier.channelIdentifier) "caller must make sure the ids match"
  eventsForClose c blockNumber blockHash

def handleChannelClosed (action : ContractReceiveChannelClosed) (c : NettingChannelState) :
    Fallible (TransitionResult NettingChannelState) :=
  let justClosed := action.canonicalIdentifier.channelIdentifier = c.identifier ∧
    getStatus c ∈ channelStatesPriorToClosed
  if justClosed then
    let closed := setClosed c action.blockNumber
    let callUpdate := action.transactionFrom ≠ c.ourState.address ∧ c.updateTransaction = none
    match c.partnerState.balanceProof with
    | none => .ok ⟨closed, []⟩
    | some balanceProof =>
      if callUpdate then
        match balanceProof with
        | .unsigned _ => .error (.assertionError "This assert is used to tell mypy what is the type of the variable")
        | .signed balanceProof =>
          .ok ⟨{ closed with updateTransaction := some ⟨some action.blockNumber, none, none⟩ },
            [.contractSendChannelUpdateTransfer (action.blockNumber + c.settleTimeout) balanceProof
              action.blockHash]⟩
      else .ok ⟨closed, []⟩
  else .ok ⟨c, []⟩

def handleChannelUpdatedTransfer (action : ContractReceiveUpdateTransfer) (c : NettingChannelState)
    (blockNumber : Nat) : TransitionResult NettingChannelState :=
  if action.canonicalIdentifier.channelIdentifier = c.identifier then
    ⟨{ c with updateTransaction := some ⟨none, some blockNumber, some .success⟩ }, []⟩
  else ⟨c, []⟩

/-- Record a settlement that matches a cooperative settlement initiated by one
of the ends, seen from that end. -/
def checkCoopSettled (initiator : NettingChannelEndState) (initiatorAmount partnerAmount : Nat)
    (noLocks : Bool) (blockNumber : Nat) : Fallible (NettingChannelEndState × Bool) :=
  match initiator.initiatedCoopSettle with
  | none => .ok (initiator, false)
  | some coopSettle =>
    if coopSettle.totalWithdrawInitiator = initiatorAmount ∧
        coopSettle.totalWithdrawPartner = partnerAmount ∧ noLocks then do
      let initiator ← setCoopSettled initiator blockNumber
      return (initiator, true)
    else .ok (initiator, false)

def handleChannelSettled (action : ContractReceiveChannelSettled) (c : NettingChannelState) :
    Fallible (TransitionResult (Option NettingChannelState)) :=
  if action.canonicalIdentifier.channelIdentifier = c.identifier then do
    let c := setSettled c action.blockNumber
    let noLocks : Bool := action.ourOnchainLocksroot = locksrootOfNoLocks P ∧
      action.partnerOnchainLocksroot = locksrootOfNoLocks P
    let (ourState, ours) ← checkCoopSettled c.ourState action.ourTransferredAmount
      action.partnerTransferredAmount noLocks action.blockNumber
    let (partnerState, partners) ← checkCoopSettled c.partnerState action.partnerTransferredAmount
      action.ourTransferredAmount noLocks action.blockNumber
    let isCoopSettle := ours || partners
    let ourState := if isCoopSettle then
        { ourState with onchainTotalWithdraw := action.ourTransferredAmount } else ourState
    let partnerState := if isCoopSettle then
        { partnerState with onchainTotalWithdraw := action.partnerTransferredAmount }
      else partnerState
    if noLocks then return ⟨none, []⟩
    return ⟨some { c with
        ourState := { ourState with onchainLocksroot := action.ourOnchainLocksroot }
        partnerState := { partnerState with onchainLocksroot := action.partnerOnchainLocksroot } },
      [.contractSendChannelBatchUnlock c.canonicalIdentifier c.partnerState.address action.blockHash]⟩
  else .ok ⟨some c, []⟩

/-- The locks of `sender` were unlocked on-chain. -/
def clearOnchainLocksroot (sender : Address) : NettingChannelState :=
  if sender = c.ourState.address then
    { c with ourState := { c.ourState with onchainLocksroot := locksrootOfNoLocks P } }
  else if sender = c.partnerState.address then
    { c with partnerState := { c.partnerState with onchainLocksroot := locksrootOfNoLocks P } }
  else c

def handleChannelBatchUnlock (action : ContractReceiveChannelBatchUnlock) (c : NettingChannelState) :
    TransitionResult (Option NettingChannelState) :=
  if getStatus c = .settled then
    let cleared := clearOnchainLocksroot P c action.sender
    -- the channel is removed once all unlocks have been done
    if cleared.ourState.onchainLocksroot = locksrootOfNoLocks P ∧
        cleared.partnerState.onchainLocksroot = locksrootOfNoLocks P then
      ⟨none, []⟩
    else ⟨some cleared, []⟩
  else ⟨some c, []⟩

def handleActionSetRevealTimeout (revealTimeout : Nat) (c : NettingChannelState) :
    TransitionResult NettingChannelState :=
  if 7 ≤ revealTimeout ∧ revealTimeout * 2 ≤ c.settleTimeout then ⟨{ c with revealTimeout }, []⟩
  else
    ⟨c, [.eventInvalidActionSetRevealTimeout revealTimeout
      "Settle timeout should be at least twice as large as reveal timeout"]⟩

/-! ## Deposits and on-chain withdraws -/

def calculateImbalanceFees (channelCapacity : Int) (proportionalImbalanceFee : Nat) :
    Fallible (Option (List (Nat × Int))) := do
  assert (0 ≤ channelCapacity) "channel_capacity must be larger than zero"
  if proportionalImbalanceFee = 0 then return none
  if channelCapacity = 0 then return none
  -- the fee is in parts per million and at most half of the maximal slope of 0.1
  assert (proportionalImbalanceFee ≤ 50000) "Too high imbalance fee"
  match P.imbalanceCurve channelCapacity.toNat proportionalImbalanceFee with
  | none => throw .overflowError
  | some points => return some points

/-- The points of a penalty must be ascending, they are interpolated. -/
def FeeScheduleState.create (capFees : Bool) (flat : Int) (proportional : Nat)
    (imbalancePenalty : Option (List (Nat × Int))) : Fallible FeeScheduleState :=
  let xList := (imbalancePenalty.getD []).map Prod.fst
  if (xList.zip xList.tail).any (fun x => x.2 ≤ x.1) = true then
    .error (.valueError "x_list must be in strictly ascending order!")
  else .ok { capFees, flat, proportional, imbalancePenalty }

def updateFeeScheduleAfterBalanceChange (feeConfig : MediationFeeConfig) :
    Fallible NettingChannelState := do
  let imbalancePenalty ← calculateImbalanceFees P (getCapacity c)
    (feeConfig.getProportionalImbalanceFee c.tokenAddress)
  let feeSchedule ← FeeScheduleState.create c.feeSchedule.capFees c.feeSchedule.flat
    c.feeSchedule.proportional imbalancePenalty
  return { c with feeSchedule }

def updateContractBalance (e : NettingChannelEndState) (contractBalance : Nat) :
    NettingChannelEndState :=
  if e.contractBalance < contractBalance then { e with contractBalance } else e

def addDeposit (participant : Address) (contractBalance : Nat) : NettingChannelState :=
  if participant = c.ourState.address then
    { c with ourState := updateContractBalance c.ourState contractBalance }
  else if participant = c.partnerState.address then
    { c with partnerState := updateContractBalance c.partnerState contractBalance }
  else c

def handleChannelDeposit (action : ContractReceiveChannelDeposit) (c : NettingChannelState) :
    Fallible (TransitionResult NettingChannelState) := do
  let c := addDeposit c action.participantAddress action.contractBalance
  let c ← updateFeeScheduleAfterBalanceChange P c action.feeConfig
  return ⟨c, []⟩

def setOnchainTotalWithdraw (e : NettingChannelEndState) (totalWithdraw : Nat) :
    NettingChannelEndState :=
  { e with
    withdrawsPending := e.withdrawsPending.del totalWithdraw
    onchainTotalWithdraw := totalWithdraw }

def handleChannelWithdraw (action : ContractReceiveChannelWithdraw) (c : NettingChannelState) :
    Fallible (TransitionResult NettingChannelState) :=
  if action.participant = c.ourState.address then do
    let c := { c with ourState := setOnchainTotalWithdraw c.ourState action.totalWithdraw }
    let c ← updateFeeScheduleAfterBalanceChange P c action.feeConfig
    return ⟨c, []⟩
  else if action.participant = c.partnerState.address then do
    let c := { c with partnerState := setOnchainTotalWithdraw c.partnerState action.totalWithdraw }
    let c ← updateFeeScheduleAfterBalanceChange P c action.feeConfig
    return ⟨c, []⟩
  else .ok ⟨c, []⟩

/-! ## Off-chain withdraws -/

def sendWithdrawRequest (totalWithdraw : Int) (expiration : Nat)
    (recipientMetadata : Option AddressMetadata) (coopSettle : Bool) :
    Handler (TransitionResult NettingChannelState) := do
  if getStatus c ∉ channelStatesPriorToClosed then return ⟨c, []⟩
  let nonce := getNextNonce c.ourState
  let messageIdentifier ← messageIdentifierFromPrng
  return ⟨{ c with
      ourState := { c.ourState with
        nonce
        withdrawsPending := c.ourState.withdrawsPending.set totalWithdraw
          { totalWithdraw, expiration, nonce, recipientMetadata } } },
    [.sendWithdrawRequest {
      recipient := c.partnerState.address
      recipientMetadata
      canonicalIdentifier := c.canonicalIdentifier
      messageIdentifier, totalWithdraw
      participant := c.ourState.address
      expiration, nonce, coopSettle }]⟩

def handleActionWithdraw (action : ActionChannelWithdraw) (c : NettingChannelState)
    (blockNumber : Nat) : Handler (TransitionResult NettingChannelState) :=
  match isValidTotalWithdraw c action.totalWithdraw false with
  | .ok () =>
    let expiration := getSafeInitialExpiration blockNumber c.revealTimeout
    sendWithdrawRequest c action.totalWithdraw expiration action.recipientMetadata false
  | .error msg => return ⟨c, [.eventInvalidActionWithdraw action.totalWithdraw msg]⟩

def handleActionCoopSettle (action : ActionChannelCoopSettle) (c : NettingChannelState)
    (blockNumber : Nat) : Handler (TransitionResult NettingChannelState) :=
  let ourMaxTotalWithdraw := getMaxWithdrawAmount c.ourState c.partnerState
  let partnerMaxTotalWithdraw := getMaxWithdrawAmount c.partnerState c.ourState
  match isValidActionCoopsettle c ourMaxTotalWithdraw with
  | .ok () =>
    let expiration := getSafeInitialExpiration blockNumber c.revealTimeout
    let coopSettle : CoopSettleState := {
      totalWithdrawInitiator := ourMaxTotalWithdraw
      totalWithdrawPartner := partnerMaxTotalWithdraw
      expiration }
    let c := { c with ourState := { c.ourState with initiatedCoopSettle := some coopSettle } }
    sendWithdrawRequest c ourMaxTotalWithdraw expiration action.recipientMetadata true
  | .error msg => return ⟨c, [.eventInvalidActionCoopSettle ourMaxTotalWithdraw msg]⟩

def eventsForCoopSettle (coopSettle : CoopSettleState) (blockNumber : Nat)
    (blockHash : BlockHash) : TransitionResult NettingChannelState :=
  match coopSettle.partnerSignatureRequest, coopSettle.partnerSignatureConfirmation with
  | some request, some confirmation =>
    if (blockNumber : Int) - c.revealTimeout ≤ coopSettle.expiration then
      ⟨{ c with
          ourState := { c.ourState with
            initiatedCoopSettle :=
              some { coopSettle with transaction := some ⟨some blockNumber, none, none⟩ } } },
        [.contractSendChannelCoopSettle c.canonicalIdentifier coopSettle.totalWithdrawInitiator
          coopSettle.totalWithdrawPartner coopSettle.expiration confirmation request blockHash]⟩
    else ⟨c, []⟩
  | _, _ => ⟨c, []⟩

/-- Store one of the partner's signatures in our cooperative settlement. -/
def signOurCoopSettle (coopSettle : CoopSettleState) (blockNumber : Nat)
    (blockHash : BlockHash) : TransitionResult NettingChannelState :=
  let c := { c with ourState := { c.ourState with initiatedCoopSettle := some coopSettle } }
  eventsForCoopSettle c coopSettle blockNumber blockHash

end

/-- The part of a withdraw request that belongs to a cooperative settlement. The
partner's pending withdraw is already stored when this rejects the request. -/
def handleCoopSettleRequest (action : ReceiveWithdrawRequest) (c : NettingChannelState)
    (blockNumber : Nat) (blockHash : BlockHash) :
    Handler (Except String (TransitionResult NettingChannelState)) := do
  let partnerMaxTotalWithdraw := getMaxWithdrawAmount c.partnerState c.ourState
  if partnerMaxTotalWithdraw ≠ action.totalWithdraw then
    return .error ("Partner did not withdraw with maximum balance " ++
      s!"(should={partnerMaxTotalWithdraw}).")
  if 0 < getNumberOfPendingTransfers c.partnerState then
    return .error "Partner has pending transfers."
  match c.ourState.initiatedCoopSettle with
  | some coopSettle =>
    if coopSettle.expiration ≠ action.expiration then
      return .error ("Partner requested withdraw while we initiated a coop-settle: " ++
        "Partner's withdraw has differing expiration.")
    assert (coopSettle.totalWithdrawPartner = action.totalWithdraw)
      "The expected total withdraw of the partner doesn't match the withdraw-request"
    return .ok (signOurCoopSettle c
      { coopSettle with partnerSignatureRequest := some action.signature } blockNumber blockHash)
  | none =>
    let ourMaxTotalWithdraw := getMaxWithdrawAmount c.ourState c.partnerState
    if 0 < getNumberOfPendingTransfers c.ourState then
      return .error "Partner initiated coop-settle, but we have pending transfers."
    let c := { c with
      partnerState := { c.partnerState with
        initiatedCoopSettle := some {
          totalWithdrawInitiator := action.totalWithdraw
          totalWithdrawPartner := ourMaxTotalWithdraw
          expiration := action.expiration
          partnerSignatureRequest := some action.signature } } }
    let iteration ←
      sendWithdrawRequest c ourMaxTotalWithdraw action.expiration action.senderMetadata false
    -- the list of events is extended by itself
    return .ok ⟨iteration.newState, iteration.events ++ iteration.events⟩

def confirmWithdraw (action : ReceiveWithdrawRequest)
    (iteration : TransitionResult NettingChannelState) : TransitionResult NettingChannelState :=
  let c := iteration.newState
  let nonce := getNextNonce c.ourState
  ⟨{ c with ourState := { c.ourState with nonce } },
    iteration.events ++ [.sendWithdrawConfirmation {
      recipient := c.partnerState.address
      recipientMetadata := action.senderMetadata
      canonicalIdentifier := c.canonicalIdentifier
      messageIdentifier := action.messageIdentifier
      totalWithdraw := action.totalWithdraw
      participant := c.partnerState.address
      expiration := action.expiration
      nonce }]⟩

def handleReceiveWithdrawRequest (action : ReceiveWithdrawRequest) (c : NettingChannelState)
    (blockNumber : Nat) (blockHash : BlockHash) :
    Handler (TransitionResult NettingChannelState) := do
  match isValidWithdrawRequest P c action with
  | .error msg => return ⟨c, [.eventInvalidReceivedWithdrawRequest action.totalWithdraw msg]⟩
  | .ok () =>
    let c := { c with
      partnerState := { c.partnerState with
        withdrawsPending := c.partnerState.withdrawsPending.set action.totalWithdraw {
          totalWithdraw := action.totalWithdraw
          expiration := action.expiration
          nonce := action.nonce
          recipientMetadata := action.senderMetadata }
        nonce := action.nonce } }
    if c.ourState.initiatedCoopSettle.isSome ∨ action.coopSettle then
      match ← handleCoopSettleRequest action c blockNumber blockHash with
      | .error msg => return ⟨c, [.eventInvalidReceivedWithdrawRequest action.totalWithdraw msg]⟩
      | .ok iteration => return confirmWithdraw action iteration
    else return confirmWithdraw action ⟨c, []⟩

def handleReceiveWithdrawConfirmation (action : ReceiveWithdrawConfirmation)
    (c : NettingChannelState) (blockNumber : Nat) (blockHash : BlockHash) :
    Fallible (TransitionResult NettingChannelState) :=
  match isValidWithdrawConfirmation P c action with
  | .error msg => .ok ⟨c, [.eventInvalidReceivedWithdraw action.totalWithdraw msg]⟩
  | .ok () => do
    let recipientMetadata := (c.ourState.withdrawsPending.get? action.totalWithdraw).bind
      PendingWithdrawState.recipientMetadata
    let c := { c with partnerState := { c.partnerState with nonce := action.nonce } }
    let acknowledged := processed c.partnerState.address recipientMetadata action.messageIdentifier
    match c.ourState.initiatedCoopSettle, c.partnerState.initiatedCoopSettle with
    | some _, some _ => throw (.assertionError "Only one party can initiate a coop settle")
    | some coopSettle, none =>
      let iteration := signOurCoopSettle c
        { coopSettle with partnerSignatureConfirmation := some action.signature } blockNumber blockHash
      return ⟨iteration.newState, acknowledged :: iteration.events⟩
    | none, some _ => return ⟨c, [acknowledged]⟩
    | none, none =>
      if (blockNumber : Int) - c.revealTimeout ≤ action.expiration then
        return ⟨c, [acknowledged, .contractSendChannelWithdraw action.canonicalIdentifier
          action.totalWithdraw action.expiration action.signature blockHash]⟩
      else return ⟨c, [acknowledged]⟩

def expireCoopSettle (coopSettle : Option CoopSettleState) (withdraw : PendingWithdrawState) :
    Option CoopSettleState :=
  coopSettle.filter fun s =>
    ¬(s.totalWithdrawInitiator = withdraw.totalWithdraw ∧ s.expiration = withdraw.expiration)

def handleReceiveWithdrawExpired (action : ReceiveWithdrawExpired) (c : NettingChannelState)
    (blockNumber : Nat) : TransitionResult NettingChannelState :=
  match c.partnerState.withdrawsPending.get? action.totalWithdraw with
  | none =>
    let totalWithdraw := action.totalWithdraw
    ⟨c, [.eventInvalidReceivedWithdrawExpired totalWithdraw
      (s!"Withdraw expired of {totalWithdraw} " ++
        "did not correspond to previous withdraw request")]⟩
  | some withdraw =>
    match isValidWithdrawExpired c action withdraw blockNumber with
    | .error msg => ⟨c, [.eventInvalidReceivedWithdrawExpired action.totalWithdraw msg]⟩
    | .ok () =>
      ⟨{ c with
          partnerState := { c.partnerState with
            withdrawsPending := c.partnerState.withdrawsPending.del withdraw.totalWithdraw
            nonce := action.nonce
            initiatedCoopSettle := expireCoopSettle c.partnerState.initiatedCoopSettle withdraw } },
        [processed c.partnerState.address withdraw.recipientMetadata action.messageIdentifier]⟩

/-! ## Blocks -/

def expireWithdraw (c : NettingChannelState) (withdraw : PendingWithdrawState) :
    Handler (TransitionResult NettingChannelState) := do
  let nonce := getNextNonce c.ourState
  let messageIdentifier ← messageIdentifierFromPrng
  return ⟨{ c with
      ourState := { c.ourState with
        nonce
        initiatedCoopSettle := expireCoopSettle c.ourState.initiatedCoopSettle withdraw
        withdrawsExpired := c.ourState.withdrawsExpired ++
          [⟨withdraw.totalWithdraw, withdraw.expiration, withdraw.nonce, withdraw.recipientMetadata⟩]
        withdrawsPending := c.ourState.withdrawsPending.del withdraw.totalWithdraw } },
    [.sendWithdrawExpired {
      recipient := c.partnerState.address
      recipientMetadata := withdraw.recipientMetadata
      canonicalIdentifier := c.canonicalIdentifier
      messageIdentifier
      totalWithdraw := withdraw.totalWithdraw
      participant := c.ourState.address
      expiration := withdraw.expiration
      nonce }]⟩

/-- The loop over the pending withdraws stops at the first one that is not expired. -/
def eventsForExpiredWithdraws (blockNumber : Nat) :
    List PendingWithdrawState → NettingChannelState → Handler (TransitionResult NettingChannelState)
  | [], c => return ⟨c, []⟩
  | withdraw :: rest, c => do
    if isWithdrawExpired blockNumber (getSenderExpirationThreshold withdraw.expiration) = false then
      return ⟨c, []⟩
    let expired ← expireWithdraw c withdraw
    let iteration ← eventsForExpiredWithdraws blockNumber rest expired.newState
    return ⟨iteration.newState, expired.events ++ iteration.events⟩

/-- Settle a closed channel whose settlement window has passed. -/
def settleClosedChannel (action : Block) (c : NettingChannelState) :
    Fallible (TransitionResult NettingChannelState) :=
  if getStatus c = .closed then
    match c.closeTransaction with
    | none =>
      .error (.assertionError "channel get_status is STATE_CLOSED, but close_transaction is not set")
    | some close =>
      match close.finishedBlockNumber with
      | some (closed + 1) =>
        let settlementEnd := closed + 1 + c.settleTimeout
        if settlementEnd < action.blockNumber then
          .ok ⟨{ c with settleTransaction := some ⟨some action.blockNumber, none, none⟩ },
            [.contractSendChannelSettle c.canonicalIdentifier action.blockHash]⟩
        else .ok ⟨c, []⟩
      | _ =>
        .error (.assertionError
          "channel get_status is STATE_CLOSED, but close_transaction block number is missing")
  else .ok ⟨c, []⟩

def expireWithdrawsIfOpen (c : NettingChannelState) (blockNumber : Nat) :
    Handler (TransitionResult NettingChannelState) :=
  if getStatus c = .opened then
    eventsForExpiredWithdraws blockNumber c.ourState.withdrawsPending.values c
  else pure ⟨c, []⟩

def handleBlock (action : Block) (c : NettingChannelState) (blockNumber : Nat) :
    Handler (TransitionResult NettingChannelState) := do
  assert (action.blockNumber = blockNumber) "Block number mismatch"
  let expired ← expireWithdrawsIfOpen c blockNumber
  let settled ← settleClosedChannel action expired.newState
  return ⟨settled.newState, expired.events ++ settled.events⟩

/-! ## The transition -/

def checkWithdrawsOrdered (coopSettle : Bool) :
    Int → List (Int × PendingWithdrawState) → Fallible Unit
  | _, [] => .ok ()
  | previous, (totalWithdraw, withdraw) :: rest => do
    if coopSettle = false then
      assert (previous < withdraw.totalWithdraw) "total_withdraw must be ordered"
    assert (totalWithdraw = withdraw.totalWithdraw) "Total withdraw mismatch"
    checkWithdrawsOrdered coopSettle withdraw.totalWithdraw rest

/-- Every lock of the maps is in the list of pending locks. -/
def mapsSynchronized (e : NettingChannelEndState) : Bool :=
  e.secrethashesToLockedlocks.values.all (fun lock => lock.encoded ∈ e.pendingLocks) &&
    e.secrethashesToUnlockedlocks.values.all (fun u => u.lock.encoded ∈ e.pendingLocks) &&
    e.secrethashesToOnchainUnlockedlocks.values.all (fun u => u.lock.encoded ∈ e.pendingLocks)

def sanityCheck (c : NettingChannelState) : Fallible Unit := do
  let our := c.ourState
  let partner := c.partnerState
  let coopSettle := our.initiatedCoopSettle.isSome || partner.initiatedCoopSettle.isSome
  checkWithdrawsOrdered coopSettle 0 our.withdrawsPending.entries
  let ourBalance := getBalance our partner
  let partnerBalance := getBalance partner our
  let negative :=
    "The balance can never be negative, that would be equivalent to a loan or a double spend."
  assert (0 ≤ ourBalance) negative
  assert (0 ≤ partnerBalance) negative
  assert (ourBalance + partnerBalance = getCapacity c)
    "The whole deposit of the channel has to be accounted for."
  let lockedMismatch := "The sum of the lock's amounts, and the value of the balance proof " ++
    "locked_amount must be equal, otherwise settle will not reserve the proper amount of tokens."
  assert (getAmountLocked partner = (getCurrentBalanceproof P partner).lockedAmount) lockedMismatch
  assert (getAmountLocked our = (getCurrentBalanceproof P our).lockedAmount) lockedMismatch
  assert (getDistributable P our partner + getAmountLocked our ≤ ourBalance)
    "distributable + locked must not exceed balance (own)"
  assert (getDistributable P partner our + getAmountLocked partner ≤ partnerBalance)
    "distributable + locked must not exceed balance (partner)"
  let locksrootMismatch := "The balance proof locks root must match the existing locks, otherwise " ++
    "it is not possible to prove on-chain that a given lock was pending."
  assert (computeLocksroot P our.pendingLocks = (getCurrentBalanceproof P our).locksroot)
    locksrootMismatch
  assert (computeLocksroot P partner.pendingLocks = (getCurrentBalanceproof P partner).locksroot)
    locksrootMismatch
  let unsynchronized :=
    "The lock mappings and the pending locks must be synchronized, otherwise there is a bug"
  assert (mapsSynchronized partner) unsynchronized
  assert (mapsSynchronized our) unsynchronized

def kept (iteration : TransitionResult NettingChannelState) :
    TransitionResult (Option NettingChannelState) :=
  ⟨some iteration.newState, iteration.events⟩

def handleStateTransitions (change : ChannelStateChange) (c : NettingChannelState)
    (blockNumber : Nat) (blockHash : BlockHash) :
    Handler (TransitionResult (Option NettingChannelState)) :=
  match change with
  | .block action => kept <$> handleBlock action c blockNumber
  | .actionChannelClose identifier => do return kept (← handleActionClose identifier c blockNumber blockHash)
  | .actionChannelCoopSettle action => kept <$> handleActionCoopSettle action c blockNumber
  | .actionChannelWithdraw action => kept <$> handleActionWithdraw action c blockNumber
  | .actionChannelSetRevealTimeout _ revealTimeout =>
    return kept (handleActionSetRevealTimeout revealTimeout c)
  | .receiveWithdrawRequest action =>
    kept <$> handleReceiveWithdrawRequest P action c blockNumber blockHash
  | .receiveWithdrawConfirmation action => do
    return kept (← handleReceiveWithdrawConfirmation P action c blockNumber blockHash)
  | .receiveWithdrawExpired action => return kept (handleReceiveWithdrawExpired action c blockNumber)
  | .contractReceiveChannelClosed action => do return kept (← handleChannelClosed action c)
  | .contractReceiveUpdateTransfer action =>
    return kept (handleChannelUpdatedTransfer action c blockNumber)
  | .contractReceiveChannelSettled action => handleChannelSettled P action c
  | .contractReceiveChannelDeposit action => do return kept (← handleChannelDeposit P action c)
  | .contractReceiveChannelWithdraw action => do return kept (← handleChannelWithdraw P action c)
  | .contractReceiveChannelBatchUnlock action => return handleChannelBatchUnlock P action c

/-- A channel that was removed is not checked. -/
def sanityCheckNewState (iteration : TransitionResult (Option NettingChannelState)) : Fallible Unit :=
  match iteration.newState with
  | some c => sanityCheck P c
  | none => .ok ()

def stateTransition (c : NettingChannelState) (change : ChannelStateChange) (blockNumber : Nat)
    (blockHash : BlockHash) : Handler (TransitionResult (Option NettingChannelState)) := do
  let iteration ← handleStateTransitions P change c blockNumber blockHash
  sanityCheckNewState P iteration
  return iteration

end Raiden.Channel
