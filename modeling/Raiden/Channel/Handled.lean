import Raiden.Channel.Transition

/-! # What the handlers of a channel return

A handler leaves the channel alone, refuses the state change with a notice, or
makes one change. `Handled` lists the results with the conditions under which
they are returned, and the modules after this one read what they need off it. -/
namespace Raiden.Channel

open Lib

variable (P : Primitives) {now : Nat} {c : NettingChannelState}
  {r : TransitionResult NettingChannelState}
  {Q : TransitionResult (Option NettingChannelState) → Prop}

inductive IsNotice : ChannelStateChange → Event → Prop
  | setRevealTimeout {identifier : CanonicalIdentifier} {revealTimeout : Nat} {msg : String} :
      IsNotice (.actionChannelSetRevealTimeout identifier revealTimeout)
        (.eventInvalidActionSetRevealTimeout revealTimeout msg)
  | withdraw {act : ActionChannelWithdraw} {msg : String} :
      IsNotice (.actionChannelWithdraw act) (.eventInvalidActionWithdraw act.totalWithdraw msg)
  | coopSettle {act : ActionChannelCoopSettle} {total : Int} {msg : String} :
      IsNotice (.actionChannelCoopSettle act) (.eventInvalidActionCoopSettle total msg)
  | request {act : ReceiveWithdrawRequest} {msg : String} :
      IsNotice (.receiveWithdrawRequest act)
        (.eventInvalidReceivedWithdrawRequest act.totalWithdraw msg)
  | confirmation {act : ReceiveWithdrawConfirmation} {msg : String} :
      IsNotice (.receiveWithdrawConfirmation act)
        (.eventInvalidReceivedWithdraw act.totalWithdraw msg)
  | expired {act : ReceiveWithdrawExpired} {msg : String} :
      IsNotice (.receiveWithdrawExpired act)
        (.eventInvalidReceivedWithdrawExpired act.totalWithdraw msg)

inductive WithdrawRequested (c : NettingChannelState) (t : Int) : TransitionResult NettingChannelState → Prop
  | closed (status : getStatus c ∉ channelStatesPriorToClosed) : WithdrawRequested c t ⟨c, []⟩
  | sent {w : PendingWithdrawState} {message : SendWithdrawRequest} (total : w.totalWithdraw = t)
      (nonce : message.nonce = getNextNonce c.ourState) :
      WithdrawRequested c t ⟨{ c with
          ourState := { c.ourState with
            nonce := getNextNonce c.ourState
            withdrawsPending := c.ourState.withdrawsPending.set t w } },
        [.sendWithdrawRequest message]⟩

section

variable (c : NettingChannelState)

theorem sendWithdrawRequest_requested (t : Int) (exp : Nat)
    (md : Option AddressMetadata) (coopSettle : Bool) :
    Ensures (sendWithdrawRequest c t exp md coopSettle) (WithdrawRequested c t) := by
  unfold sendWithdrawRequest
  split
  · next hstatus => exact .pure (.closed hstatus)
  · refine .after fun _ => .pure ?_
    exact .sent rfl rfl

/-- A signature of the partner was stored in our cooperative settlement, which is sent
once both are there. -/
inductive CoopSigned (coopSettle : CoopSettleState) : CoopSettleState → List Event → Prop
  | stored : CoopSigned coopSettle coopSettle []
  | sent {transaction : Option TransactionExecutionStatus} {identifier : CanonicalIdentifier}
      {ours partners : Int} {expiration : Nat} {confirmation request : Signature} {bh : BlockHash} :
      CoopSigned coopSettle { coopSettle with transaction }
        [.contractSendChannelCoopSettle identifier ours partners expiration confirmation request bh]

theorem signOurCoopSettle_signed (coopSettle : CoopSettleState)
    (now : Nat) (bh : BlockHash) :
    ∃ s es, CoopSigned coopSettle s es ∧ signOurCoopSettle c coopSettle now bh =
      ⟨{ c with ourState := { c.ourState with initiatedCoopSettle := some s } }, es⟩ := by
  unfold signOurCoopSettle eventsForCoopSettle
  dsimp only
  split
  · split
    · exact ⟨_, _, .sent, rfl⟩
    · exact ⟨_, _, .stored, rfl⟩
  · exact ⟨_, _, .stored, rfl⟩

def requestStored (act : ReceiveWithdrawRequest) : NettingChannelState :=
  { c with
    partnerState := { c.partnerState with
      withdrawsPending := c.partnerState.withdrawsPending.set act.totalWithdraw {
        totalWithdraw := act.totalWithdraw
        expiration := act.expiration
        nonce := act.nonce
        recipientMetadata := act.senderMetadata }
      nonce := act.nonce } }

/-- The cooperative settlement that a withdraw request of the partner initiates. -/
def coopSettleOf (act : ReceiveWithdrawRequest) : CoopSettleState where
  totalWithdrawInitiator := act.totalWithdraw
  totalWithdrawPartner := getMaxWithdrawAmount c.ourState c.partnerState
  expiration := act.expiration
  partnerSignatureRequest := some act.signature

/-- The request does not meet the conditions of the cooperative settlement in progress. -/
def CoopSettleRefuses (request : ReceiveWithdrawRequest) : Prop :=
  getMaxWithdrawAmount c.partnerState c.ourState ≠ request.totalWithdraw ∨
    0 < getNumberOfPendingTransfers c.partnerState ∨
    match c.ourState.initiatedCoopSettle with
    | some coopSettle => coopSettle.expiration ≠ request.expiration
    | none => 0 < getNumberOfPendingTransfers c.ourState

end

/-- The part of a withdraw request that belongs to a cooperative settlement. -/
inductive CoopHandled (c : NettingChannelState) (act : ReceiveWithdrawRequest) :
    Except String (TransitionResult NettingChannelState) → Prop
  | refused {msg : String} (refuses : CoopSettleRefuses c act) : CoopHandled c act (.error msg)
  | signed {coopSettle s : CoopSettleState} {es : List Event}
      (ours : c.ourState.initiatedCoopSettle = some coopSettle)
      (signed : CoopSigned { coopSettle with partnerSignatureRequest := some act.signature } s es) :
      CoopHandled c act (.ok
        ⟨{ c with ourState := { c.ourState with initiatedCoopSettle := some s } }, es⟩)
  | answered {r : TransitionResult NettingChannelState} (none : c.ourState.initiatedCoopSettle = none)
      (total : getMaxWithdrawAmount c.partnerState c.ourState = act.totalWithdraw)
      (partners : getNumberOfPendingTransfers c.partnerState = 0)
      (ours : getNumberOfPendingTransfers c.ourState = 0)
      (requested : WithdrawRequested { c with
        partnerState := { c.partnerState with initiatedCoopSettle := some (coopSettleOf c act) } }
        (getMaxWithdrawAmount c.ourState c.partnerState) r) :
      CoopHandled c act (.ok ⟨r.newState, r.events ++ r.events⟩)

theorem handleCoopSettleRequest_handled (act : ReceiveWithdrawRequest) (c : NettingChannelState)
    (now : Nat) (bh : BlockHash) :
    Ensures (handleCoopSettleRequest act c now bh) (CoopHandled c act) := by
  unfold handleCoopSettleRequest
  dsimp only
  split
  · next htotal => exact .pure (.refused (.inl htotal))
  next htotal =>
  split
  · next hpartner => exact .pure (.refused (.inr (.inl hpartner)))
  next hpartner =>
  split
  · next coopSettle hcoop =>
    split
    · next hexpiration =>
      refine .pure (.refused (.inr (.inr ?_)))
      simp only [hcoop]
      exact hexpiration
    · refine .after fun _ => .pure ?_
      obtain ⟨s, es, hsigned, heq⟩ := signOurCoopSettle_signed c
        { coopSettle with partnerSignatureRequest := some act.signature } now bh
      rw [heq]
      exact .signed hcoop hsigned
  · next hnone =>
    split
    · next hour =>
      refine .pure (.refused (.inr (.inr ?_)))
      simp only [hnone]
      exact hour
    · next hour =>
      refine .bind (sendWithdrawRequest_requested _ _ _ _ _) fun r hr => .pure ?_
      exact .answered hnone (not_not.mp htotal) (Nat.eq_zero_of_not_pos hpartner)
        (Nat.eq_zero_of_not_pos hour) hr

/-- Our pending withdraws expire in their order, up to the first one that is not due. -/
inductive Swept (now : Nat) :
    List PendingWithdrawState → NettingChannelState → TransitionResult NettingChannelState → Prop
  | done (c : NettingChannelState) : Swept now [] c ⟨c, []⟩
  | stopped {w : PendingWithdrawState} {ws : List PendingWithdrawState} {c : NettingChannelState}
      (due : isWithdrawExpired now (getSenderExpirationThreshold w.expiration) = false) :
      Swept now (w :: ws) c ⟨c, []⟩
  | expired {w : PendingWithdrawState} {ws : List PendingWithdrawState} {c : NettingChannelState}
      {message : SendWithdraw} {r : TransitionResult NettingChannelState}
      (due : isWithdrawExpired now (getSenderExpirationThreshold w.expiration) = true)
      (same : message.totalWithdraw = w.totalWithdraw ∧ message.expiration = w.expiration)
      (nonce : message.nonce = getNextNonce c.ourState)
      (rest : Swept now ws { c with
          ourState := { c.ourState with
            nonce := getNextNonce c.ourState
            initiatedCoopSettle := expireCoopSettle c.ourState.initiatedCoopSettle w
            withdrawsExpired := c.ourState.withdrawsExpired ++
              [⟨w.totalWithdraw, w.expiration, w.nonce, w.recipientMetadata⟩]
            withdrawsPending := c.ourState.withdrawsPending.del w.totalWithdraw } } r) :
      Swept now (w :: ws) c ⟨r.newState, .sendWithdrawExpired message :: r.events⟩

theorem eventsForExpiredWithdraws_swept (now : Nat) (ws : List PendingWithdrawState)
    (c : NettingChannelState) : Ensures (eventsForExpiredWithdraws now ws c) (Swept now ws c) := by
  induction ws generalizing c with
  | nil => exact .pure (.done c)
  | cons w ws ih =>
    unfold eventsForExpiredWithdraws
    split
    · next hdue => exact .pure (.stopped hdue)
    · next hdue =>
      refine .bind (Q := fun expired => ∀ r, Swept now ws expired.newState r →
        Swept now (w :: ws) c ⟨r.newState, expired.events ++ r.events⟩) ?_ fun expired h => ?_
      · refine .after fun _ => .pure ?_
        exact fun r hr => .expired (Bool.not_eq_false _ ▸ hdue) ⟨rfl, rfl⟩ rfl hr
      · exact .bind (ih _) fun r hr => .pure (h r hr)

/-- The expiration of withdraws changes our end only. -/
theorem Swept.rest {ws : List PendingWithdrawState} (h : Swept now ws c r) :
    r.newState = { c with ourState := r.newState.ourState } := by
  induction h with
  | done | stopped => rfl
  | expired _ _ _ _ ih => rw [ih]

theorem checkCoopSettled_cases {e e' : NettingChannelEndState} {a b : Nat} {noLocks done : Bool}
    (h : checkCoopSettled e a b noLocks now = .ok (e', done)) (hlocks : noLocks = false) :
    e' = e ∧ done = false := by
  unfold checkCoopSettled at h
  split at h
  · cases h
    exact ⟨rfl, rfl⟩
  · split at h
    · next hmatch => exact absurd hmatch.2.2 (Bool.eq_false_iff.mp hlocks)
    · cases h
      exact ⟨rfl, rfl⟩

theorem updateFeeScheduleAfterBalanceChange_ok {c' : NettingChannelState} {config : MediationFeeConfig}
    (h : updateFeeScheduleAfterBalanceChange P c config = .ok c') :
    ∃ feeSchedule, c' = { c with feeSchedule } := by
  simp only [updateFeeScheduleAfterBalanceChange, seq_ok_iff, pure_eq_ok] at h
  obtain ⟨_, -, feeSchedule, -, rfl⟩ := h
  exact ⟨feeSchedule, rfl⟩

def mayIgnore : ChannelStateChange → Bool
  | .block _ | .actionChannelClose _ | .contractReceiveChannelClosed _ | .contractReceiveUpdateTransfer _
  | .contractReceiveChannelSettled _ | .contractReceiveChannelWithdraw _
  | .contractReceiveChannelBatchUnlock _ => true
  | _ => false

inductive Handled (c : NettingChannelState) (now : Nat) (bh : BlockHash) :
    ChannelStateChange → TransitionResult (Option NettingChannelState) → Prop
  | ignored {change : ChannelStateChange} (may : mayIgnore change = true) :
      Handled c now bh change ⟨some c, []⟩
  | refused {change : ChannelStateChange} {event : Event} (notice : IsNotice change event) :
      Handled c now bh change ⟨some c, [event]⟩
  | closing {identifier : CanonicalIdentifier} {balanceProof : Option BalanceProofSignedState}
      (prior : getStatus c ∈ channelStatesPriorToClosed)
      (proof : c.partnerState.balanceProof = balanceProof.map .signed) :
      Handled c now bh (.actionChannelClose identifier)
        ⟨some { c with closeTransaction := some ⟨some now, none, none⟩ },
          [.contractSendChannelClose c.canonicalIdentifier balanceProof bh]⟩
  | closed {act : ContractReceiveChannelClosed}
      (here : act.canonicalIdentifier.channelIdentifier = c.identifier)
      (prior : getStatus c ∈ channelStatesPriorToClosed) :
      Handled c now bh (.contractReceiveChannelClosed act)
        ⟨some (setClosed c act.blockNumber), []⟩
  | closedByPartner {act : ContractReceiveChannelClosed} {balanceProof : BalanceProofSignedState}
      (here : act.canonicalIdentifier.channelIdentifier = c.identifier)
      (prior : getStatus c ∈ channelStatesPriorToClosed)
      (other : act.transactionFrom ≠ c.ourState.address)
      (proof : c.partnerState.balanceProof = some (.signed balanceProof)) :
      Handled c now bh (.contractReceiveChannelClosed act)
        ⟨some { setClosed c act.blockNumber with
            updateTransaction := some ⟨some act.blockNumber, none, none⟩ },
          [.contractSendChannelUpdateTransfer (act.blockNumber + c.settleTimeout) balanceProof
            act.blockHash]⟩
  | updated {act : ContractReceiveUpdateTransfer} :
      Handled c now bh (.contractReceiveUpdateTransfer act)
        ⟨some { c with updateTransaction := some ⟨none, some now, some .success⟩ }, []⟩
  | settled {act : ContractReceiveChannelSettled}
      (here : act.canonicalIdentifier.channelIdentifier = c.identifier)
      (locks : ¬(act.ourOnchainLocksroot = locksrootOfNoLocks P ∧
        act.partnerOnchainLocksroot = locksrootOfNoLocks P)) :
      Handled c now bh (.contractReceiveChannelSettled act)
        ⟨some { setSettled c act.blockNumber with
            ourState := { c.ourState with onchainLocksroot := act.ourOnchainLocksroot }
            partnerState := { c.partnerState with onchainLocksroot := act.partnerOnchainLocksroot } },
          [.contractSendChannelBatchUnlock c.canonicalIdentifier c.partnerState.address act.blockHash]⟩
  | settledEmpty {act : ContractReceiveChannelSettled}
      (here : act.canonicalIdentifier.channelIdentifier = c.identifier)
      (ours : act.ourOnchainLocksroot = locksrootOfNoLocks P)
      (partners : act.partnerOnchainLocksroot = locksrootOfNoLocks P) :
      Handled c now bh (.contractReceiveChannelSettled act) ⟨none, []⟩
  | unlocked {act : ContractReceiveChannelBatchUnlock} (settled : getStatus c = .settled) :
      Handled c now bh (.contractReceiveChannelBatchUnlock act)
        ⟨some (clearOnchainLocksroot P c act.sender), []⟩
  | unlockedAll {act : ContractReceiveChannelBatchUnlock} (settled : getStatus c = .settled)
      (ours : (clearOnchainLocksroot P c act.sender).ourState.onchainLocksroot = locksrootOfNoLocks P)
      (partners : (clearOnchainLocksroot P c act.sender).partnerState.onchainLocksroot =
        locksrootOfNoLocks P) :
      Handled c now bh (.contractReceiveChannelBatchUnlock act) ⟨none, []⟩
  | timeoutSet {identifier : CanonicalIdentifier} {revealTimeout : Nat} :
      Handled c now bh (.actionChannelSetRevealTimeout identifier revealTimeout)
        ⟨some { c with revealTimeout }, []⟩
  | deposited {act : ContractReceiveChannelDeposit} {feeSchedule : FeeScheduleState} :
      Handled c now bh (.contractReceiveChannelDeposit act)
        ⟨some { addDeposit c act.participantAddress act.contractBalance with feeSchedule }, []⟩
  | withdrawn {act : ContractReceiveChannelWithdraw} {feeSchedule : FeeScheduleState}
      (ours : act.participant = c.ourState.address) :
      Handled c now bh (.contractReceiveChannelWithdraw act)
        ⟨some { c with
          ourState := setOnchainTotalWithdraw c.ourState act.totalWithdraw, feeSchedule }, []⟩
  | withdrawnByPartner {act : ContractReceiveChannelWithdraw} {feeSchedule : FeeScheduleState}
      (ours : act.participant ≠ c.ourState.address)
      (partners : act.participant = c.partnerState.address) :
      Handled c now bh (.contractReceiveChannelWithdraw act)
        ⟨some { c with
          partnerState := setOnchainTotalWithdraw c.partnerState act.totalWithdraw, feeSchedule }, []⟩
  | withdrawing {act : ActionChannelWithdraw} {r : TransitionResult NettingChannelState}
      (valid : isValidTotalWithdraw c act.totalWithdraw false = .ok ())
      (requested : WithdrawRequested c act.totalWithdraw r) :
      Handled c now bh (.actionChannelWithdraw act) (kept r)
  | coopSettling {act : ActionChannelCoopSettle} {coopSettle : CoopSettleState}
      {r : TransitionResult NettingChannelState}
      (valid : isValidActionCoopsettle c (getMaxWithdrawAmount c.ourState c.partnerState) = .ok ())
      (total : coopSettle.totalWithdrawPartner = getMaxWithdrawAmount c.partnerState c.ourState)
      (requested : WithdrawRequested { c with
          ourState := { c.ourState with initiatedCoopSettle := some coopSettle } }
        (getMaxWithdrawAmount c.ourState c.partnerState) r) :
      Handled c now bh (.actionChannelCoopSettle act) (kept r)
  | requestRefused {act : ReceiveWithdrawRequest} {msg : String}
      (valid : isValidWithdrawRequest P c act = .ok ())
      (coop : c.ourState.initiatedCoopSettle.isSome ∨ act.coopSettle)
      (refuses : CoopSettleRefuses c act) :
      Handled c now bh (.receiveWithdrawRequest act)
        ⟨some (requestStored c act), [.eventInvalidReceivedWithdrawRequest act.totalWithdraw msg]⟩
  | requestConfirmed {act : ReceiveWithdrawRequest}
      (valid : isValidWithdrawRequest P c act = .ok ()) :
      Handled c now bh (.receiveWithdrawRequest act)
        (kept (confirmWithdraw act ⟨requestStored c act, []⟩))
  | requestJoined {act : ReceiveWithdrawRequest} {r : TransitionResult NettingChannelState}
      (valid : isValidWithdrawRequest P c act = .ok ())
      (coop : c.ourState.initiatedCoopSettle.isSome ∨ act.coopSettle)
      (handled : CoopHandled (requestStored c act) act (.ok r)) :
      Handled c now bh (.receiveWithdrawRequest act) (kept (confirmWithdraw act r))
  | confirmed {act : ReceiveWithdrawConfirmation} {md : Option AddressMetadata}
      (valid : isValidWithdrawConfirmation P c act = .ok ()) :
      Handled c now bh (.receiveWithdrawConfirmation act)
        ⟨some { c with partnerState := { c.partnerState with nonce := act.nonce } },
          [processed c.partnerState.address md act.messageIdentifier]⟩
  | confirmedInTime {act : ReceiveWithdrawConfirmation} {md : Option AddressMetadata}
      (valid : isValidWithdrawConfirmation P c act = .ok ()) :
      Handled c now bh (.receiveWithdrawConfirmation act)
        ⟨some { c with partnerState := { c.partnerState with nonce := act.nonce } },
          [processed c.partnerState.address md act.messageIdentifier,
            .contractSendChannelWithdraw act.canonicalIdentifier act.totalWithdraw act.expiration
              act.signature bh]⟩
  | confirmedOurs {act : ReceiveWithdrawConfirmation} {md : Option AddressMetadata}
      {coopSettle s : CoopSettleState} {es : List Event}
      (valid : isValidWithdrawConfirmation P c act = .ok ())
      (ours : c.ourState.initiatedCoopSettle = some coopSettle)
      (signed : CoopSigned { coopSettle with partnerSignatureConfirmation := some act.signature } s
        es) :
      Handled c now bh (.receiveWithdrawConfirmation act)
        ⟨some { c with
            ourState := { c.ourState with initiatedCoopSettle := some s }
            partnerState := { c.partnerState with nonce := act.nonce } },
          processed c.partnerState.address md act.messageIdentifier :: es⟩
  | expired {act : ReceiveWithdrawExpired} {withdraw : PendingWithdrawState}
      (valid : isValidWithdrawExpired c act withdraw now = .ok ()) :
      Handled c now bh (.receiveWithdrawExpired act)
        ⟨some { c with
            partnerState := { c.partnerState with
              withdrawsPending := c.partnerState.withdrawsPending.del withdraw.totalWithdraw
              nonce := act.nonce
              initiatedCoopSettle := expireCoopSettle c.partnerState.initiatedCoopSettle withdraw } },
          [processed c.partnerState.address withdraw.recipientMetadata act.messageIdentifier]⟩
  | swept {act : Block} {r : TransitionResult NettingChannelState} (opened : getStatus c = .opened)
      (sweep : Swept now c.ourState.withdrawsPending.values c r) :
      Handled c now bh (.block act) (kept r)
  | settling {act : Block} {n : Nat} (closed : getStatus c = .closed)
      (mined : c.closeTransaction.bind TransactionExecutionStatus.finishedBlockNumber = some n)
      (passed : n + c.settleTimeout < act.blockNumber) :
      Handled c now bh (.block act)
        ⟨some { c with settleTransaction := some ⟨some act.blockNumber, none, none⟩ },
          [.contractSendChannelSettle c.canonicalIdentifier act.blockHash]⟩

section Handlers

variable {P} {c : NettingChannelState} {now : Nat} {bh : BlockHash}

theorem handleActionClose_handled {ident : CanonicalIdentifier}
    (h : handleActionClose ident c now bh = .ok r) :
    Handled P c now bh (.actionChannelClose ident) (kept r) := by
  simp only [handleActionClose, seq_ok_iff, assert_eq_ok, exists_const] at h
  replace h := h.2
  unfold eventsForClose at h
  split at h
  · next hprior =>
    split at h
    · next hproof =>
      cases h
      exact .closing hprior hproof
    · next hproof =>
      cases h
      exact .closing hprior hproof
    · exact absurd h throw_ne_ok
  · cases h
    exact .ignored rfl

theorem handleChannelClosed_handled {act : ContractReceiveChannelClosed}
    (h : handleChannelClosed act c = .ok r) :
    Handled P c now bh (.contractReceiveChannelClosed act) (kept r) := by
  unfold handleChannelClosed at h
  dsimp only at h
  split at h
  · next hjust =>
    split at h
    · cases h
      exact .closed hjust.1 hjust.2
    · next hproof =>
      split at h
      · next hcall =>
        split at h
        · cases h
        · cases h
          exact .closedByPartner hjust.1 hjust.2 hcall.1 hproof
      · cases h
        exact .closed hjust.1 hjust.2
  · cases h
    exact .ignored rfl

theorem handleChannelSettled_handled {act : ContractReceiveChannelSettled}
    {r : TransitionResult (Option NettingChannelState)} (h : handleChannelSettled P act c = .ok r) :
    Handled P c now bh (.contractReceiveChannelSettled act) r := by
  unfold handleChannelSettled at h
  split at h
  · next here =>
    simp only [seq_ok_iff, Prod.exists] at h
    obtain ⟨our, ours, hour, partner, partners, hpartner, h⟩ := h
    split at h
    · next hlocks =>
      cases h
      exact .settledEmpty here (of_decide_eq_true hlocks).1 (of_decide_eq_true hlocks).2
    · next hlocks =>
      -- a cooperative settlement has no locks, so the ends are kept
      obtain ⟨rfl, rfl⟩ := checkCoopSettled_cases hour (Bool.not_eq_true _ ▸ hlocks)
      obtain ⟨rfl, rfl⟩ := checkCoopSettled_cases hpartner (Bool.not_eq_true _ ▸ hlocks)
      cases h
      exact .settled here fun hempty => hlocks (decide_eq_true hempty)
  · cases h
    exact .ignored rfl

theorem handleChannelBatchUnlock_handled (act : ContractReceiveChannelBatchUnlock) :
    Handled P c now bh (.contractReceiveChannelBatchUnlock act)
      (handleChannelBatchUnlock P act c) := by
  unfold handleChannelBatchUnlock
  split
  · next hsettled =>
    dsimp only
    split
    · next hempty => exact .unlockedAll hsettled hempty.1 hempty.2
    · exact .unlocked hsettled
  · exact .ignored rfl

theorem handleChannelDeposit_handled {act : ContractReceiveChannelDeposit}
    (h : handleChannelDeposit P act c = .ok r) :
    Handled P c now bh (.contractReceiveChannelDeposit act) (kept r) := by
  simp only [handleChannelDeposit, seq_ok_iff, pure_eq_ok] at h
  obtain ⟨c', h, rfl⟩ := h
  obtain ⟨feeSchedule, rfl⟩ := updateFeeScheduleAfterBalanceChange_ok P h
  exact .deposited

theorem handleChannelWithdraw_handled {act : ContractReceiveChannelWithdraw}
    (h : handleChannelWithdraw P act c = .ok r) :
    Handled P c now bh (.contractReceiveChannelWithdraw act) (kept r) := by
  unfold handleChannelWithdraw at h
  split_ifs at h with hour hpartner
  · simp only [seq_ok_iff, pure_eq_ok] at h
    obtain ⟨c', h, rfl⟩ := h
    obtain ⟨feeSchedule, rfl⟩ := updateFeeScheduleAfterBalanceChange_ok P h
    exact .withdrawn hour
  · simp only [seq_ok_iff, pure_eq_ok] at h
    obtain ⟨c', h, rfl⟩ := h
    obtain ⟨feeSchedule, rfl⟩ := updateFeeScheduleAfterBalanceChange_ok P h
    exact .withdrawnByPartner hour hpartner
  · cases h
    exact .ignored rfl

theorem handleReceiveWithdrawRequest_handled (act : ReceiveWithdrawRequest) :
    Ensures (handleReceiveWithdrawRequest P act c now bh) fun r =>
      Handled P c now bh (.receiveWithdrawRequest act) (kept r) := by
  unfold handleReceiveWithdrawRequest
  split
  · exact .pure (.refused .request)
  · next hvalid =>
    dsimp only
    split
    · next hcoop =>
      refine .bind (handleCoopSettleRequest_handled _ _ _ _) fun r hr => ?_
      cases r with
      | error msg =>
        cases hr with
        | refused refuses => exact .pure (.requestRefused hvalid hcoop refuses)
      | ok r => exact .pure (.requestJoined hvalid hcoop hr)
    · exact .pure (.requestConfirmed hvalid)

theorem handleReceiveWithdrawConfirmation_handled {act : ReceiveWithdrawConfirmation}
    (h : handleReceiveWithdrawConfirmation P act c now bh = .ok r) :
    Handled P c now bh (.receiveWithdrawConfirmation act) (kept r) := by
  unfold handleReceiveWithdrawConfirmation at h
  split at h
  · cases h
    exact .refused .confirmation
  · next hvalid =>
    dsimp only at h
    split at h
    · exact absurd h throw_ne_ok
    · next coopSettle hour _ =>
      obtain ⟨s, es, hsigned, heq⟩ := signOurCoopSettle_signed
        { c with partnerState := { c.partnerState with nonce := act.nonce } }
        { coopSettle with partnerSignatureConfirmation := some act.signature } now bh
      rw [heq] at h
      cases h
      exact .confirmedOurs hvalid hour hsigned
    · cases h
      exact .confirmed hvalid
    · split at h <;> cases h
      · exact .confirmedInTime hvalid
      · exact .confirmed hvalid

theorem handleReceiveWithdrawExpired_handled (act : ReceiveWithdrawExpired) :
    Handled P c now bh (.receiveWithdrawExpired act)
      (kept (handleReceiveWithdrawExpired act c now)) := by
  unfold handleReceiveWithdrawExpired
  split
  · exact .refused .expired
  · split
    · exact .refused .expired
    · next hvalid => exact .expired hvalid

theorem settleClosedChannel_cases {act : Block} (h : settleClosedChannel act c = .ok r) :
    r = ⟨c, []⟩ ∨ ∃ n, getStatus c = .closed ∧
      c.closeTransaction.bind TransactionExecutionStatus.finishedBlockNumber = some n ∧
      n + c.settleTimeout < act.blockNumber ∧
      r = ⟨{ c with settleTransaction := some ⟨some act.blockNumber, none, none⟩ },
        [.contractSendChannelSettle c.canonicalIdentifier act.blockHash]⟩ := by
  unfold settleClosedChannel at h
  split at h
  · next hclosed =>
    split at h
    · cases h
    · next close hclose =>
      dsimp only at h
      split at h
      · next closed hfinished =>
        split at h
        · next hpassed =>
          cases h
          exact .inr ⟨closed + 1, hclosed, by rw [hclose]; exact hfinished, hpassed, rfl⟩
        · cases h
          exact .inl rfl
      · cases h
  · cases h
    exact .inl rfl

theorem handleBlock_swept (act : Block) (hopened : getStatus c = .opened) :
    Ensures (handleBlock act c now) (Swept now c.ourState.withdrawsPending.values c) := by
  refine .after fun _ => ?_
  rw [expireWithdrawsIfOpen, if_pos hopened]
  refine .bind (eventsForExpiredWithdraws_swept now _ c) fun expired hswept => ?_
  refine .bind (Ensures.lift fun r hr => settleClosedChannel_cases hr) fun settled hcases => ?_
  -- the expiration of withdraws does not close the channel
  have hstatus : getStatus expired.newState = .opened := by
    rw [hswept.rest]
    exact hopened
  rcases hcases with rfl | ⟨n, hclosed, -⟩
  · rw [List.append_nil]
    exact .pure hswept
  · rw [hstatus] at hclosed
    cases hclosed

theorem handleBlock_handled (act : Block) :
    Ensures (handleBlock act c now) fun r => Handled P c now bh (.block act) (kept r) := by
  by_cases hopened : getStatus c = .opened
  · exact (handleBlock_swept act hopened).mono fun _ => .swept hopened
  · refine .after fun _ => ?_
    rw [expireWithdrawsIfOpen, if_neg hopened]
    refine .bind (Ensures.pure rfl) fun expired hexpired => ?_
    subst hexpired
    refine .bind (Ensures.lift fun r hr => settleClosedChannel_cases hr) fun settled hcases => ?_
    rcases hcases with rfl | ⟨n, hclosed, hmined, hpassed, rfl⟩
    · exact .pure (.ignored rfl)
    · exact .pure (.settling hclosed hmined hpassed)

end Handlers

theorem ensures_map_kept {m : Handler (TransitionResult NettingChannelState)}
    (h : Ensures m fun r => Q (kept r)) : Ensures (kept <$> m) Q := by
  exact .bind h fun _ hr => .pure hr

private theorem ensures_lift_kept {x : Fallible (TransitionResult NettingChannelState)}
    (h : ∀ r, x = .ok r → Q (kept r)) : Ensures (do return kept (← x) : Handler _) Q :=
  Ensures.bind (Ensures.lift h) fun _ hr => .pure hr

/-- Every handler returns one of the results. -/
theorem handleStateTransitions_handled (sc : ChannelStateChange) (c : NettingChannelState)
    (now : Nat) (bh : BlockHash) :
    Ensures (handleStateTransitions P sc c now bh) (Handled P c now bh sc) := by
  cases sc with
  | block act => exact ensures_map_kept (handleBlock_handled act)
  | actionChannelClose ident => exact ensures_lift_kept fun _ h => handleActionClose_handled h
  | actionChannelCoopSettle act =>
    refine ensures_map_kept ?_
    unfold handleActionCoopSettle
    dsimp only
    split
    · next hvalid => exact (sendWithdrawRequest_requested _ _ _ _ _).mono fun _ h => .coopSettling hvalid rfl h
    · exact .pure (.refused .coopSettle)
  | actionChannelWithdraw act =>
    refine ensures_map_kept ?_
    unfold handleActionWithdraw
    split
    · next hvalid => exact (sendWithdrawRequest_requested _ _ _ _ _).mono fun _ h => .withdrawing hvalid h
    · exact .pure (.refused .withdraw)
  | actionChannelSetRevealTimeout ident revealTimeout =>
    refine .pure ?_
    unfold handleActionSetRevealTimeout
    split
    · exact .timeoutSet
    · exact .refused .setRevealTimeout
  | receiveWithdrawRequest act => exact ensures_map_kept (handleReceiveWithdrawRequest_handled act)
  | receiveWithdrawConfirmation act =>
    exact ensures_lift_kept fun _ h => handleReceiveWithdrawConfirmation_handled h
  | receiveWithdrawExpired act => exact .pure (handleReceiveWithdrawExpired_handled act)
  | contractReceiveChannelClosed act => exact ensures_lift_kept fun _ h => handleChannelClosed_handled h
  | contractReceiveUpdateTransfer act =>
    refine .pure ?_
    unfold handleChannelUpdatedTransfer
    split
    · exact .updated
    · exact .ignored rfl
  | contractReceiveChannelSettled act => exact .lift fun _ h => handleChannelSettled_handled h
  | contractReceiveChannelDeposit act => exact ensures_lift_kept fun _ h => handleChannelDeposit_handled h
  | contractReceiveChannelWithdraw act => exact ensures_lift_kept fun _ h => handleChannelWithdraw_handled h
  | contractReceiveChannelBatchUnlock act => exact .pure (handleChannelBatchUnlock_handled act)

/-- A transition either ran its handler and passed the sanity check, or raised. -/
theorem stateTransition_ensures {sc : ChannelStateChange} {bh : BlockHash}
    (h : Ensures (handleStateTransitions P sc c now bh) Q) :
    Ensures (stateTransition P c sc now bh) fun r => Q r ∧
      ∀ c', r.newState = some c' → sanityCheck P c' = .ok () := by
  have hcheck : ∀ r, Ensures (liftM (sanityCheckNewState P r) : Handler Unit) fun _ =>
      ∀ c', r.newState = some c' → sanityCheck P c' = .ok () := by
    intro r
    refine .lift fun u hu c' hc' => ?_
    rw [sanityCheckNewState, hc'] at hu
    exact hu
  refine .bind h fun r hr => ?_
  exact .bind (hcheck r) fun u hu => .pure ⟨hr, hu⟩

end Raiden.Channel
