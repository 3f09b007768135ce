import Raiden.Channel.Adversary

/-! # Rejected messages

A message of the partner that its handler reports as invalid should leave the
channel as it was. The handlers validate before they write, except that a withdraw
request of a cooperative settlement is stored before the conditions of the
settlement are tested. -/
namespace Raiden.Channel

open Lib

variable {now : Nat} {req : ReceiveWithdrawRequest} {r : TransitionResult NettingChannelState}
  (P : Primitives)

def PartnerMessage.handle (c : NettingChannelState) :
    PartnerMessage → Handler (TransitionResult NettingChannelState)
  | .lockedTransfer transfer md =>
    let (c, result) := handleReceiveLockedtransfer P c transfer md
    return ⟨c, result.events⟩
  | .refundTransfer received refund =>
    let (c, result) := handleRefundtransfer P received c refund
    return ⟨c, result.events⟩
  | .unlock change md => do
    let (c, result) ← handleUnlock P c change md
    return ⟨c, result.events⟩
  | .lockExpired change now md =>
    return handleReceiveLockExpired P c change now md
  | .withdrawRequest request now bh =>
    handleReceiveWithdrawRequest P request c now bh
  | .withdrawConfirmation confirmation now bh =>
    handleReceiveWithdrawConfirmation P confirmation c now bh
  | .withdrawExpired expired now _ => return handleReceiveWithdrawExpired expired c now

/-- If the message is reported as invalid, the channel is the one before it. -/
def RejectedUnchanged (c : NettingChannelState) (r : TransitionResult NettingChannelState) : Prop :=
  (∃ event ∈ r.events, event.isInvalidReceived = true) → r.newState = c

def RefusedLate (c : NettingChannelState) : PartnerMessage → Prop
  | .withdrawRequest request _ _ =>
    isValidWithdrawRequest P c request = .ok () ∧
      (c.ourState.initiatedCoopSettle.isSome ∨ request.coopSettle) ∧ CoopSettleRefuses c request
  | _ => False

variable {P} {c : NettingChannelState} {bh : BlockHash}

/-! ## The cooperative settlement -/

theorem handleCoopSettleRequest_refused (now : Nat) (bh : BlockHash) (h : CoopSettleRefuses c req) :
    ∃ msg, handleCoopSettleRequest req c now bh = pure (.error msg) := by
  unfold handleCoopSettleRequest
  dsimp only
  split
  · exact ⟨_, rfl⟩
  · next hmax =>
    split
    · exact ⟨_, rfl⟩
    · next hpartner =>
      have hlast := (h.resolve_left hmax).resolve_left hpartner
      split
      · next coopSettle hcoop =>
        simp only [hcoop] at hlast
        rw [if_pos hlast]
        exact ⟨_, rfl⟩
      · next hcoop =>
        simp only [hcoop] at hlast
        rw [if_pos hlast]
        exact ⟨_, rfl⟩

theorem CoopHandled.no_invalid (h : CoopHandled c req (.ok r)) :
    ∀ event ∈ r.events, event.isInvalidReceived = false := by
  cases h with
  | signed _ signed => cases signed <;> simp [Event.isInvalidReceived]
  | answered _ _ _ _ requested => cases requested <;> simp [Event.isInvalidReceived]

theorem RejectedUnchanged.of_valid (h : ∀ event ∈ r.events, event.isInvalidReceived = false) :
    RejectedUnchanged c r := by
  rintro ⟨event, hevent, hinvalid⟩
  rw [h event hevent] at hinvalid
  cases hinvalid

private theorem RejectedUnchanged.acknowledged {c' : NettingChannelState} {addr : Address}
    {md : Option AddressMetadata} {ident : MessageID} :
    RejectedUnchanged c ⟨c', [processed addr md ident]⟩ := by
  refine .of_valid fun event hevent => ?_
  cases List.mem_singleton.mp hevent
  rfl

theorem confirmWithdraw_rejectedUnchanged {iteration : TransitionResult NettingChannelState}
    (h : ∀ event ∈ iteration.events, event.isInvalidReceived = false) :
    RejectedUnchanged c (confirmWithdraw req iteration) := by
  refine .of_valid fun event hevent => ?_
  rcases List.mem_append.mp hevent with hevent | hevent
  · exact h event hevent
  · cases List.mem_singleton.mp hevent
    rfl

/-- A request that is refused late has already used up the partner's nonce. -/
theorem handleReceiveWithdrawRequest_refused (h : RefusedLate P c (.withdrawRequest req now bh)) :
    ∃ c' msg, handleReceiveWithdrawRequest P req c now bh =
        pure ⟨c', [.eventInvalidReceivedWithdrawRequest req.totalWithdraw msg]⟩ ∧
      c'.partnerState.nonce = c.partnerState.nonce + 1 := by
  obtain ⟨hvalid, hcoop, hrefuses⟩ := h
  have hnonce := (isValidWithdrawRequest_ok P hvalid).2
  unfold handleReceiveWithdrawRequest
  simp only [hvalid]
  rw [if_pos hcoop]
  obtain ⟨msg, hmsg⟩ := handleCoopSettleRequest_refused now bh
    (c := { c with
      partnerState := { c.partnerState with
        withdrawsPending := c.partnerState.withdrawsPending.set req.totalWithdraw {
          totalWithdraw := req.totalWithdraw
          expiration := req.expiration
          nonce := req.nonce
          recipientMetadata := req.senderMetadata }
        nonce := req.nonce } }) hrefuses
  rw [hmsg, pure_bind]
  exact ⟨_, msg, rfl, hnonce⟩

theorem Swept.no_invalid {ws : List PendingWithdrawState} (h : Swept now ws c r) :
    ∀ event ∈ r.events, event.isInvalidReceived = false := by
  induction h with
  | done | stopped => exact nofun
  | expired _ _ _ _ ih => exact List.forall_mem_cons.mpr ⟨rfl, ih⟩

theorem Handled.rejectedUnchanged {sc : ChannelStateChange} (h : Handled P c now bh sc (kept r))
    (hlate : ∀ req, sc = .receiveWithdrawRequest req → ¬RefusedLate P c (.withdrawRequest
      req now bh)) : RejectedUnchanged c r := by
  obtain ⟨c', es⟩ := r
  cases h with
  | refused => exact fun _ => rfl
  | requestRefused valid coop refuses => exact absurd ⟨valid, coop, refuses⟩ (hlate _ rfl)
  | requestConfirmed => exact confirmWithdraw_rejectedUnchanged nofun
  | requestJoined _ _ handled => exact confirmWithdraw_rejectedUnchanged handled.no_invalid
  | withdrawing _ requested
  | coopSettling _ _ requested => cases requested <;> exact .of_valid (by simp [Event.isInvalidReceived])
  | confirmedOurs _ _ signed =>
    cases signed <;> exact .of_valid (by simp [Event.isInvalidReceived, processed])
  | swept _ sweep => exact .of_valid sweep.no_invalid
  | _ => exact .of_valid (by simp [Event.isInvalidReceived, processed])

variable (P c) in
/-- A rejected message has no effect, unless it is a valid withdraw request that a
cooperative settlement refuses. -/
theorem rejected_unchanged_iff (message : PartnerMessage) :
    Ensures (message.handle P c) (RejectedUnchanged c) ↔ ¬RefusedLate P c message := by
  constructor
  · intro h hlate
    cases message with
    | withdrawRequest request now bh =>
      obtain ⟨c', msg, hhandle, hnonce⟩ := handleReceiveWithdrawRequest_refused hlate
      dsimp only [PartnerMessage.handle] at h
      rw [hhandle] at h
      have hunchanged : c' = c := h (Stream'.const 0) _ _ rfl ⟨_, List.mem_singleton.mpr rfl, rfl⟩
      rw [hunchanged] at hnonce
      omega
    | _ => exact hlate
  · intro h
    cases message with
    | lockedTransfer transfer md =>
      rcases handleReceiveLockedtransfer_cases P transfer md with ⟨msg, heq⟩ | ⟨locks, -, heq⟩
      all_goals
        dsimp only [PartnerMessage.handle]
        rw [heq]
      · exact .pure fun _ => rfl
      · exact .pure .acknowledged
    | refundTransfer received refund =>
      rcases handleRefundtransfer_cases P received refund with ⟨msg, heq⟩ | ⟨locks, -, -, heq⟩
      all_goals
        dsimp only [PartnerMessage.handle]
        rw [heq]
      · exact .pure fun _ => rfl
      · exact .pure .acknowledged
    | unlock unlock md =>
      refine .bind (Ensures.lift (x := handleUnlock P c unlock md)
        (Q := fun r => RejectedUnchanged c ⟨r.1, r.2.events⟩) fun r hr => ?_) fun r hr => .pure hr
      rcases handleUnlock_cases P unlock md with ⟨msg, heq⟩ | ⟨lock, locks, -, heq⟩
      · cases hr.symm.trans heq
        exact fun _ => rfl
      · cases hr.symm.trans heq
        exact .acknowledged
    | lockExpired change now md =>
      rcases handleReceiveLockExpired_cases P change now md with
        ⟨msg, heq⟩ | ⟨lock, locks, -, heq⟩
      all_goals
        dsimp only [PartnerMessage.handle]
        rw [heq]
      · exact .pure fun _ => rfl
      · exact .pure .acknowledged
    | withdrawRequest request now bh =>
      refine (handleReceiveWithdrawRequest_handled (P := P) request).mono fun r hr => ?_
      exact hr.rejectedUnchanged fun _ heq => by cases heq; exact h
    | withdrawConfirmation confirmation now bh =>
      exact .lift fun r hr => (handleReceiveWithdrawConfirmation_handled hr).rejectedUnchanged nofun
    | withdrawExpired expired now bh =>
      have hhandled : Handled P c now [] _ (kept (handleReceiveWithdrawExpired expired c now)) :=
        handleReceiveWithdrawExpired_handled expired
      exact .pure (hhandled.rejectedUnchanged nofun)

/-- The partner, which deposited 100, asks to settle cooperatively with a withdraw of 50. -/
def partialCoopSettle : PartnerMessage :=
  .withdrawRequest {
    sender := 2
    messageIdentifier := 2
    canonicalIdentifier := toyIdentifier
    totalWithdraw := 50
    nonce := 1
    expiration := 30
    signature := [0, 0]
    participant := 2
    coopSettle := true } 10 []

/-- The request is reported as invalid, and its nonce and withdraw are stored. -/
theorem refused_coop_settle_is_stored :
    ∃ r, (partialCoopSettle.handle toyPrimitives (toyChannel 0 100)).run (Stream'.const 0) =
        .ok (r, Stream'.const 0) ∧ (∃ event ∈ r.events, event.isInvalidReceived = true) ∧
      r.newState.partnerState.nonce = 1 ∧ (toyChannel 0 100).partnerState.nonce = 0 ∧
      (r.newState.partnerState.withdrawsPending.get? 50).isSome = true := by
  refine ⟨_, rfl, ?_, ?_, ?_, ?_⟩
  all_goals decide +kernel

end Raiden.Channel
