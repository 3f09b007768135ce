import Raiden.Channel.Step

/-! # An adversarial partner

The partner chooses kind, contents and order of its messages, and the block at
which each one arrives. As long as no cooperative settlement is in progress, a
message is either refused, and nothing changes, or it advances the partner's
nonce by one; our balance never falls, and what the partner has transferred
grows only by the amount of a lock whose secret it reveals. -/
namespace Raiden.Channel

open Lib

/-- A message of the partner, with the local data its handler reads. -/
inductive PartnerMessage where
  | lockedTransfer (transfer : LockedTransferSignedState) (md : Option AddressMetadata)
  | refundTransfer (received : LockedTransferUnsignedState) (refund : ReceiveTransferRefund)
  | unlock (unlock : ReceiveUnlock) (md : Option AddressMetadata)
  | lockExpired (change : ReceiveLockExpired) (now : Nat) (md : Option AddressMetadata)
  | withdrawRequest (request : ReceiveWithdrawRequest) (now : Nat) (bh : BlockHash)
  | withdrawConfirmation (confirmation : ReceiveWithdrawConfirmation) (now : Nat) (bh : BlockHash)
  | withdrawExpired (expired : ReceiveWithdrawExpired) (now : Nat) (bh : BlockHash)

def PartnerMessage.op : PartnerMessage → ChannelOp
  | .lockedTransfer transfer md => .receiveLockedtransfer transfer md
  | .refundTransfer received refund => .receiveRefundtransfer received refund
  | .unlock change md => .receiveUnlock change md
  | .lockExpired change now md => .receiveLockExpired change now md
  | .withdrawRequest request now bh => .stateChange (.receiveWithdrawRequest request) now bh
  | .withdrawConfirmation confirmation now bh =>
    .stateChange (.receiveWithdrawConfirmation confirmation) now bh
  | .withdrawExpired expired now bh => .stateChange (.receiveWithdrawExpired expired) now bh

def PartnerMessage.asksCoopSettle : PartnerMessage → Bool
  | .withdrawRequest request _ _ => request.coopSettle
  | _ => false

variable (P : Primitives)

/-- The delivery of a message that was handled without raising, and that does not ask
for a cooperative settlement. -/
structure Delivery (c : NettingChannelState) (label : PartnerMessage × List Event)
    (c' : NettingChannelState) : Prop where
  step : Step P c (label.1.op, label.2) c'
  asksNot : label.1.asksCoopSettle = false

structure NoCoopSettle (c : NettingChannelState) : Prop where
  our : c.ourState.initiatedCoopSettle = none
  partner : c.partnerState.initiatedCoopSettle = none

inductive Transferred (c : NettingChannelState) (message : PartnerMessage)
    (c' : NettingChannelState) : Prop
  | same (h : c'.partnerState.transferredAmount = c.partnerState.transferredAmount)
  | unlocked {unlock : ReceiveUnlock} {md : Option AddressMetadata} {lock : HashTimeLockState}
      (hm : message = .unlock unlock md)
      (hl : getLock c.partnerState (unlock.secrethash P) = some lock)
      (h : c'.partnerState.transferredAmount = c.partnerState.transferredAmount + lock.amount)

/-- The effect of an accepted message. Of our end only the nonce may change. -/
structure Accepted (c : NettingChannelState) (message : PartnerMessage)
    (c' : NettingChannelState) : Prop where
  nonce : c'.partnerState.nonce = c.partnerState.nonce + 1
  transferred : Transferred P c message c'
  our : c'.ourState = { c.ourState with nonce := c'.ourState.nonce }
  coopSettle : c'.partnerState.initiatedCoopSettle = none

/-- A message is refused with an event that says so, or accepted without one. -/
inductive Effect (c : NettingChannelState) (label : PartnerMessage × List Event)
    (c' : NettingChannelState) : Prop
  | rejected (hinvalid : label.2.any Event.isInvalidReceived = true) (h : c' = c)
  | accepted (hvalid : label.2.any Event.isInvalidReceived = false) (h : Accepted P c label.1 c')

variable {P} {c c' : NettingChannelState} {label : PartnerMessage × List Event}

/-- The handlers of the withdraw messages leave the balance proofs alone. -/
theorem Handled.effect {sc : ChannelStateChange} {now : Nat} {bh : BlockHash}
    {es : List Event} (h : Handled P c now bh sc ⟨some c', es⟩)
    (hcoop : NoCoopSettle c) (msg : PartnerMessage) (hmsg : msg.asksCoopSettle = false)
    (hop : msg.op = .stateChange sc now bh) : Effect P c (msg, es) c' := by
  cases msg with
  | lockedTransfer | refundTransfer | unlock | lockExpired => cases hop
  | withdrawRequest req =>
    cases hop
    have hrequest : req.coopSettle = false := hmsg
    have hno : ¬(c.ourState.initiatedCoopSettle.isSome ∨ req.coopSettle) := by simp [hcoop.our, hrequest]
    cases h with
    | ignored may => cases may
    | refused notice => cases notice; exact .rejected rfl rfl
    | requestRefused _ coop | requestJoined _ coop => exact absurd coop hno
    | requestConfirmed valid =>
      exact .accepted rfl ⟨(isValidWithdrawRequest_ok P valid).2, .same rfl, rfl, hcoop.partner⟩
  | withdrawConfirmation =>
    cases hop
    cases h with
    | ignored may => cases may
    | refused notice => cases notice; exact .rejected rfl rfl
    | confirmed valid | confirmedInTime valid =>
      exact .accepted rfl ⟨isValidWithdrawConfirmation_ok P valid, .same rfl, rfl, hcoop.partner⟩
    | confirmedOurs _ ours => exact absurd (hcoop.our.symm.trans ours) (Option.some_ne_none _).symm
  | withdrawExpired =>
    cases hop
    cases h with
    | ignored may => cases may
    | refused notice => cases notice; exact .rejected rfl rfl
    | expired valid =>
      refine .accepted rfl ⟨(isValidWithdrawExpired_ok valid).1, .same rfl, rfl, ?_⟩
      rw [hcoop.partner]
      rfl

theorem Delivery.effect (h : Delivery P c label c')
    (hcoop : NoCoopSettle c) : Effect P c label c' := by
  obtain ⟨msg, es⟩ := label
  have houtcome := Step.outcome h.step
  generalize hop : msg.op = op at houtcome
  cases houtcome with
  | handled handled => exact handled.effect hcoop msg h.asksNot hop
  | refused notice => cases notice <;> exact .rejected rfl rfl
  | receivedTransfer facts | receivedRefund facts =>
    exact .accepted rfl ⟨facts.usable.nonce, .same facts.added.transferred_eq, rfl, hcoop.partner⟩
  | receivedExpired facts =>
    exact .accepted rfl ⟨facts.usable.nonce, .same facts.expired'.transferred_eq, rfl, hcoop.partner⟩
  | receivedUnlock facts =>
    cases msg <;> cases hop
    exact .accepted rfl ⟨facts.usable.nonce, .unlocked rfl facts.lock_eq facts.unlocked.transferred_eq, rfl,
      hcoop.partner⟩
  | _ => cases msg <;> cases hop

theorem Effect.noCoopSettle (h : Effect P c label c')
    (hcoop : NoCoopSettle c) : NoCoopSettle c' := by
  cases h with
  | rejected _ h => exact h ▸ hcoop
  | accepted _ h => exact ⟨by rw [h.our]; exact hcoop.our, h.coopSettle⟩

theorem Effect.transferred_le (h : Effect P c label c') :
    c.partnerState.transferredAmount ≤ c'.partnerState.transferredAmount := by
  cases h with
  | rejected _ h => exact h ▸ Nat.le_refl _
  | accepted _ h =>
    cases h.transferred with
    | same h | unlocked _ _ h => omega

theorem Effect.balance_le (h : Effect P c label c') :
    getBalance c.ourState c.partnerState ≤ getBalance c'.ourState c'.partnerState := by
  have htransferred := h.transferred_le
  cases h with
  | rejected _ h => exact h ▸ Int.le_refl _
  | accepted _ h =>
    rw [h.our]
    simp only [getBalance, getBalanceWith, if_true]
    have hwithdraw : NettingChannelEndState.totalWithdraw
        { c.ourState with nonce := c'.ourState.nonce } = c.ourState.totalWithdraw := rfl
    have hour : NettingChannelEndState.transferredAmount
        { c.ourState with nonce := c'.ourState.nonce } = c.ourState.transferredAmount := rfl
    rw [hwithdraw, hour]
    omega

/-! ## Every sequence of messages -/

/-- Whatever the partner sends, our balance and what the partner transferred
never fall, and each message has the effect of its acceptance or of its refusal. -/
theorem partner_cannot_take_value {c₀ : NettingChannelState} {log : List (PartnerMessage × List Event)}
    (hcoop : NoCoopSettle c₀) (hrun : Run (Delivery P) c₀ log c) :
    Run (Effect P) c₀ log c ∧
      getBalance c₀.ourState c₀.partnerState ≤ getBalance c.ourState c.partnerState ∧
      c₀.partnerState.transferredAmount ≤ c.partnerState.transferredAmount := by
  have hinv : NoCoopSettle c ∧ Run (Effect P) c₀ log c ∧
      getBalance c₀.ourState c₀.partnerState ≤ getBalance c.ourState c.partnerState ∧
      c₀.partnerState.transferredAmount ≤ c.partnerState.transferredAmount := by
    refine hrun.invariant_log (I := fun log c => NoCoopSettle c ∧ Run (Effect P) c₀ log c ∧
      getBalance c₀.ourState c₀.partnerState ≤ getBalance c.ourState c.partnerState ∧
      c₀.partnerState.transferredAmount ≤ c.partnerState.transferredAmount) ?_ ?_
    · exact ⟨hcoop, .start _, Int.le_refl _, Nat.le_refl _⟩
    · rintro log c label c' ⟨hc, hpast, hbalance, htransferred⟩ hstep
      have heffect := hstep.effect hc
      exact ⟨heffect.noCoopSettle hc, hpast.step heffect, Int.le_trans hbalance heffect.balance_le,
        Nat.le_trans htransferred heffect.transferred_le⟩
  exact hinv.2

/-- Deliver a message; `none` when its handling raises or it asks for a cooperative settlement. -/
def deliver (P : Primitives) (c : NettingChannelState) (message : PartnerMessage) :
    Option ((PartnerMessage × List Event) × NettingChannelState) :=
  (message.op.record P (fun _ _ => message.asksCoopSettle = false) 0 c).map
    fun done => ((message, done.1.2), done.2)

theorem deliver_sound {msg : PartnerMessage}
    (h : deliver P c msg = some (label, c')) : Delivery P c label c' := by
  obtain ⟨⟨⟨op, es⟩, c'⟩, hrecord, heq⟩ := Option.map_eq_some_iff.mp h
  cases heq
  obtain ⟨rfl, hmsg, hstep⟩ : op = _ ∧ _ := ChannelOp.record_sound hrecord
  exact ⟨hstep, hmsg⟩

def transferReplayUnlock : List PartnerMessage :=
  let transfer := toyTransfer (toyLock 50 7) (toyBalanceProof 0 0 50 [toyLock 50 7])
  [.lockedTransfer transfer none, .lockedTransfer transfer none,
    .unlock {
      sender := 2
      messageIdentifier := 3
      secret := [7]
      balanceProof := toyBalanceProof 1 50 0 [] } none]

theorem partner_only_pays_toy : ∃ log c, Run (Delivery toyPrimitives) (toyChannel 0 100) log c ∧
    c.partnerState.nonce = 2 ∧ Run (Effect toyPrimitives) (toyChannel 0 100) log c ∧
    0 ≤ getBalance c.ourState c.partnerState ∧ 0 ≤ c.partnerState.transferredAmount := by
  have hexec : (execute (deliver toyPrimitives) transferReplayUnlock ([], toyChannel 0 100)).any
      (fun done => done.2.partnerState.nonce = 2) = true := by decide +kernel
  obtain ⟨log, c, hrun, hnonce⟩ := Run.execute (.start _) hexec fun _ _ _ _ hnext => deliver_sound hnext
  exact ⟨log, c, hrun, of_decide_eq_true hnonce, partner_cannot_take_value ⟨rfl, rfl⟩ hrun⟩

end Raiden.Channel
