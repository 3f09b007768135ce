import Raiden.Channel.Agreement
import Raiden.Channel.Life
import Raiden.Channel.Nonces
import Raiden.Channel.Sanity

/-! # Confirmations of withdraws

Two nodes run the same channel and exchange signed withdraw messages. A message
that was sent may be delivered at any later time, so delivery in order is a
special case. A confirmation is only sent for a request that the other node
sent, and it is accepted exactly when its withdraw is still the total withdraw
of the node that requested it. -/
namespace Raiden.Channel

open Lib

variable {bh : BlockHash} {op : ChannelOp} {es : List Event} {now : Nat}
  {m : SendWithdraw} {r : TransitionResult NettingChannelState}

inductive WithdrawMessage where
  | request (change : ReceiveWithdrawRequest)
  | confirmation (change : ReceiveWithdrawConfirmation)
  | expired (change : ReceiveWithdrawExpired)

def WithdrawMessage.change : WithdrawMessage → ChannelStateChange
  | .request change => .receiveWithdrawRequest change
  | .confirmation change => .receiveWithdrawConfirmation change
  | .expired change => .receiveWithdrawExpired change

def ChannelOp.withdrawMessage : ChannelOp → Option WithdrawMessage
  | .stateChange (.receiveWithdrawRequest change) _ _ => some (.request change)
  | .stateChange (.receiveWithdrawConfirmation change) _ _ => some (.confirmation change)
  | .stateChange (.receiveWithdrawExpired change) _ _ => some (.expired change)
  | _ => none

section Sign

variable {P : Primitives} (S : Signing P) (address : Address)

/-- The message of an event, signed by `address`; amounts are encoded as unsigned numbers. -/
def Signing.withdrawMessage : Event → Option WithdrawMessage
  | .sendWithdrawRequest m => some (.request {
      sender := address
      messageIdentifier := m.messageIdentifier
      canonicalIdentifier := m.canonicalIdentifier
      totalWithdraw := m.totalWithdraw.toNat
      nonce := m.nonce
      expiration := m.expiration
      signature := S.sign address
        (.withdraw m.canonicalIdentifier m.participant m.totalWithdraw.toNat m.expiration)
      participant := m.participant
      coopSettle := m.coopSettle })
  | .sendWithdrawConfirmation m => some (.confirmation {
      sender := address
      messageIdentifier := m.messageIdentifier
      canonicalIdentifier := m.canonicalIdentifier
      totalWithdraw := m.totalWithdraw.toNat
      nonce := m.nonce
      expiration := m.expiration
      signature := S.sign address
        (.withdraw m.canonicalIdentifier m.participant m.totalWithdraw.toNat m.expiration)
      participant := m.participant })
  | .sendWithdrawExpired m => some (.expired {
      sender := address
      messageIdentifier := m.messageIdentifier
      canonicalIdentifier := m.canonicalIdentifier
      totalWithdraw := m.totalWithdraw.toNat
      expiration := m.expiration
      nonce := m.nonce
      participant := m.participant })
  | _ => none

end Sign

/-- The two copies of the channel and every withdraw message that was sent. -/
structure Exchange where
  x : NettingChannelState
  y : NettingChannelState
  fromX : List WithdrawMessage
  fromY : List WithdrawMessage

def Exchange.swap (e : Exchange) : Exchange := ⟨e.y, e.x, e.fromY, e.fromX⟩

/-- Node `x` performs an operation; a withdraw message it receives was sent by `y`. -/
inductive Performs (P : Primitives) (S : Signing P) (e : Exchange) : ChannelOp × List Event → Exchange → Prop
  | intro {op : ChannelOp} {es : List Event} {c' : NettingChannelState}
      (sent : ∀ message, op.withdrawMessage = some message → message ∈ e.fromY)
      (h : Step P e.x (op, es) c') :
      Performs P S e (op, es) { e with
        x := c'
        fromX := e.fromX ++ es.filterMap (S.withdrawMessage e.x.ourState.address) }

/-- One of the two nodes performs an operation. -/
inductive ExchangeStep (P : Primitives) (S : Signing P) (e : Exchange) :
    Bool × ChannelOp × List Event → Exchange → Prop
  | x {label : ChannelOp × List Event} {e' : Exchange} (h : Performs P S e label e') :
      ExchangeStep P S e (true, label) e'
  | y {label : ChannelOp × List Event} {e' : Exchange} (h : Performs P S e.swap label e'.swap) :
      ExchangeStep P S e (false, label) e'

structure Exchange.Initial (e : Exchange) : Prop extends JustOpened e.x e.y where
  fromX : e.fromX = []
  fromY : e.fromY = []

/-! ## When a confirmation is accepted -/

section

variable (P : Primitives) (c : NettingChannelState) (m : ReceiveWithdrawConfirmation)

/-- The withdraw of the confirmation is the total withdraw of our end, with the expiration
that is stored for it; only one of the ends initiated a cooperative settlement, and the
channel passes its sanity check. -/
structure Confirmable : Prop where
  total : (m.totalWithdraw : Int) = c.ourState.totalWithdraw
  expiration : getWithdrawExpiration c.ourState m.totalWithdraw = some m.expiration
  safe : isValidChannelTotalWithdraw (m.totalWithdraw + c.partnerState.totalWithdraw) = true
  initiated : c.ourState.initiatedCoopSettle = none ∨ c.partnerState.initiatedCoopSettle = none
  sane : sanityCheck P c = .ok ()

/-- A confirmation as an honest partner sends it. -/
structure Honest : Prop where
  identifier : m.canonicalIdentifier = c.canonicalIdentifier
  participant : m.participant = c.ourState.address
  sender : m.sender = c.partnerState.address
  signature : isValidSignature P
    (.withdraw m.canonicalIdentifier m.participant m.totalWithdraw m.expiration) m.signature m.sender = .ok ()

end

section Accept

variable {P : Primitives} {c : NettingChannelState} {m : ReceiveWithdrawConfirmation} {now : Nat}
  {bh : BlockHash}

theorem Honest.isValid_iff (h : Honest P c m) (hnonce : m.nonce = getNextNonce c.partnerState) :
    isValidWithdrawConfirmation P c m = .ok () ↔
      (m.totalWithdraw : Int) = c.ourState.totalWithdraw ∧
      getWithdrawExpiration c.ourState m.totalWithdraw = some m.expiration ∧
      isValidChannelTotalWithdraw (m.totalWithdraw + c.partnerState.totalWithdraw) = true := by
  unfold isValidWithdrawConfirmation
  cases hw : getWithdrawExpiration c.ourState m.totalWithdraw with
  | none => simp [hw]
  | some exp =>
    have hsignature := h.signature
    simp only [hw, ite_error_eq_ok, ne_eq, not_not, Bool.not_eq_false, Option.some.injEq]
    constructor
    · rintro ⟨-, htotal, -, hexpiration, -, -, hsafe, -⟩
      exact ⟨htotal, hexpiration.symm, hsafe⟩
    · rintro ⟨htotal, hexpiration, hsafe⟩
      exact ⟨h.identifier.symm, htotal, hnonce, hexpiration.symm, h.participant, h.sender, hsafe, hsignature⟩

def confirmed (c : NettingChannelState) (nonce : Nat) (coopSettle : Option CoopSettleState) :
    NettingChannelState :=
  { c with
    ourState := { c.ourState with initiatedCoopSettle := coopSettle }
    partnerState := { c.partnerState with nonce } }

/-- The nonce of the partner and the signatures of a cooperative settlement do not matter to
the sanity check. -/
theorem sane_confirmed {n : Nat} {coopSettle : Option CoopSettleState}
    (hcoop : coopSettle.isSome = c.ourState.initiatedCoopSettle.isSome) :
    Sane P (confirmed c n coopSettle) ↔ Sane P c := by
  have hinitiated : coopSettleInitiated (confirmed c n coopSettle) = coopSettleInitiated c :=
    congrArg (· || c.partnerState.initiatedCoopSettle.isSome) hcoop
  constructor
  · rintro ⟨hordered, hour, hpartner⟩
    rw [hinitiated] at hordered
    have hours : SameFunds (confirmed c n coopSettle).ourState c.ourState :=
      ⟨⟨rfl, rfl, rfl, rfl, rfl, rfl⟩, rfl, rfl⟩
    have hpartners : SameFunds (confirmed c n coopSettle).partnerState c.partnerState :=
      ⟨⟨rfl, rfl, rfl, rfl, rfl, rfl⟩, rfl, rfl⟩
    exact ⟨hordered, hour.congr hours hpartners, hpartner.congr hpartners hours⟩
  · rintro ⟨hordered, hour, hpartner⟩
    rw [← hinitiated] at hordered
    have hours : SameFunds c.ourState (confirmed c n coopSettle).ourState :=
      ⟨⟨rfl, rfl, rfl, rfl, rfl, rfl⟩, rfl, rfl⟩
    have hpartners : SameFunds c.partnerState (confirmed c n coopSettle).partnerState :=
      ⟨⟨rfl, rfl, rfl, rfl, rfl, rfl⟩, rfl, rfl⟩
    exact ⟨hordered, hour.congr hours hpartners, hpartner.congr hpartners hours⟩

theorem CoopSigned.valid {coopSettle s : CoopSettleState} (h : CoopSigned coopSettle s es) :
    ∀ e ∈ es, e.isInvalidReceived = false := by
  cases h <;> simp [Event.isInvalidReceived]

/-- A valid confirmation stops the node when both ends initiated a cooperative settlement. -/
theorem handleReceiveWithdrawConfirmation_of_valid (hvalid : isValidWithdrawConfirmation P c m = .ok ())
    (now : Nat) (bh : BlockHash) :
    (c.ourState.initiatedCoopSettle = none ∨ c.partnerState.initiatedCoopSettle = none →
      ∃ coopSettle es, handleReceiveWithdrawConfirmation P m c now bh =
          .ok ⟨confirmed c m.nonce coopSettle, es⟩ ∧
        coopSettle.isSome = c.ourState.initiatedCoopSettle.isSome ∧
        ∀ e ∈ es, e.isInvalidReceived = false) ∧
    (¬(c.ourState.initiatedCoopSettle = none ∨ c.partnerState.initiatedCoopSettle = none) →
      ∃ raised, handleReceiveWithdrawConfirmation P m c now bh = .error raised) := by
  have hprocessed : ∀ (es : List Event) (md : Option AddressMetadata),
      (∀ e ∈ es, e.isInvalidReceived = false) →
      ∀ e ∈ processed c.partnerState.address md m.messageIdentifier :: es,
        e.isInvalidReceived = false := by
    intro es md hevents e he
    rcases List.mem_cons.mp he with rfl | he
    · rfl
    · exact hevents e he
  unfold handleReceiveWithdrawConfirmation
  rw [hvalid]
  refine ⟨fun hone => ?_, fun hboth => ?_⟩
  · dsimp only
    split
    · next hour hpartner =>
      rw [hour, hpartner] at hone
      rcases hone with h | h <;> cases h
    · next coopSettle hour _ =>
      obtain ⟨coopSettle', es, hsigned, heq⟩ := signOurCoopSettle_signed
        { c with partnerState := { c.partnerState with nonce := m.nonce } }
        { coopSettle with partnerSignatureConfirmation := some m.signature } now bh
      rw [heq, hour]
      exact ⟨some coopSettle', _, rfl, rfl, hprocessed es _ hsigned.valid⟩
    · exact ⟨c.ourState.initiatedCoopSettle, _, rfl, rfl, hprocessed [] _ nofun⟩
    · split
      · refine ⟨c.ourState.initiatedCoopSettle, _, rfl, rfl, hprocessed _ _ fun e he => ?_⟩
        rw [List.mem_singleton.mp he]
        rfl
      · exact ⟨c.ourState.initiatedCoopSettle, _, rfl, rfl,
          hprocessed [] _ nofun⟩
  · dsimp only
    split
    · exact ⟨_, rfl⟩
    · next hpartner => exact absurd (.inr hpartner) hboth
    · next hour _ => exact absurd (.inl hour) hboth
    · next hour _ => exact absurd (.inl hour) hboth

/-- The message was accepted: it is not reported as invalid, and the nonce of the partner is
that of the message. -/
def Advanced (nonce : Nat) (r : TransitionResult (Option NettingChannelState)) : Prop :=
  (∀ e ∈ r.events, e.isInvalidReceived = false) ∧
    ∃ c', r.newState = some c' ∧ c'.partnerState.nonce = nonce

theorem Honest.accepted_iff (h : Honest P c m) (hnonce : m.nonce = getNextNonce c.partnerState) :
    Returns (stateTransition P c (.receiveWithdrawConfirmation m) now bh) (Advanced m.nonce) ↔
      Confirmable P c m := by
  have hvalid_iff := h.isValid_iff hnonce
  constructor
  · intro hreturns
    obtain ⟨r, prng', hrun, hinvalid, -⟩ := hreturns (Stream'.const 0)
    obtain ⟨iteration, prng'', hhandler, hrest⟩ := run_bind_eq_ok.mp hrun
    obtain ⟨u, prng₃, hsane, hpure⟩ := run_bind_eq_ok.mp hrest
    obtain ⟨rfl, -⟩ := run_pure_eq_ok.mp hpure
    obtain ⟨result, prng₄, hresult, hkept⟩ := run_bind_eq_ok.mp hhandler
    obtain ⟨hresult, -⟩ := run_lift_eq_ok.mp hresult
    obtain ⟨rfl, -⟩ := run_pure_eq_ok.mp hkept
    replace hsane := (run_lift_eq_ok.mp hsane).1
    cases hvalid : isValidWithdrawConfirmation P c m with
    | error msg =>
      simp only [handleReceiveWithdrawConfirmation, hvalid] at hresult
      cases hresult
      exact absurd (hinvalid _ (List.mem_singleton_self _)) Bool.noConfusion
    | ok u =>
      obtain ⟨htotal, hexpiration, hsafe⟩ := hvalid_iff.mp hvalid
      obtain ⟨hone, hboth⟩ := handleReceiveWithdrawConfirmation_of_valid hvalid now bh
      by_cases hinitiated : c.ourState.initiatedCoopSettle = none ∨ c.partnerState.initiatedCoopSettle = none
      · obtain ⟨coopSettle, es, heq, hcoop, -⟩ := hone hinitiated
        rw [heq] at hresult
        cases hresult
        exact ⟨htotal, hexpiration, hsafe, hinitiated,
          sanityCheck_iff.mpr ((sane_confirmed hcoop).mp (sanityCheck_iff.mp hsane))⟩
      · obtain ⟨raised, heq⟩ := hboth hinitiated
        rw [heq] at hresult
        cases hresult
  · rintro ⟨htotal, hexpiration, hsafe, hinitiated, hsane⟩
    have hvalid := hvalid_iff.mpr ⟨htotal, hexpiration, hsafe⟩
    obtain ⟨coopSettle, es, heq, hcoop, hevents⟩ :=
      (handleReceiveWithdrawConfirmation_of_valid hvalid now bh).1 hinitiated
    have hsane' : sanityCheck P (confirmed c m.nonce coopSettle) = .ok () :=
      sanityCheck_iff.mpr ((sane_confirmed hcoop).mpr (sanityCheck_iff.mp hsane))
    have hhandler : Returns (handleStateTransitions P (.receiveWithdrawConfirmation m) c now bh)
        fun r => r = ⟨some (confirmed c m.nonce coopSettle), es⟩ :=
      Returns.bind (Returns.lift heq rfl) fun _ ha => .pure (by rw [← ha]; rfl)
    refine .bind hhandler fun r hr => ?_
    subst hr
    exact .bind (Q := fun _ => True) (Returns.lift hsane' trivial) fun _ _ =>
      Returns.pure ⟨hevents, _, rfl, rfl⟩

end Accept

/-! ## What a node sends -/

section Sends

variable {P : Primitives} {c c' : NettingChannelState}

/-- The operation receives the request that `m` confirms. -/
def Confirms (c : NettingChannelState) (op : ChannelOp) (m : SendWithdraw) : Prop :=
  ∃ act now bh, op = .stateChange (.receiveWithdrawRequest act) now bh ∧
    m.totalWithdraw = act.totalWithdraw ∧ m.expiration = act.expiration ∧
    m.participant = c.partnerState.address ∧ m.canonicalIdentifier = c.canonicalIdentifier

theorem WithdrawRequested.no_confirmation {t : Int} (h : WithdrawRequested c t r) (m : SendWithdraw) :
    .sendWithdrawConfirmation m ∉ r.events := by
  cases h <;> simp

theorem CoopSigned.no_confirmation {coopSettle s : CoopSettleState} (h : CoopSigned coopSettle s es)
    (m : SendWithdraw) : .sendWithdrawConfirmation m ∉ es := by
  cases h <;> simp

theorem Swept.no_confirmation {ws : List PendingWithdrawState} (h : Swept now ws c r)
    (m : SendWithdraw) : .sendWithdrawConfirmation m ∉ r.events := by
  induction h with
  | done | stopped => exact List.not_mem_nil
  | expired _ _ _ _ ih => simpa using ih

theorem confirmWithdraw_confirms {act : ReceiveWithdrawRequest}
    (haddress : r.newState.partnerState.address = c.partnerState.address)
    (hidentifier : r.newState.canonicalIdentifier = c.canonicalIdentifier)
    (hno : .sendWithdrawConfirmation m ∉ r.events)
    (hm : .sendWithdrawConfirmation m ∈ (confirmWithdraw act r).events) :
    Confirms c (.stateChange (.receiveWithdrawRequest act) now bh) m := by
  rcases List.mem_append.mp hm with hm | hm
  · exact absurd hm hno
  · cases List.mem_singleton.mp hm
    exact ⟨act, now, bh, rfl, rfl, rfl, haddress, hidentifier⟩

theorem Handled.confirms {sc : ChannelStateChange}
    {r : TransitionResult (Option NettingChannelState)} (h : Handled P c now bh sc r)
    (hm : .sendWithdrawConfirmation m ∈ r.events) : Confirms c (.stateChange sc now bh) m := by
  cases h with
  | refused notice => cases notice <;> simp at hm
  | withdrawing _ requested
  | coopSettling _ _ requested => exact absurd hm (requested.no_confirmation m)
  | requestConfirmed => exact confirmWithdraw_confirms rfl rfl List.not_mem_nil hm
  | requestJoined _ _ handled =>
    cases handled with
    | signed _ signed => exact confirmWithdraw_confirms rfl rfl (signed.no_confirmation m) hm
    | answered _ _ _ _ requested =>
      have hrest := requested.ours.rest
      refine confirmWithdraw_confirms ?_ ?_ ?_ hm
      · rw [hrest]
        rfl
      · rw [hrest]
        rfl
      · exact fun hm => (List.mem_append.mp hm).elim (requested.no_confirmation m)
          (requested.no_confirmation m)
  | confirmedOurs _ _ signed =>
    rcases List.mem_cons.mp hm with hm | hm
    · cases hm
    · exact absurd hm (signed.no_confirmation m)
  | swept _ sweep => exact absurd hm (sweep.no_confirmation m)
  | _ => simp [processed] at hm

/-- Only a received request is confirmed. -/
theorem Step.confirms (h : Step P c (op, es) c') (hm : .sendWithdrawConfirmation m ∈ es) :
    Confirms c op m := by
  cases h.outcome with
  | handled handled => exact handled.confirms hm
  | refused notice => cases notice <;> simp at hm
  | _ => simp [processed] at hm

end Sends

section Runs

variable {P : Primitives} {S : Signing P} {e e' : Exchange} {label : Bool × ChannelOp × List Event}
  {m : ReceiveWithdrawConfirmation}

/-- What `x` confirmed, `y` requested. -/
def Requested (P : Primitives) (e : Exchange) : Prop :=
  ∀ m, .confirmation m ∈ e.fromX → Honest P e.y m ∧ ∃ request, .request request ∈ e.fromY ∧
    request.totalWithdraw = m.totalWithdraw ∧ request.expiration = m.expiration

structure Authentic (P : Primitives) (e : Exchange) : Prop where
  identifier : e.x.canonicalIdentifier = e.y.canonicalIdentifier
  xAddress : e.y.partnerState.address = e.x.ourState.address
  yAddress : e.x.partnerState.address = e.y.ourState.address
  fromX : Requested P e
  fromY : Requested P e.swap

theorem Authentic.swap (h : Authentic P e) : Authentic P e.swap :=
  ⟨h.identifier.symm, h.yAddress, h.xAddress, h.fromY, h.fromX⟩

theorem Exchange.Initial.authentic (h : e.Initial) : Authentic P e where
  identifier := h.identifier
  xAddress := h.xAddress
  yAddress := h.yAddress
  fromX m hm := by
    rw [h.fromX] at hm
    exact absurd hm List.not_mem_nil
  fromY m hm := by
    rw [Exchange.swap, h.fromY] at hm
    exact absurd hm List.not_mem_nil

theorem Honest.congr {c c' : NettingChannelState} (h : Honest P c m)
    (hidentifier : c'.canonicalIdentifier = c.canonicalIdentifier)
    (hour : c'.ourState.address = c.ourState.address)
    (hpartner : c'.partnerState.address = c.partnerState.address) : Honest P c' m :=
  ⟨h.identifier.trans hidentifier.symm, h.participant.trans hour.symm, h.sender.trans hpartner.symm, h.signature⟩

theorem Signing.isValidSignature (S : Signing P) (address : Address) (data : SignedData) :
    Channel.isValidSignature P data (S.sign address data) address = .ok () := by
  rw [Channel.isValidSignature, S.recover_sign]
  exact if_pos rfl

/-- A confirmation that `x` signs is one that `y` can trust. -/
theorem Confirms.honest {event : SendWithdraw} (h : Confirms e.x op event) (ha : Authentic P e)
    (sent : ∀ msg, op.withdrawMessage = some msg → msg ∈ e.fromY)
    (hm : S.withdrawMessage e.x.ourState.address (.sendWithdrawConfirmation event) = some (.confirmation m)) :
    Honest P e.y m ∧ ∃ req, .request req ∈ e.fromY ∧
      req.totalWithdraw = m.totalWithdraw ∧ req.expiration = m.expiration := by
  obtain ⟨act, now, bh, rfl, htotal, hexpiration, hparticipant, hidentifier⟩ := h
  cases hm
  refine ⟨⟨hidentifier.trans ha.identifier, hparticipant.trans ha.yAddress, ha.xAddress.symm, ?_⟩, act,
    sent _ rfl, ?_, hexpiration.symm⟩
  · exact S.isValidSignature _ _
  · rw [htotal]
    rfl

theorem Performs.authentic {label : ChannelOp × List Event} (h : Performs P S e label e')
    (ha : Authentic P e) : Authentic P e' := by
  cases h with
  | @intro op es c' sent hstep =>
    have hsame := hstep.sameIdentity
    refine ⟨hsame.identifier.trans ha.identifier, ha.xAddress.trans hsame.our.symm, hsame.partner.trans ha.yAddress,
      fun m hm => ?_, fun m hm => ?_⟩
    · rcases List.mem_append.mp hm with hm | hm
      · exact ha.fromX m hm
      · obtain ⟨event, hevent, hsigned⟩ := List.mem_filterMap.mp hm
        cases event with
        | sendWithdrawConfirmation event =>
          exact (hstep.confirms hevent).honest ha sent hsigned
        | _ => cases hsigned
    · obtain ⟨hhonest, req, hrequest, htotal, hexpiration⟩ := ha.fromY m hm
      exact ⟨hhonest.congr hsame.identifier hsame.our hsame.partner, req, List.mem_append_left _ hrequest, htotal,
        hexpiration⟩

theorem ExchangeStep.authentic (h : ExchangeStep P S e label e') (ha : Authentic P e) : Authentic P e' := by
  cases h with
  | x h => exact h.authentic ha
  | y h => exact (h.authentic ha.swap).swap

/-- A confirmation of the partner that comes as its next nonce is for a request that was
really sent, and it is accepted exactly when it is confirmable. -/
theorem withdraw_confirmation_accepted_iff {e₀ : Exchange} {log : List (Bool × ChannelOp × List Event)}
    {m : ReceiveWithdrawConfirmation} {now : Nat} {bh : BlockHash} (h₀ : e₀.Initial)
    (run : Run (ExchangeStep P S) e₀ log e) (hm : .confirmation m ∈ e.fromY)
    (hnonce : m.nonce = getNextNonce e.x.partnerState) :
    (∃ request, .request request ∈ e.fromX ∧ request.totalWithdraw = m.totalWithdraw ∧
      request.expiration = m.expiration) ∧
    (Returns (stateTransition P e.x (.receiveWithdrawConfirmation m) now bh) (Advanced m.nonce) ↔
      Confirmable P e.x m) := by
  have hauthentic : Authentic P e :=
    run.invariant (I := Authentic P) h₀.authentic fun _ _ _ hi hstep => hstep.authentic hi
  obtain ⟨hhonest, hrequest⟩ := hauthentic.fromY m hm
  exact ⟨hrequest, hhonest.accepted_iff hnonce⟩

end Runs

section Concrete

/-- What a node does next: an operation of its own, or the delivery of an earlier message. -/
inductive ExchangeInput where
  | own (op : ChannelOp)
  | deliver (index now : Nat)

theorem WithdrawMessage.withdrawMessage_change (msg : WithdrawMessage) (now : Nat)
    (bh : BlockHash) : (ChannelOp.stateChange msg.change now bh).withdrawMessage = some msg := by
  cases msg <;> rfl

/-- The operation of an input of `x`. -/
def Exchange.input (e : Exchange) : ExchangeInput → Option ChannelOp
  | .own op => if op.withdrawMessage.isSome then none else some op
  | .deliver index now => (e.fromY[index]?).map fun message => .stateChange message.change now []

def Exchange.perform {P : Primitives} (S : Signing P) (e : Exchange) (input : ExchangeInput) :
    Option ((ChannelOp × List Event) × Exchange) :=
  (e.input input).bind fun op => (op.record P (fun _ _ => True) 0 e.x).map fun done =>
    (done.1, { e with
      x := done.2
      fromX := e.fromX ++ done.1.2.filterMap (S.withdrawMessage e.x.ourState.address) })

def Exchange.next {P : Primitives} (S : Signing P) (e : Exchange) :
    Bool × ExchangeInput → Option ((Bool × ChannelOp × List Event) × Exchange)
  | (true, input) => (e.perform S input).map fun done => ((true, done.1), done.2)
  | (false, input) => (e.swap.perform S input).map fun done => ((false, done.1), done.2.swap)

variable {P : Primitives} {S : Signing P} {e e' : Exchange} {input : ExchangeInput}

theorem Exchange.input_sent (h : e.input input = some op) :
    ∀ msg, op.withdrawMessage = some msg → msg ∈ e.fromY := by
  intro msg hmessage
  cases input with
  | own own =>
    dsimp only [Exchange.input] at h
    split_ifs at h with hnone
    cases h
    rw [hmessage] at hnone
    exact absurd rfl hnone
  | deliver index now =>
    obtain ⟨sent, hsent, rfl⟩ := Option.map_eq_some_iff.mp h
    rw [sent.withdrawMessage_change] at hmessage
    cases hmessage
    exact List.mem_of_getElem? hsent

theorem Exchange.perform_sound {label : ChannelOp × List Event}
    (h : e.perform S input = some (label, e')) : Performs P S e label e' := by
  obtain ⟨op, hop, h⟩ := Option.bind_eq_some_iff.mp h
  obtain ⟨⟨label', c'⟩, hrecord, heq⟩ := Option.map_eq_some_iff.mp h
  cases heq
  obtain ⟨rfl, -, hstep⟩ := ChannelOp.record_sound hrecord
  exact .intro (Exchange.input_sent hop) hstep

theorem Exchange.next_sound {input : Bool × ExchangeInput} {label : Bool × ChannelOp × List Event}
    (h : e.next S input = some (label, e')) : ExchangeStep P S e label e' := by
  obtain ⟨side, input⟩ := input
  cases side with
  | true =>
    obtain ⟨done, hdone, heq⟩ := Option.map_eq_some_iff.mp h
    cases heq
    exact .x (Exchange.perform_sound hdone)
  | false =>
    obtain ⟨done, hdone, heq⟩ := Option.map_eq_some_iff.mp h
    cases heq
    exact .y (Exchange.perform_sound hdone)

/-- The channel of the addresses 1 and 2, as each of the two nodes has it. -/
def toyExchange : Exchange := ⟨(toyNetwork 100).x, (toyNetwork 100).y, [], []⟩

theorem toyExchange_initial : toyExchange.Initial :=
  ⟨(toyNetwork_initial 100).toJustOpened, rfl, rfl⟩

def requestWithdraw (total : Int) : Bool × ExchangeInput :=
  (true, .own (.stateChange (.actionChannelWithdraw
    { canonicalIdentifier := toyIdentifier, totalWithdraw := total }) 5 []))

def supersededWithdraw : List (Bool × ExchangeInput) :=
  [requestWithdraw 30, requestWithdraw 50, (false, .deliver 0 6)]

def expiredWithdraw : List (Bool × ExchangeInput) :=
  [requestWithdraw 30, (false, .deliver 0 6), (true, .own (.stateChange (.block ⟨100, []⟩) 100 []))]

/-- The next message of the partner is a confirmation of a known withdraw that is not the
total withdraw. -/
def refusesConfirmation (e : Exchange) : Bool :=
  e.fromY.any fun message => match message with
    | .confirmation m => decide (m.nonce = getNextNonce e.x.partnerState ∧ getStatus e.x = .opened ∧
        getWithdrawExpiration e.x.ourState m.totalWithdraw = some m.expiration ∧
        (m.totalWithdraw : Int) ≠ e.x.ourState.totalWithdraw)
    | _ => false

theorem refused_of_execute {inputs : List (Bool × ExchangeInput)}
    (hexec : (execute (Exchange.next toySigning) inputs ([], toyExchange)).any
      (fun done => refusesConfirmation done.2) = true) (now : Nat) :
    ∃ log e m, Run (ExchangeStep toyPrimitives toySigning) toyExchange log e ∧
      .confirmation m ∈ e.fromY ∧ m.nonce = getNextNonce e.x.partnerState ∧ getStatus e.x = .opened ∧
      ¬Returns (stateTransition toyPrimitives e.x (.receiveWithdrawConfirmation m) now [])
        (Advanced m.nonce) := by
  obtain ⟨log, e, hrun, hrefuses⟩ := Run.execute (.start _) hexec fun _ _ _ _ hnext =>
    Exchange.next_sound (P := toyPrimitives) hnext
  have hauthentic : Authentic toyPrimitives e :=
    hrun.invariant (I := Authentic toyPrimitives) toyExchange_initial.authentic
      fun _ _ _ hi hstep => hstep.authentic hi
  obtain ⟨msg, hm, hfacts⟩ := List.any_eq_true.mp hrefuses
  cases msg with
  | confirmation m =>
    obtain ⟨hnonce, hopened, -, htotal⟩ := of_decide_eq_true hfacts
    refine ⟨log, e, m, hrun, hm, hnonce, hopened, fun hreturns => htotal ?_⟩
    exact (((hauthentic.fromY m hm).1.accepted_iff hnonce).mp hreturns).total
  | _ => cases hfacts

/-- The confirmation of a superseded withdraw and that of an expired one are refused. -/
theorem confirmation_of_old_withdraw_refused :
    (∃ log e m, Run (ExchangeStep toyPrimitives toySigning) toyExchange log e ∧
      .confirmation m ∈ e.fromY ∧ m.nonce = getNextNonce e.x.partnerState ∧ getStatus e.x = .opened ∧
      ¬Returns (stateTransition toyPrimitives e.x (.receiveWithdrawConfirmation m) 7 [])
        (Advanced m.nonce)) ∧
    ∃ log e m, Run (ExchangeStep toyPrimitives toySigning) toyExchange log e ∧
      .confirmation m ∈ e.fromY ∧ m.nonce = getNextNonce e.x.partnerState ∧ getStatus e.x = .opened ∧
      ¬Returns (stateTransition toyPrimitives e.x (.receiveWithdrawConfirmation m) 100 [])
        (Advanced m.nonce) := by
  have hsuperseded : (execute (Exchange.next toySigning) supersededWithdraw ([], toyExchange)).any
      (fun done => refusesConfirmation done.2) = true := by decide +kernel
  have hexpired : (execute (Exchange.next toySigning) expiredWithdraw ([], toyExchange)).any
      (fun done => refusesConfirmation done.2) = true := by decide +kernel
  exact ⟨refused_of_execute hsuperseded 7, refused_of_execute hexpired 100⟩

theorem confirmation_of_withdraw_accepted :
    ∃ log e m, Run (ExchangeStep toyPrimitives toySigning) toyExchange log e ∧
      .confirmation m ∈ e.fromY ∧
      Returns (stateTransition toyPrimitives e.x (.receiveWithdrawConfirmation m) 7 []) (Advanced m.nonce) := by
  have hexec : (execute (Exchange.next toySigning) [requestWithdraw 30, (false, .deliver 0 6)]
      ([], toyExchange)).any (fun done => done.2.fromY.any fun message => match message with
        | .confirmation m => decide (m.nonce = getNextNonce done.2.x.partnerState ∧
            (m.totalWithdraw : Int) = done.2.x.ourState.totalWithdraw ∧
            getWithdrawExpiration done.2.x.ourState m.totalWithdraw = some m.expiration ∧
            isValidChannelTotalWithdraw (m.totalWithdraw + done.2.x.partnerState.totalWithdraw) = true ∧
            done.2.x.ourState.initiatedCoopSettle = none ∧
            sanityCheck toyPrimitives done.2.x = .ok ())
        | _ => false) = true := by decide +kernel
  obtain ⟨log, e, hrun, hconfirmable⟩ := Run.execute (.start _) hexec fun _ _ _ _ hnext =>
    Exchange.next_sound (P := toyPrimitives) hnext
  obtain ⟨message, hm, hfacts⟩ := List.any_eq_true.mp hconfirmable
  cases message with
  | confirmation m =>
    obtain ⟨hnonce, htotal, hexpiration, hsafe, hinitiated, hsane⟩ := of_decide_eq_true hfacts
    exact ⟨log, e, m, hrun, hm, (withdraw_confirmation_accepted_iff toyExchange_initial hrun hm hnonce).2.mpr
      ⟨htotal, hexpiration, hsafe, .inl hinitiated, hsane⟩⟩
  | _ => cases hfacts

end Concrete

end Raiden.Channel
