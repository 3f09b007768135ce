import Raiden.Store
import Raiden.Initiator.Manager

/-! # What the transitions of a payment do

`Reaction` lists what a transfer of the initiator does with each state change,
`Tried` what the search for a route does. Every change the payment makes to a
channel is an operation on it. -/
namespace Raiden.Initiator

open Lib Channel

variable {P : Primitives} {M : FeeMargins} {now : Nat} {st : InitiatorTransferState}
  {c : NettingChannelState} {description : TransferDescriptionWithSecretState} {exceeds : Bool}
  {chosen : ChosenRoute} {routes : List RouteState}

structure Unlocks (P : Primitives) (now : Nat) (st : InitiatorTransferState) (secret : Secret)
    (hash : SecretHash) (c c' : NettingChannelState) (unlock : SendUnlock) : Prop where
  step : ∃ msgId md, Step P c (.sendUnlock msgId
    st.transferDescription.paymentIdentifier secret hash now md,
      [.sendUnlock unlock]) c'
  recipient : unlock.recipient = c.partnerState.address

inductive Reaction (P : Primitives) (now : Nat) (st : InitiatorTransferState)
    (c : NettingChannelState) : PaymentStateChange → TransferIteration → Prop
  | ignored {change : PaymentStateChange} : Reaction P now st c change ⟨c, some st, []⟩
  | gone {change : Block}
      (ours : c.ourState.secrethashesToLockedlocks.get? st.transfer.lock.secrethash = none)
      (partners : st.transfer.lock.secrethash ∉ c.partnerState.secrethashesToLockedlocks) :
      Reaction P now st c (.block change) ⟨c, none, []⟩
  | expired {change : Block} {lock : HashTimeLockState} {c' : NettingChannelState} {sent : List Event}
      {newState : Option InitiatorTransferState}
      (found : c.ourState.secrethashesToLockedlocks.get? st.transfer.lock.secrethash = some lock)
      (passed : (isLockExpired c.ourState lock change.blockNumber
        (getSenderExpirationThreshold lock.expiration)).isOk = true)
      (unreported : st.transferState ≠ .transferExpired)
      (removal : c' = c ∧ sent = [] ∨ ∃ md, Step P c
        (.sendLockExpired st.transfer.lock.secrethash change.blockNumber md, sent) c')
      (kept : newState = none ∨ newState = some { st with transferState := .transferExpired }) :
      Reaction P now st c (.block change) ⟨c', newState, sent ++ eventsForExpired st⟩
  | revealed {change : ReceiveSecretRequest} {lock : HashTimeLockState} {msgId : MessageID}
      (asked : isMessageFromTarget st change = true)
      (held : getLock c.ourState st.transferDescription.secrethash = some lock)
      (first : st.receivedSecretRequest = false) :
      Reaction P now st c (.receiveSecretRequest change)
        ⟨c, some { st with transferState := .transferSecretRevealed, receivedSecretRequest := true },
          [.sendSecretReveal (revealEvent st msgId)]⟩
  | refused {change : ReceiveSecretRequest} (first : st.receivedSecretRequest = false) :
      Reaction P now st c (.receiveSecretRequest change)
        ⟨c, some { st with receivedSecretRequest := true },
          [.eventInvalidSecretRequest change.paymentIdentifier st.transferDescription.amount
            change.amount]⟩
  | unlocked {change : ReceiveSecretReveal} {c' : NettingChannelState} {unlock : SendUnlock}
      (secrethash_eq : change.secrethash P = st.transferDescription.secrethash)
      (sender_eq : change.sender = c.partnerState.address)
      (unlocks : Unlocks P now st change.secret (change.secrethash P) c c' unlock) :
      Reaction P now st c (.receiveSecretReveal change)
        ⟨c', none, eventsForUnlock st c' change.secret unlock⟩
  | registered {change : ContractReceiveSecretReveal} {c' : NettingChannelState}
      (secrethash_eq : change.secrethash = st.transferDescription.secrethash)
      (timely : change.blockNumber ≤ st.transfer.lock.expiration)
      (register : registerOnchainSecret c change.secret change.secrethash change.blockNumber = .ok c') :
      Reaction P now st c (.contractReceiveSecretReveal change) ⟨c', some st, []⟩
  | unlockedOnchain {change : ContractReceiveSecretReveal} {c' c'' : NettingChannelState}
      {unlock : SendUnlock}
      (secrethash_eq : change.secrethash = st.transferDescription.secrethash)
      (timely : change.blockNumber ≤ st.transfer.lock.expiration)
      (register : registerOnchainSecret c change.secret change.secrethash change.blockNumber = .ok c')
      (unlocks : Unlocks P now st change.secret change.secrethash c' c'' unlock) :
      Reaction P now st c (.contractReceiveSecretReveal change)
        ⟨c'', none, eventsForUnlock st c'' change.secret unlock⟩

section Inversion

theorem eventsForUnlockLock_ensures (st : InitiatorTransferState) (c : NettingChannelState)
    (secret : Secret) (hash : SecretHash) :
    Ensures (eventsForUnlockLock P st c secret hash now) fun r =>
      ∃ unlock, Unlocks P now st secret hash c r.1 unlock ∧
        r.2 = eventsForUnlock st r.1 secret unlock := by
  refine .after fun msgId => ?_
  refine .bind (Ensures.lift fun _ h => h) fun r hr => ?_
  obtain ⟨c', unlock⟩ := r
  have hrecipient := (sendUnlock_ok P hr).1
  exact .pure ⟨unlock, ⟨⟨_, _, Step.sendUnlock hr⟩, hrecipient⟩, rfl⟩

theorem handleBlock_ensures (sc : Block) :
    Ensures (handleBlock P st sc c) (Reaction P now st c (.block sc)) := by
  unfold handleBlock
  dsimp only
  cases hours : c.ourState.secrethashesToLockedlocks.get? st.transfer.lock.secrethash with
  | none =>
    dsimp only
    split
    · exact .pure .ignored
    · next hpartners => exact .pure (.gone hours hpartners)
  | some lock =>
    dsimp only
    split
    · next hexpired =>
      have hunclaimed : getUnclaimedLock c.ourState st.transfer.lock.secrethash = some lock := by
        rw [getUnclaimedLock, hours, Option.some_or]
      have hremoval : Ensures (removeExpiredLock P st c lock) fun r => r.1 = c ∧ r.2 = [] ∨
          ∃ md, Step P c
            (.sendLockExpired st.transfer.lock.secrethash sc.blockNumber md, r.2) r.1 := by
        unfold removeExpiredLock
        split
        · exact (Step.sendLockExpired hunclaimed hexpired.1).mono fun r hr => .inr ⟨_, hr⟩
        · exact .pure (.inl ⟨rfl, rfl⟩)
      refine .bind hremoval fun r hr => ?_
      obtain ⟨c', sent⟩ := r
      split
      · exact .pure (.expired hours hexpired.1 hexpired.2 hr (.inr rfl))
      · exact .pure (.expired hours hexpired.1 hexpired.2 hr (.inl rfl))
    · exact .pure .ignored

theorem handleSecretrequest_ensures (sc : ReceiveSecretRequest) :
    Ensures (handleSecretrequest st sc c) (Reaction P now st c (.receiveSecretRequest sc)) := by
  unfold handleSecretrequest
  dsimp only
  split
  · exact .pure .ignored
  · next hasked =>
    cases hheld : getLock c.ourState st.transferDescription.secrethash with
    | none => exact .throw
    | some lock =>
      dsimp only
      split
      · exact .pure .ignored
      · next hfirst =>
        have hfirst : st.receivedSecretRequest = false := Bool.eq_false_of_not_eq_true hfirst
        split
        · refine .after fun msgId => ?_
          exact .pure (.revealed (Bool.eq_true_of_not_eq_false hasked) hheld hfirst)
        · exact .pure (.refused hfirst)

theorem handleOffchainSecretreveal_ensures (sc : ReceiveSecretReveal) :
    Ensures (handleOffchainSecretreveal P st sc c now)
      (Reaction P now st c (.receiveSecretReveal sc)) := by
  unfold handleOffchainSecretreveal
  dsimp only
  split
  · next hvalid =>
    refine .bind (eventsForUnlockLock_ensures st c _ _) fun r hr => ?_
    obtain ⟨c', es⟩ := r
    obtain ⟨unlock, hunlocks, hevents⟩ := hr
    dsimp only at hevents hunlocks
    subst hevents
    exact .pure (.unlocked hvalid.1 hvalid.2.2.1 hunlocks)
  · exact .pure .ignored

theorem handleOnchainSecretreveal_ensures (sc : ContractReceiveSecretReveal) :
    Ensures (handleOnchainSecretreveal P st sc c now)
      (Reaction P now st c (.contractReceiveSecretReveal sc)) := by
  unfold handleOnchainSecretreveal
  dsimp only
  split
  · next hvalid =>
    obtain ⟨hsecrethash, htimely⟩ := hvalid
    rw [← hsecrethash]
    refine .bind (Ensures.lift fun _ h => h) fun c' hregister => ?_
    split
    · refine .bind (eventsForUnlockLock_ensures st c' _ _) fun r hr => ?_
      obtain ⟨c'', es⟩ := r
      obtain ⟨unlock, hunlocks, hevents⟩ := hr
      dsimp only at hevents hunlocks
      subst hevents
      exact .pure (.unlockedOnchain hsecrethash htimely hregister hunlocks)
    · exact .pure (.registered hsecrethash htimely hregister)
  · exact .pure .ignored

theorem stateTransition_ensures (sc : PaymentStateChange) :
    Ensures (stateTransition P st sc c now) (Reaction P now st c sc) := by
  cases sc with
  | block sc => exact handleBlock_ensures sc
  | receiveSecretRequest sc => exact handleSecretrequest_ensures sc
  | receiveSecretReveal sc => exact handleOffchainSecretreveal_ensures sc
  | contractReceiveSecretReveal sc => exact handleOnchainSecretreveal_ensures sc
  | _ => exact .pure .ignored

end Inversion

/-! ## What a transfer and a new route do to the channels -/

section Performed

variable {cs : Channels} {ref : ChannelRef} {sc : PaymentStateChange} {r : TransferIteration}
  {a2c : AddressesToChannel}

theorem Reaction.performed (h : Reaction P now st c sc r) (found : cs.get? ref = some c) :
    Performed P sc cs (cs.set ref r.channel) r.events := by
  cases h with
  | ignored =>
    rw [Dict.set_eq_self found]
    exact .nothing P _ cs
  | gone =>
    rw [Dict.set_eq_self found]
    exact .nothing P _ cs
  | expired _ _ _ removal =>
    refine ⟨?_, nofun⟩
    rcases removal with ⟨rfl, -⟩ | ⟨md, hstep⟩
    · rw [Dict.set_eq_self found]
      exact .refl
    · exact .single found ⟨rfl, nofun⟩ hstep
  | revealed =>
    rw [Dict.set_eq_self found]
    exact ⟨.refl, nofun⟩
  | refused =>
    rw [Dict.set_eq_self found]
    exact ⟨.refl, nofun⟩
  | unlocked _ _ unlocks =>
    obtain ⟨id, md, hstep⟩ := unlocks.step
    exact ⟨Evolves.refl.task found hstep rfl rfl, nofun⟩
  | registered _ _ register =>
    refine ⟨Evolves.refl.task found (Step.registerOnchainSecret register) rfl rfl, ?_⟩
    exact nofun
  | @unlockedOnchain reveal _ _ _ _ _ register unlocks =>
    obtain ⟨id, md, hstep⟩ := unlocks.step
    refine ⟨?_, fun _ _ event hmem => ?_⟩
    · have hregistered : Evolves P (TaskOp P (.contractReceiveSecretReveal reveal)) cs _ :=
        Evolves.refl.task found (Step.registerOnchainSecret register) rfl rfl
      have hunlocked := hregistered.task (Dict.get?_set_self _ _ _) hstep rfl rfl
      rwa [Dict.set_set_self] at hunlocked
    · simp only [eventsForUnlock, List.mem_cons, List.not_mem_nil, or_false] at hmem
      rcases hmem with rfl | rfl | rfl <;> rfl

theorem chooseRoute_found {ourAddress : Address} {exceeds' : Bool}
    (h : chooseRoute P M cs a2c description ourAddress routes exceeds = .ok (some
      chosen, exceeds')) : cs.get? chosen.ref = some chosen.channel := by
  induction routes generalizing exceeds with
  | nil => cases h
  | cons route routes ih =>
    unfold chooseRoute at h
    dsimp only at h
    split at h
    · exact ih h
    · next candidate hcandidate =>
      simp only [seq_ok_iff] at h
      obtain ⟨amount, -, maxFee, -, h⟩ := h
      split at h
      · exact ih h
      · split at h
        · cases h
          simp only [Option.bind_eq_some_iff, Option.map_eq_some_iff] at hcandidate
          obtain ⟨_, -, ref, -, c, hget, rfl⟩ := hcandidate
          exact hget
        · exact ih h

theorem chooseCandidate_found
    (h : chooseCandidate P M cs a2c routes description = .ok (some chosen, exceeds)) :
    cs.get? chosen.ref = some chosen.channel := by
  unfold chooseCandidate at h
  split at h
  · cases h
  · exact chooseRoute_found h

inductive Tried (P : Primitives) (cs : Channels)
    (description : TransferDescriptionWithSecretState) :
    Iteration (Option InitiatorTransferState) → Prop
  | failed {es : List Event} : Tried P cs description ⟨cs, none, es⟩
  | started {ref : ChannelRef} {c c' : NettingChannelState} {arguments : LockedTransferArguments}
      {message : SendLockedTransfer} {route : RouteState} (found : cs.get? ref = some c)
      (network : c.tokenNetworkAddress = description.tokenNetworkAddress)
      (secrethash_eq : arguments.secrethash = description.secrethash)
      (sent : Channel.sendLockedtransfer P c arguments = .ok (c', message)) :
      Tried P cs description ⟨cs.set ref c', some {
          route
          transferDescription := description
          channelIdentifier := c'.identifier
          transfer := message.transfer },
        [.sendLockedTransfer message]⟩

theorem tryNewRoute_ensures (a2c : AddressesToChannel) (routes : List RouteState)
    (description : TransferDescriptionWithSecretState) :
    Ensures (tryNewRoute P M cs a2c routes description now) (Tried P cs description) := by
  refine .bind (Ensures.lift fun _ h => h) fun candidate hcandidate => ?_
  obtain ⟨chosen, exceeds⟩ := candidate
  cases chosen with
  | none => exact .pure .failed
  | some chosen =>
    refine .after fun msgId => ?_
    refine .bind (Ensures.lift fun _ h => h) fun sent hsent => ?_
    obtain ⟨c', msg⟩ := sent
    simp only [sendLockedtransfer, seq_ok_iff, assert_eq_ok, exists_const] at hsent
    obtain ⟨hnetwork, amount, -, hsent⟩ := hsent
    exact .pure (.started (chooseCandidate_found hcandidate) hnetwork rfl hsent)

theorem Tried.evolves {r : Iteration (Option InitiatorTransferState)}
    (h : Tried P cs description r) (hchange : sc.secrethash? P = none) :
    Evolves P (TaskOp P sc) cs r.channels := by
  cases h with
  | failed => exact .refl
  | started found _ _ sent =>
    refine .single found ⟨rfl, fun _ h => ?_⟩ (Step.sendLockedtransfer sent)
    rw [hchange] at h
    cases h

end Performed

end Raiden.Initiator

namespace Raiden.InitiatorManager

open Lib Channel Initiator

variable {P : Primitives} {M : FeeMargins} {net : TokenNetworkRef} {cs : Channels}
  {a2c : AddressesToChannel} {now : Nat} {pay : InitiatorPaymentState}
  {sc : PaymentStateChange} {description : TransferDescriptionWithSecretState}

theorem subdispatchToInitiatortransfer_performed (key : SecretHash) (st : InitiatorTransferState) :
    Ensures (subdispatchToInitiatortransfer P net pay key st sc cs now)
      fun r => Performed P sc cs r.channels r.events := by
  unfold subdispatchToInitiatortransfer
  dsimp only
  cases found : cs.get? (channelRef net st) with
  | none => exact .pure (.nothing P sc cs)
  | some c =>
    refine .bind (Initiator.stateTransition_ensures sc) fun r hr => ?_
    have hperformed := hr.performed found
    obtain ⟨c', newState, es⟩ := r
    cases newState with
    | some st => exact .pure hperformed
    | none =>
      refine .after fun _ => ?_
      exact .pure hperformed

theorem subdispatchToAllInitiatortransfer_performed (keys : List SecretHash)
    (pay : InitiatorPaymentState) (cs : Channels) :
    Ensures (subdispatchToAllInitiatortransfer P net pay sc cs now keys)
      fun r => Performed P sc cs r.channels r.events := by
  induction keys generalizing pay cs with
  | nil => exact .pure (.nothing P sc cs)
  | cons key keys ih =>
    unfold subdispatchToAllInitiatortransfer
    cases pay.initiatorTransfers.get? key with
    | none => exact .throw
    | some st =>
      refine .bind (subdispatchToInitiatortransfer_performed key st) fun first hfirst => ?_
      refine .bind (ih first.newState first.channels) fun rest hrest => .pure ?_
      refine ⟨hfirst.evolves.trans hrest.evolves, fun reveal hreveal event hmem => ?_⟩
      rcases List.mem_append.mp hmem with hmem | hmem
      · exact hfirst.unregistered reveal hreveal event hmem
      · exact hrest.unregistered reveal hreveal event hmem

theorem handleSecretreveal_performed (hash : SecretHash) (msg : String) :
    Ensures (handleSecretreveal P net pay sc hash msg cs now)
      fun r => Performed P sc cs r.channels r.events := by
  unfold handleSecretreveal
  cases pay.initiatorTransfers.get? hash with
  | none => exact .pure (.nothing P sc cs)
  | some st =>
    refine .after fun _ => ?_
    refine .bind (subdispatchToInitiatortransfer_performed hash st) fun r hr => ?_
    refine .pure ?_
    unfold cancelOthersIfUnlocked
    split <;> exact hr

theorem handleTransferreroute_performed (reroute : ActionTransferReroute) :
    Ensures (handleTransferreroute P M net pay reroute cs a2c now) fun r =>
      Performed P (.actionTransferReroute reroute) cs r.channels r.events := by
  unfold handleTransferreroute
  cases pay.initiatorTransfers.get? reroute.transfer.lock.secrethash with
  | none => exact .pure (.nothing P _ cs)
  | some st =>
    dsimp only
    cases found : cs.get? (channelRef net st) with
    | none => exact .pure (.nothing P _ cs)
    | some c =>
      have hreceived := Evolves.single (P := P) (A := TaskOp P (.actionTransferReroute reroute)) found
        ⟨rfl, nofun⟩ (Step.receiveLockedtransfer c reroute.transfer
          (getAddressMetadata c.partnerState.address pay.routes))
      dsimp only
      split
      · exact .pure ⟨hreceived, nofun⟩
      · refine .bind (tryNewRoute_ensures _ _ _) fun r hr => ?_
        have hevolves := hreceived.trans (hr.evolves rfl)
        obtain ⟨cs', newState, es⟩ := r
        cases newState with
        | none | some new => exact .pure ⟨hevolves, nofun⟩

theorem handleLockExpired_performed (expired : ReceiveLockExpired) :
    Performed P (.receiveLockExpired expired) cs
      (handleLockExpired P net pay expired cs now).channels
      (handleLockExpired P net pay expired cs now).events := by
  refine ⟨?_, nofun⟩
  unfold handleLockExpired
  cases pay.initiatorTransfers.get? expired.secrethash with
  | none => exact .refl
  | some st =>
    dsimp only
    cases found : cs.get? (channelRef net st) with
    | none => exact .refl
    | some c => exact Evolves.refl.task found (Step.receiveLockExpired c expired _ _) rfl rfl

theorem handleSecretrequest_performed (req : ReceiveSecretRequest) :
    Ensures (handleSecretrequest P net pay req cs now) fun r =>
      Performed P (.receiveSecretRequest req) cs r.channels r.events := by
  unfold handleSecretrequest
  split
  · exact .pure (.nothing P _ cs)
  · split
    · exact .pure (.nothing P _ cs)
    · exact subdispatchToInitiatortransfer_performed _ _

theorem handleRunning_performed (sc : PaymentStateChange) :
    Ensures (handleRunning P M net pay sc cs a2c now)
      fun r => Performed P sc cs r.channels r.events := by
  cases sc with
  | block sc => exact subdispatchToAllInitiatortransfer_performed _ _ _
  | receiveTransferCancelRoute sc =>
    refine .lift fun r h => ?_
    unfold handleFailroute at h
    split at h
    · cases h
      exact .nothing P _ cs
    · split at h
      · simp only [seq_ok_iff, pure_eq_ok] at h
        obtain ⟨_, -, rfl⟩ := h
        exact ⟨.refl, nofun⟩
      · cases h
        exact .nothing P _ cs
  | actionTransferReroute sc => exact handleTransferreroute_performed sc
  | receiveSecretRequest sc => exact handleSecretrequest_performed sc
  | actionCancelPayment =>
    refine .lift fun r h => ?_
    simp only [handleCancelpayment, seq_ok_iff, pure_eq_ok] at h
    obtain ⟨_, -, rfl⟩ := h
    exact ⟨.refl, nofun⟩
  | receiveSecretReveal sc => exact handleSecretreveal_performed _ _
  | receiveLockExpired sc => exact .pure (handleLockExpired_performed sc)
  | contractReceiveSecretReveal sc => exact handleSecretreveal_performed _ _
  | _ => exact .pure (.nothing P _ cs)

theorem handleInit_performed (task : Option InitiatorPaymentState) (init : ActionInitInitiator) :
    Ensures (handleInit P M task init cs a2c now) fun r =>
      Performed P (.actionInitInitiator init) cs r.channels r.events := by
  cases task with
  | some pay => exact .pure (.nothing P _ cs)
  | none =>
    refine .bind (tryNewRoute_ensures _ _ _) fun r hr => ?_
    exact .pure ⟨hr.evolves rfl, nofun⟩

/-- Every change of a channel by the payment is an operation on it. -/
theorem stateTransition_performed (task : Option InitiatorPaymentState) (sc : PaymentStateChange) :
    Ensures (stateTransition P M net task sc cs a2c now)
      fun r => Performed P sc cs r.channels r.events := by
  refine .bind (Q := fun r => Performed P sc cs r.channels r.events) ?_
    fun r hr => .pure hr
  unfold handleStateChange
  split
  · exact handleInit_performed _ _
  · exact .throw
  · exact .pure (.nothing P _ cs)
  · exact .bind (handleRunning_performed _) fun r hr => .pure hr

/-- The transfer a refund names, with the channel it was sent over. -/
def refundedIn (net : TokenNetworkRef) (pay : InitiatorPaymentState)
    (refund : LockedTransferSignedState) (cs : Channels) :
    Option (ChannelRef × InitiatorTransferState × NettingChannelState) :=
  (pay.initiatorTransfers.get? refund.lock.secrethash).bind fun st =>
    (cs.get? (channelRef net st)).map fun c =>
      (channelRef net st, st, c)

/-- The refund is the transfer in the other direction. -/
def refundMatches (refund : LockedTransferSignedState) (original : LockedTransferUnsignedState) : Bool :=
  isValidRefundLock refund original && refundTransferMatchesTransfer refund original

def withTransferAdded (pay : InitiatorPaymentState) (new : Option InitiatorTransferState) :
    InitiatorPaymentState :=
  new.elim pay fun st => { pay with
    initiatorTransfers := pay.initiatorTransfers.set st.transfer.lock.secrethash st }

inductive RefundHandled (P : Primitives) (net : TokenNetworkRef)
    (pay : InitiatorPaymentState) (change : ActionTransferReroute) (cs : Channels) :
    Iteration InitiatorPaymentState → Prop
  | unknown (missing : refundedIn net pay change.transfer cs = none) :
      RefundHandled P net pay change cs ⟨cs, pay, []⟩
  | invalid {ref : ChannelRef} {st : InitiatorTransferState} {c : NettingChannelState} {msg : String}
      (found : refundedIn net pay change.transfer cs = some (ref, st, c))
      (invalid : isValidLockedtransfer P change.transfer c c.partnerState c.ourState = .error msg) :
      RefundHandled P net pay change cs ⟨cs, pay, []⟩
  | mismatch {ref : ChannelRef} {st : InitiatorTransferState} {c : NettingChannelState}
      {locks : List EncodedData}
      (found : refundedIn net pay change.transfer cs = some (ref, st, c))
      (valid : isValidLockedtransfer P change.transfer c c.partnerState c.ourState = .ok locks)
      (differs : refundMatches change.transfer st.transfer = false) :
      RefundHandled P net pay change cs
        ⟨cs.set ref (withTransfer c change.transfer locks), pay, []⟩
  | accepted {ref : ChannelRef} {st : InitiatorTransferState} {c : NettingChannelState}
      {locks : List EncodedData} {md : Option AddressMetadata}
      {tried : Iteration (Option InitiatorTransferState)}
      (found : refundedIn net pay change.transfer cs = some (ref, st, c))
      (valid : isValidLockedtransfer P change.transfer c c.partnerState c.ourState = .ok locks)
      (equal : refundMatches change.transfer st.transfer = true)
      (route : Tried P (cs.set ref (withTransfer c change.transfer locks))
        (rerouted P st.transferDescription change) tried) :
      RefundHandled P net pay change cs ⟨tried.channels,
        withTransferAdded pay tried.newState,
        processed change.transfer.balanceProof.sender md change.transfer.messageIdentifier ::
          tried.events⟩

section Refunds

variable {sc : ActionTransferReroute}

theorem handleTransferreroute_ensures :
    Ensures (handleTransferreroute P M net pay sc cs a2c now) (RefundHandled P net pay sc cs) := by
  unfold handleTransferreroute
  cases hstate : pay.initiatorTransfers.get? sc.transfer.lock.secrethash with
  | none => exact .pure (.unknown (by simp [refundedIn, hstate]))
  | some st =>
    dsimp only
    cases hc : cs.get? (channelRef net st) with
    | none => exact .pure (.unknown (by simp [refundedIn, hstate, hc]))
    | some c =>
      have hfound : refundedIn net pay sc.transfer cs =
          some (channelRef net st, st, c) := by
        simp [refundedIn, hstate, hc]
      cases hv : isValidLockedtransfer P sc.transfer c c.partnerState c.ourState with
      | error msg =>
        simp only [handleReceiveLockedtransfer, hv, or_true, if_true, Dict.set_eq_self hc]
        exact .pure (.invalid hfound hv)
      | ok locks =>
        simp only [handleReceiveLockedtransfer, hv, Bool.true_eq_false, or_false]
        split
        · next hdiffers =>
          refine .pure (.mismatch hfound hv ?_)
          rw [refundMatches, Bool.and_eq_false_iff]
          exact hdiffers
        · next hequal =>
          have hmatches : refundMatches sc.transfer st.transfer = true := by
            rw [refundMatches, Bool.and_eq_true, ← Bool.not_eq_false, ← Bool.not_eq_false, ← not_or]
            exact hequal
          refine .bind (tryNewRoute_ensures _ _ _) fun tried htried => ?_
          obtain ⟨cs', newState, es⟩ := tried
          cases newState with
          | none | some new => exact .pure (.accepted hfound hv hmatches htried)

theorem stateTransition_reroute :
    Ensures (stateTransition P M net (some pay) (.actionTransferReroute sc) cs
      a2c now) fun r => ∃ r', RefundHandled P net pay sc cs r' ∧
        r = clearIfFinalized ⟨r'.channels, some r'.newState, r'.events⟩ := by
  refine .bind (Q := fun r => ∃ r', RefundHandled P net pay sc cs r' ∧
    r = ⟨r'.channels, some r'.newState, r'.events⟩) ?_ ?_
  · exact .bind handleTransferreroute_ensures fun r hr => .pure ⟨r, hr, rfl⟩
  · rintro _ ⟨r', hr', rfl⟩
    exact .pure ⟨r', hr', rfl⟩

/-- The partner's end of the refunded channel, with the refund. -/
theorem Tried.partner_eq {ref : ChannelRef} {c : NettingChannelState}
    {r : Iteration (Option InitiatorTransferState)} (h : Tried P cs description r)
    (found : cs.get? ref = some c) :
    ∃ c', r.channels.get? ref = some c' ∧ c'.partnerState = c.partnerState := by
  cases h with
  | failed => exact ⟨c, found, rfl⟩
  | @started other d d' _ _ _ found' _ _ sent =>
    by_cases hother : ref = other
    · subst hother
      cases found.symm.trans found'
      obtain ⟨locks, -, rfl⟩ := sendLockedtransfer_ok P sent
      exact ⟨_, Dict.get?_set_self _ _ _, rfl⟩
    · exact ⟨c, (Dict.get?_set_ne _ _ hother).trans found, rfl⟩

end Refunds

end Raiden.InitiatorManager
