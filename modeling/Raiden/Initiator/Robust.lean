import Raiden.Initiator.System

/-! # Messages of peers to a payment

The three messages about secrets reach a payment in any of its states. Two
assertions on the way can fail: a request of the target finds the lock gone
once the transfer expired, because the task of a refunded transfer outlives the
removal of its lock, and a reveal finds the transfer cancelled. In a run
without reuse of pending secrethashes nothing else is raised, except that the
nonce of a channel can run out. -/
namespace Raiden.Initiator

open Lib Channel

/-- The error of a balance proof whose nonce does not fit. -/
def nonceTooLarge : Raised := .valueError "nonce is too large"

section Transfer

variable {P : Primitives} {now : Nat} {st : InitiatorTransferState} {c : NettingChannelState}
  {lock : HashTimeLockState} {e : Raised}

theorem messageIdentifierFromPrng_returnsOr : ReturnsOr messageIdentifierFromPrng e :=
  fun prng => .inl ⟨(prng.head, prng.tail), rfl⟩

theorem eventsForUnlockLock_returnsOr {hash : SecretHash}
    (hown : OwnLocks P c) (hid : c.identifier ≤ uint256Max)
    (hlock : getLock c.ourState hash = some lock) (hopened : getStatus c = .opened)
    (hexpired : (isLockExpired c.ourState lock now lock.expiration).isOk = false)
    (secret : Secret) : ReturnsOr (eventsForUnlockLock P st c secret hash now) nonceTooLarge := by
  refine .after messageIdentifierFromPrng_returnsOr fun msgId => ?_
  refine .after (ReturnsOr.lift ?_) fun r => .pure
  exact hown.sendUnlock_returns hid hlock hopened hexpired _ _ _ _

theorem handleSecretrequest_returnsOr {sc : ReceiveSecretRequest}
    (hlock : isMessageFromTarget st sc = true →
      (getLock c.ourState st.transferDescription.secrethash).isSome = true) :
    ReturnsOr (handleSecretrequest st sc c) e := by
  unfold handleSecretrequest
  dsimp only
  split
  · exact .pure
  · next hasked =>
    obtain ⟨lock, hfound⟩ := Option.isSome_iff_exists.mp (hlock (Bool.eq_true_of_not_eq_false hasked))
    rw [hfound]
    dsimp only
    split
    · exact .pure
    · split
      · exact .after messageIdentifierFromPrng_returnsOr fun _ => .pure
      · exact .pure

/-- A lock that may still be unlocked is at our end. -/
theorem LockKept.getLock_of_not_expired {status : InitiatorTransferStatus}
    {e : NettingChannelEndState} (h : LockKept now lock status e)
    (hexpired : (isLockExpired e lock now lock.expiration).isOk = false) :
    getLock e lock.secrethash = some lock := by
  cases h with
  | held found => exact found
  | removed gone expired =>
    have hok : (isLockExpired e lock now lock.expiration).isOk = true :=
      isLockExpired_ok.mpr ⟨(not_isLockPending_iff.mp gone).2.2, expired⟩
    cases hok.symm.trans hexpired

section Reveal

variable {reveal : ReceiveSecretReveal} {onchain : ContractReceiveSecretReveal} (hown : OwnLocks P c)
  (hid : c.identifier ≤ uint256Max)
  (hsame : st.transfer.lock.secrethash = st.transferDescription.secrethash)
  (hkept : LockKept now st.transfer.lock st.transferState c.ourState)

include hown hid hsame hkept

theorem handleOffchainSecretreveal_returnsOr :
    ReturnsOr (handleOffchainSecretreveal P st reveal c now) nonceTooLarge := by
  unfold handleOffchainSecretreveal
  dsimp only
  split
  · next hvalid =>
    obtain ⟨hsecrethash, hopened, -, hexpired⟩ := hvalid
    have hlock := hkept.getLock_of_not_expired hexpired
    rw [hsame, ← hsecrethash] at hlock
    exact .after (eventsForUnlockLock_returnsOr hown hid hlock hopened hexpired _) fun _ => .pure
  · exact .pure

theorem handleOnchainSecretreveal_returnsOr :
    ReturnsOr (handleOnchainSecretreveal P st onchain c now) nonceTooLarge := by
  unfold handleOnchainSecretreveal
  dsimp only
  split
  · next hvalid =>
    obtain ⟨hsecrethash, htimely⟩ := hvalid
    refine .bind (ReturnsOr.lift (.inl (registerOnchainSecret_returns c _ _ _)))
      (Ensures.lift fun _ h => h) fun c' hregister => ?_
    split
    · next hopen =>
      have hstep := Step.registerOnchainSecret (P := P) hregister
      have hkept' : LockKept now st.transfer.lock st.transferState c'.ourState := by
        have hreaction : Reaction P now st c (.contractReceiveSecretReveal onchain)
            ⟨c', some st, []⟩ := .registered hsecrethash htimely (hsecrethash ▸ hregister)
        exact hreaction.lockKept hown hsame nofun hkept rfl
      have hlock := hkept'.getLock_of_not_expired hopen.2
      rw [hsame, ← hsecrethash] at hlock
      have hid' : c'.identifier ≤ uint256Max := by
        rw [NettingChannelState.identifier, hstep.sameIdentity.identifier]
        exact hid
      have hopened : getStatus c' = .opened := (hstep.sameLife rfl).getStatus_eq.trans hopen.1
      have hown' := hown.step (addsFresh_of_none rfl) hstep
      exact .after (eventsForUnlockLock_returnsOr hown' hid' hlock hopened hopen.2 _) fun _ => .pure
    · exact .pure
  · exact .pure

end Reveal

end Transfer

end Raiden.Initiator

namespace Raiden.InitiatorManager

open Lib Channel Initiator

def isSecretMessage : PaymentStateChange → Bool
  | .receiveSecretRequest _ | .receiveSecretReveal _ | .contractReceiveSecretReveal _ => true
  | _ => false

variable (P : Primitives) (net : TokenNetworkRef)

/-- A request of the target for an expired transfer finds its lock, and a reveal
finds no cancelled transfer. -/
def Answerable (s : Paying) : PaymentStateChange → Prop
  | .receiveSecretRequest change => ∀ st ∈ (transfersOf s.task).get? change.secrethash,
      st.transferState = .transferExpired → isMessageFromTarget st change = true →
      ∀ c ∈ s.channels.get? (channelRef net st),
        isLockPending c.ourState change.secrethash = true
  | .receiveSecretReveal change => ∀ st ∈ (transfersOf s.task).get? (change.secrethash P),
      st.transferState ≠ .transferCancelled
  | .contractReceiveSecretReveal change => ∀ st ∈ (transfersOf s.task).get? change.secrethash,
      st.transferState ≠ .transferCancelled
  | _ => True

section Payment

variable {P net} {M : FeeMargins} {pay : InitiatorPaymentState} {cs : Channels}
  {a2c : AddressesToChannel} {now : Nat} {sc : PaymentStateChange}
  {key hash : SecretHash} {st : InitiatorTransferState} {e : Raised} {req : ReceiveSecretRequest}
  {msg : String}

theorem subdispatchToInitiatortransfer_returnsOr (hstate : pay.initiatorTransfers.get? key = some st)
    (hkey : st.transfer.lock.secrethash = key) (h : ∀ c, cs.get? (channelRef net st) = some c →
      ReturnsOr (Initiator.stateTransition P st sc c now) e) :
    ReturnsOr (subdispatchToInitiatortransfer P net pay key st sc cs now) e := by
  unfold subdispatchToInitiatortransfer
  dsimp only
  cases hc : cs.get? (channelRef net st) with
  | none => exact .pure
  | some c =>
    refine .after (h c hc) fun r => ?_
    obtain ⟨c', newState, es⟩ := r
    cases newState with
    | some new => exact .pure
    | none =>
      have hmem : st.transfer.lock.secrethash ∈ pay.initiatorTransfers :=
        hkey ▸ Dict.mem_of_get? hstate
      exact .after (ReturnsOr.lift (.inl ⟨(), check_eq_ok.mpr hmem⟩)) fun _ => .pure

theorem handleSecretreveal_returnsOr (h : Sound P net now pay.initiatorTransfers cs)
    (hcancelled : ∀ st ∈ pay.initiatorTransfers.get? hash, st.transferState ≠ .transferCancelled)
    (htransfer : ∀ {st : InitiatorTransferState} {c : NettingChannelState}, OwnLocks P c →
      c.identifier ≤ uint256Max → st.transfer.lock.secrethash = st.transferDescription.secrethash →
      LockKept now st.transfer.lock st.transferState c.ourState →
      ReturnsOr (Initiator.stateTransition P st sc c now) nonceTooLarge) :
    ReturnsOr (handleSecretreveal P net pay sc hash msg cs now) nonceTooLarge := by
  unfold handleSecretreveal
  cases hstate : pay.initiatorTransfers.get? hash with
  | none => exact .pure
  | some st =>
    have hheld := h.held _ st hstate
    refine .after (ReturnsOr.lift (.inl ⟨(), assert_eq_ok.mpr (hcancelled st hstate)⟩)) fun _ =>
      .after ?_ fun _ => .pure
    refine subdispatchToInitiatortransfer_returnsOr hstate hheld.key_eq fun c hc => ?_
    have hfiled := h.filed _ c hc
    exact htransfer hfiled.own (hfiled.identifier ▸ hfiled.identifier_le)
      (hheld.key_eq.trans hheld.described.symm) (hheld.lock c hc)

theorem handleSecretrequest_returnsOr (h : Sound P net now pay.initiatorTransfers cs)
    (hanswerable : ∀ st ∈ pay.initiatorTransfers.get? req.secrethash,
      st.transferState = .transferExpired → isMessageFromTarget st req = true →
      ∀ c ∈ cs.get? (channelRef net st), isLockPending c.ourState req.secrethash = true) :
    ReturnsOr (handleSecretrequest P net pay req cs now) e := by
  unfold handleSecretrequest
  cases hstate : pay.initiatorTransfers.get? req.secrethash with
  | none => exact .pure
  | some st =>
    have hheld := h.held _ st hstate
    dsimp only
    split
    · exact .pure
    · next hcancelled =>
      refine subdispatchToInitiatortransfer_returnsOr hstate hheld.key_eq fun c hc => ?_
      refine Initiator.handleSecretrequest_returnsOr fun hasked => ?_
      rw [hheld.described, Option.isSome_iff_ne_none, Ne, getLock_eq_none_iff, Bool.not_eq_false]
      by_cases hexpired : st.transferState = .transferExpired
      · exact hanswerable st hstate hexpired hasked c hc
      · have hlock := (hheld.lock c hc).getLock_eq hexpired hcancelled
        rw [hheld.key_eq] at hlock
        exact (HasLock.of_getLock hlock).isLockPending

theorem stateTransition_returnsOr (hchange : isSecretMessage sc = true)
    (h : ReturnsOr (handleRunning P M net pay sc cs a2c now) e) :
    ReturnsOr (stateTransition P M net (some pay) sc cs a2c now) e := by
  refine .after ?_ fun _ => .pure
  cases sc with
  | receiveSecretRequest | receiveSecretReveal | contractReceiveSecretReveal =>
    exact .after h fun _ => .pure
  | _ => cases hchange

theorem stateTransition_raises (hchange : isSecretMessage sc = true)
    (h : Raises (handleRunning P M net pay sc cs a2c now) e) :
    Raises (stateTransition P M net (some pay) sc cs a2c now) e := by
  refine Raises.bind ?_
  cases sc with
  | receiveSecretRequest | receiveSecretReveal | contractReceiveSecretReveal => exact Raises.bind h
  | _ => cases hchange

theorem handleSecretreveal_raises (hstate : pay.initiatorTransfers.get? hash = some st)
    (hcancelled : st.transferState = .transferCancelled) :
    Raises (handleSecretreveal P net pay sc hash msg cs now) (.assertionError msg) := by
  unfold handleSecretreveal
  rw [hstate]
  refine Raises.bind (Raises.lift ?_)
  rw [assert, check_eq_error]
  exact ⟨not_not.mpr hcancelled, rfl⟩

theorem handleSecretrequest_raises {c : NettingChannelState}
    (hstate : pay.initiatorTransfers.get? req.secrethash = some st)
    (hexpired : st.transferState = .transferExpired) (hasked : isMessageFromTarget st req = true)
    (hdescribed : st.transferDescription.secrethash = req.secrethash)
    (hc : cs.get? (channelRef net st) = some c)
    (hgone : isLockPending c.ourState req.secrethash = false) :
    Raises (handleSecretrequest P net pay req cs now)
      (.assertionError "channel is does not have the transfer's lock") := by
  have hstatus : st.transferState ≠ .transferCancelled := by
    rw [hexpired]
    decide
  have hlock : getLock c.ourState st.transferDescription.secrethash = none := by
    rw [hdescribed]
    exact getLock_eq_none_iff.mpr hgone
  unfold handleSecretrequest
  rw [hstate]
  dsimp only
  rw [if_neg hstatus, subdispatchToInitiatortransfer]
  rw [hc]
  refine Raises.bind ?_
  show Raises (Initiator.handleSecretrequest st req c) _
  unfold Initiator.handleSecretrequest
  rw [hasked, if_neg (by decide), hlock]
  exact Raises.throw

end Payment

variable {P net} {M : FeeMargins}

instance : Nonempty Prng := ⟨Stream'.const 0⟩

/-- In every run in which no lock is added under a secrethash that is pending, a
message about the secret of the payment is handled exactly when it is answerable. -/
theorem secret_message_returns_iff {now : Nat} {log : List (Input × List Event)} {s : Paying}
    {change : PaymentStateChange}
    (hrun : Run (Paying.NextIf P M net (AddsUnused P)) (.start now) log s)
    (hchange : isSecretMessage change = true) (hdispatched : s.dispatches net change) :
    ReturnsOr (stateTransition P M net s.task change s.channels s.channels.addressesToChannel
      s.blockNumber) nonceTooLarge ↔ Answerable P net s change := by
  have hsound := Paying.sound_of_run hrun
  obtain ⟨task, cs, now⟩ := s
  have hassertion : ∀ msg, Raised.assertionError msg ≠ nonceTooLarge := by
    intro msg heq
    cases heq
  cases change with
  | receiveSecretRequest request =>
    obtain ⟨pay, rfl⟩ := Option.isSome_iff_exists.mp hdispatched
    constructor
    · intro hreturns st hstate hexpired hasked c hc
      by_contra hgone
      rw [Bool.not_eq_true] at hgone
      have hdescribed := (hsound.held _ st hstate).described
      exact (stateTransition_raises hchange (handleSecretrequest_raises hstate hexpired hasked hdescribed
        hc hgone)).not_returnsOr (hassertion _) hreturns
    · exact fun hanswerable => stateTransition_returnsOr hchange
        (handleSecretrequest_returnsOr hsound hanswerable)
  | receiveSecretReveal reveal =>
    obtain ⟨pay, rfl⟩ := Option.isSome_iff_exists.mp hdispatched
    constructor
    · intro hreturns st hstate hcancelled
      exact (stateTransition_raises hchange (handleSecretreveal_raises hstate hcancelled)).not_returnsOr
        (hassertion _) hreturns
    · exact fun hanswerable => stateTransition_returnsOr hchange
        (handleSecretreveal_returnsOr hsound hanswerable handleOffchainSecretreveal_returnsOr)
  | contractReceiveSecretReveal reveal =>
    obtain ⟨pay, rfl⟩ := Option.isSome_iff_exists.mp hdispatched
    constructor
    · intro hreturns st hstate hcancelled
      exact (stateTransition_raises hchange (handleSecretreveal_raises hstate hcancelled)).not_returnsOr
        (hassertion _) hreturns
    · exact fun hanswerable => stateTransition_returnsOr hchange
        (handleSecretreveal_returnsOr hsound hanswerable handleOnchainSecretreveal_returnsOr)
  | _ => cases hchange

section Exec

variable (P net M)

instance (cs : Channels) (hash : SecretHash) : Decidable (Unused cs hash) :=
  inferInstanceAs (Decidable (∀ c ∈ cs.values, isLockPending c.ourState hash = false))

instance (s : Paying) (input : Input) : Decidable (AddsUnused P s input) := by
  unfold AddsUnused
  split <;> infer_instance

instance (s : Paying) (change : PaymentStateChange) : Decidable (s.dispatches net change) := by
  unfold Paying.dispatches
  split <;> infer_instance

/-- One step of time or of the task, without reuse of a secrethash. -/
def Paying.next (s : Paying) (input : Input) : Option ((Input × List Event) × Paying) :=
  if ¬AddsUnused P s input then none else
  match input with
  | .tick n => if s.blockNumber < n then some ((.tick n, []), { s with blockNumber := n }) else none
  | .opened _ _ | .channel _ _ => none
  | .task change =>
    if s.dispatches net change then
      match (stateTransition P M net s.task change s.channels s.channels.addressesToChannel
          s.blockNumber).run (Stream'.const 0) with
      | .ok (r, _) => some ((.task change, r.events), { s with task := r.newState, channels := r.channels })
      | .error _ => none
    else none

variable {P net M}

theorem Paying.next_sound {s t : Paying} {input : Input} {label : Input × List Event}
    (h : s.next P net M input = some (label, t)) : s.NextIf P M net (AddsUnused P) label t := by
  unfold Paying.next at h
  split_ifs at h with hunused
  cases input with
  | tick n =>
    dsimp only at h
    split_ifs at h with hn
    cases h
    exact ⟨hunused, .tick hn⟩
  | opened | channel => cases h
  | task sc =>
    dsimp only at h
    split_ifs at h with hdispatched
    split at h
    · next hrun =>
      cases h
      exact ⟨hunused, .task hdispatched hrun⟩
    · cases h

end Exec

def toyNetwork : TokenNetworkRef := ⟨0, 9⟩

def zeroMargins : FeeMargins := ⟨fun _ _ => some 0, fun _ => some 0⟩

/-- A node with one channel, to the partner 2. -/
def toyPaying : List (Input × List Event) × Paying :=
  ([(.opened ⟨toyNetwork, 1⟩ (toyChannel 10 10), [])],
    { channels := Dict.empty.set ⟨toyNetwork, 1⟩ (toyChannel 10 10), blockNumber := 1 })

theorem toyPaying_run (inputs : List Input) (p : Paying → Bool)
    (h : (execute (Paying.next toyPrimitives toyNetwork zeroMargins) inputs toyPaying).any
      (fun finish => p finish.2) = true) :
    ∃ log s, Run (Paying.NextIf toyPrimitives zeroMargins toyNetwork (AddsUnused toyPrimitives))
      (.start 1) log s ∧ p s = true := by
  have hopened : Mediator.OpenedAs toyNetwork ⟨toyNetwork, 1⟩ (toyChannel 10 10) :=
    ⟨toyChannel_fresh 10 10, rfl, rfl, by decide, fun _ => rfl⟩
  have hstart : Run (Paying.NextIf toyPrimitives zeroMargins toyNetwork (AddsUnused toyPrimitives))
      (.start 1) toyPaying.1 toyPaying.2 :=
    (Run.start _).step ⟨trivial, .opened rfl List.not_mem_nil hopened⟩
  exact hstart.execute h fun _ _ _ _ hnext => Paying.next_sound hnext

/-- A payment of 3 to the address 4 over the partner. -/
def toyInit : Input :=
  .task (.actionInitInitiator {
    transfer := {
      tokenNetworkRegistryAddress := 7
      paymentIdentifier := 1
      amount := 3
      tokenNetworkAddress := 9
      initiator := 1
      target := 4
      secret := [5]
      secrethash := 5 }
    routes := [{ route := [1, 2, 4] }] })

/-- The partner refunds the transfer. -/
def toyReroute : Input :=
  let lock := toyLockUntil 20 3 5
  let balanceProof := toyBalanceProof 0 0 3 [lock]
  .task (.actionTransferReroute {
    sender := 2
    balanceProof
    transfer := { toyTransfer lock balanceProof with
      initiator := 1
      target := 4 }
    secret := [6] })

def toyRequest (hash : SecretHash) : ReceiveSecretRequest where
  sender := 4
  paymentIdentifier := 1
  amount := 3
  expiration := 20
  secrethash := hash

def toyReveal (secret : Secret) : ReceiveSecretReveal := { sender := 2, secret }

theorem secret_request_is_answered : ∃ log s,
    Run (Paying.NextIf toyPrimitives zeroMargins toyNetwork (AddsUnused toyPrimitives)) (.start 1) log s ∧
      ReturnsOr (stateTransition toyPrimitives zeroMargins toyNetwork s.task
        (.receiveSecretRequest (toyRequest 5)) s.channels s.channels.addressesToChannel s.blockNumber)
        nonceTooLarge := by
  obtain ⟨log, s, hrun, hs⟩ := toyPaying_run [toyInit] (fun s => s.task.isSome &&
    decide (∀ st ∈ (transfersOf s.task).get? 5, st.transferState ≠ .transferExpired))
    (by decide +kernel)
  rw [Bool.and_eq_true, decide_eq_true_iff] at hs
  have hdispatched : s.dispatches toyNetwork (.receiveSecretRequest (toyRequest 5)) := hs.1
  refine ⟨log, s, hrun, (secret_message_returns_iff hrun rfl hdispatched).mpr ?_⟩
  exact fun st hstate hexpired => absurd hexpired (hs.2 st hstate)

/-- After the refund the task outlives the removal of the expired lock, and a late
request of the target raises. A transfer whose secret was revealed before its
refund is cancelled once the other transfer is unlocked; its own reveal raises. -/
theorem peer_raises_assertions :
    (∃ log s, Run (Paying.NextIf toyPrimitives zeroMargins toyNetwork (AddsUnused toyPrimitives))
      (.start 1) log s ∧ s.task.isSome = true ∧
      Raises (stateTransition toyPrimitives zeroMargins toyNetwork s.task
        (.receiveSecretRequest (toyRequest 5)) s.channels s.channels.addressesToChannel s.blockNumber)
        (.assertionError "channel is does not have the transfer's lock")) ∧
    ∃ log s, Run (Paying.NextIf toyPrimitives zeroMargins toyNetwork (AddsUnused toyPrimitives))
      (.start 1) log s ∧ s.task.isSome = true ∧
      Raises (stateTransition toyPrimitives zeroMargins toyNetwork s.task
        (.receiveSecretReveal (toyReveal [5])) s.channels s.channels.addressesToChannel s.blockNumber)
        (.assertionError "Can't handle reveal for cancelled transfer") := by
  constructor
  · obtain ⟨log, s, hrun, hs⟩ := toyPaying_run
      [toyInit, toyReroute, .tick 30, .task (.block ⟨30, []⟩)]
      (fun s => s.task.any fun pay => (pay.initiatorTransfers.get? 5).any fun st =>
        st.transferState = .transferExpired && isMessageFromTarget st (toyRequest 5) &&
          (s.channels.get? (channelRef toyNetwork st)).any fun c => !isLockPending c.ourState 5)
      (by decide +kernel)
    have hsound := Paying.sound_of_run hrun
    obtain ⟨task, cs, now⟩ := s
    simp only [Option.any_eq_true, Bool.and_eq_true, decide_eq_true_iff, Bool.not_eq_true'] at hs
    obtain ⟨pay, rfl, st, hstate, ⟨hexpired, hasked⟩, c, hc, hgone⟩ := hs
    refine ⟨log, _, hrun, rfl, stateTransition_raises rfl ?_⟩
    exact handleSecretrequest_raises hstate hexpired hasked (hsound.held _ _ hstate).described hc hgone
  · obtain ⟨log, s, hrun, hs⟩ := toyPaying_run
      [toyInit, .task (.receiveSecretRequest (toyRequest 5)), toyReroute,
        .task (.receiveSecretRequest (toyRequest 6)), .task (.receiveSecretReveal (toyReveal [6]))]
      (fun s => s.task.any fun pay => (pay.initiatorTransfers.get? 5).any fun st =>
        st.transferState = .transferCancelled)
      (by decide +kernel)
    obtain ⟨task, cs, now⟩ := s
    simp only [Option.any_eq_true, decide_eq_true_iff] at hs
    obtain ⟨pay, rfl, st, hstate, hcancelled⟩ := hs
    refine ⟨log, _, hrun, rfl, stateTransition_raises rfl ?_⟩
    exact handleSecretreveal_raises hstate hcancelled

end Raiden.InitiatorManager
