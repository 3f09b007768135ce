import Raiden.Channel.OwnLocks
import Raiden.Initiator.Spec
import Raiden.Mediator.System

/-! # A payment in its environment

One payment of the node and all its channels. Blocks pass, channels are opened,
other payments and on-chain events change channels, and the task of the payment
receives what the node hands to it. If no lock is added to our end of a channel
under a secrethash that is pending there, every transfer of the payment either
has its lock at our end, or the lock was removed after it expired and the
transfer is marked as expired or cancelled. -/
namespace Raiden.Initiator

open Lib Channel

variable {new : InitiatorTransferState}

/-- Our end holds the lock of a transfer, or the lock expired and the transfer knows. -/
inductive LockKept (now : Nat) (lock : HashTimeLockState) (status : InitiatorTransferStatus)
    (e : NettingChannelEndState) : Prop
  | held (found : getLock e lock.secrethash = some lock)
  | removed (gone : isLockPending e lock.secrethash = false) (expired : lock.expiration ≤ now)
      (known : status = .transferExpired ∨ status = .transferCancelled)

section Transfer

variable {P : Primitives} {now : Nat} {st : InitiatorTransferState} {c : NettingChannelState}
  {sc : PaymentStateChange} {r : TransferIteration} {lock : HashTimeLockState}
  {status : InitiatorTransferStatus} {e e' : NettingChannelEndState}

theorem LockKept.sameLocksAt (h : LockKept now lock status e)
    (hsame : SameLocksAt lock.secrethash e e') : LockKept now lock status e' := by
  cases h with
  | held found => exact .held (hsame.getLock_eq.trans found)
  | removed gone expired known => exact .removed (hsame.isLockPending_eq.trans gone) expired known

theorem LockKept.later {n : Nat} (h : LockKept now lock status e) (hn : now ≤ n) :
    LockKept n lock status e := by
  cases h with
  | held found => exact .held found
  | removed gone expired known => exact .removed gone (Nat.le_trans expired hn) known

/-- A lock that is at our end is the one of the transfer. -/
theorem LockKept.eq_of_getLock (h : LockKept now lock status e) {found : HashTimeLockState}
    (hfound : getLock e lock.secrethash = some found) : found = lock := by
  cases h with
  | held h => exact Option.some.inj (hfound.symm.trans h)
  | removed gone =>
    rw [getLock_eq_none_iff.mpr gone] at hfound
    cases hfound

theorem LockKept.getLock_eq (h : LockKept now lock status e) (hexpired : status ≠ .transferExpired)
    (hcancelled : status ≠ .transferCancelled) : getLock e lock.secrethash = some lock := by
  cases h with
  | held found => exact found
  | removed _ _ known => exact (known.elim hexpired hcancelled).elim

theorem Reaction.touched (h : Reaction P now st c sc r) (hown : OwnLocks P c)
    (hsame : st.transfer.lock.secrethash = st.transferDescription.secrethash) :
    Touched P st.transfer.lock.secrethash c r.channel := by
  have hunlocks : ∀ {c c' : NettingChannelState} {secret : Secret} {hash : SecretHash}
      {unlock : SendUnlock}, OwnLocks P c → hash = st.transferDescription.secrethash →
      Unlocks P now st secret hash c c' unlock →
      Touched P st.transfer.lock.secrethash c c' := by
    intro c c' secret hash unlock hown hsecrethash hunlock
    obtain ⟨_, _, hstep⟩ := hunlock.step
    exact .of_step hown hstep (addsFresh_of_none rfl) (congrArg some (hsecrethash.trans hsame.symm))
  have hregister : ∀ {sc : ContractReceiveSecretReveal} {c' : NettingChannelState},
      sc.secrethash = st.transferDescription.secrethash →
      registerOnchainSecret c sc.secret sc.secrethash sc.blockNumber = .ok c' →
      Touched P st.transfer.lock.secrethash c c' := by
    intro sc c' hsecrethash hok
    exact .of_step hown (Step.registerOnchainSecret hok) (addsFresh_of_none rfl)
      (congrArg some (hsecrethash.trans hsame.symm))
  cases h with
  | ignored | gone | revealed | refused => exact .refl hown _
  | expired _ _ _ removal =>
    rcases removal with ⟨rfl, -⟩ | ⟨md, hstep⟩
    · exact .refl hown _
    · exact .of_step hown hstep (addsFresh_of_none rfl) rfl
  | unlocked secrethash_eq _ unlocks => exact hunlocks hown secrethash_eq unlocks
  | registered secrethash_eq _ register => exact hregister secrethash_eq register
  | unlockedOnchain secrethash_eq _ register unlocks =>
    have htouched := hregister secrethash_eq register
    exact htouched.trans (hunlocks htouched.own secrethash_eq unlocks)

/-- A transfer that stays is the same transfer, in another status. -/
theorem Reaction.newState_eq (h : Reaction P now st c sc r) (hnew : r.newState = some new) :
    ∃ status received,
      new = { st with transferState := status, receivedSecretRequest := received } := by
  cases h with
  | ignored | registered =>
    cases hnew
    exact ⟨_, _, rfl⟩
  | revealed | refused =>
    cases hnew
    exact ⟨_, _, rfl⟩
  | gone | unlocked | unlockedOnchain => cases hnew
  | expired _ _ _ _ kept =>
    rcases kept with rfl | rfl
    · cases hnew
    · cases hnew
      exact ⟨_, _, rfl⟩

theorem Reaction.lockKept (h : Reaction P now st c sc r) (hown : OwnLocks P c)
    (hsame : st.transfer.lock.secrethash = st.transferDescription.secrethash)
    (hblock : ∀ block, sc = .block block → block.blockNumber = now)
    (hkept : LockKept now st.transfer.lock st.transferState c.ourState)
    (hnew : r.newState = some new) :
    LockKept now st.transfer.lock new.transferState r.channel.ourState := by
  -- the transfer is marked as expired in any case, whether its lock is still there or not
  have hexpired : LockKept now st.transfer.lock .transferExpired c.ourState := by
    cases hkept with
    | held found => exact .held found
    | removed gone expired _ => exact .removed gone expired (.inl rfl)
  cases h with
  | ignored =>
    cases hnew
    exact hkept
  | gone | unlocked | unlockedOnchain => cases hnew
  | @expired block lock _ _ _ found passed _ removal kept =>
    rcases kept with rfl | rfl <;> cases hnew
    rcases removal with ⟨rfl, -⟩ | ⟨md, hstep⟩
    · exact hexpired
    · rcases hstep.expired_cases hown.tracked with hour | hgone
      · rw [hour]
        exact hexpired
      · refine .removed hgone ?_ (.inl rfl)
        have hlock := hkept.eq_of_getLock (getLock_of_locked found)
        have hpassed := (isLockExpired_ok.mp passed).2
        rw [hlock, hblock block rfl] at hpassed
        exact Nat.le_trans (Nat.le_add_right _ _) hpassed
  | revealed _ held _ =>
    cases hnew
    rw [← hsame] at held
    exact .held (held.trans (congrArg some (hkept.eq_of_getLock held)))
  | refused =>
    cases hnew
    exact hkept
  | registered secrethash_eq _ register =>
    cases hnew
    rw [secrethash_eq, ← hsame] at register
    have hlookup := getLock_registerOnchainSecret hown register
    cases hkept with
    | held found => exact .held (hlookup.trans found)
    | removed gone expired known =>
      refine .removed (getLock_eq_none_iff.mp ?_) expired known
      exact hlookup.trans (getLock_eq_none_iff.mpr gone)

end Transfer

end Raiden.Initiator

namespace Raiden.InitiatorManager

open Lib Channel Initiator

variable (P : Primitives) (M : FeeMargins) (net : TokenNetworkRef)

structure Paying where
  task : Option InitiatorPaymentState := none
  channels : Channels := .empty
  blockNumber : Nat

/-- A node without channels. -/
def Paying.start (now : Nat) : Paying := { blockNumber := now }

/-- The transfers of a payment; a finished one has none. -/
def transfersOf (task : Option InitiatorPaymentState) : Dict SecretHash InitiatorTransferState :=
  task.elim .empty InitiatorPaymentState.initiatorTransfers

def Paying.taskRefs (s : Paying) : List ChannelRef :=
  (transfersOf s.task).values.map (channelRef net)

def Paying.dispatches (s : Paying) : PaymentStateChange → Prop
  | .actionInitInitiator init => init.transfer.tokenNetworkAddress = net.address
  | .block block => s.task.isSome = true ∧ block.blockNumber = s.blockNumber
  | .actionTransferReroute _ | .actionCancelPayment _ | .receiveTransferCancelRoute _
  | .receiveSecretRequest _ | .receiveSecretReveal _ | .receiveLockExpired _
  | .contractReceiveSecretReveal _ => s.task.isSome = true
  | _ => False

inductive Input where
  | tick (now : Nat)
  | opened (ref : ChannelRef) (c : NettingChannelState)
  | channel (ref : ChannelRef) (op : ChannelOp)
  | task (change : PaymentStateChange)

inductive Paying.Next (s : Paying) : Input × List Event → Paying → Prop
  | tick {n : Nat} (later : s.blockNumber < n) : Next s (.tick n, []) { s with blockNumber := n }
  | opened {ref : ChannelRef} {c : NettingChannelState} (absent : s.channels.get? ref = none)
      (unused : ref ∉ s.taskRefs net) (fresh : Mediator.OpenedAs net ref c) :
      Next s (.opened ref c, []) { s with channels := s.channels.set ref c }
  | channel {ref : ChannelRef} {c c' : NettingChannelState} {op : ChannelOp} {es : List Event}
      (found : s.channels.get? ref = some c) (step : Step P c (op, es) c')
      (foreign : ∀ k ∈ (transfersOf s.task).keys, op.secrethash P ≠ some k) :
      Next s (.channel ref op, es) { s with channels := s.channels.set ref c' }
  | removed {ref : ChannelRef} {c : NettingChannelState} {op : ChannelOp} {es : List Event}
      {prng prng' : Prng} (found : s.channels.get? ref = some c)
      (step : (op.run P c).run prng = .ok (⟨none, es⟩, prng')) :
      Next s (.channel ref op, es) { s with channels := s.channels.del ref }
  | task {change : PaymentStateChange} {prng prng' : Prng}
      {r : Iteration (Option InitiatorPaymentState)} (dispatched : s.dispatches net change)
      (run : (stateTransition P M net s.task change s.channels s.channels.addressesToChannel
        s.blockNumber).run prng = .ok (r, prng')) :
      Next s (.task change, r.events) { s with task := r.newState, channels := r.channels }

/-- A step on an input that meets a condition. -/
def Paying.NextIf (G : Paying → Input → Prop) (s : Paying) (label : Input × List Event)
    (s' : Paying) : Prop :=
  G s label.1 ∧ s.Next P M net label s'

def Unused (cs : Channels) (hash : SecretHash) : Prop :=
  ∀ c ∈ cs.values, isLockPending c.ourState hash = false

/-- No new lock of the node reuses a secrethash that is pending at our end. -/
def AddsUnused (s : Paying) : Input → Prop
  | .channel ref op => ∀ c ∈ s.channels.get? ref, AddsFresh c op
  | .task (.actionInitInitiator init) => Unused s.channels init.transfer.secrethash
  | .task (.actionTransferReroute change) => Unused s.channels (secrethash P change)
  | _ => True

structure TransferHeld (now : Nat) (cs : Channels) (key : SecretHash)
    (st : InitiatorTransferState) : Prop where
  key_eq : st.transfer.lock.secrethash = key
  described : st.transferDescription.secrethash = key
  network : st.transferDescription.tokenNetworkAddress = net.address
  lock : ∀ c, cs.get? (channelRef net st) = some c →
    LockKept now st.transfer.lock st.transferState c.ourState

/-- A channel under its own reference, with our end in order. -/
structure InOrder (ref : ChannelRef) (c : NettingChannelState) : Prop where
  own : OwnLocks P c
  identifier : c.identifier = ref.channelIdentifier
  network : c.tokenNetworkAddress = ref.tokenNetwork.address
  identifier_le : ref.channelIdentifier ≤ uint256Max
  registry : ref.tokenNetwork.address = net.address → ref.tokenNetwork = net

structure Sound (now : Nat) (transfers : Dict SecretHash InitiatorTransferState)
    (cs : Channels) : Prop where
  filed : ∀ ref c, cs.get? ref = some c → InOrder P net ref c
  held : ∀ key st, transfers.get? key = some st →
    TransferHeld net now cs key st

section Invariant

variable {P M net} {now : Nat} {transfers transfers' : Dict SecretHash InitiatorTransferState}
  {cs : Channels} {ref : ChannelRef} {c c' : NettingChannelState}

theorem InOrder.of_own (h : InOrder P net ref c) (own : OwnLocks P c')
    (identity : SameIdentity c c') : InOrder P net ref c' := by
  refine ⟨own, Eq.trans ?_ h.identifier, Eq.trans ?_ h.network, h.identifier_le, h.registry⟩
  · exact congrArg CanonicalIdentifier.channelIdentifier identity.identifier
  · exact congrArg CanonicalIdentifier.tokenNetworkAddress identity.identifier

variable (h : Sound P net now transfers cs)

include h

/-- One channel changes: the other transfers must find their locks as before. -/
theorem Sound.update
    (found : cs.get? ref = some c) (own : OwnLocks P c') (identity : SameIdentity c c')
    (kept : ∀ key st, transfers'.get? key = some st →
      (transfers.get? key = some st ∧ SameLocksAt key c.ourState c'.ourState) ∨
        TransferHeld net now (cs.set ref c') key st) :
    Sound P net now transfers' (cs.set ref c') := by
  refine ⟨fun other d hd => ?_, fun key st hget => ?_⟩
  · rw [Dict.get?_set] at hd
    split at hd
    · next hother =>
      cases hd
      exact hother ▸ (h.filed ref c found).of_own own identity
    · exact h.filed other d hd
  · rcases kept key st hget with ⟨hold, hsame⟩ | hheld
    · obtain ⟨key_eq, described, network, lock⟩ := h.held key st hold
      refine ⟨key_eq, described, network, fun d hd => ?_⟩
      rw [Dict.get?_set] at hd
      split at hd
      · next href =>
        cases hd
        exact (lock c (href ▸ found)).sameLocksAt (key_eq ▸ hsame)
      · exact lock d hd
    · exact hheld

/-- The partner's end of a channel is not read. -/
theorem Sound.partner
    (found : cs.get? ref = some c) (hour : c'.ourState = c.ourState) (identity : SameIdentity c c') :
    Sound P net now transfers (cs.set ref c') := by
  refine h.update found ((h.filed ref c found).own.of_ourState hour) identity fun key st hget => ?_
  exact .inl ⟨hget, hour ▸ .refl key _⟩

/-- What is stored about the transfers changes, not their locks. -/
theorem Sound.relabel
    (kept : ∀ key st, transfers'.get? key = some st → transfers.get? key = some st ∨
      ∃ old, transfers.get? key = some old ∧ st = { old with transferState := .transferCancelled }) :
    Sound P net now transfers' cs := by
  refine ⟨h.filed, fun key st hget => ?_⟩
  rcases kept key st hget with hold | ⟨old, hold, rfl⟩
  · exact h.held key st hold
  · obtain ⟨key_eq, described, network, lock⟩ := h.held key old hold
    refine ⟨key_eq, described, network, fun c hc => ?_⟩
    cases lock c hc with
    | held found => exact .held found
    | removed gone expired _ => exact .removed gone expired (.inr rfl)

theorem Sound.empty : Sound P net now .empty cs :=
  ⟨h.filed, nofun⟩

end Invariant

section Payment

variable {P M net} {now : Nat} {pay : InitiatorPaymentState} {cs : Channels}
  {a2c : AddressesToChannel} {sc : PaymentStateChange} {key : SecretHash}
  {st : InitiatorTransferState} {task : Option InitiatorPaymentState}

/-- The invariant of a running payment. -/
def SoundPayment (P : Primitives) (net : TokenNetworkRef) (now : Nat)
    (r : Iteration InitiatorPaymentState) : Prop :=
  Sound P net now r.newState.initiatorTransfers r.channels

theorem subdispatchToInitiatortransfer_sound (h : Sound P net now pay.initiatorTransfers cs)
    (hstate : pay.initiatorTransfers.get? key = some st)
    (hblock : ∀ block, sc = .block block → block.blockNumber = now) :
    Ensures (subdispatchToInitiatortransfer P net pay key st sc cs now)
      (SoundPayment P net now) := by
  have hheld := h.held key st hstate
  unfold subdispatchToInitiatortransfer
  dsimp only
  cases found : cs.get? (channelRef net st) with
  | none => exact .pure h
  | some c =>
    have hown := (h.filed _ c found).own
    have hsame := hheld.key_eq.trans hheld.described.symm
    refine .bind (Initiator.stateTransition_ensures sc) fun r hr => ?_
    have htouched := hr.touched hown hsame
    have hkept : ∀ new, r.newState = some new → TransferHeld net now
        (cs.set (channelRef net st) r.channel) key new := by
      intro new hnew
      have hlock := hr.lockKept hown hsame hblock (hheld.lock c found) hnew
      obtain ⟨status, received, rfl⟩ := hr.newState_eq hnew
      refine ⟨hheld.key_eq, hheld.described, hheld.network, fun d hd => ?_⟩
      cases (Dict.get?_set_self _ _ _).symm.trans hd
      exact hlock
    have hothers : ∀ other old, other ≠ key → pay.initiatorTransfers.get? other = some old →
        pay.initiatorTransfers.get? other = some old ∧
          SameLocksAt other c.ourState r.channel.ourState := by
      intro other old hother hget
      exact ⟨hget, htouched.others other (hheld.key_eq ▸ hother)⟩
    obtain ⟨c', newState, es⟩ := r
    cases newState with
    | some new =>
      refine .pure (h.update found htouched.own htouched.identity fun other old hget => ?_)
      rw [Dict.get?_set] at hget
      split at hget
      · next hother =>
        cases hget
        exact .inr (hother ▸ hkept new rfl)
      · next hother => exact .inl (hothers other old hother hget)
    | none =>
      refine .after fun _ => .pure ?_
      refine h.update found htouched.own htouched.identity fun other old hget => ?_
      obtain ⟨hother, hget⟩ := Dict.get?_del_eq_some.mp hget
      exact .inl (hothers other old (hheld.key_eq ▸ hother) hget)

theorem subdispatchToAllInitiatortransfer_sound (keys : List SecretHash)
    (hblock : ∀ block, sc = .block block → block.blockNumber = now)
    (h : Sound P net now pay.initiatorTransfers cs) :
    Ensures (subdispatchToAllInitiatortransfer P net pay sc cs now keys)
      (SoundPayment P net now) := by
  induction keys generalizing pay cs with
  | nil => exact .pure h
  | cons key keys ih =>
    unfold subdispatchToAllInitiatortransfer
    cases hstate : pay.initiatorTransfers.get? key with
    | none => exact .throw
    | some st =>
      refine .bind (subdispatchToInitiatortransfer_sound h hstate hblock) fun first hfirst => ?_
      exact .bind (ih hfirst) fun rest hrest => .pure hrest

theorem cancelOthersIfUnlocked_sound {r : Iteration InitiatorPaymentState} (hash : SecretHash)
    (h : SoundPayment P net now r) : SoundPayment P net now (cancelOthersIfUnlocked hash r) := by
  unfold cancelOthersIfUnlocked
  split
  · exact h
  · refine Sound.relabel h fun key st hget => .inr ?_
    simp only [cancelOtherTransfers, Dict.get?_map, Option.map_eq_some_iff] at hget
    obtain ⟨old, hold, rfl⟩ := hget
    exact ⟨old, hold, rfl⟩

theorem handleSecretreveal_sound (hash : SecretHash) (msg : String)
    (hblock : ∀ block, sc = .block block → block.blockNumber = now)
    (h : Sound P net now pay.initiatorTransfers cs) :
    Ensures (handleSecretreveal P net pay sc hash msg cs now) (SoundPayment P net now) := by
  unfold handleSecretreveal
  cases hstate : pay.initiatorTransfers.get? hash with
  | none => exact .pure h
  | some st =>
    refine .after fun _ => ?_
    refine .bind (subdispatchToInitiatortransfer_sound h hstate hblock) fun r hr => ?_
    exact .pure (cancelOthersIfUnlocked_sound hash hr)

/-- The loop of a cancellation: what it has not visited yet is as it was stored. -/
theorem cancelTransfers_relabels (entries : List (SecretHash × InitiatorTransferState))
    {current cancelled : InitiatorPaymentState} {es : List Event}
    (hentries : ∀ entry ∈ entries, pay.initiatorTransfers.get? entry.1 = some entry.2)
    (hcurrent : ∀ key st, current.initiatorTransfers.get? key = some st →
      pay.initiatorTransfers.get? key = some st ∨ ∃ old,
        pay.initiatorTransfers.get? key = some old ∧
          st = { old with transferState := .transferCancelled })
    (hok : cancelTransfers net cs entries current = .ok (cancelled, es)) :
    ∀ key st, cancelled.initiatorTransfers.get? key = some st →
      pay.initiatorTransfers.get? key = some st ∨ ∃ old,
        pay.initiatorTransfers.get? key = some old ∧
          st = { old with transferState := .transferCancelled } := by
  induction entries generalizing current es with
  | nil =>
    cases hok
    exact hcurrent
  | cons entry entries ih =>
    obtain ⟨key, st⟩ := entry
    have hrest := fun entry hmem => hentries entry (List.mem_cons_of_mem _ hmem)
    unfold cancelTransfers at hok
    split at hok
    · exact ih hrest hcurrent hok
    · split at hok
      · simp only [cancelCurrentRoute, seq_ok_iff, assert_eq_ok, exists_const, pure_eq_ok] at hok
        obtain ⟨_, ⟨-, rfl⟩, ⟨next, _⟩, hok, heq⟩ := hok
        cases heq
        refine ih hrest (fun other new hget => ?_) hok
        rw [Dict.get?_set] at hget
        split at hget
        · next hother =>
          cases hget
          exact .inr ⟨st, hother ▸ hentries _ List.mem_cons_self, rfl⟩
        · exact hcurrent other new hget
      · exact ih hrest hcurrent hok

theorem handleCancelpayment_sound (h : Sound P net now pay.initiatorTransfers cs) :
    Ensures (liftM (handleCancelpayment net pay cs) : Handler _) (SoundPayment P net now) := by
  refine .lift fun r hr => ?_
  simp only [handleCancelpayment, seq_ok_iff, pure_eq_ok] at hr
  obtain ⟨⟨cancelled, es⟩, hcancelled, rfl⟩ := hr
  refine Sound.relabel h (cancelTransfers_relabels _ (fun entry hmem => ?_) (fun _ _ => .inl) hcancelled)
  exact Dict.mem_entries_iff.mp hmem

theorem handleFailroute_sound (cancel : ReceiveTransferCancelRoute)
    (h : Sound P net now pay.initiatorTransfers cs) :
    Ensures (liftM (handleFailroute pay cancel cs) : Handler _) (SoundPayment P net now) := by
  refine .lift fun r hr => ?_
  unfold handleFailroute at hr
  split at hr
  · cases hr
    exact h
  · split at hr
    · simp only [cancelCurrentRoute, seq_ok_iff, assert_eq_ok, exists_const, pure_eq_ok] at hr
      obtain ⟨_, ⟨-, rfl⟩, rfl⟩ := hr
      exact h
    · cases hr
      exact h

theorem handleLockExpired_sound (expired : ReceiveLockExpired)
    (h : Sound P net now pay.initiatorTransfers cs) :
    SoundPayment P net now (handleLockExpired P net pay expired cs now) := by
  unfold handleLockExpired
  cases pay.initiatorTransfers.get? expired.secrethash with
  | none => exact h
  | some st =>
    dsimp only
    cases found : cs.get? (channelRef net st) with
    | none => exact h
    | some c =>
      refine h.partner found ?_ (Step.receiveLockExpired (P := P) c expired _ _).sameIdentity
      rcases handleReceiveLockExpired_cases P (c := c) expired now
        (getAddressMetadata c.partnerState.address pay.routes) with ⟨msg, heq⟩ | ⟨_, _, -, heq⟩
      all_goals rw [heq]

theorem unused_iff {hash : SecretHash} : Unused cs hash ↔
    ∀ ref c, cs.get? ref = some c → isLockPending c.ourState hash = false := by
  constructor
  · exact fun h ref c hget => h c (Dict.mem_values_iff.mpr ⟨ref, hget⟩)
  · intro h c hmem
    obtain ⟨ref, hget⟩ := Dict.mem_values_iff.mp hmem
    exact h ref c hget

theorem Tried.sound {description : TransferDescriptionWithSecretState}
    {r : Iteration (Option InitiatorTransferState)} (h : Tried P cs description r)
    (hs : Sound P net now pay.initiatorTransfers cs)
    (hnetwork : description.tokenNetworkAddress = net.address)
    (hunused : Unused cs description.secrethash) :
    Sound P net now (withTransferAdded pay r.newState).initiatorTransfers r.channels := by
  cases h with
  | failed => exact hs
  | @started ref c c' arguments msg route found network secrethash_eq sent =>
    have hfiled := hs.filed ref c found
    have hfresh : AddsFresh c (.sendLockedtransfer arguments) := by
      rintro _ ⟨⟩
      rw [secrethash_eq]
      exact unused_iff.mp hunused ref c found
    have htouched := Touched.of_step hfiled.own (Step.sendLockedtransfer sent) hfresh rfl
    obtain ⟨locks, hsent, hc'⟩ := sendLockedtransfer_ok P sent
    have hkey : msg.transfer.lock.secrethash = description.secrethash :=
      hsent.secrethash_eq.trans secrethash_eq
    have href : channelRef net {
        route
        transferDescription := description
        channelIdentifier := c'.identifier
        transfer := msg.transfer } = ref := by
      have htoken := hfiled.registry (hfiled.network.symm.trans (network.trans hnetwork))
      have hid : c'.identifier = ref.channelIdentifier := by
        rw [hc']
        exact hfiled.identifier
      rw [channelRef, hid, ← htoken]
    refine hs.update found htouched.own htouched.identity fun key st hget => ?_
    simp only [withTransferAdded, Option.elim_some, Dict.get?_set] at hget
    split at hget
    · next hkey' =>
      cases hget
      refine .inr ⟨hkey'.symm, hkey.symm.trans hkey'.symm, hnetwork, fun d hd => ?_⟩
      rw [href] at hd
      cases (Dict.get?_set_self _ _ _).symm.trans hd
      rw [hc']
      exact .held (getLock_addLock _ _ _ _)
    · next hother =>
      refine .inl ⟨hget, htouched.others key fun heq => hother ?_⟩
      exact heq.trans hsent.secrethash_eq.symm

theorem handleTransferreroute_sound (reroute : ActionTransferReroute)
    (h : Sound P net now pay.initiatorTransfers cs) (hunused : Unused cs (secrethash P reroute)) :
    Ensures (handleTransferreroute P M net pay reroute cs a2c now) (SoundPayment P net now) := by
  refine handleTransferreroute_ensures.mono fun r hr => ?_
  have hfound : ∀ {ref : ChannelRef} {st : InitiatorTransferState} {c : NettingChannelState},
      refundedIn net pay reroute.transfer cs = some (ref, st, c) →
      cs.get? ref = some c ∧
        st.transferDescription.tokenNetworkAddress = net.address := by
    intro ref st c hrefunded
    simp only [refundedIn, Option.bind_eq_some_iff, Option.map_eq_some_iff] at hrefunded
    obtain ⟨_, hstate, _, hc, heq⟩ := hrefunded
    cases heq
    exact ⟨hc, (h.held _ _ hstate).network⟩
  cases hr with
  | unknown | invalid => exact h
  | mismatch found => exact h.partner (hfound found).1 rfl ⟨rfl, rfl, rfl, rfl, rfl⟩
  | @accepted ref st c locks _ _ found _ _ route =>
    obtain ⟨hc, hnetwork⟩ := hfound found
    have hrefunded : Sound P net now pay.initiatorTransfers
        (cs.set ref (withTransfer c reroute.transfer locks)) :=
      h.partner hc rfl ⟨rfl, rfl, rfl, rfl, rfl⟩
    refine Tried.sound route hrefunded hnetwork (unused_iff.mpr fun other d hd => ?_)
    rw [Dict.get?_set] at hd
    split at hd
    · cases hd
      exact unused_iff.mp hunused ref c hc
    · exact unused_iff.mp hunused other d hd

/-- Where the node hands a state change to the payment without reusing a secrethash. -/
structure Handed (P : Primitives) (net : TokenNetworkRef) (now : Nat)
    (cs : Channels) (change : PaymentStateChange) : Prop where
  block : ∀ block, change = .block block → block.blockNumber = now
  init : ∀ init, change = .actionInitInitiator init →
    init.transfer.tokenNetworkAddress = net.address ∧
      Unused cs init.transfer.secrethash
  reroute : ∀ reroute, change = .actionTransferReroute reroute → Unused cs (secrethash P reroute)

theorem handleRunning_sound (h : Sound P net now pay.initiatorTransfers cs)
    (hhanded : Handed P net now cs sc) :
    Ensures (handleRunning P M net pay sc cs a2c now) (SoundPayment P net now) := by
  cases sc with
  | block sc => exact subdispatchToAllInitiatortransfer_sound _ hhanded.block h
  | receiveTransferCancelRoute sc => exact handleFailroute_sound sc h
  | actionTransferReroute sc => exact handleTransferreroute_sound sc h (hhanded.reroute sc rfl)
  | receiveSecretRequest sc =>
    show Ensures (handleSecretrequest P net pay sc cs now) _
    unfold handleSecretrequest
    split
    · exact .pure h
    · next hstate =>
      split
      · exact .pure h
      · exact subdispatchToInitiatortransfer_sound h hstate hhanded.block
  | actionCancelPayment => exact handleCancelpayment_sound h
  | receiveSecretReveal sc => exact handleSecretreveal_sound _ _ hhanded.block h
  | receiveLockExpired sc => exact .pure (handleLockExpired_sound sc h)
  | contractReceiveSecretReveal sc => exact handleSecretreveal_sound _ _ hhanded.block h
  | _ => exact .pure h

theorem handleInit_sound (init : ActionInitInitiator) (h : Sound P net now (transfersOf task) cs)
    (hnetwork : init.transfer.tokenNetworkAddress = net.address)
    (hunused : Unused cs init.transfer.secrethash) :
    Ensures (handleInit P M task init cs a2c now) fun r =>
      Sound P net now (transfersOf r.newState) r.channels := by
  cases task with
  | some pay => exact .pure h
  | none =>
    refine .bind (tryNewRoute_ensures _ _ _) fun r hr => .pure ?_
    have hsound : Sound P net now
        (withTransferAdded ⟨init.routes, .empty, []⟩ r.newState).initiatorTransfers r.channels :=
      Tried.sound hr h hnetwork hunused
    obtain ⟨cs', newState, es⟩ := r
    cases newState <;> exact hsound

theorem stateTransition_sound (h : Sound P net now (transfersOf task) cs)
    (hhanded : Handed P net now cs sc) :
    Ensures (stateTransition P M net task sc cs a2c now)
      fun r => Sound P net now (transfersOf r.newState) r.channels := by
  refine .bind (Q := fun r => Sound P net now (transfersOf r.newState) r.channels)
    ?_ fun r hr => .pure ?_
  · unfold handleStateChange
    split
    · obtain ⟨hnetwork, hunused⟩ := hhanded.init _ rfl
      exact handleInit_sound _ h hnetwork hunused
    · exact .throw
    · exact .pure h
    · exact .bind (handleRunning_sound h hhanded) fun r hr => .pure hr
  · obtain ⟨cs', newState, es⟩ := r
    cases newState with
    | none => exact hr
    | some pay =>
      simp only [clearIfFinalized, Option.filter]
      split
      · exact hr
      · exact hr.empty

end Payment

section Runs

variable {P M net} {s s' : Paying} {label : Input × List Event}

def Paying.Sound (P : Primitives) (net : TokenNetworkRef) (s : Paying) : Prop :=
  InitiatorManager.Sound P net s.blockNumber (transfersOf s.task) s.channels

theorem Paying.Sound.next (h : s.Sound P net)
    (hnext : s.NextIf P M net (AddsUnused P) label s') : s'.Sound P net := by
  obtain ⟨hunused, hnext⟩ := hnext
  cases hnext with
  | tick later =>
    refine ⟨h.filed, fun key st hget => ?_⟩
    obtain ⟨key_eq, described, network, lock⟩ := h.held key st hget
    exact ⟨key_eq, described, network, fun c hc => (lock c hc).later (Nat.le_of_lt later)⟩
  | @opened ref c absent unused fresh =>
    refine ⟨fun other d hd => ?_, fun key st hget => ?_⟩
    · rw [Dict.get?_set] at hd
      split at hd
      · next hother =>
        cases hd
        exact hother ▸ ⟨.start fresh.fresh, fresh.identifier, fresh.network, fresh.identifier_le,
          fresh.registry⟩
      · exact h.filed other d hd
    · obtain ⟨key_eq, described, network, lock⟩ := h.held key st hget
      refine ⟨key_eq, described, network, fun d hd => lock d ?_⟩
      have hne : channelRef net st ≠ ref := by
        rintro rfl
        exact unused (List.mem_map_of_mem (Dict.mem_values_iff.mpr ⟨key, hget⟩))
      exact (Dict.get?_set_ne _ _ hne).symm.trans hd
  | @channel ref c c' op es found step foreign =>
    have hown := (h.filed ref c found).own
    refine h.update found (hown.step (hunused c found) step) step.sameIdentity fun key st hget => ?_
    have hmem : key ∈ (transfersOf s.task).keys := Dict.mem_keys_iff.mpr (Dict.mem_of_get? hget)
    exact .inl ⟨hget, (step.sameLocksAt hown.tracked (foreign key hmem)).1⟩
  | removed found =>
    refine ⟨fun other d hd => h.filed other d (Dict.get?_del_eq_some.mp hd).2, fun key st hget => ?_⟩
    obtain ⟨key_eq, described, network, lock⟩ := h.held key st hget
    exact ⟨key_eq, described, network, fun d hd => lock d (Dict.get?_del_eq_some.mp hd).2⟩
  | @task sc prng prng' r dispatched run =>
    refine stateTransition_sound h ⟨?_, ?_, ?_⟩ prng r prng' run
    · rintro block rfl
      exact dispatched.2
    · rintro init rfl
      exact ⟨dispatched, hunused⟩
    · rintro reroute rfl
      exact hunused

theorem Paying.sound_of_run {now : Nat} {log : List (Input × List Event)}
    (h : Run (Paying.NextIf P M net (AddsUnused P)) (.start now) log s) : s.Sound P net := by
  refine h.invariant (I := Paying.Sound P net) ⟨?_, ?_⟩ fun _ _ _ hs hnext => hs.next hnext
  · exact fun _ _ hget => by cases hget
  · exact nofun

end Runs

end Raiden.InitiatorManager
