import Raiden.Channel.LockInvariant
import Raiden.Mediator.Handlers

/-! # A mediation in its environment

One mediation, identified by its secrethash, and all channels of the node. Time
passes by blocks, channels are opened, other payments and on-chain events change
channels, and the task of the mediation receives what the node hands to it. The
contracts settle a channel only after the settlement window of its closing, and
never use a channel identifier again. -/
namespace Raiden.Mediator

open Lib Channel

variable (P : Primitives) (net : TokenNetworkRef) (hash : SecretHash) {ref : ChannelRef}
  {r : Iteration (Option MediatorTransferState)} {now : Nat} {c : NettingChannelState}
  {sc : PaymentStateChange}

structure Mediation where
  task : Option MediatorTransferState := none
  channels : Channels := .empty
  blockNumber : Nat
  /-- The highest block of which an event was delivered. -/
  height : Nat

/-- A node without channels. -/
def Mediation.start (now : Nat) : Mediation := ⟨none, .empty, now, now⟩

/-! ## What the environment may do -/

def eventBlock : ChannelOp → Option Nat
  | .stateChange change _ _ =>
    match change with
    | .contractReceiveChannelClosed act => some act.blockNumber
    | .contractReceiveUpdateTransfer act => some act.blockNumber
    | .contractReceiveChannelSettled act => some act.blockNumber
    | .contractReceiveChannelDeposit act => some act.blockNumber
    | .contractReceiveChannelWithdraw act => some act.blockNumber
    | .contractReceiveChannelBatchUnlock act => some act.blockNumber
    | _ => none
  | _ => none

/-- An event comes in block order, and before the block of the same height. -/
def Mediation.inOrder (s : Mediation) (block : Option Nat) : Prop :=
  ∀ k ∈ block, s.blockNumber < k ∧ s.height ≤ k

theorem Mediation.inOrder.height_le {s : Mediation} {block : Option Nat} (h : s.inOrder block) :
    s.height ≤ block.getD s.height := by
  cases block with
  | none => exact Nat.le_refl _
  | some k => exact (h k rfl).2

/-- A block reaches the channels with the number the node is at, and a settlement
that leaves locks happens after the settlement window. -/
def Mediation.lawful (s : Mediation) (c : NettingChannelState) : ChannelOp → Prop
  | .stateChange (.block act) _ _ => act.blockNumber = s.blockNumber
  | .stateChange (.contractReceiveChannelSettled act) _ _ =>
    (act.ourOnchainLocksroot = locksrootOfNoLocks P ∧
      act.partnerOnchainLocksroot = locksrootOfNoLocks P) ∨
    ∃ n ∈ closedBlock c, n + c.settleTimeout < act.blockNumber
  | _ => True

def Mediation.dispatches (s : Mediation) : PaymentStateChange → Prop
  | .actionInitMediator init => init.fromTransfer.lock.secrethash = hash
  | .block block => s.task.isSome = true ∧ block.blockNumber = s.blockNumber
  | .receiveTransferRefund refund =>
    s.task.isSome = true ∧ refund.transfer.lock.secrethash = hash
  | .receiveSecretReveal reveal => s.task.isSome = true ∧ reveal.secrethash P = hash
  | .receiveUnlock unlock => s.task.isSome = true ∧ unlock.secrethash P = hash
  | .receiveLockExpired expired => s.task.isSome = true ∧ expired.secrethash = hash
  | .contractReceiveSecretReveal reveal => s.task.isSome = true ∧ reveal.secrethash = hash
  | _ => False

def taskEventBlock : PaymentStateChange → Option Nat
  | .contractReceiveSecretReveal reveal => some reveal.blockNumber
  | _ => none

/-- A channel as the node creates it, under its own reference. -/
structure OpenedAs (net : TokenNetworkRef) (ref : ChannelRef) (c : NettingChannelState) : Prop where
  fresh : Fresh c
  identifier : c.identifier = ref.channelIdentifier
  network : c.tokenNetworkAddress = ref.tokenNetwork.address
  identifier_le : ref.channelIdentifier ≤ uint256Max
  /-- A token network belongs to one registry. -/
  registry : ref.tokenNetwork.address = net.address → ref.tokenNetwork = net

inductive Input where
  | tick (now : Nat)
  | opened (ref : ChannelRef) (c : NettingChannelState)
  | channel (ref : ChannelRef) (op : ChannelOp)
  | task (change : PaymentStateChange) (bh : BlockHash)

def Mediation.taskRefs (s : Mediation) : List ChannelRef :=
  s.task.elim [] (secretRefs net)

inductive Mediation.Next (s : Mediation) : Input × List Event → Mediation → Prop
  | tick {n : Nat} (later : s.blockNumber < n) (order : s.height ≤ n) :
      Next s (.tick n, []) { s with blockNumber := n, height := n }
  | opened {ref : ChannelRef} {c : NettingChannelState} (absent : s.channels.get? ref = none)
      (unused : ref ∉ s.taskRefs net) (fresh : OpenedAs net ref c) :
      Next s (.opened ref c, []) { s with channels := s.channels.set ref c }
  | channel {ref : ChannelRef} {c c' : NettingChannelState} {op : ChannelOp} {es : List Event}
      (found : s.channels.get? ref = some c) (step : Step P c (op, es) c')
      (foreign : op.secrethash P ≠ some hash) (order : s.inOrder (eventBlock op))
      (lawful : s.lawful P c op) :
      Next s (.channel ref op, es)
        { s with channels := s.channels.set ref c', height := (eventBlock op).getD s.height }
  | removed {ref : ChannelRef} {c : NettingChannelState} {op : ChannelOp} {es : List Event}
      {prng prng' : Prng} (found : s.channels.get? ref = some c)
      (step : (op.run P c).run prng = .ok (⟨none, es⟩, prng')) (order : s.inOrder (eventBlock op)) :
      Next s (.channel ref op, es)
        { s with channels := s.channels.del ref, height := (eventBlock op).getD s.height }
  | task {change : PaymentStateChange} {bh : BlockHash} {prng prng' : Prng}
      {r : Iteration (Option MediatorTransferState)}
      (dispatched : s.dispatches P hash change) (order : s.inOrder (taskEventBlock change))
      (run : (stateTransition P net s.task change s.channels s.channels.addressesToChannel
        s.blockNumber bh).run prng = .ok (r, prng')) :
      Next s (.task change bh, r.events)
        { s with
          task := r.newState
          channels := r.channels
          height := (taskEventBlock change).getD s.height }

/-- A step on an input that meets a condition. -/
def Mediation.NextIf (G : Mediation → Input → Prop) (s : Mediation) (label : Input × List Event)
    (s' : Mediation) : Prop :=
  G s label.1 ∧ s.Next P net hash label s'

/-! ## What every step does -/

variable {P net hash} {s s' : Mediation} {label : Input × List Event}

theorem Mediation.Next.reaction {bh : BlockHash} {prng prng' : Prng}
    (run : (stateTransition P net s.task sc s.channels s.channels.addressesToChannel
      s.blockNumber bh).run prng = .ok (r, prng')) :
    ∃ iter, Reaction P net s.channels s.channels.addressesToChannel s.blockNumber s.task
        sc iter ∧ sanityCheckNewState net iter = .ok () ∧ r = clearIfFinalized net iter :=
  stateTransition_ensures s.task sc prng r prng' run

@[simp] theorem clearIfFinalized_channels (iter : Iteration (Option MediatorTransferState)) :
    (clearIfFinalized net iter).channels = iter.channels := by
  rcases clearIfFinalized_cases net iter with h | h <;> rw [h]

@[simp] theorem clearIfFinalized_events (iter : Iteration (Option MediatorTransferState)) :
    (clearIfFinalized net iter).events = iter.events := by
  rcases clearIfFinalized_cases net iter with h | h <;> rw [h]

theorem clearIfFinalized_newState {iter : Iteration (Option MediatorTransferState)}
    {st : MediatorTransferState} (h : (clearIfFinalized net iter).newState = some st) :
    iter.newState = some st := by
  rcases clearIfFinalized_cases net iter with heq | heq <;> rw [heq] at h
  · exact h
  · cases h

theorem Reaction.secrethash_eq {cs : Channels} {a2c : AddressesToChannel}
    (h : Reaction P net cs a2c now s.task sc r) (hs : ∀ st ∈ s.task, st.secrethash = hash)
    (dispatched : s.dispatches P hash sc) : ∀ st ∈ r.newState, st.secrethash = hash := by
  have hmediated : ∀ {st : MediatorTransferState} {payerC : NettingChannelState}
      {cs : Channels} {tr : LockedTransferSignedState} {r : Iteration MediatorTransferState},
      Mediated P st payerC cs a2c tr now r →
        r.newState.secrethash = st.secrethash := by
    intro _ _ _ _ _ h
    cases h <;> rfl
  obtain ⟨task, _, _, _⟩ := s
  cases h with
  | ignored => exact hs
  | initiated h =>
    cases h with
    | rejected => exact hs
    | accepted _ _ _ mediated =>
      rintro _ ⟨⟩
      exact (hmediated mediated).trans dispatched
  | @block st _ _ _ h =>
    rintro _ ⟨⟩
    obtain ⟨pairs, hrest⟩ := h.rest
    rw [hrest]
    exact h.retried.secrethash_eq.trans (hs st rfl)
  | @refunded st _ _ h =>
    cases h with
    | rejected => exact hs
    | accepted _ _ _ _ _ _ mediated =>
      rintro _ ⟨⟩
      exact (hmediated mediated).trans (hs st rfl)
  | @learned st _ _ _ _ h =>
    rintro _ ⟨⟩
    cases h
    exact hs st rfl
  | @learnedOnchain st _ _ _ h =>
    rintro _ ⟨⟩
    cases h
    exact hs st rfl
  | @unlocked st _ _ h =>
    rintro _ ⟨⟩
    rw [h.rest]
    exact hs st rfl
  | @expired st _ _ h =>
    rintro _ ⟨⟩
    rw [h.rest]
    exact hs st rfl

/-- What holds of a new channel and is kept by every operation holds of every channel. -/
theorem Mediation.Next.forall_channels {I : ChannelRef → NettingChannelState → Prop}
    (h : s.Next P net hash label s') (hopened : ∀ ref c, OpenedAs net ref c → I ref c)
    (hstep : ∀ ref c op es c', I ref c → Step P c (op, es) c' → I ref c')
    (hs : ∀ ref c, s.channels.get? ref = some c → I ref c) :
    ∀ ref c, s'.channels.get? ref = some c → I ref c := by
  cases h with
  | tick => exact hs
  | @opened ref c _ _ fresh =>
    intro other d hd
    rw [Dict.get?_set] at hd
    split at hd
    · next hother =>
      cases hd
      exact hother ▸ hopened ref c fresh
    · exact hs other d hd
  | @channel ref c c' op es found step =>
    intro other d hd
    rw [Dict.get?_set] at hd
    split at hd
    · next hother =>
      cases hd
      exact hother ▸ hstep ref c op _ c' (hs ref c found) step
    · exact hs other d hd
  | removed =>
    intro other d hd
    exact hs other d (Dict.get?_del_eq_some.mp hd).2
  | task _ _ run =>
    obtain ⟨iter, hreaction, -, rfl⟩ := Next.reaction run
    intro other d hd
    rw [clearIfFinalized_channels] at hd
    exact hreaction.evolves.forall_channels hs (fun ref c op es c' hi _ => hstep ref c op es c' hi)
      other d hd

/-- A channel is filed under its own identifier, and its locks are tracked. -/
structure Filed (ref : ChannelRef) (c : NettingChannelState) : Prop where
  identifier : c.identifier = ref.channelIdentifier
  network : c.tokenNetworkAddress = ref.tokenNetwork.address
  our : Tracked c.ourState
  partner : Tracked c.partnerState

theorem Filed.incomingRef_eq {tr : LockedTransferSignedState} {locks : List EncodedData}
    (h : Filed ref c)
    (facts : LockedtransferAccepted P c c.partnerState c.ourState tr.balanceProof tr.lock locks)
    (hnetwork : ref.tokenNetwork = net) : ref = incomingRef net tr := by
  have hid := congrArg CanonicalIdentifier.channelIdentifier facts.usable.identifier
  have hfiled : c.canonicalIdentifier.channelIdentifier = ref.channelIdentifier := h.identifier
  rw [hfiled] at hid
  show ref = ⟨net, tr.balanceProof.canonicalIdentifier.channelIdentifier⟩
  rw [hid, ← hnetwork]

theorem Filed.step {c' : NettingChannelState} {op : ChannelOp} {es : List Event} (h : Filed ref c)
    (hstep : Step P c (op, es) c') : Filed ref c' := by
  obtain ⟨hour, hpartner⟩ := hstep.tracked h.our h.partner
  have hid := hstep.sameIdentity.identifier
  refine ⟨Eq.trans ?_ h.identifier, Eq.trans ?_ h.network, hour, hpartner⟩
  · exact congrArg CanonicalIdentifier.channelIdentifier hid
  · exact congrArg CanonicalIdentifier.tokenNetworkAddress hid

theorem Mediation.Next.filed (h : s.Next P net hash label s')
    (hs : ∀ ref c, s.channels.get? ref = some c → Filed ref c) :
    ∀ ref c, s'.channels.get? ref = some c → Filed ref c :=
  h.forall_channels
    (fun _ _ fresh => ⟨fresh.identifier, fresh.network, fresh.fresh.our.tracked, fresh.fresh.partner.tracked⟩)
    (fun _ _ _ _ _ hi hstep => hi.step hstep) hs

structure Regular (hash : SecretHash) (s : Mediation) : Prop where
  filed : ∀ ref c, s.channels.get? ref = some c → Filed ref c
  secrethash_eq : ∀ st ∈ s.task, st.secrethash = hash

theorem Regular.next (hs : Regular hash s) (h : s.Next P net hash label s') : Regular hash s' := by
  refine ⟨h.filed hs.filed, ?_⟩
  cases h with
  | task dispatched _ run =>
    obtain ⟨iter, hreaction, -, rfl⟩ := Mediation.Next.reaction run
    intro st hstate
    exact hreaction.secrethash_eq hs.secrethash_eq dispatched st (clearIfFinalized_newState hstate)
  | _ => exact hs.secrethash_eq

theorem Regular.of_run {log : List (Input × List Event)}
    (h : Run (Mediation.Next P net hash) (.start now) log s) : Regular hash s :=
  h.invariant ⟨fun _ _ h => (by cases h), fun _ h => (by cases h)⟩ fun _ _ _ hs hnext => hs.next hnext

end Raiden.Mediator
