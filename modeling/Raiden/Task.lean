import Raiden.Lib.Visit
import Raiden.Channel.Receive
import Raiden.MediationFee

/-! # What the payment tasks share

A task reaches a channel object either through the channel map of its token
network or through the map from partner addresses; both hold references to one
store of channels, which every operation of a task reads and updates. -/
namespace Raiden

open Lib

variable {e : Event} {events events' : List Event}

/-- A token network object: its number among the objects the node holds, and its address. -/
structure TokenNetworkRef where
  object : Nat
  address : Address
deriving DecidableEq

structure ChannelRef where
  tokenNetwork : TokenNetworkRef
  channelIdentifier : ChannelID
deriving DecidableEq

abbrev Channels := Dict ChannelRef NettingChannelState

/-- The channel with a partner, by the address of the token network and of the partner. -/
abbrev AddressesToChannel := Dict (Address × Address) ChannelRef

/-- The channel a partner is reached through; of several the latest one. -/
def Channels.addressesToChannel (channels : Channels) : AddressesToChannel :=
  channels.entries.foldl (fun book (ref, c) =>
    book.set (ref.tokenNetwork.address, c.partnerState.address) ref) .empty

inductive PaymentStateChange where
  | block (change : Block)
  | actionInitInitiator (change : ActionInitInitiator)
  | actionInitMediator (change : ActionInitMediator)
  | actionInitTarget (change : ActionInitTarget)
  | actionTransferReroute (change : ActionTransferReroute)
  | actionCancelPayment (paymentIdentifier : PaymentID)
  | receiveTransferCancelRoute (change : ReceiveTransferCancelRoute)
  | receiveTransferRefund (change : ReceiveTransferRefund)
  | receiveSecretRequest (change : ReceiveSecretRequest)
  | receiveSecretReveal (change : ReceiveSecretReveal)
  | receiveUnlock (change : ReceiveUnlock)
  | receiveLockExpired (change : ReceiveLockExpired)
  | contractReceiveSecretReveal (change : ContractReceiveSecretReveal)

/-- The result of a task's transition together with the store of channels. -/
structure Iteration (α : Type) where
  channels : Channels
  newState : α
  events : List Event

def Channels.updateM (channels : Channels) (ref : ChannelRef)
    (f : NettingChannelState → Fallible NettingChannelState) : Fallible Channels :=
  match channels.get? ref with
  | some c => do return channels.set ref (← f c)
  | none => .ok channels

def BalanceProofUnsignedState.channelIdentifier (bp : BalanceProofUnsignedState) : ChannelID :=
  bp.canonicalIdentifier.channelIdentifier

def BalanceProofUnsignedState.tokenNetworkAddress (bp : BalanceProofUnsignedState) : Address :=
  bp.canonicalIdentifier.tokenNetworkAddress

def filterAcceptableRoutes (routeStates : List RouteState) (blacklistedChannelIds : List ChannelID)
    (channels : Channels) (addressesToChannel : AddressesToChannel) (tokenNetworkAddress : Address)
    (ourAddress : Address) : List RouteState :=
  routeStates.filter fun route =>
    ((route.hopAfter ourAddress).bind fun nextHop =>
        (addressesToChannel.get? (tokenNetworkAddress, nextHop)).bind channels.get?).any
      fun channel => channel.identifier ∉ blacklistedChannelIds

def channelStatesUpToClosed : List ChannelState := channelStatesPriorToClosed ++ [.closed]

/-- The on-chain registration of a secret, while the channel is not settled. -/
def eventsForOnchainSecretreveal (c : NettingChannelState) (secret : Secret) (expiration : Nat)
    (blockHash : BlockHash) : List Event :=
  if Channel.getStatus c ∈ channelStatesUpToClosed then
    [.contractSendSecretReveal expiration secret blockHash]
  else []

/-- Waiting is safe while more than `revealTimeout` blocks are left to unlock on-chain. -/
def isSafeToWait (lockExpiration : Nat) (revealTimeout : Nat) (blockNumber : Nat) :
    Fallible SuccessOrError := do
  assert (0 < blockNumber) "block_number must be larger than zero"
  assert (0 < revealTimeout) "reveal_timeout must be larger than zero"
  assert (revealTimeout < lockExpiration) "lock_expiration must be larger than reveal_timeout"
  let lockTimeout : Int := lockExpiration - blockNumber
  if (revealTimeout : Int) < lockTimeout then return .ok ()
  return .error ("lock timeout is unsafe." ++
    s!" timeout must be larger than {revealTimeout}, but it is {lockTimeout}." ++
    s!" expiration: {lockExpiration} block_number: {blockNumber}")

/-! ## Kinds of events -/

def isUnlock : Event → Bool
  | .sendUnlock _ => true
  | _ => false

theorem isUnlock_eq_true (h : isUnlock e = true) : ∃ unlock, e = .sendUnlock unlock := by
  cases e with
  | sendUnlock unlock => exact ⟨unlock, rfl⟩
  | _ => cases h

def isReport : Event → Bool
  | .eventUnlockClaimFailed _ _ reason => reason = "lock expired"
  | _ => false

def isRegistration : Event → Bool
  | .contractSendSecretReveal .. => true
  | _ => false

theorem isReport_only (h : isReport e = true) : isUnlock e = false ∧ isRegistration e = false := by
  cases e with
  | sendUnlock | contractSendSecretReveal => cases h
  | _ => exact ⟨rfl, rfl⟩

theorem isRegistration_only (h : isRegistration e = true) :
    isUnlock e = false ∧ isReport e = false := by
  cases e with
  | contractSendSecretReveal => exact ⟨rfl, rfl⟩
  | _ => cases h

/-- Neither the report of an expired lock nor an on-chain registration. -/
def Quiet (events : List Event) : Prop := ∀ e ∈ events, isReport e = false ∧ isRegistration e = false

theorem Quiet.nil : Quiet [] := nofun

/-- None of these events. -/
def Silent (events : List Event) : Prop :=
  ∀ e ∈ events, isUnlock e = false ∧ isReport e = false ∧ isRegistration e = false

theorem Silent.nil : Silent [] := nofun

theorem Silent.append (h : Silent events) (h' : Silent events') : Silent (events ++ events') :=
  fun e he => (List.mem_append.mp he).elim (h e) (h' e)

theorem Silent.singleton (h : isUnlock e = false ∧ isReport e = false ∧ isRegistration e = false) :
    Silent [e] := by
  intro e' he'
  rw [List.mem_singleton] at he'
  rw [he']
  exact h

def NoTransfer (events : List Event) : Prop := ∀ message, .sendLockedTransfer message ∉ events

theorem NoTransfer.nil : NoTransfer [] := fun _ => List.not_mem_nil

theorem NoTransfer.append (h : NoTransfer events) (h' : NoTransfer events') :
    NoTransfer (events ++ events') :=
  fun msg hmem => (List.mem_append.mp hmem).elim (h msg) (h' msg)

theorem NoTransfer.singleton {event : Event} (h : ∀ msg, event ≠ .sendLockedTransfer msg) :
    NoTransfer [event] :=
  fun msg hmem => h msg (List.mem_singleton.mp hmem).symm

end Raiden
