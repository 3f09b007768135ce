import Raiden.EventHandler.ChannelUnlock
import Raiden.Node.Pending
import Raiden.Target.System

/-! # Which channel a batch unlock is decided from

The event names a channel, but the decision is made from the last usable channel
with the partner. Both are one channel as long as no later channel was opened. -/
namespace Raiden.EventHandler

open Lib Channel Storage

variable {P : Primitives}

/-! ## Other locks for the same channels -/

/-- The same end up to its locks, its balance proof and its on-chain locksroot. -/
def SameButLocks (e e' : NettingChannelEndState) : Prop :=
  e' = { e with
    secrethashesToLockedlocks := e'.secrethashesToLockedlocks
    secrethashesToUnlockedlocks := e'.secrethashesToUnlockedlocks
    secrethashesToOnchainUnlockedlocks := e'.secrethashesToOnchainUnlockedlocks
    balanceProof := e'.balanceProof
    pendingLocks := e'.pendingLocks
    onchainLocksroot := e'.onchainLocksroot
    nonce := e'.nonce }

section

variable (f : NettingChannelState → NettingChannelState)

/-- Every channel gets some locks and on-chain locksroots, and is the same otherwise. -/
def Relocks : Prop :=
  ∀ c, SameButLocks c.ourState (f c).ourState ∧ SameButLocks c.partnerState (f c).partnerState ∧
    f c = { c with ourState := (f c).ourState, partnerState := (f c).partnerState }

def mapNetwork (net : TokenNetworkState) : TokenNetworkState :=
  { net with
    channelidentifiersToChannels := net.channelidentifiersToChannels.map fun _ => f }

def mapChannels (s : ChainState) : ChainState :=
  { s with tokenNetworks := s.tokenNetworks.map (mapNetwork f) }

end

section Relocked

variable {f : NettingChannelState → NettingChannelState} {s : ChainState}

theorem Relocks.getStatus_eq (hf : Relocks f) (c : NettingChannelState) : getStatus (f c) = getStatus c := by
  rw [(hf c).2.2]
  rfl

theorem getTokenNetworkByAddress_mapChannels (f : NettingChannelState → NettingChannelState) (s : ChainState)
    (addr : Address) :
    ChainState.Views.getTokenNetworkByAddress (mapChannels f s) addr =
      (ChainState.Views.getTokenNetworkByAddress s addr).map fun found =>
        (found.1, mapNetwork f found.2) := by
  have hresolve : ∀ ref, (mapChannels f s).resolve ref =
      (s.resolve ref).map fun found => (found.1, mapNetwork f found.2) := by
    intro ref
    simp only [ChainState.resolve, mapChannels, List.getElem?_map, Option.map_map]
    rfl
  unfold ChainState.Views.getTokenNetworkByAddress
  rw [List.map_findSome?]
  congr 1
  funext registry
  rw [Function.comp_apply, Option.map_bind]
  congr 1
  funext ref
  exact hresolve ref

theorem get?_mapNetwork (f : NettingChannelState → NettingChannelState) (net : TokenNetworkState)
    (ident : ChannelID) :
    (mapNetwork f net).channelidentifiersToChannels.get? ident =
      (net.channelidentifiersToChannels.get? ident).map f :=
  Dict.get?_map _ _ _

end Relocked

/-! ## The lookup by partner -/

def isUsable (net : TokenNetworkState) (identifier : ChannelID) : Bool :=
  (net.channelidentifiersToChannels.get? identifier).any fun c => getStatus c ≠ .unusable

def lastUsable (net : TokenNetworkState) (partner : Address) : Option ChannelID :=
  ((TokenNetwork.identifiersOf net partner).filter (isUsable net)).getLast?

section Lookup

variable {net : TokenNetworkState} {s : ChainState} {addr partner : Address}
  {ref : TokenNetworkRef}

private theorem mapM_channels {identifiers : List ChannelID} (hknown : ∀ ident ∈ identifiers,
      ∃ c, net.channelidentifiersToChannels.get? ident = some c) :
    ∃ cs, identifiers.mapM (fun ident => match net.channelidentifiersToChannels.get? ident with
        | some c => (.ok c : Fallible NettingChannelState) | none => .error .keyError) = .ok cs ∧
      (cs.filter fun c => getStatus c ≠ .unusable) = (identifiers.filter (isUsable net)).filterMap
          net.channelidentifiersToChannels.get? := by
  induction identifiers with
  | nil => exact ⟨[], rfl, rfl⟩
  | cons ident identifiers ih =>
    obtain ⟨cs, hmap, hfilter⟩ := ih fun i hi => hknown i (List.mem_cons_of_mem _ hi)
    obtain ⟨c, hc⟩ := hknown ident List.mem_cons_self
    refine ⟨c :: cs, ?_, ?_⟩
    · rw [List.mapM_cons, hc, hmap]
      rfl
    · by_cases husable : getStatus c = .unusable
      · have hskip : isUsable net ident = false := by simp [isUsable, hc, husable]
        rw [List.filter_cons_of_neg (by simpa using husable), List.filter_cons_of_neg (by simp [hskip]), hfilter]
      · have hkeep : isUsable net ident = true := by simp [isUsable, hc, husable]
        rw [List.filter_cons_of_pos (by simpa using husable), List.filter_cons_of_pos hkeep,
          List.filterMap_cons_some hc, hfilter]

private theorem getLast?_filterMap {α β : Type} {g : α → Option β} {l : List α}
    (h : ∀ a ∈ l, ∃ b, g a = some b) : (l.filterMap g).getLast? = l.getLast?.bind g := by
  rcases List.eq_nil_or_concat' l with rfl | ⟨init, last, rfl⟩
  · rfl
  · obtain ⟨b, hb⟩ := h last (List.mem_append_right _ List.mem_cons_self)
    rw [List.filterMap_append, List.filterMap_cons_some hb, List.filterMap_nil, List.getLast?_concat,
      List.getLast?_concat, Option.bind_some, hb]

theorem byPartner_eq (hnetwork : ChainState.Views.getTokenNetworkByAddress s addr = some (ref, net))
    (hknown : ∀ ident ∈ TokenNetwork.identifiersOf net partner,
      ∃ c, net.channelidentifiersToChannels.get? ident = some c) :
    ChainState.Views.getChannelstateByTokenNetworkAndPartner s addr partner =
      .ok ((lastUsable net partner).bind net.channelidentifiersToChannels.get?) := by
  obtain ⟨cs, hmap, hfilter⟩ := mapM_channels hknown
  unfold ChainState.Views.getChannelstateByTokenNetworkAndPartner
  rw [hnetwork]
  refine seq_ok_iff.mpr ⟨cs, hmap, ?_⟩
  rw [pure_eq_ok, hfilter, getLast?_filterMap fun a ha => hknown a (List.mem_of_mem_filter ha), lastUsable]

end Lookup

/-- A batch unlock of a settled channel with the sender, as the state machine asks for it. -/
structure NamesSettled (s : ChainState) (event : ContractSendChannelBatchUnlock)
    (net : TokenNetworkState) (c : NettingChannelState) : Prop where
  network : ∃ ref, ChainState.Views.getTokenNetworkByAddress s
    event.canonicalIdentifier.tokenNetworkAddress = some (ref, net)
  indexed : TokenNetwork.Indexed net
  channel : net.channelidentifiersToChannels.get? event.canonicalIdentifier.channelIdentifier = some c
  settled : getStatus c = .settled
  sender : event.sender = c.partnerState.address

/-- Whatever the locks of the channels are and whatever was logged, the handler
does what the locks of the channel `c` of the event ask for. -/
def DecidesFrom (P : Primitives) (s : ChainState) (event : ContractSendChannelBatchUnlock)
    (c : NettingChannelState) : Prop :=
  ∀ f, Relocks f → ∀ (raiden : RaidenService) (ref : ChannelRef) (named : NettingChannelState),
    ChainState.Views.getChannelstateByCanonicalIdentifier raiden.chainState event.canonicalIdentifier =
      some (ref, named) →
    named.identifier = event.canonicalIdentifier.channelIdentifier →
    handleContractSendChannelunlock P raiden event (mapChannels f s) =
      unlockChannel P raiden event (mapChannels f s) event.canonicalIdentifier.channelIdentifier (f c)

section Decision

variable {s : ChainState} {event : ContractSendChannelBatchUnlock} {net : TokenNetworkState}
  {c d : NettingChannelState} {f : NettingChannelState → NettingChannelState}
  {raiden : RaidenService} {ident : ChannelID}

theorem handle_eq (h : NamesSettled s event net c) (hf : Relocks f)
    (hlast : lastUsable net event.sender = some ident)
    (hd : net.channelidentifiersToChannels.get? ident = some d)
    {ref : ChannelRef} {named : NettingChannelState}
    (hnamed : ChainState.Views.getChannelstateByCanonicalIdentifier raiden.chainState
      event.canonicalIdentifier = some (ref, named)) :
    handleContractSendChannelunlock P raiden event (mapChannels f s) =
      unlockChannel P raiden event (mapChannels f s) named.identifier (f d) := by
  obtain ⟨networkRef, hnetwork⟩ := h.network
  have hmapped : ChainState.Views.getTokenNetworkByAddress (mapChannels f s)
      event.canonicalIdentifier.tokenNetworkAddress = some (networkRef, mapNetwork f net) := by
    rw [getTokenNetworkByAddress_mapChannels, hnetwork]
    rfl
  have husable : isUsable (mapNetwork f net) = isUsable net := by
    funext ident
    unfold isUsable
    rw [get?_mapNetwork]
    cases net.channelidentifiersToChannels.get? ident with
    | none => rfl
    | some e => simp only [Option.map_some, Option.any_some, hf.getStatus_eq]
  have hlast' : lastUsable (mapNetwork f net) event.sender = some ident := by
    rw [← hlast, lastUsable, husable]
    rfl
  have hfound : ChainState.Views.getChannelstateByTokenNetworkAndPartner (mapChannels f s)
      event.canonicalIdentifier.tokenNetworkAddress event.sender = .ok (some (f d)) := by
    rw [byPartner_eq hmapped fun ident hmem => ?_, hlast', Option.bind_some, get?_mapNetwork, hd]
    · rfl
    · obtain ⟨e, he, -⟩ := h.indexed.known hmem
      exact ⟨f e, by rw [get?_mapNetwork, he]; rfl⟩
  unfold handleContractSendChannelunlock
  rw [hnamed]
  rw [hfound]

/-- The settled channel itself is usable, so there is a last usable one. -/
theorem exists_lastUsable (h : NamesSettled s event net c) :
    ∃ ident d, lastUsable net event.sender = some ident ∧
      net.channelidentifiersToChannels.get? ident = some d := by
  have hmem : event.canonicalIdentifier.channelIdentifier ∈
      (TokenNetwork.identifiersOf net event.sender).filter (isUsable net) := by
    refine List.mem_filter.mpr ⟨h.sender ▸ h.indexed.listed h.channel, ?_⟩
    simp [isUsable, h.channel, h.settled]
  obtain ⟨ident, hlast⟩ := Option.isSome_iff_exists.mp
    (List.getLast?_isSome.mpr (List.ne_nil_of_mem hmem))
  obtain ⟨d, hd, -⟩ := h.indexed.known (List.mem_of_mem_filter (List.mem_of_getLast? hlast))
  exact ⟨ident, d, hlast, hd⟩

def settleOnly (P : Primitives) (identifier : ChannelID) (c : NettingChannelState) : NettingChannelState :=
  { c with
    ourState := { c.ourState with onchainLocksroot := locksrootOfNoLocks P }
    partnerState := { c.partnerState with
      onchainLocksroot := if c.identifier = identifier then locksrootOfNoLocks P ++ [0]
        else locksrootOfNoLocks P } }

theorem unlockChannel_without_locks {chainState : ChainState}
    (hour : c.ourState.onchainLocksroot = locksrootOfNoLocks P)
    (hpartner : c.partnerState.onchainLocksroot = locksrootOfNoLocks P) :
    unlockChannel P raiden event chainState ident c = ⟨[], none⟩ := by
  simp only [unlockChannel, unlockPartner, unlockOurs, hour, hpartner, if_true, List.append_nil]

end Decision

/-- The handler decides from the channel that the event names exactly if that is
the last usable channel with the partner. -/
theorem decides_from_named_iff {s : ChainState} {event : ContractSendChannelBatchUnlock}
    {net : TokenNetworkState} {c : NettingChannelState} (h : NamesSettled s event net c) :
    DecidesFrom P s event c ↔
      lastUsable net event.sender = some event.canonicalIdentifier.channelIdentifier := by
  constructor
  · intro hdecides
    obtain ⟨identifier, d, hlast, hd⟩ := exists_lastUsable h
    rw [hlast]
    by_contra hne
    have hdne : d.identifier ≠ event.canonicalIdentifier.channelIdentifier := by
      rw [h.indexed.keyed hd]
      exact fun heq => hne (congrArg some heq)
    have hc : c.identifier = event.canonicalIdentifier.channelIdentifier := h.indexed.keyed h.channel
    let raiden : RaidenService := ⟨0, s, [], [], fun _ => .ok none⟩
    obtain ⟨ref, hnetwork⟩ := h.network
    have hnamed : ChainState.Views.getChannelstateByCanonicalIdentifier raiden.chainState
        event.canonicalIdentifier = some (⟨ref, event.canonicalIdentifier.channelIdentifier⟩, c) := by
      unfold ChainState.Views.getChannelstateByCanonicalIdentifier
      rw [hnetwork]
      simp only [Option.bind_eq_bind, Option.bind_some, h.channel]
      rfl
    have hf : Relocks (settleOnly P event.canonicalIdentifier.channelIdentifier) :=
      fun _ => ⟨rfl, rfl, rfl⟩
    -- the last usable channel has no locks, the one of the event has some
    have hhandled := hdecides _ hf raiden _ c hnamed hc
    rw [handle_eq h hf hlast hd hnamed, unlockChannel_without_locks rfl (if_neg hdne)] at hhandled
    have hroot : (settleOnly P event.canonicalIdentifier.channelIdentifier c).partnerState.onchainLocksroot =
        locksrootOfNoLocks P ++ [0] := if_pos hc
    have hsome : locksrootOfNoLocks P ++ [0] ≠ locksrootOfNoLocks P := by simp
    simp [unlockChannel, unlockPartner, hroot, hsome, getStateChangeWithBalanceProofByLocksroot, raiden] at hhandled
  · intro hlast f hf raiden ref named hnamed hidentifier
    rw [handle_eq h hf hlast h.channel hnamed, hidentifier]

def toyBatchUnlock : ContractSendChannelBatchUnlock := ⟨toyIdentifier, 2, []⟩

def toySettled : NettingChannelState :=
  { toyChannel 10 10 with
    canonicalIdentifier := ⟨1, 9, 2⟩
    settleTransaction := some ⟨none, some 60, some .success⟩
    partnerState := { address := 2, contractBalance := 10, onchainLocksroot := [1] } }

def toySettledNetwork : TokenNetworkState :=
  let opened := (TokenNetwork.handleChannelnew TokenNetwork.toyTokenNetwork (toyChannel 5 5)).newState
  (TokenNetwork.handleChannelnew opened toySettled).newState

def toySettledState : ChainState := Node.maybeAddTokennetwork
  { Node.toyChainState with identifiersToTokennetworkregistries := Dict.empty.set 7 { address := 7 } }
  7 toySettledNetwork

theorem toySettledNetwork_indexed : TokenNetwork.Indexed toySettledNetwork := by
  have hempty : TokenNetwork.Indexed TokenNetwork.toyTokenNetwork := TokenNetwork.Empty.indexed ⟨rfl, rfl⟩
  exact (hempty.add (c := toyChannel 5 5) (Dict.not_mem_empty _)).add (by decide)

/-- The decision is made from the later of two channels. -/
theorem later_channel_decides : DecidesFrom toyPrimitives toySettledState ⟨⟨1, 9, 2⟩, 2, []⟩ toySettled :=
  (decides_from_named_iff ⟨⟨⟨0, 9⟩, rfl⟩, toySettledNetwork_indexed, rfl, rfl, rfl⟩).mpr
    (by decide +kernel)

def toyTransferReceived : List StateChange :=
  [Node.newToyRegistry, Node.newToyTokenNetwork, .contractReceiveChannelNew (toyChannel 10 100),
    .actionInitTarget Target.toyInit]

/-- Its secret is registered on-chain, the channel is settled with its lock, and
a new channel with the partner is opened. -/
def toySettledAndReopened : List StateChange :=
  [.contractReceiveSecretReveal ⟨5, [], 0, 7, [7]⟩,
    .contractReceiveChannelClosed ⟨6, [], 2, toyIdentifier⟩,
    .contractReceiveChannelSettled ⟨60, [], toyIdentifier, [], 0,
      (toyBalanceProof 0 0 50 [toyLock 50 7]).locksroot, 0⟩,
    .contractReceiveChannelNew { toyChannel 5 5 with canonicalIdentifier := ⟨1, 9, 2⟩ }]

def toyStateAfter (changes : List StateChange) : ChainState :=
  ((execute (Node.advance toyPrimitives Node.toyMargins 0) changes ([], Node.toyChainState)).map
    Prod.snd).getD Node.toyChainState

def toyService (s : ChainState) : RaidenService where
  chainId := 1
  chainState := s
  stateChanges := [(4, .actionInitTarget Target.toyInit)]
  events := []
  restoreState _ := .ok (some (toyStateAfter toyTransferReceived))

def asksForUnlock (log : List (StateChange × List Event)) : Bool :=
  log.any fun entry => entry.2.any fun event => event = .contractSendChannelBatchUnlock toyIdentifier 2 []

/-- The locks of the settled channel ask for an unlock, but the handler decides
from the new channel that there is nothing to unlock. -/
theorem reopened_channel_is_decided_from :
    ∃ log s c, Run (Node.Next toyPrimitives Node.toyMargins) Node.toyChainState log s ∧
      asksForUnlock log = true ∧
      (ChainState.Views.getChannelstateByCanonicalIdentifier s toyIdentifier).map Prod.snd = some c ∧
      getStatus c = .settled ∧ unlockChannel toyPrimitives (toyService s) toyBatchUnlock s 1 c =
        ⟨[⟨1, 2, 1, [(toyLock 50 7).encoded], []⟩], none⟩ ∧
      handleContractSendChannelunlock toyPrimitives (toyService s) toyBatchUnlock s = ⟨[], none⟩ := by
  have hexec : (execute (Node.advance toyPrimitives Node.toyMargins 0)
      (toyTransferReceived ++ toySettledAndReopened) ([], Node.toyChainState)).any (fun finish =>
        asksForUnlock finish.1 &&
        ((ChainState.Views.getChannelstateByCanonicalIdentifier finish.2 toyIdentifier).map Prod.snd).any
          fun c => getStatus c = .settled ∧
            unlockChannel toyPrimitives (toyService finish.2) toyBatchUnlock finish.2 1 c =
              ⟨[⟨1, 2, 1, [(toyLock 50 7).encoded], []⟩], none⟩ ∧
            handleContractSendChannelunlock toyPrimitives (toyService finish.2) toyBatchUnlock finish.2 =
              ⟨[], none⟩) = true := by
    decide +kernel
  obtain ⟨log, s, hrun, hfinish⟩ := Node.exists_run hexec
  rw [Bool.and_eq_true, Option.any_eq_true] at hfinish
  obtain ⟨hasks, c, hc, hdecided⟩ := hfinish
  exact ⟨log, s, c, hrun, hasks, hc, of_decide_eq_true hdecided⟩

end Raiden.EventHandler
