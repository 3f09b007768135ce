import Raiden.Channel.LifeCycle
import Raiden.Node.Placement
import Raiden.Node.Queues

/-! # Pending transactions

A transaction waits until an on-chain log shows its effect. This module states
what the effect of every kind of transaction is, and when the logs a node
processes clear exactly the transactions whose effect they show. -/
namespace Raiden.Node

open Lib Channel

variable {addr : Address} {ident : CanonicalIdentifier} {act : ContractReceiveChannelBatchUnlock}
  {c : NettingChannelState} {ref : TokenNetworkRef} {net : TokenNetworkState} {tx : Transaction}
  {partner : Address} {bh : BlockHash} {other : CanonicalIdentifier}
  {channelChange : ChannelStateChange} {now : Nat} {net' : TokenNetworkState}

/-! ## Transactions and their effects -/

def transactionChannel? : Event → Option CanonicalIdentifier
  | .contractSendChannelWithdraw identifier .. | .contractSendChannelCoopSettle identifier ..
  | .contractSendChannelClose identifier .. | .contractSendChannelSettle identifier ..
  | .contractSendChannelBatchUnlock identifier .. => some identifier
  | .contractSendChannelUpdateTransfer _ balanceProof _ => some balanceProof.canonicalIdentifier
  | _ => none

def IsAbout (transaction : Event) (identifier : CanonicalIdentifier) : Prop :=
  ∃ other ∈ transactionChannel? transaction, sameChannel identifier other = true

def isBatchUnlock : Event → Bool
  | .contractSendChannelBatchUnlock .. => true
  | _ => false

def endsAtSettlement : Event → Bool
  | .contractSendChannelSettle .. | .contractSendChannelUpdateTransfer .. => true
  | _ => false

def Removed (s s' : ChainState) (identifier : CanonicalIdentifier) : Prop :=
  ∃ (object : Nat) (net net' : TokenNetworkState),
    s.tokenNetworks[object]? = some net ∧ s'.tokenNetworks[object]? = some net' ∧
    net.address = identifier.tokenNetworkAddress ∧
    identifier.channelIdentifier ∈ net.channelidentifiersToChannels ∧
    identifier.channelIdentifier ∉ net'.channelidentifiersToChannels

section

variable (P : Primitives)

def NoLocksLeft (change : ContractReceiveChannelSettled) : Prop :=
  change.ourOnchainLocksroot = locksrootOfNoLocks P ∧
    change.partnerOnchainLocksroot = locksrootOfNoLocks P

/-- The log shows the effect of a transaction. A higher withdraw counts as well,
the totals of a participant only grow; a channel without locks on-chain is
removed from the state. -/
def Achieved (s s' : ChainState) (change : StateChange) (transaction : Event) : Prop :=
  match change, transaction with
  | .contractReceiveChannelClosed change, .contractSendChannelClose identifier _ _ =>
    sameChannel change.canonicalIdentifier identifier = true
  | .contractReceiveChannelSettled change, .contractSendChannelSettle identifier _ =>
    sameChannel change.canonicalIdentifier identifier = true
  | .contractReceiveChannelSettled change,
      .contractSendChannelCoopSettle identifier ourTotalWithdraw partnerTotalWithdraw _ _ _ _ =>
    sameChannel change.canonicalIdentifier identifier = true ∧ NoLocksLeft P change ∧
      ourTotalWithdraw = change.ourTransferredAmount ∧
      partnerTotalWithdraw = change.partnerTransferredAmount
  | .contractReceiveUpdateTransfer change, .contractSendChannelUpdateTransfer _ balanceProof _ =>
    sameChannel change.canonicalIdentifier balanceProof.canonicalIdentifier = true ∧
      change.nonce = balanceProof.nonce
  | .contractReceiveSecretReveal change, .contractSendSecretReveal _ secret _ => change.secret = secret
  | .contractReceiveChannelWithdraw change, .contractSendChannelWithdraw identifier totalWithdraw _ _ _ =>
    sameChannel change.canonicalIdentifier identifier = true ∧ change.participant = s.ourAddress ∧
      totalWithdraw ≤ change.totalWithdraw
  | .contractReceiveChannelBatchUnlock change, .contractSendChannelBatchUnlock identifier _ _ =>
    sameChannel change.canonicalIdentifier identifier = true ∧
      Removed s s' change.canonicalIdentifier
  | _, _ => False

structure Cleared (s : ChainState) (change : StateChange) (s' : ChainState) : Prop where
  achieved : ∀ transaction ∈ s'.pendingTransactions, ¬Achieved P s s' change transaction.1
  removed : ∀ identifier, Removed s s' identifier →
    ∀ transaction ∈ s'.pendingTransactions, ¬IsAbout transaction.1 identifier
  kept : ∀ transaction ∈ s.pendingTransactions, transaction ∉ s'.pendingTransactions →
    Achieved P s s' change transaction.1 ∨
    (∃ identifier, Removed s s' identifier ∧ IsAbout transaction.1 identifier) ∨
    isTransactionInvalidated transaction.1 change = true ∨
    isTransactionExpired transaction.1 s'.blockNumber = true

/-- The channel of a batch unlock is the only one with its partner, and the node
finds it as the views do. -/
structure OnlyChannel (s : ChainState) (change : ContractReceiveChannelBatchUnlock) : Prop where
  found : ∃ ref net c,
    s.getTokenNetworkByAddress change.canonicalIdentifier.tokenNetworkAddress =
      some (ref, net) ∧
    ChainState.Views.getTokenNetworkByAddress s change.canonicalIdentifier.tokenNetworkAddress =
      some (ref, net) ∧
    net.channelidentifiersToChannels.get? change.canonicalIdentifier.channelIdentifier =
      some c ∧
    partnerOf s change = some c.partnerState.address ∧ getStatus c ≠ .unusable ∧
    ∀ identifier d, net.channelidentifiersToChannels.get? identifier = some d →
      d.partnerState.address = c.partnerState.address →
      identifier = change.canonicalIdentifier.channelIdentifier

/-- Logs that the node matches with all transactions they end: no pending withdraw
of ours is reached by a withdraw, a settlement without locks ends all pending
transactions of its channel, and a batch unlock concerns the only channel with
its partner and only batch unlocks of that channel are pending. -/
def Clearable (s : ChainState) : StateChange → Prop
  | .contractReceiveChannelWithdraw change =>
    ∀ transaction ∈ s.pendingTransactions, ∀ identifier totalWithdraw expiration signature bh,
      transaction.1 =
        .contractSendChannelWithdraw identifier totalWithdraw expiration signature bh →
      ¬(sameChannel change.canonicalIdentifier identifier = true ∧
        change.participant = s.ourAddress ∧ totalWithdraw ≤ change.totalWithdraw)
  | .contractReceiveChannelSettled change =>
    NoLocksLeft P change → ∀ transaction ∈ s.pendingTransactions,
      IsAbout transaction.1 change.canonicalIdentifier → endsAtSettlement transaction.1 = true
  | .contractReceiveChannelBatchUnlock change =>
    (∀ transaction ∈ s.pendingTransactions,
      IsAbout transaction.1 change.canonicalIdentifier → isBatchUnlock transaction.1 = true) ∧
    ∀ transaction ∈ s.pendingTransactions, isBatchUnlock transaction.1 = true →
      IsAbout transaction.1 change.canonicalIdentifier ∧ OnlyChannel s change
  | _ => True

/-- A step whose log the node matches with all transactions it ends. -/
def ClearingNext (M : Initiator.FeeMargins) (s : ChainState)
    (label : StateChange × List Event) (s' : ChainState) : Prop :=
  ArrivesEmpty label.1 ∧ Clearable P s label.1 ∧ Next P M s label s'

end

/-! ## What a step does to the pending transactions -/

section Pending

variable {P : Primitives} {M : Initiator.FeeMargins} {s s' t : ChainState} {sc change : StateChange}
  {es : List Event}

theorem mem_pending_enqueue (s : ChainState) (event : Event) (tx : Transaction) :
    tx ∈ (enqueue s event).pendingTransactions ↔ tx ∈ s.pendingTransactions ∨ tx.1 = event := by
  have hpending : (enqueue s event).pendingTransactions =
      if h : event.isContractSend = true then s.pendingTransactions ++ [⟨event, h⟩]
      else s.pendingTransactions := by
    unfold enqueue
    split <;> split <;> rfl
  rw [hpending]
  split
  · rw [List.mem_append, List.mem_singleton, Subtype.ext_iff]
  · next hnot =>
    refine ⟨.inl, fun h => h.elim id fun heq => ?_⟩
    exact absurd (heq ▸ tx.2) hnot

theorem mem_pending_foldl_enqueue (es : List Event) (s : ChainState) (tx : Transaction) :
    tx ∈ (es.foldl enqueue s).pendingTransactions ↔ tx ∈ s.pendingTransactions ∨ tx.1 ∈ es := by
  induction es generalizing s with
  | nil => simp
  | cons event es ih =>
    rw [List.foldl_cons, ih, mem_pending_enqueue, List.mem_cons, or_assoc]

def Ends (t : ChainState) (change : StateChange) (transaction : Event) : Prop :=
  change.isContractReceive = true ∧
    (isTransactionEffectSatisfied t transaction change = .ok true ∨
      isTransactionInvalidated transaction change = true ∨
      isTransactionExpired transaction t.blockNumber = true)

theorem isTransactionPending_ok {tx : Event} {pending : Bool}
    (h : isTransactionPending t tx sc = .ok pending) :
    pending = true ↔ ¬(isTransactionEffectSatisfied t tx sc = .ok true ∨
      isTransactionInvalidated tx sc = true ∨ isTransactionExpired tx t.blockNumber = true) := by
  simp only [isTransactionPending, seq_ok_iff, pure_eq_ok] at h
  obtain ⟨satisfied, hsatisfied, rfl⟩ := h
  rw [hsatisfied]
  cases satisfied <;> cases isTransactionInvalidated tx sc <;>
    cases isTransactionExpired tx t.blockNumber <;> simp

theorem prepared_pending (s : ChainState) (sc : StateChange) :
    (prepared s sc).pendingTransactions = s.pendingTransactions := by
  cases sc with
  | contractReceiveNewTokenNetworkRegistry sc =>
    simp only [prepared, handleContractReceiveNewTokenNetworkRegistry]
    split <;> rfl
  | contractReceiveNewTokenNetwork sc =>
    simp only [prepared, handleContractReceiveNewTokenNetwork, maybeAddTokennetwork]
    split <;> rfl
  | contractReceiveChannelClosed sc =>
    simp only [prepared, dropQueue]
    split <;> rfl
  | _ => rfl

/-- A step, by what its handlers left: the transactions that stay are those the
log does not end, and those that were sent. -/
structure Stepped (P : Primitives) (M : Initiator.FeeMargins) (s : ChainState) (change : StateChange)
    (es : List Event) (t s' : ChainState) : Prop where
  handled : ∃ prng prng', (handleStateChange P M s change).run prng = .ok (⟨t, es⟩, prng')
  dispatched : Dispatched (prepared s change) t
  objects : s'.tokenNetworks = t.tokenNetworks
  blockNumber : s'.blockNumber = t.blockNumber
  pending : ∀ transaction : Transaction, transaction ∈ s'.pendingTransactions ↔
    transaction ∈ s.pendingTransactions ∧ ¬Ends t change transaction.1 ∨ transaction.1 ∈ es

theorem Next.stepped (h : Next P M s (sc, es) s') : ∃ t, Stepped P M s sc es t s' := by
  obtain ⟨t, prng, prng', hhandled, hupdated⟩ := h.inv
  have hdispatched := handleStateChange_dispatched s sc prng _ prng' hhandled
  have heq := updateQueues_eq hupdated
  refine ⟨t, ⟨prng, prng', hhandled⟩, hdispatched, by rw [heq], by rw [heq], fun tx => ?_⟩
  obtain ⟨pending, hpending, rfl⟩ := updateQueues_ok hupdated
  rw [mem_pending_foldl_enqueue]
  refine or_congr_left ?_
  have hsame : t.pendingTransactions = s.pendingTransactions :=
    hdispatched.pending.trans (prepared_pending s sc)
  unfold pendingAfter at hpending
  rw [hsame] at hpending
  split at hpending
  · next hreceive =>
    obtain ⟨q, hq, rfl⟩ := filterM_ok hpending
    rw [List.mem_filter]
    refine and_congr_right fun hmem => ?_
    rw [isTransactionPending_ok (hq tx hmem), Ends, hreceive]
    simp
  · next hreceive =>
    cases hpending
    exact ⟨fun hmem => ⟨hmem, fun hends => hreceive hends.1⟩, And.left⟩

def mayAnswer : ChannelStateChange → Event → Bool
  | .contractReceiveChannelClosed _, event => Event.isUpdateTransfer event
  | .contractReceiveChannelSettled _, event => isBatchUnlock event
  | .contractReceiveUpdateTransfer _, _ | .contractReceiveChannelDeposit _, _
  | .contractReceiveChannelWithdraw _, _ | .contractReceiveChannelBatchUnlock _, _ => false
  | _, _ => true

theorem stateTransition_mayAnswer (c : NettingChannelState) (sc : ChannelStateChange)
    (now : Nat) (bh : BlockHash) :
    Ensures (Channel.stateTransition P c sc now bh) fun r =>
      ∀ event ∈ r.events, mayAnswer sc event = true := by
  have h := stateTransition_ensures P (handleStateTransitions_handled P sc c now bh)
  refine h.mono fun r hr => ?_
  cases hr.1 with
  | ignored => exact nofun
  | refused notice => cases notice <;> exact List.forall_mem_singleton.mpr rfl
  | closed | updated | settledEmpty | unlocked | unlockedAll | deposited | withdrawn | withdrawnByPartner =>
    exact nofun
  | closedByPartner | settled => exact List.forall_mem_singleton.mpr rfl
  | _ => exact fun _ _ => rfl

theorem Networked.mayAnswer {objects : List TokenNetworkState}
    (h : Networked P s (.channel channelChange) addr objects es) :
    ∀ event ∈ es, Node.mayAnswer channelChange event = true := by
  cases h with
  | unknown => exact nofun
  | changed _ h =>
    cases h with
    | ignored => exact nofun
    | stepped _ _ step =>
      obtain ⟨prng, prng', hrun⟩ := step
      exact stateTransition_mayAnswer _ _ _ _ prng _ prng' hrun
    | removed _ _ removal => exact stateTransition_mayAnswer _ _ _ _ _ _ _ removal

theorem Stepped.mayAnswer (h : Stepped P M s sc es t s')
    (hchange : networkChange? sc = some (.channel channelChange, addr)) :
    ∀ event ∈ es, Node.mayAnswer channelChange event = true := by
  obtain ⟨prng, prng', hrun⟩ := h.handled
  exact (handleStateChange_networked s hchange prng _ prng' hrun).2.mayAnswer

theorem Stepped.unregistered {reveal : ContractReceiveSecretReveal}
    (h : Stepped P M s (.contractReceiveSecretReveal reveal) es t s') :
    ∀ event ∈ es, isRegistration event = false := by
  obtain ⟨prng, prng', hrun⟩ := h.handled
  exact (subdispatchToPaymenttask_done respects_true s reveal.secrethash prng _ prng' hrun).unregistered
    reveal rfl

theorem prepared_getElem? {object : Nat} (h : s.tokenNetworks[object]? = some net)
    (sc : StateChange) : (prepared s sc).tokenNetworks[object]? = some net := by
  have hlt := (List.getElem?_eq_some_iff.mp h).1
  cases sc with
  | contractReceiveNewTokenNetworkRegistry sc =>
    simp only [prepared, handleContractReceiveNewTokenNetworkRegistry]
    split
    · exact h
    · exact (List.getElem?_append_left hlt).trans h
  | contractReceiveNewTokenNetwork sc =>
    simp only [prepared, handleContractReceiveNewTokenNetwork, maybeAddTokennetwork]
    split
    · exact (List.getElem?_append_left hlt).trans h
    · exact (List.getElem?_append_left hlt).trans h
    · exact h
  | contractReceiveChannelClosed sc =>
    simp only [prepared, dropQueue]
    split <;> exact h
  | _ => exact h

/-- Only a settlement without locks and a batch unlock remove channels, the one
they name, and nothing is sent then. -/
inductive Removal (P : Primitives) (identifier : CanonicalIdentifier) : StateChange → Prop
  | settled {change : ContractReceiveChannelSettled}
      (here : sameChannel identifier change.canonicalIdentifier = true) (noLocks : NoLocksLeft P change) :
      Removal P identifier (.contractReceiveChannelSettled change)
  | unlocked {change : ContractReceiveChannelBatchUnlock}
      (here : sameChannel identifier change.canonicalIdentifier = true) :
      Removal P identifier (.contractReceiveChannelBatchUnlock change)

theorem removal_of_changed {networkChange : TokenNetworkStateChange}
    {r : TransitionResult TokenNetworkState} {key : ChannelID}
    (h : TokenNetwork.Changed P net now bh networkChange r) (hindexed : TokenNetwork.Indexed net)
    (hbefore : key ∈ net.channelidentifiersToChannels)
    (hafter : key ∉ r.newState.channelidentifiersToChannels) :
    r.events = [] ∧ ((∃ act, networkChange = .channel (.contractReceiveChannelSettled act) ∧
        act.canonicalIdentifier.channelIdentifier = key ∧ NoLocksLeft P act) ∨
      ∃ act, networkChange = .channel (.contractReceiveChannelBatchUnlock act) ∧
        act.canonicalIdentifier.channelIdentifier = key) := by
  cases h with
  | ignored => exact absurd hbefore hafter
  | opened | stepped => exact absurd (Dict.mem_set.mpr (.inr hbefore)) hafter
  | @removed channelChange ident key' c es prng prng' about found removal hkey =>
    have hremoved : key = key' := by
      by_contra hne
      exact hafter (Dict.mem_del.mpr ⟨hne, hbefore⟩)
    have hidentifier : ident.channelIdentifier = key := by
      rw [hremoved]
      obtain rfl | rfl := hkey
      · rfl
      · exact (hindexed.keyed found).symm
    have hlife := ChannelOp.run_life (P := P) (.stateChange channelChange now bh) c prng _
      prng' removal
    cases hlife with
    | settledEmpty _ ours partners =>
      cases about
      exact ⟨rfl, .inl ⟨_, rfl, hidentifier, ours, partners⟩⟩
    | unlockedAll =>
      cases about
      exact ⟨rfl, .inr ⟨_, rfl, hidentifier⟩⟩

theorem Stepped.removal (hs : Placed s) (h : Stepped P M s sc es t s')
    (hremoved : Removed s s' ident) : es = [] ∧ Removal P ident sc := by
  obtain ⟨object, net, net', hbefore, hafter, haddress, hmem, hgone⟩ := hremoved
  obtain ⟨prng, prng', hrun⟩ := h.handled
  rw [h.objects] at hafter
  cases hchange : networkChange? sc with
  | none =>
    have hrel := (handleStateChange_handed respects_true s hchange prng _ prng' hrun).channels object
    rw [prepared_getElem? hbefore] at hrel
    obtain ⟨before, ⟨⟩, hnetwork⟩ := hrel.of_right hafter
    have hchannel := (hnetwork.channels ident.channelIdentifier).eq_none_iff
    exact absurd hmem (Dict.not_mem_iff.mpr (hchannel.mpr (Dict.not_mem_iff.mp hgone)))
  | some found =>
    obtain ⟨networkChange, addr⟩ := found
    have hnetworked := (handleStateChange_networked s hchange prng _ prng' hrun).2
    generalize hobjects : t.tokenNetworks = objects at hnetworked
    rw [hobjects] at hafter
    cases hnetworked with
    | unknown =>
      rw [hbefore] at hafter
      cases hafter
      exact absurd hmem hgone
    | @changed ref network r found hchanged =>
      obtain ⟨hnetwork, haddress'⟩ := hs.address_eq found
      rw [List.getElem?_set] at hafter
      by_cases heq : ref.object = object
      · have hlt := (List.getElem?_eq_some_iff.mp hnetwork).1
        rw [if_pos heq, if_pos hlt] at hafter
        rw [← heq, hnetwork] at hbefore
        cases hafter
        cases hbefore
        have hhere : ident.tokenNetworkAddress = addr := haddress.symm.trans haddress'
        obtain ⟨hevents, hcases⟩ :=
          removal_of_changed hchanged (hs.indexed _ _ hnetwork) hmem hgone
        refine ⟨hevents, ?_⟩
        rcases hcases with ⟨act, rfl, hkey, hlocks⟩ | ⟨act, rfl, hkey⟩
        · cases sc <;> cases hchange
          exact .settled (decide_eq_true ⟨hhere, hkey.symm⟩) hlocks
        · cases sc <;> cases hchange
          exact .unlocked (decide_eq_true ⟨hhere, hkey.symm⟩)
      · rw [if_neg heq, hbefore] at hafter
        cases hafter
        exact absurd hmem hgone

theorem findSome?_eq_some_of_imp {α β : Type} {f g : α → Option β} {b b' : β} {xs : List α}
    (hnone : ∀ x, f x = none → g x = none) (hsome : ∀ x, f x = some b → g x = some b')
    (h : xs.findSome? f = some b) : xs.findSome? g = some b' := by
  induction xs with
  | nil => cases h
  | cons x xs ih =>
    rw [List.findSome?_cons] at h ⊢
    cases hx : f x with
    | none =>
      rw [hx] at h
      rw [hnone x hx]
      exact ih h
    | some _ =>
      rw [hx] at h
      cases h
      rw [hsome x hx]

/-- The views find the new object where they found the old one. -/
theorem views_getTokenNetworkByAddress_set
    (h : ChainState.Views.getTokenNetworkByAddress s addr = some (ref, net))
    (hobjects : t.tokenNetworks = s.tokenNetworks.set ref.object net')
    (hregistries : t.identifiersToTokennetworkregistries = s.identifiersToTokennetworkregistries) :
    ChainState.Views.getTokenNetworkByAddress t addr = some (ref, net') := by
  have hlt := (List.getElem?_eq_some_iff.mp (views_getTokenNetworkByAddress h)).1
  unfold ChainState.Views.getTokenNetworkByAddress at h ⊢
  rw [hregistries]
  refine findSome?_eq_some_of_imp (fun registry hnone => ?_) (fun registry hsome => ?_) h
  · cases href : registry.tokennetworkaddressesToTokennetworks.get? addr with
    | none => rfl
    | some ref' =>
      rw [href, Option.bind_some, ChainState.resolve, Option.map_eq_none_iff,
        List.getElem?_eq_none_iff] at hnone
      rw [Option.bind_some, ChainState.resolve, Option.map_eq_none_iff, hobjects,
        List.getElem?_eq_none_iff, List.length_set]
      exact hnone
  · obtain ⟨ref', href, hresolve⟩ := Option.bind_eq_some_iff.mp hsome
    obtain ⟨rfl, -⟩ := resolve_eq_some hresolve
    rw [href, Option.bind_some, ChainState.resolve, hobjects, List.getElem?_set_self hlt]
    rfl

theorem views_partner_nil (h : ChainState.Views.getTokenNetworkByAddress t addr = some (ref, net))
    (hnone : TokenNetwork.identifiersOf net partner = []) :
    ChainState.Views.getChannelstateByTokenNetworkAndPartner t addr partner = .ok none := by
  unfold ChainState.Views.getChannelstateByTokenNetworkAndPartner
  rw [h]
  dsimp only
  rw [hnone]
  rfl

theorem views_partner_singleton {ident : ChannelID}
    (h : ChainState.Views.getTokenNetworkByAddress t addr = some (ref, net))
    (hone : TokenNetwork.identifiersOf net partner = [ident])
    (hget : net.channelidentifiersToChannels.get? ident = some c)
    (husable : getStatus c ≠ .unusable) :
    ChainState.Views.getChannelstateByTokenNetworkAndPartner t addr partner = .ok (some c) := by
  unfold ChainState.Views.getChannelstateByTokenNetworkAndPartner
  rw [h]
  dsimp only
  rw [hone, List.mapM_cons, hget]
  have hfilter : [c].filter (fun c => getStatus c ≠ .unusable) = [c] := by simp [husable]
  show Except.ok ([c].filter fun c => getStatus c ≠ .unusable).getLast? = _
  rw [hfilter]
  rfl

theorem identifiersOf_eq_singleton (hindexed : TokenNetwork.Indexed net)
    {ident : ChannelID} (hget : net.channelidentifiersToChannels.get? ident = some c)
    (honly : ∀ other d, net.channelidentifiersToChannels.get? other = some d →
      d.partnerState.address = c.partnerState.address → other = ident) :
    TokenNetwork.identifiersOf net c.partnerState.address = [ident] := by
  refine List.perm_singleton.mp ((List.perm_ext_iff_of_nodup (hindexed.nodup _)
    (List.nodup_singleton _)).mpr fun other => ?_)
  rw [List.mem_singleton]
  constructor
  · intro hmem
    obtain ⟨d, hd, hpartner⟩ := hindexed.known hmem
    exact honly other d hd hpartner
  · rintro rfl
    exact hindexed.listed hget

theorem getStatus_clearOnchainLocksroot (c : NettingChannelState) (sender : Address) :
    getStatus (clearOnchainLocksroot P c sender) = getStatus c := by
  unfold clearOnchainLocksroot
  split
  · rfl
  · split <;> rfl

theorem batchUnlock_getStatus {c' : NettingChannelState}
    (h : Step P c (.stateChange (.contractReceiveChannelBatchUnlock act) now bh,
      es) c') : getStatus c' = getStatus c := by
  cases h.outcome with
  | refused notice => cases notice
  | handled handled =>
    cases handled with
    | ignored => rfl
    | refused notice => cases notice
    | unlocked => exact getStatus_clearOnchainLocksroot c _

theorem Stepped.batchUnlock (h : Stepped P M s (.contractReceiveChannelBatchUnlock act) es t s')
    (found : s.getTokenNetworkByAddress act.canonicalIdentifier.tokenNetworkAddress = some (ref,
      net)) : ∃ r, t.tokenNetworks = s.tokenNetworks.set ref.object r.newState ∧
      TokenNetwork.Changed P net s.blockNumber s.blockHash
        (.channel (.contractReceiveChannelBatchUnlock act)) r := by
  obtain ⟨prng, prng', hrun⟩ := h.handled
  have hnetworked : Networked P s (.channel (.contractReceiveChannelBatchUnlock act))
      act.canonicalIdentifier.tokenNetworkAddress t.tokenNetworks es :=
    (handleStateChange_networked s rfl prng _ prng' hrun).2
  generalize t.tokenNetworks = objects at hnetworked ⊢
  cases hnetworked with
  | unknown hnone =>
    rw [found] at hnone
    cases hnone
  | @changed _ _ r found' hchanged =>
    rw [found] at found'
    cases found'
    exact ⟨r, rfl, hchanged⟩

theorem removed_iff (hget : s.tokenNetworks[ref.object]? = some net)
    (haddress : net.address = ident.tokenNetworkAddress)
    (hmem : ident.channelIdentifier ∈ net.channelidentifiersToChannels)
    (hobjects : s'.tokenNetworks = s.tokenNetworks.set ref.object net') :
    Removed s s' ident ↔ ident.channelIdentifier ∉ net'.channelidentifiersToChannels := by
  have hlt := (List.getElem?_eq_some_iff.mp hget).1
  constructor
  · rintro ⟨object, before, after, hbefore, hafter, -, hthere, hgone⟩
    rw [hobjects, List.getElem?_set] at hafter
    by_cases heq : ref.object = object
    · rw [if_pos heq, if_pos hlt] at hafter
      cases hafter
      exact hgone
    · rw [if_neg heq, hbefore] at hafter
      cases hafter
      exact absurd hthere hgone
  · intro hgone
    refine ⟨ref.object, net, net', hget, ?_, haddress, hmem, hgone⟩
    rw [hobjects, List.getElem?_set_self hlt]

/-- For the only channel with its partner, a batch unlock shows the effect of a
transaction exactly when the channel is removed. -/
theorem batchUnlock_satisfied_iff (hs : Placed s) (honly : OnlyChannel s act)
    (h : Stepped P M s (.contractReceiveChannelBatchUnlock act) es t s')
    (ident : CanonicalIdentifier) (sender : Address) (bh : BlockHash) :
    isTransactionEffectSatisfied t (.contractSendChannelBatchUnlock ident sender bh)
      (.contractReceiveChannelBatchUnlock act) = .ok true ↔
      Removed s s' act.canonicalIdentifier := by
  obtain ⟨ref, net, c, hfound, hviews, hget, hpartner, husable, hothers⟩ := honly.found
  obtain ⟨hnetwork, haddress⟩ := hs.address_eq hfound
  obtain ⟨r, hobjects, hchanged⟩ := h.batchUnlock hfound
  have hindexed := hs.indexed _ _ hnetwork
  have hone := identifiersOf_eq_singleton hindexed hget hothers
  have hviews' := views_getTokenNetworkByAddress_set hviews hobjects h.dispatched.registries
  rw [removed_iff hnetwork haddress (Dict.mem_of_get? hget) (h.objects.trans hobjects)]
  have hpartner' : partnerOf t act = some c.partnerState.address := by
    rw [← hpartner, partnerOf, partnerOf, h.dispatched.ourAddress]
    rfl
  simp only [isTransactionEffectSatisfied, hpartner']
  cases hchanged with
  | ignored =>
    rw [views_partner_singleton hviews' hone hget husable]
    exact ⟨nofun, fun hgone => absurd (Dict.mem_of_get? hget) hgone⟩
  | @stepped _ ident' _ c' _ partners about found step index =>
    cases about
    rw [hget] at found
    cases found
    have hget' := Dict.get?_set_self net.channelidentifiersToChannels
      act.canonicalIdentifier.channelIdentifier c'
    rw [views_partner_singleton hviews' ((index _).trans hone) hget'
      (by rw [batchUnlock_getStatus step]; exact husable)]
    exact ⟨nofun, fun hgone => absurd (Dict.mem_of_get? hget') hgone⟩
  | @removed _ ident' key _ _ _ _ about found removal hkey =>
    cases about
    rw [hget] at found
    cases found
    have hkey' : key = act.canonicalIdentifier.channelIdentifier :=
      hkey.elim id fun heq => heq.trans (hindexed.keyed hget)
    have hnone : TokenNetwork.identifiersOf { net with
        channelidentifiersToChannels := net.channelidentifiersToChannels.del key
        partneraddressesToChannelidentifiers :=
          net.partneraddressesToChannelidentifiers.set c.partnerState.address
            ((TokenNetwork.identifiersOf net c.partnerState.address).erase key) }
        c.partnerState.address = [] := by
      rw [TokenNetwork.identifiersOf_set, if_pos rfl, hone, hkey', List.erase_cons_head]
    rw [views_partner_nil hviews' hnone]
    refine ⟨fun _ => ?_, fun _ => rfl⟩
    rw [hkey', Dict.mem_del]
    exact fun hmem => hmem.1 rfl

theorem sameChannel_comm : sameChannel ident other = sameChannel other ident := by
  unfold sameChannel
  simp only [eq_comm]

theorem sameChannel_trans {i j k : CanonicalIdentifier} (h : sameChannel i j = true)
    (h' : sameChannel j k = true) : sameChannel i k = true := by
  simp only [sameChannel, decide_eq_true_eq] at h h' ⊢
  exact ⟨h.1.trans h'.1, h.2.trans h'.2⟩

theorem IsAbout.congr {tx : Event} (h : IsAbout tx ident)
    (hsame : sameChannel ident other = true) : IsAbout tx other := by
  obtain ⟨channel, hchannel, heq⟩ := h
  exact ⟨channel, hchannel, sameChannel_trans (sameChannel_comm ▸ hsame) heq⟩

theorem Stepped.achieved_of_satisfied (hs : Placed s) (hclear : Clearable P s sc)
    (h : Stepped P M s sc es t s') (hmem : tx ∈ s.pendingTransactions)
    (hsatisfied : isTransactionEffectSatisfied t tx.1 sc = .ok true) : Achieved P s s' sc tx.1 := by
  obtain ⟨event, hsend⟩ := tx
  dsimp only at hsatisfied ⊢
  unfold isTransactionEffectSatisfied at hsatisfied
  split at hsatisfied
  iterate 4 · simpa [Achieved, pure, Except.pure] using hsatisfied
  · next act ident sender bh =>
    obtain ⟨habout, honly⟩ := hclear.2 _ hmem rfl
    obtain ⟨other, hother, hsame⟩ := habout
    cases hother
    exact ⟨hsame, (batchUnlock_satisfied_iff hs honly h ident sender bh).mp hsatisfied⟩
  · cases hsatisfied

theorem Stepped.satisfied_of_achieved (hs : Placed s) (hclear : Clearable P s sc)
    (h : Stepped P M s sc es t s') (hmem : tx ∈ s.pendingTransactions)
    (hachieved : Achieved P s s' sc tx.1) : Ends t sc tx.1 := by
  obtain ⟨event, hsend⟩ := tx
  dsimp only at hachieved ⊢
  unfold Achieved at hachieved
  split at hachieved
  · exact ⟨rfl, .inl (congrArg Except.ok hachieved)⟩
  · exact ⟨rfl, .inl (congrArg Except.ok hachieved)⟩
  · -- a cooperative settlement leaves no locks
    have hends := hclear hachieved.2.1 _ hmem ⟨_, rfl, hachieved.1⟩
    cases hends
  · exact ⟨rfl, .inl (congrArg Except.ok (decide_eq_true hachieved))⟩
  · exact ⟨rfl, .inl (congrArg Except.ok (decide_eq_true hachieved))⟩
  · exact absurd hachieved (hclear _ hmem _ _ _ _ _ rfl)
  · obtain ⟨-, honly⟩ := hclear.2 _ hmem rfl
    exact ⟨rfl, .inl ((batchUnlock_satisfied_iff hs honly h _ _ _).mpr hachieved.2)⟩
  · cases hachieved

/-- No transaction is sent whose effect was just shown. -/
theorem Stepped.not_achieved_of_sent (h : Stepped P M s sc es t s') {event : Event}
    (hsent : event ∈ es) : ¬Achieved P s s' sc event := by
  intro hachieved
  unfold Achieved at hachieved
  split at hachieved
  iterate 4 · cases h.mayAnswer rfl _ hsent
  · cases h.unregistered _ hsent
  · cases h.mayAnswer rfl _ hsent
  · cases h.mayAnswer rfl _ hsent
  · cases hachieved

theorem Stepped.ends_of_removal (hs : Placed s) (hclear : Clearable P s sc)
    (h : Stepped P M s sc es t s') (hremoved : Removed s s' ident)
    (hremoval : Removal P ident sc) (hmem : tx ∈ s.pendingTransactions)
    (habout : IsAbout tx.1 ident) : Ends t sc tx.1 := by
  cases hremoval with
  | @settled act here noLocks =>
    have hhere := habout.congr here
    have hends := hclear noLocks _ hmem hhere
    obtain ⟨event, hsend⟩ := tx
    obtain ⟨other, hother, hsame⟩ := hhere
    cases event with
    | contractSendChannelSettle =>
      cases hother
      exact ⟨rfl, .inl (congrArg Except.ok hsame)⟩
    | contractSendChannelUpdateTransfer =>
      cases hother
      exact ⟨rfl, .inr (.inl hsame)⟩
    | _ => cases hends
  | @unlocked act here =>
    have hhere := habout.congr here
    have hbatch := hclear.1 _ hmem hhere
    obtain ⟨-, honly⟩ := hclear.2 _ hmem hbatch
    have hgone : Removed s s' act.canonicalIdentifier := by
      obtain ⟨object, before, after, hbefore, hafter, haddress, hthere, hnot⟩ := hremoved
      obtain ⟨hnetwork, hchannel⟩ := of_decide_eq_true here
      exact ⟨object, before, after, hbefore, hafter, haddress.trans hnetwork, hchannel ▸ hthere,
        hchannel ▸ hnot⟩
    obtain ⟨event, hsend⟩ := tx
    cases event with
    | contractSendChannelBatchUnlock =>
      exact ⟨rfl, .inl ((batchUnlock_satisfied_iff hs honly h _ _ _).mpr hgone)⟩
    | _ => cases hbatch

theorem ClearingNext.cleared (hs : Placed s) (h : ClearingNext P M s (sc, es) s') :
    Cleared P s sc s' := by
  obtain ⟨-, hclear, hnext⟩ := h
  obtain ⟨t, hstep⟩ := hnext.stepped
  constructor
  · intro tx hmem hachieved
    rcases (hstep.pending tx).mp hmem with ⟨hold, hnot⟩ | hsent
    · exact hnot (hstep.satisfied_of_achieved hs hclear hold hachieved)
    · exact hstep.not_achieved_of_sent hsent hachieved
  · intro ident hremoved tx hmem habout
    obtain ⟨hquiet, hremoval⟩ := hstep.removal hs hremoved
    rcases (hstep.pending tx).mp hmem with ⟨hold, hnot⟩ | hsent
    · exact hnot (hstep.ends_of_removal hs hclear hremoved hremoval hold habout)
    · rw [hquiet] at hsent
      cases hsent
  · intro tx hmem hgone
    have hends : Ends t sc tx.1 := by
      by_contra hnot
      exact hgone ((hstep.pending tx).mpr (.inl ⟨hmem, hnot⟩))
    rw [hstep.blockNumber]
    rcases hends.2 with hsatisfied | hinvalidated | hexpired
    · exact .inl (hstep.achieved_of_satisfied hs hclear hmem hsatisfied)
    · exact .inr (.inr (.inl hinvalidated))
    · exact .inr (.inr (.inr hexpired))

/-- In every run whose logs the node matches with all transactions they end, each
step clears the transactions whose effect its log shows and those of a channel
that it removes, and no other one unless it is invalidated or expired. -/
theorem pending_transactions_cleared {s₀ : ChainState} {log : List (StateChange × List Event)}
    (h₀ : Placed s₀) (hrun : Run (ClearingNext P M) s₀ log s)
    (hnext : ClearingNext P M s (change, es) s') : Cleared P s change s' := by
  have hs : Placed s := hrun.invariant h₀ fun _ label _ h hstep => h.next hstep.1 hstep.2.2
  exact hnext.cleared hs

end Pending

def toyClosed : StateChange := .contractReceiveChannelClosed ⟨2, [], 2, toyIdentifier⟩

theorem pending_close_cleared : ∃ log s es s',
    Run (ClearingNext toyPrimitives toyMargins) toyChainState log s ∧
      ClearingNext toyPrimitives toyMargins s (toyClosed, es) s' ∧
      s.pendingTransactions.length = 1 ∧ s'.pendingTransactions = [] ∧
      Cleared toyPrimitives s toyClosed s' := by
  let s₁ : ChainState := { toyChainState with
    identifiersToTokennetworkregistries := Dict.empty.set 7 { address := 7 } }
  let s₂ : ChainState := maybeAddTokennetwork s₁ 7 TokenNetwork.toyTokenNetwork
  let s₃ : ChainState := s₂.setTokenNetwork 0
    (TokenNetwork.handleChannelnew TokenNetwork.toyTokenNetwork (toyChannel 10 10)).newState
  have h₁ : ClearingNext toyPrimitives toyMargins toyChainState (newToyRegistry, []) s₁ :=
    ⟨nofun, trivial, .of_advance 0 rfl⟩
  have h₂ : ClearingNext toyPrimitives toyMargins s₁ (newToyTokenNetwork, []) s₂ :=
    ⟨⟨rfl, rfl⟩, trivial, .of_advance 0 rfl⟩
  have h₃ : ClearingNext toyPrimitives toyMargins s₂ (.contractReceiveChannelNew (toyChannel 10 10), [])
      s₃ := ⟨trivial, trivial, .of_advance 0 rfl⟩
  have hexec : (toyNext s₃ (.actionChannelClose toyIdentifier)).any (fun closing =>
      closing.2.pendingTransactions.length = 1 &&
        (toyNext closing.2 toyClosed).any fun closed => closed.2.pendingTransactions = []) = true := by
    decide +kernel
  obtain ⟨⟨es₄, s₄⟩, hclosing, hexec⟩ := (Option.any_eq_true _ _).mp hexec
  rw [Bool.and_eq_true, decide_eq_true_iff, Option.any_eq_true] at hexec
  obtain ⟨hlength, ⟨es₅, s₅⟩, hclosed, hempty⟩ := hexec
  have h₄ : ClearingNext toyPrimitives toyMargins s₃ (.actionChannelClose toyIdentifier, es₄) s₄ :=
    ⟨trivial, trivial, toyNext_sound hclosing⟩
  have h₅ : ClearingNext toyPrimitives toyMargins s₄ (toyClosed, es₅) s₅ :=
    ⟨trivial, trivial, toyNext_sound hclosed⟩
  have hrun := ((((Run.start toyChainState).step h₁).step h₂).step h₃).step h₄
  exact ⟨_, s₄, es₅, s₅, hrun, h₅, hlength, of_decide_eq_true hempty,
    pending_transactions_cleared (Placed.empty rfl rfl) hrun h₅⟩

def toySettledAndReopened : List StateChange :=
  [.contractReceiveChannelClosed ⟨2, [], 1, toyIdentifier⟩,
    .contractReceiveChannelSettled ⟨60, [], toyIdentifier, [1], 0, [], 0⟩,
    .contractReceiveChannelNew { toyChannel 5 5 with canonicalIdentifier := ⟨1, 9, 2⟩ }]

def toyUnlocked : StateChange := .contractReceiveChannelBatchUnlock ⟨61, [], toyIdentifier, 2, 1, [1], 0, 0⟩

/-- A batch unlock stays pending after its channel is removed if there is another
channel with the partner. -/
theorem pending_transactions_remain :
    ∃ log s es s', Run (Next toyPrimitives toyMargins) toyChainState log s ∧
      Next toyPrimitives toyMargins s (toyUnlocked, es) s' ∧ Removed s s' toyIdentifier ∧
      ∃ transaction ∈ s'.pendingTransactions, IsAbout transaction.1 toyIdentifier := by
  have hexec : (execute (advance toyPrimitives toyMargins 0) (toyOpened ++ toySettledAndReopened)
      ([], toyChainState)).any (fun finish =>
        (finish.2.tokenNetworks[0]?.any fun network =>
          network.address = 9 ∧ 1 ∈ network.channelidentifiersToChannels) &&
        (toyNext finish.2 toyUnlocked).any fun done =>
          (done.2.tokenNetworks[0]?.any fun network => 1 ∉ network.channelidentifiersToChannels) &&
          done.2.pendingTransactions.any fun transaction =>
            transaction.1 = .contractSendChannelBatchUnlock toyIdentifier 2 []) = true := by
    decide +kernel
  obtain ⟨log, s, hrun, hfinish⟩ := exists_run hexec
  rw [Bool.and_eq_true, Option.any_eq_true, Option.any_eq_true] at hfinish
  obtain ⟨⟨before, hbefore, hopen⟩, ⟨es, s'⟩, hnext, hdone⟩ := hfinish
  rw [Bool.and_eq_true, Option.any_eq_true] at hdone
  obtain ⟨⟨after, hafter, hgone⟩, hpending⟩ := hdone
  obtain ⟨transaction, hmem, heq⟩ := List.any_eq_true.mp hpending
  obtain ⟨haddress, hthere⟩ := of_decide_eq_true hopen
  refine ⟨log, s, es, s', hrun, toyNext_sound hnext,
    ⟨0, before, after, hbefore, hafter, haddress, hthere, of_decide_eq_true hgone⟩,
    transaction, hmem, ?_⟩
  rw [of_decide_eq_true heq]
  exact ⟨toyIdentifier, rfl, rfl⟩

end Raiden.Node
