import Raiden.Channel.Life

/-! # Token networks

A token network indexes its channels twice: by channel identifier, and by the
address of the partner. A channel enters both indexes when it is opened and
leaves both when its own transition removes it. -/
namespace Raiden

open Lib Channel

structure TokenNetworkState where
  address : Address
  tokenAddress : Address
  channelidentifiersToChannels : Dict ChannelID NettingChannelState := .empty
  partneraddressesToChannelidentifiers : Dict Address (List ChannelID) := .empty

inductive TokenNetworkStateChange where
  | contractReceiveChannelNew (channelState : NettingChannelState)
  | channel (change : ChannelStateChange)

/-- The channel a state change is about; a block is about all of them. -/
def ChannelStateChange.canonicalIdentifier? : ChannelStateChange → Option CanonicalIdentifier
  | .block _ => none
  | .actionChannelClose identifier => some identifier
  | .actionChannelCoopSettle action => some action.canonicalIdentifier
  | .actionChannelWithdraw action => some action.canonicalIdentifier
  | .actionChannelSetRevealTimeout identifier _ => some identifier
  | .receiveWithdrawRequest action => some action.canonicalIdentifier
  | .receiveWithdrawConfirmation action => some action.canonicalIdentifier
  | .receiveWithdrawExpired action => some action.canonicalIdentifier
  | .contractReceiveChannelClosed action => some action.canonicalIdentifier
  | .contractReceiveUpdateTransfer action => some action.canonicalIdentifier
  | .contractReceiveChannelSettled action => some action.canonicalIdentifier
  | .contractReceiveChannelDeposit action => some action.canonicalIdentifier
  | .contractReceiveChannelWithdraw action => some action.canonicalIdentifier
  | .contractReceiveChannelBatchUnlock action => some action.canonicalIdentifier

namespace TokenNetwork

variable (P : Primitives)

section

variable (tokenNetwork : TokenNetworkState)

def identifiersOf (partner : Address) : List ChannelID :=
  (tokenNetwork.partneraddressesToChannelidentifiers.get? partner).getD []

/-- Python's `list.remove`. -/
def removeIdentifier (identifiers : List ChannelID) (identifier : ChannelID) :
    Fallible (List ChannelID) :=
  if identifier ∈ identifiers then .ok (identifiers.erase identifier)
  else .error (.valueError "list.remove(x): x not in list")

def subdispatchToChannelById (change : ChannelStateChange)
    (channelIdentifier : ChannelID) (blockNumber : Nat) (blockHash : BlockHash) :
    Handler (TransitionResult TokenNetworkState) := do
  match tokenNetwork.channelidentifiersToChannels.get? channelIdentifier with
  | none => return ⟨tokenNetwork, []⟩
  | some channel =>
    let result ← Channel.stateTransition P channel change blockNumber blockHash
    let partner := channel.partnerState.address
    let identifiers := identifiersOf tokenNetwork partner
    match result.newState with
    | none =>
      let identifiers ← removeIdentifier identifiers channelIdentifier
      return ⟨{ tokenNetwork with
          channelidentifiersToChannels := tokenNetwork.channelidentifiersToChannels.del channelIdentifier
          partneraddressesToChannelidentifiers :=
            tokenNetwork.partneraddressesToChannelidentifiers.set partner identifiers },
        result.events⟩
    | some channel =>
      -- reading the default dictionary creates the entry
      return ⟨{ tokenNetwork with
          channelidentifiersToChannels :=
            tokenNetwork.channelidentifiersToChannels.set channelIdentifier channel
          partneraddressesToChannelidentifiers :=
            tokenNetwork.partneraddressesToChannelidentifiers.set partner identifiers },
        result.events⟩

/-- A channel that is already known is ignored. -/
def handleChannelnew (channel : NettingChannelState) : TransitionResult TokenNetworkState :=
  if channel.identifier ∈ tokenNetwork.channelidentifiersToChannels then ⟨tokenNetwork, []⟩
  else
    let partner := channel.partnerState.address
    ⟨{ tokenNetwork with
        channelidentifiersToChannels :=
          tokenNetwork.channelidentifiersToChannels.set channel.identifier channel
        partneraddressesToChannelidentifiers :=
          tokenNetwork.partneraddressesToChannelidentifiers.set partner
            (identifiersOf tokenNetwork partner ++ [channel.identifier]) }, []⟩

/-- The channel object is changed in place, so its new state needs no assignment. -/
def handleBatchUnlock (action : ContractReceiveChannelBatchUnlock)
    (blockNumber : Nat) (blockHash : BlockHash) : Handler (TransitionResult TokenNetworkState) := do
  let channelIdentifier := action.canonicalIdentifier.channelIdentifier
  match tokenNetwork.channelidentifiersToChannels.get? channelIdentifier with
  | none => return ⟨tokenNetwork, []⟩
  | some channel =>
    let result ← Channel.stateTransition P channel (.contractReceiveChannelBatchUnlock action)
      blockNumber blockHash
    match result.newState with
    | none =>
      let partner := channel.partnerState.address
      let identifiers ← removeIdentifier (identifiersOf tokenNetwork partner) channel.identifier
      check (channel.identifier ∈ tokenNetwork.channelidentifiersToChannels) .keyError
      return ⟨{ tokenNetwork with
          channelidentifiersToChannels :=
            tokenNetwork.channelidentifiersToChannels.del channel.identifier
          partneraddressesToChannelidentifiers :=
            tokenNetwork.partneraddressesToChannelidentifiers.set partner identifiers },
        result.events⟩
    | some channel =>
      return ⟨{ tokenNetwork with
          channelidentifiersToChannels :=
            tokenNetwork.channelidentifiersToChannels.set channelIdentifier channel },
        result.events⟩

def stateTransition (change : TokenNetworkStateChange)
    (blockNumber : Nat) (blockHash : BlockHash) : Handler (TransitionResult TokenNetworkState) :=
  match change with
  | .contractReceiveChannelNew channel => return handleChannelnew tokenNetwork channel
  | .channel (.contractReceiveChannelBatchUnlock action) =>
    handleBatchUnlock P tokenNetwork action blockNumber blockHash
  | .channel change =>
    match change.canonicalIdentifier? with
    | some identifier =>
      subdispatchToChannelById P tokenNetwork change identifier.channelIdentifier blockNumber blockHash
    | none => return ⟨tokenNetwork, []⟩

/-- An operation on a channel object by its holder: blocks reach the channels
directly, and payment tasks work on the channels they find. -/
def setChannel (channelIdentifier : ChannelID)
    (channel : NettingChannelState) : TokenNetworkState :=
  { tokenNetwork with
    channelidentifiersToChannels :=
      tokenNetwork.channelidentifiersToChannels.set channelIdentifier channel }

/-! ## The two indexes -/

/-- The two indexes know the same channels. -/
structure Indexed : Prop where
  keyed : ∀ {identifier c}, tokenNetwork.channelidentifiersToChannels.get? identifier = some c →
    c.identifier = identifier
  listed : ∀ {identifier c}, tokenNetwork.channelidentifiersToChannels.get? identifier = some c →
    identifier ∈ identifiersOf tokenNetwork c.partnerState.address
  known : ∀ {partner identifier}, identifier ∈ identifiersOf tokenNetwork partner →
    ∃ c, tokenNetwork.channelidentifiersToChannels.get? identifier = some c ∧
      c.partnerState.address = partner
  nodup : ∀ partner, (identifiersOf tokenNetwork partner).Nodup

end

section Index

variable {P} {tn tn' : TokenNetworkState} {ident : ChannelID}
  {c c' : NettingChannelState} {partner : Address} {identifiers : List ChannelID}

theorem identifiersOf_set {channels : Dict ChannelID NettingChannelState} (other : Address) :
    identifiersOf { tn with
        channelidentifiersToChannels := channels
        partneraddressesToChannelidentifiers :=
          tn.partneraddressesToChannelidentifiers.set partner identifiers } other =
      if other = partner then identifiers else identifiersOf tn other := by
  simp only [identifiersOf, Dict.get?_set]
  split <;> rfl

theorem Indexed.congr (h : Indexed tn)
    (hchannels : tn'.channelidentifiersToChannels = tn.channelidentifiersToChannels)
    (hpartners : ∀ partner, identifiersOf tn' partner = identifiersOf tn partner) :
    Indexed tn' where
  keyed hget := h.keyed (hchannels ▸ hget)
  listed hget := by
    rw [hpartners]
    exact h.listed (hchannels ▸ hget)
  known hmem := by
    rw [hpartners] at hmem
    rw [hchannels]
    exact h.known hmem
  nodup partner := by
    rw [hpartners]
    exact h.nodup partner

/-- A channel keeps its identity in a step, so its entries stay right. -/
theorem Indexed.setChannel (h : Indexed tn)
    (hget : tn.channelidentifiersToChannels.get? ident = some c)
    (hid : SameIdentity c c') : Indexed (setChannel tn ident c') where
  keyed {other d} hother := by
    rw [TokenNetwork.setChannel, Dict.get?_set] at hother
    split at hother
    · next heq =>
      cases hother
      rw [heq, ← h.keyed hget, NettingChannelState.identifier, hid.identifier,
        NettingChannelState.identifier]
    · exact h.keyed hother
  listed {other d} hother := by
    rw [TokenNetwork.setChannel, Dict.get?_set] at hother
    split at hother
    · next heq =>
      cases hother
      rw [heq, hid.partner]
      exact h.listed hget
    · exact h.listed hother
  known {partner other} hmem := by
    obtain ⟨d, hd, hpartner⟩ := h.known hmem
    rw [TokenNetwork.setChannel, Dict.get?_set]
    split
    · next heq =>
      rw [heq, hget] at hd
      cases hd
      exact ⟨c', rfl, hid.partner.trans hpartner⟩
    · exact ⟨d, hd, hpartner⟩
  nodup := h.nodup

theorem Indexed.add (h : Indexed tn)
    (hnew : c.identifier ∉ tn.channelidentifiersToChannels) :
    Indexed { tn with
      channelidentifiersToChannels := tn.channelidentifiersToChannels.set c.identifier c
      partneraddressesToChannelidentifiers :=
        tn.partneraddressesToChannelidentifiers.set c.partnerState.address
          (identifiersOf tn c.partnerState.address ++ [c.identifier]) } where
  keyed {other d} hother := by
    rw [Dict.get?_set] at hother
    split at hother
    · next heq =>
      cases hother
      exact heq.symm
    · exact h.keyed hother
  listed {other d} hother := by
    rw [Dict.get?_set] at hother
    rw [identifiersOf_set]
    split at hother
    · next heq =>
      cases hother
      rw [if_pos rfl, heq]
      exact List.mem_append_right _ (List.mem_singleton_self _)
    · have hlisted := h.listed hother
      split
      · next heq => exact List.mem_append_left _ (heq ▸ hlisted)
      · exact hlisted
  known {partner other} hmem := by
    rw [identifiersOf_set] at hmem
    rw [Dict.get?_set]
    split at hmem
    · next heq =>
      rcases List.mem_append.mp hmem with hmem | hmem
      · obtain ⟨d, hd, hpartner⟩ := h.known hmem
        have hne : other ≠ c.identifier := fun heq' => hnew (heq' ▸ Dict.mem_of_get? hd)
        rw [if_neg hne]
        exact ⟨d, hd, hpartner.trans heq.symm⟩
      · rw [if_pos (List.mem_singleton.mp hmem)]
        exact ⟨c, rfl, heq.symm⟩
    · obtain ⟨d, hd, hpartner⟩ := h.known hmem
      have hne : other ≠ c.identifier := fun heq' => hnew (heq' ▸ Dict.mem_of_get? hd)
      rw [if_neg hne]
      exact ⟨d, hd, hpartner⟩
  nodup partner := by
    rw [identifiersOf_set]
    split
    · have hnot : c.identifier ∉ identifiersOf tn c.partnerState.address := by
        intro hmem
        obtain ⟨d, hd, -⟩ := h.known hmem
        exact hnew (Dict.mem_of_get? hd)
      exact List.nodup_append_comm.mp (List.nodup_cons.mpr ⟨hnot, h.nodup _⟩)
    · exact h.nodup partner

theorem Indexed.remove (h : Indexed tn)
    (hget : tn.channelidentifiersToChannels.get? ident = some c) :
    Indexed { tn with
      channelidentifiersToChannels := tn.channelidentifiersToChannels.del ident
      partneraddressesToChannelidentifiers :=
        tn.partneraddressesToChannelidentifiers.set c.partnerState.address
          ((identifiersOf tn c.partnerState.address).erase ident) } where
  keyed hother := h.keyed (Dict.get?_del_eq_some.mp hother).2
  listed {other d} hother := by
    obtain ⟨hne, hother⟩ := Dict.get?_del_eq_some.mp hother
    have hlisted := h.listed hother
    rw [identifiersOf_set]
    split
    · next heq => exact (List.mem_erase_of_ne hne).mpr (heq ▸ hlisted)
    · exact hlisted
  known {partner other} hmem := by
    rw [identifiersOf_set] at hmem
    rw [Dict.get?_del]
    split at hmem
    · next heq =>
      have hne : other ≠ ident := fun heq' => by
        rw [heq'] at hmem
        exact (h.nodup c.partnerState.address).not_mem_erase hmem
      obtain ⟨d, hd, hpartner⟩ := h.known (List.mem_of_mem_erase hmem)
      rw [if_neg hne]
      exact ⟨d, hd, hpartner.trans heq.symm⟩
    · next hpartnerNe =>
      obtain ⟨d, hd, hpartner⟩ := h.known hmem
      have hne : other ≠ ident := by
        rintro rfl
        rw [hget] at hd
        cases hd
        exact hpartnerNe hpartner.symm
      rw [if_neg hne]
      exact ⟨d, hd, hpartner⟩
  nodup partner := by
    rw [identifiersOf_set]
    split
    · exact (h.nodup _).erase _
    · exact h.nodup partner

theorem removeIdentifier_ok {rest : List ChannelID}
    (h : removeIdentifier identifiers ident = .ok rest) : rest = identifiers.erase ident := by
  unfold removeIdentifier at h
  split_ifs at h
  cases h
  rfl

inductive Changed (P : Primitives) (tokenNetwork : TokenNetworkState) (blockNumber : Nat)
    (blockHash : BlockHash) : TokenNetworkStateChange → TransitionResult TokenNetworkState → Prop
  | ignored {change : TokenNetworkStateChange} :
      Changed P tokenNetwork blockNumber blockHash change ⟨tokenNetwork, []⟩
  | opened {c : NettingChannelState}
      (unknown : c.identifier ∉ tokenNetwork.channelidentifiersToChannels) :
      Changed P tokenNetwork blockNumber blockHash (.contractReceiveChannelNew c)
        ⟨{ tokenNetwork with
            channelidentifiersToChannels :=
              tokenNetwork.channelidentifiersToChannels.set c.identifier c
            partneraddressesToChannelidentifiers :=
              tokenNetwork.partneraddressesToChannelidentifiers.set c.partnerState.address
                (identifiersOf tokenNetwork c.partnerState.address ++ [c.identifier]) }, []⟩
  | stepped {change : ChannelStateChange} {identifier : CanonicalIdentifier}
      {c c' : NettingChannelState} {events : List Event} {partners : Dict Address (List ChannelID)}
      (about : change.canonicalIdentifier? = some identifier)
      (found : tokenNetwork.channelidentifiersToChannels.get? identifier.channelIdentifier = some c)
      (step : Step P c (.stateChange change blockNumber blockHash, events) c')
      (index : ∀ partner, (partners.get? partner).getD [] = identifiersOf tokenNetwork partner) :
      Changed P tokenNetwork blockNumber blockHash (.channel change)
        ⟨{ tokenNetwork with
            channelidentifiersToChannels :=
              tokenNetwork.channelidentifiersToChannels.set identifier.channelIdentifier c'
            partneraddressesToChannelidentifiers := partners }, events⟩
  | removed {change : ChannelStateChange} {identifier : CanonicalIdentifier} {key : ChannelID}
      {c : NettingChannelState} {events : List Event} {prng prng' : Prng}
      (about : change.canonicalIdentifier? = some identifier)
      (found : tokenNetwork.channelidentifiersToChannels.get? identifier.channelIdentifier = some c)
      (removal : (Channel.stateTransition P c change blockNumber blockHash).run prng =
        .ok (⟨none, events⟩, prng'))
      (hkey : key = identifier.channelIdentifier ∨ key = c.identifier) :
      Changed P tokenNetwork blockNumber blockHash (.channel change)
        ⟨{ tokenNetwork with
            channelidentifiersToChannels := tokenNetwork.channelidentifiersToChannels.del key
            partneraddressesToChannelidentifiers :=
              tokenNetwork.partneraddressesToChannelidentifiers.set c.partnerState.address
                ((identifiersOf tokenNetwork c.partnerState.address).erase key) }, events⟩

theorem getD_get?_set_identifiersOf (partner other : Address) :
    ((tn.partneraddressesToChannelidentifiers.set partner
      (identifiersOf tn partner)).get? other).getD [] = identifiersOf tn other := by
  rw [Dict.get?_set]
  split
  · next heq =>
    rw [heq]
    rfl
  · rfl

theorem subdispatchToChannelById_changed {sc : ChannelStateChange} {ident : CanonicalIdentifier}
    (about : sc.canonicalIdentifier? = some ident) (bn : Nat) (blockHash : BlockHash) :
    Ensures (subdispatchToChannelById P tn sc ident.channelIdentifier bn
      blockHash) (Changed P tn bn blockHash (.channel sc)) := by
  unfold subdispatchToChannelById
  cases found : tn.channelidentifiersToChannels.get? ident.channelIdentifier with
  | none => exact .pure .ignored
  | some c =>
    refine .bind (.ran _) fun r hr => ?_
    obtain ⟨prng, prng', hrun⟩ := hr
    obtain ⟨newState, events⟩ := r
    cases newState with
    | none =>
      refine .bind (Ensures.lift fun rest hrest => removeIdentifier_ok hrest) fun rest hrest => ?_
      subst hrest
      exact .pure (.removed about found hrun (.inl rfl))
    | some c' =>
      exact .pure (.stepped about found ⟨prng, prng', hrun⟩ (getD_get?_set_identifiersOf _))

theorem handleBatchUnlock_changed (action : ContractReceiveChannelBatchUnlock) (bn : Nat)
    (blockHash : BlockHash) :
    Ensures (handleBatchUnlock P tn action bn blockHash) (Changed P tn bn blockHash
        (.channel (.contractReceiveChannelBatchUnlock action))) := by
  unfold handleBatchUnlock
  dsimp only
  cases found : tn.channelidentifiersToChannels.get?
      action.canonicalIdentifier.channelIdentifier with
  | none => exact .pure .ignored
  | some c =>
    refine .bind (.ran _) fun r hr => ?_
    obtain ⟨prng, prng', hrun⟩ := hr
    obtain ⟨newState, events⟩ := r
    cases newState with
    | none =>
      refine .bind (Ensures.lift fun rest hrest => removeIdentifier_ok hrest) fun rest hrest => ?_
      refine .after fun _ => ?_
      subst hrest
      exact .pure (.removed rfl found hrun (.inr rfl))
    | some c' => exact .pure (.stepped rfl found ⟨prng, prng', hrun⟩ fun _ => rfl)

theorem stateTransition_changed (sc : TokenNetworkStateChange) (bn : Nat) (blockHash : BlockHash) :
    Ensures (stateTransition P tn sc bn blockHash) (Changed P tn bn blockHash sc) := by
  cases sc with
  | contractReceiveChannelNew c =>
    refine .pure ?_
    unfold handleChannelnew
    split
    · exact .ignored
    · next unknown => exact .opened unknown
  | channel sc =>
    cases sc with
    | block => exact .pure .ignored
    | contractReceiveChannelBatchUnlock action =>
      exact handleBatchUnlock_changed action bn blockHash
    | _ => exact subdispatchToChannelById_changed rfl bn blockHash

theorem Changed.indexed {bn : Nat} {blockHash : BlockHash} {sc : TokenNetworkStateChange}
    {r : TransitionResult TokenNetworkState} (h : Changed P tn bn blockHash sc r)
    (hindexed : Indexed tn) : Indexed r.newState := by
  cases h with
  | ignored => exact hindexed
  | opened unknown => exact hindexed.add unknown
  | stepped _ found step index => exact (hindexed.setChannel found step.sameIdentity).congr rfl index
  | removed _ found _ hkey =>
    have hkeyed := hindexed.keyed found
    obtain rfl | rfl := hkey
    · exact hindexed.remove found
    · rw [hkeyed]
      exact hindexed.remove found

theorem stateTransition_indexed (h : Indexed tn) (sc : TokenNetworkStateChange)
    (bn : Nat) (blockHash : BlockHash) :
    Ensures (stateTransition P tn sc bn blockHash) fun r => Indexed r.newState :=
  (stateTransition_changed sc bn blockHash).mono fun _ hr => hr.indexed h

end Index

/-- What happens to a token network: a state change of its own, or an operation
on one of its channels. -/
inductive Input where
  | transition (change : TokenNetworkStateChange) (blockNumber : Nat) (blockHash : BlockHash)
  | operation (identifier : ChannelID) (op : ChannelOp)

inductive Next (tokenNetwork : TokenNetworkState) : Input × List Event → TokenNetworkState → Prop
  | transition {change : TokenNetworkStateChange} {blockNumber : Nat} {blockHash : BlockHash}
      {prng prng' : Prng} {r : TransitionResult TokenNetworkState}
      (run : (stateTransition P tokenNetwork change blockNumber blockHash).run prng = .ok (r, prng')) :
      Next tokenNetwork (.transition change blockNumber blockHash, r.events) r.newState
  | operation {identifier : ChannelID} {c c' : NettingChannelState} {op : ChannelOp}
      {events : List Event}
      (found : tokenNetwork.channelidentifiersToChannels.get? identifier = some c)
      (step : Step P c (op, events) c') :
      Next tokenNetwork (.operation identifier op, events) (setChannel tokenNetwork identifier c')

variable {P} in
theorem Indexed.next {tn tn' : TokenNetworkState} {label : Input × List Event}
    (h : Indexed tn) (hnext : Next P tn label tn') : Indexed tn' := by
  cases hnext with
  | transition run => exact stateTransition_indexed h _ _ _ _ _ _ run
  | operation found step => exact h.setChannel found step.sameIdentity

structure Empty (tokenNetwork : TokenNetworkState) : Prop where
  channels : tokenNetwork.channelidentifiersToChannels = .empty
  partners : tokenNetwork.partneraddressesToChannelidentifiers = .empty

theorem Empty.indexed {tn : TokenNetworkState} (h : Empty tn) : Indexed tn where
  keyed hget := by rw [h.channels] at hget; cases hget
  listed hget := by rw [h.channels] at hget; cases hget
  known hmem := by rw [identifiersOf, h.partners] at hmem; cases hmem
  nodup partner := by
    rw [identifiersOf, h.partners]
    exact List.nodup_nil

variable {P}

/-- In every run of a token network the lists of the partners have no
duplicates, together they hold the keys of the channels, and an identifier
stands under the partner of its channel. -/
theorem channel_indexes_agree {tokenNetwork₀ tokenNetwork : TokenNetworkState}
    {log : List (Input × List Event)} (h₀ : Empty tokenNetwork₀)
    (hrun : Run (Next P) tokenNetwork₀ log tokenNetwork) :
    (∀ partner, (identifiersOf tokenNetwork partner).Nodup) ∧
      (∀ identifier, identifier ∈ tokenNetwork.channelidentifiersToChannels ↔
        ∃ partner, identifier ∈ identifiersOf tokenNetwork partner) ∧
      ∀ partner identifier, identifier ∈ identifiersOf tokenNetwork partner ↔
        ∃ c, tokenNetwork.channelidentifiersToChannels.get? identifier = some c ∧
          c.partnerState.address = partner := by
  have h : Indexed tokenNetwork := hrun.invariant h₀.indexed fun _ _ _ h hnext => h.next hnext
  refine ⟨h.nodup, fun identifier => ⟨fun hmem => ?_, fun ⟨partner, hmem⟩ => ?_⟩,
    fun partner identifier => ⟨h.known, ?_⟩⟩
  · obtain ⟨c, hc⟩ := Dict.mem_iff.mp hmem
    exact ⟨_, h.listed hc⟩
  · obtain ⟨c, hc, -⟩ := h.known hmem
    exact Dict.mem_iff.mpr ⟨c, hc⟩
  · rintro ⟨c, hc, rfl⟩
    exact h.listed hc

def advance (P : Primitives) (messageIdentifier : MessageID) (tokenNetwork : TokenNetworkState)
    (change : TokenNetworkStateChange) : Option ((Input × List Event) × TokenNetworkState) :=
  match (stateTransition P tokenNetwork change 1 []).run (Stream'.const messageIdentifier) with
  | .ok (r, _) => some ((.transition change 1 [], r.events), r.newState)
  | .error _ => none

theorem advance_sound {messageIdentifier : MessageID} {tn tn' : TokenNetworkState}
    {sc : TokenNetworkStateChange} {label : Input × List Event}
    (h : advance P messageIdentifier tn sc = some (label, tn')) : Next P tn label tn' := by
  unfold advance at h
  split at h
  · next hrun =>
    cases h
    exact .transition hrun
  · cases h

def toyTokenNetwork : TokenNetworkState where
  address := 9
  tokenAddress := 8

/-- A channel is opened, reported again, settled, and opened anew with the same partner. -/
def reopened : List TokenNetworkStateChange :=
  let again := { toyChannel 5 5 with canonicalIdentifier := ⟨1, 9, 2⟩ }
  [.contractReceiveChannelNew (toyChannel 10 10), .contractReceiveChannelNew (toyChannel 10 10),
    .contractReceiveChannelNew again,
    .channel (.contractReceiveChannelSettled ⟨60, [], toyIdentifier, [], 0, [], 0⟩)]

theorem channel_indexes_agree_after_reopening : ∃ log tokenNetwork,
    Run (Next toyPrimitives) toyTokenNetwork log tokenNetwork ∧
      identifiersOf tokenNetwork 2 = [2] ∧ ∀ partner, (identifiersOf tokenNetwork partner).Nodup := by
  have hexec : (execute (advance toyPrimitives 0) reopened ([], toyTokenNetwork)).any
      (fun finish => identifiersOf finish.2 2 = [2]) = true := by decide +kernel
  obtain ⟨log, tokenNetwork, hrun, hfinish⟩ := Run.execute (.start _) hexec fun _ _ _ _ hnext =>
    advance_sound hnext
  exact ⟨log, tokenNetwork, hrun, of_decide_eq_true hfinish,
    (channel_indexes_agree ⟨rfl, rfl⟩ hrun).1⟩

end TokenNetwork

end Raiden
