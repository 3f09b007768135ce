import Raiden.Node.Channels

/-! # Where the channels of a node stand

The token network objects keep their indexes of channels, and the registries
refer to them by their addresses, as long as token networks are registered
without channels. -/
namespace Raiden.Node

open Lib Channel

variable {regAddr : Address} {objects : List TokenNetworkState} {net : TokenNetworkState}
  {addr : Address} {ref : TokenNetworkRef} {reg : TokenNetworkRegistryState}

/-- Every token network is indexed by identifier and by partner, and the
registries refer to the objects by their addresses. -/
structure Placed (s : ChainState) : Prop where
  indexed : ∀ (object : Nat) (net : TokenNetworkState),
    s.tokenNetworks[object]? = some net → TokenNetwork.Indexed net
  addressed : ∀ regAddr reg address ref,
    s.identifiersToTokennetworkregistries.get? regAddr = some reg →
    reg.tokennetworkaddressesToTokennetworks.get? address = some ref →
    ∃ net, s.tokenNetworks[ref.object]? = some net ∧ net.address = address

def Addressed (objects : List TokenNetworkState) (reg : TokenNetworkRegistryState) : Prop :=
  ∀ address ref, reg.tokennetworkaddressesToTokennetworks.get? address = some ref →
    ∃ net, objects[ref.object]? = some net ∧ net.address = address

theorem Placed.empty {s : ChainState} (hobjects : s.tokenNetworks = [])
    (hregistries : s.identifiersToTokennetworkregistries = .empty) : Placed s := by
  constructor
  · intro object net hget
    rw [hobjects] at hget
    cases hget
  · intro regAddr reg addr ref hregistry
    rw [hregistries] at hregistry
    cases hregistry

def ArrivesEmpty : StateChange → Prop
  | .contractReceiveNewTokenNetworkRegistry change =>
    ∀ net ∈ change.tokenNetworkList, TokenNetwork.Empty net
  | .contractReceiveNewTokenNetwork change => TokenNetwork.Empty change.tokenNetwork
  | _ => True

section Placed

variable {P : Primitives} {M : Initiator.FeeMargins} {s s' : ChainState} {sc : StateChange}
  {es : List Event}

theorem Placed.address_eq (h : Placed s)
    (found : s.getTokenNetworkByAddress addr = some (ref, net)) :
    s.tokenNetworks[ref.object]? = some net ∧ net.address = addr := by
  obtain ⟨hget, regAddr, reg, -, hregistry, href⟩ := getTokenNetworkByAddress_eq_some found
  obtain ⟨net', hget', haddress⟩ := h.addressed _ _ _ _ hregistry href
  rw [hget] at hget'
  cases hget'
  exact ⟨hget, haddress⟩

theorem Placed.append (h : Placed s) {more : List TokenNetworkState}
    (hmore : ∀ net ∈ more, TokenNetwork.Empty net) :
    Placed { s with tokenNetworks := s.tokenNetworks ++ more } where
  indexed object net hget := by
    rcases List.mem_append.mp (List.mem_of_getElem? hget) with hmem | hmem
    · obtain ⟨other, hother⟩ := List.getElem?_of_mem hmem
      exact h.indexed other net hother
    · exact (hmore net hmem).indexed
  addressed regAddr reg addr ref hregistry href := by
    obtain ⟨net, hget, haddress⟩ := h.addressed regAddr reg addr ref hregistry href
    have hlt := (List.getElem?_eq_some_iff.mp hget).1
    exact ⟨net, (List.getElem?_append_left hlt).trans hget, haddress⟩

/-- A registry is stored whose references are right. -/
theorem Placed.setRegistry (h : Placed s) {networks : Dict Address Address}
    (hregistry : Addressed s.tokenNetworks reg) :
    Placed { s with
      identifiersToTokennetworkregistries :=
        s.identifiersToTokennetworkregistries.set regAddr reg
      tokennetworkaddressesToTokennetworkregistryaddresses := networks } where
  indexed := h.indexed
  addressed other reg' addr ref hother href := by
    rw [Dict.get?_set] at hother
    split at hother
    · cases hother
      exact hregistry addr ref href
    · exact h.addressed other reg' addr ref hother href

theorem Addressed.addTokenNetwork {token : Address} (hregistry : Addressed objects reg)
    (hget : objects[ref.object]? = some net) (haddress : net.address = ref.address) :
    Addressed objects (reg.addTokenNetwork ref token) := by
  intro addr ref' href'
  rw [TokenNetworkRegistryState.addTokenNetwork, Dict.get?_set] at href'
  split at href'
  · next heq =>
    cases href'
    exact ⟨net, hget, haddress.trans heq.symm⟩
  · exact hregistry addr ref' href'

theorem Addressed.create {refs : List (TokenNetworkRef × Address)}
    (hrefs : ∀ entry ∈ refs, ∃ net, objects[entry.1.object]? = some net ∧
      net.address = entry.1.address) : Addressed objects (.create regAddr refs) := by
  refine List.foldlRecOn refs _ (motive := Addressed objects) ?_ ?_
  · intro _ _ hget
    cases hget
  · intro reg hregistry entry hentry
    obtain ⟨net, hget, haddress⟩ := hrefs entry hentry
    exact hregistry.addTokenNetwork hget haddress

theorem mem_newRefs {n : Nat} {nets : List TokenNetworkState} {entry : TokenNetworkRef × Address}
    (h : entry ∈ newRefs n nets) : ∃ (k : Nat) (net : TokenNetworkState),
      nets[k]? = some net ∧ entry = (⟨n + k, net.address⟩, net.tokenAddress) := by
  induction nets generalizing n with
  | nil => cases h
  | cons net rest ih =>
    rcases List.mem_cons.mp h with rfl | h
    · exact ⟨0, net, rfl, rfl⟩
    · obtain ⟨k, t, hk, heq⟩ := ih h
      refine ⟨k + 1, t, hk, ?_⟩
      rw [heq, Nat.add_assoc, Nat.add_comm 1]

theorem Placed.maybeAddTokennetwork (h : Placed s) (hempty : TokenNetwork.Empty net) :
    Placed (maybeAddTokennetwork s regAddr net) := by
  have happend : Placed { s with tokenNetworks := s.tokenNetworks ++ [net] } :=
    h.append fun t ht => by
      rw [List.mem_singleton.mp ht]
      exact hempty
  have hnew : (s.tokenNetworks ++ [net])[s.tokenNetworks.length]? = some net := by
    rw [List.getElem?_append_right (Nat.le_refl _), Nat.sub_self]
    rfl
  unfold Node.maybeAddTokennetwork ChainState.Views.getNetworks
  split
  · refine happend.setRegistry ((Addressed.create ?_).addTokenNetwork hnew rfl)
    intro entry hentry
    rw [List.mem_singleton.mp hentry]
    exact ⟨net, hnew, rfl⟩
  · next reg _ hnetworks =>
    split at hnetworks
    · cases hnetworks
    · next known hregistry =>
      obtain rfl := Option.some.inj (congrArg Prod.fst hnetworks)
      have hknown : Addressed _ known := fun addr ref => happend.addressed _ _ addr ref hregistry
      exact happend.setRegistry (hknown.addTokenNetwork hnew rfl)
  · exact h

theorem Placed.prepared (h : Placed s) (hempty : ArrivesEmpty sc) : Placed (prepared s sc) := by
  cases sc with
  | contractReceiveNewTokenNetworkRegistry sc =>
    simp only [Node.prepared, handleContractReceiveNewTokenNetworkRegistry]
    split
    · exact h
    · have happend := h.append hempty
      refine happend.setRegistry (Addressed.create fun entry hentry => ?_)
      obtain ⟨k, net, hk, rfl⟩ := mem_newRefs hentry
      refine ⟨net, ?_, rfl⟩
      rw [List.getElem?_append_right (Nat.le_add_right _ _), Nat.add_sub_cancel_left]
      exact hk
  | contractReceiveNewTokenNetwork sc => exact h.maybeAddTokennetwork hempty
  | contractReceiveChannelClosed sc =>
    simp only [Node.prepared, dropQueue]
    split
    · exact h
    · exact ⟨h.indexed, h.addressed⟩
  | receiveDelivered | receiveProcessed | receiveWithdrawConfirmation => exact ⟨h.indexed, h.addressed⟩
  | _ => exact h

/-- Every operation on a channel keeps its identity. -/
theorem respects_sameIdentity (P : Primitives) : Respects P (fun _ _ _ => True) SameIdentity :=
  ⟨.refl, fun _ _ _ h h' => h.trans h', fun _ _ _ _ _ _ h => h.sameIdentity⟩

theorem NetworkRel.indexed {net' : TokenNetworkState} (h : NetworkRel SameIdentity net net')
    (hindexed : TokenNetwork.Indexed net) : TokenNetwork.Indexed net' := by
  constructor
  · intro ident c' hc'
    obtain ⟨c, hc, hsame⟩ := (h.channels ident).of_right hc'
    rw [← hindexed.keyed hc, NettingChannelState.identifier, hsame.identifier,
      NettingChannelState.identifier]
  · intro ident c' hc'
    obtain ⟨c, hc, hsame⟩ := (h.channels ident).of_right hc'
    rw [h.partners, hsame.partner]
    exact hindexed.listed hc
  · intro partner ident hmem
    rw [h.partners] at hmem
    obtain ⟨c, hc, hpartner⟩ := hindexed.known hmem
    obtain ⟨c', hc', hsame⟩ := (h.channels ident).of_left hc
    exact ⟨c', hc', hsame.partner.trans hpartner⟩
  · intro partner
    rw [h.partners]
    exact hindexed.nodup partner

theorem Placed.of_objects (h : Placed s) (hsame : SameObjects s.tokenNetworks s'.tokenNetworks)
    (hregistries : s'.identifiersToTokennetworkregistries = s.identifiersToTokennetworkregistries)
    (hindexed : ∀ (object : Nat) (net : TokenNetworkState),
      s'.tokenNetworks[object]? = some net → TokenNetwork.Indexed net) : Placed s' where
  indexed := hindexed
  addressed regAddr reg addr ref hregistry href := by
    rw [hregistries] at hregistry
    obtain ⟨net, hget, haddress⟩ := h.addressed regAddr reg addr ref hregistry href
    obtain ⟨net', hget', hnetwork⟩ := (hsame ref.object).of_left hget
    exact ⟨net', hget', hnetwork.address.trans haddress⟩

theorem Networked.indexed (hs : Placed s) {networkChange : TokenNetworkStateChange}
    (h : Networked P s networkChange addr objects es) (object : Nat)
    (net : TokenNetworkState) (hget : objects[object]? = some net) : TokenNetwork.Indexed net := by
  cases h with
  | unknown => exact hs.indexed object net hget
  | @changed ref network r found h =>
    rw [List.getElem?_set] at hget
    split at hget
    · split at hget
      · cases hget
        exact h.indexed (hs.indexed _ _ (hs.address_eq found).1)
      · cases hget
    · exact hs.indexed object net hget

theorem Placed.next (h : Placed s) (hempty : ArrivesEmpty sc) (hnext : Next P M s (sc, es) s') :
    Placed s' := by
  have hsame := hnext.sameRegistries
  obtain ⟨t, prng, prng', hhandled, hupdated⟩ := hnext.inv
  have hobjects : s'.tokenNetworks = t.tokenNetworks := by rw [updateQueues_eq hupdated]
  refine (h.prepared hempty).of_objects hsame.objects hsame.registries ?_
  rw [hobjects]
  intro object net hget
  cases hchange : networkChange? sc with
  | none =>
    have hhanded := handleStateChange_handed (respects_sameIdentity P) s hchange prng _ prng' hhandled
    obtain ⟨before, hbefore, hnetwork⟩ := (hhanded.channels object).of_right hget
    exact hnetwork.indexed ((h.prepared hempty).indexed object before hbefore)
  | some found =>
    have hnetworked := (handleStateChange_networked s hchange prng _ prng' hhandled).2
    exact hnetworked.indexed h object net hget

end Placed

end Raiden.Node
