import Raiden.Node.Channels

/-! # Token network registries

A registry lists its token networks three times: in a list, by the address of
the network, and by the address of the token; the node knows in addition the
registry of every network. The four indexes agree as long as networks are added
to registries that are known, under addresses that are new, and registries
arrive without networks. -/
namespace Raiden.Node

open Lib

/-- The indexes of one registry, over the objects of the node. -/
structure Listed (nets : List TokenNetworkState) (reg : TokenNetworkRegistryState) : Prop where
  nodup : reg.tokenNetworkList.Nodup
  listed : ∀ {ref}, ref ∈ reg.tokenNetworkList ↔
    reg.tokennetworkaddressesToTokennetworks.get? ref.address = some ref
  keyed : ∀ {address ref},
    reg.tokennetworkaddressesToTokennetworks.get? address = some ref → ref.address = address
  bound : ∀ {address ref},
    reg.tokennetworkaddressesToTokennetworks.get? address = some ref →
      ref.object < nets.length
  token : ∀ {token address},
    reg.tokenaddressesToTokennetworkaddresses.get? token = some address ↔
      ∃ ref net, reg.tokennetworkaddressesToTokennetworks.get? address = some ref ∧
        nets[ref.object]? = some net ∧ net.tokenAddress = token

/-- All indexes of the node. -/
structure RegistriesConsistent (s : ChainState) : Prop where
  listed : ∀ {address reg}, s.identifiersToTokennetworkregistries.get? address = some reg →
    Listed s.tokenNetworks reg
  networks : ∀ {address regAddr},
    s.tokennetworkaddressesToTokennetworkregistryaddresses.get? address = some regAddr ↔
      ∃ reg, s.identifiersToTokennetworkregistries.get? regAddr = some reg ∧
        address ∈ reg.tokennetworkaddressesToTokennetworks

section Listed

variable {nets nets' : List TokenNetworkState} {reg : TokenNetworkRegistryState}

/-- Two lists of objects agree where the registry refers to. -/
theorem Listed.congr (h : Listed nets reg) (hlength : nets.length ≤ nets'.length)
    (hsame : ∀ object < nets.length, ∃ t t', nets[object]? = some t ∧
      nets'[object]? = some t' ∧ t'.tokenAddress = t.tokenAddress) : Listed nets' reg where
  nodup := h.nodup
  listed := h.listed
  keyed := h.keyed
  bound hget := Nat.lt_of_lt_of_le (h.bound hget) hlength
  token {token address} := by
    rw [h.token]
    constructor
    · rintro ⟨ref, t, hget, ht, htoken⟩
      obtain ⟨t₁, t', ht₁, ht', heq⟩ := hsame ref.object (h.bound hget)
      rw [ht] at ht₁
      cases ht₁
      exact ⟨ref, t', hget, ht', heq.trans htoken⟩
    · rintro ⟨ref, t', hget, ht', htoken⟩
      obtain ⟨t, t₁, ht, ht₁, heq⟩ := hsame ref.object (h.bound hget)
      rw [ht'] at ht₁
      cases ht₁
      exact ⟨ref, t, hget, ht, heq.symm.trans htoken⟩

theorem Listed.append (h : Listed nets reg) (more : List TokenNetworkState) :
    Listed (nets ++ more) reg := by
  refine h.congr (by rw [List.length_append]; omega) fun object hobject => ?_
  have hget := List.getElem?_eq_getElem hobject
  exact ⟨_, _, hget, (List.getElem?_append_left hobject).trans hget, rfl⟩

theorem SameObjects.length_eq (h : SameObjects nets nets') : nets.length = nets'.length := by
  have h₁ := (h nets.length).eq_none_iff
  have h₂ := (h nets'.length).eq_none_iff
  rw [List.getElem?_eq_none_iff, List.getElem?_eq_none_iff] at h₁ h₂
  omega

theorem Listed.sameObjects (h : Listed nets reg)
    (hsame : SameObjects nets nets') : Listed nets' reg := by
  refine h.congr hsame.length_eq.le fun object hobject => ?_
  have hget := List.getElem?_eq_getElem hobject
  obtain ⟨t', ht', hnetwork⟩ := (hsame object).of_left hget
  exact ⟨_, t', hget, ht', hnetwork.tokenAddress⟩

theorem Listed.empty (address : Address) : Listed nets { address } where
  nodup := List.nodup_nil
  listed := ⟨nofun, nofun⟩
  keyed := nofun
  bound := nofun
  token := ⟨nofun, nofun⟩

/-- A token network whose token and address are new to the registry is added to every index. -/
theorem Listed.addTokenNetwork (h : Listed nets reg) {net : TokenNetworkState}
    (htoken : net.tokenAddress ∉ reg.tokenaddressesToTokennetworkaddresses)
    (haddress : net.address ∉ reg.tokennetworkaddressesToTokennetworks) :
    Listed (nets ++ [net]) (reg.addTokenNetwork ⟨nets.length, net.address⟩ net.tokenAddress) := by
  have hnew : (⟨nets.length, net.address⟩ : TokenNetworkRef) ∉
      reg.tokenNetworkList := fun hmem =>
    Nat.lt_irrefl _ (h.bound (h.listed.mp hmem))
  have hold := h.append [net]
  have hobject : (nets ++ [net])[nets.length]? = some net := by
    rw [List.getElem?_append_right (Nat.le_refl _), Nat.sub_self]
    rfl
  refine ⟨?_, ?_, ?_, ?_, ?_⟩
  · exact List.nodup_append_comm.mp (List.nodup_cons.mpr ⟨hnew, h.nodup⟩)
  · intro ref
    simp only [TokenNetworkRegistryState.addTokenNetwork, List.mem_append, List.mem_singleton,
      Dict.get?_set, h.listed]
    split
    · next heq =>
      rw [heq, Dict.not_mem_iff.mp haddress, Option.some.injEq]
      simp [eq_comm]
    · next hne => exact ⟨fun hmem => hmem.resolve_right fun heq => hne (by rw [heq]), .inl⟩
  · intro address ref hget
    simp only [TokenNetworkRegistryState.addTokenNetwork, Dict.get?_set] at hget
    split at hget
    · next heq =>
      cases hget
      exact heq.symm
    · exact h.keyed hget
  · intro address ref hget
    simp only [TokenNetworkRegistryState.addTokenNetwork, Dict.get?_set] at hget
    rw [List.length_append]
    split at hget
    · cases hget
      exact Nat.lt_add_one _
    · exact Nat.lt_add_right 1 (h.bound hget)
  · intro token address
    simp only [TokenNetworkRegistryState.addTokenNetwork, Dict.get?_set]
    by_cases ht : token = net.tokenAddress
    · rw [if_pos ht, Option.some.injEq]
      constructor
      · rintro rfl
        exact ⟨_, net, if_pos rfl, hobject, ht.symm⟩
      · rintro ⟨ref, t, hget, hobj, htok⟩
        by_cases ha : address = net.address
        · exact ha.symm
        · rw [if_neg ha] at hget
          have hknown := hold.token.mpr ⟨ref, t, hget, hobj, htok.trans ht⟩
          exact absurd (Dict.mem_of_get? hknown) htoken
    · rw [if_neg ht, hold.token]
      by_cases ha : address = net.address
      · rw [if_pos ha, ha, Dict.not_mem_iff.mp haddress]
        constructor
        · rintro ⟨ref, t, hget, -⟩
          cases hget
        · rintro ⟨ref, t, hget, hobj, htok⟩
          cases hget
          rw [hobject] at hobj
          cases hobj
          exact absurd htok.symm ht
      · rw [if_neg ha]

end Listed

section Steps

variable {P : Primitives} {M : Initiator.FeeMargins} {s s' : ChainState} {sc : StateChange}
  {es : List Event}

/-- Registries arrive without token networks, and a token network is added to a
registry that is known and under an address that no registry has. What is known
already is ignored, and may be repeated. -/
def Admissible (s : ChainState) : StateChange → Prop
  | .contractReceiveNewTokenNetworkRegistry change =>
    change.address ∈ s.identifiersToTokennetworkregistries ∨ change.tokenNetworkList = []
  | .contractReceiveNewTokenNetwork change =>
    ∃ reg, s.identifiersToTokennetworkregistries.get? change.tokenNetworkRegistryAddress =
        some reg ∧
      (change.tokenNetwork.tokenAddress ∈ reg.tokenaddressesToTokennetworkaddresses ∨
        ∀ other ∈ s.identifiersToTokennetworkregistries.values,
          change.tokenNetwork.address ∉ other.tokennetworkaddressesToTokennetworks)
  | _ => True

section

variable (h : RegistriesConsistent s)

include h

theorem RegistriesConsistent.sameRegistries (hsame : SameRegistries s s') :
    RegistriesConsistent s' where
  listed hget := (h.listed (hsame.registries ▸ hget)).sameObjects hsame.objects
  networks := by
    intro address regAddr
    rw [hsame.networks, hsame.registries]
    exact h.networks

/-- A registry without networks. -/
theorem RegistriesConsistent.addRegistry {address : Address}
    (hnew : address ∉ s.identifiersToTokennetworkregistries) :
    RegistriesConsistent { s with
      identifiersToTokennetworkregistries := s.identifiersToTokennetworkregistries.set address { address } }
    where
  listed {other reg} hget := by
    rw [Dict.get?_set] at hget
    split at hget
    · cases hget
      exact .empty address
    · exact h.listed hget
  networks {network regAddr} := by
    rw [h.networks, Dict.get?_set]
    by_cases heq : regAddr = address
    · rw [if_pos heq, heq, Dict.not_mem_iff.mp hnew]
      constructor
      · rintro ⟨reg, hget, -⟩
        cases hget
      · rintro ⟨reg, hget, hmem⟩
        cases hget
        exact absurd hmem (Dict.not_mem_empty network)
    · rw [if_neg heq]

theorem RegistriesConsistent.addTokenNetwork {regAddr : Address}
    {reg : TokenNetworkRegistryState} {net : TokenNetworkState}
    (hget : s.identifiersToTokennetworkregistries.get? regAddr = some reg)
    (htoken : net.tokenAddress ∉ reg.tokenaddressesToTokennetworkaddresses)
    (haddress : ∀ other ∈ s.identifiersToTokennetworkregistries.values,
      net.address ∉ other.tokennetworkaddressesToTokennetworks) :
    RegistriesConsistent { s with
      tokenNetworks := s.tokenNetworks ++ [net]
      identifiersToTokennetworkregistries :=
        s.identifiersToTokennetworkregistries.set regAddr
          (reg.addTokenNetwork ⟨s.tokenNetworks.length, net.address⟩
            net.tokenAddress)
      tokennetworkaddressesToTokennetworkregistryaddresses :=
        s.tokennetworkaddressesToTokennetworkregistryaddresses.set net.address
          regAddr } where
  listed {other reg'} hget' := by
    rw [Dict.get?_set] at hget'
    split at hget'
    · cases hget'
      exact (h.listed hget).addTokenNetwork htoken
        (haddress _ (Dict.mem_values_iff.mpr ⟨regAddr, hget⟩))
    · exact (h.listed hget').append [net]
  networks {network other} := by
    rw [Dict.get?_set, Dict.get?_set]
    by_cases hn : network = net.address
    · rw [if_pos hn, Option.some.injEq, hn]
      constructor
      · rintro rfl
        exact ⟨_, if_pos rfl, Dict.mem_set.mpr (.inl rfl)⟩
      · rintro ⟨reg', hget', hmem⟩
        by_cases ho : other = regAddr
        · exact ho.symm
        · rw [if_neg ho] at hget'
          exact absurd hmem (haddress _ (Dict.mem_values_iff.mpr ⟨other, hget'⟩))
    · rw [if_neg hn, h.networks]
      by_cases ho : other = regAddr
      · rw [if_pos ho, ho, hget]
        constructor
        · rintro ⟨reg', hget', hmem⟩
          cases hget'
          exact ⟨_, rfl, Dict.mem_set.mpr (.inr hmem)⟩
        · rintro ⟨reg', hget', hmem⟩
          cases hget'
          exact ⟨reg, rfl, (Dict.mem_set.mp hmem).resolve_left hn⟩
      · rw [if_neg ho]

theorem RegistriesConsistent.maybeAddTokennetwork {sc : ContractReceiveNewTokenNetwork}
    (hadmissible : Admissible s (.contractReceiveNewTokenNetwork sc)) :
    RegistriesConsistent
      (maybeAddTokennetwork s sc.tokenNetworkRegistryAddress sc.tokenNetwork) := by
  obtain ⟨reg, hget, hcases⟩ := hadmissible
  unfold Node.maybeAddTokennetwork ChainState.Views.getNetworks
  rw [hget]
  dsimp only
  cases htoken : reg.tokenaddressesToTokennetworkaddresses.get? sc.tokenNetwork.tokenAddress with
  | none =>
    have hunknown := Dict.not_mem_iff.mpr htoken
    exact h.addTokenNetwork hget hunknown (hcases.resolve_left hunknown)
  | some address =>
    -- the network of a known token is found, so nothing is added
    obtain ⟨ref, net, hknown, -⟩ := (h.listed hget).token.mp htoken
    rw [Option.bind_some, hknown]
    exact h

theorem RegistriesConsistent.prepared (hadmissible : Admissible s sc) :
    RegistriesConsistent (prepared s sc) := by
  cases sc with
  | contractReceiveNewTokenNetworkRegistry sc =>
    simp only [Node.prepared, handleContractReceiveNewTokenNetworkRegistry]
    split
    · exact h
    · next hnew =>
      rw [hadmissible.resolve_left hnew, List.append_nil]
      exact h.addRegistry hnew
  | contractReceiveNewTokenNetwork sc => exact h.maybeAddTokennetwork hadmissible
  | contractReceiveChannelClosed sc =>
    simp only [Node.prepared, dropQueue]
    split
    · exact h
    · exact ⟨h.listed, h.networks⟩
  | receiveDelivered | receiveProcessed | receiveWithdrawConfirmation => exact ⟨h.listed, h.networks⟩
  | _ => exact h

theorem RegistriesConsistent.next (hadmissible : Admissible s sc)
    (hnext : Next P M s (sc, es) s') : RegistriesConsistent s' :=
  (h.prepared hadmissible).sameRegistries hnext.sameRegistries

end

/-- A node that was just created. -/
structure Fresh (s : ChainState) : Prop where
  objects : s.tokenNetworks = []
  registries : s.identifiersToTokennetworkregistries = .empty
  networks : s.tokennetworkaddressesToTokennetworkregistryaddresses = .empty
  tasks : s.secrethashesToTask = .empty
  pending : s.pendingTransactions = []
  queues : s.queueidsToQueues = .empty

theorem Fresh.registriesConsistent (h : Fresh s) : RegistriesConsistent s where
  listed hget := by rw [h.registries] at hget; cases hget
  networks := by
    intro address regAddr
    rw [h.networks, h.registries]
    exact ⟨nofun, nofun⟩

/-- A step of the node whose registrations are admissible. -/
def AdmissibleNext (P : Primitives) (M : Initiator.FeeMargins) (s : ChainState)
    (label : StateChange × List Event) (s' : ChainState) : Prop :=
  Admissible s label.1 ∧ Next P M s label s'

/-- In every run with admissible registrations the lists of the registries have
no duplicates and hold the networks known by address, tokens and networks are
inverse to each other, and the node knows the registry of exactly the networks
of its registries. -/
theorem registry_indexes_agree {s₀ s : ChainState} {log : List (StateChange × List Event)}
    (h₀ : Fresh s₀) (hrun : Run (AdmissibleNext P M) s₀ log s) :
    (∀ address reg, s.identifiersToTokennetworkregistries.get? address = some reg →
      reg.tokenNetworkList.Nodup ∧ (∀ ref, ref ∈ reg.tokenNetworkList ↔
        ref ∈ reg.tokennetworkaddressesToTokennetworks.values) ∧
      ∀ token network, reg.tokenaddressesToTokennetworkaddresses.get? token = some network ↔
        ∃ ref net, reg.tokennetworkaddressesToTokennetworks.get? network = some ref ∧
          s.tokenNetworks[ref.object]? = some net ∧ net.tokenAddress = token) ∧ ∀ network address,
      s.tokennetworkaddressesToTokennetworkregistryaddresses.get? network = some address ↔
        ∃ reg, s.identifiersToTokennetworkregistries.get? address = some reg ∧
          network ∈ reg.tokennetworkaddressesToTokennetworks := by
  have h : RegistriesConsistent s :=
    hrun.invariant h₀.registriesConsistent fun _ _ _ h hstep => h.next hstep.1 hstep.2
  refine ⟨fun address reg hget => ?_, fun network address => h.networks⟩
  have hlisted := h.listed hget
  refine ⟨hlisted.nodup, fun ref => ?_, fun token network => hlisted.token⟩
  rw [hlisted.listed, Dict.mem_values_iff]
  constructor
  · exact fun href => ⟨_, href⟩
  · rintro ⟨network, href⟩
    rw [hlisted.keyed href]
    exact href

end Steps

def toyMargins : Initiator.FeeMargins where
  margin amount fee := some (fee * 3 / 100 + amount / 2000 + 1)
  maxFee amount := some (amount / 5)

def toyChainState : ChainState where
  blockNumber := 1
  blockHash := []
  ourAddress := 1
  chainId := 1

theorem toyChainState_fresh : Fresh toyChainState := ⟨rfl, rfl, rfl, rfl, rfl, rfl⟩

def newToyRegistry : StateChange := .contractReceiveNewTokenNetworkRegistry ⟨7, []⟩

def newToyTokenNetwork : StateChange := .contractReceiveNewTokenNetwork ⟨7, TokenNetwork.toyTokenNetwork⟩

/-- The registry is reported, and then its token network twice. -/
theorem registry_indexes_agree_after_replay : ∃ log s,
    Run (AdmissibleNext Channel.toyPrimitives toyMargins) toyChainState log s ∧
      s.tokennetworkaddressesToTokennetworkregistryaddresses.get? 9 = some 7 ∧
      ∃ reg, s.identifiersToTokennetworkregistries.get? 7 = some reg ∧
        reg.tokenNetworkList = [⟨0, 9⟩] ∧ reg.tokenNetworkList.Nodup := by
  let s₁ : ChainState := { toyChainState with
    identifiersToTokennetworkregistries := Dict.empty.set 7 { address := 7 } }
  let reg : TokenNetworkRegistryState :=
    TokenNetworkRegistryState.addTokenNetwork { address := 7 } ⟨0, 9⟩ 8
  let s₂ : ChainState := { s₁ with
    tokenNetworks := [TokenNetwork.toyTokenNetwork]
    identifiersToTokennetworkregistries := s₁.identifiersToTokennetworkregistries.set 7 reg
    tokennetworkaddressesToTokennetworkregistryaddresses := Dict.empty.set 9 7 }
  have h₁ : AdmissibleNext Channel.toyPrimitives toyMargins toyChainState (newToyRegistry, []) s₁ :=
    ⟨.inr rfl, .of_advance 0 rfl⟩
  have h₂ : AdmissibleNext Channel.toyPrimitives toyMargins s₁ (newToyTokenNetwork, []) s₂ :=
    ⟨⟨_, rfl, .inr (by decide)⟩, .of_advance 0 rfl⟩
  have h₃ : AdmissibleNext Channel.toyPrimitives toyMargins s₂ (newToyTokenNetwork, []) s₂ :=
    ⟨⟨reg, rfl, .inl (by decide)⟩, .of_advance 0 rfl⟩
  have hrun := (((Run.start toyChainState).step h₁).step h₂).step h₃
  have hagree := registry_indexes_agree toyChainState_fresh hrun
  exact ⟨_, s₂, hrun, rfl, reg, rfl, rfl, (hagree.1 7 reg rfl).1⟩

/-- The registry of address 7, if there is one. -/
def foundRegistry (s : ChainState) : Option TokenNetworkRegistryState :=
  s.identifiersToTokennetworkregistries.get? 7

/-- A token network of a registry the node does not know yet is listed twice,
and a registry that arrives with a token network leaves the node without the
registry of that network. -/
theorem registry_indexes_disagree :
    (∃ s, Next Channel.toyPrimitives toyMargins toyChainState (newToyTokenNetwork, []) s ∧
      (foundRegistry s).map TokenNetworkRegistryState.tokenNetworkList = some [⟨0, 9⟩, ⟨0, 9⟩]) ∧
    ∃ s, Next Channel.toyPrimitives toyMargins toyChainState
        (.contractReceiveNewTokenNetworkRegistry ⟨7, [TokenNetwork.toyTokenNetwork]⟩, []) s ∧
      (foundRegistry s).map (fun reg => reg.tokennetworkaddressesToTokennetworks.keys) = some [9] ∧
      s.tokennetworkaddressesToTokennetworkregistryaddresses.get? 9 = none :=
  ⟨⟨maybeAddTokennetwork toyChainState 7 TokenNetwork.toyTokenNetwork, .of_advance 0 rfl, rfl⟩,
    ⟨(handleContractReceiveNewTokenNetworkRegistry toyChainState
      ⟨7, [TokenNetwork.toyTokenNetwork]⟩).newState, .of_advance 0 rfl, rfl, rfl⟩⟩

end Raiden.Node
