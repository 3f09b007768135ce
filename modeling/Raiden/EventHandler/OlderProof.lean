import Raiden.Channel.OwnLocks
import Raiden.EventHandler.NamedChannel

/-! # Settlement with an older balance proof

A channel can be settled with a balance proof of the partner that is not the
latest. Its locks are then those of an older state of the channel, and which of
them were registered on-chain has to be read from both states. A registration
counts if the channel handled it while it had the lock and did not give the
entry away afterwards for an unlock off-chain. -/
namespace Raiden.Channel

open Lib

variable {P : Primitives} {c c' : NettingChannelState} {op : ChannelOp} {es : List Event}
  {e e' : NettingChannelEndState} {k : SecretHash} {lock : HashTimeLockState} {secret : Secret}

def AcceptsUnlock (P : Primitives) (c : NettingChannelState) (k : SecretHash) : ChannelOp → Bool
  | .receiveUnlock unlock _ =>
    unlock.secrethash P = k ∧ (isValidUnlock P unlock c c.partnerState).isOk = true
  | _ => false

def RegistersOnchain (k : SecretHash) : ChannelOp → Bool
  | .registerOnchainSecret _ hash _ => hash = k
  | _ => false

theorem Step.partner_onchain_eq (h : Step P c (op, es) c') (ht : Tracked c.ourState)
    (hunlock : AcceptsUnlock P c k op = false) (hregister : RegistersOnchain k op = false) :
    c'.partnerState.secrethashesToOnchainUnlockedlocks.get? k =
      c.partnerState.secrethashesToOnchainUnlockedlocks.get? k := by
  by_cases hk : op.secrethash P = some k
  · by_cases hsend : op.isSend = true
    · rw [h.partner_eq hsend]
    · cases h.outcome with
      | handled => cases hk
      | sentTransfer | sentUnlock | unexpired | sentExpired => exact absurd rfl hsend
      | registeredOnchain => exact absurd (Option.some.inj hk) (of_decide_eq_false hregister)
      | registered =>
        simp only [Channel.registerOffchainSecret, registerSecretEndstate]
        split <;> rfl
      | refused | receivedTransfer | receivedRefund | receivedExpired => rfl
      | receivedUnlock facts =>
        have hvalid := (isValidUnlock_ok P).mpr ⟨_, facts⟩
        refine absurd ⟨Option.some.inj hk, ?_⟩ (of_decide_eq_false hunlock)
        rw [hvalid]
        rfl
  · exact (h.sameLocksAt ht hk).2.onchain

theorem registerOnchain_in_time {now : Nat} (hd : MapsDisjoint e)
    (hlock : HasLock e k lock) (htime : now ≤ lock.expiration)
    (h : registerOnchainSecretEndstate e secret k now = .ok e') :
    ∃ u, e'.secrethashesToOnchainUnlockedlocks.get? k = some u ∧ u.lock = lock := by
  cases hlock with
  | onchain hget hu =>
    rcases registerOnchainSecretEndstate_cases h with rfl | ⟨_, -, hmem | hmem, -⟩
    · exact ⟨_, hget, hu⟩
    · exact absurd (Dict.mem_of_get? hget) (hd.unlocked_onchain k hmem)
    · exact absurd (Dict.mem_of_get? hget) (hd.locked_onchain k hmem)
  | locked hget =>
    have hunlocked := Dict.not_mem_iff.mp (hd.locked_unlocked k (Dict.mem_of_get? hget))
    simp only [registerOnchainSecretEndstate, hunlocked, hget, Option.map_none, Option.none_or,
      if_neg (Nat.not_lt.mpr htime), seq_ok_iff, pure_eq_ok] at h
    obtain ⟨_, -, rfl⟩ := h
    exact ⟨_, Dict.get?_set_self _ _ _, rfl⟩
  | @unlocked u hget hu =>
    subst hu
    simp only [registerOnchainSecretEndstate, hget, Option.map_some, Option.some_or,
      if_neg (Nat.not_lt.mpr htime), seq_ok_iff, pure_eq_ok] at h
    obtain ⟨_, -, rfl⟩ := h
    exact ⟨_, Dict.get?_set_self _ _ _, rfl⟩

theorem registerOnchain_again {now : Nat} {u : UnlockPartialProofState}
    (hd : MapsDisjoint e) (hget : e.secrethashesToOnchainUnlockedlocks.get? k = some u)
    (h : registerOnchainSecretEndstate e secret k now = .ok e') :
    e'.secrethashesToOnchainUnlockedlocks.get? k = some u := by
  rcases registerOnchainSecretEndstate_cases h with rfl | ⟨_, -, hmem | hmem, -⟩
  · exact hget
  · exact absurd (Dict.mem_of_get? hget) (hd.unlocked_onchain k hmem)
  · exact absurd (Dict.mem_of_get? hget) (hd.locked_onchain k hmem)

end Raiden.Channel

namespace Raiden.EventHandler

open Lib Channel Storage

variable {P : Primitives}

/-! ## The updated lock information -/

section Update

variable {k : SecretHash}

theorem get?_moveUnlocked (entries : List (SecretHash × UnlockPartialProofState))
    (locks : Dict SecretHash HashTimeLockState × Dict SecretHash UnlockPartialProofState) :
    (entries.foldl moveUnlocked locks).2.get? k =
      if k ∈ locks.1 then ((entries.find? fun e => e.1 = k).map Prod.snd).or (locks.2.get? k)
      else locks.2.get? k := by
  induction entries generalizing locks with
  | nil => simp
  | cons entry entries ih =>
    rw [List.foldl_cons, ih, moveUnlocked]
    by_cases hentry : entry.1 = k
    · subst hentry
      by_cases hmem : entry.1 ∈ locks.1
      · rw [if_pos hmem, if_pos hmem, List.find?_cons_of_pos (by simp)]
        simp [Dict.mem_del]
      · simp [hmem]
    · have hne : k ≠ entry.1 := fun h => hentry h.symm
      rw [List.find?_cons_of_neg (by simpa using hentry)]
      by_cases hmem : entry.1 ∈ locks.1
      · simp [hmem, Dict.mem_del, Dict.get?_set_ne _ _ hne, hne]
      · rw [if_neg hmem]

theorem mem_lockAll {k : SecretHash} (entries : List (SecretHash × UnlockPartialProofState))
    (locked : Dict SecretHash HashTimeLockState) :
    k ∈ entries.foldl (fun locked entry => locked.set entry.1 entry.2.lock) locked ↔
      k ∈ locked ∨ k ∈ entries.map Prod.fst := by
  induction entries generalizing locked with
  | nil => simp
  | cons entry entries ih =>
    rw [List.foldl_cons, ih, Dict.mem_set, List.map_cons, List.mem_cons]
    tauto

theorem updateLockInfo_onchain (oldState newState : NettingChannelEndState) (chainState : ChainState) :
    (updateLockInfo oldState newState chainState).secrethashesToOnchainUnlockedlocks.get? k =
      if k ∈ oldState.secrethashesToLockedlocks ∨ k ∈ oldState.secrethashesToUnlockedlocks then
        (newState.secrethashesToOnchainUnlockedlocks.get? k).or
          (oldState.secrethashesToOnchainUnlockedlocks.get? k)
      else oldState.secrethashesToOnchainUnlockedlocks.get? k := by
  have hmoved := get?_moveUnlocked (k := k) newState.secrethashesToOnchainUnlockedlocks.entries
    (oldState.secrethashesToUnlockedlocks.entries.foldl
      (fun locked entry => locked.set entry.1 entry.2.lock) oldState.secrethashesToLockedlocks,
      oldState.secrethashesToOnchainUnlockedlocks)
  have hkeys : k ∈ oldState.secrethashesToUnlockedlocks.entries.map Prod.fst ↔
      k ∈ oldState.secrethashesToUnlockedlocks := Dict.mem_keys_iff
  simp only [mem_lockAll, hkeys] at hmoved
  exact hmoved

end Update

/-! ## Histories of a channel -/

/-- An operation on the channel, or a registration that the node sees and that no
task hands to the channel. -/
inductive HistoryEntry where
  | operation (op : ChannelOp) (es : List Event)
  | observed (hash : SecretHash) (now : Nat)

inductive Happens (P : Primitives) (c : NettingChannelState) : HistoryEntry → NettingChannelState → Prop
  | operation {op : ChannelOp} {es : List Event} {c' : NettingChannelState}
      (step : Step P c (op, es) c') : Happens P c (.operation op es) c'
  | observed (hash : SecretHash) (now : Nat) : Happens P c (.observed hash now) c

def ObservesInTime (lock : HashTimeLockState) : HistoryEntry → Prop
  | .operation (.registerOnchainSecret _ hash now) _ =>
    hash = lock.secrethash ∧ now ≤ lock.expiration
  | .operation .. => False
  | .observed hash now => hash = lock.secrethash ∧ now ≤ lock.expiration

section

variable (P : Primitives) (lock : HashTimeLockState) (c : NettingChannelState) (entry : HistoryEntry)

/-- The registration of the lock's secret is handed to the channel while it has
the lock, and a lock whose secret is registered is not unlocked off-chain. -/
def KeepsClaim : Prop :=
  match entry with
  | .operation op _ => NoReuse P c op ∧
    (ObservesInTime lock entry → HasLock c.partnerState lock.secrethash lock) ∧
    (lock.secrethash ∈ c.partnerState.secrethashesToOnchainUnlockedlocks →
      AcceptsUnlock P c lock.secrethash op = false)
  | .observed .. => ¬ObservesInTime lock entry

def KeepingStep (c' : NettingChannelState) : Prop :=
  KeepsClaim P lock c entry ∧ Happens P c entry c'

end

/-- The lock is known to be unlocked on-chain. -/
def Claimed (lock : HashTimeLockState) (c : NettingChannelState) : Prop :=
  ∃ u, c.partnerState.secrethashesToOnchainUnlockedlocks.get? lock.secrethash = some u ∧ u.lock = lock

section History

variable {lock : HashTimeLockState} {c c' : NettingChannelState} {entry : HistoryEntry}

theorem KeepingStep.channelLocks (h : KeepingStep P lock c entry c') (hc : ChannelLocks P c) :
    ChannelLocks P c' := by
  obtain ⟨hkeeps, hhappens⟩ := h
  cases hhappens with
  | operation step => exact step.channelLocks hkeeps.1 hc
  | observed => exact hc

/-- The registration of the lock's secret in time is recorded. -/
theorem KeepingStep.claims (h : KeepingStep P lock c entry c') (hc : ChannelLocks P c)
    (hobserves : ObservesInTime lock entry) : Claimed lock c' := by
  obtain ⟨hkeeps, hhappens⟩ := h
  cases hhappens with
  | observed => exact absurd hobserves hkeeps
  | @operation op es c' step =>
    have hheld := hkeeps.2.1 hobserves
    cases op with
    | registerOnchainSecret secret hash now =>
      obtain ⟨rfl, htime⟩ := hobserves
      cases step.outcome with
      | refused notice => cases notice
      | registeredOnchain our partner =>
        exact registerOnchain_in_time hc.partner.disjoint hheld htime partner
    | _ => exact hobserves.elim

theorem Claimed.next (hclaimed : Claimed lock c) (h : KeepingStep P lock c entry c') (hc : ChannelLocks P c) :
    Claimed lock c' := by
  obtain ⟨hkeeps, hhappens⟩ := h
  obtain ⟨u, hu, hlock⟩ := hclaimed
  cases hhappens with
  | observed => exact ⟨u, hu, hlock⟩
  | @operation op es c' step =>
    have hunlock := hkeeps.2.2 (Dict.mem_of_get? hu)
    by_cases hregister : RegistersOnchain lock.secrethash op = true
    · cases op with
      | registerOnchainSecret secret hash now =>
        obtain rfl : hash = lock.secrethash := of_decide_eq_true hregister
        cases step.outcome with
        | refused notice => cases notice
        | registeredOnchain our partner => exact ⟨u, registerOnchain_again hc.partner.disjoint hu partner, hlock⟩
      | _ => cases hregister
    · rw [Bool.not_eq_true] at hregister
      exact ⟨u, (step.partner_onchain_eq hc.ourTracked hunlock hregister).trans hu, hlock⟩

/-- A claim that a history starts with, or that it observes, is there at its end. -/
theorem claimed_of_run {log : List HistoryEntry} (h : Run (KeepingStep P lock) c log c')
    (hc : ChannelLocks P c) :
    ChannelLocks P c' ∧ (Claimed lock c ∨ (∃ entry ∈ log, ObservesInTime lock entry) → Claimed lock c') := by
  refine h.invariant_log (I := fun log c' => ChannelLocks P c' ∧
    (Claimed lock c ∨ (∃ entry ∈ log, ObservesInTime lock entry) → Claimed lock c')) ⟨hc, ?_⟩ ?_
  · rintro (hclaimed | ⟨_, hmem, -⟩)
    · exact hclaimed
    · cases hmem
  · rintro log d entry d' ⟨hd, hclaims⟩ hstep
    refine ⟨hstep.channelLocks hd, fun hor => ?_⟩
    by_cases hobserves : ObservesInTime lock entry
    · exact hstep.claims hd hobserves
    · refine (hclaims (hor.imp_right ?_)).next hstep hd
      rintro ⟨entry', hmem, hobs⟩
      rcases List.mem_append.mp hmem with hmem | hmem
      · exact ⟨entry', hmem, hobs⟩
      · exact absurd (List.mem_singleton.mp hmem ▸ hobs) hobserves

end History

/-! ## The unlock transaction -/

section Unlock

variable {raiden : RaidenService} {event : ContractSendChannelBatchUnlock} {chainState : ChainState}
  {c₁ c₂ : NettingChannelState} {lock : HashTimeLockState} {ident : ChannelID}

/-- The older state is what the handler restores for the locksroot of the settlement. -/
def Restores (raiden : RaidenService) (event : ContractSendChannelBatchUnlock)
    (c₁ c₂ : NettingChannelState) : Prop :=
  ∃ stateChangeIdentifier,
    getStateChangeWithBalanceProofByLocksroot raiden event.canonicalIdentifier
      c₂.partnerState.onchainLocksroot c₂.partnerState.address = some stateChangeIdentifier ∧
    channelStateUntilStateChange raiden event.canonicalIdentifier stateChangeIdentifier = .ok c₁

theorem gain_pos (hc : ChannelLocks P c₁) (hheld : HasLock c₁.partnerState lock.secrethash lock)
    (hamount : 0 < lock.amount) (hclaimed : Claimed lock c₁ ∨ Claimed lock c₂) :
    0 < (updateLockInfo c₁.partnerState c₂.partnerState
      chainState).secrethashesToOnchainUnlockedlocks.sum fun unlock => unlock.lock.amount := by
  have hfound : ∃ u, (updateLockInfo c₁.partnerState c₂.partnerState
      chainState).secrethashesToOnchainUnlockedlocks.get? lock.secrethash = some u ∧ u.lock = lock := by
    rw [updateLockInfo_onchain]
    cases hheld with
    | onchain hget hu =>
      have hmem := Dict.mem_of_get? hget
      rw [if_neg]
      · exact ⟨_, hget, hu⟩
      · rintro (hlocked | hunlocked)
        · exact hc.partner.disjoint.locked_onchain _ hlocked hmem
        · exact hc.partner.disjoint.unlocked_onchain _ hunlocked hmem
    | locked hget =>
      have hmem := Dict.mem_of_get? hget
      rcases hclaimed with ⟨u, hu, -⟩ | ⟨u, hu, hlock⟩
      · exact absurd (Dict.mem_of_get? hu) (hc.partner.disjoint.locked_onchain _ hmem)
      · rw [if_pos (.inl hmem), hu]
        exact ⟨u, rfl, hlock⟩
    | unlocked hget =>
      have hmem := Dict.mem_of_get? hget
      rcases hclaimed with ⟨u, hu, -⟩ | ⟨u, hu, hlock⟩
      · exact absurd (Dict.mem_of_get? hu) (hc.partner.disjoint.unlocked_onchain _ hmem)
      · rw [if_pos (.inr hmem), hu]
        exact ⟨u, rfl, hlock⟩
  obtain ⟨u, hu, rfl⟩ := hfound
  rw [Dict.sum_of_get? _ hu]
  omega

/-- The locksroot of a list with a lock in it is not that of no locks. -/
theorem locksroot_ne (hkeccak : ∀ bytes, P.keccak bytes = P.keccak [] → bytes = [])
    {locks : List EncodedData} {encoded : EncodedData} (h : encoded ∈ locks) :
    computeLocksroot P locks ≠ locksrootOfNoLocks P := by
  intro heq
  have hempty := List.flatMap_eq_nil_iff.mp (hkeccak _ heq) encoded h
  exact absurd (congrArg List.length hempty) (by simp [wordBytes])

theorem unlockPartner_sends (hroot : c₂.partnerState.onchainLocksroot ≠ locksrootOfNoLocks P)
    (hrestores : Restores raiden event c₁ c₂)
    (hgain : 0 < (updateLockInfo c₁.partnerState c₂.partnerState
      chainState).secrethashesToOnchainUnlockedlocks.sum fun unlock => unlock.lock.amount) :
    unlockPartner P raiden event chainState ident c₂ =
      .ok [⟨ident, c₂.partnerState.address, c₂.ourState.address, c₁.partnerState.pendingLocks,
        event.triggeredByBlockHash⟩] := by
  obtain ⟨stateChangeIdentifier, hfound, hrestored⟩ := hrestores
  simp only [unlockPartner, if_neg hroot, hfound, hrestored]
  exact if_pos hgain

theorem sent_of_unlockPartner {transactions : List UnlockTransaction}
    (h : unlockPartner P raiden event chainState ident c₂ = .ok transactions) :
    ∃ later, (unlockChannel P raiden event chainState ident c₂).sent = transactions ++ later := by
  unfold unlockChannel
  rw [h]
  dsimp only
  split
  · exact ⟨[], (List.append_nil _).symm⟩
  · exact ⟨_, rfl⟩

end Unlock

/-- In every history that keeps the claim to a lock of an older balance proof,
the batch unlock after a settlement with that proof sends the unlock transaction
with the pending locks of the proof, if the channel is the partner's last usable one. -/
theorem older_proof_is_claimed (hkeccak : ∀ bytes, P.keccak bytes = P.keccak [] → bytes = [])
    {c₀ c₁ c₂ : NettingChannelState} {log₁ log₂ : List HistoryEntry} {lock : HashTimeLockState}
    {bp : BalanceProofSignedState} {raiden : RaidenService} {event : ContractSendChannelBatchUnlock}
    {chainState : ChainState} {net : TokenNetworkState} {ref : ChannelRef}
    {named : NettingChannelState} (h₀ : Fresh c₀)
    (h₁ : Run (KeepingStep P lock) c₀ log₁ c₁) (h₂ : Run (KeepingStep P lock) c₁ log₂ c₂)
    (hproof : c₁.partnerState.balanceProof = some (.signed bp))
    (hpending : lock.encoded ∈ c₁.partnerState.pendingLocks) (hamount : 0 < lock.amount)
    (hobserved : ∃ entry ∈ log₁ ++ log₂, ObservesInTime lock entry)
    (hsettled : c₂.partnerState.onchainLocksroot = bp.locksroot)
    (hnames : NamesSettled chainState event net c₂)
    (hlast : lastUsable net event.sender = some event.canonicalIdentifier.channelIdentifier)
    (hnamed : ChainState.Views.getChannelstateByCanonicalIdentifier raiden.chainState
      event.canonicalIdentifier = some (ref, named)) (hrestores : Restores raiden event c₁ c₂) :
    bp.locksroot = computeLocksroot P c₁.partnerState.pendingLocks ∧
      ⟨named.identifier, c₂.partnerState.address, c₂.ourState.address, c₁.partnerState.pendingLocks,
        event.triggeredByBlockHash⟩ ∈ (handleContractSendChannelunlock P raiden event chainState).sent := by
  have hlocks₀ : ChannelLocks P c₀ :=
    ⟨h₀.our.tracked, h₀.partner.tracked, h₀.our.locksConsistent, h₀.partner.locksConsistent⟩
  obtain ⟨hlocks₁, hclaims₁⟩ := claimed_of_run h₁ hlocks₀
  obtain ⟨-, hclaims₂⟩ := claimed_of_run h₂ hlocks₁
  have hclaimed : Claimed lock c₁ ∨ Claimed lock c₂ := by
    obtain ⟨entry, hmem, hobserves⟩ := hobserved
    rcases List.mem_append.mp hmem with hmem | hmem
    · exact .inl (hclaims₁ (.inr ⟨entry, hmem, hobserves⟩))
    · exact .inr (hclaims₂ (.inr ⟨entry, hmem, hobserves⟩))
  have hroot : bp.locksroot = computeLocksroot P c₁.partnerState.pendingLocks := by
    rw [hlocks₁.partner.locksroot, provenLocksroot, hproof]
    rfl
  refine ⟨hroot, ?_⟩
  have hheld := hlocks₁.partner.hasLock hlocks₁.partnerTracked hpending
  have hsome : c₂.partnerState.onchainLocksroot ≠ locksrootOfNoLocks P := by
    rw [hsettled, hroot]
    exact locksroot_ne hkeccak hpending
  have hsends : unlockPartner P raiden event chainState named.identifier c₂ = .ok _ :=
    unlockPartner_sends hsome hrestores (gain_pos hlocks₁ hheld hamount hclaimed)
  obtain ⟨later, hsent⟩ := sent_of_unlockPartner hsends
  obtain ⟨networkRef, hnetwork⟩ := hnames.network
  have hfound : ChainState.Views.getChannelstateByTokenNetworkAndPartner chainState
      event.canonicalIdentifier.tokenNetworkAddress event.sender = .ok (some c₂) := by
    rw [byPartner_eq hnetwork fun identifier hmem => ?_, hlast, Option.bind_some, hnames.channel]
    obtain ⟨d, hd, -⟩ := hnames.indexed.known hmem
    exact ⟨d, hd⟩
  unfold handleContractSendChannelunlock
  rw [hnamed]
  dsimp only
  rw [hfound]
  dsimp only
  rw [hsent]
  exact List.mem_append_left _ List.mem_cons_self

/-- The channel after an operation that returns. -/
def toyAfter (c : NettingChannelState) (op : ChannelOp) : NettingChannelState :=
  (op.next toyPrimitives 0 c).getD c

theorem toyAfter_step (c : NettingChannelState) (op : ChannelOp)
    (h : (op.next toyPrimitives 0 c).isSome = true) :
    ∃ es, Step toyPrimitives c (op, es) (toyAfter c op) := by
  obtain ⟨c', hc'⟩ := Option.isSome_iff_exists.mp h
  have heq : toyAfter c op = c' := by rw [toyAfter, hc', Option.getD_some]
  rw [heq]
  exact op.next_step toyPrimitives hc'

def toyReceive : ChannelOp := .receiveLockedtransfer Target.toyInit.transfer none
def toyRegister : ChannelOp := .registerOnchainSecret [7] 7 5

/-- The settlement with the locksroot of the first transfer. -/
def toySettle : ChannelOp :=
  .stateChange (.contractReceiveChannelSettled ⟨60, [], toyIdentifier, [], 0,
    (toyBalanceProof 0 0 50 [toyLock 50 7]).locksroot, 0⟩) 60 []

def toyWithLock : NettingChannelState := toyAfter (toyChannel 10 100) toyReceive
def toyRegistered : NettingChannelState := toyAfter toyWithLock toyRegister
def toySettledWithLock : NettingChannelState := toyAfter toyRegistered toySettle

def toyNodeWith (c : NettingChannelState) : ChainState := Node.maybeAddTokennetwork
  { Node.toyChainState with identifiersToTokennetworkregistries := Dict.empty.set 7 { address := 7 } }
  7 (TokenNetwork.handleChannelnew TokenNetwork.toyTokenNetwork c).newState

/-- The state right after the transfer is restored. -/
def toyRestoring : RaidenService where
  chainId := 1
  chainState := toyNodeWith toySettledWithLock
  stateChanges := [(4, .actionInitTarget Target.toyInit)]
  events := []
  restoreState _ := .ok (some (toyNodeWith toyWithLock))

theorem registered_lock_is_claimed :
    ⟨1, 2, 1, [(toyLock 50 7).encoded], []⟩ ∈ (handleContractSendChannelunlock toyPrimitives toyRestoring
      toyBatchUnlock (toyNodeWith toySettledWithLock)).sent := by
  obtain ⟨es₁, hreceive⟩ := toyAfter_step (toyChannel 10 100) toyReceive (by decide +kernel)
  obtain ⟨es₂, hregister⟩ := toyAfter_step toyWithLock toyRegister (by decide +kernel)
  obtain ⟨es₃, hsettle⟩ := toyAfter_step toyRegistered toySettle (by decide +kernel)
  have hheld : HasLock toyWithLock.partnerState (toyLock 50 7).secrethash (toyLock 50 7) :=
    .locked (by decide +kernel)
  have h₁ : Run (KeepingStep toyPrimitives (toyLock 50 7)) (toyChannel 10 100)
      [.operation toyReceive es₁] toyWithLock :=
    .step (.start _) ⟨⟨by decide +kernel, nofun, fun _ => rfl⟩, .operation hreceive⟩
  have h₂ : Run (KeepingStep toyPrimitives (toyLock 50 7)) toyWithLock
      [.operation toyRegister es₂, .operation toySettle es₃] toySettledWithLock :=
    .step (.step (.start _) ⟨⟨by decide +kernel, fun _ => hheld, fun _ => rfl⟩, .operation hregister⟩)
      ⟨⟨by decide +kernel, nofun, fun _ => rfl⟩, .operation hsettle⟩
  have hindexed : TokenNetwork.Indexed
      (TokenNetwork.handleChannelnew TokenNetwork.toyTokenNetwork toySettledWithLock).newState :=
    (TokenNetwork.Empty.indexed ⟨rfl, rfl⟩ : TokenNetwork.Indexed TokenNetwork.toyTokenNetwork).add
      (Dict.not_mem_empty _)
  have hobserved : ∃ entry ∈ [HistoryEntry.operation toyReceive es₁] ++
      [.operation toyRegister es₂, .operation toySettle es₃], ObservesInTime (toyLock 50 7) entry :=
    ⟨.operation toyRegister es₂, by simp, rfl, by decide⟩
  have hproof : toyWithLock.partnerState.balanceProof =
      some (.signed (toyBalanceProof 0 0 50 [toyLock 50 7])) := by decide +kernel
  have hnames : NamesSettled (toyNodeWith toySettledWithLock) toyBatchUnlock
      (TokenNetwork.handleChannelnew TokenNetwork.toyTokenNetwork toySettledWithLock).newState
      toySettledWithLock :=
    ⟨⟨⟨0, 9⟩, rfl⟩, hindexed, rfl, by decide +kernel, by decide +kernel⟩
  have hrestores : Restores toyRestoring toyBatchUnlock toyWithLock toySettledWithLock :=
    ⟨4, by decide +kernel, rfl⟩
  have hsent := (older_proof_is_claimed (fun _ h => h) (toyChannel_fresh 10 100) h₁ h₂ hproof
    (by decide +kernel) (by decide) hobserved (by decide +kernel) hnames (by decide +kernel) rfl hrestores).2
  exact hsent

/-- The secret is registered on-chain, the partner unlocks the lock off-chain, and
the channel is settled with the balance proof from before. -/
def toyUnlockedAndSettled : List StateChange :=
  [.contractReceiveSecretReveal ⟨5, [], 0, 7, [7]⟩,
    .receiveUnlock {
      sender := 2
      messageIdentifier := 3
      secret := [7]
      balanceProof := toyBalanceProof 1 50 0 [] },
    .contractReceiveChannelClosed ⟨6, [], 2, toyIdentifier⟩,
    .contractReceiveChannelSettled ⟨60, [], toyIdentifier, [], 0,
      (toyBalanceProof 0 0 50 [toyLock 50 7]).locksroot, 0⟩]

def sawRegistered (lock : HashTimeLockState) (log : List (StateChange × List Event)) : Bool :=
  log.any fun entry => match entry.1 with
    | .contractReceiveSecretReveal change =>
      change.secrethash = lock.secrethash ∧ change.blockNumber ≤ lock.expiration
    | _ => false

def namedIn (s : ChainState) (identifier : CanonicalIdentifier) : Option NettingChannelState :=
  (ChainState.Views.getChannelstateByCanonicalIdentifier s identifier).map Prod.snd

/-- The lock of the proof the channel was settled with was registered in time,
but the entry was given away for the unlock off-chain, and nothing is sent. -/
theorem unlocked_registration_is_lost :
    ∃ log s c₁ c₂, Run (Node.Next toyPrimitives Node.toyMargins) Node.toyChainState log s ∧
      sawRegistered (toyLock 50 7) log = true ∧ asksForUnlock log = true ∧
      namedIn (toyStateAfter toyTransferReceived) toyIdentifier = some c₁ ∧
      c₁.partnerState.balanceProof = some (.signed (toyBalanceProof 0 0 50 [toyLock 50 7])) ∧
      (toyLock 50 7).encoded ∈ c₁.partnerState.pendingLocks ∧
      namedIn s toyIdentifier = some c₂ ∧ getStatus c₂ = .settled ∧
      c₂.partnerState.onchainLocksroot = (toyBalanceProof 0 0 50 [toyLock 50 7]).locksroot ∧
      Restores (toyService s) toyBatchUnlock c₁ c₂ ∧
      handleContractSendChannelunlock toyPrimitives (toyService s) toyBatchUnlock s = ⟨[], none⟩ := by
  have hrestored : (namedIn (toyStateAfter toyTransferReceived) toyIdentifier).any (fun c =>
      c.partnerState.balanceProof = some (.signed (toyBalanceProof 0 0 50 [toyLock 50 7])) ∧
        (toyLock 50 7).encoded ∈ c.partnerState.pendingLocks) = true := by
    decide +kernel
  have hexec : (execute (Node.advance toyPrimitives Node.toyMargins 0)
      (toyTransferReceived ++ toyUnlockedAndSettled) ([], Node.toyChainState)).any (fun finish =>
        sawRegistered (toyLock 50 7) finish.1 && asksForUnlock finish.1 &&
        (namedIn finish.2 toyIdentifier).any fun c => getStatus c = .settled ∧
          c.partnerState.onchainLocksroot = (toyBalanceProof 0 0 50 [toyLock 50 7]).locksroot ∧
          getStateChangeWithBalanceProofByLocksroot (toyService finish.2) toyIdentifier
            c.partnerState.onchainLocksroot c.partnerState.address = some 4 ∧
          handleContractSendChannelunlock toyPrimitives (toyService finish.2) toyBatchUnlock finish.2 =
            ⟨[], none⟩) = true := by
    decide +kernel
  obtain ⟨c₁, hc₁, hproof⟩ := (Option.any_eq_true _ _).mp hrestored
  obtain ⟨hbp, hpending⟩ := of_decide_eq_true hproof
  obtain ⟨log, s, hrun, hfinish⟩ := Node.exists_run hexec
  simp only [Bool.and_eq_true, Option.any_eq_true] at hfinish
  obtain ⟨⟨hsaw, hasks⟩, c₂, hc₂, hfacts⟩ := hfinish
  obtain ⟨hsettled, hroot, hfound, hhandled⟩ := of_decide_eq_true hfacts
  refine ⟨log, s, c₁, c₂, hrun, hsaw, hasks, hc₁, hbp, hpending, hc₂, hsettled, hroot,
    ⟨4, hfound, ?_⟩, hhandled⟩
  obtain ⟨found, hview, rfl⟩ := Option.map_eq_some_iff.mp hc₁
  show channelStateUntilStateChange (toyService s) toyIdentifier 4 = .ok found.2
  unfold channelStateUntilStateChange
  dsimp only [toyService]
  rw [hview]

end Raiden.EventHandler
