import Mathlib.Data.List.TakeWhile
import Raiden.Mediator.Execution

/-! # Expirations a mediator receives

A payer says that its lock expired. The mediator hands the message to the payer
channel of every pair and of the waiting transfer. The loop returns at the first
pair whose payer channel is gone: what was applied before it is not acknowledged,
and the channels after it are not asked. -/
namespace Raiden.Mediator

open Lib Channel

variable (P : Primitives) (net : TokenNetworkRef) {ref : ChannelRef} {cs' : Channels}
  {refs : List ChannelRef} {c' : NettingChannelState}

def AcceptsExpiration (change : ReceiveLockExpired) (now : Nat) (c : NettingChannelState) : Prop :=
  (isValidLockExpired P change c c.partnerState c.ourState now).isOk = true

/-- The channel after the expiration, whether it accepted it or not. -/
def afterExpiration (change : ReceiveLockExpired) (now : Nat) (c : NettingChannelState) :
    NettingChannelState :=
  (handleReceiveLockExpired P c change now none).newState

/-- The pairs the loop comes to. -/
def visitedPairs (cs : Channels) (pairs : List MediationPairState) : List MediationPairState :=
  pairs.takeWhile fun pair => (getPayerChannel net cs pair).isSome

inductive HoldsPayerLock (st : MediatorTransferState) (hash : SecretHash) (ref : ChannelRef) :
    Prop
  | pair {pair : MediationPairState} (member : pair ∈ st.transfersPair)
      (lock : pair.payerTransfer.lock.secrethash = hash)
      (ref_eq : ref = payerRef net pair) : HoldsPayerLock st hash ref
  | waiting {waiting : WaitingTransferState} (present : st.waitingTransfer = some waiting)
      (lock : waiting.transfer.lock.secrethash = hash)
      (ref_eq : ref = waitingRef net waiting) : HoldsPayerLock st hash ref

section

variable (st : MediatorTransferState) (change : ReceiveLockExpired) (cs : Channels) (now : Nat)

/-- An expiration that some channel accepted is acknowledged, and every channel with
the payer lock that accepts it has it applied. -/
structure ExpirationHandled (r : Iteration MediatorTransferState) : Prop where
  acknowledged : ∀ ref c c', cs.get? ref = some c → r.channels.get? ref = some c' →
    c.partnerState.nonce < c'.partnerState.nonce →
    ∃ metadata, processed change.balanceProof.sender metadata change.messageIdentifier ∈ r.events
  applied : ∀ ref c, HoldsPayerLock net st change.secrethash ref →
    cs.get? ref = some c → AcceptsExpiration P change now c →
    r.channels.get? ref = some (afterExpiration P change now c)

def PayersPresent (st : MediatorTransferState) (cs : Channels) : Prop :=
  ∀ pair ∈ st.transfersPair, (getPayerChannel net cs pair).isSome = true

/-- No channel the loop comes to, and none with the payer lock, accepts the expiration. -/
def Unwanted : Prop :=
  ∀ ref c, (ref ∈ (visitedPairs net cs st.transfersPair).map (payerRef net) ∨
      HoldsPayerLock net st change.secrethash ref) →
    cs.get? ref = some c → ¬AcceptsExpiration P change now c

end

variable {P net} {sc : ReceiveLockExpired} {now : Nat} {cs : Channels}
  {c : NettingChannelState} {st : MediatorTransferState}

theorem handleReceiveLockExpired_newState (metadata : Option AddressMetadata) :
    (handleReceiveLockExpired P c sc now metadata).newState = afterExpiration P sc now c := by
  unfold afterExpiration handleReceiveLockExpired
  cases isValidLockExpired P sc c c.partnerState c.ourState now <;> rfl

theorem afterExpiration_of_not_accepts (h : ¬AcceptsExpiration P sc now c) :
    afterExpiration P sc now c = c := by
  unfold AcceptsExpiration at h
  unfold afterExpiration handleReceiveLockExpired
  cases hv : isValidLockExpired P sc c c.partnerState c.ourState now with
  | error msg => rfl
  | ok locks =>
    rw [hv] at h
    exact absurd rfl h

theorem AcceptsExpiration.nonce (h : AcceptsExpiration P sc now c) :
    sc.balanceProof.nonce = c.partnerState.nonce + 1 ∧
      (afterExpiration P sc now c).partnerState.nonce = c.partnerState.nonce + 1 := by
  unfold AcceptsExpiration at h
  unfold afterExpiration handleReceiveLockExpired
  cases hv : isValidLockExpired P sc c c.partnerState c.ourState now with
  | error msg =>
    rw [hv] at h
    cases h
  | ok locks =>
    obtain ⟨lock, haccepted⟩ := (isValidLockExpired_ok P).mp hv
    exact ⟨haccepted.usable.nonce, haccepted.usable.nonce⟩

/-- An expiration is accepted once, because its nonce is used up. -/
theorem afterExpiration_idem :
    afterExpiration P sc now (afterExpiration P sc now c) = afterExpiration P sc now c := by
  by_cases h : AcceptsExpiration P sc now c
  · refine afterExpiration_of_not_accepts fun hagain => ?_
    have hfirst := h.nonce
    have hsecond := hagain.nonce
    omega
  · rw [afterExpiration_of_not_accepts h, afterExpiration_of_not_accepts h]

theorem AcceptsExpiration.processed_mem (h : AcceptsExpiration P sc now c)
    (metadata : Option AddressMetadata) :
    processed sc.balanceProof.sender metadata sc.messageIdentifier ∈
      (handleReceiveLockExpired P c sc now metadata).events := by
  unfold AcceptsExpiration at h
  unfold handleReceiveLockExpired
  cases hv : isValidLockExpired P sc c c.partnerState c.ourState now with
  | error msg =>
    rw [hv] at h
    cases h
  | ok locks => exact List.mem_singleton.mpr rfl

section

variable (P : Primitives) (change : ReceiveLockExpired) (now : Nat) (refs : List ChannelRef)

def Handed (cs cs' : Channels) : Prop :=
  ∀ ref, cs'.get? ref =
    if ref ∈ refs then (cs.get? ref).map (afterExpiration P change now) else cs.get? ref

def AcceptedBy (cs : Channels) : Prop :=
  ∃ ref ∈ refs, ∃ c, cs.get? ref = some c ∧ AcceptsExpiration P change now c

end

theorem Handed.cons (found : cs.get? ref = some c)
    (h : Handed P sc now refs (cs.set ref (afterExpiration P sc now c))
      cs') : Handed P sc now (ref :: refs) cs cs' := by
  intro other
  rw [h other, Dict.get?_set]
  by_cases hother : other = ref
  · subst hother
    simp only [if_true, List.mem_cons, true_or, found, Option.map_some, afterExpiration_idem, ite_self]
  · simp only [hother, if_false, List.mem_cons, false_or]

theorem visitedPairs_set (found : cs.get? ref = some c) (pairs : List MediationPairState) :
    visitedPairs net (cs.set ref c') pairs = visitedPairs net cs pairs := by
  unfold visitedPairs
  congr 1
  funext pair
  rw [getPayerChannel, getPayerChannel, Dict.get?_set]
  by_cases hpair : payerRef net pair = ref
  · rw [if_pos hpair, hpair, found, Option.isSome_some, Option.isSome_some]
  · rw [if_neg hpair]

variable (P net sc now) in
/-- What the loop does to the channels, when it comes to its end, and that it reports
an acceptance. -/
theorem lockExpiredForPairs_handed (st : MediatorTransferState) (pairs : List MediationPairState)
    (cs : Channels) :
    let r := lockExpiredForPairs P net st sc now cs pairs
    let refs := (visitedPairs net cs pairs).map (payerRef net)
    Handed P sc now refs cs r.1 ∧
      (r.2.2.2 = true ↔ ∀ pair ∈ pairs, (getPayerChannel net cs pair).isSome = true) ∧
      (AcceptedBy P sc now refs cs →
        ∃ metadata, processed sc.balanceProof.sender metadata sc.messageIdentifier ∈ r.2.2.1) := by
  induction pairs generalizing cs with
  | nil => exact ⟨fun _ => rfl, by simp [lockExpiredForPairs], by rintro ⟨_, h, -⟩; cases h⟩
  | cons pair rest ih =>
    cases hc : getPayerChannel net cs pair with
    | none =>
      have hvisited : visitedPairs net cs (pair :: rest) = [] := by
        simp [visitedPairs, hc]
      simp only [lockExpiredForPairs, hc, hvisited, List.map_nil]
      refine ⟨fun _ => rfl, ⟨Bool.noConfusion, fun h => ?_⟩, by rintro ⟨_, h, -⟩; cases h⟩
      have hpresent := h pair List.mem_cons_self
      rw [hc] at hpresent
      cases hpresent
    | some c =>
      have hvisited : visitedPairs net cs (pair :: rest) =
          pair :: visitedPairs net cs rest := by
        simp [visitedPairs, hc]
      obtain ⟨hhanded, hfinished, hreported⟩ :=
        ih (cs.set (payerRef net pair) (afterExpiration P sc now c))
      rw [visitedPairs_set hc] at hhanded hreported
      simp only [lockExpiredForPairs, hc, hvisited, List.map_cons, handleReceiveLockExpired_newState]
      refine ⟨.cons hc hhanded, hfinished.trans ?_, ?_⟩
      · have hsame : ∀ other, (getPayerChannel net (cs.set (payerRef net pair)
            (afterExpiration P sc now c)) other).isSome = true ↔
            (getPayerChannel net cs other).isSome = true := by
          intro other
          rw [getPayerChannel, getPayerChannel, Dict.get?_set]
          split_ifs with hother
          · rw [hother, ← getPayerChannel, hc, Option.isSome_some, Option.isSome_some]
          · rfl
        simp only [hsame, List.forall_mem_cons, hc, Option.isSome_some, true_and]
      · rintro ⟨ref, href, other, hother, haccepts⟩
        by_cases hfirst : ref = payerRef net pair
        · subst hfirst
          cases hc.symm.trans hother
          exact ⟨_, List.mem_append_left _ (haccepts.processed_mem _)⟩
        · have hrest : ref ∈ (visitedPairs net cs rest).map (payerRef net) :=
            (List.mem_cons.mp href).resolve_left hfirst
          obtain ⟨metadata, hmem⟩ := hreported
            ⟨ref, hrest, other, (Dict.get?_set_ne _ _ hfirst).trans hother, haccepts⟩
          exact ⟨metadata, List.mem_append_right _ hmem⟩

def waitingRefs (net : TokenNetworkRef) (st : MediatorTransferState) : List ChannelRef :=
  st.waitingTransfer.toList.map (waitingRef net)

variable (P net sc now) in
theorem lockExpiredForWaiting_handed (st : MediatorTransferState) (cs : Channels) :
    let r := lockExpiredForWaiting P net st sc now cs
    Handed P sc now (waitingRefs net st) cs r.1 ∧
      (AcceptedBy P sc now (waitingRefs net st) cs →
        ∃ metadata, processed sc.balanceProof.sender metadata sc.messageIdentifier ∈ r.2) := by
  unfold lockExpiredForWaiting waitingRefs
  cases st.waitingTransfer with
  | none => exact ⟨fun _ => rfl, by rintro ⟨_, h, -⟩; cases h⟩
  | some waiting =>
    cases hc : cs.get? (waitingRef net waiting) with
    | none =>
      simp only [Option.toList_some, List.map_cons, List.map_nil, hc]
      refine ⟨fun ref => ?_, ?_⟩
      · split_ifs with href
        · rw [List.mem_singleton.mp href, hc, Option.map_none]
        · rfl
      · rintro ⟨_, href, c, hfound, -⟩
        cases List.mem_singleton.mp href
        cases hc.symm.trans hfound
    | some c =>
      simp only [Option.toList_some, List.map_cons, List.map_nil, hc, handleReceiveLockExpired_newState]
      refine ⟨.cons hc fun _ => rfl, ?_⟩
      rintro ⟨_, href, c', hfound, haccepts⟩
      cases List.mem_singleton.mp href
      cases hc.symm.trans hfound
      exact ⟨_, haccepts.processed_mem _⟩

theorem Handed.trans {refs' : List ChannelRef} {cs'' : Channels}
    (h : Handed P sc now refs cs cs') (h' : Handed P sc now refs' cs' cs'') :
    Handed P sc now (refs ++ refs') cs cs'' := by
  intro ref
  rw [h' ref, h ref]
  by_cases hfirst : ref ∈ refs <;> by_cases hsecond : ref ∈ refs'
  · simp only [hfirst, hsecond, if_true, List.mem_append, true_or, Option.map_map]
    congr 1
    funext c
    exact afterExpiration_idem
  all_goals simp only [hfirst, hsecond, if_true, if_false, List.mem_append, true_or, or_true, or_self]

theorem Handed.accepted (h : Handed P sc now refs cs cs')
    (found : cs.get? ref = some c) (found' : cs'.get? ref = some c')
    (hnonce : c.partnerState.nonce < c'.partnerState.nonce) :
    ref ∈ refs ∧ AcceptsExpiration P sc now c := by
  have hlookup := h ref
  rw [found', found] at hlookup
  split_ifs at hlookup with href
  · refine ⟨href, ?_⟩
    by_contra hrefused
    rw [Option.map_some, afterExpiration_of_not_accepts hrefused] at hlookup
    cases hlookup
    exact absurd hnonce (Nat.lt_irrefl _)
  · cases hlookup
    exact absurd hnonce (Nat.lt_irrefl _)

theorem visitedPairs_of_present (h : PayersPresent net st cs) :
    visitedPairs net cs st.transfersPair = st.transfersPair :=
  List.takeWhile_eq_self_iff.mpr h

theorem HoldsPayerLock.mem_refs {hash : SecretHash} (h : HoldsPayerLock net st hash ref) :
    ref ∈ st.transfersPair.map (payerRef net) ++ waitingRefs net st := by
  cases h with
  | pair member _ ref_eq => exact List.mem_append_left _ (List.mem_map.mpr ⟨_, member, ref_eq.symm⟩)
  | waiting present _ ref_eq =>
    refine List.mem_append_right _ (List.mem_map.mpr ⟨_, ?_, ref_eq.symm⟩)
    rw [present]
    exact List.mem_singleton.mpr rfl

/-- With all payer channels there, every one of them and the one of the waiting
transfer is handed the expiration, and an acceptance is acknowledged. -/
theorem handleLockExpired_of_present (h : PayersPresent net st cs) :
    ExpirationHandled P net st sc cs now (handleLockExpired P net st sc cs now) := by
  obtain ⟨hpairs, hfinished, hreported⟩ :=
    lockExpiredForPairs_handed P net sc now st st.transfersPair cs
  rw [visitedPairs_of_present h] at hpairs hreported
  have hend := hfinished.mpr h
  unfold handleLockExpired
  generalize lockExpiredForPairs P net st sc now cs st.transfersPair =
    looped at hpairs hreported hend
  obtain ⟨cs', pairs', es, finished⟩ := looped
  obtain rfl : finished = true := hend
  obtain ⟨hwaiting, hlast⟩ := lockExpiredForWaiting_handed P net sc now
    { st with transfersPair := pairs' } cs'
  have hall : Handed P sc now (st.transfersPair.map (payerRef net) ++
      waitingRefs net st) cs _ := hpairs.trans hwaiting
  constructor
  · intro ref c c' found found' hnonce
    obtain ⟨href, haccepts⟩ := hall.accepted found found' hnonce
    by_cases hfirst : ref ∈ st.transfersPair.map (payerRef net)
    · obtain ⟨metadata, hmem⟩ := hreported ⟨ref, hfirst, c, found, haccepts⟩
      exact ⟨metadata, List.mem_append_left _ hmem⟩
    · have hlater := (List.mem_append.mp href).resolve_left hfirst
      have hkept := hpairs ref
      rw [if_neg hfirst, found] at hkept
      obtain ⟨metadata, hmem⟩ := hlast ⟨ref, hlater, c, hkept, haccepts⟩
      exact ⟨metadata, List.mem_append_right _ hmem⟩
  · intro ref c hholds found _
    have hlookup := hall ref
    rw [if_pos hholds.mem_refs, found] at hlookup
    exact hlookup

/-- The expiration is handled exactly when no payer channel is gone or nobody who
counts would accept it. -/
theorem expiration_handled_iff (P : Primitives) (net : TokenNetworkRef)
    (st : MediatorTransferState) (change : ReceiveLockExpired) (cs : Channels) (now : Nat) :
    ExpirationHandled P net st change cs now (handleLockExpired P net st change cs now) ↔
      PayersPresent net st cs ∨ Unwanted P net st change cs now := by
  by_cases hpresent : PayersPresent net st cs
  · exact ⟨fun _ => .inl hpresent, fun _ => handleLockExpired_of_present hpresent⟩
  obtain ⟨hpairs, hfinished, -⟩ :=
    lockExpiredForPairs_handed P net change now st st.transfersPair cs
  have hend : (lockExpiredForPairs P net st change now cs
      st.transfersPair).2.2.2 = false :=
    Bool.eq_false_iff.mpr fun hend => hpresent (hfinished.mp hend)
  unfold handleLockExpired
  simp only [hend, if_true]
  constructor
  · intro h
    refine .inr fun ref c href found haccepts => ?_
    have hnonce := haccepts.nonce.2
    have hlookup := hpairs ref
    by_cases hvisited : ref ∈ (visitedPairs net cs st.transfersPair).map
        (payerRef net)
    · rw [if_pos hvisited, found, Option.map_some] at hlookup
      obtain ⟨_, hmem⟩ := h.acknowledged ref c _ found hlookup (by omega)
      cases hmem
    · rw [if_neg hvisited, found] at hlookup
      have happlied := h.applied ref c (href.resolve_left hvisited) found haccepts
      rw [← Option.some.inj (hlookup.symm.trans happlied)] at hnonce
      omega
  · intro h
    have hunwanted := h.resolve_left hpresent
    constructor
    · intro ref c c' found found' hnonce
      obtain ⟨href, haccepts⟩ := hpairs.accepted found found' hnonce
      exact absurd haccepts (hunwanted ref c (.inl href) found)
    · intro ref c hholds found haccepts
      exact absurd haccepts (hunwanted ref c (.inr hholds) found)

/-- A pair whose payer transfer came from `payer` over the channel. -/
def toyPair (channelIdentifier : ChannelID) (payer payee : Address) : MediationPairState where
  payerTransfer := toyReceived channelIdentifier payer (toyLockUntil 40 50 7) 50
  payeeAddress := payee
  payeeTransfer := {
    paymentIdentifier := 1
    token := 8
    lock := toyLockUntil 40 50 7
    initiator := 2
    target := 4
    balanceProof := ⟨1, 0, 50, [], ⟨1, 9, 3⟩, by decide, by decide, by decide, by decide⟩ }

def refundedState : MediatorTransferState where
  secrethash := 7
  routes := []
  transfersPair := [toyPair 1 2 3, toyPair 2 3 5]

def refundedChannels : Channels :=
  Dict.empty.set (toyRef 1) (handleReceiveLockedtransfer toyPrimitives (toyChannelWith 1 2 50)
    (toyReceived 1 2 (toyLockUntil 40 50 7) 50) none).1

def payerExpired : ReceiveLockExpired where
  sender := 2
  balanceProof := { toyBalanceProof 1 0 0 [] with canonicalIdentifier := ⟨1, 9, 1⟩ }
  secrethash := 7
  messageIdentifier := 4

/-- The payer channel takes the expiration, and nothing is sent. -/
theorem accepted_expiration_not_acknowledged :
    let r := handleLockExpired toyPrimitives toyTokenNetwork refundedState payerExpired refundedChannels 60
    r.events = [] ∧ (refundedChannels.get? (toyRef 1)).map (·.partnerState.nonce) = some 1 ∧
      (r.channels.get? (toyRef 1)).map (·.partnerState.nonce) = some 2 := by
  decide +kernel

end Raiden.Mediator
