import Mathlib.Data.Option.Basic
import Raiden.Channel.Life
import Raiden.Task

/-! # How payment tasks change the store of channels

A task changes a channel only by the operations of `Channel.Step`. `Evolves`
is a sequence of such operations on channels of the store, restricted to those
a task uses at that point; what they do to one channel carries over to the
store. -/
namespace Raiden

open Lib Channel

/-- The store changes by operations that satisfy `A`. -/
inductive Evolves (P : Primitives) (A : ChannelRef → NettingChannelState → ChannelOp → Prop)
    (s : Channels) : Channels → Prop
  | refl : Evolves P A s s
  | step {t : Channels} {ref : ChannelRef} {c c' : NettingChannelState} {op : ChannelOp}
      {es : List Event} (past : Evolves P A s t) (found : t.get? ref = some c)
      (allowed : A ref c op) (last : Step P c (op, es) c') : Evolves P A s (t.set ref c')

/-- The operations a task calls. -/
def LockOp (_ : ChannelRef) (_ : NettingChannelState) (op : ChannelOp) : Prop := op.isLockOp = true

/-- The secrethash of a message or an on-chain log about one payment. -/
def PaymentStateChange.secrethash? (P : Primitives) : PaymentStateChange → Option SecretHash
  | .receiveSecretRequest change => some change.secrethash
  | .receiveSecretReveal change => some (change.secrethash P)
  | .receiveUnlock change => some (change.secrethash P)
  | .receiveLockExpired change => some change.secrethash
  | .contractReceiveSecretReveal change => some change.secrethash
  | _ => none

/-- The operations a task calls for a state change: if it is about one payment,
they are about that payment too. -/
def TaskOp (P : Primitives) (change : PaymentStateChange) (_ : ChannelRef) (_ : NettingChannelState)
    (op : ChannelOp) : Prop :=
  op.isLockOp = true ∧ ∀ hash, change.secrethash? P = some hash →
    op.secrethash P = some hash

theorem Evolves.task {P : Primitives} {sc : PaymentStateChange} {s t : Channels} {ref : ChannelRef}
    {c c' : NettingChannelState} {op : ChannelOp} {es : List Event}
    (past : Evolves P (TaskOp P sc) s t) (found : t.get? ref = some c)
    (last : Step P c (op, es) c') (hop : op.isLockOp = true)
    (hsame : op.secrethash P = sc.secrethash? P) : Evolves P (TaskOp P sc) s (t.set ref c') :=
  past.step found ⟨hop, fun _ h => hsame.trans h⟩ last

/-- What a task did with a state change: operations on its channels, and an
on-chain reveal is not answered by another registration. -/
structure Performed (P : Primitives) (change : PaymentStateChange) (cs cs' : Channels)
    (es : List Event) : Prop where
  evolves : Evolves P (TaskOp P change) cs cs'
  unregistered : ∀ reveal, change = .contractReceiveSecretReveal reveal →
    ∀ event ∈ es, isRegistration event = false

theorem Performed.nothing (P : Primitives) (sc : PaymentStateChange) (cs : Channels) :
    Performed P sc cs cs [] :=
  ⟨.refl, nofun⟩

def StoreRel (R : NettingChannelState → NettingChannelState → Prop) (s t : Channels) : Prop :=
  ∀ ref, Option.Rel R (s.get? ref) (t.get? ref)

section StoreRel

variable {R : NettingChannelState → NettingChannelState → Prop} {s t u : Channels} {ref : ChannelRef}
  {c c' : NettingChannelState}

theorem StoreRel.refl (hR : ∀ c, R c c) (s : Channels) : StoreRel R s s :=
  fun ref => .refl hR (s.get? ref)

theorem StoreRel.set (hR : ∀ c, R c c) (found : s.get? ref = some c) (h : R c c') :
    StoreRel R s (s.set ref c') := by
  intro other
  rw [Dict.get?_set]
  by_cases hother : other = ref
  · rw [if_pos hother, hother, found]
    exact .some h
  · rw [if_neg hother]
    exact StoreRel.refl hR s other

theorem StoreRel.trans (hR : ∀ c₁ c₂ c₃, R c₁ c₂ → R c₂ c₃ → R c₁ c₃) (h : StoreRel R s t)
    (h' : StoreRel R t u) : StoreRel R s u :=
  fun ref => (h ref).trans hR (h' ref)

theorem StoreRel.mono {S : NettingChannelState → NettingChannelState → Prop} (h : StoreRel R s t)
    (hRS : ∀ c c', R c c' → S c c') : StoreRel S s t :=
  fun ref => (h ref).mono hRS

theorem StoreRel.get_some (h : StoreRel R s t) (found : t.get? ref = some c') :
    ∃ c, s.get? ref = some c ∧ R c c' :=
  (h ref).of_right found

theorem StoreRel.get_some' (h : StoreRel R s t) (found : s.get? ref = some c) :
    ∃ c', t.get? ref = some c' ∧ R c c' :=
  (h ref).of_left found

end StoreRel

section Evolves

variable {P : Primitives} {A B : ChannelRef → NettingChannelState → ChannelOp → Prop}
  {s t u : Channels} {ref : ChannelRef} {c c' : NettingChannelState} {op : ChannelOp}
  {es : List Event}

theorem Evolves.single (found : s.get? ref = some c) (allowed : A ref c op)
    (last : Step P c (op, es) c') : Evolves P A s (s.set ref c') :=
  .step .refl found allowed last

theorem Evolves.trans (h : Evolves P A s t) (h' : Evolves P A t u) : Evolves P A s u := by
  induction h' with
  | refl => exact h
  | step _ found allowed last ih => exact ih.step found allowed last

theorem Evolves.mono (h : Evolves P A s t) (hAB : ∀ ref c op, A ref c op → B ref c op) :
    Evolves P B s t := by
  induction h with
  | refl => exact .refl
  | step _ found allowed last ih => exact ih.step found (hAB _ _ _ allowed) last

/-- What each allowed operation does to its channel, the sequence does to the store. -/
theorem Evolves.storeRel {R : NettingChannelState → NettingChannelState → Prop} (hR : ∀ c, R c c)
    (htrans : ∀ c₁ c₂ c₃, R c₁ c₂ → R c₂ c₃ → R c₁ c₃) (h : Evolves P A s t)
    (hop : ∀ ref c op es c', A ref c op → Step P c (op, es) c' → R c c') : StoreRel R s t := by
  induction h with
  | refl => exact .refl hR s
  | step _ found allowed last ih => exact ih.trans htrans (.set hR found (hop _ _ _ _ _ allowed last))

/-- An invariant of every channel that each allowed operation preserves. -/
theorem Evolves.forall_channels {I : ChannelRef → NettingChannelState → Prop} (h : Evolves P A s t)
    (hs : ∀ ref c, s.get? ref = some c → I ref c)
    (hop : ∀ ref c op es c', I ref c → A ref c op → Step P c (op, es) c' → I ref c') :
    ∀ ref c, t.get? ref = some c → I ref c := by
  induction h with
  | refl => exact hs
  | step _ found allowed last ih =>
    intro ref c hget
    rw [Dict.get?_set] at hget
    split at hget
    · next href =>
      cases hget
      exact href ▸ hop _ _ _ _ _ (ih _ _ found) allowed last
    · exact ih ref c hget

theorem Evolves.sameLife (h : Evolves P A s t) (hop : ∀ ref c op, A ref c op → op.isLockOp = true) :
    StoreRel (fun c c' => SameIdentity c c' ∧ SameLife c c') s t := by
  refine h.storeRel (fun c => ⟨.refl c, .refl c⟩) ?_ ?_
  · intro c₁ c₂ c₃ h h'
    exact ⟨h.1.trans h'.1, h.2.trans h'.2⟩
  · intro ref c op es c' hallowed hstep
    exact ⟨hstep.sameIdentity, hstep.sameLife (hop _ _ _ hallowed)⟩

end Evolves

/-! ## Registering in several channels -/

section UpdateAll

variable {P : Primitives} {f : NettingChannelState → Fallible NettingChannelState} {op : ChannelOp}
  {refs : List ChannelRef} {s t : Channels} {ref : ChannelRef}

theorem Channels.updateM_get? (h : s.updateM ref f = .ok t) (other : ChannelRef) :
    if other = ref then Option.Rel (fun c c' => f c = .ok c') (s.get? other) (t.get? other)
    else t.get? other = s.get? other := by
  unfold Channels.updateM at h
  cases hget : s.get? ref with
  | none =>
    rw [hget] at h
    cases h
    split
    · next hother =>
      rw [hother, hget]
      exact .none
    · rfl
  | some c =>
    rw [hget] at h
    simp only [seq_ok_iff, pure_eq_ok] at h
    obtain ⟨c', hc', rfl⟩ := h
    split
    · next hother =>
      rw [hother, hget, Dict.get?_set_self]
      exact .some hc'
    · next hother => exact Dict.get?_set_ne _ _ hother

theorem updateAll_get? (hf : ∀ c c', f c = .ok c' → f c' = .ok c')
    (h : refs.foldlM (fun cs ref => Channels.updateM cs ref f) s = .ok t) (other : ChannelRef) :
    if other ∈ refs then Option.Rel (fun c c' => f c = .ok c') (s.get? other) (t.get? other)
    else t.get? other = s.get? other := by
  induction refs generalizing s with
  | nil =>
    cases h
    simp
  | cons first rest ih =>
    rw [List.foldlM_cons, seq_ok_iff] at h
    obtain ⟨u, hu, h⟩ := h
    have hfirst := Channels.updateM_get? hu other
    have hrest := ih h
    simp only [List.mem_cons]
    by_cases hother : other = first
    · rw [if_pos hother] at hfirst
      rw [if_pos (.inl hother)]
      split at hrest
      · refine hfirst.trans (fun c₁ c₂ c₃ h₁ h₂ => ?_) hrest
        rw [hf _ _ h₁] at h₂
        cases h₂
        exact h₁
      · rw [hrest]
        exact hfirst
    · rw [if_neg hother] at hfirst
      rw [hfirst] at hrest
      simpa only [hother, false_or] using hrest

theorem updateAll_evolves (hf : ∀ c c', f c = .ok c' → Step P c (op, []) c')
    (h : refs.foldlM (fun cs ref => Channels.updateM cs ref f) s = .ok t) :
    Evolves P (fun _ _ o => o = op) s t := by
  induction refs generalizing s with
  | nil =>
    cases h
    exact .refl
  | cons first rest ih =>
    rw [List.foldlM_cons, seq_ok_iff] at h
    obtain ⟨u, hu, h⟩ := h
    refine Evolves.trans ?_ (ih h)
    unfold Channels.updateM at hu
    cases hget : s.get? first with
    | none =>
      rw [hget] at hu
      cases hu
      exact .refl
    | some c =>
      rw [hget] at hu
      simp only [seq_ok_iff, pure_eq_ok] at hu
      obtain ⟨c', hc', rfl⟩ := hu
      exact .single hget rfl (hf c c' hc')

end UpdateAll

/-! ## The map from partner addresses -/

theorem Channels.addressesToChannel_network {cs : Channels} {key : Address × Address}
    {ref : ChannelRef} (h : cs.addressesToChannel.get? key = some ref) :
    ref.tokenNetwork.address = key.1 := by
  refine List.foldlRecOn cs.entries _ (motive := fun book : AddressesToChannel => ∀ key ref,
    book.get? key = some ref → ref.tokenNetwork.address = key.1) ?_ ?_ key ref h
  · intro _ _ hget
    cases hget
  · intro book hbook entry _ key ref hget
    rw [Dict.get?_set] at hget
    split at hget
    · next hkey =>
      cases hget
      rw [hkey]
    · exact hbook key ref hget

/-! ## What the tasks do to the end of a payer -/

/-- What a state change does to the end of a payer, unless a transfer is accepted there. -/
inductive EndChange (hash : SecretHash) (e : NettingChannelEndState) :
    PaymentStateChange → NettingChannelEndState → Prop
  | loses {change : PaymentStateChange} {e' : NettingChannelEndState} (h : LosesAt hash e e') :
      EndChange hash e change e'
  | learns {reveal : ReceiveSecretReveal} : EndChange hash e (.receiveSecretReveal reveal)
      (registerSecretEndstate e reveal.secret hash)
  | learnsOnchain {reveal : ContractReceiveSecretReveal} {e' : NettingChannelEndState}
      (h : registerOnchainSecretEndstate e reveal.secret hash reveal.blockNumber = .ok e') :
      EndChange hash e (.contractReceiveSecretReveal reveal) e'

section EndChange

variable {hash : SecretHash} {exp : Nat} {e e' : NettingChannelEndState}
  {sc : PaymentStateChange}

theorem EndChange.expiresAt (hchange : EndChange hash e sc e')
    (h : ExpiresAt hash exp e) : ExpiresAt hash exp e' := by
  cases hchange with
  | loses hl => exact h.loses hl
  | learns => exact fun lock hl => h lock hl.of_register
  | learnsOnchain hr => exact fun lock hl => h lock (hl.of_registerOnchain hr)

theorem EndChange.notOffchain (hchange : EndChange hash e sc e') (h : NotOffchain hash e) :
    NotOffchain hash e' := by
  cases hchange with
  | loses hl => exact h.loses hl
  | learns =>
    rw [h.register]
    exact h
  | learnsOnchain hr =>
    rw [h.registerOnchain hr]
    exact h

end EndChange

end Raiden
