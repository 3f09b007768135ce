import Raiden.Target.Terminal
import Raiden.Mediator.Registration

/-! # Locks that were registered on-chain in time

A received lock whose secret is registered on-chain in time is claimed, and must
not be reported as expired. The expiration test of the target and of the mediator
looks for the registered lock at our end of the channel, where the received lock
is not, so it decides by the height alone. A block reports nothing as long as it
comes before the threshold of each claimed lock, or our own end happens to have a
lock of the same secrethash that is registered too. -/
namespace Raiden

open Lib Channel

theorem isLockExpired_isOk_false {e : NettingChannelEndState} {lock : HashTimeLockState}
    {now threshold : Nat} (h : now < threshold ∨ isSecretKnownOnchain e lock.secrethash = true) :
    (isLockExpired e lock now threshold).isOk = false := by
  by_contra hcontra
  rw [Bool.not_eq_false, isLockExpired_ok] at hcontra
  rcases h with h | h
  · omega
  · exact hcontra.1 (of_decide_eq_true h)

end Raiden

namespace Raiden.Target

open Lib Channel

variable {P : Primitives} {hash : SecretHash} {exp now : Nat} {s s' : Receiving}
  {lock : HashTimeLockState} {label : Input × List Event} {c : NettingChannelState}
  {sc : PaymentStateChange} {r : TargetIteration} {es : List Event}

/-- A block comes before the threshold of a lock that is not pending off-chain any
more, or finds a registered lock at our end. -/
def Heeds (hash : SecretHash) (s : Receiving) : Input → Prop
  | .task (.block block) => ∀ st ∈ s.task, ∀ c ∈ s.channel, NotOffchain hash c.partnerState →
    block.blockNumber < getReceiverExpirationThreshold st.transfer.lock.expiration ∨
      isSecretKnownOnchain c.ourState hash = true
  | _ => True

/-- The task has its lock, and `E` holds of the end of the payer. -/
structure Keeps (E : NettingChannelEndState → Prop) (lock : HashTimeLockState) (s : Receiving) : Prop where
  lock_eq : ∀ st ∈ s.task, st.transfer.lock = lock
  tracked : ∀ c ∈ s.channel, Tracked c.ourState ∧ Tracked c.partnerState
  received : ∀ st ∈ s.task, ∀ c ∈ s.channel, E c.partnerState

theorem Reaction.endChange {st : TargetTransferState} (h : Reaction P now st c sc r) :
    EndChange st.transfer.lock.secrethash c.partnerState sc r.channel.partnerState := by
  cases h with
  | ignored | reports | registers => exact .loses (.refl _ _)
  | learned secrethash_eq =>
    rw [← secrethash_eq]
    exact .learns
  | learnedOnchain secrethash_eq register =>
    obtain ⟨our, partner, -, hpartner, rfl⟩ := registerOnchainSecret_ok.mp register
    rw [secrethash_eq] at hpartner
    exact .learnsOnchain hpartner
  | unlocked step => exact .loses (step.losesAt_partner rfl _)
  | expires => exact .loses ((Step.receiveLockExpired (P := P) c _ _ _).losesAt_partner rfl _)

theorem Reaction.transfer_eq {st st' : TargetTransferState}
    (h : Reaction P now st c sc r) (hstate' : r.newState = some st') :
    st'.transfer = st.transfer := by
  cases h with
  | unlocked _ hstate =>
    rcases hstate with rfl | ⟨rfl, -⟩ <;> cases hstate'
    rfl
  | expires hstate =>
    rcases hstate with rfl | rfl <;> cases hstate'
    rfl
  | _ =>
    cases hstate'
    rfl

theorem Keeps.next {E : NettingChannelEndState → Prop}
    (h : Keeps E lock s) (hnext : s.Next P lock.secrethash label s')
    (hE : ∀ e e' sc, E e → EndChange lock.secrethash e sc e' → E e') : Keeps E lock s' := by
  cases hnext with
  | tick => exact ⟨h.lock_eq, h.tracked, h.received⟩
  | @channel c c' op _ found step foreign =>
    obtain ⟨hour, hpartner⟩ := h.tracked c found
    refine ⟨h.lock_eq, ?_, ?_⟩
    · rintro _ ⟨⟩
      exact step.tracked hour hpartner
    · rintro st hstate _ ⟨⟩
      have hloses := (step.sameLocksAt hour foreign).2.losesAt
      exact hE _ _ (.block ⟨0, []⟩) (h.received st hstate c found) (.loses hloses)
  | removed => exact ⟨h.lock_eq, fun _ hc => (by cases hc), fun _ _ _ hc => (by cases hc)⟩
  | @task c st sc prng prng' r found running dispatched run =>
    obtain ⟨hreaction, -⟩ := stateTransition_ensures sc prng r prng' run
    obtain ⟨hour, hpartner⟩ := h.tracked c found
    refine ⟨fun st' hstate' => ?_, ?_, ?_⟩
    · rw [hreaction.transfer_eq hstate']
      exact h.lock_eq st running
    · rintro _ ⟨⟩
      rcases hreaction.operated with heq | ⟨op, _, -, step⟩
      · rw [heq]
        exact ⟨hour, hpartner⟩
      · exact step.tracked hour hpartner
    · rintro st' _ _ ⟨⟩
      have hend := hreaction.endChange
      rw [h.lock_eq st running] at hend
      exact hE _ _ sc (h.received st running c found) hend

theorem Keeps.start {c₀ : NettingChannelState} {log₀ : List (ChannelOp × List Event)}
    {init : ActionInitTarget} (hfresh : Fresh c₀) (reached : Run (Step P) c₀ log₀ c)
    (start : s.Starts P hash init c es) (unused : isLockPending c.partnerState hash = false) :
    Keeps (ExpiresAt hash init.transfer.lock.expiration) init.transfer.lock s := by
  obtain ⟨htask, -, locks, facts, hchannel⟩ := start.accepted
  have htracked : Tracked c.ourState ∧ Tracked c.partnerState :=
    reached.invariant (I := fun c => Tracked c.ourState ∧ Tracked c.partnerState)
      ⟨hfresh.our.tracked, hfresh.partner.tracked⟩ fun _ _ _ h step => step.tracked h.1 h.2
  refine ⟨fun st hstate => ?_, fun c' hc' => ?_, fun _ _ c' hc' => ?_⟩
  · cases htask.symm.trans hstate
    rfl
  · cases hchannel.symm.trans hc'
    obtain ⟨_, step⟩ := facts.step
    exact step.tracked htracked.1 htracked.2
  · cases hchannel.symm.trans hc'
    exact expiresAt_addLock unused rfl

/-- After a registration in time nothing of the lock is left to be unlocked off-chain. -/
theorem Keeps.registered {reveal : ContractReceiveSecretReveal}
    (h : Keeps (ExpiresAt lock.secrethash lock.expiration) lock s)
    (htime : reveal.blockNumber ≤ lock.expiration)
    (hnext : s.Next P lock.secrethash (.task (.contractReceiveSecretReveal reveal), es) s') :
    Keeps (NotOffchain lock.secrethash) lock s' ∧ ∀ st ∈ s'.task, st.state ≠ .expired := by
  cases hnext with
  | @task c st _ prng prng' r found running dispatched run =>
    obtain ⟨hreaction, -⟩ := stateTransition_ensures _ prng r prng' run
    obtain ⟨hour, hpartner⟩ := h.tracked c found
    have hlock := h.lock_eq st running
    cases hreaction with
    | ignored unmatched =>
      refine absurd ?_ (unmatched reveal rfl)
      rw [hlock]
      exact dispatched
    | @learnedOnchain _ c' secrethash_eq register =>
      have hstep := Step.registerOnchainSecret (P := P) register
      obtain ⟨our, partner, -, hend, rfl⟩ := registerOnchainSecret_ok.mp register
      refine ⟨⟨?_, ?_, ?_⟩, ?_⟩
      · rintro _ ⟨⟩
        exact hlock
      · rintro _ ⟨⟩
        exact hstep.tracked hour hpartner
      · rintro _ _ _ ⟨⟩
        rw [secrethash_eq, hlock] at hend
        refine notOffchain_of_registerOnchain hend fun l hl => ?_
        rw [h.received st running c found l hl]
        exact htime
      · rintro _ ⟨⟩
        exact nofun

theorem Keeps.heeded
    (h : Keeps (NotOffchain lock.secrethash) lock s) (hstate : ∀ st ∈ s.task, st.state ≠ .expired)
    (heeds : Heeds lock.secrethash s label.1) (hnext : s.Next P lock.secrethash label s') :
    (∀ e ∈ label.2, isReport e = false) ∧ ∀ st ∈ s'.task, st.state ≠ .expired := by
  cases hnext with
  | tick | channel | removed => exact ⟨nofun, hstate⟩
  | @task c st sc prng prng' r found running dispatched run =>
    obtain ⟨hreaction, -⟩ := stateTransition_ensures _ prng r prng' run
    have hunexpired := hstate st running
    have hlock := h.lock_eq st running
    cases hreaction with
    | ignored =>
      refine ⟨nofun, ?_⟩
      rintro _ ⟨⟩
      exact hunexpired
    | @reports block expired =>
      have hheeded := heeds st running c found (h.received st running c found)
      rw [isLockExpired_isOk_false (by rw [hlock] at hheeded ⊢; exact hheeded)] at expired
      cases expired
    | registers =>
      refine ⟨fun e he => ?_, ?_⟩
      · unfold Raiden.eventsForOnchainSecretreveal at he
        split at he
        · rw [List.mem_singleton.mp he]
          rfl
        · cases he
      · rintro _ ⟨⟩
        exact nofun
    | learned =>
      refine ⟨fun e he => ?_, ?_⟩
      · rw [List.mem_singleton.mp he]
        rfl
      · rintro _ ⟨⟩
        exact nofun
    | learnedOnchain =>
      refine ⟨nofun, ?_⟩
      rintro _ ⟨⟩
      exact nofun
    | unlocked _ hnew quiet =>
      refine ⟨fun e he => (quiet e he).1, fun st' hstate' => ?_⟩
      rcases hnew with rfl | ⟨rfl, -⟩ <;> cases hstate'
      exact hunexpired
    | expires hnew quiet =>
      refine ⟨fun e he => (quiet e he).1, fun st' hstate' => ?_⟩
      rcases hnew with rfl | rfl <;> cases hstate'
      exact hunexpired

/-- In a run that heeds the thresholds, a lock that was registered in time is
never reported as expired. -/
theorem Keeps.run {log : List (Input × List Event)}
    (h : Keeps (NotOffchain lock.secrethash) lock s) (hstate : ∀ st ∈ s.task, st.state ≠ .expired)
    (run : Run (Receiving.NextIf P lock.secrethash (Heeds lock.secrethash)) s log s') :
    (∀ label ∈ log, ∀ e ∈ label.2, isReport e = false) ∧ ∀ st ∈ s'.task, st.state ≠ .expired := by
  have hinv : (∀ label ∈ log, ∀ e ∈ label.2, isReport e = false) ∧
      Keeps (NotOffchain lock.secrethash) lock s' ∧ ∀ st ∈ s'.task, st.state ≠ .expired := by
    refine run.invariant_log (I := fun log s => (∀ label ∈ log, ∀ e ∈ label.2, isReport e = false) ∧
      Keeps (NotOffchain lock.secrethash) lock s ∧ ∀ st ∈ s.task, st.state ≠ .expired) ?_ ?_
    · exact ⟨fun _ hl => absurd hl List.not_mem_nil, h, hstate⟩
    · intro log t label u hi hnext
      obtain ⟨hquiet, hstate'⟩ := hi.2.1.heeded hi.2.2 hnext.1 hnext.2
      refine ⟨fun l hl => ?_, hi.2.1.next hnext.2 fun _ _ _ he hc => hc.notOffchain he, hstate'⟩
      rcases List.mem_append.mp hl with hl | hl
      · exact hi.1 l hl
      · rw [List.mem_singleton.mp hl]
        exact hquiet
  exact ⟨hinv.1, hinv.2.2⟩

end Raiden.Target

namespace Raiden.Mediator

open Lib Channel

variable {P : Primitives} {net : TokenNetworkRef} {hash : SecretHash}

/-- No second mediation starts, and a block comes before the threshold of every
received lock that is not pending off-chain any more, or finds a registered lock
at our end. -/
def Heeds (net : TokenNetworkRef) (hash : SecretHash) (s : Mediation) : Input → Prop
  | .task (.actionInitMediator _) _ => s.task.isSome = true
  | .task (.block block) _ => ∀ st ∈ s.task,
    (∀ p ∈ st.transfersPair, isPendingPair p = true →
      ∀ c, getPayerChannel net s.channels p = some c → NotOffchain hash c.partnerState →
        block.blockNumber < getSenderExpirationThreshold p.payerTransfer.lock.expiration ∨
          isSecretKnownOnchain c.ourState hash = true) ∧
    ∀ waiting ∈ st.waitingTransfer,
      block.blockNumber < getReceiverExpirationThreshold waiting.transfer.lock.expiration
  | _ => True

section Reports

variable {st : MediatorTransferState} {cs : Channels} {a2c : AddressesToChannel} {now : Nat}
  {mediate r : Iteration MediatorTransferState} {p p' : MediationPairState}

/-- The test of `events_for_expired_pairs`. -/
def IsExpiredPair (net : TokenNetworkRef) (cs : Channels) (now : Nat)
    (p : MediationPairState) : Prop :=
  isPendingPair p = true ∧ ∃ c, getPayerChannel net cs p = some c ∧
    isTransferExpired p.payerTransfer c now = true

theorem expiredPair_of_not (h : ¬IsExpiredPair net cs now p) :
    expiredPair net cs now p = (p, []) := by
  unfold expiredPair
  split
  · next c hpending hc =>
    rw [if_neg]
    exact fun hexpired => h ⟨hpending, c, hc, hexpired⟩
  · rfl

theorem SameTransfers.isExpiredPair (h : SameTransfers p p')
    (hpending : isPendingPair p' = true → isPendingPair p = true)
    (hp' : IsExpiredPair net cs now p') : IsExpiredPair net cs now p := by
  obtain ⟨hpending', c, hc, hexpired⟩ := hp'
  refine ⟨hpending hpending', c, ?_, ?_⟩
  · rw [getPayerChannel, payerRef, ← h.payer]
    exact hc
  · rw [← h.payer]
    exact hexpired

theorem IsExpiredPair.of_passes {out : List Event} (h : PayeeExpired p p' out)
    (hp' : IsExpiredPair net cs now (markIf (inDanger net cs now) p')) :
    IsExpiredPair net cs now p := by
  refine h.same.1.isExpiredPair h.isPendingPair ((markIf_same _ p').isExpiredPair (fun hpending => ?_) hp')
  unfold markIf at hpending
  split at hpending
  · next hdanger =>
    rw [inDanger, Bool.and_eq_true] at hdanger
    exact hdanger.1
  · exact hpending

theorem BlockHandled.unreported (h : BlockHandled P net st cs a2c now mediate r)
    (hpairs : ∀ p ∈ mediate.newState.transfersPair, ¬IsExpiredPair net r.channels now p)
    (hwaiting : ∀ waiting ∈ mediate.newState.waitingTransfer,
      now < getReceiverExpirationThreshold waiting.transfer.lock.expiration) :
    (∀ e ∈ r.events, isReport e = false) ∧ ∀ p' ∈ r.newState.transfersPair,
      p'.payerState = .payerExpired → ∃ p ∈ mediate.newState.transfersPair,
        SameTransfers p p' ∧ p.payerState = .payerExpired := by
  obtain ⟨removed, removals, registrations, hwatched⟩ := h.watched
  have hremoved : ∀ q ∈ removed.map (markIf (inDanger net r.channels now)),
      expiredPair net r.channels now q = (q, []) := by
    intro q hq
    obtain ⟨p₁, hp₁, rfl⟩ := List.mem_map.mp hq
    obtain ⟨p, hp, out, hexpired, -⟩ := exists_mem_of_forall₂ hwatched.expires.each hp₁
    exact expiredPair_of_not fun hcontra => hpairs p hp (.of_passes hexpired hcontra)
  constructor
  · have hnone : r.events.filter isReport = [] := by
      rw [hwatched.reports h.retried.quiet, List.append_eq_nil_iff, List.flatMap_eq_nil_iff]
      refine ⟨fun q hq => by rw [hremoved q hq], ?_⟩
      cases hw : mediate.newState.waitingTransfer with
      | none => rfl
      | some w =>
        have hlt := hwaiting w hw
        simp only [Option.map_some, Option.elim_some, expiredWaiting]
        rw [if_neg (fun hexpired => by omega)]
    exact fun e he => Bool.eq_false_iff.mpr (List.filter_eq_nil_iff.mp hnone e he)
  · intro p' hp' hstate
    rw [hwatched.pairs_eq] at hp'
    obtain ⟨q, hq, rfl⟩ := List.mem_map.mp hp'
    rw [hremoved q hq] at hstate ⊢
    obtain ⟨p₁, hp₁, rfl⟩ := List.mem_map.mp hq
    obtain ⟨p, hp, out, hexpired, -⟩ := exists_mem_of_forall₂ hwatched.expires.each hp₁
    refine ⟨p, hp, hexpired.same.1.trans (markIf_same _ p₁), ?_⟩
    rw [← hexpired.same.2]
    unfold markIf at hstate
    split at hstate
    · cases hstate
    · exact hstate

end Reports

section Claims

variable {exp : Nat} {s s' : Mediation} {st : MediatorTransferState} {bh : BlockHash}

/-- Every received lock has the expiration of the payment. -/
def Expiring (net : TokenNetworkRef) (hash : SecretHash) (s : Mediation) : Prop :=
  ∃ seen, Holding net hash seen s

/-- Nothing that was received is left to be unlocked off-chain. -/
structure Claimed (net : TokenNetworkRef) (hash : SecretHash) (s : Mediation) : Prop where
  filed : ∀ ref c, s.channels.get? ref = some c → Filed ref c
  known : ∀ st ∈ s.task, st.secret ≠ none
  received : ∀ st ∈ s.task, (∃ expiration, Uniform hash expiration st) ∧
    Received (NotOffchain hash) net s.channels st

theorem Expiring.start (now : Nat) : Expiring net hash (.start now) :=
  ⟨false, fun _ _ h => (by cases h), fun _ h => (by cases h)⟩

theorem Expiring.next {label : Input × List Event} (h : Expiring net hash s)
    (unused : Unused P net s label.1) (hnext : s.Next P net hash label s') :
    Expiring net hash s' := by
  obtain ⟨seen, hholding⟩ := h
  exact ⟨_, hholding.next unused hnext⟩

theorem Expiring.registered {reveal : ContractReceiveSecretReveal}
    {es : List Event} {p : MediationPairState} (h : Expiring net hash s)
    (htask : s.task = some st) (hp : p ∈ st.transfersPair)
    (htime : reveal.blockNumber ≤ p.payerTransfer.lock.expiration)
    (hnext : s.Next P net hash (.task (.contractReceiveSecretReveal reveal) bh, es)
      s') : Claimed net hash s' := by
  obtain ⟨seen, h⟩ := h
  have hfiled := hnext.filed h.filed
  obtain ⟨x, huniform, hreceived⟩ := h.received st htask
  rw [(huniform.payer hp).2] at htime
  cases hnext with
  | task dispatched order run =>
    obtain ⟨iter, hreaction, -, rfl⟩ := Mediation.Next.reaction run
    rw [htask] at hreaction
    have hk : reveal.secrethash = hash := dispatched.2
    refine ⟨hfiled, ?_, ?_⟩ <;> intro st' hstate' <;> have hnew := clearIfFinalized_newState hstate'
    · cases hreaction with
      | ignored unmatched =>
        exact absurd (hk.trans huniform.secrethash_eq.symm) (unmatched reveal st rfl rfl)
      | learnedOnchain _ hlearned =>
        cases hnew
        cases hlearned
        exact Option.some_ne_none _
    · refine ⟨⟨x, hreaction.uniform huniform dispatched st' hnew⟩, ?_⟩
      rw [clearIfFinalized_channels]
      cases hreaction with
      | ignored unmatched =>
        exact absurd (hk.trans huniform.secrethash_eq.symm) (unmatched reveal st rfl rfl)
      | learnedOnchain secrethash_eq hlearned =>
        cases hnew
        intro t ht c' hc'
        obtain ⟨ht', c, hc, hend⟩ := hlearned.payer_end ht hc'
        rw [hk] at hend
        refine notOffchain_of_registerOnchain hend fun lock hl => ?_
        rw [(hreceived t ht' c hc).expires lock hl]
        exact htime

theorem Claimed.next {label : Input × List Event} (h : Claimed net hash s)
    (heeds : Heeds net hash s label.1) (hnext : s.Next P net hash label s') :
    Claimed net hash s' := by
  have hfiled := hnext.filed h.filed
  cases hnext.seen h.filed with
  | surrounded _ hsur =>
    refine ⟨hfiled, fun st hstate => ?_, fun st hstate => ?_⟩ <;> rw [hsur.task] at hstate
    · exact h.known st hstate
    · obtain ⟨huniform, hreceived⟩ := h.received st hstate
      exact ⟨huniform, hreceived.surrounds hstate hsur fun _ _ he hl => he.loses hl⟩
  | started absent =>
    have hsome : s.task.isSome = true := heeds
    rw [absent] at hsome
    cases hsome
  | @reacted st sc bh _ _ htask dispatched hreaction _ task cs =>
    have hknown := h.known st htask
    obtain ⟨⟨x, huniform⟩, hreceived⟩ := h.received st htask
    refine ⟨hfiled, fun st' hstate' => ?_, fun st' hstate' => ?_⟩ <;>
      have hnew := task st' hstate'
    · exact hreaction.secret_known hknown st' hnew
    · refine ⟨⟨x, hreaction.uniform huniform dispatched st' hnew⟩, ?_⟩
      have hunused : st.secret = none → Unused P net s (.task sc bh) :=
        fun hnone => absurd hnone hknown
      rw [cs]
      exact hreaction.received htask h.filed huniform dispatched hunused hreceived
        (fun hnone => absurd hnone hknown)
        (fun _ _ _ he hl => he.loses hl)
        (fun _ _ _ _ he => by rw [he.register]; exact he)
        (fun _ _ _ _ _ he hr => by rw [he.registerOnchain hr]; exact he) st' hnew

/-- A heeded block reports no claimed lock. -/
theorem Claimed.block {block : Block} {es : List Event} (h : Claimed net hash s)
    (heeds : Heeds net hash s (.task (.block block) bh))
    (hnext : s.Next P net hash (.task (.block block) bh, es) s') :
    (∀ e ∈ es, isReport e = false) ∧ ∀ st ∈ s.task, ∀ st' ∈ s'.task,
      ∀ p' ∈ st'.transfersPair, p'.payerState = .payerExpired →
        ∃ p ∈ st.transfersPair, SameTransfers p p' ∧ p.payerState = .payerExpired := by
  cases hnext with
  | task dispatched order run =>
    obtain ⟨st, htask⟩ := Option.isSome_iff_exists.mp dispatched.1
    obtain ⟨hpairs, hwaiting⟩ := heeds st htask
    obtain ⟨⟨x, huniform⟩, hreceived⟩ := h.received st htask
    obtain ⟨iter, hreaction, -, rfl⟩ := Mediation.Next.reaction run
    rw [clearIfFinalized_events]
    rw [htask] at hreaction ⊢
    cases hreaction with
    | ignored =>
      refine ⟨nofun, ?_⟩
      rintro _ ⟨⟩ st' hstate' p' hp' hexpired
      cases clearIfFinalized_newState hstate'
      exact ⟨p', hp', .refl p', hexpired⟩
    | @block _ _ mediate r hblock =>
      have hframe := hblock.frame hash
      have hexpired : ∀ p ∈ st.transfersPair,
          ¬IsExpiredPair net r.channels block.blockNumber p := by
        rintro p hp ⟨hpending, c', hc', hexpired⟩
        obtain ⟨c, hc, hpartner, -, honchain⟩ := hframe.get_some hc'
        have hheeded := hpairs p hp hpending c hc (hreceived.payer hp hc)
        rw [isTransferExpired, isLockExpired_isOk_false] at hexpired
        · cases hexpired
        · rw [(huniform.payer hp).1, honchain]
          exact hheeded
      have hretried : ∀ p ∈ mediate.newState.transfersPair,
          ¬IsExpiredPair net r.channels block.blockNumber p := by
        intro p hp
        cases hblock.retried with
        | idle | waits => exact hexpired p hp
        | forwards hw =>
          rcases List.mem_append.mp hp with hp | hp
          · exact hexpired p hp
          · -- a transfer that is forwarded now is below its threshold
            rintro ⟨-, c, -, hlate⟩
            rw [List.mem_singleton.mp hp] at hlate
            have hlt := hwaiting _ hw
            rw [isTransferExpired, isLockExpired_ok] at hlate
            have hge := hlate.2
            simp only [getReceiverExpirationThreshold] at hlt
            simp only [getSenderExpirationThreshold, forwardedPair] at hge
            omega
      have hwaits : ∀ w ∈ mediate.newState.waitingTransfer,
          block.blockNumber < getReceiverExpirationThreshold w.transfer.lock.expiration := by
        intro w hw
        cases hblock.retried with
        | idle => exact hwaiting w hw
        | waits hw' =>
          have hlt := hwaiting _ hw'
          cases hw
          exact hlt
        | forwards => cases hw
      obtain ⟨hquiet, hmarked⟩ := hblock.unreported hretried hwaits
      refine ⟨hquiet, ?_⟩
      rintro _ ⟨⟩ st' hstate' p' hp' hstate
      cases clearIfFinalized_newState hstate'
      obtain ⟨p, hp, hsame, hpayer⟩ := hmarked p' hp' hstate
      refine ⟨p, ?_, hsame, hpayer⟩
      cases hblock.retried with
      | idle | waits => exact hp
      | forwards =>
        rcases List.mem_append.mp hp with hp | hp
        · exact hp
        · rw [List.mem_singleton.mp hp] at hpayer
          cases hpayer

end Claims

end Raiden.Mediator

namespace Raiden

open Lib Channel

variable {P : Primitives} {net : TokenNetworkRef} {hash : SecretHash}

/-- The secret of a target's lock was registered before the lock expired. The channel accepted
the transfer under a secrethash that was not pending. -/
inductive Target.RegisteredInTime (P : Primitives) (hash : SecretHash) (s' : Target.Receiving) : Prop
  | intro {c₀ c : NettingChannelState} {log₀ : List (ChannelOp × List Event)} {init : ActionInitTarget}
      {accepted : List Event} {s s₁ : Target.Receiving} {log : List (Target.Input × List Event)}
      {st : TargetTransferState} {reveal : ContractReceiveSecretReveal} {revealed : List Event}
      (fresh : Fresh c₀) (reached : Run (Step P) c₀ log₀ c)
      (starts : Target.Receiving.Starts P hash init c accepted s)
      (unused : isLockPending c.partnerState hash = false) (before : Run (Target.Receiving.Next P hash) s log s₁)
      (task : s₁.task = some st) (inTime : reveal.blockNumber ≤ st.transfer.lock.expiration)
      (reveals : s₁.Next P hash (.task (.contractReceiveSecretReveal reveal), revealed) s')

/-- The secret of a mediation was registered before one of the payer locks expired. The
transfers of the mediation were accepted under a secrethash that was not pending. -/
inductive Mediator.RegisteredInTime (P : Primitives) (net : TokenNetworkRef) (hash : SecretHash)
    (s' : Mediator.Mediation) : Prop
  | intro {start : Nat} {log : List (Mediator.Input × List Event)} {s : Mediator.Mediation}
      {st : MediatorTransferState} {p : MediationPairState} {reveal : ContractReceiveSecretReveal}
      {bh : BlockHash} {revealed : List Event}
      (before : Run (Mediator.Mediation.NextIf P net hash (Mediator.Unused P net)) (.start start) log s)
      (task : s.task = some st) (pair : p ∈ st.transfersPair)
      (inTime : reveal.blockNumber ≤ p.payerTransfer.lock.expiration)
      (reveals : s.Next P net hash (.task (.contractReceiveSecretReveal reveal) bh, revealed) s')

theorem Target.RegisteredInTime.not_reported {s s' : Target.Receiving}
    {log : List (Target.Input × List Event)} (h : RegisteredInTime P hash s)
    (hrun : Run (Target.Receiving.NextIf P hash (Target.Heeds hash)) s log s') :
    (∀ label ∈ log, ∀ e ∈ label.2, isReport e = false) ∧ ∀ st ∈ s'.task, st.state ≠ .expired := by
  cases h with
  | @intro _ _ _ init _ _ _ _ st _ _ fresh reached starts unused before htask inTime reveals =>
    have hk : init.transfer.lock.secrethash = hash := starts.secrethash_eq
    have hstart := Target.Keeps.start fresh reached starts unused
    subst hk
    have hbefore := before.invariant (I := Target.Keeps _ init.transfer.lock) hstart
      fun _ _ _ hi hnext => hi.next hnext fun _ _ _ he hc => hc.expiresAt he
    rw [hbefore.lock_eq st htask] at inTime
    obtain ⟨hclaimed, hstate⟩ := hbefore.registered inTime reveals
    exact hclaimed.run hstate hrun

theorem Mediator.RegisteredInTime.claimed {s s' : Mediator.Mediation}
    {log : List (Mediator.Input × List Event)} (h : RegisteredInTime P net hash s)
    (hrun : Run (Mediator.Mediation.NextIf P net hash (Mediator.Heeds net hash)) s log s') :
    Mediator.Claimed net hash s' := by
  cases h with
  | @intro start _ _ _ _ _ _ _ before htask hp inTime reveals =>
    have hbefore := before.invariant (I := Mediator.Expiring net hash) (.start start)
      fun _ _ _ hi hnext => hi.next hnext.1 hnext.2
    exact hrun.invariant (I := Mediator.Claimed net hash)
      (hbefore.registered htask hp inTime reveals) fun _ _ _ hi hnext => hi.next hnext.1 hnext.2

/-- A lock whose secret was registered on-chain in time is not reported as expired
by a later block, in every run of a target or of a mediation whose blocks heed the
thresholds of the claimed locks. -/
theorem registered_lock_not_reported (P : Primitives) (hash : SecretHash) :
    (∀ s log s', Target.RegisteredInTime P hash s →
      Run (Target.Receiving.NextIf P hash (Target.Heeds hash)) s log s' →
      (∀ label ∈ log, ∀ e ∈ label.2, isReport e = false) ∧ ∀ st ∈ s'.task, st.state ≠ .expired) ∧
    ∀ net s log s₁ block bh es s', Mediator.RegisteredInTime P net hash s →
      Run (Mediator.Mediation.NextIf P net hash (Mediator.Heeds net hash)) s log s₁ →
      s₁.NextIf P net hash (Mediator.Heeds net hash) (.task (.block block) bh, es) s' →
      (∀ e ∈ es, isReport e = false) ∧ ∀ st ∈ s₁.task, ∀ st' ∈ s'.task,
        ∀ p' ∈ st'.transfersPair, p'.payerState = .payerExpired →
          ∃ p ∈ st.transfersPair, Mediator.SameTransfers p p' ∧ p.payerState = .payerExpired := by
  refine ⟨fun s log s' hregistered hrun => hregistered.not_reported hrun, ?_⟩
  intro net s log s₁ block bh es s' hregistered hrun hblock
  exact (hregistered.claimed hrun).block hblock.1 hblock.2

instance (hash : SecretHash) (s : Target.Receiving) (input : Target.Input) :
    Decidable (Target.Heeds hash s input) := by
  unfold Target.Heeds
  induction input using Target.Input.casesOn with
  | task change => induction change using PaymentStateChange.casesOn <;> infer_instance
  | _ => infer_instance

instance (net : TokenNetworkRef) (hash : SecretHash) (s : Mediator.Mediation) (input : Mediator.Input) :
    Decidable (Mediator.Heeds net hash s input) := by
  unfold Mediator.Heeds
  induction input using Mediator.Input.casesOn with
  | task change => induction change using PaymentStateChange.casesOn <;> infer_instance
  | _ => infer_instance

section Toy

variable (G : Target.Receiving → Target.Input → Prop) [∀ s input, Decidable (G s input)]
  (H : Mediator.Mediation → Mediator.Input → Prop) [∀ s input, Decidable (H s input)]

def targetReveal : ContractReceiveSecretReveal := ⟨20, [], 0, 7, [7]⟩

def toyTarget (now : Nat)
    (p : Target.Receiving → List (Target.Input × List Event) → Target.Receiving → Bool) : Bool :=
  (Target.Receiving.start toyPrimitives 0 Target.toyInit (toyChannel 0 100) 1).any fun started =>
    (started.2.next toyPrimitives 7 (fun _ _ => True) 0
      (.task (.contractReceiveSecretReveal targetReveal))).any fun revealed =>
    (execute (Target.Receiving.next toyPrimitives 7 G 0) (Target.toyBlock now) ([], revealed.2)).any fun done =>
      p started.2 done.1 done.2

/-- The mediation of a transfer with the expiration 400, before the registration at
block 100, and after a later block with its events. -/
def toyMediation (now : Nat) (p : Mediator.Mediation → List Event → Mediator.Mediation → Bool) : Bool :=
  (execute (Mediator.Mediation.next toyPrimitives Mediator.toyTokenNetwork 7
    (Mediator.Unused toyPrimitives Mediator.toyTokenNetwork) 0) [Mediator.forwardUntil 400]
    (Mediator.toyStart 500 500)).any fun before =>
    (before.2.next toyPrimitives Mediator.toyTokenNetwork 7 (fun _ _ => True) 0
      (Mediator.registeredAt 100)).any fun revealed =>
    (revealed.2.next toyPrimitives Mediator.toyTokenNetwork 7 H 0 (.tick now)).any fun ticked =>
    (ticked.2.next toyPrimitives Mediator.toyTokenNetwork 7 H 0 (.task (.block ⟨now, []⟩) [])).any fun last =>
      p before.2 last.1.2 last.2

variable {G H}

theorem exists_toyTarget {now : Nat}
    {p : Target.Receiving → List (Target.Input × List Event) → Target.Receiving → Bool}
    (h : toyTarget G now p = true) : ∃ accepted s revealed s₂ log s',
      s.Starts toyPrimitives 7 Target.toyInit (toyChannel 0 100) accepted ∧
      s.Next toyPrimitives 7 (.task (.contractReceiveSecretReveal targetReveal), revealed) s₂ ∧
      Run (Target.Receiving.NextIf toyPrimitives 7 G) s₂ log s' ∧ p s log s' = true := by
  obtain ⟨accepted, s, hstart, h⟩ := Target.Receiving.exists_start h
  obtain ⟨revealed, s₂, hreveal, h⟩ := Target.Receiving.exists_next h
  obtain ⟨log, s', hrun, h⟩ := Target.Receiving.exists_run h
  exact ⟨accepted, s, revealed, s₂, log, s', hstart, hreveal.2, hrun, h⟩

theorem exists_toyMediation {now : Nat} {p : Mediator.Mediation → List Event → Mediator.Mediation → Bool}
    (h : toyMediation H now p = true) : ∃ log₁ s₁ revealed s₂ log s₃ es s',
      Run (Mediator.Mediation.NextIf toyPrimitives Mediator.toyTokenNetwork 7
        (Mediator.Unused toyPrimitives Mediator.toyTokenNetwork)) (.start 1) log₁ s₁ ∧
      s₁.Next toyPrimitives Mediator.toyTokenNetwork 7 (Mediator.registeredAt 100, revealed) s₂ ∧
      Run (Mediator.Mediation.NextIf toyPrimitives Mediator.toyTokenNetwork 7 H) s₂ log s₃ ∧
      s₃.NextIf toyPrimitives Mediator.toyTokenNetwork 7 H (.task (.block ⟨now, []⟩) [], es) s' ∧
      p s₁ es s' = true := by
  obtain ⟨log₁, s₁, hbefore, h⟩ := Mediator.toyStart_run (fun _ _ _ => trivial) h
  obtain ⟨revealed, s₂, hreveal, h⟩ := Mediator.Mediation.exists_next h
  obtain ⟨ticked, s₃, htick, h⟩ := Mediator.Mediation.exists_next h
  obtain ⟨es, s', hblock, h⟩ := Mediator.Mediation.exists_next h
  exact ⟨log₁, s₁, revealed, s₂, _, s₃, es, s', hbefore, hreveal.2, .step (.start s₂) htick, hblock, h⟩

end Toy

/-- The secrets of two locks are registered in time, and both locks are reported as
expired: the one of the target with expiration 40 at block 45, the one of the
mediation with expiration 400 at block 410. -/
theorem registered_locks_reported_expired :
    (∃ accepted, ∃ s : Target.Receiving, ∃ revealed s₂ log s',
      s.Starts toyPrimitives 7 Target.toyInit (toyChannel 0 100) accepted ∧ Fresh (toyChannel 0 100) ∧
      targetReveal.blockNumber ≤ Target.toyInit.transfer.lock.expiration ∧
      s.Next toyPrimitives 7 (.task (.contractReceiveSecretReveal targetReveal), revealed) s₂ ∧
      Run (Target.Receiving.Next toyPrimitives 7) s₂ log s' ∧
      ((log.flatMap Prod.snd).any isReport = true ∧ s'.task.any (fun st => st.state = .expired))) ∧
    ∃ log₁ s₁ st p revealed s₂ log s₃ es s',
      Run (Mediator.Mediation.Next toyPrimitives Mediator.toyTokenNetwork 7) (.start 1) log₁ s₁ ∧
      s₁.task = some st ∧ p ∈ st.transfersPair ∧ 100 ≤ p.payerTransfer.lock.expiration ∧
      s₁.Next toyPrimitives Mediator.toyTokenNetwork 7 (Mediator.registeredAt 100, revealed) s₂ ∧
      Run (Mediator.Mediation.Next toyPrimitives Mediator.toyTokenNetwork 7) s₂ log s₃ ∧
      s₃.Next toyPrimitives Mediator.toyTokenNetwork 7 (.task (.block ⟨410, []⟩) [], es) s' ∧
      (es.any isReport = true ∧
        s'.task.any (fun st => st.transfersPair.any fun p => p.payerState = .payerExpired)) := by
  constructor
  · have hexec : toyTarget (fun _ _ => True) 45 (fun _ log s' =>
        (log.flatMap Prod.snd).any isReport = true ∧ s'.task.any (fun st => st.state = .expired)) =
        true := by decide +kernel
    obtain ⟨accepted, s, revealed, s₂, log, s', hstart, hreveal, hrun, hreport⟩ := exists_toyTarget hexec
    exact ⟨accepted, s, revealed, s₂, log, s', hstart, toyChannel_fresh 0 100, by decide, hreveal,
      hrun.mono fun _ _ _ h => h.2, of_decide_eq_true hreport⟩
  · have hexec : toyMediation (fun _ _ => True) 410 (fun s₁ es s' =>
        (s₁.task.any fun st => st.transfersPair.any fun p => 100 ≤ p.payerTransfer.lock.expiration) &&
        decide (es.any isReport = true ∧
          s'.task.any (fun st => st.transfersPair.any fun p => p.payerState = .payerExpired))) =
        true := by decide +kernel
    obtain ⟨log₁, s₁, revealed, s₂, log, s₃, es, s', hbefore, hreveal, hrun, hblock, hcheck⟩ :=
      exists_toyMediation hexec
    obtain ⟨hpair, hreport⟩ := Bool.and_eq_true_iff.mp hcheck
    simp only [Option.any_eq_true, List.any_eq_true, decide_eq_true_eq] at hpair
    obtain ⟨st, htask, p, hp, htime⟩ := hpair
    exact ⟨log₁, s₁, st, p, revealed, s₂, log, s₃, es, s',
      hbefore.mono fun _ _ _ h => h.2, htask, hp, htime, hreveal, hrun.mono fun _ _ _ h => h.2, hblock.2,
      of_decide_eq_true hreport⟩

/-- One block earlier nothing is reported. -/
theorem registered_locks_kept_below_threshold :
    (∃ s₂ log s', Run (Target.Receiving.NextIf toyPrimitives 7 (Target.Heeds 7)) s₂ log s' ∧
      s'.task.isSome = true ∧ log.length = 2 ∧ (∀ label ∈ log, ∀ e ∈ label.2, isReport e = false) ∧
      ∀ st ∈ s'.task, st.state ≠ .expired) ∧
    ∃ (s₃ : Mediator.Mediation) (es : List Event) (s' : Mediator.Mediation),
      s₃.NextIf toyPrimitives Mediator.toyTokenNetwork 7
        (Mediator.Heeds Mediator.toyTokenNetwork 7) (.task (.block ⟨409, []⟩) [], es) s' ∧
      s'.task.isSome = true ∧ ∀ e ∈ es, isReport e = false := by
  constructor
  · have hexec : toyTarget (Target.Heeds 7) 44 (fun s log s' =>
        s.task.any (fun st => targetReveal.blockNumber ≤ st.transfer.lock.expiration) &&
          decide (s'.task.isSome = true ∧ log.length = 2)) = true := by
      decide +kernel
    obtain ⟨accepted, s, revealed, s₂, log, s', hstart, hreveal, hrun, hcheck⟩ := exists_toyTarget hexec
    obtain ⟨htask, hlength⟩ := Bool.and_eq_true_iff.mp hcheck
    simp only [Option.any_eq_true, decide_eq_true_eq] at htask hlength
    obtain ⟨st, htask, htime⟩ := htask
    exact ⟨s₂, log, s', hrun, hlength.1, hlength.2,
      (registered_lock_not_reported toyPrimitives 7).1 s₂ log s'
        (.intro (toyChannel_fresh 0 100) (.start _) hstart rfl (.start s) htask htime hreveal) hrun⟩
  · have hexec : toyMediation (Mediator.Heeds Mediator.toyTokenNetwork 7) 409 (fun s₁ _ s' =>
        (s₁.task.any fun st => st.transfersPair.any fun p => 100 ≤ p.payerTransfer.lock.expiration) &&
          s'.task.isSome) = true := by decide +kernel
    obtain ⟨log₁, s₁, revealed, s₂, log, s₃, es, s', hbefore, hreveal, hrun, hblock, hcheck⟩ :=
      exists_toyMediation hexec
    obtain ⟨hpair, hsome⟩ := Bool.and_eq_true_iff.mp hcheck
    simp only [Option.any_eq_true, List.any_eq_true, decide_eq_true_eq] at hpair
    obtain ⟨st, htask, p, hp, htime⟩ := hpair
    have hkept := (registered_lock_not_reported toyPrimitives 7).2 _ s₂ log s₃ _ _ es s'
      (.intro hbefore htask hp htime hreveal) hrun hblock
    exact ⟨s₃, es, s', hblock, hsome, hkept.1⟩

end Raiden
