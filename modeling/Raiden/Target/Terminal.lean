import Raiden.Target.System

/-! # The end of a target task

A target reports its lock as expired, or registers the secret on-chain. One
field of the task says which of the two happened, and later messages overwrite
it: the report and the registration are made once, and in this order, as long as
no message arrives that takes the field back. -/
namespace Raiden.Target

open Lib Channel

/-! ## Sequences of events -/

/-- At most one report, at most one registration, and none after a report. -/
structure Terminal (es : List Event) : Prop where
  reports : es.countP isReport ≤ 1
  registrations : es.countP isRegistration ≤ 1
  order : es.Pairwise fun e e' => isReport e = true → isRegistration e' = false

def reported (es : List Event) : Bool := es.any isReport

def registered (es : List Event) : Bool := es.any isRegistration

section Sequences

variable {es added : List Event} {e : Event}

theorem countP_eq_zero_of_any {p : Event → Bool} (h : es.any p = false) : es.countP p = 0 :=
  List.countP_eq_zero.mpr fun e he => by
    rw [List.any_eq_false] at h
    exact h e he

theorem reported_append_quiet (h : Quiet added) : reported (es ++ added) = reported es := by
  have hnone : added.any isReport = false := List.any_eq_false.mpr fun e he => by simp [(h e he).1]
  rw [reported, List.any_append, hnone, Bool.or_false]
  rfl

theorem registered_append_quiet (h : Quiet added) : registered (es ++ added) = registered es := by
  have hnone : added.any isRegistration = false :=
    List.any_eq_false.mpr fun e he => by simp [(h e he).2]
  rw [registered, List.any_append, hnone, Bool.or_false]
  rfl

theorem Terminal.quiet (h : Terminal es) (hq : Quiet added) : Terminal (es ++ added) := by
  have hreports : added.countP isReport = 0 :=
    List.countP_eq_zero.mpr fun e he => by simp [(hq e he).1]
  have hregistrations : added.countP isRegistration = 0 :=
    List.countP_eq_zero.mpr fun e he => by simp [(hq e he).2]
  refine ⟨?_, ?_, ?_⟩
  · rw [List.countP_append, hreports]
    exact h.reports
  · rw [List.countP_append, hregistrations]
    exact h.registrations
  · refine List.pairwise_append.mpr ⟨h.order, ?_, fun e _ e' he' _ => (hq e' he').2⟩
    exact List.pairwise_iff_forall_sublist.mpr fun hsub _ =>
      (hq _ (hsub.subset (List.mem_cons_of_mem _ List.mem_cons_self))).2

theorem Terminal.report (h : Terminal es) (hfirst : reported es = false)
    (hreport : isReport e = true) (hother : isRegistration e = false) : Terminal (es ++ [e]) := by
  refine ⟨?_, ?_, ?_⟩
  · rw [List.countP_append, countP_eq_zero_of_any hfirst, List.countP_singleton, if_pos hreport]
  · rw [List.countP_append, List.countP_singleton, if_neg (by simp [hother])]
    exact h.registrations
  · refine List.pairwise_append.mpr ⟨h.order, List.pairwise_singleton _ _, fun _ _ e' he' _ => ?_⟩
    rw [List.mem_singleton.mp he']
    exact hother

theorem Terminal.registration (h : Terminal es) (hreported : reported es = false)
    (hfirst : registered es = false) (hother : isReport e = false)
    (hregistration : isRegistration e = true) : Terminal (es ++ [e]) := by
  refine ⟨?_, ?_, ?_⟩
  · rw [List.countP_append, List.countP_singleton, if_neg (by simp [hother])]
    exact h.reports
  · rw [List.countP_append, countP_eq_zero_of_any hfirst, List.countP_singleton, if_pos hregistration]
  · refine List.pairwise_append.mpr ⟨h.order, List.pairwise_singleton _ _, fun e' he' _ _ hr => ?_⟩
    rw [reported, List.any_eq_false] at hreported
    exact absurd hr (hreported e' he')

end Sequences

/-- No block is handled after the report while the secret can be unlocked
off-chain, and neither a reveal that is still accepted nor an event of the
secret registry comes when it takes back what the task already did. -/
def OrderlyChange (now : Nat) (st : TargetTransferState) (c : NettingChannelState) :
    PaymentStateChange → Prop
  | .block _ => st.state = .expired →
      isSecretKnownOffchain c.partnerState st.transfer.lock.secrethash = false
  | .receiveSecretReveal _ => isTransferExpired st.transfer c now = true ∨
      st.state ≠ .onchainSecretReveal ∧ st.state ≠ .expired
  | .contractReceiveSecretReveal reveal => st.state ≠ .expired ∧
      (st.state = .onchainSecretReveal → reveal.blockNumber ≤ st.transfer.lock.expiration)
  | _ => True

def Orderly (s : Receiving) : Input → Prop
  | .task change => ∀ st ∈ s.task, ∀ c ∈ s.channel, OrderlyChange s.blockNumber st c change
  | _ => True

/-- What the field of the task says about the events so far. -/
structure Recorded (hash : SecretHash) (es : List Event) (channel : Option NettingChannelState)
    (st : TargetTransferState) : Prop where
  secrethash_eq : st.transfer.lock.secrethash = hash
  afterReport : reported es = true → st.state = .expired
  afterRegistration : registered es = true → st.state = .onchainSecretReveal ∨ st.state = .expired ∨
    ∀ c, channel = some c → NotOffchain hash c.partnerState
  expires : ∀ c, channel = some c →
    ExpiresAt hash st.transfer.lock.expiration c.partnerState

structure Progress (hash : SecretHash) (es : List Event) (s : Receiving) : Prop where
  terminal : Terminal es
  tracked : ∀ c, s.channel = some c → Tracked c.ourState ∧ Tracked c.partnerState
  recorded : ∀ st, s.task = some st → Recorded hash es s.channel st

section Steps

variable {P : Primitives} {hash : SecretHash} {es : List Event}
  {channel : Option NettingChannelState} {c c' : NettingChannelState} {st : TargetTransferState}

/-- Quiet events and a change of the channel that keeps what is known of the lock. -/
theorem Recorded.quiet {added : List Event} (h : Recorded hash es (some c) st) (hq : Quiet added)
    (hoffchain : NotOffchain hash c.partnerState → NotOffchain hash c'.partnerState)
    (hexpires : ∀ {n}, ExpiresAt hash n c.partnerState → ExpiresAt hash n c'.partnerState) :
    Recorded hash (es ++ added) (some c') st := by
  refine ⟨h.secrethash_eq, fun hr => h.afterReport (reported_append_quiet hq ▸ hr), fun hr => ?_, ?_⟩
  · rcases h.afterRegistration (registered_append_quiet hq ▸ hr) with hs | hs | hn
    · exact .inl hs
    · exact .inr (.inl hs)
    · refine .inr (.inr ?_)
      rintro _ ⟨⟩
      exact hoffchain (hn c rfl)
  · rintro _ ⟨⟩
    exact hexpires (h.expires c rfl)

theorem handleReceiveLockExpired_locks (change : ReceiveLockExpired) (now : Nat)
    (md : Option AddressMetadata) (hsecrethash : change.secrethash = hash) :
    (NotOffchain hash c.partnerState → NotOffchain hash
        (handleReceiveLockExpired P c change now md).newState.partnerState) ∧
      ∀ {n}, ExpiresAt hash n c.partnerState → ExpiresAt hash n
        (handleReceiveLockExpired P c change now md).newState.partnerState := by
  rcases handleReceiveLockExpired_cases P (c := c) change now md with
    ⟨msg, heq⟩ | ⟨lock, locks, facts, heq⟩ <;> rw [heq]
  · exact ⟨id, id⟩
  · have hdrop := delUnclaimedLock_eq_dropLock (e := setBalanceProof c.partnerState
      (.signed change.balanceProof) locks) facts.not_onchain
    subst hsecrethash
    refine ⟨fun _ => ⟨Dict.get?_del_self _ _, Dict.get?_del_self _ _⟩, fun _ lock hlock => ?_⟩
    change HasLock (delUnclaimedLock _ change.secrethash) _ lock at hlock
    rw [hdrop] at hlock
    exact absurd rfl (hasLock_dropLock.mp hlock).1

theorem Terminal.registrationEvents (h : Terminal es) (hreported : reported es = false)
    (hfirst : registered es = false) {secret : Secret} {exp : Nat} {bh : BlockHash} :
    Terminal (es ++ Raiden.eventsForOnchainSecretreveal c secret exp bh) ∧
      reported (es ++ Raiden.eventsForOnchainSecretreveal c secret exp bh) = false := by
  unfold Raiden.eventsForOnchainSecretreveal
  split
  · refine ⟨h.registration hreported hfirst rfl rfl, ?_⟩
    rw [reported, List.any_append]
    exact (Bool.or_eq_false_iff).mpr ⟨hreported, rfl⟩
  · rw [List.append_nil]
    exact ⟨h, hreported⟩

theorem Recorded.reaction {now : Nat} {change : PaymentStateChange} {r : TargetIteration}
    (h : Recorded hash es (some c) st) (hterminal : Terminal es)
    (hreaction : Reaction P now st c change r) (orderly : OrderlyChange now st c change)
    (dispatched : (⟨some st, some c, now⟩ : Receiving).dispatches P hash change) :
    Terminal (es ++ r.events) ∧ ∀ st', r.newState = some st' →
      Recorded hash (es ++ r.events) (some r.channel) st' := by
  have hsecrethash := h.secrethash_eq
  have hunreported : st.state ≠ .expired → reported es = false := fun hne =>
    Bool.eq_false_iff.mpr fun hr => hne (h.afterReport hr)
  cases hreaction with
  | ignored =>
    refine ⟨hterminal.quiet Quiet.nil, ?_⟩
    rintro _ ⟨⟩
    exact h.quiet Quiet.nil id id
  | reports _ unreported =>
    refine ⟨hterminal.report (hunreported unreported) (isReport_expirationReport _) rfl, ?_⟩
    rintro _ ⟨⟩
    exact ⟨hsecrethash, fun _ => rfl, fun _ => .inr (.inl rfl), h.expires⟩
  | @registers _ secret known unstarted =>
    have hunexpired : st.state ≠ .expired := fun hexpired => by
      cases known.symm.trans (orderly hexpired)
    have hfirst : registered es = false := by
      refine Bool.eq_false_iff.mpr fun hr => ?_
      rcases h.afterRegistration hr with hs | hs | hn
      · exact unstarted hs
      · exact hunexpired hs
      · rw [hsecrethash, (hn c rfl).not_known] at known
        cases known
    obtain ⟨hterminal', hreported⟩ := hterminal.registrationEvents (hunreported hunexpired) hfirst
    refine ⟨hterminal', ?_⟩
    rintro _ ⟨⟩
    refine ⟨hsecrethash, fun hr => ?_, fun _ => .inl rfl, h.expires⟩
    cases hreported.symm.trans hr
  | @learned change reveal secrethash_eq unexpired =>
    have hquiet : Quiet [.sendSecretReveal reveal] := fun e he => by
      rw [List.mem_singleton.mp he]
      exact ⟨rfl, rfl⟩
    refine ⟨hterminal.quiet hquiet, ?_⟩
    rintro _ ⟨⟩
    rcases orderly with hexpired | ⟨hunstarted, hunexpired⟩
    · cases unexpired.symm.trans hexpired
    · have hkey : change.secrethash P = hash := secrethash_eq.trans hsecrethash
      refine ⟨hsecrethash, fun hr => ?_, fun hr => ?_, ?_⟩
      · rw [reported_append_quiet hquiet, hunreported hunexpired] at hr
        cases hr
      · rcases h.afterRegistration (registered_append_quiet hquiet ▸ hr) with hs | hs | hn
        · exact absurd hs hunstarted
        · exact absurd hs hunexpired
        · refine .inr (.inr ?_)
          rintro _ ⟨⟩
          show NotOffchain hash (registerSecretEndstate c.partnerState _ _)
          rw [hkey, (hn c rfl).register]
          exact hn c rfl
      · rintro _ ⟨⟩
        exact fun lock hlock => h.expires c rfl lock hlock.of_register
  | @learnedOnchain change c' secrethash_eq register =>
    refine ⟨hterminal.quiet Quiet.nil, ?_⟩
    rintro _ ⟨⟩
    obtain ⟨hunexpired, htime⟩ := orderly
    have hkey : change.secrethash = hash := secrethash_eq.trans hsecrethash
    simp only [registerOnchainSecret, seq_ok_iff, pure_eq_ok] at register
    obtain ⟨our, -, partner, hpartner, rfl⟩ := register
    rw [hkey] at hpartner
    refine ⟨hsecrethash, fun hr => ?_, fun hr => .inr (.inr ?_), ?_⟩
    · rw [reported_append_quiet .nil, hunreported hunexpired] at hr
      cases hr
    · rintro _ ⟨⟩
      rcases h.afterRegistration (registered_append_quiet .nil ▸ hr) with hs | hs | hn
      · refine notOffchain_of_registerOnchain hpartner fun lock hlock => ?_
        rw [h.expires c rfl lock hlock]
        exact htime hs
      · exact absurd hs hunexpired
      · rw [(hn c rfl).registerOnchain hpartner]
        exact hn c rfl
    · rintro _ ⟨⟩
      exact fun lock hlock => h.expires c rfl lock (hlock.of_registerOnchain hpartner)
  | @unlocked change c' es' received newState step hstate quiet =>
    refine ⟨hterminal.quiet quiet, fun st' hstate' => ?_⟩
    rcases hstate with rfl | ⟨rfl, rfl⟩
    · cases hstate'
    · cases hstate'
      exact h.quiet quiet id id
  | @expires change es' newState hstate quiet =>
    refine ⟨hterminal.quiet quiet, fun st' hstate' => ?_⟩
    rcases hstate with rfl | rfl
    · cases hstate'
    · cases hstate'
      obtain ⟨hoffchain, hexpires⟩ := handleReceiveLockExpired_locks (P := P) (c := c) change now
        st.transfer.payerAddressMetadata dispatched
      exact h.quiet quiet hoffchain hexpires

theorem Progress.next {s s' : Receiving} {label : Input × List Event}
    (h : Progress hash es s) (hnext : s.NextIf P hash Orderly label s') :
    Progress hash (es ++ label.2) s' := by
  obtain ⟨orderly, hnext⟩ := hnext
  cases hnext with
  | tick =>
    rw [List.append_nil]
    exact ⟨h.terminal, h.tracked, h.recorded⟩
  | @channel c c' op _ found step foreign =>
    rw [List.append_nil]
    obtain ⟨hour, hpartner⟩ := h.tracked c found
    have hsame := (step.sameLocksAt hour foreign).2
    refine ⟨h.terminal, ?_, fun st hstate => ?_⟩
    · rintro _ ⟨⟩
      exact step.tracked hour hpartner
    · have hrecorded := found ▸ h.recorded st hstate
      have := hrecorded.quiet Quiet.nil (fun hn => hn.sameLocksAt hsame) (fun he => he.sameLocksAt hsame)
      rwa [List.append_nil] at this
  | removed =>
    rw [List.append_nil]
    have hgone : ∀ {c : NettingChannelState}, none ≠ some c := fun h => absurd h.symm (Option.some_ne_none _)
    refine ⟨h.terminal, fun c hc => absurd hc hgone, fun st hstate => ?_⟩
    have hrecorded := h.recorded st hstate
    exact ⟨hrecorded.secrethash_eq, hrecorded.afterReport,
      fun _ => .inr (.inr fun c hc => absurd hc hgone), fun c hc => absurd hc hgone⟩
  | @task c st change prng prng' r found running dispatched run =>
    obtain ⟨hreaction, -⟩ := stateTransition_ensures change prng r prng' run
    obtain ⟨task, channel, now⟩ := s
    subst found running
    obtain ⟨hterminal, hrecorded⟩ := (h.recorded st rfl).reaction h.terminal hreaction
      (orderly st rfl c rfl) dispatched
    obtain ⟨hour, hpartner⟩ := h.tracked c rfl
    refine ⟨hterminal, ?_, hrecorded⟩
    rintro _ ⟨⟩
    rcases hreaction.operated with heq | ⟨op, _, -, step⟩
    · rw [heq]
      exact ⟨hour, hpartner⟩
    · exact step.tracked hour hpartner

theorem Progress.start {c₀ : NettingChannelState} {log₀ : List (ChannelOp × List Event)}
    {init : ActionInitTarget} {s : Receiving} (hfresh : Fresh c₀) (hrun : Run (Step P) c₀ log₀ c)
    (start : s.Starts P hash init c es)
    (unused : isLockPending c.partnerState hash = false) : Progress hash es s := by
  obtain ⟨htask, hquiet, locks, facts, hchannel⟩ := start.accepted
  have htracked : Tracked c.ourState ∧ Tracked c.partnerState :=
    hrun.invariant (I := fun c => Tracked c.ourState ∧ Tracked c.partnerState)
      ⟨hfresh.our.tracked, hfresh.partner.tracked⟩ fun _ _ _ h step => step.tracked h.1 h.2
  have hnil : Terminal [] := ⟨Nat.zero_le _, Nat.zero_le _, .nil⟩
  refine ⟨hnil.quiet hquiet, fun c' hc' => ?_, fun st hstate => ?_⟩
  · cases hchannel.symm.trans hc'
    obtain ⟨_, step⟩ := facts.step
    exact step.tracked htracked.1 htracked.2
  · cases htask.symm.trans hstate
    refine ⟨start.secrethash_eq, fun hr => ?_, fun hr => ?_, fun c' hc' lock hlock => ?_⟩
    · rw [← List.nil_append es, reported_append_quiet hquiet] at hr
      cases hr
    · rw [← List.nil_append es, registered_append_quiet hquiet] at hr
      cases hr
    · cases hchannel.symm.trans hc'
      rcases hlock.of_addLock with ⟨-, rfl⟩ | hold
      · rfl
      · rw [hold.isLockPending] at unused
        cases unused

end Steps

/-- A target task that is started under a secrethash that is not pending and runs
orderly reports its lock at most once, registers the secret at most once, and
never after a report. -/
theorem reports_or_registers_once {P : Primitives} {hash : SecretHash} {c₀ c : NettingChannelState}
    {log₀ : List (ChannelOp × List Event)} {init : ActionInitTarget} {es : List Event}
    {s s' : Receiving} {log : List (Input × List Event)} (hfresh : Fresh c₀)
    (reached : Run (Step P) c₀ log₀ c) (start : s.Starts P hash init c es)
    (unused : isLockPending c.partnerState hash = false)
    (run : Run (Receiving.NextIf P hash Orderly) s log s') :
    Terminal (es ++ log.flatMap Prod.snd) := by
  have hprogress : Progress hash (es ++ log.flatMap Prod.snd) s' := by
    refine run.invariant_log (I := fun log s => Progress hash (es ++ log.flatMap Prod.snd) s) ?_ ?_
    · rw [List.flatMap_nil, List.append_nil]
      exact .start hfresh reached start unused
    · intro log t label u hprogress hnext
      rw [List.flatMap_append, List.flatMap_singleton, ← List.append_assoc]
      exact hprogress.next hnext
  exact hprogress.terminal

instance (now : Nat) (st : TargetTransferState) (c : NettingChannelState)
    (change : PaymentStateChange) : Decidable (OrderlyChange now st c change) := by
  unfold OrderlyChange
  induction change using PaymentStateChange.casesOn <;> infer_instance

instance (s : Receiving) : (input : Input) → Decidable (Orderly s input)
  | .task _ => inferInstanceAs (Decidable (∀ st ∈ s.task, ∀ c ∈ s.channel, _))
  | .tick _ | .channel _ => .isTrue trivial

/-- The secret of the lock arrives at block 2. -/
def toyReveal : Input := .task (.receiveSecretReveal ⟨2, [7]⟩)

/-- The secret is learned and registered before the lock expires. When the payer
does not unlock, each block after the expiration takes back what the last one did. -/
theorem target_reports_and_registers_again :
    ∃ c₀ init es s log s', Fresh c₀ ∧ isLockPending c₀.partnerState 7 = false ∧
      s.Starts toyPrimitives 7 init c₀ es ∧ Run (Receiving.Next toyPrimitives 7) s log s' ∧
      (log.flatMap Prod.snd).countP isReport = 2 ∧ (log.flatMap Prod.snd).countP isRegistration = 2 ∧
      ¬(log.flatMap Prod.snd).Pairwise fun e e' => isReport e = true → isRegistration e' = false := by
  have hexec : (Receiving.start toyPrimitives 0 toyInit (toyChannel 0 100) 1).any (fun started =>
      (execute (Receiving.next toyPrimitives 7 (fun _ _ => True) 0)
        (toyReveal :: [30, 45, 46, 47].flatMap toyBlock) ([], started.2)).any fun done =>
        (done.1.flatMap Prod.snd).countP isReport = 2 ∧
        (done.1.flatMap Prod.snd).countP isRegistration = 2 ∧
        ¬(done.1.flatMap Prod.snd).Pairwise fun e e' => isReport e = true → isRegistration e' = false) =
      true := by decide +kernel
  obtain ⟨es, s, hstart, hexec⟩ := Receiving.exists_start hexec
  obtain ⟨log, s', hrun, hcounts⟩ := Receiving.exists_run hexec
  exact ⟨_, _, es, s, log, s', toyChannel_fresh 0 100, rfl, hstart, hrun.mono fun _ _ _ h => h.2,
    of_decide_eq_true hcounts⟩

/-- An orderly run in which the secret is registered, and the lock is reported later. -/
theorem target_registers_then_reports :
    ∃ es s log s', s.Starts toyPrimitives 7 toyInit (toyChannel 0 100) es ∧
      Run (Receiving.NextIf toyPrimitives 7 Orderly) s log s' ∧
      (log.flatMap Prod.snd).countP isReport = 1 ∧ (log.flatMap Prod.snd).countP isRegistration = 1 ∧
      Terminal (es ++ log.flatMap Prod.snd) := by
  have hexec : (Receiving.start toyPrimitives 0 toyInit (toyChannel 0 100) 1).any (fun started =>
      (execute (Receiving.next toyPrimitives 7 Orderly 0) (toyReveal :: [30, 45].flatMap toyBlock)
        ([], started.2)).any fun done => (done.1.flatMap Prod.snd).countP isReport = 1 ∧
        (done.1.flatMap Prod.snd).countP isRegistration = 1) = true := by decide +kernel
  obtain ⟨es, s, hstart, hexec⟩ := Receiving.exists_start hexec
  obtain ⟨log, s', hrun, hcounts⟩ := Receiving.exists_run hexec
  obtain ⟨hreports, hregistrations⟩ := of_decide_eq_true hcounts
  exact ⟨es, s, log, s', hstart, hrun, hreports, hregistrations,
    reports_or_registers_once (toyChannel_fresh 0 100) (.start _) hstart rfl hrun⟩

end Raiden.Target
