import Raiden.Channel.Confirmations

/-! # Withdraw messages do not stop the node

The handlers of the withdraw messages assert that a request of the partner
matches the cooperative settlement we initiated, that only one end initiated
one, and, in the sanity check, that our pending withdraws ascend. Other
operations can break what these assertions presuppose, so they hold along runs
that avoid those operations. -/
namespace Raiden.Channel

open Lib

variable {sc : ChannelStateChange} {e : NettingChannelEndState}
  {r : TransitionResult NettingChannelState}

section Condition

variable (P : Primitives) (c : NettingChannelState)

/-- The withdraw of the operation is refused by its validator. -/
def ChannelOp.rejected : ChannelOp → Bool
  | .stateChange (.receiveWithdrawRequest act) _ _ => !(isValidWithdrawRequest P c act).isOk
  | .stateChange (.actionChannelWithdraw act) _ _ =>
    !(isValidTotalWithdraw c act.totalWithdraw false).isOk
  | _ => false

def ChannelOp.initiatesCoopSettle : ChannelOp → Bool
  | .stateChange (.actionChannelCoopSettle _) _ _ => true
  | _ => false

/-- The operation changes what the partner can withdraw at most. -/
def ChannelOp.movesFunds : ChannelOp → Bool
  | .sendUnlock .. => true
  | .receiveUnlock unlock _ => (isValidUnlock P unlock c c.partnerState).isOk
  | .stateChange (.contractReceiveChannelDeposit act) _ _ =>
    act.participantAddress = c.partnerState.address
  | _ => false

/-- No lock is added under a pending secrethash, and withdraws leave the locks covered. A
cooperative settlement is initiated or answered with something left to withdraw for us,
initiated only while the partner initiated none, and nothing is unlocked or deposited by
the partner while ours is pending. -/
structure Orderly (op : ChannelOp) : Prop where
  locks : NoReuse P c op
  withdraws : op.rejected P c = false → WithdrawsCovered c op
  initiates : op.initiatesCoopSettle = true →
    0 < getMaxWithdrawAmount c.ourState c.partnerState ∧ c.partnerState.initiatedCoopSettle = none
  answers : AnswersCoopSettle P c op → 0 < getMaxWithdrawAmount c.ourState c.partnerState
  settles : c.ourState.initiatedCoopSettle.isSome = true → op.movesFunds P c = false

def OrderlyStep (label : ChannelOp × List Event) (c' : NettingChannelState) : Prop :=
  Orderly P c label.1 ∧ Step P c label c'

end Condition

/-! ## Pending withdraws in order -/

section Order

/-- Every pending withdraw is positive, filed under its total and larger than the earlier ones. -/
structure WithdrawsOrdered (d : Dict Int PendingWithdrawState) : Prop where
  ascending : d.Ascending
  pos : ∀ k ∈ d, 0 < k
  filed : ∀ k w, d.get? k = some w → k = w.totalWithdraw

variable {d : Dict Int PendingWithdrawState}

theorem WithdrawsOrdered.del (h : WithdrawsOrdered d) (k : Int) : WithdrawsOrdered (d.del k) :=
  ⟨h.ascending.del k, fun _ hk => h.pos _ (Dict.mem_del.mp hk).2,
    fun k' w hw => h.filed k' w (Dict.get?_del_eq_some.mp hw).2⟩

theorem WithdrawsOrdered.set (h : WithdrawsOrdered d) {w : PendingWithdrawState} (hpos : 0 < w.totalWithdraw)
    (hmax : ∀ k ∈ d, k ≤ w.totalWithdraw) : WithdrawsOrdered (d.set w.totalWithdraw w) := by
  refine ⟨h.ascending.set w fun k hk => (Int.lt_or_eq_of_le (hmax k hk)).symm, fun k hk => ?_,
    fun k w' hw' => ?_⟩
  · rcases Dict.mem_set.mp hk with rfl | hk
    · exact hpos
    · exact h.pos k hk
  · rw [Dict.get?_set] at hw'
    split at hw'
    · next heq =>
      cases hw'
      exact heq
    · exact h.filed k w' hw'

theorem checkWithdrawsOrdered_of_ascending (coopSettle : Bool) {previous : Int}
    {entries : List (Int × PendingWithdrawState)} (hasc : (entries.map Prod.fst).Pairwise (· < ·))
    (hlt : ∀ entry ∈ entries, previous < entry.1)
    (hfiled : ∀ entry ∈ entries, entry.1 = entry.2.totalWithdraw) :
    checkWithdrawsOrdered coopSettle previous entries = .ok () := by
  induction entries generalizing previous with
  | nil => rfl
  | cons entry rest ih =>
    obtain ⟨total, w⟩ := entry
    rw [List.map_cons, List.pairwise_cons] at hasc
    obtain rfl : total = w.totalWithdraw := hfiled _ List.mem_cons_self
    have hrest := ih hasc.2 (fun entry hentry => hasc.1 _ (List.mem_map_of_mem hentry))
      fun entry hentry => hfiled entry (List.mem_cons_of_mem _ hentry)
    have hprevious := hlt _ List.mem_cons_self
    unfold checkWithdrawsOrdered
    cases coopSettle <;> simp only [assert, check, hprevious, hrest, if_true, Bool.true_eq_false, if_false] <;> rfl

theorem WithdrawsOrdered.check (h : WithdrawsOrdered d) (coopSettle : Bool) :
    checkWithdrawsOrdered coopSettle 0 d.entries = .ok () := by
  refine checkWithdrawsOrdered_of_ascending coopSettle h.ascending (fun entry hentry => ?_) fun entry hentry => ?_
  · exact h.pos _ (Dict.mem_of_get? (Dict.mem_entries_iff.mp hentry))
  · exact h.filed _ _ (Dict.mem_entries_iff.mp hentry)

end Order

/-! ## What an operation does to the withdraws -/

section Steps

variable {P : Primitives} {c c' : NettingChannelState} {now : Nat} {bh : BlockHash}

/-- What a step makes of our pending withdraws and of the cooperative settlements. -/
structure WithdrawStep (c c' : NettingChannelState) : Prop where
  ordered : WithdrawsOrdered c.ourState.withdrawsPending → WithdrawsOrdered c'.ourState.withdrawsPending
  our : ∀ s', c'.ourState.initiatedCoopSettle = some s' →
    (∃ s, c.ourState.initiatedCoopSettle = some s ∧ s'.totalWithdrawPartner = s.totalWithdrawPartner) ∨
      c.partnerState.initiatedCoopSettle = none ∧
        s'.totalWithdrawPartner = getMaxWithdrawAmount c'.partnerState c'.ourState
  partner : c'.partnerState.initiatedCoopSettle ≠ none →
    c.partnerState.initiatedCoopSettle ≠ none ∨ c'.ourState.initiatedCoopSettle = none
  deposit : c.ourState.initiatedCoopSettle ≠ none →
    c'.partnerState.contractBalance = c.partnerState.contractBalance

theorem WithdrawStep.of_same (hpending : c'.ourState.withdrawsPending = c.ourState.withdrawsPending)
    (hour : c'.ourState.initiatedCoopSettle = c.ourState.initiatedCoopSettle)
    (hpartner : c'.partnerState.initiatedCoopSettle = c.partnerState.initiatedCoopSettle)
    (hdeposit : c'.partnerState.contractBalance = c.partnerState.contractBalance) : WithdrawStep c c' where
  ordered h := by rwa [hpending]
  our s' hs' := .inl ⟨s', hour ▸ hs', rfl⟩
  partner h := .inl (hpartner ▸ h)
  deposit _ := hdeposit

/-- A request for a total that no pending one exceeds. -/
theorem WithdrawRequested.withdraws {t : Int} (h : WithdrawRequested c t r) (hpos : 0 < t)
    (hmax : ∀ k ∈ c.ourState.withdrawsPending, k ≤ t) :
    (WithdrawsOrdered c.ourState.withdrawsPending → WithdrawsOrdered r.newState.ourState.withdrawsPending) ∧
      r.newState.ourState.initiatedCoopSettle = c.ourState.initiatedCoopSettle ∧
      r.newState.ourState.balanceProof = c.ourState.balanceProof ∧
      r.newState.partnerState = c.partnerState := by
  cases h with
  | closed => exact ⟨id, rfl, rfl, rfl⟩
  | sent total _ =>
    subst total
    exact ⟨fun h => h.set hpos hmax, rfl, rfl, rfl⟩

theorem pending_le_of_totalWithdraw_le {b : Int} (h : e.totalWithdraw ≤ b) :
    ∀ k ∈ e.withdrawsPending, k ≤ b :=
  (totalWithdraw_le_iff.mp h).2

theorem Solvent.totalWithdraw_le {o : NettingChannelEndState} (h : Solvent e o) :
    e.totalWithdraw ≤ getMaxWithdrawAmount e o := by
  unfold Solvent at h
  rw [getBalance_eq_max_sub] at h
  omega

theorem isValidTotalWithdraw_lt {total : Int} (hvalid : isValidTotalWithdraw c total false = .ok ()) :
    c.ourState.totalWithdraw < total ∧ 0 < total := by
  simp only [isValidTotalWithdraw, ite_error_eq_ok, true_and, Int.not_lt] at hvalid
  obtain ⟨-, hle, hne, -⟩ := hvalid
  have hnonneg : (0 : Int) ≤ c.ourState.totalWithdraw :=
    Int.le_trans (Int.natCast_nonneg _) (Int.le_max_right _ _)
  omega

/-- Storing a signature keeps the totals of our cooperative settlement. -/
theorem CoopSigned.total {coopSettle s : CoopSettleState} {es : List Event}
    (h : CoopSigned coopSettle s es) : s.totalWithdrawPartner = coopSettle.totalWithdrawPartner := by
  cases h <;> rfl

theorem CoopHandled.withdraws {act : ReceiveWithdrawRequest} (h : CoopHandled c act (.ok r))
    (hanswer : c.ourState.initiatedCoopSettle = none → getMaxWithdrawAmount c.partnerState c.ourState =
      act.totalWithdraw → getNumberOfPendingTransfers c.partnerState = 0 →
      getNumberOfPendingTransfers c.ourState = 0 → 0 < getMaxWithdrawAmount c.ourState c.partnerState)
    (hle : c.ourState.totalWithdraw ≤ getMaxWithdrawAmount c.ourState c.partnerState) :
    WithdrawStep c r.newState := by
  cases h with
  | @signed coopSettle _ _ ours signed =>
    refine ⟨id, fun s hs => .inl ⟨coopSettle, ours, ?_⟩, fun h => .inl h, fun _ => rfl⟩
    cases hs
    exact signed.total
  | answered none total partners ours requested =>
    obtain ⟨hordered, hcoop, -, hsame⟩ := requested.withdraws (hanswer none total partners ours)
      (pending_le_of_totalWithdraw_le hle)
    have hnone' := hcoop.trans none
    exact ⟨hordered, fun s' hs' => absurd (hs'.symm.trans hnone') (Option.some_ne_none _),
      fun _ => .inr hnone', fun _ => (congrArg NettingChannelEndState.contractBalance hsame :)⟩

theorem expireCoopSettle_eq_some {coopSettle : Option CoopSettleState} {withdraw : PendingWithdrawState}
    {s : CoopSettleState} (h : expireCoopSettle coopSettle withdraw = some s) : coopSettle = some s :=
  (Option.filter_eq_some_iff.mp h).1

structure OurExpired (c c' : NettingChannelState) : Prop where
  ordered : WithdrawsOrdered c.ourState.withdrawsPending → WithdrawsOrdered c'.ourState.withdrawsPending
  our : ∀ s, c'.ourState.initiatedCoopSettle = some s → c.ourState.initiatedCoopSettle = some s
  partner : c'.partnerState = c.partnerState

theorem OurExpired.withdrawStep (h : OurExpired c c') : WithdrawStep c c' :=
  ⟨h.ordered, fun s' hs' => .inl ⟨s', h.our s' hs', rfl⟩, fun hne => .inl (h.partner ▸ hne),
    fun _ => congrArg _ h.partner⟩

theorem Swept.withdraws {ws : List PendingWithdrawState} (h : Swept now ws c r) :
    OurExpired c r.newState := by
  induction h with
  | done | stopped => exact ⟨id, fun _ => id, rfl⟩
  | expired _ _ _ _ ih =>
    exact ⟨fun h => ih.ordered (h.del _), fun s hs => expireCoopSettle_eq_some (ih.our s hs), ih.partner⟩

theorem addDeposit_withdraws {part : Address} {balance : Nat} {feeSchedule : FeeScheduleState}
    (hsettles : c.ourState.initiatedCoopSettle ≠ none → part ≠ c.partnerState.address) :
    WithdrawStep c { addDeposit c part balance with feeSchedule } := by
  unfold addDeposit
  split
  · unfold updateContractBalance
    split <;> exact .of_same rfl rfl rfl rfl
  · split
    · next hpartner =>
      have hcoop : (updateContractBalance c.partnerState balance).initiatedCoopSettle =
          c.partnerState.initiatedCoopSettle := by
        unfold updateContractBalance
        split <;> rfl
      exact ⟨id, fun s' hs' => .inl ⟨s', hs', rfl⟩, fun hne => .inl (hcoop ▸ hne),
        fun hne => absurd hpartner (hsettles hne)⟩
    · exact .of_same rfl rfl rfl rfl

theorem Handled.withdraws {r : TransitionResult (Option NettingChannelState)}
    (h : Handled P c now bh sc r) (ho : Orderly P c (.stateChange sc now bh))
    (hle : c.ourState.totalWithdraw ≤ getMaxWithdrawAmount c.ourState c.partnerState)
    (hc : r.newState = some c') : WithdrawStep c c' := by
  cases h with
  | settledEmpty | unlockedAll => cases hc
  | unlocked =>
    cases hc
    unfold clearOnchainLocksroot
    repeat' split
    all_goals exact .of_same rfl rfl rfl rfl
  | deposited =>
    cases hc
    exact addDeposit_withdraws fun hne =>
      of_decide_eq_false (ho.settles (Option.isSome_iff_ne_none.mpr hne))
  | withdrawn =>
    cases hc
    exact ⟨fun h => h.del _, fun s' hs' => .inl ⟨s', hs', rfl⟩, .inl, fun _ => rfl⟩
  | withdrawing valid requested =>
    cases hc
    obtain ⟨hlt, hpos⟩ := isValidTotalWithdraw_lt valid
    obtain ⟨hordered, hour, -, hpartner⟩ :=
      requested.withdraws hpos (pending_le_of_totalWithdraw_le (Int.le_of_lt hlt))
    exact ⟨hordered, fun s' hs' => .inl ⟨s', hour ▸ hs', rfl⟩, fun h => .inl (hpartner ▸ h),
      fun _ => congrArg _ hpartner⟩
  | coopSettling _ total requested =>
    cases hc
    obtain ⟨hpos, hnone⟩ := ho.initiates rfl
    obtain ⟨hordered, hour, hproof, hpartner⟩ := requested.withdraws hpos (pending_le_of_totalWithdraw_le hle)
    refine ⟨hordered, fun s' hs' => .inr ⟨hnone, ?_⟩, fun h => .inl (hpartner ▸ h),
      fun _ => congrArg _ hpartner⟩
    cases hour.symm.trans hs'
    rw [total]
    simp only [getMaxWithdrawAmount_eq, NettingChannelEndState.transferredAmount, hpartner, hproof]
  | requestJoined valid coop handled =>
    cases hc
    have hstep := handled.withdraws ?_ hle
    · obtain ⟨hordered, hour, hpartner, hdeposit⟩ := hstep
      exact ⟨hordered, hour, hpartner, hdeposit⟩
    · intro hnone htotal hpartner hour
      refine ho.answers ⟨valid, coop.resolve_left ?_, hnone, htotal, hpartner, hour⟩
      rw [show c.ourState.initiatedCoopSettle = none from hnone]
      exact Bool.noConfusion
  | @confirmedOurs _ _ coopSettle _ _ _ ours signed =>
    cases hc
    refine ⟨id, fun s hs => .inl ⟨coopSettle, ours, ?_⟩, fun h => .inl h, fun _ => rfl⟩
    cases hs
    exact signed.total
  | expired =>
    cases hc
    refine ⟨id, fun s' hs' => .inl ⟨s', hs', rfl⟩, fun h => .inl fun hnone => h ?_, fun _ => rfl⟩
    rw [hnone]
    rfl
  | swept _ sweep => cases hc; exact sweep.withdraws.withdrawStep
  | _ => cases hc; exact .of_same rfl rfl rfl rfl

/-- A withdraw that its validator refuses leaves the channel as it was. -/
theorem Handled.eq_of_rejected {r : TransitionResult (Option NettingChannelState)}
    (h : Handled P c now bh sc r)
    (hrejected : (ChannelOp.stateChange sc now bh).rejected P c = true)
    (hc : r.newState = some c') : c' = c := by
  cases h with
  | ignored | refused => exact (Option.some.inj hc).symm
  | withdrawing valid | requestRefused valid | requestConfirmed valid | requestJoined valid =>
    dsimp only [ChannelOp.rejected] at hrejected
    rw [valid] at hrejected
    cases hrejected
  | _ => cases hrejected

end Steps

section Invariant

variable {P : Primitives} {c c' : NettingChannelState} {now : Nat} {bh : BlockHash}

/-- What the assertions presuppose: the settlement we initiated still grants the partner
its maximum, and at most one end initiated one. -/
structure Steady (P : Primitives) (c : NettingChannelState) : Prop where
  locks : ChannelLocks P c
  solvent : ChannelSolvent c
  ordered : WithdrawsOrdered c.ourState.withdrawsPending
  matched : ∀ s, c.ourState.initiatedCoopSettle = some s →
    s.totalWithdrawPartner = getMaxWithdrawAmount c.partnerState c.ourState
  single : c.ourState.initiatedCoopSettle = none ∨ c.partnerState.initiatedCoopSettle = none

theorem Fresh.steady (h : Fresh c) : Steady P c where
  locks := ⟨h.our.tracked, h.partner.tracked, h.our.locksConsistent, h.partner.locksConsistent⟩
  solvent := ⟨h.our.tracked, h.partner.tracked, h.our.solvent _, h.partner.solvent _⟩
  ordered := by
    rw [h.our.withdrawsPending]
    exact ⟨.empty, fun k hk => absurd hk (Dict.not_mem_empty k),
      fun _ _ hw => absurd hw.symm (Option.some_ne_none _)⟩
  matched s hs := absurd (hs.symm.trans h.our.initiatedCoopSettle) (Option.some_ne_none _)
  single := .inl h.our.initiatedCoopSettle

theorem Steady.of_withdrawStep (h : Steady P c) (hlocks : ChannelLocks P c') (hsolvent : ChannelSolvent c')
    (hw : WithdrawStep c c') (hmax : c.ourState.initiatedCoopSettle ≠ none →
      getMaxWithdrawAmount c'.partnerState c'.ourState = getMaxWithdrawAmount c.partnerState c.ourState) :
    Steady P c' := by
  refine ⟨hlocks, hsolvent, hw.ordered h.ordered, fun s' hs' => ?_, ?_⟩
  · rcases hw.our s' hs' with ⟨s, hs, htotal⟩ | ⟨-, htotal⟩
    · rw [htotal, h.matched s hs, hmax fun hnone => absurd (hs.symm.trans hnone) (Option.some_ne_none _)]
    · exact htotal
  · by_contra hboth
    rw [not_or] at hboth
    obtain ⟨hour', hpartner'⟩ := hboth
    have hpartner := (hw.partner hpartner').resolve_right hour'
    have hour := h.single.resolve_right hpartner
    obtain ⟨s', hs'⟩ := Option.ne_none_iff_exists'.mp hour'
    rcases hw.our s' hs' with ⟨s, hs, -⟩ | ⟨hnone, -⟩
    · exact absurd (hs.symm.trans hour) (Option.some_ne_none _)
    · exact hpartner hnone

theorem getMaxWithdrawAmount_congr {o e' o' : NettingChannelEndState}
    (hdeposit : e'.contractBalance = e.contractBalance) (he : e'.transferredAmount = e.transferredAmount)
    (ho : o'.transferredAmount = o.transferredAmount) :
    getMaxWithdrawAmount e' o' = getMaxWithdrawAmount e o := by
  rw [getMaxWithdrawAmount_eq, getMaxWithdrawAmount_eq, hdeposit, he, ho]

theorem Steady.handled (h : Steady P c) (ho : Orderly P c (.stateChange sc now bh)) :
    Ensures (handleStateTransitions P sc c now bh) fun r =>
      ∀ c', r.newState = some c' → Steady P c' := by
  refine (handleStateTransitions_handled P sc c now bh).mono fun r hr c' hc' => ?_
  cases hrejected : (ChannelOp.stateChange sc now bh).rejected P c with
  | true => rwa [hr.eq_of_rejected hrejected hc']
  | false =>
    have hcovered := ho.withdraws hrejected
    obtain ⟨hour, hpartner, -, -, -⟩ := hr.frame P c' hc'
    have hw := hr.withdraws ho h.solvent.our.totalWithdraw_le hc'
    have htracked := hour.same.tracked h.locks.ourTracked
    have htracked' := hpartner.same.tracked h.locks.partnerTracked
    refine h.of_withdrawStep ⟨htracked, htracked', hour.same.locksConsistent h.locks.our,
      hpartner.same.locksConsistent h.locks.partner⟩ ⟨htracked, htracked',
      hour.solvent hpartner.same hcovered.1 h.locks.ourTracked h.solvent.our,
      hpartner.solvent hour.same hcovered.2 h.locks.partnerTracked h.solvent.partner⟩ hw fun hne => ?_
    exact getMaxWithdrawAmount_congr (hw.deposit hne) hpartner.same.transferredAmount_eq
      hour.same.transferredAmount_eq

/-- Only an unlock moves an amount to the transferred ones. -/
theorem Step.transferred {op : ChannelOp} {es : List Event} (h : Step P c (op, es) c')
    (hmoves : op.movesFunds P c = false) :
    c'.ourState.transferredAmount = c.ourState.transferredAmount ∧
      c'.partnerState.transferredAmount = c.partnerState.transferredAmount := by
  cases h.outcome with
  | handled handled =>
    have hframe := handled.frame P c' rfl
    exact ⟨hframe.our.same.transferredAmount_eq, hframe.partner.same.transferredAmount_eq⟩
  | sentUnlock => cases hmoves
  | refused | unexpired => exact ⟨rfl, rfl⟩
  | sentTransfer facts | sentExpired _ facts => exact ⟨facts.transferred_eq, rfl⟩
  | registered | registeredOnchain =>
    have hinternal := h.internal rfl
    exact ⟨hinternal.our.transferredAmount_eq, hinternal.partner.transferredAmount_eq⟩
  | receivedTransfer facts | receivedRefund facts => exact ⟨rfl, facts.added.transferred_eq⟩
  | receivedExpired facts => exact ⟨rfl, facts.expired'.transferred_eq⟩
  | receivedUnlock facts =>
    dsimp only [ChannelOp.movesFunds] at hmoves
    rw [(isValidUnlock_ok P).mpr ⟨_, facts⟩] at hmoves
    cases hmoves

theorem OrderlyStep.steady {label : ChannelOp × List Event} (hs : OrderlyStep P c label c') (h : Steady P c) :
    Steady P c' := by
  obtain ⟨ho, hstep⟩ := hs
  cases hstep.cases with
  | stateChange hop frame sane =>
    obtain ⟨op, es⟩ := label
    cases hop
    exact (hstep.of_ensures P (stateTransition_ensures P (h.handled ho))).1 c' rfl
  | lock step =>
    have htracked := hstep.tracked h.locks.ourTracked h.locks.partnerTracked
    have hour := step.our.sameAccount
    have hpartner := step.partner.sameAccount
    have hspend := step.our.spendStep h.locks.ourTracked
    have hspend' := step.partner.spendStep h.locks.partnerTracked
    refine h.of_withdrawStep (hstep.channelLocks ho.locks h.locks) ⟨htracked.1, htracked.2,
      hspend.solvent hspend' h.solvent.our, hspend'.solvent hspend h.solvent.partner⟩
      (.of_same hour.withdrawsPending hour.initiatedCoopSettle hpartner.initiatedCoopSettle hpartner.deposit)
      fun hne => ?_
    have hmoves := ho.settles (Option.isSome_iff_ne_none.mpr hne)
    have htransferred := Step.transferred hstep hmoves
    exact getMaxWithdrawAmount_congr hpartner.deposit htransferred.2 htransferred.1

theorem Steady.sane (h : Steady P c) : sanityCheck P c = .ok () :=
  sanityCheck_iff.mpr ⟨h.ordered.check _, h.locks.our.endSane h.solvent.our,
    h.locks.partner.endSane h.solvent.partner⟩

theorem sendWithdrawRequest_returns (c : NettingChannelState) (t : Int) (exp : Nat)
    (md : Option AddressMetadata) (coopSettle : Bool) :
    Returns (sendWithdrawRequest c t exp md coopSettle) fun _ => True := by
  unfold sendWithdrawRequest
  split
  · exact .pure trivial
  · exact .bind (Q := fun _ => True) (fun prng => ⟨prng.head, prng.tail, rfl, trivial⟩)
      fun _ _ => .pure trivial

theorem handleCoopSettleRequest_returns {act : ReceiveWithdrawRequest}
    (hmatched : ∀ s, c.ourState.initiatedCoopSettle = some s →
      s.totalWithdrawPartner = getMaxWithdrawAmount c.partnerState c.ourState) :
    Returns (handleCoopSettleRequest act c now bh) fun _ => True := by
  unfold handleCoopSettleRequest
  dsimp only
  split
  · exact .pure trivial
  next htotal =>
  split
  · exact .pure trivial
  split
  · next coopSettle hcoop =>
    split
    · exact .pure trivial
    · have hassert : coopSettle.totalWithdrawPartner = act.totalWithdraw :=
        (hmatched coopSettle hcoop).trans (not_not.mp htotal)
      exact .bind (Q := fun _ => True) (Returns.lift (a := ()) (assert_eq_ok.mpr hassert) trivial)
        fun _ _ => .pure trivial
  · split
    · exact .pure trivial
    · exact .bind (sendWithdrawRequest_returns _ _ _ _ _) fun _ _ => .pure trivial

theorem Steady.request_returns (h : Steady P c) (act : ReceiveWithdrawRequest) :
    Returns (handleReceiveWithdrawRequest P act c now bh) fun _ => True := by
  unfold handleReceiveWithdrawRequest
  split
  · exact .pure trivial
  · dsimp only
    split
    · refine .bind (handleCoopSettleRequest_returns ?_) fun r _ => ?_
      · exact h.matched
      · cases r with
        | error msg | ok iteration => exact .pure trivial
    · exact .pure trivial

theorem Steady.confirmation_returns (h : Steady P c) (act : ReceiveWithdrawConfirmation) :
    ∃ r, handleReceiveWithdrawConfirmation P act c now bh = .ok r := by
  unfold handleReceiveWithdrawConfirmation
  split
  · exact ⟨_, rfl⟩
  · dsimp only
    split
    · next hour hpartner =>
      rcases h.single with hnone | hnone
      · exact absurd (hour.symm.trans hnone) (Option.some_ne_none _)
      · exact absurd (hpartner.symm.trans hnone) (Option.some_ne_none _)
    · exact ⟨_, rfl⟩
    · exact ⟨_, rfl⟩
    · split <;> exact ⟨_, rfl⟩

theorem Steady.handler_returns (h : Steady P c) (msg : WithdrawMessage) :
    Returns (handleStateTransitions P msg.change c now bh) fun _ => True := by
  cases msg with
  | request act =>
    have hkept : handleStateTransitions P (.receiveWithdrawRequest act) c now bh =
        (do return kept (← handleReceiveWithdrawRequest P act c now bh)) :=
      map_eq_pure_bind _ _
    refine hkept ▸ Returns.bind (h.request_returns act) fun _ _ => .pure trivial
  | confirmation act =>
    obtain ⟨r, hr⟩ := h.confirmation_returns act
    exact .bind (Q := fun _ => True) (Returns.lift hr trivial) fun _ _ => .pure trivial
  | expired act => exact .pure trivial

/-- In every run of orderly operations, a withdraw message that is orderly as well is
handled without raising, and the channel passes the sanity check. -/
theorem withdraw_messages_return {c₀ : NettingChannelState} {log : List (ChannelOp × List Event)}
    (h₀ : Fresh c₀) (hrun : Run (OrderlyStep P) c₀ log c) (message : WithdrawMessage) (now : Nat)
    (bh : BlockHash) (ho : Orderly P c (.stateChange message.change now bh)) :
    Returns (stateTransition P c message.change now bh) fun _ => True := by
  have hsteady : Steady P c :=
    hrun.invariant (I := Steady P) h₀.steady fun _ _ _ hi hstep => hstep.steady hi
  have hhandled := (hsteady.handler_returns message).and_ensures (hsteady.handled ho)
  refine .bind hhandled fun r hr => ?_
  have hsane : sanityCheckNewState P r = .ok () := by
    unfold sanityCheckNewState
    split
    · next c' hc' => exact (hr.2 c' hc').sane
    · rfl
  exact .bind (Q := fun _ => True) (Returns.lift hsane trivial) fun _ _ => .pure trivial

end Invariant

/-! ## Messages that stop the node -/

section Concrete

def raisedBy (P : Primitives) (c : NettingChannelState) (message : WithdrawMessage) (now : Nat) :
    Option Raised :=
  match (stateTransition P c message.change now []).run (Stream'.const 0) with
  | .error raised => some raised
  | .ok _ => none

def partnerRequestOf (total nonce expiration : Nat) (coopSettle : Bool) : ReceiveWithdrawRequest where
  sender := 2
  messageIdentifier := 2
  canonicalIdentifier := toyIdentifier
  totalWithdraw := total
  nonce := nonce
  expiration := expiration
  signature := [0, 0]
  participant := 2
  coopSettle := coopSettle

def partnerConfirmationOf (total nonce expiration : Nat) : ReceiveWithdrawConfirmation where
  sender := 2
  messageIdentifier := 3
  canonicalIdentifier := toyIdentifier
  totalWithdraw := total
  nonce := nonce
  expiration := expiration
  signature := [0, 0]
  participant := 1

def partnerExpiredOf (total nonce expiration : Nat) : ReceiveWithdrawExpired where
  sender := 2
  messageIdentifier := 3
  canonicalIdentifier := toyIdentifier
  totalWithdraw := total
  expiration := expiration
  nonce := nonce
  participant := 2

def initiateCoopSettle (now : Nat) : ChannelOp :=
  .stateChange (.actionChannelCoopSettle { canonicalIdentifier := toyIdentifier }) now []

/-- While our cooperative settlement is pending, the partner pays us 50 of its 100. -/
def paidWhileSettling : List ChannelOp :=
  [initiateCoopSettle 5,
    .receiveLockedtransfer (toyTransfer (toyLock 50 7) (toyBalanceProof 0 0 50 [toyLock 50 7])) none,
    .receiveUnlock {
      sender := 2
      messageIdentifier := 3
      secret := [7]
      balanceProof := toyBalanceProof 1 50 0 [] } none]

/-- The partner, which can withdraw nothing, initiates a settlement; our answer expires,
and we initiate one ourselves. -/
def bothInitiated : List ChannelOp :=
  [.stateChange (.receiveWithdrawRequest (partnerRequestOf 0 1 30 true)) 10 [],
    .stateChange (.block ⟨40, []⟩) 40 [], initiateCoopSettle 41]

/-- Our answer to a settlement of the partner withdraws nothing. -/
def emptyAnswer : List ChannelOp :=
  [.stateChange (.receiveWithdrawRequest (partnerRequestOf 100 1 30 true)) 10 []]

theorem raised_of_execute (ops : List ChannelOp) {c₀ : NettingChannelState} {msg : WithdrawMessage}
    {now : Nat} {raised : Raised}
    (hexec : (execute (ChannelOp.record toyPrimitives (fun _ _ => True) 0) ops ([], c₀)).any
      (fun done => raisedBy toyPrimitives done.2 msg now = some raised) = true) :
    ∃ log c, Run (Step toyPrimitives) c₀ log c ∧
      raisedBy toyPrimitives c msg now = some raised := by
  obtain ⟨log, c, hrun, hraised⟩ := ChannelOp.exists_run hexec
  exact ⟨log, c, hrun.mono fun _ _ _ h => h.2, of_decide_eq_true hraised⟩

/-- A request after a payment, a confirmation after both ends initiated a settlement, an
expiration after an empty answer, and any message once a withdraw took locked tokens. -/
theorem withdraw_messages_raise :
    (∃ log c, Run (Step toyPrimitives) (toyChannel 100 100) log c ∧
      raisedBy toyPrimitives c (.request (partnerRequestOf 50 3 24 false)) 12 =
        some (.assertionError
          "The expected total withdraw of the partner doesn't match the withdraw-request")) ∧
    (∃ log c, Run (Step toyPrimitives) (toyChannel 100 0) log c ∧
      raisedBy toyPrimitives c (.confirmation (partnerConfirmationOf 100 2 60)) 42 =
        some (.assertionError "Only one party can initiate a coop settle")) ∧
    (∃ log c, Run (Step toyPrimitives) (toyChannel 0 100) log c ∧
      raisedBy toyPrimitives c (.expired (partnerExpiredOf 100 2 30)) 35 =
        some (.assertionError "total_withdraw must be ordered")) ∧
    ∃ log c, Run (Step toyPrimitives) (toyChannel 0 100) log c ∧
      raisedBy toyPrimitives c (.request (partnerRequestOf 100 4 40 false)) 12 =
        some (.assertionError
          "The balance can never be negative, that would be equivalent to a loan or a double spend.") := by
  refine ⟨raised_of_execute paidWhileSettling ?_, raised_of_execute bothInitiated ?_,
    raised_of_execute emptyAnswer ?_, raised_of_execute (withdrawAfterLock 100 ++ [toyUnlock]) ?_⟩
  · decide +kernel
  · decide +kernel
  · decide +kernel
  · decide +kernel

instance (P : Primitives) (c : NettingChannelState) (op : ChannelOp) : Decidable (Orderly P c op) :=
  decidable_of_iff
    (NoReuse P c op ∧ (op.rejected P c = false → WithdrawsCovered c op) ∧
      (op.initiatesCoopSettle = true →
        0 < getMaxWithdrawAmount c.ourState c.partnerState ∧ c.partnerState.initiatedCoopSettle = none) ∧
      (AnswersCoopSettle P c op → 0 < getMaxWithdrawAmount c.ourState c.partnerState) ∧
      (c.ourState.initiatedCoopSettle.isSome = true → op.movesFunds P c = false))
    ⟨fun ⟨h₁, h₂, h₃, h₄, h₅⟩ => ⟨h₁, h₂, h₃, h₄, h₅⟩,
      fun ⟨h₁, h₂, h₃, h₄, h₅⟩ => ⟨h₁, h₂, h₃, h₄, h₅⟩⟩

/-- Our cooperative settlement is answered by the partner: the request is handled. -/
theorem settlement_answer_returns :
    ∃ log c, Run (OrderlyStep toyPrimitives) (toyChannel 100 100) log c ∧
      c.ourState.initiatedCoopSettle.isSome = true ∧
      Returns (stateTransition toyPrimitives c (.receiveWithdrawRequest (partnerRequestOf 100 1 24 false)) 12 [])
        fun _ => True := by
  have hexec : (execute (ChannelOp.record toyPrimitives (Orderly toyPrimitives) 0) [initiateCoopSettle 5]
      ([], toyChannel 100 100)).any (fun done => done.2.ourState.initiatedCoopSettle.isSome = true ∧
        Orderly toyPrimitives done.2
          (.stateChange (.receiveWithdrawRequest (partnerRequestOf 100 1 24 false)) 12 [])) = true := by
    decide +kernel
  obtain ⟨log, c, hrun, hfacts⟩ := ChannelOp.exists_run hexec
  obtain ⟨hcoop, ho⟩ := of_decide_eq_true hfacts
  exact ⟨log, c, hrun, hcoop, withdraw_messages_return (toyChannel_fresh 100 100) hrun
    (.request (partnerRequestOf 100 1 24 false)) 12 [] ho⟩

end Concrete

end Raiden.Channel
