import Raiden.Channel.WithdrawSafety

/-! # The sweep over the expired withdraws

At every block an open channel expires its pending withdraws in the order in which they
were requested, and stops at the first one that is not due. The expiration of a withdraw
is set from the reveal timeout of its request, so a lower timeout can make a later withdraw
due before an earlier one, which then keeps it from being swept. -/
namespace Raiden.Channel

open Lib

def withdrawDue (now : Nat) (w : PendingWithdrawState) : Bool :=
  isWithdrawExpired now (getSenderExpirationThreshold w.expiration)

def DueFirst (now : Nat) (ws : List PendingWithdrawState) : Prop :=
  ws.Pairwise fun w w' => withdrawDue now w' = true → withdrawDue now w = true

instance (now : Nat) (ws : List PendingWithdrawState) : Decidable (DueFirst now ws) :=
  inferInstanceAs (Decidable (ws.Pairwise _))

def SentFor (w : PendingWithdrawState) (event : Event) : Prop :=
  ∃ message, event = .sendWithdrawExpired message ∧ message.totalWithdraw = w.totalWithdraw ∧
    message.expiration = w.expiration

/-- The withdraws are taken off our end, each with one message and one record. -/
structure Expires (c : NettingChannelState) (removed : List PendingWithdrawState) (c' : NettingChannelState)
    (es : List Event) : Prop where
  pending : c.ourState.withdrawsPending.values = removed ++ c'.ourState.withdrawsPending.values
  recorded : c'.ourState.withdrawsExpired = c.ourState.withdrawsExpired ++
    removed.map fun w => ⟨w.totalWithdraw, w.expiration, w.nonce, w.recipientMetadata⟩
  sent : List.Forall₂ SentFor removed es

section Sweep

variable {P : Primitives} {c c' : NettingChannelState} {now : Nat} {ws : List PendingWithdrawState}
  {r : TransitionResult NettingChannelState}

theorem dueFirst_iff : DueFirst now ws ↔
    ∀ w ∈ ws.dropWhile (withdrawDue now), withdrawDue now w = false := by
  induction ws with
  | nil => simp [DueFirst]
  | cons w ws ih =>
    unfold DueFirst at ih ⊢
    rw [List.pairwise_cons, ih]
    by_cases hdue : withdrawDue now w = true
    · simp [hdue]
    · -- everything after a withdraw that is not due stays
      rw [List.dropWhile_cons_of_neg hdue]
      simp only [hdue, Bool.false_eq_true, imp_false, Bool.not_eq_true, List.forall_mem_cons, true_and]
      exact and_iff_left_of_imp fun h w' hw' => h w' ((List.dropWhile_suffix _).subset hw')

/-- The withdraws that are due leave from the front. -/
theorem Swept.expires (h : Swept now ws c r)
    (hfiled : ∀ entry ∈ c.ourState.withdrawsPending.entries, entry.1 = entry.2.totalWithdraw)
    (hws : c.ourState.withdrawsPending.values = ws) :
    ∃ removed, Expires c removed r.newState r.events ∧
      r.newState.ourState.withdrawsPending.values = ws.dropWhile (withdrawDue now) := by
  induction h with
  | done => exact ⟨[], ⟨rfl, (List.append_nil _).symm, .nil⟩, hws⟩
  | @stopped w _ _ due =>
    refine ⟨[], ⟨rfl, (List.append_nil _).symm, .nil⟩, hws.trans ?_⟩
    rw [List.dropWhile_cons_of_neg]
    exact Bool.eq_false_iff.mp due
  | @expired w ws c msg r due same nonce rest ih =>
    obtain ⟨entry, entries, hentries, rfl, hrest⟩ := List.map_eq_cons_iff.mp hws
    -- the first entry is the one that is deleted
    have hdel : (c.ourState.withdrawsPending.del entry.2.totalWithdraw).entries = entries :=
      hfiled entry (hentries ▸ List.mem_cons_self) ▸ Dict.entries_del_head hentries
    have hfiled' : ∀ entry ∈ entries, entry.1 = entry.2.totalWithdraw :=
      fun _ he => hfiled _ (hentries ▸ List.mem_cons_of_mem _ he)
    obtain ⟨removed, ⟨hpending, hrecorded, hsent⟩, hleft⟩ :=
      ih (by rwa [hdel]) ((congrArg (List.map Prod.snd) hdel).trans hrest)
    refine ⟨entry.2 :: removed, ⟨?_, ?_, .cons ⟨msg, rfl, same⟩ hsent⟩, ?_⟩
    · rw [hws, ← hrest, ← hdel, List.cons_append]
      exact congrArg _ hpending
    · rw [hrecorded, List.append_assoc]
      rfl
    · have hdue : withdrawDue now entry.2 = true := due
      rw [List.dropWhile_cons_of_pos hdue]
      exact hleft

theorem filed_of_checkWithdrawsOrdered {coopSettle : Bool} {previous : Int}
    {entries : List (Int × PendingWithdrawState)}
    (h : checkWithdrawsOrdered coopSettle previous entries = .ok ()) :
    ∀ entry ∈ entries, entry.1 = entry.2.totalWithdraw := by
  induction entries generalizing previous with
  | nil => exact nofun
  | cons entry entries ih =>
    obtain ⟨total, w⟩ := entry
    unfold checkWithdrawsOrdered at h
    cases coopSettle <;> simp only [seq_ok_iff, assert_eq_ok, exists_const, Bool.true_eq_false, if_false,
      if_true] at h
    all_goals exact List.forall_mem_cons.mpr ⟨by tauto, ih (by tauto)⟩

/-- In every state of a channel, the pending withdraws are filed under their totals: the
sanity check asserts it whenever they change. -/
theorem Run.filed {c₀ : NettingChannelState} {log : List (ChannelOp × List Event)} (hfresh : Fresh c₀)
    (h : Run (Step P) c₀ log c) :
    ∀ entry ∈ c.ourState.withdrawsPending.entries, entry.1 = entry.2.totalWithdraw := by
  refine h.invariant (I := fun c => ∀ entry ∈ c.ourState.withdrawsPending.entries,
    entry.1 = entry.2.totalWithdraw) ?_ fun c label c' hc hstep => ?_
  · rw [hfresh.our.withdrawsPending]
    exact nofun
  · cases hstep.cases with
    | stateChange _ _ sane => exact filed_of_checkWithdrawsOrdered (sanityCheck_iff.mp sane).ordered
    | lock step => rwa [step.our.sameAccount.withdrawsPending]

end Sweep

/-- After a block no pending withdraw of an open channel is due, and each one that was swept
has its message and its record, if and only if those that are due stood first. -/
theorem expired_withdraws_swept_iff {P : Primitives} {c₀ c c' : NettingChannelState}
    {log : List (ChannelOp × List Event)} {act : Block} {now : Nat} {bh : BlockHash}
    {es : List Event} (hfresh : Fresh c₀) (hrun : Run (Step P) c₀ log c) (hopened : getStatus c = .opened)
    (hstep : Step P c (.stateChange (.block act) now bh, es) c') :
    ((∀ w ∈ c'.ourState.withdrawsPending.values, now < getSenderExpirationThreshold w.expiration) ∧
        ∃ removed, Expires c removed c' es) ↔ DueFirst now c.ourState.withdrawsPending.values := by
  have hswept := hstep.of_ensures P (stateTransition_ensures P (ensures_map_kept
    (Q := fun r => ∃ r', r = kept r' ∧ Swept now c.ourState.withdrawsPending.values c r')
    ((handleBlock_swept act hopened).mono fun r hr => ⟨r, rfl, hr⟩)))
  obtain ⟨⟨r, hr, hswept⟩, -⟩ := hswept
  cases hr
  obtain ⟨removed, hexpires, hleft⟩ := hswept.expires (Run.filed hfresh hrun) rfl
  rw [and_iff_left ⟨removed, hexpires⟩, dueFirst_iff, hleft]
  simp [withdrawDue, isWithdrawExpired]

/-! ## A lowered reveal timeout -/

def ownWithdraw (totalWithdraw : Int) (now : Nat) : ChannelOp :=
  .stateChange (.actionChannelWithdraw { canonicalIdentifier := toyIdentifier, totalWithdraw }) now []

def blockAt (now : Nat) : ChannelOp :=
  .stateChange (.block ⟨now, []⟩) now []

theorem block_of_exec (ops : List ChannelOp) (now : Nat)
    (p : NettingChannelState → NettingChannelState → Bool)
    (h : (execute (ChannelOp.record toyPrimitives (fun _ _ => True) 0) ops ([], toyChannel 100 0)).any
      (fun done => ((blockAt now).next toyPrimitives 0 done.2).any (p done.2)) = true) :
    ∃ log c es c', Run (Step toyPrimitives) (toyChannel 100 0) log c ∧
      Step toyPrimitives c (blockAt now, es) c' ∧ p c c' = true := by
  obtain ⟨log, c, hrun, hnext⟩ := ChannelOp.exists_run h
  obtain ⟨c', hnext, hp⟩ := (Option.any_eq_true _ _).mp hnext
  obtain ⟨es, hstep⟩ := ChannelOp.next_step toyPrimitives hnext
  exact ⟨log, c, es, c', hrun.mono fun _ _ _ h => h.2, hstep, hp⟩

/-- Two withdraws with one reveal timeout are swept together. -/
theorem expired_withdraws_swept :
    ∃ log c es c', Run (Step toyPrimitives) (toyChannel 100 0) log c ∧ getStatus c = .opened ∧
      DueFirst 40 c.ourState.withdrawsPending.values ∧
      c.ourState.withdrawsPending.values.map (·.totalWithdraw) = [30, 50] ∧
      Step toyPrimitives c (blockAt 40, es) c' ∧ ∃ removed, Expires c removed c' es := by
  obtain ⟨log, c, es, c', hrun, hstep, hp⟩ := block_of_exec [ownWithdraw 30 5, ownWithdraw 50 6] 40
    (fun c _ => getStatus c = .opened ∧ DueFirst 40 c.ourState.withdrawsPending.values ∧
      c.ourState.withdrawsPending.values.map (·.totalWithdraw) = [30, 50]) (by decide +kernel)
  obtain ⟨hopened, hdue, htotals⟩ := of_decide_eq_true hp
  exact ⟨log, c, es, c', hrun, hopened, hdue, htotals, hstep,
    ((expired_withdraws_swept_iff (toyChannel_fresh 100 0) hrun hopened hstep).mpr hdue).2⟩

/-- The second withdraw is requested with a reveal timeout of 7 in place of 10. It is due at
block 30, and is left behind the first one, which is not. -/
theorem expired_withdraw_left :
    ∃ log c es c', Run (Step toyPrimitives) (toyChannel 100 0) log c ∧
      Step toyPrimitives c (blockAt 30, es) c' ∧ getStatus c = .opened ∧
      c'.ourState.withdrawsPending.values.map (fun w => getSenderExpirationThreshold w.expiration) = [34, 29] := by
  obtain ⟨log, c, es, c', hrun, hstep, hp⟩ := block_of_exec
    [ownWithdraw 30 5, .stateChange (.actionChannelSetRevealTimeout toyIdentifier 7) 6 [], ownWithdraw 50 6] 30
    (fun c c' => getStatus c = .opened ∧ c'.ourState.withdrawsPending.values.map
      (fun w => getSenderExpirationThreshold w.expiration) = [34, 29]) (by decide +kernel)
  exact ⟨log, c, es, c', hrun, hstep, of_decide_eq_true hp⟩

end Raiden.Channel
