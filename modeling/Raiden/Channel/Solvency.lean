import Raiden.Channel.LockInvariant

/-! # Solvency

What an end has locked never exceeds its balance, provided that every withdraw
leaves its pending locks covered. The withdraw validators do not ask for that:
they compare with the balance, in which pending locks are still included. -/
namespace Raiden.Channel

open Lib

def Solvent (e o : NettingChannelEndState) : Prop := (getAmountLocked e : Int) ≤ getBalance e o

section Amounts

variable {e : NettingChannelEndState} {k : SecretHash} {lock : HashTimeLockState}
  {bp : BalanceProofState} {pending : List EncodedData}

theorem getAmountLocked_addLock_le :
    getAmountLocked (addLock e bp pending lock) ≤ getAmountLocked e + lock.amount := by
  have hset := Dict.sum_set e.secrethashesToLockedlocks lock.secrethash lock
    fun lock => lock.amount
  have hdel := Dict.sum_del_le e.secrethashesToLockedlocks lock.secrethash fun lock => lock.amount
  simp only [getAmountLocked, getAmountUnclaimedOnchain, addLock]
  omega

/-- Dropping a secrethash frees at least the amount of any lock filed under it. -/
theorem HasLock.getAmountLocked_dropLock_le (h : HasLock e k lock) :
    getAmountLocked (dropLock e k) + lock.amount ≤ getAmountLocked e := by
  have hl := Dict.sum_del_le e.secrethashesToLockedlocks k fun lock => lock.amount
  have hu := Dict.sum_del_le e.secrethashesToUnlockedlocks k fun u => u.lock.amount
  have ho := Dict.sum_del_le e.secrethashesToOnchainUnlockedlocks k fun u => u.lock.amount
  simp only [getAmountLocked, getAmountUnclaimedOnchain, dropLock, delUnclaimedLock]
  cases h with
  | locked h =>
    have := Dict.sum_of_get? (fun lock => lock.amount) h
    omega
  | unlocked h hlock =>
    have := Dict.sum_of_get? (fun u => u.lock.amount) h
    rw [hlock] at this
    omega
  | onchain h hlock =>
    have := Dict.sum_of_get? (fun u => u.lock.amount) h
    rw [hlock] at this
    omega

theorem getAmountLocked_register_le (secret : Secret) :
    getAmountLocked (registerSecretEndstate e secret k) ≤ getAmountLocked e := by
  unfold registerSecretEndstate
  split
  · exact Nat.le_refl _
  · next found hfound =>
    have hl := Dict.sum_of_get? (fun lock => lock.amount) hfound
    have hset := Dict.sum_set e.secrethashesToUnlockedlocks k ⟨found, secret⟩ fun u => u.lock.amount
    have hdel := Dict.sum_del_le e.secrethashesToUnlockedlocks k fun u => u.lock.amount
    dsimp only at hset
    simp only [getAmountLocked, getAmountUnclaimedOnchain]
    omega

theorem getAmountLocked_registerOnchain_le {e' : NettingChannelEndState} {secret : Secret}
    {now : Nat} (h : registerOnchainSecretEndstate e secret k now = .ok e') :
    getAmountLocked e' ≤ getAmountLocked e := by
  rcases registerOnchainSecretEndstate_cases h with rfl | ⟨found, hfound, -, rfl⟩
  · exact Nat.le_refl _
  · have hdrop := hfound.getAmountLocked_dropLock_le
    have hset := Dict.sum_set (e.secrethashesToOnchainUnlockedlocks.del k) k ⟨found, secret⟩
      fun u => u.lock.amount
    have hdel := Dict.sum_del_le (e.secrethashesToOnchainUnlockedlocks.del k) k fun u => u.lock.amount
    dsimp only at hset
    simp only [getAmountLocked, getAmountUnclaimedOnchain, dropLock, delUnclaimedLock] at hdrop ⊢
    omega

/-- With an empty list of pending locks the maps are empty. -/
theorem Tracked.getAmountLocked_eq_zero (ht : Tracked e) (hp : e.pendingLocks = []) :
    getAmountLocked e = 0 := by
  have hnone : ∀ hash lock, ¬HasLock e hash lock := fun hash lock h => by
    have := ht.pending h
    rw [hp] at this
    cases this
  have hlocks : locksOf e = [] := by
    refine List.eq_nil_iff_forall_not_mem.mpr fun lock hlock => ?_
    simp only [locksOf, List.mem_append, List.mem_map, Dict.mem_values_iff] at hlock
    rcases hlock with ⟨k, h⟩ | ⟨u, ⟨k, h⟩, rfl⟩ | ⟨u, ⟨k, h⟩, rfl⟩
    · exact hnone k lock (.locked h)
    · exact hnone k u.lock (.unlocked h rfl)
    · exact hnone k u.lock (.onchain h rfl)
  rw [getAmountLocked_eq_sum, hlocks]
  rfl

end Amounts

/-! ## What a step spends -/

/-- What a lock operation does to the amounts of an end. Unlocking moves an
amount from locked to transferred; only a new lock draws on the balance. -/
structure SpendStep (e o e' : NettingChannelEndState) : Prop where
  deposit : e'.contractBalance = e.contractBalance
  withdraw : e'.totalWithdraw = e.totalWithdraw
  transferred : e.transferredAmount ≤ e'.transferredAmount
  spent : (getAmountLocked e' + e'.transferredAmount : Int) ≤
    max (getAmountLocked e : Int) (getBalance e o) + e.transferredAmount

section Steps

variable {P : Primitives} {e o e' : NettingChannelEndState}

theorem getDistributable_le (e o : NettingChannelEndState) :
    getDistributable P e o ≤ getBalance e o - getAmountLocked e := Int.min_le_right _ _

theorem SpendStep.of_le (hd : e'.contractBalance = e.contractBalance)
    (hw : e'.totalWithdraw = e.totalWithdraw) (ht : e'.transferredAmount = e.transferredAmount)
    (hl : getAmountLocked e' ≤ getAmountLocked e) : SpendStep e o e' :=
  ⟨hd, hw, Nat.le_of_eq ht.symm, by rw [ht]; omega⟩

theorem EndStep.spendStep {added : Option SecretHash} (h : EndStep P added e o e') (ht : Tracked e) :
    SpendStep e o e' := by
  cases h with
  | unchanged => exact .of_le rfl rfl rfl (Nat.le_refl _)
  | @add bp lock locks _ facts =>
    have htransferred : (addLock e bp locks lock).transferredAmount = e.transferredAmount :=
      facts.transferred_eq
    refine ⟨rfl, rfl, Nat.le_of_eq htransferred.symm, ?_⟩
    have hlocked : getAmountLocked (addLock e bp locks lock) ≤ getAmountLocked e + lock.amount :=
      getAmountLocked_addLock_le
    have hamount := facts.amount_le
    have hdistributable := getDistributable_le (P := P) e o
    omega
  | @unlock bp lock locks hash facts =>
    have htransferred : (dropLock (setBalanceProof e bp locks) hash).transferredAmount =
        e.transferredAmount + lock.amount := facts.transferred_eq
    refine ⟨rfl, rfl, by rw [htransferred]; omega, ?_⟩
    have hlocked : getAmountLocked (dropLock (setBalanceProof e bp locks) hash) + lock.amount ≤
        getAmountLocked e := (facts.hasLock ht).getAmountLocked_dropLock_le
    omega
  | @expire bp lock locks hash facts =>
    rw [delUnclaimedLock_eq_dropLock (e := setBalanceProof e _ _) facts.not_onchain]
    have hlocked : getAmountLocked (dropLock (setBalanceProof e bp locks) hash) + lock.amount ≤
        getAmountLocked e := (facts.hasLock ht).getAmountLocked_dropLock_le
    exact .of_le rfl rfl facts.transferred_eq (by omega)
  | register secret k =>
    refine .of_le ?_ ?_ ?_ (getAmountLocked_register_le secret) <;> unfold registerSecretEndstate <;>
      split <;> rfl
  | registerOnchain h =>
    have hlocked := getAmountLocked_registerOnchain_le h
    rcases registerOnchainSecretEndstate_cases h with rfl | ⟨_, _, _, rfl⟩
    · exact .of_le rfl rfl rfl hlocked
    · exact .of_le rfl rfl rfl hlocked

end Steps

def Covered (e o : NettingChannelEndState) (request : Option Int) : Prop :=
  ∀ t, request = some t → t + getAmountLocked e ≤ getMaxWithdrawAmount e o

/-- The total withdraws an operation asks for, for our end and for the partner's. -/
def ChannelOp.requests (c : NettingChannelState) : ChannelOp → Option Int × Option Int
  | .stateChange change _ _ => (ourRequest c change, partnerRequest c change)
  | _ => (none, none)

/-- Every withdraw an operation asks for leaves the pending locks covered. -/
def WithdrawsCovered (c : NettingChannelState) (op : ChannelOp) : Prop :=
  Covered c.ourState c.partnerState (op.requests c).1 ∧
    Covered c.partnerState c.ourState (op.requests c).2

instance (e o : NettingChannelEndState) (request : Option Int) : Decidable (Covered e o request) :=
  decidable_of_iff (∀ t ∈ request, t + getAmountLocked e ≤ getMaxWithdrawAmount e o) Iff.rfl

instance (c : NettingChannelState) (op : ChannelOp) : Decidable (WithdrawsCovered c op) :=
  inferInstanceAs (Decidable (_ ∧ _))

section Runs

variable {P : Primitives} {e o e' o' : NettingChannelEndState}

theorem getBalance_eq_max_sub (e o : NettingChannelEndState) :
    getBalance e o = getMaxWithdrawAmount e o - e.totalWithdraw := by
  simp only [getBalance, getMaxWithdrawAmount, getBalanceWith, if_true, Bool.false_eq_true, if_false]
  omega

theorem getMaxWithdrawAmount_eq (e o : NettingChannelEndState) :
    getMaxWithdrawAmount e o = e.contractBalance - e.transferredAmount + o.transferredAmount := by
  simp only [getMaxWithdrawAmount, getBalanceWith, Bool.false_eq_true, if_false]
  omega

theorem SpendStep.solvent (he : SpendStep e o e') (ho : SpendStep o e o') (hs : Solvent e o) :
    Solvent e' o' := by
  have hspent := he.spent
  have htransferred := ho.transferred
  unfold Solvent at hs ⊢
  rw [getBalance_eq_max_sub, getMaxWithdrawAmount_eq] at hs hspent ⊢
  rw [he.deposit, he.withdraw]
  omega

theorem EndFrame.solvent {req : Option Int} (he : EndFrame e o req e') (ho : SameLocks o o')
    (hc : Covered e o req) (ht : Tracked e) (hs : Solvent e o) : Solvent e' o' := by
  have hdeposit := he.deposit
  have hlocked := he.same.getAmountLocked_eq
  have hmax : getMaxWithdrawAmount e o ≤ getMaxWithdrawAmount e' o' := by
    rw [getMaxWithdrawAmount_eq, getMaxWithdrawAmount_eq, he.same.transferredAmount_eq,
      ho.transferredAmount_eq]
    omega
  unfold Solvent at hs ⊢
  rw [getBalance_eq_max_sub] at hs ⊢
  cases he.withdraw with
  | le h => omega
  | requested t hr h =>
    have := hc t hr
    omega
  | everything hp h =>
    have := ht.getAmountLocked_eq_zero hp
    omega

theorem FreshEnd.solvent (he : FreshEnd e) (o : NettingChannelEndState) : Solvent e o := by
  have hlocked : getAmountLocked e = 0 := he.tracked.getAmountLocked_eq_zero he.pendingLocks
  have hwithdraw : e.totalWithdraw ≤ 0 := by
    rw [totalWithdraw_le_iff, he.onchainWithdraw, he.withdrawsPending]
    exact ⟨Int.le_refl 0, fun k hk => absurd hk (Dict.not_mem_empty k)⟩
  have htransferred : e.transferredAmount = 0 := by
    rw [NettingChannelEndState.transferredAmount, he.balanceProof, Option.elim_none]
  unfold Solvent
  rw [getBalance_eq_max_sub, getMaxWithdrawAmount_eq]
  omega

/-- Both ends: the invariant carried along a run. -/
structure ChannelSolvent (c : NettingChannelState) : Prop where
  ourTracked : Tracked c.ourState
  partnerTracked : Tracked c.partnerState
  our : Solvent c.ourState c.partnerState
  partner : Solvent c.partnerState c.ourState

theorem Step.channelSolvent {c c' : NettingChannelState} {label : ChannelOp × List Event}
    (h : Step P c label c') (hcovered : WithdrawsCovered c label.1) (hc : ChannelSolvent c) :
    ChannelSolvent c' := by
  obtain ⟨hour, hpartner⟩ := h.tracked hc.ourTracked hc.partnerTracked
  cases h.cases with
  | stateChange hop frame _ =>
    rw [hop] at hcovered
    exact ⟨hour, hpartner, frame.our.solvent frame.partner.same hcovered.1 hc.ourTracked hc.our,
      frame.partner.solvent frame.our.same hcovered.2 hc.partnerTracked hc.partner⟩
  | lock step =>
    have hspend := step.our.spendStep hc.ourTracked
    have hspend' := step.partner.spendStep hc.partnerTracked
    exact ⟨hour, hpartner, hspend.solvent hspend' hc.our, hspend'.solvent hspend hc.partner⟩

/-- The consequences of solvency for one end: nothing distributable is negative
and the balance survives the unlock of any pending lock. -/
structure EndSolvent (P : Primitives) (e o : NettingChannelEndState) : Prop where
  locked_le : (getAmountLocked e : Int) ≤ getBalance e o
  distributable : 0 ≤ getDistributable P e o
  unlock : ∀ k lock, getLock e k = some lock → 0 ≤ getBalance e o - lock.amount

theorem Solvent.endSolvent (h : Solvent e o) : EndSolvent P e o := by
  refine ⟨h, ?_, fun k lock hlock => ?_⟩
  · unfold Solvent at h
    exact Int.le_min.mpr ⟨Int.le_max_right _ _, by omega⟩
  · have hdrop := (HasLock.of_getLock hlock).getAmountLocked_dropLock_le
    unfold Solvent at h
    omega

/-- In every run in which each withdraw leaves the pending locks covered, both
ends stay solvent. -/
theorem solvent_of_covered_withdraws {c₀ c : NettingChannelState}
    {log : List (ChannelOp × List Event)} (h₀ : Fresh c₀)
    (hrun : Run (fun c label c' => WithdrawsCovered c label.1 ∧ Step P c label c') c₀ log c) :
    EndSolvent P c.ourState c.partnerState ∧ EndSolvent P c.partnerState c.ourState := by
  have hinv : ChannelSolvent c := by
    refine hrun.invariant (I := ChannelSolvent) ?_ ?_
    · exact ⟨h₀.our.tracked, h₀.partner.tracked, h₀.our.solvent _, h₀.partner.solvent _⟩
    · exact fun _ _ _ hi hs => hs.2.channelSolvent hs.1 hi
  exact ⟨hinv.our.endSolvent, hinv.partner.endSolvent⟩

/-- What an end put into the channel and what it paid out of it only grow. -/
structure Grows (e e' : NettingChannelEndState) : Prop where
  deposit : e.contractBalance ≤ e'.contractBalance
  transferred : e.transferredAmount ≤ e'.transferredAmount

theorem Grows.trans {e'' : NettingChannelEndState} (h : Grows e e') (h' : Grows e' e'') : Grows e e'' :=
  ⟨Nat.le_trans h.deposit h'.deposit, Nat.le_trans h.transferred h'.transferred⟩

theorem EndFrame.grows {req : Option Int} (h : EndFrame e o req e') : Grows e e' :=
  ⟨h.deposit, Nat.le_of_eq h.same.transferredAmount_eq.symm⟩

theorem SpendStep.grows (h : SpendStep e o e') : Grows e e' :=
  ⟨Nat.le_of_eq h.deposit.symm, h.transferred⟩

theorem Step.grows {c c' : NettingChannelState} {label : ChannelOp × List Event}
    (h : Step P c label c') (hour : Tracked c.ourState) (hpartner : Tracked c.partnerState) :
    Grows c.ourState c'.ourState ∧ Grows c.partnerState c'.partnerState := by
  cases h.cases with
  | stateChange hop frame _ => exact ⟨frame.our.grows, frame.partner.grows⟩
  | lock step => exact ⟨(step.our.spendStep hour).grows, (step.partner.spendStep hpartner).grows⟩

/-- From any reachable channel on, whatever operations follow, neither end loses a
deposit or takes back what it transferred. -/
theorem deposits_and_transfers_only_grow {c₀ c c' : NettingChannelState}
    {past log : List (ChannelOp × List Event)} (h₀ : Fresh c₀) (hpast : Run (Step P) c₀ past c)
    (hrun : Run (Step P) c log c') :
    Grows c.ourState c'.ourState ∧ Grows c.partnerState c'.partnerState := by
  have htracked : Tracked c.ourState ∧ Tracked c.partnerState :=
    hpast.invariant (I := fun c => Tracked c.ourState ∧ Tracked c.partnerState)
      ⟨h₀.our.tracked, h₀.partner.tracked⟩ fun _ _ _ hi hs => hs.tracked hi.1 hi.2
  refine (hrun.invariant (I := fun t => (Tracked t.ourState ∧ Tracked t.partnerState) ∧
    Grows c.ourState t.ourState ∧ Grows c.partnerState t.partnerState)
    ⟨htracked, ⟨Nat.le_refl _, Nat.le_refl _⟩, ⟨Nat.le_refl _, Nat.le_refl _⟩⟩ ?_).2
  intro t label u hi hs
  obtain ⟨⟨hour, hpartner⟩, hgrown, hgrown'⟩ := hi
  obtain ⟨hgrows, hgrows'⟩ := hs.grows hour hpartner
  exact ⟨hs.tracked hour hpartner, hgrown.trans hgrows, hgrown'.trans hgrows'⟩

end Runs

/-! ## A withdraw that uncovers a pending lock -/

/-- The partner locks 50 of its 100 and then asks to withdraw `total`. -/
def withdrawAfterLock (total : Nat) : List ChannelOp :=
  [.receiveLockedtransfer (toyTransfer (toyLock 50 7) (toyBalanceProof 0 0 50 [toyLock 50 7])) none,
    .stateChange (.receiveWithdrawRequest {
      sender := 2
      messageIdentifier := 2
      canonicalIdentifier := toyIdentifier
      totalWithdraw := total
      nonce := 2
      expiration := 30
      signature := [0, 0]
      participant := 2 }) 10 []]

def toyUnlock : ChannelOp :=
  .receiveUnlock {
    sender := 2
    messageIdentifier := 3
    secret := [7]
    balanceProof := toyBalanceProof 2 50 0 [] } none

theorem solvent_after_covered_withdraw :
    ∃ c log, Run (fun c label c' => WithdrawsCovered c label.1 ∧ Step toyPrimitives c label c')
        (toyChannel 0 100) log c ∧ EndSolvent toyPrimitives c.ourState c.partnerState ∧
      EndSolvent toyPrimitives c.partnerState c.ourState := by
  have hexec : (execute (ChannelOp.record toyPrimitives WithdrawsCovered 0) (withdrawAfterLock 50)
      ([], toyChannel 0 100)).any (fun _ => true) = true := by decide +kernel
  obtain ⟨log, c, hrun, -⟩ := ChannelOp.exists_run hexec
  exact ⟨c, log, hrun, solvent_of_covered_withdraws (toyChannel_fresh 0 100) hrun⟩

theorem transfer_grows_with_unlock :
    ∃ c log, Run (Step toyPrimitives) (toyChannel 0 100) log c ∧ c.partnerState.transferredAmount = 50 ∧
      Grows (toyChannel 0 100).ourState c.ourState ∧
      Grows (toyChannel 0 100).partnerState c.partnerState := by
  have hexec : (execute (ChannelOp.record toyPrimitives (fun _ _ => True) 0)
      (withdrawAfterLock 50 ++ [toyUnlock]) ([], toyChannel 0 100)).any (fun done =>
        decide (done.2.partnerState.transferredAmount = 50)) = true := by decide +kernel
  obtain ⟨log, c, hrun, hpaid⟩ := ChannelOp.exists_run hexec
  have hrun := hrun.mono fun _ _ _ h => h.2
  exact ⟨c, log, hrun, of_decide_eq_true hpaid,
    deposits_and_transfers_only_grow (toyChannel_fresh 0 100) (.start _) hrun⟩

/-- The withdraw is accepted although the lock is pending: what the partner can
distribute becomes negative, and so does its balance when the lock is unlocked. -/
theorem uncovered_withdraw_insolvent :
    ∃ c c' log log', Run (Step toyPrimitives) (toyChannel 0 100) log c ∧
      getDistributable toyPrimitives c.partnerState c.ourState = -50 ∧
      Run (Step toyPrimitives) c log' c' ∧ getBalance c'.partnerState c'.ourState = -50 := by
  have hexec : (execute (ChannelOp.record toyPrimitives (fun _ _ => True) 0) (withdrawAfterLock 100)
      ([], toyChannel 0 100)).any (fun done =>
        getDistributable toyPrimitives done.2.partnerState done.2.ourState = -50 ∧
        (execute (ChannelOp.record toyPrimitives (fun _ _ => True) 0) [toyUnlock] ([], done.2)).any fun last =>
          getBalance last.2.partnerState last.2.ourState = -50) = true := by decide +kernel
  obtain ⟨log, c, hrun, hfacts⟩ := ChannelOp.exists_run hexec
  obtain ⟨hdistributable, hexec⟩ := of_decide_eq_true hfacts
  obtain ⟨log', c', hrun', hbalance⟩ := ChannelOp.exists_run hexec
  exact ⟨c, c', log, log', hrun.mono fun _ _ _ h => h.2, hdistributable,
    hrun'.mono fun _ _ _ h => h.2, of_decide_eq_true hbalance⟩

end Raiden.Channel
