import Raiden.Channel.Handled

/-! # What a channel state change leaves alone

No state change delivered to the channel itself touches the locks or the
balance proofs: blocks, withdraws, deposits and the closing handlers only move
deposits, withdraws, nonces and the life cycle. Deposits never shrink, and the
total withdraw of an end grows only up to an amount that the state change names
or, in a cooperative settlement, up to everything the end owns. The life cycle
moves on by the handlers of closing and settlement only, and never back. -/
namespace Raiden.Channel

open Lib

variable (P : Primitives) {sc : ChannelStateChange} {t : Int} {e e' : NettingChannelEndState}
  {c' : NettingChannelState} {r : TransitionResult NettingChannelState}

structure SameLocks (e e' : NettingChannelEndState) : Prop where
  locked : e'.secrethashesToLockedlocks = e.secrethashesToLockedlocks
  unlocked : e'.secrethashesToUnlockedlocks = e.secrethashesToUnlockedlocks
  onchain : e'.secrethashesToOnchainUnlockedlocks = e.secrethashesToOnchainUnlockedlocks
  balanceProof : e'.balanceProof = e.balanceProof
  pendingLocks : e'.pendingLocks = e.pendingLocks
  address : e'.address = e.address

theorem SameLocks.refl (e : NettingChannelEndState) : SameLocks e e := ⟨rfl, rfl, rfl, rfl, rfl, rfl⟩

theorem SameLocks.transferredAmount_eq (h : SameLocks e e') :
    e'.transferredAmount = e.transferredAmount := by
  rw [NettingChannelEndState.transferredAmount, h.balanceProof, NettingChannelEndState.transferredAmount]

theorem SameLocks.getAmountLocked_eq (h : SameLocks e e') :
    getAmountLocked e' = getAmountLocked e := by
  simp only [getAmountLocked, getAmountUnclaimedOnchain, h.locked, h.unlocked, h.onchain]

/-- The default of an empty maximum never shows: the on-chain total is not negative. -/
theorem totalWithdraw_le_iff {b : Int} :
    e.totalWithdraw ≤ b ↔ (e.onchainTotalWithdraw : Int) ≤ b ∧ ∀ k ∈ e.withdrawsPending, k ≤ b := by
  have hkeys : (∀ k ∈ e.withdrawsPending, k ≤ b) ↔ ∀ k ∈ e.withdrawsPending.keys, k ≤ b := by
    simp only [Dict.mem_keys_iff]
  rw [hkeys, NettingChannelEndState.totalWithdraw, NettingChannelEndState.offchainTotalWithdraw]
  cases hmax : e.withdrawsPending.keys.max? with
  | none =>
    rw [List.max?_eq_none_iff] at hmax
    rw [Option.getD_none, hmax]
    exact ⟨fun h => ⟨by omega, nofun⟩, fun h => by omega⟩
  | some m =>
    rw [Option.getD_some, ← List.max?_le_iff hmax]
    omega

inductive WithdrawBound (e o : NettingChannelEndState) (request : Option Int)
    (e' : NettingChannelEndState) : Prop
  | le (h : e'.totalWithdraw ≤ e.totalWithdraw)
  | requested (t : Int) (hr : request = some t) (h : e'.totalWithdraw ≤ max e.totalWithdraw t)
  | everything (hp : e.pendingLocks = [])
      (h : e'.totalWithdraw ≤ max e.totalWithdraw (getMaxWithdrawAmount e o))

structure EndFrame (e o : NettingChannelEndState) (request : Option Int)
    (e' : NettingChannelEndState) : Prop where
  same : SameLocks e e'
  deposit : e.contractBalance ≤ e'.contractBalance
  withdraw : WithdrawBound e o request e'

theorem EndFrame.refl (e o : NettingChannelEndState) (req : Option Int) :
    EndFrame e o req e := ⟨.refl e, Nat.le_refl _, .le (Int.le_refl _)⟩

theorem EndFrame.quiet {o : NettingChannelEndState} {req : Option Int} (same : SameLocks e e')
    (deposit : e'.contractBalance = e.contractBalance) (withdraw : e'.totalWithdraw = e.totalWithdraw) :
    EndFrame e o req e' :=
  ⟨same, Nat.le_of_eq deposit.symm, .le (Int.le_of_eq withdraw)⟩

section

variable (c : NettingChannelState)

def ourRequest : ChannelStateChange → Option Int
  | .actionChannelWithdraw act => some act.totalWithdraw
  | .contractReceiveChannelWithdraw act =>
    if act.participant = c.ourState.address then some act.totalWithdraw else none
  | _ => none

def partnerRequest : ChannelStateChange → Option Int
  | .receiveWithdrawRequest act => some act.totalWithdraw
  | .contractReceiveChannelWithdraw act =>
    if act.participant = c.ourState.address then none
    else if act.participant = c.partnerState.address then some act.totalWithdraw else none
  | _ => none

/-! ## The life cycle -/

def closedBlock : Option Nat :=
  c.closeTransaction.bind TransactionExecutionStatus.finishedBlockNumber

structure SameLife (c c' : NettingChannelState) : Prop where
  settleTimeout : c'.settleTimeout = c.settleTimeout
  revealTimeout : c'.revealTimeout = c.revealTimeout
  close : c'.closeTransaction = c.closeTransaction
  settle : c'.settleTransaction = c.settleTransaction

theorem SameLife.refl : SameLife c c := ⟨rfl, rfl, rfl, rfl⟩

theorem SameLife.trans {c₁ c₂ c₃ : NettingChannelState} (h : SameLife c₁ c₂) (h' : SameLife c₂ c₃) :
    SameLife c₁ c₃ :=
  ⟨h'.settleTimeout.trans h.settleTimeout, h'.revealTimeout.trans h.revealTimeout,
    h'.close.trans h.close, h'.settle.trans h.settle⟩

/-- The moves of the life cycle: closing and settlement, started or mined. -/
inductive LifeStep (c : NettingChannelState) (change : ChannelStateChange)
    (c' : NettingChannelState) : Prop
  | same (close : c'.closeTransaction = c.closeTransaction)
      (settle : c'.settleTransaction = c.settleTransaction)
  | closing {now : Nat} (prior : closedBlock c = none)
      (close : c'.closeTransaction = some ⟨some now, none, none⟩)
      (settle : c'.settleTransaction = c.settleTransaction)
  | closed {act : ContractReceiveChannelClosed}
      (hchange : change = .contractReceiveChannelClosed act)
      (close : c'.closeTransaction = setFinished c.closeTransaction act.blockNumber)
      (settle : c'.settleTransaction = c.settleTransaction)
  | settling {act : Block} {n : Nat} (hchange : change = .block act)
      (mined : closedBlock c = some n) (passed : n + c.settleTimeout < act.blockNumber)
      (close : c'.closeTransaction = c.closeTransaction) (settle : c'.settleTransaction.isSome = true)
  | settled {act : ContractReceiveChannelSettled}
      (hchange : change = .contractReceiveChannelSettled act)
      (locks : ¬(act.ourOnchainLocksroot = locksrootOfNoLocks P ∧
        act.partnerOnchainLocksroot = locksrootOfNoLocks P))
      (close : c'.closeTransaction = c.closeTransaction) (settle : c'.settleTransaction.isSome = true)

structure LifeFrame (change : ChannelStateChange) (c' : NettingChannelState) : Prop where
  settleTimeout : c'.settleTimeout = c.settleTimeout
  revealTimeout : c'.revealTimeout = c.revealTimeout ∨
    ∃ identifier, change = .actionChannelSetRevealTimeout identifier c'.revealTimeout
  step : LifeStep P c change c'

theorem SameLife.frame {c : NettingChannelState} (h : SameLife c c') (sc : ChannelStateChange) :
    LifeFrame P c sc c' :=
  ⟨h.settleTimeout, .inl h.revealTimeout, .same h.close h.settle⟩

/-! ## The frame of a state change -/

structure ChannelFrame (change : ChannelStateChange) (c' : NettingChannelState) : Prop where
  our : EndFrame c.ourState c.partnerState (ourRequest c change) c'.ourState
  partner : EndFrame c.partnerState c.ourState (partnerRequest c change) c'.partnerState
  identifier : c'.canonicalIdentifier = c.canonicalIdentifier
  token : c'.tokenAddress = c.tokenAddress
  life : LifeFrame P c change c'

end

/-! ## Changes of one end -/

section EndState

variable {e o : NettingChannelEndState} {req : Option Int}

theorem totalWithdraw_set_le {w : PendingWithdrawState}
    (hp : e'.withdrawsPending = e.withdrawsPending.set t w)
    (ho : e'.onchainTotalWithdraw = e.onchainTotalWithdraw) :
    e'.totalWithdraw ≤ max e.totalWithdraw t := by
  obtain ⟨honchain, hpending⟩ := totalWithdraw_le_iff.mp (Int.le_refl e.totalWithdraw)
  rw [totalWithdraw_le_iff, hp, ho]
  refine ⟨by omega, fun k hk => ?_⟩
  rcases Dict.mem_set.mp hk with rfl | hk
  · omega
  · have := hpending k hk
    omega

theorem totalWithdraw_del_le (hp : e'.withdrawsPending = e.withdrawsPending.del t)
    (ho : e'.onchainTotalWithdraw = e.onchainTotalWithdraw) : e'.totalWithdraw ≤ e.totalWithdraw := by
  obtain ⟨honchain, hpending⟩ := totalWithdraw_le_iff.mp (Int.le_refl e.totalWithdraw)
  rw [totalWithdraw_le_iff, hp, ho]
  exact ⟨honchain, fun k hk => hpending k (Dict.mem_del.mp hk).2⟩

theorem setOnchainTotalWithdraw_frame (t : Nat) :
    EndFrame e o (some t) (setOnchainTotalWithdraw e t) := by
  refine ⟨⟨rfl, rfl, rfl, rfl, rfl, rfl⟩, Nat.le_refl _, .requested t rfl ?_⟩
  obtain ⟨-, hpending⟩ := totalWithdraw_le_iff.mp (Int.le_refl e.totalWithdraw)
  rw [totalWithdraw_le_iff]
  refine ⟨by simp only [setOnchainTotalWithdraw]; omega, fun k hk => ?_⟩
  have := hpending k (Dict.mem_del.mp hk).2
  omega

theorem updateContractBalance_frame (balance : Nat) :
    EndFrame e o req (updateContractBalance e balance) := by
  unfold updateContractBalance
  split
  · next h => exact ⟨⟨rfl, rfl, rfl, rfl, rfl, rfl⟩, Nat.le_of_lt h, .le (Int.le_refl _)⟩
  · exact .refl e o req

end EndState

section Handlers

variable {c : NettingChannelState} {now : Nat} {bh : BlockHash}

theorem closedBlock_of_prior (h : getStatus c ∈ channelStatesPriorToClosed) : closedBlock c = none := by
  unfold getStatus at h
  unfold closedBlock
  cases hclose : c.closeTransaction with
  | none => rfl
  | some close =>
    rw [hclose] at h
    cases hsettle : c.settleTransaction with
    | some settle =>
      rw [hsettle] at h
      simp only [TransactionExecutionStatus.status, channelStatesPriorToClosed] at h
      split_ifs at h <;> simp at h
    | none =>
      rw [hsettle] at h
      simp only [TransactionExecutionStatus.status, channelStatesPriorToClosed] at h
      split_ifs at h with hsuccess hfinished
      · simp at h
      · exact hfinished
      · simp at h

theorem isSome_setFinished (tx : Option TransactionExecutionStatus) (now : Nat) :
    (setFinished tx now).isSome = true := by
  unfold setFinished
  split
  · rfl
  · split <;> rfl

structure OurWithdraws (c : NettingChannelState) (bound : Int) (c' : NettingChannelState) : Prop where
  same : SameLocks c.ourState c'.ourState
  deposit : c'.ourState.contractBalance = c.ourState.contractBalance
  withdraw : c'.ourState.totalWithdraw ≤ bound
  rest : c' = { c with ourState := c'.ourState }

theorem WithdrawRequested.ours (h : WithdrawRequested c t r) :
    OurWithdraws c (max c.ourState.totalWithdraw t) r.newState := by
  cases h with
  | closed => exact ⟨.refl _, rfl, Int.le_max_left _ _, rfl⟩
  | sent => exact ⟨⟨rfl, rfl, rfl, rfl, rfl, rfl⟩, rfl, totalWithdraw_set_le rfl rfl, rfl⟩

theorem Swept.ours {ws : List PendingWithdrawState} (h : Swept now ws c r) :
    OurWithdraws c c.ourState.totalWithdraw r.newState := by
  induction h with
  | done c | stopped => exact ⟨.refl _, rfl, Int.le_refl _, rfl⟩
  | expired _ _ _ rest ih =>
    obtain ⟨⟨h1, h2, h3, h4, h5, h6⟩, hdeposit, hwithdraw, -⟩ := ih
    exact ⟨⟨h1, h2, h3, h4, h5, h6⟩, hdeposit, Int.le_trans hwithdraw (totalWithdraw_del_le rfl rfl),
      (Swept.expired ‹_› ‹_› ‹_› rest).rest⟩

private theorem frame_of_ends
    (our : EndFrame c.ourState c.partnerState (ourRequest c sc) c'.ourState)
    (partner : EndFrame c.partnerState c.ourState (partnerRequest c sc) c'.partnerState)
    (ident : c'.canonicalIdentifier = c.canonicalIdentifier)
    (token : c'.tokenAddress = c.tokenAddress) (life : SameLife c c') : ChannelFrame P c sc c' :=
  ⟨our, partner, ident, token, life.frame P sc⟩

private theorem frame_refl (c : NettingChannelState) (sc : ChannelStateChange) :
    ChannelFrame P c sc c :=
  frame_of_ends P (.refl _ _ _) (.refl _ _ _) rfl rfl (.refl c)

private theorem OurWithdraws.frame {bound : Int} (h : OurWithdraws c bound c')
    (withdraw : WithdrawBound c.ourState c.partnerState (ourRequest c sc) c'.ourState) :
    ChannelFrame P c sc c' := by
  have hour := h.same
  have hdeposit := Nat.le_of_eq h.deposit.symm
  rw [h.rest] at hour hdeposit withdraw ⊢
  exact frame_of_ends P ⟨hour, hdeposit, withdraw⟩ (.refl _ _ _) rfl rfl ⟨rfl, rfl, rfl, rfl⟩

theorem clearOnchainLocksroot_frame (sender : Address) :
    ChannelFrame P c sc (clearOnchainLocksroot P c sender) := by
  unfold clearOnchainLocksroot
  split
  · exact frame_of_ends P (.quiet ⟨rfl, rfl, rfl, rfl, rfl, rfl⟩ rfl rfl) (.refl _ _ _) rfl rfl
      ⟨rfl, rfl, rfl, rfl⟩
  · split
    · exact frame_of_ends P (.refl _ _ _) (.quiet ⟨rfl, rfl, rfl, rfl, rfl, rfl⟩ rfl rfl) rfl rfl
        ⟨rfl, rfl, rfl, rfl⟩
    · exact frame_refl P c sc

theorem addDeposit_frame (part : Address) (balance : Nat) (feeSchedule : FeeScheduleState) :
    ChannelFrame P c sc { addDeposit c part balance with feeSchedule } := by
  unfold addDeposit
  split
  · exact frame_of_ends P (updateContractBalance_frame _) (.refl _ _ _) rfl rfl ⟨rfl, rfl, rfl, rfl⟩
  · split
    · exact frame_of_ends P (.refl _ _ _) (updateContractBalance_frame _) rfl rfl ⟨rfl, rfl, rfl, rfl⟩
    · exact frame_of_ends P (.refl _ _ _) (.refl _ _ _) rfl rfl ⟨rfl, rfl, rfl, rfl⟩

theorem requestStored_frame (c : NettingChannelState) (act : ReceiveWithdrawRequest) :
    EndFrame c.partnerState c.ourState (some (act.totalWithdraw : Int))
      (requestStored c act).partnerState :=
  ⟨⟨rfl, rfl, rfl, rfl, rfl, rfl⟩, Nat.le_refl _, .requested _ rfl (totalWithdraw_set_le rfl rfl)⟩

theorem CoopHandled.frame {act : ReceiveWithdrawRequest}
    (h : CoopHandled (requestStored c act) act (.ok r)) :
    ChannelFrame P c (.receiveWithdrawRequest act) (confirmWithdraw act r).newState := by
  have hstored := requestStored_frame c act
  cases h with
  | signed =>
    exact frame_of_ends P (.quiet ⟨rfl, rfl, rfl, rfl, rfl, rfl⟩ rfl rfl) hstored rfl rfl
      ⟨rfl, rfl, rfl, rfl⟩
  | answered none total partners ours requested =>
    obtain ⟨⟨h1, h2, h3, h4, h5, h6⟩, hdeposit, hwithdraw, hrest⟩ := requested.ours
    have hempty : c.ourState.pendingLocks = [] := List.length_eq_zero_iff.mp ours
    refine frame_of_ends P ⟨⟨h1, h2, h3, h4, h5, h6⟩, Nat.le_of_eq hdeposit.symm,
      .everything hempty hwithdraw⟩ ?_ ?_ ?_ ?_ <;> dsimp only [confirmWithdraw] <;> rw [hrest]
    · exact ⟨⟨rfl, rfl, rfl, rfl, rfl, rfl⟩, Nat.le_refl _, .requested _ rfl (totalWithdraw_set_le rfl rfl)⟩
    · exact rfl
    · exact rfl
    · exact ⟨rfl, rfl, rfl, rfl⟩

theorem Handled.frame {r : TransitionResult (Option NettingChannelState)}
    (h : Handled P c now bh sc r) (c' : NettingChannelState)
    (hc : r.newState = some c') : ChannelFrame P c sc c' := by
  have hpartner : ∀ nonce : Nat, EndFrame c.partnerState c.ourState none { c.partnerState with nonce } :=
    fun nonce => .quiet ⟨rfl, rfl, rfl, rfl, rfl, rfl⟩ rfl rfl
  cases h with
  | settledEmpty | unlockedAll => cases hc
  | ignored | refused => cases hc; exact frame_refl P c _
  | closing prior =>
    cases hc
    exact ⟨.refl _ _ _, .refl _ _ _, rfl, rfl, rfl, .inl rfl,
      .closing (closedBlock_of_prior prior) rfl rfl⟩
  | closed =>
    cases hc
    exact ⟨.refl _ _ _, .refl _ _ _, rfl, rfl, rfl, .inl rfl, .closed rfl rfl rfl⟩
  | closedByPartner =>
    cases hc
    exact ⟨.refl _ _ _, .refl _ _ _, rfl, rfl, rfl, .inl rfl, .closed rfl rfl rfl⟩
  | updated => cases hc; exact frame_of_ends P (.refl _ _ _) (.refl _ _ _) rfl rfl ⟨rfl, rfl, rfl, rfl⟩
  | settled here locks =>
    cases hc
    exact ⟨.quiet ⟨rfl, rfl, rfl, rfl, rfl, rfl⟩ rfl rfl, .quiet ⟨rfl, rfl, rfl, rfl, rfl, rfl⟩ rfl rfl,
      rfl, rfl, rfl, .inl rfl, .settled rfl locks rfl (isSome_setFinished _ _)⟩
  | unlocked => cases hc; exact clearOnchainLocksroot_frame P _
  | timeoutSet =>
    cases hc
    exact ⟨.refl _ _ _, .refl _ _ _, rfl, rfl, rfl, .inr ⟨_, rfl⟩, .same rfl rfl⟩
  | deposited => cases hc; exact addDeposit_frame P _ _ _
  | withdrawn ours =>
    cases hc
    refine frame_of_ends P ?_ (.refl _ _ _) rfl rfl ⟨rfl, rfl, rfl, rfl⟩
    rw [ourRequest, if_pos ours]
    exact setOnchainTotalWithdraw_frame _
  | withdrawnByPartner ours partners =>
    cases hc
    refine frame_of_ends P (.refl _ _ _) ?_ rfl rfl ⟨rfl, rfl, rfl, rfl⟩
    rw [partnerRequest, if_neg ours, if_pos partners]
    exact setOnchainTotalWithdraw_frame _
  | withdrawing valid requested =>
    cases hc
    exact requested.ours.frame P (.requested _ rfl requested.ours.withdraw)
  | coopSettling valid total requested =>
    cases hc
    obtain ⟨-, -, hlocks, -⟩ := isValidActionCoopsettle_ok valid
    obtain ⟨⟨h1, h2, h3, h4, h5, h6⟩, hdeposit, hwithdraw, hrest⟩ := requested.ours
    have hours : OurWithdraws c _ _ :=
      ⟨⟨h1, h2, h3, h4, h5, h6⟩, hdeposit, hwithdraw, by rw [hrest]⟩
    exact hours.frame P (.everything hlocks hwithdraw)
  | requestRefused =>
    cases hc
    exact frame_of_ends P (.refl _ _ _) (requestStored_frame c _) rfl rfl ⟨rfl, rfl, rfl, rfl⟩
  | requestConfirmed =>
    cases hc
    exact frame_of_ends P (.quiet ⟨rfl, rfl, rfl, rfl, rfl, rfl⟩ rfl rfl) (requestStored_frame c _) rfl rfl
      ⟨rfl, rfl, rfl, rfl⟩
  | requestJoined valid coop handled => cases hc; exact handled.frame P
  | confirmed
  | confirmedInTime => cases hc; exact frame_of_ends P (.refl _ _ _) (hpartner _) rfl rfl ⟨rfl, rfl, rfl, rfl⟩
  | confirmedOurs =>
    cases hc
    exact frame_of_ends P (.quiet ⟨rfl, rfl, rfl, rfl, rfl, rfl⟩ rfl rfl) (hpartner _) rfl rfl
      ⟨rfl, rfl, rfl, rfl⟩
  | expired =>
    cases hc
    exact frame_of_ends P (.refl _ _ _) ⟨⟨rfl, rfl, rfl, rfl, rfl, rfl⟩, Nat.le_refl _,
      .le (totalWithdraw_del_le rfl rfl)⟩ rfl rfl ⟨rfl, rfl, rfl, rfl⟩
  | swept opened sweep => cases hc; exact sweep.ours.frame P (.le sweep.ours.withdraw)
  | settling closed mined passed =>
    cases hc
    exact ⟨.refl _ _ _, .refl _ _ _, rfl, rfl, rfl, .inl rfl, .settling rfl mined passed rfl rfl⟩

end Handlers

end Raiden.Channel
