import Raiden.Channel.Life

/-! # The life cycle of a channel

A channel is opened, closed, settled and, when no locks are left on-chain,
removed. What every operation does to the transactions of the life cycle, to
the locksroots on-chain and to the two transactions sent after the closing is
said once, and the properties of whole runs are derived from it: no way back
from a closed channel, one settlement after the settlement window, one update
of the balance proof of the partner, and the removal. -/
namespace Raiden.Channel

open Lib

variable {P : Primitives} {c c' : NettingChannelState} {bh : BlockHash} {op : ChannelOp}
  {label : ChannelOp × List Event} {log : List (ChannelOp × List Event)} {es : List Event}
  {now : Nat} {next s : Option NettingChannelState} {r : TransitionResult NettingChannelState}
  {sc : ChannelStateChange} {started : Nat} {act : ReceiveWithdrawRequest}

structure SamePhase (c c' : NettingChannelState) : Prop where
  close : c'.closeTransaction = c.closeTransaction
  settle : c'.settleTransaction = c.settleTransaction
  ourLocksroot : c'.ourState.onchainLocksroot = c.ourState.onchainLocksroot
  partnerLocksroot : c'.partnerState.onchainLocksroot = c.partnerState.onchainLocksroot

theorem SamePhase.refl (c : NettingChannelState) : SamePhase c c := ⟨rfl, rfl, rfl, rfl⟩

theorem SamePhase.trans {c₁ c₂ c₃ : NettingChannelState} (h : SamePhase c₁ c₂) (h' : SamePhase c₂ c₃) :
    SamePhase c₁ c₃ :=
  ⟨h'.close.trans h.close, h'.settle.trans h.settle, h'.ourLocksroot.trans h.ourLocksroot,
    h'.partnerLocksroot.trans h.partnerLocksroot⟩

def Event.isChannelSettle : Event → Bool
  | .contractSendChannelSettle .. => true
  | _ => false

def Event.isUpdateTransfer : Event → Bool
  | .contractSendChannelUpdateTransfer .. => true
  | _ => false

def Event.balanceProof : Event → Option BalanceProofUnsignedState
  | .sendLockedTransfer message => some message.transfer.balanceProof
  | .sendUnlock message => some message.balanceProof
  | .sendLockExpired message => some message.balanceProof
  | .contractSendChannelClose _ balanceProof _ =>
    balanceProof.map BalanceProofSignedState.toBalanceProofUnsignedState
  | .contractSendChannelUpdateTransfer _ balanceProof _ =>
    some balanceProof.toBalanceProofUnsignedState
  | _ => none

/-- Neither a settlement nor an update of the balance proof is sent. -/
def Quiet (es : List Event) : Prop :=
  ∀ event ∈ es, Event.isChannelSettle event = false ∧ Event.isUpdateTransfer event = false

theorem Quiet.nil : Quiet [] := nofun

theorem Quiet.cons (h : Event.isChannelSettle event = false) (h' : Event.isUpdateTransfer event = false)
    (hrest : Quiet es) : Quiet (event :: es) :=
  List.forall_mem_cons.mpr ⟨⟨h, h'⟩, hrest⟩

def Bare (es : List Event) : Prop :=
  ∀ event ∈ es, Event.isChannelSettle event = false ∧ Event.balanceProof event = none

theorem Bare.nil : Bare [] := nofun

theorem Bare.cons (h : Event.isChannelSettle event = false) (h' : Event.balanceProof event = none)
    (hrest : Bare es) : Bare (event :: es) :=
  List.forall_mem_cons.mpr ⟨⟨h, h'⟩, hrest⟩

theorem Bare.append {es' : List Event} (h : Bare es) (h' : Bare es') : Bare (es ++ es') :=
  List.forall_mem_append.mpr ⟨h, h'⟩

theorem Bare.quiet (h : Bare es) : Quiet es := by
  intro event hmem
  obtain ⟨hsettle, hproof⟩ := h event hmem
  refine ⟨hsettle, ?_⟩
  cases event with
  | contractSendChannelUpdateTransfer => cases hproof
  | _ => rfl

/-- The handler leaves the life cycle alone. -/
structure Calm (c : NettingChannelState) (r : TransitionResult NettingChannelState) : Prop where
  same : SamePhase c r.newState
  bare : Bare r.events

theorem Calm.refl (c : NettingChannelState) : Calm c ⟨c, []⟩ := ⟨.refl c, .nil⟩

theorem WithdrawRequested.calm {t : Int} (h : WithdrawRequested c t r) : Calm c r := by
  cases h with
  | closed => exact .refl c
  | sent => exact ⟨⟨rfl, rfl, rfl, rfl⟩, .cons rfl rfl .nil⟩

theorem CoopSigned.bare {coopSettle s : CoopSettleState} (h : CoopSigned coopSettle s es) :
    Bare es := by
  cases h with
  | stored => exact .nil
  | sent => exact .cons rfl rfl .nil

theorem Swept.calm {ws : List PendingWithdrawState} (h : Swept now ws c r) : Calm c r := by
  induction h with
  | done c => exact .refl c
  | stopped => exact .refl _
  | expired _ _ _ _ ih =>
    obtain ⟨⟨h1, h2, h3, h4⟩, hbare⟩ := ih
    exact ⟨⟨h1, h2, h3, h4⟩, .cons rfl rfl hbare⟩

theorem confirmWithdraw_calm {iteration : TransitionResult NettingChannelState} (h : Calm c iteration) :
    Calm c (confirmWithdraw act iteration) :=
  ⟨h.same.trans ⟨rfl, rfl, rfl, rfl⟩, h.bare.append (.cons rfl rfl .nil)⟩

theorem CoopHandled.calm (h : CoopHandled (requestStored c act) act (.ok r)) : Calm c r := by
  cases h with
  | signed _ signed => exact ⟨⟨rfl, rfl, rfl, rfl⟩, signed.bare⟩
  | answered _ _ _ _ requested =>
    obtain ⟨⟨h1, h2, h3, h4⟩, hbare⟩ := requested.calm
    exact ⟨⟨h1, h2, h3, h4⟩, hbare.append hbare⟩

theorem IsNotice.bare {event : Event} (h : IsNotice sc event) : Bare [event] := by
  cases h <;> exact .cons rfl rfl .nil

theorem addDeposit_samePhase (c : NettingChannelState) (part : Address) (balance : Nat)
    (feeSchedule : FeeScheduleState) :
    SamePhase c { addDeposit c part balance with feeSchedule } := by
  unfold addDeposit updateContractBalance
  split_ifs <;> exact ⟨rfl, rfl, rfl, rfl⟩

/-! ## Closing and settlement -/

/-- The balance proof of the partner is sent only after the partner closed. -/
inductive UpdateSent (c : NettingChannelState) (act : ContractReceiveChannelClosed) :
    List Event → Prop
  | nothing : UpdateSent c act []
  | update {balanceProof : BalanceProofSignedState} (other : act.transactionFrom ≠ c.ourState.address)
      (proof : c.partnerState.balanceProof = some (.signed balanceProof)) :
      UpdateSent c act [.contractSendChannelUpdateTransfer (act.blockNumber + c.settleTimeout)
        balanceProof act.blockHash]

inductive CloseSent (c : NettingChannelState) : List Event → Prop
  | close {balanceProof : Option BalanceProofSignedState} {bh : BlockHash}
      (proof : c.partnerState.balanceProof = balanceProof.map .signed) :
      CloseSent c [.contractSendChannelClose c.canonicalIdentifier balanceProof bh]

theorem CloseSent.quiet (h : CloseSent c es) : Quiet es := by
  cases h
  exact .cons rfl rfl .nil

/-- What an operation does to the life cycle. -/
inductive LifeEffect (P : Primitives) (c : NettingChannelState) :
    ChannelOp → TransitionResult (Option NettingChannelState) → Prop
  | calm {op : ChannelOp} {c' : NettingChannelState} {es : List Event} (same : SamePhase c c')
      (bare : Bare es) : LifeEffect P c op ⟨some c', es⟩
  | lock {op : ChannelOp} {c' : NettingChannelState} {es : List Event} (hop : op.isLockOp = true)
      (same : SamePhase c c') (quiet : Quiet es) : LifeEffect P c op ⟨some c', es⟩
  | closing {op : ChannelOp} {started : Nat} {c' : NettingChannelState} {es : List Event}
      (prior : getStatus c ∈ channelStatesPriorToClosed) (sent : CloseSent c es)
      (close : c'.closeTransaction = some ⟨some started, none, none⟩)
      (settle : c'.settleTransaction = c.settleTransaction) : LifeEffect P c op ⟨some c', es⟩
  | closed {act : ContractReceiveChannelClosed} {now : Nat} {bh : BlockHash}
      {c' : NettingChannelState} {es : List Event}
      (here : act.canonicalIdentifier.channelIdentifier = c.identifier)
      (prior : getStatus c ∈ channelStatesPriorToClosed) (sent : UpdateSent c act es)
      (close : c'.closeTransaction = setFinished c.closeTransaction act.blockNumber)
      (settle : c'.settleTransaction = c.settleTransaction) :
      LifeEffect P c (.stateChange (.contractReceiveChannelClosed act) now bh)
        ⟨some c', es⟩
  | settling {act : Block} {now n : Nat} {bh : BlockHash} {c' : NettingChannelState}
      {es : List Event} (bare : Bare es) (closed : getStatus c = .closed)
      (mined : closedBlock c = some n) (passed : n + c.settleTimeout < act.blockNumber)
      (close : c'.closeTransaction = c.closeTransaction)
      (settle : c'.settleTransaction = some ⟨some act.blockNumber, none, none⟩) :
      LifeEffect P c (.stateChange (.block act) now bh)
        ⟨some c', es ++ [.contractSendChannelSettle c'.canonicalIdentifier act.blockHash]⟩
  | settled {act : ContractReceiveChannelSettled} {now : Nat} {bh : BlockHash}
      {c' : NettingChannelState} {es : List Event} (bare : Bare es)
      (here : act.canonicalIdentifier.channelIdentifier = c.identifier)
      (close : c'.closeTransaction = c.closeTransaction)
      (settle : c'.settleTransaction = setFinished c.settleTransaction act.blockNumber)
      (ourLocksroot : c'.ourState.onchainLocksroot = act.ourOnchainLocksroot)
      (partnerLocksroot : c'.partnerState.onchainLocksroot = act.partnerOnchainLocksroot) :
      LifeEffect P c (.stateChange (.contractReceiveChannelSettled act) now bh)
        ⟨some c', es⟩
  | settledEmpty {act : ContractReceiveChannelSettled} {now : Nat} {bh : BlockHash}
      (here : act.canonicalIdentifier.channelIdentifier = c.identifier)
      (ours : act.ourOnchainLocksroot = locksrootOfNoLocks P)
      (partners : act.partnerOnchainLocksroot = locksrootOfNoLocks P) :
      LifeEffect P c (.stateChange (.contractReceiveChannelSettled act) now bh)
        ⟨none, []⟩
  | unlocked {act : ContractReceiveChannelBatchUnlock} {now : Nat} {bh : BlockHash}
      (settled : getStatus c = .settled) :
      LifeEffect P c (.stateChange (.contractReceiveChannelBatchUnlock act) now bh)
        ⟨some (clearOnchainLocksroot P c act.sender), []⟩
  | unlockedAll {act : ContractReceiveChannelBatchUnlock} {now : Nat} {bh : BlockHash}
      (settled : getStatus c = .settled)
      (ours : (clearOnchainLocksroot P c act.sender).ourState.onchainLocksroot = locksrootOfNoLocks P)
      (partners : (clearOnchainLocksroot P c act.sender).partnerState.onchainLocksroot =
        locksrootOfNoLocks P) :
      LifeEffect P c (.stateChange (.contractReceiveChannelBatchUnlock act) now bh)
        ⟨none, []⟩

theorem Handled.life {r : TransitionResult (Option NettingChannelState)}
    (h : Handled P c now bh sc r) : LifeEffect P c (.stateChange sc now bh) r := by
  cases h with
  | ignored => exact .calm (.refl c) .nil
  | refused notice => exact .calm (.refl c) notice.bare
  | closing prior proof => exact .closing prior (.close proof) rfl rfl
  | closed here prior => exact .closed here prior .nothing rfl rfl
  | closedByPartner here prior other proof => exact .closed here prior (.update other proof) rfl rfl
  | settled here locks => exact .settled (.cons rfl rfl .nil) here rfl rfl rfl rfl
  | settledEmpty here ours partners => exact .settledEmpty here ours partners
  | unlocked settled => exact .unlocked settled
  | unlockedAll settled ours partners => exact .unlockedAll settled ours partners
  | deposited => exact .calm (addDeposit_samePhase c _ _ _) .nil
  | updated | timeoutSet | withdrawn | withdrawnByPartner => exact .calm ⟨rfl, rfl, rfl, rfl⟩ .nil
  | withdrawing _ requested => exact .calm requested.calm.same requested.calm.bare
  | coopSettling _ _ requested =>
    obtain ⟨⟨h1, h2, h3, h4⟩, hbare⟩ := requested.calm
    exact .calm ⟨h1, h2, h3, h4⟩ hbare
  | @requestConfirmed act =>
    have hcalm : Calm c (confirmWithdraw act ⟨requestStored c act, []⟩) :=
      confirmWithdraw_calm ⟨⟨rfl, rfl, rfl, rfl⟩, .nil⟩
    exact .calm hcalm.same hcalm.bare
  | @requestJoined act r _ _ handled =>
    have hcalm : Calm c (confirmWithdraw act r) := confirmWithdraw_calm handled.calm
    exact .calm hcalm.same hcalm.bare
  | requestRefused | confirmed | expired => exact .calm ⟨rfl, rfl, rfl, rfl⟩ (.cons rfl rfl .nil)
  | confirmedInTime => exact .calm ⟨rfl, rfl, rfl, rfl⟩ (.cons rfl rfl (.cons rfl rfl .nil))
  | confirmedOurs _ _ signed => exact .calm ⟨rfl, rfl, rfl, rfl⟩ (.cons rfl rfl signed.bare)
  | swept _ sweep => exact .calm sweep.calm.same sweep.calm.bare
  | settling closed mined passed => exact .settling .nil closed mined passed rfl rfl

theorem LockStep.samePhase (h : LockStep P c op c') : SamePhase c c' := by
  have hour := h.our.sameAccount.onchainLocksroot
  have hpartner := h.partner.sameAccount.onchainLocksroot
  rw [h.rest]
  exact ⟨rfl, rfl, hour, hpartner⟩

/-- A lock operation neither removes the channel nor sends anything on-chain. -/
theorem Outcome.quiet {r : TransitionResult (Option NettingChannelState)} (h : Outcome P c op r)
    (hop : op.isLockOp = true) : ∃ c', r.newState = some c' ∧ Quiet r.events := by
  cases h with
  | handled => cases hop
  | refused notice => exact ⟨c, rfl, by cases notice <;> exact .cons rfl rfl .nil⟩
  | unexpired | registered | registeredOnchain => exact ⟨_, rfl, .nil⟩
  | _ => exact ⟨_, rfl, .cons rfl rfl .nil⟩

theorem ChannelOp.run_life (op : ChannelOp) (c : NettingChannelState) :
    Ensures (op.run P c) (LifeEffect P c op) := by
  refine (ChannelOp.run_outcome op c).mono fun r h => ?_
  cases hop : op.isLockOp with
  | false =>
    cases h with
    | handled handled => exact handled.life
    | refused notice => cases notice <;> cases hop
    | _ => cases hop
  | true =>
    obtain ⟨c', hc, hquiet⟩ := h.quiet hop
    obtain ⟨newState, es⟩ := r
    subst hc
    cases h.cases rfl with
    | stateChange heq _ _ =>
      subst heq
      cases hop
    | lock step => exact .lock hop step.samePhase hquiet

def StepOrRemoval (P : Primitives) : Option NettingChannelState → ChannelOp × List Event →
    Option NettingChannelState → Prop
  | none, _, _ => False
  | some c, label, next => ∃ prng prng', (label.1.run P c).run prng = .ok (⟨next, label.2⟩, prng')

theorem StepOrRemoval.life (h : StepOrRemoval P (some c) label next) :
    LifeEffect P c label.1 ⟨next, label.2⟩ := by
  obtain ⟨prng, prng', hrun⟩ := h
  exact ChannelOp.run_life label.1 c prng _ prng' hrun

theorem StepOrRemoval.sameIdentity (h : StepOrRemoval P (some c) label (some c')) : SameIdentity c c' := by
  obtain ⟨op, es⟩ := label
  exact Step.sameIdentity h

def sent (p : Event → Bool) (log : List (ChannelOp × List Event)) : Nat :=
  (log.flatMap Prod.snd).countP p

theorem sent_append (p : Event → Bool) (log : List (ChannelOp × List Event))
    (label : ChannelOp × List Event) : sent p (log ++ [label]) = sent p log + label.2.countP p := by
  simp [sent]

theorem Quiet.countP_settle (h : Quiet es) : es.countP Event.isChannelSettle = 0 :=
  List.countP_eq_zero.mpr fun event hmem => Bool.eq_false_iff.mp (h event hmem).1

theorem Quiet.countP_update (h : Quiet es) : es.countP Event.isUpdateTransfer = 0 :=
  List.countP_eq_zero.mpr fun event hmem => Bool.eq_false_iff.mp (h event hmem).2

def Regular (transaction : Option TransactionExecutionStatus) : Prop :=
  ∀ t, transaction = some t → t.result = none ∧ t.finishedBlockNumber = none ∨
    t.result = some .success ∧ t.finishedBlockNumber.isSome = true

theorem Regular.setFinished {tx : Option TransactionExecutionStatus} (h : Regular tx)
    (now : Nat) : Regular (setFinished tx now) := by
  unfold Channel.setFinished
  split
  · rintro _ ⟨⟩
    exact .inr ⟨rfl, rfl⟩
  · split
    · exact h
    · rintro _ ⟨⟩
      exact .inr ⟨rfl, rfl⟩

def channelStatesAfterClosed : List ChannelState := [.closed, .settling, .settled]

theorem mem_channelStatesAfterClosed (hclose : Regular c.closeTransaction)
    (hsettle : Regular c.settleTransaction) :
    getStatus c ∈ channelStatesAfterClosed ↔
      c.settleTransaction.isSome = true ∨ (closedBlock c).isSome = true := by
  unfold getStatus closedBlock TransactionExecutionStatus.status
  cases hs : c.settleTransaction with
  | some settle =>
    rcases hsettle settle hs with ⟨hresult, hfinished⟩ | ⟨hresult, hfinished⟩ <;>
      simp [channelStatesAfterClosed, *]
  | none =>
    cases hc : c.closeTransaction with
    | none => simp [channelStatesAfterClosed]
    | some close =>
      rcases hclose close hc with ⟨hresult, hfinished⟩ | ⟨hresult, hfinished⟩ <;>
        simp [hresult, channelStatesAfterClosed, hfinished]

theorem channelStatesAfterClosed_of_prior (h : getStatus c ∈ channelStatesPriorToClosed) :
    getStatus c ∉ channelStatesAfterClosed := by
  simp only [channelStatesPriorToClosed, channelStatesAfterClosed, List.mem_cons] at h ⊢
  rcases h with h | h | h
  · simp [h]
  · simp [h]
  · cases h

/-- The channel was closed in block `n`. -/
def ClosedAt (c : NettingChannelState) (log : List (ChannelOp × List Event)) (n : Nat) : Prop :=
  ∃ act now bh es,
    (ChannelOp.stateChange (.contractReceiveChannelClosed act) now bh, es) ∈ log ∧
      act.canonicalIdentifier.channelIdentifier = c.identifier ∧ act.blockNumber = n

/-- The locks that `sender` had sent were unlocked on-chain. -/
def UnlockedBy (sender : Address) (log : List (ChannelOp × List Event)) : Prop :=
  ∃ act now bh es,
    (ChannelOp.stateChange (.contractReceiveChannelBatchUnlock act) now bh, es) ∈
      log ∧ act.sender = sender

/-- There was a settlement, and every locksroot that was not empty in it has been unlocked. -/
def LocksUnlocked (P : Primitives) (c : NettingChannelState) (log : List (ChannelOp × List Event)) :
    Prop :=
  ∃ before act now bh es after,
    log = before ++
      (ChannelOp.stateChange (.contractReceiveChannelSettled act) now bh, es) ::
        after ∧
      act.canonicalIdentifier.channelIdentifier = c.identifier ∧
      (act.ourOnchainLocksroot = locksrootOfNoLocks P ∨ UnlockedBy c.ourState.address after) ∧
      (act.partnerOnchainLocksroot = locksrootOfNoLocks P ∨ UnlockedBy c.partnerState.address after)

/-- The locksroots on-chain are those of a settlement, but for the unlocks since. -/
def SettledWith (c : NettingChannelState) (log : List (ChannelOp × List Event)) : Prop :=
  ∃ before act now bh es after,
    log = before ++
      (ChannelOp.stateChange (.contractReceiveChannelSettled act) now bh, es) ::
        after ∧
      act.canonicalIdentifier.channelIdentifier = c.identifier ∧
      (c.ourState.onchainLocksroot = act.ourOnchainLocksroot ∨
        UnlockedBy c.ourState.address after) ∧
      (c.partnerState.onchainLocksroot = act.partnerOnchainLocksroot ∨
        UnlockedBy c.partnerState.address after)

theorem UnlockedBy.append {sender : Address} (h : UnlockedBy sender log) (label : ChannelOp × List Event) :
    UnlockedBy sender (log ++ [label]) := by
  obtain ⟨act, now, bh, es, hmem, hsender⟩ := h
  exact ⟨act, now, bh, es, List.mem_append_left _ hmem, hsender⟩

theorem SameIdentity.identifier_eq (h : SameIdentity c c') : c'.identifier = c.identifier :=
  congrArg CanonicalIdentifier.channelIdentifier h.identifier

theorem ClosedAt.append {n : Nat} (h : ClosedAt c log n) (hid : SameIdentity c c')
    (label : ChannelOp × List Event) : ClosedAt c' (log ++ [label]) n := by
  obtain ⟨act, now, bh, es, hmem, hhere, hn⟩ := h
  exact ⟨act, now, bh, es, List.mem_append_left _ hmem, hid.identifier_eq ▸ hhere, hn⟩

/-- A further operation, after which an end has another locksroot on-chain only if it was unlocked. -/
theorem SettledWith.append (h : SettledWith c log) (hid : SameIdentity c c')
    (hour : c'.ourState.onchainLocksroot = c.ourState.onchainLocksroot ∨ UnlockedBy c.ourState.address
      [label])
    (hpartner : c'.partnerState.onchainLocksroot = c.partnerState.onchainLocksroot ∨ UnlockedBy
      c.partnerState.address [label]) : SettledWith c' (log ++ [label]) := by
  obtain ⟨before, act, now, bh, es, after, rfl, hhere, hours, hpartners⟩ := h
  have hend : ∀ {addr : Address} {old new root : Locksroot}, new = old ∨ UnlockedBy addr [label] →
      old = root ∨ UnlockedBy addr after → new = root ∨ UnlockedBy addr (after ++ [label]) := by
    rintro addr old new root (rfl | ⟨act, now, bh, es, hmem, hsender⟩) hold
    · exact hold.imp_right fun h => h.append label
    · exact .inr ⟨act, now, bh, es, List.mem_append_right _ hmem, hsender⟩
  exact ⟨before, act, now, bh, es, after ++ [label], by simp, hid.identifier_eq ▸ hhere,
    hid.our ▸ hend hour hours, hid.partner ▸ hend hpartner hpartners⟩

theorem clearOnchainLocksroot_locksroots (act : ContractReceiveChannelBatchUnlock) (now : Nat)
    (bh : BlockHash) (es : List Event) :
    let label := (ChannelOp.stateChange (.contractReceiveChannelBatchUnlock act) now bh,
      es)
    ((clearOnchainLocksroot P c act.sender).ourState.onchainLocksroot = c.ourState.onchainLocksroot ∨
        UnlockedBy c.ourState.address [label]) ∧
      ((clearOnchainLocksroot P c act.sender).partnerState.onchainLocksroot =
          c.partnerState.onchainLocksroot ∨ UnlockedBy c.partnerState.address [label]) := by
  intro label
  have hunlocked : ∀ {addr : Address}, act.sender = addr → UnlockedBy addr [label] :=
    fun h => ⟨act, now, bh, es, List.mem_singleton_self _, h⟩
  unfold clearOnchainLocksroot
  split_ifs with hour hpartner
  · exact ⟨.inr (hunlocked hour), .inl rfl⟩
  · exact ⟨.inl rfl, .inr (hunlocked hpartner)⟩
  · exact ⟨.inl rfl, .inl rfl⟩

/-- The invariant of a channel that was not removed. -/
structure Phase (log : List (ChannelOp × List Event)) (c : NettingChannelState) : Prop where
  close : Regular c.closeTransaction
  settle : Regular c.settleTransaction
  settles : sent Event.isChannelSettle log ≤ if c.settleTransaction = none then 0 else 1
  updates : sent Event.isUpdateTransfer log ≤ if getStatus c ∈ channelStatesAfterClosed then 1 else 0
  mined : ∀ n, closedBlock c = some n → ClosedAt c log n
  settled : getStatus c = .settled → SettledWith c log

theorem Phase.start (h : Fresh c) : Phase [] c where
  close := by rw [h.close]; nofun
  settle := by rw [h.settle]; nofun
  settles := Nat.zero_le _
  updates := Nat.zero_le _
  mined n hn := by rw [closedBlock, h.close] at hn; cases hn
  settled hs := by rw [getStatus, h.settle, h.close] at hs; cases hs

section Step

variable {log : List (ChannelOp × List Event)} {op : ChannelOp} {es : List Event}
  {act : ContractReceiveChannelBatchUnlock}

theorem Phase.prior_iff (h : Phase log c) (hprior : getStatus c ∈ channelStatesPriorToClosed) :
    c.settleTransaction = none ∧ closedBlock c = none := by
  have hafter := channelStatesAfterClosed_of_prior hprior
  rw [mem_channelStatesAfterClosed h.close h.settle, not_or] at hafter
  simpa using hafter

/-- A step that changes the locksroots on-chain only by an unlock. -/
theorem Phase.kept (h : Phase log c) (hid : SameIdentity c c') (hquiet : Quiet es)
    (close : c'.closeTransaction = c.closeTransaction) (settle : c'.settleTransaction = c.settleTransaction)
    (hour : c'.ourState.onchainLocksroot = c.ourState.onchainLocksroot ∨
      UnlockedBy c.ourState.address [(op, es)])
    (hpartner : c'.partnerState.onchainLocksroot = c.partnerState.onchainLocksroot ∨
      UnlockedBy c.partnerState.address [(op, es)]) : Phase (log ++ [(op, es)]) c' := by
  have hstatus : getStatus c' = getStatus c := by rw [getStatus, close, settle, getStatus]
  refine ⟨close ▸ h.close, settle ▸ h.settle, ?_, ?_, fun n hn => ?_, fun hs => ?_⟩
  · rw [sent_append, hquiet.countP_settle, settle]
    exact h.settles
  · rw [sent_append, hquiet.countP_update, hstatus]
    exact h.updates
  · rw [closedBlock, close] at hn
    exact (h.mined n hn).append hid _
  · exact (h.settled (hstatus ▸ hs)).append hid hour hpartner

theorem Phase.closing (h : Phase log c) (prior : getStatus c ∈ channelStatesPriorToClosed)
    (hquiet : Quiet es) (close : c'.closeTransaction = some ⟨some started, none, none⟩)
    (settle : c'.settleTransaction = c.settleTransaction) : Phase (log ++ [(op, es)]) c' where
  close := by
    rw [close]
    rintro _ ⟨⟩
    exact .inl ⟨rfl, rfl⟩
  settle := settle ▸ h.settle
  settles := by
    rw [sent_append, hquiet.countP_settle, settle]
    exact h.settles
  updates := by
    have hupdates := h.updates
    rw [if_neg (channelStatesAfterClosed_of_prior prior)] at hupdates
    rw [sent_append, hquiet.countP_update]
    exact Nat.le_trans hupdates (Nat.zero_le _)
  mined n hn := by
    rw [closedBlock, close] at hn
    cases hn
  settled hs := by
    rw [getStatus, settle, (h.prior_iff prior).1, close] at hs
    cases hs

theorem setFinished_of_closedBlock (now : Nat) (h : closedBlock c = none) :
    (setFinished c.closeTransaction now).bind TransactionExecutionStatus.finishedBlockNumber =
      some now := by
  unfold closedBlock at h
  unfold setFinished
  cases hclose : c.closeTransaction with
  | none => rfl
  | some close =>
    rw [hclose, Option.bind_some] at h
    simp [h, isSet]

/-- Only a transaction of the settlement makes a channel settled. -/
theorem settle_of_getStatus (h : getStatus c = .settled) : c.settleTransaction.isSome = true := by
  unfold getStatus TransactionExecutionStatus.status at h
  cases hs : c.settleTransaction with
  | some settle => rfl
  | none =>
    rw [hs] at h
    cases hc : c.closeTransaction with
    | none => simp [hc] at h
    | some close =>
      rw [hc] at h
      dsimp only at h
      split_ifs at h

theorem Phase.closed {act : ContractReceiveChannelClosed} (h : Phase log c) (hid : SameIdentity c c')
    (here : act.canonicalIdentifier.channelIdentifier = c.identifier)
    (prior : getStatus c ∈ channelStatesPriorToClosed) (hsent : UpdateSent c act es)
    (close : c'.closeTransaction = setFinished c.closeTransaction act.blockNumber)
    (settle : c'.settleTransaction = c.settleTransaction) :
    Phase (log ++ [(.stateChange (.contractReceiveChannelClosed act) now bh, es)]) c' := by
  obtain ⟨hsettle, hblock⟩ := h.prior_iff prior
  have hclosed : Regular c'.closeTransaction := close ▸ h.close.setFinished _
  have hsettled : Regular c'.settleTransaction := settle ▸ h.settle
  have hmined : closedBlock c' = some act.blockNumber := by
    rw [closedBlock, close, setFinished_of_closedBlock _ hblock]
  have hcount : es.countP Event.isChannelSettle = 0 ∧ es.countP Event.isUpdateTransfer ≤ 1 := by
    cases hsent with
    | nothing => exact ⟨rfl, Nat.zero_le _⟩
    | update => exact ⟨rfl, Nat.le_refl _⟩
  have hafter : getStatus c' ∈ channelStatesAfterClosed :=
    (mem_channelStatesAfterClosed hclosed hsettled).mpr (.inr (Option.isSome_of_eq_some hmined))
  refine ⟨hclosed, hsettled, ?_, ?_, fun n hn => ?_, fun hs => ?_⟩
  · rw [sent_append, hcount.1, settle]
    exact h.settles
  · have hupdates := h.updates
    rw [if_neg (channelStatesAfterClosed_of_prior prior)] at hupdates
    rw [sent_append, if_pos hafter]
    exact Nat.add_le_add hupdates hcount.2
  · cases hmined.symm.trans hn
    exact ⟨act, now, bh, es, by simp, hid.identifier_eq ▸ here, rfl⟩
  · have hsome := settle_of_getStatus hs
    rw [settle, hsettle] at hsome
    cases hsome

theorem Phase.settling {ident : CanonicalIdentifier} (h : Phase log c) (hid : SameIdentity c c')
    (hquiet : Quiet es) (hclosed : getStatus c = .closed)
    (close : c'.closeTransaction = c.closeTransaction)
    (settle : c'.settleTransaction = some ⟨some started, none, none⟩) :
    Phase (log ++ [(op, es ++ [.contractSendChannelSettle ident bh])]) c' := by
  have hnone : c.settleTransaction = none := by
    unfold getStatus TransactionExecutionStatus.status at hclosed
    cases hs : c.settleTransaction with
    | none => rfl
    | some settle =>
      rw [hs] at hclosed
      dsimp only at hclosed
      split_ifs at hclosed
  have hsettled : Regular c'.settleTransaction := by
    rw [settle]
    rintro _ ⟨⟩
    exact .inl ⟨rfl, rfl⟩
  refine ⟨close ▸ h.close, hsettled, ?_, ?_, fun n hn => ?_, fun hs => ?_⟩
  · have hsettles := h.settles
    rw [if_pos hnone] at hsettles
    rw [sent_append, List.countP_append, hquiet.countP_settle, settle]
    simpa [Event.isChannelSettle] using hsettles
  · have hafter : getStatus c ∈ channelStatesAfterClosed := by rw [hclosed]; decide
    have hupdates := h.updates
    rw [if_pos hafter] at hupdates
    have hafter' : getStatus c' ∈ channelStatesAfterClosed :=
      (mem_channelStatesAfterClosed (close ▸ h.close) hsettled).mpr (.inl (by rw [settle]; rfl))
    rw [sent_append, List.countP_append, hquiet.countP_update, if_pos hafter']
    simpa [Event.isUpdateTransfer] using hupdates
  · rw [closedBlock, close] at hn
    exact (h.mined n hn).append hid _
  · rw [getStatus, settle] at hs
    cases hs

theorem Phase.settledNow {act : ContractReceiveChannelSettled} (h : Phase log c)
    (hid : SameIdentity c c') (hquiet : Quiet es)
    (here : act.canonicalIdentifier.channelIdentifier = c.identifier)
    (close : c'.closeTransaction = c.closeTransaction)
    (settle : c'.settleTransaction = setFinished c.settleTransaction act.blockNumber)
    (ourLocksroot : c'.ourState.onchainLocksroot = act.ourOnchainLocksroot)
    (partnerLocksroot : c'.partnerState.onchainLocksroot = act.partnerOnchainLocksroot) :
    Phase (log ++ [(.stateChange (.contractReceiveChannelSettled act) now bh, es)]) c' := by
  have hclose : Regular c'.closeTransaction := close ▸ h.close
  have hsettle : Regular c'.settleTransaction := settle ▸ h.settle.setFinished _
  have hsome : c'.settleTransaction.isSome = true := settle ▸ isSome_setFinished _ _
  have hafter : getStatus c' ∈ channelStatesAfterClosed :=
    (mem_channelStatesAfterClosed hclose hsettle).mpr (.inl hsome)
  have hne : c'.settleTransaction ≠ none := Option.isSome_iff_ne_none.mp hsome
  refine ⟨hclose, hsettle, ?_, ?_, fun n hn => ?_, fun _ => ?_⟩
  · rw [sent_append, hquiet.countP_settle, if_neg hne]
    have := h.settles
    split_ifs at this <;> omega
  · rw [sent_append, hquiet.countP_update, if_pos hafter]
    have := h.updates
    split_ifs at this <;> omega
  · rw [closedBlock, close] at hn
    exact (h.mined n hn).append hid _
  · exact ⟨log, act, now, bh, es, [], rfl, hid.identifier_eq ▸ here, .inl ourLocksroot,
      .inl partnerLocksroot⟩

theorem Phase.step (h : Phase log c) (hstep : StepOrRemoval P (some c) label (some c')) :
    Phase (log ++ [label]) c' := by
  have hid := hstep.sameIdentity
  have hlife := hstep.life
  obtain ⟨op, es⟩ := label
  cases hlife with
  | calm same bare =>
    exact h.kept hid bare.quiet same.close same.settle (.inl same.ourLocksroot) (.inl same.partnerLocksroot)
  | lock _ same quiet =>
    exact h.kept hid quiet same.close same.settle (.inl same.ourLocksroot) (.inl same.partnerLocksroot)
  | closing prior sent close settle => exact h.closing prior sent.quiet close settle
  | closed here prior sent close settle => exact h.closed hid here prior sent close settle
  | settling bare closed _ _ close settle => exact h.settling hid bare.quiet closed close settle
  | settled bare here close settle ours partners =>
    exact h.settledNow hid bare.quiet here close settle ours partners
  | unlocked =>
    obtain ⟨hour, hpartner⟩ := clearOnchainLocksroot_locksroots _ _ _ _
    refine h.kept hid .nil ?_ ?_ hour hpartner <;> unfold clearOnchainLocksroot <;> split_ifs <;> rfl

theorem Phase.step_afterClosed (h : Phase log c) (hstep : StepOrRemoval P (some c) label (some c'))
    (hafter : getStatus c ∈ channelStatesAfterClosed) :
    getStatus c' ∈ channelStatesAfterClosed := by
  have hnext := h.step hstep
  rw [mem_channelStatesAfterClosed hnext.close hnext.settle]
  have hlife := hstep.life
  have hclosed := (mem_channelStatesAfterClosed h.close h.settle).mp hafter
  obtain ⟨op, es⟩ := label
  cases hlife with
  | calm same | lock _ same => rwa [closedBlock, same.close, same.settle]
  | closing prior | closed _ prior => exact absurd hafter (channelStatesAfterClosed_of_prior prior)
  | settling _ _ _ _ _ settle => exact .inl (by rw [settle]; rfl)
  | settled _ _ _ settle => exact .inl (settle ▸ isSome_setFinished _ _)
  | unlocked hsettled =>
    left
    have hsome := settle_of_getStatus hsettled
    unfold clearOnchainLocksroot
    split_ifs <;> exact hsome

theorem Phase.run_afterClosed {later : List (ChannelOp × List Event)} (h : Phase log c)
    (hafter : getStatus c ∈ channelStatesAfterClosed)
    (hrun : Run (StepOrRemoval P) (some c) later (some c')) : getStatus c' ∈ channelStatesAfterClosed := by
  have hkept := hrun.invariant
    (I := fun s => ∀ c, s = some c → (∃ log, Phase log c) ∧ getStatus c ∈ channelStatesAfterClosed)
    (by rintro _ ⟨⟩; exact ⟨⟨log, h⟩, hafter⟩) ?_
  · exact (hkept c' rfl).2
  · rintro (- | d) label s hd hstep d' rfl
    · cases hstep
    · obtain ⟨⟨past, hphase⟩, hclosed⟩ := hd d rfl
      exact ⟨⟨_, hphase.step hstep⟩, hphase.step_afterClosed hstep hclosed⟩

section

variable (P : Primitives) (log : List (ChannelOp × List Event)) (c : NettingChannelState) (op : ChannelOp)

def Removal : Prop :=
  (∃ act now bh,
      op = .stateChange (.contractReceiveChannelSettled act) now bh ∧
      act.canonicalIdentifier.channelIdentifier = c.identifier ∧
      act.ourOnchainLocksroot = locksrootOfNoLocks P ∧
      act.partnerOnchainLocksroot = locksrootOfNoLocks P) ∨
    ∃ act now bh,
      op = .stateChange (.contractReceiveChannelBatchUnlock act) now bh ∧
      getStatus c = .settled ∧ LocksUnlocked P c (log ++ [(op, [])])

/-- What an operation on a reachable channel may send, and when it removes the channel. -/
structure Effects (es : List Event) (next : Option NettingChannelState) : Prop where
  settle : ∀ event ∈ es, Event.isChannelSettle event = true →
    ∃ act now bh n, op = .stateChange (.block act) now bh ∧
      ClosedAt c log n ∧ n + c.settleTimeout < act.blockNumber
  update : ∀ event ∈ es, Event.isUpdateTransfer event = true →
    ∃ act now bh balanceProof,
      op = .stateChange (.contractReceiveChannelClosed act) now bh ∧
      act.canonicalIdentifier.channelIdentifier = c.identifier ∧
      act.transactionFrom ≠ c.ourState.address ∧
      c.partnerState.balanceProof = some (.signed balanceProof)
  removed : next = none → es = [] ∧ Removal P log c op

end

theorem removal_effects (h : Removal P log c op) : Effects P log c op [] none :=
  ⟨nofun, nofun, fun _ => ⟨rfl, h⟩⟩

theorem Quiet.effects (h : Quiet es) (hnext : next.isSome = true) : Effects P log c op es next where
  settle event hmem hsettle := by rw [(h event hmem).1] at hsettle; cases hsettle
  update event hmem hupdate := by rw [(h event hmem).2] at hupdate; cases hupdate
  removed hnone := by rw [hnone] at hnext; cases hnext

/-- An unlock that leaves no locksroot on-chain. -/
theorem Phase.locksUnlocked (h : Phase log c) (hsettled : getStatus c = .settled)
    (hours : (clearOnchainLocksroot P c act.sender).ourState.onchainLocksroot = locksrootOfNoLocks P)
    (hpartners : (clearOnchainLocksroot P c act.sender).partnerState.onchainLocksroot =
      locksrootOfNoLocks P) :
    LocksUnlocked P c (log ++
      [(.stateChange (.contractReceiveChannelBatchUnlock act) now bh, [])]) := by
  have hid : SameIdentity c (clearOnchainLocksroot P c act.sender) := by
    unfold clearOnchainLocksroot
    split_ifs <;> exact ⟨rfl, rfl, rfl, rfl, rfl⟩
  have hroots := clearOnchainLocksroot_locksroots (P := P) (c := c) act now bh []
  obtain ⟨before, settled, n, hash, es, after, hlog, hhere, hour, hpartner⟩ :=
    (h.settled hsettled).append hid hroots.1 hroots.2
  rw [hid.our, hours] at hour
  rw [hid.partner, hpartners] at hpartner
  exact ⟨before, settled, n, hash, es, after, hlog, hid.identifier_eq ▸ hhere, hour.imp_left Eq.symm,
    hpartner.imp_left Eq.symm⟩

theorem Phase.effects (h : Phase log c) (hstep : StepOrRemoval P (some c) (op, es) next) :
    Effects P log c op es next := by
  have hlife := hstep.life
  cases hlife with
  | calm _ bare | settled bare => exact bare.quiet.effects rfl
  | lock _ _ quiet => exact quiet.effects rfl
  | closing _ sent => exact sent.quiet.effects rfl
  | closed here _ sent =>
    cases sent with
    | nothing => exact Quiet.nil.effects rfl
    | update other proof =>
      refine ⟨fun event hmem hsettle => ?_, fun event hmem hupdate => ?_, nofun⟩
      · rw [List.mem_singleton.mp hmem] at hsettle
        cases hsettle
      · exact ⟨_, _, _, _, rfl, here, other, proof⟩
  | settling bare _ mined passed =>
    refine ⟨fun event hmem hsettle => ⟨_, _, _, _, rfl, h.mined _ mined, passed⟩,
      fun event hmem hupdate => ?_, nofun⟩
    rcases List.mem_append.mp hmem with hmem | hmem
    · rw [(bare.quiet event hmem).2] at hupdate
      cases hupdate
    · rw [List.mem_singleton.mp hmem] at hupdate
      cases hupdate
  | settledEmpty here ours partners =>
    refine removal_effects (.inl ?_)
    exact ⟨_, _, _, rfl, here, ours, partners⟩
  | unlocked => exact Quiet.nil.effects rfl
  | unlockedAll hsettled ours partners =>
    refine removal_effects (.inr ?_)
    exact ⟨_, _, _, rfl, hsettled, h.locksUnlocked hsettled ours partners⟩

/-- The invariant of a run, also after the channel was removed. -/
structure LifeInvariant (log : List (ChannelOp × List Event)) (s : Option NettingChannelState) : Prop where
  phase : ∀ c, s = some c → Phase log c
  settles : sent Event.isChannelSettle log ≤ 1
  updates : sent Event.isUpdateTransfer log ≤ 1

theorem LifeInvariant.step (h : LifeInvariant log s) (hstep : StepOrRemoval P s label next) :
    LifeInvariant (log ++ [label]) next := by
  cases s with
  | none => cases hstep
  | some c =>
    have hphase := h.phase c rfl
    cases next with
    | none =>
      have hevents : label.2 = [] := ((hphase.effects hstep).removed rfl).1
      refine ⟨fun c hc => absurd hc.symm (Option.some_ne_none c), ?_, ?_⟩
      · rw [sent_append, hevents]
        exact h.settles
      · rw [sent_append, hevents]
        exact h.updates
    | some c' =>
      have hnext := hphase.step hstep
      have hsettles := hnext.settles
      have hupdates := hnext.updates
      refine ⟨fun d hd => Option.some.inj hd ▸ hnext, ?_, ?_⟩
      · split_ifs at hsettles <;> omega
      · split_ifs at hupdates <;> omega

theorem lifeInvariant_of_run {c₀ : NettingChannelState} (hfresh : Fresh c₀)
    (hrun : Run (StepOrRemoval P) (some c₀) log s) :
    LifeInvariant log s :=
  hrun.invariant_log ⟨fun c hc => by cases hc; exact .start hfresh, Nat.zero_le _, Nat.zero_le _⟩
    fun _ _ _ _ h hstep => h.step hstep

end Step

/-- Over every run of a channel, until it is removed: no way back from a closed
channel; at most one settlement, in a block after the settlement window; at
most one update, after the other party closed and with a balance proof of the
partner; removal at a settlement without locks or once all locks are unlocked. -/
theorem channel_life_cycle {c₀ : NettingChannelState} {s : Option NettingChannelState}
    {log : List (ChannelOp × List Event)} (hfresh : Fresh c₀)
    (hrun : Run (StepOrRemoval P) (some c₀) log s) :
    sent Event.isChannelSettle log ≤ 1 ∧ sent Event.isUpdateTransfer log ≤ 1 ∧ ∀ c, s = some c →
        (getStatus c ∈ [.closed, .settling, .settled] → ∀ later c',
          Run (StepOrRemoval P) (some c) later (some c') → getStatus c' ∈ [.closed, .settling, .settled]) ∧
        ∀ op es next, StepOrRemoval P (some c) (op, es) next → Effects P log c op es next := by
  have hlife := lifeInvariant_of_run hfresh hrun
  refine ⟨hlife.settles, hlife.updates, fun c hc => ?_⟩
  have hphase := hlife.phase c hc
  exact ⟨fun hafter later c' hlater => hphase.run_afterClosed hafter hlater,
    fun op es next hstep => hphase.effects hstep⟩

/-! ## A channel from its opening to its removal -/

/-- Execute an operation, for a generator that returns the given identifier. -/
def performOp (P : Primitives) (msgId : MessageID) (s : Option NettingChannelState)
    (op : ChannelOp) : Option ((ChannelOp × List Event) × Option NettingChannelState) :=
  match s with
  | none => none
  | some c =>
    match (op.run P c).run (Stream'.const msgId) with
    | .ok (⟨next, es⟩, _) => some ((op, es), next)
    | .error _ => none

theorem performOp_sound {msgId : MessageID}
    (h : performOp P msgId s op = some (label, next)) : StepOrRemoval P s label next := by
  unfold performOp at h
  split at h
  · cases h
  · split at h
    · next hrun =>
      cases h
      exact ⟨_, _, hrun⟩
    · cases h

/-- The partner closes with a lock pending, the closing is reported twice, the
node settles after the window, and the lock is unlocked on-chain. -/
def toyLifeCycle : List ChannelOp :=
  let lock := toyLock 50 7
  let closed := .stateChange (.contractReceiveChannelClosed ⟨5, [], 2, toyIdentifier⟩) 5 []
  let unlock := ⟨61, [], toyIdentifier, 1, 2, [1], 50, 0⟩
  [.receiveLockedtransfer (toyTransfer lock (toyBalanceProof 0 0 50 [lock])) none,
    closed, closed,
    .stateChange (.block ⟨55, []⟩) 55 [],
    .stateChange (.block ⟨56, []⟩) 56 [],
    .stateChange (.block ⟨57, []⟩) 57 [],
    .stateChange (.contractReceiveChannelSettled ⟨60, [], toyIdentifier, [], 0, [1], 0⟩) 60 [],
    .stateChange (.contractReceiveChannelBatchUnlock unlock) 61 []]

theorem toyLifeCycle_removed : ∃ log,
    Run (StepOrRemoval toyPrimitives) (some (toyChannel 0 100)) log none ∧
      sent Event.isChannelSettle log = 1 ∧ sent Event.isUpdateTransfer log = 1 := by
  have hexec : (execute (performOp toyPrimitives 0) toyLifeCycle ([], some (toyChannel 0 100))).any
      (fun finish => finish.2.isNone ∧ sent Event.isChannelSettle finish.1 = 1 ∧
        sent Event.isUpdateTransfer finish.1 = 1) = true := by decide +kernel
  obtain ⟨log, s, hrun, hfinish⟩ := Run.execute (.start _) hexec fun _ _ _ _ hnext => performOp_sound hnext
  simp only [decide_eq_true_eq, Option.isNone_iff_eq_none] at hfinish
  obtain ⟨rfl, hsettles, hupdates⟩ := hfinish
  exact ⟨log, hrun, hsettles, hupdates⟩

theorem channel_life_cycle_of_toy : ∃ log,
    Run (StepOrRemoval toyPrimitives) (some (toyChannel 0 100)) log none ∧
      sent Event.isChannelSettle log ≤ 1 ∧ sent Event.isUpdateTransfer log ≤ 1 := by
  obtain ⟨log, hrun, -⟩ := toyLifeCycle_removed
  have hlife := channel_life_cycle (toyChannel_fresh 0 100) hrun
  exact ⟨log, hrun, hlife.1, hlife.2.1⟩

end Raiden.Channel
