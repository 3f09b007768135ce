import Raiden.Channel.Ledger
import Raiden.Mediator.Received

/-! # What funds a forwarded transfer

The task forwards the first transfer and an accepted refund in the step that
accepts them, and a waiting transfer on a later block. In the first two cases the
lock is pending in the open channel that received it. On a later block nothing is
asked of that channel: it may have been closed since. In all cases the new lock has
the secrethash and the expiration of the received one, and a received lock is
forwarded once while it is pending. -/
namespace Raiden.Mediator

open Lib Channel

variable {P : Primitives} {net : TokenNetworkRef} {hash : SecretHash} {cs : Channels}
  {a2c : AddressesToChannel} {now : Nat} {bh : BlockHash} {st : MediatorTransferState}
  {msg message : SendLockedTransfer} {ref : ChannelRef} {lock : HashTimeLockState}
  {r : Iteration (Option MediatorTransferState)} {locks : List EncodedData} {es : List Event}
  {tr : LockedTransferSignedState} {p : MediationPairState} {st' : MediatorTransferState}
  {now : Nat} {c payerC : NettingChannelState} {sc : PaymentStateChange} {secret : Secret}
  {init : ActionInitMediator} {log : List (Input × List Event)} {out : List Event}
  {p' : MediationPairState} {c' : NettingChannelState} {task : Option MediatorTransferState}
  {k : SecretHash}

/-! ## Which state changes send transfers -/

theorem unexpectedReveal_noTransfer (k : SecretHash) : NoTransfer (unexpectedReveal st k) := by
  unfold unexpectedReveal
  split
  · exact .nil
  · exact .singleton nofun

private theorem noTransfer_of_visited {O : MediationPairState → MediationPairState → List Event → Prop}
    {pairs pairs' : List MediationPairState} (h : Visited O pairs pairs' es)
    (hO : ∀ p p' part, O p p' part → NoTransfer part) : NoTransfer es := by
  intro msg hmem
  obtain ⟨p, p', part, -, ho, hpart⟩ := h.only _ hmem
  exact hO p p' part ho msg hpart

theorem Balanced.noTransfer (h : Balanced net cs now secret p p' out) : NoTransfer out := by
  cases h with
  | paid =>
    intro msg hmem
    rcases List.mem_pair.mp hmem with h | h <;> cases h
  | kept => exact .nil

theorem Revealed.noTransfer (h : Revealed secret p p' out) : NoTransfer out := by
  cases h with
  | sent => exact .singleton nofun
  | kept => exact .nil

theorem Learned.noTransfer {payee : Address} {r : Iteration MediatorTransferState}
    (h : Learned P net st cs now secret k payee r) : NoTransfer r.events := by
  obtain ⟨-, hfirst, hrevealed, hpaid, -⟩ := h
  refine NoTransfer.append (.append (.append (unexpectedReveal_noTransfer k) ?_) ?_) ?_
  · exact noTransfer_of_visited hrevealed fun _ _ _ h => h.noTransfer
  · exact noTransfer_of_visited hpaid fun _ _ _ h => h.noTransfer
  · intro msg hmem
    cases registrations_isRegistration hfirst _ hmem

theorem LearnedOnchain.noTransfer {r : Iteration MediatorTransferState}
    (h : LearnedOnchain P net st cs now secret k r) : NoTransfer r.events := by
  obtain ⟨-, hpaid, -⟩ := h
  exact (unexpectedReveal_noTransfer k).append (noTransfer_of_visited hpaid fun _ _ _ h => h.noTransfer)

/-! ## Where the transfer comes from -/

inductive Source (P : Primitives) (net : TokenNetworkRef) (cs cs' : Channels)
    (transfer : LockedTransferSignedState) (task : Option MediatorTransferState)
    (change : PaymentStateChange) : Prop
  | accepted {c c' : NettingChannelState} {locks : List EncodedData}
      (outside : ∀ block, change ≠ .block block)
      (found : cs.get? (incomingRef net transfer) = some c)
      (facts : LockedtransferAccepted P c c.partnerState c.ourState transfer.balanceProof transfer.lock locks)
      (found' : cs'.get? (incomingRef net transfer) = some c')
      (partner : c'.partnerState = (withTransfer c transfer locks).partnerState) (life : SameLife c c')
  | waited {st : MediatorTransferState} {waiting : WaitingTransferState} {block : Block}
      (htask : task = some st) (hchange : change = .block block)
      (hwaiting : st.waitingTransfer = some waiting) (transfer_eq : waiting.transfer = transfer)
      (frame : StoreRel (fun c c' => c'.partnerState = c.partnerState ∧ SameLife c c') cs cs')

/-- What is known when a transfer was forwarded as `message`. -/
structure ForwardedFrom (P : Primitives) (net : TokenNetworkRef) (cs : Channels)
    (now : Nat) (message : SendLockedTransfer) (task : Option MediatorTransferState)
    (change : PaymentStateChange) (cs' : Channels) (st' : MediatorTransferState)
    (p : MediationPairState) : Prop where
  last : st'.transfersPair.getLast? = some p
  sent : p.payeeTransfer = message.transfer
  secrethash_eq : message.transfer.lock.secrethash = p.payerTransfer.lock.secrethash
  expiration_eq : message.transfer.lock.expiration = p.payerTransfer.lock.expiration
  unexpired : now < p.payerTransfer.lock.expiration
  source : Source P net cs cs' p.payerTransfer task change
  /-- Another transfer waits only if a refund was forwarded. -/
  waiting : ∀ waiting, st'.waitingTransfer = some waiting → (∀ block, change ≠ .block block) ∧
    ∃ st, task = some st ∧ st.secret = none ∧ st.waitingTransfer = some waiting

theorem Forwarded.unexpired {routes : List RouteState} {payee : ChannelRef}
    (h : Forwarded P cs a2c tr payerC now routes payee c c' msg) : now < tr.lock.expiration := by
  obtain ⟨amount, id, -, husable, -⟩ := h.sent
  simp only [isChannelUsableForMediation, decide_eq_true_eq] at husable
  unfold isChannelUsableForNewTransfer at husable
  dsimp only at husable
  split_ifs at husable with _ _ _ _ _ htimeout
  simp only [Option.all_some, Bool.not_eq_false, decide_eq_true_eq] at htimeout
  omega

theorem Mediated.forwardedFrom {r : Iteration MediatorTransferState}
    (h : Mediated P st (withTransfer c tr locks) (cs.set (incomingRef net
      tr) (withTransfer c tr locks)) a2c tr now r)
    (sent : .sendLockedTransfer msg ∈ r.events) (outside : ∀ block, sc ≠ .block block)
    (found : cs.get? (incomingRef net tr) = some c)
    (facts : LockedtransferAccepted P c c.partnerState c.ourState tr.balanceProof tr.lock locks)
    (hwaiting : ∀ waiting, st.waitingTransfer = some waiting → ∃ st, task = some st ∧
      st.secret = none ∧ st.waitingTransfer = some waiting) :
    ∃ p, ForwardedFrom P net cs now msg task sc r.channels r.newState p := by
  have hev := h.evolves
  cases h with
  | waits => cases sent
  | @forwards payee d d' msg' hforwarded =>
    cases List.mem_singleton.mp sent
    refine ⟨forwardedPair tr d msg, List.getLast?_concat, rfl, hforwarded.secrethash_eq,
      hforwarded.expiration_eq, hforwarded.unexpired, ?_, fun waiting hw => ⟨outside, hwaiting waiting hw⟩⟩
    obtain ⟨c', hc', hpartner⟩ := (partner_eq_of_sends hev).get_some' (Dict.get?_set_self cs _ _)
    obtain ⟨c'', hc'', -, hlife⟩ := (hev.sameLife Sends.isLockOp).get_some' (Dict.get?_set_self cs _ _)
    obtain rfl : c'' = c' := Option.some.inj (hc''.symm.trans hc')
    have haccepted : SameLife c (withTransfer c tr locks) := ⟨rfl, rfl, rfl, rfl⟩
    exact .accepted outside found facts hc' hpartner (haccepted.trans hlife)

/-- Transfers are sent for the first transfer, for a refund, and for a waiting transfer on a block. -/
theorem Reaction.forwardedFrom (hfiled : ∀ ref c, cs.get? ref = some c → Filed ref c)
    (hblock : ∀ block, sc = .block block → block.blockNumber = now)
    (h : Reaction P net cs a2c now task sc r) (sent : .sendLockedTransfer msg ∈ r.events) :
    ∃ st' p, r.newState = some st' ∧ ForwardedFrom P net cs now msg task sc r.channels st' p := by
  cases h with
  | ignored => cases sent
  | @initiated init _ h =>
    cases h with
    | rejected _ plain => exact absurd sent (plain msg)
    | @accepted c locks es r found facts _ mediated plain =>
      have href : _ = incomingRef net _ := (hfiled _ c found).incomingRef_eq facts rfl
      rw [href] at found mediated
      have sent := (List.mem_append.mp sent).resolve_left (plain msg)
      have outside : ∀ block, PaymentStateChange.actionInitMediator init ≠ .block block := nofun
      obtain ⟨p, hp⟩ := mediated.forwardedFrom sent outside found facts nofun
      exact ⟨r.newState, p, rfl, hp⟩
  | @refunded st refund _ h =>
    cases h with
    | rejected _ plain => exact absurd sent (plain msg)
    | @accepted last c locks es r unknown _ found facts _ _ mediated plain =>
      have sent := (List.mem_append.mp sent).resolve_left (plain msg)
      have outside : ∀ block, PaymentStateChange.receiveTransferRefund refund ≠ .block block := nofun
      obtain ⟨p, hp⟩ := mediated.forwardedFrom sent outside found facts
        fun waiting hw => ⟨st, rfl, unknown, hw⟩
      exact ⟨r.newState, p, rfl, hp⟩
  | @block st block mediate r h =>
    obtain rfl := hblock block rfl
    have frame := h.frame 0
    have hpairs := h.pairs
    have sent := h.sent sent
    obtain ⟨pairs, hrest⟩ := h.rest
    cases h.retried with
    | idle | waits => cases sent
    | @forwards waiting payerC c c' payee msg' hwaiting found facts =>
      cases List.mem_singleton.mp sent
      obtain ⟨p, hlast, haged⟩ := exists_getLast?_of_forall₂ hpairs
      have hpayer : p.payerTransfer = waiting.transfer := haged.same.payer
      refine ⟨r.newState, p, rfl, hlast, haged.same.payee, ?_, ?_, ?_, ?_, fun w hw => ?_⟩
      · exact hpayer ▸ facts.secrethash_eq
      · exact hpayer ▸ facts.expiration_eq
      · exact hpayer ▸ facts.unexpired
      · exact .waited rfl rfl hwaiting hpayer.symm (frame.mono fun _ _ h => ⟨h.1, h.2.1⟩)
      · rw [hrest] at hw
        cases hw
  | learned _ _ h => exact absurd sent (h.noTransfer msg)
  | learnedOnchain _ h => exact absurd sent (h.noTransfer msg)
  | unlocked h => exact absurd sent (h.unlocking.plain msg)
  | expired h => exact absurd sent (h.plain msg)

/-! ## Pending locks of received transfers -/

def Holds (ref : ChannelRef) (lock : HashTimeLockState) (cs : Channels) : Prop :=
  ∃ c, cs.get? ref = some c ∧ lock.encoded ∈ c.partnerState.pendingLocks

theorem not_holds_of_accepted (found : cs.get? ref = some c)
    (facts : LockedtransferAccepted P c c.partnerState c.ourState tr.balanceProof tr.lock locks) :
    ¬Holds ref tr.lock cs := by
  rintro ⟨d, hd, hmem⟩
  obtain rfl : d = c := Option.some.inj (hd.symm.trans found)
  have hlocks := facts.locks_eq
  rw [computeLocksWith, if_neg (not_not.mpr hmem)] at hlocks
  cases hlocks

/-- The received locks that have not expired are listed until the secret is known. -/
def Listed (net : TokenNetworkRef) (now : Nat) (cs : Channels)
    (st : MediatorTransferState) : Prop :=
  st.secret = none → ∀ transfer ∈ incoming st, now < transfer.lock.expiration →
    ∀ c, cs.get? (incomingRef net transfer) = some c →
      transfer.lock.encoded ∈ c.partnerState.pendingLocks

section Listed

variable {st' : MediatorTransferState} {cs' : Channels}

theorem Listed.keep (h : Listed net now cs st) (hsecret : st'.secret = none → st.secret = none)
    (hincoming : ∀ tr ∈ incoming st', tr ∈ incoming st)
    (hchannels : StoreRel (fun c c' => ∀ lock : HashTimeLockState, now < lock.expiration →
      lock.encoded ∈ c.partnerState.pendingLocks → lock.encoded ∈ c'.partnerState.pendingLocks)
      cs cs') : Listed net now cs' st' := by
  intro hnone tr ht hexpiration c' hc'
  obtain ⟨c, hc, hkeep⟩ := hchannels.get_some hc'
  exact hkeep _ hexpiration (h (hsecret hnone) tr (hincoming tr ht) hexpiration c hc)

theorem Listed.accepted {r : Iteration MediatorTransferState}
    (h : Listed net now cs st) (hnone : st.secret = none)
    (found : cs.get? (incomingRef net tr) = some c)
    (facts : LockedtransferAccepted P c c.partnerState c.ourState tr.balanceProof tr.lock locks)
    (hr : Mediated P st payerC (cs.set (incomingRef net tr) (withTransfer
      c tr locks)) a2c tr now r) : Listed net now r.channels r.newState := by
  have hlocks : locks = c.partnerState.pendingLocks ++ [tr.lock.encoded] := by
    have hlocks := facts.locks_eq
    unfold computeLocksWith at hlocks
    split at hlocks <;> cases hlocks
    rfl
  intro _ t ht hexpiration c' hc'
  obtain ⟨c₁, hc₁, hpartner⟩ := (partner_eq_of_sends hr.evolves).get_some hc'
  rw [hpartner]
  rw [Dict.get?_set] at hc₁
  split at hc₁
  · next href =>
    cases hc₁
    show t.lock.encoded ∈ locks
    rw [hlocks, List.mem_append]
    rcases hr.mem_incoming t ht with rfl | ht
    · exact .inr List.mem_cons_self
    · exact .inl (h hnone t ht hexpiration c (href ▸ found))
  · next href =>
    rcases hr.mem_incoming t ht with rfl | ht
    · exact absurd rfl href
    · exact h hnone t ht hexpiration c₁ hc₁

/-- The partner can remove a lock only after its expiration. -/
theorem receiveLockExpired_keeps {sc : ReceiveLockExpired} {md : Option AddressMetadata}
    (h : Step P c (.receiveLockExpired sc now md, es) c')
    (hexpiration : now < lock.expiration) (hmem : lock.encoded ∈ c.partnerState.pendingLocks) :
    lock.encoded ∈ c'.partnerState.pendingLocks := by
  cases h.outcome with
  | refused => exact hmem
  | @receivedExpired _ _ _ found locks facts =>
    rw [← (erase_of_computeLocksWithout facts.locks_eq).2]
    refine (List.mem_erase_of_ne fun hencoded => ?_).mpr hmem
    have hdue := facts.due
    rw [← encoded_injective hencoded, getReceiverExpirationThreshold] at hdue
    omega

theorem Reaction.listed (h : Reaction P net cs a2c now (some st) sc r)
    (sane : sanityCheckNewState net r = .ok ()) (hs : Listed net now cs st) :
    ∀ st' ∈ r.newState, Listed net now r.channels st' := by
  have hsame : ∀ {t t' : Channels}, StoreRel (fun c c' => c'.partnerState = c.partnerState) t t' →
      StoreRel (fun c c' => ∀ lock : HashTimeLockState, now < lock.expiration →
        lock.encoded ∈ c.partnerState.pendingLocks → lock.encoded ∈ c'.partnerState.pendingLocks) t t' :=
    fun h => h.mono fun _ _ heq _ _ hmem => heq ▸ hmem
  intro st' hstate'
  cases h with
  | ignored =>
    cases hstate'
    exact hs
  | @block _ _ mediate r h =>
    cases hstate'
    refine hs.keep (fun hnone => ?_) (fun t ht => ?_) (hsame ((h.frame 0).mono fun _ _ h => h.1))
    · obtain ⟨pairs, hrest⟩ := h.rest
      rw [hrest] at hnone
      exact h.retried.secret_eq.symm.trans hnone
    · rw [h.incoming_eq] at ht
      exact h.retried.mem_incoming t ht
  | refunded h =>
    cases hstate'
    cases h with
    | rejected => exact hs
    | @accepted last c locks es r unknown _ found facts _ _ mediated =>
      have hs' : Listed net now cs
        { st with refundedChannels := st.refundedChannels ++ [c.identifier] } := hs
      exact hs'.accepted unknown found facts mediated
  | learned _ _ h =>
    cases hstate'
    cases h
    exact nofun
  | learnedOnchain _ h =>
    cases hstate'
    cases h
    exact nofun
  | @unlocked _ _ r h =>
    cases hstate'
    intro hnone
    have hunknown : st.secret = none := by
      rw [h.rest] at hnone
      exact hnone
    have hkept := (h.unchanged (sane_of_some sane rfl) hunknown).1
    rw [hkept]
    refine hs.keep (fun _ => hunknown) (fun t ht => ?_) (.refl (fun _ _ _ h => h) _) hnone
    rw [incoming_eq h.unlocking.pairs (fun _ _ hp => hp.same.1) (by rw [h.rest])] at ht
    exact ht
  | @expired _ sc r h =>
    cases hstate'
    refine hs.keep (fun hnone => ?_) (fun t ht => ?_) ?_
    · rw [h.rest] at hnone
      exact hnone
    · rw [incoming_eq h.pairs (fun _ _ hp => hp.same.1) (by rw [h.rest])] at ht
      exact ht
    · refine h.evolves.storeRel (fun _ _ _ h => h) (fun _ _ _ h h' _ hx hmem => h' _ hx (h _ hx hmem)) ?_
      rintro _ _ _ _ _ ⟨md, rfl⟩ hstep lock hexpiration hmem
      exact receiveLockExpired_keeps hstep hexpiration hmem

theorem Initiated.listed (h : Initiated P net init cs a2c now r)
    (hfiled : ∀ ref c, cs.get? ref = some c → Filed ref c) :
    ∀ st' ∈ r.newState, Listed net now r.channels st' := by
  cases h with
  | rejected => exact fun _ h => absurd h.symm (Option.some_ne_none _)
  | @accepted c locks _ r found facts _ mediated =>
    rintro _ ⟨⟩
    have href : _ = incomingRef net _ := (hfiled _ c found).incomingRef_eq facts rfl
    rw [href] at found mediated
    have hempty : Listed net now cs
        { secrethash := init.fromTransfer.lock.secrethash, routes := init.candidateRouteStates } :=
      nofun
    exact hempty.accepted rfl found facts mediated

end Listed

def AcceptedNow (P : Primitives) (net : TokenNetworkRef) (cs : Channels)
    (transfer : LockedTransferSignedState) : Prop :=
  ∃ c locks, cs.get? (incomingRef net transfer) = some c ∧
    LockedtransferAccepted P c c.partnerState c.ourState transfer.balanceProof transfer.lock locks

theorem Mediated.waiting {r : Iteration MediatorTransferState}
    (h : Mediated P st payerC cs a2c tr now r) :
    ∀ waiting ∈ r.newState.waitingTransfer, waiting ∈ st.waitingTransfer ∨ waiting.transfer = tr := by
  cases h with
  | waits =>
    rintro _ ⟨⟩
    exact .inr rfl
  | forwards => exact fun _ h => .inl h

theorem Reaction.waiting (h : Reaction P net cs a2c now (some st) sc r) :
    ∀ st' ∈ r.newState, ∀ waiting' ∈ st'.waitingTransfer,
      (∃ waiting ∈ st.waitingTransfer, waiting'.transfer = waiting.transfer) ∨
        AcceptedNow P net cs waiting'.transfer := by
  intro st' hstate' waiting' hwaiting'
  cases h with
  | ignored =>
    cases hstate'
    exact .inl ⟨waiting', hwaiting', rfl⟩
  | @block _ _ mediate r h =>
    cases hstate'
    obtain ⟨pairs, hrest⟩ := h.rest
    rw [hrest] at hwaiting'
    obtain ⟨waiting, hwaiting, rfl⟩ := Option.mem_map.mp hwaiting'
    rw [expiredWaiting_transfer waiting]
    cases h.retried with
    | idle => exact .inl ⟨waiting, hwaiting, rfl⟩
    | waits hbefore =>
      cases hwaiting
      exact .inl ⟨_, hbefore, rfl⟩
    | forwards => cases hwaiting
  | refunded h =>
    cases hstate'
    cases h with
    | rejected => exact .inl ⟨waiting', hwaiting', rfl⟩
    | @accepted last c locks es r unknown _ found facts _ _ mediated =>
      rcases mediated.waiting waiting' hwaiting' with hbefore | heq
      · exact .inl ⟨waiting', hbefore, rfl⟩
      · exact .inr (heq ▸ ⟨c, locks, found, facts⟩)
  | learned _ _ h =>
    cases hstate'
    cases h
    exact .inl ⟨waiting', hwaiting', rfl⟩
  | learnedOnchain _ h =>
    cases hstate'
    cases h
    exact .inl ⟨waiting', hwaiting', rfl⟩
  | unlocked h =>
    cases hstate'
    rw [h.rest] at hwaiting'
    exact .inl ⟨waiting', hwaiting', rfl⟩
  | expired h =>
    cases hstate'
    rw [h.rest] at hwaiting'
    exact .inl ⟨waiting', hwaiting', rfl⟩

theorem Initiated.waiting (h : Initiated P net init cs a2c now r)
    (hfiled : ∀ ref c, cs.get? ref = some c → Filed ref c) :
    ∀ st' ∈ r.newState, ∀ waiting' ∈ st'.waitingTransfer,
      AcceptedNow P net cs waiting'.transfer := by
  cases h with
  | rejected => exact fun _ h => absurd h.symm (Option.some_ne_none _)
  | @accepted c locks _ r found facts _ mediated =>
    rintro _ ⟨⟩ waiting' hwaiting'
    have href : _ = incomingRef net _ := (hfiled _ c found).incomingRef_eq facts rfl
    rw [href] at found
    rcases mediated.waiting waiting' hwaiting' with hbefore | heq
    · cases hbefore
    · exact heq ▸ ⟨c, locks, found, facts⟩

section Runs

variable {s s' : Mediation} {label : Input × List Event}

/-- The invariant of every run. -/
structure Funds (net : TokenNetworkRef) (hash : SecretHash) (s : Mediation) : Prop where
  regular : Regular hash s
  uniform : ∀ st ∈ s.task, ∃ expiration, Uniform hash expiration st
  listed : ∀ st ∈ s.task, Listed net s.blockNumber s.channels st

/-- Nothing happens to the task, and its payers' channels keep their pending locks of the payment. -/
theorem Funds.surrounded (hs : Funds net hash s) (regular : Regular hash s')
    (htask : s'.task = s.task) (hblock : s.blockNumber ≤ s'.blockNumber)
    (hchannels : ∀ st ∈ s.task, ∀ tr ∈ incoming st, ∀ c',
      s'.channels.get? (incomingRef net tr) = some c' →
      ∃ c, s.channels.get? (incomingRef net tr) = some c ∧
        pendingAt hash c'.partnerState = pendingAt hash c.partnerState) : Funds net hash s' := by
  refine ⟨regular, htask ▸ hs.uniform, fun st hstate hnone tr ht hexpiration c' hc' => ?_⟩
  rw [htask] at hstate
  obtain ⟨c, hc, hpending⟩ := hchannels st hstate tr ht c' hc'
  obtain ⟨exp, huniform⟩ := hs.uniform st hstate
  have hmem := hs.listed st hstate hnone tr ht (Nat.lt_of_le_of_lt hblock hexpiration) c hc
  rw [← mem_pendingAt, (huniform.received tr ht).1] at hmem ⊢
  rw [hpending]
  exact hmem

theorem Funds.next (hs : Funds net hash s) (h : s.Next P net hash label s') :
    Funds net hash s' := by
  have hregular := hs.regular.next h
  cases h.seen hs.regular.filed with
  | @started init _ _ r absent secrethash_eq hinit task cs now =>
    refine ⟨hregular, fun st hstate => ⟨_, hinit.uniform secrethash_eq st (task st hstate)⟩,
      fun st hstate => ?_⟩
    rw [cs, now]
    exact hinit.listed hs.regular.filed st (task st hstate)
  | @reacted st _ _ _ r htask dispatched hreaction sane task cs now =>
    obtain ⟨exp, huniform⟩ := hs.uniform st htask
    refine ⟨hregular, fun st' hstate' =>
      ⟨exp, hreaction.uniform huniform dispatched st' (task st' hstate')⟩,
      fun st' hstate' => ?_⟩
    rw [cs, now]
    exact hreaction.listed sane (hs.listed st htask) st' (task st' hstate')
  | surrounded outside =>
    cases h with
    | @tick n later order =>
      exact hs.surrounded hregular rfl (Nat.le_of_lt later) fun _ _ _ _ c' hc' => ⟨c', hc', rfl⟩
    | @opened ref c absent unused fresh =>
      refine hs.surrounded hregular rfl (Nat.le_refl _) fun st hstate tr ht c' hc' => ?_
      rw [Mediation.taskRefs, hstate, Option.elim_some] at unused
      have hne : incomingRef net tr ≠ ref := fun href => unused (href ▸ incomingRef_mem ht)
      exact ⟨c', (Dict.get?_set_ne _ _ hne).symm.trans hc', rfl⟩
    | @channel ref c c' op es found step foreign order lawful =>
      refine hs.surrounded hregular rfl (Nat.le_refl _) fun st hstate tr ht d hd => ?_
      rw [Dict.get?_set] at hd
      split at hd
      · next href =>
        cases hd
        have hfiled := hs.regular.filed ref c found
        exact ⟨c, href ▸ found, (step.pendingAt_eq hfiled.our hfiled.partner foreign).2⟩
      · exact ⟨d, hd, rfl⟩
    | removed =>
      refine hs.surrounded hregular rfl (Nat.le_refl _) fun st hstate tr ht d hd => ?_
      exact ⟨d, (Dict.get?_del_eq_some.mp hd).2, rfl⟩
    | task => exact absurd rfl (outside _ _)

theorem Funds.of_run (h : Run (Mediation.Next P net hash) (.start now) log s) :
    Funds net hash s := by
  have hstart : Regular hash (.start now) := ⟨fun _ _ h => (by cases h), fun _ h => (by cases h)⟩
  exact h.invariant ⟨hstart, nofun, nofun⟩
    fun _ _ _ hs hnext => hs.next hnext

def NotWaiting (net : TokenNetworkRef) (ref : ChannelRef) (lock : HashTimeLockState)
    (s : Mediation) : Prop :=
  ∀ st ∈ s.task, ∀ waiting ∈ st.waitingTransfer,
    incomingRef net waiting.transfer = ref → waiting.transfer.lock ≠ lock

/-- A pending lock that does not wait is not received again. -/
theorem NotWaiting.next (hs : Funds net hash s)
    (hnot : NotWaiting net ref lock s) (hholds : Holds ref lock s.channels)
    (h : s.Next P net hash label s') : NotWaiting net ref lock s' := by
  have haccepted : ∀ tr, AcceptedNow P net s.channels tr →
      incomingRef net tr = ref → tr.lock ≠ lock := by
    rintro tr ⟨c, locks, found, facts⟩ rfl rfl
    exact not_holds_of_accepted found facts hholds
  cases h.seen hs.regular.filed with
  | surrounded _ hsame => exact fun st hstate => hnot st (hsame.task ▸ hstate)
  | started _ _ hinit task =>
    exact fun st hstate waiting hwaiting =>
      haccepted _ (hinit.waiting hs.regular.filed st (task st hstate) waiting hwaiting)
  | @reacted st _ _ _ _ htask _ hreaction _ task =>
    intro st' hstate' waiting' hwaiting'
    rcases hreaction.waiting st' (task st' hstate') waiting' hwaiting' with
      ⟨waiting, hwaiting, heq⟩ | hnow
    · rw [heq]
      exact hnot st htask waiting hwaiting
    · exact haccepted _ hnow

def ForwardedIn (s : Mediation) (transfer : LockedTransferSignedState)
    (message : SendLockedTransfer) : Prop :=
  ∃ st p, s.task = some st ∧ st.transfersPair.getLast? = some p ∧ p.payerTransfer = transfer ∧
    p.payeeTransfer = message.transfer

/-- All transfers of the task have its secrethash, also right after a first transfer. -/
theorem Reaction.received_eq (h : Reaction P net cs a2c now s.task sc r)
    (hs : ∀ st ∈ s.task, ∃ exp, Uniform hash exp st) (dispatched : s.dispatches P hash sc) :
    ∀ st ∈ r.newState, ∃ exp, Uniform hash exp st := by
  intro st' hstate'
  cases htask : s.task with
  | some st =>
    rw [htask] at h
    obtain ⟨exp, huniform⟩ := hs st htask
    exact ⟨exp, h.uniform huniform dispatched st' hstate'⟩
  | none =>
    rw [htask] at h
    cases h with
    | ignored => cases hstate'
    | initiated h => exact ⟨_, h.uniform dispatched st' hstate'⟩

/-- What is known after a step that forwards, before a finished task is cleared. -/
structure ForwardedBy (P : Primitives) (net : TokenNetworkRef) (hash : SecretHash)
    (message : SendLockedTransfer) (change : PaymentStateChange) (s s' : Mediation)
    (st' : MediatorTransferState) (p : MediationPairState) : Prop where
  origin : ForwardedFrom P net s.channels s.blockNumber message s.task change s'.channels st' p
  uniform : ∃ expiration, Uniform hash expiration st'
  task_eq : ∀ st ∈ s'.task, st = st'
  kept : ∀ c, s'.channels.get? (incomingRef net p.payerTransfer) = some c →
    isLockPending c.partnerState st'.secrethash = true → s'.task = some st'
  blockNumber_eq : s'.blockNumber = s.blockNumber

theorem Mediation.Next.forwardedBy (hs : Funds net hash s)
    (h : s.Next P net hash (.task sc bh, es) s') (sent : .sendLockedTransfer msg ∈ es) :
    ∃ st' p, ForwardedBy P net hash msg sc s s' st' p := by
  cases h with
  | @task _ _ prng prng' r dispatched order run =>
    obtain ⟨iter, hreaction, -, rfl⟩ := Mediation.Next.reaction run
    rw [clearIfFinalized_events] at sent
    obtain ⟨st', p, hstate', hfrom⟩ := hreaction.forwardedFrom hs.regular.filed (fun block heq => by
      subst heq
      exact dispatched.2) sent
    refine ⟨st', p, ?_, hreaction.received_eq hs.uniform dispatched st' hstate', fun st hstate => ?_,
      fun c hc hpending => ?_, rfl⟩
    · rw [clearIfFinalized_channels]
      exact hfrom
    · exact Option.some.inj ((clearIfFinalized_newState hstate).symm.trans hstate')
    · rw [clearIfFinalized_channels] at hc
      exact clearIfFinalized_of_pending hstate' (List.mem_of_getLast? hfrom.last) hc hpending

/-- The forwarded lock does not wait any more. -/
theorem ForwardedBy.notWaiting (h : ForwardedBy P net hash msg sc s s' st' p)
    (hs : Funds net hash s) :
    NotWaiting net (incomingRef net p.payerTransfer) p.payerTransfer.lock s' := by
  intro st'' hstate'' waiting hwaiting href hlock
  obtain rfl := h.task_eq st'' hstate''
  obtain ⟨outside, st, htask, hnone, hbefore⟩ := h.origin.waiting waiting hwaiting
  cases h.origin.source with
  | waited _ hchange => exact outside _ hchange
  | @accepted c _ _ _ found facts =>
    -- the waiting transfer would have its lock listed, and the new one would have been rejected
    have hmem := hs.listed st htask hnone waiting.transfer (waiting_mem_incoming hbefore)
      (hlock ▸ h.origin.unexpired) c (href ▸ found)
    exact not_holds_of_accepted found facts ⟨c, found, hlock ▸ hmem⟩

/-- An earlier step of a run forwarded the lock, which stayed pending from then on. -/
def Spent (P : Primitives) (net : TokenNetworkRef) (hash : SecretHash) (start : Mediation)
    (ref : ChannelRef) (lock : HashTimeLockState) (s : Mediation) : Prop :=
  ∃ log t change bh es t' log' message transfer,
    Run (Mediation.Next P net hash) start log t ∧
    t.Next P net hash (.task change bh, es) t' ∧
    .sendLockedTransfer message ∈ es ∧ ForwardedIn t' transfer message ∧
    incomingRef net transfer = ref ∧ transfer.lock = lock ∧ Holds ref lock t'.channels ∧
    Run (fun u label u' => u.Next P net hash label u' ∧ Holds ref lock u'.channels) t' log' s

theorem Spent.holds (h : Spent P net hash (.start now) ref lock s) :
    NotWaiting net ref lock s ∧ Holds ref lock s.channels := by
  obtain ⟨log, t, sc, bh, es, t', log', msg, tr, hrun, hnext, sent,
    ⟨st, p, htask, hlast, rfl, -⟩, rfl, rfl, hholds, hrest⟩ := h
  have hfunds := Funds.of_run hrun
  obtain ⟨st', q, hby⟩ := hnext.forwardedBy hfunds sent
  obtain rfl := hby.task_eq st htask
  obtain rfl : p = q := Option.some.inj (hlast.symm.trans hby.origin.last)
  have hinv := hrest.invariant (I := fun u => Funds net hash u ∧
      NotWaiting net (incomingRef net p.payerTransfer) p.payerTransfer.lock u ∧
      Holds (incomingRef net p.payerTransfer) p.payerTransfer.lock u.channels)
    ⟨hfunds.next hnext, hby.notWaiting hfunds, hholds⟩
    fun u label u' hu hstep => ⟨hu.1.next hstep.1, hu.2.1.next hu.1 hu.2.2 hstep.1, hstep.2⟩
  exact hinv.2

theorem ForwardedBy.not_spent (h : ForwardedBy P net hash msg sc s s' st' p) :
    ¬Spent P net hash (.start now) (incomingRef net p.payerTransfer) p.payerTransfer.lock s := by
  intro hspent
  obtain ⟨hnot, hholds⟩ := hspent.holds
  cases h.origin.source with
  | accepted _ found facts => exact not_holds_of_accepted found facts hholds
  | @waited st waiting _ htask _ hwaiting heq =>
    exact hnot st htask waiting hwaiting (heq ▸ rfl) (heq ▸ rfl)

/-- The message forwards the transfer: its channel is open, its lock is pending there
and has not expired, the new lock agrees with it, and it was not forwarded before. -/
structure FundedBy (P : Primitives) (net : TokenNetworkRef) (hash : SecretHash)
    (start s s' : Mediation) (message : SendLockedTransfer) (transfer : LockedTransferSignedState)
    (c : NettingChannelState) : Prop where
  forwarded : ForwardedIn s' transfer message
  found : s'.channels.get? (incomingRef net transfer) = some c
  opened : getStatus c = .opened
  pending : getLock c.partnerState transfer.lock.secrethash = some transfer.lock
  unexpired : s'.blockNumber < transfer.lock.expiration
  secrethash_eq : message.transfer.lock.secrethash = transfer.lock.secrethash
  expiration_eq : message.transfer.lock.expiration = transfer.lock.expiration
  unspent : ¬Spent P net hash start (incomingRef net transfer) transfer.lock s

/-- A transfer that waits when a block comes has its lock pending in an open channel. -/
def RetriesLive (net : TokenNetworkRef) (s : Mediation) : PaymentStateChange → Prop
  | .block _ => ∀ st ∈ s.task, ∀ waiting ∈ st.waitingTransfer,
    ∃ c, s.channels.get? (waitingRef net waiting) = some c ∧ getStatus c = .opened ∧
      getLock c.partnerState waiting.transfer.lock.secrethash = some waiting.transfer.lock
  | _ => True

theorem ForwardedBy.funded (h : ForwardedBy P net hash msg sc s s' st' p)
    (found : s'.channels.get? (incomingRef net p.payerTransfer) = some c)
    (opened : getStatus c = .opened)
    (pending : getLock c.partnerState p.payerTransfer.lock.secrethash = some p.payerTransfer.lock) :
    FundedBy P net hash (.start now) s s' msg p.payerTransfer c := by
  obtain ⟨exp, huniform⟩ := h.uniform
  have hsecrethash := (huniform.payer (List.mem_of_getLast? h.origin.last)).1
  have hkept : s'.task = some st' := by
    refine h.kept c found ?_
    rw [huniform.secrethash_eq, ← hsecrethash]
    exact (HasLock.of_getLock pending).isLockPending
  exact ⟨⟨st', p, hkept, h.origin.last, rfl, h.origin.sent⟩, found, opened, pending,
    h.blockNumber_eq ▸ h.origin.unexpired, h.origin.secrethash_eq, h.origin.expiration_eq, h.not_spent⟩

/-- A forwarded transfer is funded exactly if it did not wait for a block, or its
lock was still pending in an open channel when the block came. -/
theorem forwarded_transfer_funded_iff {now : Nat} {log : List (Input × List Event)}
    {change : PaymentStateChange} {es : List Event}
    (hrun : Run (Mediation.Next P net hash) (.start now) log s)
    (hnext : s.Next P net hash (.task change bh, es) s') (sent : .sendLockedTransfer message ∈ es) :
    (∃ transfer c, FundedBy P net hash (.start now) s s' message transfer c) ↔
      RetriesLive net s change := by
  obtain ⟨st', p, hby⟩ := hnext.forwardedBy (Funds.of_run hrun) sent
  cases hby.origin.source with
  | @accepted c c' locks outside found facts found' partner life =>
    have hlive : RetriesLive net s change := by
      cases change with
      | block block => exact absurd rfl (outside block)
      | _ => trivial
    refine iff_of_true ⟨p.payerTransfer, c', hby.funded found' ?_ ?_⟩ hlive
    · exact life.getStatus_eq.trans facts.usable.opened
    · rw [partner]
      simp [withTransfer, addLock, getLock]
  | @waited st waiting block htask hchange hwaiting transfer_eq frame =>
    subst hchange
    constructor
    · rintro ⟨transfer, c', ⟨st'', q, htask', hlast, rfl, -⟩, found', opened, pending, -⟩ st₁ hstate₁
        waiting₁ hwaiting₁
      obtain rfl : st₁ = st := Option.some.inj (hstate₁.symm.trans htask)
      obtain rfl : waiting₁ = waiting := Option.some.inj (hwaiting₁.symm.trans hwaiting)
      obtain rfl := hby.task_eq st'' htask'
      obtain rfl : q = p := Option.some.inj (hlast.symm.trans hby.origin.last)
      rw [← transfer_eq] at found' pending
      obtain ⟨c, hc, hpartner, hlife⟩ := frame.get_some found'
      exact ⟨c, hc, hlife.getStatus_eq.symm.trans opened, hpartner ▸ pending⟩
    · intro hlive
      obtain ⟨c, hc, opened, pending⟩ := hlive st htask waiting hwaiting
      obtain ⟨c', hc', hpartner, hlife⟩ := frame.get_some' hc
      refine ⟨p.payerTransfer, c', hby.funded ?_ (hlife.getStatus_eq.trans opened) ?_⟩
      · rw [← transfer_eq]
        exact hc'
      · rw [hpartner, ← transfer_eq]
        exact pending

end Runs

private def isForward : Event → Bool
  | .sendLockedTransfer _ => true
  | _ => false

private theorem exists_forward (h : es.any isForward = true) :
    ∃ msg, .sendLockedTransfer msg ∈ es := by
  obtain ⟨event, hmem, hforward⟩ := List.any_eq_true.mp h
  cases event with
  | sendLockedTransfer msg => exact ⟨msg, hmem⟩
  | _ => cases hforward

/-- The lock until block 400 is longer than the payee's settlement window of 100
blocks allows, so the transfer waits; at block 320 it is forwarded. -/
private def retriesAt (inputs : List Input) (p : Mediation → Mediation → Bool) : Bool :=
  (execute (Mediation.next toyPrimitives toyTokenNetwork 7 (fun _ _ => True) 0)
    (forwardUntil 400 :: inputs ++ [.tick 320]) (toyStart 500 100)).any fun done =>
      (done.2.next toyPrimitives toyTokenNetwork 7 (fun _ _ => True) 0
        (.task (.block ⟨320, []⟩) [])).any fun last => last.1.2.any isForward && p done.2 last.2

private theorem exists_of_retriesAt {inputs : List Input} {p : Mediation → Mediation → Bool}
    (h : retriesAt inputs p = true) :
    ∃ log s es s' msg, Run (Mediation.Next toyPrimitives toyTokenNetwork 7) (.start 1) log s ∧
      s.Next toyPrimitives toyTokenNetwork 7 (.task (.block ⟨320, []⟩) [], es) s' ∧
      .sendLockedTransfer msg ∈ es ∧ p s s' = true := by
  obtain ⟨log, s, hrun, h⟩ := toyStart_run (fun _ _ _ => trivial) h
  obtain ⟨es, s', hlast, h⟩ := Mediation.exists_next h
  obtain ⟨hforward, hp⟩ := Bool.and_eq_true_iff.mp h
  obtain ⟨msg, hmem⟩ := exists_forward hforward
  exact ⟨log, s, es, s', msg, hrun.mono fun _ _ _ h => h.2, hlast.2, hmem, hp⟩

instance (net : TokenNetworkRef) (s : Mediation) (block : Block) :
    Decidable (RetriesLive net s (.block block)) :=
  decidable_of_iff (s.task.all fun st => st.waitingTransfer.all fun waiting =>
      (s.channels.get? (waitingRef net waiting)).any fun c => decide (getStatus c = .opened) &&
        decide (getLock c.partnerState waiting.transfer.lock.secrethash = some waiting.transfer.lock)) (by
    simp [RetriesLive, Option.all_eq_true, Option.any_eq_true])

/-- A retry while the payer's channel is open. -/
theorem forwarded_transfer_funded_after_wait :
    ∃ log s es s' message transfer c,
      Run (Mediation.Next toyPrimitives toyTokenNetwork 7) (.start 1) log s ∧
      s.Next toyPrimitives toyTokenNetwork 7 (.task (.block ⟨320, []⟩) [], es) s' ∧
      .sendLockedTransfer message ∈ es ∧
      FundedBy toyPrimitives toyTokenNetwork 7 (.start 1) s s' message transfer c := by
  have hexec : retriesAt [] (fun s _ => decide (RetriesLive toyTokenNetwork s (.block ⟨320, []⟩))) = true := by
    decide +kernel
  obtain ⟨log, s, es, s', message, hrun, hnext, sent, hlive⟩ := exists_of_retriesAt hexec
  obtain ⟨transfer, c, hfunded⟩ := (forwarded_transfer_funded_iff hrun hnext sent).mpr (of_decide_eq_true hlive)
  exact ⟨log, s, es, s', message, transfer, c, hrun, hnext, sent, hfunded⟩

/-- The payer closes the channel while the transfer waits, and it is forwarded all the same. -/
theorem forwarded_transfer_from_closed_channel :
    ∃ log s es s' message, Run (Mediation.Next toyPrimitives toyTokenNetwork 7) (.start 1) log s ∧
      s.Next toyPrimitives toyTokenNetwork 7 (.task (.block ⟨320, []⟩) [], es) s' ∧
      .sendLockedTransfer message ∈ es ∧
      ∀ transfer c, ¬FundedBy toyPrimitives toyTokenNetwork 7 (.start 1) s s' message transfer c := by
  have hexec : retriesAt [.channel (toyRef 1)
      (.stateChange (.contractReceiveChannelClosed ⟨10, [], 2, ⟨1, 9, 1⟩⟩) 1 [])]
      (fun _ s' => s'.task.all fun st => st.transfersPair.getLast?.all fun p =>
        (getPayerChannel toyTokenNetwork s'.channels p).all fun c => decide (getStatus c ≠ .opened)) =
      true := by decide +kernel
  obtain ⟨log, s, es, s', message, hrun, hnext, sent, hclosed⟩ := exists_of_retriesAt hexec
  refine ⟨log, s, es, s', message, hrun, hnext, sent, ?_⟩
  rintro _ c ⟨⟨st, p, htask, hlast, rfl, -⟩, found, opened, -⟩
  simp only [Option.all_eq_true, decide_eq_true_eq] at hclosed
  exact hclosed st htask p hlast c found opened

end Raiden.Mediator
