import Raiden.Channel.Locks

/-! # What every operation keeps

The identity of a channel is fixed when it is opened, its life cycle moves
forward only, and an operation on behalf of one secrethash leaves the locks of
every other secrethash alone. -/
namespace Raiden.Channel

open Lib

variable {P : Primitives} {c c' : NettingChannelState} {op : ChannelOp} {es : List Event}
  {lock : HashTimeLockState} {locks : List EncodedData} {now : Nat} {md : Option AddressMetadata}
  {secret : Secret} {k hash : SecretHash}

structure SameIdentity (c c' : NettingChannelState) : Prop where
  identifier : c'.canonicalIdentifier = c.canonicalIdentifier
  token : c'.tokenAddress = c.tokenAddress
  our : c'.ourState.address = c.ourState.address
  partner : c'.partnerState.address = c.partnerState.address
  settleTimeout : c'.settleTimeout = c.settleTimeout

theorem SameIdentity.refl (c : NettingChannelState) : SameIdentity c c := ⟨rfl, rfl, rfl, rfl, rfl⟩

theorem SameIdentity.trans {c₁ c₂ c₃ : NettingChannelState} (h : SameIdentity c₁ c₂)
    (h' : SameIdentity c₂ c₃) : SameIdentity c₁ c₃ :=
  ⟨h'.identifier.trans h.identifier, h'.token.trans h.token, h'.our.trans h.our,
    h'.partner.trans h.partner, h'.settleTimeout.trans h.settleTimeout⟩

theorem OpCases.sameIdentity (h : OpCases P c op c') : SameIdentity c c' := by
  cases h with
  | stateChange _ frame _ =>
    exact ⟨frame.identifier, frame.token, frame.our.same.address, frame.partner.same.address,
      frame.life.settleTimeout⟩
  | lock step =>
    have hour := step.our.sameAccount.address
    have hpartner := step.partner.sameAccount.address
    rw [step.rest]
    exact ⟨rfl, rfl, hour, hpartner, rfl⟩

theorem Step.sameIdentity (h : Step P c (op, es) c') : SameIdentity c c' := h.cases.sameIdentity

def ChannelOp.isLockOp : ChannelOp → Bool
  | .stateChange .. => false
  | _ => true

theorem Step.sameLife (h : Step P c (op, es) c') (hop : op.isLockOp = true) : SameLife c c' := by
  cases h.cases with
  | stateChange heq _ _ =>
    cases heq
    cases hop
  | lock step =>
    rw [step.rest]
    exact ⟨rfl, rfl, rfl, rfl⟩

theorem getStatus_eq_opened :
    getStatus c = .opened ↔ c.settleTransaction = none ∧ c.closeTransaction = none := by
  have hne : ∀ (t : TransactionExecutionStatus) (done running : ChannelState), done ≠ .opened →
      running ≠ .opened → TransactionExecutionStatus.status t done running ≠ .opened := by
    intro t done running hdone hrunning
    unfold TransactionExecutionStatus.status
    split_ifs
    exacts [hdone, hrunning, by decide]
  unfold getStatus
  cases c.settleTransaction with
  | some settle => simpa using hne settle _ _ (by decide) (by decide)
  | none =>
    cases c.closeTransaction with
    | some close => simpa using hne close _ _ (by decide) (by decide)
    | none => simp

theorem SameLife.getStatus_eq (h : SameLife c c') : getStatus c' = getStatus c := by
  simp only [getStatus, h.close, h.settle]

theorem LifeStep.opened {sc : ChannelStateChange} (h : LifeStep P c sc c')
    (ho : getStatus c' = .opened) : getStatus c = .opened := by
  rw [getStatus_eq_opened] at ho ⊢
  obtain ⟨hsettle, hclose⟩ := ho
  cases h with
  | same close settle => exact ⟨settle ▸ hsettle, close ▸ hclose⟩
  | closing _ close _ => cases hclose.symm.trans close
  | @closed act _ close _ =>
    have hsome := isSome_setFinished c.closeTransaction act.blockNumber
    rw [← close, hclose] at hsome
    cases hsome
  | settling _ _ _ _ settle | settled _ _ _ settle => simp [hsettle] at settle

theorem Step.opened (h : Step P c (op, es) c') (ho : getStatus c' = .opened) :
    getStatus c = .opened := by
  cases h.cases with
  | stateChange _ frame _ => exact frame.life.step.opened ho
  | lock step =>
    rw [step.rest] at ho
    exact ho

/-! ## The locks of other secrethashes -/

def ChannelOp.secrethash (P : Primitives) : ChannelOp → Option SecretHash
  | .stateChange .. => none
  | .sendLockedtransfer arguments => some arguments.secrethash
  | .sendUnlock _ _ _ hash _ _ => some hash
  | .sendLockExpired hash _ _ => some hash
  | .registerOffchainSecret _ hash => some hash
  | .registerOnchainSecret _ hash _ => some hash
  | .receiveLockedtransfer transfer _ => some transfer.lock.secrethash
  | .receiveRefundtransfer _ refund => some refund.transfer.lock.secrethash
  | .receiveLockExpired change _ _ => some change.secrethash
  | .receiveUnlock unlock _ => some (unlock.secrethash P)

/-- The three maps agree at a secrethash. -/
structure SameLocksAt (k : SecretHash) (e e' : NettingChannelEndState) : Prop where
  locked : e'.secrethashesToLockedlocks.get? k = e.secrethashesToLockedlocks.get? k
  unlocked : e'.secrethashesToUnlockedlocks.get? k = e.secrethashesToUnlockedlocks.get? k
  onchain : e'.secrethashesToOnchainUnlockedlocks.get? k = e.secrethashesToOnchainUnlockedlocks.get? k

section SameLocksAt

variable {k h : SecretHash} {e e' : NettingChannelEndState} {bp : BalanceProofState}
  {pending : List EncodedData} {lock : HashTimeLockState}

theorem SameLocksAt.refl (k : SecretHash) (e : NettingChannelEndState) : SameLocksAt k e e :=
  ⟨rfl, rfl, rfl⟩

theorem SameLocksAt.isSecretKnown_eq (h : SameLocksAt k e e') :
    isSecretKnown e' k = isSecretKnown e k := by
  simp only [isSecretKnown, decide_eq_decide, Dict.mem_iff, h.unlocked, h.onchain]

theorem SameLocksAt.isLockPending_eq (h : SameLocksAt k e e') :
    isLockPending e' k = isLockPending e k := by
  simp only [isLockPending, decide_eq_decide, Dict.mem_iff, h.locked, h.unlocked, h.onchain]

theorem SameLocks.sameLocksAt (h : SameLocks e e') (k : SecretHash) : SameLocksAt k e e' :=
  ⟨by rw [h.locked], by rw [h.unlocked], by rw [h.onchain]⟩

theorem sameLocksAt_addLock (hk : k ≠ lock.secrethash) : SameLocksAt k e (addLock e bp pending lock) :=
  ⟨Dict.get?_set_ne _ _ hk, rfl, rfl⟩

theorem sameLocksAt_delUnclaimedLock (hk : k ≠ h) :
    SameLocksAt k e (delUnclaimedLock (setBalanceProof e bp pending) h) :=
  ⟨Dict.get?_del_ne _ hk, Dict.get?_del_ne _ hk, rfl⟩

theorem sameLocksAt_dropLock (hk : k ≠ h) :
    SameLocksAt k e (dropLock (setBalanceProof e bp pending) h) :=
  ⟨Dict.get?_del_ne _ hk, Dict.get?_del_ne _ hk, Dict.get?_del_ne _ hk⟩

theorem sameLocksAt_register (secret : Secret) (hk : k ≠ h) :
    SameLocksAt k e (registerSecretEndstate e secret h) := by
  unfold registerSecretEndstate
  split
  · exact .refl k e
  · exact ⟨Dict.get?_del_ne _ hk, Dict.get?_set_ne _ _ hk, rfl⟩

theorem sameLocksAt_registerOnchain (hk : k ≠ h)
    (hr : registerOnchainSecretEndstate e secret h now = .ok e') : SameLocksAt k e e' := by
  rcases registerOnchainSecretEndstate_cases hr with rfl | ⟨_, _, _, rfl⟩
  · exact .refl k e'
  · refine ⟨Dict.get?_del_ne _ hk, Dict.get?_del_ne _ hk, ?_⟩
    rw [Dict.get?_set_ne _ _ hk, Dict.get?_del_ne _ hk]

end SameLocksAt

/-- The pending locks of a secrethash; the last 32 bytes of an encoded lock are its secrethash. -/
def pendingAt (k : SecretHash) (e : NettingChannelEndState) : List EncodedData :=
  e.pendingLocks.filter fun encoded => encoded.setWidth 256 = k

theorem encoded_setWidth (lock : HashTimeLockState) : lock.encoded.setWidth 256 = lock.secrethash :=
  BitVec.setWidth_append_eq_right

theorem mem_pendingAt {e : NettingChannelEndState} :
    lock.encoded ∈ pendingAt lock.secrethash e ↔ lock.encoded ∈ e.pendingLocks := by
  simp [pendingAt, encoded_setWidth]

/-! ### Operations for a secrethash -/

/-- What an operation for the secrethash `k` does to an end. -/
inductive EndOp (k : SecretHash) (e : NettingChannelEndState) : NettingChannelEndState → Prop
  | kept : EndOp k e e
  | added {bp : BalanceProofState} {lock : HashTimeLockState} {locks : List EncodedData}
      (secrethash_eq : lock.secrethash = k) (locks_eq : computeLocksWith e.pendingLocks lock = some locks) :
      EndOp k e (addLock e bp locks lock)
  | unlocked {bp : BalanceProofState} {lock : HashTimeLockState} {locks : List EncodedData}
      (held : HasLock e k lock) (locks_eq : computeLocksWithout e.pendingLocks lock.encoded = some locks) :
      EndOp k e (dropLock (setBalanceProof e bp locks) k)
  | expired {bp : BalanceProofState} {lock : HashTimeLockState} {locks : List EncodedData}
      (held : HasLock e k lock) (locks_eq : computeLocksWithout e.pendingLocks lock.encoded = some locks) :
      EndOp k e (delUnclaimedLock (setBalanceProof e bp locks) k)
  | registered (secret : Secret) : EndOp k e (registerSecretEndstate e secret k)
  | registeredOnchain {e' : NettingChannelEndState} {secret : Secret} {now : Nat}
      (h : registerOnchainSecretEndstate e secret k now = .ok e') : EndOp k e e'

section EndOp

variable {k k' : SecretHash} {e e' : NettingChannelEndState}

theorem EndOp.sameLocksAt (h : EndOp k' e e') (hk : k ≠ k') : SameLocksAt k e e' := by
  cases h with
  | kept => exact .refl k e
  | added secrethash_eq => exact sameLocksAt_addLock (secrethash_eq ▸ hk)
  | unlocked => exact sameLocksAt_dropLock hk
  | expired => exact sameLocksAt_delUnclaimedLock hk
  | registered secret => exact sameLocksAt_register secret hk
  | registeredOnchain h => exact sameLocksAt_registerOnchain hk h

private theorem filter_erase_encoded {pending : List EncodedData}
    (h : computeLocksWithout pending lock.encoded = some locks) (hk : k ≠ lock.secrethash) :
    locks.filter (fun encoded => encoded.setWidth 256 = k) =
      pending.filter fun encoded => encoded.setWidth 256 = k := by
  unfold computeLocksWithout at h
  split at h <;> cases h
  rw [← List.erase_filter]
  refine List.erase_of_not_mem fun hmem => hk ?_
  rw [List.mem_filter, encoded_setWidth, decide_eq_true_eq] at hmem
  exact hmem.2.symm

theorem EndOp.pendingAt_eq (h : EndOp k' e e') (ht : Tracked e) (hk : k ≠ k') :
    pendingAt k e' = pendingAt k e := by
  cases h with
  | kept => rfl
  | @added bp lock locks secrethash_eq locks_eq =>
    unfold computeLocksWith at locks_eq
    split at locks_eq <;> cases locks_eq
    rw [← secrethash_eq] at hk
    simp [pendingAt, addLock, encoded_setWidth, hk.symm]
  | unlocked held locks_eq
  | expired held locks_eq => exact filter_erase_encoded locks_eq (ht.keyed held ▸ hk)
  | registered secret =>
    unfold registerSecretEndstate
    split <;> rfl
  | registeredOnchain h =>
    rcases registerOnchainSecretEndstate_cases h with rfl | ⟨_, _, _, rfl⟩ <;> rfl

end EndOp

/-- Both ends agree at a secrethash. -/
def SameChannelLocksAt (k : SecretHash) (c c' : NettingChannelState) : Prop :=
  SameLocksAt k c.ourState c'.ourState ∧ SameLocksAt k c.partnerState c'.partnerState

/-- An operation changes no lock, or both ends by an operation for its secrethash. -/
inductive OpEnds (P : Primitives) (op : ChannelOp) (c c' : NettingChannelState) : Prop
  | none (hop : op.secrethash P = none) (our : SameLocks c.ourState c'.ourState)
      (partner : SameLocks c.partnerState c'.partnerState)
  | some {k : SecretHash} (hop : op.secrethash P = some k) (our : EndOp k c.ourState c'.ourState)
      (partner : EndOp k c.partnerState c'.partnerState)

theorem Step.ends (h : Step P c (op, es) c') (ht : Tracked c.ourState) : OpEnds P op c c' := by
  cases h.outcome with
  | handled handled =>
    have frame := handled.frame P c' rfl
    exact .none rfl frame.our.same frame.partner.same
  | refused notice => cases notice <;> exact .some rfl .kept .kept
  | sentTransfer facts => exact .some rfl (.added facts.secrethash_eq facts.locks_eq) .kept
  | sentUnlock facts =>
    have hheld := HasLock.of_getLock facts.lock_eq
    rw [ht.keyed hheld]
    exact .some rfl (.unlocked hheld facts.locks_eq) .kept
  | unexpired => exact .some rfl .kept .kept
  | sentExpired lock_eq facts =>
    have hheld := HasLock.of_getUnclaimedLock lock_eq
    rw [ht.keyed hheld]
    exact .some rfl (.expired hheld facts.locks_eq) .kept
  | registered => exact .some rfl (.registered _) (.registered _)
  | registeredOnchain our partner => exact .some rfl (.registeredOnchain our) (.registeredOnchain partner)
  | receivedTransfer facts | receivedRefund facts => exact .some rfl .kept (.added rfl facts.locks_eq)
  | receivedExpired facts => exact .some rfl .kept (.expired (.of_getUnclaimedLock facts.lock_eq) facts.locks_eq)
  | receivedUnlock facts => exact .some rfl .kept (.unlocked (.of_getLock facts.lock_eq) facts.locks_eq)

/-- An operation leaves the locks of other secrethashes alone. -/
theorem Step.sameLocksAt (h : Step P c (op, es) c') (ht : Tracked c.ourState)
    (hk : op.secrethash P ≠ some k) : SameChannelLocksAt k c c' := by
  cases h.ends ht with
  | none _ our partner => exact ⟨our.sameLocksAt k, partner.sameLocksAt k⟩
  | some hop our partner =>
    have hne : k ≠ _ := fun heq => hk (heq ▸ hop)
    exact ⟨our.sameLocksAt hne, partner.sameLocksAt hne⟩

/-- It also leaves their entries among the pending locks. -/
theorem Step.pendingAt_eq (h : Step P c (op, es) c') (hour : Tracked c.ourState)
    (hpartner : Tracked c.partnerState) (hk : op.secrethash P ≠ some k) :
    pendingAt k c'.ourState = pendingAt k c.ourState ∧
      pendingAt k c'.partnerState = pendingAt k c.partnerState := by
  cases h.ends hour with
  | none _ our partner => simp only [pendingAt, our.pendingLocks, partner.pendingLocks, and_self]
  | some hop our partner =>
    have hne : k ≠ _ := fun heq => hk (heq ▸ hop)
    exact ⟨our.pendingAt_eq hour hne, partner.pendingAt_eq hpartner hne⟩

/-- Nothing is new at a secrethash. -/
structure LosesAt (k : SecretHash) (e e' : NettingChannelEndState) : Prop where
  locked : ∀ lock, e'.secrethashesToLockedlocks.get? k = some lock →
    e.secrethashesToLockedlocks.get? k = some lock
  unlocked : ∀ proof, e'.secrethashesToUnlockedlocks.get? k = some proof →
    e.secrethashesToUnlockedlocks.get? k = some proof
  onchain : ∀ proof, e'.secrethashesToOnchainUnlockedlocks.get? k = some proof →
    e.secrethashesToOnchainUnlockedlocks.get? k = some proof

section LosesAt

variable {k : SecretHash} {e e' : NettingChannelEndState}

theorem LosesAt.refl (k : SecretHash) (e : NettingChannelEndState) : LosesAt k e e :=
  ⟨fun _ h => h, fun _ h => h, fun _ h => h⟩

theorem LosesAt.trans {e'' : NettingChannelEndState} (h : LosesAt k e e') (h' : LosesAt k e' e'') :
    LosesAt k e e'' :=
  ⟨fun l hl => h.locked l (h'.locked l hl), fun u hu => h.unlocked u (h'.unlocked u hu),
    fun u hu => h.onchain u (h'.onchain u hu)⟩

theorem SameLocksAt.losesAt (h : SameLocksAt k e e') : LosesAt k e e' :=
  ⟨fun _ hl => h.locked ▸ hl, fun _ hu => h.unlocked ▸ hu, fun _ hu => h.onchain ▸ hu⟩

/-- The message of the partner that an unlock or an expiration is. -/
def ChannelOp.isRelease : ChannelOp → Bool
  | .receiveUnlock .. | .receiveLockExpired .. => true
  | _ => false

private theorem get?_del_subset {α : Type} {d : Lib.Dict SecretHash α} {h : SecretHash} {a : α}
    (hget : (d.del h).get? k = some a) : d.get? k = some a :=
  (Lib.Dict.get?_del_eq_some.mp hget).2

/-- A release can only remove locks of the partner. -/
theorem Step.losesAt_partner (h : Step P c (op, es) c') (hop : op.isRelease = true) (k : SecretHash) :
    LosesAt k c.partnerState c'.partnerState := by
  cases h.outcome with
  | refused => exact .refl k _
  | receivedExpired => exact ⟨fun _ => get?_del_subset, fun _ => get?_del_subset, fun _ h => h⟩
  | receivedUnlock => exact ⟨fun _ => get?_del_subset, fun _ => get?_del_subset, fun _ => get?_del_subset⟩
  | _ => cases hop

end LosesAt

/-- No lock under the secrethash can be unlocked off-chain. -/
structure NotOffchain (hash : SecretHash) (e : NettingChannelEndState) : Prop where
  locked : e.secrethashesToLockedlocks.get? hash = none
  unlocked : e.secrethashesToUnlockedlocks.get? hash = none

instance (hash : SecretHash) (e : NettingChannelEndState) : Decidable (NotOffchain hash e) :=
  decidable_of_iff (e.secrethashesToLockedlocks.get? hash = none ∧
    e.secrethashesToUnlockedlocks.get? hash = none) ⟨fun h => ⟨h.1, h.2⟩, fun h => ⟨h.locked, h.unlocked⟩⟩

def ExpiresAt (hash : SecretHash) (expiration : Nat) (e : NettingChannelEndState) : Prop :=
  ∀ lock, HasLock e hash lock → lock.expiration = expiration

section Registered

variable {hash : SecretHash} {exp : Nat} {e e' : NettingChannelEndState}

theorem ExpiresAt.sameLocksAt (h : ExpiresAt hash exp e) (hsame : SameLocksAt hash e e') :
    ExpiresAt hash exp e' := by
  intro lock hlock
  cases hlock with
  | locked hl => exact h lock (.locked (hsame.locked ▸ hl))
  | unlocked hl hu => exact h lock (.unlocked (hsame.unlocked ▸ hl) hu)
  | onchain hl hu => exact h lock (.onchain (hsame.onchain ▸ hl) hu)

theorem LosesAt.hasLock (h : LosesAt hash e e') (hl : HasLock e' hash lock) :
    HasLock e hash lock := by
  cases hl with
  | locked hl => exact .locked (h.locked _ hl)
  | unlocked hl hu => exact .unlocked (h.unlocked _ hl) hu
  | onchain hl hu => exact .onchain (h.onchain _ hl) hu

theorem LosesAt.isSecretKnownOffchain (h : LosesAt hash e e')
    (hknown : Channel.isSecretKnownOffchain e hash = false) :
    Channel.isSecretKnownOffchain e' hash = false := by
  refine decide_eq_false fun hmem => ?_
  obtain ⟨proof, hproof⟩ := Dict.mem_iff.mp hmem
  exact absurd (Dict.mem_of_get? (h.unlocked proof hproof)) (of_decide_eq_false hknown)

theorem ExpiresAt.loses (h : ExpiresAt hash exp e) (hloses : LosesAt hash e e') :
    ExpiresAt hash exp e' :=
  fun lock hl => h lock (hloses.hasLock hl)

theorem expiresAt_addLock {bp : BalanceProofState} (fresh : isLockPending e hash = false)
    (hx : lock.expiration = exp) : ExpiresAt hash exp (addLock e bp locks lock) := by
  intro l hl
  rcases hl.of_addLock with ⟨-, rfl⟩ | hold
  · exact hx
  · rw [hold.isLockPending] at fresh
    cases fresh

theorem NotOffchain.loses (h : NotOffchain hash e) (hloses : LosesAt hash e e') :
    NotOffchain hash e' := by
  constructor
  · by_contra hne
    obtain ⟨lock, hl⟩ := Option.ne_none_iff_exists'.mp hne
    cases h.locked.symm.trans (hloses.locked lock hl)
  · by_contra hne
    obtain ⟨proof, hu⟩ := Option.ne_none_iff_exists'.mp hne
    cases h.unlocked.symm.trans (hloses.unlocked proof hu)

theorem NotOffchain.sameLocksAt (h : NotOffchain hash e) (hsame : SameLocksAt hash e e') :
    NotOffchain hash e' :=
  ⟨hsame.locked.trans h.locked, hsame.unlocked.trans h.unlocked⟩

theorem NotOffchain.register (h : NotOffchain hash e) (secret : Secret) :
    registerSecretEndstate e secret hash = e := by
  unfold registerSecretEndstate
  rw [h.locked]

theorem NotOffchain.not_known (h : NotOffchain hash e) : isSecretKnownOffchain e hash = false :=
  decide_eq_false (Dict.not_mem_iff.mpr h.unlocked)

/-- A registration in time leaves nothing to be unlocked off-chain. -/
theorem notOffchain_of_registerOnchain
    (h : registerOnchainSecretEndstate e secret hash now = .ok e')
    (htime : ∀ lock, HasLock e hash lock → now ≤ lock.expiration) : NotOffchain hash e' := by
  unfold registerOnchainSecretEndstate at h
  split at h
  · next hnone =>
    cases h
    rw [Option.or_eq_none_iff, Option.map_eq_none_iff] at hnone
    exact ⟨hnone.2, hnone.1⟩
  · next found hfound =>
    have hlock : HasLock e hash found := by
      rw [Option.or_eq_some_iff, Option.map_eq_some_iff] at hfound
      rcases hfound with ⟨u, hu, rfl⟩ | ⟨-, hl⟩
      · exact .unlocked hu rfl
      · exact .locked hl
    have hle := htime found hlock
    rw [if_neg (Nat.not_lt.mpr hle)] at h
    simp only [delLock, seq_ok_iff, assert_eq_ok, exists_const, pure_eq_ok] at h
    obtain ⟨_, ⟨-, rfl⟩, rfl⟩ := h
    exact ⟨Dict.get?_del_self _ _, Dict.get?_del_self _ _⟩

theorem NotOffchain.registerOnchain (hn : NotOffchain hash e)
    (h : registerOnchainSecretEndstate e secret hash now = .ok e') : e' = e := by
  unfold registerOnchainSecretEndstate at h
  rw [hn.unlocked, hn.locked] at h
  cases h
  rfl

theorem registerSecretEndstate_idem (secret : Secret) (e : NettingChannelEndState) :
    registerSecretEndstate (registerSecretEndstate e secret hash) secret hash =
      registerSecretEndstate e secret hash := by
  cases hlocked : e.secrethashesToLockedlocks.get? hash with
  | none =>
    have hsame : registerSecretEndstate e secret hash = e := by
      unfold registerSecretEndstate
      rw [hlocked]
    rw [hsame, hsame]
  | some found =>
    have hgone : (registerSecretEndstate e secret hash).secrethashesToLockedlocks.get? hash =
        none := by
      unfold registerSecretEndstate
      rw [hlocked]
      exact Dict.get?_del_self _ _
    rw [registerSecretEndstate, hgone]

theorem registerOnchainSecretEndstate_idem
    (h : registerOnchainSecretEndstate e secret hash now = .ok e') :
    registerOnchainSecretEndstate e' secret hash now = .ok e' := by
  rcases registerOnchainSecretEndstate_cases h with rfl | ⟨found, -, -, rfl⟩
  · exact h
  · have hlocked : (dropLock e hash).secrethashesToLockedlocks.get? hash = none :=
      Dict.get?_del_self _ _
    have hunlocked : (dropLock e hash).secrethashesToUnlockedlocks.get? hash = none :=
      Dict.get?_del_self _ _
    rw [registerOnchainSecretEndstate, hlocked, hunlocked]
    rfl

theorem registerOffchainSecret_idem (secret : Secret) (c : NettingChannelState) :
    registerOffchainSecret (registerOffchainSecret c secret hash) secret hash =
      registerOffchainSecret c secret hash := by
  simp only [registerOffchainSecret, registerSecretEndstate_idem]

theorem registerOnchainSecret_ok {c c' : NettingChannelState} :
    registerOnchainSecret c secret hash now = .ok c' ↔
      ∃ our partner, registerOnchainSecretEndstate c.ourState secret hash now = .ok our ∧
        registerOnchainSecretEndstate c.partnerState secret hash now = .ok partner ∧
        c' = { c with ourState := our, partnerState := partner } := by
  simp only [registerOnchainSecret, seq_ok_iff, pure_eq_ok]
  constructor
  · rintro ⟨our, hour, partner, hpartner, rfl⟩
    exact ⟨our, partner, hour, hpartner, rfl⟩
  · rintro ⟨our, partner, hour, hpartner, rfl⟩
    exact ⟨our, hour, partner, hpartner, rfl⟩

theorem registerOnchainSecret_idem {c c' : NettingChannelState}
    (h : registerOnchainSecret c secret hash now = .ok c') :
    registerOnchainSecret c' secret hash now = .ok c' := by
  obtain ⟨our, partner, hour, hpartner, rfl⟩ := registerOnchainSecret_ok.mp h
  exact registerOnchainSecret_ok.mpr ⟨our, partner, registerOnchainSecretEndstate_idem hour,
    registerOnchainSecretEndstate_idem hpartner, rfl⟩

end Registered

/-! ## The operations of the payment tasks -/

theorem Step.of_run_pure {op : ChannelOp} {es : List Event}
    (h : op.run P c = pure ⟨some c', es⟩) : Step P c (op, es) c' :=
  ⟨Stream'.const 0, Stream'.const 0, by rw [h]; rfl⟩

theorem Step.sendLockedtransfer {a : LockedTransferArguments} {msg : SendLockedTransfer}
    (h : sendLockedtransfer P c a = .ok (c', msg)) :
    Step P c (.sendLockedtransfer a, [.sendLockedTransfer msg]) c' :=
  .of_run_pure (by simp only [ChannelOp.run, h]; rfl)

theorem Step.sendUnlock {msgId : MessageID} {pid : PaymentID} {unlock : SendUnlock}
    (h : sendUnlock P c msgId pid secret hash now md = .ok (c', unlock)) :
    Step P c (.sendUnlock msgId pid secret hash now md, [.sendUnlock unlock]) c' :=
  .of_run_pure (by simp only [ChannelOp.run, h]; rfl)

theorem Step.sendLockExpired (hlock : getUnclaimedLock c.ourState hash = some lock)
    (hexpired : (isLockExpired c.ourState lock now (getSenderExpirationThreshold
      lock.expiration)).isOk = true) :
    Ensures (sendLockExpired P c lock md) fun r =>
      Step P c (.sendLockExpired hash now md, r.2) r.1 := by
  intro prng r prng' hrun
  refine ⟨prng, prng', ?_⟩
  simp only [ChannelOp.run, expireOwnLock, hlock, hexpired, if_true]
  exact run_bind_eq_ok.mpr ⟨r, prng', hrun, run_pure_eq_ok.mpr ⟨rfl, rfl⟩⟩

theorem Step.registerOffchainSecret (c : NettingChannelState) (secret : Secret) (hash : SecretHash) :
    Step P c (.registerOffchainSecret secret hash, [])
      (Channel.registerOffchainSecret c secret hash) :=
  .of_run_pure rfl

theorem Step.registerOnchainSecret (h : Channel.registerOnchainSecret c secret hash now = .ok c') :
    Step P c (.registerOnchainSecret secret hash now, []) c' :=
  .of_run_pure (by simp only [ChannelOp.run, h]; rfl)

theorem Step.receiveLockedtransfer (c : NettingChannelState) (tr : LockedTransferSignedState)
    (md : Option AddressMetadata) :
    Step P c (.receiveLockedtransfer tr md, (handleReceiveLockedtransfer P c tr md).2.events)
      (handleReceiveLockedtransfer P c tr md).1 :=
  .of_run_pure rfl

theorem Step.receiveLockExpired (c : NettingChannelState) (sc : ReceiveLockExpired)
    (now : Nat) (md : Option AddressMetadata) :
    Step P c (.receiveLockExpired sc now md, (handleReceiveLockExpired P c sc now md).events)
      (handleReceiveLockExpired P c sc now md).newState :=
  .of_run_pure rfl

theorem Step.receiveUnlock {unlock : ReceiveUnlock} {result : EventsOrError}
    (h : handleUnlock P c unlock md = .ok (c', result)) :
    Step P c (.receiveUnlock unlock md, result.events) c' :=
  .of_run_pure (by simp only [ChannelOp.run, h]; rfl)

def withTransfer (c : NettingChannelState) (transfer : LockedTransferSignedState)
    (locks : List EncodedData) : NettingChannelState :=
  { c with partnerState := addLock c.partnerState (.signed transfer.balanceProof) locks transfer.lock }

/-- Accepting a transfer is the operation `handle_receive_lockedtransfer`. -/
theorem LockedtransferAccepted.step {tr : LockedTransferSignedState}
    (h : LockedtransferAccepted P c c.partnerState c.ourState tr.balanceProof tr.lock locks) :
    ∃ es, Step P c (.receiveLockedtransfer tr none, es) (withTransfer c tr locks) := by
  have hvalid : isValidLockedtransfer P tr c c.partnerState c.ourState = .ok locks :=
    (validLockedtransferCheck_ok P).mpr h
  have hstep := Step.receiveLockedtransfer (P := P) c tr none
  rw [handleReceiveLockedtransfer, hvalid] at hstep
  exact ⟨_, hstep⟩

/-- The operations that change our end only. -/
def ChannelOp.isSend : ChannelOp → Bool
  | .sendLockedtransfer _ | .sendUnlock .. | .sendLockExpired .. => true
  | _ => false

theorem Step.partner_eq (h : Step P c (op, es) c') (hop : op.isSend = true) :
    c'.partnerState = c.partnerState := by
  cases h.outcome with
  | refused notice | sentTransfer | sentUnlock | unexpired | sentExpired => rfl
  | _ => cases hop

theorem Step.onchain_eq (h : Step P c (op, es) c')
    (hop : (∃ arguments, op = .sendLockedtransfer arguments) ∨ ∃ hash now md, op =
      .sendLockExpired hash now md) :
    isSecretKnownOnchain c'.ourState k = isSecretKnownOnchain c.ourState k := by
  rcases hop with ⟨arguments, rfl⟩ | ⟨hash, now, md, rfl⟩
  · cases h.outcome with
    | refused | sentTransfer => rfl
  · cases h.outcome with
    | refused | unexpired | sentExpired => rfl

end Raiden.Channel
