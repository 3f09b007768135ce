import Raiden.Channel.Ledger
import Raiden.Channel.Solvency

/-! # Agreement of the two nodes of a channel

Two honest nodes send transfers, unlocks and expirations to each other over
queues that keep the order, register secrets, see deposits and close at any
time. What a node records about its partner follows, message by message, what
the partner recorded about itself when it sent them, so transfers and unlocks
are accepted although each node computes with an older view of the other. -/
namespace Raiden.Channel

open Lib

variable {messageHash : AdditionalHash} {now : Nat} {md : Option AddressMetadata} {secret : Secret}
  {entry : Entry} {lock : HashTimeLockState} {sent : Ledger} {deposit : Nat}
  {e : NettingChannelEndState}

/-- A signature scheme: recovering the signer of what an address signed. -/
structure Signing (P : Primitives) where
  sign : Address → SignedData → Signature
  recover_sign : ∀ address data, P.recover data (sign address data) = some address

inductive Message where
  | lockedTransfer (transfer : LockedTransferSignedState)
  | unlock (change : ReceiveUnlock)
  | lockExpired (change : ReceiveLockExpired)

def Message.balanceProof : Message → BalanceProofSignedState
  | .lockedTransfer transfer => transfer.balanceProof
  | .unlock change => change.balanceProof
  | .lockExpired change => change.balanceProof

section Sign

variable {P : Primitives} (S : Signing P) (address : Address) (messageHash : AdditionalHash)

def Signing.signBalanceProof (balanceProof : BalanceProofUnsignedState) : BalanceProofSignedState :=
  { balanceProof with
    messageHash
    signature := S.sign address (.balanceProof balanceProof.nonce balanceProof.transferredAmount
      balanceProof.lockedAmount balanceProof.locksroot messageHash balanceProof.canonicalIdentifier)
    sender := address }

/-- The state changes into which the receiver decodes the signed messages. -/
def Signing.lockedTransfer (event : SendLockedTransfer) : Message :=
  .lockedTransfer {
    paymentIdentifier := event.transfer.paymentIdentifier
    token := event.transfer.token
    lock := event.transfer.lock
    initiator := event.transfer.initiator
    target := event.transfer.target
    messageIdentifier := event.messageIdentifier
    routeStates := event.transfer.routeStates
    balanceProof := S.signBalanceProof address messageHash event.transfer.balanceProof
    metadata := event.transfer.metadata }

def Signing.unlock (event : SendUnlock) : Message :=
  .unlock {
    sender := address
    balanceProof := S.signBalanceProof address messageHash event.balanceProof
    messageIdentifier := event.messageIdentifier
    secret := event.secret }

def Signing.lockExpired (event : SendLockExpired) : Message :=
  .lockExpired {
    sender := address
    balanceProof := S.signBalanceProof address messageHash event.balanceProof
    secrethash := event.secrethash
    messageIdentifier := event.messageIdentifier }

end Sign

/-- A message under way, with the ledger its sender had of itself right after
sending it and the deposit it counted on. -/
structure Envelope where
  message : Message
  sent : Ledger
  deposit : Nat

/-- The two copies of the channel and the messages under way. -/
structure Network where
  x : NettingChannelState
  y : NettingChannelState
  fromX : List Envelope
  fromY : List Envelope

def Network.swap (n : Network) : Network := ⟨n.y, n.x, n.fromY, n.fromX⟩

def Message.deliver (P : Primitives) (c : NettingChannelState) (now : Nat)
    (md : Option AddressMetadata) : Message → Fallible (NettingChannelState × Bool)
  | .lockedTransfer transfer =>
    let (c, result) := handleReceiveLockedtransfer P c transfer md
    .ok (c, result.isValid)
  | .unlock change => do
    let (c, result) ← handleUnlock P c change md
    return (c, result.isValid)
  | .lockExpired change =>
    let result := handleReceiveLockExpired P c change now md
    .ok (result.newState, result.events.all fun e => e.isInvalidReceived = false)

inductive Action where
  | transfer (arguments : LockedTransferArguments)
  | unlock (secret : Secret) (hash : SecretHash)
  | expire (hash : SecretHash)
  | internal (op : ChannelOp)
  | receive (now : Nat)

/-- Operations without a message: secrets, deposits and the closing of the channel. -/
def ChannelOp.isInternal : ChannelOp → Bool
  | .registerOffchainSecret .. | .registerOnchainSecret .. => true
  | .stateChange (.contractReceiveChannelDeposit _) .. => true
  | .stateChange (.actionChannelClose _) .. => true
  | .stateChange (.contractReceiveChannelClosed _) .. => true
  | _ => false

/-- Node `x` acts. A transfer is sent on a channel that is usable for it and for
a secrethash that is not pending; an unlock carries the secret of its hash; an
expiration is sent for a lock that expired. A refused message stays queued. -/
inductive Acts (P : Primitives) (S : Signing P) (n : Network) : Action → Network → Prop
  | transfer {arguments : LockedTransferArguments} {lockTimeout : Option Int}
      (messageHash : AdditionalHash) {c' : NettingChannelState} {event : SendLockedTransfer}
      (usable : isChannelUsableForNewTransfer P n.x arguments.amount lockTimeout = .usable)
      (fresh : isLockPending n.x.ourState arguments.secrethash = false)
      (h : sendLockedtransfer P n.x arguments = .ok (c', event)) :
      Acts P S n (.transfer arguments) { n with
        x := c'
        fromX := n.fromX ++ [⟨S.lockedTransfer n.x.ourState.address messageHash event,
          ledgerOf P c'.ourState, n.x.ourState.contractBalance⟩] }
  | unlock {msgId : MessageID} {paymentIdentifier : PaymentID} {secret : Secret}
      {hash : SecretHash} {now : Nat} {md : Option AddressMetadata}
      (messageHash : AdditionalHash) {c' : NettingChannelState} {event : SendUnlock}
      (hsecret : P.sha256Secrethash secret = hash)
      (h : sendUnlock P n.x msgId paymentIdentifier secret hash now
        md = .ok (c', event)) :
      Acts P S n (.unlock secret hash) { n with
        x := c'
        fromX := n.fromX ++ [⟨S.unlock n.x.ourState.address messageHash event,
          ledgerOf P c'.ourState, n.x.ourState.contractBalance⟩] }
  | expire {hash : SecretHash} {now : Nat} {md : Option AddressMetadata}
      (messageHash : AdditionalHash) {prng prng' : Prng} {c' : NettingChannelState}
      {event : SendLockExpired}
      (h : (expireOwnLock P n.x hash now md).run prng =
        .ok ((c', [.sendLockExpired event]), prng')) :
      Acts P S n (.expire hash) { n with
        x := c'
        fromX := n.fromX ++ [⟨S.lockExpired n.x.ourState.address messageHash event,
          ledgerOf P c'.ourState, n.x.ourState.contractBalance⟩] }
  | internal {op : ChannelOp} {es : List Event} {c' : NettingChannelState}
      (hop : op.isInternal = true) (h : Step P n.x (op, es) c') :
      Acts P S n (.internal op) { n with x := c' }
  | accept {m : Envelope} {rest : List Envelope} {now : Nat}
      {md : Option AddressMetadata} {c' : NettingChannelState} (hqueue : n.fromY = m :: rest)
      (h : m.message.deliver P n.x now md = .ok (c', true)) :
      Acts P S n (.receive now) { n with x := c', fromY := rest }
  | refuse {m : Envelope} {rest : List Envelope} {now : Nat}
      {md : Option AddressMetadata} {c' : NettingChannelState} (hqueue : n.fromY = m :: rest)
      (h : m.message.deliver P n.x now md = .ok (c', false)) :
      Acts P S n (.receive now) { n with x := c' }

/-- One of the two nodes acts. -/
inductive NetStep (P : Primitives) (S : Signing P) (n : Network) : Bool × Action → Network → Prop
  | x {act : Action} {n' : Network} (h : Acts P S n act n') : NetStep P S n (true, act) n'
  | y {act : Action} {n' : Network} (h : Acts P S n.swap act n'.swap) :
      NetStep P S n (false, act) n'

/-- Both nodes just opened the same channel. -/
structure JustOpened (c c' : NettingChannelState) : Prop where
  x : Fresh c
  y : Fresh c'
  identifier : c.canonicalIdentifier = c'.canonicalIdentifier
  xAddress : c'.partnerState.address = c.ourState.address
  yAddress : c.partnerState.address = c'.ourState.address

structure Network.Initial (n : Network) : Prop extends JustOpened n.x n.y where
  fromX : n.fromX = []
  fromY : n.fromY = []

/-- What holds for the first message under way from `x` to `y`: once accepted,
`y` has the ledger that `x` had after sending it, and a transfer or an unlock is
accepted while the channel is open and `y` knows of the deposit. -/
def InOrder (P : Primitives) (n : Network) : Prop :=
  ∀ m rest, n.fromX = m :: rest → ∀ now md,
    (∀ c', m.message.deliver P n.y now md = .ok (c', true) →
      ledgerOf P c'.partnerState = m.sent) ∧
    ((∀ change, m.message ≠ .lockExpired change) → getStatus n.y = .opened →
      m.deposit ≤ n.y.partnerState.contractBalance →
      ∃ c', m.message.deliver P n.y now md = .ok (c', true))

/-! ## The messages under way -/

/-- The balance proof of a message commits to the ledger `l`. -/
structure Commits (P : Primitives) (sender : Address) (identifier : CanonicalIdentifier) (l : Ledger)
    (bp : BalanceProofSignedState) : Prop where
  nonce : bp.nonce = l.nonce
  transferred : bp.transferredAmount = l.transferred
  locked : bp.lockedAmount = l.locked
  locksroot : bp.locksroot = l.locksroot
  identifier_eq : bp.canonicalIdentifier = identifier
  signature : isValidBalanceproofSignature P bp sender = .ok ()

/-- The message carries the entry. A transfer is covered by the deposit its
sender counted on and by `credit`, what the receiver has transferred. -/
inductive Carries (P : Primitives) (credit : Nat) (p : Ledger) (deposit : Nat) : Message → Entry → Prop
  | transfer {t : LockedTransferSignedState} (length_lt : p.pending.length < maximumPendingTransfers)
      (covered : t.lock.amount + p.locked + p.transferred ≤ deposit + credit) :
      Carries P credit p deposit (.lockedTransfer t) (.add t.lock)
  | unlock {change : ReceiveUnlock} {lock : HashTimeLockState}
      (hsecret : change.secrethash P = lock.secrethash) :
      Carries P credit p deposit (.unlock change) (.unlock lock)
  | expire {change : ReceiveLockExpired} {lock : HashTimeLockState}
      (hsecret : change.secrethash = lock.secrethash) :
      Carries P credit p deposit (.lockExpired change) (.expire lock)

/-- The message takes its sender from the ledger `p` to the ledger `q`. -/
structure Issued (P : Primitives) (sender : Address) (identifier : CanonicalIdentifier) (p q : Ledger)
    (message : Message) (entry : Entry) : Prop where
  admits : p.Admits entry
  commits : Commits P sender identifier q message.balanceProof
  safe : q.transferred + q.locked ≤ uint256Max

/-- The message was sent by a node whose ledger of itself was `p`. -/
structure SentFrom (P : Primitives) (credit : Nat) (sender : Address) (identifier : CanonicalIdentifier)
    (p : Ledger) (m : Envelope) (entry : Entry) : Prop where
  sent_eq : m.sent = p.record P entry
  admits : p.Admits entry
  carries : Carries P credit p m.deposit m.message entry
  commits : Commits P sender identifier m.sent m.message.balanceProof
  safe : m.sent.transferred + m.sent.locked ≤ uint256Max

section Chain

variable (P : Primitives) (credit : Nat) (sender : Address) (identifier : CanonicalIdentifier)

/-- Each message under way was sent from the ledger the one before it left. -/
inductive Chained : Ledger → List Envelope → Ledger → Prop
  | nil (p : Ledger) : Chained p [] p
  | cons {p q : Ledger} {m : Envelope} {entry : Entry} {rest : List Envelope}
      (head : SentFrom P credit sender identifier p m entry) (tail : Chained m.sent rest q) :
      Chained p (m :: rest) q

variable {P credit sender identifier} {p q : Ledger} {queue : List Envelope} {m : Envelope} {entry : Entry}

theorem Chained.append (h : Chained P credit sender identifier p queue q)
    (hm : SentFrom P credit sender identifier q m entry) :
    Chained P credit sender identifier p (queue ++ [m]) m.sent := by
  induction h with
  | nil p => exact .cons hm (.nil _)
  | cons head _ ih => exact .cons head (ih hm)

theorem Carries.mono {credit' : Nat} {msg : Message} (hle : credit ≤ credit')
    (h : Carries P credit p deposit msg entry) : Carries P credit' p deposit msg entry := by
  cases h with
  | transfer length_lt covered => exact .transfer length_lt (by omega)
  | unlock hsecret => exact .unlock hsecret
  | expire hsecret => exact .expire hsecret

theorem SentFrom.mono {credit' : Nat} (hle : credit ≤ credit')
    (h : SentFrom P credit sender identifier p m entry) :
    SentFrom P credit' sender identifier p m entry :=
  ⟨h.sent_eq, h.admits, h.carries.mono hle, h.commits, h.safe⟩

theorem Chained.mono {credit' : Nat} (hle : credit ≤ credit')
    (h : Chained P credit sender identifier p queue q) :
    Chained P credit' sender identifier p queue q := by
  induction h with
  | nil p => exact .nil p
  | cons head _ ih => exact .cons (head.mono hle) ih

theorem Chained.transferred_le (h : Chained P credit sender identifier p queue q) :
    p.transferred ≤ q.transferred := by
  induction h with
  | nil p => exact Nat.le_refl _
  | cons head _ ih =>
    rw [head.sent_eq] at ih
    exact Nat.le_trans (Ledger.transferred_le_record P _ _) ih

end Chain

section Receive

variable {P : Primitives} {c c' : NettingChannelState} {identifier : CanonicalIdentifier}
  {sender : Address} {credit deposit : Nat} {msg : Message} {entry : Entry} {now : Nat}
  {md : Option AddressMetadata}

theorem deliver_lockedTransfer {t : LockedTransferSignedState} {b : Bool}
    (h : (Message.lockedTransfer t).deliver P c now md = .ok (c', b)) :
    (b = false ∧ c' = c) ∨ b = true ∧ ∃ locks,
      LockedtransferAccepted P c c.partnerState c.ourState t.balanceProof t.lock locks ∧
      c' = { c with partnerState := addLock c.partnerState (.signed t.balanceProof) locks t.lock } := by
  rcases handleReceiveLockedtransfer_cases P (c := c) t md with ⟨msg, heq⟩ | ⟨locks, ha, heq⟩ <;>
    simp only [Message.deliver, heq] at h <;> cases h
  · exact .inl ⟨rfl, rfl⟩
  · exact .inr ⟨rfl, locks, ha, rfl⟩

theorem deliver_unlock {sc : ReceiveUnlock} {b : Bool}
    (h : (Message.unlock sc).deliver P c now md = .ok (c', b)) :
    (b = false ∧ c' = c) ∨ b = true ∧ ∃ lock locks, UnlockAccepted P sc c c.partnerState lock locks ∧
      c' = { c with
        partnerState := dropLock (setBalanceProof c.partnerState (.signed sc.balanceProof) locks)
          (sc.secrethash P) } := by
  rcases handleUnlock_cases P (c := c) sc md with ⟨msg, heq⟩ | ⟨lock, locks, ha, heq⟩ <;>
    simp only [Message.deliver, heq] at h <;> cases h
  · exact .inl ⟨rfl, rfl⟩
  · exact .inr ⟨rfl, lock, locks, ha, rfl⟩

theorem deliver_lockExpired {b : Bool} {sc : ReceiveLockExpired}
    (h : (Message.lockExpired sc).deliver P c now md = .ok (c', b)) :
    (b = false ∧ c' = c) ∨ b = true ∧ ∃ lock locks,
      LockExpiredAccepted P sc c c.partnerState c.ourState now lock locks ∧
      c' = { c with
        partnerState := delUnclaimedLock
          (setBalanceProof c.partnerState (.signed sc.balanceProof) locks) sc.secrethash } := by
  rcases handleReceiveLockExpired_cases P (c := c) sc now md with
    ⟨msg, heq⟩ | ⟨lock, locks, ha, heq⟩ <;> simp only [Message.deliver, heq] at h <;> cases h
  · exact .inl ⟨rfl, rfl⟩
  · exact .inr ⟨rfl, lock, locks, ha, rfl⟩

theorem deliver_refused (h : msg.deliver P c now md = .ok (c', false)) : c' = c := by
  have hrefused : ∀ {Q : Prop}, (false = false ∧ c' = c) ∨ false = true ∧ Q → c' = c :=
    fun h => h.elim And.right fun h => absurd h.1 nofun
  cases msg with
  | lockedTransfer t => exact hrefused (deliver_lockedTransfer h)
  | unlock sc => exact hrefused (deliver_unlock h)
  | lockExpired sc => exact hrefused (deliver_lockExpired h)

theorem Ledger.Admits.not_pending (h : (ledgerOf P e).Admits (.add lock)) (ht : Tracked e) :
    isLockPending e lock.secrethash = false := by
  rw [Bool.eq_false_iff]
  intro hpending
  obtain ⟨other, hother⟩ := exists_hasLock_of_isLockPending hpending
  exact h other (ht.pending hother) (ht.keyed hother)

theorem deliver_recorded (hc : ChannelLocks P c) (hadmits : (ledgerOf P c.partnerState).Admits entry)
    {p : Ledger} (hcarries : Carries P credit p deposit msg entry)
    (h : msg.deliver P c now md = .ok (c', true)) :
    Recorded P c.partnerState c'.partnerState entry ∧
      c' = { c with partnerState := c'.partnerState } := by
  cases hcarries with
  | transfer =>
    rcases deliver_lockedTransfer h with ⟨hb, -⟩ | ⟨-, locks, ha, rfl⟩
    · cases hb
    · exact ⟨ha.added.recorded hc.partner hc.partnerTracked (hadmits.not_pending hc.partnerTracked), rfl⟩
  | @unlock sc lock hsecret =>
    rcases deliver_unlock h with ⟨hb, -⟩ | ⟨-, lock', locks, ha, rfl⟩
    · cases hb
    · -- the lock found under the hash of the secret is the one the sender removed
      have hlock := hc.partner.hasLock hc.partnerTracked hadmits.1
      rw [← hsecret] at hlock
      obtain rfl := hlock.unique hc.partner.disjoint (.of_getLock ha.lock_eq)
      exact ⟨ha.unlocked.recorded hc.partner hc.partnerTracked, rfl⟩
  | @expire sc lock hsecret =>
    rcases deliver_lockExpired h with ⟨hb, -⟩ | ⟨-, lock', locks, ha, rfl⟩
    · cases hb
    · have hlock := hc.partner.hasLock hc.partnerTracked hadmits.1
      rw [← hsecret] at hlock
      obtain rfl := hlock.unique hc.partner.disjoint (.of_getUnclaimedLock ha.lock_eq)
      exact ⟨ha.expired'.recorded hc.partner hc.partnerTracked, rfl⟩

theorem Commits.usable {l : Ledger} {bp : BalanceProofSignedState}
    (h : Commits P sender identifier l bp) (hopen : getStatus c = .opened)
    (hidentifier : c.canonicalIdentifier = identifier) (haddress : c.partnerState.address = sender)
    (hnonce : l.nonce = c.partnerState.nonce + 1) (hsafe : l.transferred + l.locked ≤ uint256Max) :
    BalanceProofUsable P bp c c.partnerState := by
  refine ⟨hopen, h.identifier_eq.trans hidentifier.symm, ?_, h.nonce.trans hnonce, ?_⟩
  · rw [h.transferred, h.locked]
    exact hsafe
  · rw [haddress]
    exact h.signature

theorem deliver_accepts_transfer {t : LockedTransferSignedState} (hc : ChannelLocks P c)
    (hwithdraw : c.partnerState.totalWithdraw = 0)
    (hsent : sent = (ledgerOf P c.partnerState).record P (.add t.lock))
    (hadmits : (ledgerOf P c.partnerState).Admits (.add t.lock))
    (hlength : c.partnerState.pendingLocks.length < maximumPendingTransfers)
    (hcovered : t.lock.amount + (ledgerOf P c.partnerState).locked + (ledgerOf P
      c.partnerState).transferred ≤ deposit + c.ourState.transferredAmount)
    (hcommits : Commits P sender identifier sent t.balanceProof)
    (husable : BalanceProofUsable P t.balanceProof c c.partnerState)
    (hsafe : sent.transferred + sent.locked ≤ uint256Max)
    (hdeposit : deposit ≤ c.partnerState.contractBalance) :
    ∃ c', (Message.lockedTransfer t).deliver P c now md = .ok (c', true) := by
  obtain ⟨htransferred, hlocked, hamount⟩ := hc.partner.views
  have hnew : t.lock.encoded ∉ c.partnerState.pendingLocks := fun hmem => hadmits t.lock hmem rfl
  have hlocks : computeLocksWith c.partnerState.pendingLocks t.lock =
      some (c.partnerState.pendingLocks ++ [t.lock.encoded]) := if_pos hnew
  have hsentTransferred : sent.transferred = (ledgerOf P c.partnerState).transferred := by rw [hsent]; rfl
  have hsentLocked : sent.locked = (ledgerOf P c.partnerState).locked + t.lock.amount := by rw [hsent]; rfl
  have hcapacity : (t.lock.amount : Int) ≤ getDistributable P c.partnerState c.ourState := by
    refine Int.le_min.mpr ⟨?_, ?_⟩
    · omega
    · rw [getBalance_eq_max_sub, getMaxWithdrawAmount_eq, hwithdraw, hamount]
      have : c.partnerState.transferredAmount = (ledgerOf P c.partnerState).transferred := rfl
      omega
  have haccepted : LockedtransferAccepted P c c.partnerState c.ourState t.balanceProof t.lock
      (c.partnerState.pendingLocks ++ [t.lock.encoded]) := by
    refine ⟨husable, hlocks, ?_, ?_, ?_, ?_, hcapacity⟩
    · rw [List.length_append]
      exact hlength
    · rw [hcommits.locksroot, hsent]
      rfl
    · rw [hcommits.transferred, htransferred, hsentTransferred]
    · rw [hcommits.locked, hlocked, hsentLocked]
  have hvalid : isValidLockedtransfer P t c c.partnerState c.ourState = .ok _ :=
    (validLockedtransferCheck_ok P).mpr haccepted
  simp only [Message.deliver, handleReceiveLockedtransfer, hvalid]
  exact ⟨_, rfl⟩

theorem deliver_accepts_unlock {sc : ReceiveUnlock} (hc : ChannelLocks P c)
    (hsent : sent = (ledgerOf P c.partnerState).record P (.unlock lock))
    (hadmits : (ledgerOf P c.partnerState).Admits (.unlock lock))
    (hsecret : sc.secrethash P = lock.secrethash)
    (hcommits : Commits P sender identifier sent sc.balanceProof)
    (husable : BalanceProofUsable P sc.balanceProof c c.partnerState) :
    ∃ c', (Message.unlock sc).deliver P c now md = .ok (c', true) := by
  obtain ⟨htransferred, hlocked, -⟩ := hc.partner.views
  obtain ⟨hmem, hle⟩ := hadmits
  have hlock := (hc.partner.hasLock hc.partnerTracked hmem).getLock_eq hc.partner.disjoint
  have haccepted : UnlockAccepted P sc c c.partnerState lock
      (c.partnerState.pendingLocks.erase lock.encoded) := by
    refine ⟨hsecret ▸ hlock, if_pos hmem, husable, ?_, ?_, ?_⟩
    · rw [hcommits.locksroot, hsent]
      rfl
    · rw [hcommits.transferred, htransferred, hsent]
      rfl
    · have hsentLocked : sent.locked = (ledgerOf P c.partnerState).locked - lock.amount := by
        rw [hsent]
        rfl
      rw [hcommits.locked, hlocked]
      omega
  simp only [Message.deliver, handleUnlock_of_accepted P haccepted md]
  exact ⟨_, rfl⟩

end Receive

/-! ## Operations without a message -/

section Internal

variable {P : Primitives} {e e' : NettingChannelEndState} {c c' : NettingChannelState}

/-- Nothing that the ledger or the balances depend on changed, deposits aside. -/
structure EndKept (e e' : NettingChannelEndState) : Prop where
  nonce : e'.nonce = e.nonce
  balanceProof : e'.balanceProof = e.balanceProof
  pendingLocks : e'.pendingLocks = e.pendingLocks
  address : e'.address = e.address
  withdraw : e'.totalWithdraw = e.totalWithdraw

theorem EndKept.refl (e : NettingChannelEndState) : EndKept e e := ⟨rfl, rfl, rfl, rfl, rfl⟩

theorem EndKept.ledgerOf_eq (h : EndKept e e') : ledgerOf P e' = ledgerOf P e := by
  simp only [ledgerOf, NettingChannelEndState.transferredAmount, provenLockedAmount, provenLocksroot,
    h.nonce, h.balanceProof, h.pendingLocks]

theorem EndKept.transferredAmount_eq (h : EndKept e e') : e'.transferredAmount = e.transferredAmount := by
  simp only [NettingChannelEndState.transferredAmount, h.balanceProof]

structure ChannelKept (c c' : NettingChannelState) : Prop where
  our : EndKept c.ourState c'.ourState
  partner : EndKept c.partnerState c'.partnerState
  identifier : c'.canonicalIdentifier = c.canonicalIdentifier

theorem registerSecretEndstate_kept (secret : Secret) (k : SecretHash) :
    EndKept e (registerSecretEndstate e secret k) := by
  unfold registerSecretEndstate
  split <;> exact ⟨rfl, rfl, rfl, rfl, rfl⟩

theorem registerOnchainSecretEndstate_kept {k : SecretHash}
    (h : registerOnchainSecretEndstate e secret k now = .ok e') : EndKept e e' := by
  rcases registerOnchainSecretEndstate_cases h with rfl | ⟨_, _, _, rfl⟩
  · exact .refl _
  · exact ⟨rfl, rfl, rfl, rfl, rfl⟩

theorem updateContractBalance_kept (balance : Nat) : EndKept e (updateContractBalance e balance) := by
  unfold updateContractBalance
  split <;> exact ⟨rfl, rfl, rfl, rfl, rfl⟩

theorem addDeposit_kept (c : NettingChannelState) (part : Address) (balance : Nat) :
    ChannelKept c (addDeposit c part balance) := by
  unfold addDeposit
  split_ifs
  · exact ⟨updateContractBalance_kept _, .refl _, rfl⟩
  · exact ⟨.refl _, updateContractBalance_kept _, rfl⟩
  · exact ⟨.refl _, .refl _, rfl⟩

theorem Step.internal {es : List Event} {op : ChannelOp} (h : Step P c (op, es) c')
    (hop : op.isInternal = true) :
    ChannelKept c c' := by
  cases h.outcome with
  | handled handled =>
    cases handled with
    | ignored | closing | closed | closedByPartner => exact ⟨.refl _, .refl _, rfl⟩
    | refused notice => cases notice <;> cases hop
    | deposited =>
      have hd := addDeposit_kept c
      exact ⟨(hd _ _).our, (hd _ _).partner, (hd _ _).identifier⟩
    | _ => cases hop
  | refused notice => cases notice <;> cases hop
  | registered => exact ⟨registerSecretEndstate_kept _ _, registerSecretEndstate_kept _ _, rfl⟩
  | registeredOnchain our partner =>
    exact ⟨registerOnchainSecretEndstate_kept our, registerOnchainSecretEndstate_kept partner, rfl⟩
  | _ => cases hop

theorem ChannelOp.noReuse_of_internal {op : ChannelOp} (hop : op.isInternal = true) : NoReuse P c op := by
  cases op <;> first | cases hop; done | exact ⟨nofun, nofun⟩

end Internal

section Invariant

variable {P : Primitives} {n : Network}

/-- One direction: what `y` knows of `x`, followed by the messages under way, is
what `x` knows of itself. -/
structure Half (P : Primitives) (n : Network) : Prop where
  chain : Chained P n.y.ourState.transferredAmount n.x.ourState.address n.x.canonicalIdentifier
    (ledgerOf P n.y.partnerState) n.fromX (ledgerOf P n.x.ourState)
  safe : (ledgerOf P n.x.ourState).transferred + (ledgerOf P n.x.ourState).locked ≤ uint256Max
  address : n.y.partnerState.address = n.x.ourState.address

structure NoWithdraws (c : NettingChannelState) : Prop where
  our : c.ourState.totalWithdraw = 0
  partner : c.partnerState.totalWithdraw = 0

structure Agree (P : Primitives) (n : Network) : Prop where
  half : Half P n
  back : Half P n.swap
  xLocks : ChannelLocks P n.x
  yLocks : ChannelLocks P n.y
  identifier : n.x.canonicalIdentifier = n.y.canonicalIdentifier
  xWithdraws : NoWithdraws n.x
  yWithdraws : NoWithdraws n.y

theorem Agree.swap (h : Agree P n) : Agree P n.swap :=
  ⟨h.back, h.half, h.yLocks, h.xLocks, h.identifier.symm, h.yWithdraws, h.xWithdraws⟩

theorem Network.Initial.agree (h : n.Initial) : Agree P n := by
  have hledger : ∀ {e o : NettingChannelEndState}, FreshEnd e → FreshEnd o →
      ledgerOf P e = ledgerOf P o ∧ (ledgerOf P e).transferred + (ledgerOf P e).locked ≤ uint256Max := by
    intro e o he ho
    simp only [ledgerOf, NettingChannelEndState.transferredAmount, provenLockedAmount, provenLocksroot,
      he.nonce, he.balanceProof, he.pendingLocks, ho.nonce, ho.balanceProof, ho.pendingLocks]
    exact ⟨trivial, Nat.zero_le _⟩
  have hwithdraw : ∀ {e : NettingChannelEndState}, FreshEnd e → e.totalWithdraw = 0 := by
    intro e he
    simp only [NettingChannelEndState.totalWithdraw, NettingChannelEndState.offchainTotalWithdraw,
      he.withdrawsPending, he.onchainWithdraw]
    rfl
  have hlocks : ∀ {c : NettingChannelState}, Fresh c → ChannelLocks P c := fun hc =>
    ⟨hc.our.tracked, hc.partner.tracked, hc.our.locksConsistent, hc.partner.locksConsistent⟩
  refine ⟨⟨?_, (hledger h.x.our h.x.our).2, h.xAddress⟩, ⟨?_, (hledger h.y.our h.y.our).2, h.yAddress⟩,
    hlocks h.x, hlocks h.y, h.identifier, ⟨hwithdraw h.x.our, hwithdraw h.x.partner⟩,
    ⟨hwithdraw h.y.our, hwithdraw h.y.partner⟩⟩
  · rw [h.fromX, (hledger h.y.partner h.x.our).1]
    exact .nil _
  · simp only [Network.swap]
    rw [h.fromY, (hledger h.x.partner h.y.our).1]
    exact .nil _

variable {n : Network} {c' : NettingChannelState} {m : Envelope}

/-- Node `x` gets a new copy of the channel and messages are sent or received. -/
theorem Agree.replace {fromX fromY : List Envelope} (h : Agree P n) (hlocks : ChannelLocks P c')
    (hidentifier : c'.canonicalIdentifier = n.x.canonicalIdentifier)
    (hour : c'.ourState.address = n.x.ourState.address)
    (hpartner : c'.partnerState.address = n.x.partnerState.address) (hwithdraws : NoWithdraws c')
    (hsafe : (ledgerOf P c'.ourState).transferred + (ledgerOf P c'.ourState).locked ≤ uint256Max)
    (chain : Chained P n.y.ourState.transferredAmount n.x.ourState.address n.x.canonicalIdentifier
      (ledgerOf P n.y.partnerState) fromX (ledgerOf P c'.ourState))
    (back : Chained P c'.ourState.transferredAmount n.y.ourState.address n.y.canonicalIdentifier
      (ledgerOf P c'.partnerState) fromY (ledgerOf P n.y.ourState)) : Agree P ⟨c', n.y, fromX, fromY⟩ := by
  refine ⟨⟨?_, hsafe, h.half.address.trans hour.symm⟩, ⟨back, h.back.safe, hpartner.trans h.back.address⟩,
    hlocks, h.yLocks, hidentifier.trans h.identifier, hwithdraws, h.yWithdraws⟩
  rw [hour, hidentifier]
  exact chain

/-- Node `x` sends a message and records it. -/
theorem Agree.post {msg : Message} (h : Agree P n) (hrecorded : Recorded P n.x.ourState c'.ourState entry)
    (hrest : c' = { n.x with ourState := c'.ourState })
    (hissued : Issued P n.x.ourState.address n.x.canonicalIdentifier (ledgerOf P n.x.ourState)
      (ledgerOf P c'.ourState) msg entry)
    (hcarries : Carries P n.y.ourState.transferredAmount (ledgerOf P n.x.ourState)
      n.x.ourState.contractBalance msg entry) :
    Agree P { n with
      x := c'
      fromX := n.fromX ++ [⟨msg, ledgerOf P c'.ourState, n.x.ourState.contractBalance⟩] } := by
  have hpartner : c'.partnerState = n.x.partnerState := by rw [hrest]
  have htransferred : n.x.ourState.transferredAmount ≤ c'.ourState.transferredAmount := by
    have := Ledger.transferred_le_record P (ledgerOf P n.x.ourState) entry
    rw [← hrecorded.ledger] at this
    exact this
  refine h.replace ⟨hrecorded.tracked, hpartner ▸ h.xLocks.partnerTracked, hrecorded.locks,
    hpartner ▸ h.xLocks.partner⟩ (by rw [hrest]) hrecorded.address (by rw [hpartner])
    ⟨hrecorded.withdraw.trans h.xWithdraws.our, hpartner ▸ h.xWithdraws.partner⟩ hissued.safe
    (h.half.chain.append ⟨hrecorded.ledger, hissued.admits, hcarries, hissued.commits, hissued.safe⟩) ?_
  -- what the partner sent stays covered, because our transferred amount only grows
  rw [hpartner]
  exact h.back.chain.mono htransferred

/-- Node `x` accepts the first message of `y`. -/
theorem Agree.accept {rest : List Envelope} (h : Agree P n) (hqueue : n.fromY = m :: rest)
    (hdeliver : m.message.deliver P n.x now md = .ok (c', true)) :
    Agree P { n with x := c', fromY := rest } ∧ ledgerOf P c'.partnerState = m.sent := by
  have hchain := h.back.chain
  simp only [Network.swap] at hchain
  rw [hqueue] at hchain
  cases hchain with
  | cons head tail =>
    obtain ⟨hrecorded, hrest⟩ := deliver_recorded h.xLocks head.admits head.carries hdeliver
    have hour : c'.ourState = n.x.ourState := by rw [hrest]
    have hledger : ledgerOf P c'.partnerState = m.sent := hrecorded.ledger.trans head.sent_eq.symm
    exact ⟨h.replace ⟨hour ▸ h.xLocks.ourTracked, hrecorded.tracked, hour ▸ h.xLocks.our, hrecorded.locks⟩
      (by rw [hrest]) (by rw [hour]) hrecorded.address
      ⟨hour ▸ h.xWithdraws.our, hrecorded.withdraw.trans h.xWithdraws.partner⟩ (hour ▸ h.half.safe)
      (hour ▸ h.half.chain) (by rw [hour, hledger]; exact tail), hledger⟩

theorem Agree.internal {es : List Event} {op : ChannelOp} (h : Agree P n) (hop : op.isInternal = true)
    (hstep : Step P n.x (op, es) c') :
    Agree P { n with x := c' } := by
  obtain ⟨hour, hpartner, hidentifier⟩ : ChannelKept n.x c' := Step.internal hstep hop
  refine h.replace (hstep.channelLocks (ChannelOp.noReuse_of_internal hop) h.xLocks) hidentifier
    hour.address hpartner.address
    ⟨hour.withdraw.trans h.xWithdraws.our, hpartner.withdraw.trans h.xWithdraws.partner⟩ ?_ ?_ ?_
  · rw [hour.ledgerOf_eq]
    exact h.half.safe
  · rw [hour.ledgerOf_eq]
    exact h.half.chain
  · rw [hour.transferredAmount_eq, hpartner.ledgerOf_eq]
    exact h.back.chain

end Invariant

section Send

variable {P : Primitives} {S : Signing P} {n : Network} {c' : NettingChannelState}

theorem Signing.signBalanceProof_commits (S : Signing P) (address : Address)
    (messageHash : AdditionalHash) {bp : BalanceProofUnsignedState} {identifier : CanonicalIdentifier}
    (hbp : e.balanceProof = some (.unsigned bp)) (hnonce : e.nonce = bp.nonce)
    (hidentifier : bp.canonicalIdentifier = identifier) :
    Commits P address identifier (ledgerOf P e) (S.signBalanceProof address messageHash bp) := by
  have hsignature : isValidBalanceproofSignature P (S.signBalanceProof address messageHash bp) address =
      .ok () := by
    simp only [isValidBalanceproofSignature, isValidSignature, Signing.signBalanceProof, S.recover_sign,
      if_true]
  refine ⟨hnonce.symm, ?_, ?_, ?_, hidentifier, hsignature⟩
  · rw [ledgerOf, NettingChannelEndState.transferredAmount, hbp]
    rfl
  · rw [ledgerOf, provenLockedAmount, hbp]
    rfl
  · rw [ledgerOf, provenLocksroot, hbp]
    rfl

theorem pendingTransfers_lt_of_usable {lockTimeout : Option Int} {c : NettingChannelState} {amount : Int}
    (h : isChannelUsableForNewTransfer P c amount lockTimeout = .usable) :
    c.ourState.pendingLocks.length < maximumPendingTransfers := by
  unfold isChannelUsableForNewTransfer at h
  split_ifs at h with _ _ hpending
  exact Nat.not_le.mp hpending

variable {c : NettingChannelState}

theorem sendLockedtransfer_issued {event : SendLockedTransfer} {arguments : LockedTransferArguments}
    (S : Signing P) (hc : ChannelLocks P c)
    (hsafe : (ledgerOf P c.ourState).transferred + (ledgerOf P c.ourState).locked ≤ uint256Max)
    (hfresh : isLockPending c.ourState arguments.secrethash = false)
    (hsend : sendLockedtransfer P c arguments = .ok (c', event)) (messageHash : AdditionalHash) :
    Recorded P c.ourState c'.ourState (.add event.transfer.lock) ∧
      Issued P c.ourState.address c.canonicalIdentifier (ledgerOf P c.ourState) (ledgerOf P c'.ourState)
        (S.lockedTransfer c.ourState.address messageHash event) (.add event.transfer.lock) := by
  obtain ⟨locks, hsent, hc'⟩ := sendLockedtransfer_ok P hsend
  rw [← hsent.secrethash_eq] at hfresh
  have hrecorded := hsent.added.recorded hc.our hc.ourTracked hfresh
  obtain ⟨htransferred, hlocked, -⟩ := hc.our.views
  have hoverflow := (Int.le_min.mp hsent.amount_le).1
  subst hc'
  refine ⟨hrecorded, ?_, ?_, ?_⟩
  · intro other hother heq
    have hpending := hc.our.hasLock hc.ourTracked hother
    rw [heq] at hpending
    obtain ⟨l, hl⟩ := hpending.getLock_isSome
    rw [isLockPending_of_getLock hl] at hfresh
    cases hfresh
  · exact S.signBalanceProof_commits _ _ rfl rfl hsent.identifier_eq
  · rw [hrecorded.ledger]
    simp only [Ledger.record]
    omega

theorem sendUnlock_issued {msgId : MessageID} {hash : SecretHash} {pid : PaymentID} (S : Signing P)
    {event : SendUnlock} (hc : ChannelLocks P c)
    (hsafe : (ledgerOf P c.ourState).transferred + (ledgerOf P c.ourState).locked ≤ uint256Max)
    (hsecret : P.sha256Secrethash secret = hash)
    (hsend : sendUnlock P c msgId pid secret hash now md =
      .ok (c', event)) (messageHash : AdditionalHash) :
    ∃ lock, P.sha256Secrethash event.secret = lock.secrethash ∧
      Recorded P c.ourState c'.ourState (.unlock lock) ∧
      Issued P c.ourState.address c.canonicalIdentifier (ledgerOf P c.ourState) (ledgerOf P c'.ourState)
        (S.unlock c.ourState.address messageHash event) (.unlock lock) := by
  obtain ⟨-, hevent, lock, locks, hsent, hc'⟩ := sendUnlock_ok P hsend
  have hunlocked := hsent.unlocked
  have hrecorded := hunlocked.recorded hc.our hc.ourTracked
  have hlock := hunlocked.hasLock hc.ourTracked
  have hamount := hc.our.amount_le hlock
  have hkey : lock.secrethash = hash := hc.ourTracked.keyed (.of_getLock hsent.lock_eq)
  subst hc'
  refine ⟨lock, ?_, hrecorded, ⟨hc.ourTracked.pending hlock, hamount⟩, ?_, ?_⟩
  · rw [hevent, hsecret, hkey]
  · exact S.signBalanceProof_commits _ _ rfl rfl hsent.identifier_eq
  · rw [hrecorded.ledger]
    simp only [Ledger.record]
    omega

theorem expireOwnLock_issued {prng' prng : Prng} {hash : SecretHash} (S : Signing P)
    {event : SendLockExpired} (hc : ChannelLocks P c)
    (hsafe : (ledgerOf P c.ourState).transferred + (ledgerOf P c.ourState).locked ≤ uint256Max)
    (hsend : (expireOwnLock P c hash now md).run prng = .ok ((c', [.sendLockExpired
      event]), prng')) (messageHash : AdditionalHash) :
    c' = { c with ourState := c'.ourState } ∧
    ∃ lock, event.secrethash = lock.secrethash ∧ Recorded P c.ourState c'.ourState (.expire lock) ∧
      Issued P c.ourState.address c.canonicalIdentifier (ledgerOf P c.ourState) (ledgerOf P c'.ourState)
        (S.lockExpired c.ourState.address messageHash event) (.expire lock) := by
  have hcases := expireOwnLock_cases c hash now md prng _ prng' hsend
  rcases hcases with heq | ⟨lock, msg, locks, -, hexpired, hsecrethash, hidentifier, heq⟩
  · cases heq
  · cases heq
    have hrecorded := hexpired.recorded hc.our hc.ourTracked
    have hlock := hexpired.hasLock hc.ourTracked
    have hamount := hc.our.amount_le hlock
    refine ⟨rfl, lock, hsecrethash, hrecorded, ⟨hc.ourTracked.pending hlock, hamount⟩, ?_, ?_⟩
    · exact S.signBalanceProof_commits _ _ rfl rfl hidentifier
    · rw [hrecorded.ledger]
      simp only [Ledger.record]
      omega

end Send

section Runs

variable {P : Primitives} {S : Signing P} {n n' : Network}

theorem Acts.agree {act : Action} (h : Acts P S n act n') (ha : Agree P n) : Agree P n' := by
  cases h with
  | transfer messageHash usable fresh hsend =>
    obtain ⟨hrecorded, hissued⟩ :=
      sendLockedtransfer_issued S ha.xLocks ha.half.safe fresh hsend messageHash
    obtain ⟨locks, hsent, hc'⟩ := sendLockedtransfer_ok P hsend
    obtain ⟨-, -, hamount⟩ := ha.xLocks.our.views
    have hcredit := ha.back.chain.transferred_le
    have hbalance := (Int.le_min.mp hsent.amount_le).2
    refine ha.post hrecorded (by rw [hc']) hissued (.transfer (pendingTransfers_lt_of_usable usable) ?_)
    rw [getBalance_eq_max_sub, getMaxWithdrawAmount_eq, ha.xWithdraws.our, hamount] at hbalance
    simp only [ledgerOf, Network.swap] at hcredit hbalance ⊢
    omega
  | unlock messageHash hsecret hsend =>
    obtain ⟨lock, hkey, hrecorded, hissued⟩ :=
      sendUnlock_issued S ha.xLocks ha.half.safe hsecret hsend messageHash
    obtain ⟨-, -, _, _, -, hc'⟩ := sendUnlock_ok P hsend
    exact ha.post hrecorded (by rw [hc']) hissued (.unlock hkey)
  | expire messageHash hsend =>
    obtain ⟨hrest, lock, hkey, hrecorded, hissued⟩ :=
      expireOwnLock_issued S ha.xLocks ha.half.safe hsend messageHash
    exact ha.post hrecorded hrest hissued (.expire hkey)
  | internal hop h => exact ha.internal hop h
  | accept hqueue h => exact (ha.accept hqueue h).1
  | refuse hqueue h => exact deliver_refused h ▸ ha

theorem NetStep.agree {label : Bool × Action} (h : NetStep P S n label n') (ha : Agree P n) :
    Agree P n' := by
  cases h with
  | x h => exact h.agree ha
  | y h => exact (h.agree ha.swap).swap

theorem Agree.inOrder (h : Agree P n) : InOrder P n := by
  intro m rest hqueue now md
  have hchain := h.half.chain
  rw [hqueue] at hchain
  refine ⟨fun c' hdeliver => (h.swap.accept hqueue hdeliver).2, fun hkind hopen hdeposit => ?_⟩
  cases hchain with
  | cons head _ =>
    have hnonce : m.sent.nonce = n.y.partnerState.nonce + 1 := by
      rw [head.sent_eq, Ledger.record_nonce]
      rfl
    have husable := head.commits.usable hopen h.identifier.symm h.half.address hnonce head.safe
    obtain ⟨msg, sent, deposit⟩ := m
    cases head.carries with
    | transfer length_lt covered =>
      exact deliver_accepts_transfer h.yLocks h.yWithdraws.partner head.sent_eq head.admits length_lt
        covered head.commits husable head.safe hdeposit
    | unlock hsecret =>
      exact deliver_accepts_unlock h.yLocks head.sent_eq head.admits hsecret head.commits husable
    | expire hsecret => exact absurd rfl (hkind _)

end Runs

def toySigning : Signing toyPrimitives where
  sign address _ := List.replicate address.toNat 0
  recover_sign address data := by simp [toyPrimitives]

/-- The channel of the addresses 1 and 2, as each of the two nodes has it. -/
def toyNetwork (deposit : Nat) : Network where
  x := toyChannel deposit 0
  y := { toyChannel 0 0 with
    ourState := { address := 2, contractBalance := 0, onchainLocksroot := [] }
    partnerState := { address := 1, contractBalance := deposit, onchainLocksroot := [] } }
  fromX := []
  fromY := []

theorem toyNetwork_initial (deposit : Nat) : (toyNetwork deposit).Initial :=
  ⟨⟨toyChannel_fresh deposit 0, ⟨⟨rfl, rfl, rfl, rfl, rfl, rfl, rfl, rfl, rfl, rfl⟩,
    ⟨rfl, rfl, rfl, rfl, rfl, rfl, rfl, rfl, rfl, rfl⟩, rfl, rfl, rfl⟩, rfl, rfl, rfl⟩, rfl, rfl⟩

def toyArguments : LockedTransferArguments where
  initiator := 1
  target := 2
  amount := 60
  messageIdentifier := 1
  paymentIdentifier := 1
  expiration := 40
  secret := none
  secrethash := 7
  routeStates := []

end Raiden.Channel
