import Raiden.Mediator.System

/-! # Executing a mediation

The steps of a mediation as a function of the input, for a generator that
always returns one identifier, and concrete channels to run it on. -/
namespace Raiden.Mediator

open Lib Channel

variable {input : Input} {label : Input × List Event}
  {inputs : List Input} {s t : Mediation} {msgId : MessageID} {hash : SecretHash}
  {net : TokenNetworkRef} {G : Mediation → Input → Prop}
  {p : List (Input × List Event) × Mediation → Bool}

/-! ## Deciding what the environment may do -/

instance (s : Mediation) (block : Option Nat) : Decidable (s.inOrder block) :=
  decidable_of_iff (block.all (fun k => s.blockNumber < k ∧ s.height ≤ k) = true) (by
    simp [Mediation.inOrder, Option.all_eq_true])

instance (P : Primitives) (s : Mediation) (c : NettingChannelState) (op : ChannelOp) :
    Decidable (s.lawful P c op) := by
  unfold Mediation.lawful
  split <;> infer_instance

instance (P : Primitives) (hash : SecretHash) (s : Mediation) (change : PaymentStateChange) :
    Decidable (s.dispatches P hash change) := by
  unfold Mediation.dispatches
  induction change using PaymentStateChange.casesOn <;> infer_instance

section Exec

variable (P : Primitives) (net : TokenNetworkRef) (hash : SecretHash)
  (G : Mediation → Input → Prop) [∀ s input, Decidable (G s input)]

/-- One step on an input that meets `G`; opening a channel is left to `openAll`. -/
def Mediation.next (msgId : MessageID) (s : Mediation) (input : Input) :
    Option ((Input × List Event) × Mediation) :=
  if ¬G s input then none else
  match input with
  | .tick n =>
    if s.blockNumber < n ∧ s.height ≤ n then
      some ((.tick n, []), { s with blockNumber := n, height := n })
    else none
  | .opened _ _ => none
  | .channel ref op =>
    match s.channels.get? ref with
    | none => none
    | some c =>
      if op.secrethash P ≠ some hash ∧ s.inOrder (eventBlock op) ∧ s.lawful P c op then
        match (op.run P c).run (Stream'.const msgId) with
        | .ok (⟨some c', es⟩, _) =>
          some ((.channel ref op, es), { s with
            channels := s.channels.set ref c', height := (eventBlock op).getD s.height })
        | .ok (⟨none, es⟩, _) =>
          some ((.channel ref op, es), { s with
            channels := s.channels.del ref, height := (eventBlock op).getD s.height })
        | .error _ => none
      else none
  | .task change bh =>
    if s.dispatches P hash change ∧ s.inOrder (taskEventBlock change) then
      match (stateTransition P net s.task change s.channels s.channels.addressesToChannel
          s.blockNumber bh).run (Stream'.const msgId) with
      | .ok (r, _) =>
        some ((.task change bh, r.events), { s with
          task := r.newState
          channels := r.channels
          height := (taskEventBlock change).getD s.height })
      | .error _ => none
    else none

variable {P net hash G}

theorem Mediation.next_sound (h : s.next P net hash G msgId input = some (label, t)) :
    label.1 = input ∧ s.NextIf P net hash G label t := by
  unfold Mediation.next at h
  split_ifs at h with hG
  cases input with
  | tick n =>
    dsimp only at h
    split_ifs at h with hn
    cases h
    exact ⟨rfl, hG, .tick hn.1 hn.2⟩
  | opened ref c => cases h
  | channel ref op =>
    dsimp only at h
    split at h
    · cases h
    · next c hc =>
      split_ifs at h with hop
      split at h
      · next hrun =>
        cases h
        exact ⟨rfl, hG, .channel hc ⟨_, _, hrun⟩ hop.1 hop.2.1 hop.2.2⟩
      · next hrun =>
        cases h
        exact ⟨rfl, hG, .removed hc hrun hop.2.1⟩
      · cases h
  | task sc bh =>
    dsimp only at h
    split_ifs at h with hd
    split at h
    · next hrun =>
      cases h
      exact ⟨rfl, hG, .task hd.1 hd.2 hrun⟩
    · cases h

theorem Mediation.exists_next {p : (Input × List Event) × Mediation → Bool}
    (h : (s.next P net hash G msgId input).any p = true) :
    ∃ es t, s.NextIf P net hash G (input, es) t ∧ p ((input, es), t) = true := by
  obtain ⟨⟨⟨_, es⟩, t⟩, hnext, hp⟩ := (Option.any_eq_true _ _).mp h
  obtain ⟨rfl, hstep⟩ := Mediation.next_sound hnext
  exact ⟨es, t, hstep, hp⟩

theorem Mediation.exists_run {p : List (Input × List Event) × Mediation → Bool}
    (h : (execute (Mediation.next P net hash G msgId) inputs ([], s)).any p = true) :
    ∃ log t, Run (Mediation.NextIf P net hash G) s log t ∧ p (log, t) = true :=
  Run.execute (.start s) h fun _ _ _ _ hnext => (Mediation.next_sound hnext).2

end Exec

def openAll (s : Mediation) (opened : List (ChannelRef × NettingChannelState)) : Mediation :=
  opened.foldl (fun s entry => { s with channels := s.channels.set entry.1 entry.2 }) s

theorem openAll_run (P : Primitives) (hash : SecretHash)
    (hG : ∀ s ref c, G s (.opened ref c)) {s₀ : Mediation} {log : List (Input × List Event)}
    (opened : List (ChannelRef × NettingChannelState))
    (past : Run (Mediation.NextIf P net hash G) s₀ log s) (htask : s.task = none)
    (hopened : ∀ entry ∈ opened, OpenedAs net entry.1 entry.2)
    (hnodup : (opened.map Prod.fst).Nodup) (habsent : ∀ entry ∈ opened, s.channels.get? entry.1 = none) :
    Run (Mediation.NextIf P net hash G) s₀
      (log ++ opened.map fun entry => (.opened entry.1 entry.2, [])) (openAll s opened) := by
  induction opened generalizing s log with
  | nil =>
    rw [List.map_nil, List.append_nil]
    exact past
  | cons entry rest ih =>
    rw [List.map_cons, List.nodup_cons] at hnodup
    have hstep : s.Next P net hash (.opened entry.1 entry.2, [])
        { s with channels := s.channels.set entry.1 entry.2 } := by
      refine .opened (habsent entry List.mem_cons_self) ?_ (hopened entry List.mem_cons_self)
      rw [Mediation.taskRefs, htask]
      exact List.not_mem_nil
    have hrest := ih (past.step ⟨hG s entry.1 entry.2, hstep⟩) htask
      (fun other hother => hopened other (List.mem_cons_of_mem _ hother)) hnodup.2 (fun other hother => ?_)
    · rwa [List.append_assoc] at hrest
    · have hne : other.1 ≠ entry.1 := fun heq =>
        hnodup.1 (heq ▸ List.mem_map_of_mem hother)
      rw [Dict.get?_set_ne _ _ hne]
      exact habsent other (List.mem_cons_of_mem _ hother)

def opening (now : Nat) (opened : List (ChannelRef × NettingChannelState)) :
    List (Input × List Event) × Mediation :=
  (opened.map fun entry => (.opened entry.1 entry.2, []), openAll (.start now) opened)

theorem opening_run {P : Primitives} [∀ s input, Decidable (G s input)]
    (hG : ∀ s ref c, G s (.opened ref c)) {now : Nat}
    {opened : List (ChannelRef × NettingChannelState)}
    (hopened : ∀ entry ∈ opened, OpenedAs net entry.1 entry.2)
    (hnodup : (opened.map Prod.fst).Nodup)
    (h : (execute (Mediation.next P net hash G msgId) inputs (opening now opened)).any p = true) :
    ∃ log t, Run (Mediation.NextIf P net hash G) (.start now) log t ∧ p (log, t) = true := by
  have past := openAll_run P hash hG opened (.start (.start now)) rfl hopened hnodup
    fun _ _ => rfl
  exact past.execute h fun _ _ _ _ hnext => (Mediation.next_sound hnext).2

/-! ## Concrete channels and messages -/

def toyTokenNetwork : TokenNetworkRef := ⟨7, 9⟩

/-- The reference of a channel in the token network of the concrete runs. -/
def toyRef (channelIdentifier : ChannelID) : ChannelRef := ⟨toyTokenNetwork, channelIdentifier⟩

/-- A new channel of the address 1 with a partner; both ends deposited 100. -/
def toyChannelWith (channelIdentifier : ChannelID) (partner : Address) (settleTimeout : Nat) :
    NettingChannelState :=
  { toyChannel 100 100 with
    canonicalIdentifier := ⟨1, 9, channelIdentifier⟩
    settleTimeout
    partnerState := { address := partner, contractBalance := 100, onchainLocksroot := [] } }

theorem toyChannelWith_opened {cid : ChannelID} (partner : Address) (settleTimeout : Nat)
    (h : cid ≤ uint256Max) :
    OpenedAs toyTokenNetwork (toyRef cid) (toyChannelWith cid partner settleTimeout) where
  fresh := ⟨⟨rfl, rfl, rfl, rfl, rfl, rfl, rfl, rfl, rfl, rfl⟩, ⟨rfl, rfl, rfl, rfl, rfl, rfl, rfl, rfl, rfl,
    rfl⟩, rfl, rfl, rfl⟩
  identifier := rfl
  network := rfl
  identifier_le := h
  registry _ := rfl

def toyReceived (channelIdentifier : ChannelID) (sender : Address) (lock : HashTimeLockState)
    (amount : Fin 256) : LockedTransferSignedState :=
  { toyTransfer lock { toyBalanceProof 0 0 amount [lock] with
      canonicalIdentifier := ⟨1, 9, channelIdentifier⟩
      signature := List.replicate sender.toNat 0
      sender } with
    initiator := 2
    target := 4 }

section

variable (payerSettleTimeout payeeSettleTimeout : Nat)

def toyNeighbours : List (ChannelRef × NettingChannelState) :=
  [(toyRef 1, toyChannelWith 1 2 payerSettleTimeout), (toyRef 2, toyChannelWith 2 3 payeeSettleTimeout)]

/-- The channels are opened at block 1. -/
def toyStart : List (Input × List Event) × Mediation :=
  opening 1 (toyNeighbours payerSettleTimeout payeeSettleTimeout)

theorem toyNeighbours_opened :
    ∀ entry ∈ toyNeighbours payerSettleTimeout payeeSettleTimeout,
      OpenedAs toyTokenNetwork entry.1 entry.2 := by
  intro entry hentry
  simp only [toyNeighbours, List.mem_cons, List.not_mem_nil, or_false] at hentry
  rcases hentry with rfl | rfl
  · exact toyChannelWith_opened 2 _ (by decide)
  · exact toyChannelWith_opened 3 _ (by decide)

theorem toyNeighbours_nodup :
    ((toyNeighbours payerSettleTimeout payeeSettleTimeout).map Prod.fst).Nodup := by
  show [toyRef 1, toyRef 2].Nodup
  decide

end

theorem toyStart_run [∀ s input, Decidable (G s input)]
    (hG : ∀ s ref c, G s (.opened ref c)) {payerSettleTimeout payeeSettleTimeout : Nat}
    (h : (execute (Mediation.next toyPrimitives toyTokenNetwork hash G msgId) inputs
      (toyStart payerSettleTimeout payeeSettleTimeout)).any p = true) :
    ∃ log t, Run (Mediation.NextIf toyPrimitives toyTokenNetwork hash G) (.start 1) log t ∧ p (log, t) = true :=
  opening_run hG (toyNeighbours_opened _ _) (toyNeighbours_nodup _ _) h

/-- The start of a mediation of the address 2's payment over the neighbour 3. -/
def toyInit (lock : HashTimeLockState) (amount : Fin 256) : ActionInitMediator where
  sender := 2
  balanceProof := (toyReceived 1 2 lock amount).balanceProof
  fromHop := ⟨2, 1⟩
  candidateRouteStates := [{ route := [1, 3, 4] }]
  fromTransfer := toyReceived 1 2 lock amount

/-- A transfer with a lock until `expiration` is forwarded at block 1. -/
def forwardUntil (expiration : Fin 65536) : Input :=
  .task (.actionInitMediator (toyInit (toyLockUntil expiration 50 7) 50)) []

def payeeReveals : Input := .task (.receiveSecretReveal ⟨3, [7]⟩) []

/-- The secret is registered on-chain at a block. -/
def registeredAt (now : Nat) : Input :=
  .task (.contractReceiveSecretReveal ⟨now, [], 0, 7, [7]⟩) []

end Raiden.Mediator
