import Mathlib.Data.List.Induction
import Raiden.Storage.Wal

/-! # Recovery against the live log

A history of a node is the batches it dispatched and the snapshots it took
between them. Recovery is compared with the live log for every history: the
snapshot stores the identifier of the last state change it contains, and both
`restore_or_init_snapshot` and `restore_state` hand that identifier to an
inclusive range, so a restart that finds such a snapshot applies that state
change a second time. -/
namespace Raiden.Storage

variable {σ χ : Type}

inductive WalOp (χ : Type) where
  | batch (stateChanges : List (ULID × χ))
  | snapshot (statechangeQty : Nat)

section

variable (f : StateTransition σ χ)

def WalOp.run (wal : WriteAheadLog σ χ) : WalOp χ → Fallible (WriteAheadLog σ χ)
  | .batch stateChanges => .ok (wal.processStateChangeAtomically f stateChanges)
  | .snapshot qty => wal.snapshot qty

def WalOp.stateChanges : WalOp χ → List (ULID × χ)
  | .batch stateChanges => stateChanges
  | .snapshot _ => []

def WalOp.isSnapshot : WalOp χ → Bool
  | .batch _ => false
  | .snapshot _ => true

def logged (ops : List (WalOp χ)) : List (ULID × χ) := ops.flatMap WalOp.stateChanges

/-- A node that starts on an empty database and performs `ops`. -/
def live (initialState : σ) (ops : List (WalOp χ)) :
    Fallible (WriteAheadLog σ χ) := do
  let wal ← initializeWal {} initialState f
  ops.foldlM (WalOp.run f) wal

/-- The operations of one process, with the identifiers of a ULID factory. -/
structure History (χ : Type) where
  ops : List (WalOp χ)
  increasing : (logged ops).Pairwise fun a b => a.1 < b.1

/-- The transition function modifies the copy it is handed, as `clone_state`
asks for and as the state machine of the node does. -/
def InPlace : Prop :=
  ∀ s change, f s change = .inPlace (f s change).newState

/-- A restart, with whatever initial state it is offered, arrives at the live
state, and so does `restore_state` for every state change of the log. -/
def Recovers (initialState : σ) (ops : List (WalOp χ)) : Prop :=
  ∃ wal, live f initialState ops = .ok wal ∧
    (∀ offered, ∃ restarted, initializeWal wal.storage offered f = .ok restarted ∧
      restarted.state = wal.state) ∧
    ∀ before dispatched id change rest after,
      ops = before ++ .batch (dispatched ++ (id, change) :: rest) :: after →
      ∃ there, live f initialState (before ++ [.batch (dispatched ++ [(id, change)])]) = .ok there ∧
        restoreState f wal.storage id = .ok (some there.state)

def replayed (s : σ) (changes : List (ULID × χ)) : σ :=
  changes.foldl (fun s change => (f s change.2).newState) s

theorem replayed_append (s : σ) (a b : List (ULID × χ)) :
    replayed f s (a ++ b) = replayed f (replayed f s a) b :=
  List.foldl_append

end

/-! ## Ranges of an increasing log -/

section Range

variable {before after : List (ULID × χ)} {id : ULID} {sc : χ}

theorem filter_up_to (hinc : (before ++ (id, sc) :: after).Pairwise fun a b => a.1 < b.1) :
    (before ++ (id, sc) :: after).filter (fun row => lowStatechangeUlid ≤ row.1 ∧ row.1 ≤ id) =
      before ++ [(id, sc)] := by
  obtain ⟨-, hafter, hbefore⟩ := List.pairwise_append.mp hinc
  have hlow (u : ULID) : lowStatechangeUlid ≤ u := Fin.zero_le u
  have hkeep : before.filter (fun row => lowStatechangeUlid ≤ row.1 ∧ row.1 ≤ id) = before := by
    rw [List.filter_eq_self]
    intro row hrow
    have := hbefore row hrow (id, sc) List.mem_cons_self
    exact decide_eq_true ⟨hlow _, this.le⟩
  have hdrop : after.filter (fun row => lowStatechangeUlid ≤ row.1 ∧ row.1 ≤ id) = [] := by
    rw [List.filter_eq_nil_iff]
    intro row hrow hle
    have := (List.pairwise_cons.mp hafter).1 row hrow
    exact absurd (of_decide_eq_true hle).2 (not_le.mpr this)
  rw [List.filter_append, hkeep, List.filter_cons, hdrop]
  simp [hlow]

theorem filter_from (hinc : (before ++ (id, sc) :: after).Pairwise fun a b => a.1 < b.1) :
    (before ++ (id, sc) :: after).filter (fun row => id ≤ row.1 ∧ row.1 ≤ highStatechangeUlid) =
      (id, sc) :: after := by
  obtain ⟨-, hafter, hbefore⟩ := List.pairwise_append.mp hinc
  have hhigh (u : ULID) : u ≤ highStatechangeUlid := Fin.le_last u
  have hdrop : before.filter (fun row => id ≤ row.1 ∧ row.1 ≤ highStatechangeUlid) = [] := by
    rw [List.filter_eq_nil_iff]
    intro row hrow hle
    have := hbefore row hrow (id, sc) List.mem_cons_self
    exact absurd (of_decide_eq_true hle).1 (not_le.mpr this)
  have hkeep : after.filter (fun row => id ≤ row.1 ∧ row.1 ≤ highStatechangeUlid) = after := by
    rw [List.filter_eq_self]
    intro row hrow
    exact decide_eq_true ⟨((List.pairwise_cons.mp hafter).1 row hrow).le, hhigh _⟩
  rw [List.filter_append, hdrop, List.filter_cons, hkeep]
  simp [hhigh]

theorem filter_all (rows : List (ULID × χ)) :
    rows.filter (fun row => lowStatechangeUlid ≤ row.1 ∧ row.1 ≤ highStatechangeUlid) = rows := by
  rw [List.filter_eq_self]
  intro row _
  exact decide_eq_true ⟨Fin.zero_le _, Fin.le_last _⟩

/-- The rows of an increasing log already stand in the order the query asks for. -/
theorem replayStateChanges_eq (f : StateTransition σ χ) (s : σ) (range : Range)
    {storage : SQLiteStorage σ χ} {rows : List (ULID × χ)}
    (hinc : storage.stateChanges.Pairwise fun a b => a.1 < b.1) (hrows : storage.stateChanges.filter
      (fun row => range.first ≤ row.1 ∧ row.1 ≤ range.last) = rows) :
    (replayStateChanges s range storage f).1 = replayed f s rows := by
  have hsorted : rows.Pairwise fun a b => decide (a.1 ≤ b.1) = true := by
    rw [← hrows]
    exact (hinc.filter _).imp fun h => decide_eq_true h.le
  show (storage.getStatechangesByRange range).foldl _ s = _
  unfold SQLiteStorage.getStatechangesByRange replayed
  rw [hrows, List.mergeSort_of_pairwise hsorted, List.foldl_map]

end Range

/-! ## What the live log stores -/

section

variable (f : StateTransition σ χ) (initialState : σ) (changes : List (ULID × χ))

/-- A row of the snapshot table that was written after a state change: it holds
the state right after that state change and its identifier. -/
def SnapshotOf (row : SnapshotRow σ) : Prop :=
  ∃ before id change after, changes = before ++ (id, change) :: after ∧
    row.statechangeId = some id ∧ row.data = replayed f initialState (before ++ [(id, change)])

/-- The live log after the state changes `changes` and `count` snapshots. -/
structure Logs (count : Nat) (wal : WriteAheadLog σ χ) : Prop where
  state : wal.state = replayed f initialState changes
  stored : wal.storage.stateChanges = changes
  saved : wal.savedState.map SavedState.stateChangeId = changes.getLast?.map Prod.fst
  snapshots : ∃ rows, wal.storage.stateSnapshot = ⟨none, 0, initialState⟩ :: rows ∧
    rows.length = count ∧ ∀ row ∈ rows, SnapshotOf f initialState changes row

end

theorem SnapshotOf.append {f : StateTransition σ χ} {initialState : σ} {changes : List (ULID × χ)}
    {row : SnapshotRow σ} (h : SnapshotOf f initialState changes row) (more : List (ULID × χ)) :
    SnapshotOf f initialState (changes ++ more) row := by
  obtain ⟨before, id, sc, after, rfl, hid, hdata⟩ := h
  exact ⟨before, id, sc, after ++ more, by simp, hid, hdata⟩

section Live

variable {f : StateTransition σ χ} {initialState : σ} {changes : List (ULID × χ)} {count : Nat}
  {wal : WriteAheadLog σ χ}

theorem dispatch_inPlace (hf : InPlace f) (d : AtomicStateChangeDispatcher σ χ) (sc : ULID × χ)
    (haliased : d.aliased = true) :
    d.dispatch f sc = ⟨(f d.state sc.2).newState, (f d.state sc.2).newState, true,
        d.storage.writeStateChange sc.1 sc.2, some sc.1⟩ := by
  unfold AtomicStateChangeDispatcher.dispatch
  rw [hf d.state sc.2, haliased]
  rfl

/-- With a transition function that works in place, the copy and the state of
the dispatcher stay one object throughout a batch. -/
theorem foldl_dispatch (hf : InPlace f) (batch : List (ULID × χ)) (s : σ)
    (storage : SQLiteStorage σ χ) (last : Option ULID) :
    batch.foldl (AtomicStateChangeDispatcher.dispatch f) ⟨s, s, true, storage, last⟩ =
      ⟨replayed f s batch, replayed f s batch, true,
        { storage with stateChanges := storage.stateChanges ++ batch },
        (batch.getLast?.map Prod.fst).or last⟩ := by
  induction batch generalizing s storage last with
  | nil => simp [replayed]
  | cons sc rest ih =>
    rw [List.foldl_cons, dispatch_inPlace hf _ _ rfl, ih]
    cases hlast : rest.getLast? <;>
      simp [replayed, SQLiteStorage.writeStateChange, List.getLast?_cons, hlast]

theorem Logs.batch (hf : InPlace f) (h : Logs f initialState changes count wal)
    (batch : List (ULID × χ)) :
    Logs f initialState (changes ++ batch) count (wal.processStateChangeAtomically f batch) := by
  unfold WriteAheadLog.processStateChangeAtomically
  rw [foldl_dispatch hf]
  refine ⟨?_, ?_, ?_, ?_⟩
  · rw [h.state, replayed_append]
  · rw [h.stored]
  · cases hlast : batch.getLast? with
    | none =>
      simpa [hlast] using h.saved
    | some last => simp [List.getLast?_append, hlast]
  · obtain ⟨rows, hrows, hcount, hof⟩ := h.snapshots
    exact ⟨rows, hrows, hcount, fun row hrow => (hof row hrow).append batch⟩

theorem Logs.snapshot (h : Logs f initialState changes count wal) {qty : Nat}
    {after : WriteAheadLog σ χ} (hsnapshot : wal.snapshot qty = .ok after) :
    Logs f initialState changes (count + 1) after := by
  unfold WriteAheadLog.snapshot at hsnapshot
  cases hsaved : wal.savedState with
  | none => simp [hsaved] at hsnapshot
  | some saved =>
    rw [hsaved] at hsnapshot
    cases hsnapshot
    obtain ⟨rows, hrows, hcount, hof⟩ := h.snapshots
    have hlast := h.saved
    rw [hsaved] at hlast
    refine ⟨h.state, h.stored, hlast, rows ++ [⟨some saved.stateChangeId, qty, wal.state⟩], ?_, ?_, ?_⟩
    · simp [SQLiteStorage.writeStateSnapshot, hrows]
    · simp [hcount]
    · intro row hrow
      rcases List.mem_append.mp hrow with hrow | hrow
      · exact hof row hrow
      · -- the log was not empty, and its last identifier is the saved one
        rw [Option.map_some, eq_comm, Option.map_eq_some_iff] at hlast
        obtain ⟨⟨id, sc⟩, hlast, hid⟩ := hlast
        obtain ⟨before, hbefore⟩ := List.getLast?_eq_some_iff.mp hlast
        cases List.mem_singleton.mp hrow
        refine ⟨before, id, sc, [], hbefore, by rw [← hid], ?_⟩
        rw [← hbefore]
        exact h.state

theorem live_nil : live f initialState [] = .ok ⟨initialState, ⟨[], [⟨none, 0, initialState⟩]⟩, none⟩ := by
  have hle : lowStatechangeUlid ≤ highStatechangeUlid := Fin.zero_le _
  simp [live, initializeWal, restoreOrInitSnapshot, SQLiteStorage.getSnapshotBeforeStateChange,
    SQLiteStorage.writeFirstStateSnapshot, check, mkRange, hle, replayStateChanges,
    SQLiteStorage.getStatechangesByRange, bind, Except.bind, pure, Except.pure]

theorem live_append (ops : List (WalOp χ)) (op : WalOp χ) :
    live f initialState (ops ++ [op]) = live f initialState ops >>= fun wal => op.run f wal := by
  unfold live
  cases initializeWal {} initialState f with
  | error e => rfl
  | ok wal =>
    show List.foldlM _ _ (ops ++ [op]) = List.foldlM _ _ ops >>= _
    rw [List.foldlM_append]
    congr 1
    funext wal
    simp

theorem logged_append (ops : List (WalOp χ)) (op : WalOp χ) :
    logged (ops ++ [op]) = logged ops ++ op.stateChanges := by
  simp [logged]

/-- The run lemma: what every history leaves in the live log. -/
theorem live_logs (hf : InPlace f) (ops : List (WalOp χ)) {wal : WriteAheadLog σ χ}
    (h : live f initialState ops = .ok wal) :
    Logs f initialState (logged ops) (ops.countP WalOp.isSnapshot) wal := by
  induction ops using List.reverseRecOn generalizing wal with
  | nil =>
    rw [live_nil] at h
    cases h
    exact ⟨rfl, rfl, rfl, [], rfl, rfl, nofun⟩
  | append_singleton ops op ih =>
    rw [live_append] at h
    obtain ⟨before, hbefore, hop⟩ := Lib.seq_ok_iff.mp h
    rw [logged_append, List.countP_append]
    cases op with
    | batch batch =>
      cases hop
      exact (ih hbefore).batch hf batch
    | snapshot qty =>
      have := (ih hbefore).snapshot hop
      simpa [WalOp.stateChanges, WalOp.isSnapshot] using this

/-- Without snapshots nothing in the live log can raise. -/
theorem live_of_no_snapshot (f : StateTransition σ χ) (initialState : σ) {ops : List (WalOp χ)}
    (h : ∀ op ∈ ops, op.isSnapshot = false) : ∃ wal, live f initialState ops = .ok wal := by
  induction ops using List.reverseRecOn with
  | nil => exact ⟨_, live_nil⟩
  | append_singleton ops op ih =>
    obtain ⟨wal, hwal⟩ := ih fun op hop => h op (List.mem_append_left _ hop)
    rw [live_append, hwal]
    cases op with
    | batch batch => exact ⟨_, rfl⟩
    | snapshot qty =>
      have hsnapshot := h (.snapshot qty) (by simp)
      cases hsnapshot

/-- The log keeps the copy that the batch started from. A transition function
that returns a new object instead of modifying that copy leaves the live state
where it was, although its state changes are stored. -/
theorem processStateChangeAtomically_fresh (hf : ∀ s sc, ∃ result, f s sc = .fresh s result)
    (batch : List (ULID × χ)) : (wal.processStateChangeAtomically f batch).state = wal.state := by
  have hfold (d : AtomicStateChangeDispatcher σ χ) (hd : d.aliased = true → d.cloned = d.state) :
      (batch.foldl (AtomicStateChangeDispatcher.dispatch f) d).cloned = d.cloned := by
    induction batch generalizing d with
    | nil => rfl
    | cons sc rest ih =>
      obtain ⟨result, hresult⟩ := hf d.state sc.2
      have hcloned : (d.dispatch f sc).cloned = d.cloned := by
        simp only [AtomicStateChangeDispatcher.dispatch, hresult]
        split
        · rename_i haliased
          exact (hd haliased).symm
        · rfl
      rw [List.foldl_cons, ih, hcloned]
      intro haliased
      simp [AtomicStateChangeDispatcher.dispatch, hresult] at haliased
  exact hfold _ fun _ => rfl

theorem processStateChangeAtomically_stored (f : StateTransition σ χ) (wal : WriteAheadLog σ χ)
    (batch : List (ULID × χ)) :
    (wal.processStateChangeAtomically f batch).storage.stateChanges = wal.storage.stateChanges ++ batch := by
  have hfold (d : AtomicStateChangeDispatcher σ χ) :
      (batch.foldl (AtomicStateChangeDispatcher.dispatch f) d).storage.stateChanges =
        d.storage.stateChanges ++ batch := by
    induction batch generalizing d with
    | nil => exact (List.append_nil _).symm
    | cons sc rest ih =>
      have hwritten : (d.dispatch f sc).storage = d.storage.writeStateChange sc.1 sc.2 := by
        unfold AtomicStateChangeDispatcher.dispatch
        dsimp only
        split <;> rfl
      rw [List.foldl_cons, ih, hwritten, SQLiteStorage.writeStateChange, List.append_assoc]
      rfl
  exact hfold _

/-- Over any history, the live state of a log whose transition function returns
new objects stays the initial one, while every dispatched state change is stored. -/
theorem fresh_transitions_never_advance (hf : ∀ s sc, ∃ result, f s sc = .fresh s result)
    (ops : List (WalOp χ)) (h : live f initialState ops = .ok wal) :
    wal.state = initialState ∧ wal.storage.stateChanges = logged ops := by
  induction ops using List.reverseRecOn generalizing wal with
  | nil =>
    rw [live_nil] at h
    cases h
    exact ⟨rfl, rfl⟩
  | append_singleton ops op ih =>
    rw [live_append] at h
    obtain ⟨before, hbefore, hop⟩ := Lib.seq_ok_iff.mp h
    obtain ⟨hstate, hstored⟩ := ih hbefore
    rw [logged_append]
    cases op with
    | batch batch =>
      cases hop
      rw [processStateChangeAtomically_fresh hf, processStateChangeAtomically_stored, hstored]
      exact ⟨hstate, rfl⟩
    | snapshot qty =>
      replace hop : before.snapshot qty = .ok wal := hop
      unfold WriteAheadLog.snapshot at hop
      split at hop
      · cases hop
      · cases hop
        exact ⟨hstate, hstored.trans (List.append_nil _).symm⟩

end Live

section Restart

variable {f : StateTransition σ χ} {initialState : σ} {changes : List (ULID × χ)} {count : Nat}
  {wal : WriteAheadLog σ χ}

theorem initializeWal_of_snapshot {storage : SQLiteStorage σ χ} {snapshot : SnapshotRecord σ}
    (h : storage.getSnapshotBeforeStateChange highStatechangeUlid = some snapshot) (offered : σ) :
    initializeWal storage offered f = .ok
      ⟨(replayStateChanges snapshot.data ⟨snapshot.stateChangeIdentifier, highStatechangeUlid⟩
        storage f).1, storage, none⟩ := by
  have hle : snapshot.stateChangeIdentifier ≤ highStatechangeUlid := Fin.le_last _
  simp [initializeWal, restoreOrInitSnapshot, h, mkRange, check, hle, bind, Except.bind, pure,
    Except.pure]

theorem Logs.snapshot_of_none (h : Logs f initialState changes 0 wal) (id : ULID) :
    wal.storage.getSnapshotBeforeStateChange id = some ⟨0, lowStatechangeUlid, initialState⟩ := by
  obtain ⟨rows, hrows, hcount, -⟩ := h.snapshots
  rw [List.eq_nil_of_length_eq_zero hcount] at hrows
  simp [SQLiteStorage.getSnapshotBeforeStateChange, hrows]

/-- A restart on a database without later snapshots applies every logged state
change once to the initial state. -/
theorem Logs.restart (h : Logs f initialState changes 0 wal)
    (hinc : changes.Pairwise fun a b => a.1 < b.1) (offered : σ) :
    initializeWal wal.storage offered f = .ok ⟨wal.state, wal.storage, none⟩ := by
  have hall : wal.storage.stateChanges.filter
      (fun row => lowStatechangeUlid ≤ row.1 ∧ row.1 ≤ highStatechangeUlid) = changes := by
    rw [h.stored]
    exact filter_all changes
  rw [initializeWal_of_snapshot (h.snapshot_of_none _), replayStateChanges_eq _ _ _ (h.stored ▸ hinc) hall,
    h.state]

theorem Logs.restoreState {before after : List (ULID × χ)} {id : ULID} {sc : χ}
    (h : Logs f initialState (before ++ (id, sc) :: after) 0 wal)
    (hinc : (before ++ (id, sc) :: after).Pairwise fun a b => a.1 < b.1) :
    restoreState f wal.storage id = .ok (some (replayed f initialState (before ++ [(id, sc)]))) := by
  have hle : lowStatechangeUlid ≤ id := Fin.zero_le _
  have hreplay := replayStateChanges_eq f initialState ⟨lowStatechangeUlid, id⟩ (h.stored ▸ hinc)
    (h.stored ▸ filter_up_to hinc)
  simp [Storage.restoreState, h.snapshot_of_none, mkRange, check, hle, hreplay, bind, Except.bind,
    pure, Except.pure]

/-- A restart on a database with a later snapshot starts from the state that
contains the snapshot's own state change and applies that change once more. -/
theorem Logs.restart_after_snapshot (h : Logs f initialState changes (count + 1) wal)
    (hinc : changes.Pairwise fun a b => a.1 < b.1) (offered : σ) :
    ∃ before id sc after, changes = before ++ (id, sc) :: after ∧
      initializeWal wal.storage offered f = .ok
        ⟨replayed f initialState (before ++ (id, sc) :: (id, sc) :: after), wal.storage, none⟩ := by
  obtain ⟨rows, hrows, hcount, hof⟩ := h.snapshots
  have hne : rows ≠ [] := by
    intro hnil
    rw [hnil] at hcount
    cases hcount
  obtain ⟨earlier, last, hlast⟩ := List.eq_nil_or_concat rows |>.resolve_left hne
  obtain ⟨before, id, sc, after, rfl, hid, hdata⟩ := hof last (by simp [hlast])
  have hfound : wal.storage.getSnapshotBeforeStateChange highStatechangeUlid =
      some ⟨last.statechangeQty, id, replayed f initialState (before ++ [(id, sc)])⟩ := by
    have hle : id ≤ highStatechangeUlid := Fin.le_last _
    simp [SQLiteStorage.getSnapshotBeforeStateChange, hrows, hlast, hid, hdata, hle]
  have hrange : wal.storage.stateChanges.filter
      (fun row => id ≤ row.1 ∧ row.1 ≤ highStatechangeUlid) = (id, sc) :: after := by
    rw [h.stored]
    exact filter_from hinc
  refine ⟨before, id, sc, after, rfl, ?_⟩
  rw [initializeWal_of_snapshot hfound, replayStateChanges_eq _ _ _ (h.stored ▸ hinc) hrange,
    ← replayed_append]
  simp

end Restart

/-- A transition function that counts the state changes it is handed. -/
def counting (χ : Type) : StateTransition Nat χ := fun s _ => .inPlace (s + 1)

theorem replayed_counting (s : Nat) (changes : List (ULID × χ)) :
    replayed (counting χ) s changes = s + changes.length := by
  induction changes generalizing s with
  | nil => rfl
  | cons sc rest ih =>
    have hstep : replayed (counting χ) s (sc :: rest) = replayed (counting χ) (s + 1) rest := rfl
    rw [hstep, ih, List.length_cons]
    omega

/-- Recovery equals the live log, for every transition function that works in
place and every initial state, exactly for the histories without a snapshot. -/
theorem recovers_iff_no_snapshot (h : History χ) :
    (∀ (σ : Type) (f : StateTransition σ χ) (initialState : σ), InPlace f →
      Recovers f initialState h.ops) ↔ ∀ op ∈ h.ops, op.isSnapshot = false := by
  constructor
  · intro hall
    obtain ⟨wal, hlive, hrestart, -⟩ := hall Nat (counting χ) 0 fun _ _ => rfl
    have hlogs := live_logs (fun _ _ => rfl) h.ops hlive
    obtain ⟨restarted, hrun, hstate⟩ := hrestart 0
    cases hcount : h.ops.countP WalOp.isSnapshot with
    | zero =>
      intro op hop
      have := List.countP_eq_zero.mp hcount op hop
      simpa using this
    | succ count =>
      rw [hcount] at hlogs
      obtain ⟨before, id, change, after, hsplit, hagain⟩ := hlogs.restart_after_snapshot h.increasing 0
      rw [hrun] at hagain
      cases hagain
      have hboth := hstate.symm.trans rfl
      rw [hlogs.state, hsplit, replayed_counting, replayed_counting] at hboth
      simp only [List.length_append, List.length_cons] at hboth
      omega
  · intro hnone σ f initialState hf
    obtain ⟨wal, hlive⟩ := live_of_no_snapshot f initialState hnone
    have hlogs := live_logs hf h.ops hlive
    rw [List.countP_eq_zero.mpr (fun op hop => by simp [hnone op hop])] at hlogs
    refine ⟨wal, hlive, fun offered => ⟨_, hlogs.restart h.increasing offered, rfl⟩, ?_⟩
    intro before dispatched id change rest after hops
    have hinc := h.increasing
    have hsplit : logged h.ops =
        (logged before ++ dispatched) ++ (id, change) :: (rest ++ logged after) := by
      simp [hops, logged, WalOp.stateChanges]
    rw [hsplit] at hlogs hinc
    have hbefore : ∀ op ∈ before ++ [.batch (dispatched ++ [(id, change)])],
        WalOp.isSnapshot op = false := by
      intro op hop
      rcases List.mem_append.mp hop with hop | hop
      · exact hnone op (by simp [hops, hop])
      · rw [List.mem_singleton.mp hop]
        rfl
    obtain ⟨there, hthere⟩ := live_of_no_snapshot f initialState hbefore
    refine ⟨there, hthere, ?_⟩
    rw [hlogs.restoreState hinc, (live_logs hf _ hthere).state, logged_append, List.append_assoc]
    rfl

/-- One batch, a snapshot and a restart, with a transition function that counts:
the live log has counted one state change and the restarted one two. -/
theorem restart_after_snapshot_counts_twice :
    ((live (counting Unit) 0 [.batch [(1, ())], .snapshot 1]).toOption.map fun wal =>
      (wal.state, (initializeWal wal.storage 0 (counting Unit)).toOption.map WriteAheadLog.state)) =
    some (1, some 2) := by
  decide +kernel

/-- A function that counts without modifying its argument has counted nothing. -/
theorem pure_counting_counts_nothing : ∃ wal : WriteAheadLog Nat Unit,
    live (fun s _ => .fresh s (s + 1)) 0 [.batch [(1, ()), (2, ())], .snapshot 2] = .ok wal ∧
      wal.state = 0 ∧ wal.storage.stateChanges = [(1, ()), (2, ())] := by
  refine ⟨_, rfl, ?_⟩
  exact fresh_transitions_never_advance (fun s _ => ⟨s + 1, rfl⟩)
    [.batch [(1, ()), (2, ())], .snapshot 2] rfl

end Raiden.Storage
