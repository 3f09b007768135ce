import Mathlib.Data.Fin.Basic
import Mathlib.Data.List.Sort
import Raiden.Types

/-! # The write-ahead log

The two tables of the database that recovery reads, the live log that writes
them, and recovery itself. Serialised values are the values themselves, and
every state change carries the identifier that the ULID factory draws for it,
so the rows of both tables stand in the order of their identifiers. -/
namespace Raiden.Storage

abbrev ULID := Fin (2 ^ 128)

instance ulid_neZero : NeZero (2 ^ 128) := ⟨by decide⟩

def lowStatechangeUlid : ULID := 0
def highStatechangeUlid : ULID := Fin.last (2 ^ 128 - 1)

variable {σ χ : Type}

/-- What a call of the transition function does to the objects: either it
modifies the state object it was handed and returns that object, or it leaves
`argument` in that object and returns another one. -/
inductive Outcome (σ : Type) where
  | inPlace (state : σ)
  | fresh (argument result : σ)

def Outcome.newState : Outcome σ → σ
  | .inPlace state => state
  | .fresh _ result => result

abbrev StateTransition (σ χ : Type) := σ → χ → Outcome σ

structure SnapshotRow (σ : Type) where
  statechangeId : Option ULID
  statechangeQty : Nat
  data : σ

structure SnapshotRecord (σ : Type) where
  stateChangeQty : Nat
  stateChangeIdentifier : ULID
  data : σ

structure SQLiteStorage (σ χ : Type) where
  stateChanges : List (ULID × χ) := []
  stateSnapshot : List (SnapshotRow σ) := []

/-- An inclusive range of identifiers. -/
structure Range where
  first : ULID
  last : ULID
deriving DecidableEq

def mkRange (first last : ULID) : Fallible Range := do
  check (first ≤ last) (.valueError "last must be larger or equal to first")
  return ⟨first, last⟩

section

variable (storage : SQLiteStorage σ χ)

def SQLiteStorage.writeFirstStateSnapshot (snapshot : σ) :
    Fallible (SQLiteStorage σ χ) := do
  check (storage.stateSnapshot.isEmpty = true)
    (.runtimeError "write_first_state_snapshot can only be used for an unitialized node.")
  return { storage with stateSnapshot := [⟨none, 0, snapshot⟩] }

def SQLiteStorage.writeStateSnapshot (snapshot : σ)
    (statechangeId : ULID) (statechangeQty : Nat) : SQLiteStorage σ χ :=
  { storage with
    stateSnapshot := storage.stateSnapshot ++ [⟨some statechangeId, statechangeQty, snapshot⟩] }

def SQLiteStorage.writeStateChange (stateChangeId : ULID) (stateChange : χ) : SQLiteStorage σ χ :=
  { storage with stateChanges := storage.stateChanges ++ [(stateChangeId, stateChange)] }

/-- The newest snapshot whose last applied state change is not after the given
one; the snapshot of the initial state has no state change. -/
def SQLiteStorage.getSnapshotBeforeStateChange
    (stateChangeIdentifier : ULID) : Option (SnapshotRecord σ) :=
  (storage.stateSnapshot.reverse.find? fun row =>
      row.statechangeId.all (decide <| · ≤ stateChangeIdentifier)).map fun row =>
    ⟨row.statechangeQty, row.statechangeId.getD lowStatechangeUlid, row.data⟩

def SQLiteStorage.getStatechangesByRange (dbRange : Range) : List χ :=
  ((storage.stateChanges.filter fun row => dbRange.first ≤ row.1 ∧ row.1 ≤ dbRange.last).mergeSort
    fun a b => a.1 ≤ b.1).map Prod.snd

/-- The restored state, the identifier to replay from, the number of state
changes in the snapshot, and the storage. -/
def restoreOrInitSnapshot (initialState : σ) : Fallible (σ × ULID × Nat × SQLiteStorage σ χ) :=
  match storage.getSnapshotBeforeStateChange highStatechangeUlid with
  | some snapshot =>
    .ok (snapshot.data, snapshot.stateChangeIdentifier, snapshot.stateChangeQty, storage)
  | none => do
    let storage ← storage.writeFirstStateSnapshot initialState
    return (initialState, lowStatechangeUlid, 0, storage)

end

def replayStateChanges (state : σ) (stateChangeRange : Range) (storage : SQLiteStorage σ χ)
    (transitionFunction : StateTransition σ χ) : σ × Nat :=
  let unapplied := storage.getStatechangesByRange stateChangeRange
  (unapplied.foldl (fun s change => (transitionFunction s change).newState) state, unapplied.length)

def restoreState (transitionFunction : StateTransition σ χ) (storage : SQLiteStorage σ χ)
    (stateChangeIdentifier : ULID) : Fallible (Option σ) :=
  match storage.getSnapshotBeforeStateChange stateChangeIdentifier with
  | none => .ok none
  | some snapshot => do
    let range ← mkRange snapshot.stateChangeIdentifier stateChangeIdentifier
    return some (replayStateChanges snapshot.data range storage transitionFunction).1

structure SavedState (σ : Type) where
  stateChangeId : ULID
  state : σ

/-- The live log; `savedState` is an attribute that does not exist before the
first state change of the process. -/
structure WriteAheadLog (σ χ : Type) where
  state : σ
  storage : SQLiteStorage σ χ
  savedState : Option (SavedState σ) := none

/-- The dispatcher of one batch. `cloned` is the content of the copy the batch
started from, and `aliased` says whether `state` still is that object. -/
structure AtomicStateChangeDispatcher (σ χ : Type) where
  cloned : σ
  state : σ
  aliased : Bool
  storage : SQLiteStorage σ χ
  lastStateChangeId : Option ULID

def AtomicStateChangeDispatcher.dispatch (stateTransition : StateTransition σ χ)
    (d : AtomicStateChangeDispatcher σ χ) (stateChange : ULID × χ) : AtomicStateChangeDispatcher σ χ :=
  let written := { d with
    storage := d.storage.writeStateChange stateChange.1 stateChange.2
    lastStateChangeId := some stateChange.1 }
  match stateTransition d.state stateChange.2 with
  | .inPlace state => { written with state, cloned := if d.aliased then state else d.cloned }
  | .fresh argument result =>
    { written with
      state := result, aliased := false, cloned := if d.aliased then argument else d.cloned }

/-- One use of the context manager whose body dispatches `stateChanges`; the
log keeps the copy, not the state of the dispatcher. -/
def WriteAheadLog.processStateChangeAtomically (stateTransition : StateTransition σ χ)
    (wal : WriteAheadLog σ χ) (stateChanges : List (ULID × χ)) : WriteAheadLog σ χ :=
  let dispatcher := stateChanges.foldl (AtomicStateChangeDispatcher.dispatch stateTransition)
    ⟨wal.state, wal.state, true, wal.storage, none⟩
  { state := dispatcher.cloned
    storage := dispatcher.storage
    savedState := match dispatcher.lastStateChangeId with
      | some id => some ⟨id, dispatcher.cloned⟩
      | none => wal.savedState }

def WriteAheadLog.snapshot (wal : WriteAheadLog σ χ) (statechangeQty : Nat) :
    Fallible (WriteAheadLog σ χ) :=
  match wal.savedState with
  | none => .error .attributeError
  | some saved =>
    .ok { wal with
      storage := wal.storage.writeStateSnapshot wal.state saved.stateChangeId statechangeQty }

/-- The start of a node: restore the latest snapshot, replay what was stored
from the returned identifier on, and open a log on the result. -/
def initializeWal (storage : SQLiteStorage σ χ) (initialState : σ)
    (stateTransition : StateTransition σ χ) : Fallible (WriteAheadLog σ χ) := do
  let (snapshot, start, _, storage) ← restoreOrInitSnapshot storage initialState
  let range ← mkRange start highStatechangeUlid
  let (state, _) := replayStateChanges snapshot range storage stateTransition
  return ⟨state, storage, none⟩

end Raiden.Storage
