import Mathlib.Order.Monotone.Basic
import Mathlib.Data.List.Induction
import Raiden.Storage.Recovery

/-! # Atomic batches of the write-ahead log

One use of `process_state_change_atomically`, with the objects in memory and the
transaction of the database made explicit: the body may raise at any point,
while a transition has already modified the object it was handed and while some
rows are already written. -/
namespace Raiden.Storage

variable {σ χ ε : Type}

/-! ## Memory, tables and transactions -/

/-- The factory of the identifiers of one table; it continues where it stopped. -/
structure UlidFactory where
  ids : Nat → Nat
  increasing : StrictMono ids
  drawn : Nat

def UlidFactory.advance (f : UlidFactory) (n : Nat) : UlidFactory := { f with drawn := f.drawn + n }

def UlidFactory.new (f : UlidFactory) : Nat × UlidFactory := (f.ids f.drawn, f.advance 1)

/-- Rows with the next identifiers. -/
def UlidFactory.number {α : Type} (f : UlidFactory) : List α → List (Nat × α)
  | [] => []
  | a :: rest => (f.ids f.drawn, a) :: (f.advance 1).number rest

structure Tables (χ ε : Type) where
  stateChanges : List (Nat × χ)
  stateEvents : List (Nat × Nat × ε)

/-- The state objects, the database with the tables as they were at the BEGIN of an
open transaction, and the factories. -/
structure Process (σ χ ε : Type) where
  heap : Nat → σ
  allocated : Nat
  tables : Tables χ ε
  begun : Option (Tables χ ε)
  stateChangeUlids : UlidFactory
  eventUlids : UlidFactory

/-- A transition function that modifies the object it is handed, also when it raises,
and returns that object. -/
abbrev MutatingTransition (σ χ ε : Type) := σ → χ → σ × Except Raised (List ε)

/-- Where a dispatch raises after its transition returned: in the checks of the result,
after the row of the state change, or after some of the rows of the events. -/
inductive Fault where
  | typecheck
  | stateChange
  | events (written : Nat)
deriving DecidableEq

def Process.store (p : Process σ χ ε) (object : Nat) (state : σ) : Process σ χ ε :=
  { p with heap := Function.update p.heap object state }

/-- A copy of an object that shares nothing with it. -/
def Process.cloneState (p : Process σ χ ε) (object : Nat) : Nat × Process σ χ ε :=
  (p.allocated, { p with
    heap := Function.update p.heap p.allocated (p.heap object)
    allocated := p.allocated + 1 })

def Process.writeStateChange (p : Process σ χ ε) (stateChange : χ) : Nat × Process σ χ ε :=
  let (id, factory) := p.stateChangeUlids.new
  (id, { p with
    tables := { p.tables with stateChanges := p.tables.stateChanges ++ [(id, stateChange)] }
    stateChangeUlids := factory })

def Process.writeEvent (stateChangeId : Nat) (p : Process σ χ ε) (event : ε) : Process σ χ ε :=
  let (id, factory) := p.eventUlids.new
  { p with
    tables := { p.tables with stateEvents := p.tables.stateEvents ++ [(id, stateChangeId, event)] }
    eventUlids := factory }

def Process.writeEvents (p : Process σ χ ε) (stateChangeId : Nat) (events : List ε) : Process σ χ ε :=
  events.foldl (Process.writeEvent stateChangeId) p

def raisedByFault : Raised := .runtimeError "raised while a state change is written"

/-! ## The batch -/

structure Dispatcher (σ χ ε : Type) where
  state : Nat
  lastStateChangeId : Option Nat
  process : Process σ χ ε

section

variable (stateTransition : MutatingTransition σ χ ε)

/-- `dispatch` of the dispatcher: apply the state change, then write it and its events. -/
def Dispatcher.dispatch (d : Dispatcher σ χ ε) (stateChange : χ)
    (fault : Option Fault) : Except Raised (List ε) × Dispatcher σ χ ε :=
  let iteration := stateTransition (d.process.heap d.state) stateChange
  let d := { d with process := d.process.store d.state iteration.1 }
  match iteration.2 with
  | .error raised => (.error raised, d)
  | .ok events =>
    if fault = some .typecheck then (.error raisedByFault, d)
    else
      let (stateChangeId, process) := d.process.writeStateChange stateChange
      match fault with
      | none =>
        (.ok events, { d with
          process := process.writeEvents stateChangeId events
          lastStateChangeId := some stateChangeId })
      | some (.events written) =>
        (.error raisedByFault, { d with process := process.writeEvents stateChangeId (events.take written) })
      | some _ => (.error raisedByFault, { d with process })

/-- What the block around the dispatches does next. -/
inductive BodyAction (χ : Type) where
  | dispatch (stateChange : χ) (fault : Option Fault)
  | raise (raised : Raised)

def runBody (stateTransition : MutatingTransition σ χ ε) :
    List (BodyAction χ) → Dispatcher σ χ ε → Except Raised Unit × Dispatcher σ χ ε
  | [], d => (.ok (), d)
  | .raise raised :: _, d => (.error raised, d)
  | .dispatch stateChange fault :: rest, d =>
    match d.dispatch stateTransition stateChange fault with
    | (.error raised, d) => (.error raised, d)
    | (.ok _, d) => runBody stateTransition rest d

/-- The end of the transaction: COMMIT, or ROLLBACK to the tables at BEGIN. -/
def endTransaction : Except Raised Unit × Dispatcher σ χ ε → Except Raised Unit × Dispatcher σ χ ε
  | (.ok (), d) => (.ok (), { d with process := { d.process with begun := none } })
  | (.error raised, d) =>
    (.error raised, { d with
      process := { d.process with tables := d.process.begun.getD d.process.tables, begun := none } })

def transaction (block : Dispatcher σ χ ε → Except Raised Unit × Dispatcher σ χ ε) (d : Dispatcher σ χ ε) :
    Except Raised Unit × Dispatcher σ χ ε :=
  endTransaction (block { d with process := { d.process with begun := some d.process.tables } })

/-- The log: the object that is its current state, and the saved state. -/
structure Log where
  state : Nat
  savedState : Option (Nat × Nat)
deriving DecidableEq

/-- The saved state changes only if a state change was dispatched. -/
def Log.assign (wal : Log) (clonedState : Nat) (lastStateChangeId : Option Nat) : Log where
  state := clonedState
  savedState := match lastStateChangeId with
    | some id => some (id, clonedState)
    | none => wal.savedState

/-- The assignments after the transaction, which a raised exception skips. -/
def Log.update (wal : Log) (clonedState : Nat) :
    Except Raised Unit × Dispatcher σ χ ε → Except Raised Unit × Log × Process σ χ ε
  | (.error raised, d) => (.error raised, wal, d.process)
  | (.ok (), d) => (.ok (), wal.assign clonedState d.lastStateChangeId, d.process)

def Log.processStateChangeAtomically (wal : Log)
    (body : List (BodyAction χ)) (p : Process σ χ ε) : Except Raised Unit × Log × Process σ χ ε :=
  let (clonedState, p) := p.cloneState wal.state
  wal.update clonedState (transaction (runBody stateTransition body) ⟨clonedState, none, p⟩)

/-! ## What a batch is supposed to do -/

def applied (state : σ) (stateChanges : List χ) : σ :=
  stateChanges.foldl (fun s change => (stateTransition s change).1) state

def eventsOf (stateTransition : MutatingTransition σ χ ε) : σ → List χ → List (List ε)
  | _, [] => []
  | state, change :: rest =>
    ((stateTransition state change).2.toOption.getD []) ::
      eventsOf stateTransition (stateTransition state change).1 rest

def stateChangesOf (body : List (BodyAction χ)) : List χ :=
  body.filterMap fun
    | .dispatch stateChange _ => some stateChange
    | .raise _ => none

def Raises (stateTransition : MutatingTransition σ χ ε) : σ → List (BodyAction χ) → Prop
  | _, [] => False
  | _, .raise _ :: _ => True
  | state, .dispatch stateChange fault :: rest =>
    fault ≠ none ∨ (∃ raised, (stateTransition state stateChange).2 = .error raised) ∨
      Raises stateTransition (stateTransition state stateChange).1 rest

def sourced (rows : List (Nat × χ)) (events : List (List ε)) : List (Nat × ε) :=
  (rows.zip events).flatMap fun entry => entry.2.map (entry.1.1, ·)

def Process.newEvents (p : Process σ χ ε) (state : σ) (stateChanges : List χ) : List (Nat × ε) :=
  sourced (p.stateChangeUlids.number stateChanges) (eventsOf stateTransition state stateChanges)

def Process.grown (p : Process σ χ ε) (state : σ) (stateChanges : List χ) : Tables χ ε :=
  ⟨p.tables.stateChanges ++ p.stateChangeUlids.number stateChanges,
    p.tables.stateEvents ++ p.eventUlids.number (p.newEvents stateTransition state stateChanges)⟩

def Process.batched (p : Process σ χ ε) (object : Nat) (stateChanges : List χ) : Process σ χ ε :=
  { p with
    heap := Function.update p.heap object (applied stateTransition (p.heap object) stateChanges)
    tables := p.grown stateTransition (p.heap object) stateChanges
    stateChangeUlids := p.stateChangeUlids.advance stateChanges.length
    eventUlids := p.eventUlids.advance (p.newEvents stateTransition (p.heap object) stateChanges).length }

end

section Number

variable {α : Type} {f : UlidFactory} {rows : List (Nat × α)}

theorem UlidFactory.advance_advance (a b : Nat) : (f.advance a).advance b = f.advance (a + b) := by
  simp only [advance, Nat.add_assoc]

theorem UlidFactory.number_append (a b : List α) :
    f.number (a ++ b) = f.number a ++ (f.advance a.length).number b := by
  induction a generalizing f with
  | nil => rfl
  | cons x rest ih =>
    rw [List.cons_append, number, ih, advance_advance, number, List.cons_append, List.length_cons, Nat.add_comm]

theorem UlidFactory.mem_number {data : List α} {row : Nat × α} (h : row ∈ f.number data) :
    ∃ i, f.drawn ≤ i ∧ i < f.drawn + data.length ∧ row.1 = f.ids i := by
  induction data generalizing f with
  | nil => cases h
  | cons a rest ih =>
    rcases List.mem_cons.mp h with rfl | h
    · exact ⟨f.drawn, Nat.le_refl _, by rw [List.length_cons]; omega, rfl⟩
    · obtain ⟨i, hle, hlt, hid⟩ := ih h
      simp only [advance] at hle hlt
      exact ⟨i, by omega, by rw [List.length_cons]; omega, hid⟩

/-- The rows stand in the order of their identifiers. -/
theorem UlidFactory.number_increasing (f : UlidFactory) (data : List α) :
    (f.number data).Pairwise fun a b => a.1 < b.1 := by
  induction data generalizing f with
  | nil => exact .nil
  | cons a rest ih =>
    refine List.pairwise_cons.mpr ⟨fun row hrow => ?_, ih _⟩
    obtain ⟨i, hle, -, hid⟩ := mem_number hrow
    rw [hid]
    exact f.increasing (Nat.lt_of_succ_le hle)

/-- The rows stand in the order of their identifiers, which the factory has drawn. -/
structure Ordered (f : UlidFactory) (rows : List (Nat × α)) : Prop where
  increasing : rows.Pairwise fun a b => a.1 < b.1
  drawn : ∀ row ∈ rows, ∃ i, i < f.drawn ∧ row.1 = f.ids i

theorem Ordered.advance (h : Ordered f rows) (n : Nat) : Ordered (f.advance n) rows := by
  refine ⟨h.increasing, fun row hrow => ?_⟩
  obtain ⟨i, hlt, hid⟩ := h.drawn row hrow
  exact ⟨i, Nat.lt_add_right n hlt, hid⟩

theorem Ordered.append_number (h : Ordered f rows) (data : List α) :
    Ordered (f.advance data.length) (rows ++ f.number data) := by
  refine ⟨List.pairwise_append.mpr ⟨h.increasing, f.number_increasing data, fun a ha b hb => ?_⟩,
    fun row hrow => ?_⟩
  · obtain ⟨i, hlt, hid⟩ := h.drawn a ha
    obtain ⟨j, hle, -, hjd⟩ := UlidFactory.mem_number hb
    rw [hid, hjd]
    exact f.increasing (Nat.lt_of_lt_of_le hlt hle)
  · rcases List.mem_append.mp hrow with hold | hnew
    · exact (h.advance data.length).drawn row hold
    · obtain ⟨i, -, hlt, hid⟩ := UlidFactory.mem_number hnew
      exact ⟨i, hlt, hid⟩

end Number

section Write

variable {stateTransition : MutatingTransition σ χ ε} {stateChange : χ} {events : List ε}

theorem Process.writeEvents_eq (p : Process σ χ ε) (stateChangeId : Nat) (events : List ε) :
    p.writeEvents stateChangeId events =
      { p with
        tables := { p.tables with
          stateEvents := p.tables.stateEvents ++ p.eventUlids.number (events.map (stateChangeId, ·)) }
        eventUlids := p.eventUlids.advance events.length } := by
  induction events generalizing p with
  | nil => simp [Process.writeEvents, UlidFactory.number, UlidFactory.advance]
  | cons event rest ih =>
    have hstep : p.writeEvents stateChangeId (event :: rest) =
        (Process.writeEvent stateChangeId p event).writeEvents stateChangeId rest := rfl
    rw [hstep, ih]
    simp only [Process.writeEvent, UlidFactory.new, UlidFactory.advance_advance, List.map_cons,
      UlidFactory.number, List.length_cons, List.append_assoc, List.singleton_append, Nat.add_comm]

section

variable (p : Process σ χ ε) (object : Nat) (state : σ) (stateChange : χ) (events : List ε)

def Process.dispatched : Process σ χ ε :=
  ((p.store object state).writeStateChange stateChange).2.writeEvents
    (p.stateChangeUlids.ids p.stateChangeUlids.drawn) events

theorem Process.dispatched_heap : (p.dispatched object state stateChange events).heap object = state := by
  rw [Process.dispatched, Process.writeEvents_eq]
  exact Function.update_self object state p.heap

theorem Process.dispatched_ulids :
    (p.dispatched object state stateChange events).stateChangeUlids = p.stateChangeUlids.advance 1 := by
  rw [Process.dispatched, Process.writeEvents_eq]
  rfl

end

theorem Dispatcher.dispatch_ok {d d' : Dispatcher σ χ ε} {fault : Option Fault}
    (h : d.dispatch stateTransition stateChange fault = (.ok events, d')) :
    fault = none ∧ (stateTransition (d.process.heap d.state) stateChange).2 = .ok events ∧
      d' = {
        state := d.state
        lastStateChangeId := some (d.process.stateChangeUlids.ids d.process.stateChangeUlids.drawn)
        process := d.process.dispatched d.state
          (stateTransition (d.process.heap d.state) stateChange).1 stateChange events } := by
  unfold Dispatcher.dispatch at h
  dsimp only at h
  split at h
  · cases h
  · next result hresult =>
    split at h
    · cases h
    · split at h
      · cases h
        exact ⟨rfl, hresult, rfl⟩
      · cases h
      · cases h

/-- A dispatch, whether it returns or raises, keeps all but its own object, the tables and
the factories. -/
structure Touched (d d' : Dispatcher σ χ ε) : Prop where
  state : d'.state = d.state
  heap : ∀ object, object ≠ d.state → d'.process.heap object = d.process.heap object
  allocated : d'.process.allocated = d.process.allocated
  begun : d'.process.begun = d.process.begun
  stateChangeUlids : ∃ n, d'.process.stateChangeUlids = d.process.stateChangeUlids.advance n
  eventUlids : ∃ n, d'.process.eventUlids = d.process.eventUlids.advance n

theorem Touched.refl (d : Dispatcher σ χ ε) : Touched d d :=
  ⟨rfl, fun _ _ => rfl, rfl, rfl, ⟨0, rfl⟩, ⟨0, rfl⟩⟩

theorem Touched.trans {d₁ d₂ d₃ : Dispatcher σ χ ε} (h : Touched d₁ d₂) (h' : Touched d₂ d₃) :
    Touched d₁ d₃ where
  state := h'.state.trans h.state
  heap object hne := (h'.heap object (h.state ▸ hne)).trans (h.heap object hne)
  allocated := h'.allocated.trans h.allocated
  begun := h'.begun.trans h.begun
  stateChangeUlids := by
    obtain ⟨n, hn⟩ := h.stateChangeUlids
    obtain ⟨m, hm⟩ := h'.stateChangeUlids
    exact ⟨n + m, by rw [hm, hn, UlidFactory.advance_advance]⟩
  eventUlids := by
    obtain ⟨n, hn⟩ := h.eventUlids
    obtain ⟨m, hm⟩ := h'.eventUlids
    exact ⟨n + m, by rw [hm, hn, UlidFactory.advance_advance]⟩

variable (stateTransition) in
theorem Dispatcher.dispatch_touched (d : Dispatcher σ χ ε) (stateChange : χ) (fault : Option Fault) :
    Touched d (d.dispatch stateTransition stateChange fault).2 := by
  have hheap : ∀ state object, object ≠ d.state →
      Function.update d.process.heap d.state state object = d.process.heap object :=
    fun state object hne => Function.update_of_ne hne _ _
  unfold Dispatcher.dispatch
  dsimp only
  split
  · exact ⟨rfl, hheap _, rfl, rfl, ⟨0, rfl⟩, ⟨0, rfl⟩⟩
  · split
    · exact ⟨rfl, hheap _, rfl, rfl, ⟨0, rfl⟩, ⟨0, rfl⟩⟩
    · split
      · simp only [Process.writeEvents_eq]
        exact ⟨rfl, hheap _, rfl, rfl, ⟨1, rfl⟩, ⟨_, rfl⟩⟩
      · simp only [Process.writeEvents_eq]
        exact ⟨rfl, hheap _, rfl, rfl, ⟨1, rfl⟩, ⟨_, rfl⟩⟩
      · exact ⟨rfl, hheap _, rfl, rfl, ⟨1, rfl⟩, ⟨0, rfl⟩⟩

variable (stateTransition) in
theorem runBody_touched (body : List (BodyAction χ)) (d : Dispatcher σ χ ε) :
    Touched d (runBody stateTransition body d).2 := by
  induction body generalizing d with
  | nil => exact .refl d
  | cons action rest ih =>
    cases action with
    | raise raised => exact .refl d
    | dispatch stateChange fault =>
      have htouched := d.dispatch_touched stateTransition stateChange fault
      unfold runBody
      split
      · next raised d' heq =>
        rw [heq] at htouched
        exact htouched
      · next events d' heq =>
        rw [heq] at htouched
        exact htouched.trans (ih d')

theorem Process.newEvents_cons (p : Process σ χ ε) (object : Nat) {state : σ}
    (h : (stateTransition state stateChange).2 = .ok events) (rest : List χ) :
    p.newEvents stateTransition state (stateChange :: rest) =
      events.map (p.stateChangeUlids.ids p.stateChangeUlids.drawn, ·) ++
        (p.dispatched object (stateTransition state stateChange).1 stateChange events).newEvents stateTransition
          (stateTransition state stateChange).1 rest := by
  simp only [Process.newEvents, UlidFactory.number, eventsOf, h, sourced, List.zip_cons_cons, List.flatMap_cons,
    Except.toOption, Option.getD_some, Process.dispatched, Process.writeEvents_eq, Process.writeStateChange,
    Process.store, UlidFactory.new]

theorem Process.batched_cons {p : Process σ χ ε} {object : Nat}
    (h : (stateTransition (p.heap object) stateChange).2 = .ok events) (rest : List χ) :
    p.batched stateTransition object (stateChange :: rest) =
      (p.dispatched object (stateTransition (p.heap object) stateChange).1 stateChange events).batched
        stateTransition object rest := by
  have hnew := p.newEvents_cons object h rest
  simp only [Process.batched, Process.grown, hnew, Process.dispatched_heap]
  simp only [Process.dispatched, Process.writeEvents_eq, Process.writeStateChange, Process.store,
    UlidFactory.new, UlidFactory.number, UlidFactory.number_append, UlidFactory.advance_advance, List.length_map,
    List.length_append, List.length_cons, List.append_assoc, List.singleton_append, Nat.add_comm,
    Function.update_idem]
  rfl

theorem runBody_cons (stateChange : χ) (fault : Option Fault) (rest : List (BodyAction χ))
    (d : Dispatcher σ χ ε) :
    runBody stateTransition (.dispatch stateChange fault :: rest) d =
      match d.dispatch stateTransition stateChange fault with
      | (.error raised, d) => (.error raised, d)
      | (.ok _, d) => runBody stateTransition rest d := rfl

/-- What a block that returns leaves. -/
theorem runBody_ok {body : List (BodyAction χ)} {d d' : Dispatcher σ χ ε}
    (h : runBody stateTransition body d = (.ok (), d')) :
    ¬Raises stateTransition (d.process.heap d.state) body ∧
      d'.process = d.process.batched stateTransition d.state (stateChangesOf body) ∧
      d'.lastStateChangeId = ((d.process.stateChangeUlids.number (stateChangesOf body)).getLast?.map
        Prod.fst).or d.lastStateChangeId := by
  induction body generalizing d with
  | nil =>
    cases h
    refine ⟨id, ?_, rfl⟩
    simp [Process.batched, Process.grown, Process.newEvents, stateChangesOf, UlidFactory.number, sourced,
      UlidFactory.advance, applied]
  | cons action rest ih =>
    cases action with
    | raise raised => cases h
    | dispatch stateChange fault =>
      rw [runBody_cons] at h
      split at h
      · cases h
      · next events d₁ hdispatch =>
        obtain ⟨rfl, hevents, rfl⟩ := Dispatcher.dispatch_ok hdispatch
        obtain ⟨hquiet, hbatched, hlast⟩ := ih h
        dsimp only at hquiet hbatched hlast
        rw [Process.dispatched_heap] at hquiet
        rw [Process.dispatched_ulids] at hlast
        refine ⟨?_, hbatched.trans (Process.batched_cons hevents _).symm, hlast.trans ?_⟩
        · rintro (hfault | ⟨raised, hraised⟩ | hrest)
          · exact hfault rfl
          · exact absurd (hraised.symm.trans hevents) nofun
          · exact hquiet hrest
        · change _ = Option.or (Option.map _ (List.getLast? (_ :: UlidFactory.number _ (stateChangesOf rest)))) _
          rw [List.getLast?_cons]
          cases List.getLast? _ <;> rfl

theorem runBody_error {body : List (BodyAction χ)} {d d' : Dispatcher σ χ ε} {raised : Raised}
    (h : runBody stateTransition body d = (.error raised, d')) :
    Raises stateTransition (d.process.heap d.state) body := by
  induction body generalizing d with
  | nil => cases h
  | cons action rest ih =>
    cases action with
    | raise raised => trivial
    | dispatch stateChange fault =>
      rw [runBody_cons] at h
      split at h
      · next heq =>
        unfold Dispatcher.dispatch at heq
        dsimp only at heq
        split at heq
        · next raised hraised => exact .inr (.inl ⟨raised, hraised⟩)
        · split at heq
          · next hfault => exact .inl (by rw [hfault]; exact Option.some_ne_none _)
          · split at heq
            · cases heq
            · exact .inl (Option.some_ne_none _)
            · exact .inl (Option.some_ne_none _)
      · next events d₁ hdispatch =>
        obtain ⟨rfl, -, rfl⟩ := Dispatcher.dispatch_ok hdispatch
        have hrest := ih h
        dsimp only at hrest
        rw [Process.dispatched_heap] at hrest
        exact .inr (.inr hrest)

end Write

section Batch

variable {stateTransition : MutatingTransition σ χ ε} {body : List (BodyAction χ)}
  {d : Dispatcher σ χ ε} {p : Process σ χ ε} {wal : Log}

/-- Between two batches: the current state is an allocated object, no transaction is open,
and the rows stand in the order of the identifiers drawn for them. -/
structure Idle (wal : Log) (p : Process σ χ ε) : Prop where
  allocated : wal.state < p.allocated
  begun : p.begun = none
  stateChanges : Ordered p.stateChangeUlids p.tables.stateChanges
  stateEvents : Ordered p.eventUlids p.tables.stateEvents

/-- The process in which the block starts. -/
def Process.entered (p : Process σ χ ε) (wal : Log) : Dispatcher σ χ ε :=
  ⟨p.allocated, none, { (p.cloneState wal.state).2 with begun := some p.tables }⟩

theorem Process.entered_heap (p : Process σ χ ε) (wal : Log) :
    (p.entered wal).process.heap (p.entered wal).state = p.heap wal.state :=
  Function.update_self _ _ _

theorem processStateChangeAtomically_eq (wal : Log) (p : Process σ χ ε) (body : List (BodyAction χ)) :
    wal.processStateChangeAtomically stateTransition body p =
      wal.update p.allocated (endTransaction (runBody stateTransition body (p.entered wal))) := rfl

/-- A block that raises is rolled back, and the log keeps its object. -/
theorem batch_rolled_back {raised : Raised} (hidle : Idle wal p)
    (h : runBody stateTransition body (p.entered wal) = (.error raised, d)) :
    ∃ p', wal.processStateChangeAtomically stateTransition body p = (.error raised, wal, p') ∧ Idle wal p' ∧
      p'.heap wal.state = p.heap wal.state ∧ p'.tables = p.tables := by
  have htouched := runBody_touched stateTransition body (p.entered wal)
  rw [h] at htouched
  obtain ⟨-, hheap, hallocated, hbegun, ⟨n, hn⟩, ⟨m, hm⟩⟩ := htouched
  replace hbegun : d.process.begun = some p.tables := hbegun
  have hne : wal.state ≠ p.allocated := Nat.ne_of_lt hidle.allocated
  refine ⟨{ d.process with tables := p.tables, begun := none }, ?_, ⟨?_, rfl, ?_, ?_⟩, ?_, rfl⟩
  · rw [processStateChangeAtomically_eq, h]
    simp only [endTransaction, Log.update, hbegun, Option.getD_some]
  · rw [hallocated]
    exact Nat.lt_add_right 1 hidle.allocated
  · rw [hn]
    exact hidle.stateChanges.advance n
  · rw [hm]
    exact hidle.stateEvents.advance m
  · exact (hheap wal.state hne).trans (Function.update_of_ne hne _ _)

theorem batch_committed
    (hidle : Idle wal p) (h : runBody stateTransition body (p.entered wal) = (.ok (), d)) :
    ∃ wal' p', wal.processStateChangeAtomically stateTransition body p = (.ok (), wal', p') ∧ Idle wal' p' ∧
      p'.heap wal'.state = applied stateTransition (p.heap wal.state) (stateChangesOf body) ∧
      p'.tables = p.grown stateTransition (p.heap wal.state) (stateChangesOf body) ∧
      wal'.savedState = (((p.stateChangeUlids.number (stateChangesOf body)).getLast?.map
        fun row => (row.1, wal'.state)).or wal.savedState) := by
  obtain ⟨-, hbatched, hlast⟩ := runBody_ok h
  have hheap := p.entered_heap wal
  refine ⟨wal.assign p.allocated d.lastStateChangeId, { d.process with begun := none }, ?_,
    ⟨?_, rfl, ?_, ?_⟩, ?_, ?_, ?_⟩
  · rw [processStateChangeAtomically_eq, h]
    rfl
  · rw [hbatched]
    exact Nat.lt_succ_self _
  · rw [hbatched]
    exact hidle.stateChanges.append_number _
  · rw [hbatched]
    exact hidle.stateEvents.append_number _
  · rw [hbatched, ← hheap]
    exact Function.update_self _ _ _
  · rw [hbatched, ← hheap]
    rfl
  · rw [hlast]
    change Log.savedState (wal.assign _ ((Option.map _ (p.stateChangeUlids.number (stateChangesOf body)).getLast?).or
      none)) = _
    cases (p.stateChangeUlids.number (stateChangesOf body)).getLast? <;> rfl

/-- A batch that raises anywhere leaves the current state and the tables as they were.
Otherwise its state changes are applied in order, and the tables grew by exactly these
state changes and their events. Identifiers always stand in the order of the rows. -/
theorem batch_atomic {wal wal' : Log} {p p' : Process σ χ ε} {body : List (BodyAction χ)}
    {result : Except Raised Unit} (hidle : Idle wal p)
    (h : wal.processStateChangeAtomically stateTransition body p = (result, wal', p')) :
    Idle wal' p' ∧
    (Raises stateTransition (p.heap wal.state) body → (∃ raised, result = .error raised) ∧
      p'.heap wal'.state = p.heap wal.state ∧ p'.tables = p.tables) ∧
    (¬Raises stateTransition (p.heap wal.state) body → result = .ok () ∧
      p'.heap wal'.state = applied stateTransition (p.heap wal.state) (stateChangesOf body) ∧
      p'.tables = p.grown stateTransition (p.heap wal.state) (stateChangesOf body)) := by
  have hheap := p.entered_heap wal
  rcases hbody : runBody stateTransition body (p.entered wal) with ⟨raised | _, d⟩
  · have hraises := runBody_error hbody
    rw [hheap] at hraises
    obtain ⟨q, heq, hq, hstate, htables⟩ := batch_rolled_back hidle hbody
    cases h.symm.trans heq
    exact ⟨hq, fun _ => ⟨⟨raised, rfl⟩, hstate, htables⟩, fun hquiet => absurd hraises hquiet⟩
  · have hquiet := (runBody_ok hbody).1
    rw [hheap] at hquiet
    obtain ⟨wal₁, q, heq, hq, hstate, htables, -⟩ := batch_committed hidle hbody
    cases h.symm.trans heq
    exact ⟨hq, fun hraises => absurd hraises hquiet, fun _ => ⟨rfl, hstate, htables⟩⟩

/-- The log of recovery, which has values for objects, is at the same state, with the same rows. -/
structure Represents (wal : Log) (p : Process σ χ ε) (values : WriteAheadLog σ χ) : Prop where
  state : values.state = p.heap wal.state
  stateChanges : values.storage.stateChanges.map (Prod.map Fin.val id) = p.tables.stateChanges
  savedState : values.savedState.map (fun saved => saved.stateChangeId.val) = wal.savedState.map Prod.fst

theorem applied_eq_replayed (stateTransition : MutatingTransition σ χ ε) (state : σ) (batch : List (ULID × χ)) :
    applied stateTransition state (batch.map Prod.snd) =
      replayed (fun s change => .inPlace (stateTransition s change).1) state batch := by
  rw [applied, List.foldl_map]
  rfl

theorem UlidFactory.number_snd {α : Type} (f : UlidFactory) (data : List α) :
    (f.number data).map Prod.snd = data := by
  induction data generalizing f with
  | nil => rfl
  | cons a rest ih => rw [number, List.map_cons, ih]

/-- A batch that returns is the batch of recovery, for a transition that works in place. -/
theorem batch_represented {wal wal' : Log} {p p' : Process σ χ ε} {values : WriteAheadLog σ χ}
    {batch : List (ULID × χ)} (hidle : Idle wal p) (hvalues : Represents wal p values)
    (hbatch : batch.map (Prod.map Fin.val id) = p.stateChangeUlids.number (stateChangesOf body))
    (h : wal.processStateChangeAtomically stateTransition body p = (.ok (), wal', p')) :
    Represents wal' p' (values.processStateChangeAtomically
      (fun s change => .inPlace (stateTransition s change).1) batch) := by
  have hchanges : batch.map Prod.snd = stateChangesOf body := by
    rw [← p.stateChangeUlids.number_snd (stateChangesOf body), ← hbatch, List.map_map]
    rfl
  rcases hbody : runBody stateTransition body (p.entered wal) with ⟨raised | _, d⟩
  · obtain ⟨q, heq, -⟩ := batch_rolled_back hidle hbody
    cases h.symm.trans heq
  · obtain ⟨wal₁, q, heq, -, hstate, htables, hsaved⟩ := batch_committed hidle hbody
    cases h.symm.trans heq
    rw [← hbatch, List.getLast?_map] at hsaved
    have hinPlace : InPlace fun s change => .inPlace (stateTransition s change).1 := fun _ _ => rfl
    unfold WriteAheadLog.processStateChangeAtomically
    rw [foldl_dispatch hinPlace]
    refine ⟨?_, ?_, ?_⟩
    · rw [hstate, ← hchanges, applied_eq_replayed, hvalues.state]
    · rw [htables, Process.grown, ← hbatch, ← hvalues.stateChanges, List.map_append]
    · rw [hsaved]
      cases batch.getLast? with
      | none => exact hvalues.savedState
      | some row => rfl

/-- A counter that raises at zero, after it was reset: the second of two state changes raises. -/
def resetOrAdd : MutatingTransition Nat Nat Nat
  | _, 0 => (0, .error .keyError)
  | n, k => (n + k, .ok [n])

def countingProcess : Process Nat Nat Nat where
  heap _ := 5
  allocated := 1
  tables := ⟨[(0, 5)], []⟩
  begun := none
  stateChangeUlids := ⟨id, strictMono_id, 1⟩
  eventUlids := ⟨id, strictMono_id, 0⟩

theorem countingProcess_idle : Idle ⟨0, none⟩ countingProcess := by
  refine ⟨by decide, rfl, ⟨by decide, fun row hrow => ?_⟩, ⟨by decide, fun row hrow => ?_⟩⟩
  · rw [List.mem_singleton.mp hrow]
    exact ⟨0, by decide, rfl⟩
  · cases hrow

theorem batch_atomic_of_counter :
    ∃ wal p, Log.processStateChangeAtomically resetOrAdd ⟨0, none⟩
        [.dispatch 2 none, .dispatch 0 none] countingProcess = (.error .keyError, wal, p) ∧
      p.heap wal.state = 5 ∧ p.tables = countingProcess.tables := by
  have hbatch : Log.processStateChangeAtomically resetOrAdd ⟨0, none⟩
      [.dispatch 2 none, .dispatch 0 none] countingProcess = (.error .keyError, _, _) := rfl
  have hraises : Raises resetOrAdd 5 [.dispatch 2 none, .dispatch 0 none] :=
    Or.inr (.inr (.inr (.inl ⟨.keyError, rfl⟩)))
  exact ⟨_, _, hbatch, ((batch_atomic countingProcess_idle hbatch).2.1 hraises).2⟩

end Batch

end Raiden.Storage
