import Mathlib.Data.List.Sort
import Mathlib.Data.List.SplitBy
import Mathlib.Algebra.Order.Field.Rat
import Raiden.Lib.Run
import Raiden.Network.Batches
import Raiden.Node.State

/-! # The retry queue of the transport

The messages for one receiver wait in the order in which they were enqueued. A round sends
those that are due, sorted and grouped by the user id of the receiver. Messages of one queue
that name different users are then sent in the order of the users. -/
namespace Raiden.Transport

open Lib

variable {μ : Type}

/-- The classes of messages that the queue tells apart. -/
inductive MessageClass
  | delivered | ping | pong
  | retrieable (messageIdentifier : MessageID)
  | other

/-- What is read of a message. Its text is the text of a dictionary. -/
structure Messages (μ : Type) where
  messageClass : μ → MessageClass
  serialize : μ → String
  serialize_length : ∀ message, (serialize message).length ≠ 0

structure AddressMetadata where
  userId : Option String := none

/-- The generator of a message: it is told apart by its number, draws the timeouts of its
call of `enqueue`, and says again that the message is to be sent when the time `next` has come. -/
structure ExpirationGenerator where
  serial : Nat
  call : Nat
  next : Option ℚ := none

structure MessageData (μ : Type) where
  queueIdentifier : QueueIdentifier
  message : μ
  text : String
  text_length : text.length ≠ 0
  expirationGenerator : ExpirationGenerator
  addressMetadata : Option AddressMetadata

abbrev MessageData.serial (data : MessageData μ) : Nat := data.expirationGenerator.serial

def metadataKeyFunc (data : MessageData μ) : String :=
  (data.addressMetadata.bind AddressMetadata.userId).getD ""

structure Config where
  retriesBeforeBackoff : Nat
  retryIntervalInitial : ℚ≥0
  retryIntervalMax : ℚ≥0

/-- The timeout at a position of the generator `timeout_exponential_backoff`. -/
def timeoutExponentialBackoff (config : Config) (position : Nat) : ℚ≥0 :=
  if position < max 1 config.retriesBeforeBackoff then config.retryIntervalInitial
  else min (config.retryIntervalInitial * 2 ^ (position + 1 - max 1 config.retriesBeforeBackoff))
    config.retryIntervalMax

structure RetryQueue (μ : Type) where
  receiver : Address
  messageQueue : List (MessageData μ) := []
  /-- The timeouts drawn in each call of `enqueue`. -/
  drawn : List Nat := []
  /-- The number of generators. -/
  generators : Nat := 0

def newMessages [BEq μ] (queue : RetryQueue μ) (queueIdentifier : QueueIdentifier)
    (messages : List (μ × Option AddressMetadata)) : List (μ × Option AddressMetadata) :=
  messages.filter fun message => !queue.messageQueue.any fun data =>
    decide (queueIdentifier = data.queueIdentifier) && message.1 == data.message

def enqueue [BEq μ] (M : Messages μ) (toChecksumAddress : Address → String) (queue : RetryQueue μ)
    (queueIdentifier : QueueIdentifier) (messages : List (μ × Option AddressMetadata)) :
    Except String (RetryQueue μ) :=
  if queueIdentifier.recipient = queue.receiver then
    let encodedMessages := newMessages queue queueIdentifier messages
    .ok { queue with
      messageQueue := queue.messageQueue ++ encodedMessages.mapIdx fun i message => {
        queueIdentifier
        message := message.1
        text := M.serialize message.1
        text_length := M.serialize_length message.1
        expirationGenerator := { serial := queue.generators + i, call := queue.drawn.length }
        addressMetadata := message.2 }
      drawn := queue.drawn ++ [0]
      generators := queue.generators + encodedMessages.length }
  else
    .error (s!"queue_identifier.recipient ({toChecksumAddress queueIdentifier.recipient}) " ++
      s!" must match self.receiver ({toChecksumAddress queue.receiver}).")

/-- What a round sees of the transport: whether it runs, the message identifiers in the
queues of the node, and the time when a generator is asked. -/
structure Surroundings where
  started : Bool
  stopped : Bool
  queueidsToQueues : Dict QueueIdentifier (List MessageID)
  now : Nat → ℚ

/-- One call of `send_raw`. -/
structure Send (μ : Type) where
  messages : List (MessageData μ)
  receiverMetadata : Option AddressMetadata

def Send.text (send : Send μ) : String := joined MessageData.text send.messages

section Rounds

variable (config : Config) (M : Messages μ) (env : Surroundings)

def messageIsInQueue (data : MessageData μ) : Bool :=
  match env.queueidsToQueues.get? data.queueIdentifier, M.messageClass data.message with
  | some sendEvents, .retrieable messageIdentifier => sendEvents.contains messageIdentifier
  | _, _ => false

def isSentOnce (data : MessageData μ) : Bool :=
  match M.messageClass data.message with
  | .delivered | .ping | .pong => true
  | _ => false

def isExpired (data : MessageData μ) : Bool :=
  data.expirationGenerator.next.all (· ≤ env.now data.serial)

def RetryQueue.remove (queue : RetryQueue μ) (data : MessageData μ) : RetryQueue μ :=
  { queue with messageQueue := queue.messageQueue.eraseP fun other => other.serial == data.serial }

def RetryQueue.rearm (queue : RetryQueue μ) (data : MessageData μ) : RetryQueue μ :=
  let call := data.expirationGenerator.call
  let timeout := timeoutExponentialBackoff config (queue.drawn.getD call 0)
  { queue with
    messageQueue := queue.messageQueue.map fun other =>
      if other.serial = data.serial then
        { other with expirationGenerator :=
          { other.expirationGenerator with next := some (env.now data.serial + timeout) } }
      else other
    drawn := queue.drawn.modify call (· + 1) }

def checkMessage (done : RetryQueue μ × List (MessageData μ)) (data : MessageData μ) :
    RetryQueue μ × List (MessageData μ) :=
  if isSentOnce M data then (done.1.remove data, done.2 ++ [data])
  else if messageIsInQueue M env data then
    if isExpired env data then (done.1.rearm config env data, done.2 ++ [data]) else done
  else (done.1.remove data, done.2)

structure Round (μ : Type) where
  queue : RetryQueue μ
  sends : List (Send μ) := []
  error : Option String := none

/-- The loop over the users. -/
def sendGroups (queue : RetryQueue μ) : List (List (MessageData μ)) → Round μ
  | [] => { queue }
  | group :: rest =>
    let checked := group.foldl (checkMessage config M env) (queue, [])
    let addressMetadata := group.head?.bind fun data =>
      if metadataKeyFunc data = "" then none else data.addressMetadata
    let batches := makeMessageBatches MessageData.text matrixMaxBatchSize [] 0 checked.2
    let sends := batches.1.map fun messages => { messages, receiverMetadata := addressMetadata }
    match batches.2 with
    | some error => { queue := checked.1, sends, error := some error }
    | none =>
      let later := sendGroups checked.1 rest
      { later with sends := sends ++ later.sends }

def queueByUserId (queue : RetryQueue μ) : List (List (MessageData μ)) :=
  (queue.messageQueue.insertionSort fun a b => metadataKeyFunc a ≤ metadataKeyFunc b).splitBy
    fun a b => metadataKeyFunc a == metadataKeyFunc b

def checkAndSend (queue : RetryQueue μ) : Round μ :=
  if env.started = false ∨ env.stopped = true then { queue }
  else sendGroups config M env queue (queueByUserId queue)

/-! ## Order of the messages -/

def isDue (data : MessageData μ) : Bool :=
  env.started && !env.stopped &&
    (isSentOnce M data || messageIsInQueue M env data && isExpired env data)

def Round.handed (round : Round μ) : List (MessageData μ) := round.sends.flatMap Send.messages

/-- The messages of each queue that are due are sent, in the order in which they were enqueued. -/
def SendsInOrder (queue : RetryQueue μ) : Prop :=
  ∀ queueid, (((checkAndSend config M env queue).handed.filter fun data =>
      data.queueIdentifier = queueid).Pairwise fun a b => a.serial < b.serial) ∧
    ∀ data ∈ queue.messageQueue, data.queueIdentifier = queueid → isDue M env data = true →
      data ∈ (checkAndSend config M env queue).handed

def StartsTooLong (batch : List (MessageData μ)) : Prop :=
  ∃ data ∈ batch.head?, matrixMaxBatchSize < data.text.length

instance (batch : List (MessageData μ)) : Decidable (StartsTooLong batch) :=
  inferInstanceAs (Decidable (∃ data ∈ batch.head?, matrixMaxBatchSize < data.text.length))

/-- The due messages of each queue are in the order of their users, and for no user the
first one is too long. -/
def UsersInOrder (queue : RetryQueue μ) : Prop :=
  (∀ queueid, (queue.messageQueue.filter fun data => data.queueIdentifier = queueid ∧
    isDue M env data = true).Pairwise fun a b => metadataKeyFunc a ≤ metadataKeyFunc b) ∧
  ∀ group ∈ queueByUserId queue, ¬StartsTooLong (group.filter (isDue M env))

variable {config M env} {queue queue' : RetryQueue μ} {group : List (MessageData μ)}
  {groups : List (List (MessageData μ))} {data : MessageData μ}

/-! ## What a round sends -/

theorem makeMessageBatches_of_starts (h : StartsTooLong group) :
    (makeMessageBatches MessageData.text matrixMaxBatchSize [] 0 group).1 = [] ∧
      (makeMessageBatches MessageData.text matrixMaxBatchSize [] 0 group).2.isSome = true := by
  obtain ⟨data, hdata, hlong⟩ := h
  obtain ⟨rest, rfl⟩ := List.head?_eq_some_iff.mp hdata
  simp [makeMessageBatches, hlong]

theorem makeMessageBatches_of_not_starts (h : ¬StartsTooLong group) :
    (makeMessageBatches MessageData.text matrixMaxBatchSize [] 0 group).1.flatten = group ∧
      (makeMessageBatches MessageData.text matrixMaxBatchSize [] 0 group).2 = none := by
  cases group with
  | nil => exact ⟨rfl, rfl⟩
  | cons data group =>
    have hfits : ¬matrixMaxBatchSize < data.text.length := fun hlong => h ⟨data, rfl, hlong⟩
    obtain ⟨hall, hraised, -⟩ := makeMessageBatches_of_size MessageData.text matrixMaxBatchSize data.text_length
      (List.cons_ne_nil data []) fun other (_ : other ∈ group) => other.text_length
    simpa [makeMessageBatches, hfits] using ⟨hall, hraised⟩

section Running

variable (hstarted : env.started = true) (hstopped : env.stopped = false)
include hstarted hstopped

theorem checkMessage_sent (done : RetryQueue μ × List (MessageData μ)) (data : MessageData μ) :
    (checkMessage config M env done data).2 = done.2 ++ [data].filter (isDue M env) := by
  by_cases honce : isSentOnce M data
  · simp [checkMessage, isDue, hstarted, hstopped, honce]
  · by_cases hqueued : messageIsInQueue M env data <;> by_cases hexpired : isExpired env data <;>
      simp [checkMessage, isDue, hstarted, hstopped, honce, hqueued, hexpired]

theorem foldl_checkMessage_sent (done : RetryQueue μ × List (MessageData μ)) :
    (group.foldl (checkMessage config M env) done).2 = done.2 ++ group.filter (isDue M env) := by
  induction group generalizing done with
  | nil => simp
  | cons data group ih =>
    rw [List.foldl_cons, ih, checkMessage_sent hstarted hstopped, List.append_assoc,
      ← List.filter_append, List.singleton_append]

theorem sendGroups_cons_of_starts (hlong : StartsTooLong (group.filter (isDue M env))) :
    (sendGroups config M env queue (group :: groups)).handed = [] ∧
      (sendGroups config M env queue (group :: groups)).error ≠ none := by
  obtain ⟨hnone, hraised⟩ := makeMessageBatches_of_starts hlong
  obtain ⟨error, herror⟩ := Option.isSome_iff_exists.mp hraised
  simp [sendGroups, foldl_checkMessage_sent hstarted hstopped, hnone, herror, Round.handed]

theorem sendGroups_cons_of_not_starts (hlong : ¬StartsTooLong (group.filter (isDue M env))) :
    (sendGroups config M env queue (group :: groups)).handed = group.filter (isDue M env) ++
        (sendGroups config M env (group.foldl (checkMessage config M env) (queue, [])).1 groups).handed ∧
      (sendGroups config M env queue (group :: groups)).queue =
        (sendGroups config M env (group.foldl (checkMessage config M env) (queue, [])).1 groups).queue ∧
      (sendGroups config M env queue (group :: groups)).error =
        (sendGroups config M env (group.foldl (checkMessage config M env) (queue, [])).1 groups).error := by
  obtain ⟨hall, hraised⟩ := makeMessageBatches_of_not_starts hlong
  simp only [sendGroups, foldl_checkMessage_sent hstarted hstopped, List.nil_append, hraised,
    Round.handed, List.flatMap_append, List.flatMap_map, and_self, and_true]
  rw [← List.flatMap_id] at hall
  exact congrArg (· ++ _) hall

/-- Everything is sent, or the loop over the users ends with an error and sends less. -/
theorem sendGroups_handed :
    (∀ group ∈ groups, ¬StartsTooLong (group.filter (isDue M env))) ∧
        (sendGroups config M env queue groups).handed = groups.flatten.filter (isDue M env) ∨
      (∃ group ∈ groups, StartsTooLong (group.filter (isDue M env))) ∧
        ∃ data rest, (sendGroups config M env queue groups).handed ++ data :: rest =
          groups.flatten.filter (isDue M env) := by
  induction groups generalizing queue with
  | nil => exact .inl ⟨by simp, rfl⟩
  | cons group groups ih =>
    rw [List.flatten_cons, List.filter_append]
    by_cases hlong : StartsTooLong (group.filter (isDue M env))
    · obtain ⟨data, hdata, -⟩ := id hlong
      obtain ⟨rest, hrest⟩ := List.head?_eq_some_iff.mp hdata
      rw [(sendGroups_cons_of_starts hstarted hstopped hlong).1, hrest]
      exact .inr ⟨⟨group, List.mem_cons_self, hlong⟩, data, _, rfl⟩
    · rw [(sendGroups_cons_of_not_starts hstarted hstopped hlong).1]
      obtain ⟨hfits, hlater⟩ | ⟨⟨late, hlate, hraised⟩, data, rest, hlater⟩ :=
        @ih (group.foldl (checkMessage config M env) (queue, [])).1
      · exact .inl ⟨List.forall_mem_cons.mpr ⟨hlong, hfits⟩, by rw [hlater]⟩
      · exact .inr ⟨⟨late, List.mem_cons_of_mem _ hlate, hraised⟩, data, rest,
          by rw [List.append_assoc, hlater]⟩

end Running

/-! ## Numbers of the messages -/

/-- The messages stand in the order in which their generators were made. -/
structure Numbered (queue : RetryQueue μ) : Prop where
  increasing : (queue.messageQueue.map MessageData.serial).Pairwise (· < ·)
  made : ∀ serial ∈ queue.messageQueue.map MessageData.serial, serial < queue.generators
  called : ∀ data ∈ queue.messageQueue, data.expirationGenerator.call < queue.drawn.length

def MessageData.reset (data : MessageData μ) : MessageData μ :=
  { data with expirationGenerator := { data.expirationGenerator with next := none } }

/-- Messages may be removed, none is added or moved. -/
structure Shrinks (queue queue' : RetryQueue μ) : Prop where
  sublist : (queue'.messageQueue.map MessageData.reset).Sublist
    (queue.messageQueue.map MessageData.reset)
  generators_eq : queue'.generators = queue.generators
  drawn_length : queue'.drawn.length = queue.drawn.length

theorem Shrinks.refl (queue : RetryQueue μ) : Shrinks queue queue := ⟨List.Sublist.refl _, rfl, rfl⟩

theorem Shrinks.trans {last : RetryQueue μ} (h : Shrinks queue queue') (h' : Shrinks queue' last) :
    Shrinks queue last :=
  ⟨h'.sublist.trans h.sublist, h'.generators_eq.trans h.generators_eq, h'.drawn_length.trans h.drawn_length⟩

theorem Shrinks.origin (h : Shrinks queue queue') (hdata : data ∈ queue'.messageQueue) :
    ∃ old ∈ queue.messageQueue, old.reset = data.reset :=
  List.mem_map.mp (h.sublist.subset (List.mem_map_of_mem hdata))

theorem Numbered.shrinks (hnumbered : Numbered queue) (h : Shrinks queue queue') : Numbered queue' := by
  have hserial : (queue'.messageQueue.map MessageData.serial).Sublist
      (queue.messageQueue.map MessageData.serial) := by
    have := h.sublist.map MessageData.serial
    rwa [List.map_map, List.map_map] at this
  refine ⟨hnumbered.increasing.sublist hserial, fun serial hmem => ?_, fun data hdata => ?_⟩
  · rw [h.generators_eq]
    exact hnumbered.made serial (hserial.subset hmem)
  · obtain ⟨old, hold, heq⟩ := h.origin hdata
    have hcall : old.expirationGenerator.call = data.expirationGenerator.call :=
      congrArg (·.expirationGenerator.call) heq
    rw [h.drawn_length, ← hcall]
    exact hnumbered.called old hold

theorem remove_shrinks (data : MessageData μ) : Shrinks queue (queue.remove data) :=
  ⟨List.eraseP_sublist.map _, rfl, rfl⟩

theorem rearm_shrinks (data : MessageData μ) : Shrinks queue (queue.rearm config env data) := by
  have hreset : (queue.rearm config env data).messageQueue.map MessageData.reset =
      queue.messageQueue.map MessageData.reset := by
    simp only [RetryQueue.rearm, List.map_map]
    refine List.map_congr_left fun other _ => ?_
    by_cases h : other.serial = data.serial <;> simp [h, MessageData.reset]
  exact ⟨by rw [hreset], rfl, List.length_modify ..⟩

theorem checkMessage_shrinks (done : RetryQueue μ × List (MessageData μ)) (data : MessageData μ) :
    Shrinks done.1 (checkMessage config M env done data).1 := by
  unfold checkMessage
  split_ifs
  · exact remove_shrinks data
  · exact rearm_shrinks data
  · exact .refl _
  · exact remove_shrinks data

theorem foldl_checkMessage_shrinks (done : RetryQueue μ × List (MessageData μ)) :
    Shrinks done.1 (group.foldl (checkMessage config M env) done).1 := by
  induction group generalizing done with
  | nil => exact .refl _
  | cons data group ih => exact (checkMessage_shrinks done data).trans (ih _)

theorem sendGroups_shrinks : Shrinks queue (sendGroups config M env queue groups).queue := by
  induction groups generalizing queue with
  | nil => exact .refl _
  | cons group groups ih =>
    have hchecked : Shrinks queue (group.foldl (checkMessage config M env) (queue, [])).1 :=
      foldl_checkMessage_shrinks (queue, [])
    simp only [sendGroups]
    split
    · exact hchecked
    · exact hchecked.trans ih

theorem checkAndSend_shrinks : Shrinks queue (checkAndSend config M env queue).queue := by
  unfold checkAndSend
  split_ifs
  · exact .refl _
  · exact sendGroups_shrinks

variable {toChecksumAddress : Address → String}

/-- What a call of `enqueue` adds: its messages with generators of their own and one source of timeouts. -/
structure Enqueued [BEq μ] (queue : RetryQueue μ) (queueIdentifier : QueueIdentifier)
    (messages : List (μ × Option AddressMetadata)) (added : List (MessageData μ)) (queue' : RetryQueue μ) :
    Prop where
  messageQueue_eq : queue'.messageQueue = queue.messageQueue ++ added
  drawn_eq : queue'.drawn = queue.drawn ++ [0]
  generators_eq : queue'.generators = queue.generators + added.length
  serial_eq : added.map MessageData.serial = List.range' queue.generators added.length
  message_eq : added.map MessageData.message = (newMessages queue queueIdentifier messages).map Prod.fst
  data_eq : ∀ data ∈ added, data.queueIdentifier = queueIdentifier ∧
    data.expirationGenerator.call = queue.drawn.length ∧ data.expirationGenerator.next = none

section Enqueue

variable [BEq μ] {queueIdentifier : QueueIdentifier} {messages : List (μ × Option AddressMetadata)}

theorem enqueue_ok (h : enqueue M toChecksumAddress queue queueIdentifier messages = .ok queue') :
    ∃ added, Enqueued queue queueIdentifier messages added queue' := by
  unfold enqueue at h
  split_ifs at h
  cases h
  refine ⟨_, rfl, rfl, ?_, ?_, ?_, ?_⟩
  · rw [List.length_mapIdx]
  · exact List.ext_getElem (by simp) fun i _ _ => by simp [MessageData.serial]
  · exact List.ext_getElem (by simp) fun i _ _ => by simp
  · intro data hdata
    obtain ⟨i, hi, rfl⟩ := List.mem_mapIdx.mp hdata
    exact ⟨rfl, rfl, rfl⟩

theorem Enqueued.numbered {added : List (MessageData μ)} (h : Enqueued queue queueIdentifier messages added queue')
    (hnumbered : Numbered queue) : Numbered queue' := by
  constructor
  · rw [h.messageQueue_eq, List.map_append, h.serial_eq, List.pairwise_append]
    refine ⟨hnumbered.increasing, List.pairwise_lt_range', fun old hold serial hnew => ?_⟩
    exact Nat.lt_of_lt_of_le (hnumbered.made old hold) (List.mem_range'_1.mp hnew).1
  · intro serial hmem
    rw [h.messageQueue_eq, List.map_append, h.serial_eq, List.mem_append] at hmem
    rw [h.generators_eq]
    obtain hold | hnew := hmem
    · exact Nat.lt_add_right _ (hnumbered.made serial hold)
    · exact (List.mem_range'_1.mp hnew).2
  · intro data hdata
    rw [h.drawn_eq, List.length_append, List.length_singleton]
    rw [h.messageQueue_eq] at hdata
    obtain hold | hnew := List.mem_append.mp hdata
    · exact Nat.lt_succ_of_lt (hnumbered.called data hold)
    · rw [(h.data_eq data hnew).2.1]
      exact Nat.lt_succ_self _

end Enqueue

inductive Call (μ : Type)
  | enqueue (queueIdentifier : QueueIdentifier) (messages : List (μ × Option AddressMetadata))
  | checkAndSend (env : Surroundings)

variable (config M toChecksumAddress) in
/-- The call returns, or it is a round. -/
def Next [BEq μ] (queue : RetryQueue μ) (call : Call μ) (queue' : RetryQueue μ) : Prop :=
  match call with
  | .enqueue queueIdentifier messages =>
    enqueue M toChecksumAddress queue queueIdentifier messages = .ok queue'
  | .checkAndSend env => (checkAndSend config M env queue).queue = queue'

theorem numbered [BEq μ] {receiver : Address} {calls : List (Call μ)}
    (run : Run (Next config M toChecksumAddress) { receiver } calls queue) : Numbered queue := by
  refine run.invariant ⟨.nil, by simp, by simp⟩ fun _ call _ hnumbered h => ?_
  cases call with
  | enqueue =>
    obtain ⟨added, hadded⟩ := enqueue_ok h
    exact hadded.numbered hnumbered
  | checkAndSend env =>
    cases h
    exact hnumbered.shrinks checkAndSend_shrinks

theorem queueByUserId_flatten : (queueByUserId queue).flatten = queue.messageQueue.insertionSort
    fun a b => metadataKeyFunc a ≤ metadataKeyFunc b :=
  List.flatten_splitBy _ _

/-- The sort by users keeps the order of the numbers where the users are in order already. -/
theorem pairwise_filter_insertionSort_iff (hnumbered : Numbered queue) (p : MessageData μ → Bool) :
    (((queue.messageQueue.insertionSort fun a b => metadataKeyFunc a ≤ metadataKeyFunc b).filter
        p).Pairwise fun a b => a.serial < b.serial) ↔
      (queue.messageQueue.filter p).Pairwise fun a b => metadataKeyFunc a ≤ metadataKeyFunc b := by
  let byUser (a b : MessageData μ) := metadataKeyFunc a ≤ metadataKeyFunc b
  have hperm := (List.perm_insertionSort byUser queue.messageQueue).filter p
  have hqueue : (queue.messageQueue.filter p).Pairwise fun a b => a.serial < b.serial :=
    (List.pairwise_map.mp hnumbered.increasing).filter p
  constructor
  · intro hsorted
    have heq := List.Perm.eq_of_pairwise (fun a b _ _ hab hba => absurd hab (Nat.lt_asymm hba))
      hsorted hqueue hperm
    rw [← heq]
    exact (List.pairwise_insertionSort byUser _).filter p
  · intro husers
    have hsub : (queue.messageQueue.filter p).Sublist
        ((queue.messageQueue.insertionSort byUser).filter p) := by
      simpa [List.filter_filter] using
        (List.sublist_insertionSort husers List.filter_sublist).filter p
    rw [← hsub.eq_of_length hperm.length_eq.symm]
    exact hqueue

theorem mem_queueByUserId : data ∈ (queueByUserId queue).flatten ↔ data ∈ queue.messageQueue := by
  rw [queueByUserId_flatten, List.mem_insertionSort]

theorem Numbered.not_mem_of_append (hnumbered : Numbered queue) {p : MessageData μ → Bool}
    {handed rest : List (MessageData μ)}
    (h : handed ++ data :: rest = (queueByUserId queue).flatten.filter p) : data ∉ handed := by
  have hnodup : queue.messageQueue.Nodup := .of_map _ hnumbered.increasing.nodup
  have hsorted : (handed ++ data :: rest).Nodup := by
    rw [h, queueByUserId_flatten]
    exact ((List.perm_insertionSort _ _).nodup_iff.mpr hnodup).filter p
  exact fun hmem => List.disjoint_of_nodup_append hsorted hmem List.mem_cons_self

/-- A round sends every message that is due, or it ends with an error and leaves one out. -/
theorem checkAndSend_handed (hnumbered : Numbered queue) :
    (∀ group ∈ queueByUserId queue, ¬StartsTooLong (group.filter (isDue M env))) ∧
        (checkAndSend config M env queue).handed =
          (queueByUserId queue).flatten.filter (isDue M env) ∨
      (∃ group ∈ queueByUserId queue, StartsTooLong (group.filter (isDue M env))) ∧
        ∃ data ∈ queue.messageQueue, isDue M env data = true ∧
          data ∉ (checkAndSend config M env queue).handed := by
  by_cases hrunning : env.started = false ∨ env.stopped = true
  · have hnone (group : List (MessageData μ)) : group.filter (isDue M env) = [] := by
      obtain h | h := hrunning <;> simp [isDue, h]
    rw [checkAndSend, if_pos hrunning]
    exact .inl ⟨fun group _ => by simp [hnone, StartsTooLong], (hnone _).symm⟩
  · rw [checkAndSend, if_neg hrunning]
    simp only [not_or, Bool.not_eq_false, Bool.not_eq_true] at hrunning
    obtain hall | ⟨hlong, data, rest, hhanded⟩ := sendGroups_handed hrunning.1 hrunning.2
    · exact .inl hall
    · have hdata : data ∈ (queueByUserId queue).flatten.filter (isDue M env) := by
        rw [← hhanded]
        exact List.mem_append_right _ List.mem_cons_self
      rw [List.mem_filter, mem_queueByUserId] at hdata
      exact .inr ⟨hlong, data, hdata.1, hdata.2, hnumbered.not_mem_of_append hhanded⟩

/-- The messages of every queue that are due are sent in order just when the round does not
have to reorder their users, and no user's first text is too long. -/
theorem sendsInOrder_iff [BEq μ] {receiver : Address} {calls : List (Call μ)}
    (run : Run (Next config M toChecksumAddress) { receiver } calls queue) :
    SendsInOrder config M env queue ↔ UsersInOrder M env queue := by
  have hnumbered := numbered run
  obtain ⟨hfits, hhanded⟩ | ⟨⟨group, hgroup, hlong⟩, data, hdata, hdue, hmissing⟩ :=
    checkAndSend_handed hnumbered
  · have hsent : ∀ data ∈ queue.messageQueue, isDue M env data = true →
        data ∈ (checkAndSend config M env queue).handed := by
      intro data hdata hdue
      rw [hhanded]
      exact List.mem_filter.mpr ⟨mem_queueByUserId.mpr hdata, hdue⟩
    have horder (queueid : QueueIdentifier) := pairwise_filter_insertionSort_iff hnumbered
      fun data => data.queueIdentifier = queueid ∧ isDue M env data = true
    have hfilter (queueid : QueueIdentifier) :
        ((checkAndSend config M env queue).handed.filter fun data =>
          data.queueIdentifier = queueid) = (queue.messageQueue.insertionSort fun a b =>
            metadataKeyFunc a ≤ metadataKeyFunc b).filter fun data =>
              data.queueIdentifier = queueid ∧ isDue M env data = true := by
      rw [hhanded, queueByUserId_flatten, List.filter_filter]
      simp
    refine ⟨fun h => ⟨fun queueid => ?_, hfits⟩,
      fun h queueid => ⟨?_, fun data hdata _ => hsent data hdata⟩⟩
    · exact (horder queueid).mp (hfilter queueid ▸ (h queueid).1)
    · rw [hfilter]
      exact (horder queueid).mpr (h.1 queueid)
  · refine iff_of_false (fun h => ?_) fun h => h.2 group hgroup hlong
    exact hmissing ((h data.queueIdentifier).2 data hdata rfl hdue)

end Rounds

def toyMessages : Messages Nat where
  messageClass := .retrieable
  serialize _ := "text"
  serialize_length _ := by decide

def toyQueueIdentifier : QueueIdentifier := ⟨1, ⟨1, 1, 1⟩⟩

/-- Both messages are in the queue of the node. -/
def toySurroundings : Surroundings where
  started := true
  stopped := false
  queueidsToQueues := Dict.empty.set toyQueueIdentifier [1, 2]
  now _ := 0

section

variable (second : Option AddressMetadata)

def toyCall : Call Nat :=
  .enqueue toyQueueIdentifier [(1, some { userId := some "@receiver" }), (2, second)]

def toyQueue : RetryQueue Nat :=
  (enqueue toyMessages toString { receiver := 1 } toyQueueIdentifier
    [(1, some { userId := some "@receiver" }), (2, second)]).toOption.getD { receiver := 1 }

theorem toyQueue_run :
    Run (Next ⟨1, 5, 60⟩ toyMessages toString) { receiver := 1 } [toyCall second]
      (toyQueue second) :=
  (Run.start _).step rfl

end

theorem later_message_sent_first : Run (Next ⟨1, 5, 60⟩ toyMessages toString) { receiver := 1 }
      [toyCall none] (toyQueue none) ∧
    ¬SendsInOrder ⟨1, 5, 60⟩ toyMessages toySurroundings (toyQueue none) := by
  refine ⟨toyQueue_run none, fun h => ?_⟩
  have horder := (h toyQueueIdentifier).1
  revert horder
  decide +kernel

theorem sent_in_order_to_one_user : SendsInOrder ⟨1, 5, 60⟩ toyMessages toySurroundings
    (toyQueue (some { userId := some "@receiver" })) := by
  refine (sendsInOrder_iff (toyQueue_run (some { userId := some "@receiver" }))).mpr ⟨?_, ?_⟩
  · have husers : (toyQueue (some { userId := some "@receiver" })).messageQueue.Pairwise
        fun a b => metadataKeyFunc a ≤ metadataKeyFunc b := by decide +kernel
    exact fun queueid => husers.filter _
  · decide +kernel

end Raiden.Transport
