import Mathlib.Algebra.Order.Field.Rat
import Mathlib.Tactic.Linarith
import Raiden.Network.RetryQueue

/-! # Schedules of retries

A message that is not acknowledged is sent again when its timeout has passed. The
timeouts of all messages of one call of `enqueue` are drawn from one generator,
so with several messages none of them follows the configured timeouts, unless
these are all the same. -/
namespace Raiden.Transport

open Lib

variable {μ : Type}

/-- The times of polling at which a message is sent that draws the configured timeouts from a position on. -/
def schedule (config : Config) (position : Nat) (next : Option ℚ) : List ℚ → List ℚ
  | [] => []
  | now :: later =>
    if next.all (· ≤ now) then
      now :: schedule config (position + 1) (some (now + timeoutExponentialBackoff config position)) later
    else schedule config position next later

/-- A time of polling, and the messages that are not acknowledged then. -/
abbrev Poll := ℚ × Dict QueueIdentifier (List MessageID)

def Poll.surroundings (poll : Poll) : Surroundings where
  started := true
  stopped := false
  queueidsToQueues := poll.2
  now _ := poll.1

abbrev MessageData.call (data : MessageData μ) : Nat := data.expirationGenerator.call

def MessageData.drew (data : MessageData μ) (config : Config) (now : ℚ) (position : Nat) : MessageData μ :=
  { data with expirationGenerator.next := some (now + timeoutExponentialBackoff config position) }

section

variable (config : Config) (M : Messages μ)

/-- The loop of a round over the messages: what it leaves and what is to be sent. -/
def checkAll (poll : Poll) (queue : RetryQueue μ) : RetryQueue μ × List (MessageData μ) :=
  (queueByUserId queue).flatten.foldl (checkMessage config M poll.surroundings) (queue, [])

def sendTimes (queue : RetryQueue μ) (serial : Nat) : List Poll → List ℚ
  | [] => []
  | poll :: polls =>
    let checked := checkAll config M poll queue
    if serial ∈ checked.2.map MessageData.serial then poll.1 :: sendTimes checked.1 serial polls
    else sendTimes checked.1 serial polls

def retrieableIdentifier (message : μ) : Option MessageID :=
  match M.messageClass message with
  | .retrieable messageIdentifier => some messageIdentifier
  | _ => none

def isRetrieable (message : μ) : Bool := (retrieableIdentifier M message).isSome

/-- The message may draw timeouts of the call. -/
def shares (call : Nat) (data : MessageData μ) : Bool :=
  decide (data.call = call) && isRetrieable M data.message

/-- The message asks its generator in the round and draws a timeout of the call. -/
def draws (env : Surroundings) (call : Nat) (data : MessageData μ) : Bool :=
  decide (data.call = call) && (messageIsInQueue M env data && isExpired env data)

end

variable {config : Config} {M : Messages μ} {env : Surroundings} {poll : Poll} {queue queue' : RetryQueue μ}
  {data : MessageData μ} {messages before after : List (MessageData μ)}
  {done : RetryQueue μ × List (MessageData μ)} {call : Nat}

theorem messageIsInQueue_iff : messageIsInQueue M env data = true ↔
    ∃ sendEvents, env.queueidsToQueues.get? data.queueIdentifier = some sendEvents ∧
      ∃ messageIdentifier ∈ sendEvents, retrieableIdentifier M data.message = some messageIdentifier := by
  unfold messageIsInQueue retrieableIdentifier
  cases env.queueidsToQueues.get? data.queueIdentifier <;> cases M.messageClass data.message <;> simp

theorem not_isSentOnce (h : messageIsInQueue M env data = true) : isSentOnce M data = false := by
  unfold messageIsInQueue at h
  unfold isSentOnce
  split at h
  · next hclass => rw [hclass]
  · cases h

theorem shares_iff : shares M call data = true ↔ data.call = call ∧ isRetrieable M data.message = true := by
  simp [shares]

theorem draws_iff : draws M env call data = true ↔
    data.call = call ∧ messageIsInQueue M env data = true ∧ isExpired env data = true := by
  simp [draws]

theorem shares_of_inQueue (h : messageIsInQueue M env data = true) : shares M data.call data = true := by
  obtain ⟨-, -, messageIdentifier, -, hidentifier⟩ := messageIsInQueue_iff.mp h
  simp [shares, isRetrieable, hidentifier]

theorem shares_of_draws (h : draws M env call data = true) : shares M call data = true := by
  obtain ⟨rfl, hqueued, -⟩ := draws_iff.mp h
  exact shares_of_inQueue hqueued

variable (M env messages call) in
theorem countP_draws_le : messages.countP (draws M env call) ≤ messages.countP (shares M call) :=
  List.countP_mono_left fun _ _ => shares_of_draws

theorem countP_shares :
    (queueByUserId queue).flatten.countP (shares M call) = queue.messageQueue.countP (shares M call) := by
  rw [queueByUserId_flatten]
  exact (List.perm_insertionSort _ _).countP_eq _

theorem countP_shares_le (h : Shrinks queue queue') :
    queue'.messageQueue.countP (shares M call) ≤ queue.messageQueue.countP (shares M call) := by
  have hle : _ ≤ (queue.messageQueue.map MessageData.reset).countP (shares M call) := h.sublist.countP_le
  rwa [List.countP_map, List.countP_map] at hle

variable (config M env) in
theorem checkMessage_cases (done : RetryQueue μ × List (MessageData μ)) (data : MessageData μ) :
    (messageIsInQueue M env data = true ∧ isExpired env data = true ∧
      (checkMessage config M env done data).1 = done.1.rearm config env data) ∨
    (messageIsInQueue M env data = true ∧ isExpired env data = false ∧
      (checkMessage config M env done data).1 = done.1) ∨
    (messageIsInQueue M env data = false ∧ (checkMessage config M env done data).1 = done.1.remove data) := by
  cases hqueued : messageIsInQueue M env data with
  | true =>
    have honce := not_isSentOnce hqueued
    cases hexpired : isExpired env data <;> simp [checkMessage, honce, hqueued, hexpired]
  | false => cases honce : isSentOnce M data <;> simp [checkMessage, honce, hqueued]

theorem foldl_checkMessage_drawn (hcall : call < done.1.drawn.length) :
    (messages.foldl (checkMessage config M env) done).1.drawn.getD call 0 =
      done.1.drawn.getD call 0 + messages.countP (draws M env call) := by
  induction messages generalizing done with
  | nil => rfl
  | cons data messages ih =>
    have hlength : (checkMessage config M env done data).1.drawn.length = done.1.drawn.length :=
      (checkMessage_shrinks done data).drawn_length
    have hrearm : (done.1.rearm config env data).drawn.getD call 0 =
        done.1.drawn.getD call 0 + if data.call = call then 1 else 0 := by
      rw [RetryQueue.rearm, List.getD_eq_getElem?_getD, List.getD_eq_getElem?_getD, List.getElem?_modify,
        List.getElem?_eq_getElem hcall]
      split <;> simp [hcall]
    rw [List.foldl_cons, ih (hlength ▸ hcall), List.countP_cons, draws]
    rcases checkMessage_cases config M env done data with
      ⟨hqueued, hexpired, heq⟩ | ⟨-, hexpired, heq⟩ | ⟨hqueued, heq⟩
    · rw [heq, hrearm, hqueued, hexpired]
      simp [Nat.add_assoc, Nat.add_comm, Nat.add_left_comm]
    · rw [heq, hexpired]
      simp
    · rw [heq, hqueued]
      simp [RetryQueue.remove]

theorem foldl_checkMessage_other (hdata : data ∈ done.1.messageQueue)
    (hother : data.serial ∉ messages.map MessageData.serial) :
    data ∈ (messages.foldl (checkMessage config M env) done).1.messageQueue := by
  induction messages generalizing done with
  | nil => exact hdata
  | cons other messages ih =>
    rw [List.map_cons, List.mem_cons, not_or] at hother
    refine ih ?_ hother.2
    rcases checkMessage_cases config M env done other with ⟨-, -, heq⟩ | ⟨-, -, heq⟩ | ⟨-, heq⟩ <;> rw [heq]
    · exact List.mem_map.mpr ⟨data, hdata, if_neg hother.1⟩
    · exact hdata
    · exact (List.mem_eraseP_of_neg (by simpa using hother.1)).mpr hdata

theorem foldl_checkMessage_fst : (messages.foldl (checkMessage config M env) done).1 =
    (messages.foldl (checkMessage config M env) (done.1, [])).1 := by
  induction messages generalizing done with
  | nil => rfl
  | cons data messages ih =>
    have hfst : (checkMessage config M env done data).1 = (checkMessage config M env (done.1, []) data).1 := by
      unfold checkMessage
      split_ifs <;> rfl
    rw [List.foldl_cons, List.foldl_cons, ih, hfst, ← ih]

/-- A round that does not raise leaves what the loop leaves and sends what the loop says. -/
theorem checkAndSend_eq (herror : (checkAndSend config M poll.surroundings queue).error = none) :
    ((checkAndSend config M poll.surroundings queue).queue, (checkAndSend config M poll.surroundings queue).handed) =
      checkAll config M poll queue := by
  have hgroups {groups : List (List (MessageData μ))} {queue : RetryQueue μ}
      (herror : (sendGroups config M poll.surroundings queue groups).error = none) :
      (sendGroups config M poll.surroundings queue groups).queue =
          (groups.flatten.foldl (checkMessage config M poll.surroundings) (queue, [])).1 ∧
        (sendGroups config M poll.surroundings queue groups).handed =
          groups.flatten.filter (isDue M poll.surroundings) := by
    induction groups generalizing queue with
    | nil => exact ⟨rfl, rfl⟩
    | cons group groups ih =>
      by_cases hlong : StartsTooLong (group.filter (isDue M poll.surroundings))
      · exact absurd herror (sendGroups_cons_of_starts rfl rfl hlong).2
      · obtain ⟨hhanded, hqueue, hraised⟩ := sendGroups_cons_of_not_starts rfl rfl hlong
        obtain ⟨hqueue', hhanded'⟩ := ih (hraised.symm.trans herror)
        rw [hqueue, hhanded, hqueue', hhanded', List.flatten_cons, List.foldl_append, List.filter_append,
          ← foldl_checkMessage_fst]
        exact ⟨rfl, rfl⟩
  have hrunning : ¬(poll.surroundings.started = false ∨ poll.surroundings.stopped = true) := by
    simp [Poll.surroundings]
  rw [checkAndSend, if_neg hrunning] at herror ⊢
  refine Prod.ext (hgroups herror).1 ((hgroups herror).2.trans ?_)
  rw [checkAll, foldl_checkMessage_sent rfl rfl, List.nil_append]

variable (config M poll queue) in
theorem checkAll_shrinks : Shrinks queue (checkAll config M poll queue).1 := foldl_checkMessage_shrinks (queue, [])

section Numbered

variable (hnumbered : Numbered queue)

include hnumbered

variable (config M poll) in
theorem checkAll_drawn (hdata : data ∈ queue.messageQueue) :
    (checkAll config M poll queue).1.drawn.getD data.call 0 = queue.drawn.getD data.call 0 +
      (queueByUserId queue).flatten.countP (draws M poll.surroundings data.call) :=
  foldl_checkMessage_drawn (hnumbered.called data hdata)

variable (config) in
/-- What a round does to a message that is not acknowledged: the timeout it draws is at the position of the
timeouts that were drawn before and by the messages before it. -/
theorem checkAll_own (hsplit : (queueByUserId queue).flatten = before ++ data :: after)
    (hqueued : messageIsInQueue M poll.surroundings data = true) :
    (if isExpired poll.surroundings data then data.drew config poll.1
        (queue.drawn.getD data.call 0 + before.countP (draws M poll.surroundings data.call))
      else data) ∈ (checkAll config M poll queue).1.messageQueue := by
  have hdata : data ∈ queue.messageQueue := mem_queueByUserId.mp (by rw [hsplit]; simp)
  have hnodup : ((queueByUserId queue).flatten.map MessageData.serial).Nodup := by
    rw [queueByUserId_flatten]
    exact ((List.perm_insertionSort _ _).map _).nodup_iff.mpr hnumbered.increasing.nodup
  rw [hsplit, List.map_append, List.map_cons, List.nodup_append, List.nodup_cons] at hnodup
  obtain ⟨-, ⟨hafter, -⟩, hbefore⟩ := hnodup
  rw [checkAll, hsplit, List.foldl_append, List.foldl_cons]
  have hkept : data ∈ (before.foldl (checkMessage config M poll.surroundings) (queue, [])).1.messageQueue :=
    foldl_checkMessage_other hdata fun hmem => hbefore _ hmem _ List.mem_cons_self rfl
  have hdrawn : (before.foldl (checkMessage config M poll.surroundings) (queue, [])).1.drawn.getD data.call 0 = _ :=
    foldl_checkMessage_drawn (hnumbered.called data hdata)
  rcases checkMessage_cases config M poll.surroundings _ data with
    ⟨-, hexpired, heq⟩ | ⟨-, hexpired, heq⟩ | ⟨hremoved, -⟩
  · rw [if_pos hexpired]
    refine foldl_checkMessage_other ?_ hafter
    rw [heq]
    refine List.mem_map.mpr ⟨data, hkept, ?_⟩
    rw [if_pos rfl, hdrawn]
    rfl
  · rw [if_neg (by rw [hexpired]; exact Bool.false_ne_true)]
    exact foldl_checkMessage_other (heq ▸ hkept) hafter
  · cases hqueued.symm.trans hremoved

variable (config) in
/-- A message that is not acknowledged is sent in a round exactly if its timeout has passed. -/
theorem mem_checkAll_iff (poll : Poll) (hdata : data ∈ queue.messageQueue)
    (hqueued : messageIsInQueue M poll.surroundings data = true) :
    data.serial ∈ (checkAll config M poll queue).2.map MessageData.serial ↔
      data.expirationGenerator.next.all (· ≤ poll.1) = true := by
  have hdue : isDue M poll.surroundings data = isExpired poll.surroundings data := by
    rw [isDue, hqueued, not_isSentOnce hqueued]
    rfl
  rw [checkAll, foldl_checkMessage_sent rfl rfl, List.nil_append, List.mem_map]
  constructor
  · rintro ⟨other, hother, heq⟩
    obtain ⟨hmem, hother⟩ := List.mem_filter.mp hother
    obtain rfl : other = data := List.inj_on_of_nodup_map hnumbered.increasing.nodup
      (mem_queueByUserId.mp hmem) hdata heq
    exact hdue.symm.trans hother
  · intro hexpired
    exact ⟨data, List.mem_filter.mpr ⟨mem_queueByUserId.mpr hdata, hdue.trans hexpired⟩, rfl⟩

end Numbered

/-! ## Messages that follow the timeouts -/

def Config.Constant (config : Config) : Prop :=
  ∀ k, timeoutExponentialBackoff config k = timeoutExponentialBackoff config 0

theorem countP_draws_of_single (hsplit : (queueByUserId queue).flatten = before ++ data :: after)
    (hqueued : messageIsInQueue M env data = true) (hsingle : queue.messageQueue.countP (shares M data.call) ≤ 1) :
    before.countP (draws M env data.call) = 0 ∧
      (queueByUserId queue).flatten.countP (draws M env data.call) = if isExpired env data then 1 else 0 := by
  have hbefore := countP_draws_le M env before data.call
  have hafter := countP_draws_le M env after data.call
  rw [← countP_shares, hsplit, List.countP_append, List.countP_cons, if_pos (shares_of_inQueue hqueued)] at hsingle
  rw [hsplit, List.countP_append, List.countP_cons, draws, hqueued]
  simp only [decide_true, Bool.true_and]
  omega

/-- A message that is not acknowledged follows the timeouts, if these are all the same or if no other
message of its call draws them. -/
theorem sendTimes_eq {position : Nat} {polls : List Poll} (hnumbered : Numbered queue)
    (hdata : data ∈ queue.messageQueue)
    (hqueued : ∀ poll ∈ polls, messageIsInQueue M poll.surroundings data = true)
    (hcase : config.Constant ∨ (queue.drawn.getD data.call 0 = position ∧
      queue.messageQueue.countP (shares M data.call) ≤ 1)) :
    sendTimes config M queue data.serial polls =
      schedule config position data.expirationGenerator.next (polls.map Prod.fst) := by
  induction polls generalizing queue data position with
  | nil => rfl
  | cons poll polls ih =>
    obtain ⟨hnow, hlater⟩ := List.forall_mem_cons.mp hqueued
    obtain ⟨before, after, hsplit⟩ := List.append_of_mem (mem_queueByUserId.mpr hdata)
    have hkept := checkAll_own config hnumbered hsplit hnow
    have hnumbered' := hnumbered.shrinks (checkAll_shrinks config M poll queue)
    have hnext : config.Constant ∨ _ := hcase.imp_right fun h => And.intro
      ((checkAll_drawn config M poll hnumbered hdata).trans
        (congrArg₂ (· + ·) h.1 (countP_draws_of_single hsplit hnow h.2).2))
      ((countP_shares_le (checkAll_shrinks config M poll queue)).trans h.2)
    rw [sendTimes, List.map_cons, schedule]
    have hsent := mem_checkAll_iff config hnumbered poll hdata hnow
    by_cases hexpired : isExpired poll.surroundings data = true
    · rw [if_pos (hsent.mpr hexpired), if_pos (hsent.mp (hsent.mpr hexpired))]
      have hposition : data.drew config poll.1 (queue.drawn.getD data.call 0 +
          before.countP (draws M poll.surroundings data.call)) = data.drew config poll.1 position := by
        rcases hcase with hconstant | ⟨hdrawn, hsingle⟩
        · rw [MessageData.drew, hconstant, ← hconstant position]
          rfl
        · rw [hdrawn, (countP_draws_of_single hsplit hnow hsingle).1, Nat.add_zero]
      rw [if_pos hexpired, hposition] at hkept
      rw [if_pos hexpired] at hnext
      exact congrArg (poll.1 :: ·) (ih hnumbered' hkept hlater hnext)
    · rw [if_neg (mt hsent.mp hexpired), if_neg (mt hsent.mpr (mt hsent.mp hexpired))]
      rw [if_neg hexpired] at hkept hnext
      exact ih hnumbered' hkept hlater hnext

/-! ## Messages that draw together -/

/-- Every number below the count is that of the occurrences before one. -/
theorem exists_of_lt_countP {p : MessageData μ → Bool} {j : Nat} (h : j < messages.countP p) :
    ∃ before data after, messages = before ++ data :: after ∧ p data = true ∧ before.countP p = j := by
  induction messages generalizing j with
  | nil => simp at h
  | cons head messages ih =>
    by_cases hhead : p head = true
    · cases j with
      | zero => exact ⟨[], head, messages, rfl, hhead, rfl⟩
      | succ j =>
        rw [List.countP_cons_of_pos hhead] at h
        obtain ⟨before, data, after, rfl, hdata, hcount⟩ := ih (Nat.lt_of_succ_lt_succ h)
        exact ⟨head :: before, data, after, rfl, hdata, by rw [List.countP_cons_of_pos hhead, hcount]⟩
    · rw [List.countP_cons_of_neg hhead] at h
      obtain ⟨before, data, after, rfl, hdata, hcount⟩ := ih h
      exact ⟨head :: before, data, after, rfl, hdata, by rw [List.countP_cons_of_neg hhead, hcount]⟩

/-- At the time of polling every message of a call draws a timeout, as at all times before. -/
structure InStep (M : Messages μ) (call count position : Nat) (poll : Poll) (queue : RetryQueue μ) : Prop where
  numbered : Numbered queue
  called : call < queue.drawn.length
  drawn_eq : queue.drawn.getD call 0 = count * position
  count_eq : queue.messageQueue.countP (shares M call) = count
  draws : ∀ data ∈ queue.messageQueue, shares M call data = true → draws M poll.surroundings call data = true

variable (config M) in
/-- The messages of a call are sent from a time on as the timeouts from a position on say. -/
def Follows (call position : Nat) (poll : Poll) (queue : RetryQueue μ) : Prop :=
  ∀ times, (poll.1 :: times).Pairwise (· < ·) → ∀ data ∈ queue.messageQueue, shares M call data = true →
    sendTimes config M queue data.serial (poll :: times.map (·, poll.2)) =
      schedule config position data.expirationGenerator.next (poll.1 :: times)

theorem eq_of_thresholds (now : ℚ) {a b : ℚ≥0}
    (h : ∀ later > now, now + a ≤ later ↔ now + b ≤ later) : a = b := by
  have hle : ∀ {a b : ℚ≥0}, (∀ later > now, now + a ≤ later ↔ now + b ≤ later) → b ≤ a := by
    intro a b h
    by_contra hlt
    have hlt : (a : ℚ) < b := NNRat.coe_lt_coe.mpr (not_le.mp hlt)
    have ha : (0 : ℚ) ≤ a := a.2
    have hbetween := (h (now + (a + b) / 2) (by linarith)).mp (by linarith)
    linarith
  exact le_antisymm (hle fun later hlater => (h later hlater).symm) (hle h)

namespace InStep

variable {count position j : Nat} (h : InStep M call count position poll queue) {now : ℚ}

include h

theorem countP_draws : (queueByUserId queue).flatten.countP (Transport.draws M poll.surroundings call) = count := by
  rw [← h.count_eq, ← countP_shares]
  exact List.countP_congr fun data hdata => ⟨shares_of_draws, h.draws data (mem_queueByUserId.mp hdata)⟩

variable (config) in
theorem kept (hdata : data ∈ queue.messageQueue) (hshares : shares M call data = true) :
    ∃ j < count, data.drew config poll.1 (count * position + j) ∈
      (checkAll config M poll queue).1.messageQueue := by
  obtain ⟨before, after, hsplit⟩ := List.append_of_mem (mem_queueByUserId.mpr hdata)
  have hdraws := h.draws data hdata hshares
  have hcount := h.countP_draws
  rw [hsplit, List.countP_append, List.countP_cons_of_pos hdraws] at hcount
  obtain ⟨rfl, hqueued, hexpired⟩ := draws_iff.mp hdraws
  have hkept := checkAll_own config h.numbered hsplit hqueued
  rw [if_pos hexpired, h.drawn_eq] at hkept
  exact ⟨_, by omega, hkept⟩

variable (config) in
theorem exists_kept (hj : j < count) : ∃ data ∈ queue.messageQueue, shares M call data = true ∧
    data.drew config poll.1 (count * position + j) ∈ (checkAll config M poll queue).1.messageQueue := by
  rw [← h.countP_draws] at hj
  obtain ⟨before, data, after, hsplit, hdraws, rfl⟩ := exists_of_lt_countP hj
  have hdata : data ∈ queue.messageQueue := mem_queueByUserId.mp (by rw [hsplit]; simp)
  obtain ⟨rfl, hqueued, hexpired⟩ := draws_iff.mp hdraws
  have hkept := checkAll_own config h.numbered hsplit hqueued
  rw [if_pos hexpired, h.drawn_eq] at hkept
  exact ⟨data, hdata, shares_of_draws hdraws, hkept⟩

theorem origin {data' : MessageData μ} (hdata' : data' ∈ (checkAll config M poll queue).1.messageQueue)
    (hshares' : shares M call data' = true) : ∃ data ∈ queue.messageQueue, shares M call data = true ∧
      ∃ j < count, data' = data.drew config poll.1 (count * position + j) := by
  obtain ⟨data, hdata, heq⟩ := (checkAll_shrinks config M poll queue).origin hdata'
  have hshares : shares M call data.reset = shares M call data'.reset := by rw [heq]
  have hserial : data.reset.serial = data'.reset.serial := by rw [heq]
  obtain ⟨j, hj, hkept⟩ := h.kept config hdata (hshares.trans hshares')
  exact ⟨data, hdata, hshares.trans hshares', j, hj, List.inj_on_of_nodup_map
    (h.numbered.shrinks (checkAll_shrinks config M poll queue)).increasing.nodup hdata' hkept hserial.symm⟩

theorem next (hlater : ∀ k, poll.1 + timeoutExponentialBackoff config k ≤ now) :
    InStep M call count (position + 1) (now, poll.2) (checkAll config M poll queue).1 := by
  have hshrinks := checkAll_shrinks config M poll queue
  refine ⟨h.numbered.shrinks hshrinks, hshrinks.drawn_length ▸ h.called, ?_, ?_, ?_⟩
  · have hdrawn : (checkAll config M poll queue).1.drawn.getD call 0 = _ := foldl_checkMessage_drawn h.called
    rw [hdrawn, h.countP_draws, h.drawn_eq]
    rfl
  · refine Nat.le_antisymm ((countP_shares_le hshrinks).trans_eq h.count_eq) ?_
    have hnodup : ((queue.messageQueue.filter (shares M call)).map MessageData.serial).Nodup :=
      h.numbered.increasing.nodup.sublist (List.filter_sublist.map _)
    have hsubset : (queue.messageQueue.filter (shares M call)).map MessageData.serial ⊆
        ((checkAll config M poll queue).1.messageQueue.filter (shares M call)).map MessageData.serial := by
      intro serial hserial
      obtain ⟨data, hdata, rfl⟩ := List.mem_map.mp hserial
      obtain ⟨hdata, hshares⟩ := List.mem_filter.mp hdata
      obtain ⟨_, -, hkept⟩ := h.kept config hdata hshares
      exact List.mem_map.mpr ⟨_, List.mem_filter.mpr ⟨hkept, hshares⟩, rfl⟩
    have hle := (List.subperm_of_subset hnodup hsubset).length_le
    rwa [List.length_map, List.length_map, ← List.countP_eq_length_filter, ← List.countP_eq_length_filter,
      h.count_eq] at hle
  · intro data' hdata' hshares'
    obtain ⟨data, hdata, hshares, j, -, rfl⟩ := h.origin hdata' hshares'
    obtain ⟨hcall, hqueued, -⟩ := draws_iff.mp (h.draws data hdata hshares)
    exact draws_iff.mpr ⟨hcall, hqueued, decide_eq_true (hlater _)⟩

variable (hfollows : Follows config M call position poll queue)

include hfollows

theorem followed {times : List ℚ} (htimes : (poll.1 :: times).Pairwise (· < ·))
    (hdata : data ∈ queue.messageQueue)
    (hshares : shares M call data = true) :
    sendTimes config M (checkAll config M poll queue).1 data.serial (times.map (·, poll.2)) =
      schedule config (position + 1) (some (poll.1 + timeoutExponentialBackoff config position)) times := by
  have heq := hfollows times htimes data hdata hshares
  obtain ⟨-, hqueued, hexpired⟩ := draws_iff.mp (h.draws data hdata hshares)
  have hsent := mem_checkAll_iff config h.numbered poll hdata hqueued
  rw [sendTimes, schedule, if_pos (hsent.mpr hexpired), if_pos (hsent.mp (hsent.mpr hexpired))] at heq
  exact (List.cons.inj heq).2

theorem timeout_eq (hj : j < count) :
    timeoutExponentialBackoff config (count * position + j) = timeoutExponentialBackoff config position := by
  obtain ⟨data, hdata, hshares, hkept⟩ := h.exists_kept config hj
  obtain ⟨-, hqueued, -⟩ := draws_iff.mp (h.draws data hdata hshares)
  refine eq_of_thresholds poll.1 fun later hlater => ?_
  have htimes : (poll.1 :: [later]).Pairwise (· < ·) := by simpa using hlater
  have heq := h.followed hfollows htimes hdata hshares
  have hsent : later ∈ sendTimes config M (checkAll config M poll queue).1 data.serial [(later, poll.2)] ↔
      poll.1 + timeoutExponentialBackoff config (count * position + j) ≤ later := by
    refine Iff.trans ?_ ((mem_checkAll_iff config (h.numbered.shrinks (checkAll_shrinks config M poll queue))
      (later, poll.2) hkept hqueued).trans decide_eq_true_iff)
    simp [sendTimes, MessageData.drew]
  rw [← hsent, ← List.map_singleton (f := (·, poll.2)), heq]
  simp [schedule]

theorem follows_next (hnow : poll.1 < now) :
    Follows config M call (position + 1) (now, poll.2) (checkAll config M poll queue).1 := by
  intro times htimes data' hdata' hshares'
  obtain ⟨data, hdata, hshares, j, hj, rfl⟩ := h.origin hdata' hshares'
  have htimes' : (poll.1 :: now :: times).Pairwise (· < ·) := by
    refine List.pairwise_cons.mpr ⟨List.forall_mem_cons.mpr ⟨hnow, fun time htime => ?_⟩, htimes⟩
    exact hnow.trans ((List.pairwise_cons.mp htimes).1 time htime)
  have heq := h.followed hfollows htimes' hdata hshares
  rw [← h.timeout_eq hfollows hj] at heq
  exact heq

end InStep

/-- If the messages of a call, at least two, all follow the timeouts, then these are all the same. -/
theorem timeouts_constant {count : Nat} (hcount : 1 < count)
    (h : InStep M call count 0 poll queue) (hfollows : Follows config M call 0 poll queue) : config.Constant := by
  -- no timeout is longer
  let longest : ℚ≥0 := max config.retryIntervalInitial config.retryIntervalMax
  have hlongest (k : Nat) : timeoutExponentialBackoff config k ≤ longest := by
    unfold timeoutExponentialBackoff
    split
    · exact le_max_left ..
    · exact (min_le_right ..).trans (le_max_right ..)
  have hreach (position : Nat) : ∃ poll queue, InStep M call count position poll queue ∧
      Follows config M call position poll queue := by
    induction position with
    | zero => exact ⟨poll, queue, h, hfollows⟩
    | succ position ih =>
      obtain ⟨poll, queue, h, hfollows⟩ := ih
      refine ⟨(poll.1 + longest + 1, poll.2), _, h.next fun k => ?_, h.follows_next hfollows ?_⟩
      · linarith only [NNRat.coe_le_coe.mpr (hlongest k)]
      · linarith only [NNRat.coe_nonneg longest]
  intro k
  induction k using Nat.strongRecOn with
  | ind k ih =>
    obtain rfl | hpos := Nat.eq_zero_or_pos k
    · rfl
    · obtain ⟨poll, queue, h, hfollows⟩ := hreach (k / count)
      rw [← ih (k / count) (Nat.div_lt_self hpos hcount),
        ← h.timeout_eq hfollows (Nat.mod_lt k (Nat.zero_lt_of_lt hcount)), Nat.div_add_mod]

/-! ## Calls of `enqueue` -/

section Enqueue

variable [BEq μ] {toChecksumAddress : Address → String} {queueIdentifier : QueueIdentifier}
  {messages : List (μ × Option AddressMetadata)} {added : List (MessageData μ)}

section

variable (h : Enqueued queue queueIdentifier messages added queue') (hnumbered : Numbered queue)

include h hnumbered

/-- The messages of the call are those with its source of timeouts and those with the new numbers. -/
theorem Enqueued.cases (hdata : data ∈ queue'.messageQueue) :
    (data ∈ added ∧ data.call = queue.drawn.length ∧ queue.generators ≤ data.serial) ∨
      (data ∈ queue.messageQueue ∧ data.call ≠ queue.drawn.length ∧ data.serial < queue.generators) := by
  rw [h.messageQueue_eq] at hdata
  obtain hold | hnew := List.mem_append.mp hdata
  · exact .inr ⟨hold, Nat.ne_of_lt (hnumbered.called data hold), hnumbered.made _ (List.mem_map_of_mem hold)⟩
  · have hserial := List.mem_map_of_mem (f := MessageData.serial) hnew
    rw [h.serial_eq, List.mem_range'_1] at hserial
    exact .inl ⟨hnew, (h.data_eq data hnew).2.1, hserial.1⟩

theorem Enqueued.countP_shares : queue'.messageQueue.countP (shares M queue.drawn.length) =
      ((newMessages queue queueIdentifier messages).map Prod.fst).countP (isRetrieable M) := by
  have hold : queue.messageQueue.countP (shares M queue.drawn.length) = 0 := by
    refine List.countP_eq_zero.mpr fun data hdata hshares => ?_
    exact Nat.ne_of_lt (hnumbered.called data hdata) (shares_iff.mp hshares).1
  rw [h.messageQueue_eq, List.countP_append, hold, Nat.zero_add, ← h.message_eq, List.countP_map]
  refine List.countP_congr fun data hdata => ?_
  rw [shares_iff, and_iff_right (h.data_eq data hdata).2.1]
  rfl

/-- The state of the node in which none of the messages is acknowledged. -/
def unacknowledged (M : Messages μ) (queueIdentifier : QueueIdentifier) (added : List (MessageData μ)) :
    Dict QueueIdentifier (List MessageID) :=
  Dict.empty.set queueIdentifier (added.filterMap fun data => retrieableIdentifier M data.message)

theorem Enqueued.unacknowledged (hdata : data ∈ queue'.messageQueue)
    (hshares : shares M queue.drawn.length data = true) :
    queue.generators ≤ data.serial ∧ data.expirationGenerator.next = none ∧
      ∀ now, messageIsInQueue M (Poll.surroundings (now, unacknowledged M queueIdentifier added)) data = true := by
  obtain ⟨hcall, hretrieable⟩ := shares_iff.mp hshares
  obtain ⟨hnew, -, hserial⟩ | ⟨-, hother, -⟩ := h.cases hnumbered hdata
  · obtain ⟨hqueue, -, hnext⟩ := h.data_eq data hnew
    obtain ⟨messageIdentifier, hidentifier⟩ := Option.isSome_iff_exists.mp hretrieable
    refine ⟨hserial, hnext, fun now => messageIsInQueue_iff.mpr
      ⟨added.filterMap fun data => retrieableIdentifier M data.message, ?_, messageIdentifier,
        List.mem_filterMap.mpr ⟨data, hnew, hidentifier⟩, hidentifier⟩⟩
    rw [hqueue]
    exact Dict.get?_set_self ..
  · exact absurd hcall hother

end

/-- Each message of the call that made the generators from the number on is sent, while it is not acknowledged,
at the times that the configured timeouts say. -/
def Independent (config : Config) (M : Messages μ) (first : Nat) (queue : RetryQueue μ) : Prop :=
  ∀ polls : List Poll, (polls.map Prod.fst).Pairwise (· < ·) →
    ∀ data ∈ queue.messageQueue, first ≤ data.serial →
      (∀ poll ∈ polls, messageIsInQueue M poll.surroundings data = true) →
      sendTimes config M queue data.serial polls = schedule config 0 none (polls.map Prod.fst)

/-- The messages of a call of `enqueue` are each sent at the times that the configured timeouts say exactly
if at most one of them is sent more than once, or the timeouts are all the same. -/
theorem schedules_independent_iff {receiver : Address} {calls : List (Call μ)}
    (run : Run (Next config M toChecksumAddress) { receiver } calls queue)
    (h : enqueue M toChecksumAddress queue queueIdentifier messages = .ok queue') :
    Independent config M queue.generators queue' ↔
    (((newMessages queue queueIdentifier messages).map Prod.fst).countP (isRetrieable M) ≤ 1 ∨
      config.Constant) := by
  obtain ⟨added, hadded⟩ := enqueue_ok h
  have hnumbered := numbered run
  have hnumbered' := hadded.numbered hnumbered
  have hdrawn : queue'.drawn.getD queue.drawn.length 0 = 0 := by simp [hadded.drawn_eq]
  rw [← hadded.countP_shares hnumbered]
  constructor
  · intro hindependent
    refine or_iff_not_imp_left.mpr fun hcount => ?_
    have hstep : InStep M queue.drawn.length (queue'.messageQueue.countP (shares M queue.drawn.length)) 0
        (0, unacknowledged M queueIdentifier added) queue' := by
      refine ⟨hnumbered', by simp [hadded.drawn_eq], hdrawn, rfl, fun data hdata hshares => ?_⟩
      obtain ⟨-, hnext, hqueued⟩ := hadded.unacknowledged hnumbered hdata hshares
      exact draws_iff.mpr ⟨(shares_iff.mp hshares).1, hqueued 0, by rw [isExpired, hnext]; rfl⟩
    refine timeouts_constant (Nat.lt_of_not_le hcount) hstep fun times htimes data hdata hshares => ?_
    obtain ⟨hserial, hnext, hqueued⟩ := hadded.unacknowledged hnumbered hdata hshares
    have htimes_eq : ((0 :: times).map fun time => (time, unacknowledged M queueIdentifier added)).map Prod.fst =
        0 :: times := by rw [List.map_map]; exact List.map_id _
    have heq := hindependent ((0 :: times).map (·, unacknowledged M queueIdentifier added))
      (by rw [htimes_eq]; exact htimes) data hdata hserial
    rw [htimes_eq] at heq
    rw [hnext]
    refine heq fun poll hpoll => ?_
    obtain ⟨time, -, rfl⟩ := List.mem_map.mp hpoll
    exact hqueued time
  · intro hcase polls _ data hdata hserial hqueued
    obtain ⟨hnew, hcall, -⟩ | ⟨-, -, hold⟩ := hadded.cases hnumbered hdata
    · rw [sendTimes_eq hnumbered' hdata hqueued, (hadded.data_eq data hnew).2.2]
      rw [hcall]
      exact hcase.symm.imp_right fun hcount => ⟨hdrawn, hcount⟩
    · exact absurd hserial (Nat.not_le_of_lt hold)

end Enqueue

/-- Of two messages that are enqueued together the second is not sent again after the initial interval. -/
theorem second_message_waits_longer :
    enqueue toyMessages toString { receiver := 1 } toyQueueIdentifier
        [(1, some { userId := some "@receiver" }), (2, some { userId := some "@receiver" })] =
      .ok (toyQueue (some { userId := some "@receiver" })) ∧
    ¬Independent ⟨1, 5, 60⟩ toyMessages 0 (toyQueue (some { userId := some "@receiver" })) := by
  refine ⟨rfl, fun h => ?_⟩
  have hsent := h ([0, 5].map (·, toySurroundings.queueidsToQueues)) (by decide +kernel)
  revert hsent
  decide +kernel

/-- Two messages that are enqueued together follow timeouts that do not increase. -/
theorem two_messages_follow : Independent ⟨1, 5, 5⟩ toyMessages 0 (toyQueue none) := by
  have run : Run (Next ⟨1, 5, 5⟩ toyMessages toString) { receiver := 1 } [] { receiver := 1 } := .start _
  have henqueue : enqueue toyMessages toString { receiver := 1 } toyQueueIdentifier
      [(1, some { userId := some "@receiver" }), (2, none)] = .ok (toyQueue none) := rfl
  refine (schedules_independent_iff run henqueue).mpr (.inr fun k => ?_)
  unfold timeoutExponentialBackoff
  split
  · rfl
  · exact min_eq_right (le_mul_of_one_le_right (by decide) (one_le_pow₀ (by decide)))

/-- The first round after two messages were enqueued does not raise, and sends both. -/
theorem first_round_sends_both :
    let poll : Poll := (0, toySurroundings.queueidsToQueues)
    let round := checkAndSend ⟨1, 5, 60⟩ toyMessages poll.surroundings (toyQueue none)
    round.handed.length = 2 ∧
      (round.queue, round.handed) = checkAll ⟨1, 5, 60⟩ toyMessages poll (toyQueue none) :=
  ⟨by decide +kernel, checkAndSend_eq (by decide +kernel)⟩

end Raiden.Transport
