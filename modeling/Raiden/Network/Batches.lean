import Mathlib.Algebra.BigOperators.Group.List.Basic
import Mathlib.Algebra.GroupWithZero.Nat
import Mathlib.Data.String.Basic

/-! # Batches of messages

The texts that are sent to one user are joined with newlines into batches. The size
that is compared with the maximum counts the texts and not the newlines between
them, so a batch of several texts can be longer than the maximum. -/
namespace Raiden.Transport

variable {α : Type}

def matrixMaxBatchSize : Nat := 50000

/-- The batches of `make_message_batches`, up to the error it may end with. -/
def makeMessageBatches (text : α → String) (maxBatchSize : Nat) (currentBatch : List α) (size : Nat) :
    List α → List (List α) × Option String
  | [] => (if currentBatch.isEmpty then [] else [currentBatch], none)
  | message :: rest =>
    if maxBatchSize < size + (text message).length then
      if size = 0 then ([], some (s!"Message exceeds batch size. Size: {(text message).length}, " ++
        s!"Max: {matrixMaxBatchSize}, Message: {text message}"))
      else
        let later := makeMessageBatches text maxBatchSize [message] (text message).length rest
        (currentBatch :: later.1, later.2)
    else makeMessageBatches text maxBatchSize (currentBatch ++ [message]) (size + (text message).length) rest

def joined (text : α → String) (batch : List α) : String := "\n".intercalate (batch.map text)

section

variable (text : α → String) (maxBatchSize : Nat) {size : Nat} {batch messages : List α}

theorem makeMessageBatches_of_size (hsize : size ≠ 0) (hbatch : batch ≠ [])
    (htexts : ∀ msg ∈ messages, (text msg).length ≠ 0) :
    (makeMessageBatches text maxBatchSize batch size messages).1.flatten = batch ++ messages ∧
      (makeMessageBatches text maxBatchSize batch size messages).2 = none ∧
      ∀ batch' ∈ (makeMessageBatches text maxBatchSize batch size messages).1, batch' ≠ [] := by
  induction messages generalizing batch size with
  | nil => simp [makeMessageBatches, hbatch]
  | cons msg messages ih =>
    obtain ⟨hmessage, hrest⟩ := List.forall_mem_cons.mp htexts
    by_cases hlong : maxBatchSize < size + (text msg).length
    · obtain ⟨hall, hraised, hnonempty⟩ := ih hmessage (List.cons_ne_nil msg []) hrest
      rw [makeMessageBatches, if_pos hlong, if_neg hsize]
      exact ⟨congrArg (batch ++ ·) hall, hraised, List.forall_mem_cons.mpr ⟨hbatch, hnonempty⟩⟩
    · have hall := @ih (size + (text msg).length) (batch ++ [msg]) (by omega) (by simp) hrest
      rw [List.append_assoc] at hall
      rwa [makeMessageBatches, if_neg hlong]

end

end Raiden.Transport
