import Mathlib.Init

/-! # Runs of a labelled transition system

A run records its labels in order, so an invariant may speak about everything
that happened so far. The first rule is for invariants of the state alone, the
second for invariants of the state and the log. -/
namespace Raiden.Lib

universe u v w

variable {σ : Type u} {ℓ : Type v}

/-- `Run step s log t`: from `s` the steps labelled by `log` lead to `t`. -/
inductive Run (step : σ → ℓ → σ → Prop) : σ → List ℓ → σ → Prop
  | start (s : σ) : Run step s [] s
  | step {s t u : σ} {log : List ℓ} {l : ℓ} (past : Run step s log t) (last : step t l u) :
      Run step s (log ++ [l]) u

namespace Run

variable {step : σ → ℓ → σ → Prop} {s t : σ} {log : List ℓ}

/-- What every step preserves holds at the end of every run. -/
theorem invariant {I : σ → Prop} (h : Run step s log t) (hs : I s)
    (preserved : ∀ t l u, I t → step t l u → I u) : I t := by
  induction h with
  | start => exact hs
  | step _ last ih => exact preserved _ _ _ ih last

/-- As `invariant`, for a property of the state and of what happened before it. -/
theorem invariant_log {I : List ℓ → σ → Prop} (h : Run step s log t) (hs : I [] s)
    (preserved : ∀ log t l u, I log t → step t l u → I (log ++ [l]) u) : I log t := by
  induction h with
  | start => exact hs
  | step _ last ih => exact preserved _ _ _ _ ih last

theorem mono {step' : σ → ℓ → σ → Prop} (h : Run step s log t)
    (weaker : ∀ t l u, step t l u → step' t l u) : Run step' s log t := by
  induction h with
  | start => exact .start _
  | step _ last ih => exact ih.step (weaker _ _ _ last)

end Run

/-- Execute inputs in order, and record the label of every step. -/
def execute {ι : Type w} (next : σ → ι → Option (ℓ × σ)) (inputs : List ι) (start : List ℓ × σ) :
    Option (List ℓ × σ) :=
  inputs.foldlM (fun at' i => (next at'.2 i).map fun done => (at'.1 ++ [done.1], done.2)) start

/-- An execution that ends where `p` holds continues a run to such a state. -/
theorem Run.execute {ι : Type w} {step : σ → ℓ → σ → Prop} {next : σ → ι → Option (ℓ × σ)}
    {inputs : List ι} {s : σ} {start : List ℓ × σ} (past : Run step s start.1 start.2)
    {p : List ℓ × σ → Bool} (h : (execute next inputs start).any p = true)
    (sound : ∀ s i l t, next s i = some (l, t) → step s l t) :
    ∃ log t, Run step s log t ∧ p (log, t) = true := by
  induction inputs generalizing start with
  | nil => exact ⟨start.1, start.2, past, h⟩
  | cons i inputs ih =>
    obtain ⟨finish, hexec, hfinish⟩ := (Option.any_eq_true _ _).mp h
    rw [Lib.execute, List.foldlM_cons, Option.bind_eq_bind, Option.bind_eq_some_iff] at hexec
    obtain ⟨middle, hmiddle, hexec⟩ := hexec
    obtain ⟨done, hdone, rfl⟩ := Option.map_eq_some_iff.mp hmiddle
    exact ih (past.step (sound _ _ _ _ hdone)) ((Option.any_eq_true _ _).mpr ⟨finish, hexec, hfinish⟩)

end Raiden.Lib
