import Mathlib.Control.Monad.Basic
import Mathlib.Data.List.Forall2

/-! # Executions that draw from a source and may raise

Code that consumes a source of random numbers and can raise is a state monad
over `Except`. `Ensures` is partial correctness (what holds of a result that is
returned), `Fails` says what holds of an error that is raised, and `Returns` is
total correctness (a result is returned, and what holds of it); `ReturnsOr`
allows for one error, and `Raises` says that it is raised. All ignore the state
of the source, so one rule per construct is enough to follow the code. -/
namespace Raiden.Lib

universe u

variable {σ ε α β : Type u} {first x : Except ε α} {a : α} {b : β} {e : ε} {s s' : σ}

/-- Code over a source `σ` that may raise `ε`. -/
abbrev Exec (σ ε : Type u) (α : Type u) : Type u := StateT σ (Except ε) α

/-- Every result that is returned satisfies `Q`. -/
def Ensures (m : Exec σ ε α) (Q : α → Prop) : Prop :=
  ∀ s a s', m.run s = .ok (a, s') → Q a

/-- A result is returned from every state of the source, and it satisfies `Q`. -/
def Returns (m : Exec σ ε α) (Q : α → Prop) : Prop :=
  ∀ s, ∃ a s', m.run s = .ok (a, s') ∧ Q a

section Partial

theorem error_ne_ok : (.error e : Except ε α) ≠ .ok a := nofun

variable {next : α → Except ε β}

/-- A sequence of two checks succeeds exactly when both parts do. -/
theorem seq_ok_iff : (first >>= next) = .ok b ↔ ∃ a, first = .ok a ∧ next a = .ok b := by
  rcases first with e | a
  · exact ⟨nofun, nofun⟩
  · exact ⟨fun h => ⟨a, rfl, h⟩, fun ⟨_, ha, h⟩ => by cases ha; exact h⟩

theorem seq_error_iff :
    (first >>= next) = .error e ↔ first = .error e ∨ ∃ a, first = .ok a ∧ next a = .error e := by
  rcases first with e' | a
  · constructor
    · intro h
      cases h
      exact .inl rfl
    · rintro (h | ⟨_, ha, _⟩)
      · cases h
        rfl
      · cases ha
  · constructor
    · exact fun h => .inr ⟨a, rfl, h⟩
    · rintro (h | ⟨_, ha, h⟩)
      · cases h
      · cases ha
        exact h

/-- A filter by a predicate that may raise is a filter, if nothing was raised. -/
theorem filterM_ok {ε α : Type} {p : α → Except ε Bool} {xs ys : List α} (h : xs.filterM p = .ok ys) :
    ∃ q : α → Bool, (∀ x ∈ xs, p x = .ok (q x)) ∧ ys = xs.filter q := by
  have haux : ∀ (xs acc ys : List α), xs.filterAuxM p acc = .ok ys →
      (∀ x ∈ xs, p x = .ok ((p x).toOption.getD false)) ∧
        ys = (xs.filter fun x => (p x).toOption.getD false).reverse ++ acc := by
    intro xs
    induction xs with
    | nil =>
      intro acc ys h
      cases h
      exact ⟨nofun, rfl⟩
    | cons x xs ih =>
      intro acc ys h
      rw [List.filterAuxM, seq_ok_iff] at h
      obtain ⟨b, hb, h⟩ := h
      obtain ⟨hall, rfl⟩ := ih _ _ h
      refine ⟨List.forall_mem_cons.mpr ⟨by rw [hb]; rfl, hall⟩, ?_⟩
      cases b <;> simp [hb, Except.toOption]
  rw [List.filterM, seq_ok_iff] at h
  obtain ⟨zs, hzs, h⟩ := h
  cases h
  obtain ⟨hall, rfl⟩ := haux xs [] zs hzs
  exact ⟨_, hall, by simp⟩

/-- A map that may raise gives one result for every element, if nothing was raised. -/
theorem mapM_ok {ε α β : Type} {g : α → Except ε β} {xs : List α} {ys : List β} (h : xs.mapM g = .ok ys) :
    List.Forall₂ (fun x y => g x = .ok y) xs ys := by
  induction xs generalizing ys with
  | nil =>
    cases h
    exact .nil
  | cons x xs ih =>
    rw [List.mapM_cons, seq_ok_iff] at h
    obtain ⟨y, hy, h⟩ := h
    rw [seq_ok_iff] at h
    obtain ⟨zs, hzs, h⟩ := h
    cases h
    exact .cons hy (ih hzs)

variable {m : Exec σ ε α} {Q R : α → Prop} {f : α → Exec σ ε β}

theorem run_bind_eq_ok {s'' : σ} :
    (m >>= f).run s = .ok (b, s'') ↔ ∃ a s', m.run s = .ok (a, s') ∧ (f a).run s' = .ok (b, s'') := by
  rw [StateT.run_bind, seq_ok_iff]
  simp

theorem run_pure_eq_ok {b : α} : (pure a : Exec σ ε α).run s = .ok (b, s') ↔ a = b ∧ s = s' := by
  rw [StateT.run_pure]
  simp [pure, Except.pure]

theorem run_lift_eq_ok : (liftM x : Exec σ ε α).run s = .ok (a, s') ↔ x = .ok a ∧ s = s' := by
  cases x with
  | error e => simp [liftM, monadLift, MonadLift.monadLift, StateT.lift, StateT.run, bind, Except.bind]
  | ok a => simp [liftM, monadLift, MonadLift.monadLift, StateT.lift, StateT.run, bind, Except.bind,
      pure, Except.pure]

theorem Ensures.mono (h : Ensures m Q) (hQR : ∀ a, Q a → R a) : Ensures m R :=
  fun s a s' hr => hQR a (h s a s' hr)

theorem Ensures.and (h : Ensures m Q) (h' : Ensures m R) : Ensures m fun a => Q a ∧ R a :=
  fun s a s' hr => ⟨h s a s' hr, h' s a s' hr⟩

theorem Ensures.pure (h : Q a) : Ensures (pure a : Exec σ ε α) Q := by
  intro s b s' hr
  obtain ⟨rfl, -⟩ := run_pure_eq_ok.mp hr
  exact h

theorem Ensures.bind {R : β → Prop}
    (hm : Ensures m Q) (hf : ∀ a, Q a → Ensures (f a) R) : Ensures (m >>= f) R := by
  intro s b s'' hr
  obtain ⟨a, s', ha, hb⟩ := run_bind_eq_ok.mp hr
  exact hf a (hm s a s' ha) s' b s'' hb

/-- Nothing need be known of what the first part returns. -/
theorem Ensures.after {R : β → Prop} (hf : ∀ a, Ensures (f a) R) : Ensures (m >>= f) R :=
  .bind (Q := fun _ => True) (fun _ _ _ _ => trivial) fun a _ => hf a

theorem Ensures.throw : Ensures (throw e : Exec σ ε α) Q := by
  intro s a s' hr
  cases hr

theorem Ensures.ran (m : Exec σ ε α) : Ensures m fun a => ∃ s s', m.run s = .ok (a, s') :=
  fun s _ s' hrun => ⟨s, s', hrun⟩

theorem Ensures.lift (h : ∀ a, x = .ok a → Q a) : Ensures (liftM x : Exec σ ε α) Q := by
  intro s a s' hr
  exact h a (run_lift_eq_ok.mp hr).1

end Partial

section Errors

/-- Every error that is raised satisfies `Q`. -/
def Fails (m : Exec σ ε α) (Q : ε → Prop) : Prop :=
  ∀ s e, m.run s = .error e → Q e

variable {Q : ε → Prop}

theorem Fails.pure : Fails (pure a : Exec σ ε α) Q := nofun

theorem Fails.bind {m : Exec σ ε α} {f : α → Exec σ ε β} (hm : Fails m Q)
    (hf : ∀ a, Fails (f a) Q) : Fails (m >>= f) Q := by
  intro s e he
  rw [StateT.run_bind, seq_error_iff] at he
  rcases he with he | ⟨⟨a, s'⟩, -, he⟩
  · exact hm s e he
  · exact hf a s' e he

theorem Fails.lift (h : ∀ e, x = .error e → Q e) : Fails (liftM x : Exec σ ε α) Q := by
  intro s e he
  cases x with
  | error e' =>
    cases he
    exact h e rfl
  | ok a => cases he

end Errors

section Total

theorem Returns.pure {Q : α → Prop} (h : Q a) : Returns (pure a : Exec σ ε α) Q :=
  fun s => ⟨a, s, run_pure_eq_ok.mpr ⟨rfl, rfl⟩, h⟩

variable {m : Exec σ ε α}

theorem Returns.bind {f : α → Exec σ ε β} {Q : α → Prop} {R : β → Prop}
    (hm : Returns m Q) (hf : ∀ a, Q a → Returns (f a) R) : Returns (m >>= f) R := by
  intro s
  obtain ⟨a, s', ha, hQ⟩ := hm s
  obtain ⟨b, s'', hb, hR⟩ := hf a hQ s'
  exact ⟨b, s'', run_bind_eq_ok.mpr ⟨a, s', ha, hb⟩, hR⟩

theorem Returns.lift {Q : α → Prop} (h : x = .ok a) (hQ : Q a) : Returns (liftM x : Exec σ ε α) Q :=
  fun s => ⟨a, s, run_lift_eq_ok.mpr ⟨h, rfl⟩, hQ⟩

/-- Executions are deterministic, so total correctness includes partial correctness. -/
theorem Returns.ensures {Q : α → Prop} (h : Returns m Q) : Ensures m Q := by
  intro s a s' hr
  obtain ⟨b, s'', hb, hQ⟩ := h s
  rw [hr] at hb
  cases hb
  exact hQ

theorem Returns.mono {Q R : α → Prop} (h : Returns m Q) (hQR : ∀ a, Q a → R a) : Returns m R := by
  intro s
  obtain ⟨a, s', ha, hQ⟩ := h s
  exact ⟨a, s', ha, hQR a hQ⟩

theorem Returns.and_ensures {Q R : α → Prop} (h : Returns m Q) (hR : Ensures m R) :
    Returns m fun a => Q a ∧ R a := by
  intro s
  obtain ⟨a, s', ha, hQ⟩ := h s
  exact ⟨a, s', ha, hQ, hR s a s' ha⟩

end Total

section OneError

/-- From every state of the source a result is returned or `e` is raised. -/
def ReturnsOr (m : Exec σ ε α) (e : ε) : Prop :=
  ∀ s, (∃ r, m.run s = .ok r) ∨ m.run s = .error e

/-- `e` is raised from every state of the source. -/
def Raises (m : Exec σ ε α) (e : ε) : Prop := ∀ s, m.run s = .error e

variable {m : Exec σ ε α} {f : α → Exec σ ε β} {e e' : ε}

theorem ReturnsOr.pure : ReturnsOr (pure a : Exec σ ε α) e :=
  fun s => .inl ⟨(a, s), rfl⟩

theorem ReturnsOr.lift (h : (∃ a, x = .ok a) ∨ x = .error e) :
    ReturnsOr (liftM x : Exec σ ε α) e := by
  intro s
  rcases h with ⟨a, rfl⟩ | rfl
  · exact .inl ⟨(a, s), rfl⟩
  · exact .inr rfl

theorem ReturnsOr.bind {Q : α → Prop} (hm : ReturnsOr m e) (hQ : Ensures m Q)
    (hf : ∀ a, Q a → ReturnsOr (f a) e) : ReturnsOr (m >>= f) e := by
  intro s
  rw [StateT.run_bind]
  rcases hm s with ⟨⟨a, s'⟩, ha⟩ | he
  · rw [ha]
    exact hf a (hQ s a s' ha) s'
  · rw [he]
    exact .inr rfl

theorem ReturnsOr.after (hm : ReturnsOr m e) (hf : ∀ a, ReturnsOr (f a) e) : ReturnsOr (m >>= f) e :=
  .bind (Q := fun _ => True) hm (fun _ _ _ _ => trivial) fun a _ => hf a

theorem Raises.throw : Raises (throw e : Exec σ ε α) e := fun _ => rfl

theorem Raises.lift (h : x = .error e) : Raises (liftM x : Exec σ ε α) e := by
  intro s
  rw [h]
  rfl

theorem Raises.bind (h : Raises m e) : Raises (m >>= f) e := by
  intro s
  rw [StateT.run_bind, h s]
  rfl

theorem Raises.not_returnsOr [Nonempty σ] (h : Raises m e) (hne : e ≠ e') : ¬ReturnsOr m e' := by
  intro hr
  obtain ⟨s⟩ := (inferInstance : Nonempty σ)
  rcases hr s with ⟨r, hok⟩ | herr
  · rw [h s] at hok
    cases hok
  · rw [h s] at herr
    exact hne (Except.error.inj herr)

end OneError

end Raiden.Lib
