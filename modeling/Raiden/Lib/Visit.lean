import Mathlib.Data.List.Forall2
import Mathlib.Data.List.Zip
import Raiden.Lib.Exec

/-! # Loops that update the objects they visit

A loop over a list of objects that replaces each object, threads a store and
emits outputs. The rules turn a fact about one visit into a fact about the
loop: an invariant of the objects still to visit and of the store, and a
relation between each object, its replacement and what its visit emitted. -/
namespace Raiden.Lib

universe u

variable {σ ε S α E : Type u} {xs : List α}

/-- Visit the objects in order. -/
def visit (f : S → α → Exec σ ε (S × α × List E)) : S → List α → Exec σ ε (S × List α × List E)
  | s, [] => pure (s, [], [])
  | s, x :: xs => do
    let (s, x, out) ← f s x
    let (s, xs, later) ← visit f s xs
    return (s, x :: xs, out ++ later)

/-- Visit the objects from the last one to the first. -/
def visitReversed (f : S → α → Exec σ ε (S × α × List E)) (s : S) (xs : List α) :
    Exec σ ε (S × List α × List E) := do
  let (s, xs, out) ← visit f s xs.reverse
  return (s, xs.reverse, out)

/-- Each object was replaced, what its visit emitted is part of the output, and
nothing else is. -/
structure Visited (O : α → α → List E → Prop) (xs xs' : List α) (out : List E) : Prop where
  each : List.Forall₂ (fun x x' => ∃ part, O x x' part ∧ ∀ e ∈ part, e ∈ out) xs xs'
  only : ∀ e ∈ out, ∃ x x' part, (x, x') ∈ xs.zip xs' ∧ O x x' part ∧ e ∈ part

namespace Visited

variable {O : α → α → List E → Prop} {x x' : α} {xs xs' : List α} {out later : List E}

theorem nil : Visited O [] [] ([] : List E) := ⟨.nil, nofun⟩

theorem mono {O' : α → α → List E → Prop} (h : Visited O xs xs' out)
    (hO : ∀ x x' part, O x x' part → O' x x' part) : Visited O' xs xs' out := by
  refine ⟨h.each.imp fun x x' hx => ?_, fun e he => ?_⟩
  · obtain ⟨part, hpart, hmem⟩ := hx
    exact ⟨part, hO x x' part hpart, hmem⟩
  · obtain ⟨x, x', part, hzip, hpart, hmem⟩ := h.only e he
    exact ⟨x, x', part, hzip, hO x x' part hpart, hmem⟩

theorem cons (head : O x x' out) (tail : Visited O xs xs' later) :
    Visited O (x :: xs) (x' :: xs') (out ++ later) := by
  refine ⟨.cons ⟨out, head, fun e he => List.mem_append_left _ he⟩ ?_, fun e he => ?_⟩
  · refine tail.each.imp fun y y' h => ?_
    obtain ⟨part, hO, hpart⟩ := h
    exact ⟨part, hO, fun e he => List.mem_append_right _ (hpart e he)⟩
  · rcases List.mem_append.mp he with he | he
    · exact ⟨x, x', out, List.mem_cons_self, head, he⟩
    · obtain ⟨y, y', part, hmem, hO, hpart⟩ := tail.only e he
      exact ⟨y, y', part, List.mem_cons_of_mem _ hmem, hO, hpart⟩

theorem reverse (h : Visited O xs.reverse xs' out) : Visited O xs xs'.reverse out := by
  have hlength : xs.length = xs'.length := by
    rw [← h.each.length_eq, List.length_reverse]
  constructor
  · have hrev := List.rel_reverse h.each
    rwa [List.reverse_reverse] at hrev
  · intro e he
    obtain ⟨x, x', part, hmem, hrest⟩ := h.only e he
    refine ⟨x, x', part, ?_, hrest⟩
    have hzip : xs.zip xs'.reverse = (xs.reverse.zip xs').reverse := by
      rw [List.zip, List.reverse_zipWith (by rw [List.length_reverse, hlength]), List.reverse_reverse]
    rw [hzip, List.mem_reverse]
    exact hmem

end Visited

theorem exists_mem_of_forall₂ {β : Type u} {R : α → β → Prop} {ys : List β}
    (h : List.Forall₂ R xs ys) {y : β} (hy : y ∈ ys) : ∃ x ∈ xs, R x y := by
  induction h with
  | nil => cases hy
  | cons head _ ih =>
    rcases List.mem_cons.mp hy with rfl | hy
    · exact ⟨_, List.mem_cons_self, head⟩
    · obtain ⟨x, hx, hR⟩ := ih hy
      exact ⟨x, List.mem_cons_of_mem _ hx, hR⟩

/-- The object a pair of a later pass started from. -/
theorem exists_mem_zip_of_forall₂ {β γ : Type u} {R : α → β → Prop} {ys : List β}
    {zs : List γ} (h : List.Forall₂ R xs ys) {y : β} {z : γ} (hyz : (y, z) ∈ ys.zip zs) :
    ∃ x, (x, z) ∈ xs.zip zs ∧ R x y := by
  induction h generalizing zs with
  | nil => cases hyz
  | cons head _ ih =>
    cases zs with
    | nil => cases hyz
    | cons z' zs =>
      rw [List.zip_cons_cons] at hyz ⊢
      rcases List.mem_cons.mp hyz with heq | hyz
      · cases heq
        exact ⟨_, List.mem_cons_self, head⟩
      · obtain ⟨x, hx, hR⟩ := ih hyz
        exact ⟨x, List.mem_cons_of_mem _ hx, hR⟩

theorem exists_getLast?_of_forall₂ {β : Type u} {R : α → β → Prop} {x : α} {ys : List β}
    (h : List.Forall₂ R (xs ++ [x]) ys) : ∃ y, ys.getLast? = some y ∧ R x y := by
  have hreverse := List.rel_reverse h
  rw [List.reverse_append, List.reverse_singleton, List.singleton_append] at hreverse
  cases hys : ys.reverse with
  | nil =>
    rw [hys] at hreverse
    cases hreverse
  | cons y rest =>
    rw [hys] at hreverse
    cases hreverse with
    | cons head _ =>
      refine ⟨y, ?_, head⟩
      rw [List.getLast?_eq_head?_reverse, hys, List.head?_cons]

/-- Two passes over the objects, seen as one. -/
theorem forall₂_comp {β γ : Type u} {R : α → β → Prop} {S : β → γ → Prop} {T : α → γ → Prop}
    {ys : List β} {zs : List γ} (h : List.Forall₂ R xs ys) (h' : List.Forall₂ S ys zs)
    (hT : ∀ x y z, R x y → S y z → T x z) : List.Forall₂ T xs zs := by
  induction h generalizing zs with
  | nil =>
    cases h'
    exact .nil
  | cons head _ ih =>
    cases h' with
    | cons head' tail' => exact .cons (hT _ _ _ head head') (ih tail')

variable {f : S → α → Exec σ ε (S × α × List E)} {I : List α → S → Prop}
  {O : α → α → List E → Prop} {s : S} {xs : List α}

theorem Ensures.visit
    (hstep : ∀ x rest s, I (x :: rest) s → Ensures (f s x) fun r => I rest r.1 ∧ O x r.2.1 r.2.2)
    (hs : I xs s) : Ensures (visit f s xs) fun r => I [] r.1 ∧ Visited O xs r.2.1 r.2.2 := by
  induction xs generalizing s with
  | nil => exact .pure ⟨hs, .nil⟩
  | cons x rest ih =>
    refine .bind (hstep x rest s hs) fun r hr => ?_
    refine .bind (ih hr.1) fun later hlater => ?_
    exact .pure ⟨hlater.1, .cons hr.2 hlater.2⟩

theorem Returns.visit
    (hstep : ∀ x rest s, I (x :: rest) s → Returns (f s x) fun r => I rest r.1 ∧ O x r.2.1 r.2.2)
    (hs : I xs s) : Returns (visit f s xs) fun r => I [] r.1 ∧ Visited O xs r.2.1 r.2.2 := by
  induction xs generalizing s with
  | nil => exact .pure ⟨hs, .nil⟩
  | cons x rest ih =>
    refine .bind (hstep x rest s hs) fun r hr => ?_
    refine .bind (ih hr.1) fun later hlater => ?_
    exact .pure ⟨hlater.1, .cons hr.2 hlater.2⟩

theorem Ensures.visitReversed
    (hstep : ∀ x rest s, I (x :: rest) s → Ensures (f s x) fun r => I rest r.1 ∧ O x r.2.1 r.2.2)
    (hs : I xs.reverse s) :
    Ensures (visitReversed f s xs) fun r => I [] r.1 ∧ Visited O xs r.2.1 r.2.2 :=
  Ensures.bind (Ensures.visit hstep hs) fun _ hr => .pure ⟨hr.1, hr.2.reverse⟩

theorem Returns.visitReversed
    (hstep : ∀ x rest s, I (x :: rest) s → Returns (f s x) fun r => I rest r.1 ∧ O x r.2.1 r.2.2)
    (hs : I xs.reverse s) :
    Returns (visitReversed f s xs) fun r => I [] r.1 ∧ Visited O xs r.2.1 r.2.2 :=
  Returns.bind (Returns.visit hstep hs) fun _ hr => .pure ⟨hr.1, hr.2.reverse⟩

/-! ## Loops that emit once -/

section First

variable {σ ε α E : Type} {O : α → List E → Prop} {q : α → Bool} {g : α → α} {sent : Bool}

/-- Every object was replaced, and only the first one that calls for it emitted,
unless that happened before the loop. -/
structure FirstVisited (g : α → α) (q : α → Bool) (O : α → List E → Prop) (sent : Bool)
    (xs xs' : List α) (out : List E) : Prop where
  replaced : xs' = xs.map g
  silent : sent = true → out = []
  unclaimed : xs.find? q = none → out = []
  first : ∀ x, sent = false → xs.find? q = some x → O x out

/-- The visit of an object that does not call for the output and is kept. -/
theorem FirstVisited.skip {x : α} (hq : q x = false) (hg : g x = x) :
    sent = (sent || q x) ∧ x = g x ∧ (sent = true ∨ q x = false → ([] : List E) = []) ∧
      (sent = false → q x = true → O x []) :=
  ⟨by rw [hq, Bool.or_false], hg.symm, fun _ => rfl, fun _ h => absurd h (by simp [hq])⟩

/-- An object that calls for the output gets it, unless it was sent before. -/
theorem FirstVisited.claimed
    {xs xs' : List α} {out : List E} {x : α} (h : FirstVisited g q O sent xs xs' out) (hx : x ∈ xs)
    (hq : q x = true) : sent = true ∨ ∃ y ∈ xs, q y = true ∧ O y out := by
  cases hsent : sent with
  | true => exact .inl rfl
  | false =>
    obtain ⟨y, hy⟩ := Option.isSome_iff_exists.mp (List.find?_isSome.mpr ⟨x, hx, hq⟩)
    exact .inr ⟨y, List.mem_of_find?_eq_some hy, List.find?_some hy, h.first y hsent hy⟩

theorem Ensures.visit_first {f : Bool → α → Exec σ ε (Bool × α × List E)}
    (hstep : ∀ sent x, Ensures (f sent x) fun r => r.1 = (sent || q x) ∧ r.2.1 = g x ∧
      (sent = true ∨ q x = false → r.2.2 = []) ∧ (sent = false → q x = true → O x r.2.2))
    (sent : Bool) (xs : List α) :
    Ensures (Lib.visit f sent xs) fun r => FirstVisited g q O sent xs r.2.1 r.2.2 := by
  induction xs generalizing sent with
  | nil => exact .pure ⟨rfl, fun _ => rfl, fun _ => rfl, fun _ _ h => absurd h (by simp)⟩
  | cons x rest ih =>
    refine .bind (hstep sent x) fun r hr => ?_
    obtain ⟨hsent, hx, hquiet, hO⟩ := hr
    refine .bind (ih r.1) fun later hlater => .pure ?_
    rw [hsent] at hlater
    cases hq : q x with
    | false =>
      rw [hq, Bool.or_false] at hlater
      have hfind : (x :: rest).find? q = rest.find? q := by rw [List.find?_cons, hq]
      have hout : r.2.2 ++ later.2.2 = later.2.2 := by rw [hquiet (.inr hq), List.nil_append]
      refine ⟨?_, ?_, ?_, ?_⟩
      · rw [List.map_cons, hx, hlater.replaced]
      · rw [hout]
        exact hlater.silent
      · rw [hout, hfind]
        exact hlater.unclaimed
      · rw [hout, hfind]
        exact hlater.first
    | true =>
      rw [hq, Bool.or_true] at hlater
      have hfind : (x :: rest).find? q = some x := by rw [List.find?_cons, hq]
      have hout : r.2.2 ++ later.2.2 = r.2.2 := by rw [hlater.silent rfl, List.append_nil]
      refine ⟨?_, ?_, ?_, ?_⟩
      · rw [List.map_cons, hx, hlater.replaced]
      · intro hs
        rw [hout]
        exact hquiet (.inl hs)
      · rw [hfind]
        exact fun h => absurd h (Option.some_ne_none x)
      · intro y hs hy
        rw [hout]
        rw [hfind] at hy
        cases hy
        exact hO hs hq

end First

end Raiden.Lib
