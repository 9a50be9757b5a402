import Mathlib.Data.List.Basic

/-!
# Runs of a deterministic transition system

A system is a function `step : σ → α → σ`; an action carries everything its
environment decides.  A run folds the actions over a state.  Invariants are
lifted from one step to runs, without or with a condition that every step of
the run meets, and a predicate on single steps is carried to all steps of a run.
-/

namespace BlogOps.TransitionRuns

open List

variable {σ α ε : Type*} (step : σ → α → σ)

def run (s : σ) (actions : List α) : σ := actions.foldl step s

@[simp] theorem run_nil (s : σ) : run step s [] = s := rfl

@[simp] theorem run_cons (s : σ) (a : α) (actions : List α) :
    run step s (a :: actions) = run step (step s a) actions := rfl

theorem run_append (s : σ) (before after : List α) :
    run step s (before ++ after) = run step (run step s before) after :=
  foldl_append

theorem run_concat (s : σ) (before : List α) (a : α) :
    run step s (before ++ [a]) = step (run step s before) a := by
  rw [run_append]
  rfl

/-- Every action of the run is taken in a state where `P` holds of it. -/
def Along (P : σ → α → Prop) : σ → List α → Prop
  | _, [] => True
  | s, a :: actions => P s a ∧ Along P (step s a) actions

@[simp] theorem along_nil (P : σ → α → Prop) (s : σ) : Along step P s [] := trivial

@[simp] theorem along_cons (P : σ → α → Prop) (s : σ) (a : α) (actions : List α) :
    Along step P s (a :: actions) ↔ P s a ∧ Along step P (step s a) actions :=
  Iff.rfl

theorem along_append (P : σ → α → Prop) (s : σ) (before after : List α) : Along step P s (before ++ after) ↔
      Along step P s before ∧ Along step P (run step s before) after := by
  induction before generalizing s with
  | nil => simp
  | cons a before ih =>
    simp only [cons_append, along_cons, run_cons, ih, and_assoc]

variable {P Q R : σ → α → Prop} {actions : List α} {s : σ} {I : σ → Prop}

theorem Along.imp (hpq : ∀ s a, P s a → Q s a) (h : Along step P s actions) : Along step Q s actions := by
  induction actions generalizing s with
  | nil => trivial
  | cons a actions ih => exact ⟨hpq s a h.1, ih h.2⟩

theorem Along.and (hp : Along step P s actions) (hq : Along step Q s actions) :
    Along step (fun s a => P s a ∧ Q s a) s actions := by
  induction actions generalizing s with
  | nil => trivial
  | cons a actions ih => exact ⟨⟨hp.1, hq.1⟩, ih hp.2 hq.2⟩

/-- A condition on the actions alone. -/
theorem along_of_forall {P : α → Prop} (h : ∀ a ∈ actions, P a) : Along step (fun _ a => P a) s actions := by
  induction actions generalizing s with
  | nil => trivial
  | cons a actions ih =>
    exact ⟨h a mem_cons_self, ih fun b hb => h b (mem_cons_of_mem _ hb)⟩

def Reachable (initial : σ → Prop) (s : σ) : Prop := ∃ s₀ actions, initial s₀ ∧ run step s₀ actions = s

theorem invariant_run (hstep : ∀ s a, I s → I (step s a)) (hs : I s) (actions : List α) :
    I (run step s actions) := by
  induction actions generalizing s with
  | nil => exact hs
  | cons a actions ih => exact ih (hstep s a hs)

theorem invariant_reachable {initial : σ → Prop} (hinit : ∀ s, initial s → I s)
    (hstep : ∀ s a, I s → I (step s a)) (h : Reachable step initial s) : I s := by
  obtain ⟨s₀, actions, h₀, rfl⟩ := h
  exact invariant_run step hstep (hinit s₀ h₀) actions

theorem invariant_along (hstep : ∀ s a, I s → P s a → I (step s a)) (hs : I s)
    (h : Along step P s actions) : I (run step s actions) := by
  induction actions generalizing s with
  | nil => exact hs
  | cons a actions ih => exact ih (hstep s a hs h.1) h.2

/-- What the invariant makes true of one step is true of every step of a run. -/
theorem along_of_invariant (hstep : ∀ s a, I s → P s a → I (step s a)) (hq : ∀ s a, I s → P s a → Q s a)
    (hs : I s) (h : Along step P s actions) : Along step Q s actions := by
  induction actions generalizing s with
  | nil => trivial
  | cons a actions ih => exact ⟨hq s a hs h.1, ih (hstep s a hs h.1) h.2⟩

theorem along_of_always (hp : ∀ s a, P s a) (s : σ) (actions : List α) : Along step P s actions := by
  induction actions generalizing s with
  | nil => trivial
  | cons a actions ih => exact ⟨hp s a, ih (step s a)⟩

/-- As long as `G` holds of the actions taken, `P` holds of the next one. -/
def AlongWhile (G P : σ → α → Prop) : σ → List α → Prop
  | _, [] => True
  | s, a :: actions => P s a ∧ (G s a → AlongWhile G P (step s a) actions)

theorem Along.alongWhile (G : σ → α → Prop) (h : Along step P s actions) : AlongWhile step G P s actions := by
  induction actions generalizing s with
  | nil => trivial
  | cons a actions ih => exact ⟨h.1, fun _ => ih h.2⟩

section

variable {G : σ → α → Prop} (hstep : ∀ s a, I s → R s a → (G s a ↔ Q s a))
    (hkeep : ∀ s a, I s → R s a → Q s a → I (step s a)) (hs : I s)

include hstep hkeep hs

/-- Where an invariant makes `G` and `Q` the same of a step and `Q` keeps the invariant, they are
the same of a run that meets `R` while `G` holds. -/
theorem along_iff_along_of_while (h : AlongWhile step G R s actions) :
    Along step G s actions ↔ Along step Q s actions := by
  induction actions generalizing s with
  | nil => exact Iff.rfl
  | cons a actions ih =>
    constructor
    · rintro ⟨hg, hrest⟩
      have hq := (hstep s a hs h.1).mp hg
      exact ⟨hq, (ih (hkeep s a hs h.1 hq) (h.2 hg)).mp hrest⟩
    · rintro ⟨hq, hrest⟩
      have hg := (hstep s a hs h.1).mpr hq
      exact ⟨hg, (ih (hkeep s a hs h.1 hq) (h.2 hg)).mpr hrest⟩

theorem along_iff_along_of_invariant (h : Along step R s actions) :
    Along step G s actions ↔ Along step Q s actions :=
  along_iff_along_of_while step hstep hkeep hs (h.alongWhile step G)

end

/-- Where a step keeps `P` exactly when `Q` holds of it, a run keeps `P` throughout
exactly when `Q` holds of all its steps. -/
theorem throughout_iff_along {P : σ → Prop} (hstep : ∀ s a, P s → (P (step s a) ↔ Q s a)) (hs : P s)
    (actions : List α) : (∀ before, before <+: actions → P (run step s before)) ↔ Along step Q s actions := by
  induction actions generalizing s with
  | nil =>
    refine iff_of_true (fun before hbefore => ?_) trivial
    rw [prefix_nil.mp hbefore]
    exact hs
  | cons a actions ih =>
    constructor
    · intro h
      have ha : P (step s a) := h [a] (by simp)
      refine ⟨(hstep s a hs).mp ha, (ih ha).mp fun before hbefore => ?_⟩
      exact h (a :: before) (cons_prefix_cons.mpr ⟨rfl, hbefore⟩)
    · rintro ⟨hq, hrest⟩ before hbefore
      cases before with
      | nil => exact hs
      | cons b before =>
        obtain ⟨rfl, htail⟩ := cons_prefix_cons.mp hbefore
        exact (ih ((hstep s b hs).mpr hq)).mpr hrest before htail

/-- The same for runs whose steps all meet `R`, where an invariant decides each step and
is kept while `Q` holds. -/
theorem throughout_iff_along_of_invariant {P : σ → Prop} (hp : ∀ s, I s → P s)
    (hstep : ∀ s a, I s → R s a → (P (step s a) ↔ Q s a))
    (hkeep : ∀ s a, I s → R s a → Q s a → I (step s a)) (hs : I s) (h : Along step R s actions) :
    (∀ before, before <+: actions → P (run step s before)) ↔ Along step Q s actions := by
  induction actions generalizing s with
  | nil =>
    refine iff_of_true (fun before hbefore => ?_) trivial
    rw [prefix_nil.mp hbefore]
    exact hp s hs
  | cons a actions ih =>
    obtain ⟨ha, hrest⟩ := h
    constructor
    · intro hthrough
      have hq : Q s a := (hstep s a hs ha).mp (hthrough [a] (by simp))
      refine ⟨hq, (ih (hkeep s a hs ha hq) hrest).mp fun before hbefore => ?_⟩
      exact hthrough (a :: before) (cons_prefix_cons.mpr ⟨rfl, hbefore⟩)
    · rintro ⟨hq, halong⟩ before hbefore
      cases before with
      | nil => exact hp s hs
      | cons b before =>
        obtain ⟨rfl, htail⟩ := cons_prefix_cons.mp hbefore
        exact (ih (hkeep s b hs ha hq) hrest).mpr halong before htail

/-- What a run brings about, one of its steps brings about. -/
theorem exists_step_of_run {Q : σ → Prop} (hs : ¬ Q s) (h : Q (run step s actions)) :
    ∃ before a after, actions = before ++ a :: after ∧ ¬ Q (run step s before) ∧
      Q (step (run step s before) a) := by
  induction actions generalizing s with
  | nil => exact absurd h hs
  | cons a actions ih =>
    by_cases hstep : Q (step s a)
    · exact ⟨[], a, actions, rfl, hs, hstep⟩
    · obtain ⟨before, b, after, rfl, hbefore, hafter⟩ := ih hstep h
      exact ⟨a :: before, b, after, rfl, hbefore, hafter⟩

theorem relates_run {R : σ → σ → Prop} (hrefl : ∀ s, R s s) (htrans : ∀ s t u, R s t → R t u → R s u)
    (hstep : ∀ s a, R s (step s a)) (s : σ) (actions : List α) : R s (run step s actions) := by
  induction actions generalizing s with
  | nil => exact hrefl s
  | cons a actions ih => exact htrans _ _ _ (hstep s a) (ih (step s a))

end BlogOps.TransitionRuns
