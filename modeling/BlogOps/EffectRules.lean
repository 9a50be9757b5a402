import Mathlib.Order.Defs.Unbundled
import Mathlib.Data.List.Basic

/-!
# Rules for stateful effects that raise

`Ends x s Q` says that the effect `x`, started in `s`, ends with a result and a
state that satisfy `Q`; a raised exception keeps the state it was raised in.
`Keeps R x` says that `x` relates every start to its end by `R`, whether it
returns or raises.  Both come with one rule for each way to build an effect.
-/

namespace BlogOps.EffectRules

variable {ε σ α β : Type}

def Ends (x : EStateM ε σ α) (s : σ) (Q : Except ε α → σ → Prop) : Prop :=
  match x s with
  | .ok a t => Q (.ok a) t
  | .error e t => Q (.error e) t

/-- How the effect goes on after its first part. -/
def Continues (f : α → EStateM ε σ β) (Q : Except ε β → σ → Prop) : Except ε α → σ → Prop
  | .ok a, t => Ends (f a) t Q
  | .error e, t => Q (.error e) t

/-- How the effect goes on when its first part is guarded by a handler. -/
def Handled (h : ε → EStateM ε σ α) (Q : Except ε α → σ → Prop) : Except ε α → σ → Prop
  | .ok a, t => Q (.ok a) t
  | .error e, t => Ends (h e) t Q

@[simp] theorem continues_ok (f : α → EStateM ε σ β) (Q : Except ε β → σ → Prop) (a : α) (t : σ) :
    Continues f Q (.ok a) t = Ends (f a) t Q := rfl

@[simp] theorem continues_error (f : α → EStateM ε σ β) (Q : Except ε β → σ → Prop) (e : ε)
    (t : σ) : Continues f Q (.error e) t = Q (.error e) t := rfl

@[simp] theorem handled_ok (h : ε → EStateM ε σ α) (Q : Except ε α → σ → Prop) (a : α) (t : σ) :
    Handled h Q (.ok a) t = Q (.ok a) t := rfl

@[simp] theorem handled_error (h : ε → EStateM ε σ α) (Q : Except ε α → σ → Prop) (e : ε)
    (t : σ) : Handled h Q (.error e) t = Ends (h e) t Q := rfl

variable {a : α} {e : ε} {p : Prop} {y : EStateM ε σ α} {f : α → EStateM ε σ β}

section Ends

variable {x : EStateM ε σ α} {s : σ} {Q P : Except ε α → σ → Prop}

theorem Ends.mono (hx : Ends x s P) (h : ∀ r t, P r t → Q r t) : Ends x s Q := by
  unfold Ends at *
  split <;> simp_all

theorem Ends.and (hp : Ends x s P) (hq : Ends x s Q) : Ends x s fun r t => P r t ∧ Q r t := by
  unfold Ends at *
  split <;> simp_all

theorem Ends.of_ok (hx : Ends x s Q) {t : σ} (h : x s = .ok a t) : Q (.ok a) t := by
  simpa [Ends, h] using hx

theorem Ends.of_error (hx : Ends x s Q) {t : σ} (h : x s = .error e t) : Q (.error e) t := by
  simpa [Ends, h] using hx

theorem ends_intro (hok : ∀ a t, x s = .ok a t → Q (.ok a) t)
    (herror : ∀ e t, x s = .error e t → Q (.error e) t) : Ends x s Q := by
  unfold Ends
  split
  · exact hok _ _ ‹_›
  · exact herror _ _ ‹_›

@[simp] theorem ends_pure (a : α) (s : σ) (Q : Except ε α → σ → Prop) :
    Ends (pure a) s Q ↔ Q (.ok a) s := Iff.rfl

@[simp] theorem ends_throw (e : ε) (s : σ) (Q : Except ε α → σ → Prop) :
    Ends (throw e) s Q ↔ Q (.error e) s := Iff.rfl

@[simp] theorem ends_get (s : σ) (Q : Except ε σ → σ → Prop) : Ends get s Q ↔ Q (.ok s) s := Iff.rfl

@[simp] theorem ends_set (t s : σ) (Q : Except ε PUnit → σ → Prop) :
    Ends (set t) s Q ↔ Q (.ok ⟨⟩) t := Iff.rfl

@[simp] theorem ends_modify (f : σ → σ) (s : σ) (Q : Except ε PUnit → σ → Prop) :
    Ends (modify f) s Q ↔ Q (.ok ⟨⟩) (f s) := Iff.rfl

@[simp] theorem ends_ofExcept (x : Except ε α) (s : σ) (Q : Except ε α → σ → Prop) :
    Ends (MonadExcept.ofExcept x : EStateM ε σ α) s Q ↔ Q x s := by
  cases x <;> exact Iff.rfl

theorem ends_bind (x : EStateM ε σ α) (f : α → EStateM ε σ β) (s : σ) (Q : Except ε β → σ → Prop) :
    Ends (x >>= f) s Q ↔ Ends x s (Continues f Q) := by
  unfold Ends
  simp only [bind, EStateM.bind]
  cases x s <;> rfl

theorem ends_tryCatch (x : EStateM ε σ α) (h : ε → EStateM ε σ α) (s : σ) (Q : Except ε α → σ → Prop) :
    Ends (tryCatch x h) s Q ↔ Ends x s (Handled h Q) := by
  unfold Ends
  simp only [tryCatch, tryCatchThe, MonadExceptOf.tryCatch, EStateM.tryCatch]
  cases x s <;> rfl

theorem ends_ite [Decidable p] {x : EStateM ε σ α} {s : σ} {Q : Except ε α → σ → Prop}
    (hx : p → Ends x s Q) (hy : ¬p → Ends y s Q) : Ends (if p then x else y) s Q := by
  split
  · exact hx ‹_›
  · exact hy ‹_›

theorem Continues.mono {P Q : Except ε β → σ → Prop} {r : Except ε α} (hp : Continues f P r s)
    (h : ∀ r' t, P r' t → Q r' t) : Continues f Q r s := by
  cases r with
  | ok a => exact Ends.mono hp h
  | error e => exact h _ _ hp

theorem Handled.mono {f : ε → EStateM ε σ α} {r : Except ε α} (hp : Handled f P r s)
    (h : ∀ r' t, P r' t → Q r' t) : Handled f Q r s := by
  cases r with
  | ok a => exact h _ _ hp
  | error e => exact Ends.mono hp h

theorem ends_forall {ι : Sort*} {P : ι → Except ε α → σ → Prop} (h : ∀ i, Ends x s (P i)) :
    Ends x s fun r t => ∀ i, P i r t :=
  ends_intro (fun _ _ hx i => (h i).of_ok hx) (fun _ _ hx i => (h i).of_error hx)

end Ends

/-- The end of the effect, as a relation. -/
def Results (x : EStateM ε σ α) (s : σ) (r : Except ε α) (t : σ) : Prop :=
  Ends x s fun r' t' => r' = r ∧ t' = t

theorem ends_results (x : EStateM ε σ α) (s : σ) : Ends x s (Results x s) := by
  refine ends_intro (fun a t h => ?_) (fun e t h => ?_)
  · exact ends_intro (fun _ _ h' => by cases h.symm.trans h'; exact ⟨rfl, rfl⟩)
      (fun _ _ h' => by cases h.symm.trans h')
  · exact ends_intro (fun _ _ h' => by cases h.symm.trans h')
      (fun _ _ h' => by cases h.symm.trans h'; exact ⟨rfl, rfl⟩)

theorem Ends.of_results {x : EStateM ε σ α} {s t : σ} {r : Except ε α} {Q : Except ε α → σ → Prop}
    (hx : Ends x s Q) (hr : Results x s r t) : Q r t := by
  unfold Results Ends at *
  split at hr <;> simp_all

def Keeps (R : σ → σ → Prop) (x : EStateM ε σ α) : Prop := ∀ s, Ends x s fun _ t => R s t

section Keeps

variable {R : σ → σ → Prop}

theorem Keeps.mono {R' : σ → σ → Prop} {x : EStateM ε σ α} (hx : Keeps R x)
    (h : ∀ s t, R s t → R' s t) : Keeps R' x :=
  fun s => (hx s).mono fun _ t => h s t

theorem keeps_modify {f : σ → σ} (h : ∀ s, R s (f s)) : Keeps R (modify f : EStateM ε σ PUnit) :=
  fun s => (ends_modify f s _).mpr (h s)

theorem keeps_ite [Decidable p] {x : EStateM ε σ α} (hx : Keeps R x) (hy : Keeps R y) :
    Keeps R (if p then x else y) := by
  split
  · exact hx
  · exact hy

variable [IsPreorder σ R]

theorem keeps_pure (a : α) : Keeps R (pure a : EStateM ε σ α) :=
  fun s => (ends_pure a s _).mpr (refl_of R s)

theorem keeps_throw (e : ε) : Keeps R (throw e : EStateM ε σ α) :=
  fun s => (ends_throw e s _).mpr (refl_of R s)

theorem keeps_get : Keeps R (get : EStateM ε σ σ) := fun s => (ends_get s _).mpr (refl_of R s)

theorem keeps_ofExcept (x : Except ε α) : Keeps R (MonadExcept.ofExcept x : EStateM ε σ α) :=
  fun s => (ends_ofExcept x s _).mpr (refl_of R s)

omit [IsPreorder σ R] in
/-- What follows an effect starts in a state that the frame of the effect relates. -/
theorem ends_bind_of_keeps {x : EStateM ε σ α} {s : σ} {Q : Except ε β → σ → Prop} (hx : Keeps R x)
    (hok : ∀ a t, R s t → Ends (f a) t Q) (herror : ∀ e t, R s t → Q (.error e) t) : Ends (x >>= f) s Q := by
  rw [ends_bind]
  refine (hx s).mono fun r t hst => ?_
  cases r with
  | ok a => exact hok a t hst
  | error e => exact herror e t hst

theorem keeps_bind {x : EStateM ε σ α} (hx : Keeps R x) (hf : ∀ a, Keeps R (f a)) : Keeps R (x >>= f) := by
  intro s
  rw [ends_bind]
  refine (hx s).mono fun r t hst => ?_
  cases r with
  | ok a => exact (hf a t).mono fun _ u htu => trans_of R hst htu
  | error e => exact hst

theorem keeps_tryCatch {x : EStateM ε σ α} {h : ε → EStateM ε σ α} (hx : Keeps R x)
    (hh : ∀ e, Keeps R (h e)) : Keeps R (tryCatch x h) := by
  intro s
  rw [ends_tryCatch]
  refine (hx s).mono fun r t hst => ?_
  cases r with
  | ok a => exact hst
  | error e => exact (hh e t).mono fun _ u htu => trans_of R hst htu

end Keeps

/-- An effect keeps `Preserves I` when it keeps the invariant `I`. -/
def Preserves (I : σ → Prop) (s t : σ) : Prop := I s → I t

instance (I : σ → Prop) : IsPreorder σ (Preserves I) where
  refl _ := id
  trans _ _ _ hst htu h := htu (hst h)

/-- Started in a state that satisfies `I`, the effect only returns in one that satisfies `P`. -/
def Establishes (I P : σ → Prop) (x : EStateM ε σ α) : Prop :=
  ∀ s, I s → Ends x s fun r t => ∀ a, r = .ok a → P t

section Establishes

variable {I P : σ → Prop}

section

variable {x : EStateM ε σ α}

theorem establishes_bind (hx : Keeps (Preserves I) x) (hf : ∀ a, Establishes I P (f a)) :
    Establishes I P (x >>= f) := by
  intro s hs
  refine ends_bind_of_keeps hx (fun a t hst => hf a t (hst hs)) (fun e t _ b hb => ?_)
  cases hb

/-- Whatever comes first, what an effect establishes is settled by its last part. -/
theorem establishes_last (hf : ∀ a, Establishes (fun _ => True) P (f a)) :
    Establishes (fun _ => True) P (x >>= f) :=
  establishes_bind (fun _ => ends_intro (fun _ _ _ h => h) (fun _ _ _ h => h)) hf

/-- What the first part establishes holds at the end when the rest keeps it. -/
theorem establishes_first (hx : Establishes I P x) (hf : ∀ a, Keeps (Preserves P) (f a)) :
    Establishes I P (x >>= f) := by
  intro s hs
  rw [ends_bind]
  refine (hx s hs).mono fun r t hr => ?_
  cases r with
  | ok a =>
    rw [continues_ok]
    refine (hf a t).mono fun r' u hkeep => ?_
    exact fun _ _ => hkeep (hr a rfl)
  | error e =>
    intro b hb
    cases hb

theorem Establishes.mono {P' : σ → Prop} (hx : Establishes I P x) (h : ∀ s, P s → P' s) :
    Establishes I P' x :=
  fun s hs => (hx s hs).mono fun _ t hr a ha => h t (hr a ha)

theorem Establishes.of_ok (hx : Establishes I P x) {s t : σ} (hs : I s) (h : x s = .ok a t) : P t :=
  (hx s hs).of_ok h a rfl

end

end Establishes

/-- Whenever the effect returns, it returns a value that satisfies `P`. -/
def Returns (P : α → Prop) (x : EStateM ε σ α) : Prop := ∀ s, Ends x s fun r _ => ∀ a, r = .ok a → P a

section Returns

variable {P : α → Prop} {Q : β → Prop}

theorem returns_pure (h : P a) : Returns P (pure a : EStateM ε σ α) := by
  intro s
  rw [ends_pure]
  intro b hb
  cases hb
  exact h

theorem returns_throw (e : ε) : Returns P (throw e : EStateM ε σ α) := by
  intro s
  rw [ends_throw]
  intro a ha
  cases ha

theorem returns_any (x : EStateM ε σ α) : Returns (fun _ => True) x :=
  fun _ => ends_intro (fun _ _ _ _ _ => trivial) (fun _ _ _ _ _ => trivial)

theorem returns_bind {x : EStateM ε σ α} (hx : Returns P x) (hf : ∀ a, P a → Returns Q (f a)) :
    Returns Q (x >>= f) := by
  intro s
  rw [ends_bind]
  refine (hx s).mono fun r t hr => ?_
  cases r with
  | ok a => exact hf a (hr a rfl) t
  | error e =>
    intro b hb
    cases hb

theorem returns_ite [Decidable p] {x : EStateM ε σ α} (hx : p → Returns P x)
    (hy : ¬p → Returns P y) : Returns P (if p then x else y) := by
  split
  · exact hx ‹_›
  · exact hy ‹_›

theorem returns_tryCatch {x : EStateM ε σ α} {h : ε → EStateM ε σ α} (hx : Returns P x)
    (hh : ∀ e, Returns P (h e)) : Returns P (tryCatch x h) := by
  intro s
  rw [ends_tryCatch]
  refine (hx s).mono fun r t hr => ?_
  cases r with
  | ok a => exact hr
  | error e => exact hh e t

/-- A frame of what follows may use what the first part returns. -/
theorem keeps_bind_returns {R : σ → σ → Prop} [IsPreorder σ R] {x : EStateM ε σ α} (hx : Keeps R x)
    (hr : Returns P x) (hf : ∀ a, P a → Keeps R (f a)) : Keeps R (x >>= f) := by
  intro s
  rw [ends_bind]
  refine ((hx s).and (hr s)).mono fun r t h => ?_
  cases r with
  | ok a => exact (hf a (h.2 a rfl) t).mono fun _ u htu => trans_of R h.1 htu
  | error e => exact h.1

end Returns

/-- Whenever the effect raises, it raises an exception that satisfies `P`. -/
def Raises (P : ε → Prop) (x : EStateM ε σ α) : Prop := ∀ s, Ends x s fun r _ => ∀ e, r = .error e → P e

section Raises

variable {P : ε → Prop}

theorem Raises.mono {P' : ε → Prop} {x : EStateM ε σ α} (hx : Raises P x)
    (h : ∀ e, P e → P' e) : Raises P' x :=
  fun s => (hx s).mono fun _ _ hr e he => h e (hr e he)

theorem raises_pure (a : α) : Raises P (pure a : EStateM ε σ α) := by
  intro s
  rw [ends_pure]
  intro e he
  cases he

theorem raises_modify (f : σ → σ) : Raises P (modify f : EStateM ε σ PUnit) := by
  intro s
  rw [ends_modify]
  intro e he
  cases he

theorem raises_get : Raises P (get : EStateM ε σ σ) := by
  intro s
  rw [ends_get]
  intro e he
  cases he

theorem raises_throw (h : P e) : Raises P (throw e : EStateM ε σ α) := by
  intro s
  rw [ends_throw]
  intro e' he
  cases he
  exact h

theorem raises_bind {x : EStateM ε σ α} (hx : Raises P x) (hf : ∀ a, Raises P (f a)) :
    Raises P (x >>= f) := by
  intro s
  rw [ends_bind]
  refine (hx s).mono fun r t hr => ?_
  cases r with
  | ok a => exact hf a t
  | error e =>
    intro e' he
    cases he
    exact hr e rfl

theorem raises_ite [Decidable p] {x : EStateM ε σ α} (hx : Raises P x) (hy : Raises P y) :
    Raises P (if p then x else y) := by
  split
  · exact hx
  · exact hy

end Raises

section Evaluation

variable {s t : σ}

@[simp] theorem pure_run (a : α) (s : σ) : (pure a : EStateM ε σ α) s = .ok a s := rfl

@[simp] theorem throw_run (e : ε) (s : σ) : (throw e : EStateM ε σ α) s = .error e s := rfl

@[simp] theorem get_run (s : σ) : (get : EStateM ε σ σ) s = .ok s s := rfl

@[simp] theorem modify_run (f : σ → σ) (s : σ) : (modify f : EStateM ε σ PUnit) s = .ok ⟨⟩ (f s) := rfl

@[simp] theorem ofExcept_run_ok (a : α) (s : σ) :
    (MonadExcept.ofExcept (.ok a : Except ε α) : EStateM ε σ α) s = .ok a s := rfl

@[simp] theorem ofExcept_run_error (e : ε) (s : σ) :
    (MonadExcept.ofExcept (.error e : Except ε α) : EStateM ε σ α) s = .error e s := rfl

section

variable {x : EStateM ε σ α}

theorem bind_run_ok (h : x s = .ok a t) (f : α → EStateM ε σ β) : (x >>= f) s = f a t := by
  simp only [bind, EStateM.bind, h]

theorem bind_run_error (h : x s = .error e t) (f : α → EStateM ε σ β) : (x >>= f) s = .error e t := by
  simp only [bind, EStateM.bind, h]

theorem ends_of_run_eq (h : x s = y t) {Q : Except ε α → σ → Prop} (hy : Ends y t Q) : Ends x s Q := by
  unfold Ends at *
  rw [h]
  exact hy

theorem ends_bind_run_ok (h : x s = .ok a t) {Q : Except ε β → σ → Prop} (hf : Ends (f a) t Q) :
    Ends (x >>= f) s Q :=
  ends_of_run_eq (bind_run_ok h f) hf

theorem ends_bind_run_error (h : x s = .error e t) {Q : Except ε β → σ → Prop} (hq : Q (.error e) t) :
    Ends (x >>= f) s Q := by
  unfold Ends
  rw [bind_run_error h f]
  exact hq

theorem tryCatch_run_ok (h : x s = .ok a t) (handle : ε → EStateM ε σ α) : tryCatch x handle s = .ok a t := by
  simp only [tryCatch, tryCatchThe, MonadExceptOf.tryCatch, EStateM.tryCatch, h]

theorem tryCatch_run_error (h : x s = .error e t) (handle : ε → EStateM ε σ α) :
    tryCatch x handle s = handle e t := by
  simp only [tryCatch, tryCatchThe, MonadExceptOf.tryCatch, EStateM.tryCatch, h]
  rfl

/-- An effect that returns has returned from each of its parts. -/
theorem of_bind_run_ok {b : β} {u : σ} (h : (x >>= f) s = .ok b u) :
    ∃ a t, x s = .ok a t ∧ f a t = .ok b u := by
  simp only [bind, EStateM.bind] at h
  cases hx : x s with
  | ok a t =>
    rw [hx] at h
    exact ⟨a, t, rfl, h⟩
  | error e t =>
    rw [hx] at h
    cases h

/-- An effect that raises has raised in its first part or in its last. -/
theorem of_bind_run_error {u : σ} (h : (x >>= f) s = .error e u) :
    x s = .error e u ∨ ∃ a t, x s = .ok a t ∧ f a t = .error e u := by
  simp only [bind, EStateM.bind] at h
  cases hx : x s with
  | ok a t =>
    rw [hx] at h
    exact .inr ⟨a, t, rfl, h⟩
  | error e' t =>
    rw [hx] at h
    cases h
    exact .inl rfl

end

theorem of_ofExcept_run_ok {x : Except ε α}
    (h : (MonadExcept.ofExcept x : EStateM ε σ α) s = .ok a t) : x = .ok a ∧ t = s := by
  cases x with
  | error e => cases h
  | ok b =>
    cases h
    exact ⟨rfl, rfl⟩

theorem of_bind_ofExcept_ok {x : Except ε α} {b : β}
    (h : ((MonadExcept.ofExcept x : EStateM ε σ α) >>= f) s = .ok b t) :
    ∃ a, x = .ok a ∧ f a s = .ok b t := by
  cases x with
  | error e => cases h
  | ok a => exact ⟨a, rfl, h⟩

theorem of_modify_run_ok {f : σ → σ} {a : PUnit}
    (h : (modify f : EStateM ε σ PUnit) s = .ok a t) : t = f s := by
  cases h
  rfl

theorem of_pure_run_ok {b : α} (h : (pure a : EStateM ε σ α) s = .ok b t) : b = a ∧ t = s := by
  cases h
  exact ⟨rfl, rfl⟩

end Evaluation

end BlogOps.EffectRules
