import Mathlib.Logic.Relation
import Mathlib.Data.List.Basic

/-!
# Forests of parent pointers

A forest is a function that names the parent of each node; a node without a
parent is a root.  A node is rooted when the way up from it ends.  Nodes are
moved under a new parent without closing a cycle when none of them lies on the
way up from that parent, and a walk that read every link of that way shows it.
-/

namespace BlogOps.ParentForests

variable {κ : Type*} {parent : κ → Option κ}

/-- The way up from the node ends at a root. -/
inductive Rooted (parent : κ → Option κ) : κ → Prop
  | root {x : κ} (h : parent x = none) : Rooted parent x
  | child {x p : κ} (h : parent x = some p) (hp : Rooted parent p) : Rooted parent x

/-- `y` lies on the way up from `x`, which starts at `x` itself. -/
def Above (parent : κ → Option κ) : κ → κ → Prop := Relation.ReflTransGen fun x p => parent x = some p

variable {x y : κ}

theorem Above.parent_of {p : κ} (h : Above parent x y) (hy : parent y = some p) : Above parent x p :=
  h.tail hy

theorem Rooted.not_above {p : κ} (h : Rooted parent x) (hp : parent x = some p) : ¬ Above parent p x := by
  induction h generalizing p with
  | root hroot =>
    rw [hroot] at hp
    cases hp
  | @child x q hq hrooted ih =>
    rw [hq] at hp
    obtain rfl := Option.some.inj hp
    intro habove
    rcases Relation.ReflTransGen.cases_head habove with heq | ⟨next, hnext, hrest⟩
    · exact ih (heq ▸ hq) (Relation.ReflTransGen.refl)
    · exact ih hnext (hrest.tail hq)

/-- Nodes that all have their parents among them have no root above them. -/
theorem not_rooted_of_closed {closed : List κ} (h : ∀ x ∈ closed, ∃ p ∈ closed, parent x = some p)
    (hx : x ∈ closed) : ¬ Rooted parent x := by
  intro hrooted
  induction hrooted with
  | root hroot =>
    obtain ⟨p, _, hp⟩ := h _ hx
    rw [hroot] at hp
    cases hp
  | child hparent _ ih =>
    obtain ⟨p, hmem, hp⟩ := h _ hx
    rw [hparent] at hp
    rw [← Option.some.inj hp] at hmem
    exact ih hmem

section Moves

variable [DecidableEq κ]

/-- The forest with the nodes of `moved` under `target`. -/
def reparent (moved : List κ) (target : Option κ) (parent : κ → Option κ) : κ → Option κ :=
  fun x => if x ∈ moved then target else parent x

variable {moved : List κ} {target : Option κ}

theorem reparent_of_mem (h : x ∈ moved) : reparent moved target parent x = target := if_pos h

theorem reparent_of_not_mem (h : x ∉ moved) : reparent moved target parent x = parent x := if_neg h

/-- A way up that avoids the moved nodes is the way up it was. -/
theorem above_of_reparent (havoids : ∀ z, Above parent x z → z ∉ moved)
    (h : Above (reparent moved target parent) x y) : Above parent x y := by
  induction h with
  | refl => exact .refl
  | tail _ hlink ih =>
    rw [reparent_of_not_mem (havoids _ ih)] at hlink
    exact ih.tail hlink

theorem rooted_of_avoids (h : Rooted parent x) (havoids : ∀ y, Above parent x y → y ∉ moved) :
    Rooted (reparent moved target parent) x := by
  induction h with
  | root hroot =>
    apply Rooted.root
    rw [reparent_of_not_mem (havoids _ .refl), hroot]
  | child hparent _ ih =>
    refine .child ?_ (ih fun y hy => havoids y (hy.head hparent))
    rw [reparent_of_not_mem (havoids _ .refl), hparent]

/-- Nodes move without closing a cycle when none of them lies above their new parent. -/
theorem rooted_reparent (h : ∀ x, Rooted parent x)
    (havoids : ∀ t, target = some t → ∀ y, Above parent t y → y ∉ moved) (x : κ) :
    Rooted (reparent moved target parent) x := by
  have hmoved : ∀ y ∈ moved, Rooted (reparent moved target parent) y := by
    intro y hy
    cases htarget : target with
    | none => exact .root (by rw [reparent_of_mem hy])
    | some t =>
      refine .child (reparent_of_mem hy) ?_
      rw [← htarget]
      exact rooted_of_avoids (h t) (havoids t htarget)
  induction h x with
  | @root x hroot =>
    by_cases hx : x ∈ moved
    · exact hmoved x hx
    · exact .root (by rw [reparent_of_not_mem hx, hroot])
  | @child x p hparent _ ih =>
    by_cases hx : x ∈ moved
    · exact hmoved x hx
    · exact .child (by rw [reparent_of_not_mem hx, hparent]) ih

end Moves

/-- The links read one after the other on the way up from `start`; `stop` is read next. -/
inductive Climbs : Option κ → List (κ × Option κ) → Option κ → Prop
  | nil (start : Option κ) : Climbs start [] start
  | cons {x : κ} {p stop : Option κ} {links : List (κ × Option κ)} (h : Climbs p links stop) :
      Climbs (some x) ((x, p) :: links) stop

theorem Climbs.concat {start : Option κ} {links : List (κ × Option κ)}
    (h : Climbs start links (some x)) (p : Option κ) : Climbs start (links ++ [(x, p)]) p := by
  generalize hstop : some x = stop at h
  induction h with
  | nil start =>
    subst hstop
    exact .cons (.nil p)
  | cons _ ih => exact .cons (ih hstop)

/-- A walk that ended met every node above its start, if the links it read still hold. -/
theorem Climbs.met {links : List (κ × Option κ)} (h : Climbs (some x) links none)
    (hlinks : ∀ link ∈ links, parent link.1 = link.2) (habove : Above parent x y) :
    y ∈ links.map Prod.fst := by
  induction links generalizing x with
  | nil => cases h
  | cons link links ih =>
    cases h with
    | cons hrest =>
      rcases Relation.ReflTransGen.cases_head habove with rfl | ⟨p, hparent, hrest_above⟩
      · exact List.mem_cons_self
      · have hlink := hlinks _ List.mem_cons_self
        rw [hparent] at hlink
        obtain rfl : some p = _ := hlink
        exact List.mem_cons_of_mem _
          (ih hrest (fun other hother => hlinks other (List.mem_cons_of_mem _ hother)) hrest_above)

end BlogOps.ParentForests
