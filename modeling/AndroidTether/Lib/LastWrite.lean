import Mathlib.Data.List.Basic
import Mathlib.Tactic.Common

namespace LastWrite

/-!
# Records that are written field by field

A run of writes, each to one field, leaves every field as its last write does.

* `last key ws k` — the last of the writes `ws` to the field `k`;
* `Store` — a record with fields that can be read, and what a write does to them;
  `Store.read_writeAll` — a field after any number of writes;
* `Store.priority_iff` — writes of two classes, high and low, made in turns: the high ones
  win over all low ones exactly when no low write that comes later says otherwise.
-/

variable {α β κ : Type} [DecidableEq κ] (key : α → κ)

/-- The last write to the field `k`. -/
def last (ws : List α) (k : κ) : Option α := (ws.filter fun w => key w = k).getLast?

variable {key} {ws vs : List α} {w : α} {k : κ}

@[simp] theorem last_nil : last key [] k = none := rfl

/-- A later write wins. -/
@[simp] theorem last_append : last key (ws ++ vs) k = (last key vs k).or (last key ws k) := by
  simp only [last, List.filter_append, List.getLast?_append]

@[simp] theorem last_singleton : last key [w] k = if key w = k then some w else none := by
  by_cases h : key w = k <;> simp [last, h]

/-- The last write is one of the writes. -/
theorem mem_of_last (h : last key ws k = some w) : w ∈ ws :=
  (List.mem_filter.mp (List.mem_of_getLast? h)).1

/-- It is to the place asked for. -/
theorem key_of_last (h : last key ws k = some w) : key w = k :=
  of_decide_eq_true (List.mem_filter.mp (List.mem_of_getLast? h)).2

/-- There is none when nothing is written there. -/
theorem last_eq_none_iff : last key ws k = none ↔ ∀ w ∈ ws, key w ≠ k := by
  simp [last]

/-! ### Records -/

/-- A record of type `σ`: `read` gives the value of a field, and a write `w` gives the field
    `key w` the value `val w`. -/
structure Store (σ ρ : Type) (key : α → κ) where
  read : σ → κ → ρ
  write : σ → α → σ
  val : α → ρ
  read_write : ∀ s w k, read (write s w) k = if key w = k then val w else read s k

variable {σ ρ : Type} (S : Store σ ρ key)

/-- The record after the writes `ws`. -/
def Store.writeAll (s : σ) (ws : List α) : σ := ws.foldl S.write s

/-- Writes one after the other. -/
theorem Store.writeAll_append (s : σ) (ws vs : List α) :
    S.writeAll s (ws ++ vs) = S.writeAll (S.writeAll s ws) vs := List.foldl_append

/-- **Last write.**  A field holds what was written to it last, or else what it held. -/
theorem Store.read_writeAll (s : σ) (ws : List α) (k : κ) :
    S.read (S.writeAll s ws) k = ((last key ws k).map S.val).getD (S.read s k) := by
  induction ws generalizing s with
  | nil => rfl
  | cons w ws ih =>
    have hsplit : last key ([w] ++ ws) k = (last key ws k).or (last key [w] k) := last_append
    rw [List.singleton_append] at hsplit
    rw [Store.writeAll, List.foldl_cons, ← Store.writeAll, ih, S.read_write, hsplit, last_singleton]
    cases last key ws k with
    | some v => rfl
    | none => by_cases h : key w = k <;> simp [h]

/-! ### Two classes of writes -/

section Interleave

variable (key) (hi lo : β → List α) (base : List α)

/-- The writes of a run: those of `base`, then, step by step, the high and the low ones. -/
def interleave (steps : List β) : List α := base ++ steps.flatMap fun o => hi o ++ lo o

/-- The field `k` when the high writes win: their last write to it, or else the last low
    one. -/
def preferred (steps : List β) (k : κ) : Option α :=
  (last key (steps.flatMap hi) k).or (last key (base ++ steps.flatMap lo) k)

variable {key hi lo base}

/-- Steps without a high write to a field write it as their low writes do. -/
theorem last_flatMap_of_no_hi {steps : List β} (h : last key (steps.flatMap hi) k = none) :
    last key (steps.flatMap fun o => hi o ++ lo o) k = last key (steps.flatMap lo) k := by
  induction steps with
  | nil => rfl
  | cons o steps ih =>
    simp only [List.flatMap_cons, last_append, Option.or_eq_none_iff] at h ⊢
    rw [ih h.1, h.2, Option.or_none]

/-- The last step with a high write to a field. -/
theorem exists_last_step {steps : List β} (h : last key (steps.flatMap hi) k = some w) :
    ∃ pre o post, steps = pre ++ o :: post ∧ last key (hi o) k = some w ∧
      last key (post.flatMap hi) k = none := by
  induction steps with
  | nil => cases h
  | cons o steps ih =>
    rw [List.flatMap_cons, last_append, Option.or_eq_some_iff] at h
    rcases h with h | ⟨hnone, ho⟩
    · obtain ⟨pre, o', post, rfl, ho', hpost⟩ := ih h
      exact ⟨o :: pre, o', post, rfl, ho', hpost⟩
    · exact ⟨[], o, steps, rfl, ho, hnone⟩

/-- The field when the last high write to it is known. -/
theorem last_interleave_split {pre post : List β} {o : β} (ho : last key (hi o) k = some w)
    (hpost : last key (post.flatMap hi) k = none) :
    last key (interleave hi lo base (pre ++ o :: post)) k =
      (last key (lo o ++ post.flatMap lo) k).or (some w) := by
  simp only [interleave, List.flatMap_append, List.flatMap_cons, last_append, ho,
    last_flatMap_of_no_hi hpost, Option.or_assoc, Option.some_or]

/-- **Priority.**  After writes of both classes in turns every field holds what the high
    writes prefer exactly when, behind the last high write to a field, the last low write to
    it, if any, says the same. -/
theorem Store.priority_iff (hi lo : β → List α) (base : List α) (s : σ) (steps : List β) :
    (∀ k, S.read (S.writeAll s (interleave hi lo base steps)) k =
        ((preferred key hi lo base steps k).map S.val).getD (S.read s k)) ↔
      ∀ k pre o post w, steps = pre ++ o :: post → last key (hi o) k = some w →
        last key (post.flatMap hi) k = none →
        ∀ v, last key (lo o ++ post.flatMap lo) k = some v → S.val v = S.val w := by
  constructor
  · rintro h k pre o post w rfl ho hpost v hv
    have hk := h k
    rw [S.read_writeAll, last_interleave_split ho hpost, hv, preferred] at hk
    simp only [List.flatMap_append, List.flatMap_cons, last_append, hpost, ho] at hk
    exact hk
  · intro h k
    rw [S.read_writeAll]
    cases hk : last key (steps.flatMap hi) k with
    | none =>
      -- no high write: both sides are the last low write
      rw [preferred, hk, Option.none_or, interleave, last_append, last_append,
        last_flatMap_of_no_hi hk]
    | some w =>
      obtain ⟨pre, o, post, rfl, ho, hpost⟩ := exists_last_step hk
      rw [preferred, hk, last_interleave_split ho hpost]
      cases hv : last key (lo o ++ post.flatMap lo) k with
      | none => rfl
      | some v => exact h k pre o post w rfl ho hpost v hv

end Interleave

end LastWrite
