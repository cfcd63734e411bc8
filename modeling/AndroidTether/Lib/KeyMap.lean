import Mathlib.Logic.Function.Basic
import Mathlib.Tactic.Common

namespace KeyMap

/-!
# Tables that are edited key by key

A table is a partial map from keys to values; an edit names one key.  A program that edits a
table and later undoes its edits by removing the keys it may have written restores the table
exactly when none of these keys was there before (`undo_by_removal_iff`).
-/

/-- An edit of a table. -/
inductive Edit (κ ν : Type) where
  /-- Insert a value under a key that has none; fail, changing nothing, when it has one. -/
  | add (k : κ) (v : ν)
  /-- Give a key a value, whether or not it had one. -/
  | set (k : κ) (v : ν)
  /-- Remove a key. -/
  | remove (k : κ)
  deriving DecidableEq, Repr

variable {κ ν : Type} [DecidableEq κ]

/-- The key an edit names. -/
def Edit.key : Edit κ ν → κ
  | add k _ => k
  | set k _ => k
  | remove k => k

/-- The table after an edit. -/
def Edit.apply (e : Edit κ ν) (t : κ → Option ν) : κ → Option ν :=
  match e with
  | add k v => if (t k).isSome then t else Function.update t k (some v)
  | set k v => Function.update t k (some v)
  | remove k => Function.update t k none

/-- The table after a list of edits, in order. -/
def applyAll (es : List (Edit κ ν)) (t : κ → Option ν) : κ → Option ν :=
  es.foldl (fun t e => e.apply t) t

variable {t : κ → Option ν} {k : κ}

@[simp] theorem applyAll_nil : applyAll ([] : List (Edit κ ν)) t = t := rfl
@[simp] theorem applyAll_cons (e : Edit κ ν) (es : List (Edit κ ν)) :
    applyAll (e :: es) t = applyAll es (e.apply t) := rfl

/-- **Frame rule.**  An edit changes its own key only. -/
theorem Edit.apply_of_ne {e : Edit κ ν} (h : k ≠ e.key) : e.apply t k = t k := by
  cases e with
  | add k' v =>
    show (if (t k').isSome then t else Function.update t k' (some v)) k = t k
    split
    · rfl
    · exact Function.update_of_ne h _ _
  | set k' v => exact Function.update_of_ne h _ _
  | remove k' => exact Function.update_of_ne h _ _

/-- A list of edits changes the keys it names only. -/
theorem applyAll_of_forall_ne {es : List (Edit κ ν)} (h : ∀ e ∈ es, k ≠ e.key) :
    applyAll es t k = t k := by
  induction es generalizing t with
  | nil => rfl
  | cons e es ih =>
    rw [applyAll_cons, ih fun x hx => h x (by simp [hx]), Edit.apply_of_ne (h e (by simp))]

/-- Removing keys leaves the other keys as they are and these absent. -/
theorem applyAll_remove (ks : List κ) :
    applyAll (ks.map Edit.remove) t k = if k ∈ ks then none else t k := by
  induction ks generalizing t with
  | nil => simp
  | cons k' ks ih =>
    rw [List.map_cons, applyAll_cons, ih]
    by_cases hk : k ∈ ks
    · simp [hk]
    · by_cases hk' : k = k'
      · simp [hk', Edit.apply]
      · rw [if_neg hk, if_neg (by simp [hk, hk']), Edit.apply_of_ne hk']

/-- **Undoing by removal.**  When the edits name keys of `ks` only, removing all of `ks`
    afterwards gives the table back exactly when no key of `ks` was in it. -/
theorem undo_by_removal_iff {es : List (Edit κ ν)} {ks : List κ} (hes : ∀ e ∈ es, e.key ∈ ks) :
    applyAll (ks.map Edit.remove) (applyAll es t) = t ↔ ∀ k ∈ ks, t k = none := by
  constructor
  · intro h k hk
    rw [← h, applyAll_remove, if_pos hk]
  · intro h
    funext k
    rw [applyAll_remove]
    split
    · rename_i hk
      exact (h k hk).symm
    · rename_i hk
      refine applyAll_of_forall_ne fun e he => ?_
      rintro rfl
      exact hk (hes e he)

end KeyMap
