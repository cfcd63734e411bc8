import Mathlib.Logic.Function.Basic
import Mathlib.Tactic.Common

namespace Snapshot

/-!
# Reading cells while they are written

A writer replaces the cells of a table one after the other, cell 0 first; a reader copies the
cells without waiting for it.

* `snapshot old new seen` — what the reader gets that reads cell `i` when the writer has replaced
  the first `seen i` cells;
* `Mixed old new seen` — an old and a new cell, and it shows;
* `snapshot_eq_iff` — the reader gets the old table or the new one exactly when nothing is mixed.
-/

variable {α : Type} {n : Nat}

/-- Cell by cell, the old one or the new one. -/
def snapshot (old new : Fin n → α) (seen : Fin n → Nat) : Fin n → α := fun i =>
  if i < seen i then new i else old i

/-- Cell `i` is read when it is replaced already and cell `j` when it is not, and both differ
    from what they were, or are to be. -/
def Mixed (old new : Fin n → α) (seen : Fin n → Nat) : Prop :=
  ∃ i j, (old i ≠ new i ∧ i < seen i) ∧ old j ≠ new j ∧ ¬ j < seen j

variable {old new : Fin n → α} {seen : Fin n → Nat}

/-- The copy is the old value when no place that changed was read late. -/
theorem snapshot_eq_old_iff : snapshot old new seen = old ↔ ∀ i, old i ≠ new i → ¬ i < seen i := by
  rw [funext_iff]
  refine forall_congr' fun i => ?_
  unfold snapshot
  split_ifs with h <;> simp [h, eq_comm]

/-- It is the new one when every such place was. -/
theorem snapshot_eq_new_iff : snapshot old new seen = new ↔ ∀ j, old j ≠ new j → j < seen j := by
  rw [funext_iff]
  refine forall_congr' fun j => ?_
  unfold snapshot
  split_ifs with h <;> simp [h]

/-- **Torn reads.** -/
theorem snapshot_eq_iff :
    (snapshot old new seen = old ∨ snapshot old new seen = new) ↔ ¬ Mixed old new seen := by
  rw [snapshot_eq_old_iff, snapshot_eq_new_iff]
  constructor
  · rintro (hold | hnew) ⟨i, j, ⟨hi, hlt⟩, hj, hge⟩
    · exact hold i hi hlt
    · exact hge (hnew j hj)
  · intro hmixed
    by_contra hneither
    obtain ⟨hold, hnew⟩ := not_or.mp hneither
    obtain ⟨i, hi⟩ := not_forall.mp hold
    obtain ⟨j, hj⟩ := not_forall.mp hnew
    obtain ⟨hidiff, hlt⟩ := Classical.not_imp.mp hi
    obtain ⟨hjdiff, hge⟩ := Classical.not_imp.mp hj
    exact hmixed ⟨i, j, ⟨hidiff, not_not.mp hlt⟩, hjdiff, hge⟩

/-- Nothing is replaced yet. -/
theorem snapshot_of_zero (h : ∀ i, seen i = 0) : snapshot old new seen = old := by
  rw [snapshot_eq_old_iff]
  intro i _
  simp [h i]

/-- The table itself, when `k` of its cells are replaced and one more is. -/
theorem update_snapshot (old new : Fin n → α) (k : Fin n) :
    Function.update (snapshot old new fun _ => k) k (new k) =
      snapshot old new fun _ => k + 1 := by
  funext i
  rcases eq_or_ne i k with rfl | hne
  · simp [snapshot]
  · have hval : i.val ≠ k.val := Fin.val_ne_of_ne hne
    have hlt : i.val < k.val ↔ i.val < k.val + 1 := by omega
    simp only [Function.update_of_ne hne, snapshot, hlt]

end Snapshot
