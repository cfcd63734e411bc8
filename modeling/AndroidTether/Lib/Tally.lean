import Mathlib.Algebra.BigOperators.Fin
import Mathlib.Algebra.BigOperators.Ring.Finset
import Mathlib.Algebra.Order.BigOperators.Group.Finset

namespace Tally

/-!
# Counting the entries of a table

* `tally` — how many entries of a finite table have a property;
* `tally_update` — what writing one entry does to the count;
* `tally_eq_zero` — the count of a table with no such entry; `tally_pos`, `eq_of_tally_le_one` —
  with one, and with at most one;
* `tally_eq_countP` — the count along a list of the entries.
-/

variable {ι β : Type*} [Fintype ι]

/-- How many entries of `f` have `p`. -/
def tally (p : β → Bool) (f : ι → β) : Nat := ∑ i, (p (f i)).toNat

variable {p : β → Bool} {f g : ι → β}

/-- Nothing is counted when nothing qualifies. -/
theorem tally_eq_zero : tally p f = 0 ↔ ∀ i, p (f i) = false := by
  simp [tally, Finset.sum_eq_zero_iff]

/-- Only the property of the entries counts. -/
theorem tally_congr (h : ∀ i, p (f i) = p (g i)) : tally p f = tally p g :=
  Finset.sum_congr rfl fun i _ => by rw [h i]

/-- Something that qualifies is counted. -/
theorem tally_pos {i : ι} (h : p (f i) = true) : 0 < tally p f := by
  apply Nat.pos_of_ne_zero
  intro hzero
  simp [tally_eq_zero.mp hzero i] at h

/-- At most everything is counted. -/
theorem tally_le_card : tally p f ≤ Fintype.card ι := by
  have hle := Finset.sum_le_card_nsmul Finset.univ (fun i => (p (f i)).toNat) 1
    fun i _ => Bool.toNat_le _
  rwa [Nat.nsmul_eq_mul, Nat.mul_one, Finset.card_univ] at hle

/-- The entries of a table, one after the other. -/
theorem tally_eq_countP {n : Nat} (p : β → Bool) (f : Fin n → β) :
    tally p f = (List.finRange n).countP fun i => p (f i) := by
  have hsum : ∀ l : List (Fin n), (l.map fun i => (p (f i)).toNat).sum = l.countP fun i => p (f i) := by
    intro l
    induction l with
    | nil => rfl
    | cons i l ih =>
      rw [List.map_cons, List.sum_cons, ih, List.countP_cons]
      cases p (f i) <;> simp [Nat.add_comm]
  rw [tally, Fin.sum_univ_def, hsum]

variable [DecidableEq ι]

/-- Two entries with the property, of which there is at most one, are the same. -/
theorem eq_of_tally_le_one {i j : ι} (h : tally p f ≤ 1) (hi : p (f i) = true)
    (hj : p (f j) = true) : i = j := by
  by_contra hne
  have hsplit := Finset.add_sum_erase Finset.univ (fun k => (p (f k)).toNat) (Finset.mem_univ i)
  have hle : (p (f j)).toNat ≤ ∑ k ∈ Finset.univ.erase i, (p (f k)).toNat :=
    Finset.single_le_sum (f := fun k => (p (f k)).toNat) (fun _ _ => Nat.zero_le _)
      (Finset.mem_erase.mpr ⟨Ne.symm hne, Finset.mem_univ j⟩)
  simp only [hi, hj, Bool.toNat_true] at hsplit hle
  unfold tally at h
  omega

/-- Writing an entry takes the old one out of the count and the new one in. -/
theorem tally_update (i : ι) (x : β) :
    tally p (Function.update f i x) + (p (f i)).toNat = tally p f + (p x).toNat := by
  have hrest : ∑ j ∈ Finset.univ.erase i, (p (Function.update f i x j)).toNat =
      ∑ j ∈ Finset.univ.erase i, (p (f j)).toNat :=
    Finset.sum_congr rfl fun j hj => by rw [Function.update_of_ne (Finset.ne_of_mem_erase hj)]
  have hnew := Finset.add_sum_erase Finset.univ (fun j => (p (Function.update f i x j)).toNat)
    (Finset.mem_univ i)
  have hold := Finset.add_sum_erase Finset.univ (fun j => (p (f j)).toNat) (Finset.mem_univ i)
  simp only [Function.update_self] at hnew
  unfold tally
  omega

end Tally
