import Mathlib.Algebra.BigOperators.Group.List.Basic
import Mathlib.Algebra.Order.Ring.Nat
import Mathlib.Data.List.Induction

namespace OnesSum

/-!
# Ones'-complement sums

Words `0 .. m`, with `m` all ones, are added with end-around carry: what runs over `m` comes
back in at the low end.  Zero has two forms, `0` and `m`, and `0` only comes out of zeros.

* `sum_eq` — a sum of words, by the plain sum of their values;
* `rep_fold` — folding the high part of a plain sum back in does not change its word;
* `rep_complement` — a sum with the complement of its word is all ones.
-/

variable (m : Nat)

/-- Addition with end-around carry. -/
def add (a b : Nat) : Nat := if a + b ≤ m then a + b else a + b - m

/-- The ones'-complement sum of words. -/
def sum (ws : List Nat) : Nat := ws.foldl (add m) 0

/-- The word of a plain sum. -/
def rep (n : Nat) : Nat := if n = 0 then 0 else (n - 1) % m + 1

variable {m}

@[simp] theorem rep_zero : rep m 0 = 0 := rfl

/-- The representative of a positive number. -/
theorem rep_of_pos {n : Nat} (h : 0 < n) : rep m n = (n - 1) % m + 1 := if_neg (by omega)

/-- It is at most the modulus. -/
theorem rep_le (hm : 0 < m) (n : Nat) : rep m n ≤ m := by
  rcases Nat.eq_zero_or_pos n with rfl | hn
  · exact Nat.zero_le m
  · rw [rep_of_pos hn]
    exact Nat.mod_lt _ hm

/-- Numbers up to the modulus represent themselves. -/
theorem rep_of_le {n : Nat} (h : n ≤ m) : rep m n = n := by
  rcases Nat.eq_zero_or_pos n with rfl | hn
  · rfl
  · rw [rep_of_pos hn, Nat.mod_eq_of_lt (by omega)]
    omega

/-- Whole turns do not count. -/
theorem rep_add_mul {n : Nat} (hn : 0 < n) (q : Nat) : rep m (n + m * q) = rep m n := by
  rw [rep_of_pos hn, rep_of_pos (by omega), show n + m * q - 1 = n - 1 + m * q by omega,
    Nat.add_mul_mod_self_left]

/-- Folding the high part back in. -/
theorem rep_fold (n : Nat) : rep m (n % (m + 1) + n / (m + 1)) = rep m n := by
  rcases Nat.eq_zero_or_pos n with rfl | hn
  · simp
  · have hdiv := Nat.mod_add_div n (m + 1)
    rw [Nat.add_mul, Nat.one_mul] at hdiv
    generalize n % (m + 1) = low at *
    generalize n / (m + 1) = high at *
    have hpos : 0 < low + high := by
      by_contra hzero
      obtain rfl : high = 0 := by omega
      omega
    calc rep m (low + high) = rep m (low + high + m * high) := (rep_add_mul hpos high).symm
      _ = rep m n := by rw [← hdiv, ← Nat.add_assoc, Nat.add_right_comm low]

/-- Adding a word to the word of a plain sum. -/
theorem add_rep (hm : 0 < m) {b : Nat} (hb : b ≤ m) (a : Nat) :
    add m (rep m a) b = rep m (a + b) := by
  rcases Nat.eq_zero_or_pos a with rfl | ha
  · rw [rep_zero, add, Nat.zero_add, if_pos hb, rep_of_le hb]
  · have hle := rep_le hm a
    -- `a` is its word and whole turns
    have hsplit : a + b = rep m a + b + m * ((a - 1) / m) := by
      have hdiv := Nat.mod_add_div (a - 1) m
      rw [rep_of_pos ha]
      omega
    have hpos : 0 < rep m a := by
      rw [rep_of_pos ha]
      omega
    rw [hsplit, rep_add_mul (by omega), add]
    split_ifs with hsum
    · rw [rep_of_le hsum]
    · calc rep m a + b - m = rep m (rep m a + b - m) := (rep_of_le (by omega)).symm
        _ = rep m (rep m a + b - m + m * 1) := (rep_add_mul (by omega) 1).symm
        _ = rep m (rep m a + b) := by rw [Nat.mul_one, Nat.sub_add_cancel (by omega)]

/-- **A ones'-complement sum** is the word of the plain sum. -/
theorem sum_eq (hm : 0 < m) {ws : List Nat} (h : ∀ w ∈ ws, w ≤ m) : sum m ws = rep m ws.sum := by
  induction ws using List.reverseRecOn with
  | nil => rfl
  | append_singleton ws w ih =>
    have hrest : sum m ws = rep m ws.sum := ih fun v hv => h v (by simp [hv])
    have hstep : sum m (ws ++ [w]) = add m (sum m ws) w := by simp [sum]
    rw [hstep, hrest, add_rep hm (h w (by simp)), List.sum_append, List.sum_singleton]

/-- **The complement of a sum** makes it all ones. -/
theorem rep_complement (hm : 0 < m) (n : Nat) : rep m (n + (m - rep m n)) = m := by
  have hle := rep_le hm n
  rw [← add_rep hm (by omega), add, if_pos (by omega)]
  omega

end OnesSum
