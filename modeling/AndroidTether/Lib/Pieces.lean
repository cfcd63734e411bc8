import Mathlib.Data.List.Basic
import Mathlib.Tactic.Common

namespace Pieces

/-!
# Reading lines with a bounded buffer

A text consists of lines between delimiters, and is read in pieces that end behind a delimiter
or where the buffer is full.

* `chunks size xs` — a line, cut into pieces of `size` elements;
* `readTo d size xs` — what one read returns;
* `pieces d size xs` — the pieces of all lines of a text;
* `exists_piece` — every read returns the next piece, perhaps with the delimiter behind it.
-/

variable {α : Type}

/-- The list, cut into pieces of `size` elements (of one, if `size` is zero). -/
def chunks (size : Nat) : List α → List (List α)
  | [] => []
  | x :: xs => (x :: xs.take (size - 1)) :: chunks size (xs.drop (size - 1))
termination_by xs => xs.length
decreasing_by
  simp only [List.length_drop, List.length_cons]
  omega

variable {size : Nat} {xs : List α}

@[simp] theorem chunks_nil : chunks size ([] : List α) = [] := by rw [chunks]

/-- The first chunk, and those of the rest. -/
theorem chunks_eq (hsize : 0 < size) (hxs : xs ≠ []) :
    chunks size xs = xs.take size :: chunks size (xs.drop size) := by
  obtain ⟨n, rfl⟩ := Nat.exists_eq_succ_of_ne_zero (Nat.ne_of_gt hsize)
  cases xs with
  | nil => exact absurd rfl hxs
  | cons x xs => rw [chunks]; rfl

/-- A line that fits is one piece. -/
theorem chunks_of_length_le (hsize : xs.length ≤ size) (hxs : xs ≠ []) :
    chunks size xs = [xs] := by
  have hpos : 0 < size := Nat.lt_of_lt_of_le (List.length_pos_iff.mpr hxs) hsize
  rw [chunks_eq hpos hxs, List.take_of_length_le hsize, List.drop_of_length_le hsize, chunks_nil]

/-- A piece is a part of its line. -/
theorem subset_of_mem_chunks {l : List α} (h : l ∈ chunks size xs) : l ⊆ xs := by
  induction xs using chunks.induct size with
  | case1 =>
    rw [chunks_nil] at h
    exact absurd h List.not_mem_nil
  | case2 x xs ih =>
    rw [chunks, List.mem_cons] at h
    rcases h with rfl | h
    · exact List.cons_subset_cons x (List.take_subset _ _)
    · have hdrop := List.Subset.trans (ih h) (List.drop_subset _ _)
      exact List.Subset.trans hdrop (List.subset_cons_self _ _)

/-- The first lines of a text are its beginning. -/
theorem intercalate_take_isPrefix (sep : List α) (ls : List (List α)) (n : Nat) :
    sep.intercalate (ls.take n) <+: sep.intercalate ls := by
  induction ls generalizing n with
  | nil => simp
  | cons l ls ih =>
    cases n with
    | zero => simp [List.intercalate]
    | succ n =>
      rw [List.take_succ_cons]
      cases ls with
      | nil => simp
      | cons l' ls =>
        rw [List.intercalate_cons_cons]
        cases n with
        | zero =>
          rw [List.take_zero, List.intercalate_singleton, List.append_assoc]
          exact List.prefix_append _ _
        | succ n =>
          have ih := ih (n + 1)
          rw [List.take_succ_cons] at ih ⊢
          rw [List.intercalate_cons_cons]
          exact (List.prefix_append_right_inj _).mpr ih

variable [DecidableEq α] {d : α}

/-- At most `size` elements, up to and with the delimiter. -/
def readTo (d : α) : Nat → List α → List α
  | 0, _ => []
  | _ + 1, [] => []
  | n + 1, x :: xs => if x = d then [x] else x :: readTo d n xs

/-- Without a delimiter as much is read as there is room for. -/
theorem readTo_of_not_mem (h : d ∉ xs) : readTo d size xs = xs.take size := by
  induction size generalizing xs with
  | zero => rfl
  | succ n ih =>
    cases xs with
    | nil => rfl
    | cons x xs =>
      rw [List.mem_cons, not_or] at h
      rw [readTo, if_neg (Ne.symm h.1), ih h.2, List.take_succ_cons]

/-- Up to the delimiter, if there is room. -/
theorem readTo_append_cons (h : d ∉ xs) (rest : List α) :
    readTo d size (xs ++ d :: rest) =
      if xs.length < size then xs ++ [d] else xs.take size := by
  induction size generalizing xs with
  | zero => rfl
  | succ n ih =>
    cases xs with
    | nil => simp [readTo]
    | cons x xs =>
      rw [List.mem_cons, not_or] at h
      rw [List.cons_append, readTo, if_neg (Ne.symm h.1), ih h.2]
      by_cases hlt : xs.length < n <;> simp [hlt]

/-- The pieces of the lines of a text. -/
def pieces (d : α) (size : Nat) (xs : List α) : List (List α) :=
  (xs.splitOn d).flatMap (chunks size)

@[simp] theorem pieces_nil : pieces d size [] = [] := by simp [pieces]

/-- A stream without a delimiter is read in chunks. -/
theorem pieces_of_not_mem (h : d ∉ xs) : pieces d size xs = chunks size xs := by
  rw [pieces, List.splitOn_eq_singleton h, List.flatMap_singleton]

/-- The pieces of a line, and those of the rest. -/
theorem pieces_append_cons (h : d ∉ xs) (rest : List α) :
    pieces d size (xs ++ d :: rest) = chunks size xs ++ pieces d size rest := by
  rw [pieces, List.splitOn_append_cons_self_of_not_mem h, List.flatMap_cons]
  rfl

/-- The lines of a text are read one after the other. -/
theorem pieces_intercalate {ls : List (List α)} (h : ∀ l ∈ ls, d ∉ l) :
    pieces d size ([d].intercalate ls) = ls.flatMap (chunks size) := by
  rcases eq_or_ne ls [] with rfl | hne
  · simp [List.intercalate]
  · rw [pieces, List.splitOn_intercalate d h hne]

/-- A line has no delimiter in it. -/
theorem not_mem_of_mem_splitOn {l : List α} (h : l ∈ xs.splitOn d) : d ∉ l := by
  induction xs generalizing l with
  | nil =>
    rw [List.splitOn_nil, List.mem_singleton] at h
    simp [h]
  | cons x xs ih =>
    rw [List.splitOn_cons_eq_if_modifyHead] at h
    by_cases hx : x = d
    · simp only [hx, beq_self_eq_true, if_true, List.mem_cons] at h
      rcases h with rfl | h
      · exact List.not_mem_nil
      · exact ih h
    · rw [if_neg (by simpa using hx)] at h
      cases hls : xs.splitOn d with
      | nil => exact absurd hls (List.splitOn_ne_nil d xs)
      | cons l' ls =>
        rw [hls, List.modifyHead_cons, List.mem_cons] at h
        rcases h with rfl | h
        · rw [List.mem_cons, not_or]
          exact ⟨Ne.symm hx, ih (by rw [hls]; exact List.mem_cons_self)⟩
        · exact ih (by rw [hls]; exact List.mem_cons_of_mem _ h)

/-- A line is a part of its text. -/
theorem subset_of_mem_splitOn {l : List α} (h : l ∈ xs.splitOn d) : l ⊆ xs := by
  induction xs generalizing l with
  | nil =>
    rw [List.splitOn_nil, List.mem_singleton] at h
    rw [h]
    exact List.Subset.refl _
  | cons x xs ih =>
    rw [List.splitOn_cons_eq_if_modifyHead] at h
    by_cases hx : x = d
    · simp only [hx, beq_self_eq_true, if_true, List.mem_cons] at h
      rcases h with rfl | h
      · exact List.nil_subset _
      · exact List.Subset.trans (ih h) (List.subset_cons_self _ _)
    · rw [if_neg (by simpa using hx)] at h
      cases hls : xs.splitOn d with
      | nil => exact absurd hls (List.splitOn_ne_nil d xs)
      | cons l' ls =>
        rw [hls, List.modifyHead_cons, List.mem_cons] at h
        rcases h with rfl | h
        · exact List.cons_subset_cons x (ih (by rw [hls]; exact List.mem_cons_self))
        · have hrest := ih (l := l) (by rw [hls]; exact List.mem_cons_of_mem _ h)
          exact List.Subset.trans hrest (List.subset_cons_self _ _)

/-- So is a piece of it. -/
theorem subset_of_mem_pieces {l : List α} (h : l ∈ pieces d size xs) : l ⊆ xs := by
  obtain ⟨line, hline, hl⟩ := List.mem_flatMap.mp h
  exact List.Subset.trans (subset_of_mem_chunks hl) (subset_of_mem_splitOn hline)

/-- **Reading.**  What a read returns is the next piece of the text, with the delimiter behind it
    if the line ends there; between two delimiters it is only the second of them. -/
theorem exists_piece (hsize : 0 < size) (hxs : xs ≠ []) :
    ∃ body ending, readTo d size xs = body ++ ending ∧ (ending = [] ∨ ending = [d]) ∧
      (body = [] ∨ chunks size body = [body]) ∧
      pieces d size xs = chunks size body ++ pieces d size (xs.drop (readTo d size xs).length) := by
  -- a line that does not fit into the buffer
  have hlong : ∀ l : List α, l ≠ [] → chunks size (l.take size) = [l.take size] ∧
      chunks size l = chunks size (l.take size) ++ chunks size (l.drop size) := by
    intro l hl
    have hne : l.take size ≠ [] := by
      rw [ne_eq, List.take_eq_nil_iff, not_or]
      exact ⟨Nat.ne_of_gt hsize, hl⟩
    have hone : chunks size (l.take size) = [l.take size] :=
      chunks_of_length_le (List.length_take_le _ _) hne
    refine ⟨hone, ?_⟩
    rw [hone, chunks_eq hsize hl]
    rfl
  by_cases hd : d ∈ xs
  · obtain ⟨l, rest, rfl, hl⟩ := List.eq_append_cons_of_mem hd
    rw [readTo_append_cons hl]
    by_cases hlt : l.length < size
    · refine ⟨l, [d], if_pos hlt, .inr rfl, ?_, ?_⟩
      · rcases eq_or_ne l [] with rfl | hne
        · exact .inl rfl
        · exact .inr (chunks_of_length_le (Nat.le_of_lt hlt) hne)
      · rw [if_pos hlt, pieces_append_cons hl]
        simp
    · have hne : l ≠ [] := by
        rintro rfl
        exact hlt hsize
      have hdrop : l.drop size ++ d :: rest = (l ++ d :: rest).drop (l.take size).length := by
        rw [List.length_take, Nat.min_eq_left (Nat.not_lt.mp hlt),
          List.drop_append_of_le_length (Nat.not_lt.mp hlt)]
      have hrest : d ∉ l.drop size := fun h => hl (List.mem_of_mem_drop h)
      refine ⟨l.take size, [], by rw [if_neg hlt, List.append_nil], .inl rfl,
        .inr (hlong l hne).1, ?_⟩
      rw [if_neg hlt, ← hdrop, pieces_append_cons hl, pieces_append_cons hrest, (hlong l hne).2,
        List.append_assoc]
  · have hread : readTo d size xs = xs.take size := readTo_of_not_mem hd
    have hdrop : xs.drop (xs.take size).length = xs.drop size := by
      rw [List.length_take]
      rcases Nat.le_total size xs.length with hle | hle
      · rw [Nat.min_eq_left hle]
      · rw [Nat.min_eq_right hle, List.drop_of_length_le hle, List.drop_length]
    have hrest : d ∉ xs.drop size := fun h => hd (List.mem_of_mem_drop h)
    refine ⟨xs.take size, [], by rw [hread, List.append_nil], .inl rfl, .inr (hlong xs hxs).1, ?_⟩
    rw [hread, hdrop, pieces_of_not_mem hd, pieces_of_not_mem hrest, (hlong xs hxs).2]

end Pieces
