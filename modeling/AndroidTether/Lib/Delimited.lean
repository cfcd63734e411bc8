import Mathlib.Data.List.Infix
import Mathlib.Tactic.Common

namespace Delimited

/-!
# Streams of delimited messages

A stream is the concatenation of messages that each end with the same delimiter, and it is
read in pieces whose ends need not be the ends of messages.

* `infix_window_iff` — a pattern is found in a piece of a list exactly when it occurs in the
  list between the ends of the piece;
* `occursAt_stream_iff` — a pattern without the delimiter occurs in the stream only inside
  one message;
* `Lines d xs ls tail` — a stream is messages and what of the next one has arrived;
  `Lines.append` — another piece of the stream; `Lines.unique`, `Lines.isPrefix_of_append`.
-/

variable {α ι : Type}

/-- `q` occurs in `xs` from index `p` on. -/
def OccursAt (xs q : List α) (p : Nat) : Prop := q <+: xs.drop p

instance [DecidableEq α] (xs q : List α) (p : Nat) : Decidable (OccursAt xs q p) :=
  inferInstanceAs (Decidable (_ <+: _))

variable {xs ys q : List α} {p : Nat}

/-- What occurs is within the list. -/
theorem OccursAt.le_length (h : OccursAt xs q p) (hq : q ≠ []) : p + q.length ≤ xs.length := by
  have hlen := List.IsPrefix.length_le h
  have hpos := List.length_pos_iff.mpr hq
  rw [List.length_drop] at hlen
  omega

/-- Nothing is lost by appending to the right. -/
theorem occursAt_append_of_le (h : p + q.length ≤ xs.length) :
    OccursAt (xs ++ ys) q p ↔ OccursAt xs q p := by
  rw [OccursAt, OccursAt, List.drop_append_of_le_length (by omega)]
  exact List.isPrefix_append_of_length (by rw [List.length_drop]; omega)

/-- Appending on the left shifts occurrences. -/
theorem occursAt_append_add : OccursAt (xs ++ ys) q (xs.length + p) ↔ OccursAt ys q p := by
  rw [OccursAt, OccursAt, List.drop_append, List.drop_eq_nil_of_le (by omega), List.nil_append,
    Nat.add_sub_cancel_left]

/-- **Windows.**  A pattern is an infix of a piece of a list exactly when it occurs in the
    list between the ends of the piece. -/
theorem infix_window_iff (before after : List α) {w : List α} :
    q <:+: w ↔ ∃ p, OccursAt (before ++ w ++ after) q p ∧ before.length ≤ p ∧
      p + q.length ≤ before.length + w.length := by
  constructor
  · rintro ⟨a, b, rfl⟩
    refine ⟨before.length + a.length, ?_, by omega, by simp; omega⟩
    rw [List.append_assoc, occursAt_append_add, OccursAt]
    simp
  · rintro ⟨p, hocc, hle, hin⟩
    obtain ⟨i, rfl⟩ := Nat.exists_eq_add_of_le hle
    rw [List.append_assoc, occursAt_append_add, occursAt_append_of_le (by omega)] at hocc
    exact hocc.isInfix.trans (List.drop_suffix i w).isInfix

/-! ### Messages -/

/-- Where message `j` starts in the stream of `cs`. -/
def lineStart (line : ι → List α) (cs : List ι) (j : Nat) : Nat :=
  ((cs.take j).flatMap line).length

@[simp] theorem lineStart_zero (line : ι → List α) (cs : List ι) : lineStart line cs 0 = 0 := rfl

/-- A line starts behind those before it. -/
theorem lineStart_cons_succ (line : ι → List α) (c : ι) (cs : List ι) (j : Nat) :
    lineStart line (c :: cs) (j + 1) = (line c).length + lineStart line cs j := by
  simp [lineStart]

/-- A pattern without the delimiter does not reach over the end of a message. -/
theorem le_length_of_occursAt {d : α} {body : List α} (hq : d ∉ q)
    (h : OccursAt (body ++ [d] ++ ys) q p) (hp : p < (body ++ [d]).length) :
    p + q.length ≤ (body ++ [d]).length := by
  by_contra hover
  -- otherwise the pattern has the delimiter at index `body.length - p`
  apply hq
  obtain ⟨i, hi⟩ : ∃ i, body.length = p + i := ⟨body.length - p, by simp at hp; omega⟩
  have hlt : i < q.length := by simp at hover; omega
  have hget : (q)[i]? = ((body ++ [d] ++ ys).drop p)[i]? := by
    obtain ⟨r, hr⟩ := h
    rw [← hr, List.getElem?_append_left hlt]
  rw [List.getElem?_drop, ← hi] at hget
  simp at hget
  exact List.mem_of_getElem? hget

/-- **Occurrences in a stream.**  A pattern without the delimiter occurs in the stream exactly
    where it occurs in one of the messages. -/
theorem occursAt_stream_iff {line : ι → List α} {d : α} (hline : ∀ c, ∃ body, line c = body ++ [d])
    (hq : d ∉ q) (hne : q ≠ []) {cs : List ι} :
    OccursAt (cs.flatMap line) q p ↔
      ∃ j c i, cs[j]? = some c ∧ OccursAt (line c) q i ∧ p = lineStart line cs j + i := by
  induction cs generalizing p with
  | nil =>
    refine iff_of_false (fun h => ?_) (by simp)
    exact hne (List.eq_nil_of_prefix_nil (by simpa [OccursAt] using h))
  | cons c cs ih =>
    rw [List.flatMap_cons]
    rcases Nat.lt_or_ge p (line c).length with hp | hp
    · -- the pattern starts in the first message, so it lies in it
      constructor
      · intro h
        obtain ⟨body, hbody⟩ := hline c
        have hle : p + q.length ≤ (line c).length := by
          rw [hbody] at h hp ⊢
          exact le_length_of_occursAt hq h hp
        exact ⟨0, c, p, rfl, (occursAt_append_of_le hle).mp h, by simp⟩
      · rintro ⟨j, c', i, hj, hocc, rfl⟩
        cases j with
        | zero =>
          simp only [List.getElem?_cons_zero, Option.some.injEq] at hj
          subst hj
          rw [lineStart_zero, Nat.zero_add]
          exact (occursAt_append_of_le (hocc.le_length hne)).mpr hocc
        | succ j =>
          rw [lineStart_cons_succ] at hp
          omega
    · obtain ⟨k, rfl⟩ := Nat.exists_eq_add_of_le hp
      rw [occursAt_append_add, ih]
      constructor
      · rintro ⟨j, c', i, hj, hocc, rfl⟩
        exact ⟨j + 1, c', i, by simpa using hj, hocc, by rw [lineStart_cons_succ]; omega⟩
      · rintro ⟨j, c', i, hj, hocc, heq⟩
        cases j with
        | zero =>
          simp only [List.getElem?_cons_zero, Option.some.injEq] at hj
          subst hj
          have hle := hocc.le_length hne
          have hpos := List.length_pos_iff.mpr hne
          rw [lineStart_zero] at heq
          omega
        | succ j =>
          rw [lineStart_cons_succ] at heq
          exact ⟨j, c', i, by simpa using hj, hocc, by omega⟩

/-! ### Messages and an unfinished one -/

/-- `xs` is the messages `ls`, each with the delimiter behind it, and `tail`. -/
structure Lines (d : α) (xs : List α) (ls : List (List α)) (tail : List α) : Prop where
  eq : xs = ls.flatMap (· ++ [d]) ++ tail
  line : ∀ l ∈ ls, d ∉ l
  tail : d ∉ tail

namespace Lines

variable {d : α} {ls ls' : List (List α)} {l tail tail' : List α}

/-- Without a delimiter there is no complete line. -/
theorem of_not_mem (h : d ∉ xs) : Lines d xs [] xs := ⟨rfl, by simp, h⟩

/-- One line more. -/
theorem cons (hl : d ∉ l) (h : Lines d xs ls tail) : Lines d (l ++ d :: xs) (l :: ls) tail where
  eq := by rw [h.eq]; simp
  line := List.forall_mem_cons.mpr ⟨hl, h.line⟩
  tail := h.tail

/-- **Pieces.**  What arrives next continues the unfinished message. -/
theorem append (h : Lines d xs ls tail) (h' : Lines d (tail ++ ys) ls' tail') :
    Lines d (xs ++ ys) (ls ++ ls') tail' where
  eq := by
    calc xs ++ ys = ls.flatMap (· ++ [d]) ++ (tail ++ ys) := by rw [h.eq, List.append_assoc]
      _ = (ls ++ ls').flatMap (· ++ [d]) ++ tail' := by
        rw [h'.eq, List.flatMap_append, List.append_assoc]
  line l hl := (List.mem_append.mp hl).elim (h.line l) (h'.line l)
  tail := h'.tail

/-- The first delimiter of a list. -/
theorem append_cons_inj (hl : d ∉ l) {l' : List α} (hl' : d ∉ l')
    (h : l ++ d :: xs = l' ++ d :: ys) : l = l' ∧ xs = ys := by
  induction l generalizing l' with
  | nil =>
    cases l' with
    | nil => exact ⟨rfl, (List.cons.inj h).2⟩
    | cons x l' => exact absurd ((List.cons.inj h).1 ▸ List.mem_cons_self) hl'
  | cons x l ih =>
    rw [List.mem_cons, not_or] at hl
    cases l' with
    | nil => exact absurd (List.cons.inj h).1.symm hl.1
    | cons x' l' =>
      rw [List.mem_cons, not_or] at hl'
      obtain ⟨rfl, hrest⟩ := List.cons.inj h
      obtain ⟨rfl, hxs⟩ := ih hl.2 hl'.2 hrest
      exact ⟨rfl, hxs⟩

/-- A stream has one reading. -/
theorem unique (h : Lines d xs ls tail) (h' : Lines d xs ls' tail') : ls = ls' ∧ tail = tail' := by
  induction ls generalizing xs ls' with
  | nil =>
    have htail : xs = tail := h.eq
    cases ls' with
    | nil => exact ⟨rfl, htail.symm.trans h'.eq⟩
    | cons l' ls' =>
      -- the delimiter behind `l'` would be in the tail
      refine absurd ?_ h.tail
      rw [← htail, h'.eq]
      simp
  | cons l ls ih =>
    cases ls' with
    | nil =>
      refine absurd ?_ h'.tail
      have htail : xs = tail' := h'.eq
      rw [← htail, h.eq]
      simp
    | cons l' ls' =>
      have heq : l ++ d :: (ls.flatMap (· ++ [d]) ++ tail) =
          l' ++ d :: (ls'.flatMap (· ++ [d]) ++ tail') := by
        simpa using h.eq.symm.trans h'.eq
      obtain ⟨hl, hls⟩ := List.forall_mem_cons.mp h.line
      obtain ⟨hl', hls'⟩ := List.forall_mem_cons.mp h'.line
      obtain ⟨rfl, hrest⟩ := append_cons_inj hl hl' heq
      obtain ⟨rfl, htail⟩ := ih ⟨rfl, hls, h.tail⟩ ⟨hrest, hls', h'.tail⟩
      exact ⟨rfl, htail⟩

/-- Every list has a reading. -/
theorem exists_lines [DecidableEq α] (d : α) (xs : List α) : ∃ ls tail, Lines d xs ls tail := by
  induction xs with
  | nil => exact ⟨[], [], of_not_mem List.not_mem_nil⟩
  | cons x xs ih =>
    obtain ⟨ls, tail, h⟩ := ih
    by_cases hx : x = d
    · subst hx
      exact ⟨[] :: ls, tail, h.cons List.not_mem_nil⟩
    · cases ls with
      | nil =>
        refine ⟨[], x :: tail, by rw [h.eq]; rfl, by simp, ?_⟩
        rw [List.mem_cons, not_or]
        exact ⟨Ne.symm hx, h.tail⟩
      | cons l ls =>
        -- `x` begins the first message
        obtain ⟨hl, hls⟩ := List.forall_mem_cons.mp h.line
        refine ⟨(x :: l) :: ls, tail, by rw [h.eq]; rfl, ?_, h.tail⟩
        refine List.forall_mem_cons.mpr ⟨?_, hls⟩
        rw [List.mem_cons, not_or]
        exact ⟨Ne.symm hx, hl⟩

/-- The beginning of a stream has the first of its messages, and all of it has all of them. -/
theorem isPrefix_of_append [DecidableEq α] (h : Lines d xs ls tail) (h' : Lines d (xs ++ ys) ls' []) :
    ls <+: ls' ∧ (ys = [] → ls = ls') := by
  obtain ⟨more, rest, hmore⟩ := exists_lines d (tail ++ ys)
  obtain ⟨heq, -⟩ := (h.append hmore).unique h'
  refine ⟨⟨more, heq⟩, ?_⟩
  rintro rfl
  rw [List.append_nil] at h'
  exact (h.unique h').1

end Lines

end Delimited
