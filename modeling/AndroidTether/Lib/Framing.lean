import Mathlib.Data.List.Count
import Mathlib.Tactic.Common

namespace Framing

/-!
# Framed messages and short writes

A framed message starts with one marker and ends with another, and has neither in between.
A sender that drops messages as a whole produces the concatenation of some of its messages,
in order; one that ever cuts a message produces a stream with more starts than ends, and no
later message makes up for that.

* `Whole msgs stream` — the stream is the concatenation of a sublist of the messages;
* `whole_append_take_iff` — what a write of the first `k` symbols of a message does to it;
* `count_append_take_lt` — a stream with a cut message stays one.
-/

variable {α : Type} {a z : α}

/-- The message starts with `a`, ends with `z`, and has neither in between. -/
def Framed (a z : α) (msg : List α) : Prop := ∃ body, msg = a :: (body ++ [z]) ∧ a ∉ body ∧ z ∉ body

/-- The stream consists of some of the messages, in order, each as a whole. -/
def Whole (msgs : List (List α)) (stream : List α) : Prop :=
  ∃ sub : List (List α), sub.Sublist msgs ∧ stream = sub.flatten

variable {msgs : List (List α)} {msg stream : List α} {k : Nat}

/-- The empty stream. -/
theorem whole_nil : Whole ([] : List (List α)) [] := ⟨[], .slnil, rfl⟩

/-- A message that is dropped. -/
theorem Whole.skip (h : Whole msgs stream) (msg : List α) : Whole (msgs ++ [msg]) stream := by
  obtain ⟨sub, hsub, rfl⟩ := h
  exact ⟨sub, hsub.trans (List.sublist_append_left _ _), rfl⟩

/-- A message that is sent. -/
theorem Whole.append (h : Whole msgs stream) (msg : List α) :
    Whole (msgs ++ [msg]) (stream ++ msg) := by
  obtain ⟨sub, hsub, rfl⟩ := h
  exact ⟨sub ++ [msg], hsub.append (List.Sublist.refl _), by simp⟩

variable [DecidableEq α]

/-- The markers in the beginning of a framed message: a start as soon as there is anything,
    the end only in the whole message. -/
theorem Framed.count_take (h : Framed a z msg) (hne : a ≠ z) (k : Nat) :
    (msg.take k).count a = (if k = 0 then 0 else 1) ∧
      (msg.take k).count z = if k < msg.length then 0 else 1 := by
  obtain ⟨body, rfl, ha, hz⟩ := h
  cases k with
  | zero => simp
  | succ k =>
    simp only [List.take_succ_cons, List.length_cons, List.length_append, List.length_nil]
    rcases Nat.lt_or_ge k (body.length + 1) with hk | hk
    · -- a part of the body
      have htake : (body ++ [z]).take k = body.take k := List.take_append_of_le_length (by omega)
      have ha' : a ∉ body.take k := fun h => ha (List.mem_of_mem_take h)
      have hz' : z ∉ body.take k := fun h => hz (List.mem_of_mem_take h)
      rw [htake, List.count_cons_self, List.count_cons_of_ne hne,
        List.count_eq_zero.mpr ha', List.count_eq_zero.mpr hz']
      exact ⟨by simp, by rw [if_pos (by omega)]⟩
    · have htake : (body ++ [z]).take k = body ++ [z] :=
        List.take_of_length_le (by simpa using hk)
      rw [htake, List.count_cons_self, List.count_cons_of_ne hne, List.count_append,
        List.count_append, List.count_eq_zero.mpr ha, List.count_eq_zero.mpr hz,
        List.count_singleton_self, List.count_singleton]
      exact ⟨by simp [hne.symm], by rw [if_neg (by omega)]⟩

/-- A stream of whole messages has as many ends as starts. -/
theorem Whole.count_eq (h : Whole msgs stream) (hmsgs : ∀ m ∈ msgs, Framed a z m) (hne : a ≠ z) :
    stream.count a = stream.count z := by
  obtain ⟨sub, hsub, rfl⟩ := h
  have hframed : ∀ m ∈ sub, Framed a z m := fun m hm => hmsgs m (hsub.subset hm)
  clear hsub
  induction sub with
  | nil => rfl
  | cons m sub ih =>
    have hm := hframed m (by simp)
    obtain ⟨hca, hcz⟩ := hm.count_take hne m.length
    have hpos : m.length ≠ 0 := by
      obtain ⟨body, rfl, -⟩ := hm
      simp
    -- the whole message has one of each
    rw [List.take_length, if_neg hpos] at hca
    rw [List.take_length, if_neg (Nat.lt_irrefl _)] at hcz
    rw [List.flatten_cons, List.count_append, List.count_append, hca, hcz,
      ih fun x hx => hframed x (by simp [hx])]

/-- A stream with more starts than ends keeps them whatever is written of a message. -/
theorem count_append_take_lt (h : Framed a z msg) (hne : a ≠ z)
    (hlt : stream.count z < stream.count a) (k : Nat) :
    (stream ++ msg.take k).count z < (stream ++ msg.take k).count a := by
  obtain ⟨hca, hcz⟩ := h.count_take hne k
  rw [List.count_append, List.count_append, hca, hcz]
  have hlen : 0 < msg.length := by
    obtain ⟨body, rfl, -⟩ := h
    simp
  split_ifs <;> omega

/-- A cut message leaves more starts than ends. -/
theorem count_append_cut (h : Framed a z msg) (hne : a ≠ z)
    (heq : stream.count a = stream.count z) (hpos : 0 < k) (hlt : k < msg.length) :
    (stream ++ msg.take k).count z < (stream ++ msg.take k).count a := by
  obtain ⟨hca, hcz⟩ := h.count_take hne k
  rw [if_neg (Nat.ne_of_gt hpos)] at hca
  rw [if_pos hlt] at hcz
  rw [List.count_append, List.count_append, hca, hcz]
  omega

/-- **One write.**  Behind whole messages, the first `k` symbols of a message leave whole
    messages exactly when they are none or all of it. -/
theorem whole_append_take_iff (h : Whole msgs stream) (hmsgs : ∀ m ∈ msgs, Framed a z m)
    (hmsg : Framed a z msg) (hne : a ≠ z) :
    Whole (msgs ++ [msg]) (stream ++ msg.take k) ↔ k = 0 ∨ msg.length ≤ k := by
  constructor
  · -- a cut message would leave more starts than ends
    intro hwhole
    by_contra hcut
    rw [not_or, Nat.not_le] at hcut
    have hlt := count_append_cut hmsg hne (h.count_eq hmsgs hne) (by omega) hcut.2
    have hall : ∀ m ∈ msgs ++ [msg], Framed a z m := by
      intro m hm
      rcases List.mem_append.mp hm with hm | hm
      · exact hmsgs m hm
      · exact List.mem_singleton.mp hm ▸ hmsg
    have := hwhole.count_eq hall hne
    omega
  · rintro (rfl | hk)
    · rw [List.take_zero, List.append_nil]
      exact h.skip msg
    · rw [List.take_of_length_le hk]
      exact h.append msg

end Framing
