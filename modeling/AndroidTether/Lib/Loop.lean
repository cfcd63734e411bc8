import Mathlib.Logic.Relation
import Mathlib.Data.Set.Finite.Basic
import Mathlib.Data.Fintype.Pigeonhole
import Mathlib.Order.Basic
import Mathlib.Tactic.Common

namespace WhileLoop

/-!
# Deterministic while loops

The body of a loop takes the loop state to `ForInStep.yield` (go round again) or
`ForInStep.done` (the loop is left).  Nothing here assumes that a loop ends:

* `iterate body n s` — at most `n` rounds, still `yield` when the loop is not over;
* `Visits body s t` — some number of rounds leads from `s` to `t`, the relation that
  invariants are stated on, whether the loop ends or not;
* `Halts body s` — the loop is left after finitely many rounds; `not_halts_of_return`
  refutes it from a state that is reached again;
* `halts_iff_no_return` — over a linearly ordered, finite set of continuing states the loop
  fails to end exactly when some step that does not go up is taken again and again;
* `Simulates p body ctl` — the part `p s` of the state that decides the control flow
  evolves on its own, so that the loop ends iff the smaller loop `ctl` does.
-/

variable {σ τ : Type}

/-- Run at most `n` rounds: `.done t` when the loop was left with `t`, `.yield t` when it
    stands at `t` and is not over. -/
def iterate (body : σ → ForInStep σ) : Nat → σ → ForInStep σ
  | 0, s => .yield s
  | n + 1, s =>
    match body s with
    | .done t => .done t
    | .yield t => iterate body n t

/-- The loop is left after finitely many rounds. -/
def Halts (body : σ → ForInStep σ) (s : σ) : Prop := ∃ n t, iterate body n s = .done t

/-- One round leads from `s` to `t` and goes on. -/
def Continues (body : σ → ForInStep σ) (s t : σ) : Prop := body s = .yield t

/-- Some number of rounds leads from `s` to `t`. -/
def Visits (body : σ → ForInStep σ) : σ → σ → Prop := Relation.ReflTransGen (Continues body)

variable {body : σ → ForInStep σ} {s t u : σ}

@[simp] theorem iterate_zero : iterate body 0 s = .yield s := rfl

/-- A body that is done ends the loop. -/
theorem iterate_succ_done (n : Nat) (h : body s = .done t) : iterate body (n + 1) s = .done t := by
  simp [iterate, h]

/-- A body that goes on leaves one round less. -/
theorem iterate_succ_yield (n : Nat) (h : body s = .yield t) :
    iterate body (n + 1) s = iterate body n t := by
  simp [iterate, h]

/-- The round after `n` rounds. -/
theorem iterate_succ_of_yield {n : Nat} (h : iterate body n s = .yield t) :
    iterate body (n + 1) s = body t := by
  induction n generalizing s with
  | zero =>
    simp only [iterate_zero, ForInStep.yield.injEq] at h
    subst h
    cases hb : body s <;> simp [iterate, hb]
  | succ n ih =>
    cases hb : body s with
    | done v => rw [iterate_succ_done n hb] at h; cases h
    | yield v =>
      rw [iterate_succ_yield n hb] at h
      rw [iterate_succ_yield (n + 1) hb, ih h]

/-! ### Rounds and visited states -/

/-- The last round of a loop that ended started at a visited state. -/
theorem exists_visits_of_done {n : Nat} (h : iterate body n s = .done t) :
    ∃ u, Visits body s u ∧ body u = .done t := by
  induction n generalizing s with
  | zero => simp at h
  | succ n ih =>
    cases hb : body s with
    | done v =>
      rw [iterate_succ_done n hb] at h
      exact ⟨s, .refl, hb.trans h⟩
    | yield v =>
      rw [iterate_succ_yield n hb] at h
      obtain ⟨u, hu, hd⟩ := ih h
      exact ⟨u, .head hb hu, hd⟩

/-- **Invariant rule.**  What one round preserves holds at every visited state. -/
theorem Visits.invariant {I : σ → Prop} (hstep : ∀ a b, I a → body a = .yield b → I b)
    (h : Visits body s t) (hs : I s) : I t := by
  induction h with
  | refl => exact hs
  | tail _ hc ih => exact hstep _ _ ih hc

/-- A loop that is over stays over: more rounds change nothing. -/
theorem iterate_done_mono {n m : Nat} (hnm : n ≤ m) (h : iterate body n s = .done t) :
    iterate body m s = .done t := by
  induction n generalizing s m with
  | zero => simp at h
  | succ n ih =>
    obtain ⟨m, rfl⟩ : ∃ k, m = k + 1 := ⟨m - 1, by omega⟩
    cases hb : body s with
    | done v =>
      rw [iterate_succ_done n hb] at h
      rw [iterate_succ_done m hb, h]
    | yield v =>
      rw [iterate_succ_yield n hb] at h
      rw [iterate_succ_yield m hb]
      exact ih (by omega) h

/-! ### Ending and not ending -/

/-- A loop that is done at once halts. -/
theorem halts_of_done (h : body s = .done t) : Halts body s := ⟨1, t, iterate_succ_done 0 h⟩

/-- A round that goes on neither helps nor hurts. -/
theorem halts_iff_of_continues (h : body s = .yield t) : Halts body s ↔ Halts body t := by
  constructor
  · rintro ⟨n, v, hn⟩
    cases n with
    | zero => simp at hn
    | succ n => exact ⟨n, v, by rwa [iterate_succ_yield n h] at hn⟩
  · rintro ⟨n, v, hn⟩
    exact ⟨n + 1, v, by rwa [iterate_succ_yield n h]⟩

/-- A loop halts if and only if it halts from a state it comes to. -/
theorem halts_iff_of_visits (h : Visits body s t) : Halts body s ↔ Halts body t := by
  induction h with
  | refl => rfl
  | tail _ hc ih => exact ih.trans (halts_iff_of_continues hc)

/-- A state that its own successor leads back to is never left. -/
theorem not_halts_of_return (hc : body t = .yield u) (hr : Visits body u t) :
    ¬ Halts body t := by
  -- from every state on the cycle no number of rounds is enough
  have hgo : ∀ n v w, Visits body v t → iterate body n v ≠ .done w := by
    intro n
    induction n with
    | zero => intro v w _; simp
    | succ n ih =>
      intro v w hv
      obtain ⟨x, hvx, hx⟩ : ∃ x, body v = .yield x ∧ Visits body x t := by
        rcases Relation.ReflTransGen.cases_head hv with rfl | ⟨x, hvx, hx⟩
        · exact ⟨u, hc, hr⟩
        · exact ⟨x, hvx, hx⟩
      rw [iterate_succ_yield n hvx]
      exact ih x w hx
  rintro ⟨n, w, hn⟩
  exact hgo n t w .refl hn

/-- A loop that does not end stands, after any number of rounds, at a state it goes on from. -/
theorem exists_infinite_of_not_halts (h : ¬ Halts body s) :
    ∃ f : Nat → σ, f 0 = s ∧ ∀ n, body (f n) = .yield (f (n + 1)) := by
  have hyield : ∀ n, ∃ t, iterate body n s = .yield t := by
    intro n
    cases hn : iterate body n s with
    | done t => exact absurd ⟨n, t, hn⟩ h
    | yield t => exact ⟨t, rfl⟩
  choose f hf using hyield
  refine ⟨f, ?_, fun n => ?_⟩
  · simpa using (hf 0).symm
  · rw [← iterate_succ_of_yield (hf n), hf (n + 1)]

/-- **Ending criterion.**  When the visited states that the loop goes on from are finitely
    many and linearly ordered, the loop fails to end exactly when it visits a state whose
    step does not go up and that this very step leads back to. -/
theorem halts_iff_no_return [LinearOrder σ] {S : Set σ} (hS : S.Finite)
    (hmem : ∀ a b, Visits body s a → body a = .yield b → a ∈ S) :
    Halts body s ↔
      ¬ ∃ b c, Visits body s b ∧ body b = .yield c ∧ c ≤ b ∧ Visits body c b := by
  constructor
  · rintro hs ⟨b, c, hb, hc, -, hr⟩
    exact not_halts_of_return hc hr ((halts_iff_of_visits hb).mp hs)
  · intro hno
    by_contra hs
    obtain ⟨f, hf0, hf⟩ := exists_infinite_of_not_halts hs
    have hvisit : ∀ m k, Visits body (f m) (f (m + k)) := by
      intro m k
      induction k with
      | zero => exact .refl
      | succ k ih => exact ih.tail (hf (m + k))
    have hmemf : ∀ n, f n ∈ S := by
      intro n
      have hn := hvisit 0 n
      rw [hf0, Nat.zero_add] at hn
      exact hmem _ _ hn (hf n)
    -- two rounds at the same state, by finiteness
    obtain ⟨m, n, hmn, heq⟩ : ∃ m n, m < n ∧ f m = f n := by
      have hinf := hS.to_subtype
      obtain ⟨m, n, hne, heq⟩ :=
        Finite.exists_ne_map_eq_of_infinite (fun n => (⟨f n, hmemf n⟩ : S))
      have heq : f m = f n := congrArg Subtype.val heq
      rcases Nat.lt_or_gt_of_ne hne with hlt | hlt
      · exact ⟨m, n, hlt, heq⟩
      · exact ⟨n, m, hlt, heq.symm⟩
    -- between them some round does not go up
    obtain ⟨k, hmk, hkn, hdown⟩ : ∃ k, m ≤ k ∧ k < n ∧ f (k + 1) ≤ f k := by
      by_contra hall
      have hup : ∀ k, m ≤ k → k < n → f k < f (k + 1) :=
        fun k h₁ h₂ => lt_of_not_ge fun hle => hall ⟨k, h₁, h₂, hle⟩
      have hlt : ∀ d, m + d < n → f m < f (m + d + 1) := by
        intro d
        induction d with
        | zero => intro hd; exact hup m (Nat.le_refl m) hd
        | succ d ih => intro hd; exact (ih (by omega)).trans (hup (m + d + 1) (by omega) hd)
      have := hlt (n - m - 1) (by omega)
      rw [show m + (n - m - 1) + 1 = n by omega, heq] at this
      exact lt_irrefl _ this
    refine hno ⟨f k, f (k + 1), ?_, hf k, hdown, ?_⟩
    · have := hvisit 0 k
      rwa [hf0, Nat.zero_add] at this
    · have h₁ := hvisit (k + 1) (n - (k + 1))
      rw [show k + 1 + (n - (k + 1)) = n by omega, ← heq] at h₁
      have h₂ := hvisit m (k - m)
      rw [show m + (k - m) = k by omega] at h₂
      exact Relation.ReflTransGen.trans h₁ h₂

/-! ### Loops driven by a part of their state -/

/-- The part `p s` of the state evolves as the loop `ctl` does, whatever the rest holds. -/
def Simulates (p : σ → τ) (body : σ → ForInStep σ) (ctl : τ → ForInStep τ) : Prop :=
  ∀ s, match body s with
    | .yield t => ctl (p s) = .yield (p t)
    | .done _ => ∃ q, ctl (p s) = .done q

variable {p : σ → τ} {ctl : τ → ForInStep τ}

/-- A round of the loop is one of its control. -/
theorem Simulates.yield (h : Simulates p body ctl) (hb : body s = .yield t) :
    ctl (p s) = .yield (p t) := by
  have := h s
  rwa [hb] at this

/-- The end of the loop is one of its control. -/
theorem Simulates.done (h : Simulates p body ctl) (hb : body s = .done t) :
    ∃ q, ctl (p s) = .done q := by
  have := h s
  rwa [hb] at this

/-- The visited states project to visited states. -/
theorem Simulates.visits (h : Simulates p body ctl) (hv : Visits body s t) :
    Visits ctl (p s) (p t) := by
  induction hv with
  | refl => exact .refl
  | tail _ hc ih => exact ih.tail (h.yield hc)

/-- Every state the smaller loop visits is the projection of a visited state. -/
theorem Simulates.exists_visits (h : Simulates p body ctl) {q : τ} (hv : Visits ctl (p s) q) :
    ∃ t, Visits body s t ∧ p t = q := by
  induction hv with
  | refl => exact ⟨s, .refl, rfl⟩
  | tail _ hc ih =>
    obtain ⟨t, ht, rfl⟩ := ih
    cases hb : body t with
    | done v =>
      obtain ⟨q, hq⟩ := h.done hb
      rw [Continues, hq] at hc
      cases hc
    | yield v =>
      have hq := h.yield hb
      rw [Continues, hq, ForInStep.yield.injEq] at hc
      exact ⟨v, ht.tail hb, hc⟩

/-- The loop ends iff the smaller loop does. -/
theorem Simulates.halts_iff (h : Simulates p body ctl) : Halts body s ↔ Halts ctl (p s) := by
  constructor
  · rintro ⟨n, t, hn⟩
    obtain ⟨u, hu, hd⟩ := exists_visits_of_done hn
    obtain ⟨q, hq⟩ := h.done hd
    exact (halts_iff_of_visits (h.visits hu)).mpr (halts_of_done hq)
  · rintro ⟨n, q, hn⟩
    obtain ⟨r, hr, hd⟩ := exists_visits_of_done hn
    obtain ⟨t, ht, rfl⟩ := h.exists_visits hr
    apply (halts_iff_of_visits ht).mpr
    cases hb : body t with
    | done v => exact halts_of_done hb
    | yield v =>
      have := h.yield hb
      rw [hd] at this
      cases this

/-- Apply `f` to the state a round ends in. -/
def mapStep (f : σ → τ) : ForInStep σ → ForInStep τ
  | .done t => .done (f t)
  | .yield t => .yield (f t)

@[simp] theorem mapStep_done (f : σ → τ) (t : σ) : mapStep f (.done t) = .done (f t) := rfl
@[simp] theorem mapStep_yield (f : σ → τ) (t : σ) : mapStep f (.yield t) = .yield (f t) := rfl
/-- The value after either outcome. -/
@[simp] theorem mapStep_value (f : σ → τ) (r : ForInStep σ) :
    (mapStep f r).value = f r.value := by
  cases r <;> rfl

/-- A loop that does to `f s` what another does to `s`, in every round, ends with the image. -/
theorem iterate_map {f : σ → τ} {ctl : τ → ForInStep τ}
    (h : ∀ s, ctl (f s) = mapStep f (body s)) (n : Nat) (s : σ) :
    iterate ctl n (f s) = mapStep f (iterate body n s) := by
  induction n generalizing s with
  | zero => rfl
  | succ n ih =>
    have hs := h s
    cases hb : body s with
    | done t =>
      rw [hb, mapStep_done] at hs
      rw [iterate_succ_done n hs, iterate_succ_done n hb, mapStep_done]
    | yield t =>
      rw [hb, mapStep_yield] at hs
      rw [iterate_succ_yield n hs, iterate_succ_yield n hb, ih]

end WhileLoop
