import Mathlib.Data.List.Induction
import Mathlib.Tactic.Common

namespace Custody

/-!
# Things that are taken and given back

A log of events, some of which take a thing and some of which give one back.

* `held effect log r` — the thing `r` is held after the log: it has been taken, and not been
  given back since;
* `times effect log r taken` — how often it has been taken, or given back;
* `held_append_of_frame`, `held_append_of_fresh` — a log about other things before or behind;
* `held_iff_of_kept`, `held_append_of_returned` — a log that gives nothing back, and one that
  gives everything back;
* `Proper effect log` — only what is held is given back, and only what is not held is taken;
* `times_of_proper` — then the books balance.
-/

variable {ε ρ : Type} [DecidableEq ρ] (effect : ε → Option (ρ × Bool))

/-- Whether `r` is held after the event, when `h` says whether it was before. -/
def heldStep (r : ρ) (h : Bool) (e : ε) : Bool :=
  match effect e with
  | some (r', taken) => if r' = r then taken else h
  | none => h

/-- `r` is held after the log. -/
def held (log : List ε) (r : ρ) : Bool := log.foldl (heldStep effect r) false

/-- How often `r` is taken in the log, or given back. -/
def times (log : List ε) (r : ρ) (taken : Bool) : Nat :=
  log.countP fun e => effect e = some (r, taken)

/-- The events do not concern `r`. -/
def Frame (log : List ε) (r : ρ) : Prop := ∀ e ∈ log, ∀ taken, effect e ≠ some (r, taken)

variable {effect} {log calls : List ε} {r : ρ} {e : ε} {h : Bool}

/-- An event about something else. -/
theorem heldStep_of_ne (he : ∀ taken, effect e ≠ some (r, taken)) : heldStep effect r h e = h := by
  unfold heldStep
  cases heffect : effect e with
  | none => rfl
  | some p =>
    have hne : p.1 ≠ r := fun hr => he p.2 (by rw [heffect, ← hr])
    exact if_neg hne

/-- The event neither takes `r` nor gives it back. -/
theorem heldStep_of_not (htake : effect e ≠ some (r, true)) (hgive : effect e ≠ some (r, false)) :
    heldStep effect r h e = h := by
  apply heldStep_of_ne
  intro taken
  cases taken with
  | true => exact htake
  | false => exact hgive

/-- An event about the thing decides. -/
theorem heldStep_of_eq {taken : Bool} (he : effect e = some (r, taken)) :
    heldStep effect r h e = taken := by
  unfold heldStep
  rw [he]
  exact if_pos rfl

/-- Events about other things. -/
theorem foldl_heldStep_of_frame (hcalls : Frame effect calls r) :
    calls.foldl (heldStep effect r) h = h := by
  induction calls with
  | nil => rfl
  | cons e calls ih =>
    rw [Frame, List.forall_mem_cons] at hcalls
    rw [List.foldl_cons, heldStep_of_ne hcalls.1, ih hcalls.2]

/-- **Frame.**  Events about other things change nothing. -/
theorem held_append_of_frame (hcalls : Frame effect calls r) :
    held effect (log ++ calls) r = held effect log r := by
  rw [held, List.foldl_append, foldl_heldStep_of_frame hcalls]
  rfl

/-- Nothing before concerns `r`. -/
theorem held_append_of_fresh (hlog : Frame effect log r) :
    held effect (log ++ calls) r = held effect calls r := by
  rw [held, List.foldl_append, foldl_heldStep_of_frame hlog]
  rfl

/-- What no event is about is not held. -/
theorem held_of_frame (hlog : Frame effect log r) : held effect log r = false :=
  foldl_heldStep_of_frame hlog

/-- A log that gives nothing back: what it takes is held. -/
theorem held_iff_of_kept (hlog : ∀ e ∈ log, effect e ≠ some (r, false)) :
    held effect log r = true ↔ ∃ e ∈ log, effect e = some (r, true) := by
  induction log using List.reverseRecOn with
  | nil => simp [held]
  | append_singleton log e ih =>
    have hlast : effect e ≠ some (r, false) := hlog e (by simp)
    have ih := ih fun e' he' => hlog e' (List.mem_append_left _ he')
    rw [held, List.foldl_append, ← held, List.foldl_cons, List.foldl_nil]
    by_cases he : effect e = some (r, true)
    · rw [heldStep_of_eq he]
      exact iff_of_true rfl ⟨e, by simp, he⟩
    · rw [heldStep_of_not he hlast, ih]
      simp [he]

/-- Behind a log, `calls` gives back `r` and does not take it. -/
theorem held_append_of_returned (hcalls : ∀ e ∈ calls, effect e ≠ some (r, true))
    (h : held effect log r = false ∨ ∃ e ∈ calls, effect e = some (r, false)) :
    held effect (log ++ calls) r = false := by
  induction calls using List.reverseRecOn with
  | nil =>
    rw [List.append_nil]
    exact h.resolve_right (by simp)
  | append_singleton calls e ih =>
    have hlast : effect e ≠ some (r, true) := hcalls e (by simp)
    have ih := ih fun e' he' => hcalls e' (List.mem_append_left _ he')
    rw [held, ← List.append_assoc, List.foldl_append, ← held, List.foldl_cons, List.foldl_nil]
    by_cases he : effect e = some (r, false)
    · exact heldStep_of_eq he
    · rw [heldStep_of_not hlast he]
      apply ih (h.imp_right ?_)
      rintro ⟨e', he', hret⟩
      rcases List.mem_append.mp he' with hmem | hmem
      · exact ⟨e', hmem, hret⟩
      · rw [List.mem_singleton.mp hmem] at hret
        exact absurd hret he

/-- What is taken in two parts of a log. -/
@[simp] theorem times_append {taken : Bool} :
    times effect (log ++ calls) r taken = times effect log r taken + times effect calls r taken :=
  List.countP_append

/-- What no event is about is never taken. -/
theorem times_of_frame {taken : Bool} (hlog : Frame effect log r) :
    times effect log r taken = 0 :=
  List.countP_eq_zero.mpr fun e he => by simpa using hlog e he taken

/-! ### Proper logs -/

/-- Every event of the log that takes a thing takes one that is not held, and every event that
    gives a thing back gives back one that is. -/
def Proper (effect : ε → Option (ρ × Bool)) (log : List ε) : Prop :=
  ∀ pre e post, log = pre ++ e :: post → ∀ r taken, effect e = some (r, taken) →
    held effect pre r = !taken

/-- The empty log. -/
theorem proper_nil : Proper effect ([] : List ε) := by
  intro pre e post h
  simp at h

/-- One more event. -/
theorem held_append_singleton :
    held effect (log ++ [e]) r = heldStep effect r (held effect log r) e := by
  rw [held, List.foldl_append]
  rfl

/-- **One more event.** -/
theorem proper_append_singleton :
    Proper effect (log ++ [e]) ↔
      Proper effect log ∧ ∀ r taken, effect e = some (r, taken) → held effect log r = !taken := by
  constructor
  · intro h
    refine ⟨fun pre e' post hlog => ?_, h log e [] rfl⟩
    exact h pre e' (post ++ [e]) (by rw [hlog, List.append_assoc, List.cons_append])
  · rintro ⟨hlog, he⟩ pre e' post hsplit
    cases post using List.reverseRecOn with
    | nil =>
      obtain ⟨rfl, hlast⟩ := List.append_inj' hsplit rfl
      obtain rfl : e = e' := by simpa using hlast
      exact he
    | append_singleton post e'' =>
      rw [← List.cons_append, ← List.append_assoc] at hsplit
      exact hlog pre e' post (List.append_inj' hsplit rfl).1

/-- Events that concern nothing. -/
theorem Proper.append_of_frame (hlog : Proper effect log) (hcalls : ∀ r, Frame effect calls r) :
    Proper effect (log ++ calls) := by
  induction calls using List.reverseRecOn with
  | nil => rwa [List.append_nil]
  | append_singleton calls e ih =>
    rw [← List.append_assoc, proper_append_singleton]
    exact ⟨ih fun r e' he' => hcalls r e' (List.mem_append_left _ he'),
      fun r taken he => absurd he (hcalls r e (by simp) taken)⟩

/-- **The books balance.**  A thing has been taken as often as it has been given back, and once
    more when it is held. -/
theorem times_of_proper (hlog : Proper effect log) :
    times effect log r true = times effect log r false + (held effect log r).toNat := by
  induction log using List.reverseRecOn with
  | nil => rfl
  | append_singleton log e ih =>
    obtain ⟨hlog, he⟩ := proper_append_singleton.mp hlog
    rw [times_append, times_append, ih hlog, held_append_singleton]
    by_cases htake : effect e = some (r, true)
    · rw [heldStep_of_eq htake, he r true htake]
      simp [times, htake]
    · by_cases hgive : effect e = some (r, false)
      · rw [heldStep_of_eq hgive, he r false hgive]
        simp [times, hgive]
      · rw [heldStep_of_not htake hgive]
        simp [times, htake, hgive]

end Custody
