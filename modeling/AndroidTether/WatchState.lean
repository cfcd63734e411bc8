import AndroidTether.MainLoops

namespace AndroidTether

open Trans

/-!
# What the clients are told while the watch loop sleeps

The two sleeps of watch mode, and the state that was announced last when the main thread gets
there: in the watch loop, at the end of a session, or in the wait between two sessions.

* `Daemon.Announced` — in a sleep, the state announced is the one `g_watch_enabled` stands for;
* `Daemon.Placed` — what has been announced at every other place of watch mode;
* `watchSleep_announced_iff` — only a disable that ends a session leads to a wrong one, when the
  watch loop sleeps before it reads another command.
-/

/-- The sleeps of watch mode outside a session. -/
def Pc.sleeping : Pc → Bool
  | idleSleep => true
  | retrySleep _ => true
  | _ => false

namespace Daemon

/-- In a sleep, the last state announced is the one `g_watch_enabled` stands for. -/
def Announced (s : Daemon) : Prop :=
  s.pc.sleeping = true → s.lastState = some (if s.watchEnabled then .watching else .idle)

/-- A poll returns an enable or a disable. -/
def switches (p : Daemon × Event) : Bool := (p.1.returned p.2).any (· ≠ .stop)

/-- The last enable or disable that a poll has returned is a disable in a session. -/
def disabledInSession (l : List (Daemon × Event)) : Bool :=
  (l.find? switches).any fun p => p.1.pc == .sessionPoll && p.1.returned p.2 == some .disable

/-- What the clients have been told once nothing is left to be sent. -/
def told (enabled inSession : Bool) : UiState :=
  if enabled then .watching else if inSession then .disconnected else .idle

/-- What holds where the main thread stands in watch mode, where `inSession` says whether the
    last enable or disable was a disable in a session. -/
def Placed (inSession : Bool) (s : Daemon) : Prop :=
  match s.pc with
  | .sayFirstIdle | .retrySayIdle _ => s.watchEnabled = false ∧ inSession = false
  | .watchSay st => st = told s.watchEnabled false ∧ inSession = false
  | .mainHead | .watchPoll | .watchTest =>
    s.watchEnabled = false → s.lastState = some (told false inSession)
  | .idleSleep => s.watchEnabled = false ∧ s.lastState = some (told false inSession)
  | .findDevice | .setUpNetwork | .sayConnected | .startBridge | .sayWatching =>
    s.watchEnabled = true
  | .sessionHead | .sendStats | .sessionChecks | .sessionPoll | .joinThreads | .sayDisconnected =>
    s.watchEnabled = false → inSession = true
  | .restoreNetwork | .sessionReturned _ =>
    s.watchEnabled = false → inSession = true ∧ s.lastState = some .disconnected
  | .retryHead _ => s.lastState = some (told s.watchEnabled inSession)
  | .retryPoll _ => s.watchEnabled = true ∧ s.lastState = some .watching
  | .retrySleep _ =>
    s.lastState = some (told s.watchEnabled false) ∧ (s.watchEnabled = false → inSession = false)
  -- only in one-shot mode
  | .retryChecks _ => False
  | .destroyIpc | .atExit | .exited | .killed => True

/-- Watch mode, with the IPC server until the loop is left. -/
structure WatchSays (inSession : Bool) (s : Daemon) : Prop where
  watchMode : s.watchMode = true
  enabled : s.watchEnabled = true → inSession = false
  ipc : s.pc.left = false → s.ipc.isSome = true
  placed : Placed inSession s

variable {s t : Daemon} {e : Event} {inSession : Bool}

/-! ### Commands -/

/-- Whether the last command came in a session, after one more step. -/
theorem disabledInSession_cons (s : Daemon) (e : Event) (l : List (Daemon × Event)) :
    disabledInSession ((s, e) :: l) =
      match s.returned e with
      | some .disable => s.pc == .sessionPoll
      | some .enable => false
      | _ => disabledInSession l := by
  unfold disabledInSession
  rw [List.find?_cons]
  rcases hret : s.returned e with _ | _ | _ | _ <;> simp [switches, hret]

/-- Where no poll in a session returns a disable. -/
theorem disabledInSession_eq_false {l : List (Daemon × Event)}
    (h : ∀ p ∈ l, p.1.pc = .sessionPoll → p.1.returned p.2 ≠ some .disable) :
    disabledInSession l = false := by
  unfold disabledInSession
  cases hfind : l.find? switches with
  | none => rfl
  | some p =>
    have hp := h p (List.mem_of_find?_eq_some hfind)
    by_cases hpc : p.1.pc = .sessionPoll
    · simp [hp hpc]
    · simp [hpc]

/-! ### Steps -/

/-- With an IPC server a broadcast is made, whoever listens. -/
theorem sendState_told (h : s.ipc.isSome = true) (st : UiState) (next : Pc) :
    ∃ pc, s.sendState st next = { s with pc := pc, lastState := some st } ∧
      (pc = next ∨ pc = .killed) := by
  obtain ⟨srv, hsrv⟩ := Option.isSome_iff_exists.mp h
  unfold sendState sendToAll
  rw [hsrv]
  dsimp only
  split
  · exact ⟨.killed, rfl, .inr rfl⟩
  · exact ⟨next, rfl, .inl rfl⟩

/-- Where a state is due, the main thread sends it. -/
theorem mainStep_of_announces {r : SysRet} {st : UiState} {next : Pc}
    (h : s.pc.announces = some (st, next)) : s.mainStep r = some (s.sendState st next) := by
  unfold Pc.announces at h
  unfold mainStep
  cases hpc : s.pc <;>
    simp only [hpc, Option.some.injEq, Prod.mk.injEq, reduceCtorEq] at h ⊢ <;> rw [h.1, h.2]

/-- **The six messages**: each leads to where the state that it announces is the right one. -/
theorem Placed.announced (hs : Placed inSession s) {st : UiState} {next : Pc}
    (h : s.pc.announces = some (st, next)) :
    Placed inSession { s with pc := next, lastState := some st } := by
  unfold Placed at hs
  unfold Pc.announces at h
  cases hpc : s.pc with
  | sayFirstIdle =>
    simp only [hpc, Option.some.injEq, Prod.mk.injEq] at h hs
    obtain ⟨rfl, rfl⟩ := h
    refine fun _ => ?_
    rw [hs.2]
    rfl
  | watchSay =>
    simp only [hpc, Option.some.injEq, Prod.mk.injEq] at h hs
    obtain ⟨rfl, rfl⟩ := h
    refine fun (hdisabled : s.watchEnabled = false) => ?_
    rw [hs.1, hs.2, hdisabled]
  | sayConnected =>
    simp only [hpc, Option.some.injEq, Prod.mk.injEq] at h hs
    obtain ⟨rfl, rfl⟩ := h
    exact hs
  | sayDisconnected =>
    simp only [hpc, Option.some.injEq, Prod.mk.injEq] at h hs
    obtain ⟨rfl, rfl⟩ := h
    exact fun hdisabled => ⟨hs hdisabled, rfl⟩
  | sayWatching =>
    simp only [hpc, Option.some.injEq, Prod.mk.injEq] at h hs
    obtain ⟨rfl, rfl⟩ := h
    show some UiState.watching = some (told s.watchEnabled inSession)
    rw [hs]
    rfl
  | retrySayIdle =>
    simp only [hpc, Option.some.injEq, Prod.mk.injEq] at h hs
    obtain ⟨rfl, rfl⟩ := h
    refine ⟨?_, fun _ => hs.2⟩
    show some UiState.idle = some (told s.watchEnabled false)
    rw [hs.1]
    rfl
  | _ => simp [hpc] at h

/-- A broadcast leads to where its state has been announced, or ends the process. -/
theorem WatchSays.announce (hs : WatchSays inSession s) {st : UiState} {next : Pc}
    (h : s.pc.announces = some (st, next)) : WatchSays inSession (s.sendState st next) := by
  have hleft : s.pc.left = false := by
    cases hpc : s.pc <;> first | rfl | simp [hpc, Pc.announces] at h
  have hipc := hs.ipc hleft
  obtain ⟨pc, heq, rfl | rfl⟩ := sendState_told hipc st next
  · rw [heq]
    exact ⟨hs.watchMode, hs.enabled, fun _ => hipc, hs.placed.announced h⟩
  · rw [heq]
    exact ⟨hs.watchMode, hs.enabled, fun _ => hipc, trivial⟩

/-- A step that returns no command and leaves the server alone. -/
theorem WatchSays.goto (hs : WatchSays inSession s) (hleft : s.pc.left = false)
    (hno : NoCommand s t) (hipc : t.ipc = s.ipc) (ht : Placed inSession t) :
    WatchSays inSession t where
  watchMode := hno.watchMode.trans hs.watchMode
  enabled henabled := hs.enabled (hno.watchEnabled ▸ henabled)
  ipc _ := hipc ▸ hs.ipc hleft
  placed := ht

/-- Tests and sleeps: the place they lead to is the right one for what has been announced. -/
theorem Placed.goes (hs : WatchSays inSession s) {next : Pc} (h : s.Goes next) :
    Placed inSession { s with pc := next } := by
  have hplaced := hs.placed
  have hmode := hs.watchMode
  unfold Placed at hplaced
  cases h with
  | toSession h hrun hm | quit h hre hm | retryOneShot h hrun hm =>
    -- only one-shot mode goes there
    rw [hmode] at hm
    cases hm
  | leave => trivial
  | enabled h hen => exact hen
  | announceRetry h hm hrun hen => exact hen
  | toWatch h | wake h | found h | nextRound h | endSession h =>
    simp only [h] at hplaced
    first | exact hplaced | exact fun _ => hplaced.2
  | disabled h hen =>
    simp only [h] at hplaced
    exact ⟨hen, hplaced hen⟩
  | notFound h =>
    simp only [h] at hplaced
    exact fun (hdisabled : s.watchEnabled = false) => absurd hdisabled (by simp [hplaced])
  | retry h hre hen =>
    simp only [h] at hplaced
    -- with a server, the wait is entered silently only when disabled in the session
    have hipc := hs.ipc (h ▸ rfl)
    have hdisabled : s.watchEnabled = false := by simpa [hipc] using (hen hmode).2
    obtain ⟨hsession, hlast⟩ := hplaced hdisabled
    show s.lastState = some (told s.watchEnabled inSession)
    rw [hlast, hdisabled, hsession]
    rfl
  | toMain h =>
    simp only [h] at hplaced
    intro (henabled : s.watchEnabled = false)
    obtain ⟨hsession, hlast⟩ := hplaced henabled
    show s.lastState = _
    rw [hlast, hsession]
    rfl
  | retryWatch h hrun hm hen =>
    simp only [h] at hplaced
    exact ⟨hen, hplaced.trans (hen ▸ rfl)⟩
  | retryEnd h =>
    simp only [h] at hplaced
    exact fun (henabled : s.watchEnabled = false) => henabled ▸ hplaced
  | retryWake h =>
    simp only [h] at hplaced
    show s.lastState = some (told s.watchEnabled inSession)
    obtain ⟨hlast, hsession⟩ := hplaced
    cases henabled : s.watchEnabled
    · rw [hlast, hsession henabled, henabled]
    · rw [hlast, henabled]
      rfl

/-- A step of the main thread that neither announces a state nor polls. -/
theorem WatchSays.quietStep (hs : WatchSays inSession s) {r : SysRet} (hpoll : s.onPoll = none)
    (hquiet : s.pc.announces = none) (h : s.mainStep r = some t) : WatchSays inSession t := by
  have hno := mainStep_noCommand hpoll h
  have hplaced := hs.placed
  unfold Placed at hplaced
  replace h := mainStep_cases h
  cases h with
  | announces h =>
    rw [hquiet] at h
    cases h
  | polls hk =>
    rw [hpoll] at hk
    cases hk
  | goes h =>
    have hleft : s.pc.left = false := by cases h <;> simp [*, Pc.left]
    exact hs.goto hleft hno rfl (Placed.goes hs h)
  | sendsStats h =>
    simp only [h] at hplaced
    obtain ⟨pc, heq, rfl | rfl⟩ := sendStats_eq .sessionChecks s
    · rw [heq] at hno ⊢
      exact hs.goto (h ▸ rfl) hno rfl hplaced
    · rw [heq] at hno ⊢
      exact hs.goto (h ▸ rfl) hno rfl trivial
  | statsDue h hrun hnext =>
    simp only [h] at hplaced
    rcases hnext with rfl | rfl <;> exact hs.goto (h ▸ rfl) hno rfl hplaced
  | setsUp h | joins h | restores h | checks _ h =>
    simp only [h] at hplaced
    exact hs.goto (h ▸ rfl) hno rfl hplaced
  | startsBridge h =>
    simp only [h] at hplaced
    refine hs.goto (h ▸ rfl) hno rfl ?_
    exact fun (hdisabled : s.watchEnabled = false) => absurd hdisabled (by simp [hplaced])
  | checksRetry _ h => simp [h] at hplaced
  | destroys | exits =>
    exact ⟨hs.watchMode, hs.enabled, fun hleft => absurd hleft (by simp [Pc.left]), trivial⟩

/-- A step of the main thread that is not a poll. -/
theorem WatchSays.mainStep (hs : WatchSays inSession s) {r : SysRet} (hpoll : s.onPoll = none)
    (h : s.mainStep r = some t) : WatchSays inSession t := by
  cases hannounces : s.pc.announces with
  | some message =>
    obtain rfl := Option.some.inj ((mainStep_of_announces hannounces).symm.trans h)
    exact hs.announce hannounces
  | none => exact hs.quietStep hpoll hannounces h

/-- The result of a poll is handed to what is done with it. -/
theorem WatchSays.onPoll (hs : WatchSays inSession s) {k : Option IpcCmd → Daemon → Daemon}
    (hk : s.onPoll = some k) (cmd : Option IpcCmd) {u : Daemon} (hu : SameControl s u)
    (hserver : SameServer s u) :
    WatchSays (match cmd with
      | some .disable => s.pc == .sessionPoll
      | some .enable => false
      | _ => inSession) (k cmd u) := by
  have hmode : u.watchMode = true := hu.watchMode.trans hs.watchMode
  have henabled : u.watchEnabled = true → inSession = false := hu.watchEnabled ▸ hs.enabled
  have hplaced := hs.placed
  unfold Placed at hplaced
  unfold Daemon.onPoll at hk
  cases hpc : s.pc with
  | watchPoll =>
    have hipc : u.ipc.isSome = true := hserver.ipc.trans (hs.ipc (hpc ▸ rfl))
    simp only [hpc, Option.some.injEq, ← hu.watchEnabled, ← hserver.lastState] at hk hplaced
    subst hk
    rcases cmd with _ | _ | _ | _
    · exact ⟨hmode, henabled, fun _ => hipc, hplaced⟩
    · exact ⟨hmode, henabled, fun _ => hipc, hplaced⟩
    · exact ⟨hmode, nofun, fun _ => hipc, rfl, rfl⟩
    · exact ⟨hmode, fun _ => rfl, fun _ => hipc, rfl, rfl⟩
  | sessionPoll =>
    have hipc : u.ipc.isSome = true := hserver.ipc.trans (hs.ipc (hpc ▸ rfl))
    simp only [hpc, Option.some.injEq, ← hu.watchEnabled] at hk hplaced
    subst hk
    rcases cmd with _ | _ | _ | _
    · exact ⟨hmode, henabled, fun _ => hipc, hplaced⟩
    · exact ⟨hmode, henabled, fun _ => hipc, hplaced⟩
    · exact ⟨hmode, nofun, fun _ => hipc, fun _ => rfl⟩
    · exact ⟨hmode, fun _ => rfl, fun _ => hipc, nofun⟩
  | retryPoll i =>
    have hipc : u.ipc.isSome = true := hserver.ipc.trans (hs.ipc (hpc ▸ rfl))
    simp only [hpc, Option.some.injEq, ← hu.watchEnabled, ← hserver.lastState] at hk hplaced
    subst hk
    -- the wait goes on only while enabled
    obtain ⟨hwatching, hlast⟩ := hplaced
    have hwaiting : u.lastState = some (told u.watchEnabled false) ∧
        (u.watchEnabled = false → inSession = false) := by
      rw [hwatching]
      exact ⟨hlast, nofun⟩
    unfold onRetryCmd
    rw [if_pos hmode]
    rcases cmd with _ | _ | _ | _
    · exact ⟨hmode, henabled, fun _ => hipc, hwaiting⟩
    · exact ⟨hmode, henabled, fun _ => hipc, hwaiting⟩
    · exact ⟨hmode, nofun, fun _ => hipc, rfl, rfl⟩
    · exact ⟨hmode, fun _ => rfl, fun _ => hipc, hlast, fun _ => rfl⟩
  | _ => simp [hpc] at hk

/-- What a client, a signal or a bridge thread does is announced to nobody. -/
theorem WatchSays.env (hs : WatchSays inSession s) {a : Action} (ha : byMain (.act a) = false)
    (h : s.step a = some t) : WatchSays inSession t := by
  obtain ⟨hno, hserver, hpc⟩ := step_noCommand_of_env ha h
  refine ⟨hno.watchMode.trans hs.watchMode, hno.watchEnabled ▸ hs.enabled, fun hleft => ?_, ?_⟩
  · rw [hserver.ipc]
    exact hs.ipc (hpc ▸ hleft)
  · have hplaced := hs.placed
    unfold Placed at hplaced ⊢
    rw [hpc, hno.watchEnabled, hserver.lastState]
    exact hplaced

/-- **One step** of watch mode. -/
theorem WatchSays.step {l : List (Daemon × Event)} (hs : WatchSays (disabledInSession l) s)
    (h : s.stepAny e = some t) : WatchSays (disabledInSession ((s, e) :: l)) t := by
  rw [disabledInSession_cons]
  cases hmain : byMain e with
  | true =>
    cases hk : s.onPoll with
    | some k =>
      obtain ⟨u, hu, hserver, -, rfl⟩ := stepAny_poll hk hmain h
      exact hs.onPoll hk (s.returned e) hu hserver
    | none =>
      cases e with
      | pollReturns cmd => simp [stepAny, hk] at h
      | act a =>
        cases a with
        | main r =>
          have hret : s.returned (.act (.main r)) = none := by simp [returned, hk]
          rw [hret]
          exact hs.mainStep hk h
        | connect | send | close | signal | bridgeDown => cases hmain
  | false =>
    cases e with
    | pollReturns cmd => cases hmain
    | act a =>
      have hret : s.returned (.act a) = none := by
        cases a with
        | main r => cases hmain
        | _ => rfl
      rw [hret]
      exact hs.env hmain h

/-! ### Runs -/

/-- What the UI was told, in any run. -/
theorem watchSays_of_run {l : List (Daemon × Event)} (h : Run stepAny (start true true) l t) :
    WatchSays (disabledInSession l) t := by
  induction h with
  | start => exact ⟨rfl, nofun, fun _ => rfl, rfl, rfl⟩
  | snoc _ hst ih => exact ih.step hst

/-- The state announced is wrong only in the watch loop's sleep after a disable in a session. -/
theorem WatchSays.announced_iff (hs : WatchSays inSession s) :
    Announced s ↔ (s.pc = .idleSleep → inSession = false) := by
  have hplaced := hs.placed
  unfold Placed at hplaced
  unfold Announced
  cases hpc : s.pc with
  | idleSleep =>
    simp only [hpc] at hplaced
    obtain ⟨henabled, hlast⟩ := hplaced
    cases inSession <;> simp [Pc.sleeping, henabled, hlast, told]
  | retrySleep i =>
    simp only [hpc] at hplaced
    obtain ⟨hlast, -⟩ := hplaced
    cases henabled : s.watchEnabled <;> simp [Pc.sleeping, hlast, told, henabled]
  | _ => simp [Pc.sleeping]

/-- No poll leads to the watch loop's sleep. -/
theorem onPoll_idleSleep {k : Option IpcCmd → Daemon → Daemon} (hk : s.onPoll = some k)
    (cmd : Option IpcCmd) (u : Daemon) : (k cmd u).pc ≠ .idleSleep := by
  unfold Daemon.onPoll at hk
  split at hk
  · cases hk
    rcases cmd with _ | _ | _ | _ <;> nofun
  · cases hk
    rcases cmd with _ | _ | _ | _ <;> nofun
  · cases hk
    unfold onRetryCmd
    split <;> rcases cmd with _ | _ | _ | _ <;> nofun
  · cases hk

/-- The main thread comes to the watch loop's sleep by the test before it. -/
theorem mainStep_idleSleep {r : SysRet} (hpoll : s.onPoll = none) (h : s.mainStep r = some t)
    (ht : t.pc = .idleSleep) : s.pc = .watchTest := by
  replace h := mainStep_cases h
  cases h with
  | goes h =>
    cases h with
    | disabled h => exact h
    | _ => cases ht
  | announces h =>
    obtain ⟨pc, announced, heq, hpc⟩ := sendState_eq _ _ s
    rw [heq] at ht
    obtain rfl : pc = .idleSleep := ht
    rcases hpc with rfl | hpc
    · unfold Pc.announces at h
      cases hs : s.pc <;> simp [hs] at h
    · cases hpc
  | sendsStats h =>
    obtain ⟨pc, heq, rfl | rfl⟩ := sendStats_eq .sessionChecks s
    · rw [heq] at ht
      cases ht
    · rw [heq] at ht
      cases ht
  | polls hk =>
    rw [hpoll] at hk
    cases hk
  | statsDue h hrun hnext => rcases hnext with rfl | rfl <;> cases ht
  | _ => cases ht

/-- What makes the daemon sleep is the test of `g_watch_enabled`. -/
theorem pc_of_idleSleep (h : s.stepAny e = some t) (ht : t.pc = .idleSleep) :
    (s.pc = .watchTest ∧ byMain e = true) ∨ s.pc = .idleSleep := by
  rcases stepAny_cases h with ⟨k, u, hk, -, -, -, rfl⟩ | ⟨hpoll | ⟨-, hpc⟩, -, -⟩
  · exact absurd ht (onPoll_idleSleep hk _ _)
  · cases e with
    | pollReturns cmd => simp [stepAny, hpoll] at h
    | act a =>
      have hstep : s.step a = some t := h
      cases a with
      | main r => exact .inl ⟨mainStep_idleSleep hpoll hstep ht, rfl⟩
      | connect | send | close | signal | bridgeDown =>
        exact .inr ((step_noCommand_of_env rfl hstep).2.2.symm.trans ht)
  · exact .inr (hpc.symm.trans ht)

/-- Without a poll nothing is switched. -/
theorem disabledInSession_step {l : List (Daemon × Event)} (hpoll : s.onPoll = none)
    (h : s.stepAny e = some t) : disabledInSession ((s, e) :: l) = disabledInSession l := by
  rw [disabledInSession_cons]
  rcases stepAny_cases h with ⟨k, u, hk, -⟩ | ⟨-, hret, -⟩
  · rw [hpoll] at hk
    cases hk
  · rw [hret]

/-- A state announced is still right after a step, but for a test of `g_watch_enabled` when a
    session has been disabled. -/
theorem announced_step {l : List (Daemon × Event)} (hrun : Run stepAny (start true true) l s)
    (hs : Announced s) (h : s.stepAny e = some t) :
    Announced t ↔ (s.pc = .watchTest → byMain e = true → disabledInSession l = false) := by
  have hinv := watchSays_of_run hrun
  rw [(watchSays_of_run (hrun.snoc h)).announced_iff]
  constructor
  · rintro ht hpc hmain
    have hpoll : s.onPoll = none := by rw [Daemon.onPoll, hpc]
    rw [disabledInSession_step hpoll h] at ht
    by_contra hsession
    refine hsession (ht ?_)
    -- the test finds it disabled, and the main thread sleeps
    have hdisabled : s.watchEnabled = false := by
      by_contra henabled
      exact hsession (hinv.enabled (Bool.eq_true_of_not_eq_false henabled))
    cases e with
    | pollReturns cmd => simp [stepAny, hpoll] at h
    | act a =>
      cases a with
      | main r =>
        simp only [stepAny, step, mainStep, hpc, hdisabled, Option.some.injEq] at h
        rw [← h]
        rfl
      | connect | send | close | signal | bridgeDown => cases hmain
  · rintro hok ht
    rcases pc_of_idleSleep h ht with ⟨hpc, hmain⟩ | hpc
    · rw [disabledInSession_step (by rw [Daemon.onPoll, hpc]) h]
      exact hok hpc hmain
    · rw [disabledInSession_step (by rw [Daemon.onPoll, hpc]) h]
      exact hinv.announced_iff.mp hs hpc

/-- **The state announced in the sleeps.**  In a run of watch mode with an IPC server, whatever
    the polls return and however sessions end, the last state announced is "watching" in every
    sleep with `g_watch_enabled` and "idle" in every one without, exactly when `g_watch_enabled`
    is never tested with a disable in a session as the last enable or disable that a poll has
    returned. -/
theorem watchSleep_announced_iff {l : List (Daemon × Event)}
    (h : Run stepAny (start true true) l t) :
    (Announced t ∧ ∀ p ∈ l, Announced p.1) ↔
      ∀ l' s e, (s, e) :: l' <:+ l → s.pc = .watchTest → byMain e = true →
        disabledInSession l' = false :=
  h.good_iff_history Announced _ nofun fun _ _ _ _ hrun hs hst => announced_step hrun hs hst

/-- A session ends by itself, and a client disables watch mode in the wait after it. -/
def disabledWhileWaiting : List Event :=
  enabledSession ++ .act (.bridgeDown true) :: List.replicate 8 (mainTurn 1) ++
    .pollReturns (some .disable) :: List.replicate 6 (mainTurn 1)

/-- A client disables watch mode in a session, and sends nothing more. -/
def disabledSession : List Event :=
  enabledSession ++ .pollReturns (some .disable) :: List.replicate 8 (mainTurn 1)

/-- Disabled in the wait, the daemon announces "idle" before it sleeps in the watch loop. -/
theorem watchSleep_announced_waiting :
    ∃ l t, Run stepAny (start true true) l t ∧ t.pc = .idleSleep ∧ t.lastState = some .idle ∧
      ∀ p ∈ l, Announced p.1 := by
  obtain ⟨l, t, hrun, hok, hgood⟩ := exists_run_of_exec stepAny
    (fun s e => !(s.pc == .sessionPoll && s.returned e == some .disable))
    (fun t => t.pc == .idleSleep && !t.watchEnabled) (start true true) disabledWhileWaiting
    (by decide +kernel)
  obtain ⟨hpc, henabled⟩ := Bool.and_eq_true_iff.mp hgood
  have hpc : t.pc = .idleSleep := eq_of_beq hpc
  have hsession : ∀ l', l' <:+ l → disabledInSession l' = false := by
    refine fun l' hsuffix => disabledInSession_eq_false fun p hp hpoll hret => ?_
    simpa [hpoll, hret] using hok p (hsuffix.subset hp)
  obtain ⟨ht, hall⟩ := (watchSleep_announced_iff hrun).mpr fun l' s e hsuffix _ _ =>
    hsession l' ((List.suffix_cons _ _).trans hsuffix)
  refine ⟨l, t, hrun, hpc, ?_, hall⟩
  rw [ht (by rw [hpc]; rfl), (Bool.not_eq_true' _).mp henabled]
  rfl

/-- Disabled in a session, it sleeps with "disconnected" announced. -/
theorem not_watchSleep_announced :
    ¬ ∀ (l : List (Daemon × Event)) (t : Daemon), Run stepAny (start true true) l t →
      Announced t := by
  intro hall
  obtain ⟨l, t, hrun, -, hgood⟩ := exists_run_of_exec stepAny (fun _ _ => true)
    (fun t => t.pc == .idleSleep && !t.watchEnabled && t.lastState == some .disconnected)
    (start true true) disabledSession (by decide +kernel)
  simp only [Bool.and_eq_true, beq_iff_eq, Bool.not_eq_true'] at hgood
  obtain ⟨⟨hpc, henabled⟩, hlast⟩ := hgood
  have ht := hall l t hrun (by rw [hpc]; rfl)
  rw [hlast, henabled] at ht
  cases ht

end Daemon

end AndroidTether
