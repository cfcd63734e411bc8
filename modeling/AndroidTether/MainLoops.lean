import AndroidTether.Daemon

namespace AndroidTether

open Trans

/-!
# The main loops under the commands of the UI

The two loops of `main` and the main loop of `run_session`, with polls that may return
anything: besides what the sockets allow, any result of `ipc_server_poll` at any of its three
call sites.

* `Daemon.stepAny` — the steps of the daemon, and polls with any result;
* `Daemon.stepAny_cases` — a step is a poll, whose result decides what it does, or leaves the
  commands returned so far and `g_watch_enabled` alone;
* `watchMode_sessions` — in watch mode sessions only start while enabled;
* `oneShot_stops` — in one-shot mode a stop, or a disable during a session, ends the loop.
-/

/-- The loop of one-shot mode is left, or the process has ended. -/
def Pc.left : Pc → Bool
  | destroyIpc => true
  | atExit => true
  | exited => true
  | killed => true
  | _ => false

/-- How many steps the main thread still makes in the loop of one-shot mode once `g_running`
    is 0, where it is on its way out. -/
def Pc.stepsLeft : Pc → Option Nat
  | sessionHead => some 5
  | joinThreads => some 4
  | sayDisconnected => some 3
  | restoreNetwork => some 2
  | sessionReturned false => some 1
  | retrySleep _ => some 3
  | retryHead _ => some 2
  | mainHead => some 1
  | destroyIpc | atExit | exited | killed => some 0
  | _ => none

/-- At most five steps are left. -/
theorem Pc.stepsLeft_le {pc : Pc} {n : Nat} (h : pc.stepsLeft = some n) : n ≤ 5 := by
  unfold stepsLeft at h
  split at h <;> simp only [Option.some.injEq, reduceCtorEq] at h <;> omega

/-- With none left, the loop has been left. -/
theorem Pc.left_of_stepsLeft {pc : Pc} (h : pc.stepsLeft = some 0) : pc.left = true := by
  unfold stepsLeft at h
  split at h <;> first | rfl | cases h

namespace Daemon

/-- What can happen when a poll may return anything. -/
inductive Event where
  | act (a : Action)
  | pollReturns (cmd : Option IpcCmd)

/-- One step, or a poll with any result. -/
def stepAny (s : Daemon) : Event → Option Daemon
  | .act a => s.step a
  | .pollReturns cmd =>
    if s.ipc.isSome then
      s.onPoll.map fun k => k cmd { s with commands := cmd.toList ++ s.commands }
    else none

/-- The result of the poll that a step makes. -/
def returned (s : Daemon) : Event → Option IpcCmd
  | .pollReturns cmd => cmd
  | .act (.main r) =>
    if s.onPoll.isSome then s.ipc.bind fun srv => (ipcServerPoll srv r.poll).2 else none
  | .act _ => none

/-- The main thread takes the step. -/
def byMain : Event → Bool
  | .pollReturns _ => true
  | .act (.main _) => true
  | .act _ => false

/-- The most recent enable or disable of commands listed latest first. -/
def latestSwitch (l : List IpcCmd) : Option IpcCmd := l.find? (· ≠ .stop)

/-- The commands that the polls of a run have returned, the latest first. -/
def returnedIn (l : List (Daemon × Event)) : List IpcCmd := l.filterMap fun p => p.1.returned p.2

/-- The fields that the loops decide on. -/
structure SameControl (s t : Daemon) : Prop where
  watchMode : t.watchMode = s.watchMode
  running : t.running = s.running
  watchEnabled : t.watchEnabled = s.watchEnabled
  bridgeRunning : t.bridgeRunning = s.bridgeRunning
  disconnected : t.disconnected = s.disconnected

/-- There is a server still, or none, and it has announced nothing more. -/
structure SameServer (s t : Daemon) : Prop where
  lastState : t.lastState = s.lastState
  ipc : t.ipc.isSome = s.ipc.isSome

variable {s t : Daemon} {e : Event}

/-- A session is about to begin, in watch mode because the watch loop found it enabled. -/
def MayStart (s : Daemon) : Prop :=
  s.pc = .findDevice ∨ s.pc = .watchTest ∧ s.watchEnabled = true ∨
    s.pc = .mainHead ∧ s.watchMode = false ∧ s.running = true

/-- Fields that only polls and signals change, and when the step leads to a session. -/
structure NoCommand (s t : Daemon) : Prop where
  commands : t.commands = s.commands
  watchMode : t.watchMode = s.watchMode
  watchEnabled : t.watchEnabled = s.watchEnabled
  running : t.running = true → s.running = true
  mayStart : t.pc = .findDevice → s.MayStart
  mayWatch : t.pc = .watchPoll → s.pc = .watchPoll ∨ s.watchMode = true

/-- A broadcast changes the place in the program and the state announced. -/
theorem sendState_eq (st : UiState) (next : Pc) (s : Daemon) :
    ∃ pc announced, s.sendState st next = { s with pc := pc, lastState := announced } ∧
      (pc = next ∨ pc = .killed) := by
  unfold sendState sendToAll
  split
  · exact ⟨next, s.lastState, rfl, .inl rfl⟩
  · split
    · exact ⟨.killed, some st, rfl, .inr rfl⟩
    · exact ⟨next, some st, rfl, .inl rfl⟩

/-- Sending statistics goes on, or kills the process. -/
theorem sendStats_eq (next : Pc) (s : Daemon) :
    ∃ pc, s.sendStats next = { s with pc := pc } ∧ (pc = next ∨ pc = .killed) := by
  unfold sendStats sendToAll
  split
  · exact ⟨next, rfl, .inl rfl⟩
  · split
    · exact ⟨next, rfl, .inl rfl⟩
    · split
      · exact ⟨.killed, rfl, .inr rfl⟩
      · exact ⟨next, rfl, .inl rfl⟩

/-- A poll hands what it returned to what is done with it. -/
theorem poll_eq {inp : PollInput} {k : Option IpcCmd → Daemon → Daemon}
    (h : s.poll inp k = some t) :
    ∃ u, SameControl s u ∧ SameServer s u ∧
      u.commands = (s.ipc.bind fun srv => (ipcServerPoll srv inp).2).toList ++ s.commands ∧
      t = k (s.ipc.bind fun srv => (ipcServerPoll srv inp).2) u := by
  unfold poll at h
  cases hipc : s.ipc with
  | none =>
    simp only [hipc, Option.some.injEq] at h
    exact ⟨s, ⟨rfl, rfl, rfl, rfl, rfl⟩, ⟨rfl, rfl⟩, rfl, h.symm⟩
  | some srv =>
    simp only [hipc] at h
    split at h
    · simp only [Option.some.injEq] at h
      rw [← h]
      refine ⟨_, ?_, ?_, ?_, rfl⟩
      · exact ⟨rfl, rfl, rfl, rfl, rfl⟩
      · exact ⟨rfl, hipc ▸ rfl⟩
      · rfl
    · cases h

/-- The three places of the program that poll. -/
theorem mainStep_of_onPoll {r : SysRet} {k : Option IpcCmd → Daemon → Daemon}
    (hk : s.onPoll = some k) : s.mainStep r = s.poll r.poll k := by
  unfold mainStep
  unfold onPoll at hk
  cases hpc : s.pc <;> simp only [hpc, Option.some.injEq, reduceCtorEq] at hk ⊢ <;> rw [hk]

/-- A step that polls. -/
theorem stepAny_poll {k : Option IpcCmd → Daemon → Daemon} (hk : s.onPoll = some k)
    (he : byMain e = true) (h : s.stepAny e = some t) :
    ∃ u, SameControl s u ∧ SameServer s u ∧
      u.commands = (s.returned e).toList ++ s.commands ∧ t = k (s.returned e) u := by
  cases e with
  | pollReturns cmd =>
    simp only [stepAny, hk, Option.map_some] at h
    split at h
    · obtain rfl := Option.some.inj h
      exact ⟨{ s with commands := cmd.toList ++ s.commands }, ⟨rfl, rfl, rfl, rfl, rfl⟩,
        ⟨rfl, rfl⟩, rfl, rfl⟩
    · cases h
  | act a =>
    cases a with
    | main r =>
      have hpoll : s.poll r.poll k = some t := (mainStep_of_onPoll hk).symm.trans h
      have hreturned : s.returned (.act (.main r)) =
          s.ipc.bind fun srv => (ipcServerPoll srv r.poll).2 := by simp [returned, hk]
      rw [hreturned]
      exact poll_eq hpoll
    | connect | send | close | signal | bridgeDown => cases he

/-- Tests and sleeps return no command. -/
theorem Goes.noCommand {next : Pc} (h : s.Goes next) : NoCommand s { s with pc := next } := by
  refine ⟨rfl, rfl, rfl, id, fun hstart => ?_, fun hpoll => ?_⟩
  · -- a session begins by the watch loop's test, or at once in one-shot mode
    cases h with
    | toSession h hrun hmode => exact .inr (.inr ⟨h, hmode, hrun⟩)
    | enabled h hen => exact .inr (.inl ⟨h, hen⟩)
    | _ => cases hstart
  · cases h with
    | toWatch h hrun hmode => exact .inr hmode
    | _ => cases hpoll

/-- A step of the main thread that is not a poll. -/
theorem mainStep_noCommand {r : SysRet} (hpoll : s.onPoll = none) (h : s.mainStep r = some t) :
    NoCommand s t := by
  replace h := mainStep_cases h
  cases h with
  | polls hk h =>
    rw [hpoll] at hk
    cases hk
  | goes h => exact h.noCommand
  | announces h =>
    obtain ⟨pc, announced, heq, hpc⟩ := sendState_eq _ _ s
    rw [heq]
    have hnext : pc ≠ .findDevice ∧ pc ≠ .watchPoll := by
      rcases hpc with rfl | rfl
      · unfold Pc.announces at h
        cases hs : s.pc <;> simp only [hs, Option.some.injEq, Prod.mk.injEq, reduceCtorEq] at h <;>
          obtain ⟨-, rfl⟩ := h <;> exact ⟨nofun, nofun⟩
      · exact ⟨nofun, nofun⟩
    exact ⟨rfl, rfl, rfl, id, fun h => absurd h hnext.1, fun h => absurd h hnext.2⟩
  | sendsStats h =>
    obtain ⟨pc, heq, rfl | rfl⟩ := sendStats_eq .sessionChecks s
    · rw [heq]
      exact ⟨rfl, rfl, rfl, id, nofun, nofun⟩
    · rw [heq]
      exact ⟨rfl, rfl, rfl, id, nofun, nofun⟩
  | statsDue h hrun hnext =>
    rcases hnext with rfl | rfl <;> exact ⟨rfl, rfl, rfl, id, nofun, nofun⟩
  | checks _ h | checksRetry _ h =>
    exact ⟨rfl, rfl, rfl, fun hrun => (Bool.and_eq_true_iff.mp hrun).1, nofun, nofun⟩
  | setsUp h | startsBridge h | joins h | restores h | destroys h | exits h =>
    exact ⟨rfl, rfl, rfl, id, nofun, nofun⟩

/-- Other threads take no step of the main thread. -/
theorem ne_main_of_byMain {a : Action} (ha : byMain (.act a) = false) (r : SysRet) :
    a ≠ .main r := by
  rintro rfl
  cases ha

/-- What a client, a signal or a bridge thread does. -/
theorem step_noCommand_of_env {a : Action} (ha : byMain (.act a) = false)
    (h : s.step a = some t) : NoCommand s t ∧ SameServer s t ∧ t.pc = s.pc := by
  obtain ⟨_, _, _, _, rfl, hrunning, -⟩ := step_of_env (ne_main_of_byMain ha) h
  exact ⟨⟨rfl, rfl, rfl, hrunning, fun hpc => .inl hpc, fun hpc => .inl hpc⟩, ⟨rfl, rfl⟩, rfl⟩

/-- **What a step does.**  It is a poll, and its result is handed to what is done with it
    there, or no command is returned. -/
theorem stepAny_cases (h : s.stepAny e = some t) :
    (∃ k u, s.onPoll = some k ∧ byMain e = true ∧ SameControl s u ∧
        u.commands = (s.returned e).toList ++ s.commands ∧ t = k (s.returned e) u) ∨
      (s.onPoll = none ∨ byMain e = false ∧ t.pc = s.pc) ∧ s.returned e = none ∧
        NoCommand s t := by
  cases e with
  | pollReturns cmd =>
    cases hk : s.onPoll with
    | none => simp [stepAny, hk] at h
    | some k =>
      obtain ⟨u, hu, -, hcommands, ht⟩ := stepAny_poll hk rfl h
      exact .inl ⟨k, u, rfl, rfl, hu, hcommands, ht⟩
  | act a =>
    have hstep : s.step a = some t := h
    cases a with
    | main r =>
      have hmain : s.mainStep r = some t := hstep
      cases hk : s.onPoll with
      | none =>
        exact .inr ⟨.inl rfl, by simp [returned, hk], mainStep_noCommand hk hmain⟩
      | some k =>
        obtain ⟨u, hu, -, hcommands, ht⟩ := stepAny_poll hk rfl h
        exact .inl ⟨k, u, rfl, rfl, hu, hcommands, ht⟩
    | connect | send | close | signal | bridgeDown =>
      obtain ⟨hno, -, hpc⟩ := step_noCommand_of_env rfl hstep
      exact .inr ⟨.inr ⟨rfl, hpc⟩, rfl, hno⟩

/-- What is done with the result of a poll returns no command. -/
theorem onPoll_commands {k : Option IpcCmd → Daemon → Daemon} (hk : s.onPoll = some k)
    (cmd : Option IpcCmd) (u : Daemon) : (k cmd u).commands = u.commands := by
  unfold onPoll at hk
  split at hk
  · cases hk
    rcases cmd with _ | _ | _ | _ <;> rfl
  · cases hk
    rcases cmd with _ | _ | _ | _ <;> rfl
  · cases hk
    unfold onRetryCmd
    split <;> rcases cmd with _ | _ | _ | _ <;> rfl
  · cases hk

/-- The commands a state keeps are those returned on the way to it. -/
theorem run_commands {l : List (Daemon × Event)} (h : Run stepAny s l t) :
    t.commands = returnedIn l ++ s.commands := by
  induction h with
  | start => rfl
  | @snoc l u v e _ hst ih =>
    have hcons : returnedIn ((u, e) :: l) = (u.returned e).toList ++ returnedIn l := by
      cases hret : u.returned e <;> simp [returnedIn, hret]
    rw [hcons, List.append_assoc, ← ih]
    rcases stepAny_cases hst with ⟨k, w, hk, -, -, hcommands, rfl⟩ | ⟨-, hret, hno⟩
    · rw [← hcommands]
      exact onPoll_commands hk _ _
    · rw [hret]
      exact hno.commands

/-! ### Watch mode -/

/-- In watch mode `g_watch_enabled` is what the most recent enable or disable said, and a
    session is only begun while it is set. -/
structure WatchInv (s : Daemon) : Prop where
  watchMode : s.watchMode = true
  enabled : s.watchEnabled = true ↔ latestSwitch s.commands = some .enable
  starts : s.pc = .findDevice → s.watchEnabled = true

/-- What each of the three places does with the result of a poll. -/
theorem onPoll_watch {k : Option IpcCmd → Daemon → Daemon} (hk : s.onPoll = some k)
    (cmd : Option IpcCmd) (u : Daemon) (hwatch : u.watchMode = true) :
    (k cmd u).watchMode = true ∧ (k cmd u).pc ≠ .findDevice ∧
      (k cmd u).watchEnabled =
        match cmd with
        | some .disable => false
        | some .enable => true
        | _ => u.watchEnabled := by
  unfold onPoll at hk
  split at hk
  · cases hk
    rcases cmd with _ | _ | _ | _ <;> exact ⟨hwatch, nofun, rfl⟩
  · cases hk
    rcases cmd with _ | _ | _ | _ <;> exact ⟨hwatch, nofun, rfl⟩
  · cases hk
    unfold onRetryCmd
    rw [if_pos hwatch]
    rcases cmd with _ | _ | _ | _ <;> exact ⟨hwatch, nofun, rfl⟩
  · cases hk

/-- A step keeps the watch mode's invariant. -/
theorem watchInv_step (hs : WatchInv s) (h : s.stepAny e = some t) : WatchInv t := by
  rcases stepAny_cases h with ⟨k, u, hk, -, hu, hcommands, rfl⟩ | ⟨-, -, hno⟩
  · obtain ⟨hmode, hpc, henabled⟩ :=
      onPoll_watch hk (s.returned e) u (hu.watchMode.trans hs.watchMode)
    refine ⟨hmode, ?_, fun hstart => absurd hstart hpc⟩
    -- the flag follows the command, as the most recent switch does
    rw [henabled, onPoll_commands hk, hcommands, hu.watchEnabled]
    rcases s.returned e with _ | _ | _ | _
    · exact hs.enabled
    · exact hs.enabled
    · simp [latestSwitch]
    · simp [latestSwitch]
  · refine ⟨hno.watchMode.trans hs.watchMode, ?_, fun hstart => ?_⟩
    · rw [hno.watchEnabled, hno.commands]
      exact hs.enabled
    · rw [hno.watchEnabled]
      rcases hno.mayStart hstart with hpc | ⟨-, henabled⟩ | ⟨-, hmode, -⟩
      · exact hs.starts hpc
      · exact henabled
      · rw [hs.watchMode] at hmode
        cases hmode

/-- The invariant when the daemon starts. -/
theorem watchInv_start (hasIpc : Bool) : WatchInv (start true hasIpc) :=
  ⟨rfl, by simp [start, latestSwitch], nofun⟩

/-- Without an enable since then, the most recent switch is the one before. -/
theorem latestSwitch_append {new old : List IpcCmd} (h : latestSwitch (new ++ old) = some .enable)
    (hno : .enable ∉ new) : latestSwitch old = some .enable := by
  unfold latestSwitch at h ⊢
  rw [List.find?_append] at h
  cases hnew : new.find? (· ≠ .stop) with
  | none =>
    rw [hnew] at h
    exact h
  | some k =>
    rw [hnew, Option.some_or, Option.some.injEq] at h
    exact absurd (h ▸ List.mem_of_find?_eq_some hnew) hno

/-- A disable during a session leaves the main thread at the head of the session's loop, and the
    loop's condition false until it gets there. -/
theorem disabled_session {l : List (Daemon × Event)} {u : Daemon} (hpc : s.pc = .sessionPoll)
    (h : s.stepAny e = some t) (hret : s.returned e = some .disable) (hrun : Run stepAny t l u)
    (henv : ∀ p ∈ l, byMain p.2 = false) : u.pc = .sessionHead ∧ u.bridgeRunning = false := by
  refine hrun.invariant_of (I := fun u => u.pc = .sessionHead ∧ u.bridgeRunning = false)
    (fun _ e => byMain e = false) ?_ (fun v e w hv he hst => ?_) henv
  · -- the poll that returns the disable
    rcases stepAny_cases h with ⟨k, v, hk, -, -, -, rfl⟩ | ⟨-, hnone, -⟩
    · simp only [onPoll, hpc, Option.some.injEq] at hk
      rw [hret, ← hk]
      exact ⟨rfl, rfl⟩
    · rw [hret] at hnone
      cases hnone
  · -- the others cannot set `bctx.running` again
    cases e with
    | pollReturns cmd => cases he
    | act a =>
      obtain ⟨_, _, _, _, rfl, -, hbridge⟩ := step_of_env (ne_main_of_byMain he) hst
      refine ⟨hv.1, Bool.eq_false_of_not_eq_true fun hrunning => ?_⟩
      rw [hbridge hrunning] at hv
      cases hv.2

/-- **Sessions in watch mode.**  In every run of watch mode, whatever the polls return, a
    session is only begun when the most recent enable or disable that a poll has returned is an
    enable.  When a poll in a session returns a disable, the main thread's next step leaves the
    session's loop, and no session is begun again before a poll returns an enable. -/
theorem watchMode_sessions (hasIpc : Bool) {l : List (Daemon × Event)}
    (h : Run stepAny (start true hasIpc) l s) :
    (s.pc = .findDevice → latestSwitch (returnedIn l) = some .enable) ∧
      ∀ e t, s.pc = .sessionPoll → s.stepAny e = some t → s.returned e = some .disable →
        ∀ l' u, Run stepAny t l' u →
          ((∀ p ∈ l', byMain p.2 = false) →
            ∀ r, u.step (.main r) = some { u with pc := .joinThreads }) ∧
          (u.pc = .findDevice → .enable ∈ returnedIn l') := by
  have hinv : ∀ {l s}, Run stepAny (start true hasIpc) l s → WatchInv s := fun h =>
    h.invariant (watchInv_start hasIpc) fun _ _ _ hs hst => watchInv_step hs hst
  have hcommands : ∀ {l s}, Run stepAny (start true hasIpc) l s → s.commands = returnedIn l :=
    fun h => (run_commands h).trans (List.append_nil _)
  have hstarts : ∀ {l s}, Run stepAny (start true hasIpc) l s → s.pc = .findDevice →
      latestSwitch (returnedIn l) = some .enable := fun h hpc => by
    rw [← hcommands h]
    exact (hinv h).enabled.mp ((hinv h).starts hpc)
  refine ⟨hstarts h, fun e t hpc hst hret l' u hrun => ⟨fun henv r => ?_, fun hstart => ?_⟩⟩
  · obtain ⟨hhead, hbridge⟩ := disabled_session hpc hst hret hrun henv
    simp [step, mainStep, hhead, hbridge]
  · -- the disable is the most recent switch until a poll returns an enable
    have hlast := hstarts ((h.snoc hst).trans hrun) hstart
    by_contra hno
    have hcons : returnedIn (l' ++ (s, e) :: l) = returnedIn l' ++ .disable :: returnedIn l := by
      simp [returnedIn, hret]
    rw [hcons] at hlast
    exact absurd (latestSwitch_append hlast hno) (by simp [latestSwitch])

/-- The main thread's next step, with a device there and nothing to read. -/
def mainTurn (now : Int) : Event := .act (mainAt now (pollOf none .again))

/-- Watch mode is enabled, and a session runs until its first poll. -/
def enabledSession : List Event :=
  [mainTurn 1, mainTurn 1, .pollReturns (some .enable)] ++ List.replicate 8 (mainTurn 1)

/-- A disable at the first poll of a session that an enable began ends the session. -/
theorem watchMode_sessions_disabled :
    ∃ l s t, Run stepAny (start true true) l s ∧ s.pc = .sessionPoll ∧
      s.stepAny (.pollReturns (some .disable)) = some t ∧
      ∀ r, t.step (.main r) = some { t with pc := .joinThreads } := by
  obtain ⟨l, s, hrun, -, hgood⟩ := exists_run_of_exec stepAny (fun _ _ => true)
    (fun s => s.pc == .sessionPoll && s.ipc.isSome) (start true true) enabledSession
    (by decide +kernel)
  obtain ⟨hpc, hipc⟩ := Bool.and_eq_true_iff.mp hgood
  have hpc : s.pc = .sessionPoll := eq_of_beq hpc
  obtain ⟨t, hstep⟩ : ∃ t, s.stepAny (.pollReturns (some .disable)) = some t := by
    simp [stepAny, hipc, onPoll, hpc]
  exact ⟨l, s, t, hrun, hpc, hstep,
    ((watchMode_sessions true hrun).2 _ t hpc hstep rfl [] t .start).1 (by simp)⟩

/-! ### One-shot mode -/

/-- The main thread polls between two sessions. -/
def inWait (s : Daemon) : Bool :=
  match s.pc with
  | .retryPoll _ => true
  | _ => false

/-- One-shot mode with `g_running = 0`, on the way out of the loop. -/
structure Stopping (s : Daemon) : Prop where
  watchMode : s.watchMode = false
  running : s.running = false
  onWay : s.pc.stepsLeft.isSome = true

/-- While it is stopping, the daemon does not poll. -/
theorem Stopping.onPoll (hs : Stopping s) : s.onPoll = none := by
  have hway := hs.onWay
  unfold Daemon.onPoll
  cases hpc : s.pc with
  | watchPoll | sessionPoll | retryPoll => simp [hpc, Pc.stepsLeft] at hway
  | _ => rfl

/-- On the way out every step of the main thread comes closer to the exit. -/
theorem stopping_mainStep {r : SysRet} (hs : Stopping s) (h : s.mainStep r = some t) :
    t.pc.stepsLeft.isSome = true ∧
      t.pc.stepsLeft.getD 0 ≤ s.pc.stepsLeft.getD 0 - 1 := by
  obtain ⟨hwatch, hrunning, hway⟩ := hs
  replace h := mainStep_cases h
  cases h with
  | polls hk h =>
    rw [Stopping.onPoll ⟨hwatch, hrunning, hway⟩] at hk
    cases hk
  | announces h =>
    obtain ⟨pc, announced, heq, hnext⟩ := sendState_eq _ _ s
    rw [heq]
    -- only the end of a session is announced on the way out
    unfold Pc.announces at h
    cases hpc : s.pc <;> simp [hpc, Pc.stepsLeft] at h hway ⊢
    obtain ⟨-, rfl⟩ := h
    rcases hnext with rfl | rfl <;> simp
  | goes h =>
    cases h with
    | retry h hre hen =>
      -- a session that is to be repeated
      simp [h, hre, Pc.stepsLeft] at hway
    | toMain h hmode | announceRetry h hmode | retryWatch h hrun hmode | toWatch h hrun hmode =>
      rw [hwatch] at hmode
      cases hmode
    | toSession h hrun | nextRound h hrun | retryOneShot h hrun =>
      rw [hrunning] at hrun
      cases hrun
    | quit h hre => simp [h, hre, Pc.stepsLeft]
    | leave h | endSession h | retryEnd h | retryWake h => simp [h, Pc.stepsLeft]
    | enabled h | disabled h | wake h | found h | notFound h => simp [h, Pc.stepsLeft] at hway
  | statsDue h hrun =>
    rw [hrunning] at hrun
    cases hrun
  | joins h | restores h | destroys h | exits h => simp [h, hrunning, Pc.stepsLeft]
  | sendsStats h | setsUp h | startsBridge h | checks _ h | checksRetry _ h =>
    simp [h, Pc.stepsLeft] at hway

/-- A daemon that is stopping stays so, and each of its own steps brings it nearer to its end. -/
theorem stopping_step (hs : Stopping s) (h : s.stepAny e = some t) :
    Stopping t ∧
      t.pc.stepsLeft.getD 0 ≤ s.pc.stepsLeft.getD 0 - if byMain e then 1 else 0 := by
  rcases stepAny_cases h with ⟨k, u, hk, -⟩ | ⟨-, -, hno⟩
  · rw [hs.onPoll] at hk
    cases hk
  have hmode := hno.watchMode.trans hs.watchMode
  -- nothing sets `g_running` again
  have hrunning : t.running = false := by
    by_contra htrue
    have := hno.running (Bool.eq_true_of_not_eq_false htrue)
    rw [hs.running] at this
    cases this
  cases e with
  | pollReturns cmd => simp [stepAny, hs.onPoll] at h
  | act a =>
    have hstep : s.step a = some t := h
    cases a with
    | main r =>
      obtain ⟨hway, hle⟩ := stopping_mainStep hs hstep
      exact ⟨⟨hmode, hrunning, hway⟩, hle⟩
    | connect | send | close | signal | bridgeDown =>
      have hpc := (step_noCommand_of_env rfl hstep).2.2
      exact ⟨⟨hmode, hrunning, hpc ▸ hs.onWay⟩, by simp [hpc, byMain]⟩

/-- Nothing holds the main thread up on its way out. -/
theorem exists_mainStep_of_stopping (hs : Stopping s) (hended : s.pc.ended = false) :
    ∃ r t, s.step (.main r) = some t := by
  refine ⟨⟨true, 0, false, false, pollOf none .again⟩, ?_⟩
  have hway := hs.onWay
  unfold step mainStep
  cases hpc : s.pc with
  | sessionHead => simp [hs.running]
  | exited | killed => simp [hpc, Pc.ended] at hended
  | joinThreads | mainHead | retryHead | retrySleep | destroyIpc | atExit | restoreNetwork
  | sayDisconnected | sessionReturned => exact ⟨_, rfl⟩
  | _ => simp [hpc, Pc.stepsLeft] at hway

/-- In one-shot mode a stop or a disable that a poll has returned means being on the way out. -/
structure OneShotInv (s : Daemon) : Prop where
  watchMode : s.watchMode = false
  notWatching : s.pc ≠ .watchPoll
  stops : (∃ c ∈ s.commands, c ≠ .enable) → Stopping s

/-- What a poll that returns a stop or, outside the wait, a disable does in one-shot mode. -/
theorem onPoll_stopping {k : Option IpcCmd → Daemon → Daemon} (hk : s.onPoll = some k)
    {cmd : Option IpcCmd} (hok : s.inWait = true → cmd ≠ some .disable) (hpc : s.pc ≠ .watchPoll)
    {u : Daemon} (hwatch : u.watchMode = false) :
    (k cmd u).watchMode = false ∧ (k cmd u).pc ≠ .watchPoll ∧
      ((∃ c ∈ cmd, c ≠ .enable) → Stopping (k cmd u)) := by
  unfold onPoll at hk
  unfold inWait at hok
  cases hs : s.pc with
  | watchPoll => exact absurd hs hpc
  | sessionPoll =>
    simp only [hs, Option.some.injEq] at hk
    subst hk
    rcases cmd with _ | _ | _ | _
    · exact ⟨hwatch, nofun, by simp⟩
    · exact ⟨hwatch, nofun, fun _ => ⟨hwatch, by simp [onSessionCmd, hwatch], rfl⟩⟩
    · exact ⟨hwatch, nofun, fun _ => ⟨hwatch, by simp [onSessionCmd, hwatch], rfl⟩⟩
    · exact ⟨hwatch, nofun, by simp⟩
  | retryPoll i =>
    simp only [hs, Option.some.injEq] at hk hok
    subst hk
    unfold onRetryCmd
    rw [if_neg (by simp [hwatch])]
    rcases cmd with _ | _ | _ | _
    · exact ⟨hwatch, nofun, by simp⟩
    · exact ⟨hwatch, nofun, fun _ => ⟨hwatch, rfl, rfl⟩⟩
    · exact absurd rfl (hok trivial)
    · exact ⟨hwatch, nofun, by simp⟩
  | _ => simp [hs] at hk

/-- A step keeps the one-shot mode's invariant, unless the wait drops a `disable`. -/
theorem oneShotInv_step (hs : OneShotInv s) (hok : s.inWait = true → s.returned e ≠ some .disable)
    (h : s.stepAny e = some t) : OneShotInv t := by
  rcases stepAny_cases h with ⟨k, u, hk, -, hu, hcommands, rfl⟩ | ⟨-, -, hno⟩
  · obtain ⟨hmode, hpc, hstops⟩ :=
      onPoll_stopping hk hok hs.notWatching (hu.watchMode.trans hs.watchMode)
    refine ⟨hmode, hpc, ?_⟩
    rw [onPoll_commands hk, hcommands]
    rintro ⟨c, hc, hne⟩
    rcases List.mem_append.mp hc with hc | hc
    · exact hstops ⟨c, Option.mem_toList.mp hc, hne⟩
    · -- nothing polls on the way out
      have := (hs.stops ⟨c, hc, hne⟩).onPoll
      rw [hk] at this
      cases this
  · refine ⟨hno.watchMode.trans hs.watchMode, fun hpc => ?_, fun hc => ?_⟩
    · rcases hno.mayWatch hpc with hpc | hmode
      · exact hs.notWatching hpc
      · rw [hs.watchMode] at hmode
        cases hmode
    · rw [hno.commands] at hc
      exact (stopping_step (hs.stops hc) h).1

/-- **Stopping one-shot mode.**  In a run of one-shot mode in which no poll between two sessions
    returns a disable, once a poll has returned a stop or a disable no session begins, the main
    thread is never stuck, and five of its steps later it has left the loop. -/
theorem oneShot_stops (hasIpc : Bool) {l : List (Daemon × Event)}
    (h : Run stepAny (start false hasIpc) l s)
    (hok : ∀ p ∈ l, p.1.inWait = true → p.1.returned p.2 ≠ some .disable)
    (hstop : ∃ c ∈ returnedIn l, c = .stop ∨ c = .disable) :
    ∀ l' u, Run stepAny s l' u →
      u.pc ≠ .findDevice ∧ (u.pc.ended = false → ∃ r v, u.step (.main r) = some v) ∧
        (5 ≤ l'.countP (fun p => byMain p.2) → u.pc.left = true) := by
  have hinv : OneShotInv s :=
    h.invariant_of (fun s e => s.inWait = true → s.returned e ≠ some .disable)
      ⟨rfl, nofun, by simp [start]⟩ (fun _ _ _ hs hok hst => oneShotInv_step hs hok hst) hok
  have hstopping : Stopping s := by
    obtain ⟨c, hc, hor⟩ := hstop
    refine hinv.stops ⟨c, ?_, by rcases hor with rfl | rfl <;> decide⟩
    rw [run_commands h]
    exact List.mem_append_left _ hc
  intro l' u hrun
  have hu : Stopping u := hrun.invariant hstopping fun _ _ _ hs hst => (stopping_step hs hst).1
  have hrank := hrun.rank_le (fun s => s.pc.stepsLeft.getD 0) byMain hstopping
    fun _ _ _ hs hst => stopping_step hs hst
  refine ⟨fun hpc => ?_, fun hended => ?_, fun hcount => ?_⟩
  · have := hu.onWay
    simp [hpc, Pc.stepsLeft] at this
  · exact exists_mainStep_of_stopping hu hended
  · -- the five steps have used up the rank
    have hle : s.pc.stepsLeft.getD 0 ≤ 5 := by
      cases hpc : s.pc.stepsLeft with
      | none => simp
      | some n => exact Pc.stepsLeft_le hpc
    obtain ⟨n, hn⟩ := Option.isSome_iff_exists.mp hu.onWay
    have hzero : u.pc.stepsLeft.getD 0 = 0 := by omega
    rw [hn, Option.getD_some] at hzero
    exact Pc.left_of_stepsLeft (hzero ▸ hn)

/-- A session in one-shot mode is stopped at its first poll. -/
def stoppedSession : List Event := List.replicate 7 (mainTurn 1) ++ [.pollReturns (some .stop)]

/-- There is no device, the first poll of the wait returns a disable, the others nothing. -/
def disabledWait : List Event :=
  [mainTurn 1, .act (.main ⟨false, 1, false, false, pollOf none .again⟩)] ++
    List.replicate 3 (mainTurn 1) ++ [.pollReturns (some .disable), mainTurn 1] ++
    (List.replicate 5 [mainTurn 1, mainTurn 1, .pollReturns none, mainTurn 1]).flatten ++
    List.replicate 2 (mainTurn 1)

/-- After a stop the main thread goes on, and begins no session. -/
theorem oneShot_stops_session :
    ∃ l s, Run stepAny (start false true) l s ∧ .stop ∈ returnedIn l ∧
      ∀ l' u, Run stepAny s l' u →
        u.pc ≠ .findDevice ∧ (5 ≤ l'.countP (fun p => byMain p.2) → u.pc.left = true) := by
  obtain ⟨l, s, hrun, hok, hgood⟩ := exists_run_of_exec stepAny
    (fun s e => !(s.inWait && s.returned e == some .disable)) (fun s => s.commands == [.stop])
    (start false true) stoppedSession (by decide +kernel)
  have hstop : .stop ∈ returnedIn l := by
    have hcommands := run_commands hrun
    rw [eq_of_beq hgood] at hcommands
    rw [← List.append_nil (returnedIn l)]
    exact hcommands ▸ List.mem_singleton_self _
  have hok' : ∀ p ∈ l, p.1.inWait = true → p.1.returned p.2 ≠ some .disable := by
    intro p hp hwait hret
    simpa [hwait, hret] using hok p hp
  refine ⟨l, s, hrun, hstop, fun l' u hrun' => ?_⟩
  obtain ⟨hstart, -, hleft⟩ := oneShot_stops true hrun hok' ⟨_, hstop, .inl rfl⟩ l' u hrun'
  exact ⟨hstart, hleft⟩

/-- A disable in the wait between two sessions is passed over: the next session begins. -/
theorem not_oneShot_stops :
    ¬ ∀ (hasIpc : Bool) (l : List (Daemon × Event)) (s : Daemon),
      Run stepAny (start false hasIpc) l s → (∃ c ∈ returnedIn l, c = .stop ∨ c = .disable) →
        s.pc ≠ .findDevice := by
  intro h
  obtain ⟨l, s, hrun, -, hgood⟩ := exists_run_of_exec stepAny (fun _ _ => true)
    (fun s => s.pc == .findDevice && s.commands == [.disable]) (start false true) disabledWait
    (by decide +kernel)
  obtain ⟨hpc, hcommands⟩ := Bool.and_eq_true_iff.mp hgood
  have hdisable : .disable ∈ returnedIn l := by
    have hrun := run_commands hrun
    rw [eq_of_beq hcommands] at hrun
    rw [← List.append_nil (returnedIn l)]
    exact hrun ▸ List.mem_singleton_self _
  exact h true l s hrun ⟨_, hdisable, .inr rfl⟩ (eq_of_beq hpc)

end Daemon

end AndroidTether
