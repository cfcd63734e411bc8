import AndroidTether.Ipc
import AndroidTether.Lib.Trans

namespace AndroidTether

open Trans

/-!
# The daemon process and its clients

The main thread from `ipc_server_create` to the end of the process: the two loops of `main`
and the part of `run_session` it runs itself, one statement or one call a step.  Around it
move the clients of the IPC socket, signals, and the bridge threads ending a session.

A broadcast to a client that has closed its end raises `SIGPIPE`, for which the daemon has no
handler: the process ends without its `atexit` handlers.

The calls of a step are taken to return.  For the two `pthread_join` this means that
`usb_to_tun` and `tun_to_usb` have ended, and for steps 1 to 6 of `run_session` that
`dhcp_discover` has.  A transfer on which the walk over its messages does not end would keep
them from it; the runs of this model are those in which none arrives.

* `Daemon.step` — one step of the main thread, a client or the environment;
* `Daemon.mainStep_cases` — all that a step of the main thread can do;
* `Daemon.audience` — the clients the next step writes to;
* `networkRestored_iff` — the process never ends with `g_network_bound` set, in a run, exactly
  when no broadcast of the run with `g_network_bound` set meets a client that has gone.
-/

/-- The states `ipc_server_send_state` announces. -/
inductive UiState where
  | idle
  | watching
  | connected
  | disconnected
  deriving DecidableEq, Repr

/-- Where the main thread stands. -/
inductive Pc where
  /-- `main`: the first message of watch mode -/
  | sayFirstIdle
  /-- `main`: `while (g_running)`, in either mode -/
  | mainHead
  /-- the watch loop: `ipc_server_poll` and the message about its command -/
  | watchPoll
  | watchSay (st : UiState)
  /-- the watch loop: `if (!g_watch_enabled)`, and the sleep under it -/
  | watchTest
  | idleSleep
  /-- `run_session`, steps 1 to 6 -/
  | findDevice
  /-- `run_session`, steps 7 and 8, `g_network_bound = 1` -/
  | setUpNetwork
  | sayConnected
  /-- `run_session`, step 9: the bridge context and its threads -/
  | startBridge
  /-- `run_session`: `while (g_running && atomic_load(&bctx.running))` -/
  | sessionHead
  | sendStats
  | sessionChecks
  | sessionPoll
  /-- `run_session`: the end of the session -/
  | joinThreads
  | sayDisconnected
  | restoreNetwork
  /-- `main`, with what `run_session` returned -/
  | sessionReturned (reconnect : Bool)
  /-- `main`: the wait before the next session, with its counter -/
  | sayWatching
  | retryHead (i : Nat)
  | retryChecks (i : Nat)
  | retryPoll (i : Nat)
  | retrySayIdle (i : Nat)
  | retrySleep (i : Nat)
  /-- `ipc_server_destroy`; then `return 0`, which runs `cleanup_at_exit` -/
  | destroyIpc
  | atExit
  | exited
  /-- ended by a signal -/
  | killed
  deriving DecidableEq, Repr

/-- The process has ended. -/
def Pc.ended : Pc → Bool
  | exited => true
  | killed => true
  | _ => false

/-- The bridge threads run. -/
def Pc.bridging : Pc → Bool
  | sessionHead => true
  | sendStats => true
  | sessionChecks => true
  | sessionPoll => true
  | joinThreads => true
  | _ => false

/-- The six places that announce a state, with the state and the place behind. -/
def Pc.announces : Pc → Option (UiState × Pc)
  | sayFirstIdle => some (.idle, .mainHead)
  | watchSay st => some (st, .watchTest)
  | sayConnected => some (.connected, .startBridge)
  | sayDisconnected => some (.disconnected, .restoreNetwork)
  | sayWatching => some (.watching, .retryHead 0)
  | retrySayIdle i => some (.idle, .retrySleep i)
  | _ => none

/-- The clients' side of the socket.  A connection keeps its number for good: it is the
    descriptor once the daemon has accepted it. -/
structure Sockets where
  /-- connections not accepted yet, the oldest first -/
  pending : List Fd
  /-- the number of the next connection -/
  next : Fd
  /-- the client has closed its end -/
  closed : Fd → Bool
  /-- what the client has sent and the daemon has not read -/
  unread : Fd → List Char

/-- The daemon: the globals of `main.c`, what `run_session` keeps in `bctx`, the server. -/
structure Daemon where
  pc : Pc
  watchMode : Bool
  ipc : Option IpcServer
  /-- `g_running` -/
  running : Bool
  /-- `g_watch_enabled` -/
  watchEnabled : Bool
  /-- `g_network_bound` -/
  networkBound : Bool
  /-- `bctx.running` -/
  bridgeRunning : Bool
  /-- `bctx.disconnected` -/
  disconnected : Bool
  /-- `last_stats` -/
  lastStats : Int
  sockets : Sockets
  /-- the last state announced, and the commands polls have returned, the latest first; for
      statements about runs, the daemon keeps neither -/
  lastState : Option UiState
  commands : List IpcCmd

/-- The daemon after `ipc_server_create`, which may have failed. -/
def Daemon.start (watchMode hasIpc : Bool) : Daemon where
  pc := if watchMode then .sayFirstIdle else .mainHead
  watchMode := watchMode
  ipc := if hasIpc then some .create else none
  running := true
  watchEnabled := false
  networkBound := false
  bridgeRunning := false
  disconnected := false
  lastStats := 0
  sockets := ⟨[], 0, fun _ => false, fun _ => []⟩
  lastState := none
  commands := []

/-- What the calls of a step return; each step looks at its own. -/
structure SysRet where
  /-- steps 1 to 6 of `run_session` succeed -/
  deviceReady : Bool
  /-- `time(NULL)` -/
  now : Int
  /-- `g_ui_pid > 0 && kill(g_ui_pid, 0) != 0` -/
  uiDied : Bool
  /-- `stats_check_stop_trigger` -/
  stopTrigger : Bool
  poll : PollInput

/-! ### Broadcasts and polls -/

/-- What a `read` on `fd` can do.  It can fail at any time. -/
def Sockets.allows (k : Sockets) (fd : Fd) : ReadResult → Bool
  | .data c => c.bytes.isPrefixOf (k.unread fd)
  | .eof => (k.unread fd).isEmpty && k.closed fd
  | .again => (k.unread fd).isEmpty && !k.closed fd
  | .error => true

/-- What a poll meets agrees with the sockets. -/
def Sockets.meets (k : Sockets) (srv : IpcServer) (inp : PollInput) : Bool :=
  (inp.accept.all fun fd => k.pending.head? == some fd) &&
    (List.finRange maxClients).all fun i =>
      ((acceptClient srv inp.accept).clientFds i).all fun fd => k.allows fd (inp.read i)

/-- The sockets after a poll: a connection accepted, and the bytes read gone. -/
def Sockets.afterPoll (k : Sockets) (srv : IpcServer) (inp : PollInput) : Sockets :=
  { k with
    pending := if inp.accept.isSome then k.pending.tail else k.pending
    unread := (pollReads srv inp).foldl
      (fun u r => Function.update u r.1 ((u r.1).drop r.2.length)) k.unread }

/-- A client of the server has closed its end, and its slot still holds the descriptor. -/
def Sockets.hungUp (k : Sockets) (srv : IpcServer) : Bool :=
  (List.finRange maxClients).any fun i => (srv.clientFds i).any k.closed

namespace Daemon

/-- `send_to_all`, and on to `next`; a `write` to a client that has gone ends the process. -/
def sendToAll (srv : IpcServer) (next : Pc) (s : Daemon) : Daemon :=
  if s.sockets.hungUp srv then { s with pc := .killed } else { s with pc := next }

/-- `ipc_server_send_state` -/
def sendState (st : UiState) (next : Pc) (s : Daemon) : Daemon :=
  match s.ipc with
  | none => { s with pc := next }
  | some srv => sendToAll srv next { s with lastState := some st }

/-- `ipc_server_send_stats` -/
def sendStats (next : Pc) (s : Daemon) : Daemon :=
  match s.ipc with
  | none => { s with pc := next }
  | some srv => if srv.numClients = 0 then { s with pc := next } else sendToAll srv next s

/-- `if (ipc) cmd = ipc_server_poll(ipc)`, and on with `k`. -/
def poll (inp : PollInput) (k : Option IpcCmd → Daemon → Daemon) (s : Daemon) : Option Daemon :=
  match s.ipc with
  | none => some (k none s)
  | some srv =>
    if s.sockets.meets srv inp then
      let (srv', cmd) := ipcServerPoll srv inp
      some (k cmd { s with
        ipc := some srv'
        sockets := s.sockets.afterPoll srv inp
        commands := cmd.toList ++ s.commands })
    else none

/-- The command handling of the watch loop. -/
def onWatchCmd (cmd : Option IpcCmd) (s : Daemon) : Daemon :=
  match cmd with
  | some .disable => { s with watchEnabled := false, pc := .watchSay .idle }
  | some .enable => { s with watchEnabled := true, pc := .watchSay .watching }
  -- in watch mode idle, stop is a no-op
  | some .stop => { s with pc := .watchTest }
  | none => { s with pc := .watchTest }

/-- The command handling of the main loop of `run_session`. -/
def onSessionCmd (cmd : Option IpcCmd) (s : Daemon) : Daemon :=
  match cmd with
  | some .stop =>
    { s with
      bridgeRunning := false
      running := s.running && s.watchMode
      pc := .sessionHead }
  | some .disable =>
    { s with
      bridgeRunning := false
      watchEnabled := false
      running := s.running && s.watchMode
      pc := .sessionHead }
  | some .enable => { s with watchEnabled := true, pc := .sessionHead }
  | none => { s with pc := .sessionHead }

/-- The command handling of the two waits. -/
def onRetryCmd (i : Nat) (cmd : Option IpcCmd) (s : Daemon) : Daemon :=
  if s.watchMode then
    match cmd with
    | some .disable => { s with watchEnabled := false, pc := .retrySayIdle i }
    | some .enable => { s with watchEnabled := true, pc := .retrySleep i }
    | _ => { s with pc := .retrySleep i }
  else
    match cmd with
    | some .stop => { s with running := false, pc := .retrySleep i }
    | _ => { s with pc := .retrySleep i }

/-! ### Steps -/

/-- One step of the main thread.  The threads that `joinThreads` waits for have ended. -/
def mainStep (r : SysRet) (s : Daemon) : Option Daemon :=
  match s.pc with
  | .sayFirstIdle => some (s.sendState .idle .mainHead)
  | .mainHead =>
    some { s with pc := if s.running then (if s.watchMode then .watchPoll else .findDevice)
      else .destroyIpc }
  | .watchPoll => s.poll r.poll onWatchCmd
  | .watchSay st => some (s.sendState st .watchTest)
  | .watchTest => some { s with pc := if s.watchEnabled then .findDevice else .idleSleep }
  | .idleSleep => some { s with pc := .mainHead }
  | .findDevice =>
    -- every way out of steps 1 to 6 returns `g_running ? 1 : 0`
    some { s with pc := if r.deviceReady then .setUpNetwork else .sessionReturned s.running }
  | .setUpNetwork => some { s with networkBound := true, pc := .sayConnected }
  | .sayConnected => some (s.sendState .connected .startBridge)
  | .startBridge =>
    some { s with bridgeRunning := true, disconnected := false, lastStats := 0, pc := .sessionHead }
  | .sessionHead =>
    if s.running && s.bridgeRunning then
      if r.now - s.lastStats ≥ 1 then
        -- there are no rates to send before the second round
        some { s with
          lastStats := r.now
          pc := if s.lastStats > 0 then .sendStats else .sessionChecks }
      else some s
    else some { s with pc := .joinThreads }
  | .sendStats => some (s.sendStats .sessionChecks)
  | .sessionChecks =>
    let stop := (!s.watchMode && r.uiDied) || r.stopTrigger
    some { s with
      running := s.running && !stop, bridgeRunning := s.bridgeRunning && !stop, pc := .sessionPoll }
  | .sessionPoll => s.poll r.poll onSessionCmd
  | .joinThreads => some { s with bridgeRunning := false, pc := .sayDisconnected }
  | .sayDisconnected => some (s.sendState .disconnected .restoreNetwork)
  | .restoreNetwork =>
    some { s with networkBound := false, pc := .sessionReturned (s.disconnected && s.running) }
  | .sessionReturned reconnect =>
    some { s with
      pc :=
        -- one-shot mode ends with the first session that is not to be repeated
        if s.watchMode then
          if reconnect && s.running then
            if s.ipc.isSome && s.watchEnabled then .sayWatching else .retryHead 0
          else .mainHead
        else if reconnect then .retryHead 0
        else .destroyIpc }
  | .sayWatching => some (s.sendState .watching (.retryHead 0))
  | .retryHead i =>
    some { s with
      pc :=
        if i < 6 ∧ s.running then
          if s.watchMode then (if s.watchEnabled then .retryPoll i else .mainHead)
          else .retryChecks i
        else .mainHead }
  | .retryChecks i =>
    some { s with running := s.running && !(r.uiDied || r.stopTrigger), pc := .retryPoll i }
  | .retryPoll i => s.poll r.poll (onRetryCmd i)
  | .retrySayIdle i => some (s.sendState .idle (.retrySleep i))
  | .retrySleep i => some { s with pc := .retryHead (i + 1) }
  | .destroyIpc => some { s with ipc := none, pc := .atExit }
  -- `cleanup_at_exit` calls `restore_network_state` once more
  | .atExit => some { s with networkBound := false, pc := .exited }
  | .exited => none
  | .killed => none

/-- What can happen: a step of the main thread, with what its calls return; something a
    client does; a signal; a bridge thread ending the session. -/
inductive Action where
  | main (r : SysRet)
  | connect
  | send (fd : Fd) (text : List Char)
  | close (fd : Fd)
  | signal
  | bridgeDown (disconnected : Bool)

/-- One step of the whole system. -/
def step (s : Daemon) : Action → Option Daemon
  | .main r => s.mainStep r
  | .connect =>
    if s.pc.ended then none
    else some { s with sockets :=
      { s.sockets with pending := s.sockets.pending ++ [s.sockets.next]
                       next := s.sockets.next + 1 } }
  | .send fd text =>
    if s.pc.ended || !(fd < s.sockets.next) || s.sockets.closed fd then none
    else some { s with sockets :=
      { s.sockets with unread :=
          Function.update s.sockets.unread fd (s.sockets.unread fd ++ text) } }
  | .close fd =>
    if s.pc.ended || !(fd < s.sockets.next) then none
    else some { s with sockets :=
      { s.sockets with closed := Function.update s.sockets.closed fd true } }
  | .signal => if s.pc.ended then none else some { s with running := false }
  | .bridgeDown disconnected =>
    if s.pc.bridging then
      some { s with bridgeRunning := false, disconnected := s.disconnected || disconnected }
    else none

/-! ### What a step of the main thread does -/

/-- What is done with the result of a poll, where the main thread is about to poll. -/
def onPoll (s : Daemon) : Option (Option IpcCmd → Daemon → Daemon) :=
  match s.pc with
  | .watchPoll => some onWatchCmd
  | .sessionPoll => some onSessionCmd
  | .retryPoll i => some (onRetryCmd i)
  | _ => none

/-- The tests and sleeps: steps that only go to another place. -/
inductive Goes (s : Daemon) : Pc → Prop
  | toWatch (h : s.pc = .mainHead) (hrun : s.running = true) (hmode : s.watchMode = true) :
      Goes s .watchPoll
  | toSession (h : s.pc = .mainHead) (hrun : s.running = true) (hmode : s.watchMode = false) :
      Goes s .findDevice
  | leave (h : s.pc = .mainHead) (hrun : s.running = false) : Goes s .destroyIpc
  | enabled (h : s.pc = .watchTest) (hen : s.watchEnabled = true) : Goes s .findDevice
  | disabled (h : s.pc = .watchTest) (hen : s.watchEnabled = false) : Goes s .idleSleep
  | wake (h : s.pc = .idleSleep) : Goes s .mainHead
  | found (h : s.pc = .findDevice) : Goes s .setUpNetwork
  | notFound (h : s.pc = .findDevice) : Goes s (.sessionReturned s.running)
  | nextRound (h : s.pc = .sessionHead) (hrun : s.running = true) (hbr : s.bridgeRunning = true) :
      Goes s .sessionHead
  | endSession (h : s.pc = .sessionHead) : Goes s .joinThreads
  | announceRetry {re : Bool} (h : s.pc = .sessionReturned re) (hmode : s.watchMode = true)
      (hrun : s.running = true) (hen : s.watchEnabled = true) : Goes s .sayWatching
  | retry {re : Bool} (h : s.pc = .sessionReturned re) (hre : re = true)
      (hen : s.watchMode = true → s.running = true ∧ (s.ipc.isSome && s.watchEnabled) = false) :
      Goes s (.retryHead 0)
  | toMain {re : Bool} (h : s.pc = .sessionReturned re) (hmode : s.watchMode = true) :
      Goes s .mainHead
  | quit {re : Bool} (h : s.pc = .sessionReturned re) (hre : re = false)
      (hmode : s.watchMode = false) : Goes s .destroyIpc
  | retryWatch {i : Nat} (h : s.pc = .retryHead i) (hrun : s.running = true)
      (hmode : s.watchMode = true) (hen : s.watchEnabled = true) : Goes s (.retryPoll i)
  | retryOneShot {i : Nat} (h : s.pc = .retryHead i) (hrun : s.running = true)
      (hmode : s.watchMode = false) : Goes s (.retryChecks i)
  | retryEnd {i : Nat} (h : s.pc = .retryHead i) : Goes s .mainHead
  | retryWake {i : Nat} (h : s.pc = .retrySleep i) : Goes s (.retryHead (i + 1))

/-- What a step of the main thread does: it announces a state, sends the statistics, polls,
    only goes to another place, or is one of the statements that write to the globals. -/
inductive MainCase (r : SysRet) (s : Daemon) : Daemon → Prop
  | announces {st : UiState} {next : Pc} (h : s.pc.announces = some (st, next)) :
      MainCase r s (s.sendState st next)
  | sendsStats (h : s.pc = .sendStats) : MainCase r s (s.sendStats .sessionChecks)
  | polls {t : Daemon} {k : Option IpcCmd → Daemon → Daemon} (hk : s.onPoll = some k)
      (h : s.poll r.poll k = some t) : MainCase r s t
  | goes {next : Pc} (h : s.Goes next) : MainCase r s { s with pc := next }
  | setsUp (h : s.pc = .setUpNetwork) :
      MainCase r s { s with networkBound := true, pc := .sayConnected }
  | startsBridge (h : s.pc = .startBridge) : MainCase r s
      { s with bridgeRunning := true, disconnected := false, lastStats := 0, pc := .sessionHead }
  | statsDue {next : Pc} (h : s.pc = .sessionHead) (hrun : s.running = true)
      (hnext : next = .sendStats ∨ next = .sessionChecks) :
      MainCase r s { s with lastStats := r.now, pc := next }
  | checks (stop : Bool) (h : s.pc = .sessionChecks) : MainCase r s
      { s with
        running := s.running && !stop
        bridgeRunning := s.bridgeRunning && !stop
        pc := .sessionPoll }
  | joins (h : s.pc = .joinThreads) :
      MainCase r s { s with bridgeRunning := false, pc := .sayDisconnected }
  | restores (h : s.pc = .restoreNetwork) : MainCase r s
      { s with networkBound := false, pc := .sessionReturned (s.disconnected && s.running) }
  | checksRetry (stop : Bool) {i : Nat} (h : s.pc = .retryChecks i) :
      MainCase r s { s with running := s.running && !stop, pc := .retryPoll i }
  | destroys (h : s.pc = .destroyIpc) : MainCase r s { s with ipc := none, pc := .atExit }
  | exits (h : s.pc = .atExit) : MainCase r s { s with networkBound := false, pc := .exited }

/-- The main thread leaves the loop of a session. -/
theorem goes_sessionReturned {s : Daemon} {re : Bool} (h : s.pc = .sessionReturned re) :
    s.Goes (if s.watchMode then
        if re && s.running then
          if s.ipc.isSome && s.watchEnabled then .sayWatching else .retryHead 0
        else .mainHead
      else if re then .retryHead 0
      else .destroyIpc) := by
  cases hmode : s.watchMode with
  | true =>
    by_cases hre : (re && s.running) = true
    · obtain ⟨hre', hrun⟩ := Bool.and_eq_true_iff.mp hre
      rw [if_pos rfl, if_pos hre]
      by_cases hen : (s.ipc.isSome && s.watchEnabled) = true
      · rw [if_pos hen]
        exact .announceRetry h hmode hrun (Bool.and_eq_true_iff.mp hen).2
      · rw [if_neg hen]
        exact .retry h hre' fun _ => ⟨hrun, Bool.eq_false_of_not_eq_true hen⟩
    · rw [if_pos rfl, if_neg hre]
      exact .toMain h hmode
  | false =>
    cases re with
    | true => exact .retry h rfl (by simp [hmode])
    | false => exact .quit h rfl hmode

/-- The head of the wait between two sessions. -/
theorem goes_retryHead {s : Daemon} {i : Nat} (h : s.pc = .retryHead i) :
    s.Goes (if i < 6 ∧ s.running then
        if s.watchMode then (if s.watchEnabled then .retryPoll i else .mainHead)
        else .retryChecks i
      else .mainHead) := by
  by_cases hround : i < 6 ∧ s.running = true
  · rw [if_pos hround]
    cases hmode : s.watchMode with
    | false => exact .retryOneShot h hround.2 hmode
    | true =>
      cases hen : s.watchEnabled with
      | true => exact .retryWatch h hround.2 hmode hen
      | false => exact .retryEnd h
  · rw [if_neg hround]
    exact .retryEnd h

/-- **All that a step of the main thread can do.** -/
theorem mainStep_cases {s t : Daemon} {r : SysRet} (h : s.mainStep r = some t) :
    s.MainCase r t := by
  unfold mainStep at h
  cases hpc : s.pc with
  | sayFirstIdle | watchSay | sayConnected | sayDisconnected | sayWatching | retrySayIdle =>
    simp only [hpc, Option.some.injEq] at h
    exact h ▸ .announces (by rw [hpc]; rfl)
  | sendStats =>
    simp only [hpc, Option.some.injEq] at h
    exact h ▸ .sendsStats hpc
  | watchPoll | sessionPoll | retryPoll =>
    simp only [hpc] at h
    exact .polls (by rw [onPoll, hpc]) h
  | mainHead =>
    simp only [hpc, Option.some.injEq] at h
    refine h ▸ .goes ?_
    cases hrun : s.running with
    | false => exact .leave hpc hrun
    | true =>
      cases hmode : s.watchMode with
      | true => exact .toWatch hpc hrun hmode
      | false => exact .toSession hpc hrun hmode
  | watchTest =>
    simp only [hpc, Option.some.injEq] at h
    refine h ▸ .goes ?_
    cases hen : s.watchEnabled with
    | true => exact .enabled hpc hen
    | false => exact .disabled hpc hen
  | findDevice =>
    simp only [hpc, Option.some.injEq] at h
    refine h ▸ .goes ?_
    cases r.deviceReady with
    | true => exact .found hpc
    | false => exact .notFound hpc
  | sessionHead =>
    simp only [hpc] at h
    split at h
    · next hloop =>
      obtain ⟨hrun, hbr⟩ := Bool.and_eq_true_iff.mp hloop
      split at h
      · obtain rfl := Option.some.inj h
        refine .statsDue hpc hrun ?_
        by_cases hlast : s.lastStats > 0
        · exact .inl (if_pos hlast)
        · exact .inr (if_neg hlast)
      · -- around the loop without statistics
        obtain rfl := Option.some.inj h
        have hself : { s with pc := .sessionHead } = s := by rw [← hpc]
        have hgoes : s.MainCase r { s with pc := .sessionHead } := .goes (.nextRound hpc hrun hbr)
        rwa [hself] at hgoes
    · obtain rfl := Option.some.inj h
      exact .goes (.endSession hpc)
  | sessionReturned reconnect =>
    simp only [hpc, Option.some.injEq] at h
    exact h ▸ .goes (goes_sessionReturned hpc)
  | retryHead i =>
    simp only [hpc, Option.some.injEq] at h
    exact h ▸ .goes (goes_retryHead hpc)
  | idleSleep =>
    simp only [hpc, Option.some.injEq] at h
    exact h ▸ .goes (.wake hpc)
  | retrySleep =>
    simp only [hpc, Option.some.injEq] at h
    exact h ▸ .goes (.retryWake hpc)
  | setUpNetwork =>
    simp only [hpc, Option.some.injEq] at h
    exact h ▸ .setsUp hpc
  | startBridge =>
    simp only [hpc, Option.some.injEq] at h
    exact h ▸ .startsBridge hpc
  | sessionChecks =>
    simp only [hpc, Option.some.injEq] at h
    exact h ▸ .checks _ hpc
  | joinThreads =>
    simp only [hpc, Option.some.injEq] at h
    exact h ▸ .joins hpc
  | restoreNetwork =>
    simp only [hpc, Option.some.injEq] at h
    exact h ▸ .restores hpc
  | retryChecks =>
    simp only [hpc, Option.some.injEq] at h
    exact h ▸ .checksRetry _ hpc
  | destroyIpc =>
    simp only [hpc, Option.some.injEq] at h
    exact h ▸ .destroys hpc
  | atExit =>
    simp only [hpc, Option.some.injEq] at h
    exact h ▸ .exits hpc
  | exited | killed => simp [hpc] at h

/-! ### Broadcasts that end the process -/

/-- The server whose clients the next step of the main thread writes to. -/
def audience (s : Daemon) : Option IpcServer :=
  match s.pc with
  | .sayFirstIdle | .watchSay _ | .sayConnected | .sayDisconnected | .sayWatching
  | .retrySayIdle _ => s.ipc
  | .sendStats => s.ipc.filter fun srv => srv.numClients ≠ 0
  | _ => none

/-- The next step of the main thread writes to a client that has gone. -/
def brokenPipe (s : Daemon) : Bool := s.audience.any s.sockets.hungUp

/-- The process has not ended with the network still modified. -/
def networkRestored (s : Daemon) : Bool := !(s.pc.ended && s.networkBound)

/-- A step that is not a broadcast to a client that has gone with `g_network_bound` set. -/
def quiet (s : Daemon) : Action → Bool
  | .main _ => !(s.networkBound && s.brokenPipe)
  | _ => true

/-! ### The end of the process -/

variable {s t : Daemon}

/-- A broadcast ends the process exactly when a client has gone; otherwise the thread goes
    on to `next`. -/
theorem sendToAll_networkRestored {srv : IpcServer} {next : Pc} (hnext : next.ended = false) :
    (sendToAll srv next s).networkRestored = !(s.networkBound && s.sockets.hungUp srv) := by
  unfold sendToAll
  split
  · next h => simp [networkRestored, Pc.ended, h]
  · next h => simp [networkRestored, hnext, h]

/-- Sending a state leaves the network modified only where it kills the process. -/
theorem sendState_networkRestored {st : UiState} {next : Pc} (hnext : next.ended = false) :
    (s.sendState st next).networkRestored =
      !(s.networkBound && s.ipc.any s.sockets.hungUp) := by
  unfold sendState
  split
  · next h => simp [networkRestored, hnext, h]
  · next srv h =>
    rw [sendToAll_networkRestored hnext, h, Option.any_some]

/-- So does sending statistics. -/
theorem sendStats_networkRestored {next : Pc} (hnext : next.ended = false) :
    (s.sendStats next).networkRestored =
      !(s.networkBound &&
        (s.ipc.filter fun srv => srv.numClients ≠ 0).any s.sockets.hungUp) := by
  unfold sendStats
  split
  · next h => simp [networkRestored, hnext, h]
  · next srv h =>
    split
    · next hnone => simp [networkRestored, hnext, h, hnone]
    · next hsome => simp [sendToAll_networkRestored hnext, h, hsome]

/-- A poll goes on with a state that differs in the server, the sockets and the commands. -/
theorem poll_networkRestored {inp : PollInput} {k : Option IpcCmd → Daemon → Daemon}
    (hk : ∀ cmd s, (k cmd s).pc.ended = false) (h : s.poll inp k = some t) :
    t.networkRestored = true := by
  have hended : t.pc.ended = false := by
    unfold poll at h
    split at h
    · cases h
      exact hk _ _
    · split at h
      · cases h
        exact hk _ _
      · cases h
  simp [networkRestored, hended]

/-- What is done with the result of a poll does not end the process. -/
theorem onPoll_ended {k : Option IpcCmd → Daemon → Daemon} (hk : s.onPoll = some k)
    (cmd : Option IpcCmd) (u : Daemon) : (k cmd u).pc.ended = false := by
  unfold onPoll at hk
  split at hk
  · cases hk
    rcases cmd with _ | _ | _ | _ <;> rfl
  · cases hk
    rcases cmd with _ | _ | _ | _ <;> rfl
  · cases hk
    unfold onRetryCmd
    split <;> rcases cmd with _ | _ | _ | _ <;> rfl
  · cases hk

/-- An announcement goes to all clients, and does not end the process by itself. -/
theorem audience_of_announces {st : UiState} {next : Pc} (h : s.pc.announces = some (st, next)) :
    s.audience = s.ipc ∧ next.ended = false := by
  unfold Pc.announces at h
  unfold audience
  cases hpc : s.pc <;> simp only [hpc, Option.some.injEq, Prod.mk.injEq, reduceCtorEq] at h ⊢ <;>
    obtain ⟨-, rfl⟩ := h <;> exact ⟨trivial, rfl⟩

/-- A poll writes to no client. -/
theorem audience_of_onPoll {k : Option IpcCmd → Daemon → Daemon} (hk : s.onPoll = some k) :
    s.audience = none := by
  unfold onPoll at hk
  unfold audience
  cases hpc : s.pc <;> simp [hpc] at hk ⊢

/-- Tests and sleeps write to no client, and do not end the process. -/
theorem Goes.audience {next : Pc} (h : s.Goes next) : s.audience = none ∧ next.ended = false := by
  unfold Daemon.audience
  cases h <;> simp [*, Pc.ended]

/-- A step that writes to no client, and does not end the process with the network modified. -/
theorem networkRestored_of_quiet (haudience : s.audience = none)
    (h : t.pc.ended = false ∨ t.networkBound = false) :
    t.networkRestored = !(s.networkBound && s.brokenPipe) := by
  rcases h with h | h <;> simp [networkRestored, brokenPipe, haudience, h]

/-- A step of the main thread ends the process with the network modified exactly when it is a
    broadcast to a client that has gone. -/
theorem mainStep_networkRestored {r : SysRet} (h : s.mainStep r = some t) :
    t.networkRestored = !(s.networkBound && s.brokenPipe) := by
  replace h := mainStep_cases h
  cases h with
  | announces h =>
    obtain ⟨haudience, hnext⟩ := audience_of_announces h
    rw [sendState_networkRestored hnext, brokenPipe, haudience]
  | sendsStats h =>
    -- without a client counted in `num_clients` nothing is written
    rw [sendStats_networkRestored rfl, brokenPipe, audience, h]
  | polls hk h =>
    simp [poll_networkRestored (onPoll_ended hk) h, brokenPipe, audience_of_onPoll hk]
  | goes h => exact networkRestored_of_quiet h.audience.1 (.inl h.audience.2)
  | statsDue h hrun hnext =>
    refine networkRestored_of_quiet (by rw [audience, h]) (.inl ?_)
    rcases hnext with rfl | rfl <;> rfl
  | exits h => exact networkRestored_of_quiet (by rw [audience, h]) (.inr rfl)
  | setsUp h | startsBridge h | checks _ h | joins h | restores h | checksRetry _ h | destroys h =>
    exact networkRestored_of_quiet (by rw [audience, h]) (.inl rfl)

/-- **What a client, a signal or a bridge thread does** is seen in the sockets, in `g_running`
    and in the flags of the session, where nothing starts again that was stopped. -/
theorem step_of_env {a : Action} (ha : ∀ r, a ≠ .main r) (h : s.step a = some t) :
    ∃ sockets running bridgeRunning disconnected,
      t = { s with
        sockets := sockets
        running := running
        bridgeRunning := bridgeRunning
        disconnected := disconnected } ∧
      (running = true → s.running = true) ∧ (bridgeRunning = true → s.bridgeRunning = true) := by
  unfold step at h
  cases a with
  | main r => exact absurd rfl (ha r)
  | connect | send | close =>
    simp only at h
    split at h
    · cases h
    · obtain rfl := Option.some.inj h
      exact ⟨_, s.running, s.bridgeRunning, s.disconnected, rfl, id, id⟩
  | signal =>
    simp only at h
    split at h
    · cases h
    · obtain rfl := Option.some.inj h
      exact ⟨s.sockets, false, s.bridgeRunning, s.disconnected, rfl, nofun, id⟩
  | bridgeDown disconnected =>
    simp only at h
    split at h
    · obtain rfl := Option.some.inj h
      exact ⟨s.sockets, s.running, false, _, rfl, id, nofun⟩
    · cases h

/-- A step from a state where the network is not left modified. -/
theorem step_networkRestored {a : Action} (hs : s.networkRestored = true)
    (h : s.step a = some t) : t.networkRestored = s.quiet a := by
  cases a with
  | main r => exact mainStep_networkRestored h
  | connect | send | close | signal | bridgeDown =>
    obtain ⟨_, _, _, _, rfl, -, -⟩ := step_of_env (by simp) h
    exact hs

/-- **A UI client can take the daemon down with the network modified** by leaving just before
    a broadcast, and in no other way: in a run, the process never ends with `g_network_bound`
    set if and only if no broadcast made while it is set meets a client that has gone. -/
theorem networkRestored_iff (watchMode hasIpc : Bool) {l : List (Daemon × Action)}
    (h : Run step (start watchMode hasIpc) l t) :
    (t.networkRestored = true ∧ ∀ p ∈ l, p.1.networkRestored = true) ↔
      ∀ p ∈ l, p.1.quiet p.2 = true := by
  refine h.good_iff (fun s => s.networkRestored = true) (fun s a => s.quiet a = true) ?_
    fun l s a t _ hs hst => ?_
  · cases watchMode <;> rfl
  · rw [step_networkRestored hs hst]

/-- A poll that accepts `accept` and reads `first` from the first slot. -/
def pollOf (accept : Option Fd) (first : ReadResult) : PollInput :=
  ⟨accept, fun i => if i.val = 0 then first else .again⟩

/-- A step of the main thread at time `now`, with a device there. -/
def mainAt (now : Int) (inp : PollInput) : Action := .main ⟨true, now, false, false, inp⟩

/-- A session begins, a client connects and the first poll of the session accepts it. -/
def firstPoll : List Action :=
  -- the device, the network, the first message, the bridge
  List.replicate 5 (mainAt 1 (pollOf none .again)) ++
  .connect :: List.replicate 3 (mainAt 1 (pollOf (some 0) .again))

/-- The line a client sends to stop the session. -/
def stopLine : Chunk :=
  ⟨"\x7b\"type\":\"stop\"\x7d\n".toList, by decide, by decide⟩

/-- The client asks for an end of the session and stays until the daemon has ended. -/
def stoppedRun : List Action :=
  firstPoll ++ .send 0 stopLine.bytes ::
    List.replicate 11 (mainAt 2 (pollOf none (.data stopLine)))

/-- The client leaves after the first poll, and the next statistics are due. -/
def hungUpRun : List Action :=
  firstPoll ++ .close 0 :: List.replicate 2 (mainAt 2 (pollOf none .eof))

/-- A session that a client stops ends with the network restored. -/
theorem networkRestored_stoppedRun :
    ∃ l t, Run step (start false true) l t ∧ t.pc = .exited ∧ t.networkRestored = true := by
  obtain ⟨l, t, hrun, hquiet, hexited⟩ :=
    exists_run_of_exec step quiet (fun t => t.pc == .exited) (start false true) stoppedRun
      (by decide +kernel)
  exact ⟨l, t, hrun, eq_of_beq hexited,
    ((networkRestored_iff false true hrun).mpr hquiet).1⟩

/-- The statistics of the next second end the process with the network modified. -/
theorem not_networkRestored :
    ¬ ∀ (watchMode hasIpc : Bool) (l : List (Daemon × Action)) (t : Daemon),
      Run step (start watchMode hasIpc) l t → t.networkRestored = true := by
  intro hall
  obtain ⟨l, t, hrun, -, hbad⟩ :=
    exists_run_of_exec step (fun _ _ => true) (fun t => !t.networkRestored) (start false true)
      hungUpRun (by decide +kernel)
  simp [hall false true l t hrun] at hbad

end Daemon

end AndroidTether
