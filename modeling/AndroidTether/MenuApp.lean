import AndroidTether.UiClient
import AndroidTether.IpcSend
import AndroidTether.MainLoops

namespace AndroidTether

open Trans

/-!
# The menu

`AppDelegate` of `MenuApp.swift`, around the `IPCClient` of `UiClient`: the timer, the menu
items and what they send to the daemon.  `onStats` and `onState` do not change the menu
themselves, they put a block on the main queue; everything runs on the main thread, one event
after the other.

* `AppDelegate.step` — a tick of the timer, a block of the main queue or a click;
* `menu_run` — what the menu shows and what the daemon was told, over any run.
-/

/-- `%d` and `%02d` -/
def formatInt (n : Int) : List Char := if n < 0 then '-' :: decimal n.natAbs else decimal n.natAbs

def formatInt2 (n : Int) : List Char :=
  if 0 ≤ n ∧ n < 10 then '0' :: formatInt n else formatInt n

/-- The texts of `updateDisplay`, which print floating-point numbers. -/
structure StatsTexts (Double : Type) where
  button : Stats Double → List Char
  stats : Stats Double → List Char
  totalData : Stats Double → List Char

/-- The menu items and the button that the program changes. -/
structure Menu where
  buttonTitle : List Char
  stateTitle : List Char
  durationTitle : List Char
  statsTitle : List Char
  totalDataTitle : List Char
  startHidden : Bool
  stopHidden : Bool
  statsHidden : Bool
  totalDataHidden : Bool
  durationHidden : Bool
  autoConnectOn : Bool

/-- What `DispatchQueue.main.async` is given. -/
inductive MainBlock (Double : Type) where
  | updateDisplay (stats : Stats Double)
  | updateState (state : List Char) (ip iface : Option (List Char))

/-- `AppDelegate`.  A `Date` is a number of microseconds. -/
structure AppDelegate (Double : Type) where
  ipcClient : IPCClient
  connectionState : List Char
  connectedSince : Option Int
  menu : Menu
  ipcFailCount : Nat
  /-- `UserDefaults`, under `autoConnect` -/
  autoConnectEnabled : Bool
  /-- the main queue, the oldest block first -/
  mainQueue : List (MainBlock Double)
  terminated : Bool
  /-- the commands `write` was called with since `connect`, the latest first; the program ignores
      what `write` returns.  For statements about runs -/
  written : List IpcCmd

/-- The menu of `buildMenu`. -/
def Menu.build (autoConnect : Bool) : Menu where
  buttonTitle := "⚡ Tether".toList
  stateTitle := "⏹ Disconnected".toList
  durationTitle := []
  statsTitle := []
  totalDataTitle := []
  startHidden := false
  stopHidden := true
  statsHidden := true
  totalDataHidden := true
  durationHidden := true
  autoConnectOn := autoConnect

/-- The menu of `watching`, `idle` and `disconnected`, which differ in titles and buttons. -/
def Menu.inactive (stateTitle buttonTitle : List Char) (startHidden stopHidden : Bool)
    (menu : Menu) : Menu :=
  { menu with
    stateTitle := stateTitle
    buttonTitle := buttonTitle
    statsHidden := true
    totalDataHidden := true
    durationHidden := true
    startHidden := startHidden
    stopHidden := stopHidden }

/-- What happens: the timer with the time, what `connect` and `read` do; the next block of the
    main queue; a click on a menu item; Quit. -/
inductive UiEvent where
  | tick (now : Int) (connect : Option Fd) (read : SockRead)
  | block (now : Int)
  | startTethering (connect : Option Fd)
  | stopTethering
  | toggleAutoConnect (connect : Option Fd)
  | quitApp

/-- A tick of the timer. -/
def UiEvent.isTick : UiEvent → Bool
  | tick _ _ _ => true
  | _ => false

/-- The connection that an event could make. -/
def UiEvent.connect : UiEvent → Option Fd
  | tick _ conn _ => conn
  | startTethering conn => conn
  | toggleAutoConnect conn => conn
  | _ => none

namespace AppDelegate

variable {Double : Type}

/-- After `applicationDidFinishLaunching`. -/
def launched (autoConnect : Bool) : AppDelegate Double where
  ipcClient := ⟨none, [], 0, 0⟩
  connectionState := "disconnected".toList
  connectedSince := none
  menu := .build autoConnect
  ipcFailCount := 0
  autoConnectEnabled := autoConnect
  mainQueue := []
  terminated := false
  written := []

/-! ### The connection -/

/-- `ipcClient.connect()`, when it succeeds. -/
def connect (fd : Fd) (s : AppDelegate Double) : AppDelegate Double :=
  { s with ipcClient := .connected fd s.ipcClient.eofCount, written := [] }

/-- `ipcClient.sendCommand(_:)` -/
def sendCommand (command : IpcCmd) (s : AppDelegate Double) : AppDelegate Double :=
  if s.ipcClient.sockFd.isSome then { s with written := command :: s.written } else s

/-- `if ipcClient.isConnected { send } else if ipcClient.connect() { send }` -/
def sendOrConnect (conn : Option Fd) (command : IpcCmd) (s : AppDelegate Double) :
    AppDelegate Double :=
  if s.ipcClient.sockFd.isSome then s.sendCommand command
  else
    match conn with
    | some fd => (s.connect fd).sendCommand command
    | none => s

/-! ### Display -/

/-- `[ip, iface].compactMap { $0 }.joined(separator: " on ")` -/
def info (ip iface : Option (List Char)) : List Char :=
  (List.intersperse " on ".toList [ip, iface].reduceOption).flatten

/-- `updateDisplay(stats:)` -/
def updateDisplay (texts : StatsTexts Double) (stats : Stats Double) (s : AppDelegate Double) :
    AppDelegate Double :=
  { s with menu := { s.menu with
      buttonTitle := texts.button stats
      statsTitle := texts.stats stats
      totalDataTitle := texts.totalData stats
      statsHidden := false
      totalDataHidden := false } }

/-- `updateState(state:ip:iface:)` -/
def updateState (now : Int) (state : List Char) (ip iface : Option (List Char))
    (s : AppDelegate Double) : AppDelegate Double :=
  let s := { s with connectionState := state }
  if state = "connected".toList then
    { s with
      menu := { s.menu with
        stateTitle :=
          if info ip iface = [] then "✅ Connected".toList
          else "✅ Connected: ".toList ++ info ip iface
        buttonTitle := "📶 Connected".toList
        startHidden := true
        stopHidden := false }
      connectedSince := s.connectedSince.or (some now) }
  else if state = "connecting".toList then
    { s with
      menu := { s.menu with
        stateTitle := "⏳ Connecting...".toList
        buttonTitle := "⏳ Connecting...".toList
        startHidden := true
        stopHidden := false } }
  else if state = "watching".toList then
    { s with
      menu := s.menu.inactive "👀 Watching for device...".toList "⚡ Watching".toList true false
      connectedSince := none }
  else if state = "idle".toList then
    { s with
      menu := s.menu.inactive "⏹ Ready".toList "⚡ Tether".toList false true
      connectedSince := none }
  else if state = "disconnected".toList then
    { s with
      menu := s.menu.inactive "⏹ Disconnected".toList "⚡ Tether".toList false true
      connectedSince := none
      ipcClient := s.ipcClient.disconnect }
  else { s with menu := { s.menu with stateTitle := state } }

/-- A block of the main queue. -/
def runBlock (texts : StatsTexts Double) (now : Int) (s : AppDelegate Double) :
    MainBlock Double → AppDelegate Double
  | .updateDisplay stats => s.updateDisplay texts stats
  | .updateState state ip iface => s.updateState now state ip iface

/-- The first part of `tick`: the text of the duration. -/
def updateDuration (now : Int) (s : AppDelegate Double) : AppDelegate Double :=
  match s.connectedSince with
  | none => s
  | some since =>
    let elapsed := (now - since).tdiv 1000000
    let hours := elapsed.tdiv 3600
    let minutes := (elapsed.tmod 3600).tdiv 60
    let seconds := elapsed.tmod 60
    { s with menu := { s.menu with
        durationTitle := "⏱ Connected ".toList ++
          if hours > 0 then
            formatInt hours ++ ":".toList ++ formatInt2 minutes ++ ":".toList ++ formatInt2 seconds
          else formatInt minutes ++ ":".toList ++ formatInt2 seconds
        durationHidden := false } }

end AppDelegate

/-- The block that a callback of `poll` puts on the main queue. -/
def UiCall.block {Double : Type} : UiCall Double → Option (MainBlock Double)
  | .decode _ => none
  | .onStats stats => some (.updateDisplay stats)
  | .onState state ip iface => some (.updateState state ip iface)

namespace AppDelegate

variable {Double : Type}

/-! ### Events -/

section Step

variable (decode : List UInt8 → Option (IPCMessage Double)) (texts : StatsTexts Double)

/-- `tick` -/
def tick (now : Int) (conn : Option Fd) (read : SockRead) (s : AppDelegate Double) :
    AppDelegate Double :=
  let s := s.updateDuration now
  if s.ipcClient.sockFd.isSome then
    let (client, calls) := IPCClient.poll decode s.ipcClient read
    { s with
      ipcClient := client
      mainQueue := s.mainQueue ++ calls.filterMap UiCall.block
      ipcFailCount := 0 }
  else
    match conn with
    | some fd =>
      let s := { s.connect fd with ipcFailCount := 0 }
      if s.autoConnectEnabled then s.sendCommand .enable else s
    | none =>
      let s := { s with ipcFailCount := s.ipcFailCount + 1 }
      if s.connectionState ≠ "disconnected".toList ∧ s.ipcFailCount ≥ 3 then
        s.updateState now "disconnected".toList none none
      else s

/-- `stopTethering` -/
def stopTethering (s : AppDelegate Double) : AppDelegate Double :=
  if s.ipcClient.sockFd.isSome then
    if s.autoConnectEnabled then s.sendCommand .stop else s.sendCommand .disable
  else s

/-- `toggleAutoConnect(_:)` -/
def toggleAutoConnect (conn : Option Fd) (s : AppDelegate Double) : AppDelegate Double :=
  let newValue := !s.autoConnectEnabled
  let s := { s with
    autoConnectEnabled := newValue
    menu := { s.menu with autoConnectOn := newValue } }
  s.sendOrConnect conn (if newValue then .enable else .disable)

/-- One event. -/
def step (s : AppDelegate Double) (e : UiEvent) : Option (AppDelegate Double) :=
  if s.terminated then none
  else
    match e with
    | .tick now conn read => some (s.tick decode now conn read)
    | .block now =>
      match s.mainQueue with
      | [] => none
      | b :: rest => some ({ s with mainQueue := rest }.runBlock texts now b)
    | .startTethering conn => some (s.sendOrConnect conn .enable)
    | .stopTethering => some s.stopTethering
    | .toggleAutoConnect conn => some (s.toggleAutoConnect conn)
    | .quitApp => some { s with ipcClient := s.ipcClient.disconnect, terminated := true }

end Step

/-! ### What `updateState` does -/

/-- Whether a session runs or is looked for, in the states that `updateState` knows. -/
def activeIn (state : List Char) : Option Bool :=
  if state = "connected".toList ∨ state = "connecting".toList ∨ state = "watching".toList then
    some true
  else if state = "idle".toList ∨ state = "disconnected".toList then some false
  else none

/-- The states in which no session has a duration. -/
def sessionless (state : List Char) : Bool :=
  state = "watching".toList ∨ state = "idle".toList ∨ state = "disconnected".toList

/-- `updateState`, field by field, without the titles. -/
structure Updated (now : Int) (state : List Char) (s t : AppDelegate Double) : Prop where
  connectionState : t.connectionState = state
  connectedSince : t.connectedSince =
    if state = "connected".toList then s.connectedSince.or (some now)
    else if sessionless state then none
    else s.connectedSince
  startHidden : t.menu.startHidden = (activeIn state).getD s.menu.startHidden
  stopHidden : t.menu.stopHidden = ((activeIn state).map not).getD s.menu.stopHidden
  durationHidden : t.menu.durationHidden = (sessionless state || s.menu.durationHidden)
  autoConnectOn : t.menu.autoConnectOn = s.menu.autoConnectOn
  autoConnectEnabled : t.autoConnectEnabled = s.autoConnectEnabled
  sockFd : t.ipcClient.sockFd =
    if state = "disconnected".toList then none else s.ipcClient.sockFd
  readBuffer : t.ipcClient.readBuffer =
    if state = "disconnected".toList then [] else s.ipcClient.readBuffer
  mainQueue : t.mainQueue = s.mainQueue
  terminated : t.terminated = s.terminated
  written : t.written = s.written

/-- What `updateState` changes. -/
theorem updateState_updated (now : Int) (state : List Char) (ip iface : Option (List Char))
    (s : AppDelegate Double) : Updated now state s (s.updateState now state ip iface) := by
  by_cases h₁ : state = "connected".toList
  · subst h₁
    exact ⟨rfl, rfl, rfl, rfl, rfl, rfl, rfl, rfl, rfl, rfl, rfl, rfl⟩
  by_cases h₂ : state = "connecting".toList
  · subst h₂
    exact ⟨rfl, rfl, rfl, rfl, rfl, rfl, rfl, rfl, rfl, rfl, rfl, rfl⟩
  by_cases h₃ : state = "watching".toList
  · subst h₃
    exact ⟨rfl, rfl, rfl, rfl, rfl, rfl, rfl, rfl, rfl, rfl, rfl, rfl⟩
  by_cases h₄ : state = "idle".toList
  · subst h₄
    exact ⟨rfl, rfl, rfl, rfl, rfl, rfl, rfl, rfl, rfl, rfl, rfl, rfl⟩
  by_cases h₅ : state = "disconnected".toList
  · subst h₅
    exact ⟨rfl, rfl, rfl, rfl, rfl, rfl, rfl, rfl, rfl, rfl, rfl, rfl⟩
  -- a state it does not know is shown as it is
  have hactive : activeIn state = none := by
    simp only [activeIn, h₁, h₂, h₃, h₄, h₅, or_self, if_false]
  have hless : sessionless state = false := by
    simp only [sessionless, h₃, h₄, h₅, or_self, decide_false]
  constructor <;>
    simp only [updateState, h₁, h₂, h₃, h₄, h₅, hactive, hless, if_false, Option.getD_none,
      Option.map_none, Bool.false_or, Bool.false_eq_true]

/-! ### What every event keeps -/

/-- The last switch written on the connection is the setting, when that is on. -/
def Told (s : AppDelegate Double) : Prop :=
  s.autoConnectEnabled = true → s.ipcClient.sockFd.isSome = true →
    Daemon.latestSwitch s.written = some .enable

/-- The menu and what the daemon was told agree with the state and the settings. -/
structure Consistent (s : AppDelegate Double) : Prop where
  exclusive : s.menu.stopHidden = !s.menu.startHidden
  buttons : ∀ active, activeIn s.connectionState = some active → s.menu.startHidden = active
  connected : s.connectionState = "connected".toList → s.connectedSince.isSome = true
  sessionless : sessionless s.connectionState = true → s.connectedSince = none
  duration : s.menu.durationHidden = false → s.connectedSince.isSome = true
  autoConnect : s.menu.autoConnectOn = s.autoConnectEnabled
  told : Told s

/-- The menu is consistent when it is launched. -/
theorem consistent_launched (autoConnect : Bool) :
    Consistent (launched autoConnect : AppDelegate Double) where
  exclusive := rfl
  buttons _ h := Option.some.inj h
  connected h := absurd (show "disconnected".toList = _ from h) (by decide)
  sessionless _ := rfl
  duration h := absurd (show true = false from h) (by decide)
  autoConnect := rfl
  told _ h := absurd (show false = true from h) (by decide)

variable {s t : AppDelegate Double}

/-- A state that arrives. -/
theorem Consistent.of_updated (hs : Consistent s) {now : Int} {state : List Char}
    (ht : Updated now state s t) : Consistent t where
  exclusive := by
    rw [ht.stopHidden, ht.startHidden, hs.exclusive]
    cases activeIn state <;> rfl
  buttons active h := by
    rw [ht.connectionState] at h
    rw [ht.startHidden, h]
    rfl
  connected h := by
    rw [ht.connectionState] at h
    rw [ht.connectedSince, if_pos h]
    simp
  sessionless h := by
    rw [ht.connectionState] at h
    have hne : state ≠ "connected".toList := by
      rintro rfl
      exact absurd h (by decide)
    rw [ht.connectedSince, if_neg hne, if_pos h]
  duration h := by
    rw [ht.durationHidden, Bool.or_eq_false_iff] at h
    have hsince := hs.duration h.2
    rw [ht.connectedSince, h.1]
    split
    · simp
    · exact hsince
  autoConnect := by rw [ht.autoConnectOn, ht.autoConnectEnabled, hs.autoConnect]
  told hon hsock := by
    rw [ht.autoConnectEnabled] at hon
    rw [ht.sockFd] at hsock
    rw [ht.written]
    split at hsock
    · cases hsock
    · exact hs.told hon hsock

/-- Steps that touch the connection and the queue only. -/
theorem Consistent.connection (hs : Consistent s) {client : IPCClient} {written : List IpcCmd}
    {queue : List (MainBlock Double)} {fails : Nat}
    (told : s.autoConnectEnabled = true → client.sockFd.isSome = true →
      Daemon.latestSwitch written = some .enable) :
    Consistent { s with
      ipcClient := client
      written := written
      mainQueue := queue
      ipcFailCount := fails } :=
  ⟨hs.exclusive, hs.buttons, hs.connected, hs.sessionless, hs.duration, hs.autoConnect, told⟩

/-- A switch that is sent, if there is a connection or one can be made. -/
theorem sendOrConnect_eq (conn : Option Fd) {command : IpcCmd} (hcommand : command ≠ .stop)
    (s : AppDelegate Double) :
    ∃ client written, s.sendOrConnect conn command =
        { s with ipcClient := client, written := written } ∧
      (client.sockFd.isSome = true → Daemon.latestSwitch written = some command) ∧
      (s.ipcClient.sockFd.isSome = true → client = s.ipcClient) ∧
      (s.ipcClient.sockFd = none → conn = none → client.sockFd = none) := by
  have hlatest : ∀ l, Daemon.latestSwitch (command :: l) = some command := fun l => by
    simp [Daemon.latestSwitch, hcommand]
  unfold sendOrConnect
  cases hsock : s.ipcClient.sockFd with
  | some fd =>
    have hsome : (some fd).isSome = true := rfl
    rw [if_pos hsome, sendCommand, hsock, if_pos hsome]
    exact ⟨s.ipcClient, command :: s.written, rfl, fun _ => hlatest _, fun _ => rfl, by simp⟩
  | none =>
    rw [if_neg (by simp)]
    cases conn with
    | some fd => exact ⟨_, _, rfl, fun _ => hlatest [], by simp, by simp⟩
    | none =>
      exact ⟨s.ipcClient, s.written, rfl, fun h => by simp [hsock] at h, fun _ => rfl,
        fun _ _ => hsock⟩

/-- The duration is shown in a session only. -/
theorem updateDuration_eq (now : Int) (s : AppDelegate Double) :
    s.updateDuration now = s ∨ s.connectedSince.isSome = true ∧ ∃ title,
      s.updateDuration now =
        { s with menu := { s.menu with durationTitle := title, durationHidden := false } } := by
  unfold updateDuration
  split
  · exact .inl rfl
  · rename_i hsince
    exact .inr ⟨hsince ▸ rfl, _, rfl⟩

/-- The duration is a text of its own. -/
theorem Consistent.updateDuration (hs : Consistent s) (now : Int) :
    Consistent (s.updateDuration now) := by
  rcases updateDuration_eq now s with heq | ⟨hsince, title, heq⟩ <;> rw [heq]
  · exact hs
  · exact ⟨hs.exclusive, hs.buttons, hs.connected, hs.sessionless, fun _ => hsince,
      hs.autoConnect, hs.told⟩

/-- So are the statistics. -/
theorem Consistent.updateDisplay (hs : Consistent s) (texts : StatsTexts Double)
    (stats : Stats Double) : Consistent (s.updateDisplay texts stats) :=
  ⟨hs.exclusive, hs.buttons, hs.connected, hs.sessionless, hs.duration, hs.autoConnect, hs.told⟩

section Step

variable {decode : List UInt8 → Option (IPCMessage Double)} {texts : StatsTexts Double}

/-- **What a tick does**, after the text of the duration: it polls the connection, or makes one
    and sends the setting, or counts a failure, and the third one in a row counts as a lost
    daemon. -/
theorem tick_cases (decode : List UInt8 → Option (IPCMessage Double)) (now : Int)
    (conn : Option Fd) (read : SockRead) (s : AppDelegate Double) :
    s.ipcClient.sockFd.isSome = true ∧ s.tick decode now conn read =
        { s.updateDuration now with
          ipcClient := (IPCClient.poll decode s.ipcClient read).1
          mainQueue := s.mainQueue ++
            (IPCClient.poll decode s.ipcClient read).2.filterMap UiCall.block
          ipcFailCount := 0 } ∨
      (s.ipcClient.sockFd = none ∧ ∃ fd, conn = some fd ∧ s.tick decode now conn read =
        { s.updateDuration now with
          ipcClient := .connected fd s.ipcClient.eofCount
          written := if s.autoConnectEnabled then [.enable] else []
          ipcFailCount := 0 }) ∨
      s.ipcClient.sockFd = none ∧ conn = none ∧ ∃ t, t =
          { s.updateDuration now with ipcFailCount := s.ipcFailCount + 1 } ∧
        (s.tick decode now conn read = t ∧
            (s.connectionState = "disconnected".toList ∨ s.ipcFailCount + 1 < 3) ∨
          s.tick decode now conn read = t.updateState now "disconnected".toList none none) := by
  -- the duration is a text of its own
  have hsame : (s.updateDuration now).ipcClient = s.ipcClient ∧
      (s.updateDuration now).mainQueue = s.mainQueue ∧
      (s.updateDuration now).autoConnectEnabled = s.autoConnectEnabled ∧
      (s.updateDuration now).ipcFailCount = s.ipcFailCount ∧
      (s.updateDuration now).connectionState = s.connectionState := by
    rcases updateDuration_eq now s with heq | ⟨-, title, heq⟩ <;> rw [heq] <;>
      exact ⟨rfl, rfl, rfl, rfl, rfl⟩
  obtain ⟨hclient, hqueue, hauto, hfails, hstate⟩ := hsame
  unfold tick
  simp only [hclient, hqueue, hfails, hstate]
  cases hsock : s.ipcClient.sockFd with
  | some fd => exact .inl ⟨rfl, rfl⟩
  | none =>
    cases conn with
    | some fd =>
      refine .inr (.inl ⟨rfl, fd, rfl, ?_⟩)
      simp only [connect, hauto, hclient, hqueue, hstate]
      cases s.autoConnectEnabled <;> rfl
    | none =>
      refine .inr (.inr ⟨rfl, rfl, _, rfl, ?_⟩)
      -- the third failure in a row shows it
      by_cases hlost : s.connectionState ≠ "disconnected".toList ∧ s.ipcFailCount + 1 ≥ 3
      · exact .inr (if_pos hlost)
      · refine .inl ⟨if_neg hlost, ?_⟩
        rw [not_and_or, not_not, ge_iff_le, Nat.not_le] at hlost
        exact hlost

/-- A tick keeps the menu consistent. -/
theorem Consistent.tick (hs : Consistent s) (now : Int) (conn : Option Fd) (read : SockRead) :
    Consistent (s.tick decode now conn read) := by
  have hs' := hs.updateDuration now
  have hauto : (s.updateDuration now).autoConnectEnabled = s.autoConnectEnabled ∧
      (s.updateDuration now).written = s.written ∧
      (s.updateDuration now).ipcClient = s.ipcClient := by
    rcases updateDuration_eq now s with heq | ⟨-, title, heq⟩ <;> rw [heq] <;>
      exact ⟨rfl, rfl, rfl⟩
  obtain ⟨hauto, hwritten, hclient⟩ := hauto
  rcases tick_cases decode now conn read s with ⟨hsock, heq⟩ | ⟨hsock, fd, rfl, heq⟩ |
      ⟨hsock, rfl, t, rfl, heq⟩
  · rw [heq]
    exact hs'.connection fun hon _ => hs'.told hon (hclient ▸ hsock)
  · -- a new connection begins with the setting
    rw [heq]
    refine hs'.connection fun hon _ => ?_
    rw [if_pos (hauto.symm.trans hon)]
    rfl
  · have hs'' : Consistent { s.updateDuration now with ipcFailCount := s.ipcFailCount + 1 } :=
      hs'.connection hs'.told
    rcases heq with ⟨heq, -⟩ | heq <;> rw [heq]
    · exact hs''
    · exact hs''.of_updated (updateState_updated ..)

/-- What a click leaves alone. -/
structure Clicked (e : UiEvent) (s t : AppDelegate Double) : Prop where
  connectionState : t.connectionState = s.connectionState
  connectedSince : t.connectedSince = s.connectedSince
  startHidden : t.menu.startHidden = s.menu.startHidden
  stopHidden : t.menu.stopHidden = s.menu.stopHidden
  durationHidden : t.menu.durationHidden = s.menu.durationHidden
  mainQueue : t.mainQueue = s.mainQueue
  ipcFailCount : t.ipcFailCount = s.ipcFailCount
  setting : s.menu.autoConnectOn = s.autoConnectEnabled →
    t.menu.autoConnectOn = t.autoConnectEnabled
  told : Told s → Told t
  connected : s.ipcClient.sockFd.isSome = true → t.ipcClient.sockFd.isSome = true →
    t.ipcClient = s.ipcClient
  unconnected : s.ipcClient.sockFd = none → e.connect = none → t.ipcClient.sockFd = none

/-- A click on Stop. -/
theorem clicked_stopTethering (s : AppDelegate Double) :
    Clicked .stopTethering s s.stopTethering := by
  have hsame : Clicked .stopTethering s s :=
    ⟨rfl, rfl, rfl, rfl, rfl, rfl, rfl, id, id, fun _ _ => rfl, fun h _ => h⟩
  unfold stopTethering sendCommand
  cases hsock : s.ipcClient.sockFd with
  | none => exact hsame
  | some fd =>
    have hsome : (some fd).isSome = true := rfl
    rw [if_pos hsome, if_pos hsome, if_pos hsome]
    split
    · -- a stop is no switch
      exact ⟨rfl, rfl, rfl, rfl, rfl, rfl, rfl, id, id, fun _ _ => rfl, fun h _ => h⟩
    · rename_i hoff
      exact ⟨rfl, rfl, rfl, rfl, rfl, rfl, rfl, id, fun _ hon => absurd hon hoff,
        fun _ _ => rfl, fun h _ => h⟩

/-- A click on Start. -/
theorem clicked_startTethering (conn : Option Fd) (s : AppDelegate Double) :
    Clicked (.startTethering conn) s (s.sendOrConnect conn .enable) := by
  obtain ⟨client, written, heq, htold, hsome, hnone⟩ :=
    sendOrConnect_eq conn (show IpcCmd.enable ≠ .stop by decide) s
  rw [heq]
  exact ⟨rfl, rfl, rfl, rfl, rfl, rfl, rfl, id, fun _ _ => htold, fun h _ => hsome h, hnone⟩

/-- A click on Auto-Connect. -/
theorem clicked_toggleAutoConnect (conn : Option Fd) (s : AppDelegate Double) :
    Clicked (.toggleAutoConnect conn) s (s.toggleAutoConnect conn) := by
  have hcommand : (if !s.autoConnectEnabled then IpcCmd.enable else .disable) ≠ .stop := by
    cases s.autoConnectEnabled <;> decide
  obtain ⟨client, written, heq, htold, hsome, hnone⟩ := sendOrConnect_eq conn hcommand
    { s with
      autoConnectEnabled := !s.autoConnectEnabled
      menu := { s.menu with autoConnectOn := !s.autoConnectEnabled } }
  rw [toggleAutoConnect, heq]
  refine ⟨rfl, rfl, rfl, rfl, rfl, rfl, rfl, fun _ => rfl, fun _ hon hsock => ?_,
    fun h _ => hsome h, hnone⟩
  rw [htold hsock, if_pos hon]

/-- A click on Quit. -/
theorem clicked_quitApp (s : AppDelegate Double) :
    Clicked .quitApp s { s with ipcClient := s.ipcClient.disconnect, terminated := true } :=
  ⟨rfl, rfl, rfl, rfl, rfl, rfl, rfl, id, fun _ _ h => absurd (show false = true from h) (by decide),
    fun _ h => absurd (show false = true from h) (by decide), fun _ _ => rfl⟩

/-- **What an event is**: a tick, a block of the main queue, or a click. -/
theorem step_cases {e : UiEvent} (h : s.step decode texts e = some t) :
    (∃ now conn read, e = .tick now conn read ∧ t = s.tick decode now conn read) ∨
      (∃ now b rest, e = .block now ∧ s.mainQueue = b :: rest ∧
        t = { s with mainQueue := rest }.runBlock texts now b) ∨
      ((∀ now conn read, e ≠ .tick now conn read) ∧ (∀ now, e ≠ .block now) ∧ Clicked e s t) := by
  unfold AppDelegate.step at h
  split at h
  · cases h
  cases e with
  | tick now conn read => exact .inl ⟨now, conn, read, rfl, (Option.some.inj h).symm⟩
  | block now =>
    simp only at h
    split at h
    · cases h
    · rename_i b rest hqueue
      exact .inr (.inl ⟨now, b, rest, rfl, hqueue, (Option.some.inj h).symm⟩)
  | startTethering conn =>
    obtain rfl := Option.some.inj h
    exact .inr (.inr ⟨by simp, by simp, clicked_startTethering conn s⟩)
  | stopTethering =>
    obtain rfl := Option.some.inj h
    exact .inr (.inr ⟨by simp, by simp, clicked_stopTethering s⟩)
  | toggleAutoConnect conn =>
    obtain rfl := Option.some.inj h
    exact .inr (.inr ⟨by simp, by simp, clicked_toggleAutoConnect conn s⟩)
  | quitApp =>
    obtain rfl := Option.some.inj h
    exact .inr (.inr ⟨by simp, by simp, clicked_quitApp s⟩)

/-- Every event keeps the menu consistent. -/
theorem Consistent.step {e : UiEvent} (hs : Consistent s) (h : s.step decode texts e = some t) :
    Consistent t := by
  rcases step_cases h with ⟨now, conn, read, rfl, rfl⟩ | ⟨now, b, rest, rfl, -, rfl⟩ |
      ⟨-, -, hclick⟩
  · exact hs.tick now conn read
  · have hs' : Consistent { s with mainQueue := rest } := hs.connection hs.told
    cases b with
    | updateDisplay stats => exact hs'.updateDisplay texts stats
    | updateState state ip iface => exact hs'.of_updated (updateState_updated ..)
  · exact {
      exclusive := by rw [hclick.stopHidden, hclick.startHidden, hs.exclusive]
      buttons := by
        rw [hclick.connectionState, hclick.startHidden]
        exact hs.buttons
      connected := by
        rw [hclick.connectionState, hclick.connectedSince]
        exact hs.connected
      sessionless := by
        rw [hclick.connectionState, hclick.connectedSince]
        exact hs.sessionless
      duration := by
        rw [hclick.durationHidden, hclick.connectedSince]
        exact hs.duration
      autoConnect := hclick.setting hs.autoConnect
      told := hclick.told hs.told }

/-! ### Runs -/

/-- The blocks that the polls of an event put on the main queue. -/
def enqueued (decode : List UInt8 → Option (IPCMessage Double)) (s : AppDelegate Double) :
    UiEvent → List (MainBlock Double)
  | .tick _ _ read => (IPCClient.poll decode s.ipcClient read).2.filterMap UiCall.block
  | _ => []

/-- The block that an event runs. -/
def ran (s : AppDelegate Double) : UiEvent → List (MainBlock Double)
  | .block _ => s.mainQueue.take 1
  | _ => []

/-- A client that is not connected reads nothing. -/
theorem poll_of_none {c : IPCClient} (hsock : c.sockFd = none) (read : SockRead) :
    IPCClient.poll decode c read = (c, []) := by
  unfold IPCClient.poll
  rw [hsock]

/-- The main queue is first in, first out. -/
theorem mainQueue_step {e : UiEvent} (h : s.step decode texts e = some t) :
    s.mainQueue ++ s.enqueued decode e = s.ran e ++ t.mainQueue := by
  rcases step_cases h with ⟨now, conn, read, rfl, rfl⟩ | ⟨now, b, rest, rfl, hqueue, rfl⟩ |
      ⟨hne, hne', hclick⟩
  · have hqueue : (s.updateDuration now).mainQueue = s.mainQueue := by
      rcases updateDuration_eq now s with heq | ⟨-, title, heq⟩ <;> rw [heq]
    rcases tick_cases decode now conn read s with ⟨-, heq⟩ | ⟨hsock, fd, -, heq⟩ |
        ⟨hsock, -, t, rfl, heq⟩
    · rw [heq]
      rfl
    · rw [heq, enqueued, poll_of_none hsock]
      simp [ran, hqueue]
    · rw [enqueued, poll_of_none hsock]
      rcases heq with ⟨heq, -⟩ | heq <;> rw [heq]
      · simp [ran, hqueue]
      · rw [(updateState_updated ..).mainQueue]
        simp [ran, hqueue]
  · have hrest : ({ s with mainQueue := rest }.runBlock texts now b).mainQueue = rest := by
      cases b with
      | updateDisplay stats => rfl
      | updateState state ip iface => exact (updateState_updated ..).mainQueue
    rw [hrest, ran, hqueue]
    simp [enqueued]
  · have hnone : s.enqueued decode e = [] ∧ s.ran e = [] := by
      cases e with
      | tick now conn read => exact absurd rfl (hne now conn read)
      | block now => exact absurd rfl (hne' now)
      | startTethering | stopTethering | toggleAutoConnect | quitApp => exact ⟨rfl, rfl⟩
    rw [hnone.1, hnone.2, hclick.mainQueue, List.append_nil, List.nil_append]

/-- Blocks run in the order in which they were put on the main queue. -/
theorem mainQueue_of_run {l : List (AppDelegate Double × UiEvent)}
    (h : Run (step decode texts) s l t) :
    s.mainQueue ++ l.reverse.flatMap (fun p => p.1.enqueued decode p.2) =
      l.reverse.flatMap (fun p => p.1.ran p.2) ++ t.mainQueue := by
  induction h with
  | start => simp
  | @snoc l u v e _ hst ih =>
    rw [List.reverse_cons, List.flatMap_append, List.flatMap_append, ← List.append_assoc, ih,
      List.flatMap_singleton, List.flatMap_singleton, List.append_assoc, mainQueue_step hst,
      List.append_assoc]

/-- **The menu over a run.**  Whatever ticks, clicks, connections and messages come: of Start
    and Stop one is hidden, and it is the right one for a state the program knows; a duration is
    shown only for a session, and there is one in `connected` and none in `watching`, `idle` and
    `disconnected`; a daemon that is connected while auto-connect is on has been told so last;
    and what polls put on the main queue is run in that order. -/
theorem menu_run (autoConnect : Bool) {l : List (AppDelegate Double × UiEvent)}
    (h : Run (step decode texts) (launched autoConnect) l t) :
    Consistent t ∧
      l.reverse.flatMap (fun p => p.1.enqueued decode p.2) =
        l.reverse.flatMap (fun p => p.1.ran p.2) ++ t.mainQueue :=
  ⟨h.invariant (consistent_launched autoConnect) fun _ _ _ hs hst => hs.step hst,
    mainQueue_of_run h⟩

/-- A connection with auto-connect on, and a click on Stop. -/
theorem menu_run_stopped :
    ∃ (l : List (AppDelegate Nat × UiEvent)) (t : AppDelegate Nat),
      Run (step (fun _ => none) ⟨fun _ => [], fun _ => [], fun _ => []⟩) (launched true) l t ∧
        t.ipcClient.sockFd = some 3 ∧ Daemon.latestSwitch t.written = some .enable := by
  obtain ⟨l, t, hrun, -, hgood⟩ := exists_run_of_exec
    (step (fun _ => none) ⟨fun _ => [], fun _ => [], fun _ => []⟩) (fun _ _ => true)
    (fun t : AppDelegate Nat => t.ipcClient.sockFd == some 3 && t.autoConnectEnabled)
    (launched true) [.tick 0 (some 3) .again, .stopTethering, .tick 1000000 none .eof] (by decide)
  rw [Bool.and_eq_true, beq_iff_eq] at hgood
  exact ⟨l, t, hrun, hgood.1,
    (menu_run true hrun).1.told hgood.2 (by rw [hgood.1]; rfl)⟩

/-! ### A daemon that is gone -/

/-- After `n` ticks without a daemon: nothing is left to come, and either the loss is shown, or
    all ticks have been counted. -/
structure Lost (n : Nat) (s : AppDelegate Double) : Prop where
  sockFd : s.ipcClient.sockFd = none
  mainQueue : s.mainQueue = []
  shown : s.connectionState = "disconnected".toList ∨
    n ≤ s.ipcFailCount ∧ (0 < n → s.ipcFailCount < 3)

/-- An event that finds no daemon; a tick counts. -/
theorem Lost.step {n : Nat} {e : UiEvent} (hs : Lost n s) (hconn : e.connect = none)
    (h : s.step decode texts e = some t) : Lost (n + e.isTick.toNat) t := by
  rcases step_cases h with ⟨now, conn, read, rfl, rfl⟩ | ⟨now, b, rest, rfl, hqueue, rfl⟩ |
      ⟨hne, -, hclick⟩
  · have hsame : (s.updateDuration now).ipcClient = s.ipcClient ∧
        (s.updateDuration now).mainQueue = s.mainQueue ∧
        (s.updateDuration now).connectionState = s.connectionState := by
      rcases updateDuration_eq now s with heq | ⟨-, title, heq⟩ <;> rw [heq] <;>
        exact ⟨rfl, rfl, rfl⟩
    obtain ⟨hclient, hqueue, hstate⟩ := hsame
    rcases tick_cases decode now conn read s with ⟨hsock, -⟩ | ⟨-, fd, hfd, -⟩ |
        ⟨-, -, u, rfl, heq⟩
    · rw [hs.sockFd] at hsock
      cases hsock
    · rw [show conn = none from hconn] at hfd
      cases hfd
    · -- the tick finds no daemon
      rcases heq with ⟨heq, hcount⟩ | heq <;> rw [heq]
      · refine ⟨?_, ?_, ?_⟩
        · exact (congrArg IPCClient.sockFd hclient).trans hs.sockFd
        · exact hqueue.trans hs.mainQueue
        · rcases hcount with hdown | hcount
          · exact .inl (hstate.trans hdown)
          · rcases hs.shown with hdown | ⟨hle, -⟩
            · exact .inl (hstate.trans hdown)
            · exact .inr ⟨Nat.succ_le_succ hle, fun _ => hcount⟩
      · have hupdated := updateState_updated now "disconnected".toList none none
          { s.updateDuration now with ipcFailCount := s.ipcFailCount + 1 }
        refine ⟨?_, ?_, .inl hupdated.connectionState⟩
        · rw [hupdated.sockFd, if_pos rfl]
        · rw [hupdated.mainQueue]
          exact hqueue.trans hs.mainQueue
  · -- no block can run
    rw [hs.mainQueue] at hqueue
    cases hqueue
  · have htick : e.isTick.toNat = 0 := by
      cases e with
      | tick now conn read => exact absurd rfl (hne now conn read)
      | block | startTethering | stopTethering | toggleAutoConnect | quitApp => rfl
    refine ⟨hclick.unconnected hs.sockFd hconn, hclick.mainQueue.trans hs.mainQueue, ?_⟩
    rw [htick, hclick.connectionState, hclick.ipcFailCount]
    exact hs.shown

/-- The same over a run. -/
theorem lost_of_run {l : List (AppDelegate Double × UiEvent)} (hsock : s.ipcClient.sockFd = none)
    (hqueue : s.mainQueue = []) (h : Run (step decode texts) s l t)
    (hconn : ∀ p ∈ l, p.2.connect = none) : Lost (l.countP fun p => p.2.isTick) t := by
  induction h with
  | start => exact ⟨hsock, hqueue, .inr ⟨Nat.zero_le _, fun h => absurd h (by simp)⟩⟩
  | snoc _ hst ih =>
    rw [List.forall_mem_cons] at hconn
    have hstep := (ih hconn.2).step hconn.1 hst
    rw [List.countP_cons]
    simpa [Bool.toNat, Bool.cond_eq_ite] using hstep

/-- **A daemon that is gone.**  From any state that a run of the menu reaches without a
    connection and with the main queue empty, and whatever is clicked: once three ticks have
    found no daemon, the menu shows `disconnected`, with Start, and no session. -/
theorem lostDaemon_shown (autoConnect : Bool) {l l' : List (AppDelegate Double × UiEvent)}
    (h : Run (step decode texts) (launched autoConnect) l s) (hsock : s.ipcClient.sockFd = none)
    (hqueue : s.mainQueue = []) (h' : Run (step decode texts) s l' t)
    (hconn : ∀ p ∈ l', p.2.connect = none) (hticks : 3 ≤ l'.countP fun p => p.2.isTick) :
    t.connectionState = "disconnected".toList ∧ t.menu.startHidden = false ∧
      t.menu.stopHidden = true ∧ t.connectedSince = none := by
  have hlost := lost_of_run hsock hqueue h' hconn
  have hs : Consistent t := (h.trans h').invariant (consistent_launched autoConnect)
    fun _ _ _ hs hst => hs.step hst
  have hstate : t.connectionState = "disconnected".toList := by
    rcases hlost.shown with hstate | ⟨hle, hlt⟩
    · exact hstate
    · have := hlt (by omega)
      omega
  have hstart := hs.buttons false (hstate ▸ rfl)
  refine ⟨hstate, hstart, ?_, hs.sessionless (hstate ▸ rfl)⟩
  rw [hs.exclusive, hstart]
  rfl

/-- The line `idle` of the daemon, in one read. -/
def idleBytes : ReadBytes where
  bytes := utf8Bytes (DaemonMsg.state .idle none).json
  ne_nil := by decide +kernel
  length_le := by decide +kernel

/-- What the decoder makes of this line. -/
def idleMessage : IPCMessage Nat where
  type := "state".toList
  state := some "idle".toList
  ip := none
  iface := none
  txMbps := none
  rxMbps := none
  txBytes := none
  rxBytes := none
  txPkts := none
  rxPkts := none

/-- A decoder that knows this line. -/
def decodeIdle (bytes : List UInt8) : Option (IPCMessage Nat) :=
  if bytes ++ utf8Bytes ['\n'] = idleBytes.bytes then some idleMessage else none

/-- A stale `idle`: the connection breaks, the timer connects anew and reads `idle`, and only then
    the main queue runs the `disconnected` of the first connection, which closes the second. -/
def staleIdle : List UiEvent :=
  [.tick 0 (some 3) .again, .tick 1000000 none .error, .tick 2000000 (some 4) .again,
    .tick 3000000 none (.data idleBytes), .block 3000000, .block 3000000]

/-- Three ticks that find no daemon, with a click on Stop between them. -/
def noDaemon : List UiEvent :=
  [.tick 4000000 none .again, .stopTethering, .tick 5000000 none .again,
    .tick 6000000 none .again]

/-- `step`, with this decoder. -/
def stepIdle : AppDelegate Nat → UiEvent → Option (AppDelegate Nat) :=
  step decodeIdle ⟨fun _ => [], fun _ => [], fun _ => []⟩

/-- A menu that shows the stale `idle`, and then the loss. -/
theorem lostDaemon_shown_staleIdle :
    ∃ (l l' : List (AppDelegate Nat × UiEvent)) (s t : AppDelegate Nat),
      Run stepIdle (launched false) l s ∧ Run stepIdle s l' t ∧
        s.connectionState = "idle".toList ∧ t.connectionState = "disconnected".toList ∧
        t.menu.startHidden = false ∧ t.menu.stopHidden = true ∧ t.connectedSince = none := by
  obtain ⟨l, s, hrun, -, hs⟩ := exists_run_of_exec stepIdle (fun _ _ => true)
    (fun s => s.ipcClient.sockFd.isNone && s.mainQueue.isEmpty &&
      s.connectionState == "idle".toList &&
      (exec stepIdle (fun _ _ => true) s noDaemon).any fun _ => true)
    (launched false) staleIdle (by decide +kernel)
  simp only [Bool.and_eq_true, Option.isNone_iff_eq_none, List.isEmpty_iff, beq_iff_eq] at hs
  obtain ⟨⟨⟨hsock, hqueue⟩, hidle⟩, hrest⟩ := hs
  obtain ⟨l', t, hrun', -, hl', -⟩ := exists_run_of_exec_actions stepIdle (fun _ _ => true)
    (fun _ => true) s noDaemon hrest
  have hconn : ∀ p ∈ l', p.2.connect = none := by
    have hall : ∀ e ∈ l'.map Prod.snd, e.connect = none := by
      rw [hl']
      decide
    exact fun p hp => hall p.2 (List.mem_map_of_mem hp)
  have hticks : l'.countP (fun p => p.2.isTick) = 3 := by
    have hcount : (l'.map Prod.snd).countP UiEvent.isTick = 3 := by
      rw [hl']
      decide
    rwa [List.countP_map] at hcount
  exact ⟨l, l', s, t, hrun, hrun', hidle,
    lostDaemon_shown false hrun hsock hqueue hrun' hconn hticks.ge⟩

end Step

end AppDelegate

end AndroidTether
