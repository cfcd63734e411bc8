import AndroidTether.NetTypes
import Mathlib.Data.List.Infix
import Mathlib.Data.List.FinRange

namespace AndroidTether

/-!
# The IPC server

The daemon's side of the socket to the UI: `ipc_server_poll` of `ipc.c` with its table of
clients.  A poll accepts at most one connection, makes one read from each client and looks
for quoted words in whatever that read returned.

* `ipcServerPoll` — one poll; `pollReads` — the reads it makes;
* `ipcServerPoll_ret` — the command a poll returns, by the reads it makes.
-/

/-- The commands a poll can return; `IPC_CMD_NONE` is `none` of an `Option`. -/
inductive IpcCmd where
  | stop
  | disable
  | enable
  deriving DecidableEq, Repr

/-- File descriptors. -/
abbrev Fd := Nat

/-- `MAX_CLIENTS` -/
def maxClients : Nat := 4

/-- `IPC_BUF_SIZE` -/
def ipcBufSize : Nat := 1024

/-- `struct ipc_server`, without the listening socket; a negative descriptor is `none`. -/
structure IpcServer where
  clientFds : Fin maxClients → Option Fd
  numClients : Int

/-- The server after `ipc_server_create`. -/
def IpcServer.create : IpcServer := ⟨fun _ => none, 0⟩

/-- The bytes one `read` returned: some, and at most `sizeof(buf) - 1`. -/
structure Chunk where
  bytes : List Char
  ne_nil : bytes ≠ []
  length_lt : bytes.length < ipcBufSize

/-- What `read` on a client does. -/
inductive ReadResult where
  | data (c : Chunk)
  | eof
  | again
  | error

/-- What one poll meets: a new connection, and the result of the read on each slot. -/
structure PollInput where
  accept : Option Fd
  read : Fin maxClients → ReadResult

/-- `close_client` -/
def closeClient (srv : IpcServer) (idx : Fin maxClients) : IpcServer :=
  if (srv.clientFds idx).isSome then
    { clientFds := Function.update srv.clientFds idx none, numClients := srv.numClients - 1 }
  else srv

/-- The first part of `ipc_server_poll`: a new client takes the first free slot; without one
    its connection is closed. -/
def acceptClient (srv : IpcServer) (client : Option Fd) : IpcServer :=
  match client, (List.finRange maxClients).find? fun i => (srv.clientFds i).isNone with
  | some fd, some slot =>
    { clientFds := Function.update srv.clientFds slot (some fd), numClients := srv.numClients + 1 }
  | _, _ => srv

/-- The quoted word of a command. -/
def IpcCmd.quoted : IpcCmd → CStr
  | stop => "\"stop\"".toList
  | disable => "\"disable\"".toList
  | enable => "\"enable\"".toList

/-- `strstr(buf, needle)`, up to the first NUL. -/
def strstr (buf : List Char) (needle : CStr) : Bool := needle <:+: buf.takeWhile (· ≠ '\x00')

/-- The chain of `strstr` on what was read. -/
def decodeCmd (buf : List Char) : Option IpcCmd :=
  if strstr buf IpcCmd.stop.quoted then some .stop
  else if strstr buf IpcCmd.disable.quoted then some .disable
  else if strstr buf IpcCmd.enable.quoted then some .enable
  else none

/-- The loop body of `ipc_server_poll` at slot `i`; the pair is the server and
    `stop_requested`. -/
def pollSlot (read : Fin maxClients → ReadResult) (s : IpcServer × Option IpcCmd)
    (i : Fin maxClients) : IpcServer × Option IpcCmd :=
  match s.1.clientFds i with
  | none => s
  | some _ =>
    match read i with
    | .data c => (s.1, (decodeCmd c.bytes).or s.2)
    | .eof => (closeClient s.1 i, s.2)
    | .error => (closeClient s.1 i, s.2)
    | .again => s

/-- `ipc_server_poll` -/
def ipcServerPoll (srv : IpcServer) (inp : PollInput) : IpcServer × Option IpcCmd :=
  (List.finRange maxClients).foldl (pollSlot inp.read) (acceptClient srv inp.accept, none)

/-- The reads of a poll that returned bytes, with their clients, in the order of the slots. -/
def pollReads (srv : IpcServer) (inp : PollInput) : List (Fd × List Char) :=
  (List.finRange maxClients).filterMap fun i =>
    match (acceptClient srv inp.accept).clientFds i, inp.read i with
    | some fd, .data c => some (fd, c.bytes)
    | _, _ => none

/-! ### The result of a poll -/

variable {srv : IpcServer} {read : Fin maxClients → ReadResult}

/-- A slot that is visited leaves the others alone. -/
theorem pollSlot_clientFds_of_ne {s : IpcServer × Option IpcCmd} {i j : Fin maxClients}
    (h : i ≠ j) : (pollSlot read s j).1.clientFds i = s.1.clientFds i := by
  have hclose : (closeClient s.1 j).clientFds i = s.1.clientFds i := by
    unfold closeClient
    split
    · exact Function.update_of_ne h _ _
    · rfl
  unfold pollSlot
  split
  · rfl
  · split
    · rfl
    · exact hclose
    · exact hclose
    · rfl

/-- The commands of the reads, later ones first, are what a poll returns. -/
theorem foldl_pollSlot_ret (is : List (Fin maxClients)) (hnodup : is.Nodup)
    (s : IpcServer × Option IpcCmd) :
    (is.foldl (pollSlot read) s).2 =
      ((is.filterMap fun i =>
        match s.1.clientFds i, read i with
        | some fd, .data c => some (fd, c.bytes)
        | _, _ => none).foldl (fun ret r => (decodeCmd r.2).or ret) s.2) := by
  induction is generalizing s with
  | nil => rfl
  | cons i is ih =>
    obtain ⟨hi, hnodup⟩ := List.nodup_cons.mp hnodup
    rw [List.foldl_cons, ih hnodup]
    -- the slots still to come hold what they held before
    have hrest : (is.filterMap fun j =>
        match (pollSlot read s i).1.clientFds j, read j with
        | some fd, ReadResult.data c => some (fd, c.bytes)
        | _, _ => none) = is.filterMap fun j =>
        match s.1.clientFds j, read j with
        | some fd, ReadResult.data c => some (fd, c.bytes)
        | _, _ => none := by
      refine List.filterMap_congr fun j hj => ?_
      have hne : j ≠ i := fun h => hi (h ▸ hj)
      rw [pollSlot_clientFds_of_ne hne]
    rw [hrest, List.filterMap_cons]
    unfold pollSlot
    cases hfd : s.1.clientFds i with
    | none => rfl
    | some fd => cases hread : read i <;> simp

/-- **The result of a poll** is the command of the last read that has one. -/
theorem ipcServerPoll_ret (srv : IpcServer) (inp : PollInput) :
    (ipcServerPoll srv inp).2 =
      (pollReads srv inp).foldl (fun ret r => (decodeCmd r.2).or ret) none :=
  foldl_pollSlot_ret _ (List.nodup_finRange maxClients) _

end AndroidTether
