import AndroidTether.Ipc
import AndroidTether.Lib.Custody
import AndroidTether.Lib.Tally
import AndroidTether.Lib.Trans

namespace AndroidTether

open Custody Tally Trans

/-!
# The client table of the IPC server

The descriptors that `ipc.c` takes with `accept` and gives back with `close`.  The table of
clients and the counter `num_clients` are kept apart, and both are written where a client
comes, leaves, fails or finds no room.

* `IpcTable.step` — `ipc_server_poll` and the two functions that send, with the calls they make;
* `IpcTable.Sound` — counter, table and open descriptors agree;
* `ipcTable_sound` — in every run, and what `ipc_server_destroy` then closes.
-/

/-- A call on a descriptor: `accept` that returned it, `close`, or `send_to_client`. -/
inductive FdCall where
  | accept (fd : Fd)
  | close (fd : Fd)
  | send (fd : Fd)
  deriving DecidableEq, Repr

/-- `accept` takes a descriptor, `close` gives it back. -/
def FdCall.effect : FdCall → Option (Fd × Bool)
  | accept fd => some (fd, true)
  | close fd => some (fd, false)
  | send _ => none

/-! ### The calls of `ipc.c` -/

/-- The calls of `send_to_all`. -/
def sendToAllCalls (srv : IpcServer) : List FdCall :=
  (List.finRange maxClients).filterMap fun i => (srv.clientFds i).map .send

/-- The calls of `ipc_server_send_stats`. -/
def sendStatsCalls (srv : IpcServer) : List FdCall :=
  if srv.numClients = 0 then [] else sendToAllCalls srv

/-- The calls of the first part of `ipc_server_poll`. -/
def acceptCalls (srv : IpcServer) (client : Option Fd) : List FdCall :=
  match client, (List.finRange maxClients).find? fun i => (srv.clientFds i).isNone with
  | some fd, some _ => [.accept fd]
  -- too many clients
  | some fd, none => [.accept fd, .close fd]
  | none, _ => []

/-- The call of `close_client`. -/
def closeClientCalls (srv : IpcServer) (idx : Fin maxClients) : List FdCall :=
  ((srv.clientFds idx).map .close).toList

/-- The calls of the loop body of `ipc_server_poll` at slot `i`. -/
def slotCalls (read : Fin maxClients → ReadResult) (srv : IpcServer) (i : Fin maxClients) :
    List FdCall :=
  match read i with
  | .eof => closeClientCalls srv i
  | .error => closeClientCalls srv i
  | _ => []

/-- `ipc_server_poll` with its calls. -/
def pollCalls (srv : IpcServer) (inp : PollInput) : (IpcServer × Option IpcCmd) × List FdCall :=
  (List.finRange maxClients).foldl
    (fun s i => (pollSlot inp.read s.1 i, s.2 ++ slotCalls inp.read s.1.1 i))
    ((acceptClient srv inp.accept, none), acceptCalls srv inp.accept)

/-- The calls of `ipc_server_destroy`; the last is for the listening socket. -/
def destroyCalls (srv : IpcServer) (listenFd : Fd) : List FdCall :=
  (List.finRange maxClients).filterMap (fun i => (srv.clientFds i).map .close) ++ [.close listenFd]

/-- The poll is the poll. -/
theorem pollCalls_fst (srv : IpcServer) (inp : PollInput) :
    (pollCalls srv inp).1 = ipcServerPoll srv inp := by
  unfold pollCalls ipcServerPoll
  generalize acceptCalls srv inp.accept = calls
  generalize (acceptClient srv inp.accept, (none : Option IpcCmd)) = s
  induction List.finRange maxClients generalizing s calls with
  | nil => rfl
  | cons i is ih => exact ih _ _

/-! ### Runs -/

/-- The server, its listening socket, and the calls made on the descriptors of clients. -/
structure IpcTable where
  listenFd : Fd
  srv : IpcServer
  calls : List FdCall

/-- What is done with a server. -/
inductive TableAct where
  | poll (inp : PollInput)
  | sendStats
  | sendState

namespace IpcTable

/-- The descriptor is open. -/
def isOpen (t : IpcTable) (fd : Fd) : Bool := fd == t.listenFd || held FdCall.effect t.calls fd

/-- After `ipc_server_create`. -/
def start (listenFd : Fd) : IpcTable := ⟨listenFd, .create, []⟩

/-- One call from the daemon; `accept` returns no descriptor that is open. -/
def step (t : IpcTable) : TableAct → Option IpcTable
  | .poll inp =>
    if inp.accept.any t.isOpen then none
    else
      let (r, calls) := pollCalls t.srv inp
      some { t with srv := r.1, calls := t.calls ++ calls }
  | .sendStats => some { t with calls := t.calls ++ sendStatsCalls t.srv }
  | .sendState => some { t with calls := t.calls ++ sendToAllCalls t.srv }

end IpcTable

/-! ### Open descriptors -/

section Calls

variable {srv : IpcServer} {calls : List FdCall} {fd fd' : Fd}

/-- Accepting opens a descriptor. -/
@[simp] theorem held_accept : held FdCall.effect (calls ++ [.accept fd]) fd' =
    (fd == fd' || held FdCall.effect calls fd') := by
  rw [held_append_singleton]
  by_cases h : fd = fd' <;> simp [heldStep, FdCall.effect, h]

/-- Closing it. -/
@[simp] theorem held_close : held FdCall.effect (calls ++ [.close fd]) fd' =
    (fd != fd' && held FdCall.effect calls fd') := by
  rw [held_append_singleton]
  by_cases h : fd = fd' <;> simp [heldStep, FdCall.effect, h]

/-- A descriptor that is accepted is not open before. -/
theorem proper_accept : Proper FdCall.effect (calls ++ [.accept fd]) ↔
    Proper FdCall.effect calls ∧ held FdCall.effect calls fd = false := by
  simp [proper_append_singleton, FdCall.effect]

/-- A descriptor that is closed is open before. -/
theorem proper_close : Proper FdCall.effect (calls ++ [.close fd]) ↔
    Proper FdCall.effect calls ∧ held FdCall.effect calls fd = true := by
  simp [proper_append_singleton, FdCall.effect]

/-! ### What one call keeps -/

/-- Counter, table and calls agree. -/
structure TableInv (srv : IpcServer) (calls : List FdCall) : Prop where
  count : srv.numClients = tally Option.isSome srv.clientFds
  slots : ∀ fd, tally (· == some fd) srv.clientFds = (held FdCall.effect calls fd).toNat
  proper : Proper FdCall.effect calls

/-- The descriptor in a slot is open. -/
theorem TableInv.held_of_slot (h : TableInv srv calls) {i : Fin maxClients}
    (hfd : srv.clientFds i = some fd) : held FdCall.effect calls fd = true := by
  have hpos : 0 < tally (· == some fd) srv.clientFds := tally_pos (i := i) (by simp [hfd])
  rw [h.slots] at hpos
  cases hheld : held FdCall.effect calls fd with
  | true => rfl
  | false => simp [hheld] at hpos

/-- A descriptor that is taken goes into a free slot. -/
theorem TableInv.accept (h : TableInv srv calls) {i : Fin maxClients}
    (hfree : srv.clientFds i = none) (hfd : held FdCall.effect calls fd = false) :
    TableInv ⟨Function.update srv.clientFds i (some fd), srv.numClients + 1⟩
      (calls ++ [.accept fd]) := by
  refine ⟨?count, fun fd' => ?slot, proper_accept.mpr ⟨h.proper, hfd⟩⟩
  case count =>
    have hupdate := tally_update (p := Option.isSome) (f := srv.clientFds) i (some fd)
    simp only [hfree, Option.isSome_none, Option.isSome_some, Bool.toNat_false, Bool.toNat_true,
      Nat.add_zero] at hupdate
    simp only [hupdate, h.count, Nat.cast_add, Nat.cast_one]
  case slot =>
    have hupdate := tally_update (p := (· == some fd')) (f := srv.clientFds) i (some fd)
    rw [hfree, h.slots] at hupdate
    rcases eq_or_ne fd fd' with rfl | hne
    · simpa [hfd] using hupdate
    · simpa [beq_false_of_ne hne] using hupdate

/-- A descriptor for which there is no slot is closed at once. -/
theorem TableInv.refuse (h : TableInv srv calls) (hfd : held FdCall.effect calls fd = false) :
    TableInv srv (calls ++ [.accept fd, .close fd]) := by
  rw [List.append_cons]
  refine ⟨h.count, fun fd' => ?_, proper_close.mpr ⟨proper_accept.mpr ⟨h.proper, hfd⟩, by simp⟩⟩
  rw [h.slots, held_close, held_accept]
  rcases eq_or_ne fd fd' with rfl | hne
  · simp [hfd]
  · simp [bne, beq_false_of_ne hne]

/-- `close_client` -/
theorem TableInv.closeClient (h : TableInv srv calls) (i : Fin maxClients) :
    TableInv (closeClient srv i) (calls ++ closeClientCalls srv i) := by
  cases hfd : srv.clientFds i with
  | none => simpa [AndroidTether.closeClient, closeClientCalls, hfd] using h
  | some fd =>
    have hheld := h.held_of_slot hfd
    have hclose : AndroidTether.closeClient srv i =
        ⟨Function.update srv.clientFds i none, srv.numClients - 1⟩ := by
      simp [AndroidTether.closeClient, hfd]
    have hcalls : closeClientCalls srv i = [.close fd] := by simp [closeClientCalls, hfd]
    rw [hclose, hcalls]
    refine ⟨?count, fun fd' => ?slot, proper_close.mpr ⟨h.proper, hheld⟩⟩
    case count =>
      have hupdate := tally_update (p := Option.isSome) (f := srv.clientFds) i none
      simp only [hfd, Option.isSome_none, Option.isSome_some, Bool.toNat_false, Bool.toNat_true,
        Nat.add_zero] at hupdate
      simp only [← hupdate, h.count, Nat.cast_add, Nat.cast_one, Int.add_sub_cancel]
    case slot =>
      have hupdate := tally_update (p := (· == some fd')) (f := srv.clientFds) i none
      rw [hfd, h.slots] at hupdate
      rcases eq_or_ne fd fd' with rfl | hne
      · simpa [hheld] using hupdate
      · simpa [bne, beq_false_of_ne hne] using hupdate

/-- The first part of `ipc_server_poll`. -/
theorem TableInv.acceptClient (h : TableInv srv calls) {client : Option Fd}
    (hclient : ∀ fd, client = some fd → held FdCall.effect calls fd = false) :
    TableInv (acceptClient srv client) (calls ++ acceptCalls srv client) := by
  cases client with
  | none => simpa [AndroidTether.acceptClient, acceptCalls] using h
  | some fd =>
    have hfd := hclient fd rfl
    unfold AndroidTether.acceptClient acceptCalls
    cases hslot : (List.finRange maxClients).find? fun i => (srv.clientFds i).isNone with
    | none => exact h.refuse hfd
    | some i =>
      have hfree : (srv.clientFds i).isNone = true := by simpa using List.find?_some hslot
      exact h.accept (Option.isNone_iff_eq_none.mp hfree) hfd

/-- The loop body of `ipc_server_poll`. -/
theorem TableInv.pollSlot {s : IpcServer × Option IpcCmd} (h : TableInv s.1 calls)
    (read : Fin maxClients → ReadResult) (i : Fin maxClients) :
    TableInv (pollSlot read s i).1 (calls ++ slotCalls read s.1 i) := by
  have hclose := h.closeClient i
  unfold AndroidTether.pollSlot slotCalls
  cases hfd : s.1.clientFds i with
  | none => cases read i <;> simpa [closeClientCalls, hfd] using h
  | some fd =>
    cases read i with
    | data c => simpa using h
    | again => simpa using h
    | eof => exact hclose
    | error => exact hclose

/-- A poll keeps the table and the open descriptors in step. -/
theorem TableInv.pollCalls (h : TableInv srv calls) {inp : PollInput}
    (hclient : ∀ fd, inp.accept = some fd → held FdCall.effect calls fd = false) :
    TableInv (pollCalls srv inp).1.1 (calls ++ (pollCalls srv inp).2) := by
  have haccept := h.acceptClient hclient
  unfold AndroidTether.pollCalls
  -- the loop, from the calls already made
  suffices hloop : ∀ (is : List (Fin maxClients)) (s : (IpcServer × Option IpcCmd) × List FdCall),
      TableInv s.1.1 (calls ++ s.2) →
      let s' := is.foldl
        (fun s i => (AndroidTether.pollSlot inp.read s.1 i, s.2 ++ slotCalls inp.read s.1.1 i)) s
      TableInv s'.1.1 (calls ++ s'.2) from hloop _ _ haccept
  intro is
  induction is with
  | nil => exact fun _ hs => hs
  | cons i is ih =>
    intro s hs
    apply ih
    rw [← List.append_assoc]
    exact hs.pollSlot inp.read i

/-- `send_to_all` closes and accepts nothing. -/
theorem frame_sendToAllCalls (srv : IpcServer) (fd : Fd) :
    Frame FdCall.effect (sendToAllCalls srv) fd := by
  intro e he taken
  simp only [sendToAllCalls, List.mem_filterMap, Option.map_eq_some_iff] at he
  obtain ⟨-, -, -, -, rfl⟩ := he
  simp [FdCall.effect]

/-- Calls that open and close nothing keep them so. -/
theorem TableInv.sends (h : TableInv srv calls) {sent : List FdCall}
    (hsent : ∀ fd, Frame FdCall.effect sent fd) : TableInv srv (calls ++ sent) where
  count := h.count
  slots fd := by rw [h.slots, held_append_of_frame (hsent fd)]
  proper := h.proper.append_of_frame hsent

/-- **Statistics reach every client**: without a client there is nobody to send them to. -/
theorem TableInv.sendStatsCalls_eq (h : TableInv srv calls) :
    sendStatsCalls srv = sendToAllCalls srv := by
  unfold sendStatsCalls
  split
  · next hzero =>
    rw [h.count, Nat.cast_eq_zero, tally_eq_zero] at hzero
    have hnone : ∀ i, srv.clientFds i = none := fun i => by simpa using hzero i
    simp [sendToAllCalls, hnone]
  · rfl

/-- A poll accepts what `accept` returned, if anything. -/
theorem accept_of_mem_pollCalls {inp : PollInput} (h : .accept fd ∈ (pollCalls srv inp).2) :
    inp.accept = some fd := by
  have hslot : ∀ (srv : IpcServer) i, FdCall.accept fd ∉ slotCalls inp.read srv i := by
    intro srv i
    unfold slotCalls closeClientCalls
    cases inp.read i <;> simp
  have hloop : ∀ (is : List (Fin maxClients)) (s : (IpcServer × Option IpcCmd) × List FdCall),
      FdCall.accept fd ∈ (is.foldl
        (fun s i => (AndroidTether.pollSlot inp.read s.1 i, s.2 ++ slotCalls inp.read s.1.1 i)) s).2 →
      FdCall.accept fd ∈ s.2 := by
    intro is
    induction is with
    | nil => exact fun _ hs => hs
    | cons i is ih =>
      intro s hs
      exact (List.mem_append.mp (ih _ hs)).resolve_right (hslot _ _)
  have hmem := hloop _ _ h
  unfold acceptCalls at hmem
  split at hmem
  · next fd' _ haccept _ => simp_all
  · next fd' haccept _ => simp_all
  · cases hmem

/-- The calls that close the clients' descriptors. -/
theorem count_destroyCalls (srv : IpcServer) (listenFd fd : Fd) :
    (destroyCalls srv listenFd).count (.close fd) =
      tally (· == some fd) srv.clientFds + (listenFd == fd).toNat := by
  have hslots : ((List.finRange maxClients).filterMap fun i => (srv.clientFds i).map .close).count
      (FdCall.close fd) = tally (· == some fd) srv.clientFds := by
    rw [List.count_filterMap, tally_eq_countP]
    refine List.countP_congr fun i _ => ?_
    cases srv.clientFds i <;> simp
  rw [destroyCalls, List.count_append, hslots, List.count_singleton]
  by_cases h : listenFd = fd <;> simp [h]

end Calls

/-! ### Every run -/

namespace IpcTable

/-- What holds of the table in every state. -/
structure Sound (t : IpcTable) : Prop where
  /-- `num_clients` counts the slots with a descriptor. -/
  count : t.srv.numClients = tally Option.isSome t.srv.clientFds
  bounds : 0 ≤ t.srv.numClients ∧ t.srv.numClients ≤ maxClients
  unique : ∀ i j fd, t.srv.clientFds i = some fd → t.srv.clientFds j = some fd → i = j
  /-- a descriptor is closed as often as it has been accepted, but for those in a slot -/
  accounted : ∀ fd, times FdCall.effect t.calls fd true =
    times FdCall.effect t.calls fd false + tally (· == some fd) t.srv.clientFds
  /-- what is closed has been accepted, and not been closed since -/
  closedOnce : ∀ pre fd post, t.calls = pre ++ .close fd :: post →
    held FdCall.effect pre fd = true
  /-- `ipc_server_destroy` closes what is open, once -/
  destroyed : ∀ fd, (destroyCalls t.srv t.listenFd).count (.close fd) = (t.isOpen fd).toNat

variable {t : IpcTable}

/-- What the invariant says of the table. -/
theorem Sound.of_inv (h : TableInv t.srv t.calls)
    (hlisten : held FdCall.effect t.calls t.listenFd = false) : t.Sound where
  count := h.count
  bounds := by
    have hle := tally_le_card (p := Option.isSome) (f := t.srv.clientFds)
    rw [Fintype.card_fin] at hle
    rw [h.count]
    exact ⟨Int.natCast_nonneg _, Int.ofNat_le.mpr hle⟩
  unique i j fd hi hj := by
    have hle : tally (· == some fd) t.srv.clientFds ≤ 1 := by
      rw [h.slots]
      exact Bool.toNat_le _
    exact eq_of_tally_le_one hle (by simp [hi]) (by simp [hj])
  accounted fd := by
    rw [times_of_proper h.proper, h.slots]
  closedOnce pre fd post hcalls := h.proper pre (.close fd) post hcalls fd false rfl
  destroyed fd := by
    rw [count_destroyCalls, h.slots, isOpen]
    rcases eq_or_ne fd t.listenFd with rfl | hne
    · simp [hlisten]
    · simp [beq_false_of_ne hne, beq_false_of_ne hne.symm]

/-- Each of the three calls keeps the invariant. -/
theorem step_inv {a : TableAct} {t' : IpcTable} (h : TableInv t.srv t.calls)
    (hlisten : held FdCall.effect t.calls t.listenFd = false) (hstep : t.step a = some t') :
    TableInv t'.srv t'.calls ∧ held FdCall.effect t'.calls t'.listenFd = false := by
  -- what is sent leaves everything open that is open
  have hsends : ∀ sent, (∀ fd, Frame FdCall.effect sent fd) →
      TableInv t.srv (t.calls ++ sent) ∧
        held FdCall.effect (t.calls ++ sent) t.listenFd = false := fun sent hsent =>
    ⟨h.sends hsent, by rw [held_append_of_frame (hsent _), hlisten]⟩
  cases a with
  | poll inp =>
    simp only [step] at hstep
    split at hstep
    · cases hstep
    · next hopen =>
      obtain rfl := Option.some.inj hstep
      have hnew : ∀ fd, inp.accept = some fd → t.isOpen fd = false := by
        intro fd hfd
        simpa [hfd] using hopen
      refine ⟨h.pollCalls fun fd hfd => ?_,
        held_append_of_returned (fun e he heffect => ?_) (.inl hlisten)⟩
      · have hfd' := hnew fd hfd
        rw [isOpen, Bool.or_eq_false_iff] at hfd'
        exact hfd'.2
      · -- the listening socket is open
        cases e with
        | accept fd =>
          obtain rfl : fd = t.listenFd := by simpa [FdCall.effect] using heffect
          have hfd := hnew _ (accept_of_mem_pollCalls he)
          simp [isOpen] at hfd
        | close fd => simp [FdCall.effect] at heffect
        | send fd => simp [FdCall.effect] at heffect
  | sendStats =>
    obtain rfl := Option.some.inj hstep
    refine hsends _ fun fd => ?_
    rw [h.sendStatsCalls_eq]
    exact frame_sendToAllCalls _ fd
  | sendState =>
    obtain rfl := Option.some.inj hstep
    exact hsends _ (frame_sendToAllCalls _)

/-- **The client table.**  In every run of polls and broadcasts in which `accept` returns no
    descriptor that is open, counter, table and open descriptors agree, and
    `ipc_server_destroy` closes what is left. -/
theorem ipcTable_sound (listenFd : Fd) {l : List (IpcTable × TableAct)}
    (h : Run step (start listenFd) l t) : t.Sound := by
  have hstart : TableInv (start listenFd).srv (start listenFd).calls := by
    refine ⟨?_, fun fd => ?_, proper_nil⟩
    · exact (congrArg Nat.cast (tally_eq_zero.mpr fun _ => rfl)).symm
    · exact tally_eq_zero.mpr fun _ => rfl
  have hinv := h.invariant
    (I := fun t => TableInv t.srv t.calls ∧ held FdCall.effect t.calls t.listenFd = false)
    ⟨hstart, rfl⟩ fun s a t hs hst => step_inv hs.1 hs.2 hst
  exact .of_inv hinv.1 hinv.2

/-- A client leaves in the poll behind the one that accepted it, and the next client gets its
    descriptor. -/
theorem ipcTable_sound_reused :
    ∃ t : IpcTable, t.Sound ∧ t.calls = [.accept 5, .send 5, .close 5, .accept 5] ∧
      t.srv.numClients = 1 := by
  obtain ⟨l, t, hrun, -, hcalls⟩ := exists_run_of_exec step (fun _ _ => true)
    (fun t => decide (t.calls = [.accept 5, .send 5, .close 5, .accept 5] ∧ t.srv.numClients = 1))
    (start 3) [.poll ⟨some 5, fun _ => .again⟩, .sendStats, .poll ⟨none, fun _ => .eof⟩,
      .poll ⟨some 5, fun _ => .again⟩] (by decide +kernel)
  exact ⟨t, ipcTable_sound 3 hrun, of_decide_eq_true hcalls⟩

end IpcTable

end AndroidTether
