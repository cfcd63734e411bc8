import AndroidTether.MenuApp

namespace AndroidTether

open Trans Delimited Framing

/-!
# From the daemon to the menu

The two ends of the socket together: what the daemon sends on a connection (`IpcSend`), the
reads of the menu's timer, the decoder, the main queue and `updateState`.

* `DaemonMsg.block` — what the menu does about a message;
* `menu_follows` — over one connection, what the menu does are the messages that went out, in
  order.
-/

/-! ### Messages -/

/-- The line of a message, without the newline. -/
def DaemonMsg.line (msg : DaemonMsg) : List Char := '\x7b' :: msg.body

/-- The fields of a message; `double` is the number a rate's text stands for. -/
def DaemonMsg.fields {Double : Type} (double : Rate → Double) : DaemonMsg → IPCMessage Double
  | .stats st =>
    { type := "stats".toList
      state := none
      ip := none
      iface := none
      txMbps := some (double st.txMbps)
      rxMbps := some (double st.rxMbps)
      txBytes := some st.txBytes
      rxBytes := some st.rxBytes
      txPkts := some st.txPkts
      rxPkts := some st.rxPkts }
  | .state st addr =>
    { type := "state".toList
      state := some st.text
      ip := addr.map fun a => inetNtoa a.1
      iface := addr.map fun a => "utun".toList ++ decimal a.2
      txMbps := none
      rxMbps := none
      txBytes := none
      rxBytes := none
      txPkts := none
      rxPkts := none }

/-- What the menu does about a message. -/
def DaemonMsg.block {Double : Type} (double : Rate → Double) : DaemonMsg → MainBlock Double
  | .stats st =>
    .updateDisplay
      { txMbps := double st.txMbps
        rxMbps := double st.rxMbps
        txBytes := some st.txBytes
        rxBytes := some st.rxBytes
        txPkts := some st.txPkts
        rxPkts := some st.rxPkts }
  | .state st addr =>
    .updateState st.text (addr.map fun a => inetNtoa a.1)
      (addr.map fun a => "utun".toList ++ decimal a.2)

/-- The state that is shown after a block. -/
def MainBlock.shows {Double : Type} (shown : List Char) : MainBlock Double → List Char
  | .updateDisplay _ => shown
  | .updateState state _ _ => state

/-- ASCII characters. -/
def Ascii (s : List Char) : Prop := ∀ c ∈ s, c.toNat < 128

/-- A text is ASCII when its parts are. -/
@[simp] theorem ascii_append {s t : List Char} : Ascii (s ++ t) ↔ Ascii s ∧ Ascii t :=
  List.forall_mem_append

instance (s : List Char) : Decidable (Ascii s) :=
  decidable_of_iff (s.all fun c => c.toNat < 128) (by simp [Ascii])

/-- Digits are ASCII. -/
theorem ascii_of_forall_isDigit {s : List Char} (h : ∀ c ∈ s, c.isDigit = true) : Ascii s := by
  intro c hc
  have hdigit := h c hc
  simp only [Char.isDigit, Bool.and_eq_true, decide_eq_true_eq] at hdigit
  have hle : c.val.toNat ≤ '9'.val.toNat := UInt32.le_iff_toNat_le.mp hdigit.2
  exact Nat.lt_of_le_of_lt hle (by decide)

/-- A number is ASCII text. -/
@[simp] theorem ascii_decimal (n : Nat) : Ascii (decimal n) :=
  ascii_of_forall_isDigit fun _ hc => Nat.isDigit_of_mem_toDigits (by decide) (by decide) hc

/-- So is a rate. -/
@[simp] theorem ascii_rate (r : Rate) : Ascii r.text := by
  have hdigit : ∀ n < 10, Ascii [Nat.digitChar n] := by decide
  have h₁ := hdigit _ (Nat.mod_lt (r.hundredths / 10) (by decide))
  have h₂ := hdigit _ (Nat.mod_lt r.hundredths (by decide))
  have htext : r.text = decimal (r.hundredths / 100) ++ (['.'] ++
      ([Nat.digitChar (r.hundredths / 10 % 10)] ++ [Nat.digitChar (r.hundredths % 10)])) := rfl
  rw [htext, ascii_append, ascii_append, ascii_append]
  exact ⟨ascii_decimal _, by decide, h₁, h₂⟩

/-- So is an address. -/
@[simp] theorem ascii_inetNtoa (a : InAddr) : Ascii (inetNtoa a) := by
  simp only [inetNtoa, InAddr.bytes, List.map_cons, List.map_nil, List.intercalate_cons_cons,
    List.intercalate_singleton, ascii_append]
  have hoctet : ∀ b, Ascii (octet b) := fun b => ascii_decimal b.toNat
  exact ⟨⟨hoctet _, by decide⟩, ⟨hoctet _, by decide⟩, ⟨hoctet _, by decide⟩, hoctet _⟩

/-- So are the names of the states. -/
@[simp] theorem ascii_text (st : UiState) : Ascii st.text := by
  cases st <;> decide

namespace DaemonMsg

/-- All that the daemon sends between the braces is ASCII. -/
theorem ascii_body (msg : DaemonMsg) : Ascii msg.body := by
  match msg with
  | stats st =>
    simp only [body_stats, ascii_append, ascii_rate, ascii_decimal, and_true]
    decide +kernel
  | state st (some (ip, unit)) =>
    simp only [body_connected, ascii_append, ascii_text, ascii_inetNtoa, ascii_decimal, and_true]
    decide +kernel
  | state st none =>
    simp only [body_state, ascii_append, ascii_text, and_true]
    decide +kernel

/-- A message is its line and a newline. -/
theorem json_line (msg : DaemonMsg) : msg.json = msg.line ++ ['\n'] := msg.json_eq

/-- A message is ASCII. -/
theorem ascii_json (msg : DaemonMsg) : Ascii msg.json := by
  rw [json_eq]
  refine List.forall_mem_cons.mpr ⟨by decide, ?_⟩
  exact ascii_append.mpr ⟨msg.ascii_body, by decide⟩

/-- There is no other newline in it. -/
theorem newline_line (msg : DaemonMsg) : '\n' ∉ msg.line := by
  rw [line, List.mem_cons, not_or]
  exact ⟨by decide, msg.plain_body.2⟩

/-- The calls for a message that the decoder takes apart. -/
theorem onLine_line {Double : Type} {decode : List UInt8 → Option (IPCMessage Double)}
    {double : Rate → Double} (msg : DaemonMsg)
    (hdecode : decode (utf8Bytes msg.line) = some (msg.fields double)) :
    (IPCClient.onLine decode msg.line).filterMap UiCall.block = [msg.block double] := by
  have hne : msg.line ≠ [] := List.cons_ne_nil _ _
  rw [IPCClient.onLine, if_neg hne, hdecode]
  cases msg with
  | stats st => rfl
  | state st addr => rfl

end DaemonMsg

/-! ### Reading -/

section Reads

variable {Double : Type} (decode : List UInt8 → Option (IPCMessage Double))

/-- The client has read `text` and has made the calls for its complete lines; while it is
    connected, it holds the rest. -/
structure Received (text : List Char) (calls : List (UiCall Double)) (c : IPCClient) : Prop where
  lines : ∃ lines tail, Lines '\n' text lines tail ∧ calls = lines.flatMap (IPCClient.onLine decode) ∧
    (c.sockFd.isSome = true → c.readBuffer = tail)

variable {decode} {text more : List Char} {calls : List (UiCall Double)} {c : IPCClient}

/-- What a poll reads, it appends. -/
theorem Received.poll (h : Received decode text calls c) (hsock : c.sockFd.isSome = true)
    {read : SockRead} (hlive : read.live = true) (hmore : utf8String read.bytes = some more) :
    Received decode (text ++ more) (calls ++ (IPCClient.poll decode c read).2)
        (IPCClient.poll decode c read).1 ∧
      (IPCClient.poll decode c read).1.sockFd.isSome = true := by
  obtain ⟨fd, hfd⟩ := Option.isSome_iff_exists.mp hsock
  obtain ⟨lines, tail, hlines, rfl, hbuffer⟩ := h.lines
  obtain rfl := hbuffer hsock
  cases read with
  | data buf =>
    obtain ⟨lines', tail', hlines', hrun⟩ := IPCClient.lineBody_reads decode
      (Nat.lt_succ_self (c.readBuffer ++ more).length) []
    have hbuf : utf8String buf.bytes = some more := hmore
    have hpoll : IPCClient.poll decode c (.data buf) =
        ({ c with readBuffer := tail', eagainCount := 0, eofCount := 0 },
          lines'.flatMap (IPCClient.onLine decode)) := by
      simp only [IPCClient.poll, hfd, hbuf, Option.getD_some, hrun, ForInStep.value,
        List.nil_append]
    rw [hpoll]
    exact ⟨⟨lines ++ lines', tail', hlines.append hlines', by rw [List.flatMap_append],
      fun _ => rfl⟩, hsock⟩
  | again =>
    obtain rfl : more = [] := (Option.some.inj hmore).symm
    have hpoll : IPCClient.poll decode c .again = ({ c with eagainCount := c.eagainCount + 1 }, []) := by
      simp only [IPCClient.poll, hfd]
    rw [hpoll, List.append_nil, List.append_nil]
    exact ⟨⟨lines, _, hlines, rfl, fun _ => rfl⟩, hsock⟩
  | eof => cases hlive
  | error => cases hlive

end Reads

/-! ### Runs over one connection -/

/-- The result of a tick's read. -/
def UiEvent.read : UiEvent → Option SockRead
  | tick _ _ read => some read
  | _ => none

/-- The bytes an event reads. -/
def UiEvent.bytes (e : UiEvent) : List UInt8 := e.read.elim [] SockRead.bytes

namespace AppDelegate

variable {Double : Type} {decode : List UInt8 → Option (IPCMessage Double)}
  {texts : StatsTexts Double} {s t : AppDelegate Double}

/-- The calls of an event. -/
def calls (decode : List UInt8 → Option (IPCMessage Double)) (s : AppDelegate Double) (e : UiEvent) :
    List (UiCall Double) :=
  e.read.elim [] fun read => (IPCClient.poll decode s.ipcClient read).2

/-- The blocks an event puts on the main queue are those of its calls. -/
theorem enqueued_eq (decode : List UInt8 → Option (IPCMessage Double)) (s : AppDelegate Double)
    (e : UiEvent) : s.enqueued decode e = (s.calls decode e).filterMap UiCall.block := by
  cases e <;> rfl

/-- What an event does to a connection that is open: it polls it, or leaves it as it is, or
    closes it; and the state shown is that of the block it runs, if it runs one. -/
theorem connected_step {e : UiEvent} (hsock : s.ipcClient.sockFd.isSome = true)
    (h : s.step decode texts e = some t) :
    ((∃ read, e.read = some read ∧ t.ipcClient = (IPCClient.poll decode s.ipcClient read).1) ∨
      e.read = none ∧ (t.ipcClient.sockFd.isSome = true →
        t.ipcClient.readBuffer = s.ipcClient.readBuffer)) ∧
      t.connectionState = (s.ran e).foldl MainBlock.shows s.connectionState := by
  rcases step_cases h with ⟨now, conn, read, rfl, rfl⟩ | ⟨now, b, rest, rfl, hqueue, rfl⟩ |
      ⟨hne, hne', hclick⟩
  · have hstate : (s.updateDuration now).connectionState = s.connectionState := by
      rcases updateDuration_eq now s with heq | ⟨-, title, heq⟩ <;> rw [heq]
    rcases tick_cases decode now conn read s with ⟨-, heq⟩ | ⟨hnone, -⟩ | ⟨hnone, -⟩
    · rw [heq]
      exact ⟨.inl ⟨read, rfl, rfl⟩, hstate⟩
    · rw [hnone] at hsock
      cases hsock
    · rw [hnone] at hsock
      cases hsock
  · have hran : s.ran (.block now) = [b] := by rw [ran, hqueue]; rfl
    rw [hran]
    cases b with
    | updateDisplay stats => exact ⟨.inr ⟨rfl, fun _ => rfl⟩, rfl⟩
    | updateState state ip iface =>
      have hupdated := updateState_updated now state ip iface { s with mainQueue := rest }
      refine ⟨.inr ⟨rfl, fun hopen => ?_⟩, hupdated.connectionState⟩
      -- `disconnected` closes it
      have hne : state ≠ "disconnected".toList := by
        rintro rfl
        rw [runBlock, hupdated.sockFd, if_pos rfl] at hopen
        cases hopen
      rw [runBlock, hupdated.readBuffer, if_neg hne]
  · have hnone : e.read = none ∧ s.ran e = [] := by
      cases e with
      | tick now conn read => exact absurd rfl (hne now conn read)
      | block now => exact absurd rfl (hne' now)
      | startTethering | stopTethering | toggleAutoConnect | quitApp => exact ⟨rfl, rfl⟩
    rw [hnone.2]
    exact ⟨.inr ⟨hnone.1, fun hopen => by rw [hclick.connected hsock hopen]⟩,
      hclick.connectionState⟩

/-- The connection is open before each event of the run, and no read finds it closed. -/
structure Open (l : List (AppDelegate Double × UiEvent)) : Prop where
  sockFd : ∀ p ∈ l, p.1.ipcClient.sockFd.isSome = true
  live : ∀ p ∈ l, ∀ read, p.2.read = some read → read.live = true

/-- The bytes that a run reads. -/
def bytesIn (l : List (AppDelegate Double × UiEvent)) : List UInt8 :=
  l.reverse.flatMap fun p => p.2.bytes

/-- The blocks that a run runs. -/
def blocksRun (l : List (AppDelegate Double × UiEvent)) : List (MainBlock Double) :=
  l.reverse.flatMap fun p => p.1.ran p.2

/-- The state that is shown is that of the last state block that ran. -/
theorem connectionState_of_run {l : List (AppDelegate Double × UiEvent)}
    (h : Run (step decode texts) s l t) (hopen : Open l) :
    t.connectionState = (blocksRun l).foldl MainBlock.shows s.connectionState := by
  induction h with
  | start => rfl
  | @snoc l u v e _ hst ih =>
    obtain ⟨hsock, hsocks⟩ := List.forall_mem_cons.mp hopen.sockFd
    obtain ⟨-, hlive⟩ := List.forall_mem_cons.mp hopen.live
    rw [(connected_step hsock hst).2, ih ⟨hsocks, hlive⟩, blocksRun, blocksRun, List.reverse_cons,
      List.flatMap_append, List.flatMap_singleton, List.foldl_append]

/-- What has been read over a connection, the client has received. -/
theorem received_of_run {uiFd : Fd} {eofCount : Nat} {l : List (AppDelegate Double × UiEvent)}
    (hstart : s.ipcClient = .connected uiFd eofCount) (h : Run (step decode texts) s l t)
    (hopen : Open l) {stream : List Char} (hascii : Ascii stream) {rest : List UInt8}
    (hbytes : bytesIn l ++ rest = utf8Bytes stream) :
    Received decode (stream.take (bytesIn l).length)
      (l.reverse.flatMap fun p => p.1.calls decode p.2) t.ipcClient := by
  induction h generalizing rest with
  | start =>
    rw [hstart]
    exact ⟨[], [], .of_not_mem List.not_mem_nil, rfl, fun _ => rfl⟩
  | @snoc l u v e _ hst ih =>
    obtain ⟨hsock, hsocks⟩ := List.forall_mem_cons.mp hopen.sockFd
    obtain ⟨hlive, hlives⟩ := List.forall_mem_cons.mp hopen.live
    have hmore : bytesIn ((u, e) :: l) = bytesIn l ++ e.bytes := by
      simp [bytesIn]
    rw [hmore, List.append_assoc] at hbytes
    have hreceived := ih ⟨hsocks, hlives⟩ hbytes
    obtain ⟨-, hrest⟩ := IPCClient.utf8String_of_append hascii hbytes.symm
    obtain ⟨hpiece, -⟩ := IPCClient.utf8String_of_append
      (fun c hc => hascii c (List.mem_of_mem_drop hc)) hrest.symm
    rw [hmore, List.length_append, List.take_add, List.reverse_cons, List.flatMap_append,
      List.flatMap_singleton]
    rcases (connected_step hsock hst).1 with ⟨read, hread, hclient⟩ | ⟨hread, hclient⟩
    · have hbytes : e.bytes = read.bytes := by rw [UiEvent.bytes, hread]; rfl
      have hcalls : u.calls decode e = (IPCClient.poll decode u.ipcClient read).2 := by
        rw [calls, hread]
        rfl
      rw [hbytes] at hpiece ⊢
      rw [hcalls, hclient]
      exact (hreceived.poll hsock (hlive read hread) hpiece).1
    · have hbytes : e.bytes = [] := by rw [UiEvent.bytes, hread]; rfl
      have hcalls : u.calls decode e = [] := by rw [calls, hread]; rfl
      obtain ⟨lines, tail, hlines, heq, hbuffer⟩ := hreceived.lines
      rw [hbytes, hcalls, List.length_nil, List.take_zero, List.append_nil, List.append_nil]
      exact ⟨lines, tail, hlines, heq, fun hsome => (hclient hsome).trans (hbuffer hsock)⟩

/-- Over a connection on which the lines of `msgs` arrive, polls put the blocks of the first of
    them on the main queue, and of all when all has been read. -/
theorem enqueued_of_run {double : Rate → Double} {uiFd : Fd} {eofCount : Nat}
    {l : List (AppDelegate Double × UiEvent)} {msgs : List DaemonMsg}
    (hdecode : ∀ msg ∈ msgs, decode (utf8Bytes msg.line) = some (msg.fields double))
    (hstart : s.ipcClient = .connected uiFd eofCount) (h : Run (step decode texts) s l t)
    (hopen : Open l) {rest : List UInt8}
    (hbytes : bytesIn l ++ rest = utf8Bytes (msgs.flatMap DaemonMsg.json)) :
    ∃ k, l.reverse.flatMap (fun p => p.1.enqueued decode p.2) =
        (msgs.take k).map (DaemonMsg.block double) ∧ (rest = [] → msgs.length ≤ k) := by
  have hascii : Ascii (msgs.flatMap DaemonMsg.json) := by
    intro c hc
    obtain ⟨msg, -, hc⟩ := List.mem_flatMap.mp hc
    exact msg.ascii_json c hc
  obtain ⟨lines, tail, hlines, hcalls, -⟩ := (received_of_run hstart h hopen hascii hbytes).lines
  -- the complete lines are those of the first messages
  have hall : Lines '\n' (msgs.flatMap DaemonMsg.json) (msgs.map DaemonMsg.line) [] := by
    refine ⟨?_, ?_, List.not_mem_nil⟩
    · rw [List.append_nil, List.flatMap_map]
      exact List.flatMap_congr fun msg _ => msg.json_line
    · rw [List.forall_mem_map]
      exact fun msg _ => msg.newline_line
  rw [← List.take_append_drop (bytesIn l).length (msgs.flatMap DaemonMsg.json)] at hall
  obtain ⟨hfirst, heq⟩ := hlines.isPrefix_of_append hall
  rw [List.prefix_iff_eq_take, ← List.map_take] at hfirst
  refine ⟨lines.length, ?_, ?_⟩
  · have hblocks : l.reverse.flatMap (fun p => p.1.enqueued decode p.2) =
        (l.reverse.flatMap fun p => p.1.calls decode p.2).filterMap UiCall.block := by
      rw [List.filterMap_flatMap]
      exact List.flatMap_congr fun p _ => enqueued_eq decode p.1 p.2
    rw [hblocks, hcalls, List.filterMap_flatMap]
    nth_rewrite 1 [hfirst]
    rw [List.flatMap_map, List.map_eq_flatMap]
    exact List.flatMap_congr fun msg hmsg =>
      msg.onLine_line (hdecode msg (List.mem_of_mem_take hmsg))
  · rintro rfl
    have hlen : (msgs.flatMap DaemonMsg.json).length ≤ (bytesIn l).length := by
      rw [List.append_nil] at hbytes
      rw [hbytes, IPCClient.utf8Bytes_of_ascii hascii, List.length_map]
    rw [heq (List.drop_eq_nil_of_le hlen), List.length_map]

end AppDelegate

/-! ### Both ends -/

/-- The message that an action of the daemon sends. -/
def IpcAct.msg : IpcAct → Option DaemonMsg
  | .poll _ => none
  | .send msg _ _ => some msg

/-- What has been handed to `send_to_client` are messages of the run. -/
theorem sent_of_run {l : List (IpcNet × IpcAct)} {t : IpcNet} (h : Run IpcNet.step .start l t)
    (fd : Fd) : ∃ msgs : List DaemonMsg, t.sent fd = msgs.map DaemonMsg.json ∧
      ∀ msg ∈ msgs, ∃ p ∈ l, p.2.msg = some msg := by
  induction h with
  | start => exact ⟨[], rfl, by simp⟩
  | @snoc l s t a _ hst ih =>
    obtain ⟨msgs, hmsgs, hrun⟩ := ih
    have hold : ∀ msg ∈ msgs, ∃ p ∈ (s, a) :: l, p.2.msg = some msg := fun msg hmsg => by
      obtain ⟨p, hp, heq⟩ := hrun msg hmsg
      exact ⟨p, List.mem_cons_of_mem _ hp, heq⟩
    cases a with
    | poll inp =>
      rw [(step_poll hst).2]
      exact ⟨msgs, hmsgs, hold⟩
    | send msg space nlSpace =>
      cases hst
      split
      · -- each slot hands over the message once more, or not
        obtain ⟨ls, hslots, -⟩ := run_foldl (sendSlot msg.json space nlSpace) s
          (List.finRange maxClients)
        refine hslots.invariant (I := fun u => ∃ msgs : List DaemonMsg,
          u.sent fd = msgs.map DaemonMsg.json ∧
            ∀ m ∈ msgs, ∃ p ∈ (s, IpcAct.send msg space nlSpace) :: l, p.2.msg = some m)
          ⟨msgs, hmsgs, hold⟩ fun u i v ⟨msgs', hmsgs', hold'⟩ huv => ?_
        cases huv
        rcases sendSlot_cases msg space nlSpace u i fd with ⟨hsent, -⟩ | ⟨-, hsent, -⟩
        · exact ⟨msgs', hsent.trans hmsgs', hold'⟩
        · refine ⟨msgs' ++ [msg], by rw [hsent, hmsgs', List.map_append]; rfl, ?_⟩
          intro m hm
          rcases List.mem_append.mp hm with hm | hm
          · exact hold' m hm
          · exact ⟨_, List.mem_cons_self, by rw [List.mem_singleton.mp hm]; rfl⟩
      · exact ⟨msgs, hmsgs, hold⟩

open AppDelegate in
/-- **The menu follows the daemon.**  When no `write` takes only a part of a message, what
    arrives on a connection are some of the messages sent on it, as a whole and in order.  A
    menu that reads it, in any pieces and with any clicks in between, runs the blocks of these
    messages, in order and each once, but for those that have not arrived or wait in the main
    queue; and the state it shows is that of the last one it ran. -/
theorem menu_follows {Double : Type} {decode : List UInt8 → Option (IPCMessage Double)}
    {texts : StatsTexts Double} {double : Rate → Double} {ln : List (IpcNet × IpcAct)}
    {net : IpcNet} (hnet : Run IpcNet.step .start ln net) (hwhole : ∀ p ∈ ln, p.1.WritesWhole p.2)
    (hdecode : ∀ p ∈ ln, ∀ msg, p.2.msg = some msg →
      decode (utf8Bytes msg.line) = some (msg.fields double))
    (fd : Fd) {uiFd : Fd} {eofCount : Nat} {s t : AppDelegate Double}
    {l : List (AppDelegate Double × UiEvent)} (hstart : s.ipcClient = .connected uiFd eofCount)
    (h : Run (step decode texts) s l t) (hopen : Open l) {rest : List UInt8}
    (hbytes : bytesIn l ++ rest = utf8Bytes (net.stream fd)) :
    ∃ sent msgs : List DaemonMsg, net.sent fd = sent.map DaemonMsg.json ∧ msgs.Sublist sent ∧
      net.stream fd = msgs.flatMap DaemonMsg.json ∧
      (∃ k, s.mainQueue ++ (msgs.take k).map (DaemonMsg.block double) =
          blocksRun l ++ t.mainQueue ∧ (rest = [] → msgs.length ≤ k)) ∧
      t.connectionState = (blocksRun l).foldl MainBlock.shows s.connectionState := by
  obtain ⟨sent, hsent, hrun⟩ := sent_of_run hnet fd
  have hgood : net.Good := by
    rcases good_or_bad_of_run hnet with ⟨-, hgood⟩ | ⟨hnot, -⟩
    · exact hgood
    · exact absurd hwhole hnot
  obtain ⟨sub, hsub, hstream⟩ := hgood.2 fd
  rw [hsent] at hsub
  obtain ⟨msgs, hmsgs, rfl⟩ := List.sublist_map_iff.mp hsub
  have hdecode' : ∀ msg ∈ msgs, decode (utf8Bytes msg.line) = some (msg.fields double) := by
    intro msg hmsg
    obtain ⟨p, hp, heq⟩ := hrun msg (hmsgs.subset hmsg)
    exact hdecode p hp msg heq
  have hflat : net.stream fd = msgs.flatMap DaemonMsg.json := by
    rw [hstream]
    rfl
  rw [hflat] at hbytes
  obtain ⟨k, henqueued, hall⟩ := enqueued_of_run hdecode' hstart h hopen hbytes
  refine ⟨sent, msgs, hsent, hmsgs, hflat, ⟨k, ?_, hall⟩, connectionState_of_run h hopen⟩
  rw [← henqueued]
  exact mainQueue_of_run h

/-- The address of a session and its utun interface. -/
def connectedMsg : DaemonMsg := .state .connected (some (⟨192, 168, 42, 129⟩, 7))

/-- What the daemon sends to its first client; the statistics meet a full socket. -/
def sessionStarts : List IpcAct :=
  [.poll (Daemon.pollOf (some 0) .again),
    .send (.state .watching none) (fun _ => 100) fun _ => 0,
    .send someStats (fun _ => 0) fun _ => 0,
    .send connectedMsg (fun _ => 100) fun _ => 0]

/-- A decoder that knows these messages. -/
def decodeSession (bytes : List UInt8) : Option (IPCMessage Nat) :=
  ([.state .watching none, someStats, connectedMsg].find? fun msg =>
    utf8Bytes msg.line = bytes).map (DaemonMsg.fields Rate.hundredths)

/-- The bytes that arrive. -/
def sessionBytes : List UInt8 :=
  utf8Bytes ([DaemonMsg.state .watching none, connectedMsg].flatMap DaemonMsg.json)

/-- The timer reads them in two pieces, cut inside the second message; a click comes between. -/
def readsSession : List UiEvent :=
  [.tick 0 none (.data ⟨sessionBytes.take 50, by decide +kernel, by decide +kernel⟩), .block 0,
    .toggleAutoConnect none,
    .tick 1000000 none (.data ⟨sessionBytes.drop 50, by decide +kernel, by decide +kernel⟩),
    .block 1000000]

/-- A menu that has just connected. -/
def justConnected : AppDelegate Nat := (AppDelegate.launched false).connect 3

open AppDelegate in
/-- The menu runs the two blocks that arrived and shows the session. -/
theorem menu_follows_session :
    ∃ (l : List (AppDelegate Nat × UiEvent)) (t : AppDelegate Nat) (msgs : List DaemonMsg),
      Run (step decodeSession ⟨fun _ => [], fun _ => [], fun _ => []⟩) justConnected l t ∧
        sessionBytes = utf8Bytes (msgs.flatMap DaemonMsg.json) ∧
        blocksRun l = msgs.map (DaemonMsg.block Rate.hundredths) ∧
        t.connectionState = (blocksRun l).foldl MainBlock.shows justConnected.connectionState ∧
        t.connectionState = "connected".toList := by
  obtain ⟨ln, net, hnet, hwhole, hacts, hstream⟩ := exists_run_of_exec_actions IpcNet.step
    (fun s a => decide (s.WritesWhole a)) (fun net => utf8Bytes (net.stream 0) == sessionBytes)
    .start sessionStarts (by decide +kernel)
  have hdecode : ∀ p ∈ ln, ∀ msg, p.2.msg = some msg →
      decodeSession (utf8Bytes msg.line) = some (msg.fields Rate.hundredths) := by
    intro p hp msg hmsg
    have hmem : p.2 ∈ sessionStarts.reverse := hacts ▸ List.mem_map_of_mem hp
    have hall : ∀ a ∈ sessionStarts.reverse, ∀ msg, a.msg = some msg →
        msg ∈ [DaemonMsg.state .watching none, someStats, connectedMsg] := by
      simp [sessionStarts, IpcAct.msg]
    have hknown : ∀ msg ∈ [DaemonMsg.state .watching none, someStats, connectedMsg],
        decodeSession (utf8Bytes msg.line) = some (msg.fields Rate.hundredths) := by
      simp only [List.forall_mem_cons]
      exact ⟨rfl, rfl, rfl, nofun⟩
    exact hknown msg (hall p.2 hmem msg hmsg)
  obtain ⟨l, t, hrun, hok, hevents, ht⟩ := exists_run_of_exec_actions
    (step decodeSession ⟨fun _ => [], fun _ => [], fun _ => []⟩)
    (fun s e => s.ipcClient.sockFd.isSome && e.read.all SockRead.live)
    (fun t => t.mainQueue.isEmpty && t.connectionState == "connected".toList)
    justConnected readsSession (by decide +kernel)
  simp only [Bool.and_eq_true, List.isEmpty_iff, beq_iff_eq] at hok ht
  have hopen : Open l := by
    refine ⟨fun p hp => (hok p hp).1, fun p hp read hread => ?_⟩
    have hlive := (hok p hp).2
    rwa [hread] at hlive
  have hbytes : bytesIn l ++ [] = utf8Bytes (net.stream 0) := by
    have hread : bytesIn l = readsSession.flatMap UiEvent.bytes := by
      rw [bytesIn, ← List.flatMap_map Prod.snd UiEvent.bytes, List.map_reverse, hevents,
        List.reverse_reverse]
    rw [hread, eq_of_beq hstream]
    decide +kernel
  obtain ⟨-, msgs, -, -, hflat, ⟨k, hqueue, hall⟩, hstate⟩ := menu_follows hnet
    (fun p hp => of_decide_eq_true (hwhole p hp)) hdecode 0 rfl hrun hopen hbytes
  refine ⟨l, t, msgs, hrun, ?_, ?_, hstate, ht.2⟩
  · rw [← hflat, eq_of_beq hstream]
  · rw [ht.1, List.append_nil, List.take_of_length_le (hall rfl)] at hqueue
    exact hqueue.symm

end AndroidTether
