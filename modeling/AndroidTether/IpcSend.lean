import AndroidTether.Daemon
import AndroidTether.DhcpOptions
import AndroidTether.Lib.Framing

namespace AndroidTether

open Framing Trans

/-!
# Broadcasts to the UI

`send_to_client`, `send_to_all`, `ipc_server_send_stats` and `ipc_server_send_state` of
`ipc.c`: every message is one line of JSON, written to the non-blocking socket of every
client, and what `write` returns is only looked at to decide about the newline.

* `DaemonMsg.framed` — every message is a line that starts with its only `\x7b`;
* `streamsWhole_iff` — in a run, every client receives messages as a whole, exactly when no
  `write` of the run takes only a part of a message.
-/

/-! ### Messages -/

/-- `%llu` and `%d` of a number that is not negative. -/
def decimal (n : Nat) : CStr := Nat.toDigits 10 n

/-- A rate in Mbps as `%.2f` prints it, in hundredths.  All bytes a counter can hold, sent in
    one second, are less than `10 ^ 17` hundredths. -/
structure Rate where
  hundredths : Nat
  lt : hundredths < 10 ^ 17

/-- `%.2f` -/
def Rate.text (r : Rate) : CStr :=
  decimal (r.hundredths / 100) ++
    ['.', Nat.digitChar (r.hundredths / 10 % 10), Nat.digitChar (r.hundredths % 10)]

/-- `tether_stats_t` -/
structure TetherStats where
  txMbps : Rate
  rxMbps : Rate
  txBytes : UInt64
  rxBytes : UInt64
  txPkts : UInt64
  rxPkts : UInt64

/-- The name of a state. -/
def UiState.text : UiState → CStr
  | idle => "idle".toList
  | watching => "watching".toList
  | connected => "connected".toList
  | disconnected => "disconnected".toList

/-- A message: statistics, or a state, with an address and the number of the utun interface
    when the session is connected. -/
inductive DaemonMsg where
  | stats (st : TetherStats)
  | state (st : UiState) (addr : Option (InAddr × Fin 256))

/-- The text between the first character and the newline. -/
def DaemonMsg.body : DaemonMsg → CStr
  | stats st =>
    "\"type\":\"stats\",\"tx_mbps\":".toList ++ st.txMbps.text ++ ",\"rx_mbps\":".toList ++
      st.rxMbps.text ++ ",\"tx_bytes\":".toList ++ decimal st.txBytes.toNat ++
      ",\"rx_bytes\":".toList ++ decimal st.rxBytes.toNat ++ ",\"tx_pkts\":".toList ++
      decimal st.txPkts.toNat ++ ",\"rx_pkts\":".toList ++ decimal st.rxPkts.toNat ++
      "\x7d".toList
  | state st (some (ip, unit)) =>
    "\"type\":\"state\",\"state\":\"".toList ++ st.text ++ "\",\"ip\":\"".toList ++ inetNtoa ip ++
      "\",\"iface\":\"".toList ++ ("utun".toList ++ decimal unit) ++ "\"\x7d".toList
  | state st none =>
    "\"type\":\"state\",\"state\":\"".toList ++ st.text ++ "\"\x7d".toList

/-- `char json[512]` or `char json[256]` -/
def DaemonMsg.bufSize : DaemonMsg → Nat
  | stats _ => 512
  | state _ _ => 256

/-- `json` after `snprintf`. -/
def DaemonMsg.json (msg : DaemonMsg) : CStr :=
  ('\x7b' :: (msg.body ++ ['\n'])).take (msg.bufSize - 1)

/-! ### Sending -/

/-- `send_to_client`: the bytes the socket takes.  A `write` takes as much as there is space
    for, and nothing (`EAGAIN`) when there is none; `nlSpace` is for the second `write`. -/
def sendToClient (space nlSpace : Nat) (json : CStr) : List Char :=
  let n := min space json.length
  json.take n ++ if 0 < n ∧ json.getLast? ≠ some '\n' then ['\n'].take nlSpace else []

/-- The server, the number of the next connection, and for each connection the bytes its
    socket has taken and the messages handed to `send_to_client` for it. -/
structure IpcNet where
  srv : IpcServer
  next : Fd
  stream : Fd → List Char
  sent : Fd → List CStr

/-- The loop body of `send_to_all` at slot `i`. -/
def sendSlot (json : CStr) (space nlSpace : Fin maxClients → Nat) (s : IpcNet)
    (i : Fin maxClients) : IpcNet :=
  match s.srv.clientFds i with
  | none => s
  | some fd =>
    { s with
      stream := Function.update s.stream fd
        (s.stream fd ++ sendToClient (space i) (nlSpace i) json)
      sent := Function.update s.sent fd (s.sent fd ++ [json]) }

/-- `send_to_all` -/
def sendToAll (s : IpcNet) (json : CStr) (space nlSpace : Fin maxClients → Nat) : IpcNet :=
  (List.finRange maxClients).foldl (sendSlot json space nlSpace) s

/-- `ipc_server_send_stats` returns at once when there are no clients. -/
def IpcServer.sends (srv : IpcServer) : DaemonMsg → Bool
  | .stats _ => srv.numClients ≠ 0
  | .state _ _ => true

/-- What the daemon does with the server. -/
inductive IpcAct where
  | poll (inp : PollInput)
  | send (msg : DaemonMsg) (space nlSpace : Fin maxClients → Nat)

/-- `ipc_server_poll`, `ipc_server_send_stats`, `ipc_server_send_state`.  A connection that is
    accepted has a number of its own. -/
def IpcNet.step (s : IpcNet) : IpcAct → Option IpcNet
  | .poll inp =>
    match inp.accept with
    | none => some { s with srv := (ipcServerPoll s.srv inp).1 }
    | some fd =>
      if fd = s.next then some { s with srv := (ipcServerPoll s.srv inp).1, next := fd + 1 }
      else none
  | .send msg space nlSpace =>
    some (if s.srv.sends msg then sendToAll s msg.json space nlSpace else s)

/-- After `ipc_server_create`. -/
def IpcNet.start : IpcNet := ⟨.create, 0, fun _ => [], fun _ => []⟩

/-- Every client has received messages sent to it, each as a whole, in order. -/
def IpcNet.StreamsWhole (s : IpcNet) : Prop := ∀ fd, Whole (s.sent fd) (s.stream fd)

/-- No `write` of the action takes only a part of the message. -/
def IpcNet.WritesWhole (s : IpcNet) : IpcAct → Prop
  | .poll _ => True
  | .send msg space _ =>
    s.srv.sends msg = true → ∀ i, (s.srv.clientFds i).isSome →
      space i = 0 ∨ msg.json.length ≤ space i

instance (s : IpcNet) (a : IpcAct) : Decidable (s.WritesWhole a) :=
  match a with
  | .poll _ => inferInstanceAs (Decidable True)
  | .send msg space _ => inferInstanceAs (Decidable (s.srv.sends msg = true → ∀ i,
      (s.srv.clientFds i).isSome → space i = 0 ∨ msg.json.length ≤ space i))

/-! ### The text of a message -/

/-- Neither a newline nor an opening brace. -/
def Plain (s : CStr) : Prop := '\x7b' ∉ s ∧ '\n' ∉ s

/-- A text is plain when its parts are. -/
@[simp] theorem plain_append {s t : CStr} : Plain (s ++ t) ↔ Plain s ∧ Plain t := by
  simp only [Plain, List.mem_append, not_or]
  tauto

instance (s : CStr) : Decidable (Plain s) := inferInstanceAs (Decidable (_ ∧ _))

/-- Digits are plain. -/
theorem plain_of_forall_isDigit {s : CStr} (h : ∀ c ∈ s, c.isDigit) : Plain s :=
  ⟨fun hc => absurd (h _ hc) (by decide), fun hc => absurd (h _ hc) (by decide)⟩

/-- A number is plain text. -/
@[simp] theorem plain_decimal (n : Nat) : Plain (decimal n) :=
  plain_of_forall_isDigit fun _ hc => Nat.isDigit_of_mem_toDigits (by decide) (by decide) hc

/-- A number below `10 ^ k` has at most `k` digits. -/
theorem decimal_length_le {n k : Nat} (hk : 0 < k) (h : n < 10 ^ k) : (decimal n).length ≤ k :=
  (Nat.length_toDigits_le_iff (by decide) hk).mpr h

/-- A rate is plain text. -/
@[simp] theorem plain_rate (r : Rate) : Plain r.text := by
  have hdigit : ∀ n < 10, Plain [Nat.digitChar n] := by decide
  have h₁ := hdigit _ (Nat.mod_lt (r.hundredths / 10) (by decide))
  have h₂ := hdigit _ (Nat.mod_lt r.hundredths (by decide))
  have htext : r.text = decimal (r.hundredths / 100) ++ (['.'] ++
      ([Nat.digitChar (r.hundredths / 10 % 10)] ++ [Nat.digitChar (r.hundredths % 10)])) := rfl
  rw [htext, plain_append, plain_append, plain_append]
  exact ⟨plain_decimal _, by decide, h₁, h₂⟩

/-- Room enough for a rate. -/
theorem rate_length_le (r : Rate) : r.text.length ≤ 18 := by
  have hlen : (decimal (r.hundredths / 100)).length ≤ 15 :=
    decimal_length_le (by decide) (Nat.div_lt_of_lt_mul r.lt)
  simp only [Rate.text, List.length_append, List.length_cons, List.length_nil]
  omega

/-- An address is plain text. -/
@[simp] theorem plain_inetNtoa (a : InAddr) : Plain (inetNtoa a) := by
  simp only [inetNtoa, InAddr.bytes, List.map_cons, List.map_nil, List.intercalate_cons_cons,
    List.intercalate_singleton, plain_append]
  have hoctet : ∀ b, Plain (octet b) := fun b => plain_decimal b.toNat
  exact ⟨⟨hoctet _, by decide⟩, ⟨hoctet _, by decide⟩, ⟨hoctet _, by decide⟩, hoctet _⟩

/-- An address takes at most fifteen characters. -/
theorem inetNtoa_length_le (a : InAddr) : (inetNtoa a).length ≤ 15 := by
  rw [← strlcpy_inetNtoa a]
  exact List.length_take_le _ _

/-- The names of states are plain text. -/
@[simp] theorem plain_text (st : UiState) : Plain st.text := by
  cases st <;> decide

/-- The longest name of a state is `disconnected`. -/
theorem text_length_le (st : UiState) : st.text.length ≤ 12 := by
  cases st <;> decide

namespace DaemonMsg

/-- The text of statistics, as it is put together. -/
theorem body_stats (st : TetherStats) : (stats st).body =
    "\"type\":\"stats\",\"tx_mbps\":".toList ++ st.txMbps.text ++ ",\"rx_mbps\":".toList ++
      st.rxMbps.text ++ ",\"tx_bytes\":".toList ++ decimal st.txBytes.toNat ++
      ",\"rx_bytes\":".toList ++ decimal st.rxBytes.toNat ++ ",\"tx_pkts\":".toList ++
      decimal st.txPkts.toNat ++ ",\"rx_pkts\":".toList ++ decimal st.rxPkts.toNat ++
      "\x7d".toList := rfl

/-- The text of a session's state. -/
theorem body_connected (st : UiState) (ip : InAddr) (unit : Fin 256) :
    (state st (some (ip, unit))).body =
      "\"type\":\"state\",\"state\":\"".toList ++ st.text ++ "\",\"ip\":\"".toList ++
        inetNtoa ip ++ "\",\"iface\":\"".toList ++ ("utun".toList ++ decimal unit) ++
        "\"\x7d".toList := rfl

/-- The text of any other state. -/
theorem body_state (st : UiState) : (state st none).body =
    "\"type\":\"state\",\"state\":\"".toList ++ st.text ++ "\"\x7d".toList := rfl

/-- Between its first brace and its newline a message is plain text. -/
theorem plain_body (msg : DaemonMsg) : Plain msg.body := by
  match msg with
  | stats st =>
    simp only [body_stats, plain_append, plain_rate, plain_decimal, and_true]
    decide +kernel
  | state st (some (ip, unit)) =>
    simp only [body_connected, plain_append, plain_text, plain_inetNtoa, plain_decimal, and_true]
    decide +kernel
  | state st none =>
    simp only [body_state, plain_append, plain_text, and_true]
    decide +kernel

/-- The buffer has room for the braces, the newline and the terminator. -/
theorem body_length_le (msg : DaemonMsg) : msg.body.length + 3 ≤ msg.bufSize := by
  match msg with
  | stats st =>
    have h₁ := rate_length_le st.txMbps
    have h₂ := rate_length_le st.rxMbps
    have hcount : ∀ n : UInt64, (decimal n.toNat).length ≤ 20 := fun n =>
      decimal_length_le (by decide) (n.toNat_lt.trans (by decide))
    have h₃ := hcount st.txBytes
    have h₄ := hcount st.rxBytes
    have h₅ := hcount st.txPkts
    have h₆ := hcount st.rxPkts
    simp only [body_stats, List.length_append, String.reduceToList, List.length_cons,
      List.length_nil, bufSize]
    omega
  | state st (some (ip, unit)) =>
    have h₁ := text_length_le st
    have h₂ := inetNtoa_length_le ip
    have h₃ : (decimal unit).length ≤ 3 :=
      decimal_length_le (by decide) (unit.isLt.trans (by decide))
    simp only [body_connected, List.length_append, String.reduceToList, List.length_cons,
      List.length_nil, bufSize]
    omega
  | state st none =>
    have h₁ := text_length_le st
    simp only [body_state, List.length_append, String.reduceToList, List.length_cons,
      List.length_nil, bufSize]
    omega

/-- Nothing is cut off a message before it is sent. -/
theorem json_eq (msg : DaemonMsg) : msg.json = '\x7b' :: (msg.body ++ ['\n']) := by
  have hlen := msg.body_length_le
  apply List.take_of_length_le
  simp only [List.length_cons, List.length_append, List.length_nil]
  omega

/-- **Messages.**  A message is a line that starts with its only opening brace. -/
theorem framed (msg : DaemonMsg) : Framed '\x7b' '\n' msg.json :=
  ⟨msg.body, msg.json_eq, msg.plain_body.1, msg.plain_body.2⟩

end DaemonMsg

/-! ### Streams -/

/-- The second `write` of `send_to_client` never happens. -/
theorem sendToClient_eq (space nlSpace : Nat) (msg : DaemonMsg) :
    sendToClient space nlSpace msg.json = msg.json.take space := by
  have hlast : msg.json.getLast? = some '\n' := by simp [msg.json_eq, List.getLast?_cons]
  rw [sendToClient, if_neg fun h => h.2 hlast, List.append_nil, ← List.take_take, List.take_length]

/-- What has been sent to a client are messages. -/
def IpcNet.SentFramed (s : IpcNet) : Prop := ∀ fd, ∀ json ∈ s.sent fd, Framed '\x7b' '\n' json

/-- All that clients have received are whole messages. -/
def IpcNet.Good (s : IpcNet) : Prop := s.SentFramed ∧ s.StreamsWhole

/-- A client has received the beginning of a message without its end. -/
def IpcNet.Bad (s : IpcNet) : Prop :=
  s.SentFramed ∧ ∃ fd, (s.stream fd).count '\n' < (s.stream fd).count '\x7b'

/-- A cut message cannot be seen as whole ones: there is a brace without its newline. -/
theorem IpcNet.Bad.not_good {s : IpcNet} (h : s.Bad) : ¬ s.Good := by
  obtain ⟨hframed, fd, hlt⟩ := h
  intro hgood
  have heq := (hgood.2 fd).count_eq (hframed fd) (by decide)
  omega

section Slot

variable (msg : DaemonMsg) (space nlSpace : Fin maxClients → Nat) {s : IpcNet}

/-- The write to the client in slot `i`, if there is one, is not cut. -/
def SlotWhole (srv : IpcServer) (json : CStr) (space : Fin maxClients → Nat)
    (i : Fin maxClients) : Prop :=
  (srv.clientFds i).isSome → space i = 0 ∨ json.length ≤ space i

/-- Sending does not change the table of clients. -/
@[simp] theorem sendSlot_srv (json : CStr) (i : Fin maxClients) :
    (sendSlot json space nlSpace s i).srv = s.srv := by
  unfold sendSlot
  split <;> rfl

/-- What one slot adds to the stream of a client: nothing, or the beginning of the message. -/
theorem sendSlot_cases (s : IpcNet) (i : Fin maxClients) (fd : Fd) :
    (sendSlot msg.json space nlSpace s i).sent fd = s.sent fd ∧
        (sendSlot msg.json space nlSpace s i).stream fd = s.stream fd ∨
      s.srv.clientFds i = some fd ∧
        (sendSlot msg.json space nlSpace s i).sent fd = s.sent fd ++ [msg.json] ∧
        (sendSlot msg.json space nlSpace s i).stream fd =
          s.stream fd ++ msg.json.take (space i) := by
  unfold sendSlot
  cases hfd : s.srv.clientFds i with
  | none => exact .inl ⟨rfl, rfl⟩
  | some fd' =>
    simp only [sendToClient_eq]
    rcases eq_or_ne fd' fd with rfl | hne
    · exact .inr ⟨rfl, by simp⟩
    · exact .inl ⟨by simp [hne.symm], by simp [hne.symm]⟩

/-- What one slot hands over is a message. -/
theorem IpcNet.SentFramed.sendSlot (h : s.SentFramed) (i : Fin maxClients) :
    (sendSlot msg.json space nlSpace s i).SentFramed := by
  intro fd json hjson
  rcases sendSlot_cases msg space nlSpace s i fd with
    ⟨hsent, -⟩ | ⟨-, hsent, -⟩
  · exact h fd json (hsent ▸ hjson)
  · rw [hsent] at hjson
    rcases List.mem_append.mp hjson with hjson | hjson
    · exact h fd json hjson
    · exact List.mem_singleton.mp hjson ▸ msg.framed

/-- No later message completes a message that was cut. -/
theorem IpcNet.Bad.sendSlot (h : s.Bad) (i : Fin maxClients) :
    (sendSlot msg.json space nlSpace s i).Bad := by
  obtain ⟨hframed, fd, hlt⟩ := h
  refine ⟨hframed.sendSlot msg space nlSpace i, fd, ?_⟩
  rcases sendSlot_cases msg space nlSpace s i fd with
    ⟨-, hstream⟩ | ⟨-, -, hstream⟩
  · rw [hstream]
    exact hlt
  · rw [hstream]
    exact count_append_take_lt msg.framed (by decide) hlt _

/-- One slot leaves whole messages, or cuts this one. -/
theorem IpcNet.Good.sendSlot (h : s.Good) (i : Fin maxClients) :
    SlotWhole s.srv msg.json space i ∧ (sendSlot msg.json space nlSpace s i).Good ∨
      ¬ SlotWhole s.srv msg.json space i ∧ (sendSlot msg.json space nlSpace s i).Bad := by
  have hframed := h.1.sendSlot msg space nlSpace i
  by_cases hok : SlotWhole s.srv msg.json space i
  · refine .inl ⟨hok, hframed, fun fd => ?_⟩
    rcases sendSlot_cases msg space nlSpace s i fd with
      ⟨hsent, hstream⟩ | ⟨hfd, hsent, hstream⟩
    · rw [hsent, hstream]
      exact h.2 fd
    · rw [hsent, hstream, whole_append_take_iff (h.2 fd) (h.1 fd) msg.framed (by decide)]
      exact hok (by simp [hfd])
  · -- the write was cut: the client in this slot has a brace without its newline
    refine .inr ⟨hok, hframed, ?_⟩
    rw [SlotWhole, Classical.not_imp, Option.isSome_iff_exists, not_or, Nat.not_le] at hok
    obtain ⟨⟨fd, hfd⟩, hpos, hlt⟩ := hok
    refine ⟨fd, ?_⟩
    rcases sendSlot_cases msg space nlSpace s i fd with
      ⟨hsent, -⟩ | ⟨-, -, hstream⟩
    · simp [AndroidTether.sendSlot, hfd] at hsent
    · rw [hstream]
      exact count_append_cut msg.framed (by decide) ((h.2 fd).count_eq (h.1 fd) (by decide))
        (Nat.pos_of_ne_zero hpos) hlt

/-- A message to all clients leaves whole messages if no write of it is cut; otherwise a
    client has a part of it. -/
theorem IpcNet.Good.sendToAll (h : s.Good) :
    (∀ i, SlotWhole s.srv msg.json space i) ∧ (sendToAll s msg.json space nlSpace).Good ∨
      (¬ ∀ i, SlotWhole s.srv msg.json space i) ∧ (sendToAll s msg.json space nlSpace).Bad := by
  obtain ⟨l, hrun, hl⟩ := run_foldl (AndroidTether.sendSlot msg.json space nlSpace) s
    (List.finRange maxClients)
  have hslots : (∀ p ∈ l, SlotWhole s.srv msg.json space p.2) ↔
      ∀ i, SlotWhole s.srv msg.json space i := by
    rw [← List.forall_mem_map (P := SlotWhole s.srv msg.json space), hl]
    simp
  rw [← hslots]
  have hends := hrun.good_or_bad (fun t => t.srv = s.srv ∧ t.Good) IpcNet.Bad
    (fun _ i => SlotWhole s.srv msg.json space i) ⟨rfl, h⟩ ?_ ?_
  · exact hends.imp_left fun ⟨hok, hgood⟩ => ⟨hok, hgood.2⟩
  · intro u i t ⟨hsrv, hgood⟩ hst
    cases hst
    have hslot := hgood.sendSlot msg space nlSpace i
    rw [hsrv] at hslot
    exact hslot.imp_left fun ⟨hok, hgood⟩ => ⟨hok, (sendSlot_srv ..).trans hsrv, hgood⟩
  · intro u i t hbad hst
    cases hst
    exact hbad.sendSlot msg space nlSpace i

/-- A message to all does not make up for a cut one. -/
theorem IpcNet.Bad.sendToAll (h : s.Bad) : (sendToAll s msg.json space nlSpace).Bad := by
  obtain ⟨l, hrun, -⟩ := run_foldl (AndroidTether.sendSlot msg.json space nlSpace) s
    (List.finRange maxClients)
  refine hrun.invariant h fun u i t hbad hst => ?_
  cases hst
  exact hbad.sendSlot msg space nlSpace i

end Slot

/-- A poll does not touch the streams. -/
theorem step_poll {s t : IpcNet} {inp : PollInput} (h : s.step (.poll inp) = some t) :
    t.stream = s.stream ∧ t.sent = s.sent := by
  rw [IpcNet.step] at h
  split at h
  · cases h
    exact ⟨rfl, rfl⟩
  · split at h
    · cases h
      exact ⟨rfl, rfl⟩
    · cases h

/-- A step leaves whole messages exactly if it cuts none. -/
theorem IpcNet.Good.step {s t : IpcNet} {a : IpcAct} (h : s.Good) (hst : s.step a = some t) :
    s.WritesWhole a ∧ t.Good ∨ ¬ s.WritesWhole a ∧ t.Bad := by
  cases a with
  | poll inp =>
    obtain ⟨hstream, hsent⟩ := step_poll hst
    refine .inl ⟨trivial, ?_⟩
    rw [Good, SentFramed, StreamsWhole, hstream, hsent]
    exact h
  | send msg space nlSpace =>
    cases hst
    by_cases hsends : s.srv.sends msg = true
    · rw [WritesWhole, imp_iff_right hsends, if_pos hsends]
      exact h.sendToAll msg space nlSpace
    · rw [if_neg hsends]
      exact .inl ⟨fun h => absurd h hsends, h⟩

/-- No step makes up for a cut message. -/
theorem IpcNet.Bad.step {s t : IpcNet} {a : IpcAct} (h : s.Bad) (hst : s.step a = some t) :
    t.Bad := by
  cases a with
  | poll inp =>
    obtain ⟨hstream, hsent⟩ := step_poll hst
    rw [Bad, SentFramed, hstream, hsent]
    exact h
  | send msg space nlSpace =>
    cases hst
    split
    · exact h.sendToAll msg space nlSpace
    · exact h

/-- Nothing has been sent. -/
theorem good_start : IpcNet.start.Good := ⟨fun _ _ hjson => (List.not_mem_nil hjson).elim,
  fun _ => whole_nil⟩

/-- A run ends in a good state if no `write` took only a part of a message, and else in a bad
    one. -/
theorem good_or_bad_of_run {l : List (IpcNet × IpcAct)} {t : IpcNet}
    (h : Run IpcNet.step .start l t) :
    (∀ p ∈ l, p.1.WritesWhole p.2) ∧ t.Good ∨ (¬ ∀ p ∈ l, p.1.WritesWhole p.2) ∧ t.Bad :=
  h.good_or_bad IpcNet.Good IpcNet.Bad IpcNet.WritesWhole good_start
    (fun _ _ _ => IpcNet.Good.step) fun _ _ _ => IpcNet.Bad.step

/-- **Streams.**  After a run, what each client has received are messages sent to it, each as
    a whole and in order, if and only if no `write` of the run took only a part of one. -/
theorem streamsWhole_iff (l : List (IpcNet × IpcAct)) (t : IpcNet)
    (h : Run IpcNet.step .start l t) :
    t.StreamsWhole ↔ ∀ p ∈ l, p.1.WritesWhole p.2 := by
  rcases good_or_bad_of_run h with ⟨hok, hgood⟩ | ⟨hok, hbad⟩
  · exact iff_of_true hgood.2 hok
  · exact iff_of_false (fun hwhole => hbad.not_good ⟨hbad.1, hwhole⟩) hok

/-- The first client has connected. -/
def oneClient : IpcNet :=
  { IpcNet.start with
    srv := (ipcServerPoll .create (Daemon.pollOf (some 0) .again)).1
    next := 1 }

theorem run_oneClient :
    Run IpcNet.step .start [(.start, .poll (Daemon.pollOf (some 0) .again))] oneClient :=
  Run.start.snoc rfl

/-- The client after a message, with space for `n` bytes. -/
def oneMessage (s : IpcNet) (st : UiState) (n : Nat) : IpcNet :=
  sendToAll s (DaemonMsg.state st none).json (fun _ => n) fun _ => 0

/-- Counters after a session's first packets. -/
def someStats : DaemonMsg :=
  .stats ⟨⟨125, by decide⟩, ⟨4012, by decide⟩, 15625, 501500, 12, 340⟩

/-- Two clients connect; the first one's socket is full when the statistics are sent. -/
def oneRefused : List IpcAct :=
  [.poll (Daemon.pollOf (some 0) .again), .poll (Daemon.pollOf (some 1) .again),
    .send (.state .watching none) (fun _ => 100) fun _ => 0,
    .send someStats (fun i => if i.val = 0 then 0 else 200) fun _ => 0,
    .send (.state .idle none) (fun _ => 100) fun _ => 0]

/-- Both clients have received whole messages: the first one all but the refused one. -/
theorem streamsWhole_iff_refused :
    ∃ l t, Run IpcNet.step .start l t ∧ t.StreamsWhole ∧
      t.sent 0 = [DaemonMsg.state .watching none, someStats, .state .idle none].map
        DaemonMsg.json ∧
      t.stream 0 = [DaemonMsg.state .watching none, .state .idle none].flatMap DaemonMsg.json ∧
      t.stream 1 = (t.sent 0).flatten := by
  obtain ⟨l, t, hrun, hok, ht⟩ := exists_run_of_exec IpcNet.step
    (fun s a => decide (s.WritesWhole a))
    (fun t => t.sent 0 == [DaemonMsg.state .watching none, someStats, .state .idle none].map
        DaemonMsg.json &&
      t.stream 0 == [DaemonMsg.state .watching none, .state .idle none].flatMap DaemonMsg.json &&
      t.stream 1 == (t.sent 0).flatten)
    .start oneRefused (by decide +kernel)
  simp only [Bool.and_eq_true, beq_iff_eq] at ht
  obtain ⟨⟨hsent, hfirst⟩, hsecond⟩ := ht
  have hwhole : t.StreamsWhole :=
    (streamsWhole_iff l t hrun).mpr fun p hp => of_decide_eq_true (hok p hp)
  exact ⟨l, t, hrun, hwhole, hsent, hfirst, hsecond⟩

/-- The socket takes ten bytes of a message, and then all of the next one: the client reads
    both as one line. -/
theorem not_streamsWhole :
    ¬ ∀ (l : List (IpcNet × IpcAct)) (t : IpcNet), Run IpcNet.step .start l t → t.StreamsWhole := by
  intro h
  have hcut : oneClient.step (.send (.state .disconnected none) (fun _ => 10) fun _ => 0) =
      some (oneMessage oneClient .disconnected 10) := rfl
  have hnext : (oneMessage oneClient .disconnected 10).step
      (.send (.state .idle none) (fun _ => 100) fun _ => 0) =
        some (oneMessage (oneMessage oneClient .disconnected 10) .idle 100) := rfl
  have hrun := (run_oneClient.snoc hcut).snoc hnext
  have hframed : (oneMessage (oneMessage oneClient .disconnected 10) .idle 100).SentFramed := by
    rcases good_or_bad_of_run hrun with ⟨-, hgood⟩ | ⟨-, hbad⟩
    · exact hgood.1
    · exact hbad.1
  have heq := (h _ _ hrun 0).count_eq (hframed 0) (by decide)
  exact absurd heq (by decide +kernel)

end AndroidTether
