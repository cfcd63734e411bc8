import AndroidTether.Ipc
import AndroidTether.Lib.Delimited
import AndroidTether.Lib.Loop

namespace AndroidTether

open Delimited WhileLoop

/-!
# The UI's end of the socket

`IPCClient.poll` of `MenuApp.swift`: one read, whose text is appended to `readBuffer`, and then
every complete line of `readBuffer` goes to the JSON decoder.  Strings are lists of Unicode
scalars; for ASCII text without carriage returns these are Swift's characters.

* `poll_reads` — what a poll does to the stream read so far;
* `ipcClient_reassembles` — the messages of the daemon, however they are cut into reads.
-/

/-- UTF-8. -/
def utf8Bytes (text : List Char) : List UInt8 := text.flatMap String.utf8EncodeChar

/-- `String(bytes:encoding: .utf8)` -/
def utf8String (bytes : List UInt8) : Option (List Char) :=
  bytes.toByteArray.utf8Decode?.map Array.toList

/-- `IPCMessage`; the rates are of type `Double`. -/
structure IPCMessage (Double : Type) where
  type : List Char
  state : Option (List Char)
  ip : Option (List Char)
  iface : Option (List Char)
  txMbps : Option Double
  rxMbps : Option Double
  txBytes : Option UInt64
  rxBytes : Option UInt64
  txPkts : Option UInt64
  rxPkts : Option UInt64

/-- `Stats`, as `poll` makes it; the fields of the statistics file are `nil`. -/
structure Stats (Double : Type) where
  txMbps : Double
  rxMbps : Double
  txBytes : Option UInt64
  rxBytes : Option UInt64
  txPkts : Option UInt64
  rxPkts : Option UInt64

/-- What `poll` calls: the decoder, `onStats` and `onState`. -/
inductive UiCall (Double : Type) where
  | decode (lineData : List UInt8)
  | onStats (stats : Stats Double)
  | onState (state : List Char) (ip iface : Option (List Char))

/-- `IPCClient`; a negative descriptor is `none`. -/
structure IPCClient where
  sockFd : Option Fd
  readBuffer : List Char
  eagainCount : Nat
  eofCount : Nat

/-- The bytes one `read` returned. -/
structure ReadBytes where
  bytes : List UInt8
  ne_nil : bytes ≠ []
  length_le : bytes.length ≤ 4096

/-- What `read` does: bytes, end of file, `EAGAIN`, or another error. -/
inductive SockRead where
  | data (buf : ReadBytes)
  | eof
  | again
  | error

/-- Bytes or `EAGAIN`. -/
def SockRead.live : SockRead → Bool
  | data _ => true
  | again => true
  | _ => false

/-- The bytes of a read. -/
def SockRead.bytes : SockRead → List UInt8
  | data buf => buf.bytes
  | _ => []

/-- A message of ASCII characters on one line. -/
structure UiMessage where
  text : List Char
  ascii : ∀ c ∈ text, c.toNat < 128
  newline : '\n' ∉ text
  carriageReturn : '\r' ∉ text

/-- The messages, each with a newline behind it. -/
def uiStream (messages : List UiMessage) : List Char :=
  messages.flatMap fun msg => msg.text ++ ['\n']

namespace IPCClient

/-- `IPCClient()` after `connect`, which leaves `eofCount` as it is. -/
def connected (fd : Fd) (eofCount : Nat) : IPCClient := ⟨some fd, [], 0, eofCount⟩

/-- `disconnect` -/
def disconnect (c : IPCClient) : IPCClient := { c with sockFd := none, readBuffer := [] }

section Poll

variable {Double : Type} (decode : List UInt8 → Option (IPCMessage Double))

/-- The calls for a message. -/
def onMessage (msg : IPCMessage Double) : List (UiCall Double) :=
  let rates := if msg.type = "stats".toList then
      msg.txMbps.bind fun tx => msg.rxMbps.map fun rx => (tx, rx)
    else none
  match rates with
  | some (tx, rx) =>
    [.onStats
      { txMbps := tx
        rxMbps := rx
        txBytes := msg.txBytes
        rxBytes := msg.rxBytes
        txPkts := msg.txPkts
        rxPkts := msg.rxPkts }]
  | none =>
    if msg.type = "state".toList then
      [.onState (msg.state.getD "unknown".toList) msg.ip msg.iface]
    else []

/-- The calls for a complete line. -/
def onLine (line : List Char) : List (UiCall Double) :=
  if line = [] then []
  else .decode (utf8Bytes line) :: (decode (utf8Bytes line)).elim [] onMessage

/-- `while let newlineRange = readBuffer.range(of: "\n")`, with the calls made so far. -/
def lineBody (s : List Char × List (UiCall Double)) : ForInStep (List Char × List (UiCall Double)) :=
  if '\n' ∈ s.1 then
    let line := s.1.takeWhile (· ≠ '\n')
    .yield (s.1.drop (line.length + 1), s.2 ++ onLine decode line)
  else .done s

/-- `poll`, with the calls it makes. -/
def poll (c : IPCClient) (read : SockRead) : IPCClient × List (UiCall Double) :=
  match c.sockFd, read with
  | none, _ => (c, [])
  | some _, .data buf =>
    let text := c.readBuffer ++ (utf8String buf.bytes).getD []
    let s := (iterate (lineBody decode) (text.length + 1) (text, [])).value
    ({ c with readBuffer := s.1, eagainCount := 0, eofCount := 0 }, s.2)
  | some _, .eof =>
    let c := { c with eofCount := c.eofCount + 1 }
    if c.eofCount ≥ 3 then (c.disconnect, [.onState "disconnected".toList none none])
    else (c, [])
  | some _, .again => ({ c with eagainCount := c.eagainCount + 1 }, [])
  | some _, .error => (c.disconnect, [.onState "disconnected".toList none none])

/-- One more poll, with the calls made so far. -/
def pollStep (s : IPCClient × List (UiCall Double)) (read : SockRead) :
    IPCClient × List (UiCall Double) :=
  ((poll decode s.1 read).1, s.2 ++ (poll decode s.1 read).2)

/-- Polls one after the other, with all calls made. -/
def polls (c : IPCClient) (reads : List SockRead) : IPCClient × List (UiCall Double) :=
  reads.foldl (pollStep decode) (c, [])

end Poll

/-- What was handed to the decoder. -/
def decoded {Double : Type} (calls : List (UiCall Double)) : List (List UInt8) :=
  calls.filterMap fun call =>
    match call with
    | .decode lineData => some lineData
    | _ => none

/-! ### One poll -/

section Lines

variable {Double : Type} {decode : List UInt8 → Option (IPCMessage Double)}
  {calls calls' : List (UiCall Double)}

/-- The lines decoded in two parts. -/
@[simp] theorem decoded_append : decoded (calls ++ calls') = decoded calls ++ decoded calls' :=
  List.filterMap_append

/-- Acting on a message decodes nothing. -/
theorem decoded_onMessage (msg : IPCMessage Double) : decoded (onMessage msg) = [] := by
  unfold onMessage
  simp only
  split
  · rfl
  · split <;> rfl

/-- A line that is not empty is handed over. -/
theorem decoded_onLine (line : List Char) :
    decoded (onLine decode line) = if line = [] then [] else [utf8Bytes line] := by
  unfold onLine
  split
  · rfl
  · have hmessage : decoded ((decode (utf8Bytes line)).elim [] onMessage) = [] := by
      cases decode (utf8Bytes line) with
      | none => rfl
      | some msg => exact decoded_onMessage msg
    show utf8Bytes line :: decoded _ = _
    rw [hmessage]

/-- The lines of some text that are handed over. -/
theorem decoded_flatMap_onLine (lines : List (List Char)) :
    decoded (lines.flatMap (onLine decode)) = (lines.filter (· ≠ [])).map utf8Bytes := by
  induction lines with
  | nil => rfl
  | cons line lines ih =>
    rw [List.flatMap_cons, decoded_append, decoded_onLine, ih]
    by_cases h : line = [] <;> simp [h]

/-- **The loop over the lines.**  It takes the complete lines off the buffer, in order, and leaves
    the rest. -/
theorem lineBody_reads (decode : List UInt8 → Option (IPCMessage Double)) {n : Nat}
    {text : List Char} (h : text.length < n) (calls : List (UiCall Double)) :
    ∃ lines tail, Lines '\n' text lines tail ∧
      iterate (lineBody decode) n (text, calls) =
        .done (tail, calls ++ lines.flatMap (onLine decode)) := by
  induction n generalizing text calls with
  | zero => exact absurd h (Nat.not_lt_zero _)
  | succ n ih =>
    by_cases hmem : '\n' ∈ text
    · obtain ⟨line, rest, rfl, hline⟩ := List.eq_append_cons_of_mem hmem
      have htake : (line ++ '\n' :: rest).takeWhile (· ≠ '\n') = line := by
        rw [List.takeWhile_append_of_pos (by simpa using fun c hc => ne_of_mem_of_not_mem hc hline)]
        simp
      have hdrop : (line ++ '\n' :: rest).drop (line.length + 1) = rest := by
        rw [List.append_cons]
        exact List.drop_left' (by simp)
      have hlen : rest.length < n := by
        simp only [List.length_append, List.length_cons] at h
        omega
      obtain ⟨lines, tail, hlines, hrun⟩ := ih hlen (calls ++ onLine decode line)
      refine ⟨line :: lines, tail, hlines.cons hline, ?_⟩
      rw [iterate_succ_yield n (t := (rest, calls ++ onLine decode line))
        (by simp only [lineBody, if_pos hmem, htake, hdrop]), hrun]
      simp
    · refine ⟨[], text, .of_not_mem hmem, ?_⟩
      rw [iterate_succ_done n (t := (text, calls)) (if_neg hmem)]
      simp

end Lines

/-! ### ASCII text in pieces -/

/-- A text is what its bytes decode to. -/
theorem utf8String_utf8Bytes (text : List Char) : utf8String (utf8Bytes text) = some text := by
  have hdecode : (utf8Bytes text).toByteArray.utf8Decode? = some text.toArray :=
    List.utf8Decode?_utf8Encode
  rw [utf8String, hdecode, Option.map_some]

/-- An ASCII character is one byte. -/
theorem utf8Bytes_of_ascii {text : List Char} (h : ∀ c ∈ text, c.toNat < 128) :
    utf8Bytes text = text.map fun c => c.val.toUInt8 := by
  induction text with
  | nil => rfl
  | cons c text ih =>
    obtain ⟨hc, htext⟩ := List.forall_mem_cons.mp h
    have hsize : c.utf8Size = 1 := by
      rw [Char.utf8Size_eq_one_iff, UInt32.le_iff_toNat_le]
      exact Nat.le_of_lt_succ hc
    have hcons : utf8Bytes (c :: text) = String.utf8EncodeChar c ++ utf8Bytes text := rfl
    rw [hcons, ih htext, String.utf8EncodeChar_eq_singleton hsize]
    rfl

/-- A piece of ASCII text is text. -/
theorem utf8String_of_append {text : List Char} (h : ∀ c ∈ text, c.toNat < 128)
    {piece rest : List UInt8} (hpiece : utf8Bytes text = piece ++ rest) :
    utf8String piece = some (text.take piece.length) ∧
      rest = utf8Bytes (text.drop piece.length) := by
  have htake : ∀ c ∈ text.take piece.length, c.toNat < 128 := fun c hc =>
    h c (List.mem_of_mem_take hc)
  have hdrop : ∀ c ∈ text.drop piece.length, c.toNat < 128 := fun c hc =>
    h c (List.mem_of_mem_drop hc)
  rw [utf8Bytes_of_ascii h] at hpiece
  have hleft : piece = utf8Bytes (text.take piece.length) := by
    rw [utf8Bytes_of_ascii htake, List.map_take, hpiece, List.take_left]
  refine ⟨?_, ?_⟩
  · nth_rewrite 1 [hleft]
    exact utf8String_utf8Bytes _
  · rw [utf8Bytes_of_ascii hdrop, List.map_drop, hpiece, List.drop_left]

/-! ### Every division into reads -/

section Runs

variable {Double : Type} (decode : List UInt8 → Option (IPCMessage Double))

/-- The client has read `text`, and made these calls. -/
structure HasRead (text : List Char) (s : IPCClient × List (UiCall Double)) : Prop where
  isSome : s.1.sockFd.isSome
  lines : ∃ lines, Lines '\n' text lines s.1.readBuffer ∧
    decoded s.2 = (lines.filter (· ≠ [])).map utf8Bytes

/-- **One poll** appends what it reads to what has been read. -/
theorem poll_reads {text more : List Char} {s : IPCClient × List (UiCall Double)}
    (h : HasRead text s) {read : SockRead} (hlive : read.live = true)
    (hmore : utf8String read.bytes = some more) :
    HasRead (text ++ more) (pollStep decode s read) := by
  obtain ⟨fd, hfd⟩ := Option.isSome_iff_exists.mp h.isSome
  obtain ⟨lines, hlines, hdecoded⟩ := h.lines
  cases read with
  | data buf =>
    obtain ⟨lines', tail, hlines', hrun⟩ := lineBody_reads decode
      (Nat.lt_succ_self (s.1.readBuffer ++ more).length) []
    have hpoll : poll decode s.1 (.data buf) =
        ({ s.1 with readBuffer := tail, eagainCount := 0, eofCount := 0 },
          lines'.flatMap (onLine decode)) := by
      have hbuf : utf8String buf.bytes = some more := hmore
      simp only [poll, hfd, hbuf, Option.getD_some, hrun, ForInStep.value, List.nil_append]
    rw [pollStep, hpoll]
    refine ⟨h.isSome, lines ++ lines', hlines.append hlines', ?_⟩
    rw [decoded_append, hdecoded, decoded_flatMap_onLine, List.filter_append, List.map_append]
  | again =>
    obtain rfl : more = [] := (Option.some.inj hmore).symm
    have hpoll : poll decode s.1 .again =
        ({ s.1 with eagainCount := s.1.eagainCount + 1 }, []) := by
      simp only [poll, hfd]
    rw [pollStep, hpoll, List.append_nil, List.append_nil]
    exact ⟨h.isSome, lines, hlines, hdecoded⟩
  | eof => cases hlive
  | error => cases hlive

/-- **Polls** append what they read. -/
theorem polls_read {reads : List SockRead} (hlive : ∀ read ∈ reads, read.live = true)
    {text more : List Char} {rest : List UInt8} (hascii : ∀ c ∈ more, c.toNat < 128)
    (hbytes : utf8Bytes more = reads.flatMap SockRead.bytes ++ rest)
    {s : IPCClient × List (UiCall Double)} (h : HasRead text s) :
    HasRead (text ++ more.take (reads.flatMap SockRead.bytes).length)
      (reads.foldl (pollStep decode) s) := by
  induction reads generalizing text more s with
  | nil => simpa using h
  | cons read reads ih =>
    obtain ⟨hread, hreads⟩ := List.forall_mem_cons.mp hlive
    rw [List.flatMap_cons, List.append_assoc] at hbytes
    obtain ⟨htext, hrest⟩ := utf8String_of_append hascii hbytes
    have hstep := poll_reads decode h hread htext
    have hrun := ih hreads (fun c hc => hascii c (List.mem_of_mem_drop hc)) hrest.symm hstep
    rw [List.foldl_cons, List.flatMap_cons, List.length_append, List.take_add]
    rwa [List.append_assoc] at hrun

/-- **Reassembly.**  Messages of ASCII characters, each with a newline behind it, arrive as they
    were sent, without the empty ones, however they are cut into reads; and after every poll the
    buffer is what of an unfinished line has arrived. -/
theorem ipcClient_reassembles (fd : Fd) (eofCount : Nat) (messages : List UiMessage)
    (reads : List SockRead) (hlive : ∀ read ∈ reads, read.live = true)
    (hbytes : reads.flatMap SockRead.bytes = utf8Bytes (uiStream messages)) :
    decoded (polls decode (connected fd eofCount) reads).2 =
        ((messages.map UiMessage.text).filter (· ≠ [])).map utf8Bytes ∧
      ∀ n, ∃ lines, Lines '\n' ((uiStream messages).take
          ((reads.take n).flatMap SockRead.bytes).length) lines
        (polls decode (connected fd eofCount) (reads.take n)).1.readBuffer := by
  have hascii : ∀ c ∈ uiStream messages, c.toNat < 128 := by
    intro c hc
    obtain ⟨msg, -, hc⟩ := List.mem_flatMap.mp hc
    rcases List.mem_append.mp hc with hc | hc
    · exact msg.ascii c hc
    · rw [List.mem_singleton.mp hc]
      decide
  have hstart : HasRead [] (connected fd eofCount, ([] : List (UiCall Double))) :=
    ⟨rfl, [], .of_not_mem List.not_mem_nil, rfl⟩
  -- after some of the polls
  have hread : ∀ n, HasRead ((uiStream messages).take ((reads.take n).flatMap SockRead.bytes).length)
      (polls decode (connected fd eofCount) (reads.take n)) := by
    intro n
    have hsplit : utf8Bytes (uiStream messages) = (reads.take n).flatMap SockRead.bytes ++
        (reads.drop n).flatMap SockRead.bytes := by
      rw [← hbytes, ← List.flatMap_append, List.take_append_drop]
    exact polls_read decode (fun r hr => hlive r (List.mem_of_mem_take hr)) hascii hsplit hstart
  refine ⟨?_, fun n => (hread n).lines.imp fun _ h => h.1⟩
  -- after all of them
  obtain ⟨lines, hlines, hdecoded⟩ := (hread reads.length).lines
  have hlen : (uiStream messages).length ≤ (reads.flatMap SockRead.bytes).length := by
    rw [hbytes, utf8Bytes_of_ascii hascii, List.length_map]
  rw [List.take_length, List.take_of_length_le hlen] at hlines
  rw [List.take_length] at hdecoded
  have hsent : Lines '\n' (uiStream messages) (messages.map UiMessage.text) [] := by
    refine ⟨?_, ?_, List.not_mem_nil⟩
    · rw [List.append_nil, List.flatMap_map]
      rfl
    · rw [List.forall_mem_map]
      exact fun msg _ => msg.newline
  rw [hdecoded, (hlines.unique hsent).1]

end Runs

/-- Cuts inside a message, before a newline and between two. -/
theorem ipcClient_reassembles_cut :
    decoded (polls (fun _ => (none : Option (IPCMessage Nat))) (connected 3 0)
      [.data ⟨[97], by decide, by decide⟩, .again, .data ⟨[98, 10], by decide, by decide⟩,
        .data ⟨[10, 99], by decide, by decide⟩, .data ⟨[10], by decide, by decide⟩]).2 =
      [[97, 98], [99]] :=
  (ipcClient_reassembles _ 3 0
    [⟨['a', 'b'], by simp, by decide, by decide⟩, ⟨[], by simp, by decide, by decide⟩,
      ⟨['c'], by simp, by decide, by decide⟩] _ (by decide) (by decide)).1

end IPCClient

end AndroidTether
