import AndroidTether.Ipc
import AndroidTether.Lib.Delimited
import Mathlib.Data.List.TakeWhile

namespace AndroidTether

open Delimited

/-!
# Commands from the UI

A client writes its commands as lines of JSON, one after the other; the daemon reads them in
pieces that need not be lines.

* `runPolls` — a run of polls, with the place of every read in its client's stream;
* `Read.holds_iff` — a read shows a keyword exactly when it holds the keyword of one of its
  client's commands whole;
* `pollRun_ret_iff` — the command a poll returns, by the keywords its reads hold;
* `noCommandLost_iff` — when no stop is lost and the last enable or disable wins.
-/

/-! ### The stream of a client -/

/-- `{"type":"` … `"}` and a newline, as `sendCommand` writes it. -/
def IpcCmd.line (c : IpcCmd) : List Char :=
  "\x7b\"type\":".toList ++ c.quoted ++ "\x7d\n".toList

/-- Where the keyword starts in a line. -/
def keywordOffset : Nat := 8

/-- A line shows the keyword of its own command, at its place, and no other. -/
theorem occursAt_line_iff (c k : IpcCmd) (i : Nat) :
    OccursAt c.line k.quoted i ↔ c = k ∧ i = keywordOffset := by
  constructor
  · intro h
    have hle := h.le_length (by cases k <;> decide)
    have hall : ∀ c k : IpcCmd, ∀ i < 19, OccursAt c.line k.quoted i →
        c = k ∧ i = keywordOffset := by
      intro c k
      cases c <;> cases k <;> decide
    have hlen : c.line.length + 1 ≤ 19 + k.quoted.length := by
      cases c <;> cases k <;> decide
    exact hall c k i (by omega) h
  · rintro ⟨rfl, rfl⟩
    cases c <;> decide

/-- What a client that sends `cs` writes. -/
def clientStream (cs : List IpcCmd) : List Char := cs.flatMap IpcCmd.line

/-- Where the keyword of command `j` starts in its client's stream. -/
def keywordStart (cs : List IpcCmd) (j : Nat) : Nat := lineStart IpcCmd.line cs j + keywordOffset

/-- The keywords in a stream are those of its commands, at their places. -/
theorem occursAt_clientStream_iff {cs : List IpcCmd} {k : IpcCmd} {p : Nat} :
    OccursAt (clientStream cs) k.quoted p ↔ ∃ j, cs[j]? = some k ∧ p = keywordStart cs j := by
  have hline : ∀ c : IpcCmd, ∃ body, c.line = body ++ ['\n'] := by
    intro c
    cases c <;> exact ⟨_, (List.dropLast_append_getLast (by decide)).symm⟩
  rw [clientStream, occursAt_stream_iff hline (by cases k <;> decide) (by cases k <;> decide)]
  constructor
  · rintro ⟨j, c, i, hj, hocc, rfl⟩
    obtain ⟨rfl, rfl⟩ := (occursAt_line_iff c k i).mp hocc
    exact ⟨j, hj, rfl⟩
  · rintro ⟨j, hj, rfl⟩
    exact ⟨j, k, keywordOffset, hj, (occursAt_line_iff k k _).mpr ⟨rfl, rfl⟩, rfl⟩

/-- Commands are text: no NUL in them. -/
theorem ne_nul_of_mem_clientStream {cs : List IpcCmd} {ch : Char} (h : ch ∈ clientStream cs) :
    ch ≠ '\x00' := by
  obtain ⟨c, -, hc⟩ := List.mem_flatMap.mp h
  have hline : '\x00' ∉ c.line := by cases c <;> decide
  intro hnul
  exact hline (hnul ▸ hc)

/-! ### Runs of polls -/

/-- One read that returned bytes: the client, what had been read of its stream before, and
    the bytes. -/
structure Read where
  client : Fd
  before : List Char
  bytes : List Char
  deriving DecidableEq, Repr

/-- The streams read so far, after one more read. -/
def advance (sofar : Fd → List Char) (r : Fd × List Char) : Fd → List Char :=
  Function.update sofar r.1 (sofar r.1 ++ r.2)

/-- Reads with their places in the streams. -/
def locate : (Fd → List Char) → List (Fd × List Char) → List Read
  | _, [] => []
  | sofar, r :: rs => ⟨r.1, sofar r.1, r.2⟩ :: locate (advance sofar r) rs

/-- One poll of a run: its reads and what it returned. -/
structure PollRun where
  reads : List Read
  ret : Option IpcCmd
  deriving DecidableEq, Repr

/-- A run of polls. -/
def runPolls (srv : IpcServer) (sofar : Fd → List Char) : List PollInput → List PollRun
  | [] => []
  | inp :: inps =>
    ⟨locate sofar (pollReads srv inp), (ipcServerPoll srv inp).2⟩ ::
      runPolls (ipcServerPoll srv inp).1 ((pollReads srv inp).foldl advance sofar) inps

/-- All that is read from a client. -/
def bytesRead (rs : List Read) (c : Fd) : List Char :=
  (rs.filter fun r => r.client = c).flatMap (·.bytes)

/-- The reads of a run, in order. -/
def allReads (run : List PollRun) : List Read := run.flatMap (·.reads)

variable {sofar : Fd → List Char} {cs : Fd → List IpcCmd} {r : Read} {k : IpcCmd}

/-- Reads one after the other. -/
theorem locate_append (sofar : Fd → List Char) (rs rs' : List (Fd × List Char)) :
    locate sofar (rs ++ rs') = locate sofar rs ++ locate (rs.foldl advance sofar) rs' := by
  induction rs generalizing sofar with
  | nil => rfl
  | cons r rs ih => rw [List.cons_append, locate, ih, locate, List.foldl_cons, List.cons_append]

/-- A read is the piece of its client's stream that follows what was read before. -/
theorem locate_place {rs : List (Fd × List Char)} (h : r ∈ locate sofar rs) :
    ∃ after, sofar r.client ++ bytesRead (locate sofar rs) r.client =
      r.before ++ r.bytes ++ after := by
  induction rs generalizing sofar with
  | nil => cases h
  | cons x rs ih =>
    rw [locate, List.mem_cons] at h
    rcases h with rfl | h
    · exact ⟨bytesRead (locate (advance sofar x) rs) x.1, by simp [locate, bytesRead]⟩
    · obtain ⟨after, hafter⟩ := ih h
      refine ⟨after, hafter ▸ ?_⟩
      by_cases hc : x.1 = r.client
      · simp [locate, bytesRead, advance, hc]
      · simp [locate, bytesRead, advance, hc, Function.update_of_ne (Ne.symm hc)]

/-- In a run, too. -/
theorem runPolls_place {srv : IpcServer} {inps : List PollInput}
    (h : r ∈ allReads (runPolls srv sofar inps)) :
    ∃ after, sofar r.client ++ bytesRead (allReads (runPolls srv sofar inps)) r.client =
      r.before ++ r.bytes ++ after := by
  obtain ⟨rs, hrs⟩ : ∃ rs, allReads (runPolls srv sofar inps) = locate sofar rs := by
    clear h
    induction inps generalizing srv sofar with
    | nil => exact ⟨[], rfl⟩
    | cons inp inps ih =>
      obtain ⟨rs, hrs⟩ : ∃ rs, allReads (runPolls (ipcServerPoll srv inp).1 _ inps) = _ := ih
      exact ⟨pollReads srv inp ++ rs, by
        rw [locate_append, ← hrs, allReads, runPolls, List.flatMap_cons]; rfl⟩
  rw [hrs] at h ⊢
  exact locate_place h

/-! ### Keywords in reads -/

/-- The keyword of one of the client's commands, of kind `k`, lies in the read as a whole. -/
def Read.Holds (cs : Fd → List IpcCmd) (r : Read) (k : IpcCmd) : Prop :=
  ∃ j, (cs r.client)[j]? = some k ∧ r.before.length ≤ keywordStart (cs r.client) j ∧
    keywordStart (cs r.client) j + k.quoted.length ≤ r.before.length + r.bytes.length

/-- The read is a piece of its client's stream. -/
def Read.InStream (cs : Fd → List IpcCmd) (r : Read) : Prop :=
  ∃ after, clientStream (cs r.client) = r.before ++ r.bytes ++ after

/-- **Keywords in reads.**  `strstr` finds a keyword in a read exactly when the keyword of a
    command lies in it whole. -/
theorem Read.InStream.strstr_iff (h : r.InStream cs) (k : IpcCmd) :
    strstr r.bytes k.quoted = true ↔ r.Holds cs k := by
  obtain ⟨after, hafter⟩ := h
  have hnul : r.bytes.takeWhile (· ≠ '\x00') = r.bytes := by
    refine List.takeWhile_eq_self_iff.mpr fun ch hch => decide_eq_true ?_
    have hmem : ch ∈ clientStream (cs r.client) := by
      rw [hafter]
      simp [hch]
    exact ne_nul_of_mem_clientStream hmem
  rw [strstr, hnul, decide_eq_true_iff, infix_window_iff r.before after, ← hafter, Read.Holds]
  constructor
  · rintro ⟨p, hocc, hin⟩
    obtain ⟨j, hj, rfl⟩ := occursAt_clientStream_iff.mp hocc
    exact ⟨j, hj, hin⟩
  · rintro ⟨j, hj, hin⟩
    exact ⟨_, occursAt_clientStream_iff.mpr ⟨j, hj, rfl⟩, hin⟩

instance (cs : Fd → List IpcCmd) (r : Read) (k : IpcCmd) : Decidable (r.Holds cs k) :=
  decidable_of_iff (∃ j, j < (cs r.client).length ∧ (cs r.client)[j]? = some k ∧
      r.before.length ≤ keywordStart (cs r.client) j ∧
      keywordStart (cs r.client) j + k.quoted.length ≤ r.before.length + r.bytes.length)
    ⟨fun ⟨j, _, h⟩ => ⟨j, h⟩, fun ⟨j, hj, h⟩ => ⟨j, (List.getElem?_eq_some_iff.mp hj).1, hj, h⟩⟩

/-- `IPC_CMD_STOP`, `IPC_CMD_DISABLE`, `IPC_CMD_ENABLE`; a poll looks for them in this order. -/
def IpcCmd.code : IpcCmd → Nat
  | stop => 1
  | disable => 2
  | enable => 3

/-- The read holds the keyword of `k` and none that is looked for before it. -/
def Read.Shows (cs : Fd → List IpcCmd) (r : Read) (k : IpcCmd) : Prop :=
  r.Holds cs k ∧ ∀ k' : IpcCmd, k'.code < k.code → ¬ r.Holds cs k'

instance (cs : Fd → List IpcCmd) (r : Read) (k : IpcCmd) : Decidable (r.Shows cs k) :=
  decidable_of_iff (r.Holds cs k ∧
      ∀ k' ∈ [IpcCmd.stop, .disable, .enable], k'.code < k.code → ¬ r.Holds cs k')
    (and_congr_right fun _ =>
      ⟨fun h k' => h k' (by cases k' <;> simp), fun h k' _ => h k'⟩)

/-- Which command a read is taken for. -/
theorem Read.InStream.decodeCmd_eq_some_iff (h : r.InStream cs) :
    decodeCmd r.bytes = some k ↔ r.Shows cs k := by
  have hall : ∀ P : IpcCmd → Prop, (∀ c, P c) ↔ P .stop ∧ P .disable ∧ P .enable := fun P =>
    ⟨fun hP => ⟨hP _, hP _, hP _⟩, fun hP c => by cases c; exacts [hP.1, hP.2.1, hP.2.2]⟩
  simp only [Read.Shows, ← h.strstr_iff, hall, decodeCmd]
  cases k <;> cases strstr r.bytes IpcCmd.stop.quoted <;>
    cases strstr r.bytes IpcCmd.disable.quoted <;>
    cases strstr r.bytes IpcCmd.enable.quoted <;> simp [IpcCmd.code]

/-- A read without a whole keyword is taken for no command. -/
theorem Read.InStream.decodeCmd_eq_none_iff (h : r.InStream cs) :
    decodeCmd r.bytes = none ↔ ∀ k, ¬ r.Holds cs k := by
  constructor
  · intro hnone k hk
    -- the keyword that is looked for first would have been found
    obtain ⟨k', hk'⟩ : ∃ k', r.Shows cs k' := by
      by_cases hs : r.Holds cs .stop
      · exact ⟨.stop, hs, fun c hc => by cases c <;> simp [IpcCmd.code] at hc⟩
      · by_cases hd : r.Holds cs .disable
        · refine ⟨.disable, hd, fun c hc => ?_⟩
          cases c <;> simp [IpcCmd.code] at hc
          exact hs
        · refine ⟨k, hk, fun c hc => ?_⟩
          cases c
          · exact hs
          · exact hd
          · cases k <;> simp [IpcCmd.code] at hc
    rw [h.decodeCmd_eq_some_iff.mpr hk'] at hnone
    cases hnone
  · intro hno
    cases hd : decodeCmd r.bytes with
    | none => rfl
    | some k => exact absurd (h.decodeCmd_eq_some_iff.mp hd).1 (hno k)

/-! ### What a poll returns -/

/-- The last read of the poll that holds a whole keyword shows `k`. -/
def Announces (cs : Fd → List IpcCmd) (rs : List Read) (k : IpcCmd) : Prop :=
  ∃ pre r post, rs = pre ++ r :: post ∧ r.Shows cs k ∧ ∀ r' ∈ post, ∀ k', ¬ r'.Holds cs k'

/-- The last element with a value. -/
theorem findSome?_reverse_eq_some_iff {α β : Type} {f : α → Option β} {xs : List α} {b : β} :
    xs.reverse.findSome? f = some b ↔
      ∃ pre x post, xs = pre ++ x :: post ∧ f x = some b ∧ ∀ y ∈ post, f y = none := by
  rw [List.findSome?_eq_some_iff]
  constructor
  · rintro ⟨pre, x, post, hxs, hx, hpre⟩
    refine ⟨post.reverse, x, pre.reverse, ?_, hx, by simpa using hpre⟩
    rw [← List.reverse_reverse xs, hxs]
    simp
  · rintro ⟨pre, x, post, rfl, hx, hpost⟩
    exact ⟨post.reverse, x, pre.reverse, by simp, hx, by simpa using hpost⟩

/-- In `ipc_server_poll` the command of a later read overwrites that of an earlier one. -/
theorem foldl_or_eq_findSome? {α β : Type} (f : α → Option β) (xs : List α) (acc : Option β) :
    xs.foldl (fun acc x => (f x).or acc) acc = (xs.reverse.findSome? f).or acc := by
  induction xs generalizing acc with
  | nil => simp
  | cons x xs ih =>
    rw [List.foldl_cons, ih, List.reverse_cons, List.findSome?_append, Option.or_assoc]
    cases hx : f x <;> simp [hx]

/-- The places of the reads do not matter for the command. -/
theorem foldl_locate (sofar : Fd → List Char) (rs : List (Fd × List Char)) (acc : Option IpcCmd) :
    (locate sofar rs).foldl (fun ret r => (decodeCmd r.bytes).or ret) acc =
      rs.foldl (fun ret r => (decodeCmd r.2).or ret) acc := by
  induction rs generalizing sofar acc with
  | nil => rfl
  | cons r rs ih => rw [locate, List.foldl_cons, ih, List.foldl_cons]

/-- In a run, a poll returns the command of its last read that has one. -/
theorem runPolls_ret {srv : IpcServer} {inps : List PollInput} {p : PollRun}
    (h : p ∈ runPolls srv sofar inps) :
    p.ret = p.reads.reverse.findSome? fun r => decodeCmd r.bytes := by
  induction inps generalizing srv sofar with
  | nil => cases h
  | cons inp inps ih =>
    rw [runPolls, List.mem_cons] at h
    rcases h with rfl | h
    · show (ipcServerPoll srv inp).2 = (locate sofar (pollReads srv inp)).reverse.findSome? _
      rw [ipcServerPoll_ret, ← foldl_locate sofar,
        foldl_or_eq_findSome? (fun r : Read => decodeCmd r.bytes), Option.or_none]
    · exact ih h

/-- **What a poll returns**, by the keywords that lie whole in its reads. -/
theorem pollRun_ret_iff {srv : IpcServer} {inps : List PollInput} {p : PollRun}
    (h : p ∈ runPolls srv sofar inps) (hin : ∀ r ∈ p.reads, r.InStream cs) :
    p.ret = some k ↔ Announces cs p.reads k := by
  rw [runPolls_ret h, findSome?_reverse_eq_some_iff, Announces]
  constructor
  · rintro ⟨pre, r, post, hrs, hr, hpost⟩
    refine ⟨pre, r, post, hrs, (hin r ?_).decodeCmd_eq_some_iff.mp hr, fun r' hr' => ?_⟩
    · simp [hrs]
    · exact (hin r' (by simp [hrs, hr'])).decodeCmd_eq_none_iff.mp (hpost r' hr')
  · rintro ⟨pre, r, post, hrs, hr, hpost⟩
    refine ⟨pre, r, post, hrs, (hin r ?_).decodeCmd_eq_some_iff.mpr hr, fun r' hr' => ?_⟩
    · simp [hrs]
    · exact (hin r' (by simp [hrs, hr'])).decodeCmd_eq_none_iff.mpr (hpost r' hr')

/-! ### Commands over a whole run -/

/-- The read returned some byte of command `j` of client `c`. -/
def Read.PartOf (cs : Fd → List IpcCmd) (r : Read) (c : Fd) (j : Nat) : Prop :=
  r.client = c ∧ r.before.length < lineStart IpcCmd.line (cs c) (j + 1) ∧
    lineStart IpcCmd.line (cs c) j < r.before.length + r.bytes.length

/-- The last enable or disable of a list of commands. -/
def lastSwitch (l : List IpcCmd) : Option IpcCmd := (l.filter fun k => k ≠ .stop).getLast?

/-- No client but `c` sends commands. -/
def OnlySender (cs : Fd → List IpcCmd) (c : Fd) : Prop := ∀ c', c' ≠ c → cs c' = []

/-- No command is lost: every stop was returned by a poll that read some of it, and a single
    sender's last enable or disable is the last that a poll returned. -/
def NoCommandLost (cs : Fd → List IpcCmd) (run : List PollRun) : Prop :=
  (∀ c j, (cs c)[j]? = some .stop →
    ∃ p ∈ run, (∃ r ∈ p.reads, r.PartOf cs c j) ∧ p.ret = some .stop) ∧
  ∀ c, OnlySender cs c → lastSwitch (run.filterMap (·.ret)) = lastSwitch (cs c)

/-- The keywords arrive: for every stop, a poll that reads some of it announces a stop, and a
    single sender's last enable or disable is announced by a poll after which no poll
    announces an enable or a disable. -/
def KeywordsArrive (cs : Fd → List IpcCmd) (polls : List (List Read)) : Prop :=
  (∀ c j, (cs c)[j]? = some .stop →
    ∃ rs ∈ polls, (∃ r ∈ rs, r.PartOf cs c j) ∧ Announces cs rs .stop) ∧
  ∀ c, OnlySender cs c → ∀ k, lastSwitch (cs c) = some k →
    ∃ pre rs post, polls = pre ++ rs :: post ∧ Announces cs rs k ∧
      ∀ rs' ∈ post, ∀ k', k' ≠ IpcCmd.stop → ¬ Announces cs rs' k'

/-- Without an enable or a disable all commands are stops. -/
theorem lastSwitch_eq_none {l : List IpcCmd} (h : lastSwitch l = none) : ∀ k ∈ l, k = .stop := by
  rw [lastSwitch, List.getLast?_eq_none_iff, List.filter_eq_nil_iff] at h
  simpa using h

/-- A stop is neither. -/
theorem ne_stop_of_lastSwitch {l : List IpcCmd} (h : lastSwitch l = some k) : k ≠ .stop := by
  have := List.mem_of_getLast? h
  simpa using (List.mem_filter.mp this).2

/-- The last enable or disable among what the polls returned. -/
theorem lastSwitch_filterMap_iff {α : Type} {f : α → Option IpcCmd} {xs : List α}
    (hk : k ≠ .stop) :
    lastSwitch (xs.filterMap f) = some k ↔
      ∃ pre x post, xs = pre ++ x :: post ∧ f x = some k ∧
        ∀ y ∈ post, ∀ k', k' ≠ IpcCmd.stop → f y ≠ some k' := by
  rw [lastSwitch, List.filter_filterMap, List.getLast?_filterMap, findSome?_reverse_eq_some_iff]
  refine exists_congr fun pre => exists_congr fun x => exists_congr fun post => ?_
  refine and_congr_right fun _ => and_congr ?_ (forall_congr' fun y => imp_congr_right fun _ => ?_)
  · rw [Option.filter_eq_some_iff]
    simp [hk]
  · rw [Option.filter_eq_none_iff]
    refine forall_congr' fun k' => ?_
    simp only [decide_eq_true_eq, not_not]
    exact ⟨fun h hne heq => hne (h heq), fun h heq => by_contra fun hne => h hne heq⟩

section

variable {run : List PollRun}

/-- Stops, poll by poll. -/
theorem stops_iff (hret : ∀ p ∈ run, ∀ k, p.ret = some k ↔ Announces cs p.reads k) :
    (∀ c j, (cs c)[j]? = some .stop →
        ∃ p ∈ run, (∃ r ∈ p.reads, r.PartOf cs c j) ∧ p.ret = some .stop) ↔
      ∀ c j, (cs c)[j]? = some .stop →
        ∃ rs ∈ run.map (·.reads), (∃ r ∈ rs, r.PartOf cs c j) ∧ Announces cs rs .stop := by
  refine forall_congr' fun c => forall_congr' fun j => imp_congr_right fun _ => ?_
  constructor
  · rintro ⟨p, hp, hpart, hstop⟩
    exact ⟨p.reads, List.mem_map_of_mem hp, hpart, (hret p hp _).mp hstop⟩
  · rintro ⟨rs, hrs, hpart, hann⟩
    obtain ⟨p, hp, rfl⟩ := List.mem_map.mp hrs
    exact ⟨p, hp, hpart, (hret p hp _).mpr hann⟩

/-- Without an enable or a disable of the only sender, no poll returns one. -/
theorem lastSwitch_ret_eq_none {c : Fd}
    (hret : ∀ p ∈ run, ∀ k, p.ret = some k ↔ Announces cs p.reads k) (honly : OnlySender cs c)
    (hlast : lastSwitch (cs c) = none) : lastSwitch (run.filterMap (·.ret)) = none := by
  by_contra hsome
  obtain ⟨k, hk⟩ := Option.ne_none_iff_exists'.mp hsome
  have hne := ne_stop_of_lastSwitch hk
  obtain ⟨pre, p, post, hsplit, hpk, -⟩ := (lastSwitch_filterMap_iff hne).mp hk
  obtain ⟨-, r, -, -, ⟨⟨j, hj, -⟩, -⟩, -⟩ := (hret p (by simp [hsplit]) k).mp hpk
  by_cases hc : r.client = c
  · exact hne (lastSwitch_eq_none hlast k (hc ▸ List.mem_of_getElem? hj))
  · rw [honly _ hc] at hj
    cases hj

/-- The last enable or disable returned is the last announced. -/
theorem lastSwitch_ret_eq_some_iff (hret : ∀ p ∈ run, ∀ k, p.ret = some k ↔ Announces cs p.reads k)
    (hk : k ≠ .stop) :
    lastSwitch (run.filterMap (·.ret)) = some k ↔
      ∃ pre rs post, run.map (·.reads) = pre ++ rs :: post ∧ Announces cs rs k ∧
        ∀ rs' ∈ post, ∀ k', k' ≠ IpcCmd.stop → ¬ Announces cs rs' k' := by
  rw [lastSwitch_filterMap_iff hk]
  constructor
  · rintro ⟨pre, p, post, rfl, hpk, hpost⟩
    refine ⟨pre.map (·.reads), p.reads, post.map (·.reads), by simp,
      (hret p (by simp) k).mp hpk, ?_⟩
    intro rs hrs k' hk' hann
    obtain ⟨q, hq, rfl⟩ := List.mem_map.mp hrs
    exact hpost q hq k' hk' ((hret q (by simp [hq]) k').mpr hann)
  · rintro ⟨pre, rs, post, hsplit, hann, hpost⟩
    obtain ⟨pre', rest, rfl, rfl, hrest⟩ := List.map_eq_append_iff.mp hsplit
    obtain ⟨p, post', rfl, rfl, rfl⟩ := List.map_eq_cons_iff.mp hrest
    refine ⟨pre', p, post', rfl, (hret p (by simp) k).mpr hann, ?_⟩
    intro q hq k' hk' hqk
    exact hpost q.reads (List.mem_map_of_mem hq) k' hk' ((hret q (by simp [hq]) k').mp hqk)

end

/-- **Commands and batching.**  When everything the clients wrote has been read, no command
    is lost if and only if the keywords arrive. -/
theorem noCommandLost_iff (cs : Fd → List IpcCmd) (inps : List PollInput)
    (hread : ∀ c, bytesRead (allReads (runPolls .create (fun _ => []) inps)) c =
      clientStream (cs c)) :
    NoCommandLost cs (runPolls .create (fun _ => []) inps) ↔
      KeywordsArrive cs ((runPolls .create (fun _ => []) inps).map (·.reads)) := by
  generalize hrun : runPolls .create (fun _ => []) inps = run at hread ⊢
  have hin : ∀ p ∈ run, ∀ r ∈ p.reads, r.InStream cs := by
    intro p hp r hr
    have hmem : r ∈ allReads run := List.mem_flatMap.mpr ⟨p, hp, hr⟩
    rw [← hrun] at hmem
    obtain ⟨after, hafter⟩ := runPolls_place hmem
    exact ⟨after, by rw [← hread, ← hafter, hrun, List.nil_append]⟩
  have hret : ∀ p ∈ run, ∀ k, p.ret = some k ↔ Announces cs p.reads k := fun p hp k =>
    pollRun_ret_iff (hrun ▸ hp) (hin p hp)
  apply and_congr (stops_iff hret)
  refine forall_congr' fun c => imp_congr_right fun honly => ?_
  cases hlast : lastSwitch (cs c) with
  | none => exact iff_of_true (lastSwitch_ret_eq_none hret honly hlast) fun k hk => by cases hk
  | some k =>
    rw [lastSwitch_ret_eq_some_iff hret (ne_stop_of_lastSwitch hlast)]
    exact ⟨fun h k' hk' => Option.some.inj hk' ▸ h, fun h => h k rfl⟩

/-- Client 7 sends one stop, nobody else anything. -/
def oneStop (c : Fd) : List IpcCmd := if c = 7 then [.stop] else []

/-- Clients 7 and 8 send commands, with a stop from each. -/
def twoSenders (c : Fd) : List IpcCmd :=
  if c = 7 then [.enable, .stop] else if c = 8 then [.stop] else []

/-- The line of the enable and the second stop are cut before their keywords; the first stop
    comes in one read with a part of the other. -/
def twoSendersPolls : List PollInput :=
  [{ accept := some 7
     read := fun _ => .data ⟨IpcCmd.enable.line.take 5, by decide, by decide⟩ },
   { accept := some 8
     read := fun i =>
       if i.val = 0 then .data ⟨IpcCmd.enable.line.drop 5, by decide, by decide⟩ else .again },
   { accept := none
     read := fun i =>
       if i.val = 0 then .data ⟨IpcCmd.stop.line, by decide, by decide⟩
       else .data ⟨IpcCmd.stop.line.take 3, by decide, by decide⟩ },
   { accept := none
     read := fun i =>
       if i.val = 0 then .again else .data ⟨IpcCmd.stop.line.drop 3, by decide, by decide⟩ }]

/-- Client 8 alone sends commands, the last of them a disable. -/
def oneSender (c : Fd) : List IpcCmd := if c = 8 then [.enable, .stop, .disable] else []

/-- Client 7 stays silent; the first read from client 8 ends in the line of the stop, before
    the keyword. -/
def oneSenderPolls : List PollInput :=
  [{ accept := some 7, read := fun _ => .again },
   { accept := some 8
     read := fun i =>
       if i.val = 0 then .again
       else .data ⟨IpcCmd.enable.line ++ IpcCmd.stop.line.take 4, by decide, by decide⟩ },
   { accept := none
     read := fun i =>
       if i.val = 0 then .again else .data ⟨IpcCmd.stop.line.drop 4, by decide, by decide⟩ },
   { accept := none
     read := fun i =>
       if i.val = 0 then .again else .data ⟨IpcCmd.disable.line, by decide, by decide⟩ }]

/-- Both runs of polls lose nothing: every keyword arrives whole, in a poll in which no later
    read hides it. -/
theorem noCommandLost_cutLines :
    NoCommandLost twoSenders (runPolls .create (fun _ => []) twoSendersPolls) ∧
      NoCommandLost oneSender (runPolls .create (fun _ => []) oneSenderPolls) := by
  have htwo : runPolls .create (fun _ => []) twoSendersPolls =
      [⟨[⟨7, [], IpcCmd.enable.line.take 5⟩], none⟩,
        ⟨[⟨7, IpcCmd.enable.line.take 5, IpcCmd.enable.line.drop 5⟩], some .enable⟩,
        ⟨[⟨7, IpcCmd.enable.line, IpcCmd.stop.line⟩, ⟨8, [], IpcCmd.stop.line.take 3⟩],
          some .stop⟩,
        ⟨[⟨8, IpcCmd.stop.line.take 3, IpcCmd.stop.line.drop 3⟩], some .stop⟩] := by decide
  have hone : runPolls .create (fun _ => []) oneSenderPolls =
      [⟨[], none⟩,
        ⟨[⟨8, [], IpcCmd.enable.line ++ IpcCmd.stop.line.take 4⟩], some .enable⟩,
        ⟨[⟨8, IpcCmd.enable.line ++ IpcCmd.stop.line.take 4, IpcCmd.stop.line.drop 4⟩],
          some .stop⟩,
        ⟨[⟨8, IpcCmd.enable.line ++ IpcCmd.stop.line, IpcCmd.disable.line⟩],
          some .disable⟩] := by decide
  constructor
  · refine (noCommandLost_iff twoSenders twoSendersPolls fun c => ?_).mpr ?_
    · rw [htwo]
      by_cases h7 : c = 7
      · subst h7
        decide
      by_cases h8 : c = 8
      · subst h8
        decide
      · simp [allReads, bytesRead, clientStream, twoSenders, h7, h8, Ne.symm h7, Ne.symm h8]
    · rw [htwo]
      refine ⟨fun c j hj => ?_, fun c honly => ?_⟩
      · obtain ⟨rfl, rfl⟩ | ⟨rfl, rfl⟩ : c = 7 ∧ j = 1 ∨ c = 8 ∧ j = 0 := by
          by_cases h7 : c = 7 <;> by_cases h8 : c = 8 <;> rcases j with - | - | j <;>
            simp [twoSenders, h7, h8] at hj ⊢
        · refine ⟨_, .tail _ (.tail _ (.head _)), ⟨_, .head _, rfl, by decide, by decide⟩, [], _, _,
            rfl, by decide, fun r hr k' => ?_⟩
          -- the cut line read after it in the same poll shows nothing
          obtain rfl := List.mem_singleton.mp hr
          cases k' <;> decide
        · exact ⟨_, .tail _ (.tail _ (.tail _ (.head _))), ⟨_, .head _, rfl, by decide, by decide⟩,
            [], _, _, rfl, by decide, nofun⟩
      · -- two clients send
        by_cases h7 : c = 7
        · cases honly 8 (by simp [h7])
        · cases honly 7 (Ne.symm h7)
  · refine (noCommandLost_iff oneSender oneSenderPolls fun c => ?_).mpr ?_
    · rw [hone]
      by_cases h8 : c = 8
      · subst h8
        decide
      · simp [allReads, bytesRead, clientStream, oneSender, h8, Ne.symm h8]
    · rw [hone]
      refine ⟨fun c j hj => ?_, fun c honly k hk => ?_⟩
      · obtain ⟨rfl, rfl⟩ : c = 8 ∧ j = 1 := by
          by_cases h8 : c = 8 <;> rcases j with - | - | - | j <;> simp [oneSender, h8] at hj ⊢
        exact ⟨_, .tail _ (.tail _ (.head _)), ⟨_, .head _, rfl, by decide, by decide⟩, [], _, _,
          rfl, by decide, nofun⟩
      · obtain rfl : c = 8 := by
          by_contra h8
          cases honly 8 (Ne.symm h8)
        obtain rfl : IpcCmd.disable = k := Option.some.inj hk
        exact ⟨[_, _, _], _, [], rfl, ⟨[], _, [], rfl, by decide, nofun⟩, nofun⟩

/-- A poll that accepts client 7 and reads the first twelve bytes of its line. -/
def firstPart : PollInput :=
  { accept := some 7
    read := fun _ => .data ⟨IpcCmd.stop.line.take 12, by decide, by decide⟩ }

/-- A poll that reads the rest of the line. -/
def secondPart : PollInput :=
  { accept := none
    read := fun _ => .data ⟨IpcCmd.stop.line.drop 12, by decide, by decide⟩ }

/-- A stop whose line is read in two pieces, cut inside the keyword, is never returned. -/
theorem not_noCommandLost :
    ¬ ∀ (cs : Fd → List IpcCmd) (inps : List PollInput),
      (∀ c, bytesRead (allReads (runPolls .create (fun _ => []) inps)) c = clientStream (cs c)) →
        NoCommandLost cs (runPolls .create (fun _ => []) inps) := by
  intro h
  have hrun : runPolls .create (fun _ => []) [firstPart, secondPart] =
      [⟨[⟨7, [], IpcCmd.stop.line.take 12⟩], none⟩,
        ⟨[⟨7, IpcCmd.stop.line.take 12, IpcCmd.stop.line.drop 12⟩], none⟩] := by decide
  have hlost := h oneStop [firstPart, secondPart] fun c => by
    rw [hrun]
    by_cases hc : c = 7
    · subst hc
      decide
    · simp [allReads, bytesRead, clientStream, oneStop, hc, Ne.symm hc]
  rw [hrun] at hlost
  obtain ⟨p, hp, -, hret⟩ := hlost.1 7 0 rfl
  simp at hp
  rcases hp with rfl | rfl <;> cases hret

end AndroidTether
