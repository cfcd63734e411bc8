import AndroidTether.WatchState

namespace AndroidTether

open Trans

/-!
# The stream of broadcasts

What the daemon announces over the whole of its run, in either mode: states, and in a session
also statistics.  `BroadcastPhase.next` is the language of these streams; the clients can tell
from it whether there is a session.

* `Daemon.Streams` — the stream so far is in the language, and its phase is that of the place
  where the main thread stands;
* `broadcasts_streams` — this holds after every run.
-/

/-- A line for all clients. -/
inductive Broadcast where
  | state (st : UiState)
  | stats
  deriving DecidableEq, Repr

/-- What the clients know after a stream of broadcasts. -/
inductive BroadcastPhase where
  /-- watch mode, and nothing was announced -/
  | silent
  /-- no session -/
  | apart
  /-- in a session -/
  | session
  deriving DecidableEq, Repr

namespace BroadcastPhase

/-- The phase before the first broadcast. -/
def first (watchMode : Bool) : BroadcastPhase := if watchMode then silent else apart

/-- **The language of the broadcasts.**  A session is announced, has statistics, and its end is
    announced; in between, watch mode says whether it is idle or watching, and it begins with
    that. -/
def next (watchMode : Bool) : BroadcastPhase → Broadcast → Option BroadcastPhase
  | silent, .state .idle => some apart
  | apart, .state .idle => if watchMode then some apart else none
  | apart, .state .watching => if watchMode then some apart else none
  | apart, .state .connected => some session
  | session, .stats => some session
  | session, .state .disconnected => some apart
  | _, _ => none

/-- The phase after broadcasts that are listed latest first, if they are in the language. -/
def after (watchMode : Bool) : List Broadcast → Option BroadcastPhase
  | [] => some (first watchMode)
  | b :: bs => (after watchMode bs).bind fun phase => phase.next watchMode b

end BroadcastPhase

/-- The phase that goes with a place of the main thread. -/
def Pc.phase : Pc → BroadcastPhase
  | sayFirstIdle => .silent
  | startBridge => .session
  | sessionHead => .session
  | sendStats => .session
  | sessionChecks => .session
  | sessionPoll => .session
  | joinThreads => .session
  | sayDisconnected => .session
  | _ => .apart

/-- The places that only watch mode has. -/
def Pc.watchOnly : Pc → Bool
  | sayFirstIdle => true
  | watchPoll => true
  | watchSay _ => true
  | watchTest => true
  | idleSleep => true
  | sayWatching => true
  | retrySayIdle _ => true
  | _ => false

/-- Where the main thread may go between two sessions without having announced anything. -/
def Pc.outside (watchMode : Bool) : Pc → Bool
  | watchPoll | watchTest | idleSleep | sayWatching => watchMode
  | mainHead | findDevice | setUpNetwork | sessionReturned _ | retryHead _ | retryChecks _
  | retryPoll _ | retrySleep _ | destroyIpc | atExit | exited => true
  | _ => false

namespace Daemon

/-- The broadcast that a step makes. -/
def broadcast (s : Daemon) : Event → Option Broadcast
  | .act (.main _) =>
    match s.ipc with
    | none => none
    | some srv =>
      match s.pc.announces with
      | some (st, _) => some (.state st)
      | none => if s.pc = .sendStats ∧ srv.numClients ≠ 0 then some .stats else none
  | _ => none

/-- The broadcasts of a run, the latest first. -/
def broadcasts (l : List (Daemon × Event)) : List Broadcast :=
  l.filterMap fun p => p.1.broadcast p.2

/-- What is announced goes with where the main thread stands: from `connected` to
    `disconnected` it stands in a session, with the network modified. -/
structure Streams (watch : Bool) (bs : List Broadcast) (s : Daemon) : Prop where
  watchMode : s.watchMode = watch
  ipc : s.pc.left = false → s.ipc.isSome = true
  watchOnly : s.pc.watchOnly = true → watch = true
  watchSay : ∀ st, s.pc = .watchSay st → st = .idle ∨ st = .watching
  phase : ∃ phase, BroadcastPhase.after watch bs = some phase ∧
    (s.pc ≠ .killed → phase = s.pc.phase)
  bound : s.pc = .sayConnected ∨ s.pc.phase = .session → s.networkBound = true

variable {s t : Daemon} {e : Event} {watch : Bool} {bs : List Broadcast}

/-! ### Steps -/

/-- Nothing has been sent. -/
theorem streams_start (watch : Bool) : Streams watch [] (start watch true) := by
  cases watch
  · exact ⟨rfl, fun _ => rfl, by simp [start, Pc.watchOnly], by simp [start],
      ⟨.apart, rfl, fun _ => rfl⟩, by simp [start, Pc.phase]⟩
  · exact ⟨rfl, fun _ => rfl, fun _ => rfl, by simp [start],
      ⟨.silent, rfl, fun _ => rfl⟩, by simp [start, Pc.phase]⟩

/-- Going on in the same phase without a broadcast. -/
theorem Streams.goto (hs : Streams watch bs s) (hmode : t.watchMode = s.watchMode)
    (hipc : t.pc.left = false → t.ipc = s.ipc ∧ s.pc.left = false)
    (honly : t.pc.watchOnly = true → watch = true)
    (hsay : ∀ st, t.pc = .watchSay st → st = .idle ∨ st = .watching)
    (hphase : t.pc.phase = s.pc.phase) (hkilled : s.pc ≠ .killed)
    (hbound : t.pc = .sayConnected ∨ t.pc.phase = .session → t.networkBound = true) :
    Streams watch bs t where
  watchMode := hmode.trans hs.watchMode
  ipc hleft := by
    obtain ⟨heq, hleft⟩ := hipc hleft
    rw [heq]
    exact hs.ipc hleft
  watchOnly := honly
  watchSay := hsay
  phase := by
    obtain ⟨phase, hafter, hpc⟩ := hs.phase
    exact ⟨phase, hafter, fun _ => hphase ▸ hpc hkilled⟩
  bound := hbound

/-- Going on to a place that either mode has, with nothing to say there. -/
theorem Streams.stay (hs : Streams watch bs s) (hmode : t.watchMode = s.watchMode)
    (hipc : t.pc.left = false → t.ipc = s.ipc ∧ s.pc.left = false)
    (hplace : t.pc.watchOnly = false ∧ ∀ st, t.pc ≠ .watchSay st)
    (hphase : t.pc.phase = s.pc.phase) (hkilled : s.pc ≠ .killed)
    (hbound : t.pc = .sayConnected ∨ t.pc.phase = .session → t.networkBound = true) :
    Streams watch bs t := by
  refine hs.goto hmode hipc (fun honly => ?_) (fun st hst => absurd hst (hplace.2 st)) hphase
    hkilled hbound
  rw [hplace.1] at honly
  cases honly

/-- Going on to another place between two sessions. -/
theorem Streams.jump (hs : Streams watch bs s) (hleft : s.pc.left = false)
    (hapart : s.pc.phase = .apart) {pc : Pc} (hpc : pc.outside s.watchMode = true) :
    Streams watch bs { s with pc := pc } := by
  have hplace : pc.phase = .apart ∧ pc ≠ .sayConnected ∧ (∀ st, pc ≠ .watchSay st) ∧
      (pc.watchOnly = true → s.watchMode = true) := by
    cases pc <;> simp_all [Pc.outside, Pc.phase, Pc.watchOnly]
  obtain ⟨hphase, hconnected, hsay, honly⟩ := hplace
  refine hs.goto rfl (fun _ => ⟨rfl, hleft⟩) (fun h => hs.watchMode.symm.trans (honly h))
    (fun st hst => absurd hst (hsay st)) (hphase.trans hapart.symm) (fun hkilled => ?_) ?_
  · rw [hkilled] at hleft
    cases hleft
  · rintro (h | h)
    · exact absurd h hconnected
    · rw [show pc.phase = .session from h] at hphase
      cases hphase

/-- A state that is announced leads to the phase of the place behind. -/
theorem Streams.next_phase (hs : Streams watch bs s) {st : UiState} {next : Pc}
    (h : s.pc.announces = some (st, next)) :
    s.pc.phase.next watch (.state st) = some next.phase := by
  have honly := hs.watchOnly
  have hsay := hs.watchSay
  unfold Pc.announces at h
  cases hpc : s.pc with
  | sayFirstIdle | sayConnected | sayDisconnected =>
    simp only [hpc, Option.some.injEq, Prod.mk.injEq] at h
    obtain ⟨rfl, rfl⟩ := h
    rfl
  | sayWatching | retrySayIdle =>
    -- only watch mode says what it does between two sessions
    simp only [hpc, Option.some.injEq, Prod.mk.injEq] at h
    obtain ⟨rfl, rfl⟩ := h
    rw [hpc] at honly
    exact if_pos (honly rfl)
  | watchSay st' =>
    simp only [hpc, Option.some.injEq, Prod.mk.injEq] at h
    obtain ⟨rfl, rfl⟩ := h
    rw [hpc] at honly
    rcases hsay _ hpc with rfl | rfl <;> exact if_pos (honly rfl)
  | _ => simp [hpc] at h

/-- The six messages. -/
theorem Streams.announce (hs : Streams watch bs s) {r : SysRet} {st : UiState} {next : Pc}
    (h : s.pc.announces = some (st, next)) :
    Streams watch ((s.broadcast (.act (.main r))).toList ++ bs) (s.sendState st next) := by
  have hleft : s.pc.left = false := by
    cases hpc : s.pc <;> first | rfl | simp [hpc, Pc.announces] at h
  have hipc := hs.ipc hleft
  have hbroadcast : s.broadcast (.act (.main r)) = some (.state st) := by
    obtain ⟨srv, hsrv⟩ := Option.isSome_iff_exists.mp hipc
    simp only [broadcast, hsrv, h]
  obtain ⟨phase, hafter, hphase⟩ := hs.phase
  have hkilled : s.pc ≠ .killed := by
    intro hpc
    rw [hpc] at hleft
    cases hleft
  have hnext : BroadcastPhase.after watch (.state st :: bs) = some next.phase := by
    rw [BroadcastPhase.after, hafter, Option.bind_some, hphase hkilled]
    exact hs.next_phase h
  -- what the place behind asks for
  have hbehind : (next.watchOnly = true → s.pc.watchOnly = true) ∧ (∀ st, next ≠ .watchSay st) ∧
      next ≠ .killed ∧ next ≠ .sayConnected ∧
      (next.phase = .session → s.pc = .sayConnected) := by
    unfold Pc.announces at h
    cases hpc : s.pc <;>
      simp only [hpc, Option.some.injEq, Prod.mk.injEq, reduceCtorEq] at h <;>
      obtain ⟨-, rfl⟩ := h <;> simp [Pc.watchOnly, Pc.phase]
  obtain ⟨honly, hsay, -, hconnected, hsession⟩ := hbehind
  rw [hbroadcast]
  obtain ⟨pc, heq, rfl | rfl⟩ := sendState_told hipc st next
  · rw [heq]
    refine ⟨hs.watchMode, fun _ => hipc, fun h => hs.watchOnly (honly h),
      fun st' h => absurd h (hsay st'), ⟨_, hnext, fun _ => rfl⟩, ?_⟩
    rintro (h | h)
    · exact absurd h hconnected
    · exact hs.bound (.inl (hsession h))
  · rw [heq]
    exact ⟨hs.watchMode, fun _ => hipc, by simp [Pc.watchOnly], by simp,
      ⟨_, hnext, fun h => absurd rfl h⟩, by simp [Pc.phase]⟩

/-- What is done with the result of a poll leaves the network alone. -/
theorem onPoll_networkBound {k : Option IpcCmd → Daemon → Daemon} (hk : s.onPoll = some k)
    (cmd : Option IpcCmd) (u : Daemon) :
    (k cmd u).networkBound = u.networkBound ∧ (k cmd u).ipc = u.ipc := by
  unfold onPoll at hk
  split at hk
  · cases hk
    rcases cmd with _ | _ | _ | _ <;> exact ⟨rfl, rfl⟩
  · cases hk
    rcases cmd with _ | _ | _ | _ <;> exact ⟨rfl, rfl⟩
  · cases hk
    unfold onRetryCmd
    split <;> rcases cmd with _ | _ | _ | _ <;> exact ⟨rfl, rfl⟩
  · cases hk

/-- So does a poll. -/
theorem stepAny_poll_networkBound {k : Option IpcCmd → Daemon → Daemon}
    (hk : s.onPoll = some k) (he : byMain e = true) (h : s.stepAny e = some t) :
    t.networkBound = s.networkBound := by
  cases e with
  | pollReturns cmd =>
    simp only [stepAny, hk, Option.map_some] at h
    split at h
    · obtain rfl := Option.some.inj h
      exact (onPoll_networkBound hk _ _).1
    · cases h
  | act a =>
    cases a with
    | main r =>
      have hpoll : s.poll r.poll k = some t := (mainStep_of_onPoll hk).symm.trans h
      unfold poll at hpoll
      split at hpoll
      · obtain rfl := Option.some.inj hpoll
        exact (onPoll_networkBound hk _ _).1
      · split at hpoll
        · obtain rfl := Option.some.inj hpoll
          exact (onPoll_networkBound hk _ _).1
        · cases hpoll
    | connect | send | close | signal | bridgeDown => cases he

/-- Where a poll leads, by the place that polls. -/
theorem onPoll_pc {k : Option IpcCmd → Daemon → Daemon} (hk : s.onPoll = some k)
    (cmd : Option IpcCmd) (u : Daemon) :
    (k cmd u).pc.phase = s.pc.phase ∧ (k cmd u).pc ≠ .sayConnected ∧
      (k cmd u).pc.left = false ∧ (k cmd u).watchMode = u.watchMode ∧
      ((k cmd u).pc.watchOnly = true → s.pc.watchOnly = true ∨ u.watchMode = true) ∧
      ∀ st, (k cmd u).pc = .watchSay st → st = .idle ∨ st = .watching := by
  unfold onPoll at hk
  cases hpc : s.pc with
  | watchPoll =>
    simp only [hpc, Option.some.injEq] at hk
    subst hk
    rcases cmd with _ | _ | _ | _ <;> simp [onWatchCmd, Pc.phase, Pc.left, Pc.watchOnly]
  | sessionPoll =>
    simp only [hpc, Option.some.injEq] at hk
    subst hk
    rcases cmd with _ | _ | _ | _ <;> simp [onSessionCmd, Pc.phase, Pc.left, Pc.watchOnly]
  | retryPoll i =>
    simp only [hpc, Option.some.injEq] at hk
    subst hk
    cases hmode : u.watchMode <;> rcases cmd with _ | _ | _ | _ <;>
      simp [onRetryCmd, hmode, Pc.phase, Pc.left, Pc.watchOnly]
  | _ => simp [hpc] at hk

/-- A poll announces nothing, and stays in its phase. -/
theorem Streams.onPoll (hs : Streams watch bs s) {k : Option IpcCmd → Daemon → Daemon}
    (hk : s.onPoll = some k) (he : byMain e = true) (h : s.stepAny e = some t) :
    Streams watch ((s.broadcast e).toList ++ bs) t := by
  have hplaces : s.pc.announces = none ∧ s.pc ≠ .sendStats ∧ s.pc ≠ .killed ∧
      s.pc.left = false := by
    unfold Daemon.onPoll at hk
    cases hpc : s.pc <;> simp [hpc, Pc.announces, Pc.left] at hk ⊢
  obtain ⟨hquiet, hstats, hkilled, hleft⟩ := hplaces
  have hnone : s.broadcast e = none := by
    cases e with
    | pollReturns cmd => rfl
    | act a =>
      cases a with
      | main r => cases hipc : s.ipc <;> simp [broadcast, hipc, hquiet, hstats]
      | connect | send | close | signal | bridgeDown => rfl
  have hbound := stepAny_poll_networkBound hk he h
  obtain ⟨u, hu, hserver, -, rfl⟩ := stepAny_poll hk he h
  obtain ⟨hphase, hconnected, hleft', hmode, honly, hsay⟩ := onPoll_pc hk (s.returned e) u
  rw [hnone]
  refine ⟨hmode.trans (hu.watchMode.trans hs.watchMode), fun _ => ?_, fun hpc => ?_, hsay, ?_, ?_⟩
  · rw [(onPoll_networkBound hk _ _).2, hserver.ipc]
    exact hs.ipc hleft
  · rcases honly hpc with honly | honly
    · exact hs.watchOnly honly
    · exact (hu.watchMode.trans hs.watchMode).symm.trans honly
  · obtain ⟨phase, hafter, hpc⟩ := hs.phase
    exact ⟨phase, hafter, fun _ => hphase ▸ hpc hkilled⟩
  · rintro (hpc | hpc)
    · exact absurd hpc hconnected
    · rw [hbound]
      exact hs.bound (.inr (hphase ▸ hpc))

/-- Statistics go out in a session only. -/
theorem Streams.stats (hs : Streams watch bs s) {r : SysRet} (hpc : s.pc = .sendStats) :
    Streams watch ((s.broadcast (.act (.main r))).toList ++ bs) (s.sendStats .sessionChecks) := by
  have hipc := hs.ipc (hpc ▸ rfl)
  have hbound := hs.bound (.inr (hpc ▸ rfl))
  obtain ⟨phase, hafter, hphase⟩ := hs.phase
  obtain rfl : phase = .session := (hphase (by simp [hpc])).trans (hpc ▸ rfl)
  have hstream : BroadcastPhase.after watch ((s.broadcast (.act (.main r))).toList ++ bs) =
      some .session := by
    obtain ⟨srv, hsrv⟩ := Option.isSome_iff_exists.mp hipc
    by_cases hnone : srv.numClients = 0
    · simpa [broadcast, hsrv, hpc, Pc.announces, hnone] using hafter
    · simp [broadcast, hsrv, hpc, Pc.announces, hnone, BroadcastPhase.after, hafter,
        BroadcastPhase.next]
  obtain ⟨pc, heq, rfl | rfl⟩ := sendStats_eq .sessionChecks s
  · rw [heq]
    exact ⟨hs.watchMode, fun _ => hipc, by simp [Pc.watchOnly], by simp, ⟨_, hstream, fun _ => rfl⟩,
      fun _ => hbound⟩
  · rw [heq]
    exact ⟨hs.watchMode, fun _ => hipc, by simp [Pc.watchOnly], by simp,
      ⟨_, hstream, fun h => absurd rfl h⟩, by simp [Pc.phase]⟩

/-- Tests and sleeps, in a session and between two of them. -/
theorem Streams.goes (hs : Streams watch bs s) {next : Pc} (h : s.Goes next) :
    Streams watch bs { s with pc := next } := by
  have hmode := hs.watchMode
  cases h with
  | toWatch h hrun hm | announceRetry h hm =>
    exact hs.jump (h ▸ rfl) (h ▸ rfl) (by simp [hm, Pc.outside])
  | disabled h =>
    -- only watch mode has the test and the sleep under it
    have hwatch := hs.watchOnly (h ▸ rfl)
    exact hs.jump (h ▸ rfl) (h ▸ rfl) (by simp [hmode, hwatch, Pc.outside])
  | toSession h | leave h | enabled h | wake h | found h | notFound h | retry h | toMain h
  | quit h | retryWatch h | retryOneShot h | retryEnd h | retryWake h =>
    exact hs.jump (h ▸ rfl) (h ▸ rfl) rfl
  | nextRound h | endSession h =>
    have hbound := hs.bound (.inr (h ▸ rfl))
    exact hs.stay rfl (fun _ => ⟨rfl, h ▸ rfl⟩) (by simp [Pc.watchOnly]) (h ▸ rfl)
      (by simp [h]) fun _ => hbound

/-- A step of the main thread that neither announces anything nor polls. -/
theorem Streams.quietStep (hs : Streams watch bs s) {r : SysRet} (hpoll : s.onPoll = none)
    (hquiet : s.pc.announces = none) (hstats : s.pc ≠ .sendStats)
    (h : s.mainStep r = some t) : Streams watch bs t := by
  replace h := mainStep_cases h
  cases h with
  | announces h =>
    rw [hquiet] at h
    cases h
  | sendsStats h => exact absurd h hstats
  | polls hk =>
    rw [hpoll] at hk
    cases hk
  | goes h => exact hs.goes h
  | setsUp h =>
    -- the network is modified before that is announced
    exact hs.stay rfl (fun _ => ⟨rfl, h ▸ rfl⟩) (by simp [Pc.watchOnly]) (h ▸ rfl) (by simp [h])
      fun _ => rfl
  | startsBridge h | checks _ h | joins h =>
    have hbound := hs.bound (.inr (h ▸ rfl))
    exact hs.stay rfl (fun _ => ⟨rfl, h ▸ rfl⟩) (by simp [Pc.watchOnly]) (h ▸ rfl) (by simp [h])
      fun _ => hbound
  | statsDue h hrun hnext =>
    have hbound := hs.bound (.inr (h ▸ rfl))
    rcases hnext with rfl | rfl
    · exact hs.stay rfl (fun _ => ⟨rfl, h ▸ rfl⟩) (by simp [Pc.watchOnly]) (h ▸ rfl) (by simp [h])
        fun _ => hbound
    · exact hs.stay rfl (fun _ => ⟨rfl, h ▸ rfl⟩) (by simp [Pc.watchOnly]) (h ▸ rfl) (by simp [h])
        fun _ => hbound
  | restores h | checksRetry _ h =>
    exact hs.stay rfl (fun _ => ⟨rfl, h ▸ rfl⟩) (by simp [Pc.watchOnly]) (h ▸ rfl) (by simp [h])
      (by simp [Pc.phase])
  | destroys h | exits h =>
    exact hs.stay rfl (by simp [Pc.left]) (by simp [Pc.watchOnly]) (h ▸ rfl) (by simp [h])
      (by simp [Pc.phase])

/-- What a client, a signal or a bridge thread does is announced to nobody. -/
theorem Streams.env (hs : Streams watch bs s) {a : Action} (ha : byMain (.act a) = false)
    (h : s.step a = some t) : Streams watch ((s.broadcast (.act a)).toList ++ bs) t := by
  have hnone : s.broadcast (.act a) = none := by
    cases a with
    | main r => cases ha
    | _ => rfl
  rw [hnone]
  obtain ⟨_, _, _, _, rfl, -, -⟩ := step_of_env (ne_main_of_byMain ha) h
  exact ⟨hs.watchMode, hs.ipc, hs.watchOnly, hs.watchSay, hs.phase, hs.bound⟩

/-- Every step keeps the order of the messages. -/
theorem Streams.step (hs : Streams watch bs s) (h : s.stepAny e = some t) :
    Streams watch ((s.broadcast e).toList ++ bs) t := by
  cases hmain : byMain e with
  | true =>
    cases hk : s.onPoll with
    | some k => exact hs.onPoll hk hmain h
    | none =>
      cases e with
      | pollReturns cmd => simp [stepAny, hk] at h
      | act a =>
        cases a with
        | connect | send | close | signal | bridgeDown => cases hmain
        | main r =>
          have hstep : s.mainStep r = some t := h
          cases hannounces : s.pc.announces with
          | some message =>
            obtain rfl := Option.some.inj ((mainStep_of_announces hannounces).symm.trans hstep)
            exact hs.announce hannounces
          | none =>
            by_cases hstats : s.pc = .sendStats
            · simp only [mainStep, hstats, Option.some.injEq] at hstep
              subst hstep
              exact hs.stats hstats
            · have hnone : s.broadcast (.act (.main r)) = none := by
                cases hipc : s.ipc <;> simp [broadcast, hipc, hannounces, hstats]
              rw [hnone]
              exact hs.quietStep hk hannounces hstats hstep
  | false =>
    cases e with
    | pollReturns cmd => cases hmain
    | act a => exact hs.env hmain h

/-! ### Runs -/

/-- What one more step sends. -/
theorem broadcasts_cons (s : Daemon) (e : Event) (l : List (Daemon × Event)) :
    broadcasts ((s, e) :: l) = (s.broadcast e).toList ++ broadcasts l := by
  unfold broadcasts
  rw [List.filterMap_cons]
  cases s.broadcast e <;> rfl

/-- The order of the messages, in any run. -/
theorem streams_of_run {l : List (Daemon × Event)} (h : Run stepAny (start watch true) l t) :
    Streams watch (broadcasts l) t := by
  induction h with
  | start => exact streams_start watch
  | snoc _ hst ih =>
    rw [broadcasts_cons]
    exact ih.step hst

/-- **What the clients are told over a run.**  In either mode, whatever clients, signals, polls
    and bridge threads do, the broadcasts of a run are a stream of sessions, each announced, with
    statistics only in it, and with its end announced before anything else is; as long as the
    process has not been killed, a session is announced exactly while the main thread is in one:
    with the network modified, with the bridge running, and never past the end of the loops. -/
theorem broadcasts_streams (watchMode : Bool) {l : List (Daemon × Event)}
    (h : Run stepAny (start watchMode true) l t) :
    ∃ phase, BroadcastPhase.after watchMode (broadcasts l) = some phase ∧
      (t.pc ≠ .killed →
        phase = t.pc.phase ∧ (phase = .session → t.networkBound = true) ∧
          (t.pc.bridging = true → phase = .session) ∧ (t.pc.left = true → phase = .apart)) := by
  have hs := streams_of_run h
  obtain ⟨phase, hafter, hphase⟩ := hs.phase
  refine ⟨phase, hafter, fun hkilled => ?_⟩
  obtain rfl := hphase hkilled
  refine ⟨rfl, fun hsession => hs.bound (.inr hsession), fun hbridging => ?_, fun hleft => ?_⟩
  · cases hpc : t.pc <;> simp [hpc, Pc.bridging] at hbridging <;> rfl
  · cases hpc : t.pc <;> simp [hpc, Pc.left] at hleft <;> rfl

/-- In the session that a client starts with an enable, a session is announced. -/
theorem broadcasts_streams_session :
    ∃ (l : List (Daemon × Event)) (t : Daemon), t.pc = .sessionPoll ∧
      BroadcastPhase.after true (broadcasts l) = some .session := by
  obtain ⟨l, t, hrun, -, hgood⟩ := exists_run_of_exec stepAny (fun _ _ => true)
    (fun t => t.pc == .sessionPoll) (start true true) enabledSession (by decide +kernel)
  have hpc : t.pc = .sessionPoll := eq_of_beq hgood
  obtain ⟨phase, hafter, hphase⟩ := broadcasts_streams true hrun
  obtain ⟨rfl, -⟩ := hphase (by simp [hpc])
  exact ⟨l, t, hpc, by rw [hafter, hpc]; rfl⟩

end Daemon

end AndroidTether
