import AndroidTether.HostNet
import AndroidTether.Shutdown

namespace AndroidTether

open Trans KeyMap

/-!
# The host while the daemon runs

The daemon of `Daemon`, with the host it modifies: steps 7 and 8 of `run_session` write to the
routing table and the dynamic store, `restore_network_state` deletes what they may have
written, at the end of each session and once more at exit.  The commands run one after the
other; in between, clients, signals and bridge threads move.

* `Hosted.step` — a step of the daemon, or the next command of its main thread;
* `hosted_run` — what any number of sessions leaves behind.
-/

namespace Daemon

/-- The commands that the main thread runs where it stands, before `g_network_bound` is
    written. -/
def hostCmds (c : NetFlags) (a : SessionAddrs) (s : Daemon) : List HostCmd :=
  match s.pc with
  | .setUpNetwork => setUpNetworking c a
  -- `atExit` stands for `cleanup_at_exit`
  | .restoreNetwork | .atExit => restoreNetworkState s.networkBound c
  | _ => []

/-- The step ends the set-up of a session. -/
def setsUp (s : Daemon) (e : Event) : Bool := byMain e && s.pc == .setUpNetwork

end Daemon

open Daemon

/-- The daemon and its host, and the commands that the main thread has still to run before its
    next step. -/
structure Hosted where
  daemon : Daemon
  host : Host
  todo : List HostCmd

/-- What happens: a step of the daemon, with the addresses of a session that is set up next, or
    the next command.  Commands of the set-up may fail. -/
inductive HostedAction where
  | event (e : Event) (addrs : SessionAddrs)
  | cmd (done : Bool)

namespace Hosted

/-- The daemon starts with nothing to run. -/
def start (watchMode hasIpc : Bool) (h : Host) : Hosted := ⟨Daemon.start watchMode hasIpc, h, []⟩

/-- One step; `c` are `g_no_route` and `g_no_dns`. -/
def step (c : NetFlags) (s : Hosted) : HostedAction → Option Hosted
  | .event e addrs =>
    if byMain e && !s.todo.isEmpty then none
    else
      (s.daemon.stepAny e).map fun d =>
        ⟨d, s.host, if byMain e then d.hostCmds c addrs else s.todo⟩
  | .cmd done =>
    match s.todo with
    | [] => none
    | cmd :: todo =>
      if done then some ⟨s.daemon, cmd.exec s.host, todo⟩
      else if s.daemon.pc = .setUpNetwork then some ⟨s.daemon, s.host, todo⟩
      else none

/-- A session has been set up in the run. -/
def setUpIn (l : List (Hosted × HostedAction)) : Bool :=
  l.any fun p =>
    match p.2 with
    | .event e _ => p.1.daemon.setsUp e
    | .cmd _ => false

/-- The command writes to nothing but what a session deletes. -/
def Deletes (c : NetFlags) (cmd : HostCmd) : Prop :=
  (∀ e, cmd.routeEdit? = some e → e.key ∈ deletedRoutes c) ∧
    ∀ e, cmd.storeEdit? = some e → e.key ∈ removedKeys c

/-- What a session deletes is gone. -/
def Gone (c : NetFlags) (h : Host) : Prop :=
  (∀ p ∈ deletedRoutes c, h.routes p = none) ∧ ∀ k ∈ removedKeys c, h.store k = none

/-- The host during and after sessions that began with it as `h`: nothing but what a session
    deletes differs, and with `g_network_bound` 0, outside the set-up, that is gone, once there
    was a session. -/
structure Inv (c : NetFlags) (h : Host) (touched : Bool) (s : Hosted) : Prop where
  routes : ∀ p, p ∉ deletedRoutes c → s.host.routes p = h.routes p
  store : ∀ k, k ∉ removedKeys c → s.host.store k = h.store k
  todo : ∀ cmd ∈ s.todo, Deletes c cmd
  idle : s.daemon.networkBound = false → s.daemon.pc ≠ .setUpNetwork → s.todo = []
  unbound : touched = false → s.daemon.networkBound = false
  untouched : touched = false → s.daemon.pc ≠ .setUpNetwork →
    s.host.routes = h.routes ∧ s.host.store = h.store
  restored : touched = true → s.daemon.networkBound = false → s.daemon.pc ≠ .setUpNetwork →
    Gone c s.host
  restoring : s.daemon.networkBound = true →
    s.daemon.pc = .restoreNetwork ∨ s.daemon.pc = .atExit → Gone c (execAll s.todo s.host)

end Hosted

/-! ### Steps of the daemon -/

section Daemon

variable {s t : Daemon} {e : Event}

/-- `g_network_bound` is written in three places. -/
theorem mainStep_networkBound {r : SysRet} (hpoll : s.onPoll = none)
    (h : s.mainStep r = some t) :
    s.pc = .setUpNetwork ∧ t.networkBound = true ∧ t.pc = .sayConnected ∨
      (s.pc = .restoreNetwork ∨ s.pc = .atExit) ∧ t.networkBound = false ∧ t.pc ≠ .setUpNetwork ∨
      s.pc ≠ .setUpNetwork ∧ s.pc ≠ .restoreNetwork ∧ s.pc ≠ .atExit ∧
        t.networkBound = s.networkBound := by
  replace h := mainStep_cases h
  cases h with
  | setsUp h => exact .inl ⟨h, rfl, rfl⟩
  | restores h => exact .inr (.inl ⟨.inl h, rfl, nofun⟩)
  | exits h => exact .inr (.inl ⟨.inr h, rfl, nofun⟩)
  | polls hk =>
    rw [hpoll] at hk
    cases hk
  | announces h =>
    obtain ⟨pc, announced, heq, -⟩ := sendState_eq _ _ s
    rw [heq]
    refine .inr (.inr ⟨?_, ?_, ?_, rfl⟩) <;> intro hpc <;> simp [hpc, Pc.announces] at h
  | sendsStats h =>
    obtain ⟨pc, heq, -⟩ := sendStats_eq .sessionChecks s
    rw [heq]
    exact .inr (.inr ⟨by simp [h], by simp [h], by simp [h], rfl⟩)
  | goes h => exact .inr (.inr (by cases h <;> simp [*]))
  | startsBridge h | statsDue h | checks _ h | joins h | checksRetry _ h | destroys h =>
    exact .inr (.inr ⟨by simp [h], by simp [h], by simp [h], rfl⟩)

/-- The same for all steps of the main thread. -/
theorem stepAny_networkBound (hmain : byMain e = true) (h : s.stepAny e = some t) :
    s.pc = .setUpNetwork ∧ t.networkBound = true ∧ t.pc = .sayConnected ∨
      (s.pc = .restoreNetwork ∨ s.pc = .atExit) ∧ t.networkBound = false ∧ t.pc ≠ .setUpNetwork ∨
      s.pc ≠ .setUpNetwork ∧ s.pc ≠ .restoreNetwork ∧ s.pc ≠ .atExit ∧
        t.networkBound = s.networkBound := by
  cases hk : s.onPoll with
  | some k =>
    have hpc : s.pc ≠ .setUpNetwork ∧ s.pc ≠ .restoreNetwork ∧ s.pc ≠ .atExit := by
      unfold onPoll at hk
      cases hpc : s.pc <;> simp [hpc] at hk ⊢
    exact .inr (.inr ⟨hpc.1, hpc.2.1, hpc.2.2, stepAny_poll_networkBound hk hmain h⟩)
  | none =>
    cases e with
    | pollReturns cmd => simp [stepAny, hk] at h
    | act a =>
      cases a with
      | main r => exact mainStep_networkBound hk h
      | connect | send | close | signal | bridgeDown => cases hmain

/-- With `g_network_bound` 0 only the set-up has something to run. -/
theorem hostCmds_eq_nil (c : NetFlags) (a : SessionAddrs) (hbound : t.networkBound = false)
    (hpc : t.pc ≠ .setUpNetwork) : t.hostCmds c a = [] := by
  unfold hostCmds
  split
  · rename_i h
    exact absurd h hpc
  · rw [hbound]
    rfl
  · rw [hbound]
    rfl
  · rfl

end Daemon

/-! ### The host -/

section Host

variable {c : NetFlags} {h : Host}

/-- All commands of the daemon write to what a session deletes. -/
theorem hostCmds_deletes (a : SessionAddrs) (d : Daemon) :
    ∀ cmd ∈ d.hostCmds c a, Hosted.Deletes c cmd := by
  have hrestore : ∀ bound, ∀ cmd ∈ restoreNetworkState bound c, Hosted.Deletes c cmd := by
    intro bound cmd hcmd
    cases bound with
    | false => cases hcmd
    | true =>
      constructor
      · intro e he
        have hmem := List.mem_filterMap.mpr ⟨cmd, hcmd, he⟩
        rw [restoreNetworkState_routes] at hmem
        obtain ⟨p, hp, rfl⟩ := List.mem_map.mp hmem
        exact hp
      · intro e he
        have hmem := List.mem_filterMap.mpr ⟨cmd, hcmd, he⟩
        rw [restoreNetworkState_store] at hmem
        obtain ⟨k, hk, rfl⟩ := List.mem_map.mp hmem
        exact hk
  intro cmd hcmd
  unfold hostCmds at hcmd
  split at hcmd
  · exact setUpNetworking_keys c a hcmd
  · exact hrestore _ cmd hcmd
  · exact hrestore _ cmd hcmd
  · cases hcmd

/-- Such a command leaves everything else alone. -/
theorem exec_frame {cmd : HostCmd} (hcmd : Hosted.Deletes c cmd) :
    (∀ p, p ∉ deletedRoutes c → (cmd.exec h).routes p = h.routes p) ∧
      ∀ k, k ∉ removedKeys c → (cmd.exec h).store k = h.store k := by
  constructor
  · intro p hp
    cases cmd with
    | route e =>
      refine Edit.apply_of_ne ?_
      rintro rfl
      exact hp (hcmd.1 e rfl)
    | scutil | backup | unlinkBackup => rfl
  · intro k hk
    cases cmd with
    | scutil e =>
      refine Edit.apply_of_ne ?_
      rintro rfl
      exact hk (hcmd.2 e rfl)
    | route | backup | unlinkBackup => rfl

/-- `restore_network_state` deletes it all. -/
theorem execAll_restore_gone : Hosted.Gone c (execAll (restoreNetworkState true c) h) := by
  constructor
  · intro p hp
    rw [execAll_routes, restoreNetworkState_routes, applyAll_remove, if_pos hp]
  · intro k hk
    rw [execAll_store, restoreNetworkState_store, applyAll_remove, if_pos hk]

end Host

/-! ### Runs -/

namespace Hosted

variable {c : NetFlags} {h : Host} {s t : Hosted} {touched : Bool}

/-- What a client, a signal or a bridge thread does is not seen here. -/
theorem Inv.env (hs : Inv c h touched s) {d : Daemon} (hbound : d.networkBound = s.daemon.networkBound)
    (hpc : d.pc = s.daemon.pc) : Inv c h touched ⟨d, s.host, s.todo⟩ where
  routes := hs.routes
  store := hs.store
  todo := hs.todo
  idle := by
    show d.networkBound = false → d.pc ≠ .setUpNetwork → s.todo = []
    rw [hbound, hpc]
    exact hs.idle
  unbound := by
    show touched = false → d.networkBound = false
    rw [hbound]
    exact hs.unbound
  untouched := by
    show touched = false → d.pc ≠ .setUpNetwork → _
    rw [hpc]
    exact hs.untouched
  restored := by
    show touched = true → d.networkBound = false → d.pc ≠ .setUpNetwork → _
    rw [hbound, hpc]
    exact hs.restored
  restoring := by
    show d.networkBound = true → d.pc = .restoreNetwork ∨ d.pc = .atExit → _
    rw [hbound, hpc]
    exact hs.restoring

/-- The main thread goes on when it has run the commands of its place. -/
theorem Inv.main (hs : Inv c h touched s) (htodo : s.todo = []) {e : Event} {d : Daemon}
    (hmain : byMain e = true) (hd : s.daemon.stepAny e = some d) (a : SessionAddrs) :
    Inv c h (s.daemon.setsUp e || touched) ⟨d, s.host, d.hostCmds c a⟩ := by
  have hidle : d.networkBound = false → d.pc ≠ .setUpNetwork → d.hostCmds c a = [] :=
    hostCmds_eq_nil c a
  have hset : s.daemon.setsUp e = (s.daemon.pc == .setUpNetwork) := by rw [setsUp, hmain, Bool.true_and]
  rcases stepAny_networkBound hmain hd with ⟨hpc, hbound, hnext⟩ | ⟨hpc, hbound, hnext⟩ |
    ⟨hset', hrestore, hexit, hbound⟩
  · -- a session has been set up
    rw [hset, hpc]
    refine ⟨hs.routes, hs.store, hostCmds_deletes a d, hidle, nofun, nofun, fun _ hnot => ?_,
      fun _ hplace => ?_⟩
    · rw [show d.networkBound = false from hnot] at hbound
      cases hbound
    · rw [show d.pc = _ from hnext] at hplace
      rcases hplace with hplace | hplace <;> cases hplace
  · -- the network has been restored
    have hne : s.daemon.pc ≠ .setUpNetwork := by rcases hpc with hpc | hpc <;> simp [hpc]
    rw [hset, beq_false_of_ne hne, Bool.false_or]
    refine ⟨hs.routes, hs.store, hostCmds_deletes a d, hidle, fun _ => hbound,
      fun htouched _ => hs.untouched htouched hne, fun htouched _ _ => ?_, fun hnot => ?_⟩
    · cases hold : s.daemon.networkBound with
      | false => exact hs.restored htouched hold hne
      | true =>
        have hgone := hs.restoring hold hpc
        rw [htodo] at hgone
        exact hgone
    · rw [show d.networkBound = true from hnot] at hbound
      cases hbound
  · -- any other step keeps the flag
    rw [hset, beq_false_of_ne hset', Bool.false_or]
    refine ⟨hs.routes, hs.store, hostCmds_deletes a d, hidle, fun htouched => ?_,
      fun htouched _ => hs.untouched htouched hset', fun htouched hnot _ => ?_, fun hyes hplace => ?_⟩
    · exact hbound.trans (hs.unbound htouched)
    · exact hs.restored htouched (hbound.symm.trans hnot) hset'
    · -- the commands of `restore_network_state` are still to be run
      have hcmds : d.hostCmds c a = restoreNetworkState true c := by
        have hyes' : d.networkBound = true := hyes
        unfold hostCmds
        rcases hplace with hplace | hplace <;>
          rw [show d.pc = _ from hplace, hyes']
      show Gone c (execAll (d.hostCmds c a) s.host)
      rw [hcmds]
      exact execAll_restore_gone

/-- The next command of the set-up or of `restore_network_state`. -/
theorem Inv.cmd (hs : Inv c h touched s) {cmd : HostCmd} {todo : List HostCmd}
    (htodo : s.todo = cmd :: todo) (done : Bool) (hdone : done = true ∨ s.daemon.pc = .setUpNetwork) :
    Inv c h touched ⟨s.daemon, if done then cmd.exec s.host else s.host, todo⟩ := by
  have hdeletes := hs.todo cmd (htodo ▸ List.mem_cons_self)
  obtain ⟨hroutes, hstore⟩ := exec_frame (h := s.host) hdeletes
  -- outside the set-up the network is bound
  have hbusy : s.daemon.networkBound = false → s.daemon.pc = .setUpNetwork := by
    intro hbound
    by_contra hne
    rw [hs.idle hbound hne] at htodo
    cases htodo
  refine ⟨fun p hp => ?_, fun k hk => ?_, fun cmd' hcmd' => ?_, fun hbound hne => ?_, hs.unbound,
    fun htouched hne => ?_, fun _ hbound hne => ?_, fun hbound hplace => ?_⟩
  · cases done
    · exact hs.routes p hp
    · exact (hroutes p hp).trans (hs.routes p hp)
  · cases done
    · exact hs.store k hk
    · exact (hstore k hk).trans (hs.store k hk)
  · exact hs.todo cmd' (htodo ▸ List.mem_cons_of_mem _ hcmd')
  · exact absurd (hbusy hbound) hne
  · exact absurd (hbusy (hs.unbound htouched)) hne
  · exact absurd (hbusy hbound) hne
  · have hgone := hs.restoring hbound hplace
    rw [htodo] at hgone
    rcases hdone with rfl | hpc
    · exact hgone
    · rw [show s.daemon.pc = _ from hpc] at hplace
      rcases hplace with hplace | hplace <;> cases hplace

/-- **One step** keeps the invariant. -/
theorem Inv.step {a : HostedAction} (hs : Inv c h touched s) (hst : s.step c a = some t) :
    Inv c h (setUpIn [(s, a)] || touched) t := by
  cases a with
  | event e addrs =>
    simp only [Hosted.step] at hst
    split at hst
    · cases hst
    rename_i hfree
    obtain ⟨d, hd, rfl⟩ := Option.map_eq_some_iff.mp hst
    have hset : setUpIn [(s, .event e addrs)] = s.daemon.setsUp e := by simp [setUpIn]
    rw [hset]
    cases hmain : byMain e with
    | true =>
      have htodo : s.todo = [] := by simpa [hmain] using hfree
      exact hs.main htodo hmain hd addrs
    -- the other threads change nothing of the host
    | false =>
      cases e with
      | pollReturns cmd => cases hmain
      | act a =>
        obtain ⟨_, _, _, _, rfl, -, -⟩ := step_of_env (ne_main_of_byMain hmain) hd
        rw [setsUp, hmain, Bool.false_and, Bool.false_or]
        exact hs.env rfl rfl
  -- one command, which takes effect unless it is one of the set-up
  | cmd done =>
    have hset : setUpIn [(s, .cmd done)] = false := rfl
    rw [hset, Bool.false_or]
    simp only [Hosted.step] at hst
    split at hst
    · cases hst
    · rename_i cmd todo htodo
      split at hst
      · rename_i hdone
        cases hst
        have hinv := hs.cmd htodo _ (.inl hdone)
        rwa [if_pos hdone] at hinv
      · rename_i hdone
        split at hst
        · rename_i hpc
          cases hst
          have hinv := hs.cmd htodo done (.inr hpc)
          rwa [if_neg hdone] at hinv
        · cases hst

/-- The invariant holds in every run. -/
theorem inv_of_run {watchMode hasIpc : Bool} {l : List (Hosted × HostedAction)}
    (hrun : Run (step c) (start watchMode hasIpc h) l t) : Inv c h (setUpIn l) t := by
  induction hrun with
  | start =>
    refine ⟨fun _ _ => rfl, fun _ _ => rfl, by simp [start], fun _ _ => rfl, fun _ => rfl,
      fun _ _ => ⟨rfl, rfl⟩, by simp [setUpIn], by simp [start, Daemon.start]⟩
  | @snoc l u v a _ hst ih =>
    have hcons : setUpIn ((u, a) :: l) = (setUpIn [(u, a)] || setUpIn l) := by simp [setUpIn]
    rw [hcons]
    exact ih.step hst

/-- **What the daemon leaves behind.**  In either mode, over any run, with whichever of their
    set-up commands taking effect in any number of sessions: the routing table and the dynamic
    store differ from those at the start in nothing but what a session deletes, and whenever
    `g_network_bound` is 0 and the main thread is not in steps 7 and 8 of `run_session`, they are
    those at the start exactly if no session was set up or there was nothing to delete at the
    start. -/
theorem hosted_run (c : NetFlags) (watchMode hasIpc : Bool) (h : Host)
    {l : List (Hosted × HostedAction)} (hrun : Run (step c) (start watchMode hasIpc h) l t) :
    (∀ p, p ∉ deletedRoutes c → t.host.routes p = h.routes p) ∧
      (∀ k, k ∉ removedKeys c → t.host.store k = h.store k) ∧
      (t.daemon.networkBound = false → t.daemon.pc ≠ .setUpNetwork →
        (t.host.routes = h.routes ∧ t.host.store = h.store ↔
          setUpIn l = false ∨ ((∀ p ∈ deletedRoutes c, h.routes p = none) ∧
            ∀ k ∈ removedKeys c, h.store k = none))) := by
  have hinv := inv_of_run hrun
  refine ⟨hinv.routes, hinv.store, fun hbound hpc => ?_⟩
  cases htouched : setUpIn l with
  | false =>
    rw [htouched] at hinv
    exact iff_of_true (hinv.untouched rfl hpc) (.inl rfl)
  | true =>
    rw [htouched] at hinv
    obtain ⟨hroutes, hstore⟩ := hinv.restored rfl hbound hpc
    constructor
    · rintro ⟨heqr, heqs⟩
      exact .inr ⟨fun p hp => heqr ▸ hroutes p hp, fun k hk => heqs ▸ hstore k hk⟩
    · rintro (hnot | ⟨hnor, hnos⟩)
      · cases hnot
      · constructor
        · funext p
          by_cases hp : p ∈ deletedRoutes c
          · rw [hroutes p hp, hnor p hp]
          · exact hinv.routes p hp
        · funext k
          by_cases hk : k ∈ removedKeys c
          · rw [hstore k hk, hnos k hk]
          · exact hinv.store k hk

/-- Some steps of the main thread, at the time 1. -/
def turns (n : Nat) : List HostedAction := List.replicate n (.event (mainTurn 1) defaultAddrs)

/-- One-shot mode: a session, of whose set-up one command fails, a signal while the network is
    being set up, and on to the end. -/
def wholeRun : List HostedAction :=
  turns 2 ++ List.replicate 3 (.cmd true) ++ [.event (.act .signal) defaultAddrs, .cmd false] ++
    List.replicate 3 (.cmd true) ++ turns 6 ++ List.replicate 7 (.cmd true) ++ turns 4

/-- After it, a host with other routes and keys is as it was. -/
theorem hosted_run_wifiHost :
    ∃ (l : List (Hosted × HostedAction)) (t : Hosted),
      Run (step ⟨false, false⟩) (start false true wifiHost) l t ∧ t.daemon.pc = .exited ∧
        t.daemon.lastState = some .disconnected ∧ t.host.routes = wifiHost.routes ∧
        t.host.store = wifiHost.store := by
  obtain ⟨l, t, hrun, -, hgood⟩ := exists_run_of_exec (step ⟨false, false⟩) (fun _ _ => true)
    (fun t => t.daemon.pc == .exited && t.daemon.lastState == some .disconnected &&
      !t.daemon.networkBound)
    (start false true wifiHost) wholeRun (by decide +kernel)
  rw [Bool.and_eq_true, Bool.and_eq_true, Bool.not_eq_true'] at hgood
  obtain ⟨⟨hpc, hlast⟩, hbound⟩ := hgood
  have hpc : t.daemon.pc = .exited := eq_of_beq hpc
  obtain ⟨-, -, hiff⟩ := hosted_run ⟨false, false⟩ false true wifiHost hrun
  exact ⟨l, t, hrun, hpc, eq_of_beq hlast, (hiff hbound (by rw [hpc]; nofun)).mpr
    (.inr ⟨by decide, by decide⟩)⟩

end Hosted

end AndroidTether
