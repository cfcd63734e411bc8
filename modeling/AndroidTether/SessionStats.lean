import AndroidTether.Daemon
import Mathlib.Algebra.Order.BigOperators.Group.List
import Mathlib.Algebra.Order.Group.Nat
import Mathlib.Algebra.Ring.Nat

namespace AndroidTether

open Trans

/-!
# The rates of a session

The main loop of `run_session` once more, for what it reports: the keepalive every 30 seconds,
the counters of the bridge threads, and the rates computed from them.  The loads of the counters
are single steps, between which the bridge threads count on; the clock may return anything.

* `SessionLoop.step` — a statement of the loop, or a bridge thread counting;
* `head_daemon` — the daemon's loop makes the same decisions;
* `loop_schedule` — when keepalives and rates are due, whatever the clock returns;
* `reports_account` — the rates of a session count every byte once, but for those that come
  between two loads of the same round.
-/

/-- The two directions, each with its counters and its variables. -/
inductive Dir where
  | tx
  | rx
  deriving DecidableEq, Repr

/-- Where the loop stands. -/
inductive StatsPc where
  /-- the loop's condition, `time`, and the keepalive if one is due -/
  | head
  /-- `cur_tx_bytes`, `cur_rx_bytes` -/
  | loadBytes (d : Dir)
  /-- `st.tx_pkts`, `st.rx_pkts`, then the report -/
  | loadPkts (d : Dir)
  /-- `prev_tx_bytes`, `prev_rx_bytes`, then `last_stats` -/
  | keepBytes (d : Dir)
  deriving DecidableEq, Repr

/-- The rates of the round are being computed, and have been sent if there are any. -/
def StatsPc.loading : StatsPc → Bool
  | loadBytes _ => true
  | loadPkts _ => true
  | _ => false

def StatsPc.reported : StatsPc → Bool
  | keepBytes _ => true
  | _ => false

/-- A `tether_stats_t` with the time it is made at.  The rates are in bytes over `elapsed`
    seconds; `tx_mbps` is eight times that, over a million. -/
structure SpeedReport where
  time : Int
  elapsed : Int
  delta : Dir → Nat
  bytes : Dir → Nat
  pkts : Dir → Nat

/-- The variables of the loop and the counters of `bctx`, which are 64 bits wide. -/
structure SessionLoop where
  pc : StatsPc
  now : Int
  lastKeepalive : Int
  lastStats : Int
  cur : Dir → Nat
  prev : Dir → Nat
  stPkts : Dir → Nat
  /-- `bctx.tx_bytes`, `bctx.rx_bytes`, and the packets -/
  bytes : Dir → Nat
  pkts : Dir → Nat
  /-- what has been sent, the latest first -/
  keepalives : List Int
  reports : List SpeedReport

namespace SessionLoop

/-- Before the first round. -/
def start : SessionLoop where
  pc := .head
  now := 0
  lastKeepalive := 0
  lastStats := 0
  cur := fun _ => 0
  prev := fun _ => 0
  stPkts := fun _ => 0
  bytes := fun _ => 0
  pkts := fun _ => 0
  keepalives := []
  reports := []

/-- `cur - prev` on `uint64_t`. -/
def delta (s : SessionLoop) (d : Dir) : Nat := (s.cur d + 2 ^ 64 - s.prev d) % 2 ^ 64

/-- The report of a round. -/
def report (s : SessionLoop) : SpeedReport where
  time := s.now
  elapsed := s.now - s.lastStats
  delta := s.delta
  bytes := s.cur
  pkts := s.stPkts

/-- The loop's body up to the first load; `now` is what `time` returned. -/
def head (s : SessionLoop) (now : Int) : SessionLoop :=
  let s :=
    if now - s.lastKeepalive ≥ 30 then
      { s with lastKeepalive := now, keepalives := now :: s.keepalives }
    else s
  if now - s.lastStats ≥ 1 then
    { s with now := now, pc := if s.lastStats > 0 then .loadBytes .tx else .keepBytes .tx }
  else s

/-- One step of the main thread. -/
def mainStep (s : SessionLoop) (now : Int) : SessionLoop :=
  match s.pc with
  | .head => s.head now
  | .loadBytes .tx =>
    { s with cur := Function.update s.cur .tx (s.bytes .tx), pc := .loadBytes .rx }
  | .loadBytes .rx =>
    { s with cur := Function.update s.cur .rx (s.bytes .rx), pc := .loadPkts .tx }
  | .loadPkts .tx =>
    { s with stPkts := Function.update s.stPkts .tx (s.pkts .tx), pc := .loadPkts .rx }
  | .loadPkts .rx =>
    let s := { s with stPkts := Function.update s.stPkts .rx (s.pkts .rx) }
    { s with reports := s.report :: s.reports, pc := .keepBytes .tx }
  | .keepBytes .tx =>
    { s with prev := Function.update s.prev .tx (s.bytes .tx), pc := .keepBytes .rx }
  | .keepBytes .rx =>
    { s with
      prev := Function.update s.prev .rx (s.bytes .rx)
      lastStats := s.now
      pc := .head }

/-- What can happen: a step of the main thread, with what `time` would return, or one of the two
    `atomic_fetch_add` of a bridge thread. -/
inductive Action where
  | main (now : Int)
  | countPkt (d : Dir)
  | countBytes (d : Dir) (n : Nat)

def step (s : SessionLoop) : Action → Option SessionLoop
  | .main now => some (s.mainStep now)
  | .countPkt d => some { s with pkts := Function.update s.pkts d ((s.pkts d + 1) % 2 ^ 64) }
  | .countBytes d n =>
    some { s with bytes := Function.update s.bytes d ((s.bytes d + n) % 2 ^ 64) }

/-- The bytes an action counts. -/
def counted (d : Dir) : Action → Nat
  | .countBytes d' n => if d' = d then n else 0
  | _ => 0

/-- **The same loop.**  The head of the daemon's session loop sends rates, checks and polls in
    the same rounds. -/
theorem head_daemon (s : SessionLoop) (t : Daemon) (r : SysRet) (hs : s.pc = .head)
    (ht : t.pc = .sessionHead) (hrunning : t.running = true) (hbridge : t.bridgeRunning = true)
    (hlast : t.lastStats = s.lastStats) :
    t.mainStep r = some { t with
      lastStats := if (s.mainStep r.now).pc = .head then s.lastStats else r.now
      pc := match (s.mainStep r.now).pc with
        | .head => .sessionHead
        | .loadBytes _ => .sendStats
        | _ => .sessionChecks } := by
  have hkeep : (s.mainStep r.now).pc =
      if r.now - s.lastStats ≥ 1 then
        (if s.lastStats > 0 then .loadBytes .tx else .keepBytes .tx) else .head := by
    rw [mainStep, hs]
    show (s.head r.now).pc = _
    unfold head
    by_cases hkeepalive : r.now - s.lastKeepalive ≥ 30
    · simp only [if_pos hkeepalive]
      split_ifs <;> first | rfl | exact hs
    · simp only [if_neg hkeepalive]
      split_ifs <;> first | rfl | exact hs
  have hgoes : (t.running && t.bridgeRunning) = true := by rw [hrunning, hbridge]; rfl
  unfold Daemon.mainStep
  rw [ht, hkeep]
  simp only [if_pos hgoes, hlast]
  by_cases htick : r.now - s.lastStats ≥ 1
  · simp only [if_pos htick]
    by_cases hfirst : s.lastStats > 0
    · simp [hfirst]
    · simp [hfirst]
  · rw [if_neg htick, if_neg htick]
    simp only [if_true, ← hlast, ← ht]

/-! ### When things are due -/

section Schedule

variable {s t : SessionLoop} {l : List (SessionLoop × Action)} {a : Action}

/-- Keepalives are 30 seconds apart; the intervals of the reports follow each other. -/
structure Scheduled (s : SessionLoop) : Prop where
  keepalives : s.keepalives.Pairwise fun a b => b + 30 ≤ a
  keepalives_le : ∀ k ∈ s.keepalives, k ≤ s.lastKeepalive
  lastKeepalive : s.lastKeepalive = 0 ∨ s.lastKeepalive ∈ s.keepalives
  lastStats : 0 ≤ s.lastStats
  round : s.pc ≠ .head → s.lastStats + 1 ≤ s.now
  elapsed : ∀ r ∈ s.reports, 1 ≤ r.elapsed
  chain : s.reports.IsChain fun a b => a.time - a.elapsed = b.time
  latest : ∀ r ∈ s.reports.head?, r.time = if s.pc.reported then s.now else s.lastStats
  loading : s.pc.loading = true → 0 < s.lastStats
  second : s.reports ≠ [] → 0 < s.lastStats

/-- Before the first round. -/
theorem scheduled_start : Scheduled start where
  keepalives := .nil
  keepalives_le := by simp [start]
  lastKeepalive := .inl rfl
  lastStats := le_refl 0
  round := fun h => absurd rfl h
  elapsed := by simp [start]
  chain := .nil
  latest := by simp [start]
  loading := fun h => by cases h
  second := fun h => absurd rfl h

/-- The keepalive at the head of the loop. -/
def keepalive (s : SessionLoop) (now : Int) : SessionLoop :=
  if now - s.lastKeepalive ≥ 30 then
    { s with lastKeepalive := now, keepalives := now :: s.keepalives }
  else s

/-- The loop's head, with its keepalive as a part of its own. -/
theorem head_eq (s : SessionLoop) (now : Int) :
    s.head now =
      if now - s.lastStats ≥ 1 then
        { s.keepalive now with
          now := now, pc := if s.lastStats > 0 then .loadBytes .tx else .keepBytes .tx }
      else s.keepalive now := by
  unfold head keepalive
  split <;> rfl

/-- Nothing else changes. -/
theorem keepalive_eq (s : SessionLoop) (now : Int) :
    s.keepalive now = { s with
      lastKeepalive := (s.keepalive now).lastKeepalive
      keepalives := (s.keepalive now).keepalives } := by
  unfold keepalive
  split <;> rfl

/-- A keepalive that is due keeps the schedule. -/
theorem Scheduled.keepalive (h : Scheduled s) (now : Int) : Scheduled (s.keepalive now) := by
  unfold SessionLoop.keepalive
  split
  · rename_i hdue
    have hlater : ∀ k ∈ s.keepalives, k + 30 ≤ now := fun k hk => by
      have hle := h.keepalives_le k hk
      omega
    have hle : ∀ k ∈ s.keepalives, k ≤ now := fun k hk => by
      have hlate := hlater k hk
      omega
    exact {
      keepalives := List.pairwise_cons.mpr ⟨hlater, h.keepalives⟩
      keepalives_le := List.forall_mem_cons.mpr ⟨le_refl now, hle⟩
      lastKeepalive := .inr List.mem_cons_self
      lastStats := h.lastStats
      round := h.round
      elapsed := h.elapsed
      chain := h.chain
      latest := h.latest
      loading := h.loading
      second := h.second }
  · exact h

/-- A round of the loop is not 30 seconds behind the last keepalive. -/
theorem lt_keepalive (h : Scheduled s) (now : Int) :
    now < 30 ∨ ∃ k ∈ (s.keepalive now).keepalives, now < k + 30 := by
  unfold SessionLoop.keepalive
  split
  · exact .inr ⟨now, List.mem_cons_self, by omega⟩
  · rename_i hdue
    rcases h.lastKeepalive with hzero | hmem
    · exact .inl (by omega)
    · exact .inr ⟨s.lastKeepalive, hmem, by omega⟩

/-- Steps that touch neither the clock nor what has been sent. -/
theorem Scheduled.of_eq (h : Scheduled s) (hkeepalives : t.keepalives = s.keepalives)
    (hlastKeepalive : t.lastKeepalive = s.lastKeepalive) (hreports : t.reports = s.reports)
    (hlastStats : t.lastStats = s.lastStats) (hnow : t.now = s.now)
    (hhead : s.pc = .head ↔ t.pc = .head) (hreported : t.pc.reported = s.pc.reported)
    (hloading : t.pc.loading = s.pc.loading) : Scheduled t where
  keepalives := hkeepalives ▸ h.keepalives
  keepalives_le := by rw [hkeepalives, hlastKeepalive]; exact h.keepalives_le
  lastKeepalive := by rw [hkeepalives, hlastKeepalive]; exact h.lastKeepalive
  lastStats := hlastStats ▸ h.lastStats
  round := by
    rw [hlastStats, hnow]
    exact fun hne => h.round fun heq => hne (hhead.mp heq)
  elapsed := hreports ▸ h.elapsed
  chain := hreports ▸ h.chain
  latest := by rw [hreports, hlastStats, hnow, hreported]; exact h.latest
  loading := by rw [hlastStats, hloading]; exact h.loading
  second := by rw [hreports, hlastStats]; exact h.second

/-- A round begins. -/
theorem Scheduled.head (h : Scheduled s) (hpc : s.pc = .head) (now : Int) :
    Scheduled (s.head now) := by
  have hkeep := h.keepalive now
  have hlast : (s.keepalive now).lastStats = s.lastStats := by rw [keepalive_eq]
  have hpc' : (s.keepalive now).pc = .head := by rw [keepalive_eq, hpc]
  rw [head_eq]
  split
  · rename_i htick
    refine {
      keepalives := hkeep.keepalives
      keepalives_le := hkeep.keepalives_le
      lastKeepalive := hkeep.lastKeepalive
      lastStats := hkeep.lastStats
      round := fun _ => ?_
      elapsed := hkeep.elapsed
      chain := hkeep.chain
      latest := fun r hr => ?_
      loading := fun hloading => ?_
      second := hkeep.second }
    · show (s.keepalive now).lastStats + 1 ≤ now
      omega
    · -- there are no reports before the second round
      have hsecond : 0 < s.lastStats := hlast ▸ hkeep.second fun hnil => by
        rw [show (s.keepalive now).reports = [] from hnil] at hr
        cases hr
      have htime := hkeep.latest r hr
      rw [hpc'] at htime
      simp only [if_pos hsecond]
      exact htime
    · show 0 < (s.keepalive now).lastStats
      rw [hlast]
      by_contra hfirst
      simp only [if_neg hfirst] at hloading
      cases hloading
  · exact hkeep

/-- The rates are sent. -/
theorem Scheduled.report (h : Scheduled s) (hpc : s.pc = .loadPkts .rx)
    (htime : t.now = s.now) (hlast : t.lastStats = s.lastStats) (hreports : t.reports = s.reports)
    (hkeepalives : t.keepalives = s.keepalives)
    (hlastKeepalive : t.lastKeepalive = s.lastKeepalive) :
    Scheduled { t with reports := t.report :: t.reports, pc := .keepBytes .tx } where
  keepalives := hkeepalives ▸ h.keepalives
  keepalives_le := by
    show ∀ k ∈ t.keepalives, k ≤ t.lastKeepalive
    rw [hkeepalives, hlastKeepalive]
    exact h.keepalives_le
  lastKeepalive := by
    show t.lastKeepalive = 0 ∨ t.lastKeepalive ∈ t.keepalives
    rw [hkeepalives, hlastKeepalive]
    exact h.lastKeepalive
  lastStats := hlast ▸ h.lastStats
  round := by
    intro _
    show t.lastStats + 1 ≤ t.now
    rw [hlast, htime]
    exact h.round (by simp [hpc])
  elapsed := by
    intro r hr
    rcases List.mem_cons.mp hr with rfl | hr
    · have hround := h.round (by simp [hpc])
      show 1 ≤ t.now - t.lastStats
      omega
    · exact h.elapsed r (hreports ▸ hr)
  chain := by
    refine List.isChain_cons.mpr ⟨fun r hr => ?_, hreports ▸ h.chain⟩
    -- the round before ended at `last_stats`
    have hlatest := h.latest r (hreports ▸ hr)
    rw [hpc] at hlatest
    show t.now - (t.now - t.lastStats) = r.time
    rw [hlatest]
    simp only [StatsPc.reported, Bool.false_eq_true, if_false]
    omega
  latest := by
    intro r hr
    obtain rfl := Option.some.inj hr
    rfl
  loading := fun hloading => by cases hloading
  second := fun _ => hlast ▸ h.loading (by rw [hpc]; rfl)

/-- The round ends. -/
theorem Scheduled.done (h : Scheduled s) (hpc : s.pc = .keepBytes .rx) (prev : Dir → Nat) :
    Scheduled { s with prev := prev, lastStats := s.now, pc := .head } where
  keepalives := h.keepalives
  keepalives_le := h.keepalives_le
  lastKeepalive := h.lastKeepalive
  lastStats := by
    have hround := h.round (by simp [hpc])
    have hlast := h.lastStats
    show 0 ≤ s.now
    omega
  round := fun hne => absurd rfl hne
  elapsed := h.elapsed
  chain := h.chain
  latest := by
    intro r hr
    have hlatest := h.latest r hr
    rw [hpc] at hlatest
    exact hlatest
  loading := fun hloading => by cases hloading
  second := by
    intro _
    have hround := h.round (by simp [hpc])
    have hlast := h.lastStats
    show 0 < s.now
    omega

/-- **A step** keeps to the schedule. -/
theorem Scheduled.step (h : Scheduled s) (hst : s.step a = some t) : Scheduled t := by
  cases a with
  | countPkt d =>
    cases hst
    exact h.of_eq rfl rfl rfl rfl rfl Iff.rfl rfl rfl
  | countBytes d n =>
    cases hst
    exact h.of_eq rfl rfl rfl rfl rfl Iff.rfl rfl rfl
  | main now =>
    obtain rfl : s.mainStep now = t := Option.some.inj hst
    unfold mainStep
    split
    next hpc => exact h.head hpc now
    next hpc => exact h.of_eq rfl rfl rfl rfl rfl (by simp [hpc]) (hpc ▸ rfl) (hpc ▸ rfl)
    next hpc => exact h.of_eq rfl rfl rfl rfl rfl (by simp [hpc]) (hpc ▸ rfl) (hpc ▸ rfl)
    next hpc => exact h.of_eq rfl rfl rfl rfl rfl (by simp [hpc]) (hpc ▸ rfl) (hpc ▸ rfl)
    next hpc => exact h.report hpc rfl rfl rfl rfl rfl
    next hpc => exact h.of_eq rfl rfl rfl rfl rfl (by simp [hpc]) (hpc ▸ rfl) (hpc ▸ rfl)
    next hpc => exact h.done hpc _

/-- What has been sent stays sent. -/
theorem keepalives_subset (hst : s.step a = some t) : s.keepalives ⊆ t.keepalives := by
  cases a with
  | countPkt | countBytes =>
    cases hst
    exact List.Subset.refl _
  | main now =>
    obtain rfl : s.mainStep now = t := Option.some.inj hst
    have hkeep : s.keepalives ⊆ (s.keepalive now).keepalives := by
      unfold SessionLoop.keepalive
      split
      · exact List.subset_cons_self _ _
      · exact List.Subset.refl _
    unfold mainStep
    split
    next =>
      rw [head_eq]
      split
      · exact hkeep
      · exact hkeep
    all_goals exact List.Subset.refl _

/-- **The schedule.**  In every run, whatever the clock returns and the bridge does: keepalives
    are at least 30 seconds apart, and every round is less than 30 seconds after one of them;
    rates are over at least a second, and over intervals that follow each other without gap. -/
theorem loop_schedule (h : Run SessionLoop.step start l t) :
    (t.keepalives.Pairwise fun a b => b + 30 ≤ a) ∧
      (∀ s now, (s, .main now) ∈ l → s.pc = .head →
        now < 30 ∨ ∃ k ∈ t.keepalives, now < k + 30) ∧
      (∀ r ∈ t.reports, 1 ≤ r.elapsed) ∧
      t.reports.IsChain fun a b => a.time - a.elapsed = b.time := by
  have hscheduled : ∀ {l t}, Run SessionLoop.step start l t → Scheduled t := fun h =>
    h.invariant scheduled_start fun s a t hs hst => hs.step hst
  refine ⟨(hscheduled h).keepalives, ?_, (hscheduled h).elapsed, (hscheduled h).chain⟩
  induction h with
  | start => simp
  | @snoc l s t a hrun hst ih =>
    intro u now hmem hpc
    rcases List.mem_cons.mp hmem with heq | hmem
    · -- the round itself
      obtain ⟨rfl, rfl⟩ := Prod.mk.inj heq
      obtain rfl : u.mainStep now = t := Option.some.inj hst
      rw [mainStep, hpc]
      show now < 30 ∨ ∃ k ∈ (u.head now).keepalives, now < k + 30
      have hkeepalives : (u.head now).keepalives = (u.keepalive now).keepalives := by
        rw [head_eq]
        split <;> rfl
      rw [hkeepalives]
      exact lt_keepalive (hscheduled hrun) now
    · rcases ih u now hmem hpc with hearly | ⟨k, hk, hlt⟩
      · exact .inl hearly
      · exact .inr ⟨k, keepalives_subset hst hk, hlt⟩

/-- Rounds at 100, 101 and 131 seconds, of which the second and the third report rates. -/
def threeRounds : List Action :=
  [.main 100, .main 0, .main 0, .countBytes .tx 60, .main 101] ++ List.replicate 6 (.main 0) ++
    [.countPkt .rx, .main 131] ++ List.replicate 6 (.main 0)

/-- Keepalives are due in the first and the last of them. -/
theorem loop_schedule_rounds :
    ∃ l t, Run SessionLoop.step start l t ∧ t.keepalives = [131, 100] ∧ t.reports.length = 2 ∧
      (t.keepalives.Pairwise fun a b => b + 30 ≤ a) ∧
      (∀ s now, (s, .main now) ∈ l → s.pc = .head →
        now < 30 ∨ ∃ k ∈ t.keepalives, now < k + 30) ∧
      (∀ r ∈ t.reports, 1 ≤ r.elapsed) ∧
      t.reports.IsChain fun a b => a.time - a.elapsed = b.time := by
  obtain ⟨l, t, hrun, -, ht⟩ := exists_run_of_exec SessionLoop.step (fun _ _ => true)
    (fun t => t.keepalives == [131, 100] && t.reports.length == 2) start threeRounds (by decide)
  simp only [Bool.and_eq_true, beq_iff_eq] at ht
  exact ⟨l, t, hrun, ht.1, ht.2, loop_schedule hrun⟩

end Schedule

/-! ### What the rates count -/

section Account

variable {s t : SessionLoop} {l : List (SessionLoop × Action)} {a : Action} {d : Dir}

/-- A byte that is counted now will be in the next rate: `prev` has been loaded, and `cur` not
    yet. -/
def isOpen (s : SessionLoop) (d : Dir) : Bool :=
  match s.pc, d with
  | .head, _ => s.lastStats > 0
  | .loadBytes .tx, _ => true
  | .loadBytes .rx, .rx => true
  | .keepBytes .rx, .tx => true
  | _, _ => false

/-- `cur` has been loaded and not yet been reported. -/
def isLoaded (s : SessionLoop) (d : Dir) : Bool :=
  match s.pc, d with
  | .loadBytes .rx, .tx => true
  | .loadPkts _, _ => true
  | _, _ => false

/-- The bytes that are to be reported. -/
def pending (s : SessionLoop) (d : Dir) : Nat :=
  if s.isOpen d then s.bytes d - s.prev d
  else if s.isLoaded d then s.cur d - s.prev d
  else 0

/-- The bytes counted in a run, and those that are counted while a window is open. -/
def total (d : Dir) (l : List (SessionLoop × Action)) : Nat :=
  (l.map fun p => counted d p.2).sum

def inWindows (d : Dir) (l : List (SessionLoop × Action)) : Nat :=
  (l.map fun p => if p.1.isOpen d then counted d p.2 else 0).sum

/-- The bytes of all rates. -/
def reported (s : SessionLoop) (d : Dir) : Nat := (s.reports.map fun r => r.delta d).sum

/-- The books of one direction, when `n` bytes have been counted and `m` of them in windows. -/
structure Accounted (d : Dir) (n m : Nat) (s : SessionLoop) : Prop where
  bytes : s.bytes d = n
  prev_le : s.prev d ≤ n
  prev_le_cur : s.isLoaded d = true → s.prev d ≤ s.cur d
  cur_le : s.isLoaded d = true → s.cur d ≤ n
  windows : s.reported d + s.pending d = m

/-- Nothing has been counted. -/
theorem accounted_start : Accounted d 0 0 start where
  bytes := rfl
  prev_le := le_refl 0
  prev_le_cur := fun _ => le_refl 0
  cur_le := fun _ => le_refl 0
  windows := rfl

/-- A bridge thread counts. -/
theorem Accounted.count {n m k : Nat} (h : Accounted d n m s) (hk : n + k < 2 ^ 64)
    {bytes : Dir → Nat} (hbytes : bytes d = (s.bytes d + k) % 2 ^ 64) :
    Accounted d (n + k) (m + if s.isOpen d then k else 0) { s with bytes := bytes } := by
  have hcount : bytes d = n + k := by
    rw [hbytes, h.bytes, Nat.mod_eq_of_lt hk]
  refine ⟨hcount, Nat.le_add_right_of_le h.prev_le, h.prev_le_cur,
    fun hl => Nat.le_add_right_of_le (h.cur_le hl), ?_⟩
  have hprev := h.prev_le
  have hwindows := h.windows
  have hold := h.bytes
  simp only [pending, reported] at hwindows ⊢
  show _ + (if s.isOpen d then bytes d - s.prev d
    else if s.isLoaded d then s.cur d - s.prev d else 0) = _
  split at hwindows
  · rename_i hopen
    rw [if_pos hopen, if_pos hopen, hcount]
    omega
  · rename_i hopen
    rw [if_neg hopen, if_neg hopen]
    omega

variable {n m : Nat}

/-- A step that is not about the direction. -/
theorem Accounted.of_eq (h : Accounted d n m s) (hbytes : t.bytes d = s.bytes d)
    (hprev : t.prev d = s.prev d) (hcur : t.cur d = s.cur d) (hreports : t.reports = s.reports)
    (hopen : t.isOpen d = s.isOpen d) (hloaded : t.isLoaded d = s.isLoaded d) :
    Accounted d n m t where
  bytes := hbytes.trans h.bytes
  prev_le := hprev ▸ h.prev_le
  prev_le_cur := by rw [hloaded, hprev, hcur]; exact h.prev_le_cur
  cur_le := by rw [hloaded, hcur]; exact h.cur_le
  windows := by
    rw [reported, pending, hreports, hopen, hloaded, hbytes, hprev, hcur]
    exact h.windows

/-- `cur` is loaded, and the window closes. -/
theorem Accounted.load (h : Accounted d n m s) (hbytes : t.bytes d = s.bytes d)
    (hprev : t.prev d = s.prev d) (hcur : t.cur d = s.bytes d) (hreports : t.reports = s.reports)
    (hopen : s.isOpen d = true) (hclosed : t.isOpen d = false) (hloaded : t.isLoaded d = true) :
    Accounted d n m t where
  bytes := hbytes.trans h.bytes
  prev_le := hprev ▸ h.prev_le
  prev_le_cur := fun _ => by rw [hprev, hcur, h.bytes]; exact h.prev_le
  cur_le := fun _ => by rw [hcur, h.bytes]
  windows := by
    have hwindows := h.windows
    rw [pending, if_pos hopen] at hwindows
    rw [reported, pending, hreports, hclosed, hloaded, hprev, hcur]
    exact hwindows

/-- The rate is sent: nothing is pending until `prev` is loaded. -/
theorem Accounted.send (h : Accounted d n m s) (hn : n < 2 ^ 64) (hbytes : t.bytes d = s.bytes d)
    (hprev : t.prev d = s.prev d) (hreports : t.reports.map (·.delta d) =
      s.delta d :: s.reports.map (·.delta d)) (hclosed : s.isOpen d = false)
    (hloaded : s.isLoaded d = true) (hclosed' : t.isOpen d = false)
    (hloaded' : t.isLoaded d = false) : Accounted d n m t where
  bytes := hbytes.trans h.bytes
  prev_le := hprev ▸ h.prev_le
  prev_le_cur := by simp [hloaded']
  cur_le := by simp [hloaded']
  windows := by
    have hle := h.prev_le_cur hloaded
    have hcur := h.cur_le hloaded
    have hwindows := h.windows
    have hdelta : s.delta d = s.cur d - s.prev d := by
      unfold delta
      omega
    rw [pending, hclosed, hloaded] at hwindows
    rw [reported, pending, hreports, hclosed', hloaded', List.sum_cons, hdelta]
    simp only [Bool.false_eq_true, if_false, if_true, Nat.add_zero] at hwindows ⊢
    rw [Nat.add_comm]
    exact hwindows

/-- `prev` is loaded, and the next window opens. -/
theorem Accounted.keep (h : Accounted d n m s) (hbytes : t.bytes d = s.bytes d)
    (hprev : t.prev d = s.bytes d) (hreports : t.reports = s.reports)
    (hclosed : s.isOpen d = false) (hloaded : s.isLoaded d = false) (hopen : t.isOpen d = true)
    (hloaded' : t.isLoaded d = false) : Accounted d n m t where
  bytes := hbytes.trans h.bytes
  prev_le := by rw [hprev, h.bytes]
  prev_le_cur := by simp [hloaded']
  cur_le := by simp [hloaded']
  windows := by
    have hwindows := h.windows
    rw [pending, hclosed, hloaded] at hwindows
    rw [reported, pending, hreports, hopen, hbytes, hprev, if_pos rfl, Nat.sub_self]
    exact hwindows

/-- A round begins: windows stay as they are. -/
theorem Accounted.head (h : Accounted d n m s) (hpc : s.pc = .head) (now : Int) :
    Accounted d n m (s.head now) := by
  rw [head_eq, keepalive_eq]
  split
  · by_cases hsecond : s.lastStats > 0
    · simp only [if_pos hsecond]
      exact h.of_eq rfl rfl rfl rfl (by simp [isOpen, hpc, hsecond]) (by simp [isLoaded, hpc])
    · simp only [if_neg hsecond]
      exact h.of_eq rfl rfl rfl rfl (by simp [isOpen, hpc, hsecond]) (by simp [isLoaded, hpc])
  · exact h.of_eq rfl rfl rfl rfl (by simp [isOpen, hpc]) (by simp [isLoaded, hpc])

/-- **A step of the loop** keeps the books of each direction. -/
theorem Accounted.mainStep (h : Accounted d n m s) (hs : Scheduled s) (hn : n < 2 ^ 64)
    (now : Int) : Accounted d n m (s.mainStep now) := by
  unfold SessionLoop.mainStep
  split
  next hpc => exact h.head hpc now
  next hpc =>
    cases d with
    | tx => exact h.load rfl rfl (by simp) rfl (by simp [isOpen, hpc]) rfl rfl
    | rx => exact h.of_eq rfl rfl rfl rfl (by simp [isOpen, hpc]) (by simp [isLoaded, hpc])
  next hpc =>
    cases d with
    | tx => exact h.of_eq rfl rfl rfl rfl (by simp [isOpen, hpc]) (by simp [isLoaded, hpc])
    | rx => exact h.load rfl rfl (by simp) rfl (by simp [isOpen, hpc]) rfl rfl
  next hpc => exact h.of_eq rfl rfl rfl rfl (by simp [isOpen, hpc]) (by simp [isLoaded, hpc])
  next hpc =>
    exact h.send hn rfl rfl rfl (by simp [isOpen, hpc]) (by simp [isLoaded, hpc]) rfl rfl
  next hpc =>
    cases d with
    | tx =>
      exact h.keep rfl (by simp) rfl (by simp [isOpen, hpc]) (by simp [isLoaded, hpc]) rfl rfl
    | rx => exact h.of_eq rfl rfl rfl rfl (by simp [isOpen, hpc]) (by simp [isLoaded, hpc])
  next hpc =>
    have hround := hs.round (by simp [hpc])
    have hlast := hs.lastStats
    have hlater : s.now > 0 := by omega
    cases d with
    | tx =>
      exact h.of_eq rfl rfl rfl rfl (by simp [isOpen, hpc, hlater]) (by simp [isLoaded, hpc])
    | rx =>
      exact h.keep rfl (by simp) rfl (by simp [isOpen, hpc]) (by simp [isLoaded, hpc])
        (by simp [isOpen, hlater]) rfl

/-- The windows are part of the run. -/
theorem inWindows_le (d : Dir) (l : List (SessionLoop × Action)) : inWindows d l ≤ total d l := by
  apply List.sum_le_sum
  intro p _
  split
  · exact le_refl _
  · exact Nat.zero_le _

/-- **Every byte in one rate.**  In every order of the steps of the loop and the bridge threads,
    as long as the counters do not wrap around: the bytes of all rates of a session, with those
    that are still to be reported, are the bytes that were counted in the windows between the
    load of `prev` in one round and that of `cur` in the next. -/
theorem reports_account (d : Dir) (l : List (SessionLoop × Action)) (t : SessionLoop)
    (h : Run SessionLoop.step start l t) (hl : total d l < 2 ^ 64) :
    t.bytes d = total d l ∧ t.reported d + t.pending d = inWindows d l ∧
      inWindows d l ≤ total d l := by
  have haccounted : Accounted d (total d l) (inWindows d l) t := by
    induction h with
    | start => exact accounted_start
    | @snoc l s t a hrun hst ih =>
      have hcons : total d ((s, a) :: l) = total d l + counted d a := Nat.add_comm _ _
      have hwindows : inWindows d ((s, a) :: l) =
          inWindows d l + if s.isOpen d then counted d a else 0 := Nat.add_comm _ _
      rw [hcons] at hl
      rw [hcons, hwindows]
      have hs := ih (Nat.lt_of_le_of_lt (Nat.le_add_right _ _) hl)
      cases a with
      | main now =>
        obtain rfl : s.mainStep now = t := Option.some.inj hst
        have hscheduled : Scheduled s :=
          hrun.invariant scheduled_start fun _ _ _ hs hst => hs.step hst
        simpa [counted] using hs.mainStep hscheduled (by simpa [counted] using hl) now
      | countPkt d' =>
        cases hst
        show Accounted d (total d l) (inWindows d l + if s.isOpen d then 0 else 0) _
        rw [ite_self]
        exact hs.of_eq rfl rfl rfl rfl rfl rfl
      | countBytes d' k =>
        cases hst
        apply hs.count hl
        rcases eq_or_ne d' d with rfl | hne
        · simp [counted]
        · rw [Function.update_of_ne hne.symm, counted, if_neg hne, Nat.add_zero, hs.bytes,
            Nat.mod_eq_of_lt (Nat.lt_of_le_of_lt (Nat.le_add_right _ _) hl)]
  exact ⟨haccounted.bytes, haccounted.windows, inWindows_le d l⟩

/-- Two rounds: 7 bytes before the first, 5 between the two, 3 after `cur` has been loaded. -/
theorem reports_account_rounds : ∃ l t, Run SessionLoop.step start l t ∧ total .tx l = 15 ∧
    t.reported .tx + t.pending .tx = 5 := by
  have hstart : Run SessionLoop.step start [] start := .start
  have hfirst := ((((hstart.snoc (a := .countBytes .tx 7) rfl).snoc (a := .main 100) rfl).snoc
    (a := .main 100) rfl).snoc (a := .main 100) rfl)
  have hrun := (((hfirst.snoc (a := .countBytes .tx 5) rfl).snoc (a := .main 101) rfl).snoc
    (a := .main 101) rfl).snoc (a := .countBytes .tx 3) rfl
  exact ⟨_, _, hrun, rfl, (reports_account .tx _ _ hrun (by decide)).2.1⟩

end Account

end SessionLoop

end AndroidTether
