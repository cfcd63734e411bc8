import AndroidTether.Bridge
import AndroidTether.RxStream

namespace AndroidTether

open Bytes Trans WhileLoop

/-!
# Receiving, with the threads

The receiving side of a session while it runs: libusb fills the buffers of the transfers in
flight, a thread that handles events runs `rx_complete`, and the walk of `unwrap_data` over the
buffer goes on round by round while everything else in the session does.  `Bridge` has the
control flow of all this, `RxStream` the bytes; here they are put together.

* `RxBridge.step` — one step; `RxBridge.run_bridge` — every run is a run of the bridge;
* `RxBridge.Base`, `RxBridge.Inv` — what was received, and how far the walk over each transfer
  has come; `Inv.step` keeps it while only buffers of idle transfers are freed;
* `rxBridge_receives` — what every run has received.

A call of `process_rx_frame` is one step.  A buffer that `usb_to_tun` has freed holds anything.
As in `Bridge`, the drain limit does not pass before outstanding cancellations are delivered.
-/

/-- The walk over the data of a completed transfer is still to come or under way. -/
def Flight.walking : Flight RxStage → Bool
  | .completed .completed => true
  | .callback _ .frames => true
  | _ => false

/-- While libusb holds a transfer no walk is under way in it. -/
theorem Flight.walking_of_isInFlight {f : Flight RxStage} (h : f.isInFlight = true) :
    f.walking = false := by
  cases f with
  | inFlight _ => rfl
  | idle | completed | callback => cases h

/-- The session and the bytes it receives. -/
structure RxBridge where
  bridge : Bridge
  /-- `rx_pool[k].buf`, and `xfer->actual_length` -/
  xfer : Fin numRxXfers → RxTransfer
  /-- `offset` in the `unwrap_data` for the transfer -/
  offset : Fin numRxXfers → Nat
  ctx : RxCtx
  /-- the transfers that have completed, in their order, and the number among them of the last
      one in each slot -/
  arrived : List RxTransfer
  number : Fin numRxXfers → Nat
  /-- the calls of `process_rx_frame`, each with the number of its transfer -/
  calls : List (Nat × List UInt8)

namespace RxBridge

/-- The threads start; the buffers hold anything. -/
def start (ctx : RxCtx) (xfer : Fin numRxXfers → RxTransfer) : RxBridge where
  bridge := .start
  xfer := xfer
  offset := fun _ => 0
  ctx := ctx
  arrived := []
  number := fun _ => 0
  calls := []

/-- What can happen. -/
inductive Action where
  /-- a transfer leaves flight; its buffer holds `x` -/
  | arrive (k : Fin numRxXfers) (st : XferStatus) (x : RxTransfer)
  /-- a round of the walk in the `rx_complete` for transfer `k` -/
  | round (k : Fin numRxXfers)
  /-- `usb_to_tun` frees a buffer, which holds `x` from then on -/
  | free (r : RxRet) (x : RxTransfer)
  /-- anything else -/
  | other (a : Bridge.Action)

/-- The steps of the bridge that are `arrive`, `round` and `free` here. -/
def ofBytes (s : Bridge) : Bridge.Action → Bool
  | .completeRx _ _ => true
  | .rx _ => s.rxPc.freed.isSome
  | .rxCallback k _ _ => (s.rxFlight k).walking
  | _ => false

/-- A round of `rndis_drv_unwrap_data`, or none of it when nothing was received. -/
def walk (env : Nat → RxEnv) (s : RxBridge) (k : Fin numRxXfers) : ForInStep (Nat × RxCtx) :=
  let x := s.xfer k
  if 0 < x.actualLength then
    msgWalkStep x.buf x.actualLength (unwrapVisit (rxFrameCallback env x.buf))
      (s.offset k, s.ctx)
  else .done (s.offset k, s.ctx)

/-- The frames handed over in the round: one or none. -/
def handed (s : RxBridge) (k : Fin numRxXfers) : List (List UInt8) :=
  (frameAt (s.xfer k).buf (s.offset k)).toList.map (·.bytes (s.xfer k).buf)

/-- What a round is for the bridge: the walk ends, or another ARP reply is submitted, or
    nothing. -/
def bridgeRound (env : Nat → RxEnv) (s : RxBridge) (k : Fin numRxXfers) : Option Bridge :=
  match s.walk env k with
  | .done _ => s.bridge.step (.rxCallback k false 0)
  | .yield next =>
    if next.2.arpReplies.length = s.ctx.arpReplies.length then some s.bridge
    else s.bridge.step (.rxCallback k true 0)

/-- What a round does to the walk. -/
def walked (env : Nat → RxEnv) (s : RxBridge) (k : Fin numRxXfers) (bridge : Bridge) : RxBridge :=
  match s.walk env k with
  | .done _ => { s with bridge := bridge }
  | .yield next =>
    { s with
      bridge := bridge
      offset := Function.update s.offset k next.1
      ctx := next.2
      calls := s.calls ++ (s.handed k).map fun frame => (s.number k, frame) }

/-- A transfer leaves flight.  Whoever looks at a transfer that completed begins at its first
    byte. -/
def arrive (s : RxBridge) (k : Fin numRxXfers) (st : XferStatus) (x : RxTransfer)
    (bridge : Bridge) : RxBridge :=
  let s := { s with bridge := bridge, xfer := Function.update s.xfer k x }
  if st = .completed then
    { s with
      offset := Function.update s.offset k 0
      arrived := s.arrived ++ [x]
      number := Function.update s.number k s.arrived.length }
  else s

/-- One step. -/
def step (env : Nat → RxEnv) (s : RxBridge) : Action → Option RxBridge
  | .arrive k st x => (s.bridge.step (.completeRx k st)).map (s.arrive k st x)
  | .round k =>
    match s.bridge.rxFlight k with
    | .callback _ .frames => (s.bridgeRound env k).map (s.walked env k)
    | _ => none
  | .free r x =>
    match s.bridge.rxPc.freed with
    | some k =>
      (s.bridge.step (.rx r)).map fun b =>
        { s with bridge := b, xfer := Function.update s.xfer k x }
    | none => none
  | .other a =>
    if ofBytes s.bridge a then none else (s.bridge.step a).map fun b => { s with bridge := b }

/-- A buffer is freed only when its transfer is idle. -/
def freesIdle (s : RxBridge) : Action → Bool
  | .free r _ => s.bridge.freesIdle (.rx r)
  | _ => true

/-- The drain loop ends only when all is quiet. -/
def endsQuiet (s : RxBridge) : Action → Bool
  | .other a => s.bridge.endsQuiet a
  | _ => true

/-! ### The bridge under it -/

variable {env : Nat → RxEnv} {s t : RxBridge} {a : Action}

/-- A step is a step of the bridge, or none. -/
theorem step_bridge (h : s.step env a = some t) :
    t.bridge = s.bridge ∨
      ∃ a', s.bridge.step a' = some t.bridge ∧ (s.bridge.endsDrain a' = true → a = .other a') := by
  cases a with
  | arrive k st x =>
    obtain ⟨b, hb, rfl⟩ := Option.map_eq_some_iff.mp h
    have hbridge : (s.arrive k st x b).bridge = b := by
      unfold arrive
      dsimp only
      split <;> rfl
    rw [hbridge]
    exact .inr ⟨_, hb, nofun⟩
  | round k =>
    simp only [step] at h
    split at h
    · obtain ⟨b, hb, rfl⟩ := Option.map_eq_some_iff.mp h
      have hbridge : (s.walked env k b).bridge = b := by
        unfold walked
        split <;> rfl
      rw [hbridge]
      unfold bridgeRound at hb
      split at hb
      · exact .inr ⟨_, hb, nofun⟩
      · split at hb
        · exact .inl (Option.some.inj hb).symm
        · exact .inr ⟨_, hb, nofun⟩
    · cases h
  | free r x =>
    simp only [step] at h
    split at h
    · next k hfreed =>
      obtain ⟨b, hb, rfl⟩ := Option.map_eq_some_iff.mp h
      refine .inr ⟨_, hb, fun hends => ?_⟩
      -- `freeRx` is behind the drain loop
      cases hpc : s.bridge.rxPc <;> simp_all [Bridge.endsDrain, RxPc.freed]
    · cases h
  | other a =>
    simp only [step] at h
    split at h
    · cases h
    · obtain ⟨b, hb, rfl⟩ := Option.map_eq_some_iff.mp h
      exact .inr ⟨a, hb, fun _ => rfl⟩

/-- **Every run is a run of the bridge**, but for the rounds that it does not see. -/
theorem run_bridge {l : List (RxBridge × Action)} (h : Run (step env) s l t) :
    ∃ l', Run Bridge.step s.bridge l' t.bridge := by
  induction h with
  | start => exact ⟨[], .start⟩
  | snoc _ hst ih =>
    obtain ⟨l', hrun⟩ := ih
    rcases step_bridge hst with heq | ⟨a', hst', -⟩
    · exact ⟨l', heq ▸ hrun⟩
    · exact ⟨_, hrun.snoc hst'⟩

/-- When the drain loop ends only with all quiet, only buffers of idle transfers are freed. -/
theorem freesIdle_of_quiet {ctx : RxCtx} {xfer : Fin numRxXfers → RxTransfer}
    {l : List (RxBridge × Action)} (h : Run (step env) (start ctx xfer) l t)
    (hquiet : ∀ p ∈ l, p.1.endsQuiet p.2 = true) : ∀ p ∈ l, p.1.freesIdle p.2 = true := by
  intro p hp
  obtain ⟨l', hl', hrun⟩ := h.exists_of_mem hp
  have hinv : p.1.bridge.Inv := by
    refine hrun.invariant_of (I := fun s => s.bridge.Inv) (fun s a => s.endsQuiet a = true)
      Bridge.inv_start ?_ fun q hq => hquiet q (hl'.subset hq)
    intro s a t hs hok hst
    rcases step_bridge hst with heq | ⟨a', hst', hends⟩
    · exact heq ▸ hs
    · refine Bridge.inv_step hs ?_ hst'
      by_cases hdrain : s.bridge.endsDrain a' = true
      · have hok : s.endsQuiet (.other a') = true := hends hdrain ▸ hok
        exact hok
      · simp [Bridge.endsQuiet, hdrain]
  cases hstep : p.2 with
  | free r x => exact hinv.freesIdle (.rx r)
  | arrive | round | other => rfl

end RxBridge

/-! ### What the other steps leave alone -/

namespace Bridge

/-- What set-up has still to submit is idle. -/
def Unsubmitted (s : Bridge) : Prop :=
  ∀ n, s.rxPc.fresh = some n → ∀ k : Fin numRxXfers, n ≤ k → s.rxFlight k = .idle

variable {s t : Bridge}

/-- A transfer that is not idle has been submitted, and may change. -/
theorem Unsubmitted.update (h : s.Unsubmitted) {k : Fin numRxXfers} (hk : s.rxFlight k ≠ .idle)
    {f : Flight RxStage} (hpc : t.rxPc = s.rxPc)
    (hflight : t.rxFlight = Function.update s.rxFlight k f) : t.Unsubmitted := by
  intro n hn j hj
  rw [hpc] at hn
  have hidle := h n hn j hj
  have hne : j ≠ k := fun hjk => hk (hjk ▸ hidle)
  rw [hflight, Function.update_of_ne hne]
  exact hidle

/-- Slots that set-up has not come to stay as they are. -/
theorem Unsubmitted.frame (h : s.Unsubmitted) (hpc : t.rxPc = s.rxPc)
    (hflight : t.rxFlight = s.rxFlight) : t.Unsubmitted := by
  intro n hn
  rw [hpc] at hn
  rw [hflight]
  exact h n hn

/-- What a step of `usb_to_tun` does to the transfers: nothing, while set-up only goes on; or it
    submits the one that set-up has come to; or it cancels one, when set-up is over. -/
theorem usbToTun_rxFlight {r : RxRet} (hst : s.usbToTun r = some t) :
    (t.rxFlight = s.rxFlight ∧ ∀ n, t.rxPc.fresh = some n → ∃ m ≤ n, s.rxPc.fresh = some m) ∨
      (∃ k, s.rxPc = .submit k ∧ t.rxPc = .count k ∧
        t.rxFlight = Function.update s.rxFlight k (.inFlight false)) ∨
      ∃ k, t.rxPc.fresh = none ∧
        t.rxFlight = Function.update s.rxFlight k (s.rxFlight k).cancel := by
  unfold usbToTun at hst
  cases hpc : s.rxPc with
  | alloc k =>
    left
    simp only [hpc] at hst
    split at hst
    · split at hst <;> cases hst
      · exact ⟨rfl, fun n hn => ⟨k, (Option.some.inj hn).le, rfl⟩⟩
      · exact ⟨rfl, fun n hn => ⟨k, (Nat.le_succ k).trans (Option.some.inj hn).le, rfl⟩⟩
    · cases hst
      exact ⟨rfl, fun n hn => by cases hn⟩
  | submit k =>
    simp only [hpc] at hst
    split at hst <;> cases hst
    · exact .inr (.inl ⟨k, rfl, rfl, rfl⟩)
    · exact .inl ⟨rfl, fun n hn => ⟨k, (Nat.le_succ k).trans (Option.some.inj hn).le, rfl⟩⟩
  | count k =>
    rw [hpc] at hst
    cases hst
    exact .inl ⟨rfl, fun n hn => ⟨k + 1, (Option.some.inj hn).le, rfl⟩⟩
  | cancelRx k =>
    simp only [hpc] at hst
    split at hst
    · next hk =>
      cases hst
      by_cases hxfer : s.rxXfer ⟨k, hk⟩ = true
      · exact .inr (.inr ⟨⟨k, hk⟩, rfl, by simp [hxfer]⟩)
      · exact .inl ⟨by simp [hxfer], fun n hn => by cases hn⟩
    · cases hst
      exact .inl ⟨rfl, fun n hn => by cases hn⟩
  | cancelTx =>
    simp only [hpc] at hst
    obtain ⟨tx, -, rfl⟩ := Option.map_eq_some_iff.mp hst
    exact .inl ⟨rfl, fun n hn => by cases hn⟩
  | exited => simp [hpc] at hst
  -- set-up is over before and after
  | events | drainEvents =>
    simp only [hpc] at hst
    split at hst <;> cases hst
    refine .inl ⟨rfl, fun n hn => ?_⟩
    first | cases hn | (dsimp only at hn; split at hn <;> cases hn)
  | drainTime =>
    simp only [hpc] at hst
    split at hst
    · split at hst <;> cases hst
      exact .inl ⟨rfl, fun n hn => by cases hn⟩
    · cases hst
      exact .inl ⟨rfl, fun n hn => by cases hn⟩
  | lost | lostStop | stop =>
    rw [hpc] at hst
    cases hst
    exact .inl ⟨rfl, fun n hn => by cases hn⟩
  | loop | loopRx | drainRx | drainTx | freeRx =>
    rw [hpc] at hst
    cases hst
    refine .inl ⟨rfl, fun n hn => ?_⟩
    dsimp only at hn
    split at hn <;> cases hn

/-- Outside the walk a callback goes on to something that is not a walk. -/
theorem rxCallback_rxFlight {k : Fin numRxXfers} {arp : Bool} {submitRet : Int}
    (hwalking : (s.rxFlight k).walking = false) (hst : s.rxCallback k arp submitRet = some t) :
    s.rxFlight k ≠ .idle ∧ t.rxPc = s.rxPc ∧
      ∃ f, f.walking = false ∧ t.rxFlight = Function.update s.rxFlight k f := by
  unfold rxCallback at hst
  split at hst
  · next hd stage hk =>
    rw [hk] at hwalking
    refine ⟨by simp [hk], ?_⟩
    cases stage with
    | frames => cases hwalking
    | lost | stop | uncount =>
      cases hst
      exact ⟨rfl, _, rfl, rfl⟩
    | check =>
      cases hst
      refine ⟨rfl, _, ?_, rfl⟩
      cases s.live <;> rfl
    | resubmit =>
      cases hst
      refine ⟨rfl, _, ?_, rfl⟩
      split <;> rfl
  · cases hst

/-- A transfer that walks as before. -/
theorem walking_update {k : Fin numRxXfers} {f : Flight RxStage}
    (hflight : t.rxFlight = Function.update s.rxFlight k f)
    (hwalking : f.walking = (s.rxFlight k).walking) :
    ∀ j, (t.rxFlight j).walking = (s.rxFlight j).walking := by
  intro j
  rw [hflight]
  by_cases hjk : j = k
  · rw [hjk, Function.update_self, hwalking]
  · rw [Function.update_of_ne hjk]

/-- `usb_to_tun` begins no walk and ends none. -/
theorem walking_usbToTun {r : RxRet} (h : s.Unsubmitted) (hst : s.usbToTun r = some t) :
    t.Unsubmitted ∧ ∀ k, (t.rxFlight k).walking = (s.rxFlight k).walking := by
  rcases usbToTun_rxFlight hst with ⟨hflight, hfresh⟩ | ⟨k, hpc, hpc', hflight⟩ |
    ⟨k, hfresh, hflight⟩
  · refine ⟨fun n hn j hj => ?_, fun k => by rw [hflight]⟩
    obtain ⟨m, hmn, hm⟩ := hfresh n hn
    rw [hflight]
    exact h m hm j (hmn.trans hj)
  · have hidle : s.rxFlight k = .idle := h k (by rw [hpc]; rfl) k le_rfl
    refine ⟨fun n hn j hj => ?_, walking_update hflight (by rw [hidle]; rfl)⟩
    rw [hpc'] at hn
    obtain rfl : k.val + 1 = n := Option.some.inj hn
    have hne : j ≠ k := fun hjk => by
      rw [hjk] at hj
      omega
    rw [hflight, Function.update_of_ne hne]
    exact h k (by rw [hpc]; rfl) j (by omega)
  · refine ⟨fun n hn => ?_, walking_update hflight ?_⟩
    · rw [hfresh] at hn
      cases hn
    · cases s.rxFlight k <;> rfl

/-- A step that is not `completeRx` and not in a walk begins no walk and ends none, as long as
    set-up submits idle transfers only; and it keeps that. -/
theorem walking_step {a : Action} (h : s.Unsubmitted) (hof : RxBridge.ofBytes s a = false)
    (hst : s.step a = some t) :
    t.Unsubmitted ∧ ∀ k, (t.rxFlight k).walking = (s.rxFlight k).walking := by
  have hsame (hpc : t.rxPc = s.rxPc) (hflight : t.rxFlight = s.rxFlight) :
      t.Unsubmitted ∧ ∀ k, (t.rxFlight k).walking = (s.rxFlight k).walking :=
    ⟨h.frame hpc hflight, fun k => by rw [hflight]⟩
  cases a with
  | rx r => exact walking_usbToTun h hst
  | tun r =>
    obtain ⟨tx, -, rfl⟩ := Option.map_eq_some_iff.mp hst
    exact hsame rfl rfl
  | main c =>
    obtain ⟨running, gRunning, main, rfl, -⟩ := mainThread_cases hst
    exact hsame rfl rfl
  | signal =>
    cases hst
    exact hsame rfl rfl
  | completeRx k st => cases hof
  | completeTx i st =>
    obtain ⟨tx, -, rfl⟩ := Option.map_eq_some_iff.mp hst
    exact hsame rfl rfl
  | completeArp =>
    simp only [step] at hst
    split at hst <;> cases hst
    exact hsame rfl rfl
  | dispatchRx k hd =>
    simp only [step] at hst
    split at hst
    · split at hst
      · next st hk =>
        cases hst
        have hne : s.rxFlight k ≠ .idle := by simp [hk]
        refine ⟨h.update hne rfl rfl, walking_update rfl ?_⟩
        -- the callback of a transfer that completed begins with the walk
        rw [hk]
        cases st <;> rfl
      · cases hst
    · cases hst
  | dispatchTx i hd =>
    simp only [step] at hst
    split at hst
    · obtain ⟨tx, -, rfl⟩ := Option.map_eq_some_iff.mp hst
      exact hsame rfl rfl
    · cases hst
  | dispatchArp hd =>
    simp only [step] at hst
    split at hst <;> cases hst
    exact hsame rfl rfl
  | rxCallback k arp submitRet =>
    have hwalking : (s.rxFlight k).walking = false := hof
    obtain ⟨hne, hpc, f, hf, hflight⟩ := rxCallback_rxFlight hwalking hst
    exact ⟨h.update hne hpc hflight, walking_update hflight (hf.trans hwalking.symm)⟩
  | txCallback i =>
    obtain ⟨tx, -, rfl⟩ := Option.map_eq_some_iff.mp hst
    obtain ⟨running, disconnected, hflags, -⟩ := txCallbackFlags_eq i s
    have hpc : (txCallbackFlags i s).rxPc = s.rxPc := by rw [hflags]
    have hflight : (txCallbackFlags i s).rxFlight = s.rxFlight := by rw [hflags]
    exact hsame hpc hflight
  | arpCallback hd =>
    simp only [step] at hst
    split at hst <;> cases hst
    exact hsame rfl rfl

end Bridge

/-! ### How far a walk has come -/

namespace RxTransfer

/-- Some rounds of the walk lead to `offset` and hand over the frames `frs`. -/
def WalkedTo (x : RxTransfer) (offset : Nat) (frs : List (List UInt8)) : Prop :=
  ∃ rounds spans,
    iterate (msgWalkStep x.buf x.actualLength (unwrapVisit recordFrame)) rounds (0, []) =
      .yield (offset, spans) ∧
    frs = spans.map (·.bytes x.buf)

variable {x : RxTransfer} {offset : Nat} {frs : List (List UInt8)}

/-- A walk begins at the first byte, with no calls made. -/
theorem walkedTo_start (x : RxTransfer) : x.WalkedTo 0 [] := ⟨0, [], rfl, rfl⟩

/-- Another round. -/
theorem WalkedTo.round (h : x.WalkedTo offset frs) (hfits : MsgFits x.buf x.actualLength offset) :
    x.WalkedTo (u32 (offset + msgLenAt x.buf offset))
      (frs ++ (frameAt x.buf offset).toList.map (·.bytes x.buf)) := by
  obtain ⟨rounds, spans, hwalk, rfl⟩ := h
  refine ⟨rounds + 1, spans ++ (frameAt x.buf offset).toList, ?_, (List.map_append).symm⟩
  rw [iterate_succ_of_yield hwalk, unwrapStep_eq, if_pos hfits]
  cases frameAt x.buf offset <;> simp [recordFrame]

/-- The round that ends the walk. -/
theorem WalkedTo.frames (h : x.WalkedTo offset frs)
    (hend : x.actualLength = 0 ∨ ¬ MsgFits x.buf x.actualLength offset) :
    ∃ fuel, x.frames fuel = some frs := by
  obtain ⟨rounds, spans, hwalk, rfl⟩ := h
  by_cases hlen : 0 < x.actualLength
  · have hfits := hend.resolve_left (Nat.pos_iff_ne_zero.mp hlen)
    refine ⟨rounds + 1, ?_⟩
    rw [RxTransfer.frames, if_pos hlen, rndisDrvUnwrapData, iterate_succ_of_yield hwalk,
      unwrapStep_eq, if_neg hfits]
    rfl
  · -- nothing was received, and the first round would have ended the walk
    have hzero : x.actualLength = 0 := Nat.eq_zero_of_not_pos hlen
    refine ⟨0, ?_⟩
    rw [RxTransfer.frames, if_neg hlen]
    cases rounds with
    | zero =>
      obtain ⟨-, rfl⟩ := Prod.mk.inj (ForInStep.yield.inj hwalk)
      rfl
    | succ n =>
      have hfits : ¬ MsgFits x.buf x.actualLength 0 := by
        rintro ⟨hguard, -⟩
        rw [hzero] at hguard
        exact absurd hguard (by decide)
      have hdone : msgWalkStep x.buf x.actualLength (unwrapVisit recordFrame) (0, []) =
          .done (0, []) := by
        rw [unwrapStep_eq, if_neg hfits]
      rw [iterate_succ_done n hdone] at hwalk
      cases hwalk

end RxTransfer

namespace RxBridge

variable {env : Nat → RxEnv} {ctx₀ : RxCtx} {s t : RxBridge} {a : Action}

/-- A walk over transfer `k` is still to come or under way. -/
def Walking (s : RxBridge) (k : Fin numRxXfers) : Prop :=
  (s.bridge.rxFlight k).walking = true

/-- The frames of the calls that were made for transfer number `n`. -/
def callsOf (s : RxBridge) (n : Nat) : List (List UInt8) :=
  (s.calls.filter fun c => c.1 = n).map Prod.snd

/-- What every step keeps. -/
structure Base (env : Nat → RxEnv) (ctx₀ : RxCtx) (s : RxBridge) : Prop where
  unsubmitted : s.bridge.Unsubmitted
  ctx : s.ctx = ctx₀.after env (s.calls.map Prod.snd)
  number_lt : ∀ k, s.Walking k → s.number k < s.arrived.length
  apart : ∀ k j, s.Walking k → s.Walking j → s.number k = s.number j → k = j
  known : ∀ c ∈ s.calls, c.1 < s.arrived.length

/-- What every step keeps that frees no buffer but that of an idle transfer. -/
structure Inv (env : Nat → RxEnv) (ctx₀ : RxCtx) (s : RxBridge) : Prop
    extends Base env ctx₀ s where
  /-- while the walk is to come or under way, the buffer holds what arrived -/
  held : ∀ k, s.Walking k → s.arrived[s.number k]? = some (s.xfer k)
  walked : ∀ k, s.Walking k → (s.xfer k).WalkedTo (s.offset k) (s.callsOf (s.number k))
  finished : ∀ n x, s.arrived[n]? = some x → (∀ k, s.Walking k → s.number k ≠ n) →
    ∃ fuel, x.frames fuel = some (s.callsOf n)

/-- Nothing has arrived. -/
theorem base_start (ctx₀ : RxCtx) (xfer : Fin numRxXfers → RxTransfer) :
    Base env ctx₀ (start ctx₀ xfer) where
  unsubmitted _ _ _ _ := rfl
  ctx := (ctx₀.after_nil env).symm
  number_lt k hk := by cases hk
  apart k j hk := by cases hk
  known c hc := by cases hc

/-- The invariant before the threads start. -/
theorem inv_start (ctx₀ : RxCtx) (xfer : Fin numRxXfers → RxTransfer) :
    Inv env ctx₀ (start ctx₀ xfer) where
  toBase := base_start ctx₀ xfer
  held k hk := by cases hk
  walked k hk := by cases hk
  finished n x hx := by cases hx

/-! ### What a step is -/

/-- What a round does, by cases. -/
theorem walk_cases (env : Nat → RxEnv) (s : RxBridge) (k : Fin numRxXfers) :
    (s.walk env k = .done (s.offset k, s.ctx) ∧ ((s.xfer k).actualLength = 0 ∨
        ¬ MsgFits (s.xfer k).buf (s.xfer k).actualLength (s.offset k))) ∨
      MsgFits (s.xfer k).buf (s.xfer k).actualLength (s.offset k) ∧
        s.walk env k = .yield (u32 (s.offset k + msgLenAt (s.xfer k).buf (s.offset k)),
          s.ctx.after env (s.handed k)) := by
  unfold walk
  dsimp only
  split
  · rw [unwrapStep_eq]
    by_cases hfits : MsgFits (s.xfer k).buf (s.xfer k).actualLength (s.offset k)
    · refine .inr ⟨hfits, ?_⟩
      rw [if_pos hfits, handed, ← foldl_processRxFrame, List.foldl_map]
      rfl
    · exact .inl ⟨if_neg hfits, .inr hfits⟩
  · next hlen => exact .inl ⟨rfl, .inl (Nat.eq_zero_of_not_pos hlen)⟩

/-- What a step is for the walks. -/
inductive StepCase (env : Nat → RxEnv) (s : RxBridge) : Action → RxBridge → Prop where
  /-- no walk begins or ends, and nobody walks over the buffers that change -/
  | other {a : Action} {b : Bridge} {xfer : Fin numRxXfers → RxTransfer} :
      (∀ k, (b.rxFlight k).walking = (s.bridge.rxFlight k).walking) →
      (∀ k, s.Walking k → xfer k = s.xfer k) →
      StepCase env s a { s with bridge := b, xfer := xfer }
  /-- a buffer is freed -/
  | freed {r : RxRet} {x : RxTransfer} {k : Fin numRxXfers} {b : Bridge} :
      s.bridge.rxPc.freed = some k →
      (∀ k, (b.rxFlight k).walking = (s.bridge.rxFlight k).walking) →
      StepCase env s (.free r x) { s with bridge := b, xfer := Function.update s.xfer k x }
  /-- a transfer completes: its walk is to come -/
  | completes {k : Fin numRxXfers} {x : RxTransfer} {b : Bridge} : ¬ s.Walking k →
      b.rxFlight = Function.update s.bridge.rxFlight k (.completed .completed) →
      StepCase env s (.arrive k .completed x) (s.arrive k .completed x b)
  /-- the walk over a transfer ends -/
  | ends {k : Fin numRxXfers} {b : Bridge} {f : Flight RxStage} : s.Walking k →
      ((s.xfer k).actualLength = 0 ∨
        ¬ MsgFits (s.xfer k).buf (s.xfer k).actualLength (s.offset k)) →
      f.walking = false → b.rxFlight = Function.update s.bridge.rxFlight k f →
      StepCase env s (.round k) { s with bridge := b }
  /-- the walk over a transfer goes on -/
  | goesOn {k : Fin numRxXfers} {b : Bridge} : s.Walking k →
      MsgFits (s.xfer k).buf (s.xfer k).actualLength (s.offset k) →
      b.rxFlight = s.bridge.rxFlight →
      StepCase env s (.round k) { s with
        bridge := b
        offset := Function.update s.offset k
          (u32 (s.offset k + msgLenAt (s.xfer k).buf (s.offset k)))
        ctx := s.ctx.after env (s.handed k)
        calls := s.calls ++ (s.handed k).map fun frame => (s.number k, frame) }

/-- A transfer leaves flight. -/
theorem arrive_cases (h : s.bridge.Unsubmitted) {k : Fin numRxXfers} {st : XferStatus}
    {b : Bridge} (x : RxTransfer) (hst : s.bridge.step (.completeRx k st) = some b) :
    b.Unsubmitted ∧ StepCase env s (.arrive k st x) (s.arrive k st x b) := by
  simp only [Bridge.step] at hst
  split at hst
  · next hinFlight =>
    cases hst
    have hne : s.bridge.rxFlight k ≠ .idle := fun hidle => by
      rw [hidle] at hinFlight
      cases hinFlight
    have hwalking := Flight.walking_of_isInFlight hinFlight
    have hnot : ¬ s.Walking k := fun hk => Bool.false_ne_true (hwalking.symm.trans hk)
    refine ⟨h.update hne rfl rfl, ?_⟩
    by_cases hcompleted : st = .completed
    · subst hcompleted
      exact .completes hnot rfl
    · -- nobody will walk over it
      rw [RxBridge.arrive, if_neg hcompleted]
      refine .other (Bridge.walking_update rfl ?_) fun j hj => ?_
      · rw [hwalking]
        cases st <;> first | rfl | exact absurd rfl hcompleted
      · have hjk : j ≠ k := fun hjk => hnot (hjk ▸ hj)
        exact Function.update_of_ne hjk _ _
  · cases hst

/-- A round of a walk. -/
theorem round_cases (h : s.bridge.Unsubmitted) {k : Fin numRxXfers}
    (hst : s.step env (.round k) = some t) :
    t.bridge.Unsubmitted ∧ StepCase env s (.round k) t := by
  simp only [step] at hst
  split at hst
  · next hd hcallback =>
    obtain ⟨b, hb, rfl⟩ := Option.map_eq_some_iff.mp hst
    have hk : s.Walking k := by
      unfold Walking
      rw [hcallback]
      rfl
    have hne : s.bridge.rxFlight k ≠ .idle := by simp [hcallback]
    rcases walk_cases env s k with ⟨hwalk, hend⟩ | ⟨hfits, hwalk⟩
    · simp only [bridgeRound, hwalk, Bridge.step, Bridge.rxCallback, hcallback] at hb
      cases hb
      rw [RxBridge.walked, hwalk]
      exact ⟨h.update hne rfl rfl, .ends hk hend rfl rfl⟩
    · have hflight : b.rxFlight = s.bridge.rxFlight ∧ b.rxPc = s.bridge.rxPc := by
        simp only [bridgeRound, hwalk] at hb
        split at hb
        · cases hb
          exact ⟨rfl, rfl⟩
        · simp only [Bridge.step, Bridge.rxCallback, hcallback] at hb
          cases hb
          exact ⟨rfl, rfl⟩
      rw [RxBridge.walked, hwalk]
      exact ⟨h.frame hflight.2 hflight.1, .goesOn hk hfits hflight.1⟩
  · cases hst

/-- **What a step is.** -/
theorem step_cases (h : s.bridge.Unsubmitted) (hst : s.step env a = some t) :
    t.bridge.Unsubmitted ∧ StepCase env s a t := by
  cases a with
  | arrive k st x =>
    obtain ⟨b, hb, rfl⟩ := Option.map_eq_some_iff.mp hst
    have harrive : b.Unsubmitted ∧ StepCase env s _ _ := arrive_cases h x hb
    obtain ⟨hunsubmitted, hcase⟩ := harrive
    refine ⟨?_, hcase⟩
    have hbridge : (s.arrive k st x b).bridge = b := by
      unfold arrive
      dsimp only
      split <;> rfl
    rw [hbridge]
    exact hunsubmitted
  | round k => exact round_cases h hst
  | free r x =>
    simp only [step] at hst
    split at hst
    · next k hfreed =>
      obtain ⟨b, hb, rfl⟩ := Option.map_eq_some_iff.mp hst
      obtain ⟨hunsubmitted, hwalking⟩ := Bridge.walking_usbToTun h hb
      exact ⟨hunsubmitted, .freed hfreed hwalking⟩
    · cases hst
  | other a =>
    simp only [step] at hst
    split at hst
    · cases hst
    · next hof =>
      obtain ⟨b, hb, rfl⟩ := Option.map_eq_some_iff.mp hst
      obtain ⟨hunsubmitted, hwalking⟩ := Bridge.walking_step h (Bool.eq_false_iff.mpr hof) hb
      exact ⟨hunsubmitted, .other hwalking fun _ _ => rfl⟩

/-- When a transfer has completed, one walk more is to come. -/
theorem walking_completes {k : Fin numRxXfers} {x : RxTransfer} {b : Bridge}
    (hflight : b.rxFlight = Function.update s.bridge.rxFlight k (.completed .completed))
    (j : Fin numRxXfers) : (s.arrive k .completed x b).Walking j ↔ j = k ∨ s.Walking j := by
  show (b.rxFlight j).walking = true ↔ j = k ∨ (s.bridge.rxFlight j).walking = true
  rw [hflight]
  by_cases hjk : j = k
  · rw [hjk, Function.update_self]
    exact iff_of_true rfl (.inl rfl)
  · rw [Function.update_of_ne hjk]
    exact (or_iff_right hjk).symm

/-- When a walk has ended, the others go on. -/
theorem walking_ends {k : Fin numRxXfers} {b : Bridge} {f : Flight RxStage}
    (hf : f.walking = false) (hflight : b.rxFlight = Function.update s.bridge.rxFlight k f)
    (j : Fin numRxXfers) : Walking { s with bridge := b } j ↔ j ≠ k ∧ s.Walking j := by
  show (b.rxFlight j).walking = true ↔ j ≠ k ∧ (s.bridge.rxFlight j).walking = true
  rw [hflight]
  by_cases hjk : j = k
  · rw [hjk, Function.update_self, hf]
    exact iff_of_false Bool.false_ne_true fun h => h.1 rfl
  · rw [Function.update_of_ne hjk]
    exact (and_iff_right hjk).symm

/-! ### What is received, whatever is freed -/

/-- Nobody has been called for a transfer that is still to arrive. -/
theorem Base.callsOf_next (h : Base env ctx₀ s) : s.callsOf s.arrived.length = [] := by
  rw [callsOf, List.map_eq_nil_iff, List.filter_eq_nil_iff]
  intro c hc
  have hlt := h.known c hc
  simp only [decide_eq_true_eq]
  omega

/-- No walk begins. -/
theorem Base.setBridge (h : Base env ctx₀ s) {b : Bridge} {xfer : Fin numRxXfers → RxTransfer}
    (hunsubmitted : b.Unsubmitted)
    (hwalking : ∀ k, Walking { s with bridge := b, xfer := xfer } k → s.Walking k) :
    Base env ctx₀ { s with bridge := b, xfer := xfer } where
  unsubmitted := hunsubmitted
  ctx := h.ctx
  number_lt k hk := h.number_lt k (hwalking k hk)
  apart k j hk hj := h.apart k j (hwalking k hk) (hwalking j hj)
  known := h.known

/-- A transfer completes: its number is larger than all others. -/
theorem Base.complete (h : Base env ctx₀ s) {k : Fin numRxXfers} {b : Bridge} (x : RxTransfer)
    (hunsubmitted : b.Unsubmitted)
    (hflight : b.rxFlight = Function.update s.bridge.rxFlight k (.completed .completed)) :
    Base env ctx₀ (s.arrive k .completed x b) := by
  have hself : (s.arrive k .completed x b).number k = s.arrived.length :=
    Function.update_self _ _ _
  have hnumber : ∀ j, j ≠ k → (s.arrive k .completed x b).number j = s.number j := fun j hjk =>
    Function.update_of_ne hjk _ _
  have hlength : (s.arrive k .completed x b).arrived.length = s.arrived.length + 1 := by
    show (s.arrived ++ [x]).length = _
    rw [List.length_append, List.length_singleton]
  have hlt : ∀ j, j ≠ k → (s.arrive k .completed x b).Walking j → s.number j < s.arrived.length :=
    fun j hjk hj => h.number_lt j (((walking_completes hflight j).mp hj).resolve_left hjk)
  refine
    { unsubmitted := hunsubmitted
      ctx := h.ctx
      number_lt := fun j hj => ?_
      apart := fun i j hi hj hij => ?_
      known := fun c hc => ?_ }
  · rw [hlength]
    by_cases hjk : j = k
    · rw [hjk, hself]
      exact Nat.lt_succ_self _
    · rw [hnumber j hjk]
      exact Nat.lt_succ_of_lt (hlt j hjk hj)
  · -- the new number is greater than all in use
    by_cases hik : i = k <;> by_cases hjk : j = k
    · rw [hik, hjk]
    · rw [hik, hself, hnumber j hjk] at hij
      have := hlt j hjk hj
      omega
    · rw [hjk, hself, hnumber i hik] at hij
      have := hlt i hik hi
      omega
    · rw [hnumber i hik, hnumber j hjk] at hij
      have hold : ∀ j, j ≠ k → (s.arrive k .completed x b).Walking j → s.Walking j :=
        fun j hjk hj => ((walking_completes hflight j).mp hj).resolve_left hjk
      exact h.apart i j (hold i hik hi) (hold j hjk hj) hij
  · rw [hlength]
    exact Nat.lt_succ_of_lt (h.known c hc)

/-- A walk goes on. -/
theorem Base.walkGoesOn (h : Base env ctx₀ s) {k : Fin numRxXfers} {b : Bridge} {offset : Nat}
    (hk : s.Walking k) (hunsubmitted : b.Unsubmitted)
    (hflight : b.rxFlight = s.bridge.rxFlight) :
    Base env ctx₀ { s with
      bridge := b
      offset := Function.update s.offset k offset
      ctx := s.ctx.after env (s.handed k)
      calls := s.calls ++ (s.handed k).map fun frame => (s.number k, frame) } := by
  have hsame : ∀ j, (b.rxFlight j).walking = true → s.Walking j := fun j hj => by
    rwa [hflight] at hj
  refine
    { unsubmitted := hunsubmitted
      ctx := ?_
      number_lt := fun j hj => h.number_lt j (hsame j hj)
      apart := fun i j hi hj => h.apart i j (hsame i hi) (hsame j hj)
      known := fun c hc => ?_ }
  · show s.ctx.after env (s.handed k) = _
    rw [h.ctx, RxCtx.after_append, List.map_append, List.map_map]
    congr 2
    exact (List.map_id _).symm
  · rcases List.mem_append.mp hc with hc | hc
    · exact h.known c hc
    · obtain ⟨frame, -, rfl⟩ := List.mem_map.mp hc
      exact h.number_lt k hk

/-- Each kind of step keeps what holds unconditionally. -/
theorem Base.of_case (h : Base env ctx₀ s) (hunsubmitted : t.bridge.Unsubmitted)
    (hcase : StepCase env s a t) : Base env ctx₀ t := by
  cases hcase with
  | other hwalking _ => exact h.setBridge hunsubmitted fun k hk => (hwalking k).symm.trans hk
  | freed _ hwalking => exact h.setBridge hunsubmitted fun k hk => (hwalking k).symm.trans hk
  | completes _ hflight => exact h.complete _ hunsubmitted hflight
  | ends _ _ hf hflight =>
    exact h.setBridge hunsubmitted fun j hj => ((walking_ends hf hflight j).mp hj).2
  | goesOn hk _ hflight => exact h.walkGoesOn hk hunsubmitted hflight

/-- It holds in every run. -/
theorem base_of_run {xfer : Fin numRxXfers → RxTransfer} {l : List (RxBridge × Action)}
    (h : Run (step env) (start ctx₀ xfer) l t) : Base env ctx₀ t :=
  h.invariant (base_start ctx₀ xfer) fun _ _ _ hs hst =>
    hs.of_case (step_cases hs.unsubmitted hst).1 (step_cases hs.unsubmitted hst).2

/-! ### How far the walks have come -/

/-- No walk begins or ends, and nobody walks over the buffers that change. -/
theorem Inv.setBridge (h : Inv env ctx₀ s) {b : Bridge} {xfer : Fin numRxXfers → RxTransfer}
    (hunsubmitted : b.Unsubmitted)
    (hwalking : ∀ k, (b.rxFlight k).walking = (s.bridge.rxFlight k).walking)
    (hxfer : ∀ k, s.Walking k → xfer k = s.xfer k) :
    Inv env ctx₀ { s with bridge := b, xfer := xfer } := by
  have hsame : ∀ k, Walking { s with bridge := b, xfer := xfer } k → s.Walking k := fun k hk =>
    (hwalking k).symm.trans hk
  exact
    { toBase := h.toBase.setBridge hunsubmitted hsame
      held := fun k hk => (h.held k (hsame k hk)).trans (congrArg some (hxfer k (hsame k hk)).symm)
      walked := fun k hk => by
        show (xfer k).WalkedTo _ _
        rw [hxfer k (hsame k hk)]
        exact h.walked k (hsame k hk)
      finished := fun n x hx hno => h.finished n x hx fun k hk => hno k ((hwalking k).trans hk) }

/-- A transfer completes: its walk is to come, from the first byte on. -/
theorem Inv.complete (h : Inv env ctx₀ s) {k : Fin numRxXfers} {b : Bridge} (x : RxTransfer)
    (hunsubmitted : b.Unsubmitted) (hnot : ¬ s.Walking k)
    (hflight : b.rxFlight = Function.update s.bridge.rxFlight k (.completed .completed)) :
    Inv env ctx₀ (s.arrive k .completed x b) := by
  have hself : (s.arrive k .completed x b).number k = s.arrived.length :=
    Function.update_self _ _ _
  have hnumber : ∀ j, j ≠ k → (s.arrive k .completed x b).number j = s.number j := fun j hjk =>
    Function.update_of_ne hjk _ _
  have hold : ∀ j, j ≠ k → (s.arrive k .completed x b).Walking j → s.Walking j :=
    fun j hjk hj => ((walking_completes hflight j).mp hj).resolve_left hjk
  refine
    { toBase := h.toBase.complete x hunsubmitted hflight
      held := fun j hj => ?_
      walked := fun j hj => ?_
      finished := fun n y hy hno => ?_ }
  · -- the transfer that arrived is at its new place
    show (s.arrived ++ [x])[_]? = some (Function.update s.xfer k x j)
    by_cases hjk : j = k
    · rw [hjk, hself, Function.update_self, List.getElem?_concat_length]
    · rw [hnumber j hjk, Function.update_of_ne hjk,
        List.getElem?_append_left (h.number_lt j (hold j hjk hj))]
      exact h.held j (hold j hjk hj)
  · show (Function.update s.xfer k x j).WalkedTo (Function.update s.offset k 0 j) (s.callsOf _)
    by_cases hjk : j = k
    · rw [hjk, hself, Function.update_self, Function.update_self, h.callsOf_next]
      exact x.walkedTo_start
    · rw [hnumber j hjk, Function.update_of_ne hjk, Function.update_of_ne hjk]
      exact h.walked j (hold j hjk hj)
  · -- a transfer that is finished has an older number
    have hy : (s.arrived ++ [x])[n]? = some y := hy
    have hne : n ≠ s.arrived.length := fun hn =>
      hno k ((walking_completes hflight k).mpr (.inl rfl)) (hself.trans hn.symm)
    have hlt : n < s.arrived.length := by
      have hle := (List.getElem?_eq_some_iff.mp hy).1
      rw [List.length_append, List.length_singleton] at hle
      omega
    rw [List.getElem?_append_left hlt] at hy
    refine h.finished n y hy fun j hj hn => ?_
    have hjk : j ≠ k := fun hjk => hnot (hjk ▸ hj)
    exact hno j ((walking_completes hflight j).mpr (.inr hj)) ((hnumber j hjk).trans hn)

/-- The walk over a transfer ends. -/
theorem Inv.walkEnds (h : Inv env ctx₀ s) {k : Fin numRxXfers} {b : Bridge} (hk : s.Walking k)
    (hend : (s.xfer k).actualLength = 0 ∨
      ¬ MsgFits (s.xfer k).buf (s.xfer k).actualLength (s.offset k))
    (hunsubmitted : b.Unsubmitted) {f : Flight RxStage} (hf : f.walking = false)
    (hflight : b.rxFlight = Function.update s.bridge.rxFlight k f) :
    Inv env ctx₀ { s with bridge := b } := by
  have hother : ∀ j, Walking { s with bridge := b } j → s.Walking j := fun j hj =>
    ((walking_ends hf hflight j).mp hj).2
  exact
    { toBase := h.toBase.setBridge hunsubmitted hother
      held := fun j hj => h.held j (hother j hj)
      walked := fun j hj => h.walked j (hother j hj)
      finished := fun n x hx hno => by
        by_cases hn : s.number k = n
        · -- the frames of this one are complete
          have hxfer : s.xfer k = x := by
            have hheld := h.held k hk
            rw [hn] at hheld
            exact Option.some.inj (hheld.symm.trans hx)
          rw [← hxfer, ← hn]
          exact (h.walked k hk).frames hend
        · refine h.finished n x hx fun j hj hjn => ?_
          have hjk : j ≠ k := fun hjk => hn (hjk ▸ hjn)
          exact hno j ((walking_ends hf hflight j).mpr ⟨hjk, hj⟩) hjn }

/-- The calls with the new ones, number by number. -/
theorem filter_calls (calls : List (Nat × List UInt8)) (frs : List (List UInt8)) (m n : Nat) :
    ((calls ++ frs.map fun frame => (m, frame)).filter fun c => c.1 = n).map Prod.snd =
      (calls.filter fun c => c.1 = n).map Prod.snd ++ if m = n then frs else [] := by
  rw [List.filter_append, List.map_append]
  congr 1
  by_cases hmn : m = n
  · simp [hmn, List.filter_map, Function.comp_def]
  · simp [hmn, List.filter_map, Function.comp_def]

/-- The walk over a transfer goes on. -/
theorem Inv.walkGoesOn (h : Inv env ctx₀ s) {k : Fin numRxXfers} {b : Bridge} (hk : s.Walking k)
    (hfits : MsgFits (s.xfer k).buf (s.xfer k).actualLength (s.offset k))
    (hunsubmitted : b.Unsubmitted) (hflight : b.rxFlight = s.bridge.rxFlight) :
    Inv env ctx₀ { s with
      bridge := b
      offset := Function.update s.offset k
        (u32 (s.offset k + msgLenAt (s.xfer k).buf (s.offset k)))
      ctx := s.ctx.after env (s.handed k)
      calls := s.calls ++ (s.handed k).map fun frame => (s.number k, frame) } := by
  have hsame : ∀ j, (b.rxFlight j).walking = true → s.Walking j := fun j hj => by
    rwa [hflight] at hj
  refine
    { toBase := h.toBase.walkGoesOn hk hunsubmitted hflight
      held := fun j hj => h.held j (hsame j hj)
      walked := fun j hj => ?_
      finished := fun n x hx hno => ?_ }
  · show (s.xfer j).WalkedTo (Function.update s.offset k _ j)
      (((s.calls ++ (s.handed k).map fun frame => (s.number k, frame)).filter _).map Prod.snd)
    rw [filter_calls]
    by_cases hjk : j = k
    · rw [hjk, Function.update_self, if_pos rfl]
      exact (h.walked k hk).round hfits
    · -- the walks over the other transfers stay where they are
      have hne : s.number k ≠ s.number j := fun hkj => hjk (h.apart k j hk (hsame j hj) hkj).symm
      rw [Function.update_of_ne hjk, if_neg hne, List.append_nil]
      exact h.walked j (hsame j hj)
  · -- no call is made for a transfer whose walk has ended
    have hno' : ∀ j, s.Walking j → s.number j ≠ n := fun j hj => hno j (by
      show (b.rxFlight j).walking = true
      rwa [hflight])
    show ∃ fuel, x.frames fuel = some
      (((s.calls ++ (s.handed k).map fun frame => (s.number k, frame)).filter _).map Prod.snd)
    rw [filter_calls, if_neg (hno' k hk), List.append_nil]
    exact h.finished n x hx hno'

/-- **A step** that frees no buffer but that of an idle transfer. -/
theorem Inv.step (h : Inv env ctx₀ s) (hidle : s.freesIdle a = true) (hst : s.step env a = some t) :
    Inv env ctx₀ t := by
  obtain ⟨hunsubmitted, hcase⟩ := step_cases h.unsubmitted hst
  cases hcase with
  | other hwalking hxfer => exact h.setBridge hunsubmitted hwalking hxfer
  | @freed r x k b hfreed hwalking =>
    refine h.setBridge hunsubmitted hwalking fun j hj => Function.update_of_ne ?_ _ _
    -- nobody walks over an idle transfer
    rintro rfl
    have hidle : (s.bridge.rxPc.freed.all fun k => s.bridge.rxFlight k == .idle) = true := hidle
    rw [hfreed, Option.all_some, beq_iff_eq] at hidle
    rw [Walking, hidle] at hj
    cases hj
  | completes hnot hflight => exact h.complete _ hunsubmitted hnot hflight
  | ends hk hend hf hflight => exact h.walkEnds hk hend hunsubmitted hf hflight
  | goesOn hk hfits hflight => exact h.walkGoesOn hk hfits hunsubmitted hflight

/-- The invariant holds in every run that frees a buffer only while its transfer is idle. -/
theorem inv_of_run {xfer : Fin numRxXfers → RxTransfer} {l : List (RxBridge × Action)}
    (h : Run (step env) (start ctx₀ xfer) l t) (hidle : ∀ p ∈ l, p.1.freesIdle p.2 = true) :
    Inv env ctx₀ t :=
  h.invariant_of (fun s a => s.freesIdle a = true) (inv_start ctx₀ xfer)
    (fun _ _ _ hs hok hst => hs.step hok hst) hidle

/-! ### What has been received -/

/-- **What every run receives**, with the threads, the transfers and their callbacks in any order
    and any bytes in the transfers.  The context is what the calls of `process_rx_frame` leave
    behind one after the other.  When `usb_to_tun` frees no buffer whose transfer is in flight or
    has its callback to come or under way, then for each transfer that completed either the calls
    made for it are those for all its frames, in their order and each once, or its walk is still
    to come or under way, over the bytes that arrived, and they are those for the frames it has
    come by. -/
theorem rxBridge_receives (env : Nat → RxEnv) (ctx₀ : RxCtx)
    (xfer : Fin numRxXfers → RxTransfer) {l : List (RxBridge × Action)}
    (h : Run (step env) (start ctx₀ xfer) l t) :
    t.ctx = ctx₀.after env (t.calls.map Prod.snd) ∧
      (∀ c ∈ t.calls, c.1 < t.arrived.length) ∧
      ((∀ p ∈ l, p.1.freesIdle p.2 = true) → ∀ n x, t.arrived[n]? = some x →
        (∃ fuel, x.frames fuel = some (t.callsOf n)) ∨
          ∃ k, t.Walking k ∧ t.number k = n ∧ t.xfer k = x ∧
            x.WalkedTo (t.offset k) (t.callsOf n)) := by
  have hbase := base_of_run h
  refine ⟨hbase.ctx, hbase.known, fun hidle n x hx => ?_⟩
  have hinv := inv_of_run h hidle
  by_cases hwalking : ∃ k, t.Walking k ∧ t.number k = n
  · obtain ⟨k, hk, hn⟩ := hwalking
    have hheld := hinv.held k hk
    rw [hn] at hheld
    have hxfer : t.xfer k = x := Option.some.inj (hheld.symm.trans hx)
    refine .inr ⟨k, hk, hn, hxfer, ?_⟩
    rw [← hxfer, ← hn]
    exact hinv.walked k hk
  · exact .inl (hinv.finished n x hx fun k hk hn => hwalking ⟨k, hk, hn⟩)

/-- An IPv4 frame of one byte, wrapped. -/
def oneFrame : List UInt8 := dataPacketBytes (List.replicate 12 2 ++ [0x08, 0, 0x45])

/-- A transfer of `n` such frames. -/
def frameTransfer (n : Nat) : RxTransfer where
  buf := ofList (List.replicate n oneFrame).flatten
  actualLength := 59 * n

/-- Set-up allocates and submits two transfers.  Both complete, the second one first; their
    callbacks run on the two threads that handle events, in turns. -/
def twoWalks : List Action :=
  List.replicate 6 (.other (.rx ⟨true, true, 0, false, false⟩)) ++
    List.replicate 17 (.other (.rx ⟨false, false, 0, false, false⟩)) ++
    [.arrive Bridge.rxSlot1 .completed (frameTransfer 1),
      .arrive Bridge.rxSlot0 .completed (frameTransfer 2),
      .other (.main .goOn), .other (.main .keepalive),
      .other (.dispatchRx Bridge.rxSlot0 .keepalive), .other (.dispatchRx Bridge.rxSlot1 .usbToTun),
      .round Bridge.rxSlot0, .round Bridge.rxSlot1, .round Bridge.rxSlot0,
      .round Bridge.rxSlot1, .round Bridge.rxSlot0]

/-- After a signal neither is submitted again.  `usb_to_tun` drains, and frees the buffers, which
    then hold something else. -/
def freed : List Action :=
  .other .signal :: List.replicate 2 (.other (.rxCallback Bridge.rxSlot0 false 0)) ++
    List.replicate 2 (.other (.rxCallback Bridge.rxSlot1 false 0)) ++
    List.replicate 23 (.other (.rx ⟨false, false, 0, false, false⟩)) ++
    List.replicate numRxXfers (.free ⟨false, false, 0, false, false⟩ ⟨fun _ => 0xFF, 7⟩) ++
    [.other (.rx ⟨false, false, 0, false, false⟩)]

/-- When the buffers are freed, all frames of both transfers have been handed over. -/
theorem rxBridge_receives_twoWalks :
    ∃ t : RxBridge, t.bridge.rxPc = .exited ∧ (t.xfer Bridge.rxSlot0).actualLength = 7 ∧
      t.arrived.length = 2 ∧ t.ctx.utunWrites.length = 3 ∧
        ∀ n x, t.arrived[n]? = some x → ∃ fuel, x.frames fuel = some (t.callsOf n) := by
  obtain ⟨l, t, hrun, hidle, hgood⟩ := exists_run_of_exec
    (step fun _ => ⟨true, true, true, fun _ => 0, fun _ => 0, fun _ => 0⟩) freesIdle
    (fun t => t.bridge.rxPc == .exited && (t.xfer Bridge.rxSlot0).actualLength == 7 &&
      t.arrived.length == 2 && t.ctx.utunWrites.length == 3 &&
      (List.finRange numRxXfers).all fun k => !(t.bridge.rxFlight k).walking)
    (start freshRxCtx fun _ => ⟨fun _ => 0, 0⟩) (twoWalks ++ freed) (by decide +kernel)
  simp only [Bool.and_eq_true, beq_iff_eq, List.all_eq_true, List.mem_finRange, true_implies,
    Bool.not_eq_true'] at hgood
  obtain ⟨⟨⟨⟨hexited, hlength⟩, harrived⟩, hwrites⟩, hwalking⟩ := hgood
  refine ⟨t, hexited, hlength, harrived, hwrites, fun n x hx => ?_⟩
  rcases (rxBridge_receives _ _ _ hrun).2.2 hidle n x hx with hframes | ⟨k, hk, -⟩
  · exact hframes
  · rw [Walking, hwalking k] at hk
    cases hk

end RxBridge

end AndroidTether
