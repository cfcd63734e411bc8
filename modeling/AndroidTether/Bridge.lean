import AndroidTether.TxPool

namespace AndroidTether

open Tally Trans

/-!
# The threads of a session and their USB transfers

A session runs `usb_to_tun`, `tun_to_usb` and the main thread of `run_session` from
`pthread_create` to `usb_close_device`.  USB transfers are submitted by the two bridge threads
and by callbacks; a callback runs on the thread that handles events, which is `usb_to_tun` or,
in a keepalive, the main thread.  Every submit, cancel and dispatch, every atomic operation and
every critical section is one step.

* `Bridge.step` — one step of a thread, a transfer or a callback;
* `Bridge.frees`, `Bridge.inFlight` — the steps that free a pool transfer or close the device,
  and the transfers still in flight;
* `Bridge.Inv` — what `active_rx` and `active_tx` count; `inv_step` keeps it in runs whose
  drain ends with nothing under way;
* `nothingInFlight_of_run` — in such runs nothing is in flight when transfers are freed.

The TX pool is taken as allocated; `tun_to_usb` would crash on a transfer that is not.
-/

/-- `NUM_RX_XFERS` -/
def numRxXfers : Nat := 16

/-! ### Places in the code -/

/-- What `rx_complete` does next. -/
inductive RxStage where
  /-- `unwrap_data`, with `process_rx_frame` for each frame -/
  | frames
  /-- `atomic_store(&ctx->disconnected, 1)`, then `atomic_store(&ctx->running, 0)` -/
  | lost
  | stop
  /-- `if (atomic_load(&ctx->running) && g_running)` -/
  | check
  /-- `libusb_submit_transfer` -/
  | resubmit
  /-- `atomic_fetch_sub(&ctx->active_rx, 1)` -/
  | uncount
  deriving DecidableEq, Repr

/-- The `switch` of `rx_complete`. -/
def rxComplete : XferStatus → RxStage
  | .completed => .frames
  | .noDevice => .lost
  | .cancelled => .uncount
  -- `libusb_clear_halt`, nothing the model sees
  | .stall => .check
  | .timedOut | .error | .overflow => .check

/-- What `usb_to_tun` does next. -/
inductive RxPc where
  /-- the set-up loop: `malloc` and `libusb_alloc_transfer`, submit,
      `atomic_fetch_add(&ctx->active_rx, 1)` -/
  | alloc (k : Nat)
  | submit (k : Fin numRxXfers)
  | count (k : Fin numRxXfers)
  /-- the condition of the event loop, one load after the other, and
      `libusb_handle_events_timeout` in it -/
  | loop
  | loopRx
  | events
  /-- after `LIBUSB_ERROR_NO_DEVICE`: the stores to `disconnected` and `running` -/
  | lost
  | lostStop
  /-- `atomic_store(&ctx->running, 0)` after the loop -/
  | stop
  | cancelRx (k : Nat)
  | cancelTx
  /-- the condition of the drain loop, one load after the other, and the events in it -/
  | drainRx
  | drainTx
  | drainTime
  | drainEvents
  | freeRx (k : Nat)
  | exited
  deriving DecidableEq, Repr

namespace RxPc

/-- Submitted, not yet counted. -/
def counting : RxPc → Bool
  | count _ => true
  | _ => false

/-- In set-up, the first transfer not yet submitted. -/
def fresh : RxPc → Option Nat
  | alloc k => some k
  | submit k => some k
  | count k => some (k + 1)
  | _ => none

/-- Between set-up and the last store to `running`. -/
def looping : RxPc → Bool
  | loop | loopRx | events | lost | lostStop | stop => true
  | _ => false

/-- The thread has stored 0 to `running`. -/
def stopped : RxPc → Bool
  | cancelRx _ | cancelTx | drainRx | drainTx | drainTime | drainEvents | freeRx _ | exited => true
  | _ => false

/-- The drain loop has ended. -/
def drained : RxPc → Bool
  | freeRx _ | exited => true
  | _ => false

/-- The thread is in `libusb_handle_events_timeout`. -/
def handling : RxPc → Bool
  | events | drainEvents => true
  | _ => false

/-- The slot of `rx_pool` that is freed next. -/
def freed : RxPc → Option (Fin numRxXfers)
  | freeRx k => if hk : k < numRxXfers then some ⟨k, hk⟩ else none
  | _ => none

end RxPc

/-- What the main thread does next. -/
inductive MainPc where
  /-- `while (g_running && atomic_load(&bctx.running))` -/
  | head
  /-- the loop's body: a keepalive if one is due, and the control transfers in it -/
  | due
  | keepalive
  /-- the rest of the body: stores to the two flags, the sleep -/
  | body
  /-- `atomic_store(&bctx.running, 0)`, the signal under `tx_mutex`, the joins -/
  | stop
  | signal
  | joinTx
  | joinRx
  | freeTx (k : Nat)
  | restore
  /-- `usb_close_device` -/
  | close
  | closed
  deriving DecidableEq, Repr

/-- Both threads have been joined. -/
def MainPc.joined : MainPc → Bool
  | freeTx _ | restore | close | closed => true
  | _ => false

/-- The slot of `tx_pool` that is freed next. -/
def MainPc.freed : MainPc → Option (Fin numTxXfers)
  | freeTx k => if hk : k < numTxXfers then some ⟨k, hk⟩ else none
  | _ => none

/-- `TunPc` between claiming a slot and counting its submission. -/
def TunPc.submitting : TunPc → Bool
  | wrap _ _ _ => true
  | submit _ _ => true
  | count _ => true
  | _ => false

/-! ### The session -/

/-- The session: `bridge_ctx_t` and `g_running`, the threads and the transfers. -/
structure Bridge where
  running : Bool
  gRunning : Bool
  disconnected : Bool
  rxPc : RxPc
  /-- `rx_pool[k].xfer != NULL` -/
  rxXfer : Fin numRxXfers → Bool
  rxFlight : Fin numRxXfers → Flight RxStage
  activeRx : Int
  tx : TxPool
  /-- the ARP replies in flight, those to be freed, and the threads that free one -/
  arpInFlight : Nat
  arpCompleted : Nat
  arpFreeing : Handler → Bool
  main : MainPc

/-- The session when its threads have been created. -/
def Bridge.start : Bridge where
  running := true
  gRunning := true
  disconnected := false
  rxPc := .alloc 0
  rxXfer := fun _ => false
  rxFlight := fun _ => .idle
  activeRx := 0
  tx := .start
  arpInFlight := 0
  arpCompleted := 0
  arpFreeing := fun _ => false
  main := .head

/-- What the calls of `usb_to_tun` return; each step looks at its own. -/
structure RxRet where
  /-- `malloc` and `libusb_alloc_transfer` succeed -/
  bufOk : Bool
  xferOk : Bool
  /-- `libusb_submit_transfer` -/
  submitRet : Int
  /-- `libusb_handle_events_timeout` returns `LIBUSB_ERROR_NO_DEVICE` -/
  noDevice : Bool
  /-- `time(NULL) - drain_start >= 2` -/
  expired : Bool

/-- What the body of the main loop decides. -/
inductive MainChoice where
  | keepalive
  | clearRunning
  | clearGRunning
  /-- no keepalive; the sleep -/
  | goOn
  deriving DecidableEq, Repr

namespace Bridge

/-- `atomic_load(&ctx->running) && g_running`; as neither flag is set again, reading one after
    the other is reading both at the time of the first. -/
def live (s : Bridge) : Bool := s.running && s.gRunning

/-- The thread handles USB events. -/
def handling (s : Bridge) : Handler → Bool
  | .usbToTun => s.rxPc.handling
  | .keepalive => s.main == .keepalive

/-- A callback runs on the thread. -/
def busy (s : Bridge) (h : Handler) : Bool :=
  (List.finRange numRxXfers).any (fun k => (s.rxFlight k).runsOn h) ||
    (List.finRange numTxXfers).any (fun i => (s.tx.flight i).runsOn h) || s.arpFreeing h

/-- No transfer waits for the callback of its cancellation. -/
def cancelsDelivered (s : Bridge) : Bool :=
  (List.finRange numRxXfers).all (fun k => !(s.rxFlight k).cancelPending) &&
    (List.finRange numTxXfers).all fun i => !(s.tx.flight i).cancelPending

/-- One step of `usb_to_tun`. -/
def usbToTun (r : RxRet) (s : Bridge) : Option Bridge :=
  match s.rxPc with
  | .alloc k =>
    if hk : k < numRxXfers then
      if r.bufOk && r.xferOk then
        some { s with rxXfer := Function.update s.rxXfer ⟨k, hk⟩ true, rxPc := .submit ⟨k, hk⟩ }
      -- whatever was allocated is freed again
      else some { s with rxPc := .alloc (k + 1) }
    else some { s with rxPc := .loop }
  | .submit k =>
    if r.submitRet = 0 then
      some { s with rxFlight := Function.update s.rxFlight k (.inFlight false), rxPc := .count k }
    else some { s with rxPc := .alloc (k + 1) }
  | .count k => some { s with activeRx := s.activeRx + 1, rxPc := .alloc (k + 1) }
  | .loop => some { s with rxPc := if s.live then .loopRx else .stop }
  | .loopRx => some { s with rxPc := if s.activeRx > 0 then .events else .stop }
  | .events =>
    if s.busy .usbToTun then none else some { s with rxPc := if r.noDevice then .lost else .loop }
  | .lost => some { s with disconnected := true, rxPc := .lostStop }
  | .lostStop => some { s with running := false, rxPc := .stop }
  | .stop => some { s with running := false, rxPc := .cancelRx 0 }
  | .cancelRx k =>
    if hk : k < numRxXfers then
      some { s with
        rxFlight :=
          if s.rxXfer ⟨k, hk⟩ then
            Function.update s.rxFlight ⟨k, hk⟩ (s.rxFlight ⟨k, hk⟩).cancel
          else s.rxFlight
        rxPc := .cancelRx (k + 1) }
    else some { s with rxPc := .cancelTx }
  | .cancelTx => (s.tx.step .cancelTx).map fun tx => { s with tx := tx, rxPc := .drainRx }
  | .drainRx => some { s with rxPc := if s.activeRx > 0 then .drainTime else .drainTx }
  | .drainTx => some { s with rxPc := if s.tx.activeTx > 0 then .drainTime else .freeRx 0 }
  | .drainTime =>
    if r.expired then
      -- the limit does not pass before outstanding cancellations are delivered
      if s.cancelsDelivered then some { s with rxPc := .freeRx 0 } else none
    else some { s with rxPc := .drainEvents }
  | .drainEvents => if s.busy .usbToTun then none else some { s with rxPc := .drainRx }
  | .freeRx k => some { s with rxPc := if k < numRxXfers then .freeRx (k + 1) else .exited }
  | .exited => none

/-- One step of the `rx_complete` that runs for transfer `k`: `arp` says whether `frames` sends
    another ARP reply, `submitRet` is what `resubmit` returns. -/
def rxCallback (k : Fin numRxXfers) (arp : Bool) (submitRet : Int) (s : Bridge) : Option Bridge :=
  match s.rxFlight k with
  | .callback h stage =>
    let goto (f : Flight RxStage) (s : Bridge) : Option Bridge :=
      some { s with rxFlight := Function.update s.rxFlight k f }
    match stage with
    | .frames =>
      -- a reply is submitted and not counted
      if arp then some { s with arpInFlight := s.arpInFlight + 1 }
      else goto (.callback h .check) s
    | .lost => goto (.callback h .stop) { s with disconnected := true }
    | .stop => goto (.callback h .uncount) { s with running := false }
    | .check => goto (.callback h (if s.live then .resubmit else .uncount)) s
    | .resubmit => goto (if submitRet = 0 then .inFlight false else .callback h .uncount) s
    | .uncount => goto .idle { s with activeRx := s.activeRx - 1 }
  | _ => none

/-- The stores of `tx_complete` to the flags, when it runs for slot `i`. -/
def txCallbackFlags (i : Fin numTxXfers) (s : Bridge) : Bridge :=
  match s.tx.flight i with
  | .callback _ .lost => { s with disconnected := true }
  | .callback _ .stop => { s with running := false }
  | _ => s

/-- One step of the main thread. -/
def mainThread (c : MainChoice) (s : Bridge) : Option Bridge :=
  match s.main with
  | .head => some { s with main := if s.live then .due else .stop }
  | .due =>
    match c with
    | .keepalive => some { s with main := .keepalive }
    | _ => some { s with main := .body }
  | .body =>
    match c with
    | .clearRunning => some { s with running := false }
    | .clearGRunning => some { s with gRunning := false }
    | _ => some { s with main := .head }
  | .keepalive => if s.busy .keepalive then none else some { s with main := .body }
  | .stop => some { s with running := false, main := .signal }
  | .signal => some { s with main := .joinTx }
  | .joinTx => if s.tx.pc = .exited then some { s with main := .joinRx } else none
  | .joinRx => if s.rxPc = .exited then some { s with main := .freeTx 0 } else none
  | .freeTx k => some { s with main := if k < numTxXfers then .freeTx (k + 1) else .restore }
  | .restore => some { s with main := .close }
  | .close => some { s with main := .closed }
  | .closed => none

/-- What can happen in a session. -/
inductive Action where
  | rx (r : RxRet)
  | tun (r : TunRet)
  | main (c : MainChoice)
  /-- a signal clears `g_running` -/
  | signal
  /-- a transfer leaves flight -/
  | completeRx (k : Fin numRxXfers) (st : XferStatus)
  | completeTx (i : Fin numTxXfers) (st : XferStatus)
  | completeArp
  /-- a thread that handles events enters the callback -/
  | dispatchRx (k : Fin numRxXfers) (h : Handler)
  | dispatchTx (i : Fin numTxXfers) (h : Handler)
  | dispatchArp (h : Handler)
  /-- a callback takes a step -/
  | rxCallback (k : Fin numRxXfers) (arp : Bool) (submitRet : Int)
  | txCallback (i : Fin numTxXfers)
  | arpCallback (h : Handler)

/-- A step of the pool inside the session. -/
def stepTx (a : TxPool.Action) (s : Bridge) : Option Bridge :=
  (s.tx.step a).map fun tx => { s with tx := tx }

/-- One step. -/
def step (s : Bridge) : Action → Option Bridge
  | .rx r => s.usbToTun r
  | .tun r => s.stepTx (.tun { r with live := s.live })
  | .main c => s.mainThread c
  | .signal => some { s with gRunning := false }
  | .completeRx k st =>
    if (s.rxFlight k).isInFlight then
      some { s with rxFlight := Function.update s.rxFlight k (.completed st) }
    else none
  | .completeTx i st => s.stepTx (.complete i st)
  | .completeArp =>
    if s.arpInFlight > 0 then
      some { s with arpInFlight := s.arpInFlight - 1, arpCompleted := s.arpCompleted + 1 }
    else none
  | .dispatchRx k h =>
    if s.handling h && !s.busy h then
      match s.rxFlight k with
      | .completed st =>
        some { s with rxFlight := Function.update s.rxFlight k (.callback h (rxComplete st)) }
      | _ => none
    else none
  | .dispatchTx i h => if s.handling h && !s.busy h then s.stepTx (.dispatch i h) else none
  | .dispatchArp h =>
    if s.handling h && !s.busy h && s.arpCompleted > 0 then
      some { s with
        arpCompleted := s.arpCompleted - 1
        arpFreeing := Function.update s.arpFreeing h true }
    else none
  | .rxCallback k arp submitRet => s.rxCallback k arp submitRet
  | .txCallback i => (s.txCallbackFlags i).stepTx (.callback i)
  | .arpCallback h =>
    if s.arpFreeing h then some { s with arpFreeing := Function.update s.arpFreeing h false }
    else none

/-! ### What is freed, and what is in flight -/

/-- A transfer of the session is in flight. -/
def inFlight (s : Bridge) : Bool :=
  (List.finRange numRxXfers).any (fun k => (s.rxFlight k).isInFlight) ||
    (List.finRange numTxXfers).any (fun i => (s.tx.flight i).isInFlight) || s.arpInFlight > 0

/-- The step applies `libusb_free_transfer` to a transfer of the RX or TX pool, or closes the
    device. -/
def frees (s : Bridge) : Action → Bool
  | .rx r =>
    match s.rxPc with
    | .alloc k => k < numRxXfers && !r.bufOk && r.xferOk
    | .freeRx k => if hk : k < numRxXfers then s.rxXfer ⟨k, hk⟩ else false
    | _ => false
  | .main _ =>
    match s.main with
    | .freeTx k => k < numTxXfers
    | .close => true
    | _ => false
  | _ => false

/-- Nothing is counted, `tun_to_usb` is not on its way to submit or to count a transfer, and no
    ARP reply is in flight. -/
def quiet (s : Bridge) : Bool :=
  s.activeRx ≤ 0 && s.tx.activeTx ≤ 0 && !s.tx.pc.submitting && s.arpInFlight == 0

/-- The step ends the drain loop of `usb_to_tun`, or frees an RX transfer without a buffer. -/
def endsDrain (s : Bridge) : Action → Bool
  | .rx r =>
    match s.rxPc with
    | .alloc k => k < numRxXfers && !r.bufOk && r.xferOk
    | .drainTx => s.tx.activeTx ≤ 0
    | .drainTime => r.expired
    | _ => false
  | _ => false

/-- A step that ends the drain loop only when all is quiet. -/
def endsQuiet (s : Bridge) (a : Action) : Bool := !s.endsDrain a || s.quiet

/-- A slot of a pool is freed only when its transfer is idle: neither in flight, nor with its
    callback to come or under way. -/
def freesIdle (s : Bridge) : Action → Bool
  | .rx _ => s.rxPc.freed.all fun k => s.rxFlight k == .idle
  | .main _ => s.main.freed.all fun i => s.tx.flight i == .idle
  | _ => true

/-! ### What every step keeps -/

/-- Nothing is in flight, and nothing will be submitted any more. -/
structure Sealed (s : Bridge) : Prop where
  rx : ∀ k, s.rxFlight k = .idle
  tx : ∀ i, s.tx.flight i = .idle
  submitting : s.tx.pc.submitting = false
  arp : s.arpInFlight = 0

/-- Being sealed is about the transfers and `tun_to_usb`. -/
theorem Sealed.frame {s t : Bridge} (h : s.Sealed) (hrx : t.rxFlight = s.rxFlight)
    (htx : t.tx = s.tx) (harp : t.arpInFlight ≤ s.arpInFlight) : t.Sealed where
  rx k := by rw [hrx, h.rx k]
  tx i := by rw [htx, h.tx i]
  submitting := by rw [htx, h.submitting]
  arp := Nat.eq_zero_of_le_zero (h.arp ▸ harp)

/-- What every step keeps that ends the drain loop only when all is quiet. -/
structure Inv (s : Bridge) : Prop where
  /-- `active_rx` counts what is submitted, with a delay in set-up -/
  active : s.activeRx + s.rxPc.counting.toNat = tally Flight.outstanding s.rxFlight
  fresh : ∀ n, s.rxPc.fresh = some n → ∀ k : Fin numRxXfers, n ≤ k → s.rxFlight k = .idle
  pool : s.tx.Inv
  stopped : s.rxPc.stopped = true → s.running = false
  drained : s.rxPc.drained = true → s.Sealed
  joined : s.main.joined = true → s.rxPc = .exited

variable {s t : Bridge}

/-- Nothing has been submitted. -/
theorem inv_start : Inv start where
  active := by
    have h : tally Flight.outstanding start.rxFlight = 0 := tally_eq_zero.mpr fun _ => rfl
    rw [h]
    rfl
  fresh _ _ _ _ := rfl
  pool := TxPool.inv_start
  stopped h := by cases h
  drained h := by cases h
  joined h := by cases h

/-- When all is quiet, `active_rx` and `active_tx` count everything that is outstanding. -/
theorem Inv.sealed_of_quiet (h : Inv s) (hcounting : s.rxPc.counting = false)
    (hquiet : s.quiet = true) : s.Sealed := by
  simp only [quiet, Bool.and_eq_true, decide_eq_true_eq, Bool.not_eq_true', beq_iff_eq] at hquiet
  obtain ⟨⟨⟨hrx, htx⟩, hsubmitting⟩, harp⟩ := hquiet
  -- neither thread is between a submission and its count, so both counters are exact
  have htxCounting : s.tx.pc.counting = false := by
    cases hpc : s.tx.pc <;> simp_all [TunPc.counting, TunPc.submitting]
  have hrxZero : tally Flight.outstanding s.rxFlight = 0 := by
    have := h.active
    rw [hcounting] at this
    simp only [Bool.toNat_false] at this
    omega
  have htxZero : tally Flight.outstanding s.tx.flight = 0 := by
    have := h.pool.active
    rw [htxCounting] at this
    simp only [Bool.toNat_false] at this
    omega
  exact ⟨fun k => Flight.outstanding_eq_false.mp (tally_eq_zero.mp hrxZero k),
    fun i => Flight.outstanding_eq_false.mp (tally_eq_zero.mp htxZero i), hsubmitting, harp⟩

/-- Steps outside `usb_to_tun`, the transfers of the pools and their counters. -/
theorem Inv.frame (h : Inv s) (hpc : t.rxPc = s.rxPc) (hflight : t.rxFlight = s.rxFlight)
    (hactive : t.activeRx = s.activeRx) (htx : t.tx = s.tx) (harp : t.arpInFlight ≤ s.arpInFlight)
    (hrunning : s.running = false → t.running = false)
    (hmain : t.main.joined = true → t.rxPc = .exited) : Inv t where
  active := by
    rw [hactive, hpc, hflight]
    exact h.active
  fresh := by
    rw [hpc, hflight]
    exact h.fresh
  pool := by
    rw [htx]
    exact h.pool
  stopped hstopped := hrunning (h.stopped (hpc ▸ hstopped))
  drained hdrained := (h.drained (hpc ▸ hdrained)).frame hflight htx harp
  joined := hmain

/-- `usb_to_tun` goes on. -/
theorem Inv.setRxPc (h : Inv s) {pc : RxPc} (hexited : s.rxPc ≠ .exited)
    (hcounting : pc.counting = s.rxPc.counting)
    (hfresh : ∀ n, pc.fresh = some n → ∀ k : Fin numRxXfers, n ≤ k → s.rxFlight k = .idle)
    (hstopped : pc.stopped = true → s.running = false)
    (hdrained : pc.drained = true → s.Sealed) : Inv { s with rxPc := pc } where
  active := by
    simp only [hcounting]
    exact h.active
  fresh := hfresh
  pool := h.pool
  stopped := hstopped
  drained hpc := (hdrained hpc).frame rfl rfl le_rfl
  joined hmain := absurd (h.joined hmain) hexited

/-- `usb_to_tun` goes on in its event loop. -/
theorem Inv.loopTo (h : Inv s) {pc : RxPc} (hfrom : s.rxPc ≠ .exited ∧ s.rxPc.counting = false)
    (hpc : pc.looping = true) : Inv { s with rxPc := pc } := by
  have hto : pc.counting = false ∧ pc.fresh = none ∧ pc.stopped = false ∧ pc.drained = false := by
    cases pc <;> first | exact ⟨rfl, rfl, rfl, rfl⟩ | cases hpc
  obtain ⟨hcounting, hfresh, hstopped, hdrained⟩ := hto
  apply h.setRxPc hfrom.1 (hcounting.trans hfrom.2.symm)
  · intro n hn
    simp [hfresh] at hn
  · simp [hstopped]
  · simp [hdrained]

/-- `usb_to_tun` goes on after its loop, with `running` cleared. -/
theorem Inv.drainTo (h : Inv s) {pc : RxPc} (hfrom : s.rxPc ≠ .exited ∧ s.rxPc.counting = false)
    (hrunning : s.running = false) (hpc : pc.stopped = true)
    (hdrained : pc.drained = true → s.Sealed) : Inv { s with rxPc := pc } := by
  have hto : pc.counting = false ∧ pc.fresh = none := by
    cases pc <;> first | exact ⟨rfl, rfl⟩ | cases hpc
  apply h.setRxPc hfrom.1 (hto.1.trans hfrom.2.symm)
  · intro n hn
    simp [hto.2] at hn
  · exact fun _ => hrunning
  · exact hdrained

/-- An RX transfer that is submitted stays submitted, for `Inv`, until its callback returns. -/
theorem Inv.setRxFlight (h : Inv s) {k : Fin numRxXfers} {f : Flight RxStage}
    (hk : s.rxFlight k ≠ .idle) (hf : f ≠ .idle) :
    Inv { s with rxFlight := Function.update s.rxFlight k f } where
  active := by
    have hcount := tally_update (p := Flight.outstanding) (f := s.rxFlight) k f
    rw [Flight.outstanding_eq_true.mpr hk, Flight.outstanding_eq_true.mpr hf] at hcount
    have := h.active
    simp only
    omega
  fresh n hn j hj := by
    -- a transfer not yet submitted in set-up is another one
    have hne : j ≠ k := fun hjk => hk (hjk ▸ h.fresh n hn j hj)
    show Function.update s.rxFlight k f j = .idle
    rw [Function.update_of_ne hne]
    exact h.fresh n hn j hj
  pool := h.pool
  stopped := h.stopped
  drained hpc := absurd ((h.drained hpc).rx k) hk
  joined := h.joined

/-- A sealed pool stays so when `tun_to_usb` finds the session stopped. -/
theorem sealed_stepTx {tx tx' : TxPool} {a : TxPool.Action} (hidle : ∀ i, tx.flight i = .idle)
    (hsubmitting : tx.pc.submitting = false) (hlive : ∀ r, a = .tun r → r.live = false)
    (hst : tx.step a = some tx') :
    (∀ i, tx'.flight i = .idle) ∧ tx'.pc.submitting = false := by
  cases a with
  | tun r =>
    have hr : r.live = false := hlive r rfl
    have hnext : ∀ b, (nextBatch b).submitting = false := fun b => by
      unfold nextBatch
      split <;> rfl
    simp only [TxPool.step, TxPool.tunToUsb] at hst
    cases hpc : tx.pc with
    | wrap | submit | count =>
      rw [hpc] at hsubmitting
      cases hsubmitting
    | loopTop | pollFirst | pollBatch =>
      rw [hpc] at hst
      cases hst
      refine ⟨hidle, ?_⟩
      simp only
      split <;> rfl
    | read b =>
      simp only [hpc] at hst
      split at hst
      · cases hst
        exact ⟨hidle, rfl⟩
      · cases hst
        refine ⟨hidle, ?_⟩
        simp only
        split
        · rfl
        · exact hnext b
    | claim p b =>
      -- no slot is claimed any more
      simp only [hpc, hr, Bool.false_eq_true, if_false] at hst
      cases hst
      exact ⟨hidle, rfl⟩
    | release b i =>
      rw [hpc] at hst
      cases hst
      exact ⟨hidle, hnext b⟩
    | exited => simp [hpc] at hst
  | cancelTx =>
    cases hst
    refine ⟨fun i => ?_, hsubmitting⟩
    simp [hidle i, Flight.cancel]
  | complete i st => simp [TxPool.step, hidle i, Flight.isInFlight] at hst
  | dispatch i hd => simp [TxPool.step, hidle i] at hst
  | callback i => simp [TxPool.step, TxPool.txCallback, hidle i] at hst

/-- A step of the pool. -/
theorem Inv.setTx (h : Inv s) {tx : TxPool} {a : TxPool.Action} (hst : s.tx.step a = some tx)
    (hlive : ∀ r, a = .tun r → r.live = s.live) : Inv { s with tx := tx } where
  active := h.active
  fresh := h.fresh
  pool := TxPool.inv_step h.pool hst
  stopped := h.stopped
  drained hpc := by
    have hsealed := h.drained hpc
    -- after the drain `running` is 0, which is what `tun_to_usb` reads
    have hstopped : s.rxPc.stopped = true := by
      have hdrained : s.rxPc.drained = true := hpc
      cases hrx : s.rxPc <;> simp_all [RxPc.drained, RxPc.stopped]
    have hdead : s.live = false := by rw [live, h.stopped hstopped, Bool.false_and]
    obtain ⟨hidle, hsubmitting⟩ :=
      sealed_stepTx hsealed.tx hsealed.submitting (fun r hr => (hlive r hr).trans hdead) hst
    exact ⟨hsealed.rx, hidle, hsubmitting, hsealed.arp⟩
  joined := h.joined

/-- The steps of `tun_to_usb` and its transfers keep the invariant. -/
theorem inv_stepTx (h : Inv s) {a : TxPool.Action} (hlive : ∀ r, a = .tun r → r.live = s.live)
    (hst : s.stepTx a = some t) : Inv t := by
  obtain ⟨tx, htx, rfl⟩ := Option.map_eq_some_iff.mp hst
  exact h.setTx htx hlive

/-- The end of `rx_complete` takes the transfer out of the count. -/
theorem inv_uncount (h : Inv s) {k : Fin numRxXfers} (hk : s.rxFlight k ≠ .idle) :
    Inv { s with
      activeRx := s.activeRx - 1
      rxFlight := Function.update s.rxFlight k .idle } where
  active := by
    have hcount := tally_update (p := Flight.outstanding) (f := s.rxFlight) k .idle
    rw [Flight.outstanding_eq_true.mpr hk] at hcount
    have := h.active
    simp only [Flight.outstanding, Bool.toNat_true, Bool.toNat_false] at *
    omega
  fresh n hn j hj := by
    show Function.update s.rxFlight k .idle j = .idle
    by_cases hjk : j = k
    · rw [hjk, Function.update_self]
    · rw [Function.update_of_ne hjk]
      exact h.fresh n hn j hj
  pool := h.pool
  stopped := h.stopped
  drained hpc := absurd ((h.drained hpc).rx k) hk
  joined := h.joined

/-- An ARP reply is sent by a callback, which runs before the drain loop has ended. -/
theorem inv_arpSubmit (h : Inv s) {k : Fin numRxXfers} (hk : s.rxFlight k ≠ .idle) :
    Inv { s with arpInFlight := s.arpInFlight + 1 } where
  active := h.active
  fresh := h.fresh
  pool := h.pool
  stopped := h.stopped
  drained hpc := absurd ((h.drained hpc).rx k) hk
  joined := h.joined

/-- So does a callback of a received transfer. -/
theorem inv_rxCallback (h : Inv s) {k : Fin numRxXfers} {arp : Bool} {submitRet : Int}
    (hst : s.rxCallback k arp submitRet = some t) : Inv t := by
  unfold rxCallback at hst
  split at hst
  · next hd stage hk =>
    have hne : s.rxFlight k ≠ .idle := by simp [hk]
    cases stage with
    | frames =>
      simp only at hst
      split at hst
      · cases hst
        exact inv_arpSubmit h hne
      · cases hst
        exact h.setRxFlight hne (by simp)
    | lost =>
      cases hst
      exact (h.frame (t := { s with disconnected := true }) rfl rfl rfl rfl le_rfl id
        h.joined).setRxFlight hne (by simp)
    | stop =>
      cases hst
      exact (h.frame (t := { s with running := false }) rfl rfl rfl rfl le_rfl (fun _ => rfl)
        h.joined).setRxFlight hne (by simp)
    | check =>
      cases hst
      exact h.setRxFlight hne (by simp)
    | resubmit =>
      cases hst
      apply h.setRxFlight hne
      split <;> simp
    | uncount =>
      cases hst
      exact inv_uncount h hne
  · cases hst

/-- What the main thread does: it clears flags and moves on, past the joins only once
    `usb_to_tun` has returned. -/
theorem mainThread_cases {c : MainChoice} (hst : s.mainThread c = some t) :
    ∃ running gRunning main,
      t = { s with running := running, gRunning := gRunning, main := main } ∧
        (s.running = false → running = false) ∧
          (main.joined = true → s.main.joined = true ∨ s.rxPc = .exited) := by
  unfold mainThread at hst
  cases hmain : s.main with
  | head =>
    rw [hmain] at hst
    cases hst
    refine ⟨_, _, _, rfl, id, fun hjoined => ?_⟩
    split at hjoined <;> cases hjoined
  | due =>
    simp only [hmain] at hst
    split at hst <;> cases hst <;> exact ⟨_, _, _, rfl, id, nofun⟩
  | body =>
    simp only [hmain] at hst
    split at hst
    · cases hst
      exact ⟨false, s.gRunning, _, rfl, fun _ => rfl, nofun⟩
    · cases hst
      exact ⟨_, false, _, rfl, id, nofun⟩
    · cases hst
      exact ⟨_, _, _, rfl, id, nofun⟩
  | keepalive =>
    simp only [hmain] at hst
    split at hst <;> cases hst
    exact ⟨_, _, _, rfl, id, nofun⟩
  | stop =>
    rw [hmain] at hst
    cases hst
    exact ⟨false, s.gRunning, _, rfl, fun _ => rfl, nofun⟩
  | signal =>
    rw [hmain] at hst
    cases hst
    exact ⟨_, _, _, rfl, id, nofun⟩
  | joinTx =>
    simp only [hmain] at hst
    split at hst <;> cases hst
    exact ⟨_, _, _, rfl, id, nofun⟩
  | joinRx =>
    simp only [hmain] at hst
    split at hst
    · next hexited =>
      cases hst
      exact ⟨_, _, _, rfl, id, fun _ => .inr hexited⟩
    · cases hst
  | freeTx | restore | close =>
    rw [hmain] at hst
    cases hst
    exact ⟨_, _, _, rfl, id, fun _ => .inl rfl⟩
  | closed => simp [hmain] at hst

/-- So do the steps of the main thread. -/
theorem inv_mainThread (h : Inv s) {c : MainChoice} (hst : s.mainThread c = some t) : Inv t := by
  obtain ⟨running, gRunning, main, rfl, hrunning, hjoined⟩ := mainThread_cases hst
  refine h.frame rfl rfl rfl rfl le_rfl hrunning fun hmain => ?_
  rcases hjoined hmain with hmain | hexited
  · exact h.joined hmain
  · exact hexited

/-- A transfer submitted in set-up: the first one not yet submitted. -/
theorem inv_rxSubmit (h : Inv s) {k : Fin numRxXfers} (hpc : s.rxPc = .submit k) :
    Inv { s with rxFlight := Function.update s.rxFlight k (.inFlight false), rxPc := .count k } where
  active := by
    -- one more is outstanding, and `active_rx` lags behind by it
    have hidle : s.rxFlight k = .idle := h.fresh k (by rw [hpc]; rfl) k le_rfl
    have hcount := tally_update (p := Flight.outstanding) (f := s.rxFlight) k (.inFlight false)
    have hactive := h.active
    rw [hidle] at hcount
    rw [hpc] at hactive
    simp only [RxPc.counting, Flight.outstanding, Bool.toNat_true, Bool.toNat_false] at *
    omega
  fresh n hn j hj := by
    obtain rfl : k.val + 1 = n := Option.some.inj hn
    have hne : j ≠ k := fun hjk => by
      rw [hjk] at hj
      omega
    show Function.update s.rxFlight k (.inFlight false) j = .idle
    rw [Function.update_of_ne hne]
    exact h.fresh k (by rw [hpc]; rfl) j (by omega)
  pool := h.pool
  stopped hstopped := by cases hstopped
  drained hdrained := by cases hdrained
  joined hmain := by
    have := h.joined hmain
    rw [hpc] at this
    cases this

/-- A transfer that set-up has submitted is counted. -/
theorem inv_rxCount (h : Inv s) {k : Fin numRxXfers} (hpc : s.rxPc = .count k) :
    Inv { s with activeRx := s.activeRx + 1, rxPc := .alloc (k + 1) } where
  active := by
    have hactive := h.active
    rw [hpc] at hactive
    simp only [RxPc.counting, Bool.toNat_true, Bool.toNat_false] at *
    omega
  fresh n hn := h.fresh n (by rw [hpc]; exact hn)
  pool := h.pool
  stopped hstopped := by cases hstopped
  drained hdrained := by cases hdrained
  joined hmain := by
    have := h.joined hmain
    rw [hpc] at this
    cases this

/-- Cancelling changes nothing that `Inv` sees. -/
theorem inv_cancelRx (h : Inv s) (k : Fin numRxXfers) :
    Inv { s with rxFlight := Function.update s.rxFlight k (s.rxFlight k).cancel } := by
  by_cases hk : s.rxFlight k = .idle
  · have hsame : Function.update s.rxFlight k (s.rxFlight k).cancel = s.rxFlight := by
      rw [hk]
      exact (congrArg _ hk.symm).trans (Function.update_eq_self k s.rxFlight)
    rw [hsame]
    exact h
  · exact h.setRxFlight hk (by simpa using hk)

/-- The next round of set-up, without submitting transfer `k`. -/
theorem inv_rxSkip (h : Inv s) {k : Nat} (hfresh : s.rxPc.fresh = some k)
    (hcounting : s.rxPc.counting = false) : Inv { s with rxPc := .alloc (k + 1) } := by
  have hexited : s.rxPc ≠ .exited := by
    intro hpc
    rw [hpc] at hfresh
    cases hfresh
  apply h.setRxPc hexited
  · rw [hcounting]
    rfl
  · intro n hn j hj
    obtain rfl : k + 1 = n := Option.some.inj hn
    exact h.fresh k hfresh j (by omega)
  · exact nofun
  · exact nofun

/-- A transfer allocated in set-up. -/
theorem inv_rxAlloc (h : Inv s) {k : Fin numRxXfers} (hpc : s.rxPc = .alloc k) :
    Inv { s with rxXfer := Function.update s.rxXfer k true, rxPc := .submit k } := by
  have hsubmit : Inv { s with rxPc := .submit k } := by
    apply h.setRxPc (by simp [hpc]) (by rw [hpc]; rfl)
    · intro n hn
      exact h.fresh n (by rw [hpc]; exact hn)
    · exact nofun
    · exact nofun
  exact hsubmit.frame rfl rfl rfl rfl le_rfl id hsubmit.joined

/-- The steps of `usb_to_tun`. -/
theorem inv_usbToTun (h : Inv s) {r : RxRet} (hok : s.endsQuiet (.rx r) = true)
    (hst : s.usbToTun r = some t) : Inv t := by
  have hquiet : s.endsDrain (.rx r) = true → s.quiet = true := fun hends => by
    simpa [endsQuiet, hends] using hok
  have hrunning := h.stopped
  have hfrom : ∀ pc, s.rxPc = pc → pc ≠ .exited ∧ pc.counting = false →
      s.rxPc ≠ .exited ∧ s.rxPc.counting = false := fun pc hpc hpc' => hpc ▸ hpc'
  unfold usbToTun at hst
  cases hpc : s.rxPc with
  | alloc k =>
    simp only [hpc] at hst
    split at hst
    · next hk =>
      split at hst
      · cases hst
        exact inv_rxAlloc (k := ⟨k, hk⟩) h hpc
      · cases hst
        exact inv_rxSkip h (by rw [hpc]; rfl) (by rw [hpc]; rfl)
    · cases hst
      exact h.loopTo (hfrom _ hpc ⟨by simp, rfl⟩) rfl
  | submit k =>
    simp only [hpc] at hst
    split at hst
    · cases hst
      exact inv_rxSubmit h hpc
    · cases hst
      exact inv_rxSkip h (by rw [hpc]; rfl) (by rw [hpc]; rfl)
  | count k =>
    rw [hpc] at hst
    cases hst
    exact inv_rxCount h hpc
  | loop | loopRx =>
    rw [hpc] at hst
    cases hst
    apply h.loopTo (hfrom _ hpc ⟨by simp, rfl⟩)
    split <;> rfl
  | events =>
    simp only [hpc] at hst
    split at hst <;> cases hst
    apply h.loopTo (hfrom _ hpc ⟨by simp, rfl⟩)
    split <;> rfl
  | lost =>
    rw [hpc] at hst
    cases hst
    have hlost : Inv { s with disconnected := true } :=
      h.frame rfl rfl rfl rfl le_rfl id h.joined
    exact hlost.loopTo (hfrom _ hpc ⟨by simp, rfl⟩) rfl
  | lostStop =>
    rw [hpc] at hst
    cases hst
    have hstop : Inv { s with running := false } :=
      h.frame rfl rfl rfl rfl le_rfl (fun _ => rfl) h.joined
    exact hstop.loopTo (hfrom _ hpc ⟨by simp, rfl⟩) rfl
  | stop =>
    rw [hpc] at hst
    cases hst
    have hstop : Inv { s with running := false } :=
      h.frame rfl rfl rfl rfl le_rfl (fun _ => rfl) h.joined
    exact hstop.drainTo (hfrom _ hpc ⟨by simp, rfl⟩) rfl rfl nofun
  | cancelRx k =>
    rw [hpc] at hrunning
    simp only [hpc] at hst
    split at hst
    · next hk =>
      cases hst
      split
      · exact (inv_cancelRx h ⟨k, hk⟩).drainTo (hfrom _ hpc ⟨by simp, rfl⟩) (hrunning rfl) rfl
          nofun
      · exact h.drainTo (hfrom _ hpc ⟨by simp, rfl⟩) (hrunning rfl) rfl
          nofun
    · cases hst
      exact h.drainTo (hfrom _ hpc ⟨by simp, rfl⟩) (hrunning rfl) rfl
        nofun
  | cancelTx =>
    rw [hpc] at hrunning
    simp only [hpc] at hst
    obtain ⟨tx, htx, rfl⟩ := Option.map_eq_some_iff.mp hst
    have hcancelled : Inv { s with tx := tx } := h.setTx htx fun r hr => by cases hr
    exact hcancelled.drainTo (hfrom _ hpc ⟨by simp, rfl⟩) (hrunning rfl) rfl
      nofun
  | drainRx =>
    rw [hpc] at hrunning hst
    cases hst
    apply h.drainTo (hfrom _ hpc ⟨by simp, rfl⟩) (hrunning rfl)
    · split <;> rfl
    · intro hdrained
      split at hdrained <;> cases hdrained
  | drainTx =>
    rw [hpc] at hrunning hst
    cases hst
    apply h.drainTo (hfrom _ hpc ⟨by simp, rfl⟩) (hrunning rfl)
    · split <;> rfl
    · intro hdrained
      split at hdrained
      · cases hdrained
      · next hzero =>
        -- the loop ends here
        exact h.sealed_of_quiet (by rw [hpc]; rfl) (hquiet (by simp [endsDrain, hpc]; omega))
  | drainTime =>
    rw [hpc] at hrunning
    simp only [hpc] at hst
    split at hst
    · next hexpired =>
      -- or here, by the time limit
      split at hst <;> cases hst
      have hsealed := h.sealed_of_quiet (by rw [hpc]; rfl)
        (hquiet (by simp [endsDrain, hpc, hexpired]))
      exact h.drainTo (hfrom _ hpc ⟨by simp, rfl⟩) (hrunning rfl) rfl fun _ => hsealed
    · cases hst
      exact h.drainTo (hfrom _ hpc ⟨by simp, rfl⟩) (hrunning rfl) rfl
        nofun
  | drainEvents =>
    rw [hpc] at hrunning
    simp only [hpc] at hst
    split at hst <;> cases hst
    exact h.drainTo (hfrom _ hpc ⟨by simp, rfl⟩) (hrunning rfl) rfl
      nofun
  | freeRx k =>
    have hsealed := h.drained (by rw [hpc]; rfl)
    rw [hpc] at hrunning hst
    cases hst
    apply h.drainTo (hfrom _ hpc ⟨by simp, rfl⟩) (hrunning rfl)
    · split <;> rfl
    · exact fun _ => hsealed
  | exited => simp [hpc] at hst

/-- A callback of a transfer that was sent touches the two flags only. -/
theorem txCallbackFlags_eq (i : Fin numTxXfers) (s : Bridge) :
    ∃ running disconnected,
      s.txCallbackFlags i = { s with running := running, disconnected := disconnected } ∧
        (s.running = false → running = false) := by
  unfold txCallbackFlags
  split
  · exact ⟨s.running, true, rfl, id⟩
  · exact ⟨false, s.disconnected, rfl, fun _ => rfl⟩
  · exact ⟨s.running, s.disconnected, rfl, id⟩

/-- Every step keeps the invariant, as long as the bridge ends with nothing in flight. -/
theorem inv_step (h : Inv s) {a : Action} (hok : s.endsQuiet a = true) (hst : s.step a = some t) :
    Inv t := by
  cases a with
  | rx r => exact inv_usbToTun h hok hst
  | tun r => exact inv_stepTx h (fun r' hr => by cases hr; rfl) hst
  | main c => exact inv_mainThread h hst
  | signal =>
    cases hst
    exact h.frame rfl rfl rfl rfl le_rfl id h.joined
  | completeRx k st =>
    simp only [step] at hst
    split at hst
    · next hk =>
      cases hst
      exact h.setRxFlight (fun hidle => by rw [hidle] at hk; cases hk) (by simp)
    · cases hst
  | completeTx i st => exact inv_stepTx h (fun r hr => by cases hr) hst
  | completeArp =>
    simp only [step] at hst
    split at hst <;> cases hst
    exact h.frame rfl rfl rfl rfl (Nat.sub_le _ _) id h.joined
  | dispatchRx k hd =>
    simp only [step] at hst
    split at hst
    · split at hst
      · next st hk =>
        cases hst
        exact h.setRxFlight (by simp [hk]) (by simp)
      · cases hst
    · cases hst
  | dispatchTx i hd =>
    simp only [step] at hst
    split at hst
    · exact inv_stepTx h (fun r hr => by cases hr) hst
    · cases hst
  | dispatchArp hd =>
    simp only [step] at hst
    split at hst <;> cases hst
    exact h.frame rfl rfl rfl rfl le_rfl id h.joined
  | rxCallback k arp submitRet => exact inv_rxCallback h hst
  | txCallback i =>
    -- the flags first, then the critical section
    have hflagged : Inv (s.txCallbackFlags i) := by
      obtain ⟨running, disconnected, hflags, hrunning⟩ := txCallbackFlags_eq i s
      rw [hflags]
      exact h.frame rfl rfl rfl rfl le_rfl hrunning h.joined
    exact inv_stepTx hflagged (fun r hr => by cases hr) hst
  | arpCallback hd =>
    simp only [step] at hst
    split at hst <;> cases hst
    exact h.frame rfl rfl rfl rfl le_rfl id h.joined

/-! ### What is freed is not in flight -/

/-- Behind the drain nothing is in flight. -/
theorem Sealed.inFlight (h : s.Sealed) : s.inFlight = false := by
  simp [Bridge.inFlight, h.rx, h.tx, h.arp, Flight.isInFlight]

/-- Nothing is in flight at a step that frees a transfer or closes the device. -/
theorem Inv.inFlight_of_frees (h : Inv s) {a : Action} (hok : s.endsQuiet a = true)
    (hfrees : s.frees a = true) : s.inFlight = false := by
  cases a with
  | rx r =>
    cases hpc : s.rxPc with
    | alloc k =>
      -- in set-up, an RX transfer without a buffer
      have hends : s.endsDrain (.rx r) = true := by
        simpa [frees, endsDrain, hpc] using hfrees
      have hquiet : s.quiet = true := by simpa [endsQuiet, hends] using hok
      exact (h.sealed_of_quiet (by rw [hpc]; rfl) hquiet).inFlight
    | freeRx k => exact (h.drained (by rw [hpc]; rfl)).inFlight
    | _ => simp [frees, hpc] at hfrees
  | main c =>
    -- the main thread frees after the joins, when `usb_to_tun` has drained
    have hjoined : s.main.joined = true := by
      cases hmain : s.main <;> simp_all [frees, MainPc.joined]
    exact (h.drained (by rw [h.joined hjoined]; rfl)).inFlight
  | _ => cases hfrees

/-- In a run whose drain loop ends quiet, every step is taken in a state with `Inv`. -/
theorem inv_of_mem {l : List (Bridge × Action)} (h : Run step start l t)
    (hquiet : ∀ p ∈ l, p.1.endsQuiet p.2 = true) : ∀ p ∈ l, Inv p.1 := by
  intro p hp
  obtain ⟨l', hl', hrun⟩ := h.exists_of_mem hp
  -- the state before the step is reached by the steps before it
  exact hrun.invariant_of (fun s a => s.endsQuiet a = true) inv_start
    (fun _ _ _ hs hok hst => inv_step hs hok hst) fun q hq => hquiet q (hl'.subset hq)

/-- **Nothing is in flight when transfers are freed** or the device is closed, in any run in
    which the drain loop of `usb_to_tun` ends only with nothing counted, with `tun_to_usb` not
    between claiming a slot and counting its submission, and with no ARP reply in flight; and
    in which the same holds where set-up gives back an RX transfer without a buffer. -/
theorem nothingInFlight_of_run {l : List (Bridge × Action)} (h : Run step start l t)
    (hquiet : ∀ p ∈ l, p.1.endsQuiet p.2 = true) :
    ∀ p ∈ l, p.1.frees p.2 = true → p.1.inFlight = false := fun p hp hfrees =>
  (inv_of_mem h hquiet p hp).inFlight_of_frees (hquiet p hp) hfrees

/-- Slots whose transfers are idle, when everything is sealed. -/
theorem Inv.freesIdle (h : Inv s) (a : Action) : s.freesIdle a = true := by
  cases a with
  | rx r =>
    show (s.rxPc.freed.all fun k => s.rxFlight k == .idle) = true
    cases hpc : s.rxPc with
    | freeRx k =>
      have hsealed := h.drained (by rw [hpc]; rfl)
      simp [hsealed.rx]
    | _ => rfl
  | main c =>
    show (s.main.freed.all fun i => s.tx.flight i == .idle) = true
    cases hmain : s.main with
    | freeTx k =>
      have hsealed := h.drained (by rw [h.joined (by rw [hmain]; rfl)]; rfl)
      simp [hsealed.tx]
    | _ => rfl
  | _ => rfl

/-- In such runs only slots with idle transfers are freed. -/
theorem freesIdle_of_run {l : List (Bridge × Action)} (h : Run step start l t)
    (hquiet : ∀ p ∈ l, p.1.endsQuiet p.2 = true) : ∀ p ∈ l, p.1.freesIdle p.2 = true :=
  fun p hp => (inv_of_mem h hquiet p hp).freesIdle p.2

/-- The first two slots of `rx_pool`. -/
def rxSlot0 : Fin numRxXfers := ⟨0, by decide⟩

def rxSlot1 : Fin numRxXfers := ⟨1, by decide⟩

/-- `usb_to_tun` when all its calls succeed. -/
def rxStep : Action := .rx ⟨true, true, 0, false, false⟩

/-- `tun_to_usb`, with or without a packet at the utun. -/
def tunStep (readable : Bool) : Action := .tun ⟨true, readable, 64, 74, 118, 0⟩

/-- All RX transfers are submitted, and `usb_to_tun` waits for events. -/
def settingUp : List Action := List.replicate (3 * numRxXfers + 3) rxStep

/-- After a signal, `usb_to_tun` cancels what it finds and drains the RX transfers; it leaves
    the drain loop. -/
def draining : List Action :=
  .signal :: List.replicate (numRxXfers + 7) rxStep ++
    (List.finRange numRxXfers).flatMap (fun k =>
      [.completeRx k .cancelled, .dispatchRx k .usbToTun, .rxCallback k false 0]) ++
    List.replicate 3 rxStep

/-- A packet is sent and its transfer comes back; then the session is stopped. -/
def wholeSession : List Action :=
  settingUp ++ List.replicate 7 (tunStep true) ++
    [.completeTx TxPool.slot0 .completed, .dispatchTx TxPool.slot0 .usbToTun,
      .txCallback TxPool.slot0] ++
    draining ++ List.replicate 2 (tunStep false) ++ List.replicate (numRxXfers + 1) rxStep ++
    List.replicate (numTxXfers + 8) (.main .goOn)

/-- `tun_to_usb` has claimed a slot and filled it when the signal arrives, and submits it when
    the drain loop has ended. -/
def lateSubmit : List Action :=
  settingUp ++ List.replicate 5 (tunStep true) ++ draining ++ [tunStep true]

/-- In a session that ends in good order nothing is in flight when it is freed. -/
theorem nothingInFlight_wholeSession :
    ∃ l t, Run step start l t ∧ t.main = .closed ∧
      ∀ p ∈ l, p.1.frees p.2 = true → p.1.inFlight = false := by
  obtain ⟨l, t, hrun, hquiet, hclosed⟩ :=
    exists_run_of_exec step endsQuiet (fun t => t.main == .closed) start wholeSession
      (by decide +kernel)
  exact ⟨l, t, hrun, eq_of_beq hclosed, nothingInFlight_of_run hrun hquiet⟩

/-- A transfer that `tun_to_usb` submits after the drain is in flight when the first transfer is
    freed. -/
theorem not_nothingInFlight :
    ¬ ∀ (l : List (Bridge × Action)) (t : Bridge), Run step start l t →
      ∀ p ∈ l, p.1.frees p.2 = true → p.1.inFlight = false := by
  intro hall
  obtain ⟨l, s, hrun, -, hbad⟩ :=
    exists_run_of_exec step (fun _ _ => true)
      (fun s => s.frees rxStep && s.inFlight && (s.step rxStep).isSome) start lateSubmit
      (by decide +kernel)
  simp only [Bool.and_eq_true] at hbad
  obtain ⟨⟨hfrees, hinFlight⟩, hsome⟩ := hbad
  obtain ⟨t, hst⟩ := Option.isSome_iff_exists.mp hsome
  have := hall _ t (hrun.snoc hst) (s, rxStep) List.mem_cons_self hfrees
  rw [hinFlight] at this
  cases this

end Bridge

end AndroidTether
