import AndroidTether.Bridge
import AndroidTether.Lib.Footprint
import AndroidTether.UsbBalance

namespace AndroidTether

open Custody Trans

/-!
# What the threads of a session work with

The threads of `Bridge`, step by step with what each step works with: the slots of the two pools,
the mutex and the condition variable, the interface, the device and the driver; and the transfers
for ARP replies, which live until their callback runs, in this session or a later one.

* `SessionThing`, `SessionCall` — what a session takes, and the calls it makes;
* `Threads.calls` — the calls of a step; `Threads.held` — what is held in a state;
* `Threads.ok` — a slot of `tx_pool` that `tun_to_usb` uses has been allocated, and a slot of a
  pool is freed only when its transfer is idle;
* `threads_moves` — in runs of such steps, from what is held at the beginning to what is held at
  the end, everything is held when it is used.

`main.c` does not check the allocations for `tx_pool`, and `tun_to_usb` works with what they
returned.  `Bridge.freesIdle_of_run` says when only idle transfers are freed.
-/

/-- What a session takes.  An ARP reply has the address of its buffer. -/
inductive SessionThing where
  /-- `proto_driver_t`, and `rndis_state_t` behind its `priv` -/
  | driver
  | driverState
  | usbCtx
  | usbHandle (i : Nat)
  | tunFd
  | txMutex
  | txCond
  | txXfer (i : Fin numTxXfers)
  | txBuf (i : Fin numTxXfers)
  | rxThread
  | txThread
  | rxXfer (k : Fin numRxXfers)
  | rxBuf (k : Fin numRxXfers)
  | arpXfer (p : Nat)
  | arpBuf (p : Nat)
  deriving DecidableEq

/-- A call of `libusb` on devices, an allocation or creation, the release of its result, or a
    call that works with things the session holds. -/
inductive SessionCall where
  | usb (u : UsbCall)
  | take (r : SessionThing) (ok : Bool)
  | give (r : SessionThing)
  | call (uses : List SessionThing)
  deriving DecidableEq

/-- What a call takes or gives back.  Interfaces and kernel drivers are left to the search. -/
def SessionCall.effect : SessionCall → Option (SessionThing × Bool)
  | .usb (.initCtx ret) => if 0 ≤ ret then some (.usbCtx, true) else none
  | .usb .exitCtx => some (.usbCtx, false)
  | .usb (.openDev i ret) => if 0 ≤ ret then some (.usbHandle i, true) else none
  | .usb (.close i) => some (.usbHandle i, false)
  | .usb _ => none
  | .take r ok => if ok then some (r, true) else none
  | .give r => some (r, false)
  | .call _ => none

/-- What must be held for a call. -/
def SessionCall.needs : SessionCall → List SessionThing
  | .usb (.initCtx _) => []
  | .usb .exitCtx => [.usbCtx]
  | .usb (.openDev _ _) => [.usbCtx]
  | .usb (.close i) => [.usbCtx, .usbHandle i]
  | .usb (.detach i _ _) => [.usbHandle i]
  | .usb (.claim i _ _) => [.usbHandle i]
  | .usb (.release i _) => [.usbHandle i]
  | .usb (.setAlt i _ _ _) => [.usbHandle i]
  | .usb (.attach i _) => [.usbHandle i]
  | .take _ _ => []
  | .give r => [r]
  | .call uses => uses

/-- Where exactly the things of `S` are held, each call finds held what it needs, and afterwards
    exactly those of `T` are held. -/
abbrev CallMoves (S : Set SessionThing) (log : List SessionCall) (T : Set SessionThing) : Prop :=
  Moves SessionCall.effect SessionCall.needs S log T

/-! ### ARP replies -/

/-- What `process_rx_frame` has done for a reply: nothing, `malloc`, `libusb_alloc_transfer`, or
    `libusb_submit_transfer`. -/
inductive ArpStage where
  | idle
  | buffer
  | transfer
  | submitted
  deriving DecidableEq

/-- A step for the reply whose buffer is at `p`. -/
inductive ArpStep where
  | malloc (p : Nat) (ok : Bool)
  | wrap (p : Nat) (rlen : Int)
  | alloc (p : Nat) (ok : Bool)
  | submit (p : Nat) (ret : Int)
  /-- `arp_tx_complete` -/
  | complete (p : Nat)
  deriving DecidableEq

/-- Where the replies stand after a step.  The allocator returns no block in use, and `libusb`
    calls back once for a transfer that was submitted. -/
def arpStep (arp : Nat → ArpStage) : ArpStep → Option (Nat → ArpStage)
  | .malloc p ok =>
    if arp p = .idle then some (if ok then Function.update arp p .buffer else arp) else none
  | .wrap p rlen =>
    if arp p = .buffer then some (if 0 < rlen then arp else Function.update arp p .idle) else none
  | .alloc p ok =>
    if arp p = .buffer then some (Function.update arp p (if ok then .transfer else .idle)) else none
  | .submit p ret =>
    if arp p = .transfer then some (Function.update arp p (if ret = 0 then .submitted else .idle))
    else none
  | .complete p =>
    if arp p = .submitted then some (Function.update arp p .idle) else none

/-- The calls of a step, with the handle of the device. -/
def ArpStep.calls (handle : List SessionThing) : ArpStep → List SessionCall
  | .malloc p ok => [.take (.arpBuf p) ok]
  | .wrap p rlen => .call [.driver, .arpBuf p] :: if 0 < rlen then [] else [.give (.arpBuf p)]
  | .alloc p ok => .take (.arpXfer p) ok :: if ok then [] else [.give (.arpBuf p)]
  | .submit p ret =>
    .call (.arpXfer p :: .arpBuf p :: handle) ::
      if ret = 0 then [] else [.give (.arpXfer p), .give (.arpBuf p)]
  | .complete p => [.give (.arpBuf p), .give (.arpXfer p)]

/-! ### The threads -/

/-- How many slots of `rx_pool` have been freed. -/
def RxPc.freedCount : RxPc → Nat
  | freeRx k => k
  | exited => numRxXfers
  | _ => 0

/-- In set-up, the first slot that has not been allocated. -/
def RxPc.unallocated : RxPc → Option Nat
  | alloc k => some k
  | submit k => some (k + 1)
  | count k => some (k + 1)
  | _ => none

/-- How many slots of `tx_pool` have been freed. -/
def MainPc.freedCount : MainPc → Nat
  | freeTx k => k
  | restore | close | closed => numTxXfers
  | _ => 0

/-- `tun_to_usb` has been joined. -/
def MainPc.txJoined : MainPc → Bool
  | joinRx => true
  | pc => pc.joined

/-- The mutex and the condition variable have been destroyed. -/
def MainPc.destroyed : MainPc → Bool
  | close | closed => true
  | _ => false

/-- The session's threads and transfers, the pointers of `tx_pool` that are not `NULL`, and the
    ARP replies. -/
structure Threads where
  bridge : Bridge
  txXfer : Fin numTxXfers → Bool
  txBuf : Fin numTxXfers → Bool
  arp : Nat → ArpStage

/-- A step of `Bridge`, or one for an ARP reply.  `Bridge` only counts the replies. -/
inductive ThreadStep where
  | bridge (a : Bridge.Action)
  | arp (b : ArpStep)

namespace Threads

/-- One step, up to `usb_close_device`. -/
def step (s : Threads) : ThreadStep → Option Threads
  | .bridge a =>
    if s.bridge.main = .close then none
    else (s.bridge.step a).map fun b => { s with bridge := b }
  | .arp b => (arpStep s.arp b).map fun arp => { s with arp := arp }

/-- One slot of `rx_pool` in `usb_to_tun`: both its pointers are there, or neither. -/
def allocRx (k : Fin numRxXfers) (bufOk xferOk : Bool) : List SessionCall :=
  [.take (.rxBuf k) bufOk, .take (.rxXfer k) xferOk] ++
    if bufOk && xferOk then []
    else
      (if bufOk then [.give (.rxBuf k)] else []) ++ if xferOk then [.give (.rxXfer k)] else []

/-- The calls of `usb_to_tun`. -/
def rxCalls (s : Threads) (handle : List SessionThing) (r : RxRet) : List SessionCall :=
  match s.bridge.rxPc with
  | .alloc k => if hk : k < numRxXfers then allocRx ⟨k, hk⟩ r.bufOk r.xferOk else []
  | .submit k => [.call (.rxXfer k :: .rxBuf k :: handle)]
  | .events | .drainEvents => [.call [.usbCtx]]
  | .cancelRx k =>
    if hk : k < numRxXfers then
      if s.bridge.rxXfer ⟨k, hk⟩ then [.call [.rxXfer ⟨k, hk⟩]] else []
    else []
  | .cancelTx =>
    .call [.txMutex] :: (List.finRange numTxXfers).flatMap fun i =>
      if s.bridge.tx.inUse i && s.txXfer i then [.call [.txXfer i]] else []
  | .freeRx k =>
    if hk : k < numRxXfers then
      if s.bridge.rxXfer ⟨k, hk⟩ then [.give (.rxXfer ⟨k, hk⟩), .give (.rxBuf ⟨k, hk⟩)] else []
    else []
  | _ => []

/-- The calls of `tun_to_usb`. -/
def tunCalls (s : Threads) (handle : List SessionThing) : List SessionCall :=
  match s.bridge.tx.pc with
  | .pollFirst | .pollBatch _ | .read _ => [.call [.tunFd]]
  | .claim _ _ => [.call [.txMutex, .txCond]]
  | .wrap _ _ i => [.call [.driver, .txBuf i]]
  | .submit _ i => [.call (.txXfer i :: .txBuf i :: handle)]
  | .release _ _ => [.call [.txMutex]]
  | _ => []

/-- One slot of `tx_pool` is freed. -/
def freeTx (s : Threads) (i : Fin numTxXfers) : List SessionCall :=
  (if s.txXfer i then [.give (.txXfer i)] else []) ++ if s.txBuf i then [.give (.txBuf i)] else []

/-- The calls of the main thread. -/
def mainCalls (s : Threads) (handle : List SessionThing) : List SessionCall :=
  match s.bridge.main with
  | .keepalive => [.call (.driver :: .driverState :: .usbCtx :: handle)]
  | .signal => [.call [.txMutex, .txCond]]
  | .joinTx => [.give .txThread]
  | .joinRx => [.give .rxThread]
  | .freeTx k => if hk : k < numTxXfers then s.freeTx ⟨k, hk⟩ else []
  | .restore => [.give .txMutex, .give .txCond, .call [.tunFd]]
  | _ => []

/-- The calls of a step.  A transfer that leaves flight has been filled or sent from its buffer. -/
def calls (s : Threads) (handle : List SessionThing) : ThreadStep → List SessionCall
  | .arp b => b.calls handle
  | .bridge a =>
    match a with
    | .rx r => s.rxCalls handle r
    | .tun _ => s.tunCalls handle
    | .main _ => s.mainCalls handle
    | .completeRx k _ => [.call [.rxXfer k, .rxBuf k]]
    | .completeTx i _ => [.call [.txXfer i, .txBuf i]]
    -- the callback reads the status, and may call `libusb_clear_halt`
    | .dispatchRx k _ => [.call (.rxXfer k :: handle)]
    | .dispatchTx i _ => [.call (.txXfer i :: handle)]
    | .rxCallback k _ _ =>
      match s.bridge.rxFlight k with
      | .callback _ .frames => [.call [.driver, .rxXfer k, .rxBuf k, .tunFd]]
      | .callback _ .resubmit => [.call (.rxXfer k :: .rxBuf k :: handle)]
      | _ => []
    | .txCallback i =>
      match s.bridge.tx.flight i with
      | .callback _ .release => [.call [.txMutex, .txCond]]
      | _ => []
    | .signal | .completeArp | .dispatchArp _ | .arpCallback _ => []

/-- What is held, with the device at position `i`. -/
def held (s : Threads) (i : Nat) : Set SessionThing :=
  {r | match r with
    | .driver | .driverState | .usbCtx | .tunFd => True
    | .usbHandle j => i = j
    | .txMutex | .txCond => s.bridge.main.destroyed = false
    | .txXfer k => s.txXfer k = true ∧ s.bridge.main.freedCount ≤ k
    | .txBuf k => s.txBuf k = true ∧ s.bridge.main.freedCount ≤ k
    | .txThread => s.bridge.main.txJoined = false
    | .rxThread => s.bridge.main.joined = false
    | .rxXfer k | .rxBuf k => s.bridge.rxXfer k = true ∧ s.bridge.rxPc.freedCount ≤ k
    | .arpXfer p => s.arp p = .transfer ∨ s.arp p = .submitted
    | .arpBuf p => s.arp p ≠ .idle}

/-- A slot that `tun_to_usb` uses has been allocated, and a slot is freed only when its transfer
    is idle. -/
def ok (s : Threads) : ThreadStep → Bool
  | .arp _ => true
  | .bridge a =>
    s.bridge.freesIdle a &&
      match a with
      | .tun _ => s.bridge.tx.pc.slot.all fun i => s.txXfer i && s.txBuf i
      | _ => true

end Threads

/-! ### What the steps of the bridge leave alone -/

/-- Where another transfer goes on, an idle one stays idle. -/
theorem Flight.update_idle {ι C : Type} [DecidableEq ι] {f : ι → Flight C} {i j : ι}
    {x : Flight C} (hi : f i = .idle) (hj : f j ≠ .idle) : Function.update f j x i = .idle := by
  have hij : i ≠ j := fun hij => hj (hij ▸ hi)
  rw [Function.update_of_ne hij, hi]

namespace Bridge

variable {s t : Bridge} {a : Action}

/-- `usb_to_tun` submits no TX transfer, and the place of the main thread is its own. -/
theorem usbToTun_others {r : RxRet} (hst : s.usbToTun r = some t) :
    t.main = s.main ∧ t.tx.pc = s.tx.pc ∧ ∀ i, s.tx.flight i = .idle → t.tx.flight i = .idle := by
  have hsame (hmain : t.main = s.main) (htx : t.tx = s.tx) :
      t.main = s.main ∧ t.tx.pc = s.tx.pc ∧
        ∀ i, s.tx.flight i = .idle → t.tx.flight i = .idle := by
    rw [htx]
    exact ⟨hmain, rfl, fun _ hi => hi⟩
  unfold usbToTun at hst
  cases hpc : s.rxPc with
  | cancelTx =>
    simp only [hpc, TxPool.step, Option.map_some, Option.some.injEq] at hst
    subst hst
    refine ⟨rfl, rfl, fun i hi => ?_⟩
    simp [hi, Flight.cancel]
  | exited => simp [hpc] at hst
  | alloc | submit | cancelRx | events | drainEvents | drainTime =>
    simp only [hpc] at hst
    split_ifs at hst <;> cases hst <;> exact hsame rfl rfl
  | count | loop | loopRx | lost | lostStop | stop | drainRx | drainTx | freeRx =>
    simp only [hpc, Option.some.injEq] at hst
    subst hst
    exact hsame rfl rfl

/-- What the pool's own steps leave alone: an idle transfer, unless `tun_to_usb` submits it, and
    the place of that thread, unless it is its step. -/
theorem txStep_idle {tx tx' : TxPool} {b : TxPool.Action} (hst : tx.step b = some tx') :
    (∀ i, tx.flight i = .idle → tx'.flight i = .idle ∨ ∃ r batch, b = .tun r ∧
      tx.pc = .submit batch i) ∧ ((∀ r, b ≠ .tun r) → tx'.pc = tx.pc) := by
  cases b with
  | tun r =>
    refine ⟨fun i hi => ?_, fun hr => absurd rfl (hr r)⟩
    simp only [TxPool.step, TxPool.tunToUsb] at hst
    -- only the submit starts a transfer
    cases hpc : tx.pc with
    | submit batch j =>
      simp only [hpc] at hst
      by_cases hij : i = j
      · exact .inr ⟨r, batch, rfl, by rw [hij]⟩
      · split_ifs at hst <;> cases hst
        · exact .inl ((Function.update_of_ne hij _ _).trans hi)
        · exact .inl hi
    | claim =>
      simp only [hpc] at hst
      split_ifs at hst
      · split at hst <;> cases hst <;> exact .inl hi
      · cases hst
        exact .inl hi
    | exited => simp [hpc] at hst
    | read | wrap =>
      simp only [hpc] at hst
      split_ifs at hst <;> cases hst <;> exact .inl hi
    | loopTop | pollFirst | pollBatch | count | release =>
      simp only [hpc, Option.some.injEq] at hst
      subst hst
      exact .inl hi
  | complete j st =>
    simp only [TxPool.step] at hst
    split at hst
    · next hj =>
      cases hst
      have hne : tx.flight j ≠ .idle := fun hidle => by
        rw [hidle] at hj
        cases hj
      exact ⟨fun i hi => .inl (Flight.update_idle hi hne), fun _ => rfl⟩
    · cases hst
  | dispatch j hd =>
    simp only [TxPool.step] at hst
    split at hst
    · next st hj =>
      cases hst
      exact ⟨fun i hi => .inl (Flight.update_idle hi (by simp [hj])), fun _ => rfl⟩
    · cases hst
  | callback j =>
    simp only [TxPool.step, TxPool.txCallback] at hst
    split at hst
    · next hj =>
      cases hst
      exact ⟨fun i hi => .inl (Flight.update_idle hi (by simp [hj])), fun _ => rfl⟩
    · next hj =>
      cases hst
      exact ⟨fun i hi => .inl (Flight.update_idle hi (by simp [hj])), fun _ => rfl⟩
    · next hj =>
      cases hst
      exact ⟨fun i hi => .inl (Flight.update_idle hi (by simp [hj])), fun _ => rfl⟩
    · cases hst
  | cancelTx =>
    cases hst
    refine ⟨fun i hi => .inl ?_, fun _ => rfl⟩
    simp [hi, Flight.cancel]

/-- What a step is for the pools and the threads. -/
inductive Moved (s : Bridge) : Action → Bridge → Prop where
  | rx {r : RxRet} {t : Bridge} : s.usbToTun r = some t → Moved s (.rx r) t
  | tun {r r' : TunRet} {tx : TxPool} : s.tx.step (.tun r') = some tx →
      Moved s (.tun r) { s with tx := tx }
  | main {c : MainChoice} {t : Bridge} : s.mainThread c = some t → Moved s (.main c) t
  /-- a TX transfer or its callback -/
  | pool {a : Action} {b : TxPool.Action} {tx : TxPool} {running disconnected : Bool} :
      (∀ r, b ≠ .tun r) → s.tx.step b = some tx →
      Moved s a { s with tx := tx, running := running, disconnected := disconnected }
  /-- an RX transfer, an ARP reply or a flag -/
  | others {a : Action} {t : Bridge} : t.rxPc = s.rxPc → t.rxXfer = s.rxXfer →
      (∀ k, s.rxFlight k = .idle → t.rxFlight k = .idle) → t.tx = s.tx → t.main = s.main →
      Moved s a t

/-- What a step can do to the session's things. -/
theorem step_moved (hst : s.step a = some t) : Moved s a t := by
  cases a with
  | rx r => exact .rx hst
  | tun r =>
    obtain ⟨tx, htx, rfl⟩ := Option.map_eq_some_iff.mp hst
    exact .tun htx
  | main c => exact .main hst
  | signal =>
    cases hst
    exact .others rfl rfl (fun _ hk => hk) rfl rfl
  | completeRx k st =>
    simp only [step] at hst
    split at hst
    · next hflight =>
      cases hst
      have hne : s.rxFlight k ≠ .idle := fun hidle => by
        rw [hidle] at hflight
        cases hflight
      exact .others rfl rfl (fun _ hj => Flight.update_idle hj hne) rfl rfl
    · cases hst
  | completeTx i st =>
    obtain ⟨tx, htx, rfl⟩ := Option.map_eq_some_iff.mp hst
    exact .pool (by simp) htx
  | completeArp | dispatchArp | arpCallback =>
    simp only [step] at hst
    split at hst <;> cases hst
    exact .others rfl rfl (fun _ hk => hk) rfl rfl
  | dispatchRx k hd =>
    simp only [step] at hst
    split at hst
    · split at hst
      · next st hflight =>
        cases hst
        exact .others rfl rfl (fun _ hj => Flight.update_idle hj (by simp [hflight])) rfl rfl
      · cases hst
    · cases hst
  | dispatchTx i hd =>
    simp only [step] at hst
    split at hst
    · obtain ⟨tx, htx, rfl⟩ := Option.map_eq_some_iff.mp hst
      exact .pool (by simp) htx
    · cases hst
  | rxCallback k arp submitRet =>
    simp only [step, rxCallback] at hst
    split at hst
    · next hd stage hflight =>
      have hne : s.rxFlight k ≠ .idle := by simp [hflight]
      cases stage with
      | frames =>
        simp only at hst
        split at hst <;> cases hst
        · exact .others rfl rfl (fun _ hj => hj) rfl rfl
        · exact .others rfl rfl (fun _ hj => Flight.update_idle hj hne) rfl rfl
      | lost | stop | check | resubmit | uncount =>
        cases hst
        exact .others rfl rfl (fun _ hj => Flight.update_idle hj hne) rfl rfl
    · cases hst
  | txCallback i =>
    obtain ⟨tx, htx, rfl⟩ := Option.map_eq_some_iff.mp hst
    obtain ⟨running, disconnected, hflags, -⟩ := txCallbackFlags_eq i s
    rw [hflags] at htx ⊢
    exact .pool (by simp) htx

/-- A step that is not of `usb_to_tun` leaves its place and what it has allocated, and idle RX
    transfers idle. -/
theorem step_rx (hst : s.step a = some t) (ha : ∀ r, a ≠ .rx r) :
    t.rxPc = s.rxPc ∧ t.rxXfer = s.rxXfer ∧ ∀ k, s.rxFlight k = .idle → t.rxFlight k = .idle := by
  cases step_moved hst with
  | @rx r => exact absurd rfl (ha r)
  | tun | pool => exact ⟨rfl, rfl, fun _ hk => hk⟩
  | main hst =>
    obtain ⟨running, gRunning, main, rfl, -⟩ := mainThread_cases hst
    exact ⟨rfl, rfl, fun _ hk => hk⟩
  | others hpc hxfer hflight => exact ⟨hpc, hxfer, hflight⟩

/-- An idle TX transfer stays so, unless `tun_to_usb` submits it; and the place of that thread is
    its own. -/
theorem step_tx (hst : s.step a = some t) :
    (∀ i, s.tx.flight i = .idle → t.tx.flight i = .idle ∨ ∃ r batch, a = .tun r ∧
      s.tx.pc = .submit batch i) ∧ ((∀ r, a ≠ .tun r) → t.tx.pc = s.tx.pc) := by
  cases step_moved hst with
  | rx hst =>
    obtain ⟨-, hpc, hflight⟩ := usbToTun_others hst
    exact ⟨fun i hi => .inl (hflight i hi), fun _ => hpc⟩
  | @tun r _ tx htx =>
    refine ⟨fun i hi => ?_, fun ha => absurd rfl (ha r)⟩
    rcases (txStep_idle htx).1 i hi with hidle | ⟨_, batch, -, hpc⟩
    · exact .inl hidle
    · exact .inr ⟨r, batch, rfl, hpc⟩
  | main hst =>
    obtain ⟨running, gRunning, main, rfl, -⟩ := mainThread_cases hst
    exact ⟨fun _ hi => .inl hi, fun _ => rfl⟩
  | pool hb htx =>
    refine ⟨fun i hi => ?_, fun _ => (txStep_idle htx).2 hb⟩
    rcases (txStep_idle htx).1 i hi with hidle | ⟨r, batch, hr, -⟩
    · exact .inl hidle
    · exact absurd hr (hb r)
  | others _ _ _ htx =>
    rw [htx]
    exact ⟨fun _ hi => .inl hi, fun _ => rfl⟩

/-- The place of the main thread is its own. -/
theorem step_main (hst : s.step a = some t) (ha : ∀ c, a ≠ .main c) : t.main = s.main := by
  cases step_moved hst with
  | rx hst => exact (usbToTun_others hst).1
  | @main c => exact absurd rfl (ha c)
  | tun | pool => rfl
  | others _ _ _ _ hmain => exact hmain

/-! ### Slots that are allocated, and threads that are joined -/

/-- Set-up has allocated the slots of `rx_pool` up to its place; and a transfer that is not idle
    has been allocated and not freed. -/
structure RxAllocated (s : Bridge) : Prop where
  unallocated : ∀ n, s.rxPc.unallocated = some n → ∀ k : Fin numRxXfers, n ≤ k →
    s.rxXfer k = false
  submit : ∀ k, s.rxPc = .submit k → s.rxXfer k = true
  flight : ∀ k, s.rxFlight k ≠ .idle → s.rxXfer k = true ∧ s.rxPc.freedCount ≤ k

/-- Before set-up no slot has anything. -/
theorem rxAllocated_start : RxAllocated start where
  unallocated _ _ _ _ := rfl
  submit k h := by cases h
  flight k h := absurd rfl h

/-- `usb_to_tun` goes on, and allocates and submits nothing. -/
theorem RxAllocated.goto (h : s.RxAllocated) (hxfer : t.rxXfer = s.rxXfer)
    (hflight : ∀ k, s.rxFlight k = .idle → t.rxFlight k = .idle)
    (hsetUp : ∀ n, t.rxPc.unallocated = some n → ∃ m ≤ n, s.rxPc.unallocated = some m)
    (hsubmit : ∀ k, t.rxPc = .submit k → s.rxPc = .submit k)
    (hfreed : ∀ k, s.rxFlight k ≠ .idle → s.rxPc.freedCount ≤ k → t.rxPc.freedCount ≤ k) :
    t.RxAllocated where
  unallocated n hn k hk := by
    obtain ⟨m, hmn, hm⟩ := hsetUp n hn
    rw [hxfer]
    exact h.unallocated m hm k (hmn.trans hk)
  submit k hk := by
    rw [hxfer]
    exact h.submit k (hsubmit k hk)
  flight k hk := by
    have hne : s.rxFlight k ≠ .idle := fun hidle => hk (hflight k hidle)
    obtain ⟨halloc, hle⟩ := h.flight k hne
    rw [hxfer]
    exact ⟨halloc, hfreed k hne hle⟩

/-- The same, when set-up is over and nothing has been freed. -/
theorem RxAllocated.after (h : s.RxAllocated) (hxfer : t.rxXfer = s.rxXfer)
    (hflight : ∀ k, s.rxFlight k = .idle → t.rxFlight k = .idle)
    (hover : t.rxPc.unallocated = none ∧ t.rxPc.freedCount = 0) : t.RxAllocated := by
  refine h.goto hxfer hflight (fun n hn => ?_) (fun k hk => ?_) fun k _ _ => ?_
  · rw [hover.1] at hn
    cases hn
  · rw [hk] at hover
    cases hover.1
  · rw [hover.2]
    exact Nat.zero_le _

/-- Set-up gets a buffer and a transfer for slot `k`. -/
theorem RxAllocated.allocated (h : s.RxAllocated) {k : Nat} (hpc : s.rxPc = .alloc k)
    (hk : k < numRxXfers) : RxAllocated { s with
      rxXfer := Function.update s.rxXfer ⟨k, hk⟩ true
      rxPc := .submit ⟨k, hk⟩ } where
  unallocated n hn j hj := by
    obtain rfl : k + 1 = n := Option.some.inj hn
    have hne : j ≠ ⟨k, hk⟩ := fun hjk => by
      rw [hjk] at hj
      exact absurd hj (Nat.not_succ_le_self k)
    have hun : s.rxXfer j = false := h.unallocated k (by rw [hpc]; rfl) j (Nat.le_of_succ_le hj)
    exact (Function.update_of_ne hne _ _).trans hun
  submit j hj := by
    obtain rfl : ⟨k, hk⟩ = j := RxPc.submit.inj hj
    exact Function.update_self _ _ _
  flight j hj := by
    refine ⟨?_, Nat.zero_le _⟩
    show Function.update s.rxXfer ⟨k, hk⟩ true j = true
    by_cases hjk : j = ⟨k, hk⟩
    · rw [hjk, Function.update_self]
    · rw [Function.update_of_ne hjk]
      exact (h.flight j hj).1

/-- Set-up submits the transfer it got. -/
theorem RxAllocated.submitted (h : s.RxAllocated) {k : Fin numRxXfers} (hpc : s.rxPc = .submit k) :
    RxAllocated { s with
      rxFlight := Function.update s.rxFlight k (.inFlight false)
      rxPc := .count k } where
  unallocated n hn j hj := by
    obtain rfl : k.val + 1 = n := Option.some.inj hn
    exact h.unallocated (k + 1) (by rw [hpc]; rfl) j hj
  submit := nofun
  flight j hj := by
    refine ⟨?_, Nat.zero_le _⟩
    by_cases hjk : j = k
    · rw [hjk]
      exact h.submit k hpc
    · have hj : Function.update s.rxFlight k (.inFlight false) j ≠ .idle := hj
      rw [Function.update_of_ne hjk] at hj
      exact (h.flight j hj).1

/-- The slot that is freed has an idle transfer: those in flight lie behind it. -/
theorem RxAllocated.freedRx (h : s.RxAllocated) {k : Nat} (hpc : s.rxPc = .freeRx k)
    (hidle : (s.rxPc.freed.all fun j => s.rxFlight j == .idle) = true) :
    RxAllocated { s with rxPc := if k < numRxXfers then .freeRx (k + 1) else .exited } := by
  refine h.goto rfl (fun _ hj => hj) (fun n hn => ?_) (fun j hj => ?_) fun j hj hle => ?_
  · dsimp only at hn
    split at hn <;> cases hn
  · dsimp only at hj
    split at hj <;> cases hj
  · rw [hpc] at hidle hle
    have hle : k ≤ j := hle
    have hk : k < numRxXfers := Nat.lt_of_le_of_lt hle j.isLt
    have hjk : k ≠ j := by
      rintro rfl
      exact hj (by simpa [RxPc.freed] using hidle)
    simp only [if_pos hk]
    exact Nat.lt_of_le_of_ne hle hjk

/-- A request to cancel reaches transfers in flight only. -/
theorem RxAllocated.cancelledRx (h : s.RxAllocated) {k : Nat} (hk : k < numRxXfers) :
    RxAllocated { s with
      rxFlight :=
        if s.rxXfer ⟨k, hk⟩ then Function.update s.rxFlight ⟨k, hk⟩ (s.rxFlight ⟨k, hk⟩).cancel
        else s.rxFlight
      rxPc := .cancelRx (k + 1) } := by
  refine h.after rfl (fun j hj => ?_) ⟨rfl, rfl⟩
  dsimp only
  split
  · by_cases hjk : j = ⟨k, hk⟩
    · rw [hjk, Function.update_self, ← hjk, hj]
      rfl
    · rw [Function.update_of_ne hjk, hj]
  · exact hj

/-- `usb_to_tun`, when it frees slots with idle transfers only. -/
theorem RxAllocated.usbToTun (h : s.RxAllocated) {r : RxRet} (hidle : s.freesIdle (.rx r) = true)
    (hst : s.usbToTun r = some t) : t.RxAllocated := by
  unfold Bridge.usbToTun at hst
  cases hpc : s.rxPc with
  | alloc k =>
    simp only [hpc] at hst
    split at hst
    · next hk =>
      split at hst <;> cases hst
      · exact h.allocated hpc hk
      · -- nothing is kept for this slot
        exact h.goto rfl (fun _ hj => hj)
          (fun n hn => ⟨k, Nat.le_of_succ_le (Option.some.inj hn).le, by rw [hpc]; rfl⟩)
          (fun j hj => by cases hj) fun j _ _ => Nat.zero_le _
    · cases hst
      exact h.after rfl (fun _ hj => hj) ⟨rfl, rfl⟩
  | submit k =>
    simp only [hpc] at hst
    split at hst <;> cases hst
    · exact h.submitted hpc
    · exact h.goto rfl (fun _ hj => hj)
        (fun n hn => ⟨k + 1, (Option.some.inj hn).le, by rw [hpc]; rfl⟩)
        (fun j hj => by cases hj) fun j _ _ => Nat.zero_le _
  | count k =>
    simp only [hpc, Option.some.injEq] at hst
    subst hst
    exact h.goto rfl (fun _ hj => hj)
      (fun n hn => ⟨k + 1, (Option.some.inj hn).le, by rw [hpc]; rfl⟩)
      (fun j hj => by cases hj) fun j _ _ => Nat.zero_le _
  | freeRx k =>
    simp only [hpc, Option.some.injEq] at hst
    subst hst
    exact h.freedRx hpc hidle
  | exited => simp [hpc] at hst
  | cancelRx k =>
    simp only [hpc] at hst
    split at hst <;> cases hst
    · exact h.cancelledRx _
    · exact h.after rfl (fun _ hj => hj) ⟨rfl, rfl⟩
  -- from here on set-up is over, and nothing has been freed
  | cancelTx =>
    simp only [hpc] at hst
    obtain ⟨tx, -, rfl⟩ := Option.map_eq_some_iff.mp hst
    exact h.after rfl (fun _ hj => hj) ⟨rfl, rfl⟩
  | drainEvents =>
    simp only [hpc] at hst
    split at hst <;> cases hst
    exact h.after rfl (fun _ hj => hj) ⟨rfl, rfl⟩
  | drainTime =>
    simp only [hpc] at hst
    split_ifs at hst <;> cases hst <;> exact h.after rfl (fun _ hj => hj) ⟨rfl, rfl⟩
  | events =>
    simp only [hpc] at hst
    split at hst <;> cases hst
    refine h.after rfl (fun _ hj => hj) ?_
    dsimp only
    split <;> exact ⟨rfl, rfl⟩
  | lost | lostStop | stop =>
    simp only [hpc, Option.some.injEq] at hst
    subst hst
    exact h.after rfl (fun _ hj => hj) ⟨rfl, rfl⟩
  | loop | loopRx | drainRx | drainTx =>
    simp only [hpc, Option.some.injEq] at hst
    subst hst
    refine h.after rfl (fun _ hj => hj) ?_
    dsimp only
    split <;> exact ⟨rfl, rfl⟩

/-- **Any step** that frees slots with idle transfers only. -/
theorem RxAllocated.step (h : s.RxAllocated) (hidle : s.freesIdle a = true)
    (hst : s.step a = some t) : t.RxAllocated := by
  by_cases ha : ∃ r, a = .rx r
  · obtain ⟨r, rfl⟩ := ha
    exact h.usbToTun hidle hst
  · obtain ⟨hpc, hxfer, hflight⟩ := step_rx hst fun r hr => ha ⟨r, hr⟩
    exact h.goto hxfer hflight (fun n hn => ⟨n, le_rfl, hpc ▸ hn⟩) (fun k hk => hpc ▸ hk)
      fun k _ hle => hpc ▸ hle

/-- Past the joins the two threads have returned. -/
structure Joins (s : Bridge) : Prop where
  tx : s.main.txJoined = true → s.tx.pc = .exited
  rx : s.main.joined = true → s.rxPc = .exited

/-- No thread has been joined. -/
theorem joins_start : Joins start where
  tx h := by cases h
  rx h := by cases h

/-- The main thread waits for both. -/
theorem Joins.mainThread (h : s.Joins) {c : MainChoice} (hst : s.mainThread c = some t) :
    t.Joins := by
  unfold Bridge.mainThread at hst
  cases hmain : s.main with
  | joinTx =>
    simp only [hmain] at hst
    split at hst <;> cases hst
    next hexited => exact ⟨fun _ => hexited, fun hrx => by cases hrx⟩
  | joinRx =>
    simp only [hmain] at hst
    split at hst <;> cases hst
    next hexited => exact ⟨fun _ => h.tx (by rw [hmain]; rfl), fun _ => hexited⟩
  -- behind the joins
  | freeTx | restore | close =>
    simp only [hmain, Option.some.injEq] at hst
    subst hst
    exact ⟨fun _ => h.tx (by rw [hmain]; rfl), fun _ => h.rx (by rw [hmain]; rfl)⟩
  | closed => simp [hmain] at hst
  -- before them
  | head =>
    simp only [hmain, Option.some.injEq] at hst
    subst hst
    refine ⟨fun hjoined => ?_, fun hjoined => ?_⟩ <;>
      · dsimp only at hjoined
        split at hjoined <;> cases hjoined
  | due | body =>
    simp only [hmain] at hst
    split at hst <;> cases hst <;> exact ⟨nofun, nofun⟩
  | keepalive =>
    simp only [hmain] at hst
    split at hst <;> cases hst
    exact ⟨nofun, nofun⟩
  | stop | signal =>
    simp only [hmain, Option.some.injEq] at hst
    subst hst
    exact ⟨nofun, nofun⟩

/-- Threads are joined in order. -/
theorem Joins.step (h : s.Joins) (hst : s.step a = some t) : t.Joins := by
  by_cases ha : ∃ c, a = .main c
  · obtain ⟨c, rfl⟩ := ha
    exact h.mainThread hst
  have hmain := step_main hst fun c hc => ha ⟨c, hc⟩
  constructor
  · intro hjoined
    have hexited := h.tx (hmain ▸ hjoined)
    by_cases htun : ∃ r, a = .tun r
    · -- the thread has returned
      obtain ⟨r, rfl⟩ := htun
      obtain ⟨tx, htx, -⟩ := Option.map_eq_some_iff.mp hst
      simp [TxPool.step, TxPool.tunToUsb, hexited] at htx
    · rw [(step_tx hst).2 fun r hr => htun ⟨r, hr⟩, hexited]
  · intro hjoined
    have hexited := h.rx (hmain ▸ hjoined)
    by_cases hrx : ∃ r, a = .rx r
    · obtain ⟨r, rfl⟩ := hrx
      have hst : s.usbToTun r = some t := hst
      simp [Bridge.usbToTun, hexited] at hst
    · rw [(step_rx hst fun r hr => hrx ⟨r, hr⟩).1, hexited]

/-- The main thread frees slots whose transfers are idle. -/
theorem mainThread_freedCount {c : MainChoice} (hidle : s.freesIdle (.main c) = true)
    (hst : s.mainThread c = some t) (i : Fin numTxXfers) (hi : s.tx.flight i ≠ .idle)
    (hle : s.main.freedCount ≤ i) : t.main.freedCount ≤ i := by
  have hidle : (s.main.freed.all fun i => s.tx.flight i == .idle) = true := hidle
  unfold Bridge.mainThread at hst
  cases hmain : s.main with
  | freeTx k =>
    rw [hmain] at hle hidle
    simp only [hmain, Option.some.injEq] at hst
    subst hst
    have hle : k ≤ i := hle
    have hk : k < numTxXfers := Nat.lt_of_le_of_lt hle i.isLt
    have hki : k ≠ i := by
      rintro rfl
      exact hi (by simpa [MainPc.freed] using hidle)
    simp only [if_pos hk]
    exact Nat.lt_of_le_of_ne hle hki
  | restore | close =>
    -- all slots have been freed
    rw [hmain] at hle
    exact absurd hle (Nat.not_le_of_lt i.isLt)
  | closed => simp [hmain] at hst
  | joinTx | joinRx | keepalive =>
    simp only [hmain] at hst
    split at hst <;> cases hst
    exact Nat.zero_le _
  | due | body =>
    simp only [hmain] at hst
    split at hst <;> cases hst <;> exact Nat.zero_le _
  | head =>
    simp only [hmain, Option.some.injEq] at hst
    subst hst
    dsimp only
    split <;> exact Nat.zero_le _
  | stop | signal =>
    simp only [hmain, Option.some.injEq] at hst
    subst hst
    exact Nat.zero_le _

end Bridge

namespace MainPc

variable {pc : MainPc}

/-- Before the joins nothing of `tx_pool` has been freed, and the mutex is there. -/
theorem of_not_joined (h : pc.joined = false) : pc.freedCount = 0 ∧ pc.destroyed = false := by
  cases pc <;> first | exact ⟨rfl, rfl⟩ | cases h

/-- The second join comes after the first. -/
theorem joined_of_not_txJoined (h : pc.txJoined = false) : pc.joined = false := by
  cases pc <;> first | rfl | cases h

end MainPc

namespace Threads

variable {s t : Threads} {a : ThreadStep} {i : Nat}

/-- What every step keeps that meets `ok`. -/
structure Inv (s : Threads) : Prop where
  rx : s.bridge.RxAllocated
  joins : s.bridge.Joins
  /-- a TX transfer that is not idle has been allocated and not freed -/
  tx : ∀ i, s.bridge.tx.flight i ≠ .idle →
    s.txXfer i = true ∧ s.txBuf i = true ∧ s.bridge.main.freedCount ≤ i

/-- While one of the threads runs, nothing of `tx_pool` has been freed, and the mutex is there. -/
theorem Inv.of_running (h : s.Inv)
    (hpc : s.bridge.tx.pc ≠ .exited ∨ s.bridge.rxPc ≠ .exited) :
    s.bridge.main.freedCount = 0 ∧ s.bridge.main.destroyed = false := by
  apply MainPc.of_not_joined
  rcases hpc with hpc | hpc
  · apply MainPc.joined_of_not_txJoined
    rw [← Bool.not_eq_true]
    exact fun hjoined => hpc (h.joins.tx hjoined)
  · rw [← Bool.not_eq_true]
    exact fun hjoined => hpc (h.joins.rx hjoined)

/-- The slot that `tun_to_usb` uses. -/
theorem ok_slot {r : TunRet} {j : Fin numTxXfers} (hok : s.ok (.bridge (.tun r)) = true)
    (hslot : s.bridge.tx.pc.slot = some j) : s.txXfer j = true ∧ s.txBuf j = true := by
  simpa [ok, hslot, Bridge.freesIdle] using hok

/-- A step that is in order keeps the invariant. -/
theorem Inv.step (h : s.Inv) (hok : s.ok a = true) (hst : s.step a = some t) : t.Inv := by
  cases a with
  | arp b =>
    obtain ⟨arp, -, rfl⟩ := Option.map_eq_some_iff.mp hst
    exact ⟨h.rx, h.joins, h.tx⟩
  | bridge a =>
    have hidle : s.bridge.freesIdle a = true := (Bool.and_eq_true_iff.mp hok).1
    simp only [Threads.step] at hst
    split at hst
    · cases hst
    obtain ⟨b, hb, rfl⟩ := Option.map_eq_some_iff.mp hst
    refine ⟨h.rx.step hidle hb, h.joins.step hb, fun j hj => ?_⟩
    by_cases hsubmitted : s.bridge.tx.flight j = .idle
    · -- it has just been submitted
      rcases (Bridge.step_tx hb).1 j hsubmitted with hsame | ⟨r, batch, rfl, hpc⟩
      · exact absurd hsame hj
      obtain ⟨hxfer, hbuf⟩ := ok_slot hok (show s.bridge.tx.pc.slot = some j by rw [hpc]; rfl)
      have hmain : b.main = s.bridge.main := Bridge.step_main hb (by simp)
      have hzero := (h.of_running (.inl (by simp [hpc]))).1
      exact ⟨hxfer, hbuf, by rw [hmain, hzero]; exact Nat.zero_le _⟩
    · obtain ⟨hxfer, hbuf, hle⟩ := h.tx j hsubmitted
      refine ⟨hxfer, hbuf, ?_⟩
      by_cases hmain : ∃ c, a = .main c
      · obtain ⟨c, rfl⟩ := hmain
        exact Bridge.mainThread_freedCount hidle hb j hsubmitted hle
      · rw [Bridge.step_main hb fun c hc => hmain ⟨c, hc⟩]
        exact hle

end Threads

/-! ### Calls -/

section Calls

variable {S T : Set SessionThing} {r r' : SessionThing}

end Calls

namespace Threads

variable {s t : Threads} {a : ThreadStep} {i : Nat} {S : Set SessionThing}

/-- The threads are created, with what was allocated for `tx_pool`. -/
def start (txXfer txBuf : Fin numTxXfers → Bool) (arp : Nat → ArpStage) : Threads where
  bridge := .start
  txXfer := txXfer
  txBuf := txBuf
  arp := arp

/-- The invariant when the threads start. -/
theorem inv_start (txXfer txBuf : Fin numTxXfers → Bool) (arp : Nat → ArpStage) :
    (start txXfer txBuf arp).Inv where
  rx := Bridge.rxAllocated_start
  joins := Bridge.joins_start
  tx _ h := absurd rfl h

/-- The calls of a run. -/
def log (handle : List SessionThing) (l : List (Threads × ThreadStep)) : List SessionCall :=
  l.reverse.flatMap fun p => p.1.calls handle p.2

end Threads

end AndroidTether
