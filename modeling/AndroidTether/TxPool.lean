import AndroidTether.Lib.Tally
import AndroidTether.Lib.Trans
import Mathlib.Data.List.FinRange

namespace AndroidTether

open Tally Trans

/-!
# The pool of TX transfers

`tun_to_usb` of `main.c` sends packets over a pool of 64 asynchronous USB transfers.  A slot of
the pool is taken under `tx_mutex`, filled and submitted outside it, and given back under it by
`tx_complete`, or by the thread itself where it did not submit.  Each critical section, submit,
completion and cancel is one step.

* `Flight` — what libusb holds of a transfer;
* `TxPool.step` — one step of `tun_to_usb`, of a transfer, of its callback, or the cancel pass
  of `usb_to_tun`;
* `TxPool.Inv` — who owns a slot, and the order of the packets; `inv_step` keeps it;
* `txPool_safe` — no slot is used while it is in flight, none leaks, and packets are submitted
  in the order they were read.
-/

/-- `NUM_TX_XFERS` -/
def numTxXfers : Nat := 64

/-! ### Transfers -/

/-- `enum libusb_transfer_status` -/
inductive XferStatus where
  | completed
  | error
  | timedOut
  | cancelled
  | stall
  | noDevice
  | overflow
  deriving DecidableEq, Repr

/-- The threads that handle USB events, and so run callbacks: `usb_to_tun` in its loops, and
    the main thread in the control transfers of a keepalive. -/
inductive Handler where
  | usbToTun
  | keepalive
  deriving DecidableEq, Repr

/-- What libusb holds of a transfer; `C` says how far a callback has come. -/
inductive Flight (C : Type) where
  | idle
  /-- submitted, and whether a cancel was requested -/
  | inFlight (cancelled : Bool)
  /-- no longer in flight, the callback still to come -/
  | completed (st : XferStatus)
  /-- the callback runs on a thread -/
  | callback (h : Handler) (c : C)
  deriving DecidableEq, Repr

namespace Flight

variable {C : Type}

def isInFlight : Flight C → Bool
  | inFlight _ => true
  | _ => false

/-- Submitted, and the callback has not returned. -/
def outstanding : Flight C → Bool
  | idle => false
  | _ => true

/-- The callback runs on thread `h`. -/
def runsOn (h : Handler) : Flight C → Bool
  | callback h' _ => h' == h
  | _ => false

/-- A cancel was requested, and the callback that reports it has not begun. -/
def cancelPending : Flight C → Bool
  | inFlight cancelled => cancelled
  | completed st => st == .cancelled
  | _ => false

/-- `libusb_cancel_transfer`, which finds nothing to cancel unless the transfer is in flight. -/
def cancel : Flight C → Flight C
  | inFlight _ => inFlight true
  | f => f

@[simp] theorem outstanding_eq_false {f : Flight C} : f.outstanding = false ↔ f = idle := by
  cases f <;> simp [outstanding]

@[simp] theorem outstanding_eq_true {f : Flight C} : f.outstanding = true ↔ f ≠ idle := by
  cases f <;> simp [outstanding]

/-- A request to cancel does not bring a transfer back. -/
@[simp] theorem outstanding_cancel (f : Flight C) : f.cancel.outstanding = f.outstanding := by
  cases f <;> rfl

/-- It leaves an idle transfer idle. -/
@[simp] theorem cancel_eq_idle {f : Flight C} : f.cancel = idle ↔ f = idle := by
  cases f <;> simp [cancel]

end Flight

/-! ### `tun_to_usb` and `tx_complete` -/

/-- What `tx_complete` does next. -/
inductive TxStage where
  /-- `atomic_store(&ctx->disconnected, 1)`, then `atomic_store(&ctx->running, 0)` -/
  | lost
  | stop
  /-- the critical section -/
  | release
  deriving DecidableEq, Repr

/-- `tx_complete`, entered with a status. -/
def txComplete (st : XferStatus) : TxStage := if st = .noDevice then .lost else .release

/-- What `tun_to_usb` does next, with `batch` and the number of the packet at hand. -/
inductive TunPc where
  /-- `while (atomic_load(&ctx->running) && g_running)` -/
  | loopTop
  /-- the two calls of `poll` -/
  | pollFirst
  | pollBatch (batch : Nat)
  /-- `utun_read`, `frame_ip_to_eth` -/
  | read (batch : Nat)
  /-- the critical section that looks for a free slot -/
  | claim (p batch : Nat)
  /-- `wrap_frame` into the slot's buffer -/
  | wrap (p batch : Nat) (i : Fin numTxXfers)
  /-- `libusb_submit_transfer` -/
  | submit (batch : Nat) (i : Fin numTxXfers)
  /-- `atomic_fetch_add(&ctx->active_tx, 1)` -/
  | count (batch : Nat)
  /-- the critical section after a failed wrap or submit -/
  | release (batch : Nat) (i : Fin numTxXfers)
  | exited
  deriving DecidableEq, Repr

/-- The slot claimed and neither submitted nor given back. -/
def TunPc.slot : TunPc → Option (Fin numTxXfers)
  | wrap _ _ i => some i
  | submit _ i => some i
  | release _ i => some i
  | _ => none

/-- Submitted, not yet counted. -/
def TunPc.counting : TunPc → Bool
  | count _ => true
  | _ => false

/-- What the calls of `tun_to_usb` return; each step looks at its own. -/
structure TunRet where
  /-- `atomic_load(&ctx->running) && g_running` -/
  live : Bool
  /-- `poll`: the utun has a packet -/
  readable : Bool
  /-- `utun_read`, `frame_ip_to_eth`, `wrap_frame`, `libusb_submit_transfer` -/
  tlen : Int
  elen : Int
  rlen : Int
  submitRet : Int

/-- The pool, with `tun_to_usb` and the transfers in it.  Packets are numbered in the order
    they were read. -/
structure TxPool where
  pc : TunPc
  inUse : Fin numTxXfers → Bool
  flight : Fin numTxXfers → Flight TxStage
  /-- the packet whose frame a slot's buffer holds -/
  buf : Fin numTxXfers → Option Nat
  /-- `active_tx` -/
  activeTx : Int
  /-- how many packets were read -/
  reads : Nat
  /-- the packets submitted, the latest first -/
  submitted : List Nat

/-- The pool when the threads start. -/
def TxPool.start : TxPool where
  pc := .loopTop
  inUse := fun _ => false
  flight := fun _ => .idle
  buf := fun _ => none
  activeTx := 0
  reads := 0
  submitted := []

/-- The next round of `for (int batch = 0; batch < 64; batch++)`. -/
def nextBatch (batch : Nat) : TunPc := if batch + 1 < 64 then .pollBatch (batch + 1) else .loopTop

namespace TxPool

/-- The first slot with `in_use == 0`. -/
def firstFree (s : TxPool) : Option (Fin numTxXfers) :=
  (List.finRange numTxXfers).find? fun i => !s.inUse i

/-- One step of `tun_to_usb`. -/
def tunToUsb (r : TunRet) (s : TxPool) : Option TxPool :=
  match s.pc with
  | .loopTop => some { s with pc := if r.live then .pollFirst else .exited }
  | .pollFirst => some { s with pc := if r.readable then .read 0 else .loopTop }
  | .pollBatch b => some { s with pc := if r.readable then .read b else .loopTop }
  | .read b =>
    if r.tlen ≤ 0 then some { s with pc := .loopTop }
    else
      some { s with
        reads := s.reads + 1
        pc := if r.elen > 0 then .claim s.reads b else nextBatch b }
  | .claim p b =>
    if r.live then
      match s.firstFree with
      | some i => some { s with inUse := Function.update s.inUse i true, pc := .wrap p b i }
      -- no free slot: the timed wait, and the next look
      | none => some s
    else some { s with pc := .loopTop }
  | .wrap p b i =>
    if r.rlen > 0 then
      some { s with buf := Function.update s.buf i (some p), pc := .submit b i }
    else some { s with pc := .release b i }
  | .submit b i =>
    if r.submitRet = 0 then
      some { s with
        flight := Function.update s.flight i (.inFlight false)
        submitted := (s.buf i).toList ++ s.submitted
        pc := .count b }
    else some { s with pc := .release b i }
  | .count b => some { s with activeTx := s.activeTx + 1, pc := nextBatch b }
  | .release b i => some { s with inUse := Function.update s.inUse i false, pc := nextBatch b }
  | .exited => none

/-- One step of the `tx_complete` that runs for slot `i`. -/
def txCallback (i : Fin numTxXfers) (s : TxPool) : Option TxPool :=
  match s.flight i with
  | .callback h .lost => some { s with flight := Function.update s.flight i (.callback h .stop) }
  | .callback h .stop => some { s with flight := Function.update s.flight i (.callback h .release) }
  | .callback _ .release =>
    some { s with
      inUse := Function.update s.inUse i false
      flight := Function.update s.flight i .idle
      activeTx := s.activeTx - 1 }
  | _ => none

/-- What can happen to the pool. -/
inductive Action where
  /-- `tun_to_usb` takes a step -/
  | tun (r : TunRet)
  /-- a transfer leaves flight -/
  | complete (i : Fin numTxXfers) (st : XferStatus)
  /-- a thread enters `tx_complete` -/
  | dispatch (i : Fin numTxXfers) (h : Handler)
  /-- `tx_complete` takes a step -/
  | callback (i : Fin numTxXfers)
  /-- the critical section of `usb_to_tun` that cancels what is in use -/
  | cancelTx

/-- One step. -/
def step (s : TxPool) : Action → Option TxPool
  | .tun r => s.tunToUsb r
  | .complete i st =>
    if (s.flight i).isInFlight then
      some { s with flight := Function.update s.flight i (.completed st) }
    else none
  | .dispatch i h =>
    match s.flight i with
    | .completed st =>
      some { s with flight := Function.update s.flight i (.callback h (txComplete st)) }
    | _ => none
  | .callback i => s.txCallback i
  | .cancelTx =>
    some { s with flight := fun i => if s.inUse i then (s.flight i).cancel else s.flight i }

/-! ### Slots and packets -/

/-- The packet `tun_to_usb` carries; once it is wrapped, what the slot's buffer holds. -/
def current (s : TxPool) : Option Nat :=
  match s.pc with
  | .claim p _ => some p
  | .wrap p _ _ => some p
  | .submit _ i => s.buf i
  | _ => none

/-- What every step keeps. -/
structure Inv (s : TxPool) : Prop where
  /-- a transfer is idle exactly when its slot is free or held by `tun_to_usb` -/
  idle_iff : ∀ i, s.flight i = .idle ↔ s.inUse i = false ∨ s.pc.slot = some i
  /-- the slot that is held is in use -/
  held : ∀ i, s.pc.slot = some i → s.inUse i = true
  /-- `active_tx` counts what is submitted, with a delay -/
  active : s.activeTx + s.pc.counting.toNat = tally Flight.outstanding s.flight
  /-- the packet at hand comes after those submitted -/
  current_lt : ∀ p, s.current = some p → p < s.reads ∧ ∀ q ∈ s.submitted, q < p
  submitted_lt : ∀ q ∈ s.submitted, q < s.reads
  sorted : s.submitted.Pairwise (· > ·)

variable {s t : TxPool}

/-- Nothing is in use. -/
theorem inv_start : Inv start where
  idle_iff i := by simp [start]
  held i h := by simp [start, TunPc.slot] at h
  active := by
    have h : tally Flight.outstanding start.flight = 0 := tally_eq_zero.mpr fun _ => rfl
    rw [h]
    rfl
  current_lt p h := by simp [start, current] at h
  submitted_lt q hq := by simp [start] at hq
  sorted := List.Pairwise.nil

@[simp] theorem nextBatch_slot (b : Nat) : (nextBatch b).slot = none := by
  unfold nextBatch
  split <;> rfl

@[simp] theorem nextBatch_counting (b : Nat) : (nextBatch b).counting = false := by
  unfold nextBatch
  split <;> rfl

/-- Between two packets the thread carries none. -/
theorem current_nextBatch {b : Nat} (h : s.pc = nextBatch b) : s.current = none := by
  unfold nextBatch at h
  unfold current
  split at h <;> rw [h]

/-- Going on with the same slot, and without a packet. -/
theorem Inv.goto (h : Inv s) {pc pc' : TunPc} (hpc : s.pc = pc) (hslot : pc'.slot = pc.slot)
    (hcount : pc'.counting = pc.counting) (hcur : current { s with pc := pc' } = none) :
    Inv { s with pc := pc' } where
  idle_iff i := by
    rw [h.idle_iff i, hpc, ← hslot]
  held i hi := h.held i (by rw [hpc, ← hslot]; exact hi)
  active := by
    rw [hcount, ← hpc]
    exact h.active
  current_lt p hp := by
    rw [hcur] at hp
    cases hp
  submitted_lt := h.submitted_lt
  sorted := h.sorted

/-- A transfer that is submitted stays submitted, for `Inv`, until its callback returns. -/
theorem Inv.setFlight (h : Inv s) {i : Fin numTxXfers} {f : Flight TxStage}
    (hi : s.flight i ≠ .idle) (hf : f ≠ .idle) :
    Inv { s with flight := Function.update s.flight i f } where
  idle_iff j := by
    rw [← h.idle_iff j]
    show Function.update s.flight i f j = .idle ↔ s.flight j = .idle
    by_cases hj : j = i
    · subst hj
      rw [Function.update_self]
      exact ⟨fun hidle => absurd hidle hf, fun hidle => absurd hidle hi⟩
    · rw [Function.update_of_ne hj]
  held := h.held
  active := by
    have hcount := tally_update (p := Flight.outstanding) (f := s.flight) i f
    rw [Flight.outstanding_eq_true.mpr hi, Flight.outstanding_eq_true.mpr hf] at hcount
    have := h.active
    simp only
    omega
  current_lt := h.current_lt
  submitted_lt := h.submitted_lt
  sorted := h.sorted

/-- The slot that is found is free. -/
theorem firstFree_eq_some {i : Fin numTxXfers} (h : s.firstFree = some i) :
    s.inUse i = false := by
  have := List.find?_some h
  simpa using this

/-- A packet read is newer than all that were submitted. -/
theorem inv_read (h : Inv s) {b : Nat} (hpc : s.pc = .read b) (framed : Bool) :
    Inv { s with
      reads := s.reads + 1
      pc := if framed then .claim s.reads b else nextBatch b } where
  idle_iff j := by
    rw [h.idle_iff j, hpc]
    cases framed
    · simp only [Bool.false_eq_true, if_false, nextBatch_slot]
      rfl
    · rfl
  held j hj := by
    cases framed
    · simp only [Bool.false_eq_true, if_false, nextBatch_slot] at hj
      cases hj
    · cases hj
  active := by
    have hactive := h.active
    rw [hpc] at hactive
    cases framed
    · simp only [Bool.false_eq_true, if_false, nextBatch_counting]
      exact hactive
    · exact hactive
  current_lt q hq := by
    cases framed with
    | false =>
      -- `frame_ip_to_eth` made no frame: the packet is dropped
      rw [current_nextBatch rfl] at hq
      cases hq
    | true =>
      obtain rfl : s.reads = q := Option.some.inj hq
      exact ⟨Nat.lt_succ_self _, h.submitted_lt⟩
  submitted_lt q hq := Nat.lt_succ_of_lt (h.submitted_lt q hq)
  sorted := h.sorted

/-- Wrapping fills the buffer of the slot that was claimed. -/
theorem inv_wrap (h : Inv s) {p b : Nat} {i : Fin numTxXfers} (hpc : s.pc = .wrap p b i) :
    Inv { s with buf := Function.update s.buf i (some p), pc := .submit b i } where
  idle_iff j := by
    rw [h.idle_iff j, hpc]
    rfl
  held j hj := h.held j (by rw [hpc]; exact hj)
  active := by
    have hactive := h.active
    rw [hpc] at hactive
    exact hactive
  current_lt q hq := by
    have hbuf : Function.update s.buf i (some p) i = some q := hq
    rw [Function.update_self] at hbuf
    exact h.current_lt q (by rw [current, hpc]; exact hbuf)
  submitted_lt := h.submitted_lt
  sorted := h.sorted

/-- Counting a transfer that was submitted ends its packet. -/
theorem inv_count (h : Inv s) {b : Nat} (hpc : s.pc = .count b) :
    Inv { s with activeTx := s.activeTx + 1, pc := nextBatch b } where
  idle_iff j := by
    rw [h.idle_iff j, hpc, nextBatch_slot]
    rfl
  held j hj := by simp at hj
  active := by
    have hactive := h.active
    rw [hpc] at hactive
    rw [nextBatch_counting]
    simp only [TunPc.counting, Bool.toNat_true, Bool.toNat_false] at *
    omega
  current_lt q hq := by
    rw [current_nextBatch rfl] at hq
    cases hq
  submitted_lt := h.submitted_lt
  sorted := h.sorted

/-- Under `tx_mutex` a free slot is taken. -/
theorem inv_claim (h : Inv s) {p b : Nat} {i : Fin numTxXfers} (hpc : s.pc = .claim p b)
    (hfree : s.inUse i = false) :
    Inv { s with inUse := Function.update s.inUse i true, pc := .wrap p b i } where
  idle_iff j := by
    rw [h.idle_iff j, hpc]
    -- slot `i` was free and is held now; the others are as they were
    by_cases hj : j = i
    · subst hj
      simp [hfree, TunPc.slot]
    · have hij : ¬ i = j := fun hij => hj hij.symm
      simp [Function.update_of_ne hj, TunPc.slot, hij]
  held j hj := by
    obtain rfl : i = j := Option.some.inj hj
    exact Function.update_self ..
  active := by
    have := h.active
    rw [hpc] at this
    exact this
  current_lt q hq := h.current_lt q (by simpa [current, hpc] using hq)
  submitted_lt := h.submitted_lt
  sorted := h.sorted

/-- A submit gives the slot to libusb. -/
theorem inv_submit (h : Inv s) {b : Nat} {i : Fin numTxXfers} (hpc : s.pc = .submit b i) :
    Inv { s with
      flight := Function.update s.flight i (.inFlight false)
      submitted := (s.buf i).toList ++ s.submitted
      pc := .count b } where
  idle_iff j := by
    -- the slot goes from the thread to libusb
    by_cases hj : j = i
    · subst hj
      simp [TunPc.slot, h.held j (by rw [hpc]; rfl)]
    · have hij : ¬ i = j := fun hij => hj hij.symm
      simp only [Function.update_of_ne hj]
      rw [h.idle_iff j, hpc]
      simp [TunPc.slot, hij]
  held j hj := by cases hj
  active := by
    -- one more is outstanding, and `active_tx` lags behind by it
    have hidle : s.flight i = .idle := (h.idle_iff i).mpr (.inr (by rw [hpc]; rfl))
    have hcount := tally_update (p := Flight.outstanding) (f := s.flight) i (.inFlight false)
    rw [hidle] at hcount
    have hactive := h.active
    rw [hpc] at hactive
    simp only [TunPc.counting, Flight.outstanding, Bool.toNat_true, Bool.toNat_false] at *
    omega
  current_lt q hq := by cases hq
  submitted_lt q hq := by
    rcases List.mem_append.mp hq with hq | hq
    · exact (h.current_lt q (by simpa [current, hpc] using hq)).1
    · exact h.submitted_lt q hq
  sorted := by
    cases hbuf : s.buf i with
    | none => exact h.sorted
    | some p =>
      -- the buffer still holds the packet that was wrapped, the newest so far
      have hlt := (h.current_lt p (by simp [current, hpc, hbuf])).2
      exact List.pairwise_cons.mpr ⟨hlt, h.sorted⟩

/-- A slot whose submit failed is given back. -/
theorem inv_release (h : Inv s) {b : Nat} {i : Fin numTxXfers} (hpc : s.pc = .release b i) :
    Inv { s with inUse := Function.update s.inUse i false, pc := nextBatch b } where
  idle_iff j := by
    have hslot : s.pc.slot = some i := by rw [hpc]; rfl
    rw [h.idle_iff j, hslot, nextBatch_slot]
    by_cases hj : j = i
    · subst hj
      simp
    · have hij : ¬ i = j := fun hij => hj hij.symm
      simp [Function.update_of_ne hj, hij]
  held j hj := by simp at hj
  active := by
    have hactive := h.active
    rw [hpc] at hactive
    rw [nextBatch_counting]
    exact hactive
  current_lt q hq := by
    rw [current_nextBatch rfl] at hq
    cases hq
  submitted_lt := h.submitted_lt
  sorted := h.sorted

/-- The step of `tun_to_usb`, one place after the other. -/
theorem inv_tunToUsb (h : Inv s) {r : TunRet} (hst : s.tunToUsb r = some t) : Inv t := by
  unfold tunToUsb at hst
  cases hpc : s.pc with
  | loopTop | pollFirst | pollBatch =>
    rw [hpc] at hst
    cases hst
    apply h.goto hpc <;> split <;> rfl
  | read b =>
    simp only [hpc] at hst
    split at hst
    · cases hst
      exact h.goto hpc rfl rfl rfl
    · cases hst
      simpa using inv_read h hpc (decide (r.elen > 0))
  | claim p b =>
    simp only [hpc] at hst
    split at hst
    · split at hst
      · next i hi =>
        cases hst
        exact inv_claim h hpc (firstFree_eq_some hi)
      · -- the timed wait changes nothing
        cases hst
        exact h
    · -- the session is over: the packet is dropped
      cases hst
      exact h.goto hpc rfl rfl rfl
  | wrap p b i =>
    simp only [hpc] at hst
    split at hst
    · cases hst
      exact inv_wrap h hpc
    · cases hst
      exact h.goto hpc rfl rfl rfl
  | submit b i =>
    simp only [hpc] at hst
    split at hst
    · cases hst
      exact inv_submit h hpc
    · cases hst
      exact h.goto hpc rfl rfl rfl
  | count b =>
    simp only [hpc] at hst
    cases hst
    exact inv_count h hpc
  | release b i =>
    simp only [hpc] at hst
    cases hst
    exact inv_release h hpc
  | exited => simp [hpc] at hst

/-- The last step of `tx_complete` frees the slot, which it alone holds. -/
theorem inv_txRelease (h : Inv s) {i : Fin numTxXfers} (hi : s.flight i ≠ .idle) :
    Inv { s with
      inUse := Function.update s.inUse i false
      flight := Function.update s.flight i .idle
      activeTx := s.activeTx - 1 } where
  idle_iff j := by
    by_cases hj : j = i
    · subst hj
      simp
    · simp only [Function.update_of_ne hj]
      exact h.idle_iff j
  held j hj := by
    -- the slot that `tun_to_usb` holds is idle, so it is another one
    have hne : j ≠ i := fun hji => hi ((h.idle_iff i).mpr (.inr (hji ▸ hj)))
    simp only [Function.update_of_ne hne]
    exact h.held j hj
  active := by
    have hcount := tally_update (p := Flight.outstanding) (f := s.flight) i .idle
    rw [Flight.outstanding_eq_true.mpr hi] at hcount
    have hactive := h.active
    simp only [Flight.outstanding, Bool.toNat_true, Bool.toNat_false] at *
    omega
  current_lt := h.current_lt
  submitted_lt := h.submitted_lt
  sorted := h.sorted

/-- Cancelling changes neither what is outstanding nor who owns it. -/
theorem inv_cancelTx (h : Inv s) :
    Inv { s with flight := fun i => if s.inUse i then (s.flight i).cancel else s.flight i } where
  idle_iff j := by
    rw [← h.idle_iff j]
    simp only
    split <;> simp
  held := h.held
  active := by
    rw [h.active]
    refine congrArg _ (tally_congr fun j => ?_)
    simp only
    split <;> simp
  current_lt := h.current_lt
  submitted_lt := h.submitted_lt
  sorted := h.sorted

/-- Every step keeps the invariant. -/
theorem inv_step (h : Inv s) {a : Action} (hst : s.step a = some t) : Inv t := by
  cases a with
  | tun r => exact inv_tunToUsb h hst
  | complete i st =>
    simp only [step] at hst
    split at hst
    · next hi =>
      cases hst
      exact h.setFlight (fun hidle => by rw [hidle] at hi; cases hi) (by simp)
    · cases hst
  | dispatch i hd =>
    simp only [step] at hst
    split at hst
    · next st hi =>
      cases hst
      exact h.setFlight (by simp [hi]) (by simp)
    · cases hst
  | callback i =>
    simp only [step, txCallback] at hst
    split at hst
    · next hd hi =>
      cases hst
      exact h.setFlight (by simp [hi]) (by simp)
    · next hd hi =>
      cases hst
      exact h.setFlight (by simp [hi]) (by simp)
    · next hd hi =>
      cases hst
      exact inv_txRelease h (by simp [hi])
    · cases hst
  | cancelTx =>
    cases hst
    exact inv_cancelTx h

/-- The slot whose buffer the next step of `tun_to_usb` writes, or that it submits. -/
def usedNext (s : TxPool) : Option (Fin numTxXfers) :=
  match s.pc with
  | .wrap _ _ i => some i
  | .submit _ i => some i
  | _ => none

/-- **The slots of the TX pool** over any run: a transfer is not in flight when its buffer is
    written or when it is submitted, nor when its slot is free; unless `tun_to_usb` holds a
    slot, each slot in use is in flight or its callback has not released it; and the packets
    submitted are packets read, each once and in the order they were read. -/
theorem txPool_safe {l : List (TxPool × Action)} (h : Run step start l t) :
    (∀ i, t.usedNext = some i → (t.flight i).isInFlight = false) ∧
      (∀ i, t.inUse i = false → (t.flight i).isInFlight = false) ∧
      (t.pc.slot = none → ∀ i, t.inUse i = true → (t.flight i).outstanding = true) ∧
      t.submitted.Pairwise (· > ·) ∧ ∀ p ∈ t.submitted, p < t.reads := by
  have hinv : Inv t := h.invariant inv_start fun _ _ _ hs hst => inv_step hs hst
  refine ⟨fun i hi => ?_, fun i hi => ?_, fun hslot i hi => ?_, hinv.sorted, hinv.submitted_lt⟩
  · -- a slot that is filled or submitted next is held
    have hheld : t.pc.slot = some i := by
      unfold usedNext at hi
      split at hi <;> simp_all [TunPc.slot]
    rw [(hinv.idle_iff i).mpr (.inr hheld)]
    rfl
  · rw [(hinv.idle_iff i).mpr (.inl hi)]
    rfl
  · rw [Flight.outstanding_eq_true, ne_eq, hinv.idle_iff i, hslot]
    simp [hi]

/-- The first slot. -/
def slot0 : Fin numTxXfers := ⟨0, by decide⟩

/-- Two packets go out over the first slot, the second after the first has come back. -/
def twoPackets : List Action :=
  let r : TunRet := ⟨true, true, 64, 74, 118, 0⟩
  List.replicate 7 (.tun r) ++
    [.complete slot0 .completed, .dispatch slot0 .usbToTun, .callback slot0] ++
    List.replicate 5 (.tun r)

/-- In that run the packets go out in order. -/
theorem txPool_safe_twoPackets :
    ∃ l t, Run step start l t ∧ t.submitted = [1, 0] ∧ t.submitted.Pairwise (· > ·) := by
  obtain ⟨l, t, hrun, -, hsubmitted⟩ :=
    exists_run_of_exec step (fun _ _ => true) (fun t => t.submitted == [1, 0]) start twoPackets
      (by decide +kernel)
  exact ⟨l, t, hrun, eq_of_beq hsubmitted, (txPool_safe hrun).2.2.2.1⟩

end TxPool

end AndroidTether
