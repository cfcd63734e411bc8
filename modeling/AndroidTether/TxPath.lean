import AndroidTether.Frame
import AndroidTether.TxPool
import AndroidTether.ProtoRndis

namespace AndroidTether

open Bytes Trans

/-!
# From the utun to USB

`tun_to_usb` of `main.c` with the bytes it carries: the packet it reads, the frame in `ebuf`, the
message `wrap_frame` leaves in the buffer of a transfer, and what libusb is given.  Its control
flow is that of `TxPool`, whose calls now return what the bytes make them return.

The transfers and buffers of the pool are taken as allocated (`SessionThreads` has runs in which
they are not).  A run has no steps of `tun_to_usb` after it has returned; what `main.c` then frees
is not part of it.

* `TxPath.step` — one step; `TxPath.run_pool` — every run is a run of the pool;
* `TxPath.Inv` — what is at hand, on the wire and in the buffers;
* `txPath_forwards` — the messages submitted carry packets that were read, in order, and stay as
  they are while libusb holds them;
* `txPath_lossless_iff` — exactly when no packet is lost.
-/

/-- A packet `utun_read` returned, and the address of the gateway that its frame was given. -/
structure UtunPacket where
  bytes : List UInt8
  gwMac : Mac
  deriving DecidableEq

/-- What the calls of a step of `tun_to_usb` return; each step looks at its own. -/
structure TunCalls where
  /-- `atomic_load(&ctx->running) && g_running` -/
  live : Bool
  /-- `poll`: the utun has a packet -/
  readable : Bool
  /-- `utun_read`: nothing where it returns 0 or -1 -/
  packet : List UInt8
  /-- `ctx->gw_mac`, as `frame_ip_to_eth` finds it -/
  gwMac : Mac
  /-- `libusb_submit_transfer` -/
  submitRet : Int

/-- The sending side of the bridge. -/
structure TxPath where
  pool : TxPool
  /-- `ebuf`, `elen` -/
  ebuf : Mem
  elen : Int
  /-- `tx->buf`, and the length that `libusb_fill_bulk_transfer` was given -/
  buf : Fin numTxXfers → Mem
  length : Fin numTxXfers → Nat
  txPkts : UInt64
  txBytes : UInt64
  /-- the packets read and the messages submitted, the latest first, and the message each slot
      was submitted with -/
  packets : List UtunPacket
  wire : List (List UInt8)
  flying : Fin numTxXfers → List UInt8

namespace TxPath

/-- The threads start; every slot has a buffer, which holds anything. -/
def start (ebuf : Mem) (buf : Fin numTxXfers → Mem) : TxPath where
  pool := .start
  ebuf := ebuf
  elen := 0
  buf := buf
  length := fun _ => 0
  txPkts := 0
  txBytes := 0
  packets := []
  wire := []
  flying := fun _ => []

/-- What can happen. -/
inductive Action where
  | tun (c : TunCalls)
  | complete (i : Fin numTxXfers) (st : XferStatus)
  | dispatch (i : Fin numTxXfers) (h : Handler)
  | callback (i : Fin numTxXfers)
  | cancelTx

/-- `frame_ip_to_eth` on the packet that was read. -/
def framed (mac : Mac) (c : TunCalls) : Built := frameIpToEth c.packet ethBufSize mac c.gwMac

/-- `wrap_frame` on `ebuf`. -/
def wrapped (s : TxPath) : Built := rndisDrvWrapFrame (slice s.ebuf 0 s.elen.toNat) rndisBufSize

/-- The message in the buffer of a transfer. -/
def message (s : TxPath) (i : Fin numTxXfers) : List UInt8 := slice (s.buf i) 0 (s.length i)

/-- The step of the pool that a step is. -/
def toPool (mac : Mac) (s : TxPath) : Action → TxPool.Action
  | .tun c => .tun
    { live := c.live
      readable := c.readable
      tlen := c.packet.length
      elen := (framed mac c).ret
      rlen := s.wrapped.ret
      submitRet := c.submitRet }
  | .complete i st => .complete i st
  | .dispatch i h => .dispatch i h
  | .callback i => .callback i
  | .cancelTx => .cancelTx

/-- What a step of `tun_to_usb` does to the bytes. -/
def carry (mac : Mac) (c : TunCalls) (s : TxPath) : TxPath :=
  match s.pool.pc with
  | .read _ =>
    if c.packet = [] then s
    else
      { s with
        ebuf := storeAll s.ebuf (framed mac c).stores
        elen := (framed mac c).ret
        packets := ⟨c.packet, c.gwMac⟩ :: s.packets }
  | .wrap _ _ i =>
    { s with
      buf := Function.update s.buf i (storeAll (s.buf i) s.wrapped.stores)
      length := Function.update s.length i s.wrapped.ret.toNat }
  | .submit _ i =>
    if c.submitRet = 0 then
      { s with
        wire := s.message i :: s.wire
        flying := Function.update s.flying i (s.message i) }
    else s
  | .count _ =>
    { s with
      txPkts := s.txPkts + 1
      txBytes := s.txBytes + UInt64.ofNat s.elen.toNat }
  | _ => s

/-- One step. -/
def step (mac : Mac) (s : TxPath) (a : Action) : Option TxPath :=
  (s.pool.step (s.toPool mac a)).map fun pool =>
    match a with
    | .tun c => { s.carry mac c with pool := pool }
    | _ => { s with pool := pool }

/-! ### The pool under it -/

variable {mac : Mac} {s t : TxPath} {a : Action}

/-- A step is one of the pool. -/
theorem step_pool (h : s.step mac a = some t) : s.pool.step (s.toPool mac a) = some t.pool := by
  obtain ⟨pool, hpool, rfl⟩ := Option.map_eq_some_iff.mp h
  cases a <;> exact hpool

/-- The run of the pool under a run. -/
def poolRun (mac : Mac) (l : List (TxPath × Action)) : List (TxPool × TxPool.Action) :=
  l.map fun p => (p.1.pool, p.1.toPool mac p.2)

/-- **Every run is a run of the pool.** -/
theorem run_pool {l : List (TxPath × Action)} (h : Run (step mac) s l t) :
    Run TxPool.step s.pool (poolRun mac l) t.pool := by
  induction h with
  | start => exact .start
  | snoc _ hst ih => exact ih.snoc (step_pool hst)

end TxPath

/-! ### Packets -/

namespace UtunPacket

/-- `frame_ip_to_eth` accepts it. -/
def Accepted (mac : Mac) (p : UtunPacket) : Prop :=
  0 < (frameIpToEth p.bytes ethBufSize mac p.gwMac).ret

instance (mac : Mac) : DecidablePred (Accepted mac) :=
  fun p => inferInstanceAs (Decidable (0 < (frameIpToEth p.bytes ethBufSize mac p.gwMac).ret))

/-- The frame it travels in, and the message around that. -/
def frame (mac : Mac) (p : UtunPacket) : List UInt8 :=
  ethFrameBytes p.gwMac mac ((ipEtherType p.bytes).getD 0) (p.bytes.drop 4)

def message (mac : Mac) (p : UtunPacket) : List UInt8 := dataPacketBytes (p.frame mac)

variable {mac : Mac} {p : UtunPacket}

/-- What `frame_ip_to_eth` makes of an accepted packet, whatever the buffer held. -/
theorem Accepted.built (h : p.Accepted mac) :
    (p.frame mac).length ≤ ethBufSize ∧ sizeofEthHdr < (p.frame mac).length ∧
      (frameIpToEth p.bytes ethBufSize mac p.gwMac).ret = (p.frame mac).length ∧
      ∀ m, (frameIpToEth p.bytes ethBufSize mac p.gwMac).packet m = p.frame mac := by
  have hne : (frameIpToEth p.bytes ethBufSize mac p.gwMac).ret ≠ -1 := by
    unfold Accepted at h
    omega
  obtain ⟨etherType, htype, hlen, hfit, hpacket⟩ := frameIpToEth_accepted hne (by decide)
  have hframe : p.frame mac = ethFrameBytes p.gwMac mac etherType (p.bytes.drop 4) := by
    rw [frame, htype, Option.getD_some]
  have hlength : (p.frame mac).length = sizeofEthHdr + (p.bytes.length - 4) := by
    rw [hframe, ethFrameBytes_length, List.length_drop]
  refine ⟨hlength ▸ hfit, by omega, ?_, fun m => (hpacket m).trans hframe.symm⟩
  -- what is returned is the length of the packet that is left behind
  have hret := Built.packet_length (frameIpToEth p.bytes ethBufSize mac p.gwMac) (fun _ => 0)
  rw [hpacket, ← hframe] at hret
  unfold Accepted at h
  omega

/-- The message of an accepted packet fits its buffer. -/
theorem Accepted.wrapped (h : p.Accepted mac) :
    (rndisDrvWrapFrame (p.frame mac) rndisBufSize).ret = (p.message mac).length ∧
      0 < (p.message mac).length ∧
      ∀ m, (rndisDrvWrapFrame (p.frame mac) rndisBufSize).packet m = p.message mac := by
  obtain ⟨hle, -, -, -⟩ := h.built
  have hfit : sizeofRndisDataPacket + (p.frame mac).length ≤ rndisBufSize := by
    simp only [ethBufSize, sizeofRndisDataPacket, rndisBufSize] at *
    omega
  have hlt : sizeofRndisDataPacket + (p.frame mac).length < 2 ^ 31 :=
    Nat.lt_of_le_of_lt hfit (by decide)
  refine ⟨?_, ?_, fun m => rndisBuildDataPacket_packet m hfit hlt⟩
  · rw [message, dataPacketBytes_length]
    exact rndisBuildDataPacket_ret hfit hlt
  · rw [message, dataPacketBytes_length]
    exact Nat.lt_of_lt_of_le (by decide) (Nat.le_add_right _ _)

/-- Exactly the packets that are accepted: IP, and short enough for `ebuf`. -/
theorem accepted_iff : p.Accepted mac ↔
    5 ≤ p.bytes.length ∧ p.bytes.length ≤ ethBufSize + 4 - sizeofEthHdr ∧
      (ipEtherType p.bytes).isSome := by
  constructor
  · intro h
    have hne : (frameIpToEth p.bytes ethBufSize mac p.gwMac).ret ≠ -1 := by
      unfold Accepted at h
      omega
    obtain ⟨etherType, htype, hlen, hfit, -⟩ := frameIpToEth_accepted hne (by decide)
    simp only [ethBufSize, sizeofEthHdr] at hfit ⊢
    exact ⟨hlen, by omega, htype ▸ rfl⟩
  · rintro ⟨hlen, hfit, htype⟩
    obtain ⟨etherType, htype⟩ := Option.isSome_iff_exists.mp htype
    simp only [ethBufSize, sizeofEthHdr] at hfit
    unfold Accepted frameIpToEth
    rw [if_neg (by omega)]
    simp only [ethBufSize, sizeofEthHdr, htype]
    rw [if_neg (by omega)]
    simp only [toInt_of_lt (by omega : 14 + (p.bytes.length - 4) < 2 ^ 31)]
    omega

end UtunPacket

namespace TxPath

/-! ### What is carried -/

/-- `tun_to_usb` has the frame of the last packet read in `ebuf`, before it is submitted. -/
def pending : TunPc → Bool
  | .claim _ _ => true
  | .wrap _ _ _ => true
  | .submit _ _ => true
  | _ => false

/-- The packets read that are submitted, or dropped, the latest first. -/
def settled (s : TxPath) : List UtunPacket :=
  if pending s.pool.pc then s.packets.tail else s.packets

/-- The messages that `tx_pkts` and `tx_bytes` count. -/
def counted (s : TxPath) : List (List UInt8) :=
  if s.pool.pc.counting then s.wire.tail else s.wire

/-- The bytes of the frames in messages. -/
def frameBytes (wire : List (List UInt8)) : Nat :=
  (wire.map fun msg => msg.length - sizeofRndisDataPacket).sum

/-- The packet at hand is accepted, its frame is in `ebuf`, and once it is wrapped its message is
    in the buffer of the slot that was claimed. -/
def AtHand (mac : Mac) (s : TxPath) : Prop :=
  ∃ p rest, s.packets = p :: rest ∧ p.Accepted mac ∧ slice s.ebuf 0 s.elen.toNat = p.frame mac ∧
    match s.pool.pc with
    | .submit _ i => s.message i = p.message mac
    | .count _ => s.wire.head? = some (p.message mac)
    | _ => True

/-- The accepted ones of the packets that are settled. -/
def accepted (mac : Mac) (s : TxPath) : List UtunPacket := s.settled.filter (·.Accepted mac)

/-- A step that gives up the packet at hand: the session is over, or the submit fails. -/
def drops (s : TxPath) (a : Action) : Bool :=
  match s.pool.pc, a with
  | .claim _ _, .tun c => !c.live
  | .submit _ _, .tun c => c.submitRet ≠ 0
  | _, _ => false

/-- What every step keeps. -/
structure Inv (mac : Mac) (s : TxPath) : Prop where
  pool : s.pool.Inv
  atHand : pending s.pool.pc = true ∨ s.pool.pc.counting = true → s.AtHand mac
  /-- what libusb holds is as it was submitted -/
  kept : ∀ i, s.pool.flight i ≠ .idle → s.message i = s.flying i ∧ s.flying i ∈ s.wire
  txPkts : s.txPkts = UInt64.ofNat s.counted.length
  txBytes : s.txBytes = UInt64.ofNat (frameBytes s.counted)

/-- What a step settles: nothing, or one accepted packet, whose message is submitted unless the
    step drops it. -/
def Settles (mac : Mac) (s : TxPath) (a : Action) (t : TxPath) : Prop :=
  s.drops a = false ∧ t.accepted mac = s.accepted mac ∧ t.wire = s.wire ∨
    ∃ p, t.accepted mac = p :: s.accepted mac ∧
      t.wire = if s.drops a then s.wire else p.message mac :: s.wire

/-! ### Steps -/

variable {mac : Mac} {s t : TxPath} {a : Action}

@[simp] theorem pending_nextBatch (b : Nat) : pending (nextBatch b) = false := by
  unfold nextBatch
  split <;> rfl

/-- Nothing has been read or sent. -/
theorem inv_start (ebuf : Mem) (buf : Fin numTxXfers → Mem) : Inv mac (start ebuf buf) where
  pool := TxPool.inv_start
  atHand h := by rcases h with h | h <;> cases h
  kept i h := absurd rfl h
  txPkts := rfl
  txBytes := rfl

/-- Going on with the same bytes. -/
theorem Inv.goto (h : Inv mac s) {pool : TxPool} (hpool : pool.Inv)
    (hflight : ∀ i, pool.flight i ≠ .idle → s.pool.flight i ≠ .idle)
    (hcount : pool.pc.counting = s.pool.pc.counting)
    (hat : pending pool.pc = true ∨ pool.pc.counting = true →
      AtHand mac { s with pool := pool }) : Inv mac { s with pool := pool } where
  pool := hpool
  atHand := hat
  kept i hi := h.kept i (hflight i hi)
  txPkts := by
    rw [counted, hcount]
    exact h.txPkts
  txBytes := by
    rw [counted, hcount]
    exact h.txBytes

/-- Nothing is settled where the packet at hand stays at hand, or there is none. -/
theorem settles_goto {pool : TxPool} (hdrop : s.drops a = false)
    (hpc : pending pool.pc = pending s.pool.pc) : Settles mac s a { s with pool := pool } := by
  refine .inl ⟨hdrop, ?_, rfl⟩
  rw [accepted, accepted, settled, settled, hpc]

/-- A transfer, its callback and the cancel pass leave `tun_to_usb` where it is, and submit
    nothing. -/
theorem pool_step_other {pool : TxPool} (ha : ∀ c, a ≠ .tun c)
    (h : s.pool.step (s.toPool mac a) = some pool) :
    pool.pc = s.pool.pc ∧ ∀ i, pool.flight i ≠ .idle → s.pool.flight i ≠ .idle := by
  -- a transfer that changes was not idle
  have hupdate : ∀ (i : Fin numTxXfers) (f : Flight TxStage), s.pool.flight i ≠ .idle →
      ∀ j, Function.update s.pool.flight i f j ≠ .idle → s.pool.flight j ≠ .idle := by
    intro i f hi j hj
    by_cases hji : j = i
    · exact hji ▸ hi
    · rwa [Function.update_of_ne hji] at hj
  cases a with
  | tun c => exact absurd rfl (ha c)
  | complete i st =>
    simp only [toPool, TxPool.step] at h
    split at h
    · next hi =>
      cases h
      exact ⟨rfl, hupdate i _ fun hidle => by rw [hidle] at hi; cases hi⟩
    · cases h
  | dispatch i hd =>
    simp only [toPool, TxPool.step] at h
    split at h
    · next st hi =>
      cases h
      exact ⟨rfl, hupdate i _ (by simp [hi])⟩
    · cases h
  | callback i =>
    simp only [toPool, TxPool.step, TxPool.txCallback] at h
    split at h
    · next hi =>
      cases h
      exact ⟨rfl, hupdate i _ (by simp [hi])⟩
    · next hi =>
      cases h
      exact ⟨rfl, hupdate i _ (by simp [hi])⟩
    · next hi =>
      cases h
      exact ⟨rfl, hupdate i _ (by simp [hi])⟩
    · cases h
  | cancelTx =>
    cases h
    refine ⟨rfl, fun i hi hidle => hi ?_⟩
    simp [hidle, Flight.cancel]

/-- Packets are dropped by `tun_to_usb` alone. -/
theorem drops_other (ha : ∀ c, a ≠ .tun c) : s.drops a = false := by
  unfold drops
  split
  · exact absurd rfl (ha _)
  · exact absurd rfl (ha _)
  · rfl

/-- The packet at hand is the newest one read. -/
theorem settled_of_pending {p : UtunPacket} {rest : List UtunPacket}
    (h : s.packets = p :: rest) (hpc : pending s.pool.pc = true) : s.settled = rest := by
  rw [settled, if_pos hpc, h, List.tail_cons]

/-- Once it is no longer at hand it is settled. -/
theorem accepted_of_done {p : UtunPacket} {rest : List UtunPacket} (h : s.packets = p :: rest)
    (hp : p.Accepted mac) (hpc : pending s.pool.pc = true) {t : TxPath}
    (ht : t.packets = s.packets) (hpc' : pending t.pool.pc = false) :
    t.accepted mac = p :: s.accepted mac := by
  rw [accepted, accepted, settled_of_pending h hpc, settled, hpc', ht, h,
    if_neg Bool.false_ne_true, List.filter_cons_of_pos (by simpa using hp)]

/-- A packet that is read: an accepted one is at hand, any other is settled at once. -/
theorem inv_read (h : Inv mac s) {b : Nat} (hpc : s.pool.pc = .read b) {c : TunCalls}
    (hne : c.packet ≠ []) {pool : TxPool} (hpool : pool.Inv)
    (hflight : pool.flight = s.pool.flight)
    (hnext : pool.pc = if (framed mac c).ret > 0 then .claim s.pool.reads b else nextBatch b) :
    Inv mac { s.carry mac c with pool := pool } ∧
      Settles mac s (.tun c) { s.carry mac c with pool := pool } := by
  have hcarry : s.carry mac c =
      { s with
        ebuf := storeAll s.ebuf (framed mac c).stores
        elen := (framed mac c).ret
        packets := ⟨c.packet, c.gwMac⟩ :: s.packets } := by
    rw [carry, hpc]
    exact if_neg hne
  have hsettled : s.settled = s.packets := by rw [settled, hpc]; rfl
  have hcounted : s.counted = s.wire := by rw [counted, hpc]; rfl
  have hcount : pool.pc.counting = false := by
    rw [hnext]
    split
    · rfl
    · exact TxPool.nextBatch_counting b
  rw [hcarry]
  constructor
  · refine ⟨hpool, ?_, fun i hi => h.kept i (hflight ▸ hi), ?_, ?_⟩
    · rintro (hpending | hcounting)
      · -- a frame was made, and the packet is the one at hand
        have hret : 0 < (framed mac c).ret := by
          by_contra hnot
          rw [hnext, if_neg hnot, pending_nextBatch] at hpending
          cases hpending
        have haccepted : UtunPacket.Accepted mac ⟨c.packet, c.gwMac⟩ := hret
        refine ⟨_, _, rfl, haccepted, haccepted.built.2.2.2 s.ebuf, ?_⟩
        rw [hnext, if_pos hret]
        trivial
      · rw [hcount] at hcounting
        cases hcounting
    · rw [counted, hcount]
      exact hcounted ▸ h.txPkts
    · rw [counted, hcount]
      exact hcounted ▸ h.txBytes
  · refine .inl ⟨by simp [drops, hpc], ?_, rfl⟩
    rw [accepted, accepted, hsettled, settled]
    by_cases hret : (framed mac c).ret > 0
    · rw [hnext, if_pos hret]
      rfl
    · rw [hnext, if_neg hret, pending_nextBatch, if_neg Bool.false_ne_true]
      exact List.filter_cons_of_neg fun hp => hret (of_decide_eq_true hp)

/-- Wrapping writes the buffer of the slot that was claimed, which libusb does not hold. -/
theorem inv_wrap (h : Inv mac s) {p b : Nat} {i : Fin numTxXfers} (hpc : s.pool.pc = .wrap p b i)
    {c : TunCalls} {pool : TxPool} (hpool : pool.Inv) (hflight : pool.flight = s.pool.flight)
    (hnext : pool.pc = if s.wrapped.ret > 0 then .submit b i else .release b i) :
    Inv mac { s.carry mac c with pool := pool } ∧
      Settles mac s (.tun c) { s.carry mac c with pool := pool } := by
  obtain ⟨q, rest, hpackets, hq, hframe, -⟩ := h.atHand (.inl (by rw [hpc]; rfl))
  obtain ⟨hret, hpos, hpacket⟩ := hq.wrapped
  have hwrapped : s.wrapped = rndisDrvWrapFrame (q.frame mac) rndisBufSize := by
    rw [wrapped, hframe]
  have hsubmit : pool.pc = .submit b i := by
    rw [hnext, hwrapped, hret, if_pos (by omega)]
  have hidle : s.pool.flight i = .idle := (h.pool.idle_iff i).mpr (.inr (by rw [hpc]; rfl))
  rw [carry, hpc]
  constructor
  · refine ⟨hpool, fun _ => ⟨q, rest, hpackets, hq, hframe, ?_⟩, fun j hj => ?_, ?_, ?_⟩
    · rw [hsubmit]
      show slice (Function.update s.buf i _ i) 0 (Function.update s.length i _ i) = _
      rw [Function.update_self, Function.update_self, ← hpacket (s.buf i), hwrapped]
      rfl
    · -- the slots in flight are other ones
      have hne : j ≠ i := by
        rintro rfl
        exact hj (hflight ▸ hidle)
      show slice (Function.update s.buf i _ j) 0 (Function.update s.length i _ j) = _ ∧ _
      rw [Function.update_of_ne hne, Function.update_of_ne hne]
      exact h.kept j (hflight ▸ hj)
    · have hcounted : s.counted = s.wire := by rw [counted, hpc]; rfl
      rw [counted, hsubmit]
      exact hcounted ▸ h.txPkts
    · have hcounted : s.counted = s.wire := by rw [counted, hpc]; rfl
      rw [counted, hsubmit]
      exact hcounted ▸ h.txBytes
  · refine .inl ⟨by simp [drops, hpc], ?_, rfl⟩
    rw [accepted, accepted, settled, settled, hsubmit, hpc]
    rfl

/-- Submitting hands the message to libusb and to the wire. -/
theorem inv_submit (h : Inv mac s) {b : Nat} {i : Fin numTxXfers} (hpc : s.pool.pc = .submit b i)
    {c : TunCalls} (hret : c.submitRet = 0) {pool : TxPool} (hpool : pool.Inv)
    (hflight : pool.flight = Function.update s.pool.flight i (.inFlight false))
    (hnext : pool.pc = .count b) :
    Inv mac { s.carry mac c with pool := pool } ∧
      Settles mac s (.tun c) { s.carry mac c with pool := pool } := by
  have hpending : pending s.pool.pc = true := by rw [hpc]; rfl
  obtain ⟨q, rest, hpackets, hq, hframe, hmessage⟩ := h.atHand (.inl hpending)
  simp only [hpc] at hmessage
  have hcarry : s.carry mac c =
      { s with
        wire := q.message mac :: s.wire
        flying := Function.update s.flying i (q.message mac) } := by
    rw [carry, hpc, hmessage.symm]
    exact if_pos hret
  have hcounted : s.counted = s.wire := by rw [counted, hpc]; rfl
  rw [hcarry]
  constructor
  · refine ⟨hpool, fun _ => ⟨q, rest, hpackets, hq, hframe, ?_⟩, fun j hj => ?_, ?_, ?_⟩
    · rw [hnext]
      rfl
    · show s.message j = Function.update s.flying i _ j ∧
        Function.update s.flying i _ j ∈ q.message mac :: s.wire
      by_cases hji : j = i
      · subst hji
        rw [Function.update_self]
        exact ⟨hmessage, List.mem_cons_self⟩
      · rw [Function.update_of_ne hji]
        have hj' : s.pool.flight j ≠ .idle := by
          have hj : pool.flight j ≠ .idle := hj
          rwa [hflight, Function.update_of_ne hji] at hj
        exact ⟨(h.kept j hj').1, List.mem_cons_of_mem _ (h.kept j hj').2⟩
    · rw [counted, hnext]
      exact hcounted ▸ h.txPkts
    · rw [counted, hnext]
      exact hcounted ▸ h.txBytes
  · refine .inr ⟨q, accepted_of_done hpackets hq hpending rfl (by rw [hnext]; rfl), ?_⟩
    simp [drops, hpc, hret]

/-- The two counters follow. -/
theorem inv_count (h : Inv mac s) {b : Nat} (hpc : s.pool.pc = .count b) {c : TunCalls}
    {pool : TxPool} (hpool : pool.Inv) (hflight : pool.flight = s.pool.flight)
    (hnext : pool.pc = nextBatch b) :
    Inv mac { s.carry mac c with pool := pool } ∧
      Settles mac s (.tun c) { s.carry mac c with pool := pool } := by
  have hcounting : s.pool.pc.counting = true := by rw [hpc]; rfl
  obtain ⟨q, rest, -, hq, hframe, hwire⟩ := h.atHand (.inr hcounting)
  simp only [hpc] at hwire
  obtain ⟨sent, hwire⟩ : ∃ sent, s.wire = q.message mac :: sent := List.head?_eq_some_iff.mp hwire
  have hcounted : s.counted = sent := by rw [counted, hcounting, hwire]; rfl
  have helen : s.elen.toNat = (q.message mac).length - sizeofRndisDataPacket := by
    rw [UtunPacket.message, dataPacketBytes_length, Nat.add_sub_cancel_left, ← hframe,
      slice_length]
  have hcount : pool.pc.counting = false := hnext ▸ TxPool.nextBatch_counting b
  have hpending : pending pool.pc = false := hnext ▸ pending_nextBatch b
  rw [carry, hpc]
  constructor
  · refine ⟨hpool, ?_, fun i hi => h.kept i (hflight ▸ hi), ?_, ?_⟩
    · rintro (hat | hat)
      · rw [show pending pool.pc = true from hat] at hpending
        cases hpending
      · rw [show pool.pc.counting = true from hat] at hcount
        cases hcount
    · rw [counted, hcount]
      show s.txPkts + 1 = UInt64.ofNat s.wire.length
      rw [h.txPkts, hcounted, hwire, List.length_cons, UInt64.ofNat_add]
      rfl
    · rw [counted, hcount]
      show s.txBytes + UInt64.ofNat s.elen.toNat = UInt64.ofNat (frameBytes s.wire)
      rw [h.txBytes, hcounted, hwire, helen, ← UInt64.ofNat_add, frameBytes, frameBytes,
        List.map_cons, List.sum_cons, Nat.add_comm]
  · refine .inl ⟨by simp [drops, hpc], ?_, rfl⟩
    rw [accepted, accepted, settled, settled, hpc]
    show List.filter _ (if pending pool.pc then _ else _) = _
    rw [hpending]
    rfl

/-- The step of `tun_to_usb`, one place after the other. -/
theorem inv_tun (h : Inv mac s) {c : TunCalls} (hst : s.step mac (.tun c) = some t) :
    Inv mac t ∧ Settles mac s (.tun c) t := by
  obtain ⟨pool, hpool, (rfl : { s.carry mac c with pool := pool } = t)⟩ :=
    Option.map_eq_some_iff.mp hst
  have hinv := TxPool.inv_step h.pool hpool
  simp only [toPool, TxPool.step, TxPool.tunToUsb] at hpool
  cases hpc : s.pool.pc with
  | loopTop | pollFirst | pollBatch =>
    -- no packet before, and none after
    simp only [hpc, Option.some.injEq] at hpool
    have hnone : pending pool.pc = false ∧ pool.pc.counting = false := by
      rw [← hpool]
      dsimp only
      split <;> exact ⟨rfl, rfl⟩
    rw [carry, hpc]
    refine ⟨h.goto hinv (fun i hi => by rwa [← hpool] at hi) ?_ ?_, settles_goto (by simp [drops, hpc]) ?_⟩
    · rw [hnone.2, hpc]
      rfl
    · rw [hnone.1, hnone.2]
      rintro (hat | hat) <;> cases hat
    · rw [hnone.1, hpc]
      rfl
  | read b =>
    simp only [hpc] at hpool
    by_cases hnil : c.packet = []
    · have hle : (c.packet.length : Int) ≤ 0 := by simp [hnil]
      simp only [hle, if_true, Option.some.injEq] at hpool
      subst hpool
      rw [carry, hpc]
      simp only [hnil, if_true]
      refine ⟨h.goto hinv (fun i hi => hi) ?_ ?_, settles_goto (by simp [drops, hpc]) ?_⟩
      · rw [hpc]
        rfl
      · rintro (hat | hat) <;> cases hat
      · rw [hpc]
        rfl
    · have hpos := List.length_pos_iff.mpr hnil
      rw [if_neg (by omega), Option.some.injEq] at hpool
      subst hpool
      exact inv_read h hpc hnil hinv rfl rfl
  | claim p b =>
    have hpending : pending s.pool.pc = true := by rw [hpc]; rfl
    obtain ⟨q, rest, hpackets, hq, hframe, -⟩ := h.atHand (.inl hpending)
    simp only [hpc] at hpool
    rw [carry, hpc]
    by_cases hlive : c.live = true
    · -- a slot, or the next look for one: the packet stays at hand
      have hnext : pool.flight = s.pool.flight ∧
          ((∃ i, pool.pc = .wrap p b i) ∨ pool.pc = .claim p b) := by
        simp only [hlive, if_true] at hpool
        split at hpool
        · next i _ =>
          obtain rfl := Option.some.inj hpool
          exact ⟨rfl, .inl ⟨i, rfl⟩⟩
        · obtain rfl := Option.some.inj hpool
          exact ⟨rfl, .inr hpc⟩
      have hat : AtHand mac { s with pool := pool } := by
        refine ⟨q, rest, hpackets, hq, hframe, ?_⟩
        rcases hnext.2 with ⟨i, hi⟩ | hi
        · rw [hi]
          trivial
        · rw [hi]
          trivial
      refine ⟨h.goto hinv (fun i hi => hnext.1 ▸ hi) ?_ fun _ => hat,
        settles_goto (by simp [drops, hpc, hlive]) ?_⟩
      · rw [hpc]
        rcases hnext.2 with ⟨i, hi⟩ | hi
        · rw [hi]
          rfl
        · rw [hi]
      · rw [hpending]
        rcases hnext.2 with ⟨i, hi⟩ | hi
        · rw [hi]
          rfl
        · rw [hi, ← hpc, hpending]
    · -- the session is over: the packet is dropped
      rw [if_neg hlive, Option.some.injEq] at hpool
      subst hpool
      refine ⟨h.goto hinv (fun i hi => hi) ?_ ?_, .inr ⟨q, ?_, ?_⟩⟩
      · rw [hpc]
        rfl
      · rintro (hat | hat) <;> cases hat
      · exact accepted_of_done hpackets hq hpending rfl rfl
      · simp [drops, hpc, hlive]
  | wrap p b i =>
    simp only [hpc] at hpool
    refine inv_wrap h hpc hinv ?_ ?_
    · split at hpool <;> obtain rfl := Option.some.inj hpool <;> rfl
    · by_cases hret : s.wrapped.ret > 0
      · rw [if_pos hret] at hpool ⊢
        rw [← Option.some.inj hpool]
      · rw [if_neg hret] at hpool ⊢
        rw [← Option.some.inj hpool]
  | submit b i =>
    simp only [hpc] at hpool
    by_cases hret : c.submitRet = 0
    · rw [if_pos hret, Option.some.injEq] at hpool
      subst hpool
      exact inv_submit h hpc hret hinv rfl rfl
    · -- the packet is dropped, and the slot is given back
      have hpending : pending s.pool.pc = true := by rw [hpc]; rfl
      obtain ⟨q, rest, hpackets, hq, -, -⟩ := h.atHand (.inl hpending)
      rw [if_neg hret, Option.some.injEq] at hpool
      subst hpool
      rw [carry, hpc]
      simp only [hret, if_false]
      refine ⟨h.goto hinv (fun i hi => hi) ?_ ?_, .inr ⟨q, ?_, ?_⟩⟩
      · rw [hpc]
        rfl
      · rintro (hat | hat) <;> cases hat
      · exact accepted_of_done hpackets hq hpending rfl rfl
      · simp [drops, hpc, hret]
  | count b =>
    simp only [hpc, Option.some.injEq] at hpool
    subst hpool
    exact inv_count h hpc hinv rfl rfl
  | release b i =>
    simp only [hpc, Option.some.injEq] at hpool
    subst hpool
    rw [carry, hpc]
    refine ⟨h.goto hinv (fun i hi => hi) ?_ ?_, settles_goto (by simp [drops, hpc]) ?_⟩
    · rw [hpc]
      exact TxPool.nextBatch_counting b
    · rintro (hat | hat)
      · exact absurd hat (by simp)
      · exact absurd hat (by simp)
    · rw [hpc]
      exact pending_nextBatch b
  | exited => simp [hpc] at hpool

/-- Every step keeps the invariant, and settles at most the packet at hand. -/
theorem inv_step (h : Inv mac s) (hst : s.step mac a = some t) :
    Inv mac t ∧ Settles mac s a t := by
  by_cases ha : ∃ c, a = .tun c
  · obtain ⟨c, rfl⟩ := ha
    exact inv_tun h hst
  · have ha : ∀ c, a ≠ .tun c := fun c hc => ha ⟨c, hc⟩
    obtain ⟨pool, hpool, ht⟩ := Option.map_eq_some_iff.mp hst
    obtain ⟨hpc, hflight⟩ := pool_step_other ha hpool
    have ht : { s with pool := pool } = t := by
      cases a with
      | tun c => exact absurd rfl (ha c)
      | _ => exact ht
    rw [← ht]
    refine ⟨h.goto (TxPool.inv_step h.pool hpool) hflight (by rw [hpc]) fun hat => ?_,
      settles_goto (drops_other ha) (by rw [hpc])⟩
    obtain ⟨p, rest, hpackets, hp, hframe, hrest⟩ := h.atHand (hpc ▸ hat)
    exact ⟨p, rest, hpackets, hp, hframe, by rw [hpc]; exact hrest⟩

/-! ### Runs -/

variable {ebuf : Mem} {buf : Fin numTxXfers → Mem} {l : List (TxPath × Action)}

/-- The invariant holds in every run. -/
theorem inv_of_run (h : Run (step mac) (start ebuf buf) l t) : Inv mac t :=
  h.invariant (inv_start ebuf buf) fun _ _ _ hs hst => (inv_step hs hst).1

/-- The wire holds the messages of some of the packets settled, in the order they were read. -/
theorem wire_of_run (h : Run (step mac) (start ebuf buf) l t) :
    ∃ sent, List.Sublist sent (t.accepted mac) ∧ t.wire = sent.map (·.message mac) := by
  induction h with
  | start => exact ⟨[], List.nil_sublist _, rfl⟩
  | snoc hrun hst ih =>
    obtain ⟨sent, hsub, hwire⟩ := ih
    rcases (inv_step (inv_of_run hrun) hst).2 with ⟨-, hacc, hw⟩ | ⟨p, hacc, hw⟩
    · exact ⟨sent, hacc ▸ hsub, hw.trans hwire⟩
    · split at hw
      · exact ⟨sent, hacc ▸ hsub.cons p, hw.trans hwire⟩
      · exact ⟨p :: sent, hacc ▸ hsub.cons_cons p, hw.trans (congrArg _ hwire)⟩

/-- Every step that drops a packet costs the wire one message. -/
theorem accepted_length (h : Run (step mac) (start ebuf buf) l t) :
    (t.accepted mac).length = t.wire.length + l.countP fun p => p.1.drops p.2 := by
  induction h with
  | start => rfl
  | @snoc l s t a hrun hst ih =>
    rw [List.countP_cons]
    dsimp only
    rcases (inv_step (inv_of_run hrun) hst).2 with ⟨hdrop, hacc, hw⟩ | ⟨p, hacc, hw⟩
    · rw [hw, hacc, ih, hdrop, if_neg Bool.false_ne_true, Nat.add_zero]
    · rw [hacc, hw, List.length_cons, ih]
      cases s.drops a
      · simp only [Bool.false_eq_true, if_false, List.length_cons]
        omega
      · simp only [if_true]
        omega

/-! ### The other end -/

/-- The far end of the wire gets the packet: unwrapping the message calls back with one frame,
    from our address to the gateway's, which turns back into the packet. -/
def Tunnels (mac : Mac) (p : UtunPacket) (msg : List UInt8) : Prop :=
  ∃ fuel frame delivered,
    rndisDrvUnwrapData (ofList msg) msg.length (recordCall (ofList msg)) fuel [] =
      some [(frame, frame.length)] ∧
    frame.take 12 = p.gwMac.toList ++ mac.toList ∧
    Delivers p.bytes delivered ∧
    0 < (frameEthToUtun frame (ethBufSize + 256)).ret ∧
    ∀ m, (frameEthToUtun frame (ethBufSize + 256)).packet m = delivered

/-- An accepted packet travels in its message. -/
theorem tunnels_message {p : UtunPacket} (h : p.Accepted mac) : Tunnels mac p (p.message mac) := by
  obtain ⟨hle, hlt, -, hpacket⟩ := h.built
  obtain ⟨-, -, hmessage⟩ := h.wrapped
  have hne : (frameIpToEth p.bytes ethBufSize mac p.gwMac).ret ≠ -1 := by
    unfold UtunPacket.Accepted at h
    omega
  have hroom : ethBufSize ≤ ethBufSize + 256 := by decide
  obtain ⟨delivered, hdelivers, -, -, hret, hback⟩ :=
    frameEthToUtun_ipToEth hne (by decide) hroom (by decide) (fun _ => 0)
  rw [hpacket] at hret hback
  have hitem : (TransferItem.frame (p.frame mac) rndisBufSize fun _ => 0).Valid := by
    refine ⟨List.length_pos_iff.mp (by omega), ?_⟩
    simp only [ethBufSize, sizeofRndisDataPacket, rndisBufSize] at *
    omega
  have hvalid : ∀ item ∈ [TransferItem.frame (p.frame mac) rndisBufSize fun _ => 0],
      item.Valid := by simpa using hitem
  have htrail : ([] : List UInt8).length < 8 := by decide
  have hbytes : [TransferItem.frame (p.frame mac) rndisBufSize fun _ => 0].flatMap
      TransferItem.bytes ++ [] = p.message mac := by
    rw [List.append_nil, List.flatMap_singleton]
    exact hmessage _
  have hrecord : ∀ calls f, recordCall (ofList (p.message mac)) calls f =
      calls ++ [(f.bytes (ofList (p.message mac)),
        (f.bytes (ofList (p.message mac))).length)] := by
    intro calls f
    simp [recordCall, Span.bytes]
  obtain ⟨fuel, hfuel⟩ := rndisDrvUnwrapData_items (m := ofList (p.message mac))
    (h := fun calls fr => calls ++ [(fr, fr.length)]) hrecord hvalid htrail
    (by
      simp only [List.map_cons, List.map_nil, List.sum_cons, List.sum_nil, TransferItem.size,
        List.length_nil, sizeofRndisDataPacket, ethBufSize] at *
      omega)
    (by
      rw [hbytes]
      exact at_ofList _) []
  rw [hbytes] at hfuel
  refine ⟨fuel, p.frame mac, delivered, hfuel, ?_, hdelivers, hret, hback⟩
  rw [UtunPacket.frame, ethFrameBytes, List.append_assoc]
  exact List.take_left' (by simp)

/-- **The way from the utun to USB**, over any run of `tun_to_usb`, the transfers and their
    callbacks.  The messages submitted carry packets that were read, in the order they were read
    and each once; a message stays in its buffer as it was submitted for as long as libusb holds
    the transfer; and `tx_pkts` and `tx_bytes` count the messages and the bytes of their frames,
    but for one that is about to be counted. -/
theorem txPath_forwards (mac : Mac) (ebuf : Mem) (buf : Fin numTxXfers → Mem)
    (h : Run (step mac) (start ebuf buf) l t) :
    (∃ sent, List.Sublist sent t.packets ∧ List.Forall₂ (Tunnels mac) sent t.wire) ∧
      (∀ i, t.pool.flight i ≠ .idle → t.message i = t.flying i ∧ t.flying i ∈ t.wire) ∧
      t.txPkts = UInt64.ofNat t.counted.length ∧
      t.txBytes = UInt64.ofNat (frameBytes t.counted) := by
  have hinv := inv_of_run h
  refine ⟨?_, hinv.kept, hinv.txPkts, hinv.txBytes⟩
  obtain ⟨sent, hsub, hwire⟩ := wire_of_run h
  have haccepted : ∀ p ∈ sent, p.Accepted mac := fun p hp =>
    of_decide_eq_true (List.mem_filter.mp (hsub.subset hp)).2
  have hsettled : List.Sublist t.settled t.packets := by
    unfold settled
    split
    · exact List.tail_sublist _
    · exact List.Sublist.refl _
  refine ⟨sent, hsub.trans (List.filter_sublist.trans hsettled), ?_⟩
  rw [hwire, List.forall₂_map_right_iff, List.forall₂_same]
  exact fun p hp => tunnels_message (haccepted p hp)

/-- An IP packet that is short enough for `ebuf`. -/
def Carriable (p : UtunPacket) : Prop :=
  5 ≤ p.bytes.length ∧ p.bytes.length ≤ ethBufSize + 4 - sizeofEthHdr ∧
    (ipEtherType p.bytes).isSome

instance : DecidablePred Carriable := fun p =>
  inferInstanceAs (Decidable (5 ≤ p.bytes.length ∧
    p.bytes.length ≤ ethBufSize + 4 - sizeofEthHdr ∧ (ipEtherType p.bytes).isSome))

/-- **What is lost on the way.**  In every run, the messages submitted are those of all the IP
    packets that were read, but for one still at hand and those longer than `ebuf` takes, exactly
    when no step gives a packet up: none finds the session over while it looks for a slot, and
    no submit fails. -/
theorem txPath_lossless_iff (mac : Mac) (ebuf : Mem) (buf : Fin numTxXfers → Mem)
    (h : Run (step mac) (start ebuf buf) l t) :
    t.wire = (t.settled.filter Carriable).map (·.message mac) ↔
      ∀ p ∈ l, p.1.drops p.2 = false := by
  have haccepted : t.settled.filter Carriable = t.accepted mac :=
    List.filter_congr fun p _ => decide_eq_decide.mpr UtunPacket.accepted_iff.symm
  have hlength := accepted_length h
  rw [haccepted]
  constructor
  · intro hwire
    rw [hwire, List.length_map] at hlength
    have hnone : (l.countP fun p => p.1.drops p.2) = 0 := by omega
    exact fun p hp => Bool.eq_false_of_not_eq_true (List.countP_eq_zero.mp hnone p hp)
  · intro hok
    have hnone : (l.countP fun p => p.1.drops p.2) = 0 :=
      List.countP_eq_zero.mpr fun p hp => by simp [hok p hp]
    rw [hnone, Nat.add_zero] at hlength
    obtain ⟨sent, hsub, hwire⟩ := wire_of_run h
    rw [hwire, hsub.eq_of_length (by rw [hlength, hwire, List.length_map])]

/-- A read of an IPv4 packet of one byte, to the broadcast address. -/
def ipv4Packet : TunCalls :=
  ⟨true, true, [0, 0, 0, 2, 0x45], Vector.replicate 6 0xFF, 0⟩

/-- It is read, wrapped and submitted. -/
def onePacket : List Action := List.replicate 7 (.tun ipv4Packet)

/-- The packet is on the wire, in its frame, and is counted. -/
theorem txPath_forwards_onePacket :
    ∃ t : TxPath, t.wire.length = 1 ∧
      (∃ sent, List.Sublist sent t.packets ∧
        List.Forall₂ (Tunnels (Vector.replicate 6 1)) sent t.wire) ∧
      t.txPkts = UInt64.ofNat t.counted.length := by
  obtain ⟨l, t, hrun, -, hgood⟩ := exists_run_of_exec (step (Vector.replicate 6 1))
    (fun _ _ => true) (fun t => t.wire.length == 1) (start (fun _ => 0) fun _ _ => 0) onePacket
    (by decide +kernel)
  obtain ⟨hsent, -, hpkts, -⟩ := txPath_forwards _ _ _ hrun
  exact ⟨t, eq_of_beq hgood, hsent, hpkts⟩

/-- It is not lost. -/
theorem txPath_lossless_onePacket :
    ∃ t : TxPath, t.wire.length = 1 ∧
      t.wire = (t.settled.filter Carriable).map (·.message (Vector.replicate 6 1)) := by
  obtain ⟨l, t, hrun, hok, hgood⟩ := exists_run_of_exec (step (Vector.replicate 6 1))
    (fun s a => !s.drops a) (fun t => t.wire.length == 1) (start (fun _ => 0) fun _ _ => 0)
    onePacket (by decide +kernel)
  exact ⟨t, eq_of_beq hgood, (txPath_lossless_iff _ _ _ hrun).mpr fun p hp => by
    simpa using hok p hp⟩

end TxPath

end AndroidTether
