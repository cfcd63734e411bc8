import AndroidTether.RxPath

namespace AndroidTether

open Bytes WhileLoop

/-!
# Every transfer that is received

`rx_complete` of `main.c` on the transfers that complete, one after the other, whatever bytes
the other end puts into them: `unwrap_data` finds frames, and `process_rx_frame` is called with
each.  `RxPath` says what comes of transfers that a driver like this one has filled; here nothing
is known about them.

* `unwrap_eq_foldl` — a callback sees the frames that a recording callback records;
* `RxCtx.after` — what a list of frames leaves behind, one field at a time;
* `rxTransfers_eq` — the transfers leave behind what their frames do.
-/

/-! ### The frames of a transfer -/

section Unwrap

variable {σ : Type} (m : Mem) (usbLen : Nat) (onFrame : σ → Span → σ)

/-- One round: the walk is over, or hands the frame of the message over, if it has one. -/
theorem unwrapStep_eq (s : Nat × σ) :
    msgWalkStep m usbLen (unwrapVisit onFrame) s =
      if MsgFits m usbLen s.1 then
        .yield (u32 (s.1 + msgLenAt m s.1), (frameAt m s.1).toList.foldl onFrame s.2)
      else .done s := by
  rw [msgWalkStep_eq]
  cases frameAt m s.1 <;> rfl

/-- One round with a callback does to its context what the frame recorded in that round does. -/
theorem unwrapStep_foldl (ctx : σ) (s : Nat × List Span) :
    msgWalkStep m usbLen (unwrapVisit onFrame) (s.1, s.2.foldl onFrame ctx) =
      mapStep (fun s => (s.1, s.2.foldl onFrame ctx))
        (msgWalkStep m usbLen (unwrapVisit recordFrame) s) := by
  rw [unwrapStep_eq, unwrapStep_eq]
  by_cases hfits : MsgFits m usbLen s.1
  · rw [if_pos hfits, if_pos hfits, mapStep_yield]
    cases frameAt m s.1 <;> simp [recordFrame]
  · rw [if_neg hfits, if_neg hfits, mapStep_done]

/-- Whatever the callback does, `rndis_drv_unwrap_data` calls it with the frames it would call
    any other with, in the same order. -/
theorem unwrap_eq_foldl (fuel : Nat) (ctx : σ) :
    rndisDrvUnwrapData m usbLen onFrame fuel ctx =
      (rndisDrvUnwrapData m usbLen recordFrame fuel []).map (·.foldl onFrame ctx) := by
  have hmap := iterate_map (f := fun s : Nat × List Span => (s.1, s.2.foldl onFrame ctx))
    (unwrapStep_foldl m usbLen onFrame ctx) fuel (0, [])
  simp only [List.foldl_nil] at hmap
  unfold rndisDrvUnwrapData
  rw [hmap]
  cases iterate (msgWalkStep m usbLen (unwrapVisit recordFrame)) fuel (0, []) <;> rfl

end Unwrap

/-- A transfer that completed: its buffer and `actual_length`. -/
structure RxTransfer where
  buf : Mem
  actualLength : Nat

namespace RxTransfer

/-- The frames that are found in it, with at most `fuel` rounds of the loop. -/
def frames (fuel : Nat) (t : RxTransfer) : Option (List (List UInt8)) :=
  if 0 < t.actualLength then
    (rndisDrvUnwrapData t.buf t.actualLength recordFrame fuel []).map
      (·.map (·.bytes t.buf))
  else some []

/-- `rx_complete`, the case `LIBUSB_TRANSFER_COMPLETED`. -/
def complete (env : Nat → RxEnv) (fuel : Nat) (t : RxTransfer) (ctx : RxCtx) : Option RxCtx :=
  if 0 < t.actualLength then
    rndisDrvUnwrapData t.buf t.actualLength (rxFrameCallback env t.buf) fuel ctx
  else some ctx

/-- The walk of a transfer handles its frames in order. -/
theorem complete_eq (env : Nat → RxEnv) (fuel : Nat) (t : RxTransfer) (ctx : RxCtx) :
    t.complete env fuel ctx =
      (t.frames fuel).map (·.foldl (fun ctx fr => processRxFrame (env ctx.frames) ctx fr) ctx) := by
  unfold complete frames
  split
  · rw [unwrap_eq_foldl, Option.map_map]
    congr 1
    funext spans
    show spans.foldl (rxFrameCallback env t.buf) ctx = (spans.map (·.bytes t.buf)).foldl _ ctx
    rw [List.foldl_map]
    rfl
  · rfl

end RxTransfer

/-- The transfers complete one after the other; `none` when a walk needs more than `fuel`
    rounds. -/
def rxTransfers (env : Nat → RxEnv) (fuel : Nat) : List RxTransfer → RxCtx → Option RxCtx
  | [], ctx => some ctx
  | t :: ts, ctx => (t.complete env fuel ctx).bind (rxTransfers env fuel ts)

/-- The frames of all of them. -/
def framesOf (fuel : Nat) : List RxTransfer → Option (List (List UInt8))
  | [] => some []
  | t :: ts => (t.frames fuel).bind fun frs => (framesOf fuel ts).map (frs ++ ·)

/-- The transfers do what `process_rx_frame` does on their frames. -/
theorem rxTransfers_foldl (env : Nat → RxEnv) (fuel : Nat) (ts : List RxTransfer) (ctx : RxCtx) :
    rxTransfers env fuel ts ctx =
      (framesOf fuel ts).map
        (·.foldl (fun ctx fr => processRxFrame (env ctx.frames) ctx fr) ctx) := by
  induction ts generalizing ctx with
  | nil => rfl
  | cons t ts ih =>
    rw [rxTransfers, framesOf, RxTransfer.complete_eq]
    cases t.frames fuel with
    | none => rfl
    | some frs =>
      show rxTransfers env fuel ts _ = ((framesOf fuel ts).map _).map _
      rw [ih, Option.map_map]
      congr 1
      funext rest
      show _ = (frs ++ rest).foldl _ ctx
      rw [List.foldl_append]

/-! ### What frames leave behind -/

/-- The packet that `frame_eth_to_utun` makes of a frame in a buffer of `ETH_BUF_SIZE + 256`
    bytes. -/
def utunPacket (frame : List UInt8) : Option (List UInt8) :=
  if sizeofEthHdr ≤ frame.length ∧ 4 + (frame.length - sizeofEthHdr) ≤ ethBufSize + 256 then
    if etherTypeOf frame = 0x0800 then some (be32Bytes afInet ++ frame.drop sizeofEthHdr)
    else if etherTypeOf frame = 0x86DD then some (be32Bytes afInet6 ++ frame.drop sizeofEthHdr)
    else none
  else none

/-- The bytes that `rx_bytes` counts for a frame. -/
def countedLength (frame : List UInt8) : Nat := (utunPacket frame).elim 0 fun _ => frame.length

/-- The address that a frame teaches. -/
def taughtMac (frame : List UInt8) : Option Mac :=
  if sizeofEthHdr ≤ frame.length ∧ ofList frame 6 ≠ 0xFF then some (macAt (ofList frame) 6)
  else none

/-- Whether a frame asks is a matter of its first 42 bytes. -/
instance (frame : List UInt8) (ip : InAddr) : Decidable (AsksFor frame ip) :=
  decidable_of_iff (42 ≤ frame.length ∧ (arpFrame frame).etherType = arpEtherType ∧
      (arpFrame frame).opcode = arpOpRequest ∧ (arpFrame frame).targetIp = ip)
    ⟨fun h => ⟨h.1, h.2.1, h.2.2.1, h.2.2.2⟩, fun h => ⟨h.1, h.2, h.3, h.4⟩⟩

/-- The message that answers a frame, when nothing its sending needs is missing. -/
def arpAnswer (env : RxEnv) (mac : Mac) (ip : InAddr) (frame : List UInt8) :
    Option (List UInt8) :=
  if AsksFor frame ip ∧ env.malloc ∧ env.allocTransfer ∧ env.submitTransfer then
    some (dataPacketBytes
      (arpReplyBytes mac (arpFrame frame).senderMac ip (arpFrame frame).senderIp))
  else none

/-- What the context is after `process_rx_frame` has had the frames. -/
def RxCtx.after (env : Nat → RxEnv) (ctx : RxCtx) (frs : List (List UInt8)) : RxCtx :=
  { ctx with
    gwMac := if ctx.gwMacLearned then ctx.gwMac else (frs.findSome? taughtMac).getD ctx.gwMac
    gwMacLearned := ctx.gwMacLearned || (frs.findSome? taughtMac).isSome
    rxPkts := ctx.rxPkts + UInt64.ofNat (frs.filterMap utunPacket).length
    rxBytes := ctx.rxBytes + UInt64.ofNat (frs.map countedLength).sum
    utunWrites := ctx.utunWrites ++ frs.filterMap utunPacket
    arpReplies := ctx.arpReplies ++ (frs.zipIdx ctx.frames).filterMap fun p =>
      arpAnswer (env p.2) ctx.mac ctx.ourIp p.1
    frames := ctx.frames + frs.length }

/-! ### One frame -/

section Frame

variable {frame : List UInt8}

/-- Learning is about the two fields of the gateway. -/
theorem learnGateway_eq (ctx : RxCtx) (frame : List UInt8) :
    learnGateway ctx frame =
      { ctx with
        gwMac := if ctx.gwMacLearned then ctx.gwMac else (taughtMac frame).getD ctx.gwMac
        gwMacLearned := ctx.gwMacLearned || (taughtMac frame).isSome } := by
  obtain ⟨mac, ourIp, gwMac, learned, rxPkts, rxBytes, utunWrites, arpReplies, frames⟩ := ctx
  unfold learnGateway taughtMac
  cases learned with
  | true => simp
  | false =>
    by_cases hlen : sizeofEthHdr ≤ frame.length <;> by_cases hsrc : ofList frame 6 = 0xFF <;>
      simp [hlen, hsrc]

/-- `frame_eth_to_utun` returns a positive length exactly where there is a packet, and then
    leaves it in the buffer, whatever that held. -/
theorem frameEthToUtun_utunPacket (frame : List UInt8) :
    (utunPacket frame = none ∧ ¬ 0 < (frameEthToUtun frame (ethBufSize + 256)).ret) ∨
      ∃ packet, utunPacket frame = some packet ∧
        0 < (frameEthToUtun frame (ethBufSize + 256)).ret ∧
        ∀ m, (frameEthToUtun frame (ethBufSize + 256)).packet m = packet := by
  have hfail : ¬ 0 < Built.fail.ret := by decide
  by_cases hlen : sizeofEthHdr ≤ frame.length
  · by_cases hfit : 4 + (frame.length - sizeofEthHdr) ≤ ethBufSize + 256
    · have hroom := And.intro hlen hfit
      by_cases h4 : etherTypeOf frame = 0x0800
      · have haf : etherTypeOf frame = etherTypeOfAf afInet := h4
        have hip := frameEthToUtun_ip (.inl rfl) haf hlen hfit (by decide)
        exact .inr ⟨_, by rw [utunPacket, if_pos hroom, if_pos h4], hip⟩
      · by_cases h6 : etherTypeOf frame = 0x86DD
        · have haf : etherTypeOf frame = etherTypeOfAf afInet6 := h6
          have hip := frameEthToUtun_ip (.inr rfl) haf hlen hfit (by decide)
          exact .inr ⟨_, by rw [utunPacket, if_pos hroom, if_neg h4, if_pos h6], hip⟩
        · -- neither of the two families
          refine .inl ⟨by rw [utunPacket, if_pos hroom, if_neg h4, if_neg h6], ?_⟩
          rw [frameEthToUtun, if_neg (Nat.not_lt.mpr hlen)]
          simp only [if_neg (Nat.not_lt.mpr hfit), if_neg h4, if_neg h6]
          exact hfail
    · refine .inl ⟨by rw [utunPacket, if_neg fun h => hfit h.2], ?_⟩
      rw [frameEthToUtun, if_neg (Nat.not_lt.mpr hlen)]
      simp only [if_pos (Nat.not_le.mp hfit)]
      exact hfail
  · refine .inl ⟨by rw [utunPacket, if_neg fun h => hlen h.1], ?_⟩
    rw [frameEthToUtun, if_pos (Nat.not_le.mp hlen)]
    exact hfail

/-- Injecting is about the utun and the two counters. -/
theorem injectFrame_eq (env : RxEnv) (ctx : RxCtx) (frame : List UInt8) :
    injectFrame env ctx frame =
      { ctx with
        utunWrites := ctx.utunWrites ++ (utunPacket frame).toList
        rxPkts := ctx.rxPkts + UInt64.ofNat (utunPacket frame).toList.length
        rxBytes := ctx.rxBytes + UInt64.ofNat (countedLength frame) } := by
  rcases frameEthToUtun_utunPacket frame with ⟨hnone, hret⟩ | ⟨packet, hsome, hret, hpacket⟩
  · rw [injectFrame, if_neg hret]
    simp [hnone, countedLength]
  · rw [injectFrame, if_pos hret, hpacket]
    simp [hsome, countedLength]

/-- Answering is about the replies under way. -/
theorem answerArp_eq (env : RxEnv) (ctx : RxCtx) (frame : List UInt8) :
    answerArp env ctx frame =
      { ctx with
        arpReplies := ctx.arpReplies ++ (arpAnswer env ctx.mac ctx.ourIp frame).toList } := by
  unfold answerArp arpAnswer
  by_cases hasks : AsksFor frame ctx.ourIp
  · -- the reply is 42 bytes long and fits both buffers
    have hsize : 42 ≤ ethBufSize := by decide
    have hlen := arpReplyBytes_length ctx.mac (arpFrame frame).senderMac ctx.ourIp
      (arpFrame frame).senderIp
    have hfit : sizeofRndisDataPacket + (arpReplyBytes ctx.mac (arpFrame frame).senderMac
        ctx.ourIp (arpFrame frame).senderIp).length ≤ rndisBufSize := by
      rw [hlen]
      decide
    have hlt := Nat.lt_of_le_of_lt hfit (by decide : rndisBufSize < 2 ^ 31)
    have hret : 0 < (arpBuildReply ethBufSize ctx.mac ctx.ourIp (arpFrame frame).senderMac
        (arpFrame frame).senderIp).ret := by
      simp [arpBuildReply_eq _ _ _ _ hsize]
    have hwrapped : 0 < (rndisDrvWrapFrame (arpReplyBytes ctx.mac (arpFrame frame).senderMac
        ctx.ourIp (arpFrame frame).senderIp) rndisBufSize).ret := by
      rw [rndisDrvWrapFrame, rndisBuildDataPacket_ret hfit hlt, hlen]
      decide
    simp only [arpHandleRequest_of_asks hasks, arpBuildReply_packet _ _ _ _ hsize, hret, hwrapped,
      hasks, true_and]
    rw [rndisDrvWrapFrame, rndisBuildDataPacket_packet _ hfit hlt]
    cases env.malloc <;> cases env.allocTransfer <;> cases env.submitTransfer <;> simp
  · rw [arpHandleRequest_of_not_asks hasks, if_neg fun h => absurd h.1 (by decide),
      if_neg fun h => hasks h.1]
    simp

/-- `process_rx_frame` does to the context what the frame leaves behind. -/
theorem processRxFrame_after (env : Nat → RxEnv) (ctx : RxCtx) (frame : List UInt8) :
    processRxFrame (env ctx.frames) ctx frame = ctx.after env [frame] := by
  have hone {α β : Type} (f : α → Option β) (a : α) : [a].filterMap f = (f a).toList := by
    cases h : f a <;> simp [h]
  unfold processRxFrame RxCtx.after
  simp only [learnGateway_eq, hone, List.zipIdx_singleton]
  by_cases harp : sizeofEthHdr ≤ frame.length ∧ etherTypeOf frame = arpEtherType
  · -- an ARP frame is no IP frame
    have hnone : utunPacket frame = none := by
      simp [utunPacket, harp.2, arpEtherType]
    rw [if_pos harp, answerArp_eq]
    simp [hnone, countedLength]
  · have hanswer : arpAnswer (env ctx.frames) ctx.mac ctx.ourIp frame = none := by
      rw [arpAnswer, if_neg]
      rintro ⟨hasks, -⟩
      exact harp ⟨Nat.le_trans (by decide) hasks.complete, hasks.etherType⟩
    rw [if_neg harp, injectFrame_eq]
    simp [hanswer]

end Frame

/-! ### All of them -/

section All

variable (env : Nat → RxEnv) (ctx : RxCtx)

/-- No frames. -/
@[simp] theorem RxCtx.after_nil : ctx.after env [] = ctx := by
  simp [RxCtx.after]

/-- Frames after frames: the second lot finds the numbers, the gateway and the counters that the
    first lot left. -/
theorem RxCtx.after_append (frs rest : List (List UInt8)) :
    (ctx.after env frs).after env rest = ctx.after env (frs ++ rest) := by
  obtain ⟨mac, ourIp, gwMac, learned, rxPkts, rxBytes, utunWrites, arpReplies, frames⟩ := ctx
  simp only [RxCtx.after, RxCtx.mk.injEq, true_and, List.filterMap_append, List.append_assoc,
    List.length_append, List.map_append, List.sum_append, UInt64.ofNat_add, UInt64.add_assoc,
    Nat.add_assoc, List.zipIdx_append, List.findSome?_append, and_true]
  -- the first frame that teaches is in one of the two lots
  cases learned <;> cases frs.findSome? taughtMac <;> simp

/-- The frames one after the other. -/
theorem foldl_processRxFrame (frs : List (List UInt8)) :
    frs.foldl (fun ctx fr => processRxFrame (env ctx.frames) ctx fr) ctx = ctx.after env frs := by
  induction frs generalizing ctx with
  | nil => exact (ctx.after_nil env).symm
  | cons fr frs ih =>
    rw [List.foldl_cons, ih, processRxFrame_after, RxCtx.after_append, List.singleton_append]

/-- **What the receiving side does**, over any transfers with any bytes in them.  It calls
    `process_rx_frame` once with every frame, in the order of the transfers and of the messages in
    each; every IP frame that fits is one packet written to the utun, and nothing else is written;
    `rx_pkts` and `rx_bytes` count these frames; the gateway is the sender of the first frame that
    teaches one; and a reply goes out for every frame that asks for our address, as long as
    nothing its sending needs is missing. -/
theorem rxTransfers_eq (fuel : Nat) (ts : List RxTransfer) :
    rxTransfers env fuel ts ctx = (framesOf fuel ts).map (ctx.after env) := by
  rw [rxTransfers_foldl]
  congr 1
  funext frs
  exact foldl_processRxFrame env ctx frs

end All

end AndroidTether
