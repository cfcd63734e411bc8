import AndroidTether.Arp
import AndroidTether.ProtoRndis

namespace AndroidTether

open Bytes

/-!
# From USB to the utun

`process_rx_frame` and `rx_frame_callback` of `main.c`: learn the gateway's hardware
address, answer ARP requests, hand everything else to `frame_eth_to_utun` and the utun.

* `rxFrameCallback_bridged` — a transfer of wrapped frames, each the frame of an accepted
  packet or ARP, writes exactly the packets to the utun.
-/

/-- What the surroundings of one call of `process_rx_frame` are: the results of `malloc`,
    `libusb_alloc_transfer` and `libusb_submit_transfer`, and what its uninitialised buffers
    hold. -/
structure RxEnv where
  malloc : Bool
  allocTransfer : Bool
  submitTransfer : Bool
  abuf : Mem
  txbuf : Mem
  tbuf : Mem

/-- The fields of `bridge_ctx_t` that the receiving side uses, and what it did. -/
structure RxCtx where
  mac : Mac
  ourIp : InAddr
  gwMac : Mac
  gwMacLearned : Bool
  rxPkts : UInt64
  rxBytes : UInt64
  /-- arguments of the calls of `utun_write` -/
  utunWrites : List (List UInt8)
  /-- ARP replies that are under way -/
  arpReplies : List (List UInt8)
  /-- calls of `process_rx_frame` -/
  frames : Nat

/-- Learn the gateway's address from the first frame whose source does not start with
    `0xFF`. -/
def learnGateway (ctx : RxCtx) (frame : List UInt8) : RxCtx :=
  if ctx.gwMacLearned = false ∧ sizeofEthHdr ≤ frame.length then
    if ofList frame 6 ≠ 0xFF then
      { ctx with gwMac := macAt (ofList frame) 6, gwMacLearned := true }
    else ctx
  else ctx

/-- Answer an ARP request.  A reply whose transfer was not submitted is freed again. -/
def answerArp (env : RxEnv) (ctx : RxCtx) (frame : List UInt8) : RxCtx :=
  let arp := arpHandleRequest frame ethBufSize ctx.mac ctx.ourIp
  if arp.ret > 0 ∧ env.malloc then
    let wrapped := rndisDrvWrapFrame (arp.packet env.abuf) rndisBufSize
    if wrapped.ret > 0 ∧ env.allocTransfer ∧ env.submitTransfer then
      { ctx with arpReplies := ctx.arpReplies ++ [wrapped.packet env.txbuf] }
    else ctx
  else ctx

/-- The last part of `process_rx_frame`: into the utun, and count. -/
def injectFrame (env : RxEnv) (ctx : RxCtx) (frame : List UInt8) : RxCtx :=
  let utun := frameEthToUtun frame (ethBufSize + 256)
  if utun.ret > 0 then
    { ctx with
      utunWrites := ctx.utunWrites ++ [utun.packet env.tbuf]
      rxPkts := ctx.rxPkts + 1
      rxBytes := ctx.rxBytes + UInt64.ofNat frame.length }
  else ctx

/-- `process_rx_frame` -/
def processRxFrame (env : RxEnv) (ctx : RxCtx) (frame : List UInt8) : RxCtx :=
  let ctx := learnGateway { ctx with frames := ctx.frames + 1 } frame
  if sizeofEthHdr ≤ frame.length ∧ etherTypeOf frame = arpEtherType then answerArp env ctx frame
  else injectFrame env ctx frame

/-- `rx_frame_callback`, for frames that lie in `m`; `env` gives the surroundings call by
    call. -/
def rxFrameCallback (env : Nat → RxEnv) (m : Mem) (ctx : RxCtx) (frame : Span) : RxCtx :=
  processRxFrame (env ctx.frames) ctx (frame.bytes m)

/-! ### What is written -/

/-- The part of the context that is about the utun. -/
structure RxOut where
  writes : List (List UInt8)
  pkts : UInt64
  bytes : UInt64

/-- Written and counted so far. -/
def RxCtx.out (ctx : RxCtx) : RxOut := ⟨ctx.utunWrites, ctx.rxPkts, ctx.rxBytes⟩

/-- Learning the gateway writes nothing out. -/
@[simp] theorem learnGateway_out (ctx : RxCtx) (frame : List UInt8) :
    (learnGateway ctx frame).out = ctx.out := by
  unfold learnGateway
  split
  · split <;> rfl
  · rfl

/-- Nor does answering a request. -/
@[simp] theorem answerArp_out (env : RxEnv) (ctx : RxCtx) (frame : List UInt8) :
    (answerArp env ctx frame).out = ctx.out := by
  unfold answerArp
  dsimp only
  split
  · split <;> rfl
  · rfl

/-- An ARP frame is not written and not counted. -/
theorem processRxFrame_arp (env : RxEnv) (ctx : RxCtx) {frame : List UInt8}
    (hlen : sizeofEthHdr ≤ frame.length) (htype : etherTypeOf frame = arpEtherType) :
    (processRxFrame env ctx frame).out = ctx.out := by
  rw [processRxFrame, if_pos ⟨hlen, htype⟩, answerArp_out, learnGateway_out]
  rfl

/-- A frame that is not ARP and turns into a packet is written once and counted. -/
theorem processRxFrame_ip (env : RxEnv) (ctx : RxCtx) {frame : List UInt8}
    (htype : etherTypeOf frame ≠ arpEtherType)
    (hret : 0 < (frameEthToUtun frame (ethBufSize + 256)).ret) :
    (processRxFrame env ctx frame).out =
      ⟨ctx.utunWrites ++ [(frameEthToUtun frame (ethBufSize + 256)).packet env.tbuf],
        ctx.rxPkts + 1, ctx.rxBytes + UInt64.ofNat frame.length⟩ := by
  have hctx := learnGateway_out { ctx with frames := ctx.frames + 1 } frame
  simp only [RxCtx.out, RxOut.mk.injEq] at hctx
  obtain ⟨hwrites, hpkts, hbytes⟩ := hctx
  rw [processRxFrame, if_neg (fun h => htype h.2), injectFrame, if_pos hret]
  simp only [RxCtx.out, hwrites, hpkts, hbytes]

/-! ### A transfer -/

/-- A frame on its way to us: the frame of an accepted packet, or ARP traffic. -/
inductive Inbound where
  | packet (utunPkt : List UInt8) (srcMac gatewayMac : Mac) (ethBuf : Mem)
  | arp (frame : List UInt8)

namespace Inbound

/-- The Ethernet frame. -/
def frame : Inbound → List UInt8
  | packet utunPkt srcMac gatewayMac ethBuf =>
    (frameIpToEth utunPkt ethBufSize srcMac gatewayMac).packet ethBuf
  | arp frame => frame

/-- `frame_ip_to_eth` accepted the packet; an ARP frame has a header that says so. -/
def Valid : Inbound → Prop
  | packet utunPkt srcMac gatewayMac _ => (frameIpToEth utunPkt ethBufSize srcMac gatewayMac).ret ≠ -1
  | arp frame => sizeofEthHdr ≤ frame.length ∧ etherTypeOf frame = arpEtherType

instance : (item : Inbound) → Decidable item.Valid
  | packet utunPkt srcMac gatewayMac _ =>
    inferInstanceAs (Decidable ((frameIpToEth utunPkt ethBufSize srcMac gatewayMac).ret ≠ -1))
  | arp frame =>
    inferInstanceAs (Decidable (sizeofEthHdr ≤ frame.length ∧ etherTypeOf frame = arpEtherType))

/-- The packet a frame carries. -/
def packet? : Inbound → Option (List UInt8)
  | packet utunPkt _ _ _ => some utunPkt
  | arp _ => none

/-- The bytes `rx_bytes` is to count. -/
def countedBytes : Inbound → Nat
  | item@(packet ..) => item.frame.length
  | arp _ => 0

end Inbound

/-- A valid frame that was wrapped into a buffer that is large enough. -/
structure Wrapped where
  item : Inbound
  valid : item.Valid
  outSize : Nat
  out : Mem
  fits : sizeofRndisDataPacket + item.frame.length ≤ outSize

/-- The message `rndis_drv_wrap_frame` made of the frame. -/
def Wrapped.transferItem (w : Wrapped) : TransferItem := .frame w.item.frame w.outSize w.out

/-- The bytes of the message. -/
def Wrapped.bytes (w : Wrapped) : List UInt8 :=
  (rndisDrvWrapFrame w.item.frame w.outSize).packet w.out

namespace Wrapped

/-- A wrapped frame is a valid message of a transfer. -/
theorem transferItem_valid (w : Wrapped) : w.transferItem.Valid := by
  refine ⟨?_, w.fits⟩
  have hpos : 0 < w.item.frame.length := by
    have hv := w.valid
    cases hitem : w.item with
    | packet utunPkt srcMac gatewayMac ethBuf =>
      rw [hitem] at hv
      obtain ⟨-, -, hlen, -⟩ := frameEthToUtun_ipToEth hv (by decide)
        (Nat.le_refl ethBufSize) (by decide) ethBuf
      exact Nat.lt_of_lt_of_le (by decide) hlen
    | arp frame =>
      rw [hitem] at hv
      exact Nat.lt_of_lt_of_le (by decide) hv.1
  exact List.length_pos_iff.mp hpos

end Wrapped

/-- What one frame does to the utun and the counters. -/
theorem processRxFrame_inbound (env : RxEnv) (ctx : RxCtx) {item : Inbound} (hv : item.Valid) :
    ∃ delivered, List.Forall₂ Delivers item.packet?.toList delivered ∧
      (processRxFrame env ctx item.frame).out =
        ⟨ctx.utunWrites ++ delivered, ctx.rxPkts + UInt64.ofNat item.packet?.toList.length,
          ctx.rxBytes + UInt64.ofNat item.countedBytes⟩ := by
  cases item with
  | packet utunPkt srcMac gatewayMac ethBuf =>
    obtain ⟨delivered, hdel, -, htype, hret, hpacket⟩ :=
      frameEthToUtun_ipToEth hv (by decide) (by decide : ethBufSize ≤ ethBufSize + 256)
        (by decide) ethBuf
    have hout := processRxFrame_ip env ctx htype hret
    rw [hpacket] at hout
    exact ⟨[delivered], .cons hdel .nil, hout⟩
  | arp frame =>
    -- `process_rx_frame` returns before the utun and the counters
    refine ⟨[], .nil, ?_⟩
    have hout := processRxFrame_arp env ctx hv.1 hv.2
    simp only [Inbound.frame, hout]
    simp [RxCtx.out, Inbound.packet?, Inbound.countedBytes]

/-- What a list of frames does to the utun and the counters. -/
theorem processRxFrame_inbounds (env : Nat → RxEnv) {items : List Inbound}
    (hv : ∀ item ∈ items, item.Valid) (ctx : RxCtx) :
    ∃ delivered, List.Forall₂ Delivers (items.filterMap (·.packet?)) delivered ∧
      ((items.map (·.frame)).foldl (fun ctx fr => processRxFrame (env ctx.frames) ctx fr) ctx).out =
        ⟨ctx.utunWrites ++ delivered,
          ctx.rxPkts + UInt64.ofNat (items.filterMap (·.packet?)).length,
          ctx.rxBytes + UInt64.ofNat (items.map (·.countedBytes)).sum⟩ := by
  induction items generalizing ctx with
  | nil => exact ⟨[], .nil, by simp [RxCtx.out]⟩
  | cons item items ih =>
    -- the rest of the frames meet the context that this one leaves
    obtain ⟨d₁, hd₁, hout₁⟩ := processRxFrame_inbound (env ctx.frames) ctx (hv item (by simp))
    obtain ⟨d₂, hd₂, hout₂⟩ := ih (fun i hi => hv i (by simp [hi]))
      (processRxFrame (env ctx.frames) ctx item.frame)
    simp only [RxCtx.out, RxOut.mk.injEq] at hout₁
    obtain ⟨hwrites, hpkts, hbytes⟩ := hout₁
    have hsplit : (item :: items).filterMap (·.packet?) =
        item.packet?.toList ++ items.filterMap (·.packet?) := by
      cases h : item.packet? <;> simp [h]
    refine ⟨d₁ ++ d₂, hsplit ▸ List.rel_append hd₁ hd₂, ?_⟩
    rw [List.map_cons, List.foldl_cons, hout₂, hwrites, hpkts, hbytes, hsplit]
    simp [UInt64.ofNat_add, List.append_assoc, UInt64.add_assoc]

/-- **Bridge round trip.**  Frames of accepted packets and ARP frames, in any order, each
    wrapped and all in one transfer of at most `RNDIS_BUF_SIZE` bytes: unwrapping it with
    `rx_frame_callback` returns, has written one delivered packet for every packet, in
    order, and nothing else, and has counted them and the bytes of their frames. -/
theorem rxFrameCallback_bridged (items : List Wrapped) (m : Mem) (env : Nat → RxEnv) (ctx : RxCtx)
    (hsize : (items.map fun w => sizeofRndisDataPacket + w.item.frame.length).sum ≤ rndisBufSize)
    (hat : At m 0 (items.flatMap (·.bytes))) :
    ∃ fuel ctx' delivered,
      rndisDrvUnwrapData m (items.flatMap (·.bytes)).length (rxFrameCallback env m) fuel ctx =
        some ctx' ∧
      List.Forall₂ Delivers (items.filterMap (·.item.packet?)) delivered ∧
      ctx'.utunWrites = ctx.utunWrites ++ delivered ∧
      ctx'.rxPkts = ctx.rxPkts + UInt64.ofNat (items.filterMap (·.item.packet?)).length ∧
      ctx'.rxBytes = ctx.rxBytes + UInt64.ofNat (items.map (·.item.countedBytes)).sum := by
  have hbytes : items.flatMap (·.bytes) =
      (items.map (·.transferItem)).flatMap (·.bytes) ++ [] := by
    rw [List.append_nil, List.flatMap_map]
    rfl
  have hframes : (items.map (·.transferItem)).filterMap (·.frame?) =
      items.map fun w => w.item.frame := by
    rw [List.filterMap_map, ← List.filterMap_eq_map]
    rfl
  have hvalid : ∀ item ∈ items.map (·.transferItem), item.Valid := by
    simp only [List.mem_map]
    rintro _ ⟨w, -, rfl⟩
    exact w.transferItem_valid
  rw [hbytes] at hat ⊢
  have hcallback : ∀ ctx f, rxFrameCallback env m ctx f =
      processRxFrame (env ctx.frames) ctx (f.bytes m) := fun _ _ => rfl
  obtain ⟨fuel, hrun⟩ := rndisDrvUnwrapData_items
    (h := fun ctx fr => processRxFrame (env ctx.frames) ctx fr) hcallback hvalid (by decide) (by
      rw [List.map_map]
      exact Nat.lt_of_le_of_lt hsize (by decide)) hat ctx
  have hinbound : ∀ item ∈ items.map (·.item), item.Valid := by
    simp only [List.mem_map]
    rintro _ ⟨w, -, rfl⟩
    exact w.valid
  obtain ⟨delivered, hdel, hout⟩ := processRxFrame_inbounds env hinbound ctx
  rw [List.filterMap_map] at hdel hout
  rw [List.map_map, List.map_map] at hout
  rw [hframes] at hrun
  simp only [RxCtx.out, RxOut.mk.injEq] at hout
  exact ⟨fuel, _, delivered, hrun, hdel, hout⟩

/-- An IPv4 packet under its own header, an ARP frame without a body, and an IPv6 packet
    under a header in host order. -/
def mixedTraffic : List Wrapped :=
  [⟨.packet (be32Bytes 2 ++ [0x45, 1]) (.replicate 6 7) (.replicate 6 8) (fun _ => 0), by decide,
      100, fun _ => 0, by decide⟩,
    ⟨.arp (List.replicate 12 9 ++ be16Bytes 0x0806), by decide, 100, fun _ => 1, by decide⟩,
    ⟨.packet (le32Bytes 30 ++ [0x60, 2]) (.replicate 6 7) (.replicate 6 8) (fun _ => 0), by decide,
      100, fun _ => 0, by decide⟩]

/-- The context before the first frame, for hardware address 07:07:07:07:07:07. -/
def freshRxCtx : RxCtx :=
  ⟨.replicate 6 7, .zero, .replicate 6 0xFF, false, 0, 0, [], [], 0⟩

/-- The two packets are written and counted, the ARP frame is not. -/
theorem rxFrameCallback_bridged_mixed :
    ∃ fuel ctx',
      rndisDrvUnwrapData (ofList (mixedTraffic.flatMap (·.bytes)))
        (mixedTraffic.flatMap (·.bytes)).length
        (rxFrameCallback (fun _ => ⟨true, true, true, fun _ => 0, fun _ => 0, fun _ => 0⟩)
          (ofList (mixedTraffic.flatMap (·.bytes)))) fuel freshRxCtx = some ctx' ∧
      ctx'.utunWrites.length = 2 ∧ ctx'.rxPkts = 2 ∧ ctx'.rxBytes = 32 := by
  obtain ⟨fuel, ctx', delivered, hrun, hdel, hwrites, hpkts, hbytes⟩ :=
    rxFrameCallback_bridged mixedTraffic _ _ freshRxCtx (by decide) (at_ofList _)
  refine ⟨fuel, ctx', hrun, ?_, hpkts.trans rfl, hbytes.trans (by decide)⟩
  rw [hwrites, freshRxCtx, List.nil_append, ← hdel.length_eq]
  rfl

end AndroidTether
