import AndroidTether.DhcpOptions
import AndroidTether.Frame

namespace AndroidTether

open Bytes

/-!
# ARP

`arp_build_reply` and `arp_handle_request` of `arp.c`.  An ARP packet lies behind the
Ethernet header: opcode at byte 20 of the frame, sender at 22, target at 32.

* `arpBuildReply_packet` — the reply as bytes; `arpFrame_replyBytes` — and as header fields;
* `arpHandleRequest_answers` — which frames are answered, how, and that no reply is.
-/

/-- `ARP_ETHERTYPE` -/
def arpEtherType : Nat := 0x0806
/-- `ARP_HW_ETHERNET` -/
def arpHwEthernet : Nat := 1
/-- `ARP_OP_REQUEST` -/
def arpOpRequest : Nat := 1
/-- `ARP_OP_REPLY` -/
def arpOpReply : Nat := 2

/-- `sizeof(arp_packet_t)` -/
def sizeofArpPacket : Nat := 28

/-- The hardware address whose six bytes lie at `a`. -/
def macAt (m : Mem) (a : Nat) : Mac := Vector.ofFn fun i => m (a + i)

/-- `arp_build_reply` -/
def arpBuildReply (bufSize : Nat) (ourMac : Mac) (ourIp : InAddr) (theirMac : Mac)
    (theirIp : InAddr) : Built :=
  let total := sizeofEthHdr + sizeofArpPacket
  if bufSize < total then .fail
  else
    let arp := sizeofEthHdr
    { ret := toInt total
      stores := [
        ⟨0, List.replicate total 0⟩,
        ⟨0, theirMac.toList⟩,
        ⟨6, ourMac.toList⟩,
        ⟨12, be16Bytes arpEtherType⟩,
        ⟨arp, be16Bytes arpHwEthernet⟩,
        ⟨arp + 2, be16Bytes 0x0800⟩,
        ⟨arp + 4, [6]⟩,
        ⟨arp + 5, [4]⟩,
        ⟨arp + 6, be16Bytes arpOpReply⟩,
        ⟨arp + 8, ourMac.toList⟩,
        ⟨arp + 14, ourIp.bytes⟩,
        ⟨arp + 18, theirMac.toList⟩,
        ⟨arp + 24, theirIp.bytes⟩] }

/-- `return 0;`: no reply, nothing written. -/
def Built.none : Built := ⟨0, []⟩

/-- `arp_handle_request`: of the ARP fields it looks at the opcode and the target address. -/
def arpHandleRequest (frame : List UInt8) (replyBufSize : Nat) (ourMac : Mac) (ourIp : InAddr) :
    Built :=
  let m := ofList frame
  if frame.length < sizeofEthHdr + sizeofArpPacket then .none
  else if etherTypeOf frame ≠ arpEtherType then .none
  else
    let arp := sizeofEthHdr
    if be16 m (arp + 6) = arpOpRequest ∧ inAddrAt m (arp + 24) = ourIp then
      arpBuildReply replyBufSize ourMac ourIp (macAt m (arp + 8)) (inAddrAt m (arp + 14))
    else .none

/-! ### The reply -/

section Reply

variable (ourMac theirMac : Mac) (ourIp theirIp : InAddr)

/-- The fields of the reply, in their order. -/
def arpReplyFields : List (List UInt8) :=
  [theirMac.toList, ourMac.toList, be16Bytes arpEtherType, be16Bytes arpHwEthernet,
    be16Bytes 0x0800, [6], [4], be16Bytes arpOpReply, ourMac.toList, ourIp.bytes, theirMac.toList,
    theirIp.bytes]

/-- The reply frame. -/
def arpReplyBytes : List UInt8 := (arpReplyFields ourMac theirMac ourIp theirIp).flatten

/-- A reply has 42 bytes. -/
@[simp] theorem arpReplyBytes_length :
    (arpReplyBytes ourMac theirMac ourIp theirIp).length = 42 := by
  simp [arpReplyBytes, arpReplyFields, InAddr.bytes]

/-- What `arp_build_reply` returns and writes when there is room. -/
theorem arpBuildReply_eq {bufSize : Nat} (h : 42 ≤ bufSize) :
    arpBuildReply bufSize ourMac ourIp theirMac theirIp =
      { ret := 42
        stores := ⟨0, List.replicate 42 0⟩ ::
          consecutive 0 (arpReplyFields ourMac theirMac ourIp theirIp) } := by
  rw [arpBuildReply, if_neg (by simp only [sizeofEthHdr, sizeofArpPacket]; omega)]
  simp [consecutive, arpReplyFields, sizeofEthHdr, sizeofArpPacket, InAddr.bytes, toInt_of_lt]

/-- What the buffer held before does not matter. -/
theorem arpBuildReply_packet {bufSize : Nat} (h : 42 ≤ bufSize) (m : Mem) :
    (arpBuildReply bufSize ourMac ourIp theirMac theirIp).packet m =
      arpReplyBytes ourMac theirMac ourIp theirIp := by
  have hlen : (42 : Int).toNat = (arpReplyBytes ourMac theirMac ourIp theirIp).length := by
    rw [arpReplyBytes_length]
    rfl
  rw [arpBuildReply_eq _ _ _ _ h, Built.packet, hlen, ← at_iff_slice, storeAll_cons]
  exact at_storeAll_consecutive _ 0 _

end Reply

/-! ### Header fields -/

/-- The fields of `eth_hdr_t` and of the `arp_packet_t` behind it, in host order. -/
structure ArpFrame where
  dst : Mac
  src : Mac
  etherType : Nat
  hwType : Nat
  protoType : Nat
  hwLen : UInt8
  protoLen : UInt8
  opcode : Nat
  senderMac : Mac
  senderIp : InAddr
  targetMac : Mac
  targetIp : InAddr
  deriving DecidableEq

/-- The headers of a frame. -/
def arpFrame (frame : List UInt8) : ArpFrame :=
  let m := ofList frame
  { dst := macAt m 0
    src := macAt m 6
    etherType := be16 m 12
    hwType := be16 m 14
    protoType := be16 m 16
    hwLen := m 18
    protoLen := m 19
    opcode := be16 m 20
    senderMac := macAt m 22
    senderIp := inAddrAt m 28
    targetMac := macAt m 32
    targetIp := inAddrAt m 38 }

/-- A hardware address that stands in memory. -/
theorem macAt_eq {m : Mem} {a : Nat} {mac : Mac} (h : At m a mac.toList) : macAt m a = mac := by
  ext i hi
  have hbyte := h i (by simpa using hi)
  simp [macAt, hbyte, ofList, List.getD_eq_getElem?_getD, hi]

/-- An address that stands in memory. -/
theorem inAddrAt_eq {m : Mem} {a : Nat} {ip : InAddr} (h : At m a ip.bytes) :
    inAddrAt m a = ip := by
  apply InAddr.bytes_injective
  rw [inAddrAt_bytes]
  exact at_iff_slice.mp h

/-- A byte that stands in memory. -/
theorem byte_eq {m : Mem} {a : Nat} {b : UInt8} (h : At m a [b]) : m a = b :=
  h 0 (by simp)

/-- The reply says `arp_packet_t` of IPv4 over Ethernet, is a reply, and names both sides. -/
theorem arpFrame_replyBytes (ourMac theirMac : Mac) (ourIp theirIp : InAddr) :
    arpFrame (arpReplyBytes ourMac theirMac ourIp theirIp) =
      { dst := theirMac
        src := ourMac
        etherType := arpEtherType
        hwType := arpHwEthernet
        protoType := 0x0800
        hwLen := 6
        protoLen := 4
        opcode := arpOpReply
        senderMac := ourMac
        senderIp := ourIp
        targetMac := theirMac
        targetIp := theirIp } := by
  have hat := at_ofList (arpReplyBytes ourMac theirMac ourIp theirIp)
  simp only [arpReplyBytes, arpReplyFields, List.flatten_cons, List.flatten_nil, at_append,
    Vector.length_toList, be16Bytes_length, InAddr.bytes_length, List.length_cons,
    List.length_nil, Nat.zero_add] at hat
  obtain ⟨hdst, hsrc, hether, hhw, hproto, hhwLen, hprotoLen, hop, hsMac, hsIp, htMac, htIp, -⟩ :=
    hat
  simp only [arpFrame, ArpFrame.mk.injEq]
  exact ⟨macAt_eq hdst, macAt_eq hsrc, hether.be16_eq, hhw.be16_eq, hproto.be16_eq,
    byte_eq hhwLen, byte_eq hprotoLen, hop.be16_eq, macAt_eq hsMac, inAddrAt_eq hsIp,
    macAt_eq htMac, inAddrAt_eq htIp⟩

/-! ### Requests and answers -/

/-- What `arp_handle_request` asks of a frame: complete, an ARP request, for `ip`. -/
structure AsksFor (frame : List UInt8) (ip : InAddr) : Prop where
  complete : 42 ≤ frame.length
  etherType : (arpFrame frame).etherType = arpEtherType
  opcode : (arpFrame frame).opcode = arpOpRequest
  target : (arpFrame frame).targetIp = ip

/-- A request for `ip` that says IPv4 over Ethernet in all fields that say so. -/
structure IsArpRequest (frame : List UInt8) (ip : InAddr) : Prop extends AsksFor frame ip where
  hwType : (arpFrame frame).hwType = arpHwEthernet
  protoType : (arpFrame frame).protoType = 0x0800
  hwLen : (arpFrame frame).hwLen = 6
  protoLen : (arpFrame frame).protoLen = 4

/-- The reply goes to the hardware address that asked, binds our address to ours, and nobody
    answers it. -/
structure AnswerTo (frame reply : List UInt8) (ourMac : Mac) (ourIp : InAddr) : Prop where
  header : arpFrame reply =
    { dst := (arpFrame frame).senderMac
      src := ourMac
      etherType := arpEtherType
      hwType := arpHwEthernet
      protoType := 0x0800
      hwLen := 6
      protoLen := 4
      opcode := arpOpReply
      senderMac := ourMac
      senderIp := ourIp
      targetMac := (arpFrame frame).senderMac
      targetIp := (arpFrame frame).senderIp }
  unanswered : ∀ size mac ip, arpHandleRequest reply size mac ip = .none

section Requests

variable {frame : List UInt8} {size : Nat} {ourMac : Mac} {ourIp : InAddr}

/-- A frame that asks for our address is handed to `arp_build_reply`. -/
theorem arpHandleRequest_of_asks (h : AsksFor frame ourIp) :
    arpHandleRequest frame size ourMac ourIp =
      arpBuildReply size ourMac ourIp (arpFrame frame).senderMac (arpFrame frame).senderIp := by
  have hlen : ¬ frame.length < sizeofEthHdr + sizeofArpPacket := Nat.not_lt.mpr h.complete
  have htype : ¬ etherTypeOf frame ≠ arpEtherType := not_not.mpr h.etherType
  rw [arpHandleRequest, if_neg hlen, if_neg htype]
  exact if_pos ⟨h.opcode, h.target⟩

/-- Any other frame is ignored. -/
theorem arpHandleRequest_of_not_asks (h : ¬ AsksFor frame ourIp) :
    arpHandleRequest frame size ourMac ourIp = .none := by
  unfold arpHandleRequest
  split_ifs with hlen htype
  · rfl
  · rfl
  · exact if_neg fun hreq => h ⟨Nat.not_lt.mp hlen, not_not.mp htype, hreq.1, hreq.2⟩

end Requests

/-- **Which frames are answered, and how.**  A frame is answered exactly when it is complete, of
    the ARP ethertype, a request, and for our address; the four fields that say IPv4 over
    Ethernet are not looked at. -/
theorem arpHandleRequest_answers (frame : List UInt8) (size : Nat) (ourMac : Mac) (ourIp : InAddr)
    (buf : Mem) (hsize : 42 ≤ size) :
    (0 < (arpHandleRequest frame size ourMac ourIp).ret ↔ AsksFor frame ourIp) ∧
      (0 < (arpHandleRequest frame size ourMac ourIp).ret →
        AnswerTo frame ((arpHandleRequest frame size ourMac ourIp).packet buf) ourMac ourIp) := by
  by_cases hasks : AsksFor frame ourIp
  · rw [arpHandleRequest_of_asks hasks, arpBuildReply_packet _ _ _ _ hsize]
    have hret : 0 < (arpBuildReply size ourMac ourIp (arpFrame frame).senderMac
        (arpFrame frame).senderIp).ret := by
      simp [arpBuildReply_eq _ _ _ _ hsize]
    refine ⟨iff_of_true hret hasks, fun _ => ⟨arpFrame_replyBytes _ _ _ _, fun size' mac ip => ?_⟩⟩
    -- it is a reply, not a request
    apply arpHandleRequest_of_not_asks
    intro hreply
    have hop : arpOpReply = arpOpRequest := by simpa [arpFrame_replyBytes] using hreply.opcode
    exact absurd hop (by decide)
  · rw [arpHandleRequest_of_not_asks hasks]
    have hret : ¬ 0 < Built.none.ret := by decide
    exact ⟨iff_of_false hret hasks, fun h => absurd h hret⟩

/-- A request from 02:02:02:02:02:02 at 10.0.0.2 for 10.0.0.1, of hardware type `hwType`. -/
def requestOf (hwType : Nat) : List UInt8 :=
  List.replicate 6 0xFF ++ List.replicate 6 2 ++ be16Bytes arpEtherType ++ be16Bytes hwType ++
    be16Bytes 0x0800 ++ [6, 4] ++ be16Bytes arpOpRequest ++ List.replicate 6 2 ++ [10, 0, 0, 2] ++
    List.replicate 6 0 ++ [10, 0, 0, 1]

/-- An Ethernet request for 10.0.0.1 is answered. -/
theorem arpHandleRequest_answers_request :
    AnswerTo (requestOf arpHwEthernet)
      ((arpHandleRequest (requestOf arpHwEthernet) ethBufSize (.replicate 6 7) ⟨10, 0, 0, 1⟩).packet
        fun _ => 0) (.replicate 6 7) ⟨10, 0, 0, 1⟩ :=
  (arpHandleRequest_answers _ _ _ _ _ (by decide)).2 (by decide)

/-- A request of hardware type 6 is answered. -/
theorem not_arpHandleRequest_exact :
    ¬ ∀ (frame : List UInt8) (size : Nat) (ourMac : Mac) (ourIp : InAddr), 42 ≤ size →
      (0 < (arpHandleRequest frame size ourMac ourIp).ret ↔ IsArpRequest frame ourIp) := by
  intro hall
  have hreq := (hall (requestOf 6) ethBufSize (.replicate 6 7) ⟨10, 0, 0, 1⟩ (by decide)).mp
    (by decide)
  exact absurd hreq.hwType (by decide)

end AndroidTether
