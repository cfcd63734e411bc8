import AndroidTether.DhcpOptions
import Mathlib.Algebra.Ring.Nat
import Mathlib.Data.Vector.Basic

namespace AndroidTether

open Bytes Tlv

/-!
# DHCP frames

The layout of a DHCP frame (Ethernet, IPv4, UDP, BOOTP header, options) and the two frames
`dhcp_discover` sends, as the writes `dhcp_build_discover` and `dhcp_build_request` make.

* `dhcpBuildRequest_options` — the option bytes of a request, whatever was in the buffer.
-/

/-- `sizeof(dhcp_packet_t)`: the options are a flexible array behind it. -/
def sizeofDhcpPacket : Nat := 240

/-- `IPPROTO_UDP` -/
def ipprotoUdp : UInt8 := 17

/-! ### Layout of a frame in memory -/

/-- `4 * ip_hl` of the frame that starts at `frame`. -/
def ipHdrLen (m : Mem) (frame : Nat) : Nat := (m (frame + sizeofEthHdr)).toNat % 16 * 4

/-- Where the BOOTP header starts, counted from the start of the frame: behind the Ethernet,
    IP and UDP headers. -/
def dhcpOffset (m : Mem) (frame : Nat) : Nat := sizeofEthHdr + ipHdrLen m frame + 8

/-- The option bytes of a frame. -/
def optionBytes (fr : List UInt8) : List UInt8 :=
  fr.drop (dhcpOffset (ofList fr) 0 + sizeofDhcpPacket)

/-- The options of a frame. -/
def frameOptions (fr : List UInt8) : List Opt := splitOptions (optionBytes fr)

/-- `yiaddr` of a frame. -/
def yiaddrOf (fr : List UInt8) : InAddr := inAddrAt (ofList fr) (dhcpOffset (ofList fr) 0 + 16)

/-! ### The builders -/

/-- `while (sum >> 16) sum = (sum & 0xFFFF) + (sum >> 16);` -/
def foldCarry (sum : Nat) : Nat :=
  if sum / 65536 = 0 then sum else foldCarry (sum % 65536 + sum / 65536)
termination_by sum
decreasing_by omega

/-- `htons((uint16_t)~sum)` after the carries were folded, over the ten header words at
    `iph`. -/
def ipChecksum (m : Mem) (iph : Nat) : List UInt8 :=
  let sum := ((List.range 10).map fun i => be16 m (iph + 2 * i)).sum
  be16Bytes ((2 ^ 32 - 1 - foldCarry sum) % 2 ^ 16)

/-- What both builders do: `ipFields` are header fields that only one of them writes, `opts`
    the option bytes. -/
def dhcpBuildFrame (bufSize : Nat) (mac : Mac) (xid : Nat) (ipFields : List Store)
    (opts : List UInt8) : Built :=
  if bufSize < 300 then .fail
  else
    let iph := sizeofEthHdr
    let udp := iph + 20
    let dhcp := udp + 8
    let dhcpLen := sizeofDhcpPacket + opts.length
    let dhcpLen := if dhcpLen < 300 - sizeofEthHdr - 20 - 8 then 300 - sizeofEthHdr - 20 - 8
      else dhcpLen
    let stores : List Store := [
      ⟨0, List.replicate bufSize 0⟩,
      ⟨0, List.replicate 6 0xFF⟩,
      ⟨6, mac.toList⟩,
      ⟨12, be16Bytes 0x0800⟩,
      -- `ip_v` and `ip_hl` share a byte
      ⟨iph, [0x45]⟩] ++ ipFields ++ [
      ⟨iph + 8, [64]⟩,
      ⟨iph + 9, [ipprotoUdp]⟩,
      ⟨iph + 12, List.replicate 4 0⟩,
      ⟨iph + 16, List.replicate 4 0xFF⟩,
      ⟨udp, be16Bytes dhcpClientPort⟩,
      ⟨udp + 2, be16Bytes dhcpServerPort⟩,
      ⟨dhcp, [1]⟩,
      ⟨dhcp + 1, [1]⟩,
      ⟨dhcp + 2, [6]⟩,
      ⟨dhcp + 4, be32Bytes xid⟩,
      ⟨dhcp + 10, be16Bytes 0x8000⟩,
      ⟨dhcp + 28, mac.toList⟩,
      ⟨dhcp + 236, be32Bytes dhcpMagicCookie⟩,
      ⟨dhcp + sizeofDhcpPacket, opts⟩,
      ⟨udp + 4, be16Bytes (8 + dhcpLen)⟩,
      ⟨udp + 6, List.replicate 2 0⟩,
      ⟨iph + 2, be16Bytes (20 + 8 + dhcpLen)⟩,
      ⟨iph + 10, List.replicate 2 0⟩]
    -- the `memset` covers the header, so the checksum does not depend on the buffer
    let checksum := ipChecksum (storeAll (fun _ => 0) stores) iph
    { ret := toInt (sizeofEthHdr + 20 + 8 + dhcpLen)
      stores := stores ++ [⟨iph + 10, checksum⟩] }

/-- `dhcp_build_discover`: message type 1 and the list of requested parameters.  It also
    writes the fields `ip_tos`, `ip_id` and `ip_off`. -/
def dhcpBuildDiscover (bufSize : Nat) (mac : Mac) (xid : Nat) : Built :=
  dhcpBuildFrame bufSize mac xid
    [⟨sizeofEthHdr + 1, [0]⟩, ⟨sizeofEthHdr + 4, [0, 0]⟩, ⟨sizeofEthHdr + 6, [0, 0]⟩]
    [53, 1, 1, 55, 3, 1, 3, 6, 0xFF]

/-- The option bytes of a request: message type 3, the requested address, the server, the
    list of requested parameters. -/
def requestOptionBytes (offeredIp serverIp : InAddr) : List UInt8 :=
  [53, 1, 3] ++ ([50, 4] ++ offeredIp.bytes) ++ ([54, 4] ++ serverIp.bytes) ++
    [55, 3, 1, 3, 6, 0xFF]

/-- `dhcp_build_request` -/
def dhcpBuildRequest (bufSize : Nat) (mac : Mac) (xid : Nat) (offeredIp serverIp : InAddr) :
    Built :=
  dhcpBuildFrame bufSize mac xid [] (requestOptionBytes offeredIp serverIp)

/-- The options a request carries. -/
def requestOptions (offeredIp serverIp : InAddr) : List Opt :=
  [⟨53, [3]⟩, ⟨50, offeredIp.bytes⟩, ⟨54, serverIp.bytes⟩, ⟨55, [1, 3, 6]⟩]

/-- The options of a REQUEST. -/
theorem splitOptions_requestOptionBytes (offeredIp serverIp : InAddr) :
    splitOptions (requestOptionBytes offeredIp serverIp) = requestOptions offeredIp serverIp := by
  simp [requestOptionBytes, requestOptions, InAddr.bytes, splitOptions, endTag, padTag]

@[simp] theorem ipChecksum_length (m : Mem) (iph : Nat) : (ipChecksum m iph).length = 2 := rfl

/-- The length of a built frame: padded to 300 bytes, longer when the options are. -/
theorem dhcpBuildFrame_ret {bufSize : Nat} {mac : Mac} {xid : Nat} {ipFields : List Store}
    {opts : List UInt8} (hsize : 300 ≤ bufSize) (hlt : opts.length < 2 ^ 30) :
    (dhcpBuildFrame bufSize mac xid ipFields opts).ret = max 300 (282 + opts.length) := by
  rw [dhcpBuildFrame, if_neg (by omega)]
  by_cases hpad : sizeofDhcpPacket + opts.length < 300 - sizeofEthHdr - 20 - 8
  · simp only [hpad, if_true]
    simp only [sizeofEthHdr, sizeofDhcpPacket] at hpad ⊢
    rw [toInt_of_lt (by omega)]
    omega
  · simp only [hpad, if_false]
    simp only [sizeofEthHdr, sizeofDhcpPacket] at hpad ⊢
    rw [toInt_of_lt (by omega)]
    omega

/-- The version byte and the option bytes of a built frame, in a buffer of any contents. -/
theorem dhcpBuildFrame_at {bufSize : Nat} {mac : Mac} {xid : Nat} {ipFields : List Store}
    {opts : List UInt8} (hsize : 300 ≤ bufSize)
    (hip : ∀ t ∈ ipFields, sizeofEthHdr + 1 ≤ t.pos) (m : Mem) :
    At (storeAll m (dhcpBuildFrame bufSize mac xid ipFields opts).stores) sizeofEthHdr [0x45] ∧
      At (storeAll m (dhcpBuildFrame bufSize mac xid ipFields opts).stores)
        (sizeofEthHdr + 20 + 8 + sizeofDhcpPacket) opts := by
  rw [dhcpBuildFrame, if_neg (by omega)]
  simp only [storeAll_append]
  generalize hck : ipChecksum _ _ = checksum
  have hlen : checksum.length = 2 := by rw [← hck, ipChecksum_length]
  constructor
  · -- nothing after the fifth write touches the version byte
    have hver := at_storeAll m [⟨0, List.replicate bufSize 0⟩, ⟨0, List.replicate 6 0xFF⟩,
      ⟨6, mac.toList⟩, ⟨12, be16Bytes 0x0800⟩] ⟨sizeofEthHdr, [0x45]⟩ [] (by simp)
    refine ((hver.storeAll_of_disjoint fun t ht => .inr ?_).storeAll_of_disjoint ?_).storeAll_of_disjoint
      (by simp [sizeofEthHdr])
    · exact hip t ht
    · simp [sizeofEthHdr]
      omega
  · -- the options are written once, behind the header; later writes go to the headers
    refine At.storeAll_of_disjoint (at_storeAll _ [_, _, _, _, _, _, _, _, _, _, _, _, _] ⟨_, opts⟩
      [_, _, _, _] ?_) ?_
    · simp [sizeofEthHdr, sizeofDhcpPacket]
    · simp [sizeofEthHdr, sizeofDhcpPacket, hlen]

/-- The length and the options of a request that fits, in a buffer of any contents. -/
theorem dhcpBuildRequest_options {bufSize : Nat} (mac : Mac) (xid : Nat)
    (offeredIp serverIp : InAddr) (m : Mem) (hsize : 303 ≤ bufSize) :
    (dhcpBuildRequest bufSize mac xid offeredIp serverIp).ret = 303 ∧
      frameOptions ((dhcpBuildRequest bufSize mac xid offeredIp serverIp).packet m) =
        requestOptions offeredIp serverIp := by
  have hret : (dhcpBuildRequest bufSize mac xid offeredIp serverIp).ret = 303 :=
    dhcpBuildFrame_ret (by omega) (by simp [requestOptionBytes, InAddr.bytes])
  refine ⟨hret, ?_⟩
  rw [Built.packet, hret, frameOptions, optionBytes]
  generalize hbuilt : storeAll m (dhcpBuildRequest bufSize mac xid offeredIp serverIp).stores = built
  obtain ⟨hver, hopts⟩ : At built sizeofEthHdr [0x45] ∧
      At built (sizeofEthHdr + 20 + 8 + sizeofDhcpPacket) (requestOptionBytes offeredIp serverIp) := by
    rw [← hbuilt]
    exact dhcpBuildFrame_at (by omega) (by simp) m
  have hoff : dhcpOffset (ofList (slice built 0 (303 : Int).toNat)) 0 = 42 := by
    have hbyte : ofList (slice built 0 303) sizeofEthHdr = built sizeofEthHdr := by
      have := at_slice built 0 303 sizeofEthHdr (by simp [sizeofEthHdr])
      rw [← this, Nat.zero_add]
    have hbyte' : built sizeofEthHdr = 0x45 := hver 0 (by simp)
    show sizeofEthHdr + (ofList (slice built 0 303) (0 + sizeofEthHdr)).toNat % 16 * 4 + 8 = 42
    rw [Nat.zero_add, hbyte, hbyte']
    rfl
  rw [hoff, ← splitOptions_requestOptionBytes, ← at_iff_slice.mp hopts, drop_slice (by decide)]
  rfl

/-- The length of a discover. -/
theorem dhcpBuildDiscover_ret {bufSize : Nat} (mac : Mac) (xid : Nat) (hsize : 300 ≤ bufSize) :
    (dhcpBuildDiscover bufSize mac xid).ret = 300 :=
  dhcpBuildFrame_ret hsize (by decide)

end AndroidTether
