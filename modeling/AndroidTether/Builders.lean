import AndroidTether.RndisControl
import AndroidTether.Arp
import AndroidTether.DhcpDecode

namespace AndroidTether

open Bytes

/-!
# The packet builders and their buffers

Ten functions fill a caller's buffer.  Each checks the buffer's size first, against a bound of
its own, and computes what it writes apart from that.

* `KeepsBounds` — nothing is written outside the buffer, and what is returned is the length of
  the packet;
* `builder_keepsBounds_iff` — all ten keep it, except `dhcp_build_request` where the check of
  `dhcp_build_discover` is too small for it.
-/

/-- A builder with its arguments other than the buffer. -/
inductive Builder where
  | rndisInit (state : RndisState)
  | rndisQuery (oid : Nat) (state : RndisState)
  | rndisSet (oid : Nat) (data : List UInt8) (state : RndisState)
  | rndisKeepalive (state : RndisState)
  | rndisDataPacket (ethFrame : List UInt8)
  | arpReply (ourMac : Mac) (ourIp : InAddr) (theirMac : Mac) (theirIp : InAddr)
  | ipToEth (utunPkt : List UInt8) (srcMac gatewayMac : Mac)
  | ethToUtun (ethFrame : List UInt8)
  | discover (mac : Mac) (xid : Nat)
  | request (mac : Mac) (xid : Nat) (offeredIp serverIp : InAddr)

namespace Builder

/-- The call on a buffer of `bufSize` bytes. -/
def build (bufSize : Nat) : Builder → Built
  | rndisInit state => (rndisBuildInit bufSize state).1
  | rndisQuery oid state => (rndisBuildQuery bufSize oid state).1
  | rndisSet oid data state => (rndisBuildSet bufSize oid data state).1
  | rndisKeepalive state => (rndisBuildKeepalive bufSize state).1
  | rndisDataPacket ethFrame => rndisBuildDataPacket bufSize ethFrame
  | arpReply ourMac ourIp theirMac theirIp => arpBuildReply bufSize ourMac ourIp theirMac theirIp
  | ipToEth utunPkt srcMac gatewayMac => frameIpToEth utunPkt bufSize srcMac gatewayMac
  | ethToUtun ethFrame => frameEthToUtun ethFrame bufSize
  | discover mac xid => dhcpBuildDiscover bufSize mac xid
  | request mac xid offeredIp serverIp => dhcpBuildRequest bufSize mac xid offeredIp serverIp

/-- The bytes the caller hands over to be wrapped. -/
def payload : Builder → List UInt8
  | rndisSet _ data _ => data
  | rndisDataPacket ethFrame => ethFrame
  | ipToEth utunPkt _ _ => utunPkt
  | ethToUtun ethFrame => ethFrame
  | _ => []

/-- The length of the packet: its headers, and what is carried behind them. -/
def packetLen : Builder → Nat
  | rndisInit _ => sizeofRndisInitMsg
  | rndisQuery _ _ => sizeofRndisQueryMsg
  | rndisSet _ data _ => sizeofRndisSetMsg + data.length
  | rndisKeepalive _ => sizeofRndisKeepaliveMsg
  | rndisDataPacket ethFrame => sizeofRndisDataPacket + ethFrame.length
  | arpReply _ _ _ _ => sizeofEthHdr + sizeofArpPacket
  | ipToEth utunPkt _ _ => sizeofEthHdr + (utunPkt.length - 4)
  | ethToUtun ethFrame => 4 + (ethFrame.length - sizeofEthHdr)
  | discover _ _ => sizeofEthHdr + 20 + 8 + dhcpLen [53, 1, 1, 55, 3, 1, 3, 6, 0xFF]
  | request _ _ offeredIp serverIp =>
    sizeofEthHdr + 20 + 8 + dhcpLen (requestOptionBytes offeredIp serverIp)

/-- `dhcp_build_request` -/
def IsRequest : Builder → Prop
  | request _ _ _ _ => True
  | _ => False

end Builder

/-- Only the buffer is written, and a length that is returned is the packet's and fits. -/
structure KeepsBounds (bufSize packetLen : Nat) (b : Built) : Prop where
  writes : ∀ s ∈ b.stores, ∀ i, s.pos ≤ i → i < s.pos + s.bytes.length → i < bufSize
  ret : 0 ≤ b.ret → b.ret ≤ bufSize ∧ b.ret = packetLen

/-- A builder that returns -1 before it writes keeps every bound. -/
theorem keepsBounds_fail (bufSize packetLen : Nat) : KeepsBounds bufSize packetLen .fail where
  writes := by simp [Built.fail]
  ret := by simp [Built.fail]

/-- A length that comes out as an `int` without a sign is the length. -/
theorem bmod_of_nonneg {n m : Nat} (hlt : n < m) (h : 0 ≤ Int.bmod n m) : Int.bmod n m = n := by
  rw [Int.bmod_def, Int.emod_eq_of_lt (by omega) (by omega)] at h ⊢
  split at h
  · rw [if_pos (by assumption)]
  · omega

/-- An `int` that is not negative is the 32-bit value it was made from. -/
theorem toInt_of_nonneg {n : Nat} (hlt : n < 2 ^ 32) (h : 0 ≤ toInt n) : toInt n = n :=
  bmod_of_nonneg hlt h

/-- A builder that checked for the whole packet, and writes only the packet. -/
theorem keepsBounds_of_total {bufSize total : Nat} {stores : List Store} (hfit : total ≤ bufSize)
    (hlt : total < 2 ^ 32) (hin : ∀ s ∈ stores, s.pos + s.bytes.length ≤ total) :
    KeepsBounds bufSize total ⟨toInt total, stores⟩ where
  writes := by
    intro s hs i _ hi
    have := hin s hs
    omega
  ret := by
    dsimp only
    intro hret
    have hval := toInt_of_nonneg hlt hret
    exact ⟨hval.trans_le (Int.ofNat_le.mpr hfit), hval⟩

/-! ### The builders one by one -/

section Bounds

variable (bufSize : Nat)

/-- `rndis_build_init` -/
theorem rndisBuildInit_keepsBounds (state : RndisState) :
    KeepsBounds bufSize sizeofRndisInitMsg (rndisBuildInit bufSize state).1 := by
  unfold rndisBuildInit
  split
  · exact keepsBounds_fail _ _
  · exact keepsBounds_of_total (by omega) (by decide) (by simp [sizeofRndisInitMsg])

/-- `rndis_build_query` -/
theorem rndisBuildQuery_keepsBounds (oid : Nat) (state : RndisState) :
    KeepsBounds bufSize sizeofRndisQueryMsg (rndisBuildQuery bufSize oid state).1 := by
  unfold rndisBuildQuery
  split
  · exact keepsBounds_fail _ _
  · exact keepsBounds_of_total (by omega) (by decide) (by simp [sizeofRndisQueryMsg])

/-- `rndis_build_set` -/
theorem rndisBuildSet_keepsBounds (oid : Nat) {data : List UInt8} (h : data.length < 2 ^ 31)
    (state : RndisState) :
    KeepsBounds bufSize (sizeofRndisSetMsg + data.length)
      (rndisBuildSet bufSize oid data state).1 := by
  unfold rndisBuildSet
  dsimp only
  split
  · exact keepsBounds_fail _ _
  · refine keepsBounds_of_total (by omega) ?_ ?_
    · simp only [sizeofRndisSetMsg]
      omega
    · simp [sizeofRndisSetMsg]
      omega

/-- `rndis_build_keepalive` -/
theorem rndisBuildKeepalive_keepsBounds (state : RndisState) :
    KeepsBounds bufSize sizeofRndisKeepaliveMsg (rndisBuildKeepalive bufSize state).1 := by
  unfold rndisBuildKeepalive
  split
  · exact keepsBounds_fail _ _
  · exact keepsBounds_of_total (by omega) (by decide) (by simp [sizeofRndisKeepaliveMsg])

/-- `rndis_build_data_packet` -/
theorem rndisBuildDataPacket_keepsBounds {ethFrame : List UInt8} (h : ethFrame.length < 2 ^ 31) :
    KeepsBounds bufSize (sizeofRndisDataPacket + ethFrame.length)
      (rndisBuildDataPacket bufSize ethFrame) := by
  unfold rndisBuildDataPacket
  dsimp only
  split
  · exact keepsBounds_fail _ _
  · refine keepsBounds_of_total (by omega) ?_ ?_
    · simp only [sizeofRndisDataPacket]
      omega
    · simp [sizeofRndisDataPacket]
      omega

/-- `arp_build_reply` -/
theorem arpBuildReply_keepsBounds (ourMac : Mac) (ourIp : InAddr) (theirMac : Mac)
    (theirIp : InAddr) :
    KeepsBounds bufSize (sizeofEthHdr + sizeofArpPacket)
      (arpBuildReply bufSize ourMac ourIp theirMac theirIp) := by
  unfold arpBuildReply
  dsimp only
  split
  · exact keepsBounds_fail _ _
  · exact keepsBounds_of_total (by omega) (by decide)
      (by simp [sizeofEthHdr, sizeofArpPacket, InAddr.bytes])

/-- `frame_ip_to_eth` -/
theorem frameIpToEth_keepsBounds {utunPkt : List UInt8} (h : utunPkt.length < 2 ^ 31)
    (srcMac gatewayMac : Mac) :
    KeepsBounds bufSize (sizeofEthHdr + (utunPkt.length - 4))
      (frameIpToEth utunPkt bufSize srcMac gatewayMac) := by
  unfold frameIpToEth
  split
  · exact keepsBounds_fail _ _
  dsimp only
  split
  · exact keepsBounds_fail _ _
  rename_i hfit
  simp only [sizeofEthHdr] at hfit ⊢
  split
  · -- no IP packet: the addresses were written, inside the buffer
    constructor
    · intro s hs i _ hi
      simp at hs
      rcases hs with rfl | rfl <;> simp at hi <;> omega
    · simp
  · apply keepsBounds_of_total (by omega) (by omega)
    simp
    omega

/-- `frame_eth_to_utun` -/
theorem frameEthToUtun_keepsBounds {ethFrame : List UInt8} (h : ethFrame.length < 2 ^ 31) :
    KeepsBounds bufSize (4 + (ethFrame.length - sizeofEthHdr)) (frameEthToUtun ethFrame bufSize) := by
  unfold frameEthToUtun
  split
  · exact keepsBounds_fail _ _
  dsimp only
  split
  · exact keepsBounds_fail _ _
  rename_i hfit
  split
  · exact keepsBounds_fail _ _
  · apply keepsBounds_of_total (by omega) (by omega)
    simp

/-- Where the writes of a DHCP builder end: the `memset` at the end of the buffer, the options
    where they end. -/
theorem frameStores_within {mac : Mac} {xid : Nat} {ipFields : List Store} {opts : List UInt8}
    (hsize : 300 ≤ bufSize) (hip : ZeroFields ipFields) (hopts : 282 + opts.length ≤ bufSize) :
    ∀ s ∈ frameStores bufSize mac xid ipFields opts, s.pos + s.bytes.length ≤ bufSize := by
  intro s hs
  simp only [frameStores, List.append_assoc, List.mem_append] at hs
  rcases hs with hs | hs | hs
  · simp at hs
    rcases hs with rfl | rfl | rfl | rfl | rfl <;> simp <;> omega
  · have := (hip s hs).2.1
    omega
  · simp at hs
    rcases hs with rfl | rfl | rfl | rfl | rfl | rfl | rfl | rfl | rfl | rfl | rfl | rfl | rfl |
      rfl | rfl | rfl | rfl | rfl <;> simp <;> omega

/-- Both builders of `dhcp.c`, where the buffer is refused or takes the whole frame. -/
theorem dhcpBuildFrame_keepsBounds {mac : Mac} {xid : Nat} {ipFields : List Store}
    {opts : List UInt8} (hip : ZeroFields ipFields) (hlen : opts.length < 2 ^ 15)
    (hfit : bufSize < 300 ∨ sizeofEthHdr + 20 + 8 + dhcpLen opts ≤ bufSize) :
    KeepsBounds bufSize (sizeofEthHdr + 20 + 8 + dhcpLen opts)
      (dhcpBuildFrame bufSize mac xid ipFields opts) := by
  rcases Nat.lt_or_ge bufSize 300 with hsmall | hsize
  · rw [dhcpBuildFrame, if_pos hsmall]
    exact keepsBounds_fail _ _
  have hfit' : 42 + dhcpLen opts ≤ bufSize := by
    rcases hfit with hsmall | hfit
    · omega
    · exact hfit
  have hopts : 282 + opts.length ≤ bufSize := by
    simp only [dhcpLen, sizeofDhcpPacket] at hfit'
    omega
  constructor
  · intro s hs i _ hi
    rw [dhcpBuildFrame_eq hsize] at hs
    rcases List.mem_append.mp hs with hs | hs
    · have := frameStores_within bufSize hsize hip hopts s hs
      omega
    · rw [List.mem_singleton.mp hs] at hi
      simp only [ipChecksum_length] at hi
      omega
  · intro _
    rw [(dhcpBuildFrame_packet hsize hlen fun _ => 0).1]
    exact ⟨Int.ofNat_le.mpr hfit', rfl⟩

/-- `dhcp_build_discover` at any size of the buffer. -/
theorem dhcpBuildDiscover_keepsBounds (mac : Mac) (xid : Nat) :
    KeepsBounds bufSize (sizeofEthHdr + 20 + 8 + dhcpLen [53, 1, 1, 55, 3, 1, 3, 6, 0xFF])
      (dhcpBuildDiscover bufSize mac xid) := by
  apply dhcpBuildFrame_keepsBounds bufSize (by simp [ZeroFields, sizeofEthHdr]) (by decide)
  -- its packet is as long as the check asks for
  show _ ∨ 300 ≤ bufSize
  omega

/-- The packet of `dhcp_build_request` is three bytes longer than its check asks for. -/
theorem dhcpBuildRequest_keepsBounds_iff (mac : Mac) (xid : Nat) (offeredIp serverIp : InAddr) :
    KeepsBounds bufSize
        (sizeofEthHdr + 20 + 8 + dhcpLen (requestOptionBytes offeredIp serverIp))
        (dhcpBuildRequest bufSize mac xid offeredIp serverIp) ↔
      ¬ (300 ≤ bufSize ∧ bufSize < 303) := by
  have hopts : (requestOptionBytes offeredIp serverIp).length = 21 := rfl
  constructor
  · rintro hkeeps ⟨hsize, hsmall⟩
    -- the last option byte, the end tag
    have hmem : (⟨282, requestOptionBytes offeredIp serverIp⟩ : Store) ∈
        (dhcpBuildRequest bufSize mac xid offeredIp serverIp).stores := by
      rw [dhcpBuildRequest, dhcpBuildFrame_eq hsize]
      simp [frameStores]
    have hlast := hkeeps.writes _ hmem 302 (by simp) (by simp [hopts])
    omega
  · intro hfit
    apply dhcpBuildFrame_keepsBounds bufSize (by simp [ZeroFields]) (by rw [hopts]; decide)
    show _ ∨ 303 ≤ bufSize
    omega

end Bounds

/-- **The builders' bounds.**  For payloads below `2 ^ 31` bytes, a builder keeps to its buffer
    and returns the packet's length if and only if it is not `dhcp_build_request` on a buffer
    that has room for a discover but not for a request. -/
theorem builder_keepsBounds_iff (b : Builder) (bufSize : Nat) (h : b.payload.length < 2 ^ 31) :
    KeepsBounds bufSize b.packetLen (b.build bufSize) ↔
      ¬ (b.IsRequest ∧ 300 ≤ bufSize ∧ bufSize < 303) := by
  have hother : ∀ {P : Prop}, P → ¬ b.IsRequest →
      (P ↔ ¬ (b.IsRequest ∧ 300 ≤ bufSize ∧ bufSize < 303)) :=
    fun hp hb => ⟨fun _ hr => hb hr.1, fun _ => hp⟩
  cases b with
  | rndisInit state => exact hother (rndisBuildInit_keepsBounds bufSize state) id
  | rndisQuery oid state => exact hother (rndisBuildQuery_keepsBounds bufSize oid state) id
  | rndisSet oid data state => exact hother (rndisBuildSet_keepsBounds bufSize oid h state) id
  | rndisKeepalive state => exact hother (rndisBuildKeepalive_keepsBounds bufSize state) id
  | rndisDataPacket ethFrame => exact hother (rndisBuildDataPacket_keepsBounds bufSize h) id
  | arpReply ourMac ourIp theirMac theirIp =>
    exact hother (arpBuildReply_keepsBounds bufSize ourMac ourIp theirMac theirIp) id
  | ipToEth utunPkt srcMac gatewayMac =>
    exact hother (frameIpToEth_keepsBounds bufSize h srcMac gatewayMac) id
  | ethToUtun ethFrame => exact hother (frameEthToUtun_keepsBounds bufSize h) id
  | discover mac xid => exact hother (dhcpBuildDiscover_keepsBounds bufSize mac xid) id
  | request mac xid offeredIp serverIp =>
    rw [Builder.IsRequest, true_and]
    exact dhcpBuildRequest_keepsBounds_iff bufSize mac xid offeredIp serverIp

/-- A data packet in a buffer that it just fills. -/
theorem builder_keepsBounds_dataPacket :
    KeepsBounds 104 104 ((Builder.rndisDataPacket (.replicate 60 0)).build 104) :=
  (builder_keepsBounds_iff (.rndisDataPacket (.replicate 60 0)) 104 (by decide)).mpr And.left

/-- A request in a buffer of 300 bytes. -/
theorem not_builder_keepsBounds :
    ¬ ∀ (b : Builder) (bufSize : Nat), b.payload.length < 2 ^ 31 →
      KeepsBounds bufSize b.packetLen (b.build bufSize) := by
  intro h
  have hkeeps := h (.request (.replicate 6 0) xid .zero .zero) 300 (by decide)
  exact (dhcpBuildRequest_keepsBounds_iff 300 _ _ _ _).mp hkeeps (by decide)

end AndroidTether
