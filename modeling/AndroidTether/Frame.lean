import AndroidTether.NetTypes

namespace AndroidTether

open Bytes

/-!
# Between utun packets and Ethernet frames

`frame_ip_to_eth` and `frame_eth_to_utun` of `frame.c`.  A utun packet is a four-byte
address family in network order and the IP packet; the Ethernet side carries the family in
the ethertype.

* `frameEthToUtun_ipToEth` — the way back gives the packet again, under the family header
  that its ethertype stands for.
-/

/-- `AF_INET` -/
def afInet : Nat := 2
/-- `AF_INET6`, as Darwin numbers it. -/
def afInet6 : Nat := 30

/-- `ethertype` of a frame, in host order. -/
def etherTypeOf (frame : List UInt8) : Nat := be16 (ofList frame) 12

/-- The `if`s of `frame_ip_to_eth`: by address family, else by the version nibble. -/
def ipEtherType (utunPkt : List UInt8) : Option Nat :=
  let af := be32 (ofList utunPkt) 0
  if af = afInet then some 0x0800
  else if af = afInet6 then some 0x86DD
  else
    let ver := (ofList utunPkt 4).toNat / 16
    if ver = 4 then some 0x0800
    else if ver = 6 then some 0x86DD
    else none

/-- `frame_ip_to_eth`: the addresses are stored before the version nibble is looked at. -/
def frameIpToEth (utunPkt : List UInt8) (ethBufSize : Nat) (srcMac gatewayMac : Mac) : Built :=
  if utunPkt.length < 5 then .fail
  else
    let ipLen := utunPkt.length - 4
    let total := sizeofEthHdr + ipLen
    if total > ethBufSize then .fail
    else
      let macs : List Store := [⟨0, gatewayMac.toList⟩, ⟨6, srcMac.toList⟩]
      match ipEtherType utunPkt with
      | none => ⟨-1, macs⟩
      | some etherType =>
        { ret := toInt total
          stores := macs ++ [⟨12, be16Bytes etherType⟩, ⟨sizeofEthHdr, utunPkt.drop 4⟩] }

/-- `frame_eth_to_utun` -/
def frameEthToUtun (ethFrame : List UInt8) (utunBufSize : Nat) : Built :=
  if ethFrame.length < sizeofEthHdr then .fail
  else
    let ipLen := ethFrame.length - sizeofEthHdr
    let total := 4 + ipLen
    if total > utunBufSize then .fail
    else
      let etherType := etherTypeOf ethFrame
      let af? := if etherType = 0x0800 then some afInet
        else if etherType = 0x86DD then some afInet6
        else none
      match af? with
      | none => .fail -- not IP
      | some af =>
        { ret := toInt total
          stores := [⟨0, be32Bytes af⟩, ⟨4, ethFrame.drop sizeofEthHdr⟩] }

/-! ### The way there -/

/-- The frame of a packet that is accepted. -/
def ethFrameBytes (dst src : Mac) (etherType : Nat) (payload : List UInt8) : List UInt8 :=
  dst.toList ++ src.toList ++ be16Bytes etherType ++ payload

/-- A frame is its header and its payload. -/
@[simp] theorem ethFrameBytes_length (dst src : Mac) (etherType : Nat) (payload : List UInt8) :
    (ethFrameBytes dst src etherType payload).length = sizeofEthHdr + payload.length := by
  simp [ethFrameBytes, sizeofEthHdr]
  omega

/-- Behind the header is the payload. -/
@[simp] theorem drop_ethFrameBytes (dst src : Mac) (etherType : Nat) (payload : List UInt8) :
    (ethFrameBytes dst src etherType payload).drop sizeofEthHdr = payload :=
  List.drop_left' (by simp [sizeofEthHdr])

/-- The type in the header. -/
theorem etherTypeOf_ethFrameBytes (dst src : Mac) {etherType : Nat} (payload : List UInt8)
    (h : etherType < 2 ^ 16) : etherTypeOf (ethFrameBytes dst src etherType payload) = etherType := by
  have hat := at_ofList (ethFrameBytes dst src etherType payload)
  simp only [ethFrameBytes, at_append, List.length_append, Vector.length_toList] at hat
  rw [etherTypeOf, ethFrameBytes, hat.1.2.be16_eq, Nat.mod_eq_of_lt h]

/-- A packet that `frame_ip_to_eth` accepts has an ethertype, fits, and becomes the frame of
    that ethertype, whatever the buffer held. -/
theorem frameIpToEth_accepted {utunPkt : List UInt8} {size : Nat} {src gateway : Mac}
    (h : (frameIpToEth utunPkt size src gateway).ret ≠ -1) (hsize : size < 2 ^ 31) :
    ∃ etherType, ipEtherType utunPkt = some etherType ∧ 5 ≤ utunPkt.length ∧
      sizeofEthHdr + (utunPkt.length - 4) ≤ size ∧
      ∀ m, (frameIpToEth utunPkt size src gateway).packet m =
        ethFrameBytes gateway src etherType (utunPkt.drop 4) := by
  have hlen : ¬ utunPkt.length < 5 := fun hlt => h (by rw [frameIpToEth, if_pos hlt]; rfl)
  have hfit : ¬ sizeofEthHdr + (utunPkt.length - 4) > size := fun hgt => h (by
    rw [frameIpToEth, if_neg hlen, if_pos hgt]; rfl)
  cases htype : ipEtherType utunPkt with
  | none => exact absurd (by simp [frameIpToEth, hlen, hfit, htype]) h
  | some etherType =>
    refine ⟨etherType, rfl, by omega, by omega, fun m => ?_⟩
    have hret : (toInt (sizeofEthHdr + (utunPkt.length - 4))).toNat =
        (ethFrameBytes gateway src etherType (utunPkt.drop 4)).length := by
      rw [toInt_of_lt (by omega), ethFrameBytes_length, List.length_drop, Int.toNat_natCast]
    simp only [frameIpToEth, if_neg hlen, if_neg hfit, htype, Built.packet, hret]
    rw [← at_iff_slice]
    have hfields := at_storeAll_consecutive m 0
      [gateway.toList, src.toList, be16Bytes etherType, utunPkt.drop 4]
    simpa [consecutive, ethFrameBytes, sizeofEthHdr] using hfields

/-! ### The way back -/

/-- The ethertype under which the family `af` travels. -/
def etherTypeOfAf (af : Nat) : Nat := if af = afInet then 0x0800 else 0x86DD

/-- A frame of one of the two IP ethertypes becomes a packet of that family. -/
theorem frameEthToUtun_ip {frame : List UInt8} {size af : Nat} (haf : af = afInet ∨ af = afInet6)
    (htype : etherTypeOf frame = etherTypeOfAf af) (hlen : sizeofEthHdr ≤ frame.length)
    (hfit : 4 + (frame.length - sizeofEthHdr) ≤ size) (hsize : size < 2 ^ 31) :
    0 < (frameEthToUtun frame size).ret ∧
      ∀ m, (frameEthToUtun frame size).packet m = be32Bytes af ++ frame.drop sizeofEthHdr := by
  have hbuilt : frameEthToUtun frame size =
      { ret := toInt (4 + (frame.length - sizeofEthHdr))
        stores := [⟨0, be32Bytes af⟩, ⟨4, frame.drop sizeofEthHdr⟩] } := by
    rw [frameEthToUtun, if_neg (by omega)]
    simp only [if_neg (by omega : ¬ 4 + (frame.length - sizeofEthHdr) > size), htype]
    rcases haf with rfl | rfl <;> rfl
  have hret : toInt (4 + (frame.length - sizeofEthHdr)) =
      ((be32Bytes af ++ frame.drop sizeofEthHdr).length : Nat) := by
    rw [toInt_of_lt (by omega), List.length_append, be32Bytes_length, List.length_drop]
  constructor
  · simp only [hbuilt, toInt_of_lt (by omega : 4 + (frame.length - sizeofEthHdr) < 2 ^ 31)]
    omega
  · intro m
    simp only [hbuilt, Built.packet, hret, Int.toNat_natCast]
    rw [← at_iff_slice]
    have hfields := at_storeAll_consecutive m 0 [be32Bytes af, frame.drop sizeofEthHdr]
    simpa [consecutive] using hfields

/-! ### There and back -/

/-- What a packet becomes on its way through the bridge: it is delivered as it is when its
    header is one of the two families in network order, and otherwise under the family of
    its version nibble. -/
def Delivers (utunPkt delivered : List UInt8) : Prop :=
  if utunPkt.take 4 = be32Bytes afInet ∨ utunPkt.take 4 = be32Bytes afInet6 then
    delivered = utunPkt
  else
    ((ofList utunPkt 4).toNat / 16 = 4 ∧ delivered = be32Bytes afInet ++ utunPkt.drop 4) ∨
      ((ofList utunPkt 4).toNat / 16 = 6 ∧ delivered = be32Bytes afInet6 ++ utunPkt.drop 4)

/-- The family field and the header bytes. -/
theorem be32_eq_iff_take {utunPkt : List UInt8} {af : Nat} (hlen : 4 ≤ utunPkt.length)
    (haf : af < 2 ^ 32) :
    be32 (ofList utunPkt) 0 = af ↔ utunPkt.take 4 = be32Bytes af := by
  rw [← slice_ofList_zero hlen]
  constructor
  · rintro rfl
    exact (be32Bytes_be32 _ 0).symm
  · intro h
    have hat : At (ofList utunPkt) 0 (be32Bytes af) := at_iff_slice.mpr h
    rw [hat.be32_eq, Nat.mod_eq_of_lt haf]

/-- The ethertype of a packet names a family under whose header it is to be delivered. -/
theorem delivers_of_ipEtherType {utunPkt : List UInt8} {etherType : Nat}
    (hlen : 4 ≤ utunPkt.length) (h : ipEtherType utunPkt = some etherType) :
    ∃ af, (af = afInet ∨ af = afInet6) ∧ etherType = etherTypeOfAf af ∧
      Delivers utunPkt (be32Bytes af ++ utunPkt.drop 4) := by
  have hinet := be32_eq_iff_take hlen (by decide : afInet < 2 ^ 32)
  have hinet6 := be32_eq_iff_take hlen (by decide : afInet6 < 2 ^ 32)
  unfold ipEtherType at h
  unfold Delivers
  by_cases h4 : be32 (ofList utunPkt) 0 = afInet
  · -- a header in network order comes back as it was
    have hhead := hinet.mp h4
    simp only [h4, if_true, Option.some.injEq] at h
    refine ⟨afInet, .inl rfl, h.symm, ?_⟩
    rw [if_pos (.inl hhead), ← hhead, List.take_append_drop]
  by_cases h6 : be32 (ofList utunPkt) 0 = afInet6
  · have hhead := hinet6.mp h6
    simp only [h6, if_true, Option.some.injEq, if_neg (by decide : ¬ afInet6 = afInet)] at h
    refine ⟨afInet6, .inr rfl, h.symm, ?_⟩
    rw [if_pos (.inr hhead), ← hhead, List.take_append_drop]
  · -- neither header: the version nibble decides
    have hhead : ¬ (utunPkt.take 4 = be32Bytes afInet ∨ utunPkt.take 4 = be32Bytes afInet6) :=
      not_or.mpr ⟨fun hh => h4 (hinet.mpr hh), fun hh => h6 (hinet6.mpr hh)⟩
    simp only [if_neg hhead]
    simp only [h4, h6, if_false] at h
    split at h
    · rename_i hver
      exact ⟨afInet, .inl rfl, (Option.some.inj h).symm, .inl ⟨hver, rfl⟩⟩
    · split at h
      · rename_i hver
        exact ⟨afInet6, .inr rfl, (Option.some.inj h).symm, .inr ⟨hver, rfl⟩⟩
      · cases h

/-- **Round trip of one packet.**  The frame of an accepted packet is not ARP and turns back
    into the packet it delivers. -/
theorem frameEthToUtun_ipToEth {utunPkt : List UInt8} {size utunBufSize : Nat}
    {src gateway : Mac} (h : (frameIpToEth utunPkt size src gateway).ret ≠ -1)
    (hsize : size < 2 ^ 31) (hbuf : size ≤ utunBufSize) (hutun : utunBufSize < 2 ^ 31)
    (ethBuf : Mem) :
    ∃ delivered, Delivers utunPkt delivered ∧
      sizeofEthHdr ≤ ((frameIpToEth utunPkt size src gateway).packet ethBuf).length ∧
      etherTypeOf ((frameIpToEth utunPkt size src gateway).packet ethBuf) ≠ 0x0806 ∧
      0 < (frameEthToUtun ((frameIpToEth utunPkt size src gateway).packet ethBuf) utunBufSize).ret ∧
      ∀ m, (frameEthToUtun ((frameIpToEth utunPkt size src gateway).packet ethBuf)
        utunBufSize).packet m = delivered := by
  obtain ⟨etherType, htype, hlen, hfit, hpacket⟩ := frameIpToEth_accepted h hsize
  obtain ⟨af, haf, rfl, hdel⟩ := delivers_of_ipEtherType (by omega) htype
  rw [hpacket ethBuf]
  have hlt : etherTypeOfAf af < 2 ^ 16 := by rcases haf with rfl | rfl <;> decide
  have heth := etherTypeOf_ethFrameBytes gateway src (utunPkt.drop 4) hlt
  have hroom : 4 + ((ethFrameBytes gateway src (etherTypeOfAf af) (utunPkt.drop 4)).length -
      sizeofEthHdr) ≤ utunBufSize := by
    simp only [ethFrameBytes_length, List.length_drop, sizeofEthHdr] at *
    omega
  have hback := frameEthToUtun_ip haf heth (by simp) hroom hutun
  rw [drop_ethFrameBytes] at hback
  refine ⟨_, hdel, by simp, ?_, hback⟩
  rw [heth]
  rcases haf with rfl | rfl <;> decide

end AndroidTether
