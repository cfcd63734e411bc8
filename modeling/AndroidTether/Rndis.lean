import AndroidTether.NetTypes

namespace AndroidTether

open Bytes

/-!
# RNDIS data packets

`rndis_build_data_packet` and `rndis_parse_data_packet` of `rndis.c`, over the 44-byte
header `rndis_data_packet_t`.  Offsets inside the header count from the `data_offset` field
at byte 8, and `8 + pkt->data_offset` is evaluated in 32 bits before it is widened.

* `rndisBuildDataPacket_packet` — the encoder's output, byte for byte;
* `rndisParseDataPacket_val` — the decoder without its log of reads;
* `rndisParseDataPacket_at` — the decoder only depends on the message it is given;
* `rndisParseDataPacket_built` — it finds the frame the encoder wrapped.
-/

/-- `RNDIS_MSG_PACKET` -/
def rndisMsgPacket : Nat := 1

/-- `sizeof(rndis_data_packet_t)` -/
def sizeofRndisDataPacket : Nat := 44

/-- `rndis_build_data_packet`: header, then the frame. -/
def rndisBuildDataPacket (bufSize : Nat) (ethFrame : List UInt8) : Built :=
  let total := sizeofRndisDataPacket + ethFrame.length
  if bufSize < total then .fail
  else
    { ret := toInt total
      stores := [
        ⟨0, List.replicate sizeofRndisDataPacket 0⟩,
        ⟨0, le32Bytes rndisMsgPacket⟩,
        ⟨4, le32Bytes total⟩,
        ⟨8, le32Bytes 36⟩,
        ⟨12, le32Bytes ethFrame.length⟩,
        ⟨sizeofRndisDataPacket, ethFrame⟩] }

/-- `rndis_parse_data_packet` on the `len` bytes at `buf`: where the frame lies. -/
def rndisParseDataPacket (m : Mem) (buf len : Nat) : Logged (Option Span) :=
  if len < sizeofRndisDataPacket then pure none
  else do
    let msgType ← rdLe32 m buf
    if msgType ≠ rndisMsgPacket then
      pure none
    else
      let dataLen ← rdLe32 m (buf + 12)
      if dataLen = 0 then
        pure none
      else
        let dataOffset ← rdLe32 m (buf + 8)
        let dataStart := u32 (8 + dataOffset)
        -- `data_start` is a `size_t`: this sum does not wrap
        if dataStart + dataLen > len then pure none
        else pure (some ⟨buf + dataStart, dataLen⟩)

/-! ### The decoder -/

/-- The decoder's result, without the log of reads. -/
theorem rndisParseDataPacket_val (m : Mem) (buf len : Nat) :
    (rndisParseDataPacket m buf len).val =
      if sizeofRndisDataPacket ≤ len ∧ le32 m buf = rndisMsgPacket ∧ le32 m (buf + 12) ≠ 0 ∧
          u32 (8 + le32 m (buf + 8)) + le32 m (buf + 12) ≤ len then
        some ⟨buf + u32 (8 + le32 m (buf + 8)), le32 m (buf + 12)⟩
      else none := by
  unfold rndisParseDataPacket
  by_cases hlen : len < sizeofRndisDataPacket
  · rw [if_pos hlen, if_neg (by omega), Logged.val_pure]
  by_cases htype : le32 m buf = rndisMsgPacket
  · by_cases hdata : le32 m (buf + 12) = 0
    · simp [hlen, htype, hdata]
    · by_cases hfit : u32 (8 + le32 m (buf + 8)) + le32 m (buf + 12) > len
      · simp [hlen, htype, hdata, hfit]
      · simp [hlen, htype, hdata, hfit, Nat.not_lt.mp hlen, Nat.not_lt.mp hfit]
  · simp [hlen, htype]

/-- An accepted frame lies inside the message, counted from its start. -/
theorem rndisParseDataPacket_within {m : Mem} {buf len : Nat} {f : Span}
    (h : (rndisParseDataPacket m buf len).val = some f) : f.Within (buf + len) := by
  rw [rndisParseDataPacket_val] at h
  split at h
  · rename_i hc
    simp only [Option.some.injEq] at h
    subst h
    simp only [Span.Within]
    omega
  · cases h

/-- Frames are shorter than the 32-bit length field allows. -/
theorem rndisParseDataPacket_len_lt {m : Mem} {buf len : Nat} {f : Span}
    (h : (rndisParseDataPacket m buf len).val = some f) : f.len < 2 ^ 32 := by
  rw [rndisParseDataPacket_val] at h
  split at h
  · exact Option.some.inj h ▸ le32_lt m (buf + 12)
  · cases h

/-- Everything the decoder reads lies in the first sixteen bytes, and it reads nothing of
    a message too short for the header. -/
theorem rndisParseDataPacket_reads {m : Mem} {buf len : Nat} {r : Span}
    (h : r ∈ (rndisParseDataPacket m buf len).reads) :
    r.Within (buf + 16) ∧ sizeofRndisDataPacket ≤ len := by
  unfold rndisParseDataPacket at h
  by_cases hlen : len < sizeofRndisDataPacket
  · simp [hlen] at h
  refine ⟨?_, by omega⟩
  by_cases htype : le32 m buf = rndisMsgPacket
  · by_cases hdata : le32 m (buf + 12) = 0
    · simp [hlen, htype, hdata] at h
      rcases h with rfl | rfl <;> simp [Span.Within]
    · by_cases hfit : u32 (8 + le32 m (buf + 8)) + le32 m (buf + 12) > len <;>
        simp [hlen, htype, hdata, hfit] at h <;>
        rcases h with rfl | rfl | rfl <;> simp [Span.Within]
  · simp [hlen, htype] at h
    subst h
    simp [Span.Within]

/-- The decoder reads the payload length of every message that is long enough and typed as
    a packet. -/
theorem rndisParseDataPacket_reads_dataLen {m : Mem} {buf len : Nat}
    (hlen : sizeofRndisDataPacket ≤ len) (htype : le32 m buf = rndisMsgPacket) :
    ⟨buf + 12, 4⟩ ∈ (rndisParseDataPacket m buf len).reads := by
  unfold rndisParseDataPacket
  by_cases hdata : le32 m (buf + 12) = 0
  · simp [Nat.not_lt.mpr hlen, htype, hdata]
  · by_cases hfit : u32 (8 + le32 m (buf + 8)) + le32 m (buf + 12) > len <;>
      simp [Nat.not_lt.mpr hlen, htype, hdata, hfit]

/-- Where a message lies does not matter: decoding it in place and decoding a copy of it
    find the same frame. -/
theorem rndisParseDataPacket_at {m : Mem} {o : Nat} {msg : List UInt8} (h : At m o msg) :
    (rndisParseDataPacket m o msg.length).val.map (·.bytes m) =
      (rndisParseDataPacket (ofList msg) 0 msg.length).val.map (·.bytes (ofList msg)) := by
  rw [rndisParseDataPacket_val, rndisParseDataPacket_val]
  by_cases hlen : sizeofRndisDataPacket ≤ msg.length
  · have hlen' : 44 ≤ msg.length := hlen
    have h0 : le32 m o = le32 (ofList msg) 0 := by
      simpa using h.le32 (i := 0) (by omega)
    simp only [h0, h.le32 (i := 8) (by omega), h.le32 (i := 12) (by omega), Nat.zero_add, hlen,
      true_and]
    split
    · rename_i hc
      simp only [Option.map_some, Span.bytes, Option.some.injEq]
      exact h.slice_eq hc.2.2
    · rfl
  · simp [hlen]

/-! ### The encoder -/

/-- The wrapped frame, byte for byte. -/
def dataPacketBytes (ethFrame : List UInt8) : List UInt8 :=
  le32Bytes rndisMsgPacket ++ le32Bytes (sizeofRndisDataPacket + ethFrame.length) ++
    le32Bytes 36 ++ le32Bytes ethFrame.length ++ List.replicate 28 0 ++ ethFrame

/-- A wrapped frame is 44 bytes longer. -/
@[simp] theorem dataPacketBytes_length (ethFrame : List UInt8) :
    (dataPacketBytes ethFrame).length = sizeofRndisDataPacket + ethFrame.length := by
  simp [dataPacketBytes, sizeofRndisDataPacket]
  omega

/-- The encoder in a buffer that is large enough. -/
theorem rndisBuildDataPacket_of_le {bufSize : Nat} {ethFrame : List UInt8}
    (hfit : sizeofRndisDataPacket + ethFrame.length ≤ bufSize) :
    rndisBuildDataPacket bufSize ethFrame =
      { ret := toInt (sizeofRndisDataPacket + ethFrame.length)
        stores := [
          ⟨0, List.replicate sizeofRndisDataPacket 0⟩,
          ⟨0, le32Bytes rndisMsgPacket⟩,
          ⟨4, le32Bytes (sizeofRndisDataPacket + ethFrame.length)⟩,
          ⟨8, le32Bytes 36⟩,
          ⟨12, le32Bytes ethFrame.length⟩,
          ⟨sizeofRndisDataPacket, ethFrame⟩] } := by
  rw [rndisBuildDataPacket, if_neg (by omega)]

/-- What a successful build returns. -/
theorem rndisBuildDataPacket_ret {bufSize : Nat} {ethFrame : List UInt8}
    (hfit : sizeofRndisDataPacket + ethFrame.length ≤ bufSize)
    (hlt : sizeofRndisDataPacket + ethFrame.length < 2 ^ 31) :
    (rndisBuildDataPacket bufSize ethFrame).ret = (sizeofRndisDataPacket + ethFrame.length : Nat) := by
  simp only [rndisBuildDataPacket_of_le hfit, toInt_of_lt hlt]

/-- A successful build leaves exactly `dataPacketBytes` at the start of the buffer. -/
theorem rndisBuildDataPacket_packet {bufSize : Nat} {ethFrame : List UInt8} (m : Mem)
    (hfit : sizeofRndisDataPacket + ethFrame.length ≤ bufSize)
    (hlt : sizeofRndisDataPacket + ethFrame.length < 2 ^ 31) :
    (rndisBuildDataPacket bufSize ethFrame).packet m = dataPacketBytes ethFrame := by
  have hret : (toInt (sizeofRndisDataPacket + ethFrame.length)).toNat =
      (dataPacketBytes ethFrame).length := by
    rw [toInt_of_lt hlt, dataPacketBytes_length, Int.toNat_natCast]
  rw [rndisBuildDataPacket_of_le hfit, Built.packet, hret, ← at_iff_slice]
  simp only [dataPacketBytes, at_append, List.length_append, le32Bytes_length,
    List.length_replicate, Nat.zero_add]
  -- each field was the last thing written to its place, and the rest of the header keeps
  -- the zeros of `memset`
  refine ⟨⟨⟨⟨⟨?type, ?msgLen⟩, ?offset⟩, ?dataLen⟩, ?zeros⟩, ?frame⟩
  case type => exact at_storeAll m [_] ⟨0, _⟩ [_, _, _, _] (by simp [sizeofRndisDataPacket])
  case msgLen => exact at_storeAll m [_, _] ⟨4, _⟩ [_, _, _] (by simp [sizeofRndisDataPacket])
  case offset => exact at_storeAll m [_, _, _] ⟨8, _⟩ [_, _] (by simp [sizeofRndisDataPacket])
  case dataLen => exact at_storeAll m [_, _, _, _] ⟨12, _⟩ [_] (by simp [sizeofRndisDataPacket])
  case zeros =>
    have hzero := at_store_replicate m 0 0 (n := sizeofRndisDataPacket) (k := 16) (j := 28)
      (by decide)
    exact hzero.storeAll_of_disjoint (by simp [sizeofRndisDataPacket])
  case frame => exact at_storeAll m [_, _, _, _, _] ⟨44, _⟩ [] (by simp)

/-- **Round trip of one packet.**  Decoding a wrapped non-empty frame finds exactly it. -/
theorem rndisParseDataPacket_built {m : Mem} {o : Nat} {ethFrame : List UInt8}
    (hne : ethFrame ≠ []) (hlt : sizeofRndisDataPacket + ethFrame.length < 2 ^ 31)
    (h : At m o (dataPacketBytes ethFrame)) :
    (rndisParseDataPacket m o (sizeofRndisDataPacket + ethFrame.length)).val =
      some ⟨o + sizeofRndisDataPacket, ethFrame.length⟩ := by
  have hpos := List.length_pos_iff.mpr hne
  simp only [dataPacketBytes, at_append, List.length_append, le32Bytes_length] at h
  obtain ⟨⟨⟨⟨⟨h0, -⟩, h8⟩, h12⟩, -⟩, -⟩ := h
  have hlen : ethFrame.length % 2 ^ 32 = ethFrame.length := Nat.mod_eq_of_lt (by omega)
  rw [rndisParseDataPacket_val, h0.le32_eq, h8.le32_eq, h12.le32_eq, hlen, if_pos]
  · rfl
  · refine ⟨by omega, rfl, by omega, ?_⟩
    simp only [sizeofRndisDataPacket, u32]
    omega

end AndroidTether
