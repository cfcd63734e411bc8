import AndroidTether.DhcpInspect
import AndroidTether.Lib.OnesSum

namespace AndroidTether

open Bytes WhileLoop Tlv

/-!
# Decoding options, and decoding what is built

`dhcp_parse_options` against a reference that reads the option bytes one option after another,
and the two frames that `dhcp_discover` sends against a reader of such frames.

* `dhcpParseOptions_reference` — the walk ends, stays inside the options and leaves what the
  reference leaves;
* `frameStores_ipHeader`, `sum_headerWords` — the IP header of a built frame and its checksum;
* `dhcpBuild_wellFormed` — both builders, field by field, with their options read back.
-/

/-! ### The reference -/

/-- The address in the first four bytes of a value. -/
def firstAddr : List UInt8 → Option InAddr
  | b0 :: b1 :: b2 :: b3 :: _ => some ⟨b0, b1, b2, b3⟩
  | _ => none

/-- What one option sets: the subnet mask, the router, or one or two name servers. -/
def NetOpts.assign (v : NetOpts) (o : Opt) : NetOpts :=
  if o.tag = 1 then { v with netmask := (firstAddr o.value).getD v.netmask }
  else if o.tag = 3 then { v with gateway := (firstAddr o.value).getD v.gateway }
  else if o.tag = 6 then
    { v with
      dns1 := (firstAddr o.value).getD v.dns1
      dns2 := (firstAddr (o.value.drop 4)).getD v.dns2 }
  else v

/-- The first address of an option, if it has four bytes. -/
theorem firstAddr_eq (value : List UInt8) :
    firstAddr value = if 4 ≤ value.length then some (inAddrAt (ofList value) 0) else none := by
  unfold firstAddr
  split
  · rw [if_pos (by simp)]
    rfl
  · rename_i hshort
    rw [if_neg]
    intro hlen
    match value, hlen with
    | b0 :: b1 :: b2 :: b3 :: rest, _ => exact hshort b0 b1 b2 b3 rest rfl

/-- The second one, if it has eight. -/
theorem firstAddr_drop (value : List UInt8) :
    firstAddr (value.drop 4) =
      if 8 ≤ value.length then some (inAddrAt (ofList value) 4) else none := by
  rw [firstAddr_eq, List.length_drop]
  by_cases hlen : 8 ≤ value.length
  · have haddr : inAddrAt (ofList (value.drop 4)) 0 = inAddrAt (ofList value) 4 := by
      simp [inAddrAt, ofList, List.getD_eq_getElem?_getD]
    rw [if_pos (by omega), if_pos hlen, haddr]
  · rw [if_neg (by omega), if_neg hlen]

/-- The `switch` does with an option what the reference does. -/
theorem onCopy_parseOption (v : NetOpts) (o : Opt) : onCopy parseOption v o = v.assign o := by
  rw [onCopy, parseOption_val, NetOpts.assign, firstAddr_eq, firstAddr_drop]
  have h31 : (3 : UInt8) ≠ 1 := by decide
  have h61 : (6 : UInt8) ≠ 1 := by decide
  have h63 : (6 : UInt8) ≠ 3 := by decide
  by_cases h1 : o.tag = 1
  · by_cases hlen : 4 ≤ o.value.length <;> simp [h1, hlen]
  by_cases h3 : o.tag = 3
  · by_cases hlen : 4 ≤ o.value.length <;> simp [h3, hlen]
  by_cases h6 : o.tag = 6
  · by_cases hlen : 4 ≤ o.value.length <;> by_cases hlen' : 8 ≤ o.value.length <;>
      simp [h6, hlen, hlen']
  simp [h1, h3, h6]

/-- **`dhcp_parse_options` and the reference.**  The loop ends; it reads only option bytes; and
    the outputs are those of the complete options before the end, folded in order. -/
theorem dhcpParseOptions_reference (m : Mem) (opts len : Nat) (v : NetOpts) :
    (∃ s, iterate (fun s => (parseOptionsBody m opts len s).val) (len + 1) (0, v) = .done s) ∧
      ReadsWithin opts (opts + len) (dhcpParseOptions m opts len v).reads ∧
      ∃ os tail, Reads (slice m opts len) os tail ∧ Stuck tail ∧
        (dhcpParseOptions m opts len v).val = os.foldl NetOpts.assign v := by
  refine ⟨?ends, dhcpParseOptions_reads m opts len v, ?value⟩
  case ends =>
    obtain ⟨j, hj⟩ := iterate_walkBody parseOption_onValue m opts len v
    exact ⟨_, hj⟩
  case value =>
    obtain ⟨tail, hreads, hstuck⟩ := splitOptions_iff.mp (rfl : splitOptions (slice m opts len) = _)
    refine ⟨_, tail, hreads, hstuck, ?_⟩
    have hstep : onCopy parseOption = NetOpts.assign := funext₂ onCopy_parseOption
    rw [dhcpParseOptions_val, hstep]

/-! ### The frame before its checksum -/

/-- `dhcp_len`: the BOOTP header and the options, padded. -/
def dhcpLen (opts : List UInt8) : Nat := max 258 (sizeofDhcpPacket + opts.length)

/-- The writes of a builder up to the one of the header checksum. -/
def frameStores (bufSize : Nat) (mac : Mac) (xid : Nat) (ipFields : List Store)
    (opts : List UInt8) : List Store := [
  ⟨0, List.replicate bufSize 0⟩,
  ⟨0, List.replicate 6 0xFF⟩,
  ⟨6, mac.toList⟩,
  ⟨12, be16Bytes 0x0800⟩,
  ⟨14, [0x45]⟩] ++ ipFields ++ [
  ⟨22, [64]⟩,
  ⟨23, [ipprotoUdp]⟩,
  ⟨26, List.replicate 4 0⟩,
  ⟨30, List.replicate 4 0xFF⟩,
  ⟨34, be16Bytes dhcpClientPort⟩,
  ⟨36, be16Bytes dhcpServerPort⟩,
  ⟨42, [1]⟩,
  ⟨43, [1]⟩,
  ⟨44, [6]⟩,
  ⟨46, be32Bytes xid⟩,
  ⟨52, be16Bytes 0x8000⟩,
  ⟨70, mac.toList⟩,
  ⟨278, be32Bytes dhcpMagicCookie⟩,
  ⟨282, opts⟩,
  ⟨38, be16Bytes (8 + dhcpLen opts)⟩,
  ⟨40, List.replicate 2 0⟩,
  ⟨16, be16Bytes (20 + 8 + dhcpLen opts)⟩,
  ⟨24, List.replicate 2 0⟩]

/-- Those of `frameStores` behind the ones that only one builder makes. -/
def frameFields (mac : Mac) (xid : Nat) (opts : List UInt8) : List Store :=
  (frameStores 0 mac xid [] opts).drop 5

/-- The writes in the order of the source: clearing, Ethernet, IP, and what follows. -/
theorem frameStores_split (bufSize : Nat) (mac : Mac) (xid : Nat) (ipFields : List Store)
    (opts : List UInt8) :
    frameStores bufSize mac xid ipFields opts =
      [⟨0, List.replicate bufSize 0⟩, ⟨0, List.replicate 6 0xFF⟩, ⟨6, mac.toList⟩,
        ⟨12, be16Bytes 0x0800⟩, ⟨14, [0x45]⟩] ++ ipFields ++ frameFields mac xid opts := rfl

/-- No field of the headers is written twice. -/
theorem frameFields_apart (mac : Mac) (xid : Nat) (opts : List UInt8) :
    (frameFields mac xid opts).Pairwise Store.Apart := by
  simp [frameFields, frameStores, Store.Apart]

/-- So they are all there at the end. -/
theorem at_frameFields {mac : Mac} {xid : Nat} {opts : List UInt8} {base : Mem} (pos : Nat)
    (bytes : List UInt8) (h : ⟨pos, bytes⟩ ∈ frameFields mac xid opts) :
    At (storeAll base (frameFields mac xid opts)) pos bytes :=
  at_storeAll_of_mem base (frameFields_apart mac xid opts) h

/-- The IP header without its checksum. -/
def ipHeaderBytes (len : Nat) : List UInt8 :=
  [0x45] ++ [0] ++ be16Bytes len ++ List.replicate 4 0 ++ [64] ++ [ipprotoUdp] ++
    List.replicate 2 0 ++ List.replicate 4 0 ++ List.replicate 4 0xFF

/-- Header fields that only one of the builders writes: all of them zero, and none behind the
    fragment offset. -/
def ZeroFields (ipFields : List Store) : Prop :=
  ∀ t ∈ ipFields, 15 ≤ t.pos ∧ t.pos + t.bytes.length ≤ 22 ∧ ∀ b ∈ t.bytes, b = 0

/-- What a builder returns and writes when the buffer is large enough. -/
theorem dhcpBuildFrame_eq {bufSize : Nat} {mac : Mac} {xid : Nat} {ipFields : List Store}
    {opts : List UInt8} (hsize : 300 ≤ bufSize) :
    dhcpBuildFrame bufSize mac xid ipFields opts =
      { ret := toInt (42 + dhcpLen opts)
        stores := frameStores bufSize mac xid ipFields opts ++
          [⟨24, ipChecksum (storeAll (fun _ => 0) (frameStores bufSize mac xid ipFields opts)) 14⟩] } := by
  have hlen : (if sizeofDhcpPacket + opts.length < 300 - sizeofEthHdr - 20 - 8 then
      300 - sizeofEthHdr - 20 - 8 else sizeofDhcpPacket + opts.length) = dhcpLen opts := by
    have h258 : 300 - sizeofEthHdr - 20 - 8 = 258 := rfl
    rw [dhcpLen, h258]
    by_cases hpad : sizeofDhcpPacket + opts.length < 258
    · rw [if_pos hpad, max_eq_left hpad.le]
    · rw [if_neg hpad, max_eq_right (Nat.not_lt.mp hpad)]
  rw [dhcpBuildFrame, if_neg (by omega)]
  simp only [hlen]
  rfl

section Frame

variable {bufSize : Nat} {mac : Mac} {xid : Nat} {ipFields : List Store} {opts : List UInt8}

/-- What the buffer holds before the fields behind the protocol version that both builders
    write: the version, and zeros up to the time to live. -/
theorem frameStores_start (hsize : 300 ≤ bufSize) (hip : ZeroFields ipFields) (m : Mem) :
    At (storeAll (storeAll m [⟨0, List.replicate bufSize 0⟩, ⟨0, List.replicate 6 0xFF⟩,
        ⟨6, mac.toList⟩, ⟨12, be16Bytes 0x0800⟩, ⟨14, [0x45]⟩]) ipFields) 14
      ([0x45] ++ List.replicate 7 0) := by
  have hzero : At (storeAll m [⟨0, List.replicate bufSize 0⟩, ⟨0, List.replicate 6 0xFF⟩,
      ⟨6, mac.toList⟩, ⟨12, be16Bytes 0x0800⟩, ⟨14, [0x45]⟩]) 15 (List.replicate 7 0) := by
    have hfill := at_store_replicate m 0 0 (n := bufSize) (k := 15) (j := 7) (by omega)
    rw [Nat.zero_add] at hfill
    exact hfill.storeAll_of_disjoint (by simp)
  rw [at_append]
  constructor
  · refine (at_storeAll m [_, _, _, _] ⟨14, [0x45]⟩ [] (by simp)).storeAll_of_disjoint ?_
    intro t ht
    exact .inr (hip t ht).1
  · exact hzero.storeAll_replicate fun t ht => (hip t ht).2.2

/-- Before the checksum is written the IP header is the same in both frames, whatever was in
    the buffer. -/
theorem frameStores_ipHeader (hsize : 300 ≤ bufSize) (hip : ZeroFields ipFields) (m : Mem) :
    At (storeAll m (frameStores bufSize mac xid ipFields opts)) 14
      (ipHeaderBytes (20 + 8 + dhcpLen opts)) := by
  have hstart := @frameStores_start bufSize mac ipFields hsize hip m
  rw [frameStores_split, storeAll_append, storeAll_append]
  generalize storeAll (storeAll m _) ipFields = base at hstart ⊢
  rw [show (7 : Nat) = 1 + (2 + 4) from rfl, List.replicate_add, List.replicate_add, at_append,
    at_append, at_append] at hstart
  obtain ⟨hver, htos, -, hid⟩ := hstart
  simp only [ipHeaderBytes, at_append, List.length_append, List.length_replicate, be16Bytes_length,
    List.length_cons, List.length_nil]
  refine ⟨⟨⟨⟨⟨⟨⟨⟨?ver, ?tos⟩, ?len⟩, ?id⟩, ?ttl⟩, ?proto⟩, ?sum⟩, ?src⟩, ?dst⟩
  case ver => exact hver.storeAll_of_disjoint (by simp [frameFields, frameStores])
  case tos => exact htos.storeAll_of_disjoint (by simp [frameFields, frameStores])
  case id => exact hid.storeAll_of_disjoint (by simp [frameFields, frameStores])
  case len => exact at_frameFields 16 _ (by simp [frameFields, frameStores])
  case ttl => exact at_frameFields 22 _ (by simp [frameFields, frameStores])
  case proto => exact at_frameFields 23 _ (by simp [frameFields, frameStores])
  case sum => exact at_frameFields 24 _ (by simp [frameFields, frameStores])
  case src => exact at_frameFields 26 _ (by simp [frameFields, frameStores])
  case dst => exact at_frameFields 30 _ (by simp [frameFields, frameStores])

/-- The fields outside the IP header, before and after the checksum is written. -/
theorem frameStores_fields (hip : ZeroFields ipFields) (m : Mem) (ck : List UInt8)
    (hck : ck.length = 2) :
    let built := store (storeAll m (frameStores bufSize mac xid ipFields opts)) 24 ck
    At built 6 mac.toList ∧
      At built 34 (be16Bytes dhcpClientPort ++ be16Bytes dhcpServerPort ++
        be16Bytes (8 + dhcpLen opts)) ∧
      At built 46 (be32Bytes xid) ∧ At built 70 mac.toList ∧ At built 282 opts := by
  intro built
  have hkeep : ∀ a bs, At (storeAll m (frameStores bufSize mac xid ipFields opts)) a bs →
      24 + ck.length ≤ a ∨ a + bs.length ≤ 24 → At built a bs :=
    fun a bs h hd => h.store_of_disjoint hd
  have hsrc := at_storeAll m [⟨0, List.replicate bufSize 0⟩, ⟨0, List.replicate 6 0xFF⟩]
    ⟨6, mac.toList⟩ [⟨12, be16Bytes 0x0800⟩, ⟨14, [0x45]⟩] (by simp)
  have hsrc := hsrc.storeAll_of_disjoint fun (t : Store) (ht : t ∈ ipFields) => .inr (by
    have := (hip t ht).1
    simp
    omega)
  rw [frameStores_split, storeAll_append, storeAll_append] at hkeep
  simp only [List.cons_append, List.nil_append] at hsrc
  generalize storeAll (storeAll m _) ipFields = base at hkeep hsrc
  refine ⟨hkeep _ _ (hsrc.storeAll_of_disjoint (by simp [frameFields, frameStores])) (by simp),
    ?udp, ?ident, ?chaddr, ?options⟩
  case udp =>
    rw [at_append, at_append]
    refine ⟨⟨?_, ?_⟩, ?_⟩
    · exact hkeep _ _ (at_frameFields 34 _ (by simp [frameFields, frameStores])) (by simp; omega)
    · exact hkeep _ _ (at_frameFields 36 _ (by simp [frameFields, frameStores])) (by simp; omega)
    · exact hkeep _ _ (at_frameFields 38 _ (by simp [frameFields, frameStores])) (by simp; omega)
  case ident =>
    exact hkeep _ _ (at_frameFields 46 _ (by simp [frameFields, frameStores])) (by simp; omega)
  case chaddr =>
    exact hkeep _ _ (at_frameFields 70 _ (by simp [frameFields, frameStores])) (by omega)
  case options =>
    exact hkeep _ _ (at_frameFields 282 _ (by simp [frameFields, frameStores])) (by omega)

end Frame

/-! ### The checksum -/

/-- The ten words of the IP header. -/
def headerWords (m : Mem) (iph : Nat) : List Nat := (List.range 10).map fun i => be16 m (iph + 2 * i)

/-- Folding carries computes a remainder. -/
theorem foldCarry_eq (n : Nat) : foldCarry n = OnesSum.rep 65535 n := by
  induction n using Nat.strong_induction_on with
  | _ n ih =>
    rw [foldCarry]
    split_ifs with hhigh
    · rw [OnesSum.rep_of_le (by omega)]
    · rw [ih _ (by omega)]
      exact OnesSum.rep_fold n

/-- The checksum complements the sum of the words. -/
theorem ipChecksum_eq (m : Mem) (iph : Nat) :
    ipChecksum m iph = be16Bytes (65535 - OnesSum.rep 65535 (headerWords m iph).sum) := by
  have hle := OnesSum.rep_le (m := 65535) (by decide) (headerWords m iph).sum
  rw [ipChecksum, foldCarry_eq]
  have hnot : (2 ^ 32 - 1 - OnesSum.rep 65535 (headerWords m iph).sum) % 2 ^ 16 =
      65535 - OnesSum.rep 65535 (headerWords m iph).sum := by
    omega
  exact congrArg be16Bytes hnot

/-- A header that was written with its checksum still zero sums up to all ones when the
    checksum is written. -/
theorem sum_headerWords {m m' : Mem} {iph : Nat} (hzero : be16 m (iph + 10) = 0)
    (hsame : ∀ i < 10, i ≠ 5 → be16 m' (iph + 2 * i) = be16 m (iph + 2 * i))
    (hck : At m' (iph + 10) (ipChecksum m iph)) :
    OnesSum.sum 65535 (headerWords m' iph) = 65535 := by
  have hle := OnesSum.rep_le (m := 65535) (by decide) (headerWords m iph).sum
  rw [ipChecksum_eq] at hck
  have hword : ∀ i ∈ List.range 10, be16 m' (iph + 2 * i) = be16 m (iph + 2 * i) +
      if i = 5 then 65535 - OnesSum.rep 65535 (headerWords m iph).sum else 0 := by
    intro i hi
    split_ifs with h5
    · rw [h5, hzero, hck.be16_eq, Nat.mod_eq_of_lt (by omega), Nat.zero_add]
    · exact hsame i (List.mem_range.mp hi) h5
  have hsum : (headerWords m' iph).sum = (headerWords m iph).sum +
      (65535 - OnesSum.rep 65535 (headerWords m iph).sum) := by
    have hone : ∀ x : Nat, ((List.range 10).map fun i => if i = 5 then x else 0).sum = x := by
      intro x
      simp [List.range_succ]
    rw [headerWords, List.map_congr_left hword, List.sum_map_add, hone, ← headerWords]
  have hwords : ∀ w ∈ headerWords m' iph, w ≤ 65535 := by
    intro w hw
    obtain ⟨i, -, rfl⟩ := List.mem_map.mp hw
    have h0 := (m' (iph + 2 * i)).toNat_lt
    have h1 := (m' (iph + 2 * i + 1)).toNat_lt
    simp only [be16]
    omega
  rw [OnesSum.sum_eq (by decide) hwords, hsum, OnesSum.rep_complement (by decide)]

/-! ### A frame as its reader sees it -/

/-- Where the UDP header of a frame starts. -/
def udpOffset (fr : List UInt8) : Nat := sizeofEthHdr + ipHdrLen (ofList fr) 0

/-- Where the options of a frame start. -/
def optionsOffset (fr : List UInt8) : Nat := dhcpOffset (ofList fr) 0 + sizeofDhcpPacket

/-- A DHCP frame of a client, with lengths that fit each other, a valid header checksum and
    the options `os`, which `dhcp_parse_options` visits and the end tag follows. -/
structure IsDhcpFrame (mac : Mac) (xid : Nat) (os : List Opt) (fr : List UInt8) : Prop where
  totalLength : fr.length = sizeofEthHdr + be16 (ofList fr) (sizeofEthHdr + 2)
  udpLength : be16 (ofList fr) (sizeofEthHdr + 2) = 20 + be16 (ofList fr) (udpOffset fr + 4)
  checksum : OnesSum.sum 65535 (headerWords (ofList fr) sizeofEthHdr) = 65535
  source : slice (ofList fr) 6 6 = mac.toList
  chaddr : slice (ofList fr) (dhcpOffset (ofList fr) 0 + 28) 6 = mac.toList
  transaction : be32 (ofList fr) (dhcpOffset (ofList fr) 0 + 4) = u32 xid
  sourcePort : be16 (ofList fr) (udpOffset fr) = dhcpClientPort
  destPort : be16 (ofList fr) (udpOffset fr + 2) = dhcpServerPort
  options : visitedOptions (ofList fr) (optionsOffset fr) (fr.length - optionsOffset fr) = os
  ended : ∃ rest, Reads (slice (ofList fr) (optionsOffset fr) (fr.length - optionsOffset fr)) os
    (endTag :: rest)

section Frame

variable {bufSize : Nat} {mac : Mac} {xid : Nat} {ipFields : List Store} {opts : List UInt8}

/-- The length of a built frame. -/
theorem dhcpBuildFrame_packet (hsize : 300 ≤ bufSize) (hlen : opts.length < 2 ^ 15) (m : Mem) :
    (dhcpBuildFrame bufSize mac xid ipFields opts).ret = (42 + dhcpLen opts : Nat) ∧
      (dhcpBuildFrame bufSize mac xid ipFields opts).packet m =
        slice (store (storeAll m (frameStores bufSize mac xid ipFields opts)) 24
          (ipChecksum (storeAll (fun _ => 0) (frameStores bufSize mac xid ipFields opts)) 14)) 0
          (42 + dhcpLen opts) := by
  have hlt : 42 + dhcpLen opts < 2 ^ 31 := by
    simp only [dhcpLen, sizeofDhcpPacket]
    omega
  have hret : (dhcpBuildFrame bufSize mac xid ipFields opts).ret = (42 + dhcpLen opts : Nat) := by
    rw [dhcpBuildFrame_eq hsize]
    dsimp only
    rw [toInt_of_lt hlt]
  refine ⟨hret, ?_⟩
  rw [Built.packet, hret, Int.toNat_natCast, dhcpBuildFrame_eq hsize, storeAll_append]
  rfl

/-- The header of a built frame: its version and total length, and a valid checksum. -/
theorem dhcpBuildFrame_ipHeader (hsize : 300 ≤ bufSize) (hip : ZeroFields ipFields)
    (hlen : opts.length < 2 ^ 15) (m : Mem) :
    let fr := (dhcpBuildFrame bufSize mac xid ipFields opts).packet m
    ofList fr 14 = 0x45 ∧ be16 (ofList fr) 16 = 28 + dhcpLen opts ∧
      OnesSum.sum 65535 (headerWords (ofList fr) 14) = 65535 := by
  intro fr
  have hn : 300 ≤ 42 + dhcpLen opts := by
    simp only [dhcpLen]
    omega
  have hlt : 28 + dhcpLen opts < 2 ^ 16 := by
    simp only [dhcpLen, sizeofDhcpPacket]
    omega
  have hfr : fr = _ := (dhcpBuildFrame_packet hsize hlen m).2
  have hhdr : ∀ base, At (storeAll base (frameStores bufSize mac xid ipFields opts)) 14
      (ipHeaderBytes (20 + 8 + dhcpLen opts)) := frameStores_ipHeader hsize hip
  generalize hck : ipChecksum _ _ = ck at hfr
  have hck2 : ck.length = 2 := by rw [← hck, ipChecksum_length]
  -- what the header held before the checksum was written is still there beside it
  have hbefore : ∀ a bs, At (storeAll m (frameStores bufSize mac xid ipFields opts)) a bs →
      26 ≤ a ∨ a + bs.length ≤ 24 → a + bs.length ≤ 300 → At (ofList fr) a bs := by
    intro a bs h hd hin
    rw [hfr]
    exact (h.store_of_disjoint (by omega)).ofList_slice (by omega)
  have hsplit := hhdr m
  simp only [ipHeaderBytes, at_append, List.length_append, List.length_replicate, be16Bytes_length,
    List.length_cons, List.length_nil] at hsplit
  obtain ⟨⟨⟨⟨⟨⟨⟨⟨hver, -⟩, htotal⟩, -⟩, -⟩, -⟩, -⟩, -⟩, -⟩ := hsplit
  refine ⟨hbefore 14 _ hver (by simp) (by simp) 0 (by simp), ?total, ?sum⟩
  case total =>
    rw [(hbefore 16 _ htotal (by simp) (by simp)).be16_eq, Nat.mod_eq_of_lt hlt]
  case sum =>
    refine sum_headerWords (m := storeAll (fun _ => 0) (frameStores bufSize mac xid ipFields opts))
      ?zero ?same ?ck
    case zero =>
      rw [(hhdr _).be16 (i := 10) (by simp [ipHeaderBytes])]
      rfl
    case same =>
      intro i hi hne
      have hin : 2 * i + 2 ≤ (ipHeaderBytes (20 + 8 + dhcpLen opts)).length := by
        simp [ipHeaderBytes]
        omega
      rw [hfr, be16_slice _ (by omega), be16_store (by omega), (hhdr m).be16 hin,
        (hhdr _).be16 hin]
    case ck =>
      rw [hck, hfr]
      exact (at_store _ 24 ck).ofList_slice (by omega)

/-- **What both builders make** of option bytes that end with the end tag, in a buffer of any
    contents. -/
theorem dhcpBuildFrame_isDhcpFrame {os : List Opt} {rest : List UInt8} (hsize : 300 ≤ bufSize)
    (hip : ZeroFields ipFields) (hlen : opts.length < 2 ^ 15)
    (hopts : Reads opts os (endTag :: rest)) (m : Mem) :
    (dhcpBuildFrame bufSize mac xid ipFields opts).ret =
        ((dhcpBuildFrame bufSize mac xid ipFields opts).packet m).length ∧
      IsDhcpFrame mac xid os ((dhcpBuildFrame bufSize mac xid ipFields opts).packet m) := by
  obtain ⟨hver, htotal, hsum⟩ :=
    @dhcpBuildFrame_ipHeader bufSize mac xid ipFields opts hsize hip hlen m
  obtain ⟨hret, hpacket⟩ :=
    @dhcpBuildFrame_packet bufSize mac xid ipFields opts hsize hlen m
  have hfields := @frameStores_fields bufSize mac xid ipFields opts hip m
    (ipChecksum (storeAll (fun _ => 0) (frameStores bufSize mac xid ipFields opts)) 14)
    (ipChecksum_length _ _)
  have hn : 300 ≤ 42 + dhcpLen opts ∧ 282 + opts.length ≤ 42 + dhcpLen opts ∧
      42 + dhcpLen opts < 2 ^ 16 := by
    simp only [dhcpLen, sizeofDhcpPacket]
    omega
  rw [hret]
  generalize (dhcpBuildFrame bufSize mac xid ipFields opts).packet m = fr at *
  generalize store _ 24 _ = built at *
  have hfr : fr.length = 42 + dhcpLen opts := by rw [hpacket, slice_length]
  -- the fields as they lie in the frame
  have hmem : ∀ a bs, At built a bs → a + bs.length ≤ 42 + dhcpLen opts → At (ofList fr) a bs :=
    fun a bs h hin => hpacket ▸ h.ofList_slice hin
  obtain ⟨hsrc, hudp, hxid, hchaddr, hoptions⟩ := hfields
  rw [at_append, at_append] at hudp
  have hip20 : ipHdrLen (ofList fr) 0 = 20 := by
    show (ofList fr (0 + 14)).toNat % 16 * 4 = 20
    rw [Nat.zero_add, hver]
    rfl
  have hudpOff : udpOffset fr = 34 := by rw [udpOffset, hip20]; rfl
  have hdhcpOff : dhcpOffset (ofList fr) 0 = 42 := by rw [dhcpOffset, hip20]; rfl
  have hoptsOff : optionsOffset fr = 282 := by rw [optionsOffset, hdhcpOff]; rfl
  -- the options start the bytes behind the header
  have hsplit : ∃ more, slice (ofList fr) 282 (fr.length - 282) = opts ++ more := by
    have hpart := at_iff_slice.mp (hmem 282 opts hoptions hn.2.1)
    obtain ⟨k, hk⟩ : ∃ k, fr.length - 282 = opts.length + k :=
      Nat.exists_eq_add_of_le (by omega)
    exact ⟨slice (ofList fr) (282 + opts.length) k, by rw [hk, slice_add, hpart]⟩
  obtain ⟨more, hsplit⟩ := hsplit
  have hreads : Reads (opts ++ more) os (endTag :: (rest ++ more)) := hopts.append more
  have hstuck : Stuck (endTag :: (rest ++ more)) := .ended _
  refine ⟨by rw [hfr], ?_⟩
  exact {
    totalLength := by
      show fr.length = 14 + be16 (ofList fr) 16
      rw [hfr, htotal]
      omega
    udpLength := by
      show be16 (ofList fr) 16 = _
      rw [hudpOff, htotal, (hmem 38 _ hudp.2 (by simp; omega)).be16_eq,
        Nat.mod_eq_of_lt (by omega)]
      omega
    checksum := hsum
    source := by simpa using at_iff_slice.mp (hmem 6 _ hsrc (by simp; omega))
    chaddr := by
      rw [hdhcpOff]
      simpa using at_iff_slice.mp (hmem 70 _ hchaddr (by simp; omega))
    transaction := by
      rw [hdhcpOff, (hmem 46 _ hxid (by simp; omega)).be32_eq]
      rfl
    sourcePort := by
      rw [hudpOff, (hmem 34 _ hudp.1.1 (by simp; omega)).be16_eq]
      rfl
    destPort := by
      rw [hudpOff, (hmem 36 _ hudp.1.2 (by simp; omega)).be16_eq]
      rfl
    options := by
      rw [hoptsOff, visitedOptions_eq, hsplit, hreads.splitOptions_eq, hstuck.splitOptions_eq,
        List.append_nil]
    ended := ⟨rest ++ more, by rwa [hoptsOff, hsplit]⟩ }

end Frame

/-- The options a discover carries. -/
def discoverOptions : List Opt := [⟨53, [1]⟩, ⟨55, [1, 3, 6]⟩]

/-- The option bytes of a DISCOVER read as its three options. -/
theorem reads_discover : Reads [53, 1, 1, 55, 3, 1, 3, 6, 0xFF] discoverOptions [endTag] := by
  have hend : Reads [endTag] [] [endTag] := .nil _
  have hparams : Reads ([55, 3] ++ ([1, 3, 6] ++ [endTag])) [⟨55, [1, 3, 6]⟩] [endTag] :=
    .opt (by decide) (by decide) rfl hend
  exact @Reads.opt 53 1 [1] _ _ _ (by decide) (by decide) rfl hparams

/-- The option bytes of a REQUEST read as its five. -/
theorem reads_request (offeredIp serverIp : InAddr) :
    Reads (requestOptionBytes offeredIp serverIp) (requestOptions offeredIp serverIp) [endTag] := by
  have hend : Reads [endTag] [] [endTag] := .nil _
  have hparams : Reads ([55, 3] ++ ([1, 3, 6] ++ [endTag])) [⟨55, [1, 3, 6]⟩] [endTag] :=
    .opt (by decide) (by decide) rfl hend
  have hserver := @Reads.opt 54 4 serverIp.bytes _ _ _ (by decide)
    (by decide) rfl hparams
  have hoffered := @Reads.opt 50 4 offeredIp.bytes _ _ _ (by decide)
    (by decide) rfl hserver
  exact @Reads.opt 53 1 [3] _ _ _ (by decide) (by decide) rfl hoffered

/-- **Built DHCP frames.**  What either builder returns for a buffer of 303 bytes or more is a
    well-formed frame, with exactly its own options in it, whatever the addresses are. -/
theorem dhcpBuild_wellFormed {bufSize : Nat} (hsize : 303 ≤ bufSize) (mac : Mac) (xid : Nat)
    (offeredIp serverIp : InAddr) (m : Mem) :
    ((dhcpBuildDiscover bufSize mac xid).ret =
        ((dhcpBuildDiscover bufSize mac xid).packet m).length ∧
      IsDhcpFrame mac xid discoverOptions ((dhcpBuildDiscover bufSize mac xid).packet m)) ∧
    (dhcpBuildRequest bufSize mac xid offeredIp serverIp).ret =
        ((dhcpBuildRequest bufSize mac xid offeredIp serverIp).packet m).length ∧
      IsDhcpFrame mac xid (requestOptions offeredIp serverIp)
        ((dhcpBuildRequest bufSize mac xid offeredIp serverIp).packet m) := by
  constructor
  · refine dhcpBuildFrame_isDhcpFrame (by omega) ?_ (by decide) reads_discover m
    simp [ZeroFields, sizeofEthHdr]
  · exact dhcpBuildFrame_isDhcpFrame (by omega) (by simp [ZeroFields])
      (by simp [requestOptionBytes, InAddr.bytes]) (reads_request offeredIp serverIp) m

/-- In a buffer of exactly 303 bytes, with addresses that look like pads and end tags. -/
theorem dhcpBuild_wellFormed_tight :
    IsDhcpFrame (.replicate 6 0xFF) 0x12345678
      (requestOptions ⟨0, 0xFF, 0, 0xFF⟩ ⟨0xFF, 0xFF, 0, 0⟩)
      ((dhcpBuildRequest 303 (.replicate 6 0xFF) 0x12345678 ⟨0, 0xFF, 0, 0xFF⟩
        ⟨0xFF, 0xFF, 0, 0⟩).packet fun _ => 0x41) :=
  (dhcpBuild_wellFormed (le_refl 303) _ _ _ _ _).2.2

end AndroidTether
