import AndroidTether.RndisControl

namespace AndroidTether

open Bytes

/-!
# The data fields of RNDIS messages

A data packet and a QUERY_C say where their data lies: an offset, counted from byte 8 of the
message, and a length.  Both parsers compute `8 + offset` in 32 bits, so an offset just below
`2 ^ 32` leads back to the start of the message.

* `dataPacketExact_iff`, `queryCopyExact_iff` — exactly when the two checks are those of exact
  arithmetic;
* `rndisDrvInit_usableMac_iff` — exactly when the address that `rndis_drv_init` leaves is one
  the device gave completely, or the fallback.
-/

/-- `8 + offset` in 32 bits, when it does not fit. -/
theorem u32_of_wraps {offset : Nat} (hlt : offset < 2 ^ 32) (h : 2 ^ 32 ≤ 8 + offset) :
    u32 (8 + offset) = 8 + offset - 2 ^ 32 := by
  rw [u32, Nat.mod_eq_sub_mod h, Nat.mod_eq_of_lt (by omega)]

/-! ### Data packets -/

section DataPacket

variable (m : Mem) (buf len : Nat)

/-- A packet with a payload, before the payload's place is looked at. -/
def IsDataPacket : Prop :=
  sizeofRndisDataPacket ≤ len ∧ le32 m buf = rndisMsgPacket ∧ 0 < le32 m (buf + 12)

/-- The parser returns 0 exactly when the payload lies in the packet by its exact offset, and
    then it has found that payload. -/
def DataPacketExact : Prop :=
  ∀ f : Span, (rndisParseDataPacket m buf len).val = some f ↔
    IsDataPacket m buf len ∧ 8 + le32 m (buf + 8) + le32 m (buf + 12) ≤ len ∧
      f = ⟨buf + (8 + le32 m (buf + 8)), le32 m (buf + 12)⟩

/-- The offset wraps, and the payload would lie in the packet by the wrapped offset. -/
def DataPacketWraps : Prop :=
  IsDataPacket m buf len ∧ 2 ^ 32 ≤ 8 + le32 m (buf + 8) ∧
    8 + le32 m (buf + 8) - 2 ^ 32 + le32 m (buf + 12) ≤ len

variable {m buf len}

/-- When a data packet is taken, and which bytes its frame is. -/
theorem rndisParseDataPacket_eq_some {f : Span} :
    (rndisParseDataPacket m buf len).val = some f ↔
      IsDataPacket m buf len ∧ u32 (8 + le32 m (buf + 8)) + le32 m (buf + 12) ≤ len ∧
        f = ⟨buf + u32 (8 + le32 m (buf + 8)), le32 m (buf + 12)⟩ := by
  rw [rndisParseDataPacket_val, Option.ite_none_right_eq_some, Option.some.injEq, IsDataPacket,
    Nat.pos_iff_ne_zero]
  constructor
  · rintro ⟨⟨hlen, htype, hpos, hfit⟩, rfl⟩
    exact ⟨⟨hlen, htype, hpos⟩, hfit, rfl⟩
  · rintro ⟨⟨hlen, htype, hpos⟩, hfit, rfl⟩
    exact ⟨⟨hlen, htype, hpos, hfit⟩, rfl⟩

/-- The parser is exact unless the sum of its offsets wraps. -/
theorem dataPacketExact_iff_not_wraps : DataPacketExact m buf len ↔ ¬ DataPacketWraps m buf len := by
  have hlt := le32_lt m (buf + 8)
  constructor
  · rintro hexact ⟨hpkt, hwraps, hfit⟩
    -- the parser takes the payload at the wrapped offset
    have hstart := u32_of_wraps hlt hwraps
    have hf := (hexact _).mp (rndisParseDataPacket_eq_some.mpr ⟨hpkt, hstart ▸ hfit, rfl⟩)
    have heq := congrArg Span.start hf.2.2
    dsimp only at heq
    omega
  · intro hnot f
    rw [rndisParseDataPacket_eq_some]
    by_cases hwraps : 2 ^ 32 ≤ 8 + le32 m (buf + 8)
    · -- a wrapped offset is refused, and so is the exact one behind it
      rw [u32_of_wraps hlt hwraps]
      have hrefused : ∀ hpkt : IsDataPacket m buf len,
          ¬ 8 + le32 m (buf + 8) - 2 ^ 32 + le32 m (buf + 12) ≤ len :=
        fun hpkt hfit => hnot ⟨hpkt, hwraps, hfit⟩
      constructor
      · rintro ⟨hpkt, hfit, -⟩
        exact absurd hfit (hrefused hpkt)
      · rintro ⟨hpkt, hfit, -⟩
        exact absurd (by omega) (hrefused hpkt)
    · rw [u32_of_lt (by omega)]

end DataPacket

/-! ### Answers to a query -/

section QueryCmplt

variable (m : Mem) (len : Nat)

/-- A successful QUERY_C with data, before the place of the data is looked at. -/
def IsQueryCmplt : Prop :=
  sizeofRndisQueryCmplt ≤ len ∧ le32 m 0 = rndisMsgQueryC ∧ le32 m 12 = rndisStatusSuccess ∧
    0 < le32 m 16

/-- What the parser copies to an output of `dataLen` bytes lies at the exact offset, and all
    the data lies in the message there. -/
def QueryCopyExact (dataLen : Nat) : Prop :=
  ∀ s : Span, rndisParseQueryCmplt m len dataLen = some (some s) → 0 < s.len →
    8 + le32 m 20 + le32 m 16 ≤ len ∧ s = ⟨8 + le32 m 20, min (le32 m 16) dataLen⟩

/-- The offset wraps, and the data would lie in the message by the wrapped offset. -/
def QueryCmpltWraps : Prop :=
  IsQueryCmplt m len ∧ 2 ^ 32 ≤ 8 + le32 m 20 ∧ 8 + le32 m 20 - 2 ^ 32 + le32 m 16 ≤ len

variable {m len} {dataLen : Nat}

/-- The parser, by its checks. -/
theorem rndisParseQueryCmplt_eq :
    rndisParseQueryCmplt m len dataLen =
      if sizeofRndisQueryCmplt ≤ len ∧ le32 m 0 = rndisMsgQueryC ∧
          le32 m 12 = rndisStatusSuccess then
        if 0 < le32 m 16 then
          if u32 (8 + le32 m 20) + le32 m 16 ≤ len then
            some (some ⟨u32 (8 + le32 m 20), min (le32 m 16) dataLen⟩)
          else none
        else some none
      else none := by
  unfold rndisParseQueryCmplt
  by_cases hlen : len < sizeofRndisQueryCmplt
  · simp [hlen]
  by_cases htype : le32 m 0 = rndisMsgQueryC
  · by_cases hstatus : le32 m 12 = rndisStatusSuccess
    · by_cases hpos : 0 < le32 m 16
      · by_cases hfit : len < u32 (8 + le32 m 20) + le32 m 16
        · simp [hlen, htype, hstatus, hpos, hfit]
        · simp [hlen, htype, hstatus, hpos, hfit, Nat.not_lt.mp hlen, Nat.not_lt.mp hfit]
      · simp [hlen, htype, hstatus, hpos, Nat.not_lt.mp hlen]
    · simp [hlen, htype, hstatus]
  · simp [hlen, htype]

/-- When a reply to a query is taken with a value, and which bytes are copied. -/
theorem rndisParseQueryCmplt_eq_data {s : Span} :
    rndisParseQueryCmplt m len dataLen = some (some s) ↔
      IsQueryCmplt m len ∧ u32 (8 + le32 m 20) + le32 m 16 ≤ len ∧
        s = ⟨u32 (8 + le32 m 20), min (le32 m 16) dataLen⟩ := by
  rw [rndisParseQueryCmplt_eq, IsQueryCmplt]
  split_ifs with hheader hpos hfit
  · simp [hheader, hpos, hfit, eq_comm]
  · simp [hfit]
  · simp [hpos]
  · refine iff_of_false (by simp) fun h => ?_
    exact hheader ⟨h.1.1, h.1.2.1, h.1.2.2.1⟩

/-- When it is taken without one. -/
theorem rndisParseQueryCmplt_eq_none :
    rndisParseQueryCmplt m len dataLen = some none ↔
      sizeofRndisQueryCmplt ≤ len ∧ le32 m 0 = rndisMsgQueryC ∧ le32 m 12 = rndisStatusSuccess ∧
        le32 m 16 = 0 := by
  rw [rndisParseQueryCmplt_eq]
  split_ifs with hheader hpos hfit
  · simp [Nat.ne_of_gt hpos]
  · simp [Nat.ne_of_gt hpos]
  · simp [hheader, Nat.eq_zero_of_not_pos hpos]
  · refine iff_of_false (by simp) fun h => ?_
    exact hheader ⟨h.1, h.2.1, h.2.2.1⟩

/-- The copy is exact unless the sum wraps. -/
theorem queryCopyExact_iff_not_wraps :
    QueryCopyExact m len dataLen ↔ ¬ (0 < dataLen ∧ QueryCmpltWraps m len) := by
  have hlt := le32_lt m 20
  constructor
  · rintro hexact ⟨hroom, hmsg, hwraps, hfit⟩
    -- the parser copies from the wrapped offset
    have hstart := u32_of_wraps hlt hwraps
    obtain ⟨-, heq⟩ := hexact _
      (rndisParseQueryCmplt_eq_data.mpr ⟨hmsg, hstart ▸ hfit, rfl⟩) (lt_min hmsg.2.2.2 hroom)
    have heq := congrArg Span.start heq
    dsimp only at heq
    omega
  · intro hnot s hs hpos
    obtain ⟨hmsg, hfit, rfl⟩ := rndisParseQueryCmplt_eq_data.mp hs
    have hroom : 0 < dataLen := (lt_min_iff.mp hpos).2
    have hexact : ¬ 2 ^ 32 ≤ 8 + le32 m 20 := by
      intro hwraps
      rw [u32_of_wraps hlt hwraps] at hfit
      exact hnot ⟨hroom, hmsg, hwraps, hfit⟩
    rw [u32_of_lt (by omega)] at hfit ⊢
    exact ⟨hfit, rfl⟩

end QueryCmplt

/-- **Offsets in exact arithmetic.**  `rndis_parse_data_packet` checks the payload's place
    exactly unless the offset wraps and leads to a payload inside the packet, and
    `rndis_parse_query_cmplt` copies from the exact place unless its offset does. -/
theorem offsets_exact_iff (m : Mem) (buf len dataLen : Nat) :
    (DataPacketExact m buf len ↔ ¬ DataPacketWraps m buf len) ∧
      (QueryCopyExact m len dataLen ↔ ¬ (0 < dataLen ∧ QueryCmpltWraps m len)) :=
  ⟨dataPacketExact_iff_not_wraps, queryCopyExact_iff_not_wraps⟩

/-- A packet of 64 bytes whose offset is `2 ^ 32 - 8`: the parser takes the whole packet, its
    header included, for the frame. -/
def wrappedPacket : List UInt8 :=
  le32Bytes rndisMsgPacket ++ le32Bytes 64 ++ le32Bytes 0xFFFFFFF8 ++ le32Bytes 64 ++
    List.replicate 48 0

/-- An offset of `2 ^ 32 - 8` points to the start of the message. -/
theorem not_offsets_exact :
    ¬ ∀ (m : Mem) (buf len dataLen : Nat), DataPacketExact m buf len ∧ QueryCopyExact m len dataLen := by
  intro h
  have hexact := (h (ofList wrappedPacket) 0 64 6).1 ⟨0, 64⟩
  have htaken : (rndisParseDataPacket (ofList wrappedPacket) 0 64).val = some ⟨0, 64⟩ := by decide
  exact absurd (hexact.mp htaken).2.1 (by decide)

/-! ### The hardware address -/

/-- The data of a QUERY_C, where the parser takes it from. -/
def queryCmpltData (reply : List UInt8) : List UInt8 :=
  slice (ofList reply) (u32 (8 + le32 (ofList reply) 20)) (le32 (ofList reply) 16)

@[simp] theorem queryCmpltData_length (reply : List UInt8) :
    (queryCmpltData reply).length = le32 (ofList reply) 16 := slice_length _ _ _

/-- The address is the six data bytes of the QUERY_C that was received and accepted, or the
    whole fallback. -/
def UsableMac (script : CtrlScript) (mac : Mac) : Prop :=
  mac = fallbackMac ∨ ∃ reply, script.recv 1 = some reply ∧ Completes .query reply ∧
    6 ≤ (queryCmpltData reply).length ∧ mac.toList = (queryCmpltData reply).take 6

/-- What `rndis_drv_init` leaves in an address that held `mac`, by the reply to its query. -/
inductive QueriedMac (mac : Mac) (reply : List UInt8) : Mac → Prop
  | answered : Completes .query reply →
      QueriedMac mac reply (copyMac mac ((queryCmpltData reply).take 6))
  | fallback : ¬ Completes .query reply → QueriedMac mac reply fallbackMac

@[simp] theorem copyMac_nil (mac : Mac) : copyMac mac [] = mac := by
  ext i hi
  simp [copyMac]

/-- Six bytes fill the address. -/
theorem copyMac_toList (mac : Mac) {data : List UInt8} (h : data.length = 6) :
    (copyMac mac data).toList = data := by
  apply List.ext_getElem
  · simp [h]
  · intro i hi hi'
    simp [copyMac, List.getD_eq_getElem?_getD, hi']

/-- Fewer leave its last byte. -/
theorem copyMac_last (mac : Mac) {data : List UInt8} (h : data.length < 6) :
    (copyMac mac data)[5] = mac[5] := by
  have hnone : data[5]? = none := List.getElem?_eq_none (by omega)
  simp [copyMac, List.getD_eq_getElem?_getD, hnone]

section Parser

variable {m : Mem} {reply : List UInt8}

/-- What the parser copies to six bytes: the first of the data. -/
theorem rndisParseQueryCmplt_copied (hat : At m 0 reply) {data : Option Span}
    (h : rndisParseQueryCmplt m reply.length 6 = some data) :
    data.elim [] (·.bytes m) = (queryCmpltData reply).take 6 := by
  obtain ⟨h16, h20⟩ := data_fields hat (completes_of_parseQuery hat h).1
  rw [queryCmpltData, ← h16, ← h20]
  cases data with
  | none =>
    rw [(rndisParseQueryCmplt_eq_none.mp h).2.2.2]
    rfl
  | some s =>
    obtain ⟨-, hfit, rfl⟩ := rndisParseQueryCmplt_eq_data.mp h
    show slice m _ _ = _
    have hin := hat.slice_eq (i := u32 (8 + le32 m 20)) hfit
    rw [Nat.zero_add] at hin
    rw [← hin]
    rcases Nat.le_total (le32 m 16) 6 with h6 | h6
    · rw [min_eq_left h6, List.take_of_length_le (by simpa using h6)]
    · rw [min_eq_right h6, take_slice h6]

end Parser

section Init

variable {script : CtrlScript} {buf : Mem} {state : RndisState}

/-- The reply of an exchange is what was received, at the start of the buffer. -/
theorem CtrlScript.transact_reply {n : Nat} {built : Built} {sent : List CtrlEvent} {buf' : Mem}
    {reply : List UInt8} (h : script.transact n built buf = (sent, some (buf', reply))) :
    script.recv n = some reply ∧ At buf' 0 reply := by
  unfold CtrlScript.transact at h
  split at h
  · cases h
  dsimp only at h
  split at h
  · cases h
  split at h
  · cases h
  rename_i data hrecv
  cases h
  exact ⟨hrecv, at_store _ 0 _⟩

/-- Step 3 does not touch the address. -/
theorem rndisDrvInitSet_macAddr (log : List CtrlEvent) :
    (rndisDrvInitSet script buf state log).state.macAddr = state.macAddr := by
  have hstate := (rndisBuildSet_builds oidGenCurrentPacketFilter rndisPacketFilter state).state_eq
  unfold rndisDrvInitSet
  cases htr : script.transact 2 (rndisBuildSet rndisBufSize oidGenCurrentPacketFilter
      (le32Bytes rndisPacketFilter) state).1 buf with
  | mk sent got =>
    cases got <;> simp only [htr, hstate] <;> rfl

/-- Step 2 leaves the address by the reply it received, if it received one. -/
theorem rndisDrvInitQuery_macAddr {log : List CtrlEvent}
    (h : (rndisDrvInitQuery script buf state log).ret = 0) :
    ∃ reply, script.recv 1 = some reply ∧
      QueriedMac state.macAddr reply (rndisDrvInitQuery script buf state log).state.macAddr := by
  have hstate := (rndisBuildQuery_builds oid8023PermanentAddress state).state_eq
  unfold rndisDrvInitQuery at h ⊢
  rcases htr : script.transact 1 (rndisBuildQuery rndisBufSize oid8023PermanentAddress state).1 buf
    with ⟨sent, _ | ⟨buf', reply⟩⟩
  · simp only [htr] at h
    exact absurd h (by decide)
  simp only [htr, hstate] at h ⊢
  obtain ⟨hrecv, hat⟩ := CtrlScript.transact_reply htr
  refine ⟨reply, hrecv, ?_⟩
  cases hparse : rndisParseQueryCmplt buf' reply.length 6 with
  | none =>
    simp only [rndisDrvInitSet_macAddr]
    exact .fallback (not_completes_of_parseQuery hat hparse)
  | some data =>
    have hmac := @QueriedMac.answered state.macAddr _ (completes_of_parseQuery hat hparse)
    rw [← rndisParseQueryCmplt_copied hat hparse] at hmac
    cases data with
    | none =>
      simp only [rndisDrvInitSet_macAddr]
      rw [Option.elim_none, copyMac_nil] at hmac
      exact hmac
    | some s =>
      simp only [rndisDrvInitSet_macAddr]
      exact hmac

/-- The address after a run that returned 0. -/
theorem rndisDrvInit_queriedMac (h : (rndisDrvInit script buf state).ret = 0) :
    ∃ reply, script.recv 1 = some reply ∧
      QueriedMac state.macAddr reply (rndisDrvInit script buf state).state.macAddr := by
  have hstate := (rndisBuildInit_builds state).state_eq
  unfold rndisDrvInit at h ⊢
  rcases htr : script.transact 0 (rndisBuildInit rndisBufSize state).1 buf with
    ⟨sent, _ | ⟨buf', first⟩⟩
  · simp only [htr] at h
    exact absurd h (by decide)
  simp only [htr, hstate] at h ⊢
  cases hparse : rndisParseInitCmplt buf' first.length state.nextRequest with
  | none =>
    simp only [hparse] at h
    exact absurd h (by decide)
  | some state' =>
    simp only [hparse] at h ⊢
    have hmac : state'.macAddr = state.macAddr := by
      unfold rndisParseInitCmplt at hparse
      grind [RndisState.nextRequest]
    rw [← hmac]
    exact rndisDrvInitQuery_macAddr h

end Init

/-- The address of a driver that was just created holds zeros. -/
theorem freshState_macAddr_last : freshState.macAddr[5] = 0 := by decide

/-- The last byte of the address used when the query fails. -/
theorem fallbackMac_last : fallbackMac[5] = 1 := by decide

/-- **A usable address.**  When `rndis_drv_init` returns 0 on a driver that was just created,
    the address is the device's or the fallback exactly if a QUERY_C that it accepted carries
    six bytes or more. -/
theorem rndisDrvInit_usableMac_iff (script : CtrlScript) (buf : Mem)
    (h : (rndisDrvInit script buf freshState).ret = 0) :
    UsableMac script (rndisDrvInit script buf freshState).state.macAddr ↔
      ∀ reply, script.recv 1 = some reply → Completes .query reply →
        6 ≤ le32 (ofList reply) 16 := by
  obtain ⟨reply, hrecv, hmac⟩ := rndisDrvInit_queriedMac h
  generalize (rndisDrvInit script buf freshState).state.macAddr = mac at hmac
  cases hmac with
  | fallback hnot =>
    refine ⟨fun _ other hother hcompl => ?_, fun _ => .inl rfl⟩
    rw [hrecv, Option.some.injEq] at hother
    exact absurd (hother ▸ hcompl) hnot
  | answered hcompl =>
    constructor
    · intro husable other hother _
      rw [hrecv, Option.some.injEq] at hother
      subst hother
      by_contra hshort
      have hlen : ((queryCmpltData reply).take 6).length < 6 := by
        rw [List.length_take, queryCmpltData_length]
        omega
      rcases husable with hfall | ⟨other, hother, -, hsix, -⟩
      · -- the last byte is still 0
        have hlast := copyMac_last freshState.macAddr hlen
        rw [hfall, fallbackMac_last, freshState_macAddr_last] at hlast
        cases hlast
      · rw [hrecv, Option.some.injEq] at hother
        rw [← hother, queryCmpltData_length] at hsix
        exact hshort hsix
    · intro hlong
      have hsix := hlong reply hrecv hcompl
      refine .inr ⟨reply, hrecv, hcompl, by rwa [queryCmpltData_length], copyMac_toList _ ?_⟩
      rw [List.length_take, queryCmpltData_length]
      omega

/-- A reply of six bytes gives a usable address. -/
theorem rndisDrvInit_usableMac_six :
    UsableMac (answers [0x02, 0x1A, 0x11, 0, 0, 7])
      (rndisDrvInit (answers [0x02, 0x1A, 0x11, 0, 0, 7]) (fun _ => 0) freshState).state.macAddr := by
  refine (rndisDrvInit_usableMac_iff _ _ (by rfl)).mpr fun reply hrecv _ => ?_
  cases hrecv
  decide

/-- A QUERY_C without data is a success, and the address stays zero. -/
theorem not_rndisDrvInit_usableMac :
    ¬ ∀ (script : CtrlScript) (buf : Mem), (rndisDrvInit script buf freshState).ret = 0 →
      UsableMac script (rndisDrvInit script buf freshState).state.macAddr := by
  intro h
  have hzero : (rndisDrvInit (answers []) (fun _ => 0) freshState).state.macAddr =
      freshState.macAddr := by decide
  rcases h (answers []) (fun _ => 0) (by rfl) with hfall | ⟨reply, hrecv, -, hsix, -⟩
  · rw [hzero] at hfall
    exact absurd hfall (by decide)
  · cases hrecv
    exact absurd hsix (by decide)

end AndroidTether
