import AndroidTether.ProtoRndis

namespace AndroidTether

open Bytes

/-!
# RNDIS control messages and the driver's initialisation

The builders and parsers of the INIT, QUERY and SET messages of `rndis.c` and
`rndis_drv_init` of `proto_rndis.c`, which runs the three exchanges over control transfers.

* `initMsg`, `queryMsg`, `setMsg`, `keepaliveMsg` — the requests, byte for byte;
* `rndisDrvInit_log` — what `rndis_drv_init` sends and accepts, by the replies it gets;
* `rndisDrvInit_accepts` — a reply that is accepted was received right after the request
  that it completes was sent, and so would be any other that completes it, whatever its
  `request_id`.
-/

/-- `RNDIS_MSG_INIT` -/
def rndisMsgInit : Nat := 0x00000002
/-- `RNDIS_MSG_INIT_C` -/
def rndisMsgInitC : Nat := 0x80000002
/-- `RNDIS_MSG_QUERY` -/
def rndisMsgQuery : Nat := 0x00000004
/-- `RNDIS_MSG_QUERY_C` -/
def rndisMsgQueryC : Nat := 0x80000004
/-- `RNDIS_MSG_SET` -/
def rndisMsgSet : Nat := 0x00000005
/-- `RNDIS_MSG_SET_C` -/
def rndisMsgSetC : Nat := 0x80000005
/-- `RNDIS_MSG_KEEPALIVE` -/
def rndisMsgKeepalive : Nat := 0x00000008
/-- `RNDIS_STATUS_SUCCESS` -/
def rndisStatusSuccess : Nat := 0
/-- `RNDIS_MAX_TRANSFER_SIZE` -/
def rndisMaxTransferSize : Nat := 0x8000
/-- `OID_802_3_PERMANENT_ADDRESS` -/
def oid8023PermanentAddress : Nat := 0x01010101
/-- `OID_GEN_CURRENT_PACKET_FILTER` -/
def oidGenCurrentPacketFilter : Nat := 0x0001010E
/-- `RNDIS_PACKET_TYPE_DIRECTED | _MULTICAST | _ALL_MULTICAST | _BROADCAST` -/
def rndisPacketFilter : Nat := 0x1 ||| 0x2 ||| 0x4 ||| 0x8

/-- `sizeof(rndis_init_msg_t)` -/
def sizeofRndisInitMsg : Nat := 24
/-- `sizeof(rndis_init_cmplt_t)` -/
def sizeofRndisInitCmplt : Nat := 52
/-- `sizeof(rndis_query_msg_t)` -/
def sizeofRndisQueryMsg : Nat := 28
/-- `sizeof(rndis_query_cmplt_t)` -/
def sizeofRndisQueryCmplt : Nat := 24
/-- `sizeof(rndis_set_msg_t)` -/
def sizeofRndisSetMsg : Nat := 28
/-- `sizeof(rndis_set_cmplt_t)` -/
def sizeofRndisSetCmplt : Nat := 16
/-- `sizeof(rndis_keepalive_msg_t)` -/
def sizeofRndisKeepaliveMsg : Nat := 12

/-- `rndis_state_t` -/
structure RndisState where
  requestId : Nat
  maxTransferSize : Nat
  medium : Nat
  macAddr : Mac
  linkUp : Bool

/-- `++state->request_id` -/
def RndisState.nextRequest (state : RndisState) : RndisState :=
  { state with requestId := u32 (state.requestId + 1) }

/-- `rndis_build_init` -/
def rndisBuildInit (bufSize : Nat) (state : RndisState) : Built × RndisState :=
  if bufSize < sizeofRndisInitMsg then (.fail, state)
  else
    let state := state.nextRequest
    ({ ret := toInt sizeofRndisInitMsg
       stores := [
        ⟨0, List.replicate sizeofRndisInitMsg 0⟩,
        ⟨0, le32Bytes rndisMsgInit⟩,
        ⟨4, le32Bytes sizeofRndisInitMsg⟩,
        ⟨8, le32Bytes state.requestId⟩,
        ⟨12, le32Bytes 1⟩,
        ⟨16, le32Bytes 0⟩,
        ⟨20, le32Bytes rndisMaxTransferSize⟩] }, state)

/-- `rndis_parse_init_cmplt`: the state after it returned 0. -/
def rndisParseInitCmplt (m : Mem) (len : Nat) (state : RndisState) : Option RndisState :=
  if len < sizeofRndisInitCmplt then none
  else if le32 m 0 ≠ rndisMsgInitC then none
  else if le32 m 12 ≠ rndisStatusSuccess then none
  else some { state with maxTransferSize := le32 m 36, medium := le32 m 28 }

/-- `rndis_build_query` -/
def rndisBuildQuery (bufSize oid : Nat) (state : RndisState) : Built × RndisState :=
  if bufSize < sizeofRndisQueryMsg then (.fail, state)
  else
    let state := state.nextRequest
    ({ ret := toInt sizeofRndisQueryMsg
       stores := [
        ⟨0, List.replicate sizeofRndisQueryMsg 0⟩,
        ⟨0, le32Bytes rndisMsgQuery⟩,
        ⟨4, le32Bytes sizeofRndisQueryMsg⟩,
        ⟨8, le32Bytes state.requestId⟩,
        ⟨12, le32Bytes oid⟩,
        ⟨16, le32Bytes 0⟩,
        ⟨20, le32Bytes 20⟩] }, state)

/-- `rndis_parse_query_cmplt` with both pointers given: what it copied to `data_out` when it
    returned 0, as a part of the message. -/
def rndisParseQueryCmplt (m : Mem) (len dataLen : Nat) : Option (Option Span) :=
  if len < sizeofRndisQueryCmplt then none
  else if le32 m 0 ≠ rndisMsgQueryC then none
  else if le32 m 12 ≠ rndisStatusSuccess then none
  else if le32 m 16 > 0 then
    let dataStart := u32 (8 + le32 m 20)
    -- `data_start` is a `size_t`: this sum does not wrap
    if dataStart + le32 m 16 > len then none
    else some (some ⟨dataStart, min (le32 m 16) dataLen⟩)
  else some none

/-- `rndis_build_set` -/
def rndisBuildSet (bufSize oid : Nat) (data : List UInt8) (state : RndisState) :
    Built × RndisState :=
  let total := sizeofRndisSetMsg + data.length
  if bufSize < total then (.fail, state)
  else
    let state := state.nextRequest
    ({ ret := toInt total
       stores := [
        ⟨0, List.replicate sizeofRndisSetMsg 0⟩,
        ⟨0, le32Bytes rndisMsgSet⟩,
        ⟨4, le32Bytes total⟩,
        ⟨8, le32Bytes state.requestId⟩,
        ⟨12, le32Bytes oid⟩,
        ⟨16, le32Bytes data.length⟩,
        ⟨20, le32Bytes 20⟩,
        ⟨sizeofRndisSetMsg, data⟩] }, state)

/-- `rndis_parse_set_cmplt` returns 0. -/
def rndisParseSetCmplt (m : Mem) (len : Nat) : Bool :=
  if len < sizeofRndisSetCmplt then false
  else if le32 m 0 ≠ rndisMsgSetC then false
  else if le32 m 12 ≠ rndisStatusSuccess then false
  else true

/-- `rndis_build_keepalive` -/
def rndisBuildKeepalive (bufSize : Nat) (state : RndisState) : Built × RndisState :=
  if bufSize < sizeofRndisKeepaliveMsg then (.fail, state)
  else
    let state := state.nextRequest
    ({ ret := toInt sizeofRndisKeepaliveMsg
       stores := [
        ⟨0, List.replicate sizeofRndisKeepaliveMsg 0⟩,
        ⟨0, le32Bytes rndisMsgKeepalive⟩,
        ⟨4, le32Bytes sizeofRndisKeepaliveMsg⟩,
        ⟨8, le32Bytes state.requestId⟩] }, state)

/-! ### The three exchanges -/

/-- The results of the control transfers, exchange by exchange: of the sends, and of the
    receives either a failure or the bytes that arrived. -/
structure CtrlScript where
  send : Nat → Int
  recv : Nat → Option (List UInt8)

/-- A request handed to `usb_send_ctrl`, or a reply whose parser returned 0. -/
inductive CtrlEvent where
  | sent (msg : List UInt8)
  | accepted (reply : List UInt8)
  deriving DecidableEq

/-- `usb_send_ctrl`, `usleep`, `usb_recv_ctrl`, each with its `return -1`: the buffer and the
    reply in it. -/
def CtrlScript.transact (script : CtrlScript) (n : Nat) (built : Built) (buf : Mem) :
    List CtrlEvent × Option (Mem × List UInt8) :=
  if built.ret < 0 then ([], none)
  else
    let buf := storeAll buf built.stores
    let log := [.sent (slice buf 0 built.ret.toNat)]
    if script.send n < 0 then (log, none)
    else
      match script.recv n with
      | none => (log, none)
      | some data => (log, some (store buf 0 data, data))

/-- What `rndis_drv_init` returned, the driver's state then, and what it sent and accepted. -/
structure InitRun where
  ret : Int
  state : RndisState
  log : List CtrlEvent

/-- `memcpy` of at most six bytes into a hardware address. -/
def copyMac (mac : Mac) (data : List UInt8) : Mac := Vector.ofFn fun i => data.getD i mac[i]

/-- 02:42:AC:11:00:01 -/
def fallbackMac : Mac := #v[0x02, 0x42, 0xAC, 0x11, 0x00, 0x01]

/-- Step 3 of `rndis_drv_init`: set the packet filter.  A refusal is only logged. -/
def rndisDrvInitSet (script : CtrlScript) (buf : Mem) (state : RndisState)
    (log : List CtrlEvent) : InitRun :=
  let (built, state) := rndisBuildSet rndisBufSize oidGenCurrentPacketFilter
    (le32Bytes rndisPacketFilter) state
  match script.transact 2 built buf with
  | (sent, none) => ⟨-1, state, log ++ sent⟩
  | (sent, some (buf, reply)) =>
    let accepted := if rndisParseSetCmplt buf reply.length then [.accepted reply] else []
    ⟨0, { state with linkUp := true }, log ++ sent ++ accepted⟩

/-- Step 2: query the hardware address, with a fallback. -/
def rndisDrvInitQuery (script : CtrlScript) (buf : Mem) (state : RndisState)
    (log : List CtrlEvent) : InitRun :=
  let (built, state) := rndisBuildQuery rndisBufSize oid8023PermanentAddress state
  match script.transact 1 built buf with
  | (sent, none) => ⟨-1, state, log ++ sent⟩
  | (sent, some (buf, reply)) =>
    match rndisParseQueryCmplt buf reply.length 6 with
    | none => rndisDrvInitSet script buf { state with macAddr := fallbackMac } (log ++ sent)
    | some none => rndisDrvInitSet script buf state (log ++ sent ++ [.accepted reply])
    | some (some data) =>
      rndisDrvInitSet script buf
        { state with macAddr := copyMac state.macAddr (data.bytes buf) }
        (log ++ sent ++ [.accepted reply])

/-- `rndis_drv_init`; `buf` is what its buffer holds at first. -/
def rndisDrvInit (script : CtrlScript) (buf : Mem) (state : RndisState) : InitRun :=
  let (built, state) := rndisBuildInit rndisBufSize state
  match script.transact 0 built buf with
  | (sent, none) => ⟨-1, state, sent⟩
  | (sent, some (buf, reply)) =>
    match rndisParseInitCmplt buf reply.length state with
    | none => ⟨-1, state, sent⟩
    | some state => rndisDrvInitQuery script buf state (sent ++ [.accepted reply])

/-! ### Requests and what completes them -/

/-- The requests of `rndis_drv_init`. -/
inductive CtrlRequest where
  | init
  | query
  | set
  deriving DecidableEq

namespace CtrlRequest

/-- `msg_type` of the request. -/
def msgType : CtrlRequest → Nat
  | init => rndisMsgInit
  | query => rndisMsgQuery
  | set => rndisMsgSet

/-- `msg_type` of its completion. -/
def cmpltType : CtrlRequest → Nat
  | init => rndisMsgInitC
  | query => rndisMsgQueryC
  | set => rndisMsgSetC

/-- The size of its completion. -/
def sizeofCmplt : CtrlRequest → Nat
  | init => sizeofRndisInitCmplt
  | query => sizeofRndisQueryCmplt
  | set => sizeofRndisSetCmplt

/-- The requests in the order they are made. -/
def order : List CtrlRequest := [init, query, set]

end CtrlRequest

/-- `msg_type` of a message. -/
def ctrlTypeOf (msg : List UInt8) : Nat := le32 (ofList msg) 0

/-- `request_id` of a message. -/
def requestIdOf (msg : List UInt8) : Nat := le32 (ofList msg) 8

/-- The reply completes the request with success: it has the completion's type and status and
    is as long as the completion, and the data of a QUERY_C lies inside it.  The
    `request_id` in it does not matter. -/
def Completes (req : CtrlRequest) (reply : List UInt8) : Prop :=
  req.sizeofCmplt ≤ reply.length ∧ ctrlTypeOf reply = req.cmpltType ∧
    le32 (ofList reply) 12 = rndisStatusSuccess ∧
    (req = .query → le32 (ofList reply) 16 ≠ 0 →
      u32 (8 + le32 (ofList reply) 20) + le32 (ofList reply) 16 ≤ reply.length)

instance (req : CtrlRequest) (reply : List UInt8) : Decidable (Completes req reply) :=
  inferInstanceAs (Decidable (_ ∧ _ ∧ _ ∧ (_ → _ → _)))

/-- The reply with another `request_id`. -/
def withRequestId (id : Nat) (reply : List UInt8) : List UInt8 :=
  slice (store (ofList reply) 8 (le32Bytes id)) 0 reply.length

/-- A field of a reply that is not the `request_id`. -/
theorem le32_withRequestId (id : Nat) {reply : List UInt8} {i : Nat}
    (hi : i + 4 ≤ 8 ∨ 12 ≤ i) (hlen : i + 4 ≤ reply.length) :
    le32 (ofList (withRequestId id reply)) i = le32 (ofList reply) i := by
  rw [withRequestId, le32_slice _ hlen, Nat.zero_add, le32_store hi]

/-- Whether a reply completes a request does not depend on its `request_id`. -/
theorem Completes.withRequestId {req : CtrlRequest} {reply : List UInt8} (h : Completes req reply)
    (id : Nat) : Completes req (withRequestId id reply) := by
  obtain ⟨hlen, htype, hstatus, hdata⟩ := h
  have h16 : 16 ≤ reply.length := by
    cases req <;> simp only [CtrlRequest.sizeofCmplt, sizeofRndisInitCmplt, sizeofRndisQueryCmplt,
      sizeofRndisSetCmplt] at hlen <;> omega
  refine ⟨by simpa [AndroidTether.withRequestId] using hlen, ?_, ?_, ?_⟩
  · rw [ctrlTypeOf, le32_withRequestId id (by omega) (by omega)]
    exact htype
  · rw [le32_withRequestId id (by omega) (by omega), hstatus]
  · rintro rfl hne
    have h24 : 24 ≤ reply.length := hlen
    rw [le32_withRequestId id (by omega) (by omega)] at hne ⊢
    rw [le32_withRequestId id (by omega) (by omega), AndroidTether.withRequestId, slice_length]
    exact hdata rfl hne

/-- The request `req` with the `request_id` `id`. -/
def IsRequest (req : CtrlRequest) (id : Nat) (msg : List UInt8) : Prop :=
  ctrlTypeOf msg = req.msgType ∧ requestIdOf msg = id

/-! ### The parsers -/

section Parsers

variable {m : Mem} {reply : List UInt8}

/-- The two header fields every parser checks. -/
theorem header_fields (hat : At m 0 reply) (hlen : 16 ≤ reply.length) :
    le32 m 0 = ctrlTypeOf reply ∧ le32 m 12 = le32 (ofList reply) 12 :=
  ⟨hat.le32 (i := 0) (by omega), Nat.zero_add 12 ▸ hat.le32 (i := 12) (by omega)⟩

/-- The two fields of a QUERY_C that say where its data lies. -/
theorem data_fields (hat : At m 0 reply) (hlen : 24 ≤ reply.length) :
    le32 m 16 = le32 (ofList reply) 16 ∧ le32 m 20 = le32 (ofList reply) 20 :=
  ⟨Nat.zero_add 16 ▸ hat.le32 (i := 16) (by omega), Nat.zero_add 20 ▸ hat.le32 (i := 20) (by omega)⟩

/-- `rndis_parse_init_cmplt` takes what completes INIT, and two of its fields. -/
theorem rndisParseInitCmplt_eq (hat : At m 0 reply) (state : RndisState) :
    rndisParseInitCmplt m reply.length state =
      if Completes .init reply then
        some { state with
          maxTransferSize := le32 (ofList reply) 36
          medium := le32 (ofList reply) 28 }
      else none := by
  unfold rndisParseInitCmplt
  by_cases hlen : reply.length < sizeofRndisInitCmplt
  · rw [if_pos hlen, if_neg fun h => absurd h.1 (Nat.not_le.mpr hlen)]
  have h52 : 52 ≤ reply.length := Nat.not_lt.mp hlen
  have h28 : le32 m 28 = _ := Nat.zero_add 28 ▸ hat.le32 (i := 28) (by omega)
  have h36 : le32 m 36 = _ := Nat.zero_add 36 ▸ hat.le32 (i := 36) (by omega)
  rw [if_neg hlen, (header_fields hat (by omega)).1, (header_fields hat (by omega)).2, h28, h36]
  by_cases htype : ctrlTypeOf reply = rndisMsgInitC
  · by_cases hstatus : le32 (ofList reply) 12 = rndisStatusSuccess
    · rw [if_neg (not_not.mpr htype), if_neg (not_not.mpr hstatus), if_pos]
      exact ⟨h52, htype, hstatus, nofun⟩
    · rw [if_neg (not_not.mpr htype), if_pos hstatus, if_neg fun h => hstatus h.2.2.1]
  · rw [if_pos htype, if_neg fun h => htype h.2.1]

/-- `rndis_parse_query_cmplt` takes what completes QUERY. -/
theorem rndisParseQueryCmplt_isSome_iff (hat : At m 0 reply) (dataLen : Nat) :
    (rndisParseQueryCmplt m reply.length dataLen).isSome = true ↔ Completes .query reply := by
  unfold rndisParseQueryCmplt
  by_cases hlen : reply.length < sizeofRndisQueryCmplt
  · rw [if_pos hlen]
    exact iff_of_false nofun fun h => absurd h.1 (Nat.not_le.mpr hlen)
  have h24 : 24 ≤ reply.length := Nat.not_lt.mp hlen
  obtain ⟨h16, h20⟩ := data_fields hat h24
  rw [if_neg hlen, (header_fields hat (by omega)).1, (header_fields hat (by omega)).2, h16, h20]
  by_cases htype : ctrlTypeOf reply = rndisMsgQueryC
  · by_cases hstatus : le32 (ofList reply) 12 = rndisStatusSuccess
    · rw [if_neg (not_not.mpr htype), if_neg (not_not.mpr hstatus)]
      have hhead : Completes .query reply ↔ (le32 (ofList reply) 16 ≠ 0 →
          u32 (8 + le32 (ofList reply) 20) + le32 (ofList reply) 16 ≤ reply.length) :=
        ⟨fun h => h.2.2.2 rfl, fun h => ⟨h24, htype, hstatus, fun _ => h⟩⟩
      rw [hhead]
      -- the data must lie in the message
      by_cases hpos : le32 (ofList reply) 16 > 0
      · by_cases hfit : u32 (8 + le32 (ofList reply) 20) + le32 (ofList reply) 16 > reply.length
        · simp only [if_pos hpos, if_pos hfit]
          exact iff_of_false nofun fun h => absurd (h (by omega)) (by omega)
        · simp only [if_pos hpos, if_neg hfit]
          exact iff_of_true rfl fun _ => by omega
      · rw [if_neg hpos]
        exact iff_of_true rfl fun hne => absurd hne (by omega)
    · rw [if_neg (not_not.mpr htype), if_pos hstatus]
      exact iff_of_false nofun fun h => hstatus h.2.2.1
  · rw [if_pos htype]
    exact iff_of_false nofun fun h => htype h.2.1

/-- A parsed reply completes QUERY. -/
theorem completes_of_parseQuery {dataLen : Nat} {data : Option Span} (hat : At m 0 reply)
    (h : rndisParseQueryCmplt m reply.length dataLen = some data) : Completes .query reply :=
  (rndisParseQueryCmplt_isSome_iff hat dataLen).mp (by rw [h]; rfl)

/-- A refused one does not. -/
theorem not_completes_of_parseQuery {dataLen : Nat} (hat : At m 0 reply)
    (h : rndisParseQueryCmplt m reply.length dataLen = none) : ¬ Completes .query reply := by
  rw [← rndisParseQueryCmplt_isSome_iff hat dataLen, h]
  exact nofun

/-- `rndis_parse_set_cmplt` takes what completes SET. -/
theorem rndisParseSetCmplt_eq (hat : At m 0 reply) :
    rndisParseSetCmplt m reply.length = decide (Completes .set reply) := by
  unfold rndisParseSetCmplt
  by_cases hlen : reply.length < sizeofRndisSetCmplt
  · rw [if_pos hlen, decide_eq_false fun h => absurd h.1 (Nat.not_le.mpr hlen)]
  have h16 : 16 ≤ reply.length := Nat.not_lt.mp hlen
  rw [if_neg hlen, (header_fields hat h16).1, (header_fields hat h16).2]
  by_cases htype : ctrlTypeOf reply = rndisMsgSetC
  · by_cases hstatus : le32 (ofList reply) 12 = rndisStatusSuccess
    · rw [if_neg (not_not.mpr htype), if_neg (not_not.mpr hstatus), decide_eq_true]
      exact ⟨h16, htype, hstatus, nofun⟩
    · rw [if_neg (not_not.mpr htype), if_pos hstatus, decide_eq_false fun h => hstatus h.2.2.1]
  · rw [if_pos htype, decide_eq_false fun h => htype h.2.1]

end Parsers

/-! ### The builders -/

/-- The INIT, QUERY, SET and KEEPALIVE messages. -/
def initMsg (id : Nat) : List UInt8 :=
  le32Bytes rndisMsgInit ++ le32Bytes sizeofRndisInitMsg ++ le32Bytes id ++ le32Bytes 1 ++
    le32Bytes 0 ++ le32Bytes rndisMaxTransferSize

def queryMsg (oid id : Nat) : List UInt8 :=
  le32Bytes rndisMsgQuery ++ le32Bytes sizeofRndisQueryMsg ++ le32Bytes id ++ le32Bytes oid ++
    le32Bytes 0 ++ le32Bytes 20 ++ List.replicate 4 0

def setMsg (oid : Nat) (data : List UInt8) (id : Nat) : List UInt8 :=
  le32Bytes rndisMsgSet ++ le32Bytes (sizeofRndisSetMsg + data.length) ++ le32Bytes id ++
    le32Bytes oid ++ le32Bytes data.length ++ le32Bytes 20 ++ List.replicate 4 0 ++ data

def keepaliveMsg (id : Nat) : List UInt8 :=
  le32Bytes rndisMsgKeepalive ++ le32Bytes sizeofRndisKeepaliveMsg ++ le32Bytes id

/-- The header of a message. -/
theorem header_of_eq (msg : List UInt8) (type len id : Nat) (rest : List UInt8)
    (h : msg = le32Bytes type ++ (le32Bytes len ++ (le32Bytes id ++ rest))) :
    ctrlTypeOf msg = u32 type ∧ le32 (ofList msg) 4 = u32 len ∧ requestIdOf msg = u32 id := by
  have hat := at_ofList msg
  rw [h] at hat
  simp only [at_append, le32Bytes_length, Nat.zero_add] at hat
  rw [← h] at hat
  obtain ⟨h0, h4, h8, -⟩ := hat
  exact ⟨h0.le32_eq, h4.le32_eq, h8.le32_eq⟩

/-- The first message is the INIT request. -/
theorem initMsg_isRequest {id : Nat} (hid : id < 2 ^ 32) : IsRequest .init id (initMsg id) := by
  have h := header_of_eq (initMsg id) rndisMsgInit sizeofRndisInitMsg id _
    (by simp only [initMsg, List.append_assoc]; rfl)
  exact ⟨h.1, by rw [h.2.2, u32, Nat.mod_eq_of_lt hid]⟩

/-- The second is the QUERY request. -/
theorem queryMsg_isRequest (oid : Nat) {id : Nat} (hid : id < 2 ^ 32) :
    IsRequest .query id (queryMsg oid id) := by
  have h := header_of_eq (queryMsg oid id) rndisMsgQuery sizeofRndisQueryMsg id _
    (by simp only [queryMsg, List.append_assoc]; rfl)
  exact ⟨h.1, by rw [h.2.2, u32, Nat.mod_eq_of_lt hid]⟩

/-- The third is the SET request. -/
theorem setMsg_isRequest (oid : Nat) (data : List UInt8) {id : Nat} (hid : id < 2 ^ 32) :
    IsRequest .set id (setMsg oid data id) := by
  have h := header_of_eq (setMsg oid data id) rndisMsgSet (sizeofRndisSetMsg + data.length) id _
    (by simp only [setMsg, List.append_assoc]; rfl)
  exact ⟨h.1, by rw [h.2.2, u32, Nat.mod_eq_of_lt hid]⟩

/-- Fields that are stored one after the other end with the last of them. -/
theorem consecutive_end_le {p : Nat} {fields : List (List UInt8)} {s : Store}
    (h : s ∈ consecutive p fields) : s.pos + s.bytes.length ≤ p + fields.flatten.length := by
  induction fields generalizing p with
  | nil => cases h
  | cons bs fields ih =>
    rw [consecutive] at h
    rw [List.flatten_cons, List.length_append]
    rcases List.mem_cons.mp h with rfl | h
    · simp only
      omega
    · have := ih h
      omega

/-- What all control messages have in common: `memset` of the `n` bytes of the struct, fields
    from its start on, and the data behind it. -/
theorem slice_ctrlMsg (m : Mem) {n : Nat} (fields : List (List UInt8)) (data : List UInt8)
    (hn : fields.flatten.length ≤ n) :
    slice (storeAll m (⟨0, List.replicate n 0⟩ :: consecutive 0 fields ++ [⟨n, data⟩])) 0
        (n + data.length) =
      fields.flatten ++ List.replicate (n - fields.flatten.length) 0 ++ data := by
  have hlen : (fields.flatten ++ List.replicate (n - fields.flatten.length) (0 : UInt8) ++
      data).length = n + data.length := by
    simp only [List.length_append, List.length_replicate]
    omega
  rw [← hlen, ← at_iff_slice, at_append, at_append, storeAll_append]
  refine ⟨⟨?fields, ?zeros⟩, ?data⟩
  case fields =>
    show At (storeAll (storeAll (store m 0 _) (consecutive 0 fields)) [_]) 0 _
    refine (at_storeAll_consecutive _ 0 fields).storeAll_of_disjoint fun s hs => .inr ?_
    rw [List.mem_singleton.mp hs]
    simp only
    omega
  case zeros =>
    -- the end of the struct keeps the zeros
    show At (storeAll (storeAll (store m 0 _) (consecutive 0 fields)) [_]) _ _
    have hzeros := at_store_replicate m 0 0 (n := n) (k := fields.flatten.length)
      (j := n - fields.flatten.length) (by omega)
    refine (hzeros.storeAll_of_disjoint fun s hs => .inl ?_).storeAll_of_disjoint
      fun s hs => .inr ?_
    · exact consecutive_end_le hs
    · rw [List.mem_singleton.mp hs, List.length_replicate]
      simp only
      omega
  case data =>
    have hat := at_store (storeAll m (⟨0, List.replicate n 0⟩ :: consecutive 0 fields)) n data
    have hpos : 0 + (fields.flatten ++
        List.replicate (n - fields.flatten.length) (0 : UInt8)).length = n := by
      simp only [List.length_append, List.length_replicate]
      omega
    rw [hpos]
    exact hat

/-- Storing no bytes changes nothing. -/
theorem storeAll_nil_store (m : Mem) (ss : List Store) (n : Nat) :
    storeAll m (ss ++ [⟨n, []⟩]) = storeAll m ss := by
  rw [storeAll_append]
  funext i
  simp only [storeAll_cons, storeAll_nil, store, List.length_nil]
  exact if_neg (by omega)

/-- What a builder does with a buffer of `RNDIS_BUF_SIZE` bytes: it counts the `request_id` up
    and writes the message that carries it. -/
structure Builds (built : Built × RndisState) (state : RndisState) (msg : Nat → List UInt8) :
    Prop where
  state_eq : built.2 = state.nextRequest
  nonneg : 0 ≤ built.1.ret
  packet (m : Mem) : built.1.packet m = msg state.nextRequest.requestId

/-- `rndis_build_init` builds INIT. -/
theorem rndisBuildInit_builds (state : RndisState) :
    Builds (rndisBuildInit rndisBufSize state) state initMsg where
  state_eq := by rw [rndisBuildInit, if_neg (by decide)]
  nonneg := by
    show 0 ≤ toInt sizeofRndisInitMsg
    decide
  packet m := by
    have hslice := slice_ctrlMsg m (n := sizeofRndisInitMsg)
      [le32Bytes rndisMsgInit, le32Bytes sizeofRndisInitMsg,
        le32Bytes state.nextRequest.requestId, le32Bytes 1, le32Bytes 0,
        le32Bytes rndisMaxTransferSize] [] (by simp [sizeofRndisInitMsg])
    rw [storeAll_nil_store] at hslice
    exact hslice

/-- `rndis_build_query` builds QUERY. -/
theorem rndisBuildQuery_builds (oid : Nat) (state : RndisState) :
    Builds (rndisBuildQuery rndisBufSize oid state) state (queryMsg oid) where
  state_eq := by rw [rndisBuildQuery, if_neg (by decide)]
  nonneg := by
    show 0 ≤ toInt sizeofRndisQueryMsg
    decide
  packet m := by
    have hslice := slice_ctrlMsg m (n := sizeofRndisQueryMsg)
      [le32Bytes rndisMsgQuery, le32Bytes sizeofRndisQueryMsg,
        le32Bytes state.nextRequest.requestId, le32Bytes oid, le32Bytes 0, le32Bytes 20] []
      (by simp [sizeofRndisQueryMsg])
    rw [storeAll_nil_store] at hslice
    exact hslice

/-- `rndis_build_set` builds SET. -/
theorem rndisBuildSet_builds (oid filter : Nat) (state : RndisState) :
    Builds (rndisBuildSet rndisBufSize oid (le32Bytes filter) state) state
      (setMsg oid (le32Bytes filter)) where
  state_eq := by rw [rndisBuildSet, le32Bytes_length, if_neg (by decide)]
  nonneg := by
    rw [rndisBuildSet, le32Bytes_length, if_neg (by decide)]
    show 0 ≤ toInt (sizeofRndisSetMsg + 4)
    decide
  packet m := by
    have hslice := slice_ctrlMsg m (n := sizeofRndisSetMsg)
      [le32Bytes rndisMsgSet, le32Bytes (sizeofRndisSetMsg + 4),
        le32Bytes state.nextRequest.requestId, le32Bytes oid, le32Bytes 4, le32Bytes 20]
      (le32Bytes filter) (by simp [sizeofRndisSetMsg])
    rw [rndisBuildSet, le32Bytes_length, if_neg (by decide)]
    exact hslice

/-- `rndis_build_keepalive` builds KEEPALIVE. -/
theorem rndisBuildKeepalive_builds (state : RndisState) :
    Builds (rndisBuildKeepalive rndisBufSize state) state keepaliveMsg where
  state_eq := by rw [rndisBuildKeepalive, if_neg (by decide)]
  nonneg := by
    show 0 ≤ toInt sizeofRndisKeepaliveMsg
    decide
  packet m := by
    have hslice := slice_ctrlMsg m (n := sizeofRndisKeepaliveMsg)
      [le32Bytes rndisMsgKeepalive, le32Bytes sizeofRndisKeepaliveMsg,
        le32Bytes state.nextRequest.requestId] [] (by simp [sizeofRndisKeepaliveMsg])
    rw [storeAll_nil_store] at hslice
    exact hslice

/-! ### What is accepted -/

/-- The reply to the `n`-th request, if the request could be sent and something arrived. -/
def CtrlScript.reply (script : CtrlScript) (n : Nat) : Option (List UInt8) :=
  if script.send n < 0 then none else script.recv n

/-- The same script, but for the reply to the `n`-th request. -/
def CtrlScript.withReply (script : CtrlScript) (n : Nat) (reply : List UInt8) : CtrlScript :=
  { script with recv := fun k => if k = n then some reply else script.recv k }

/-- The other replies stay. -/
@[simp] theorem CtrlScript.reply_withReply_ne {script : CtrlScript} {n k : Nat}
    {reply : List UInt8} (h : k ≠ n) : (script.withReply n reply).reply k = script.reply k := by
  simp only [CtrlScript.reply, CtrlScript.withReply, if_neg h]

/-- Another reply arrives where one arrived. -/
theorem CtrlScript.reply_withReply {script : CtrlScript} {n : Nat} {reply reply' : List UInt8}
    (h : script.reply n = some reply) : (script.withReply n reply').reply n = some reply' := by
  unfold CtrlScript.reply at h ⊢
  split at h
  · cases h
  · rename_i hsend
    rw [if_neg (show ¬ (script.withReply n reply').send n < 0 from hsend)]
    exact if_pos rfl

/-- What was replied was received. -/
theorem CtrlScript.recv_of_reply {script : CtrlScript} {n : Nat} {reply : List UInt8}
    (h : script.reply n = some reply) : script.recv n = some reply := by
  unfold CtrlScript.reply at h
  split at h
  · cases h
  · exact h

/-- The log of the set step on a driver with the given `request_id`. -/
def initSetLog (script : CtrlScript) (id : Nat) : List CtrlEvent :=
  .sent (setMsg oidGenCurrentPacketFilter (le32Bytes rndisPacketFilter) (u32 (id + 1))) ::
    match script.reply 2 with
    | none => []
    | some reply => if Completes .set reply then [.accepted reply] else []

/-- The log from the query on.  A reply that does not complete it is passed over. -/
def initQueryLog (script : CtrlScript) (id : Nat) : List CtrlEvent :=
  .sent (queryMsg oid8023PermanentAddress (u32 (id + 1))) ::
    match script.reply 1 with
    | none => []
    | some reply =>
      (if Completes .query reply then [.accepted reply] else []) ++
        initSetLog script (u32 (id + 1))

/-- The log of all of `rndis_drv_init`. -/
def initLog (script : CtrlScript) (id : Nat) : List CtrlEvent :=
  .sent (initMsg (u32 (id + 1))) ::
    match script.reply 0 with
    | none => []
    | some reply =>
      if Completes .init reply then .accepted reply :: initQueryLog script (u32 (id + 1)) else []

section Init

variable {script : CtrlScript} {buf : Mem} {state : RndisState} {log : List CtrlEvent}

/-- An exchange: the message is sent, and the reply, if there is one, is in the buffer. -/
theorem CtrlScript.transact_eq {n : Nat} {built : Built} (hret : 0 ≤ built.ret) :
    script.transact n built buf = ([.sent (built.packet buf)],
      (script.reply n).map fun reply => (store (storeAll buf built.stores) 0 reply, reply)) := by
  unfold CtrlScript.transact CtrlScript.reply
  rw [if_neg (by omega)]
  dsimp only
  split
  · rfl
  · cases script.recv n <;> rfl

/-- The set step sends SET, and accepts what completes it. -/
theorem rndisDrvInitSet_log : (rndisDrvInitSet script buf state log).log =
    log ++ initSetLog script state.requestId := by
  have hbuilds := rndisBuildSet_builds oidGenCurrentPacketFilter rndisPacketFilter state
  unfold rndisDrvInitSet initSetLog
  simp only [CtrlScript.transact_eq hbuilds.nonneg, hbuilds.packet, hbuilds.state_eq]
  cases script.reply 2 with
  | none => rfl
  | some reply =>
    simp only [Option.map_some, rndisParseSetCmplt_eq (at_store _ 0 reply), decide_eq_true_eq]
    split <;> simp <;> rfl

/-- The query step is followed by the set step, whatever its parser says. -/
theorem rndisDrvInitQuery_log : (rndisDrvInitQuery script buf state log).log =
    log ++ initQueryLog script state.requestId := by
  have hbuilds := rndisBuildQuery_builds oid8023PermanentAddress state
  unfold rndisDrvInitQuery initQueryLog
  simp only [CtrlScript.transact_eq hbuilds.nonneg, hbuilds.packet, hbuilds.state_eq]
  cases script.reply 1 with
  | none => rfl
  | some reply =>
    have hat := at_store
      (storeAll buf (rndisBuildQuery rndisBufSize oid8023PermanentAddress state).1.stores) 0 reply
    simp only [Option.map_some]
    cases hparse : rndisParseQueryCmplt _ reply.length 6 with
    | none =>
      rw [if_neg (not_completes_of_parseQuery hat hparse)]
      simp only [rndisDrvInitSet_log, List.append_assoc]
      rfl
    | some data =>
      rw [if_pos (completes_of_parseQuery hat hparse)]
      cases data <;> simp only [rndisDrvInitSet_log, List.append_assoc] <;> rfl

/-- What `rndis_drv_init` sends and accepts depends on the replies only. -/
theorem rndisDrvInit_log (script : CtrlScript) (buf : Mem) (state : RndisState) :
    (rndisDrvInit script buf state).log = initLog script state.requestId := by
  have hbuilds := rndisBuildInit_builds state
  unfold rndisDrvInit initLog
  simp only [CtrlScript.transact_eq hbuilds.nonneg, hbuilds.packet, hbuilds.state_eq]
  cases script.reply 0 with
  | none => rfl
  | some reply =>
    simp only [Option.map_some, rndisParseInitCmplt_eq (at_store _ 0 reply)]
    by_cases hcompl : Completes .init reply
    · simp only [if_pos hcompl, rndisDrvInitQuery_log]
      rfl
    · simp only [if_neg hcompl]
      rfl

end Init

/-- Counting up twice. -/
theorem u32_succ (n k : Nat) : u32 (u32 (n + k) + 1) = u32 (n + (k + 1)) := by
  simp only [u32]
  omega

section Accepted

variable {script : CtrlScript} {id i : Nat} {reply r₀ r₁ : List UInt8}

/-- The last exchange: an acceptance follows the request. -/
theorem initSetLog_accepted (h : (initSetLog script id)[i]? = some (.accepted reply)) :
    i = 1 ∧ script.reply 2 = some reply ∧ Completes .set reply := by
  unfold initSetLog at h
  cases h2 : script.reply 2 with
  | none => rcases i with _ | i <;> simp [h2] at h
  | some r₂ =>
    by_cases hc2 : Completes .set r₂
    · rcases i with _ | _ | i <;> simp [h2, hc2] at h
      exact ⟨rfl, by rw [h], h ▸ hc2⟩
    · rcases i with _ | i <;> simp [h2, hc2] at h

/-- Where there is a reply to SET, it is accepted exactly if it completes SET. -/
theorem initSetLog_answered (id : Nat) (h : script.reply 2 = some reply) :
    (initSetLog script id)[1]? = some (.accepted reply) ↔ Completes .set reply := by
  unfold initSetLog
  by_cases hc : Completes .set reply <;> simp [h, hc]

/-- The log from the query on, once the query is answered. -/
theorem initQueryLog_eq (h1 : script.reply 1 = some r₁) : initQueryLog script id =
    .sent (queryMsg oid8023PermanentAddress (u32 (id + 1))) ::
      ((if Completes .query r₁ then [.accepted r₁] else []) ++
        initSetLog script (u32 (id + 1))) := by
  rw [initQueryLog, h1]

/-- The log, once INIT is completed. -/
theorem initLog_eq (h0 : script.reply 0 = some r₀) (hc0 : Completes .init r₀) :
    initLog script id = .sent (initMsg (u32 (id + 1))) :: .accepted r₀ ::
      initQueryLog script (u32 (id + 1)) := by
  rw [initLog, h0]
  simp only [if_pos hc0]

/-- Where the log has an accepted reply, a request stands before it, the reply completes the
    request, and another reply is accepted in its place exactly if it completes it too. -/
theorem initLog_accepted (h : (initLog script id)[i]? = some (.accepted reply)) :
    ∃ j n req msg, i = j + 1 ∧ (initLog script id)[j]? = some (.sent msg) ∧
      CtrlRequest.order[n]? = some req ∧ IsRequest req (u32 (id + n + 1)) msg ∧
      script.reply n = some reply ∧ Completes req reply ∧
      ∀ reply', (initLog (script.withReply n reply') id)[i]? = some (.accepted reply') ↔
        Completes req reply' := by
  have hlt (k : Nat) : u32 k < 2 ^ 32 := Nat.mod_lt _ (by decide)
  -- INIT: without a completion nothing else is sent
  cases h0 : script.reply 0 with
  | none => rcases i with _ | i <;> simp [initLog, h0] at h
  | some r₀ =>
  by_cases hc0 : Completes .init r₀
  case neg => rcases i with _ | i <;> simp [initLog, h0, hc0] at h
  rw [initLog_eq h0 hc0] at h ⊢
  match i with
  | 0 => cases h
  | 1 =>
    cases h
    refine ⟨0, 0, .init, _, rfl, rfl, rfl, initMsg_isRequest (hlt _), h0, hc0, fun reply' => ?_⟩
    simp only [initLog, CtrlScript.reply_withReply h0]
    by_cases hc : Completes .init reply' <;> simp [hc]
  | i + 2 =>
  have h' : (initQueryLog script (u32 (id + 1)))[i]? = some (.accepted reply) := h
  -- then the query, whose reply need not complete it
  cases h1 : script.reply 1 with
  | none => rcases i with _ | i <;> simp [initQueryLog, h1] at h'
  | some r₁ =>
  have hkeep (n : Nat) (reply' : List UInt8) (hn : 0 ≠ n) :
      initLog (script.withReply n reply') id = _ :=
    initLog_eq ((CtrlScript.reply_withReply_ne hn).trans h0) hc0
  rw [initQueryLog_eq h1] at h' ⊢
  by_cases hc1 : Completes .query r₁
  · rw [if_pos hc1] at h' ⊢
    match i with
    | 0 => cases h'
    | 1 =>
      cases h'
      refine ⟨2, 1, .query, _, rfl, rfl, rfl, ?_, h1, hc1, fun reply' => ?_⟩
      · rw [u32_succ id 1]
        exact queryMsg_isRequest _ (hlt _)
      · -- where the query is not completed, SET is sent at once
        rw [hkeep 1 reply' (by decide), initQueryLog_eq (CtrlScript.reply_withReply h1)]
        by_cases hc : Completes .query reply' <;> simp [hc, initSetLog]
    -- SET, at the place after the accepted QUERY_C
    | i + 2 =>
      obtain ⟨rfl, h2, hc2⟩ := initSetLog_accepted (show (initSetLog script _)[i]? = _ from h')
      refine ⟨4, 2, .set, _, rfl, rfl, rfl, ?_, h2, hc2, fun reply' => ?_⟩
      · rw [u32_succ id 1, u32_succ id (1 + 1)]
        exact setMsg_isRequest _ _ (hlt _)
      · rw [hkeep 2 reply' (by decide),
          initQueryLog_eq ((CtrlScript.reply_withReply_ne (by decide)).trans h1), if_pos hc1]
        exact initSetLog_answered (u32 (u32 (id + 1) + 1)) (CtrlScript.reply_withReply h2)
  · -- no QUERY_C was accepted, and SET follows at once
    rw [if_neg hc1] at h' ⊢
    match i with
    | 0 => cases h'
    | i + 1 =>
      obtain ⟨rfl, h2, hc2⟩ := initSetLog_accepted (show (initSetLog script _)[i]? = _ from h')
      refine ⟨3, 2, .set, _, rfl, rfl, rfl, ?_, h2, hc2, fun reply' => ?_⟩
      · rw [u32_succ id 1, u32_succ id (1 + 1)]
        exact setMsg_isRequest _ _ (hlt _)
      · rw [hkeep 2 reply' (by decide),
          initQueryLog_eq ((CtrlScript.reply_withReply_ne (by decide)).trans h1), if_neg hc1]
        exact initSetLog_answered (u32 (u32 (id + 1) + 1)) (CtrlScript.reply_withReply h2)

end Accepted

/-- **What is accepted.**  A reply that `rndis_drv_init` accepts was received right after it
    sent the `n`-th of its requests, INIT, QUERY and SET, with the `n`-th `request_id` after
    the old one, and completes that request.  Had another reply arrived in its place, it would
    have been accepted exactly if it completes the request; so the same reply with any other
    `request_id` in it would have been accepted as well. -/
theorem rndisDrvInit_accepts (script : CtrlScript) (buf : Mem) (state : RndisState) (i : Nat)
    (reply : List UInt8)
    (h : (rndisDrvInit script buf state).log[i]? = some (.accepted reply)) :
    ∃ j n req msg, i = j + 1 ∧ (rndisDrvInit script buf state).log[j]? = some (.sent msg) ∧
      CtrlRequest.order[n]? = some req ∧
      IsRequest req (u32 (state.requestId + n + 1)) msg ∧ script.recv n = some reply ∧
      Completes req reply ∧
      (∀ reply', (rndisDrvInit (script.withReply n reply') buf state).log[i]? =
          some (.accepted reply') ↔ Completes req reply') ∧
      ∀ id, (rndisDrvInit (script.withReply n (withRequestId id reply)) buf state).log[i]? =
        some (.accepted (withRequestId id reply)) := by
  rw [rndisDrvInit_log] at h
  obtain ⟨j, n, req, msg, hi, hj, hreq, hmsg, hreply, hcompl, hany⟩ := initLog_accepted h
  simp only [rndisDrvInit_log]
  exact ⟨j, n, req, msg, hi, hj, hreq, hmsg, CtrlScript.recv_of_reply hreply, hcompl, hany,
    fun id => (hany _).mpr (hcompl.withRequestId id)⟩

/-- An INIT_C with the given `request_id`. -/
def initCmpltBytes (id : Nat) : List UInt8 :=
  le32Bytes rndisMsgInitC ++ le32Bytes 52 ++ le32Bytes id ++ List.replicate 40 0

/-- A device that answers the first request with `reply` and then nothing. -/
def firstReply (reply : List UInt8) : CtrlScript where
  send _ := 24
  recv n := if n = 0 then some reply else none

/-- `rndis_state_t` after `calloc`. -/
def freshState : RndisState := ⟨0, 0, 0, .replicate 6 0, false⟩

/-- A QUERY_C that carries `data`. -/
def queryCmpltBytes (data : List UInt8) : List UInt8 :=
  le32Bytes rndisMsgQueryC ++ le32Bytes (24 + data.length) ++ le32Bytes 2 ++
    le32Bytes rndisStatusSuccess ++ le32Bytes data.length ++ le32Bytes 16 ++ data

/-- A SET_C with the given `request_id`. -/
def setCmpltBytes (id : Nat) : List UInt8 :=
  le32Bytes rndisMsgSetC ++ le32Bytes 16 ++ le32Bytes id ++ le32Bytes rndisStatusSuccess

/-- A device that answers INIT, then the query with `data`, then SET. -/
def answers (data : List UInt8) : CtrlScript where
  send _ := 28
  recv n := some <| match n with
    | 0 => initCmpltBytes 1
    | 1 => queryCmpltBytes data
    | _ => setCmpltBytes 3

/-- All three requests are completed.  The SET_C was received right after SET went out as the
    third request, and with the `request_id` of the INIT it would be accepted as well. -/
theorem rndisDrvInit_accepts_answers :
    (∃ msg, (rndisDrvInit (answers [0x02, 0x1A, 0x11, 0, 0, 7]) (fun _ => 0) freshState).log[4]? =
        some (.sent msg) ∧ IsRequest .set 3 msg ∧ Completes .set (setCmpltBytes 3)) ∧
      (rndisDrvInit ((answers [0x02, 0x1A, 0x11, 0, 0, 7]).withReply 2
          (withRequestId 1 (setCmpltBytes 3))) (fun _ => 0) freshState).log[5]? =
        some (.accepted (withRequestId 1 (setCmpltBytes 3))) := by
  obtain ⟨j, n, req, msg, hi, hj, hreq, hmsg, hrecv, hcompl, -, hany⟩ :=
    rndisDrvInit_accepts (answers [0x02, 0x1A, 0x11, 0, 0, 7]) (fun _ => 0) freshState 5
      (setCmpltBytes 3) (by rfl)
  obtain rfl : j = 4 := by omega
  have hlast : ∀ n < 3, (answers [0x02, 0x1A, 0x11, 0, 0, 7]).recv n = some (setCmpltBytes 3) →
      n = 2 := by decide
  obtain rfl : n = 2 := hlast n (List.getElem?_eq_some_iff.mp hreq).1 hrecv
  cases hreq
  exact ⟨⟨msg, hj, hmsg, hcompl⟩, hany 1⟩

/-- The first request has `request_id` 1.  An INIT_C that carries 7, say a late answer to a
    request of an earlier session, is accepted. -/
theorem not_rndisDrvInit_answers :
    ¬ ∀ (script : CtrlScript) (buf : Mem) (state : RndisState) (i : Nat) (reply : List UInt8),
      (rndisDrvInit script buf state).log[i]? = some (.accepted reply) →
        ∃ j msg, i = j + 1 ∧ (rndisDrvInit script buf state).log[j]? = some (.sent msg) ∧
          requestIdOf reply = requestIdOf msg := by
  intro h
  obtain ⟨j, msg, hj, hlog, hid⟩ :=
    h (firstReply (initCmpltBytes 7)) (fun _ => 0) freshState 1 (initCmpltBytes 7) (by rfl)
  obtain rfl : j = 0 := by omega
  have hmsg : requestIdOf msg = 1 := by
    cases hlog
    rfl
  rw [hmsg] at hid
  exact absurd hid (by decide)

end AndroidTether
