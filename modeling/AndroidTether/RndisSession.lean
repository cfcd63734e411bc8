import AndroidTether.RndisData

namespace AndroidTether

open Bytes

/-!
# The control channel over a session

The requests of the driver as they go over the wire, from `rndis_drv_init` to the last
`rndis_drv_keepalive` of `run_session`, and all that `rndis_drv_init` makes of the replies.

* `rndisDrvInit_succeeds_iff` — when `rndis_drv_init` succeeds, and the state it leaves then;
* `ctrlSession_requests` — the requests of a session, with a `request_id` each.
-/

/-! ### Headers -/

/-- A message with its own length and the given `request_id` in its header. -/
structure IsCtrlMsg (id : Nat) (msg : List UInt8) : Prop where
  msgLen : le32 (ofList msg) 4 = msg.length
  requestId : requestIdOf msg = u32 id

/-- The header of a message. -/
theorem isCtrlMsg_header (msg : List UInt8) (type len id : Nat) (rest : List UInt8)
    (h : msg = le32Bytes type ++ (le32Bytes len ++ (le32Bytes id ++ rest)))
    (hlen : len = msg.length) (hlt : len < 2 ^ 32) : IsCtrlMsg id msg := by
  obtain ⟨-, hmsgLen, hid⟩ := header_of_eq msg type len id rest h
  exact ⟨by rw [hmsgLen, u32, Nat.mod_eq_of_lt hlt, hlen], hid⟩

/-- INIT carries its length and its id. -/
theorem initMsg_isCtrlMsg (id : Nat) : IsCtrlMsg id (initMsg id) :=
  isCtrlMsg_header _ rndisMsgInit sizeofRndisInitMsg id _
    (by simp only [initMsg, List.append_assoc]; rfl) rfl (by decide)

/-- QUERY carries its length and its id. -/
theorem queryMsg_isCtrlMsg (oid id : Nat) : IsCtrlMsg id (queryMsg oid id) :=
  isCtrlMsg_header _ rndisMsgQuery sizeofRndisQueryMsg id _
    (by simp only [queryMsg, List.append_assoc]; rfl) rfl (by decide)

/-- SET carries its length and its id. -/
theorem setMsg_isCtrlMsg (oid filter id : Nat) : IsCtrlMsg id (setMsg oid (le32Bytes filter) id) :=
  isCtrlMsg_header _ rndisMsgSet (sizeofRndisSetMsg + 4) id _
    (by simp only [setMsg, List.append_assoc]; rfl) rfl (by decide)

/-- KEEPALIVE carries its length and its id. -/
theorem keepaliveMsg_isCtrlMsg (id : Nat) : IsCtrlMsg id (keepaliveMsg id) :=
  isCtrlMsg_header _ rndisMsgKeepalive sizeofRndisKeepaliveMsg id []
    (by rw [keepaliveMsg, List.append_assoc, List.append_nil]) rfl (by decide)

/-! ### The three exchanges -/

/-- The requests in a log. -/
def sentMsgs (log : List CtrlEvent) : List (List UInt8) :=
  log.filterMap fun
    | .sent msg => some msg
    | .accepted _ => none

/-- What is sent in two parts of a session. -/
@[simp] theorem sentMsgs_append (log log' : List CtrlEvent) :
    sentMsgs (log ++ log') = sentMsgs log ++ sentMsgs log' := List.filterMap_append ..

@[simp] theorem sentMsgs_sent (msg : List UInt8) : sentMsgs [.sent msg] = [msg] := rfl

@[simp] theorem sentMsgs_accepted (reply : List UInt8) : sentMsgs [.accepted reply] = [] := rfl

@[simp] theorem sentMsgs_nil : sentMsgs [] = [] := rfl

/-- The requests of `rndis_drv_init` on a driver with the given `request_id`. -/
def initRequests (id : Nat) : List (List UInt8) :=
  [initMsg (u32 (id + 1)), queryMsg oid8023PermanentAddress (u32 (id + 2)),
    setMsg oidGenCurrentPacketFilter (le32Bytes rndisPacketFilter) (u32 (id + 3))]

/-- What one of the steps of `rndis_drv_init` did, started on `state` with the log `log`: it
    returned 0 exactly if `succeeds`.  Then all of `msgs` were sent, and the state is as `ok`
    says.  Otherwise a part of `msgs` was sent, and `link_up` is as it was. -/
structure InitRun.Outcome (run : InitRun) (state : RndisState) (log : List CtrlEvent)
    (msgs : List (List UInt8)) (succeeds : Prop) (ok : RndisState → Prop) : Prop where
  ret : run.ret = 0 ∧ succeeds ∨ run.ret = -1 ∧ ¬ succeeds
  sent : ∃ sent, sentMsgs run.log = sentMsgs log ++ sent ∧ sent <+: msgs
  done : run.ret = 0 → sentMsgs run.log = sentMsgs log ++ msgs ∧ ok run.state
  failed : run.ret = -1 → run.state.linkUp = state.linkUp

/-- The run after a step that sent `msg` and went on. -/
theorem InitRun.Outcome.after {run : InitRun} {state state' : RndisState}
    {log log' : List CtrlEvent} {msg : List UInt8} {msgs : List (List UInt8)}
    {succeeds succeeds' : Prop} {ok ok' : RndisState → Prop}
    (h : run.Outcome state' log' msgs succeeds' ok')
    (hlog : sentMsgs log' = sentMsgs log ++ [msg]) (hlink : state'.linkUp = state.linkUp)
    (hsucc : succeeds' ↔ succeeds) (hok : succeeds' → ∀ s, ok' s → ok s) :
    run.Outcome state log (msg :: msgs) succeeds ok where
  ret := by rw [← hsucc]; exact h.ret
  sent := by
    obtain ⟨sent, hsent, hprefix⟩ := h.sent
    refine ⟨msg :: sent, ?_, List.cons_prefix_cons.mpr ⟨rfl, hprefix⟩⟩
    rw [hsent, hlog, List.append_assoc, List.singleton_append]
  done hret := by
    obtain ⟨hsent, hdone⟩ := h.done hret
    have hsucc' : succeeds' := by
      rcases h.ret with ⟨-, hsucc'⟩ | ⟨hret', -⟩
      · exact hsucc'
      · rw [hret] at hret'
        cases hret'
    refine ⟨?_, hok hsucc' _ hdone⟩
    rw [hsent, hlog, List.append_assoc, List.singleton_append]
  failed hret := by rw [h.failed hret, hlink]

/-- A step that sent `msg` and returned -1. -/
theorem InitRun.Outcome.stop {state state' : RndisState} {log log' : List CtrlEvent}
    {msg : List UInt8} {msgs : List (List UInt8)} {succeeds : Prop} {ok : RndisState → Prop}
    (hlog : sentMsgs log' = sentMsgs log ++ [msg]) (hlink : state'.linkUp = state.linkUp)
    (hsucc : ¬ succeeds) :
    InitRun.Outcome ⟨-1, state', log'⟩ state log (msg :: msgs) succeeds ok where
  ret := .inr ⟨rfl, hsucc⟩
  sent := ⟨[msg], hlog, List.cons_prefix_cons.mpr ⟨rfl, List.nil_prefix⟩⟩
  done hret := absurd (show (-1 : Int) = 0 from hret) (by decide)
  failed _ := hlink

/-- The last step, with a reply. -/
theorem InitRun.Outcome.last {state state' : RndisState} {log log' : List CtrlEvent}
    {msgs : List (List UInt8)} {succeeds : Prop} {ok : RndisState → Prop}
    (hlog : sentMsgs log' = sentMsgs log ++ msgs) (hsucc : succeeds) (hok : ok state') :
    InitRun.Outcome ⟨0, state', log'⟩ state log msgs succeeds ok where
  ret := .inl ⟨rfl, hsucc⟩
  sent := ⟨msgs, hlog, List.prefix_refl _⟩
  done _ := ⟨hlog, hok⟩
  failed hret := absurd (show (0 : Int) = -1 from hret) (by decide)

section Init

variable {script : CtrlScript} {buf : Mem} {state : RndisState} {log : List CtrlEvent}

/-- The third request, and what is left when it is answered or not. -/
theorem rndisDrvInitSet_outcome :
    (rndisDrvInitSet script buf state log).Outcome state log
      [setMsg oidGenCurrentPacketFilter (le32Bytes rndisPacketFilter) (u32 (state.requestId + 1))]
      ((script.reply 2).isSome = true)
      (fun s => s = { state with requestId := u32 (state.requestId + 1), linkUp := true }) := by
  have hbuilds := rndisBuildSet_builds oidGenCurrentPacketFilter rndisPacketFilter state
  unfold rndisDrvInitSet
  simp only [CtrlScript.transact_eq hbuilds.nonneg, hbuilds.packet, hbuilds.state_eq]
  cases script.reply 2 with
  | none => exact .stop (by simp; rfl) rfl (by simp)
  | some reply =>
    refine .last ?_ rfl rfl
    split <;> simp <;> rfl

/-- The second and the third request. -/
theorem rndisDrvInitQuery_outcome :
    (rndisDrvInitQuery script buf state log).Outcome state log
      [queryMsg oid8023PermanentAddress (u32 (state.requestId + 1)),
        setMsg oidGenCurrentPacketFilter (le32Bytes rndisPacketFilter)
          (u32 (u32 (state.requestId + 1) + 1))]
      ((script.reply 1).isSome = true ∧ (script.reply 2).isSome = true)
      (fun s => ∃ reply mac, script.reply 1 = some reply ∧ QueriedMac state.macAddr reply mac ∧
        s = { state with
              requestId := u32 (u32 (state.requestId + 1) + 1)
              macAddr := mac
              linkUp := true }) := by
  have hbuilds := rndisBuildQuery_builds oid8023PermanentAddress state
  unfold rndisDrvInitQuery
  simp only [CtrlScript.transact_eq hbuilds.nonneg, hbuilds.packet, hbuilds.state_eq]
  cases hreply : script.reply 1 with
  | none => exact .stop (by simp; rfl) rfl (by simp)
  | some reply =>
    have hat := at_store
      (storeAll buf (rndisBuildQuery rndisBufSize oid8023PermanentAddress state).1.stores) 0 reply
    simp only [Option.map_some]
    -- in all three cases the set step follows, on a state that differs in the address only
    cases hparse : rndisParseQueryCmplt (store (storeAll buf
        (rndisBuildQuery rndisBufSize oid8023PermanentAddress state).1.stores) 0 reply)
        reply.length 6 with
    | none =>
      have hnot := not_completes_of_parseQuery hat hparse
      refine rndisDrvInitSet_outcome.after (by simp; rfl) rfl (by simp) ?_
      rintro - _ rfl
      exact ⟨reply, _, rfl, .fallback hnot, rfl⟩
    | some data =>
      have hmac := @QueriedMac.answered state.macAddr _ (completes_of_parseQuery hat hparse)
      rw [← rndisParseQueryCmplt_copied hat hparse] at hmac
      cases data with
      | none =>
        rw [Option.elim_none, copyMac_nil] at hmac
        refine rndisDrvInitSet_outcome.after (by simp; rfl) rfl (by simp) ?_
        rintro - _ rfl
        exact ⟨reply, _, rfl, hmac, rfl⟩
      | some data =>
        refine rndisDrvInitSet_outcome.after (by simp; rfl) rfl (by simp) ?_
        rintro - _ rfl
        exact ⟨reply, _, rfl, hmac, rfl⟩

end Init

/-- The replies that let `rndis_drv_init` succeed: three, of which the first completes INIT. -/
structure InitReplies (script : CtrlScript) (r₀ r₁ r₂ : List UInt8) : Prop where
  init : script.reply 0 = some r₀
  query : script.reply 1 = some r₁
  set : script.reply 2 = some r₂
  completes : Completes .init r₀

/-- The driver that `rndis_drv_init` leaves when it succeeds. -/
structure Initialised (old : RndisState) (r₀ r₁ : List UInt8) (state : RndisState) : Prop where
  requestId : state.requestId = u32 (old.requestId + 3)
  maxTransferSize : state.maxTransferSize = le32 (ofList r₀) 36
  medium : state.medium = le32 (ofList r₀) 28
  macAddr : QueriedMac old.macAddr r₁ state.macAddr
  linkUp : state.linkUp = true

/-- All three requests of `rndis_drv_init`. -/
theorem rndisDrvInit_outcome (script : CtrlScript) (buf : Mem) (state : RndisState) :
    (rndisDrvInit script buf state).Outcome state [] (initRequests state.requestId)
      (∃ r₀ r₁ r₂, InitReplies script r₀ r₁ r₂)
      (fun s => ∃ r₀ r₁ r₂, InitReplies script r₀ r₁ r₂ ∧ Initialised state r₀ r₁ s) := by
  have hbuilds := rndisBuildInit_builds state
  have hids : initRequests state.requestId =
      [initMsg (u32 (state.requestId + 1)),
        queryMsg oid8023PermanentAddress (u32 (u32 (state.requestId + 1) + 1)),
        setMsg oidGenCurrentPacketFilter (le32Bytes rndisPacketFilter)
          (u32 (u32 (u32 (state.requestId + 1) + 1) + 1))] := by
    simp only [initRequests, u32_succ]
  rw [hids]
  unfold rndisDrvInit
  simp only [CtrlScript.transact_eq hbuilds.nonneg, hbuilds.packet, hbuilds.state_eq]
  cases hreply : script.reply 0 with
  | none =>
    refine .stop rfl rfl ?_
    rintro ⟨r₀, _, _, h⟩
    rw [h.init] at hreply
    cases hreply
  | some r₀ =>
    have hat := at_store (storeAll buf (rndisBuildInit rndisBufSize state).1.stores) 0 r₀
    simp only [Option.map_some]
    rw [rndisParseInitCmplt_eq hat]
    by_cases hcompl : Completes .init r₀
    · rw [if_pos hcompl]
      have hreplies : ((script.reply 1).isSome = true ∧ (script.reply 2).isSome = true) ↔
          ∃ r₀ r₁ r₂, InitReplies script r₀ r₁ r₂ := by
        constructor
        · intro ⟨h1, h2⟩
          exact ⟨r₀, _, _, hreply, (Option.some_get h1).symm, (Option.some_get h2).symm, hcompl⟩
        · rintro ⟨_, r₁, r₂, h⟩
          simp [h.query, h.set]
      refine rndisDrvInitQuery_outcome.after rfl rfl hreplies ?_
      rintro hsome _ ⟨r₁, mac, h1, hmac, rfl⟩
      refine ⟨r₀, r₁, _, ⟨hreply, h1, (Option.some_get hsome.2).symm, hcompl⟩, ?_⟩
      exact {
        requestId := by
          rw [← u32_succ state.requestId 2, ← u32_succ state.requestId 1]
          rfl
        maxTransferSize := rfl
        medium := rfl
        macAddr := hmac
        linkUp := rfl }
    · rw [if_neg hcompl]
      refine .stop rfl rfl ?_
      rintro ⟨_, _, _, h⟩
      rw [h.init, Option.some.injEq] at hreply
      exact hcompl (hreply ▸ h.completes)

/-- **What initialisation takes and gives.**  `rndis_drv_init` returns 0 or -1, and 0 exactly
    if each of its three requests is answered and the first answer completes INIT.  Then it
    has sent INIT, QUERY and SET, byte for byte, with the next three `request_id`s, and the
    driver has what the answers say; otherwise it has sent the first of these, and `link_up`
    is as it was. -/
theorem rndisDrvInit_succeeds_iff (script : CtrlScript) (buf : Mem) (state : RndisState) :
    ((rndisDrvInit script buf state).ret = 0 ↔ ∃ r₀ r₁ r₂, InitReplies script r₀ r₁ r₂) ∧
      ((rndisDrvInit script buf state).ret ≠ 0 → (rndisDrvInit script buf state).ret = -1 ∧
        (rndisDrvInit script buf state).state.linkUp = state.linkUp) ∧
      sentMsgs (rndisDrvInit script buf state).log <+: initRequests state.requestId ∧
      ∀ r₀ r₁ r₂, InitReplies script r₀ r₁ r₂ →
        sentMsgs (rndisDrvInit script buf state).log = initRequests state.requestId ∧
          Initialised state r₀ r₁ (rndisDrvInit script buf state).state := by
  have h := rndisDrvInit_outcome script buf state
  have hiff : (rndisDrvInit script buf state).ret = 0 ↔ ∃ r₀ r₁ r₂, InitReplies script r₀ r₁ r₂ := by
    rcases h.ret with ⟨hret, hsucc⟩ | ⟨hret, hsucc⟩
    · exact iff_of_true hret hsucc
    · exact iff_of_false (by omega) hsucc
  refine ⟨hiff, fun hne => ?_, ?_, fun r₀ r₁ r₂ hreplies => ?_⟩
  · rcases h.ret with ⟨hret, -⟩ | ⟨hret, -⟩
    · exact absurd hret hne
    · exact ⟨hret, h.failed hret⟩
  · obtain ⟨sent, hsent, hprefix⟩ := h.sent
    rw [hsent]
    exact hprefix
  · obtain ⟨hsent, s₀, s₁, s₂, hreplies', hstate⟩ := h.done (hiff.mpr ⟨r₀, r₁, r₂, hreplies⟩)
    refine ⟨hsent, ?_⟩
    obtain rfl : s₀ = r₀ := Option.some.inj (hreplies'.init.symm.trans hreplies.init)
    obtain rfl : s₁ = r₁ := Option.some.inj (hreplies'.query.symm.trans hreplies.query)
    exact hstate

/-! ### Keepalives -/

/-- `rndis_drv_keepalive`, as the `n`-th exchange.  What the two transfers return is ignored. -/
def rndisDrvKeepalive (script : CtrlScript) (n : Nat) (buf : Mem) (state : RndisState) :
    RndisState × List CtrlEvent :=
  let (built, state) := rndisBuildKeepalive rndisBufSize state
  if 0 < built.ret then (state, (script.transact n built buf).1) else (state, [])

/-- `rndis_drv_init` and the first `k` calls of `rndis_drv_keepalive` after it; `bufs n` is
    what the buffer of the `n`-th keepalive holds at first. -/
def ctrlSession (script : CtrlScript) (buf : Mem) (bufs : Nat → Mem) (state : RndisState) :
    Nat → RndisState × List CtrlEvent
  | 0 =>
    let run := rndisDrvInit script buf state
    (run.state, run.log)
  | k + 1 =>
    let (state, log) := ctrlSession script buf bufs state k
    let (state, sent) := rndisDrvKeepalive script (3 + k) (bufs k) state
    (state, log ++ sent)

/-- One keepalive sends one message, and changes the `request_id` only. -/
theorem rndisDrvKeepalive_eq (script : CtrlScript) (n : Nat) (buf : Mem) (state : RndisState) :
    rndisDrvKeepalive script n buf state =
      (state.nextRequest, [.sent (keepaliveMsg state.nextRequest.requestId)]) := by
  have hbuilds := rndisBuildKeepalive_builds state
  have hpos : 0 < (rndisBuildKeepalive rndisBufSize state).1.ret := by
    show 0 < toInt sizeofRndisKeepaliveMsg
    decide
  unfold rndisDrvKeepalive
  simp only [hpos, if_true, CtrlScript.transact_eq hbuilds.nonneg, hbuilds.packet]
  rfl

/-- What the session is after `k` keepalives. -/
structure Kept (old state : RndisState) (k : Nat) (log log' : List CtrlEvent)
    (state' : RndisState) : Prop where
  sent : sentMsgs log' = sentMsgs log ++
    (List.range k).map fun i => keepaliveMsg (u32 (old.requestId + (3 + i + 1)))
  state_eq : state' = { state with requestId := u32 (old.requestId + (3 + k)) }

section Session

variable {script : CtrlScript} {buf : Mem} {bufs : Nat → Mem} {state : RndisState}

/-- Each keepalive takes the next `request_id`. -/
theorem ctrlSession_kept (h : (rndisDrvInit script buf state).ret = 0) (k : Nat) :
    Kept state (rndisDrvInit script buf state).state k (rndisDrvInit script buf state).log
      (ctrlSession script buf bufs state k).2 (ctrlSession script buf bufs state k).1 := by
  induction k with
  | zero =>
    obtain ⟨-, r₀, r₁, r₂, -, hstate⟩ := (rndisDrvInit_outcome script buf state).done h
    refine ⟨by simp [ctrlSession], ?_⟩
    rw [Nat.add_zero, ← hstate.requestId]
    rfl
  | succ k ih =>
    simp only [ctrlSession, rndisDrvKeepalive_eq]
    have hid : (ctrlSession script buf bufs state k).1.nextRequest.requestId =
        u32 (state.requestId + (3 + k + 1)) := by
      rw [RndisState.nextRequest, ih.state_eq, u32_succ]
    constructor
    · rw [sentMsgs_append, ih.sent, sentMsgs_sent, hid, List.range_succ, List.map_append,
        List.append_assoc]
      rfl
    · rw [RndisState.nextRequest, ih.state_eq, u32_succ]
      rfl

/-- A `request_id` counts modulo `2 ^ 32`. -/
theorem IsCtrlMsg.of_u32 {id : Nat} {msg : List UInt8} (h : IsCtrlMsg (u32 id) msg) :
    IsCtrlMsg id msg := ⟨h.msgLen, by rw [h.requestId, u32, u32, Nat.mod_mod]⟩

/-- The `i`-th message of a session. -/
theorem ctrlSession_isCtrlMsg (h : (rndisDrvInit script buf state).ret = 0) {k i : Nat}
    {msg : List UInt8} (hi : (sentMsgs (ctrlSession script buf bufs state k).2)[i]? = some msg) :
    IsCtrlMsg (state.requestId + (i + 1)) msg := by
  rw [(ctrlSession_kept h k).sent, ((rndisDrvInit_outcome script buf state).done h).1] at hi
  rcases Nat.lt_or_ge i 3 with hlt | hge
  · -- one of the three requests of `rndis_drv_init`
    rw [List.getElem?_append_left (by simpa [initRequests] using hlt)] at hi
    have hcases : i = 0 ∨ i = 1 ∨ i = 2 := by omega
    rcases hcases with rfl | rfl | rfl <;> cases hi
    · exact (initMsg_isCtrlMsg _).of_u32
    · exact (queryMsg_isCtrlMsg _ _).of_u32
    · exact (setMsg_isCtrlMsg _ _ _).of_u32
  · -- a keepalive
    rw [List.getElem?_append_right (by simpa [initRequests] using hge)] at hi
    have hlen : (sentMsgs [] ++ initRequests state.requestId).length = 3 := rfl
    simp only [hlen, List.getElem?_map, Option.map_eq_some_iff] at hi
    obtain ⟨j, hj, rfl⟩ := hi
    obtain ⟨-, rfl⟩ := List.getElem?_eq_some_iff.mp hj
    rw [List.getElem_range, show 3 + (i - 3) + 1 = i + 1 by omega]
    exact (keepaliveMsg_isCtrlMsg _).of_u32

/-- Three requests, and one a keepalive. -/
theorem ctrlSession_length (h : (rndisDrvInit script buf state).ret = 0) (k : Nat) :
    (sentMsgs (ctrlSession script buf bufs state k).2).length = 3 + k := by
  rw [(ctrlSession_kept h k).sent, ((rndisDrvInit_outcome script buf state).done h).1]
  simp [initRequests]
  omega

/-- The `request_id`s of a session. -/
theorem ctrlSession_requestIds (h : (rndisDrvInit script buf state).ret = 0) (k : Nat) :
    (sentMsgs (ctrlSession script buf bufs state k).2).map requestIdOf =
      (List.range (3 + k)).map fun i => u32 (state.requestId + (i + 1)) := by
  apply List.ext_getElem
  · rw [List.length_map, ctrlSession_length h, List.length_map, List.length_range]
  · intro i hi _
    rw [List.length_map] at hi
    rw [List.getElem_map, List.getElem_map, List.getElem_range]
    exact (ctrlSession_isCtrlMsg h (List.getElem?_eq_getElem hi)).requestId

end Session

/-- **The requests of a session.**  After `rndis_drv_init` succeeded and `k` keepalives, the
    `3 + k` messages that went out carry their own lengths and the `request_id`s that follow
    the old one, all different as long as there are at most `2 ^ 32` of them.  A keepalive counts
    as sent also when `usb_send_ctrl` fails, since its result is ignored.  The keepalives changed
    nothing else: the address, the link and the transfer size are those of `rndis_drv_init`. -/
theorem ctrlSession_requests (script : CtrlScript) (buf : Mem) (bufs : Nat → Mem)
    (state : RndisState) (k : Nat) (h : (rndisDrvInit script buf state).ret = 0) :
    (sentMsgs (ctrlSession script buf bufs state k).2).length = 3 + k ∧
      (∀ i msg, (sentMsgs (ctrlSession script buf bufs state k).2)[i]? = some msg →
        IsCtrlMsg (state.requestId + (i + 1)) msg) ∧
      (3 + k ≤ 2 ^ 32 →
        ((sentMsgs (ctrlSession script buf bufs state k).2).map requestIdOf).Nodup) ∧
      (ctrlSession script buf bufs state k).1 =
        { (rndisDrvInit script buf state).state with
          requestId := u32 (state.requestId + (3 + k)) } := by
  refine ⟨ctrlSession_length h k, fun i msg hi => ctrlSession_isCtrlMsg h hi, fun hk => ?_,
    (ctrlSession_kept h k).state_eq⟩
  rw [ctrlSession_requestIds h]
  refine List.Nodup.map_on (fun i hi j hj heq => ?_) List.nodup_range
  rw [List.mem_range] at hi hj
  simp only [u32] at heq
  omega

/-- Three requests and five keepalives, with the ids 1 to 8. -/
theorem ctrlSession_requests_answered :
    (sentMsgs (ctrlSession (answers [0x02, 0x1A, 0x11, 0, 0, 7]) (fun _ => 0) (fun _ _ => 0)
        freshState 5).2).map requestIdOf = [1, 2, 3, 4, 5, 6, 7, 8] ∧
      (ctrlSession (answers [0x02, 0x1A, 0x11, 0, 0, 7]) (fun _ => 0) (fun _ _ => 0)
        freshState 5).1.requestId = 8 := by
  obtain ⟨hlen, hmsgs, -, hstate⟩ :=
    ctrlSession_requests (answers [0x02, 0x1A, 0x11, 0, 0, 7]) (fun _ => 0) (fun _ _ => 0)
      freshState 5 (by rfl)
  constructor
  · apply List.ext_getElem
    · rw [List.length_map, hlen]
      rfl
    · intro i hi hi'
      rw [List.length_map] at hi
      rw [List.getElem_map, (hmsgs i _ (List.getElem?_eq_getElem hi)).requestId]
      have hids : ∀ i, (h : i < 8) → u32 (0 + (i + 1)) = [1, 2, 3, 4, 5, 6, 7, 8][i] := by decide
      exact hids i hi'
  · rw [hstate]
    rfl

end AndroidTether
