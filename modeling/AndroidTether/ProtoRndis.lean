import AndroidTether.MsgWalk
import Mathlib.Algebra.Order.BigOperators.Group.List
import Mathlib.Algebra.Order.Group.Nat
import Mathlib.Algebra.Ring.Nat

namespace AndroidTether

open Bytes WhileLoop

/-!
# The RNDIS driver: wrapping and unwrapping transfers

`rndis_drv_wrap_frame` and `rndis_drv_unwrap_data` of `proto_rndis.c`.

* `unwrapInBounds_iff` — the walk stays inside the received bytes exactly when no message it
  reaches wraps `offset + msg_len` and is a data packet that sticks out of the buffer;
* `rndisDrvUnwrapData_wrapped` — unwrapping a transfer of wrapped frames, other messages and
  a short tail calls back once for every frame, in order.
-/

variable {σ : Type}

/-- `rndis_drv_wrap_frame` -/
def rndisDrvWrapFrame (eth : List UInt8) (outSize : Nat) : Built := rndisBuildDataPacket outSize eth

/-- Inside the loop: `on_frame(frame, frame_len, ctx)`, which never leaves it. -/
def unwrapVisit (onFrame : σ → Span → σ) (ctx : σ) (frame : Span) : Logged (ForInStep σ) :=
  pure (.yield (onFrame ctx frame))

/-- `rndis_drv_unwrap_data` with at most `fuel` rounds of its loop, `none` when it is still
    running then.  It always returns 0; what is left of a call is the callback's context. -/
def rndisDrvUnwrapData (m : Mem) (usbLen : Nat) (onFrame : σ → Span → σ) (fuel : Nat) (ctx : σ) :
    Option σ :=
  match iterate (msgWalkStep m usbLen (unwrapVisit onFrame)) fuel (0, ctx) with
  | .done s => some s.2
  | .yield _ => none

/-- `unwrap_data` visits every frame. -/
theorem unwrapVisit_endsBy (onFrame : σ → Span → σ) :
    EndsBy (unwrapVisit onFrame) fun _ => false := fun _ _ => rfl

/-! ### Bounds -/

/-- A callback that only records the frames it is given. -/
def recordFrame (calls : List Span) (frame : Span) : List Span := calls ++ [frame]

/-- Everything `rndis_drv_unwrap_data` reads, and every frame it hands to the callback, lies
    in the first `usbLen` bytes, in every round the loop gets to. -/
def UnwrapInBounds (m : Mem) (usbLen : Nat) : Prop :=
  ∀ s, Visits (msgWalkStep m usbLen (unwrapVisit recordFrame)) (0, []) s →
    (∀ r ∈ (msgWalkBody m usbLen (unwrapVisit recordFrame) s).reads, r.Within usbLen) ∧
      ∀ f ∈ s.2, f.Within usbLen

/-- The offsets the loop gets to. -/
def UnwrapVisits (m : Mem) (usbLen : Nat) (o : Nat) : Prop :=
  Visits (msgStep m usbLen fun _ => false) 0 o

/-- The message at `o` wraps `offset + msg_len`, is a data packet, and either its header is
    cut off before the payload length or its payload, which fits in `msg_len`, ends behind
    the received bytes. -/
def Overruns (m : Mem) (usbLen o : Nat) : Prop :=
  o + 8 ≤ usbLen ∧ Wraps m o ∧ le32 m o = rndisMsgPacket ∧
    (usbLen < o + 16 ∨
      (le32 m (o + 12) ≠ 0 ∧ u32 (8 + le32 m (o + 8)) + le32 m (o + 12) ≤ msgLenAt m o ∧
        usbLen < o + u32 (8 + le32 m (o + 8)) + le32 m (o + 12)))

variable {m : Mem} {usbLen o : Nat}

/-- What one round reads: the message length, then what the decoder reads. -/
theorem unwrapBody_reads (m : Mem) (usbLen : Nat) (onFrame : σ → Span → σ) (s : Nat × σ) :
    (msgWalkBody m usbLen (unwrapVisit onFrame) s).reads =
      if u32 (s.1 + 8) ≤ u32 usbLen then
        ⟨s.1 + 4, 4⟩ ::
          if MsgFits m usbLen s.1 then
            (rndisParseDataPacket m s.1 (msgLenAt m s.1)).reads
          else []
      else [] := by
  rw [msgWalkBody_reads]
  cases frameAt m s.1 <;> simp [unwrapVisit]

/-- A wrapping message from inside the buffer always passes the loop's checks: the guard
    compares the wrapped sum. -/
theorem msgFits_of_wraps (hlen : usbLen ≤ rndisBufSize) (ho : o + 8 ≤ usbLen) (hw : Wraps m o) :
    MsgFits m usbLen o := by
  have hmsg : msgLenAt m o < 2 ^ 32 := le32_lt _ _
  simp only [Wraps, rndisBufSize] at hw hlen
  refine ⟨?_, by omega, ?_⟩
  · rw [u32_of_lt (by omega), u32_of_lt (by omega)]
    exact ho
  · rw [u32_of_lt (by omega : usbLen < 2 ^ 32), u32]
    omega

/-- A round over a message that does not overrun reads inside the buffer and finds its frame
    inside the buffer. -/
theorem round_within (hlen : usbLen ≤ rndisBufSize) (ho : o ≤ usbLen) (hfits : MsgFits m usbLen o)
    (hno : ¬ Overruns m usbLen o) :
    (∀ r ∈ (rndisParseDataPacket m o (msgLenAt m o)).reads, r.Within usbLen) ∧
      ∀ f, frameAt m o = some f → f.Within usbLen := by
  obtain ⟨h8, hcase⟩ := msgFits_cases hlen ho hfits
  rcases hcase with ⟨-, -, hin, -⟩ | ⟨hw, -, -⟩
  · -- the message lies inside the buffer, and the decoder stays inside the message
    refine ⟨fun r hr => ?_, fun f hf => ?_⟩
    · obtain ⟨hr16, h44⟩ := rndisParseDataPacket_reads hr
      simp only [Span.Within, sizeofRndisDataPacket] at *
      omega
    · have := rndisParseDataPacket_within hf
      simp only [Span.Within] at *
      omega
  · refine ⟨fun r hr => ?_, fun f hf => ?_⟩
    · by_cases htype : le32 m o = rndisMsgPacket
      · have h16 : o + 16 ≤ usbLen := by
          by_contra h16
          exact hno ⟨h8, hw, htype, .inl (by omega)⟩
        have := (rndisParseDataPacket_reads hr).1
        simp only [Span.Within] at *
        omega
      · -- only the type is read
        have h44 := (rndisParseDataPacket_reads hr).2
        simp [rndisParseDataPacket, Nat.not_lt.mpr h44, htype] at hr
        subst hr
        simp only [Span.Within]
        omega
    · rw [frameAt, rndisParseDataPacket_val] at hf
      split at hf
      · rename_i hc
        obtain ⟨-, htype, hne, hle⟩ := hc
        simp only [Option.some.injEq] at hf
        subst hf
        by_contra hout
        simp only [Span.Within, Nat.not_le] at hout
        exact hno ⟨h8, hw, htype, .inr ⟨hne, hle, hout⟩⟩
      · cases hf

/-- A round over a message that overruns reads behind the received bytes or finds a frame
    that ends behind them. -/
theorem round_not_within (hlen : usbLen ≤ rndisBufSize) (hov : Overruns m usbLen o) :
    (∃ r ∈ (rndisParseDataPacket m o (msgLenAt m o)).reads, ¬ r.Within usbLen) ∨
      ∃ f, frameAt m o = some f ∧ ¬ f.Within usbLen := by
  obtain ⟨ho, hw, htype, hcase⟩ := hov
  have h44 : sizeofRndisDataPacket ≤ msgLenAt m o := by
    simp only [Wraps, rndisBufSize, sizeofRndisDataPacket] at *
    omega
  rcases hcase with hcut | ⟨hne, hle, hout⟩
  · refine .inl ⟨_, rndisParseDataPacket_reads_dataLen h44 htype, ?_⟩
    simp only [Span.Within]
    omega
  · refine .inr ⟨⟨o + u32 (8 + le32 m (o + 8)), le32 m (o + 12)⟩, ?_, ?_⟩
    · rw [frameAt, rndisParseDataPacket_val, if_pos ⟨h44, htype, hne, hle⟩]
    · simp only [Span.Within]
      omega

/-- One round hands over the frame of the message, if it has one. -/
theorem unwrapStep_yield {onFrame : σ → Span → σ} {s t : Nat × σ}
    (h : msgWalkStep m usbLen (unwrapVisit onFrame) s = .yield t) :
    MsgFits m usbLen s.1 ∧ t = (u32 (s.1 + msgLenAt m s.1), (frameAt m s.1).elim s.2 (onFrame s.2)) := by
  rw [msgWalkStep_eq] at h
  split at h
  · rename_i hfits
    refine ⟨hfits, ?_⟩
    cases hf : frameAt m s.1 <;> simp [hf, unwrapVisit] at h ⊢ <;> exact h.symm
  · cases h

/-- The walk over offsets alone. -/
theorem unwrap_simulates :
    Simulates Prod.fst (msgWalkStep m usbLen (unwrapVisit recordFrame))
      (msgStep m usbLen fun _ => false) :=
  msgWalk_simulates (unwrapVisit_endsBy recordFrame)

/-- A message that overruns takes a read or a frame out of the received bytes. -/
theorem not_unwrapInBounds_of_overruns (hlen : usbLen ≤ rndisBufSize) {o : Nat}
    (ho : UnwrapVisits m usbLen o) (hov : Overruns m usbLen o) : ¬ UnwrapInBounds m usbLen := by
  intro hin
  obtain ⟨s, hs, rfl⟩ := unwrap_simulates.exists_visits (s := (0, ([] : List Span))) ho
  have hfits := msgFits_of_wraps hlen hov.1 hov.2.1
  rcases round_not_within hlen hov with ⟨r, hr, hout⟩ | ⟨f, hf, hout⟩
  · refine hout ((hin s hs).1 r ?_)
    rw [unwrapBody_reads, if_pos hfits.1, if_pos hfits]
    exact List.mem_cons_of_mem _ hr
  · -- the frame is among the calls recorded at the next offset
    have hnext : msgWalkStep m usbLen (unwrapVisit recordFrame) s =
        .yield (u32 (s.1 + msgLenAt m s.1), s.2 ++ [f]) := by
      rw [msgWalkStep_eq, if_pos hfits, hf]
      rfl
    exact hout ((hin _ (hs.tail hnext)).2 f (by simp))

/-- The reads of one round. -/
theorem unwrapBody_reads_within (hlen : usbLen ≤ rndisBufSize) {s : Nat × List Span}
    (ho : s.1 ≤ usbLen) (hno : ¬ Overruns m usbLen s.1) :
    ∀ r ∈ (msgWalkBody m usbLen (unwrapVisit recordFrame) s).reads, r.Within usbLen := by
  intro r hr
  rw [unwrapBody_reads] at hr
  split at hr
  · rename_i hguard
    simp only [rndisBufSize] at hlen
    rw [u32_of_lt (by omega : s.1 + 8 < 2 ^ 32), u32_of_lt (by omega)] at hguard
    rcases List.mem_cons.mp hr with rfl | hr
    · simp only [Span.Within]
      omega
    · split at hr
      · rename_i hfits
        exact (round_within (by simpa [rndisBufSize]) ho hfits hno).1 r hr
      · simp at hr
  · simp at hr

/-- **Bounds of the walk.**  For a transfer of at most `RNDIS_BUF_SIZE` bytes, everything
    `rndis_drv_unwrap_data` reads and hands on lies inside the received bytes if and only if
    no message it gets to overruns. -/
theorem unwrapInBounds_iff (m : Mem) (usbLen : Nat) (hlen : usbLen ≤ rndisBufSize) :
    UnwrapInBounds m usbLen ↔ ∀ o, UnwrapVisits m usbLen o → ¬ Overruns m usbLen o := by
  constructor
  · intro hin o ho hov
    exact not_unwrapInBounds_of_overruns hlen ho hov hin
  · intro hno s hs
    have hle : ∀ t, Visits (msgWalkStep m usbLen (unwrapVisit recordFrame)) (0, []) t →
        t.1 ≤ usbLen ∧ ¬ Overruns m usbLen t.1 := by
      intro t ht
      have hv : UnwrapVisits m usbLen t.1 := unwrap_simulates.visits ht
      exact ⟨msgStep_visits_le hlen hv, hno _ hv⟩
    refine ⟨unwrapBody_reads_within hlen (hle s hs).1 (hle s hs).2, ?_⟩
    -- the frames handed on so far, round by round
    induction hs with
    | refl => simp
    | @tail a b ha hab ih =>
      obtain ⟨hfits, rfl⟩ := unwrapStep_yield hab
      intro f hf
      cases hfr : frameAt m a.1 with
      | none =>
        simp only [hfr, Option.elim_none] at hf
        exact ih f hf
      | some g =>
        simp only [hfr, Option.elim_some, recordFrame, List.mem_append, List.mem_singleton] at hf
        rcases hf with hf | rfl
        · exact ih f hf
        · exact (round_within hlen (hle a ha).1 hfits (hle a ha).2).2 f hfr

/-- The overrun test is about the first sixteen bytes of one message, so it can be run. -/
instance (m : Mem) (usbLen o : Nat) : Decidable (Overruns m usbLen o) :=
  inferInstanceAs (Decidable (_ ≤ _ ∧ _ ≤ _ ∧ _ = _ ∧ _))

/-- A transfer of one wrapped three-byte frame stays inside its 47 bytes. -/
theorem unwrapInBounds_iff_single :
    UnwrapInBounds (ofList (dataPacketBytes [1, 2, 3])) 47 := by
  refine (unwrapInBounds_iff _ 47 (by decide)).mpr fun o ho => ?_
  have hvisits : o = 0 ∨ o = 47 := by
    refine ho.invariant (I := fun a => a = 0 ∨ a = 47) (fun a b ha hab => ?_) (.inl rfl)
    rcases ha with rfl | rfl
    · exact .inr (ForInStep.yield.inj hab).symm
    · cases hab
  rcases hvisits with rfl | rfl <;> decide

/-- Fifty-two bytes: an eight-byte message of type 2, then a data packet whose length field
    is `2 ^ 32 - 8` and whose payload length is 1500. -/
def wrappedLenTransfer : List UInt8 :=
  le32Bytes 2 ++ le32Bytes 8 ++ le32Bytes rndisMsgPacket ++ le32Bytes 0xFFFFFFF8 ++
    le32Bytes 36 ++ le32Bytes 1500 ++ List.replicate 28 0

/-- On `wrappedLenTransfer` the second message passes the check `offset + msg_len > usb_len`
    because the sum wraps to 0, and a frame from byte 52 to byte 1552 is handed on. -/
theorem not_unwrapInBounds :
    ¬ ∀ (m : Mem) (usbLen : Nat), usbLen ≤ rndisBufSize → UnwrapInBounds m usbLen := by
  intro h
  have hin := h (ofList wrappedLenTransfer) 52 (by decide)
  have h₁ : Visits (msgWalkStep (ofList wrappedLenTransfer) 52 (unwrapVisit recordFrame))
      (0, []) (8, []) := .single rfl
  have h₂ : Visits (msgWalkStep (ofList wrappedLenTransfer) 52 (unwrapVisit recordFrame))
      (0, []) (0, [⟨52, 1500⟩]) := h₁.tail rfl
  have hout := (hin _ h₂).2 ⟨52, 1500⟩ (by simp)
  revert hout
  decide

/-! ### Unwrapping what was wrapped -/

/-- One message of a transfer: a frame wrapped into a buffer of `outSize` bytes that held
    `out` before, or some other RNDIS message. -/
inductive TransferItem where
  | frame (eth : List UInt8) (outSize : Nat) (out : Mem)
  | other (msg : List UInt8)

namespace TransferItem

/-- The bytes of the message. -/
def bytes : TransferItem → List UInt8
  | frame eth outSize out => (rndisDrvWrapFrame eth outSize).packet out
  | other msg => msg

/-- The number of bytes the message has. -/
def size : TransferItem → Nat
  | frame eth _ _ => sizeofRndisDataPacket + eth.length
  | other msg => msg.length

/-- The frame that was wrapped. -/
def frame? : TransferItem → Option (List UInt8)
  | frame eth _ _ => some eth
  | other _ => none

/-- A frame is not empty and was wrapped into a buffer that is large enough; any other
    message is not a data packet and carries its own length. -/
def Valid : TransferItem → Prop
  | frame eth outSize _ => eth ≠ [] ∧ sizeofRndisDataPacket + eth.length ≤ outSize
  | other msg => IsMsg msg ∧ le32 (ofList msg) 0 ≠ rndisMsgPacket

end TransferItem

/-- A wrapped frame is a message with an exact length. -/
theorem isMsg_dataPacketBytes {eth : List UInt8}
    (hlt : sizeofRndisDataPacket + eth.length < 2 ^ 31) : IsMsg (dataPacketBytes eth) := by
  have hat := at_ofList (dataPacketBytes eth)
  simp only [dataPacketBytes, at_append, List.length_append, le32Bytes_length] at hat
  obtain ⟨⟨⟨⟨⟨-, h4⟩, -⟩, -⟩, -⟩, -⟩ := hat
  refine ⟨by simp [sizeofRndisDataPacket]; omega, ?_⟩
  rw [dataPacketBytes_length, msgLenAt, dataPacketBytes, h4.le32_eq, Nat.mod_eq_of_lt (by omega)]

/-- The frame inside a wrapped frame. -/
theorem extractFrame_dataPacketBytes {eth : List UInt8} (hne : eth ≠ [])
    (hlt : sizeofRndisDataPacket + eth.length < 2 ^ 31) :
    extractFrame (dataPacketBytes eth) = some eth := by
  have hat := at_ofList (dataPacketBytes eth)
  rw [extractFrame, dataPacketBytes_length, rndisParseDataPacket_built hne hlt hat]
  rw [dataPacketBytes, at_append] at hat
  exact congrArg some (at_iff_slice.mp hat.2)

/-- A message that is not a data packet has no frame. -/
theorem extractFrame_of_type_ne {msg : List UInt8} (h : le32 (ofList msg) 0 ≠ rndisMsgPacket) :
    extractFrame msg = none := by
  rw [extractFrame, rndisParseDataPacket_val, if_neg (fun hc => h hc.2.1), Option.map_none]

/-- What the walk needs to know about a valid item of less than `2 ^ 31` bytes. -/
theorem TransferItem.Valid.bytes_spec {item : TransferItem} (h : item.Valid)
    (hlt : item.size < 2 ^ 31) :
    IsMsg item.bytes ∧ extractFrame item.bytes = item.frame? ∧ item.bytes.length = item.size := by
  cases item with
  | frame eth outSize out =>
    obtain ⟨hne, hfit⟩ := h
    have hlt : sizeofRndisDataPacket + eth.length < 2 ^ 31 := hlt
    simp only [TransferItem.bytes, rndisDrvWrapFrame, rndisBuildDataPacket_packet out hfit hlt]
    exact ⟨isMsg_dataPacketBytes hlt, extractFrame_dataPacketBytes hne hlt,
      dataPacketBytes_length eth⟩
  | other msg => exact ⟨h.1, extractFrame_of_type_ne h.2, rfl⟩

/-- Code that never leaves the loop runs on all frames. -/
theorem foldFrames_of_yield {g : σ → List UInt8 → ForInStep σ} {h : σ → List UInt8 → σ}
    (hg : ∀ ctx fr, g ctx fr = .yield (h ctx fr)) (frs : List (List UInt8)) (ctx : σ) :
    foldFrames g frs ctx = .yield (frs.foldl h ctx) := by
  induction frs generalizing ctx with
  | nil => rfl
  | cons fr frs ih => simp only [foldFrames, hg, ih, List.foldl_cons]

/-- **Unwrapping a transfer.**  On valid items followed by fewer than eight bytes, of less
    than `2 ^ 31` bytes in all, `rndis_drv_unwrap_data` returns and has run the callback on
    the wrapped frames in order.  `h` is what the callback does, given a frame's bytes. -/
theorem rndisDrvUnwrapData_items {onFrame : σ → Span → σ} {h : σ → List UInt8 → σ}
    (hon : ∀ ctx f, onFrame ctx f = h ctx (f.bytes m)) {items : List TransferItem}
    {trailing : List UInt8} (hvalid : ∀ item ∈ items, item.Valid) (htrail : trailing.length < 8)
    (hlt : (items.map (·.size)).sum + trailing.length < 2 ^ 31)
    (hat : At m 0 (items.flatMap (·.bytes) ++ trailing)) (ctx : σ) :
    ∃ fuel, rndisDrvUnwrapData m (items.flatMap (·.bytes) ++ trailing).length onFrame fuel ctx =
      some ((items.filterMap (·.frame?)).foldl h ctx) := by
  have hspec : ∀ item ∈ items, IsMsg item.bytes ∧ extractFrame item.bytes = item.frame? ∧
      item.bytes.length = item.size := by
    intro item hi
    have : item.size ≤ _ := List.le_sum_of_mem (List.mem_map_of_mem (f := (·.size)) hi)
    exact (hvalid item hi).bytes_spec (by omega)
  have hlen : (items.flatMap (·.bytes)).length = (items.map (·.size)).sum := by
    rw [List.length_flatMap]
    exact congrArg List.sum (List.map_congr_left fun i hi => (hspec i hi).2.2)
  have hframes : (items.map (·.bytes)).filterMap extractFrame = items.filterMap (·.frame?) := by
    rw [List.filterMap_map]
    exact List.filterMap_congr fun i hi => (hspec i hi).2.1
  rw [List.flatMap_def] at hat
  obtain ⟨s, hwalk, hctx⟩ : ∃ s, iterate (msgWalkStep m
      (items.flatMap (·.bytes) ++ trailing).length (unwrapVisit onFrame))
        ((items.map (·.bytes)).length + 1) (0, ctx) = .done s ∧
      s.2 = (foldFrames (fun ctx fr => .yield (h ctx fr))
        ((items.map (·.bytes)).filterMap extractFrame) ctx).value :=
    msgWalk_chain (p := id) (P := fun _ => True)
      (fun ctx f _ => by simp [unwrapVisit, hon])
      (by simpa using fun i hi => (hspec i hi).1) (fun _ _ _ _ => trivial) hat htrail
      (by simp [List.flatMap_def]) (by rw [List.length_append]; omega) ctx
  refine ⟨(items.map (·.bytes)).length + 1, ?_⟩
  rw [hframes, foldFrames_of_yield (fun _ _ => rfl)] at hctx
  rw [rndisDrvUnwrapData, hwalk]
  exact congrArg some hctx

/-- A callback that records the bytes and the length of every frame. -/
def recordCall (m : Mem) (calls : List (List UInt8 × Nat)) (frame : Span) :
    List (List UInt8 × Nat) :=
  calls ++ [(frame.bytes m, frame.len)]

/-- **Unwrapping undoes wrapping.**  On a transfer of valid items followed by fewer than
    eight bytes, of less than `2 ^ 31` bytes in all, `rndis_drv_unwrap_data` returns and has
    called back exactly once for each wrapped frame, in order, with its bytes and length. -/
theorem rndisDrvUnwrapData_wrapped (items : List TransferItem) (trailing : List UInt8) (m : Mem)
    (hvalid : ∀ item ∈ items, item.Valid) (htrail : trailing.length < 8)
    (hlt : (items.map (·.size)).sum + trailing.length < 2 ^ 31)
    (hat : At m 0 (items.flatMap (·.bytes) ++ trailing)) :
    ∃ fuel, rndisDrvUnwrapData m (items.flatMap (·.bytes) ++ trailing).length (recordCall m)
        fuel [] =
      some ((items.filterMap (·.frame?)).map fun eth => (eth, eth.length)) := by
  have hrecord : ∀ calls f, recordCall m calls f =
      calls ++ [(f.bytes m, (f.bytes m).length)] := by
    intro calls f
    simp [recordCall, Span.bytes]
  obtain ⟨fuel, hfuel⟩ := rndisDrvUnwrapData_items
    (h := fun calls fr => calls ++ [(fr, fr.length)]) hrecord hvalid htrail hlt hat []
  refine ⟨fuel, hfuel.trans (congrArg some ?_)⟩
  generalize items.filterMap (·.frame?) = frs
  have hfold : ∀ acc : List (List UInt8 × Nat),
      frs.foldl (fun calls fr => calls ++ [(fr, fr.length)]) acc =
        acc ++ frs.map fun eth => (eth, eth.length) := by
    induction frs with
    | nil => simp
    | cons fr frs ih => simp [ih]
  exact hfold []

/-- A three-byte frame, a message of type 2 and one trailing byte. -/
def mixedTransfer : List TransferItem :=
  [.frame [1, 2, 3] 100 (fun _ => 0), .other (le32Bytes 2 ++ le32Bytes 8)]

/-- The wrapped frame is handed over, the other message and the byte behind are not. -/
theorem rndisDrvUnwrapData_wrapped_mixed :
    ∃ fuel, rndisDrvUnwrapData (ofList (mixedTransfer.flatMap TransferItem.bytes ++ [9]))
      (mixedTransfer.flatMap TransferItem.bytes ++ [9]).length
      (recordCall (ofList (mixedTransfer.flatMap TransferItem.bytes ++ [9]))) fuel [] =
        some [([1, 2, 3], 3)] := by
  refine rndisDrvUnwrapData_wrapped mixedTransfer [9] _ ?_ (by decide) (by decide) (at_ofList _)
  intro item hi
  rcases List.mem_cons.mp hi with rfl | hi
  · exact ⟨by decide, by decide⟩
  · rw [List.mem_singleton.mp hi]
    exact ⟨⟨by decide, by decide⟩, by decide⟩

end AndroidTether
