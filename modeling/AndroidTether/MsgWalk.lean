import AndroidTether.Lib.Loop
import AndroidTether.Rndis

namespace AndroidTether

open Bytes WhileLoop

/-!
# The loop over the RNDIS messages of one transfer

`rndis_drv_unwrap_data` and both receive phases of `dhcp_discover` walk a received buffer
with the same loop: read the message length at `offset + 4`, leave when it is zero or does
not fit, hand the frame of a data packet to the code inside, advance by the length.  The
loop is written once here, with the code inside it as a parameter; `offset`, `msg_len` and
their sum are `uint32_t` and wrap.

* `msgWalkBody` — one round, with the log of what it reads;
* `msgStep` — the offset alone, which decides the control flow (`msgWalk_simulates`);
* `msgFits_cases` — the spec of one round: a message that does not wrap lies inside the
  buffer and moves the offset up, one that wraps moves it down;
* `msgWalk_halts_iff` — the loop ends unless a wrapping message is reached again;
* `msgWalk_chain` — over a chain of messages with exact lengths the loop runs the code
  inside on the frames of the data packets, in order, as a fold over lists of bytes.
-/

variable {σ : Type}

/-- One round at `s = (offset, ctx)`; `visit` is what the loop does with the frame of a data
    packet, `.done` when it leaves the loop. -/
def msgWalkBody (m : Mem) (usbLen : Nat) (visit : σ → Span → Logged (ForInStep σ))
    (s : Nat × σ) : Logged (ForInStep (Nat × σ)) :=
  if u32 (s.1 + 8) ≤ u32 usbLen then do
    let msgLen ← rdLe32 m (s.1 + 4)
    if msgLen = 0 ∨ u32 usbLen < u32 (s.1 + msgLen) then
      pure (.done s)
    else
      match ← rndisParseDataPacket m s.1 msgLen with
      | some frame =>
        match ← visit s.2 frame with
        | .done ctx => pure (.done (s.1, ctx))
        | .yield ctx => pure (.yield (u32 (s.1 + msgLen), ctx))
      | none => pure (.yield (u32 (s.1 + msgLen), s.2))
  else pure (.done s)

/-- One round, without the log of reads. -/
def msgWalkStep (m : Mem) (usbLen : Nat) (visit : σ → Span → Logged (ForInStep σ))
    (s : Nat × σ) : ForInStep (Nat × σ) :=
  (msgWalkBody m usbLen visit s).val

/-- The message length at `offset`. -/
def msgLenAt (m : Mem) (offset : Nat) : Nat := le32 m (offset + 4)

/-- The frame of the message at `offset`, if it is a data packet. -/
def frameAt (m : Mem) (offset : Nat) : Option Span :=
  (rndisParseDataPacket m offset (msgLenAt m offset)).val

/-- The loop does not leave at the message at `offset` before looking into it. -/
def MsgFits (m : Mem) (usbLen offset : Nat) : Prop :=
  u32 (offset + 8) ≤ u32 usbLen ∧ msgLenAt m offset ≠ 0 ∧
    u32 (offset + msgLenAt m offset) ≤ u32 usbLen

instance (m : Mem) (usbLen offset : Nat) : Decidable (MsgFits m usbLen offset) :=
  inferInstanceAs (Decidable (_ ∧ _))

/-- `offset + msg_len` does not fit in 32 bits. -/
def Wraps (m : Mem) (offset : Nat) : Prop := 2 ^ 32 ≤ offset + msgLenAt m offset

instance (m : Mem) (offset : Nat) : Decidable (Wraps m offset) := inferInstanceAs (Decidable (_ ≤ _))

/-- The offset alone: `ends f` tells whether the code inside leaves the loop at frame `f`. -/
def msgStep (m : Mem) (usbLen : Nat) (ends : Span → Bool) (offset : Nat) : ForInStep Nat :=
  if MsgFits m usbLen offset ∧ (frameAt m offset).any ends = false then
    .yield (u32 (offset + msgLenAt m offset))
  else .done offset

variable {m : Mem} {usbLen : Nat} {visit : σ → Span → Logged (ForInStep σ)} {ends : Span → Bool}
  {s t : Nat × σ} {o o' : Nat}

/-- One round by cases: the loop is left at this message, or passes over it, or hands its
    frame to the code inside. -/
theorem msgWalkStep_eq (m : Mem) (usbLen : Nat) (visit : σ → Span → Logged (ForInStep σ))
    (s : Nat × σ) :
    msgWalkStep m usbLen visit s =
      if MsgFits m usbLen s.1 then
        match frameAt m s.1 with
        | some f =>
          match (visit s.2 f).val with
          | .done ctx => .done (s.1, ctx)
          | .yield ctx => .yield (u32 (s.1 + msgLenAt m s.1), ctx)
        | none => .yield (u32 (s.1 + msgLenAt m s.1), s.2)
      else .done s := by
  unfold msgWalkStep msgWalkBody
  -- the condition of the `while`, then that of the `break`
  by_cases hguard : u32 (s.1 + 8) ≤ u32 usbLen
  · by_cases hbreak : msgLenAt m s.1 = 0 ∨ u32 usbLen < u32 (s.1 + msgLenAt m s.1)
    · have hfits : ¬ MsgFits m usbLen s.1 := by
        rintro ⟨-, hne, hle⟩
        omega
      have hbreak' := hbreak
      simp only [msgLenAt] at hbreak'
      rw [if_pos hguard, if_neg hfits]
      simp [hbreak']
    · have hfits : MsgFits m usbLen s.1 := ⟨hguard, by omega, by omega⟩
      have hbreak' := hbreak
      simp only [msgLenAt] at hbreak'
      rw [if_pos hguard, if_pos hfits]
      simp only [Logged.val_bind, rdLe32_val, hbreak', if_false, frameAt, msgLenAt]
      cases (rndisParseDataPacket m s.1 (le32 m (s.1 + 4))).val with
      | none => rfl
      | some f =>
        simp only [Logged.val_bind]
        cases (visit s.2 f).val <;> rfl
  · have hfits : ¬ MsgFits m usbLen s.1 := fun h => hguard h.1
    rw [if_neg hguard, if_neg hfits]
    rfl

/-- What one round reads: the message length, then what the decoder reads, then what the
    code inside reads of the frame. -/
theorem msgWalkBody_reads (m : Mem) (usbLen : Nat) (visit : σ → Span → Logged (ForInStep σ))
    (s : Nat × σ) :
    (msgWalkBody m usbLen visit s).reads =
      if u32 (s.1 + 8) ≤ u32 usbLen then
        ⟨s.1 + 4, 4⟩ ::
          if MsgFits m usbLen s.1 then
            (rndisParseDataPacket m s.1 (msgLenAt m s.1)).reads ++
              (frameAt m s.1).elim [] fun f => (visit s.2 f).reads
          else []
      else [] := by
  unfold msgWalkBody
  by_cases hguard : u32 (s.1 + 8) ≤ u32 usbLen
  · rw [if_pos hguard, if_pos hguard]
    simp only [Logged.reads_bind, rdLe32_reads, rdLe32_val, List.cons_append, List.nil_append]
    congr 1
    -- after the length, the rest is read unless the `break` is taken
    by_cases hfits : MsgFits m usbLen s.1
    · have hgo : ¬ (le32 m (s.1 + 4) = 0 ∨ u32 usbLen < u32 (s.1 + le32 m (s.1 + 4))) := by
        obtain ⟨-, hne, hle⟩ := hfits
        simp only [msgLenAt] at hne hle
        omega
      simp only [hgo, if_false, if_pos hfits, Logged.reads_bind, frameAt, msgLenAt]
      cases (rndisParseDataPacket m s.1 (le32 m (s.1 + 4))).val with
      | none => simp
      | some f =>
        simp only [Logged.reads_bind, Option.elim_some]
        cases (visit s.2 f).val <;> simp
    · have hbreak : le32 m (s.1 + 4) = 0 ∨ u32 usbLen < u32 (s.1 + le32 m (s.1 + 4)) := by
        by_contra hgo
        simp only [not_or, Nat.not_lt] at hgo
        exact hfits ⟨hguard, hgo.1, hgo.2⟩
      simp only [hbreak, if_true, if_neg hfits, Logged.reads_pure]
  · rw [if_neg hguard, if_neg hguard, Logged.reads_pure]

/-- The code inside decides from the frame alone whether the loop goes on. -/
def EndsBy (visit : σ → Span → Logged (ForInStep σ)) (ends : Span → Bool) : Prop :=
  ∀ ctx f, match (visit ctx f).val with
    | .done _ => ends f = true
    | .yield _ => ends f = false

/-- The offset evolves on its own. -/
theorem msgWalk_simulates (hends : EndsBy visit ends) :
    Simulates Prod.fst (msgWalkStep m usbLen visit) (msgStep m usbLen ends) := by
  intro s
  rw [msgWalkStep_eq]
  by_cases hfits : MsgFits m usbLen s.1
  · rw [if_pos hfits]
    cases hf : frameAt m s.1 with
    | none => simp [msgStep, hfits, hf]
    | some f =>
      have hv := hends s.2 f
      cases hval : (visit s.2 f).val with
      | done ctx =>
        rw [hval] at hv
        have hv : ends f = true := hv
        simp [hval, msgStep, hf, hv]
      | yield ctx =>
        rw [hval] at hv
        have hv : ends f = false := hv
        simp [hval, msgStep, hfits, hf, hv]
  · rw [if_neg hfits]
    exact ⟨s.1, by simp [msgStep, hfits]⟩

/-! ### One round in exact arithmetic -/

/-- **What one round can do.**  From an offset inside the buffer the loop goes on over a
    message whose header lies inside the buffer.  A message that does not wrap lies inside
    the buffer as a whole, and the offset moves up past it; one that wraps moves the offset
    down. -/
theorem msgFits_cases (hlen : usbLen ≤ rndisBufSize) (ho : o ≤ usbLen)
    (h : MsgFits m usbLen o) :
    o + 8 ≤ usbLen ∧
      ((¬ Wraps m o ∧ u32 (o + msgLenAt m o) = o + msgLenAt m o ∧
          o + msgLenAt m o ≤ usbLen ∧ 0 < msgLenAt m o) ∨
        (Wraps m o ∧ u32 (o + msgLenAt m o) + 2 ^ 32 = o + msgLenAt m o ∧
          u32 (o + msgLenAt m o) < o)) := by
  obtain ⟨hguard, hne, hle⟩ := h
  have hmsg : msgLenAt m o < 2 ^ 32 := le32_lt _ _
  simp only [rndisBufSize, u32, Wraps] at *
  rw [Nat.mod_eq_of_lt (by omega : usbLen < 2 ^ 32)] at hguard hle
  rw [Nat.mod_eq_of_lt (by omega : o + 8 < 2 ^ 32)] at hguard
  refine ⟨hguard, ?_⟩
  -- the sum fits in 32 bits, or it wraps once
  rcases Nat.lt_or_ge (o + msgLenAt m o) (2 ^ 32) with hlt | hge
  · rw [Nat.mod_eq_of_lt hlt] at hle ⊢
    exact .inl ⟨by omega, rfl, hle, by omega⟩
  · have hmod : (o + msgLenAt m o) % 2 ^ 32 = o + msgLenAt m o - 2 ^ 32 := by omega
    rw [hmod]
    exact .inr ⟨hge, by omega, by omega⟩

/-- The walk goes on where the message fits. -/
theorem msgStep_yield (h : msgStep m usbLen ends o = .yield o') :
    MsgFits m usbLen o ∧ o' = u32 (o + msgLenAt m o) := by
  unfold msgStep at h
  split at h
  · rename_i hc
    simp only [ForInStep.yield.injEq] at h
    exact ⟨hc.1, h.symm⟩
  · cases h

/-- The offset never leaves the buffer. -/
theorem msgStep_visits_le (hlen : usbLen ≤ rndisBufSize)
    (h : Visits (msgStep m usbLen ends) 0 o) : o ≤ usbLen := by
  refine h.invariant (I := (· ≤ usbLen)) (fun a b ha hab => ?_) (Nat.zero_le _)
  obtain ⟨hfits, rfl⟩ := msgStep_yield hab
  rcases (msgFits_cases hlen ha hfits).2 with ⟨-, heq, hle, -⟩ | ⟨-, -, hlt⟩ <;> omega

/-- The walk comes back to a message after that message wrapped the offset downwards. -/
def ReturnsByWrap (m : Mem) (usbLen : Nat) (ends : Span → Bool) : Prop :=
  ∃ o o', Visits (msgStep m usbLen ends) 0 o ∧ msgStep m usbLen ends o = .yield o' ∧
    Wraps m o ∧ Visits (msgStep m usbLen ends) o' o

/-- The offset's loop ends exactly when no wrapping message is reached again.  The states
    it goes on from that matter are the offsets inside the buffer. -/
theorem msgStep_halts_iff (hlen : usbLen ≤ rndisBufSize) :
    Halts (msgStep m usbLen ends) 0 ↔ ¬ ReturnsByWrap m usbLen ends := by
  rw [halts_iff_no_return (Set.finite_le_nat usbLen) fun a b ha _ => msgStep_visits_le hlen ha]
  refine not_congr (exists_congr fun b => exists_congr fun c => ?_)
  refine and_congr_right fun hb => and_congr_right fun hc => and_congr_left' ?_
  obtain ⟨hfits, rfl⟩ := msgStep_yield hc
  rcases (msgFits_cases hlen (msgStep_visits_le hlen hb) hfits).2 with
    ⟨hnw, heq, -, hpos⟩ | ⟨hw, -, hlt⟩
  · exact iff_of_false (by omega) hnw
  · exact iff_of_true hlt.le hw

/-- **Ending of the walk.**  The walk over the messages of a transfer ends exactly when it
    does not come back to a message whose length wrapped the offset. -/
theorem msgWalk_halts_iff (hends : EndsBy visit ends) (hlen : usbLen ≤ rndisBufSize) (ctx : σ) :
    Halts (msgWalkStep m usbLen visit) (0, ctx) ↔ ¬ ReturnsByWrap m usbLen ends := by
  rw [(msgWalk_simulates hends).halts_iff, msgStep_halts_iff hlen]

/-! ### Chains of messages -/

/-- A message of at least the generic header whose length field is its own length. -/
def IsMsg (msg : List UInt8) : Prop := 8 ≤ msg.length ∧ msgLenAt (ofList msg) 0 = msg.length

/-- The frame inside a message, if the message is a data packet. -/
def extractFrame (msg : List UInt8) : Option (List UInt8) :=
  (rndisParseDataPacket (ofList msg) 0 msg.length).val.map (·.bytes (ofList msg))

/-- Run `g` on a list of frames until it leaves. -/
def foldFrames (g : σ → List UInt8 → ForInStep σ) : List (List UInt8) → σ → ForInStep σ
  | [], ctx => .yield ctx
  | fr :: frs, ctx =>
    match g ctx fr with
    | .done ctx => .done ctx
    | .yield ctx => foldFrames g frs ctx

/-- In place, a message has the length and the frame that a copy of it has. -/
theorem IsMsg.in_place {msg : List UInt8} (hmsg : IsMsg msg) (h : At m o msg) :
    msgLenAt m o = msg.length ∧ (frameAt m o).map (·.bytes m) = extractFrame msg := by
  obtain ⟨h8, hself⟩ := hmsg
  have hlen : msgLenAt m o = msg.length := by
    rw [msgLenAt, h.le32 (by omega), ← hself, msgLenAt, Nat.zero_add]
  exact ⟨hlen, by rw [frameAt, hlen, rndisParseDataPacket_at h, extractFrame]⟩

/-- Over one message of a chain the walk moves to the next, or leaves as the code inside
    does on the message's frame. -/
theorem msgWalkStep_msg {msg : List UInt8} (hmsg : IsMsg msg) (h : At m o msg)
    (hin : o + msg.length ≤ usbLen) (hlt : usbLen < 2 ^ 31) (ctx : σ) :
    msgWalkStep m usbLen visit (o, ctx) =
      match frameAt m o with
      | some f =>
        match (visit ctx f).val with
        | .done ctx => .done (o, ctx)
        | .yield ctx => .yield (o + msg.length, ctx)
      | none => .yield (o + msg.length, ctx) := by
  have hlen := (hmsg.in_place h).1
  have h8 := hmsg.1
  have hnext : u32 (o + msg.length) = o + msg.length := u32_of_lt (by omega)
  have hfits : MsgFits m usbLen o := by
    rw [MsgFits, hlen, hnext, u32_of_lt (by omega : o + 8 < 2 ^ 32),
      u32_of_lt (by omega : usbLen < 2 ^ 32)]
    omega
  rw [msgWalkStep_eq, if_pos hfits, hlen, hnext]

/-- Fewer than eight bytes from the end the walk is over. -/
theorem msgWalkStep_end (hend : usbLen < o + 8) (hlt : usbLen < 2 ^ 31) (ho : o ≤ usbLen)
    (ctx : σ) : msgWalkStep m usbLen visit (o, ctx) = .done (o, ctx) := by
  rw [msgWalkStep_eq, if_neg]
  rintro ⟨hguard, -⟩
  rw [u32_of_lt (by omega : o + 8 < 2 ^ 32), u32_of_lt (by omega : usbLen < 2 ^ 32)] at hguard
  omega

/-- **The walk over a chain.**  On messages with exact lengths, followed by fewer than eight
    bytes, the walk runs the code inside on the frames of the data packets in order.  `g` is
    what that code does to the part `p` of its state, given the bytes of a frame; it need
    only do so on frames that satisfy `P`, and all frames of the chain do. -/
theorem msgWalk_chain {τ : Type} {p : σ → τ} {P : List UInt8 → Prop}
    {g : τ → List UInt8 → ForInStep τ}
    (hvisit : ∀ ctx f, P (f.bytes m) → mapStep p (visit ctx f).val = g (p ctx) (f.bytes m))
    {msgs : List (List UInt8)} {trailing : List UInt8} (hmsgs : ∀ msg ∈ msgs, IsMsg msg)
    (hP : ∀ msg ∈ msgs, ∀ fr, extractFrame msg = some fr → P fr)
    (hat : At m o (msgs.flatten ++ trailing)) (htrail : trailing.length < 8)
    (hend : o + msgs.flatten.length + trailing.length = usbLen) (hlt : usbLen < 2 ^ 31)
    (ctx : σ) :
    ∃ s, iterate (msgWalkStep m usbLen visit) (msgs.length + 1) (o, ctx) = .done s ∧
      p s.2 = (foldFrames g (msgs.filterMap extractFrame) (p ctx)).value := by
  induction msgs generalizing o ctx with
  | nil =>
    -- only the trailing bytes are left
    simp only [List.flatten_nil, List.length_nil, Nat.add_zero] at hend
    exact ⟨_, iterate_succ_done 0 (msgWalkStep_end (by omega) hlt (by omega) ctx), rfl⟩
  | cons msg msgs ih =>
    rw [List.flatten_cons, List.append_assoc, at_append] at hat
    rw [List.flatten_cons, List.length_append] at hend
    have hmsg := hmsgs msg (by simp)
    have hstep : msgWalkStep m usbLen visit (o, ctx) = _ :=
      msgWalkStep_msg hmsg hat.1 (by omega) hlt ctx
    have hframe := (hmsg.in_place hat.1).2
    have hrest : ∀ ctx, ∃ s, iterate (msgWalkStep m usbLen visit) (msgs.length + 1)
        (o + msg.length, ctx) = .done s ∧
          p s.2 = (foldFrames g (msgs.filterMap extractFrame) (p ctx)).value :=
      ih (fun x hx => hmsgs x (by simp [hx])) (fun x hx => hP x (by simp [hx])) hat.2 (by omega)
    cases hf : frameAt m o with
    | none =>
      rw [hf] at hstep hframe
      -- not a data packet: the walk passes over it
      rw [List.filterMap_cons_none hframe.symm]
      obtain ⟨s, hs, hp⟩ := hrest ctx
      exact ⟨s, (iterate_succ_yield _ hstep).trans hs, hp⟩
    | some f =>
      rw [hf] at hstep hframe
      rw [List.filterMap_cons_some hframe.symm, foldFrames]
      have hv := hvisit ctx f (hP msg (by simp) _ hframe.symm)
      rw [← hv]
      cases hval : (visit ctx f).val with
      | done c =>
        simp only [hval] at hstep
        exact ⟨_, iterate_succ_done _ hstep, rfl⟩
      | yield c =>
        simp only [hval] at hstep
        obtain ⟨s, hs, hp⟩ := hrest c
        exact ⟨s, (iterate_succ_yield _ hstep).trans hs, hp⟩

end AndroidTether
