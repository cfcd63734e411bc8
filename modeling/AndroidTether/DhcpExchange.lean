import AndroidTether.DhcpDiscover

namespace AndroidTether

open Bytes WhileLoop Tlv

/-!
# What the DHCP exchange computes

The specification of `dhcp_discover` on scripts of well-formed transfers, over lists of
messages and lists of options: no offsets, no walks, no scans.

* `IsReply` — a frame is a reply of a given message type;
* `FirstReply` — the first such frame in a window of receives;
* `dhcpDiscover_spec` — the exchange succeeds iff the first offer among the first fifty
  receives has an address and an ACK is among the next fifty, and the lease is that of the
  first ACK.
-/

/-- The copy of a frame on its own. -/
def whole (fr : List UInt8) : Span := ⟨0, fr.length⟩

/-- A DHCP reply of type `t`: a UDP frame to the client port with the cookie and the
    transaction id, whose last message type option that has a value has the value `t`. -/
def IsReply (t : UInt8) (fr : List UInt8) : Prop :=
  IsUdp (ofList fr) (whole fr) ∧ IsBootp (ofList fr) (whole fr) ∧
    msgTypeOf (frameOptions fr) = some t

instance (t : UInt8) (fr : List UInt8) : Decidable (IsReply t fr) :=
  inferInstanceAs (Decidable (_ ∧ _ ∧ _))

/-- A UDP frame holds its whole BOOTP header, and no option before the end is cut off. -/
def WellFormed (fr : List UInt8) : Prop :=
  IsUdp (ofList fr) (whole fr) →
    dhcpOffset (ofList fr) 0 + sizeofDhcpPacket ≤ fr.length ∧ complete (optionBytes fr) = true

/-! ### A frame in place and on its own -/

variable {m : Mem} {f : Span} {t : UInt8}

/-- The header fields that locate the BOOTP header do not depend on where the frame lies. -/
theorem frame_header (h15 : 15 ≤ f.len) :
    ipHdrLen m f.start = ipHdrLen (ofList (f.bytes m)) 0 ∧
      dhcpOffset m f.start = dhcpOffset (ofList (f.bytes m)) 0 := by
  have hat : At m f.start (f.bytes m) := at_slice m f.start f.len
  have hbyte : m (f.start + sizeofEthHdr) = ofList (f.bytes m) (0 + sizeofEthHdr) := by
    rw [Nat.zero_add]
    exact hat sizeofEthHdr (by simp [Span.bytes, sizeofEthHdr]; omega)
  have hihl : ipHdrLen m f.start = ipHdrLen (ofList (f.bytes m)) 0 := by
    rw [ipHdrLen, ipHdrLen, hbyte]
  exact ⟨hihl, by rw [dhcpOffset, dhcpOffset, hihl]⟩

/-- Whether a frame is UDP to port 68 is a matter of its bytes. -/
theorem isUdp_bytes (m : Mem) (f : Span) :
    IsUdp m f ↔ IsUdp (ofList (f.bytes m)) (whole (f.bytes m)) := by
  have hat : At m f.start (f.bytes m) := at_slice m f.start f.len
  have hlen : (f.bytes m).length = f.len := slice_length _ _ _
  simp only [IsUdp, whole, hlen]
  refine and_congr_right fun h => ?_
  simp only [sizeofEthHdr, sizeofDhcpPacket] at h ⊢
  rw [hat.be16 (i := 12) (by omega), Nat.add_assoc, hat (14 + 9) (by omega)]

/-- So is whether it is a reply to our transaction. -/
theorem isBootp_bytes (h15 : 15 ≤ f.len)
    (hfit : dhcpOffset m f.start + sizeofDhcpPacket ≤ f.len) :
    IsBootp m f ↔ IsBootp (ofList (f.bytes m)) (whole (f.bytes m)) := by
  have hat : At m f.start (f.bytes m) := at_slice m f.start f.len
  have hlen : (f.bytes m).length = f.len := slice_length _ _ _
  obtain ⟨hihl, hoff⟩ := frame_header (m := m) h15
  have hfit' := hfit
  simp only [dhcpOffset, sizeofEthHdr, sizeofDhcpPacket] at hfit'
  have hport := hat.be16 (i := sizeofEthHdr + ipHdrLen m f.start + 2)
    (by simp only [sizeofEthHdr]; omega)
  have hmagic := hat.be32 (i := dhcpOffset m f.start + 236)
    (by simp only [dhcpOffset, sizeofEthHdr]; omega)
  have hid := hat.be32 (i := dhcpOffset m f.start + 4)
    (by simp only [dhcpOffset, sizeofEthHdr]; omega)
  simp only [IsBootp, whole, ← hihl, ← hoff, Nat.zero_add]
  rw [← hport, ← hmagic, ← hid]
  simp only [Nat.add_assoc]

/-- The option bytes the phases look at are the option bytes of the frame. -/
theorem options_bytes (h15 : 15 ≤ f.len)
    (hfit : dhcpOffset m f.start + sizeofDhcpPacket ≤ f.len) :
    slice m (f.start + dhcpOffset m f.start + sizeofDhcpPacket)
        (f.len - (dhcpOffset m f.start + sizeofDhcpPacket)) = optionBytes (f.bytes m) := by
  have hoff := (frame_header (m := m) h15).2
  rw [optionBytes, ← hoff, Span.bytes, drop_slice hfit, Nat.add_assoc]

/-- And so is the address it offers. -/
theorem yiaddr_bytes (h15 : 15 ≤ f.len)
    (hfit : dhcpOffset m f.start + sizeofDhcpPacket ≤ f.len) :
    yiaddrAt m f = yiaddrOf (f.bytes m) := by
  have hat : At m f.start (f.bytes m) := at_slice m f.start f.len
  have hlen : (f.bytes m).length = f.len := slice_length _ _ _
  simp only [sizeofDhcpPacket] at hfit
  have hoff := (frame_header (m := m) h15).2
  rw [yiaddrAt, yiaddrOf, ← hoff, Nat.add_assoc, inAddrAt_at hat (by omega)]

/-- **A phase sees what the specification sees.**  On a well-formed frame the checks, the
    scan and the address in place are those of the specification. -/
theorem replyType_bytes (ht : t ≠ 0) (hlt : f.len < 2 ^ 64) (hwf : WellFormed (f.bytes m)) :
    (replyType m f = some t ↔ IsReply t (f.bytes m)) ∧
      (IsReply t (f.bytes m) → yiaddrAt m f = yiaddrOf (f.bytes m)) := by
  have hlen : (f.bytes m).length = f.len := slice_length _ _ _
  by_cases hudp : IsUdp m f
  · obtain ⟨hfit, hcomplete⟩ := hwf ((isUdp_bytes m f).mp hudp)
    have h15 : 15 ≤ f.len := by
      have := hudp.1
      simp only [sizeofEthHdr, sizeofDhcpPacket] at this
      omega
    rw [hlen, ← (frame_header h15).2] at hfit
    refine ⟨?_, fun _ => yiaddr_bytes h15 hfit⟩
    rw [← options_bytes h15 hfit] at hcomplete
    rw [replyType, inspectFrame_val, IsReply, ← isUdp_bytes, ← isBootp_bytes h15 hfit]
    by_cases hbootp : IsBootp m f
    · rw [if_pos ⟨hudp, hbootp⟩, Option.map_some, DhcpView.options, sizeSub_of_le hfit hlt,
        optionScan_val ackOption_onValue hcomplete, options_bytes h15 hfit, foldl_ackOption]
      simp only [Option.some.injEq, hudp, hbootp, true_and, frameOptions]
      -- a frame without a message type counts as type 0, which no reply has
      cases msgTypeOf (splitOptions (optionBytes (f.bytes m))) with
      | none => simp [ht.symm]
      | some t' => simp
    · rw [if_neg (fun h => hbootp h.2)]
      simp [hbootp]
  · have hno : ¬ IsReply t (f.bytes m) := fun h => hudp ((isUdp_bytes m f).mpr h.1)
    rw [replyType, inspectFrame_val, if_neg (fun h => hudp h.1)]
    simp [hno]

/-! ### Scripts -/

/-- The receive delivered a chain of messages with exact lengths, whose frames are well
    formed. -/
structure Recv.IsChain (r : Recv) (msgs : List (List UInt8)) : Prop where
  isMsg : ∀ msg ∈ msgs, IsMsg msg
  at_mem : At r.mem 0 msgs.flatten
  ret_eq : r.ret = msgs.flatten.length
  wellFormed : ∀ msg ∈ msgs, ∀ fr, extractFrame msg = some fr → WellFormed fr

/-- Every receive that delivered something delivered a chain. -/
def IsScript (rx : Nat → Recv) (chains : Nat → List (List UInt8)) : Prop :=
  ∀ k, 0 < (rx k).ret → (rx k).IsChain (chains k)

/-- The frames a receive delivered, in order. -/
def framesAt (rx : Nat → Recv) (chains : Nat → List (List UInt8)) (k : Nat) :
    List (List UInt8) :=
  if 0 < (rx k).ret then (chains k).filterMap extractFrame else []

/-- `fr`, in receive `k`, is the first reply of type `t` in the `n` receives from `start` on. -/
structure FirstReply (frames : Nat → List (List UInt8)) (t : UInt8) (start n k : Nat)
    (fr : List UInt8) : Prop where
  window : start ≤ k ∧ k < start + n
  find : (frames k).find? (fun g => IsReply t g) = some fr
  before : ∀ j, start ≤ j → j < k → (frames j).find? (fun g => IsReply t g) = none

variable {σ β : Type} {visit : Mem → σ → Span → Logged (ForInStep σ)} {found : σ → Bool}
  {p : σ → Option β} {val : List UInt8 → β} {fuel n k : Nat} {rx : Nat → Recv}
  {chains frames : Nat → List (List UInt8)} {s : σ}

/-- There is at most one first reply. -/
theorem FirstReply.unique {start k k' : Nat} {fr fr' : List UInt8}
    (h : FirstReply frames t start n k fr) (h' : FirstReply frames t start n k' fr') :
    k = k' ∧ fr = fr' := by
  have hk : k = k' := by
    rcases Nat.lt_trichotomy k k' with hlt | heq | hlt
    · have := h'.before k h.window.1 hlt
      rw [h.find] at this
      cases this
    · exact heq
    · have := h.before k' h'.window.1 hlt
      rw [h'.find] at this
      cases this
  subst hk
  have hfr := h'.find
  rw [h.find, Option.some.injEq] at hfr
  exact ⟨rfl, hfr⟩

/-- The first reply in a window whose first receive has one. -/
theorem FirstReply.head {start : Nat} {fr : List UInt8}
    (h : (frames start).find? (fun g => IsReply t g) = some fr) :
    FirstReply frames t start (n + 1) start fr :=
  ⟨by omega, h, fun j hj hlt => by omega⟩

/-- The first reply in a window whose first receive has none. -/
theorem FirstReply.tail {start : Nat} {fr : List UInt8}
    (hnone : (frames start).find? (fun g => IsReply t g) = none)
    (h : FirstReply frames t (start + 1) n k fr) : FirstReply frames t start (n + 1) k fr := by
  obtain ⟨hwindow, hfind, hbefore⟩ := h
  refine ⟨by omega, hfind, fun j hj hlt => ?_⟩
  rcases Nat.eq_or_lt_of_le hj with rfl | hlt'
  · exact hnone
  · exact hbefore j hlt' hlt

/-! ### A phase over a script -/

/-- What a phase does with a frame, as far as the specification sees it: a reply ends the
    phase with the value `val` of the reply. -/
def replyStep (t : UInt8) (val : List UInt8 → β) (x : Option β) (fr : List UInt8) :
    ForInStep (Option β) :=
  if IsReply t fr then .done (some (val fr)) else .yield x

/-- Over a list of frames that is the first reply. -/
theorem foldFrames_replyStep (frs : List (List UInt8)) :
    (foldFrames (replyStep t val) frs none).value =
      (frs.find? (fun g => IsReply t g)).map val := by
  induction frs with
  | nil => rfl
  | cons fr frs ih =>
    by_cases hfr : IsReply t fr
    · simp [foldFrames, replyStep, hfr, ForInStep.value]
    · simp only [foldFrames, replyStep, if_neg hfr]
      rw [ih, List.find?_cons_of_neg (by simpa using hfr)]

/-- The part `p` of a phase's state is what the specification sees of it. -/
structure PhaseSpec (visit : Mem → σ → Span → Logged (ForInStep σ)) (found : σ → Bool)
    (t : UInt8) (p : σ → Option β) (val : List UInt8 → β) : Prop where
  found : ∀ s, found s = (p s).isSome
  visit : ∀ m s f, WellFormed (f.bytes m) ∧ (f.bytes m).length < 2 ^ 64 →
    mapStep p (visit m s f).val = replyStep t val (p s) (f.bytes m)

/-- Frames are shorter than `size_t` allows. -/
theorem extractFrame_length_lt {msg fr : List UInt8} (h : extractFrame msg = some fr) :
    fr.length < 2 ^ 64 := by
  obtain ⟨f, hf, rfl⟩ := Option.map_eq_some_iff.mp h
  have := rndisParseDataPacket_len_lt hf
  rw [Span.bytes, slice_length]
  omega

/-- A chain has at most one message for every eight bytes. -/
theorem length_flatten_of_isMsg {msgs : List (List UInt8)} (h : ∀ msg ∈ msgs, IsMsg msg) :
    8 * msgs.length ≤ msgs.flatten.length := by
  induction msgs with
  | nil => simp
  | cons msg msgs ih =>
    have h8 := (h msg (by simp)).1
    have := ih fun x hx => h x (by simp [hx])
    rw [List.flatten_cons, List.length_append, List.length_cons]
    omega

/-- The walk over one transfer finds the first reply in it. -/
theorem PhaseSpec.walk (h : PhaseSpec visit found t p val) {r : Recv} {msgs : List (List UInt8)}
    (hchain : r.IsChain msgs) (hfuel : rndisBufSize / 8 < fuel) (hs : p s = none) :
    ∃ s', iterate (msgWalkStep r.mem r.ret.toNat (visit r.mem)) fuel (0, s) = .done s' ∧
      p s'.2 = ((msgs.filterMap extractFrame).find? (fun g => IsReply t g)).map val := by
  have hret : r.ret.toNat = msgs.flatten.length := by rw [hchain.ret_eq, Int.toNat_natCast]
  have hle := r.ret_le
  have h8 := length_flatten_of_isMsg hchain.isMsg
  simp only [rndisBufSize] at hle hfuel
  have hat : At r.mem 0 (msgs.flatten ++ []) := by simpa using hchain.at_mem
  obtain ⟨s', hwalk, hp⟩ : ∃ s', iterate (msgWalkStep r.mem r.ret.toNat (visit r.mem))
      (msgs.length + 1) (0, s) = .done s' ∧
        p s'.2 = (foldFrames (replyStep t val) (msgs.filterMap extractFrame) (p s)).value :=
    msgWalk_chain (P := fun fr => WellFormed fr ∧ fr.length < 2 ^ 64)
      (fun ctx f hf => h.visit r.mem ctx f hf) hchain.isMsg
      (fun msg hmsg fr hfr => ⟨hchain.wellFormed msg hmsg fr hfr, extractFrame_length_lt hfr⟩)
      hat (by simp) (by simp [hret]) (by omega) s
  refine ⟨s', iterate_done_mono (by omega) hwalk, ?_⟩
  rw [hp, hs, foldFrames_replyStep]

/-- **A phase finds the first reply in its window**, and ends after the receive that holds it;
    without one it uses up its attempts. -/
theorem PhaseSpec.recvLoop (h : PhaseSpec visit found t p val) (hscript : IsScript rx chains)
    (hfuel : rndisBufSize / 8 < fuel) (hs : p s = none) :
    ∃ s' k', AndroidTether.recvLoop fuel rx visit found n k s = some (s', k') ∧
      ((∃ j fr, FirstReply (framesAt rx chains) t k n j fr ∧ k' = j + 1 ∧ p s' = some (val fr)) ∨
        ((¬ ∃ j fr, FirstReply (framesAt rx chains) t k n j fr) ∧ p s' = none)) := by
  induction n generalizing k s with
  | zero =>
    refine ⟨s, k, rfl, .inr ⟨?_, hs⟩⟩
    rintro ⟨j, fr, hj⟩
    have := hj.window
    omega
  | succ n ih =>
    -- the rest of the window, when receive `k` has no reply
    have hnext : (framesAt rx chains k).find? (fun g => IsReply t g) = none → ∀ v, p v = none →
        ∃ s' k', AndroidTether.recvLoop fuel rx visit found n (k + 1) v = some (s', k') ∧
          ((∃ j fr, FirstReply (framesAt rx chains) t k (n + 1) j fr ∧ k' = j + 1 ∧
            p s' = some (val fr)) ∨
          ((¬ ∃ j fr, FirstReply (framesAt rx chains) t k (n + 1) j fr) ∧ p s' = none)) := by
      intro hnone v hv
      obtain ⟨s', k', hloop, hres⟩ := ih hv (k := k + 1)
      refine ⟨s', k', hloop, ?_⟩
      rcases hres with ⟨j, fr, hfirst, hk', hp⟩ | ⟨hno, hp⟩
      · exact .inl ⟨j, fr, hfirst.tail hnone, hk', hp⟩
      · refine .inr ⟨?_, hp⟩
        rintro ⟨j, fr, ⟨hkj, hjn⟩, hfind, hbefore⟩
        have hne : k ≠ j := by
          rintro rfl
          rw [hnone] at hfind
          cases hfind
        exact hno ⟨j, fr, ⟨by omega, by omega⟩, hfind, fun i hi => hbefore i (by omega)⟩
    rw [AndroidTether.recvLoop]
    by_cases hret : (rx k).ret ≤ 0
    · simp only [hret, if_true]
      exact hnext (by simp [framesAt, hret]) s hs
    · obtain ⟨⟨o, v⟩, hwalk, hp⟩ := h.walk (hscript k (by omega)) hfuel hs
      simp only [hret, if_false, hwalk, h.found v]
      have hframes : framesAt rx chains k = (chains k).filterMap extractFrame := by
        rw [framesAt, if_pos (by omega)]
      rw [← hframes] at hp
      cases hfind : (framesAt rx chains k).find? (fun g => IsReply t g) with
      | none =>
        rw [hfind, Option.map_none] at hp
        have hv : p v = none := hp
        simp only [hv, Option.isSome_none, Bool.false_eq_true, if_false]
        exact hnext hfind v hv
      | some fr =>
        rw [hfind, Option.map_some] at hp
        have hv : p v = some (val fr) := hp
        simp only [hv, Option.isSome_some, if_true]
        exact ⟨v, k + 1, rfl, .inl ⟨k, fr, FirstReply.head hfind, rfl, hv⟩⟩

/-- A phase that takes the address of the reply, and is otherwise seen not to change. -/
theorem PhaseSpec.of_yiaddr {c : InAddr → β} (ht : t ≠ 0)
    (hends : ∀ m, EndsBy (visit m) fun f => replyType m f = some t)
    (hfound : ∀ s, found s = (p s).isSome)
    (hyield : ∀ m s f s', (visit m s f).val = .yield s' → p s' = p s)
    (hdone : ∀ m s f s', (visit m s f).val = .done s' → p s' = some (c (yiaddrAt m f))) :
    PhaseSpec visit found t p fun fr => c (yiaddrOf fr) where
  found := hfound
  visit := by
    rintro m s f ⟨hwf, hlt⟩
    rw [Span.bytes, slice_length] at hlt
    obtain ⟨htype, haddr⟩ := replyType_bytes ht hlt hwf
    have hend := hends m s f
    cases hv : (visit m s f).val with
    | done s' =>
      rw [hv] at hend
      have hreply := htype.mp (of_decide_eq_true hend)
      rw [mapStep_done, replyStep, if_pos hreply, hdone m s f s' hv, haddr hreply]
    | yield s' =>
      rw [hv] at hend
      have hno : ¬ IsReply t (f.bytes m) := fun h => of_decide_eq_false hend (htype.mpr h)
      rw [mapStep_yield, replyStep, if_neg hno, hyield m s f s' hv]

/-- The address of the offer, once there is one. -/
def OfferVars.offered (s : OfferVars) : Option InAddr :=
  if s.foundOffer then some s.offeredAddr else none

/-- The address of the lease, once there is one. -/
def AckVars.leased (s : AckVars) : Option CStr := if s.acked then some s.lease.ip else none

/-- The address of an offer that was found. -/
theorem OfferVars.offeredAddr_eq {s : OfferVars} {a : InAddr} (h : s.offered = some a) :
    s.offeredAddr = a := by
  rw [OfferVars.offered] at h
  split at h
  · exact Option.some.inj h
  · cases h

/-- A lease is there once an ACK has been taken. -/
theorem AckVars.leased_eq_some {s : AckVars} {ip : CStr} :
    s.leased = some ip ↔ s.acked = true ∧ s.lease.ip = ip := by
  rw [AckVars.leased]
  cases s.acked <;> simp

/-- Before that there is none. -/
theorem AckVars.leased_eq_none {s : AckVars} : s.leased = none ↔ s.acked = false := by
  rw [AckVars.leased]
  cases s.acked <;> simp

/-- The offer phase takes the first offer. -/
theorem offerPhaseSpec : PhaseSpec offerVisit OfferVars.foundOffer 2 OfferVars.offered yiaddrOf := by
  refine PhaseSpec.of_yiaddr (c := id) (by decide) offerVisit_endsBy ?_ ?_ ?_
  · intro s
    cases h : s.foundOffer <;> simp [OfferVars.offered, h]
  · intro m s f s' h
    obtain ⟨hfound, haddr⟩ := offerVisit_yield h
    rw [OfferVars.offered, hfound, haddr, OfferVars.offered]
  · intro m s f s' h
    obtain ⟨hfound, haddr⟩ := offerVisit_done h
    rw [OfferVars.offered, if_pos hfound, haddr, id_eq]

/-- The second phase takes the first ACK. -/
theorem ackPhaseSpec :
    PhaseSpec ackVisit AckVars.acked 5 AckVars.leased fun fr => inetNtoa (yiaddrOf fr) := by
  refine PhaseSpec.of_yiaddr (by decide) ackVisit_endsBy ?_ ?_ ?_
  · intro s
    cases h : s.acked <;> simp [AckVars.leased, h]
  · intro m s f s' h
    rw [ackVisit_yield h]
  · intro m s f s' h
    obtain ⟨hacked, hlease⟩ := ackVisit_done h
    rw [AckVars.leased, if_pos hacked, hlease, leaseOf, strlcpy_inetNtoa]

/-! ### The exchange over a script -/

/-- When both transfers can be sent the exchange is its two phases. -/
theorem dhcpDiscover_phases (mac : Mac) {tx : Nat → Int} (ethBuf rndisBuf : Mem)
    (lease : DhcpLease) (h0 : 0 ≤ tx 0) (h1 : 0 ≤ tx 1) {offer : OfferVars} {ack : AckVars}
    {k k' : Nat} (hoffer : recvLoop fuel rx offerVisit OfferVars.foundOffer 50 0 .init =
      some (offer, k))
    (hack : recvLoop fuel rx ackVisit AckVars.acked 50 k ⟨offer.opts, lease, false⟩ =
      some (ack, k')) :
    ∃ sent sent' : List (List UInt8), dhcpDiscover fuel mac tx rx ethBuf rndisBuf lease =
      if offer.offeredAddr = .zero then some ⟨-1, lease, sent⟩
      else if ack.acked then some ⟨0, ack.lease, sent'⟩
      else some ⟨-1, ack.lease, sent'⟩ := by
  -- nothing on the way to a phase can fail: the frames fit in their buffers
  have hdret : (dhcpBuildDiscover ethBufSize mac xid).ret = 300 :=
    dhcpBuildDiscover_ret mac xid (by decide)
  have hdlen : ((dhcpBuildDiscover ethBufSize mac xid).packet ethBuf).length = 300 := by
    rw [Built.packet_length, hdret]
    rfl
  have hdpkt : (rndisBuildDataPacket rndisBufSize
      ((dhcpBuildDiscover ethBufSize mac xid).packet ethBuf)).ret = 344 := by
    rw [rndisBuildDataPacket_ret (by rw [hdlen]; decide) (by rw [hdlen]; decide), hdlen]
    rfl
  have hrret : ∀ a b, (dhcpBuildRequest ethBufSize mac xid a b).ret = 303 :=
    fun a b => (dhcpBuildRequest_options mac xid a b ethBuf (by decide)).1
  have hrlen : ∀ a b m, ((dhcpBuildRequest ethBufSize mac xid a b).packet m).length = 303 := by
    intro a b m
    rw [Built.packet_length, hrret]
    rfl
  have hrpkt : ∀ a b m, (rndisBuildDataPacket rndisBufSize
      ((dhcpBuildRequest ethBufSize mac xid a b).packet m)).ret = 347 := by
    intro a b m
    rw [rndisBuildDataPacket_ret (by rw [hrlen]; decide) (by rw [hrlen]; decide), hrlen]
    rfl
  have htx0 : ¬ tx 0 < 0 := by omega
  have htx1 : ¬ tx 1 < 0 := by omega
  have hpos : ¬ (300 : Int) < 0 ∧ ¬ (344 : Int) < 0 ∧ ¬ (303 : Int) < 0 ∧ ¬ (347 : Int) < 0 := by
    decide
  simp only [dhcpDiscover, hdret, hdpkt, hrret, hrpkt, htx0, htx1, hpos, if_false, hoffer, hack]
  exact ⟨_, _, rfl⟩

/-- The replies that lead to a lease: the first offer, which has an address, and the first ACK
    after it. -/
structure Granted (frames : Nat → List (List UInt8)) (k : Nat) (offer : List UInt8) (j : Nat)
    (ack : List UInt8) : Prop where
  offered : FirstReply frames 2 0 50 k offer
  addr : yiaddrOf offer ≠ .zero
  acked : FirstReply frames 5 (k + 1) 50 j ack

/-- There is at most one such pair. -/
theorem Granted.unique {j j' k' : Nat} {offer ack offer' ack' : List UInt8}
    (h : Granted frames k offer j ack) (h' : Granted frames k' offer' j' ack') : ack = ack' := by
  obtain ⟨rfl, -⟩ := h.offered.unique h'.offered
  exact (h.acked.unique h'.acked).2

/-- How the exchange ends: with the lease of the replies that grant one, or with -1 when there
    are none. -/
theorem dhcpDiscover_outcome (mac : Mac) {tx : Nat → Int} (ethBuf rndisBuf : Mem)
    (lease : DhcpLease) (hscript : IsScript rx chains) (h0 : 0 ≤ tx 0) (h1 : 0 ≤ tx 1)
    (hfuel : rndisBufSize / 8 < fuel) :
    ∃ r, dhcpDiscover fuel mac tx rx ethBuf rndisBuf lease = some r ∧
      ((∃ k offer j ack, Granted (framesAt rx chains) k offer j ack ∧ r.ret = 0 ∧
          r.lease.ip = inetNtoa (yiaddrOf ack)) ∨
        r.ret = -1 ∧ ¬ ∃ k offer j ack, Granted (framesAt rx chains) k offer j ack) := by
  obtain ⟨offer, k, hoffer, hfirst⟩ : ∃ s' k',
      recvLoop fuel rx offerVisit OfferVars.foundOffer 50 0 .init = some (s', k') ∧ _ :=
    offerPhaseSpec.recvLoop hscript hfuel rfl
  obtain ⟨ack, k', hack, hfirst'⟩ : ∃ s' k', recvLoop fuel rx ackVisit AckVars.acked 50 k
      ⟨offer.opts, lease, false⟩ = some (s', k') ∧ _ :=
    ackPhaseSpec.recvLoop hscript hfuel rfl
  obtain ⟨sent, sent', hrun⟩ := dhcpDiscover_phases mac ethBuf rndisBuf lease h0 h1 hoffer hack
  rw [hrun]
  rcases hfirst with ⟨j, fr, hj, rfl, hp⟩ | ⟨hno, hp⟩
  · -- an offer was found, in receive `j`
    have haddr : offer.offeredAddr = yiaddrOf fr := OfferVars.offeredAddr_eq hp
    by_cases hzero : yiaddrOf fr = .zero
    · rw [haddr, if_pos hzero]
      refine ⟨_, rfl, .inr ⟨rfl, ?_⟩⟩
      rintro ⟨k₀, offer₀, j₀, ack₀, hgranted⟩
      apply hgranted.addr
      rw [(hgranted.offered.unique hj).2, hzero]
    · rw [haddr, if_neg hzero]
      rcases hfirst' with ⟨i, g, hi, -, hp'⟩ | ⟨hno', hp'⟩
      · -- and an ACK, in receive `i`
        obtain ⟨hacked, hip⟩ := AckVars.leased_eq_some.mp hp'
        rw [if_pos hacked]
        exact ⟨_, rfl, .inl ⟨j, fr, i, g, ⟨hj, hzero, hi⟩, rfl, hip⟩⟩
      · rw [AckVars.leased_eq_none.mp hp']
        refine ⟨_, rfl, .inr ⟨rfl, ?_⟩⟩
        rintro ⟨k₀, offer₀, j₀, ack₀, hgranted⟩
        obtain ⟨rfl, -⟩ := hgranted.offered.unique hj
        exact hno' ⟨j₀, ack₀, hgranted.acked⟩
  · -- no offer: the address is still zero
    have hzero : offer.offeredAddr = .zero := by
      rcases offerPhase.recvLoop_cases ⟨rfl, rfl⟩ hoffer with ⟨hI, -⟩ | ⟨_, _, _, -, -, -, -, -, hv⟩
      · exact hI.2
      · rw [OfferVars.offered, if_pos (offerVisit_done hv).1] at hp
        cases hp
    rw [if_pos hzero]
    refine ⟨_, rfl, .inr ⟨rfl, ?_⟩⟩
    rintro ⟨k₀, offer₀, j₀, ack₀, hgranted⟩
    exact hno ⟨k₀, offer₀, hgranted.offered⟩

/-- **What the exchange computes.**  On a script of well-formed transfers, with both sends
    succeeding, `dhcp_discover` returns; it returns 0 iff the first offer among the first
    fifty receives has an address and there is an ACK in the fifty receives after it; and
    then the lease is for the address of the first such ACK. -/
theorem dhcpDiscover_spec (mac : Mac) (tx : Nat → Int) (rx : Nat → Recv)
    (ethBuf rndisBuf : Mem) (lease : DhcpLease) (chains : Nat → List (List UInt8)) (fuel : Nat)
    (hscript : IsScript rx chains) (h0 : 0 ≤ tx 0) (h1 : 0 ≤ tx 1)
    (hfuel : rndisBufSize / 8 < fuel) :
    ∃ r, dhcpDiscover fuel mac tx rx ethBuf rndisBuf lease = some r ∧
      (r.ret = 0 ↔
        ∃ k offer, FirstReply (framesAt rx chains) 2 0 50 k offer ∧ yiaddrOf offer ≠ .zero ∧
          ∃ j ack, FirstReply (framesAt rx chains) 5 (k + 1) 50 j ack) ∧
      ∀ k offer j ack, FirstReply (framesAt rx chains) 2 0 50 k offer →
        yiaddrOf offer ≠ .zero → FirstReply (framesAt rx chains) 5 (k + 1) 50 j ack →
          r.lease.ip = inetNtoa (yiaddrOf ack) := by
  obtain ⟨r, hr, houtcome⟩ := dhcpDiscover_outcome mac ethBuf rndisBuf lease hscript h0 h1 hfuel
  refine ⟨r, hr, ?_⟩
  rcases houtcome with ⟨k, offer, j, ack, hgranted, hret, hip⟩ | ⟨hret, hno⟩
  · refine ⟨iff_of_true hret ⟨k, offer, hgranted.offered, hgranted.addr, j, ack, hgranted.acked⟩, ?_⟩
    intro k₀ offer₀ j₀ ack₀ hoffer haddr hack
    rw [hip, hgranted.unique ⟨hoffer, haddr, hack⟩]
  · refine ⟨iff_of_false (by rw [hret]; decide) ?_, ?_⟩
    · rintro ⟨k₀, offer₀, hoffer, haddr, j₀, ack₀, hack⟩
      exact hno ⟨k₀, offer₀, j₀, ack₀, hoffer, haddr, hack⟩
    · intro k₀ offer₀ j₀ ack₀ hoffer haddr hack
      exact absurd ⟨k₀, offer₀, j₀, ack₀, hoffer, haddr, hack⟩ hno

/-- The messages of `exchange`, one a receive. -/
def exchangeChain (offered acked : InAddr) (k : Nat) : List (List UInt8) :=
  [dataPacketBytes (if k = 0 then bootpReply 2 offered else bootpReply 5 acked)]

/-- A wrapped reply is found. -/
theorem extractFrame_bootpReply (t : UInt8) (yiaddr : InAddr) :
    extractFrame (dataPacketBytes (bootpReply t yiaddr)) = some (bootpReply t yiaddr) :=
  extractFrame_dataPacketBytes (List.ne_nil_of_length_pos (by rw [bootpReply_length]; decide))
    (by rw [bootpReply_length]; decide)

/-- A receive of one wrapped frame is a chain of one message. -/
theorem isScript_exchange {offered acked : InAddr} (hoffer : WellFormed (bootpReply 2 offered))
    (hack : WellFormed (bootpReply 5 acked)) :
    IsScript (exchange offered acked) (exchangeChain offered acked) := by
  intro k _
  refine ⟨?_, ?_, ?_, ?_⟩
  · rw [exchangeChain]
    split <;> simpa using isMsg_dataPacketBytes (by rw [bootpReply_length]; decide)
  · simp only [exchangeChain, List.flatten_cons, List.flatten_nil, List.append_nil]
    exact at_ofList _
  · simp only [exchangeChain, List.flatten_cons, List.flatten_nil, List.append_nil]
    rfl
  · intro msg hmsg g hg
    rw [List.mem_singleton.mp hmsg] at hg
    split at hg <;> rw [extractFrame_bootpReply, Option.some.injEq] at hg
    · exact hg ▸ hoffer
    · exact hg ▸ hack

/-- The frame each receive of `exchange` delivers. -/
theorem framesAt_exchange (offered acked : InAddr) (k : Nat) :
    framesAt (exchange offered acked) (exchangeChain offered acked) k =
      [if k = 0 then bootpReply 2 offered else bootpReply 5 acked] := by
  have hret : 0 < (exchange offered acked k).ret := by
    show (0 : Int) < ((dataPacketBytes _).length : Nat)
    rw [dataPacketBytes_length]
    simp only [sizeofRndisDataPacket]
    omega
  rw [framesAt, if_pos hret, exchangeChain]
  split <;> rw [List.filterMap_cons_some (extractFrame_bootpReply _ _), List.filterMap_nil]

/-- The exchange for 192.168.42.100 leases it. -/
theorem dhcpDiscover_spec_exchange :
    ∃ r, dhcpDiscover 4097 (Vector.replicate 6 0) (fun _ => 0)
        (exchange ⟨192, 168, 42, 100⟩ ⟨192, 168, 42, 100⟩) (fun _ => 0) (fun _ => 0)
        ⟨[], [], [], [], []⟩ = some r ∧
      r.ret = 0 ∧ r.lease.ip = "192.168.42.100".toList := by
  have hwf : ∀ t : UInt8, t = 2 ∨ t = 5 → WellFormed (bootpReply t ⟨192, 168, 42, 100⟩) := by
    rintro t (rfl | rfl) - <;> exact ⟨by decide +kernel, by decide +kernel⟩
  have hscript := isScript_exchange (hwf 2 (.inl rfl)) (hwf 5 (.inr rfl))
  have hoffer : FirstReply (framesAt (exchange ⟨192, 168, 42, 100⟩ ⟨192, 168, 42, 100⟩)
      (exchangeChain ⟨192, 168, 42, 100⟩ ⟨192, 168, 42, 100⟩)) 2 0 50 0
      (bootpReply 2 ⟨192, 168, 42, 100⟩) := by
    have hreply : IsReply 2 (bootpReply 2 ⟨192, 168, 42, 100⟩) := by decide +kernel
    exact FirstReply.head (n := 49) (by rw [framesAt_exchange]; simp [hreply])
  have hack : FirstReply (framesAt (exchange ⟨192, 168, 42, 100⟩ ⟨192, 168, 42, 100⟩)
      (exchangeChain ⟨192, 168, 42, 100⟩ ⟨192, 168, 42, 100⟩)) 5 (0 + 1) 50 1
      (bootpReply 5 ⟨192, 168, 42, 100⟩) := by
    have hreply : IsReply 5 (bootpReply 5 ⟨192, 168, 42, 100⟩) := by decide +kernel
    exact FirstReply.head (n := 49) (by rw [framesAt_exchange]; simp [hreply])
  have haddr : yiaddrOf (bootpReply 2 ⟨192, 168, 42, 100⟩) ≠ .zero := by decide +kernel
  obtain ⟨r, hr, hret, hip⟩ := dhcpDiscover_spec (Vector.replicate 6 0) (fun _ => 0) _
    (fun _ => 0) (fun _ => 0) ⟨[], [], [], [], []⟩ _ 4097 hscript (by decide) (by decide) (by decide)
  refine ⟨r, hr, hret.mpr ⟨0, _, hoffer, haddr, 1, _, hack⟩, ?_⟩
  rw [hip 0 _ 1 _ hoffer haddr hack]
  decide +kernel

end AndroidTether
