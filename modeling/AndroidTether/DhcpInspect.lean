import AndroidTether.DhcpDiscover

namespace AndroidTether

open Bytes WhileLoop Tlv

/-!
# What `dhcp_discover` reads of a frame

The two phases of `dhcp_discover` scan the options of a frame inline, and `dhcp_parse_options`
walks the same bytes once more.  The scans look at an option before they know that it fits.

* `optionScan_agrees_iff` — a scan finds what the options visited by `dhcp_parse_options` say,
  unless an option that is cut off says something else;
* `optionScan_within_iff` — a scan stays inside the options unless one is cut off before the
  value bytes it looks at; `dhcpParseOptions_reads` — `dhcp_parse_options` always does;
* `dhcpInspection_within_iff` — when a phase stays inside the frame.
-/

/-! ### The options that are visited -/

/-- Keep the option. -/
def recordOption : OnOption (List Opt) := fun m a tag olen os =>
  pure (os ++ [⟨tag, slice m a olen⟩])

/-- The options that the walk of `dhcp_parse_options` visits. -/
def visitedOptions (m : Mem) (opts len : Nat) : List Opt :=
  (walkOptions recordOption m opts len []).val

/-- A recorder of options looks at the tag and the value alone. -/
theorem recordOption_onValue : OnValue recordOption := by
  intro m a tag value os h
  show os ++ [_] = os ++ [_]
  rw [at_iff_slice.mp h, slice_ofList]

/-- The visited options are the complete ones. -/
theorem visitedOptions_eq (m : Mem) (opts len : Nat) :
    visitedOptions m opts len = splitOptions (slice m opts len) := by
  have hfold : ∀ os acc : List Opt, os.foldl (onCopy recordOption) acc = acc ++ os := by
    intro os
    induction os with
    | nil => simp
    | cons o os ih =>
      intro acc
      have ho : onCopy recordOption acc o = acc ++ [o] := by
        show acc ++ [_] = acc ++ [o]
        rw [slice_ofList]
      rw [List.foldl_cons, ho, ih, List.append_assoc, List.singleton_append]
  rw [visitedOptions, walkOptions_val recordOption_onValue, hfold, List.nil_append]

/-- The first four value bytes of the last server identifier that has them. -/
def serverAddrOf (os : List Opt) : Option InAddr :=
  (os.filter fun o => o.tag = 54 ∧ 4 ≤ o.value.length).getLast?.map fun o =>
    inAddrAt (ofList o.value) 0

/-- So does the scan of an offer. -/
theorem offerOption_onValue : OnValue offerOption := by
  intro m a tag value v h
  rw [onCopy, offerOption_val, offerOption_val]
  congr 1
  case e_msgType => split_ifs with hc; exacts [byte_value h hc.2, rfl]
  case e_serverAddr => split_ifs with hc; exacts [(inAddrAt_value h).1 hc.2, rfl]

/-- The offer phase's scan finds the last message type and the last server identifier. -/
theorem foldl_offerOption (os : List Opt) (v : OfferScan) :
    os.foldl (onCopy offerOption) v =
      ⟨(msgTypeOf os).getD v.msgType, (serverAddrOf os).getD v.serverAddr⟩ := by
  induction os using List.reverseRecOn with
  | nil => rfl
  | append_singleton os o ih =>
    rw [List.foldl_append, ih, List.foldl_cons, List.foldl_nil, onCopy, offerOption_val]
    congr 1
    · by_cases hc : o.tag = 53 ∧ 1 ≤ o.value.length
      · simp [msgTypeOf, hc]
      · simp [msgTypeOf, hc]
    · by_cases hc : o.tag = 54 ∧ 4 ≤ o.value.length
      · simp [serverAddrOf, hc]
      · simp [serverAddrOf, hc]

/-- **The scans and `dhcp_parse_options`.**  The message type and the server identifier that an
    inline scan extracts are those of the options that `dhcp_parse_options` visits if and only
    if an option that is cut off, which it takes all the same, does not say otherwise. -/
theorem optionScan_agrees_iff (m : Mem) (opts optsLen : Nat) (v : OfferScan) (t : UInt8) :
    ((optionScan offerOption m opts optsLen v).val =
        ⟨(msgTypeOf (visitedOptions m opts optsLen)).getD v.msgType,
          (serverAddrOf (visitedOptions m opts optsLen)).getD v.serverAddr⟩ ↔
      ∀ c, cutOption (slice m opts optsLen) = some c →
        (c.tag = 53 ∧ 1 ≤ c.olen → m (opts + optsLen - c.part.length) =
          (msgTypeOf (visitedOptions m opts optsLen)).getD v.msgType) ∧
        (c.tag = 54 ∧ 4 ≤ c.olen → inAddrAt m (opts + optsLen - c.part.length) =
          (serverAddrOf (visitedOptions m opts optsLen)).getD v.serverAddr)) ∧
    ((optionScan ackOption m opts optsLen t).val =
        (msgTypeOf (visitedOptions m opts optsLen)).getD t ↔
      ∀ c, cutOption (slice m opts optsLen) = some c →
        c.tag = 53 ∧ 1 ≤ c.olen → m (opts + optsLen - c.part.length) =
          (msgTypeOf (visitedOptions m opts optsLen)).getD t) := by
  rw [optionScan_cut offerOption_onValue, optionScan_cut ackOption_onValue, foldl_offerOption,
    foldl_ackOption, visitedOptions_eq]
  cases hc : cutOption (slice m opts optsLen) with
  | none => simp
  | some c =>
    simp only [Option.elim_some, Option.some.injEq, forall_eq', offerOption_val, ackOption_val,
      OfferScan.mk.injEq]
    constructor
    · -- the cut option changes a field only if it has the field's tag and length
      apply and_congr
      · split_ifs with h <;> simp [h]
      · split_ifs with h <;> simp [h]
    · split_ifs with h <;> simp [h]

/-- An offer, then a message type whose value is cut off after its first byte. -/
def cutMsgType : List UInt8 := [53, 1, 2, 53, 2, 5]

/-- On `cutMsgType` the scans find an ACK, `dhcp_parse_options` visits an offer. -/
theorem not_optionScan_agrees :
    ¬ ∀ (m : Mem) (opts optsLen : Nat) (t : UInt8), (optionScan ackOption m opts optsLen t).val =
      (msgTypeOf (visitedOptions m opts optsLen)).getD t := by
  intro h
  exact absurd (h (ofList cutMsgType) 0 6 0) (by decide)

/-! ### What is read of the options -/

/-- Everything read lies between addresses `a` and `b`. -/
def ReadsWithin (a b : Nat) (reads : List Span) : Prop := ∀ r ∈ reads, a ≤ r.start ∧ r.Within b

instance (a b : Nat) (reads : List Span) : Decidable (ReadsWithin a b reads) :=
  inferInstanceAs (Decidable (∀ r ∈ reads, _ ≤ _ ∧ _))

@[simp] theorem readsWithin_nil (a b : Nat) : ReadsWithin a b [] := by simp [ReadsWithin]

@[simp] theorem readsWithin_cons {a b : Nat} {r : Span} {rs : List Span} :
    ReadsWithin a b (r :: rs) ↔ (a ≤ r.start ∧ r.start + r.len ≤ b) ∧ ReadsWithin a b rs := by
  simp [ReadsWithin, Span.Within]

/-- Reads stay within a stretch when those of both parts do. -/
@[simp] theorem readsWithin_append {a b : Nat} {rs ss : List Span} :
    ReadsWithin a b (rs ++ ss) ↔ ReadsWithin a b rs ∧ ReadsWithin a b ss := by
  simp only [ReadsWithin, List.mem_append, or_imp, forall_and]
  tauto

/-- `onOption` reads the first `needs tag olen` bytes of a value, at most all of them. -/
structure ReadsValue {σ : Type} (onOption : OnOption σ) (needs : UInt8 → Nat → Nat) : Prop where
  le : ∀ tag olen, needs tag olen ≤ olen
  reads : ∀ m a tag olen v lo hi, ReadsWithin lo hi (onOption m a tag olen v).reads ↔
    (0 < needs tag olen → lo ≤ a ∧ a + needs tag olen ≤ hi)

/-- How many bytes of a value the offer phase's scan reads. -/
def offerNeeds (tag : UInt8) (olen : Nat) : Nat :=
  if tag = 53 ∧ 1 ≤ olen then 1 else if tag = 54 ∧ 4 ≤ olen then 4 else 0

/-- How many bytes of a value the ACK phase's scan reads. -/
def ackNeeds (tag : UInt8) (olen : Nat) : Nat := if tag = 53 ∧ 1 ≤ olen then 1 else 0

/-- What the scan of an offer reads of an option. -/
theorem offerOption_reads : ReadsValue offerOption offerNeeds where
  le := fun tag olen => by
    unfold offerNeeds
    split_ifs <;> omega
  reads := fun m a tag olen v lo hi => by
    unfold offerOption offerNeeds
    by_cases h53 : tag = 53
    · by_cases hlen : 1 ≤ olen <;> simp [h53, hlen]
    · by_cases h54 : tag = 54
      · by_cases hlen : 4 ≤ olen <;> simp [h54, hlen, rdInAddr]
      · simp [h53, h54]

/-- What the scan of an ACK reads of it. -/
theorem ackOption_reads : ReadsValue ackOption ackNeeds where
  le := fun tag olen => by
    unfold ackNeeds
    split_ifs <;> omega
  reads := fun m a tag olen v lo hi => by
    unfold ackOption ackNeeds
    by_cases h : tag = 53 ∧ 1 ≤ olen <;> simp [h]

variable {σ : Type} {onOption : OnOption σ} {needs : UInt8 → Nat → Nat}

/-- A tag with a length stands at the cursor. -/
def LooksAt (m : Mem) (opts optsLen i : Nat) : Prop :=
  i + 1 < optsLen ∧ m (opts + i) ≠ endTag ∧ m (opts + i) ≠ padTag

/-- What one round of a scan does. -/
theorem optionScanBody_yield {m : Mem} {opts optsLen i : Nat} {v : σ} {t : Nat × σ}
    (h : (optionScanBody onOption m opts optsLen (i, v)).val = .yield t) :
    (headAt m opts optsLen i = .pad ∧ t.1 = i + 1) ∨
      (LooksAt m opts optsLen i ∧ t.1 = i + 2 + (m (opts + i + 1)).toNat) := by
  unfold optionScanBody at h
  by_cases hi : i < optsLen
  · by_cases hend : m (opts + i) = 0xFF
    · simp [hi, hend] at h
    by_cases hpad : m (opts + i) = 0x00
    · simp [hi, hpad] at h
      exact .inl ⟨headAt_eq_pad.mpr ⟨hi, hpad⟩, h ▸ rfl⟩
    by_cases hlast : optsLen ≤ i + 1
    · simp [hi, hend, hpad, hlast] at h
    · simp [hi, hend, hpad, hlast] at h
      exact .inr ⟨⟨by omega, hend, hpad⟩, h ▸ rfl⟩
  · simp [hi] at h

/-- At a pad or a tag with a length a scan goes on. -/
theorem exists_optionScanBody_yield {m : Mem} {opts optsLen i : Nat} (v : σ) :
    (headAt m opts optsLen i = .pad →
        ∃ w, (optionScanBody onOption m opts optsLen (i, v)).val = .yield (i + 1, w)) ∧
      (LooksAt m opts optsLen i → ∃ w, (optionScanBody onOption m opts optsLen (i, v)).val =
        .yield (i + 2 + (m (opts + i + 1)).toNat, w)) := by
  unfold optionScanBody
  constructor
  · intro hhead
    obtain ⟨hi, hpad⟩ := headAt_eq_pad.mp hhead
    exact ⟨v, by simp [hi, hpad, padTag]⟩
  · rintro ⟨hi, hend, hpad⟩
    have hend : m (opts + i) ≠ 0xFF := hend
    have hpad : m (opts + i) ≠ 0x00 := hpad
    exact ⟨_, by simp [show i < optsLen by omega, hend, hpad, show ¬ optsLen ≤ i + 1 by omega]; rfl⟩

/-- An option is looked at when its length byte is there. -/
theorem looksAt_iff {m : Mem} {opts optsLen i : Nat} :
    LooksAt m opts optsLen i ↔
      headAt m opts optsLen i = .opt ∨ headAt m opts optsLen i = .cut ∧ i + 1 < optsLen := by
  rw [headAt_eq_opt, headAt_eq_cut, LooksAt]
  constructor
  · rintro ⟨hi, hend, hpad⟩
    by_cases hfit : i + 2 + (m (opts + i + 1)).toNat ≤ optsLen
    · exact .inl ⟨hend, hpad, hi, hfit⟩
    · exact .inr ⟨⟨by omega, hend, hpad, fun h => hfit h.2⟩, hi⟩
  · rintro (⟨hend, hpad, hi, -⟩ | ⟨⟨-, hend, hpad, -⟩, hi⟩)
    · exact ⟨hi, hend, hpad⟩
    · exact ⟨hi, hend, hpad⟩

/-- What one round of a scan reads: tag, length and the bytes of the value it looks at. -/
theorem optionScanBody_reads (hr : ReadsValue onOption needs) (m : Mem) {lo opts : Nat}
    (hlo : lo ≤ opts) (optsLen i : Nat) (v : σ) :
    ReadsWithin lo (opts + optsLen) (optionScanBody onOption m opts optsLen (i, v)).reads ↔
      (LooksAt m opts optsLen i → 0 < needs (m (opts + i)) (m (opts + i + 1)).toNat →
        i + 2 + needs (m (opts + i)) (m (opts + i + 1)).toNat ≤ optsLen) := by
  unfold optionScanBody LooksAt
  by_cases hi : i < optsLen
  · by_cases hend : m (opts + i) = 0xFF
    · simp [hi, hend, endTag]
      omega
    by_cases hpad : m (opts + i) = 0x00
    · simp [hi, hpad, padTag]
      omega
    have hend' : m (opts + i) ≠ endTag := hend
    have hpad' : m (opts + i) ≠ padTag := hpad
    by_cases hlast : optsLen ≤ i + 1
    · -- a tag without a length ends the scan
      simp [hi, hend, hpad, hlast]
      omega
    · -- tag and length are there
      have hvalue := hr.reads m (opts + i + 2) (m (opts + i)) (m (opts + i + 1)).toNat v lo
        (opts + optsLen)
      simp [hi, hend, hpad, hend', hpad', hlast, hvalue]
      omega
  · simp [hi]
    omega

/-- **Reads of a scan.**  A scan stays inside the options exactly when the option that is cut
    off, if there is one, has the value bytes the scan looks at. -/
theorem optionScan_within_iff (hon : OnValue onOption) (hr : ReadsValue onOption needs) (m : Mem)
    {lo opts : Nat} (hlo : lo ≤ opts) (optsLen : Nat) (v : σ) :
    ReadsWithin lo (opts + optsLen) (optionScan onOption m opts optsLen v).reads ↔
      ∀ c, cutOption (slice m opts optsLen) = some c → needs c.tag c.olen ≤ c.part.length := by
  obtain ⟨j, hdone⟩ := iterate_optionScanBody hon m opts optsLen v
  have hreads : (optionScan onOption m opts optsLen v).reads =
      (Logged.iterate (optionScanBody onOption m opts optsLen) (optsLen + 1) (0, v)).reads := by
    simp [optionScan]
  rw [hreads]
  constructor
  · -- the scan gets to the option that is cut off
    intro hin c hc
    obtain ⟨t, ht, hcut, hlen, rfl⟩ : ∃ t, Visits (fun s =>
        (optionScanBody onOption m opts optsLen s).val) (0, v) t ∧ headAt m opts optsLen t.1 = .cut ∧
          t.1 + 1 < optsLen ∧ c = cutAt m opts optsLen t.1 :=
      exists_visits_cut (fun i v hhead => (exists_optionScanBody_yield v).1 hhead)
        (fun i v hhead => (exists_optionScanBody_yield v).2 (looksAt_iff.mpr (.inl hhead))) hc
    have hround := (optionScanBody_reads hr m hlo optsLen t.1 t.2).mp fun r hmem =>
      hin r (Logged.mem_reads_of_visits hdone ht hmem)
    have hneeds := hround (looksAt_iff.mpr (.inr ⟨hcut, hlen⟩))
    simp only [cutAt, slice_length]
    omega
  · intro hcond r hmem
    obtain ⟨t, ht, hmem⟩ := Logged.exists_visits_of_mem_reads hmem
    refine (optionScanBody_reads hr m hlo optsLen t.1 t.2).mpr (fun hlooks hpos => ?_) r hmem
    rcases looksAt_iff.mp hlooks with hopt | ⟨hcut, hlen⟩
    · -- a complete option has all its value bytes
      have hle := hr.le (m (opts + t.1)) (m (opts + t.1 + 1)).toNat
      have hfit := (headAt_eq_opt.mp hopt).2.2.2
      omega
    · -- a visited option that is cut off is the one of the specification
      have hc : cutOption (slice m opts optsLen) = some (cutAt m opts optsLen t.1) :=
        visits_cutOption (fun i v t hy => ?_) ht hcut hlen
      · have hneeds := hcond _ hc
        simp only [cutAt, slice_length] at hneeds
        omega
      · rcases optionScanBody_yield hy with h | ⟨hlooks, heq⟩
        · exact .inl h
        · exact .inr ⟨hlooks.1, heq, (looksAt_iff.mp hlooks).imp_right And.left⟩

/-- `dhcp_parse_options` stays inside the options, whatever they hold. -/
theorem dhcpParseOptions_reads (m : Mem) (opts len : Nat) (v : NetOpts) :
    ReadsWithin opts (opts + len) (dhcpParseOptions m opts len v).reads := by
  have hround : ∀ s, ReadsWithin opts (opts + len) (parseOptionsBody m opts len s).reads := by
    intro s
    unfold parseOptionsBody
    by_cases hi : s.1 < len
    · have htag : opts + s.1 + 1 ≤ opts + len := by omega
      by_cases hend : m (opts + s.1) = 0xFF
      · simp [hi, hend, htag]
      by_cases hpad : m (opts + s.1) = 0x00
      · simp [hi, hpad, htag]
      by_cases hlast : len ≤ s.1 + 1
      · simp [hi, hend, hpad, hlast, htag]
      by_cases hcut : len < s.1 + 2 + (m (opts + s.1 + 1)).toNat
      · simp [hi, hend, hpad, hlast, hcut]
        omega
      · -- the value fits, and at most its first eight bytes are read
        have hvalue : ReadsWithin opts (opts + len) (parseOption m (opts + s.1 + 2)
            (m (opts + s.1)) (m (opts + s.1 + 1)).toNat s.2).reads := by
          unfold parseOption
          split_ifs <;> simp [rdInAddr] <;> omega
        simp [hi, hend, hpad, hlast, hcut, hvalue]
        omega
    · simp [hi]
  intro r hr
  simp only [dhcpParseOptions, Logged.reads_bind, Logged.reads_pure, List.append_nil] at hr
  obtain ⟨t, -, hr⟩ := Logged.exists_visits_of_mem_reads hr
  exact hround t r hr

/-! ### What is read of a frame -/

/-- The frame has room for the headers it says it has and the fixed part of a BOOTP message. -/
def HasRoom (m : Mem) (f : Span) : Prop := dhcpOffset m f.start + sizeofDhcpPacket ≤ f.len

instance (m : Mem) (f : Span) : Decidable (HasRoom m f) := inferInstanceAs (Decidable (_ ≤ _))

/-- The option bytes of a frame with room for its headers. -/
def optionsAt (m : Mem) (f : Span) : List UInt8 :=
  slice m (f.start + dhcpOffset m f.start + sizeofDhcpPacket)
    (f.len - (dhcpOffset m f.start + sizeofDhcpPacket))

/-- Everything a phase read of the frame lies in it, and the options it took the frame to have
    end where the frame ends: `opts_len = frame_len - opts_offset` did not wrap. -/
def InspectsWithin (m : Mem) (f : Span) (reads : List Span) : Prop :=
  ReadsWithin f.start (f.start + f.len) reads ∧
    ∀ d, (inspectFrame m f).val = some d → d.options + d.optsLen = f.start + f.len

/-- The port of the UDP header, where `ip_hl` says it is. -/
def udpPortAt (m : Mem) (f : Span) : Nat :=
  be16 m (f.start + sizeofEthHdr + ipHdrLen m f.start + 2)

variable {m : Mem} {f : Span}

/-- The checks on a frame that is long enough for a 20-byte IP header: only the cookie and the
    transaction id can lie behind the frame. -/
theorem inspectFrame_reads (hudp : IsUdp m f) :
    ReadsWithin f.start (f.start + f.len) (inspectFrame m f).reads ↔
      (udpPortAt m f = dhcpClientPort → HasRoom m f) := by
  obtain ⟨hlen, heth, hproto⟩ := hudp
  have hhdr : ipHdrLen m f.start ≤ 60 := by
    unfold ipHdrLen
    omega
  have hlen' : ¬ f.len < sizeofEthHdr + 20 + 8 + sizeofDhcpPacket := by omega
  have hfold : (m (f.start + sizeofEthHdr)).toNat % 16 * 4 = ipHdrLen m f.start := rfl
  unfold inspectFrame HasRoom udpPortAt dhcpOffset
  simp only [hlen', heth, hproto, ne_eq, not_true, if_false, Logged.reads_bind, rdBe16_reads,
    rdBe16_val, rd8_reads, rd8_val, hfold]
  simp only [sizeofEthHdr, sizeofDhcpPacket] at hlen ⊢
  by_cases hport : be16 m (f.start + 14 + ipHdrLen m f.start + 2) = dhcpClientPort
  · by_cases hmagic : be32 m (f.start + 14 + ipHdrLen m f.start + 8 + 236) = dhcpMagicCookie
    · by_cases hid : be32 m (f.start + 14 + ipHdrLen m f.start + 8 + 4) = xid
      · simp [hport, hmagic, hid]
        omega
      · simp [hport, hmagic, hid]
        omega
    · simp [hport, hmagic]
      omega
  · simp [hport]
    omega

/-- A wider stretch. -/
theorem ReadsWithin.mono {a b a' b' : Nat} {reads : List Span} (h : ReadsWithin a b reads)
    (ha : a' ≤ a) (hb : b ≤ b') : ReadsWithin a' b' reads := by
  intro r hr
  obtain ⟨hstart, hend⟩ := h r hr
  simp only [Span.Within] at hend ⊢
  omega

/-- A phase that reads what the checks read and then, of a frame that passed them, what a scan
    and `rest` read. -/
theorem inspectsWithin_iff (hon : OnValue onOption) (hr : ReadsValue onOption needs)
    (hudp : IsUdp m f) (hlen : f.len < 2 ^ 64) (v : σ) {reads : List Span}
    (rest : DhcpView → List Span)
    (hreads : reads = (inspectFrame m f).reads ++ (inspectFrame m f).val.elim [] fun d =>
      (optionScan onOption m d.options d.optsLen v).reads ++ rest d)
    (hrest : ∀ d, ReadsWithin d.dhcp (d.options + d.optsLen) (rest d)) :
    InspectsWithin m f reads ↔
      (udpPortAt m f = dhcpClientPort → HasRoom m f ∧ (IsBootp m f →
        ∀ c, cutOption (optionsAt m f) = some c → needs c.tag c.olen ≤ c.part.length)) := by
  rw [InspectsWithin, hreads, readsWithin_append, inspectFrame_reads hudp, inspectFrame_val]
  by_cases hport : udpPortAt m f = dhcpClientPort
  · by_cases hroom : HasRoom m f
    · by_cases hboot : IsBootp m f
      · -- the options are the rest of the frame
        have hsub : sizeSub f.len (dhcpOffset m f.start + sizeofDhcpPacket) =
            f.len - (dhcpOffset m f.start + sizeofDhcpPacket) := sizeSub_of_le hroom hlen
        have hend : f.start + dhcpOffset m f.start + sizeofDhcpPacket +
            (f.len - (dhcpOffset m f.start + sizeofDhcpPacket)) = f.start + f.len := by
          simp only [HasRoom] at hroom
          omega
        have hscan : ReadsWithin f.start _ _ ↔ _ := optionScan_within_iff hon hr m
          (by omega : f.start ≤ f.start + dhcpOffset m f.start + sizeofDhcpPacket)
          (f.len - (dhcpOffset m f.start + sizeofDhcpPacket)) v
        have hrest : ReadsWithin f.start (f.start + f.len) _ :=
          (hrest ⟨f.start + dhcpOffset m f.start,
            f.len - (dhcpOffset m f.start + sizeofDhcpPacket)⟩).mono (Nat.le_add_right _ _) hend.le
        rw [hend] at hscan
        simp only [hudp, hboot, and_self, if_true, hsub, Option.elim_some, DhcpView.options,
          readsWithin_append, hscan, hrest, hport, hroom, forall_true_left, Option.some.injEq,
          forall_eq', hend, and_true, true_and]
        rfl
      · simp [hport, hroom, hboot]
    · simp [hport, hroom]
  · -- the port is read before anything that could lie behind the frame
    have hboot : ¬ IsBootp m f := fun h => hport h.1
    simp [hport, hboot]

/-- **Reads of a frame.**  Of a frame that passes the length, ethertype and protocol checks the
    two phases read only bytes of the frame, and `opts_len` does not wrap, exactly when the
    frame either is not for the DHCP client's port, or has room for its IP header and is not
    a BOOTP message of this exchange whose options are cut off inside the value bytes that a
    scan looks at: the first of a message type, in the offer phase also the first four of a
    server identifier. -/
theorem dhcpInspection_within_iff (m : Mem) (f : Span) (offer : OfferVars) (ack : AckVars)
    (hudp : IsUdp m f) (hlen : f.len < 2 ^ 64) :
    (InspectsWithin m f (offerVisit m offer f).reads ↔
      (udpPortAt m f = dhcpClientPort → HasRoom m f ∧ (IsBootp m f →
        ∀ c, cutOption (optionsAt m f) = some c → offerNeeds c.tag c.olen ≤ c.part.length))) ∧
    (InspectsWithin m f (ackVisit m ack f).reads ↔
      (udpPortAt m f = dhcpClientPort → HasRoom m f ∧ (IsBootp m f →
        ∀ c, cutOption (optionsAt m f) = some c → ackNeeds c.tag c.olen ≤ c.part.length))) := by
  -- what is read after the scan lies in the BOOTP header or in the options
  have hparse : ∀ (d : DhcpView) (v : NetOpts), ReadsWithin d.dhcp (d.options + d.optsLen)
      (dhcpParseOptions m d.options d.optsLen v).reads := fun d v =>
    (dhcpParseOptions_reads m d.options d.optsLen v).mono
      (by simp only [DhcpView.options]; omega) (Nat.le_refl _)
  have hyiaddr : ∀ d : DhcpView, d.dhcp ≤ d.dhcp + 16 ∧
      d.dhcp + 16 + 4 ≤ d.options + d.optsLen := fun d => by
    simp only [DhcpView.options, sizeofDhcpPacket]
    omega
  constructor
  · refine inspectsWithin_iff offerOption_onValue offerOption_reads hudp hlen ⟨0, offer.serverAddr⟩
      (fun d =>
        if (optionScan offerOption m d.options d.optsLen ⟨0, offer.serverAddr⟩).val.msgType = 2 then
          ⟨d.dhcp + 16, 4⟩ :: (dhcpParseOptions m d.options d.optsLen offer.opts).reads
        else []) ?_ fun d => ?_
    · simp only [offerVisit, Logged.reads_bind]
      cases (inspectFrame m f).val with
      | none => rfl
      | some d =>
        simp only [Logged.reads_bind, Option.elim_some]
        split_ifs <;> simp [rdInAddr]
    · split_ifs
      · exact readsWithin_cons.mpr ⟨hyiaddr d, hparse d _⟩
      · exact readsWithin_nil _ _
  · refine inspectsWithin_iff ackOption_onValue ackOption_reads hudp hlen 0
      (fun d =>
        if (optionScan ackOption m d.options d.optsLen 0).val = 5 then
          (dhcpParseOptions m d.options d.optsLen ack.opts).reads ++ [⟨d.dhcp + 16, 4⟩]
        else []) ?_ fun d => ?_
    · simp only [ackVisit, Logged.reads_bind]
      cases (inspectFrame m f).val with
      | none => rfl
      | some d =>
        simp only [Logged.reads_bind, Option.elim_some]
        split_ifs <;> simp [rdInAddr]
    · split_ifs
      · exact readsWithin_append.mpr ⟨hparse d _, readsWithin_cons.mpr ⟨hyiaddr d, readsWithin_nil _ _⟩⟩
      · exact readsWithin_nil _ _

/-- A frame of 282 bytes for the DHCP client's port whose IP header is said to have sixty
    bytes. -/
def longHeaderFrame : List UInt8 :=
  List.replicate 12 0 ++ [0x08, 0x00, 0x4F] ++ List.replicate 8 0 ++ [ipprotoUdp] ++
    List.replicate 52 0 ++ be16Bytes dhcpClientPort ++ List.replicate 204 0

/-- The reply to a discover lies inside its frame as far as it is read. -/
theorem dhcpInspection_within_reply :
    InspectsWithin (ofList (bootpReply 2 ⟨192, 168, 42, 100⟩)) ⟨0, 286⟩
      (offerVisit (ofList (bootpReply 2 ⟨192, 168, 42, 100⟩)) .init ⟨0, 286⟩).reads := by
  refine (dhcpInspection_within_iff _ ⟨0, 286⟩ .init ⟨.zero, ⟨[], [], [], [], []⟩, false⟩ (by decide)
    (by decide)).1.mpr fun _ => ⟨by decide, fun _ c hc => ?_⟩
  have hnone : cutOption (optionsAt (ofList (bootpReply 2 ⟨192, 168, 42, 100⟩)) ⟨0, 286⟩) = none := by
    have hopts : optionsAt (ofList (bootpReply 2 ⟨192, 168, 42, 100⟩)) ⟨0, 286⟩ = [53, 1, 2, endTag] := by
      decide
    rw [hopts]
    simp [cutOption, endTag, padTag]
  rw [hnone] at hc
  cases hc

/-- Of `longHeaderFrame` the cookie is read at byte 318. -/
theorem not_dhcpInspection_within :
    ¬ ∀ (m : Mem) (f : Span) (offer : OfferVars), IsUdp m f → f.len < 2 ^ 64 →
      InspectsWithin m f (offerVisit m offer f).reads := by
  intro h
  have hin := (h (ofList longHeaderFrame) ⟨0, 282⟩ .init (by decide) (by decide)).1
  revert hin
  decide

end AndroidTether
