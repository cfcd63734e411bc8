import AndroidTether.DhcpInspect

namespace AndroidTether

open Bytes WhileLoop Tlv

/-!
# The server a REQUEST names

`server_addr` lives as long as the offer phase.  The scan of every reply with the right
transaction id writes it, before the type of the reply is known, so what a REQUEST carries in
option 54 is a matter of the whole history of replies.

* `offerRun` — the offer phase along its history: the loop of `dhcp_discover`, with the frames
  handed to the code inside written down (`offerRun_fst`);
* `offerRun_offer` — the address and the server that the phase ends with, by that history;
* `offerRequest_names_iff` — exactly when the REQUEST names the server of the offer it takes.
-/

/-! ### A receive loop along its history -/

section Recorded

variable {σ : Type}

/-- A frame handed to the code inside, and the memory it lies in. -/
abbrev Heard := Mem × Span

/-- The code inside, with the frame written down. -/
def recorded (visit : Mem → σ → Span → Logged (ForInStep σ)) (m : Mem) (s : σ × List Heard)
    (f : Span) : Logged (ForInStep (σ × List Heard)) := do
  let r ← visit m s.1 f
  return mapStep (fun v => (v, s.2 ++ [(m, f)])) r

@[simp] theorem recorded_val (visit : Mem → σ → Span → Logged (ForInStep σ)) (m : Mem)
    (s : σ × List Heard) (f : Span) :
    (recorded visit m s f).val = mapStep (fun v => (v, s.2 ++ [(m, f)])) (visit m s.1 f).val := rfl

variable {visit : Mem → σ → Span → Logged (ForInStep σ)}

/-- One round does the same with and without the history. -/
theorem msgWalkStep_recorded (m : Mem) (usbLen : Nat) (s : Nat × σ × List Heard) :
    msgWalkStep m usbLen (visit m) (s.1, s.2.1) =
      mapStep (fun t => (t.1, t.2.1)) (msgWalkStep m usbLen (recorded visit m) s) := by
  rw [msgWalkStep_eq, msgWalkStep_eq]
  split
  · cases frameAt m s.1 with
    | none => rfl
    | some f =>
      simp only [recorded_val]
      cases (visit m s.2.1 f).val <;> rfl
  · rfl

/-- **Running along the history** is running. -/
theorem recvLoop_recorded {found : σ → Bool} {fuel : Nat} {rx : Nat → Recv} (n k : Nat)
    (s : σ × List Heard) :
    recvLoop fuel rx visit found n k s.1 =
      (recvLoop fuel rx (recorded visit) (fun s => found s.1) n k s).map fun r => (r.1.1, r.2) := by
  induction n generalizing k s with
  | zero => rfl
  | succ n ih =>
    simp only [recvLoop]
    split
    · exact ih (k + 1) s
    · have hwalk := iterate_map (f := fun t : Nat × σ × List Heard => (t.1, t.2.1))
        (@msgWalkStep_recorded _ visit (rx k).mem (rx k).ret.toNat) fuel (0, s)
      dsimp only at hwalk
      rw [hwalk]
      cases iterate (msgWalkStep (rx k).mem (rx k).ret.toNat (recorded visit (rx k).mem)) fuel
          (0, s) with
      | yield t => rfl
      | done t =>
        simp only [mapStep_done]
        split
        · rfl
        · exact ih (k + 1) t.2

end Recorded

/-- The offer phase, along its history. -/
def offerRun (fuel : Nat) (rx : Nat → Recv) : Option ((OfferVars × List Heard) × Nat) :=
  recvLoop fuel rx (recorded offerVisit) (fun s => s.1.foundOffer) 50 0 (.init, [])

/-- The loop of the offer phase, with what it heard written down, is the loop of `dhcp_discover`.
    -/
theorem offerRun_fst (fuel : Nat) (rx : Nat → Recv) :
    recvLoop fuel rx offerVisit OfferVars.foundOffer 50 0 .init =
      (offerRun fuel rx).map fun r => (r.1.1, r.2) :=
  @recvLoop_recorded _ offerVisit _ _ _ 50 0 (.init, [])

/-! ### What one frame does to `server_addr` -/

section Server

variable (m : Mem)

/-- The server identifier an inline scan takes from an option that is cut off: four bytes from
    where the value starts. -/
def cutServer (opts len : Nat) : Option InAddr :=
  (cutOption (slice m opts len)).bind fun c =>
    if c.tag = 54 ∧ 4 ≤ c.olen then some (inAddrAt m (opts + len - c.part.length)) else none

/-- The server identifier an inline scan finds. -/
def scannedServer (opts len : Nat) : Option InAddr :=
  (cutServer m opts len).or (serverAddrOf (splitOptions (slice m opts len)))

/-- The scan leaves the last server identifier it found, or what was there. -/
theorem optionScan_serverAddr (opts len : Nat) (v : OfferScan) :
    (optionScan offerOption m opts len v).val.serverAddr =
      (scannedServer m opts len).getD v.serverAddr := by
  rw [optionScan_cut offerOption_onValue, foldl_offerOption, scannedServer, cutServer]
  cases cutOption (slice m opts len) with
  | none => rfl
  | some c =>
    simp only [Option.elim_some, offerOption_val, Option.bind_some]
    split_ifs <;> rfl

/-- The server identifier the offer phase takes from a frame, if it takes one. -/
def heardServer (f : Span) : Option InAddr :=
  (inspectFrame m f).val.bind fun d => scannedServer m d.options d.optsLen

/-- Whatever becomes of a frame, its server identifier is kept. -/
theorem offerVisit_serverAddr (s : OfferVars) (f : Span) :
    (offerVisit m s f).val.value.serverAddr = (heardServer m f).getD s.serverAddr := by
  simp only [offerVisit, Logged.val_bind, heardServer]
  cases (inspectFrame m f).val with
  | none => rfl
  | some d =>
    simp only [Logged.val_bind, Option.bind_some]
    split
    · exact optionScan_serverAddr m _ _ _
    · exact optionScan_serverAddr m _ _ _

end Server

/-- The last server identifier in a history, 0.0.0.0 if there is none. -/
def lastHeard (hist : List Heard) : InAddr :=
  ((hist.filterMap fun r => heardServer r.1 r.2).getLast?).getD .zero

/-- One more reply that was heard. -/
theorem lastHeard_append (hist : List Heard) (m : Mem) (f : Span) :
    lastHeard (hist ++ [(m, f)]) = (heardServer m f).getD (lastHeard hist) := by
  rw [lastHeard, List.filterMap_append]
  cases h : heardServer m f with
  | none => simp [h, lastHeard]
  | some a => simp [h]

/-! ### The offer phase -/

/-- While nothing was found: no address, and the last server identifier of the history. -/
def Searching (s : OfferVars × List Heard) : Prop :=
  s.1.foundOffer = false ∧ s.1.serverAddr = lastHeard s.2

/-- A round goes on when the round inside does. -/
theorem mapStep_eq_yield {σ τ : Type} {g : σ → τ} {r : ForInStep σ} {t : τ}
    (h : mapStep g r = .yield t) : ∃ v, r = .yield v ∧ t = g v := by
  cases r with
  | done v => cases h
  | yield v => exact ⟨v, rfl, (ForInStep.yield.inj h).symm⟩

/-- It ends when the round inside ends. -/
theorem mapStep_eq_done {σ τ : Type} {g : σ → τ} {r : ForInStep σ} {t : τ}
    (h : mapStep g r = .done t) : ∃ v, r = .done v ∧ t = g v := by
  cases r with
  | yield v => cases h
  | done v => exact ⟨v, rfl, (ForInStep.done.inj h).symm⟩

/-- The recorded loop is a phase that ends with an offer. -/
theorem offerRunPhase : Phase (recorded offerVisit) (fun s => s.1.foundOffer) 2 Searching where
  ends := by
    intro m s f
    have hends := offerVisit_endsBy m s.1 f
    rw [recorded_val]
    cases hv : (offerVisit m s.1 f).val with
    | done v =>
      rw [hv] at hends
      exact hends
    | yield v =>
      rw [hv] at hends
      exact hends
  keep := by
    intro m s f s' hs hstep
    obtain ⟨v, hv, rfl⟩ := mapStep_eq_yield hstep
    have hserver := offerVisit_serverAddr m s.1 f
    rw [hv] at hserver
    refine ⟨(offerVisit_yield hv).1.trans hs.1, ?_⟩
    rw [lastHeard_append, ← hs.2]
    exact hserver
  notFound := fun _ hs => hs.1
  isFound := by
    intro m s f s' hstep
    obtain ⟨v, hv, rfl⟩ := mapStep_eq_done hstep
    exact (offerVisit_done hv).1

/-- **What the offer phase ends with**, when it takes an offer: the offer is the last frame of
    the history, the address is its `yiaddr`, and the server is the last one in the history. -/
theorem offerRun_offer {fuel : Nat} {rx : Nat → Recv} {s : OfferVars} {hist : List Heard} {k : Nat}
    (h : offerRun fuel rx = some ((s, hist), k)) (hfound : s.foundOffer = true) :
    ∃ before m f, hist = before ++ [(m, f)] ∧ f.len < 2 ^ 32 ∧ replyType m f = some 2 ∧
      s.offeredAddr = yiaddrAt m f ∧ s.serverAddr = (heardServer m f).getD (lastHeard before) := by
  have hinit : Searching (.init, []) := ⟨rfl, rfl⟩
  rcases offerRunPhase.recvLoop_cases hinit h with ⟨hnone, -⟩ |
    ⟨j, f, s₀, -, -, -, hs₀, hacc, hstep⟩
  · rw [hnone.1] at hfound
    cases hfound
  · obtain ⟨v, hv, heq⟩ := mapStep_eq_done hstep
    obtain ⟨rfl, rfl⟩ := Prod.mk.inj heq
    obtain ⟨_, -, -, hframe, htype⟩ := hacc
    have hserver := offerVisit_serverAddr (rx j).mem s₀.1 f
    rw [hv] at hserver
    exact ⟨s₀.2, (rx j).mem, f, rfl, rndisParseDataPacket_len_lt hframe, htype,
      (offerVisit_done hv).2, hs₀.2 ▸ hserver⟩

/-! ### The offer's own server -/

section Own

variable (m : Mem) (f : Span)

/-- The last server identifier among the options of the frame. -/
def ownServer : Option InAddr := serverAddrOf (splitOptions (optionsAt m f))

/-- The server identifier that is taken from outside the complete options of the frame: from an
    option that is cut off, or from behind a frame that has no room for its headers. -/
def strayServer : Option InAddr :=
  if HasRoom m f then
    cutServer m (f.start + dhcpOffset m f.start + sizeofDhcpPacket)
      (f.len - (dhcpOffset m f.start + sizeofDhcpPacket))
  else heardServer m f

variable {m f}

/-- What is taken from a frame is its own unless it comes from outside. -/
theorem heardServer_eq (hlt : f.len < 2 ^ 64) (hin : (inspectFrame m f).val ≠ none) :
    heardServer m f = (strayServer m f).or (ownServer m f) := by
  by_cases hroom : HasRoom m f
  · obtain ⟨d, hd⟩ := Option.ne_none_iff_exists'.mp hin
    have hview : d = ⟨f.start + dhcpOffset m f.start,
        f.len - (dhcpOffset m f.start + sizeofDhcpPacket)⟩ := by
      rw [inspectFrame_val] at hd
      split at hd
      · rw [← sizeSub_of_le hroom hlt]
        exact (Option.some.inj hd).symm
      · cases hd
    rw [heardServer, hd, Option.bind_some, hview, strayServer, if_pos hroom]
    rfl
  · -- behind a frame without room there are no options
    have hown : ownServer m f = none := by
      have hnil : f.len - (dhcpOffset m f.start + sizeofDhcpPacket) = 0 :=
        Nat.sub_eq_zero_of_le (Nat.not_le.mp hroom).le
      rw [ownServer, optionsAt, hnil, slice_zero, splitOptions_nil]
      rfl
    rw [hown, Option.or_none, strayServer, if_neg hroom]

end Own

/-- The value of the first option of a frame with the given tag. -/
def optionValue (tag : UInt8) (fr : List UInt8) : Option (List UInt8) :=
  ((frameOptions fr).find? fun o => o.tag = tag).map Opt.value

/-- A REQUEST for an offer: it asks for the offer's address, and names the last server
    identifier of that offer, 0.0.0.0 if there is none. -/
def RequestNames (req : List UInt8) (m : Mem) (f : Span) : Prop :=
  optionValue 50 req = some (yiaddrAt m f).bytes ∧
    optionValue 54 req = some ((ownServer m f).getD .zero).bytes

/-- What the offer's own options say is what `server_addr` holds: nothing from outside them
    says otherwise, and nothing was left by the replies before, or it is written over. -/
structure NamesItself (before : List Heard) (m : Mem) (f : Span) : Prop where
  stray : ∀ a, strayServer m f = some a → a = (ownServer m f).getD .zero
  left : strayServer m f = none → ownServer m f = none → lastHeard before = .zero

/-- What is named is the offer's own exactly if nothing else comes before it. -/
theorem namesItself_iff {before : List Heard} {m : Mem} {f : Span} :
    ((strayServer m f).or (ownServer m f)).getD (lastHeard before) = (ownServer m f).getD .zero ↔
      NamesItself before m f := by
  cases hstray : strayServer m f with
  | some a =>
    rw [Option.some_or, Option.getD_some]
    constructor
    · intro heq
      exact ⟨fun b hb => Option.some.inj (hstray.symm.trans hb) ▸ heq,
        fun hnone => absurd (hstray.symm.trans hnone) (Option.some_ne_none a)⟩
    · intro h
      exact h.stray a hstray
  | none =>
    rw [Option.none_or]
    have hnot : ∀ b, strayServer m f ≠ some b := fun b hb =>
      Option.some_ne_none b (hb.symm.trans hstray)
    cases hown : ownServer m f with
    | some a =>
      rw [Option.getD_some, Option.getD_some, eq_self_iff_true, true_iff]
      exact ⟨fun b hb => absurd hb (hnot b), fun _ hnone =>
        absurd (hown.symm.trans hnone) (Option.some_ne_none a)⟩
    | none =>
      rw [Option.getD_none, Option.getD_none]
      exact ⟨fun heq => ⟨fun b hb => absurd hb (hnot b), fun _ _ => heq⟩,
        fun h => h.left hstray hown⟩

/-- A REQUEST names the offer's server exactly if `server_addr` holds it. -/
theorem request_names_iff {offered server : InAddr} {mac : Mac} {ethBuf m : Mem} {f : Span}
    (haddr : offered = yiaddrAt m f) :
    RequestNames ((dhcpBuildRequest ethBufSize mac xid offered server).packet ethBuf) m f ↔
      server = (ownServer m f).getD .zero := by
  have hopts := (dhcpBuildRequest_options mac xid offered server ethBuf
    (by decide : 303 ≤ ethBufSize)).2
  have h50 : optionValue 50 ((dhcpBuildRequest ethBufSize mac xid offered server).packet ethBuf) =
      some offered.bytes := by
    rw [optionValue, hopts]
    rfl
  have h54 : optionValue 54 ((dhcpBuildRequest ethBufSize mac xid offered server).packet ethBuf) =
      some server.bytes := by
    rw [optionValue, hopts]
    rfl
  rw [RequestNames, h50, h54, haddr, eq_self_iff_true, true_and, Option.some.injEq]
  exact ⟨InAddr.bytes_injective, congrArg InAddr.bytes⟩

/-- **The server of the offer.**  In every run of the offer phase that takes an offer, the
    REQUEST that is built then asks for the offer's address and names the offer's own server if
    and only if the offer has a complete server identifier, or no reply before it left one, and
    none is taken from outside its options. -/
theorem offerRequest_names_iff (fuel : Nat) (rx : Nat → Recv) (mac : Mac) (ethBuf : Mem)
    (s : OfferVars) (hist : List Heard) (k : Nat) (h : offerRun fuel rx = some ((s, hist), k))
    (hfound : s.foundOffer = true) :
    ∃ before m f, hist = before ++ [(m, f)] ∧ replyType m f = some 2 ∧
      (RequestNames ((dhcpBuildRequest ethBufSize mac xid s.offeredAddr s.serverAddr).packet
        ethBuf) m f ↔ NamesItself before m f) := by
  obtain ⟨before, m, f, hhist, hlt, htype, haddr, hserver⟩ := offerRun_offer h hfound
  refine ⟨before, m, f, hhist, htype, ?_⟩
  have hin : (inspectFrame m f).val ≠ none := by
    intro hnone
    rw [replyType, hnone] at htype
    cases htype
  rw [request_names_iff haddr, hserver, heardServer_eq (by omega) hin]
  exact namesItself_iff

/-- The REQUEST of a call that came to its end, as it was sent, is that of its offer phase. -/
theorem dhcpDiscover_request {fuel : Nat} {mac : Mac} {tx : Nat → Int} {rx : Nat → Recv}
    {ethBuf rndisBuf : Mem} {lease : DhcpLease} {r : DhcpResult} {pkt : List UInt8}
    (h : dhcpDiscover fuel mac tx rx ethBuf rndisBuf lease = some r)
    (hpkt : r.sent[1]? = some pkt) :
    ∃ s hist k m, offerRun fuel rx = some ((s, hist), k) ∧ s.foundOffer = true ∧
      extractFrame pkt =
        some ((dhcpBuildRequest ethBufSize mac xid s.offeredAddr s.serverAddr).packet m) := by
  have hone : ∀ sent : List UInt8, [sent][1]? ≠ some pkt := by simp
  have hnil : ([] : List (List UInt8))[1]? ≠ some pkt := by simp
  simp only [dhcpDiscover] at h
  split at h
  · cases h
    exact absurd hpkt hnil
  split at h
  · cases h
    exact absurd hpkt hnil
  split at h
  · cases h
    exact absurd hpkt (hone _)
  split at h
  · cases h
  rename_i offer k hoffer
  split at h
  · cases h
    exact absurd hpkt (hone _)
  rename_i haddr
  split at h
  · cases h
    exact absurd hpkt (hone _)
  split at h
  · cases h
    exact absurd hpkt (hone _)
  -- the REQUEST is built and sent, whatever comes of it
  have hfound : offer.foundOffer = true := by
    rcases offerPhase.recvLoop_cases ⟨rfl, rfl⟩ hoffer with ⟨hnone, -⟩ |
      ⟨j, f, s₀, -, -, -, -, -, hvisit⟩
    · exact absurd hnone.2 haddr
    · exact (offerVisit_done hvisit).1
  rw [offerRun_fst] at hoffer
  obtain ⟨⟨⟨s, hist⟩, k'⟩, hrun, heq⟩ := Option.map_eq_some_iff.mp hoffer
  obtain ⟨rfl, rfl⟩ := Prod.mk.inj heq
  have hsent : ∀ sent disc, r.sent = [disc, sent] → sent = pkt := by
    intro sent disc hr
    rw [hr] at hpkt
    exact Option.some.inj hpkt
  refine ⟨s, hist, k', storeAll ethBuf (dhcpBuildDiscover ethBufSize mac xid).stores, hrun, hfound,
    ?_⟩
  split at h
  · cases h
    rw [← hsent _ _ rfl]
    exact extractFrame_request _ _ _ _ _
  split at h
  · cases h
  split at h
  · cases h
    rw [← hsent _ _ rfl]
    exact extractFrame_request _ _ _ _ _
  · cases h
    rw [← hsent _ _ rfl]
    exact extractFrame_request _ _ _ _ _

/-- A reply of type `t` from the server `server`. -/
def serverReply (t : UInt8) (yiaddr server : InAddr) : List UInt8 :=
  (bootpReply t yiaddr).dropLast ++ [54, 4] ++ server.bytes ++ [0xFF]

/-- A reply of type 6 from 10.0.0.9, then an offer of 192.168.42.100, from `server` if it says
    where from. -/
def refusedFirst (server : Option InAddr) (k : Nat) : Recv :=
  .ofBytes (dataPacketBytes (if k = 0 then serverReply 6 .zero ⟨10, 0, 0, 9⟩
    else server.elim (bootpReply 2 ⟨192, 168, 42, 100⟩) (serverReply 2 ⟨192, 168, 42, 100⟩))) (by
      rw [dataPacketBytes_length]
      have hreply : ∀ t a b, (serverReply t a b).length = 292 := by
        intro t a b
        simp [serverReply, bootpReply_length, InAddr.bytes]
      split
      · rw [hreply]
        decide
      · cases server with
        | none =>
          rw [Option.elim_none, bootpReply_length]
          decide
        | some a =>
          rw [Option.elim_some, hreply]
          decide)

/-- An offer with its own server identifier, after the reply of another server: the REQUEST
    names the offer's. -/
theorem offerRequest_names_own :
    ∃ (s : OfferVars) (before : List Heard) (m : Mem) (f : Span) (k : Nat),
      offerRun 2 (refusedFirst (some ⟨192, 168, 42, 129⟩)) = some ((s, before ++ [(m, f)]), k) ∧
      lastHeard before = ⟨10, 0, 0, 9⟩ ∧ ownServer m f = some ⟨192, 168, 42, 129⟩ ∧
      RequestNames ((dhcpBuildRequest ethBufSize (.replicate 6 0) xid s.offeredAddr
        s.serverAddr).packet fun _ => 0) m f := by
  have hrun : (offerRun 2 (refusedFirst (some ⟨192, 168, 42, 129⟩))).map (fun r =>
      (r.1.1.foundOffer, lastHeard r.1.2.dropLast,
        r.1.2.getLast?.map fun l => (strayServer l.1 l.2, ownServer l.1 l.2))) =
      some (true, ⟨10, 0, 0, 9⟩, some (none, some ⟨192, 168, 42, 129⟩)) := by decide +kernel
  obtain ⟨⟨⟨s, hist⟩, k⟩, hr, heq⟩ := Option.map_eq_some_iff.mp hrun
  simp only [Prod.mk.injEq] at heq
  obtain ⟨hfound, hheard, hlast⟩ := heq
  have hnames := offerRequest_names_iff 2 (refusedFirst (some ⟨192, 168, 42, 129⟩))
    (Vector.replicate 6 0) (fun _ => 0) s hist k hr hfound
  obtain ⟨before, m, f, rfl, -, hiff⟩ := hnames
  rw [List.dropLast_concat] at hheard
  rw [List.getLast?_concat, Option.map_some, Option.some.injEq, Prod.mk.injEq] at hlast
  obtain ⟨hstray, hown⟩ := hlast
  refine ⟨s, before, m, f, k, hr, hheard, hown, hiff.mpr ⟨fun a ha => ?_, fun _ hnone => ?_⟩⟩
  · exact absurd (hstray.symm.trans ha) (Option.some_ne_none a).symm
  · exact absurd (hown.symm.trans hnone) (Option.some_ne_none _)

/-- After the reply of 10.0.0.9, an offer without a server identifier is asked for in the name
    of 10.0.0.9. -/
theorem not_offerRequest_names :
    ¬ ∀ (fuel : Nat) (rx : Nat → Recv) (mac : Mac) (ethBuf : Mem) (s : OfferVars)
      (hist : List Heard) (k : Nat), offerRun fuel rx = some ((s, hist), k) →
        s.foundOffer = true → ∀ m f, hist.getLast? = some (m, f) →
          RequestNames ((dhcpBuildRequest ethBufSize mac xid s.offeredAddr s.serverAddr).packet
            ethBuf) m f := by
  intro h
  have hrun : (offerRun 2 (refusedFirst none)).map (fun r =>
      (r.1.1.foundOffer, r.1.1.serverAddr, r.1.2.getLast?.map fun l => ownServer l.1 l.2)) =
        some (true, ⟨10, 0, 0, 9⟩, some none) := by decide +kernel
  obtain ⟨⟨⟨s, hist⟩, k⟩, hr, heq⟩ := Option.map_eq_some_iff.mp hrun
  simp only [Prod.mk.injEq] at heq
  obtain ⟨hfound, hserver, hlast⟩ := heq
  obtain ⟨⟨m, f⟩, hl, hown⟩ := Option.map_eq_some_iff.mp hlast
  have hnames := h _ _ (.replicate 6 0) (fun _ => 0) s hist k hr hfound m f hl
  have h54 := hnames.2
  have hopts := (dhcpBuildRequest_options (.replicate 6 0) xid s.offeredAddr
    s.serverAddr (fun _ => 0) (by decide : 303 ≤ ethBufSize)).2
  rw [optionValue, hopts, hown, hserver] at h54
  cases h54

end AndroidTether
