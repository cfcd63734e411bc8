import AndroidTether.DhcpPacket
import AndroidTether.ProtoRndis

namespace AndroidTether

open Bytes WhileLoop Tlv

/-!
# The DHCP exchange

`dhcp_discover`: send a DISCOVER, wait for an OFFER in at most fifty receives, send a
REQUEST, wait for an ACK in at most fifty more.  What USB delivers is a script: the result
of the k-th `usb_recv_bulk` and the contents of `rndis_buf` after it.

* `inspectFrame`, `offerVisit`, `ackVisit` — what is done with one frame of a transfer;
* `recvLoop` — the receive loop of a phase;
* `dhcpDiscover` — the exchange;
* `messageWalks_halt_iff` — when the three walks over RNDIS messages end;
* `dhcpDiscover_lease` — where the addresses of a lease come from.
-/

/-- The transaction id of every exchange. -/
def xid : Nat := 0x12345678

/-- What one `usb_recv_bulk` left behind: its result, at most the buffer's size, and the
    memory from the start of `rndis_buf` on. -/
structure Recv where
  ret : Int
  mem : Mem
  ret_le : ret ≤ rndisBufSize

/-- The BOOTP header and the options of a frame that passed all checks. -/
structure DhcpView where
  dhcp : Nat
  optsLen : Nat
  deriving DecidableEq, Repr

/-- `dhcp->options` -/
def DhcpView.options (d : DhcpView) : Nat := d.dhcp + sizeofDhcpPacket

/-- The nested `if`s both phases make on a frame. -/
def inspectFrame (m : Mem) (frame : Span) : Logged (Option DhcpView) :=
  if frame.len < sizeofEthHdr + 20 + 8 + sizeofDhcpPacket then pure none
  else do
    let ethertype ← rdBe16 m (frame.start + 12)
    if ethertype ≠ 0x0800 then pure none
    else do
      let iph := frame.start + sizeofEthHdr
      let ipP ← rd8 m (iph + 9)
      if ipP ≠ ipprotoUdp then pure none
      else do
        let ipVhl ← rd8 m iph
        let udp := iph + ipVhl.toNat % 16 * 4
        let dport ← rdBe16 m (udp + 2)
        if dport ≠ dhcpClientPort then pure none
        else do
          let dhcp := udp + 8
          let magic ← rdBe32 m (dhcp + 236)
          if magic ≠ dhcpMagicCookie then pure none
          else do
            let id ← rdBe32 m (dhcp + 4)
            if id ≠ xid then pure none
            else
              let optsOffset := dhcp + sizeofDhcpPacket - frame.start
              pure (some ⟨dhcp, sizeSub frame.len optsOffset⟩)

/-- The DHCP message type a frame is taken to have, 0 if its options give none. -/
def replyType (m : Mem) (frame : Span) : Option UInt8 :=
  (inspectFrame m frame).val.map fun d => (optionScan ackOption m d.options d.optsLen 0).val

/-! ### The offer phase -/

/-- The variables of the offer phase.  `found_offer` is declared anew in every attempt, but no
    attempt follows one that set it. -/
structure OfferVars where
  offeredAddr : InAddr
  serverAddr : InAddr
  opts : NetOpts
  foundOffer : Bool
  deriving DecidableEq, Repr

/-- The variables before the first receive. -/
def OfferVars.init : OfferVars := ⟨.zero, .zero, .zero, false⟩

/-- What the offer phase does with a frame. -/
def offerVisit (m : Mem) (s : OfferVars) (frame : Span) : Logged (ForInStep OfferVars) := do
  match ← inspectFrame m frame with
  | none => pure (.yield s)
  | some d =>
    let scan ← optionScan offerOption m d.options d.optsLen ⟨0, s.serverAddr⟩
    let s := { s with serverAddr := scan.serverAddr }
    if scan.msgType = 2 then
      let yiaddr ← rdInAddr m (d.dhcp + 16)
      let opts ← dhcpParseOptions m d.options d.optsLen s.opts
      pure (.done { s with offeredAddr := yiaddr, opts := opts, foundOffer := true })
    else pure (.yield s)

/-! ### The ACK phase -/

/-- `dhcp_lease_t` -/
structure DhcpLease where
  ip : CStr
  gateway : CStr
  netmask : CStr
  dns1 : CStr
  dns2 : CStr
  deriving DecidableEq, Repr

/-- A lease field: the address if there is one, else the default. -/
def leaseField (a : InAddr) (dflt : CStr) : CStr :=
  if a ≠ .zero then strlcpy (inetNtoa a) 16 else strlcpy dflt 16

/-- The lease made from an ACK. -/
def leaseOf (yiaddr : InAddr) (o : NetOpts) : DhcpLease where
  ip := strlcpy (inetNtoa yiaddr) 16
  gateway := leaseField o.gateway defaultGateway
  netmask := leaseField o.netmask defaultNetmask
  dns1 := leaseField o.dns1 defaultDns1
  dns2 := leaseField o.dns2 defaultDns2

/-- The variables of the ACK phase; `acked` when the function has returned 0. -/
structure AckVars where
  opts : NetOpts
  lease : DhcpLease
  acked : Bool
  deriving DecidableEq, Repr

/-- What the ACK phase does with a frame. -/
def ackVisit (m : Mem) (s : AckVars) (frame : Span) : Logged (ForInStep AckVars) := do
  match ← inspectFrame m frame with
  | none => pure (.yield s)
  | some d =>
    let msgType ← optionScan ackOption m d.options d.optsLen 0
    if msgType = 5 then
      let opts ← dhcpParseOptions m d.options d.optsLen s.opts
      let yiaddr ← rdInAddr m (d.dhcp + 16)
      pure (.done { opts := opts, lease := leaseOf yiaddr opts, acked := true })
    else pure (.yield s)

/-! ### The exchange -/

/-- The receive loop of a phase, from receive `k` on with `n` attempts left: the variables
    after it and the number of receives so far.  `none` when a walk needs more than `fuel`
    rounds. -/
def recvLoop {σ : Type} (fuel : Nat) (rx : Nat → Recv)
    (visit : Mem → σ → Span → Logged (ForInStep σ)) (found : σ → Bool) :
    Nat → Nat → σ → Option (σ × Nat)
  | 0, k, s => some (s, k)
  | n + 1, k, s =>
    let r := rx k
    if r.ret ≤ 0 then recvLoop fuel rx visit found n (k + 1) s
    else
      match iterate (msgWalkStep r.mem r.ret.toNat (visit r.mem)) fuel (0, s) with
      | .yield _ => none
      | .done (_, s) =>
        if found s then some (s, k + 1) else recvLoop fuel rx visit found n (k + 1) s

/-- What a call did: the value returned, the lease after it and the transfers it sent. -/
structure DhcpResult where
  ret : Int
  lease : DhcpLease
  sent : List (List UInt8)
  deriving DecidableEq, Repr

/-- `dhcp_discover`.  `tx i` is the result of the i-th `usb_send_bulk`, `rx k` what the k-th
    `usb_recv_bulk` did; `ethBuf` and `rndisBuf` are what lies on the stack in the two
    buffers at the start. -/
def dhcpDiscover (fuel : Nat) (mac : Mac) (tx : Nat → Int) (rx : Nat → Recv)
    (ethBuf rndisBuf : Mem) (lease : DhcpLease) : Option DhcpResult :=
  let discover := dhcpBuildDiscover ethBufSize mac xid
  if discover.ret < 0 then some ⟨-1, lease, []⟩
  else
    let discoverPkt := rndisBuildDataPacket rndisBufSize (discover.packet ethBuf)
    if discoverPkt.ret < 0 then some ⟨-1, lease, []⟩
    else
      let sent := [discoverPkt.packet rndisBuf]
      if tx 0 < 0 then some ⟨-1, lease, sent⟩
      else
        match recvLoop fuel rx offerVisit OfferVars.foundOffer 50 0 .init with
        | none => none
        | some (offer, k) =>
          if offer.offeredAddr = .zero then some ⟨-1, lease, sent⟩
          else
            let request := dhcpBuildRequest ethBufSize mac xid offer.offeredAddr offer.serverAddr
            if request.ret < 0 then some ⟨-1, lease, sent⟩
            else
              let ethBuf := storeAll ethBuf discover.stores
              let requestPkt := rndisBuildDataPacket rndisBufSize (request.packet ethBuf)
              if requestPkt.ret < 0 then some ⟨-1, lease, sent⟩
              else
                let sent := sent ++ [requestPkt.packet (rx (k - 1)).mem]
                if tx 1 < 0 then some ⟨-1, lease, sent⟩
                else
                  match recvLoop fuel rx ackVisit AckVars.acked 50 k
                      ⟨offer.opts, lease, false⟩ with
                  | none => none
                  | some (ack, _) =>
                    if ack.acked then some ⟨0, ack.lease, sent⟩ else some ⟨-1, ack.lease, sent⟩

/-! ### One frame -/

variable {m : Mem} {f : Span} {usbLen : Nat}

/-- The Ethernet, length and protocol checks: a UDP frame long enough for a BOOTP header
    behind an IP header without options. -/
def IsUdp (m : Mem) (f : Span) : Prop :=
  sizeofEthHdr + 20 + 8 + sizeofDhcpPacket ≤ f.len ∧ be16 m (f.start + 12) = 0x0800 ∧
    m (f.start + sizeofEthHdr + 9) = ipprotoUdp

/-- The checks behind the IP header: the UDP port, the cookie and the transaction id. -/
def IsBootp (m : Mem) (f : Span) : Prop :=
  be16 m (f.start + sizeofEthHdr + ipHdrLen m f.start + 2) = dhcpClientPort ∧
    be32 m (f.start + dhcpOffset m f.start + 236) = dhcpMagicCookie ∧
    be32 m (f.start + dhcpOffset m f.start + 4) = xid

instance (m : Mem) (f : Span) : Decidable (IsUdp m f) := inferInstanceAs (Decidable (_ ∧ _ ∧ _))
instance (m : Mem) (f : Span) : Decidable (IsBootp m f) := inferInstanceAs (Decidable (_ ∧ _ ∧ _))

/-- The checks as a whole. -/
theorem inspectFrame_val (m : Mem) (f : Span) :
    (inspectFrame m f).val =
      if IsUdp m f ∧ IsBootp m f then
        some ⟨f.start + dhcpOffset m f.start,
          sizeSub f.len (dhcpOffset m f.start + sizeofDhcpPacket)⟩
      else none := by
  have hdhcp : f.start + sizeofEthHdr + (m (f.start + sizeofEthHdr)).toNat % 16 * 4 + 8 =
      f.start + dhcpOffset m f.start := by
    simp only [dhcpOffset, ipHdrLen]
    omega
  have hopts : f.start + dhcpOffset m f.start + sizeofDhcpPacket - f.start =
      dhcpOffset m f.start + sizeofDhcpPacket := by omega
  unfold inspectFrame
  by_cases hlen : f.len < sizeofEthHdr + 20 + 8 + sizeofDhcpPacket
  · simp [IsUdp, hlen, Nat.not_le.mpr hlen]
  by_cases heth : be16 m (f.start + 12) = 0x0800
  · by_cases hproto : m (f.start + sizeofEthHdr + 9) = ipprotoUdp
    · have hudp : IsUdp m f := ⟨by omega, heth, hproto⟩
      simp only [hlen, heth, hproto, hudp, if_false, true_and, ne_eq, not_true, rdBe16_val, rd8_val,
        Logged.val_bind, hdhcp, hopts, IsBootp, ipHdrLen]
      by_cases hport : be16 m (f.start + sizeofEthHdr +
          (m (f.start + sizeofEthHdr)).toNat % 16 * 4 + 2) = dhcpClientPort
      · by_cases hmagic : be32 m (f.start + dhcpOffset m f.start + 236) = dhcpMagicCookie
        · by_cases hid : be32 m (f.start + dhcpOffset m f.start + 4) = xid <;>
            simp [hport, hmagic, hid]
        · simp [hport, hmagic]
      · simp [hport]
    · simp [IsUdp, hlen, heth, hproto]
  · simp [IsUdp, hlen, heth]

/-- `yiaddr` of a frame in memory. -/
def yiaddrAt (m : Mem) (f : Span) : InAddr := inAddrAt m (f.start + dhcpOffset m f.start + 16)

/-- The BOOTP header of a frame that passed the checks is where the layout says. -/
theorem inspectFrame_dhcp {d : DhcpView} (h : (inspectFrame m f).val = some d) :
    d.dhcp = f.start + dhcpOffset m f.start := by
  rw [inspectFrame_val] at h
  split at h
  · simp only [Option.some.injEq] at h
    exact h ▸ rfl
  · cases h

/-- The offer phase takes a reply of type 2 as the offer; of any other frame it keeps at most
    the server address. -/
theorem offerVisit_cases (m : Mem) (s : OfferVars) (f : Span) :
    ∃ server opts, (offerVisit m s f).val =
      if replyType m f = some 2 then .done ⟨yiaddrAt m f, server, opts, true⟩
      else .yield { s with serverAddr := server } := by
  simp only [offerVisit, Logged.val_bind]
  cases hd : (inspectFrame m f).val with
  | none =>
    -- a frame that failed the checks has no message type
    have hty : replyType m f = none := by rw [replyType, hd, Option.map_none]
    exact ⟨s.serverAddr, s.opts, by rw [hty]; rfl⟩
  | some d =>
    have hty : replyType m f = some (optionScan ackOption m d.options d.optsLen 0).val := by
      rw [replyType, hd, Option.map_some]
    refine ⟨(optionScan offerOption m d.options d.optsLen ⟨0, s.serverAddr⟩).val.serverAddr,
      (dhcpParseOptions m d.options d.optsLen s.opts).val, ?_⟩
    simp only [Logged.val_bind, optionScan_msgType, hty, Option.some.injEq, yiaddrAt,
      ← inspectFrame_dhcp hd]
    split_ifs <;> rfl

/-- The ACK phase makes the lease from a reply of type 5 and skips any other frame. -/
theorem ackVisit_cases (m : Mem) (s : AckVars) (f : Span) :
    ∃ opts, (ackVisit m s f).val =
      if replyType m f = some 5 then .done ⟨opts, leaseOf (yiaddrAt m f) opts, true⟩
      else .yield s := by
  simp only [ackVisit, Logged.val_bind]
  cases hd : (inspectFrame m f).val with
  | none =>
    have hty : replyType m f = none := by rw [replyType, hd, Option.map_none]
    exact ⟨s.opts, by rw [hty]; rfl⟩
  | some d =>
    have hty : replyType m f = some (optionScan ackOption m d.options d.optsLen 0).val := by
      rw [replyType, hd, Option.map_some]
    refine ⟨(dhcpParseOptions m d.options d.optsLen s.opts).val, ?_⟩
    simp only [Logged.val_bind, hty, Option.some.injEq, yiaddrAt, ← inspectFrame_dhcp hd]
    split_ifs <;> rfl

/-- A frame that is passed over changes nothing but the server address. -/
theorem offerVisit_yield {s s' : OfferVars} (h : (offerVisit m s f).val = .yield s') :
    s'.foundOffer = s.foundOffer ∧ s'.offeredAddr = s.offeredAddr := by
  obtain ⟨server, opts, hval⟩ := offerVisit_cases m s f
  rw [hval] at h
  split at h <;> cases h
  exact ⟨rfl, rfl⟩

/-- A frame taken as the offer gives the address. -/
theorem offerVisit_done {s s' : OfferVars} (h : (offerVisit m s f).val = .done s') :
    s'.foundOffer = true ∧ s'.offeredAddr = yiaddrAt m f := by
  obtain ⟨server, opts, hval⟩ := offerVisit_cases m s f
  rw [hval] at h
  split at h <;> cases h
  exact ⟨rfl, rfl⟩

/-- The ACK phase passes over a frame without any change. -/
theorem ackVisit_yield {s s' : AckVars} (h : (ackVisit m s f).val = .yield s') : s' = s := by
  obtain ⟨opts, hval⟩ := ackVisit_cases m s f
  rw [hval] at h
  split at h <;> cases h
  rfl

/-- A frame taken as the ACK gives the lease. -/
theorem ackVisit_done {s s' : AckVars} (h : (ackVisit m s f).val = .done s') :
    s'.acked = true ∧ s'.lease = leaseOf (yiaddrAt m f) s'.opts := by
  obtain ⟨opts, hval⟩ := ackVisit_cases m s f
  rw [hval] at h
  split at h <;> cases h
  exact ⟨rfl, rfl⟩

/-- The visit of a frame ends the offer phase with an offer. -/
theorem offerVisit_endsBy (m : Mem) :
    EndsBy (offerVisit m) fun f => replyType m f = some 2 := by
  intro s f
  obtain ⟨server, opts, hval⟩ := offerVisit_cases m s f
  rw [hval]
  split_ifs with hoffer <;> simp [hoffer]

/-- It ends the second phase with an ACK. -/
theorem ackVisit_endsBy (m : Mem) : EndsBy (ackVisit m) fun f => replyType m f = some 5 := by
  intro s f
  obtain ⟨opts, hval⟩ := ackVisit_cases m s f
  rw [hval]
  split_ifs with hack <;> simp [hack]

/-- **Ending of the three walks.**  For a transfer of at most `RNDIS_BUF_SIZE` bytes, the
    walk of `rndis_drv_unwrap_data`, of the offer phase and of the ACK phase each end if and
    only if they do not come back to a message that wrapped the offset. -/
theorem messageWalks_halt_iff {σ : Type} (onFrame : σ → Span → σ) (ctx : σ) (offer : OfferVars)
    (ack : AckVars) (m : Mem) (usbLen : Nat) (hlen : usbLen ≤ rndisBufSize) :
    (Halts (msgWalkStep m usbLen (unwrapVisit onFrame)) (0, ctx) ↔
        ¬ ReturnsByWrap m usbLen fun _ => false) ∧
      (Halts (msgWalkStep m usbLen (offerVisit m)) (0, offer) ↔
        ¬ ReturnsByWrap m usbLen fun f => replyType m f = some 2) ∧
      (Halts (msgWalkStep m usbLen (ackVisit m)) (0, ack) ↔
        ¬ ReturnsByWrap m usbLen fun f => replyType m f = some 5) := by
  refine ⟨?_, ?_, ?_⟩
  · exact msgWalk_halts_iff (unwrapVisit_endsBy onFrame) hlen ctx
  · exact msgWalk_halts_iff (offerVisit_endsBy m) hlen offer
  · exact msgWalk_halts_iff (ackVisit_endsBy m) hlen ack

/-- The walks over a transfer of one wrapped three-byte frame end. -/
theorem messageWalks_halt_single :
    Halts (msgWalkStep (ofList (dataPacketBytes [1, 2, 3])) 47 (unwrapVisit recordFrame)) (0, []) ∧
      Halts (msgWalkStep (ofList (dataPacketBytes [1, 2, 3])) 47 (offerVisit
        (ofList (dataPacketBytes [1, 2, 3])))) (0, .init) := by
  have hno : ∀ ends, ¬ ReturnsByWrap (ofList (dataPacketBytes [1, 2, 3])) 47 ends := by
    rintro ends ⟨o, o', ho, -, hwraps, -⟩
    have hvisits : o = 0 ∨ o = 47 := by
      refine ho.invariant (I := fun a => a = 0 ∨ a = 47) (fun a b ha hab => ?_) (.inl rfl)
      obtain ⟨hfits, rfl⟩ := msgStep_yield hab
      rcases ha with rfl | rfl
      · exact .inr (by decide)
      · exact absurd hfits (by decide)
    rcases hvisits with rfl | rfl <;> exact absurd hwraps (by decide)
  obtain ⟨hunwrap, hoffer, -⟩ := messageWalks_halt_iff recordFrame [] .init
    ⟨.zero, ⟨[], [], [], [], []⟩, false⟩ (ofList (dataPacketBytes [1, 2, 3])) 47 (by decide)
  exact ⟨hunwrap.mpr (hno _), hoffer.mpr (hno _)⟩

/-- In `wrappedLenTransfer` the second message leads back to the first. -/
theorem returnsByWrap_wrappedLenTransfer {ends : Span → Bool} (h : ends ⟨52, 1500⟩ = false) :
    ReturnsByWrap (ofList wrappedLenTransfer) 52 ends := by
  have hfirst : msgStep (ofList wrappedLenTransfer) 52 ends 0 = .yield 8 := by
    have hframe : frameAt (ofList wrappedLenTransfer) 0 = none := by decide
    rw [msgStep, if_pos ⟨by decide, by rw [hframe]; rfl⟩]
    exact congrArg _ (by decide)
  have hsecond : msgStep (ofList wrappedLenTransfer) 52 ends 8 = .yield 0 := by
    have hframe : frameAt (ofList wrappedLenTransfer) 8 = some ⟨52, 1500⟩ := by decide
    rw [msgStep, if_pos ⟨by decide, by rw [hframe]; exact h⟩]
    exact congrArg _ (by decide)
  exact ⟨8, 0, .single hfirst, hsecond, by decide, .single hfirst⟩

/-- On `wrappedLenTransfer`, which fits in the buffer, none of the three walks ends. -/
theorem messageWalks_loop :
    wrappedLenTransfer.length ≤ rndisBufSize ∧
      ¬ Halts (msgWalkStep (ofList wrappedLenTransfer) 52 (unwrapVisit recordFrame)) (0, []) ∧
      ¬ Halts (msgWalkStep (ofList wrappedLenTransfer) 52
        (offerVisit (ofList wrappedLenTransfer))) (0, .init) ∧
      ¬ Halts (msgWalkStep (ofList wrappedLenTransfer) 52 (ackVisit (ofList wrappedLenTransfer)))
        (0, ⟨.zero, ⟨[], [], [], [], []⟩, false⟩) := by
  have hskip : replyType (ofList wrappedLenTransfer) ⟨52, 1500⟩ = none := by decide
  refine ⟨by decide, ?_, ?_, ?_⟩
  · rw [msgWalk_halts_iff (unwrapVisit_endsBy _) (by decide), not_not]
    exact returnsByWrap_wrappedLenTransfer rfl
  · rw [msgWalk_halts_iff (offerVisit_endsBy _) (by decide), not_not]
    exact returnsByWrap_wrappedLenTransfer (by rw [hskip]; rfl)
  · rw [msgWalk_halts_iff (ackVisit_endsBy _) (by decide), not_not]
    exact returnsByWrap_wrappedLenTransfer (by rw [hskip]; rfl)

/-! ### A phase on receives of any contents -/

/-- What the receive loop knows of a phase: `I` holds while nothing was found, and leaving a
    walk from inside means that something was found. -/
structure Phase {σ : Type} (visit : Mem → σ → Span → Logged (ForInStep σ)) (found : σ → Bool)
    (t : UInt8) (I : σ → Prop) : Prop where
  ends : ∀ m, EndsBy (visit m) fun f => replyType m f = some t
  keep : ∀ m s f s', I s → (visit m s f).val = .yield s' → I s'
  notFound : ∀ s, I s → found s = false
  isFound : ∀ m s f s', (visit m s f).val = .done s' → found s' = true

/-- The walk over receive `r` gets to the frame `f`, which is taken as a reply of type `t`. -/
def Accepts (r : Recv) (t : UInt8) (f : Span) : Prop :=
  ∃ o, Visits (msgStep r.mem r.ret.toNat fun f => replyType r.mem f = some t) 0 o ∧
    MsgFits r.mem r.ret.toNat o ∧ frameAt r.mem o = some f ∧ replyType r.mem f = some t

variable {σ : Type} {visit : Mem → σ → Span → Logged (ForInStep σ)} {found : σ → Bool}
  {t : UInt8} {I : σ → Prop} {fuel : Nat} {rx : Nat → Recv}

/-- A walk ends with nothing found, or at a frame it accepts. -/
theorem Phase.walk_cases (h : Phase visit found t I) {r : Recv} {s s' : σ} {o : Nat}
    (hs : I s) (hiter : iterate (msgWalkStep r.mem r.ret.toNat (visit r.mem)) fuel (0, s) =
      .done (o, s')) :
    I s' ∨ ∃ f s₀, I s₀ ∧ Accepts r t f ∧ (visit r.mem s₀ f).val = .done s' := by
  obtain ⟨u, hu, hlast⟩ := exists_visits_of_done hiter
  have hsim : Visits (msgStep r.mem r.ret.toNat _) 0 u.1 :=
    (msgWalk_simulates (h.ends r.mem)).visits hu
  have hIu : I u.2 := by
    refine hu.invariant (I := fun v => I v.2) (fun a b ha hab => ?_) hs
    rw [msgWalkStep_eq] at hab
    split at hab
    · cases hf : frameAt r.mem a.1 with
      | none =>
        simp only [hf, ForInStep.yield.injEq] at hab
        exact hab ▸ ha
      | some f =>
        cases hv : (visit r.mem a.2 f).val with
        | done v => simp [hf, hv] at hab
        | yield v =>
          simp only [hf, hv, ForInStep.yield.injEq] at hab
          exact hab ▸ h.keep _ _ _ _ ha hv
    · cases hab
  rw [msgWalkStep_eq] at hlast
  split at hlast
  · rename_i hfits
    cases hf : frameAt r.mem u.1 with
    | none => simp [hf] at hlast
    | some f =>
      cases hv : (visit r.mem u.2 f).val with
      | yield v => simp [hf, hv] at hlast
      | done v =>
        simp only [hf, hv, ForInStep.done.injEq, Prod.mk.injEq] at hlast
        obtain ⟨-, rfl⟩ := hlast
        have hends := h.ends r.mem u.2 f
        rw [hv] at hends
        have hty : replyType r.mem f = some t := of_decide_eq_true hends
        exact .inr ⟨f, u.2, hIu, ⟨u.1, hsim, hfits, hf, hty⟩, hv⟩
  · simp only [ForInStep.done.injEq] at hlast
    subst hlast
    exact .inl hIu

/-- A phase ends after all its attempts with nothing found, or in the attempt that accepts a
    frame. -/
theorem Phase.recvLoop_cases (h : Phase visit found t I) {n k k' : Nat} {s s' : σ} (hs : I s)
    (hloop : recvLoop fuel rx visit found n k s = some (s', k')) :
    (I s' ∧ k' = k + n) ∨
      ∃ j f s₀, k ≤ j ∧ j < k + n ∧ k' = j + 1 ∧ I s₀ ∧ Accepts (rx j) t f ∧
        (visit (rx j).mem s₀ f).val = .done s' := by
  induction n generalizing k s with
  | zero =>
    simp only [recvLoop, Option.some.injEq, Prod.mk.injEq] at hloop
    obtain ⟨rfl, rfl⟩ := hloop
    exact .inl ⟨hs, rfl⟩
  | succ n ih =>
    have hnext : ∀ v, I v → recvLoop fuel rx visit found n (k + 1) v = some (s', k') →
        (I s' ∧ k' = k + (n + 1)) ∨
          ∃ j f s₀, k ≤ j ∧ j < k + (n + 1) ∧ k' = j + 1 ∧ I s₀ ∧ Accepts (rx j) t f ∧
            (visit (rx j).mem s₀ f).val = .done s' := by
      intro v hv hrest
      rcases ih hv hrest with ⟨hI, hk⟩ | ⟨j, f, s₀, hkj, hj, hrest⟩
      · exact .inl ⟨hI, by omega⟩
      · exact .inr ⟨j, f, s₀, by omega, by omega, hrest⟩
    simp only [recvLoop] at hloop
    split at hloop
    · exact hnext s hs hloop
    · split at hloop
      · cases hloop
      · rename_i o v hiter
        rcases h.walk_cases hs hiter with hv | ⟨f, s₀, hs₀, hacc, hvisit⟩
        · simp only [h.notFound v hv] at hloop
          exact hnext v hv hloop
        · simp only [h.isFound _ _ _ _ hvisit, if_true, Option.some.injEq, Prod.mk.injEq] at hloop
          obtain ⟨rfl, rfl⟩ := hloop
          exact .inr ⟨k, f, s₀, le_refl k, by omega, rfl, hs₀, hacc, hvisit⟩

/-- The offer phase: no address while no offer was found. -/
theorem offerPhase : Phase offerVisit OfferVars.foundOffer 2
    fun s => s.foundOffer = false ∧ s.offeredAddr = .zero where
  ends := offerVisit_endsBy
  keep := fun _ _ _ _ hs hv => by
    obtain ⟨hfound, haddr⟩ := offerVisit_yield hv
    exact ⟨hfound.trans hs.1, haddr.trans hs.2⟩
  notFound := fun _ hs => hs.1
  isFound := fun _ _ _ _ hv => (offerVisit_done hv).1

/-- The ACK phase. -/
theorem ackPhase : Phase ackVisit AckVars.acked 5 fun s => s.acked = false where
  ends := ackVisit_endsBy
  keep := fun _ _ _ _ hs hv => ackVisit_yield hv ▸ hs
  notFound := fun _ hs => hs
  isFound := fun _ _ _ _ hv => (ackVisit_done hv).1

/-! ### Where a lease comes from -/

/-- The address in option 50 of the request among the transfers sent, as it is on the wire. -/
def requestedAddr (sent : List (List UInt8)) : Option (List UInt8) := do
  let frame ← (← sent[1]?) |> extractFrame
  let o ← (frameOptions frame).find? fun o => o.tag = 50
  return o.value

/-- The frame of a request, wrapped and sent, is found in what was sent. -/
theorem extractFrame_request (mac : Mac) (offeredIp serverIp : InAddr) (ethBuf rndisBuf : Mem) :
    extractFrame ((rndisBuildDataPacket rndisBufSize ((dhcpBuildRequest ethBufSize mac
      xid offeredIp serverIp).packet ethBuf)).packet rndisBuf) =
        some ((dhcpBuildRequest ethBufSize mac xid offeredIp serverIp).packet ethBuf) := by
  have hlen : ((dhcpBuildRequest ethBufSize mac xid offeredIp serverIp).packet ethBuf).length =
      303 := by
    rw [Built.packet, slice_length,
      (dhcpBuildRequest_options mac xid offeredIp serverIp ethBuf (by decide : 303 ≤ ethBufSize)).1]
    rfl
  generalize (dhcpBuildRequest ethBufSize mac xid offeredIp serverIp).packet ethBuf = frame at *
  have hne : frame ≠ [] := by
    rintro rfl
    cases hlen
  have hsize : sizeofRndisDataPacket + frame.length = 347 := by rw [hlen]; rfl
  rw [rndisBuildDataPacket_packet _ (by rw [hsize]; decide) (by rw [hsize]; decide),
    extractFrame_dataPacketBytes hne (by rw [hsize]; decide)]

/-- It asks for the offered address. -/
theorem requestedAddr_request (mac : Mac) (offeredIp serverIp : InAddr) (ethBuf rndisBuf : Mem)
    (discover : List UInt8) :
    requestedAddr [discover, (rndisBuildDataPacket rndisBufSize ((dhcpBuildRequest ethBufSize mac
      xid offeredIp serverIp).packet ethBuf)).packet rndisBuf] = some offeredIp.bytes := by
  have hopts := (dhcpBuildRequest_options mac xid offeredIp serverIp ethBuf
    (by decide : 303 ≤ ethBufSize)).2
  simp [requestedAddr, extractFrame_request, hopts, requestOptions]

/-- What happened in an exchange that returned 0. -/
theorem dhcpDiscover_success {mac : Mac} {tx : Nat → Int} {ethBuf rndisBuf : Mem}
    {lease : DhcpLease} {r : DhcpResult}
    (h : dhcpDiscover fuel mac tx rx ethBuf rndisBuf lease = some r) (h0 : r.ret = 0) :
    ∃ offer k ack k',
      recvLoop fuel rx offerVisit OfferVars.foundOffer 50 0 .init = some (offer, k) ∧
      offer.offeredAddr ≠ .zero ∧
      recvLoop fuel rx ackVisit AckVars.acked 50 k ⟨offer.opts, lease, false⟩ = some (ack, k') ∧
      ack.acked = true ∧ r.lease = ack.lease ∧
      requestedAddr r.sent = some offer.offeredAddr.bytes := by
  simp only [dhcpDiscover] at h
  split at h
  · cases h; cases h0
  split at h
  · cases h; cases h0
  split at h
  · cases h; cases h0
  split at h
  · cases h
  rename_i offer k hoffer
  split at h
  · cases h; cases h0
  rename_i haddr
  split at h
  · cases h; cases h0
  split at h
  · cases h; cases h0
  split at h
  · cases h; cases h0
  split at h
  · cases h
  rename_i ack k' hack
  split at h
  · rename_i hacked
    cases h
    exact ⟨offer, k, ack, k', hoffer, haddr, hack, hacked, rfl, requestedAddr_request _ _ _ _ _ _⟩
  · cases h; cases h0

/-- **Where a lease comes from.**  When `dhcp_discover` returns 0, it asked for the address of
    an offer it accepted in the first fifty receives, which is not 0.0.0.0, and the lease
    names the address of an ACK it accepted later, in one of the next fifty. -/
theorem dhcpDiscover_lease (fuel : Nat) (mac : Mac) (tx : Nat → Int) (rx : Nat → Recv)
    (ethBuf rndisBuf : Mem) (lease : DhcpLease) (r : DhcpResult)
    (h : dhcpDiscover fuel mac tx rx ethBuf rndisBuf lease = some r) (h0 : r.ret = 0) :
    ∃ j offer k ack, j < 50 ∧ j < k ∧ k ≤ j + 50 ∧
      Accepts (rx j) 2 offer ∧ Accepts (rx k) 5 ack ∧
      yiaddrAt (rx j).mem offer ≠ .zero ∧
      requestedAddr r.sent = some (yiaddrAt (rx j).mem offer).bytes ∧
      r.lease.ip = inetNtoa (yiaddrAt (rx k).mem ack) ∧
      (r.lease.ip = inetNtoa (yiaddrAt (rx j).mem offer) ↔
        yiaddrAt (rx k).mem ack = yiaddrAt (rx j).mem offer) := by
  obtain ⟨offer, k, ack, k', hoffer, hne, hack, hacked, hlease, hreq⟩ :=
    dhcpDiscover_success h h0
  rcases offerPhase.recvLoop_cases ⟨rfl, rfl⟩ hoffer with ⟨hnone, -⟩ |
    ⟨j, f, s₀, -, hj, rfl, -, hacc, hvisit⟩
  · exact absurd hnone.2 hne
  rcases ackPhase.recvLoop_cases rfl hack with ⟨hnone, -⟩ |
    ⟨k, g, s₁, hjk, hk, -, -, hacc', hvisit'⟩
  · rw [hnone] at hacked
    cases hacked
  have haddr := (offerVisit_done hvisit).2
  have hip : r.lease.ip = inetNtoa (yiaddrAt (rx k).mem g) := by
    rw [hlease, (ackVisit_done hvisit').2, leaseOf, strlcpy_inetNtoa]
  rw [haddr] at hne hreq
  refine ⟨j, f, k, g, by omega, by omega, by omega, hacc, hacc', hne, hreq, hip, ?_⟩
  rw [hip]
  exact ⟨fun heq => inetNtoa_injective heq, fun heq => heq ▸ rfl⟩

/-- A reply of type `t` that gives the address `yiaddr`, with no other options. -/
def bootpReply (t : UInt8) (yiaddr : InAddr) : List UInt8 :=
  List.replicate 12 0 ++ [0x08, 0x00, 0x45] ++ List.replicate 8 0 ++ [ipprotoUdp] ++
    List.replicate 12 0 ++ be16Bytes dhcpClientPort ++ List.replicate 8 0 ++ be32Bytes xid ++
    List.replicate 8 0 ++ yiaddr.bytes ++ List.replicate 216 0 ++ be32Bytes dhcpMagicCookie ++
    [53, 1, t, 0xFF]

/-- A reply has 286 bytes. -/
theorem bootpReply_length (t : UInt8) (yiaddr : InAddr) : (bootpReply t yiaddr).length = 286 := by
  simp only [bootpReply, InAddr.bytes, List.length_append, List.length_replicate, List.length_cons,
    List.length_nil, be16Bytes_length, be32Bytes_length]

/-- A receive that delivered the bytes `bs`. -/
def Recv.ofBytes (bs : List UInt8) (h : bs.length ≤ rndisBufSize) : Recv :=
  ⟨bs.length, ofList bs, by exact_mod_cast h⟩

/-- An offer of `offered`, then an ACK for `acked` in every receive. -/
def exchange (offered acked : InAddr) (k : Nat) : Recv :=
  .ofBytes (dataPacketBytes (if k = 0 then bootpReply 2 offered else bootpReply 5 acked)) (by
    rw [dataPacketBytes_length]
    split <;> rw [bootpReply_length] <;> decide)

/-- The exchange for 192.168.42.100, from the request's option to the lease. -/
theorem dhcpDiscover_lease_exchange :
    ∃ r j offer k ack, dhcpDiscover 2 (Vector.replicate 6 0) (fun _ => 0)
        (exchange ⟨192, 168, 42, 100⟩ ⟨192, 168, 42, 100⟩) (fun _ => 0) (fun _ => 0)
        ⟨[], [], [], [], []⟩ = some r ∧ j < k ∧
      Accepts (exchange ⟨192, 168, 42, 100⟩ ⟨192, 168, 42, 100⟩ j) 2 offer ∧
      Accepts (exchange ⟨192, 168, 42, 100⟩ ⟨192, 168, 42, 100⟩ k) 5 ack ∧
      requestedAddr r.sent = some (yiaddrAt
        (exchange ⟨192, 168, 42, 100⟩ ⟨192, 168, 42, 100⟩ j).mem offer).bytes := by
  have hrun : (dhcpDiscover 2 (Vector.replicate 6 0) (fun _ => 0)
      (exchange ⟨192, 168, 42, 100⟩ ⟨192, 168, 42, 100⟩) (fun _ => 0) (fun _ => 0)
      ⟨[], [], [], [], []⟩).map DhcpResult.ret = some 0 := by decide +kernel
  obtain ⟨r, hr, hret⟩ := Option.map_eq_some_iff.mp hrun
  obtain ⟨j, offer, k, ack, -, hjk, -, hoffer, hack, -, hreq, -⟩ :=
    dhcpDiscover_lease 2 _ _ _ _ _ _ r hr hret
  exact ⟨r, j, offer, k, ack, hr, hjk, hoffer, hack, hreq⟩

/-- The address of the ACK is not compared with the offer: after an offer of 192.168.42.100
    an ACK for 0.0.0.0 becomes the lease. -/
theorem not_dhcpDiscover_requested :
    ¬ ∀ (fuel : Nat) (mac : Mac) (tx : Nat → Int) (rx : Nat → Recv) (ethBuf rndisBuf : Mem)
      (lease : DhcpLease) (r : DhcpResult),
      dhcpDiscover fuel mac tx rx ethBuf rndisBuf lease = some r → r.ret = 0 →
        ∃ a : InAddr, a ≠ .zero ∧ requestedAddr r.sent = some a.bytes ∧
          r.lease.ip = inetNtoa a := by
  intro h
  have hrun : (dhcpDiscover 2 (Vector.replicate 6 0) (fun _ => 0)
      (exchange ⟨192, 168, 42, 100⟩ .zero) (fun _ => 0) (fun _ => 0)
      ⟨[], [], [], [], []⟩).map (fun r => (r.ret, r.lease.ip)) = some (0, inetNtoa .zero) := by
    decide +kernel
  obtain ⟨r, hr, hres⟩ := Option.map_eq_some_iff.mp hrun
  simp only [Prod.mk.injEq] at hres
  obtain ⟨a, hne, -, hip⟩ := h _ _ _ _ _ _ _ r hr hres.1
  exact hne (inetNtoa_injective (hip.symm.trans hres.2))

end AndroidTether
