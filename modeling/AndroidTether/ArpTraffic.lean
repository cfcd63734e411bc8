import AndroidTether.DhcpDiscover
import AndroidTether.RxBridge
import AndroidTether.TxPath
import Mathlib.Logic.Function.Basic

namespace AndroidTether

open Bytes Trans

/-!
# What a session says about addresses

`arp_send_gratuitous` of `arp.c`, and all that a session gives to the endpoint for data: the two
messages of `dhcp_discover`, the announcement, the packets of `tun_to_usb` and the replies of
`process_rx_frame`.  Whoever hears them learns from the ARP packets among them.

* `arpSendGratuitous_eq` — the announcement is a reply to everybody, about ourselves;
* `SessionMsg` — the messages of a session; `SessionMsg.hear` — what one of them teaches;
* `session_binds_own` — no traffic of a session, whatever it receives and in whatever order its
  messages go out, binds an address that is not ours, or ours to another hardware address;
* `arpRequest_resolved` — a host that asks for our address learns it.
-/

/-! ### The announcement -/

/-- The address that `memset(.., 0xFF, 6)` leaves. -/
def ethBroadcast : Mac := Vector.replicate 6 0xFF

/-- What `arp_send_gratuitous` writes to `garp_eth`; `garp_len` bytes of it are sent. -/
def gratuitousArp (mac : Mac) (ipN : InAddr) : Built :=
  let garp := sizeofEthHdr
  { ret := toInt (sizeofEthHdr + sizeofArpPacket)
    stores := [
      ⟨0, List.replicate (sizeofEthHdr + sizeofArpPacket) 0⟩,
      ⟨0, List.replicate 6 0xFF⟩,
      ⟨6, mac.toList⟩,
      ⟨12, be16Bytes arpEtherType⟩,
      ⟨garp, be16Bytes arpHwEthernet⟩,
      ⟨garp + 2, be16Bytes 0x0800⟩,
      ⟨garp + 4, [6]⟩,
      ⟨garp + 5, [4]⟩,
      ⟨garp + 6, be16Bytes arpOpReply⟩,
      ⟨garp + 8, mac.toList⟩,
      ⟨garp + 14, ipN.bytes⟩,
      ⟨garp + 18, List.replicate 6 0xFF⟩,
      ⟨garp + 24, ipN.bytes⟩] }

/-- `arp_send_gratuitous`: what it gives to `usb_send_bulk`.  `garpEth` and `garpRndis` are what
    its buffers hold before. -/
def arpSendGratuitous (mac : Mac) (ipN : InAddr) (garpEth garpRndis : Mem) :
    Option (List UInt8) :=
  let grndis := rndisBuildDataPacket rndisBufSize ((gratuitousArp mac ipN).packet garpEth)
  if 0 < grndis.ret then some (grndis.packet garpRndis) else none

/-- It writes the reply that everybody would get to a question for our address. -/
theorem gratuitousArp_eq (mac : Mac) (ipN : InAddr) :
    gratuitousArp mac ipN = arpBuildReply ethBufSize mac ipN ethBroadcast ipN := by
  have hroom : ¬ ethBufSize < sizeofEthHdr + sizeofArpPacket := by decide
  rw [arpBuildReply, if_neg hroom]
  rfl

/-- A frame that fits its buffer is wrapped whole. -/
theorem rndisBuildDataPacket_fits {frame : List UInt8} (h : frame.length ≤ ethBufSize) (m : Mem) :
    0 < (rndisBuildDataPacket rndisBufSize frame).ret ∧
      (rndisBuildDataPacket rndisBufSize frame).packet m = dataPacketBytes frame := by
  have hfit : sizeofRndisDataPacket + frame.length ≤ rndisBufSize := by
    simp only [ethBufSize, sizeofRndisDataPacket, rndisBufSize] at *
    omega
  have hlt := Nat.lt_of_le_of_lt hfit (by decide : rndisBufSize < 2 ^ 31)
  refine ⟨?_, rndisBuildDataPacket_packet m hfit hlt⟩
  rw [rndisBuildDataPacket_ret hfit hlt]
  simp only [sizeofRndisDataPacket]
  omega

/-- The announcement always goes out, and what the buffers held does not matter. -/
theorem arpSendGratuitous_eq (mac : Mac) (ipN : InAddr) (garpEth garpRndis : Mem) :
    arpSendGratuitous mac ipN garpEth garpRndis =
      some (dataPacketBytes (arpReplyBytes mac ethBroadcast ipN ipN)) := by
  have hframe : (gratuitousArp mac ipN).packet garpEth = arpReplyBytes mac ethBroadcast ipN ipN := by
    rw [gratuitousArp_eq, arpBuildReply_packet _ _ _ _ (by decide)]
  have hle : (arpReplyBytes mac ethBroadcast ipN ipN).length ≤ ethBufSize := by
    rw [arpReplyBytes_length]
    decide
  obtain ⟨hret, hpacket⟩ := rndisBuildDataPacket_fits hle garpRndis
  rw [arpSendGratuitous, hframe]
  simp only [hret, if_true, hpacket]

/-! ### Who listens -/

/-- The addresses that a host on the network believes in. -/
abbrev ArpCache := InAddr → Option Mac

/-- A host that believes every ARP packet there is, whatever its other fields say. -/
def believe (cache : ArpCache) (frame : List UInt8) : ArpCache :=
  if 42 ≤ frame.length ∧ etherTypeOf frame = arpEtherType then
    Function.update cache (arpFrame frame).senderIp (some (arpFrame frame).senderMac)
  else cache

/-- It gets the frame of a message, if there is one. -/
def hear (cache : ArpCache) (msg : List UInt8) : ArpCache :=
  (extractFrame msg).elim cache (believe cache)

/-- A message that is ours. -/
def OwnArp (mac : Mac) (ip : InAddr) (msg : List UInt8) : Prop :=
  ∃ theirMac theirIp, msg = dataPacketBytes (arpReplyBytes mac theirMac ip theirIp)

/-- A message whose frame is no ARP. -/
def NoArp (msg : List UInt8) : Prop :=
  ∃ frame, extractFrame msg = some frame ∧ etherTypeOf frame ≠ arpEtherType

variable {mac : Mac} {ip : InAddr} {msg : List UInt8}

/-- The far end finds the reply in its message. -/
theorem extractFrame_reply (mac theirMac : Mac) (ip theirIp : InAddr) :
    extractFrame (dataPacketBytes (arpReplyBytes mac theirMac ip theirIp)) =
      some (arpReplyBytes mac theirMac ip theirIp) := by
  have hlen := arpReplyBytes_length mac theirMac ip theirIp
  apply extractFrame_dataPacketBytes
  · exact List.length_pos_iff.mp (by omega)
  · rw [hlen]
    decide

/-- Our messages bind our address to ours. -/
theorem OwnArp.hear (h : OwnArp mac ip msg) (cache : ArpCache) :
    hear cache msg = Function.update cache ip (some mac) := by
  obtain ⟨theirMac, theirIp, rfl⟩ := h
  have hlen := arpReplyBytes_length mac theirMac ip theirIp
  have hfields := arpFrame_replyBytes mac theirMac ip theirIp
  have htype : etherTypeOf (arpReplyBytes mac theirMac ip theirIp) = arpEtherType :=
    congrArg ArpFrame.etherType hfields
  rw [AndroidTether.hear, extractFrame_reply]
  show believe cache (arpReplyBytes mac theirMac ip theirIp) = _
  rw [believe, if_pos ⟨hlen.ge, htype⟩, hfields]

/-- Other messages teach nothing. -/
theorem NoArp.hear (h : NoArp msg) (cache : ArpCache) : hear cache msg = cache := by
  obtain ⟨frame, hframe, htype⟩ := h
  rw [AndroidTether.hear, hframe]
  exact if_neg fun harp => htype harp.2

/-! ### What is sent -/

/-- What a session of the hardware address `mac` and the address `ip` gives to the endpoint for
    data: in the exchange before, as its announcement, by the thread that reads the utun, and by
    the one that answers. -/
inductive SessionMsg (mac : Mac) (ip : InAddr) (msg : List UInt8) : Prop where
  | dhcp {fuel : Nat} {tx : Nat → Int} {rx : Nat → Recv} {ethBuf rndisBuf : Mem}
      {lease : DhcpLease} {r : DhcpResult}
      (h : dhcpDiscover fuel mac tx rx ethBuf rndisBuf lease = some r) (hmsg : msg ∈ r.sent)
  | gratuitous {garpEth garpRndis : Mem}
      (h : arpSendGratuitous mac ip garpEth garpRndis = some msg)
  | tun {ebuf : Mem} {buf : Fin numTxXfers → Mem} {l : List (TxPath × TxPath.Action)}
      {t : TxPath} (h : Run (TxPath.step mac) (TxPath.start ebuf buf) l t) (hmsg : msg ∈ t.wire)
  | arpReply {env : Nat → RxEnv} {ctx : RxCtx} {xfer : Fin numRxXfers → RxTransfer}
      {l : List (RxBridge × RxBridge.Action)} {t : RxBridge} (hmac : ctx.mac = mac)
      (hip : ctx.ourIp = ip) (hstart : ctx.arpReplies = [])
      (h : Run (RxBridge.step env) (RxBridge.start ctx xfer) l t)
      (hmsg : msg ∈ t.ctx.arpReplies)

/-! ### What one message teaches -/

/-- The frames that both builders of `dhcp.c` leave behind say that they are IP. -/
theorem dhcpBuildFrame_etherType {bufSize : Nat} {xid : Nat} {ipFields : List Store}
    {opts : List UInt8} (hsize : 300 ≤ bufSize) (hlt : opts.length < 2 ^ 30)
    (hip : ∀ t ∈ ipFields, sizeofEthHdr ≤ t.pos) (m : Mem) :
    etherTypeOf ((dhcpBuildFrame bufSize mac xid ipFields opts).packet m) = 0x0800 := by
  have hret : (dhcpBuildFrame bufSize mac xid ipFields opts).ret = max 300 (282 + opts.length) :=
    dhcpBuildFrame_ret hsize hlt
  have hlen : 12 + 2 ≤ (dhcpBuildFrame bufSize mac xid ipFields opts).ret.toNat := by omega
  rw [etherTypeOf, Built.packet, be16_slice _ hlen, dhcpBuildFrame,
    if_neg (Nat.not_lt.mpr hsize)]
  simp only [storeAll_append]
  generalize ipChecksum _ _ = checksum
  -- nothing after the fourth write touches the two bytes
  have htype := at_storeAll m [⟨0, List.replicate bufSize 0⟩, ⟨0, List.replicate 6 0xFF⟩,
    ⟨6, mac.toList⟩] ⟨12, be16Bytes 0x0800⟩ [⟨sizeofEthHdr, [0x45]⟩] (by simp [sizeofEthHdr])
  have hfields := htype.storeAll_of_disjoint fun t ht => .inr (hip t ht)
  refine ((hfields.storeAll_of_disjoint ?_).storeAll_of_disjoint ?_).be16_eq
  · simp [sizeofEthHdr, sizeofDhcpPacket]
  · simp [sizeofEthHdr]

/-- A message around such a frame teaches nothing. -/
theorem noArp_dhcp {xid : Nat} {ipFields : List Store} {opts : List UInt8}
    (hlt : opts.length ≤ 100) (hip : ∀ t ∈ ipFields, sizeofEthHdr ≤ t.pos) (m m' : Mem) :
    NoArp ((rndisBuildDataPacket rndisBufSize
      ((dhcpBuildFrame ethBufSize mac xid ipFields opts).packet m)).packet m') := by
  have hret : (dhcpBuildFrame ethBufSize mac xid ipFields opts).ret =
      max 300 (282 + opts.length) := dhcpBuildFrame_ret (by decide) (by omega)
  have htype : etherTypeOf ((dhcpBuildFrame ethBufSize mac xid ipFields opts).packet m) = 0x0800 :=
    dhcpBuildFrame_etherType (by decide) (by omega) hip m
  have hlen := Built.packet_length (dhcpBuildFrame ethBufSize mac xid ipFields opts) m
  generalize (dhcpBuildFrame ethBufSize mac xid ipFields opts).packet m = frame at htype hlen ⊢
  have hle : frame.length ≤ ethBufSize := by
    simp only [ethBufSize]
    omega
  have hne : frame ≠ [] := List.length_pos_iff.mp (by omega)
  rw [(rndisBuildDataPacket_fits hle m').2]
  refine ⟨frame, extractFrame_dataPacketBytes hne ?_, ?_⟩
  · simp only [sizeofRndisDataPacket, ethBufSize] at *
    omega
  · rw [htype]
    decide

/-- Whatever `dhcp_discover` does, it sends its discover and at most one request. -/
theorem dhcpDiscover_noArp {fuel : Nat} {tx : Nat → Int} {rx : Nat → Recv}
    {ethBuf rndisBuf : Mem} {lease : DhcpLease} {r : DhcpResult}
    (h : dhcpDiscover fuel mac tx rx ethBuf rndisBuf lease = some r) :
    ∀ msg ∈ r.sent, NoArp msg := by
  have hdiscover : ∀ m m', NoArp ((rndisBuildDataPacket rndisBufSize
      ((dhcpBuildDiscover ethBufSize mac xid).packet m)).packet m') :=
    fun m m' => noArp_dhcp (by decide) (by simp) m m'
  have hrequest : ∀ offeredIp serverIp m m', NoArp ((rndisBuildDataPacket rndisBufSize
      ((dhcpBuildRequest ethBufSize mac xid offeredIp serverIp).packet m)).packet m') := by
    intro offeredIp serverIp m m'
    exact noArp_dhcp (by simp [requestOptionBytes, InAddr.bytes]) (by simp) m m'
  intro msg hmsg
  simp only [dhcpDiscover] at h
  -- the returns before the first message, after it, and after the second
  repeat' split at h
  all_goals cases h
  all_goals simp only [List.not_mem_nil, List.mem_singleton, List.mem_append] at hmsg
  all_goals first
    | exact hmsg ▸ hdiscover _ _
    | exact hmsg.elim (fun heq => heq ▸ hdiscover _ _) fun heq => heq ▸ hrequest _ _ _ _

/-- A packet from the utun travels in an IP frame. -/
theorem noArp_message {p : UtunPacket} (h : p.Accepted mac) : NoArp (p.message mac) := by
  obtain ⟨hle, hlt, -, hpacket⟩ := h.built
  have hne : (frameIpToEth p.bytes ethBufSize mac p.gwMac).ret ≠ -1 := by
    unfold UtunPacket.Accepted at h
    omega
  obtain ⟨-, -, -, htype, -⟩ := frameEthToUtun_ipToEth hne (by decide) (Nat.le_refl ethBufSize)
    (by decide) fun _ => 0
  rw [hpacket] at htype
  refine ⟨p.frame mac, extractFrame_dataPacketBytes ?_ ?_, htype⟩
  · exact List.length_pos_iff.mp (by omega)
  · simp only [sizeofRndisDataPacket, ethBufSize] at *
    omega

/-- What goes out when frames come in is about us. -/
theorem ownArp_of_after {env : Nat → RxEnv} {ctx : RxCtx} {frs : List (List UInt8)}
    (hstart : ctx.arpReplies = []) (hmsg : msg ∈ (ctx.after env frs).arpReplies) :
    OwnArp ctx.mac ctx.ourIp msg := by
  simp only [RxCtx.after, hstart, List.nil_append, List.mem_filterMap] at hmsg
  obtain ⟨⟨frame, i⟩, -, hanswer⟩ := hmsg
  unfold arpAnswer at hanswer
  split at hanswer
  · exact ⟨_, _, (Option.some.inj hanswer).symm⟩
  · cases hanswer

/-- A message of a session binds our address to ours, or teaches nothing. -/
theorem SessionMsg.own_or_noArp (h : SessionMsg mac ip msg) : OwnArp mac ip msg ∨ NoArp msg := by
  cases h with
  | dhcp h hmsg => exact .inr (dhcpDiscover_noArp h msg hmsg)
  | gratuitous h =>
    rw [arpSendGratuitous_eq] at h
    exact .inl ⟨_, _, (Option.some.inj h).symm⟩
  | tun h hmsg =>
    obtain ⟨sent, hsub, hwire⟩ := TxPath.wire_of_run h
    rw [hwire] at hmsg
    obtain ⟨p, hp, rfl⟩ := List.mem_map.mp hmsg
    have haccepted := (List.mem_filter.mp (hsub.subset hp)).2
    exact .inr (noArp_message (of_decide_eq_true haccepted))
  | arpReply hmac hip hstart h hmsg =>
    rw [(RxBridge.base_of_run h).ctx] at hmsg
    exact .inl (hmac ▸ hip ▸ ownArp_of_after hstart hmsg)

/-! ### What a host learns -/

/-- Messages that teach nothing. -/
theorem foldl_hear_noArp {wire : List (List UInt8)} (h : ∀ msg ∈ wire, NoArp msg)
    (cache : ArpCache) : wire.foldl hear cache = cache := by
  induction wire generalizing cache with
  | nil => rfl
  | cons msg wire ih =>
    rw [List.foldl_cons, (h msg List.mem_cons_self).hear]
    exact ih (fun msg' hmsg' => h msg' (List.mem_cons_of_mem _ hmsg')) cache

/-- Messages of which each binds our address to ours or teaches nothing: once our address is
    bound it stays so. -/
theorem foldl_hear_own {wire : List (List UInt8)}
    (h : ∀ msg ∈ wire, OwnArp mac ip msg ∨ NoArp msg) (hown : ∃ msg ∈ wire, OwnArp mac ip msg)
    (cache : ArpCache) : wire.foldl hear cache = Function.update cache ip (some mac) := by
  induction wire generalizing cache with
  | nil => simp at hown
  | cons msg wire ih =>
    have hrest : ∀ msg' ∈ wire, OwnArp mac ip msg' ∨ NoArp msg' := fun msg' hmsg' =>
      h msg' (List.mem_cons_of_mem _ hmsg')
    rw [List.foldl_cons]
    by_cases hlater : ∃ msg' ∈ wire, OwnArp mac ip msg'
    · rw [ih hrest hlater]
      rcases h msg List.mem_cons_self with hmsg | hmsg
      · rw [hmsg.hear, Function.update_idem]
      · rw [hmsg.hear]
    · -- then it is this one, and what follows teaches nothing
      have hno : ∀ msg' ∈ wire, NoArp msg' := fun msg' hmsg' =>
        (hrest msg' hmsg').resolve_left fun hmsg => hlater ⟨msg', hmsg', hmsg⟩
      obtain ⟨msg', hmem, hmsg'⟩ := hown
      rcases List.mem_cons.mp hmem with rfl | hmem
      · rw [foldl_hear_noArp hno, hmsg'.hear]
      · exact absurd ⟨msg', hmem, hmsg'⟩ hlater

/-- **What the network learns from us.**  Over any messages of a session, in any order, whatever
    was received in it: a host that believes all ARP it hears ends with our address bound to our
    hardware address if an announcement or a reply was among them, and with what it believed
    before if not; about every other address it has learned nothing. -/
theorem session_binds_own (wire : List (List UInt8)) (h : ∀ msg ∈ wire, SessionMsg mac ip msg)
    (cache : ArpCache) :
    ((∃ msg ∈ wire, OwnArp mac ip msg) →
        wire.foldl hear cache = Function.update cache ip (some mac)) ∧
      ((∀ msg ∈ wire, ¬ OwnArp mac ip msg) → wire.foldl hear cache = cache) ∧
      ∀ a, a ≠ ip → wire.foldl hear cache a = cache a := by
  have hkinds : ∀ msg ∈ wire, OwnArp mac ip msg ∨ NoArp msg := fun msg hmsg =>
    (h msg hmsg).own_or_noArp
  have hnone : (∀ msg ∈ wire, ¬ OwnArp mac ip msg) → wire.foldl hear cache = cache := by
    intro hno
    exact foldl_hear_noArp (fun msg hmsg => (hkinds msg hmsg).resolve_left (hno msg hmsg)) cache
  refine ⟨fun hown => foldl_hear_own hkinds hown cache, hnone, fun a ha => ?_⟩
  by_cases hown : ∃ msg ∈ wire, OwnArp mac ip msg
  · rw [foldl_hear_own hkinds hown cache, Function.update_of_ne ha]
  · rw [hnone fun msg hmsg hmine => hown ⟨msg, hmsg, hmine⟩]

/-- The announcement of 07:07:07:07:07:07 as 10.0.0.1. -/
def announcement : List UInt8 :=
  dataPacketBytes (arpReplyBytes (.replicate 6 7) ethBroadcast ⟨10, 0, 0, 1⟩ ⟨10, 0, 0, 1⟩)

/-- Nothing that answering needs is missing. -/
def rxEnvOk : Nat → RxEnv := fun _ => ⟨true, true, true, fun _ => 0, fun _ => 0, fun _ => 0⟩

/-- The context of 10.0.0.1 before the first frame. -/
def askedCtx : RxCtx := { freshRxCtx with ourIp := ⟨10, 0, 0, 1⟩ }

/-- A request for 10.0.0.1 arrives and is handled by `usb_to_tun`. -/
def oneRequest : List RxBridge.Action :=
  List.replicate 6 (.other (.rx ⟨true, true, 0, false, false⟩)) ++
    List.replicate 17 (.other (.rx ⟨false, false, 0, false, false⟩)) ++
    [.arrive Bridge.rxSlot0 .completed
      ⟨ofList (dataPacketBytes (requestOf arpHwEthernet)), 86⟩,
      .other (.main .goOn), .other (.dispatchRx Bridge.rxSlot0 .usbToTun), .round Bridge.rxSlot0]

/-- The two messages of an exchange, the announcement, a packet from the utun and the reply to a
    request, heard by 10.0.0.2, which knows itself. -/
theorem session_binds_own_mixed :
    ∃ wire : List (List UInt8), wire.length = 5 ∧
      (∀ msg ∈ wire, SessionMsg (.replicate 6 7) ⟨10, 0, 0, 1⟩ msg) ∧
      wire.foldl hear (Function.update (fun _ => none) ⟨10, 0, 0, 2⟩ (some (.replicate 6 2))) =
        Function.update (Function.update (fun _ => none) ⟨10, 0, 0, 2⟩ (some (.replicate 6 2)))
          ⟨10, 0, 0, 1⟩ (some (.replicate 6 7)) := by
  have hdhcp : (dhcpDiscover 2 (.replicate 6 7) (fun _ => 0)
      (exchange ⟨10, 0, 0, 1⟩ ⟨10, 0, 0, 1⟩) (fun _ => 0) (fun _ => 0) ⟨[], [], [], [], []⟩).map
        (·.sent.length) = some 2 := by decide +kernel
  obtain ⟨r, hr, htwo⟩ := Option.map_eq_some_iff.mp hdhcp
  obtain ⟨ltun, tun, htun, -, hone⟩ := exists_run_of_exec (TxPath.step (.replicate 6 7))
    (fun _ _ => true) (fun t => t.wire.length == 1) (TxPath.start (fun _ => 0) fun _ _ => 0)
    TxPath.onePacket (by decide +kernel)
  obtain ⟨lrx, rx, hrx, -, hreply⟩ := exists_run_of_exec (RxBridge.step rxEnvOk)
    (fun _ _ => true) (fun t => t.ctx.arpReplies.length == 1)
    (RxBridge.start askedCtx fun _ => ⟨fun _ => 0, 0⟩) oneRequest (by decide +kernel)
  have hsent : ∀ msg ∈ r.sent ++ announcement :: (tun.wire ++ rx.ctx.arpReplies),
      SessionMsg (.replicate 6 7) ⟨10, 0, 0, 1⟩ msg := by
    intro msg hmsg
    rcases List.mem_append.mp hmsg with hmsg | hmsg
    · exact .dhcp hr hmsg
    rcases List.mem_cons.mp hmsg with rfl | hmsg
    · exact .gratuitous (arpSendGratuitous_eq _ _ (fun _ => 0) fun _ => 0)
    rcases List.mem_append.mp hmsg with hmsg | hmsg
    · exact .tun htun hmsg
    · exact .arpReply rfl rfl rfl hrx hmsg
  refine ⟨_, ?_, hsent, (session_binds_own _ hsent _).1
    ⟨announcement, by simp, ethBroadcast, ⟨10, 0, 0, 1⟩, rfl⟩⟩
  simp [htwo, eq_of_beq hone, eq_of_beq hreply]

/-! ### Questions -/

/-- The frames of a transfer of messages are those of its data packets. -/
theorem frames_items {items : List TransferItem} {m : Mem}
    (hvalid : ∀ item ∈ items, item.Valid) (hlt : (items.map (·.size)).sum < 2 ^ 31)
    (hat : At m 0 (items.flatMap (·.bytes))) :
    ∃ fuel, RxTransfer.frames fuel ⟨m, (items.flatMap (·.bytes)).length⟩ =
      some (items.filterMap (·.frame?)) := by
  cases hitems : items with
  | nil => exact ⟨0, rfl⟩
  | cons item rest =>
    rw [← hitems]
    have hpos : 0 < (items.flatMap (·.bytes)).length := by
      have hmem : item ∈ items := hitems ▸ List.mem_cons_self
      have hsize : item.size ≤ _ := List.le_sum_of_mem (List.mem_map_of_mem (f := (·.size)) hmem)
      obtain ⟨⟨h8, -⟩, -, -⟩ := (hvalid item hmem).bytes_spec (by omega)
      rw [hitems, List.flatMap_cons, List.length_append]
      omega
    have htrail : ([] : List UInt8).length < 8 := by decide
    obtain ⟨fuel, hrun⟩ := rndisDrvUnwrapData_items (m := m)
      (h := fun (calls : List (List UInt8)) fr => calls ++ [fr]) (fun _ _ => rfl) hvalid htrail
      (by simpa using hlt) (by simpa using hat) []
    -- collecting the bytes of the frames is recording the frames
    rw [List.append_nil, unwrap_eq_foldl] at hrun
    simp only [List.foldl_append_eq_append, List.nil_append, ← List.flatMap_def,
      List.flatMap_singleton', ← List.map_eq_flatMap] at hrun
    refine ⟨fuel, ?_⟩
    rw [RxTransfer.frames, if_pos hpos]
    exact hrun

/-- With nothing missing, the answers are those to the frames that ask, in their order. -/
theorem arpReplies_after {env : Nat → RxEnv} {ctx : RxCtx} (hstart : ctx.arpReplies = [])
    (hsend : ∀ i, (env i).malloc ∧ (env i).allocTransfer ∧ (env i).submitTransfer)
    (frs : List (List UInt8)) :
    (ctx.after env frs).arpReplies =
      (frs.filter (AsksFor · ctx.ourIp)).map fun frame => dataPacketBytes (arpReplyBytes ctx.mac
        (arpFrame frame).senderMac ctx.ourIp (arpFrame frame).senderIp) := by
  simp only [RxCtx.after, hstart, List.nil_append]
  generalize ctx.frames = n
  induction frs generalizing n with
  | nil => rfl
  | cons frame frs ih =>
    rw [List.zipIdx_cons, List.filterMap_cons, ih]
    by_cases hasks : AsksFor frame ctx.ourIp
    · simp [arpAnswer, hasks, hsend]
    · simp [arpAnswer, hasks]

/-- A message carries the answer to a frame. -/
def Answers (mac : Mac) (ip : InAddr) (frame msg : List UInt8) : Prop :=
  ∃ reply, extractFrame msg = some reply ∧ AnswerTo frame reply mac ip

/-- The reply answers the frame whose sender it is for, and nobody answers it. -/
theorem answers_reply (mac : Mac) (ip : InAddr) (frame : List UInt8) :
    Answers mac ip frame (dataPacketBytes (arpReplyBytes mac (arpFrame frame).senderMac ip
      (arpFrame frame).senderIp)) := by
  have hheader := arpFrame_replyBytes mac (arpFrame frame).senderMac ip (arpFrame frame).senderIp
  refine ⟨_, extractFrame_reply _ _ _ _, hheader, fun size mac' ip' => ?_⟩
  apply arpHandleRequest_of_not_asks
  intro hasks
  have hop : arpOpReply = arpOpRequest := by simpa only [hheader] using hasks.opcode
  exact absurd hop (by decide)

/-- **Questions and answers.**  Of a transfer of messages, valid ones and in any number, exactly
    the frames that ask for our address are answered, in the order in which they ask and each
    once, when nothing that sending needs is missing; and as soon as one asks, whoever hears the
    answers knows our address, and nothing else that it did not know. -/
theorem arpRequests_answered (items : List TransferItem) (m : Mem) (env : Nat → RxEnv)
    (ctx : RxCtx) (hvalid : ∀ item ∈ items, item.Valid)
    (hlt : (items.map (·.size)).sum < 2 ^ 31) (hat : At m 0 (items.flatMap (·.bytes)))
    (hsend : ∀ i, (env i).malloc ∧ (env i).allocTransfer ∧ (env i).submitTransfer)
    (hstart : ctx.arpReplies = []) :
    ∃ fuel ctx', rxTransfers env fuel [⟨m, (items.flatMap (·.bytes)).length⟩] ctx = some ctx' ∧
      List.Forall₂ (Answers ctx.mac ctx.ourIp)
        ((items.filterMap (·.frame?)).filter (AsksFor · ctx.ourIp)) ctx'.arpReplies ∧
      ((∃ frame ∈ items.filterMap (·.frame?), AsksFor frame ctx.ourIp) → ∀ cache,
        ctx'.arpReplies.foldl hear cache = Function.update cache ctx.ourIp (some ctx.mac)) := by
  obtain ⟨fuel, hframes⟩ := frames_items hvalid hlt hat
  have hof : framesOf fuel [⟨m, (items.flatMap (·.bytes)).length⟩] =
      some (items.filterMap (·.frame?)) := by
    rw [framesOf, hframes, Option.bind_some, framesOf, Option.map_some, List.append_nil]
  have hrun : rxTransfers env fuel [⟨m, (items.flatMap (·.bytes)).length⟩] ctx =
      some (ctx.after env (items.filterMap (·.frame?))) := by
    rw [rxTransfers_eq, hof, Option.map_some]
  have hreplies := arpReplies_after hstart hsend (items.filterMap (·.frame?))
  refine ⟨fuel, _, hrun, ?_, ?_⟩
  · rw [hreplies, List.forall₂_map_right_iff, List.forall₂_same]
    exact fun frame _ => answers_reply _ _ frame
  · rintro ⟨frame, hframe, hasks⟩ cache
    apply foldl_hear_own
    · exact fun msg hmsg => .inl (ownArp_of_after hstart hmsg)
    · rw [hreplies]
      exact ⟨_, List.mem_map_of_mem (List.mem_filter.mpr ⟨hframe, decide_eq_true hasks⟩), _, _, rfl⟩

/-- A request for another address. -/
def strangersRequest : List UInt8 :=
  (requestOf arpHwEthernet).dropLast ++ [9]

/-- Two requests for 10.0.0.1, one of them of another hardware type, among a request for
    10.0.0.9, an IPv4 frame and a message that is no data packet. -/
def mixedMessages : List TransferItem :=
  [.frame strangersRequest rndisBufSize fun _ => 0,
    .frame (requestOf arpHwEthernet) rndisBufSize fun _ => 0,
    .other (le32Bytes 0x80000006 ++ le32Bytes 8),
    .frame (List.replicate 12 2 ++ [0x08, 0, 0x45]) rndisBufSize fun _ => 0xFF,
    .frame (requestOf 6) rndisBufSize fun _ => 0]

/-- Both requests are answered, nothing else is. -/
theorem arpRequests_answered_mixed :
    ∃ fuel ctx', rxTransfers rxEnvOk fuel
        [⟨ofList (mixedMessages.flatMap (·.bytes)), (mixedMessages.flatMap (·.bytes)).length⟩]
        askedCtx = some ctx' ∧
      List.Forall₂ (Answers (.replicate 6 7) ⟨10, 0, 0, 1⟩)
        [requestOf arpHwEthernet, requestOf 6] ctx'.arpReplies ∧
      ctx'.arpReplies.foldl hear (fun _ => none) =
        Function.update (fun _ => none) ⟨10, 0, 0, 1⟩ (some (.replicate 6 7)) := by
  have hvalid : ∀ item ∈ mixedMessages, item.Valid := by
    simp only [mixedMessages, List.forall_mem_cons]
    refine ⟨⟨by decide, by decide⟩, ⟨by decide, by decide⟩, ⟨⟨by decide, by decide⟩, by decide⟩,
      ⟨by decide, by decide⟩, ⟨by decide, by decide⟩, nofun⟩
  have hasked : (mixedMessages.filterMap (·.frame?)).filter (AsksFor · ⟨10, 0, 0, 1⟩) =
      [requestOf arpHwEthernet, requestOf 6] := by decide +kernel
  obtain ⟨fuel, ctx', hrun, hanswers, hheard⟩ := arpRequests_answered mixedMessages _ rxEnvOk
    askedCtx hvalid (by decide) (at_ofList _) (fun _ => ⟨rfl, rfl, rfl⟩) rfl
  refine ⟨fuel, ctx', hrun, hasked ▸ hanswers, hheard ?_ _⟩
  have hmem : requestOf 6 ∈ (mixedMessages.filterMap (·.frame?)).filter
      (AsksFor · ⟨10, 0, 0, 1⟩) := hasked ▸ by simp
  obtain ⟨hframe, hasks⟩ := List.mem_filter.mp hmem
  exact ⟨_, hframe, of_decide_eq_true hasks⟩

end AndroidTether
