import AndroidTether.Frame
import AndroidTether.Lib.Snapshot
import AndroidTether.Lib.Trans

namespace AndroidTether

open Bytes Snapshot Trans

/-!
# Learning the gateway's address while frames go out

`process_rx_frame` learns the gateway's hardware address in one thread, and `tun_to_usb` hands
the same six bytes to `frame_ip_to_eth` in another; neither takes a lock, and only the first
looks at `gw_mac_learned`.  A step is one byte of a `memcpy` or one atomic operation.

* `BridgeMac.step` — the two threads; `BridgeMac.gateway` — the address that is learned;
* `gatewayMac_whole_iff` — which frames go to a mixture of the broadcast address and the
  gateway's.
-/

/-- `memset(bctx.gw_mac, 0xFF, 6)` -/
def broadcastMac : Fin 6 → UInt8 := fun _ => 0xFF

/-- `eth->src` of a frame. -/
def ethSrc (frame : List UInt8) : Fin 6 → UInt8 := fun i => ofList frame (6 + i)

/-- The thread that receives: outside the `memcpy` of `process_rx_frame`, or in it with `i` bytes
    copied; with all six, the flag is next. -/
inductive RxThread where
  | idle
  | learning (frame : List UInt8) (i : Nat)

/-- A frame `frame_ip_to_eth` built, with how many bytes of the gateway's address had been copied
    when each byte of its destination was read. -/
structure Outbound where
  frame : List UInt8
  seen : Fin 6 → Nat

/-- The thread that sends: outside the first `memcpy` of `frame_ip_to_eth`, or in it with `i`
    bytes of `eth->dst` copied. -/
inductive TxThread where
  | idle
  | copying (utunPkt : List UInt8) (i : Nat) (dst : Fin 6 → UInt8) (seen : Fin 6 → Nat)

/-- The fields of `bridge_ctx_t` that both threads use, the threads, and the frames built. -/
structure BridgeMac where
  mac : Mac
  gwMac : Fin 6 → UInt8
  gwMacLearned : Bool
  rx : RxThread
  tx : TxThread
  outbound : List Outbound

/-- A step of the receiving thread, with the next frame if it is done with the last, or of the
    sending thread, with the next packet and what `ebuf` holds. -/
inductive MacAct where
  | rx (frame : List UInt8)
  | tx (utunPkt : List UInt8) (ebuf : Mem)

namespace BridgeMac

/-- After the set-up in `run_session`. -/
def start (mac : Mac) : BridgeMac := ⟨mac, broadcastMac, false, .idle, .idle, []⟩

/-- How many bytes of the gateway's address have been copied. -/
def progress (s : BridgeMac) : Nat :=
  match s.rx with
  | .idle => if s.gwMacLearned then 6 else 0
  | .learning _ i => i

/-- The address that is learned, from the `memcpy` on. -/
def gateway (s : BridgeMac) : Option (Fin 6 → UInt8) :=
  match s.rx with
  | .idle => if s.gwMacLearned then some s.gwMac else none
  | .learning frame _ => some (ethSrc frame)

/-- `process_rx_frame`, as far as it learns. -/
def rxStep (s : BridgeMac) (frame : List UInt8) : BridgeMac :=
  match s.rx with
  | .idle =>
    -- `atomic_load` and the tests of the frame
    if s.gwMacLearned = false ∧ sizeofEthHdr ≤ frame.length ∧ ofList frame 6 ≠ 0xFF then
      { s with rx := .learning frame 0 }
    else s
  | .learning frame i =>
    if h : i < 6 then
      { s with
        gwMac := Function.update s.gwMac ⟨i, h⟩ (ethSrc frame ⟨i, h⟩)
        rx := .learning frame (i + 1) }
    else { s with gwMacLearned := true, rx := .idle }

/-- `tun_to_usb`, as far as it builds frames. -/
def txStep (s : BridgeMac) (utunPkt : List UInt8) (ebuf : Mem) : BridgeMac :=
  match s.tx with
  | .idle =>
    if utunPkt.length < 5 ∨ sizeofEthHdr + (utunPkt.length - 4) > ethBufSize then s
    else { s with tx := .copying utunPkt 0 (fun _ => 0) fun _ => 0 }
  | .copying utunPkt i dst seen =>
    if h : i < 6 then
      { s with tx := .copying utunPkt (i + 1) (Function.update dst ⟨i, h⟩ (s.gwMac ⟨i, h⟩))
                (Function.update seen ⟨i, h⟩ s.progress) }
    else
      -- the rest of `frame_ip_to_eth` uses nothing that is shared
      let built := frameIpToEth utunPkt ethBufSize s.mac (Vector.ofFn dst)
      { s with
        tx := .idle
        outbound := if built.ret > 0 then s.outbound ++ [⟨built.packet ebuf, seen⟩] else s.outbound }

/-- One step of one thread. -/
def step (s : BridgeMac) : MacAct → Option BridgeMac
  | .rx frame => some (s.rxStep frame)
  | .tx utunPkt ebuf => some (s.txStep utunPkt ebuf)

/-! ### What is claimed of a frame -/

/-- The frame goes to everybody, and nothing had been learned when its destination was begun, or
    it goes to the gateway. -/
def Whole (s : BridgeMac) (o : Outbound) : Prop :=
  (o.frame.take 6 = List.ofFn broadcastMac ∧ o.seen 0 = 0) ∨
    ∃ gw, s.gateway = some gw ∧ o.frame.take 6 = List.ofFn gw

/-- Two bytes of the destination that differ from `0xFF` in the gateway's address were read, one
    when it had been copied and one when it had not. -/
def Torn (s : BridgeMac) (o : Outbound) : Prop :=
  ∃ gw, s.gateway = some gw ∧ Mixed broadcastMac gw o.seen

/-! ### The address that is learned -/

variable {s t : BridgeMac} {frame : List UInt8}

/-- What the receiving thread writes over the broadcast address. -/
def target (s : BridgeMac) : Fin 6 → UInt8 := s.gateway.getD broadcastMac

/-- The bytes of the gateway's address that are there are the first ones, it does not start with
    `0xFF`, and the flag is not set before all are there. -/
structure Learns (s : BridgeMac) : Prop where
  gwMac : s.gwMac = snapshot broadcastMac s.target fun _ => s.progress
  source : ∀ gw, s.gateway = some gw → gw 0 ≠ 0xFF
  flag : ∀ frame i, s.rx = .learning frame i → s.gwMacLearned = false ∧ i ≤ 6

/-- What the receiving thread can do. -/
theorem rxStep_cases (s : BridgeMac) (frame : List UInt8) :
    s.rxStep frame = s ∨
    (s.rx = .idle ∧ s.gwMacLearned = false ∧ ofList frame 6 ≠ 0xFF ∧
      s.rxStep frame = { s with rx := .learning frame 0 }) ∨
    (∃ frame' i, ∃ h : i < 6, s.rx = .learning frame' i ∧
      s.rxStep frame = { s with
        gwMac := Function.update s.gwMac ⟨i, h⟩ (ethSrc frame' ⟨i, h⟩)
        rx := .learning frame' (i + 1) }) ∨
    ∃ frame' i, s.rx = .learning frame' i ∧ ¬ i < 6 ∧
      s.rxStep frame = { s with gwMacLearned := true, rx := .idle } := by
  unfold rxStep
  cases hrx : s.rx with
  | idle =>
    dsimp only
    split
    · next h => exact .inr (.inl ⟨rfl, h.1, h.2.2, rfl⟩)
    · exact .inl rfl
  | learning frame' i =>
    dsimp only
    split
    · next h => exact .inr (.inr (.inl ⟨frame', i, h, rfl, rfl⟩))
    · next h => exact .inr (.inr (.inr ⟨frame', i, rfl, h, rfl⟩))

/-- Nothing is learned before the `memcpy`. -/
theorem progress_of_gateway_none (h : s.gateway = none) : s.progress = 0 := by
  unfold gateway at h
  unfold progress
  cases hrx : s.rx with
  | idle =>
    rw [hrx] at h
    simp only at h ⊢
    split at h
    · cases h
    · next hflag => exact if_neg hflag
  | learning frame i =>
    rw [hrx] at h
    cases h

/-- Two states of a run, the first before the second: what has been copied stays. -/
structure Later (s t : BridgeMac) : Prop where
  progress : s.progress ≤ t.progress
  target : s.progress = 0 ∨ t.target = s.target
  gateway : ∀ gw, s.gateway = some gw → t.gateway = some gw
  learned : s.gwMacLearned = true → t.gwMacLearned = true ∧ t.gwMac = s.gwMac

/-- A state is no later than itself. -/
theorem Later.refl (s : BridgeMac) : Later s s :=
  ⟨Nat.le_refl _, .inr rfl, fun _ h => h, fun h => ⟨h, rfl⟩⟩

/-- Later than what is later. -/
theorem Later.trans {u : BridgeMac} (h : Later s t) (h' : Later t u) : Later s u where
  progress := Nat.le_trans h.progress h'.progress
  target := by
    rcases h.target with hzero | htarget
    · exact .inl hzero
    · rcases h'.target with hzero | htarget'
      · exact .inl (Nat.le_zero.mp (hzero ▸ h.progress))
      · exact .inr (htarget'.trans htarget)
  gateway gw hgw := h'.gateway gw (h.gateway gw hgw)
  learned hlearned := by
    obtain ⟨hflag, hgwMac⟩ := h.learned hlearned
    obtain ⟨hflag', hgwMac'⟩ := h'.learned hflag
    exact ⟨hflag', hgwMac'.trans hgwMac⟩

/-- While a frame is learned from. -/
theorem learning_fields {i : Nat} (hrx : s.rx = .learning frame i) :
    s.gateway = some (ethSrc frame) ∧ s.target = ethSrc frame ∧ s.progress = i := by
  have hgateway : s.gateway = some (ethSrc frame) := by rw [BridgeMac.gateway, hrx]
  exact ⟨hgateway, by rw [BridgeMac.target, hgateway, Option.getD_some], by rw [progress, hrx]⟩

/-- A frame to learn from: nothing is copied yet. -/
theorem Learns.beginFrame (h : s.Learns) (hrx : s.rx = .idle) (hflag : s.gwMacLearned = false)
    (hsrc : ofList frame 6 ≠ 0xFF) :
    Learns { s with rx := .learning frame 0 } ∧ Later s { s with rx := .learning frame 0 } := by
  have hnone : s.gateway = none := by simp [BridgeMac.gateway, hrx, hflag]
  have hzero := progress_of_gateway_none hnone
  have hgwMac : s.gwMac = broadcastMac := by
    rw [h.gwMac]
    exact snapshot_of_zero fun _ => hzero
  refine ⟨⟨?_, ?_, ?_⟩, ⟨?_, .inl hzero, ?_, ?_⟩⟩
  · exact hgwMac.trans (snapshot_of_zero fun _ => rfl).symm
  · rintro gw hgw
    obtain rfl : ethSrc frame = gw := Option.some.inj hgw
    exact hsrc
  · rintro frame' i hlearning
    obtain ⟨-, rfl⟩ := RxThread.learning.inj hlearning
    exact ⟨hflag, Nat.zero_le _⟩
  · rw [hzero]
    exact Nat.zero_le _
  · simp [hnone]
  · simp [hflag]

/-- One byte of the `memcpy`. -/
theorem Learns.copyByte (h : s.Learns) {i : Nat} (hi : i < 6) (hrx : s.rx = .learning frame i) :
    let t : BridgeMac := { s with
      gwMac := Function.update s.gwMac ⟨i, hi⟩ (ethSrc frame ⟨i, hi⟩)
      rx := .learning frame (i + 1) }
    t.Learns ∧ Later s t := by
  obtain ⟨hflag, -⟩ := h.flag frame i hrx
  obtain ⟨hgateway, htarget, hprogress⟩ := learning_fields hrx
  have hgwMac := h.gwMac
  rw [htarget, hprogress] at hgwMac
  refine ⟨⟨?_, ?_, ?_⟩, ⟨?_, .inr htarget.symm, ?_, ?_⟩⟩
  · show Function.update s.gwMac ⟨i, hi⟩ _ = snapshot broadcastMac (ethSrc frame) fun _ => i + 1
    rw [hgwMac]
    exact update_snapshot broadcastMac (ethSrc frame) ⟨i, hi⟩
  · rintro gw hgw
    exact h.source gw (hgateway.trans hgw)
  · rintro frame' i' hlearning
    obtain ⟨-, rfl⟩ := RxThread.learning.inj hlearning
    exact ⟨hflag, hi⟩
  · rw [hprogress]
    exact Nat.le_succ i
  · rintro gw hgw
    exact hgateway.symm.trans hgw
  · simp [hflag]

/-- The flag, when all bytes are there. -/
theorem Learns.setFlag (h : s.Learns) {i : Nat} (hi : ¬ i < 6) (hrx : s.rx = .learning frame i) :
    let t : BridgeMac := { s with gwMacLearned := true, rx := .idle }
    t.Learns ∧ Later s t := by
  obtain ⟨hflag, hle⟩ := h.flag frame i hrx
  obtain rfl : i = 6 := Nat.le_antisymm hle (Nat.not_lt.mp hi)
  obtain ⟨hgateway, htarget, hprogress⟩ := learning_fields hrx
  have hgwMac : s.gwMac = ethSrc frame := by
    rw [h.gwMac, htarget, hprogress]
    exact snapshot_eq_new_iff.mpr fun j _ => j.isLt
  refine ⟨⟨?_, ?_, ?_⟩, ⟨?_, .inr ?_, ?_, ?_⟩⟩
  · exact (snapshot_eq_new_iff.mpr fun j _ => j.isLt).symm
  · rintro gw hgw
    obtain rfl : s.gwMac = gw := Option.some.inj hgw
    exact h.source _ (hgwMac.symm ▸ hgateway)
  · rintro frame' i' hlearning
    cases hlearning
  · rw [hprogress]
    exact Nat.le_refl _
  · rw [htarget]
    exact hgwMac
  · rintro gw hgw
    obtain rfl : ethSrc frame = gw := Option.some.inj (hgateway.symm.trans hgw)
    exact congrArg some hgwMac
  · simp [hflag]

/-- **The receiving thread** copies one address, and only once. -/
theorem Learns.rxStep (h : s.Learns) (frame : List UInt8) :
    (s.rxStep frame).Learns ∧ Later s (s.rxStep frame) := by
  rcases rxStep_cases s frame with heq | ⟨hrx, hflag, hsrc, heq⟩ | ⟨frame', i, hi, hrx, heq⟩ |
    ⟨frame', i, hrx, hi, heq⟩
  · rw [heq]
    exact ⟨h, .refl s⟩
  · rw [heq]
    exact h.beginFrame hrx hflag hsrc
  · rw [heq]
    exact h.copyByte hi hrx
  · rw [heq]
    exact h.setFlag hi hrx

/-! ### The addresses that are read -/

/-- Byte `j` of a destination is what was there when it was read. -/
def Sees (s : BridgeMac) (dst : Fin 6 → UInt8) (seen : Fin 6 → Nat) (j : Fin 6) : Prop :=
  dst j = snapshot broadcastMac s.target seen j ∧ seen j ≤ s.progress

/-- What has been read stays what was there, whatever is learned later. -/
theorem Sees.later {dst : Fin 6 → UInt8} {seen : Fin 6 → Nat} {j : Fin 6} (h : s.Sees dst seen j)
    (hlater : Later s t) : t.Sees dst seen j := by
  refine ⟨?_, Nat.le_trans h.2 hlater.progress⟩
  rw [h.1]
  rcases hlater.target with hzero | htarget
  · have hseen : ¬ j.val < seen j := by
      have hle := h.2
      omega
    rw [snapshot, snapshot, if_neg hseen, if_neg hseen]
  · rw [htarget]

/-- The destinations of the frame that is being built and of the frames that are. -/
structure Reads (s : BridgeMac) : Prop where
  copying : ∀ utunPkt i dst seen, s.tx = .copying utunPkt i dst seen →
    ∀ j : Fin 6, j.val < i → s.Sees dst seen j
  outbound : ∀ o ∈ s.outbound, ∃ dst, o.frame.take 6 = List.ofFn dst ∧ ∀ j, s.Sees dst o.seen j

/-- What has been read stays a mix of what was there while it was read. -/
theorem Reads.later (h : s.Reads) (hlater : Later s t) (htx : t.tx = s.tx)
    (hout : t.outbound = s.outbound) : t.Reads where
  copying utunPkt i dst seen hcopy j hj :=
    (h.copying utunPkt i dst seen (htx ▸ hcopy) j hj).later hlater
  outbound o ho := by
    obtain ⟨dst, hframe, hsees⟩ := h.outbound o (hout ▸ ho)
    exact ⟨dst, hframe, fun j => (hsees j).later hlater⟩

/-- The sending thread writes nothing the other one uses. -/
theorem txStep_rx (s : BridgeMac) (utunPkt : List UInt8) (ebuf : Mem) :
    (s.txStep utunPkt ebuf).gwMac = s.gwMac ∧
      (s.txStep utunPkt ebuf).gwMacLearned = s.gwMacLearned ∧
      (s.txStep utunPkt ebuf).rx = s.rx := by
  unfold txStep
  split
  · split <;> exact ⟨rfl, rfl, rfl⟩
  · split <;> exact ⟨rfl, rfl, rfl⟩

/-- The frame of a packet goes to the address that was read. -/
theorem take_packet {utunPkt : List UInt8} {mac : Mac} {dst : Fin 6 → UInt8} (ebuf : Mem)
    (h : 0 < (frameIpToEth utunPkt ethBufSize mac (Vector.ofFn dst)).ret) :
    ((frameIpToEth utunPkt ethBufSize mac (Vector.ofFn dst)).packet ebuf).take 6 =
      List.ofFn dst := by
  have hne : (frameIpToEth utunPkt ethBufSize mac (Vector.ofFn dst)).ret ≠ -1 := by omega
  obtain ⟨etherType, -, -, -, hpacket⟩ := frameIpToEth_accepted hne (by decide)
  rw [hpacket ebuf, ethFrameBytes, List.append_assoc, List.append_assoc,
    List.take_left' (by simp), Vector.toList_ofFn]

/-- **The sending thread** reads each byte as it is. -/
theorem Reads.txStep (h : s.Reads) (hlearns : s.Learns) (utunPkt : List UInt8) (ebuf : Mem) :
    (s.txStep utunPkt ebuf).Reads := by
  unfold BridgeMac.txStep
  cases htx : s.tx with
  | idle =>
    dsimp only
    split
    · exact h
    · refine ⟨fun utunPkt' i dst seen hcopy j hj => ?_, h.outbound⟩
      obtain ⟨-, rfl, -, -⟩ := TxThread.copying.inj hcopy
      exact absurd hj (Nat.not_lt_zero _)
  | copying pkt i dst seen =>
    have hsees := h.copying pkt i dst seen htx
    dsimp only
    split
    · next hi =>
      refine ⟨fun utunPkt' i' dst' seen' hcopy j hj => ?_, h.outbound⟩
      obtain ⟨-, rfl, rfl, rfl⟩ := TxThread.copying.inj hcopy
      rcases eq_or_ne j ⟨i, hi⟩ with rfl | hne
      · -- the byte that is read now
        refine ⟨?_, ?_⟩
        · have hgwMac := congrFun hlearns.gwMac ⟨i, hi⟩
          simp only [snapshot, Function.update_self] at hgwMac ⊢
          exact hgwMac
        · simp only [Function.update_self]
          exact Nat.le_refl _
      · have hlt : j.val < i := by
          have hval := Fin.val_ne_of_ne hne
          simp only at hval
          omega
        obtain ⟨hdst, hle⟩ := hsees j hlt
        refine ⟨?_, ?_⟩
        · simp only [snapshot, Function.update_of_ne hne] at hdst ⊢
          exact hdst
        · simp only [Function.update_of_ne hne]
          exact hle
    · next hi =>
      refine ⟨fun _ _ _ _ hcopy => ?_, fun o ho => ?_⟩
      · cases hcopy
      · have hall : ∀ j, s.Sees dst seen j := fun j => hsees j (by omega)
        simp only at ho
        split at ho
        · next hret =>
          rcases List.mem_append.mp ho with ho | ho
          · exact h.outbound o ho
          · obtain rfl := List.mem_singleton.mp ho
            exact ⟨dst, take_packet ebuf hret, hall⟩
        · exact h.outbound o ho

/-! ### Every interleaving -/

/-- Both threads. -/
structure Inv (s : BridgeMac) : Prop where
  learns : s.Learns
  reads : s.Reads

/-- Nothing has been learned or sent. -/
theorem inv_start (mac : Mac) : (start mac).Inv where
  learns := ⟨(snapshot_of_zero fun _ => rfl).symm, fun _ h => (nomatch h), fun _ _ h => (nomatch h)⟩
  reads := ⟨fun _ _ _ _ h => (nomatch h), fun _ h => (nomatch h)⟩

/-- The receiving side does not touch the frame that is being built. -/
theorem rxStep_tx (s : BridgeMac) (frame : List UInt8) :
    (s.rxStep frame).tx = s.tx ∧ (s.rxStep frame).outbound = s.outbound := by
  unfold rxStep
  split
  · split <;> exact ⟨rfl, rfl⟩
  · split <;> exact ⟨rfl, rfl⟩

/-- One step of either thread. -/
theorem Inv.step (h : s.Inv) {a : MacAct} (hst : s.step a = some t) : t.Inv ∧ Later s t := by
  cases a with
  | rx frame =>
    obtain rfl := Option.some.inj hst
    obtain ⟨hlearns, hlater⟩ := h.learns.rxStep frame
    obtain ⟨htx, hout⟩ := rxStep_tx s frame
    exact ⟨⟨hlearns, h.reads.later hlater htx hout⟩, hlater⟩
  | tx utunPkt ebuf =>
    obtain rfl := Option.some.inj hst
    obtain ⟨hgwMac, hflag, hrx⟩ := txStep_rx s utunPkt ebuf
    have hprogress : (s.txStep utunPkt ebuf).progress = s.progress := by
      simp only [BridgeMac.progress, hflag, hrx]
    have hgateway : (s.txStep utunPkt ebuf).gateway = s.gateway := by
      simp only [BridgeMac.gateway, hgwMac, hflag, hrx]
    have htarget : (s.txStep utunPkt ebuf).target = s.target := by
      rw [BridgeMac.target, BridgeMac.target, hgateway]
    have hlater : Later s (s.txStep utunPkt ebuf) :=
      ⟨Nat.le_of_eq hprogress.symm, .inr htarget, fun gw hgw => hgateway.trans hgw,
        fun hlearned => ⟨hflag.trans hlearned, hgwMac⟩⟩
    refine ⟨⟨⟨?_, ?_, ?_⟩, h.reads.txStep h.learns utunPkt ebuf⟩, hlater⟩
    · rw [hgwMac, htarget, hprogress]
      exact h.learns.gwMac
    · rw [hgateway]
      exact h.learns.source
    · rw [hflag, hrx]
      exact h.learns.flag

/-- A frame is whole exactly when it is not torn. -/
theorem Inv.whole_iff (h : s.Inv) {o : Outbound} (ho : o ∈ s.outbound) :
    s.Whole o ↔ ¬ s.Torn o := by
  obtain ⟨dst, hframe, hsees⟩ := h.reads.outbound o ho
  have hdst : dst = snapshot broadcastMac s.target o.seen := funext fun j => (hsees j).1
  cases hgateway : s.gateway with
  | none =>
    have hzero : ∀ j, o.seen j = 0 := fun j => by
      have hle := (hsees j).2
      rw [progress_of_gateway_none hgateway] at hle
      exact Nat.le_zero.mp hle
    refine iff_of_true (.inl ⟨?_, hzero 0⟩) ?_
    · rw [hframe, hdst, snapshot_of_zero hzero]
    · rintro ⟨gw, hgw, -⟩
      rw [hgateway] at hgw
      cases hgw
  | some gw =>
    have htarget : s.target = gw := by rw [target, hgateway, Option.getD_some]
    have htorn : s.Torn o ↔ Mixed broadcastMac gw o.seen := by simp [Torn, hgateway]
    rw [htorn, ← snapshot_eq_iff, ← htarget, ← hdst]
    constructor
    · rintro (⟨hbroadcast, -⟩ | ⟨gw', hgw', hto⟩)
      · exact .inl (List.ofFn_injective (hframe.symm.trans hbroadcast))
      · obtain rfl : gw = gw' := by rw [hgateway] at hgw'; exact Option.some.inj hgw'
        exact .inr (htarget.symm ▸ List.ofFn_injective (hframe.symm.trans hto))
    · rintro (hbroadcast | hto)
      · -- the first byte is never `0xFF`, so it was read before it was copied
        have hfirst : broadcastMac 0 ≠ s.target 0 := by
          rw [htarget]
          exact (h.learns.source gw hgateway).symm
        have hseen := snapshot_eq_old_iff.mp (hdst.symm.trans hbroadcast) 0 hfirst
        exact .inl ⟨by rw [hframe, hbroadcast], Nat.eq_zero_of_not_pos hseen⟩
      · exact .inr ⟨gw, hgateway, by rw [hframe, hto, htarget]⟩

/-- The invariant holds in every run. -/
theorem inv_of_run {mac : Mac} {l : List (BridgeMac × MacAct)} (h : Run step (start mac) l t) :
    t.Inv :=
  h.invariant (inv_start mac) fun _ _ _ hs hst => (hs.step hst).1

/-- Every state of a run is before its end. -/
theorem later_of_mem {mac : Mac} {l : List (BridgeMac × MacAct)} (h : Run step (start mac) l t)
    {p : BridgeMac × MacAct} (hp : p ∈ l) : Later p.1 t := by
  induction h with
  | start => cases hp
  | @snoc l s t a hrun hst ih =>
    have hlater := ((inv_of_run hrun).step hst).2
    rcases List.mem_cons.mp hp with rfl | hp
    · exact hlater
    · exact (ih hp).trans hlater

/-- **The gateway's address half-written.**  In every interleaving the learned address never
    changes; and every frame goes to everybody, with nothing learned, or to the gateway, exactly
    when no frame takes one byte of the address before it is copied and another one after. -/
theorem gatewayMac_whole_iff (mac : Mac) {l : List (BridgeMac × MacAct)}
    (h : Run step (start mac) l t) :
    ((∀ o ∈ t.outbound, t.Whole o) ∧
        ∀ p ∈ l, p.1.gwMacLearned = true → t.gwMacLearned = true ∧ t.gwMac = p.1.gwMac) ↔
      ∀ o ∈ t.outbound, ¬ t.Torn o := by
  have hinv := inv_of_run h
  constructor
  · rintro ⟨hwhole, -⟩ o ho
    exact (hinv.whole_iff ho).mp (hwhole o ho)
  · intro htorn
    exact ⟨fun o ho => (hinv.whole_iff ho).mpr (htorn o ho),
      fun p hp => (later_of_mem h hp).learned⟩

/-- An IPv4 packet. -/
def ipPacket : List UInt8 := be32Bytes afInet ++ [0x45]

/-- A frame from 02:02:02:02:02:02. -/
def gatewayFrame : List UInt8 := List.replicate 12 2 ++ [0x08, 0]

/-- A step of the receiving thread. -/
def learn : MacAct := .rx gatewayFrame

/-- A step of the sending thread. -/
def send : MacAct := .tx ipPacket fun _ => 0

/-- A frame that is built behind the learning, and one before it. -/
theorem gatewayMac_whole_apart :
    ∃ t : BridgeMac, t.outbound.length = 2 ∧ ∀ o ∈ t.outbound, t.Whole o := by
  obtain ⟨l, t, hrun, -, hgood⟩ := exists_run_of_exec step (fun _ _ => true)
    (fun t => decide (t.outbound.length = 2 ∧ t.gateway.isSome ∧
      ∀ o ∈ t.outbound, (∀ j, o.seen j = 0) ∨ ∀ j, o.seen j = 6))
    (start (.replicate 6 7))
    (List.replicate 8 send ++ List.replicate 8 learn ++ List.replicate 8 send)
    (by decide +kernel)
  obtain ⟨hlen, -, hseen⟩ := of_decide_eq_true hgood
  refine ⟨t, hlen, ((gatewayMac_whole_iff _ hrun).mpr ?_).1⟩
  rintro o ho ⟨gw, -, i, j, ⟨-, hi⟩, -, hj⟩
  rcases hseen o ho with hzero | hsix
  · rw [hzero i] at hi
    exact absurd hi (Nat.not_lt_zero _)
  · rw [hsix j] at hj
    exact hj j.isLt

/-- The address is learned between the first byte that is read and the second. -/
theorem not_gatewayMac_whole :
    ¬ ∀ (mac : Mac) (l : List (BridgeMac × MacAct)) (t : BridgeMac), Run step (start mac) l t →
      ∀ o ∈ t.outbound, t.Whole o := by
  intro hall
  obtain ⟨l, t, hrun, -, hbad⟩ := exists_run_of_exec step (fun _ _ => true)
    (fun t => t.outbound.any fun o => o.frame.take 6 == [0xFF, 2, 2, 2, 2, 2] &&
      t.gateway.any fun gw => gw 0 == 2)
    (start (.replicate 6 7))
    (List.replicate 2 send ++ List.replicate 8 learn ++ List.replicate 6 send)
    (by decide +kernel)
  obtain ⟨o, ho, hbad⟩ := List.any_eq_true.mp hbad
  rw [Bool.and_eq_true, beq_iff_eq] at hbad
  rcases hall _ _ _ hrun o ho with ⟨hbroadcast, -⟩ | ⟨gw, hgw, hto⟩
  · rw [hbad.1] at hbroadcast
    exact absurd hbroadcast (by decide)
  · have hfirst : gw 0 = 2 := by simpa [hgw] using hbad.2
    rw [hbad.1] at hto
    have hhead := congrArg List.head? hto
    simp [List.ofFn_succ, hfirst] at hhead

end BridgeMac

end AndroidTether
