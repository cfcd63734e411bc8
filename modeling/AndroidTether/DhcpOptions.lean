import AndroidTether.Lib.Tlv
import AndroidTether.NetTypes

namespace AndroidTether

open Bytes WhileLoop Tlv

/-!
# DHCP options

IPv4 addresses with their dotted form, `dhcp_parse_options`, and the option scans that
`dhcp_discover` writes out inline.

* `inetNtoa_injective` — the dotted form determines the address;
* `dhcpParseOptions_val` — `dhcp_parse_options` folds over the complete options;
* `optionScan_val` — so does an inline scan, when no option before the end is cut off.
-/

/-- `struct in_addr`: the four bytes of `s_addr` as they lie in memory. -/
structure InAddr where
  b0 : UInt8
  b1 : UInt8
  b2 : UInt8
  b3 : UInt8
  deriving DecidableEq, Repr

namespace InAddr

/-- `s_addr = 0` -/
def zero : InAddr := ⟨0, 0, 0, 0⟩

/-- The bytes of the address, in memory order. -/
def bytes (a : InAddr) : List UInt8 := [a.b0, a.b1, a.b2, a.b3]

@[simp] theorem bytes_length (a : InAddr) : a.bytes.length = 4 := rfl

/-- An address is its bytes. -/
theorem bytes_injective {a b : InAddr} (h : a.bytes = b.bytes) : a = b := by
  cases a
  cases b
  simpa [bytes] using h

end InAddr

/-- The address whose four bytes lie at `a`. -/
def inAddrAt (m : Mem) (a : Nat) : InAddr := ⟨m a, m (a + 1), m (a + 2), m (a + 3)⟩

/-- `memcpy` of four bytes into a `struct in_addr`. -/
def rdInAddr (m : Mem) (a : Nat) : Logged InAddr := ⟨inAddrAt m a, [⟨a, 4⟩]⟩

@[simp] theorem rdInAddr_val (m : Mem) (a : Nat) : (rdInAddr m a).val = inAddrAt m a := rfl

/-- The bytes of an address that was read. -/
theorem inAddrAt_bytes (m : Mem) (a : Nat) : (inAddrAt m a).bytes = slice m a 4 := rfl

/-- An address inside a byte string that lies at `a` is the string's. -/
theorem inAddrAt_at {m : Mem} {a : Nat} {bs : List UInt8} (h : At m a bs) {i : Nat}
    (hi : i + 4 ≤ bs.length) : inAddrAt m (a + i) = inAddrAt (ofList bs) i := by
  apply InAddr.bytes_injective
  rw [inAddrAt_bytes, inAddrAt_bytes, h.slice_eq hi]

/-! ### The dotted form -/

/-- One number of a dotted address. -/
def octet (b : UInt8) : CStr := Nat.toDigits 10 b.toNat

/-- `inet_ntoa` -/
def inetNtoa (a : InAddr) : CStr := ['.'].intercalate (a.bytes.map octet)

/-- `strlcpy` into `size` bytes, one of which is for the terminator. -/
def strlcpy (src : CStr) (size : Nat) : CStr := src.take (size - 1)

/-- The number an octet is read back as. -/
def readOctet (s : CStr) : Nat := s.foldl (fun n c => 10 * n + (c.toNat - '0'.toNat)) 0

/-- An octet reads back, has no dot and at most three digits. -/
theorem octet_spec (b : UInt8) :
    readOctet (octet b) = b.toNat ∧ '.' ∉ octet b ∧ (octet b).length ≤ 3 := by
  have hall : ∀ n < 256, readOctet (Nat.toDigits 10 n) = n ∧ '.' ∉ Nat.toDigits 10 n ∧
      (Nat.toDigits 10 n).length ≤ 3 := by decide +kernel
  exact hall b.toNat b.toNat_lt

/-- The text of an octet says which it is. -/
theorem octet_injective {a b : UInt8} (h : octet a = octet b) : a = b := by
  apply UInt8.toNat_inj.mp
  rw [← (octet_spec a).1, h, (octet_spec b).1]

/-- The dotted form determines the address. -/
theorem inetNtoa_injective {a b : InAddr} (h : inetNtoa a = inetNtoa b) : a = b := by
  have hdot : ∀ c : InAddr, ∀ l ∈ c.bytes.map octet, '.' ∉ l := by
    intro c l hl
    obtain ⟨x, -, rfl⟩ := List.mem_map.mp hl
    exact (octet_spec x).2.1
  have hne : ∀ c : InAddr, c.bytes.map octet ≠ [] := by simp [InAddr.bytes]
  have hsplit : a.bytes.map octet = b.bytes.map octet := by
    rw [← List.splitOn_intercalate '.' (hdot a) (hne a), ← List.splitOn_intercalate '.' (hdot b) (hne b)]
    exact congrArg (List.splitOn '.') h
  apply InAddr.bytes_injective
  exact List.map_injective_iff.mpr (fun _ _ => octet_injective) hsplit

/-- A dotted address fits in the sixteen bytes of a lease field. -/
theorem strlcpy_inetNtoa (a : InAddr) : strlcpy (inetNtoa a) 16 = inetNtoa a := by
  apply List.take_of_length_le
  have h0 := (octet_spec a.b0).2.2
  have h1 := (octet_spec a.b1).2.2
  have h2 := (octet_spec a.b2).2.2
  have h3 := (octet_spec a.b3).2.2
  simp [inetNtoa, InAddr.bytes, List.intercalate, List.intersperse]
  omega

/-! ### `dhcp_parse_options` -/

/-- The four `struct in_addr` that `dhcp_parse_options` fills. -/
structure NetOpts where
  gateway : InAddr
  netmask : InAddr
  dns1 : InAddr
  dns2 : InAddr
  deriving DecidableEq, Repr

/-- `{0}` -/
def NetOpts.zero : NetOpts := ⟨.zero, .zero, .zero, .zero⟩

/-- The `switch (opt)` on the option whose value lies at `a`. -/
def parseOption (m : Mem) (a : Nat) (opt : UInt8) (olen : Nat) (v : NetOpts) : Logged NetOpts :=
  if opt = 1 then
    if 4 ≤ olen then rdInAddr m a >>= fun x => pure { v with netmask := x } else pure v
  else if opt = 3 then
    if 4 ≤ olen then rdInAddr m a >>= fun x => pure { v with gateway := x } else pure v
  else if opt = 6 then do
    let v ← if 4 ≤ olen then rdInAddr m a >>= fun x => pure { v with dns1 := x } else pure v
    if 8 ≤ olen then rdInAddr m (a + 4) >>= fun x => pure { v with dns2 := x } else pure v
  else pure v

/-- One round of the loop of `dhcp_parse_options`, at `s = (i, outputs)`.  `i` is a `size_t`
    and stays so close to addresses that are read that it does not wrap. -/
def parseOptionsBody (m : Mem) (opts len : Nat) (s : Nat × NetOpts) :
    Logged (ForInStep (Nat × NetOpts)) :=
  if s.1 < len then do
    let opt ← rd8 m (opts + s.1)
    if opt = 0xFF then pure (.done (s.1 + 1, s.2))
    else if opt = 0x00 then pure (.yield (s.1 + 1, s.2))
    else if len ≤ s.1 + 1 then pure (.done (s.1 + 1, s.2))
    else do
      let olen ← rd8 m (opts + s.1 + 1)
      if len < s.1 + 2 + olen.toNat then pure (.done (s.1 + 2, s.2))
      else do
        let v ← parseOption m (opts + s.1 + 2) opt olen.toNat s.2
        pure (.yield (s.1 + 2 + olen.toNat, v))
  else pure (.done s)

/-- `dhcp_parse_options`.  Every round but the last moves `i` up, so `len + 1` rounds are
    enough. -/
def dhcpParseOptions (m : Mem) (opts len : Nat) (v : NetOpts) : Logged NetOpts := do
  let s ← Logged.iterate (parseOptionsBody m opts len) (len + 1) (0, v)
  return s.value.2

/-- What is done with one option: memory, address of the value, tag, length, outputs so far. -/
abbrev OnOption (σ : Type) := Mem → Nat → UInt8 → Nat → σ → Logged σ

/-- The same on a copy of the option. -/
def onCopy {σ : Type} (onOption : OnOption σ) (v : σ) (o : Opt) : σ :=
  (onOption (ofList o.value) 0 o.tag o.value.length v).val

/-- Only the bytes of the value matter, not where they lie. -/
def OnValue {σ : Type} (onOption : OnOption σ) : Prop :=
  ∀ (m : Mem) (a : Nat) (tag : UInt8) (value : List UInt8) (v : σ), At m a value →
    (onOption m a tag value.length v).val = onCopy onOption v ⟨tag, value⟩

/-- An address inside a value is the same in a copy of it. -/
theorem inAddrAt_value {m : Mem} {a : Nat} {value : List UInt8} (h : At m a value) :
    (4 ≤ value.length → inAddrAt m a = inAddrAt (ofList value) 0) ∧
      (8 ≤ value.length → inAddrAt m (a + 4) = inAddrAt (ofList value) 4) :=
  ⟨fun hlen => inAddrAt_at h (i := 0) hlen, fun hlen => inAddrAt_at h hlen⟩

/-- Which option sets which output. -/
theorem parseOption_val (m : Mem) (a : Nat) (opt : UInt8) (olen : Nat) (v : NetOpts) :
    (parseOption m a opt olen v).val =
      { gateway := if opt = 3 ∧ 4 ≤ olen then inAddrAt m a else v.gateway
        netmask := if opt = 1 ∧ 4 ≤ olen then inAddrAt m a else v.netmask
        dns1 := if opt = 6 ∧ 4 ≤ olen then inAddrAt m a else v.dns1
        dns2 := if opt = 6 ∧ 8 ≤ olen then inAddrAt m (a + 4) else v.dns2 } := by
  unfold parseOption
  by_cases h1 : opt = 1
  · by_cases hlen : 4 ≤ olen <;> simp [h1, hlen]
  by_cases h3 : opt = 3
  · by_cases hlen : 4 ≤ olen <;> simp [h3, hlen]
  by_cases h6 : opt = 6
  · by_cases hlen : 4 ≤ olen
    · by_cases hlen' : 8 ≤ olen <;> simp [h6, hlen, hlen']
    · have hlen' : ¬ 8 ≤ olen := by omega
      simp [h6, hlen, hlen']
  simp [h1, h3, h6]

/-- `dhcp_parse_options` looks at the tag and the value of an option alone. -/
theorem parseOption_onValue : OnValue parseOption := by
  intro m a tag value v h
  obtain ⟨h0, h4⟩ := inAddrAt_value h
  rw [onCopy, parseOption_val, parseOption_val]
  congr 1
  case e_gateway => split_ifs with hc; exacts [h0 hc.2, rfl]
  case e_netmask => split_ifs with hc; exacts [h0 hc.2, rfl]
  case e_dns1 => split_ifs with hc; exacts [h0 hc.2, rfl]
  case e_dns2 => split_ifs with hc; exacts [h4 hc.2, rfl]

/-- The bytes of the option at the cursor lie where its value starts. -/
theorem at_optAt (m : Mem) (opts i : Nat) : At m (opts + i + 2) (optAt m opts i).value :=
  at_slice _ _ _

/-- The length byte of an option is the length of its value. -/
theorem optAt_value_length (m : Mem) (opts i : Nat) :
    (optAt m opts i).value.length = (m (opts + i + 1)).toNat := slice_length _ _ _

/-- One round of the loop of `dhcp_parse_options` with `onOption` in place of the `switch`. -/
def walkBody {σ : Type} (onOption : OnOption σ) (m : Mem) (opts len : Nat) (s : Nat × σ) :
    Logged (ForInStep (Nat × σ)) :=
  if s.1 < len then do
    let opt ← rd8 m (opts + s.1)
    if opt = 0xFF then pure (.done (s.1 + 1, s.2))
    else if opt = 0x00 then pure (.yield (s.1 + 1, s.2))
    else if len ≤ s.1 + 1 then pure (.done (s.1 + 1, s.2))
    else do
      let olen ← rd8 m (opts + s.1 + 1)
      if len < s.1 + 2 + olen.toNat then pure (.done (s.1 + 2, s.2))
      else do
        let v ← onOption m (opts + s.1 + 2) opt olen.toNat s.2
        pure (.yield (s.1 + 2 + olen.toNat, v))
  else pure (.done s)

/-- The walk of `dhcp_parse_options` with `onOption` in place of the `switch`. -/
def walkOptions {σ : Type} (onOption : OnOption σ) (m : Mem) (opts len : Nat) (v : σ) :
    Logged σ := do
  let s ← Logged.iterate (walkBody onOption m opts len) (len + 1) (0, v)
  return s.value.2

/-- `dhcp_parse_options` is its walk with its own `switch`. -/
theorem dhcpParseOptions_eq (m : Mem) (opts len : Nat) (v : NetOpts) :
    dhcpParseOptions m opts len v = walkOptions parseOption m opts len v := rfl

/-- The walk always ends, with the outputs folded over the complete options. -/
theorem iterate_walkBody {σ : Type} {onOption : OnOption σ} (hon : OnValue onOption) (m : Mem)
    (opts len : Nat) (v : σ) :
    ∃ j, iterate (fun s => (walkBody onOption m opts len s).val) (len + 1) (0, v) =
      .done (j, (splitOptions (slice m opts len)).foldl (onCopy onOption) v) := by
  have hwalk : ∃ j, iterate (fun s => (walkBody onOption m opts len s).val) (len + 1) (0, v) =
      .done (j, (cutOption (restAt m opts len 0)).elim
        ((splitOptions (restAt m opts len 0)).foldl (onCopy onOption) v) fun _ =>
          (splitOptions (restAt m opts len 0)).foldl (onCopy onOption) v) := by
    refine iterate_walk (g := fun v _ => v) (fun i v hhead => ?stop) (fun i v hhead => ?pad)
      (fun i v hhead => ?opt) (fun i v hhead hi' => ?cut) (fun i v hhead hi' => ?lone)
      (by omega) v
    case stop =>
      rcases headAt_eq_stop.mp hhead with hi | hend
      · exact ⟨i, by simp [walkBody, Nat.not_lt.mpr hi]⟩
      · by_cases hi : i < len
        · exact ⟨i + 1, by simp [walkBody, hi, hend, endTag]⟩
        · exact ⟨i, by simp [walkBody, hi]⟩
    case pad =>
      obtain ⟨hi, hpad⟩ := headAt_eq_pad.mp hhead
      simp [walkBody, hi, hpad, padTag]
    case opt =>
      obtain ⟨hend, hpad, hi, hfit⟩ := headAt_eq_opt.mp hhead
      have hvalue := hon m _ (m (opts + i)) _ v (at_optAt m opts i)
      rw [optAt_value_length] at hvalue
      have hend : m (opts + i) ≠ 0xFF := hend
      have hpad : m (opts + i) ≠ 0x00 := hpad
      simp [walkBody, show i < len by omega, hend, hpad, show ¬ len ≤ i + 1 by omega,
        Nat.not_lt.mpr hfit, hvalue]
      rfl
    case cut =>
      obtain ⟨hi, hend, hpad, hno⟩ := headAt_eq_cut.mp hhead
      have hend : m (opts + i) ≠ 0xFF := hend
      have hpad : m (opts + i) ≠ 0x00 := hpad
      have hcut : len < i + 2 + (m (opts + i + 1)).toNat := by omega
      have hdone : (walkBody onOption m opts len (i, v)).val = .done (i + 2, v) := by
        simp [walkBody, hi, hend, hpad, show ¬ len ≤ i + 1 by omega, hcut]
      exact ⟨i + 2, iterate_succ_done 1 hdone⟩
    case lone =>
      obtain ⟨hi, hend, hpad, -⟩ := headAt_eq_cut.mp hhead
      have hend : m (opts + i) ≠ 0xFF := hend
      have hpad : m (opts + i) ≠ 0x00 := hpad
      exact ⟨i + 1, by simp [walkBody, hi, hend, hpad, hi']⟩
  obtain ⟨j, hwalk⟩ := hwalk
  refine ⟨j, hwalk.trans ?_⟩
  cases cutOption (restAt m opts len 0) <;> rfl

/-- **The walk of `dhcp_parse_options` folds over the complete options.** -/
theorem walkOptions_val {σ : Type} {onOption : OnOption σ} (hon : OnValue onOption) (m : Mem)
    (opts len : Nat) (v : σ) :
    (walkOptions onOption m opts len v).val =
      (splitOptions (slice m opts len)).foldl (onCopy onOption) v := by
  obtain ⟨j, hwalk⟩ := iterate_walkBody hon m opts len v
  simp only [walkOptions, Logged.val_bind, Logged.iterate_val, hwalk]
  rfl

/-- **`dhcp_parse_options` folds over the complete options.** -/
theorem dhcpParseOptions_val (m : Mem) (opts len : Nat) (v : NetOpts) :
    (dhcpParseOptions m opts len v).val =
      (splitOptions (slice m opts len)).foldl (onCopy parseOption) v := by
  rw [dhcpParseOptions_eq, walkOptions_val parseOption_onValue]

/-! ### The inline option scans -/

/-- One round of the option scans in `dhcp_discover`, at `s = (i, outputs)`.  Unlike
    `dhcp_parse_options` they look at an option without checking that it fits. -/
def optionScanBody {σ : Type} (onOption : OnOption σ) (m : Mem) (opts optsLen : Nat)
    (s : Nat × σ) : Logged (ForInStep (Nat × σ)) :=
  if s.1 < optsLen then do
    let opt ← rd8 m (opts + s.1)
    if opt = 0xFF then pure (.done s)
    else if opt = 0x00 then pure (.yield (s.1 + 1, s.2))
    else if optsLen ≤ s.1 + 1 then pure (.done s)
    else do
      let olen ← rd8 m (opts + s.1 + 1)
      let v ← onOption m (opts + s.1 + 2) opt olen.toNat s.2
      pure (.yield (s.1 + 2 + olen.toNat, v))
  else pure (.done s)

/-- `for (size_t i = 0; i < opts_len; )` -/
def optionScan {σ : Type} (onOption : OnOption σ) (m : Mem) (opts optsLen : Nat) (v : σ) :
    Logged σ := do
  let s ← Logged.iterate (optionScanBody onOption m opts optsLen) (optsLen + 1) (0, v)
  return s.value.2

/-- `msg_type_dhcp` and `server_addr`, the variables the offer phase's scan writes. -/
structure OfferScan where
  msgType : UInt8
  serverAddr : InAddr
  deriving DecidableEq, Repr

/-- The two `if`s of the offer phase's scan. -/
def offerOption : OnOption OfferScan := fun m a opt olen v => do
  let v ← if opt = 53 ∧ 1 ≤ olen then rd8 m a >>= fun x => pure { v with msgType := x } else pure v
  if opt = 54 ∧ 4 ≤ olen then rdInAddr m a >>= fun x => pure { v with serverAddr := x } else pure v

/-- The `if` of the ACK phase's scan. -/
def ackOption : OnOption UInt8 := fun m a opt olen msgType =>
  if opt = 53 ∧ 1 ≤ olen then rd8 m a else pure msgType

/-- What one option changes in the scan of an offer. -/
theorem offerOption_val (m : Mem) (a : Nat) (opt : UInt8) (olen : Nat) (v : OfferScan) :
    (offerOption m a opt olen v).val =
      { msgType := if opt = 53 ∧ 1 ≤ olen then m a else v.msgType
        serverAddr := if opt = 54 ∧ 4 ≤ olen then inAddrAt m a else v.serverAddr } := by
  unfold offerOption
  by_cases h53 : opt = 53
  · by_cases hlen : 1 ≤ olen <;> simp [h53, hlen]
  by_cases h54 : opt = 54
  · by_cases hlen : 4 ≤ olen <;> simp [h54, hlen]
  simp [h53, h54]

/-- What one option changes in the scan of an ACK. -/
theorem ackOption_val (m : Mem) (a : Nat) (opt : UInt8) (olen : Nat) (msgType : UInt8) :
    (ackOption m a opt olen msgType).val = if opt = 53 ∧ 1 ≤ olen then m a else msgType := by
  unfold ackOption
  split_ifs <;> rfl

/-- The first byte of a value that stands in memory. -/
theorem byte_value {m : Mem} {a : Nat} {value : List UInt8} (h : At m a value)
    (hlen : 1 ≤ value.length) : m a = ofList value 0 := h 0 hlen

/-- The scan of an ACK looks at the tag and the value of an option alone. -/
theorem ackOption_onValue : OnValue ackOption := by
  intro m a tag value v h
  rw [onCopy, ackOption_val, ackOption_val]
  split_ifs with hc
  · exact byte_value h hc.2
  · rfl

/-- An inline scan always ends.  It folds over the complete options, and then takes an option
    that is cut off as if it were complete: its value starts where the bytes that are left of
    it start. -/
theorem iterate_optionScanBody {σ : Type} {onOption : OnOption σ} (hon : OnValue onOption)
    (m : Mem) (opts optsLen : Nat) (v : σ) :
    ∃ j, iterate (fun s => (optionScanBody onOption m opts optsLen s).val) (optsLen + 1) (0, v) =
      .done (j, (cutOption (slice m opts optsLen)).elim
        ((splitOptions (slice m opts optsLen)).foldl (onCopy onOption) v) fun c =>
          (onOption m (opts + optsLen - c.part.length) c.tag c.olen
            ((splitOptions (slice m opts optsLen)).foldl (onCopy onOption) v)).val) := by
  refine iterate_walk (i := 0) (f := onCopy onOption)
    (g := fun v c => (onOption m (opts + optsLen - c.part.length) c.tag c.olen v).val)
    (fun i v hhead => ⟨i, ?stop⟩) (fun i v hhead => ?pad) (fun i v hhead => ?opt)
    (fun i v hhead hi' => ⟨i + 2 + (m (opts + i + 1)).toNat, ?cut⟩)
    (fun i v hhead hi' => ⟨i, ?lone⟩) (by omega) v
  case stop =>
    rcases headAt_eq_stop.mp hhead with hi | hend
    · simp [optionScanBody, Nat.not_lt.mpr hi]
    · by_cases hi : i < optsLen <;> simp [optionScanBody, hi, hend, endTag]
  case pad =>
    obtain ⟨hi, hpad⟩ := headAt_eq_pad.mp hhead
    simp [optionScanBody, hi, hpad, padTag]
  case opt =>
    obtain ⟨hend, hpad, hi, -⟩ := headAt_eq_opt.mp hhead
    have hvalue := hon m _ (m (opts + i)) _ v (at_optAt m opts i)
    rw [optAt_value_length] at hvalue
    have hend : m (opts + i) ≠ 0xFF := hend
    have hpad : m (opts + i) ≠ 0x00 := hpad
    simp [optionScanBody, show i < optsLen by omega, hend, hpad,
      show ¬ optsLen ≤ i + 1 by omega, hvalue]
    rfl
  case cut =>
    obtain ⟨hi, hend, hpad, hno⟩ := headAt_eq_cut.mp hhead
    have hend : m (opts + i) ≠ 0xFF := hend
    have hpad : m (opts + i) ≠ 0x00 := hpad
    have hcut : optsLen < i + 2 + (m (opts + i + 1)).toNat := by omega
    have hpart : opts + optsLen - (cutAt m opts optsLen i).part.length = opts + i + 2 := by
      simp only [cutAt, slice_length]
      omega
    have hround : (optionScanBody onOption m opts optsLen (i, v)).val =
        .yield (i + 2 + (m (opts + i + 1)).toNat,
          (onOption m (opts + i + 2) (m (opts + i)) (m (opts + i + 1)).toNat v).val) := by
      simp [optionScanBody, hi, hend, hpad, show ¬ optsLen ≤ i + 1 by omega]
    -- the cursor is then past the end
    have hnext : ∀ w, (optionScanBody onOption m opts optsLen
        (i + 2 + (m (opts + i + 1)).toNat, w)).val =
          .done (i + 2 + (m (opts + i + 1)).toNat, w) := by
      intro w
      simp [optionScanBody, Nat.not_lt.mpr hcut.le]
    rw [iterate_succ_yield 1 hround, iterate_succ_done 0 (hnext _), hpart]
    rfl
  case lone =>
    obtain ⟨hi, hend, hpad, -⟩ := headAt_eq_cut.mp hhead
    have hend : m (opts + i) ≠ 0xFF := hend
    have hpad : m (opts + i) ≠ 0x00 := hpad
    simp [optionScanBody, hi, hend, hpad, hi']

/-- **An inline scan** folds over the complete options, then over the one that is cut off. -/
theorem optionScan_cut {σ : Type} {onOption : OnOption σ} (hon : OnValue onOption) (m : Mem)
    (opts optsLen : Nat) (v : σ) :
    (optionScan onOption m opts optsLen v).val =
      (cutOption (slice m opts optsLen)).elim
        ((splitOptions (slice m opts optsLen)).foldl (onCopy onOption) v) fun c =>
          (onOption m (opts + optsLen - c.part.length) c.tag c.olen
            ((splitOptions (slice m opts optsLen)).foldl (onCopy onOption) v)).val := by
  obtain ⟨j, hwalk⟩ := iterate_optionScanBody hon m opts optsLen v
  simp only [optionScan, Logged.val_bind, Logged.iterate_val, hwalk]
  rfl

/-- **An inline scan folds over the complete options**, when no option before the end of the
    list is cut off. -/
theorem optionScan_val {σ : Type} {onOption : OnOption σ} (hon : OnValue onOption) {m : Mem}
    {opts optsLen : Nat} (hcomplete : complete (slice m opts optsLen) = true) (v : σ) :
    (optionScan onOption m opts optsLen v).val =
      (splitOptions (slice m opts optsLen)).foldl (onCopy onOption) v := by
  rw [optionScan_cut hon, cutOption_of_complete _ hcomplete, Option.elim_none]

/-- Both phases find the same message type: the scan for an ACK is the scan for an offer
    without the server address. -/
theorem optionScan_msgType (m : Mem) (opts optsLen : Nat) (v : OfferScan) :
    (optionScan offerOption m opts optsLen v).val.msgType =
      (optionScan ackOption m opts optsLen v.msgType).val := by
  have hround : ∀ s : Nat × OfferScan, (optionScanBody ackOption m opts optsLen
      (s.1, s.2.msgType)).val =
        mapStep (fun t => (t.1, t.2.msgType)) (optionScanBody offerOption m opts optsLen s).val := by
    intro s
    unfold optionScanBody
    by_cases hi : s.1 < optsLen
    · by_cases hend : m (opts + s.1) = 0xFF
      · simp [hi, hend]
      by_cases hpad : m (opts + s.1) = 0x00
      · simp [hi, hpad]
      by_cases hlast : optsLen ≤ s.1 + 1
      · simp [hi, hend, hpad, hlast]
      · -- the two `onOption`s agree on the message type
        simp only [hi, hend, hpad, hlast, if_true, if_false, Logged.val_bind, rd8_val,
          Logged.val_pure, offerOption_val, ackOption_val, mapStep_yield]
    · simp [hi]
  have hscan : iterate (fun s => (optionScanBody ackOption m opts optsLen s).val) (optsLen + 1)
      (0, v.msgType) = mapStep (fun t => (t.1, t.2.msgType))
        (iterate (fun s => (optionScanBody offerOption m opts optsLen s).val) (optsLen + 1) (0, v)) :=
    iterate_map (f := fun t : Nat × OfferScan => (t.1, t.2.msgType)) hround _ (0, v)
  simp only [optionScan, Logged.val_bind, Logged.val_pure, Logged.iterate_val, hscan, mapStep_value]

/-- The first value byte of the last message type option that has one. -/
def msgTypeOf (os : List Opt) : Option UInt8 :=
  (os.filter fun o => o.tag = 53 ∧ 1 ≤ o.value.length).getLast?.map fun o => ofList o.value 0

/-- The ACK phase's scan finds the last message type. -/
theorem foldl_ackOption (os : List Opt) (t : UInt8) :
    os.foldl (onCopy ackOption) t = (msgTypeOf os).getD t := by
  induction os using List.reverseRecOn with
  | nil => rfl
  | append_singleton os o ih =>
    rw [List.foldl_append, ih, List.foldl_cons, List.foldl_nil, onCopy, ackOption_val]
    by_cases hc : o.tag = 53 ∧ 1 ≤ o.value.length
    · simp [msgTypeOf, hc]
    · simp [msgTypeOf, hc]

end AndroidTether
