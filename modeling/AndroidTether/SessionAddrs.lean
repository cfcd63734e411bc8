import AndroidTether.ConfigLines
import AndroidTether.ConfigPriority
import AndroidTether.DhcpDiscover

namespace AndroidTether

open Bytes LastWrite Pieces

/-!
# The addresses of a session

Step 4 of `run_session`: where the three strings that `utun_configure` puts into a shell
command come from.  A static address comes from the configuration and so do the gateway and
the netmask with it; otherwise all three come from DHCP or are defaults.  Only the address
itself is checked.

* `givenAssignments`, `foundAssignments` — what the user gave, in the lines of the files and on
  the command line, and what is found there by reading pieces of 255 characters;
* `sessionAddrs_valid_iff` — the three strings are dotted quads and what the user gave,
  exactly when what the user gave are dotted quads and the pieces say the same.
-/

/-! ### Dotted quads -/

/-- The string is an IPv4 address in dotted form. -/
def IsDottedQuad (s : CStr) : Prop := ∃ a, s = inetNtoa a

/-- A decimal number below 256 without leading zeros. -/
def parseOctet (s : CStr) : Option UInt8 :=
  ((List.range 256).find? fun n => Nat.toDigits 10 n = s).map UInt8.ofNat

/-- `inet_pton(AF_INET, s, &a) == 1` -/
def inetPton (s : CStr) : Option InAddr :=
  match (s.splitOn '.').map parseOctet with
  | [some b0, some b1, some b2, some b3] => some ⟨b0, b1, b2, b3⟩
  | _ => none

/-- Only the text that `%u` prints of a byte is an octet. -/
theorem parseOctet_eq_some {s : CStr} {b : UInt8} : parseOctet s = some b ↔ s = octet b := by
  constructor
  · intro h
    obtain ⟨n, hn, rfl⟩ := Option.map_eq_some_iff.mp h
    have hlt := List.mem_range.mp (List.mem_of_find?_eq_some hn)
    have hdigits := List.find?_some hn
    rw [decide_eq_true_iff] at hdigits
    rw [octet, UInt8.toNat_ofNat', Nat.mod_eq_of_lt hlt, hdigits]
  · rintro rfl
    have hmem : b.toNat ∈ List.range 256 := List.mem_range.mpr b.toNat_lt
    cases hfind : (List.range 256).find? fun n => Nat.toDigits 10 n = octet b with
    | none => exact absurd (decide_eq_true rfl) (List.find?_eq_none.mp hfind _ hmem)
    | some n =>
      -- the digits determine the number
      have hlt := List.mem_range.mp (List.mem_of_find?_eq_some hfind)
      have hdigits := List.find?_some hfind
      rw [decide_eq_true_iff] at hdigits
      have hoctet : octet (UInt8.ofNat n) = octet b := by
        rw [octet, UInt8.toNat_ofNat', Nat.mod_eq_of_lt hlt, hdigits]
      rw [parseOctet, hfind, Option.map_some, octet_injective hoctet]

/-- `inet_pton` accepts exactly what `inet_ntoa` writes. -/
theorem inetPton_eq_some {s : CStr} {a : InAddr} : inetPton s = some a ↔ s = inetNtoa a := by
  constructor
  · intro h
    unfold inetPton at h
    split at h
    · rename_i b0 b1 b2 b3 hsplit
      cases h
      have hparts : s.splitOn '.' = [octet b0, octet b1, octet b2, octet b3] := by
        match hs : s.splitOn '.' with
        | [p0, p1, p2, p3] =>
          simp only [hs, List.map_cons, List.map_nil, List.cons.injEq, parseOctet_eq_some,
            and_true] at hsplit
          rw [hsplit.1, hsplit.2.1, hsplit.2.2.1, hsplit.2.2.2]
        | [] | [_] | [_, _] | [_, _, _] | _ :: _ :: _ :: _ :: _ :: _ => simp [hs] at hsplit
      have hjoin : ['.'].intercalate (s.splitOn '.') = s := List.intercalate_splitOn '.'
      rw [← hjoin, hparts]
      rfl
    · cases h
  · rintro rfl
    have hdot : ∀ l ∈ a.bytes.map octet, '.' ∉ l := by
      intro l hl
      obtain ⟨x, -, rfl⟩ := List.mem_map.mp hl
      exact (octet_spec x).2.1
    rw [inetPton, inetNtoa, List.splitOn_intercalate '.' hdot (by simp [InAddr.bytes])]
    have hoctet : ∀ b, parseOctet (octet b) = some b := fun b => parseOctet_eq_some.mpr rfl
    simp only [InAddr.bytes, List.map_cons, List.map_nil, hoctet]

/-- `inet_pton` takes exactly the dotted quads. -/
theorem isDottedQuad_iff {s : CStr} : IsDottedQuad s ↔ (inetPton s).isSome := by
  rw [Option.isSome_iff_exists]
  exact exists_congr fun a => inetPton_eq_some.symm

instance (s : CStr) : Decidable (IsDottedQuad s) := decidable_of_iff _ isDottedQuad_iff.symm

/-- A dotted quad fits sixteen bytes. -/
theorem IsDottedQuad.strlcpy_eq {s : CStr} (h : IsDottedQuad s) : strlcpy s 16 = s := by
  obtain ⟨a, rfl⟩ := h
  exact strlcpy_inetNtoa a

/-- The built-in addresses are dotted quads. -/
theorem isDottedQuad_default : IsDottedQuad defaultStaticIp ∧ IsDottedQuad defaultGateway ∧
    IsDottedQuad defaultNetmask := by
  decide +kernel

/-! ### Step 4 of `run_session` -/

/-- `ip`, `gateway` and `netmask` of `run_session`. -/
structure SessionStrings where
  ip : CStr
  gateway : CStr
  netmask : CStr

/-- Step 4 of `run_session`: `dhcp` is what `dhcp_discover` does, `none` when it does not
    return. -/
def sessionAddrs (cfg : TetherConfig) (dhcp : Option DhcpResult) : Option SessionStrings :=
  if cfg.staticIp ≠ [] then
    some
      { ip := strlcpy cfg.staticIp 16
        gateway := strlcpy (if cfg.gateway ≠ [] then cfg.gateway else defaultGateway) 16
        netmask := strlcpy cfg.netmask 16 }
  else
    dhcp.map fun r =>
      if r.ret < 0 then
        { ip := strlcpy defaultStaticIp 16
          gateway := strlcpy defaultGateway 16
          netmask := strlcpy defaultNetmask 16 }
      else
        { ip := strlcpy r.lease.ip 16
          gateway := strlcpy r.lease.gateway 16
          netmask := strlcpy r.lease.netmask 16 }

/-- What `run_session` calls `utun_configure` with, if it gets there: `inet_pton` has
    accepted the address. -/
def configuredAddrs (cfg : TetherConfig) (dhcp : Option DhcpResult) : Option SessionStrings :=
  (sessionAddrs cfg dhcp).filter fun addrs => (inetPton addrs.ip).isSome

/-! ### What the user gave -/

/-- What the lines of a file assign. -/
def lineAssignments (contents : List Char) : List Assignment :=
  readAssignments [] (contents.splitOn '\n')

/-- What its pieces of 255 characters assign, each up to its first NUL, read as lines. -/
def pieceAssignments (contents : List Char) : List Assignment :=
  readAssignments [] ((pieces '\n' 255 contents).map cString)

/-- What a file that may be missing assigns, if files are read as `read` says. -/
def pathAssignmentsBy (read : List Char → List Assignment) (fs : FileSystem) (path : CStr) :
    List Assignment :=
  (fs path).elim [] read

/-- The assignments of the default file, of the options and of the files they name, in order, if
    files are read as `read` says. -/
def assignmentsBy (read : List Char → List Assignment) (fs : FileSystem) (home : Option CStr)
    (opts : List CliOption) : List Assignment :=
  interleave cliAssignments
    (fun
      | .config path => pathAssignmentsBy read fs path
      | _ => [])
    ((configDefaultPath home).elim [] (pathAssignmentsBy read fs)) opts

/-- What the user gave: files consist of lines. -/
def givenAssignments : FileSystem → Option CStr → List CliOption → List Assignment :=
  assignmentsBy lineAssignments

/-- What is found by `fgets` with a buffer of 256 bytes. -/
def foundAssignments : FileSystem → Option CStr → List CliOption → List Assignment :=
  assignmentsBy pieceAssignments

/-- The text given for a field: that of the last assignment to it. -/
def textGiven (given : List Assignment) (f : Field) : Option CStr :=
  (last Assignment.field given f).map (·.value)

/-- The last assignment to a field, if what it assigns is not empty. -/
def nonemptyLast (as : List Assignment) (f : Field) : Option Assignment :=
  (last Assignment.field as f).filter fun a => a.value ≠ []

/-- The assignments whose values become the address, the gateway and the netmask of the
    session.  Without a static address there are none. -/
def userIp (as : List Assignment) : Option Assignment := nonemptyLast as .staticIp

def userGateway (as : List Assignment) : Option Assignment :=
  (userIp as).bind fun _ => nonemptyLast as .gateway

def userNetmask (as : List Assignment) : Option Assignment :=
  (userIp as).bind fun _ => last Assignment.field as .netmask

/-- All three are dotted quads, and each that came from an assignment is the string that the
    user gave for it. -/
def AddrsValid (as given : List Assignment) (addrs : SessionStrings) : Prop :=
  (IsDottedQuad addrs.ip ∧ IsDottedQuad addrs.gateway ∧ IsDottedQuad addrs.netmask) ∧
    ((userIp as).isSome → textGiven given .staticIp = some addrs.ip) ∧
    ((userGateway as).isSome → textGiven given .gateway = some addrs.gateway) ∧
    ((userNetmask as).isSome → textGiven given .netmask = some addrs.netmask)

/-- The text given for the field is a dotted quad, and the text that was found is the same in its
    first fifteen characters. -/
def FoundAsGiven (given : List Assignment) (f : Field) (found : CStr) : Prop :=
  ∃ t, textGiven given f = some t ∧ IsDottedQuad t ∧ found.take 15 = t

/-- The texts found for the three are those given, and dotted quads. -/
def AddrsFoundAsGiven (found given : List Assignment) : Prop :=
  (∀ a, userIp found = some a → FoundAsGiven given .staticIp a.value) ∧
    (∀ a, userGateway found = some a → FoundAsGiven given .gateway a.value) ∧
    ∀ a, userNetmask found = some a → FoundAsGiven given .netmask a.value

/-- The code makes the assignments of the pieces. -/
theorem allAssignments_eq (fs : FileSystem) (home : Option CStr) (opts : List CliOption) :
    allAssignments fs home opts = foundAssignments fs home opts := by
  have hread : fileAssignments = pieceAssignments := funext fileAssignments_eq
  have hpath : pathAssignments fs = pathAssignmentsBy pieceAssignments fs := by
    funext path
    rw [pathAssignments, hread, pathAssignmentsBy]
  have hconfig : configAssignments fs = fun
      | .config path => pathAssignmentsBy pieceAssignments fs path
      | _ => [] := by
    funext opt
    cases opt with
    | config path => exact congrFun hpath path
    | _ => rfl
  rw [allAssignments, defaultAssignments, hpath, hconfig]
  rfl

/-! ### Values -/

/-- The string of a setting. -/
def Setting.cstr : Setting → Option CStr
  | staticIp s | gateway s | netmask s | protocol s => some s
  | _ => none

/-- A string is cut to fifteen characters. -/
def Assignment.Cut (a : Assignment) : Prop :=
  ∀ s, a.setting.cstr = some s → s = strlcpy a.value 16

/-- String values of a file are cut to fifteen characters. -/
theorem keySetting_cstr {sect key val s : CStr} {setting : Setting}
    (h : keySetting sect key val = some setting) (hs : setting.cstr = some s) :
    s = strlcpy val 16 := by
  unfold keySetting at h
  split_ifs at h <;> cases h <;> cases hs <;> rfl

/-- The setting that a line makes is that of its key and its value. -/
theorem keySetting_of_readLine {sect : CStr} {line : List Char} {setting : Setting}
    (h : setting ∈ (readLine sect line).2) :
    keySetting sect (strip ((strip line).takeWhile (· ≠ '='))) (strip (afterEq (strip line))) =
      some setting := by
  unfold readLine at h
  dsimp only at h
  split at h
  · exact absurd h List.not_mem_nil
  split at h
  · exact absurd h List.not_mem_nil
  split at h
  · exact Option.mem_toList.mp h
  · exact absurd h List.not_mem_nil

/-- Every assignment of some lines. -/
theorem readAssignments_cut (sect : CStr) (lines : List (List Char)) :
    ∀ a ∈ readAssignments sect lines, a.Cut := by
  induction lines generalizing sect with
  | nil => simp [readAssignments]
  | cons line lines ih =>
    intro a ha
    rcases List.mem_append.mp ha with ha | ha
    · obtain ⟨setting, hset, rfl⟩ := List.mem_map.mp ha
      exact fun s hs => keySetting_cstr (keySetting_of_readLine hset) hs
    · exact ih _ a ha

/-- A setting that is not a string is not cut. -/
theorem Assignment.cut_of_cstr_eq_none {a : Assignment} (h : a.setting.cstr = none) : a.Cut := by
  intro s hs
  rw [h] at hs
  cases hs

/-- Every assignment of a run of `main`. -/
theorem allAssignments_cut (fs : FileSystem) (home : Option CStr) (opts : List CliOption) :
    ∀ a ∈ allAssignments fs home opts, a.Cut := by
  have hpath : ∀ path, ∀ a ∈ pathAssignments fs path, a.Cut := by
    intro path
    unfold pathAssignments
    cases fs path with
    | none => simp
    | some contents =>
      rw [Option.elim_some, fileAssignments_eq]
      exact readAssignments_cut _ _
  have hcli : ∀ opt, ∀ a ∈ cliAssignments opt, a.Cut := by
    intro opt a ha
    cases opt <;> simp only [cliAssignments, List.mem_cons, List.not_mem_nil, or_false,
      List.mem_map] at ha
    -- only the three addresses are strings
    case uiPid optarg =>
      obtain ⟨pid, -, rfl⟩ := ha
      exact Assignment.cut_of_cstr_eq_none rfl
    case verbose =>
      rcases ha with rfl | rfl <;> exact Assignment.cut_of_cstr_eq_none rfl
    case static optarg | gateway optarg | netmask optarg =>
      subst ha
      exact fun s hs => (Option.some.inj hs).symm
    case noRoute | noDns | watch =>
      subst ha
      exact Assignment.cut_of_cstr_eq_none rfl
  intro a ha
  rw [allAssignments, interleave, List.mem_append, List.mem_flatMap] at ha
  rcases ha with ha | ⟨opt, -, ha⟩
  · unfold defaultAssignments at ha
    cases hpathe : configDefaultPath home with
    | none => simp [hpathe] at ha
    | some path =>
      rw [hpathe] at ha
      exact hpath path a ha
  · rcases List.mem_append.mp ha with ha | ha
    · exact hcli opt a ha
    · cases opt with
      | config path => exact hpath path a ha
      | _ => cases ha

/-! ### What the configuration holds -/

/-- The string a list of assignments leaves in a field that held `dflt`. -/
def textOf (as : List Assignment) (f : Field) (dflt : CStr) : CStr :=
  ((last Assignment.field as f).map fun a => strlcpy a.value 16).getD dflt

/-- The last assignment of a field, cut to sixteen bytes. -/
theorem textOf_some {as : List Assignment} {f : Field} {a : Assignment} (dflt : CStr)
    (h : last Assignment.field as f = some a) : textOf as f dflt = strlcpy a.value 16 := by
  rw [textOf, h, Option.map_some, Option.getD_some]

/-- Without one the default stays. -/
theorem textOf_none {as : List Assignment} {f : Field} (dflt : CStr)
    (h : last Assignment.field as f = none) : textOf as f dflt = dflt := by
  rw [textOf, h, Option.map_none, Option.getD_none]

/-- Only the empty text is copied as the empty text. -/
theorem strlcpy_eq_nil_iff {s : CStr} : strlcpy s 16 = [] ↔ s = [] := by
  cases s <;> simp [strlcpy]

/-- The last assignment of a field counts when it is not empty. -/
theorem nonemptyLast_eq_some {as : List Assignment} {f : Field} {a : Assignment} :
    nonemptyLast as f = some a ↔ last Assignment.field as f = some a ∧ a.value ≠ [] := by
  simp [nonemptyLast, Option.filter_eq_some_iff]

/-- A field that starts out empty ends up empty unless something was assigned to it. -/
theorem textOf_eq_nil_iff {as : List Assignment} {f : Field} :
    textOf as f [] = [] ↔ nonemptyLast as f = none := by
  unfold textOf nonemptyLast
  cases last Assignment.field as f with
  | none => simp
  | some a => simp [strlcpy_eq_nil_iff, Option.filter]

section Config

variable {fs : FileSystem} {home : Option CStr} {opts : List CliOption} {cfg : TetherConfig}

/-- A string field holds the last value assigned to it, cut to fifteen characters. -/
theorem get_cstr (h : mainConfig fs home opts = .ret 0 cfg) {f : Field} {s d : CStr}
    (hs : (cfg.get f).cstr = some s) (hd : (configInitDefaults.get f).cstr = some d) :
    s = textOf (allAssignments fs home opts) f d := by
  have hget : cfg.get f = ((last Assignment.field (allAssignments fs home opts) f).map
      (·.setting)).getD (configInitDefaults.get f) := by
    rw [mainConfig_eq h]
    exact configStore.read_writeAll configInitDefaults (allAssignments fs home opts) f
  rw [hget] at hs
  cases hlast : last Assignment.field (allAssignments fs home opts) f with
  | none =>
    rw [hlast, Option.map_none, Option.getD_none] at hs
    have hsd : (configInitDefaults.get f).cstr = some s := hs
    rw [textOf_none d hlast]
    exact Option.some.inj (hsd.symm.trans hd)
  | some a =>
    rw [hlast, Option.map_some, Option.getD_some] at hs
    rw [textOf_some d hlast]
    exact allAssignments_cut fs home opts a (mem_of_last hlast) s hs

/-- The three addresses of a configuration, by the assignments it was made from. -/
theorem config_addrs (h : mainConfig fs home opts = .ret 0 cfg) :
    cfg.staticIp = textOf (allAssignments fs home opts) .staticIp [] ∧
      cfg.gateway = textOf (allAssignments fs home opts) .gateway [] ∧
      cfg.netmask = textOf (allAssignments fs home opts) .netmask (strlcpy defaultNetmask 16) :=
  ⟨get_cstr h rfl rfl, get_cstr h rfl rfl, get_cstr h rfl rfl⟩

end Config

/-! ### DHCP -/

/-- What a lease gives is a dotted quad when its default is one. -/
theorem isDottedQuad_leaseField {a : InAddr} {dflt : CStr} (h : IsDottedQuad dflt) :
    IsDottedQuad (leaseField a dflt) := by
  unfold leaseField
  split
  · rw [strlcpy_inetNtoa]
    exact ⟨a, rfl⟩
  · rw [h.strlcpy_eq]
    exact h

/-- `dhcp_discover` returns 0 or -1. -/
theorem dhcpDiscover_ret {fuel : Nat} {mac : Mac} {tx : Nat → Int} {rx : Nat → Recv}
    {ethBuf rndisBuf : Mem} {lease : DhcpLease} {r : DhcpResult}
    (h : dhcpDiscover fuel mac tx rx ethBuf rndisBuf lease = some r) : r.ret = 0 ∨ r.ret = -1 := by
  simp only [dhcpDiscover] at h
  -- every `return`, and the two loops that do not end
  repeat' split at h
  all_goals cases h
  all_goals first | exact .inr rfl | exact .inl rfl

/-- The addresses of a lease are dotted quads. -/
theorem dhcpDiscover_dotted {fuel : Nat} {mac : Mac} {tx : Nat → Int} {rx : Nat → Recv}
    {ethBuf rndisBuf : Mem} {lease : DhcpLease} {r : DhcpResult}
    (h : dhcpDiscover fuel mac tx rx ethBuf rndisBuf lease = some r) (hret : ¬ r.ret < 0) :
    IsDottedQuad r.lease.ip ∧ IsDottedQuad r.lease.gateway ∧ IsDottedQuad r.lease.netmask := by
  have h0 : r.ret = 0 := by
    rcases dhcpDiscover_ret h with h | h <;> omega
  obtain ⟨offer, k, ack, k', -, -, hack, hacked, hlease, -⟩ := dhcpDiscover_success h h0
  rcases ackPhase.recvLoop_cases rfl hack with ⟨hnone, -⟩ | ⟨j, g, s₁, -, -, -, -, -, hvisit⟩
  · rw [hnone] at hacked
    cases hacked
  rw [hlease, (ackVisit_done hvisit).2, leaseOf]
  refine ⟨?_, isDottedQuad_leaseField isDottedQuad_default.2.1,
    isDottedQuad_leaseField isDottedQuad_default.2.2⟩
  rw [strlcpy_inetNtoa]
  exact ⟨_, rfl⟩

/-! ### What is passed to `utun_configure` -/

/-- A second copy cuts nothing off. -/
theorem strlcpy_strlcpy (s : CStr) : strlcpy (strlcpy s 16) 16 = strlcpy s 16 := by
  simp [strlcpy, List.take_take]

/-- The string `p` comes from the assignment `u`, if there is one, and is a dotted quad
    otherwise. -/
def Passes (u : Option Assignment) (p : CStr) : Prop :=
  (u = none ∧ IsDottedQuad p) ∨ ∃ a, u = some a ∧ p = strlcpy a.value 16

/-- One of the three strings, and what was given for it. -/
theorem Passes.valid_iff {u : Option Assignment} {p : CStr} (h : Passes u p)
    (given : List Assignment) (f : Field) :
    (IsDottedQuad p ∧ (u.isSome → textGiven given f = some p)) ↔
      ∀ a, u = some a → FoundAsGiven given f a.value := by
  rcases h with ⟨rfl, hdot⟩ | ⟨a, rfl, rfl⟩
  · exact iff_of_true ⟨hdot, nofun⟩ nofun
  · simp only [Option.some.injEq, forall_eq', Option.isSome_some, true_imp_iff]
    constructor
    · rintro ⟨hdot, htext⟩
      exact ⟨_, htext, hdot, rfl⟩
    · rintro ⟨t, htext, hdot, rfl⟩
      exact ⟨hdot, htext⟩

section Session

variable {fs : FileSystem} {home : Option CStr} {opts : List CliOption} {cfg : TetherConfig}
  {addrs : SessionStrings}

/-- Without a static address all three strings come from DHCP or are defaults. -/
theorem sessionAddrs_dhcp {fuel : Nat} {mac : Mac} {tx : Nat → Int} {rx : Nat → Recv}
    {ethBuf rndisBuf : Mem} {lease : DhcpLease} (hip : cfg.staticIp = [])
    (h : sessionAddrs cfg (dhcpDiscover fuel mac tx rx ethBuf rndisBuf lease) = some addrs) :
    IsDottedQuad addrs.ip ∧ IsDottedQuad addrs.gateway ∧ IsDottedQuad addrs.netmask := by
  obtain ⟨hdefIp, hdefGateway, hdefNetmask⟩ := isDottedQuad_default
  rw [sessionAddrs, if_neg (not_not.mpr hip)] at h
  obtain ⟨r, hr, rfl⟩ := Option.map_eq_some_iff.mp h
  split
  · rw [hdefIp.strlcpy_eq, hdefGateway.strlcpy_eq, hdefNetmask.strlcpy_eq]
    exact ⟨hdefIp, hdefGateway, hdefNetmask⟩
  · rename_i hret
    obtain ⟨h₁, h₂, h₃⟩ := dhcpDiscover_dotted hr hret
    rw [h₁.strlcpy_eq, h₂.strlcpy_eq, h₃.strlcpy_eq]
    exact ⟨h₁, h₂, h₃⟩

/-- With a static address the three strings come from the user, or are defaults. -/
theorem sessionAddrs_static (hcfg : mainConfig fs home opts = .ret 0 cfg) {w : Assignment}
    (hw : userIp (allAssignments fs home opts) = some w) {dhcp : Option DhcpResult}
    (h : sessionAddrs cfg dhcp = some addrs) :
    Passes (userIp (allAssignments fs home opts)) addrs.ip ∧
      Passes (userGateway (allAssignments fs home opts)) addrs.gateway ∧
      Passes (userNetmask (allAssignments fs home opts)) addrs.netmask := by
  obtain ⟨hip, hgateway, hnetmask⟩ := config_addrs hcfg
  generalize allAssignments fs home opts = as at *
  have hlast := (nonemptyLast_eq_some.mp hw).1
  have hstatic : cfg.staticIp ≠ [] := by
    rw [hip, Ne, textOf_eq_nil_iff, ← userIp, hw]
    nofun
  rw [sessionAddrs, if_pos hstatic] at h
  cases h
  -- `run_session` copies into sixteen bytes again, which cuts nothing more
  refine ⟨.inr ⟨w, hw, ?_⟩, ?_, ?_⟩
  · show strlcpy cfg.staticIp 16 = _
    rw [hip, textOf_some [] hlast, strlcpy_strlcpy]
  · simp only [userGateway, hw, Option.bind_some]
    cases hg : nonemptyLast as .gateway with
    | none =>
      rw [textOf_eq_nil_iff.mpr hg] at hgateway
      rw [if_neg (not_not.mpr hgateway), isDottedQuad_default.2.1.strlcpy_eq]
      exact .inl ⟨rfl, isDottedQuad_default.2.1⟩
    | some g =>
      have hglast := (nonemptyLast_eq_some.mp hg).1
      have hne : cfg.gateway ≠ [] := by
        rw [hgateway, Ne, textOf_eq_nil_iff, hg]
        nofun
      rw [if_pos hne, hgateway, textOf_some [] hglast, strlcpy_strlcpy]
      exact .inr ⟨g, rfl, rfl⟩
  · -- unlike the gateway, an empty netmask is used as it is
    simp only [userNetmask, hw, Option.bind_some, hnetmask]
    cases hm : last Assignment.field as .netmask with
    | none =>
      rw [textOf_none _ hm, strlcpy_strlcpy, isDottedQuad_default.2.2.strlcpy_eq]
      exact .inl ⟨rfl, isDottedQuad_default.2.2⟩
    | some m =>
      rw [textOf_some _ hm, strlcpy_strlcpy]
      exact .inr ⟨m, rfl, rfl⟩

end Session

/-- **Addresses.**  When `run_session` calls `utun_configure`, the three strings are dotted
    quads, and exactly what the user gave where they come from the user, if and only if the
    user gave dotted quads for them, and the pieces in which the files are read say, up to
    fifteen characters, the same for them as the lines of the files. -/
theorem sessionAddrs_valid_iff (fs : FileSystem) (home : Option CStr) (opts : List CliOption)
    (cfg : TetherConfig) (fuel : Nat) (mac : Mac) (tx : Nat → Int) (rx : Nat → Recv)
    (ethBuf rndisBuf : Mem) (lease : DhcpLease) (addrs : SessionStrings)
    (hcfg : mainConfig fs home opts = .ret 0 cfg)
    (h : configuredAddrs cfg (dhcpDiscover fuel mac tx rx ethBuf rndisBuf lease) = some addrs) :
    AddrsValid (allAssignments fs home opts) (givenAssignments fs home opts) addrs ↔
      AddrsFoundAsGiven (foundAssignments fs home opts) (givenAssignments fs home opts) := by
  have haddrs := (Option.filter_eq_some_iff.mp h).1
  obtain ⟨hip, hgateway, hnetmask⟩ : Passes (userIp (allAssignments fs home opts)) addrs.ip ∧
      Passes (userGateway (allAssignments fs home opts)) addrs.gateway ∧
      Passes (userNetmask (allAssignments fs home opts)) addrs.netmask := by
    cases hw : userIp (allAssignments fs home opts) with
    | none =>
      have hempty : cfg.staticIp = [] := by
        rw [(config_addrs hcfg).1, textOf_eq_nil_iff]
        exact hw
      obtain ⟨h₁, h₂, h₃⟩ := sessionAddrs_dhcp hempty haddrs
      exact ⟨.inl ⟨rfl, h₁⟩, .inl ⟨by rw [userGateway, hw]; rfl, h₂⟩,
        .inl ⟨by rw [userNetmask, hw]; rfl, h₃⟩⟩
    | some w => exact hw ▸ sessionAddrs_static hcfg hw haddrs
  rw [← allAssignments_eq]
  generalize givenAssignments fs home opts = given
  -- string by string
  calc AddrsValid (allAssignments fs home opts) given addrs
      ↔ (IsDottedQuad addrs.ip ∧ ((userIp (allAssignments fs home opts)).isSome →
            textGiven given .staticIp = some addrs.ip)) ∧
          (IsDottedQuad addrs.gateway ∧ ((userGateway (allAssignments fs home opts)).isSome →
            textGiven given .gateway = some addrs.gateway)) ∧
          (IsDottedQuad addrs.netmask ∧ ((userNetmask (allAssignments fs home opts)).isSome →
            textGiven given .netmask = some addrs.netmask)) := by
        unfold AddrsValid
        tauto
    _ ↔ AddrsFoundAsGiven (allAssignments fs home opts) given := by
        rw [hip.valid_iff, hgateway.valid_iff, hnetmask.valid_iff]
        rfl

/-- A file with a static address, and then a comment that does not fit into the buffer. -/
def staticFile (comment : List Char) : List Char :=
  "[network]\nstatic_ip = 192.168.42.7\n".toList ++ List.replicate 255 '#' ++ comment

/-- The only file is `f`. -/
def fileSystemOf (contents : List Char) : FileSystem :=
  fun path => if path = "f".toList then some contents else none

/-- `-c f -g gateway` -/
def fileOpts (gateway : CStr) : List CliOption := [.config "f".toList, .gateway gateway]

/-- Command lines with a static address and a gateway. -/
def staticOpts (gateway : CStr) : List CliOption :=
  [.static "192.168.42.7".toList, .gateway gateway]

/-- What they configure. -/
def staticConfig (gateway : CStr) : TetherConfig :=
  (configInitDefaults.set (.staticIp "192.168.42.7".toList)).set (.gateway gateway)

/-- The address of a file and the gateway of the command line; the comment says nothing. -/
theorem sessionAddrs_valid_iff_static :
    AddrsValid
      (allAssignments (fileSystemOf (staticFile "more".toList)) none
        (fileOpts "192.168.42.1".toList))
      (givenAssignments (fileSystemOf (staticFile "more".toList)) none
        (fileOpts "192.168.42.1".toList))
      ⟨"192.168.42.7".toList, "192.168.42.1".toList, "255.255.255.0".toList⟩ := by
  refine (sessionAddrs_valid_iff (fileSystemOf (staticFile "more".toList)) none
    (fileOpts "192.168.42.1".toList) (staticConfig "192.168.42.1".toList) 0 (.replicate 6 0)
    (fun _ => -1) (fun _ => ⟨-1, fun _ => 0, by decide⟩) (fun _ => 0) (fun _ => 0)
    ⟨[], [], [], [], []⟩ ⟨"192.168.42.7".toList, "192.168.42.1".toList, "255.255.255.0".toList⟩
    (by decide +kernel) (by rfl)).mpr ?_
  -- both readings have the two assignments only
  have hfound : allAssignments (fileSystemOf (staticFile "more".toList)) none
      (fileOpts "192.168.42.1".toList) =
      [⟨.staticIp "192.168.42.7".toList, "192.168.42.7".toList⟩,
        ⟨.gateway "192.168.42.1".toList, "192.168.42.1".toList⟩] := by decide +kernel
  have hgiven : givenAssignments (fileSystemOf (staticFile "more".toList)) none
      (fileOpts "192.168.42.1".toList) =
      [⟨.staticIp "192.168.42.7".toList, "192.168.42.7".toList⟩,
        ⟨.gateway "192.168.42.1".toList, "192.168.42.1".toList⟩] := by decide +kernel
  rw [← allAssignments_eq, hfound, hgiven]
  refine ⟨?_, ?_, ?_⟩ <;> intro a ha <;> cases ha
  · exact ⟨_, rfl, ⟨⟨192, 168, 42, 7⟩, by decide⟩, by decide⟩
  · exact ⟨_, rfl, ⟨⟨192, 168, 42, 1⟩, by decide⟩, by decide⟩

/-- `-s 192.168.42.7 -g '1.1.1.1;reboot'`: the gateway goes into the shell commands as it
    is. -/
theorem not_sessionAddrs_valid :
    ¬ ∀ (fs : FileSystem) (home : Option CStr) (opts : List CliOption) (cfg : TetherConfig)
      (fuel : Nat) (mac : Mac) (tx : Nat → Int) (rx : Nat → Recv) (ethBuf rndisBuf : Mem)
      (lease : DhcpLease) (addrs : SessionStrings), mainConfig fs home opts = .ret 0 cfg →
        configuredAddrs cfg (dhcpDiscover fuel mac tx rx ethBuf rndisBuf lease) = some addrs →
        AddrsValid (allAssignments fs home opts) (givenAssignments fs home opts) addrs := by
  intro h
  have hvalid := h (fun _ => none) none (staticOpts "1.1.1.1;reboot".toList)
    (staticConfig "1.1.1.1;reboot".toList) 0 (.replicate 6 0) (fun _ => -1)
    (fun _ => ⟨-1, fun _ => 0, by decide⟩) (fun _ => 0) (fun _ => 0) ⟨[], [], [], [], []⟩
    ⟨"192.168.42.7".toList, "1.1.1.1;reboot".toList, "255.255.255.0".toList⟩ (by decide) (by rfl)
  exact absurd hvalid.1.2.1 (by decide +kernel)

end AndroidTether
