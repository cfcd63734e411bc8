import AndroidTether.UsbSearch

namespace AndroidTether

open LastWrite

/-!
# The endpoints and the active settings

`usb_find_rndis_device` takes the bulk endpoints of the two interfaces from whichever alternate
setting mentions them last.  It selects setting 1 of the data interface only when that leaves one
of the two fields zero.

* `activeSetting` — the setting in which an interface is, by the calls made on it;
* `Candidate.ScansActive` — the descriptors for which what the passes pick is in an active
  setting;
* `usbFindRndisDevice_active_iff` — these are the only ones.
-/

/-! ### Settings -/

def settingStep (i : Nat) (iface : UInt8) (setting : Nat) : UsbCall → Nat
  | .setAlt j iface' alt ret => if j = i ∧ iface' = iface ∧ ret = 0 then alt else setting
  | _ => setting

/-- The setting of a claimed interface after the calls: it is in alternate setting 0 until
    `libusb_set_interface_alt_setting` succeeds on it. -/
def activeSetting (log : List UsbCall) (i : Nat) (iface : UInt8) : Nat :=
  log.foldl (settingStep i iface) 0

/-- The alternate settings of the two interfaces that are active, when `setting` says which is
    active on an interface. -/
def ConfigDesc.active (config : ConfigDesc) (comm data : UInt8) (setting : UInt8 → Nat) :
    List InterfaceDesc :=
  config.alts.filter fun alt =>
    (alt.bInterfaceNumber = comm ∨ alt.bInterfaceNumber = data) ∧
      alt.bAlternateSetting.toNat = setting alt.bInterfaceNumber

/-- One of the settings has an endpoint for the field `k` with the address. -/
def EndpointIn (alts : List InterfaceDesc) (k : EpField) (addr : UInt8) : Prop :=
  ∃ alt ∈ alts, ∃ ep ∈ alt.endpoint, ep.role = some k ∧ ep.bEndpointAddress = addr

instance (alts : List InterfaceDesc) (k : EpField) (addr : UInt8) :
    Decidable (EndpointIn alts k addr) :=
  inferInstanceAs (Decidable (∃ alt ∈ alts, ∃ ep ∈ alt.endpoint, _))

/-- The endpoint fields for bulk transfers have addresses of the active settings of the device
    that was found. -/
def FindResult.EndpointsActive (r : FindResult) (devices : List Candidate) : Prop :=
  ∃ i c, devices[i]? = some c ∧ r.dev.handle = some i ∧
    ∀ k, k ≠ .epInt →
      EndpointIn (c.config.active r.dev.ifaceComm r.dev.ifaceData (activeSetting r.log i)) k
        (r.dev.endpoint k).1

/-- The endpoints of the two interfaces in all their settings, in the order of the passes. -/
def ConfigDesc.ownEndpoints (config : ConfigDesc) (comm data : UInt8) : List EndpointDesc :=
  (config.alts.filter fun alt =>
    alt.bInterfaceNumber = comm ∨ alt.bInterfaceNumber = data).flatMap InterfaceDesc.endpoint

/-- The setting of an interface when setting 1 of the data interface has been selected. -/
def dataSelected (data iface : UInt8) : Nat := if iface = data then 1 else 0

/-- The last bulk endpoints of both directions are in an active setting.  The settings are those
    after the reset, unless the last OUT endpoint has the address 0; then setting 1 of the data
    interface is selected, and its IN endpoint is used if it has one. -/
def ConfigDesc.ScansActive (config : ConfigDesc) (comm data : UInt8) : Prop :=
  ∃ epIn epOut, last EndpointDesc.role (config.ownEndpoints comm data) (some .epIn) = some epIn ∧
    last EndpointDesc.role (config.ownEndpoints comm data) (some .epOut) = some epOut ∧
    if epOut.bEndpointAddress ≠ 0 then
      EndpointIn (config.active comm data fun _ => 0) .epIn epIn.bEndpointAddress ∧
        EndpointIn (config.active comm data fun _ => 0) .epOut epOut.bEndpointAddress
    else
      (∃ addr, EndpointIn (config.active data data fun _ => 1) .epIn addr) ∨
        EndpointIn (config.active comm data (dataSelected data)) .epIn epIn.bEndpointAddress

/-- The interfaces that the device is opened for have such descriptors. -/
def Candidate.ScansActive (c : Candidate) : Prop :=
  ∃ comm data, c.target = some (comm, data) ∧ c.config.ScansActive comm data

/-! ### The last endpoints -/

section Last

variable {k : EpField} {comm data : UInt8} {config : ConfigDesc}

/-- `find_endpoints` assigns a bulk field from the last endpoint for it. -/
theorem last_flatMap_epWrites (isComm : Bool) (hk : k ≠ .epInt) (eps : List EndpointDesc) :
    (last EpWrite.field (eps.flatMap (epWrites isComm)) k).map EpWrite.ep =
      last EndpointDesc.role eps (some k) := by
  induction eps with
  | nil => rfl
  | cons ep eps ih =>
    have hone : (last EpWrite.field (epWrites isComm ep) k).map EpWrite.ep =
        last EndpointDesc.role [ep] (some k) := by
      rw [last_singleton, epWrites]
      cases hrole : ep.role with
      | none => rfl
      | some k' =>
        by_cases hint : k' = .epInt ∧ !isComm
        · -- an interrupt endpoint
          have hne : some k' ≠ some k := fun h => hk ((Option.some.inj h).symm.trans hint.1)
          simp only [if_pos hint, if_neg hne, last_nil, Option.map_none]
        · simp only [if_neg hint, last_singleton, Option.some.injEq]
          by_cases hkk : k' = k <;> simp [hkk]
    rw [List.flatMap_cons, last_append, ← List.singleton_append, last_append, Option.map_or, ih,
      hone]

/-- The first pass assigns a bulk field from the last endpoint for it of both interfaces. -/
theorem last_flatMap_altWrites (hk : k ≠ .epInt) :
    (last EpWrite.field (config.alts.flatMap (altWrites comm data)) k).map EpWrite.ep =
      last EndpointDesc.role (config.ownEndpoints comm data) (some k) := by
  rw [ConfigDesc.ownEndpoints]
  induction config.alts with
  | nil => rfl
  | cons alt alts ih =>
    have hone : (last EpWrite.field (altWrites comm data alt) k).map EpWrite.ep =
        if alt.bInterfaceNumber = comm ∨ alt.bInterfaceNumber = data then
          last EndpointDesc.role alt.endpoint (some k)
        else none := by
      have hcomm := last_flatMap_epWrites true hk alt.endpoint
      have hdata := last_flatMap_epWrites false hk alt.endpoint
      rw [altWrites, last_append, Option.map_or]
      by_cases hc : alt.bInterfaceNumber = comm
      · rw [if_pos hc, if_pos (Or.inl hc), hcomm]
        -- for the data interface the same endpoints again
        split_ifs
        · rw [hdata, Option.or_self]
        · rfl
      · by_cases hd : alt.bInterfaceNumber = data
        · rw [if_neg hc, if_pos hd, if_pos (Or.inr hd), hdata]
          exact Option.or_none
        · rw [if_neg hc, if_neg hd, if_neg (by tauto)]
          rfl
    rw [List.flatMap_cons, last_append, Option.map_or, ih, hone, List.filter_cons]
    by_cases hown : alt.bInterfaceNumber = comm ∨ alt.bInterfaceNumber = data
    · simp only [if_pos hown, decide_eq_true hown, if_true, List.flatMap_cons, last_append]
    · simp only [if_neg hown, decide_eq_false hown, Bool.false_eq_true, if_false, Option.or_none]

/-- The second pass assigns from setting 1 of the data interface. -/
theorem mem_flatMap_dataAltWrites {w : EpWrite} :
    w ∈ config.alts.flatMap (dataAltWrites data) ↔
      w.field ≠ .epInt ∧ ∃ alt ∈ config.active data data fun _ => 1,
        w.ep ∈ alt.endpoint ∧ w.ep.role = some w.field := by
  have hsetting : ∀ setting : UInt8, setting = 1 ↔ setting.toNat = 1 := fun setting =>
    UInt8.toNat_inj.symm
  have halt : ∀ alt, w ∈ dataAltWrites data alt ↔
      (alt.bInterfaceNumber = data ∧ alt.bAlternateSetting.toNat = 1) ∧
        w.ep ∈ alt.endpoint ∧ w.ep.role = some w.field ∧ w.field ≠ .epInt := by
    intro alt
    rw [dataAltWrites, List.mem_ite_nil_right, mem_flatMap_epWrites, hsetting, Bool.false_eq_true,
      imp_false]
  simp only [List.mem_flatMap, halt, ConfigDesc.active, List.mem_filter, or_self,
    decide_eq_true_eq]
  constructor
  · rintro ⟨alt, hmem, hnum, hep, hrole, hint⟩
    exact ⟨hint, alt, ⟨hmem, hnum⟩, hep, hrole⟩
  · rintro ⟨hint, alt, ⟨hmem, hnum⟩, hep, hrole⟩
    exact ⟨alt, hmem, hnum, hep, hrole, hint⟩

/-- An endpoint of one of the settings. -/
theorem EndpointIn.of_mem {alts : List InterfaceDesc} {alt : InterfaceDesc} {ep : EndpointDesc}
    (halt : alt ∈ alts) (hep : ep ∈ alt.endpoint) (hrole : ep.role = some k) :
    EndpointIn alts k ep.bEndpointAddress :=
  ⟨alt, halt, ep, hep, hrole, rfl⟩

/-- The endpoints of the two interfaces. -/
theorem mem_ownEndpoints {ep : EndpointDesc} : ep ∈ config.ownEndpoints comm data ↔
    ∃ alt ∈ config.alts, (alt.bInterfaceNumber = comm ∨ alt.bInterfaceNumber = data) ∧
      ep ∈ alt.endpoint := by
  simp only [ConfigDesc.ownEndpoints, List.mem_flatMap, List.mem_filter, decide_eq_true_eq,
    and_assoc]

/-- An active endpoint is one of the endpoints of the two interfaces. -/
theorem EndpointIn.exists_last {setting : UInt8 → Nat} {addr : UInt8}
    (h : EndpointIn (config.active comm data setting) k addr) :
    ∃ ep, last EndpointDesc.role (config.ownEndpoints comm data) (some k) = some ep := by
  obtain ⟨alt, halt, ep, hep, hrole, -⟩ := h
  obtain ⟨hmem, hcond⟩ := List.mem_filter.mp halt
  rw [decide_eq_true_eq] at hcond
  cases hlast : last EndpointDesc.role (config.ownEndpoints comm data) (some k) with
  | some ep' => exact ⟨ep', rfl⟩
  | none =>
    have hown := mem_ownEndpoints.mpr ⟨alt, hmem, hcond.1, hep⟩
    exact absurd hrole (last_eq_none_iff.mp hlast ep hown)

/-- The address of an IN endpoint has the direction bit. -/
theorem addr_ne_zero_of_epIn {ep : EndpointDesc} (h : ep.role = some .epIn) :
    ep.bEndpointAddress ≠ 0 := by
  intro hzero
  have hdir : ¬ (0 : UInt8) &&& endpointDirMask = endpointIn := by decide
  rw [EndpointDesc.role, hzero, if_neg hdir] at h
  split_ifs at h
  all_goals cases h

/-- In a setting without an endpoint for the field nothing is assigned to it. -/
theorem last_dataAltWrites (config : ConfigDesc) (data : UInt8) (hk : k ≠ .epInt) :
    match last EpWrite.field (config.alts.flatMap (dataAltWrites data)) k with
    | some w => EndpointIn (config.active data data fun _ => 1) k w.ep.bEndpointAddress
    | none => ∀ addr, ¬ EndpointIn (config.active data data fun _ => 1) k addr := by
  cases hlast : last EpWrite.field (config.alts.flatMap (dataAltWrites data)) k with
  | some w =>
    obtain ⟨-, alt, halt, hep, hrole⟩ := mem_flatMap_dataAltWrites.mp (mem_of_last hlast)
    rw [key_of_last hlast] at hrole
    exact .of_mem halt hep hrole
  | none =>
    rintro addr ⟨alt, halt, ep, hep, hrole, -⟩
    have hmem : (⟨k, ep⟩ : EpWrite) ∈ config.alts.flatMap (dataAltWrites data) :=
      mem_flatMap_dataAltWrites.mpr ⟨hk, alt, halt, hep, hrole⟩
    exact last_eq_none_iff.mp hlast _ hmem rfl

end Last

/-! ### The two passes -/

section Scan

variable {c : Candidate} {comm data : UInt8} {dev : UsbDevice} {k : EpField}

/-- The address in a bulk field after the first pass. -/
theorem forAlts_scanAlt_addr (config : ConfigDesc) (hk : k ≠ .epInt) :
    ((config.forAlts (scanAlt comm data) dev).endpoint k).1 =
      ((last EndpointDesc.role (config.ownEndpoints comm data) (some k)).map
        EndpointDesc.bEndpointAddress).getD (dev.endpoint k).1 := by
  rw [forAlts_scanAlt, writeAll_addr, ← last_flatMap_altWrites hk, Option.map_map]
  rfl

/-- The address in a bulk field after the second pass. -/
theorem forAlts_scanDataAlt_addr (config : ConfigDesc) :
    ((config.forAlts (scanDataAlt data) dev).endpoint k).1 =
      ((last EpWrite.field (config.alts.flatMap (dataAltWrites data)) k).map fun w =>
        w.ep.bEndpointAddress).getD (dev.endpoint k).1 := by
  rw [forAlts_scanDataAlt, writeAll_addr]

/-- The fields for bulk endpoints are two. -/
theorem forall_bulk {P : EpField → Prop} :
    (∀ k, k ≠ .epInt → P k) ↔ P .epIn ∧ P .epOut := by
  constructor
  · exact fun h => ⟨h .epIn (by decide), h .epOut (by decide)⟩
  · rintro ⟨hin, hout⟩ k hk
    cases k with
    | epIn => exact hin
    | epOut => exact hout
    | epInt => exact absurd rfl hk

/-- Setting 1 is selected by one call. -/
theorem activeSetting_setAlt (i : Nat) (data : UInt8) :
    activeSetting [.setAlt i data 1 0] i = dataSelected data := by
  funext iface
  show (if i = i ∧ data = iface ∧ (0 : Int) = 0 then 1 else 0) = dataSelected data iface
  simp only [true_and, and_true, dataSelected, eq_comm]

/-- Setting 1 of the data interface is active when it has been selected. -/
theorem EndpointIn.of_dataSelected {config : ConfigDesc} {addr : UInt8}
    (h : EndpointIn (config.active data data fun _ => 1) k addr) :
    EndpointIn (config.active comm data (dataSelected data)) k addr := by
  obtain ⟨alt, halt, hep⟩ := h
  refine ⟨alt, ?_, hep⟩
  simp only [ConfigDesc.active, List.mem_filter, or_self, decide_eq_true_eq] at halt ⊢
  obtain ⟨hmem, hnum, hsetting⟩ := halt
  refine ⟨hmem, .inr hnum, ?_⟩
  rw [hsetting, dataSelected, if_pos hnum]

/-- The condition, by the last endpoints of either direction. -/
theorem scansActive_iff {config : ConfigDesc} {epIn epOut : EndpointDesc}
    (hin : last EndpointDesc.role (config.ownEndpoints comm data) (some .epIn) = some epIn)
    (hout : last EndpointDesc.role (config.ownEndpoints comm data) (some .epOut) = some epOut) :
    config.ScansActive comm data ↔
      if epOut.bEndpointAddress ≠ 0 then
        EndpointIn (config.active comm data fun _ => 0) .epIn epIn.bEndpointAddress ∧
          EndpointIn (config.active comm data fun _ => 0) .epOut epOut.bEndpointAddress
      else
        (∃ addr, EndpointIn (config.active data data fun _ => 1) .epIn addr) ∨
          EndpointIn (config.active comm data (dataSelected data)) .epIn
            epIn.bEndpointAddress := by
  simp only [ConfigDesc.ScansActive, hin, hout, Option.some.injEq, exists_and_left,
    exists_eq_left']

/-- The second pass, when it fills the OUT field: so it does from an active setting, and the IN
    field too if that setting has an IN endpoint. -/
theorem forAlts_scanDataAlt_active_iff (config : ConfigDesc) (hzero : dev.epOut = 0)
    (hfound : (config.forAlts (scanDataAlt data) dev).epOut ≠ 0) :
    (EndpointIn (config.active comm data (dataSelected data)) .epIn
          (config.forAlts (scanDataAlt data) dev).epIn ∧
        EndpointIn (config.active comm data (dataSelected data)) .epOut
          (config.forAlts (scanDataAlt data) dev).epOut) ↔
      (∃ addr, EndpointIn (config.active data data fun _ => 1) .epIn addr) ∨
        EndpointIn (config.active comm data (dataSelected data)) .epIn dev.epIn := by
  have hout : EndpointIn (config.active comm data (dataSelected data)) .epOut
      (config.forAlts (scanDataAlt data) dev).epOut := by
    have haddr : (config.forAlts (scanDataAlt data) dev).epOut = _ :=
      forAlts_scanDataAlt_addr (k := .epOut) config
    have hlast := last_dataAltWrites config data (k := .epOut) (by decide)
    cases hw : last EpWrite.field (config.alts.flatMap (dataAltWrites data)) .epOut with
    | some w =>
      rw [hw] at haddr hlast
      rw [haddr]
      exact hlast.of_dataSelected
    | none =>
      -- then the field would still be zero
      rw [hw] at haddr
      exact absurd (haddr.trans hzero) hfound
  rw [and_iff_left hout]
  have haddr : (config.forAlts (scanDataAlt data) dev).epIn = _ :=
    forAlts_scanDataAlt_addr (k := .epIn) config
  have hlast := last_dataAltWrites config data (k := .epIn) (by decide)
  cases hw : last EpWrite.field (config.alts.flatMap (dataAltWrites data)) .epIn with
  | some w =>
    rw [hw] at haddr hlast
    rw [haddr]
    exact iff_of_true hlast.of_dataSelected (.inl ⟨_, hlast⟩)
  | none =>
    rw [hw] at haddr hlast
    have hkept : (config.forAlts (scanDataAlt data) dev).epIn = dev.epIn := haddr
    rw [hkept, or_iff_right (not_exists.mpr hlast)]

/-- **The two passes.**  If they fill both bulk fields, the addresses are active exactly when
    the descriptors say so. -/
theorem scanEndpoints_active_iff {i : Nat} {dev' : UsbDevice} {calls : List UsbCall}
    (hscan : scanEndpoints i c comm data dev = (dev', calls))
    (hfound : dev'.epIn ≠ 0 ∧ dev'.epOut ≠ 0) :
    (∀ k, k ≠ .epInt → EndpointIn (c.config.active comm data (activeSetting calls i)) k
      (dev'.endpoint k).1) ↔ c.config.ScansActive comm data := by
  rw [forall_bulk]
  cases hin : last EndpointDesc.role (c.config.ownEndpoints comm data) (some .epIn) with
  | none =>
    -- what is left of an earlier device is not an endpoint of this one
    refine iff_of_false (fun h => ?_) (fun ⟨ep, _, h, _⟩ => ?_)
    · obtain ⟨ep, hep⟩ := h.1.exists_last
      rw [hin] at hep
      cases hep
    · rw [hin] at h
      cases h
  | some epIn =>
  cases hout : last EndpointDesc.role (c.config.ownEndpoints comm data) (some .epOut) with
  | none =>
    refine iff_of_false (fun h => ?_) (fun ⟨_, ep, _, h, _⟩ => ?_)
    · obtain ⟨ep, hep⟩ := h.2.exists_last
      rw [hout] at hep
      cases hep
    · rw [hout] at h
      cases h
  | some epOut =>
  have hrole : epIn.role = some .epIn := key_of_last hin
  have hinAddr : (c.config.forAlts (scanAlt comm data) dev).epIn = epIn.bEndpointAddress := by
    have haddr : ((c.config.forAlts (scanAlt comm data) dev).endpoint .epIn).1 = _ :=
      forAlts_scanAlt_addr c.config (by decide)
    rwa [hin] at haddr
  have houtAddr : (c.config.forAlts (scanAlt comm data) dev).epOut = epOut.bEndpointAddress := by
    have haddr : ((c.config.forAlts (scanAlt comm data) dev).endpoint .epOut).1 = _ :=
      forAlts_scanAlt_addr c.config (by decide)
    rwa [hout] at haddr
  rw [scansActive_iff hin hout]
  rw [scanEndpoints] at hscan
  by_cases hzero : epOut.bEndpointAddress = 0
  · -- the first pass leaves the OUT field zero
    rw [if_pos (.inr (houtAddr.trans hzero))] at hscan
    simp only [Prod.mk.injEq] at hscan
    obtain ⟨hdev, rfl⟩ := hscan
    rw [hzero]
    by_cases hret : c.setAltRet = 0
    · rw [if_pos hret] at hdev
      rw [hret, activeSetting_setAlt, if_neg (by decide), ← hinAddr, ← hdev]
      rw [← hdev] at hfound
      exact forAlts_scanDataAlt_active_iff c.config (houtAddr.trans hzero) hfound.2
    · rw [if_neg hret] at hdev
      rw [← hdev, houtAddr] at hfound
      exact absurd hzero hfound.2
  · have hfirst : ¬ ((c.config.forAlts (scanAlt comm data) dev).epIn = 0 ∨
        (c.config.forAlts (scanAlt comm data) dev).epOut = 0) := by
      rw [hinAddr, houtAddr, not_or]
      exact ⟨addr_ne_zero_of_epIn hrole, hzero⟩
    simp only [if_neg hfirst, Prod.mk.injEq] at hscan
    obtain ⟨rfl, rfl⟩ := hscan
    rw [if_pos hzero, ← hinAddr, ← houtAddr]
    rfl

end Scan

/-! ### The device that is returned -/

/-- Calls that select no setting. -/
theorem foldl_settingStep {i : Nat} {iface : UInt8} {calls : List UsbCall} {setting : Nat}
    (h : ∀ u ∈ calls, ∀ n, settingStep i iface n u = n) :
    calls.foldl (settingStep i iface) setting = setting := by
  induction calls with
  | nil => rfl
  | cons u calls ih =>
    rw [List.forall_mem_cons] at h
    rw [List.foldl_cons, h.1, ih h.2]

/-- A call on another device selects none of this one. -/
theorem settingStep_of_device {i : Nat} {iface : UInt8} {u : UsbCall} (h : u.device ≠ some i)
    (n : Nat) : settingStep i iface n u = n := by
  cases u with
  | setAlt j iface' alt ret =>
    have hne : ¬ (j = i ∧ iface' = iface ∧ ret = 0) := fun hj => h (congrArg some hj.1)
    exact if_neg hne
  | _ => rfl

/-- The calls before the endpoint passes select no setting of the device. -/
theorem activeSetting_scan {pre : List Candidate} {c : Candidate} {s : Search} {comm data : UInt8}
    {calls : List UsbCall} (h : Tried pre s) :
    activeSetting (s.log ++ [.openDev pre.length c.openRet] ++
        (c.detachCalls pre.length comm data ++
          [.claim pre.length comm c.claimComm, .claim pre.length data c.claimData] ++ calls))
      pre.length = activeSetting calls pre.length := by
  funext iface
  have hearlier : ∀ u ∈ s.log, ∀ n, settingStep pre.length iface n u = n := fun u hu =>
    settingStep_of_device fun hdev => absurd (h.earlier u hu _ hdev) (Nat.lt_irrefl _)
  have hdetach : ∀ u ∈ c.detachCalls pre.length comm data, ∀ n,
      settingStep pre.length iface n u = n := by
    intro u hu n
    obtain ⟨iface', ret, rfl⟩ := exists_detach hu
    rfl
  simp only [activeSetting, List.foldl_append, List.foldl_cons, List.foldl_nil,
    foldl_settingStep hearlier, foldl_settingStep hdetach]
  rfl

/-- **Active endpoints.**  When `usb_find_rndis_device` returns 0, the two bulk endpoints are in
    alternate settings that are active, exactly when the descriptors of the device that is
    returned have their last bulk endpoints in such settings. -/
theorem usbFindRndisDevice_active_iff (env : UsbEnv) (devices : List Candidate)
    (hdevices : env.devices = some devices) (h : (usbFindRndisDevice env).ret = 0) :
    ∃ pre c post, devices = pre ++ c :: post ∧
      (usbFindRndisDevice env).dev.handle = some pre.length ∧
      ((usbFindRndisDevice env).EndpointsActive devices ↔ c.ScansActive) := by
  obtain ⟨pre, c, post, u, rfl, htried, hvisit⟩ := usbFindRndisDevice_found hdevices h
  obtain ⟨comm, data, calls, htarget, -, hscan, hlog⟩ :=
    hvisit.exists_of_found htried.notFound rfl
  obtain ⟨hhandle, hcomm, hdata, -⟩ := Visit.scan_keeps hscan
  have hactive : activeSetting (usbFindRndisDevice env).log pre.length =
      activeSetting calls pre.length := by
    rw [show (usbFindRndisDevice env).log = _ from hlog, activeSetting_scan htried]
  have hiff := scanEndpoints_active_iff hscan (hvisit.bulk_of_found htried.notFound rfl)
  refine ⟨pre, c, post, rfl, hhandle, ?_⟩
  have hscans : c.ScansActive ↔ c.config.ScansActive comm data := by
    constructor
    · rintro ⟨comm', data', htarget', hscans⟩
      rw [htarget] at htarget'
      cases htarget'
      exact hscans
    · exact fun hscans => ⟨comm, data, htarget, hscans⟩
  rw [hscans, ← hiff]
  constructor
  · rintro ⟨i, c', hc', hi, hall⟩
    obtain rfl : i = pre.length := Option.some.inj (hi.symm.trans hhandle)
    obtain rfl : c = c' := Option.some.inj ((getElem?_split pre c post).symm.trans hc')
    rwa [hcomm, hdata, hactive] at hall
  · intro hall
    refine ⟨pre.length, c, getElem?_split pre c post, hhandle, ?_⟩
    rwa [hcomm, hdata, hactive]

/-- The second phone of the bus has its bulk endpoints in the settings that are active. -/
theorem usbFindRndisDevice_active_iff_bus :
    (usbFindRndisDevice ⟨0, some bus⟩).EndpointsActive bus := by
  obtain ⟨pre, c, post, hsplit, hhandle, hiff⟩ :=
    usbFindRndisDevice_active_iff ⟨0, some bus⟩ bus rfl (by decide)
  obtain rfl := eq_of_bus_split hsplit hhandle
  refine hiff.mpr ⟨0, 1, by decide, ⟨0x81, 2, 512⟩, ⟨0x02, 2, 512⟩, rfl, rfl, ?_⟩
  rw [if_pos (by decide)]
  decide

/-- A phone whose data interface has its endpoints in alternate setting 1 only. -/
def phoneSettingOne : Candidate :=
  { phone 0 0 with
    config := ⟨[⟨[⟨0, 0, usbClassWireless, usbSubclassRndis, usbProtocolRndis, [⟨0x83, 3, 8⟩]⟩]⟩,
      ⟨[⟨1, 0, usbClassCdcData, 0, 0, []⟩,
        ⟨1, 1, usbClassCdcData, 0, 0, [⟨0x81, 2, 512⟩, ⟨0x02, 2, 512⟩]⟩]⟩]⟩ }

/-- Its endpoints are found by the first pass, so setting 1 is not selected. -/
theorem not_usbFindRndisDevice_active :
    ¬ ∀ (env : UsbEnv) (devices : List Candidate), env.devices = some devices →
      (usbFindRndisDevice env).ret = 0 → (usbFindRndisDevice env).EndpointsActive devices := by
  intro h
  obtain ⟨i, c, hc, hi, hall⟩ := h ⟨0, some [phoneSettingOne]⟩ _ rfl (by decide)
  obtain rfl : i = 0 := Option.some.inj (hi.symm.trans (by decide))
  cases hc
  exact absurd (hall .epIn (by decide)) (by decide)

end AndroidTether
