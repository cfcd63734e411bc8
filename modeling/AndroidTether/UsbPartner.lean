import AndroidTether.UsbSearch
import Mathlib.Data.List.DropRight

namespace AndroidTether

/-!
# The partner of the comm interface

The loops of `usb_find_rndis_device` over a configuration overwrite both choices as they go.
The comm interface is the last one of the configuration; the data interface is the last one
behind the first comm interface, whichever function it belongs to.

* `foldl_selectIface` — what the two nested loops leave;
* `selectIfaces_partner_iff` — exactly when the data interface is the one that follows the comm
  interface.
-/

/-- The settings of an interface that make it an RNDIS comm interface. -/
def UsbInterface.isComm (iface : UsbInterface) : Bool := iface.altsetting.any isRndisInterface

namespace ConfigDesc

/-- The settings of the interfaces up to the last comm interface. -/
def upToComm (config : ConfigDesc) : List InterfaceDesc :=
  (config.interface.rdropWhile fun iface => !iface.isComm).flatMap UsbInterface.altsetting

/-- The settings of the interfaces behind it. -/
def afterComm (config : ConfigDesc) : List InterfaceDesc :=
  (config.interface.rtakeWhile fun iface => !iface.isComm).flatMap UsbInterface.altsetting

/-- The settings up to the comm interface, and those after it. -/
theorem alts_eq (config : ConfigDesc) : config.alts = config.upToComm ++ config.afterComm := by
  rw [alts, upToComm, afterComm, ← List.flatMap_append, List.rdropWhile_append_rtakeWhile]

/-- After the last RNDIS interface there is none. -/
theorem afterComm_not_rndis (config : ConfigDesc) :
    ∀ alt ∈ config.afterComm, isRndisInterface alt = false := by
  intro alt halt
  obtain ⟨iface, hiface, hmem⟩ := List.mem_flatMap.mp halt
  have hnot := List.mem_rtakeWhile_imp hiface
  simp only [UsbInterface.isComm, Bool.not_eq_true', List.any_eq_false] at hnot
  exact Bool.eq_false_iff.mpr (hnot alt hmem)

end ConfigDesc

/-- The settings from the first RNDIS setting on. -/
def fromComm (alts : List InterfaceDesc) : List InterfaceDesc :=
  alts.dropWhile fun alt => !isRndisInterface alt

/-- The data interface `data` is the first CDC-Data interface among the settings `after` the comm
    interface, or the next by number if there is none. -/
def IsPartner (comm : UInt8) (after : List InterfaceDesc) (data : UInt8) : Prop :=
  match after.find? isDataInterface with
  | some alt => data = alt.bInterfaceNumber
  | none => data.toNat = comm.toNat + 1

/-- No other data interface is in the way: of several behind the comm interface, the last has
    the number of the first; and if there is none behind it, the last one between the first
    comm interface and the last, if there is one, has the next number. -/
def OnlyPartner (comm : UInt8) (upTo after : List InterfaceDesc) : Prop :=
  match after.filter isDataInterface with
  | first :: others =>
    ∀ alt, others.getLast? = some alt → alt.bInterfaceNumber = first.bInterfaceNumber
  | [] => ∀ alt, ((fromComm upTo).filter isDataInterface).getLast? = some alt →
    alt.bInterfaceNumber.toNat = comm.toNat + 1

/-! ### What the loops leave -/

/-- The settings from the comm interface on, when it is in the first part. -/
theorem fromComm_append {alts after : List InterfaceDesc}
    (h : ∃ alt ∈ alts, isRndisInterface alt = true) :
    fromComm (alts ++ after) = fromComm alts ++ after := by
  induction alts with
  | nil => simp at h
  | cons alt alts ih =>
    cases halt : isRndisInterface alt with
    | true => simp [fromComm, halt]
    | false =>
      have hrest : ∃ a ∈ alts, isRndisInterface a = true := by
        obtain ⟨a, ha, hr⟩ := h
        rcases List.mem_cons.mp ha with rfl | ha
        · rw [halt] at hr
          cases hr
        · exact ⟨a, ha, hr⟩
      have ih := ih hrest
      simp only [fromComm] at ih ⊢
      simpa [halt] using ih

/-- Without an RNDIS interface there are none. -/
theorem fromComm_nil {alts : List InterfaceDesc} (h : ∀ alt ∈ alts, isRndisInterface alt = false) :
    fromComm alts = [] := by
  simpa [fromComm] using h

/-- The comm interface's setting is not a data setting. -/
theorem isData_of_isRndis {alt : InterfaceDesc} (h : isRndisInterface alt = true) :
    isDataInterface alt = false := by
  have hclass : alt.bInterfaceClass = usbClassWireless ∨ alt.bInterfaceClass = usbClassCdc ∨
      alt.bInterfaceClass = 0xFF := by
    simp only [isRndisInterface, Bool.or_eq_true, decide_eq_true_eq] at h
    tauto
  rw [isDataInterface, decide_eq_false_iff_not]
  intro hdata
  rw [hdata] at hclass
  revert hclass
  decide

/-- **What the loops leave**: the number of the last RNDIS setting, and of the last CDC-Data
    setting behind the first RNDIS setting. -/
theorem foldl_selectIface (alts : List InterfaceDesc) :
    alts.foldl selectIface (none, none) =
      ((alts.filter isRndisInterface).getLast?.map (·.bInterfaceNumber),
        ((fromComm alts).filter isDataInterface).getLast?.map (·.bInterfaceNumber)) := by
  induction alts using List.reverseRecOn with
  | nil => rfl
  | append_singleton alts alt ih =>
    rw [List.foldl_append, ih, List.foldl_cons, List.foldl_nil, selectIface]
    by_cases hcomm : ∃ a ∈ alts, isRndisInterface a = true
    · -- a comm interface has been seen before
      obtain ⟨last, hlast⟩ : ∃ last, (alts.filter isRndisInterface).getLast? = some last := by
        obtain ⟨a, ha, hr⟩ := hcomm
        have hne : alts.filter isRndisInterface ≠ [] :=
          List.ne_nil_of_mem (List.mem_filter.mpr ⟨ha, hr⟩)
        exact ⟨_, List.getLast?_eq_some_getLast hne⟩
      rw [fromComm_append hcomm, List.filter_append, List.filter_append]
      cases halt : isRndisInterface alt with
      | true => simp [halt, isData_of_isRndis halt]
      | false => cases hdata : isDataInterface alt <;> simp [halt, hdata, hlast]
    · have hnone : ∀ a ∈ alts, isRndisInterface a = false := fun a ha =>
        Bool.eq_false_iff.mpr fun hr => hcomm ⟨a, ha, hr⟩
      have hfilter : alts.filter isRndisInterface = [] := by simpa using hnone
      rw [fromComm_nil hnone, List.filter_append, hfilter]
      cases halt : isRndisInterface alt with
      | true =>
        -- the first one
        have hfirst : fromComm (alts ++ [alt]) = [alt] := by
          rw [fromComm, List.dropWhile_append_of_pos (by simpa using hnone)]
          simp [halt]
        simp [halt, hfirst, isData_of_isRndis halt]
      | false =>
        have hrest : fromComm (alts ++ [alt]) = [] := by
          apply fromComm_nil
          intro a ha
          rcases List.mem_append.mp ha with ha | ha
          · exact hnone a ha
          · rw [List.mem_singleton.mp ha, halt]
        simp [halt, hrest]

/-- The second pass selects the next number. -/
theorem foldl_selectNextIface {comm data : UInt8} {alts : List InterfaceDesc}
    (h : alts.foldl (selectNextIface comm) none = some data) : data.toNat = comm.toNat + 1 := by
  have hinv : ∀ (alts : List InterfaceDesc) (s : Option UInt8),
      (∀ d, s = some d → d.toNat = comm.toNat + 1) →
        ∀ d, alts.foldl (selectNextIface comm) s = some d → d.toNat = comm.toNat + 1 := by
    intro alts
    induction alts with
    | nil => exact fun s hs => hs
    | cons alt alts ih =>
      intro s hs
      refine ih _ fun d hd => ?_
      unfold selectNextIface at hd
      split at hd
      · next hnum => exact Option.some.inj hd ▸ hnum
      · exact hs d hd
  exact hinv alts none (fun d hd => by cases hd) data h

/-- The data interface of a pair that is selected, by all settings. -/
theorem selectIfaces_last {config : ConfigDesc} {comm data : UInt8}
    (h : selectIfaces config = some (comm, data)) :
    (∃ alt ∈ config.alts, isRndisInterface alt = true) ∧
      match ((fromComm config.alts).filter isDataInterface).getLast? with
      | some alt => data = alt.bInterfaceNumber
      | none => data.toNat = comm.toNat + 1 := by
  unfold selectIfaces at h
  rw [ConfigDesc.forAlts_eq, foldl_selectIface] at h
  cases hr : (config.alts.filter isRndisInterface).getLast? with
  | none =>
    rw [hr] at h
    cases h
  | some a =>
    rw [hr] at h
    obtain ⟨hmem, hrndis⟩ := List.mem_filter.mp (List.mem_of_getLast? hr)
    refine ⟨⟨a, hmem, hrndis⟩, ?_⟩
    cases hlast : ((fromComm config.alts).filter isDataInterface).getLast? with
    | some alt =>
      rw [hlast] at h
      cases h
      rfl
    | none =>
      -- the second pass
      rw [hlast] at h
      obtain ⟨d, hd, heq⟩ := Option.map_eq_some_iff.mp h
      cases heq
      rw [ConfigDesc.forAlts_eq] at hd
      exact foldl_selectNextIface hd

/-- A pair that is selected, by the settings before and behind the comm interface. -/
theorem selectIfaces_data {config : ConfigDesc} {comm data : UInt8}
    (h : selectIfaces config = some (comm, data)) :
    match ((fromComm config.upToComm ++ config.afterComm).filter isDataInterface).getLast? with
    | some alt => data = alt.bInterfaceNumber
    | none => data.toNat = comm.toNat + 1 := by
  obtain ⟨⟨alt, hmem, hrndis⟩, hdata⟩ := selectIfaces_last h
  have hcomm : ∃ alt ∈ config.upToComm, isRndisInterface alt = true := by
    rw [config.alts_eq, List.mem_append] at hmem
    rcases hmem with hmem | hmem
    · exact ⟨alt, hmem, hrndis⟩
    · rw [config.afterComm_not_rndis alt hmem] at hrndis
      cases hrndis
  rw [← fromComm_append hcomm, ← config.alts_eq]
  exact hdata

/-- **The partner of the comm interface.**  For every configuration of which a comm interface
    `comm` is selected, the data interface is its partner if and only if no other data interface
    is in the way. -/
theorem selectIfaces_partner_iff (config : ConfigDesc) (comm data : UInt8)
    (h : selectIfaces config = some (comm, data)) :
    IsPartner comm config.afterComm data ↔
      OnlyPartner comm config.upToComm config.afterComm := by
  have hdata := selectIfaces_data h
  rw [List.filter_append, List.getLast?_append] at hdata
  rw [IsPartner, OnlyPartner, ← List.head?_filter]
  cases hafter : config.afterComm.filter isDataInterface with
  | nil =>
    rw [hafter] at hdata
    simp only [List.getLast?_nil, Option.none_or, List.head?_nil] at hdata ⊢
    cases hlast : ((fromComm config.upToComm).filter isDataInterface).getLast? with
    | none =>
      rw [hlast] at hdata
      simpa using hdata
    | some alt =>
      rw [hlast] at hdata
      simp only [hdata, Option.some.injEq, forall_eq']
  | cons first others =>
    rw [hafter] at hdata
    simp only [List.head?_cons]
    cases hlast : others.getLast? with
    | none =>
      rw [List.getLast?_eq_none_iff.mp hlast] at hdata
      simpa using hdata
    | some alt =>
      rw [List.getLast?_cons, hlast] at hdata
      simp only [Option.getD_some, Option.some_or] at hdata
      rw [hdata]
      simp

/-- The interfaces a device is opened for are those that were selected. -/
theorem selectIfaces_of_target {c : Candidate} {p : UInt8 × UInt8} (h : c.target = some p) :
    selectIfaces c.config = some p := by
  unfold Candidate.target at h
  split at h
  · cases h
  split at h
  · cases h
  · exact h

/-- The interfaces in the struct that is returned are those selected of the configuration of
    its device. -/
theorem usbFindRndisDevice_selectIfaces {env : UsbEnv} {devices : List Candidate}
    (hdevices : env.devices = some devices) (h : (usbFindRndisDevice env).ret = 0) :
    ∃ i c, devices[i]? = some c ∧ (usbFindRndisDevice env).dev.handle = some i ∧
      selectIfaces c.config = some ((usbFindRndisDevice env).dev.ifaceComm,
        (usbFindRndisDevice env).dev.ifaceData) := by
  obtain ⟨pre, c, post, u, rfl, htried, hvisit⟩ := usbFindRndisDevice_found hdevices h
  obtain ⟨comm, data, calls, htarget, -, hscan, -⟩ := hvisit.exists_of_found htried.notFound rfl
  obtain ⟨hhandle, hcomm, hdata, -⟩ := Visit.scan_keeps hscan
  refine ⟨pre.length, c, getElem?_split pre c post, hhandle, ?_⟩
  rw [hcomm, hdata]
  exact selectIfaces_of_target htarget

/-- A configuration of interfaces with one setting each, of the given classes. -/
def plainConfig (ifaces : List (UInt8 × UInt8 × UInt8)) : ConfigDesc :=
  ⟨ifaces.mapIdx fun n cls => ⟨[⟨UInt8.ofNat n, 0, cls.1, cls.2.1, cls.2.2, []⟩]⟩⟩

/-- RNDIS, then a modem. -/
def withModem : ConfigDesc :=
  plainConfig [(usbClassWireless, usbSubclassRndis, usbProtocolRndis), (usbClassCdcData, 0, 0),
    (usbClassCdc, usbSubclassAcm, 1), (usbClassCdcData, 0, 0)]

/-- RNDIS behind a modem. -/
def behindModem : ConfigDesc :=
  plainConfig [(usbClassCdc, usbSubclassAcm, 1), (usbClassCdcData, 0, 0),
    (usbClassWireless, usbSubclassRndis, usbProtocolRndis), (usbClassCdcData, 0, 0)]

/-- A phone behind a modem interface is used with its own data interface. -/
theorem selectIfaces_partner_behindModem : IsPartner 2 behindModem.afterComm 3 :=
  (selectIfaces_partner_iff behindModem 2 3 (by decide)).mpr fun alt h => by cases h

/-- The data interface of the modem is taken. -/
theorem not_selectIfaces_partner :
    ¬ ∀ (config : ConfigDesc) (comm data : UInt8), selectIfaces config = some (comm, data) →
      IsPartner comm config.afterComm data := by
  intro h
  have hpartner : (3 : UInt8) = 1 := h withModem 0 3 (by decide)
  exact absurd hpartner (by decide)

end AndroidTether
