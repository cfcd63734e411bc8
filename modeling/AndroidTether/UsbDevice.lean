import AndroidTether.Lib.LastWrite
import Mathlib.Data.List.Flatten

namespace AndroidTether

open LastWrite

/-!
# The search for the device

`usb_find_rndis_device` of `usb_device.c`: for each device on the bus, the choice of the two
interfaces, `libusb_open`, the kernel drivers, the claims, and the endpoints.  One
`usb_device_t` is filled in by all devices that are tried.

* `usbFindRndisDevice` — the search, with the calls it makes;
* `scanEndpoints_endpoint` — what the endpoint passes leave in the endpoint fields.
-/

/-! ### Descriptors -/

/-- `struct libusb_endpoint_descriptor` -/
structure EndpointDesc where
  bEndpointAddress : UInt8
  bmAttributes : UInt8
  wMaxPacketSize : UInt16

/-- `struct libusb_interface_descriptor`; `bNumEndpoints` is the length of `endpoint`. -/
structure InterfaceDesc where
  bInterfaceNumber : UInt8
  bAlternateSetting : UInt8
  bInterfaceClass : UInt8
  bInterfaceSubClass : UInt8
  bInterfaceProtocol : UInt8
  endpoint : List EndpointDesc

/-- `struct libusb_interface` -/
structure UsbInterface where
  altsetting : List InterfaceDesc

/-- `struct libusb_config_descriptor` -/
structure ConfigDesc where
  interface : List UsbInterface

/-- `LIBUSB_TRANSFER_TYPE_MASK` -/
def transferTypeMask : UInt8 := 0x03
/-- `LIBUSB_TRANSFER_TYPE_BULK` -/
def transferTypeBulk : UInt8 := 2
/-- `LIBUSB_TRANSFER_TYPE_INTERRUPT` -/
def transferTypeInterrupt : UInt8 := 3
/-- `LIBUSB_ENDPOINT_DIR_MASK` -/
def endpointDirMask : UInt8 := 0x80
/-- `LIBUSB_ENDPOINT_IN` -/
def endpointIn : UInt8 := 0x80
/-- `USB_CLASS_WIRELESS` -/
def usbClassWireless : UInt8 := 0xE0
/-- `USB_SUBCLASS_RNDIS` -/
def usbSubclassRndis : UInt8 := 0x01
/-- `USB_PROTOCOL_RNDIS` -/
def usbProtocolRndis : UInt8 := 0x03
/-- `USB_CLASS_CDC` -/
def usbClassCdc : UInt8 := 0x02
/-- `USB_SUBCLASS_ACM` -/
def usbSubclassAcm : UInt8 := 0x02
/-- `USB_SUBCLASS_VENDOR` -/
def usbSubclassVendor : UInt8 := 0xFF
/-- `USB_CLASS_CDC_DATA` -/
def usbClassCdcData : UInt8 := 0x0A

/-- `is_rndis_interface` -/
def isRndisInterface (iface : InterfaceDesc) : Bool :=
  (iface.bInterfaceClass = usbClassWireless ∧ iface.bInterfaceSubClass = usbSubclassRndis ∧
      iface.bInterfaceProtocol = usbProtocolRndis) ||
    (iface.bInterfaceClass = usbClassCdc ∧ iface.bInterfaceSubClass = usbSubclassAcm ∧
      iface.bInterfaceProtocol = usbProtocolRndis) ||
    (iface.bInterfaceClass = usbClassCdc ∧ iface.bInterfaceSubClass = usbSubclassVendor ∧
      iface.bInterfaceProtocol = usbProtocolRndis) ||
    (iface.bInterfaceClass = 0xFF ∧ iface.bInterfaceSubClass = 0x01 ∧
      iface.bInterfaceProtocol = 0x03)

/-- `is_data_interface` -/
def isDataInterface (iface : InterfaceDesc) : Bool := iface.bInterfaceClass = usbClassCdcData

/-- The two nested loops over a configuration, with the body `f`. -/
def ConfigDesc.forAlts {σ : Type} (config : ConfigDesc) (f : σ → InterfaceDesc → σ) (s : σ) : σ :=
  config.interface.foldl (fun s iface => iface.altsetting.foldl f s) s

/-- The first pass over a configuration: `comm_iface` and `data_iface`, where `none` is -1. -/
def selectIface (s : Option UInt8 × Option UInt8) (alt : InterfaceDesc) :
    Option UInt8 × Option UInt8 :=
  let comm := if isRndisInterface alt then some alt.bInterfaceNumber else s.1
  (comm, if isDataInterface alt && comm.isSome then some alt.bInterfaceNumber else s.2)

/-- The second pass, which looks for the interface with the next number. -/
def selectNextIface (comm : UInt8) (data : Option UInt8) (alt : InterfaceDesc) : Option UInt8 :=
  if alt.bInterfaceNumber.toNat = comm.toNat + 1 then some alt.bInterfaceNumber else data

/-- The comm and the data interface, if both have been found. -/
def selectIfaces (config : ConfigDesc) : Option (UInt8 × UInt8) :=
  match config.forAlts selectIface (none, none) with
  | (some comm, some data) => some (comm, data)
  | (some comm, none) => (config.forAlts (selectNextIface comm) none).map (comm, ·)
  | (none, _) => none

/-! ### Devices -/

/-- `usb_device_t`.  A handle is the position of its device in the list; `none` is `NULL`. -/
structure UsbDevice where
  ctx : Bool
  handle : Option Nat
  ifaceComm : UInt8
  ifaceData : UInt8
  epIn : UInt8
  epOut : UInt8
  epInt : UInt8
  epInMax : UInt16
  epOutMax : UInt16
  vid : UInt16
  pid : UInt16
  kernelDetached : Bool

/-- After `memset` and `libusb_init`. -/
def UsbDevice.fresh : UsbDevice := ⟨true, none, 0, 0, 0, 0, 0, 0, 0, 0, 0, false⟩

/-- The loop body of `find_endpoints`. -/
def findEndpoint (isComm : Bool) (dev : UsbDevice) (ep : EndpointDesc) : UsbDevice :=
  let type := ep.bmAttributes &&& transferTypeMask
  let dir := ep.bEndpointAddress &&& endpointDirMask
  if type = transferTypeInterrupt ∧ isComm then { dev with epInt := ep.bEndpointAddress }
  else if type = transferTypeBulk then
    if dir = endpointIn then
      { dev with epIn := ep.bEndpointAddress, epInMax := ep.wMaxPacketSize }
    else { dev with epOut := ep.bEndpointAddress, epOutMax := ep.wMaxPacketSize }
  else dev

/-- `find_endpoints` -/
def findEndpoints (dev : UsbDevice) (iface : InterfaceDesc) (isComm : Bool) : UsbDevice :=
  iface.endpoint.foldl (findEndpoint isComm) dev

/-- The body of the first endpoint pass. -/
def scanAlt (comm data : UInt8) (dev : UsbDevice) (alt : InterfaceDesc) : UsbDevice :=
  let dev := if alt.bInterfaceNumber = comm then findEndpoints dev alt true else dev
  if alt.bInterfaceNumber = data then findEndpoints dev alt false else dev

/-- The body of the second endpoint pass. -/
def scanDataAlt (data : UInt8) (dev : UsbDevice) (alt : InterfaceDesc) : UsbDevice :=
  if alt.bInterfaceNumber = data ∧ alt.bAlternateSetting = 1 then findEndpoints dev alt false
  else dev

/-- A device of the list: its descriptors, and what the calls of `libusb` on it return. -/
structure Candidate where
  idVendor : UInt16
  idProduct : UInt16
  config : ConfigDesc
  /-- `libusb_get_device_descriptor`, `libusb_get_active_config_descriptor` -/
  descRet : Int
  configRet : Int
  openRet : Int
  /-- `libusb_kernel_driver_active`, `libusb_detach_kernel_driver` -/
  activeComm : Int
  detachComm : Int
  activeData : Int
  detachData : Int
  claimComm : Int
  claimData : Int
  /-- `libusb_set_interface_alt_setting` -/
  setAltRet : Int

/-- The interfaces to open the device for, if it has them. -/
def Candidate.target (c : Candidate) : Option (UInt8 × UInt8) :=
  if c.descRet < 0 then none
  else if c.configRet < 0 then none
  else selectIfaces c.config

/-- The calls of `libusb` that have an effect, on the device at a position of the list, with
    their results. -/
inductive UsbCall where
  | initCtx (ret : Int)
  | exitCtx
  | openDev (i : Nat) (ret : Int)
  | close (i : Nat)
  | detach (i : Nat) (iface : UInt8) (ret : Int)
  | claim (i : Nat) (iface : UInt8) (ret : Int)
  | release (i : Nat) (iface : UInt8)
  | setAlt (i : Nat) (iface : UInt8) (alt : Nat) (ret : Int)
  | attach (i : Nat) (iface : UInt8)
  deriving DecidableEq

/-- The variables of the search: `dev`, `found`, and the calls made. -/
structure Search where
  dev : UsbDevice
  found : Bool
  log : List UsbCall

/-- The struct after `libusb_open` and the detaching of kernel drivers. -/
def UsbDevice.fill (dev : UsbDevice) (i : Nat) (c : Candidate) (comm data : UInt8) : UsbDevice :=
  { dev with
    handle := some i
    vid := c.idVendor
    pid := c.idProduct
    ifaceComm := comm
    ifaceData := data
    -- whatever `libusb_detach_kernel_driver` returned
    kernelDetached := if c.activeComm = 1 then true else dev.kernelDetached }

/-- The calls that detach kernel drivers. -/
def Candidate.detachCalls (c : Candidate) (i : Nat) (comm data : UInt8) : List UsbCall :=
  (if c.activeComm = 1 then [.detach i comm c.detachComm] else []) ++
    if c.activeData = 1 then [.detach i data c.detachData] else []

/-- The two endpoint passes, with the call between them. -/
def scanEndpoints (i : Nat) (c : Candidate) (comm data : UInt8) (dev : UsbDevice) :
    UsbDevice × List UsbCall :=
  let dev := c.config.forAlts (scanAlt comm data) dev
  if dev.epIn = 0 ∨ dev.epOut = 0 then
    (if c.setAltRet = 0 then c.config.forAlts (scanDataAlt data) dev else dev,
      [.setAlt i data 1 c.setAltRet])
  else (dev, [])

/-- The loop body from `libusb_open` on. -/
def tryDevice (i : Nat) (c : Candidate) (comm data : UInt8) (s : Search) : Search :=
  let log := s.log ++ [.openDev i c.openRet]
  if c.openRet < 0 then { s with log := log }
  else
    let dev := s.dev.fill i c comm data
    let log := log ++ c.detachCalls i comm data ++ [.claim i comm c.claimComm]
    if c.claimComm < 0 then { s with dev := dev, log := log ++ [.close i] }
    else
      let log := log ++ [.claim i data c.claimData]
      if c.claimData < 0 then { s with dev := dev, log := log ++ [.release i comm, .close i] }
      else
        let (dev, calls) := scanEndpoints i c comm data dev
        if dev.epIn ≠ 0 ∧ dev.epOut ≠ 0 then ⟨dev, true, log ++ calls⟩
        else
          -- only the handle is cleared
          { s with
            dev := { dev with handle := none }
            log := log ++ calls ++ [.release i data, .release i comm, .close i] }

/-- The loop body. -/
def visit (i : Nat) (c : Candidate) (s : Search) : Search :=
  match c.target with
  | none => s
  | some (comm, data) => tryDevice i c comm data s

/-- The loop over the rest of the list, from position `i` on. -/
def searchFrom (i : Nat) : List Candidate → Search → Search
  | [], s => s
  | c :: cs, s => if s.found then s else searchFrom (i + 1) cs (visit i c s)

/-- What `libusb` returns: for the context, and the list of devices unless it fails. -/
structure UsbEnv where
  initRet : Int
  devices : Option (List Candidate)

/-- What `usb_find_rndis_device` returned, what it left in `*dev`, and its calls. -/
structure FindResult where
  ret : Int
  dev : UsbDevice
  log : List UsbCall

/-- `usb_find_rndis_device` -/
def usbFindRndisDevice (env : UsbEnv) : FindResult :=
  if env.initRet < 0 then ⟨-1, { UsbDevice.fresh with ctx := false }, [.initCtx env.initRet]⟩
  else
    match env.devices with
    | none => ⟨-1, .fresh, [.initCtx env.initRet, .exitCtx]⟩
    | some devices =>
      let s := searchFrom 0 devices ⟨.fresh, false, [.initCtx env.initRet]⟩
      if s.found then ⟨0, s.dev, s.log⟩ else ⟨-1, s.dev, s.log ++ [.exitCtx]⟩

/-! ### Endpoints -/

/-- The endpoint fields of `usb_device_t`. -/
inductive EpField where
  | epIn
  | epOut
  | epInt
  deriving DecidableEq

/-- The field an endpoint is for. -/
def EndpointDesc.role (ep : EndpointDesc) : Option EpField :=
  if ep.bmAttributes &&& transferTypeMask = transferTypeInterrupt then some .epInt
  else if ep.bmAttributes &&& transferTypeMask = transferTypeBulk then
    if ep.bEndpointAddress &&& endpointDirMask = endpointIn then some .epIn else some .epOut
  else none

/-- The address in a field, and the packet size beside it. -/
def UsbDevice.endpoint (dev : UsbDevice) : EpField → UInt8 × Option UInt16
  | .epIn => (dev.epIn, some dev.epInMax)
  | .epOut => (dev.epOut, some dev.epOutMax)
  | .epInt => (dev.epInt, none)

/-- An endpoint that is put into a field. -/
structure EpWrite where
  field : EpField
  ep : EndpointDesc

/-- What the field holds then. -/
def EpWrite.val (w : EpWrite) : UInt8 × Option UInt16 :=
  (w.ep.bEndpointAddress, if w.field = .epInt then none else some w.ep.wMaxPacketSize)

/-- The assignments of `find_endpoint`. -/
def UsbDevice.setEndpoint (dev : UsbDevice) (w : EpWrite) : UsbDevice :=
  match w.field with
  | .epIn => { dev with epIn := w.ep.bEndpointAddress, epInMax := w.ep.wMaxPacketSize }
  | .epOut => { dev with epOut := w.ep.bEndpointAddress, epOutMax := w.ep.wMaxPacketSize }
  | .epInt => { dev with epInt := w.ep.bEndpointAddress }

/-- The endpoint fields as a store. -/
def epStore : Store UsbDevice (UInt8 × Option UInt16) EpWrite.field where
  read := UsbDevice.endpoint
  write := UsbDevice.setEndpoint
  val := EpWrite.val
  read_write := by
    rintro dev ⟨field, ep⟩ k
    cases field <;> cases k <;> rfl

/-- The address in a field, after assignments. -/
theorem writeAll_addr (dev : UsbDevice) (ws : List EpWrite) (k : EpField) :
    ((epStore.writeAll dev ws).endpoint k).1 =
      ((last EpWrite.field ws k).map fun w => w.ep.bEndpointAddress).getD (dev.endpoint k).1 := by
  have hread := congrArg Prod.fst (epStore.read_writeAll dev ws k)
  cases hlast : last EpWrite.field ws k with
  | some w =>
    rw [hlast] at hread
    exact hread
  | none =>
    rw [hlast] at hread
    exact hread

/-- What `find_endpoint` assigns for an endpoint. -/
def epWrites (isComm : Bool) (ep : EndpointDesc) : List EpWrite :=
  match ep.role with
  | some k => if k = .epInt ∧ !isComm then [] else [⟨k, ep⟩]
  | none => []

/-- One endpoint is at most one write to the fields. -/
theorem findEndpoint_eq (isComm : Bool) (dev : UsbDevice) (ep : EndpointDesc) :
    findEndpoint isComm dev ep = epStore.writeAll dev (epWrites isComm ep) := by
  have hne : transferTypeBulk ≠ transferTypeInterrupt := by decide
  unfold findEndpoint epWrites EndpointDesc.role
  by_cases hint : ep.bmAttributes &&& transferTypeMask = transferTypeInterrupt
  · -- only kept on the comm interface
    cases isComm with
    | true => simp [hint, Store.writeAll, epStore, UsbDevice.setEndpoint]
    | false => simp [hint, hne.symm, Store.writeAll]
  · by_cases hbulk : ep.bmAttributes &&& transferTypeMask = transferTypeBulk
    · by_cases hin : ep.bEndpointAddress &&& endpointDirMask = endpointIn
      · simp [hbulk, hne, hin, Store.writeAll, epStore, UsbDevice.setEndpoint]
      · simp [hbulk, hne, hin, Store.writeAll, epStore, UsbDevice.setEndpoint]
    · simp [hint, hbulk, Store.writeAll]

/-- A fold whose body makes writes makes all of them. -/
theorem foldl_eq_writeAll {β : Type} {f : UsbDevice → β → UsbDevice} {ws : β → List EpWrite}
    (hf : ∀ dev b, f dev b = epStore.writeAll dev (ws b)) (bs : List β) (dev : UsbDevice) :
    bs.foldl f dev = epStore.writeAll dev (bs.flatMap ws) := by
  induction bs generalizing dev with
  | nil => rfl
  | cons b bs ih => rw [List.foldl_cons, ih, hf, List.flatMap_cons, epStore.writeAll_append]

/-- An interface makes the writes of its endpoints. -/
theorem findEndpoints_eq (dev : UsbDevice) (iface : InterfaceDesc) (isComm : Bool) :
    findEndpoints dev iface isComm =
      epStore.writeAll dev (iface.endpoint.flatMap (epWrites isComm)) :=
  foldl_eq_writeAll (findEndpoint_eq isComm) _ _

/-- All alternate settings of a configuration, in the order of the loops. -/
def ConfigDesc.alts (config : ConfigDesc) : List InterfaceDesc :=
  config.interface.flatMap UsbInterface.altsetting

/-- The nested loops run over all alternate settings. -/
theorem ConfigDesc.forAlts_eq {σ : Type} (config : ConfigDesc) (f : σ → InterfaceDesc → σ)
    (s : σ) : config.forAlts f s = config.alts.foldl f s := by
  rw [forAlts, alts, List.foldl_flatMap]

/-- What the first endpoint pass assigns for an alternate setting. -/
def altWrites (comm data : UInt8) (alt : InterfaceDesc) : List EpWrite :=
  (if alt.bInterfaceNumber = comm then alt.endpoint.flatMap (epWrites true) else []) ++
    if alt.bInterfaceNumber = data then alt.endpoint.flatMap (epWrites false) else []

/-- What the second endpoint pass assigns for an alternate setting. -/
def dataAltWrites (data : UInt8) (alt : InterfaceDesc) : List EpWrite :=
  if alt.bInterfaceNumber = data ∧ alt.bAlternateSetting = 1 then
    alt.endpoint.flatMap (epWrites false)
  else []

/-- One setting in the first pass. -/
theorem scanAlt_eq (comm data : UInt8) (dev : UsbDevice) (alt : InterfaceDesc) :
    scanAlt comm data dev alt = epStore.writeAll dev (altWrites comm data alt) := by
  have hnil : ∀ dev, epStore.writeAll dev [] = dev := fun _ => rfl
  unfold scanAlt altWrites
  simp only [findEndpoints_eq, epStore.writeAll_append]
  split_ifs <;> simp only [hnil]

/-- One setting in the second pass. -/
theorem scanDataAlt_eq (data : UInt8) (dev : UsbDevice) (alt : InterfaceDesc) :
    scanDataAlt data dev alt = epStore.writeAll dev (dataAltWrites data alt) := by
  unfold scanDataAlt dataAltWrites
  rw [findEndpoints_eq]
  split_ifs <;> rfl

/-- An endpoint in the descriptors of the comm interface or, unless it is an interrupt
    endpoint, of the data interface, that is for the field `k`. -/
def OwnEndpoint (config : ConfigDesc) (comm data : UInt8) (k : EpField) (ep : EndpointDesc) :
    Prop :=
  ∃ alt ∈ config.alts,
    (alt.bInterfaceNumber = comm ∨ k ≠ .epInt ∧ alt.bInterfaceNumber = data) ∧
      ep ∈ alt.endpoint ∧ ep.role = some k

/-- What an endpoint writes: its own field, the interrupt field only for the comm interface. -/
theorem mem_epWrites {isComm : Bool} {ep : EndpointDesc} {w : EpWrite} :
    w ∈ epWrites isComm ep ↔
      w.ep = ep ∧ ep.role = some w.field ∧ (w.field = .epInt → isComm = true) := by
  obtain ⟨k, ep'⟩ := w
  unfold epWrites
  cases hrole : ep.role with
  | none => simp
  | some k' =>
    by_cases hk : k' = .epInt ∧ !isComm
    · simp only [if_pos hk, List.not_mem_nil, false_iff, not_and, Option.some.injEq]
      rintro - rfl himp
      simp [himp hk.1] at hk
    · simp only [if_neg hk, List.mem_singleton, EpWrite.mk.injEq, Option.some.injEq]
      constructor
      · rintro ⟨rfl, rfl⟩
        exact ⟨rfl, rfl, fun hint => by simpa [hint] using hk⟩
      · rintro ⟨rfl, rfl, -⟩
        exact ⟨rfl, rfl⟩

/-- The same for the endpoints of an interface. -/
theorem mem_flatMap_epWrites {isComm : Bool} {eps : List EndpointDesc} {w : EpWrite} :
    w ∈ eps.flatMap (epWrites isComm) ↔
      w.ep ∈ eps ∧ w.ep.role = some w.field ∧ (w.field = .epInt → isComm = true) := by
  simp only [List.mem_flatMap, mem_epWrites]
  constructor
  · rintro ⟨ep, hep, rfl, hrole, hint⟩
    exact ⟨hep, hrole, hint⟩
  · rintro ⟨hep, hrole, hint⟩
    exact ⟨w.ep, hep, rfl, hrole, hint⟩

/-- The first pass assigns exactly the device's own endpoints. -/
theorem mem_flatMap_altWrites {config : ConfigDesc} {comm data : UInt8} {w : EpWrite} :
    w ∈ config.alts.flatMap (altWrites comm data) ↔ OwnEndpoint config comm data w.field w.ep := by
  simp only [List.mem_flatMap, OwnEndpoint]
  refine exists_congr fun alt => and_congr_right fun _ => ?_
  rw [altWrites, List.mem_append, List.mem_ite_nil_right, List.mem_ite_nil_right,
    mem_flatMap_epWrites, mem_flatMap_epWrites]
  simp only [implies_true, Bool.false_eq_true, imp_false]
  tauto

/-- The second pass writes endpoints of the data interface, to the bulk fields. -/
theorem own_of_mem_dataAltWrites {config : ConfigDesc} {comm data : UInt8} {w : EpWrite}
    (h : w ∈ config.alts.flatMap (dataAltWrites data)) :
    OwnEndpoint config comm data w.field w.ep ∧ w.field ≠ .epInt := by
  obtain ⟨alt, halt, hw⟩ := List.mem_flatMap.mp h
  unfold dataAltWrites at hw
  split at hw
  · rename_i hnum
    obtain ⟨hep, hrole, hint⟩ := mem_flatMap_epWrites.mp hw
    have hne : w.field ≠ .epInt := fun h => by cases hint h
    exact ⟨⟨alt, halt, .inr ⟨hne, hnum.1⟩, hep, hrole⟩, hne⟩
  · cases hw

/-- The fields that are not about endpoints. -/
def UsbDevice.identity (dev : UsbDevice) :
    Bool × Option Nat × UInt8 × UInt8 × UInt16 × UInt16 × Bool :=
  (dev.ctx, dev.handle, dev.ifaceComm, dev.ifaceData, dev.vid, dev.pid, dev.kernelDetached)

/-- Endpoint writes leave the other fields alone. -/
@[simp] theorem writeAll_identity (dev : UsbDevice) (ws : List EpWrite) :
    (epStore.writeAll dev ws).identity = dev.identity := by
  induction ws generalizing dev with
  | nil => rfl
  | cons w ws ih =>
    have hset : (dev.setEndpoint w).identity = dev.identity := by
      obtain ⟨k, ep⟩ := w
      cases k <;> rfl
    exact (ih _).trans hset

section Scan

variable (i : Nat) (c : Candidate) (comm data : UInt8) (dev : UsbDevice)

/-- The first pass as a list of writes. -/
theorem forAlts_scanAlt (config : ConfigDesc) :
    config.forAlts (scanAlt comm data) dev =
      epStore.writeAll dev (config.alts.flatMap (altWrites comm data)) := by
  rw [ConfigDesc.forAlts_eq, foldl_eq_writeAll (scanAlt_eq comm data)]

/-- The second pass as a list of writes. -/
theorem forAlts_scanDataAlt (config : ConfigDesc) :
    config.forAlts (scanDataAlt data) dev =
      epStore.writeAll dev (config.alts.flatMap (dataAltWrites data)) := by
  rw [ConfigDesc.forAlts_eq, foldl_eq_writeAll (scanDataAlt_eq data)]

/-- **Endpoints.**  The two passes assign all endpoints of the device itself, then perhaps
    some of them again. -/
theorem scanEndpoints_eq :
    ∃ ws, (scanEndpoints i c comm data dev).1 =
        epStore.writeAll dev (c.config.alts.flatMap (altWrites comm data) ++ ws) ∧
      ∀ w ∈ ws, OwnEndpoint c.config comm data w.field w.ep ∧ w.field ≠ .epInt := by
  simp only [scanEndpoints, forAlts_scanAlt, forAlts_scanDataAlt]
  split_ifs
  · -- alternate setting 1 has been scanned with all others before
    rw [← epStore.writeAll_append]
    exact ⟨_, rfl, fun w hw => own_of_mem_dataAltWrites hw⟩
  · exact ⟨[], by rw [List.append_nil], by simp⟩
  · exact ⟨[], by rw [List.append_nil], by simp⟩

/-- The endpoint passes leave the other fields alone. -/
theorem scanEndpoints_identity : (scanEndpoints i c comm data dev).1.identity = dev.identity := by
  obtain ⟨ws, heq, -⟩ := scanEndpoints_eq i c comm data dev
  rw [heq, writeAll_identity]

/-- A field holds an endpoint of the device itself if it has one for the field, and else what
    it held before. -/
theorem scanEndpoints_endpoint (k : EpField) :
    (∃ ep, OwnEndpoint c.config comm data k ep ∧
        (scanEndpoints i c comm data dev).1.endpoint k = EpWrite.val ⟨k, ep⟩) ∨
      (¬ ∃ ep, OwnEndpoint c.config comm data k ep) ∧
        (scanEndpoints i c comm data dev).1.endpoint k = dev.endpoint k := by
  obtain ⟨ws, heq, hws⟩ := scanEndpoints_eq i c comm data dev
  have hread := epStore.read_writeAll dev (c.config.alts.flatMap (altWrites comm data) ++ ws) k
  rw [← heq] at hread
  cases hlast : last EpWrite.field (c.config.alts.flatMap (altWrites comm data) ++ ws) k with
  | some w =>
    rw [hlast] at hread
    have hfield := key_of_last hlast
    have hown : OwnEndpoint c.config comm data w.field w.ep := by
      rcases List.mem_append.mp (mem_of_last hlast) with hw | hw
      · exact mem_flatMap_altWrites.mp hw
      · exact (hws w hw).1
    -- the last assignment is to this field, of an endpoint of the device
    obtain ⟨k', ep⟩ := w
    cases hfield
    exact .inl ⟨ep, hown, hread⟩
  | none =>
    rw [hlast] at hread
    refine .inr ⟨fun ⟨ep, hep⟩ => ?_, hread⟩
    have hmem : (⟨k, ep⟩ : EpWrite) ∈ c.config.alts.flatMap (altWrites comm data) ++ ws :=
      List.mem_append_left _ (mem_flatMap_altWrites.mpr hep)
    exact last_eq_none_iff.mp hlast _ hmem rfl

/-- The second pass does not touch the interrupt endpoint. -/
theorem scanEndpoints_epInt :
    (scanEndpoints i c comm data dev).1.epInt =
      ((last EpWrite.field (c.config.alts.flatMap (altWrites comm data)) .epInt).map
        (·.ep.bEndpointAddress)).getD dev.epInt := by
  obtain ⟨ws, heq, hws⟩ := scanEndpoints_eq i c comm data dev
  have haddr := writeAll_addr dev (c.config.alts.flatMap (altWrites comm data) ++ ws) .epInt
  have hnone : last EpWrite.field ws .epInt = none := last_eq_none_iff.mpr fun w hw => (hws w hw).2
  rw [← heq, last_append, hnone, Option.none_or] at haddr
  exact haddr

end Scan

end AndroidTether
