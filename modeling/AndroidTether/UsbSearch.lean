import AndroidTether.UsbDevice

namespace AndroidTether

open LastWrite

/-!
# The device that is found

What `usb_find_rndis_device` returns when it has tried any number of devices before: each of
them has written into the same struct.

* `visit_cases` — what the loop body does for a device, one case for each way out;
* `Tried` — the struct and the calls when some devices have been tried in vain;
* `usbFindRndisDevice_describes_iff` — the struct that is returned describes the device that
  is returned, exactly when nothing of an earlier device shows in it.
-/

/-! ### One device -/

/-- The device is opened, if its turn comes. -/
def Candidate.Opened (c : Candidate) : Prop := c.target.isSome ∧ 0 ≤ c.openRet

/-- The two claims succeed. -/
def Candidate.Claimed (c : Candidate) : Prop := 0 ≤ c.claimComm ∧ 0 ≤ c.claimData

/-- What the loop body does for the device `c` at position `i`: nothing, or it gives the
    device up after `libusb_open`, a claim or the endpoint passes, or it keeps it. -/
inductive Visit (i : Nat) (c : Candidate) (s : Search) : Search → Prop where
  | noTarget : c.target = none → Visit i c s s
  | openFailed {comm data : UInt8} : c.target = some (comm, data) → c.openRet < 0 →
      Visit i c s { s with log := s.log ++ [.openDev i c.openRet] }
  | claimCommFailed {comm data : UInt8} : c.target = some (comm, data) → 0 ≤ c.openRet →
      c.claimComm < 0 →
      Visit i c s
        { s with
          dev := s.dev.fill i c comm data
          log := s.log ++ [.openDev i c.openRet] ++
            (c.detachCalls i comm data ++ [.claim i comm c.claimComm]) ++ [.close i] }
  | claimDataFailed {comm data : UInt8} : c.target = some (comm, data) → 0 ≤ c.openRet →
      c.claimData < 0 →
      Visit i c s
        { s with
          dev := s.dev.fill i c comm data
          log := s.log ++ [.openDev i c.openRet] ++
            (c.detachCalls i comm data ++ [.claim i comm c.claimComm, .claim i data c.claimData,
              .release i comm]) ++ [.close i] }
  | noEndpoints {comm data : UInt8} {dev : UsbDevice} {calls : List UsbCall} :
      c.target = some (comm, data) → 0 ≤ c.openRet → c.Claimed →
      scanEndpoints i c comm data (s.dev.fill i c comm data) = (dev, calls) →
      ¬ (dev.epIn ≠ 0 ∧ dev.epOut ≠ 0) →
      Visit i c s
        { s with
          dev := { dev with handle := none }
          log := s.log ++ [.openDev i c.openRet] ++
            (c.detachCalls i comm data ++ [.claim i comm c.claimComm, .claim i data c.claimData] ++
              calls ++ [.release i data, .release i comm]) ++ [.close i] }
  | found {comm data : UInt8} {dev : UsbDevice} {calls : List UsbCall} :
      c.target = some (comm, data) → 0 ≤ c.openRet → c.Claimed →
      scanEndpoints i c comm data (s.dev.fill i c comm data) = (dev, calls) →
      dev.epIn ≠ 0 ∧ dev.epOut ≠ 0 →
      Visit i c s ⟨dev, true, s.log ++ [.openDev i c.openRet] ++
        (c.detachCalls i comm data ++ [.claim i comm c.claimComm, .claim i data c.claimData] ++
          calls)⟩

/-- **The loop body**, by its ways out. -/
theorem visit_cases (i : Nat) (c : Candidate) (s : Search) : Visit i c s (visit i c s) := by
  unfold visit
  cases htarget : c.target with
  | none => exact .noTarget htarget
  | some target =>
    obtain ⟨comm, data⟩ := target
    unfold tryDevice
    -- one case for each `continue`, in the order of the code
    by_cases hopen : c.openRet < 0
    · simp only [if_pos hopen]
      exact .openFailed htarget hopen
    simp only [if_neg hopen, List.append_assoc, List.cons_append, List.nil_append]
    have hopened : 0 ≤ c.openRet := Int.not_lt.mp hopen
    by_cases hcomm : c.claimComm < 0
    · simp only [if_pos hcomm]
      have hvisit := Visit.claimCommFailed (i := i) (s := s) htarget hopened hcomm
      simpa using hvisit
    simp only [if_neg hcomm]
    by_cases hdata : c.claimData < 0
    · simp only [if_pos hdata]
      have hvisit := Visit.claimDataFailed (i := i) (s := s) htarget hopened hdata
      simpa using hvisit
    simp only [if_neg hdata]
    have hclaimed : c.Claimed := ⟨Int.not_lt.mp hcomm, Int.not_lt.mp hdata⟩
    cases hscan : scanEndpoints i c comm data (s.dev.fill i c comm data) with
    | mk dev calls =>
      by_cases hep : dev.epIn ≠ 0 ∧ dev.epOut ≠ 0
      · simp only [if_pos hep]
        have hvisit := Visit.found htarget hopened hclaimed hscan hep
        simpa using hvisit
      · simp only [if_neg hep]
        have hvisit := Visit.noEndpoints htarget hopened hclaimed hscan hep
        simpa using hvisit

instance (c : Candidate) : Decidable c.Claimed := inferInstanceAs (Decidable (_ ∧ _))

/-- What the first endpoint pass assigns for the device, if it gets that far. -/
def Candidate.writes (c : Candidate) : List EpWrite :=
  match c.target with
  | none => []
  | some (comm, data) =>
    if 0 ≤ c.openRet ∧ c.Claimed then c.config.alts.flatMap (altWrites comm data) else []

/-- The last interrupt endpoint that was assigned for one of the devices, or else 0. -/
def lastInterrupt (cs : List Candidate) : UInt8 :=
  ((last EpWrite.field (cs.flatMap Candidate.writes) .epInt).map (·.ep.bEndpointAddress)).getD 0

/-- The handles that are open: the function says which. -/
def openStep (isOpen : Nat → Bool) : UsbCall → Nat → Bool
  | .openDev i ret => if 0 ≤ ret then Function.update isOpen i true else isOpen
  | .close i => Function.update isOpen i false
  | _ => isOpen

/-- The handles that are open after the calls. -/
def stillOpen (log : List UsbCall) : Nat → Bool := log.foldl openStep fun _ => false

/-- The position of the device that the call is about. -/
def UsbCall.device : UsbCall → Option Nat
  | .initCtx _ => none
  | .exitCtx => none
  | .openDev i _ => some i
  | .close i => some i
  | .detach i _ _ => some i
  | .claim i _ _ => some i
  | .release i _ => some i
  | .setAlt i _ _ _ => some i
  | .attach i _ => some i

/-- A call that neither opens nor closes a handle. -/
def UsbCall.keepsHandles : UsbCall → Bool
  | .openDev _ _ => false
  | .close _ => false
  | _ => true

/-- Calls that neither open nor close. -/
theorem foldl_openStep_of_keepsHandles {isOpen : Nat → Bool} {calls : List UsbCall}
    (h : ∀ u ∈ calls, u.keepsHandles = true) : calls.foldl openStep isOpen = isOpen := by
  induction calls with
  | nil => rfl
  | cons u calls ih =>
    rw [List.forall_mem_cons] at h
    have hu : openStep isOpen u = isOpen := by
      cases u with
      | openDev => cases h.1
      | close => cases h.1
      | _ => rfl
    rw [List.foldl_cons, hu, ih h.2]

/-- A driver is detached where one is active, and only there. -/
theorem mem_detachCalls {c : Candidate} {i : Nat} {comm data : UInt8} {u : UsbCall} :
    u ∈ c.detachCalls i comm data ↔
      c.activeComm = 1 ∧ u = .detach i comm c.detachComm ∨
        c.activeData = 1 ∧ u = .detach i data c.detachData := by
  rw [Candidate.detachCalls, List.mem_append, List.mem_ite_nil_right, List.mem_ite_nil_right,
    List.mem_singleton, List.mem_singleton]

/-- These calls are detaches. -/
theorem exists_detach {c : Candidate} {i : Nat} {comm data : UInt8} {u : UsbCall}
    (hu : u ∈ c.detachCalls i comm data) : ∃ iface ret, u = .detach i iface ret := by
  rcases mem_detachCalls.mp hu with ⟨-, rfl⟩ | ⟨-, rfl⟩
  · exact ⟨_, _, rfl⟩
  · exact ⟨_, _, rfl⟩

/-- Detaching drivers keeps the handles. -/
theorem detachCalls_keepsHandles (c : Candidate) (i : Nat) (comm data : UInt8) :
    ∀ u ∈ c.detachCalls i comm data, u.keepsHandles = true := by
  intro u hu
  obtain ⟨iface, ret, rfl⟩ := exists_detach hu
  rfl

/-- The interface and the result of a detach. -/
theorem detach_mem_detachCalls {c : Candidate} {i j : Nat} {comm data iface : UInt8} {ret : Int} :
    .detach j iface ret ∈ c.detachCalls i comm data ↔
      j = i ∧ (c.activeComm = 1 ∧ iface = comm ∧ ret = c.detachComm ∨
        c.activeData = 1 ∧ iface = data ∧ ret = c.detachData) := by
  simp only [mem_detachCalls, UsbCall.detach.injEq]
  tauto

/-- The only call of the endpoint passes. -/
theorem mem_scanEndpoints_calls {i : Nat} {c : Candidate} {comm data : UInt8}
    {dev dev' : UsbDevice} {calls : List UsbCall}
    (h : scanEndpoints i c comm data dev = (dev', calls)) {u : UsbCall} (hu : u ∈ calls) :
    u = .setAlt i data 1 c.setAltRet := by
  unfold scanEndpoints at h
  dsimp only at h
  split at h
  · cases h
    exact List.mem_singleton.mp hu
  · cases h
    cases hu

/-- The endpoint passes detach nothing. -/
theorem detach_not_mem_scan {i j : Nat} {c : Candidate} {comm data iface : UInt8} {ret : Int}
    {dev dev' : UsbDevice} {calls : List UsbCall}
    (h : scanEndpoints i c comm data dev = (dev', calls)) : .detach j iface ret ∉ calls := by
  intro hu
  cases mem_scanEndpoints_calls h hu

/-- The calls for a device that is opened, none of which closes it. -/
theorem stillOpen_append {i : Nat} {ret : Int} {log calls : List UsbCall}
    (hlog : stillOpen log = fun _ => false) (hret : 0 ≤ ret)
    (hcalls : ∀ u ∈ calls, u.keepsHandles = true) :
    stillOpen (log ++ [.openDev i ret] ++ calls) = Function.update (fun _ => false) i true := by
  rw [stillOpen] at hlog ⊢
  rw [List.foldl_append, List.foldl_append, hlog, foldl_openStep_of_keepsHandles hcalls]
  simp [openStep, hret]

/-- The calls for a device that is opened and closed. -/
theorem stillOpen_append_close {i : Nat} {ret : Int} {log calls : List UsbCall}
    (hlog : stillOpen log = fun _ => false) (hret : 0 ≤ ret)
    (hcalls : ∀ u ∈ calls, u.keepsHandles = true) :
    stillOpen (log ++ [.openDev i ret] ++ calls ++ [.close i]) = fun _ => false := by
  have hopen := stillOpen_append (i := i) hlog hret hcalls
  rw [stillOpen] at hopen ⊢
  rw [List.foldl_append, hopen]
  simp [openStep]

namespace Visit

variable {i : Nat} {c : Candidate} {s t : Search}

section Scan

variable {comm data : UInt8} {dev : UsbDevice} {calls : List UsbCall}

/-- The fields that the endpoint passes leave as the device's opening left them. -/
theorem scan_keeps (h : scanEndpoints i c comm data (s.dev.fill i c comm data) = (dev, calls)) :
    dev.handle = some i ∧ dev.ifaceComm = comm ∧ dev.ifaceData = data ∧
      dev.vid = c.idVendor ∧ dev.pid = c.idProduct ∧
      dev.kernelDetached = (s.dev.fill i c comm data).kernelDetached := by
  have hkeep := scanEndpoints_identity i c comm data (s.dev.fill i c comm data)
  rw [h] at hkeep
  simp only [UsbDevice.identity, Prod.mk.injEq] at hkeep
  obtain ⟨-, hhandle, hcomm, hdata, hvid, hpid, hkernel⟩ := hkeep
  exact ⟨hhandle, hcomm, hdata, hvid, hpid, hkernel⟩

/-- `ep_int` after the endpoint passes: the last interrupt endpoint of the device, or what was
    there before. -/
theorem scan_epInt (htarget : c.target = some (comm, data)) (hopen : 0 ≤ c.openRet)
    (hclaim : c.Claimed)
    (h : scanEndpoints i c comm data (s.dev.fill i c comm data) = (dev, calls)) :
    dev.epInt =
      ((last EpWrite.field c.writes .epInt).map (·.ep.bEndpointAddress)).getD s.dev.epInt := by
  have hint := scanEndpoints_epInt i c comm data (s.dev.fill i c comm data)
  rw [h] at hint
  simp only [Candidate.writes, htarget, if_pos (And.intro hopen hclaim)]
  exact hint

end Scan

/-- A device that is not claimed leaves the interrupt endpoint as it was. -/
theorem epInt (h : Visit i c s t) :
    t.dev.epInt =
      ((last EpWrite.field c.writes .epInt).map (·.ep.bEndpointAddress)).getD s.dev.epInt := by
  cases h with
  | noTarget htarget => simp [Candidate.writes, htarget]
  | openFailed htarget hopen => simp [Candidate.writes, htarget, Int.not_le.mpr hopen]
  | claimCommFailed htarget _ hcomm =>
    simp [Candidate.writes, htarget, Candidate.Claimed, Int.not_le.mpr hcomm, UsbDevice.fill]
  | claimDataFailed htarget _ hdata =>
    simp [Candidate.writes, htarget, Candidate.Claimed, Int.not_le.mpr hdata, UsbDevice.fill]
  | @noEndpoints comm data dev _ htarget hopen hclaim hscan _ =>
    show dev.epInt = _
    exact scan_epInt htarget hopen hclaim hscan
  | found htarget hopen hclaim hscan _ => exact scan_epInt htarget hopen hclaim hscan

/-- `kernel_detached` is set as soon as a driver is active, and never cleared. -/
theorem kernelDetached (h : Visit i c s t) :
    t.dev.kernelDetached = true ↔
      s.dev.kernelDetached = true ∨ c.Opened ∧ c.activeComm = 1 := by
  have hfill : ∀ {comm data}, c.target = some (comm, data) → 0 ≤ c.openRet →
      ((s.dev.fill i c comm data).kernelDetached = true ↔
        s.dev.kernelDetached = true ∨ c.Opened ∧ c.activeComm = 1) := by
    intro comm data htarget hopen
    have hopened : c.Opened := ⟨by rw [htarget]; rfl, hopen⟩
    by_cases hactive : c.activeComm = 1 <;> simp [UsbDevice.fill, hactive, hopened]
  cases h with
  | noTarget htarget => simp [Candidate.Opened, htarget]
  | openFailed htarget hopen => simp [Candidate.Opened, Int.not_le.mpr hopen]
  | claimCommFailed htarget hopen _ => exact hfill htarget hopen
  | claimDataFailed htarget hopen _ => exact hfill htarget hopen
  | @noEndpoints comm data dev _ htarget hopen _ hscan _ =>
    -- what clears the handle leaves the flag
    show dev.kernelDetached = true ↔ _
    rw [(scan_keeps hscan).2.2.2.2.2]
    exact hfill htarget hopen
  | found htarget hopen _ hscan _ =>
    rw [(scan_keeps hscan).2.2.2.2.2]
    exact hfill htarget hopen

/-- Between `libusb_open` and `libusb_close` no other handle is touched. -/
theorem keepsHandles_scan {comm data : UInt8} {dev dev' : UsbDevice} {calls : List UsbCall}
    (h : scanEndpoints i c comm data dev = (dev', calls)) :
    ∀ u ∈ c.detachCalls i comm data ++ [.claim i comm c.claimComm, .claim i data c.claimData] ++
      calls, u.keepsHandles = true := by
  have hclaims : ∀ u ∈ [UsbCall.claim i comm c.claimComm, .claim i data c.claimData],
      u.keepsHandles = true := by simp [UsbCall.keepsHandles]
  simp only [List.forall_mem_append]
  refine ⟨⟨detachCalls_keepsHandles c i comm data, hclaims⟩, fun u hu => ?_⟩
  rw [mem_scanEndpoints_calls h hu]
  rfl

/-- A device that is given up has been closed, if it was open. -/
theorem stillOpen_of_not_found (h : Visit i c s t) (hs : stillOpen s.log = fun _ => false)
    (ht : t.found = false) : stillOpen t.log = fun _ => false := by
  have hdetach := fun comm data => detachCalls_keepsHandles c i comm data
  cases h with
  | noTarget _ => exact hs
  | openFailed _ hopen =>
    rw [stillOpen] at hs ⊢
    rw [List.foldl_append, hs]
    simp [openStep, Int.not_le.mpr hopen]
  | claimCommFailed _ hopen _ =>
    apply stillOpen_append_close hs hopen
    simp only [List.forall_mem_append]
    exact ⟨hdetach _ _, by simp [UsbCall.keepsHandles]⟩
  | claimDataFailed _ hopen _ =>
    apply stillOpen_append_close hs hopen
    simp only [List.forall_mem_append]
    exact ⟨hdetach _ _, by simp [UsbCall.keepsHandles]⟩
  | noEndpoints _ hopen _ hscan _ =>
    apply stillOpen_append_close hs hopen
    rw [List.forall_mem_append]
    exact ⟨keepsHandles_scan hscan, by simp [UsbCall.keepsHandles]⟩
  | found => cases ht

/-- All calls are about the device itself. -/
theorem exists_calls (h : Visit i c s t) :
    ∃ calls, t.log = s.log ++ calls ∧ ∀ u ∈ calls, u.device = some i := by
  have hdetach : ∀ comm data, ∀ u ∈ c.detachCalls i comm data, u.device = some i := by
    intro comm data u hu
    obtain ⟨iface, ret, rfl⟩ := exists_detach hu
    rfl
  cases h with
  | noTarget => exact ⟨[], (List.append_nil _).symm, by simp⟩
  | openFailed => exact ⟨_, rfl, by simp [UsbCall.device]⟩
  | @claimCommFailed comm data =>
    refine ⟨_, by simp only [List.append_assoc]; rfl, ?_⟩
    simp only [List.forall_mem_append]
    exact ⟨by simp [UsbCall.device], hdetach comm data, by simp [UsbCall.device],
      by simp [UsbCall.device]⟩
  | @claimDataFailed comm data =>
    refine ⟨_, by simp only [List.append_assoc]; rfl, ?_⟩
    simp only [List.forall_mem_append]
    exact ⟨by simp [UsbCall.device], hdetach comm data, by simp [UsbCall.device],
      by simp [UsbCall.device]⟩
  | @noEndpoints comm data _ _ _ _ _ hscan =>
    refine ⟨_, by simp only [List.append_assoc]; rfl, ?_⟩
    simp only [List.forall_mem_append]
    refine ⟨by simp [UsbCall.device], hdetach comm data, by simp [UsbCall.device], fun u hu => ?_,
      by simp [UsbCall.device]⟩
    rw [mem_scanEndpoints_calls hscan hu]
    rfl
  | @found comm data _ _ _ _ _ hscan =>
    refine ⟨_, by simp only [List.append_assoc]; rfl, ?_⟩
    simp only [List.forall_mem_append]
    refine ⟨by simp [UsbCall.device], hdetach comm data, by simp [UsbCall.device], fun u hu => ?_⟩
    rw [mem_scanEndpoints_calls hscan hu]
    rfl

end Visit

/-! ### The devices tried before -/

/-- The search when the devices `pre` have been tried without success. -/
structure Tried (pre : List Candidate) (s : Search) : Prop where
  notFound : s.found = false
  epInt : s.dev.epInt = lastInterrupt pre
  kernelDetached : s.dev.kernelDetached = true ↔ ∃ p ∈ pre, p.Opened ∧ p.activeComm = 1
  closed : stillOpen s.log = fun _ => false
  earlier : ∀ u ∈ s.log, ∀ j, u.device = some j → j < pre.length

variable {pre : List Candidate} {c : Candidate} {s t : Search}

/-- Before the first device. -/
theorem tried_start (ret : Int) : Tried [] ⟨.fresh, false, [.initCtx ret]⟩ where
  notFound := rfl
  epInt := rfl
  kernelDetached := by simp [UsbDevice.fresh]
  closed := rfl
  earlier := by simp [UsbCall.device]

/-- One more device that was tried. -/
theorem lastInterrupt_append (pre : List Candidate) (c : Candidate) :
    lastInterrupt (pre ++ [c]) =
      ((last EpWrite.field c.writes .epInt).map (·.ep.bEndpointAddress)).getD
        (lastInterrupt pre) := by
  rw [lastInterrupt, List.flatMap_append, List.flatMap_singleton, last_append]
  cases last EpWrite.field c.writes .epInt <;> rfl

/-- After one more visit, too, `kernel_detached` is set if some driver was active. -/
theorem Tried.kernelDetached_visit (h : Tried pre s) (hvisit : Visit pre.length c s t) :
    t.dev.kernelDetached = true ↔ ∃ p ∈ pre ++ [c], p.Opened ∧ p.activeComm = 1 := by
  rw [hvisit.kernelDetached, h.kernelDetached]
  simp [or_and_right, exists_or]

/-- One more device. -/
theorem Tried.visit (h : Tried pre s) (hvisit : Visit pre.length c s t) (ht : t.found = false) :
    Tried (pre ++ [c]) t where
  notFound := ht
  epInt := by rw [hvisit.epInt, h.epInt, lastInterrupt_append]
  kernelDetached := h.kernelDetached_visit hvisit
  closed := hvisit.stillOpen_of_not_found h.closed ht
  earlier := by
    intro u hu j hj
    rw [List.length_append, List.length_singleton]
    obtain ⟨calls, hlog, hcalls⟩ := hvisit.exists_calls
    rw [hlog, List.mem_append] at hu
    rcases hu with hu | hu
    · exact Nat.lt_succ_of_lt (h.earlier u hu j hj)
    · rw [hcalls u hu] at hj
      cases hj
      exact Nat.lt_succ_self _

section Invariant

variable {I : List Candidate → Search → Prop}
  (hstep : ∀ pre c s t, Tried pre s → I pre s → Visit pre.length c s t → t.found = false →
    I (pre ++ [c]) t)

include hstep

/-- The search ends without a device or with the one that is kept; an invariant `I` of the
    devices tried in vain holds until then. -/
theorem searchFrom_cases (cs : List Candidate) (h : Tried pre s) (hI : I pre s) :
    Tried (pre ++ cs) (searchFrom pre.length cs s) ∧ I (pre ++ cs) (searchFrom pre.length cs s) ∨
      ∃ mid c post u, cs = mid ++ c :: post ∧ Tried (pre ++ mid) u ∧ I (pre ++ mid) u ∧
        Visit (pre ++ mid).length c u (searchFrom pre.length cs s) ∧
          (searchFrom pre.length cs s).found = true := by
  induction cs generalizing pre s with
  | nil =>
    rw [List.append_nil]
    exact .inl ⟨h, hI⟩
  | cons c cs ih =>
    have hvisit := visit_cases pre.length c s
    rw [searchFrom, h.notFound, if_neg (by decide)]
    cases ht : (visit pre.length c s).found with
    | true =>
      -- the loop stops here
      have hstop : searchFrom (pre.length + 1) cs (AndroidTether.visit pre.length c s) =
          AndroidTether.visit pre.length c s := by
        cases cs with
        | nil => rfl
        | cons c' cs => rw [searchFrom, if_pos ht]
      rw [hstop]
      refine .inr ⟨[], c, cs, s, rfl, ?_⟩
      rw [List.append_nil]
      exact ⟨h, hI, hvisit, ht⟩
    | false =>
      have hnext := ih (h.visit hvisit ht) (hstep pre c s _ h hI hvisit ht)
      rw [List.length_append, List.length_singleton, List.append_assoc] at hnext
      apply hnext.imp_right
      rintro ⟨mid, c', post, u, rfl, htried, hIu, hlast, hfound⟩
      rw [List.append_assoc] at htried hIu hlast
      exact ⟨c :: mid, c', post, u, rfl, htried, hIu, hlast, hfound⟩

/-- The device that is returned, behind those that were tried before. -/
theorem usbFindRndisDevice_found_inv {env : UsbEnv} {devices : List Candidate}
    (hstart : I [] ⟨.fresh, false, [.initCtx env.initRet]⟩)
    (hdevices : env.devices = some devices) (h : (usbFindRndisDevice env).ret = 0) :
    ∃ pre c post u, devices = pre ++ c :: post ∧ Tried pre u ∧ I pre u ∧
      Visit pre.length c u ⟨(usbFindRndisDevice env).dev, true, (usbFindRndisDevice env).log⟩ := by
  unfold usbFindRndisDevice at h ⊢
  split at h
  · cases h
  rename_i hinit
  simp only [if_neg hinit, hdevices] at h ⊢
  split at h
  · rename_i hfound
    simp only [if_pos hfound]
    have hcases := searchFrom_cases hstep devices (tried_start env.initRet) hstart
    rw [List.length_nil] at hcases
    rcases hcases with ⟨hnone, -⟩ | hlast
    · rw [hnone.notFound] at hfound
      cases hfound
    · obtain ⟨pre, c, post, u, rfl, htried, hIu, hvisit, -⟩ := hlast
      refine ⟨pre, c, post, u, rfl, htried, hIu, ?_⟩
      rw [← hfound]
      exact hvisit
  · cases h

/-- All devices have been tried when none is returned. -/
theorem usbFindRndisDevice_notFound_inv {env : UsbEnv} {devices : List Candidate}
    (hstart : I [] ⟨.fresh, false, [.initCtx env.initRet]⟩) (hinit : ¬ env.initRet < 0)
    (hdevices : env.devices = some devices) (h : (usbFindRndisDevice env).ret = -1) :
    ∃ u, Tried devices u ∧ I devices u ∧ (usbFindRndisDevice env).log = u.log ++ [.exitCtx] := by
  unfold usbFindRndisDevice at h ⊢
  simp only [if_neg hinit, hdevices] at h ⊢
  split at h
  · cases h
  · rename_i hfound
    simp only [if_neg hfound]
    have hcases := searchFrom_cases hstep devices (tried_start env.initRet) hstart
    rw [List.length_nil] at hcases
    rcases hcases with ⟨htried, hIu⟩ | hlast
    · exact ⟨_, htried, hIu, rfl⟩
    · obtain ⟨-, -, -, -, -, -, -, -, hlast⟩ := hlast
      exact absurd hlast hfound

end Invariant

/-- A search that returns 0 ends at the visit that found the device. -/
theorem usbFindRndisDevice_found {env : UsbEnv} {devices : List Candidate}
    (hdevices : env.devices = some devices) (h : (usbFindRndisDevice env).ret = 0) :
    ∃ pre c post u, devices = pre ++ c :: post ∧ Tried pre u ∧
      Visit pre.length c u ⟨(usbFindRndisDevice env).dev, true, (usbFindRndisDevice env).log⟩ := by
  obtain ⟨pre, c, post, u, hsplit, htried, -, hvisit⟩ :=
    usbFindRndisDevice_found_inv (I := fun _ _ => True) (fun _ _ _ _ _ _ _ _ => trivial) trivial
      hdevices h
  exact ⟨pre, c, post, u, hsplit, htried, hvisit⟩

/-! ### The device that is returned -/

/-- The field `k` is about an endpoint of the two interfaces the struct names. -/
def UsbDevice.HoldsOwn (dev : UsbDevice) (config : ConfigDesc) (k : EpField) : Prop :=
  ∃ ep, OwnEndpoint config dev.ifaceComm dev.ifaceData k ep ∧ dev.endpoint k = EpWrite.val ⟨k, ep⟩

/-- All fields of `usb_device_t` describe the device `c` at position `i`, which is the one
    that is open after the calls. -/
structure Describes (i : Nat) (c : Candidate) (dev : UsbDevice) (log : List UsbCall) : Prop where
  handle : dev.handle = some i
  onlyOpen : ∀ j, stillOpen log j = true ↔ j = i
  ids : dev.vid = c.idVendor ∧ dev.pid = c.idProduct
  ifaces : c.target = some (dev.ifaceComm, dev.ifaceData)
  epIn : dev.HoldsOwn c.config .epIn
  epOut : dev.HoldsOwn c.config .epOut
  epInt : dev.epInt = 0 ∨ dev.HoldsOwn c.config .epInt
  kernelDetached : dev.kernelDetached = true → .detach i dev.ifaceComm 0 ∈ log

/-- The device has an endpoint for the field. -/
def Candidate.HasEndpoint (c : Candidate) (k : EpField) : Prop :=
  ∃ comm data ep, c.target = some (comm, data) ∧ OwnEndpoint c.config comm data k ep

/-- A kernel driver of the comm interface has been detached; the second call is about the
    same interface if there is only one. -/
def Candidate.CommDetached (c : Candidate) : Prop :=
  c.activeComm = 1 ∧ c.detachComm = 0 ∨
    (∃ iface, c.target = some (iface, iface)) ∧ c.activeData = 1 ∧ c.detachData = 0

/-- Nothing of the devices `pre`, which have been tried before, shows in the struct for `c`,
    and `kernel_detached` is not set in vain. -/
structure NothingStale (pre : List Candidate) (c : Candidate) : Prop where
  epIn : c.HasEndpoint .epIn
  epOut : c.HasEndpoint .epOut
  epInt : c.HasEndpoint .epInt ∨ lastInterrupt pre = 0
  kernelDetached : c.CommDetached ∨ ∀ p ∈ pre ++ [c], p.Opened → p.activeComm ≠ 1

/-- The one way to a device that is kept. -/
theorem Visit.exists_of_found {i : Nat} (h : Visit i c s t) (hs : s.found = false)
    (ht : t.found = true) :
    ∃ comm data calls, c.target = some (comm, data) ∧ 0 ≤ c.openRet ∧
      scanEndpoints i c comm data (s.dev.fill i c comm data) = (t.dev, calls) ∧
      t.log = s.log ++ [.openDev i c.openRet] ++
        (c.detachCalls i comm data ++ [.claim i comm c.claimComm, .claim i data c.claimData] ++
          calls) := by
  have hnot : ¬ s.found = true := by simp [hs]
  cases h with
  | noTarget => exact absurd ht hnot
  | openFailed => exact absurd ht hnot
  | claimCommFailed => exact absurd ht hnot
  | claimDataFailed => exact absurd ht hnot
  | noEndpoints => exact absurd ht hnot
  | found htarget hopen _ hscan _ => exact ⟨_, _, _, htarget, hopen, hscan, rfl⟩

/-- A device is found only with both bulk endpoints. -/
theorem Visit.bulk_of_found {i : Nat} (h : Visit i c s t) (hs : s.found = false)
    (ht : t.found = true) : t.dev.epIn ≠ 0 ∧ t.dev.epOut ≠ 0 := by
  have hnot : ¬ s.found = true := by simp [hs]
  cases h with
  | found _ _ _ _ hep => exact hep
  | _ => exact absurd ht hnot

/-- The interfaces that are chosen are those a device is asked about. -/
theorem hasEndpoint_iff {comm data : UInt8} {k : EpField} (htarget : c.target = some (comm, data)) :
    c.HasEndpoint k ↔ ∃ ep, OwnEndpoint c.config comm data k ep := by
  constructor
  · rintro ⟨comm', data', ep, htarget', hep⟩
    rw [htarget] at htarget'
    cases htarget'
    exact ⟨ep, hep⟩
  · rintro ⟨ep, hep⟩
    exact ⟨comm, data, ep, htarget, hep⟩

/-- One interface is both the comm and the data interface. -/
theorem exists_same_iff {comm data : UInt8} (htarget : c.target = some (comm, data)) :
    (∃ iface, c.target = some (iface, iface)) ↔ comm = data := by
  rw [htarget]
  constructor
  · rintro ⟨iface, h⟩
    cases h
    rfl
  · rintro rfl
    exact ⟨comm, rfl⟩

/-- The detached driver, by the calls. -/
theorem commDetached_iff {i : Nat} {comm data : UInt8} (htarget : c.target = some (comm, data)) :
    c.CommDetached ↔ .detach i comm 0 ∈ c.detachCalls i comm data := by
  rw [Candidate.CommDetached, detach_mem_detachCalls, exists_same_iff htarget]
  simp only [eq_comm (a := (0 : Int)), true_and]
  tauto

section Found

variable {comm data : UInt8} {calls : List UsbCall} {i : Nat}

/-- A field is about the device's own endpoints exactly when it has one for it. -/
theorem holdsOwn_iff (htarget : c.target = some (comm, data))
    (hscan : scanEndpoints i c comm data (s.dev.fill i c comm data) = (t.dev, calls))
    (k : EpField) : t.dev.HoldsOwn c.config k ↔ c.HasEndpoint k := by
  obtain ⟨-, hcomm, hdata, -⟩ := Visit.scan_keeps hscan
  have hcases := scanEndpoints_endpoint i c comm data (s.dev.fill i c comm data) k
  rw [hscan] at hcases
  rw [hasEndpoint_iff htarget, UsbDevice.HoldsOwn, hcomm, hdata]
  rcases hcases with ⟨ep, hep, hval⟩ | ⟨hnone, -⟩
  · exact iff_of_true ⟨ep, hep, hval⟩ ⟨ep, hep⟩
  · exact iff_of_false (fun ⟨ep, hep, _⟩ => hnone ⟨ep, hep⟩) hnone

/-- Without an interrupt endpoint of its own the device is returned with what was there. -/
theorem epInt_iff (h : Tried pre s) (htarget : c.target = some (comm, data))
    (hscan : scanEndpoints i c comm data (s.dev.fill i c comm data) = (t.dev, calls)) :
    t.dev.epInt = 0 ∨ t.dev.HoldsOwn c.config .epInt ↔
      c.HasEndpoint .epInt ∨ lastInterrupt pre = 0 := by
  rw [holdsOwn_iff htarget hscan]
  by_cases hown : c.HasEndpoint .epInt
  · simp [hown]
  · have hcases := scanEndpoints_endpoint i c comm data (s.dev.fill i c comm data) .epInt
    rw [hscan, ← hasEndpoint_iff htarget] at hcases
    rcases hcases with ⟨ep, hep, -⟩ | ⟨-, hval⟩
    · exact absurd ((hasEndpoint_iff htarget).mpr ⟨ep, hep⟩) hown
    · -- the address comes from the devices before
      have hstale : t.dev.epInt = s.dev.epInt := congrArg Prod.fst hval
      simp [hown, hstale, h.epInt]

/-- `kernel_detached` is right exactly when the driver was detached, or no driver of any device
    was active. -/
theorem kernelDetached_iff (h : Tried pre s) (hvisit : Visit pre.length c s t)
    (htarget : c.target = some (comm, data))
    (hlog : .detach pre.length comm 0 ∈ t.log ↔
      .detach pre.length comm 0 ∈ s.log ∨
        .detach pre.length comm 0 ∈ c.detachCalls pre.length comm data) :
    (t.dev.kernelDetached = true → .detach pre.length comm 0 ∈ t.log) ↔
      c.CommDetached ∨ ∀ p ∈ pre ++ [c], p.Opened → p.activeComm ≠ 1 := by
  -- the calls so far are about devices at earlier positions
  have hearlier : .detach pre.length comm 0 ∉ s.log := fun hmem =>
    absurd (h.earlier _ hmem _ rfl) (Nat.lt_irrefl _)
  have hunset : (¬ ∃ p ∈ pre ++ [c], p.Opened ∧ p.activeComm = 1) ↔
      ∀ p ∈ pre ++ [c], p.Opened → p.activeComm ≠ 1 := by
    simp only [not_exists, not_and]
  rw [hlog, or_iff_right hearlier, ← commDetached_iff htarget, h.kernelDetached_visit hvisit,
    imp_iff_not_or, hunset, or_comm]

end Found

/-- The visit that finds the device leaves a struct that describes it, unless something stale is
    left in it. -/
theorem Visit.describes_iff (h : Tried pre s) (hvisit : Visit pre.length c s t)
    (ht : t.found = true) :
    t.dev.handle = some pre.length ∧
      (Describes pre.length c t.dev t.log ↔ NothingStale pre c) := by
  obtain ⟨comm, data, calls, htarget, hopen, hscan, hlog⟩ := hvisit.exists_of_found h.notFound ht
  obtain ⟨hhandle, hcomm, hdata, hvid, hpid, -⟩ := Visit.scan_keeps hscan
  -- all devices before have been closed
  have hopenLog : ∀ j, stillOpen t.log j = true ↔ j = pre.length := by
    intro j
    rw [hlog, stillOpen_append h.closed hopen (Visit.keepsHandles_scan hscan)]
    rcases eq_or_ne j pre.length with rfl | hne
    · simp
    · simp [hne]
  have hdetach : .detach pre.length comm 0 ∈ t.log ↔ .detach pre.length comm 0 ∈ s.log ∨
      .detach pre.length comm 0 ∈ c.detachCalls pre.length comm data := by
    rw [hlog]
    simp [detach_not_mem_scan hscan]
  have hown := fun k => holdsOwn_iff htarget hscan k
  have hint := epInt_iff h htarget hscan
  have hkernel := kernelDetached_iff h hvisit htarget hdetach
  refine ⟨hhandle, fun hd => ?_, fun hn => ?_⟩
  · have hkd := hd.kernelDetached
    rw [hcomm] at hkd
    exact ⟨(hown _).mp hd.epIn, (hown _).mp hd.epOut, hint.mp hd.epInt, hkernel.mp hkd⟩
  · refine ⟨hhandle, hopenLog, ⟨hvid, hpid⟩, ?_, (hown _).mpr hn.epIn, (hown _).mpr hn.epOut,
      hint.mpr hn.epInt, ?_⟩
    · rw [hcomm, hdata]
      exact htarget
    · rw [hcomm]
      exact hkernel.mpr hn.kernelDetached

/-- The position of a device in the list. -/
theorem getElem?_split (pre : List Candidate) (c : Candidate) (post : List Candidate) :
    (pre ++ c :: post)[pre.length]? = some c := by simp

/-- The struct describes the device of the list that is open. -/
def FindResult.Consistent (r : FindResult) (devices : List Candidate) : Prop :=
  ∃ i c, devices[i]? = some c ∧ Describes i c r.dev r.log

/-- **The device that is found.**  When `usb_find_rndis_device` returns 0 it returns the handle
    of a device of the list; and the whole struct describes that device if and only if it has
    endpoints of its own for both bulk fields, and for the interrupt field unless nothing was
    left there, and its kernel driver has been detached unless no driver was ever active. -/
theorem usbFindRndisDevice_consistent_iff (env : UsbEnv) (devices : List Candidate)
    (hdevices : env.devices = some devices) (h : (usbFindRndisDevice env).ret = 0) :
    ∃ pre c post, devices = pre ++ c :: post ∧
      (usbFindRndisDevice env).dev.handle = some pre.length ∧
      ((usbFindRndisDevice env).Consistent devices ↔ NothingStale pre c) := by
  obtain ⟨pre, c, post, u, rfl, htried, hvisit⟩ := usbFindRndisDevice_found hdevices h
  obtain ⟨hhandle, hiff⟩ := hvisit.describes_iff htried rfl
  refine ⟨pre, c, post, rfl, hhandle, ?_⟩
  rw [← hiff]
  constructor
  · -- the handle says which device of the list it is
    rintro ⟨i, c', hc', hd⟩
    obtain rfl : i = pre.length := Option.some.inj (hd.handle.symm.trans hhandle)
    obtain rfl : c = c' := Option.some.inj ((getElem?_split pre c post).symm.trans hc')
    exact hd
  · intro hd
    exact ⟨pre.length, c, getElem?_split pre c post, hd⟩

/-- A configuration with the two interfaces of RNDIS. -/
def rndisConfig : ConfigDesc :=
  ⟨[⟨[⟨0, 0, usbClassWireless, usbSubclassRndis, usbProtocolRndis, [⟨0x83, 3, 8⟩]⟩]⟩,
    ⟨[⟨1, 0, usbClassCdcData, 0, 0, [⟨0x81, 2, 512⟩, ⟨0x02, 2, 512⟩]⟩]⟩]⟩

/-- A phone, with a driver for its comm interface or not, and the result of the claim. -/
def phone (activeComm claimComm : Int) : Candidate where
  idVendor := 0x18d1
  idProduct := 0x4ee4
  config := rndisConfig
  descRet := 0
  configRet := 0
  openRet := 0
  activeComm := activeComm
  detachComm := 0
  activeData := 0
  detachData := 0
  claimComm := claimComm
  claimData := 0
  setAltRet := 0

/-- A keyboard: no interface for RNDIS. -/
def keyboard : Candidate :=
  { phone 0 0 with config := ⟨[⟨[⟨0, 0, 3, 1, 1, [⟨0x81, 3, 8⟩]⟩]⟩]⟩ }

/-- A keyboard, a phone that another program has claimed, and a phone that can be used; both
    phones have a driver. -/
def bus : List Candidate := [keyboard, phone 1 (-6), phone 1 0]

/-- The search over this bus returns the handle of the second phone. -/
theorem eq_of_bus_split {pre post : List Candidate} {c : Candidate} (h : bus = pre ++ c :: post)
    (hhandle : (usbFindRndisDevice ⟨0, some bus⟩).dev.handle = some pre.length) :
    c = phone 1 0 := by
  have hthird : (usbFindRndisDevice ⟨0, some bus⟩).dev.handle = some 2 := by decide
  have hlen : pre.length = 2 := Option.some.inj (hhandle.symm.trans hthird)
  have hc := getElem?_split pre c post
  rw [← h, hlen] at hc
  exact (Option.some.inj hc).symm

/-- The struct describes the second phone, although the first one was opened before it. -/
theorem usbFindRndisDevice_consistent_iff_bus :
    (usbFindRndisDevice ⟨0, some bus⟩).Consistent bus := by
  obtain ⟨pre, c, post, hsplit, hhandle, hiff⟩ :=
    usbFindRndisDevice_consistent_iff ⟨0, some bus⟩ bus rfl (by decide)
  obtain rfl := eq_of_bus_split hsplit hhandle
  have hcomm : ⟨0, 0, usbClassWireless, usbSubclassRndis, usbProtocolRndis, [⟨0x83, 3, 8⟩]⟩ ∈
      rndisConfig.alts := .head _
  have hdata : ⟨1, 0, usbClassCdcData, 0, 0, [⟨0x81, 2, 512⟩, ⟨0x02, 2, 512⟩]⟩ ∈
      rndisConfig.alts := .tail _ (.head _)
  refine hiff.mpr ⟨?_, ?_, .inl ?_, .inl (.inl ⟨rfl, rfl⟩)⟩
  · exact ⟨0, 1, ⟨0x81, 2, 512⟩, by decide, _, hdata, .inr ⟨by decide, rfl⟩, .head _, by decide⟩
  · exact ⟨0, 1, ⟨0x02, 2, 512⟩, by decide, _, hdata, .inr ⟨by decide, rfl⟩, .tail _ (.head _),
      by decide⟩
  · exact ⟨0, 1, ⟨0x83, 3, 8⟩, by decide, _, hcomm, .inl rfl, .head _, by decide⟩

/-- The first phone's driver is detached, but another program has its interface.  The second
    phone has no driver, and is returned with `kernel_detached` set. -/
theorem not_usbFindRndisDevice_consistent :
    ¬ ∀ (env : UsbEnv) (devices : List Candidate), env.devices = some devices →
      (usbFindRndisDevice env).ret = 0 → (usbFindRndisDevice env).Consistent devices := by
  intro h
  obtain ⟨i, c, -, hd⟩ := h ⟨0, some [phone 1 (-6), phone 0 0]⟩ _ rfl (by decide)
  obtain rfl : i = 1 := Option.some.inj (hd.handle.symm.trans (by decide))
  exact absurd (hd.kernelDetached (by decide)) (by decide)

end AndroidTether
