import AndroidTether.Lib.Custody
import AndroidTether.UsbSearch

namespace AndroidTether

open Custody

/-!
# What the search takes and gives back

A run of `usb_find_rndis_device` initialises a context, opens devices, detaches kernel drivers
and claims interfaces; `usb_close_device` undoes this for the device that was found.

* `usbCloseDevice` — the calls it makes;
* `Balanced` — everything that was taken has been given back;
* `SettledLog` — everything but the context and perhaps kernel drivers; one lemma for the calls
  on one device, one for the calls on several;
* `usbFindRndisDevice_balanced_iff` — exactly when the whole is balanced.
-/

/-- `usb_close_device` -/
def usbCloseDevice (dev : UsbDevice) : UsbDevice × List UsbCall :=
  match dev.handle with
  | none => (dev, [])
  | some i =>
    ({ dev with handle := none, ctx := false },
      [.release i dev.ifaceData, .release i dev.ifaceComm] ++
        (if dev.kernelDetached then [.attach i dev.ifaceComm] else []) ++ [.close i] ++
          if dev.ctx then [.exitCtx] else [])

/-- What can be taken from `libusb`: the context, a handle, and an interface of a device, from
    other programs or from its kernel driver. -/
inductive UsbThing where
  | ctx
  | handle (i : Nat)
  | claimed (i : Nat) (iface : UInt8)
  | driver (i : Nat) (iface : UInt8)
  deriving DecidableEq

/-- What a call takes, if it succeeds, or gives back. -/
def UsbCall.effect : UsbCall → Option (UsbThing × Bool)
  | .initCtx ret => if 0 ≤ ret then some (.ctx, true) else none
  | .exitCtx => some (.ctx, false)
  | .openDev i ret => if 0 ≤ ret then some (.handle i, true) else none
  | .close i => some (.handle i, false)
  | .detach i iface ret => if ret = 0 then some (.driver i iface, true) else none
  | .attach i iface => some (.driver i iface, false)
  | .claim i iface ret => if 0 ≤ ret then some (.claimed i iface, true) else none
  | .release i iface => some (.claimed i iface, false)
  | .setAlt _ _ _ _ => none

/-- The calls give back all they take: each handle is closed once and the context exited once;
    each interface is released, and its driver attached again. -/
structure Balanced (log : List UsbCall) : Prop where
  exited : held UsbCall.effect log .ctx = false ∧
    times UsbCall.effect log .ctx true = times UsbCall.effect log .ctx false
  closed : ∀ i, held UsbCall.effect log (.handle i) = false ∧
    times UsbCall.effect log (.handle i) true = times UsbCall.effect log (.handle i) false
  released : ∀ i iface, held UsbCall.effect log (.claimed i iface) = false
  reattached : ∀ i iface, held UsbCall.effect log (.driver i iface) = false

/-- A kernel driver of one of the two interfaces has been detached. -/
def Candidate.LeavesDriver (c : Candidate) : Prop :=
  c.Opened ∧ (c.activeComm = 1 ∧ c.detachComm = 0 ∨ c.activeData = 1 ∧ c.detachData = 0)

/-- `usb_close_device` attaches the drivers of the device `c` again, which was found when `pre`
    had been tried: the driver of the data interface only if that is the comm interface too, and
    `kernel_detached` is set, for this device or one before. -/
def Candidate.Reattaches (pre : List Candidate) (c : Candidate) : Prop :=
  c.activeData = 1 → c.detachData = 0 →
    (∃ iface, c.target = some (iface, iface)) ∧ ∃ p ∈ pre ++ [c], p.Opened ∧ p.activeComm = 1

/-- The devices of the list, if it is reached. -/
def UsbEnv.listed (env : UsbEnv) : List Candidate :=
  if env.initRet < 0 then [] else env.devices.getD []

/-! ### Calls on several devices -/

/-- The device a thing belongs to. -/
def UsbThing.device : UsbThing → Option Nat
  | .ctx => none
  | .handle i => some i
  | .claimed i _ => some i
  | .driver i _ => some i

/-- The calls give back the handles and the interfaces they take, and the kernel drivers if `ok`
    holds. -/
structure SettledLog (ok : Prop) (log : List UsbCall) : Prop where
  closed : ∀ i, held UsbCall.effect log (.handle i) = false ∧
    times UsbCall.effect log (.handle i) true = times UsbCall.effect log (.handle i) false
  released : ∀ i iface, held UsbCall.effect log (.claimed i iface) = false
  reattached : (∀ i iface, held UsbCall.effect log (.driver i iface) = false) ↔ ok

/-- A call takes or gives back what belongs to its device. -/
theorem device_of_effect {u : UsbCall} {r : UsbThing} {taken : Bool}
    (h : u.effect = some (r, taken)) : u.device = r.device := by
  cases u
  all_goals
    simp only [UsbCall.effect, Option.ite_none_right_eq_some, Option.some.injEq, Prod.mk.injEq,
      reduceCtorEq] at h
  all_goals
    first
      | obtain ⟨rfl, -⟩ := h; rfl
      | obtain ⟨-, rfl, -⟩ := h; rfl

/-- Calls on other devices. -/
theorem frame_of_device {calls : List UsbCall} {r : UsbThing}
    (h : ∀ u ∈ calls, u.device ≠ r.device) : Frame UsbCall.effect calls r :=
  fun u hu _ heffect => h u hu (device_of_effect heffect)

section Append

variable {log calls : List UsbCall} {n : Nat} {P Q : Prop}

/-- A thing of a device is held after one of the two logs, if only the second is about the
    device `n`. -/
theorem held_append_device (hlog : ∀ u ∈ log, ∀ j, u.device = some j → j < n)
    (hcalls : ∀ u ∈ calls, u.device = some n) {r : UsbThing} {j : Nat} (hr : r.device = some j) :
    held UsbCall.effect (log ++ calls) r =
      (held UsbCall.effect log r || held UsbCall.effect calls r) := by
  rcases eq_or_ne j n with rfl | hne
  · have hframe : Frame UsbCall.effect log r := frame_of_device fun u hu hdev =>
      absurd (hlog u hu j (hdev.trans hr)) (Nat.lt_irrefl _)
    rw [held_append_of_fresh hframe, held_of_frame hframe, Bool.false_or]
  · have hframe : Frame UsbCall.effect calls r := frame_of_device fun u hu hdev => by
      rw [hcalls u hu, hr, Option.some.injEq] at hdev
      exact hne hdev.symm
    rw [held_append_of_frame hframe, held_of_frame hframe, Bool.or_false]

/-- **One device after others.** -/
theorem SettledLog.append (hlog : ∀ u ∈ log, ∀ j, u.device = some j → j < n)
    (hcalls : ∀ u ∈ calls, u.device = some n) (hl : SettledLog P log) (hc : SettledLog Q calls) :
    SettledLog (P ∧ Q) (log ++ calls) where
  closed := by
    intro i
    obtain ⟨hheld, htimes⟩ := hl.closed i
    obtain ⟨hheld', htimes'⟩ := hc.closed i
    rw [held_append_device hlog hcalls rfl, hheld, hheld', times_append, times_append, htimes,
      htimes']
    exact ⟨rfl, rfl⟩
  released := by
    intro i iface
    rw [held_append_device hlog hcalls rfl, hl.released, hc.released]
    rfl
  reattached := by
    rw [← hl.reattached, ← hc.reattached, ← forall_and]
    refine forall_congr' fun i => ?_
    rw [← forall_and]
    refine forall_congr' fun iface => ?_
    rw [held_append_device hlog hcalls rfl, Bool.or_eq_false_iff]

end Append

/-! ### Calls on one device -/

section OneDevice

variable {i : Nat} {c : Candidate} {comm data : UInt8} {mid : List UsbCall}

/-- A detach that succeeds takes the driver of its interface. -/
theorem detachCalls_effect {u : UsbCall} (hu : u ∈ c.detachCalls i comm data) {r : UsbThing}
    {taken : Bool} (h : u.effect = some (r, taken)) :
    ∃ iface, u = .detach i iface 0 ∧ r = .driver i iface ∧ taken = true := by
  obtain ⟨iface, ret, rfl⟩ := exists_detach hu
  simp only [UsbCall.effect, Option.ite_none_right_eq_some, Option.some.injEq, Prod.mk.injEq] at h
  obtain ⟨rfl, rfl, rfl⟩ := h
  exact ⟨iface, rfl, rfl, rfl⟩

/-- The drivers that are attached again. -/
def attachCalls (i : Nat) (comm : UInt8) (kernelDetached : Bool) : List UsbCall :=
  if kernelDetached then [.attach i comm] else []

/-- Calls that take nothing and give nothing back. -/
theorem balanced_of_no_effect {calls : List UsbCall} (h : ∀ u ∈ calls, u.effect = none) :
    Balanced calls := by
  have hframe : ∀ r, Frame UsbCall.effect calls r := by
    intro r u hu taken heffect
    rw [h u hu] at heffect
    cases heffect
  have htimes : ∀ r, times UsbCall.effect calls r true = times UsbCall.effect calls r false := by
    intro r
    rw [times_of_frame (hframe r), times_of_frame (hframe r)]
  exact ⟨⟨held_of_frame (hframe _), htimes _⟩, fun i => ⟨held_of_frame (hframe _), htimes _⟩,
    fun i iface => held_of_frame (hframe _), fun i iface => held_of_frame (hframe _)⟩

/-- A call that claims or releases an interface of the device, or selects a setting. -/
def UsbCall.OnInterface (i : Nat) (u : UsbCall) : Prop :=
  ∀ r taken, u.effect = some (r, taken) → ∃ iface, r = .claimed i iface

/-- A claim is about an interface of its device. -/
theorem onInterface_claim {iface : UInt8} {ret : Int} :
    (UsbCall.claim i iface ret).OnInterface i := by
  intro r taken h
  simp only [UsbCall.effect, Option.ite_none_right_eq_some, Option.some.injEq, Prod.mk.injEq] at h
  exact ⟨iface, h.2.1.symm⟩

/-- So is a release. -/
theorem onInterface_release {iface : UInt8} : (UsbCall.release i iface).OnInterface i := by
  intro r taken h
  cases h
  exact ⟨iface, rfl⟩

/-- So is the choice of a setting. -/
theorem onInterface_setAlt {iface : UInt8} {alt : Nat} {ret : Int} :
    (UsbCall.setAlt i iface alt ret).OnInterface i := by
  intro r taken h
  cases h

/-- The calls `inner` between opening and closing the device. -/
def between (i : Nat) (ret : Int) (inner : List UsbCall) : List UsbCall :=
  [.openDev i ret] ++ inner ++ [.close i]

/-- Opening and closing are about the handle alone. -/
theorem held_between {ret : Int} {inner : List UsbCall} {r : UsbThing} (hr : ∀ j, r ≠ .handle j) :
    held UsbCall.effect (between i ret inner) r = held UsbCall.effect inner r := by
  have hopen : Frame UsbCall.effect [.openDev i ret] r := by
    simp [Frame, UsbCall.effect, (hr _).symm]
  have hclose : Frame UsbCall.effect [.close i] r := by
    simp [Frame, UsbCall.effect, (hr _).symm]
  rw [between, held_append_of_frame hclose, held_append_of_fresh hopen]

/-- What is opened is closed, once each. -/
theorem closed_between {ret : Int} {inner : List UsbCall} (hret : 0 ≤ ret) (j : Nat)
    (hinner : Frame UsbCall.effect inner (.handle j)) :
    held UsbCall.effect (between i ret inner) (.handle j) = false ∧
      times UsbCall.effect (between i ret inner) (.handle j) true =
        times UsbCall.effect (between i ret inner) (.handle j) false := by
  constructor
  · rcases eq_or_ne j i with rfl | hne
    · exact held_append_of_returned (by simp [UsbCall.effect])
        (.inr ⟨_, List.mem_singleton_self _, rfl⟩)
    · have hopen : Frame UsbCall.effect [.openDev i ret] (.handle j) := by
        simp [Frame, UsbCall.effect, hne.symm]
      have hclose : Frame UsbCall.effect [.close i] (.handle j) := by
        simp [Frame, UsbCall.effect, hne.symm]
      rw [between, held_append_of_frame hclose, held_append_of_frame hinner, held_of_frame hopen]
  · simp only [between, times_append, times_of_frame hinner]
    simp [times, UsbCall.effect, hret]

/-- A driver stays detached unless it is the comm interface's and is attached. -/
theorem held_attachCalls {log : List UsbCall} {kernelDetached : Bool} {j : Nat} {iface : UInt8} :
    held UsbCall.effect (log ++ attachCalls i comm kernelDetached) (.driver j iface) = false ↔
      (held UsbCall.effect log (.driver j iface) = true →
        i = j ∧ comm = iface ∧ kernelDetached = true) := by
  cases kernelDetached with
  | false => simp [attachCalls]
  | true =>
    by_cases hsame : i = j ∧ comm = iface
    · obtain ⟨rfl, rfl⟩ := hsame
      exact iff_of_true (held_append_of_returned (by simp [attachCalls, UsbCall.effect])
        (.inr ⟨_, List.mem_singleton_self _, rfl⟩)) fun _ => ⟨rfl, rfl, rfl⟩
    · have hframe : Frame UsbCall.effect (attachCalls i comm true) (.driver j iface) := by
        simpa [attachCalls, Frame, UsbCall.effect] using hsame
      rw [held_append_of_frame hframe]
      simp only [and_true, hsame, imp_false, Bool.not_eq_true]

/-- Detaching and attaching concern drivers only. -/
theorem frame_detachCalls {r : UsbThing} (hr : ∀ iface, r ≠ .driver i iface) :
    Frame UsbCall.effect (c.detachCalls i comm data) r := by
  intro u hu taken h
  obtain ⟨iface, -, heq, -⟩ := detachCalls_effect hu h
  exact hr iface heq

/-- Attaching is about drivers alone. -/
theorem frame_attachCalls {kernelDetached : Bool} {r : UsbThing}
    (hr : ∀ iface, r ≠ .driver i iface) :
    Frame UsbCall.effect (attachCalls i comm kernelDetached) r := by
  cases kernelDetached <;> simp [attachCalls, Frame, UsbCall.effect, (hr _).symm]

/-- Calls on the interfaces of a device leave everything but its claims alone. -/
theorem frame_onInterface (hmid : ∀ u ∈ mid, u.OnInterface i) {r : UsbThing}
    (hr : ∀ iface, r ≠ .claimed i iface) : Frame UsbCall.effect mid r := by
  intro u hu taken h
  obtain ⟨iface, heq⟩ := hmid u hu r taken h
  exact hr iface heq

/-- The drivers that are held by the calls on the device, before any is attached again. -/
theorem held_detachCalls (hmid : ∀ u ∈ mid, u.OnInterface i) (j : Nat) (iface : UInt8) :
    held UsbCall.effect (c.detachCalls i comm data ++ mid) (.driver j iface) = true ↔
      j = i ∧ .detach i iface 0 ∈ c.detachCalls i comm data := by
  rw [held_append_of_frame (frame_onInterface hmid (by simp)), held_iff_of_kept]
  · constructor
    · rintro ⟨u, hu, h⟩
      obtain ⟨iface', rfl, heq, -⟩ := detachCalls_effect hu h
      cases heq
      exact ⟨rfl, hu⟩
    · rintro ⟨rfl, hu⟩
      exact ⟨_, hu, rfl⟩
  · intro u hu h
    obtain ⟨-, -, -, htaken⟩ := detachCalls_effect hu h
    cases htaken

/-- **One device.**  Drivers are detached, the calls `mid` concern the interfaces, and perhaps a
    driver is attached again. -/
theorem settledLog_device {ret : Int} (hret : 0 ≤ ret) (kernelDetached : Bool)
    (hmid : ∀ u ∈ mid, u.OnInterface i)
    (hreleased : ∀ iface, held UsbCall.effect mid (.claimed i iface) = false) :
    SettledLog (∀ iface, .detach i iface 0 ∈ c.detachCalls i comm data →
        comm = iface ∧ kernelDetached = true)
      (between i ret (c.detachCalls i comm data ++ mid ++ attachCalls i comm kernelDetached)) := by
  refine ⟨fun j => closed_between hret j ?_, fun j iface => ?_, ?_⟩
  · -- none of them opens or closes
    simp only [Frame, List.forall_mem_append]
    exact ⟨⟨frame_detachCalls (by simp), frame_onInterface hmid (by simp)⟩,
      frame_attachCalls (by simp)⟩
  · rw [held_between (by simp), held_append_of_frame (frame_attachCalls (by simp)),
      held_append_of_fresh (frame_detachCalls (by simp))]
    rcases eq_or_ne j i with rfl | hne
    · exact hreleased iface
    · exact held_of_frame (frame_onInterface hmid (by simp [hne]))
  · constructor
    · intro h iface hmem
      have hheld := h i iface
      rw [held_between (by simp), held_attachCalls, held_detachCalls hmid] at hheld
      exact (hheld ⟨rfl, hmem⟩).2
    · intro h j iface
      rw [held_between (by simp), held_attachCalls, held_detachCalls hmid]
      rintro ⟨rfl, hmem⟩
      exact ⟨rfl, h iface hmem⟩

/-- No driver of the device is left detached, if none is attached again. -/
theorem noneDetached_iff (htarget : c.target = some (comm, data)) (hopen : 0 ≤ c.openRet) :
    (∀ iface, .detach i iface 0 ∈ c.detachCalls i comm data → comm = iface ∧ false = true) ↔
      ¬ c.LeavesDriver := by
  have hopened : c.Opened := ⟨by rw [htarget]; rfl, hopen⟩
  simp only [detach_mem_detachCalls, true_and, Bool.false_eq_true, and_false, imp_false,
    Candidate.LeavesDriver, hopened]
  constructor
  · rintro h (⟨hactive, hret⟩ | ⟨hactive, hret⟩)
    · exact h comm (.inl ⟨hactive, rfl, hret.symm⟩)
    · exact h data (.inr ⟨hactive, rfl, hret.symm⟩)
  · rintro h iface (⟨hactive, -, hret⟩ | ⟨hactive, -, hret⟩)
    · exact h (.inl ⟨hactive, hret.symm⟩)
    · exact h (.inr ⟨hactive, hret.symm⟩)

/-- Calls without an effect are settled. -/
theorem settledLog_of_no_effect {calls : List UsbCall} {ok : Prop}
    (h : ∀ u ∈ calls, u.effect = none) (hok : ok) : SettledLog ok calls := by
  obtain ⟨-, hclosed, hreleased, hreattached⟩ := balanced_of_no_effect h
  exact ⟨hclosed, hreleased, iff_of_true hreattached hok⟩

/-- Two claims, and calls that take nothing, are undone by two releases. -/
theorem released_of_claims {comm data iface : UInt8} {retComm retData : Int}
    {calls : List UsbCall} (hcalls : ∀ u ∈ calls, u.effect = none) :
    held UsbCall.effect ([.claim i comm retComm, .claim i data retData] ++ calls ++
      [.release i data, .release i comm]) (.claimed i iface) = false := by
  apply held_append_of_returned (by simp [UsbCall.effect])
  by_cases hcomm : comm = iface
  · exact .inr ⟨.release i comm, by simp, by rw [hcomm]; rfl⟩
  by_cases hdata : data = iface
  · exact .inr ⟨.release i data, by simp, by rw [hdata]; rfl⟩
  refine .inl (held_of_frame ?_)
  rw [Frame, List.forall_mem_append]
  constructor
  · simp [UsbCall.effect, hcomm, hdata]
  · intro u hu taken
    rw [hcalls u hu]
    simp

/-- Only the first of two claims succeeds. -/
theorem released_of_claim {comm data iface : UInt8} {retComm retData : Int}
    (hdata : retData < 0) :
    held UsbCall.effect [.claim i comm retComm, .claim i data retData, .release i comm]
      (.claimed i iface) = false := by
  show held UsbCall.effect ([.claim i comm retComm, .claim i data retData] ++ [.release i comm])
    (.claimed i iface) = false
  apply held_append_of_returned (by simp [UsbCall.effect])
  by_cases hcomm : comm = iface
  · exact .inr ⟨.release i comm, by simp, by rw [hcomm]; rfl⟩
  · refine .inl (held_of_frame ?_)
    simp [Frame, UsbCall.effect, hcomm, Int.not_le.mpr hdata]

end OneDevice

/-! ### The devices tried before -/

section Visits

variable {pre : List Candidate} {i : Nat} {c : Candidate} {s t : Search} {calls : List UsbCall}

/-- The endpoint passes take nothing. -/
theorem scan_effect {comm data : UInt8} {dev dev' : UsbDevice}
    (hscan : scanEndpoints i c comm data dev = (dev', calls)) : ∀ u ∈ calls, u.effect = none := by
  intro u hu
  rw [mem_scanEndpoints_calls hscan hu]
  rfl

/-- Between the detaches and the close the calls are about interfaces. -/
theorem onInterface_claims {comm data : UInt8} {retComm retData : Int} {dev dev' : UsbDevice}
    (hscan : scanEndpoints i c comm data dev = (dev', calls)) :
    ∀ u ∈ [UsbCall.claim i comm retComm, .claim i data retData] ++ calls ++
      [.release i data, .release i comm], u.OnInterface i := by
  simp only [List.forall_mem_append, List.forall_mem_cons, List.not_mem_nil, false_imp_iff,
    implies_true, and_true]
  refine ⟨⟨⟨onInterface_claim, onInterface_claim⟩, fun u hu => ?_⟩, onInterface_release,
    onInterface_release⟩
  rw [mem_scanEndpoints_calls hscan hu]
  exact onInterface_setAlt

/-- **A device that is given up**: only a kernel driver may be missing then. -/
theorem Visit.settled (h : Visit i c s t) (ht : t.found = false)
    (hlog : t.log = s.log ++ calls) : SettledLog (¬ c.LeavesDriver) calls := by
  cases h with
  | noTarget htarget =>
    have hcalls : calls = [] := by simpa using hlog
    rw [hcalls]
    refine settledLog_of_no_effect (by simp) fun hleaves => ?_
    simp [Candidate.LeavesDriver, Candidate.Opened, htarget] at hleaves
  | openFailed htarget hopen =>
    have hcalls : calls = [.openDev i c.openRet] := (List.append_cancel_left hlog).symm
    rw [hcalls]
    refine settledLog_of_no_effect (by simp [UsbCall.effect, hopen]) fun hleaves => ?_
    exact absurd hleaves.1.2 (Int.not_le.mpr hopen)
  | @claimCommFailed comm data htarget hopen hcomm =>
    have hcalls : calls = between i c.openRet (c.detachCalls i comm data ++
        [.claim i comm c.claimComm] ++ attachCalls i comm false) := by
      simpa [between, attachCalls] using hlog.symm
    have hnone : (UsbCall.claim i comm c.claimComm).effect = none :=
      if_neg (Int.not_le.mpr hcomm)
    rw [hcalls, ← noneDetached_iff (i := i) htarget hopen]
    refine settledLog_device hopen false ?_ fun iface => held_of_frame (by simp [Frame, hnone])
    simp only [List.forall_mem_singleton]
    exact onInterface_claim
  | @claimDataFailed comm data htarget hopen hdata =>
    have hcalls : calls = between i c.openRet (c.detachCalls i comm data ++
        [.claim i comm c.claimComm, .claim i data c.claimData, .release i comm] ++
          attachCalls i comm false) := by
      simpa [between, attachCalls] using hlog.symm
    rw [hcalls, ← noneDetached_iff (i := i) htarget hopen]
    refine settledLog_device hopen false ?_ fun iface => released_of_claim hdata
    simp only [List.forall_mem_cons, List.not_mem_nil, false_imp_iff, implies_true, and_true]
    exact ⟨onInterface_claim, onInterface_claim, onInterface_release⟩
  | @noEndpoints comm data dev scanned htarget hopen hclaimed hscan hep =>
    have hcalls : calls = between i c.openRet (c.detachCalls i comm data ++
        ([.claim i comm c.claimComm, .claim i data c.claimData] ++ scanned ++
          [.release i data, .release i comm]) ++ attachCalls i comm false) := by
      simpa [between, attachCalls] using hlog.symm
    rw [hcalls, ← noneDetached_iff (i := i) htarget hopen]
    exact settledLog_device hopen false (onInterface_claims hscan) fun iface =>
      released_of_claims (scan_effect hscan)
  | found => cases ht

/-- The context is not touched. -/
theorem Visit.ctx (h : Visit i c s t) : t.dev.ctx = s.dev.ctx := by
  have hscanCtx : ∀ {comm data dev calls},
      scanEndpoints i c comm data (s.dev.fill i c comm data) = (dev, calls) →
        dev.ctx = s.dev.ctx := by
    intro comm data dev calls hscan
    have hkeep := scanEndpoints_identity i c comm data (s.dev.fill i c comm data)
    rw [hscan] at hkeep
    exact congrArg Prod.fst hkeep
  cases h with
  | @noEndpoints comm data dev _ _ _ _ hscan _ =>
    show dev.ctx = s.dev.ctx
    exact hscanCtx hscan
  | found _ _ _ hscan _ => exact hscanCtx hscan
  | _ => rfl

/-- The devices `pre` have been tried in vain, and the context is there. -/
structure Settled (pre : List Candidate) (s : Search) : Prop where
  log : SettledLog (∀ p ∈ pre, ¬ p.LeavesDriver) s.log
  ctx : s.dev.ctx = true
  times : times UsbCall.effect s.log .ctx true = 1 ∧ times UsbCall.effect s.log .ctx false = 0

/-- Before the first device only the context is held. -/
theorem settled_start {ret : Int} (hret : ¬ ret < 0) :
    Settled [] ⟨.fresh, false, [.initCtx ret]⟩ := by
  have hinit : (UsbCall.initCtx ret).effect = some (.ctx, true) := if_pos (Int.not_lt.mp hret)
  have hframe : ∀ r, r ≠ .ctx → Frame UsbCall.effect [.initCtx ret] r := by
    intro r hr
    simp [Frame, hinit, hr.symm]
  refine ⟨⟨fun j => ⟨held_of_frame (hframe _ (by simp)), ?_⟩, fun j iface =>
    held_of_frame (hframe _ (by simp)), iff_of_true (fun j iface =>
      held_of_frame (hframe _ (by simp))) (by simp)⟩, rfl, ?_⟩
  · rw [times_of_frame (hframe _ (by simp)), times_of_frame (hframe _ (by simp))]
  · simp [Custody.times, hinit]

/-- Calls on a device do not count for the context. -/
theorem times_ctx_append {log : List UsbCall} {taken : Bool}
    (hcalls : ∀ u ∈ calls, u.device = some i) :
    times UsbCall.effect (log ++ calls) .ctx taken = times UsbCall.effect log .ctx taken := by
  have hframe : Frame UsbCall.effect calls .ctx := frame_of_device fun u hu hdev => by
    rw [hcalls u hu] at hdev
    cases hdev
  rw [times_append, times_of_frame hframe, Nat.add_zero]

/-- One more device. -/
theorem Settled.visit (htried : Tried pre s) (h : Settled pre s)
    (hvisit : Visit pre.length c s t) (ht : t.found = false) : Settled (pre ++ [c]) t := by
  obtain ⟨calls, hlog, hcalls⟩ := hvisit.exists_calls
  refine ⟨?_, hvisit.ctx.trans h.ctx, ?_⟩
  · have happend := SettledLog.append htried.earlier hcalls h.log (hvisit.settled ht hlog)
    rw [hlog]
    simpa [or_imp, forall_and] using happend
  · rw [hlog, times_ctx_append hcalls, times_ctx_append hcalls]
    exact h.times

/-- With the context exited, only drivers can be missing. -/
theorem SettledLog.balanced_iff {ok : Prop} {log : List UsbCall} (h : SettledLog ok log)
    (htimes : times UsbCall.effect log .ctx true = 1 ∧ times UsbCall.effect log .ctx false = 0) :
    Balanced (log ++ [.exitCtx]) ↔ ok := by
  have hframe : ∀ r, r ≠ .ctx → Frame UsbCall.effect [.exitCtx] r := by
    intro r hr
    simp [Frame, UsbCall.effect, hr.symm]
  have hdrivers : (∀ i iface, held UsbCall.effect (log ++ [.exitCtx]) (.driver i iface) = false) ↔
      ok := by
    rw [← h.reattached]
    simp only [held_append_of_frame (hframe _ _), reduceCtorEq, ne_eq, not_false_eq_true]
  constructor
  · exact fun hb => hdrivers.mp hb.reattached
  · intro hok
    refine ⟨⟨held_append_of_returned (by simp [UsbCall.effect])
        (.inr ⟨.exitCtx, by simp, rfl⟩), ?_⟩,
      fun i => ?_, fun i iface => ?_, hdrivers.mpr hok⟩
    · rw [times_append, times_append, htimes.1, htimes.2]
      simp [times, UsbCall.effect]
    · rw [held_append_of_frame (hframe _ (by simp)), times_append, times_append,
        times_of_frame (hframe _ (by simp)), times_of_frame (hframe _ (by simp))]
      exact h.closed i
    · rw [held_append_of_frame (hframe _ (by simp))]
      exact h.released i iface

end Visits

/-! ### The whole search -/

section Kept

variable {pre : List Candidate} {c : Candidate} {s t : Search} {comm data : UInt8}

/-- What `usb_close_device` attaches again. -/
theorem reattaches_iff (h : Tried pre s) (hvisit : Visit pre.length c s t)
    (htarget : c.target = some (comm, data)) (hopen : 0 ≤ c.openRet) :
    (∀ iface, .detach pre.length iface 0 ∈ c.detachCalls pre.length comm data →
        comm = iface ∧ t.dev.kernelDetached = true) ↔ c.Reattaches pre := by
  have hopened : c.Opened := ⟨by rw [htarget]; rfl, hopen⟩
  rw [Candidate.Reattaches, exists_same_iff htarget, h.kernelDetached_visit hvisit]
  simp only [detach_mem_detachCalls, true_and]
  constructor
  · exact fun hall hactive hret => hall data (.inr ⟨hactive, rfl, hret.symm⟩)
  · rintro hall iface (⟨hactive, rfl, -⟩ | ⟨hactive, rfl, hret⟩)
    · -- `kernel_detached` is set for the comm interface
      exact ⟨rfl, c, by simp, hopened, hactive⟩
    · exact hall hactive hret.symm

/-- **The device that is kept**, when it has been closed. -/
theorem settled_found (h : Tried pre s) (hs : Settled pre s) (hvisit : Visit pre.length c s t)
    (ht : t.found = true) :
    Balanced (t.log ++ (usbCloseDevice t.dev).2) ↔
      (∀ p ∈ pre, ¬ p.LeavesDriver) ∧ c.Reattaches pre := by
  obtain ⟨comm, data, calls, htarget, hopen, hscan, hlog⟩ := hvisit.exists_of_found h.notFound ht
  obtain ⟨hhandle, hcomm, hdata, -⟩ := Visit.scan_keeps hscan
  have hctx : t.dev.ctx = true := hvisit.ctx.trans hs.ctx
  -- the calls on the device, up to its closing
  obtain ⟨visited, hvisited, hdevice⟩ := hvisit.exists_calls
  obtain ⟨closing, hclosing⟩ : ∃ closing, closing =
      [.release pre.length data, .release pre.length comm] ++
        attachCalls pre.length comm t.dev.kernelDetached ++ [.close pre.length] := ⟨_, rfl⟩
  have hown : visited ++ closing = between pre.length c.openRet
      (c.detachCalls pre.length comm data ++
        ([.claim pre.length comm c.claimComm, .claim pre.length data c.claimData] ++ calls ++
          [.release pre.length data, .release pre.length comm]) ++
        attachCalls pre.length comm t.dev.kernelDetached) := by
    rw [hvisited, List.append_assoc] at hlog
    rw [List.append_cancel_left hlog, hclosing]
    simp [between]
  have hwhole : t.log ++ (usbCloseDevice t.dev).2 = s.log ++ (visited ++ closing) ++ [.exitCtx] := by
    rw [hvisited, hclosing, usbCloseDevice, hhandle, hcomm, hdata, hctx]
    simp [attachCalls]
  have hsettled : SettledLog (c.Reattaches pre) (visited ++ closing) := by
    rw [hown, ← reattaches_iff h hvisit htarget hopen]
    exact settledLog_device hopen _ (onInterface_claims hscan) fun iface =>
      released_of_claims (scan_effect hscan)
  have hdevice : ∀ u ∈ visited ++ closing, u.device = some pre.length := by
    rw [hclosing, attachCalls]
    simp only [List.forall_mem_append]
    refine ⟨hdevice, ⟨by simp [UsbCall.device], ?_⟩, by simp [UsbCall.device]⟩
    split_ifs <;> simp [UsbCall.device]
  rw [hwhole]
  apply (SettledLog.append h.earlier hdevice hs.log hsettled).balanced_iff
  rw [times_ctx_append hdevice, times_ctx_append hdevice]
  exact hs.times

end Kept

/-- **Balance.**  When `usb_find_rndis_device` returns -1, everything it took has been given back
    exactly when no device it opened had a kernel driver detached.  When it returns 0 and
    `usb_close_device` follows, everything has been given back exactly when no device it gave up
    had a driver detached, and the driver of the data interface of the device it returned is one
    that is attached again. -/
theorem usbFindRndisDevice_balanced_iff (env : UsbEnv) :
    ((usbFindRndisDevice env).ret = -1 →
      (Balanced (usbFindRndisDevice env).log ↔ ∀ p ∈ env.listed, ¬ p.LeavesDriver)) ∧
    ((usbFindRndisDevice env).ret = 0 →
      ∃ pre c post, env.listed = pre ++ c :: post ∧
        (usbFindRndisDevice env).dev.handle = some pre.length ∧
        (Balanced ((usbFindRndisDevice env).log ++
            (usbCloseDevice (usbFindRndisDevice env).dev).2) ↔
          (∀ p ∈ pre, ¬ p.LeavesDriver) ∧ c.Reattaches pre)) := by
  have hstep : ∀ pre c s t, Tried pre s → Settled pre s → Visit pre.length c s t →
      t.found = false → Settled (pre ++ [c]) t :=
    fun pre c s t htried hs hvisit ht => hs.visit htried hvisit ht
  by_cases hinit : env.initRet < 0
  · -- no context
    have hfind : usbFindRndisDevice env =
        ⟨-1, { UsbDevice.fresh with ctx := false }, [.initCtx env.initRet]⟩ := if_pos hinit
    rw [hfind, UsbEnv.listed, if_pos hinit]
    exact ⟨fun _ => iff_of_true (balanced_of_no_effect (by simp [UsbCall.effect, hinit])) (by simp),
      fun h => by cases h⟩
  have hstart := settled_start hinit
  cases hdevices : env.devices with
  | none =>
    have hfind : usbFindRndisDevice env = ⟨-1, .fresh, [.initCtx env.initRet, .exitCtx]⟩ := by
      rw [usbFindRndisDevice, if_neg hinit, hdevices]
    rw [hfind, UsbEnv.listed, if_neg hinit, hdevices]
    exact ⟨fun _ => hstart.log.balanced_iff hstart.times, fun h => by cases h⟩
  | some devices =>
    have hlisted : env.listed = devices := by rw [UsbEnv.listed, if_neg hinit, hdevices]; rfl
    rw [hlisted]
    constructor
    · intro h
      obtain ⟨u, -, hu, hlog⟩ := usbFindRndisDevice_notFound_inv hstep hstart hinit hdevices h
      rw [hlog]
      exact hu.log.balanced_iff hu.times
    · intro h
      obtain ⟨pre, c, post, u, rfl, htried, hu, hvisit⟩ :=
        usbFindRndisDevice_found_inv hstep hstart hdevices h
      obtain ⟨_, _, _, -, -, hscan, -⟩ := hvisit.exists_of_found htried.notFound rfl
      exact ⟨pre, c, post, rfl, (Visit.scan_keeps hscan).1, settled_found htried hu hvisit rfl⟩

/-- The driver of the phone is detached, its interface is taken by another program, and it stays
    detached. -/
theorem not_usbFindRndisDevice_balanced :
    ¬ ∀ env : UsbEnv,
      ((usbFindRndisDevice env).ret = -1 → Balanced (usbFindRndisDevice env).log) ∧
      ((usbFindRndisDevice env).ret = 0 →
        Balanced ((usbFindRndisDevice env).log ++
          (usbCloseDevice (usbFindRndisDevice env).dev).2)) := by
  intro h
  have hbalanced := (h ⟨0, some [phone 1 (-6)]⟩).1 (by decide)
  exact absurd (hbalanced.reattached 0 0) (by decide)

end AndroidTether
