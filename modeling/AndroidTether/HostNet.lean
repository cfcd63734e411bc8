import AndroidTether.Lib.KeyMap

namespace AndroidTether

open KeyMap

/-!
# The host's routing table and dynamic store

Steps 7 and 8 of `run_session` set up networking by shell commands, `restore_network_state`
undoes them.  The routing table maps prefixes to gateways, the dynamic store of configd maps
keys to dictionaries; `route` and `scutil` edit them.

* `setUpNetworking`, `restoreNetworkState` — the commands, in order;
* `restoresNetwork_iff` — a session gives table and store back exactly when the entries it
  deletes at the end were absent at the start.
-/

/-- A dictionary built by `d.add`: the entries, with their text. -/
abbrev Dict := List (String × String)

/-- What a session does to the host.  Commands that touch neither the table nor the store
    (flushing caches, configuring the interface) are left out. -/
inductive HostCmd where
  /-- `route add -net P G`, `route delete -net P` -/
  | route (e : Edit String String)
  /-- `scutil`: `set K`, `remove K` -/
  | scutil (e : Edit String Dict)
  /-- `scutil`: `show K`, with the output in `DNS_BACKUP_FILE` -/
  | backup (k : String)
  /-- `unlink(DNS_BACKUP_FILE)` -/
  | unlinkBackup
  deriving DecidableEq, Repr

/-- The host: routing table, dynamic store and the contents of `DNS_BACKUP_FILE`, if it
    exists. -/
structure Host where
  routes : String → Option String
  store : String → Option Dict
  dnsBackup : Option (Option Dict)

/-- One command. -/
def HostCmd.exec (h : Host) : HostCmd → Host
  | route e => { h with routes := e.apply h.routes }
  | scutil e => { h with store := e.apply h.store }
  | backup k => { h with dnsBackup := some (h.store k) }
  | unlinkBackup => { h with dnsBackup := none }

/-- Commands in order. -/
def execAll (cmds : List HostCmd) (h : Host) : Host := cmds.foldl HostCmd.exec h

/-! ### `utun.c` -/

/-- The first half of the default route. -/
def lowHalf : String := "0.0.0.0/1"
/-- The second half of the default route. -/
def highHalf : String := "128.0.0.0/1"
/-- The key of the system-wide DNS configuration. -/
def globalDnsKey : String := "State:/Network/Global/DNS"
/-- `SERVICE_ID "/IPv4"` -/
def serviceIpv4Key : String := "State:/Network/Service/android-tether/IPv4"
/-- `SERVICE_ID "/Interface"` -/
def serviceInterfaceKey : String := "State:/Network/Service/android-tether/Interface"
/-- `SERVICE_ID "/DNS"` -/
def serviceDnsKey : String := "State:/Network/Service/android-tether/DNS"

/-- `utun_set_default_route` -/
def utunSetDefaultRoute (gateway : String) : List HostCmd :=
  [.route (.add lowHalf gateway), .route (.add highHalf gateway)]

/-- The value of `d.add ServerAddresses * dns1 dns2`. -/
def serverAddresses (dns1 dns2 : String) : String × String :=
  ("ServerAddresses", "* " ++ dns1 ++ " " ++ dns2)

/-- `utun_register_service` -/
def utunRegisterService (ifname ip gateway netmask dns1 dns2 : String) : List HostCmd :=
  [.scutil (.set serviceIpv4Key [("Addresses", "* " ++ ip), ("SubnetMasks", "* " ++ netmask),
      ("Router", gateway), ("InterfaceName", ifname)]),
    .scutil (.set serviceInterfaceKey [("DeviceName", ifname), ("Type", "utun")]),
    .scutil (.set serviceDnsKey [serverAddresses dns1 dns2, ("SupplementalMatchDomains", "* \"\""),
      ("SearchOrder", "# 1")])]

/-- `utun_unregister_service` -/
def utunUnregisterService : List HostCmd :=
  [.scutil (.remove serviceIpv4Key), .scutil (.remove serviceDnsKey),
    .scutil (.remove serviceInterfaceKey)]

/-- `utun_set_dns` -/
def utunSetDns (dns1 dns2 : String) : List HostCmd :=
  [.backup globalDnsKey, .scutil (.set globalDnsKey [serverAddresses dns1 dns2])]

/-- `utun_restore_dns`: the backup is deleted, not read. -/
def utunRestoreDns : List HostCmd := [.scutil (.remove globalDnsKey), .unlinkBackup]

/-! ### A session -/

/-- `no_route` and `no_dns`, which `main` also keeps in `g_no_route` and `g_no_dns`. -/
structure NetFlags where
  noRoute : Bool
  noDns : Bool
  deriving DecidableEq, Repr

/-- The addresses of a session. -/
structure SessionAddrs where
  ifname : String
  ip : String
  gateway : String
  netmask : String
  dns1 : String
  dns2 : String
  deriving DecidableEq, Repr

/-- Steps 7 and 8 of `run_session`. -/
def setUpNetworking (c : NetFlags) (a : SessionAddrs) : List HostCmd :=
  (if !c.noDns then
    utunSetDns a.dns1 a.dns2 ++
      utunRegisterService a.ifname a.ip a.gateway a.netmask a.dns1 a.dns2
  else if !c.noRoute then utunRegisterService a.ifname a.ip a.gateway a.netmask "" ""
  else []) ++
  if !c.noRoute then utunSetDefaultRoute a.gateway else []

/-- `restore_network_state`, with `g_network_bound` given. -/
def restoreNetworkState (networkBound : Bool) (c : NetFlags) : List HostCmd :=
  if !networkBound then []
  else
    (if !c.noRoute then [.route (.remove lowHalf), .route (.remove highHalf)] else []) ++
      utunUnregisterService ++ if !c.noDns then utunRestoreDns else []

/-- The host after a session in which the set-up commands `done` took effect; set-up ends with
    `g_network_bound = 1`. -/
def hostAfter (c : NetFlags) (done : List HostCmd) (h : Host) : Host :=
  execAll (restoreNetworkState true c) (execAll done h)

/-! ### Table and store on their own -/

/-- The edit a command makes to the routing table. -/
def HostCmd.routeEdit? : HostCmd → Option (Edit String String)
  | route e => some e
  | _ => none

/-- The edit a command makes to the store. -/
def HostCmd.storeEdit? : HostCmd → Option (Edit String Dict)
  | scutil e => some e
  | _ => none

/-- Commands change the routing table by their edits of it. -/
theorem execAll_routes (cmds : List HostCmd) (h : Host) :
    (execAll cmds h).routes = applyAll (cmds.filterMap HostCmd.routeEdit?) h.routes := by
  induction cmds generalizing h with
  | nil => rfl
  | cons c cmds ih =>
    rw [execAll, List.foldl_cons, ← execAll, ih]
    cases c <;> rfl

/-- They change the store by their edits of it. -/
theorem execAll_store (cmds : List HostCmd) (h : Host) :
    (execAll cmds h).store = applyAll (cmds.filterMap HostCmd.storeEdit?) h.store := by
  induction cmds generalizing h with
  | nil => rfl
  | cons c cmds ih =>
    rw [execAll, List.foldl_cons, ← execAll, ih]
    cases c <;> rfl

/-- The prefixes a session deletes at its end. -/
def deletedRoutes (c : NetFlags) : List String := if c.noRoute then [] else [lowHalf, highHalf]

/-- The keys a session removes at its end. -/
def removedKeys (c : NetFlags) : List String :=
  [serviceIpv4Key, serviceDnsKey, serviceInterfaceKey] ++ if c.noDns then [] else [globalDnsKey]

/-- The restore only deletes routes. -/
theorem restoreNetworkState_routes (c : NetFlags) :
    (restoreNetworkState true c).filterMap HostCmd.routeEdit? =
      (deletedRoutes c).map Edit.remove := by
  rcases c with ⟨noRoute, noDns⟩
  cases noRoute <;> cases noDns <;> rfl

/-- It only removes keys. -/
theorem restoreNetworkState_store (c : NetFlags) :
    (restoreNetworkState true c).filterMap HostCmd.storeEdit? = (removedKeys c).map Edit.remove := by
  rcases c with ⟨noRoute, noDns⟩
  cases noRoute <;> cases noDns <;> rfl

/-- Set-up only writes what a session deletes again. -/
theorem setUpNetworking_keys (c : NetFlags) (a : SessionAddrs) {cmd : HostCmd}
    (hcmd : cmd ∈ setUpNetworking c a) :
    (∀ e, cmd.routeEdit? = some e → e.key ∈ deletedRoutes c) ∧
      ∀ e, cmd.storeEdit? = some e → e.key ∈ removedKeys c := by
  rcases c with ⟨noRoute, noDns⟩
  cases noRoute <;> cases noDns <;>
    simp [setUpNetworking, utunSetDns, utunRegisterService, utunSetDefaultRoute] at hcmd <;>
    rcases hcmd with rfl | rfl | rfl | rfl | rfl | rfl | rfl <;>
    simp [HostCmd.routeEdit?, HostCmd.storeEdit?, Edit.key, deletedRoutes, removedKeys]

/-- **What a session leaves behind.**  With the service's own keys absent at the start, and
    whichever set-up commands took effect, routing table and store at the end of a session
    are those at its start if and only if the session set no routes or neither half of the
    default route was there, and it set no DNS servers or there was no global DNS entry. -/
theorem restoresNetwork_iff (c : NetFlags) (a : SessionAddrs) (done : List HostCmd) (h : Host)
    (hdone : done.Sublist (setUpNetworking c a))
    (hservice : ∀ k ∈ [serviceIpv4Key, serviceDnsKey, serviceInterfaceKey], h.store k = none) :
    (hostAfter c done h).routes = h.routes ∧ (hostAfter c done h).store = h.store ↔
      (c.noRoute = true ∨ (h.routes lowHalf = none ∧ h.routes highHalf = none)) ∧
        (c.noDns = true ∨ h.store globalDnsKey = none) := by
  have hroutes : (hostAfter c done h).routes = h.routes ↔
      ∀ p ∈ deletedRoutes c, h.routes p = none := by
    -- what set-up adds to the table, the end of the session deletes, and nothing else
    rw [hostAfter, execAll_routes, execAll_routes, restoreNetworkState_routes]
    refine undo_by_removal_iff fun e he => ?_
    obtain ⟨cmd, hcmd, hedit⟩ := List.mem_filterMap.mp he
    exact (setUpNetworking_keys c a (hdone.subset hcmd)).1 e hedit
  have hstore : (hostAfter c done h).store = h.store ↔ ∀ k ∈ removedKeys c, h.store k = none := by
    rw [hostAfter, execAll_store, execAll_store, restoreNetworkState_store]
    refine undo_by_removal_iff fun e he => ?_
    obtain ⟨cmd, hcmd, hedit⟩ := List.mem_filterMap.mp he
    exact (setUpNetworking_keys c a (hdone.subset hcmd)).2 e hedit
  rw [hroutes, hstore]
  apply and_congr
  · cases hc : c.noRoute <;> simp [deletedRoutes, hc]
  · rw [removedKeys, List.forall_mem_append]
    cases hc : c.noDns <;> simp_all

/-- A host on a wireless network, with a route to an office: nothing that a session deletes. -/
def wifiHost : Host :=
  { routes := fun p =>
      if p = "default" then some "192.168.1.1"
      else if p = "10.0.0.0/8" then some "192.168.1.254"
      else none
    store := fun k =>
      if k = "State:/Network/Service/Wi-Fi/IPv4" then some [("Router", "192.168.1.1")]
      else if k = "State:/Network/Service/Wi-Fi/DNS" then some [serverAddresses "192.168.1.1" ""]
      else none
    dnsBackup := none }

/-- The addresses of a lease without any option. -/
def defaultAddrs : SessionAddrs :=
  ⟨"utun5", "192.168.42.100", "192.168.42.129", "255.255.255.0", "8.8.8.8", "8.8.4.4"⟩

/-- A full session leaves such a host as it was. -/
theorem restoresNetwork_wifiHost :
    (hostAfter ⟨false, false⟩ (setUpNetworking ⟨false, false⟩ defaultAddrs) wifiHost).routes =
        wifiHost.routes ∧
      (hostAfter ⟨false, false⟩ (setUpNetworking ⟨false, false⟩ defaultAddrs) wifiHost).store =
        wifiHost.store :=
  (restoresNetwork_iff ⟨false, false⟩ defaultAddrs _ wifiHost (List.Sublist.refl _)
    (by decide)).mpr ⟨.inr (by decide), .inr (by decide)⟩

/-- A host whose traffic goes through a VPN by two half-routes, with a global DNS entry. -/
def vpnHost : Host :=
  { routes := fun p => if p = lowHalf ∨ p = highHalf then some "10.8.0.1" else none
    store := fun k => if k = globalDnsKey then some [serverAddresses "10.8.0.1" "10.8.0.2"] else none
    dnsBackup := none }

/-- A session on such a host deletes the half-routes of the VPN, which it had not added, and
    the DNS entry, which it had overwritten. -/
theorem not_restoresNetwork :
    ¬ ∀ (c : NetFlags) (a : SessionAddrs) (h : Host),
      (∀ k ∈ [serviceIpv4Key, serviceDnsKey, serviceInterfaceKey], h.store k = none) →
        (hostAfter c (setUpNetworking c a) h).routes = h.routes ∧
          (hostAfter c (setUpNetworking c a) h).store = h.store := by
  intro hall
  have hroutes := (hall ⟨false, false⟩ defaultAddrs vpnHost (by decide)).1
  have hlow : (hostAfter ⟨false, false⟩ (setUpNetworking ⟨false, false⟩ defaultAddrs)
      vpnHost).routes lowHalf = none := by decide
  rw [hroutes] at hlow
  exact absurd hlow (by decide)

end AndroidTether
