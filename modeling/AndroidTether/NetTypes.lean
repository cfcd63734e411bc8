import AndroidTether.Lib.Bytes

namespace AndroidTether

open Bytes

/-!
# Machine integers, buffer sizes and what a packet builder returns

The constants of `net_types.h`, the two integer conversions the packet code relies on, and
`Built`: a C function that fills a caller's buffer returns an `int` and writes to the
buffer, so its model is the value returned together with the writes, in program order.
-/

/-- `(uint32_t)n`: 32-bit unsigned arithmetic wraps modulo `2 ^ 32`. -/
def u32 (n : Nat) : Nat := n % 2 ^ 32

/-- `(size_t)` of a difference: 64-bit unsigned subtraction wraps modulo `2 ^ 64`. -/
def sizeSub (a b : Nat) : Nat := (a + 2 ^ 64 - b) % 2 ^ 64

/-- `(int)n` of an unsigned value. -/
def toInt (n : Nat) : Int := Int.bmod n (2 ^ 32)

/-- A number of 32 bits is not cut. -/
theorem u32_of_lt {n : Nat} (h : n < 2 ^ 32) : u32 n = n := by
  rw [u32, Nat.mod_eq_of_lt h]

/-- `size_t` subtraction where it does not wrap. -/
theorem sizeSub_of_le {a b : Nat} (h : b ≤ a) (ha : a < 2 ^ 64) : sizeSub a b = a - b := by
  rw [sizeSub, show a + 2 ^ 64 - b = a - b + 2 ^ 64 by omega, Nat.add_mod_right,
    Nat.mod_eq_of_lt (by omega)]

/-- A number of 31 bits is not negative as an `int`. -/
theorem toInt_of_lt {n : Nat} (h : n < 2 ^ 31) : toInt n = n := by
  unfold toInt
  exact Int.bmod_eq_of_le (by omega) (by omega)

/-- A C string, without its terminator. -/
abbrev CStr := List Char

/-- `uint8_t[6]` -/
abbrev Mac := Vector UInt8 6

/-- `RNDIS_BUF_SIZE` -/
def rndisBufSize : Nat := 32768
/-- `ETH_BUF_SIZE` -/
def ethBufSize : Nat := 2048
/-- `sizeof(eth_hdr_t)` -/
def sizeofEthHdr : Nat := 14
/-- `DHCP_SERVER_PORT` -/
def dhcpServerPort : Nat := 67
/-- `DHCP_CLIENT_PORT` -/
def dhcpClientPort : Nat := 68
/-- `DHCP_MAGIC_COOKIE` -/
def dhcpMagicCookie : Nat := 0x63825363

/-- `DEFAULT_STATIC_IP` -/
def defaultStaticIp : CStr := "192.168.42.100".toList
/-- `DEFAULT_GATEWAY` -/
def defaultGateway : CStr := "192.168.42.129".toList
/-- `DEFAULT_NETMASK` -/
def defaultNetmask : CStr := "255.255.255.0".toList
/-- `DEFAULT_DNS1` -/
def defaultDns1 : CStr := "8.8.8.8".toList
/-- `DEFAULT_DNS2` -/
def defaultDns2 : CStr := "8.8.4.4".toList

/-- What a packet builder did: the `int` it returned and its writes, at positions relative
    to the start of the buffer it was given. -/
structure Built where
  ret : Int
  stores : List Store

/-- `return -1;` before anything was written. -/
def Built.fail : Built := ⟨-1, []⟩

/-- The packet: the first `ret` bytes of a buffer that held `m` before the call. -/
def Built.packet (b : Built) (m : Mem) : List UInt8 := slice (storeAll m b.stores) 0 b.ret.toNat

@[simp] theorem Built.packet_length (b : Built) (m : Mem) : (b.packet m).length = b.ret.toNat :=
  slice_length _ _ _

end AndroidTether
