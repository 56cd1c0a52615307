import Mathlib

/-!
# IP addresses

Addresses of both versions, networks as a base with a prefix length, and the properties that the
special-purpose registries give an address.  An IPv6 address that carries an IPv4 address has the
properties of the address it carries.
-/

namespace Lib

/-- The network of all `w`-bit addresses that share the first `len` bits with `base`. -/
structure Network (w : ℕ) where
  base : ℕ
  len : ℕ

/-- The address lies in the network. -/
def Network.has {w : ℕ} (network : Network w) (n : BitVec w) : Bool :=
  n.toNat / 2 ^ (w - network.len) = network.base / 2 ^ (w - network.len)

/-- The network of four octets. -/
def octets (a b c d len : ℕ) : Network 32 := ⟨((a * 256 + b) * 256 + c) * 256 + d, len⟩

/-- The network whose first four groups of 16 bits are these, and whose last group is `last`. -/
def groups (a b c d last len : ℕ) : Network 128 :=
  ⟨(((a * 65536 + b) * 65536 + c) * 65536 + d) * 2 ^ 64 + last, len⟩

inductive IPAddress
  | v4 (n : BitVec 32)
  | v6 (n : BitVec 128)
deriving DecidableEq, Repr

/-! ## IPv4 -/

namespace IPv4

/-- Shared address space. -/
def sharedNetwork : Network 32 := octets 100 64 0 0 10

def privateNetworks : List (Network 32) := [
  octets 0 0 0 0 8, octets 10 0 0 0 8, octets 127 0 0 0 8, octets 169 254 0 0 16,
  octets 172 16 0 0 12, octets 192 0 0 0 24, octets 192 0 0 170 31, octets 192 0 2 0 24,
  octets 192 168 0 0 16, octets 198 18 0 0 15, octets 198 51 100 0 24, octets 203 0 113 0 24,
  octets 240 0 0 0 4, octets 255 255 255 255 32]

def privateExceptions : List (Network 32) := [octets 192 0 0 9 32, octets 192 0 0 10 32]

def isPrivate (n : BitVec 32) : Bool :=
  privateNetworks.any (·.has n) && privateExceptions.all (!·.has n)

def isGlobal (n : BitVec 32) : Bool := !sharedNetwork.has n && !isPrivate n

def isMulticast (n : BitVec 32) : Bool := (octets 224 0 0 0 4).has n

end IPv4

/-! ## IPv6 -/

namespace IPv6

/-- The IPv4 address in `::ffff:0:0/96`. -/
def mapped (n : BitVec 128) : Option (BitVec 32) :=
  if n.toNat / 2 ^ 32 = 0xffff then some (n.setWidth 32) else none

def privateNetworks : List (Network 128) := [
  groups 0 0 0 0 1 128, groups 0 0 0 0 0 128, groups 0 0 0 0 0xffff00000000 96,
  groups 0x64 0xff9b 1 0 0 48, groups 0x100 0 0 0 0 64, groups 0x2001 0 0 0 0 23,
  groups 0x2001 0xdb8 0 0 0 32, groups 0x2002 0 0 0 0 16, groups 0x3fff 0 0 0 0 20,
  groups 0xfc00 0 0 0 0 7, groups 0xfe80 0 0 0 0 10]

def privateExceptions : List (Network 128) := [
  groups 0x2001 1 0 0 1 128, groups 0x2001 1 0 0 2 128, groups 0x2001 3 0 0 0 32,
  groups 0x2001 4 0x112 0 0 48, groups 0x2001 0x20 0 0 0 28, groups 0x2001 0x30 0 0 0 28]

def isPrivate (n : BitVec 128) : Bool :=
  privateNetworks.any (·.has n) && privateExceptions.all (!·.has n)

end IPv6

namespace IPAddress

/-- The IPv4 address that an address is or carries. -/
def ipv4 : IPAddress → Option (BitVec 32)
  | v4 n => some n
  | v6 n => IPv6.mapped n

/-- `is_multicast` -/
def isMulticast : IPAddress → Bool
  | v4 n => IPv4.isMulticast n
  | v6 n => (IPv6.mapped n).elim ((groups 0xff00 0 0 0 0 8).has n) IPv4.isMulticast

/-- `is_unspecified` -/
def isUnspecified : IPAddress → Bool
  | v4 n => n = 0
  | v6 n => (IPv6.mapped n).elim (decide (n = 0)) fun m => m = 0

/-- `is_global` -/
def isGlobal : IPAddress → Bool
  | v4 n => IPv4.isGlobal n
  | v6 n => (IPv6.mapped n).elim (!IPv6.isPrivate n) IPv4.isGlobal

/-- A global address is not in the shared address space, nor does it carry one that is. -/
lemma not_shared_of_isGlobal {ip : IPAddress} (h : ip.isGlobal = true) {n : BitVec 32}
    (hn : ip.ipv4 = some n) : IPv4.sharedNetwork.has n = false := by
  have hglobal : IPv4.isGlobal n = true := by
    cases ip with
    | v4 m =>
      obtain rfl := Option.some.inj hn
      exact h
    | v6 m =>
      have hmapped : IPv6.mapped m = some n := hn
      rw [isGlobal, hmapped] at h
      exact h
  rw [IPv4.isGlobal, Bool.and_eq_true, Bool.not_eq_true'] at hglobal
  exact hglobal.1

/-- The loopback address, a cloud's metadata service, and addresses that are routed. -/
example : (v4 0x7f000001).isGlobal = false ∧ (v4 0xa9fea9fe).isGlobal = false ∧
    (v4 0x08080808).isGlobal = true ∧ (v6 0xffff7f000001).isGlobal = false := by
  decide

end IPAddress

end Lib
