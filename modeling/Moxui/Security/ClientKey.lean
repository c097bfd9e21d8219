import Moxui.Security.RateLimiter

set_option autoImplicit false

namespace Moxui.Security

def IpAddr.isV4 : IpAddr → Bool
  | v4 _ _ _ _ => true
  | v6 _ => false

def portBytes (port : UInt16) : UInt8 × UInt8 :=
  ((port >>> 8).toUInt8, port.toUInt8)

-- The octets of the IPv6 peer are the address of the IPv4 peer, its port, the marker and zeros.
def Embedded (v4Peer v6Peer : SocketAddr) : Prop :=
  ∃ a b c d octets, v4Peer.ip = .v4 a b c d ∧ v6Peer.ip = .v6 octets ∧
    octets = #v[a, b, c, d, (portBytes v4Peer.port).1, (portBytes v4Peer.port).2, 4, 0, 0, 0, 0, 0, 0, 0, 0, 0]

-- Peers of one IPv4 address have one port, and no IPv6 address is made of an IPv4 peer.
structure KeyedByIp (one other : SocketAddr) : Prop where
  ports : one.ip.isV4 = true → one.ip = other.ip → one.port = other.port
  apart : ¬ Embedded one other
  apartBack : ¬ Embedded other one

theorem port_bytes_injective (first second : UInt16) (same : portBytes first = portBytes second) : first = second := by
  obtain ⟨high, low⟩ := Prod.mk.inj same
  have highNat := congrArg UInt8.toNat high
  have lowNat := congrArg UInt8.toNat low
  have firstBound := first.toNat_lt
  have secondBound := second.toNat_lt
  have eight : 2 ^ (8 % 16) = 256 := rfl
  simp only [UInt16.toNat_toUInt8, UInt16.toNat_shiftRight, UInt16.reduceToNat, Nat.shiftRight_eq_div_pow,
    eight] at highNat lowNat
  apply UInt16.toNat_inj.mp
  omega

theorem v4_key_iff (a b c d a' b' c' d' : UInt8) (port port' : UInt16) :
    keyFromAddr ⟨.v4 a b c d, port⟩ = keyFromAddr ⟨.v4 a' b' c' d', port'⟩ ↔
      IpAddr.v4 a b c d = .v4 a' b' c' d' ∧ port = port' := by
  constructor
  · intro same
    have bytes := congrArg Vector.toList same
    simp only [keyFromAddr, Vector.toList_mk, List.cons.injEq, and_true] at bytes
    obtain ⟨sameA, sameB, sameC, sameD, high, low⟩ := bytes
    refine ⟨by rw [sameA, sameB, sameC, sameD], ?_⟩
    exact port_bytes_injective port port' (Prod.ext high low)
  · intro ⟨sameIp, samePort⟩
    rw [sameIp, samePort]

theorem mixed_key_iff (a b c d : UInt8) (octets : Vector UInt8 16) (port otherPort : UInt16) :
    keyFromAddr ⟨.v4 a b c d, port⟩ = keyFromAddr ⟨.v6 octets, otherPort⟩ ↔
      Embedded ⟨.v4 a b c d, port⟩ ⟨.v6 octets, otherPort⟩ := by
  constructor
  · intro same
    exact ⟨a, b, c, d, octets, rfl, rfl, same.symm⟩
  · intro ⟨_, _, _, _, _, isV4, isV6, packed⟩
    cases isV4
    cases isV6
    exact packed.symm

theorem not_embedded_of_v6 (octets : Vector UInt8 16) (port : UInt16) (other : SocketAddr) :
    ¬ Embedded ⟨.v6 octets, port⟩ other := by
  intro ⟨_, _, _, _, _, isV4, _⟩
  cases isV4

theorem not_embedded_in_v4 (a b c d : UInt8) (port : UInt16) (other : SocketAddr) :
    ¬ Embedded other ⟨.v4 a b c d, port⟩ := by
  intro ⟨_, _, _, _, _, _, isV6, _⟩
  cases isV6

theorem keyed_by_ip_symm (one other : SocketAddr) (keyed : KeyedByIp one other) : KeyedByIp other one where
  ports isV4 same := (keyed.ports (by rw [← same, isV4]) same.symm).symm
  apart := keyed.apartBack
  apartBack := keyed.apart

theorem mixed_key_same_ip_iff (a b c d : UInt8) (octets : Vector UInt8 16) (port otherPort : UInt16) :
    (keyFromAddr ⟨.v4 a b c d, port⟩ = keyFromAddr ⟨.v6 octets, otherPort⟩ ↔ IpAddr.v4 a b c d = .v6 octets) ↔
      KeyedByIp ⟨.v4 a b c d, port⟩ ⟨.v6 octets, otherPort⟩ := by
  rw [mixed_key_iff]
  constructor
  · intro same
    refine ⟨(fun _ impossible => nomatch impossible), ?_, not_embedded_of_v6 octets otherPort _⟩
    intro embedded
    cases same.mp embedded
  · intro keyed
    exact iff_of_false keyed.apart (fun impossible => nomatch impossible)

theorem same_key_same_ip_iff (one other : SocketAddr) :
    (keyFromAddr one = keyFromAddr other ↔ one.ip = other.ip) ↔ KeyedByIp one other := by
  obtain ⟨ip, port⟩ := one
  obtain ⟨otherIp, otherPort⟩ := other
  cases ip with
  | v4 a b c d =>
      cases otherIp with
      | v4 a' b' c' d' =>
          rw [v4_key_iff]
          constructor
          · intro same
            exact ⟨fun _ sameIp => (same.mpr sameIp).2, not_embedded_in_v4 _ _ _ _ _ _, not_embedded_in_v4 _ _ _ _ _ _⟩
          · intro keyed
            exact ⟨And.left, fun sameIp => ⟨sameIp, keyed.ports rfl sameIp⟩⟩
      | v6 octets => exact mixed_key_same_ip_iff a b c d octets port otherPort
  | v6 octets =>
      cases otherIp with
      | v4 a b c d =>
          rw [eq_comm (a := keyFromAddr _), eq_comm (a := IpAddr.v6 octets), mixed_key_same_ip_iff]
          exact ⟨keyed_by_ip_symm _ _, keyed_by_ip_symm _ _⟩
      | v6 others =>
          refine iff_of_true ?_ ⟨(fun isV4 => nomatch isV4), not_embedded_of_v6 _ _ _, not_embedded_of_v6 _ _ _⟩
          simp [keyFromAddr]

theorem other_port_other_key :
    ¬ (keyFromAddr ⟨.v4 10 0 0 1, 8080⟩ = keyFromAddr ⟨.v4 10 0 0 1, 8081⟩ ↔
      (SocketAddr.mk (.v4 10 0 0 1) 8080).ip = (SocketAddr.mk (.v4 10 0 0 1) 8081).ip) := by
  intro same
  exact absurd (same.mpr rfl) (by decide)

end Moxui.Security
