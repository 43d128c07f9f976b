import LightingNet.Snapshot
import Mathlib.Logic.Function.Basic
/-!
# What ranks tell apart

Universes and device identifiers with one rank are the same. The rank of a node address leaves the
socket out: it tells nodes apart by their root and bind index, and outputs by their node and universe.
-/
namespace LightingNet

theorem Rdm.Uid.rank_injective : Function.Injective Rdm.Uid.rank := by
  rintro ⟨m, d⟩ ⟨m', d'⟩ h
  have hd := d.toNat_lt
  have hd' := d'.toNat_lt
  simp only [rank] at h
  rw [UInt16.toNat_inj.mp (show m.toNat = m'.toNat by omega),
    UInt32.toNat_inj.mp (show d.toNat = d'.toNat by omega)]

theorem Rdm.Uid.rank_lt_rank_iff (u v : Uid) :
    u.rank < v.rank ↔
      u.manufacturer < v.manufacturer ∨ u.manufacturer = v.manufacturer ∧ u.device < v.device := by
  have hu := u.device.toNat_lt
  have hv := v.device.toNat_lt
  rw [UInt16.lt_iff_toNat_lt, UInt32.lt_iff_toNat_lt, ← UInt16.toNat_inj, rank, rank]
  omega

theorem Ipv4.rank_injective : Function.Injective Ipv4.rank := by
  rintro ⟨bits⟩ ⟨bits'⟩ h
  rw [UInt32.toNat_inj.mp (show bits.toNat = bits'.toNat from h)]

theorem Ipv4Socket.rank_injective : Function.Injective Ipv4Socket.rank := by
  rintro ⟨ip, port⟩ ⟨ip', port'⟩ h
  have hp := port.toNat_lt
  have hp' := port'.toNat_lt
  simp only [rank] at h
  have hip : ip = ip' := Ipv4.rank_injective (by omega)
  rw [hip, UInt16.toNat_inj.mp (show port.toNat = port'.toNat by omega)]

theorem PortAddress.rank_injective : Function.Injective PortAddress.rank := by
  rintro ⟨net, subnet, uni⟩ ⟨net', subnet', uni'⟩ h
  have hs := subnet.toNat_lt
  have hs' := subnet'.toNat_lt
  have hu := uni.toNat_lt
  have hu' := uni'.toNat_lt
  simp only [rank] at h
  rw [UInt8.toNat_inj.mp (show net.toNat = net'.toNat by omega),
    UInt8.toNat_inj.mp (show subnet.toNat = subnet'.toNat by omega),
    UInt8.toNat_inj.mp (show uni.toNat = uni'.toNat by omega)]

theorem PortAddress.rank_lt (p : PortAddress) : p.rank < 16777216 := by
  have hn := p.net.toNat_lt
  have hs := p.subnet.toNat_lt
  have hu := p.uni.toNat_lt
  simp only [rank]
  omega

namespace NodeAddress

theorem same_iff_rank (a b : NodeAddress) : a.same b = true ↔ a.rank = b.rank := by
  rw [same, beq_iff_eq]

theorem same_iff (a b : NodeAddress) :
    a.same b = true ↔ a.root = b.root ∧ a.bindIndex = b.bindIndex := by
  have hb := a.bindIndex.toNat_lt
  have hb' := b.bindIndex.toNat_lt
  rw [same_iff_rank]
  constructor
  · intro h
    simp only [rank, Ipv4.rank] at h
    have hroot : a.root.bits = b.root.bits := UInt32.toNat_inj.mp (by omega)
    refine ⟨?_, UInt8.toNat_inj.mp (by omega)⟩
    rw [show a.root = ⟨a.root.bits⟩ from rfl, hroot]
  · rintro ⟨hroot, hbind⟩
    rw [rank, rank, hroot, hbind]

theorem same_refl (a : NodeAddress) : a.same a = true := by
  rw [same_iff_rank]

theorem same_symm {a b : NodeAddress} (h : a.same b = true) : b.same a = true := by
  rw [same_iff_rank] at h ⊢
  exact h.symm

theorem same_trans {a b c : NodeAddress} (h : a.same b = true) (h' : b.same c = true) :
    a.same c = true := by
  rw [same_iff_rank] at h h' ⊢
  exact h.trans h'

theorem same_congr {a b : NodeAddress} (h : a.same b = true) (c : NodeAddress) :
    c.same a = true ↔ c.same b = true :=
  ⟨fun hc => same_trans hc h, fun hc => same_trans hc (same_symm h)⟩

theorem rank_lt (a : NodeAddress) : a.rank < 1099511627776 := by
  have hroot := a.root.bits.toNat_lt
  have hbind := a.bindIndex.toNat_lt
  simp only [rank, Ipv4.rank]
  omega

theorem rank_lt_rank_iff (a b : NodeAddress) :
    a.rank < b.rank ↔
      a.root.rank < b.root.rank ∨ a.root = b.root ∧ a.bindIndex < b.bindIndex := by
  have hb := a.bindIndex.toNat_lt
  have hb' := b.bindIndex.toNat_lt
  rw [← Ipv4.rank_injective.eq_iff, UInt8.lt_iff_toNat_lt]
  simp only [rank]
  omega

end NodeAddress

theorem OutputAddress.rank_eq_iff (a b : OutputAddress) :
    a.rank = b.rank ↔ a.node.same b.node = true ∧ a.port = b.port := by
  have hp := a.port.rank_lt
  have hp' := b.port.rank_lt
  rw [NodeAddress.same_iff_rank, ← PortAddress.rank_injective.eq_iff, rank, rank]
  omega

end LightingNet
