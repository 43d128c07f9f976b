import LightingNet.Rdm.Uid
import Mathlib.Data.Set.Insert
import Mathlib.Tactic.Tauto
/-!
# Whom an identifier reaches

The broadcast reaches all identifiers, a vendorcast those of its manufacturer, and any other one itself.
Two identifiers hit each other when some identifier is reached by both.
-/
namespace LightingNet.Rdm.Uid

def reach (u : Uid) : Set Uid :=
  if u = broadcast then Set.univ
  else if u = vendorcast u.manufacturer then {v | v.manufacturer = u.manufacturer}
  else {u}

variable {m : UInt16} {u v : Uid}

theorem isBroadcast_iff : u.isBroadcast ↔ u = broadcast := beq_iff_eq

theorem eq_vendorcast_iff : u = vendorcast m ↔ u.manufacturer = m ∧ u.device = 0xffffffff := by
  obtain ⟨manufacturer, device⟩ := u
  simp [vendorcast]

theorem isVendorcast_iff :
    u.isVendorcast ↔ u = vendorcast u.manufacturer ∧ u ≠ broadcast := by
  simp [isVendorcast, isBroadcast, eq_vendorcast_iff]

theorem vendorcast_eq_broadcast_iff : vendorcast m = broadcast ↔ m = 0xffff := by
  simp [vendorcast, broadcast]

theorem mem_reach_iff :
    v ∈ u.reach ↔ u = broadcast ∨ u = vendorcast v.manufacturer ∨ u = v := by
  rw [reach]
  split_ifs with hall hvendor
  · exact iff_of_true (Set.mem_univ v) (.inl hall)
  · constructor
    · intro hsame
      exact .inr (.inl (by rwa [show v.manufacturer = u.manufacturer from hsame]))
    · rintro (h | h | rfl)
      · exact absurd h hall
      · exact (eq_vendorcast_iff.mp h).1.symm
      · rfl
  · constructor
    · intro hself
      exact .inr (.inr (Set.mem_singleton_iff.mp hself).symm)
    · rintro (h | h | rfl)
      · exact absurd h hall
      · exact absurd (eq_vendorcast_iff.mpr ⟨rfl, (eq_vendorcast_iff.mp h).2⟩) hvendor
      · exact Set.mem_singleton u

private theorem mem_reach_self (u : Uid) : u ∈ u.reach := mem_reach_iff.mpr (.inr (.inr rfl))

/-- Two reaches meet when one of the two identifiers is in the reach of the other. -/
theorem reach_meets_iff : (u.reach ∩ v.reach).Nonempty ↔ v ∈ u.reach ∨ u ∈ v.reach := by
  constructor
  · rintro ⟨w, hu, hv⟩
    rcases mem_reach_iff.mp hu with hall | hvendor | rfl
    · exact .inl (mem_reach_iff.mpr (.inl hall))
    · rcases mem_reach_iff.mp hv with hall | hvendor' | rfl
      · exact .inr (mem_reach_iff.mpr (.inl hall))
      · exact .inl (mem_reach_iff.mpr (.inr (.inr (hvendor.trans hvendor'.symm))))
      · exact .inl hu
    · exact .inr hv
  · rintro (h | h)
    · exact ⟨v, h, v.mem_reach_self⟩
    · exact ⟨u, u.mem_reach_self, h⟩

theorem hits_iff : u.hits v ↔ v ∈ u.reach ∨ u ∈ v.reach := by
  rw [hits, mem_reach_iff, mem_reach_iff]
  split_ifs with hshort
  · simp only [Bool.or_eq_true, beq_iff_eq, isBroadcast_iff] at hshort
    exact iff_of_true rfl (by tauto)
  · simp only [Bool.or_eq_true, beq_iff_eq, isBroadcast_iff, not_or] at hshort
    obtain ⟨⟨hne, hu⟩, hv⟩ := hshort
    -- Neither is the broadcast now, so the device number alone makes a vendorcast.
    simp only [Bool.and_eq_true, beq_iff_eq, Bool.or_eq_true, isVendorcast_iff, hne, Ne.symm hne,
      hu, hv, eq_vendorcast_iff, false_or, or_false, ne_eq, not_false_eq_true, and_true, true_and,
      and_or_left, eq_comm (a := v.manufacturer)]

private theorem hits_iff_reach_meets : u.hits v ↔ (u.reach ∩ v.reach).Nonempty := by
  rw [hits_iff, reach_meets_iff]

private theorem hits_refl (u : Uid) : u.hits u := hits_iff.mpr (.inl u.mem_reach_self)

private theorem hits_comm (u v : Uid) : u.hits v = v.hits u := by
  rw [Bool.eq_iff_iff, hits_iff_reach_meets, hits_iff_reach_meets, Set.inter_comm]

private theorem broadcast_hits (u : Uid) : broadcast.hits u :=
  hits_iff.mpr (.inl (mem_reach_iff.mpr (.inl rfl)))

theorem vendorcast_hits_iff (hm : m ≠ 0xffff) (hu : u ≠ broadcast) :
    (vendorcast m).hits u ↔ u.manufacturer = m := by
  have hvendor : vendorcast m ≠ broadcast := fun h => hm (vendorcast_eq_broadcast_iff.mp h)
  rw [hits_iff, mem_reach_iff, mem_reach_iff]
  constructor
  · rintro ((h | h | rfl) | (h | rfl | rfl))
    · exact absurd h hvendor
    · exact (congrArg manufacturer h).symm
    · rfl
    · exact absurd h hu
    · rfl
    · rfl
  · rintro rfl
    exact .inl (.inr (.inl rfl))

private theorem reach_of_single (hbroadcast : ¬u.isBroadcast) (hvendorcast : ¬u.isVendorcast) :
    u.reach = {u} := by
  have hne : u ≠ broadcast := fun h => hbroadcast (isBroadcast_iff.mpr h)
  have hown : u ≠ vendorcast u.manufacturer := fun h => hvendorcast (isVendorcast_iff.mpr ⟨h, hne⟩)
  rw [reach, if_neg hne, if_neg hown]

/-- Identifiers hit each other just when they reach an identifier in common. So each one hits itself and
those that hit it. A vendorcast hits the identifiers of its manufacturer, as the broadcast hits all, and
those that address one device hit that one only. -/
theorem hits_common_reach (u v : Uid) :
    (u.hits v ↔ (u.reach ∩ v.reach).Nonempty) ∧ u.hits u ∧ u.hits v = v.hits u ∧
      (∀ m, m ≠ 0xffff → ¬u.isBroadcast → ((vendorcast m).hits u ↔ u.manufacturer = m)) ∧
      vendorcast 0xffff = broadcast ∧ broadcast.hits u ∧
      (¬u.isBroadcast → ¬u.isVendorcast → ¬v.isBroadcast → ¬v.isVendorcast →
        (u.hits v ↔ u = v)) := by
  refine ⟨hits_iff_reach_meets, u.hits_refl, hits_comm u v, ?_, rfl, u.broadcast_hits, ?_⟩
  · intro m hm hu
    exact vendorcast_hits_iff hm fun h => hu (isBroadcast_iff.mpr h)
  · intro hu hu' hv hv'
    rw [hits_iff_reach_meets, reach_of_single hu hu', reach_of_single hv hv',
      Set.singleton_inter_nonempty, Set.mem_singleton_iff]

/-- Two devices of one manufacturer are hit by its vendorcast, by no other one, and not by each other. -/
theorem hits_common_reach_vendors :
    let u : Uid := ⟨0x4c55, 9⟩
    let v : Uid := ⟨0x4c55, 10⟩
    (vendorcast 0x4c55).hits u ∧ ¬(vendorcast 0x4c56).hits u ∧ ¬u.hits v ∧
      (vendorcast 0x4c55).hits v := by
  intro u v
  obtain ⟨-, -, -, hvendors, -, -, hsingle⟩ := hits_common_reach u v
  have hown := (hvendors 0x4c55 (by decide) (by decide)).mpr rfl
  have hother := (hvendors 0x4c56 (by decide) (by decide)).not.mpr (by decide)
  have hdevices := (hsingle (by decide) (by decide) (by decide) (by decide)).not.mpr (by decide)
  exact ⟨hown, hother, hdevices,
    ((hits_common_reach v u).2.2.2.1 0x4c55 (by decide) (by decide)).mpr rfl⟩

end LightingNet.Rdm.Uid
