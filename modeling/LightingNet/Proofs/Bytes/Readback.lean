import LightingNet.Address.Ipv4
import LightingNet.Rdm.Uid
/-!
# Reading back what was written

A reader undoes a writer when it gives back each written value and leaves alone what follows. A
reader of several fields then goes through what several writers wrote, one field after the other.
-/
namespace LightingNet

namespace Reader

variable {α β : Type}

theorem bind_apply (r : Reader α) (f : α → Reader β) (b : Bytes) :
    (r >>= f) b = (r b).bind fun p => f p.1 p.2 := rfl

theorem pure_apply (x : β) (b : Bytes) : (pure x : Reader β) b = some (x, b) := rfl

theorem bind_remaining (f : Bytes → Reader β) (b : Bytes) : (remaining >>= f) b = f b [] := rfl

end Reader

/-- A reader gives back what a writer wrote, whatever stands behind it. -/
def Undoes {α : Type} (r : Reader α) (w : α → Bytes) : Prop :=
  ∀ x rest, r (w x ++ rest) = some (x, rest)

namespace Undoes

variable {α β : Type} {r : Reader α} {w : α → Bytes}

theorem bind (h : Undoes r w) (f : α → Reader β) (x : α) (rest : Bytes) :
    (r >>= f) (w x ++ rest) = f x rest := by
  rw [Reader.bind_apply, h x rest]
  rfl

theorem of_eq_some (h : Undoes r w) {lenient : Reader α}
    (hl : ∀ c p, r c = some p → lenient c = some p) : Undoes lenient w :=
  fun x rest => hl _ _ (h x rest)

end Undoes

namespace Reader

variable {β : Type}

theorem undoes_beWord : Undoes beWord be16 := beWord_be16

theorem undoes_leWord : Undoes leWord le16 := leWord_le16

theorem undoes_beDouble : Undoes beDouble be32 := beDouble_be32

theorem undoes_octets (n : Nat) : Undoes (octets n) Vector.toList := octets_append

theorem undoes_uid : Undoes uid Rdm.Uid.bytes := by
  intro u rest
  rw [uid, Rdm.Uid.bytes, List.append_assoc, undoes_beWord.bind, undoes_beDouble.bind]
  rfl

theorem undoes_ipv4 : Undoes ipv4 Ipv4.numbers := by
  intro ip rest
  rw [ipv4, Ipv4.numbers, undoes_beDouble.bind]
  rfl

theorem undoes_beWordOrZero : Undoes beWordOrZero be16 := by
  apply undoes_beWord.of_eq_some
  intro c p h
  rcases c with _ | ⟨hi, _ | ⟨lo, rest⟩⟩
  · cases h
  · cases h
  · exact h

theorem undoes_octetsOrZero (n : Nat) : Undoes (octetsOrZero n) Vector.toList := by
  apply (undoes_octets n).of_eq_some
  intro c p h
  rw [octetsOrZero, h]

theorem undoes_uidOrZero : Undoes uidOrZero Rdm.Uid.bytes := by
  apply undoes_uid.of_eq_some
  intro c p h
  rw [uidOrZero, h]

theorem undoes_ipv4OrZero : Undoes ipv4OrZero Ipv4.numbers := by
  have hd : Undoes beDoubleOrZero be32 := by
    apply undoes_beDouble.of_eq_some
    intro c p h
    rcases c with _ | ⟨p, _ | ⟨q, _ | ⟨r, _ | ⟨s, rest⟩⟩⟩⟩
    · cases h
    · cases h
    · cases h
    · cases h
    · exact h
  intro ip rest
  rw [ipv4OrZero, Ipv4.numbers, hd.bind]
  rfl

theorem bind_byte_cons (f : UInt8 → Reader β) (x : UInt8) (rest : Bytes) :
    (byte >>= f) (x :: rest) = f x rest := rfl

theorem bind_byteOrZero_cons (f : UInt8 → Reader β) (x : UInt8) (rest : Bytes) :
    (byteOrZero >>= f) (x :: rest) = f x rest := rfl

theorem bind_skip_append (f : Unit → Reader β) {n : Nat} {xs : Bytes} (h : xs.length = n)
    (rest : Bytes) : (skip n >>= f) (xs ++ rest) = f () rest := by
  subst h
  rw [bind_apply, skip_append]
  rfl

end Reader

end LightingNet
