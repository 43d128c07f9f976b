import LightingNet.Proofs.Bytes.Readback
import LightingNet.Simulation.Datagrams
import LightingNet.Text.Field
import LightingNet.Wire.InPlace
/-!
# Fixed places

Bytes looked at by place instead of in order. The checked accesses are `none` past the end; the
total ones of the simulation give the same value wherever the checked ones give one. A reader that
has come to a place finds there what the access of that place finds.
-/
namespace LightingNet.Places

open Simulation (byteAt wordAt uidAt)

def beWord? (b : Bytes) (i : Nat) : Option UInt16 := do
  let hi ← b[i]?
  let lo ← b[i + 1]?
  return word16 hi lo

def leWord? (b : Bytes) (i : Nat) : Option UInt16 := do
  let lo ← b[i]?
  let hi ← b[i + 1]?
  return word16 hi lo

def beDouble? (b : Bytes) (i : Nat) : Option UInt32 := do
  let p ← b[i]?
  let q ← b[i + 1]?
  let r ← b[i + 2]?
  let s ← b[i + 3]?
  return word32 p q r s

def uid? (b : Bytes) (i : Nat) : Option Rdm.Uid := do
  let manufacturer ← beWord? b i
  let device ← beDouble? b (i + 2)
  return ⟨manufacturer, device⟩

def span? (n : Nat) (b : Bytes) (i : Nat) : Option Bytes :=
  if i + n ≤ b.length then some ((b.drop i).take n) else none

def octets? (n : Nat) (b : Bytes) (i : Nat) : Option (Octets n) :=
  if h : i + n ≤ b.length then
    some ⟨((b.drop i).take n).toArray, by
      simp only [List.size_toArray, List.length_take, List.length_drop]
      omega⟩
  else none

def room? (b : Bytes) (i : Nat) : Option Nat := if i ≤ b.length then some (b.length - i) else none

/-- Fields that cover the places from `i` to `stop`, one behind the other. -/
def Adjoin (i stop : Nat) : List (Nat × Bytes) → Prop
  | [] => i = stop
  | (j, xs) :: fields => j = i ∧ Adjoin (i + xs.length) stop fields

/-- A reader that has come to a place gives what an access finds there and goes on `size` bytes
behind it. -/
def Reads {α : Type} (r : Reader α) (access : Bytes → Nat → Option α) (size : Nat) : Prop :=
  ∀ b i, r (b.drop i) = (access b i).map fun x => (x, b.drop (i + size))

section Reading

variable {α β : Type} {r : Reader α} {access : Bytes → Nat → Option α} {size : Nat}

theorem Reads.bind (h : Reads r access size) (f : α → Reader β) (b : Bytes) (i : Nat) :
    (r >>= f) (b.drop i) = (access b i).bind fun x => f x (b.drop (i + size)) := by
  rw [Reader.bind_apply, h b i, Option.bind_map]
  rfl

theorem reads_byte : Reads Reader.byte (fun b i => b[i]?) 1 := by
  intro b i
  change Reader.byte (b.drop i) = b[i]?.map _
  by_cases h : i < b.length
  · rw [List.drop_eq_getElem_cons h, List.getElem?_eq_getElem h]
    rfl
  · have hn : b.length ≤ i := by omega
    rw [List.drop_eq_nil_of_le hn, List.getElem?_eq_none hn]
    rfl

private theorem beWord_eq_bytes :
    Reader.beWord = do let hi ← Reader.byte; let lo ← Reader.byte; return word16 hi lo := by
  funext b
  rcases b with _ | ⟨hi, _ | ⟨lo, rest⟩⟩ <;> rfl

private theorem leWord_eq_bytes :
    Reader.leWord = do let lo ← Reader.byte; let hi ← Reader.byte; return word16 hi lo := by
  funext b
  rcases b with _ | ⟨lo, _ | ⟨hi, rest⟩⟩ <;> rfl

private theorem beDouble_eq_bytes :
    Reader.beDouble = do
      let p ← Reader.byte
      let q ← Reader.byte
      let r ← Reader.byte
      let s ← Reader.byte
      return word32 p q r s := by
  funext b
  rcases b with _ | ⟨p, _ | ⟨q, _ | ⟨r, _ | ⟨s, rest⟩⟩⟩⟩ <;> rfl

theorem reads_beWord : Reads Reader.beWord beWord? 2 := by
  intro b i
  rw [beWord_eq_bytes]
  simp only [reads_byte.bind, Reader.pure_apply, beWord?, Option.bind_eq_bind, Option.pure_def,
    Option.map_bind, Function.comp_def, Option.map_some, Nat.add_assoc, Nat.reduceAdd]

theorem reads_leWord : Reads Reader.leWord leWord? 2 := by
  intro b i
  rw [leWord_eq_bytes]
  simp only [reads_byte.bind, Reader.pure_apply, leWord?, Option.bind_eq_bind, Option.pure_def,
    Option.map_bind, Function.comp_def, Option.map_some, Nat.add_assoc, Nat.reduceAdd]

theorem reads_beDouble : Reads Reader.beDouble beDouble? 4 := by
  intro b i
  rw [beDouble_eq_bytes]
  simp only [reads_byte.bind, Reader.pure_apply, beDouble?, Option.bind_eq_bind, Option.pure_def,
    Option.map_bind, Function.comp_def, Option.map_some, Nat.add_assoc, Nat.reduceAdd]

theorem reads_uid : Reads Reader.uid uid? 6 := by
  intro b i
  simp only [Reader.uid, reads_beWord.bind, reads_beDouble.bind, Reader.pure_apply, uid?,
    Option.bind_eq_bind, Option.pure_def, Option.map_bind, Function.comp_def, Option.map_some,
    Nat.add_assoc, Nat.reduceAdd]

theorem reads_ipv4 : Reads Reader.ipv4 (fun b i => (beDouble? b i).map Ipv4.mk) 4 := by
  intro b i
  simp only [Reader.ipv4, reads_beDouble.bind, Reader.pure_apply, Option.map_map, Function.comp_def]
  cases beDouble? b i <;> rfl

theorem reads_span (n : Nat) (hn : 0 < n) : Reads (Reader.span n) (span? n) n := by
  intro b i
  have hlen : (b.drop i).length = b.length - i := List.length_drop
  by_cases h : i + n ≤ b.length
  · simp only [Reader.span, span?, if_pos h, if_pos (show n ≤ (b.drop i).length by omega),
      List.drop_drop, Option.map_some]
  · simp only [Reader.span, span?, if_neg h, if_neg (show ¬n ≤ (b.drop i).length by omega),
      Option.map_none]

theorem reads_text (n : Nat) (hn : 0 < n) :
    Reads (Reader.text n) (fun b i => (span? n b i).map fieldText) n := by
  intro b i
  simp only [Reader.text, (reads_span n hn).bind, Reader.pure_apply, Option.map_map,
    Function.comp_def]
  cases span? n b i <;> rfl

theorem reads_skip (n : Nat) (hn : 0 < n) :
    Reads (Reader.skip n) (fun b i => (span? n b i).map fun _ => ()) n := by
  intro b i
  have hlen : (b.drop i).length = b.length - i := List.length_drop
  by_cases h : i + n ≤ b.length
  · simp only [Reader.skip, span?, if_pos h, if_pos (show n ≤ (b.drop i).length by omega),
      List.drop_drop, Option.map_some]
  · simp only [Reader.skip, span?, if_neg h, if_neg (show ¬n ≤ (b.drop i).length by omega),
      Option.map_none]

theorem reads_octets (n : Nat) (hn : 0 < n) : Reads (Reader.octets n) (octets? n) n := by
  intro b i
  have hlen : (b.drop i).length = b.length - i := List.length_drop
  by_cases h : i + n ≤ b.length
  · simp only [Reader.octets, octets?, dif_pos h, dif_pos (show n ≤ (b.drop i).length by omega),
      List.drop_drop, Option.map_some]
  · simp only [Reader.octets, octets?, dif_neg h, dif_neg (show ¬n ≤ (b.drop i).length by omega),
      Option.map_none]

private theorem reads_orElse (h : Reads r access size) (missing : α) (lenient : Reader α)
    (hl : ∀ c, lenient c = some ((r c).getD (missing, [])))
    (hshort : ∀ b i, access b i = none → b.length ≤ i + size) :
    Reads lenient (fun b i => some ((access b i).getD missing)) size := by
  intro b i
  rw [hl, h b i]
  cases hx : access b i with
  | none =>
    simp only [hx, Option.map_none, Option.getD_none, Option.map_some,
      List.drop_eq_nil_of_le (hshort b i hx)]
  | some x => simp only [hx, Option.map_some, Option.getD_some]

theorem byteAt_eq_getElem {b : Bytes} {i : Nat} (h : i < b.length) : byteAt b i = b[i] := by
  rw [byteAt, List.getD_eq_getElem?_getD, List.getElem?_eq_getElem h, Option.getD_some]

theorem getElem?_eq_byteAt {b : Bytes} {i : Nat} (h : i < b.length) : b[i]? = some (byteAt b i) := by
  rw [byteAt_eq_getElem h, List.getElem?_eq_getElem h]

theorem beWord?_eq_wordAt {b : Bytes} {i : Nat} (h : i + 1 < b.length) :
    beWord? b i = some (wordAt b i) := by
  simp only [beWord?, getElem?_eq_byteAt (show i < b.length by omega), getElem?_eq_byteAt h]
  rfl

theorem leWord?_eq_word16 {b : Bytes} {i : Nat} (h : i + 1 < b.length) :
    leWord? b i = some (word16 (byteAt b (i + 1)) (byteAt b i)) := by
  simp only [leWord?, getElem?_eq_byteAt (show i < b.length by omega), getElem?_eq_byteAt h]
  rfl

theorem beDouble?_eq_word32 {b : Bytes} {i : Nat} (h : i + 3 < b.length) :
    beDouble? b i =
      some (word32 (byteAt b i) (byteAt b (i + 1)) (byteAt b (i + 2)) (byteAt b (i + 3))) := by
  simp only [beDouble?, getElem?_eq_byteAt (show i < b.length by omega),
    getElem?_eq_byteAt (show i + 1 < b.length by omega),
    getElem?_eq_byteAt (show i + 2 < b.length by omega), getElem?_eq_byteAt h]
  rfl

theorem uid?_eq_uidAt {b : Bytes} {i : Nat} (h : i + 5 < b.length) :
    uid? b i = some (uidAt b i) := by
  simp only [uid?, beWord?_eq_wordAt (show i + 1 < b.length by omega),
    beDouble?_eq_word32 (show i + 2 + 3 < b.length by omega)]
  rfl

theorem span?_eq_take {n : Nat} {b : Bytes} {i : Nat} (h : i + n ≤ b.length) :
    span? n b i = some ((b.drop i).take n) := if_pos h

theorem room?_eq_sub {b : Bytes} {i : Nat} (h : i ≤ b.length) : room? b i = some (b.length - i) :=
  if_pos h

theorem take_eq_map_byteAt {n : Nat} {b : Bytes} (h : n ≤ b.length) :
    b.take n = (List.range n).map (byteAt b) := by
  apply List.ext_getElem
  · simp only [List.length_take, List.length_map, List.length_range]
    omega
  · intro i hi hi'
    have hn : i < n := by simpa only [List.length_map, List.length_range] using hi'
    rw [List.getElem_take, List.getElem_map, List.getElem_range, byteAt_eq_getElem (by omega)]

theorem byteAt_append_right {done : Bytes} {i : Nat} (hi : done.length = i) (rest : Bytes)
    (k : Nat) : byteAt (done ++ rest) (i + k) = byteAt rest k := by
  subst hi
  rw [byteAt, byteAt, List.getD_eq_getElem?_getD, List.getD_eq_getElem?_getD,
    List.getElem?_append_right (Nat.le_add_right _ _), Nat.add_sub_cancel_left]

theorem wordAt_append_be16 {done : Bytes} {i : Nat} (hi : done.length = i) (w : UInt16)
    (rest : Bytes) : wordAt (done ++ (be16 w ++ rest)) i = w := by
  have hhi := byteAt_append_right hi (be16 w ++ rest) 0
  have hlo := byteAt_append_right hi (be16 w ++ rest) 1
  rw [Nat.add_zero] at hhi
  rw [wordAt, hhi, hlo]
  exact word16_of_halves w

theorem take_two_eq_be16 {b : Bytes} {i : Nat} (h : i + 1 < b.length) :
    (b.drop i).take 2 = be16 (wordAt b i) := by
  rw [List.drop_eq_getElem_cons (show i < b.length by omega), List.drop_eq_getElem_cons h, wordAt,
    be16_word16, byteAt_eq_getElem, byteAt_eq_getElem h]
  rfl

theorem byteAt_set_self {b : Bytes} {i : Nat} (h : i < b.length) (v : UInt8) :
    byteAt (b.set i v) i = v := by
  rw [byteAt, List.getD_eq_getElem?_getD, List.getElem?_set_self h, Option.getD_some]

theorem byteAt_set_ne {i j : Nat} (h : i ≠ j) (b : Bytes) (v : UInt8) :
    byteAt (b.set i v) j = byteAt b j := by
  rw [byteAt, byteAt, List.getD_eq_getElem?_getD, List.getD_eq_getElem?_getD, List.getElem?_set_ne h]

theorem byteAt_take {i n : Nat} (h : i < n) (b : Bytes) : byteAt (b.take n) i = byteAt b i := by
  rw [byteAt, byteAt, List.getD_eq_getElem?_getD, List.getD_eq_getElem?_getD,
    List.getElem?_take_of_lt h]

theorem wordAt_set_of_lt {i j : Nat} (h : i < j) (b : Bytes) (v : UInt8) :
    wordAt (b.set i v) j = wordAt b j := by
  rw [wordAt, wordAt, byteAt_set_ne (Nat.ne_of_lt h), byteAt_set_ne (by omega)]

theorem wordAt_set_ne {b : Bytes} {i j : Nat} (hi : i < b.length) (hij : i = j ∨ i = j + 1)
    {v : UInt8} (hv : v ≠ byteAt b i) : wordAt (b.set i v) j ≠ wordAt b j := by
  intro heq
  have hbytes := congrArg be16 heq
  rw [wordAt, wordAt, be16_word16, be16_word16] at hbytes
  injection hbytes with hhi hrest
  injection hrest with hlo
  rcases hij with rfl | rfl
  · rw [byteAt_set_self hi] at hhi
    exact hv hhi
  · rw [byteAt_set_self hi] at hlo
    exact hv hlo

theorem put?_next {done : Bytes} {i : Nat} (hi : done.length = i) (b xs : Bytes)
    (h : i + xs.length ≤ b.length) :
    put? (done ++ b.drop i) i xs = some ((done ++ xs) ++ b.drop (i + xs.length)) := by
  subst hi
  have hfits : done.length + xs.length ≤ (done ++ b.drop done.length).length := by
    simp only [List.length_append, List.length_drop]
    omega
  rw [put?, if_pos hfits, List.take_left' rfl, List.drop_append, List.drop_drop]
  congr 2
  rw [List.drop_eq_nil_of_le (by omega), List.nil_append]
  congr 1
  omega

private theorem Adjoin.le {i stop : Nat} {fields : List (Nat × Bytes)}
    (h : Adjoin i stop fields) : i ≤ stop := by
  induction fields generalizing i with
  | nil => exact Nat.le_of_eq h
  | cons field fields ih => exact Nat.le_trans (Nat.le_add_right _ _) (ih h.2)

/-- Fields that leave no gap overwrite all that stood at their places, and nothing else. -/
theorem putAll?_adjoin {done b : Bytes} {i stop : Nat} {fields : List (Nat × Bytes)}
    (hi : done.length = i) (h : Adjoin i stop fields) (hb : stop ≤ b.length) :
    putAll? (done ++ b.drop i) fields =
      some ((done ++ fields.flatMap Prod.snd) ++ b.drop stop) := by
  induction fields generalizing done i with
  | nil =>
    cases h
    rw [putAll?, List.flatMap_nil, List.append_nil]
  | cons field fields ih =>
    obtain ⟨j, xs⟩ := field
    obtain ⟨rfl, hrest⟩ := h
    have hle := hrest.le
    rw [putAll?, put?_next hi _ _ (by omega), Option.bind_some,
      ih (by rw [List.length_append, hi]) hrest]
    simp only [List.flatMap_cons, List.append_assoc]

theorem octets?_isSome {n : Nat} {b : Bytes} {i : Nat} (h : i + n ≤ b.length) :
    ∃ v, octets? n b i = some v := ⟨_, dif_pos h⟩

private theorem short_of_none {b : Bytes} {i : Nat} {o : Option α} {x : α}
    (h : i < b.length → o = some x) (ho : o = none) : b.length ≤ i := by
  rcases Nat.lt_or_ge i b.length with hi | hi
  · rw [h hi] at ho
    cases ho
  · exact hi

theorem reads_byteOrZero : Reads Reader.byteOrZero (fun b i => some (b[i]?.getD 0)) 1 := by
  apply reads_orElse reads_byte 0
  · intro c
    cases c <;> rfl
  · intro b i h
    have hlast := short_of_none (fun hi => getElem?_eq_byteAt hi) h
    omega

theorem reads_beWordOrZero :
    Reads Reader.beWordOrZero (fun b i => some ((beWord? b i).getD 0)) 2 := by
  apply reads_orElse reads_beWord 0
  · intro c
    rcases c with _ | ⟨hi, _ | ⟨lo, rest⟩⟩ <;> rfl
  · intro b i h
    have hlast := short_of_none (fun hi => beWord?_eq_wordAt hi) h
    omega

theorem reads_octetsOrZero (n : Nat) (hn : 0 < n) :
    Reads (Reader.octetsOrZero n) (fun b i => some ((octets? n b i).getD (Octets.zero n))) n := by
  apply reads_orElse (reads_octets n hn) (Octets.zero n)
  · intro c
    cases hc : Reader.octets n c <;> simp only [Reader.octetsOrZero, hc] <;> rfl
  · intro b i h
    by_cases hi : i + n ≤ b.length
    · obtain ⟨v, hv⟩ := octets?_isSome hi
      rw [hv] at h
      cases h
    · omega

theorem reads_ipv4OrZero :
    Reads Reader.ipv4OrZero (fun b i => some ⟨(beDouble? b i).getD 0⟩) 4 := by
  have hd : Reads Reader.beDoubleOrZero (fun b i => some ((beDouble? b i).getD 0)) 4 := by
    apply reads_orElse reads_beDouble 0
    · intro c
      rcases c with _ | ⟨p, _ | ⟨q, _ | ⟨r, _ | ⟨s, rest⟩⟩⟩⟩ <;> rfl
    · intro b i h
      have hlast := short_of_none (fun hi => beDouble?_eq_word32 hi) h
      omega
  intro b i
  simp only [Reader.ipv4OrZero, hd.bind, Option.bind_some, Reader.pure_apply, Option.map_some]

theorem reads_uidOrZero :
    Reads Reader.uidOrZero (fun b i => some ((uid? b i).getD Rdm.Uid.zero)) 6 := by
  apply reads_orElse reads_uid Rdm.Uid.zero
  · intro c
    cases hc : Reader.uid c <;> simp only [Reader.uidOrZero, hc] <;> rfl
  · intro b i h
    have hlast := short_of_none (fun hi => uid?_eq_uidAt hi) h
    omega

end Reading

end LightingNet.Places
