import LightingNet.Address.Parse
import LightingNet.Proofs.Wire.Places
import LightingNet.Proofs.Wire.RoundTrip
import LightingNet.Settings.Json
/-!
# The ranges of addresses

A port-address lies in its ranges and a bind index is at least 1 however they are made, read off a text
or taken from a datagram. JSON is the exception: its numbers are taken as they stand, so that the ranges
hold of what is read exactly when they hold of what is written.
-/
namespace LightingNet

open Places
open Simulation (byteAt wordAt)

namespace PortAddress

variable {p : PortAddress}

private theorem toNat_packed (h : p.InRange) :
    p.packed.toNat = p.net.toNat * 256 + p.subnet.toNat * 16 + p.uni.toNat := by
  obtain ⟨hnet, hsubnet, huni⟩ := h.toNat_le
  have hjoin (a b k : Nat) (hb : b < 2 ^ k) : a * 2 ^ k ||| b = a * 2 ^ k + b := by
    rw [← Nat.shiftLeft_eq, Nat.shiftLeft_add_eq_or_of_lt hb]
  have hhigh : (p.net.toUInt16 <<< 8).toNat = p.net.toNat * 2 ^ 8 := by
    rw [UInt16.toNat_shiftLeft, UInt8.toNat_toUInt16, Nat.shiftLeft_eq]
    exact Nat.mod_eq_of_lt (show p.net.toNat * 2 ^ 8 < 2 ^ 16 by omega)
  have hmiddle : (p.subnet.toUInt16 <<< 4).toNat = p.subnet.toNat * 2 ^ 4 := by
    rw [UInt16.toNat_shiftLeft, UInt8.toNat_toUInt16, Nat.shiftLeft_eq]
    exact Nat.mod_eq_of_lt (show p.subnet.toNat * 2 ^ 4 < 2 ^ 16 by omega)
  have hupper : p.net.toNat * 2 ^ 8 + p.subnet.toNat * 2 ^ 4 =
      (p.net.toNat * 2 ^ 4 + p.subnet.toNat) * 2 ^ 4 := by omega
  have hall : p.packed.toNat = (p.net.toNat * 2 ^ 4 + p.subnet.toNat) * 2 ^ 4 + p.uni.toNat := by
    rw [packed, UInt16.toNat_or, UInt16.toNat_or, UInt8.toNat_toUInt16, hhigh, hmiddle,
      hjoin _ _ 8 (by omega), hupper, hjoin _ _ 4 (by omega)]
  omega

theorem packed_le (h : p.InRange) : p.packed ≤ 0x7fff := by
  obtain ⟨hnet, hsubnet, huni⟩ := h.toNat_le
  rw [UInt16.le_iff_toNat_le, toNat_packed h]
  change _ ≤ 32767
  omega

theorem ofPacked_packed (h : p.InRange) : ofPacked p.packed = p := by
  have hpacked := toNat_packed h
  obtain ⟨hnet, hsubnet, huni⟩ := h.toNat_le
  have hseven : (p.packed >>> 8).toUInt8.toNat = p.net.toNat := by
    rw [UInt16.toNat_toUInt8, UInt16.toNat_shiftRight, Nat.shiftRight_eq_div_pow, hpacked]
    change _ / 256 % 256 = _
    omega
  have hfour : (p.packed >>> 4).toUInt8.toNat % 16 = p.subnet.toNat := by
    rw [UInt16.toNat_toUInt8, UInt16.toNat_shiftRight, Nat.shiftRight_eq_div_pow, hpacked]
    change _ / 16 % 256 % 16 = _
    omega
  have hlow : p.packed.toUInt8.toNat % 16 = p.uni.toNat := by
    rw [UInt16.toNat_toUInt8, hpacked]
    omega
  have hnetBack : (p.packed >>> 8).toUInt8 &&& 0x7f = p.net := by
    rw [UInt8.toNat_inj.mp hseven]
    exact (and_seven_bits_iff _).mpr h.1
  have hsubnetBack : (p.packed >>> 4).toUInt8 &&& 0x0f = p.subnet := by
    rw [← UInt8.toNat_inj, toNat_and_four_bits, hfour]
  have huniBack : p.packed.toUInt8 &&& 0x0f = p.uni := by
    rw [← UInt8.toNat_inj, toNat_and_four_bits, hlow]
  rw [ofPacked, masked, hnetBack, hsubnetBack, huniBack]

/-- What the packed form relies on. -/
structure Ranged (p : PortAddress) : Prop where
  inRange : p.InRange
  packed_le : p.packed ≤ 0x7fff
  ofPacked_packed : ofPacked p.packed = p

theorem ranged_iff : p.Ranged ↔ p.InRange :=
  ⟨Ranged.inRange, fun h => ⟨h, packed_le h, ofPacked_packed h⟩⟩

private theorem inRange_ofParts {net subnet uni : UInt8} (h : ofParts net subnet uni = .ok p) :
    p.InRange := by
  unfold ofParts ofParts? at h
  by_cases hout : net > 0x7f || subnet > 0x0f || uni > 0x0f
  · rw [if_pos hout] at h
    cases h
  · rw [if_neg hout] at h
    cases h
    exact masked_inRange net subnet uni

private theorem inRange_ofNumbers? {numbers : List Nat} (h : ofNumbers? numbers = some p) :
    p.InRange := by
  unfold ofNumbers? at h
  split at h
  case h_4 => cases h
  all_goals
    split at h
    · cases h
      exact masked_inRange _ _ _
    · cases h

private theorem inRange_parse {s : String} (h : parse s = .ok p) : p.InRange := by
  unfold parse at h
  cases hparse : parse? s with
  | none =>
    rw [hparse] at h
    cases h
  | some q =>
    rw [hparse] at h
    cases h
    obtain ⟨numbers, -, hnumbers⟩ := Option.bind_eq_some_iff.mp hparse
    exact inRange_ofNumbers? hnumbers

end PortAddress

namespace PollReply

variable {r : PollReply} {slot : Nat} {p : PortAddress}

theorem inRange_output? (h : r.output? slot = some p) : p.InRange := by
  rw [output?, Option.ite_none_right_eq_some] at h
  rw [← Option.some.inj h.2]
  exact PortAddress.masked_inRange _ _ _

private theorem inRange_input? (h : r.input? slot = some p) : p.InRange := by
  rw [input?, Option.ite_none_right_eq_some] at h
  rw [← Option.some.inj h.2]
  exact PortAddress.masked_inRange _ _ _

end PollReply

namespace Message

def Names : Message → PortAddress → Prop
  | pollReply r, p => ∃ slot, r.output? slot = some p ∨ r.input? slot = some p
  | dmx f, p => p = f.port
  | todRequest r, p => p ∈ r.ports
  | todData d, p => p = d.universeOf
  | todControl c, p => p = c.universeOf
  | rdm e, p => p = e.universeOf
  | _, _ => False

private theorem readFields_dmx {b : Bytes} (h : 18 ≤ b.length) :
    readFields .dmx (b.drop 12) = some (.ok (dmx ⟨byteAt b 12, byteAt b 13,
      .ofShort (byteAt b 15) (byteAt b 14), (b.drop 18).take (min (wordAt b 16).toNat 512)⟩)) := by
  simp (disch := omega) only [readFields, DmxFrame.read, reads_byte.bind, reads_beWord.bind,
    Reader.bind_remaining, getElem?_eq_byteAt, beWord?_eq_wordAt, Option.bind_some,
    Option.map_some, Reader.pure_apply, Nat.reduceAdd]

private theorem inRange_of_names {b : Bytes} {m : Message} {p : PortAddress} (h : decode b = .ok m)
    (hp : m.Names p) : p.InRange := by
  cases m with
  | pollReply r =>
    obtain ⟨slot, hslot | hslot⟩ := hp
    · exact PollReply.inRange_output? hslot
    · exact PollReply.inRange_input? hslot
  | dmx f =>
    obtain ⟨hlen, hfields⟩ := readFields_of_decode h rfl
    change readFields .dmx (b.drop 12) = _ at hfields
    rw [readFields_dmx hlen] at hfields
    cases hfields
    rw [show p = _ from hp]
    exact PortAddress.masked_inRange _ _ _
  | todRequest r =>
    obtain ⟨short, -, rfl⟩ := List.mem_map.mp hp
    exact PortAddress.masked_inRange _ _ _
  | todData d | todControl c | rdm e =>
    rw [show p = _ from hp]
    exact PortAddress.masked_inRange _ _ _
  | poll | diagnostic | sync | programming | unsupported => exact hp.elim

end Message

/-- The ways to a port-address other than JSON. -/
inductive PortAddress.Made : PortAddress → Prop
  | zero : Made zero
  | masked (net subnet uni : UInt8) : Made (masked net subnet uni)
  | ofParts {net subnet uni : UInt8} {p : PortAddress}
    (h : PortAddress.ofParts net subnet uni = .ok p) : Made p
  | ofPacked (value : UInt16) : Made (ofPacked value)
  | ofShort (net short : UInt8) : Made (ofShort net short)
  | parse {s : String} {p : PortAddress} (h : PortAddress.parse s = .ok p) : Made p
  | decode {b : Bytes} {m : Message} {p : PortAddress} (h : Message.decode b = .ok m)
    (hp : m.Names p) : Made p

private theorem PortAddress.Made.inRange {p : PortAddress} (h : Made p) : p.InRange := by
  cases h with
  | zero => exact masked_inRange 0 0 0
  | masked net subnet uni => exact masked_inRange net subnet uni
  | ofParts h => exact inRange_ofParts h
  | ofPacked value => exact masked_inRange _ _ _
  | ofShort net short => exact masked_inRange _ _ _
  | parse h => exact inRange_parse h
  | decode h hp => exact Message.inRange_of_names h hp

/-- The ways to a node address other than JSON. -/
inductive NodeAddress.Made : NodeAddress → Prop
  | make (root : Ipv4) (bindIndex : UInt8) (socket : Ipv4Socket) : Made (make root bindIndex socket)
  | ofReply (reply : PollReply) (sender : Socket) : Made (ofReply reply sender)

private theorem NodeAddress.one_le_bindIndex_make (root : Ipv4) (bindIndex : UInt8)
    (socket : Ipv4Socket) : 1 ≤ (make root bindIndex socket).bindIndex := by
  have hmax : max bindIndex 1 = if bindIndex ≤ 1 then 1 else bindIndex := rfl
  rw [make, hmax]
  split
  · exact UInt8.le_refl 1
  · rename_i hlt
    exact UInt8.le_of_lt (UInt8.not_le.mp hlt)

theorem NodeAddress.Made.one_le_bindIndex {a : NodeAddress} (h : Made a) : 1 ≤ a.bindIndex := by
  cases h with
  | make root bindIndex socket => exact one_le_bindIndex_make root bindIndex socket
  | ofReply reply sender => exact one_le_bindIndex_make _ reply.bindIndex _

/-! ### What is read from JSON -/

theorem Json.byte?_eq_some_iff {j : Json} {b : UInt8} : j.byte? = some b ↔ j = .nat b.toNat := by
  have hbyte : (b.toNat : Int) < 256 := Int.ofNat_lt.mpr b.toNat_lt
  constructor
  · intro h
    obtain ⟨n, hn, rfl⟩ := Option.map_eq_some_iff.mp h
    cases j with
    | int i =>
      rw [natBelow?, Option.ite_none_right_eq_some] at hn
      obtain ⟨⟨hnonneg, hlt⟩, hi⟩ := hn
      obtain rfl : i.toNat = n := Option.some.inj hi
      have hback : (UInt8.ofNat i.toNat).toNat = i.toNat :=
        UInt8.toNat_ofNat_of_lt' (show i.toNat < 256 by omega)
      rw [hback, nat, Int.toNat_of_nonneg hnonneg]
    | null | bool | real | text | array | object => cases hn
  · rintro rfl
    rw [byte?, nat, natBelow?, if_pos ⟨Int.natCast_nonneg _, hbyte⟩, Int.toNat_natCast,
      Option.map_some, UInt8.ofNat_toNat]

theorem PortAddress.ofJson?_eq_some_iff {j : Json} {p : PortAddress} :
    ofJson? j = some p ↔ j.record? ["net", "subnet", "universe"] =
      some [.nat p.net.toNat, .nat p.subnet.toNat, .nat p.uni.toNat] := by
  constructor
  · intro h
    unfold ofJson? at h
    split at h
    case h_2 => cases h
    case h_1 net subnet uni hrecord =>
      simp only [Option.bind_eq_bind, Option.bind_eq_some_iff, Option.pure_def,
        Option.some.injEq] at h
      obtain ⟨n, hn, s, hs, u, hu, rfl⟩ := h
      rw [hrecord, Json.byte?_eq_some_iff.mp hn, Json.byte?_eq_some_iff.mp hs,
        Json.byte?_eq_some_iff.mp hu]
  · intro h
    rw [ofJson?, h]
    simp only [Json.byte?_eq_some_iff.mpr rfl, Option.bind_eq_bind, Option.bind_some,
      Option.pure_def]

theorem NodeAddress.ofJson?_eq_some_iff {j : Json} {a : NodeAddress} :
    ofJson? j = some a ↔ ∃ root socket, j.record? ["root", "bind_index", "socket"] =
        some [root, .nat a.bindIndex.toNat, socket] ∧
      Ipv4.ofJson? root = some a.root ∧ Ipv4Socket.ofJson? socket = some a.socket := by
  constructor
  · intro h
    unfold ofJson? at h
    split at h
    case h_2 => cases h
    case h_1 root bindIndex socket hrecord =>
      simp only [Option.bind_eq_bind, Option.bind_eq_some_iff, Option.pure_def,
        Option.some.injEq] at h
      obtain ⟨ip, hip, b, hb, s, hs, rfl⟩ := h
      exact ⟨root, socket, by rw [hrecord, Json.byte?_eq_some_iff.mp hb], hip, hs⟩
  · rintro ⟨root, socket, hrecord, hroot, hsocket⟩
    rw [ofJson?, hrecord]
    simp only [Json.byte?_eq_some_iff.mpr rfl, hroot, hsocket, Option.bind_eq_bind,
      Option.bind_some, Option.pure_def]

private theorem OutputAddress.exists_of_ofJson? {j : Json} {o : OutputAddress}
    (h : ofJson? j = some o) : ∃ node port, j.record? ["node", "port"] = some [node, port] ∧
      NodeAddress.ofJson? node = some o.node ∧ PortAddress.ofJson? port = some o.port := by
  unfold ofJson? at h
  split at h
  case h_2 => cases h
  case h_1 node port hrecord =>
    simp only [Option.bind_eq_bind, Option.bind_eq_some_iff, Option.pure_def,
      Option.some.injEq] at h
    obtain ⟨a, ha, p, hp, rfl⟩ := h
    exact ⟨node, port, hrecord, ha, hp⟩

/-- JSON that writes a port-address within its ranges. -/
def PortAddress.WrittenInRange (j : Json) : Prop :=
  ∃ net subnet uni : Nat,
    j.record? ["net", "subnet", "universe"] = some [.nat net, .nat subnet, .nat uni] ∧
      net ≤ 127 ∧ subnet ≤ 15 ∧ uni ≤ 15

def NodeAddress.WrittenInRange (j : Json) : Prop :=
  ∃ (root socket : Json) (bindIndex : Nat),
    j.record? ["root", "bind_index", "socket"] = some [root, .nat bindIndex, socket] ∧
      1 ≤ bindIndex

private theorem Json.nat_injective : Function.Injective nat :=
    fun _ _ h => Int.ofNat_inj.mp (int.inj h)

private theorem PortAddress.ranged_iff_of_ofJson? {j : Json} {p : PortAddress}
    (h : ofJson? j = some p) : p.Ranged ↔ WrittenInRange j := by
  have hrecord := ofJson?_eq_some_iff.mp h
  rw [ranged_iff]
  constructor
  · intro hrange
    exact ⟨_, _, _, hrecord, hrange⟩
  · rintro ⟨net, subnet, uni, hwritten, hrange⟩
    rw [hrecord] at hwritten
    simp only [Option.some.injEq, List.cons.injEq, and_true, Json.nat_injective.eq_iff] at hwritten
    obtain ⟨rfl, rfl, rfl⟩ := hwritten
    exact hrange

private theorem NodeAddress.one_le_bindIndex_iff_of_ofJson? {j : Json} {a : NodeAddress}
    (h : ofJson? j = some a) : 1 ≤ a.bindIndex ↔ WrittenInRange j := by
  obtain ⟨root, socket, hrecord, -, -⟩ := ofJson?_eq_some_iff.mp h
  constructor
  · intro hbind
    exact ⟨root, socket, _, hrecord, hbind⟩
  · rintro ⟨root', socket', bindIndex, hwritten, hbind⟩
    rw [hrecord] at hwritten
    simp only [Option.some.injEq, List.cons.injEq, Json.nat_injective.eq_iff] at hwritten
    obtain ⟨-, rfl, -⟩ := hwritten
    exact hbind

private theorem NodeAddress.exists_ofJson? (bindIndex : UInt8) :
    ∃ j a, ofJson? j = some a ∧ a.bindIndex = bindIndex := by
  let ip : Ipv4 := .ofNumbers 10 0 0 1
  have hroot : Ipv4.ofJson? (.text "10.0.0.1") = some ip := by decide +kernel
  have hsocket : Ipv4Socket.ofJson? (.text "10.0.0.1:6454") = some ⟨ip, 6454⟩ := by decide +kernel
  exact ⟨.array [.text "10.0.0.1", .nat bindIndex.toNat, .text "10.0.0.1:6454"],
    ⟨ip, bindIndex, ⟨ip, 6454⟩⟩, ofJson?_eq_some_iff.mpr ⟨_, _, rfl, hroot, hsocket⟩, rfl⟩

/-- Addresses keep their ranges however they are made, read off a text or taken from a datagram. From
JSON any three bytes come as a port-address and any byte as a bind index, and what comes from there keeps
the ranges exactly when they hold of what is written. -/
theorem ranges_kept (p : PortAddress) (a : NodeAddress) (o : OutputAddress) (j : Json) :
    (PortAddress.Made p → p.Ranged) ∧
    (NodeAddress.Made a → 1 ≤ a.bindIndex) ∧
    (∃ written, PortAddress.ofJson? written = some p) ∧
    (∃ written read, NodeAddress.ofJson? written = some read ∧ read.bindIndex = a.bindIndex) ∧
    (PortAddress.ofJson? j = some p → (p.Ranged ↔ PortAddress.WrittenInRange j)) ∧
    (NodeAddress.ofJson? j = some a → (1 ≤ a.bindIndex ↔ NodeAddress.WrittenInRange j)) ∧
    (OutputAddress.ofJson? j = some o → ∃ node port, j.record? ["node", "port"] = some [node, port] ∧
      (1 ≤ o.node.bindIndex ↔ NodeAddress.WrittenInRange node) ∧
      (o.port.Ranged ↔ PortAddress.WrittenInRange port)) := by
  refine ⟨?_, ?_, ?_, ?_, ?_, ?_, ?_⟩
  · intro h
    exact PortAddress.ranged_iff.mpr h.inRange
  · intro h
    exact h.one_le_bindIndex
  · exact ⟨p.toJson, PortAddress.ofJson?_eq_some_iff.mpr rfl⟩
  · exact NodeAddress.exists_ofJson? a.bindIndex
  · intro h
    exact PortAddress.ranged_iff_of_ofJson? h
  · intro h
    exact NodeAddress.one_le_bindIndex_iff_of_ofJson? h
  · intro h
    obtain ⟨node, port, hrecord, hnode, hport⟩ := OutputAddress.exists_of_ofJson? h
    exact ⟨node, port, hrecord, NodeAddress.one_le_bindIndex_iff_of_ofJson? hnode,
      PortAddress.ranged_iff_of_ofJson? hport⟩

theorem ranges_kept_arrays :
    let port : Json := .array [.nat 3, .nat 2, .nat 1]
    let node : Json := .array [.text "10.0.0.1", .nat 2, .text "10.0.0.1:6454"]
    (PortAddress.masked 255 31 47).Ranged ∧
      1 ≤ (NodeAddress.make .loopback 0 ⟨.loopback, 6454⟩).bindIndex ∧
      (∃ p, PortAddress.ofJson? port = some p ∧ p.Ranged) ∧
      (∃ a, NodeAddress.ofJson? node = some a ∧ 1 ≤ a.bindIndex) ∧
      ∃ o, OutputAddress.ofJson? (.array [node, port]) = some o ∧
        1 ≤ o.node.bindIndex ∧ o.port.Ranged := by
  intro port node
  let p : PortAddress := ⟨3, 2, 1⟩
  let a : NodeAddress := ⟨.ofNumbers 10 0 0 1, 2, ⟨.ofNumbers 10 0 0 1, 6454⟩⟩
  have hp : PortAddress.ofJson? port = some p := rfl
  have ha : NodeAddress.ofJson? node = some a := by decide +kernel
  have ho : OutputAddress.ofJson? (.array [node, port]) = some ⟨a, p⟩ := by decide +kernel
  have hportRange : PortAddress.WrittenInRange port :=
    ⟨3, 2, 1, rfl, by decide, by decide, by decide⟩
  have hnodeRange : NodeAddress.WrittenInRange node := ⟨_, _, 2, rfl, by decide⟩
  obtain ⟨hmade, hmadeNode, -⟩ := ranges_kept (.masked 255 31 47)
    (.make .loopback 0 ⟨.loopback, 6454⟩) ⟨a, p⟩ port
  obtain ⟨-, -, -, -, hport, -⟩ := ranges_kept p a ⟨a, p⟩ port
  obtain ⟨-, -, -, -, -, hnode, -⟩ := ranges_kept p a ⟨a, p⟩ node
  obtain ⟨-, -, -, -, -, -, houtput⟩ := ranges_kept p a ⟨a, p⟩ (.array [node, port])
  refine ⟨hmade (.masked 255 31 47), hmadeNode (.make .loopback 0 ⟨.loopback, 6454⟩), ?_, ?_, ?_⟩
  · exact ⟨p, hp, (hport hp).mpr hportRange⟩
  · exact ⟨a, ha, (hnode ha).mpr hnodeRange⟩
  · obtain ⟨_, _, hrecord, hbind, hranged⟩ := houtput ho
    obtain ⟨rfl, rfl⟩ : node = _ ∧ port = _ := by simpa [Json.record?] using hrecord
    exact ⟨_, ho, hbind.mpr hnodeRange, hranged.mpr hportRange⟩

def strayPort : Json := .object [("net", .nat 200), ("subnet", .nat 99), ("universe", .nat 50)]

def strayNode : Json :=
  .object [("root", .text "10.0.0.1"), ("bind_index", .nat 0), ("socket", .text "10.0.0.1:6454")]

/-- JSON is the exception: no range is checked there, and no bind index of 0 becomes 1. -/
theorem ranges_lost :
    (∃ p, PortAddress.ofJson? strayPort = some p ∧
      ¬p.InRange ∧ 0x7fff < p.packed ∧ PortAddress.ofPacked p.packed ≠ p) ∧
    (∃ a, NodeAddress.ofJson? strayNode = some a ∧ ¬1 ≤ a.bindIndex) ∧
    ∃ o, OutputAddress.ofJson? (.object [("node", strayNode), ("port", strayPort)]) = some o ∧
      ¬1 ≤ o.node.bindIndex ∧ ¬o.port.InRange := by
  let p : PortAddress := ⟨200, 99, 50⟩
  let a : NodeAddress := ⟨.ofNumbers 10 0 0 1, 0, ⟨.ofNumbers 10 0 0 1, 6454⟩⟩
  have hp : PortAddress.ofJson? strayPort = some p := by decide +kernel
  have ha : NodeAddress.ofJson? strayNode = some a := by decide +kernel
  have ho : OutputAddress.ofJson? (.object [("node", strayNode), ("port", strayPort)]) =
      some ⟨a, p⟩ := by decide +kernel
  have hstray : ¬p.InRange := fun h => absurd h.1 (by decide)
  exact ⟨⟨p, hp, hstray, by decide, by decide⟩, ⟨a, ha, by decide⟩, ⟨⟨a, p⟩, ho, by decide, hstray⟩⟩

end LightingNet
