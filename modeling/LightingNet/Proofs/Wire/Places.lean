import LightingNet.Proofs.Rdm.Packet
import LightingNet.Proofs.Wire.Header
/-!
# Datagrams by place

The layouts once more, each field at its place in the datagram and each access checked: the outcome
is `none` as soon as one of them reaches past the end. From the least size of its layout on, a
datagram gives the same fields in this way and in order.
-/
namespace LightingNet

open Places
open Simulation (byteAt wordAt uidAt)

namespace Places

theorem tail?_eq_drop {b : Bytes} {i : Nat} (h : i ≤ b.length) : tail? b i = some (b.drop i) :=
  if_pos h

def text? (field : Bytes) : Option String := do
  let kept ← span? (field.findIdx (· = 0)) field 0
  return asciiText (kept.map asciiByte)

theorem text?_eq (field : Bytes) : text? field = some (fieldText field) := by
  have hstop : field.findIdx (· = 0) ≤ field.length := List.findIdx_le_length
  have huntil : field.take (field.findIdx (· = 0)) = untilNul field := by
    rw [untilNul, List.takeWhile_eq_take_findIdx_not]
    simp only [decide_not, Bool.not_not]
  rw [text?, span?_eq_take (by omega), List.drop_zero, huntil]
  rfl

def uids? : Nat → Bytes → Nat → Option (List Rdm.Uid)
  | 0, _, _ => some []
  | count + 1, b, i => do
    let u ← uid? b i
    let us ← uids? count b (i + 6)
    return u :: us

private theorem uids?_eq_uidsFrom {count : Nat} {b : Bytes} {i : Nat}
    (h : i + count * 6 ≤ b.length) :
    uids? count b i = some (TodData.uidsFrom count (b.drop i)) := by
  induction count generalizing i with
  | zero => rfl
  | succ count ih =>
    rw [uids?, ih (by omega), TodData.uidsFrom, reads_uid, uid?_eq_uidAt (by omega)]
    rfl

end Places

private theorem Rdm.Uid.exists_bytes_append {b : Bytes} (h : 6 ≤ b.length) :
    ∃ u rest, b = bytes u ++ rest ∧ b.length = 6 + rest.length := by
  have hbytes : (uidAt b 0).bytes = b.take 6 := by
    rw [take_eq_map_byteAt h, bytes, uidAt, wordAt, be16_word16, be32_word32]
    rfl
  refine ⟨uidAt b 0, b.drop 6, ?_, ?_⟩
  · rw [hbytes, List.take_append_drop]
  · rw [List.length_drop]
    omega

namespace TodData

private theorem uidsFrom_bytes_append (count : Nat) (u : Rdm.Uid) (rest : Bytes) :
    uidsFrom (count + 1) (u.bytes ++ rest) = u :: uidsFrom count rest := by
  rw [uidsFrom, Reader.undoes_uid]

theorem uidsFrom_append {count : Nat} {table : Bytes} (h : table.length = count * 6)
    (rest : Bytes) : uidsFrom count (table ++ rest) = uidsFrom count table := by
  induction count generalizing table with
  | zero => rfl
  | succ count ih =>
    obtain ⟨u, table, rfl, hlen⟩ := Rdm.Uid.exists_bytes_append (show 6 ≤ table.length by omega)
    rw [List.append_assoc, uidsFrom_bytes_append, uidsFrom_bytes_append, ih (by omega)]

theorem uidsFrom_whole (count : Nat) (b : Bytes) :
    uidsFrom (min count (b.length / 6)) b = uidsFrom count b := by
  induction count generalizing b with
  | zero => rw [Nat.zero_min]
  | succ count ih =>
    -- Both sides stop where fewer than six bytes are left.
    rcases Nat.lt_or_ge b.length 6 with hshort | hlong
    · have hnone : Reader.uid b = none := by
        have hlast : b[5]? = none := List.getElem?_eq_none (by omega)
        have huid : uid? b 0 = none := by
          simp only [uid?, beDouble?, Nat.zero_add, Nat.reduceAdd, hlast, Option.bind_eq_bind,
            Option.bind_none, Option.bind_fun_none]
        have hread := reads_uid b 0
        rwa [List.drop_zero, huid] at hread
      rw [Nat.div_eq_of_lt hshort, Nat.min_zero, uidsFrom, uidsFrom, hnone]
    · obtain ⟨u, rest, rfl, hlen⟩ := Rdm.Uid.exists_bytes_append hlong
      have hcount : min (count + 1) ((u.bytes ++ rest).length / 6) =
          min count (rest.length / 6) + 1 := by
        omega
      rw [hcount, uidsFrom_bytes_append, uidsFrom_bytes_append, ih]

end TodData

theorem take_clamped (b : Bytes) (i n most : Nat) :
    (b.drop i).take (min (min n (b.length - i)) most) = (b.drop i).take (min n most) := by
  rw [List.take_eq_take_iff, List.length_drop]
  omega

namespace Poll

def at? (b : Bytes) : Option Poll := do
  let flags ← b[12]?
  let diagPriority ← b[13]?
  return ⟨flags, diagPriority, (beWord? b 14).getD 0, (beWord? b 16).getD 0, (beWord? b 18).getD 0,
    (beWord? b 20).getD 0⟩

private theorem at?_eq_read {b : Bytes} (h : 14 ≤ b.length) :
    ∃ p rest, at? b = some p ∧ read (b.drop 12) = some (p, rest) := by
  simp (disch := omega) only [at?, read, reads_byte.bind, reads_beWordOrZero.bind,
    getElem?_eq_byteAt, Option.bind_eq_bind, Option.bind_some, Reader.pure_apply, Nat.reduceAdd]
  exact ⟨_, _, rfl, rfl⟩

end Poll

namespace PollReply

def at? (b : Bytes) : Option PollReply := do
  let port ← leWord? b 14
  let firmwareVersion ← beWord? b 16
  let netSwitch ← b[18]?
  let subSwitch ← b[19]?
  let oem ← beWord? b 20
  let ubeaVersion ← b[22]?
  let status1 ← b[23]?
  let estaManufacturer ← leWord? b 24
  let shortField ← span? 18 b 26
  let shortName ← text? shortField
  let longField ← span? 64 b 44
  let longName ← text? longField
  let reportField ← span? 64 b 108
  let nodeReport ← text? reportField
  let numPorts ← beWord? b 172
  let acnPriority ← b[194]?
  let swMacro ← b[195]?
  let swRemote ← b[196]?
  let style ← b[200]?
  return {
    ip := ⟨(beDouble? b 10).getD 0⟩
    port, firmwareVersion, netSwitch := netSwitch &&& 0x7f, subSwitch := subSwitch &&& 0x0f,
    oem, ubeaVersion, status1, estaManufacturer, shortName, longName, nodeReport, numPorts,
    portTypes := (octets? 4 b 174).getD (Octets.zero 4)
    goodInput := (octets? 4 b 178).getD (Octets.zero 4)
    goodOutputA := (octets? 4 b 182).getD (Octets.zero 4)
    swIn := (octets? 4 b 186).getD (Octets.zero 4)
    swOut := (octets? 4 b 190).getD (Octets.zero 4)
    acnPriority, swMacro, swRemote, style
    mac := (octets? 6 b 201).getD (Octets.zero 6)
    bindIp := ⟨(beDouble? b 207).getD 0⟩
    bindIndex := b[211]?.getD 0
    status2 := b[212]?.getD 0
    goodOutputB := (octets? 4 b 213).getD (Octets.zero 4)
    status3 := b[217]?.getD 0
    defaultResponder := (uid? b 218).getD Rdm.Uid.zero
    user := (beWord? b 224).getD 0
    refreshRate := (beWord? b 226).getD 0 }

private theorem at?_eq_read {b : Bytes} (h : 207 ≤ b.length) :
    ∃ r rest, at? b = some r ∧ read (b.drop 10) = some (r, rest) := by
  obtain ⟨portTypes, hportTypes⟩ := octets?_isSome (n := 4) (i := 174) (b := b) (by omega)
  obtain ⟨goodInput, hgoodInput⟩ := octets?_isSome (n := 4) (i := 178) (b := b) (by omega)
  obtain ⟨goodOutputA, hgoodOutputA⟩ := octets?_isSome (n := 4) (i := 182) (b := b) (by omega)
  obtain ⟨swIn, hswIn⟩ := octets?_isSome (n := 4) (i := 186) (b := b) (by omega)
  obtain ⟨swOut, hswOut⟩ := octets?_isSome (n := 4) (i := 190) (b := b) (by omega)
  obtain ⟨mac, hmac⟩ := octets?_isSome (n := 6) (i := 201) (b := b) (by omega)
  have hfour := reads_octets 4 (by decide)
  have hsix := reads_octets 6 (by decide)
  have hfourOrZero := reads_octetsOrZero 4 (by decide)
  have hshort := reads_text 18 (by decide)
  have hlong := reads_text 64 (by decide)
  have hskip := reads_skip 3 (by decide)
  simp (disch := omega) only [at?, read, reads_ipv4.bind, reads_leWord.bind, reads_beWord.bind,
    reads_byte.bind, hshort.bind, hlong.bind, hfour.bind, hskip.bind, hsix.bind,
    reads_ipv4OrZero.bind, reads_byteOrZero.bind, hfourOrZero.bind, reads_uidOrZero.bind,
    reads_beWordOrZero.bind, getElem?_eq_byteAt, beWord?_eq_wordAt, leWord?_eq_word16,
    beDouble?_eq_word32, span?_eq_take, text?_eq, Option.bind_eq_bind, Option.bind_some,
    Option.map_some, Option.getD_some, hportTypes, hgoodInput, hgoodOutputA, hswIn, hswOut, hmac,
    Reader.pure_apply, Nat.reduceAdd]
  exact ⟨_, _, rfl, rfl⟩

end PollReply

namespace Diagnostic

def at? (b : Bytes) : Option Diagnostic := do
  let declared ← beWord? b 16
  let room ← room? b 18
  let priority ← b[13]?
  let logicalPort ← b[14]?
  let field ← span? (min (min declared.toNat room) 512) b 18
  let text ← text? field
  return ⟨priority, logicalPort, text⟩

private theorem at?_eq_read {b : Bytes} (h : 18 ≤ b.length) :
    ∃ d rest, at? b = some d ∧ read (b.drop 12) = some (d, rest) := by
  have hskip := reads_skip 1 (by decide)
  simp (disch := omega) only [at?, read, hskip.bind, reads_byte.bind, reads_beWord.bind,
    Reader.bind_remaining, getElem?_eq_byteAt, beWord?_eq_wordAt, room?_eq_sub, span?_eq_take,
    text?_eq, take_clamped, Option.bind_eq_bind, Option.bind_some, Option.map_some, Reader.pure_apply,
    Nat.reduceAdd]
  exact ⟨_, _, rfl, rfl⟩

end Diagnostic

namespace DmxFrame

def at? (b : Bytes) : Option DmxFrame := do
  let declared ← beWord? b 16
  let room ← room? b 18
  let sequence ← b[12]?
  let physical ← b[13]?
  let net ← b[15]?
  let short ← b[14]?
  let levels ← span? (min (min declared.toNat room) 512) b 18
  return ⟨sequence, physical, PortAddress.ofShort net short, levels⟩

private theorem at?_eq_read {b : Bytes} (h : 18 ≤ b.length) :
    ∃ f rest, at? b = some f ∧ read (b.drop 12) = some (f, rest) := by
  simp (disch := omega) only [at?, read, reads_byte.bind, reads_beWord.bind,
    Reader.bind_remaining, getElem?_eq_byteAt, beWord?_eq_wordAt, room?_eq_sub, span?_eq_take,
    take_clamped, Option.bind_eq_bind, Option.bind_some, Reader.pure_apply, Nat.reduceAdd]
  exact ⟨_, _, rfl, rfl⟩

end DmxFrame

namespace NodeProgramming

def at? (b : Bytes) : Option NodeProgramming := do
  let swIn ← octets? 4 b 96
  let swOut ← octets? 4 b 100
  let netSwitch ← b[12]?
  let bindIndex ← b[13]?
  let shortField ← span? 18 b 14
  let shortName ← text? shortField
  let longField ← span? 64 b 32
  let longName ← text? longField
  let subSwitch ← b[104]?
  let acnPriority ← b[105]?
  let command ← b[106]?
  return ⟨netSwitch, bindIndex, shortName, longName, swIn, swOut, subSwitch, acnPriority, command⟩

private theorem at?_eq_read {b : Bytes} (h : 107 ≤ b.length) :
    ∃ p rest, at? b = some p ∧ read (b.drop 12) = some (p, rest) := by
  obtain ⟨swIn, hswIn⟩ := octets?_isSome (n := 4) (i := 96) (b := b) (by omega)
  obtain ⟨swOut, hswOut⟩ := octets?_isSome (n := 4) (i := 100) (b := b) (by omega)
  have hfour := reads_octets 4 (by decide)
  have hshort := reads_text 18 (by decide)
  have hlong := reads_text 64 (by decide)
  simp (disch := omega) only [at?, read, reads_byte.bind, hshort.bind, hlong.bind, hfour.bind,
    getElem?_eq_byteAt, span?_eq_take, text?_eq, hswIn, hswOut, Option.bind_eq_bind,
    Option.bind_some, Option.map_some, Reader.pure_apply, Nat.reduceAdd]
  exact ⟨_, _, rfl, rfl⟩

end NodeProgramming

namespace TodRequest

def at? (b : Bytes) : Option TodRequest := do
  let declared ← b[23]?
  let room ← room? b 24
  let net ← b[21]?
  let command ← b[22]?
  let addresses ← span? (min (min declared.toNat maxAddresses) room) b 24
  return ⟨net &&& 0x7f, command, addresses⟩

private theorem at?_eq_read {b : Bytes} (h : 24 ≤ b.length) :
    ∃ r rest, at? b = some r ∧ read (b.drop 12) = some (r, rest) := by
  have hskip := reads_skip 9 (by decide)
  have hclamped : ∀ n, (b.drop 24).take (min (min n maxAddresses) (b.length - 24)) =
      (b.drop 24).take (min n maxAddresses) := by
    intro n
    rw [Nat.min_right_comm, take_clamped]
  simp (disch := omega) only [at?, read, hskip.bind, reads_byte.bind, Reader.bind_remaining,
    getElem?_eq_byteAt, room?_eq_sub, span?_eq_take, hclamped, Option.bind_eq_bind,
    Option.bind_some, Option.map_some, Reader.pure_apply, Nat.reduceAdd]
  exact ⟨_, _, rfl, rfl⟩

end TodRequest

namespace TodData

def at? (b : Bytes) : Option TodData := do
  let declared ← b[27]?
  let room ← room? b 28
  let count := min declared.toNat (room / 6)
  let table ← span? (count * 6) b 28
  let uids ← uids? count table 0
  let rdmVersion ← b[12]?
  let port ← b[13]?
  let bindIndex ← b[20]?
  let net ← b[21]?
  let response ← b[22]?
  let address ← b[23]?
  let uidTotal ← beWord? b 24
  let blockCount ← b[26]?
  return ⟨rdmVersion, port, bindIndex, net &&& 0x7f, TodResponse.ofCode response, address, uidTotal,
    blockCount, uids⟩

theorem uids?_table (b : Bytes) (declared : Nat) :
    let count := min declared ((b.length - 28) / 6)
    uids? count ((b.drop 28).take (count * 6)) 0 = some (uidsFrom declared (b.drop 28)) := by
  intro count
  have hroom : (b.drop 28).length = b.length - 28 := List.length_drop
  have hcount : count ≤ (b.length - 28) / 6 := Nat.min_le_right _ _
  have htable : ((b.drop 28).take (count * 6)).length = count * 6 := by
    rw [List.length_take]
    omega
  have hcut := uidsFrom_append htable ((b.drop 28).drop (count * 6))
  rw [List.take_append_drop] at hcut
  rw [uids?_eq_uidsFrom (by omega), List.drop_zero, ← hcut, ← uidsFrom_whole declared, hroom]

private theorem at?_eq_read {b : Bytes} (h : 28 ≤ b.length) :
    ∃ d rest, at? b = some d ∧ read (b.drop 12) = some (d, rest) := by
  have hskip := reads_skip 6 (by decide)
  have htable := uids?_table b
  simp (disch := omega) only [at?, read, hskip.bind, reads_byte.bind, reads_beWord.bind,
    Reader.bind_remaining, getElem?_eq_byteAt, beWord?_eq_wordAt, room?_eq_sub, span?_eq_take,
    htable, Option.bind_eq_bind, Option.bind_some, Option.map_some, Reader.pure_apply,
    Nat.reduceAdd]
  exact ⟨_, _, rfl, rfl⟩

end TodData

namespace TodControl

def at? (b : Bytes) : Option TodControl := do
  let net ← b[21]?
  let command ← b[22]?
  let address ← b[23]?
  return ⟨net &&& 0x7f, TodCommand.ofCode command, address⟩

private theorem at?_eq_read {b : Bytes} (h : 24 ≤ b.length) :
    ∃ c rest, at? b = some c ∧ read (b.drop 12) = some (c, rest) := by
  have hskip := reads_skip 9 (by decide)
  simp (disch := omega) only [at?, read, hskip.bind, reads_byte.bind, getElem?_eq_byteAt,
    span?_eq_take, Option.bind_eq_bind, Option.bind_some, Option.map_some, Reader.pure_apply,
    Nat.reduceAdd]
  exact ⟨_, _, rfl, rfl⟩

end TodControl

def Rdm.Packet.decode? (b : Bytes) : Option (Except CodecError Packet) :=
  if b.length < 25 then some (.error (.tooShort 25 b.length))
  else do
    let subStart ← b[0]?
    if subStart ≠ 1 then some (.error .badSubStartCode)
    else do
      let dataLength ← b[22]?
      let size := dataLength.toNat
      let messageLength ← b[1]?
      if messageLength.toNat ≠ 24 + size then some (.error .badMessageLength)
      else if b.length < 25 + size then some (.error (.tooShort (25 + size) b.length))
      else do
        let covered ← span? (23 + size) b 0
        let found ← beWord? b (23 + size)
        if checksum covered ≠ found then some (.error (.checksumMismatch (checksum covered) found))
        else do
          let destination ← uid? b 2
          let source ← uid? b 8
          let transaction ← b[14]?
          let portOrResponse ← b[15]?
          let messageCount ← b[16]?
          let subDevice ← beWord? b 17
          let command ← b[19]?
          let parameter ← beWord? b 20
          let data ← span? size b 23
          return .ok ⟨destination, source, transaction, portOrResponse, messageCount, subDevice,
            CommandClass.ofCode command, parameter, data⟩

private theorem Rdm.Packet.decode?_eq (b : Bytes) : decode? b = some (decode b) := by
  by_cases hshort : b.length < 25
  · rw [decode?, if_pos hshort, decode_of_short hshort]
  have hsize : (byteAt b 22).toNat = declaredSize b := rfl
  have hheader := Nat.not_lt.mp hshort
  have hbyte : ∀ i < 25, b[i]? = some (byteAt b i) :=
    fun i hi => getElem?_eq_byteAt (Nat.lt_of_lt_of_le hi hheader)
  -- The accesses are opened one at a time: each stands under the checks in front of it, and a
  -- simplifier would go through what follows once more for every one of them.
  rw [decode?, if_neg hshort, decode_eq hheader, hbyte 0 (by decide), hbyte 22 (by decide),
    hbyte 1 (by decide)]
  simp only [Option.bind_eq_bind, Option.bind_some, hsize]
  by_cases hsub : byteAt b 0 ≠ 1
  · rw [if_pos hsub, if_pos hsub]
  by_cases hlen : (byteAt b 1).toNat ≠ 24 + declaredSize b
  · rw [if_neg hsub, if_neg hsub, if_pos hlen, if_pos hlen]
  by_cases hcut : b.length < 25 + declaredSize b
  · rw [if_neg hsub, if_neg hsub, if_neg hlen, if_neg hlen, if_pos hcut, if_pos hcut]
  rw [if_neg hsub, if_neg hsub, if_neg hlen, if_neg hlen, if_neg hcut, if_neg hcut]
  have hcovered : span? (23 + declaredSize b) b 0 = some (b.take (23 + declaredSize b)) :=
    span?_eq_take (by omega)
  rw [hcovered, beWord?_eq_wordAt (show 23 + declaredSize b + 1 < b.length by omega)]
  simp only [Option.bind_some]
  by_cases hsum : checksum (b.take (23 + declaredSize b)) = wordAt b (23 + declaredSize b)
  · rw [if_neg (not_not_intro hsum), if_pos hsum, uid?_eq_uidAt (by omega),
      uid?_eq_uidAt (by omega), hbyte 14 (by decide), hbyte 15 (by decide), hbyte 16 (by decide),
      beWord?_eq_wordAt (by omega), hbyte 19 (by decide), beWord?_eq_wordAt (by omega),
      span?_eq_take (by omega)]
    rfl
  · rw [if_pos hsum, if_neg hsum]

def Envelope.at? (b : Bytes) : Option (Except CodecError Envelope) := do
  let rdmVersion ← b[12]?
  let net ← b[21]?
  let command ← b[22]?
  let address ← b[23]?
  let message ← tail? b 24
  let packet ← Rdm.Packet.decode? message
  return packet.map fun packet => ⟨rdmVersion, net &&& 0x7f, command, address, packet⟩

theorem Envelope.at?_eq {b : Bytes} (h : 24 ≤ b.length) :
    at? b = some ((Rdm.Packet.decode (b.drop 24)).map fun packet =>
      ⟨byteAt b 12, byteAt b 21 &&& 0x7f, byteAt b 22, byteAt b 23, packet⟩) := by
  simp (disch := omega) only [at?, getElem?_eq_byteAt, tail?_eq_drop, Rdm.Packet.decode?_eq,
    Option.bind_eq_bind, Option.bind_some, Option.pure_def]

theorem Message.readFields_rdm {b : Bytes} (h : 24 ≤ b.length) :
    readFields .rdm (b.drop 12) =
      some (((Rdm.Packet.decode (b.drop 24)).map fun packet =>
        (⟨byteAt b 12, byteAt b 21 &&& 0x7f, byteAt b 22, byteAt b 23, packet⟩ : Envelope)).map
          rdm) := by
  have hskip := reads_skip 8 (by decide)
  simp (disch := omega) only [readFields, Envelope.fields, reads_byte.bind, hskip.bind,
    Reader.bind_remaining, getElem?_eq_byteAt, span?_eq_take, Option.bind_some, Option.map_some,
    Reader.pure_apply, Nat.reduceAdd]
  cases Rdm.Packet.decode (b.drop 24) <;> rfl

namespace Message

def fields? (b : Bytes) : Layout → Option (Except CodecError Message)
  | .poll => (Poll.at? b).map fun p => .ok (poll p)
  | .pollReply => (PollReply.at? b).map fun r => .ok (pollReply r)
  | .diagnostic => (Diagnostic.at? b).map fun d => .ok (diagnostic d)
  | .dmx => (DmxFrame.at? b).map fun f => .ok (dmx f)
  | .sync => some (.ok sync)
  | .programming => (NodeProgramming.at? b).map fun p => .ok (programming p)
  | .todRequest => (TodRequest.at? b).map fun r => .ok (todRequest r)
  | .todData => (TodData.at? b).map fun d => .ok (todData d)
  | .todControl => (TodControl.at? b).map fun c => .ok (todControl c)
  | .rdm => (Envelope.at? b).map fun e => e.map rdm

def decodeAs? (l : Layout) (b : Bytes) : Option (Except CodecError Message) :=
  if b.length < l.minSize then some (.error (.tooShort l.minSize b.length))
  else if l.opcode.hasVersion then do
    let version ← beWord? b 10
    if version < protocolVersion then some (.error (.oldVersion version)) else fields? b l
  else fields? b l

/-- Reads a datagram by place. -/
def decode? (b : Bytes) : Option (Except CodecError Message) :=
  if b.length < 8 then some (.error .missingIdentifier)
  else do
    let opening ← span? 8 b 0
    if opening ≠ identifier then some (.error .missingIdentifier)
    else if b.length < 10 then some (.error (.tooShort 10 b.length))
    else do
      let code ← leWord? b 8
      match Layout.ofOpCode? (OpCode.ofCode code) with
      | some l => decodeAs? l b
      | none => return .ok (unsupported (OpCode.ofCode code) b)

private theorem exists_fields {α : Type} {found : Option α} {read : Option (α × Bytes)}
    (h : ∃ x rest, found = some x ∧ read = some (x, rest)) (f : α → Except CodecError Message) :
    ∃ result, found.map f = some result ∧ (read.map fun r => f r.1) = some result := by
  obtain ⟨x, rest, rfl, rfl⟩ := h
  exact ⟨f x, rfl, rfl⟩

/-- From the least size of a layout on, its fields are the same by place and in order. -/
theorem fields?_eq_readFields {l : Layout} {b : Bytes} (h : l.minSize ≤ b.length) :
    ∃ result, fields? b l = some result ∧ readFields l (b.drop l.headerSize) = some result := by
  cases l with
  | poll => exact exists_fields (Poll.at?_eq_read h) fun p => .ok (poll p)
  | pollReply => exact exists_fields (PollReply.at?_eq_read h) fun r => .ok (pollReply r)
  | diagnostic => exact exists_fields (Diagnostic.at?_eq_read h) fun d => .ok (diagnostic d)
  | dmx => exact exists_fields (DmxFrame.at?_eq_read h) fun f => .ok (dmx f)
  | sync => exact ⟨.ok sync, rfl, rfl⟩
  | programming => exact exists_fields (NodeProgramming.at?_eq_read h) fun p => .ok (programming p)
  | todRequest => exact exists_fields (TodRequest.at?_eq_read h) fun r => .ok (todRequest r)
  | todData => exact exists_fields (TodData.at?_eq_read h) fun d => .ok (todData d)
  | todControl => exact exists_fields (TodControl.at?_eq_read h) fun c => .ok (todControl c)
  | rdm => exact ⟨_, by rw [fields?, Envelope.at?_eq h]; rfl, readFields_rdm h⟩

/-- No access of a reader that goes by one layout is out of range, whatever the identifier and the
operation of the datagram say. -/
theorem decodeAs?_eq (l : Layout) (b : Bytes) : decodeAs? l b = some (decodeAs l b) := by
  rw [decodeAs_eq]
  by_cases hlen : b.length < l.minSize
  · rw [decodeAs?, if_pos hlen, if_pos hlen]
  obtain ⟨result, hplaces, hread⟩ := fields?_eq_readFields (Nat.not_lt.mp hlen)
  rw [decodeAs?, if_neg hlen, if_neg hlen, hread, Option.getD_some, hplaces]
  by_cases hv : l.opcode.hasVersion
  · have hmin := l.headerSize_le.2
    rw [Layout.headerSize, if_pos hv] at hmin
    rw [if_pos hv, beWord?_eq_wordAt (by omega)]
    by_cases hold : wordAt b 10 < protocolVersion
    · rw [if_pos ⟨hv, hold⟩]
      exact if_pos hold
    · rw [if_neg fun h => hold h.2]
      exact if_neg hold
  · rw [if_neg hv, if_neg fun h => hv h.1]

/-- No access of a reader of datagrams is out of range. -/
theorem decode?_eq (b : Bytes) : decode? b = some (decode b) := by
  rw [decode_eq]
  by_cases hshort : b.length < 8
  · have hid : b.take 8 ≠ identifier := fun h => Nat.not_le.mpr hshort (length_of_identifier h)
    rw [decode?, if_pos hshort, if_pos hid]
  have hopening : span? 8 b 0 = some (b.take 8) := span?_eq_take (by omega)
  simp only [decode?, if_neg hshort, hopening, Option.bind_eq_bind, Option.bind_some]
  by_cases hid : b.take 8 ≠ identifier
  · rw [if_pos hid, if_pos hid]
  by_cases hlen : b.length < 10
  · rw [if_neg hid, if_neg hid, if_pos hlen, if_pos hlen]
  rw [if_neg hid, if_neg hid, if_neg hlen, if_neg hlen, leWord?_eq_word16 (by omega)]
  change (match Layout.ofOpCode? (opcodeAt b) with
    | some l => decodeAs? l b
    | none => some (.ok (unsupported (opcodeAt b) b))) = _
  cases Layout.ofOpCode? (opcodeAt b) with
  | some l => exact decodeAs?_eq l b
  | none => rfl

end Message

end LightingNet
