import LightingNet.Proofs.Address.Dotted
import LightingNet.Proofs.Address.Ranges
import LightingNet.Proofs.Rdm.Spelling
import LightingNet.Proofs.Simulation.Readings
import LightingNet.Proofs.Wire.Reencoding
import LightingNet.Report.Device
import LightingNet.Report.Simulation
/-!
# Reports are read back

A record of which every field has a value that its format keeps is read back as it was written, whatever
other fields stand around it. All formats keep all values but two: codes keep what goes by its own name,
and the parts of a port-address keep what lies within its ranges. So a message is read back from its
report whenever it was read off a datagram.
-/
namespace LightingNet

namespace Report

variable {α β σ : Type}

/-- A format keeps a value when it reads it back and does not write it as null. -/
structure Format.Keeps (f : Format α) (a : α) : Prop where
  back : f.read (f.write a) = some a
  shown : f.write a ≠ .null

def Field.Keeps (f : Field σ) (s : σ) : Prop := f.format.Keeps (f.get s)

def Record.Keeps (r : Record σ) (s : σ) : Prop := ∀ f ∈ r.fields, f.Keeps s

@[simp] theorem Field.keeps_of {name : String} {f : Format α} {get : σ → α} {set : σ → α → σ}
    {s : σ} : (Field.of name f get set).Keeps s ↔ f.Keeps (get s) := Iff.rfl

@[simp] theorem Field.keeps_needing {name : String} {f : Format α} {get : σ → α}
    {set : σ → α → σ} {s : σ} : (Field.needing name f get set).Keeps s ↔ f.Keeps (get s) := Iff.rfl

namespace Record

variable {r : Record σ} {s : σ} {j : Json}

private theorem lookup_write {fields : List (Field σ)} (hnodup : (fields.map Field.name).Nodup)
    {f : Field σ} (hf : f ∈ fields) (s : σ) :
    (fields.map fun f => f.write s).lookup f.name = some (f.format.write (f.get s)) := by
  induction fields with
  | nil => cases hf
  | cons g fields ih =>
    obtain ⟨hg, hrest⟩ := List.nodup_cons.mp hnodup
    rw [List.map_cons, Field.write]
    rcases List.mem_cons.mp hf with rfl | hf
    · exact List.lookup_cons_self
    · have hne : f.name ≠ g.name := by
        rintro heq
        exact hg (heq ▸ List.mem_map_of_mem hf)
      rw [List.lookup_cons, beq_eq_false_iff_ne.mpr hne]
      exact ih hrest hf

private theorem foldlM_read {fields : List (Field σ)}
    (hread : ∀ f ∈ fields, j.get? f.name = some (f.format.write (f.get s)) ∧ f.Keeps s) (t : σ) :
    fields.foldlM (fun t f => f.read j t) t =
      some (fields.foldl (fun t f => f.set t (f.get s)) t) := by
  induction fields generalizing t with
  | nil => rfl
  | cons f fields ih =>
    obtain ⟨hget, hkeeps⟩ := hread f List.mem_cons_self
    have hfield : f.read j t = some (f.set t (f.get s)) := by
      rw [Field.read, hget]
      simp only [hkeeps.back, Option.map_some]
    rw [List.foldlM_cons, hfield]
    exact ih (fun g hg => hread g (List.mem_cons_of_mem f hg)) _

/-- A record is read back from an object that has its fields among others, as long as none of those
before them goes by the name of one. -/
theorem read_write (hkeeps : r.Keeps s) (before after : List (String × Json))
    (hbefore : ∀ f ∈ r.fields, before.lookup f.name = none) :
    r.read (.object (before ++ r.write s ++ after)) = some s := by
  have hget : ∀ f ∈ r.fields, Json.get? (.object (before ++ r.write s ++ after)) f.name =
      some (f.format.write (f.get s)) := by
    intro f hf
    have hlookup : (before ++ r.write s ++ after).lookup f.name =
        some (f.format.write (f.get s)) := by
      rw [List.append_assoc, List.lookup_append, List.lookup_append, hbefore f hf, write,
        lookup_write r.nodup hf]
      rfl
    rw [Json.get?, hlookup]
    have hshown := (hkeeps f hf).shown
    split
    · rename_i hnull
      exact absurd (Option.some.inj hnull) hshown
    · rfl
  rw [read, foldlM_read fun f hf => ⟨hget f hf, hkeeps f hf⟩, r.complete]

private theorem read_write_append (hkeeps : r.Keeps s) (after : List (String × Json)) :
    r.read (.object (r.write s ++ after)) = some s :=
  read_write hkeeps [] after fun _ _ => rfl

theorem read_toJson (hkeeps : r.Keeps s) : r.read (r.toJson s) = some s := by
  rw [toJson, ← List.append_nil (r.write s)]
  exact read_write_append hkeeps []

theorem keeps_format (hkeeps : r.Keeps s) : r.format.Keeps s :=
  ⟨read_toJson hkeeps, nofun⟩

end Record

/-! ### Formats -/

namespace Format

private theorem natBelow?_nat {bound n : Nat} (h : n < bound) :
    (Json.nat n).natBelow? bound = some n := by
  change (if 0 ≤ (n : Int) ∧ (n : Int) < bound then some (n : Int).toNat else none) = some n
  rw [if_pos ⟨Int.natCast_nonneg n, Int.ofNat_lt.mpr h⟩, Int.toNat_natCast]

@[simp] theorem keeps_byte (b : UInt8) : byte.Keeps b where
  back := by
    simp only [byte, Json.byte, Json.byte?, natBelow?_nat b.toNat_lt, Option.map_some,
      UInt8.ofNat_toNat]
  shown := nofun

@[simp] theorem keeps_word (w : UInt16) : word.Keeps w where
  back := by
    simp only [word, Json.word, Json.word?, natBelow?_nat w.toNat_lt, Option.map_some,
      UInt16.ofNat_toNat]
  shown := nofun

@[simp] theorem keeps_double (d : UInt32) : double.Keeps d where
  back := by
    simp only [double, Json.double, Json.double?, natBelow?_nat d.toNat_lt, Option.map_some,
      UInt32.ofNat_toNat]
  shown := nofun

@[simp] theorem keeps_signed (n : Int16) : signed.Keeps n where
  back := by
    have hlow : -32768 ≤ n.toInt := n.le_toInt
    have hhigh : n.toInt < 32768 := n.toInt_lt
    simp only [signed, Json.signed, Json.signed?]
    rw [if_pos ⟨hlow, by omega⟩, Int16.ofInt_toInt]
  shown := nofun

@[simp] theorem keeps_text (t : String) : text.Keeps t := ⟨rfl, nofun⟩

@[simp] theorem keeps_bytes (b : Bytes) : bytes.Keeps b where
  back := by simp only [bytes, Json.hex, Json.bytes?, Json.text?, Option.bind_some, Hex.decode?_encode]
  shown := nofun

theorem keeps_list {f : Format α} {xs : List α} (h : ∀ x ∈ xs, f.Keeps x) :
    (list f).Keeps xs where
  back := by
    simp only [list, Json.list, Json.listOf?]
    induction xs with
    | nil => rfl
    | cons x xs ih =>
      rw [List.map_cons, List.mapM_cons, (h x List.mem_cons_self).back,
        ih fun y hy => h y (List.mem_cons_of_mem x hy)]
      rfl
  shown := nofun

private theorem listOf?_bytes (b : Bytes) : (Json.list Json.byte b).listOf? Json.byte? = some b :=
  (keeps_list (f := byte) fun b _ => keeps_byte b).back

@[simp] theorem keeps_octets {n : Nat} (v : Octets n) : (octets n).Keeps v where
  back := by
    simp only [octets, Json.octets, Json.octets?, listOf?_bytes, Option.bind_eq_bind,
      Option.bind_some, Vector.length_toList, ↓reduceDIte, Option.some.injEq]
    apply Vector.toArray_inj.mp
    exact Array.toArray_toList
  shown := nofun

@[simp] theorem keeps_uid (u : Rdm.Uid) : uid.Keeps u where
  back := by
    simp only [uid, Json.uid, Json.uid?, Json.text?, Option.bind_some]
    exact Rdm.Uid.parse?_eq_some_iff.mpr u.spells_text
  shown := nofun

@[simp] theorem keeps_plainUid (u : Rdm.Uid) : plainUid.Keeps u where
  back := by
    have hbytes : (Json.hex u.bytes).bytes? = some u.bytes := (keeps_bytes u.bytes).back
    simp only [plainUid, Json.plainUid, Json.plainUid?, hbytes, Option.bind_some, u.ofBytes?_bytes]
  shown := nofun

@[simp] theorem keeps_ipv4 (ip : Ipv4) : ipv4.Keeps ip where
  back := by simp only [ipv4, Json.ipv4?, Json.text?, Option.bind_some, ip.parse?_text]
  shown := nofun

@[simp] theorem keeps_ipv4Socket (s : Ipv4Socket) : ipv4Socket.Keeps s where
  back := by simp only [ipv4Socket, Json.ipv4Socket?, Json.text?, Option.bind_some, s.parse?_text]
  shown := nofun

theorem keeps_portParts {p : PortAddress} (h : p.InRange) : portParts.Keeps p where
  back := by
    have hmasked : PortAddress.masked p.net p.subnet p.uni = p := by
      rw [PortAddress.masked, (and_seven_bits_iff _).mpr h.1, (and_four_bits_iff _).mpr h.2.1,
        (and_four_bits_iff _).mpr h.2.2]
    simp only [portParts, Json.portParts, Json.port?, listOf?_bytes, Option.bind_eq_bind,
      Option.bind_some, hmasked]
  shown := nofun

theorem keeps_coded {f : Format β} {code : α → β} {ofCode : β → α} {a : α}
    (hcode : f.Keeps (code a)) (h : ofCode (code a) = a) : (coded f code ofCode).Keeps a where
  back := by simp only [coded, hcode.back, Option.map_some, h]
  shown := hcode.shown

end Format

end Report

open Report

private theorem PollReply.keeps_record (r : PollReply) : record.Keeps r := by
  simp [Record.Keeps, record]

private theorem Poll.keeps_record (p : Poll) : record.Keeps p := by simp [Record.Keeps, record]

private theorem Diagnostic.keeps_record (d : Diagnostic) : record.Keeps d := by
  simp [Record.Keeps, record]

private theorem NodeProgramming.keeps_record (p : NodeProgramming) : record.Keeps p := by
  simp [Record.Keeps, record]

private theorem TodRequest.keeps_record (r : TodRequest) : record.Keeps r := by
  simp [Record.Keeps, record]

private theorem DmxFrame.keeps_record {f : DmxFrame} (h : f.port.InRange) : record.Keeps f := by
  simp [Record.Keeps, record, Format.keeps_portParts h]

private theorem TodData.keeps_record {d : TodData} (h : d.response.Named) : record.Keeps d := by
  have hresponse := (TodResponse.ofCode_code_iff _).mpr h
  simp [Record.Keeps, record, Format.keeps_coded, Format.keeps_list, hresponse]

private theorem TodControl.keeps_record {c : TodControl} (h : c.command.Named) :
    record.Keeps c := by
  have hcommand := (TodCommand.ofCode_code_iff _).mpr h
  simp [Record.Keeps, record, Format.keeps_coded, hcommand]

private theorem Rdm.Packet.keeps_record {p : Packet} (h : p.command.Named) : record.Keeps p := by
  have hcommand := (CommandClass.ofCode_code_iff _).mpr h
  simp [Record.Keeps, record, Format.keeps_coded, hcommand]

private theorem Envelope.keeps_record {e : Envelope} (h : e.packet.command.Named) :
    record.Keeps e := by
  have hpacket := Record.keeps_format (Rdm.Packet.keeps_record h)
  simp [Record.Keeps, record, hpacket]

theorem Rdm.Packet.read_toJson {p : Packet} (h : p.command.Named) :
    record.read (record.toJson p) = some p := Record.read_toJson (keeps_record h)

theorem Rdm.DeviceInfo.read_toJson (i : DeviceInfo) : record.read (record.toJson i) = some i :=
  Record.read_toJson (by simp [Record.Keeps, record])

theorem Rdm.Personality.read_toJson (p : Personality) : record.read (record.toJson p) = some p :=
  Record.read_toJson (by simp [Record.Keeps, record])

theorem Rdm.SensorDefinition.read_toJson (s : SensorDefinition) :
    record.read (record.toJson s) = some s :=
  Record.read_toJson (by simp [Record.Keeps, record])

theorem Rdm.SensorValue.read_toJson (v : SensorValue) : record.read (record.toJson v) = some v :=
  Record.read_toJson (by simp [Record.Keeps, record])

theorem Simulation.Request.read_toJson (r : Request) : record.read (record.toJson r) = some r :=
  Record.read_toJson (by simp [Record.Keeps, record])

theorem Simulation.TableQuery.read_toJson (q : TableQuery) :
    record.read (record.toJson q) = some q :=
  Record.read_toJson (by simp [Record.Keeps, record])

theorem NodeAddress.ofReport?_report {a : NodeAddress} (h : 1 ≤ a.bindIndex) :
    ofReport? a.report = some a := by
  have hkeeps : record.Keeps a := by simp [Record.Keeps, record]
  rw [ofReport?, report, Record.read_write_append hkeeps, Option.map_some, make, max_one_eq_self h]

namespace Message

/-- A message that its report tells: codes go by their names, and a frame names a universe that there
is. -/
def Reported : Message → Prop
  | dmx f => f.port.InRange
  | todData d => d.response.Named
  | todControl c => c.command.Named
  | rdm e => e.packet.command.Named
  | unsupported op _ => OpCode.ofCode op.code = op
  | _ => True

private theorem read_behind_kind {σ : Type} {r : Record σ} {s : σ} (hkeeps : r.Keeps s)
    (htype : "type" ∉ r.fields.map Field.name) (kind : String) (wrap : σ → Message) :
    (r.read (.object (("type", .text kind) :: r.write s))).map wrap = some (wrap s) := by
  have hbefore : ∀ f ∈ r.fields, [("type", Json.text kind)].lookup f.name = none := by
    intro f hf
    have hne : f.name ≠ "type" := fun h => htype (h ▸ List.mem_map_of_mem hf)
    rw [List.lookup_cons, beq_eq_false_iff_ne.mpr hne]
    rfl
  have hread := Record.read_write hkeeps _ [] hbefore
  rw [List.append_nil] at hread
  exact congrArg (Option.map wrap) hread

private theorem ofFields?_report {m : Message} {l : Layout} (hl : m.layout? = some l)
    (h : m.Reported) : ofFields? l m.report = some m := by
  cases m <;> cases hl <;> simp only [ofFields?, report, reportFields]
  case poll p => exact read_behind_kind p.keeps_record (by decide) _ _
  case pollReply r => exact read_behind_kind r.keeps_record (by decide) _ _
  case diagnostic d => exact read_behind_kind d.keeps_record (by decide) _ _
  case dmx f => exact read_behind_kind (DmxFrame.keeps_record h) (by decide) _ _
  case programming p => exact read_behind_kind p.keeps_record (by decide) _ _
  case todRequest r => exact read_behind_kind r.keeps_record (by decide) _ _
  case todData d => exact read_behind_kind (TodData.keeps_record h) (by decide) _ _
  case todControl c => exact read_behind_kind (TodControl.keeps_record h) (by decide) _ _
  case rdm e => exact read_behind_kind (Envelope.keeps_record h) (by decide) _ _

private theorem keeps_unsupportedRecord {op : OpCode} (d : Bytes) (h : OpCode.ofCode op.code = op) :
    unsupportedRecord.Keeps (op, d) := by
  simp [Record.Keeps, unsupportedRecord, Format.keeps_coded, h]

private theorem kind_of_layout? {m : Message} {l : Layout} (hl : m.layout? = some l) :
    m.kind = l.opcode.name := by
  cases m <;> cases hl <;> rfl

private theorem ofName?_name (l : Layout) :
    l.opcode.name ≠ "Unsupported" ∧ Layout.ofName? l.opcode.name = some l := by
  cases l <;> decide

theorem ofReport?_report {m : Message} (h : m.Reported) : ofReport? m.report = some m := by
  have hkind : Json.textAt "type" m.report = some m.kind := rfl
  rw [ofReport?, hkind, Option.bind_eq_bind, Option.bind_some]
  cases hl : m.layout? with
  | some l =>
    obtain ⟨hname, hlayout⟩ := ofName?_name l
    rw [kind_of_layout? hl]
    split
    · contradiction
    · rw [hlayout]
      exact ofFields?_report hl h
  | none =>
    cases m with
    | unsupported op d =>
      exact read_behind_kind (keeps_unsupportedRecord d h) (by decide) _ _
    | _ => cases hl

private theorem reported_of_decode {b : Bytes} {m : Message} (h : decode b = .ok m) :
    m.Reported := by
  have hlegible := legible_of_decode h
  cases m with
  | dmx f => exact hlegible.1
  | todData d => exact hlegible.2
  | todControl c => exact hlegible.command
  | rdm e => exact hlegible.packet.command
  | unsupported op d =>
    obtain ⟨hpeek, -, -⟩ := decode_eq_unsupported.mp h
    obtain ⟨-, -, rfl⟩ := (peekOpCode_eq_ok_iff b op).mp hpeek
    exact congrArg OpCode.ofCode (OpCode.code_ofCode _)
  | _ => trivial

/-- Every message that is read off a datagram is read back from its report. -/
theorem ofReport?_report_of_decode {b : Bytes} {m : Message} (h : decode b = .ok m) :
    ofReport? m.report = some m := ofReport?_report (reported_of_decode h)

end Message

end LightingNet
