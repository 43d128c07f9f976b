import LightingNet.Proofs.Rdm.Attempt
import LightingNet.Proofs.Simulation.Wired
import Mathlib.Data.List.Forall2
/-!
# Loading a simulated responder

What a controller loads of a responder is what the responder has: its information, its labels, and
one entry for each of its modes and sensors. Texts arrive as a label keeps them.
-/
namespace LightingNet

open Simulation

namespace Rdm

theorem labelText_labelBytes (s : String) : labelText (labelBytes s) = keptText 32 s := by
  rw [labelText, labelBytes, List.take_take, Nat.min_self, fieldText, ← untilNul_map_asciiByte]
  rfl

theorem DeviceInfo.parse_toBytes (i : DeviceInfo) : parse i.toBytes = .ok i := by
  have hlen : ¬(i.toBytes.length < 19) := by simp [toBytes]
  have hread : fields (i.toBytes ++ []) = some (i, []) := by
    simp only [fields, toBytes, List.append_assoc, List.cons_append, List.nil_append,
      Reader.undoes_beWord.bind, Reader.undoes_beDouble.bind, Reader.bind_byte_cons,
      Reader.pure_apply]
  rw [List.append_nil] at hread
  rw [parse, readParameter, if_neg hlen, hread]

end Rdm

namespace Simulation

open Rdm (DeviceInfo Personality SensorDefinition ParameterId)

def Responder.info (d : Responder) : DeviceInfo :=
  ⟨0x0100, d.modelId, 0x0101, 0x00010000, d.footprint, d.currentMode, UInt8.ofNat d.modes.length,
    d.startAddress, 0, UInt8.ofNat d.sensors.length⟩

theorem Responder.infoBytes_eq (d : Responder) : d.infoBytes = d.info.toBytes := rfl

def Mode.personality (m : Mode) (number : UInt8) : Personality :=
  ⟨number, m.footprint, keptText 32 m.description⟩

def sensorDefinition (name : String) (number : UInt8) : SensorDefinition :=
  ⟨number, 0, 1, 0, -40, 120, 0, 80, 3, keptText 32 name⟩

def Responder.listed : List ParameterId :=
  [.deviceModelDescription, .manufacturerLabel, .deviceLabel, .dmxPersonality,
    .dmxPersonalityDescription, .sensorDefinition, .sensorValue]

private theorem supportedParameters_listedParameters :
    Rdm.supportedParameters (Responder.listedParameters.flatMap be16) = Responder.listed := by
  decide

/-- What a controller knows of a responder at an output when it has loaded it. -/
def Responder.description (d : Responder) (location : OutputAddress) : Rdm.Device where
  uid := d.uid
  location
  info := d.info
  supported := Responder.listed
  manufacturerLabel := some (keptText 32 d.manufacturerLabel)
  modelDescription := some (keptText 32 d.modelDescription)
  softwareVersionLabel := some (keptText 32 d.softwareVersionLabel)
  personalities := d.modes.mapIdx fun i m => m.personality (UInt8.ofNat (i + 1))
  sensors := d.sensors.mapIdx fun i name => sensorDefinition name (UInt8.ofNat i)

private theorem parse_personality (m : Mode) (number : UInt8) :
    Personality.parse ([number] ++ be16 m.footprint ++ labelBytes m.description) =
      .ok (m.personality number) := by
  have hlen : ¬(([number] ++ be16 m.footprint ++ labelBytes m.description).length < 3) := by simp
  have hread : Personality.fields ([number] ++ be16 m.footprint ++ labelBytes m.description) =
      some (m.personality number, []) := by
    simp only [Personality.fields, List.cons_append, List.nil_append,
      Reader.bind_byte_cons, Reader.undoes_beWord.bind, Reader.bind_remaining, Reader.pure_apply,
      Rdm.labelText_labelBytes, Mode.personality]
  rw [Personality.parse, Rdm.readParameter, if_neg hlen, hread]

private theorem bind_beSigned {β : Type} (f : Int16 → Reader β) (n : Int16) (rest : Bytes) :
    (Reader.beSigned >>= f) (signedBytes n ++ rest) = f n rest := by
  have hword : Reader.beSigned (signedBytes n ++ rest) = some (n, rest) := by
    rw [Reader.beSigned, signedBytes, Reader.undoes_beWord.bind, Reader.pure_apply,
      Int16.toInt16_toUInt16]
  rw [Reader.bind_apply, hword]
  rfl

private theorem parse_sensorDefinition (name : String) (number : UInt8) :
    SensorDefinition.parse ([number, 0, 1, 0] ++ [-40, 120, 0, 80].flatMap signedBytes ++ [3]
      ++ labelBytes name) = .ok (sensorDefinition name number) := by
  have hlen : ¬(([number, 0, 1, 0] ++ [-40, 120, 0, 80].flatMap signedBytes ++ [3]
      ++ labelBytes name).length < 13) := by
    simp only [signedBytes, List.flatMap_cons, List.flatMap_nil, List.length_append, length_be16,
      List.length_cons, List.length_nil]
    omega
  have hread : SensorDefinition.fields ([number, 0, 1, 0] ++ [-40, 120, 0, 80].flatMap signedBytes
      ++ [3] ++ labelBytes name) = some (sensorDefinition name number, []) := by
    simp only [SensorDefinition.fields, List.flatMap_cons, List.flatMap_nil, List.append_assoc,
      List.cons_append, List.nil_append, Reader.bind_byte_cons, bind_beSigned,
      Reader.bind_remaining, Reader.pure_apply, Rdm.labelText_labelBytes, sensorDefinition]
  rw [SensorDefinition.parse, Rdm.readParameter, if_neg hlen, hread]

end Simulation

namespace Rdm

private theorem readEntries_cons {σ α : Type} {entry : UInt8 → Attempt σ α} {number : UInt8}
    {value : α} {s s' : σ} (h : entry number s = (.ok value, s')) (rest : List UInt8) :
    readEntries entry (number :: rest) s =
      (value :: (readEntries entry rest s').1, (readEntries entry rest s').2) := by
  rw [readEntries]
  exact stateM_bind (x := (entry number).run) h

private theorem readEntries_all {σ α : Type} {entry : UInt8 → Attempt σ α} {P : σ → Prop}
    {numbers : List UInt8} {values : List α}
    (h : List.Forall₂ (fun number value => ∀ s, P s → ∃ s', entry number s = (.ok value, s') ∧ P s')
      numbers values) {s : σ} (hs : P s) :
    ∃ s', readEntries entry numbers s = (values, s') ∧ P s' := by
  induction h generalizing s with
  | nil => exact ⟨s, rfl, hs⟩
  | cons hentry _ ih =>
    obtain ⟨s', hread, hs'⟩ := hentry s hs
    obtain ⟨s'', hrest, hs''⟩ := ih hs'
    refine ⟨s'', ?_, hs''⟩
    rw [readEntries_cons hread, hrest]

section Load

variable {σ : Type} {line : Line σ} {gateway : σ → Gateway} {p : Place} {location : OutputAddress}
  {d : Responder}

private theorem readLabel_eq {device : Device} (hlocation : device.location = location)
    (huid : device.uid = d.uid) (pid : ParameterId) (husable : device.isUsable pid = true)
    (text : String) (hget : d.get pid.code [] = .ok (labelBytes text))
    (h : line.Reaches gateway p location d) :
    ∃ line', device.readLabel Line.ask pid line = (some (keptText 32 text), line') ∧
      line'.Reaches gateway p location d := by
  obtain ⟨reply, line', hexchange, hdata, hreaches⟩ :=
    line.exchange_get h pid (show [].length ≤ 231 by decide) hget
  refine ⟨line', ?_, hreaches⟩
  rw [← hlocation, ← huid] at hexchange
  rw [Device.readLabel, if_pos husable, ← labelText_labelBytes, ← hdata]
  exact stateM_bind (x := (device.get Line.ask pid []).run) hexchange

private theorem readNumbered_eq {device : Device} (hlocation : device.location = location)
    (huid : device.uid = d.uid) (pid : ParameterId) (husable : device.isUsable pid = true) {α : Type}
    {parse : Bytes → Except CodecError α} {numbers : List UInt8} {values : List α}
    (hvalues : List.Forall₂ (fun number value => ∃ bytes, d.get pid.code [number] = .ok bytes ∧
      parse bytes = .ok value) numbers values)
    (h : line.Reaches gateway p location d) :
    ∃ line', device.readNumbered Line.ask pid parse numbers line = (values, line') ∧
      line'.Reaches gateway p location d := by
  rw [Device.readNumbered, if_pos husable]
  refine readEntries_all (P := fun line : Line σ => line.Reaches gateway p location d) ?_ h
  apply hvalues.imp
  intro number value hvalue line h
  obtain ⟨bytes, hget, hparse⟩ := hvalue
  obtain ⟨reply, line', hexchange, hdata, hreaches⟩ :=
    line.exchange_get h pid (show [number].length ≤ 231 by simp) hget
  have hread : device.get Line.ask pid [number] line = (.ok reply, line') := by
    rw [← hlocation, ← huid] at hexchange
    exact hexchange
  refine ⟨line', ?_, hreaches⟩
  rw [Attempt.bind_ok hread, parsed, hdata, hparse, Attempt.liftM_ok]

private theorem numbersFrom_eq (first : Nat) {count : Nat} (h : count ≤ 255) :
    Device.numbersFrom first (UInt8.ofNat count) =
      (List.range' first count).map UInt8.ofNat := by
  rw [Device.numbersFrom, UInt8.toNat_ofNat_of_lt' (show _ < 256 by omega)]

private theorem forall₂_mapIdx {α β : Type} {R : UInt8 → β → Prop} {xs : List α} (f : Nat → α → β)
    (first : Nat) (h : ∀ i (hi : i < xs.length), R (UInt8.ofNat (first + i)) (f i xs[i])) :
    List.Forall₂ R ((List.range' first xs.length).map UInt8.ofNat) (xs.mapIdx f) := by
  rw [List.forall₂_iff_get]
  constructor
  · simp
  · intro i hi hi'
    simpa using h i (by simpa using hi)

private theorem modes_described (d : Responder) (location : OutputAddress)
    (h : d.modes.length ≤ 255) : List.Forall₂ (fun number value => ∃ bytes,
        d.get ParameterId.dmxPersonalityDescription.code [number] = .ok bytes ∧
        Personality.parse bytes = .ok value)
      (Device.numbersFrom 1 d.info.personalityCount) (d.description location).personalities := by
  have hcount : d.info.personalityCount = UInt8.ofNat d.modes.length := rfl
  rw [hcount, numbersFrom_eq 1 h]
  apply forall₂_mapIdx
  intro i hi
  have hnumber : (UInt8.ofNat (1 + i)).toNat = 1 + i :=
    UInt8.toNat_ofNat_of_lt' (show _ < 256 by omega)
  have hne : UInt8.ofNat (1 + i) ≠ 0 := by
    intro hzero
    rw [hzero, UInt8.toNat_zero] at hnumber
    omega
  have hmode : d.modeBytes (UInt8.ofNat (1 + i)) =
      .ok ([UInt8.ofNat (1 + i)] ++ be16 d.modes[i].footprint ++ labelBytes d.modes[i].description) := by
    rw [Responder.modeBytes, if_neg hne, hnumber, Nat.add_sub_cancel_left, List.getElem?_eq_getElem hi]
  refine ⟨_, hmode, ?_⟩
  rw [parse_personality, Nat.add_comm]

private theorem sensors_described (d : Responder) (location : OutputAddress)
    (h : d.sensors.length ≤ 255) : List.Forall₂ (fun number value => ∃ bytes,
        d.get ParameterId.sensorDefinition.code [number] = .ok bytes ∧
        SensorDefinition.parse bytes = .ok value)
      (Device.numbersFrom 0 d.info.sensorCount) (d.description location).sensors := by
  have hcount : d.info.sensorCount = UInt8.ofNat d.sensors.length := rfl
  rw [hcount, numbersFrom_eq 0 h]
  apply forall₂_mapIdx
  intro i hi
  rw [Nat.zero_add]
  have hnumber : (UInt8.ofNat i).toNat = i := UInt8.toNat_ofNat_of_lt' (show _ < 256 by omega)
  have hsensor : d.sensorBytes (UInt8.ofNat i) = .ok ([UInt8.ofNat i, 0, 1, 0]
      ++ [-40, 120, 0, 80].flatMap signedBytes ++ [3] ++ labelBytes d.sensors[i]) := by
    simp only [Responder.sensorBytes, hnumber, List.getElem?_eq_getElem hi]
  exact ⟨_, hsensor, parse_sensorDefinition _ _⟩

private theorem describe_reaches (hmodes : d.modes.length ≤ 255) (hsensors : d.sensors.length ≤ 255)
    (h : line.Reaches gateway p location d) :
    ∃ line', Device.describe Line.ask d.uid location d.info line = (d.description location, line') ∧
      line'.Reaches gateway p location d := by
  have hget : d.get ParameterId.supportedParameters.code [] =
      .ok (Responder.listedParameters.flatMap be16) := rfl
  obtain ⟨listed, line₁, hlisted, hdata, h₁⟩ :=
    line.exchange_get h .supportedParameters (by simp) hget
  have hsupported : supportedParameters listed.data = Responder.listed := by
    rw [hdata, supportedParameters_listedParameters]
  let device : Device := ⟨d.uid, location, d.info, Responder.listed, none, none, none, [], []⟩
  have hlocation : device.location = location := rfl
  have huid : device.uid = d.uid := rfl
  obtain ⟨line₂, hmanufacturer, h₂⟩ :=
    readLabel_eq hlocation huid .manufacturerLabel rfl d.manufacturerLabel rfl h₁
  obtain ⟨line₃, hmodel, h₃⟩ :=
    readLabel_eq hlocation huid .deviceModelDescription rfl d.modelDescription rfl h₂
  obtain ⟨line₄, hsoftware, h₄⟩ :=
    readLabel_eq hlocation huid .softwareVersionLabel rfl d.softwareVersionLabel rfl h₃
  obtain ⟨line₅, hpersonalities, h₅⟩ := readNumbered_eq hlocation huid .dmxPersonalityDescription rfl
    (modes_described d location hmodes) h₄
  obtain ⟨line₆, hdefinitions, h₆⟩ := readNumbered_eq hlocation huid .sensorDefinition rfl
    (sensors_described d location hsensors) h₅
  have hlist : (Line.ask.exchange location d.uid false .supportedParameters []).run line =
      (.ok listed, line₁) := hlisted
  refine ⟨line₆, ?_, h₆⟩
  rw [Device.describe, stateM_bind hlist]
  simp only [hsupported]
  rw [stateM_bind hmanufacturer, stateM_bind hmodel, stateM_bind hsoftware,
    stateM_bind hpersonalities, stateM_bind hdefinitions]
  rfl

theorem load_reaches (hmodes : d.modes.length ≤ 255) (hsensors : d.sensors.length ≤ 255)
    (h : line.Reaches gateway p location d) :
    ∃ line', Device.load Line.ask d.uid location line = (.ok (d.description location), line') ∧
      line'.Reaches gateway p location d := by
  have hget : d.get ParameterId.deviceInfo.code [] = .ok d.infoBytes := rfl
  obtain ⟨reply, line₁, hinfo, hdata, h₁⟩ :=
    line.exchange_get h .deviceInfo (by simp) hget
  obtain ⟨line₂, hdescribe, h₂⟩ := describe_reaches hmodes hsensors h₁
  refine ⟨line₂, ?_, h₂⟩
  rw [Device.load, Attempt.bind_ok hinfo]
  simp only [parsed, hdata, d.infoBytes_eq, DeviceInfo.parse_toBytes]
  rw [Attempt.bind_ok (Attempt.liftM_ok d.info line₁), Attempt.liftM_state, hdescribe]

end Load

end Rdm

end LightingNet
