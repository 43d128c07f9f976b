import LightingNet.Rdm.Parameters
import LightingNet.Rdm.Requester
import LightingNet.Snapshot
/-!
# Devices

What a controller knows of one RDM device. Loading reads its description: the device must tell what
it is, and the rest is taken as far as it answers. A change is sent first; then the device is asked
again what it is, and only a complete answer changes what is known.
-/
namespace LightingNet.Rdm

/-- What is known of a device behind an output. -/
structure Device where
  uid : Uid
  location : OutputAddress
  info : DeviceInfo
  supported : List ParameterId
  manufacturerLabel : Option String
  modelDescription : Option String
  softwareVersionLabel : Option String
  personalities : List Personality
  sensors : List SensorDefinition
  deriving DecidableEq, Repr

/-- Something that asks questions and may fail. What was asked stays asked when it fails. -/
abbrev Attempt (σ : Type) := ExceptT Fault (StateM σ)

/-- Takes an answer that accepts the request, and gives the fault of any other. -/
def checkAck (pid : ParameterId) (reply : Packet) : Except Fault Packet :=
  match reply.responseType? with
  | some .ack => .ok reply
  | some .nackReason => .error (.refused pid (reply.nackReason?.getD (.other 0xffff)))
  | other => .error (.unexpectedResponse pid other)

def outcome (pid : ParameterId) : Option Packet → Except Fault Packet
  | some reply => checkAck pid reply
  | none => .error (.noResponse pid)

def parsed {α : Type} (parse : Bytes → Except CodecError α) (reply : Packet) : Except Fault α :=
  match parse reply.data with
  | .ok value => .ok value
  | .error e => .error (.codec e)

def Asker.exchange {σ : Type} (ask : Asker σ) (location : OutputAddress) (uid : Uid)
    (isSet : Bool) (pid : ParameterId) (data : Bytes) : Attempt σ Packet := fun s =>
  let (answer, s) := ask ⟨Target.ofOutput location, uid, isSet, pid.code, data⟩ s
  (outcome pid answer, s)

/-- Reads one entry after the other up to the first that fails. -/
def readEntries {σ α : Type} (entry : UInt8 → Attempt σ α) : List UInt8 → StateM σ (List α)
  | [] => return []
  | number :: rest => do
    match ← (entry number).run with
    | .ok value => return value :: (← readEntries entry rest)
    | .error _ => return []

namespace Device

/-- Whether a parameter may be used: every device has it, or this one lists it. -/
def isUsable (d : Device) (pid : ParameterId) : Bool := pid.isMandatory || d.supported.contains pid

def get {σ : Type} (d : Device) (ask : Asker σ) (pid : ParameterId) (data : Bytes) :
    Attempt σ Packet :=
  ask.exchange d.location d.uid false pid data

def readLabel {σ : Type} (d : Device) (ask : Asker σ) (pid : ParameterId) :
    StateM σ (Option String) := do
  if d.isUsable pid then
    match ← (d.get ask pid []).run with
    | .ok reply => return some (labelText reply.data)
    | .error _ => return none
  else return none

def readNumbered {σ α : Type} (d : Device) (ask : Asker σ) (pid : ParameterId)
    (parse : Bytes → Except CodecError α) (numbers : List UInt8) : StateM σ (List α) := do
  if d.isUsable pid then
    readEntries (fun number => do parsed parse (← d.get ask pid [number])) numbers
  else return []

def numbersFrom (first : Nat) (count : UInt8) : List UInt8 :=
  (List.range' first count.toNat).map UInt8.ofNat

def describe {σ : Type} (ask : Asker σ) (uid : Uid) (location : OutputAddress)
    (info : DeviceInfo) : StateM σ Device := do
  let listed ← (ask.exchange location uid false .supportedParameters []).run
  let supported := match listed with
    | .ok reply => supportedParameters reply.data
    | .error _ => []
  let d : Device := ⟨uid, location, info, supported, none, none, none, [], []⟩
  let manufacturerLabel ← d.readLabel ask .manufacturerLabel
  let modelDescription ← d.readLabel ask .deviceModelDescription
  let softwareVersionLabel ← d.readLabel ask .softwareVersionLabel
  let personalities ← d.readNumbered ask .dmxPersonalityDescription Personality.parse
    (numbersFrom 1 info.personalityCount)
  let sensors ← d.readNumbered ask .sensorDefinition SensorDefinition.parse
    (numbersFrom 0 info.sensorCount)
  return { d with
    manufacturerLabel, modelDescription, softwareVersionLabel, personalities, sensors }

def load {σ : Type} (ask : Asker σ) (uid : Uid) (location : OutputAddress) : Attempt σ Device := do
  let reply ← ask.exchange location uid false .deviceInfo []
  let info ← parsed DeviceInfo.parse reply
  describe ask uid location info

def loadFrom {σ : Type} (ask : Asker σ) (snapshot : Snapshot) (uid : Uid) : Attempt σ Device :=
  match snapshot.locate uid with
  | some location => load ask uid location
  | none => throw (.deviceNotFound uid)

def currentPersonality? (d : Device) : Option Personality :=
  d.personalities.find? fun p => p.number == d.info.currentPersonality

def standardParameters (d : Device) : List ParameterId := d.supported.filter ParameterId.isStandard

def unrecognizedParameters (d : Device) : List UInt16 :=
  (d.supported.filter fun p => !p.isStandard).map ParameterId.code

end Device

/-- A device in hand, with what questions are asked over. -/
structure Held (σ : Type) where
  device : Device
  line : σ

namespace Held

def exchange {σ : Type} (ask : Asker σ) (isSet : Bool) (pid : ParameterId) (data : Bytes) :
    Attempt (Held σ) Packet := fun h =>
  let (result, line) := ask.exchange h.device.location h.device.uid isSet pid data h.line
  (result, { h with line })

def refresh {σ : Type} (ask : Asker σ) : Attempt (Held σ) Unit := do
  let info ← parsed DeviceInfo.parse (← exchange ask false .deviceInfo [])
  modify fun h => { h with device := { h.device with info } }

/-- Sets a parameter, then asks the device again what it is. -/
def change {σ : Type} (ask : Asker σ) (pid : ParameterId) (data : Bytes) :
    Attempt (Held σ) Unit := do
  let _ ← exchange ask true pid data
  refresh ask

/-- Sets the first slot that the device listens to, from 1 to 512. -/
def setStartAddress {σ : Type} (ask : Asker σ) (address : UInt16) : Attempt (Held σ) Unit :=
  if 1 ≤ address ∧ address ≤ 512 then change ask .dmxStartAddress (be16 address)
  else throw (.setting (.startAddress address))

def setPersonality {σ : Type} (ask : Asker σ) (number : UInt8) : Attempt (Held σ) Unit := do
  let count := (← get).device.info.personalityCount
  if number = 0 ∨ count < number then throw (.setting (.personality number count))
  else change ask .dmxPersonality [number]

def deviceLabel {σ : Type} (ask : Asker σ) : Attempt (Held σ) String := do
  return labelText (← exchange ask false .deviceLabel []).data

def setDeviceLabel {σ : Type} (ask : Asker σ) (label : String) : Attempt (Held σ) Unit := do
  let _ ← exchange ask true .deviceLabel (labelData label)

def identify {σ : Type} (ask : Asker σ) (on : Bool) : Attempt (Held σ) Unit := do
  let _ ← exchange ask true .identifyDevice [if on then 1 else 0]

def sensorValue {σ : Type} (ask : Asker σ) (sensor : UInt8) : Attempt (Held σ) SensorValue := do
  parsed SensorValue.parse (← exchange ask false .sensorValue [sensor])

end Held

end LightingNet.Rdm
