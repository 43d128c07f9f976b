import LightingNet.Rdm.Uid
import LightingNet.Text.Utf8
/-!
# Simulated responders

An RDM device that answers requests from its own state. It refuses what it does not know, data that
is not there or too long, and values out of range; a refused request changes nothing.
-/
namespace LightingNet.Simulation

structure Mode where
  footprint : UInt16
  description : String
  deriving DecidableEq, Repr

structure Responder where
  uid : Rdm.Uid
  modelId : UInt16
  manufacturerLabel : String
  modelDescription : String
  softwareVersionLabel : String
  deviceLabel : String
  startAddress : UInt16
  /-- The number of the mode in use, counted from one. -/
  currentMode : UInt8
  modes : List Mode
  /-- What each sensor is; all of them show the same value. -/
  sensors : List String
  sensorValue : Int16
  identify : Bool
  deriving DecidableEq, Repr

structure Request where
  net : UInt8
  address : UInt8
  destination : Rdm.Uid
  source : Rdm.Uid
  transaction : UInt8
  subDevice : UInt16
  command : UInt8
  pid : UInt16
  data : Bytes
  deriving DecidableEq, Repr

inductive Refusal where
  | unknownPid
  | badFormat
  | outOfRange
  deriving DecidableEq, Repr

def Refusal.code : Refusal → UInt16
  | unknownPid => 0
  | badFormat => 1
  | outOfRange => 6

/-- The parameter data of a label: the text, at most 32 bytes of it. -/
def labelBytes (s : String) : Bytes := (Utf8.ofString s).take 32

def signedBytes (n : Int16) : Bytes := be16 n.toUInt16

namespace Responder

def usual (manufacturer : UInt16) (device : UInt32) : Responder where
  uid := ⟨manufacturer, device⟩
  modelId := 0x0101
  manufacturerLabel := "Mock Lighting"
  modelDescription := "Mock Fixture"
  softwareVersionLabel := "1.0.0"
  deviceLabel := ""
  startAddress := 1
  currentMode := 1
  modes := [⟨3, "RGB"⟩, ⟨4, "RGBW"⟩]
  sensors := ["Temperature"]
  sensorValue := 35
  identify := false

def footprint (d : Responder) : UInt16 :=
  match d.modes[d.currentMode.toNat - 1]? with
  | some mode => mode.footprint
  | none => 0

def listedParameters : List UInt16 := [0x0080, 0x0081, 0x0082, 0x00e0, 0x00e1, 0x0200, 0x0201]

def infoBytes (d : Responder) : Bytes :=
  be16 0x0100 ++ be16 d.modelId ++ be16 0x0101 ++ be32 0x00010000 ++ be16 d.footprint
    ++ [d.currentMode, UInt8.ofNat d.modes.length] ++ be16 d.startAddress ++ be16 0
    ++ [UInt8.ofNat d.sensors.length]

def modeBytes (d : Responder) (number : UInt8) : Except Refusal Bytes :=
  if number = 0 then .error .outOfRange
  else match d.modes[number.toNat - 1]? with
    | some mode => .ok ([number] ++ be16 mode.footprint ++ labelBytes mode.description)
    | none => .error .outOfRange

/-- The definition of the sensor of a number: a temperature from -40 to 120, usually 0 to 80. -/
def sensorBytes (d : Responder) (number : UInt8) : Except Refusal Bytes :=
  match d.sensors[number.toNat]? with
  | some name =>
    .ok ([number, 0, 1, 0] ++ [-40, 120, 0, 80].flatMap signedBytes ++ [3] ++ labelBytes name)
  | none => .error .outOfRange

def valueBytes (d : Responder) (number : UInt8) : Except Refusal Bytes :=
  if number.toNat < d.sensors.length then
    let v := d.sensorValue
    .ok ([number] ++ [v, v - 5, v + 5, v].flatMap signedBytes)
  else .error .outOfRange

/-- An answer that depends on the first byte of the request's data. -/
def byNumber {α : Type} (data : Bytes) (answer : UInt8 → Except Refusal α) : Except Refusal α :=
  match data with
  | number :: _ => answer number
  | [] => .error .badFormat

def get (d : Responder) (pid : UInt16) (data : Bytes) : Except Refusal Bytes :=
  if pid = 0x0050 then .ok (listedParameters.flatMap be16)
  else if pid = 0x0060 then .ok d.infoBytes
  else if pid = 0x0081 then .ok (labelBytes d.manufacturerLabel)
  else if pid = 0x0080 then .ok (labelBytes d.modelDescription)
  else if pid = 0x00c0 then .ok (labelBytes d.softwareVersionLabel)
  else if pid = 0x0082 then .ok (labelBytes d.deviceLabel)
  else if pid = 0x00f0 then .ok (be16 d.startAddress)
  else if pid = 0x00e0 then .ok [d.currentMode, UInt8.ofNat d.modes.length]
  else if pid = 0x00e1 then byNumber data d.modeBytes
  else if pid = 0x0200 then byNumber data d.sensorBytes
  else if pid = 0x0201 then byNumber data d.valueBytes
  else if pid = 0x1000 then .ok [if d.identify then 1 else 0]
  else .error .unknownPid

def setStart (d : Responder) : Bytes → Except Refusal Responder
  | [hi, lo] =>
    let address := word16 hi lo
    if 1 ≤ address ∧ address ≤ 512 then .ok { d with startAddress := address }
    else .error .outOfRange
  | _ => .error .badFormat

def setMode (d : Responder) (number : UInt8) : Except Refusal Responder :=
  if number = 0 ∨ d.modes.length < number.toNat then .error .outOfRange
  else .ok { d with currentMode := number }

def set (d : Responder) (pid : UInt16) (data : Bytes) : Except Refusal Responder :=
  if pid = 0x0082 then .ok { d with deviceLabel := Utf8.toStringLossy (data.take 32) }
  else if pid = 0x00f0 then d.setStart data
  else if pid = 0x00e0 then byNumber data d.setMode
  else if pid = 0x1000 then byNumber data fun on => .ok { d with identify := on ≠ 0 }
  else .error .unknownPid

/-- Answers a request: the answer's data or the refusal, and the responder after it. -/
def respond (d : Responder) (r : Request) : Except Refusal Bytes × Responder :=
  if r.command = 0x20 then (d.get r.pid r.data, d)
  else if r.command = 0x30 then
    match d.set r.pid r.data with
    | .ok changed => (.ok [], changed)
    | .error e => (.error e, d)
  else (.error .unknownPid, d)

end Responder

end LightingNet.Simulation
