import LightingNet.Ranked
import LightingNet.Rdm.ParameterId
import LightingNet.Text.Field
import LightingNet.Wire.Error
/-!
# Parameter layouts

How the parameters that a controller reads lie in the data of an answer. Labels are ASCII of at
most 32 bytes.
-/
namespace LightingNet

def Reader.beSigned : Reader Int16 := do return (← Reader.beWord).toInt16

namespace Rdm

def labelText (data : Bytes) : String := fieldText (data.take 32)

def labelData (s : String) : Bytes := wireText 32 s

/-- Reads parameter data that must have at least `size` bytes. -/
def readParameter {α : Type} (size : Nat) (reader : Reader α) (data : Bytes) :
    Except CodecError α :=
  if data.length < size then .error (.tooShort size data.length)
  else match reader data with
    | some (value, _) => .ok value
    | none => .error (.tooShort size data.length)

structure DeviceInfo where
  protocolVersion : UInt16
  modelId : UInt16
  productCategory : UInt16
  softwareVersion : UInt32
  dmxFootprint : UInt16
  currentPersonality : UInt8
  personalityCount : UInt8
  dmxStartAddress : UInt16
  subDeviceCount : UInt16
  sensorCount : UInt8
  deriving DecidableEq, Repr

namespace DeviceInfo

def fields : Reader DeviceInfo := do
  let protocolVersion ← Reader.beWord
  let modelId ← Reader.beWord
  let productCategory ← Reader.beWord
  let softwareVersion ← Reader.beDouble
  let dmxFootprint ← Reader.beWord
  let currentPersonality ← Reader.byte
  let personalityCount ← Reader.byte
  let dmxStartAddress ← Reader.beWord
  let subDeviceCount ← Reader.beWord
  let sensorCount ← Reader.byte
  return ⟨protocolVersion, modelId, productCategory, softwareVersion, dmxFootprint,
    currentPersonality, personalityCount, dmxStartAddress, subDeviceCount, sensorCount⟩

def parse (data : Bytes) : Except CodecError DeviceInfo := readParameter 19 fields data

def toBytes (i : DeviceInfo) : Bytes :=
  be16 i.protocolVersion ++ be16 i.modelId ++ be16 i.productCategory ++ be32 i.softwareVersion
    ++ be16 i.dmxFootprint ++ [i.currentPersonality, i.personalityCount] ++ be16 i.dmxStartAddress
    ++ be16 i.subDeviceCount ++ [i.sensorCount]

end DeviceInfo

/-- The codes in parameter data; an odd byte at the end is no code. -/
def parameterCodes : Bytes → List UInt16
  | hi :: lo :: rest => word16 hi lo :: parameterCodes rest
  | _ => []

/-- The parameters that a device lists, in their order and without repeats. -/
def supportedParameters (data : Bytes) : List ParameterId :=
  Ranked.ofList ParameterId.rank ((parameterCodes data).map ParameterId.ofCode)

structure Personality where
  number : UInt8
  footprint : UInt16
  description : String
  deriving DecidableEq, Repr

namespace Personality

def fields : Reader Personality := do
  let number ← Reader.byte
  let footprint ← Reader.beWord
  let description ← Reader.remaining
  return ⟨number, footprint, labelText description⟩

def parse (data : Bytes) : Except CodecError Personality := readParameter 3 fields data

end Personality

structure SensorDefinition where
  number : UInt8
  kind : UInt8
  unit : UInt8
  scale : UInt8
  rangeMin : Int16
  rangeMax : Int16
  normalMin : Int16
  normalMax : Int16
  recordedSupport : UInt8
  description : String
  deriving DecidableEq, Repr

namespace SensorDefinition

def fields : Reader SensorDefinition := do
  let number ← Reader.byte
  let kind ← Reader.byte
  let unit ← Reader.byte
  let scale ← Reader.byte
  let rangeMin ← Reader.beSigned
  let rangeMax ← Reader.beSigned
  let normalMin ← Reader.beSigned
  let normalMax ← Reader.beSigned
  let recordedSupport ← Reader.byte
  let description ← Reader.remaining
  return ⟨number, kind, unit, scale, rangeMin, rangeMax, normalMin, normalMax, recordedSupport,
    labelText description⟩

def parse (data : Bytes) : Except CodecError SensorDefinition := readParameter 13 fields data

end SensorDefinition

structure SensorValue where
  number : UInt8
  present : Int16
  lowest : Int16
  highest : Int16
  recorded : Int16
  deriving DecidableEq, Repr

namespace SensorValue

def fields : Reader SensorValue := do
  let number ← Reader.byte
  let present ← Reader.beSigned
  let lowest ← Reader.beSigned
  let highest ← Reader.beSigned
  let recorded ← Reader.beSigned
  return ⟨number, present, lowest, highest, recorded⟩

def parse (data : Bytes) : Except CodecError SensorValue := readParameter 9 fields data

end SensorValue

end Rdm

end LightingNet
