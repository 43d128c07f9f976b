import LightingNet.Rdm.Device
import LightingNet.Report.Snapshot
/-!
# Reports of devices

What is known of an RDM device, and the parameters read from one, as records.
-/
namespace LightingNet

open Report (Field Format Record)

namespace Rdm

def ParameterId.report (p : ParameterId) : Json := .text p.text

namespace DeviceInfo

def record : Record DeviceInfo where
  fields := [
    .of "protocol_version" .word protocolVersion fun i v => { i with protocolVersion := v },
    .of "model_id" .word modelId fun i v => { i with modelId := v },
    .of "product_category" .word productCategory fun i v => { i with productCategory := v },
    .of "software_version" .double softwareVersion fun i v => { i with softwareVersion := v },
    .of "dmx_footprint" .word dmxFootprint fun i v => { i with dmxFootprint := v },
    .of "current_personality" .byte currentPersonality
      fun i v => { i with currentPersonality := v },
    .of "personality_count" .byte personalityCount fun i v => { i with personalityCount := v },
    .of "dmx_start_address" .word dmxStartAddress fun i v => { i with dmxStartAddress := v },
    .of "sub_device_count" .word subDeviceCount fun i v => { i with subDeviceCount := v },
    .of "sensor_count" .byte sensorCount fun i v => { i with sensorCount := v }]
  missing := ⟨0, 0, 0, 0, 0, 0, 0, 0, 0, 0⟩

end DeviceInfo

namespace Personality

def record : Record Personality where
  fields := [
    .of "number" .byte number fun p v => { p with number := v },
    .of "footprint" .word footprint fun p v => { p with footprint := v },
    .of "description" .text description fun p v => { p with description := v }]
  missing := ⟨0, 0, ""⟩

end Personality

namespace SensorDefinition

def record : Record SensorDefinition where
  fields := [
    .of "number" .byte number fun s v => { s with number := v },
    .of "kind" .byte kind fun s v => { s with kind := v },
    .of "unit" .byte unit fun s v => { s with unit := v },
    .of "prefix" .byte scale fun s v => { s with scale := v },
    .of "range_min" .signed rangeMin fun s v => { s with rangeMin := v },
    .of "range_max" .signed rangeMax fun s v => { s with rangeMax := v },
    .of "normal_min" .signed normalMin fun s v => { s with normalMin := v },
    .of "normal_max" .signed normalMax fun s v => { s with normalMax := v },
    .of "recorded_support" .byte recordedSupport fun s v => { s with recordedSupport := v },
    .of "description" .text description fun s v => { s with description := v }]
  missing := ⟨0, 0, 0, 0, 0, 0, 0, 0, 0, ""⟩

end SensorDefinition

namespace SensorValue

def record : Record SensorValue where
  fields := [
    .of "number" .byte number fun s v => { s with number := v },
    .of "present" .signed present fun s v => { s with present := v },
    .of "lowest" .signed lowest fun s v => { s with lowest := v },
    .of "highest" .signed highest fun s v => { s with highest := v },
    .of "recorded" .signed recorded fun s v => { s with recorded := v }]
  missing := ⟨0, 0, 0, 0, 0⟩

end SensorValue

namespace Device

def report (d : Device) : Json := .object [
  ("uid", .uid d.uid),
  ("location", .text d.location.text),
  ("info", DeviceInfo.record.toJson d.info),
  ("supported", .list ParameterId.report d.supported),
  ("standard", .list (fun p => .word p.code) d.standardParameters),
  ("unrecognized", .list Json.word d.unrecognizedParameters),
  ("manufacturer_label", .orNull .text d.manufacturerLabel),
  ("model_description", .orNull .text d.modelDescription),
  ("software_version_label", .orNull .text d.softwareVersionLabel),
  ("personalities", .list Personality.record.toJson d.personalities),
  ("sensors", .list SensorDefinition.record.toJson d.sensors),
  ("dmx_start_address", .word d.info.dmxStartAddress),
  ("dmx_footprint", .word d.info.dmxFootprint),
  ("current_personality", .orNull Personality.record.toJson d.currentPersonality?)]

/-- The part of what is known of a device that a change may alter. -/
def statusFields (d : Device) : List (String × Json) := [
  ("dmx_start_address", .word d.info.dmxStartAddress),
  ("personality", .byte d.info.currentPersonality),
  ("footprint", .word d.info.dmxFootprint)]

end Device

namespace Target

/-- Reads where a request goes: to an output in the field "node", else to an address, else to every
node. -/
def ofReport? (j : Json) : Option Target := do
  match ← Json.optional OutputAddress.ofReport? "node" j with
  | some output => return ofOutput output
  | none => return ⟨← Json.optional Json.socket? "address" j, ← Json.portAt "port" j⟩

end Target

end Rdm

end LightingNet
