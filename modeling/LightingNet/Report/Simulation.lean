import LightingNet.Report.Fields
import LightingNet.Simulation.Gateway
/-!
# Reports of the simulation

Setups of simulated gateways and requests to them as records. An identifier stands here as its twelve
digits.
-/
namespace LightingNet

open Report (Field Format Record)

namespace Simulation

namespace Request

def record : Record Request where
  fields := [
    .of "net" .byte net fun r v => { r with net := v },
    .of "address" .byte address fun r v => { r with address := v },
    .of "destination" .plainUid destination fun r v => { r with destination := v },
    .of "source" .plainUid source fun r v => { r with source := v },
    .of "transaction" .byte transaction fun r v => { r with transaction := v },
    .of "sub_device" .word subDevice fun r v => { r with subDevice := v },
    .of "command" .byte command fun r v => { r with command := v },
    .of "pid" .word pid fun r v => { r with pid := v },
    .of "data" .bytes data fun r v => { r with data := v }]
  missing := ⟨0, 0, .zero, .zero, 0, 0, 0, 0, []⟩

end Request

namespace TableQuery

def record : Record TableQuery where
  fields := [
    .of "net" .byte net fun q v => { q with net := v },
    .of "addresses" .bytes addresses fun q v => { q with addresses := v }]
  missing := ⟨0, []⟩

end TableQuery

def Mode.ofReport? (j : Json) : Option Mode := do
  match j with
  | .array [footprint, description] => return ⟨← footprint.word?, ← description.text?⟩
  | _ => none

namespace Responder

def ofReport? (j : Json) : Option Responder := do
  let d := usual (← Json.wordAt "manufacturer" j) (← Json.doubleAt "device" j)
  return { d with
    modelId := ← Json.getOr Json.word? d.modelId "model_id" j
    manufacturerLabel := ← Json.getOr Json.text? d.manufacturerLabel "manufacturer_label" j
    modelDescription := ← Json.getOr Json.text? d.modelDescription "model_description" j
    softwareVersionLabel :=
      ← Json.getOr Json.text? d.softwareVersionLabel "software_version_label" j
    deviceLabel := ← Json.textAt "label" j
    startAddress := ← Json.getOr Json.word? d.startAddress "start_address" j
    currentMode := ← Json.getOr Json.byte? d.currentMode "current_personality" j
    modes := ← Json.getOr (Json.listOf? Mode.ofReport?) d.modes "personalities" j
    sensors := ← Json.getOr (Json.listOf? Json.text?) d.sensors "sensors" j
    sensorValue := ← Json.getOr Json.signed? d.sensorValue "sensor_value" j }

def report (d : Responder) : Json := .object [
  ("uid", .plainUid d.uid),
  ("device_label", .text d.deviceLabel),
  ("dmx_start_address", .word d.startAddress),
  ("current_personality", .byte d.currentMode),
  ("footprint", .word d.footprint),
  ("identify", .bool d.identify),
  ("sensor_value", .int d.sensorValue.toInt)]

end Responder

def Output.ofReport? (j : Json) : Option Output := do
  return ⟨← Json.byteAt "universe" j, ← Json.listAt Responder.ofReport? "responders" j⟩

def Binding.ofReport? (j : Json) : Option Binding := do
  return ⟨← Json.byteAt "bind_index" j, ← Json.listAt Output.ofReport? "ports" j⟩

def Setup.ofReport? (j : Json) : Option Setup := do
  let s := usual (← Json.textAt "short_name" j)
  let placed := s.onNet (← Json.byteAt "net" j) (← Json.byteAt "subnet" j)
  return { placed with
    longName := ← Json.getOr Json.text? s.longName "long_name" j
    bindIp := ← Json.getOr Json.ipv4? s.bindIp "bind_ip" j
    replyIp := ← Json.optional Json.ipv4? "reply_ip" j
    estaManufacturer := ← Json.getOr Json.word? s.estaManufacturer "esta_manufacturer" j
    bindings := ← Json.getOr (Json.listOf? Binding.ofReport?) s.bindings "bindings" j }

def Habits.ofReport? (j : Json) : Option Habits := do
  return {
    ignored := ← Json.listAt Json.word? "ignore" j
    refusesTables := ← Json.flagAt "refuse_tod" j
    answersLate := ← Json.flagAt "stale" j }

end Simulation

end LightingNet
