import LightingNet.Text.Numeral
/-!
# Parameter identifiers

The parameters of the RDM standard with their codes and names, in the order of the standard. A code
outside the table is kept as it is; the codes from 0x8000 to 0xffdf belong to manufacturers.
-/
namespace LightingNet.Rdm

inductive ParameterId where
  | discUniqueBranch
  | discMute
  | discUnMute
  | proxiedDevices
  | proxiedDeviceCount
  | commsStatus
  | queuedMessage
  | statusMessages
  | statusIdDescription
  | clearStatusId
  | subDeviceStatusReportThreshold
  | supportedParameters
  | parameterDescription
  | deviceInfo
  | productDetailIdList
  | deviceModelDescription
  | manufacturerLabel
  | deviceLabel
  | factoryDefaults
  | languageCapabilities
  | language
  | softwareVersionLabel
  | bootSoftwareVersionId
  | bootSoftwareVersionLabel
  | dmxPersonality
  | dmxPersonalityDescription
  | dmxStartAddress
  | slotInfo
  | slotDescription
  | defaultSlotValue
  | sensorDefinition
  | sensorValue
  | recordSensors
  | deviceHours
  | lampHours
  | lampStrikes
  | lampState
  | lampOnMode
  | devicePowerCycles
  | displayInvert
  | displayLevel
  | panInvert
  | tiltInvert
  | panTiltSwap
  | realTimeClock
  | identifyDevice
  | resetDevice
  | powerState
  | performSelftest
  | selfTestDescription
  | capturePreset
  | presetPlayback
  | other (code : UInt16)
  deriving DecidableEq, Repr

namespace ParameterId

/-- A row of the table: a parameter, its code, its short name and its name in the standard. -/
structure Row where
  id : ParameterId
  code : UInt16
  name : String
  label : String

def table : List Row := [
  ⟨.discUniqueBranch, 0x0001, "DiscUniqueBranch", "DISC_UNIQUE_BRANCH"⟩,
  ⟨.discMute, 0x0002, "DiscMute", "DISC_MUTE"⟩,
  ⟨.discUnMute, 0x0003, "DiscUnMute", "DISC_UN_MUTE"⟩,
  ⟨.proxiedDevices, 0x0010, "ProxiedDevices", "PROXIED_DEVICES"⟩,
  ⟨.proxiedDeviceCount, 0x0011, "ProxiedDeviceCount", "PROXIED_DEVICE_COUNT"⟩,
  ⟨.commsStatus, 0x0015, "CommsStatus", "COMMS_STATUS"⟩,
  ⟨.queuedMessage, 0x0020, "QueuedMessage", "QUEUED_MESSAGE"⟩,
  ⟨.statusMessages, 0x0030, "StatusMessages", "STATUS_MESSAGES"⟩,
  ⟨.statusIdDescription, 0x0031, "StatusIdDescription", "STATUS_ID_DESCRIPTION"⟩,
  ⟨.clearStatusId, 0x0032, "ClearStatusId", "CLEAR_STATUS_ID"⟩,
  ⟨.subDeviceStatusReportThreshold, 0x0033, "SubDeviceStatusReportThreshold",
    "SUB_DEVICE_STATUS_REPORT_THRESHOLD"⟩,
  ⟨.supportedParameters, 0x0050, "SupportedParameters", "SUPPORTED_PARAMETERS"⟩,
  ⟨.parameterDescription, 0x0051, "ParameterDescription", "PARAMETER_DESCRIPTION"⟩,
  ⟨.deviceInfo, 0x0060, "DeviceInfo", "DEVICE_INFO"⟩,
  ⟨.productDetailIdList, 0x0070, "ProductDetailIdList", "PRODUCT_DETAIL_ID_LIST"⟩,
  ⟨.deviceModelDescription, 0x0080, "DeviceModelDescription", "DEVICE_MODEL_DESCRIPTION"⟩,
  ⟨.manufacturerLabel, 0x0081, "ManufacturerLabel", "MANUFACTURER_LABEL"⟩,
  ⟨.deviceLabel, 0x0082, "DeviceLabel", "DEVICE_LABEL"⟩,
  ⟨.factoryDefaults, 0x0090, "FactoryDefaults", "FACTORY_DEFAULTS"⟩,
  ⟨.languageCapabilities, 0x00a0, "LanguageCapabilities", "LANGUAGE_CAPABILITIES"⟩,
  ⟨.language, 0x00b0, "Language", "LANGUAGE"⟩,
  ⟨.softwareVersionLabel, 0x00c0, "SoftwareVersionLabel", "SOFTWARE_VERSION_LABEL"⟩,
  ⟨.bootSoftwareVersionId, 0x00c1, "BootSoftwareVersionId", "BOOT_SOFTWARE_VERSION_ID"⟩,
  ⟨.bootSoftwareVersionLabel, 0x00c2, "BootSoftwareVersionLabel", "BOOT_SOFTWARE_VERSION_LABEL"⟩,
  ⟨.dmxPersonality, 0x00e0, "DmxPersonality", "DMX_PERSONALITY"⟩,
  ⟨.dmxPersonalityDescription, 0x00e1, "DmxPersonalityDescription", "DMX_PERSONALITY_DESCRIPTION"⟩,
  ⟨.dmxStartAddress, 0x00f0, "DmxStartAddress", "DMX_START_ADDRESS"⟩,
  ⟨.slotInfo, 0x0120, "SlotInfo", "SLOT_INFO"⟩,
  ⟨.slotDescription, 0x0121, "SlotDescription", "SLOT_DESCRIPTION"⟩,
  ⟨.defaultSlotValue, 0x0122, "DefaultSlotValue", "DEFAULT_SLOT_VALUE"⟩,
  ⟨.sensorDefinition, 0x0200, "SensorDefinition", "SENSOR_DEFINITION"⟩,
  ⟨.sensorValue, 0x0201, "SensorValue", "SENSOR_VALUE"⟩,
  ⟨.recordSensors, 0x0202, "RecordSensors", "RECORD_SENSORS"⟩,
  ⟨.deviceHours, 0x0400, "DeviceHours", "DEVICE_HOURS"⟩,
  ⟨.lampHours, 0x0401, "LampHours", "LAMP_HOURS"⟩,
  ⟨.lampStrikes, 0x0402, "LampStrikes", "LAMP_STRIKES"⟩,
  ⟨.lampState, 0x0403, "LampState", "LAMP_STATE"⟩,
  ⟨.lampOnMode, 0x0404, "LampOnMode", "LAMP_ON_MODE"⟩,
  ⟨.devicePowerCycles, 0x0405, "DevicePowerCycles", "DEVICE_POWER_CYCLES"⟩,
  ⟨.displayInvert, 0x0500, "DisplayInvert", "DISPLAY_INVERT"⟩,
  ⟨.displayLevel, 0x0501, "DisplayLevel", "DISPLAY_LEVEL"⟩,
  ⟨.panInvert, 0x0600, "PanInvert", "PAN_INVERT"⟩,
  ⟨.tiltInvert, 0x0601, "TiltInvert", "TILT_INVERT"⟩,
  ⟨.panTiltSwap, 0x0602, "PanTiltSwap", "PAN_TILT_SWAP"⟩,
  ⟨.realTimeClock, 0x0603, "RealTimeClock", "REAL_TIME_CLOCK"⟩,
  ⟨.identifyDevice, 0x1000, "IdentifyDevice", "IDENTIFY_DEVICE"⟩,
  ⟨.resetDevice, 0x1001, "ResetDevice", "RESET_DEVICE"⟩,
  ⟨.powerState, 0x1010, "PowerState", "POWER_STATE"⟩,
  ⟨.performSelftest, 0x1020, "PerformSelftest", "PERFORM_SELFTEST"⟩,
  ⟨.selfTestDescription, 0x1021, "SelfTestDescription", "SELF_TEST_DESCRIPTION"⟩,
  ⟨.capturePreset, 0x1030, "CapturePreset", "CAPTURE_PRESET"⟩,
  ⟨.presetPlayback, 0x1031, "PresetPlayback", "PRESET_PLAYBACK"⟩]

def row? (p : ParameterId) : Option Row := table.find? fun row => row.id == p

def code : ParameterId → UInt16
  | other c => c
  | p => match p.row? with
    | some row => row.code
    | none => 0

def ofCode (c : UInt16) : ParameterId :=
  match table.find? fun row => row.code == c with
  | some row => row.id
  | none => other c

def label? : ParameterId → Option String
  | other _ => none
  | p => p.row?.map Row.label

def name : ParameterId → String
  | other c => "Other(" ++ Numeral.decimal c.toNat ++ ")"
  | p => match p.row? with
    | some row => row.name
    | none => ""

def text (p : ParameterId) : String :=
  match p.label? with
  | some label => label
  | none => "PID " ++ Numeral.hexCode p.code

/-- Parameters of the standard come in the order of the table, others behind them by code. -/
def rank : ParameterId → Nat
  | other c => table.length + c.toNat
  | p => table.findIdx fun row => row.id == p

/-- Whether every device has to answer for the parameter. -/
def isMandatory : ParameterId → Bool
  | discUniqueBranch | discMute | discUnMute | supportedParameters | deviceInfo
  | softwareVersionLabel | dmxStartAddress | identifyDevice => true
  | _ => false

def isManufacturerSpecific (p : ParameterId) : Bool := 0x8000 ≤ p.code && p.code ≤ 0xffdf

def isStandard : ParameterId → Bool
  | other _ => false
  | _ => true

end ParameterId

end LightingNet.Rdm
