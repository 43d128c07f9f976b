import LightingNet.Rdm.Command
import LightingNet.Rdm.ParameterId
import LightingNet.Rdm.Uid
import LightingNet.Wire.Error
/-!
# Faults

Why an operation failed, with the text that says so.
-/
namespace LightingNet

inductive SettingError where
  | portAddress (net subnet uni : UInt8)
  | noPorts
  | emptyPool
  | zeroTick
  | startAddress (address : UInt16)
  | personality (number count : UInt8)
  deriving DecidableEq, Repr

namespace SettingError

def byteText (b : UInt8) : String := Numeral.decimal b.toNat

def message : SettingError → String
  | portAddress net subnet uni =>
    "port-address " ++ byteText net ++ "." ++ byteText subnet ++ "." ++ byteText uni
      ++ " out of range"
  | noPorts => "no ports to listen on"
  | emptyPool => "send buffer pool is empty"
  | zeroTick => "discovery tick must be non-zero"
  | startAddress a => "DMX start address " ++ Numeral.decimal a.toNat ++ " outside 1-512"
  | personality number count =>
    "personality " ++ byteText number ++ " outside 1-" ++ byteText count

end SettingError

inductive Fault where
  | codec (error : CodecError)
  | noResponse (pid : Rdm.ParameterId)
  | refused (pid : Rdm.ParameterId) (reason : Rdm.NackReason)
  | unexpectedResponse (pid : Rdm.ParameterId) (response : Option Rdm.ResponseType)
  | noSockets
  | socketTaken
  | setting (error : SettingError)
  | badUid (text : String)
  | badPortAddress (text : String)
  | deviceNotFound (uid : Rdm.Uid)
  | shutDown
  deriving DecidableEq, Repr

namespace Fault

def responseText : Option Rdm.ResponseType → String
  | some r => "Some(" ++ r.name ++ ")"
  | none => "None"

def message : Fault → String
  | codec e => "protocol error: " ++ e.message
  | noResponse pid => "no RDM response for " ++ pid.text
  | refused pid reason => "RDM request for " ++ pid.text ++ " rejected: " ++ reason.text
  | unexpectedResponse pid response =>
    "unexpected RDM response for " ++ pid.text ++ ": " ++ responseText response
  | noSockets => "no Art-Net socket could be bound"
  | socketTaken => "socket address already in use"
  | setting e => "invalid configuration: " ++ e.message
  | badUid text => "invalid RDM UID '" ++ text ++ "'"
  | badPortAddress text => "invalid port-address '" ++ text ++ "'"
  | deviceNotFound uid => "RDM device " ++ uid.text ++ " not found"
  | shutDown => "discovery has shut down"

end Fault

end LightingNet
