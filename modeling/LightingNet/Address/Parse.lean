import LightingNet.Address.Port
import LightingNet.Fault
/-!
# Checked identifiers

Reading identifiers and port-addresses, with the fault that a bad one gives.
-/
namespace LightingNet

def Rdm.Uid.parse (s : String) : Except Fault Rdm.Uid :=
  match Rdm.Uid.parse? s with
  | some u => .ok u
  | none => .error (.badUid s)

def PortAddress.parse (s : String) : Except Fault PortAddress :=
  match PortAddress.parse? s with
  | some p => .ok p
  | none => .error (.badPortAddress s)

def PortAddress.ofParts (net subnet uni : UInt8) : Except Fault PortAddress :=
  match PortAddress.ofParts? net subnet uni with
  | some p => .ok p
  | none => .error (.setting (.portAddress net subnet uni))

end LightingNet
