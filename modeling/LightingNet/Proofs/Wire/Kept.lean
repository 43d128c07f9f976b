import LightingNet.Proofs.Rdm.Packet
import LightingNet.Proofs.Text.Field
import LightingNet.Wire.Message
import Mathlib.Data.List.TakeDrop
/-!
# What the wire keeps of a message

Nets and switches are masked to their bits, texts and lists are cut, and a code that has a name comes
back under that name. A message is kept as it is exactly when it lies within these limits.
-/
namespace LightingNet

theorem and_mask_eq_self_iff (mask : UInt8)
    (h : ∀ n : Nat, n &&& mask.toNat = n % (mask.toNat + 1)) (x : UInt8) :
    x &&& mask = x ↔ x ≤ mask := by
  rw [← UInt8.toNat_inj, UInt8.toNat_and, h, UInt8.le_iff_toNat_le]
  constructor
  · intro hmod
    rw [← hmod]
    exact Nat.le_of_lt_succ (Nat.mod_lt x.toNat (Nat.succ_pos mask.toNat))
  · intro hle
    exact Nat.mod_eq_of_lt (Nat.lt_succ_of_le hle)

theorem and_seven_bits_iff (x : UInt8) : x &&& 0x7f = x ↔ x ≤ 0x7f :=
  and_mask_eq_self_iff 0x7f (fun n => Nat.and_two_pow_sub_one_eq_mod n 7) x

theorem and_four_bits_iff (x : UInt8) : x &&& 0x0f = x ↔ x ≤ 0x0f :=
  and_mask_eq_self_iff 0x0f (fun n => Nat.and_two_pow_sub_one_eq_mod n 4) x

theorem toNat_and_four_bits (x : UInt8) : (x &&& 0x0f).toNat = x.toNat % 16 := by
  rw [UInt8.toNat_and]
  exact Nat.and_two_pow_sub_one_eq_mod x.toNat 4

/-- A response under the name of its code. -/
def TodResponse.Named : TodResponse → Prop
  | other c => ∀ known ∈ [0, 0xff], c ≠ known
  | _ => True

theorem TodResponse.ofCode_code_iff (r : TodResponse) : ofCode r.code = r ↔ r.Named := by
  cases r with
  | other c =>
    have hknown : ∀ known ∈ [0, 0xff], ofCode known ≠ other known := by
      simp only [List.forall_mem_cons]
      exact ⟨by decide, by decide, nofun⟩
    constructor
    · rintro h known hmem rfl
      exact hknown c hmem h
    · intro h
      change ofCode c = other c
      rw [ofCode, if_neg (h 0 (by decide)), if_neg (h 0xff (by decide))]
  | _ => exact ⟨fun _ => trivial, fun _ => rfl⟩

def TodCommand.Named : TodCommand → Prop
  | other c => ∀ known ∈ [0, 1, 2, 3, 4], c ≠ known
  | _ => True

theorem TodCommand.ofCode_code_iff (c : TodCommand) : ofCode c.code = c ↔ c.Named := by
  cases c with
  | other c =>
    have hknown : ∀ known ∈ [0, 1, 2, 3, 4], ofCode known ≠ other known := by
      simp only [List.forall_mem_cons]
      exact ⟨by decide, by decide, by decide, by decide, by decide, nofun⟩
    constructor
    · rintro h known hmem rfl
      exact hknown c hmem h
    · intro h
      change ofCode c = other c
      rw [ofCode, if_neg (h 0 (by decide)), if_neg (h 1 (by decide)), if_neg (h 2 (by decide)),
        if_neg (h 3 (by decide)), if_neg (h 4 (by decide))]
  | _ => exact ⟨fun _ => trivial, fun _ => rfl⟩

def Rdm.CommandClass.Named : CommandClass → Prop
  | unknown c => ∀ known ∈ [0x10, 0x11, 0x20, 0x21, 0x30, 0x31], c ≠ known
  | _ => True

theorem Rdm.CommandClass.ofCode_code_iff (c : CommandClass) : ofCode c.code = c ↔ c.Named := by
  cases c with
  | unknown c =>
    have hknown : ∀ known ∈ [0x10, 0x11, 0x20, 0x21, 0x30, 0x31],
        ofCode known ≠ unknown known := by
      simp only [List.forall_mem_cons]
      exact ⟨by decide, by decide, by decide, by decide, by decide, by decide, nofun⟩
    constructor
    · rintro h known hmem rfl
      exact hknown c hmem h
    · intro h
      change ofCode c = unknown c
      rw [ofCode, if_neg (h 0x10 (by decide)), if_neg (h 0x11 (by decide)),
        if_neg (h 0x20 (by decide)), if_neg (h 0x21 (by decide)), if_neg (h 0x30 (by decide)),
        if_neg (h 0x31 (by decide))]
  | _ => exact ⟨fun _ => trivial, fun _ => rfl⟩

namespace PollReply

def kept (r : PollReply) : PollReply :=
  { r with
    netSwitch := r.netSwitch &&& 0x7f
    subSwitch := r.subSwitch &&& 0x0f
    shortName := keptText 17 r.shortName
    longName := keptText 63 r.longName
    nodeReport := keptText 63 r.nodeReport }

structure Fits (r : PollReply) : Prop where
  netSwitch : r.netSwitch ≤ 0x7f
  subSwitch : r.subSwitch ≤ 0x0f
  shortName : FitsText 17 r.shortName
  longName : FitsText 63 r.longName
  nodeReport : FitsText 63 r.nodeReport

theorem kept_eq_self_iff (r : PollReply) : r.kept = r ↔ r.Fits := by
  constructor
  · intro h
    have hshort := congrArg shortName h
    have hlong := congrArg longName h
    have hreport := congrArg nodeReport h
    dsimp only [kept] at hshort hlong hreport
    exact ⟨(and_seven_bits_iff _).mp (congrArg netSwitch h),
      (and_four_bits_iff _).mp (congrArg subSwitch h), (keptText_eq_self_iff _ _).mp hshort,
      (keptText_eq_self_iff _ _).mp hlong, (keptText_eq_self_iff _ _).mp hreport⟩
  · rintro ⟨hnet, hsub, hshort, hlong, hreport⟩
    rw [kept, (and_seven_bits_iff _).mpr hnet, (and_four_bits_iff _).mpr hsub,
      keptText_of_fits hshort, keptText_of_fits hlong, keptText_of_fits hreport]

end PollReply

namespace Diagnostic

def kept (d : Diagnostic) : Diagnostic := { d with text := keptText 511 d.text }

theorem kept_eq_self_iff (d : Diagnostic) : d.kept = d ↔ FitsText 511 d.text := by
  constructor
  · intro h
    have htext := congrArg text h
    dsimp only [kept] at htext
    exact (keptText_eq_self_iff _ _).mp htext
  · intro h
    rw [kept, keptText_of_fits h]

end Diagnostic

namespace DmxFrame

def kept (f : DmxFrame) : DmxFrame := { f with levels := f.levels.take 512 }

theorem kept_eq_self_iff (f : DmxFrame) : f.kept = f ↔ f.levels.length ≤ 512 := by
  constructor
  · intro h
    exact (List.take_eq_self_iff _).mp (congrArg levels h)
  · intro h
    rw [kept, List.take_of_length_le h]

end DmxFrame

namespace NodeProgramming

def kept (p : NodeProgramming) : NodeProgramming :=
  { p with shortName := keptText 17 p.shortName, longName := keptText 63 p.longName }

structure Fits (p : NodeProgramming) : Prop where
  shortName : FitsText 17 p.shortName
  longName : FitsText 63 p.longName

theorem kept_eq_self_iff (p : NodeProgramming) : p.kept = p ↔ p.Fits := by
  constructor
  · intro h
    have hshort := congrArg shortName h
    have hlong := congrArg longName h
    dsimp only [kept] at hshort hlong
    exact ⟨(keptText_eq_self_iff _ _).mp hshort, (keptText_eq_self_iff _ _).mp hlong⟩
  · rintro ⟨hshort, hlong⟩
    rw [kept, keptText_of_fits hshort, keptText_of_fits hlong]

end NodeProgramming

namespace TodRequest

def kept (r : TodRequest) : TodRequest :=
  { r with net := r.net &&& 0x7f, addresses := r.addresses.take 32 }

structure Fits (r : TodRequest) : Prop where
  net : r.net ≤ 0x7f
  addresses : r.addresses.length ≤ 32

theorem kept_eq_self_iff (r : TodRequest) : r.kept = r ↔ r.Fits := by
  constructor
  · intro h
    exact ⟨(and_seven_bits_iff _).mp (congrArg net h),
      (List.take_eq_self_iff _).mp (congrArg addresses h)⟩
  · rintro ⟨hnet, haddresses⟩
    rw [kept, (and_seven_bits_iff _).mpr hnet, List.take_of_length_le haddresses]

end TodRequest

namespace TodData

def kept (d : TodData) : TodData :=
  { d with
    net := d.net &&& 0x7f
    response := TodResponse.ofCode d.response.code
    uids := d.uids.take 200 }

structure Fits (d : TodData) : Prop where
  net : d.net ≤ 0x7f
  response : d.response.Named
  uids : d.uids.length ≤ 200

theorem kept_eq_self_iff (d : TodData) : d.kept = d ↔ d.Fits := by
  constructor
  · intro h
    exact ⟨(and_seven_bits_iff _).mp (congrArg net h),
      (TodResponse.ofCode_code_iff _).mp (congrArg response h),
      (List.take_eq_self_iff _).mp (congrArg uids h)⟩
  · rintro ⟨hnet, hresponse, huids⟩
    rw [kept, (and_seven_bits_iff _).mpr hnet, (TodResponse.ofCode_code_iff _).mpr hresponse,
      List.take_of_length_le huids]

end TodData

namespace TodControl

def kept (c : TodControl) : TodControl :=
  { c with net := c.net &&& 0x7f, command := TodCommand.ofCode c.command.code }

structure Fits (c : TodControl) : Prop where
  net : c.net ≤ 0x7f
  command : c.command.Named

theorem kept_eq_self_iff (c : TodControl) : c.kept = c ↔ c.Fits := by
  constructor
  · intro h
    exact ⟨(and_seven_bits_iff _).mp (congrArg net h),
      (TodCommand.ofCode_code_iff _).mp (congrArg command h)⟩
  · rintro ⟨hnet, hcommand⟩
    rw [kept, (and_seven_bits_iff _).mpr hnet, (TodCommand.ofCode_code_iff _).mpr hcommand]

end TodControl

namespace Rdm.Packet

structure Fits (p : Packet) : Prop where
  command : p.command.Named
  data : p.data.length ≤ 231

theorem kept_eq_self_iff (p : Packet) : p.kept = p ↔ p.Fits := by
  constructor
  · intro h
    exact ⟨(CommandClass.ofCode_code_iff _).mp (congrArg command h),
      (List.take_eq_self_iff _).mp (congrArg data h)⟩
  · rintro ⟨hcommand, hdata⟩
    rw [kept, (CommandClass.ofCode_code_iff _).mpr hcommand, List.take_of_length_le hdata]

end Rdm.Packet

namespace Envelope

def kept (e : Envelope) : Envelope := { e with net := e.net &&& 0x7f, packet := e.packet.kept }

structure Fits (e : Envelope) : Prop where
  net : e.net ≤ 0x7f
  packet : e.packet.Fits

theorem kept_eq_self_iff (e : Envelope) : e.kept = e ↔ e.Fits := by
  constructor
  · intro h
    exact ⟨(and_seven_bits_iff _).mp (congrArg net h),
      e.packet.kept_eq_self_iff.mp (congrArg packet h)⟩
  · rintro ⟨hnet, hpacket⟩
    rw [kept, (and_seven_bits_iff _).mpr hnet, e.packet.kept_eq_self_iff.mpr hpacket]

end Envelope

namespace Message

/-- What the wire keeps of a message. -/
def kept : Message → Message
  | poll p => poll p
  | pollReply r => pollReply r.kept
  | diagnostic d => diagnostic d.kept
  | dmx f => dmx f.kept
  | sync => sync
  | programming p => programming p.kept
  | todRequest r => todRequest r.kept
  | todData d => todData d.kept
  | todControl c => todControl c.kept
  | rdm e => rdm e.kept
  | unsupported op b => unsupported op b

/-- The limits of a message. -/
def Fits : Message → Prop
  | poll _ => True
  | pollReply r => r.Fits
  | diagnostic d => FitsText 511 d.text
  | dmx f => f.levels.length ≤ 512
  | sync => True
  | programming p => p.Fits
  | todRequest r => r.Fits
  | todData d => d.Fits
  | todControl c => c.Fits
  | rdm e => e.Fits
  | unsupported _ _ => True

theorem kept_eq_self_iff (m : Message) : m.kept = m ↔ m.Fits := by
  cases m with
  | poll p => exact ⟨fun _ => trivial, fun _ => rfl⟩
  | pollReply r => rw [kept, pollReply.injEq, r.kept_eq_self_iff, Fits]
  | diagnostic d => rw [kept, diagnostic.injEq, d.kept_eq_self_iff, Fits]
  | dmx f => rw [kept, dmx.injEq, f.kept_eq_self_iff, Fits]
  | sync => exact ⟨fun _ => trivial, fun _ => rfl⟩
  | programming p => rw [kept, programming.injEq, p.kept_eq_self_iff, Fits]
  | todRequest r => rw [kept, todRequest.injEq, r.kept_eq_self_iff, Fits]
  | todData d => rw [kept, todData.injEq, d.kept_eq_self_iff, Fits]
  | todControl c => rw [kept, todControl.injEq, c.kept_eq_self_iff, Fits]
  | rdm e => rw [kept, rdm.injEq, e.kept_eq_self_iff, Fits]
  | unsupported op b => exact ⟨fun _ => trivial, fun _ => rfl⟩

end Message

end LightingNet
