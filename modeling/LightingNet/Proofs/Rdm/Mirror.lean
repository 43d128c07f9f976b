import LightingNet.Proofs.Rdm.Description
/-!
# A device in hand and its responder

What its owner does with a device in hand is done by the responder behind it, and what is known of the
device stays what the responder tells. A value out of range is refused on the near side: nothing is
sent, and nothing changes on either side.
-/
namespace LightingNet

private theorem Utf8.decodeLossy_of_ascii {b : Bytes} (h : ∀ x ∈ b, x < 0x80) :
    decodeLossy b = b.map fun x => Char.ofNat x.toNat := by
  induction b with
  | nil => simp [decodeLossy]
  | cons x b ih =>
    have hx := h x List.mem_cons_self
    have hb := ih fun y hy => h y (List.mem_cons_of_mem x hy)
    rw [decodeLossy.eq_def]
    simp only [if_pos hx, hb, List.map_cons]

private theorem ofString_asciiText {b : Bytes} (h : ∀ x ∈ b, x < 0x80) :
    Utf8.ofString (asciiText b) = b := by
  have hascii : ∀ c ∈ (asciiText b).toList, c.toNat < 128 := by
    intro c hc
    rw [asciiText, String.toList_ofList] at hc
    obtain ⟨x, hx, rfl⟩ := List.mem_map.mp hc
    rw [toNat_charOfByte (h x hx)]
    exact h x hx
  rw [ofString_of_ascii hascii, asciiText, String.toList_ofList, List.map_map]
  refine (List.map_congr_left ?_).trans (List.map_id _)
  intro x hx
  rw [Function.comp_apply, toNat_charOfByte (h x hx), UInt8.ofNat_toNat, id_eq]

private theorem keptText_asciiText (room : Nat) (s : String) :
    keptText room (asciiText (wireText room s)) = keptText room s := by
  have hascii : ∀ x ∈ wireText room s, x < 0x80 := fun x hx => lt_of_mem_wireText hx
  have hwire : wireText room (asciiText (wireText room s)) = wireText room s := by
    rw [wireText, ofString_asciiText hascii, List.take_of_length_le (length_wireText_le room s)]
    refine (List.map_congr_left ?_).trans (List.map_id _)
    intro x hx
    exact asciiByte_of_lt (hascii x hx)
  rw [keptText, hwire, keptText]

namespace Rdm

open Simulation

inductive Operation where
  | startAddress (address : UInt16)
  | personality (number : UInt8)
  | label (text : String)
  | identify (on : Bool)

namespace Operation

def perform {σ : Type} (ask : Asker σ) : Operation → Attempt (Held σ) Unit
  | startAddress address => Held.setStartAddress ask address
  | personality number => Held.setPersonality ask number
  | label text => Held.setDeviceLabel ask text
  | identify on => Held.identify ask on

def performAll {σ : Type} (ask : Asker σ) (ops : List Operation) (h : Held σ) : Held σ :=
  ops.foldl (fun h op => (op.perform ask h).2) h

def Fits (d : Responder) : Operation → Prop
  | startAddress address => 1 ≤ address ∧ address ≤ 512
  | personality number => 1 ≤ number.toNat ∧ number.toNat ≤ d.modes.length
  | label _ => True
  | identify _ => True

instance (d : Responder) : (op : Operation) → Decidable (op.Fits d)
  | startAddress address => inferInstanceAs (Decidable (1 ≤ address ∧ address ≤ 512))
  | personality number =>
    inferInstanceAs (Decidable (1 ≤ number.toNat ∧ number.toNat ≤ d.modes.length))
  | label _ => inferInstanceAs (Decidable True)
  | identify _ => inferInstanceAs (Decidable True)

def apply (d : Responder) : Operation → Responder
  | startAddress address => { d with startAddress := address }
  | personality number => { d with currentMode := number }
  | label text => { d with deviceLabel := asciiText (wireText 32 text) }
  | identify on => { d with identify := on }

def after (d : Responder) (op : Operation) : Responder := if op.Fits d then op.apply d else d

private theorem apply_modes (d : Responder) (op : Operation) : (op.apply d).modes = d.modes := by
  cases op <;> rfl

private theorem after_modes (d : Responder) (op : Operation) : (op.after d).modes = d.modes := by
  rw [after]
  split
  · exact op.apply_modes d
  · rfl

end Operation

namespace Held

variable {σ : Type} {held : Held (Line σ)} {gateway : σ → Gateway} {p : Place} {d d' : Responder}

/-- A device in hand is a responder that its line reaches, and what is known of it is what the
responder tells. -/
structure Mirrors (held : Held (Line σ)) (gateway : σ → Gateway) (p : Place) (d : Responder) :
    Prop where
  reaches : held.line.Reaches gateway p held.device.location d
  uid : held.device.uid = d.uid
  info : held.device.info = d.info

private theorem Mirrors.exchange_get (h : held.Mirrors gateway p d) (pid : ParameterId)
    {data value : Bytes} (hdata : data.length ≤ 231) (hget : d.get pid.code data = .ok value) :
    ∃ reply line, exchange Line.ask false pid data held = (.ok reply, { held with line }) ∧
      reply.data = value ∧ line.Reaches gateway p held.device.location d := by
  obtain ⟨reply, line, hexchange, hreply, hreaches⟩ :=
    held.line.exchange_get h.reaches pid hdata hget
  refine ⟨reply, line, ?_, hreply, hreaches⟩
  rw [exchange, h.uid, hexchange]

private theorem Mirrors.exchange_set (h : held.Mirrors gateway p d) (pid : ParameterId)
    {data : Bytes} (hdata : data.length ≤ 231) (hset : d.set pid.code data = .ok d') :
    ∃ reply line, exchange Line.ask true pid data held = (.ok reply, { held with line }) ∧
      line.Reaches gateway p held.device.location d' := by
  obtain ⟨reply, line, hexchange, hreaches⟩ := held.line.exchange_set h.reaches pid hdata hset
  refine ⟨reply, line, ?_, hreaches⟩
  rw [exchange, h.uid, hexchange]

variable (held) in
private theorem refresh_reaches (hreaches : held.line.Reaches gateway p held.device.location d)
    (huid : held.device.uid = d.uid) :
    ∃ line, refresh Line.ask held = (.ok (), ⟨{ held.device with info := d.info }, line⟩) ∧
      line.Reaches gateway p held.device.location d := by
  have hget : d.get ParameterId.deviceInfo.code [] = .ok d.infoBytes := rfl
  obtain ⟨reply, line, hexchange, hreply, hreaches⟩ :=
    held.line.exchange_get hreaches .deviceInfo (by simp) hget
  have hread : exchange Line.ask false .deviceInfo [] held = (.ok reply, { held with line }) := by
    rw [exchange, huid, hexchange]
  refine ⟨line, ?_, hreaches⟩
  rw [refresh, Attempt.bind_ok hread, parsed, hreply, d.infoBytes_eq, DeviceInfo.parse_toBytes,
    Attempt.bind_ok (Attempt.liftM_ok _ _)]
  rfl

private theorem Mirrors.change (h : held.Mirrors gateway p d) (pid : ParameterId) {data : Bytes}
    (hdata : data.length ≤ 231) (hset : d.set pid.code data = .ok d') :
    ∃ line, Held.change Line.ask pid data held =
        (.ok (), ⟨{ held.device with info := d'.info }, line⟩) ∧
      line.Reaches gateway p held.device.location d' := by
  obtain ⟨reply, line, hexchange, hreaches⟩ := h.exchange_set pid hdata hset
  obtain ⟨line', hrefresh, hreaches'⟩ := refresh_reaches { held with line } hreaches
    (h.uid.trans (Responder.set_eq_ok_iff.mp hset).uid.symm)
  exact ⟨line', (Attempt.bind_ok hexchange).trans hrefresh, hreaches'⟩

theorem setPersonality_eq {σ : Type} (ask : Asker σ) (number : UInt8) (held : Held σ) :
    setPersonality ask number held =
      (if number = 0 ∨ held.device.info.personalityCount < number then
        throw (.setting (.personality number held.device.info.personalityCount))
      else Held.change ask .dmxPersonality [number]) held := rfl

private theorem Mirrors.personalityCount (h : held.Mirrors gateway p d)
    (hmodes : d.modes.length ≤ 255) : held.device.info.personalityCount.toNat = d.modes.length := by
  rw [h.info, Responder.info, UInt8.toNat_ofNat_of_lt' (show _ < 256 by omega)]

private theorem Mirrors.perform_fits (h : held.Mirrors gateway p d) (hmodes : d.modes.length ≤ 255)
    {op : Operation} (hfits : op.Fits d) :
    ∃ line, op.perform Line.ask held =
        (.ok (), ⟨{ held.device with info := (op.apply d).info }, line⟩) ∧
      line.Reaches gateway p held.device.location (op.apply d) := by
  have hkeep : ({ held.device with info := d.info } : Device) = held.device := by rw [← h.info]
  cases op with
  | startAddress address =>
    have hrange : 1 ≤ address ∧ address ≤ 512 := hfits
    have hset : d.set ParameterId.dmxStartAddress.code (be16 address) =
        .ok { d with startAddress := address } :=
      Responder.set_eq_ok_iff.mpr (.startAddress address hrange.1 hrange.2)
    obtain ⟨line, hchange, hreaches⟩ := h.change .dmxStartAddress (by simp) hset
    refine ⟨line, ?_, hreaches⟩
    rw [Operation.perform, setStartAddress, if_pos hrange, hchange]
    rfl
  | personality number =>
    obtain ⟨hleast, hmost⟩ : 1 ≤ number.toNat ∧ number.toNat ≤ d.modes.length := hfits
    have hne : number ≠ 0 := by
      intro hzero
      rw [hzero, UInt8.toNat_zero] at hleast
      omega
    have hset : d.set ParameterId.dmxPersonality.code [number] =
        .ok { d with currentMode := number } :=
      Responder.set_eq_ok_iff.mpr (.mode number [] hne hmost)
    have hrange : ¬(number = 0 ∨ held.device.info.personalityCount < number) := by
      rw [UInt8.lt_iff_toNat_lt, h.personalityCount hmodes]
      simp only [hne, false_or]
      omega
    obtain ⟨line, hchange, hreaches⟩ := h.change .dmxPersonality (by simp) hset
    refine ⟨line, ?_, hreaches⟩
    rw [Operation.perform, setPersonality_eq, if_neg hrange, hchange]
    rfl
  | label text =>
    have hlength : (labelData text).length ≤ 32 := length_wireText_le 32 text
    have hset : d.set ParameterId.deviceLabel.code (labelData text) =
        .ok { d with deviceLabel := asciiText (wireText 32 text) } := by
      change Except.ok { d with deviceLabel := Utf8.toStringLossy ((labelData text).take 32) } = _
      rw [List.take_of_length_le hlength, Utf8.toStringLossy, labelData,
        Utf8.decodeLossy_of_ascii fun x hx => lt_of_mem_wireText hx]
      rfl
    obtain ⟨reply, line, hexchange, hreaches⟩ := h.exchange_set .deviceLabel (by omega) hset
    refine ⟨line, ?_, hreaches⟩
    have hinfo : ((Operation.label text).apply d).info = d.info := rfl
    rw [Operation.perform, setDeviceLabel, Attempt.bind_ok hexchange, hinfo, hkeep]
    rfl
  | identify on =>
    have hset : d.set ParameterId.identifyDevice.code [if on then 1 else 0] =
        .ok { d with identify := on } := by
      cases on <;> rfl
    obtain ⟨reply, line, hexchange, hreaches⟩ := h.exchange_set .identifyDevice (by simp) hset
    refine ⟨line, ?_, hreaches⟩
    have hinfo : ((Operation.identify on).apply d).info = d.info := rfl
    rw [Operation.perform, identify, Attempt.bind_ok hexchange, hinfo, hkeep]
    rfl

private theorem Mirrors.perform_refused (h : held.Mirrors gateway p d)
    (hmodes : d.modes.length ≤ 255) {op : Operation} (hfits : ¬op.Fits d) :
    ∃ e, op.perform Line.ask held = (.error (.setting e), held) := by
  cases op with
  | startAddress address =>
    have hrange : ¬(1 ≤ address ∧ address ≤ 512) := hfits
    refine ⟨.startAddress address, ?_⟩
    rw [Operation.perform, setStartAddress, if_neg hrange]
    rfl
  | personality number =>
    have hrange : number = 0 ∨ held.device.info.personalityCount < number := by
      rw [UInt8.lt_iff_toNat_lt, h.personalityCount hmodes, ← UInt8.toNat_inj, UInt8.toNat_zero]
      change ¬(1 ≤ number.toNat ∧ number.toNat ≤ d.modes.length) at hfits
      omega
    refine ⟨.personality number held.device.info.personalityCount, ?_⟩
    rw [Operation.perform, setPersonality_eq, if_pos hrange]
    rfl
  | label text => exact absurd trivial hfits
  | identify on => exact absurd trivial hfits

/-- The step of a run: whatever its outcome, an operation leaves a mirror of its responder. -/
theorem Mirrors.perform (h : held.Mirrors gateway p d) (hmodes : d.modes.length ≤ 255)
    (op : Operation) :
    (op.perform Line.ask held).2.Mirrors gateway p (op.after d) ∧
      (op.perform Line.ask held).2.device = { held.device with info := (op.after d).info } := by
  by_cases hfits : op.Fits d
  · obtain ⟨line, hperform, hreaches⟩ := h.perform_fits hmodes hfits
    have huid : (op.apply d).uid = d.uid := by cases op <;> rfl
    rw [hperform, Operation.after, if_pos hfits]
    exact ⟨⟨hreaches, h.uid.trans huid.symm, rfl⟩, rfl⟩
  · obtain ⟨e, hperform⟩ := h.perform_refused hmodes hfits
    rw [hperform, Operation.after, if_neg hfits, ← h.info]
    exact ⟨h, rfl⟩

private theorem Mirrors.performAll (h : held.Mirrors gateway p d) (hmodes : d.modes.length ≤ 255)
    (ops : List Operation) :
    (Operation.performAll Line.ask ops held).Mirrors gateway p (ops.foldl Operation.after d) ∧
      (Operation.performAll Line.ask ops held).device =
        { held.device with info := (ops.foldl Operation.after d).info } ∧
      (ops.foldl Operation.after d).modes = d.modes := by
  induction ops generalizing held d with
  | nil =>
    refine ⟨h, ?_, rfl⟩
    rw [Operation.performAll, List.foldl_nil, List.foldl_nil, ← h.info]
  | cons op ops ih =>
    obtain ⟨hmirrors, hdevice⟩ := h.perform hmodes op
    have hkept := op.after_modes d
    obtain ⟨hrun, hlast, hmodes'⟩ := ih hmirrors (hkept ▸ hmodes)
    refine ⟨hrun, ?_, hmodes'.trans hkept⟩
    rw [hdevice] at hlast
    exact hlast

private theorem Mirrors.deviceLabel (h : held.Mirrors gateway p d) :
    ∃ line, Held.deviceLabel Line.ask held =
      (.ok (keptText 32 d.deviceLabel), { held with line }) := by
  have hget : d.get ParameterId.deviceLabel.code [] = .ok (labelBytes d.deviceLabel) := rfl
  obtain ⟨reply, line, hexchange, hreply, -⟩ := h.exchange_get .deviceLabel (by simp) hget
  refine ⟨line, ?_⟩
  rw [Held.deviceLabel, Attempt.bind_ok hexchange, hreply, labelText_labelBytes]
  rfl

end Held

section Loaded

variable {σ : Type} {line : Line σ} {gateway : σ → Gateway} {p : Place} {location : OutputAddress}
  {d : Responder}

/-- A device mirrors its responder. Loading one gives the responder's description, and after any
operations what is known of the device is what the responder tells. An operation succeeds exactly when
its value is in range, and then the responder has the value; otherwise nothing changes on either side
and the line is not used. -/
theorem device_mirrors_responder (h : line.Reaches gateway p location d)
    (hmodes : d.modes.length ≤ 255) (hsensors : d.sensors.length ≤ 255) :
    ∃ line', Device.load Line.ask d.uid location line = (.ok (d.description location), line') ∧
      gateway line'.bus.state = p.holding d ∧
      ∀ ops : List Operation,
        let held := Operation.performAll Line.ask ops ⟨d.description location, line'⟩
        let now := ops.foldl Operation.after d
        held.device = { d.description location with info := now.info } ∧
        DeviceInfo.parse now.infoBytes = .ok held.device.info ∧
        gateway held.line.bus.state = p.holding now ∧
        (∀ op : Operation, ((op.perform Line.ask held).1 = .ok () ↔ op.Fits now) ∧
          (op.Fits now →
            gateway (op.perform Line.ask held).2.line.bus.state = p.holding (op.apply now)) ∧
          (¬op.Fits now → ∃ e, op.perform Line.ask held = (.error (.setting e), held))) ∧
        ∀ text, (Held.deviceLabel Line.ask ((Operation.label text).perform Line.ask held).2).1 =
          .ok (keptText 32 text) := by
  obtain ⟨line', hload, hreaches⟩ := load_reaches hmodes hsensors h
  refine ⟨line', hload, hreaches.holding, ?_⟩
  intro ops held now
  have hloaded : (⟨d.description location, line'⟩ : Held (Line σ)).Mirrors gateway p d :=
    ⟨hreaches, rfl, rfl⟩
  obtain ⟨hmirrors, hdevice, hnow⟩ := hloaded.performAll hmodes ops
  have hmodes' : now.modes.length ≤ 255 := by rw [hnow]; exact hmodes
  refine ⟨hdevice, ?_, hmirrors.reaches.holding, ?_, ?_⟩
  · rw [now.infoBytes_eq, DeviceInfo.parse_toBytes, hmirrors.info]
  · intro op
    by_cases hfits : op.Fits now
    · obtain ⟨line'', hperform, hreaches'⟩ := hmirrors.perform_fits hmodes' hfits
      rw [hperform]
      exact ⟨iff_of_true rfl hfits, fun _ => hreaches'.holding, fun hrefused => absurd hfits hrefused⟩
    · obtain ⟨e, hperform⟩ := hmirrors.perform_refused hmodes' hfits
      rw [hperform]
      exact ⟨iff_of_false nofun hfits, fun htaken => absurd htaken hfits, fun _ => ⟨e, rfl⟩⟩
  · intro text
    obtain ⟨line'', hlabel⟩ := (hmirrors.perform hmodes' (.label text)).1.deviceLabel
    have hkept : keptText 32 ((Operation.label text).after now).deviceLabel = keptText 32 text :=
      keptText_asciiText 32 text
    rw [hlabel, hkept]

/-- A gateway that sends late answers, with a responder of two modes behind another one on the same
universe. -/
theorem device_mirrors_responder_late :
    let socket : Ipv4Socket := ⟨.loopback, 6454⟩
    let d : Responder := { Responder.usual 0x4c55 7 with modelDescription := "Lamp\x00hidden é" }
    let p : Place := ⟨.ofSetup ((Setup.usual "desk").onNet 1 2) ⟨[0x2000], true, true⟩ .loopback 6454,
      [⟨1, 0x20, .usual 0x4c55 8⟩], 1, 0x20, []⟩
    let location : OutputAddress := ⟨⟨.loopback, 1, socket⟩, ⟨1, 2, 0⟩⟩
    let line : Line Gateway := ⟨.ofSettings .usual, .ofNetwork (direct socket) (p.holding d)⟩
    ∃ line', Device.load Line.ask d.uid location line = (.ok (d.description location), line') ∧
      (Operation.performAll Line.ask [.personality 2, .startAddress 513]
        ⟨d.description location, line'⟩).device.info.dmxFootprint = 4 := by
  intro socket d p location line
  have hreaches : line.Reaches id p location d := by
    refine ⟨wired_direct socket, Registry.fresh_empty, rfl, ?_, by decide, rfl, by decide, by decide⟩
    decide
  obtain ⟨line', hload, -, hrun⟩ := device_mirrors_responder hreaches (by decide) (by decide)
  refine ⟨line', hload, ?_⟩
  rw [(hrun [.personality 2, .startAddress 513]).1]
  rfl

end Loaded

end Rdm

end LightingNet
