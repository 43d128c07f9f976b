import LightingNet.Simulation.Datagrams
import Mathlib.Logic.Basic
/-!
# What a responder tells, takes and refuses

A responder tells a value, takes a value or refuses. Two relations say what it tells and what it takes;
both look into a list of the responder only where the list has a member. From there on, what a request
changes is told parameter by parameter, and what a run of requests keeps by induction on the run.
-/
namespace LightingNet.Simulation

private theorem length_labelBytes (s : String) : (labelBytes s).length ≤ 32 :=
    List.length_take_le _ _

@[simp] theorem length_signedBytes (n : Int16) : (signedBytes n).length = 2 := rfl

namespace Responder

variable {d after : Responder} {pid : UInt16} {data value : Bytes} {number : UInt8}

/-- The value that a responder tells for a parameter, given the data of the request. -/
inductive Tells (d : Responder) : UInt16 → Bytes → Bytes → Prop
  | parameters (data : Bytes) : Tells d 0x0050 data (listedParameters.flatMap be16)
  | info (data : Bytes) : Tells d 0x0060 data d.infoBytes
  | manufacturerLabel (data : Bytes) : Tells d 0x0081 data (labelBytes d.manufacturerLabel)
  | modelDescription (data : Bytes) : Tells d 0x0080 data (labelBytes d.modelDescription)
  | softwareVersionLabel (data : Bytes) : Tells d 0x00c0 data (labelBytes d.softwareVersionLabel)
  | deviceLabel (data : Bytes) : Tells d 0x0082 data (labelBytes d.deviceLabel)
  | startAddress (data : Bytes) : Tells d 0x00f0 data (be16 d.startAddress)
  | currentMode (data : Bytes) : Tells d 0x00e0 data [d.currentMode, UInt8.ofNat d.modes.length]
  | mode (number : UInt8) (rest : Bytes) (low : number ≠ 0) (high : number.toNat - 1 < d.modes.length) :
    Tells d 0x00e1 (number :: rest) (number :: be16 d.modes[number.toNat - 1].footprint ++
      labelBytes d.modes[number.toNat - 1].description)
  | sensor (number : UInt8) (rest : Bytes) (high : number.toNat < d.sensors.length) :
    Tells d 0x0200 (number :: rest) ([number, 0, 1, 0] ++ [-40, 120, 0, 80].flatMap signedBytes ++ [3] ++
      labelBytes d.sensors[number.toNat])
  | sensorValue (number : UInt8) (rest : Bytes) (high : number.toNat < d.sensors.length) :
    Tells d 0x0201 (number :: rest) ([number] ++
      [d.sensorValue, d.sensorValue - 5, d.sensorValue + 5, d.sensorValue].flatMap signedBytes)
  | identify (data : Bytes) : Tells d 0x1000 data [if d.identify then 1 else 0]

inductive Takes (d : Responder) : UInt16 → Bytes → Responder → Prop
  | deviceLabel (data : Bytes) :
    Takes d 0x0082 data { d with deviceLabel := Utf8.toStringLossy (data.take 32) }
  | startAddress (address : UInt16) (low : 1 ≤ address) (high : address ≤ 512) :
    Takes d 0x00f0 (be16 address) { d with startAddress := address }
  | mode (number : UInt8) (rest : Bytes) (low : number ≠ 0) (high : number.toNat ≤ d.modes.length) :
    Takes d 0x00e0 (number :: rest) { d with currentMode := number }
  | identify (on : UInt8) (rest : Bytes) : Takes d 0x1000 (on :: rest) { d with identify := on ≠ 0 }

theorem byNumber_eq_ok_iff {α : Type} {answer : UInt8 → Except Refusal α} {a : α} :
    byNumber data answer = .ok a ↔ ∃ number rest, data = number :: rest ∧ answer number = .ok a := by
  cases data <;> simp [byNumber]

theorem modeBytes_eq_ok_iff :
    d.modeBytes number = .ok value ↔ number ≠ 0 ∧ ∃ h : number.toNat - 1 < d.modes.length,
      value = number :: be16 d.modes[number.toNat - 1].footprint ++
        labelBytes d.modes[number.toNat - 1].description := by
  unfold modeBytes
  by_cases hzero : number = 0
  · simp [hzero]
  by_cases hlist : number.toNat - 1 < d.modes.length
  · simp [hzero, hlist, eq_comm]
  · simp [hzero, hlist]

theorem sensorBytes_eq_ok_iff :
    d.sensorBytes number = .ok value ↔ ∃ h : number.toNat < d.sensors.length,
      value = [number, 0, 1, 0] ++ [-40, 120, 0, 80].flatMap signedBytes ++ [3] ++
        labelBytes d.sensors[number.toNat] := by
  rw [sensorBytes]
  by_cases hlist : number.toNat < d.sensors.length
  · rw [List.getElem?_eq_getElem hlist]
    constructor
    · intro h
      exact ⟨hlist, (Except.ok.inj h).symm⟩
    · rintro ⟨-, rfl⟩
      rfl
  · rw [List.getElem?_eq_none (Nat.not_lt.mp hlist)]
    exact iff_of_false nofun fun h => hlist h.1

theorem valueBytes_eq_ok_iff :
    d.valueBytes number = .ok value ↔ number.toNat < d.sensors.length ∧
      value = [number] ++
        [d.sensorValue, d.sensorValue - 5, d.sensorValue + 5, d.sensorValue].flatMap signedBytes := by
  rw [valueBytes]
  by_cases hlist : number.toNat < d.sensors.length
  · rw [if_pos hlist, Except.ok.injEq, and_iff_right hlist, eq_comm]
  · rw [if_neg hlist]
    exact iff_of_false nofun fun h => hlist h.1

theorem get_eq_ok_iff : d.get pid data = .ok value ↔ d.Tells pid data value := by
  constructor
  · intro h
    -- Each test for a parameter that is passed leaves the tests behind it.
    unfold get at h
    obtain ⟨rfl, h⟩ | ⟨-, h⟩ := ite_eq_iff.mp h
    · exact Except.ok.inj h ▸ .parameters data
    obtain ⟨rfl, h⟩ | ⟨-, h⟩ := ite_eq_iff.mp h
    · exact Except.ok.inj h ▸ .info data
    obtain ⟨rfl, h⟩ | ⟨-, h⟩ := ite_eq_iff.mp h
    · exact Except.ok.inj h ▸ .manufacturerLabel data
    obtain ⟨rfl, h⟩ | ⟨-, h⟩ := ite_eq_iff.mp h
    · exact Except.ok.inj h ▸ .modelDescription data
    obtain ⟨rfl, h⟩ | ⟨-, h⟩ := ite_eq_iff.mp h
    · exact Except.ok.inj h ▸ .softwareVersionLabel data
    obtain ⟨rfl, h⟩ | ⟨-, h⟩ := ite_eq_iff.mp h
    · exact Except.ok.inj h ▸ .deviceLabel data
    obtain ⟨rfl, h⟩ | ⟨-, h⟩ := ite_eq_iff.mp h
    · exact Except.ok.inj h ▸ .startAddress data
    obtain ⟨rfl, h⟩ | ⟨-, h⟩ := ite_eq_iff.mp h
    · exact Except.ok.inj h ▸ .currentMode data
    obtain ⟨rfl, h⟩ | ⟨-, h⟩ := ite_eq_iff.mp h
    · obtain ⟨number, rest, rfl, hanswer⟩ := byNumber_eq_ok_iff.mp h
      obtain ⟨hzero, hlist, rfl⟩ := modeBytes_eq_ok_iff.mp hanswer
      exact .mode number rest hzero hlist
    obtain ⟨rfl, h⟩ | ⟨-, h⟩ := ite_eq_iff.mp h
    · obtain ⟨number, rest, rfl, hanswer⟩ := byNumber_eq_ok_iff.mp h
      obtain ⟨hlist, rfl⟩ := sensorBytes_eq_ok_iff.mp hanswer
      exact .sensor number rest hlist
    obtain ⟨rfl, h⟩ | ⟨-, h⟩ := ite_eq_iff.mp h
    · obtain ⟨number, rest, rfl, hanswer⟩ := byNumber_eq_ok_iff.mp h
      obtain ⟨hlist, rfl⟩ := valueBytes_eq_ok_iff.mp hanswer
      exact .sensorValue number rest hlist
    obtain ⟨rfl, h⟩ | ⟨-, h⟩ := ite_eq_iff.mp h
    · exact Except.ok.inj h ▸ .identify data
    cases h
  · intro h
    cases h with
    | mode number rest low high => exact modeBytes_eq_ok_iff.mpr ⟨low, high, rfl⟩
    | sensor number rest high => exact sensorBytes_eq_ok_iff.mpr ⟨high, rfl⟩
    | sensorValue number rest high => exact valueBytes_eq_ok_iff.mpr ⟨high, rfl⟩
    | _ => rfl

theorem setStart_eq_ok_iff :
    d.setStart data = .ok after ↔ ∃ address : UInt16, data = be16 address ∧ 1 ≤ address ∧ address ≤ 512 ∧
      after = { d with startAddress := address } := by
  constructor
  · intro h
    unfold setStart at h
    split at h
    · rename_i hi lo
      obtain ⟨⟨low, high⟩, h⟩ | ⟨-, h⟩ := ite_eq_iff.mp h
      · exact ⟨word16 hi lo, (be16_word16 hi lo).symm, low, high, (Except.ok.inj h).symm⟩
      · cases h
    · cases h
  · rintro ⟨address, rfl, low, high, rfl⟩
    rw [be16, setStart, word16_of_halves]
    exact if_pos ⟨low, high⟩

theorem setMode_eq_ok_iff :
    d.setMode number = .ok after ↔ number ≠ 0 ∧ number.toNat ≤ d.modes.length ∧
      after = { d with currentMode := number } := by
  rw [setMode]
  by_cases hout : number = 0 ∨ d.modes.length < number.toNat
  · rw [if_pos hout]
    refine iff_of_false nofun fun h => ?_
    exact hout.elim h.1 (Nat.not_lt.mpr h.2.1)
  · rw [if_neg hout, Except.ok.injEq]
    obtain ⟨hzero, hlist⟩ := not_or.mp hout
    rw [and_iff_right hzero, and_iff_right (Nat.not_lt.mp hlist), eq_comm]

theorem set_eq_ok_iff : d.set pid data = .ok after ↔ d.Takes pid data after := by
  constructor
  · intro h
    unfold set at h
    obtain ⟨rfl, h⟩ | ⟨-, h⟩ := ite_eq_iff.mp h
    · exact Except.ok.inj h ▸ .deviceLabel data
    obtain ⟨rfl, h⟩ | ⟨-, h⟩ := ite_eq_iff.mp h
    · obtain ⟨address, rfl, low, high, rfl⟩ := setStart_eq_ok_iff.mp h
      exact .startAddress address low high
    obtain ⟨rfl, h⟩ | ⟨-, h⟩ := ite_eq_iff.mp h
    · obtain ⟨number, rest, rfl, hanswer⟩ := byNumber_eq_ok_iff.mp h
      obtain ⟨hzero, hlist, rfl⟩ := setMode_eq_ok_iff.mp hanswer
      exact .mode number rest hzero hlist
    obtain ⟨rfl, h⟩ | ⟨-, h⟩ := ite_eq_iff.mp h
    · obtain ⟨on, rest, rfl, hanswer⟩ := byNumber_eq_ok_iff.mp h
      exact Except.ok.inj hanswer ▸ .identify on rest
    cases h
  · intro h
    cases h with
    | deviceLabel => rfl
    | startAddress address low high => exact setStart_eq_ok_iff.mpr ⟨address, rfl, low, high, rfl⟩
    | mode number rest low high => exact setMode_eq_ok_iff.mpr ⟨low, high, rfl⟩
    | identify => rfl

private theorem get_outside (rest : Bytes)
    (h : pid = 0x00e1 ∧ (number = 0 ∨ d.modes.length < number.toNat) ∨
      (pid = 0x0200 ∨ pid = 0x0201) ∧ d.sensors.length ≤ number.toNat) :
    d.get pid (number :: rest) = .error .outOfRange := by
  rcases h with ⟨rfl, hzero | hlist⟩ | ⟨rfl | rfl, hlist⟩
  · exact if_pos hzero
  · have hnone : d.modes[number.toNat - 1]? = none := List.getElem?_eq_none (by omega)
    change d.modeBytes number = _
    rw [modeBytes, hnone, ite_self]
  · change d.sensorBytes number = _
    rw [sensorBytes, List.getElem?_eq_none hlist]
  · exact if_neg (Nat.not_lt.mpr hlist)

theorem Tells.length_le (h : d.Tells pid data value) : value.length ≤ 45 := by
  have hlabel := length_labelBytes
  cases h with
  | parameters => decide
  | info => exact show 19 ≤ 45 by decide
  | manufacturerLabel | modelDescription | softwareVersionLabel | deviceLabel =>
    exact Nat.le_trans (hlabel _) (by decide)
  | startAddress | currentMode | identify => simp
  | mode number rest low high =>
    have hlength := hlabel d.modes[number.toNat - 1].description
    simp only [List.length_append, List.length_cons, length_be16]
    omega
  | sensor number rest high =>
    have hlength := hlabel d.sensors[number.toNat]
    simp only [List.flatMap_cons, List.flatMap_nil, List.length_append, List.length_cons,
      List.length_nil, length_signedBytes]
    omega
  | sensorValue => simp

/-- The responder with the value of one parameter as another responder has it. -/
def withField (d : Responder) (pid : UInt16) (other : Responder) : Responder :=
  if pid = 0x0082 then { d with deviceLabel := other.deviceLabel }
  else if pid = 0x00f0 then { d with startAddress := other.startAddress }
  else if pid = 0x00e0 then { d with currentMode := other.currentMode }
  else if pid = 0x1000 then { d with identify := other.identify }
  else d

private theorem withField_self (d : Responder) (pid : UInt16) : d.withField pid d = d := by
  simp [withField]

private theorem Takes.eq_withField (h : d.Takes pid data after) :
    after = d.withField pid after := by
  cases h <;> rfl

private theorem respond_cases (d : Responder) (r : Request) :
    (∃ value, r.command = 0x20 ∧ d.Tells r.pid r.data value ∧ d.respond r = (.ok value, d)) ∨
      (∃ after, r.command = 0x30 ∧ d.Takes r.pid r.data after ∧ d.respond r = (.ok [], after)) ∨
        ∃ reason, d.respond r = (.error reason, d) := by
  unfold respond
  by_cases hget : r.command = 0x20
  · rw [if_pos hget]
    cases hvalue : d.get r.pid r.data with
    | ok value => exact .inl ⟨value, hget, get_eq_ok_iff.mp hvalue, rfl⟩
    | error reason => exact .inr (.inr ⟨reason, rfl⟩)
  rw [if_neg hget]
  by_cases hset : r.command = 0x30
  · rw [if_pos hset]
    cases hafter : d.set r.pid r.data with
    | ok after => exact .inr (.inl ⟨after, hset, set_eq_ok_iff.mp hafter, rfl⟩)
    | error reason => exact .inr (.inr ⟨reason, rfl⟩)
  · rw [if_neg hset]
    exact .inr (.inr ⟨_, rfl⟩)

theorem respond_of_tells {r : Request} (hcommand : r.command = 0x20)
    (h : d.Tells r.pid r.data value) : d.respond r = (.ok value, d) := by
  rw [respond, if_pos hcommand, get_eq_ok_iff.mpr h]

theorem respond_of_takes {r : Request} (hcommand : r.command = 0x30)
    (h : d.Takes r.pid r.data after) : d.respond r = (.ok [], after) := by
  have hget : r.command ≠ 0x20 := by simp [hcommand]
  rw [respond, if_neg hget, if_pos hcommand, set_eq_ok_iff.mpr h]

def StartInRange (d : Responder) : Prop := 1 ≤ d.startAddress ∧ d.startAddress ≤ 512

def ModeInRange (d : Responder) : Prop := d.currentMode ≠ 0 ∧ d.currentMode.toNat ≤ d.modes.length

private theorem StartInRange.takes (hrange : d.StartInRange) (h : d.Takes pid data after) :
    after.StartInRange := by
  cases h with
  | startAddress address low high => exact ⟨low, high⟩
  | deviceLabel | mode | identify => exact hrange

private theorem ModeInRange.takes (hrange : d.ModeInRange) (h : d.Takes pid data after) :
    after.ModeInRange := by
  cases h with
  | mode number rest low high => exact ⟨low, high⟩
  | deviceLabel | startAddress | identify => exact hrange

/-- What a responder keeps when it takes a value it keeps on every request. -/
theorem respond_induction {P : Responder → Prop} (r : Request) (hd : P d)
    (htakes : ∀ pid data after, d.Takes pid data after → P after) : P (d.respond r).2 := by
  obtain ⟨value, -, -, h⟩ | ⟨after, -, htaken, h⟩ | ⟨reason, h⟩ := d.respond_cases r
  · rwa [h]
  · rw [h]
    exact htakes _ _ _ htaken
  · rwa [h]

theorem Takes.uid (h : d.Takes pid data after) : after.uid = d.uid := by
  cases h <;> rfl

theorem uid_respond (d : Responder) (r : Request) : (d.respond r).2.uid = d.uid :=
  respond_induction (P := fun after => after.uid = d.uid) r rfl fun _ _ _ => Takes.uid

def afterAll (d : Responder) (requests : List Request) : Responder :=
  requests.foldl (fun d r => (d.respond r).2) d

private theorem afterAll_snoc (d : Responder) (requests : List Request) (r : Request) :
    d.afterAll (requests ++ [r]) = ((d.afterAll requests).respond r).2 := by
  simp [afterAll]

private theorem StartInRange.afterAll (hrange : d.StartInRange) (requests : List Request) :
    (d.afterAll requests).StartInRange := by
  induction requests generalizing d with
  | nil => exact hrange
  | cons r requests ih => exact ih (respond_induction r hrange fun _ _ _ => hrange.takes)

private theorem ModeInRange.afterAll (hrange : d.ModeInRange) (requests : List Request) :
    (d.afterAll requests).ModeInRange := by
  induction requests generalizing d with
  | nil => exact hrange
  | cons r requests ih => exact ih (respond_induction r hrange fun _ _ _ => hrange.takes)

private theorem footprint_eq (d : Responder) :
    d.footprint = if h : d.currentMode.toNat - 1 < d.modes.length then
      d.modes[d.currentMode.toNat - 1].footprint else 0 := by
  unfold footprint
  by_cases hlist : d.currentMode.toNat - 1 < d.modes.length <;> simp [hlist]

end Responder

private theorem response_whole (r : Request) (transaction kind : UInt8) {data : Bytes}
    (hdata : data.length ≤ 231) :
    (response r transaction kind data).length = 49 + data.length ∧
      ((response r transaction kind data).drop 47).take data.length = data := by
  have hkept : data.take 231 = data := List.take_of_length_le hdata
  let heading : Bytes := [1, UInt8.ofNat (24 + data.length)] ++ r.source.bytes ++
    r.destination.bytes ++ [transaction, kind, 0] ++ be16 r.subDevice ++
    [if r.command = 0x30 then 0x31 else 0x21] ++ be16 r.pid ++ [UInt8.ofNat data.length]
  let front := versioned 0x8300 ++ [1] ++ List.replicate 8 0 ++ [r.net, 0, r.address] ++ heading
  have hfront : front.length = 47 := rfl
  have hbehind (rest : Bytes) : (front ++ rest).length = 47 + rest.length := by
    rw [← hfront]
    exact List.length_append
  have hsplit : response r transaction kind data =
      front ++ (data ++ be16 (sumOf (heading ++ data))) := by
    simp only [response, hkept, front, heading, List.append_assoc]
  rw [hsplit, List.drop_left' hfront, List.take_left' rfl, hbehind, List.length_append, length_be16]
  refine ⟨?_, rfl⟩
  omega

namespace Responder

/-- What may come of a request, with the responder after it. -/
structure Answered (d : Responder) (r : Request) (answer : Except Refusal Bytes)
    (after : Responder) : Prop where
  accepted : ∀ value, answer = .ok value ↔
    r.command = 0x20 ∧ d.Tells r.pid r.data value ∨
      r.command = 0x30 ∧ d.Takes r.pid r.data after ∧ value = []
  asked : r.command = 0x20 → after = d
  refused : ∀ reason, answer = .error reason → after = d
  /-- Only the value of the request's parameter may be another one. -/
  field : after = d.withField r.pid after
  outside : ∀ number rest, r.command = 0x20 → r.data = number :: rest →
    r.pid = 0x00e1 ∧ (number = 0 ∨ d.modes.length < number.toNat) ∨
      (r.pid = 0x0200 ∨ r.pid = 0x0201) ∧ d.sensors.length ≤ number.toNat →
    answer = .error .outOfRange
  /-- An accepted request is answered with a value that no datagram cuts. -/
  whole : ∀ value, answer = .ok value → value.length ≤ 231 ∧
    (response r r.transaction 0 value).length = 49 + value.length ∧
    ((response r r.transaction 0 value).drop 47).take value.length = value

private theorem answered_respond (d : Responder) (r : Request) :
    d.Answered r (d.respond r).1 (d.respond r).2 := by
  have hset (h : r.command = 0x30) : r.command ≠ 0x20 := by simp [h]
  constructor
  case accepted =>
    intro value
    constructor
    · intro h
      obtain ⟨told, hcommand, htells, hanswer⟩ | ⟨after, hcommand, htakes, hanswer⟩ |
        ⟨reason, hanswer⟩ := d.respond_cases r
      · rw [hanswer] at h
        exact .inl ⟨hcommand, Except.ok.inj h ▸ htells⟩
      · rw [hanswer] at h ⊢
        exact .inr ⟨hcommand, htakes, (Except.ok.inj h).symm⟩
      · rw [hanswer] at h
        cases h
    · rintro (⟨hcommand, htells⟩ | ⟨hcommand, htakes, rfl⟩)
      · rw [respond_of_tells hcommand htells]
      · rw [respond_of_takes hcommand htakes]
  case asked =>
    intro h
    rw [respond, if_pos h]
  case refused =>
    intro reason h
    obtain ⟨value, -, -, hanswer⟩ | ⟨after, -, -, hanswer⟩ | ⟨reason', hanswer⟩ := d.respond_cases r
    · rw [hanswer]
    · rw [hanswer] at h
      cases h
    · rw [hanswer]
  case field =>
    obtain ⟨value, -, -, hanswer⟩ | ⟨after, -, htakes, hanswer⟩ | ⟨reason, hanswer⟩ := d.respond_cases r
    · rw [hanswer, withField_self]
    · rw [hanswer]
      exact htakes.eq_withField
    · rw [hanswer, withField_self]
  case outside =>
    intro number rest hcommand hdata houtside
    rw [respond, if_pos hcommand, hdata, get_outside rest houtside]
  case whole =>
    intro value h
    have hlength : value.length ≤ 231 := by
      obtain ⟨told, -, htells, hanswer⟩ | ⟨after, -, -, hanswer⟩ | ⟨reason, hanswer⟩ := d.respond_cases r
      · rw [hanswer] at h
        exact Except.ok.inj h ▸ Nat.le_trans htells.length_le (by decide)
      · rw [hanswer] at h
        exact Except.ok.inj h ▸ Nat.zero_le _
      · rw [hanswer] at h
        cases h
    exact ⟨hlength, response_whole r r.transaction 0 hlength⟩

/-- Whatever a responder was asked before, a request is answered as a whole or not at all. To be asked for
a value and to refuse leave the responder as it is, and to take a value changes the field of its
parameter only. A value is told for exactly the members that the lists of a responder have, and fits its
datagram. The start address and the mode stay in their ranges if they were in them at first. -/
theorem requests_atomic (d : Responder) (earlier : List Request) (r : Request) :
    let s := d.afterAll earlier
    let after := d.afterAll (earlier ++ [r])
    s.Answered r (s.respond r).1 after ∧
      s.footprint = (if h : s.currentMode.toNat - 1 < s.modes.length then
        s.modes[s.currentMode.toNat - 1].footprint else 0) ∧
      (d.StartInRange → after.StartInRange) ∧ (d.ModeInRange → after.ModeInRange) := by
  intro s after
  have hafter : after = (s.respond r).2 := d.afterAll_snoc earlier r
  refine ⟨?_, s.footprint_eq, fun h => h.afterAll _, fun h => h.afterAll _⟩
  rw [hafter]
  exact s.answered_respond r

/-- A responder that takes its last slot and mode, refuses what lies behind them, and describes no mode
of number 0. -/
theorem requests_atomic_refused :
    let d := usual 0x7ff0 1
    let ask (command : UInt8) (pid : UInt16) (data : Bytes) : Request :=
      ⟨0, 0, d.uid, .zero, 0, 0, command, pid, data⟩
    let earlier := [ask 0x30 0x00f0 [2, 0], ask 0x30 0x00e0 [2]]
    let s := d.afterAll earlier
    s.startAddress = 512 ∧ s.currentMode = 2 ∧ d.afterAll (earlier ++ [ask 0x30 0x00f0 [2, 1]]) = s ∧
      d.afterAll (earlier ++ [ask 0x30 0x00e0 [3]]) = s ∧ s.StartInRange ∧ s.ModeInRange ∧
      (s.respond (ask 0x20 0x00e1 [0])).1 = .error .outOfRange := by
  intro d ask earlier s
  have hstart := (requests_atomic d earlier (ask 0x30 0x00f0 [2, 1])).1.refused .outOfRange rfl
  have hmode := (requests_atomic d earlier (ask 0x30 0x00e0 [3])).1.refused .outOfRange rfl
  obtain ⟨hzero, -⟩ := requests_atomic d earlier (ask 0x20 0x00e1 [0])
  obtain ⟨-, -, hslots, hmodes⟩ := requests_atomic d [ask 0x30 0x00f0 [2, 0]] (ask 0x30 0x00e0 [2])
  exact ⟨rfl, rfl, hstart, hmode, hslots ⟨by decide, by decide⟩, hmodes ⟨by decide, by decide⟩,
    hzero.outside 0 [] rfl rfl (.inl ⟨rfl, .inl rfl⟩)⟩

end Responder

end LightingNet.Simulation
