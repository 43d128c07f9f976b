import LightingNet.Proofs.Bytes.Places
import LightingNet.Proofs.Rdm.Attempt
/-!
# What is asked while a device is loaded

Whoever answers may answer anything, and may let each answer depend on all that was asked before. Notes
of a run hold every question with its answer, and taking them changes nothing. They tell how loading
goes on: it fails with the first request and with no other, a list of entries is read up to the first
that fails, and whatever else fails is left out.
-/
namespace LightingNet.Rdm

variable {σ α β : Type}

/-- A question that was put, with its answer. -/
structure Exchange where
  question : Question
  answer : Option Packet

private theorem DeviceInfo.exists_fields {b : Bytes} (h : 19 ≤ b.length) :
    ∃ info rest, fields b = some (info, rest) := by
  have hread : ∃ info rest, fields (b.drop 0) = some (info, rest) := by
    simp (disch := omega) only [fields, Places.reads_beWord.bind, Places.reads_beDouble.bind,
      Places.reads_byte.bind, Places.beWord?_eq_wordAt, Places.beDouble?_eq_word32,
      Places.getElem?_eq_byteAt, Option.bind_some, Reader.pure_apply]
    exact ⟨_, _, rfl⟩
  exact hread

theorem DeviceInfo.parse_cases (b : Bytes) :
    (b.length < 19 ∧ parse b = .error (.tooShort 19 b.length)) ∨
      (19 ≤ b.length ∧ ∃ info, parse b = .ok info) := by
  by_cases h : b.length < 19
  · exact .inl ⟨h, by rw [parse, readParameter, if_pos h]⟩
  · obtain ⟨info, rest, hread⟩ := exists_fields (Nat.not_lt.mp h)
    exact .inr ⟨Nat.not_lt.mp h, info, by rw [parse, readParameter, if_neg h, hread]⟩

namespace Exchange

def accepted? (e : Exchange) : Option Packet :=
  e.answer.filter fun reply => reply.responseType? = some .ack

def read? (parse : Bytes → Except CodecError α) (e : Exchange) : Option α :=
  e.accepted?.bind fun reply => (parse reply.data).toOption

/-- Why a request fails when its reply must accept it with `size` bytes at least. -/
inductive Fails (e : Exchange) (pid : ParameterId) (size : Nat) : Fault → Prop
  | unanswered (h : e.answer = none) : Fails e pid size (.noResponse pid)
  | refused {reply : Packet} (h : e.answer = some reply)
    (hkind : reply.responseType? = some .nackReason) :
    Fails e pid size (.refused pid (reply.nackReason?.getD (.other 0xffff)))
  | unexpected {reply : Packet} (h : e.answer = some reply)
    (hack : reply.responseType? ≠ some .ack) (hnack : reply.responseType? ≠ some .nackReason) :
    Fails e pid size (.unexpectedResponse pid reply.responseType?)
  | tooShort {reply : Packet} (h : e.accepted? = some reply) (hsize : reply.data.length < size) :
    Fails e pid size (.codec (.tooShort size reply.data.length))

variable (e : Exchange) (pid : ParameterId)

theorem accepted?_eq_some_iff (reply : Packet) :
    e.accepted? = some reply ↔ e.answer = some reply ∧ reply.responseType? = some .ack := by
  simp [accepted?, Option.filter_eq_some_iff]

theorem outcome_cases :
    (∃ reply, e.accepted? = some reply ∧ outcome pid e.answer = .ok reply) ∨
      ∃ fault, e.accepted? = none ∧ outcome pid e.answer = .error fault ∧
        ∀ size, e.Fails pid size fault := by
  cases hanswer : e.answer with
  | none =>
    refine .inr ⟨.noResponse pid, ?_, rfl, fun size => .unanswered hanswer⟩
    rw [accepted?, hanswer, Option.filter_none]
  | some reply =>
    by_cases hack : reply.responseType? = some .ack
    · refine .inl ⟨reply, (e.accepted?_eq_some_iff reply).mpr ⟨hanswer, hack⟩, ?_⟩
      simp only [outcome, checkAck, hack]
    have hnone : e.accepted? = none := by
      rw [accepted?, hanswer]
      simp [hack]
    by_cases hnack : reply.responseType? = some .nackReason
    · refine .inr ⟨_, hnone, ?_, fun size => .refused hanswer hnack⟩
      simp only [outcome, checkAck, hnack]
    · refine .inr ⟨_, hnone, ?_, fun size => .unexpected hanswer hack hnack⟩
      rw [outcome, checkAck]
      split
      · contradiction
      · contradiction
      · rfl

def parameters : List ParameterId :=
  match outcome .supportedParameters e.answer with
  | .ok reply => supportedParameters reply.data
  | .error _ => []

private theorem parameters_eq :
    e.parameters = (e.accepted?.map fun reply => supportedParameters reply.data).getD [] := by
  obtain ⟨reply, haccepted, houtcome⟩ | ⟨fault, haccepted, houtcome, -⟩ :=
    e.outcome_cases .supportedParameters
  · simp [parameters, haccepted, houtcome]
  · simp [parameters, haccepted, houtcome]

end Exchange

def inquiry (location : OutputAddress) (uid : Uid) (pid : ParameterId) (data : Bytes) : Question :=
  ⟨.ofOutput location, uid, false, pid.code, data⟩

def Asker.noting (ask : Asker σ) : Asker (σ × List Exchange) := fun q s =>
  ((ask q s.1).1, (ask q s.1).2, s.2 ++ [⟨q, (ask q s.1).1⟩])

/-- The same computation without notes and with them: it gives the same value and leaves the same
state, and adds some notes. -/
structure Noted (plain : StateM σ α) (noting : StateM (σ × List Exchange) α) (s : σ) (value : α)
    (s' : σ) (added : List Exchange) : Prop where
  plain : plain s = (value, s')
  noting : ∀ notes, noting (s, notes) = (value, s', notes ++ added)

namespace Noted

variable {s s' s'' : σ} {a : α} {b : β} {added more : List Exchange}

private theorem pure (a : α) (s : σ) : Noted (Pure.pure a) (Pure.pure a) s a s [] :=
  ⟨rfl, fun notes => by rw [List.append_nil]; rfl⟩

private theorem bind {x : StateM σ α} {y : StateM (σ × List Exchange) α} {f : α → StateM σ β}
    {g : α → StateM (σ × List Exchange) β} (hx : Noted x y s a s' added)
    (hf : Noted (f a) (g a) s' b s'' more) : Noted (x >>= f) (y >>= g) s b s'' (added ++ more) := by
  constructor
  · rw [stateM_bind hx.plain, hf.plain]
  · intro notes
    rw [stateM_bind (hx.noting notes), hf.noting, List.append_assoc]

private theorem bind_pure {x : StateM σ α} {y : StateM (σ × List Exchange) α}
    (hx : Noted x y s a s' added) (f : α → β) :
    Noted (x >>= fun a => Pure.pure (f a)) (y >>= fun a => Pure.pure (f a)) s (f a) s' added := by
  have hpure : Noted (Pure.pure (f a)) (Pure.pure (f a)) s' (f a) s' [] := .pure (f a) s'
  rw [← List.append_nil added]
  exact hx.bind hpure

private theorem exchange (ask : Asker σ) (location : OutputAddress) (uid : Uid) (pid : ParameterId)
    (data : Bytes) (s : σ) :
    ∃ e s', e.question = inquiry location uid pid data ∧
      Noted (ask.exchange location uid false pid data).run
        (ask.noting.exchange location uid false pid data).run s (outcome pid e.answer) s' [e] :=
  ⟨⟨inquiry location uid pid data, _⟩, _, rfl, rfl, fun _ => rfl⟩

end Noted

/-- The readings of one entry after the other up to the first that fails: the notes have the replies to
those numbers, and one note more when a reading failed. -/
structure ReadInOrder (question : UInt8 → Question) (parse : Bytes → Except CodecError α)
    (numbers : List UInt8) (asked : List Exchange) (values : List α) : Prop where
  questions : asked.map Exchange.question = (numbers.take (values.length + 1)).map question
  length_le : values.length ≤ numbers.length
  read : (asked.take values.length).map (Exchange.read? parse) = values.map some
  failed : ∀ e ∈ asked.drop values.length, e.read? parse = none

namespace ReadInOrder

variable {question : UInt8 → Question} {parse : Bytes → Except CodecError α} {number : UInt8}
  {numbers : List UInt8} {e : Exchange} {asked : List Exchange} {value : α} {values : List α}

private theorem nil : ReadInOrder question parse [] [] ([] : List α) :=
  ⟨rfl, Nat.le_refl 0, rfl, nofun⟩

private theorem cons (hquestion : e.question = question number) (hread : e.read? parse = some value)
    (h : ReadInOrder question parse numbers asked values) :
    ReadInOrder question parse (number :: numbers) (e :: asked) (value :: values) where
  questions := by
    rw [List.map_cons, hquestion, h.questions]
    rfl
  length_le := Nat.succ_le_succ h.length_le
  read := by
    rw [List.length_cons, List.take_succ_cons, List.map_cons, hread, h.read, List.map_cons]
  failed := h.failed

private theorem stop (hquestion : e.question = question number) (hread : e.read? parse = none) :
    ReadInOrder question parse (number :: numbers) [e] ([] : List α) where
  questions := by
    rw [List.map_singleton, hquestion]
    rfl
  length_le := Nat.zero_le _
  read := rfl
  failed := by
    intro e' he'
    obtain rfl := List.mem_singleton.mp he'
    exact hread

private theorem length_asked_le (h : ReadInOrder question parse numbers asked values) :
    asked.length ≤ numbers.length := by
  rw [← List.length_map (f := Exchange.question), h.questions, List.length_map, List.length_take]
  exact Nat.min_le_right _ _

private theorem exists_question (h : ReadInOrder question parse numbers asked values)
    (he : e ∈ asked) : ∃ number ∈ numbers, e.question = question number := by
  have hmem : e.question ∈ asked.map Exchange.question := List.mem_map_of_mem he
  rw [h.questions] at hmem
  obtain ⟨number, hnumber, hquestion⟩ := List.mem_map.mp hmem
  exact ⟨number, List.mem_of_mem_take hnumber, hquestion.symm⟩

end ReadInOrder

namespace Device

theorem isUsable_iff (d : Device) (pid : ParameterId) :
    d.isUsable pid ↔ pid.isMandatory ∨ pid ∈ d.supported := by
  rw [isUsable, Bool.or_eq_true, List.contains_iff_mem]

/-- What the notes tell of a label: it is asked for when it may be used, and then it is the text of the
reply that accepts this. -/
structure LabelTold (d : Device) (pid : ParameterId) (asked : List Exchange)
    (label : Option String) : Prop where
  questions : asked.map Exchange.question =
    if d.isUsable pid then [inquiry d.location d.uid pid []] else []
  label : label = (asked.head?.bind Exchange.accepted?).map fun reply => labelText reply.data

private theorem noted_readLabel (d : Device) (ask : Asker σ) (pid : ParameterId) (s : σ) :
    ∃ asked label s', Noted (d.readLabel ask pid) (d.readLabel ask.noting pid) s label s' asked ∧
      d.LabelTold pid asked label := by
  by_cases husable : d.isUsable pid
  · obtain ⟨e, s', hquestion, hexchange⟩ := Noted.exchange ask d.location d.uid pid [] s
    refine ⟨[e], e.accepted?.map fun reply => labelText reply.data, s', ?_, ?_⟩
    · rw [readLabel, readLabel, if_pos husable, if_pos husable, ← List.append_nil [e]]
      refine hexchange.bind ?_
      obtain ⟨reply, haccepted, houtcome⟩ | ⟨fault, haccepted, houtcome, -⟩ := e.outcome_cases pid
      · rw [haccepted, houtcome]
        exact .pure _ s'
      · rw [haccepted, houtcome]
        exact .pure _ s'
    · exact ⟨by simp [husable, hquestion], rfl⟩
  · refine ⟨[], none, s, ?_, ?_⟩
    · rw [readLabel, readLabel, if_neg husable, if_neg husable]
      exact .pure none s
    · exact ⟨by simp [husable], rfl⟩

private theorem noted_entry (d : Device) (ask : Asker σ) (pid : ParameterId) (data : Bytes)
    (parse : Bytes → Except CodecError α) (s : σ) :
    ∃ e s' result, e.question = inquiry d.location d.uid pid data ∧
      Noted (do parsed parse (← d.get ask pid data) : Attempt σ α).run
        (do parsed parse (← d.get ask.noting pid data) : Attempt _ α).run s result s' [e] ∧
      result.toOption = e.read? parse := by
  obtain ⟨e, s', hquestion, hexchange⟩ := Noted.exchange ask d.location d.uid pid data s
  obtain ⟨reply, haccepted, houtcome⟩ | ⟨fault, haccepted, houtcome, -⟩ := e.outcome_cases pid
  · rw [houtcome] at hexchange
    refine ⟨e, s', parsed parse reply, hquestion, ⟨?_, fun notes => ?_⟩, ?_⟩
    · exact Attempt.bind_ok hexchange.plain
    · exact Attempt.bind_ok (hexchange.noting notes)
    · rw [Exchange.read?, haccepted, Option.bind_some, parsed]
      cases parse reply.data <;> rfl
  · rw [houtcome] at hexchange
    refine ⟨e, s', .error fault, hquestion, ⟨?_, fun notes => ?_⟩, ?_⟩
    · exact Attempt.bind_error hexchange.plain
    · exact Attempt.bind_error (hexchange.noting notes)
    · rw [Exchange.read?, haccepted]
      rfl

private theorem noted_readEntries (d : Device) (ask : Asker σ) (pid : ParameterId)
    (parse : Bytes → Except CodecError α) (numbers : List UInt8) (s : σ) :
    ∃ asked values s',
      Noted (readEntries (fun number => do parsed parse (← d.get ask pid [number])) numbers)
        (readEntries (fun number => do parsed parse (← d.get ask.noting pid [number])) numbers)
        s values s' asked ∧
      ReadInOrder (fun number => inquiry d.location d.uid pid [number]) parse numbers asked values := by
  induction numbers generalizing s with
  | nil => exact ⟨[], [], s, .pure [] s, .nil⟩
  | cons number rest ih =>
    obtain ⟨e, s₁, result, hquestion, hentry, hresult⟩ := d.noted_entry ask pid [number] parse s
    rw [readEntries, readEntries]
    cases result with
    | ok value =>
      obtain ⟨asked, values, s', hrest, hread⟩ := ih s₁
      refine ⟨e :: asked, value :: values, s', ?_, hread.cons hquestion hresult.symm⟩
      exact hentry.bind (hrest.bind_pure (value :: ·))
    | error fault =>
      refine ⟨[e], [], s₁, ?_, .stop hquestion hresult.symm⟩
      rw [← List.append_nil [e]]
      exact hentry.bind (.pure [] s₁)

private theorem noted_readNumbered (d : Device) (ask : Asker σ) (pid : ParameterId)
    (hpid : pid.isMandatory = false) (parse : Bytes → Except CodecError α) (numbers : List UInt8)
    (s : σ) :
    ∃ asked values s',
      Noted (d.readNumbered ask pid parse numbers) (d.readNumbered ask.noting pid parse numbers)
        s values s' asked ∧
      ReadInOrder (fun number => inquiry d.location d.uid pid [number]) parse
        (if pid ∈ d.supported then numbers else []) asked values := by
  have husable : d.isUsable pid ↔ pid ∈ d.supported := by simp [isUsable_iff, hpid]
  by_cases hlisted : pid ∈ d.supported
  · rw [readNumbered, readNumbered, if_pos (husable.mpr hlisted), if_pos (husable.mpr hlisted),
      if_pos hlisted]
    exact d.noted_readEntries ask pid parse numbers s
  · rw [readNumbered, readNumbered, if_neg (mt husable.mp hlisted), if_neg (mt husable.mp hlisted),
      if_neg hlisted]
    exact ⟨[], [], s, .pure [] s, .nil⟩

/-- What the notes tell of a device, after the request that has to be answered: the list of its
parameters, its labels, and its entries as far as they were read. -/
structure ToldBy (d : Device) (listed : Exchange)
    (manufacturer model software modes sensors : List Exchange) : Prop where
  question : listed.question = inquiry d.location d.uid .supportedParameters []
  supported : d.supported =
    (listed.accepted?.map fun reply => supportedParameters reply.data).getD []
  manufacturerLabel : d.LabelTold .manufacturerLabel manufacturer d.manufacturerLabel
  modelDescription : d.LabelTold .deviceModelDescription model d.modelDescription
  softwareVersionLabel : d.LabelTold .softwareVersionLabel software d.softwareVersionLabel
  personalities : ReadInOrder
    (fun number => inquiry d.location d.uid .dmxPersonalityDescription [number]) Personality.parse
    (if .dmxPersonalityDescription ∈ d.supported then numbersFrom 1 d.info.personalityCount else [])
    modes d.personalities
  sensors : ReadInOrder
    (fun number => inquiry d.location d.uid .sensorDefinition [number]) SensorDefinition.parse
    (if .sensorDefinition ∈ d.supported then numbersFrom 0 d.info.sensorCount else [])
    sensors d.sensors

private theorem noted_describe (ask : Asker σ) (uid : Uid) (location : OutputAddress)
    (info : DeviceInfo) (s : σ) :
    ∃ listed manufacturer model software modes sensors d s',
      Noted (describe ask uid location info) (describe ask.noting uid location info) s d s'
        (listed :: (manufacturer ++ (model ++ (software ++ (modes ++ sensors))))) ∧
      (d.uid = uid ∧ d.location = location ∧ d.info = info) ∧
      d.ToldBy listed manufacturer model software modes sensors := by
  obtain ⟨listed, s₁, hquestion, hlisted⟩ :=
    Noted.exchange ask location uid .supportedParameters [] s
  let d : Device := ⟨uid, location, info, listed.parameters, none, none, none, [], []⟩
  obtain ⟨manufacturer, manufacturerLabel, s₂, hmanufacturer, hmanufacturerTold⟩ :=
    d.noted_readLabel ask .manufacturerLabel s₁
  obtain ⟨model, modelDescription, s₃, hmodel, hmodelTold⟩ :=
    d.noted_readLabel ask .deviceModelDescription s₂
  obtain ⟨software, softwareVersionLabel, s₄, hsoftware, hsoftwareTold⟩ :=
    d.noted_readLabel ask .softwareVersionLabel s₃
  obtain ⟨modes, personalities, s₅, hmodes, hmodesTold⟩ :=
    d.noted_readNumbered ask .dmxPersonalityDescription rfl Personality.parse
      (numbersFrom 1 info.personalityCount) s₄
  obtain ⟨sensors, definitions, s₆, hsensors, hsensorsTold⟩ :=
    d.noted_readNumbered ask .sensorDefinition rfl SensorDefinition.parse
      (numbersFrom 0 info.sensorCount) s₅
  refine ⟨listed, manufacturer, model, software, modes, sensors, ⟨uid, location, info, listed.parameters,
    manufacturerLabel, modelDescription, softwareVersionLabel, personalities, definitions⟩, s₆, ?_,
    ⟨rfl, rfl, rfl⟩, ?_⟩
  · exact hlisted.bind (hmanufacturer.bind (hmodel.bind (hsoftware.bind (hmodes.bind
      (hsensors.bind_pure _)))))
  · exact ⟨hquestion, listed.parameters_eq, ⟨hmanufacturerTold.questions, hmanufacturerTold.label⟩,
      ⟨hmodelTold.questions, hmodelTold.label⟩, ⟨hsoftwareTold.questions, hsoftwareTold.label⟩,
      hmodesTold, hsensorsTold⟩

section Told

variable {d : Device} {listed : Exchange} {manufacturer model software modes sensors : List Exchange}

private theorem LabelTold.length_le {pid : ParameterId} {asked : List Exchange}
    {label : Option String} (h : d.LabelTold pid asked label) : asked.length ≤ 1 := by
  rw [← List.length_map (f := Exchange.question), h.questions]
  split <;> simp

private theorem LabelTold.usable {pid : ParameterId} {asked : List Exchange} {label : Option String}
    (h : d.LabelTold pid asked label) {e : Exchange} (he : e ∈ asked) :
    e.question = inquiry d.location d.uid pid [] ∧ d.isUsable pid := by
  have hmem : e.question ∈ asked.map Exchange.question := List.mem_map_of_mem he
  rw [h.questions] at hmem
  by_cases husable : d.isUsable pid
  · rw [if_pos husable] at hmem
    exact ⟨List.mem_singleton.mp hmem, husable⟩
  · rw [if_neg husable] at hmem
    cases hmem

private theorem usable_of_mem_numbers {pid : ParameterId} {numbers : List UInt8} {number : UInt8}
    (h : number ∈ if pid ∈ d.supported then numbers else []) : d.isUsable pid := by
  by_cases hlisted : pid ∈ d.supported
  · exact (d.isUsable_iff pid).mpr (.inr hlisted)
  · rw [if_neg hlisted] at h
    cases h

private theorem length_numbersFrom_le (p : Prop) [Decidable p] (first : Nat) (count : UInt8) :
    (if p then numbersFrom first count else []).length ≤ count.toNat := by
  split
  · exact Nat.le_of_eq (by rw [numbersFrom, List.length_map, List.length_range'])
  · exact Nat.zero_le _

private theorem ToldBy.length_le (h : d.ToldBy listed manufacturer model software modes sensors) :
    (listed :: (manufacturer ++ (model ++ (software ++ (modes ++ sensors))))).length ≤
      4 + d.info.personalityCount.toNat + d.info.sensorCount.toNat := by
  have hmanufacturer := h.manufacturerLabel.length_le
  have hmodel := h.modelDescription.length_le
  have hsoftware := h.softwareVersionLabel.length_le
  have hmodes := Nat.le_trans h.personalities.length_asked_le (length_numbersFrom_le _ 1 _)
  have hsensors := Nat.le_trans h.sensors.length_asked_le (length_numbersFrom_le _ 0 _)
  simp only [List.length_cons, List.length_append]
  omega

private theorem ToldBy.usable (h : d.ToldBy listed manufacturer model software modes sensors)
    {e : Exchange} (he : e ∈ listed :: (manufacturer ++ (model ++ (software ++ (modes ++ sensors))))) :
    ∃ pid data, e.question = inquiry d.location d.uid pid data ∧
      (pid.isMandatory ∨ pid ∈ d.supported) := by
  simp only [← isUsable_iff]
  simp only [List.mem_cons, List.mem_append] at he
  rcases he with rfl | he | he | he | he | he
  · exact ⟨_, _, h.question, by rw [isUsable_iff]; exact .inl rfl⟩
  · exact ⟨_, _, h.manufacturerLabel.usable he⟩
  · exact ⟨_, _, h.modelDescription.usable he⟩
  · exact ⟨_, _, h.softwareVersionLabel.usable he⟩
  · obtain ⟨number, hnumber, hquestion⟩ := h.personalities.exists_question he
    exact ⟨_, _, hquestion, usable_of_mem_numbers hnumber⟩
  · obtain ⟨number, hnumber, hquestion⟩ := h.sensors.exists_question he
    exact ⟨_, _, hquestion, usable_of_mem_numbers hnumber⟩

end Told

private theorem noted_load (ask : Asker σ) (uid : Uid) (location : OutputAddress) (s : σ) :
    ∃ first : Exchange, first.question = inquiry location uid .deviceInfo [] ∧
      ((∃ fault s', first.Fails .deviceInfo 19 fault ∧
          (∀ reply, first.accepted? = some reply → reply.data.length < 19) ∧
          Noted (load ask uid location).run (load ask.noting uid location).run s (.error fault) s'
            [first]) ∨
        ∃ reply d s' listed manufacturer model software modes sensors,
          first.accepted? = some reply ∧ 19 ≤ reply.data.length ∧
          Noted (load ask uid location).run (load ask.noting uid location).run s (.ok d) s'
            (first :: listed :: (manufacturer ++ (model ++ (software ++ (modes ++ sensors))))) ∧
          d.uid = uid ∧ d.location = location ∧ first.read? DeviceInfo.parse = some d.info ∧
          d.ToldBy listed manufacturer model software modes sensors) := by
  obtain ⟨first, s₁, hquestion, hfirst⟩ := Noted.exchange ask location uid .deviceInfo [] s
  refine ⟨first, hquestion, ?_⟩
  obtain ⟨reply, haccepted, houtcome⟩ | ⟨fault, haccepted, houtcome, hfails⟩ :=
    first.outcome_cases .deviceInfo
  · rw [houtcome] at hfirst
    obtain ⟨hshort, hparse⟩ | ⟨hlong, info, hparse⟩ := DeviceInfo.parse_cases reply.data
    · refine .inl ⟨_, s₁, .tooShort haccepted hshort, ?_, ?_, fun notes => ?_⟩
      · intro reply' hreply'
        obtain rfl := Option.some.inj (haccepted.symm.trans hreply')
        exact hshort
      · refine (Attempt.bind_ok hfirst.plain).trans ?_
        rw [parsed, hparse]
        exact Attempt.bind_error (Attempt.liftM_error _ s₁)
      · refine (Attempt.bind_ok (hfirst.noting notes)).trans ?_
        rw [parsed, hparse]
        exact Attempt.bind_error (Attempt.liftM_error _ _)
    · obtain ⟨listed, manufacturer, model, software, modes, sensors, d, s', hdescribe,
        ⟨huid, hlocation, hinfo⟩, htold⟩ := noted_describe ask uid location info s₁
      refine .inr ⟨reply, d, s', listed, manufacturer, model, software, modes, sensors, haccepted,
        hlong, ⟨?_, fun notes => ?_⟩, huid, hlocation, ?_, htold⟩
      · refine (Attempt.bind_ok hfirst.plain).trans ?_
        rw [parsed, hparse, Attempt.bind_ok (Attempt.liftM_ok info s₁), Attempt.liftM_state,
          hdescribe.plain]
      · refine (Attempt.bind_ok (hfirst.noting notes)).trans ?_
        rw [parsed, hparse, Attempt.bind_ok (Attempt.liftM_ok info _), Attempt.liftM_state,
          hdescribe.noting, List.append_assoc]
        rfl
      · rw [Exchange.read?, haccepted, Option.bind_some, hparse, hinfo]
        rfl
  · rw [houtcome] at hfirst
    refine .inl ⟨fault, s₁, hfails 19, ?_, ?_, fun notes => ?_⟩
    · intro reply hreply
      rw [haccepted] at hreply
      cases hreply
    · exact Attempt.bind_error hfirst.plain
    · exact Attempt.bind_error (hfirst.noting notes)

/-- Loading does what it can. Whatever is asked may answer anything, also according to what it was asked
before. The first request is for what the device is. When its reply does not accept it or is too short,
loading fails with the fault of that request, and nothing else was asked. Otherwise it succeeds: the
list of parameters, the labels and the entries are those of the replies to requests about parameters
that may be used, entries are read in order up to the first that fails, and whatever else fails is left
out and stops nothing. -/
theorem load_best_effort (ask : Asker σ) (uid : Uid) (location : OutputAddress) (s : σ) :
    let run := load ask.noting uid location (s, [])
    load ask uid location s = (run.1, run.2.1) ∧
    ∃ first rest, run.2.2 = first :: rest ∧ first.question = inquiry location uid .deviceInfo [] ∧
      ((∃ d, run.1 = .ok d) ↔ ∃ reply, first.accepted? = some reply ∧ 19 ≤ reply.data.length) ∧
      (∀ fault, run.1 = .error fault → rest = [] ∧ first.Fails .deviceInfo 19 fault) ∧
      ∀ d, run.1 = .ok d →
        d.uid = uid ∧ d.location = location ∧ first.read? DeviceInfo.parse = some d.info ∧
        (∃ listed manufacturer model software modes sensors,
          rest = listed :: (manufacturer ++ (model ++ (software ++ (modes ++ sensors)))) ∧
          d.ToldBy listed manufacturer model software modes sensors) ∧
        (∀ e ∈ first :: rest, ∃ pid data, e.question = inquiry location uid pid data ∧
          (pid.isMandatory ∨ pid ∈ d.supported)) ∧
        (first :: rest).length ≤ 5 + d.info.personalityCount.toNat + d.info.sensorCount.toNat := by
  intro run
  obtain ⟨first, hquestion, ⟨fault, s', hfails, hshort, hload⟩ | ⟨reply, d, s', listed, manufacturer,
    model, software, modes, sensors, haccepted, hlong, hload, huid, hlocation, hinfo, htold⟩⟩ :=
    noted_load ask uid location s
  · have hrun : run = (.error fault, s', [first]) := hload.noting []
    rw [hrun]
    refine ⟨hload.plain, first, [], rfl, hquestion, ?_, ?_, nofun⟩
    · refine iff_of_false nofun ?_
      rintro ⟨reply, haccepted, hlong⟩
      exact Nat.not_lt.mpr hlong (hshort reply haccepted)
    · intro fault' hfault
      obtain rfl := Except.error.inj hfault
      exact ⟨rfl, hfails⟩
  · have hrun : run = (.ok d, s', first :: listed ::
        (manufacturer ++ (model ++ (software ++ (modes ++ sensors))))) := hload.noting []
    rw [hrun]
    refine ⟨hload.plain, first, _, rfl, hquestion, ?_, nofun, ?_⟩
    · exact iff_of_true ⟨d, rfl⟩ ⟨reply, haccepted, hlong⟩
    intro d' hd'
    obtain rfl := Except.ok.inj hd'
    refine ⟨huid, hlocation, hinfo, ⟨_, _, _, _, _, _, rfl, htold⟩, ?_, ?_⟩
    · rw [← huid, ← hlocation]
      intro e he
      rcases List.mem_cons.mp he with rfl | he
      · exact ⟨_, _, by rw [huid, hlocation]; exact hquestion, .inl rfl⟩
      · exact htold.usable he
    · have hlength := htold.length_le
      rw [List.length_cons]
      omega

end Device

end LightingNet.Rdm
