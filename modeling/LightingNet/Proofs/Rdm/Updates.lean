import LightingNet.Proofs.Rdm.Loading
import LightingNet.Proofs.Rdm.Mirror
import LightingNet.Proofs.Rdm.Numbering
/-!
# Updates of a device in hand

What is known of a device changes in one place: when the device, asked again, has told what it is.
An update that is refused or fails on the way there leaves everything known as it was, whoever
answers. So whatever is done with a device in hand, what is known of it is what was known first,
with the last full description that it gave.
-/
namespace LightingNet.Rdm

variable {σ α β : Type}

namespace Device

def question (d : Device) (isSet : Bool) (pid : ParameterId) (data : Bytes) : Question :=
  ⟨.ofOutput d.location, d.uid, isSet, pid.code, data⟩

def infoQuestion (d : Device) : Question := d.question false .deviceInfo []

def told? (d : Device) (e : Exchange) : Option DeviceInfo :=
  if e.question = d.infoQuestion then e.read? DeviceInfo.parse else none

def hear (d : Device) (e : Exchange) : Device :=
  match d.told? e with
  | some info => { d with info }
  | none => d

def hearAll (d : Device) (asked : List Exchange) : Device := asked.foldl hear d

variable (d : Device) {e : Exchange}

private theorem hear_told {info : DeviceInfo} (hquestion : e.question = d.infoQuestion)
    (hread : e.read? DeviceInfo.parse = some info) : d.hear e = { d with info } := by
  rw [hear, told?, if_pos hquestion, hread]

private theorem hear_unread (h : e.read? DeviceInfo.parse = none) : d.hear e = d := by
  rw [hear, told?, h, ite_self]

private theorem hear_other (h : e.question ≠ d.infoQuestion) : d.hear e = d := by
  rw [hear, told?, if_neg h]

private theorem question_ne_info {isSet : Bool} {pid : ParameterId} (data : Bytes)
    (h : isSet = true ∨ pid.code ≠ ParameterId.deviceInfo.code) :
    d.question isSet pid data ≠ d.infoQuestion := by
  intro hsame
  rcases h with rfl | hcode
  · cases congrArg Question.isSet hsame
  · exact hcode (congrArg Question.parameter hsame)

private theorem hearAll_append (asked more : List Exchange) :
    d.hearAll (asked ++ more) = (d.hearAll asked).hearAll more := List.foldl_append

private theorem hearAll_eq_self {asked : List Exchange} (h : ∀ e ∈ asked, d.hear e = d) :
    d.hearAll asked = d := by
  induction asked with
  | nil => rfl
  | cons e asked ih =>
    rw [hearAll, List.foldl_cons, h e List.mem_cons_self]
    exact ih fun e' he' => h e' (List.mem_cons_of_mem e he')

private theorem exists_hearAll_eq (asked : List Exchange) :
    ∃ info, d.hearAll asked = { d with info } := by
  induction asked generalizing d with
  | nil => exact ⟨d.info, rfl⟩
  | cons e asked ih =>
    obtain ⟨info, hinfo⟩ := ih (d.hear e)
    refine ⟨info, hinfo.trans ?_⟩
    rw [hear]
    split <;> rfl

end Device

theorem Exchange.info_isSome_iff (e : Exchange) :
    (e.read? DeviceInfo.parse).isSome ↔
      ∃ reply, e.accepted? = some reply ∧ 19 ≤ reply.data.length := by
  rw [read?]
  cases e.accepted? with
  | none =>
    simp only [Option.bind_none, Option.isSome_none, Bool.false_eq_true, reduceCtorEq, false_and,
      exists_false]
  | some reply =>
    simp only [Option.bind_some, Option.some.injEq, exists_eq_left']
    obtain ⟨hshort, hparse⟩ | ⟨hlong, info, hparse⟩ := DeviceInfo.parse_cases reply.data
    · simp only [hparse, Except.toOption, Option.isSome_none, Bool.false_eq_true, false_iff,
        Nat.not_le, hshort]
    · simp only [hparse, Except.toOption, Option.isSome_some, hlong]

namespace Held

/-- The same attempt with a device in hand, without notes and with them. Both give the same result
and leave the same device, and what is added to the notes is all that the line was asked. -/
structure Noted (ask : Asker σ) (plain : Attempt (Held σ) α)
    (noting : Attempt (Held (σ × List Exchange)) α) (h : Held σ) (result : Except Fault α)
    (h' : Held σ) (added : List Exchange) : Prop where
  plain : plain h = (result, h')
  noting : ∀ notes,
    noting ⟨h.device, h.line, notes⟩ = (result, ⟨h'.device, h'.line, notes ++ added⟩)
  line : h'.line = added.foldl (fun line e => (ask e.question line).2) h.line

namespace Noted

variable {ask : Asker σ} {h h' h'' : Held σ} {a : α} {added more : List Exchange}
  {x : Attempt (Held σ) α} {y : Attempt (Held (σ × List Exchange)) α}
  {f : α → Attempt (Held σ) β} {g : α → Attempt (Held (σ × List Exchange)) β}

private theorem bind_ok {result : Except Fault β} (hx : Noted ask x y h (.ok a) h' added)
    (hf : Noted ask (f a) (g a) h' result h'' more) :
    Noted ask (x >>= f) (y >>= g) h result h'' (added ++ more) where
  plain := (Attempt.bind_ok hx.plain).trans hf.plain
  noting notes := by rw [Attempt.bind_ok (hx.noting notes), hf.noting, List.append_assoc]
  line := by rw [List.foldl_append, ← hx.line, hf.line]

private theorem bind_error {fault : Fault} (hx : Noted ask x y h (.error fault) h' added) :
    Noted ask (x >>= f) (y >>= g) h (.error fault) h' added where
  plain := Attempt.bind_error hx.plain
  noting notes := Attempt.bind_error (hx.noting notes)
  line := hx.line

private theorem congr {result : Except Fault α} {x' : Attempt (Held σ) α}
    {y' : Attempt (Held (σ × List Exchange)) α} (hx : Noted ask x y h result h' added)
    (hplain : x' h = x h)
    (hnoting : ∀ notes, y' ⟨h.device, h.line, notes⟩ = y ⟨h.device, h.line, notes⟩) :
    Noted ask x' y' h result h' added where
  plain := hplain.trans hx.plain
  noting notes := (hnoting notes).trans (hx.noting notes)
  line := hx.line

private theorem lift (ask : Asker σ) {value result : Except Fault α} (hvalue : value = result)
    (h : Held σ) : Noted ask (liftM value) (liftM value) h result h [] where
  plain := by rw [hvalue]; rfl
  noting notes := by rw [hvalue, List.append_nil]; rfl
  line := rfl

private theorem keep (ask : Asker σ) (info : DeviceInfo) (h : Held σ) :
    Noted ask (modify fun h => { h with device := { h.device with info } })
      (modify fun h => { h with device := { h.device with info } }) h (.ok ())
      ⟨{ h.device with info }, h.line⟩ [] where
  plain := rfl
  noting notes := by rw [List.append_nil]; rfl
  line := rfl

private theorem exchange (ask : Asker σ) (isSet : Bool) (pid : ParameterId) (data : Bytes)
    (h : Held σ) : ∃ e line, e.question = h.device.question isSet pid data ∧
      Noted ask (Held.exchange ask isSet pid data) (Held.exchange ask.noting isSet pid data) h
        (outcome pid e.answer) ⟨h.device, line⟩ [e] :=
  ⟨⟨h.device.question isSet pid data, _⟩, _, rfl, rfl, fun _ => rfl, rfl⟩

private theorem asking (ask : Asker σ) (isSet : Bool) (pid : ParameterId) (data : Bytes)
    (read : Packet → Except Fault α) (h : Held σ) :
    ∃ e line result, e.question = h.device.question isSet pid data ∧
      Noted ask (do liftM (read (← Held.exchange ask isSet pid data)))
        (do liftM (read (← Held.exchange ask.noting isSet pid data))) h result ⟨h.device, line⟩
        [e] := by
  obtain ⟨e, line, hquestion, hexchange⟩ := exchange ask isSet pid data h
  cases houtcome : outcome pid e.answer with
  | ok reply =>
    rw [houtcome] at hexchange
    exact ⟨e, line, read reply, hquestion, hexchange.bind_ok (lift ask rfl _)⟩
  | error fault =>
    rw [houtcome] at hexchange
    exact ⟨e, line, .error fault, hquestion, hexchange.bind_error⟩

private theorem count {result : Except Fault α} (hx : Noted ask x y h result h' added)
    {number : σ → UInt8} (hnumber : ∀ q line, number (ask q line).2 = number line + 1) :
    number h'.line = number h.line + UInt8.ofNat added.length := by
  rw [hx.line]
  generalize h.line = line
  clear hx
  induction added generalizing line with
  | nil => exact (UInt8.add_zero _).symm
  | cons e added ih =>
    rw [List.foldl_cons, ih, hnumber, List.length_cons, Nat.add_comm, UInt8.ofNat_add,
      UInt8.add_assoc]
    rfl

end Noted

private theorem device_asking (ask : Asker σ) (isSet : Bool) (pid : ParameterId) (data : Bytes)
    (read : Packet → Except Fault α) (h : Held σ) :
    ((do liftM (read (← exchange ask isSet pid data)) : Attempt (Held σ) α) h).2.device =
      h.device := by
  obtain ⟨e, line, result, -, hnoted⟩ := Noted.asking ask isSet pid data read h
  rw [hnoted.plain]

private theorem noted_refresh (ask : Asker σ) (h : Held σ) :
    ∃ last line, last.question = h.device.infoQuestion ∧
      ((∃ fault, last.read? DeviceInfo.parse = none ∧ last.Fails .deviceInfo 19 fault ∧
          Noted ask (refresh ask) (refresh ask.noting) h (.error fault) ⟨h.device, line⟩ [last]) ∨
        ∃ info, last.read? DeviceInfo.parse = some info ∧
          Noted ask (refresh ask) (refresh ask.noting) h (.ok ()) ⟨{ h.device with info }, line⟩
            [last]) := by
  obtain ⟨last, line, hquestion, hlast⟩ := Noted.exchange ask false .deviceInfo [] h
  refine ⟨last, line, hquestion, ?_⟩
  obtain ⟨reply, haccepted, houtcome⟩ | ⟨fault, haccepted, houtcome, hfails⟩ :=
    last.outcome_cases .deviceInfo
  · rw [houtcome] at hlast
    have hread : last.read? DeviceInfo.parse = (DeviceInfo.parse reply.data).toOption := by
      rw [Exchange.read?, haccepted, Option.bind_some]
    obtain ⟨hshort, hparse⟩ | ⟨-, info, hparse⟩ := DeviceInfo.parse_cases reply.data
    · have hparsed : parsed DeviceInfo.parse reply =
          .error (.codec (.tooShort 19 reply.data.length)) := by rw [parsed, hparse]
      refine .inl ⟨_, hread.trans (by rw [hparse]; rfl), .tooShort haccepted hshort, ?_⟩
      have hlift := Noted.lift ask hparsed ⟨h.device, line⟩
      exact hlast.bind_ok hlift.bind_error
    · have hparsed : parsed DeviceInfo.parse reply = .ok info := by rw [parsed, hparse]
      refine .inr ⟨info, hread.trans (by rw [hparse]; rfl), ?_⟩
      have hlift := Noted.lift ask hparsed ⟨h.device, line⟩
      have hkeep := Noted.keep ask info ⟨h.device, line⟩
      exact hlast.bind_ok (hlift.bind_ok hkeep)
  · rw [houtcome] at hlast
    refine .inl ⟨fault, ?_, hfails 19, hlast.bind_error⟩
    rw [Exchange.read?, haccepted]
    rfl

end Held

inductive Update where
  | refresh
  | startAddress (address : UInt16)
  | personality (number : UInt8)

namespace Update

def perform (ask : Asker σ) : Update → Attempt (Held σ) Unit
  | refresh => Held.refresh ask
  | startAddress address => Held.setStartAddress ask address
  | personality number => Held.setPersonality ask number

/-- Why an argument is refused. How many personalities there are is read in what is known of the
device, which earlier updates may have changed. -/
def refusal? (d : Device) : Update → Option SettingError
  | refresh => none
  | startAddress address =>
    if 1 ≤ address ∧ address ≤ 512 then none else some (.startAddress address)
  | personality number =>
    if 1 ≤ number ∧ number ≤ d.info.personalityCount then none
    else some (.personality number d.info.personalityCount)

def setting? : Update → Option (ParameterId × Bytes)
  | refresh => none
  | startAddress address => some (.dmxStartAddress, be16 address)
  | personality number => some (.dmxPersonality, [number])

def questions (d : Device) (u : Update) : List Question :=
  (u.setting?.toList.map fun (pid, data) => d.question true pid data) ++ [d.infoQuestion]

/-- The ways in which an update ends: its argument is refused, the device does not accept what is
set, it does not tell what it is afterwards, or all is done. -/
inductive Ends (u : Update) (d : Device) : List Exchange → Except Fault Unit → Device → Prop
  | refused {error : SettingError} (h : u.refusal? d = some error) :
    Ends u d [] (.error (.setting error)) d
  | notSet {pid : ParameterId} {data : Bytes} {first : Exchange} {fault : Fault}
    (h : u.refusal? d = none) (hsetting : u.setting? = some (pid, data))
    (hfirst : first.question = d.question true pid data) (haccepted : first.accepted? = none)
    (hfails : first.Fails pid 0 fault) :
    Ends u d [first] (.error fault) d
  | notTold {accepted : List Exchange} {last : Exchange} {fault : Fault}
    (h : u.refusal? d = none)
    (hquestions : (accepted ++ [last]).map Exchange.question = u.questions d)
    (haccepted : ∀ e ∈ accepted, e.accepted?.isSome)
    (hread : last.read? DeviceInfo.parse = none) (hfails : last.Fails .deviceInfo 19 fault) :
    Ends u d (accepted ++ [last]) (.error fault) d
  | done {accepted : List Exchange} {last : Exchange} {info : DeviceInfo}
    (h : u.refusal? d = none)
    (hquestions : (accepted ++ [last]).map Exchange.question = u.questions d)
    (haccepted : ∀ e ∈ accepted, e.accepted?.isSome)
    (hread : last.read? DeviceInfo.parse = some info) :
    Ends u d (accepted ++ [last]) (.ok ()) { d with info }

private theorem noted_change (ask : Asker σ) (h : Held σ) {u : Update} {pid : ParameterId}
    {data : Bytes}
    (hrange : u.refusal? h.device = none) (hsetting : u.setting? = some (pid, data)) :
    ∃ asked result d line, u.Ends h.device asked result d ∧
      Held.Noted ask (Held.change ask pid data) (Held.change ask.noting pid data) h result ⟨d, line⟩
        asked := by
  obtain ⟨first, line, hquestion, hfirst⟩ := Held.Noted.exchange ask true pid data h
  obtain ⟨reply, haccepted, houtcome⟩ | ⟨fault, haccepted, houtcome, hfails⟩ :=
    first.outcome_cases pid
  · rw [houtcome] at hfirst
    have hall : ∀ e ∈ [first], e.accepted?.isSome := by
      intro e he
      rw [List.mem_singleton.mp he, haccepted]
      rfl
    obtain ⟨last, line', hinfo, hrefresh⟩ := Held.noted_refresh ask ⟨h.device, line⟩
    have hquestions : ([first] ++ [last]).map Exchange.question = u.questions h.device := by
      rw [questions, hsetting, List.map_append, List.map_singleton, List.map_singleton, hquestion,
        hinfo]
      rfl
    obtain ⟨fault, hread, hfails, hrefresh⟩ | ⟨info, hread, hrefresh⟩ := hrefresh
    · exact ⟨_, _, _, line', .notTold hrange hquestions hall hread hfails, hfirst.bind_ok hrefresh⟩
    · exact ⟨_, _, _, line', .done hrange hquestions hall hread, hfirst.bind_ok hrefresh⟩
  · rw [houtcome] at hfirst
    exact ⟨_, _, _, line, .notSet hrange hsetting hquestion haccepted (hfails 0),
      hfirst.bind_error⟩

private theorem noted_throw (ask : Asker σ) (h : Held σ) {u : Update} {error : SettingError}
    (hrefused : u.refusal? h.device = some error) :
    ∃ asked result d line, u.Ends h.device asked result d ∧
      Held.Noted ask (throw (.setting error)) (throw (.setting error)) h result ⟨d, line⟩ asked :=
  ⟨_, _, _, h.line, .refused hrefused, .lift ask rfl h⟩

private theorem noted_perform (ask : Asker σ) (h : Held σ) (u : Update) :
    ∃ asked result d line, u.Ends h.device asked result d ∧
      Held.Noted ask (u.perform ask) (u.perform ask.noting) h result ⟨d, line⟩ asked := by
  cases u with
  | refresh =>
    obtain ⟨last, line, hinfo, hrefresh⟩ := Held.noted_refresh ask h
    have hquestions : ([] ++ [last]).map Exchange.question = refresh.questions h.device := by
      rw [List.nil_append, List.map_singleton, hinfo]
      rfl
    obtain ⟨fault, hread, hfails, hrefresh⟩ | ⟨info, hread, hrefresh⟩ := hrefresh
    · exact ⟨_, _, _, line, .notTold rfl hquestions nofun hread hfails, hrefresh⟩
    · exact ⟨_, _, _, line, .done rfl hquestions nofun hread, hrefresh⟩
  | startAddress address =>
    by_cases hrange : 1 ≤ address ∧ address ≤ 512
    · simp only [perform, Held.setStartAddress, if_pos hrange]
      exact noted_change ask h (by rw [refusal?, if_pos hrange]) rfl
    · simp only [perform, Held.setStartAddress, if_neg hrange]
      exact noted_throw ask h (by rw [refusal?, if_neg hrange])
  | personality number =>
    -- The check is for the numbers out of range, and finds their limit in the device in hand.
    have hrange : (1 ≤ number ∧ number ≤ h.device.info.personalityCount) ↔
        ¬(number = 0 ∨ h.device.info.personalityCount < number) := by
      rw [not_or, UInt8.not_lt, UInt8.le_iff_toNat_le, ← UInt8.toNat_inj]
      exact and_congr_left' Nat.one_le_iff_ne_zero
    by_cases hnot : number = 0 ∨ h.device.info.personalityCount < number
    · have hrefused : refusal? h.device (personality number) =
          some (.personality number h.device.info.personalityCount) := by
        rw [refusal?, if_neg (mt hrange.mp (not_not.mpr hnot))]
      obtain ⟨asked, result, d, line, hends, hthrow⟩ := noted_throw ask h hrefused
      refine ⟨asked, result, d, line, hends, hthrow.congr ?_ fun notes => ?_⟩
      · rw [perform, Held.setPersonality_eq, if_pos hnot]
      · rw [perform, Held.setPersonality_eq, if_pos hnot]
    · have haccepted : refusal? h.device (personality number) = none := by
        rw [refusal?, if_pos (hrange.mpr hnot)]
      obtain ⟨asked, result, d, line, hends, hchange⟩ := noted_change ask h haccepted rfl
      refine ⟨asked, result, d, line, hends, hchange.congr ?_ fun notes => ?_⟩
      · rw [perform, Held.setPersonality_eq, if_neg hnot]
      · rw [perform, Held.setPersonality_eq, if_neg hnot]

namespace Ends

variable {u : Update} {d d' : Device} {asked : List Exchange} {result : Except Fault Unit}

private theorem questions_split {accepted : List Exchange} {last : Exchange}
    (h : (accepted ++ [last]).map Exchange.question = u.questions d) :
    (∀ e ∈ accepted, e.question ≠ d.infoQuestion) ∧ last.question = d.infoQuestion := by
  rw [List.map_append, questions] at h
  obtain ⟨hsettings, hlast⟩ := List.append_inj' h rfl
  refine ⟨fun e he => ?_, List.head_eq_of_cons_eq hlast⟩
  have hmem : e.question ∈ accepted.map Exchange.question := List.mem_map_of_mem he
  rw [hsettings] at hmem
  obtain ⟨⟨pid, data⟩, -, hquestion⟩ := List.mem_map.mp hmem
  rw [← hquestion]
  exact d.question_ne_info data (.inl rfl)

private theorem hearAll_split {accepted : List Exchange} {last : Exchange}
    (h : (accepted ++ [last]).map Exchange.question = u.questions d) :
    d.hearAll (accepted ++ [last]) = d.hear last := by
  have haccepted : d.hearAll accepted = d :=
    d.hearAll_eq_self fun e he => d.hear_other ((questions_split h).1 e he)
  rw [Device.hearAll_append, haccepted]
  rfl

private theorem device_eq (h : u.Ends d asked result d') : d' = d.hearAll asked := by
  cases h with
  | refused => rfl
  | notSet _ _ hfirst _ =>
    refine (d.hear_other ?_).symm
    rw [hfirst]
    exact d.question_ne_info _ (.inl rfl)
  | notTold _ hquestions _ hread =>
    rw [hearAll_split hquestions, d.hear_unread hread]
  | done _ hquestions _ hread =>
    rw [hearAll_split hquestions, d.hear_told (questions_split hquestions).2 hread]

private theorem questions_prefix (h : u.Ends d asked result d') :
    asked.map Exchange.question <+: u.questions d := by
  cases h with
  | refused => exact List.nil_prefix
  | notSet _ hsetting hfirst _ =>
    rw [questions, hsetting, List.map_singleton, hfirst]
    exact List.prefix_append _ _
  | notTold _ hquestions => exact hquestions ▸ List.prefix_rfl
  | done _ hquestions => exact hquestions ▸ List.prefix_rfl

private theorem of_refused {error : SettingError} (h : u.Ends d asked result d')
    (hrefused : u.refusal? d = some error) :
    asked = [] ∧ result = .error (.setting error) ∧ d' = d := by
  cases h with
  | refused hrefused' =>
    obtain rfl := Option.some.inj (hrefused.symm.trans hrefused')
    exact ⟨rfl, rfl, rfl⟩
  | notSet hrange => exact absurd (hrange.symm.trans hrefused) nofun
  | notTold hrange => exact absurd (hrange.symm.trans hrefused) nofun
  | done hrange => exact absurd (hrange.symm.trans hrefused) nofun

private theorem of_error {fault : Fault} (h : u.Ends d asked (.error fault) d') :
    d' = d ∧ ((∃ error, u.refusal? d = some error ∧ fault = .setting error) ∨
      ∃ accepted last pid, asked = accepted ++ [last] ∧ (∀ e ∈ accepted, e.accepted?.isSome) ∧
        last.question.parameter = pid.code ∧
        last.Fails pid (if last.question.isSet then 0 else 19) fault) := by
  cases h with
  | refused hrefused => exact ⟨rfl, .inl ⟨_, hrefused, rfl⟩⟩
  | notSet _ _ hfirst _ hfails =>
    refine ⟨rfl, .inr ⟨[], _, _, rfl, nofun, by rw [hfirst]; rfl, ?_⟩⟩
    rw [hfirst]
    exact hfails
  | notTold _ hquestions haccepted _ hfails =>
    have hlast := (questions_split hquestions).2
    refine ⟨rfl, .inr ⟨_, _, .deviceInfo, rfl, haccepted, by rw [hlast]; rfl, ?_⟩⟩
    rw [hlast]
    exact hfails

private theorem of_ok (h : u.Ends d asked (.ok ()) d') :
    ∃ accepted last info, asked = accepted ++ [last] ∧ last.question = d.infoQuestion ∧
      last.read? DeviceInfo.parse = some info ∧ d' = { d with info } := by
  cases h with
  | done _ hquestions _ hread =>
    exact ⟨_, _, _, rfl, (questions_split hquestions).2, hread, rfl⟩

theorem ok_iff (h : u.Ends d asked result d') :
    result = .ok () ↔ u.refusal? d = none ∧ asked.map Exchange.question = u.questions d ∧
      ∀ e ∈ asked, ∃ reply, e.accepted? = some reply ∧
        (e.question = d.infoQuestion → 19 ≤ reply.data.length) := by
  cases h with
  | refused hrefused =>
    refine iff_of_false nofun fun hall => ?_
    exact absurd (hrefused.symm.trans hall.1) nofun
  | @notSet _ _ first _ _ _ _ haccepted =>
    refine iff_of_false nofun fun hall => ?_
    obtain ⟨reply, hreply, -⟩ := hall.2.2 first (List.mem_singleton_self first)
    exact absurd (haccepted.symm.trans hreply) nofun
  | @notTold accepted last _ _ hquestions _ hread =>
    refine iff_of_false nofun fun hall => ?_
    obtain ⟨reply, hreply, hlong⟩ := hall.2.2 last List.mem_concat_self
    have hsome := last.info_isSome_iff.mpr ⟨reply, hreply, hlong (questions_split hquestions).2⟩
    rw [hread] at hsome
    cases hsome
  | @done accepted last info hrange hquestions haccepted hread =>
    refine iff_of_true rfl ⟨hrange, hquestions, fun e he => ?_⟩
    obtain ⟨hother, hlast⟩ := questions_split hquestions
    rcases List.mem_append.mp he with he | he
    · obtain ⟨reply, hreply⟩ := Option.isSome_iff_exists.mp (haccepted e he)
      exact ⟨reply, hreply, fun hinfo => absurd hinfo (hother e he)⟩
    · obtain rfl := List.mem_singleton.mp he
      obtain ⟨reply, hreply, hlong⟩ := e.info_isSome_iff.mp (by rw [hread]; rfl)
      exact ⟨reply, hreply, fun _ => hlong⟩

end Ends

/-- Each request of an update takes one number of the requester. -/
theorem nextTransaction_perform (held : Held (Line σ)) (u : Update) :
    let asked := (u.perform Line.ask.noting ⟨held.device, held.line, []⟩).2.line.2
    (u.perform Line.ask held).2.line.requester.nextTransaction =
      held.line.requester.nextTransaction + UInt8.ofNat asked.length := by
  obtain ⟨asked, result, d, line, -, hnoted⟩ := u.noted_perform Line.ask held
  let number : Line σ → UInt8 := fun line => line.requester.nextTransaction
  have hnumber : ∀ q line, number (Line.ask q line).2 = number line + 1 :=
    fun q line => congrArg Requester.nextTransaction (Asked.requester_lineAfter ⟨line, q⟩)
  rw [hnoted.noting [], List.nil_append, hnoted.plain]
  exact hnoted.count hnumber

end Update

inductive Use where
  | update (u : Update)
  | readLabel
  | label (text : String)
  | identify (on : Bool)
  | readSensor (number : UInt8)

namespace Use

def after (ask : Asker σ) (h : Held σ) : Use → Held σ
  | update u => (u.perform ask h).2
  | readLabel => (Held.deviceLabel ask h).2
  | label text => (Held.setDeviceLabel ask text h).2
  | identify on => (Held.identify ask on h).2
  | readSensor number => (Held.sensorValue ask number h).2

def afterAll (ask : Asker σ) (h : Held σ) (uses : List Use) : Held σ := uses.foldl (after ask) h

private theorem heard_asking (ask : Asker σ) (isSet : Bool) (pid : ParameterId) (data : Bytes)
    (read : Packet → Except Fault α) (h : Held σ)
    (hother : isSet = true ∨ pid.code ≠ ParameterId.deviceInfo.code) :
    ∃ asked h',
      ((do liftM (read (← Held.exchange ask isSet pid data)) : Attempt (Held σ) α) h).2 = h' ∧
      h'.device = h.device.hearAll asked ∧
      ∀ notes, ((do liftM (read (← Held.exchange ask.noting isSet pid data)) :
        Attempt (Held (σ × List Exchange)) α) ⟨h.device, h.line, notes⟩).2 =
          ⟨h'.device, h'.line, notes ++ asked⟩ := by
  obtain ⟨e, line, result, hquestion, hnoted⟩ := Held.Noted.asking ask isSet pid data read h
  refine ⟨[e], ⟨h.device, line⟩, congrArg Prod.snd hnoted.plain, (h.device.hear_other ?_).symm,
    fun notes => congrArg Prod.snd (hnoted.noting notes)⟩
  rw [hquestion]
  exact h.device.question_ne_info data hother

private theorem heard_after (ask : Asker σ) (h : Held σ) (x : Use) :
    ∃ asked h', x.after ask h = h' ∧ h'.device = h.device.hearAll asked ∧
      ∀ notes, x.after ask.noting ⟨h.device, h.line, notes⟩ =
        ⟨h'.device, h'.line, notes ++ asked⟩ := by
  cases x with
  | update u =>
    obtain ⟨asked, result, d, line, hends, hnoted⟩ := u.noted_perform ask h
    exact ⟨asked, ⟨d, line⟩, congrArg Prod.snd hnoted.plain, hends.device_eq,
      fun notes => congrArg Prod.snd (hnoted.noting notes)⟩
  | readLabel =>
    exact heard_asking ask false .deviceLabel [] (fun reply => .ok (labelText reply.data)) h
      (.inr (by decide))
  | label text =>
    exact heard_asking ask true .deviceLabel (labelData text) (fun _ => .ok ()) h (.inl rfl)
  | identify on =>
    exact heard_asking ask true .identifyDevice [if on then 1 else 0] (fun _ => .ok ()) h (.inl rfl)
  | readSensor number =>
    exact heard_asking ask false .sensorValue [number] (parsed SensorValue.parse) h
      (.inr (by decide))

private theorem heard_afterAll (ask : Asker σ) (h : Held σ) (uses : List Use) :
    ∃ asked h', afterAll ask h uses = h' ∧ h'.device = h.device.hearAll asked ∧
      ∀ notes, afterAll ask.noting ⟨h.device, h.line, notes⟩ uses =
        ⟨h'.device, h'.line, notes ++ asked⟩ := by
  induction uses generalizing h with
  | nil => exact ⟨[], h, rfl, rfl, fun notes => by rw [List.append_nil]; rfl⟩
  | cons x uses ih =>
    obtain ⟨asked, h₁, hfirst, hdevice, hnotes⟩ := x.heard_after ask h
    obtain ⟨more, h₂, hrest, hdevice', hnotes'⟩ := ih h₁
    refine ⟨asked ++ more, h₂, ?_, ?_, fun notes => ?_⟩
    · rw [afterAll, List.foldl_cons, hfirst]
      exact hrest
    · rw [hdevice', hdevice, Device.hearAll_append]
    · rw [afterAll, List.foldl_cons, hnotes, ← List.append_assoc]
      exact hnotes' (notes ++ asked)

/-- Whatever is done with a device in hand, and whatever comes of it, what is known of the device is
what was known first, with the last description that it gave in full. -/
theorem device_afterAll (ask : Asker σ) (held : Held σ) (uses : List Use) :
    let run := afterAll ask.noting ⟨held.device, held.line, []⟩ uses
    afterAll ask held uses = ⟨run.device, run.line.1⟩ ∧
      run.device = held.device.hearAll run.line.2 ∧
      ∃ info, run.device = { held.device with info } := by
  intro run
  obtain ⟨asked, h', hplain, hdevice, hnotes⟩ := heard_afterAll ask held uses
  have hrun : run = ⟨h'.device, h'.line, asked⟩ := hnotes []
  rw [hrun, hplain]
  refine ⟨rfl, hdevice, ?_⟩
  rw [hdevice]
  exact held.device.exists_hearAll_eq asked

end Use

/-- Updates are all or nothing, whoever answers and in whatever way. An argument out of its range is
refused: nothing is asked, and the device and its line stay as they are. Otherwise what is set goes
first and then the device is asked what it is, up to the first request that fails. A failed update
leaves everything known as it was; the fault is that of its last request, which was not answered, or
not accepted, or told too little. An update is done exactly when both replies are as they must be,
and then the device has the description in the last one and is the same in all else. Each request
takes one number. Reading or setting the label, identifying and reading a sensor never change what
is known. -/
theorem updates_all_or_nothing (ask : Asker σ) (held : Held σ) :
    (∀ u : Update,
      let run := u.perform ask.noting ⟨held.device, held.line, []⟩
      let asked := run.2.line.2
      u.perform ask held = (run.1, ⟨run.2.device, run.2.line.1⟩) ∧
      asked.map Exchange.question <+: u.questions held.device ∧
      (∀ error, u.refusal? held.device = some error →
        asked = [] ∧ u.perform ask held = (.error (.setting error), held)) ∧
      (∀ fault, run.1 = .error fault → run.2.device = held.device ∧
        ((∃ error, u.refusal? held.device = some error ∧ fault = .setting error) ∨
          ∃ accepted last pid, asked = accepted ++ [last] ∧
            (∀ e ∈ accepted, e.accepted?.isSome) ∧ last.question.parameter = pid.code ∧
            last.Fails pid (if last.question.isSet then 0 else 19) fault)) ∧
      (run.1 = .ok () ↔ u.refusal? held.device = none ∧
        asked.map Exchange.question = u.questions held.device ∧
        ∀ e ∈ asked, ∃ reply, e.accepted? = some reply ∧
          (e.question = held.device.infoQuestion → 19 ≤ reply.data.length)) ∧
      (run.1 = .ok () → ∃ accepted last info, asked = accepted ++ [last] ∧
        last.question = held.device.infoQuestion ∧ last.read? DeviceInfo.parse = some info ∧
        run.2.device = { held.device with info }) ∧
      ∀ number : σ → UInt8, (∀ q line, number (ask q line).2 = number line + 1) →
        number run.2.line.1 = number held.line + UInt8.ofNat asked.length) ∧
    (Held.deviceLabel ask held).2.device = held.device ∧
    (∀ label, (Held.setDeviceLabel ask label held).2.device = held.device) ∧
    (∀ on, (Held.identify ask on held).2.device = held.device) ∧
    ∀ sensor, (Held.sensorValue ask sensor held).2.device = held.device := by
  refine ⟨fun u => ?_, ?_, fun label => ?_, fun on => ?_, fun sensor => ?_⟩
  · intro run asked
    obtain ⟨asked', result, d, line, hends, hnoted⟩ := u.noted_perform ask held
    have hrun : run = (result, ⟨d, line, asked'⟩) := hnoted.noting []
    have hasked : asked = asked' := congrArg (fun run => run.2.line.2) hrun
    rw [hasked, hrun, hnoted.plain]
    refine ⟨rfl, hends.questions_prefix, ?_, ?_, hends.ok_iff, ?_, fun number => hnoted.count⟩
    · intro error hrefused
      obtain ⟨rfl, rfl, rfl⟩ := hends.of_refused hrefused
      exact ⟨rfl, congrArg _ (congrArg _ hnoted.line)⟩
    · rintro fault rfl
      exact hends.of_error
    · rintro rfl
      exact hends.of_ok
  · exact Held.device_asking ask false .deviceLabel []
      (fun reply => .ok (labelText reply.data)) held
  · exact Held.device_asking ask true .deviceLabel (labelData label) (fun _ => .ok ()) held
  · exact Held.device_asking ask true .identifyDevice [if on then 1 else 0] (fun _ => .ok ()) held
  · exact Held.device_asking ask false .sensorValue [sensor] (parsed SensorValue.parse) held

/-- A device of two personalities that is to take the second one, and a third. -/
theorem updates_all_or_nothing_personalities :
    let ask : Asker (UInt8 × List (Option Packet)) := fun _ line =>
      (line.2.head?.join, line.1 + 1, line.2.tail)
    let info : DeviceInfo := ⟨0x0100, 7, 0x0101, 1, 4, 1, 2, 1, 0, 0⟩
    let second : DeviceInfo := { info with currentPersonality := 2, dmxFootprint := 16 }
    let device : Device := ⟨⟨0x4c55, 7⟩, ⟨⟨.loopback, 1, ⟨.loopback, 6454⟩⟩, ⟨0, 0, 1⟩⟩, info, [],
      some "Lamp", none, none, [], []⟩
    let answer (data : Bytes) : Option Packet :=
      some ((Packet.request device.uid ⟨0x7ff0, 1⟩ 0 .set 0 []).reply .ack data)
    let held (replies : List (Option Packet)) : Held (UInt8 × List (Option Packet)) :=
      ⟨device, 5, replies⟩
    let taken := (Update.personality 2).perform ask (held [answer [], answer second.toBytes])
    let short := (Update.personality 2).perform ask (held [answer [], answer [1, 0, 0]])
    let third := (Update.personality 3).perform ask (held [])
    taken.1 = .ok () ∧ taken.2.device = { device with info := second } ∧
      short.1 = .error (.codec (.tooShort 19 3)) ∧ short.2.device = device ∧
      third = (.error (.setting (.personality 3 2)), held []) := by
  intro ask info second device answer held taken short third
  obtain ⟨hshort, -, -, hfailed, -, -, -⟩ :=
    (updates_all_or_nothing ask (held [answer [], answer [1, 0, 0]])).1 (.personality 2)
  obtain ⟨-, -, hrefused, -⟩ := (updates_all_or_nothing ask (held [])).1 (.personality 3)
  have hunchanged : short.2.device = device :=
    (congrArg (fun run => run.2.device) hshort).trans (hfailed _ rfl).1
  exact ⟨rfl, by decide +kernel, rfl, hunchanged, (hrefused _ rfl).2⟩

end LightingNet.Rdm
