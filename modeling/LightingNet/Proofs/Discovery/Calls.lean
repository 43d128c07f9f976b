import LightingNet.Proofs.Discovery.Isolation
/-!
# Calls of refresh

Callers of refresh take turns. A call notes the generation, sends its refresh behind what the queue
still holds, and waits until a cycle more is over or the orchestrator has stopped. So no call sees the
error or the messages of another one, whatever comes in between.
-/
namespace LightingNet

inductive RefreshError where
  /-- The orchestrator had stopped before the call. -/
  | stopped
  /-- It had stopped, and its queue was gone, before the refresh was sent. -/
  | exited
  /-- It stopped before it took the refresh. -/
  | interrupted
  | failed (fault : Fault)
  deriving DecidableEq, Repr

def RefreshError.message : RefreshError → String
  | stopped => Fault.shutDown.message
  | exited => "discovery thread has exited"
  | interrupted => "discovery shut down during refresh"
  | failed fault => fault.message

/-- A call of refresh, told by what the orchestrator takes in its course. -/
structure RefreshCall where
  /-- Whether the caller looks before an orchestrator that stops says so. -/
  early : Bool
  /-- What is taken before the refresh. -/
  queued : List DiscoveryEvent
  /-- Whether the refresh still gets into the queue. It does while the orchestrator runs. -/
  sent : Bool
  fault : Option Fault
  /-- What is taken behind the refresh until the caller looks. -/
  meanwhile : List DiscoveryEvent
  deriving DecidableEq, Repr

def RefreshCall.untaken (c : RefreshCall) : RefreshError :=
  if c.sent then .interrupted else .exited

def RefreshCall.events (c : RefreshCall) : List DiscoveryEvent :=
  c.queued ++ .refresh c.fault :: c.meanwhile

/-- A call during which nobody else sends a refresh. -/
structure RefreshCall.Serial (c : RefreshCall) : Prop where
  queued : ∀ e ∈ c.queued, e.isRefresh = false
  meanwhile : ∀ e ∈ c.meanwhile, e.isRefresh = false

open DiscoveryEvent (arrivals goesOn)

private theorem DiscoveryEvent.goesOn_or_split (events : List DiscoveryEvent) :
    (∀ e ∈ events, e.goesOn = true) ∨
      ∃ during elapsed rest, events = during ++ deadline elapsed :: rest ∧
        ∀ e ∈ during, e.goesOn = true := by
  induction events with
  | nil => exact .inl (List.forall_mem_nil _)
  | cons e events ih =>
    cases he : e.goesOn with
    | false =>
      cases e with
      | deadline elapsed => exact .inr ⟨[], elapsed, events, rfl, List.forall_mem_nil _⟩
      | _ => cases he
    | true =>
      rcases ih with hall | ⟨during, elapsed, rest, rfl, hduring⟩
      · exact .inl (List.forall_mem_cons.mpr ⟨he, hall⟩)
      · exact .inr ⟨e :: during, elapsed, rest, rfl, List.forall_mem_cons.mpr ⟨he, hduring⟩⟩

namespace Orchestrator

def answer (o : Orchestrator) (noted : Nat) :
    Option (Except RefreshError Snapshot × Orchestrator) :=
  if noted < o.generation then
    let (result, last) := o.result
    some (result.mapError .failed, last)
  else if o.running then none
  else some (.error .interrupted, o)

variable (s : DiscoverySettings) (targets : List Socket)

/-- What a call of refresh returns, with the orchestrator that it leaves; nothing while it waits. -/
def refresh (o : Orchestrator) (c : RefreshCall) :
    Option (Except RefreshError Snapshot × Orchestrator) :=
  if o.running || c.early then
    let waiting := (o.run s targets c.queued).1
    if waiting.running || c.sent then
      (waiting.run s targets (.refresh c.fault :: c.meanwhile)).1.answer o.generation
    else some (.error .exited, waiting)
  else some (.error .stopped, o)

/-- How a call ends, by what it meets: an orchestrator that has stopped, a shutdown ahead of its
refresh, a transport that does not open, or a cycle and its deadline. -/
inductive Answered (o : Orchestrator) (c : RefreshCall) :
    Option (Except RefreshError Snapshot × Orchestrator) → Prop
  | stopped (hstopped : o.running = false) :
    Answered o c (some (.error (if c.early then c.untaken else .stopped), o))
  | overtaken (hrunning : o.running = true) (hshutdown : .shutdown ∈ c.queued) :
    Answered o c (some (.error c.untaken, { o with running := false }))
  | failed (hrunning : o.running = true) (hshutdown : .shutdown ∉ c.queued) (fault : Fault)
    (hfault : c.fault = some fault) :
    Answered o c (some (.error (.failed fault),
      { o with
        phase := .done
        generation := o.generation + 1
        running := !c.meanwhile.contains .shutdown }))
  | waiting (hrunning : o.running = true) (hshutdown : .shutdown ∉ c.queued) (hfault : c.fault = none)
    (hdeadline : ∀ e ∈ c.meanwhile, e.goesOn = true) : Answered o c none
  | found (hrunning : o.running = true) (hshutdown : .shutdown ∉ c.queued) (hfault : c.fault = none)
    (during : List DiscoveryEvent) (elapsed : Nat) (rest : List DiscoveryEvent)
    (hsplit : c.meanwhile = during ++ .deadline elapsed :: rest)
    (hduring : ∀ e ∈ during, e.goesOn = true) (snapshot : Snapshot)
    (hsnapshot : snapshot = (Cycle.empty.takeAll s (arrivals during)).1.snapshot elapsed) :
    Answered o c (some (.ok snapshot,
      { o with
        phase := .done
        generation := o.generation + 1
        snapshot
        running := !c.meanwhile.contains .shutdown
        stopping := during.contains .shutdown }))

/-- An orchestrator between two calls: no cycle runs, and no error is left to tell. -/
structure Resting (o : Orchestrator) : Prop where
  cycle : o.cycle = none
  fault : o.fault = none
  stopping : o.running = true → o.stopping = false

variable {o : Orchestrator} {c : RefreshCall}

private theorem refresh_untaken (hlooks : (o.running || c.early) = true)
    (hstopped : (o.run s targets c.queued).1.running = false)
    (hgeneration : (o.run s targets c.queued).1.generation = o.generation) :
    o.refresh s targets c = some (.error c.untaken, (o.run s targets c.queued).1) := by
  rw [refresh, if_pos hlooks, RefreshCall.untaken]
  cases hsent : c.sent with
  | false => simp [hstopped]
  | true => simp [run_stopped s targets hstopped, answer, hstopped, hgeneration]

private theorem refresh_stopped (hstopped : o.running = false) (c : RefreshCall) :
    o.refresh s targets c = some (.error (if c.early then c.untaken else .stopped), o) := by
  have hqueued : (o.run s targets c.queued).1 = o := by rw [run_stopped s targets hstopped]
  cases hearly : c.early with
  | false => simp [refresh, hstopped, hearly]
  | true =>
    rw [refresh_untaken s targets (by simp [hearly]) (by rw [hqueued, hstopped]) (by rw [hqueued]),
      hqueued]
    rfl

private theorem Resting.refresh_overtaken (h : o.Resting) (hc : c.Serial)
    (hrunning : o.running = true) (hshutdown : .shutdown ∈ c.queued) :
    o.refresh s targets c = some (.error c.untaken, { o with running := false }) := by
  have hqueued : (o.run s targets c.queued).1 = { o with running := false } := by
    rw [run_quiet s targets h.cycle hc.queued]
    simp [hshutdown]
  rw [refresh_untaken s targets (by simp [hrunning]) (by rw [hqueued]) (by rw [hqueued]), hqueued]

private theorem Resting.refresh_taken (h : o.Resting) (hc : c.Serial) (hrunning : o.running = true)
    (hshutdown : .shutdown ∉ c.queued) :
    o.refresh s targets c =
      (o.run s targets (.refresh c.fault :: c.meanwhile)).1.answer o.generation := by
  have hqueued : (o.run s targets c.queued).1 = o := by
    rw [run_quiet s targets h.cycle hc.queued]
    simp [hshutdown]
  rw [refresh, if_pos (by simp [hrunning]), hqueued]
  simp [hrunning]

private theorem Resting.run_failed (h : o.Resting) (hrunning : o.running = true) (fault : Fault)
    {meanwhile : List DiscoveryEvent} (hmeanwhile : ∀ e ∈ meanwhile, e.isRefresh = false) :
    (o.run s targets (.refresh (some fault) :: meanwhile)).1 =
      { o.publish (.error fault) with running := !meanwhile.contains .shutdown } := by
  rw [run_cons, step_idle s targets ⟨hrunning, h.cycle⟩, stepIdle,
    run_quiet s targets rfl hmeanwhile]
  simp [publish, hrunning]

private theorem Resting.run_found (h : o.Resting) (hrunning : o.running = true)
    {during : List DiscoveryEvent} (hduring : ∀ e ∈ during, e.goesOn = true) (elapsed : Nat)
    {rest : List DiscoveryEvent} (hrest : ∀ e ∈ rest, e.isRefresh = false) :
    (o.run s targets (.refresh none :: (during ++ .deadline elapsed :: rest))).1 =
      { o.publish (.ok ((Cycle.empty.takeAll s (arrivals during)).1.snapshot elapsed)) with
        running := !(during ++ .deadline elapsed :: rest).contains .shutdown
        stopping := during.contains .shutdown } := by
  have hevents : .refresh none :: (during ++ .deadline elapsed :: rest) =
      DiscoveryEvent.cycle during elapsed ++ rest := by simp [DiscoveryEvent.cycle]
  rw [hevents, run_append, run_cycle s targets ⟨hrunning, h.cycle⟩ hduring,
    run_quiet s targets rfl hrest]
  simp [publish, h.stopping hrunning]

private theorem Resting.answered (h : o.Resting) (hc : c.Serial) :
    Answered s o c (o.refresh s targets c) := by
  cases hrunning : o.running with
  | false =>
    rw [refresh_stopped s targets hrunning]
    exact .stopped hrunning
  | true =>
    by_cases hshutdown : .shutdown ∈ c.queued
    · rw [h.refresh_overtaken s targets hc hrunning hshutdown]
      exact .overtaken hrunning hshutdown
    rw [h.refresh_taken s targets hc hrunning hshutdown]
    cases hfault : c.fault with
    | some fault =>
      have hanswered := Answered.failed (s := s) hrunning hshutdown fault hfault
      rw [h.run_failed s targets hrunning fault hc.meanwhile]
      simpa [answer, result, publish, Except.mapError, h.cycle, h.fault] using hanswered
    | none =>
      -- The first deadline ends the cycle of the call; what is behind it comes too late to matter.
      rcases DiscoveryEvent.goesOn_or_split c.meanwhile with
        hgoes | ⟨during, elapsed, rest, hsplit, hduring⟩
      · rw [run_refresh s targets ⟨hrunning, h.cycle⟩ hgoes]
        have hwaiting := Answered.waiting (s := s) hrunning hshutdown hfault hgoes
        simpa [answer, Orchestrator.during, opened, hrunning] using hwaiting
      · have hrest : ∀ e ∈ rest, e.isRefresh = false := by
          intro e he
          apply hc.meanwhile
          rw [hsplit]
          simp [he]
        have hanswered := Answered.found (s := s) hrunning hshutdown hfault during elapsed rest hsplit
          hduring _ rfl
        rw [hsplit, h.run_found s targets hrunning hduring elapsed hrest]
        rw [hsplit] at hanswered
        simpa [answer, result, publish, Except.mapError, h.cycle, h.fault] using hanswered

/-- What some events leave of an orchestrator whose callers take turns, when none is waiting. -/
inductive BetweenCalls : List DiscoveryEvent → Orchestrator → Prop
  | fresh : BetweenCalls [] fresh
  | event {events : List DiscoveryEvent} {o : Orchestrator} {e : DiscoveryEvent}
    (h : BetweenCalls events o) (he : e.isRefresh = false) :
    BetweenCalls (events ++ [e]) (o.step s targets e).1
  | call {events : List DiscoveryEvent} {o last : Orchestrator} {c : RefreshCall}
    {result : Except RefreshError Snapshot} (h : BetweenCalls events o) (hc : c.Serial)
    (hreturned : o.refresh s targets c = some (result, last)) :
    BetweenCalls (events ++ c.events) last

private theorem Resting.step (h : o.Resting) {e : DiscoveryEvent} (he : e.isRefresh = false) :
    (o.step s targets e).1.Resting := by
  obtain ⟨o', hstep, htakes⟩ := exists_takes s targets o e
  rw [hstep]
  cases htakes with
  | lost => exact h
  | begins => cases he
  | fails => cases he
  | stops => exact ⟨h.cycle, h.fault, nofun⟩
  | stray => exact h
  | within c _ hcycle => simp [h.cycle] at hcycle
  | ends c _ hcycle => simp [h.cycle] at hcycle

private theorem Resting.call (h : o.Resting) (hc : c.Serial) {result : Except RefreshError Snapshot}
    {last : Orchestrator} (hreturned : o.refresh s targets c = some (result, last)) :
    last.Resting := by
  have hanswered := h.answered s targets hc
  rw [hreturned] at hanswered
  cases hanswered with
  | stopped => exact h
  | overtaken => exact ⟨h.cycle, h.fault, nofun⟩
  | failed hrunning => exact ⟨h.cycle, h.fault, fun _ => h.stopping hrunning⟩
  | found _ _ _ during elapsed rest hsplit =>
    refine ⟨h.cycle, h.fault, ?_⟩
    intro hrunning
    simp only [hsplit, List.contains_append, Bool.not_or, Bool.and_eq_true] at hrunning
    exact (Bool.not_eq_true' _).mp hrunning.1

private theorem BetweenCalls.resting {events : List DiscoveryEvent}
    (h : BetweenCalls s targets events o) : o.Resting := by
  induction h with
  | fresh => exact ⟨rfl, rfl, fun _ => rfl⟩
  | event _ he ih => exact ih.step s targets he
  | call _ hc hreturned ih => exact ih.call s targets hc hreturned

def told (o : Orchestrator) : Orchestrator := { o with fault := none }

private theorem told_step (o : Orchestrator) (e : DiscoveryEvent) :
    (o.told.step s targets e).1.told = (o.step s targets e).1.told := by
  obtain ⟨phase, generation, snapshot, fault, running, stopping, cycle⟩ := o
  cases running with
  | false => rfl
  | true => cases cycle <;> rcases e with ⟨_ | _⟩ | _ | _ | _ <;> rfl

private theorem told_run (o : Orchestrator) (events : List DiscoveryEvent) :
    (o.told.run s targets events).1.told = (o.run s targets events).1.told := by
  induction events generalizing o with
  | nil => rfl
  | cons e events ih =>
    rw [run_cons, run_cons, ← ih, told_step, ih]

private theorem Resting.told (h : o.Resting) : o.told = o := by
  rw [Orchestrator.told, ← h.fault]

private theorem told_result (o : Orchestrator) : o.result.2.told = o.told := by
  rw [result]
  split <;> rfl

private theorem told_answer {noted : Nat} {result : Except RefreshError Snapshot}
    {last : Orchestrator} (h : o.answer noted = some (result, last)) : last.told = o.told := by
  rw [answer] at h
  split at h
  · cases h
    exact told_result o
  · split at h
    · cases h
    · cases h
      rfl

private theorem told_refresh {result : Except RefreshError Snapshot} {last : Orchestrator}
    (h : o.refresh s targets c = some (result, last)) :
    last.told = (o.run s targets c.events).1.told := by
  rw [RefreshCall.events, run_append]
  rw [refresh] at h
  split at h
  · simp only at h
    split at h
    · exact told_answer h
    · rename_i hexited
      simp only [Bool.or_eq_true, not_or, Bool.not_eq_true] at hexited
      rw [run_stopped s targets hexited.1]
      cases h
      rfl
  · rename_i hstopped
    simp only [Bool.or_eq_true, not_or, Bool.not_eq_true] at hstopped
    rw [run_stopped s targets hstopped.1, run_stopped s targets hstopped.1]
    cases h
    rfl

private theorem BetweenCalls.told_after {events : List DiscoveryEvent}
    (h : BetweenCalls s targets events o) : (after s targets events).told = o := by
  induction h with
  | fresh => rfl
  | @event events o e h he ih =>
    have hnext := (h.event he).resting s targets
    rw [after_snoc, ← told_step, ih, hnext.told]
  | @call events o last c result h hc hreturned ih =>
    have hnext := (h.call hc hreturned).resting s targets
    rw [after_append, ← told_run, ih, ← told_refresh s targets hreturned, hnext.told]

/-- What holds between two calls, when some events have been taken. -/
structure Serves (events : List DiscoveryEvent) (o : Orchestrator) : Prop where
  /-- It is what the events leave, calls or not, but that no error is left to tell. -/
  state : o = { after s targets events with fault := none }
  cycle : o.cycle = none
  generation : o.generation = fresh.taken s targets events
  answered : ∀ c : RefreshCall, c.Serial → Answered s o c (o.refresh s targets c)
  stopped : .shutdown ∈ events → ∀ c : RefreshCall,
    o.refresh s targets c = some (.error (if c.early then c.untaken else .stopped), o)

/-- Cycles are isolated and publication is atomic, in every history of commands and transports; and
whatever calls of refresh came before, one more is answered by its own cycle, with its own error or
the snapshot of its own messages. -/
theorem cycles_isolated :
    Isolated s targets ∧ ∀ events o, BetweenCalls s targets events o → Serves s targets events o := by
  refine ⟨isolated s targets, ?_⟩
  intro events o h
  have hresting := h.resting s targets
  have hstate := h.told_after s targets
  have hcycle : (after s targets events).cycle = none := by
    have hcycle := hresting.cycle
    rwa [← hstate] at hcycle
  refine ⟨hstate.symm, hresting.cycle, ?_, fun c hc => hresting.answered s targets hc, ?_⟩
  · rw [← hstate]
    exact (isolated s targets).counted events hcycle
  · intro hshutdown c
    have hstopped : o.running = false := by
      rw [← hstate]
      exact (isolated s targets).stopped events hshutdown hcycle
    exact refresh_stopped s targets hstopped c

/-- A call fails for want of sockets. The next one is shut down within its cycle and still returns what
the cycle found, though a reply was in the queue before; then calls fail. -/
theorem cycles_isolated_shutdown :
    let gateway (last : UInt8) : Ipv4Socket := ⟨.ofNumbers 10 0 0 last, 6454⟩
    let reply (last : UInt8) (heard : Nat) : DiscoveryEvent :=
      .inbound (.pollReply { PollReply.blank with ip := (gateway last).ip }) (.v4 (gateway last)) heard
    let failing : RefreshCall := ⟨false, [], true, some .noSockets, [reply 7 1]⟩
    let working : RefreshCall :=
      ⟨false, [reply 8 2], true, none, [reply 5 4, .shutdown, reply 6 9, .deadline 20, reply 9 21]⟩
    ∃ first second : Orchestrator,
      fresh.refresh .usual [] failing = some (.error (.failed .noSockets), first) ∧
        first.refresh .usual [] working = some (.ok second.snapshot, second) ∧
        second.snapshot.nodes.map (fun n => n.address.socket) = [gateway 5, gateway 6] ∧
        second.generation = fresh.taken .usual [] (failing.events ++ working.events) ∧
        second.refresh .usual [] failing = some (.error .stopped, second) := by
  intro gateway reply failing working
  let found := (Cycle.empty.takeAll .usual (arrivals [reply 5 4, reply 6 9])).1.snapshot 20
  let first : Orchestrator := { fresh with phase := .done, generation := 1 }
  let second : Orchestrator :=
    { first with generation := 2, snapshot := found, running := false, stopping := true }
  have hfirst : fresh.refresh .usual [] failing = some (.error (.failed .noSockets), first) := by
    decide +kernel
  have hsecond : first.refresh .usual [] working = some (.ok second.snapshot, second) := by
    decide +kernel
  have hbetween : BetweenCalls .usual [] (failing.events ++ working.events) second :=
    .call (.call .fresh ⟨by decide, by decide⟩ hfirst) ⟨by decide, by decide⟩ hsecond
  have hserves := (cycles_isolated .usual []).2 _ _ hbetween
  exact ⟨first, second, hfirst, hsecond, by decide +kernel, hserves.generation,
    hserves.stopped (by decide) failing⟩

end Orchestrator

namespace Session

variable {σ : Type}

private theorem refresh_run (d : Session σ) (hidle : d.orchestrator.Idle) (fault : Option Fault)
    (budget : Nat) :
    ∃ meanwhile, (∀ e ∈ meanwhile, e.isRefresh = false) ∧
      let last := (d.orchestrator.run d.settings d.targets (.refresh fault :: meanwhile)).1
      d.orchestrator.generation < last.generation ∧ (d.refresh fault budget).1 = last.result.1 ∧
        (d.refresh fault budget).2.orchestrator = last.result.2 := by
  have hrefresh : d.refresh fault budget = _ := if_pos hidle.running
  rw [hrefresh]
  cases fault with
  | some e =>
    have hlast : (d.advance (.refresh (some e))).orchestrator =
        (d.orchestrator.run d.settings d.targets [.refresh (some e)]).1 := rfl
    refine ⟨[], List.forall_mem_nil _, ?_, ?_, ?_⟩
    · rw [Orchestrator.run_cons, Orchestrator.step_idle _ _ hidle]
      exact Nat.lt_succ_self _
    · exact congrArg (fun o => o.result.1) hlast
    · exact congrArg (fun o => o.result.2) hlast
  | none =>
    obtain ⟨events, hevents, hcycle⟩ := d.runCycle_run budget
    have hgoes : ∀ e ∈ events, e.goesOn = true := by
      intro e he
      obtain ⟨m, source, rfl⟩ := hevents e he
      rfl
    refine ⟨events ++ [.deadline 0], ?_, ?_, ?_, ?_⟩
    · intro e he
      rcases List.mem_append.mp he with he | he
      · obtain ⟨m, source, rfl⟩ := hevents e he
        rfl
      · rw [List.mem_singleton.mp he]
        rfl
    · have hrun := congrArg Prod.fst (Orchestrator.run_cycle d.settings d.targets hidle hgoes 0)
      rw [DiscoveryEvent.cycle] at hrun
      rw [hrun]
      exact Nat.lt_succ_self _
    · exact congrArg (fun o => o.result.1) hcycle
    · exact congrArg (fun o => o.result.2) hcycle

/-- A session calls refresh with an empty queue: it returns what such a call returns, and says so in
the same words. -/
theorem refresh_call (d : Session σ) (h : d.orchestrator.Resting) (fault : Option Fault)
    (budget : Nat) :
    ∃ (c : RefreshCall) (result : Except RefreshError Snapshot),
      c.Serial ∧ c.queued = [] ∧ c.fault = fault ∧
        d.orchestrator.refresh d.settings d.targets c =
          some (result, (d.refresh fault budget).2.orchestrator) ∧
        result.mapError RefreshError.message = (d.refresh fault budget).1.mapError Fault.message := by
  have hserial {meanwhile : List DiscoveryEvent} (h : ∀ e ∈ meanwhile, e.isRefresh = false) :
      RefreshCall.Serial ⟨false, [], true, fault, meanwhile⟩ := ⟨List.forall_mem_nil _, h⟩
  cases hrunning : d.orchestrator.running with
  | false =>
    refine ⟨⟨false, [], true, fault, []⟩, .error .stopped, hserial (List.forall_mem_nil _), rfl,
      rfl, ?_, ?_⟩
    · simp [Orchestrator.refresh, Session.refresh, hrunning]
    · simp [Session.refresh, hrunning, Except.mapError, RefreshError.message]
  | true =>
    obtain ⟨meanwhile, hmeanwhile, hover, hresult, hlast⟩ :=
      d.refresh_run ⟨hrunning, h.cycle⟩ fault budget
    have hturn := hserial hmeanwhile
    refine ⟨⟨false, [], true, fault, meanwhile⟩, (d.refresh fault budget).1.mapError .failed,
      hturn, rfl, rfl, ?_, ?_⟩
    · rw [h.refresh_taken _ _ hturn hrunning List.not_mem_nil, Orchestrator.answer, if_pos hover,
        hlast, hresult]
    · cases (d.refresh fault budget).1 <;> rfl

end Session

end LightingNet
