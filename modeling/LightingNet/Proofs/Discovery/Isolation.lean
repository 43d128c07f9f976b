import LightingNet.Proofs.Discovery.Requests
/-!
# Cycles are isolated

A history of an orchestrator is told by its cycles. Each begins with a refresh that is taken while no
cycle runs and keeps to the messages that come before its deadline; the deadline publishes all of what
it found at once. Whatever else comes, the snapshot stays as it is.
-/
namespace LightingNet

def Phase.order : Phase → Nat
  | idle => 0
  | polling => 1
  | collectingTod => 2
  | done => 3

def Message.asksTable : Message → Bool
  | .todRequest _ | .todControl _ => true
  | _ => false

def DiscoveryEvent.isRefresh : DiscoveryEvent → Bool
  | refresh _ => true
  | _ => false

@[simp] theorem DiscoveryEvent.isRefresh_refresh (fault : Option Fault) :
    (refresh fault).isRefresh = true :=
  rfl

namespace Cycle

private theorem asksTable_of_mem_tableRequests {mode : TodMode} {outputs : List PortAddress}
    {m : Message} (hm : m ∈ tableRequests mode outputs) : m.asksTable = true := by
  cases mode with
  | flush =>
    obtain ⟨p, -, rfl⟩ := List.mem_map.mp hm
    rfl
  | request =>
    obtain ⟨net, -, rfl⟩ := List.mem_map.mp hm
    rfl

private theorem asksTable_of_mem_takeAll (s : DiscoverySettings) {as : List Arrival}
    {out : Outgoing} (hout : out ∈ (takeAll s empty as).2) : out.message.asksTable = true := by
  rw [sends_takeAll] at hout
  split at hout
  · obtain ⟨n, -, hn⟩ := List.mem_flatMap.mp hout
    obtain ⟨m, hm, rfl⟩ := List.mem_map.mp hn
    exact asksTable_of_mem_tableRequests hm
  · cases hout

end Cycle

open DiscoveryEvent (arrivals goesOn)

namespace Orchestrator

section Steps

variable (s : DiscoverySettings) (targets : List Socket) {o : Orchestrator}

private theorem step_stopped (hstopped : o.running = false) (e : DiscoveryEvent) :
    o.step s targets e = (o, []) := by
  rw [step, if_neg (by simp [hstopped])]

theorem run_stopped (hstopped : o.running = false) (events : List DiscoveryEvent) :
    o.run s targets events = (o, []) := by
  induction events with
  | nil => rfl
  | cons e events ih => rw [run_cons, step_stopped s targets hstopped, ih]; rfl

theorem step_idle (hidle : o.Idle) (e : DiscoveryEvent) :
    o.step s targets e = o.stepIdle s targets e := by
  rw [step, if_pos hidle.running, hidle.cycle]

private theorem step_deadline {c : Cycle} (hrunning : o.running = true) (hcycle : o.cycle = some c)
    (elapsed : Nat) :
    o.step s targets (.deadline elapsed) =
      ({ o.publish (.ok (c.snapshot elapsed)) with running := !o.stopping }, []) := by
  rw [step, if_pos hrunning, hcycle]
  rfl

theorem run_quiet (hcycle : o.cycle = none) {events : List DiscoveryEvent}
    (hevents : ∀ e ∈ events, e.isRefresh = false) :
    o.run s targets events = ({ o with running := o.running && !events.contains .shutdown }, []) := by
  induction events generalizing o with
  | nil => simp [run]
  | cons e events ih =>
    have hrest := fun e he => hevents e (List.mem_cons_of_mem _ he)
    cases hrunning : o.running with
    | false =>
      rw [run_stopped s targets hrunning, Bool.false_and, ← hrunning]
    | true =>
      rw [run_cons, step_idle s targets ⟨hrunning, hcycle⟩]
      cases e with
      | refresh fault => exact absurd (hevents _ List.mem_cons_self) (by simp)
      | shutdown =>
        rw [stepIdle, run_stopped s targets rfl]
        simp
      | inbound m source heard =>
        rw [stepIdle, ih hcycle hrest]
        simp [hrunning]
      | deadline elapsed =>
        rw [stepIdle, ih hcycle hrest]
        simp [hrunning]

/-- What an event does to an orchestrator. -/
inductive Takes (s : DiscoverySettings) (o : Orchestrator) : DiscoveryEvent → Orchestrator → Prop
  | lost (e : DiscoveryEvent) (hstopped : o.running = false) : Takes s o e o
  | begins (hidle : o.Idle) : Takes s o (.refresh none) o.opened
  | fails (hidle : o.Idle) (fault : Fault) :
    Takes s o (.refresh (some fault)) (o.publish (.error fault))
  | stops (hidle : o.Idle) : Takes s o .shutdown { o with running := false }
  | stray (hidle : o.Idle) (e : DiscoveryEvent) (hrefresh : e.isRefresh = false)
    (hshutdown : e ≠ .shutdown) : Takes s o e o
  | within (c : Cycle) (hrunning : o.running = true) (hcycle : o.cycle = some c)
    (e : DiscoveryEvent) (he : e.goesOn = true) : Takes s o e (o.during s c [e])
  | ends (c : Cycle) (hrunning : o.running = true) (hcycle : o.cycle = some c) (elapsed : Nat) :
    Takes s o (.deadline elapsed)
      { o.publish (.ok (c.snapshot elapsed)) with running := !o.stopping }

private theorem takes_step (o : Orchestrator) (e : DiscoveryEvent) :
    Takes s o e (o.step s targets e).1 := by
  cases hrunning : o.running with
  | false =>
    rw [step_stopped s targets hrunning]
    exact .lost e hrunning
  | true =>
    cases hcycle : o.cycle with
    | none =>
      have hidle : o.Idle := ⟨hrunning, hcycle⟩
      rw [step_idle s targets hidle]
      cases e with
      | refresh fault =>
        cases fault with
        | none => exact .begins hidle
        | some fault => exact .fails hidle fault
      | shutdown => exact .stops hidle
      | inbound m source heard => exact .stray hidle _ rfl nofun
      | deadline elapsed => exact .stray hidle _ rfl nofun
    | some c =>
      cases he : e.goesOn with
      | true =>
        rw [step_during s targets hrunning hcycle he]
        exact .within c hrunning hcycle e he
      | false =>
        cases e with
        | deadline elapsed =>
          rw [step_deadline s targets hrunning hcycle]
          exact .ends c hrunning hcycle elapsed
        | _ => cases he

theorem exists_takes (o : Orchestrator) (e : DiscoveryEvent) :
    ∃ o', (o.step s targets e).1 = o' ∧ Takes s o e o' :=
  ⟨_, rfl, takes_step s targets o e⟩

def refreshes (o : Orchestrator) (e : DiscoveryEvent) : Bool :=
  o.running && o.cycle.isNone && e.isRefresh

/-- The number of refreshes among some events that are taken outside a cycle. -/
def taken (o : Orchestrator) : List DiscoveryEvent → Nat
  | [] => 0
  | e :: events => (o.refreshes e).toNat + taken (o.step s targets e).1 events

def begun (o : Orchestrator) : Nat := o.generation + o.cycle.isSome.toNat

private theorem Takes.begun {o o' : Orchestrator} {e : DiscoveryEvent} (h : Takes s o e o') :
    o'.begun = o.begun + (o.refreshes e).toNat := by
  cases h with
  | lost _ hstopped => simp [refreshes, hstopped]
  | begins hidle => simp [Orchestrator.begun, refreshes, opened, hidle.running, hidle.cycle]
  | fails hidle fault => simp [Orchestrator.begun, refreshes, publish, hidle.running, hidle.cycle]
  | stops hidle => simp [Orchestrator.begun, refreshes, DiscoveryEvent.isRefresh]
  | stray _ _ hrefresh => simp [refreshes, hrefresh]
  | within c _ hcycle => simp [Orchestrator.begun, refreshes, during, hcycle]
  | ends c _ hcycle => simp [Orchestrator.begun, refreshes, publish, hcycle]

private theorem begun_run (o : Orchestrator) (events : List DiscoveryEvent) :
    (o.run s targets events).1.begun = o.begun + o.taken s targets events := by
  induction events generalizing o with
  | nil => rfl
  | cons e events ih =>
    rw [run_cons, ih, (takes_step s targets o e).begun, taken, Nat.add_assoc]

/-- An orchestrator runs while its cycle does, and one that waits for a refresh is not to stop. -/
structure Sound (o : Orchestrator) : Prop where
  running : o.cycle.isSome = true → o.running = true
  stopping : o.Idle → o.stopping = false

private theorem Takes.sound {o o' : Orchestrator} {e : DiscoveryEvent} (h : Takes s o e o')
    (ho : o.Sound) : o'.Sound := by
  cases h with
  | lost => exact ho
  | begins hidle => exact ⟨fun _ => hidle.running, nofun⟩
  | fails hidle => exact ⟨nofun, fun _ => ho.stopping hidle⟩
  | stops hidle =>
    refine ⟨?_, nofun⟩
    intro hcycle
    simp [hidle.cycle] at hcycle
  | stray => exact ho
  | within c hrunning => exact ⟨fun _ => hrunning, nofun⟩
  | ends c hrunning hcycle =>
    refine ⟨nofun, ?_⟩
    intro hidle
    have hgoes : (!o.stopping) = true := hidle.running
    exact (Bool.not_eq_true' _).mp hgoes

private theorem sound_run {o : Orchestrator} (ho : o.Sound) (events : List DiscoveryEvent) :
    (o.run s targets events).1.Sound := by
  induction events generalizing o with
  | nil => exact ho
  | cons e events ih => exact ih ((takes_step s targets o e).sound s ho)

end Steps

section Ending

variable (s : DiscoverySettings) (targets : List Socket) {o o' : Orchestrator}

/-- An orchestrator that begins no cycle any more: it has stopped, or is to stop. -/
def Ending (o : Orchestrator) : Prop := o.running = true → o.stopping = true

private theorem ending_shutdown (o : Orchestrator) : (o.step s targets .shutdown).1.Ending := by
  obtain ⟨o', hstep, htakes⟩ := exists_takes s targets o .shutdown
  rw [hstep]
  cases htakes with
  | lost _ hstopped => exact fun hrunning => absurd (hstopped.symm.trans hrunning) nofun
  | stops => exact nofun
  | stray _ _ _ hshutdown => exact absurd rfl hshutdown
  | within => exact fun _ => by simp [during]

private theorem Takes.ending {e : DiscoveryEvent} (h : Takes s o e o') (ho : o.Ending) :
    o'.Ending := by
  cases h with
  | lost => exact ho
  | begins hidle => exact fun _ => ho hidle.running
  | fails hidle => exact fun _ => ho hidle.running
  | stops => exact nofun
  | stray => exact ho
  | within c hrunning => exact fun _ => by simp [during, ho hrunning]
  | ends c hrunning => exact fun _ => ho hrunning

private theorem ending_run (ho : o.Ending) (events : List DiscoveryEvent) :
    (o.run s targets events).1.Ending := by
  induction events generalizing o with
  | nil => exact ho
  | cons e events ih => exact ih ((takes_step s targets o e).ending s ho)

private theorem Sound.not_idle (h : o.Sound) (hending : o.Ending) : ¬o.Idle := by
  intro hidle
  have hstopping : o.stopping = true := hending hidle.running
  rw [h.stopping hidle] at hstopping
  cases hstopping

private theorem taken_ending (ho : o.Sound) (hending : o.Ending) (events : List DiscoveryEvent) :
    o.taken s targets events = 0 := by
  induction events generalizing o with
  | nil => rfl
  | cons e events ih =>
    have htakes := takes_step s targets o e
    have hnot : o.refreshes e = false := by
      by_contra hrefreshes
      simp only [refreshes, Bool.not_eq_false, Bool.and_eq_true, Option.isNone_iff_eq_none]
        at hrefreshes
      exact ho.not_idle hending ⟨hrefreshes.1.1, hrefreshes.1.2⟩
    rw [taken, hnot, ih (htakes.sound s ho) (htakes.ending s hending)]
    rfl

end Ending

section Histories

variable (s : DiscoverySettings) (targets : List Socket)

def after (events : List DiscoveryEvent) : Orchestrator := (fresh.run s targets events).1

theorem after_append (events more : List DiscoveryEvent) :
    after s targets (events ++ more) = ((after s targets events).run s targets more).1 := by
  rw [after, run_append]
  rfl

theorem after_snoc (events : List DiscoveryEvent) (e : DiscoveryEvent) :
    after s targets (events ++ [e]) = ((after s targets events).step s targets e).1 :=
  after_append s targets events [e]

private theorem sound_after (events : List DiscoveryEvent) : (after s targets events).Sound :=
  sound_run s targets ⟨fun _ => rfl, fun _ => rfl⟩ events

private theorem ending_after {events : List DiscoveryEvent} (hshutdown : .shutdown ∈ events) :
    (after s targets events).Ending := by
  obtain ⟨before, rest, rfl⟩ := List.append_of_mem hshutdown
  rw [after_append, run_cons]
  exact ending_run s targets (ending_shutdown s targets _) rest

structure Within (events before during : List DiscoveryEvent) : Prop where
  split : events = before ++ .refresh none :: during
  idle : (after s targets before).Idle
  during : ∀ e ∈ during, goesOn e = true

private theorem Within.state_eq {events before during : List DiscoveryEvent}
    (h : Within s targets events before during) :
    after s targets events = (after s targets before).opened.during s .empty during := by
  rw [h.split, after_append, run_refresh s targets h.idle h.during]

private theorem exists_within (events : List DiscoveryEvent)
    (hcycle : (after s targets events).cycle.isSome = true) :
    ∃ before during, Within s targets events before during := by
  -- The last event opened the cycle, or it was taken within the cycle that ran before it.
  induction events using List.reverseRecOn with
  | nil => cases hcycle
  | append_singleton events e ih =>
    obtain ⟨o', hstep, htakes⟩ := exists_takes s targets (after s targets events) e
    rw [after_snoc, hstep] at hcycle
    cases htakes with
    | lost e hstopped =>
      rw [(sound_after s targets events).running hcycle] at hstopped
      cases hstopped
    | begins hidle => exact ⟨events, [], rfl, hidle, List.forall_mem_nil _⟩
    | fails => cases hcycle
    | stops hidle => simp [hidle.cycle] at hcycle
    | stray hidle => simp [hidle.cycle] at hcycle
    | within c hrunning hcycle' e he =>
      obtain ⟨before, during, hwithin⟩ := ih (by simp [hcycle'])
      refine ⟨before, during ++ [e], ?_, hwithin.idle, ?_⟩
      · rw [hwithin.split, List.append_assoc, List.cons_append]
      · intro e' he'
        rcases List.mem_append.mp he' with he' | he'
        · exact hwithin.during e' he'
        · rw [List.mem_singleton.mp he']
          exact he
    | ends => cases hcycle

private theorem Within.phase_eq {events before during : List DiscoveryEvent}
    (h : Within s targets events before during) :
    (after s targets events).phase =
      let sent := ((after s targets before).run s targets (.refresh none :: during)).2
      if sent.any fun out => out.message.asksTable then .collectingTod else .polling := by
  have hpolls : (polls s targets).any (fun out => out.message.asksTable) = false := by
    rw [polls, List.any_map, List.any_eq_false]
    intro target _
    simp [Message.asksTable]
  have hsent (sent : List Outgoing) (hall : ∀ out ∈ sent, out.message.asksTable = true) :
      (if sent.isEmpty then Phase.polling else .collectingTod) =
        if sent.any (fun out => out.message.asksTable) then .collectingTod else .polling := by
    cases sent with
    | nil => rfl
    | cons out sent => simp [hall out List.mem_cons_self]
  rw [h.state_eq, run_refresh s targets h.idle h.during]
  simp only [List.any_append, hpolls, Bool.false_or]
  exact hsent _ fun out hout => Cycle.asksTable_of_mem_takeAll s hout

private theorem phase_forward (events : List DiscoveryEvent) (e : DiscoveryEvent)
    (hcycle : (after s targets events).cycle.isSome = true) :
    (after s targets events).phase.order ≤ (after s targets (events ++ [e])).phase.order := by
  have hphase : (after s targets events).phase.order ≤ Phase.collectingTod.order := by
    obtain ⟨before, during, hwithin⟩ := exists_within s targets events hcycle
    rw [hwithin.phase_eq]
    simp only
    split <;> decide
  obtain ⟨o', hstep, htakes⟩ := exists_takes s targets (after s targets events) e
  rw [after_snoc, hstep]
  cases htakes with
  | lost => exact Nat.le_refl _
  | begins hidle => simp [hidle.cycle] at hcycle
  | fails hidle => simp [hidle.cycle] at hcycle
  | stops => exact Nat.le_refl _
  | stray => exact Nat.le_refl _
  | within c _ _ e _ =>
    rw [during]
    simp only
    split
    · exact Nat.le_refl _
    · exact hphase
  | ends =>
    have hdone : Phase.collectingTod.order ≤ Phase.done.order := by decide
    exact Nat.le_trans hphase hdone

private theorem deadline_of_snapshot_ne {o : Orchestrator} {e : DiscoveryEvent}
    (hne : (o.step s targets e).1.snapshot ≠ o.snapshot) :
    ∃ elapsed c, e = .deadline elapsed ∧ o.cycle = some c := by
  obtain ⟨o', hstep, htakes⟩ := exists_takes s targets o e
  rw [hstep] at hne
  cases htakes with
  | ends c _ hcycle elapsed => exact ⟨elapsed, c, rfl, hcycle⟩
  | _ => exact absurd rfl hne

private theorem step_inbound (o : Orchestrator) (hcycle : o.cycle = none) (m : Message)
    (source : Socket) (heard : Nat) : o.step s targets (.inbound m source heard) = (o, []) := by
  cases hrunning : o.running with
  | false => exact step_stopped s targets hrunning _
  | true => exact step_idle s targets ⟨hrunning, hcycle⟩ _

private theorem step_second_refresh {o : Orchestrator} {c : Cycle} (hrunning : o.running = true)
    (hcycle : o.cycle = some c) (fault : Option Fault) :
    o.step s targets (.refresh fault) = (o, []) := by
  rw [step, if_pos hrunning, hcycle]
  rfl

/-- Cycles are isolated from one another and from all that comes between them. -/
structure Isolated : Prop where
  /-- Whenever no cycle runs, the generation is the number of refreshes taken outside one. -/
  counted : ∀ events, (after s targets events).cycle = none →
    (after s targets events).generation = fresh.taken s targets events
  /-- A running cycle has what came since its refresh, and nothing of it is published yet. -/
  collected : ∀ events c, (after s targets events).cycle = some c → ∃ before during,
    Within s targets events before during ∧ c = (Cycle.empty.takeAll s (arrivals during)).1 ∧
      (after s targets events).snapshot = (after s targets before).snapshot
  /-- The deadline publishes what the messages of the cycle make, also when a shutdown is among
  them. -/
  published : ∀ before during elapsed, (after s targets before).Idle →
    (∀ e ∈ during, goesOn e = true) →
    after s targets (before ++ DiscoveryEvent.cycle during elapsed) =
      { phase := .done
        generation := (after s targets before).generation + 1
        snapshot := (Cycle.empty.takeAll s (arrivals during)).1.snapshot elapsed
        fault := none
        running := !during.contains .shutdown
        stopping := during.contains .shutdown
        cycle := none }
  /-- A cycle that cannot be opened leaves the snapshot as it was. -/
  failed : ∀ before fault, (after s targets before).Idle →
    after s targets (before ++ [.refresh (some fault)]) =
      { after s targets before with
        phase := .done
        generation := (after s targets before).generation + 1
        fault := some fault }
  kept : ∀ events e,
    (after s targets (events ++ [e])).snapshot ≠ (after s targets events).snapshot →
    ∃ elapsed c, e = .deadline elapsed ∧ (after s targets events).cycle = some c
  /-- A message outside a cycle might as well not come. -/
  stray : ∀ before m source heard rest, (after s targets before).cycle = none →
    after s targets (before ++ .inbound m source heard :: rest) = after s targets (before ++ rest)
  /-- So might a refresh within one. -/
  passed : ∀ before fault rest, (after s targets before).cycle.isSome = true →
    after s targets (before ++ .refresh fault :: rest) = after s targets (before ++ rest)
  phase : ∀ events before during, Within s targets events before during →
    (after s targets events).phase =
      let sent := ((after s targets before).run s targets (.refresh none :: during)).2
      if sent.any fun out => out.message.asksTable then .collectingTod else .polling
  forward : ∀ events e, (after s targets events).cycle.isSome = true →
    (after s targets events).phase.order ≤ (after s targets (events ++ [e])).phase.order
  /-- Behind a shutdown no cycle begins, and once none runs the orchestrator has stopped. -/
  closed : ∀ before rest, (after s targets (before ++ [.shutdown])).taken s targets rest = 0
  stopped : ∀ events, .shutdown ∈ events → (after s targets events).cycle = none →
    (after s targets events).running = false
  ended : ∀ before rest, (after s targets before).Idle →
    after s targets (before ++ .shutdown :: rest) = { after s targets before with running := false }

theorem isolated : Isolated s targets where
  counted events hcycle := by
    have hbegun : (after s targets events).begun = _ := begun_run s targets fresh events
    simpa [begun, hcycle, fresh] using hbegun
  collected events c hcycle := by
    obtain ⟨before, during, hwithin⟩ := exists_within s targets events (by simp [hcycle])
    refine ⟨before, during, hwithin, ?_, ?_⟩
    · rw [hwithin.state_eq] at hcycle
      exact (Option.some.inj hcycle).symm
    · rw [hwithin.state_eq]
      rfl
  published before during elapsed hidle hduring := by
    rw [after_append, run_cycle s targets hidle hduring]
    simp [publish, (sound_after s targets before).stopping hidle]
  failed before fault hidle := by
    rw [after_snoc, step_idle s targets hidle]
    simp [stepIdle, publish, hidle.cycle]
  kept events e hne := by
    rw [after_snoc] at hne
    exact deadline_of_snapshot_ne s targets hne
  stray before m source heard rest hcycle := by
    rw [after_append, after_append, run_cons, step_inbound s targets _ hcycle]
  passed before fault rest hcycle := by
    have hrunning := (sound_after s targets before).running hcycle
    obtain ⟨c, hc⟩ := Option.isSome_iff_exists.mp hcycle
    rw [after_append, after_append, run_cons, step_second_refresh s targets hrunning hc]
  phase events before during hwithin := hwithin.phase_eq
  forward := phase_forward s targets
  closed before rest := by
    have hending := ending_shutdown s targets (after s targets before)
    rw [← after_snoc] at hending
    exact taken_ending s targets (sound_after s targets _) hending rest
  stopped events hshutdown hcycle := by
    by_contra hrunning
    have hidle : (after s targets events).Idle := ⟨by simpa using hrunning, hcycle⟩
    exact (sound_after s targets events).not_idle (ending_after s targets hshutdown) hidle
  ended before rest hidle := by
    rw [after_append, run_cons, step_idle s targets hidle, stepIdle, run_stopped s targets rfl]

end Histories

end Orchestrator

end LightingNet
