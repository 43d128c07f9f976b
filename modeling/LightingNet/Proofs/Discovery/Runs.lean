import LightingNet.Discovery.Session
import LightingNet.Proofs.Discovery.History
/-!
# Runs of an orchestrator

From the refresh that opens a cycle to the deadline that ends it, an orchestrator hands each message to
the cycle. A second refresh is passed over, and a shutdown takes effect when the cycle is over. The
cycles of a session are such runs, whatever its bus delivers.
-/
namespace LightingNet

namespace DiscoveryEvent

def arrival? : DiscoveryEvent → Option Arrival
  | inbound m source elapsed => some ⟨m, source, elapsed⟩
  | _ => none

def arrivals (events : List DiscoveryEvent) : List Arrival := events.filterMap arrival?

theorem arrivals_append (events more : List DiscoveryEvent) :
    arrivals (events ++ more) = arrivals events ++ arrivals more :=
  List.filterMap_append

def goesOn : DiscoveryEvent → Bool
  | deadline _ => false
  | _ => true

/-- The events of one cycle, from its refresh to its deadline. -/
def cycle (events : List DiscoveryEvent) (elapsed : Nat) : List DiscoveryEvent :=
  refresh none :: (events ++ [deadline elapsed])

end DiscoveryEvent

open DiscoveryEvent (arrivals goesOn)

namespace Orchestrator

variable (s : DiscoverySettings) (targets : List Socket)

/-- Takes events one after the other, and tells what is sent meanwhile. -/
def run (o : Orchestrator) : List DiscoveryEvent → Orchestrator × List Outgoing
  | [] => (o, [])
  | e :: events =>
    let (next, out) := o.step s targets e
    let (last, rest) := run next events
    (last, out ++ rest)

structure Idle (o : Orchestrator) : Prop where
  running : o.running = true
  cycle : o.cycle = none

theorem fresh_idle : fresh.Idle := ⟨rfl, rfl⟩

theorem run_cons (o : Orchestrator) (e : DiscoveryEvent) (events : List DiscoveryEvent) :
    o.run s targets (e :: events) =
      (((o.step s targets e).1.run s targets events).1,
        (o.step s targets e).2 ++ ((o.step s targets e).1.run s targets events).2) :=
  rfl

theorem run_append (o : Orchestrator) (events more : List DiscoveryEvent) :
    o.run s targets (events ++ more) =
      (((o.run s targets events).1.run s targets more).1,
        (o.run s targets events).2 ++ ((o.run s targets events).1.run s targets more).2) := by
  induction events generalizing o with
  | nil => rfl
  | cons e events ih => simp only [List.cons_append, run_cons, ih, List.append_assoc]

def during (o : Orchestrator) (c : Cycle) (events : List DiscoveryEvent) : Orchestrator :=
  let (c, sent) := c.takeAll s (arrivals events)
  { o with
    phase := if sent.isEmpty then o.phase else .collectingTod
    stopping := o.stopping || events.contains .shutdown
    cycle := some c }

theorem step_during {o : Orchestrator} {c : Cycle} {e : DiscoveryEvent}
    (hrunning : o.running = true) (hcycle : o.cycle = some c) (he : e.goesOn = true) :
    o.step s targets e = (o.during s c [e], (c.takeAll s (arrivals [e])).2) := by
  rw [step, if_pos hrunning, hcycle]
  cases e with
  | inbound m source elapsed =>
    have harrivals : arrivals [.inbound m source elapsed] = [⟨m, source, elapsed⟩] := rfl
    simp [stepCycle, during, harrivals, Cycle.takeAll_singleton]
  | refresh fault =>
    have harrivals : arrivals [.refresh fault] = [] := rfl
    simp [stepCycle, during, harrivals, Cycle.takeAll, ← hcycle]
  | shutdown =>
    have harrivals : arrivals [.shutdown] = [] := rfl
    simp [stepCycle, during, harrivals, Cycle.takeAll, ← hcycle]
  | deadline elapsed => cases he

theorem during_append (o : Orchestrator) (c : Cycle) (events more : List DiscoveryEvent) :
    (o.during s c events).during s (c.takeAll s (arrivals events)).1 more =
      o.during s c (events ++ more) := by
  simp only [during, DiscoveryEvent.arrivals_append, Cycle.takeAll_append, List.contains_append,
    Bool.or_assoc]
  cases (c.takeAll s (arrivals events)).2 with
  | nil => simp
  | cons sent rest => simp

private theorem run_during {o : Orchestrator} {c : Cycle} {events : List DiscoveryEvent}
    (hrunning : o.running = true) (hcycle : o.cycle = some c)
    (hevents : ∀ e ∈ events, e.goesOn = true) :
    o.run s targets events = (o.during s c events, (c.takeAll s (arrivals events)).2) := by
  -- Each event leaves an orchestrator that is still within the cycle, with the next state of it.
  induction events generalizing o c with
  | nil =>
    have harrivals : arrivals [] = [] := rfl
    simp [run, during, harrivals, Cycle.takeAll, ← hcycle]
  | cons e events ih =>
    have hstep := step_during s targets hrunning hcycle (hevents e List.mem_cons_self)
    have hrest := fun e he => hevents e (List.mem_cons_of_mem _ he)
    have harrivals : arrivals (e :: events) = arrivals [e] ++ arrivals events :=
      DiscoveryEvent.arrivals_append [e] events
    rw [run_cons, hstep, ih (o := o.during s c [e]) hrunning rfl hrest, during_append, harrivals,
      Cycle.takeAll_append]
    rfl

def opened (o : Orchestrator) : Orchestrator := { o with phase := .polling, cycle := some .empty }

theorem step_refresh {o : Orchestrator} (hidle : o.Idle) :
    o.step s targets (.refresh none) = (o.opened, polls s targets) := by
  rw [step, if_pos hidle.running, hidle.cycle]
  rfl

theorem run_refresh {o : Orchestrator} (hidle : o.Idle) {events : List DiscoveryEvent}
    (hevents : ∀ e ∈ events, e.goesOn = true) :
    o.run s targets (.refresh none :: events) =
      (o.opened.during s .empty events,
        polls s targets ++ (Cycle.empty.takeAll s (arrivals events)).2) := by
  rw [run_cons, step_refresh s targets hidle,
    run_during s targets (o := o.opened) hidle.running rfl hevents]

/-- The deadline of a cycle publishes what it heard. -/
theorem run_cycle {o : Orchestrator} (hidle : o.Idle) {events : List DiscoveryEvent}
    (hevents : ∀ e ∈ events, e.goesOn = true) (elapsed : Nat) :
    o.run s targets (DiscoveryEvent.cycle events elapsed) =
      let (c, sent) := Cycle.empty.takeAll s (arrivals events)
      let stopping := o.stopping || events.contains .shutdown
      ({ o.publish (.ok (c.snapshot elapsed)) with running := !stopping, stopping },
        polls s targets ++ sent) := by
  have hdeadline (last : Orchestrator) (c : Cycle) (hrunning : last.running = true)
      (hcycle : last.cycle = some c) :
      last.run s targets [.deadline elapsed] =
        ({ last.publish (.ok (c.snapshot elapsed)) with running := !last.stopping }, []) := by
    rw [run_cons, step, if_pos hrunning, hcycle]
    rfl
  rw [DiscoveryEvent.cycle, ← List.cons_append, run_append, run_refresh s targets hidle hevents,
    hdeadline (o.opened.during s .empty events) _ hidle.running rfl, List.append_nil]
  rfl

end Orchestrator

namespace Session

variable {σ : Type}

private theorem collect_run (id budget : Nat) (d : Session σ) :
    (collect id budget d).settings = d.settings ∧ (collect id budget d).targets = d.targets ∧
      ∃ events, (∀ e ∈ events, ∃ m source, e = .inbound m source 0) ∧
        (collect id budget d).orchestrator =
          (d.orchestrator.run d.settings d.targets events).1 := by
  have hnone : ∀ e ∈ ([] : List DiscoveryEvent), ∃ m source, e = .inbound m source 0 :=
    List.forall_mem_nil _
  induction budget generalizing d with
  | zero => exact ⟨rfl, rfl, [], hnone, rfl⟩
  | succ budget ih =>
    rw [collect]
    split
    · exact ⟨rfl, rfl, [], hnone, rfl⟩
    split
    · rename_i m source hheld
      obtain ⟨hsettings, htargets, events, hevents, hrun⟩ :=
        ih (advance { d with bus := d.bus.dropOldest id } (.inbound m source 0))
      refine ⟨hsettings, htargets, .inbound m source 0 :: events, ?_, hrun⟩
      exact List.forall_mem_cons.mpr ⟨⟨m, source, rfl⟩, hevents⟩
    · exact ih { d with bus := d.bus.dropOldest id }

/-- The cycle of a session is a run of its orchestrator from the refresh to the deadline. -/
theorem runCycle_run (d : Session σ) (budget : Nat) :
    ∃ events, (∀ e ∈ events, ∃ m source, e = .inbound m source 0) ∧
      (d.runCycle budget).orchestrator =
        (d.orchestrator.run d.settings d.targets (DiscoveryEvent.cycle events 0)).1 := by
  obtain ⟨hsettings, htargets, events, hevents, hrun⟩ :=
    collect_run (d.bus.add forwarder).2 budget
      (advance { d with bus := (d.bus.add forwarder).1 } (.refresh none))
  refine ⟨events, hevents, ?_⟩
  have hlast : (d.runCycle budget).orchestrator = ((collect (d.bus.add forwarder).2 budget
      (advance { d with bus := (d.bus.add forwarder).1 } (.refresh none))).advance
        (.deadline 0)).orchestrator := rfl
  rw [hlast, advance, hrun, hsettings, htargets, DiscoveryEvent.cycle, Orchestrator.run_cons,
    Orchestrator.run_append]
  rfl

end Session

end LightingNet
