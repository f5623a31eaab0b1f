import Mathlib.Logic.Relation
import AccumulatorMachine.Proofs.Machine.Visit
import AccumulatorMachine.Proofs.Run.Linked
import AccumulatorMachine.Proofs.Run.Signalled
import AccumulatorMachine.Session

/-! A run among calls of others, who deliver inputs and stop the run whenever they like. A stop marks
the machine and later closes its mailbox. -/
namespace AccumulatorMachine

theorem Session.linked_accept (shared : Shared) (program : Program) (elapsed : Nat) :
    (accept shared program elapsed).Linked :=
  .working (show Status.ok.continues = true from rfl) .testing (.receiving rfl)

theorem Session.signalled_accept (shared : Shared) (program : Program) (elapsed : Nat) :
    (accept shared program elapsed).Signalled := .before rfl

structure OpenRun where
  run : Run
  /-- Stops that have marked the machine and have yet to close its mailbox. -/
  stopping : Nat := 0
  /-- Stops that are over. -/
  stopped : Nat := 0

namespace OpenRun

/-- A run that has just been accepted, after the reset of the machine. -/
def start (shared : Shared) (program : Program) (elapsed : Nat) : OpenRun :=
  { run := Session.accept shared program elapsed }

def onMachine (s : OpenRun) (f : Machine → Machine) : OpenRun :=
  { s with run := { s.run with machine := f s.run.machine } }

inductive Step : OpenRun → OpenRun → Prop
  | act {s : OpenRun} {act : Run → Option Run} {run : Run} (hact : act ∈ Run.threads)
      (h : act s.run = some run) : Step s { s with run }
  | deliver (s : OpenRun) (text : String) : Step s (s.onMachine (·.deliver text))
  | beginStop (s : OpenRun) :
      Step s { s.onMachine Machine.markInterrupted with stopping := s.stopping + 1 }
  | endStop {s : OpenRun} (h : 0 < s.stopping) :
      Step s { s.onMachine Machine.closeMailbox with
        stopping := s.stopping - 1, stopped := s.stopped + 1 }

/-- The states of a run that some order of the actions leads to. -/
def Reachable (shared : Shared) (program : Program) (elapsed : Nat) (s : OpenRun) : Prop :=
  Relation.ReflTransGen Step (start shared program elapsed) s

/-- Nobody has to call. -/
theorem reachable_of_threads {shared : Shared} {program : Program} {elapsed : Nat} {run : Run}
    (h : Schedule.Reachable Run.threads (Session.accept shared program elapsed) run) :
    Reachable shared program elapsed { run } := by
  induction h with
  | refl => exact .refl
  | step _ hact hrun ih => exact ih.tail (.act hact hrun)

end OpenRun

/-! ### What the scene keeps -/

namespace Scene

/-- Whoever needs the mailbox finds in it what the program put there, and an input has a cell to
go to. -/
def Supplied (s : Scene) : Prop :=
  match s.stage with
  | .handing .output => s.machine.mailbox.closed = true ∨ s.machine.mailbox.value.isSome = true
  | .busy (.taking address) => s.machine.HasCell address
  | _ => True

/-- The mailbox has been opened for the next run. -/
def Cleared (s : Scene) : Prop :=
  match s.stage with
  | .busy (.clearing _ .awaiting) | .busy (.clearing _ .interrupted) | .busy (.signalling _)
  | .busy (.asleep _ _) | .busy (.leaving _) | .busy (.finished _) => True
  | _ => False

theorem supplied_afterLine {m : Machine} {c : List Message} {status : Status}
    (h : status = .output → m.mailbox.closed = true ∨ m.mailbox.value.isSome = true) :
    Supplied ⟨m, c, .afterLine status⟩ := by
  cases status with
  | output => exact h rfl
  | _ => trivial

theorem Move.supplied {program : Program} {elapsed : Nat} {s t : Scene}
    (h : Move program elapsed s t) : t.Supplied := by
  cases h with
  | @execute m c line status m' hv =>
    refine supplied_afterLine fun ho => ?_
    have hvisit := m.visits_visitLine line
    rw [hv, ho] at hvisit
    cases hvisit
    exact .inr rfl
  | @reach m c line address hv =>
    have hvisit := m.visits_visitLine line
    rw [hv] at hvisit
    cases hvisit with
    | take hcell _ => exact hcell
  | take ht =>
    refine supplied_afterLine fun ho => ?_
    cases ho
    nomatch Machine.takes_takeInput? ht
  | @judge m =>
    cases m.interrupted <;> simp [Supplied]
  | @resume m c status =>
    cases hc : status.continues <;> simp [Supplied, Stage.afterReport, hc]
  | @clear m c report part => cases part <;> trivial
  | retire hr => cases hr <;> trivial
  | _ => trivial

/-- What others do to the machine leaves in the mailbox what somebody needs. -/
theorem Supplied.onMachine {m n : Machine} {c : List Message} {stage : Stage}
    (h : Supplied ⟨m, c, stage⟩) (hmemory : n.memory = m.memory)
    (hmailbox : m.mailbox.closed = true ∨ m.mailbox.value.isSome = true →
      n.mailbox.closed = true ∨ n.mailbox.value.isSome = true) :
    Supplied ⟨n, c, stage⟩ := by
  cases stage with
  | busy phase =>
    cases phase with
    | taking address =>
      obtain ⟨memory, hm, hcell⟩ := h
      exact ⟨memory, hmemory.trans hm, hcell⟩
    | _ => trivial
  | handing status =>
    cases status with
    | output => exact hmailbox h
    | _ => trivial
  | _ => trivial

/-- A closed mailbox is opened by the end of the run only. -/
theorem Move.closed {program : Program} {elapsed : Nat} {s t : Scene}
    (h : Move program elapsed s t) (hs : s.machine.mailbox.closed = true ∨ s.Cleared) :
    t.machine.mailbox.closed = true ∨ t.Cleared := by
  cases h with
  | @execute m c line status m' hv =>
    have hc : m.mailbox.closed = true := hs.resolve_right id
    have hvisit := m.visits_visitLine line
    rw [hv] at hvisit
    cases hvisit <;> exact .inl hc
  | take ht =>
    have hc := hs.resolve_right id
    cases Machine.takes_takeInput? ht with
    | closed h => exact .inl h
    | stored hopen | refused hopen => simp [hopen] at hc
  | print ht =>
    have hc := hs.resolve_right id
    obtain ⟨h, -, rfl⟩ | ⟨_, hopen, -⟩ := Machine.requestOutput?_cases ht
    · exact .inl h
    · simp [hopen] at hc
  | @clear m c report part =>
    cases part with
    | registers => exact .inl (hs.resolve_right id)
    | _ => exact .inr trivial
  | retire hr => cases hr <;> exact hs.imp id fun _ => trivial
  | _ => exact .inl (hs.resolve_right id)

/-- No thread of the run marks the machine. -/
theorem Move.interrupted {program : Program} {elapsed : Nat} {s t : Scene}
    (h : Move program elapsed s t) (ht : t.machine.interrupted = true) :
    s.machine.interrupted = true := by
  cases h with
  | @execute m c line status m' hv =>
    have hvisit := m.visits_visitLine line
    rw [hv] at hvisit
    cases hvisit <;> exact ht
  | take htake => cases Machine.takes_takeInput? htake <;> exact ht
  | print hprint =>
    obtain ⟨-, -, rfl⟩ | ⟨_, -, -, -, rfl⟩ := Machine.requestOutput?_cases hprint <;> exact ht
  | @clear m c report part =>
    cases part with
    | interrupted => simp [ResetPart.clear, Machine.clearInterrupted] at ht
    | _ => exact ht
  | _ => exact ht

end Scene

end AccumulatorMachine
