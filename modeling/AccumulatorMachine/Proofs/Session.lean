import Mathlib.Data.Set.Basic
import AccumulatorMachine.Proofs.Machine.Call
import AccumulatorMachine.Session

/-! The runs of a session, one after another, among calls of others. A run is accepted, the machine is
reset part by part, and then the threads of the run are at work. -/
namespace AccumulatorMachine

/-- The run as it would be in a session where nothing had been shown or called back before. -/
def Run.since (r : Run) (before : Shared) : Run :=
  { r with
    console := r.console.drop before.console.length
    callbacks := r.callbacks - before.callbacks }

namespace Session

/-- What a session that has accepted a run is occupied with. -/
inductive Occupancy where
  /-- This part of the machine is the next to be reset. -/
  | opening (shared : Shared) (part : ResetPart)
  | running (run : Run)

namespace Occupancy

/-- What there is to see of the run. Before its machine is reset, that is nothing. -/
def seen? (before : Shared) : Occupancy → Option Run
  | .opening _ _ => none
  | .running run => some (run.since before)

def afterClear (program : Program) (elapsed : Nat) (shared : Shared) (part : ResetPart) :
    Occupancy :=
  let shared := { shared with machine := part.clear shared.machine }
  match part.next? with
  | some next => .opening shared next
  | none => .running ⟨shared, { program, elapsed }⟩

/-- Somebody calls, or the session goes on. What the mailbox holds before the reset belongs to an
earlier run, and nobody fetches it during the reset. -/
inductive Step (program : Program) (elapsed : Nat) : Option Call → Occupancy → Occupancy → Prop
  | clear (shared : Shared) (part : ResetPart) :
      Step program elapsed none (.opening shared part) (afterClear program elapsed shared part)
  | early {shared : Shared} {part : ResetPart} {machine : Machine} (call : Call)
      (hcall : call ≠ .fetch) (h : call.effect? shared.machine = some machine) :
      Step program elapsed (some call) (.opening shared part) (.opening { shared with machine } part)
  | act {act : Run → Option Run} {r s : Run} (hact : act ∈ Run.threads) (h : act r = some s) :
      Step program elapsed none (.running r) (.running s)
  | call {r : Run} {machine : Machine} (call : Call) (h : call.effect? r.machine = some machine) :
      Step program elapsed (some call) (.running r) (.running { r with machine })

end Occupancy

/-- A call or an action of the session, and what there is to see after it. -/
structure Moment where
  call : Option Call
  run : Option Run

/-- The calls that others may make after what they have seen. -/
abbrev Callers := List Moment → Call → Prop

/-- A run that a session has accepted comes to be occupied with something. -/
inductive Unfolds (callers : Callers) (before : Shared) (program : Program) (elapsed : Nat) :
    List Moment → Occupancy → Prop
  | accept (h : before.active = false) :
      Unfolds callers before program elapsed [] (.opening { before with active := true } .registers)
  | step {course : List Moment} {o o' : Occupancy} {call : Option Call}
      (h : Unfolds callers before program elapsed course o) (hcall : ∀ c ∈ call, callers course c)
      (hstep : o.Step program elapsed call o') :
      Unfolds callers before program elapsed (course ++ [⟨call, o'.seen? before⟩]) o'

/-- Everything that a run can come to, in every order of its threads and of the calls. -/
def courses (callers : Callers) (before : Shared) (program : Program) (elapsed : Nat) :
    Set (List Moment) :=
  {course | ∃ o, Unfolds callers before program elapsed course o}

/-- What a run that is over has shown and reported, and the machine that it leaves. -/
structure Outcome where
  messages : List Message
  report : Option Report
  machine : Machine

def outcomes (callers : Callers) (before : Shared) (program : Program) (elapsed : Nat) :
    Set Outcome :=
  {outcome | ∃ course ∈ courses callers before program elapsed, ∃ call run,
    course.getLast? = some ⟨call, some run⟩ ∧ run.isOver = true ∧
      outcome = ⟨run.console, run.report?, run.machine⟩}

/-- What a session can be like when no run is active: some runs are over, and others have made calls
between them. -/
inductive Past : Shared → Prop
  | new : Past {}
  | call {shared : Shared} {machine : Machine} (h : Past shared) (call : Call)
      (hcall : call.effect? shared.machine = some machine) : Past { shared with machine }
  | run {shared : Shared} (h : Past shared) {callers : Callers} {program : Program} {elapsed : Nat}
      {course : List Moment} {r : Run}
      (hr : Unfolds callers shared program elapsed course (.running r)) (hover : r.isOver = true) :
      Past r.toShared

variable {callers : Callers} {before : Shared} {program : Program} {elapsed : Nat}

/-! ### Runs that nobody calls -/

theorem Unfolds.alone {course : List Moment} {o o' : Occupancy}
    (h : Unfolds callers before program elapsed course o) (hstep : o.Step program elapsed none o') :
    Unfolds callers before program elapsed (course ++ [⟨none, o'.seen? before⟩]) o' :=
  h.step nofun hstep

/-- When nobody calls during the reset, a run starts as it is accepted. -/
theorem unfolds_accept (h : before.active = false) :
    ∃ course, Unfolds callers before program elapsed course
      (.running (accept before program elapsed)) := by
  have hopening : Unfolds callers before program elapsed []
      (.opening { before with active := true } .registers) := .accept h
  have hregisters := hopening.alone (.clear _ .registers)
  have hmailbox := hregisters.alone (.clear _ .mailbox)
  have hawaiting := hmailbox.alone (.clear _ .awaiting)
  exact ⟨_, hawaiting.alone (.clear _ .interrupted)⟩

theorem Unfolds.settle {course : List Moment} {r : Run} (bound : Nat)
    (h : Unfolds callers before program elapsed course (.running r)) :
    ∃ course, Unfolds callers before program elapsed course
      (.running (Schedule.settle (Schedule.first? Run.threads) bound r)) := by
  induction bound generalizing course r with
  | zero => exact ⟨course, h⟩
  | succ n ih =>
    unfold Schedule.settle
    split
    · exact ⟨course, h⟩
    · next hfirst =>
      obtain ⟨act, hact, hr⟩ := List.exists_of_findSome?_eq_some hfirst
      exact ih (h.alone (.act hact hr))

end Session

end AccumulatorMachine
