import AccumulatorMachine.Proofs.Run.Signalled

/-! What the threads of a run do to the session beyond the work of the machine: messages, the reset at
the end, the release of the session and the call back. -/
namespace AccumulatorMachine

inductive Thread where
  | runner | printer | finisher
  deriving DecidableEq, Repr

namespace Thread

def step? : Thread → Run → Option Run
  | .runner => Run.runnerStep?
  | .printer => Run.printerStep?
  | .finisher => Run.finisherStep?

theorem step?_mem (thread : Thread) : thread.step? ∈ Run.threads := by
  cases thread <;> simp [step?, Run.threads]

end Thread

inductive Deed where
  | shown (message : Message)
  /-- The runner has cleared this part of the machine at its end. -/
  | cleared (part : ResetPart)
  /-- The session is free for the next run. -/
  | freed
  | calledBack
  deriving DecidableEq, Repr

namespace Deed

/-- What a deed makes of the session. -/
def onShared (s : Shared) : Deed → Shared
  | .shown message => { s with console := s.console ++ [message] }
  | .cleared part => { s with machine := part.clear s.machine }
  | .freed => { s with active := false }
  | .calledBack => { s with callbacks := s.callbacks + 1 }

def message? : Deed → Option Message
  | .shown message => some message
  | _ => none

/-- One session comes from another by a deed, or by the work of the machine alone. -/
def Explains (a b : Shared) : Option Deed → Prop
  | some deed => b = deed.onShared a
  | none => b = { a with machine := b.machine }

section
variable {a b : Shared} {deed : Option Deed}

theorem Explains.console (h : Explains a b deed) :
    b.console = a.console ++ (deed.bind message?).toList := by
  cases deed with
  | none => simpa using congrArg Shared.console h
  | some deed =>
    have hconsole := congrArg Shared.console h
    cases deed <;> simpa [onShared, message?] using hconsole

theorem Explains.callbacks (h : Explains a b deed) :
    b.callbacks = a.callbacks + if deed = some .calledBack then 1 else 0 := by
  cases deed with
  | none => simpa using congrArg Shared.callbacks h
  | some deed =>
    have hcallbacks := congrArg Shared.callbacks h
    cases deed <;> simpa [onShared] using hcallbacks

end

end Deed

/-! ### The deeds of each thread -/

def RunnerPhase.deed? : RunnerPhase → Option Deed
  | .clearing _ part => some (.cleared part)
  | _ => none

def PrinterPhase.deed? : PrinterPhase → Option Deed
  | .appending status text => text.map fun text => .shown ⟨status, text⟩
  | _ => none

def FinisherPhase.deed? : FinisherPhase → Option Deed
  | .freeing _ => some .freed
  | .calling _ => some .calledBack
  | _ => none

/-- What the next action of a thread is to do, if it is a deed. -/
def Thread.deed? (t : Threads) : Thread → Option Deed
  | .runner => t.runner.deed?
  | .printer => t.printer.deed?
  | .finisher => t.finisher.deed?

namespace Run
open Deed

/-- The session is left as an action with this deed leaves it. -/
def Does (deed : Option Deed) (r s : Run) : Prop := Explains r.toShared s.toShared deed

theorem does_afterLine (r : Run) (machine : Machine) (status : Status) :
    Does none r ({ r with machine }.afterLine status) := by
  cases status <;> rfl

theorem does_runnerStep {r s : Run} (hs : r.runnerStep? = some s) : Does r.runner.deed? r s := by
  unfold runnerStep? at hs
  split at hs <;> rename_i hrun <;> rw [hrun]
  · split at hs <;> cases hs <;> rfl
  · split at hs <;> cases hs <;> rfl
  · cases hs
    unfold executeLine
    split
    · exact does_afterLine r _ _
    · rfl
  · refine of_map_eq_some (P := Does _ r) hs ?_
    rintro ⟨status, machine⟩
    exact does_afterLine r machine status
  · cases hs
    rfl
  · split at hs
    · cases hs
      rfl
    · exact of_map_eq_some (P := Does _ r) hs fun _ => rfl
  · cases hs
    rfl
  · cases hs
    rfl
  · cases hs
    unfold signal
    split <;> rfl
  · exact of_map_eq_some (P := Does _ r) hs fun _ => rfl
  · split at hs
    · cases hs
      rfl
    · exact of_map_eq_some (P := Does _ r) hs fun _ => rfl
  · exact of_map_eq_some (P := Does _ r) hs fun _ => rfl
  · cases hs

/-- A status without a text is appended as nothing. -/
theorem does_append (r : Run) (status : Status) (text : Option String) :
    Does (PrinterPhase.appending status text).deed? r (r.append status text) := by
  cases text with
  | none =>
    unfold Does append
    simp [PrinterPhase.deed?, Explains]
  | some text => rfl

theorem does_printerStep {r s : Run} (hs : r.printerStep? = some s) :
    Does r.printer.deed? r s := by
  unfold printerStep? at hs
  split at hs <;> rename_i hprinter <;> rw [hprinter]
  · split at hs
    · cases hs
      rfl
    · cases hs
      rfl
    · exact of_map_eq_some (P := Does _ r) hs fun _ => rfl
  · exact of_map_eq_some (P := Does _ r) hs fun _ => rfl
  · cases hs
    exact does_append r _ _
  · split at hs
    · cases hs
      unfold afterRelease
      split <;> rfl
    · exact of_map_eq_some (P := Does _ r) hs fun _ => rfl
  · split at hs
    · cases hs
      rfl
    · exact of_map_eq_some (P := Does _ r) hs fun _ => rfl
  · exact of_map_eq_some (P := Does _ r) hs fun _ => rfl
  · cases hs

theorem does_finisherStep {r s : Run} (hs : r.finisherStep? = some s) :
    Does r.finisher.deed? r s := by
  unfold finisherStep? at hs
  split at hs <;> rename_i hfinisher <;> rw [hfinisher]
  · cases hs
    unfold observe
    split <;> rfl
  · exact of_map_eq_some (P := Does _ r) hs fun _ => rfl
  · cases hs
    rfl
  · cases hs
    rfl
  · cases hs

/-- An action does to the session what its deed says, and without a deed nothing but the work of the
machine. -/
theorem does_step {thread : Thread} {r s : Run} (hs : thread.step? r = some s) :
    Does (thread.deed? r.toThreads) r s := by
  cases thread with
  | runner => exact does_runnerStep hs
  | printer => exact does_printerStep hs
  | finisher => exact does_finisherStep hs

end Run

end AccumulatorMachine
