import AccumulatorMachine.CommandLine.Debugger
import AccumulatorMachine.Proofs.Driven.Turns
import Mathlib.Data.List.Induction

/-! Stepping through a program at a terminal while there are inputs for all its questions: every typed line
is a turn of the stepper and its user. -/
namespace AccumulatorMachine

/-- The value that an event has printed. -/
def Event.value? : Event → Option String
  | .asked => none
  | .printed text => some text

/-- The value of an output instruction, if that is what has been printed. -/
def Printed.value? : Printed → Option String
  | .message m => if m.status = .output then some m.text else none
  | _ => none

theorem Printed.value?_of_ends {status : Status} (h : status.continues = false) (text : String) :
    value? (.message ⟨status, text⟩) = none := by
  cases status with
  | ok | input | output => cases h
  | _ => rfl

namespace Debugger

/-- Types lines. -/
def typeLines (lines : List String) (b : Debugger) : Debugger :=
  lines.foldl (fun b line => b.feed (some line)) b

theorem typeLines_concat (lines : List String) (line : String) (b : Debugger) :
    b.typeLines (lines ++ [line]) = (b.typeLines lines).feed (some line) := by
  simp [typeLines]

/-- A debugger and a stepper with its user have come to the same. -/
structure Beside (program : Program) (elapsed : Nat) (b : Debugger) (d : Driven) : Prop where
  stepper : b.stepper = d.stepper
  inputs : b.inputs = d.inputs
  values : b.printed.filterMap Printed.value? = d.events.filterMap Event.value?
  elapsed : b.elapsed = elapsed
  sound : d.stepper.Sound
  fits : Listing.programFits program = true
  program : d.stepper.program = program

/-- The last things printed are the machine at the end and what is said of the end. -/
def Concludes (b : Debugger) (status : Status) : Prop :=
  ∃ before text, status.describe? b.elapsed = some text ∧
    b.printed = before ++
      [.dump b.stepper.program b.stepper.machine.snapshot, .message ⟨status, text⟩]

/-- A debugger that waits for a line, or has ended, beside a stepper with its user. -/
structure Follows (program : Program) (elapsed : Nat) (b : Debugger) (d : Driven) : Prop
    extends Beside program elapsed b d where
  paused : d.stepper.finished = none → b.phase = .paused
  ended : ∀ status, d.stepper.finished = some status → b.phase = .ended status ∧ b.Concludes status

namespace Beside

variable {program : Program} {elapsed : Nat} {b : Debugger} {d : Driven}

theorem print (h : Beside program elapsed b d) {ps : List Printed}
    (hps : ps.filterMap Printed.value? = []) : Beside program elapsed (b.print ps) d := by
  refine ⟨h.stepper, h.inputs, ?_, h.elapsed, h.sound, h.fits, h.program⟩
  rw [Debugger.print, List.filterMap_append, hps, List.append_nil, h.values]

theorem withPhase (h : Beside program elapsed b d) (phase : DebuggerPhase) :
    Beside program elapsed { b with phase } d :=
  ⟨h.stepper, h.inputs, h.values, h.elapsed, h.sound, h.fits, h.program⟩

theorem printState_eq (h : Beside program elapsed b d) (next : Debugger → Debugger) :
    b.printState next = next (b.print [.dump b.stepper.program b.stepper.machine.snapshot]) := by
  rw [printState, h.stepper, h.program, h.fits, if_pos rfl]

theorem pause (h : Beside program elapsed b d) (hrunning : d.stepper.finished = none) :
    Follows program elapsed b.pause d := by
  rw [Debugger.pause, h.printState_eq]
  refine ⟨((h.print rfl).print rfl).withPhase .paused, fun _ => rfl, fun status hstatus => ?_⟩
  cases hrunning.symm.trans hstatus

theorem conclude (h : Beside program elapsed b d) {status : Status}
    (hfinished : d.stepper.finished = some status) : Follows program elapsed (b.conclude status) d := by
  have hends := h.sound.final status hfinished
  obtain ⟨text, htext⟩ := Status.exists_describe?_of_ends b.elapsed hends
  have hvalue : [Printed.message ⟨status, text⟩].filterMap Printed.value? = [] :=
    List.filterMap_cons_none (Printed.value?_of_ends hends text)
  rw [Debugger.conclude, h.printState_eq, printMessage]
  have hshown : Beside program elapsed
      (b.print [.dump b.stepper.program b.stepper.machine.snapshot]) d := h.print rfl
  have htext' : status.describe? (b.print [.dump b.stepper.program b.stepper.machine.snapshot]).elapsed =
      some text := htext
  rw [htext']
  refine ⟨(hshown.print hvalue).withPhase _, fun hnone => ?_, fun status' hstatus => ?_⟩
  · cases hfinished.symm.trans hnone
  · obtain rfl := Option.some.inj (hfinished.symm.trans hstatus)
    exact ⟨rfl, b.printed, text, htext, by simp [Debugger.print]⟩

/-- The machine is shown again after a step. -/
theorem proceed (h : Beside program elapsed b d) : Follows program elapsed b.proceed d := by
  unfold Debugger.proceed
  rw [h.stepper]
  cases hfinished : d.stepper.finished with
  | none => exact h.pause hfinished
  | some status => exact h.conclude hfinished

theorem takeOutput (h : Beside program elapsed b d) : Beside program elapsed b.takeOutput d.collect := by
  refine ⟨?_, h.inputs, ?_, h.elapsed, h.sound.takeOutput, h.fits, h.program⟩
  · show b.stepper.takeOutput.2 = d.stepper.takeOutput.2
    rw [h.stepper]
  · have hvalues (text : Option String) :
        (text.map fun text => Printed.message ⟨.output, text⟩).toList.filterMap Printed.value? =
          (text.map Event.printed).toList.filterMap Event.value? := by
      cases text <;> rfl
    simp only [Debugger.takeOutput, printMessage, Debugger.print, Driven.collect,
      Stepper.takeOutput, List.filterMap_append, hvalues, h.values, h.stepper]

theorem request (h : Beside program elapsed b d) (hinputs : d.inputs ≠ []) :
    Follows program elapsed b.request d.ask.answer := by
  obtain ⟨text, inputs, hcons⟩ := List.exists_cons_of_ne_nil hinputs
  have hdelivered : Beside program elapsed { b with stepper := b.stepper.deliver text, inputs }
      { d.ask with stepper := d.stepper.deliver text, inputs } := by
    refine ⟨congrArg (·.deliver text) h.stepper, rfl, ?_, h.elapsed, h.sound.deliver text, h.fits,
      h.program⟩
    show _ = (d.events ++ [Event.asked]).filterMap Event.value?
    rw [List.filterMap_append]
    exact h.values.trans (List.append_nil _).symm
  have hask : d.ask.inputs = text :: inputs := hcons
  simp only [Debugger.request, Debugger.answer, Driven.answer, h.inputs, hcons, hask]
  exact hdelivered.proceed

end Beside

theorem step_eq (b : Debugger) : b.step =
    match b.stepper.step.1 with
    | .output => { b with stepper := b.stepper.step.2 }.takeOutput.proceed
    | .input => { b with stepper := b.stepper.step.2 }.request
    | _ => { b with stepper := b.stepper.step.2 }.proceed := rfl

namespace Follows

variable {program : Program} {elapsed : Nat} {b : Debugger} {d d' : Driven}

/-- The debugger takes the turn of the stepper and its user. -/
theorem step (h : Follows program elapsed b d) (hanswered : d.stepper.step.1 = .input → d.inputs ≠ []) :
    Follows program elapsed b.step ({ d with stepper := d.stepper.step.2 }.attend d.stepper.step.1) := by
  have hprogram : d.stepper.step.2.program = program := d.stepper.program_of_step.trans h.program
  have hstep : Beside program elapsed { b with stepper := d.stepper.step.2 }
      { d with stepper := d.stepper.step.2 } :=
    ⟨rfl, h.inputs, h.values, h.elapsed, h.sound.step, h.fits, hprogram⟩
  rw [step_eq, h.stepper]
  cases hstatus : d.stepper.step.1 with
  | output => exact hstep.takeOutput.proceed
  | input => exact hstep.request (hanswered hstatus)
  | ok | failed | succeeded | stopped => exact hstep.proceed

/-- A typed line is a turn, unless it stops the stepper. -/
theorem feed (h : Follows program elapsed b d) (ht : d.watchedTurn? = some d') (hnot : ¬ d'.Halted)
    (line : String) : Follows program elapsed (b.feed (some line)) d' := by
  cases hfinished : d.stepper.finished with
  | none =>
    obtain ⟨rfl, hanswered⟩ := Driven.turn_of_not_halted hfinished ht hnot
    have hfeed : b.feed (some line) = b.step := by simp [Debugger.feed, h.paused hfinished]
    rw [hfeed]
    exact h.step hanswered
  | some status =>
    have hends := h.sound.final status hfinished
    obtain rfl : d = d' :=
      Option.some.inj ((Driven.watchedTurn?_of_finished hfinished hends).symm.trans ht)
    have hfeed : b.feed (some line) = b := by simp [Debugger.feed, (h.ended status hfinished).1]
    rw [hfeed]
    exact h

theorem typeLines {b₀ : Debugger} {d₀ : Driven} (h : Follows program elapsed b₀ d₀) (lines : List String)
    (hd : d₀.watchedTurns? lines.length = some d) (hnot : ¬ d.Halted) :
    Follows program elapsed (b₀.typeLines lines) d := by
  induction lines using List.reverseRecOn generalizing d with
  | nil =>
    obtain rfl := Option.some.inj hd
    exact h
  | append_singleton lines line ih =>
    rw [List.length_append, List.length_singleton, Driven.watchedTurns?, Option.bind_eq_some_iff] at hd
    obtain ⟨d₁, hd₁, hturn⟩ := hd
    rw [typeLines_concat]
    exact (ih hd₁ fun hhalted => hnot (hhalted.watchedTurn hturn)).feed hturn hnot line

end Follows

/-- A debugger that says at the end that so many milliseconds have passed. -/
def start (text : String) (inputs : List String) (elapsed : Nat) : Debugger :=
  { ofText text inputs with elapsed }

theorem follows_start {text : String} (hfits : Listing.programFits (Program.ofText text) = true)
    (inputs : List String) (elapsed : Nat) :
    Follows (Program.ofText text) elapsed (start text inputs elapsed) (Driven.ofText text inputs) := by
  have hbegin : Beside (Program.ofText text) elapsed { stepper := Stepper.ofText text, inputs, elapsed }
      (Driven.ofText text inputs) :=
    ⟨rfl, rfl, rfl, rfl, Stepper.sound_ofText text, hfits, rfl⟩
  have hstart : start text inputs elapsed =
      Debugger.pause { stepper := Stepper.ofText text, inputs, elapsed } := by
    have hfits' : Listing.programFits (Stepper.ofText text).program = true := hfits
    simp [start, ofText, pause, printState, hfits', Debugger.print]
  rw [hstart]
  exact hbegin.pause rfl

theorem start_of_not_fits {text : String} (hfits : Listing.programFits (Program.ofText text) = false)
    (inputs : List String) (elapsed : Nat) :
    start text inputs elapsed =
      { stepper := Stepper.ofText text, inputs, elapsed, phase := .broken,
        printed := [.dump (Program.ofText text) (Machine.snapshot {})] } := by
  have hfits' : Listing.programFits (Stepper.ofText text).program = false := hfits
  simp only [start, ofText, pause, printState, hfits', Bool.false_eq_true, if_false]
  rfl

theorem typeLines_of_broken {b : Debugger} (h : b.phase = .broken) (lines : List String) :
    b.typeLines lines = b := by
  induction lines with
  | nil => rfl
  | cons line lines ih =>
    have hfeed : b.feed (some line) = b := by simp [Debugger.feed, h]
    simpa [typeLines, hfeed] using ih

end Debugger

end AccumulatorMachine
