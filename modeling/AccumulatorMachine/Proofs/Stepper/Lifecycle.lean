import AccumulatorMachine.Proofs.Since
import AccumulatorMachine.Proofs.Stepper.Reached
import AccumulatorMachine.Stepper.Page

/-! The life of a stepper, from its first step to the status that ends it, and what becomes of the
values that it prints. -/
namespace AccumulatorMachine

namespace Stepper

variable {s : Stepper}

/-! ### The status that ends a stepper -/

theorem step_of_finished {status : Status} (h : s.finished = some status) : s.step = (status, s) := by
  apply step_eq_of_step?
  rw [step?, h]

theorem step_of_marked (hrunning : s.finished = none) (hmark : s.machine.interrupted = true) :
    s.step = s.finish .stopped := by
  apply step_eq_of_step?
  simp only [step?, hrunning, hmark, if_true]

/-- A stepper is over as soon as a step has returned a status that does not continue. -/
theorem Sound.finished_step_iff (h : s.Sound) {status : Status} :
    s.step.2.finished = some status ↔ s.step.1 = status ∧ status.continues = false := by
  cases hfinished : s.finished with
  | none =>
    rw [finished_of_step hfinished]
    cases hcontinues : s.step.1.continues with
    | true =>
      refine iff_of_false nofun ?_
      rintro ⟨rfl, hends⟩
      cases hcontinues.symm.trans hends
    | false =>
      constructor
      · rintro ⟨⟩
        exact ⟨rfl, hcontinues⟩
      · rintro ⟨rfl, -⟩
        rfl
  | some final =>
    rw [step_of_finished hfinished]
    constructor
    · intro hstatus
      exact ⟨Option.some.inj (hfinished.symm.trans hstatus), h.final status hstatus⟩
    · rintro ⟨rfl, -⟩
      exact hfinished

/-- The stepper has ended with this status and these registers. -/
structure Over (status : Status) (m : Machine) (s : Stepper) : Prop where
  finished : s.finished = some status
  pc : s.machine.pc = m.pc
  memory : s.machine.memory = m.memory

/-- No use brings a stepper back that is over. -/
theorem Over.uses {status : Status} {m : Machine} (h : s.Over status m) (uses : List Use) :
    (∀ u ∈ s.stepsOf uses, u.Over status m) ∧ (s.after uses).Over status m := by
  refine invariant (fun u hu => ?_) (fun u hu => ?_) (fun u _ _ hu => ?_) (fun u _ hu => ?_) h
  · rw [step_of_finished hu.finished]
    exact hu
  all_goals exact ⟨hu.finished, hu.pc, hu.memory⟩

theorem Sound.over_of_step (h : s.Sound) (hends : s.step.1.continues = false) :
    s.step.2.Over s.step.1 s.step.2.machine :=
  ⟨h.finished_step_iff.mpr ⟨rfl, hends⟩, rfl, rfl⟩

/-! ### Stops -/

theorem marked_of_uses (h : s.machine.interrupted = true) (uses : List Use) :
    (s.after uses).machine.interrupted = true := by
  refine (invariant (I := fun u => u.machine.interrupted = true) (fun u hu => ?_) (fun _ hu => hu)
    (fun _ _ _ hu => hu) (fun _ _ _ => rfl) h).2
  obtain hidles | ⟨line, hline⟩ := u.idles_or_executes
  · generalize u.step = r at hidles
    cases hidles <;> exact hu
  · cases hu.symm.trans hline.unmarked

theorem marked_of_stop {uses : List Use} (h : .stop ∈ uses) (s : Stepper) :
    (s.after uses).machine.interrupted = true := by
  induction uses generalizing s with
  | nil => cases h
  | cons use uses ih =>
    rcases List.mem_cons.mp h with rfl | hlater
    · exact marked_of_uses rfl uses
    · exact ih hlater _

/-! ### The steps that were made -/

/-- What the steps made so far say about the end of a stepper. -/
structure Latched (log : List Stepper) (s : Stepper) : Prop where
  sound : s.Sound
  last : ∀ status, s.finished = some status ↔
    status.continues = false ∧ ∃ u, log.getLast? = some u ∧ u.step.1 = status
  kept : ∀ u ∈ log, u.step.1.continues = false → s.finished = some u.step.1

theorem latched_ofText (text : String) : Latched [] (ofText text) where
  sound := sound_ofText text
  last := by
    intro status
    constructor
    · intro hfinished
      cases hfinished
    · rintro ⟨-, u, hu, -⟩
      cases hu
  kept := fun _ hu => absurd hu List.not_mem_nil

namespace Latched

variable {log : List Stepper}

theorem step (h : Latched log s) : Latched (log ++ [s]) s.step.2 where
  sound := h.sound.step
  last := by
    intro status
    rw [h.sound.finished_step_iff, List.getLast?_concat]
    constructor
    · rintro ⟨hstatus, hends⟩
      exact ⟨hends, s, rfl, hstatus⟩
    · rintro ⟨hends, u, hu, hstatus⟩
      obtain rfl : s = u := Option.some.inj hu
      exact ⟨hstatus, hends⟩
  kept := by
    intro u hu hends
    rcases List.mem_append.mp hu with hu | hu
    · have hfinished := h.kept u hu hends
      rw [step_of_finished hfinished]
      exact hfinished
    · obtain rfl := List.mem_singleton.mp hu
      exact h.sound.finished_step_iff.mpr ⟨rfl, hends⟩

theorem after_uses (text : String) (uses : List Use) :
    Latched ((ofText text).stepsOf uses) ((ofText text).after uses) := by
  have hkept : Kept uses Latched := by
    constructor
    · exact fun _ _ h => h.step
    · exact fun _ _ h => ⟨h.sound.takeOutput, h.last, h.kept⟩
    · exact fun _ _ text _ h => ⟨h.sound.deliver text, h.last, h.kept⟩
    · exact fun _ _ _ h => ⟨h.sound.stop, h.last, h.kept⟩
  exact hkept.after (latched_ofText text)

theorem finished_iff (h : Latched log s) {status : Status} :
    s.finished = some status ↔ status.continues = false ∧ ∃ u ∈ log, u.step.1 = status := by
  constructor
  · intro hfinished
    obtain ⟨hends, u, hu, hstatus⟩ := (h.last status).mp hfinished
    exact ⟨hends, u, List.mem_of_getLast? hu, hstatus⟩
  · rintro ⟨hends, u, hu, rfl⟩
    exact h.kept u hu hends

end Latched

/-! ### Printed values -/

/-- The next step executes an output instruction, and this is the value of its cell. -/
def Prints (s : Stepper) (text : String) : Prop :=
  ∃ line n value, s.Executes line ∧ Machine.Performs line .output n ∧
    s.machine.cell? n = some value ∧ text = Text.decimal32 value

theorem Sound.step_of_prints {text : String} (h : s.Sound) (hprints : s.Prints text) :
    s.step = (.output, { s with
      machine := { s.machine with pc := s.machine.pc + 1, mailbox := {} }, printed := some text }) := by
  obtain ⟨line, n, value, hline, hperforms, hcell, rfl⟩ := hprints
  have hopen : s.machine.mailbox.closed = false := h.agrees.trans hline.unmarked
  obtain ⟨memory, hmemory, hvalue⟩ := Option.bind_eq_some_iff.mp hcell
  have hvisit := Machine.withCell_eq hmemory hvalue fun _ value => .done .output
    { s.machine with mailbox := s.machine.mailbox.write (Text.decimal32 value) }.advance
  have hrun : s.machine.run? line = some (.output,
      { s.machine with mailbox := s.machine.mailbox.write (Text.decimal32 value) }.advance) := by
    rw [Machine.run?, Machine.visitLine_of_performs hperforms, Machine.visit, Machine.visitOutput, hvisit]
    rfl
  have hstep : s.step? = some s.step := s.step?_eq_step
  rw [hline.step?, execute?, hrun] at hstep
  simp only [Option.bind_some, settle, Machine.requestOutput?, Machine.advance,
    Mailbox.read?_write _ hopen, Option.map_some, Option.some.injEq] at hstep
  exact hstep.symm

theorem Prints.unique {text text' : String} (hprints : s.Prints text) (h : s.Sound)
    (hprints' : s.Prints text') : text = text' := by
  have hstep := (h.step_of_prints hprints).symm.trans (h.step_of_prints hprints')
  exact Option.some.inj (congrArg (fun r => r.2.printed) hstep)

theorem Sound.printed_of_silent (h : s.Sound) (hsilent : ∀ text, ¬ s.Prints text) :
    s.step.2.printed = s.printed := by
  obtain hidles | ⟨line, hline, hends⟩ := h.step_cases
  · generalize s.step = r at hidles
    cases hidles <;> rfl
  · generalize s.step = r at hends
    cases hends with
    | printed hperforms hcell =>
      obtain ⟨value, hvalue⟩ := Option.isSome_iff_exists.mp (Machine.cell?_isSome hcell)
      exact absurd ⟨line, _, value, hline, hperforms, hvalue, rfl⟩ (hsilent _)
    | silent | asked | stored | refused | failed | halted => rfl

/-- What the printed value depends on. -/
inductive Moment where
  | step (of : Stepper)
  | take

namespace Moment

/-- An output instruction of this value is executed. -/
def Prints (text : String) : Moment → Prop
  | .step u => u.Prints text
  | .take => False

/-- Nothing is printed, and nothing is taken. -/
def Quiet : Moment → Prop
  | .step u => ∀ text, ¬ u.Prints text
  | .take => False

end Moment

def Use.moments (s : Stepper) : Use → List Moment
  | .takeOutput => [.take]
  | use => (use.steps s).map .step

def history (s : Stepper) : List Use → List Moment
  | [] => []
  | use :: uses => use.moments s ++ (use.apply s).history uses

/-- The value has been printed, and since then nobody has asked for it and no other one has been
printed. -/
def Untaken (text : String) (log : List Moment) : Prop := Since (·.Prints text) Moment.Quiet log

/-- The stepper holds what has been printed last, until it is taken. -/
structure Holds (log : List Moment) (s : Stepper) : Prop where
  sound : s.Sound
  printed : ∀ text, s.printed = some text ↔ Untaken text log

namespace Holds

variable {log : List Moment}

theorem step (h : Holds log s) : Holds (log ++ [.step s]) s.step.2 := by
  refine ⟨h.sound.step, fun text => ?_⟩
  rw [Untaken, since_concat]
  by_cases hprints : ∃ value, s.Prints value
  · obtain ⟨value, hvalue⟩ := hprints
    -- whatever has been held until now is lost
    rw [h.sound.step_of_prints hvalue]
    constructor
    · rintro ⟨⟩
      exact .inl hvalue
    · rintro (htext | ⟨hquiet, -⟩)
      · exact congrArg some (hvalue.unique h.sound htext)
      · exact absurd hvalue (hquiet value)
  · have hsilent : ∀ value, ¬ s.Prints value := fun value hvalue => hprints ⟨value, hvalue⟩
    rw [h.sound.printed_of_silent hsilent, h.printed text]
    constructor
    · exact fun huntaken => .inr ⟨hsilent, huntaken⟩
    · rintro (htext | ⟨-, huntaken⟩)
      · exact absurd htext (hsilent text)
      · exact huntaken

theorem take (h : Holds log s) : Holds (log ++ [.take]) s.takeOutput.2 := by
  refine ⟨h.sound.takeOutput, fun text => ?_⟩
  rw [Untaken, since_concat]
  refine iff_of_false nofun ?_
  rintro (hprints | ⟨hquiet, -⟩)
  · exact hprints
  · exact hquiet

theorem untilEvent (h : Holds log s) (limit : Nat) :
    Holds (log ++ (s.untilEvent limit).map .step) (s.stepUntilEvent limit).2 := by
  induction limit generalizing log s with
  | zero => simpa [Stepper.untilEvent, stepUntilEvent] using h
  | succ limit ih =>
    rw [stepUntilEvent_succ, Stepper.untilEvent]
    split
    · simpa using ih h.step
    · exact h.step

theorem use (h : Holds log s) (use : Use) : Holds (log ++ use.moments s) (use.apply s) := by
  cases use with
  | step => exact h.step
  | stepUntilEvent limit => exact h.untilEvent limit
  | takeOutput => exact h.take
  | deliver text =>
    have hlog : log ++ Use.moments s (.deliver text) = log := List.append_nil log
    rw [hlog]
    exact ⟨h.sound.deliver text, h.printed⟩
  | stop =>
    have hlog : log ++ Use.moments s .stop = log := List.append_nil log
    rw [hlog]
    exact ⟨h.sound.stop, h.printed⟩

theorem uses (h : Holds log s) (uses : List Use) :
    Holds (log ++ s.history uses) (s.after uses) := by
  induction uses generalizing log s with
  | nil => simpa [history, Stepper.after] using h
  | cons use uses ih => simpa [history, Stepper.after] using ih (h.use use)

theorem after_uses (text : String) (uses : List Use) :
    Holds ((ofText text).history uses) ((ofText text).after uses) := by
  have hstart : Holds [] (ofText text) :=
    ⟨sound_ofText text, fun _ => iff_of_false nofun not_since_nil⟩
  simpa using hstart.uses uses

end Holds

end Stepper

/-! ### Pages -/

namespace Page

/-- What the page can do with its stepper. -/
inductive Call where
  | step
  | takeOutput
  | deliver (text : String)
  | stop
  deriving DecidableEq, Repr

namespace Call

def apply (p : Page) : Call → Page
  | .step => p.step.2
  | .takeOutput => p.takeOutput.2
  | .deliver text => p.deliver text
  | .stop => p.stop

def use : Call → Stepper.Use
  | .step => .step
  | .takeOutput => .takeOutput
  | .deliver text => .deliver text
  | .stop => .stop

end Call

def after (p : Page) : List Call → Page
  | [] => p
  | call :: calls => (call.apply p).after calls

/-- What the steps among the calls return, in their order. -/
def answers (p : Page) : List Call → List Status
  | [] => []
  | .step :: calls => p.step.1 :: p.step.2.answers calls
  | call :: calls => (call.apply p).answers calls

theorem stepper_apply (p : Page) (call : Call) :
    (call.apply p).stepper = call.use.apply p.stepper := by
  cases call <;> rfl

theorem stepper_after (p : Page) (calls : List Call) :
    (p.after calls).stepper = p.stepper.after (calls.map Call.use) := by
  induction calls generalizing p with
  | nil => rfl
  | cons call calls ih =>
    rw [after, ih, stepper_apply]
    rfl

theorem answers_eq (p : Page) (calls : List Call) :
    p.answers calls = (p.stepper.stepsOf (calls.map Call.use)).map (·.step.1) := by
  induction calls generalizing p with
  | nil => rfl
  | cons call calls ih =>
    cases call with
    | step => exact congrArg (p.step.1 :: ·) (ih p.step.2)
    | takeOutput => exact ih p.takeOutput.2
    | deliver text => exact ih (p.deliver text)
    | stop => exact ih p.stop

theorem isFinished_iff (text : String) (calls : List Call) :
    ((ofText text).after calls).isFinished = true ↔
      ∃ status, ((ofText text).answers calls).getLast? = some status ∧ status.continues = false := by
  have hlatched := Stepper.Latched.after_uses text (calls.map Call.use)
  rw [isFinished, stepper_after, answers_eq, List.getLast?_map, Option.isSome_iff_exists]
  constructor
  · rintro ⟨status, hfinished⟩
    obtain ⟨hends, u, hu, hstatus⟩ := (hlatched.last status).mp hfinished
    exact ⟨status, Option.map_eq_some_iff.mpr ⟨u, hu, hstatus⟩, hends⟩
  · rintro ⟨status, hlast, hends⟩
    obtain ⟨u, hu, hstatus⟩ := Option.map_eq_some_iff.mp hlast
    exact ⟨status, (hlatched.last status).mpr ⟨hends, u, hu, hstatus⟩⟩

end Page

namespace Stepper

/-- However a stepper is used: after a step that returned a status which does not continue, all steps
return it and the registers stay as they are; the first step after a stop fails and changes no
register; a stepper has finished exactly when such a status was returned. What has been printed is
given to the first who asks for it before another value is printed, and to nobody else. A page uses
a stepper like any other owner and tells from its last step whether it has finished. -/
theorem lifecycle (text : String) (uses : List Use) :
    let s := (ofText text).after uses
    (s.step.1.continues = false → ∀ later,
      (∀ u ∈ s.step.2.stepsOf later, u.step.1 = s.step.1) ∧
      (s.step.2.after later).machine.pc = s.step.2.machine.pc ∧
      (s.step.2.after later).machine.memory = s.step.2.machine.memory) ∧
    (.stop ∈ uses → s.finished = none →
      s.step.1 = .stopped ∧ s.step.2.machine.pc = s.machine.pc ∧
        s.step.2.machine.memory = s.machine.memory) ∧
    (∀ status, s.finished = some status ↔
      status.continues = false ∧ ∃ u ∈ (ofText text).stepsOf uses, u.step.1 = status) ∧
    (∀ value, s.takeOutput.1 = some value ↔ Untaken value ((ofText text).history uses)) ∧
    (∀ calls : List Page.Call,
      ((Page.ofText text).after calls).stepper = (ofText text).after (calls.map Page.Call.use) ∧
      (((Page.ofText text).after calls).isFinished = true ↔
        ∃ status, ((Page.ofText text).answers calls).getLast? = some status ∧
          status.continues = false)) := by
  intro s
  have hlatched : Latched ((ofText text).stepsOf uses) s := Latched.after_uses text uses
  have hholds : Holds ((ofText text).history uses) s := Holds.after_uses text uses
  refine ⟨fun hends later => ?_, fun hstop hrunning => ?_, fun _ => hlatched.finished_iff,
    hholds.printed, fun calls => ?_⟩
  · have hover := (hlatched.sound.over_of_step hends).uses later
    refine ⟨fun u hu => ?_, hover.2.pc, hover.2.memory⟩
    rw [step_of_finished (hover.1 u hu).finished]
  · rw [step_of_marked hrunning (marked_of_stop hstop (ofText text))]
    exact ⟨rfl, rfl, rfl⟩
  · exact ⟨(Page.ofText text).stepper_after calls, Page.isFinished_iff text calls⟩

/-- A value is printed, taken once and not again, and then the stepper ends. -/
theorem lifecycle_halting :
    let start := ofText "SET 1\nOUT 1\nHLT 0"
    let s := start.after [.step, .step, .takeOutput]
    Untaken "0" (start.history [.step, .step]) ∧
    (∀ value, ¬ Untaken value (start.history [.step, .step, .takeOutput])) ∧
    s.step.1 = .succeeded ∧ ∀ later, ∀ u ∈ s.step.2.stepsOf later, u.step.1 = .succeeded := by
  intro start s
  obtain ⟨-, -, -, hprinted, -⟩ := lifecycle "SET 1\nOUT 1\nHLT 0" [.step, .step]
  obtain ⟨hlatch, -, -, htaken, -⟩ := lifecycle "SET 1\nOUT 1\nHLT 0" [.step, .step, .takeOutput]
  have hheld : (start.after [.step, .step]).takeOutput.1 = some "0" := by decide +kernel
  have hnone : s.takeOutput.1 = none := by decide +kernel
  have hends : s.step.1 = .succeeded := by decide +kernel
  have hcontinues : s.step.1.continues = false := by rw [hends]; rfl
  refine ⟨(hprinted "0").mp hheld, fun value huntaken => ?_, hends, fun later u hu => ?_⟩
  · cases hnone.symm.trans ((htaken value).mpr huntaken)
  · exact ((hlatch hcontinues later).1 u hu).trans hends

end Stepper

end AccumulatorMachine
