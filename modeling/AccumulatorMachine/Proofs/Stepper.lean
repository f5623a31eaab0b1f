import AccumulatorMachine.Proofs.Machine.Visit
import AccumulatorMachine.Stepper

/-! A stepper and its owner, who makes any number of calls in any order. -/
namespace AccumulatorMachine.Stepper

/-- What the owner of a stepper can do with it. -/
inductive Use where
  | step
  | stepUntilEvent (limit : Nat)
  | takeOutput
  | deliver (text : String)
  | stop
  deriving DecidableEq, Repr

/-- The steppers of which `stepUntilEvent` makes a step. -/
def untilEvent : Nat → Stepper → List Stepper
  | 0, _ => []
  | limit + 1, s => s :: if s.step.1 = .ok then untilEvent limit s.step.2 else []

namespace Use

def apply (s : Stepper) : Use → Stepper
  | .step => s.step.2
  | .stepUntilEvent limit => (s.stepUntilEvent limit).2
  | .takeOutput => s.takeOutput.2
  | .deliver text => s.deliver text
  | .stop => s.stop

/-- The steppers of which a use makes a step, in their order. -/
def steps (s : Stepper) : Use → List Stepper
  | .step => [s]
  | .stepUntilEvent limit => s.untilEvent limit
  | _ => []

end Use

/-- The stepper that a sequence of uses leaves. -/
def after (s : Stepper) : List Use → Stepper
  | [] => s
  | use :: uses => (use.apply s).after uses

/-- The steppers of which a sequence of uses makes a step, in their order. -/
def stepsOf (s : Stepper) : List Use → List Stepper
  | [] => []
  | use :: uses => use.steps s ++ (use.apply s).stepsOf uses

theorem stepUntilEvent_succ (limit : Nat) (s : Stepper) :
    s.stepUntilEvent (limit + 1) =
      if s.step.1 = .ok then s.step.2.stepUntilEvent limit else s.step := by
  rw [stepUntilEvent]
  split
  · next hstep => simp [hstep]
  · next hnot =>
    rw [if_neg]
    intro hok
    exact hnot s.step.2 (Prod.ext hok rfl)

/-! ### What every use keeps -/

/-- The uses keep a property of the steps made so far and of the stepper. -/
structure Kept (uses : List Use) (P : List Stepper → Stepper → Prop) : Prop where
  step : ∀ log s, P log s → P (log ++ [s]) s.step.2
  takeOutput : ∀ log s, P log s → P log s.takeOutput.2
  deliver : ∀ log s text, .deliver text ∈ uses → P log s → P log (s.deliver text)
  stop : ∀ log s, .stop ∈ uses → P log s → P log s.stop

namespace Kept

variable {uses : List Use} {P : List Stepper → Stepper → Prop} {log : List Stepper} {s : Stepper}

theorem untilEvent (h : Kept uses P) (limit : Nat) (hs : P log s) :
    P (log ++ s.untilEvent limit) (s.stepUntilEvent limit).2 := by
  induction limit generalizing log s with
  | zero => simpa [Stepper.untilEvent, stepUntilEvent] using hs
  | succ limit ih =>
    have hstep : P (log ++ [s]) s.step.2 := h.step log s hs
    rw [stepUntilEvent_succ, Stepper.untilEvent]
    split
    · simpa using ih hstep
    · exact hstep

theorem use (h : Kept uses P) {use : Use} (hmem : use ∈ uses) (hs : P log s) :
    P (log ++ use.steps s) (use.apply s) := by
  cases use with
  | step => exact h.step log s hs
  | stepUntilEvent limit => exact h.untilEvent limit hs
  | takeOutput => simpa [Use.steps, Use.apply] using h.takeOutput log s hs
  | deliver text => simpa [Use.steps, Use.apply] using h.deliver log s text hmem hs
  | stop => simpa [Use.steps, Use.apply] using h.stop log s hmem hs

theorem sequence (h : Kept uses P) {later : List Use} (hsub : later ⊆ uses) (hs : P log s) :
    P (log ++ s.stepsOf later) (s.after later) := by
  induction later generalizing log s with
  | nil => simpa [stepsOf, Stepper.after] using hs
  | cons use later ih =>
    obtain ⟨hmem, hlater⟩ := List.cons_subset.mp hsub
    have huse := h.use hmem hs
    simpa [stepsOf, Stepper.after] using ih hlater huse

/-- What holds of a stepper before any use holds after the uses. -/
theorem after (h : Kept uses P) (hs : P [] s) : P (s.stepsOf uses) (s.after uses) := by
  simpa using h.sequence (List.Subset.refl uses) hs

end Kept

/-- What no use changes holds of all the steppers of which a step is made, and at the end. -/
theorem invariant {uses : List Use} {I : Stepper → Prop} {s : Stepper}
    (hstep : ∀ s, I s → I s.step.2) (htake : ∀ s, I s → I s.takeOutput.2)
    (hdeliver : ∀ s text, .deliver text ∈ uses → I s → I (s.deliver text))
    (hstop : ∀ s, .stop ∈ uses → I s → I s.stop) (hs : I s) :
    (∀ u ∈ s.stepsOf uses, I u) ∧ I (s.after uses) := by
  have hkept : Kept uses fun log s => (∀ u ∈ log, I u) ∧ I s := by
    constructor
    · intro log s hp
      refine ⟨fun u hu => ?_, hstep s hp.2⟩
      rw [List.mem_append, List.mem_singleton] at hu
      obtain hu | rfl := hu
      · exact hp.1 u hu
      · exact hp.2
    · exact fun log s hp => ⟨hp.1, htake s hp.2⟩
    · exact fun log s text hmem hp => ⟨hp.1, hdeliver s text hmem hp.2⟩
    · exact fun log s hmem hp => ⟨hp.1, hstop s hmem hp.2⟩
  exact hkept.after ⟨fun _ hu => absurd hu List.not_mem_nil, hs⟩

/-! ### Steps -/

/-- The next step executes a line. -/
structure Executes (s : Stepper) (line : String) : Prop where
  running : s.finished = none
  unmarked : s.machine.interrupted = false
  answered : s.machine.awaiting = true → s.machine.mailbox.value.isSome = true
  line : s.program.lineAt? s.machine.pc = some line

/-- The user has been asked for an input and has delivered none, while the stepper is neither finished
nor stopped. -/
structure Waits (s : Stepper) : Prop where
  running : s.finished = none
  unmarked : s.machine.interrupted = false
  awaiting : s.machine.awaiting = true
  empty : s.machine.mailbox.value = none

/-- What a step comes to that executes no line. -/
inductive Idles (s : Stepper) : Status × Stepper → Prop
  | ended {status : Status} (h : s.finished = some status) : Idles s (status, s)
  | stopped (hrunning : s.finished = none) (hmark : s.machine.interrupted = true) :
      Idles s (s.finish .stopped)
  | waits (h : s.Waits) : Idles s (.input, s)
  | outside (h : s.program.lineAt? s.machine.pc = none) : Idles s (.ok, s)

theorem Waits.step? {s : Stepper} (h : s.Waits) : s.step? = some (.input, s) := by
  simp [Stepper.step?, Machine.hasPending, Mailbox.isEmpty, h.running, h.unmarked, h.awaiting, h.empty]

theorem Executes.step? {s : Stepper} {line : String} (h : s.Executes line) :
    s.step? = s.execute? line := by
  have hguard : (s.machine.awaiting && !s.machine.hasPending) = false := by
    cases ha : s.machine.awaiting with
    | false => rfl
    | true =>
      obtain ⟨text, ht⟩ := Option.isSome_iff_exists.mp (h.answered ha)
      simp [Machine.hasPending, Mailbox.isEmpty, ht]
  simp [Stepper.step?, h.running, h.unmarked, hguard, h.line]

theorem executes_or_idles (s : Stepper) :
    (∃ line, s.Executes line) ∨ ∃ r, s.step? = some r ∧ s.Idles r := by
  unfold step?
  split
  · next hfinished => exact .inr ⟨_, rfl, .ended hfinished⟩
  · next hrunning =>
    split
    · next hmark => exact .inr ⟨_, rfl, .stopped hrunning hmark⟩
    · next hmark =>
      have hunmarked : s.machine.interrupted = false := by simpa using hmark
      split
      · next hguard =>
        simp only [Machine.hasPending, Mailbox.isEmpty, Bool.not_not, Bool.and_eq_true,
          Option.isNone_iff_eq_none] at hguard
        exact .inr ⟨_, rfl, .waits ⟨hrunning, hunmarked, hguard.1, hguard.2⟩⟩
      · next hguard =>
        split
        · next hline => exact .inr ⟨_, rfl, .outside hline⟩
        · next line hline =>
          refine .inl ⟨line, hrunning, hunmarked, fun hawaiting => ?_, hline⟩
          simpa [Machine.hasPending, Mailbox.isEmpty, hawaiting, Option.isSome_iff_ne_none] using hguard

/-! ### Access to the mailbox -/

/-- A step reads the mailbox of this machine: an input instruction takes a value, or the value is
fetched that an output instruction has printed. -/
inductive Reads (s : Stepper) : Machine → Prop
  | take {line : String} {address : Int32} (hline : s.Executes line)
      (h : s.machine.visitLine line = .taking address) : Reads s s.machine
  | fetch {line : String} {m : Machine} (hline : s.Executes line)
      (h : s.machine.run? line = some (.output, m)) : Reads s m

/-- A step waits where it reads an open mailbox without a value, and nowhere else. -/
theorem step?_eq_none_iff {s : Stepper} :
    s.step? = none ↔ ∃ m, s.Reads m ∧ m.mailbox.closed = false ∧ m.mailbox.value = none := by
  constructor
  · intro hnone
    obtain ⟨line, hline⟩ | ⟨r, hr, -⟩ := s.executes_or_idles
    · rw [hline.step?, execute?, Option.bind_eq_none_iff] at hnone
      cases hrun : s.machine.run? line with
      | none =>
        rw [Machine.run?] at hrun
        cases hvisit : s.machine.visitLine line with
        | done status m =>
          rw [hvisit] at hrun
          cases hrun
        | taking address =>
          rw [hvisit, Machine.finish?, Machine.takeInput?_eq_none_iff] at hrun
          exact ⟨s.machine, .take hline hvisit, hrun⟩
      | some r =>
        obtain ⟨status, m⟩ := r
        have hsettle := hnone (status, m) hrun
        cases status with
        | output =>
          simp only [settle, Option.map_eq_none_iff, Machine.requestOutput?_eq_none_iff] at hsettle
          exact ⟨m, .fetch hline hrun, hsettle⟩
        | _ => cases hsettle
    · rw [hr] at hnone
      cases hnone
  · rintro ⟨m, hreads, hempty⟩
    cases hreads with
    | @take line address hline hvisit =>
      have htake : s.machine.takeInput? address = none :=
        (Machine.takeInput?_eq_none_iff _ _).mpr hempty
      rw [hline.step?, execute?, Machine.run?, hvisit, Machine.finish?, htake]
      rfl
    | @fetch line _ hline hrun =>
      have hfetch : m.requestOutput? = none := (Machine.requestOutput?_eq_none_iff _).mpr hempty
      rw [hline.step?, execute?, hrun]
      simp [settle, hfetch]

/-- An input instruction takes a value only if there is one, and a printed value is in the mailbox. -/
theorem Reads.ready {s : Stepper} {m : Machine} (h : s.Reads m) : m.mailbox.value.isSome = true := by
  cases h with
  | take hline hvisit =>
    have hvisits := s.machine.visits_visitLine ‹_›
    rw [hvisit] at hvisits
    cases hvisits with
    -- once it has asked, the instruction is not executed before the answer is there
    | take _ hvalue => exact hvalue.elim id hline.answered
  | @fetch line m hline hrun =>
    have hvisits := s.machine.visits_visitLine line
    rw [Machine.run?] at hrun
    cases hvisit : s.machine.visitLine line with
    | done status n =>
      rw [hvisit] at hrun hvisits
      cases hrun
      cases hvisits with
      | print => rfl
    | taking address =>
      rw [hvisit] at hrun
      nomatch Machine.takes_takeInput? hrun

theorem step?_eq_step (s : Stepper) : s.step? = some s.step := by
  cases hstep : s.step? with
  | some r => simp [step, hstep]
  | none =>
    obtain ⟨m, hreads, -, hnone⟩ := step?_eq_none_iff.mp hstep
    have hready := hreads.ready
    rw [hnone] at hready
    cases hready

theorem step_eq_of_step? {s : Stepper} {r : Status × Stepper} (h : s.step? = some r) : s.step = r :=
  Option.some.inj (s.step?_eq_step.symm.trans h)

theorem idles_or_executes (s : Stepper) : s.Idles s.step ∨ ∃ line, s.Executes line := by
  obtain hline | ⟨r, hr, hidles⟩ := s.executes_or_idles
  · exact .inr hline
  · obtain rfl := step_eq_of_step? hr
    exact .inl hidles

/-- The line is executed on the machine, and what comes of it is settled. -/
theorem Executes.run? {s : Stepper} {line : String} (h : s.Executes line) :
    ∃ status m, s.machine.run? line = some (status, m) ∧
      { s with machine := m }.settle status = some s.step := by
  have hexecute : s.execute? line = some s.step := h.step?.symm.trans s.step?_eq_step
  rw [execute?, Option.bind_eq_some_iff] at hexecute
  obtain ⟨⟨status, m⟩, hrun, hsettle⟩ := hexecute
  exact ⟨status, m, hrun, hsettle⟩

/-- Settling a status leaves everything but the mailbox and the printed value to the line. -/
structure Settles (s : Stepper) (status : Status) (r : Status × Stepper) : Prop where
  answer : r.1 = status
  program : r.2.program = s.program
  pc : r.2.machine.pc = s.machine.pc
  memory : r.2.machine.memory = s.machine.memory
  awaiting : r.2.machine.awaiting = s.machine.awaiting
  finished : r.2.finished = if status.continues then s.finished else some status

theorem settles_of_settle {s : Stepper} {status : Status} {r : Status × Stepper}
    (h : s.settle status = some r) : s.Settles status r := by
  cases status with
  | output =>
    simp only [settle, Option.map_eq_some_iff] at h
    obtain ⟨⟨text, m⟩, hfetch, rfl⟩ := h
    obtain ⟨-, -, rfl⟩ | ⟨_, -, -, -, rfl⟩ := Machine.requestOutput?_cases hfetch <;>
      exact ⟨rfl, rfl, rfl, rfl, rfl, rfl⟩
  | ok | input | failed | succeeded | stopped =>
    cases h
    exact ⟨rfl, rfl, rfl, rfl, rfl, rfl⟩

/-! ### Ends of a step -/

/-- What the execution of a line comes to while the mailbox is open. -/
inductive Ends (s : Stepper) (line : String) : Status × Stepper → Prop
  | silent (pc : Int) (memory : Option Memory) :
      Ends s line (.ok, { s with machine := { s.machine with pc, memory } })
  | printed {n : Int32} (hline : Machine.Performs line .output n) (hcell : s.machine.HasCell n)
      (text : String) :
      Ends s line (.output, { s with
        machine := { s.machine with pc := s.machine.pc + 1, mailbox := {} }, printed := some text })
  | asked {n : Int32} (hline : Machine.Performs line .input n) (hcell : s.machine.HasCell n)
      (hempty : s.machine.mailbox.value = none) :
      Ends s line (.input, { s with machine := { s.machine with awaiting := true } })
  | stored {n : Int32} (hline : Machine.Performs line .input n) (hcell : s.machine.HasCell n)
      (memory : Memory) :
      Ends s line (.ok, { s with machine := { s.machine with
        pc := s.machine.pc + 1, memory := some memory, mailbox := {}, awaiting := false } })
  | refused {n : Int32} (hline : Machine.Performs line .input n) (hcell : s.machine.HasCell n)
      (cause : Failure) :
      Ends s line ({ s with machine := { s.machine with mailbox := {} } }.finish (.failed cause))
  | failed (cause : Failure) : Ends s line (s.finish (.failed cause))
  | halted : Ends s line (s.finish .succeeded)

theorem ends_of_done {s : Stepper} {line : String} {status : Status} {m : Machine}
    {r : Status × Stepper} (hopen : s.machine.mailbox.closed = false)
    (hdoes : s.machine.LineDoes line (.done status m))
    (hsettle : { s with machine := m }.settle status = some r) : s.Ends line r := by
  cases hdoes with
  | unreadable =>
    cases hsettle
    exact .failed .unreadableLine
  | unknown =>
    cases hsettle
    exact .failed .unknownCommand
  | performs hline hdoes =>
    cases hdoes with
    | silent pc memory =>
      cases hsettle
      exact .silent pc memory
    | print hop hcell text =>
      obtain rfl := hop
      simp only [settle, Machine.requestOutput?, Mailbox.read?_write text hopen] at hsettle
      cases hsettle
      exact .printed hline hcell text
    | ask hop hcell hempty _ =>
      obtain rfl := hop
      cases hsettle
      exact .asked hline hcell hempty
    | @fail cause _ =>
      cases hsettle
      exact .failed cause
    | halt =>
      cases hsettle
      exact .halted

theorem ends_of_taking {s : Stepper} {line : String} {address : Int32} {status : Status} {m : Machine}
    {r : Status × Stepper} (hopen : s.machine.mailbox.closed = false)
    (hdoes : s.machine.LineDoes line (.taking address))
    (htake : s.machine.takeInput? address = some (status, m))
    (hsettle : { s with machine := m }.settle status = some r) : s.Ends line r := by
  cases hdoes with
  | performs hline hdoes =>
    cases hdoes with
    | take hop hcell _ =>
      obtain rfl := hop
      cases Machine.takes_takeInput? htake with
      | closed hclosed => exact absurd (hopen.symm.trans hclosed) Bool.false_ne_true
      | stored _ _ memory =>
        cases hsettle
        exact .stored hline hcell memory
      | refused _ _ cause =>
        cases hsettle
        exact .refused hline hcell cause

theorem ends_of_execute? {s : Stepper} {line : String} {r : Status × Stepper}
    (hopen : s.machine.mailbox.closed = false) (h : s.execute? line = some r) : s.Ends line r := by
  rw [execute?, Option.bind_eq_some_iff] at h
  obtain ⟨⟨status, m⟩, hrun, hsettle⟩ := h
  have hdoes := s.machine.does_visitLine line
  rw [Machine.run?] at hrun
  cases hvisit : s.machine.visitLine line with
  | done status' m' =>
    rw [hvisit] at hrun hdoes
    cases hrun
    exact ends_of_done hopen hdoes hsettle
  | taking address =>
    rw [hvisit] at hrun hdoes
    exact ends_of_taking hopen hdoes hrun hsettle

/-! ### Steppers in use -/

/-- What no use of a stepper changes. -/
structure Sound (s : Stepper) : Prop where
  /-- A stop marks the machine and closes the mailbox at once. -/
  agrees : s.machine.mailbox.closed = s.machine.interrupted
  final : ∀ status, s.finished = some status → status.continues = false

theorem sound_ofText (text : String) : (ofText text).Sound := ⟨rfl, nofun⟩

theorem Sound.step_cases {s : Stepper} (h : s.Sound) :
    s.Idles s.step ∨ ∃ line, s.Executes line ∧ s.Ends line s.step := by
  obtain hidles | ⟨line, hline⟩ := s.idles_or_executes
  · exact .inl hidles
  · have hopen : s.machine.mailbox.closed = false := h.agrees.trans hline.unmarked
    have hexecute : s.execute? line = some s.step := hline.step?.symm.trans s.step?_eq_step
    exact .inr ⟨line, hline, ends_of_execute? hopen hexecute⟩

theorem Sound.step {s : Stepper} (h : s.Sound) : s.step.2.Sound := by
  obtain hidles | ⟨line, hline, hends⟩ := h.step_cases
  · generalize s.step = r at hidles
    cases hidles with
    | stopped => exact ⟨h.agrees, by rintro _ ⟨⟩; rfl⟩
    | ended | waits | outside => exact h
  · have hopen : false = s.machine.interrupted := hline.unmarked.symm
    generalize s.step = r at hends
    cases hends with
    | silent | asked => exact ⟨h.agrees, h.final⟩
    | printed | stored => exact ⟨hopen, h.final⟩
    | refused => exact ⟨hopen, by rintro _ ⟨⟩; rfl⟩
    | failed | halted => exact ⟨h.agrees, by rintro _ ⟨⟩; rfl⟩

theorem Sound.takeOutput {s : Stepper} (h : s.Sound) : s.takeOutput.2.Sound := ⟨h.agrees, h.final⟩

theorem Sound.deliver {s : Stepper} (h : s.Sound) (text : String) : (s.deliver text).Sound :=
  ⟨h.agrees, h.final⟩

theorem Sound.stop {s : Stepper} (h : s.Sound) : s.stop.Sound := ⟨rfl, h.final⟩

theorem sound_of_uses {s : Stepper} (h : s.Sound) (uses : List Use) :
    (∀ u ∈ s.stepsOf uses, u.Sound) ∧ (s.after uses).Sound :=
  invariant (fun _ hs => hs.step) (fun _ hs => hs.takeOutput) (fun _ text _ hs => hs.deliver text)
    (fun _ _ hs => hs.stop) h

end AccumulatorMachine.Stepper
