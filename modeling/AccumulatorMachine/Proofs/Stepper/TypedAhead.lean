import AccumulatorMachine.Proofs.Stepper

/-! Inputs that are delivered before the program asks for them. They wait in the mailbox through which
printed values go out, so a value that is printed meanwhile takes their place. -/
namespace AccumulatorMachine.Stepper

/-- The next step executes an instruction of this operation, and its cell exists. -/
def Performs (s : Stepper) (op : Opcode) : Prop :=
  ∃ line n, s.Executes line ∧ Machine.Performs line op n ∧ s.machine.HasCell n

/-- A line performs one operation. -/
theorem not_performs {s : Stepper} {line : String} {op op' : Opcode} {n : Int32}
    (hline : s.program.lineAt? s.machine.pc = some line) (h : Machine.Performs line op n)
    (hne : op ≠ op') : ¬ s.Performs op' := by
  rintro ⟨line', n', hexecutes, hperforms, -⟩
  obtain rfl : line = line' := Option.some.inj (hline.symm.trans hexecutes.line)
  exact hne (h.unique hperforms).1

/-! ### The mailbox during a step -/

theorem Sound.mailbox_of_output {s : Stepper} (h : s.Sound) (hout : s.Performs .output) :
    s.step.2.machine.mailbox = {} := by
  obtain ⟨line, n, hline, hperforms, hcell⟩ := hout
  have hopen : s.machine.mailbox.closed = false := h.agrees.trans hline.unmarked
  obtain ⟨_, value, hvisit⟩ := Machine.withCell_of_hasCell hcell fun _ value => .done .output
    { s.machine with mailbox := s.machine.mailbox.write (Text.decimal32 value) }.advance
  have hrun : s.machine.run? line = some (.output,
      { s.machine with mailbox := s.machine.mailbox.write (Text.decimal32 value) }.advance) := by
    rw [Machine.run?, Machine.visitLine_of_performs hperforms, Machine.visit, Machine.visitOutput, hvisit]
    rfl
  have hstep : s.step? = some s.step := s.step?_eq_step
  rw [hline.step?, execute?, hrun] at hstep
  simp only [Option.bind_some, settle, Machine.requestOutput?, Machine.advance,
    Mailbox.read?_write _ hopen, Option.map_some, Option.some.injEq] at hstep
  rw [← hstep]

/-- Only an input and an output instruction touch the mailbox. -/
theorem Sound.mailbox_of_step {s : Stepper} (h : s.Sound) (hin : ¬ s.Performs .input)
    (hout : ¬ s.Performs .output) : s.step.2.machine.mailbox = s.machine.mailbox := by
  obtain hidles | ⟨line, hline, hends⟩ := h.step_cases
  · generalize s.step = r at hidles
    cases hidles <;> rfl
  · generalize s.step = r at hends
    cases hends with
    | printed hperforms hcell => exact absurd ⟨line, _, hline, hperforms, hcell⟩ hout
    | stored hperforms hcell | refused hperforms hcell =>
      exact absurd ⟨line, _, hline, hperforms, hcell⟩ hin
    | silent | asked | failed | halted => rfl

/-! ### What becomes of an input -/

/-- What has become of an input that was delivered before these steps. -/
inductive Fate (typed : String) (log : List Stepper) (s : Stepper) : Prop
  | reached (h : ∃ u ∈ log, u.Performs .input)
  | kept (hlog : ∀ u ∈ log, ¬ u.Performs .output) (h : s.machine.mailbox.value = some typed)
  | lost (hlog : ∃ u ∈ log, u.Performs .output) (h : s.machine.mailbox.value = none)

theorem Fate.step {typed : String} {log : List Stepper} {s : Stepper} (h : Fate typed log s)
    (hs : s.Sound) : Fate typed (log ++ [s]) s.step.2 := by
  by_cases hin : s.Performs .input
  · exact .reached ⟨s, by simp, hin⟩
  by_cases hout : s.Performs .output
  · refine .lost ⟨s, by simp, hout⟩ ?_
    rw [hs.mailbox_of_output hout]
  have hmailbox := hs.mailbox_of_step hin hout
  cases h with
  | reached hlog =>
    obtain ⟨u, hu, hperforms⟩ := hlog
    exact .reached ⟨u, List.mem_append_left _ hu, hperforms⟩
  | kept hlog hvalue =>
    refine .kept (fun u hu => ?_) ?_
    · rw [List.mem_append, List.mem_singleton] at hu
      obtain hu | rfl := hu
      · exact hlog u hu
      · exact hout
    · rw [hmailbox]
      exact hvalue
  | lost hlog hvalue =>
    obtain ⟨u, hu, hperforms⟩ := hlog
    refine .lost ⟨u, List.mem_append_left _ hu, hperforms⟩ ?_
    rw [hmailbox]
    exact hvalue

theorem Fate.congr {typed : String} {log : List Stepper} {s t : Stepper} (h : Fate typed log s)
    (heq : t.machine.mailbox.value = s.machine.mailbox.value) : Fate typed log t := by
  cases h with
  | reached hlog => exact .reached hlog
  | kept hlog hvalue => exact .kept hlog (heq.trans hvalue)
  | lost hlog hvalue => exact .lost hlog (heq.trans hvalue)

theorem fate_of_uses {s : Stepper} {typed : String} {uses : List Use} (hs : s.Sound)
    (hvalue : s.machine.mailbox.value = some typed) (hdeliver : ∀ other, .deliver other ∉ uses) :
    Fate typed (s.stepsOf uses) (s.after uses) := by
  have hkept : Kept uses fun log u => u.Sound ∧ Fate typed log u := by
    constructor
    · exact fun log u hu => ⟨hu.1.step, hu.2.step hu.1⟩
    · exact fun log u hu => ⟨⟨hu.1.agrees, hu.1.final⟩, hu.2.congr rfl⟩
    · exact fun _ _ other hmem _ => absurd hmem (hdeliver other)
    · exact fun log u _ hu => ⟨⟨rfl, hu.1.final⟩, hu.2.congr rfl⟩
  exact (hkept.after ⟨hs, .kept (fun _ hu => absurd hu List.not_mem_nil) hvalue⟩).2

/-! ### The next input instruction -/

/-- What a step comes to that stores this input in a cell. -/
def takeTyped (s : Stepper) (n : Int32) (typed : String) : Option (Status × Stepper) :=
  let (status, machine) := { s.machine with mailbox := {} }.storeInput n (some typed)
  { s with machine }.settle status

/-- What a step comes to that asks for an input. -/
def ask (s : Stepper) : Option (Status × Stepper) :=
  some (.input, { s with machine := { s.machine with awaiting := true } })

theorem step?_of_input {s : Stepper} {line : String} {n : Int32} (hline : s.Executes line)
    (hperforms : Machine.Performs line .input n) (hcell : s.machine.HasCell n) :
    s.step? = (s.machine.finish? (if s.machine.mailbox.isEmpty && !s.machine.awaiting
      then .done .input { s.machine with awaiting := true } else .taking n)).bind
        fun (status, machine) => { s with machine }.settle status := by
  rw [hline.step?, execute?, Machine.run?, Machine.visitLine_of_performs hperforms, Machine.visit,
    Machine.visitInput_of_hasCell hcell]

theorem step?_of_typed {s : Stepper} {line : String} {n : Int32} {typed : String}
    (hline : s.Executes line) (hperforms : Machine.Performs line .input n)
    (hcell : s.machine.HasCell n) (hopen : s.machine.mailbox.closed = false)
    (hvalue : s.machine.mailbox.value = some typed) : s.step? = s.takeTyped n typed := by
  have hread : s.machine.mailbox.read? = some (some typed, {}) := by
    simp [Mailbox.read?, hopen, hvalue]
  rw [step?_of_input hline hperforms hcell]
  simp [Mailbox.isEmpty, hvalue, Machine.finish?, Machine.takeInput?, hread, takeTyped]

theorem step?_of_empty {s : Stepper} {line : String} {n : Int32} (hline : s.Executes line)
    (hperforms : Machine.Performs line .input n) (hcell : s.machine.HasCell n)
    (hvalue : s.machine.mailbox.value = none) : s.step? = s.ask := by
  have hnew : s.machine.awaiting = false := by
    cases ha : s.machine.awaiting with
    | false => rfl
    | true =>
      have hanswered := hline.answered ha
      rw [hvalue] at hanswered
      cases hanswered
  rw [step?_of_input hline hperforms hcell]
  simp [Mailbox.isEmpty, hvalue, hnew, Machine.finish?, settle, ask]

/-- After these uses, among which there is no delivery, the next step executes an input instruction
for this cell, the first one since. -/
structure FirstInput (s : Stepper) (uses : List Use) (n : Int32) : Prop where
  alone : ∀ other, .deliver other ∉ uses
  first : ∀ u ∈ s.stepsOf uses, ¬ u.Performs .input
  input : ∃ line, (s.after uses).Executes line ∧ Machine.Performs line .input n
  cell : (s.after uses).machine.HasCell n

/-- An input that was delivered is what the next input instruction takes, unless an output instruction
comes before it. Then the input is lost, and the input instruction asks again. -/
theorem typed_ahead_unless_printed (text typed : String) (before between : List Use) {n : Int32}
    (h : (((ofText text).after before).deliver typed).FirstInput between n) :
    let s := ((ofText text).after before).deliver typed
    ((∀ u ∈ s.stepsOf between, ¬ u.Performs .output) →
      (s.after between).step? = (s.after between).takeTyped n typed) ∧
    ((∃ u ∈ s.stepsOf between, u.Performs .output) →
      (s.after between).step? = (s.after between).ask) := by
  intro s
  have hbefore : ((ofText text).after before).Sound := (sound_of_uses (sound_ofText text) before).2
  have hsound : s.Sound := ⟨hbefore.agrees, hbefore.final⟩
  have hafter : (s.after between).Sound := (sound_of_uses hsound between).2
  obtain ⟨line, hline, hperforms⟩ := h.input
  have hfate : Fate typed (s.stepsOf between) (s.after between) := fate_of_uses hsound rfl h.alone
  cases hfate with
  | reached hlog =>
    obtain ⟨u, hu, hin⟩ := hlog
    exact absurd hin (h.first u hu)
  | kept hlog hvalue =>
    refine ⟨fun _ => ?_, fun ⟨u, hu, hout⟩ => absurd hout (hlog u hu)⟩
    exact step?_of_typed hline hperforms h.cell (hafter.agrees.trans hline.unmarked) hvalue
  | lost hlog hvalue =>
    obtain ⟨u, hu, hout⟩ := hlog
    refine ⟨fun hsilent => absurd hout (hsilent u hu), fun _ => ?_⟩
    exact step?_of_empty hline hperforms h.cell hvalue

/-- A stepper that is about to print a value. -/
def printing : Stepper := (ofText "SET 1\nOUT 1\nINP 1").after [.step]

theorem printing_eq : printing =
    { program := ["SET 1", "OUT 1", "INP 1"], machine := { pc := 1, memory := some (.zeros 1) } } :=
  rfl

theorem printing_executes : (printing.deliver "5").Executes "OUT 1" := by
  rw [printing_eq]
  exact ⟨rfl, rfl, fun _ => rfl, rfl⟩

theorem performs_out : Machine.Performs "OUT 1" .output 1 := ⟨.written "out" 1, rfl, rfl, rfl⟩

theorem printing_performs : (printing.deliver "5").Performs .output := by
  refine ⟨"OUT 1", 1, printing_executes, performs_out, .zeros 1, ?_, ?_⟩
  · rw [printing_eq]
    rfl
  · decide

theorem after_printing : (printing.deliver "5").after [.step] =
    { program := ["SET 1", "OUT 1", "INP 1"], machine := { pc := 2, memory := some (.zeros 1) },
      printed := some "0" } := by
  rw [printing_eq]
  rfl

theorem firstInput_printing : (printing.deliver "5").FirstInput [.step] 1 where
  alone := by simp
  first := by
    simp only [stepsOf, Use.steps, List.append_nil, List.forall_mem_singleton]
    exact not_performs printing_executes.line performs_out (by decide)
  input := by
    rw [after_printing]
    exact ⟨"INP 1", ⟨rfl, rfl, fun h => absurd h Bool.false_ne_true, rfl⟩, .written "inp" 1, rfl, rfl, rfl⟩
  cell := by
    rw [after_printing]
    exact ⟨.zeros 1, rfl, by decide⟩

/-- With a value printed in between, the program asks for the input once more. -/
theorem typed_ahead_unless_printed_printing :
    ((printing.deliver "5").after [.step]).step? = ((printing.deliver "5").after [.step]).ask := by
  have hfirst : (printing.deliver "5").FirstInput [.step] 1 := firstInput_printing
  obtain ⟨-, hlost⟩ := typed_ahead_unless_printed "SET 1\nOUT 1\nINP 1" "5" [.step] [.step] hfirst
  exact hlost ⟨printing.deliver "5", List.mem_singleton_self _, printing_performs⟩

/-- An input that is delivered while nothing is pending can be lost to the program. -/
theorem typed_ahead_lost :
    ¬ ∀ (text typed : String) (before between : List Use) (n : Int32),
      let s := (ofText text).after before
      s.finished = none → s.machine.interrupted = false → s.machine.hasPending = false →
        (s.deliver typed).FirstInput between n →
          ((s.deliver typed).after between).step? =
            ((s.deliver typed).after between).takeTyped n typed := by
  intro hall
  have htaken := hall "SET 1\nOUT 1\nINP 1" "5" [.step] [.step] 1 rfl rfl rfl firstInput_printing
  have hstatus := congrArg (Option.map Prod.fst) htaken
  exact absurd hstatus (by decide +kernel)

end AccumulatorMachine.Stepper
