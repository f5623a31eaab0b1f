import AccumulatorMachine.Proofs.Driven
import AccumulatorMachine.Proofs.Machine.Visit

/-! A stepper in the hands of its user does what the interpreter does. The mailbox is empty between two
instructions, except between a question and the visit that takes the answer. -/
namespace AccumulatorMachine

namespace Interpreter

/-- What a visit of an idle machine has to do with the execution of the same line. -/
inductive Matches (s : Interpreter) (look : Machine → Visit) : Visit → Interpreter → Prop
  | silent (pc : Int) (memory : Option Memory) :
      Matches s look (.done .ok (.idle pc memory)) { s with pc, memory }
  | print (text : String) :
      Matches s look
        (.done .output (.printing (s.pc + 1) s.memory text))
        (s.tell (.printed text)).advance
  | ask {memory : Memory} {address : Int32} (hmemory : s.memory = some memory)
      (hcell : memory.hasCell address = true)
      (hagain : ∀ n : Machine, n.memory = s.memory → n.awaiting = true → look n = .taking address) :
      Matches s look (.done .input (.asking s.pc s.memory))
        (s.readInput memory address)
  | fail (cause : Failure) :
      Matches s look (.done (.failed cause) (.idle s.pc s.memory)) (s.fail cause)
  | halt : Matches s look (.done .succeeded (.idle s.pc s.memory)) (s.endWith .succeeded)

theorem matches_withCell (s : Interpreter) {look : Machine → Visit} {address : Int32}
    {visit : Memory → Int32 → Visit} {next : Memory → Int32 → Interpreter}
    (h : ∀ memory value, s.memory = some memory → memory.hasCell address = true →
      s.Matches look (visit memory value) (next memory value)) :
    s.Matches look ((Machine.idle s.pc s.memory).withCell address visit)
      (s.withCell address next) := by
  obtain ⟨program, inputs, pc, memory, events, ended⟩ := s
  cases memory with
  | none => exact .fail .memoryAddress
  | some memory =>
    simp only [Machine.withCell, withCell, Machine.idle]
    cases hv : memory.get? address with
    | none => exact .fail .memoryAddress
    | some value =>
      have hcell : memory.hasCell address = true := by
        rw [← Memory.get?_isSome, hv]
        rfl
      exact h memory value rfl hcell

theorem matches_visit (s : Interpreter) {look : Machine → Visit} (op : Opcode) (n : Int32)
    (hlook : ∀ m : Machine, look m = m.visit op n) :
    s.Matches look ((Machine.idle s.pc s.memory).visit op n) (s.execute op n) := by
  obtain ⟨program, inputs, pc, memory, events, ended⟩ := s
  cases op with
  | hop => exact .silent _ _
  | set =>
    simp only [Machine.visit, Machine.visitSet, execute]
    split
    · exact .silent _ _
    · exact .fail .memorySize
  | arith op =>
    refine matches_withCell _ fun memory value _ _ => ?_
    cases op.eval? memory.accumulator value with
    | none => exact .fail .divisionByZero
    | some result => exact .silent _ _
  | load => exact matches_withCell _ fun _ _ _ _ => .silent _ _
  | constant =>
    cases memory with
    | none => exact .fail .memoryAddress
    | some memory => exact .silent _ _
  | store =>
    cases memory with
    | none => exact .fail .memoryAddress
    | some memory =>
      simp only [Machine.visit, Machine.visitStore, Machine.idle, Option.bind_some, execute, store]
      cases memory.set? n memory.accumulator with
      | none => exact .fail .memoryAddress
      | some _ => exact .silent _ _
  | input =>
    refine matches_withCell _ fun memory value hm hcell => ?_
    refine .ask hm hcell fun m hmem hawait => ?_
    rw [hlook]
    exact Machine.visitInput_of_awaiting ⟨memory, hmem.trans hm, hcell⟩ hawait
  | output => exact matches_withCell _ fun _ _ _ _ => .print _
  | jump condition =>
    have hacc : (Machine.idle pc memory).accumulator =
      accumulator ⟨program, inputs, pc, memory, events, ended⟩ := rfl
    by_cases hc : condition.holds (accumulator ⟨program, inputs, pc, memory, events, ended⟩) = true
    · simp only [Machine.visit, Machine.visitJump, execute, hacc, hc, if_true]
      exact .silent _ _
    · simp only [Machine.visit, Machine.visitJump, execute, hacc, hc]
      exact .silent _ _
  | halt => exact .halt

theorem matches_visitLine (s : Interpreter) (line : String) :
    s.Matches (·.visitLine line) ((Machine.idle s.pc s.memory).visitLine line)
      (s.executeLine line) := by
  cases hi : Instruction.ofLine line with
  | error _ =>
    simp only [Machine.visitLine, executeLine, hi]
    exact .fail .unreadableLine
  | ok i =>
    cases hop : i.opcode? with
    | none =>
      simp only [Machine.visitLine, executeLine, hi, hop]
      exact .fail .unknownCommand
    | some op =>
      simp only [Machine.visitLine, executeLine, hi, hop]
      exact s.matches_visit op i.operand fun _ => rfl

end Interpreter

namespace Driven

/-- The user and whoever looks at the machine are shown the same. -/
structure Agrees (d : Driven) (s : Interpreter) : Prop where
  pc : d.stepper.machine.pc = s.pc
  memory : d.stepper.machine.memory = s.memory
  inputs : d.inputs = s.inputs
  events : d.events = s.events
  ended : d.stepper.finished = s.ended

/-- The user has just answered a question, and the interpreter is about to ask it. -/
structure Answered (d : Driven) (s : Interpreter) : Prop where
  pc : d.stepper.machine.pc = s.pc
  memory : d.stepper.machine.memory = s.memory
  inputs : d.inputs = s.inputs.tail
  events : d.events = s.events ++ [.asked]
  running : d.stepper.finished = none ∧ s.ended = none

/-- Agreement between two instructions. -/
inductive Meets : Driven → Interpreter → Prop
  | running (program inputs pc memory events) :
      Meets ⟨{ program, machine := .idle pc memory }, inputs, events⟩
        ⟨program, inputs, pc, memory, events, none⟩
  | ended {d s status} (ha : Agrees d s) (h : d.stepper.finished = some status)
      (hc : status.continues = false) : Meets d s

theorem Meets.agrees {d : Driven} {s : Interpreter} (h : d.Meets s) : d.Agrees s := by
  cases h with
  | running => exact ⟨rfl, rfl, rfl, rfl, rfl⟩
  | ended ha _ _ => exact ha

/-- One instruction of the interpreter, in one turn or in two. -/
def Follows (d : Driven) (s t : Interpreter) : Prop :=
  (∃ d', d.turn? = some d' ∧ d'.Meets t) ∨
    ∃ d' d'', d.turn? = some d' ∧ d'.Answered s ∧ d'.turn? = some d'' ∧ d''.Meets t

/-- The turn after a question. -/
theorem follows_question {program : Program} {inputs : List String} {pc : Int} {memory : Memory}
    {events : List Event} {line : String} {address : Int32}
    (hline : program.lineAt? pc = some line) (hcell : memory.hasCell address = true)
    (hagain : ∀ n : Machine, n.memory = some memory → n.awaiting = true →
      n.visitLine line = .taking address) :
    ∃ d, (answer ⟨{ program, machine := .asking pc (some memory) },
        inputs, events ++ [.asked]⟩).turn? = some d ∧
      d.Meets (Interpreter.readInput ⟨program, inputs, pc, some memory, events, none⟩
        memory address) := by
  cases inputs with
  | nil => exact ⟨_, turn?_of_interrupted rfl rfl, .ended ⟨rfl, rfl, rfl, rfl, rfl⟩ rfl rfl⟩
  | cons text inputs =>
    have hr : Ready ⟨{ program, machine := .answered pc (some memory) text }, inputs,
      events ++ [.asked]⟩ line := ⟨rfl, rfl, fun _ => rfl, hline⟩
    change ∃ d, Driven.turn? ⟨{ program, machine := .answered pc (some memory) text }, inputs,
      events ++ [.asked]⟩ = some d ∧ _
    have hv := hagain (.answered pc (some memory) text) rfl rfl
    cases hn : Machine.readInput? text with
    | none =>
      have hrun : (Machine.answered pc (some memory) text).run? line =
          some (.failed .invalidInput, .asking pc (some memory)) := by
        rw [Machine.run?, hv]
        simp [Machine.finish?, Machine.takeInput?, Mailbox.read?, Machine.storeInput, hn,
          Machine.answered, Machine.asking, Machine.idle]
      refine ⟨_, hr.finish hrun rfl, .ended ?_ rfl rfl⟩
      simp only [Interpreter.readInput, hn]
      exact ⟨rfl, rfl, rfl, rfl, rfl⟩
    | some value =>
      rw [← Memory.set?_isSome memory address value, Option.isSome_iff_exists] at hcell
      obtain ⟨stored, hset⟩ := hcell
      have hrun : (Machine.answered pc (some memory) text).run? line =
          some (.ok, .idle (pc + 1) (some stored)) := by
        rw [Machine.run?, hv]
        simp [Machine.finish?, Machine.takeInput?, Mailbox.read?, Machine.storeInput, hn, hset,
          Machine.answered, Machine.asking, Machine.idle, Machine.advance, Machine.withMemory]
      refine ⟨_, hr.silent hrun, ?_⟩
      simp only [Interpreter.readInput, hn, Interpreter.store, hset]
      exact .running ..

theorem Meets.follows {d : Driven} {s : Interpreter} (h : d.Meets s) : d.Follows s s.step := by
  cases h with
  | ended ha hf hc =>
    have hs : s.step = s := by simp [Interpreter.step, ← ha.ended, hf]
    exact .inl ⟨d, turn?_of_finished hf hc, hs.symm ▸ .ended ha hf hc⟩
  | running program inputs pc memory events =>
    cases hl : program.lineAt? pc with
    | none =>
      have hs : Interpreter.step ⟨program, inputs, pc, memory, events, none⟩ =
          ⟨program, inputs, pc, memory, events, none⟩ := by
        simp [Interpreter.step, hl]
      exact .inl ⟨_, turn?_of_outside rfl rfl rfl hl, hs.symm ▸ .running ..⟩
    | some line =>
      have hs : Interpreter.step ⟨program, inputs, pc, memory, events, none⟩ =
          Interpreter.executeLine ⟨program, inputs, pc, memory, events, none⟩ line := by
        simp [Interpreter.step, hl]
      have hr : Ready ⟨{ program, machine := .idle pc memory }, inputs, events⟩ line :=
        ⟨rfl, rfl, nofun, hl⟩
      have hm := Interpreter.matches_visitLine ⟨program, inputs, pc, memory, events, none⟩ line
      have hrun {status m} (hv : (Machine.idle pc memory).visitLine line = .done status m) :
          (Machine.idle pc memory).run? line = some (status, m) := by
        simp [Machine.run?, hv, Machine.finish?]
      rw [hs]
      generalize hv : (Machine.idle pc memory).visitLine line = v at hm
      generalize Interpreter.executeLine ⟨program, inputs, pc, memory, events, none⟩ line = t at hm
      cases hm with
      | silent pc' memory' => exact .inl ⟨_, hr.silent (hrun hv), .running ..⟩
      | print text => exact .inl ⟨_, hr.print (hrun hv) rfl rfl, .running ..⟩
      | fail cause =>
        exact .inl ⟨_, hr.finish (hrun hv) rfl, .ended ⟨rfl, rfl, rfl, rfl, rfl⟩ rfl rfl⟩
      | halt => exact .inl ⟨_, hr.finish (hrun hv) rfl, .ended ⟨rfl, rfl, rfl, rfl, rfl⟩ rfl rfl⟩
      | ask hmemory hcell hagain =>
        obtain rfl : memory = _ := hmemory
        obtain ⟨d, hd, hmeets⟩ := follows_question hl hcell hagain
        refine .inr ⟨_, d, hr.ask (hrun hv), ?_, hd, hmeets⟩
        cases inputs <;> exact ⟨rfl, rfl, rfl, rfl, rfl, rfl⟩

/-! ### Whole executions -/

theorem turns?_succ {d d₁ d₂ : Driven} {n : Nat} (h₁ : d.turns? n = some d₁)
    (h₂ : d₁.turn? = some d₂) : d.turns? (n + 1) = some d₂ := by
  simp [turns?, h₁, h₂]

/-- Every instruction of the interpreter takes the user a turn or two. -/
theorem exists_turns_meets {d : Driven} {s : Interpreter} (h : d.Meets s) (k : Nat) :
    ∃ n d', k ≤ n ∧ n ≤ 2 * k ∧ d.turns? n = some d' ∧ d'.Meets (s.run k) := by
  induction k with
  | zero => exact ⟨0, d, Nat.le_refl 0, Nat.le_refl 0, rfl, h⟩
  | succ k ih =>
    obtain ⟨n, d₁, hk, hn, hd₁, hm₁⟩ := ih
    obtain ⟨d₂, hd₂, hm₂⟩ | ⟨d₂, d₃, hd₂, -, hd₃, hm₃⟩ := hm₁.follows
    · exact ⟨n + 1, d₂, by omega, by omega, turns?_succ hd₁ hd₂, hm₂⟩
    · exact ⟨n + 2, d₃, by omega, by omega, turns?_succ (turns?_succ hd₁ hd₂) hd₃, hm₃⟩

/-- After every turn the user is at an instruction of the interpreter or in the middle of one. -/
theorem turns_meets {d : Driven} {s : Interpreter} (h : d.Meets s) (n : Nat) :
    ∃ d' k, d.turns? n = some d' ∧ k ≤ n ∧ n ≤ 2 * k + 1 ∧ (d'.Meets (s.run k) ∧ n ≤ 2 * k ∨
      d'.Answered (s.run k) ∧ ∃ d'', d'.turn? = some d'' ∧ d''.Meets (s.run (k + 1))) := by
  induction n with
  | zero => exact ⟨d, 0, rfl, by omega, by omega, .inl ⟨h, by omega⟩⟩
  | succ n ih =>
    obtain ⟨d₁, k, hd₁, hk, hn, ⟨hm, hn'⟩ | ⟨-, d₂, hd₂, hm₂⟩⟩ := ih
    · obtain ⟨d₂, hd₂, hm₂⟩ | ⟨d₂, d₃, hd₂, hb, hd₃, hm₃⟩ := hm.follows
      · exact ⟨d₂, k + 1, turns?_succ hd₁ hd₂, by omega, by omega, .inl ⟨hm₂, by omega⟩⟩
      · exact ⟨d₂, k, turns?_succ hd₁ hd₂, by omega, by omega, .inr ⟨hb, d₃, hd₃, hm₃⟩⟩
    · exact ⟨d₂, k + 1, turns?_succ hd₁ hd₂, by omega, by omega, .inl ⟨hm₂, by omega⟩⟩

/-- A stepper whose user answers questions and nothing else does not show that one mailbox serves
for inputs and outputs. It never waits, and it agrees with the interpreter after each of its
instructions; in between the user has at most a question ahead. -/
theorem interpreted (text : String) (inputs : List String) :
    (∀ n, ∃ d k, (ofText text inputs).turns? n = some d ∧ k ≤ n ∧ n ≤ 2 * k + 1 ∧
      (d.Agrees ((Interpreter.ofText text inputs).run k) ∨
        d.Answered ((Interpreter.ofText text inputs).run k))) ∧
    ∀ k, ∃ n d, k ≤ n ∧ n ≤ 2 * k ∧ (ofText text inputs).turns? n = some d ∧
      d.Agrees ((Interpreter.ofText text inputs).run k) := by
  have hstart : (ofText text inputs).Meets (Interpreter.ofText text inputs) := .running ..
  constructor
  · intro n
    obtain ⟨d, k, hd, hk, hn, ⟨hm, -⟩ | ⟨hb, -⟩⟩ := turns_meets hstart n
    · exact ⟨d, k, hd, hk, hn, .inl hm.agrees⟩
    · exact ⟨d, k, hd, hk, hn, .inr hb⟩
  · intro k
    obtain ⟨n, d, hk, hn, hd, hm⟩ := exists_turns_meets hstart k
    exact ⟨n, d, hk, hn, hd, hm.agrees⟩

end Driven

end AccumulatorMachine
