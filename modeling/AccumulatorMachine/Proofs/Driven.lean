import AccumulatorMachine.Proofs.Interpreter
import AccumulatorMachine.Stepper

/-! A stepper and its user, who answers every question with the next of a list of inputs, gives up when
there is none, and takes every value that was printed. -/
namespace AccumulatorMachine

namespace Machine

/-- A machine whose mailbox is empty and whose flags are down. -/
def idle (pc : Int) (memory : Option Memory) : Machine := { pc, memory }

/-- A machine that has asked. -/
def asking (pc : Int) (memory : Option Memory) : Machine := { idle pc memory with awaiting := true }

/-- A machine that has asked and holds the answer. -/
def answered (pc : Int) (memory : Option Memory) (text : String) : Machine :=
  { asking pc memory with mailbox := { value := some text } }

/-- A machine that holds a value to print. -/
def printing (pc : Int) (memory : Option Memory) (text : String) : Machine :=
  { idle pc memory with mailbox := { value := some text } }

/-- A machine that is stopped while nothing is in its mailbox. -/
def stopped (pc : Int) (memory : Option Memory) (awaiting closed : Bool) : Machine :=
  { pc, memory, mailbox := { closed }, interrupted := true, awaiting }

end Machine

structure Driven where
  stepper : Stepper
  inputs : List String
  events : List Event := []

namespace Driven

def ofText (text : String) (inputs : List String) : Driven := { stepper := .ofText text, inputs }

/-- Delivers the next input, or stops the stepper. -/
def answer (d : Driven) : Driven :=
  match d.inputs with
  | [] => { d with stepper := d.stepper.stop }
  | text :: inputs => { d with stepper := d.stepper.deliver text, inputs }

def ask (d : Driven) : Driven := { d with events := d.events ++ [.asked] }

def collect (d : Driven) : Driven :=
  let (text, stepper) := d.stepper.takeOutput
  { d with stepper, events := d.events ++ (text.map Event.printed).toList }

/-- What the user does about the status of a step. -/
def attend (d : Driven) : Status → Driven
  | .input => d.ask.answer
  | .output => d.collect
  | _ => d

/-- A step and what the user does about it; none if the step would have to wait. -/
def turn? (d : Driven) : Option Driven :=
  d.stepper.step?.map fun (status, stepper) => { d with stepper }.attend status

def turns? : Nat → Driven → Option Driven
  | 0, d => some d
  | n + 1, d => (turns? n d).bind turn?

/-- The program counter is outside the program, and nobody has stopped the stepper. -/
def stalls (d : Driven) : Bool :=
  d.stepper.finished.isNone && !d.stepper.machine.interrupted &&
    (d.stepper.program.lineAt? d.stepper.machine.pc).isNone

/-- A turn of a user who also stops the stepper once it has left the program. -/
def watchedTurn? (d : Driven) : Option Driven :=
  if d.stalls then some { d with stepper := d.stepper.stop } else d.turn?

def watchedTurns? : Nat → Driven → Option Driven
  | 0, d => some d
  | n + 1, d => (watchedTurns? n d).bind watchedTurn?

/-! ### Turns -/

def withMachine (d : Driven) (machine : Machine) : Driven :=
  { d with stepper := { d.stepper with machine } }

def finish (d : Driven) (status : Status) : Driven :=
  { d with stepper := { d.stepper with finished := some status } }

/-- The next step executes a line. -/
structure Ready (d : Driven) (line : String) : Prop where
  running : d.stepper.finished = none
  unmarked : d.stepper.machine.interrupted = false
  answered : d.stepper.machine.awaiting = true → d.stepper.machine.mailbox.value.isSome = true
  line : d.stepper.program.lineAt? d.stepper.machine.pc = some line

theorem turn?_of_finished {d : Driven} {status : Status} (h : d.stepper.finished = some status)
    (hc : status.continues = false) : d.turn? = some d := by
  cases status with
  | ok | input | output => cases hc
  | _ => simp [turn?, Stepper.step?, h, attend]

theorem turn?_of_interrupted {d : Driven} (h : d.stepper.finished = none)
    (hi : d.stepper.machine.interrupted = true) : d.turn? = some (d.finish .stopped) := by
  simp [turn?, Stepper.step?, h, hi, Stepper.finish, attend, finish]

theorem turn?_of_outside {d : Driven} (h : d.stepper.finished = none)
    (hi : d.stepper.machine.interrupted = false) (ha : d.stepper.machine.awaiting = false)
    (hl : d.stepper.program.lineAt? d.stepper.machine.pc = none) : d.turn? = some d := by
  simp [turn?, Stepper.step?, h, hi, ha, hl, attend]

theorem stalls_idle {program : Program} {pc : Int} {memory : Option Memory} {inputs : List String}
    {events : List Event} (h : program.lineAt? pc = none) :
    stalls ⟨{ program, machine := .idle pc memory }, inputs, events⟩ = true := by
  simp [stalls, Machine.idle, h]

theorem watchedTurn?_of_line {d : Driven} {line : String}
    (hl : d.stepper.program.lineAt? d.stepper.machine.pc = some line) :
    d.watchedTurn? = d.turn? := by
  simp [watchedTurn?, stalls, hl]

theorem watchedTurn?_of_finished {d : Driven} {status : Status}
    (h : d.stepper.finished = some status) (hc : status.continues = false) :
    d.watchedTurn? = some d := by
  simp [watchedTurn?, stalls, h, turn?_of_finished h hc]

theorem watchedTurn?_of_interrupted {d : Driven} (h : d.stepper.finished = none)
    (hi : d.stepper.machine.interrupted = true) :
    d.watchedTurn? = some (d.finish .stopped) := by
  simp [watchedTurn?, stalls, hi, turn?_of_interrupted h hi]

theorem watchedTurn?_of_stalls {d : Driven} (h : d.stalls = true) :
    d.watchedTurn? = some { d with stepper := d.stepper.stop } := by
  simp [watchedTurn?, h]

theorem Ready.turn? {d : Driven} {line : String} (h : d.Ready line) :
    d.turn? = (d.stepper.execute? line).map fun (status, stepper) =>
      { d with stepper }.attend status := by
  have ha : (d.stepper.machine.awaiting && !d.stepper.machine.hasPending) = false := by
    cases hawait : d.stepper.machine.awaiting with
    | false => rfl
    | true => simpa [Machine.hasPending, Mailbox.isEmpty] using h.answered hawait
  simp [Driven.turn?, Stepper.step?, h.running, h.unmarked, ha, h.line]

theorem Ready.silent {d : Driven} {line : String} {m : Machine} (h : d.Ready line)
    (hrun : d.stepper.machine.run? line = some (.ok, m)) : d.turn? = some (d.withMachine m) := by
  simp [h.turn?, Stepper.execute?, hrun, Stepper.settle, attend, withMachine]

theorem Ready.print {d : Driven} {line text : String} {m : Machine} (h : d.Ready line)
    (hrun : d.stepper.machine.run? line = some (.output, m)) (hopen : m.mailbox.closed = false)
    (hvalue : m.mailbox.value = some text) :
    d.turn? = some { d with
      stepper := { d.stepper with machine := { m with mailbox := {} }, printed := none }
      events := d.events ++ [.printed text] } := by
  simp [h.turn?, Stepper.execute?, hrun, Stepper.settle, Machine.requestOutput?, Mailbox.read?,
    hopen, hvalue, attend, collect, Stepper.takeOutput]

theorem Ready.ask {d : Driven} {line : String} {m : Machine} (h : d.Ready line)
    (hrun : d.stepper.machine.run? line = some (.input, m)) :
    d.turn? = some (d.withMachine m).ask.answer := by
  simp [h.turn?, Stepper.execute?, hrun, Stepper.settle, attend, withMachine, Driven.ask]

theorem Ready.finish {d : Driven} {line : String} {status : Status} {m : Machine} (h : d.Ready line)
    (hrun : d.stepper.machine.run? line = some (status, m)) (hc : status.continues = false) :
    d.turn? = some ((d.withMachine m).finish status) := by
  cases status with
  | ok | input | output => cases hc
  | _ =>
    simp [h.turn?, Stepper.execute?, hrun, Stepper.settle, Stepper.finish, attend, withMachine,
      Driven.finish]

theorem events_answer (d : Driven) : d.answer.events = d.events := by
  obtain ⟨stepper, inputs, events⟩ := d
  cases inputs <;> rfl

/-! ### Several turns -/

theorem watchedTurns?_succ {d d₁ d₂ : Driven} {n : Nat} (h₁ : d.watchedTurns? n = some d₁)
    (h₂ : d₁.watchedTurn? = some d₂) : d.watchedTurns? (n + 1) = some d₂ := by
  simp [watchedTurns?, h₁, h₂]

/-- Nothing happens after the end. -/
theorem watchedTurns?_of_finished {d d₁ : Driven} {status : Status} {n m : Nat} (hle : n ≤ m)
    (h : d.watchedTurns? n = some d₁) (hf : d₁.stepper.finished = some status)
    (hc : status.continues = false) : d.watchedTurns? m = some d₁ := by
  induction hle with
  | refl => exact h
  | step _ ih => exact watchedTurns?_succ ih (watchedTurn?_of_finished hf hc)

end Driven

end AccumulatorMachine
