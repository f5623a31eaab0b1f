import AccumulatorMachine.Proofs.Machine.Visit

/-! What others do to the machine of a run. -/
namespace AccumulatorMachine

/-- A stop makes two of these calls: it marks the machine and then closes the mailbox. -/
inductive Call where
  | deliver (text : String)
  | mark
  | close
  /-- Takes what the mailbox holds. -/
  | fetch
  deriving DecidableEq, Repr

namespace Call

/-- What a call makes of a machine; none while it has to wait. -/
def effect? : Call → Machine → Option Machine
  | .deliver text, m => some (m.deliver text)
  | .mark, m => some m.markInterrupted
  | .close, m => some m.closeMailbox
  | .fetch, m => m.requestOutput?.map Prod.snd

variable {call : Call} {m n : Machine}

/-- A call leaves everything but the mailbox and the mark as it is, and it never takes a mark away. -/
theorem keeps (h : call.effect? m = some n) :
    n.pc = m.pc ∧ n.memory = m.memory ∧ n.awaiting = m.awaiting ∧
      (m.interrupted = true → n.interrupted = true) := by
  cases call with
  | deliver text =>
    cases h
    exact ⟨rfl, rfl, rfl, id⟩
  | mark =>
    cases h
    exact ⟨rfl, rfl, rfl, fun _ => rfl⟩
  | close =>
    cases h
    exact ⟨rfl, rfl, rfl, id⟩
  | fetch =>
    obtain ⟨⟨text, n⟩, hr, rfl⟩ := Option.map_eq_some_iff.mp h
    obtain ⟨-, -, rfl⟩ | ⟨_, -, -, -, rfl⟩ := Machine.requestOutput?_cases hr <;>
      exact ⟨rfl, rfl, rfl, id⟩

end Call

end AccumulatorMachine
