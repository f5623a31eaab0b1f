import AccumulatorMachine.Handoff
import AccumulatorMachine.Proofs.Barrier.Pair

/-! Where the two sides of a hand-off can be as long as the receiver stays: both are between the
same two meetings, and the pacing barrier has neither refused nor lost anybody. -/
namespace AccumulatorMachine
variable {α : Type}

namespace Sender

/-- Not at the barrier in the current generation. -/
inductive Free (g : Nat) : Sender α → Prop
  | idle : Free g .idle
  | offering (value : α) : Free g (.offering value)
  | waking {h : Nat} (hlt : h < g) : Free g (.paused h)
  | returned : Free g (.returned true)
  | leaving : Free g .leaving
  | disconnecting : Free g .disconnecting
  | gone : Free g .gone

theorem Free.succ {g : Nat} {s : Sender α} (h : s.Free g) : s.Free (g + 1) := by
  cases h with
  | waking hlt => exact .waking (by omega)
  | _ => constructor

end Sender

namespace Receiver

inductive Free (g : Nat) : Receiver α → Prop
  | idle : Free g .idle
  | receiving : Free g .receiving
  | waking {h : Nat} (hlt : h < g) : Free g (.paused h)
  | resetting : Free g .resetting
  | released : Free g (.released .passed)

/-- Has taken a value and has yet to come to the barrier. -/
inductive Holds : Receiver α → Prop
  | holding (value : α) : Holds (.holding value)
  | releasing : Holds .releasing

end Receiver

namespace Handoff

/-- The value that the receiver holds belongs to the meeting for which the sender comes to the
barrier, and nobody waits there for anything else. -/
inductive Paced : Handoff α → Prop
  | apart {g : Nat} {s : Sender α} {r : Receiver α} (hs : s.Free g) (hr : r.Free g) :
      Paced ⟨.pair 0 g, s, r⟩
  | held {g : Nat} {r : Receiver α} (hr : r.Holds) : Paced ⟨.pair 0 g, .pacing, r⟩
  | senderWaits {g : Nat} {r : Receiver α} (hr : r.Holds) : Paced ⟨.pair 1 g, .paused g, r⟩
  | receiverWaits {g : Nat} : Paced ⟨.pair 1 g, .pacing, .paused g⟩
  | ended {g : Nat} : Paced ⟨.pair 0 g, .gone, .ended⟩

theorem paced_start : Paced ({} : Handoff α) := .apart .idle .idle

theorem Paced.senderStep {h k : Handoff α} (hp : Paced h) (hk : h.senderStep? = some k) :
    Paced k := by
  cases hp with
  | @apart g s r hs hr =>
    cases hs with
    | idle => simp [senderStep?] at hk
    | offering value =>
      cases hr <;> simp [senderStep?] at hk
    | waking hlt =>
      simp [senderStep?, Barrier.verdict?_pair_of_lt 0 hlt] at hk
      exact hk ▸ .apart .returned hr
    | returned => simp [senderStep?] at hk
    | leaving =>
      simp [senderStep?] at hk
      exact hk ▸ .apart .disconnecting hr
    | disconnecting =>
      simp [senderStep?] at hk
      exact hk ▸ .apart .gone hr
    | gone => simp [senderStep?] at hk
  | held hr =>
    simp [senderStep?] at hk
    exact hk ▸ .senderWaits hr
  | senderWaits hr => simp [senderStep?] at hk
  | receiverWaits =>
    simp [senderStep?] at hk
    exact hk ▸ .apart .returned (.waking (by omega))
  | ended => simp [senderStep?] at hk

theorem Paced.receiverStep {h k : Handoff α} (hp : Paced h) (hk : h.receiverStep? = some k) :
    Paced k := by
  cases hp with
  | @apart g s r hs hr =>
    cases hr with
    | idle => simp [receiverStep?] at hk
    | receiving =>
      cases hs <;> simp [receiverStep?] at hk
      · exact hk ▸ .held (.holding _)
      · exact hk ▸ .ended
    | waking hlt =>
      simp [receiverStep?, Barrier.verdict?_pair_of_lt 0 hlt, afterWait] at hk
      exact hk ▸ .apart hs .resetting
    | resetting =>
      simp [receiverStep?] at hk
      exact hk ▸ .apart hs.succ .released
    | released => simp [receiverStep?] at hk
  | held hr =>
    cases hr <;> simp [receiverStep?] at hk
    exact hk ▸ .receiverWaits
  | senderWaits hr =>
    cases hr <;> simp [receiverStep?, afterWait] at hk
    exact hk ▸ .apart (.waking (by omega)) .resetting
  | receiverWaits => simp [receiverStep?] at hk
  | ended => simp [receiverStep?] at hk

end Handoff

end AccumulatorMachine
