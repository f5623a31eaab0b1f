import AccumulatorMachine.Barrier
import AccumulatorMachine.Schedule

/-! Values that pass from a sender to a receiver one at a time. The two meet for every value, and the
sender then waits at a pacing barrier until the receiver has finished with it. Whichever side
leaves first breaks the barrier if somebody waits there.

Every function below that ends in `Step?` is one action of its side, and gives nothing when that
side waits for the other or has no call to go on with. -/
namespace AccumulatorMachine

inductive Sender (α : Type) where
  | idle
  /-- Offers a value until the receiver takes it or is gone. -/
  | offering (value : α)
  /-- The value has been taken, and the barrier comes next. -/
  | pacing
  | paused (generation : Nat)
  /-- The hand-over is over, and its value was released or was not. -/
  | returned (delivered : Bool)
  | leaving
  | breaking
  | disconnecting
  | gone
  deriving DecidableEq, Repr

inductive Receiver (α : Type) where
  | idle
  | receiving
  | holding (value : α)
  /-- There was nobody left to receive from. -/
  | ended
  | releasing
  | paused (generation : Nat)
  | resetting
  | released (verdict : Verdict)
  | leaving
  | breaking
  | disconnecting
  | gone
  deriving DecidableEq, Repr

structure Handoff (α : Type) where
  pacing : Barrier := .ofParties 2
  sender : Sender α := .idle
  receiver : Receiver α := .idle
  deriving DecidableEq, Repr

namespace Handoff
variable {α : Type}

def disconnectedMessage : String := "the other side of the hand-off is gone"

/-! ### Calls begin -/

def offer (h : Handoff α) (value : α) : Handoff α := { h with sender := .offering value }

def dropSender (h : Handoff α) : Handoff α := { h with sender := .leaving }

def receive (h : Handoff α) : Handoff α := { h with receiver := .receiving }

def release (h : Handoff α) : Handoff α := { h with receiver := .releasing }

def dropReceiver (h : Handoff α) : Handoff α := { h with receiver := .leaving }

/-! ### Calls go on -/

def senderStep? (h : Handoff α) : Option (Handoff α) :=
  match h.sender with
  | .offering _ =>
    match h.receiver with
    | .gone => some { h with sender := .returned false }
    | _ => none
  | .pacing =>
    match h.pacing.arrive with
    | (.done verdict, pacing) =>
      some { h with pacing, sender := .returned (verdict == .passed) }
    | (.blocked generation, pacing) => some { h with pacing, sender := .paused generation }
  | .paused generation =>
    (h.pacing.verdict? generation).map fun verdict =>
      { h with sender := .returned (verdict == .passed) }
  | .leaving =>
    some { h with sender := if 0 < h.pacing.waiting then .breaking else .disconnecting }
  | .breaking => some { h with pacing := h.pacing.breakNow, sender := .disconnecting }
  | .disconnecting => some { h with sender := .gone }
  | .idle | .returned _ | .gone => none

/-- What becomes of a release when its wait at the barrier is over. -/
def afterWait : Verdict → Receiver α
  | .passed => .resetting
  | .broken => .released .broken

def receiverStep? (h : Handoff α) : Option (Handoff α) :=
  match h.receiver with
  | .receiving =>
    match h.sender with
    | .offering value => some { h with sender := .pacing, receiver := .holding value }
    | .gone => some { h with receiver := .ended }
    | _ => none
  | .releasing =>
    match h.pacing.arrive with
    | (.done verdict, pacing) => some { h with pacing, receiver := afterWait verdict }
    | (.blocked generation, pacing) => some { h with pacing, receiver := .paused generation }
  | .paused generation =>
    (h.pacing.verdict? generation).map fun verdict => { h with receiver := afterWait verdict }
  | .resetting => some { h with pacing := h.pacing.reset, receiver := .released .passed }
  | .leaving =>
    some { h with receiver := if 0 < h.pacing.waiting then .breaking else .disconnecting }
  | .breaking => some { h with pacing := h.pacing.breakNow, receiver := .disconnecting }
  | .disconnecting => some { h with receiver := .gone }
  | .idle | .holding _ | .ended | .released _ | .gone => none

/-- Lets both sides go on with their calls until both wait. Each call has only a few actions. -/
def settle (h : Handoff α) : Handoff α :=
  Schedule.settle (Schedule.first? [senderStep?, receiverStep?]) 16 h

end Handoff

end AccumulatorMachine
