import AccumulatorMachine.Handoff

/-! A sender that hands over the values of a list in turn, stops at the first that is not released,
and then leaves. -/
namespace AccumulatorMachine

structure Exchange (α : Type) where
  link : Handoff α := {}
  remaining : List α
  /-- For every value that was offered, whether it was released. -/
  results : List Bool := []

namespace Exchange
variable {α : Type}

def produce? (x : Exchange α) : Option (Exchange α) :=
  match x.link.sender with
  | .idle =>
    match x.remaining with
    | [] => some { x with link := x.link.dropSender }
    | value :: remaining => some { x with link := x.link.offer value, remaining }
  | .returned delivered =>
    some { x with
      link := { x.link with sender := if delivered then .idle else .leaving }
      results := x.results ++ [delivered] }
  | _ => x.link.senderStep?.map fun link => { x with link }

/-- The receiver goes on with the call it has begun. -/
def consume? (x : Exchange α) : Option (Exchange α) :=
  x.link.receiverStep?.map fun link => { x with link }

/-- Lets both sides act until both wait. Between two calls of the receiver neither side makes more
than a few actions for every value. -/
def settle (x : Exchange α) : Exchange α :=
  Schedule.settle (Schedule.first? [produce?, consume?]) (8 * x.remaining.length + 16) x

/-- Begins a call of the receiver and lets it go on as far as it can. -/
def call (x : Exchange α) (start : Handoff α → Handoff α) : Exchange α :=
  { x with link := start x.link }.settle

end Exchange

end AccumulatorMachine
