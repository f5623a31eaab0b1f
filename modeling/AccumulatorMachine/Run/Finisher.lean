import AccumulatorMachine.Run.State

/-! The finisher of a run, action by action. Once the run is over, or its end will not be signalled, it
frees the session and calls back. -/
namespace AccumulatorMachine.Run

def observe (r : Run) : Run :=
  match r.completion.observe with
  | (.done verdict, completion) => { r with completion, finisher := .freeing verdict }
  | (.blocked generation, completion) => { r with completion, finisher := .asleep generation }

/-- The next action of the finisher; none if it waits or has ended. -/
def finisherStep? (r : Run) : Option Run :=
  match r.finisher with
  | .observing => some r.observe
  | .asleep generation =>
    (r.completion.verdict? generation).map fun verdict => { r with finisher := .freeing verdict }
  | .freeing verdict => some { r with active := false, finisher := .calling verdict }
  | .calling verdict =>
    some { r with callbacks := r.callbacks + 1, finisher := .finished verdict }
  | .finished _ => none

end AccumulatorMachine.Run
