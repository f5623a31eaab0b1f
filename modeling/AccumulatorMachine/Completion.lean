import AccumulatorMachine.Barrier

/-! The signal that a run is over. The side that gives it and the side that observes it each wait
for the other. -/
namespace AccumulatorMachine

abbrev Completion := Barrier

namespace Completion

def new : Completion := Barrier.ofParties 2

def signal (c : Completion) : Arrival × Completion := c.arrive

def observe (c : Completion) : Arrival × Completion := c.arrive

/-- Releases one side without the other. -/
def abandon (c : Completion) : Completion := c.breakNow

end Completion

end AccumulatorMachine
