import AccumulatorMachine.Stepper

/-! A stepper behind a page, which shows the text of the last step. -/
namespace AccumulatorMachine

structure Page where
  stepper : Stepper
  last : Status := .ok

namespace Page

def ofText (text : String) : Page := { stepper := .ofText text }

def step (p : Page) : Status × Page :=
  let (status, stepper) := p.stepper.step
  (status, { stepper, last := status })

def deliver (p : Page) (text : String) : Page := { p with stepper := p.stepper.deliver text }

def stop (p : Page) : Page := { p with stepper := p.stepper.stop }

def takeOutput (p : Page) : Option String × Page :=
  let (text, stepper) := p.stepper.takeOutput
  (text, { p with stepper })

/-- No clock runs behind a page. -/
def message? (p : Page) : Option String := p.last.describe? 0

def isFinished (p : Page) : Bool := p.stepper.finished.isSome

end Page

end AccumulatorMachine
