import AccumulatorMachine.Proofs.Machine.Visit

/-! What is left of a machine that has not got past a line: the line has failed, it has asked for an
input, or it has ended the program. -/
namespace AccumulatorMachine.Machine

/-- The statuses after which the program counter is still at the line. -/
def Stands (status : Status) : Prop :=
  status.isError = true ∨ status = .input ∨ status = .succeeded

/-- How a line comes to nothing. Only an input that is no number leaves a trace beside the question. -/
inductive Stays (m : Machine) (line : String) : Status → Machine → Prop
  | failed {cause : Failure} (h : cause = .invalidInput → m.mailbox.closed = true) :
      Stays m line (.failed cause) m
  | asked (hnew : m.awaiting = false) : Stays m line .input { m with awaiting := true }
  | refused {n : Int32} {text : String} (hline : Performs line .input n) (hcell : m.HasCell n)
      (hopen : m.mailbox.closed = false) (hvalue : m.mailbox.value = some text)
      (hread : readInput? text = none) :
      Stays m line (.failed .invalidInput) { m with mailbox := {} }
  | halted : Stays m line .succeeded m

/-- What is wrong with an input shows only when it is taken. -/
theorem Refuses.ne_invalidInput {m : Machine} {op : Opcode} {n : Int32} {cause : Failure}
    (h : m.Refuses op n cause) : cause ≠ .invalidInput := by
  rintro rfl
  nomatch h

theorem stays_of_visitLine {m m' : Machine} {line : String} {status : Status}
    (h : m.visitLine line = .done status m') (hs : Stands status) : m.Stays line status m' := by
  have hdoes := m.does_visitLine line
  rw [h] at hdoes
  cases hdoes with
  | unreadable | unknown => exact .failed nofun
  | performs _ hdoes =>
    cases hdoes with
    | silent | print =>
      unfold Stands at hs
      simp [Status.isError] at hs
    | ask _ _ _ hnew => exact .asked hnew
    | fail hrefuses => exact .failed fun hcause => absurd hcause hrefuses.ne_invalidInput
    | halt => exact .halted

theorem stays_of_takeInput? {m m' : Machine} {line : String} {n : Int32} {status : Status}
    (hline : Performs line .input n) (hcell : m.HasCell n)
    (h : m.takeInput? n = some (status, m')) (hs : Stands status) : m.Stays line status m' := by
  obtain ⟨input, mailbox, hread, hstores⟩ := stores_of_takeInput? h
  cases hstores with
  | refused hnumber =>
    obtain ⟨hclosed, rfl, rfl⟩ | ⟨text, hopen, hvalue, rfl, rfl⟩ := read?_cases hread
    · exact .failed fun _ => hclosed
    · exact .refused hline hcell hopen hvalue hnumber
  | @missing value _ hset =>
    rw [m.hasCell_iff_isSome n value, hset] at hcell
    cases hcell
  | stored =>
    unfold Stands at hs
    simp [Status.isError] at hs

theorem stays_of_run? {m m' : Machine} {line : String} {status : Status}
    (h : m.run? line = some (status, m')) (hs : Stands status) : m.Stays line status m' := by
  unfold run? at h
  cases hvisit : m.visitLine line with
  | done status' n =>
    rw [hvisit] at h
    cases h
    exact stays_of_visitLine hvisit hs
  | taking address =>
    have hdoes := m.does_visitLine line
    rw [hvisit] at h hdoes
    cases hdoes with
    | performs hline hdoes =>
      cases hdoes with
      | take hop hcell =>
        obtain rfl := hop
        exact stays_of_takeInput? hline hcell h hs

/-- What a machine keeps that stays at a line. -/
structure KeptAt (m : Machine) (line : String) (status : Status) (m' : Machine) : Prop where
  pc : m'.pc = m.pc
  memory : m'.memory = m.memory
  interrupted : m'.interrupted = m.interrupted
  awaiting : m'.awaiting = m.awaiting ∨ status = .input
  asked : status = .input → m.awaiting = false ∧ m'.awaiting = true
  mailbox : m'.mailbox = m.mailbox ∨ status = .failed .invalidInput ∧ m.mailbox.closed = false
  /-- The value is gone, and it was there. -/
  refused : status = .failed .invalidInput → m.mailbox.closed = false →
    ∃ n text, Performs line .input n ∧ m.HasCell n ∧ m.mailbox.value = some text ∧
      readInput? text = none ∧ m'.mailbox = { m.mailbox with value := none }

/-- A line that fails, asks for an input or ends the program leaves the program counter, the memory and
the mark of an interrupt as they are. Asking turns the flag for it on, which was off, and nothing else
changes it. The mailbox is left alone but by an input instruction that finds a text which is no
number in an open mailbox: it has taken that text and nothing else. -/
theorem standstill_keeps_state {m m' : Machine} {line : String} {status : Status}
    (h : m.run? line = some (status, m')) (hs : Stands status) : m.KeptAt line status m' := by
  cases stays_of_run? h hs with
  | failed hcause =>
    refine ⟨rfl, rfl, rfl, .inl rfl, nofun, .inl rfl, fun hstatus hopen => ?_⟩
    have hclosed := hcause (Status.failed.inj hstatus)
    cases hopen.symm.trans hclosed
  | asked hnew => exact ⟨rfl, rfl, rfl, .inr rfl, fun _ => ⟨hnew, rfl⟩, .inl rfl, nofun⟩
  | refused hline hcell hopen hvalue hread =>
    refine ⟨rfl, rfl, rfl, .inl rfl, nofun, .inr ⟨rfl, hopen⟩, fun _ _ => ?_⟩
    refine ⟨_, _, hline, hcell, hvalue, hread, ?_⟩
    show ({} : Mailbox String) = { value := none, closed := m.mailbox.closed }
    rw [hopen]
  | halted => exact ⟨rfl, rfl, rfl, .inl rfl, nofun, .inl rfl, nofun⟩

/-- A machine that holds a text which is no number. -/
def misfed : Machine :=
  { pc := 1, memory := some (.zeros 1), mailbox := { value := some "one" }, awaiting := true }

theorem standstill_keeps_state_misfed :
    misfed.run? "INP 1" = some (.failed .invalidInput, { misfed with mailbox := {} }) ∧
      misfed.KeptAt "INP 1" (.failed .invalidInput) { misfed with mailbox := {} } := by
  have hrun : misfed.run? "INP 1" = some (.failed .invalidInput, { misfed with mailbox := {} }) := by
    decide
  exact ⟨hrun, standstill_keeps_state hrun (.inl rfl)⟩

end AccumulatorMachine.Machine
