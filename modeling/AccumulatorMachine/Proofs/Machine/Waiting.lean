import AccumulatorMachine.Proofs.Machine.Contended

/-! Calls that are made one after the other, and the ones among them that have to wait. Whether a reader
of the mailbox waits depends on the mailbox being closed, and that is told by the mark of an
interrupt. -/
namespace AccumulatorMachine

/-- A call of a machine, which returns before the next one is made. -/
inductive Operation where
  | run (line : String)
  | execute (op : Opcode) (operand : Int32)
  /-- An input instruction goes on that has had to wait for the calls before. -/
  | resume (address : Int32)
  | deliver (text : String)
  | interrupt
  | reset
  | requestOutput
  deriving DecidableEq, Repr

/-- What a call leaves of a machine; none while it has to wait. -/
def Operation.effect? : Operation → Machine → Option Machine
  | .run line, m => (m.run? line).map Prod.snd
  | .execute op operand, m => (m.execute? op operand).map Prod.snd
  | .resume address, m => (m.takeInput? address).map Prod.snd
  | .deliver text, m => some (m.deliver text)
  | .interrupt, m => some m.interrupt
  | .reset, m => some m.reset
  | .requestOutput, m => m.requestOutput?.map Prod.snd

namespace Machine

/-- The machine that a sequence of calls leaves; none if one of them has to wait. -/
def after? (m : Machine) : List Operation → Option Machine
  | [] => some m
  | op :: ops => (op.effect? m).bind (·.after? ops)

/-! ### The mark and the mailbox -/

/-- Only an interrupt or a reset marks a machine or closes its mailbox, or undoes it. -/
theorem keeps_of_finish? {m m' : Machine} {v : Visit} {status : Status} (hv : m.Visits v)
    (h : m.finish? v = some (status, m')) :
    m'.interrupted = m.interrupted ∧ m'.mailbox.closed = m.mailbox.closed := by
  cases hv with
  | take => exact ⟨interrupted_of_takeInput? h, closed_of_takeInput? h⟩
  | _ =>
    cases h
    exact ⟨rfl, rfl⟩

theorem Agrees.of_keeps {m m' : Machine} (hm : m.Agrees)
    (h : m'.interrupted = m.interrupted ∧ m'.mailbox.closed = m.mailbox.closed) : m'.Agrees := by
  rwa [Agrees, h.1, h.2]

theorem Agrees.effect {m m' : Machine} {op : Operation} (hm : m.Agrees)
    (h : op.effect? m = some m') : m'.Agrees := by
  cases op with
  | run line =>
    obtain ⟨⟨status, _⟩, hrun, rfl⟩ := Option.map_eq_some_iff.mp h
    exact hm.of_keeps (keeps_of_finish? (m.visits_visitLine line) hrun)
  | execute op operand =>
    obtain ⟨⟨status, _⟩, hexecute, rfl⟩ := Option.map_eq_some_iff.mp h
    exact hm.of_keeps (keeps_of_finish? (m.does_visit op operand).visits hexecute)
  | resume address =>
    obtain ⟨⟨status, _⟩, htake, rfl⟩ := Option.map_eq_some_iff.mp h
    exact hm.of_keeps ⟨interrupted_of_takeInput? htake, closed_of_takeInput? htake⟩
  | deliver text =>
    cases h
    exact hm
  | interrupt =>
    cases h
    exact iff_of_true rfl rfl
  | reset =>
    cases h
    exact iff_of_false Bool.false_ne_true Bool.false_ne_true
  | requestOutput =>
    obtain ⟨⟨text, _⟩, hrequest, rfl⟩ := Option.map_eq_some_iff.mp h
    exact hm.of_keeps ⟨interrupted_of_requestOutput? hrequest, closed_of_requestOutput? hrequest⟩

theorem Agrees.after {m m' : Machine} {ops : List Operation} (hm : m.Agrees)
    (h : m.after? ops = some m') : m'.Agrees := by
  induction ops generalizing m with
  | nil =>
    obtain rfl := Option.some.inj h
    exact hm
  | cons op ops ih =>
    obtain ⟨n, hop, hops⟩ := Option.bind_eq_some_iff.mp h
    exact ih (hm.effect hop) hops

/-- Calls that are made one after the other close the mailbox if they mark the machine, and only then. -/
theorem agrees_of_after? {m : Machine} {ops : List Operation} (h : after? {} ops = some m) :
    m.Agrees :=
  Agrees.after (iff_of_false Bool.false_ne_true Bool.false_ne_true) h

theorem Agrees.closed_eq_false_iff {m : Machine} (h : m.Agrees) :
    m.mailbox.closed = false ↔ m.interrupted = false := by
  rw [← Bool.not_eq_true, ← Bool.not_eq_true]
  exact not_congr h

/-! ### Calls that wait -/

theorem execute?_eq_none_iff {m : Machine} {op : Opcode} {n : Int32} :
    m.execute? op n = none ↔
      op = .input ∧ m.HasCell n ∧ m.awaiting = true ∧ m.mailbox.value = none ∧
        m.mailbox.closed = false := by
  constructor
  · intro h
    have hdoes := m.does_visit op n
    unfold execute? at h
    cases hvisit : m.visit op n with
    | done =>
      rw [hvisit] at h
      cases h
    | taking address =>
      rw [hvisit] at h hdoes
      cases hdoes with
      | take hop hcell hgoes =>
        obtain ⟨hopen, hempty⟩ := (m.takeInput?_eq_none_iff _).mp h
        have hawaiting : m.awaiting = true := hgoes.resolve_left (by simp [hempty])
        exact ⟨hop, hcell, hawaiting, hempty, hopen⟩
  · rintro ⟨rfl, hcell, hawaiting, hempty, hopen⟩
    rw [execute?, visit, visitInput_of_awaiting hcell hawaiting]
    exact (m.takeInput?_eq_none_iff n).mpr ⟨hopen, hempty⟩

/-- A line waits if it is an instruction that does. -/
theorem run?_eq_none_iff {m : Machine} {line : String} :
    m.run? line = none ↔ ∃ op n, Performs line op n ∧ m.execute? op n = none := by
  constructor
  · intro h
    have hdoes := m.does_visitLine line
    cases hvisit : m.visitLine line with
    | done =>
      rw [run?, hvisit] at h
      cases h
    | taking address =>
      rw [hvisit] at hdoes
      cases hdoes with
      | @performs op n _ hline =>
        refine ⟨op, n, hline, ?_⟩
        rwa [execute?, ← visitLine_of_performs hline]
  · rintro ⟨op, n, hline, hexecute⟩
    rwa [run?, visitLine_of_performs hline]

/-- The user has been asked for an input and has delivered none, and nobody has stopped the machine. -/
structure Unanswered (m : Machine) : Prop where
  awaiting : m.awaiting = true
  empty : m.mailbox.value = none
  unmarked : m.interrupted = false

theorem Agrees.execute?_eq_none_iff {m : Machine} (h : m.Agrees) {op : Opcode} {n : Int32} :
    m.execute? op n = none ↔ op = .input ∧ m.HasCell n ∧ m.Unanswered := by
  rw [Machine.execute?_eq_none_iff, h.closed_eq_false_iff]
  constructor
  · rintro ⟨hop, hcell, hawaiting, hempty, hunmarked⟩
    exact ⟨hop, hcell, hawaiting, hempty, hunmarked⟩
  · rintro ⟨hop, hcell, hawaiting, hempty, hunmarked⟩
    exact ⟨hop, hcell, hawaiting, hempty, hunmarked⟩

/-- Whatever calls have been made one after the other, the execution of a line waits for somebody else
exactly if the line is an input instruction for a cell that exists, on a machine that has asked for
an input, has nothing pending and is not interrupted. The request of an output waits exactly if
nothing is pending and the machine is not interrupted. -/
theorem waits_iff {m : Machine} {ops : List Operation} (h : after? {} ops = some m) :
    (∀ line, m.run? line = none ↔ ∃ n, Performs line .input n ∧ m.HasCell n ∧ m.Unanswered) ∧
    (∀ op n, m.execute? op n = none ↔ op = .input ∧ m.HasCell n ∧ m.Unanswered) ∧
    (m.requestOutput? = none ↔ m.mailbox.value = none ∧ m.interrupted = false) := by
  have hagrees : m.Agrees := agrees_of_after? h
  refine ⟨fun line => ?_, fun op n => hagrees.execute?_eq_none_iff, ?_⟩
  · rw [run?_eq_none_iff]
    constructor
    · rintro ⟨op, n, hline, hexecute⟩
      obtain ⟨rfl, hcell, hunanswered⟩ := hagrees.execute?_eq_none_iff.mp hexecute
      exact ⟨n, hline, hcell, hunanswered⟩
    · rintro ⟨n, hline, hcell, hunanswered⟩
      exact ⟨.input, n, hline, hagrees.execute?_eq_none_iff.mpr ⟨rfl, hcell, hunanswered⟩⟩
  · rw [requestOutput?_eq_none_iff, hagrees.closed_eq_false_iff, and_comm]

/-- An input is refused, and then its cell is gone for a while and the program goes on elsewhere. -/
def refusing : List Operation :=
  [.run "SET 2", .run "INP 2", .deliver "two", .run "INP 2", .run "SET 1", .run "INP 2", .run "SET 3",
    .run "OUT 3", .requestOutput, .run "JMP 2"]

theorem waits_iff_refusing :
    after? {} refusing = some { pc := 1, memory := some (.zeros 3), awaiting := true } ∧
      run? { pc := 1, memory := some (.zeros 3), awaiting := true } "INP 2" = none ∧
      run? { pc := 1, memory := some (.zeros 3), awaiting := true } "INP 4" ≠ none := by
  have hafter :
      after? {} refusing = some { pc := 1, memory := some (.zeros 3), awaiting := true } := by
    decide +kernel
  obtain ⟨hrun, -, -⟩ := waits_iff hafter
  have hsecond : Performs "INP 2" .input 2 := ⟨.written "inp" 2, rfl, rfl, rfl⟩
  refine ⟨hafter, (hrun _).mpr ⟨2, hsecond, ⟨.zeros 3, rfl, rfl⟩, rfl, rfl, rfl⟩, fun hwaits => ?_⟩
  obtain ⟨n, hline, hcell, -⟩ := (hrun _).mp hwaits
  obtain ⟨-, rfl⟩ := hline.unique ⟨.written "inp" 4, rfl, rfl, rfl⟩
  obtain ⟨_, ⟨⟩, hmissing⟩ := hcell
  cases hmissing

end Machine

end AccumulatorMachine
