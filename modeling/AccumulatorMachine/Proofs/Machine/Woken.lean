import AccumulatorMachine.Proofs.Machine.Frame
import AccumulatorMachine.Proofs.Machine.Waiting

/-! An input instruction that has had to wait. It has looked for its cell before the wait. Until it stores
the input, other threads may take the memory away, bring one of another size or move the program
counter, so it has to look again. -/
namespace AccumulatorMachine.Machine

/-! ### The wait -/

/-- An input instruction waits at a machine. Others go on with their calls and begin new ones until it
takes what it finds in the mailbox, and again until it has the registers. -/
inductive Wakes (m : Machine) (address : Int32) : Contended → Option String → Contended → Prop
  | mk {calls : List Unfinished} {woken storing : Contended} {input : Option String}
      {mailbox : Mailbox String} (hwaits : m.execute? .input address = none)
      (hwhile : Relation.ReflTransGen Contended.Step ⟨m, calls⟩ woken)
      (htakes : woken.machine.mailbox.read? = some (input, mailbox))
      (hthen : Relation.ReflTransGen Contended.Step
        { woken with machine := { woken.machine with mailbox } } storing) :
      Wakes m address woken input storing

/-- A call that returns is made of such actions. -/
theorem steps_of_effect? {m m' : Machine} {op : Operation} (hop : ∀ o n, op ≠ .execute o n)
    (h : op.effect? m = some m') : Relation.ReflTransGen Contended.Step ⟨m, []⟩ ⟨m', []⟩ := by
  cases op with
  | run line =>
    obtain ⟨⟨status, _⟩, hrun, rfl⟩ := Option.map_eq_some_iff.mp h
    unfold run? at hrun
    cases hvisit : m.visitLine line with
    | done =>
      rw [hvisit] at hrun
      cases hrun
      exact .single (.inr (.visit hvisit))
    | taking address =>
      rw [hvisit] at hrun
      exact .single (.inr (.take hrun))
  | execute o n => exact absurd rfl (hop o n)
  | resume address =>
    obtain ⟨⟨status, _⟩, htake, rfl⟩ := Option.map_eq_some_iff.mp h
    exact .single (.inr (.take htake))
  | deliver text =>
    cases h
    exact .single (.inr (.deliver ⟨m, []⟩ text))
  | interrupt =>
    cases h
    exact (Contended.steps_interrupt m).lift id fun _ _ hstep => hstep.1
  | reset =>
    cases h
    exact (Contended.steps_reset m).lift id fun _ _ hstep => hstep.1
  | requestOutput =>
    obtain ⟨⟨text, _⟩, hrequest, rfl⟩ := Option.map_eq_some_iff.mp h
    exact .single (.inr (.fetch hrequest))

theorem steps_of_after? {m m' : Machine} {ops : List Operation}
    (hops : ∀ op ∈ ops, ∀ o n, op ≠ .execute o n) (h : m.after? ops = some m') :
    Relation.ReflTransGen Contended.Step ⟨m, []⟩ ⟨m', []⟩ := by
  induction ops generalizing m with
  | nil =>
    obtain rfl := Option.some.inj h
    exact .refl
  | cons op ops ih =>
    obtain ⟨n, hop, hrest⟩ := Option.bind_eq_some_iff.mp h
    obtain ⟨hfirst, hops⟩ := List.forall_mem_cons.mp hops
    exact (steps_of_effect? hfirst hop).trans (ih hops hrest)

/-! ### The store by place -/

/-- Stores an input at the place that was found before the wait, if the row still has it. There is no
result if a place is written outside of the row. -/
def storeAt? (m : Machine) (place : Nat) (input : Option String) : Option (Status × Machine) :=
  match input.bind readInput? with
  | none => some (.failed .invalidInput, m)
  | some value =>
    match m.memory with
    | none => some (.failed .memoryAddress, m)
    | some memory =>
      if place < memory.toList.length then
        ((put? memory.toList place value).bind Memory.ofRow?).map fun memory =>
          (.ok, { m.withMemory memory with awaiting := false }.advance)
      else some (.failed .memoryAddress, m)

/-- The place of a cell is in the row if the cell exists, whatever memory it was found in. -/
theorem hasCell_iff_lt_length {memory : Memory} {address : Int32} (h : 1 ≤ address.toInt) :
    memory.hasCell address = true ↔ address.toInt.toNat < memory.toList.length := by
  simp only [Memory.hasCell, Bool.and_eq_true, decide_eq_true_eq, Memory.toList, List.length_cons]
  omega

theorem storeAt?_eq (m : Machine) {address : Int32} (h : 1 ≤ address.toInt) (input : Option String) :
    m.storeAt? address.toInt.toNat input = some (m.storeInput address input) := by
  unfold storeAt? storeInput
  cases input.bind readInput? with
  | none => rfl
  | some value =>
    cases hm : m.memory with
    | none => rfl
    | some memory =>
      have hplace := Memory.toNat_eq_index_succ h
      simp only [← hasCell_iff_lt_length h, Option.bind_some, Memory.set?]
      cases hcell : memory.hasCell address with
      | false => rfl
      | true =>
        rw [hplace, put?_index hcell]
        rfl

/-! ### The end -/

/-- How an input instruction ends that has taken this input and has the registers of this machine. -/
structure Outcome (m : Machine) (address : Int32) (input : Option String) (status : Status)
    (m' : Machine) : Prop where
  ok_iff : status = .ok ↔ (∃ value, input.bind readInput? = some value) ∧ m.HasCell address
  invalid_iff : status = .failed .invalidInput ↔ input.bind readInput? = none
  missing_iff : status = .failed .memoryAddress ↔
    (∃ value, input.bind readInput? = some value) ∧ ¬ m.HasCell address
  stored : status = .ok → ∃ value, input.bind readInput? = some value ∧
    m'.snapshot.memory = m.snapshot.memory.map (·.set address.toInt.toNat value) ∧ m'.pc = m.pc + 1
  kept : status ≠ .ok → m'.memory = m.memory ∧ m'.pc = m.pc

/-- What is in the mailbox does not matter any more. -/
theorem Outcome.congr {m n m' : Machine} {address : Int32} {input : Option String} {status : Status}
    (h : m.Outcome address input status m') (hmemory : n.memory = m.memory) (hpc : n.pc = m.pc) :
    n.Outcome address input status m' := by
  obtain ⟨hok, hinvalid, hmissing, hstored, hkept⟩ := h
  have hrow : n.snapshot.memory = m.snapshot.memory := by rw [snapshot, snapshot, hmemory]
  have hcell : n.HasCell address ↔ m.HasCell address := by rw [HasCell, HasCell, hmemory]
  rw [← hcell] at hok hmissing
  rw [← hrow, ← hpc] at hstored
  rw [← hmemory, ← hpc] at hkept
  exact ⟨hok, hinvalid, hmissing, hstored, hkept⟩

theorem Stores.outcome {m m' : Machine} {address : Int32} {input : Option String} {status : Status}
    (h : m.Stores address input status m') : m.Outcome address input status m' := by
  cases h with
  | refused hread =>
    have hnot (P : Prop) : ¬ ((∃ value, input.bind readInput? = some value) ∧ P) := by
      rintro ⟨⟨value, hvalue⟩, -⟩
      cases hread.symm.trans hvalue
    exact {
      ok_iff := iff_of_false (by decide) (hnot _)
      invalid_iff := iff_of_true rfl hread
      missing_iff := iff_of_false (by decide) (hnot _)
      stored := fun hok => absurd hok (by decide)
      kept := fun _ => ⟨rfl, rfl⟩ }
  | @missing value hread hset =>
    have hcell : ¬ m.HasCell address := by
      rw [m.hasCell_iff_isSome address value, hset]
      exact Bool.false_ne_true
    exact {
      ok_iff := iff_of_false (by decide) fun hall => hcell hall.2
      invalid_iff := iff_of_false (by decide) (by simp [hread])
      missing_iff := iff_of_true rfl ⟨⟨value, hread⟩, hcell⟩
      stored := fun hok => absurd hok (by decide)
      kept := fun _ => ⟨rfl, rfl⟩ }
  | @stored value memory hread hset =>
    have hcell : m.HasCell address := by
      rw [m.hasCell_iff_isSome address value, hset]
      rfl
    obtain ⟨before, hm, -, hset⟩ := toList_of_set? hset
    have hrow : some memory.toList = m.snapshot.memory.map (·.set address.toInt.toNat value) := by
      rw [snapshot, hm, hset]
      rfl
    exact {
      ok_iff := iff_of_true rfl ⟨⟨value, hread⟩, hcell⟩
      invalid_iff := iff_of_false (by decide) (by simp [hread])
      missing_iff := iff_of_false (by decide) fun hall => hall.2 hcell
      stored := fun _ => ⟨value, hread, hrow, rfl⟩
      kept := fun hne => absurd rfl hne }

/-- Whatever other threads do while an input instruction waits, it ends safely once it wakes. It has been
woken by a text in an open mailbox, which it takes, or by the close of the mailbox, which leaves it
without an input. If the text is a number and the cell exists in the memory that is there by then,
the number is stored in it and the program counter moves on from where it is by then. If not, the
instruction fails, and memory and program counter stay as the others have left them; the cell is
missed exactly if there is a number and no such cell any more. This holds as well if others act
between the mailbox and the registers. No place outside of the memory is written, though the place
was found in an earlier one. -/
theorem woken_input_safe {m : Machine} {address : Int32} {woken storing : Contended}
    {input : Option String} (h : m.Wakes address woken input storing) :
    (woken.machine.mailbox.closed = true ∧ input = none ∨
      ∃ text, woken.machine.mailbox.closed = false ∧ woken.machine.mailbox.value = some text ∧
        input = some text) ∧
    (∃ status m', woken.machine.takeInput? address = some (status, m') ∧
      woken.machine.Outcome address input status m') ∧
    ∃ status m', storing.machine.storeInput address input = (status, m') ∧
      storing.machine.storeAt? address.toInt.toNat input = some (status, m') ∧
      storing.machine.Outcome address input status m' := by
  obtain @⟨_, _, _, _, mailbox, hwaits, -, htakes, -⟩ := h
  obtain ⟨-, ⟨memory, -, hcell⟩, -⟩ := execute?_eq_none_iff.mp hwaits
  have hlow : 1 ≤ address.toInt := Memory.one_le_of_hasCell hcell
  refine ⟨?_, ?_, ?_⟩
  · obtain ⟨hclosed, hinput, -⟩ | ⟨text, hopen, hvalue, hinput, -⟩ := read?_cases htakes
    · exact .inl ⟨hclosed, hinput⟩
    · exact .inr ⟨text, hopen, hvalue, hinput⟩
  · have hstores := stores_storeInput { woken.machine with mailbox } address input
    refine ⟨_, _, ?_, hstores.outcome.congr rfl rfl⟩
    rw [takeInput?, htakes]
    rfl
  · have hstores := stores_storeInput storing.machine address input
    exact ⟨_, _, rfl, storing.machine.storeAt?_eq hlow input, hstores.outcome⟩

/-- A machine at which `INP 2` waits. -/
def waiting : Machine := { pc := 1, memory := some (.zeros 2), awaiting := true }

/-- The machine is reset, and what others print wakes the instruction. -/
def refill : List Operation := [.reset, .run "SET 3", .run "LDK 4", .run "STA 3", .run "OUT 3"]

def refilled : Machine := { pc := 4, memory := some ⟨4, [0, 0, 4]⟩ }

/-- The number goes to the cell if the memory still has it when the instruction comes to store. -/
theorem woken_input_safe_refilled :
    (waiting.Wakes 2 ⟨refilled.deliver "4", []⟩ (some "4") ⟨refilled, []⟩ ∧
      refilled.Outcome 2 (some "4") .ok { pc := 5, memory := some ⟨4, [0, 4, 4]⟩ }) ∧
    waiting.Wakes 2 ⟨refilled.deliver "4", []⟩ (some "4") ⟨{ pc := 5, memory := some (.zeros 1) }, []⟩ ∧
      Outcome { pc := 5, memory := some (.zeros 1) } 2 (some "4") (.failed .memoryAddress)
        { pc := 5, memory := some (.zeros 1) } := by
  have hwaits : waiting.execute? .input 2 = none := by decide
  have hrefill : waiting.after? refill = some (refilled.deliver "4") := by decide +kernel
  have hshrink : refilled.after? [.run "SET 1"] = some { pc := 5, memory := some (.zeros 1) } := by
    decide +kernel
  have hwhile := steps_of_after? (by simp [refill]) hrefill
  have hthen := steps_of_after? (by simp) hshrink
  have hstored : waiting.Wakes 2 ⟨refilled.deliver "4", []⟩ (some "4") ⟨refilled, []⟩ :=
    .mk hwaits hwhile rfl .refl
  have hmissed : waiting.Wakes 2 ⟨refilled.deliver "4", []⟩ (some "4")
      ⟨{ pc := 5, memory := some (.zeros 1) }, []⟩ :=
    .mk hwaits hwhile rfl hthen
  obtain ⟨-, -, _, _, hend, -, houtcome⟩ := woken_input_safe hstored
  obtain ⟨-, -, _, _, hend', -, houtcome'⟩ := woken_input_safe hmissed
  cases hend
  cases hend'
  exact ⟨⟨hstored, houtcome⟩, hmissed, houtcome'⟩

end AccumulatorMachine.Machine
