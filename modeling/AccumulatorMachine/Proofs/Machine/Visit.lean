import AccumulatorMachine.Machine

/-! What the execution of a line and the access to its mailbox can do to a machine. -/
namespace AccumulatorMachine.Machine

def HasCell (m : Machine) (address : Int32) : Prop :=
  ∃ memory, m.memory = some memory ∧ memory.hasCell address = true

/-- The value of a cell; none if there is no such cell. -/
def cell? (m : Machine) (address : Int32) : Option Int32 := m.memory.bind (·.get? address)

theorem hasCell_of_get? {m : Machine} {memory : Memory} {address value : Int32}
    (hm : m.memory = some memory) (hv : memory.get? address = some value) : m.HasCell address := by
  refine ⟨memory, hm, ?_⟩
  rw [← Memory.get?_isSome, hv]
  rfl

theorem cell?_isSome {m : Machine} {address : Int32} (h : m.HasCell address) :
    (m.cell? address).isSome = true := by
  obtain ⟨memory, hm, hcell⟩ := h
  rw [← Memory.get?_isSome] at hcell
  simpa [cell?, hm] using hcell

theorem hasCell_iff_isSome (m : Machine) (address value : Int32) :
    m.HasCell address ↔ (m.memory.bind (·.set? address value)).isSome = true := by
  unfold HasCell
  cases m.memory with
  | none => simp
  | some memory => simp [Memory.set?_isSome]

theorem withCell_of_hasCell {m : Machine} {address : Int32} (h : m.HasCell address)
    (next : Memory → Int32 → Visit) :
    ∃ memory value, m.withCell address next = next memory value := by
  obtain ⟨memory, hm, hcell⟩ := h
  rw [← Memory.get?_isSome, Option.isSome_iff_exists] at hcell
  obtain ⟨value, hv⟩ := hcell
  exact ⟨memory, value, by simp [withCell, hm, hv]⟩

theorem withCell_eq {m : Machine} {memory : Memory} {n value : Int32} (hm : m.memory = some memory)
    (hvalue : memory.get? n = some value) (next : Memory → Int32 → Visit) :
    m.withCell n next = next memory value := by
  simp only [withCell, hm, hvalue]

/-! ### Instructions -/

/-- The operations whose operand is the number of a cell. -/
inductive Addresses : Opcode → Prop
  | arith (op : Arithmetic) : Addresses (.arith op)
  | load : Addresses .load
  | store : Addresses .store
  | input : Addresses .input
  | output : Addresses .output

/-- Why an instruction fails. -/
inductive Refuses (m : Machine) : Opcode → Int32 → Failure → Prop
  | size {n : Int32} (h : ¬ (0 ≤ n.toInt ∧ n.toInt ≤ Memory.maxSize)) : Refuses m .set n .memorySize
  | cell {op : Opcode} {n : Int32} (hop : Addresses op) (h : m.cell? n = none) :
      Refuses m op n .memoryAddress
  | constant {n : Int32} (h : m.memory = none) : Refuses m .constant n .memoryAddress
  | zero {n : Int32} (h : m.cell? n = some 0) : Refuses m (.arith .div) n .divisionByZero

/-- What an instruction does when it is visited. -/
inductive Does (m : Machine) (op : Opcode) (n : Int32) : Visit → Prop
  | silent (pc : Int) (memory : Option Memory) : Does m op n (.done .ok { m with pc, memory })
  | print (hop : op = .output) (hcell : m.HasCell n) (text : String) :
      Does m op n (.done .output { m with pc := m.pc + 1, mailbox := m.mailbox.write text })
  | ask (hop : op = .input) (hcell : m.HasCell n) (hempty : m.mailbox.value = none)
      (hnew : m.awaiting = false) : Does m op n (.done .input { m with awaiting := true })
  | take (hop : op = .input) (hcell : m.HasCell n)
      (h : m.mailbox.value.isSome = true ∨ m.awaiting = true) : Does m op n (.taking n)
  | fail {cause : Failure} (h : m.Refuses op n cause) : Does m op n (.done (.failed cause) m)
  | halt (hop : op = .halt) : Does m op n (.done .succeeded m)

/-- An instruction that needs a cell fails or finds it. -/
theorem does_withCell {m : Machine} {op : Opcode} {n : Int32} {next : Memory → Int32 → Visit}
    (hop : Addresses op)
    (h : ∀ memory value, m.HasCell n → m.cell? n = some value → m.Does op n (next memory value)) :
    m.Does op n (m.withCell n next) := by
  unfold withCell
  split
  · next hm => exact .fail (.cell hop (by simp [cell?, hm]))
  · next memory hm =>
    split
    · next hv => exact .fail (.cell hop (by simp [cell?, hm, hv]))
    · next value hv => exact h memory value (hasCell_of_get? hm hv) (by simp [cell?, hm, hv])

theorem does_visitArithmetic (m : Machine) (op : Arithmetic) (n : Int32) :
    m.Does (.arith op) n (m.visitArithmetic op n) := by
  refine does_withCell (.arith op) fun memory value _ hvalue => ?_
  split
  · exact .silent _ _
  · next hresult =>
    obtain ⟨rfl, rfl⟩ : op = .div ∧ value = 0 := by
      cases op <;> simp_all [Arithmetic.eval?]
    exact .fail (.zero hvalue)

theorem does_visitStore (m : Machine) (n : Int32) : m.Does .store n (m.visitStore n) := by
  unfold visitStore
  split
  · next hnone =>
    refine .fail (.cell .store ?_)
    cases hm : m.memory with
    | none => simp [cell?, hm]
    | some memory =>
      have hcell : memory.hasCell n = false := by
        rw [← Memory.set?_isSome memory n memory.accumulator]
        simpa [hm] using hnone
      rw [← Memory.get?_isSome] at hcell
      simpa [cell?, hm] using hcell
  · exact .silent _ _

theorem does_visitInput (m : Machine) (n : Int32) : m.Does .input n (m.visitInput n) := by
  refine does_withCell .input fun _ _ hcell _ => ?_
  cases hv : m.mailbox.value with
  | none =>
    cases ha : m.awaiting with
    | false => simpa [Mailbox.isEmpty, hv, ha] using Does.ask rfl hcell hv ha
    | true => simpa [Mailbox.isEmpty, hv, ha] using Does.take rfl hcell (.inr ha)
  | some text => simpa [Mailbox.isEmpty, hv] using Does.take rfl hcell (.inl (by simp [hv]))

theorem does_visit (m : Machine) (op : Opcode) (n : Int32) : m.Does op n (m.visit op n) := by
  cases op with
  | hop => exact .silent _ _
  | set =>
    simp only [visit, visitSet]
    split
    · exact .silent _ _
    · next hsize => exact .fail (.size hsize)
  | arith op => exact does_visitArithmetic m op n
  | load => exact does_withCell .load fun _ _ _ _ => .silent _ _
  | constant =>
    simp only [visit, visitConstant]
    split
    · next hm => exact .fail (.constant hm)
    · exact .silent _ _
  | store => exact does_visitStore m n
  | input => exact does_visitInput m n
  | output => exact does_withCell .output fun _ _ hcell _ => .print rfl hcell _
  | jump condition =>
    simp only [visit, visitJump]
    split
    · exact .silent _ _
    · exact .silent _ _
  | halt => exact .halt rfl

/-! ### Lines -/

/-- The line is an instruction of this operation with this operand. -/
def Performs (line : String) (op : Opcode) (n : Int32) : Prop :=
  ∃ i, Instruction.ofLine line = .ok i ∧ i.opcode? = some op ∧ i.operand = n

theorem visitLine_of_performs {line : String} {op : Opcode} {n : Int32} (h : Performs line op n)
    (m : Machine) : m.visitLine line = m.visit op n := by
  obtain ⟨i, hi, hop, rfl⟩ := h
  simp only [visitLine, hi, hop]

theorem Performs.unique {line : String} {op op' : Opcode} {n n' : Int32} (h : Performs line op n)
    (h' : Performs line op' n') : op = op' ∧ n = n' := by
  obtain ⟨i, hi, hop, rfl⟩ := h
  obtain ⟨j, hj, hop', rfl⟩ := h'
  obtain rfl : i = j := Except.ok.inj (hi.symm.trans hj)
  exact ⟨Option.some.inj (hop.symm.trans hop'), rfl⟩

/-- What a line does when it is visited. -/
inductive LineDoes (m : Machine) (line : String) : Visit → Prop
  | unreadable {e : LineError} (h : Instruction.ofLine line = .error e) :
      LineDoes m line (.done (.failed .unreadableLine) m)
  | unknown {i : Instruction} (h : Instruction.ofLine line = .ok i) (hop : i.opcode? = none) :
      LineDoes m line (.done (.failed .unknownCommand) m)
  | performs {op : Opcode} {n : Int32} {v : Visit} (hline : Performs line op n)
      (h : m.Does op n v) : LineDoes m line v

theorem does_visitLine (m : Machine) (line : String) : m.LineDoes line (m.visitLine line) := by
  unfold visitLine
  split
  · next hi => exact .unreadable hi
  · next i hi =>
    split
    · next hop => exact .unknown hi hop
    · next op hop => exact .performs ⟨i, hi, hop, rfl⟩ (m.does_visit op i.operand)

/-! ### Kinds of visits -/

/-- The kinds of visits there are, whatever the instruction. -/
inductive Visits (m : Machine) : Visit → Prop
  | silent (pc : Int) (memory : Option Memory) : Visits m (.done .ok { m with pc, memory })
  | print (text : String) :
      Visits m (.done .output { m with pc := m.pc + 1, mailbox := m.mailbox.write text })
  | ask {address : Int32} (hcell : m.HasCell address) (hempty : m.mailbox.value = none)
      (hnew : m.awaiting = false) : Visits m (.done .input { m with awaiting := true })
  | take {address : Int32} (hcell : m.HasCell address)
      (h : m.mailbox.value.isSome = true ∨ m.awaiting = true) : Visits m (.taking address)
  | fail (cause : Failure) : Visits m (.done (.failed cause) m)
  | halt : Visits m (.done .succeeded m)

theorem Does.visits {m : Machine} {op : Opcode} {n : Int32} {v : Visit} (h : m.Does op n v) :
    m.Visits v := by
  cases h with
  | silent pc memory => exact .silent pc memory
  | print _ _ text => exact .print text
  | ask _ hcell hempty hnew => exact .ask hcell hempty hnew
  | take _ hcell h => exact .take hcell h
  | @fail cause _ => exact .fail cause
  | halt => exact .halt

theorem LineDoes.visits {m : Machine} {line : String} {v : Visit} (h : m.LineDoes line v) :
    m.Visits v := by
  cases h with
  | unreadable => exact .fail .unreadableLine
  | unknown => exact .fail .unknownCommand
  | performs _ h => exact h.visits

theorem visits_visitLine (m : Machine) (line : String) : m.Visits (m.visitLine line) :=
  (m.does_visitLine line).visits

/-! ### Questions -/

theorem visitInput_of_hasCell {m : Machine} {address : Int32} (hcell : m.HasCell address) :
    m.visitInput address =
      if m.mailbox.isEmpty && !m.awaiting then .done .input { m with awaiting := true }
      else .taking address := by
  unfold visitInput
  obtain ⟨_, _, heq⟩ := withCell_of_hasCell hcell _
  exact heq

theorem visitInput_of_awaiting {m : Machine} {address : Int32} (hcell : m.HasCell address)
    (h : m.awaiting = true) : m.visitInput address = .taking address := by
  simp [visitInput_of_hasCell hcell, h]

/-- A line that asks takes a value when it is visited again. -/
theorem visitLine_eq_input {m m' : Machine} {line : String} (h : m.visitLine line = .done .input m') :
    ∃ address, m.HasCell address ∧ m.mailbox.value = none ∧ m.awaiting = false ∧
      m' = { m with awaiting := true } ∧
      ∀ n : Machine, n.memory = m.memory → n.awaiting = true → n.visitLine line = .taking address := by
  have hdoes := m.does_visitLine line
  rw [h] at hdoes
  cases hdoes with
  | @performs op address _ hline hdoes =>
    cases hdoes with
    | ask hop hcell hempty hnew =>
      obtain rfl := hop
      refine ⟨address, hcell, hempty, hnew, rfl, fun n hn hawait => ?_⟩
      rw [visitLine_of_performs hline, visit]
      exact visitInput_of_awaiting (by simpa [HasCell, hn] using hcell) hawait

/-! ### Ends of programs -/

/-- Whatever the machine, the line ends its program. -/
def Halts (line : String) : Prop :=
  ∃ i, Instruction.ofLine line = .ok i ∧ i.opcode? = some .halt

theorem visitLine_of_halts {line : String} (h : Halts line) (m : Machine) :
    m.visitLine line = .done .succeeded m := by
  obtain ⟨i, hi, hop⟩ := h
  simp only [visitLine, hi, hop, visit]

theorem halts_of_visitLine {m m' : Machine} {line : String}
    (h : m.visitLine line = .done .succeeded m') : Halts line := by
  have hdoes := m.does_visitLine line
  rw [h] at hdoes
  cases hdoes with
  | performs hline hdoes =>
    obtain ⟨i, hi, hop, -⟩ := hline
    cases hdoes with
    | halt hhalt => exact ⟨i, hi, hhalt ▸ hop⟩

/-! ### Access to the mailbox -/

theorem read?_cases {m n : Mailbox String} {value : Option String} (h : m.read? = some (value, n)) :
    m.closed = true ∧ value = none ∧ n = m ∨
      ∃ text, m.closed = false ∧ m.value = some text ∧ value = some text ∧ n = {} := by
  cases hc : m.closed with
  | true =>
    simp [Mailbox.read?, hc] at h
    exact .inl ⟨rfl, h.1.symm, h.2.symm⟩
  | false =>
    simp [Mailbox.read?, hc] at h
    obtain ⟨text, ht, hv, hn⟩ := h
    exact .inr ⟨text, rfl, ht, hv.symm, hn.symm⟩

/-- How the store of an input ends. -/
inductive Stores (m : Machine) (address : Int32) (input : Option String) : Status → Machine → Prop
  | refused (hread : input.bind readInput? = none) :
      Stores m address input (.failed .invalidInput) m
  | missing {value : Int32} (hread : input.bind readInput? = some value)
      (hset : m.memory.bind (·.set? address value) = none) :
      Stores m address input (.failed .memoryAddress) m
  | stored {value : Int32} {memory : Memory} (hread : input.bind readInput? = some value)
      (hset : m.memory.bind (·.set? address value) = some memory) :
      Stores m address input .ok { m.withMemory memory with awaiting := false }.advance

theorem stores_storeInput (m : Machine) (address : Int32) (input : Option String) :
    m.Stores address input (m.storeInput address input).1 (m.storeInput address input).2 := by
  unfold storeInput
  split
  · next hread => exact .refused hread
  · next value hread =>
    split
    · next hset => exact .missing hread hset
    · next memory hset => exact .stored hread hset

theorem stores_of_takeInput? {m n : Machine} {address : Int32} {status : Status}
    (h : m.takeInput? address = some (status, n)) :
    ∃ input mailbox, m.mailbox.read? = some (input, mailbox) ∧
      Stores { m with mailbox } address input status n := by
  obtain ⟨⟨input, mailbox⟩, hread, hstore⟩ := Option.map_eq_some_iff.mp h
  have hstores := stores_storeInput { m with mailbox } address input
  simp only [hstore] at hstores
  exact ⟨input, mailbox, hread, hstores⟩

/-- What a visit that goes on to take an input comes to. -/
inductive Takes (m : Machine) : Status → Machine → Prop
  | closed (h : m.mailbox.closed = true) : Takes m (.failed .invalidInput) m
  | stored {text : String} (hopen : m.mailbox.closed = false) (hvalue : m.mailbox.value = some text)
      (memory : Memory) :
      Takes m .ok
        { m with pc := m.pc + 1, memory := some memory, mailbox := {}, awaiting := false }
  | refused {text : String} (hopen : m.mailbox.closed = false)
      (hvalue : m.mailbox.value = some text) (cause : Failure) :
      Takes m (.failed cause) { m with mailbox := {} }

theorem takes_takeInput? {m n : Machine} {address : Int32} {status : Status}
    (h : m.takeInput? address = some (status, n)) : m.Takes status n := by
  obtain ⟨input, mailbox, hread, hstores⟩ := stores_of_takeInput? h
  obtain ⟨hclosed, rfl, rfl⟩ | ⟨text, hopen, hvalue, rfl, rfl⟩ := read?_cases hread
  · cases hstores with
    | refused => exact .closed hclosed
    | missing hnumber | stored hnumber => cases hnumber
  · cases hstores with
    | refused => exact .refused hopen hvalue .invalidInput
    | missing => exact .refused hopen hvalue .memoryAddress
    | stored => exact .stored hopen hvalue _

/-- With a cell to go to, an input fails only for want of a number, and the registers stay as they
are. -/
theorem refused_of_takeInput? {m n : Machine} {address : Int32} {cause : Failure}
    (hcell : m.HasCell address) (h : m.takeInput? address = some (.failed cause, n)) :
    cause = .invalidInput ∧ n.pc = m.pc ∧ n.memory = m.memory := by
  obtain ⟨input, mailbox, -, hstores⟩ := stores_of_takeInput? h
  cases hstores with
  | refused => exact ⟨rfl, rfl, rfl⟩
  | @missing value _ hset =>
    rw [m.hasCell_iff_isSome address value, hset] at hcell
    cases hcell

theorem requestOutput?_cases {m n : Machine} {value : Option String}
    (h : m.requestOutput? = some (value, n)) :
    m.mailbox.closed = true ∧ value = none ∧ n = m ∨
      ∃ text, m.mailbox.closed = false ∧ m.mailbox.value = some text ∧ value = some text ∧
        n = { m with mailbox := {} } := by
  simp only [requestOutput?, Option.map_eq_some_iff] at h
  obtain ⟨⟨text, mailbox⟩, hr, hs⟩ := h
  obtain ⟨hc, rfl, rfl⟩ | ⟨text, hopen, hvalue, rfl, rfl⟩ := read?_cases hr
  · cases hs
    exact .inl ⟨hc, rfl, rfl⟩
  · cases hs
    exact .inr ⟨text, hopen, hvalue, rfl, rfl⟩

/-! ### What a line leaves as it is -/

theorem interrupted_of_visitLine {m n : Machine} {line : String} {status : Status}
    (h : m.visitLine line = .done status n) : n.interrupted = m.interrupted := by
  have hv := m.visits_visitLine line
  rw [h] at hv
  cases hv <;> rfl

theorem interrupted_of_takeInput? {m n : Machine} {address : Int32} {status : Status}
    (h : m.takeInput? address = some (status, n)) : n.interrupted = m.interrupted := by
  cases takes_takeInput? h <;> rfl

theorem interrupted_of_requestOutput? {m n : Machine} {text : Option String}
    (h : m.requestOutput? = some (text, n)) : n.interrupted = m.interrupted := by
  obtain ⟨-, -, rfl⟩ | ⟨_, -, -, -, rfl⟩ := requestOutput?_cases h <;> rfl

theorem closed_of_visitLine {m n : Machine} {line : String} {status : Status}
    (h : m.visitLine line = .done status n) : n.mailbox.closed = m.mailbox.closed := by
  have hv := m.visits_visitLine line
  rw [h] at hv
  cases hv <;> rfl

theorem closed_of_takeInput? {m n : Machine} {address : Int32} {status : Status}
    (h : m.takeInput? address = some (status, n)) : n.mailbox.closed = m.mailbox.closed := by
  cases takes_takeInput? h with
  | closed _ => rfl
  | stored hopen | refused hopen => exact hopen.symm

theorem closed_of_requestOutput? {m n : Machine} {text : Option String}
    (h : m.requestOutput? = some (text, n)) : n.mailbox.closed = m.mailbox.closed := by
  obtain ⟨-, -, rfl⟩ | ⟨_, hopen, -, -, rfl⟩ := requestOutput?_cases h
  · rfl
  · exact hopen.symm

end AccumulatorMachine.Machine
