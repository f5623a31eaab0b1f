import AccumulatorMachine.Proofs.Machine.Visit

/-! What the execution of a line does to the registers, and at which places of the memory. -/
namespace AccumulatorMachine

/-! ### Sizes -/

namespace Memory

theorem length_of_set? {m m' : Memory} {address value : Int32} (h : m.set? address value = some m') :
    m'.cells.length = m.cells.length := by
  unfold set? at h
  split at h
  · cases h
    simp
  · cases h

end Memory

namespace Machine

/-- The number of cells; none while there is no memory. -/
def size? (m : Machine) : Option Nat := m.memory.map (·.cells.length)

theorem size?_eq_of_set? {m : Machine} {memory : Memory} {address : Int32} {value : Memory → Int32}
    (h : (m.memory.bind fun memory => memory.set? address (value memory)) = some memory) :
    m.size? = some memory.cells.length := by
  obtain ⟨memory', hm, hset⟩ := Option.bind_eq_some_iff.mp h
  rw [size?, hm, Option.map_some, Memory.length_of_set? hset]

/-! ### Silent instructions -/

/-- The operations that leave a value in the accumulator. -/
inductive Accumulates : Opcode → Prop
  | arith (op : Arithmetic) : Accumulates (.arith op)
  | load : Accumulates .load
  | constant : Accumulates .constant

/-- What becomes of a machine by an instruction after which nothing is printed or asked for. -/
inductive Silently (m : Machine) (n : Int32) : Opcode → Machine → Prop
  | hop : Silently m n .hop m.advance
  | set {size : Nat} (hn : n.toInt = size) (hsize : size ≤ Memory.maxSize) :
      Silently m n .set (m.withMemory (.zeros size)).advance
  | accumulate {op : Opcode} {memory : Memory} (hop : Accumulates op) (hm : m.memory = some memory)
      (value : Int32) :
      Silently m n op (m.withMemory { memory with accumulator := value }).advance
  | store {memory : Memory}
      (h : (m.memory.bind fun memory => memory.set? n memory.accumulator) = some memory) :
      Silently m n .store (m.withMemory memory).advance
  | jump {condition : Condition} (h : condition.holds m.accumulator = true) :
      Silently m n (.jump condition) { m with pc := n.toInt - 1 }
  | pass {condition : Condition} (h : condition.holds m.accumulator = false) :
      Silently m n (.jump condition) m.advance

theorem withCell_eq_done_ok {m m' : Machine} {n : Int32} {next : Memory → Int32 → Visit}
    (h : m.withCell n next = .done .ok m') :
    ∃ memory value, m.memory = some memory ∧ memory.get? n = some value ∧
      next memory value = .done .ok m' := by
  unfold withCell at h
  split at h
  · cases h
  · next memory hm =>
    split at h
    · cases h
    · next value hvalue => exact ⟨memory, value, hm, hvalue, h⟩

theorem silently_of_visit {m m' : Machine} {op : Opcode} {n : Int32}
    (h : m.visit op n = .done .ok m') : m.Silently n op m' := by
  cases op with
  | hop =>
    cases h
    exact .hop
  | set =>
    simp only [visit, visitSet] at h
    split at h
    · next hn =>
      cases h
      exact .set (Int.toNat_of_nonneg hn.1).symm (by omega)
    · cases h
  | arith op =>
    obtain ⟨memory, value, hm, -, hnext⟩ := withCell_eq_done_ok h
    split at hnext
    · cases hnext
      exact .accumulate (.arith op) hm _
    · cases hnext
  | load =>
    obtain ⟨memory, value, hm, -, hnext⟩ := withCell_eq_done_ok h
    cases hnext
    exact .accumulate .load hm value
  | constant =>
    simp only [visit, visitConstant] at h
    split at h
    · cases h
    · next memory hm =>
      cases h
      exact .accumulate .constant hm n
  | store =>
    simp only [visit, visitStore] at h
    split at h
    · cases h
    · next memory hmemory =>
      cases h
      exact .store hmemory
  | input =>
    obtain ⟨_, _, _, -, hnext⟩ := withCell_eq_done_ok h
    split at hnext <;> cases hnext
  | output =>
    obtain ⟨_, _, _, -, hnext⟩ := withCell_eq_done_ok h
    cases hnext
  | jump condition =>
    simp only [visit, visitJump] at h
    split at h
    · next hholds =>
      cases h
      exact .jump hholds
    · next hholds =>
      cases h
      exact .pass (by simpa using hholds)
  | halt => cases h

/-- A silent instruction has nothing to do with the mailbox and the flags. -/
theorem Silently.keeps {m m' : Machine} {op : Opcode} {n : Int32} (h : m.Silently n op m') :
    m'.mailbox = m.mailbox ∧ m'.awaiting = m.awaiting ∧ m'.interrupted = m.interrupted := by
  cases h <;> exact ⟨rfl, rfl, rfl⟩

theorem Silently.ne_input {m m' : Machine} {op : Opcode} {n : Int32} (h : m.Silently n op m') :
    op ≠ .input := by
  rintro rfl
  nomatch h

theorem Silently.ne_output {m m' : Machine} {op : Opcode} {n : Int32} (h : m.Silently n op m') :
    op ≠ .output := by
  rintro rfl
  nomatch h

/-- The set instruction decides the size of the memory, and no other instruction changes it. -/
theorem Silently.size?_cases {m m' : Machine} {op : Opcode} {n : Int32} (h : m.Silently n op m') :
    (∃ size : Nat, op = .set ∧ n.toInt = size ∧ size ≤ Memory.maxSize ∧ m'.size? = some size) ∨
      op ≠ .set ∧ m'.size? = m.size? := by
  cases h with
  | @set size hn hsize =>
    refine .inl ⟨size, rfl, hn, hsize, ?_⟩
    simp [size?, advance, withMemory, Memory.zeros]
  | accumulate hop hm =>
    refine .inr ⟨fun hset => ?_, by simp [size?, advance, withMemory, hm]⟩
    cases hset ▸ hop
  | store hset => exact .inr ⟨by decide, (size?_eq_of_set? hset).symm⟩
  | hop | jump | pass => exact .inr ⟨by simp, rfl⟩

/-! ### Lines -/

/-- What the execution of a line comes to. -/
inductive Runs (m : Machine) (line : String) : Status → Machine → Prop
  | silent {op : Opcode} {n : Int32} {m' : Machine} (hline : Performs line op n)
      (h : m.Silently n op m') : Runs m line .ok m'
  | printed {n : Int32} (hline : Performs line .output n) (mailbox : Mailbox String) :
      Runs m line .output { m.advance with mailbox }
  | asked {n : Int32} (hline : Performs line .input n) (hcell : m.HasCell n) :
      Runs m line .input { m with awaiting := true }
  | stored {n value : Int32} {memory : Memory} (hline : Performs line .input n)
      (h : (m.memory.bind fun memory => memory.set? n value) = some memory)
      (mailbox : Mailbox String) :
      Runs m line .ok { m.advance with memory := some memory, mailbox, awaiting := false }
  | ended {status : Status} (h : status.continues = false) (mailbox : Mailbox String) :
      Runs m line status { m with mailbox }

theorem Runs.size?_cases {m m' : Machine} {line : String} {status : Status}
    (h : m.Runs line status m') :
    (∃ (n : Int32) (size : Nat), Performs line .set n ∧ n.toInt = size ∧ size ≤ Memory.maxSize ∧
      status = .ok ∧ m'.size? = some size) ∨
      (status = .ok → ∀ n, ¬ Performs line .set n) ∧ m'.size? = m.size? := by
  cases h with
  | @silent op n _ hline hsilent =>
    obtain ⟨size, rfl, hn, hle, hsize⟩ | ⟨hop, hsize⟩ := hsilent.size?_cases
    · exact .inl ⟨n, size, hline, hn, hle, rfl, hsize⟩
    · exact .inr ⟨fun _ _ hset => hop (hline.unique hset).1, hsize⟩
  | printed hline | asked hline =>
    refine .inr ⟨fun _ _ hset => ?_, rfl⟩
    cases (hline.unique hset).1
  | stored hline hmemory =>
    refine .inr ⟨fun _ _ hset => ?_, (size?_eq_of_set? hmemory).symm⟩
    cases (hline.unique hset).1
  | ended hends =>
    refine .inr ⟨fun hok => ?_, rfl⟩
    rw [hok] at hends
    cases hends

theorem runs_of_visit {m m' : Machine} {line : String} {op : Opcode} {n : Int32} {status : Status}
    (hline : Performs line op n) (h : m.visit op n = .done status m') : m.Runs line status m' := by
  have hdoes := m.does_visit op n
  rw [h] at hdoes
  cases hdoes with
  | silent => exact .silent hline (silently_of_visit h)
  | print hop _ text =>
    obtain rfl := hop
    exact .printed hline _
  | ask hop hcell =>
    obtain rfl := hop
    exact .asked hline hcell
  | fail | halt => exact .ended rfl m.mailbox

theorem runs_of_takeInput? {m m' : Machine} {line : String} {n : Int32} {status : Status}
    (hline : Performs line .input n) (h : m.takeInput? n = some (status, m')) :
    m.Runs line status m' := by
  obtain ⟨input, mailbox, -, hstores⟩ := stores_of_takeInput? h
  cases hstores with
  | refused | missing => exact .ended rfl mailbox
  | stored _ hset => exact Runs.stored (m := m) hline hset mailbox

theorem runs_of_run? {m m' : Machine} {line : String} {status : Status}
    (h : m.run? line = some (status, m')) : m.Runs line status m' := by
  have hdoes := m.does_visitLine line
  unfold run? at h
  cases hvisit : m.visitLine line with
  | done status' m'' =>
    rw [hvisit] at h hdoes
    cases h
    cases hdoes with
    | unreadable | unknown => exact .ended rfl m.mailbox
    | performs hline =>
      rw [visitLine_of_performs hline] at hvisit
      exact runs_of_visit hline hvisit
  | taking address =>
    rw [hvisit] at h hdoes
    cases hdoes with
    | performs hline hdoes =>
      cases hdoes with
      | take hop =>
        obtain rfl := hop
        exact runs_of_takeInput? hline h

end Machine

/-! ### Places of the memory -/

/-- Replaces what is at a place of a row; none outside of the row. -/
def put? {α : Type} (row : List α) (place : Nat) (value : α) : Option (List α) :=
  if place < row.length then some (row.set place value) else none

namespace Memory

/-- The memory with this row of the accumulator and the cells. -/
def ofRow? : List Int32 → Option Memory
  | [] => none
  | accumulator :: cells => some { accumulator, cells }

/-- The place in the row of a cell that exists. -/
def place? (m : Memory) (address : Int32) : Option Nat :=
  if 1 ≤ address.toInt ∧ address.toInt < m.toList.length then some address.toInt.toNat else none

theorem one_le_of_hasCell {m : Memory} {address : Int32} (h : m.hasCell address = true) :
    1 ≤ address.toInt := by
  simp only [hasCell, Bool.and_eq_true, decide_eq_true_eq] at h
  exact h.1

theorem toNat_eq_index_succ {address : Int32} (h : 1 ≤ address.toInt) :
    address.toInt.toNat = index address + 1 := by
  rw [index]
  omega

theorem place?_of_not_hasCell {m : Memory} {address : Int32} (h : m.hasCell address = false) :
    m.place? address = none := by
  rw [place?, if_neg]
  simp only [hasCell, Bool.and_eq_false_iff, decide_eq_false_iff_not] at h
  simp only [toList, List.length_cons]
  omega

theorem place?_of_hasCell {m : Memory} {address : Int32} (h : m.hasCell address = true) :
    m.place? address = some (index address + 1) := by
  simp only [hasCell, Bool.and_eq_true, decide_eq_true_eq] at h
  rw [place?, if_pos]
  · rw [index]
    congr 1
    omega
  · simp only [toList, List.length_cons]
    omega

theorem hasCell_of_get? {m : Memory} {address value : Int32} (h : m.get? address = some value) :
    m.hasCell address = true ∧ m.toList[index address + 1]? = some value := by
  unfold get? at h
  split at h
  · next hcell => exact ⟨hcell, h⟩
  · cases h

end Memory

namespace Machine

/-- Continues with the row of the memory and the place of a cell, if the cell exists. -/
def atPlace? (m : Machine) (address : Int32) (next : List Int32 → Nat → Option Visit) :
    Option Visit :=
  match m.memory with
  | none => some (.done (.failed .memoryAddress) m)
  | some memory =>
    match memory.place? address with
    | none => some (.done (.failed .memoryAddress) m)
    | some place => next memory.toList place

def withRow? (m : Machine) (row : List Int32) : Option Visit :=
  (Memory.ofRow? row).map fun memory => .done .ok (m.withMemory memory).advance

/-- An instruction that reads and writes the row of the accumulator and the cells by place. There is
no result if a place is outside of the row. -/
def visitRow? (m : Machine) : Opcode → Int32 → Option Visit
  | .arith op, n => m.atPlace? n fun row place =>
    row[0]?.bind fun a => row[place]?.bind fun b =>
      match op.eval? a b with
      | some result => (put? row 0 result).bind m.withRow?
      | none => some (.done (.failed .divisionByZero) m)
  | .load, n => m.atPlace? n fun row place =>
    row[place]?.bind fun value => (put? row 0 value).bind m.withRow?
  | .constant, n =>
    match m.memory with
    | none => some (.done (.failed .memoryAddress) m)
    | some memory => (put? memory.toList 0 n).bind m.withRow?
  | .store, n => m.atPlace? n fun row place =>
    row[0]?.bind fun value => (put? row place value).bind m.withRow?
  | .output, n => m.atPlace? n fun row place =>
    row[place]?.map fun value =>
      .done .output { m with mailbox := m.mailbox.write (Text.decimal32 value) }.advance
  -- the others ask at most whether a cell exists
  | op, n => some (m.visit op n)

theorem atPlace?_eq {m : Machine} {n : Int32} {next : List Int32 → Nat → Option Visit}
    {next' : Memory → Int32 → Visit}
    (h : ∀ memory value, memory.hasCell n = true →
      memory.toList[Memory.index n + 1]? = some value →
        next memory.toList (Memory.index n + 1) = some (next' memory value)) :
    m.atPlace? n next = some (m.withCell n next') := by
  unfold atPlace? withCell
  cases m.memory with
  | none => rfl
  | some memory =>
    cases hvalue : memory.get? n with
    | none =>
      have hcell : memory.hasCell n = false := by
        rw [← Memory.get?_isSome, hvalue]
        rfl
      simp only [Memory.place?_of_not_hasCell hcell, hvalue]
    | some value =>
      obtain ⟨hcell, hplace⟩ := Memory.hasCell_of_get? hvalue
      simp only [Memory.place?_of_hasCell hcell, hvalue]
      exact h memory value hcell hplace

theorem put?_zero (memory : Memory) (value : Int32) :
    put? memory.toList 0 value = some (value :: memory.cells) := by
  simp [put?, Memory.toList]

theorem put?_index {memory : Memory} {n : Int32} (h : memory.hasCell n = true) (value : Int32) :
    put? memory.toList (Memory.index n + 1) value =
      some (memory.accumulator :: memory.cells.set (Memory.index n) value) := by
  simp [put?, Memory.toList, Memory.index_lt_length h]

theorem visitStore_eq (m : Machine) (n : Int32) :
    m.visitStore n = m.withCell n fun memory _ =>
      .done .ok (m.withMemory { memory with
        cells := memory.cells.set (Memory.index n) memory.accumulator }).advance := by
  unfold visitStore withCell
  cases m.memory with
  | none => rfl
  | some memory =>
    cases hcell : memory.hasCell n with
    | false => simp [Memory.set?, Memory.get?, hcell]
    | true =>
      have hvalue : (memory.get? n).isSome = true := by rw [Memory.get?_isSome, hcell]
      obtain ⟨value, hvalue⟩ := Option.isSome_iff_exists.mp hvalue
      simp [Memory.set?, hcell, hvalue]

/-- No place that an instruction reads or writes is outside of the row. -/
theorem visitRow?_eq (m : Machine) (op : Opcode) (n : Int32) :
    m.visitRow? op n = some (m.visit op n) := by
  cases op with
  | arith op =>
    rw [visitRow?, visit, visitArithmetic]
    refine atPlace?_eq fun memory value _ hvalue => ?_
    simp only [hvalue, put?_zero]
    simp only [Memory.toList, List.getElem?_cons_zero, Option.bind_some]
    cases op.eval? memory.accumulator value <;> rfl
  | load =>
    rw [visitRow?, visit, visitLoad]
    refine atPlace?_eq fun memory value _ hvalue => ?_
    simp only [hvalue, put?_zero, Option.bind_some]
    rfl
  | constant =>
    simp only [visitRow?, visit, visitConstant, put?_zero]
    cases m.memory <;> rfl
  | store =>
    rw [visitRow?, visit, visitStore_eq]
    refine atPlace?_eq fun memory value hcell _ => ?_
    have hput := put?_index hcell memory.accumulator
    simp only [Memory.toList, List.getElem?_cons_zero, Option.bind_some] at hput ⊢
    rw [hput]
    rfl
  | output =>
    rw [visitRow?, visit, visitOutput]
    refine atPlace?_eq fun memory value _ hvalue => ?_
    simp only [hvalue, Option.map_some]
  | hop | set | input | jump | halt => rfl

/-- Takes an input for the cell at a place of the row. There is no result if the place is outside of
the row. -/
def takeRow? (m : Machine) (place : Nat) : Option (Option (Status × Machine)) :=
  match m.mailbox.read? with
  | none => some none
  | some (input, mailbox) =>
    match input.bind readInput? with
    | none => some (some (.failed .invalidInput, { m with mailbox }))
    | some value =>
      (m.memory.bind fun memory => put? memory.toList place value).bind fun row =>
        (Memory.ofRow? row).map fun memory =>
          some (.ok, { m.withMemory memory with mailbox, awaiting := false }.advance)

/-- An instruction carried out by place, from its visit to the taking of an input. -/
def executeRow? (m : Machine) (op : Opcode) (n : Int32) : Option (Option (Status × Machine)) :=
  (m.visitRow? op n).bind fun
    | .done status next => some (some (status, next))
    | .taking address => m.takeRow? address.toInt.toNat

theorem takeRow?_eq {m : Machine} {n : Int32} (h : m.HasCell n) :
    m.takeRow? n.toInt.toNat = some (m.takeInput? n) := by
  obtain ⟨memory, hm, hcell⟩ := h
  have hplace := Memory.toNat_eq_index_succ (Memory.one_le_of_hasCell hcell)
  unfold takeRow? takeInput?
  cases m.mailbox.read? with
  | none => rfl
  | some r =>
    obtain ⟨input, mailbox⟩ := r
    cases hvalue : input.bind readInput? with
    | none => simp only [hvalue, Option.map_some, storeInput]
    | some value =>
      simp only [hvalue, hm, hplace, Option.bind_some, put?_index hcell, Option.map_some, storeInput,
        Memory.set?, hcell, if_true]
      rfl

/-- No place that the execution of an instruction reads or writes is outside of the row. -/
theorem executeRow?_eq (m : Machine) (op : Opcode) (n : Int32) :
    m.executeRow? op n = some (m.execute? op n) := by
  have hdoes := m.does_visit op n
  rw [executeRow?, execute?, visitRow?_eq, Option.bind_some]
  cases hvisit : m.visit op n with
  | done status next => rfl
  | taking address =>
    rw [hvisit] at hdoes
    cases hdoes with
    | take _ hcell => exact takeRow?_eq hcell

end Machine

end AccumulatorMachine
