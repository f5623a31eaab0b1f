import AccumulatorMachine.Proofs.Machine.Registers

/-! What an instruction that succeeds leaves as it was. Cells are numbered from one, so no store can
reach the accumulator. -/
namespace AccumulatorMachine

namespace Memory

/-- The cell that is written is never the first place of the row. -/
theorem toList_of_set? {m m' : Memory} {address value : Int32} (h : m.set? address value = some m') :
    1 ≤ address.toInt ∧ m'.toList = m.toList.set address.toInt.toNat value := by
  unfold set? at h
  split at h
  · next hcell =>
    have hlow : 1 ≤ address.toInt := one_le_of_hasCell hcell
    cases h
    exact ⟨hlow, by rw [toNat_eq_index_succ hlow, toList, toList, List.set_cons_succ]⟩
  · cases h

end Memory

namespace Machine

/-! ### Places -/

/-- The value of a cell by its number, with the accumulator as number zero. -/
def value? (m : Machine) (place : Nat) : Option Int32 := m.snapshot.memory.bind (·[place]?)

theorem toList_of_set? {m : Machine} {memory : Memory} {address : Int32} {value : Memory → Int32}
    (h : (m.memory.bind fun memory => memory.set? address (value memory)) = some memory) :
    ∃ before, m.memory = some before ∧ 1 ≤ address.toInt ∧
      memory.toList = before.toList.set address.toInt.toNat (value before) := by
  obtain ⟨before, hm, hset⟩ := Option.bind_eq_some_iff.mp h
  exact ⟨before, hm, Memory.toList_of_set? hset⟩

/-- A store leaves all other places as they are. -/
theorem value?_of_set? {m m' : Machine} {memory : Memory} {address : Int32} {value : Memory → Int32}
    (h : (m.memory.bind fun memory => memory.set? address (value memory)) = some memory)
    (hm' : m'.memory = some memory) {place : Nat} (hplace : place ≠ address.toInt.toNat) :
    m'.value? place = m.value? place := by
  obtain ⟨before, hm, -, hrow⟩ := toList_of_set? h
  simp only [value?, snapshot, hm, hm', Option.map_some, Option.bind_some, hrow]
  exact List.getElem?_set_ne hplace.symm

/-! ### Instructions that succeed -/

/-- How an instruction succeeds. -/
inductive Succeeds (m : Machine) (n : Int32) : Opcode → Status → Machine → Prop
  | silent {op : Opcode} {m' : Machine} (h : m.Silently n op m') : Succeeds m n op .ok m'
  | printed {value : Int32} (h : m.cell? n = some value) :
      Succeeds m n .output .output
        { m with mailbox := m.mailbox.write (Text.decimal32 value) }.advance
  | stored {value : Int32} {memory : Memory} (hopen : m.mailbox.closed = false)
      (hset : m.memory.bind (·.set? n value) = some memory) :
      Succeeds m n .input .ok
        { { m with mailbox := {} }.withMemory memory with awaiting := false }.advance

theorem succeeds_of_visitOutput {m m' : Machine} {n : Int32} {status : Status}
    (h : m.visitOutput n = .done status m') (hs : status = .output) :
    m.Succeeds n .output status m' := by
  unfold visitOutput withCell at h
  split at h
  · cases h
    cases hs
  · next memory hm =>
    split at h
    · cases h
      cases hs
    · next value hvalue =>
      cases h
      exact .printed (by simp [cell?, hm, hvalue])

theorem succeeds_of_visit {m m' : Machine} {op : Opcode} {n : Int32} {status : Status}
    (h : m.visit op n = .done status m') (hs : status = .ok ∨ status = .output) :
    m.Succeeds n op status m' := by
  obtain rfl | rfl := hs
  · exact .silent (silently_of_visit h)
  · have hdoes := m.does_visit op n
    rw [h] at hdoes
    cases hdoes with
    | print hop =>
      obtain rfl := hop
      exact succeeds_of_visitOutput h rfl

theorem succeeds_of_takeInput? {m m' : Machine} {n : Int32} {status : Status}
    (h : m.takeInput? n = some (status, m')) (hs : status = .ok ∨ status = .output) :
    m.Succeeds n .input status m' := by
  obtain ⟨input, mailbox, hread, hstores⟩ := stores_of_takeInput? h
  cases hstores with
  | refused | missing => simp at hs
  | stored hnumber hset =>
    obtain ⟨-, rfl, -⟩ | ⟨text, hopen, -, -, rfl⟩ := read?_cases hread
    · cases hnumber
    · exact .stored hopen hset

/-- A line that succeeds is an instruction that does. -/
theorem succeeds_of_run? {m m' : Machine} {line : String} {status : Status}
    (h : m.run? line = some (status, m')) (hs : status = .ok ∨ status = .output) :
    ∃ op n, Performs line op n ∧ m.Succeeds n op status m' := by
  have hdoes := m.does_visitLine line
  unfold run? at h
  cases hvisit : m.visitLine line with
  | done status' m'' =>
    rw [hvisit] at h hdoes
    cases h
    cases hdoes with
    | unreadable | unknown => simp at hs
    | @performs op n _ hline =>
      rw [visitLine_of_performs hline] at hvisit
      exact ⟨op, n, hline, succeeds_of_visit hvisit hs⟩
  | taking address =>
    rw [hvisit] at h hdoes
    cases hdoes with
    | performs hline hdoes =>
      cases hdoes with
      | take hop =>
        obtain rfl := hop
        exact ⟨.input, address, hline, succeeds_of_takeInput? h hs⟩

/-! ### What they leave alone -/

/-- The places of the memory that an instruction can write. -/
inductive Writes (n : Int32) : Opcode → Nat → Prop
  | set (place : Nat) : Writes n .set place
  | accumulate {op : Opcode} (hop : Accumulates op) : Writes n op 0
  | store : Writes n .store n.toInt.toNat
  | input : Writes n .input n.toInt.toNat

/-- The instruction is a jump, and it is taken. -/
def Jumps (m : Machine) (op : Opcode) : Prop :=
  ∃ condition, op = .jump condition ∧ condition.holds m.accumulator = true

theorem Silently.value? {m m' : Machine} {op : Opcode} {n : Int32} (h : m.Silently n op m')
    {place : Nat} (hplace : ¬ Writes n op place) : m'.value? place = m.value? place := by
  cases h with
  | set => exact absurd (.set place) hplace
  | @accumulate _ memory hop hm value =>
    have hne : place ≠ 0 := by
      rintro rfl
      exact hplace (.accumulate hop)
    obtain ⟨place, rfl⟩ := Nat.exists_eq_succ_of_ne_zero hne
    simp [Machine.value?, snapshot, hm, advance, withMemory, Memory.toList]
  | store hset =>
    refine value?_of_set? hset rfl ?_
    rintro rfl
    exact hplace .store
  | hop | jump | pass => rfl

theorem Silently.pc {m m' : Machine} {op : Opcode} {n : Int32} (h : m.Silently n op m') :
    (m.Jumps op → m'.pc = n.toInt - 1) ∧ (¬ m.Jumps op → m'.pc = m.pc + 1) := by
  cases h with
  | @jump condition hholds => exact ⟨fun _ => rfl, fun hnot => absurd ⟨condition, rfl, hholds⟩ hnot⟩
  | pass hfails =>
    refine ⟨?_, fun _ => rfl⟩
    rintro ⟨_, ⟨⟩, hholds⟩
    cases hfails.symm.trans hholds
  | accumulate hop =>
    refine ⟨?_, fun _ => rfl⟩
    rintro ⟨_, rfl, -⟩
    cases hop
  | hop | set | store =>
    refine ⟨?_, fun _ => rfl⟩
    rintro ⟨_, ⟨⟩, -⟩

/-- What a machine keeps whose instruction has succeeded, and what is in place of the rest. -/
structure Framed (m : Machine) (op : Opcode) (n : Int32) (status : Status) (m' : Machine) : Prop where
  status : status = .output ↔ op = .output
  size : op ≠ .set → m'.size? = m.size?
  zeroed : op = .set → ∃ size : Nat, n.toInt = size ∧ m'.snapshot.memory = some (List.replicate (size + 1) 0)
  places : ∀ place, ¬ Writes n op place → m'.value? place = m.value? place
  addressed : op = .store ∨ op = .input → 1 ≤ n.toInt
  jumped : m.Jumps op → m'.pc = n.toInt - 1
  passed : ¬ m.Jumps op → m'.pc = m.pc + 1
  printed : op = .output →
    ∃ value, m.cell? n = some value ∧ m'.mailbox.value = some (Text.decimal32 value)
  taken : op = .input → m'.mailbox.value = none
  content : op ≠ .output → op ≠ .input → m'.mailbox.value = m.mailbox.value
  answered : op = .input → m'.awaiting = false
  awaiting : op ≠ .input → m'.awaiting = m.awaiting
  closed : m'.mailbox.closed = m.mailbox.closed
  interrupted : m'.interrupted = m.interrupted

theorem Silently.framed {m m' : Machine} {op : Opcode} {n : Int32} (h : m.Silently n op m') :
    m.Framed op n .ok m' where
  status := iff_of_false nofun h.ne_output
  size := by
    obtain ⟨_, rfl, -⟩ | ⟨-, hsize⟩ := h.size?_cases
    · exact fun hne => absurd rfl hne
    · exact fun _ => hsize
  zeroed := by
    rintro rfl
    cases h with
    | @set size hn _ => exact ⟨size, hn, rfl⟩
    | accumulate hop => cases hop
  places _ := h.value?
  addressed := by
    rintro (rfl | rfl)
    · cases h with
      | store hset =>
        obtain ⟨_, -, hlow, -⟩ := toList_of_set? hset
        exact hlow
      | accumulate hop => cases hop
    · exact absurd rfl h.ne_input
  jumped := h.pc.1
  passed := h.pc.2
  printed hop := absurd hop h.ne_output
  taken hop := absurd hop h.ne_input
  content _ _ := congrArg Mailbox.value h.keeps.1
  answered hop := absurd hop h.ne_input
  awaiting _ := h.keeps.2.1
  closed := congrArg Mailbox.closed h.keeps.1
  interrupted := h.keeps.2.2

theorem Succeeds.framed {m m' : Machine} {op : Opcode} {n : Int32} {status : Status}
    (h : m.Succeeds n op status m') : m.Framed op n status m' := by
  have hno (op : Opcode) (hop : op = .output ∨ op = .input) : ¬ m.Jumps op := by
    rintro ⟨_, rfl, -⟩
    simp at hop
  cases h with
  | silent h => exact h.framed
  | @printed value h =>
    exact {
      status := iff_of_true rfl rfl
      size := fun _ => rfl
      zeroed := nofun
      places := fun _ _ => rfl
      addressed := nofun
      jumped := fun hjumps => absurd hjumps (hno _ (.inl rfl))
      passed := fun _ => rfl
      printed := fun _ => ⟨value, h, rfl⟩
      taken := nofun
      content := fun hne => absurd rfl hne
      answered := nofun
      awaiting := fun _ => rfl
      closed := rfl
      interrupted := rfl }
  | stored hopen hset =>
    obtain ⟨_, -, hlow, -⟩ := toList_of_set? hset
    exact {
      status := iff_of_false nofun nofun
      size := fun _ => (size?_eq_of_set? hset).symm
      zeroed := nofun
      places := fun _ hplace => value?_of_set? hset rfl (by rintro rfl; exact hplace .input)
      addressed := fun _ => hlow
      jumped := fun hjumps => absurd hjumps (hno _ (.inr rfl))
      passed := fun _ => rfl
      printed := nofun
      taken := fun _ => rfl
      content := fun _ hne => absurd rfl hne
      answered := fun _ => rfl
      awaiting := fun hne => absurd rfl hne
      closed := hopen.symm
      interrupted := rfl }

/-- A line that succeeds changes the memory, the program counter, the mailbox and the flags only where its
instruction says so. Only a set instruction changes the number of cells, and it leaves zeros.
Arithmetic and loads write the accumulator alone, a store and an input the one cell they name, which
is not the accumulator, and all other instructions nothing. The program counter goes to the line of
a jump that is taken and else to the next line. An output instruction leaves the decimal text of its
cell in the mailbox, an input instruction nothing, and the others what there was. The flag for a
question is changed by an input instruction alone, which turns it off; whether the mailbox is closed
and the mark of an interrupt stay. -/
theorem success_framed {m m' : Machine} {line : String} {status : Status}
    (h : m.run? line = some (status, m')) (hs : status = .ok ∨ status = .output) :
    ∃ op n, Performs line op n ∧ m.Framed op n status m' := by
  obtain ⟨op, n, hline, hsucceeds⟩ := succeeds_of_run? h hs
  exact ⟨op, n, hline, hsucceeds.framed⟩

/-- A machine that has asked for an input and got it. -/
def supplied : Machine :=
  { pc := 1, memory := some (.zeros 2), mailbox := { value := some " +7" }, awaiting := true }

theorem success_framed_supplied :
    supplied.run? "INP 2" = some (.ok, { pc := 2, memory := some ⟨0, [0, 7]⟩ }) ∧
      supplied.Framed .input 2 .ok { pc := 2, memory := some ⟨0, [0, 7]⟩ } := by
  have hrun : supplied.run? "INP 2" = some (.ok, { pc := 2, memory := some ⟨0, [0, 7]⟩ }) := by decide
  have hinput : Performs "INP 2" .input 2 := ⟨.written "inp" 2, rfl, rfl, rfl⟩
  obtain ⟨op, n, hline, hframed⟩ := success_framed hrun (.inl rfl)
  obtain ⟨rfl, rfl⟩ := hline.unique hinput
  exact ⟨hrun, hframed⟩

end Machine

end AccumulatorMachine
