import AccumulatorMachine.Proofs.Machine.Frame
import AccumulatorMachine.Proofs.Machine.Waiting
import AccumulatorMachine.Proofs.Text.Spelling

/-! A printed value that an input instruction takes again. The text passes through the mailbox, where the
input instruction finds it whether it has asked before or not. -/
namespace AccumulatorMachine

namespace Memory

theorem get?_of_set? {m m' : Memory} {address value : Int32} (h : m.set? address value = some m') :
    m'.get? address = some value ∧ ∀ k, m'.hasCell k = m.hasCell k := by
  have hlength : m'.cells.length = m.cells.length := length_of_set? h
  have hcells (k : Int32) : m'.hasCell k = m.hasCell k := by rw [hasCell, hasCell, hlength]
  refine ⟨?_, hcells⟩
  have hcell : m.hasCell address = true := by
    rw [← set?_isSome m address value, h]
    rfl
  rw [get?, if_pos ((hcells address).trans hcell)]
  rw [set?, if_pos hcell] at h
  cases h
  exact List.getElem?_set_self (index_lt_length hcell)

end Memory

namespace Machine

/-! ### One instruction -/

theorem exists_cell? {m : Machine} {n : Int32} (h : m.HasCell n) : ∃ value, m.cell? n = some value :=
  Option.isSome_iff_exists.mp (cell?_isSome h)

theorem execute?_output {m : Machine} {n value : Int32} (h : m.cell? n = some value) :
    m.execute? .output n =
      some (.output, { m with mailbox := m.mailbox.write (Text.decimal32 value) }.advance) := by
  obtain ⟨memory, hm, hvalue⟩ := Option.bind_eq_some_iff.mp h
  rw [execute?, visit, visitOutput, withCell_eq hm hvalue]
  rfl

/-- With a text at hand an input instruction does not ask. -/
theorem execute?_input {m : Machine} {n : Int32} {text : String} (hcell : m.HasCell n)
    (hopen : m.mailbox.closed = false) (htext : m.mailbox.value = some text) :
    m.execute? .input n = some ({ m with mailbox := {} }.storeInput n (some text)) := by
  have hvisit : m.visit .input n = .taking n := by
    rw [visit, visitInput_of_hasCell hcell]
    simp [Mailbox.isEmpty, htext]
  have hread : m.mailbox.read? = some (some text, {}) := by
    simp [Mailbox.read?, hopen, htext]
  rw [execute?, hvisit, finish?, takeInput?, hread]
  rfl

/-- What an input instruction leaves that stores a value. -/
structure Stored (m : Machine) (n value : Int32) (m' : Machine) : Prop where
  pc : m'.pc = m.pc + 1
  cell : m'.cell? n = some value
  cells : ∀ k, m.HasCell k → m'.HasCell k
  mailbox : m'.mailbox = {}

theorem exists_stored {m : Machine} {n value : Int32} {text : String} (hcell : m.HasCell n)
    (hopen : m.mailbox.closed = false) (htext : m.mailbox.value = some text)
    (hread : readInput? text = some value) :
    ∃ m', m.execute? .input n = some (.ok, m') ∧ m.Stored n value m' := by
  obtain ⟨before, hm, hhas⟩ := hcell
  have hset : (before.set? n value).isSome = true := (before.set?_isSome n value).trans hhas
  obtain ⟨memory, hmemory⟩ := Option.isSome_iff_exists.mp hset
  obtain ⟨hget, hcells⟩ := Memory.get?_of_set? hmemory
  refine ⟨{ { m with mailbox := {} }.withMemory memory with awaiting := false }.advance, ?_, rfl, ?_,
    ?_, rfl⟩
  · rw [execute?_input ⟨before, hm, hhas⟩ hopen htext]
    simp only [storeInput, Option.bind_some, hread, hm, hmemory]
  · exact hget
  · rintro k ⟨_, hk, hkhas⟩
    obtain rfl := Option.some.inj (hm.symm.trans hk)
    exact ⟨memory, rfl, (hcells k).trans hkhas⟩

/-- An input is accepted if it spells an integer. -/
theorem accepts_iff {m : Machine} {n : Int32} {text : String} (hcell : m.HasCell n)
    (hopen : m.mailbox.closed = false) (htext : m.mailbox.value = some text) :
    (∃ m', m.execute? .input n = some (.ok, m')) ↔ ∃ x, Text.Spells text x := by
  constructor
  · rintro ⟨m', hexecute⟩
    rw [execute?_input hcell hopen htext] at hexecute
    have hstores := stores_storeInput { m with mailbox := {} } n (some text)
    rw [Option.some.inj hexecute] at hstores
    cases hstores with
    | @stored x _ hread => exact ⟨x, Text.readInt32?_trim_eq_some_iff.mp hread⟩
  · rintro ⟨x, hx⟩
    obtain ⟨m', hexecute, -⟩ :=
      exists_stored hcell hopen htext (Text.readInt32?_trim_eq_some_iff.mpr hx)
    exact ⟨m', hexecute⟩

/-! ### There and back -/

/-- The value of one cell is printed and taken for another. -/
structure Copies (m : Machine) (a b : Int32) (printed copied : Machine) : Prop where
  output : m.execute? .output a = some (.output, printed)
  input : printed.execute? .input b = some (.ok, copied)
  cell : ∃ value, m.cell? a = some value ∧ copied.cell? b = some value
  mailbox : copied.mailbox = {}
  pc : copied.pc = m.pc + 2

theorem exists_copies {m : Machine} {a b : Int32} (hopen : m.mailbox.closed = false)
    (ha : m.HasCell a) (hb : m.HasCell b) : ∃ printed copied, m.Copies a b printed copied := by
  obtain ⟨value, hvalue⟩ := exists_cell? ha
  have hread : readInput? (Text.decimal32 value) = some value :=
    Text.readInt32?_trim_eq_some_iff.mpr (Text.spells_decimal32 value)
  obtain ⟨copied, hinput, hstored⟩ :=
    exists_stored (m := { m with mailbox := m.mailbox.write (Text.decimal32 value) }.advance) hb hopen
      rfl hread
  have hpc : copied.pc = m.pc + 1 + 1 := hstored.pc
  exact ⟨_, copied, execute?_output hvalue, hinput, ⟨value, hvalue, hstored.cell⟩, hstored.mailbox,
    by omega⟩

/-- A text is taken for one cell, the value of the cell is printed, and what is printed is taken for
another. -/
inductive Reprints (m : Machine) (a b x : Int32) (text printed : String) : Prop
  | mk {stored shown fetched again : Machine}
      (hstored : (m.deliver text).execute? .input a = some (.ok, stored))
      (hfirst : stored.cell? a = some x)
      (hshown : stored.execute? .output a = some (.output, shown))
      (hfetched : shown.requestOutput? = some (some printed, fetched))
      (hagain : (fetched.deliver printed).execute? .input b = some (.ok, again))
      (hsecond : again.cell? b = some x) : Reprints m a b x text printed

theorem reprints {m : Machine} {a b x : Int32} {text : String} (hopen : m.mailbox.closed = false)
    (ha : m.HasCell a) (hb : m.HasCell b) (hx : Text.Spells text x) :
    m.Reprints a b x text (Text.decimal32 x) := by
  obtain ⟨stored, hinput, hstored⟩ :=
    exists_stored (m := m.deliver text) ha hopen rfl (Text.readInt32?_trim_eq_some_iff.mpr hx)
  have hfetched : requestOutput?
      { stored with mailbox := stored.mailbox.write (Text.decimal32 x) }.advance =
      some (some (Text.decimal32 x), stored.advance) := by
    rw [requestOutput?, advance, Mailbox.read?_write _ (by rw [hstored.mailbox]), advance,
      ← hstored.mailbox]
    rfl
  obtain ⟨again, hagain, hsecond⟩ :=
    exists_stored (m := stored.advance.deliver (Text.decimal32 x)) (hstored.cells b hb)
      (show stored.mailbox.closed = false by rw [hstored.mailbox]) rfl
      (Text.readInt32?_trim_eq_some_iff.mpr (Text.spells_decimal32 x))
  exact .mk hinput hstored.cell (execute?_output hstored.cell) hfetched hagain hsecond.cell

/-- Whatever calls have been made one after the other, on a machine that is not interrupted the output of
a cell and the input for another one, with nothing in between, copy the value exactly. The texts
that an input instruction accepts are the spellings of the integers of 32 bits. All spellings of an
integer are stored as that integer and printed as one and the same text, which is stored as that
integer again. -/
theorem printed_read_back {m : Machine} {ops : List Operation} {a b : Int32}
    (h : after? {} ops = some m) (hfree : m.interrupted = false) (ha : m.HasCell a)
    (hb : m.HasCell b) :
    (∃ printed copied, m.Copies a b printed copied) ∧
    (∀ text, (∃ m', (m.deliver text).execute? .input a = some (.ok, m')) ↔ ∃ x, Text.Spells text x) ∧
    ∀ x, ∃ printed, ∀ text, Text.Spells text x → m.Reprints a b x text printed := by
  have hopen : m.mailbox.closed = false := (agrees_of_after? h).closed_eq_false_iff.mpr hfree
  refine ⟨exists_copies hopen ha hb, fun text => ?_, fun x => ⟨Text.decimal32 x, fun text hx => ?_⟩⟩
  · exact accepts_iff (m := m.deliver text) ha hopen rfl
  · exact reprints hopen ha hb hx

/-- Loads the least integer of 32 bits into the first of two cells. -/
def loadLowest : List Operation := [.run "SET 2", .run "LDK -2147483648", .run "STA 1"]

def loadedLowest : Machine :=
  { pc := 3, memory := some ⟨-2147483648, [-2147483648, 0]⟩ }

theorem printed_read_back_lowest :
    after? {} loadLowest = some loadedLowest ∧
      (∃ printed copied, loadedLowest.Copies 1 2 printed copied) ∧
      ∃ printed, loadedLowest.Reprints 1 2 7 "\u2003+007\n" printed ∧
        loadedLowest.Reprints 1 2 7 "7" printed := by
  have hafter : after? {} loadLowest = some loadedLowest := by decide +kernel
  have hcell (n : Int32) (h : Memory.hasCell ⟨-2147483648, [-2147483648, 0]⟩ n = true) :
      loadedLowest.HasCell n := ⟨_, rfl, h⟩
  obtain ⟨hcopies, -, hprints⟩ :=
    printed_read_back hafter rfl (hcell 1 rfl) (hcell 2 rfl)
  obtain ⟨text, hreprints⟩ := hprints 7
  have hpadded : Text.Spells "\u2003+007\n" 7 := Text.readInt32?_trim_eq_some_iff.mp (by decide)
  have hplain : Text.Spells "7" 7 := Text.readInt32?_trim_eq_some_iff.mp (by decide)
  exact ⟨hafter, hcopies, text, hreprints _ hpadded, hreprints _ hplain⟩

end Machine

end AccumulatorMachine
