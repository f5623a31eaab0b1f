import AccumulatorMachine.Proofs.Machine.Registers
import Mathlib.Data.Int.ModEq
import Mathlib.Data.List.Forall2

/-! The machine calculates like the integers modulo 2^32. Division alone does not, and truncates. -/
namespace AccumulatorMachine

/-! ### Operations -/

namespace Arithmetic

/-- The result over the integers. -/
def unbounded? : Arithmetic → Int → Int → Option Int
  | .add, a, b => some (a + b)
  | .sub, a, b => some (a - b)
  | .mul, a, b => some (a * b)
  | .div, a, b => if b = 0 then none else some (a.tdiv b)

theorem eval?_ofInt {op : Arithmetic} (hop : op ≠ .div) (a b : Int) :
    ∃ result, op.unbounded? a b = some result ∧
      op.eval? (.ofInt a) (.ofInt b) = some (.ofInt result) := by
  cases op with
  | add => exact ⟨a + b, rfl, by rw [eval?, Int32.ofInt_add]⟩
  | sub => exact ⟨a - b, rfl, by rw [eval?, Int32.ofInt_sub]⟩
  | mul => exact ⟨a * b, rfl, by rw [eval?, Int32.ofInt_mul]⟩
  | div => exact absurd rfl hop

/-- The least integer of 32 bits has no opposite, which would be its quotient by minus one. -/
theorem toInt_div (a b : Int32) :
    (a / b).toInt = if a.toInt = -2 ^ 31 ∧ b.toInt = -1 then -2 ^ 31 else a.toInt.tdiv b.toInt := by
  split
  · next h => rw [Int32.toInt_div, h.1, h.2]; decide
  · next h =>
    by_cases ha : a = Int32.minValue
    · have hb : b ≠ -1 := by
        rintro rfl
        rw [ha] at h
        exact h ⟨rfl, rfl⟩
      exact Int32.toInt_div_of_ne_right a b hb
    · exact Int32.toInt_div_of_ne_left a b ha

/-- The quotient as a division that traps finds it: none, if the divisor is zero. -/
def trappingQuotient? (a b : Int32) : Option Int32 := if b = 0 then none else some (a / b)

/-- An operation that divides by a division that traps. There is no result at all if it does. -/
def evalTrapping? : Arithmetic → Int32 → Int32 → Option (Option Int32)
  | .div, a, b => if b = 0 then some none else (trappingQuotient? a b).map some
  | op, a, b => some (op.eval? a b)

theorem evalTrapping?_eq (op : Arithmetic) (a b : Int32) :
    op.evalTrapping? a b = some (op.eval? a b) := by
  cases op with
  | add | sub | mul => rfl
  | div =>
    rw [evalTrapping?, eval?, trappingQuotient?]
    split
    · rfl
    · rfl

end Arithmetic

/-! ### Memories of integers -/

/-- A memory whose values are integers of any size. -/
structure Unbounded where
  accumulator : Int
  cells : List Int
  deriving DecidableEq, Repr

/-- The integer of 32 bits stands for this one. -/
structure Represents (x : Int32) (n : Int) : Prop where
  modEq : x.toInt ≡ n [ZMOD 2 ^ 32]
  le : -2 ^ 31 ≤ x.toInt
  lt : x.toInt < 2 ^ 31

theorem represents_ofInt (n : Int) : Represents (.ofInt n) n where
  modEq := by
    rw [Int32.toInt_ofInt]
    exact Int.bmod_emod
  le := Int32.le_toInt _
  lt := Int32.toInt_lt _

namespace Unbounded

def ofMemory (m : Memory) : Unbounded := ⟨m.accumulator.toInt, m.cells.map Int32.toInt⟩

/-- What is left of it in 32 bits. -/
def wrapped (u : Unbounded) : Memory := ⟨.ofInt u.accumulator, u.cells.map Int32.ofInt⟩

def toList (u : Unbounded) : List Int := u.accumulator :: u.cells

def hasCell (u : Unbounded) (address : Int32) : Bool :=
  1 ≤ address.toInt && address.toInt ≤ u.cells.length

def get? (u : Unbounded) (address : Int32) : Option Int :=
  if u.hasCell address then u.cells[Memory.index address]? else none

def set? (u : Unbounded) (address : Int32) (value : Int) : Option Unbounded :=
  if u.hasCell address then some { u with cells := u.cells.set (Memory.index address) value }
  else none

/-- Executes an instruction that calculates or moves values. -/
def execute? (u : Unbounded) : Opcode → Int32 → Option Unbounded
  | .constant, n => some { u with accumulator := n.toInt }
  | .load, n => (u.get? n).map fun value => { u with accumulator := value }
  | .store, n => u.set? n u.accumulator
  | .arith op, n => (u.get? n).bind fun value =>
    (op.unbounded? u.accumulator value).map fun result => { u with accumulator := result }
  | _, _ => none

def executeAll? (u : Unbounded) : List (Opcode × Int32) → Option Unbounded
  | [] => some u
  | (op, n) :: rest => (u.execute? op n).bind (·.executeAll? rest)

@[simp] theorem wrapped_ofMemory (m : Memory) : (ofMemory m).wrapped = m := by
  simp [wrapped, ofMemory, Function.comp_def]

@[simp] theorem hasCell_wrapped (u : Unbounded) (n : Int32) : u.wrapped.hasCell n = u.hasCell n := by
  simp [wrapped, Memory.hasCell, hasCell]

theorem forall₂_toList_wrapped (u : Unbounded) :
    List.Forall₂ Represents u.wrapped.toList u.toList := by
  show List.Forall₂ Represents (u.toList.map Int32.ofInt) u.toList
  rw [List.forall₂_map_left_iff, List.forall₂_same]
  exact fun n _ => represents_ofInt n

theorem exists_get? {u : Unbounded} {n : Int32} (h : u.hasCell n = true) :
    ∃ value, u.get? n = some value ∧ u.wrapped.get? n = some (.ofInt value) := by
  have hlt : Memory.index n < u.cells.length := by
    have hwrapped := Memory.index_lt_length ((u.hasCell_wrapped n).trans h)
    simpa [wrapped] using hwrapped
  refine ⟨u.cells[Memory.index n], ?_, ?_⟩
  · rw [get?, if_pos h, List.getElem?_eq_getElem hlt]
  · rw [Memory.get?, if_pos ((u.hasCell_wrapped n).trans h)]
    simp [wrapped, hlt]

theorem exists_set? {u : Unbounded} {n : Int32} (h : u.hasCell n = true) (value : Int) :
    ∃ u', u.set? n value = some u' ∧ u'.cells.length = u.cells.length ∧
      u.wrapped.set? n (.ofInt value) = some u'.wrapped := by
  refine ⟨{ u with cells := u.cells.set (Memory.index n) value }, ?_, ?_, ?_⟩
  · rw [set?, if_pos h]
  · exact List.length_set
  · rw [Memory.set?, if_pos ((u.hasCell_wrapped n).trans h)]
    simp only [wrapped, List.map_set]

end Unbounded

namespace Machine

/-! ### Sequences of instructions -/

/-- The instructions that calculate without division or move values, with operands that are cells of a
memory of this size where cells are needed. -/
inductive Calculates (size : Nat) : Opcode → Int32 → Prop
  | constant (value : Int32) : Calculates size .constant value
  | load {n : Int32} (hlow : 1 ≤ n.toInt) (hhigh : n.toInt ≤ size) : Calculates size .load n
  | store {n : Int32} (hlow : 1 ≤ n.toInt) (hhigh : n.toInt ≤ size) : Calculates size .store n
  | arith {op : Arithmetic} {n : Int32} (hop : op ≠ .div) (hlow : 1 ≤ n.toInt)
      (hhigh : n.toInt ≤ size) : Calculates size (.arith op) n

/-- Executes instructions one after another, as long as each succeeds. -/
def executeAll? (m : Machine) : List (Opcode × Int32) → Option Machine
  | [] => some m
  | (op, n) :: rest =>
    match m.execute? op n with
    | some (.ok, m') => m'.executeAll? rest
    | _ => none

/-- An instruction does to the memory what it does to one of integers. -/
theorem execute?_wrapped {m : Machine} {u : Unbounded} {op : Opcode} {n : Int32}
    (hm : m.memory = some u.wrapped) (h : Calculates u.cells.length op n) :
    ∃ u', u.execute? op n = some u' ∧ u'.cells.length = u.cells.length ∧
      m.execute? op n = some (.ok, (m.withMemory u'.wrapped).advance) := by
  have hcell (hlow : 1 ≤ n.toInt) (hhigh : n.toInt ≤ u.cells.length) : u.hasCell n = true := by
    simp [Unbounded.hasCell, hlow, hhigh]
  cases h with
  | constant =>
    refine ⟨{ u with accumulator := n.toInt }, rfl, rfl, ?_⟩
    rw [execute?, visit, visitConstant, hm]
    simp [Unbounded.wrapped, finish?]
  | load hlow hhigh =>
    obtain ⟨value, hget, hwrapped⟩ := Unbounded.exists_get? (hcell hlow hhigh)
    refine ⟨{ u with accumulator := value }, ?_, rfl, ?_⟩
    · rw [Unbounded.execute?, hget, Option.map_some]
    · rw [execute?, visit, visitLoad, withCell_eq hm hwrapped]
      rfl
  | store hlow hhigh =>
    obtain ⟨u', hset, hlength, hwrapped⟩ := Unbounded.exists_set? (hcell hlow hhigh) u.accumulator
    refine ⟨u', hset, hlength, ?_⟩
    have hstore : (m.memory.bind fun memory => memory.set? n memory.accumulator) = some u'.wrapped := by
      rw [hm, Option.bind_some]
      exact hwrapped
    rw [execute?, visit, visitStore, hstore]
    rfl
  | arith hop hlow hhigh =>
    obtain ⟨value, hget, hwrapped⟩ := Unbounded.exists_get? (hcell hlow hhigh)
    obtain ⟨result, hexact, heval⟩ := Arithmetic.eval?_ofInt hop u.accumulator value
    refine ⟨{ u with accumulator := result }, ?_, rfl, ?_⟩
    · rw [Unbounded.execute?, hget, Option.bind_some, hexact, Option.map_some]
    · rw [execute?, visit, visitArithmetic, withCell_eq hm hwrapped]
      have hsame : u.wrapped.accumulator = .ofInt u.accumulator := rfl
      rw [hsame, heval]
      rfl

/-- So does any sequence of them. -/
theorem executeAll?_wrapped {m : Machine} {u : Unbounded} {steps : List (Opcode × Int32)}
    (hm : m.memory = some u.wrapped) (h : ∀ s ∈ steps, Calculates u.cells.length s.1 s.2) :
    ∃ u', u.executeAll? steps = some u' ∧
      m.executeAll? steps =
        some { m with pc := m.pc + steps.length, memory := some u'.wrapped } := by
  induction steps generalizing m u with
  | nil =>
    refine ⟨u, rfl, ?_⟩
    simp [executeAll?, ← hm]
  | cons s steps ih =>
    obtain ⟨op, n⟩ := s
    obtain ⟨hfirst, hrest⟩ := List.forall_mem_cons.mp h
    obtain ⟨u', hexecute, hlength, hmachine⟩ := execute?_wrapped hm hfirst
    rw [← hlength] at hrest
    obtain ⟨u'', hexecuteAll, hmachineAll⟩ :=
      ih (m := (m.withMemory u'.wrapped).advance) rfl hrest
    refine ⟨u'', ?_, ?_⟩
    · rw [Unbounded.executeAll?, hexecute, Option.bind_some, hexecuteAll]
    · simp only [executeAll?, hmachine, hmachineAll]
      simp only [advance, withMemory, List.length_cons]
      congr 2
      omega

/-! ### Division -/

theorem execute?_div {m : Machine} {memory : Memory} {n b : Int32} (hm : m.memory = some memory)
    (hb : memory.get? n = some b) :
    m.execute? (.arith .div) n =
      if b = 0 then some (.failed .divisionByZero, m)
      else some (.ok, (m.withMemory { memory with accumulator := memory.accumulator / b }).advance) := by
  rw [execute?, visit, visitArithmetic, withCell_eq hm hb, Arithmetic.eval?]
  by_cases hzero : b = 0
  · rw [if_pos hzero, if_pos hzero]
    rfl
  · rw [if_neg hzero, if_neg hzero]
    rfl

/-- What a division leaves of the accumulator and the value of a cell. -/
structure Divides (m : Machine) (memory : Memory) (n b : Int32) : Prop where
  fails_iff : (∃ m', m.execute? (.arith .div) n = some (.failed .divisionByZero, m')) ↔ b = 0
  unchanged : b = 0 → m.execute? (.arith .div) n = some (.failed .divisionByZero, m)
  quotient : b ≠ 0 → ∃ q : Int32,
    m.execute? (.arith .div) n = some (.ok, (m.withMemory { memory with accumulator := q }).advance) ∧
    q.toInt =
      if memory.accumulator.toInt = -2 ^ 31 ∧ b.toInt = -1 then -2 ^ 31
      else memory.accumulator.toInt.tdiv b.toInt

theorem divides {m : Machine} {memory : Memory} {n b : Int32} (hm : m.memory = some memory)
    (hb : memory.get? n = some b) : m.Divides memory n b := by
  have hexecute := execute?_div hm hb
  by_cases hzero : b = 0
  · rw [if_pos hzero] at hexecute
    exact ⟨⟨fun _ => hzero, fun _ => ⟨m, hexecute⟩⟩, fun _ => hexecute, fun hne => absurd hzero hne⟩
  · rw [if_neg hzero] at hexecute
    refine ⟨⟨?_, fun h => absurd h hzero⟩, fun h => absurd h hzero, fun _ => ?_⟩
    · rintro ⟨m', hfails⟩
      cases hexecute.symm.trans hfails
    · exact ⟨memory.accumulator / b, hexecute, Arithmetic.toInt_div _ _⟩

/-! ### Traps -/

/-- An operation that finds its values by place and divides by a division that traps. There is no result
if a place is outside of the row or the division traps. -/
def executeTrapping? (m : Machine) (op : Arithmetic) (n : Int32) :
    Option (Option (Status × Machine)) :=
  (m.atPlace? n fun row place =>
    row[0]?.bind fun a => row[place]?.bind fun b =>
      (op.evalTrapping? a b).bind fun
        | some result => (put? row 0 result).bind m.withRow?
        | none => some (.done (.failed .divisionByZero) m)).map m.finish?

theorem executeTrapping?_eq (m : Machine) (op : Arithmetic) (n : Int32) :
    m.executeTrapping? op n = some (m.execute? (.arith op) n) := by
  have hvisit := congrArg (Option.map m.finish?) (m.visitRow?_eq (.arith op) n)
  simp only [executeTrapping?, Arithmetic.evalTrapping?_eq, Option.bind_some]
  exact hvisit

/-- Only an input instruction waits. -/
theorem execute?_arith_isSome (m : Machine) (op : Arithmetic) (n : Int32) :
    (m.execute? (.arith op) n).isSome = true := by
  have hdoes := m.does_visit (.arith op) n
  rw [execute?]
  cases hvisit : m.visit (.arith op) n with
  | done => rfl
  | taking address =>
    rw [hvisit] at hdoes
    cases hdoes with
    | take hop => cases hop

/-- Any sequence of instructions that calculate without division or move values leaves in every cell the
integer of 32 bits that is congruent to the one of a calculation without bounds. A division fails
exactly by zero, which changes nothing. Otherwise it truncates, but the least integer divided by minus
one is itself. No operation traps. -/
theorem arithmetic_modular (m : Machine) :
    (∀ (memory : Memory) (steps : List (Opcode × Int32)), m.memory = some memory →
      (∀ s ∈ steps, Calculates memory.cells.length s.1 s.2) →
      ∃ memory' u,
        m.executeAll? steps =
          some { m with pc := m.pc + steps.length, memory := some memory' } ∧
        (Unbounded.ofMemory memory).executeAll? steps = some u ∧
        List.Forall₂ Represents memory'.toList u.toList) ∧
    (∀ (memory : Memory) (n b : Int32), m.memory = some memory → memory.get? n = some b →
      m.Divides memory n b) ∧
    ∀ (op : Arithmetic) (n : Int32), ∃ status m',
      m.executeTrapping? op n = some (some (status, m')) ∧
      m.execute? (.arith op) n = some (status, m') := by
  refine ⟨fun memory steps hm h => ?_, fun memory n b hm hb => divides hm hb, fun op n => ?_⟩
  · rw [← Unbounded.wrapped_ofMemory memory] at hm
    have hlength : (Unbounded.ofMemory memory).cells.length = memory.cells.length := List.length_map _
    rw [← hlength] at h
    obtain ⟨u, hexact, hmachine⟩ := executeAll?_wrapped hm h
    exact ⟨u.wrapped, u, hmachine, hexact, u.forall₂_toList_wrapped⟩
  · obtain ⟨⟨status, m'⟩, hexecute⟩ := Option.isSome_iff_exists.mp (m.execute?_arith_isSome op n)
    refine ⟨status, m', ?_, hexecute⟩
    rw [executeTrapping?_eq, hexecute]

/-- A machine with the one pair of values whose quotient overflows. -/
def lowest : Machine := { memory := some { accumulator := -2147483648, cells := [-1] } }

/-- A sum, a product and a difference that overflow. -/
def overflowing : List (Opcode × Int32) :=
  [(.constant, 2147483647), (.store, 1), (.arith .add, 1), (.arith .mul, 1), (.arith .sub, 1)]

theorem calculates_overflowing : ∀ s ∈ overflowing, Calculates 1 s.1 s.2 := by
  intro s hs
  simp only [overflowing, List.mem_cons, List.not_mem_nil, or_false] at hs
  rcases hs with rfl | rfl | rfl | rfl | rfl
  · exact .constant _
  · exact .store (by decide) (by decide)
  · exact .arith (by decide) (by decide) (by decide)
  · exact .arith (by decide) (by decide) (by decide)
  · exact .arith (by decide) (by decide) (by decide)

/-- The accumulator holds what fits of 4294967294 * 2147483647 - 2147483647. -/
theorem arithmetic_modular_overflowing :
    (∃ memory' u,
      lowest.executeAll? overflowing = some { pc := 5, memory := some memory' } ∧
      (Unbounded.ofMemory ⟨-2147483648, [-1]⟩).executeAll? overflowing = some u ∧
      u.accumulator = 9223372026117357571 ∧ memory'.accumulator = -2147483645 ∧
      List.Forall₂ Represents memory'.toList u.toList) ∧
    lowest.Divides ⟨-2147483648, [-1]⟩ 1 (-1) := by
  obtain ⟨hsteps, hdivides, -⟩ := arithmetic_modular lowest
  refine ⟨?_, hdivides _ 1 (-1) rfl (by decide)⟩
  obtain ⟨memory', u, hmachine, hexact, hvalues⟩ := hsteps _ overflowing rfl calculates_overflowing
  have hcomputed : lowest.executeAll? overflowing =
      some { pc := 5, memory := some ⟨-2147483645, [2147483647]⟩ } := by
    decide
  have hinteger : (Unbounded.ofMemory ⟨-2147483648, [-1]⟩).executeAll? overflowing =
      some ⟨9223372026117357571, [2147483647]⟩ := by
    decide
  obtain rfl := Option.some.inj (hinteger.symm.trans hexact)
  cases hcomputed.symm.trans hmachine
  exact ⟨_, _, hcomputed, hinteger, rfl, rfl, hvalues⟩

end Machine

end AccumulatorMachine
