import AccumulatorMachine.Proofs.OpenRun
import AccumulatorMachine.Proofs.Session

/-! The report of a run and the line that its snapshot is at. -/
namespace AccumulatorMachine

/-- The value of a cell as a snapshot shows it. The accumulator stands before the cells. -/
def Snapshot.cell? (s : Snapshot) (address : Int32) : Option Int32 :=
  if 1 ≤ address.toInt then s.memory.bind (·[address.toInt.toNat]?) else none

/-- A line on which a run fails in this way, if the snapshot shows the machine. -/
inductive Failure.ExplainedBy (line : String) (s : Snapshot) : Failure → Prop
  | size {n : Int32} (h : Machine.Performs line .set n) (hn : n.toInt < 0 ∨ 100 < n.toInt) :
      ExplainedBy line s .memorySize
  | zero {n : Int32} (h : Machine.Performs line (.arith .div) n) (hcell : s.cell? n = some 0) :
      ExplainedBy line s .divisionByZero
  | noMemory {n : Int32} (h : Machine.Performs line .constant n) (hmemory : s.memory = none) :
      ExplainedBy line s .memoryAddress
  | noCell {op : Opcode} {n : Int32} (h : Machine.Performs line op n) (hop : Machine.Addresses op)
      (hcell : s.cell? n = none) : ExplainedBy line s .memoryAddress
  | input {n : Int32} (h : Machine.Performs line .input n) (hcell : (s.cell? n).isSome = true) :
      ExplainedBy line s .invalidInput
  | unreadable {e : LineError} (h : Instruction.ofLine line = .error e) :
      ExplainedBy line s .unreadableLine
  | unknown {i : Instruction} (h : Instruction.ofLine line = .ok i) (hop : i.opcode? = none) :
      ExplainedBy line s .unknownCommand

/-- A run of the program ends with this status, if the snapshot shows the machine. -/
inductive Status.ExplainedBy (program : Program) (s : Snapshot) : Status → Prop
  | stopped (h : s.interrupted = true) : ExplainedBy program s .stopped
  | succeeded {line : String} (hline : program.lineAt? s.pc = some line) (h : Machine.Halts line) :
      ExplainedBy program s .succeeded
  | failed {line : String} {cause : Failure} (hline : program.lineAt? s.pc = some line)
      (h : cause.ExplainedBy line s) : ExplainedBy program s (.failed cause)

/-- The snapshot of a report explains its status. -/
def Report.Explained (program : Program) (r : Report) : Prop := r.status.ExplainedBy program r.snapshot

/-! ### Snapshots -/

theorem Machine.cell?_snapshot (m : Machine) (address : Int32) :
    m.snapshot.cell? address = m.cell? address := by
  unfold Snapshot.cell? Machine.cell? Machine.snapshot
  cases hm : m.memory with
  | none => simp
  | some memory =>
    by_cases hpos : 1 ≤ address.toInt
    · have hindex : address.toInt.toNat = Memory.index address + 1 := by
        unfold Memory.index
        omega
      simp only [if_pos hpos, Option.map_some, Option.bind_some, Memory.toList, hindex,
        List.getElem?_cons_succ, Memory.get?]
      split
      · rfl
      · next hcell =>
        rw [List.getElem?_eq_none_iff]
        simp only [Memory.hasCell, Bool.and_eq_true, decide_eq_true_eq] at hcell
        omega
    · simp [Memory.get?, Memory.hasCell, hpos]

theorem Failure.ExplainedBy.congr {line : String} {s t : Snapshot} {cause : Failure}
    (h : cause.ExplainedBy line s) (hmemory : t.memory = s.memory) : cause.ExplainedBy line t := by
  have hcells : ∀ address, t.cell? address = s.cell? address := by
    intro address
    unfold Snapshot.cell?
    rw [hmemory]
  cases h with
  | size h hn => exact .size h hn
  | zero h hcell => exact .zero h ((hcells _).trans hcell)
  | noMemory h hnone => exact .noMemory h (hmemory.trans hnone)
  | noCell h hop hcell => exact .noCell h hop ((hcells _).trans hcell)
  | input h hcell =>
    refine .input h ?_
    rw [hcells]
    exact hcell
  | unreadable h => exact .unreadable h
  | unknown h hop => exact .unknown h hop

/-- A later mark explains no less. -/
theorem Status.ExplainedBy.mono {program : Program} {s t : Snapshot} {status : Status}
    (h : status.ExplainedBy program s) (hpc : t.pc = s.pc) (hmemory : t.memory = s.memory)
    (hmark : s.interrupted = true → t.interrupted = true) : status.ExplainedBy program t := by
  cases h with
  | stopped h => exact .stopped (hmark h)
  | succeeded hline h =>
    refine .succeeded ?_ h
    rw [hpc]
    exact hline
  | failed hline h =>
    refine .failed ?_ (h.congr hmemory)
    rw [hpc]
    exact hline

/-! ### Lines that fail -/

theorem Machine.Refuses.explained {m : Machine} {line : String} {op : Opcode} {n : Int32}
    {cause : Failure} (h : m.Refuses op n cause) (hline : Performs line op n) :
    cause.ExplainedBy line m.snapshot := by
  cases h with
  | size hn =>
    refine .size hline ?_
    have hmax : (Memory.maxSize : Int) = 100 := rfl
    omega
  | cell hop hcell => exact .noCell hline hop ((m.cell?_snapshot n).trans hcell)
  | constant hnone =>
    refine .noMemory hline ?_
    simp [Machine.snapshot, hnone]
  | zero hcell => exact .zero hline ((m.cell?_snapshot n).trans hcell)

theorem Machine.LineDoes.explained {m m' : Machine} {line : String} {cause : Failure}
    (h : m.LineDoes line (.done (.failed cause) m')) :
    m' = m ∧ cause.ExplainedBy line m.snapshot := by
  cases h with
  | unreadable h => exact ⟨rfl, .unreadable h⟩
  | unknown h hop => exact ⟨rfl, .unknown h hop⟩
  | performs hline hdoes =>
    cases hdoes with
    | fail hrefuses => exact ⟨rfl, hrefuses.explained hline⟩

/-! ### Scenes -/

namespace Scene

/-- From the line that the runner has looked up to the report that it leaves. -/
def Explained (program : Program) (s : Scene) : Prop :=
  match s.stage with
  | .busy (.executing line) => program.lineAt? s.machine.pc = some line
  | .busy (.taking address) =>
    ∃ line, program.lineAt? s.machine.pc = some line ∧ Machine.Performs line .input address ∧
      s.machine.HasCell address
  | .busy (.judging status) | .busy (.noting status) =>
    status.ExplainedBy program s.machine.snapshot
  | .handing status | .rendered status _ | .shown status =>
    status.continues = false → status.ExplainedBy program s.machine.snapshot
  | .busy (.clearing report _) | .busy (.signalling report) | .busy (.asleep report _)
  | .busy (.leaving report) | .busy (.finished report) => report.Explained program
  | .busy _ => True

variable {program : Program} {elapsed : Nat}

theorem explained_afterLine {m : Machine} {c : List Message} {status : Status}
    (h : status.continues = false → status.ExplainedBy program m.snapshot) :
    Explained program ⟨m, c, .afterLine status⟩ := by
  cases status with
  | ok => trivial
  | failed cause => exact h rfl
  | output | input | succeeded | stopped => exact h

/-- A line that ends the run leaves the machine as it was. -/
theorem explained_execute {m m' : Machine} {c : List Message} {line : String} {status : Status}
    (hline : program.lineAt? m.pc = some line) (hvisit : m.visitLine line = .done status m') :
    Explained program ⟨m', c, .afterLine status⟩ := by
  refine explained_afterLine fun hends => ?_
  have hdoes := m.does_visitLine line
  rw [hvisit] at hdoes
  cases status with
  | ok | output | input => cases hends
  | failed cause =>
    obtain ⟨rfl, hexplained⟩ := hdoes.explained
    exact .failed hline hexplained
  | succeeded =>
    have hvisits := hdoes.visits
    cases hvisits
    exact .succeeded hline (Machine.halts_of_visitLine hvisit)
  | stopped => nomatch hdoes.visits

theorem explained_take {m m' : Machine} {c : List Message} {line : String} {address : Int32}
    {status : Status} (hline : program.lineAt? m.pc = some line)
    (hinput : Machine.Performs line .input address) (hcell : m.HasCell address)
    (htake : m.takeInput? address = some (status, m')) :
    Explained program ⟨m', c, .afterLine status⟩ := by
  refine explained_afterLine fun hends => ?_
  cases status with
  | ok | output | input => cases hends
  | failed cause =>
    obtain ⟨rfl, hpc, hmemory⟩ := Machine.refused_of_takeInput? hcell htake
    have hexplained : Failure.invalidInput.ExplainedBy line m.snapshot := by
      refine .input hinput ?_
      rw [m.cell?_snapshot]
      exact Machine.cell?_isSome hcell
    refine .failed ?_ (hexplained.congr (congrArg (Option.map Memory.toList) hmemory))
    rw [← hline]
    exact congrArg program.lineAt? hpc
  | succeeded | stopped => nomatch Machine.takes_takeInput? htake

theorem Explained.move {s t : Scene} (h : s.Explained program) (hm : Move program elapsed s t) :
    t.Explained program := by
  cases hm with
  | stop hmark => exact fun _ => .stopped hmark
  | proceed | stall => trivial
  | fetch hline => exact hline
  | execute hvisit => exact explained_execute h hvisit
  | @reach m c line address hvisit =>
    have hdoes := m.does_visitLine line
    rw [hvisit] at hdoes
    cases hdoes with
    | performs hline hdoes =>
      cases hdoes with
      | take hop hcell _ =>
        obtain rfl := hop
        exact ⟨line, h, hline, hcell⟩
  | take htake =>
    obtain ⟨line, hline, hinput, hcell⟩ := h
    exact explained_take hline hinput hcell htake
  | @judge m c cause =>
    intro _
    cases hmark : m.interrupted with
    | true => exact .stopped hmark
    | false => exact h
  | print => exact nofun
  | describe | append | note => exact h
  | @resume m c status =>
    unfold Stage.afterReport
    cases hends : status.continues with
    | true => trivial
    | false => exact h hends
  | @clear m c report part => cases part <;> exact h
  | retire hr => cases hr <;> exact h

/-- The calls of others leave the registers to the runner. -/
theorem Explained.call {m n : Machine} {c : List Message} {stage : Stage} {call : Call}
    (h : Explained program ⟨m, c, stage⟩) (hc : call.effect? m = some n) :
    Explained program ⟨n, c, stage⟩ := by
  obtain ⟨hpc, hmemory, -, hmark⟩ := call.keeps hc
  have hmono : ∀ status : Status, status.ExplainedBy program m.snapshot →
      status.ExplainedBy program n.snapshot := fun status hs =>
    hs.mono hpc (congrArg (Option.map Memory.toList) hmemory) hmark
  cases stage with
  | busy phase =>
    cases phase with
    | executing line => exact (congrArg program.lineAt? hpc).trans h
    | taking address =>
      obtain ⟨line, hline, hinput, memory, hm, hcell⟩ := h
      exact ⟨line, (congrArg program.lineAt? hpc).trans hline, hinput, memory, hmemory.trans hm, hcell⟩
    | judging status | noting status => exact hmono status h
    | _ => exact h
  | handing status | rendered status | shown status => exact fun hends => hmono status (h hends)

end Scene

namespace Session

variable {callers : Callers} {before : Shared} {program : Program} {elapsed : Nat}
  {course : List Moment}

/-- The run that a session is occupied with, once it is at work, is the one that was accepted, and its
scene has the property. -/
def Occupancy.Runs (program : Program) (elapsed : Nat) (P : Scene → Prop) : Occupancy → Prop
  | .opening _ _ => True
  | .running r => r.Linked ∧ r.program = program ∧ r.elapsed = elapsed ∧ P r.scene

/-- What the moves of a scene and the calls of others preserve holds of every run of a session, if it
holds where a run begins, whatever there is on the machine and the console. -/
theorem Unfolds.invariant {P : Scene → Prop} {o : Occupancy}
    (h : Unfolds callers before program elapsed course o) (hstart : ∀ m c, P ⟨m, c, .busy .testing⟩)
    (hmove : ∀ s t, P s → Scene.Move program elapsed s t → P t)
    (hcall : ∀ m n c stage (call : Call), P ⟨m, c, stage⟩ → call.effect? m = some n →
      P ⟨n, c, stage⟩) : o.Runs program elapsed P := by
  induction h with
  | accept => trivial
  | step _ _ hstep ih =>
    cases hstep with
    | clear shared part =>
      cases part with
      | registers | mailbox | awaiting => trivial
      | interrupted => exact ⟨linked_accept shared program elapsed, rfl, rfl, hstart _ _⟩
    | early => trivial
    | act hact hr =>
      obtain ⟨hlinked, hprogram, helapsed, hp⟩ := ih
      have ha := hlinked.advance hact hr
      refine ⟨ha.linked, ha.program.trans hprogram, ha.elapsed.trans helapsed, ?_⟩
      obtain ⟨hscene, -⟩ | ⟨hm, -⟩ := ha.seen
      · rw [hscene]
        exact hp
      · rw [hprogram, helapsed] at hm
        exact hmove _ _ hp hm
    | call call hc =>
      obtain ⟨hlinked, hprogram, helapsed, hp⟩ := ih
      exact ⟨hlinked, hprogram, helapsed, hcall _ _ _ _ call hp hc⟩

/-- However the threads of a run take turns and whatever others do, the report of the run explains its
ending: it was stopped and the machine is marked, or the program counter is at a line that ends
the program, or at one that fails in the reported way on the machine of the snapshot. -/
theorem report_explains_ending {r : Run} {report : Report}
    (h : Unfolds callers before program elapsed course (.running r))
    (hr : r.report? = some report) : report.Explained program := by
  have hruns := h.invariant (P := Scene.Explained program) (fun _ _ => trivial)
    (fun _ _ hp hm => hp.move hm) (fun _ _ _ _ _ hp hc => hp.call hc)
  obtain ⟨-, -, -, hexplained⟩ := hruns
  unfold Run.report? at hr
  split at hr
  · next report' hrunner =>
    obtain rfl : report' = report := Option.some.inj hr
    have hstage : r.stage = .busy (.finished report') := Run.stage_of_runner hrunner nofun
    unfold Scene.Explained Run.scene at hexplained
    rw [hstage] at hexplained
    exact hexplained
  · cases hr

/-- The run of a program that divides by a cell that holds zero. -/
def dividing : Run :=
  Schedule.settle (Schedule.first? Run.threads) 64 (accept {} ["SET 1", "DIV 1"] 0)

theorem report_explains_ending_dividing :
    dividing.report? = some ⟨.failed .divisionByZero, ⟨1, some [0, 0], false, false⟩⟩ ∧
      Report.Explained ["SET 1", "DIV 1"]
        ⟨.failed .divisionByZero, ⟨1, some [0, 0], false, false⟩⟩ := by
  have hreport : dividing.report? =
      some ⟨.failed .divisionByZero, ⟨1, some [0, 0], false, false⟩⟩ := by decide +kernel
  have haccept : ∃ course, Unfolds (fun _ _ => True) {} ["SET 1", "DIV 1"] 0 course
      (.running (accept {} ["SET 1", "DIV 1"] 0)) := unfolds_accept rfl
  obtain ⟨_, hbegins⟩ := haccept
  obtain ⟨_, hends⟩ := hbegins.settle 64
  exact ⟨hreport, report_explains_ending hends hreport⟩

end Session

end AccumulatorMachine
