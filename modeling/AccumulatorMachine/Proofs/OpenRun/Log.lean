import Mathlib.Data.List.ModifyLast
import AccumulatorMachine.Proofs.Machine.Call
import AccumulatorMachine.Proofs.OpenRun

/-! A log of an open run: the lines that its runner begins to execute and the statuses that it hands
over. Calls from outside leave no trace in it. -/
namespace AccumulatorMachine

/-- A status that the runner has begun to hand over. -/
structure HandOver where
  status : Status
  /-- The printer has looked for the value to print and found the mailbox closed. -/
  lost : Bool := false
  deriving DecidableEq, Repr

structure Log where
  lines : List String := []
  handOvers : List HandOver := []
  deriving DecidableEq, Repr

namespace Log

def statuses (log : Log) : List Status := log.handOvers.map (·.status)

/-- The statuses of which the user is told. -/
def told (log : Log) : List Status := (log.handOvers.filter (!·.lost)).map (·.status)

def handOver (log : Log) (status : Status) : Log :=
  { log with handOvers := log.handOvers ++ [{ status }] }

def lose (log : Log) : Log :=
  { log with handOvers := log.handOvers.modifyLast fun h => { h with lost := true } }

/-- What is to be noted when one scene follows another. -/
def note (log : Log) (s t : Scene) : Log :=
  match s.stage, t.stage with
  | .busy .fetching, .busy (.executing line) => { log with lines := log.lines ++ [line] }
  | .busy _, .handing status => log.handOver status
  | .handing .output, .rendered .output _ => if s.machine.mailbox.closed then log.lose else log
  | _, _ => log

@[simp] theorem statuses_handOver (log : Log) (status : Status) :
    (log.handOver status).statuses = log.statuses ++ [status] := by
  simp [handOver, statuses]

@[simp] theorem told_handOver (log : Log) (status : Status) :
    (log.handOver status).told = log.told ++ [status] := by
  simp [handOver, told]

@[simp] theorem lines_handOver (log : Log) (status : Status) :
    (log.handOver status).lines = log.lines := rfl

@[simp] theorem lines_lose (log : Log) : log.lose.lines = log.lines := rfl

/-- What is lost has been handed over all the same. -/
@[simp] theorem statuses_lose (log : Log) : log.lose.statuses = log.statuses := by
  obtain ⟨lines, handOvers⟩ := log
  unfold statuses lose
  obtain rfl | ⟨before, h, rfl⟩ := List.eq_nil_or_concat handOvers
  · rfl
  · rw [List.concat_eq_append, List.modifyLast_concat, List.map_append, List.map_append]
    rfl

theorem note_of_stage_eq (log : Log) {s t : Scene} (h : t.stage = s.stage) : log.note s t = log := by
  unfold note
  rw [h]
  cases s.stage with
  | busy phase => cases phase <;> rfl
  | handing status => cases status <;> rfl
  | _ => rfl

end Log

/-! ### Changes of the scene -/

namespace Scene

/-- What a step of an open run is in the scene. -/
inductive Change (program : Program) (elapsed : Nat) : Scene → Scene → Prop
  | rest (s : Scene) : Change program elapsed s s
  | move {s t : Scene} (h : Move program elapsed s t) : Change program elapsed s t
  | call {m n : Machine} {c : List Message} {stage : Stage} (call : Call)
      (h : call.effect? m = some n) : Change program elapsed ⟨m, c, stage⟩ ⟨n, c, stage⟩

end Scene

namespace OpenRun

theorem Step.change {s t : OpenRun} (h : Step s t) (hl : s.run.Linked) :
    t.run.Linked ∧ t.run.program = s.run.program ∧ t.run.elapsed = s.run.elapsed ∧
      Scene.Change s.run.program s.run.elapsed s.run.scene t.run.scene := by
  cases h with
  | act hact hrun =>
    have ha := hl.advance hact hrun
    refine ⟨ha.linked, ha.program, ha.elapsed, ?_⟩
    obtain ⟨hscene, -⟩ | ⟨hmove, -⟩ := ha.seen
    · rw [hscene]
      exact .rest _
    · exact .move hmove
  | deliver text => exact ⟨hl, rfl, rfl, .call (.deliver text) rfl⟩
  | beginStop => exact ⟨hl, rfl, rfl, .call .mark rfl⟩
  | endStop hpos => exact ⟨hl, rfl, rfl, .call .close rfl⟩

/-- A run comes from one state to another, and this is noted on the way. -/
inductive Logged (start : OpenRun) : Log → OpenRun → Prop
  | refl : Logged start {} start
  | step {log : Log} {s t : OpenRun} (h : Logged start log s) (hst : Step s t) :
      Logged start (log.note s.run.scene t.run.scene) t

/-- What the moves of a scene and the calls of others preserve holds to the end. -/
theorem Logged.invariant {start s : OpenRun} {log : Log} {P : Log → Scene → Prop}
    (h : Logged start log s) (hl : start.run.Linked) (hstart : P {} start.run.scene)
    (hmove : ∀ log s t, P log s → Scene.Move start.run.program start.run.elapsed s t →
      P (log.note s t) t)
    (hcall : ∀ log m n c stage (call : Call), P log ⟨m, c, stage⟩ → call.effect? m = some n →
      P log ⟨n, c, stage⟩) :
    P log s.run.scene ∧ s.run.Linked := by
  have hall : P log s.run.scene ∧ s.run.Linked ∧ s.run.program = start.run.program ∧
      s.run.elapsed = start.run.elapsed := by
    induction h with
    | refl => exact ⟨hstart, hl, rfl, rfl⟩
    | @step log s t _ hst ih =>
      obtain ⟨hp, hlinked, hprogram, helapsed⟩ := ih
      obtain ⟨hlinked', hprogram', helapsed', hchange⟩ := hst.change hlinked
      refine ⟨?_, hlinked', hprogram'.trans hprogram, helapsed'.trans helapsed⟩
      rw [hprogram, helapsed] at hchange
      generalize s.run.scene = a at hp hchange ⊢
      generalize t.run.scene = b at hchange ⊢
      cases hchange with
      | rest =>
        rw [Log.note_of_stage_eq log rfl]
        exact hp
      | move hm => exact hmove log a b hp hm
      | @call m n c stage call hc =>
        have hn : log.note ⟨m, c, stage⟩ ⟨n, c, stage⟩ = log := Log.note_of_stage_eq log rfl
        rw [hn]
        exact hcall log m n c stage call hp hc
  exact ⟨hall.1, hall.2.1⟩

theorem Logged.steps {start s : OpenRun} {log : Log} (h : Logged start log s) :
    Relation.ReflTransGen Step start s := by
  induction h with
  | refl => exact .refl
  | step _ hst ih => exact ih.tail hst

theorem exists_logged {start s : OpenRun} (h : Relation.ReflTransGen Step start s) :
    ∃ log, Logged start log s := by
  induction h with
  | refl => exact ⟨{}, .refl⟩
  | tail _ hst ih =>
    obtain ⟨log, hlog⟩ := ih
    exact ⟨_, hlog.step hst⟩

/-- A run keeps its threads together and its program. -/
theorem kept_of_steps {start s : OpenRun} (h : Relation.ReflTransGen Step start s)
    (hl : start.run.Linked) : s.run.Linked ∧ s.run.program = start.run.program := by
  induction h with
  | refl => exact ⟨hl, rfl⟩
  | tail _ hst ih =>
    obtain ⟨hlinked, hprogram, -, -⟩ := hst.change ih.1
    exact ⟨hlinked, hprogram.trans ih.2⟩

/-- The threads of a run are where they begin. Others may have called already, while the machine was
being reset, so nothing is said about it. -/
def Begins (program : Program) (elapsed : Nat) (s : OpenRun) : Prop :=
  s.run.toThreads = { program, elapsed }

theorem begins_start (shared : Shared) (program : Program) (elapsed : Nat) :
    (start shared program elapsed).Begins program elapsed := rfl

theorem Begins.scene {program : Program} {elapsed : Nat} {s : OpenRun}
    (h : s.Begins program elapsed) :
    s.run.Linked ∧ s.run.elapsed = elapsed ∧ s.run.stage = .busy .testing := by
  obtain ⟨⟨shared, threads⟩, stopping, stopped⟩ := s
  obtain rfl : threads = { program, elapsed } := h
  exact ⟨Session.linked_accept shared program elapsed, rfl, rfl⟩

theorem kept_of_reachable {shared : Shared} {program : Program} {elapsed : Nat} {s : OpenRun}
    (h : Reachable shared program elapsed s) : s.run.Linked ∧ s.run.program = program :=
  kept_of_steps h (Session.linked_accept shared program elapsed)

/-! ### Playing a run with its log -/

/-- An action of the first thread that does not wait. -/
def act? (p : Log × OpenRun) : Option (Log × OpenRun) :=
  (Schedule.first? Run.threads p.2.run).map fun run =>
    (p.1.note p.2.run.scene run.scene, { p.2 with run })

def play (bound : Nat) (p : Log × OpenRun) : Log × OpenRun := Schedule.settle act? bound p

/-- A whole stop, which leaves no trace in the log. -/
def stop (s : OpenRun) : OpenRun :=
  { s.onMachine Machine.interrupt with stopped := s.stopped + 1 }

theorem Logged.act {start : OpenRun} {p q : Log × OpenRun} (h : Logged start p.1 p.2)
    (hact : act? p = some q) : Logged start q.1 q.2 := by
  unfold act? at hact
  rw [Option.map_eq_some_iff] at hact
  obtain ⟨run, hrun, rfl⟩ := hact
  obtain ⟨act, hmem, hstep⟩ := List.exists_of_findSome?_eq_some hrun
  exact h.step (.act hmem hstep)

theorem Logged.play {start : OpenRun} (bound : Nat) {p : Log × OpenRun}
    (h : Logged start p.1 p.2) : Logged start (play bound p).1 (play bound p).2 := by
  unfold OpenRun.play
  induction bound generalizing p with
  | zero => exact h
  | succ n ih =>
    unfold Schedule.settle
    split
    · exact h
    · next hact => exact ih (h.act hact)

theorem Logged.call {start : OpenRun} {log : Log} {s t : OpenRun} (h : Logged start log s)
    (hst : Step s t) (hstage : t.run.stage = s.run.stage) : Logged start log t := by
  have ht := h.step hst
  have hn : log.note s.run.scene t.run.scene = log := log.note_of_stage_eq hstage
  rwa [hn] at ht

theorem Logged.stop {start : OpenRun} {log : Log} {s : OpenRun} (h : Logged start log s) :
    Logged start log s.stop :=
  (h.call (.beginStop s) rfl).call (.endStop (Nat.succ_pos _)) rfl

end OpenRun

end AccumulatorMachine
