import AccumulatorMachine.Proofs.OpenRun.Messages

/-! How soon a stop takes effect. The runner begins at most one more line and hands over at most one more
status that lets it go on. -/
namespace AccumulatorMachine

/-! ### At most one more line -/

namespace Stage

/-- The line that the runner is about to execute. -/
def line? : Stage → Option String
  | .busy (.executing line) => some line
  | _ => none

/-- The status that is being handed over. -/
def status? : Stage → Option Status
  | .handing status | .rendered status _ | .shown status => some status
  | _ => none

end Stage

/-- At most one status, and one that lets the run go on. -/
def AtMostOne (statuses : List Status) : Prop :=
  statuses = [] ∨ ∃ status, statuses = [status] ∧ status.continues = true

/-- At most one status that lets the run go on, and then at most one that does not. -/
def AreLast : List Status → Prop
  | [] | [_] => True
  | [first, last] => first.continues = true ∧ last.continues = false
  | _ => False

theorem AtMostOne.areLast {statuses : List Status} (h : AtMostOne statuses) : AreLast statuses := by
  obtain rfl | ⟨status, rfl, -⟩ := h <;> trivial

theorem AtMostOne.areLast_append {statuses : List Status} {last : Status} (h : AtMostOne statuses)
    (hl : last.continues = false) : AreLast (statuses ++ [last]) := by
  obtain rfl | ⟨status, rfl, hc⟩ := h
  · trivial
  · exact ⟨hc, hl⟩

/-- A status is being handed over, of all those since the stop. If it lets the run go on, it is the
first, and the stop has yet to be found. -/
def Hands (marked : Bool) (statuses : List Status) (status : Status) : Prop :=
  ∃ before, AtMostOne before ∧ statuses = before ++ [status] ∧
    (status.continues = true → before = [] ∧ marked = true)

/-! ### What the log says of a move -/

namespace Log
variable (log : Log) (m n : Machine) (c : List Message)

theorem note_afterLine {p : RunnerPhase} (hp : p ≠ .fetching) (status : Status) :
    let log' := log.note ⟨m, c, .busy p⟩ ⟨n, c, .afterLine status⟩
    log'.lines = log.lines ∧
      log'.statuses = log.statuses ++ (Stage.afterLine status).status?.toList := by
  cases status with
  | ok | failed cause =>
    cases p with
    | fetching => exact absurd rfl hp
    | _ => exact ⟨rfl, (List.append_nil _).symm⟩
  | _ => cases p <;> exact ⟨rfl, log.statuses_handOver _⟩

theorem note_rendered (status : Status) (text : Option String) :
    let log' := log.note ⟨m, c, .handing status⟩ ⟨n, c, .rendered status text⟩
    log'.lines = log.lines ∧ log'.statuses = log.statuses := by
  cases status with
  | output =>
    simp only [note]
    split
    · exact ⟨rfl, log.statuses_lose⟩
    · exact ⟨rfl, rfl⟩
  | _ => exact ⟨rfl, rfl⟩

end Log

namespace Scene

/-- The lines begun and the statuses handed over since a stop, the ones at the time included. -/
def Winds (lines : List String) (statuses : List Status) (s : Scene) : Prop :=
  lines.length ≤ 1 ∧
    match s.stage with
    | .busy .fetching => s.machine.interrupted = true ∧ lines = [] ∧ statuses = []
    | .busy (.executing _) | .busy (.taking _) | .busy (.judging _) =>
      s.machine.interrupted = true ∧ statuses = []
    | .busy .testing => s.machine.interrupted = true ∧ AtMostOne statuses
    | .busy _ => AreLast statuses
    | .handing status | .rendered status _ | .shown status =>
      Hands s.machine.interrupted statuses status

theorem winds_start {s : Scene} (hi : s.machine.interrupted = true) :
    s.Winds s.stage.line?.toList s.stage.status?.toList := by
  obtain ⟨m, c, stage⟩ := s
  have hhands : ∀ status, Hands m.interrupted [status] status := fun status =>
    ⟨[], .inl rfl, rfl, fun _ => ⟨rfl, hi⟩⟩
  cases stage with
  | busy phase =>
    cases phase with
    | testing => exact ⟨Nat.zero_le 1, hi, .inl rfl⟩
    | fetching => exact ⟨Nat.zero_le 1, hi, rfl, rfl⟩
    | executing line => exact ⟨Nat.le_refl 1, hi, rfl⟩
    | taking | judging => exact ⟨Nat.zero_le 1, hi, rfl⟩
    | _ => exact ⟨Nat.zero_le 1, trivial⟩
  | handing status | rendered status | shown status => exact ⟨Nat.zero_le 1, hhands status⟩

theorem winds_afterLine {lines : List String} {m : Machine} {c : List Message} (status : Status)
    (hi : m.interrupted = true) (hlines : lines.length ≤ 1) :
    Winds lines (Stage.afterLine status).status?.toList ⟨m, c, .afterLine status⟩ := by
  have hhands : Hands m.interrupted [status] status := ⟨[], .inl rfl, rfl, fun _ => ⟨rfl, hi⟩⟩
  cases status with
  | ok => exact ⟨hlines, hi, .inl rfl⟩
  | failed cause => exact ⟨hlines, hi, rfl⟩
  | _ => exact ⟨hlines, hhands⟩

variable {program : Program} {elapsed : Nat} {lines : List String} {statuses : List Status}
  {log : Log} {s t : Scene}

theorem Winds.move (h : s.Winds (lines ++ log.lines) (statuses ++ log.statuses))
    (hm : Move program elapsed s t) :
    t.Winds (lines ++ (log.note s t).lines) (statuses ++ (log.note s t).statuses) := by
  obtain ⟨hlines, h⟩ := h
  cases hm with
  | stop _ =>
    obtain ⟨-, hone⟩ := h
    simp only [Log.note, Log.lines_handOver, Log.statuses_handOver]
    rw [← List.append_assoc]
    exact ⟨hlines, _, hone, rfl, fun hc => absurd hc Bool.false_ne_true⟩
  | proceed hi =>
    obtain ⟨hmarked, -⟩ := h
    simp [hi] at hmarked
  | stall _ =>
    obtain ⟨hi, -, hnone⟩ := h
    exact ⟨hlines, hi, .inl hnone⟩
  | @fetch m c line _ =>
    obtain ⟨hi, hnone, hstatuses⟩ := h
    refine ⟨?_, hi, hstatuses⟩
    have hlog : lines ++ (log.lines ++ [line]) = [line] := by
      rw [← List.append_assoc, hnone, List.nil_append]
    change (lines ++ (log.lines ++ [line])).length ≤ 1
    rw [hlog]
    exact Nat.le_refl 1
  | @execute m c line status m' hv =>
    obtain ⟨hi, hnone⟩ := h
    obtain ⟨hl, hs⟩ := log.note_afterLine m m' c (p := .executing line) (by simp) status
    rw [hl, hs, ← List.append_assoc, hnone, List.nil_append]
    exact winds_afterLine status ((Machine.interrupted_of_visitLine hv).trans hi) hlines
  | reach _ => exact ⟨hlines, h⟩
  | @take m c address status m' ht =>
    obtain ⟨hi, hnone⟩ := h
    obtain ⟨hl, hs⟩ := log.note_afterLine m m' c (p := .taking address) (by simp) status
    rw [hl, hs, ← List.append_assoc, hnone, List.nil_append]
    exact winds_afterLine status ((Machine.interrupted_of_takeInput? ht).trans hi) hlines
  | @judge m c cause =>
    obtain ⟨hi, hnone⟩ := h
    simp only [Log.note, Log.lines_handOver, Log.statuses_handOver]
    rw [← List.append_assoc, hnone, List.nil_append]
    refine ⟨hlines, [], .inl rfl, rfl, fun _ => ⟨rfl, hi⟩⟩
  | @print m c text m' ht =>
    obtain ⟨hl, hs⟩ := log.note_rendered m m' c .output text
    rw [hl, hs]
    refine ⟨hlines, ?_⟩
    change Hands m'.interrupted _ _
    rw [Machine.interrupted_of_requestOutput? ht]
    exact h
  | @describe m c status _ =>
    obtain ⟨hl, hs⟩ := log.note_rendered m m c status (status.describe? elapsed)
    rw [hl, hs]
    exact ⟨hlines, h⟩
  | append => exact ⟨hlines, h⟩
  | @resume m c status =>
    obtain ⟨before, hbefore, heq, hfirst⟩ := h
    -- a status that lets the run go on is the first since the stop, and the test comes next
    change Winds _ (statuses ++ log.statuses) _
    cases hc : status.continues with
    | true =>
      obtain ⟨rfl, hi⟩ := hfirst hc
      simp only [Stage.afterReport, hc, if_true]
      exact ⟨hlines, hi, .inr ⟨status, heq, hc⟩⟩
    | false =>
      simp only [Stage.afterReport, hc, Bool.false_eq_true, if_false]
      refine ⟨hlines, ?_⟩
      change AreLast (statuses ++ log.statuses)
      rw [heq]
      exact hbefore.areLast_append hc
  | note => exact ⟨hlines, h⟩
  | @clear m c report part =>
    cases part <;> exact ⟨hlines, h⟩
  | retire hr => cases hr <;> exact ⟨hlines, h⟩

/-- A call of others does not take the mark away. -/
theorem Winds.call {m n : Machine} {c : List Message} {stage : Stage} {call : Call}
    (h : Winds lines statuses ⟨m, c, stage⟩) (hc : call.effect? m = some n) :
    Winds lines statuses ⟨n, c, stage⟩ := by
  obtain ⟨hlines, h⟩ := h
  obtain ⟨-, -, -, hi⟩ := call.keeps hc
  have hhands : ∀ status, Hands m.interrupted statuses status →
      Hands n.interrupted statuses status := by
    rintro status ⟨before, hbefore, heq, hfirst⟩
    exact ⟨before, hbefore, heq, fun hc => (hfirst hc).imp_right hi⟩
  refine ⟨hlines, ?_⟩
  cases stage with
  | busy phase =>
    cases phase with
    | testing | fetching | executing | taking | judging => exact h.imp_left hi
    | _ => exact h
  | handing status | rendered status _ | shown status => exact hhands status h

theorem Winds.areLast (h : s.Winds lines statuses) : AreLast statuses := by
  obtain ⟨m, c, stage⟩ := s
  obtain ⟨-, h⟩ := h
  have hhands : ∀ status, Hands m.interrupted statuses status → AreLast statuses := by
    rintro status ⟨before, hbefore, rfl, hfirst⟩
    cases hc : status.continues with
    | true =>
      obtain ⟨rfl, -⟩ := hfirst hc
      trivial
    | false => exact hbefore.areLast_append hc
  cases stage with
  | busy phase =>
    cases phase with
    | testing => exact h.2.areLast
    | fetching =>
      obtain ⟨-, -, rfl⟩ := h
      trivial
    | executing | taking | judging =>
      obtain ⟨-, rfl⟩ := h
      trivial
    | _ => exact h
  | handing status | rendered status _ | shown status => exact hhands status h

end Scene

namespace OpenRun

/-- From the moment at which a stop has marked the machine, wherever the threads of the run are, the
runner begins at most one line and hands over at most one status that lets the run go on, even
if the line that it is about to execute and the status that it is handing over are counted. The
next status ends the run, and none follows. -/
theorem stop_is_prompt {program : Program} {elapsed : Nat} {first s t : OpenRun} {log : Log}
    (hfirst : first.Begins program elapsed) (h : Relation.ReflTransGen Step first s)
    (hi : s.run.machine.interrupted = true) (ht : Logged s log t) :
    (s.run.stage.line?.toList ++ log.lines).length ≤ 1 ∧
      AreLast (s.run.stage.status?.toList ++ log.statuses) := by
  have hstart : s.run.scene.Winds (s.run.stage.line?.toList ++ [])
      (s.run.stage.status?.toList ++ []) := by
    simp only [List.append_nil]
    exact Scene.winds_start (s := s.run.scene) hi
  have hwinds := (ht.invariant
    (P := fun log scene => scene.Winds (s.run.stage.line?.toList ++ log.lines)
      (s.run.stage.status?.toList ++ log.statuses))
    (kept_of_steps h hfirst.scene.1).1 hstart
    (fun _ _ _ hw hm => hw.move hm) (fun _ _ _ _ _ _ hw hc => hw.call hc)).1
  exact ⟨hwinds.1, hwinds.areLast⟩

/-- A run that is stopped between the runner's test of the mark and a line that prints. -/
def stoppedLate : OpenRun := (play 4 ({}, start {} ["SET 1", "OUT 1", "JMP 2"] 0)).2.stop

/-- One more line, one more value, and the end. -/
theorem stop_is_prompt_stoppedLate :
    let rest := play 64 ({}, stoppedLate)
    rest.1.lines = ["OUT 1"] ∧ rest.1.statuses = [.output, .stopped] ∧
      (stoppedLate.run.stage.line?.toList ++ rest.1.lines).length ≤ 1 ∧
      AreLast (stoppedLate.run.stage.status?.toList ++ rest.1.statuses) := by
  intro rest
  have hreach : Reachable {} ["SET 1", "OUT 1", "JMP 2"] 0 stoppedLate :=
    (Logged.play 4 (p := ({}, _)) .refl).stop.steps
  have hrest : Logged stoppedLate rest.1 rest.2 := .play 64 (p := ({}, _)) .refl
  obtain ⟨hline, hlast⟩ := stop_is_prompt (begins_start _ _ _) hreach (by decide +kernel) hrest
  exact ⟨by decide +kernel, by decide +kernel, hline, hlast⟩

end OpenRun

end AccumulatorMachine
