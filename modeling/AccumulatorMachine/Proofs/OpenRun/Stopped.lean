import AccumulatorMachine.Proofs.OpenRun.Progress
import AccumulatorMachine.Proofs.OpenRun.Stop

/-! What becomes of a run that is stopped. It comes to its end after a few actions, whatever its program
is, and it ends as stopped, unless the runner was about to execute the line that ends the
program. -/
namespace AccumulatorMachine

/-- The line that ends the run has yet to be executed, or to be found an error in. -/
def Stage.Undecided : Stage → Prop
  | .busy phase => phase.ending? = none
  | .handing status | .rendered status _ | .shown status => status.continues = true

/-! ### How far it is to the end -/

/-- A bound on the moves of the scene that are left when the machine is marked. -/
def RunnerPhase.left : RunnerPhase → Nat
  | .fetching => 18
  | .executing _ => 17
  | .taking _ => 16
  | .testing | .judging _ => 12
  | .noting _ => 8
  | .clearing _ .registers => 7
  | .clearing _ .mailbox => 6
  | .clearing _ .awaiting => 5
  | .clearing _ .interrupted => 4
  | .signalling _ => 3
  | .asleep _ _ => 2
  | .leaving _ => 1
  | .reporting _ | .finished _ | .absent => 0

/-- A status that lets the run go on leads to the test of the mark once more. -/
def Stage.left : Stage → Nat
  | .busy phase => phase.left
  | .handing status => if status.continues then 15 else 11
  | .rendered status _ => if status.continues then 14 else 10
  | .shown status => if status.continues then 13 else 9

theorem Stage.left_le (stage : Stage) : stage.left ≤ 18 := by
  cases stage with
  | busy phase =>
    cases phase with
    | clearing report part => cases part <;> simp [left, RunnerPhase.left]
    | _ => simp [left, RunnerPhase.left]
  | _ =>
    simp only [left]
    split <;> omega

theorem Stage.left_afterLine (status : Status) : (afterLine status).left ≤ 15 := by
  cases status with
  | failed cause => exact Nat.le_add_right 12 3
  | _ => decide

namespace Scene

/-- The machine is marked, or the end is decided anyway. -/
def Doomed (s : Scene) : Prop := s.stage.Undecided → s.machine.interrupted = true

variable {program : Program} {elapsed : Nat} {s t : Scene}

theorem Doomed.move (h : s.Doomed) (hm : Move program elapsed s t) :
    t.Doomed ∧ t.stage.left < s.stage.left := by
  cases hm with
  | stop hi => exact ⟨fun _ => hi, Nat.lt_succ_self 11⟩
  | proceed hi => exact absurd (hi.symm.trans (h rfl)) Bool.false_ne_true
  | stall _ => exact ⟨fun _ => h rfl, by simp [Stage.left, RunnerPhase.left]⟩
  | fetch _ => exact ⟨fun _ => h rfl, Nat.lt_succ_self 17⟩
  | @execute m c line status m' hv =>
    have hi : m'.interrupted = true := (Machine.interrupted_of_visitLine hv).trans (h rfl)
    have hleft : (Stage.afterLine status).left ≤ 15 := Stage.left_afterLine status
    refine ⟨fun _ => hi, ?_⟩
    change (Stage.afterLine status).left < 17
    omega
  | reach _ => exact ⟨fun _ => h rfl, Nat.lt_succ_self 16⟩
  | @take m c address status m' ht =>
    have hi : m'.interrupted = true := (Machine.interrupted_of_takeInput? ht).trans (h rfl)
    have hleft : (Stage.afterLine status).left ≤ 15 := Stage.left_afterLine status
    refine ⟨fun _ => hi, ?_⟩
    change (Stage.afterLine status).left < 16
    omega
  | @judge m c cause =>
    have hi : m.interrupted = true := h rfl
    -- the mark explains the error away
    refine ⟨fun _ => hi, ?_⟩
    simp only [hi, if_true]
    exact Nat.lt_succ_self 11
  | @print m c text m' ht =>
    refine ⟨fun _ => (Machine.interrupted_of_requestOutput? ht).trans (h rfl), ?_⟩
    exact Nat.lt_succ_self 14
  | @describe m c status _ | @append m c status _ =>
    refine ⟨h, ?_⟩
    simp only [Stage.left]
    split <;> omega
  | @resume m c status =>
    cases hc : status.continues with
    | true =>
      have hi : m.interrupted = true := h hc
      refine ⟨fun _ => hi, ?_⟩
      simp [Stage.afterReport, Stage.left, RunnerPhase.left, hc]
    | false =>
      constructor
      · intro hu
        simp [Stage.afterReport, Stage.Undecided, RunnerPhase.ending?, hc] at hu
      · simp [Stage.afterReport, Stage.left, RunnerPhase.left, hc]
  | note => exact ⟨fun hu => absurd hu (Option.some_ne_none _), Nat.lt_succ_self 7⟩
  | @clear m c report part =>
    cases part <;> exact ⟨fun hu => absurd hu (Option.some_ne_none _), Nat.lt_succ_self _⟩
  | retire hr =>
    cases hr <;> refine ⟨fun hu => absurd hu (Option.some_ne_none _), ?_⟩ <;>
      simp [Stage.left, RunnerPhase.left]

end Scene

theorem Run.slack_le (r : Run) : r.slack ≤ 33 := by
  have hsender : r.statuses.sender.slack ≤ 15 := by cases r.statuses.sender <;> simp [Sender.slack]
  have hreceiver : r.statuses.receiver.slack ≤ 11 := by
    cases r.statuses.receiver <;> simp [Receiver.slack]
  have hprinter : r.printer.slack ≤ 3 := by cases r.printer <;> simp [PrinterPhase.slack]
  have hfinisher : r.finisher.slack ≤ 4 := by cases r.finisher <;> simp [FinisherPhase.slack]
  unfold slack
  omega

/-- A bound on the actions that are left when the machine is marked. A move of the scene makes room
for the actions that it does not show. -/
def Run.left (r : Run) : Nat := 16 * r.stage.left + r.slack

theorem Run.left_le (r : Run) : r.left ≤ 321 := by
  have hstage := r.stage.left_le
  have hslack := r.slack_le
  unfold left
  omega

theorem Run.left_of_toThreads {r r' : Run} (h : r'.toThreads = r.toThreads) : r'.left = r.left := by
  obtain ⟨shared, threads⟩ := r
  obtain ⟨shared', threads'⟩ := r'
  obtain rfl : threads' = threads := h
  rfl

theorem Run.Advance.doomed {r s : Run} (ha : r.Advance s) (h : r.scene.Doomed) :
    s.scene.Doomed ∧ s.left < r.left := by
  unfold Run.left
  obtain ⟨hscene, hslack⟩ | ⟨hmove, hslack⟩ := ha.seen
  · have hstage : s.stage = r.stage := congrArg Scene.stage hscene
    rw [hscene, hstage]
    exact ⟨h, by omega⟩
  · obtain ⟨hdoomed, hleft⟩ := h.move hmove
    change s.stage.left < r.stage.left at hleft
    exact ⟨hdoomed, by omega⟩

namespace OpenRun

variable {shared : Shared} {program : Program} {elapsed : Nat} {s t : OpenRun}

theorem doomed_of_reachable (h : Reachable shared program elapsed s)
    (hs : 0 < s.stopping ∨ 0 < s.stopped) : s.run.scene.Doomed := by
  induction h with
  | refl => obtain hs | hs := hs <;> cases hs
  | tail hreach hst ih =>
    cases hst with
    | act hact hrun =>
      have ha := (kept_of_reachable hreach).1.advance hact hrun
      exact (ha.doomed (ih hs)).1
    | deliver => exact ih hs
    | beginStop => exact fun _ => rfl
    | endStop hpos => exact ih (.inl hpos)

/-- Stops are not taken back. -/
theorem Step.stopped_pos (hst : Step s t) (hs : 0 < s.stopped) : 0 < t.stopped := by
  cases hst with
  | endStop => exact Nat.succ_pos _
  | _ => exact hs

/-- A run that is stopped does not wait for an input. -/
theorem canStep_of_stopped (h : Reachable shared program elapsed s) (hs : 0 < s.stopped) :
    s.run.isOver = true ∨ s.run.CanStep := by
  obtain hover | hstep | ⟨-, hnone, -⟩ := (sound_of_reachable h).canStep
  · exact .inl hover
  · exact .inr hstep
  · exact absurd hs (hnone ▸ Nat.lt_irrefl 0)

/-- A run that is stopped can be brought to its end. -/
theorem exists_over (h : Reachable shared program elapsed s) (hs : 0 < s.stopped) :
    ∃ t, Relation.ReflTransGen Step s t ∧ t.run.isOver = true := by
  induction hn : s.run.left using Nat.strongRecOn generalizing s with
  | ind n ih =>
    obtain hover | ⟨act, hact, hsome⟩ := canStep_of_stopped h hs
    · exact ⟨s, .refl, hover⟩
    · obtain ⟨run, hrun⟩ := Option.isSome_iff_exists.mp hsome
      have hst : Step s { s with run } := .act hact hrun
      have ha := (kept_of_reachable h).1.advance hact hrun
      have hleft : run.left < s.run.left := (ha.doomed (doomed_of_reachable h (.inr hs))).2
      obtain ⟨t, ht, hover⟩ := ih run.left (hn ▸ hleft) (h.tail hst) hs rfl
      exact ⟨t, .head hst ht, hover⟩

/-- So many actions of the threads lead from one state to another, with calls in between, which leave
the threads where they are. -/
inductive Acts (s : OpenRun) : Nat → OpenRun → Prop
  | refl : Acts s 0 s
  | act {n : Nat} {t : OpenRun} {act : Run → Option Run} {run : Run} (h : Acts s n t)
      (hact : act ∈ Run.threads) (hrun : act t.run = some run) : Acts s (n + 1) { t with run }
  | call {n : Nat} {t u : OpenRun} (h : Acts s n t) (hst : Step t u)
      (hthreads : u.run.toThreads = t.run.toThreads) : Acts s n u

theorem Acts.steps {n : Nat} (h : Acts s n t) : Relation.ReflTransGen Step s t := by
  induction h with
  | refl => exact .refl
  | act _ hact hrun ih => exact ih.tail (.act hact hrun)
  | call _ hst _ ih => exact ih.tail hst

theorem Acts.left_le {n : Nat} (ha : Acts s n t) (h : Reachable shared program elapsed s)
    (hs : 0 < s.stopped) : n + t.run.left ≤ s.run.left ∧ 0 < t.stopped := by
  induction ha with
  | refl => exact ⟨Nat.le_of_eq (Nat.zero_add _), hs⟩
  | @act n t act run ha hact hrun ih =>
    obtain ⟨hleft, hstopped⟩ := ih
    have hreach : Reachable shared program elapsed t := h.trans ha.steps
    have hadvance := (kept_of_reachable hreach).1.advance hact hrun
    have hlt := (hadvance.doomed (doomed_of_reachable hreach (.inr hstopped))).2
    refine ⟨?_, hstopped⟩
    change n + 1 + run.left ≤ s.run.left
    omega
  | call _ hst hthreads ih =>
    obtain ⟨hleft, hstopped⟩ := ih
    rw [Run.left_of_toThreads hthreads]
    exact ⟨hleft, hst.stopped_pos hstopped⟩

/-- Whatever its program is, however its threads take turns and whatever others do, a run that is
stopped is over after at most 321 actions, and until then some thread can go on. -/
theorem stopped_ends {n : Nat} (h : Reachable shared program elapsed s) (hs : 0 < s.stopped)
    (ha : Acts s n t) : n ≤ 321 ∧ (t.run.isOver = true ∨ t.run.CanStep) := by
  obtain ⟨hleft, hstopped⟩ := ha.left_le h hs
  have hbound := s.run.left_le
  exact ⟨by omega, canStep_of_stopped (h.trans ha.steps) hstopped⟩

end OpenRun

/-! ### How it ends -/

namespace Scene

/-- The run is at its end and comes to nothing else. -/
def EndsIn (final : Status) (s : Scene) : Prop :=
  match s.stage with
  | .handing status | .rendered status _ | .shown status => status = final
  | .busy phase => phase.ending? = some final

/-- The runner has found the machine without a mark and goes on with a line that ends the program. -/
def AtHalt (program : Program) (s : Scene) : Prop :=
  match s.stage with
  | .busy .fetching => ∃ line, program.lineAt? s.machine.pc = some line ∧ Machine.Halts line
  | .busy (.executing line) => Machine.Halts line
  | _ => False

/-- A stop will be found. -/
structure Caught (program : Program) (s : Scene) : Prop where
  marked : s.machine.interrupted = true
  undecided : s.stage.Undecided
  notAtHalt : ¬ s.AtHalt program

variable {program : Program} {elapsed : Nat} {s t : Scene}

theorem EndsIn.move {final : Status} (h : s.EndsIn final) (hf : final.continues = false)
    (hm : Move program elapsed s t) : t.EndsIn final := by
  cases hm with
  | print _ | describe _ | append | note => exact h
  | @resume m c status =>
    obtain rfl : status = final := h
    simp only [Stage.afterReport, hf, Bool.false_eq_true, if_false]
    rfl
  | @clear m c report part => cases part <;> exact h
  | retire hr => cases hr <;> exact h
  | _ => cases h

theorem AtHalt.move (h : s.AtHalt program) (hm : Move program elapsed s t) :
    t.AtHalt program ∨ t.EndsIn .succeeded := by
  cases hm with
  | stall hl =>
    obtain ⟨line, hline, -⟩ := h
    cases hl.symm.trans hline
  | fetch hl =>
    obtain ⟨line, hline, hhalts⟩ := h
    cases hl.symm.trans hline
    exact .inl hhalts
  | @execute m c line status m' hv =>
    cases (Machine.visitLine_of_halts h m).symm.trans hv
    exact .inr rfl
  | @reach m c line address hv => cases (Machine.visitLine_of_halts h m).symm.trans hv
  | retire hr => cases hr <;> exact False.elim h
  | _ => exact False.elim h

theorem Caught.move (h : s.Caught program) (hm : Move program elapsed s t) :
    t.Caught program ∨ t.EndsIn .stopped := by
  cases hm with
  | stop _ => exact .inr rfl
  | proceed hi => exact absurd (hi.symm.trans h.marked) Bool.false_ne_true
  | stall _ => exact .inl ⟨h.marked, rfl, id⟩
  | fetch hl => exact .inl ⟨h.marked, rfl, fun hhalts => h.notAtHalt ⟨_, hl, hhalts⟩⟩
  | @execute m c line status m' hv =>
    have hi : m'.interrupted = true := (Machine.interrupted_of_visitLine hv).trans h.marked
    cases status with
    | succeeded => exact absurd (Machine.halts_of_visitLine hv) h.notAtHalt
    | stopped =>
      have hvisit := m.visits_visitLine line
      rw [hv] at hvisit
      cases hvisit
    | _ => exact .inl ⟨hi, rfl, id⟩
  | reach _ => exact .inl ⟨h.marked, rfl, id⟩
  | @take m c address status m' ht =>
    have hi : m'.interrupted = true := (Machine.interrupted_of_takeInput? ht).trans h.marked
    cases Machine.takes_takeInput? ht <;> exact .inl ⟨hi, rfl, id⟩
  | @judge m c cause =>
    right
    have hi : m.interrupted = true := h.marked
    simp only [hi, if_true]
    rfl
  | @print m c text m' ht =>
    have hi : m'.interrupted = true := (Machine.interrupted_of_requestOutput? ht).trans h.marked
    exact .inl ⟨hi, rfl, id⟩
  | describe _ | append => exact .inl ⟨h.marked, h.undecided, id⟩
  | @resume m c status =>
    have hc : status.continues = true := h.undecided
    simp only [Stage.afterReport, hc, if_true]
    exact .inl ⟨h.marked, rfl, id⟩
  | note | clear => cases h.undecided
  | retire hr => cases hr <;> cases h.undecided

theorem EndsIn.eq_of_ending? {final status : Status} (h : s.EndsIn final)
    (he : s.stage.ending? = some status) : status = final := by
  obtain ⟨m, c, stage⟩ := s
  cases stage with
  | busy phase => exact Option.some.inj (he.symm.trans h)
  | handing | rendered => cases he
  | shown =>
    rw [Stage.ending?_shown] at he
    split at he
    · cases he
    · exact (Option.some.inj he).symm.trans h

theorem ending?_of_undecided (h : s.stage.Undecided) : s.stage.ending? = none := by
  obtain ⟨m, c, stage⟩ := s
  cases stage with
  | busy phase => exact h
  | handing | rendered => rfl
  | shown =>
    rw [Stage.ending?_shown]
    exact if_pos h

theorem AtHalt.ending? (h : s.AtHalt program) : s.stage.ending? = none := by
  obtain ⟨m, c, stage⟩ := s
  cases stage with
  | busy phase =>
    cases phase with
    | fetching | executing => rfl
    | _ => exact False.elim h
  | _ => exact False.elim h

/-- Where the program is, is not for others to say. -/
theorem AtHalt.call {m n : Machine} {c : List Message} {stage : Stage} {call : Call}
    (hc : call.effect? m = some n) :
    AtHalt program ⟨n, c, stage⟩ ↔ AtHalt program ⟨m, c, stage⟩ := by
  have hpc : n.pc = m.pc := (call.keeps hc).1
  simp only [AtHalt, hpc]

theorem Caught.call {m n : Machine} {c : List Message} {stage : Stage} {call : Call}
    (h : Caught program ⟨m, c, stage⟩) (hc : call.effect? m = some n) :
    Caught program ⟨n, c, stage⟩ := by
  obtain ⟨-, -, -, hi⟩ := call.keeps hc
  exact ⟨hi h.marked, h.undecided, fun hhalt => h.notAtHalt ((AtHalt.call hc).mp hhalt)⟩

end Scene

namespace OpenRun

/-- What holds of a run until it has come to its end decides about the status that it ends with. -/
theorem Logged.status_eq {start s : OpenRun} {log : Log} {final status : Status} {P : Scene → Prop}
    (h : Logged start log s) (hl : start.run.Linked) (hf : final.continues = false)
    (hstart : P start.run.scene)
    (hmove : ∀ a b, P a → Scene.Move start.run.program start.run.elapsed a b → P b ∨ b.EndsIn final)
    (hcall : ∀ m n c stage (call : Call), P ⟨m, c, stage⟩ → call.effect? m = some n →
      P ⟨n, c, stage⟩)
    (hopen : ∀ a, P a → a.stage.ending? = none) (he : s.run.stage.ending? = some status) :
    status = final := by
  have hend : P s.run.scene ∨ s.run.scene.EndsIn final := by
    refine (h.invariant (P := fun _ scene => P scene ∨ scene.EndsIn final) hl (.inl hstart) ?_ ?_).1
    · intro _ a b hp hm
      obtain hp | hends := hp
      · exact hmove a b hp hm
      · exact .inr (hends.move hf hm)
    · intro _ m n c stage call hp hc
      exact hp.imp_left fun hp => hcall m n c stage call hp hc
  obtain hp | hends := hend
  · cases (hopen _ hp).symm.trans he
  · exact hends.eq_of_ending? he

/-- A run that is stopped while it is undecided comes to its end, and it ends as stopped, whatever it
was about. The one exception is a runner that has passed its test of the mark and goes on with a
line that ends the program: it does not look again, and the run ends as if nobody had
stopped it. -/
theorem stop_surfaces_unless_halting {shared : Shared} {program : Program} {elapsed : Nat}
    {s t : OpenRun} (h : Reachable shared program elapsed s)
    (hi : s.run.machine.interrupted = true) (hu : s.run.stage.Undecided)
    (ht : Relation.ReflTransGen Step s t) :
    (0 < t.stopped → ∃ u, Relation.ReflTransGen Step t u ∧ u.run.isOver = true) ∧
      ∀ report, t.run.report? = some report →
        (∃ messages, t.run.console = shared.console ++ messages ∧ EndsWith messages report.status) ∧
          (¬ s.run.scene.AtHalt program → report.status = .stopped) ∧
          (s.run.scene.AtHalt program → report.status = .succeeded) := by
  refine ⟨exists_over (h.trans ht), fun report hr => ?_⟩
  obtain ⟨hlinked, rfl⟩ := kept_of_reachable h
  obtain ⟨log, hlog⟩ := exists_logged ht
  obtain ⟨_, hall⟩ := exists_logged (h.trans ht)
  have hending := Run.ending?_of_report? hr
  refine ⟨?_, fun hn => ?_, fun hhalt => ?_⟩
  · obtain ⟨messages, hconsole, htells⟩ := (tells_of_logged (begins_start _ _ _) hall).1
    exact ⟨messages, hconsole, (htells.complete hending).2⟩
  · exact hlog.status_eq (P := Scene.Caught s.run.program) hlinked rfl ⟨hi, hu, hn⟩
      (fun _ _ hp hm => hp.move hm) (fun _ _ _ _ _ hp hc => hp.call hc)
      (fun _ hp => Scene.ending?_of_undecided hp.undecided) hending
  · exact hlog.status_eq (P := Scene.AtHalt s.run.program) hlinked rfl hhalt
      (fun _ _ hp hm => hp.move hm) (fun _ _ _ _ _ hp hc => (Scene.AtHalt.call hc).mpr hp)
      (fun _ hp => hp.ending?) hending

/-- A run that is stopped while it waits for an input. -/
def stoppedInput : OpenRun := (play 32 ({}, start {} ["SET 1", "INP 1", "HLT 0"] 0)).2.stop

theorem stop_surfaces_unless_halting_stoppedInput :
    stoppedInput.run.runner = .taking 1 ∧
      ∃ report, (play 64 ({}, stoppedInput)).2.run.report? = some report ∧ report.status = .stopped := by
  have hreach : Reachable {} ["SET 1", "INP 1", "HLT 0"] 0 stoppedInput :=
    (Logged.play 32 (p := ({}, _)) .refl).stop.steps
  have hends : (play 64 ({}, stoppedInput)).2.run.report? =
      some ⟨.stopped, ⟨1, some [0, 0], true, true⟩⟩ := by decide +kernel
  have hmarked : stoppedInput.run.machine.interrupted = true := by decide +kernel
  have htaking : stoppedInput.run.runner = .taking 1 := by decide +kernel
  have hstage : stoppedInput.run.stage = .busy (.taking 1) := Run.stage_of_runner htaking nofun
  have hundecided : stoppedInput.run.stage.Undecided := by
    rw [hstage]
    rfl
  have hnot : ¬ stoppedInput.run.scene.AtHalt ["SET 1", "INP 1", "HLT 0"] := by
    unfold Scene.AtHalt Run.scene
    rw [hstage]
    exact id
  obtain ⟨-, hreports⟩ := stop_surfaces_unless_halting hreach hmarked hundecided
    (Logged.play 64 (p := ({}, _)) .refl).steps
  obtain ⟨-, hstopped, -⟩ := hreports _ hends
  exact ⟨htaking, _, hends, hstopped hnot⟩

/-- A run that is stopped when its last line has been looked up. -/
def stoppedAtHalt : OpenRun := (play 2 ({}, start {} ["HLT 0"] 0)).2.stop

/-- Not every stop surfaces. -/
theorem stop_missed_at_halt :
    ¬ ∀ (shared : Shared) (program : Program) (elapsed : Nat) (s t : OpenRun) (report : Report),
      Reachable shared program elapsed s → 0 < s.stopped → s.run.stage.Undecided →
        Relation.ReflTransGen Step s t → t.run.report? = some report → report.status = .stopped := by
  intro hall
  have hreach : Reachable {} ["HLT 0"] 0 stoppedAtHalt :=
    (Logged.play 2 (p := ({}, _)) .refl).stop.steps
  have hrunner : stoppedAtHalt.run.runner = .executing "HLT 0" := by decide +kernel
  have hundecided : stoppedAtHalt.run.stage.Undecided := by
    rw [Run.stage_of_runner hrunner nofun]
    rfl
  have hends : (play 64 ({}, stoppedAtHalt)).2.run.report? =
      some ⟨.succeeded, ⟨0, none, true, false⟩⟩ := by decide +kernel
  have hstopped := hall {} ["HLT 0"] 0 stoppedAtHalt _ _ hreach (by decide +kernel) hundecided
    (Logged.play 64 (p := ({}, _)) .refl).steps hends
  cases hstopped

end OpenRun

end AccumulatorMachine
