import AccumulatorMachine.Proofs.Run.Record

/-! A runner whose surroundings do what they like. Others call the machine at any time, also while a
line is being decoded, whoever receives the statuses may leave at any time, and the completion may
be abandoned before anybody has observed it. -/
namespace AccumulatorMachine

/-! ### Calls -/

namespace Call

/-- The part of the machine that a call is about. -/
def part : Call → ResetPart
  | .mark => .interrupted
  | .deliver _ | .close | .fetch => .mailbox

/-- What several calls in turn make of a machine. -/
def effects? : List Call → Machine → Option Machine
  | [], m => some m
  | call :: calls, m => (call.effect? m).bind (effects? calls)

theorem effects?_concat (calls : List Call) (call : Call) (m : Machine) :
    effects? (calls ++ [call]) m = (effects? calls m).bind call.effect? := by
  induction calls generalizing m with
  | nil => exact Option.bind_fun_some (call.effect? m)
  | cons first calls ih =>
    cases hfirst : first.effect? m with
    | none => simp [effects?, hfirst]
    | some n => simp [effects?, hfirst, ih]

/-- Of what is shown of a machine, calls change the mark at most. -/
theorem snapshot_of_effects? {calls : List Call} {m n : Machine} (h : effects? calls m = some n) :
    m.snapshot = { n.snapshot with interrupted := m.interrupted } := by
  induction calls generalizing m with
  | nil =>
    cases h
    rfl
  | cons call calls ih =>
    obtain ⟨m', hcall, hcalls⟩ := Option.bind_eq_some_iff.mp h
    obtain ⟨hpc, hmemory, hawaiting, -⟩ := keeps hcall
    have hnext := ih hcalls
    simp only [Machine.snapshot, Snapshot.mk.injEq, hpc, hmemory, hawaiting] at hnext ⊢
    exact ⟨hnext.1, hnext.2.1, trivial, hnext.2.2.2⟩

/-- Only an interrupt changes the mark. -/
theorem interrupted_of_effect? {call : Call} {m n : Machine} (h : call.effect? m = some n)
    (hcall : call ≠ .mark) : n.interrupted = m.interrupted := by
  cases call with
  | mark => exact absurd rfl hcall
  | deliver | close =>
    cases h
    rfl
  | fetch =>
    obtain ⟨⟨text, n⟩, hfetch, rfl⟩ := Option.map_eq_some_iff.mp h
    exact Machine.interrupted_of_requestOutput? hfetch

theorem interrupted_of_effects? {calls : List Call} {m n : Machine} (h : effects? calls m = some n)
    (hcalls : .mark ∉ calls) : n.interrupted = m.interrupted := by
  induction calls generalizing m with
  | nil =>
    cases h
    rfl
  | cons call calls ih =>
    rw [List.mem_cons, not_or] at hcalls
    obtain ⟨m', hcall, hrest⟩ := Option.bind_eq_some_iff.mp h
    exact (ih hrest hcalls.2).trans (interrupted_of_effect? hcall (Ne.symm hcalls.1))

end Call

/-! ### Parts of a reset -/

namespace ResetPart

/-- Clearing the part once more would make no difference. -/
def IsClear (part : ResetPart) (m : Machine) : Prop := part.clear m = m

theorem isClear_clear (part : ResetPart) (m : Machine) : part.IsClear (part.clear m) := by
  cases part <;> rfl

theorem IsClear.clear {part : ResetPart} {m : Machine} (h : part.IsClear m) (other : ResetPart) :
    part.IsClear (other.clear m) := by
  have hcommute : part.clear (other.clear m) = other.clear (part.clear m) := by
    cases part <;> cases other <;> rfl
  rw [IsClear, hcommute, h]

/-- A call about another part does not care whether a part has been cleared. -/
theorem effect?_clear {part : ResetPart} {call : Call} (hpart : call.part ≠ part) (m : Machine) :
    call.effect? (part.clear m) = (call.effect? m).map part.clear := by
  cases call with
  | mark =>
    cases part with
    | interrupted => exact absurd rfl hpart
    | registers | mailbox | awaiting => rfl
  | deliver | close =>
    cases part with
    | mailbox => exact absurd rfl hpart
    | registers | interrupted | awaiting => rfl
  | fetch =>
    cases part with
    | mailbox => exact absurd rfl hpart
    | registers | interrupted | awaiting =>
      simp only [Call.effect?, Machine.requestOutput?, Option.map_map]
      rfl

theorem IsClear.effect? {part : ResetPart} {m n : Machine} {call : Call} (h : part.IsClear m)
    (hcall : call.effect? m = some n) (hpart : call.part ≠ part) : part.IsClear n := by
  have hclear := effect?_clear hpart m
  rw [h, hcall, Option.map_some, Option.some.injEq] at hclear
  exact hclear.symm

/-- A machine of which every part is clear is a new one. -/
theorem eq_new_of_isClear {m : Machine} (h : ∀ part ∈ all, part.IsClear m) : m = {} := by
  have hregisters : m.clearRegisters = m := h .registers (by decide)
  have hmailbox : m.clearMailbox = m := h .mailbox (by decide)
  have hawaiting : m.clearAwaiting = m := h .awaiting (by decide)
  have hinterrupted : m.clearInterrupted = m := h .interrupted (by decide)
  have hreset : m.reset = m := by
    rw [Machine.reset, hregisters, hmailbox, hawaiting, hinterrupted]
  rw [← hreset, Machine.reset_eq]

end ResetPart

/-! ### Events -/

/-- What others do to the machine of a runner, and what the runner does at its hand-off and at its
end. -/
inductive RunnerEvent where
  | called (call : Call)
  /-- A hand-over is over. -/
  | handedOver (status : Status) (delivered : Bool)
  /-- The runner has noted the state of this machine. -/
  | noted (machine : Machine)
  /-- The runner has cleared this part of this machine. -/
  | cleared (part : ResetPart) (machine : Machine)
  /-- The runner has come to the completion barrier. -/
  | signalled
  deriving DecidableEq, Repr

namespace RunnerEvent

def isCall : RunnerEvent → Bool
  | .called _ => true
  | _ => false

/-- What the runner itself has done. -/
def deeds (log : List RunnerEvent) : List RunnerEvent := log.filter (!·.isCall)

/-- The second event touches what has been cleared by the first. -/
def Touches : RunnerEvent → RunnerEvent → Prop
  | .cleared part _, .called call => call.part = part
  | _, _ => False

/-- No call touches a part of the machine that the runner has cleared. -/
def Untouched (log : List RunnerEvent) : Prop := log.Pairwise fun a b => ¬ a.Touches b

theorem deeds_append (log log' : List RunnerEvent) : deeds (log ++ log') = deeds log ++ deeds log' :=
  List.filter_append ..

theorem Untouched.of_append {log log' : List RunnerEvent} (h : Untouched (log ++ log')) :
    Untouched log :=
  (List.pairwise_append.mp h).1

theorem Untouched.part_ne {log : List RunnerEvent} {call : Call} {part : ResetPart} {m : Machine}
    (h : Untouched (log ++ [.called call])) (hmem : .cleared part m ∈ log) : call.part ≠ part :=
  (List.pairwise_append.mp h).2.2 _ hmem _ (List.mem_singleton_self _)

theorem untouched_of_forall {log : List RunnerEvent} (h : ∀ event ∈ log, event.isCall = false) :
    Untouched log := by
  refine List.pairwise_of_forall_mem_list fun a _ b hb htouches => ?_
  cases b with
  | called => cases h _ hb
  | _ => cases a <;> exact htouches

end RunnerEvent

namespace Run

/-- The event that the next action of the runner is. -/
def event? (r : Run) : Option RunnerEvent :=
  match r.runner, r.statuses.sender with
  | .reporting status, .returned delivered => some (.handedOver status delivered)
  | .noting _, _ => some (.noted r.machine)
  | .clearing _ part, _ => some (.cleared part r.machine)
  | .signalling _, _ => some .signalled
  | _, _ => none

end Run

/-! ### Surroundings -/

namespace Receiver

/-- Has no call to go on with. -/
inductive Rests {α : Type} : Receiver α → Prop
  | idle : Rests .idle
  | holding (value : α) : Rests (.holding value)
  | ended : Rests .ended
  | released (verdict : Verdict) : Rests (.released verdict)

end Receiver

namespace Run

/-- A runner that nobody has yet had anything to do with. Its machine may have been used before. -/
def alone (program : Program) (machine : Machine) : Run :=
  ⟨{ machine }, { program, elapsed := 0, statuses := {}, printer := .absent }⟩

/-- What goes on around a runner, apart from calls to its machine. -/
inductive Surrounded (r : Run) : Run → Prop
  | receive (h : r.statuses.receiver.Rests) :
      Surrounded r { r with statuses := r.statuses.receive }
  | release (h : r.statuses.receiver.Rests) :
      Surrounded r { r with statuses := r.statuses.release }
  | drop (h : r.statuses.receiver.Rests) :
      Surrounded r { r with statuses := r.statuses.dropReceiver }
  | goOn {statuses : Handoff Status} (h : r.statuses.receiverStep? = some statuses) :
      Surrounded r { r with statuses }
  /-- Somebody waits for the end of the run. -/
  | observe : Surrounded r { r with completion := r.completion.observe.2 }
  | abandon : Surrounded r { r with completion := r.completion.abandon }

/-- A runner among others comes to a state, with these events on the way. -/
inductive Proceeds (start : Run) : List RunnerEvent → Run → Prop
  | start : Proceeds start [] start
  | act {log : List RunnerEvent} {r s : Run} (h : Proceeds start log r)
      (hs : r.runnerStep? = some s) : Proceeds start (log ++ r.event?.toList) s
  | call {log : List RunnerEvent} {r : Run} {machine : Machine} (h : Proceeds start log r)
      (call : Call) (hcall : call.effect? r.machine = some machine) :
      Proceeds start (log ++ [.called call]) { r with machine }
  | other {log : List RunnerEvent} {r s : Run} (h : Proceeds start log r) (hs : r.Surrounded s) :
      Proceeds start log s

/-! ### What the next action of a runner is -/

end Run

/-- What a hand-over of this status comes to for the runner. -/
def Status.ifDelivered (status : Status) (delivered : Bool) : Status :=
  if delivered then status else .stopped

namespace RunnerPhase

/-- The runner is in its loop. -/
def loops : RunnerPhase → Bool
  | .testing | .fetching | .executing _ | .taking _ | .judging _ | .reporting _ => true
  | _ => false

/-- The report of a runner that has noted the state of its machine. -/
def report? : RunnerPhase → Option Report
  | .clearing report _ | .signalling report | .asleep report _ | .leaving report
  | .finished report => some report
  | _ => none

/-- What follows when a part of the machine has been cleared. -/
def afterClear (report : Report) (part : ResetPart) : RunnerPhase :=
  match part.next? with
  | some next => .clearing report next
  | none => .signalling report

theorem report?_of_loops {phase : RunnerPhase} (h : phase.loops = true) : phase.report? = none := by
  cases phase with
  | testing | fetching | executing | taking | judging | reporting => rfl
  | _ => cases h

theorem cleared_of_loops {phase : RunnerPhase} (h : phase.loops = true) : phase.cleared = [] := by
  cases phase with
  | testing | fetching | executing | taking | judging | reporting => rfl
  | _ => cases h

theorem report?_of_hasSignalled {phase : RunnerPhase} (h : Run.hasSignalled phase = true) :
    phase.report?.isSome = true := by
  cases phase with
  | asleep | leaving | finished => rfl
  | _ => cases h

theorem cleared_of_hasSignalled {phase : RunnerPhase} (h : Run.hasSignalled phase = true) :
    phase.cleared = ResetPart.all := by
  cases phase with
  | asleep | leaving | finished => rfl
  | _ => cases h

variable (report : Report) (part : ResetPart)

theorem report?_afterClear : (afterClear report part).report? = some report := by
  cases part <;> rfl

theorem cleared_afterClear : (afterClear report part).cleared = part.before ++ [part] := by
  cases part <;> rfl

theorem hasSignalled_afterClear : Run.hasSignalled (afterClear report part) = false := by
  cases part <;> rfl

end RunnerPhase

namespace Run

/-- What an action of the runner changes, and the event that it is. -/
inductive Acts (r : Run) : Option RunnerEvent → Run → Prop
  | work {s : Run} (hr : r.runner.loops = true) (hs : s.runner.loops = true) : Acts r none s
  | goOn {status : Status} {s : Run} (hr : r.runner = .reporting status)
      (hs : s.runner = .testing) (hcontinues : status.continues = true) :
      Acts r (some (.handedOver status true)) s
  | stop {status : Status} {delivered : Bool} {s : Run} (hr : r.runner = .reporting status)
      (hs : s.runner = .noting (status.ifDelivered delivered))
      (hends : (status.ifDelivered delivered).continues = false) :
      Acts r (some (.handedOver status delivered)) s
  | note {status : Status} (hr : r.runner = .noting status) :
      Acts r (some (.noted r.machine))
        { r with runner := .clearing ⟨status, r.machine.snapshot⟩ .registers }
  | clear {report : Report} {part : ResetPart} (hr : r.runner = .clearing report part) :
      Acts r (some (.cleared part r.machine)) (r.clearPart report part)
  | signal {report : Report} {s : Run} (hr : r.runner = .signalling report)
      (hs : hasSignalled s.runner = true) (hreport : s.runner.report? = some report)
      (hmachine : s.machine = r.machine) : Acts r (some .signalled) s
  | leave {s : Run} (hr : hasSignalled r.runner = true) (hs : hasSignalled s.runner = true)
      (hreport : s.runner.report? = r.runner.report?) (hmachine : s.machine = r.machine) :
      Acts r none s

theorem loops_afterLine (r : Run) (status : Status) : (r.afterLine status).runner.loops = true := by
  cases status <;> rfl

theorem acts_afterReport {r : Run} {status : Status} (hr : r.runner = .reporting status)
    (delivered : Bool) :
    r.Acts (some (.handedOver status delivered)) (r.afterReport status delivered) := by
  cases hends : (status.ifDelivered delivered).continues with
  | false =>
    refine .stop hr ?_ hends
    unfold Status.ifDelivered at hends
    simp [afterReport, Status.ifDelivered, hends]
  | true =>
    cases delivered with
    | false => cases hends
    | true =>
      have hcontinues : status.continues = true := hends
      exact .goOn hr (by simp [afterReport, hcontinues]) hcontinues

theorem acts_of_runnerStep? {r s : Run} (hs : r.runnerStep? = some s) (hr : r.runner ≠ .absent) :
    r.Acts r.event? s := by
  obtain ⟨shared, ⟨program, elapsed, ⟨pacing, sender, receiver⟩, completion, runner, printer,
    finisher⟩⟩ := r
  cases runner with
  | testing | fetching =>
    simp only [runnerStep?] at hs
    split at hs <;> cases hs <;> exact .work rfl rfl
  | executing line =>
    cases hs
    unfold executeLine
    split
    · exact .work rfl (loops_afterLine _ _)
    · exact .work rfl rfl
  | taking address =>
    refine of_map_eq_some (P := Acts _ none) hs ?_
    rintro ⟨status, machine⟩
    exact .work rfl (loops_afterLine _ status)
  | judging status =>
    cases hs
    exact .work rfl rfl
  | reporting status =>
    cases sender with
    | returned delivered =>
      cases hs
      exact acts_afterReport rfl delivered
    | _ =>
      simp only [runnerStep?] at hs
      exact of_map_eq_some (P := Acts _ none) hs fun _ => .work rfl rfl
  | noting status =>
    cases hs
    exact .note rfl
  | clearing report part =>
    cases hs
    exact .clear rfl
  | signalling report =>
    cases hs
    unfold signal
    split <;> exact .signal rfl rfl rfl rfl
  | asleep => exact of_map_eq_some (P := Acts _ none) hs fun _ => .leave rfl rfl rfl rfl
  | leaving report =>
    cases sender with
    | gone =>
      cases hs
      exact .leave rfl rfl rfl rfl
    | _ =>
      simp only [runnerStep?] at hs
      exact of_map_eq_some (P := Acts _ none) hs fun _ => .leave rfl rfl rfl rfl
  | finished report => cases hs
  | absent => exact absurd rfl hr

theorem Acts.not_isCall {r s : Run} {event : RunnerEvent} (h : r.Acts (some event) s) :
    event.isCall = false := by
  cases h <;> rfl

end Run

end AccumulatorMachine
