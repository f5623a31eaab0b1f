import AccumulatorMachine.Proofs.Session

/-! The runs of a session have nothing to do with each other. Whatever runs and calls have left behind,
a run comes to the same as it would in a new session. -/
namespace AccumulatorMachine

namespace Run

/-! ### What the runner and the printer do not mind -/

/-- The run after other messages and with another finisher and other affairs of it. -/
def within (r : Run) (first : List Message) (active : Bool) (callbacks : Nat)
    (finisher : FinisherPhase) : Run :=
  { r with console := first ++ r.console, active, callbacks, finisher }

/-- A thread that minds neither what was shown before the run nor the affairs of the finisher. -/
def Confined (act : Run → Option Run) : Prop :=
  ∀ (r : Run) (first : List Message) (active : Bool) (callbacks : Nat) (finisher : FinisherPhase),
    act (r.within first active callbacks finisher) =
      (act r).map (·.within first active callbacks finisher)

section
variable (r : Run) (first : List Message) (active : Bool) (callbacks : Nat) (finisher : FinisherPhase)

theorem afterLine_within (status : Status) :
    (r.within first active callbacks finisher).afterLine status =
      (r.afterLine status).within first active callbacks finisher := by
  cases status <;> rfl

theorem executeLine_within (line : String) :
    (r.within first active callbacks finisher).executeLine line =
      (r.executeLine line).within first active callbacks finisher := by
  have hmachine : (r.within first active callbacks finisher).machine = r.machine := rfl
  unfold executeLine
  rw [hmachine]
  split
  · exact afterLine_within { r with machine := _ } first active callbacks finisher _
  · rfl

theorem signal_within (report : Report) :
    (r.within first active callbacks finisher).signal report =
      (r.signal report).within first active callbacks finisher := by
  have hcompletion : (r.within first active callbacks finisher).completion = r.completion := rfl
  unfold signal
  rw [hcompletion]
  split <;> rfl

theorem append_within (status : Status) (text : Option String) :
    (r.within first active callbacks finisher).append status text =
      (r.append status text).within first active callbacks finisher := by
  unfold append within
  rw [List.append_assoc]

theorem afterRelease_within (status : Status) (verdict : Verdict) :
    (r.within first active callbacks finisher).afterRelease status verdict =
      (r.afterRelease status verdict).within first active callbacks finisher := by
  unfold afterRelease
  split <;> rfl

end

theorem confined_runnerStep : Confined runnerStep? := by
  intro r first active callbacks finisher
  have hrunner : (r.within first active callbacks finisher).runner = r.runner := rfl
  have hmachine : (r.within first active callbacks finisher).machine = r.machine := rfl
  have hline : (r.within first active callbacks finisher).line? = r.line? := rfl
  have hstatuses : (r.within first active callbacks finisher).statuses = r.statuses := rfl
  have hcompletion : (r.within first active callbacks finisher).completion = r.completion := rfl
  unfold runnerStep?
  rw [hrunner, hmachine, hline, hstatuses, hcompletion]
  split
  · split <;> rfl
  · split <;> rfl
  · rw [executeLine_within]
    rfl
  · rw [Option.map_map]
    congr 1
    funext ⟨status, machine⟩
    exact afterLine_within { r with machine } first active callbacks finisher status
  · rfl
  · split
    · rfl
    · rw [Option.map_map]
      rfl
  · rfl
  · rfl
  · rw [signal_within]
    rfl
  · rw [Option.map_map]
    rfl
  · split
    · rfl
    · rw [Option.map_map]
      rfl
  · rw [Option.map_map]
    rfl
  · rfl

theorem confined_printerStep : Confined printerStep? := by
  intro r first active callbacks finisher
  have hprinter : (r.within first active callbacks finisher).printer = r.printer := rfl
  have hstatuses : (r.within first active callbacks finisher).statuses = r.statuses := rfl
  have hrender : ∀ status, (r.within first active callbacks finisher).render? status =
      r.render? status := fun _ => rfl
  unfold printerStep?
  rw [hprinter, hstatuses]
  split
  · split
    · rfl
    · rfl
    · rw [Option.map_map]
      rfl
  · rw [hrender, Option.map_map]
    rfl
  · rw [append_within]
    rfl
  · split
    · rw [afterRelease_within]
      rfl
    · rw [Option.map_map]
      rfl
  · split
    · rfl
    · rw [Option.map_map]
      rfl
  · rw [Option.map_map]
    rfl
  · rfl

/-- What it does not mind it leaves as it is. -/
theorem Confined.keeps {act : Run → Option Run} (h : Confined act) {r s : Run} (hs : act r = some s) :
    s.active = r.active ∧ s.callbacks = r.callbacks ∧ s.finisher = r.finisher := by
  -- in its own surroundings the run is as it was, and so is what comes of it
  have hsame : s = s.within [] r.active r.callbacks r.finisher := by
    have hr := h r [] r.active r.callbacks r.finisher
    have hself : r.within [] r.active r.callbacks r.finisher = r := rfl
    rw [hself, hs] at hr
    exact Option.some.inj hr
  rw [hsame]
  exact ⟨rfl, rfl, rfl⟩

/-! ### A run later in a session -/

/-- The run as it is after others. -/
def after (r : Run) (before : Shared) : Run :=
  { r with console := before.console ++ r.console, callbacks := before.callbacks + r.callbacks }

theorem since_after (r : Run) (before : Shared) : (r.after before).since before = r := by
  unfold since after
  rw [List.drop_left, Nat.add_sub_cancel_left]

theorem Confined.act_after {act : Run → Option Run} (h : Confined act) (r : Run) (before : Shared) :
    act (r.after before) = (act r).map (·.after before) := by
  have hr := h r before.console r.active (before.callbacks + r.callbacks) r.finisher
  cases hs : act r with
  | none =>
    rw [hs] at hr
    exact hr
  | some s =>
    obtain ⟨hactive, hcallbacks, hfinisher⟩ := h.keeps hs
    have hwithin : s.within before.console r.active (before.callbacks + r.callbacks) r.finisher =
        s.after before := by
      unfold within after
      rw [← hactive, ← hcallbacks, ← hfinisher]
    rw [hs, Option.map_some, hwithin] at hr
    exact hr

theorem finisherStep?_after (r : Run) (before : Shared) :
    (r.after before).finisherStep? = r.finisherStep?.map (·.after before) := by
  have hfinisher : (r.after before).finisher = r.finisher := rfl
  have hcompletion : (r.after before).completion = r.completion := rfl
  unfold finisherStep?
  rw [hfinisher]
  split
  · unfold observe
    rw [hcompletion]
    split <;> rfl
  · rw [hcompletion, Option.map_map]
    rfl
  · rfl
  · rfl
  · rfl

theorem act_after {act : Run → Option Run} (hact : act ∈ threads) (r : Run) (before : Shared) :
    act (r.after before) = (act r).map (·.after before) := by
  obtain rfl | rfl | rfl := mem_threads.mp hact
  · exact confined_runnerStep.act_after r before
  · exact confined_printerStep.act_after r before
  · exact r.finisherStep?_after before

/-! ### The session is free after a run -/

/-- A finisher that has come to its call has freed the session. -/
def Vacated (r : Run) : Prop :=
  match r.finisher with
  | .calling _ | .finished _ => r.active = false
  | _ => True

theorem Vacated.advance {act : Run → Option Run} (hact : act ∈ threads) {r s : Run} (h : r.Vacated)
    (hs : act r = some s) : s.Vacated := by
  have hconfined : Confined act → s.Vacated := by
    intro hc
    obtain ⟨hactive, -, hfinisher⟩ := hc.keeps hs
    unfold Vacated
    rw [hactive, hfinisher]
    exact h
  obtain rfl | rfl | rfl := mem_threads.mp hact
  · exact hconfined confined_runnerStep
  · exact hconfined confined_printerStep
  · unfold Vacated at h
    unfold finisherStep? at hs
    split at hs
    · cases hs
      unfold observe
      split <;> trivial
    · obtain ⟨verdict, -, rfl⟩ := Option.map_eq_some_iff.mp hs
      trivial
    · cases hs
      rfl
    · next hf =>
      rw [hf] at h
      cases hs
      exact h
    · cases hs

theorem Vacated.active_of_isOver {r : Run} (h : r.Vacated) (hover : r.isOver = true) :
    r.active = false := by
  unfold isOver at hover
  split at hover
  · next hf =>
    unfold Vacated at h
    rw [hf] at h
    exact h
  · cases hover

end Run

/-! ### What a reset makes equal -/

namespace ResetPart

/-- What this part of a reset and those after it clear. -/
def clearRest : ResetPart → Machine → Machine
  | .registers => Machine.reset
  | .mailbox => fun m => m.clearMailbox.clearAwaiting.clearInterrupted
  | .awaiting => fun m => m.clearAwaiting.clearInterrupted
  | .interrupted => Machine.clearInterrupted

/-- A call during a reset leaves equal what the rest of the reset makes equal. -/
theorem clearRest_call {part : ResetPart} {call : Call} {m n m' : Machine}
    (h : part.clearRest m = part.clearRest n) (hcall : call ≠ .fetch)
    (hm : call.effect? m = some m') :
    ∃ n', call.effect? n = some n' ∧ part.clearRest m' = part.clearRest n' := by
  cases call with
  | deliver text =>
    obtain rfl : m.deliver text = m' := Option.some.inj hm
    refine ⟨n.deliver text, rfl, ?_⟩
    cases part with
    | registers | mailbox => exact h
    | awaiting | interrupted => exact congrArg (·.deliver text) h
  | mark =>
    obtain rfl : m.markInterrupted = m' := Option.some.inj hm
    refine ⟨n.markInterrupted, rfl, ?_⟩
    cases part <;> exact h
  | close =>
    obtain rfl : m.closeMailbox = m' := Option.some.inj hm
    refine ⟨n.closeMailbox, rfl, ?_⟩
    cases part with
    | registers | mailbox => exact h
    | awaiting | interrupted => exact congrArg Machine.closeMailbox h
  | fetch => exact absurd rfl hcall

end ResetPart

namespace Session

/-! ### Two sessions with the same run -/

/-- Two sessions are occupied with one run, and what the reset has yet to do makes their
machines equal. -/
inductive Alike (before before' : Shared) : Occupancy → Occupancy → Prop
  | opening {m n : Machine} {part : ResetPart} (h : part.clearRest m = part.clearRest n) :
      Alike before before' (.opening { before with machine := m, active := true } part)
        (.opening { before' with machine := n, active := true } part)
  | running (r : Run) : Alike before before' (.running (r.after before)) (.running (r.after before'))

namespace Alike
variable {before before' : Shared} {program : Program} {elapsed : Nat} {o p o' : Occupancy}

theorem seen (h : Alike before before' o p) : o.seen? before = p.seen? before' := by
  cases h with
  | opening => rfl
  | running r => exact congrArg some ((r.since_after before).trans (r.since_after before').symm)

theorem afterClear {m n : Machine} {part : ResetPart} (h : part.clearRest m = part.clearRest n) :
    Alike before before'
      (Occupancy.afterClear program elapsed { before with machine := m, active := true } part)
      (Occupancy.afterClear program elapsed { before' with machine := n, active := true } part) := by
  cases part with
  | registers | mailbox | awaiting => exact .opening h
  | interrupted =>
    -- the last part of the reset: now the machines are equal
    have hm : m.clearInterrupted = n.clearInterrupted := h
    let r : Run := ⟨{ machine := n.clearInterrupted, active := true }, { program, elapsed }⟩
    have hrun : ∀ b : Shared, Occupancy.afterClear program elapsed
        { b with machine := n, active := true } .interrupted = .running (r.after b) := by
      intro b
      simp [Occupancy.afterClear, ResetPart.clear, ResetPart.next?, Run.after, r]
    have hsame : Occupancy.afterClear program elapsed
        { before with machine := m, active := true } .interrupted =
        Occupancy.afterClear program elapsed
          { before with machine := n, active := true } .interrupted := by
      simp [Occupancy.afterClear, ResetPart.clear, ResetPart.next?, hm]
    rw [hsame, hrun, hrun]
    exact .running r

/-- What one session does the other can do. -/
theorem step {call : Option Call} (h : Alike before before' o p) (hs : o.Step program elapsed call o') :
    ∃ p', p.Step program elapsed call p' ∧ Alike before before' o' p' := by
  cases h with
  | @opening m n part heq =>
    cases hs with
    | clear => exact ⟨_, .clear _ part, afterClear heq⟩
    | early call hcall hm =>
      obtain ⟨n', hn, heq'⟩ := ResetPart.clearRest_call heq hcall hm
      exact ⟨_, .early call hcall hn, .opening heq'⟩
  | running r =>
    cases hs with
    | @act act _ s hact hr =>
      -- what the thread does, it does whatever was there before the run
      rw [Run.act_after hact] at hr
      obtain ⟨s, hs, rfl⟩ := Option.map_eq_some_iff.mp hr
      have hother : act (r.after before') = some (s.after before') := by
        rw [Run.act_after hact, hs]
        rfl
      exact ⟨_, .act hact hother, .running s⟩
    | @call _ machine call hm => exact ⟨_, .call call hm, .running { r with machine }⟩

end Alike

variable {callers : Callers} {before before' : Shared} {program : Program} {elapsed : Nat}

theorem Unfolds.alike {course : List Moment} {o : Occupancy}
    (h : Unfolds callers before program elapsed course o) (hfree : before'.active = false) :
    ∃ p, Unfolds callers before' program elapsed course p ∧ Alike before before' o p := by
  induction h with
  | accept =>
    -- a whole reset makes any two machines equal
    refine ⟨_, .accept hfree, .opening ?_⟩
    exact before.machine.reset_eq.trans before'.machine.reset_eq.symm
  | step _ hcall hstep ih =>
    obtain ⟨p, hp, halike⟩ := ih
    obtain ⟨p', hstep', halike'⟩ := halike.step hstep
    rw [halike'.seen]
    exact ⟨p', hp.step hcall hstep', halike'⟩

theorem courses_eq_of_free (h : before.active = false) (h' : before'.active = false) :
    courses callers before program elapsed = courses callers before' program elapsed := by
  ext course
  constructor
  · rintro ⟨o, ho⟩
    obtain ⟨p, hp, -⟩ := ho.alike h'
    exact ⟨p, hp⟩
  · rintro ⟨o, ho⟩
    obtain ⟨p, hp, -⟩ := ho.alike h
    exact ⟨p, hp⟩

/-! ### Between the runs -/

/-- A run frees the session before it is over. -/
def Occupancy.Vacated : Occupancy → Prop
  | .opening _ _ => True
  | .running r => r.Vacated

theorem Occupancy.Vacated.step {call : Option Call} {o o' : Occupancy} (h : o.Vacated)
    (hs : o.Step program elapsed call o') : o'.Vacated := by
  cases hs with
  | clear shared part => cases part <;> trivial
  | early => trivial
  | act hact hr => exact Run.Vacated.advance hact h hr
  | call => exact h

theorem Unfolds.vacated {course : List Moment} {o : Occupancy}
    (h : Unfolds callers before program elapsed course o) : o.Vacated := by
  induction h with
  | accept => trivial
  | step _ _ hstep ih => exact ih.step hstep

theorem Past.free {shared : Shared} (h : Past shared) : shared.active = false := by
  induction h with
  | new => rfl
  | call _ _ _ ih => exact ih
  | run _ hr hover _ => exact Run.Vacated.active_of_isOver hr.vacated hover

/-- Whatever runs and calls have left behind, the next run is accepted, and what it can come to,
step by step and at its end, is what it can come to in a new session. -/
theorem runs_isolated {shared : Shared} (h : Past shared) (callers : Callers) (program : Program)
    (elapsed : Nat) :
    start? shared program elapsed = some (accept shared program elapsed) ∧
      courses callers shared program elapsed = courses callers {} program elapsed ∧
      outcomes callers shared program elapsed = outcomes callers {} program elapsed := by
  have hcourses : courses callers shared program elapsed = courses callers {} program elapsed :=
    courses_eq_of_free h.free rfl
  refine ⟨?_, hcourses, ?_⟩
  · unfold start?
    rw [h.free]
    rfl
  · unfold outcomes
    rw [hcourses]

/-- A run has ended in an error, an input has come too late for it, and so has a stop. -/
def leftOver : Shared :=
  let shared := (Schedule.settle (Schedule.first? Run.threads) 64
    (accept {} ["SET 1", "LDA 7"] 0)).toShared
  { shared with machine := (shared.machine.deliver "5").interrupt }

theorem runs_isolated_leftOver :
    leftOver.console.map (·.status) = [.failed .memoryAddress] ∧
      leftOver.machine = { mailbox := ⟨some "5", true⟩, interrupted := true } ∧
      start? leftOver ["SET 1", "INP 1"] 0 = some (accept leftOver ["SET 1", "INP 1"] 0) ∧
      courses (fun _ _ => True) leftOver ["SET 1", "INP 1"] 0 =
        courses (fun _ _ => True) {} ["SET 1", "INP 1"] 0 ∧
      outcomes (fun _ _ => True) leftOver ["SET 1", "INP 1"] 0 =
        outcomes (fun _ _ => True) {} ["SET 1", "INP 1"] 0 := by
  have hpast : Past leftOver := by
    have haccepted : ∃ course, Unfolds (fun _ _ => True) {} ["SET 1", "LDA 7"] 0 course
        (.running (accept {} ["SET 1", "LDA 7"] 0)) := unfolds_accept rfl
    obtain ⟨_, hstart⟩ := haccepted
    obtain ⟨_, hrun⟩ := hstart.settle 64
    have hdelivered := (Past.run .new hrun (by decide +kernel)).call (.deliver "5") rfl
    exact (hdelivered.call .mark rfl).call .close rfl
  exact ⟨by decide +kernel, by decide +kernel,
    runs_isolated hpast (fun _ _ => True) ["SET 1", "INP 1"] 0⟩

end Session

end AccumulatorMachine
