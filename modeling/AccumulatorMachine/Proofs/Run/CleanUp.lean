import AccumulatorMachine.Proofs.Run.Surrounded

/-! What a runner leaves behind, on every way out of its loop. What it has done is what its position
says, so its last actions come once each and in one order, and what the reset has cleared stays
clear unless a call touches it. -/
namespace AccumulatorMachine

/-! ### What a runner has done -/

/-- How a run came to its end. -/
structure Closing where
  /-- The statuses that were handed over before the last one. -/
  handed : List Status
  /-- The last status that was handed over. -/
  status : Status
  delivered : Bool
  noted : Machine
  /-- The machine that a part of the reset has found. -/
  found : ResetPart → Machine

namespace Closing

def opening (e : Closing) : List RunnerEvent :=
  e.handed.map (.handedOver · true) ++ [.handedOver e.status e.delivered]

def clears (e : Closing) (parts : List ResetPart) : List RunnerEvent :=
  parts.map fun part => .cleared part (e.found part)

theorem clears_append (e : Closing) (parts parts' : List ResetPart) :
    e.clears (parts ++ parts') = e.clears parts ++ e.clears parts' :=
  List.map_append

/-- What has been handed over in the end; it is what the run ends with. -/
def final (e : Closing) : Status := e.status.ifDelivered e.delivered

/-- The last status is the one that ends the run. -/
structure Valid (e : Closing) : Prop where
  handed : ∀ status ∈ e.handed, status.continues = true
  final : e.final.continues = false

theorem clears_update (e : Closing) {parts : List ResetPart} {part : ResetPart} (h : part ∉ parts)
    (m : Machine) :
    { e with found := fun p => if p = part then m else e.found p }.clears parts = e.clears parts := by
  refine List.map_congr_left fun p hp => ?_
  have hne : p ≠ part := fun heq => h (heq ▸ hp)
  simp only [hne, if_false]

end Closing

/-- What a runner has done is what its position says. -/
inductive Accounts (deeds : List RunnerEvent) : RunnerPhase → Prop
  | running {phase : RunnerPhase} {handed : List Status} (hphase : phase.loops = true)
      (hhanded : ∀ status ∈ handed, status.continues = true)
      (h : deeds = handed.map (.handedOver · true)) : Accounts deeds phase
  | ended {e : Closing} (hvalid : e.Valid) (h : deeds = e.opening) :
      Accounts deeds (.noting e.final)
  | closing {phase : RunnerPhase} {report : Report} {e : Closing} (hvalid : e.Valid)
      (hreport : phase.report? = some report) (hfinal : report.status = e.final)
      (hnoted : report.snapshot = e.noted.snapshot)
      (h : deeds = e.opening ++ [.noted e.noted] ++ e.clears phase.cleared ++
        if Run.hasSignalled phase then [.signalled] else []) : Accounts deeds phase

namespace Accounts

theorem goOn {deeds : List RunnerEvent} {status : Status} (h : Accounts deeds (.reporting status))
    (hcontinues : status.continues = true) :
    Accounts (deeds ++ [.handedOver status true]) .testing := by
  cases h with
  | closing _ hreport => cases hreport
  | @running _ handed _ hhanded hdeeds =>
    have hmore : deeds ++ [.handedOver status true] =
        (handed ++ [status]).map (.handedOver · true) := by
      simp [hdeeds]
    refine .running rfl (fun s hs => ?_) hmore
    rw [List.mem_append, List.mem_singleton] at hs
    obtain hs | rfl := hs
    · exact hhanded s hs
    · exact hcontinues

theorem stop {deeds : List RunnerEvent} {status : Status} {delivered : Bool}
    (h : Accounts deeds (.reporting status))
    (hends : (status.ifDelivered delivered).continues = false) :
    Accounts (deeds ++ [.handedOver status delivered]) (.noting (status.ifDelivered delivered)) := by
  cases h with
  | closing _ hreport => cases hreport
  | @running _ handed _ hhanded hdeeds =>
    have hvalid : (Closing.mk handed status delivered {} fun _ => {}).Valid := ⟨hhanded, hends⟩
    exact .ended hvalid (by rw [hdeeds, Closing.opening])

theorem note {deeds : List RunnerEvent} {status : Status} (h : Accounts deeds (.noting status))
    (m : Machine) :
    Accounts (deeds ++ [.noted m]) (.clearing ⟨status, m.snapshot⟩ .registers) := by
  cases h with
  | running hphase => cases hphase
  | closing _ hreport => cases hreport
  | @ended e hvalid hdeeds =>
    refine .closing (e := { e with noted := m }) ⟨hvalid.handed, hvalid.final⟩ rfl rfl rfl ?_
    rw [hdeeds]
    simp [Closing.opening, Closing.clears, RunnerPhase.cleared, ResetPart.before, Run.hasSignalled]

theorem clear {deeds : List RunnerEvent} {report : Report} {part : ResetPart}
    (h : Accounts deeds (.clearing report part)) (m : Machine) :
    Accounts (deeds ++ [.cleared part m]) (.afterClear report part) := by
  cases h with
  | running hphase => cases hphase
  | @closing _ _ e hvalid hreport hfinal hnoted hdeeds =>
    cases hreport
    have hnew : part ∉ part.before := by cases part <;> decide
    have hbefore := e.clears_update hnew m
    refine .closing (e := { e with found := fun p => if p = part then m else e.found p })
      ⟨hvalid.handed, hvalid.final⟩ (RunnerPhase.report?_afterClear report part) hfinal hnoted ?_
    rw [RunnerPhase.cleared_afterClear, RunnerPhase.hasSignalled_afterClear, Closing.clears_append,
      hbefore, hdeeds]
    simp [Closing.opening, Closing.clears, RunnerPhase.cleared, Run.hasSignalled]

theorem signal {deeds : List RunnerEvent} {report : Report} {phase : RunnerPhase}
    (h : Accounts deeds (.signalling report)) (hphase : Run.hasSignalled phase = true)
    (hreport : phase.report? = some report) : Accounts (deeds ++ [.signalled]) phase := by
  cases h with
  | running hphase => cases hphase
  | @closing _ _ e hvalid hreport' hfinal hnoted hdeeds =>
    cases hreport'
    refine .closing (e := e) hvalid hreport hfinal hnoted ?_
    rw [hphase, RunnerPhase.cleared_of_hasSignalled hphase, hdeeds]
    simp [RunnerPhase.cleared, Run.hasSignalled]

theorem leave {deeds : List RunnerEvent} {p q : RunnerPhase} (h : Accounts deeds p)
    (hp : Run.hasSignalled p = true) (hq : Run.hasSignalled q = true)
    (hreport : q.report? = p.report?) : Accounts deeds q := by
  cases h with
  | running hphase =>
    have hsome := RunnerPhase.report?_of_hasSignalled hp
    rw [RunnerPhase.report?_of_loops hphase] at hsome
    cases hsome
  | ended => cases hp
  | @closing _ _ e hvalid hreport' hfinal hnoted hdeeds =>
    refine .closing (e := e) hvalid (hreport.trans hreport') hfinal hnoted ?_
    rw [hdeeds, hp, hq, RunnerPhase.cleared_of_hasSignalled hp, RunnerPhase.cleared_of_hasSignalled hq]

theorem work {deeds : List RunnerEvent} {p q : RunnerPhase} (h : Accounts deeds p)
    (hp : p.loops = true) (hq : q.loops = true) : Accounts deeds q := by
  cases h with
  | running _ hhanded hdeeds => exact .running hq hhanded hdeeds
  | ended => cases hp
  | closing _ hreport => cases (RunnerPhase.report?_of_loops hp).symm.trans hreport

theorem act {deeds : List RunnerEvent} {r s : Run} {event : Option RunnerEvent}
    (h : Accounts deeds r.runner) (hacts : r.Acts event s) :
    Accounts (deeds ++ event.toList) s.runner := by
  cases hacts with
  | work hr hs =>
    rw [Option.toList_none, List.append_nil]
    exact h.work hr hs
  | goOn hr hs hcontinues =>
    rw [hr] at h
    rw [hs]
    exact h.goOn hcontinues
  | stop hr hs hends =>
    rw [hr] at h
    rw [hs]
    exact h.stop hends
  | note hr =>
    rw [hr] at h
    exact h.note r.machine
  | clear hr =>
    rw [hr] at h
    exact h.clear r.machine
  | signal hr hs hreport =>
    rw [hr] at h
    exact h.signal hs hreport
  | leave hr hs hreport =>
    rw [Option.toList_none, List.append_nil]
    exact h.leave hr hs hreport

theorem ne_absent {deeds : List RunnerEvent} {phase : RunnerPhase} (h : Accounts deeds phase) :
    phase ≠ .absent := by
  rintro rfl
  cases h with
  | running hphase => cases hphase
  | closing _ hreport => cases hreport

theorem of_finished {deeds : List RunnerEvent} {report : Report}
    (h : Accounts deeds (.finished report)) :
    ∃ e : Closing, e.Valid ∧ report.status = e.final ∧ report.snapshot = e.noted.snapshot ∧
      deeds = e.handed.map (.handedOver · true) ++
        [.handedOver e.status e.delivered, .noted e.noted] ++
        ResetPart.all.map (fun part => .cleared part (e.found part)) ++ [.signalled] := by
  cases h with
  | running hphase => cases hphase
  | @closing _ _ e hvalid hreport hfinal hnoted hdeeds =>
    cases hreport
    refine ⟨e, hvalid, hfinal, hnoted, ?_⟩
    simp [hdeeds, Closing.opening, Closing.clears, RunnerPhase.cleared, Run.hasSignalled]

end Accounts

/-! ### The machine at the end -/

/-- Between the note and the reset others may have called, and the runner has done nothing. -/
inductive Snaps (log : List RunnerEvent) (machine : Machine) : RunnerPhase → Prop
  | before {phase : RunnerPhase} (hphase : phase.report? = none) : Snaps log machine phase
  | noted {report : Report} {m : Machine} {before : List RunnerEvent} {calls : List Call}
      (hlog : log = before ++ .noted m :: calls.map .called)
      (hcalls : Call.effects? calls m = some machine) :
      Snaps log machine (.clearing report .registers)
  | reset {phase : RunnerPhase} {m n : Machine} {before after : List RunnerEvent}
      {calls : List Call} (hphase : .registers ∈ phase.cleared)
      (hlog : log = before ++ .noted m :: calls.map .called ++ .cleared .registers n :: after)
      (hcalls : Call.effects? calls m = some n) : Snaps log machine phase

namespace Snaps

/-- Once the registers have been cleared, it does not matter what comes later. -/
theorem later {log log' : List RunnerEvent} {machine machine' : Machine} {p q : RunnerPhase}
    (h : Snaps log machine p) (hp : .registers ∈ p.cleared) (hq : .registers ∈ q.cleared) :
    Snaps (log ++ log') machine' q := by
  cases h with
  | before hphase =>
    have hnil : p.cleared = [] := by
      cases p with
      | clearing | signalling | asleep | leaving | finished => cases hphase
      | _ => rfl
    rw [hnil] at hp
    cases hp
  | noted => cases hp
  | @reset _ m n before after calls _ hlog hcalls =>
    have hlater : log ++ log' = before ++ .noted m :: calls.map .called ++
        .cleared .registers n :: (after ++ log') := by
      rw [hlog, List.append_assoc (before ++ _), List.cons_append]
    exact .reset hq hlater hcalls

theorem clear {log : List RunnerEvent} {machine machine' : Machine} {report : Report}
    {part : ResetPart} (h : Snaps log machine (.clearing report part)) :
    Snaps (log ++ [.cleared part machine]) machine' (.afterClear report part) := by
  have hafter : .registers ∈ (RunnerPhase.afterClear report part).cleared := by
    rw [RunnerPhase.cleared_afterClear]
    cases part <;> decide
  cases part with
  | registers =>
    cases h with
    | before hphase => cases hphase
    | reset hphase => cases hphase
    | @noted _ m before calls hlog hcalls =>
      have hreset : log ++ [.cleared .registers machine] =
          before ++ .noted m :: calls.map .called ++ .cleared .registers machine :: [] := by
        rw [hlog]
      exact .reset hafter hreset hcalls
  | mailbox | awaiting | interrupted => exact h.later (.head _) hafter

theorem act {log : List RunnerEvent} {r s : Run} {event : Option RunnerEvent}
    (h : Snaps log r.machine r.runner) (hacts : r.Acts event s) :
    Snaps (log ++ event.toList) s.machine s.runner := by
  cases hacts with
  | work _ hs => exact .before (RunnerPhase.report?_of_loops hs)
  | goOn _ hs | stop _ hs =>
    rw [hs]
    exact .before rfl
  | note =>
    have hnoted : log ++ [.noted r.machine] =
        log ++ .noted r.machine :: ([] : List Call).map .called := rfl
    exact .noted hnoted rfl
  | clear hr =>
    rw [hr] at h
    exact h.clear
  | signal hr hs =>
    rw [hr] at h
    exact h.later (.head _) (by rw [RunnerPhase.cleared_of_hasSignalled hs]; decide)
  | leave hr hs =>
    exact h.later (by rw [RunnerPhase.cleared_of_hasSignalled hr]; decide)
      (by rw [RunnerPhase.cleared_of_hasSignalled hs]; decide)

theorem call {log : List RunnerEvent} {m n : Machine} {phase : RunnerPhase} {call : Call}
    (h : Snaps log m phase) (hcall : call.effect? m = some n) :
    Snaps (log ++ [.called call]) n phase := by
  cases h with
  | before hphase => exact .before hphase
  | @noted _ m' before calls hlog hcalls =>
    have hnoted : log ++ [.called call] =
        before ++ .noted m' :: (calls ++ [call]).map .called := by
      simp [hlog]
    refine .noted hnoted ?_
    rw [Call.effects?_concat, hcalls, Option.bind_some, hcall]
  | reset hphase hlog hcalls =>
    have hreset : Snaps log m phase := .reset hphase hlog hcalls
    exact hreset.later hphase hphase

theorem of_finished {log : List RunnerEvent} {machine : Machine} {report : Report}
    (h : Snaps log machine (.finished report)) :
    ∃ m n before after calls, log = before ++ .noted m :: calls.map .called ++
      .cleared .registers n :: after ∧ Call.effects? calls m = some n := by
  cases h with
  | before hphase => cases hphase
  | reset _ hlog hcalls => exact ⟨_, _, _, _, _, hlog, hcalls⟩

end Snaps

/-- What the runner has cleared stays clear, if nobody touches it. -/
structure Cleans (log : List RunnerEvent) (machine : Machine) (phase : RunnerPhase) : Prop where
  logged : ∀ part ∈ phase.cleared, ∃ m, .cleared part m ∈ log
  stays : RunnerEvent.Untouched log → ∀ part ∈ phase.cleared, part.IsClear machine

namespace Cleans

theorem of_cleared_eq_nil {log : List RunnerEvent} {machine : Machine} {phase : RunnerPhase}
    (h : phase.cleared = []) : Cleans log machine phase := by
  constructor <;> simp [h]

theorem clear {log : List RunnerEvent} {machine : Machine} {report : Report} {part : ResetPart}
    (h : Cleans log machine (.clearing report part)) :
    Cleans (log ++ [.cleared part machine]) (part.clear machine) (.afterClear report part) where
  logged other hother := by
    rw [RunnerPhase.cleared_afterClear, List.mem_append, List.mem_singleton] at hother
    obtain hother | rfl := hother
    · obtain ⟨m, hmem⟩ := h.logged other hother
      exact ⟨m, List.mem_append_left _ hmem⟩
    · exact ⟨machine, by simp⟩
  stays huntouched other hother := by
    rw [RunnerPhase.cleared_afterClear, List.mem_append, List.mem_singleton] at hother
    obtain hother | rfl := hother
    · exact (h.stays huntouched.of_append other hother).clear part
    · exact other.isClear_clear machine

theorem later {log log' : List RunnerEvent} {machine : Machine} {p q : RunnerPhase}
    (h : Cleans log machine p) (hq : q.cleared = p.cleared) : Cleans (log ++ log') machine q where
  logged part hpart := by
    obtain ⟨m, hmem⟩ := h.logged part (hq ▸ hpart)
    exact ⟨m, List.mem_append_left _ hmem⟩
  stays huntouched part hpart := h.stays huntouched.of_append part (hq ▸ hpart)

theorem act {log : List RunnerEvent} {r s : Run} {event : Option RunnerEvent}
    (h : Cleans log r.machine r.runner) (hacts : r.Acts event s) :
    Cleans (log ++ event.toList) s.machine s.runner := by
  cases hacts with
  | work _ hs => exact of_cleared_eq_nil (RunnerPhase.cleared_of_loops hs)
  | goOn _ hs | stop _ hs => exact of_cleared_eq_nil (by rw [hs]; rfl)
  | note => exact of_cleared_eq_nil rfl
  | clear hr =>
    rw [hr] at h
    exact h.clear
  | signal hr hs _ hmachine =>
    rw [hr] at h
    rw [hmachine]
    exact h.later (RunnerPhase.cleared_of_hasSignalled hs)
  | leave hr hs _ hmachine =>
    rw [hmachine]
    refine h.later ?_
    rw [RunnerPhase.cleared_of_hasSignalled hr, RunnerPhase.cleared_of_hasSignalled hs]

theorem call {log : List RunnerEvent} {m n : Machine} {phase : RunnerPhase} {call : Call}
    (h : Cleans log m phase) (hcall : call.effect? m = some n) :
    Cleans (log ++ [.called call]) n phase where
  logged part hpart := by
    obtain ⟨m', hmem⟩ := h.logged part hpart
    exact ⟨m', List.mem_append_left _ hmem⟩
  stays huntouched part hpart := by
    obtain ⟨m', hmem⟩ := h.logged part hpart
    exact (h.stays huntouched.of_append part hpart).effect? hcall (huntouched.part_ne hmem)

end Cleans

/-! ### Runners that come to their end -/

namespace Run

/-- What the log of a runner says about where the runner is. -/
structure Kept (log : List RunnerEvent) (r : Run) : Prop where
  accounts : Accounts (RunnerEvent.deeds log) r.runner
  snaps : Snaps log r.machine r.runner
  cleans : Cleans log r.machine r.runner

variable {program : Program} {machine : Machine} {log : List RunnerEvent} {r s : Run}

theorem kept_alone (program : Program) (machine : Machine) : Kept [] (alone program machine) where
  accounts := .running rfl (fun _ h => absurd h List.not_mem_nil) rfl
  snaps := .before rfl
  cleans := .of_cleared_eq_nil rfl

theorem Kept.act (h : Kept log r) (hs : r.runnerStep? = some s) :
    Kept (log ++ r.event?.toList) s := by
  have hacts := acts_of_runnerStep? hs h.accounts.ne_absent
  have hdeeds : RunnerEvent.deeds (log ++ r.event?.toList) =
      RunnerEvent.deeds log ++ r.event?.toList := by
    rw [RunnerEvent.deeds_append]
    cases hevent : r.event? with
    | none => rfl
    | some event =>
      rw [hevent] at hacts
      simp [RunnerEvent.deeds, hacts.not_isCall]
  exact ⟨hdeeds ▸ h.accounts.act hacts, h.snaps.act hacts, h.cleans.act hacts⟩

theorem Kept.call {call : Call} {m : Machine} (h : Kept log r)
    (hcall : call.effect? r.machine = some m) :
    Kept (log ++ [.called call]) { r with machine := m } where
  accounts := by
    rw [RunnerEvent.deeds_append]
    simpa [RunnerEvent.deeds, RunnerEvent.isCall] using h.accounts
  snaps := h.snaps.call hcall
  cleans := h.cleans.call hcall

theorem Kept.other (h : Kept log r) (hs : r.Surrounded s) : Kept log s := by
  cases hs <;> exact ⟨h.accounts, h.snaps, h.cleans⟩

theorem Proceeds.kept (h : Proceeds (alone program machine) log r) : Kept log r := by
  induction h with
  | start => exact kept_alone program machine
  | act _ hs ih => exact ih.act hs
  | call _ call hcall ih => exact ih.call hcall
  | other _ hs ih => exact ih.other hs

/-- A runner that returns has cleaned up, whatever has gone on around it. The statuses that it handed
over were released and let the run go on, but for the last, which ended the run or was not
released. The runner has then noted the state of its machine, reset the machine part by part and
come to the completion barrier, each of these once and in this order. Between the note and the reset
others may have called, and no more. The machine is left as a new one, unless a call has
touched a part of it that the reset was through with. -/
theorem cleans_up {report : Report} (h : Proceeds (alone program machine) log r)
    (hr : r.report? = some report) :
    ∃ (e : Closing) (before after : List RunnerEvent) (calls : List Call),
      RunnerEvent.deeds log = e.handed.map (.handedOver · true) ++
        [.handedOver e.status e.delivered, .noted e.noted] ++
        ResetPart.all.map (fun part => .cleared part (e.found part)) ++ [.signalled] ∧
      (∀ status ∈ e.handed, status.continues = true) ∧
      report.status = (if e.delivered then e.status else .stopped) ∧
      report.status.continues = false ∧
      report.snapshot = e.noted.snapshot ∧
      log = before ++ .noted e.noted :: calls.map .called ++
        .cleared .registers (e.found .registers) :: after ∧
      Call.effects? calls e.noted = some (e.found .registers) ∧
      report.snapshot =
        { (e.found .registers).snapshot with interrupted := e.noted.interrupted } ∧
      (.mark ∉ calls → report.snapshot = (e.found .registers).snapshot) ∧
      (RunnerEvent.Untouched log → r.machine = {}) := by
  have hrunner := runner_of_report? hr
  obtain ⟨haccounts, hsnaps, hcleans⟩ := h.kept
  rw [hrunner] at haccounts hsnaps hcleans
  obtain ⟨e, hvalid, hfinal, hnoted, hdeeds⟩ := haccounts.of_finished
  obtain ⟨m, n, before, after, calls, hlog, hcalls⟩ := hsnaps.of_finished
  have hmem : .noted m ∈ RunnerEvent.deeds log ∧
      .cleared .registers n ∈ RunnerEvent.deeds log := by
    rw [hlog]
    simp [RunnerEvent.deeds, RunnerEvent.isCall]
  rw [hdeeds] at hmem
  -- the note and the clearing of the registers each happen once
  obtain ⟨rfl, rfl⟩ : m = e.noted ∧ n = e.found .registers := by
    simpa [ResetPart.all] using hmem
  have hshown := Call.snapshot_of_effects? hcalls
  refine ⟨e, before, after, calls, hdeeds, hvalid.handed, hfinal, hfinal ▸ hvalid.final, hnoted, hlog,
    hcalls, hnoted.trans hshown, fun hmark => ?_, fun huntouched => ?_⟩
  · rw [hnoted, hshown, ← Call.interrupted_of_effects? hcalls hmark]
    rfl
  · exact ResetPart.eq_new_of_isClear fun part hpart => hcleans.stays huntouched part hpart

/-- Lets a runner make actions until it waits or has returned, but at most so many. -/
def proceed : Nat → List RunnerEvent → Run → List RunnerEvent × Run
  | 0, log, r => (log, r)
  | bound + 1, log, r =>
    match r.runnerStep? with
    | none => (log, r)
    | some s => proceed bound (log ++ r.event?.toList) s

theorem Proceeds.proceed {start : Run} (h : Proceeds start log r) (bound : Nat) :
    Proceeds start (proceed bound log r).1 (proceed bound log r).2 := by
  induction bound generalizing log r with
  | zero => exact h
  | succ n ih =>
    unfold Run.proceed
    split
    · exact h
    · next hs => exact ih (h.act hs)

/-- A runner that nobody receives from any more, and whose completion has been abandoned. -/
def deserted : Run :=
  { alone ["HLT 0"] {} with
    statuses := { receiver := .gone }
    completion := Completion.new.abandon }

theorem proceeds_deserted : Proceeds (alone ["HLT 0"] {}) [] deserted := by
  have hdrop : Proceeds (alone ["HLT 0"] {}) []
      { alone ["HLT 0"] {} with statuses := { receiver := .leaving } } :=
    .other .start (.drop .idle)
  have hlook : Proceeds (alone ["HLT 0"] {}) []
      { alone ["HLT 0"] {} with statuses := { receiver := .disconnecting } } :=
    .other hdrop (.goOn rfl)
  have hgone : Proceeds (alone ["HLT 0"] {}) []
      { alone ["HLT 0"] {} with statuses := { receiver := .gone } } :=
    .other hlook (.goOn rfl)
  exact .other hgone .abandon

theorem cleans_up_deserted :
    ∃ log r, Proceeds (alone ["HLT 0"] {}) log r ∧
      r.report? = some ⟨.stopped, ⟨0, none, false, false⟩⟩ ∧ r.machine = {} ∧
      .handedOver .succeeded false ∈ log := by
  have hproceeds := proceeds_deserted.proceed 16
  have hreport : (proceed 16 [] deserted).2.report? = some ⟨.stopped, ⟨0, none, false, false⟩⟩ := by
    decide +kernel
  have huntouched : RunnerEvent.Untouched (proceed 16 [] deserted).1 :=
    RunnerEvent.untouched_of_forall (by decide +kernel)
  obtain ⟨_, _, _, _, -, -, -, -, -, -, -, -, -, hnew⟩ := cleans_up hproceeds hreport
  exact ⟨_, _, hproceeds, hreport, hnew huntouched, by decide +kernel⟩

end Run

end AccumulatorMachine
