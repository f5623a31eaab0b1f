import AccumulatorMachine.Proofs.Barrier.Pair
import AccumulatorMachine.Proofs.Run.Scene

/-! How the threads of a run keep together. The runner and the printer are always at two ends of the
same hand-over, so each of their actions either can be seen in the scene or only brings them
further in that hand-over. -/
namespace AccumulatorMachine

namespace Run

/-- The runner executes lines or offers a status. -/
inductive Works : RunnerPhase → Sender Status → Prop
  | testing : Works .testing .idle
  | fetching : Works .fetching .idle
  | executing (line : String) : Works (.executing line) .idle
  | taking (address : Int32) : Works (.taking address) .idle
  | judging (cause : Failure) : Works (.judging (.failed cause)) .idle
  | offering {status : Status} (h : status ≠ .ok) : Works (.reporting status) (.offering status)

/-- The printer has taken a status and has yet to come to the barrier. -/
inductive Presents (status : Status) : Receiver Status → PrinterPhase → Prop
  | taken : Presents status (.holding status) .receiving
  | rendering : Presents status (.holding status) (.rendering status)
  | appending (text : Option String) : Presents status (.holding status) (.appending status text)
  | releasing : Presents status .releasing (.releasing status)

/-- The printer has released the runner, after the status that came last. -/
inductive Freed (g : Nat) (status : Status) : Receiver Status → PrinterPhase → Prop
  | waking {h : Nat} (hlt : h < g) : Freed g status (.paused h) (.releasing status)
  | resetting : Freed g status .resetting (.releasing status)
  | released : Freed g status (.released .passed) (.releasing status)
  | receiving (h : status.continues = true) : Freed g status .receiving .receiving
  | leaving (h : status.continues = false) : Freed g status .leaving (.leaving status)
  | disconnecting (h : status.continues = false) : Freed g status .disconnecting (.leaving status)
  | gone (h : status.continues = false) : Freed g status .gone (.leaving status)
  | finished (h : status.continues = false) : Freed g status .gone (.finished status)

/-- The runner has been released and does not know it yet, or comes back with the good news. -/
inductive Returns (g : Nat) : Sender Status → Prop
  | waking {h : Nat} (hlt : h < g) : Returns g (.paused h)
  | returned : Returns g (.returned true)

/-- The runner cleans up after the last status. -/
inductive Ends (status : Status) : RunnerPhase → Sender Status → Prop
  | noting : Ends status (.noting status) .idle
  | clearing (snapshot : Snapshot) (part : ResetPart) :
      Ends status (.clearing ⟨status, snapshot⟩ part) .idle
  | signalling (snapshot : Snapshot) : Ends status (.signalling ⟨status, snapshot⟩) .idle
  | asleep (snapshot : Snapshot) (g : Nat) : Ends status (.asleep ⟨status, snapshot⟩ g) .idle
  | leaving (snapshot : Snapshot) : Ends status (.leaving ⟨status, snapshot⟩) .leaving
  | disconnecting (snapshot : Snapshot) : Ends status (.leaving ⟨status, snapshot⟩) .disconnecting
  | gone (snapshot : Snapshot) : Ends status (.leaving ⟨status, snapshot⟩) .gone
  | finished (snapshot : Snapshot) : Ends status (.finished ⟨status, snapshot⟩) .gone

/-- The joint positions of runner, hand-off and printer. -/
inductive Links : RunnerPhase → Handoff Status → PrinterPhase → Prop
  | working {g runner sender receiver printer} {last : Status} (hlast : last.continues = true)
      (hw : Works runner sender) (hf : Freed g last receiver printer) :
      Links runner ⟨.pair 0 g, sender, receiver⟩ printer
  | presenting {g status receiver printer} (hs : status ≠ .ok)
      (hp : Presents status receiver printer) :
      Links (.reporting status) ⟨.pair 0 g, .pacing, receiver⟩ printer
  | waiting {g status receiver printer} (hs : status ≠ .ok)
      (hp : Presents status receiver printer) :
      Links (.reporting status) ⟨.pair 1 g, .paused g, receiver⟩ printer
  | awaited {g status} (hs : status ≠ .ok) :
      Links (.reporting status) ⟨.pair 1 g, .pacing, .paused g⟩ (.releasing status)
  | returning {g status sender receiver printer} (hs : status ≠ .ok) (hr : Returns g sender)
      (hf : Freed g status receiver printer) :
      Links (.reporting status) ⟨.pair 0 g, sender, receiver⟩ printer
  | ending {g runner sender receiver printer} {last : Status} (hlast : last.continues = false)
      (he : Ends last runner sender) (hf : Freed g last receiver printer) :
      Links runner ⟨.pair 0 g, sender, receiver⟩ printer

def Linked (r : Run) : Prop := Links r.runner r.statuses r.printer

theorem Freed.succ {g : Nat} {status : Status} {receiver : Receiver Status}
    {printer : PrinterPhase} (h : Freed g status receiver printer) :
    Freed (g + 1) status receiver printer := by
  cases h with
  | waking hlt => exact .waking (by omega)
  | resetting => exact .resetting
  | released => exact .released
  | receiving h => exact .receiving h
  | leaving h => exact .leaving h
  | disconnecting h => exact .disconnecting h
  | gone h => exact .gone h
  | finished h => exact .finished h

theorem Returns.succ {g : Nat} {sender : Sender Status} (h : Returns g sender) :
    Returns (g + 1) sender := by
  cases h with
  | waking hlt => exact .waking (by omega)
  | returned => exact .returned

end Run

/-! ### Actions left in a hand-over -/

def Sender.slack : Sender Status → Nat
  | .offering _ => 15
  | .pacing | .leaving => 3
  | .paused _ | .breaking => 2
  | .returned _ | .disconnecting => 1
  | .idle | .gone => 0

def Receiver.slack : Receiver Status → Nat
  | .holding _ => 11
  | .releasing => 10
  | .paused _ => 9
  | .resetting => 8
  | .released _ => 7
  | .leaving => 5
  | .breaking => 4
  | .disconnecting => 3
  | .gone => 2
  | .receiving => 1
  | .idle | .ended => 0

def PrinterPhase.slack : PrinterPhase → Nat
  | .receiving => 3
  | .rendering _ => 2
  | .appending _ _ | .leaving _ => 1
  | .releasing _ | .finished _ | .absent => 0

def FinisherPhase.slack : FinisherPhase → Nat
  | .observing => 4
  | .asleep _ => 3
  | .freeing _ => 2
  | .calling _ => 1
  | .finished _ => 0

/-- A bound on the actions that the scene does not show. -/
def Run.slack (r : Run) : Nat :=
  r.statuses.sender.slack + r.statuses.receiver.slack + r.printer.slack + r.finisher.slack

namespace Run

/-- What an action of a thread makes of a run whose threads keep together. -/
structure Advance (r s : Run) : Prop where
  linked : s.Linked
  program : s.program = r.program
  elapsed : s.elapsed = r.elapsed
  seen : s.scene = r.scene ∧ s.slack < r.slack ∨
    Scene.Move r.program r.elapsed r.scene s.scene ∧ s.slack ≤ r.slack + 15

theorem advance_afterLine {r : Run} {g : Nat} {receiver : Receiver Status} {last : Status}
    (hst : r.statuses = ⟨.pair 0 g, .idle, receiver⟩) (hlast : last.continues = true)
    (hf : Freed g last receiver r.printer) {m : Machine} {status : Status}
    (hm : Scene.Move r.program r.elapsed r.scene ⟨m, r.console, .afterLine status⟩) :
    r.Advance ({ r with machine := m }.afterLine status) := by
  obtain ⟨⟨m₀, c, active, callbacks⟩, ⟨program, elapsed, statuses, completion, runner, printer,
    finisher⟩⟩ := r
  obtain rfl : statuses = ⟨.pair 0 g, .idle, receiver⟩ := hst
  have hslack : ∀ n : Nat, n ≤ 15 → n + receiver.slack + printer.slack + finisher.slack ≤
      0 + receiver.slack + printer.slack + finisher.slack + 15 := by
    intro n hn
    omega
  cases status with
  | ok => exact ⟨.working hlast .testing hf, rfl, rfl, .inr ⟨hm, hslack 0 (by omega)⟩⟩
  | failed cause =>
    exact ⟨.working hlast (.judging cause) hf, rfl, rfl, .inr ⟨hm, hslack 0 (by omega)⟩⟩
  | _ => exact ⟨.working hlast (.offering nofun) hf, rfl, rfl, .inr ⟨hm, hslack 15 (by omega)⟩⟩

theorem Linked.runnerStep {r s : Run} (h : r.Linked) (hs : r.runnerStep? = some s) :
    r.Advance s := by
  obtain ⟨⟨m, c, active, callbacks⟩, ⟨program, elapsed, statuses, completion, runner, printer,
    finisher⟩⟩ := r
  have h : Links runner statuses printer := h
  cases h with
  | @working g _ sender receiver _ last hlast hw hf =>
    cases hw with
    | testing =>
      by_cases hi : m.interrupted = true
      · simp [runnerStep?, hi, reportStatus, Handoff.offer] at hs
        subst hs
        refine ⟨.working hlast (.offering nofun) hf, rfl, rfl, .inr ⟨.stop hi, ?_⟩⟩
        simp only [slack, Sender.slack]
        omega
      · simp [runnerStep?, hi] at hs
        subst hs
        exact ⟨.working hlast .fetching hf, rfl, rfl,
          .inr ⟨.proceed (by simpa using hi), Nat.le_add_right _ _⟩⟩
    | fetching =>
      cases hl : program.lineAt? m.pc with
      | none =>
        simp [runnerStep?, line?, hl] at hs
        subst hs
        exact ⟨.working hlast .testing hf, rfl, rfl, .inr ⟨.stall hl, Nat.le_add_right _ _⟩⟩
      | some line =>
        simp [runnerStep?, line?, hl] at hs
        subst hs
        exact ⟨.working hlast (.executing line) hf, rfl, rfl,
          .inr ⟨.fetch hl, Nat.le_add_right _ _⟩⟩
    | executing line =>
      cases hv : m.visitLine line with
      | done status m' =>
        simp [runnerStep?, executeLine, hv] at hs
        exact hs ▸ advance_afterLine rfl hlast hf (.execute hv)
      | taking address =>
        simp [runnerStep?, executeLine, hv] at hs
        subst hs
        exact ⟨.working hlast (.taking address) hf, rfl, rfl,
          .inr ⟨.reach hv, Nat.le_add_right _ _⟩⟩
    | taking address =>
      simp [runnerStep?] at hs
      obtain ⟨status, m', ht, rfl⟩ := hs
      exact advance_afterLine rfl hlast hf (.take ht)
    | judging cause =>
      simp [runnerStep?, reportStatus, Handoff.offer] at hs
      subst hs
      refine ⟨.working hlast (.offering ?_) hf, rfl, rfl, .inr ⟨.judge, ?_⟩⟩
      · split <;> nofun
      · simp only [slack, Sender.slack]
        omega
    | offering _ =>
      cases hf with
      | gone hl | finished hl => simp [hl] at hlast
      | _ => simp [runnerStep?, Handoff.senderStep?] at hs
  | presenting hst hp =>
    simp [runnerStep?, Handoff.senderStep?] at hs
    subst hs
    refine ⟨.waiting hst hp, rfl, rfl, .inl ⟨?_, by simp [slack, Sender.slack]⟩⟩
    cases hp <;> rfl
  | waiting hst hp => simp [runnerStep?, Handoff.senderStep?] at hs
  | awaited hst =>
    simp [runnerStep?, Handoff.senderStep?] at hs
    subst hs
    exact ⟨.returning hst .returned (.waking (by omega)), rfl, rfl,
      .inl ⟨rfl, by simp [slack, Sender.slack]⟩⟩
  | @returning g status sender receiver _ hst hr hf =>
    cases hr with
    | waking hlt =>
      simp [runnerStep?, Handoff.senderStep?, Barrier.verdict?_pair_of_lt 0 hlt] at hs
      subst hs
      refine ⟨.returning hst .returned hf, rfl, rfl, .inl ⟨?_, by simp [slack, Sender.slack]⟩⟩
      cases hf <;> rfl
    | returned =>
      simp [runnerStep?, afterReport] at hs
      have hm : Scene.Move program elapsed ⟨m, c, .shown status⟩ ⟨m, c, .afterReport status⟩ :=
        .resume
      cases hc : status.continues with
      | true =>
        simp only [hc, if_true] at hs
        subst hs
        simp only [Stage.afterReport, hc, if_true] at hm
        refine ⟨.working hc .testing hf, rfl, rfl, .inr ⟨hm, ?_⟩⟩
        simp only [slack, Sender.slack]
        omega
      | false =>
        simp only [hc, Bool.false_eq_true, if_false] at hs
        subst hs
        simp only [Stage.afterReport, hc, Bool.false_eq_true, if_false] at hm
        refine ⟨.ending hc .noting hf, rfl, rfl, .inr ⟨hm, ?_⟩⟩
        simp only [slack, Sender.slack]
        omega
  | @ending g _ sender receiver _ last hlast he hf =>
    cases he with
    | noting =>
      simp [runnerStep?] at hs
      subst hs
      exact ⟨.ending hlast (.clearing _ _) hf, rfl, rfl, .inr ⟨.note, Nat.le_add_right _ _⟩⟩
    | clearing snapshot part =>
      simp [runnerStep?, clearPart] at hs
      subst hs
      have hm : Scene.Move program elapsed ⟨m, c, .busy (.clearing ⟨last, snapshot⟩ part)⟩
          ⟨part.clear m, c, .afterClear ⟨last, snapshot⟩ part⟩ := .clear
      cases part with
      | interrupted =>
        exact ⟨.ending hlast (.signalling snapshot) hf, rfl, rfl, .inr ⟨hm, Nat.le_add_right _ _⟩⟩
      | _ =>
        exact ⟨.ending hlast (.clearing snapshot _) hf, rfl, rfl,
          .inr ⟨hm, Nat.le_add_right _ _⟩⟩
    | signalling snapshot =>
      simp only [runnerStep?, signal, Option.some.injEq] at hs
      split at hs
      · subst hs
        refine ⟨.ending hlast (.leaving snapshot) hf, rfl, rfl, .inr ⟨.retire (.leave _), ?_⟩⟩
        simp only [leaveRunner, Handoff.dropSender, slack, Sender.slack]
        omega
      · subst hs
        exact ⟨.ending hlast (.asleep snapshot _) hf, rfl, rfl,
          .inr ⟨.retire (.sleep _ _), Nat.le_add_right _ _⟩⟩
    | asleep snapshot h =>
      simp [runnerStep?] at hs
      obtain ⟨verdict, -, rfl⟩ := hs
      refine ⟨.ending hlast (.leaving snapshot) hf, rfl, rfl, .inr ⟨.retire (.wake _ _), ?_⟩⟩
      simp only [leaveRunner, Handoff.dropSender, slack, Sender.slack]
      omega
    | leaving snapshot =>
      simp [runnerStep?, Handoff.senderStep?] at hs
      subst hs
      exact ⟨.ending hlast (.disconnecting snapshot) hf, rfl, rfl,
        .inl ⟨rfl, by simp [slack, Sender.slack]⟩⟩
    | disconnecting snapshot =>
      simp [runnerStep?, Handoff.senderStep?] at hs
      subst hs
      exact ⟨.ending hlast (.gone snapshot) hf, rfl, rfl,
        .inl ⟨rfl, by simp [slack, Sender.slack]⟩⟩
    | gone snapshot =>
      simp [runnerStep?] at hs
      subst hs
      exact ⟨.ending hlast (.finished snapshot) hf, rfl, rfl,
        .inr ⟨.retire (.finish _), Nat.le_add_right _ _⟩⟩
    | finished snapshot => simp [runnerStep?] at hs

theorem Linked.finisherStep {r s : Run} (h : r.Linked) (hs : r.finisherStep? = some s) :
    r.Advance s := by
  obtain ⟨⟨m, c, active, callbacks⟩, ⟨program, elapsed, statuses, completion, runner, printer,
    finisher⟩⟩ := r
  cases finisher with
  | observing =>
    simp only [finisherStep?, observe, Option.some.injEq] at hs
    split at hs <;> subst hs <;>
      exact ⟨h, rfl, rfl, .inl ⟨rfl, by simp [slack, FinisherPhase.slack]⟩⟩
  | asleep g =>
    simp [finisherStep?] at hs
    obtain ⟨verdict, -, rfl⟩ := hs
    exact ⟨h, rfl, rfl, .inl ⟨rfl, by simp [slack, FinisherPhase.slack]⟩⟩
  | freeing verdict | calling verdict =>
    simp [finisherStep?] at hs
    subst hs
    exact ⟨h, rfl, rfl, .inl ⟨rfl, by simp [slack, FinisherPhase.slack]⟩⟩
  | finished verdict => simp [finisherStep?] at hs

/-- The printer comes back from the barrier on its own. -/
theorem Freed.printerStep {r s : Run} {g : Nat} {sender : Sender Status}
    {receiver : Receiver Status} {last : Status} (hst : r.statuses = ⟨.pair 0 g, sender, receiver⟩)
    (hf : Freed g last receiver r.printer) (hr : receiver ≠ .receiving)
    (hs : r.printerStep? = some s) :
    ∃ g' receiver' printer', (g' = g ∨ g' = g + 1) ∧ Freed g' last receiver' printer' ∧
      s = { r with statuses := ⟨.pair 0 g', sender, receiver'⟩, printer := printer' } ∧
      receiver'.slack + printer'.slack < receiver.slack + r.printer.slack := by
  obtain ⟨⟨m, c, active, callbacks⟩, ⟨program, elapsed, statuses, completion, runner, printer,
    finisher⟩⟩ := r
  obtain rfl : statuses = ⟨.pair 0 g, sender, receiver⟩ := hst
  cases hf with
  | waking hlt =>
    simp [printerStep?, Handoff.receiverStep?, Barrier.verdict?_pair_of_lt 0 hlt,
      Handoff.afterWait] at hs
    exact ⟨g, _, _, .inl rfl, .resetting, hs.symm, by simp [Receiver.slack]⟩
  | resetting =>
    simp [printerStep?, Handoff.receiverStep?] at hs
    exact ⟨g + 1, _, _, .inr rfl, .released, hs.symm, by simp [Receiver.slack]⟩
  | released =>
    cases hc : last.continues with
    | true =>
      simp [printerStep?, afterRelease, hc, Handoff.receive] at hs
      exact ⟨g, _, _, .inl rfl, .receiving hc, hs.symm, by simp [Receiver.slack, PrinterPhase.slack]⟩
    | false =>
      simp [printerStep?, afterRelease, hc, leavePrinter, Handoff.dropReceiver] at hs
      exact ⟨g, _, _, .inl rfl, .leaving hc, hs.symm, by simp [Receiver.slack, PrinterPhase.slack]⟩
  | receiving hl => exact absurd rfl hr
  | leaving hl =>
    simp [printerStep?, Handoff.receiverStep?] at hs
    exact ⟨g, _, _, .inl rfl, .disconnecting hl, hs.symm, by simp [Receiver.slack]⟩
  | disconnecting hl =>
    simp [printerStep?, Handoff.receiverStep?] at hs
    exact ⟨g, _, _, .inl rfl, .gone hl, hs.symm, by simp [Receiver.slack]⟩
  | gone hl =>
    simp [printerStep?] at hs
    exact ⟨g, _, _, .inl rfl, .finished hl, hs.symm, by simp [Receiver.slack, PrinterPhase.slack]⟩
  | finished hl => simp [printerStep?] at hs

theorem Presents.printerStep {r s : Run} {g n : Nat} {sender : Sender Status}
    {receiver : Receiver Status} {status : Status} (hok : status ≠ .ok)
    (hrun : r.runner = .reporting status) (hst : r.statuses = ⟨.pair n g, sender, receiver⟩)
    (hn : n = 0 ∧ sender = .pacing ∨ n = 1 ∧ sender = .paused g)
    (hp : Presents status receiver r.printer) (hs : r.printerStep? = some s) : r.Advance s := by
  obtain ⟨⟨m, c, active, callbacks⟩, ⟨program, elapsed, statuses, completion, runner, printer,
    finisher⟩⟩ := r
  obtain rfl : runner = .reporting status := hrun
  obtain rfl : statuses = ⟨.pair n g, sender, receiver⟩ := hst
  have hlinks : ∀ {receiver printer}, Presents status receiver printer →
      Links (.reporting status) ⟨.pair n g, sender, receiver⟩ printer := by
    intro receiver printer hq
    obtain ⟨rfl, rfl⟩ | ⟨rfl, rfl⟩ := hn
    · exact .presenting hok hq
    · exact .waiting hok hq
  cases hp with
  | taken =>
    simp [printerStep?] at hs
    subst hs
    refine ⟨hlinks .rendering, rfl, rfl, .inl ⟨?_, by simp [slack, PrinterPhase.slack]⟩⟩
    obtain ⟨-, rfl⟩ | ⟨-, rfl⟩ := hn <;> rfl
  | rendering =>
    simp [printerStep?] at hs
    obtain ⟨text, m', ht, rfl⟩ := hs
    have hm : Scene.Move program elapsed ⟨m, c, .handing status⟩ ⟨m', c, .rendered status text⟩ := by
      by_cases ho : status = .output
      · subst ho
        exact .print ht
      · have hd : some (status.describe? elapsed, m) = some (text, m') := by
          cases status with
          | output => exact absurd rfl ho
          | _ => exact ht
        cases hd
        exact .describe ho
    refine ⟨hlinks (.appending text), rfl, rfl, .inr ⟨?_, ?_⟩⟩
    · obtain ⟨-, rfl⟩ | ⟨-, rfl⟩ := hn <;> exact hm
    · simp only [slack, PrinterPhase.slack]
      omega
  | appending text =>
    simp [printerStep?, append, Handoff.release] at hs
    subst hs
    refine ⟨hlinks .releasing, rfl, rfl, .inr ⟨?_, ?_⟩⟩
    · obtain ⟨-, rfl⟩ | ⟨-, rfl⟩ := hn <;> exact .append
    · simp only [slack, Receiver.slack, PrinterPhase.slack]
      omega
  | releasing =>
    obtain ⟨rfl, rfl⟩ | ⟨rfl, rfl⟩ := hn
    · simp [printerStep?, Handoff.receiverStep?] at hs
      subst hs
      exact ⟨.awaited hok, rfl, rfl, .inl ⟨rfl, by simp [slack, Receiver.slack]⟩⟩
    · simp [printerStep?, Handoff.receiverStep?, Handoff.afterWait] at hs
      subst hs
      exact ⟨.returning hok (.waking (by omega)) .resetting, rfl, rfl,
        .inl ⟨rfl, by simp [slack, Receiver.slack]⟩⟩

theorem Linked.printerStep {r s : Run} (h : r.Linked) (hs : r.printerStep? = some s) :
    r.Advance s := by
  obtain ⟨⟨m, c, active, callbacks⟩, ⟨program, elapsed, statuses, completion, runner, printer,
    finisher⟩⟩ := r
  have h : Links runner statuses printer := h
  cases h with
  | @working g _ sender receiver _ last hlast hw hf =>
    by_cases hr : receiver = .receiving
    · subst hr
      cases hf
      cases hw with
      | offering hst =>
        simp [printerStep?, Handoff.receiverStep?] at hs
        subst hs
        exact ⟨.presenting hst .taken, rfl, rfl,
          .inl ⟨rfl, by simp [slack, Sender.slack, Receiver.slack]⟩⟩
      | _ => simp [printerStep?, Handoff.receiverStep?] at hs
    · obtain ⟨g', receiver', printer', hg, hf', rfl, hslack⟩ := hf.printerStep rfl hr hs
      refine ⟨.working hlast hw hf', rfl, rfl, .inl ⟨?_, ?_⟩⟩
      · cases hw <;> rfl
      · simp only [slack] at hslack ⊢
        omega
  | presenting hst hp => exact hp.printerStep hst rfl rfl (.inl ⟨rfl, rfl⟩) hs
  | waiting hst hp => exact hp.printerStep hst rfl rfl (.inr ⟨rfl, rfl⟩) hs
  | awaited hst => simp [printerStep?, Handoff.receiverStep?] at hs
  | @returning g status sender receiver _ hst hr hf =>
    by_cases hrec : receiver = .receiving
    · subst hrec
      cases hf
      cases hr <;> simp [printerStep?, Handoff.receiverStep?] at hs
    · obtain ⟨g', receiver', printer', hg, hf', rfl, hslack⟩ := hf.printerStep rfl hrec hs
      have hr' : Returns g' sender := by
        obtain rfl | rfl := hg
        · exact hr
        · exact hr.succ
      refine ⟨.returning hst hr' hf', rfl, rfl, .inl ⟨?_, ?_⟩⟩
      · cases hr <;> cases hf <;> cases hf' <;> rfl
      · simp only [slack] at hslack ⊢
        omega
  | @ending g _ sender receiver _ last hlast he hf =>
    by_cases hrec : receiver = .receiving
    · subst hrec
      cases hf with
      | receiving hl => simp [hl] at hlast
    · obtain ⟨g', receiver', printer', hg, hf', rfl, hslack⟩ := hf.printerStep rfl hrec hs
      refine ⟨.ending hlast he hf', rfl, rfl, .inl ⟨?_, ?_⟩⟩
      · cases he <;> rfl
      · simp only [slack] at hslack ⊢
        omega

/-- Whichever thread acts, the threads keep together, and the action is a move of the scene or one
of the few that the scene does not show. -/
theorem Linked.advance {act : Run → Option Run} (hact : act ∈ threads) {r s : Run} (h : r.Linked)
    (hs : act r = some s) : r.Advance s := by
  obtain rfl | rfl | rfl := mem_threads.mp hact
  · exact h.runnerStep hs
  · exact h.printerStep hs
  · exact h.finisherStep hs

end Run

end AccumulatorMachine
