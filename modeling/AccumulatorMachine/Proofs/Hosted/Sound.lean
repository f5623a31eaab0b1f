import AccumulatorMachine.Proofs.Hosted.Moves
import AccumulatorMachine.Proofs.OpenRun
import AccumulatorMachine.Proofs.Run.Linked
import AccumulatorMachine.Proofs.Run.Signalled

/-! Every action of a run and its front end, seen from the stepper: it takes a step of its own, or the run
comes nearer to the next one. -/
namespace AccumulatorMachine

/-! ### The front end -/

namespace Paired
variable {program : Program} {d : Driven} {m : Machine} {log : List Message} {stage : Stage}
  {front : FrontEnd}

/-- A stepper outside the program is so beside a run that goes round and owes nobody an answer. -/
theorem of_stalls (h : Paired program d ⟨m, log, stage⟩ front) (hst : d.stalls = true) :
    program.lineAt? m.pc = none ∧ front.left = false ∧ Heard log front.read := by
  cases h with
  | @calm _ memory inputs events _ _ _ hs hh =>
    simp [Driven.stalls, Machine.idle] at hst
    exact ⟨hst, rfl, hh⟩
  | printing hh =>
    simp [Driven.stalls, Machine.idle] at hst
    exact ⟨hst, rfl, hh⟩
  | @asking _ _ inputs _ _ _ _ _ _ _ _ hq | @asked _ _ inputs _ _ _ _ _ _ _ _ hq =>
    cases inputs <;> simp [Driven.stalls, Driven.answer, Stepper.stop, Stepper.deliver,
      Machine.asking, Machine.idle, Machine.deliver, Machine.interrupt, Machine.markInterrupted,
      Machine.closeMailbox, hq.1] at hst
  | answered _ _ hq =>
    simp [Driven.stalls, Machine.answered, Machine.asking, Machine.idle, hq.1] at hst
  | refused | left => simp [Driven.stalls, Machine.stopped] at hst
  | ended _ hf | reported _ hf => simp [Driven.stalls, hf] at hst

theorem read_other (h : Paired program d ⟨m, log, stage⟩ front) {message : Message}
    (hm : log[front.read]? = some message) (hne : message.status ≠ .input) :
    Paired program d ⟨m, log, stage⟩ { front with read := front.read + 1 } := by
  cases h with
  | calm hs hh he => exact .calm hs (hh.read hm).2 he
  | printing hh he => exact .printing (hh.read hm).2 he
  | asking hs hh hq he => exact .asking hs (hh.read hm).2 hq he
  | asked hs hu hq he =>
    obtain ⟨heq, -⟩ | ⟨-, hu⟩ := hu.read hm
    · exact absurd heq hne
    · exact .asked hs hu hq he
  | answered hs hh hq he => exact .answered hs (hh.read hm).2 hq he
  | refused hs hh hq hc he => exact .refused hs (hh.read hm).2 hq hc he
  | left hs hh hl hc he => exact .left hs (hh.read hm).2 hl hc he
  | ended hc hf hm' hs hh hl => exact .ended hc hf hm' hs (hh.read hm).2 hl
  | reported hc hf hr ht => exact .reported hc hf hr ht

/-- The answer to a question, which the stepper has already. -/
theorem read_question (h : Paired program d ⟨m, log, stage⟩ front) {message : Message}
    (hm : log[front.read]? = some message) (heq : message.status = .input) :
    match front.inputs with
    | [] => Paired program d ⟨m.markInterrupted, log, stage⟩
        { front with read := front.read + 1, closing := front.closing + 1 }
    | text :: inputs => Paired program d ⟨m.deliver text, log, stage⟩
        { front with read := front.read + 1, inputs } := by
  have hread (hh : Heard log front.read) : False := (hh.read hm).1 heq
  cases h with
  | calm _ hh | printing hh | asking _ hh | answered _ hh | refused _ hh | left _ hh
  | ended _ _ _ _ hh => exact (hread hh).elim
  | @asked _ _ inputs _ _ _ _ _ _ hs hu hq he =>
    obtain ⟨-, hh⟩ | ⟨hne, -⟩ := hu.read hm
    · cases inputs with
      | nil => exact .refused hs hh hq (.inr (Nat.succ_pos _)) he
      | cons text inputs => exact .answered hs hh hq he
    · exact absurd heq hne
  | reported hc hf hr ht =>
    split <;> exact .reported hc hf hr ht

theorem close (h : Paired program d ⟨m, log, stage⟩ front) (hpos : 0 < front.closing) :
    Paired program d ⟨m.closeMailbox, log, stage⟩ { front with closing := front.closing - 1 } := by
  cases h with
  | calm | printing | asking | asked | answered => cases hpos
  | refused hs hh hq _ he => exact .refused hs hh hq (.inl rfl) he
  | left hs hh hl _ he => exact .left hs hh hl (.inl rfl) he
  | ended hc hf hm hs hh hl => exact .ended hc hf hm hs hh hl
  | reported hc hf hr ht => exact .reported hc hf hr ht

/-- The stop that the stepper gets for having left the program. -/
theorem leave (h : Paired program d ⟨m, log, stage⟩ front) (hleft : front.left = false)
    (hl : program.lineAt? m.pc = none) (hempty : m.mailbox.value = none) :
    (d.stalls = true ∧ Paired program { d with stepper := d.stepper.stop }
        ⟨m.markInterrupted, log, stage⟩
        { front with closing := front.closing + 1, left := true }) ∨
      Paired program d ⟨m.markInterrupted, log, stage⟩
        { front with closing := front.closing + 1, left := true } := by
  cases h with
  | calm hs hh he =>
    exact .inl ⟨Driven.stalls_idle hl, .left hs hh hl (.inr (Nat.succ_pos _)) he⟩
  | printing => cases hempty
  | asking _ _ hq | asked _ _ hq | answered _ _ hq | refused _ _ hq =>
    cases hl.symm.trans hq.1
  | left => cases hleft
  | ended _ _ _ _ _ hout =>
    obtain hleft' | hin := hout
    · cases hleft.symm.trans hleft'
    · simp [hl] at hin
  | reported hc hf hr ht => exact .inr (.reported hc hf hr ht)

end Paired

/-! ### All threads -/

theorem Scene.Move.length_console {program : Program} {elapsed : Nat} {s t : Scene}
    (h : Move program elapsed s t) : t.console.length ≤ s.console.length + 1 := by
  cases h with
  | @append m c status text => cases text <;> simp
  | _ => exact Nat.le_succ _

/-- A move of the scene makes room for the actions that do not show, and for the message that the front
end has to read. -/
def Run.rank (r : Run) : Nat := 32 * r.scene.rank r.program + r.slack

def FrontEnd.rank (messages : Nat) (f : FrontEnd) : Nat :=
  2 * (messages - f.read) + f.closing + 2 * (!f.left).toNat

namespace Hosted

structure Sound (program : Program) (d : Driven) (h : Hosted) : Prop where
  runs : h.run.program = program
  linked : h.run.Linked
  signalled : h.run.Signalled
  supplied : h.run.scene.Supplied
  paired : Paired program d h.run.scene h.front

theorem sound_start (shared : Shared) (text : String) (inputs : List String) (elapsed : Nat) :
    Sound (Program.ofText text) (Driven.ofText text inputs) (start shared text inputs elapsed) where
  runs := rfl
  linked := Session.linked_accept _ _ _
  signalled := Session.signalled_accept _ _ _
  supplied := trivial
  paired := paired_start shared text inputs elapsed

/-- What is left to do before the next step of the stepper. -/
def rank (h : Hosted) : Nat := h.run.rank + h.front.rank h.run.console.length

theorem rank_lt_of_front {h h' : Hosted} (hrun : h'.run.rank = h.run.rank)
    (hconsole : h'.run.console = h.run.console)
    (hfront : h'.front.rank h.run.console.length < h.front.rank h.run.console.length) :
    h'.rank < h.rank := by
  simp only [rank, hrun, hconsole]
  omega

/-- What an action means for the stepper. All that it has told is shown before it takes a step, unless
the step is the stop of its user. -/
inductive Progress (program : Program) (d : Driven) (h h' : Hosted) : Prop
  | turn {d' : Driven} (hrun : d.stepper.finished = none) (ht : d.watchedTurn? = some d')
      (he : Told h'.run.console [] d.events ∨ d.stalls = true ∧ d'.events = d.events)
      (hs : Sound program d' h')
  | stay (hs : Sound program d h')
      (hempty : d.stalls = true → h.run.machine.mailbox.value = none →
        h'.run.machine.mailbox.value = none)
      (hrank : h'.rank < h.rank ∨ d.stalls = true ∧ h.run.machine.mailbox.value = none)

variable {program : Program} {d : Driven} {h h' : Hosted}

theorem Sound.act (hs : Sound program d h) {act : Run → Option Run} (hact : act ∈ Run.threads)
    {run : Run} (hrun : act h.run = some run) : Progress program d h { h with run } := by
  have ha := hs.linked.advance hact hrun
  have hsig := hs.signalled.advance hact hrun
  have hruns : run.program = program := ha.program.trans hs.runs
  obtain ⟨hscene, hslack⟩ | ⟨hmove, hslack⟩ := ha.seen
  · have hmachine : run.machine = h.run.machine := congrArg Scene.machine hscene
    have hconsole : run.console = h.run.console := congrArg Scene.console hscene
    refine .stay ⟨hruns, ha.linked, hsig, hscene ▸ hs.supplied, hscene ▸ hs.paired⟩ ?_ (.inl ?_)
    · intro _ hempty
      rw [hmachine]
      exact hempty
    · simp only [rank, Run.rank, hscene, hconsole, ha.program]
      omega
  · have hmove : Scene.Move program h.run.elapsed h.run.scene run.scene := hs.runs ▸ hmove
    have hlength : run.console.length ≤ h.run.console.length + 1 := hmove.length_console
    cases hs.paired.move hmove with
    | turn hd ht he hp =>
      exact .turn hd ht (.inl he) ⟨hruns, ha.linked, hsig, hmove.supplied, hp⟩
    | stay hp hempty hrank =>
      refine .stay ⟨hruns, ha.linked, hsig, hmove.supplied, hp⟩ hempty (hrank.imp_left ?_)
      intro hlt
      simp only [rank, Run.rank, FrontEnd.rank, hruns, hs.runs]
      omega

theorem Sound.read (hs : Sound program d h) (hrun : h.respond? = some h') :
    Progress program d h h' := by
  obtain ⟨run, ⟨inputs, read, closing, left⟩⟩ := h
  simp only [respond?, Option.map_eq_some_iff] at hrun
  obtain ⟨message, hm, rfl⟩ := hrun
  obtain ⟨hlt, -⟩ := List.getElem?_eq_some_iff.mp hm
  split
  · next heq =>
    have hp := hs.paired.read_question hm heq
    have hstalls (hst : d.stalls = true) : False :=
      ((hs.paired.of_stalls hst).2.2.read hm).1 heq
    cases inputs with
    | nil =>
      refine .stay ⟨hs.runs, hs.linked, hs.signalled, hs.supplied.onMachine rfl id, hp⟩
        (fun hst => (hstalls hst).elim) (.inl (rank_lt_of_front rfl rfl ?_))
      simp only [FrontEnd.rank, answer, beginStop]
      omega
    | cons text inputs =>
      refine .stay ⟨hs.runs, hs.linked, hs.signalled,
        hs.supplied.onMachine rfl fun _ => .inr rfl, hp⟩ (fun hst => (hstalls hst).elim)
        (.inl (rank_lt_of_front rfl rfl ?_))
      simp only [FrontEnd.rank, answer]
      omega
  · next hne =>
    refine .stay ⟨hs.runs, hs.linked, hs.signalled, hs.supplied, hs.paired.read_other hm hne⟩
      (fun _ h => h) (.inl (rank_lt_of_front rfl rfl ?_))
    simp only [FrontEnd.rank]
    omega

theorem Sound.close (hs : Sound program d h) (hrun : h.close? = some h') :
    Progress program d h h' := by
  obtain ⟨run, ⟨inputs, read, closing, left⟩⟩ := h
  simp only [close?, Option.ite_none_right_eq_some, Option.some.injEq] at hrun
  obtain ⟨hpos, rfl⟩ := hrun
  refine .stay ⟨hs.runs, hs.linked, hs.signalled, hs.supplied.onMachine rfl fun _ => .inl rfl,
    hs.paired.close hpos⟩ (fun _ h => h) (.inl (rank_lt_of_front rfl rfl ?_))
  simp only [FrontEnd.rank]
  omega

theorem Sound.watch (hs : Sound program d h) (hrun : h.watch? false = some h') :
    Progress program d h h' := by
  obtain ⟨run, ⟨inputs, read, closing, left⟩⟩ := h
  simp only [watch?, Option.ite_none_right_eq_some, Option.some.injEq] at hrun
  obtain ⟨⟨hleft, hl, hempty⟩, rfl⟩ := hrun
  have hempty : run.machine.mailbox.value = none := by
    simpa [Mailbox.isEmpty] using hempty
  have hl : program.lineAt? run.machine.pc = none := hs.runs ▸ hl
  obtain rfl : left = false := hleft
  obtain ⟨hst, hp⟩ | hp := hs.paired.leave rfl hl hempty
  · have hd : d.stepper.finished = none := by
      simp only [Driven.stalls, Bool.and_eq_true, Option.isNone_iff_eq_none] at hst
      exact hst.1.1
    exact .turn hd (Driven.watchedTurn?_of_stalls hst) (.inr ⟨hst, rfl⟩)
      ⟨hs.runs, hs.linked, hs.signalled, hs.supplied.onMachine rfl id, hp⟩
  · refine .stay ⟨hs.runs, hs.linked, hs.signalled, hs.supplied.onMachine rfl id, hp⟩
      (fun _ h => h) (.inl (rank_lt_of_front rfl rfl ?_))
    simp only [FrontEnd.rank, beginStop, Bool.not_true, Bool.not_false, Bool.toNat_false,
      Bool.toNat_true]
    omega

theorem Sound.progress (hs : Sound program d h) {act : Hosted → Option Hosted}
    (hact : act ∈ threads false) (hrun : act h = some h') : Progress program d h h' := by
  simp only [threads, List.cons_append, List.nil_append, List.mem_cons, List.mem_map] at hact
  obtain rfl | rfl | rfl | ⟨act, hact, rfl⟩ := hact
  · exact hs.watch hrun
  · exact hs.close hrun
  · exact hs.read hrun
  · simp only [onRun, Option.map_eq_some_iff] at hrun
    obtain ⟨run, hrun, rfl⟩ := hrun
    exact hs.act hact hrun

end Hosted

end AccumulatorMachine
