import AccumulatorMachine.CommandLine.Attendant
import AccumulatorMachine.Proofs.OpenRun.Messages

/-! What the front end of a run has received and printed at every moment. -/
namespace AccumulatorMachine

/-- A move adds to the console, if anything. -/
theorem Scene.Move.exists_console {program : Program} {elapsed : Nat} {s t : Scene}
    (h : Move program elapsed s t) : ∃ added, t.console = s.console ++ added := by
  cases h with
  | append => exact ⟨_, rfl⟩
  | _ => exact ⟨[], (List.append_nil _).symm⟩

/-- Nobody acts in a run that is over. -/
theorem Run.eq_none_of_isOver {r : Run} (hover : r.isOver = true) {act : Run → Option Run}
    (hact : act ∈ threads) : act r = none := by
  unfold isOver at hover
  split at hover
  · next report status verdict hrunner hprinter hfinisher =>
    obtain rfl | rfl | rfl := mem_threads.mp hact
    · simp [runnerStep?, hrunner]
    · simp [printerStep?, hprinter]
    · simp [finisherStep?, hfinisher]
  · cases hover

namespace Attendant

/-- At the start of a run that is said to take so many milliseconds. -/
def start (text : String) (inputs : List String) (echoPrompts : Bool) (elapsed : Nat) : Attendant :=
  { run := Session.accept {} (Program.ofText text) elapsed, inputs, echoPrompts }

/-- The messages that have been received. -/
def taken (a : Attendant) : List Message := a.run.console.take a.received

/-- Whether a message is printed when it is received. -/
def shows (a : Attendant) (m : Message) : Bool := m.status != .input || a.echoPrompts

/-- The front end once it has a message. -/
def noted (a : Attendant) (m : Message) : Attendant :=
  { a with
    received := a.received + 1
    printed := a.printed ++ ([m].filter a.shows).map Printed.message }

theorem receive_eq (a : Attendant) (m : Message) :
    a.receive m =
      match m.status with
      | .input => (a.noted m).request
      | status => if status.continues then a.noted m else { a.noted m with phase := .ended } := by
  have hnoted : { a with received := a.received + 1 }.showMessage m = a.noted m := by
    obtain ⟨run, inputs, echoPrompts, received, printed, phase⟩ := a
    by_cases hinput : m.status = .input <;> cases echoPrompts <;>
      simp [showMessage, noted, shows, hinput]
  cases hstatus : m.status <;> simp only [receive, hnoted, hstatus]

/-- What an action makes of the front end and its run. -/
inductive Moves (a : Attendant) : Attendant → Prop
  | receive {m : Message} (hphase : a.phase = .receiving) (hm : a.run.console[a.received]? = some m) :
      Moves a (a.receive m)
  | timeOut (hphase : a.phase = .receiving) (hm : a.run.console[a.received]? = none) :
      Moves a { a with phase := .testing }
  | test (hphase : a.phase = .testing) :
      Moves a { a with phase := if a.run.isOver then .ended else .receiving }
  | run {act : Run → Option Run} {run : Run} (hact : act ∈ Run.threads) (hrun : act a.run = some run) :
      Moves a { a with run }

theorem moves_of_threads {a b : Attendant} {act : Attendant → Option Attendant} (hact : act ∈ threads)
    (hb : act a = some b) : Moves a b := by
  simp only [threads, List.cons_append, List.nil_append, List.mem_cons, List.mem_map] at hact
  obtain rfl | rfl | rfl | ⟨act, hact, rfl⟩ := hact
  · unfold receive? at hb
    split at hb
    · next hphase =>
      obtain ⟨m, hm, rfl⟩ := Option.map_eq_some_iff.mp hb
      exact .receive hphase hm
    · cases hb
  · unfold timeOut? at hb
    split at hb
    · next hphase hm =>
      cases hb
      exact .timeOut hphase hm
    · cases hb
  · unfold test? at hb
    split at hb
    · next hphase =>
      cases hb
      exact .test hphase
    · cases hb
  · obtain ⟨run, hrun, rfl⟩ := Option.map_eq_some_iff.mp hb
    exact .run hact hrun

/-- What the front end and the run keep. -/
structure Sound (a : Attendant) : Prop where
  linked : a.run.Linked
  tells : ∃ log, a.run.scene.Tells [] a.run.elapsed log
  received_le : a.received ≤ a.run.console.length
  printed : a.printed = (a.taken.filter a.shows).map Printed.message
  going : a.phase ≠ .ended → ∀ m ∈ a.taken, m.status.continues = true
  ended : a.phase = .ended →
    (∃ status, EndsWith a.taken status) ∨
      a.run.isOver = true ∧ ∀ m ∈ a.taken, m.status.continues = true

namespace Sound

variable {a b : Attendant}

theorem start (text : String) (inputs : List String) (echoPrompts : Bool) (elapsed : Nat) :
    (start text inputs echoPrompts elapsed).Sound where
  linked := Session.linked_accept {} (Program.ofText text) elapsed
  tells := ⟨{}, [], rfl, .start elapsed⟩
  received_le := Nat.zero_le _
  printed := rfl
  going _ := nofun
  ended := nofun

theorem onMachine (h : a.Sound) (machine : Machine) :
    Sound { a with run := { a.run with machine } } :=
  ⟨h.linked, h.tells, h.received_le, h.printed, h.going, h.ended⟩

theorem withInputs (h : a.Sound) (inputs : List String) : Sound { a with inputs } :=
  ⟨h.linked, h.tells, h.received_le, h.printed, h.going, h.ended⟩

/-- The front end does something else while the run goes on. -/
theorem withPhase (h : a.Sound) (hphase : a.phase ≠ .ended) {phase : AttendantPhase}
    (hended : phase = .ended → a.run.isOver = true) : Sound { a with phase } :=
  ⟨h.linked, h.tells, h.received_le, h.printed, fun _ => h.going hphase,
    fun he => .inr ⟨hended he, h.going hphase⟩⟩

theorem answer (h : a.Sound) (hphase : a.phase ≠ .ended) (line : Option String) :
    (a.answer line).Sound := by
  have hreceiving : Sound { a with phase := .receiving } := h.withPhase hphase nofun
  cases line with
  | some text => exact hreceiving.onMachine (a.run.machine.deliver text)
  | none => exact hreceiving.onMachine a.run.machine.interrupt

theorem request (h : a.Sound) (hphase : a.phase ≠ .ended) : a.request.Sound := by
  unfold Attendant.request
  split
  · next inputs _ => exact (h.withInputs inputs).answer hphase _
  · exact h.withPhase hphase nofun

/-! ### The run goes on -/

theorem console_of_act (h : a.Sound) {act : Run → Option Run} (hact : act ∈ Run.threads) {run : Run}
    (hrun : act a.run = some run) :
    (∃ log, run.scene.Tells [] run.elapsed log) ∧ ∃ added, run.console = a.run.console ++ added := by
  have hadvance := h.linked.advance hact hrun
  obtain ⟨log, htells⟩ := h.tells
  rw [hadvance.elapsed]
  obtain ⟨hscene, -⟩ | ⟨hmove, -⟩ := hadvance.seen
  · have hconsole : run.console = a.run.console := congrArg Scene.console hscene
    exact ⟨⟨log, hscene ▸ htells⟩, [], hconsole.trans (List.append_nil _).symm⟩
  · exact ⟨⟨_, htells.move hmove⟩, hmove.exists_console⟩

theorem act (h : a.Sound) {act : Run → Option Run} (hact : act ∈ Run.threads) {run : Run}
    (hrun : act a.run = some run) : Sound { a with run } := by
  obtain ⟨htells, added, hconsole⟩ := h.console_of_act hact hrun
  have hle := h.received_le
  have htaken : taken { a with run } = a.taken := by
    rw [taken, hconsole, List.take_append_of_le_length hle, taken]
  have hlength : a.received ≤ run.console.length := by
    rw [hconsole, List.length_append]
    omega
  refine ⟨(h.linked.advance hact hrun).linked, htells, hlength, ?_, ?_, fun hended => ?_⟩
  · rw [htaken]
    exact h.printed
  · rw [htaken]
    exact h.going
  · obtain hlast | ⟨hover, -⟩ := h.ended hended
    · rw [htaken]
      exact .inl hlast
    · cases (Run.eq_none_of_isOver hover hact).symm.trans hrun

/-! ### Messages -/

theorem taken_noted {m : Message} (hm : a.run.console[a.received]? = some m) :
    (a.noted m).taken = a.taken ++ [m] := by
  rw [taken, noted, List.take_add_one, hm]
  rfl

theorem printed_noted (h : a.Sound) {m : Message} (hm : a.run.console[a.received]? = some m) :
    (a.noted m).printed = ((a.noted m).taken.filter a.shows).map Printed.message := by
  rw [taken_noted hm, List.filter_append, List.map_append, ← h.printed]
  rfl

theorem received_noted {m : Message} (hm : a.run.console[a.received]? = some m) :
    (a.noted m).received ≤ a.run.console.length :=
  (List.getElem?_eq_some_iff.mp hm).1

theorem noted (h : a.Sound) (hphase : a.phase ≠ .ended) {m : Message}
    (hm : a.run.console[a.received]? = some m) (hcontinues : m.status.continues = true) :
    (a.noted m).Sound := by
  refine ⟨h.linked, h.tells, received_noted hm, h.printed_noted hm, fun _ => ?_,
    fun hended => absurd hended hphase⟩
  rw [taken_noted hm]
  exact List.forall_mem_append.mpr ⟨h.going hphase, by simpa using hcontinues⟩

theorem last (h : a.Sound) (hphase : a.phase ≠ .ended) {m : Message}
    (hm : a.run.console[a.received]? = some m) (hends : m.status.continues = false) :
    Sound { a.noted m with phase := .ended } :=
  ⟨h.linked, h.tells, received_noted hm, h.printed_noted hm, fun hnot => absurd rfl hnot,
    fun _ => .inl ⟨m.status, a.taken, m.text, taken_noted hm, hends, h.going hphase⟩⟩

theorem receive (h : a.Sound) (hphase : a.phase ≠ .ended) {m : Message}
    (hm : a.run.console[a.received]? = some m) : (a.receive m).Sound := by
  rw [receive_eq]
  cases hstatus : m.status with
  | input => exact (h.noted hphase hm (hstatus ▸ rfl)).request hphase
  | ok | output => exact h.noted hphase hm (hstatus ▸ rfl)
  | failed | succeeded | stopped => exact h.last hphase hm (hstatus ▸ rfl)

/-! ### All actions -/

theorem step (h : a.Sound) (hb : a.Moves b) : b.Sound := by
  cases hb with
  | receive hphase hm => exact h.receive (by simp [hphase]) hm
  | timeOut hphase => exact h.withPhase (by simp [hphase]) (by simp)
  | test hphase => exact h.withPhase (by simp [hphase]) (by cases a.run.isOver <;> simp)
  | run hact hrun => exact h.act hact hrun

/-! ### The end -/

theorem continues_of_mem_dropLast (h : a.Sound) :
    ∀ m ∈ a.run.console.dropLast, m.status.continues = true := by
  obtain ⟨log, messages, hmessages, htells⟩ := h.tells
  have hconsole : a.run.console = messages := hmessages
  rw [hconsole]
  exact htells.dropLast

/-- A message after which the run does not go on is the last one on the console. -/
theorem received_of_endsWith (h : a.Sound) {status : Status} (hends : EndsWith a.taken status) :
    a.received = a.run.console.length := by
  obtain ⟨before, text, htaken, hstatus, -⟩ := hends
  obtain hlt | heq := Nat.lt_or_eq_of_le h.received_le
  · have hsub : a.taken <+: a.run.console.dropLast := by
      rw [List.dropLast_eq_take]
      exact List.take_prefix_take_left (by omega)
    have hmem : (⟨status, text⟩ : Message) ∈ a.run.console.dropLast := hsub.subset (by simp [htaken])
    cases hstatus.symm.trans (h.continues_of_mem_dropLast _ hmem)
  · exact heq

theorem taken_of_received (hall : a.received = a.run.console.length) : a.taken = a.run.console := by
  rw [taken, hall, List.take_length]

theorem endsWith_of_isOver (h : a.Sound) (hover : a.run.isOver = true) :
    ∃ status, EndsWith a.run.console status := by
  obtain ⟨log, messages, hmessages, htells⟩ := h.tells
  unfold Run.isOver at hover
  split at hover
  · next report _ _ hrunner _ _ =>
    have hreport : a.run.report? = some report := by simp [Run.report?, hrunner]
    have hconsole : a.run.console = messages := hmessages
    exact ⟨report.status, hconsole ▸ htells.ended _ (Run.ending?_of_report? hreport)⟩
  · cases hover

end Sound

end Attendant

end AccumulatorMachine
