import AccumulatorMachine.Proofs.Driven
import AccumulatorMachine.Proofs.Hosted
import AccumulatorMachine.Proofs.Machine.Visit
import AccumulatorMachine.Proofs.Run.Scene

/-! A run with its front end beside a stepper with its user. The stepper is ahead: a step of it stands
for everything that comes of a line, up to the answer of the front end and the message of the
printer. -/
namespace AccumulatorMachine

/-! ### Messages -/

/-- The messages tell the events but for the last ones. -/
def Told (log : List Message) (untold events : List Event) : Prop :=
  log.map Message.event? ++ untold.map some = events.map some

/-- After the events comes the status that ends the run. -/
def ToldAll (log : List Message) (events : List Event) (status : Status) : Prop :=
  ∃ messages text, log = messages ++ [⟨status, text⟩] ∧ Told messages [] events

/-- What the printer has yet to show. -/
def Stage.untold : Stage → List Event
  | .rendered .output (some text) => [.printed text]
  | .handing .input | .rendered .input _ => [.asked]
  | _ => []

/-- Every question has been read. -/
structure Heard (c : List Message) (read : Nat) : Prop where
  le : read ≤ c.length
  answered : ∀ message ∈ c.drop read, message.status ≠ .input

/-- The last message is a question, and the front end has yet to come to it. -/
inductive Unheard (read : Nat) : List Message → Prop
  | mk {c : List Message} {message : Message} (h : Heard c read) (hm : message.status = .input) :
      Unheard read (c ++ [message])

theorem told_nil : Told [] [] [] := rfl

theorem Told.happen {log : List Message} {events : List Event} (h : Told log [] events)
    (event : Event) : Told log [event] (events ++ [event]) := by
  unfold Told at *
  rw [List.map_nil, List.append_nil] at h
  rw [h, List.map_append]

theorem Told.append {log : List Message} {events : List Event} {event : Event}
    {message : Message} (h : Told log [event] events) (hm : message.event? = some event) :
    Told (log ++ [message]) [] events := by
  unfold Told at *
  rw [← h, List.map_append, List.map_nil, List.append_nil, List.map_cons, List.map_nil, hm]
  rfl

theorem Told.filterMap {log : List Message} {untold events : List Event}
    (h : Told log untold events) : log.filterMap Message.event? ++ untold = events := by
  have hid : ∀ l : List Event, (l.map some).filterMap id = l := by
    intro l
    simp [List.filterMap_map]
  have := congrArg (List.filterMap id) h
  rw [List.filterMap_append, List.filterMap_map, hid, hid] at this
  exact this

theorem Told.complete {log : List Message} {events : List Event} (h : Told log [] events) :
    log.filterMap Message.event? = events := by
  have := h.filterMap
  rwa [List.append_nil] at this

theorem ToldAll.complete {log : List Message} {events : List Event} {status : Status}
    (h : ToldAll log events status) (hc : status.continues = false) :
    log.filterMap Message.event? = events := by
  obtain ⟨messages, text, rfl, ht⟩ := h
  have hnone : Message.event? ⟨status, text⟩ = none := by
    cases status with
    | ok | input | output => cases hc
    | _ => rfl
  rw [List.filterMap_append, List.filterMap_cons_none hnone]
  exact ht.filterMap

theorem heard_nil : Heard [] 0 := ⟨Nat.le_refl 0, nofun⟩

theorem drop_of_getElem? {log : List Message} {read : Nat} {message : Message}
    (h : log[read]? = some message) : log.drop read = message :: log.drop (read + 1) := by
  obtain ⟨hlt, rfl⟩ := List.getElem?_eq_some_iff.mp h
  exact List.drop_eq_getElem_cons hlt

theorem Heard.append {log : List Message} {read : Nat} {message : Message} (h : Heard log read)
    (hm : message.status ≠ .input) : Heard (log ++ [message]) read := by
  refine ⟨?_, ?_⟩
  · have := h.le
    simp only [List.length_append]
    omega
  · intro m hmem
    rw [List.drop_append_of_le_length h.le, List.mem_append, List.mem_singleton] at hmem
    obtain hmem | rfl := hmem
    · exact h.answered m hmem
    · exact hm

theorem Heard.read {log : List Message} {read : Nat} {message : Message} (h : Heard log read)
    (hm : log[read]? = some message) : message.status ≠ .input ∧ Heard log (read + 1) := by
  have hdrop := drop_of_getElem? hm
  have hmem := h.answered
  rw [hdrop] at hmem
  refine ⟨hmem message (by simp), ?_, fun m hm' => hmem m (by simp [hm'])⟩
  obtain ⟨hlt, -⟩ := List.getElem?_eq_some_iff.mp hm
  omega

theorem Unheard.read {log : List Message} {read : Nat} {message : Message} (h : Unheard read log)
    (hm : log[read]? = some message) :
    message.status = .input ∧ Heard log (read + 1) ∨
      message.status ≠ .input ∧ Unheard (read + 1) log := by
  obtain ⟨hh, hq⟩ := h
  rename_i log last
  have hle := hh.le
  obtain hlt | heq := Nat.lt_or_eq_of_le hle
  · rw [List.getElem?_append_left hlt] at hm
    obtain ⟨hne, hh'⟩ := hh.read hm
    exact .inr ⟨hne, .mk hh' hq⟩
  · subst heq
    simp at hm
    subst hm
    exact .inl ⟨hq, by simp, by simp⟩

theorem Unheard.exists_message {log : List Message} {read : Nat} (h : Unheard read log) :
    ∃ message, log[read]? = some message := by
  obtain ⟨hh, -⟩ := h
  have := hh.le
  exact ⟨_, List.getElem?_eq_getElem (by simp; omega)⟩

/-! ### Joint positions -/

/-- From the text of the last value to the next line. -/
inductive Calm (program : Program) (pc : Int) : Stage → Prop
  | rendered (text : String) : Calm program pc (.rendered .output (some text))
  | shown : Calm program pc (.shown .output)
  | testing : Calm program pc (.busy .testing)
  | fetching : Calm program pc (.busy .fetching)
  | executing {line : String} (h : program.lineAt? pc = some line) :
      Calm program pc (.busy (.executing line))

/-- The text of a question has yet to be shown. -/
inductive Asking : Stage → Prop
  | handing : Asking (.handing .input)
  | rendered (text : String) : Asking (.rendered .input (some text))

/-- From a question back to the line that has asked. -/
inductive Returning (line : String) (address : Int32) : Stage → Prop
  | shown : Returning line address (.shown .input)
  | testing : Returning line address (.busy .testing)
  | fetching : Returning line address (.busy .fetching)
  | executing : Returning line address (.busy (.executing line))
  | taking : Returning line address (.busy (.taking address))

/-- From the end of the program to the report. -/
inductive Ending (status : Status) (interrupted : Bool) (c : List Message) (events : List Event) :
    Stage → Prop
  | judging {cause : Failure} (h : status = if interrupted then .stopped else .failed cause)
      (ht : Told c [] events) : Ending status interrupted c events (.busy (.judging (.failed cause)))
  | handing (ht : Told c [] events) : Ending status interrupted c events (.handing status)
  | rendered (text : String) (ht : Told c [] events) :
      Ending status interrupted c events (.rendered status (some text))
  | shown (ht : ToldAll c events status) : Ending status interrupted c events (.shown status)
  | noting (ht : ToldAll c events status) :
      Ending status interrupted c events (.busy (.noting status))

/-- The report is written. -/
inductive Reported (report : Report) : RunnerPhase → Prop
  | clearing (part : ResetPart) : Reported report (.clearing report part)
  | signalling : Reported report (.signalling report)
  | asleep (generation : Nat) : Reported report (.asleep report generation)
  | leaving : Reported report (.leaving report)
  | finished : Reported report (.finished report)

/-- The line at the program counter takes an input for a cell once it has asked. -/
def Asks (program : Program) (pc : Int) (memory : Option Memory) (line : String)
    (address : Int32) : Prop :=
  program.lineAt? pc = some line ∧ ∀ n : Machine, n.memory = memory → n.awaiting = true →
    n.visitLine line = .taking address

/-- Where the stepper is for every position of the run and its front end. -/
inductive Paired (program : Program) : Driven → Scene → FrontEnd → Prop
  | calm {pc memory inputs events c stage read} (hs : Calm program pc stage) (hh : Heard c read)
      (he : Told c stage.untold events) :
      Paired program ⟨{ program, machine := .idle pc memory }, inputs, events⟩
        ⟨.idle pc memory, c, stage⟩ ⟨inputs, read, 0, false⟩
  | printing {pc memory inputs events c text read} (hh : Heard c read)
      (he : Told c [.printed text] events) :
      Paired program ⟨{ program, machine := .idle pc memory }, inputs, events⟩
        ⟨.printing pc memory text, c, .handing .output⟩ ⟨inputs, read, 0, false⟩
  | asking {pc memory inputs events c stage read line address} (hs : Asking stage)
      (hh : Heard c read) (hq : Asks program pc memory line address)
      (he : Told c stage.untold events) :
      Paired program (Driven.answer ⟨{ program, machine := .asking pc memory }, inputs, events⟩)
        ⟨.asking pc memory, c, stage⟩ ⟨inputs, read, 0, false⟩
  | asked {pc memory inputs events c stage read line address} (hs : Returning line address stage)
      (hu : Unheard read c) (hq : Asks program pc memory line address) (he : Told c [] events) :
      Paired program (Driven.answer ⟨{ program, machine := .asking pc memory }, inputs, events⟩)
        ⟨.asking pc memory, c, stage⟩ ⟨inputs, read, 0, false⟩
  | answered {pc memory inputs events c stage read line address text}
      (hs : Returning line address stage) (hh : Heard c read)
      (hq : Asks program pc memory line address) (he : Told c [] events) :
      Paired program ⟨{ program, machine := .answered pc memory text }, inputs, events⟩
        ⟨.answered pc memory text, c, stage⟩ ⟨inputs, read, 0, false⟩
  | refused {pc memory events c stage read closed closing line address}
      (hs : Returning line address stage) (hh : Heard c read)
      (hq : Asks program pc memory line address) (hc : closed = true ∨ 0 < closing)
      (he : Told c [] events) :
      Paired program ⟨{ program, machine := .stopped pc memory true true }, [], events⟩
        ⟨.stopped pc memory true closed, c, stage⟩ ⟨[], read, closing, false⟩
  | left {pc memory inputs events c stage read closed closing} (hs : Calm program pc stage)
      (hh : Heard c read) (hl : program.lineAt? pc = none) (hc : closed = true ∨ 0 < closing)
      (he : Told c stage.untold events) :
      Paired program ⟨{ program, machine := .stopped pc memory false true }, inputs, events⟩
        ⟨.stopped pc memory false closed, c, stage⟩ ⟨inputs, read, closing, true⟩
  | ended {d status m c stage front} (hc : status.continues = false)
      (hf : d.stepper.finished = some status) (hm : m.snapshot = d.stepper.machine.snapshot)
      (hs : Ending status m.interrupted c d.events stage) (hh : Heard c front.read)
      (hl : front.left = true ∨ (program.lineAt? m.pc).isSome = true) :
      Paired program d ⟨m, c, stage⟩ front
  | reported {d status m c phase front} (hc : status.continues = false)
      (hf : d.stepper.finished = some status)
      (hr : Reported ⟨status, d.stepper.machine.snapshot⟩ phase)
      (ht : ToldAll c d.events status) :
      Paired program d ⟨m, c, .busy phase⟩ front

theorem paired_start (shared : Shared) (text : String) (inputs : List String) (elapsed : Nat) :
    Paired (Program.ofText text) (Driven.ofText text inputs)
      (Hosted.start shared text inputs elapsed).run.scene
      (Hosted.start shared text inputs elapsed).front :=
  .calm .testing heard_nil told_nil

end AccumulatorMachine
