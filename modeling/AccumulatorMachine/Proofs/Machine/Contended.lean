import Mathlib.Logic.Relation
import AccumulatorMachine.Proofs.Machine.Visit
import AccumulatorMachine.Proofs.Session

/-! Interrupts and resets that several threads make of one machine at once. An interrupt marks the machine
and then closes the mailbox; a reset opens the mailbox and, two parts later, takes the mark away. The
actions of different calls come in any order, and where an interrupt and a reset overlap, the close
of the one can outlive the mark that the other takes away. -/
namespace AccumulatorMachine

/-- The mailbox is closed when the machine is marked, and only then. -/
def Machine.Agrees (m : Machine) : Prop := m.mailbox.closed = true ↔ m.interrupted = true

/-- A call that has begun, by the action that comes next. -/
inductive Unfinished where
  /-- An interrupt that has marked the machine. It closes the mailbox. -/
  | interrupt
  /-- A reset that clears this part. -/
  | reset (part : ResetPart)
  deriving DecidableEq, Repr

namespace Unfinished

def act : Unfinished → Machine → Machine
  | .interrupt => Machine.closeMailbox
  | .reset part => part.clear

/-- What is left of the call after its next action. -/
def rest : Unfinished → List Unfinished
  | .interrupt => []
  | .reset part => (part.next?.map .reset).toList

end Unfinished

/-- A machine and the calls in progress. -/
structure Contended where
  machine : Machine := {}
  calls : List Unfinished := []

namespace Contended

/-- Somebody begins a call with its first action. -/
inductive Begins : Contended → Contended → Prop
  | interrupt (s : Contended) :
      Begins s ⟨s.machine.markInterrupted, s.calls ++ [.interrupt]⟩
  | reset (s : Contended) :
      Begins s ⟨s.machine.clearRegisters, s.calls ++ [.reset .mailbox]⟩

/-- A call in progress goes on, an input is delivered, or a run is at work. -/
inductive GoesOn : Contended → Contended → Prop
  | act (m : Machine) (before : List Unfinished) (call : Unfinished) (after : List Unfinished) :
      GoesOn ⟨m, before ++ call :: after⟩ ⟨call.act m, before ++ call.rest ++ after⟩
  | deliver (s : Contended) (text : String) :
      GoesOn s { s with machine := s.machine.deliver text }
  | visit {s : Contended} {line : String} {status : Status} {m : Machine}
      (h : s.machine.visitLine line = .done status m) : GoesOn s { s with machine := m }
  | take {s : Contended} {address : Int32} {status : Status} {m : Machine}
      (h : s.machine.takeInput? address = some (status, m)) : GoesOn s { s with machine := m }
  | fetch {s : Contended} {text : Option String} {m : Machine}
      (h : s.machine.requestOutput? = some (text, m)) : GoesOn s { s with machine := m }

def Step (s t : Contended) : Prop := Begins s t ∨ GoesOn s t

def Interrupting (s : Contended) : Prop := .interrupt ∈ s.calls

/-- A reset has opened the mailbox and has yet to take the mark away. -/
def Halfway (s : Contended) : Prop := .reset .awaiting ∈ s.calls ∨ .reset .interrupted ∈ s.calls

/-- An interrupt is between its two actions while a reset is between the mailbox and the mark. -/
def Overlaps (s : Contended) : Prop := s.Interrupting ∧ s.Halfway

/-- What a step can do to the mark and to the mailbox. -/
inductive Changes (s t : Contended) : Prop
  | marks (hmark : t.machine.interrupted = true)
      (hclosed : t.machine.mailbox.closed = s.machine.mailbox.closed)
      (hinterrupting : t.Interrupting) (hhalfway : t.Halfway ↔ s.Halfway)
  | closes (hinterrupting : s.Interrupting) (hclosed : t.machine.mailbox.closed = true)
      (hmark : t.machine.interrupted = s.machine.interrupted) (hhalfway : t.Halfway ↔ s.Halfway)
  | opens (hcall : .reset .mailbox ∈ s.calls) (hclosed : t.machine.mailbox.closed = false)
      (hmark : t.machine.interrupted = s.machine.interrupted) (hhalfway : t.Halfway)
      (hinterrupting : t.Interrupting ↔ s.Interrupting)
  | unmarks (hhalfway : s.Halfway) (hmark : t.machine.interrupted = false)
      (hclosed : t.machine.mailbox.closed = s.machine.mailbox.closed)
      (hinterrupting : t.Interrupting ↔ s.Interrupting)
  | keeps (hmark : t.machine.interrupted = s.machine.interrupted)
      (hclosed : t.machine.mailbox.closed = s.machine.mailbox.closed)
      (hinterrupting : t.Interrupting ↔ s.Interrupting) (hhalfway : t.Halfway ↔ s.Halfway)

theorem Begins.changes {s t : Contended} (h : Begins s t) : Changes s t := by
  cases h with
  | interrupt => exact .marks rfl rfl (by simp [Interrupting]) (by simp [Halfway])
  | reset => exact .keeps rfl rfl (by simp [Interrupting]) (by simp [Halfway])

theorem changes_act (m : Machine) (before : List Unfinished) (call : Unfinished)
    (after : List Unfinished) :
    Changes ⟨m, before ++ call :: after⟩ ⟨call.act m, before ++ call.rest ++ after⟩ := by
  cases call with
  | interrupt => exact .closes (by simp [Interrupting]) rfl rfl (by simp [Halfway, Unfinished.rest])
  | reset part =>
    have hinterrupting : Interrupting ⟨part.clear m, before ++ (Unfinished.reset part).rest ++ after⟩ ↔
        Interrupting ⟨m, before ++ .reset part :: after⟩ := by
      cases part <;> simp [Interrupting, Unfinished.rest, ResetPart.next?]
    cases part with
    | registers => exact .keeps rfl rfl hinterrupting (by simp [Halfway, Unfinished.rest, ResetPart.next?])
    | mailbox =>
      exact .opens (by simp) rfl rfl (by simp [Halfway, Unfinished.rest, ResetPart.next?]) hinterrupting
    | awaiting => exact .keeps rfl rfl hinterrupting (by simp [Halfway, Unfinished.rest, ResetPart.next?])
    | interrupted => exact .unmarks (by simp [Halfway]) rfl rfl hinterrupting

theorem GoesOn.changes {s t : Contended} (h : GoesOn s t) : Changes s t := by
  cases h with
  | act m before call after => exact changes_act m before call after
  | deliver => exact .keeps rfl rfl .rfl .rfl
  | visit h =>
    exact .keeps (Machine.interrupted_of_visitLine h) (Machine.closed_of_visitLine h) .rfl .rfl
  | take h =>
    exact .keeps (Machine.interrupted_of_takeInput? h) (Machine.closed_of_takeInput? h) .rfl .rfl
  | fetch h =>
    exact .keeps (Machine.interrupted_of_requestOutput? h) (Machine.closed_of_requestOutput? h)
      .rfl .rfl

theorem Step.changes {s t : Contended} (h : Step s t) : Changes s t := by
  obtain h | h := h
  · exact h.changes
  · exact h.changes

/-! ### Calls that meet no others -/

theorem steps_interrupt (m : Machine) :
    Relation.ReflTransGen (fun a b => Step a b ∧ ¬ b.Overlaps) ⟨m, []⟩ ⟨m.interrupt, []⟩ := by
  have hmark : Step ⟨m, []⟩ ⟨m.markInterrupted, [.interrupt]⟩ := .inl (.interrupt ⟨m, []⟩)
  have hclose : Step ⟨m.markInterrupted, [.interrupt]⟩ ⟨m.interrupt, []⟩ :=
    .inr (.act m.markInterrupted [] .interrupt [])
  refine (Relation.ReflTransGen.single ⟨hmark, ?_⟩).tail ⟨hclose, ?_⟩
  · simp [Overlaps, Halfway]
  · simp [Overlaps, Halfway]

theorem steps_reset (m : Machine) :
    Relation.ReflTransGen (fun a b => Step a b ∧ ¬ b.Overlaps) ⟨m, []⟩ ⟨m.reset, []⟩ := by
  have hregisters : Step ⟨m, []⟩ ⟨m.clearRegisters, [.reset .mailbox]⟩ := .inl (.reset ⟨m, []⟩)
  have hmailbox : Step ⟨m.clearRegisters, [.reset .mailbox]⟩
      ⟨m.clearRegisters.clearMailbox, [.reset .awaiting]⟩ :=
    .inr (.act m.clearRegisters [] (.reset .mailbox) [])
  have hawaiting : Step ⟨m.clearRegisters.clearMailbox, [.reset .awaiting]⟩
      ⟨m.clearRegisters.clearMailbox.clearAwaiting, [.reset .interrupted]⟩ :=
    .inr (.act m.clearRegisters.clearMailbox [] (.reset .awaiting) [])
  have hmark : Step ⟨m.clearRegisters.clearMailbox.clearAwaiting, [.reset .interrupted]⟩
      ⟨m.reset, []⟩ :=
    .inr (.act m.clearRegisters.clearMailbox.clearAwaiting [] (.reset .interrupted) [])
  refine (((Relation.ReflTransGen.single ⟨hregisters, ?_⟩).tail ⟨hmailbox, ?_⟩).tail
    ⟨hawaiting, ?_⟩).tail ⟨hmark, ?_⟩
  all_goals simp [Overlaps, Interrupting]

/-! ### A mark has its close -/

/-- A marked machine is closed, or somebody is at work on it. -/
def Backed (s : Contended) : Prop :=
  s.machine.interrupted = true →
    s.machine.mailbox.closed = true ∨ s.Interrupting ∨ s.Halfway

theorem Backed.changes {s t : Contended} (h : s.Backed) (hc : Changes s t) : t.Backed := by
  intro hmarked
  cases hc with
  | marks _ _ hinterrupting _ => exact .inr (.inl hinterrupting)
  | closes _ hclosed _ _ => exact .inl hclosed
  | opens _ _ _ hhalfway _ => exact .inr (.inr hhalfway)
  | unmarks _ hmark _ _ => exact absurd (hmark.symm.trans hmarked) Bool.false_ne_true
  | keeps hmark hclosed hinterrupting hhalfway =>
    rw [hclosed, hinterrupting, hhalfway]
    exact h (hmark.symm.trans hmarked)

/-! ### Calls that do not overlap -/

/-- What holds as long as no interrupt overlaps a reset. -/
structure Orderly (s : Contended) : Prop where
  marked : s.Interrupting → s.machine.interrupted = true
  opened : s.Halfway → s.machine.mailbox.closed = false
  settled : ¬ s.Interrupting → ¬ s.Halfway → s.machine.Agrees

theorem Orderly.changes {s t : Contended} (h : s.Orderly) (hc : Changes s t) (hs : ¬ s.Overlaps)
    (ht : ¬ t.Overlaps) : t.Orderly := by
  cases hc with
  | marks hmark _ hinterrupting _ =>
    exact ⟨fun _ => hmark, fun hhalfway => absurd ⟨hinterrupting, hhalfway⟩ ht,
      fun hnot => absurd hinterrupting hnot⟩
  | closes hinterrupting hclosed hmark hhalfway =>
    have hnot : ¬ t.Halfway := fun hh => hs ⟨hinterrupting, hhalfway.mp hh⟩
    have hmarked : t.machine.interrupted = true := hmark.trans (h.marked hinterrupting)
    exact ⟨fun _ => hmarked, fun hh => absurd hh hnot,
      fun _ _ => ⟨fun _ => hmarked, fun _ => hclosed⟩⟩
  | opens _ hclosed _ hhalfway _ =>
    have hnot : ¬ t.Interrupting := fun hi => ht ⟨hi, hhalfway⟩
    exact ⟨fun hi => absurd hi hnot, fun _ => hclosed, fun _ hh => absurd hhalfway hh⟩
  | unmarks hhalfway hmark hclosed hinterrupting =>
    have hnot : ¬ t.Interrupting := fun hi => hs ⟨hinterrupting.mp hi, hhalfway⟩
    have hopen : t.machine.mailbox.closed = false := hclosed.trans (h.opened hhalfway)
    refine ⟨fun hi => absurd hi hnot, fun _ => hopen, fun _ _ => ?_⟩
    simp [Machine.Agrees, hmark, hopen]
  | keeps hmark hclosed hinterrupting hhalfway =>
    refine ⟨fun hi => ?_, fun hh => ?_, fun hni hnh => ?_⟩
    · rw [hmark]
      exact h.marked (hinterrupting.mp hi)
    · rw [hclosed]
      exact h.opened (hhalfway.mp hh)
    · have hagrees : s.machine.Agrees := h.settled (mt hinterrupting.mpr hni) (mt hhalfway.mpr hnh)
      rwa [Machine.Agrees, hmark, hclosed]

/-! ### Calls that overlap -/

/-- No reset has yet to open the mailbox. -/
def AllOpened (s : Contended) : Prop := ∀ part, .reset part ∈ s.calls → part = .awaiting ∨ part = .interrupted

/-- The last close is still to come or has come after the mailbox was opened, and the mark is still to
be taken away or has been. -/
structure Crossed (s : Contended) : Prop where
  opened : s.AllOpened
  closes : s.machine.mailbox.closed = true ∨ s.Interrupting
  unmarks : s.machine.interrupted = false ∨ s.Halfway

theorem GoesOn.allOpened {s t : Contended} (h : GoesOn s t) (hs : s.AllOpened) : t.AllOpened := by
  cases h with
  | act m before call after =>
    intro part hpart
    rw [List.mem_append, List.mem_append] at hpart
    obtain (hbefore | hrest) | hafter := hpart
    · exact hs part (List.mem_append_left _ hbefore)
    · cases call with
      | interrupt => nomatch hrest
      | reset p =>
        obtain rfl | rfl := hs p (by simp)
        · obtain rfl : part = .interrupted := by simpa [Unfinished.rest, ResetPart.next?] using hrest
          exact .inr rfl
        · nomatch hrest
    · exact hs part (List.mem_append_right _ (List.mem_cons_of_mem _ hafter))
  | _ => exact hs

/-- Only the beginning of an interrupt marks the machine. -/
theorem GoesOn.unmarked {s t : Contended} (h : GoesOn s t) (hs : s.machine.interrupted = false) :
    t.machine.interrupted = false := by
  cases h with
  | act m before call after =>
    cases call with
    | interrupt => exact hs
    | reset part =>
      cases part with
      | interrupted => rfl
      | _ => exact hs
  | deliver => exact hs
  | visit h => exact (Machine.interrupted_of_visitLine h).trans hs
  | take h => exact (Machine.interrupted_of_takeInput? h).trans hs
  | fetch h => exact (Machine.interrupted_of_requestOutput? h).trans hs

theorem Crossed.goesOn {s t : Contended} (h : s.Crossed) (hst : GoesOn s t) : t.Crossed := by
  have hopened : t.AllOpened := hst.allOpened h.opened
  cases hst.changes with
  | marks hmark hclosed hinterrupting hhalfway =>
    -- nobody begins an interrupt, so the machine was marked before
    have hmarked : s.machine.interrupted ≠ false := by
      intro hnot
      have hfalse : t.machine.interrupted = false := hst.unmarked hnot
      exact absurd (hfalse.symm.trans hmark) Bool.false_ne_true
    exact ⟨hopened, .inr hinterrupting, .inr (hhalfway.mpr (h.unmarks.resolve_left hmarked))⟩
  | closes _ hclosed hmark hhalfway =>
    refine ⟨hopened, .inl hclosed, ?_⟩
    rw [hmark, hhalfway]
    exact h.unmarks
  | opens hcall _ _ _ _ => nomatch h.opened .mailbox hcall
  | unmarks _ hmark hclosed hinterrupting =>
    refine ⟨hopened, ?_, .inl hmark⟩
    rw [hclosed, hinterrupting]
    exact h.closes
  | keeps hmark hclosed hinterrupting hhalfway =>
    refine ⟨hopened, ?_, ?_⟩
    · rw [hclosed, hinterrupting]
      exact h.closes
    · rw [hmark, hhalfway]
      exact h.unmarks

/-! ### All calls are over -/

/-- No call is in progress. -/
def Settled (s : Contended) : Prop := s.calls = []

theorem Settled.not_interrupting {s : Contended} (h : s.Settled) : ¬ s.Interrupting := by
  simp [Interrupting, show s.calls = [] from h]

theorem Settled.not_halfway {s : Contended} (h : s.Settled) : ¬ s.Halfway := by
  simp [Halfway, show s.calls = [] from h]

variable {m : Machine} {s t : Contended}

theorem backed_of_steps (hm : m.Agrees) (h : Relation.ReflTransGen Step ⟨m, []⟩ s) : s.Backed := by
  induction h with
  | refl => exact fun hmarked => .inl (hm.mpr hmarked)
  | tail _ hst ih => exact ih.changes hst.changes

theorem orderly_of_steps (hm : m.Agrees)
    (h : Relation.ReflTransGen (fun a b => Step a b ∧ ¬ b.Overlaps) ⟨m, []⟩ s) :
    s.Orderly ∧ ¬ s.Overlaps := by
  induction h with
  | refl =>
    have hsettled : Settled ⟨m, []⟩ := rfl
    exact ⟨⟨fun hi => absurd hi hsettled.not_interrupting, fun hh => absurd hh hsettled.not_halfway,
      fun _ _ => hm⟩, fun ho => hsettled.not_interrupting ho.1⟩
  | tail _ hst ih => exact ⟨ih.1.changes hst.1.changes ih.2 hst.2, hst.2⟩

theorem crossed_of_overlaps (ho : s.Overlaps) (hopened : s.AllOpened)
    (h : Relation.ReflTransGen GoesOn s t) : t.Crossed := by
  induction h with
  | refl => exact ⟨hopened, .inr ho.1, .inr ho.2⟩
  | tail _ hst ih => exact ih.goesOn hst

/-- When no call is in progress, a machine that is marked has a closed mailbox, whatever the order of
the actions was. The converse holds if no interrupt has overlapped the part of a reset that leads
from the mailbox to the mark. After such an overlap, and before the next call, the mailbox is
closed on a machine that is not marked. -/
theorem agrees_unless_overlapped (hm : m.Agrees) (hs : s.Settled) :
    (Relation.ReflTransGen Step ⟨m, []⟩ s →
      s.machine.interrupted = true → s.machine.mailbox.closed = true) ∧
    (Relation.ReflTransGen (fun a b => Step a b ∧ ¬ b.Overlaps) ⟨m, []⟩ s → s.machine.Agrees) ∧
    ∀ u : Contended, u.Overlaps → u.AllOpened → Relation.ReflTransGen GoesOn u s →
      s.machine.mailbox.closed = true ∧ s.machine.interrupted = false := by
  refine ⟨fun h hmarked => ?_, fun h => ?_, fun u ho hopened h => ?_⟩
  · obtain hclosed | hinterrupting | hhalfway := backed_of_steps hm h hmarked
    · exact hclosed
    · exact absurd hinterrupting hs.not_interrupting
    · exact absurd hhalfway hs.not_halfway
  · exact (orderly_of_steps hm h).1.settled hs.not_interrupting hs.not_halfway
  · have hcrossed := crossed_of_overlaps ho hopened h
    exact ⟨hcrossed.closes.resolve_right hs.not_interrupting,
      hcrossed.unmarks.resolve_right hs.not_halfway⟩

/-- An interrupt has just begun between the two parts of a reset. -/
def crossing : Contended := ⟨{ interrupted := true }, [.reset .awaiting, .interrupt]⟩

/-- Both calls are over. -/
def crossed : Contended := ⟨{ mailbox := { closed := true } }, []⟩

theorem steps_crossing : Relation.ReflTransGen Step {} crossing := by
  have hregisters : Step {} ⟨{}, [.reset .mailbox]⟩ := .inl (.reset {})
  have hmailbox : Step ⟨{}, [.reset .mailbox]⟩ ⟨{}, [.reset .awaiting]⟩ :=
    .inr (.act {} [] (.reset .mailbox) [])
  have hmark : Step ⟨{}, [.reset .awaiting]⟩ crossing := .inl (.interrupt ⟨{}, [.reset .awaiting]⟩)
  exact ((Relation.ReflTransGen.single hregisters).tail hmailbox).tail hmark

theorem goesOn_crossed : Relation.ReflTransGen GoesOn crossing crossed := by
  have hclose : GoesOn crossing
      ⟨{ mailbox := { closed := true }, interrupted := true }, [.reset .awaiting]⟩ :=
    .act { interrupted := true } [.reset .awaiting] .interrupt []
  have hawaiting : GoesOn
      ⟨{ mailbox := { closed := true }, interrupted := true }, [.reset .awaiting]⟩
      ⟨{ mailbox := { closed := true }, interrupted := true }, [.reset .interrupted]⟩ :=
    .act { mailbox := { closed := true }, interrupted := true } [] (.reset .awaiting) []
  have hinterrupted : GoesOn
      ⟨{ mailbox := { closed := true }, interrupted := true }, [.reset .interrupted]⟩ crossed :=
    .act { mailbox := { closed := true }, interrupted := true } [] (.reset .interrupted) []
  exact ((Relation.ReflTransGen.single hclose).tail hawaiting).tail hinterrupted

/-- A machine that is interrupted and nothing else, and one whose interrupt has crossed a reset. -/
theorem agrees_unless_overlapped_crossed :
    Machine.Agrees (Machine.interrupt {}) ∧
      crossed.machine.mailbox.closed = true ∧ crossed.machine.interrupted = false := by
  have hnew : Machine.Agrees {} := by simp [Machine.Agrees]
  obtain ⟨-, hagrees, -⟩ := agrees_unless_overlapped (s := ⟨Machine.interrupt {}, []⟩) hnew rfl
  obtain ⟨-, -, hcrossed⟩ := agrees_unless_overlapped (s := crossed) hnew rfl
  refine ⟨hagrees (steps_interrupt {}), ?_⟩
  exact hcrossed crossing (by simp [Overlaps, Interrupting, Halfway, crossing])
    (by simp [AllOpened, crossing]) goesOn_crossed

/-- The run of a program that prints a value, from a start in which a stop has crossed the reset of
the machine. -/
def unheard : Run :=
  Schedule.settle (Schedule.first? Run.threads) 64
    ⟨{ machine := crossed.machine, active := true }, { program := ["SET 1", "OUT 1", "HLT 0"], elapsed := 0 }⟩

/-- An interrupt that crosses a reset leaves the mailbox closed and takes its own mark away. A run that
starts so goes on to its end, and the value that it prints is lost. -/
theorem crossing_calls_disagree :
    (¬ ∀ s : Contended, Relation.ReflTransGen Step {} s → s.Settled → s.machine.Agrees) ∧
      (∃ course, Session.Unfolds (fun _ _ => True) {} ["SET 1", "OUT 1", "HLT 0"] 0 course
        (.running unheard)) ∧
      unheard.report? = some ⟨.succeeded, ⟨2, some [0, 0], false, false⟩⟩ ∧
      unheard.console.map (·.status) = [.succeeded] := by
  refine ⟨fun hall => ?_, ?_, by decide +kernel, by decide +kernel⟩
  · have hsteps : Relation.ReflTransGen Step {} crossed :=
      steps_crossing.trans (goesOn_crossed.lift id fun _ _ hst => .inr hst)
    have hmarked : crossed.machine.interrupted = true := (hall crossed hsteps rfl).mp rfl
    cases hmarked
  · have hopening : Session.Unfolds (fun _ _ => True) {} ["SET 1", "OUT 1", "HLT 0"] 0 []
        (.opening { active := true } .registers) := .accept rfl
    have hregisters := hopening.alone (.clear _ .registers)
    have hmailbox := hregisters.alone (.clear _ .mailbox)
    have hmark := hmailbox.step (fun _ _ => trivial) (.early .mark nofun rfl)
    have hclose := hmark.step (fun _ _ => trivial) (.early .close nofun rfl)
    have hawaiting := hclose.alone (.clear _ .awaiting)
    have hrunning := hawaiting.alone (.clear _ .interrupted)
    exact hrunning.settle 64

end Contended

end AccumulatorMachine
