import AccumulatorMachine.Proofs.CommandLine.Attendant

/-! A run that is attended to at a terminal, together with whoever types the answers. The front end ends
with the message that ends the run, or else after it has waited in vain. -/
namespace AccumulatorMachine

structure Attended where
  attendant : Attendant
  /-- The lines that are still to be typed. -/
  typed : List String
  /-- At the end of the lines the machine has been marked, and its mailbox has yet to be closed. -/
  closing : Bool := false

namespace Attended

def start (text : String) (inputs : List String) (echoPrompts : Bool) (elapsed : Nat)
    (typed : List String) : Attended where
  attendant := .start text inputs echoPrompts elapsed
  typed

def onAttendant (act : Attendant → Option Attendant) (s : Attended) : Option Attended :=
  (act s.attendant).map fun attendant => { s with attendant }

def onMachine (s : Attended) (f : Machine → Machine) (phase : AttendantPhase) : Attended :=
  { s with attendant := { s.attendant with
      run := { s.attendant.run with machine := f s.attendant.run.machine }
      phase } }

/-- Answers with the next line. The end of the lines marks the machine and then closes its mailbox. -/
def type? (s : Attended) : Option Attended :=
  match s.attendant.phase, s.typed, s.closing with
  | .asking, text :: typed, _ => some { s.onMachine (·.deliver text) .receiving with typed }
  | .asking, [], false => some { s.onMachine Machine.markInterrupted .asking with closing := true }
  | .asking, [], true => some { s.onMachine Machine.closeMailbox .receiving with closing := false }
  | _, _, _ => none

def threads : List (Attended → Option Attended) := type? :: Attendant.threads.map onAttendant

theorem sound_onMachine {s : Attended} (h : s.attendant.Sound) (hasking : s.attendant.phase = .asking)
    (f : Machine → Machine) (phase : AttendantPhase) (hphase : phase ≠ .ended) :
    (s.onMachine f phase).attendant.Sound :=
  (h.withPhase (by simp [hasking]) fun hended => absurd hended hphase).onMachine _

theorem sound_of_type {s t : Attended} (h : s.attendant.Sound) (ht : s.type? = some t) :
    t.attendant.Sound := by
  unfold type? at ht
  split at ht
  · next hasking _ =>
    cases ht
    exact sound_onMachine h hasking (fun m => m.deliver _) .receiving nofun
  · next hasking _ _ =>
    cases ht
    exact sound_onMachine h hasking _ .asking nofun
  · next hasking _ _ =>
    cases ht
    exact sound_onMachine h hasking _ .receiving nofun
  · cases ht

theorem sound_of_reachable {text : String} {inputs typed : List String} {echoPrompts : Bool}
    {elapsed : Nat} {s : Attended}
    (h : Schedule.Reachable threads (start text inputs echoPrompts elapsed typed) s) :
    s.attendant.Sound := by
  refine h.invariant (P := fun s => s.attendant.Sound) (.start text inputs echoPrompts elapsed)
    fun act hact u v hu hv => ?_
  obtain rfl | hact := List.mem_cons.mp hact
  · exact sound_of_type hu hv
  · obtain ⟨act, hmem, rfl⟩ := List.mem_map.mp hact
    obtain ⟨attendant, ha, rfl⟩ := Option.map_eq_some_iff.mp hv
    exact hu.step (Attendant.moves_of_threads hmem ha)

/-- The front end has received the first messages of the run, and has printed them in their order. When
it ends, these are all of them and the last one ends the run, or else it has found the run to be over
and leaves messages behind, the last one among them. That cannot happen while there is nothing to
receive. -/
theorem received_unless_late {text : String} {inputs typed : List String} {echoPrompts : Bool}
    {elapsed : Nat} {s : Attended}
    (h : Schedule.Reachable threads (start text inputs echoPrompts elapsed typed) s) :
    let a := s.attendant
    a.received ≤ a.run.console.length ∧
      a.printed = ((a.run.console.take a.received).filter a.shows).map Printed.message ∧
      (a.phase = .ended →
        (∃ status, EndsWith a.run.console status) ∧
          (a.received = a.run.console.length ∨
            a.run.isOver = true ∧ a.received < a.run.console.length)) ∧
      (a.phase ≠ .ended → ∀ m ∈ a.run.console.take a.received, m.status.continues = true) ∧
      (a.phase = .testing → a.received = a.run.console.length →
        a.test? = some { a with phase := .receiving }) := by
  intro a
  have hsound : a.Sound := sound_of_reachable h
  refine ⟨hsound.received_le, hsound.printed, fun hended => ?_, hsound.going, fun htesting hall => ?_⟩
  · obtain ⟨status, hends⟩ | ⟨hover, hgoing⟩ := hsound.ended hended
    · have hall := hsound.received_of_endsWith hends
      rw [Attendant.Sound.taken_of_received hall] at hends
      exact ⟨⟨status, hends⟩, .inl hall⟩
    · exact ⟨hsound.endsWith_of_isOver hover, (Nat.lt_or_eq_of_le hsound.received_le).symm.imp_right
        fun hlt => ⟨hover, hlt⟩⟩
  · have hnot : a.run.isOver = false := by
      rw [Bool.eq_false_iff]
      intro hover
      obtain ⟨status, before, message, hconsole, hstatus, -⟩ := hsound.endsWith_of_isOver hover
      have hgoing := hsound.going (by simp [htesting])
      rw [Attendant.Sound.taken_of_received hall, hconsole] at hgoing
      cases hstatus.symm.trans (hgoing ⟨status, message⟩ (by simp))
    simp [Attendant.test?, htesting, hnot]

/-- The run comes to its end before the front end looks for messages. -/
theorem received_unless_late_prompt :
    let s := Schedule.follow threads ((List.replicate 50 [4, 5, 6]).flatten ++ [1, 1])
      (start "SET 1\nOUT 1\nHLT 0" [] true 7 [])
    s.attendant.phase = .ended ∧ s.attendant.received = 2 ∧
      s.attendant.printed = [.message ⟨.output, "0"⟩,
        .message ⟨.succeeded, "Program finished successfully.\nExecution took 7 ms."⟩] ∧
      ∃ status, EndsWith s.attendant.run.console status := by
  intro s
  have hended : s.attendant.phase = .ended := by decide +kernel
  obtain ⟨-, hprinted, hend, -⟩ := received_unless_late (s := s) (Schedule.reachable_follow _ _ .refl)
  have hmessages : (s.attendant.run.console.take s.attendant.received).filter s.attendant.shows =
      [⟨.output, "0"⟩, ⟨.succeeded, "Program finished successfully.\nExecution took 7 ms."⟩] := by
    decide +kernel
  rw [hmessages] at hprinted
  exact ⟨hended, by decide +kernel, hprinted, (hend hended).1⟩

/-- The wait ends before the first message comes, and the test is made when the run is over. -/
theorem late_test_loses_message :
    ¬ ∀ s, Schedule.Reachable threads (start "HLT 0" [] true 0 []) s → s.attendant.phase = .ended →
      s.attendant.received = s.attendant.run.console.length := by
  intro hall
  have hreceived := hall _ (Schedule.reachable_follow threads
    (2 :: (List.replicate 50 [4, 5, 6]).flatten ++ [3]) .refl) (by decide +kernel)
  revert hreceived
  decide +kernel

end Attended

end AccumulatorMachine
