import AccumulatorMachine.Proofs.Driven.Turns
import AccumulatorMachine.Proofs.Stepper.Alike

/-! Watched runs of two programs of which the second may have a blank line more at its end. The second
run may take one turn more, to step over that line. -/
namespace AccumulatorMachine.Driven

/-! ### What is reported -/

/-- The status that a watched turn gets from its step, unless it is OK. Nobody makes a step of a
stepper that is about to be stopped or has ended. -/
def heard? (d : Driven) : Option Status :=
  if d.stalls || d.stepper.finished.isSome then none
  else if d.stepper.step.1 = .ok then none
  else some d.stepper.step.1

/-- The statuses other than OK that the first turns of a watched run get. -/
def statuses : Nat → Driven → List Status
  | 0, _ => []
  | n + 1, d => statuses n d ++ ((watchedTurns? n d).bind heard?).toList

theorem statuses_succ {d d₁ : Driven} {n : Nat} (h : d.watchedTurns? n = some d₁) :
    d.statuses (n + 1) = d.statuses n ++ d₁.heard?.toList := by
  rw [statuses, h, Option.bind_some]

/-- One of the first turns finds that the run has stalled. -/
def StalledBy (d : Driven) (n : Nat) : Prop :=
  ∃ k ≤ n, ∃ d₁, d.watchedTurns? k = some d₁ ∧ d₁.stalls = true

theorem StalledBy.mono {d : Driven} {n m : Nat} (h : d.StalledBy n) (hle : n ≤ m) : d.StalledBy m := by
  obtain ⟨k, hk, hstalls⟩ := h
  exact ⟨k, hk.trans hle, hstalls⟩

/-- So many turns of two watched runs report the same and come to the same, but for the program
counters of runs that have stalled. -/
def Agree (start start' : Driven) (n m : Nat) : Prop :=
  start'.statuses m = start.statuses n ∧
    ∃ d d', start.watchedTurns? n = some d ∧ start'.watchedTurns? m = some d' ∧
      d'.inputs = d.inputs ∧ d'.events = d.events ∧ d'.stepper.finished = d.stepper.finished ∧
      d'.stepper.machine.memory = d.stepper.machine.memory ∧
      (d'.stepper.machine.pc = d.stepper.machine.pc ∨ start.StalledBy n ∧ start'.StalledBy m)

/-! ### Turns -/

/-- Two runs side by side. -/
structure Beside (p p' : Program) (lag : Nat) (d d' : Driven) : Prop where
  stepper : Stepper.Beside p p' lag d.stepper d'.stepper
  inputs : d'.inputs = d.inputs
  events : d'.events = d.events
  /-- An input is awaited at a line of the program only. -/
  bounded : d.stepper.machine.Bounded p

namespace Beside

variable {p p' : Program} {lag : Nat} {d d' : Driven}

theorem start (text text' : String) (inputs : List String) :
    Beside (Program.ofText text) (Program.ofText text') 0 (ofText text inputs)
      (ofText text' inputs) where
  stepper := .level (s := .ofText text) rfl
  inputs := rfl
  events := rfl
  bounded := Machine.bounded_new _

theorem stop (h : Beside p p' lag d d') :
    Beside p p' lag { d with stepper := d.stepper.stop } { d' with stepper := d'.stepper.stop } :=
  ⟨h.stepper.stop, h.inputs, h.events, h.bounded.congr ⟨rfl, rfl, rfl⟩⟩

theorem ask (h : Beside p p' lag d d') : Beside p p' lag d.ask d'.ask :=
  ⟨h.stepper, h.inputs, congrArg (· ++ [Event.asked]) h.events, h.bounded⟩

theorem answer (h : Beside p p' lag d d') : Beside p p' lag d.answer d'.answer := by
  obtain ⟨stepper, _, events⟩ := d
  obtain ⟨stepper', inputs, events'⟩ := d'
  obtain ⟨hstepper, rfl, hevents, hbounded⟩ := h
  cases inputs with
  | nil => exact ⟨hstepper.stop, rfl, hevents, hbounded.congr ⟨rfl, rfl, rfl⟩⟩
  | cons text inputs =>
    exact ⟨hstepper.deliver text, rfl, hevents, hbounded.congr ⟨rfl, rfl, rfl⟩⟩

theorem collect (h : Beside p p' lag d d') : Beside p p' lag d.collect d'.collect := by
  refine ⟨h.stepper.takeOutput, h.inputs, ?_, h.bounded.congr ⟨rfl, rfl, rfl⟩⟩
  simp only [Driven.collect, Stepper.takeOutput, h.events, h.stepper.printed_eq]

theorem attend (h : Beside p p' lag d d') (status : Status) :
    Beside p p' lag (d.attend status) (d'.attend status) := by
  cases status with
  | input => exact h.ask.answer
  | output => exact h.collect
  | ok | failed | succeeded | stopped => exact h

theorem stalls_of_second (h : Beside p p' lag d d') (hp : p.Alike p') (hstalls' : d'.stalls = true) :
    d.stalls = true := by
  obtain ⟨hfinished, hmark, hout'⟩ := stalls_iff.mp hstalls'
  refine stalls_iff.mpr ⟨h.stepper.finished_eq ▸ hfinished, h.stepper.interrupted_eq ▸ hmark, ?_⟩
  rw [h.stepper.program_eq' ] at hout'
  rw [h.stepper.program_eq]
  exact h.stepper.outside hp hout'

theorem stalls_of_ahead (h : Beside p p' 1 d d') (hstalls : d.stalls = true) : d'.stalls = true := by
  obtain ⟨hfinished, hmark, -⟩ := stalls_iff.mp hstalls
  refine stalls_iff.mpr ⟨h.stepper.finished_eq.trans hfinished, h.stepper.interrupted_eq.trans hmark, ?_⟩
  rw [h.stepper.program_eq']
  exact h.stepper.outside_of_ahead

theorem heard?_eq (h : Beside p p' lag d d') (hp : p.Alike p') (hsame : d'.stalls = d.stalls) :
    d'.heard? = d.heard? := by
  rw [heard?, heard?, hsame, h.stepper.finished_eq, (h.stepper.step hp).1]

/-- Both take a turn. -/
theorem watchedTurn (h : Beside p p' lag d d') (hp : p.Alike p') (hsame : d'.stalls = d.stalls) :
    ∃ u u', d.watchedTurn? = some u ∧ d'.watchedTurn? = some u' ∧ Beside p p' lag u u' := by
  unfold watchedTurn?
  cases hstalls : d.stalls with
  | true =>
    rw [hsame, hstalls]
    exact ⟨_, _, rfl, rfl, h.stop⟩
  | false =>
    rw [hsame, hstalls, turn?_eq, turn?_eq]
    refine ⟨_, _, rfl, rfl, ?_⟩
    obtain ⟨hstatus, hadvances⟩ := h.stepper.step hp
    have hstepper : Stepper.Beside p p' lag d.stepper.step.2 d'.stepper.step.2 := by
      cases hadvances with
      | both _ hstepper => exact hstepper
      | second _ hearly hout =>
        obtain ⟨hfinished, hmark, -⟩ := Stepper.early?_eq_none_iff.mp hearly
        rw [← h.stepper.program_eq] at hout
        cases hstalls.symm.trans (stalls_iff.mpr ⟨hfinished, hmark, hout⟩)
    have hbounded := Stepper.bounded_of_step (s := d.stepper) (h.stepper.program_eq ▸ h.bounded)
    rw [Stepper.program_of_step, h.stepper.program_eq] at hbounded
    have hstep : Beside p p' lag { d with stepper := d.stepper.step.2 }
        { d' with stepper := d'.stepper.step.2 } := ⟨hstepper, h.inputs, h.events, hbounded⟩
    rw [hstatus]
    exact hstep.attend _

theorem early_of_stalls (h : Beside p p' lag d d') (hstalls : d.stalls = true) :
    d.stepper.early? = none := by
  obtain ⟨hfinished, hmark, hout⟩ := stalls_iff.mp hstalls
  refine Stepper.early?_eq_none_iff.mpr ⟨hfinished, hmark, fun hawaiting => ?_⟩
  obtain ⟨line, _, hline, -⟩ := h.bounded.asked hawaiting
  rw [h.stepper.program_eq, hline] at hout
  cases hout

/-- The second run steps over its blank line. -/
theorem hop (h : Beside p p' lag d d') (hp : p.Alike p') (hstalls : d.stalls = true)
    (hnot : d'.stalls = false) :
    lag = 0 ∧ d'.heard? = none ∧
      ∃ u', d'.watchedTurn? = some u' ∧ Beside p p' 1 d u' ∧ u'.stalls = true := by
  have hearly := h.early_of_stalls hstalls
  obtain ⟨hfinished, hmark, hout⟩ := stalls_iff.mp hstalls
  obtain ⟨hstatus, hadvances⟩ := h.stepper.step hp
  rw [Stepper.step_of_outside hearly hout] at hstatus
  cases hadvances with
  | both houtside =>
    have hout' := houtside hearly (h.stepper.program_eq ▸ hout)
    rw [← h.stepper.program_eq'] at hout'
    have hstalls' : d'.stalls = true := stalls_iff.mpr
      ⟨h.stepper.finished_eq.trans hfinished, h.stepper.interrupted_eq.trans hmark, hout'⟩
    cases hnot.symm.trans hstalls'
  | second hlag _ _ hstepper =>
    have hnext : Beside p p' 1 d { d' with stepper := d'.stepper.step.2 } :=
      ⟨hstepper, h.inputs, h.events, h.bounded⟩
    refine ⟨hlag, by simp [heard?, hstatus], _, ?_, hnext, hnext.stalls_of_ahead hstalls⟩
    rw [watchedTurn?, hnot, if_neg Bool.false_ne_true, turn?_eq, hstatus]
    rfl

end Beside

/-! ### Runs -/

/-- Two runs that have reported the same so far are side by side. -/
structure Abreast (p p' : Program) (start start' : Driven) (n lag : Nat) : Prop where
  statuses : start'.statuses (n + lag) = start.statuses n
  beside : ∃ d d', start.watchedTurns? n = some d ∧ start'.watchedTurns? (n + lag) = some d' ∧
    Beside p p' lag d d'
  stalled : lag ≠ 0 → start.StalledBy n ∧ start'.StalledBy (n + lag)

namespace Abreast

variable {p p' : Program} {start start' : Driven} {n lag : Nat}

theorem agree (h : Abreast p p' start start' n lag) : Agree start start' n (n + lag) := by
  obtain ⟨d, d', hd, hd', hbeside⟩ := h.beside
  refine ⟨h.statuses, d, d', hd, hd', hbeside.inputs, hbeside.events, hbeside.stepper.finished_eq,
    hbeside.stepper.memory_eq, ?_⟩
  by_cases hlag : lag = 0
  · subst hlag
    exact .inl (by simpa using hbeside.stepper.pc_eq)
  · exact .inr (h.stalled hlag)

/-- Both runs take a turn, or the second takes one alone. -/
theorem next (h : Abreast p p' start start' n lag) (hp : p.Alike p') :
    Abreast p p' start start' (n + 1) lag ∨ lag = 0 ∧ Abreast p p' start start' n 1 := by
  obtain ⟨d, d', hd, hd', hbeside⟩ := h.beside
  by_cases hsame : d'.stalls = d.stalls
  · obtain ⟨u, u', hu, hu', hnext⟩ := hbeside.watchedTurn hp hsame
    have hnext' : start'.watchedTurns? (n + 1 + lag) = some u' := by
      rw [Nat.add_right_comm]
      exact watchedTurns?_succ hd' hu'
    refine .inl ⟨?_, ⟨u, u', watchedTurns?_succ hd hu, hnext', hnext⟩, fun hlag => ?_⟩
    · rw [Nat.add_right_comm, statuses_succ hd', statuses_succ hd, h.statuses,
        hbeside.heard?_eq hp hsame]
    · obtain ⟨hstalled, hstalled'⟩ := h.stalled hlag
      exact ⟨hstalled.mono (by omega), hstalled'.mono (by omega)⟩
  · have hnot : d'.stalls = false := by
      rw [Bool.eq_false_iff]
      intro hstalls'
      exact hsame (hstalls'.trans (hbeside.stalls_of_second hp hstalls').symm)
    have hstalls : d.stalls = true := by simpa [hnot] using Ne.symm hsame
    obtain ⟨rfl, hheard, u', hu', hnext, hstalls'⟩ := hbeside.hop hp hstalls hnot
    have hnext' : start'.watchedTurns? (n + 1) = some u' := watchedTurns?_succ hd' hu'
    refine .inr ⟨rfl, ?_, ⟨d, u', hd, hnext', hnext⟩, fun _ => ?_⟩
    · rw [statuses_succ hd', hheard]
      exact (List.append_nil _).trans h.statuses
    · exact ⟨⟨n, le_rfl, d, hd, hstalls⟩, ⟨n + 1, le_rfl, u', hnext', hstalls'⟩⟩

/-- Whatever number of turns the first run takes, the second takes as many or one more. -/
theorem forward (h : Abreast p p' start start' 0 0) (hp : p.Alike p') (n : Nat) :
    ∃ lag ≤ 1, Abreast p p' start start' n lag := by
  induction n with
  | zero => exact ⟨0, Nat.zero_le 1, h⟩
  | succ n ih =>
    obtain ⟨lag, hle, hn⟩ := ih
    obtain hnext | ⟨rfl, hahead⟩ := hn.next hp
    · exact ⟨lag, hle, hnext⟩
    · obtain hnext | ⟨hone, -⟩ := hahead.next hp
      · exact ⟨1, le_rfl, hnext⟩
      · cases hone

theorem backward (h : Abreast p p' start start' 0 0) (hp : p.Alike p') (m : Nat) :
    ∃ n lag, lag ≤ 1 ∧ n + lag = m ∧ Abreast p p' start start' n lag := by
  induction m with
  | zero => exact ⟨0, 0, Nat.zero_le 1, rfl, h⟩
  | succ m ih =>
    obtain ⟨n, lag, hle, rfl, hn⟩ := ih
    obtain hnext | ⟨rfl, hahead⟩ := hn.next hp
    · exact ⟨n + 1, lag, hle, Nat.add_right_comm n 1 lag, hnext⟩
    · exact ⟨n, 1, le_rfl, rfl, hahead⟩

end Abreast

/-- Runs of the two programs on the same inputs agree, in both directions. -/
theorem agree_of_alike {text text' : String}
    (hp : (Program.ofText text).Alike (Program.ofText text')) (inputs : List String) :
    (∀ n, ∃ m, n ≤ m ∧ m ≤ n + 1 ∧ Agree (ofText text inputs) (ofText text' inputs) n m) ∧
      ∀ m, ∃ n, n ≤ m ∧ m ≤ n + 1 ∧ Agree (ofText text inputs) (ofText text' inputs) n m := by
  have hstart : Abreast (Program.ofText text) (Program.ofText text') (ofText text inputs)
      (ofText text' inputs) 0 0 :=
    ⟨rfl, ⟨_, _, rfl, rfl, .start text text' inputs⟩, fun hlag => absurd rfl hlag⟩
  refine ⟨fun n => ?_, fun m => ?_⟩
  · obtain ⟨lag, hle, hn⟩ := hstart.forward hp n
    exact ⟨n + lag, by omega, by omega, hn.agree⟩
  · obtain ⟨n, lag, hle, rfl, hn⟩ := hstart.backward hp m
    exact ⟨n, by omega, by omega, hn.agree⟩

end AccumulatorMachine.Driven
