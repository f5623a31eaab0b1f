import AccumulatorMachine.Proofs.Session.Roster

/-! The runs of a session exclude each other: when a run begins, those before it have done with the
machine and the console, and whoever is refused a run has not been there. -/
namespace AccumulatorMachine

/-- A run at its start is not done with the machine. -/
theorem Threads.canTouch_start (program : Program) (elapsed : Nat) :
    CanTouch { program, elapsed } := by
  refine ⟨_, .refl, .inl ?_⟩
  rintro ⟨next, hnext⟩
  -- its runner looks whether the machine is interrupted
  have hcalm := hnext {}
  have hinterrupted := hnext { machine := { interrupted := true } }
  cases next with
  | none => cases hcalm
  | some u =>
    have hfetching := congrArg (fun r : Run => r.runner) (Option.some.inj hcalm)
    have hreporting := congrArg (fun r : Run => r.runner) (Option.some.inj hinterrupted)
    cases hfetching.trans hreporting.symm

namespace Roster

/-- Of two runs the one that was accepted first has freed the session. -/
theorem Sound.hasFreed_of_lt {x : Roster} (h : x.Sound) {i j : Nat} (hij : i < j)
    (hj : j < x.entries.length) :
    ∃ t, x.entries[i]? = some (.running t) ∧ t.Joint ∧ t.hasFreed = true := by
  have hi : i < x.entries.length := Nat.lt_trans hij hj
  obtain ⟨e, he⟩ : ∃ e, x.entries[i]? = some e := ⟨_, List.getElem?_eq_getElem hi⟩
  have hfreed : e.hasFreed = true := by
    cases hf : e.hasFreed with
    | true => rfl
    | false =>
      have hlast := h.last i e he hf
      omega
  cases e with
  | opening => cases hfreed
  | running t => exact ⟨t, he, h.joint i t he, hfreed⟩

theorem step_refused_iff {x y : Roster} :
    Step x .refused y ↔ x.shared.active = true ∧ y = x := by
  constructor
  · intro h
    cases h with
    | refuse h => exact ⟨start?_eq_none_iff.mp h, rfl⟩
  · rintro ⟨hactive, rfl⟩
    have hbusy : Session.start? y.shared [] 0 = none := start?_eq_none_iff.mpr hactive
    exact .refuse hbusy

/-- The session goes the same way without those who are refused. -/
theorem Unfolds.without_refused {course : List Event} {x : Roster} (h : Unfolds course x) :
    Unfolds (course.filter (· ≠ .refused)) x := by
  induction h with
  | start => exact .start
  | @step course x y event _ hs ih =>
    rw [List.filter_append]
    by_cases hrefused : event = .refused
    · subst hrefused
      obtain ⟨-, rfl⟩ := step_refused_iff.mp hs
      simpa using ih
    · have hsingle : [event].filter (· ≠ .refused) = [event] := by simp [hrefused]
      rw [hsingle]
      exact ih.step hs

/-- Whoever asks for runs, and whenever, from within call backs too: once a run has been accepted,
neither the runner nor the printer of an earlier one touches the machine or the console any more, and
a run is refused only while another is active, which leaves the session as it is and goes unnoticed. -/
theorem runs_exclude_each_other {course : List Event} {x : Roster} (h : Unfolds course x) :
    (∀ i j, i < j → j < x.entries.length →
      ∃ t, x.entries[i]? = some (.running t) ∧ ¬ t.CanTouch) ∧
    (∀ y, Step x .refused y ↔ x.shared.active = true ∧ y = x) ∧
    Unfolds (course.filter (· ≠ .refused)) x := by
  refine ⟨?_, fun y => step_refused_iff, h.without_refused⟩
  intro i j hij hj
  obtain ⟨t, ht, hjoint, hfreed⟩ := (sound_of_unfolds h).hasFreed_of_lt hij hj
  exact ⟨t, ht, hjoint.not_canTouch hfreed⟩

/-- A second run is accepted while the finisher of the first calls back and its runner has yet to leave,
and somebody asks for a third. -/
def overlapping : List Event × Roster :=
  play (.ask ["HLT 0"] 0 :: turns 0 18 ++
    [.ask ["SET 1"] 0, .proceed 1 .runner, .ask [] 0]) ([], {})

theorem runs_exclude_each_other_overlapping :
    overlapping.2.entries[1]? = some (.opening ["SET 1"] 0 .mailbox) ∧
      .refused ∈ overlapping.1 ∧
      Unfolds (overlapping.1.filter (· ≠ .refused)) overlapping.2 ∧
      ∃ t, overlapping.2.entries[0]? = some (.running t) ∧ ¬ t.CanTouch := by
  have hsecond : overlapping.2.entries[1]? = some (.opening ["SET 1"] 0 .mailbox) := by
    decide +kernel
  have hlt : 1 < overlapping.2.entries.length := (List.getElem?_eq_some_iff.mp hsecond).1
  have hunfolds : Unfolds overlapping.1 overlapping.2 := Unfolds.play _ .start
  obtain ⟨hexclude, -, hwithout⟩ := runs_exclude_each_other hunfolds
  exact ⟨hsecond, by decide +kernel, hwithout, hexclude 0 1 (by decide) hlt⟩

end Roster

end AccumulatorMachine
