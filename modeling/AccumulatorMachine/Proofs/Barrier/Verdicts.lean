import Mathlib.Tactic.ByContra
import AccumulatorMachine.Proofs.Barrier.History

/-! What a wait is told when it looks again, however late that is. A barrier remembers one generation
that was spoiled, so a wait that looks only after a later one has been spoiled too is told that all
parties have arrived. -/
namespace AccumulatorMachine.Barrier

/-- With a wait in it, a generation is spoiled by a break and by a reset alike. -/
theorem spoiled_iff_of_counted {history : List Event} {id g : Nat}
    (h : .counted id g ∈ history) :
    Spoiled history g ↔ .broke g ∈ history ∨ .reset g ∈ history := by
  unfold Spoiled
  rw [and_iff_left (arrivals_pos h)]

theorem verdict?_eq_none_iff {b : Barrier} {g : Nat} :
    b.verdict? g = none ↔ b.broken ≠ some g ∧ b.generation = g := by
  unfold verdict?
  split
  · simp [*]
  · split <;> simp [*]

theorem verdict?_eq_broken_iff {b : Barrier} {g : Nat} :
    b.verdict? g = some .broken ↔ b.broken = some g := by
  unfold verdict?
  split
  · simp [*]
  · split <;> simp [*]

namespace Sound
variable {parties : Nat} {history : List Event} {c : Crowd} {id g : Nat}

theorem le_generation (h : Sound parties history c) (hc : .counted id g ∈ history) :
    g ≤ c.barrier.generation := by
  by_contra hlt
  have hnone := (h.future g (Nat.lt_of_not_le hlt)).arrivals
  have hpos := arrivals_pos hc
  rw [hnone] at hpos
  exact Nat.lt_irrefl 0 hpos

theorem not_full_current (h : Sound parties history c) :
    ¬ Full parties history c.barrier.generation :=
  Nat.ne_of_lt h.arrivals_lt

/-- No generation is both full and spoiled. -/
theorem not_full_and_spoiled (h : Sound parties history c) (hc : .counted id g ∈ history) :
    ¬ (Full parties history g ∧ Spoiled history g) := by
  rintro ⟨hfull, hspoiled⟩
  obtain heq | hlt := Nat.eq_or_lt_of_le (h.le_generation hc)
  · rw [heq] at hfull
    exact h.not_full_current hfull
  · obtain ⟨-, hnot⟩ | ⟨hnot, -⟩ := h.past g hlt
    · exact hnot hspoiled
    · exact hnot hfull

theorem full_or_spoiled (h : Sound parties history c) (hc : .counted id g ∈ history)
    (hlt : g < c.barrier.generation) : Full parties history g ∨ Spoiled history g := by
  obtain ⟨hfull, -⟩ | ⟨-, hends⟩ := h.past g hlt
  · exact .inl hfull
  · exact .inr ((spoiled_iff_of_counted hc).mpr hends)

/-- A wait sleeps on as long as nothing has happened to its generation. -/
theorem sleeps_on_iff (h : Sound parties history c) (hc : .counted id g ∈ history) :
    c.barrier.verdict? g = none ↔ ¬ Full parties history g ∧ ¬ Spoiled history g := by
  rw [verdict?_eq_none_iff]
  constructor
  · rintro ⟨hbroken, rfl⟩
    refine ⟨h.not_full_current, fun hspoiled => hbroken ?_⟩
    rw [h.broken]
    exact ⟨hspoiled, h.not_forgotten_current⟩
  · rintro ⟨hfull, hspoiled⟩
    constructor
    · rw [Ne, h.broken]
      exact fun hb => hspoiled hb.1
    · obtain heq | hlt := Nat.eq_or_lt_of_le (h.le_generation hc)
      · exact heq.symm
      · exact absurd (h.full_or_spoiled hc hlt) (not_or.mpr ⟨hfull, hspoiled⟩)

theorem told_broken_iff (h : Sound parties history c) :
    c.barrier.verdict? g = some .broken ↔ Spoiled history g ∧ ¬ Forgotten history g := by
  rw [verdict?_eq_broken_iff, h.broken]

theorem told_passed_iff (h : Sound parties history c) (hc : .counted id g ∈ history) :
    c.barrier.verdict? g = some .passed ↔
      Full parties history g ∨ Spoiled history g ∧ Forgotten history g := by
  have hnone := h.sleeps_on_iff hc
  have hbroken := h.told_broken_iff (g := g)
  have hboth := h.not_full_and_spoiled hc
  cases hv : c.barrier.verdict? g with
  | none =>
    have := hnone.mp hv
    simp [this.1, this.2]
  | some v =>
    cases v with
    | passed =>
      rw [hv] at hnone hbroken
      have hsome : Full parties history g ∨ Spoiled history g := by
        by_contra hneither
        exact absurd (hnone.mpr (not_or.mp hneither)) (by simp)
      have hforgotten : Spoiled history g → Forgotten history g := by
        intro hs
        by_contra hnot
        exact absurd (hbroken.mpr ⟨hs, hnot⟩) (by simp)
      simp only [true_iff]
      exact hsome.imp_right fun hs => ⟨hs, hforgotten hs⟩
    | broken =>
      obtain ⟨hspoiled, hnot⟩ := hbroken.mp hv
      have hfull : ¬ Full parties history g := fun hfull => hboth ⟨hfull, hspoiled⟩
      simp [hfull, hnot]

end Sound

/-- What a wait that comes back was counted in, and what the barrier tells it afterwards still. -/
theorem Step.returned {c d : Crowd} {events : List Event} (h : Step c events d) {id g : Nat}
    {v : Verdict} (hr : .returned id g v ∈ events) :
    (⟨id, g⟩ ∈ c.sleepers ∨ .counted id g ∈ events) ∧ d.barrier.verdict? g = some v := by
  cases h with
  | trip k ha =>
    obtain ⟨hb, -, rfl⟩ := of_arrive_passed ha
    obtain ⟨rfl, rfl, rfl⟩ : id = k ∧ g = c.barrier.generation ∧ v = .passed := by
      simpa using hr
    refine ⟨.inr (by simp), ?_⟩
    have hbroken : c.barrier.broken ≠ some c.barrier.generation := by
      simpa [isBroken] using hb
    simp [verdict?, hbroken]
  | @wake s w hs hv =>
    obtain ⟨rfl, rfl, rfl⟩ : id = s.id ∧ g = s.generation ∧ v = w := by simpa using hr
    exact ⟨.inl hs, hv⟩
  | _ => simp at hr

/-- However late a wait looks again, it comes back if and only if its generation has ended for it.
It is told that all parties have arrived if they have, and that the barrier was broken if its
generation was broken or reset and no later one has been since. -/
theorem verdict_unless_forgotten {parties : Nat} {history : List Event} {c : Crowd}
    (h : Unfolds parties history c) :
    (∀ s ∈ c.sleepers, .counted s.id s.generation ∈ history ∧
      (c.barrier.verdict? s.generation = none ↔
        ¬ Full parties history s.generation ∧
          ¬ (.broke s.generation ∈ history ∨ .reset s.generation ∈ history))) ∧
    ∀ events d, Step c events d → ∀ id g v, .returned id g v ∈ events →
      let past := history ++ events
      .counted id g ∈ past ∧
        (v = .passed ↔ Full parties past g ∨
          (.broke g ∈ past ∨ .reset g ∈ past) ∧ Forgotten past g) ∧
        (v = .broken ↔ (.broke g ∈ past ∨ .reset g ∈ past) ∧ ¬ Forgotten past g) ∧
        ¬ (Full parties past g ∧ (.broke g ∈ past ∨ .reset g ∈ past)) := by
  have hc := sound_of_unfolds h
  constructor
  · intro s hs
    have hcounted := hc.sleepers s hs
    refine ⟨hcounted, ?_⟩
    rw [hc.sleeps_on_iff hcounted, spoiled_iff_of_counted hcounted]
  · intro events d hd id g v hr past
    have hsound : Sound parties past d := hc.step hd
    obtain ⟨hfrom, hv⟩ := hd.returned hr
    have hcounted : .counted id g ∈ past := by
      obtain hs | hs := hfrom
      · exact List.mem_append_left _ (hc.sleepers _ hs)
      · exact List.mem_append_right _ hs
    have hpassed := hsound.told_passed_iff hcounted
    have hbroken := hsound.told_broken_iff (g := g)
    have hboth := hsound.not_full_and_spoiled hcounted
    rw [hv, Option.some_inj] at hpassed hbroken
    rw [spoiled_iff_of_counted hcounted] at hpassed hbroken hboth
    exact ⟨hcounted, hpassed, hbroken, hboth⟩

/-- A wait sleeps in generation 0, which is reset; generation 1 is broken before the wait looks. -/
def overtaken : List Event := [.counted 0 0, .reset 0, .broke 1]

theorem unfolds_overtaken :
    Unfolds 2 overtaken
      { barrier := { parties := 2, generation := 1, broken := some 1 }, sleepers := [⟨0, 0⟩] } := by
  have hslept : Unfolds 2 [.counted 0 0]
      { barrier := { parties := 2, waiting := 1 }, sleepers := [⟨0, 0⟩] } :=
    Unfolds.step .start (.sleep 0 rfl)
  have hreset : Unfolds 2 [.counted 0 0, .reset 0]
      { barrier := { parties := 2, generation := 1, broken := some 0 }, sleepers := [⟨0, 0⟩] } :=
    hslept.step (.reset _)
  exact hreset.step (.breakNow _)

theorem wakes_overtaken :
    Step { barrier := { parties := 2, generation := 1, broken := some 1 }, sleepers := [⟨0, 0⟩] }
      [.returned 0 0 .passed]
      { barrier := { parties := 2, generation := 1, broken := some 1 }, sleepers := [] } :=
  .wake (s := ⟨0, 0⟩) (List.mem_singleton_self _) rfl

theorem verdict_unless_forgotten_overtaken :
    Unfolds 2 overtaken
      { barrier := { parties := 2, generation := 1, broken := some 1 }, sleepers := [⟨0, 0⟩] } ∧
    .counted 0 0 ∈ overtaken ++ [.returned 0 0 .passed] ∧
    Forgotten (overtaken ++ [.returned 0 0 .passed]) 0 := by
  obtain ⟨-, hreturns⟩ := verdict_unless_forgotten unfolds_overtaken
  obtain ⟨hcounted, hpassed, -, -⟩ := hreturns _ _ wakes_overtaken 0 0 .passed
    (List.mem_singleton_self _)
  refine ⟨unfolds_overtaken, hcounted, ?_⟩
  obtain hfull | ⟨-, hforgotten⟩ := hpassed.mp rfl
  · exact absurd hfull (by decide)
  · exact hforgotten

/-- A wait of a generation that was reset can be told that all parties have arrived. -/
theorem passed_after_reset :
    ¬ ∀ (parties : Nat) (history events : List Event) (c d : Crowd),
      Unfolds parties history c → Step c events d → ∀ id g v, .returned id g v ∈ events →
      (v = .passed ↔ Full parties (history ++ events) g) ∧
        (v = .broken ↔ .broke g ∈ history ++ events ∨ .reset g ∈ history ++ events) := by
  intro h
  obtain ⟨hpassed, -⟩ := h 2 overtaken _ _ _ unfolds_overtaken wakes_overtaken 0 0 .passed
    (List.mem_singleton_self _)
  exact absurd (hpassed.mp rfl) (by decide)

end AccumulatorMachine.Barrier
