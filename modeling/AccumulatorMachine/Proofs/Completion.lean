import AccumulatorMachine.Completion
import AccumulatorMachine.Proofs.Barrier.Pair
import AccumulatorMachine.Barrier.Crowd
import Mathlib.Data.List.Range
import Mathlib.Logic.Relation

/-! Any number of calls at one completion. The barrier behind it does not know the two sides apart:
calls pair up in the order in which they come, whichever side they are of, until somebody abandons
the completion. -/
namespace AccumulatorMachine.Completion

open Barrier (Sleeper Return pair)

inductive Role where
  | signaller
  | observer
  deriving DecidableEq, Repr

namespace Role

def other : Role → Role
  | .signaller => .observer
  | .observer => .signaller

def call : Role → Completion → Arrival × Completion
  | .signaller, c => c.signal
  | .observer, c => c.observe

theorem call_eq (role : Role) (c : Completion) : role.call c = Barrier.arrive c := by
  cases role <;> rfl

end Role

/-- A completion and the calls that have been made of it. A call is known by its place among them. -/
structure Gathering where
  completion : Completion := .new
  calls : List Role := []
  sleepers : List Sleeper := []
  returns : List Return := []
  /-- How many calls there had been when somebody first abandoned the completion. -/
  abandonedAt : Option Nat := none

namespace Gathering

def enter (g : Gathering) (role : Role) : Gathering :=
  match role.call g.completion with
  | (.done verdict, completion) =>
    { g with
      completion
      calls := g.calls ++ [role]
      returns := g.returns ++ [⟨g.calls.length, verdict⟩] }
  | (.blocked generation, completion) =>
    { g with
      completion
      calls := g.calls ++ [role]
      sleepers := g.sleepers ++ [⟨g.calls.length, generation⟩] }

def abandon (g : Gathering) : Gathering :=
  { g with
    completion := g.completion.abandon
    abandonedAt := some (g.abandonedAt.getD g.calls.length) }

/-- A new call, a sleeper that looks again, or somebody who abandons the completion. -/
inductive Step : Gathering → Gathering → Prop
  | enter (g : Gathering) (role : Role) : Step g (g.enter role)
  | wake {g : Gathering} {s : Sleeper} {verdict : Verdict} (hs : s ∈ g.sleepers)
      (h : Barrier.verdict? g.completion s.generation = some verdict) :
      Step g { g with
        sleepers := g.sleepers.erase s
        returns := g.returns ++ [⟨s.id, verdict⟩] }
  | abandon (g : Gathering) : Step g g.abandon

def Reachable (g : Gathering) : Prop := Relation.ReflTransGen Step {} g

/-- How many calls have been made before the completion was abandoned. -/
def counted (g : Gathering) : Nat := g.abandonedAt.getD g.calls.length

end Gathering

/-- The first call belongs to the second, the third to the fourth, and so on. -/
def partner (id : Nat) : Nat := if id % 2 = 0 then id + 1 else id - 1

theorem partner_ne (id : Nat) : partner id ≠ id := by
  unfold partner
  split <;> omega

namespace Gathering

/-- Both calls of a pair have been made before the completion was abandoned. -/
def Met (g : Gathering) (id : Nat) : Prop := id < g.counted ∧ partner id < g.counted

instance (g : Gathering) (id : Nat) : Decidable (g.Met id) :=
  inferInstanceAs (Decidable (_ ∧ _))

theorem met_iff {g : Gathering} {id : Nat} : g.Met id ↔ id / 2 < g.counted / 2 := by
  unfold Met partner
  split <;> omega

/-- The barrier goes through one generation for every pair. -/
def expected (g : Gathering) : Barrier :=
  match g.abandonedAt with
  | none => pair (g.calls.length % 2) (g.calls.length / 2)
  | some n => (pair (n % 2) (n / 2)).breakNow

structure Sound (g : Gathering) : Prop where
  completion : g.completion = g.expected
  counted_le : g.counted ≤ g.calls.length
  /-- Every call sleeps or has returned, and does so once. -/
  accounted : (g.sleepers.map Sleeper.id ++ g.returns.map Return.id).Perm (List.range g.calls.length)
  sleepers : ∀ s ∈ g.sleepers, s.id < g.counted ∧ s.id % 2 = 0 ∧ s.generation = s.id / 2
  passed : ∀ r ∈ g.returns, r.verdict = .passed → g.Met r.id
  broken : ∀ r ∈ g.returns, r.verdict = .broken → g.abandonedAt.isSome = true ∧ ¬ g.Met r.id

theorem sound_start : Sound {} where
  completion := rfl
  counted_le := Nat.le_refl 0
  accounted := List.Perm.refl _
  sleepers := fun _ hs => absurd hs List.not_mem_nil
  passed := fun _ hr => absurd hr List.not_mem_nil
  broken := fun _ hr => absurd hr List.not_mem_nil

/-! ### Calls -/

section Calls

variable {g : Gathering} {role : Role} {completion : Completion}

theorem enter_of_done {verdict : Verdict} (h : role.call g.completion = (.done verdict, completion)) :
    g.enter role =
      { g with
        completion
        calls := g.calls ++ [role]
        returns := g.returns ++ [⟨g.calls.length, verdict⟩] } := by
  simp only [enter, h]

theorem enter_of_blocked {generation : Nat}
    (h : role.call g.completion = (.blocked generation, completion)) :
    g.enter role =
      { g with
        completion
        calls := g.calls ++ [role]
        sleepers := g.sleepers ++ [⟨g.calls.length, generation⟩] } := by
  simp only [enter, h]

theorem calls_enter (g : Gathering) (role : Role) : (g.enter role).calls = g.calls ++ [role] := by
  unfold enter
  split <;> rfl

theorem abandonedAt_enter (g : Gathering) (role : Role) :
    (g.enter role).abandonedAt = g.abandonedAt := by
  unfold enter
  split <;> rfl

theorem Met.mono {g' : Gathering} {id : Nat} (h : g.Met id) (hle : g.counted ≤ g'.counted) :
    g'.Met id :=
  ⟨Nat.lt_of_lt_of_le h.1 hle, Nat.lt_of_lt_of_le h.2 hle⟩

theorem counted_of_open (h : g.abandonedAt = none) : g.counted = g.calls.length := by
  rw [counted, h, Option.getD_none]

theorem counted_enter_of_open (h : g.abandonedAt = none) (role : Role) :
    (g.enter role).counted = g.calls.length + 1 := by
  rw [counted_of_open ((g.abandonedAt_enter role).trans h), calls_enter, List.length_append,
    List.length_singleton]

theorem counted_of_abandoned {n : Nat} (h : g.abandonedAt = some n) : g.counted = n := by
  rw [counted, h, Option.getD_some]

namespace Sound

theorem accounted_returned (h : g.Sound) (verdict : Verdict) :
    (g.sleepers.map Sleeper.id ++ List.map Return.id (g.returns ++ [⟨g.calls.length, verdict⟩])).Perm
      (List.range (g.calls ++ [role]).length) := by
  rw [List.length_append, List.length_singleton, List.range_succ, List.map_append, ← List.append_assoc]
  exact h.accounted.append_right [g.calls.length]

theorem accounted_asleep (h : g.Sound) (generation : Nat) :
    (List.map Sleeper.id (g.sleepers ++ [⟨g.calls.length, generation⟩]) ++
      g.returns.map Return.id).Perm (List.range (g.calls ++ [role]).length) := by
  rw [List.length_append, List.length_singleton, List.range_succ, List.map_append, List.append_assoc]
  have hlast : ([g.calls.length] ++ g.returns.map Return.id).Perm
      (g.returns.map Return.id ++ [g.calls.length]) := List.perm_append_comm
  have hmoved := hlast.append_left (g.sleepers.map Sleeper.id)
  rw [← List.append_assoc _ (g.returns.map Return.id)] at hmoved
  exact hmoved.trans (h.accounted.append_right [g.calls.length])

/-- The first call of a pair falls asleep. -/
theorem enter_first (h : g.Sound) (hopen : g.abandonedAt = none) (heven : g.calls.length % 2 = 0)
    (role : Role) : (g.enter role).Sound := by
  have hcompletion : g.completion = pair 0 (g.calls.length / 2) := by
    rw [h.completion, expected, hopen, heven]
  have hcall : role.call g.completion =
      (.blocked (g.calls.length / 2), pair 1 (g.calls.length / 2)) := by
    rw [Role.call_eq, hcompletion, Barrier.arrive_pair_zero]
  have hcounted := counted_of_open hopen
  have hcounted' := counted_enter_of_open hopen role
  have hle : g.counted ≤ (g.enter role).counted := by omega
  rw [enter_of_blocked hcall] at hcounted' hle ⊢
  refine ⟨?_, ?_, h.accounted_asleep _, ?_, ?_, ?_⟩
  · have hmod : (g.calls.length + 1) % 2 = 1 := by omega
    have hdiv : (g.calls.length + 1) / 2 = g.calls.length / 2 := by omega
    simp [expected, hopen, hmod, hdiv]
  · rw [hcounted', List.length_append, List.length_singleton]
  · intro s hs
    rw [hcounted']
    rcases List.mem_append.mp hs with hs | hs
    · have hsleeper := h.sleepers s hs
      exact ⟨by omega, hsleeper.2⟩
    · rw [List.mem_singleton.mp hs]
      exact ⟨Nat.lt_succ_self _, heven, rfl⟩
  · exact fun r hr hv => (h.passed r hr hv).mono hle
  · intro r hr hv
    have habandoned := (h.broken r hr hv).1
    rw [hopen] at habandoned
    cases habandoned

/-- The second one wakes it and goes on. -/
theorem enter_second (h : g.Sound) (hopen : g.abandonedAt = none) (hodd : g.calls.length % 2 = 1)
    (role : Role) : (g.enter role).Sound := by
  have hcompletion : g.completion = pair 1 (g.calls.length / 2) := by
    rw [h.completion, expected, hopen, hodd]
  have hcall : role.call g.completion = (.done .passed, pair 0 (g.calls.length / 2 + 1)) := by
    rw [Role.call_eq, hcompletion, Barrier.arrive_pair_one]
  have hcounted := counted_of_open hopen
  have hcounted' := counted_enter_of_open hopen role
  have hle : g.counted ≤ (g.enter role).counted := by omega
  rw [enter_of_done hcall] at hcounted' hle ⊢
  refine ⟨?_, ?_, h.accounted_returned _, ?_, ?_, ?_⟩
  · have hmod : (g.calls.length + 1) % 2 = 0 := by omega
    have hdiv : (g.calls.length + 1) / 2 = g.calls.length / 2 + 1 := by omega
    simp [expected, hopen, hmod, hdiv]
  · rw [hcounted', List.length_append, List.length_singleton]
  · intro s hs
    have hsleeper := h.sleepers s hs
    exact ⟨by omega, hsleeper.2⟩
  · intro r hr hv
    rcases List.mem_append.mp hr with hr | hr
    · exact (h.passed r hr hv).mono hle
    · rw [List.mem_singleton.mp hr, met_iff, hcounted']
      show g.calls.length / 2 < (g.calls.length + 1) / 2
      omega
  · intro r hr hv
    rcases List.mem_append.mp hr with hr | hr
    · have habandoned := (h.broken r hr hv).1
      rw [hopen] at habandoned
      cases habandoned
    · rw [List.mem_singleton.mp hr] at hv
      cases hv

/-- Once the completion has been abandoned, a call is refused. -/
theorem enter_abandoned (h : g.Sound) {n : Nat} (habandoned : g.abandonedAt = some n) (role : Role) :
    (g.enter role).Sound := by
  have hcompletion : g.completion = (pair (n % 2) (n / 2)).breakNow := by
    rw [h.completion, expected, habandoned]
  have hcall : role.call g.completion = (.done .broken, g.completion) := by
    rw [Role.call_eq, hcompletion, Barrier.arrive, if_pos (Barrier.isBroken_breakNow _)]
  have hcounted := counted_of_abandoned habandoned
  have hcounted' := counted_of_abandoned ((g.abandonedAt_enter role).trans habandoned)
  have hle := h.counted_le
  rw [enter_of_done hcall] at hcounted' ⊢
  refine ⟨?_, ?_, h.accounted_returned _, ?_, ?_, ?_⟩
  · simp only [expected, habandoned, hcompletion]
  · rw [hcounted', List.length_append]
    omega
  · intro s hs
    have hsleeper := h.sleepers s hs
    exact ⟨by omega, hsleeper.2⟩
  · intro r hr hv
    rcases List.mem_append.mp hr with hr | hr
    · exact (h.passed r hr hv).mono (by omega)
    · rw [List.mem_singleton.mp hr] at hv
      cases hv
  · intro r hr hv
    refine ⟨by rw [habandoned]; rfl, ?_⟩
    rcases List.mem_append.mp hr with hr | hr
    · have hnot := (h.broken r hr hv).2
      rw [met_iff] at hnot ⊢
      omega
    -- the new call comes after those that count, even if its place is the second of a pair
    · rw [List.mem_singleton.mp hr, met_iff, hcounted']
      show ¬ g.calls.length / 2 < n / 2
      omega

theorem enter (h : g.Sound) (role : Role) : (g.enter role).Sound := by
  cases habandoned : g.abandonedAt with
  | some n => exact h.enter_abandoned habandoned role
  | none =>
    rcases Nat.mod_two_eq_zero_or_one g.calls.length with heven | hodd
    · exact h.enter_first habandoned heven role
    · exact h.enter_second habandoned hodd role

end Sound

end Calls

/-! ### Sleepers -/

namespace Sound

variable {g : Gathering}

/-- What a sleeper is told depends on its partner only. -/
theorem verdict?_eq (h : g.Sound) {s : Sleeper} (hs : s ∈ g.sleepers) :
    Barrier.verdict? g.completion s.generation =
      if g.Met s.id then some .passed else if g.abandonedAt.isSome then some .broken else none := by
  obtain ⟨hcounted, -, hgeneration⟩ := h.sleepers s hs
  rw [h.completion, hgeneration, expected]
  simp only [met_iff]
  cases habandoned : g.abandonedAt with
  | none =>
    rw [counted_of_open habandoned] at hcounted ⊢
    rw [Barrier.verdict?_pair]
    by_cases hmet : s.id / 2 < g.calls.length / 2
    · rw [if_neg (by omega), if_pos hmet]
    · rw [if_pos (by omega), if_neg hmet]
      rfl
  | some n =>
    rw [counted_of_abandoned habandoned] at hcounted ⊢
    by_cases hmet : s.id / 2 < n / 2
    -- the generation of the pair is over, so its sleeper is not told of the break
    · have hne : n / 2 ≠ s.id / 2 := by omega
      simp [Barrier.verdict?, Barrier.breakNow, pair, hmet, hne]
    · have heq : n / 2 = s.id / 2 := by omega
      simp [Barrier.verdict?, Barrier.breakNow, pair, heq]

theorem wake (h : g.Sound) {s : Sleeper} {verdict : Verdict} (hs : s ∈ g.sleepers)
    (hv : Barrier.verdict? g.completion s.generation = some verdict) :
    Sound { g with
      sleepers := g.sleepers.erase s
      returns := g.returns ++ [⟨s.id, verdict⟩] } := by
  rw [h.verdict?_eq hs] at hv
  refine ⟨h.completion, h.counted_le, ?_, ?_, ?_, ?_⟩
  · have hsleepers := ((List.perm_cons_erase hs).map Sleeper.id).append_right (g.returns.map Return.id)
    have hmoved : ([s.id] ++ ((g.sleepers.erase s).map Sleeper.id ++ g.returns.map Return.id)).Perm
        ((g.sleepers.erase s).map Sleeper.id ++ g.returns.map Return.id ++ [s.id]) :=
      List.perm_append_comm
    rw [List.map_append, ← List.append_assoc]
    exact (hsleepers.trans hmoved).symm.trans h.accounted
  · exact fun s' hs' => h.sleepers s' (List.mem_of_mem_erase hs')
  · intro r hr hpassed
    rcases List.mem_append.mp hr with hr | hr
    · exact h.passed r hr hpassed
    · rw [List.mem_singleton.mp hr] at hpassed ⊢
      subst hpassed
      show g.Met s.id
      by_contra hnot
      rw [if_neg hnot] at hv
      split at hv <;> cases hv
  · intro r hr hbroken
    rcases List.mem_append.mp hr with hr | hr
    · exact h.broken r hr hbroken
    · rw [List.mem_singleton.mp hr] at hbroken ⊢
      subst hbroken
      split at hv
      · cases hv
      · next hnot =>
        split at hv
        · next habandoned => exact ⟨habandoned, hnot⟩
        · cases hv

theorem abandon (h : g.Sound) : g.abandon.Sound := by
  -- whoever abandons the completion again does not change which calls count
  have hcounted : g.abandon.counted = g.counted := by
    cases habandoned : g.abandonedAt <;> simp [counted, Gathering.abandon, habandoned]
  have hmet : ∀ id, g.abandon.Met id ↔ g.Met id := by
    intro id
    rw [met_iff, met_iff, hcounted]
  refine ⟨?_, ?_, h.accounted, ?_, ?_, ?_⟩
  · show g.completion.breakNow = _
    rw [h.completion]
    cases habandoned : g.abandonedAt <;>
      simp [expected, Gathering.abandon, habandoned, Barrier.breakNow, pair]
  · rw [hcounted]
    exact h.counted_le
  · rw [hcounted]
    exact h.sleepers
  · exact fun r hr hv => (hmet r.id).mpr (h.passed r hr hv)
  · exact fun r hr hv => ⟨rfl, fun hnot => (h.broken r hr hv).2 ((hmet r.id).mp hnot)⟩

theorem step (h : g.Sound) {g' : Gathering} (hs : Step g g') : g'.Sound := by
  cases hs with
  | enter role => exact h.enter role
  | wake hs hv => exact h.wake hs hv
  | abandon => exact h.abandon

theorem of_reachable (h : g.Reachable) : g.Sound := by
  induction h with
  | refl => exact sound_start
  | tail _ hs ih => exact ih.step hs

/-- A call that has been made sleeps or has returned. -/
theorem asleep_or_returned (h : g.Sound) {id : Nat} (hid : id < g.calls.length) :
    (∃ s ∈ g.sleepers, s.id = id) ∨ ∃ r ∈ g.returns, r.id = id := by
  have hmem := h.accounted.mem_iff.mpr (List.mem_range.mpr hid)
  rw [List.mem_append, List.mem_map, List.mem_map] at hmem
  exact hmem

/-- A call that returns successfully has a partner, and if it is the only one of its side then the
partner is of the other side. -/
theorem other_called (h : g.Sound) {r : Return} (hr : r ∈ g.returns) (hpassed : r.verdict = .passed)
    {role : Role} (halone : ∀ id, g.calls[id]? = some role → id = r.id) :
    role.other ∈ g.calls := by
  have hpartner : partner r.id < g.calls.length :=
    Nat.lt_of_lt_of_le (h.passed r hr hpassed).2 h.counted_le
  have hrole : g.calls[partner r.id] ≠ role := by
    intro heq
    exact partner_ne r.id (halone _ (by rw [List.getElem?_eq_getElem hpartner, heq]))
  have hother : g.calls[partner r.id] = role.other := by
    generalize g.calls[partner r.id] = role' at hrole
    cases role <;> cases role' <;> first | rfl | exact absurd rfl hrole
  rw [← hother]
  exact List.getElem_mem hpartner

theorem passed_iff (h : g.Sound) {r : Return} (hr : r ∈ g.returns) :
    r.verdict = .passed ↔ g.Met r.id := by
  refine ⟨h.passed r hr, fun hmet => ?_⟩
  cases hverdict : r.verdict with
  | passed => rfl
  | broken => exact absurd hmet (h.broken r hr hverdict).2

theorem blocked_iff (h : g.Sound) {s : Sleeper} (hs : s ∈ g.sleepers) :
    Barrier.verdict? g.completion s.generation = none ↔ g.abandonedAt = none ∧ ¬ g.Met s.id := by
  rw [h.verdict?_eq hs]
  by_cases hmet : g.Met s.id
  · rw [if_pos hmet]
    exact iff_of_false nofun fun hnot => hnot.2 hmet
  · rw [if_neg hmet]
    cases g.abandonedAt with
    | none => exact iff_of_true rfl ⟨rfl, hmet⟩
    | some n => exact iff_of_false nofun fun hnot => nomatch hnot.1

/-- After the completion has been abandoned, a call whose partner had not come by then fails: it has
returned or, if it had been asleep, it returns when it looks again. -/
theorem refused (h : g.Sound) {n id : Nat} (habandoned : g.abandonedAt = some n)
    (hid : id < g.calls.length) (hnot : ¬ g.Met id) :
    ⟨id, .broken⟩ ∈ g.returns ∨
      id < n ∧ ∃ s ∈ g.sleepers, s.id = id ∧
        Barrier.verdict? g.completion s.generation = some .broken := by
  rcases h.asleep_or_returned hid with ⟨s, hs, rfl⟩ | ⟨r, hr, rfl⟩
  · right
    have hearly := (h.sleepers s hs).1
    rw [counted_of_abandoned habandoned] at hearly
    refine ⟨hearly, s, hs, rfl, ?_⟩
    rw [h.verdict?_eq hs, if_neg hnot, habandoned]
    rfl
  · left
    have hbroken : r.verdict = .broken := by
      cases hverdict : r.verdict with
      | passed => exact absurd (h.passed r hr hverdict) hnot
      | broken => rfl
    rw [← hbroken]
    exact hr

end Sound

/-- Which calls succeed, for any number of calls of both sides in any order: those whose partner in
the order of the calls came before the completion was abandoned. Its partner is of the other side if
the call is the only one of its own; a call blocks as long as neither has happened, and fails if the
completion is abandoned first. -/
theorem paired_in_order {g : Gathering} (h : g.Reachable) :
    (∀ r ∈ g.returns, r.verdict = .passed ↔ g.Met r.id) ∧
    (∀ r ∈ g.returns, r.verdict = .passed → ∀ role,
      (∀ id, g.calls[id]? = some role → id = r.id) → role.other ∈ g.calls) ∧
    (∀ s ∈ g.sleepers, Barrier.verdict? g.completion s.generation = none ↔
      g.abandonedAt = none ∧ ¬ g.Met s.id) ∧
    (∀ n, g.abandonedAt = some n → ∀ id < g.calls.length, ¬ g.Met id →
      ⟨id, .broken⟩ ∈ g.returns ∨
        id < n ∧ ∃ s ∈ g.sleepers, s.id = id ∧
          Barrier.verdict? g.completion s.generation = some .broken) := by
  have hsound := Sound.of_reachable h
  refine ⟨fun r hr => hsound.passed_iff hr, ?_, fun s hs => hsound.blocked_iff hs, ?_⟩
  · exact fun r hr hpassed role halone => hsound.other_called hr hpassed halone
  · exact fun n habandoned id hid hnot => hsound.refused habandoned hid hnot

/-- A run in which the first two calls meet and the third one is still asleep when the completion is
abandoned. -/
def forsaken : Gathering :=
  (((((({} : Gathering).enter .observer).enter .signaller).enter .observer).abandon).enter .signaller)

theorem forsaken_reachable : forsaken.Reachable :=
  ((((Relation.ReflTransGen.refl.tail (.enter _ .observer)).tail (.enter _ .signaller)).tail
    (.enter _ .observer)).tail (.abandon _)).tail (.enter _ .signaller)

theorem paired_in_order_forsaken :
    forsaken.Reachable ∧
    forsaken.returns = [⟨1, .passed⟩, ⟨3, .broken⟩] ∧
    forsaken.sleepers = [⟨0, 0⟩, ⟨2, 1⟩] ∧
    (∀ id < 4, ¬ forsaken.Met id →
      ⟨id, .broken⟩ ∈ forsaken.returns ∨
        id < 3 ∧ ∃ s ∈ forsaken.sleepers, s.id = id ∧
          Barrier.verdict? forsaken.completion s.generation = some .broken) :=
  ⟨forsaken_reachable, rfl, rfl, (paired_in_order forsaken_reachable).2.2.2 3 rfl⟩

/-- Two observers release each other without a signal. -/
def unsignalled : Gathering := (({} : Gathering).enter .observer).enter .observer

theorem unsignalled_reachable : unsignalled.Reachable :=
  (Relation.ReflTransGen.refl.tail (.enter _ .observer)).tail (.enter _ .observer)

theorem observers_meet_unsignalled :
    ¬ ∀ g : Gathering, g.Reachable → ∀ r ∈ g.returns, r.verdict = .passed →
      g.calls[r.id]? = some .observer → .signaller ∈ g.calls := by
  intro hclaim
  have hsignalled : Role.signaller ∈ unsignalled.calls :=
    hclaim unsignalled unsignalled_reachable ⟨1, .passed⟩ (List.mem_singleton.mpr rfl) rfl rfl
  revert hsignalled
  decide

end Gathering

end AccumulatorMachine.Completion
