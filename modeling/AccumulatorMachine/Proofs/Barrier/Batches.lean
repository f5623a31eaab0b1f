import AccumulatorMachine.Proofs.Barrier.History
import AccumulatorMachine.Proofs.Since
import Mathlib.Data.List.Induction

/-! A barrier that is called only when everybody has come back whom it has released. It is a gate then:
waits are held back until all parties have come and go on together, unless somebody breaks or resets
the barrier. -/
namespace AccumulatorMachine.Barrier

inductive Call where
  | wait
  | breakNow
  | reset
  deriving DecidableEq, Repr

/-! ### Calls one after the other -/

namespace Crowd

/-- What a call comes to, with all who return before the next one is made. A wait that does not sleep
returns in any order with those whom it releases. -/
inductive Answers (c : Crowd) (id : Nat) : Call → List Return → Crowd → Prop
  | done {b : Barrier} {d : Crowd} {verdict : Verdict} {released returned : List Return}
      (h : c.barrier.arrive = (.done verdict, b)) (hd : Settles { c with barrier := b } released d)
      (hreturned : returned.Perm (released ++ [⟨id, verdict⟩])) : Answers c id .wait returned d
  | blocked {b : Barrier} {g : Nat} (h : c.barrier.arrive = (.blocked g, b)) :
      Answers c id .wait [] { barrier := b, sleepers := c.sleepers ++ [⟨id, g⟩] }
  | breakNow {d : Crowd} {returned : List Return}
      (hd : Settles { c with barrier := c.barrier.breakNow } returned d) :
      Answers c id .breakNow returned d
  | reset {d : Crowd} {returned : List Return}
      (hd : Settles { c with barrier := c.barrier.reset } returned d) :
      Answers c id .reset returned d

/-- The answer in which the sleepers return in the order in which they came. -/
def call (id : Nat) (c : Crowd) : Call → List Return × Crowd
  | .wait => c.wait id
  | .breakNow => c.breakNow
  | .reset => c.reset

theorem answers_call (id : Nat) (c : Crowd) (call : Call) :
    c.Answers id call (c.call id call).1 (c.call id call).2 := by
  cases call with
  | wait =>
    rw [Crowd.call, wait]
    split
    · next h => exact .done h (settles_wake _) (List.Perm.refl _)
    · next h => exact .blocked h
  | breakNow => exact .breakNow (settles_wake _)
  | reset => exact .reset (settles_wake _)

end Crowd

/-- Calls one after the other at a barrier for so many parties, all who have come back, and what is
there then. A wait is known by its place among the calls. -/
inductive Serves (parties : Nat) : List Call → List Return → Crowd → Prop
  | start : Serves parties [] [] (.ofParties parties)
  | call {calls : List Call} {call : Call} {past returned : List Return} {c d : Crowd}
      (h : Serves parties calls past c) (ha : c.Answers calls.length call returned d) :
      Serves parties (calls ++ [call]) (past ++ returned) d

/-! ### Gates -/

/-- These waits return, all with the same verdict. -/
def together (verdict : Verdict) (ids : List Nat) : List Return := ids.map (⟨·, verdict⟩)

@[simp] theorem map_id_together (verdict : Verdict) (ids : List Nat) :
    (together verdict ids).map Return.id = ids := by
  simp [together, Function.comp_def]

theorem verdict_of_mem_together {verdict : Verdict} {ids : List Nat} {r : Return}
    (h : r ∈ together verdict ids) : r.verdict = verdict := by
  obtain ⟨id, -, rfl⟩ := List.mem_map.mp h
  rfl

/-- The waits that are held back, in the order in which they came, and whether the gate is broken. -/
structure Gate where
  blocked : List Nat := []
  broken : Bool := false
  deriving DecidableEq, Repr

namespace Gate

def call (parties id : Nat) (g : Gate) : Call → List Return × Gate
  | .wait =>
    if g.broken then ([⟨id, .broken⟩], g)
    else if g.blocked.length + 1 = max parties 1 then
      (together .passed (g.blocked ++ [id]), { g with blocked := [] })
    else ([], { g with blocked := g.blocked ++ [id] })
  | .breakNow => (together .broken g.blocked, { blocked := [], broken := true })
  | .reset => (together .broken g.blocked, { blocked := [], broken := false })

/-- What a call at a gate comes to. -/
inductive Does (parties id : Nat) (g : Gate) : Call → List Return → Gate → Prop
  | refuse (hbroken : g.broken = true) : Does parties id g .wait [⟨id, .broken⟩] g
  | release (hbroken : g.broken = false) (hfull : g.blocked.length + 1 = max parties 1) :
      Does parties id g .wait (together .passed (g.blocked ++ [id])) { g with blocked := [] }
  | hold (hbroken : g.broken = false) (hroom : g.blocked.length + 1 ≠ max parties 1) :
      Does parties id g .wait [] { g with blocked := g.blocked ++ [id] }
  | breakNow :
      Does parties id g .breakNow (together .broken g.blocked) { blocked := [], broken := true }
  | reset :
      Does parties id g .reset (together .broken g.blocked) { blocked := [], broken := false }

theorem does_call (parties id : Nat) (g : Gate) (call : Call) :
    g.Does parties id call (g.call parties id call).1 (g.call parties id call).2 := by
  cases call with
  | wait =>
    rw [Gate.call]
    split
    · next hbroken => exact .refuse hbroken
    · next hbroken =>
      split
      · next hfull => exact .release (Bool.eq_false_iff.mpr hbroken) hfull
      · next hroom => exact .hold (Bool.eq_false_iff.mpr hbroken) hroom
  | breakNow => exact .breakNow
  | reset => exact .reset

/-- The gate after some calls, of which each is known by its place. -/
def after (parties : Nat) (calls : List Call) : Gate :=
  calls.zipIdx.foldl (fun g (call, id) => (g.call parties id call).2) {}

theorem after_concat (parties : Nat) (calls : List Call) (call : Call) :
    after parties (calls ++ [call]) =
      ((after parties calls).call parties calls.length call).2 := by
  simp [after, List.zipIdx_append]

end Gate

/-! ### What calls say of a gate -/

/-- The last calls are these, and all of them are waits. -/
def LastWaits (calls : List Call) (ids : List Nat) : Prop :=
  ∃ before, calls = before ++ List.replicate ids.length .wait ∧
    ids = List.range' before.length ids.length

theorem lastWaits_nil (calls : List Call) : LastWaits calls [] := ⟨calls, by simp, rfl⟩

theorem LastWaits.concat {calls : List Call} {ids : List Nat} (h : LastWaits calls ids) :
    LastWaits (calls ++ [.wait]) (ids ++ [calls.length]) := by
  obtain ⟨before, hcalls, hids⟩ := h
  have hlength : calls.length = before.length + ids.length := by
    rw [hcalls, List.length_append, List.length_replicate]
  refine ⟨before, ?_, ?_⟩
  · rw [List.length_append, List.length_singleton, List.replicate_succ', ← List.append_assoc, ← hcalls]
  · rw [List.length_append, List.length_singleton, List.range'_concat, ← hids, hlength, Nat.one_mul]

theorem LastWaits.nodup {calls : List Call} {ids : List Nat} (h : LastWaits calls ids) : ids.Nodup := by
  obtain ⟨before, -, hids⟩ := h
  rw [hids]
  exact List.nodup_range'

/-- The places of the waits among some calls. -/
def waits (calls : List Call) : List Nat :=
  (List.range calls.length).filter fun id => calls[id]? = some .wait

theorem waits_concat (calls : List Call) (call : Call) :
    waits (calls ++ [call]) = waits calls ++ if call = .wait then [calls.length] else [] := by
  have hbefore : ∀ id ∈ List.range calls.length,
      decide ((calls ++ [call])[id]? = some .wait) = decide (calls[id]? = some .wait) := by
    intro id hid
    rw [List.getElem?_append_left (List.mem_range.mp hid)]
  unfold waits
  rw [List.length_append, List.length_singleton, List.range_succ, List.filter_append,
    List.filter_congr hbefore]
  simp [List.filter_singleton]

namespace Gate
variable {parties id : Nat} {calls : List Call} {call : Call} {returned : List Return} {g g' : Gate}

/-- What a gate is like after some calls. -/
structure Sound (parties : Nat) (calls : List Call) (g : Gate) : Prop where
  lt : g.blocked.length < max parties 1
  idle : g.broken = true → g.blocked = []
  last : LastWaits calls g.blocked
  broken_iff : g.broken = true ↔ Since (· = .breakNow) (· ≠ .reset) calls

theorem Sound.does (h : Sound parties calls g)
    (hd : g.Does parties calls.length call returned g') : Sound parties (calls ++ [call]) g' := by
  have hpos : 0 < max parties 1 := Nat.lt_of_lt_of_le Nat.one_pos (Nat.le_max_right parties 1)
  cases hd with
  | refuse hbroken =>
    have hidle := h.idle hbroken
    refine ⟨h.lt, h.idle, ?_, ?_⟩
    · rw [hidle]
      exact lastWaits_nil _
    · simpa [since_concat] using h.broken_iff
  | release hbroken hfull =>
    refine ⟨hpos, fun _ => rfl, lastWaits_nil _, ?_⟩
    simpa [since_concat] using h.broken_iff
  | hold hbroken hroom =>
    refine ⟨?_, ?_, h.last.concat, ?_⟩
    · have hlt := h.lt
      rw [List.length_append, List.length_singleton]
      omega
    · intro hnot
      cases hbroken.symm.trans hnot
    · simpa [since_concat] using h.broken_iff
  | breakNow => exact ⟨hpos, fun _ => rfl, lastWaits_nil _, by simp [since_concat]⟩
  | reset => exact ⟨hpos, fun _ => rfl, lastWaits_nil _, by simp [since_concat]⟩

theorem sound_after (parties : Nat) (calls : List Call) :
    Sound parties calls (after parties calls) := by
  induction calls using List.reverseRecOn with
  | nil =>
    refine ⟨?_, fun _ => rfl, lastWaits_nil _, ?_⟩
    · show 0 < max parties 1
      omega
    · exact iff_of_false Bool.false_ne_true not_since_nil
  | append_singleton calls call ih =>
    rw [after_concat]
    exact ih.does (does_call parties calls.length _ call)

/-- Whoever was held back or has come either returns or is held back. -/
theorem Does.accounted (h : g.Does parties id call returned g') :
    (returned.map Return.id ++ g'.blocked).Perm (g.blocked ++ if call = .wait then [id] else []) := by
  cases h with
  | refuse => exact List.perm_append_comm
  | release | hold | breakNow | reset => simp

/-- Waits go on together, and only if they are the last calls and as many as there are parties. -/
theorem Does.passed (h : g.Does parties calls.length call returned g') (hg : Sound parties calls g)
    {r : Return} (hr : r ∈ returned) (hpassed : r.verdict = .passed) :
    ∃ ids, returned = together .passed ids ∧ ids.length = max parties 1 ∧
      LastWaits (calls ++ [call]) ids := by
  cases h with
  | refuse =>
    rw [List.mem_singleton.mp hr] at hpassed
    cases hpassed
  | release _ hfull => exact ⟨_, rfl, by simpa using hfull, hg.last.concat⟩
  | hold => cases hr
  | breakNow | reset => cases hpassed.symm.trans (verdict_of_mem_together hr)

end Gate

/-! ### A barrier is a gate -/

section
variable {parties id : Nat} {call : Call} {returned : List Return} {c d : Crowd} {g : Gate}

theorem Crowd.Settles.of_held (h : c.Settles returned d)
    (hheld : ∀ s ∈ c.sleepers, c.barrier.verdict? s.generation = none) : returned = [] ∧ d = c := by
  cases h with
  | quiet => exact ⟨rfl, rfl⟩
  | wake hs hv => cases (hheld _ hs).symm.trans hv

/-- If the barrier has released all sleepers, they all return, with the same verdict. -/
theorem Crowd.Settles.of_released {verdict : Verdict} (h : c.Settles returned d)
    (hreleased : ∀ s ∈ c.sleepers, c.barrier.verdict? s.generation = some verdict) :
    returned.Perm (together verdict (c.sleepers.map Sleeper.id)) ∧ d = { c with sleepers := [] } := by
  induction h with
  | @quiet c hheld =>
    have hnobody : c.sleepers = [] := by
      refine List.eq_nil_iff_forall_not_mem.mpr fun s hs => ?_
      cases (hheld s hs).symm.trans (hreleased s hs)
    obtain ⟨barrier, sleepers⟩ := c
    subst hnobody
    exact ⟨List.Perm.nil, rfl⟩
  | @wake c d s v returned hs hv _ ih =>
    obtain rfl : v = verdict := Option.some.inj (hv.symm.trans (hreleased s hs))
    obtain ⟨hreturned, hd⟩ := ih fun s' hs' => hreleased s' (List.mem_of_mem_erase hs')
    have hsleepers := ((List.perm_cons_erase hs).map Sleeper.id).map (Return.mk · v)
    exact ⟨(hreturned.cons _).trans hsleepers.symm, hd⟩

/-- A crowd is what the gate says, and all sleepers have come in the current generation. -/
structure Matches (parties : Nat) (c : Crowd) (g : Gate) : Prop where
  parties : c.barrier.parties = max parties 1
  waiting : c.barrier.waiting = g.blocked.length
  broken : c.barrier.isBroken = g.broken
  sleepers : c.sleepers = g.blocked.map (⟨·, c.barrier.generation⟩)
  past : ∀ k, c.barrier.broken = some k → k ≤ c.barrier.generation

namespace Matches

theorem start (parties : Nat) : Matches parties (.ofParties parties) {} :=
  ⟨rfl, rfl, rfl, rfl, nofun⟩

theorem ids (h : Matches parties c g) : c.sleepers.map Sleeper.id = g.blocked := by
  rw [h.sleepers, List.map_map]
  exact List.map_id g.blocked

theorem generation (h : Matches parties c g) {s : Sleeper} (hs : s ∈ c.sleepers) :
    s.generation = c.barrier.generation := by
  rw [h.sleepers] at hs
  obtain ⟨id, -, rfl⟩ := List.mem_map.mp hs
  rfl

theorem waiting_pos (h : Matches parties c g) {s : Sleeper} (hs : s ∈ c.sleepers) :
    0 < c.barrier.waiting := by
  rw [h.waiting, ← h.ids, List.length_map]
  exact List.length_pos_of_mem hs

/-- A barrier that lets its sleepers go begins anew. -/
theorem emptied (h : Matches parties c g) {b : Barrier} {verdict : Verdict}
    (hd : Crowd.Settles { c with barrier := b } returned d)
    (hparties : b.parties = c.barrier.parties) (hwaiting : b.waiting = 0)
    (hpast : ∀ k, b.broken = some k → k ≤ b.generation)
    (htold : 0 < c.barrier.waiting → b.verdict? c.barrier.generation = some verdict) :
    Matches parties d { blocked := [], broken := b.isBroken } ∧
      returned.Perm (together verdict g.blocked) := by
  have hreleased : ∀ s ∈ c.sleepers, b.verdict? s.generation = some verdict := by
    intro s hs
    rw [h.generation hs]
    exact htold (h.waiting_pos hs)
  obtain ⟨hreturned, rfl⟩ := hd.of_released hreleased
  rw [h.ids] at hreturned
  exact ⟨⟨hparties.trans h.parties, hwaiting, rfl, rfl, hpast⟩, hreturned⟩

/-- No generation is broken before it has begun. -/
theorem next (h : Matches parties c g) {b : Barrier} {verdict : Verdict}
    (hd : Crowd.Settles { c with barrier := b } returned d)
    (hparties : b.parties = c.barrier.parties) (hwaiting : b.waiting = 0)
    (hgeneration : b.generation = c.barrier.generation + 1)
    (hpast : ∀ k, b.broken = some k → k ≤ c.barrier.generation)
    (htold : 0 < c.barrier.waiting → b.verdict? c.barrier.generation = some verdict) :
    Matches parties d { blocked := [], broken := false } ∧
      returned.Perm (together verdict g.blocked) := by
  have hwhole : b.isBroken = false := by
    rw [isBroken, beq_eq_false_iff_ne, hgeneration]
    exact fun hbroken => Nat.not_succ_le_self _ (hpast _ hbroken)
  have hpast' : ∀ k, b.broken = some k → k ≤ b.generation := by
    intro k hk
    rw [hgeneration]
    exact Nat.le_succ_of_le (hpast k hk)
  have hemptied := h.emptied hd hparties hwaiting hpast' htold
  rwa [hwhole] at hemptied

theorem release (h : Matches parties c g) {b : Barrier}
    (ha : c.barrier.arrive = (.done .passed, b))
    (hd : Crowd.Settles { c with barrier := b } returned d) :
    Matches parties d { blocked := [], broken := false } ∧
      returned.Perm (together .passed g.blocked) := by
  obtain ⟨hb, -, rfl⟩ := of_arrive_passed ha
  have hnot : c.barrier.broken ≠ some c.barrier.generation := by simpa [isBroken] using hb
  exact h.next hd rfl rfl rfl h.past fun _ => by simp [verdict?, hnot]

theorem reset (h : Matches parties c g)
    (hd : Crowd.Settles { c with barrier := c.barrier.reset } returned d) :
    Matches parties d { blocked := [], broken := false } ∧
      returned.Perm (together .broken g.blocked) := by
  refine h.next hd rfl rfl rfl ?_ fun hwaiting => by simp [Barrier.reset, verdict?, hwaiting]
  intro k hk
  by_cases hwaiting : 0 < c.barrier.waiting
  · have hnow : c.barrier.generation = k := by simpa [Barrier.reset, hwaiting] using hk
    exact Nat.le_of_eq hnow.symm
  · exact h.past k (by simpa [Barrier.reset, hwaiting] using hk)

theorem breakNow (h : Matches parties c g)
    (hd : Crowd.Settles { c with barrier := c.barrier.breakNow } returned d) :
    Matches parties d { blocked := [], broken := true } ∧
      returned.Perm (together .broken g.blocked) := by
  have hpast : ∀ k, c.barrier.breakNow.broken = some k → k ≤ c.barrier.generation := by
    rintro k ⟨⟩
    exact Nat.le_refl _
  have hemptied := h.emptied hd rfl rfl hpast fun _ => verdict?_breakNow c.barrier
  rwa [isBroken_breakNow] at hemptied

theorem hold (h : Matches parties c g) {b : Barrier} {k : Nat}
    (ha : c.barrier.arrive = (.blocked k, b)) :
    Matches parties { barrier := b, sleepers := c.sleepers ++ [⟨id, k⟩] }
      { g with blocked := g.blocked ++ [id] } := by
  obtain ⟨-, -, rfl, rfl⟩ := of_arrive_blocked ha
  refine ⟨h.parties, ?_, h.broken, ?_, h.past⟩
  · rw [List.length_append, ← h.waiting]
    rfl
  · rw [h.sleepers, List.map_append]
    rfl

/-- Whoever returns, and in whatever order, the gate has let go. -/
theorem answers (h : Matches parties c g) (hidle : g.broken = true → g.blocked = [])
    (ha : c.Answers id call returned d) :
    Matches parties d (g.call parties id call).2 ∧ returned.Perm (g.call parties id call).1 := by
  cases ha with
  | @done b d verdict released returned harrive hd hreturned =>
    cases verdict with
    | broken =>
      obtain ⟨hb, rfl⟩ := of_arrive_refused harrive
      have hbroken : g.broken = true := h.broken.symm.trans hb
      have hnobody : c.sleepers = [] := by rw [h.sleepers, hidle hbroken, List.map_nil]
      obtain ⟨rfl, rfl⟩ := hd.of_held (by simp [hnobody])
      rw [Gate.call, if_pos hbroken]
      exact ⟨h, hreturned⟩
    | passed =>
      obtain ⟨hb, hfull, -⟩ := of_arrive_passed harrive
      rw [h.broken] at hb
      rw [h.waiting, h.parties] at hfull
      obtain ⟨hmatches, hreleased⟩ := h.release harrive hd
      have hreturns := hreleased.append_right [⟨id, .passed⟩]
      rw [Gate.call, if_neg (by simp [hb]), if_pos hfull, hb]
      exact ⟨hmatches, hreturned.trans (by simpa [together] using hreturns)⟩
  | blocked harrive =>
    obtain ⟨hb, hroom, -, -⟩ := of_arrive_blocked harrive
    rw [h.broken] at hb
    rw [h.waiting, h.parties] at hroom
    rw [Gate.call, if_neg (by simp [hb]), if_neg hroom]
    exact ⟨h.hold harrive, List.Perm.nil⟩
  | breakNow hd => exact h.breakNow hd
  | reset hd => exact h.reset hd

end Matches

end

/-! ### Any number of calls -/

namespace Serves
variable {parties : Nat} {calls : List Call} {past : List Return} {c : Crowd}

theorem matches_gate (h : Serves parties calls past c) :
    Matches parties c (Gate.after parties calls) := by
  induction h with
  | start => exact .start parties
  | @call calls call _ _ c d _ ha ih =>
    rw [Gate.after_concat]
    exact (ih.answers (Gate.sound_after parties calls).idle ha).1

theorem accounted (h : Serves parties calls past c) :
    (past.map Return.id ++ (Gate.after parties calls).blocked).Perm (waits calls) := by
  induction h with
  | start => exact List.Perm.nil
  | @call calls call past returned c d hcalls ha ih =>
    have hidle := (Gate.sound_after parties calls).idle
    have hreturned := (hcalls.matches_gate.answers hidle ha).2.map Return.id
    have haccounted := (Gate.does_call parties calls.length (Gate.after parties calls) call).accounted
    rw [Gate.after_concat, waits_concat, List.map_append, List.append_assoc]
    have hnew := ih.append_right (if call = .wait then [calls.length] else [])
    rw [List.append_assoc] at hnew
    exact (((hreturned.append_right _).trans haccounted).append_left _).trans hnew

end Serves

/-- A barrier, if nobody calls it before all have come back whom it has released, is the gate that holds
back the waits in a list and is broken or not. It counts the waits that are held back, of which there
are fewer than parties. Every wait is held back or has come back once. The gate is broken when it has
been, and has not been reset since. Waits that pass come back together: they are the last calls, as
many as there are parties, with no break or reset between them. A break or a reset refuses all waits
that are held back and nobody else, and a wait at a broken gate is refused at once. -/
theorem returns_in_batches {parties : Nat} {calls : List Call} {past : List Return} {c : Crowd}
    (h : Serves parties calls past c) :
    let g := Gate.after parties calls
    (c.sleepers.map Sleeper.id = g.blocked ∧ c.barrier.waiting = g.blocked.length ∧
      c.barrier.isBroken = g.broken) ∧
    g.blocked.length < max parties 1 ∧
    (past.map Return.id ++ g.blocked).Perm (waits calls) ∧
    (past.map Return.id).Nodup ∧
    (g.broken = true ↔ Since (· = .breakNow) (· ≠ .reset) calls) ∧
    (∀ call, ∃ returned d, c.Answers calls.length call returned d) ∧
    ∀ call returned d, c.Answers calls.length call returned d →
      returned.Perm (g.call parties calls.length call).1 ∧
      ((∃ r ∈ returned, r.verdict = .passed) →
        ∃ ids, returned.Perm (together .passed ids) ∧ ids.length = max parties 1 ∧ ids.Nodup ∧
          LastWaits (calls ++ [call]) ids) ∧
      (call ≠ .wait → returned.Perm (together .broken g.blocked)) ∧
      (call = .wait → g.broken = true → returned = [⟨calls.length, .broken⟩]) := by
  intro g
  have hmatches : Matches parties c g := h.matches_gate
  have hsound : Gate.Sound parties calls g := Gate.sound_after parties calls
  have hwaits : (waits calls).Nodup := List.nodup_range.filter _
  refine ⟨⟨hmatches.ids, hmatches.waiting, hmatches.broken⟩, hsound.lt, h.accounted, ?_,
    hsound.broken_iff, fun call => ⟨_, _, c.answers_call calls.length call⟩, ?_⟩
  · exact (List.nodup_append.mp (h.accounted.nodup_iff.mpr hwaits)).1
  · intro call returned d ha
    have hreturned := (hmatches.answers hsound.idle ha).2
    refine ⟨hreturned, ?_, ?_, ?_⟩
    · rintro ⟨r, hr, hpassed⟩
      obtain ⟨ids, heq, hlength, hlast⟩ :=
        (g.does_call parties calls.length call).passed hsound (hreturned.mem_iff.mp hr) hpassed
      exact ⟨ids, heq ▸ hreturned, hlength, hlast.nodup, hlast⟩
    · intro hcall
      cases call with
      | wait => exact absurd rfl hcall
      | breakNow | reset => exact hreturned
    · rintro rfl hbroken
      rw [Gate.call, if_pos hbroken] at hreturned
      exact List.perm_singleton.mp hreturned

/-- A wait is refused by a break and another one finds the barrier broken; after a reset a third sleeps. -/
def mended : List Call := [.wait, .breakNow, .wait, .reset, .wait]

def mendedCrowd : Crowd :=
  { barrier := { parties := 2, waiting := 1, generation := 1, broken := some 0 }, sleepers := [⟨4, 1⟩] }

theorem serves_mended : Serves 2 mended [⟨0, .broken⟩, ⟨2, .broken⟩] mendedCrowd := by
  have hslept : Serves 2 [.wait] []
      { barrier := { parties := 2, waiting := 1 }, sleepers := [⟨0, 0⟩] } :=
    Serves.call .start (Crowd.answers_call 0 _ .wait)
  have hbroken : Serves 2 [.wait, .breakNow] [⟨0, .broken⟩]
      { barrier := { parties := 2, broken := some 0 } } :=
    hslept.call (Crowd.answers_call 1 _ .breakNow)
  have hrefused : Serves 2 [.wait, .breakNow, .wait] [⟨0, .broken⟩, ⟨2, .broken⟩]
      { barrier := { parties := 2, broken := some 0 } } :=
    hbroken.call (Crowd.answers_call 2 _ .wait)
  have hreset : Serves 2 [.wait, .breakNow, .wait, .reset] [⟨0, .broken⟩, ⟨2, .broken⟩]
      { barrier := { parties := 2, generation := 1, broken := some 0 } } :=
    hrefused.call (Crowd.answers_call 3 _ .reset)
  exact hreset.call (Crowd.answers_call 4 _ .wait)

theorem returns_in_batches_mended :
    Serves 2 mended [⟨0, .broken⟩, ⟨2, .broken⟩] mendedCrowd ∧
    mendedCrowd.barrier.waiting = (Gate.after 2 mended).blocked.length ∧
    ∃ ids, [⟨4, .passed⟩, ⟨5, .passed⟩].Perm (together .passed ids) ∧ ids.length = 2 ∧ ids.Nodup ∧
      LastWaits (mended ++ [.wait]) ids := by
  obtain ⟨⟨-, hwaiting, -⟩, -, -, -, -, -, hreturns⟩ := returns_in_batches serves_mended
  obtain ⟨-, hpassed, -, -⟩ := hreturns .wait _ _ (mendedCrowd.answers_call 5 .wait)
  exact ⟨serves_mended, hwaiting, hpassed ⟨⟨4, .passed⟩, List.mem_cons_self, rfl⟩⟩

end AccumulatorMachine.Barrier
