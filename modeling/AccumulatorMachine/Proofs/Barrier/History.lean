import AccumulatorMachine.Barrier.Crowd

/-! The history of a barrier whose waits look again as late as they like. A wait that has been counted
sleeps in its generation, and by the time it looks the barrier may have been through any number of
others. -/
namespace AccumulatorMachine.Barrier

/-- What the calls at a barrier have done. -/
inductive Event where
  /-- A wait has been counted in a generation. -/
  | counted (id generation : Nat)
  /-- A wait has found the barrier broken, and has not been counted. -/
  | refused (id : Nat)
  | broke (generation : Nat)
  | reset (generation : Nat)
  /-- A wait that was counted in a generation has come back. -/
  | returned (id generation : Nat) (verdict : Verdict)
  deriving DecidableEq, Repr

/-- One call at the barrier, or one sleeper that looks again. -/
inductive Step : Crowd → List Event → Crowd → Prop
  | refuse {c : Crowd} {b : Barrier} (id : Nat) (h : c.barrier.arrive = (.done .broken, b)) :
      Step c [.refused id] { c with barrier := b }
  | trip {c : Crowd} {b : Barrier} (id : Nat) (h : c.barrier.arrive = (.done .passed, b)) :
      Step c [.counted id c.barrier.generation, .returned id c.barrier.generation .passed]
        { c with barrier := b }
  | sleep {c : Crowd} {b : Barrier} {g : Nat} (id : Nat) (h : c.barrier.arrive = (.blocked g, b)) :
      Step c [.counted id g] { barrier := b, sleepers := c.sleepers ++ [⟨id, g⟩] }
  | breakNow (c : Crowd) :
      Step c [.broke c.barrier.generation] { c with barrier := c.barrier.breakNow }
  | reset (c : Crowd) :
      Step c [.reset c.barrier.generation] { c with barrier := c.barrier.reset }
  | wake {c : Crowd} {s : Sleeper} {verdict : Verdict} (hs : s ∈ c.sleepers)
      (h : c.barrier.verdict? s.generation = some verdict) :
      Step c [.returned s.id s.generation verdict] { c with sleepers := c.sleepers.erase s }

/-- The crowds that a barrier for so many parties comes to, and what has happened on the way. -/
inductive Unfolds (parties : Nat) : List Event → Crowd → Prop
  | start : Unfolds parties [] (.ofParties parties)
  | step {history events : List Event} {c d : Crowd} (h : Unfolds parties history c)
      (hs : Step c events d) : Unfolds parties (history ++ events) d

/-! ### What a barrier does with whoever comes -/

theorem of_arrive_refused {b b' : Barrier} (h : b.arrive = (.done .broken, b')) :
    b.isBroken = true ∧ b' = b := by
  unfold arrive at h
  split at h
  · next hb => exact ⟨hb, (Prod.mk.inj h).2.symm⟩
  · split at h <;> cases h

theorem of_arrive_passed {b b' : Barrier} (h : b.arrive = (.done .passed, b')) :
    b.isBroken = false ∧ b.waiting + 1 = b.parties ∧
      b' = { b with waiting := 0, generation := b.generation + 1 } := by
  unfold arrive at h
  split at h
  · cases h
  · rename_i hb
    split at h
    · rename_i hfull
      exact ⟨Bool.eq_false_iff.mpr hb, hfull, (Prod.mk.inj h).2.symm⟩
    · cases h

theorem of_arrive_blocked {b b' : Barrier} {g : Nat} (h : b.arrive = (.blocked g, b')) :
    b.isBroken = false ∧ b.waiting + 1 ≠ b.parties ∧
      g = b.generation ∧ b' = { b with waiting := b.waiting + 1 } := by
  unfold arrive at h
  split at h
  · cases h
  · rename_i hb
    split at h
    · cases h
    · rename_i hfull
      obtain ⟨hg, hb'⟩ := Prod.mk.inj h
      exact ⟨Bool.eq_false_iff.mpr hb, hfull, (Arrival.blocked.inj hg).symm, hb'.symm⟩

/-! ### What a history says of a generation -/

/-- The generation of which an event says something. -/
def Event.subject? : Event → Option Nat
  | .counted _ generation | .broke generation | .reset generation => some generation
  | .refused _ | .returned _ _ _ => none

def Event.counts (g : Nat) : Event → Bool
  | .counted _ generation => generation == g
  | _ => false

/-- How many waits have been counted in a generation. -/
def arrivals (history : List Event) (g : Nat) : Nat := history.countP (Event.counts g)

/-- All parties have arrived in the generation. -/
def Full (parties : Nat) (history : List Event) (g : Nat) : Prop :=
  arrivals history g = max parties 1

instance (parties : Nat) (history : List Event) (g : Nat) : Decidable (Full parties history g) :=
  inferInstanceAs (Decidable (_ = _))

/-- The generation has been broken, or reset with waits in it. -/
def Spoiled (history : List Event) (g : Nat) : Prop :=
  .broke g ∈ history ∨ .reset g ∈ history ∧ 0 < arrivals history g

/-- A later generation has been spoiled, and a barrier remembers only the last one. -/
def Forgotten (history : List Event) (g : Nat) : Prop :=
  ∃ later, g < later ∧ Spoiled history later

/-- The generation has come to an end in one way only. -/
def Over (parties : Nat) (history : List Event) (g : Nat) : Prop :=
  Full parties history g ∧ ¬ Spoiled history g ∨
    ¬ Full parties history g ∧ (.broke g ∈ history ∨ .reset g ∈ history)

@[simp] theorem arrivals_append (history events : List Event) (g : Nat) :
    arrivals (history ++ events) g = arrivals history g + arrivals events g :=
  List.countP_append

@[simp] theorem arrivals_counted (id g : Nat) : arrivals [.counted id g] g = 1 := by
  simp [arrivals, Event.counts]

theorem arrivals_pos {history : List Event} {id g : Nat} (h : .counted id g ∈ history) :
    0 < arrivals history g := by
  unfold arrivals
  rw [List.countP_pos_iff]
  exact ⟨_, h, by simp [Event.counts]⟩

/-- Two histories say the same of a generation. -/
structure Agree (g : Nat) (history history' : List Event) : Prop where
  arrivals : arrivals history' g = arrivals history g
  broke : .broke g ∈ history' ↔ .broke g ∈ history
  reset : .reset g ∈ history' ↔ .reset g ∈ history

theorem agree_append {history events : List Event} {g : Nat}
    (h : ∀ e ∈ events, e.subject? ≠ some g) : Agree g history (history ++ events) := by
  have hcounted : arrivals events g = 0 := by
    unfold arrivals
    rw [List.countP_eq_zero]
    intro e he hcounts
    cases e with
    | counted id k =>
      have hk : k = g := by simpa [Event.counts] using hcounts
      exact h _ he (congrArg some hk)
    | _ => simp [Event.counts] at hcounts
  have hbroke : .broke g ∉ events := fun he => h _ he rfl
  have hreset : .reset g ∉ events := fun he => h _ he rfl
  constructor
  · rw [arrivals_append, hcounted, Nat.add_zero]
  · rw [List.mem_append, or_iff_left hbroke]
  · rw [List.mem_append, or_iff_left hreset]

namespace Agree
variable {g : Nat} {history history' history'' : List Event}

theorem trans (h : Agree g history history') (h' : Agree g history' history'') :
    Agree g history history'' :=
  ⟨h'.arrivals.trans h.arrivals, h'.broke.trans h.broke, h'.reset.trans h.reset⟩

theorem spoiled (h : Agree g history history') : Spoiled history' g ↔ Spoiled history g := by
  unfold Spoiled
  rw [h.arrivals, h.broke, h.reset]

theorem over_iff (h : Agree g history history') {parties : Nat} :
    Over parties history' g ↔ Over parties history g := by
  unfold Over Full
  rw [h.spoiled, h.arrivals, h.broke, h.reset]

end Agree

/-! ### What a barrier knows of its history -/

structure Sound (parties : Nat) (history : List Event) (c : Crowd) : Prop where
  parties_eq : c.barrier.parties = max parties 1
  waiting_lt : c.barrier.waiting < max parties 1
  counted : .broke c.barrier.generation ∉ history →
    arrivals history c.barrier.generation = c.barrier.waiting
  arrivals_lt : arrivals history c.barrier.generation < max parties 1
  not_reset : .reset c.barrier.generation ∉ history
  future : ∀ g, c.barrier.generation < g → Agree g [] history
  past : ∀ g < c.barrier.generation, Over parties history g
  broken : ∀ g, c.barrier.broken = some g ↔ Spoiled history g ∧ ¬ Forgotten history g
  sleepers : ∀ s ∈ c.sleepers, .counted s.id s.generation ∈ history

namespace Sound
variable {parties : Nat} {history : List Event} {c : Crowd}

theorem start (parties : Nat) : Sound parties [] (.ofParties parties) where
  parties_eq := rfl
  waiting_lt := by
    change 0 < max parties 1
    omega
  counted _ := rfl
  arrivals_lt := by
    change 0 < max parties 1
    omega
  not_reset := List.not_mem_nil
  future _ _ := ⟨rfl, Iff.rfl, Iff.rfl⟩
  past g hg := absurd hg (Nat.not_lt_zero g)
  broken g := by simp [Crowd.ofParties, ofParties, Spoiled]
  sleepers s hs := absurd hs List.not_mem_nil

/-- No generation after the current one has been spoiled. -/
theorem not_spoiled_of_lt (h : Sound parties history c) {g : Nat} (hg : c.barrier.generation < g) :
    ¬ Spoiled history g := by
  rw [(h.future g hg).spoiled]
  simp [Spoiled]

theorem not_forgotten_current (h : Sound parties history c) :
    ¬ Forgotten history c.barrier.generation := by
  rintro ⟨later, hlt, hs⟩
  exact h.not_spoiled_of_lt hlt hs

/-- The current generation counts as broken only after a break. -/
theorem broke_iff (h : Sound parties history c) :
    .broke c.barrier.generation ∈ history ↔ c.barrier.broken = some c.barrier.generation := by
  rw [h.broken]
  constructor
  · intro hb
    exact ⟨.inl hb, h.not_forgotten_current⟩
  · rintro ⟨hb | ⟨hr, -⟩, -⟩
    · exact hb
    · exact absurd hr h.not_reset

/-- A wait that comes back or is refused says nothing of any generation. -/
theorem idle (h : Sound parties history c) {e : Event} (he : e.subject? = none)
    {sleepers : List Sleeper} (hsub : ∀ s ∈ sleepers, s ∈ c.sleepers) :
    Sound parties (history ++ [e]) { c with sleepers } := by
  have hagree : ∀ g, Agree g history (history ++ [e]) := by
    intro g
    refine agree_append fun e' he' => ?_
    rw [List.mem_singleton.mp he', he]
    nofun
  constructor
  · exact h.parties_eq
  · exact h.waiting_lt
  · simpa only [(hagree _).broke, (hagree _).arrivals] using h.counted
  · simpa only [(hagree _).arrivals] using h.arrivals_lt
  · simpa only [(hagree _).reset] using h.not_reset
  · intro g hg
    exact (h.future g hg).trans (hagree g)
  · intro g hg
    rw [(hagree g).over_iff]
    exact h.past g hg
  · simpa only [Forgotten, (hagree _).spoiled] using h.broken
  · intro s hs
    exact List.mem_append_left _ (h.sleepers s (hsub s hs))

/-! A wait that is counted, a break and a reset are about the current generation. -/

section
variable {e : Event}

theorem agree_of_ne (he : e.subject? = some c.barrier.generation) {g : Nat}
    (hg : g ≠ c.barrier.generation) : Agree g history (history ++ [e]) := by
  refine agree_append fun e' he' => ?_
  rw [List.mem_singleton.mp he', he]
  intro heq
  exact hg (Option.some.inj heq).symm

theorem not_spoiled_append (h : Sound parties history c)
    (he : e.subject? = some c.barrier.generation) {g : Nat} (hg : c.barrier.generation < g) :
    ¬ Spoiled (history ++ [e]) g := by
  rw [(agree_of_ne he (Nat.ne_of_gt hg)).spoiled]
  exact h.not_spoiled_of_lt hg

/-- What the barrier remembers is still right if the event does not spoil the generation. -/
theorem remembers (h : Sound parties history c) (he : e.subject? = some c.barrier.generation)
    (hs : Spoiled (history ++ [e]) c.barrier.generation ↔
      Spoiled history c.barrier.generation) (g : Nat) :
    c.barrier.broken = some g ↔
      Spoiled (history ++ [e]) g ∧ ¬ Forgotten (history ++ [e]) g := by
  have hall : ∀ k, Spoiled (history ++ [e]) k ↔ Spoiled history k := by
    intro k
    by_cases hk : k = c.barrier.generation
    · rw [hk]
      exact hs
    · exact (agree_of_ne he hk).spoiled
  simpa only [Forgotten, hall] using h.broken g

/-- If the event spoils the generation, nothing else is remembered from then on. -/
theorem remembers_current (h : Sound parties history c)
    (he : e.subject? = some c.barrier.generation)
    (hs : Spoiled (history ++ [e]) c.barrier.generation) (g : Nat) :
    some c.barrier.generation = some g ↔
      Spoiled (history ++ [e]) g ∧ ¬ Forgotten (history ++ [e]) g := by
  constructor
  · intro heq
    obtain rfl := Option.some.inj heq
    refine ⟨hs, ?_⟩
    rintro ⟨later, hlt, hlater⟩
    exact h.not_spoiled_append he hlt hlater
  · rintro ⟨hg, hnot⟩
    obtain hlt | rfl | hlt := Nat.lt_trichotomy g c.barrier.generation
    · exact absurd ⟨_, hlt, hs⟩ hnot
    · rfl
    · exact absurd hg (h.not_spoiled_append he hlt)

/-- The event ends the generation, and the next one begins. -/
theorem next (h : Sound parties history c) (he : e.subject? = some c.barrier.generation)
    {broken : Option Nat} (hover : Over parties (history ++ [e]) c.barrier.generation)
    (hbroken : ∀ g, broken = some g ↔
      Spoiled (history ++ [e]) g ∧ ¬ Forgotten (history ++ [e]) g) :
    Sound parties (history ++ [e])
      { c with barrier :=
        { c.barrier with waiting := 0, generation := c.barrier.generation + 1, broken } } := by
  have hfuture : ∀ g, c.barrier.generation < g → Agree g [] (history ++ [e]) := by
    intro g hg
    exact (h.future g hg).trans (agree_of_ne he (Nat.ne_of_gt hg))
  have hnext := hfuture _ (Nat.lt_succ_self c.barrier.generation)
  have hpos : 0 < max parties 1 := Nat.zero_lt_of_lt h.waiting_lt
  constructor
  · exact h.parties_eq
  · exact hpos
  · intro _
    exact hnext.arrivals
  · rw [hnext.arrivals]
    exact hpos
  · rw [hnext.reset]
    exact List.not_mem_nil
  · intro g hg
    exact hfuture g (Nat.lt_of_succ_lt hg)
  · intro g hg
    by_cases heq : g = c.barrier.generation
    · rw [heq]
      exact hover
    · rw [(agree_of_ne he heq).over_iff]
      exact h.past g (Nat.lt_of_le_of_ne (Nat.le_of_lt_succ hg) heq)
  · exact hbroken
  · intro s hs
    exact List.mem_append_left _ (h.sleepers s hs)

/-- The event leaves the barrier in its generation. -/
theorem stay (h : Sound parties history c) (he : e.subject? = some c.barrier.generation)
    {broken : Option Nat} {waiting : Nat} {sleepers : List Sleeper}
    (hwaiting : waiting < max parties 1)
    (hcounted : .broke c.barrier.generation ∉ history ++ [e] →
      arrivals (history ++ [e]) c.barrier.generation = waiting)
    (hlt : arrivals (history ++ [e]) c.barrier.generation < max parties 1)
    (hreset : .reset c.barrier.generation ∉ history ++ [e])
    (hbroken : ∀ g, broken = some g ↔
      Spoiled (history ++ [e]) g ∧ ¬ Forgotten (history ++ [e]) g)
    (hsleepers : ∀ s ∈ sleepers, .counted s.id s.generation ∈ history ++ [e]) :
    Sound parties (history ++ [e])
      { barrier := { c.barrier with waiting, broken }, sleepers } := by
  constructor
  · exact h.parties_eq
  · exact hwaiting
  · exact hcounted
  · exact hlt
  · exact hreset
  · intro g hg
    exact (h.future g hg).trans (agree_of_ne he (Nat.ne_of_gt hg))
  · intro g hg
    rw [(agree_of_ne he (Nat.ne_of_lt hg)).over_iff]
    exact h.past g hg
  · exact hbroken
  · exact hsleepers

end

/-! ### Each step -/

/-- A count spoils nothing. -/
theorem spoiled_counted (h : Sound parties history c) (id : Nat) :
    Spoiled (history ++ [.counted id c.barrier.generation]) c.barrier.generation ↔
      Spoiled history c.barrier.generation := by
  simp [Spoiled, h.not_reset]

/-- Whoever comes to a barrier that is not broken finds it in the generation of all who wait. -/
theorem arrivals_eq (h : Sound parties history c) (hb : c.barrier.isBroken = false) :
    arrivals history c.barrier.generation = c.barrier.waiting := by
  refine h.counted ?_
  rw [h.broke_iff]
  simpa [isBroken] using hb

theorem not_spoiled (h : Sound parties history c) (hb : c.barrier.isBroken = false) :
    ¬ Spoiled history c.barrier.generation := by
  rintro (hbroke | ⟨hreset, -⟩)
  · rw [h.broke_iff] at hbroke
    simp [isBroken, hbroke] at hb
  · exact h.not_reset hreset

theorem trip (h : Sound parties history c) (id : Nat) (hb : c.barrier.isBroken = false)
    (hfull : c.barrier.waiting + 1 = c.barrier.parties) :
    Sound parties
      (history ++ [.counted id c.barrier.generation, .returned id c.barrier.generation .passed])
      { c with barrier :=
        { c.barrier with waiting := 0, generation := c.barrier.generation + 1 } } := by
  have hover : Over parties (history ++ [.counted id c.barrier.generation])
      c.barrier.generation := by
    left
    constructor
    · unfold Full
      rw [arrivals_append, arrivals_counted, h.arrivals_eq hb, hfull, h.parties_eq]
    · rw [h.spoiled_counted]
      exact h.not_spoiled hb
  have hnext := h.next (e := .counted id c.barrier.generation) rfl hover
    (h.remembers rfl (h.spoiled_counted id))
  have hidle := hnext.idle (e := .returned id c.barrier.generation .passed) rfl
    fun _ hs => hs
  rw [List.append_assoc] at hidle
  exact hidle

theorem sleep (h : Sound parties history c) (id : Nat) (hb : c.barrier.isBroken = false)
    (hfull : c.barrier.waiting + 1 ≠ c.barrier.parties) :
    Sound parties (history ++ [.counted id c.barrier.generation])
      { barrier := { c.barrier with waiting := c.barrier.waiting + 1 }
        sleepers := c.sleepers ++ [⟨id, c.barrier.generation⟩] } := by
  have hlt : c.barrier.waiting + 1 < max parties 1 := by
    have hwaiting := h.waiting_lt
    have hparties := h.parties_eq
    omega
  have hcount : arrivals (history ++ [.counted id c.barrier.generation]) c.barrier.generation
      = c.barrier.waiting + 1 := by
    rw [arrivals_append, arrivals_counted, h.arrivals_eq hb]
  refine h.stay rfl hlt (fun _ => hcount) ?_ ?_ (h.remembers rfl (h.spoiled_counted id)) ?_
  · rw [hcount]
    exact hlt
  · simpa using h.not_reset
  · intro s hs
    obtain hs | hs := List.mem_append.mp hs
    · exact List.mem_append_left _ (h.sleepers s hs)
    · rw [List.mem_singleton.mp hs]
      exact List.mem_append_right _ (List.mem_singleton_self _)

theorem breakNow (h : Sound parties history c) :
    Sound parties (history ++ [.broke c.barrier.generation])
      { c with barrier := c.barrier.breakNow } := by
  have hbroke : .broke c.barrier.generation ∈ history ++ [.broke c.barrier.generation] := by
    simp
  have hcount : arrivals (history ++ [.broke c.barrier.generation]) c.barrier.generation
      = arrivals history c.barrier.generation := by
    simp [arrivals, Event.counts]
  refine h.stay rfl (Nat.zero_lt_of_lt h.waiting_lt) (absurd hbroke) ?_ ?_
    (h.remembers_current rfl (.inl hbroke)) fun s hs => List.mem_append_left _ (h.sleepers s hs)
  · rw [hcount]
    exact h.arrivals_lt
  · simpa using h.not_reset

theorem reset (h : Sound parties history c) :
    Sound parties (history ++ [.reset c.barrier.generation])
      { c with barrier := c.barrier.reset } := by
  have hreset : .reset c.barrier.generation ∈ history ++ [.reset c.barrier.generation] := by
    simp
  have hcount : arrivals (history ++ [.reset c.barrier.generation]) c.barrier.generation
      = arrivals history c.barrier.generation := by
    simp [arrivals, Event.counts]
  have hover : Over parties (history ++ [.reset c.barrier.generation])
      c.barrier.generation := by
    right
    refine ⟨?_, .inr hreset⟩
    unfold Full
    rw [hcount]
    exact Nat.ne_of_lt h.arrivals_lt
  refine h.next rfl hover ?_
  by_cases hbroke : .broke c.barrier.generation ∈ history
  · -- A break has spoiled the generation already, and it is the one that is remembered.
    have hbroken := h.broke_iff.mp hbroke
    have hspoiled : Spoiled (history ++ [.reset c.barrier.generation]) c.barrier.generation :=
      .inl (List.mem_append_left _ hbroke)
    simpa only [hbroken, ite_self] using h.remembers_current rfl hspoiled
  · have hwaiting := h.counted hbroke
    by_cases hpos : 0 < c.barrier.waiting
    · rw [if_pos hpos]
      refine h.remembers_current rfl (.inr ⟨hreset, ?_⟩)
      rw [hcount, hwaiting]
      exact hpos
    · rw [if_neg hpos]
      refine h.remembers rfl ?_
      unfold Spoiled
      rw [hcount, hwaiting]
      simp [hpos]

theorem step (h : Sound parties history c) {events : List Event} {d : Crowd}
    (hs : Step c events d) : Sound parties (history ++ events) d := by
  cases hs with
  | refuse id ha =>
    obtain ⟨-, rfl⟩ := of_arrive_refused ha
    exact h.idle rfl fun _ hs => hs
  | trip id ha =>
    obtain ⟨hb, hfull, rfl⟩ := of_arrive_passed ha
    exact h.trip id hb hfull
  | sleep id ha =>
    obtain ⟨hb, hfull, rfl, rfl⟩ := of_arrive_blocked ha
    exact h.sleep id hb hfull
  | breakNow => exact h.breakNow
  | reset => exact h.reset
  | wake hs _ => exact h.idle rfl fun _ => List.mem_of_mem_erase

end Sound

theorem sound_of_unfolds {parties : Nat} {history : List Event} {c : Crowd}
    (h : Unfolds parties history c) : Sound parties history c := by
  induction h with
  | start => exact .start parties
  | step _ hs ih => exact ih.step hs

/-! ### Waits that look as soon as they can

A crowd whose waits return at once is one of those that unfold. -/

namespace Crowd

/-- The sleepers look again in any order, until nobody is left whom the barrier has released. -/
inductive Settles : Crowd → List Return → Crowd → Prop
  | quiet {c : Crowd} (h : ∀ s ∈ c.sleepers, c.barrier.verdict? s.generation = none) :
      Settles c [] c
  | wake {c d : Crowd} {s : Sleeper} {verdict : Verdict} {returned : List Return}
      (hs : s ∈ c.sleepers) (h : c.barrier.verdict? s.generation = some verdict)
      (hrest : Settles { c with sleepers := c.sleepers.erase s } returned d) :
      Settles c (⟨s.id, verdict⟩ :: returned) d

theorem settles_rest {c : Crowd} (before : List Sleeper) {rest : List Sleeper}
    (hbefore : ∀ s ∈ before, c.barrier.verdict? s.generation = none) :
    Settles { c with sleepers := before ++ rest } (rest.filterMap (Sleeper.return? c.barrier))
      { c with sleepers :=
        before ++ rest.filter fun s => (c.barrier.verdict? s.generation).isNone } := by
  induction rest generalizing before with
  | nil => exact .quiet (by simpa using hbefore)
  | cons s rest ih =>
    cases hv : c.barrier.verdict? s.generation with
    | none =>
      have hbefore' : ∀ s' ∈ before ++ [s], c.barrier.verdict? s'.generation = none := by
        intro s' hs'
        obtain hs' | hs' := List.mem_append.mp hs'
        · exact hbefore s' hs'
        · rw [List.mem_singleton.mp hs']
          exact hv
      simpa [hv, Sleeper.return?] using ih (before ++ [s]) hbefore'
    | some verdict =>
      -- whoever sleeps on is somebody else
      have hnot : s ∉ before := by
        intro hs
        rw [hbefore s hs] at hv
        cases hv
      have herase : (before ++ s :: rest).erase s = before ++ rest := by
        rw [List.erase_append_right _ hnot, List.erase_cons_head]
      have hrest := ih before hbefore
      rw [← herase] at hrest
      have hwake : Settles { c with sleepers := before ++ s :: rest } _ _ :=
        .wake (List.mem_append_right before List.mem_cons_self) hv hrest
      simpa [hv, Sleeper.return?] using hwake

theorem settles_wake (c : Crowd) : Settles c c.wake.1 c.wake.2 := settles_rest [] nofun

end Crowd

namespace Unfolds
variable {parties : Nat} {history : List Event} {c : Crowd}

theorem settle {d : Crowd} {returned : List Return} (h : Unfolds parties history c)
    (hs : c.Settles returned d) : ∃ events, Unfolds parties (history ++ events) d := by
  induction hs generalizing history with
  | quiet => exact ⟨[], by rwa [List.append_nil]⟩
  | wake hs hv _ ih =>
    obtain ⟨events, hevents⟩ := ih (h.step (.wake hs hv))
    rw [List.append_assoc] at hevents
    exact ⟨_, hevents⟩

theorem thenWake {events : List Event} {d : Crowd} (h : Unfolds parties history c)
    (hs : Step c events d) : ∃ events, Unfolds parties (history ++ events) d.wake.2 := by
  obtain ⟨woken, hwoken⟩ := (h.step hs).settle d.settles_wake
  rw [List.append_assoc] at hwoken
  exact ⟨_, hwoken⟩

theorem wait (h : Unfolds parties history c) (id : Nat) :
    ∃ events, Unfolds parties (history ++ events) (c.wait id).2 := by
  unfold Crowd.wait
  split
  · next verdict barrier ha =>
    cases verdict with
    | passed => exact h.thenWake (.trip id ha)
    | broken => exact h.thenWake (.refuse id ha)
  · next g barrier ha => exact ⟨_, h.step (.sleep id ha)⟩

theorem breakNow (h : Unfolds parties history c) :
    ∃ events, Unfolds parties (history ++ events) c.breakNow.2 :=
  h.thenWake (.breakNow c)

theorem reset (h : Unfolds parties history c) :
    ∃ events, Unfolds parties (history ++ events) c.reset.2 :=
  h.thenWake (.reset c)

end Unfolds

end AccumulatorMachine.Barrier
