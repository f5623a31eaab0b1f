import AccumulatorMachine.Proofs.Handoff.Relay

/-! An exchange whose receiver may leave between any two of its calls, with a sender that may go on
offering values to nobody. The receiver breaks the barrier only if it sees somebody wait there, and it
does not look again. -/
namespace AccumulatorMachine
variable {α : Type}

structure Parting (α : Type) extends Relay α where
  /-- The receiver looked while the sender was on its way to the barrier. -/
  missed : Bool := false

namespace Receiver

/-- Has not begun to leave. -/
def stays : Receiver α → Bool
  | .leaving | .breaking | .disconnecting | .gone => false
  | _ => true

/-- Between two calls. -/
inductive Between : Receiver α → Prop
  | idle : Between .idle
  | holding (value : α) : Between (.holding value)
  | ended : Between .ended

/-- Has begun to leave, and breaks no barrier. -/
inductive Leaves : Receiver α → Prop
  | leaving : Leaves .leaving
  | disconnecting : Leaves .disconnecting
  | gone : Leaves .gone

/-- Has looked at the barrier and will not again. -/
inductive Looked : Receiver α → Prop
  | disconnecting : Looked .disconnecting
  | gone : Looked .gone

theorem Looked.leaves {r : Receiver α} (h : r.Looked) : r.Leaves := by
  cases h <;> constructor

end Receiver

namespace Sender

/-- Waits for nothing but the end of the channel, and each of its calls is to end as it should, if
so many releases have begun and the results of so many hand-overs are noted. -/
inductive Loose (b : Barrier) (begun noted : Nat) : Sender α → Prop
  | idle (h : begun ≤ noted) : Loose b begun noted .idle
  | offering (value : α) (h : begun ≤ noted) : Loose b begun noted (.offering value)
  | waking {g : Nat} {verdict : Verdict} (hv : b.verdict? g = some verdict)
      (h : begun ≤ noted + 1) (hd : verdict = .passed ↔ noted < begun) :
      Loose b begun noted (.paused g)
  | returned {delivered : Bool} (h : begun ≤ noted + 1) (hd : delivered = true ↔ noted < begun) :
      Loose b begun noted (.returned delivered)
  | leaving : Loose b begun noted .leaving
  | disconnecting : Loose b begun noted .disconnecting
  | gone : Loose b begun noted .gone

theorem Free.loose {g begun noted : Nat} {s : Sender α} (hs : s.Free g)
    (h : noted + s.owes = begun) : s.Loose (.pair 0 g) begun noted := by
  cases hs with
  | idle => exact .idle (Nat.le_of_eq h.symm)
  | offering value => exact .offering value (Nat.le_of_eq h.symm)
  | waking hlt =>
    have hnoted : noted + 1 = begun := h
    exact .waking (Barrier.verdict?_pair_of_lt 0 hlt) (Nat.le_of_eq hnoted.symm)
      (by simp only [true_iff]; omega)
  | returned =>
    have hnoted : noted + 1 = begun := h
    exact .returned (Nat.le_of_eq hnoted.symm) (by simp only [true_iff]; omega)
  | leaving => exact .leaving
  | disconnecting => exact .disconnecting
  | gone => exact .gone

end Sender

/-- The receiver would look at the barrier now, with the sender on its way there. -/
def Handoff.misses (h : Handoff α) : Bool :=
  match h.receiver, h.sender with
  | .leaving, .pacing => true
  | _, _ => false

namespace Parting
open Schedule

def ofValues (values : List α) : Parting α := { toRelay := .ofValues values }

def produce? (x : Parting α) : Option (Parting α) :=
  x.toRelay.produce?.map fun relay => { x with toRelay := relay }

/-- The sender goes on with its next value although the last one was not released. -/
def insist? (x : Parting α) : Option (Parting α) :=
  match x.link.sender with
  | .returned false =>
    some { x with link := { x.link with sender := .idle }, results := x.results ++ [false] }
  | _ => none

def attend? (x : Parting α) : Option (Parting α) :=
  x.toRelay.attend?.map fun relay => { toRelay := relay, missed := x.missed || x.link.misses }

/-- The receiver leaves instead of beginning another call. -/
def part? (x : Parting α) : Option (Parting α) :=
  match x.link.receiver with
  | .idle | .holding _ | .ended => some { x with link := x.link.dropReceiver }
  | _ => none

def threads : List (Parting α → Option (Parting α)) := [produce?, insist?, attend?, part?]

/-- Goes down with every action. -/
def work (x : Parting α) : Nat := x.toRelay.work + if x.link.receiver.stays then 4 else 0

/-! ### The invariant -/

/-- Where the two sides can be once the receiver has begun to leave. -/
inductive Apart (begun noted : Nat) : Bool → Handoff α → Prop
  | loose {b : Barrier} {s : Sender α} {r : Receiver α} (hb : b.waiting = 0)
      (hs : s.Loose b begun noted) (hr : r.Leaves) : Apart begun noted false ⟨b, s, r⟩
  | held {g : Nat} (h : noted = begun) : Apart begun noted false ⟨.pair 0 g, .pacing, .leaving⟩
  | awaited {g : Nat} (h : noted = begun) :
      Apart begun noted false ⟨.pair 1 g, .paused g, .leaving⟩
  | breaking {g : Nat} (h : noted = begun) :
      Apart begun noted false ⟨.pair 1 g, .paused g, .breaking⟩
  | missed {g : Nat} {r : Receiver α} (h : noted = begun) (hr : r.Looked) :
      Apart begun noted true ⟨.pair 0 g, .pacing, r⟩
  | stranded {g : Nat} {r : Receiver α} (h : noted = begun) (hr : r.Looked) :
      Apart begun noted true ⟨.pair 1 g, .paused g, r⟩

inductive Sound (values : List α) (x : Parting α) : Prop
  | together (hx : x.toRelay.Sound values) (hm : x.missed = false)
  | apart (hr : ∀ k d, x.results[k]? = some d → (d = true ↔ k < x.begun))
      (hp : Apart x.begun x.results.length x.missed x.link)

/-- A result that is noted is the right one if the call before was to end so. -/
theorem results_append {results : List Bool} {begun : Nat} {delivered : Bool}
    (hr : ∀ k d, results[k]? = some d → (d = true ↔ k < begun))
    (hd : delivered = true ↔ results.length < begun) :
    ∀ k d, (results ++ [delivered])[k]? = some d → (d = true ↔ k < begun) := by
  intro k d hk
  obtain hlt | rfl | hlt := Nat.lt_trichotomy k results.length
  · rw [List.getElem?_append_left hlt] at hk
    exact hr k d hk
  · simp only [List.getElem?_append_right (Nat.le_refl _), Nat.sub_self,
      List.getElem?_cons_zero, Option.some.injEq] at hk
    rw [← hk]
    exact hd
  · have hnone : (results ++ [delivered])[k]? = none := by
      rw [List.getElem?_eq_none_iff, List.length_append]
      exact hlt
    rw [hnone] at hk
    cases hk

/-- The receiver begins to leave. The ledgers are those of the values that it has received. -/
theorem Apart.start {h : Handoff α} (hp : h.Paced) (hr : h.receiver.Between)
    {begun noted received : Nat} (ho : noted + h.sender.owes = received)
    (hb : begun + h.receiver.held?.toList.length = received) :
    Apart begun noted false { h with receiver := .leaving } := by
  cases hp with
  | @apart g s r hs hfree =>
    have hbegun : begun = received := by
      cases hfree <;> exact hb
    exact .loose rfl (hs.loose (ho.trans hbegun.symm)) .leaving
  | held hh =>
    cases hh with
    | holding value => exact .held (Nat.succ.inj (ho.trans hb.symm))
    | releasing => cases hr
  | senderWaits hh =>
    cases hh with
    | holding value => exact .awaited (Nat.succ.inj (ho.trans hb.symm))
    | releasing => cases hr
  | receiverWaits => cases hr
  | ended => exact .loose rfl .gone .leaving

theorem Apart.senderStep {begun noted : Nat} {missed : Bool} {h k : Handoff α}
    (hp : Apart begun noted missed h) (hk : h.senderStep? = some k) :
    Apart begun noted missed k := by
  cases hp with
  | loose hb hs hr =>
    cases hs with
    | idle => simp [Handoff.senderStep?] at hk
    | offering value hle =>
      cases hr <;> simp [Handoff.senderStep?] at hk
      have hd : false = true ↔ noted < begun := by simpa using hle
      exact hk ▸ .loose hb (.returned (Nat.le_succ_of_le hle) hd) .gone
    | @waking g verdict hv hle hd =>
      simp [Handoff.senderStep?, hv] at hk
      have hd' : (verdict == .passed) = true ↔ noted < begun := by rw [beq_iff_eq, hd]
      exact hk ▸ .loose hb (.returned hle hd') hr
    | returned => simp [Handoff.senderStep?] at hk
    | leaving =>
      simp [Handoff.senderStep?, hb] at hk
      exact hk ▸ .loose hb .disconnecting hr
    | disconnecting =>
      simp [Handoff.senderStep?] at hk
      exact hk ▸ .loose hb .gone hr
    | gone => simp [Handoff.senderStep?] at hk
  | held h =>
    simp [Handoff.senderStep?] at hk
    exact hk ▸ .awaited h
  | awaited | breaking | stranded => simp [Handoff.senderStep?] at hk
  | missed h hr =>
    simp [Handoff.senderStep?] at hk
    exact hk ▸ .stranded h hr

theorem Apart.receiverStep {begun noted : Nat} {missed : Bool} {h k : Handoff α}
    (hp : Apart begun noted missed h) (hk : h.receiverStep? = some k) :
    Apart begun noted (missed || h.misses) k := by
  cases hp with
  | @loose b s r hb hs hr =>
    have hnot : Handoff.misses ⟨b, s, r⟩ = false := by
      cases hs <;> cases r <;> rfl
    rw [hnot]
    cases hr with
    | leaving =>
      simp [Handoff.receiverStep?, hb] at hk
      exact hk ▸ .loose hb hs .disconnecting
    | disconnecting =>
      simp [Handoff.receiverStep?] at hk
      exact hk ▸ .loose hb hs .gone
    | gone => simp [Handoff.receiverStep?] at hk
  | held h =>
    simp [Handoff.receiverStep?] at hk
    exact hk ▸ .missed h .disconnecting
  | awaited h =>
    simp [Handoff.receiverStep?] at hk
    exact hk ▸ .breaking h
  | @breaking g h =>
    simp [Handoff.receiverStep?] at hk
    have hv : (Barrier.pair 1 g).breakNow.verdict? g = some .broken :=
      Barrier.verdict?_breakNow (.pair 1 g)
    have hd : Verdict.broken = .passed ↔ noted < begun := by simp [h]
    exact hk ▸ .loose rfl (.waking hv (by omega) hd) .disconnecting
  | missed h hr =>
    cases hr <;> simp [Handoff.receiverStep?] at hk
    exact hk ▸ .missed h .gone
  | stranded h hr =>
    cases hr <;> simp [Handoff.receiverStep?] at hk
    exact hk ▸ .stranded h .gone

/-! ### Each action -/

theorem Sound.produce {values : List α} {x y : Parting α} (hx : x.Sound values)
    (hy : x.produce? = some y) : y.Sound values := by
  simp only [produce?, Option.map_eq_some_iff] at hy
  obtain ⟨relay, hrelay, rfl⟩ := hy
  cases hx with
  | together hx hm => exact .together (hx.produce hrelay) hm
  | apart hr hp =>
    obtain ⟨⟨⟨⟨pacing, sender, receiver⟩, remaining, results⟩, received, begun, released⟩, missed⟩ := x
    cases sender with
    | idle =>
      cases hp with
      | loose hb hs hl =>
        cases hs with
        | idle hle =>
          cases remaining with
          | nil =>
            simp [Relay.produce?, Exchange.produce?, Handoff.dropSender] at hrelay
            exact hrelay ▸ .apart hr (.loose hb .leaving hl)
          | cons value remaining =>
            simp [Relay.produce?, Exchange.produce?, Handoff.offer] at hrelay
            exact hrelay ▸ .apart hr (.loose hb (.offering value hle) hl)
    | returned delivered =>
      cases hp with
      | loose hb hs hl =>
        cases hs with
        | returned hle hd =>
          simp [Relay.produce?, Exchange.produce?] at hrelay
          rw [← hrelay]
          refine .apart (results_append hr hd) (.loose hb ?_ hl)
          cases delivered with
          | true => exact .idle (by simpa using hle)
          | false => exact .leaving
    | _ =>
      simp only [Relay.produce?, Exchange.produce?, Option.map_eq_some_iff] at hrelay
      obtain ⟨e, ⟨k, hk, rfl⟩, rfl⟩ := hrelay
      exact .apart hr (hp.senderStep hk)

theorem Sound.insist {values : List α} {x y : Parting α} (hx : x.Sound values)
    (hy : x.insist? = some y) : y.Sound values := by
  unfold insist? at hy
  split at hy
  · rename_i hs
    rw [← Option.some.inj hy]
    cases hx with
    | together hx hm =>
      -- As long as the receiver stays every hand-over succeeds.
      have hd : false = true := hx.delivered_handOvers false (by
        rw [Relay.handOvers, hs]
        simp [Sender.result?])
      cases hd
    | apart hr hp =>
      obtain ⟨⟨⟨⟨pacing, sender, receiver⟩, remaining, results⟩, received, begun, released⟩, missed⟩ := x
      obtain rfl : sender = .returned false := hs
      cases hp with
      | loose hb hs hl =>
        cases hs with
        | returned hle hd =>
          refine .apart (results_append hr hd) (.loose hb (.idle ?_) hl)
          simpa using hle
  · cases hy

theorem Sound.attend {values : List α} {x y : Parting α} (hx : x.Sound values)
    (hy : x.attend? = some y) : y.Sound values := by
  simp only [attend?, Option.map_eq_some_iff] at hy
  obtain ⟨relay, hrelay, rfl⟩ := hy
  obtain ⟨⟨⟨⟨pacing, sender, receiver⟩, remaining, results⟩, received, begun, released⟩, missed⟩ := x
  cases hx with
  | together hx hm =>
    obtain rfl : missed = false := hm
    refine .together (hx.attend hrelay) ?_
    have hstays : receiver ≠ .leaving := by
      rintro rfl
      cases hx.paced with
      | apart _ hr | held hr | senderWaits hr => cases hr
    cases receiver <;> first | rfl | exact absurd rfl hstays
  | apart hr hp =>
    cases receiver with
    | idle | receiving | holding _ | released _ =>
      cases hp with
      | loose _ _ hl => cases hl
      | missed _ hl | stranded _ hl => cases hl
    | _ =>
      simp only [Relay.attend?, Option.map_eq_some_iff] at hrelay
      obtain ⟨k, hk, rfl⟩ := hrelay
      exact .apart hr (hp.receiverStep hk)

/-- As long as the receiver stays, a hand-over is over only after its release has begun. -/
theorem handOvers_begun {values : List α} {x : Relay α} (hx : x.Sound values) (k : Nat) (d : Bool)
    (hk : x.handOvers[k]? = some d) : d = true ↔ k < x.begun := by
  have hd := hx.delivered_handOvers d (List.mem_of_getElem? hk)
  have hlt : k < x.handOvers.length := (List.getElem?_eq_some_iff.mp hk).1
  simp only [hd, true_iff]
  exact Nat.lt_of_lt_of_le hlt hx.handOvers_le

theorem handOvers_of_results {x : Relay α} {k : Nat} {d : Bool} (hk : x.results[k]? = some d) :
    x.handOvers[k]? = some d := by
  have hlt : k < x.results.length := (List.getElem?_eq_some_iff.mp hk).1
  rw [Relay.handOvers, List.getElem?_append_left hlt]
  exact hk

theorem eq_of_part {x y : Parting α} (hy : x.part? = some y) :
    x.link.receiver.Between ∧ y = { x with link := { x.link with receiver := .leaving } } := by
  unfold part? at hy
  split at hy <;> simp at hy
  all_goals
    rename_i hr
    rw [hr]
    exact ⟨by constructor, hy.symm⟩

theorem Sound.part {values : List α} {x y : Parting α} (hx : x.Sound values)
    (hy : x.part? = some y) : y.Sound values := by
  obtain ⟨hr, rfl⟩ := eq_of_part hy
  cases hx with
  | together hx hm =>
    refine .apart (fun k d hk => handOvers_begun hx k d (handOvers_of_results hk)) ?_
    rw [hm]
    exact .start hx.paced hr hx.results hx.begun
  | apart _ hp =>
    -- A receiver that has begun to leave is in no position to begin anything else.
    obtain ⟨⟨⟨⟨pacing, sender, receiver⟩, remaining, results⟩, received, begun, released⟩, missed⟩ := x
    cases hr <;> cases hp <;> rename_i hl <;> cases hl

theorem sound_of_reachable {values : List α} {x : Parting α}
    (h : Reachable threads (ofValues values) x) : x.Sound values :=
  h.invariant (.together (Relay.sound_ofValues values) rfl) fun act hact y z hy hz => by
    simp only [threads, List.mem_cons, List.not_mem_nil, or_false] at hact
    obtain rfl | rfl | rfl | rfl := hact
    · exact hy.produce hz
    · exact hy.insist hz
    · exact hy.attend hz
    · exact hy.part hz

/-! ### Every call comes to an end, unless the receiver has missed the sender -/

theorem senderStep_receiver {h k : Handoff α} (hk : h.senderStep? = some k) :
    k.receiver = h.receiver := by
  obtain ⟨pacing, sender, receiver⟩ := h
  cases sender with
  | offering value =>
    cases receiver <;> simp [Handoff.senderStep?] at hk
    rw [← hk]
  | pacing =>
    simp only [Handoff.senderStep?] at hk
    split at hk <;> cases hk <;> rfl
  | paused g =>
    obtain ⟨verdict, -, rfl⟩ := Option.map_eq_some_iff.mp hk
    rfl
  | leaving | breaking | disconnecting =>
    cases hk
    rfl
  | idle | returned | gone => cases hk

theorem produce_receiver {x y : Relay α} (hy : x.produce? = some y) :
    y.link.receiver = x.link.receiver := by
  obtain ⟨⟨⟨pacing, sender, receiver⟩, remaining, results⟩, received, begun, released⟩ := x
  cases sender with
  | idle =>
    cases remaining <;> cases hy <;> rfl
  | returned delivered =>
    cases hy
    rfl
  | _ =>
    simp only [Relay.produce?, Exchange.produce?, Option.map_eq_some_iff] at hy
    obtain ⟨e, ⟨k, hk, rfl⟩, rfl⟩ := hy
    exact senderStep_receiver hk

/-- Whoever has begun to leave goes on with it. -/
theorem attend_stays {x y : Relay α} (hy : x.attend? = some y)
    (hx : x.link.receiver.stays = false) : y.link.receiver.stays = false := by
  obtain ⟨⟨⟨pacing, sender, receiver⟩, remaining, results⟩, received, begun, released⟩ := x
  cases receiver with
  | leaving =>
    simp [Relay.attend?, Handoff.receiverStep?] at hy
    rw [← hy]
    dsimp only
    split <;> rfl
  | breaking | disconnecting =>
    simp [Relay.attend?, Handoff.receiverStep?] at hy
    rw [← hy]
    rfl
  | gone => simp [Relay.attend?, Handoff.receiverStep?] at hy
  | _ => cases hx

theorem produce_work {x y : Parting α} (hy : x.produce? = some y) : y.work < x.work := by
  simp only [produce?, Option.map_eq_some_iff] at hy
  obtain ⟨relay, hrelay, rfl⟩ := hy
  have hlt := Relay.produce_work hrelay
  have hreceiver := produce_receiver hrelay
  unfold work
  rw [hreceiver]
  exact Nat.add_lt_add_right hlt _

theorem attend_work {x y : Parting α} (hy : x.attend? = some y) : y.work < x.work := by
  simp only [attend?, Option.map_eq_some_iff] at hy
  obtain ⟨relay, hrelay, rfl⟩ := hy
  have hlt := Relay.attend_work hrelay
  have hstays := attend_stays hrelay
  unfold work
  cases hx : x.link.receiver.stays with
  | false =>
    rw [hstays hx]
    exact Nat.add_lt_add_right hlt _
  | true =>
    have hle : (if relay.link.receiver.stays = true then 4 else 0) ≤ 4 := by split <;> omega
    exact Nat.add_lt_add_of_lt_of_le hlt hle

theorem insist_work {x y : Parting α} (hy : x.insist? = some y) : y.work < x.work := by
  unfold insist? at hy
  split at hy
  · rename_i hs
    rw [← Option.some.inj hy]
    simp [work, Relay.work, hs, Sender.work]
  · cases hy

/-- A receiver that begins to leave gives up its last four actions for these. -/
theorem part_work {x y : Parting α} (hy : x.part? = some y) : y.work < x.work := by
  obtain ⟨hr, rfl⟩ := eq_of_part hy
  obtain ⟨⟨⟨⟨pacing, sender, receiver⟩, remaining, results⟩, received, begun, released⟩, missed⟩ := x
  cases hr <;> simp [work, Relay.work, Receiver.work, Receiver.stays]

theorem work_lt {act : Parting α → Option (Parting α)} (hact : act ∈ threads) {x y : Parting α}
    (hy : act x = some y) : y.work < x.work := by
  simp only [threads, List.mem_cons, List.not_mem_nil, or_false] at hact
  obtain rfl | rfl | rfl | rfl := hact
  · exact produce_work hy
  · exact insist_work hy
  · exact attend_work hy
  · exact part_work hy

/-- Nobody can act before the sender has left, unless the receiver has missed it. -/
theorem Sound.over {values : List α} {x : Parting α} (hx : x.Sound values)
    (hm : x.missed = false) (hstuck : ∀ act ∈ threads, act x = none) :
    x.link.sender = .gone := by
  have hproduce : x.toRelay.produce? = none := by
    simpa [produce?] using hstuck produce? (by simp [threads])
  have hattend : x.toRelay.attend? = none := by
    simpa [attend?] using hstuck attend? (by simp [threads])
  have hpart : x.part? = none := hstuck part? (by simp [threads])
  cases hx with
  | together hx _ => exact (hx.over hproduce hattend).1
  | apart _ hp =>
    obtain ⟨⟨⟨⟨pacing, sender, receiver⟩, remaining, results⟩, received, begun, released⟩, missed⟩ := x
    obtain rfl : missed = false := hm
    cases hp with
    | loose hb hs hr =>
      cases hr with
      | leaving | disconnecting => simp [Relay.attend?, Handoff.receiverStep?] at hattend
      | gone =>
        cases hs with
        | idle => cases remaining <;> simp [Relay.produce?, Exchange.produce?] at hproduce
        | waking hv => simp [Relay.produce?, Exchange.produce?, Handoff.senderStep?, hv] at hproduce
        | gone => rfl
        | _ => simp [Relay.produce?, Exchange.produce?, Handoff.senderStep?] at hproduce
    | held | awaited | breaking => simp [Relay.attend?, Handoff.receiverStep?] at hattend

/-- A sender that has been missed comes to the barrier, if it has not already, and stays there. -/
theorem Sound.stranded {values : List α} {x : Parting α} (hx : x.Sound values)
    (hm : x.missed = true) :
    x.link.sender = .pacing ∨
      ∃ g, x.link.sender = .paused g ∧ x.link.pacing.verdict? g = none := by
  cases hx with
  | together _ hm' =>
    rw [hm] at hm'
    cases hm'
  | apart _ hp =>
    obtain ⟨⟨⟨⟨pacing, sender, receiver⟩, remaining, results⟩, received, begun, released⟩, missed⟩ := x
    obtain rfl : missed = true := hm
    cases hp with
    | missed => exact .inl rfl
    | stranded => exact .inr ⟨_, rfl, by simp⟩

/-- Every hand-over that is over succeeded if and only if the release of its value had begun. -/
theorem Sound.handOvers {values : List α} {x : Parting α} (hx : x.Sound values) (k : Nat)
    (d : Bool) (hk : x.handOvers[k]? = some d) : d = true ↔ k < x.begun := by
  cases hx with
  | together hx _ => exact handOvers_begun hx k d hk
  | apart hr hp =>
    cases hs : x.link.sender with
    | returned delivered =>
      have hd : delivered = true ↔ x.results.length < x.begun := by
        obtain ⟨⟨⟨⟨pacing, sender, receiver⟩, remaining, results⟩, received, begun, released⟩,
          missed⟩ := x
        obtain rfl : sender = .returned delivered := hs
        cases hp with
        | loose _ hs _ =>
          cases hs with
          | returned _ hd => exact hd
      refine results_append hr hd k d ?_
      simpa [Relay.handOvers, hs, Sender.result?] using hk
    | _ => exact hr k d (by simpa [Relay.handOvers, hs, Sender.result?] using hk)

/-- Every hand-over succeeds if the release of its value has begun and fails otherwise, wherever the
receiver leaves. Every action leaves less to do, and both sides come to wait only when the sender has
left and all its calls are over: unless the receiver looked at the barrier while the sender was on its
way there, in which case the sender stays in its call for ever. -/
theorem hand_over_returns_unless_missed (values : List α) {x : Parting α}
    (h : Reachable threads (ofValues values) x) :
    (∀ k d, x.handOvers[k]? = some d → (d = true ↔ k < x.begun)) ∧
      (∀ act ∈ threads, ∀ y, act x = some y → y.work < x.work) ∧
      (x.missed = false → (∀ act ∈ threads, act x = none) → x.link.sender = .gone) ∧
      (x.missed = true → x.link.sender = .pacing ∨
        ∃ g, x.link.sender = .paused g ∧ x.link.pacing.verdict? g = none) := by
  have hx := sound_of_reachable h
  exact ⟨hx.handOvers, fun act hact y hy => work_lt hact hy, hx.over, hx.stranded⟩

/-- The receiver takes its only value and leaves; it looks at the barrier just before the sender comes
there. -/
def passing : List Nat := [0, 2, 2, 3, 2, 2, 0]

theorem hand_over_returns_unless_missed_passing :
    let x : Parting Nat := follow threads passing (ofValues [7])
    Reachable threads (ofValues [7]) x ∧ x.missed = true ∧ x.handOvers = [] ∧
      ∃ g, x.link.sender = .paused g ∧ x.link.pacing.verdict? g = none := by
  intro x
  have hreach : Reachable threads (ofValues [7]) x := reachable_follow threads passing .refl
  obtain ⟨-, -, -, hstranded⟩ := hand_over_returns_unless_missed [7] hreach
  refine ⟨hreach, by decide, by decide, ?_⟩
  obtain hs | hs := hstranded (by decide)
  · exact absurd hs (by decide)
  · exact hs

/-- A hand-over can wait for ever although the receiver is gone. -/
theorem stranded_in_hand_over :
    ¬ ∀ (values : List Nat) (x : Parting Nat), Reachable threads (ofValues values) x →
      x.link.receiver = .gone → (∀ act ∈ threads, act x = none) →
        ∀ g, x.link.sender ≠ .paused g := by
  intro h
  refine h [7] (follow threads passing (ofValues [7])) (reachable_follow threads passing .refl)
    (by decide) ?_ 0 (by decide)
  simp only [threads, List.forall_mem_cons, List.not_mem_nil, false_imp_iff, implies_true, and_true]
  exact ⟨rfl, rfl, rfl, rfl⟩

end Parting

end AccumulatorMachine
