import AccumulatorMachine.Handoff.Exchange
import AccumulatorMachine.Proofs.Handoff.Paced

/-! An exchange whose receiver takes values and releases them in turn. Whatever the order of the
actions, the values arrive as they were handed over, one at a time, and no call is refused. -/
namespace AccumulatorMachine
variable {α : Type}

/-- An exchange and what its receiver has seen and done. -/
structure Relay (α : Type) extends Exchange α where
  received : List α := []
  /-- How many releases have begun. -/
  begun : Nat := 0
  /-- How the releases that are over ended. -/
  released : List Verdict := []

namespace Sender

def offered? : Sender α → Option α
  | .offering value => some value
  | _ => none

/-- The value of a hand-over has been taken, and its result has not been noted. -/
def owes : Sender α → Nat
  | .pacing | .paused _ | .returned _ => 1
  | _ => 0

def result? : Sender α → Option Bool
  | .returned delivered => some delivered
  | _ => none

/-- No more values are handed over. -/
def departs : Sender α → Bool
  | .leaving | .breaking | .disconnecting | .gone => true
  | _ => false

/-- A bound on the actions up to the next hand-over, and on those that a value taken from here
costs the receiver. -/
def work : Sender α → Nat
  | .offering _ => 23
  | .pacing => 7
  | .paused _ => 6
  | .returned _ => 5
  | .idle => 4
  | .leaving => 3
  | .breaking => 2
  | .disconnecting => 1
  | .gone => 0

end Sender

namespace Receiver

def held? : Receiver α → Option α
  | .holding value => some value
  | _ => none

/-- A release has begun, and its verdict has not been noted. -/
def owes : Receiver α → Nat
  | .releasing | .paused _ | .resetting | .released _ => 1
  | _ => 0

def result? : Receiver α → Option Verdict
  | .released verdict => some verdict
  | _ => none

/-- A bound on the actions up to the next receipt. -/
def work : Receiver α → Nat
  | .holding _ => 9
  | .releasing => 8
  | .paused _ => 7
  | .resetting => 6
  | .released _ => 5
  | .idle => 4
  | .receiving | .leaving => 3
  | .breaking => 2
  | .disconnecting => 1
  | .ended | .gone => 0

end Receiver

namespace Relay

def ofValues (values : List α) : Relay α := { remaining := values }

def produce? (x : Relay α) : Option (Relay α) :=
  x.toExchange.produce?.map fun exchange => { x with toExchange := exchange }

/-- The receiver begins its next call, or goes on with the one it has begun. -/
def attend? (x : Relay α) : Option (Relay α) :=
  match x.link.receiver with
  | .idle => some { x with link := x.link.receive }
  | .receiving =>
    x.link.receiverStep?.map fun link =>
      { x with link, received := x.received ++ link.receiver.held?.toList }
  | .holding _ => some { x with link := x.link.release, begun := x.begun + 1 }
  | .released verdict =>
    some { x with
      link := { x.link with receiver := .idle }
      released := x.released ++ [verdict] }
  | _ => x.link.receiverStep?.map fun link => { x with link }

def threads : List (Relay α → Option (Relay α)) := [produce?, attend?]

/-- What came of the hand-overs that have returned. -/
def handOvers (x : Relay α) : List Bool := x.results ++ x.link.sender.result?.toList

/-- What came of the releases that have returned. -/
def verdicts (x : Relay α) : List Verdict := x.released ++ x.link.receiver.result?.toList

/-- Goes down with every action. -/
def work (x : Relay α) : Nat :=
  20 * x.remaining.length + x.link.sender.work + x.link.receiver.work

/-! ### The invariant -/

structure Sound (values : List α) (x : Relay α) : Prop where
  paced : x.link.Paced
  inOrder : x.received ++ x.link.sender.offered?.toList ++ x.remaining = values
  departed : x.link.sender.departs = true → x.remaining = []
  results : x.results.length + x.link.sender.owes = x.received.length
  delivered : ∀ d ∈ x.results, d = true
  begun : x.begun + x.link.receiver.held?.toList.length = x.received.length
  released : x.released.length + x.link.receiver.owes = x.begun
  passed : ∀ v ∈ x.released, v = .passed

theorem sound_ofValues (values : List α) : (ofValues values).Sound values where
  paced := Handoff.paced_start
  inOrder := rfl
  departed := nofun
  results := rfl
  delivered := by simp [ofValues]
  begun := rfl
  released := rfl
  passed := by simp [ofValues]

end Relay

/-! ### What a call keeps while it goes on -/

namespace Handoff

theorem Paced.senderStep_keeps {h k : Handoff α} (hp : Paced h) (hk : h.senderStep? = some k) :
    k.receiver = h.receiver ∧ k.sender.offered? = h.sender.offered? ∧
      k.sender.departs = h.sender.departs ∧ k.sender.owes = h.sender.owes := by
  cases hp with
  | @apart g s r hs hr =>
    cases hs with
    | offering value => cases hr <;> simp [senderStep?] at hk
    | waking hlt =>
      simp [senderStep?, Barrier.verdict?_pair_of_lt 0 hlt] at hk
      simp [← hk, Sender.offered?, Sender.departs, Sender.owes]
    | _ => simp [senderStep?] at hk <;> simp [← hk, Sender.offered?, Sender.departs, Sender.owes]
  | held _ | receiverWaits =>
    simp [senderStep?] at hk
    simp [← hk, Sender.offered?, Sender.departs, Sender.owes]
  | senderWaits _ | ended => simp [senderStep?] at hk

theorem receiverStep_meets {h k : Handoff α} (hr : h.receiver = .receiving)
    (hk : h.receiverStep? = some k) :
    (∃ v, h.sender = .offering v ∧ k = { h with sender := .pacing, receiver := .holding v }) ∨
      h.sender = .gone ∧ k = { h with receiver := .ended } := by
  cases hs : h.sender <;> simp [receiverStep?, hr, hs] at hk
  · exact .inl ⟨_, rfl, hk.symm⟩
  · exact .inr ⟨rfl, hk.symm⟩

theorem Paced.receiverStep_keeps {h k : Handoff α} (hp : Paced h) (hr : h.receiver ≠ .receiving)
    (hk : h.receiverStep? = some k) :
    k.sender = h.sender ∧ k.receiver.held? = h.receiver.held? ∧
      k.receiver.owes = h.receiver.owes := by
  cases hp with
  | @apart g s r hs hr' =>
    cases hr' with
    | receiving => exact absurd rfl hr
    | waking hlt =>
      simp [receiverStep?, Barrier.verdict?_pair_of_lt 0 hlt, afterWait] at hk
      simp [← hk, Receiver.held?, Receiver.owes]
    | _ => simp [receiverStep?] at hk <;> simp [← hk, Receiver.held?, Receiver.owes]
  | held hr' =>
    cases hr' <;> simp [receiverStep?] at hk
    simp [← hk, Receiver.held?, Receiver.owes]
  | senderWaits hr' =>
    cases hr' <;> simp [receiverStep?, afterWait] at hk
    simp [← hk, Receiver.held?, Receiver.owes]
  | receiverWaits | ended => simp [receiverStep?] at hk

end Handoff

namespace Relay
open Schedule

theorem Sound.produce {values : List α} {x y : Relay α} (hx : x.Sound values)
    (hy : x.produce? = some y) : y.Sound values := by
  obtain ⟨⟨⟨pacing, sender, receiver⟩, remaining, results⟩, received, begun, released⟩ := x
  obtain ⟨hp, ho, hg, hr, hd, hb, hl, hv⟩ := hx
  cases sender with
  | idle =>
    cases hp with
    | apart hs hr' =>
      cases remaining with
      | nil =>
        simp [produce?, Exchange.produce?, Handoff.dropSender] at hy
        exact hy ▸ ⟨.apart .leaving hr', ho, fun _ => rfl, hr, hd, hb, hl, hv⟩
      | cons value remaining =>
        simp [produce?, Exchange.produce?, Handoff.offer] at hy
        refine hy ▸ ⟨.apart (.offering value) hr', ?_, nofun, hr, hd, hb, hl, hv⟩
        simpa [Sender.offered?] using ho
  | returned delivered =>
    cases hp with
    | apart hs hr' =>
      cases hs
      simp [produce?, Exchange.produce?] at hy
      refine hy ▸ ⟨.apart .idle hr', ho, nofun, ?_, ?_, hb, hl, hv⟩
      · simpa [Sender.owes] using hr
      · simpa [or_imp, forall_and] using hd
  | _ =>
    simp only [produce?, Exchange.produce?, Option.map_eq_some_iff] at hy
    obtain ⟨e, ⟨k, hk, rfl⟩, rfl⟩ := hy
    obtain ⟨hkr, hko, hkg, hkn⟩ := hp.senderStep_keeps hk
    refine ⟨hp.senderStep hk, ?_, ?_, ?_, hd, ?_, ?_, hv⟩
    · simpa [hko] using ho
    · simpa [hkg] using hg
    · simpa [hkn] using hr
    · simpa [hkr] using hb
    · simpa [hkr] using hl

theorem Sound.attend {values : List α} {x y : Relay α} (hx : x.Sound values)
    (hy : x.attend? = some y) : y.Sound values := by
  obtain ⟨⟨⟨pacing, sender, receiver⟩, remaining, results⟩, received, begun, released⟩ := x
  obtain ⟨hp, ho, hg, hr, hd, hb, hl, hv⟩ := hx
  cases receiver with
  | idle =>
    cases hp with
    | apart hs hr' =>
      simp [attend?, Handoff.receive] at hy
      exact hy ▸ ⟨.apart hs .receiving, ho, hg, hr, hd, hb, hl, hv⟩
    | held hr' => nomatch hr'
    | senderWaits hr' => nomatch hr'
  | receiving =>
    simp only [attend?, Option.map_eq_some_iff] at hy
    obtain ⟨k, hk, rfl⟩ := hy
    have hpk := hp.receiverStep hk
    obtain ⟨v, hs, rfl⟩ | ⟨-, rfl⟩ := Handoff.receiverStep_meets rfl hk
    · obtain rfl : sender = .offering v := hs
      refine ⟨hpk, ?_, nofun, ?_, hd, ?_, hl, hv⟩
      · simpa [Sender.offered?, Receiver.held?] using ho
      · simpa [Sender.owes, Receiver.held?] using hr
      · simpa [Receiver.held?] using hb
    · exact ⟨hpk, by simpa [Receiver.held?] using ho, hg, by simpa [Receiver.held?] using hr, hd,
        by simpa [Receiver.held?] using hb, hl, hv⟩
  | holding value =>
    simp [attend?, Handoff.release] at hy
    have hpk : Handoff.Paced ⟨pacing, sender, .releasing⟩ := by
      cases hp with
      | apart _ hr' => nomatch hr'
      | held => exact .held .releasing
      | senderWaits => exact .senderWaits .releasing
    refine hy ▸ ⟨hpk, ho, hg, hr, hd, ?_, ?_, hv⟩
    · simpa [Receiver.held?] using hb
    · simpa [Receiver.owes] using hl
  | released verdict =>
    cases hp with
    | apart hs hr' =>
      cases hr'
      simp [attend?] at hy
      refine hy ▸ ⟨.apart hs .idle, ho, hg, hr, hd, hb, ?_, ?_⟩
      · simpa [Receiver.owes] using hl
      · simpa [or_imp, forall_and] using hv
    | held hr' => nomatch hr'
    | senderWaits hr' => nomatch hr'
  | _ =>
    simp only [attend?, Option.map_eq_some_iff] at hy
    obtain ⟨k, hk, rfl⟩ := hy
    obtain ⟨hks, hkh, hkn⟩ := hp.receiverStep_keeps nofun hk
    refine ⟨hp.receiverStep hk, ?_, ?_, ?_, hd, ?_, ?_, hv⟩
    · simpa [hks] using ho
    · simpa [hks] using hg
    · simpa [hks] using hr
    · simpa [hkh] using hb
    · simpa [hkn] using hl

theorem sound_of_reachable {values : List α} {x : Relay α}
    (h : Reachable threads (ofValues values) x) : x.Sound values :=
  h.invariant (sound_ofValues values) fun act hact y z hy hz => by
    simp only [threads, List.mem_cons, List.not_mem_nil, or_false] at hact
    obtain rfl | rfl := hact
    · exact hy.produce hz
    · exact hy.attend hz

/-! ### What the invariant says of calls -/

theorem Sound.received_le {values : List α} {x : Relay α} (hx : x.Sound values) :
    x.received.length ≤ x.handOvers.length + 1 := by
  have hr := hx.results
  have ho : x.link.sender.owes ≤ 1 := by cases x.link.sender <;> simp [Sender.owes]
  rw [handOvers, List.length_append]
  omega

theorem Sound.received_le_verdicts {values : List α} {x : Relay α} (hx : x.Sound values) :
    x.received.length ≤ x.verdicts.length + 1 := by
  have hb := hx.begun
  have hl := hx.released
  have ho : x.link.receiver.held?.toList.length + x.link.receiver.owes ≤ 1 := by
    cases x.link.receiver <;> simp [Receiver.held?, Receiver.owes]
  rw [verdicts, List.length_append]
  omega

/-- A hand-over that has returned belongs to a release that has begun. -/
theorem Sound.handOvers_le {values : List α} {x : Relay α} (hx : x.Sound values) :
    x.handOvers.length ≤ x.begun := by
  obtain ⟨⟨⟨pacing, sender, receiver⟩, remaining, results⟩, received, begun, released⟩ := x
  obtain ⟨hp, -, -, hr, -, hb, -, -⟩ := hx
  cases hp with
  | apart hs hr' =>
    cases hs <;> cases hr' <;> simp [handOvers, Sender.result?, Sender.owes, Receiver.held?] at * <;>
      omega
  | held hr' | senderWaits hr' =>
    cases hr' <;> simp [handOvers, Sender.result?, Sender.owes, Receiver.held?] at * <;> omega
  | receiverWaits | ended =>
    simp [handOvers, Sender.result?, Sender.owes, Receiver.held?] at *
    omega

theorem Sound.delivered_handOvers {values : List α} {x : Relay α} (hx : x.Sound values) :
    ∀ d ∈ x.handOvers, d = true := by
  obtain ⟨⟨⟨pacing, sender, receiver⟩, remaining, results⟩, received, begun, released⟩ := x
  obtain ⟨hp, -, -, -, hd, -, -, -⟩ := hx
  have hreturned : ∀ d ∈ sender.result?, d = true := by
    cases hp with
    | apart hs _ => cases hs <;> simp [Sender.result?]
    | _ => simp [Sender.result?]
  intro d hmem
  rcases List.mem_append.mp hmem with hmem | hmem
  · exact hd d hmem
  · exact hreturned d (by simpa using hmem)

theorem Sound.passed_verdicts {values : List α} {x : Relay α} (hx : x.Sound values) :
    ∀ v ∈ x.verdicts, v = .passed := by
  obtain ⟨⟨⟨pacing, sender, receiver⟩, remaining, results⟩, received, begun, released⟩ := x
  obtain ⟨hp, -, -, -, -, -, -, hv⟩ := hx
  have hreturned : ∀ v ∈ receiver.result?, v = .passed := by
    cases hp with
    | apart _ hr => cases hr <;> simp [Receiver.result?]
    | held hr | senderWaits hr => cases hr <;> simp [Receiver.result?]
    | receiverWaits | ended => simp [Receiver.result?]
  intro v hmem
  rcases List.mem_append.mp hmem with hmem | hmem
  · exact hv v hmem
  · exact hreturned v (by simpa using hmem)

/-! ### Every call returns -/

theorem senderStep_work {h k : Handoff α} (hk : h.senderStep? = some k) :
    k.sender.work + k.receiver.work < h.sender.work + h.receiver.work := by
  obtain ⟨pacing, sender, receiver⟩ := h
  cases sender with
  | offering value =>
    cases receiver <;> simp [Handoff.senderStep?] at hk
    simp [← hk, Sender.work]
  | pacing =>
    simp only [Handoff.senderStep?] at hk
    split at hk <;> simp at hk <;> simp [← hk, Sender.work]
  | paused g =>
    simp [Handoff.senderStep?] at hk
    obtain ⟨v, -, rfl⟩ := hk
    simp [Sender.work]
  | leaving =>
    simp [Handoff.senderStep?] at hk
    subst hk
    by_cases hw : 0 < pacing.waiting <;> simp [hw, Sender.work]
  | _ => simp [Handoff.senderStep?] at hk <;> simp [← hk, Sender.work]

theorem receiverStep_work {h k : Handoff α} (hk : h.receiverStep? = some k) :
    k.sender.work + k.receiver.work < h.sender.work + h.receiver.work := by
  obtain ⟨pacing, sender, receiver⟩ := h
  cases receiver with
  | receiving =>
    cases sender <;> simp [Handoff.receiverStep?] at hk <;>
      simp [← hk, Sender.work, Receiver.work]
  | releasing =>
    simp only [Handoff.receiverStep?] at hk
    split at hk <;> simp at hk
    · next v _ _ => cases v <;> simp [← hk, Handoff.afterWait, Receiver.work]
    · simp [← hk, Receiver.work]
  | paused g =>
    simp [Handoff.receiverStep?] at hk
    obtain ⟨v, -, rfl⟩ := hk
    cases v <;> simp [Handoff.afterWait, Receiver.work]
  | leaving =>
    simp [Handoff.receiverStep?] at hk
    subst hk
    by_cases hw : 0 < pacing.waiting <;> simp [hw, Receiver.work]
  | _ => simp [Handoff.receiverStep?] at hk <;> simp [← hk, Receiver.work]

theorem produce_work {x y : Relay α} (hy : x.produce? = some y) : y.work < x.work := by
  obtain ⟨⟨⟨pacing, sender, receiver⟩, remaining, results⟩, received, begun, released⟩ := x
  cases sender with
  | idle =>
    cases remaining <;> simp [produce?, Exchange.produce?, Handoff.dropSender, Handoff.offer] at hy
    · simp [← hy, work, Sender.work]
    · simp [← hy, work, Sender.work]
      omega
  | returned delivered =>
    simp [produce?, Exchange.produce?] at hy
    cases delivered <;> simp [← hy, work, Sender.work]
  | _ =>
    simp only [produce?, Exchange.produce?, Option.map_eq_some_iff] at hy
    obtain ⟨e, ⟨k, hk, rfl⟩, rfl⟩ := hy
    have hlt := senderStep_work hk
    dsimp only [work] at hlt ⊢
    omega

theorem attend_work {x y : Relay α} (hy : x.attend? = some y) : y.work < x.work := by
  obtain ⟨⟨⟨pacing, sender, receiver⟩, remaining, results⟩, received, begun, released⟩ := x
  cases receiver with
  | idle | holding _ | released _ =>
    simp [attend?, Handoff.receive, Handoff.release] at hy
    simp [← hy, work, Receiver.work]
  | _ =>
    simp only [attend?, Option.map_eq_some_iff] at hy
    obtain ⟨k, hk, rfl⟩ := hy
    have hlt := receiverStep_work hk
    dsimp only [work] at hlt ⊢
    omega

theorem work_lt {act : Relay α → Option (Relay α)} (hact : act ∈ threads) {x y : Relay α}
    (hy : act x = some y) : y.work < x.work := by
  simp only [threads, List.mem_cons, List.not_mem_nil, or_false] at hact
  obtain rfl | rfl := hact
  · exact produce_work hy
  · exact attend_work hy

/-- Both sides wait only once the sender has left and the receiver knows it. -/
theorem Sound.over {values : List α} {x : Relay α} (hx : x.Sound values)
    (hp : x.produce? = none) (ha : x.attend? = none) :
    x.link.sender = .gone ∧ x.link.receiver = .ended := by
  obtain ⟨⟨⟨pacing, sender, receiver⟩, remaining, results⟩, received, begun, released⟩ := x
  cases hx.paced with
  | @apart g _ _ hs hr =>
    cases hs with
    | idle => cases remaining <;> simp [produce?, Exchange.produce?] at hp
    | offering value =>
      cases hr with
      | waking hlt => simp [attend?, Handoff.receiverStep?, Barrier.verdict?_pair_of_lt 0 hlt] at ha
      | _ => simp [attend?, Handoff.receiverStep?] at ha
    | waking hlt =>
      simp [produce?, Exchange.produce?, Handoff.senderStep?, Barrier.verdict?_pair_of_lt 0 hlt]
        at hp
    | gone =>
      cases hr with
      | waking hlt => simp [attend?, Handoff.receiverStep?, Barrier.verdict?_pair_of_lt 0 hlt] at ha
      | _ => simp [attend?, Handoff.receiverStep?] at ha
    | _ => simp [produce?, Exchange.produce?, Handoff.senderStep?] at hp
  | held hr => simp [produce?, Exchange.produce?, Handoff.senderStep?] at hp
  | senderWaits hr =>
    cases hr <;> simp [attend?, Handoff.receiverStep?] at ha
  | receiverWaits => simp [produce?, Exchange.produce?, Handoff.senderStep?] at hp
  | ended => exact ⟨rfl, rfl⟩

theorem Sound.complete {values : List α} {x : Relay α} (hx : x.Sound values)
    (hp : x.produce? = none) (ha : x.attend? = none) :
    x.received = values ∧ x.handOvers.length = values.length ∧
      x.verdicts.length = values.length := by
  obtain ⟨hs, hr⟩ := hx.over hp ha
  have hrem : x.remaining = [] := hx.departed (by rw [hs]; rfl)
  have hval : x.received = values := by simpa [hs, hrem, Sender.offered?] using hx.inOrder
  have hres : x.results.length = x.received.length := by simpa [hs, Sender.owes] using hx.results
  have hbeg : x.begun = x.received.length := by simpa [hr, Receiver.held?] using hx.begun
  have hrel : x.released.length = x.begun := by simpa [hr, Receiver.owes] using hx.released
  refine ⟨hval, ?_, ?_⟩
  · simp [handOvers, hs, Sender.result?, hres, hval]
  · simp [verdicts, hr, Receiver.result?, hrel, hbeg, hval]

/-- However the two sides take turns, what has been received is the beginning of the list, at most
one value is outstanding, a hand-over returns only once the release of its value has begun, and no
hand-over or release is refused. No call is waited for forever: every action leaves less to do,
and both sides wait only when every value has been received and released. -/
theorem relayed_in_order (values : List α) {x : Relay α}
    (h : Reachable threads (ofValues values) x) :
    x.received <+: values ∧
      x.received.length ≤ x.handOvers.length + 1 ∧ x.received.length ≤ x.verdicts.length + 1 ∧
      x.handOvers.length ≤ x.begun ∧ x.begun ≤ x.received.length ∧
      (∀ d ∈ x.handOvers, d = true) ∧ (∀ v ∈ x.verdicts, v = .passed) ∧
      (∀ act ∈ threads, ∀ y, act x = some y → y.work < x.work) ∧
      ((∀ act ∈ threads, act x = none) →
        x.received = values ∧ x.handOvers.length = values.length ∧
          x.verdicts.length = values.length) := by
  have hx := sound_of_reachable h
  have hbeginning : x.received <+: values :=
    ⟨x.link.sender.offered?.toList ++ x.remaining, by rw [← List.append_assoc, hx.inOrder]⟩
  have hbegun : x.begun ≤ x.received.length := by
    have := hx.begun
    omega
  refine ⟨hbeginning, hx.received_le, hx.received_le_verdicts, hx.handOvers_le, hbegun,
    hx.delivered_handOvers, hx.passed_verdicts, fun act hact y hy => work_lt hact hy, ?_⟩
  intro hstuck
  exact hx.complete (hstuck _ (by simp [threads])) (hstuck _ (by simp [threads]))

/-- The sender offers its second value before the receiver has reset the barrier. -/
theorem relayed_in_order_before_reset :
    let x : Relay Nat := settle (first? threads) 9 (ofValues [4, 7, 9])
    Reachable threads (ofValues [4, 7, 9]) x ∧
      x.link.sender = .offering 7 ∧ x.link.receiver = .resetting ∧
      x.received <+: [4, 7, 9] ∧ x.received.length ≤ x.handOvers.length + 1 ∧
      x.handOvers.length ≤ x.begun ∧ ∀ d ∈ x.handOvers, d = true := by
  intro x
  have hreach : Reachable threads (ofValues [4, 7, 9]) x := reachable_settle threads 9 .refl
  obtain ⟨horder, hone, -, hafter, -, hok, -⟩ := relayed_in_order [4, 7, 9] hreach
  exact ⟨hreach, by decide, by decide, horder, hone, hafter, hok⟩

end Relay

end AccumulatorMachine
