import AccumulatorMachine.Mailbox
import AccumulatorMachine.Proofs.Since

/-! Any number of writers and readers at one mailbox. Whoever reads an empty mailbox sleeps until a
write or a close notifies it, and looks again as late as it likes; others may have come first by
then. Every value that is written is taken once or has a reason not to be, and nobody is left asleep
beside a mailbox that has something to say. -/
namespace AccumulatorMachine.Mailbox

variable {α : Type}

/-- A mailbox and the readers that have found it empty. -/
structure WaitingRoom (α : Type) where
  mailbox : Mailbox α := {}
  sleeping : List Nat := []
  /-- The readers that have been notified and have not looked again. -/
  notified : List Nat := []

/-- What is done to a mailbox while it is locked. -/
inductive Event (α : Type) where
  | wrote (value : α)
  /-- A read comes back with a value. -/
  | took (reader : Nat) (value : α)
  /-- A read comes back without one. -/
  | refused (reader : Nat)
  | slept (reader : Nat)
  | closed
  | reset

/-- A reader looks at the mailbox, when it begins to read or when it has been notified. -/
def WaitingRoom.look (r : WaitingRoom α) (reader : Nat) : Event α × WaitingRoom α :=
  match r.mailbox.read? with
  | none => (.slept reader, { r with sleeping := r.sleeping ++ [reader] })
  | some (some value, mailbox) => (.took reader value, { r with mailbox })
  | some (none, mailbox) => (.refused reader, { r with mailbox })

/-- A write notifies one of the readers that sleep, whichever it is, and a close notifies them all. Any
number of readers may go by one number. -/
inductive Step : WaitingRoom α → Event α → WaitingRoom α → Prop
  | read {r r' : WaitingRoom α} {e : Event α} (reader : Nat) (h : r.look reader = (e, r')) :
      Step r e r'
  | lookAgain {r r' : WaitingRoom α} {e : Event α} (reader : Nat) (hmem : reader ∈ r.notified)
      (h : { r with notified := r.notified.erase reader }.look reader = (e, r')) : Step r e r'
  | write {r : WaitingRoom α} (value : α) (hnobody : r.sleeping = []) :
      Step r (.wrote value) { r with mailbox := r.mailbox.write value }
  | notify {r : WaitingRoom α} (reader : Nat) (value : α) (hmem : reader ∈ r.sleeping) :
      Step r (.wrote value)
        { mailbox := r.mailbox.write value, sleeping := r.sleeping.erase reader,
          notified := r.notified ++ [reader] }
  | close (r : WaitingRoom α) :
      Step r .closed
        { mailbox := r.mailbox.close, sleeping := [], notified := r.notified ++ r.sleeping }
  | reset (r : WaitingRoom α) : Step r .reset { r with mailbox := r.mailbox.reset }

/-- What has been done to a mailbox in some order, and what it and its readers have come to. -/
inductive Unfolds : List (Event α) → WaitingRoom α → Prop
  | start : Unfolds [] {}
  | step {history : List (Event α)} {r r' : WaitingRoom α} {e : Event α} (h : Unfolds history r)
      (hs : Step r e r') : Unfolds (history ++ [e]) r'

/-! ### What a step does -/

/-- What a reader finds. -/
inductive Looks (r : WaitingRoom α) (reader : Nat) : Event α → WaitingRoom α → Prop
  | sleeps (hopen : r.mailbox.closed = false) (hempty : r.mailbox.value = none) :
      Looks r reader (.slept reader) { r with sleeping := r.sleeping ++ [reader] }
  | takes {value : α} (hopen : r.mailbox.closed = false) (hvalue : r.mailbox.value = some value) :
      Looks r reader (.took reader value) { r with mailbox := {} }
  | refused (hclosed : r.mailbox.closed = true) : Looks r reader (.refused reader) r

theorem looks_of_look {r r' : WaitingRoom α} {reader : Nat} {e : Event α}
    (h : r.look reader = (e, r')) : Looks r reader e r' := by
  obtain ⟨⟨value, closed⟩, sleeping, notified⟩ := r
  cases closed with
  | true =>
    cases h
    exact .refused rfl
  | false =>
    cases value with
    | none =>
      cases h
      exact .sleeps rfl rfl
    | some value =>
      cases h
      exact .takes rfl rfl

/-- What is done to the mailbox, whoever does it. -/
inductive Acts (m : Mailbox α) : Event α → Mailbox α → Prop
  | wrote (value : α) : Acts m (.wrote value) (m.write value)
  | took {value : α} (reader : Nat) (hvalue : m.value = some value) : Acts m (.took reader value) {}
  | refused (reader : Nat) (hclosed : m.closed = true) : Acts m (.refused reader) m
  | slept (reader : Nat) : Acts m (.slept reader) m
  | closed : Acts m .closed m.close
  | reset : Acts m .reset m.reset

theorem Looks.acts {r r' : WaitingRoom α} {reader : Nat} {e : Event α} (h : Looks r reader e r') :
    Acts r.mailbox e r'.mailbox := by
  cases h with
  | sleeps => exact .slept reader
  | takes _ hvalue => exact .took reader hvalue
  | refused hclosed => exact .refused reader hclosed

theorem Step.acts {r r' : WaitingRoom α} {e : Event α} (h : Step r e r') :
    Acts r.mailbox e r'.mailbox := by
  cases h with
  | read reader h => exact (looks_of_look h).acts
  | lookAgain reader _ h => exact (looks_of_look h).acts
  | write value | notify _ value => exact .wrote value
  | close => exact .closed
  | reset => exact .reset

/-! ### What a history says of a value -/

def Event.written? : Event α → Option α
  | .wrote value => some value
  | _ => none

def Event.returned? : Event α → Option α
  | .took _ value => some value
  | _ => none

def written (history : List (Event α)) : List α := history.filterMap Event.written?

/-- The values that reads have come back with, in their order. -/
def returned (history : List (Event α)) : List α := history.filterMap Event.returned?

@[simp] theorem written_concat (history : List (Event α)) (e : Event α) :
    written (history ++ [e]) = written history ++ e.written?.toList := by
  cases e <;> simp [written, Event.written?, List.filterMap_cons]

@[simp] theorem returned_concat (history : List (Event α)) (e : Event α) :
    returned (history ++ [e]) = returned history ++ e.returned?.toList := by
  cases e <;> simp [returned, Event.returned?, List.filterMap_cons]

/-- The mailbox has a new value afterwards, or none. -/
def Event.touches : Event α → Bool
  | .wrote _ | .took _ _ | .reset => true
  | _ => false

def Untouched (events : List (Event α)) : Prop := ∀ e ∈ events, e.touches = false

/-- The value has been written, and nothing has been written, taken or dropped since. -/
def Pending (history : List (Event α)) (value : α) : Prop :=
  Since (· = .wrote value) (·.touches = false) history

/-- What becomes of a value in the events that follow its write. -/
inductive Fate (r : WaitingRoom α) (value : α) (after : List (Event α)) : Prop
  | pending (hafter : Untouched after) (hvalue : r.mailbox.value = some value)
  | returned {between later : List (Event α)} {reader : Nat} (hbetween : Untouched between)
      (hafter : after = between ++ .took reader value :: later)
  | replaced {between later : List (Event α)} {other : α} (hbetween : Untouched between)
      (hafter : after = between ++ .wrote other :: later)
  | dropped {between later : List (Event α)} (hbetween : Untouched between)
      (hafter : after = between ++ .reset :: later)

theorem pending_of_untouched {before after : List (Event α)} {value : α} (h : Untouched after) :
    Pending (before ++ .wrote value :: after) value :=
  ⟨before, .wrote value, after, rfl, rfl, h⟩

/-- The first event that touches the mailbox, if there is one. -/
theorem untouched_or_exists (events : List (Event α)) :
    Untouched events ∨ ∃ between e later,
      events = between ++ e :: later ∧ Untouched between ∧ e.touches = true := by
  cases hfind : events.find? Event.touches with
  | none =>
    rw [List.find?_eq_none] at hfind
    exact .inl fun e he => by simpa using hfind e he
  | some e =>
    obtain ⟨htouches, between, later, rfl, hbetween⟩ := List.find?_eq_some_iff_append.mp hfind
    exact .inr ⟨between, e, later, rfl, fun e he => by simpa using hbetween e he, htouches⟩

/-! ### Values -/

/-- The value that a mailbox holds is new or has been there before. -/
theorem Acts.value_eq_some_iff {m n : Mailbox α} {e : Event α} (h : Acts m e n) {value : α} :
    n.value = some value ↔ e = .wrote value ∨ e.touches = false ∧ m.value = some value := by
  cases h with
  | wrote written => simp [write, Event.touches]
  | took | reset => simp [Mailbox.reset, Event.touches]
  | refused | slept | closed => simp [Mailbox.close, Event.touches]

namespace Unfolds

variable {history before after : List (Event α)} {r : WaitingRoom α} {e : Event α} {value : α}

/-- The mailbox holds what has been written last, unless that has been taken or dropped. -/
theorem value_eq_some_iff (h : Unfolds history r) :
    r.mailbox.value = some value ↔ Pending history value := by
  induction h with
  | start => exact iff_of_false nofun not_since_nil
  | step _ hs ih =>
    rw [Pending, since_concat, hs.acts.value_eq_some_iff, ih]
    rfl

/-- Every event of a history has been a step. -/
theorem exists_step (h : Unfolds history r) (heq : history = before ++ e :: after) :
    ∃ s t, Unfolds before s ∧ Step s e t := by
  induction h generalizing after with
  | start => simp at heq
  | step h hs ih =>
    obtain rfl | ⟨after, last, rfl⟩ := after.eq_nil_or_concat
    · obtain ⟨rfl, hlast⟩ := List.append_inj' heq rfl
      obtain rfl := List.singleton_inj.mp hlast
      exact ⟨_, _, h, hs⟩
    · rw [List.concat_eq_append, ← List.cons_append, ← List.append_assoc] at heq
      exact ih (List.append_inj' heq rfl).1

/-- Whoever takes a value takes the one that is pending. -/
theorem pending_of_took {reader : Nat} (h : Unfolds history r)
    (heq : history = before ++ .took reader value :: after) : Pending before value := by
  obtain ⟨s, t, hs, hstep⟩ := h.exists_step heq
  have hacts : Acts s.mailbox (.took reader value) t.mailbox := hstep.acts
  generalize t.mailbox = m at hacts
  cases hacts with
  | took _ hvalue => exact hs.value_eq_some_iff.mp hvalue

theorem fate (h : Unfolds history r) (heq : history = before ++ .wrote value :: after) :
    Fate r value after := by
  obtain hafter | ⟨between, e, later, rfl, hbetween, htouches⟩ := untouched_or_exists after
  · subst heq
    exact .pending hafter (h.value_eq_some_iff.mpr (pending_of_untouched hafter))
  · cases e with
    | wrote other => exact .replaced hbetween rfl
    | reset => exact .dropped hbetween rfl
    -- nothing has touched the value in between, so it is the one that was pending
    | took reader other =>
      have hsplit : history = (before ++ .wrote value :: between) ++ .took reader other :: later := by
        simpa using heq
      obtain ⟨s, t, hs, -⟩ := h.exists_step hsplit
      have hother := hs.value_eq_some_iff.mpr (h.pending_of_took hsplit)
      have hvalue := hs.value_eq_some_iff.mpr (pending_of_untouched hbetween)
      obtain rfl : other = value := Option.some.inj (hother.symm.trans hvalue)
      exact .returned hbetween rfl
    | refused | slept | closed => cases htouches

/-- The values that have been taken, and the one that can be, come in the order of the writes. -/
theorem returned_sublist (h : Unfolds history r) :
    (returned history ++ r.mailbox.value.toList).Sublist (written history) := by
  induction h with
  | start => exact List.Sublist.refl _
  | @step history r r' e _ hs ih =>
    have hacts := hs.acts
    have hreturned : (returned history).Sublist (written history) :=
      (List.sublist_append_left _ _).trans ih
    generalize r'.mailbox = m at hacts
    rw [written_concat, returned_concat]
    cases hacts with
    | wrote value =>
      simpa [Event.written?, Event.returned?, write] using hreturned.append_right [value]
    | took reader hvalue => simpa [Event.written?, Event.returned?, hvalue] using ih
    | refused | slept | closed => simpa [Event.written?, Event.returned?, Mailbox.close] using ih
    | reset => simpa [Event.written?, Event.returned?, Mailbox.reset] using hreturned

end Unfolds

/-! ### Readers -/

/-- Beside a closed mailbox nobody sleeps, and beside one that holds a value nobody does unless somebody
has been notified. -/
structure Awake (r : WaitingRoom α) : Prop where
  closed : r.mailbox.closed = true → r.sleeping = []
  holding : r.mailbox.value.isSome = true → r.sleeping ≠ [] → r.notified ≠ []

/-- A reader takes the value away or falls asleep for want of one, so that it leaves nobody behind who
could do better, even if it was the only one to have been notified. -/
theorem Looks.awake {r r' : WaitingRoom α} {reader : Nat} {e : Event α} (h : Looks r reader e r')
    (hclosed : r.mailbox.closed = true → r.sleeping = []) : Awake r' := by
  cases h with
  | sleeps hopen hempty =>
    constructor
    · intro hnot
      exact absurd (hopen.symm.trans hnot) Bool.false_ne_true
    · intro hsome
      rw [hempty] at hsome
      exact absurd hsome Bool.false_ne_true
  | takes => exact ⟨nofun, nofun⟩
  | refused hnot => exact ⟨fun _ => hclosed hnot, fun _ hsleeping => absurd (hclosed hnot) hsleeping⟩

theorem Awake.step {r r' : WaitingRoom α} {e : Event α} (h : Awake r) (hs : Step r e r') :
    Awake r' := by
  cases hs with
  | read reader hlook => exact (looks_of_look hlook).awake h.closed
  | lookAgain reader _ hlook => exact (looks_of_look hlook).awake h.closed
  | write value hnobody => exact ⟨fun _ => hnobody, fun _ hsleeping => absurd hnobody hsleeping⟩
  | notify reader value hmem =>
    constructor
    · intro hclosed
      have hnobody : r.sleeping = [] := h.closed hclosed
      rw [hnobody] at hmem
      exact absurd hmem List.not_mem_nil
    · intro _ _
      exact List.concat_ne_nil reader r.notified
  | close => exact ⟨fun _ => rfl, fun _ hsleeping => absurd rfl hsleeping⟩
  | reset => exact ⟨nofun, nofun⟩

theorem awake_of_unfolds {history : List (Event α)} {r : WaitingRoom α} (h : Unfolds history r) :
    Awake r := by
  induction h with
  | start => exact ⟨nofun, nofun⟩
  | step _ hs ih => exact ih.step hs

/-- Whatever the order of the calls and however late the notified readers look again, the values that
reads come back with are a part of those that were written, in the same order. Every one of them
was pending then: it had been written, and nothing had been written, taken or dropped since, so that
no value is taken twice. A value that is never taken has been replaced by the next one or dropped by
a reset, or the mailbox holds it still. A read comes back without a value only from a closed
mailbox, and leaves in it what it holds. When the mailbox holds a value or is closed, nobody sleeps
beside it unless somebody has been notified who has yet to look. -/
theorem exact_and_never_stranded {history : List (Event α)} {r : WaitingRoom α}
    (h : Unfolds history r) :
    (returned history).Sublist (written history) ∧
    (∀ before after reader value, history = before ++ .took reader value :: after →
      Pending before value) ∧
    (∀ before after value, history = before ++ .wrote value :: after → Fate r value after) ∧
    (∀ reader r', Step r (.refused reader) r' →
      r.mailbox.closed = true ∧ r'.mailbox = r.mailbox) ∧
    (r.mailbox.value.isSome = true ∨ r.mailbox.closed = true → r.sleeping ≠ [] →
      r.notified ≠ []) := by
  have hawake : Awake r := awake_of_unfolds h
  refine ⟨?_, fun _ _ _ _ heq => h.pending_of_took heq, fun _ _ _ heq => h.fate heq, ?_, ?_⟩
  · exact (List.sublist_append_left _ _).trans h.returned_sublist
  · intro reader r' hs
    have hacts : Acts r.mailbox (.refused reader) r'.mailbox := hs.acts
    generalize r'.mailbox = m at hacts
    cases hacts with
    | refused _ hclosed => exact ⟨hclosed, rfl⟩
  · rintro (hvalue | hclosed) hsleeping
    · exact hawake.holding hvalue hsleeping
    · exact absurd (hawake.closed hclosed) hsleeping

/-- Three readers sleep. One value replaces another and is taken by a fourth reader, before the first
one looks again and goes back to sleep. -/
def crowding : List (Event String) :=
  [.slept 1, .slept 2, .slept 3, .wrote "a", .wrote "b", .took 4 "b", .slept 1, .wrote "c"]

def crowded : WaitingRoom String :=
  { mailbox := { value := some "c" }, sleeping := [1], notified := [2, 3] }

theorem unfolds_crowding : Unfolds crowding crowded := by
  have hasleep : Unfolds (α := String) [.slept 1, .slept 2, .slept 3] { sleeping := [1, 2, 3] } :=
    ((Unfolds.start.step (.read 1 rfl)).step (.read 2 rfl)).step (.read 3 rfl)
  have hwritten : Unfolds [.slept 1, .slept 2, .slept 3, .wrote "a", .wrote "b"]
      { mailbox := { value := some "b" }, sleeping := [3], notified := [1, 2] } :=
    (hasleep.step (.notify 1 "a" (by decide))).step (.notify 2 "b" (by decide))
  have hlooked : Unfolds [.slept 1, .slept 2, .slept 3, .wrote "a", .wrote "b", .took 4 "b", .slept 1]
      { sleeping := [3, 1], notified := [2] } :=
    (hwritten.step (.read 4 rfl)).step (.lookAgain 1 (by decide) rfl)
  exact hlooked.step (.notify 3 "c" (by decide))

theorem exact_and_never_stranded_crowding :
    Unfolds crowding crowded ∧ ["b"].Sublist ["a", "b", "c"] ∧
      Pending [.slept 1, .slept 2, .slept 3, .wrote "a", .wrote "b"] "b" ∧
      Fate crowded "a" [.wrote "b", .took 4 "b", .slept 1, .wrote "c"] ∧
      crowded.sleeping ≠ [] ∧ crowded.notified ≠ [] := by
  obtain ⟨hsublist, htook, hfate, -, hawake⟩ := exact_and_never_stranded unfolds_crowding
  have hsleeping : crowded.sleeping ≠ [] := by decide
  exact ⟨unfolds_crowding, hsublist, htook _ [.slept 1, .wrote "c"] 4 "b" rfl,
    hfate [.slept 1, .slept 2, .slept 3] _ "a" rfl, hsleeping, hawake (.inl rfl) hsleeping⟩

end AccumulatorMachine.Mailbox
