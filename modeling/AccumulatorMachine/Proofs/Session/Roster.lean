import AccumulatorMachine.Proofs.Run.Retired

/-! All runs of a session together. Anybody may ask for a run at any time, also while a finisher calls
back, and the threads of earlier runs may still be on their way out. -/
namespace AccumulatorMachine

/-- A run that a session has accepted. -/
inductive Entry where
  /-- This part of the machine is the next to be reset. -/
  | opening (program : Program) (elapsed : Nat) (part : ResetPart)
  | running (threads : Threads)
  deriving DecidableEq, Repr

namespace Entry

def afterClear (program : Program) (elapsed : Nat) (part : ResetPart) : Entry :=
  match part.next? with
  | some next => .opening program elapsed next
  | none => .running { program, elapsed }

/-- The run has freed the session. -/
def hasFreed : Entry → Bool
  | .opening _ _ _ => false
  | .running t => t.hasFreed

theorem hasFreed_afterClear (program : Program) (elapsed : Nat) (part : ResetPart) :
    (afterClear program elapsed part).hasFreed = false := by
  cases part <;> rfl

end Entry

structure Roster where
  shared : Shared := {}
  /-- The runs that have been accepted, the oldest first. -/
  entries : List Entry := []
  deriving DecidableEq, Repr

namespace Roster

/-- What can happen in a session. Runs are numbered in the order in which they are accepted. -/
inductive Event where
  | accepted
  /-- Somebody has asked for a run while another was active. -/
  | refused
  | called (call : Call)
  /-- A part of the machine has been reset for this run to begin. -/
  | cleared (run : Nat) (part : ResetPart)
  | acted (run : Nat) (deed : Option Deed)
  deriving DecidableEq, Repr

def enroll (x : Roster) (program : Program) (elapsed : Nat) : Roster :=
  { shared := { x.shared with active := true }
    entries := x.entries ++ [.opening program elapsed .registers] }

def clear (x : Roster) (i : Nat) (program : Program) (elapsed : Nat) (part : ResetPart) : Roster :=
  { shared := { x.shared with machine := part.clear x.shared.machine }
    entries := x.entries.set i (.afterClear program elapsed part) }

def advance (x : Roster) (i : Nat) (run : Run) : Roster :=
  { shared := run.toShared, entries := x.entries.set i (.running run.toThreads) }

inductive Step : Roster → Event → Roster → Prop
  | accept {x : Roster} {run : Run} {program : Program} {elapsed : Nat}
      (h : Session.start? x.shared program elapsed = some run) :
      Step x .accepted (x.enroll program elapsed)
  | refuse {x : Roster} {program : Program} {elapsed : Nat}
      (h : Session.start? x.shared program elapsed = none) : Step x .refused x
  | call {x : Roster} {machine : Machine} (call : Call)
      (h : call.effect? x.shared.machine = some machine) :
      Step x (.called call) { x with shared := { x.shared with machine } }
  | clear {x : Roster} {i : Nat} {program : Program} {elapsed : Nat} {part : ResetPart}
      (hi : x.entries[i]? = some (.opening program elapsed part)) :
      Step x (.cleared i part) (x.clear i program elapsed part)
  | act {x : Roster} {i : Nat} {t : Threads} {s : Run} (thread : Thread)
      (hi : x.entries[i]? = some (.running t)) (h : thread.step? ⟨x.shared, t⟩ = some s) :
      Step x (.acted i (thread.deed? t)) (x.advance i s)

/-- What a session comes to, and what has happened on the way. -/
inductive Unfolds : List Event → Roster → Prop
  | start : Unfolds [] {}
  | step {course : List Event} {x y : Roster} {event : Event} (h : Unfolds course x)
      (hs : Step x event y) : Unfolds (course ++ [event]) y

theorem start?_eq_none_iff {shared : Shared} {program : Program} {elapsed : Nat} :
    Session.start? shared program elapsed = none ↔ shared.active = true := by
  simp [Session.start?]

theorem active_of_start? {shared : Shared} {program : Program} {elapsed : Nat} {run : Run}
    (h : Session.start? shared program elapsed = some run) : shared.active = false := by
  cases hactive : shared.active with
  | false => rfl
  | true =>
    rw [start?_eq_none_iff.mpr hactive] at h
    cases h

/-- One more part of the machine is reset for the run that was accepted last. -/
theorem Unfolds.clear {course : List Event} {shared : Shared} {entries : List Entry}
    {program : Program} {elapsed : Nat} {part : ResetPart}
    (h : Unfolds course { shared, entries := entries ++ [.opening program elapsed part] }) :
    Unfolds (course ++ [.cleared entries.length part])
      { shared := { shared with machine := part.clear shared.machine }
        entries := entries ++ [.afterClear program elapsed part] } := by
  have hi : (entries ++ [Entry.opening program elapsed part])[entries.length]? =
      some (.opening program elapsed part) := by
    simp
  have hstep := h.step (.clear hi)
  simpa [Roster.clear] using hstep

/-- When nobody does anything during the reset, a run starts as it is accepted. -/
theorem Unfolds.accept {course : List Event} {x : Roster} {program : Program} {elapsed : Nat}
    {run : Run} (h : Unfolds course x) (hs : Session.start? x.shared program elapsed = some run) :
    ∃ course', Unfolds (course ++ course')
      { shared := run.toShared, entries := x.entries ++ [.running run.toThreads] } := by
  have hrun : Session.accept x.shared program elapsed = run := by
    unfold Session.start? at hs
    split at hs
    · cases hs
    · exact Option.some.inj hs
  have hopening := h.step (.accept hs)
  have hregisters := Unfolds.clear hopening
  have hmailbox := Unfolds.clear hregisters
  have hawaiting := Unfolds.clear hmailbox
  have hinterrupted := Unfolds.clear hawaiting
  rw [← hrun]
  simp only [List.append_assoc] at hinterrupted
  exact ⟨_, hinterrupted⟩

/-! ### Entries -/

section
variable {α : Type} {l : List α} {a b : α} {i k : Nat}

theorem getElem?_set_cases (h : (l.set i b)[k]? = some a) :
    k = i ∧ a = b ∨ k ≠ i ∧ l[k]? = some a := by
  by_cases hki : i = k
  · subst hki
    have hlt : i < (l.set i b).length := (List.getElem?_eq_some_iff.mp h).1
    rw [List.length_set] at hlt
    rw [List.getElem?_set_self hlt] at h
    exact .inl ⟨rfl, (Option.some.inj h).symm⟩
  · rw [List.getElem?_set_ne hki] at h
    exact .inr ⟨Ne.symm hki, h⟩

theorem getElem?_set_of_some (h : l[i]? = some a) : (l.set i b)[i]? = some b :=
  List.getElem?_set_self (List.getElem?_eq_some_iff.mp h).1

theorem getElem?_concat_cases (h : (l ++ [b])[k]? = some a) :
    l[k]? = some a ∨ k = l.length ∧ a = b := by
  by_cases hlt : k < l.length
  · rw [List.getElem?_append_left hlt] at h
    exact .inl h
  · right
    rw [List.getElem?_append_right (Nat.le_of_not_lt hlt), List.getElem?_singleton] at h
    split at h
    · exact ⟨by omega, (Option.some.inj h).symm⟩
    · cases h

end

/-! ### One run at a time -/

/-- Only the run that was accepted last can occupy the session, and the session is active as long as
it does. -/
structure Sound (x : Roster) : Prop where
  joint : ∀ (i : Nat) (t : Threads), x.entries[i]? = some (.running t) → t.Joint
  last : ∀ (i : Nat) (e : Entry), x.entries[i]? = some e → e.hasFreed = false →
    i + 1 = x.entries.length
  active : x.shared.active = true ↔
    ∃ (i : Nat) (e : Entry), x.entries[i]? = some e ∧ e.hasFreed = false

namespace Sound
variable {x y : Roster}

theorem start : Sound {} where
  joint := by simp
  last := by simp
  active := by simp

theorem hasFreed_of_inactive (h : Sound x) (hx : x.shared.active = false) {i : Nat} {e : Entry}
    (hi : x.entries[i]? = some e) : e.hasFreed = true := by
  cases he : e.hasFreed with
  | true => rfl
  | false =>
    have hactive := h.active.mpr ⟨i, e, hi, he⟩
    rw [hx] at hactive
    cases hactive

theorem accept (h : Sound x) (hx : x.shared.active = false) (program : Program) (elapsed : Nat) :
    Sound (x.enroll program elapsed) := by
  constructor
  · intro i t hi
    obtain hold | ⟨-, hnew⟩ := getElem?_concat_cases hi
    · exact h.joint i t hold
    · cases hnew
  · intro i e hi he
    obtain hold | ⟨rfl, -⟩ := getElem?_concat_cases hi
    · rw [h.hasFreed_of_inactive hx hold] at he
      cases he
    · simp [enroll]
  · simp only [enroll, true_iff]
    exact ⟨x.entries.length, .opening program elapsed .registers, by simp, rfl⟩

/-- One run takes a step, and it may free the session. -/
theorem replace (h : Sound x) {i : Nat} {e e' : Entry} {shared : Shared}
    (hi : x.entries[i]? = some e) (hjoint : ∀ t, e' = .running t → t.Joint)
    (hfreed : e'.hasFreed = e.hasFreed ∧ shared.active = x.shared.active ∨
      e.hasFreed = false ∧ e'.hasFreed = true ∧ shared.active = false) :
    Sound { shared, entries := x.entries.set i e' } := by
  constructor
  · intro k t hk
    obtain ⟨-, ht⟩ | ⟨-, hold⟩ := getElem?_set_cases hk
    · exact hjoint t ht.symm
    · exact h.joint k t hold
  · intro k a hk ha
    rw [List.length_set]
    obtain ⟨rfl, rfl⟩ | ⟨-, hold⟩ := getElem?_set_cases hk
    · obtain ⟨hsame, -⟩ | ⟨hnot, -, -⟩ := hfreed
      · exact h.last k e hi (hsame.symm.trans ha)
      · exact h.last k e hi hnot
    · exact h.last k a hold ha
  · obtain ⟨hsame, hactive⟩ | ⟨hnot, hnow, hinactive⟩ := hfreed
    · dsimp only
      rw [hactive, h.active]
      constructor
      · rintro ⟨k, a, hk, ha⟩
        by_cases hki : i = k
        · subst hki
          obtain rfl : e = a := Option.some.inj (hi.symm.trans hk)
          exact ⟨i, e', getElem?_set_of_some hi, hsame.trans ha⟩
        · exact ⟨k, a, (List.getElem?_set_ne hki).trans hk, ha⟩
      · rintro ⟨k, a, hk, ha⟩
        obtain ⟨-, rfl⟩ | ⟨-, hold⟩ := getElem?_set_cases hk
        · exact ⟨i, e, hi, hsame.symm.trans ha⟩
        · exact ⟨k, a, hold, ha⟩
    · -- The run that frees the session was the only one that occupied it.
      simp only [hinactive, Bool.false_eq_true, false_iff]
      rintro ⟨k, a, hk, ha⟩
      obtain ⟨-, rfl⟩ | ⟨hki, hold⟩ := getElem?_set_cases hk
      · rw [hnow] at ha
        cases ha
      · have hlast := h.last k a hold ha
        have hlast' := h.last i e hi hnot
        exact hki (by omega)

theorem step (h : Sound x) {event : Event} (hs : Step x event y) : Sound y := by
  cases hs with
  | accept hstart => exact h.accept (active_of_start? hstart) _ _
  | refuse => exact h
  | call => exact ⟨h.joint, h.last, h.active⟩
  | @clear i program elapsed part hi =>
    refine h.replace hi ?_ (.inl ⟨Entry.hasFreed_afterClear program elapsed part, rfl⟩)
    intro t ht
    cases part <;> cases ht
    exact Threads.joint_start program elapsed
  | act thread hi hstep =>
    refine h.replace hi ?_ (Threads.step_frees hstep)
    rintro t ⟨⟩
    exact (h.joint _ _ hi).step hstep

end Sound

theorem sound_of_unfolds {course : List Event} {x : Roster} (h : Unfolds course x) : x.Sound := by
  induction h with
  | start => exact .start
  | step _ hs ih => exact ih.step hs

/-! ### Playing a session -/

/-- What somebody may try to do in a session. -/
inductive Attempt where
  | ask (program : Program) (elapsed : Nat)
  /-- A thread of this run is to go on, or else its reset. -/
  | proceed (run : Nat) (thread : Thread)

def attempt? (x : Roster) : Attempt → Option (Event × Roster)
  | .ask program elapsed =>
    match Session.start? x.shared program elapsed with
    | none => some (.refused, x)
    | some _ => some (.accepted, x.enroll program elapsed)
  | .proceed i thread =>
    match x.entries[i]? with
    | none => none
    | some (.opening program elapsed part) =>
      some (.cleared i part, x.clear i program elapsed part)
    | some (.running t) =>
      (thread.step? ⟨x.shared, t⟩).map fun s => (.acted i (thread.deed? t), x.advance i s)

theorem step_of_attempt? {x y : Roster} {attempt : Attempt} {event : Event}
    (h : x.attempt? attempt = some (event, y)) : Step x event y := by
  unfold attempt? at h
  split at h
  · split at h <;> cases h
    · exact .refuse ‹_›
    · exact .accept ‹_›
  · split at h
    · cases h
    · cases h
      exact .clear ‹_›
    · obtain ⟨s, hs, hy⟩ := Option.map_eq_some_iff.mp h
      cases hy
      exact .act _ ‹_› hs

/-- The threads of a run take turns. -/
def turns (run rounds : Nat) : List Attempt :=
  (List.replicate rounds
    [.proceed run .finisher, .proceed run .runner, .proceed run .printer]).flatten

/-- Makes the attempts one after another, each if it is possible. -/
def play : List Attempt → List Event × Roster → List Event × Roster
  | [], p => p
  | attempt :: rest, (course, x) =>
    match x.attempt? attempt with
    | none => play rest (course, x)
    | some (event, y) => play rest (course ++ [event], y)

theorem Unfolds.play (attempts : List Attempt) {course : List Event} {x : Roster}
    (h : Unfolds course x) :
    Unfolds (play attempts (course, x)).1 (play attempts (course, x)).2 := by
  induction attempts generalizing course x with
  | nil => exact h
  | cons attempt rest ih =>
    unfold Roster.play
    split
    · exact ih h
    · next hs => exact ih (h.step (step_of_attempt? hs))

end Roster

end AccumulatorMachine
