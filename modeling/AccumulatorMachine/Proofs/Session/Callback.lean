import AccumulatorMachine.Proofs.Run.Record
import AccumulatorMachine.Proofs.Session.Exclusive

/-! How a run ends in its session. Its last message is out, its runner has reset the machine and the
session is free before its finisher calls back, and it does so once. -/
namespace AccumulatorMachine

namespace Roster

/-- What a run has done, if the event is one of its deeds. -/
def Event.deed? (i : Nat) : Event → Option Deed
  | .acted j deed => if j = i then deed else none
  | _ => none

def deeds (i : Nat) (course : List Event) : List Deed := course.filterMap (Event.deed? i)

@[simp] theorem deeds_append (i : Nat) (course : List Event) (event : Event) :
    deeds i (course ++ [event]) = deeds i course ++ (event.deed? i).toList := by
  unfold deeds
  rw [List.filterMap_append]
  cases h : event.deed? i <;> simp [h]

/-! ### What is recorded of the session -/

def Event.message? : Event → Option Message
  | .acted _ deed => deed.bind Deed.message?
  | _ => none

def Event.callsBack : Event → Bool
  | .acted _ deed => deed = some .calledBack
  | _ => false

/-- The console holds what has been shown, and every call back has been counted. -/
theorem Unfolds.explained {course : List Event} {x : Roster} (h : Unfolds course x) :
    x.shared.console = course.filterMap Event.message? ∧
      x.shared.callbacks = course.countP Event.callsBack := by
  induction h with
  | start => exact ⟨rfl, rfl⟩
  | @step course x y event _ hs ih =>
    obtain ⟨hconsole, hcallbacks⟩ := ih
    rw [List.filterMap_append, List.countP_append, ← hconsole, ← hcallbacks]
    cases hs with
    | accept | refuse | call | clear => exact ⟨(List.append_nil _).symm, rfl⟩
    | act thread hi hstep =>
      have hshown := Deed.Explains.console (Run.does_step hstep)
      have hcounted := Deed.Explains.callbacks (Run.does_step hstep)
      constructor
      · refine hshown.trans ?_
        cases hm : (thread.deed? _).bind Deed.message? <;> simp [Event.message?, hm]
      · refine hcounted.trans ?_
        simp [Event.callsBack, List.countP_singleton]

/-- Every run that is at work has its record, and one that has yet to begin has none. -/
structure Recorded (course : List Event) (x : Roster) : Prop where
  running : ∀ (i : Nat) (t : Threads), x.entries[i]? = some (.running t) →
    t.Record (deeds i course)
  idle : ∀ i, (∀ t, x.entries[i]? ≠ some (.running t)) → deeds i course = []

namespace Recorded
variable {course : List Event} {x y : Roster} {event : Event}

/-- Nobody's record changes. -/
theorem silent (h : Recorded course x) (hevent : ∀ i, event.deed? i = none) :
    Recorded (course ++ [event]) x where
  running i t hi := by
    rw [deeds_append, hevent]
    simpa using h.running i t hi
  idle i hi := by
    rw [deeds_append, hevent]
    simpa using h.idle i hi

theorem enroll (h : Recorded course x) (program : Program) (elapsed : Nat) :
    Recorded course (x.enroll program elapsed) where
  running i t hi := by
    obtain hold | ⟨-, hnew⟩ := getElem?_concat_cases hi
    · exact h.running i t hold
    · cases hnew
  idle i hi := by
    refine h.idle i fun t ht => hi t ?_
    have hlt : i < x.entries.length := (List.getElem?_eq_some_iff.mp ht).1
    exact (List.getElem?_append_left hlt).trans ht

theorem clear (h : Recorded course x) {i : Nat} {program : Program} {elapsed : Nat}
    {part : ResetPart} (hi : x.entries[i]? = some (.opening program elapsed part)) :
    Recorded course (x.clear i program elapsed part) where
  running k t hk := by
    obtain ⟨rfl, ht⟩ | ⟨-, hold⟩ := getElem?_set_cases hk
    · have hempty : deeds k course = [] := by
        refine h.idle k fun u hu => ?_
        rw [hi] at hu
        cases hu
      rw [hempty]
      cases part <;> cases ht
      exact Threads.record_start program elapsed
    · exact h.running k t hold
  idle k hk := by
    refine h.idle k fun t ht => ?_
    by_cases hki : i = k
    · subst hki
      rw [hi] at ht
      cases ht
    · exact hk t ((List.getElem?_set_ne hki).trans ht)

theorem act (h : Recorded course x) (hx : x.Sound) {i : Nat} {t : Threads} {s : Run}
    (thread : Thread) (hi : x.entries[i]? = some (.running t))
    (hs : thread.step? ⟨x.shared, t⟩ = some s) :
    Recorded (course ++ [.acted i (thread.deed? t)]) (x.advance i s) where
  running k u hk := by
    rw [deeds_append]
    obtain ⟨rfl, hu⟩ | ⟨hki, hold⟩ := getElem?_set_cases hk
    · obtain rfl : u = s.toThreads := by simpa using hu
      have hstep := (h.running k t hi).step (hx.joint k t hi) hs
      simpa [Event.deed?] using hstep
    · simpa [Event.deed?, Ne.symm hki] using h.running k u hold
  idle k hk := by
    rw [deeds_append]
    by_cases hki : i = k
    · subst hki
      exact absurd (getElem?_set_of_some hi) (hk s.toThreads)
    · have hempty : deeds k course = [] :=
        h.idle k fun u hu => hk u ((List.getElem?_set_ne hki).trans hu)
      simp [Event.deed?, hki, hempty]

theorem step (h : Recorded course x) (hx : x.Sound) (hs : Step x event y) :
    Recorded (course ++ [event]) y := by
  cases hs with
  | accept => exact (h.enroll _ _).silent fun _ => rfl
  | refuse => exact h.silent fun _ => rfl
  | call c hc =>
    have hcalled : Recorded (course ++ [.called c]) x := h.silent fun _ => rfl
    exact ⟨hcalled.running, hcalled.idle⟩
  | clear hi => exact (h.clear hi).silent fun _ => rfl
  | act thread hi hstep => exact h.act hx thread hi hstep

end Recorded

theorem recorded_of_unfolds {course : List Event} {x : Roster} (h : Unfolds course x) :
    Recorded course x := by
  induction h with
  | start => exact ⟨by simp, fun _ _ => rfl⟩
  | step h hs ih => exact ih.step (sound_of_unfolds h) hs

/-! ### The end of a run -/

/-- A finisher whose runner has ended goes on until it has called back. -/
theorem finisher_goes_on {t : Threads} (hj : t.Joint) {report : Report}
    (hrunner : t.runner = .finished report) (shared : Shared) :
    (∃ verdict, t.finisher = .finished verdict) ∨
      ∃ s, Thread.finisher.step? ⟨shared, t⟩ = some s ∧ s.finisher.slack < t.finisher.slack := by
  have hsig := hj.signalled
  obtain ⟨program, elapsed, statuses, completion, runner, printer, finisher⟩ := t
  obtain rfl : runner = .finished report := hrunner
  cases hsig with
  | before h | observed h => cases h
  | met _ hf =>
    cases hf with
    | waking => exact .inr ⟨_, rfl, by simp [FinisherPhase.slack]⟩
    | freeing => exact .inr ⟨_, rfl, by simp [FinisherPhase.slack]⟩
    | calling => exact .inr ⟨_, rfl, by simp [FinisherPhase.slack]⟩
    | finished => exact .inl ⟨_, rfl⟩

/-- No thread of a run that has freed its session does anything to the machine or the console. -/
theorem freed_keeps {t : Threads} (hj : t.Joint) (hf : t.hasFreed = true) {shared : Shared}
    {thread : Thread} {s : Run} (hs : thread.step? ⟨shared, t⟩ = some s) :
    s.machine = shared.machine ∧ s.console = shared.console := by
  obtain ⟨hrunner, hprinter⟩ := hj.aloof hf
  cases thread with
  | runner =>
    have hsame := hrunner.keeps hs
    exact ⟨congrArg Shared.machine hsame, congrArg Shared.console hsame⟩
  | printer =>
    have hsame := hprinter.keeps hs
    exact ⟨congrArg Shared.machine hsame, congrArg Shared.console hsame⟩
  | finisher =>
    obtain ⟨program, elapsed, statuses, completion, runner, printer, finisher⟩ := t
    cases finisher with
    | calling verdict =>
      cases hs
      exact ⟨rfl, rfl⟩
    | finished verdict => cases hs
    | _ => cases hf

/-- A session that is active although a run has freed it is occupied by a later one. -/
theorem Sound.occupied {x : Roster} (h : x.Sound) {course : List Event}
    (hr : Recorded course x) (hactive : x.shared.active = true) {i : Nat} {t : Threads}
    (hi : x.entries[i]? = some (.running t)) (hf : t.hasFreed = true) :
    ∃ j, i < j ∧ j < x.entries.length ∧ .freed ∉ deeds j course := by
  obtain ⟨j, e, hj, he⟩ := h.active.mp hactive
  have hlast := h.last j e hj he
  have hilt : i < x.entries.length := (List.getElem?_eq_some_iff.mp hi).1
  have hne : i ≠ j := by
    rintro rfl
    obtain rfl : Entry.running t = e := Option.some.inj (hi.symm.trans hj)
    rw [Entry.hasFreed, hf] at he
    cases he
  refine ⟨j, by omega, by omega, ?_⟩
  cases e with
  | opening program elapsed part =>
    have hempty : deeds j course = [] := by
      refine hr.idle j fun u hu => ?_
      rw [hj] at hu
      cases hu
    rw [hempty]
    exact List.not_mem_nil
  | running u =>
    have hnot : u.hasFreed = false := he
    rw [(hr.running j u hj).freed_iff, hnot]
    exact Bool.false_ne_true

/-- Whatever the order of the actions and whoever asks for runs: apart from the work of the machine a
run does to the session what is recorded of it. A run whose finisher has called back has done so once,
after it has shown its messages, the last of which ends a run, after it has reset the machine and
after it has freed the session. A run that has ended calls back, for nothing keeps its finisher
waiting. A run that has freed the session is no reason to refuse another, and it leaves the machine
and the console alone. -/
theorem called_back_once_at_the_end {course : List Event} {x : Roster} (h : Unfolds course x)
    {i : Nat} {t : Threads} (hi : x.entries[i]? = some (.running t)) :
    (∀ (thread : Thread) (s : Run), thread.step? ⟨x.shared, t⟩ = some s →
      Run.Does (thread.deed? t) ⟨x.shared, t⟩ s) ∧
    (.calledBack ∈ deeds i course → ∃ messages status, EndsWith messages status ∧
      deeds i course =
        messages.map .shown ++ ResetPart.all.map .cleared ++ [.freed, .calledBack]) ∧
    (∀ report, t.runner = .finished report → .calledBack ∈ deeds i course ∨
      ∃ s, Thread.finisher.step? ⟨x.shared, t⟩ = some s ∧ s.finisher.slack < t.finisher.slack) ∧
    (Run.isOver ⟨x.shared, t⟩ = true → .calledBack ∈ deeds i course) ∧
    (.freed ∈ deeds i course →
      (∀ program elapsed, Session.start? x.shared program elapsed = none →
        ∃ j, i < j ∧ j < x.entries.length ∧ .freed ∉ deeds j course) ∧
      ∀ (thread : Thread) (s : Run), thread.step? ⟨x.shared, t⟩ = some s →
        s.machine = x.shared.machine ∧ s.console = x.shared.console) := by
  have hx := sound_of_unfolds h
  have hr := recorded_of_unfolds h
  have hj := hx.joint i t hi
  have hrecord := hr.running i t hi
  refine ⟨fun thread s hs => Run.does_step hs, hrecord.complete hj, ?_, ?_, ?_⟩
  · intro report hrunner
    rw [hrecord.calledBack_iff]
    exact finisher_goes_on hj hrunner x.shared
  · intro hover
    rw [hrecord.calledBack_iff]
    unfold Run.isOver at hover
    split at hover
    · next hfinisher => exact ⟨_, hfinisher⟩
    · cases hover
  · intro hfreed
    rw [hrecord.freed_iff] at hfreed
    constructor
    · intro program elapsed hrefused
      exact hx.occupied hr (start?_eq_none_iff.mp hrefused) hi hfreed
    · intro thread s hs
      exact freed_keeps hj hfreed hs

/-- The finisher of the first run calls back after a second one has been accepted. -/
def succeeding : List Event × Roster :=
  play (.ask ["HLT 0"] 0 :: turns 0 18 ++
    [.ask ["SET 1"] 0, .proceed 1 .runner, .proceed 0 .finisher]) ([], {})

theorem called_back_once_at_the_end_succeeding :
    succeeding.2.shared.callbacks = 1 ∧ succeeding.2.shared.active = true ∧
      ∃ messages status, EndsWith messages status ∧ deeds 0 succeeding.1 =
        messages.map .shown ++ ResetPart.all.map .cleared ++ [.freed, .calledBack] := by
  have hunfolds : Unfolds succeeding.1 succeeding.2 := Unfolds.play _ .start
  obtain ⟨t, ht, -, -⟩ := (sound_of_unfolds hunfolds).hasFreed_of_lt Nat.zero_lt_one
    (by decide +kernel : 1 < succeeding.2.entries.length)
  obtain ⟨-, hcalled, -, -, -⟩ := called_back_once_at_the_end hunfolds ht
  exact ⟨by decide +kernel, by decide +kernel, hcalled (by decide +kernel)⟩

end Roster

end AccumulatorMachine
