import AccumulatorMachine.Proofs.Hosted.Paired

/-! What the stepper does about everything that happens in a run. -/
namespace AccumulatorMachine

def ResetPart.rank : ResetPart → Nat
  | .registers => 3
  | .mailbox => 2
  | .awaiting => 1
  | .interrupted => 0

def RunnerPhase.rank (outside : Bool) : RunnerPhase → Nat
  | .judging _ => 31
  | .testing => 27
  | .fetching => if outside then 28 else 26
  | .executing _ => 25
  | .taking _ => 24
  | .noting _ => 12
  | .clearing _ part => part.rank + 8
  | .signalling _ => 7
  | .asleep _ _ => 6
  | .leaving _ => 5
  | .reporting _ | .finished _ | .absent => 0

namespace Scene

/-- How much is left to do before the next step of the stepper, or before the end. -/
def rank (program : Program) (s : Scene) : Nat :=
  match s.stage with
  | .handing _ => 30
  | .rendered _ _ => 29
  | .shown _ => 28
  | .busy phase => phase.rank (program.lineAt? s.machine.pc).isNone

end Scene

namespace Paired
variable {program : Program} {elapsed : Nat}

/-- The stepper takes a step when everything before has been shown, or it stays where it is. Then the
run is nearer to the next step, unless it goes round outside the program. -/
inductive Carries (program : Program) (d : Driven) (s t : Scene) (front : FrontEnd) : Prop
  | turn {d' : Driven} (hrun : d.stepper.finished = none) (ht : d.watchedTurn? = some d')
      (he : Told t.console [] d.events) (hp : Paired program d' t front)
  | stay (hp : Paired program d t front)
      (hempty : d.stalls = true → s.machine.mailbox.value = none → t.machine.mailbox.value = none)
      (hrank : t.rank program < s.rank program ∨
        d.stalls = true ∧ s.machine.mailbox.value = none)

theorem Carries.nearer {d : Driven} {s t : Scene} {front : FrontEnd}
    (hp : Paired program d t front) (hm : t.machine = s.machine)
    (hrank : t.rank program < s.rank program) : Carries program d s t front := by
  refine .stay hp ?_ (.inl hrank)
  intro _ hempty
  rw [hm]
  exact hempty

/-- A visit of a line between two instructions. -/
theorem carries_execute {pc : Int} {memory : Option Memory} {inputs : List String}
    {events : List Event} {c : List Message} {read : Nat} {line : String} {status : Status}
    {m : Machine} (hh : Heard c read) (hl : program.lineAt? pc = some line) (he : Told c [] events)
    (hv : (Machine.idle pc memory).visitLine line = .done status m) :
    Carries program ⟨{ program, machine := .idle pc memory }, inputs, events⟩
      ⟨.idle pc memory, c, .busy (.executing line)⟩ ⟨m, c, .afterLine status⟩
      ⟨inputs, read, 0, false⟩ := by
  have hr : Driven.Ready ⟨{ program, machine := .idle pc memory }, inputs, events⟩ line :=
    ⟨rfl, rfl, nofun, hl⟩
  have hrun : (Machine.idle pc memory).run? line = some (status, m) := by
    simp [Machine.run?, hv, Machine.finish?]
  have hturn := Driven.watchedTurn?_of_line hr.line
  have hvisit := (Machine.idle pc memory).visits_visitLine line
  rw [hv] at hvisit
  cases hvisit with
  | silent pc' memory' =>
    exact .turn rfl (hturn.trans (hr.silent hrun)) he (.calm .testing hh he)
  | print text =>
    exact .turn rfl (hturn.trans (hr.print hrun rfl rfl)) he (.printing hh (he.happen _))
  | ask _ _ _ =>
    obtain ⟨address, -, -, -, -, hagain⟩ := Machine.visitLine_eq_input hv
    exact .turn rfl (hturn.trans (hr.ask hrun)) he
      (.asking .handing hh ⟨hl, hagain⟩ (he.happen .asked))
  | fail cause =>
    refine .turn rfl (hturn.trans (hr.finish hrun rfl)) he (.ended rfl rfl rfl ?_ hh ?_)
    · exact .judging rfl he
    · exact .inr (by simp [Machine.idle, hl])
  | halt =>
    refine .turn rfl (hturn.trans (hr.finish hrun rfl)) he (.ended rfl rfl rfl ?_ hh ?_)
    · exact .handing he
    · exact .inr (by simp [Machine.idle, hl])

/-- The answer is taken. -/
theorem carries_take {pc : Int} {memory : Option Memory} {inputs : List String}
    {events : List Event} {c : List Message} {read : Nat} {line text : String} {address : Int32}
    {status : Status} {m : Machine} (hh : Heard c read)
    (hq : Asks program pc memory line address) (he : Told c [] events)
    (ht : (Machine.answered pc memory text).takeInput? address = some (status, m)) :
    Carries program ⟨{ program, machine := .answered pc memory text }, inputs, events⟩
      ⟨.answered pc memory text, c, .busy (.taking address)⟩ ⟨m, c, .afterLine status⟩
      ⟨inputs, read, 0, false⟩ := by
  have hr : Driven.Ready ⟨{ program, machine := .answered pc memory text }, inputs, events⟩ line :=
    ⟨rfl, rfl, fun _ => rfl, hq.1⟩
  have hrun : (Machine.answered pc memory text).run? line = some (status, m) := by
    rw [Machine.run?, hq.2 _ rfl rfl]
    exact ht
  have hturn := Driven.watchedTurn?_of_line hr.line
  cases Machine.takes_takeInput? ht with
  | closed h => cases h
  | stored _ _ stored =>
    exact .turn rfl (hturn.trans (hr.silent hrun)) he (.calm .testing hh he)
  | refused _ _ cause =>
    refine .turn rfl (hturn.trans (hr.finish hrun rfl)) he (.ended rfl rfl rfl ?_ hh ?_)
    · exact .judging rfl he
    · exact .inr (by simp [Machine.answered, Machine.asking, Machine.idle, hq.1])

/-- There is no answer to take. -/
theorem carries_takeNothing {pc : Int} {memory : Option Memory} {events : List Event}
    {c : List Message} {read closing : Nat} {closed : Bool} {line : String} {address : Int32}
    {status : Status} {m : Machine} (hh : Heard c read)
    (hq : Asks program pc memory line address) (he : Told c [] events)
    (ht : (Machine.stopped pc memory true closed).takeInput? address = some (status, m)) :
    Carries program ⟨{ program, machine := .stopped pc memory true true }, [], events⟩
      ⟨.stopped pc memory true closed, c, .busy (.taking address)⟩ ⟨m, c, .afterLine status⟩
      ⟨[], read, closing, false⟩ := by
  have hturn : Driven.watchedTurn?
      ⟨{ program, machine := .stopped pc memory true true }, [], events⟩ = _ :=
    Driven.watchedTurn?_of_interrupted rfl rfl
  cases Machine.takes_takeInput? ht with
  | closed _ =>
    refine .turn rfl hturn he (.ended rfl rfl rfl (.judging rfl he) hh ?_)
    exact .inr (by simp [Machine.stopped, hq.1])
  | stored _ hvalue _ => cases hvalue
  | refused _ hvalue _ => cases hvalue

/-- The runner finds the machine stopped. -/
theorem carries_stop {d : Driven} {m : Machine} {c : List Message} {front : FrontEnd}
    (h : Paired program d ⟨m, c, .busy .testing⟩ front) (hi : m.interrupted = true) :
    Carries program d ⟨m, c, .busy .testing⟩ ⟨m, c, .handing .stopped⟩ front := by
  cases h with
  | calm | asked | answered => cases hi
  | refused _ hh hq _ he =>
    refine .turn rfl (Driven.watchedTurn?_of_interrupted rfl rfl) he
      (.ended rfl rfl rfl (.handing he) hh (.inr ?_))
    simp [Machine.stopped, hq.1]
  | left _ hh hl _ he =>
    exact .turn rfl (Driven.watchedTurn?_of_interrupted rfl rfl) he
      (.ended rfl rfl rfl (.handing he) hh (.inl rfl))
  | asking hs | ended _ _ _ hs | reported _ _ hs => cases hs

theorem carries_proceed {d : Driven} {m : Machine} {c : List Message} {front : FrontEnd}
    (h : Paired program d ⟨m, c, .busy .testing⟩ front) (hi : m.interrupted = false) :
    Carries program d ⟨m, c, .busy .testing⟩ ⟨m, c, .busy .fetching⟩ front := by
  cases h with
  | @calm pc memory _ _ _ _ _ _ hh he =>
    refine .stay (.calm .fetching hh he) (fun _ h => h) ?_
    cases hl : program.lineAt? pc with
    | none => exact .inr ⟨Driven.stalls_idle hl, rfl⟩
    | some line => exact .inl (by simp [Scene.rank, RunnerPhase.rank, Machine.idle, hl])
  | asked _ hu hq he =>
    refine .nearer (.asked .fetching hu hq he) rfl ?_
    simp [Scene.rank, RunnerPhase.rank, Machine.asking, Machine.idle, hq.1]
  | answered _ hh hq he =>
    refine .nearer (.answered .fetching hh hq he) rfl ?_
    simp [Scene.rank, RunnerPhase.rank, Machine.answered, Machine.asking, Machine.idle, hq.1]
  | refused | left => cases hi
  | asking hs | ended _ _ _ hs | reported _ _ hs => cases hs

theorem carries_stall {d : Driven} {m : Machine} {c : List Message} {front : FrontEnd}
    (h : Paired program d ⟨m, c, .busy .fetching⟩ front) (hl : program.lineAt? m.pc = none) :
    Carries program d ⟨m, c, .busy .fetching⟩ ⟨m, c, .busy .testing⟩ front := by
  cases h with
  | calm _ hh he =>
    exact .stay (.calm .testing hh he) (fun _ h => h) (.inr ⟨Driven.stalls_idle hl, rfl⟩)
  | asked _ _ hq | answered _ _ hq | refused _ _ hq => cases hl.symm.trans hq.1
  | left _ hh _ hc he =>
    refine .nearer (.left .testing hh hl hc he) rfl ?_
    simp [Scene.rank, RunnerPhase.rank, hl]
  | asking hs | ended _ _ _ hs | reported _ _ hs => cases hs

theorem carries_fetch {d : Driven} {m : Machine} {c : List Message} {front : FrontEnd}
    {line : String} (h : Paired program d ⟨m, c, .busy .fetching⟩ front)
    (hl : program.lineAt? m.pc = some line) :
    Carries program d ⟨m, c, .busy .fetching⟩ ⟨m, c, .busy (.executing line)⟩ front := by
  have hrank : Scene.rank program ⟨m, c, .busy (.executing line)⟩ <
      Scene.rank program ⟨m, c, .busy .fetching⟩ := by
    simp [Scene.rank, RunnerPhase.rank, hl]
  cases h with
  | calm _ hh he => exact .nearer (.calm (.executing hl) hh he) rfl hrank
  | asked _ hu hq he =>
    cases hl.symm.trans hq.1
    exact .nearer (.asked .executing hu hq he) rfl hrank
  | answered _ hh hq he =>
    cases hl.symm.trans hq.1
    exact .nearer (.answered .executing hh hq he) rfl hrank
  | refused _ hh hq hc he =>
    cases hl.symm.trans hq.1
    exact .nearer (.refused .executing hh hq hc he) rfl hrank
  | left _ _ hout => cases hl.symm.trans hout
  | asking hs | ended _ _ _ hs | reported _ _ hs => cases hs

theorem carries_reach {d : Driven} {m : Machine} {c : List Message} {front : FrontEnd}
    {line : String} {address : Int32} (h : Paired program d ⟨m, c, .busy (.executing line)⟩ front)
    (hv : m.visitLine line = .taking address) :
    Carries program d ⟨m, c, .busy (.executing line)⟩ ⟨m, c, .busy (.taking address)⟩ front := by
  have hrank : Scene.rank program ⟨m, c, .busy (.taking address)⟩ <
      Scene.rank program ⟨m, c, .busy (.executing line)⟩ := by
    simp [Scene.rank, RunnerPhase.rank]
  cases h with
  | @calm pc memory =>
    have hvisit := (Machine.idle pc memory).visits_visitLine line
    rw [hv] at hvisit
    cases hvisit with
    | take _ h => simp [Machine.idle] at h
  | asked hs hu hq he =>
    cases hs
    cases hv.symm.trans (hq.2 _ rfl rfl)
    exact .nearer (.asked .taking hu hq he) rfl hrank
  | answered hs hh hq he =>
    cases hs
    cases hv.symm.trans (hq.2 _ rfl rfl)
    exact .nearer (.answered .taking hh hq he) rfl hrank
  | refused hs hh hq hc he =>
    cases hs
    cases hv.symm.trans (hq.2 _ rfl rfl)
    exact .nearer (.refused .taking hh hq hc he) rfl hrank
  | left hs _ hl =>
    cases hs with
    | executing h => cases hl.symm.trans h
  | asking hs | ended _ _ _ hs | reported _ _ hs => cases hs

theorem carries_visit {d : Driven} {m m' : Machine} {c : List Message} {front : FrontEnd}
    {line : String} {status : Status} (h : Paired program d ⟨m, c, .busy (.executing line)⟩ front)
    (hv : m.visitLine line = .done status m') :
    Carries program d ⟨m, c, .busy (.executing line)⟩ ⟨m', c, .afterLine status⟩ front := by
  cases h with
  | calm hs hh he =>
    cases hs with
    | executing hl => exact carries_execute hh hl he hv
  | asked hs _ hq | answered hs _ hq | refused hs _ hq =>
    cases hs
    cases hv.symm.trans (hq.2 _ rfl rfl)
  | left hs _ hl =>
    cases hs with
    | executing h => cases hl.symm.trans h
  | asking hs | ended _ _ _ hs | reported _ _ hs => cases hs

theorem carries_input {d : Driven} {m m' : Machine} {c : List Message} {front : FrontEnd}
    {address : Int32} {status : Status} (h : Paired program d ⟨m, c, .busy (.taking address)⟩ front)
    (ht : m.takeInput? address = some (status, m')) :
    Carries program d ⟨m, c, .busy (.taking address)⟩ ⟨m', c, .afterLine status⟩ front := by
  cases h with
  | asked => cases ht
  | answered hs hh hq he =>
    cases hs
    exact carries_take hh hq he ht
  | refused hs hh hq hc he =>
    cases hs
    exact carries_takeNothing hh hq he ht
  | calm hs | asking hs | left hs | ended _ _ _ hs | reported _ _ hs => cases hs

theorem carries_judge {d : Driven} {m : Machine} {c : List Message} {front : FrontEnd}
    {cause : Failure} (h : Paired program d ⟨m, c, .busy (.judging (.failed cause))⟩ front) :
    Carries program d ⟨m, c, .busy (.judging (.failed cause))⟩
      ⟨m, c, .handing (if m.interrupted then .stopped else .failed cause)⟩ front := by
  cases h with
  | calm hs | asking hs | asked hs | answered hs | refused hs | left hs => cases hs
  | ended hc hf hm hs hh hl =>
    cases hs with
    | judging hstatus ht =>
      subst hstatus
      refine .nearer (.ended hc hf hm (.handing ht) hh hl) rfl ?_
      simp [Scene.rank, RunnerPhase.rank]
  | reported _ _ hr => cases hr

/-! ### The printer -/

theorem carries_print {d : Driven} {m m' : Machine} {c : List Message} {front : FrontEnd}
    {text : Option String} (h : Paired program d ⟨m, c, .handing .output⟩ front)
    (ht : m.requestOutput? = some (text, m')) :
    Carries program d ⟨m, c, .handing .output⟩ ⟨m', c, .rendered .output text⟩ front := by
  cases h with
  | calm hs | asking hs | asked hs | answered hs | refused hs | left hs => cases hs
  | printing hh he =>
    cases ht
    exact .stay (.calm (.rendered _) hh he) (fun _ _ => rfl) (.inl (by simp [Scene.rank]))
  | ended hc _ _ hs =>
    cases hs
    cases hc

theorem carries_describe {d : Driven} {m : Machine} {c : List Message} {front : FrontEnd}
    {status : Status} (h : Paired program d ⟨m, c, .handing status⟩ front)
    (hne : status ≠ .output) :
    Carries program d ⟨m, c, .handing status⟩ ⟨m, c, .rendered status (status.describe? elapsed)⟩
      front := by
  have hrank : Scene.rank program ⟨m, c, .rendered status (status.describe? elapsed)⟩ <
      Scene.rank program ⟨m, c, .handing status⟩ := by
    simp [Scene.rank]
  cases h with
  | calm hs | asked hs | answered hs | refused hs | left hs => cases hs
  | printing => exact absurd rfl hne
  | asking hs hh hq he =>
    cases hs
    exact .nearer (.asking (.rendered _) hh hq he) rfl hrank
  | ended hc hf hm hs hh hl =>
    cases hs with
    | handing ht =>
      obtain ⟨text, htext⟩ := Status.exists_describe?_of_ends elapsed hc
      rw [htext] at hrank ⊢
      exact .nearer (.ended hc hf hm (.rendered text ht) hh hl) rfl hrank

theorem carries_append {d : Driven} {m : Machine} {c : List Message} {front : FrontEnd}
    {status : Status} {text : Option String}
    (h : Paired program d ⟨m, c, .rendered status text⟩ front) :
    Carries program d ⟨m, c, .rendered status text⟩
      ⟨m, c ++ (text.map (Message.mk status)).toList, .shown status⟩ front := by
  have hrank : ∀ c', Scene.rank program ⟨m, c', .shown status⟩ <
      Scene.rank program ⟨m, c, .rendered status text⟩ := by
    intro c'
    simp [Scene.rank]
  cases h with
  | asked hs | answered hs | refused hs => cases hs
  | calm hs hh he =>
    cases hs
    exact .nearer (.calm .shown (hh.append nofun) (he.append rfl)) rfl (hrank _)
  | asking hs hh hq he =>
    cases hs
    exact .nearer (.asked .shown (.mk hh rfl) hq (he.append rfl)) rfl (hrank _)
  | left hs hh hl hc he =>
    cases hs
    exact .nearer (.left .shown (hh.append nofun) hl hc (he.append rfl)) rfl (hrank _)
  | ended hc hf hm hs hh hl =>
    cases hs with
    | rendered text ht =>
      refine .nearer (.ended hc hf hm (.shown ⟨c, text, rfl, ht⟩) (hh.append ?_) hl) rfl (hrank _)
      rintro rfl
      cases hc

theorem carries_resume {d : Driven} {m : Machine} {c : List Message} {front : FrontEnd}
    {status : Status} (h : Paired program d ⟨m, c, .shown status⟩ front) :
    Carries program d ⟨m, c, .shown status⟩ ⟨m, c, .afterReport status⟩ front := by
  have hrank : Scene.rank program ⟨m, c, .afterReport status⟩ <
      Scene.rank program ⟨m, c, .shown status⟩ := by
    cases hc : status.continues <;> simp [Scene.rank, Stage.afterReport, RunnerPhase.rank, hc]
  cases h with
  | asking hs => cases hs
  | calm hs hh he =>
    cases hs
    exact .nearer (.calm .testing hh he) rfl hrank
  | asked hs hu hq he =>
    cases hs
    exact .nearer (.asked .testing hu hq he) rfl hrank
  | answered hs hh hq he =>
    cases hs
    exact .nearer (.answered .testing hh hq he) rfl hrank
  | refused hs hh hq hc he =>
    cases hs
    exact .nearer (.refused .testing hh hq hc he) rfl hrank
  | left hs hh hl hc he =>
    cases hs
    exact .nearer (.left .testing hh hl hc he) rfl hrank
  | ended hc hf hm hs hh hl =>
    cases hs with
    | shown ht =>
      simp only [Stage.afterReport, hc] at hrank ⊢
      exact .nearer (.ended hc hf hm (.noting ht) hh hl) rfl hrank

/-! ### After the last status -/

theorem carries_note {d : Driven} {m : Machine} {c : List Message} {front : FrontEnd}
    {status : Status} (h : Paired program d ⟨m, c, .busy (.noting status)⟩ front) :
    Carries program d ⟨m, c, .busy (.noting status)⟩
      ⟨m, c, .busy (.clearing ⟨status, m.snapshot⟩ .registers)⟩ front := by
  cases h with
  | calm hs | asking hs | asked hs | answered hs | refused hs | left hs => cases hs
  | ended hc hf hm hs hh hl =>
    cases hs with
    | noting ht =>
      refine .nearer (.reported hc hf (hm ▸ .clearing _) ht) rfl ?_
      simp [Scene.rank, RunnerPhase.rank, ResetPart.rank]
  | reported _ _ hr => cases hr

theorem carries_clear {d : Driven} {m : Machine} {c : List Message} {front : FrontEnd}
    {report : Report} {part : ResetPart}
    (h : Paired program d ⟨m, c, .busy (.clearing report part)⟩ front) :
    Carries program d ⟨m, c, .busy (.clearing report part)⟩
      ⟨part.clear m, c, .afterClear report part⟩ front := by
  have hrank : Scene.rank program ⟨part.clear m, c, .afterClear report part⟩ <
      Scene.rank program ⟨m, c, .busy (.clearing report part)⟩ := by
    cases part <;> simp [Scene.rank, Stage.afterClear, ResetPart.next?, RunnerPhase.rank,
      ResetPart.rank]
  cases h with
  | calm hs | asking hs | asked hs | answered hs | refused hs | left hs | ended _ _ _ hs => cases hs
  | reported hc hf hr ht =>
    cases hr
    have hst : d.stalls = false := by simp [Driven.stalls, hf]
    refine .stay ?_ (fun h => absurd h (by simp [hst])) (.inl hrank)
    cases part with
    | interrupted => exact .reported hc hf .signalling ht
    | _ => exact .reported hc hf (.clearing _) ht

theorem carries_retire {d : Driven} {m : Machine} {c : List Message} {front : FrontEnd}
    {p q : RunnerPhase} (h : Paired program d ⟨m, c, .busy p⟩ front) (hr : Scene.Retires p q) :
    Carries program d ⟨m, c, .busy p⟩ ⟨m, c, .busy q⟩ front := by
  have hrank : Scene.rank program ⟨m, c, .busy q⟩ < Scene.rank program ⟨m, c, .busy p⟩ := by
    cases hr <;> simp [Scene.rank, RunnerPhase.rank]
  cases h with
  | calm hs | asking hs | asked hs | answered hs | refused hs | left hs | ended _ _ _ hs =>
    cases hr <;> cases hs
  | reported hc hf hp ht =>
    refine .nearer ?_ rfl hrank
    cases hr <;> cases hp
    · exact .reported hc hf (.asleep _) ht
    · exact .reported hc hf .leaving ht
    · exact .reported hc hf .leaving ht
    · exact .reported hc hf .finished ht

/-- Whatever can be seen to happen in the run, the stepper goes along with it. -/
theorem move {d : Driven} {s t : Scene} {front : FrontEnd} (h : Paired program d s front)
    (hm : Scene.Move program elapsed s t) : Carries program d s t front := by
  cases hm with
  | stop hi => exact carries_stop h hi
  | proceed hi => exact carries_proceed h hi
  | stall hl => exact carries_stall h hl
  | fetch hl => exact carries_fetch h hl
  | execute hv => exact carries_visit h hv
  | reach hv => exact carries_reach h hv
  | take ht => exact carries_input h ht
  | judge => exact carries_judge h
  | print ht => exact carries_print h ht
  | describe hne => exact carries_describe h hne
  | append => exact carries_append h
  | resume => exact carries_resume h
  | note => exact carries_note h
  | clear => exact carries_clear h
  | retire hr => exact carries_retire h hr

end Paired

end AccumulatorMachine
