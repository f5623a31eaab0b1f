import AccumulatorMachine.CommandLine
import AccumulatorMachine.Proofs.CommandLine.Unattended
import AccumulatorMachine.Proofs.Listing
import AccumulatorMachine.Proofs.Text.Lines

/-! Running a program and stepping through it, with inputs for all its questions. -/
namespace AccumulatorMachine

namespace Job

/-- What the threads of a run make of a command. -/
inductive Plays : Job → Job → Prop
  | refl (job : Job) : Plays job job
  | act {job : Job} {a b : Attendant} {dump : Bool} {act : Attendant → Option Attendant}
      (h : Plays job (.running a dump)) (hact : act ∈ Attendant.threads) (hb : act a = some b) :
      Plays job (.running b dump)

/-- The command after some lines have been typed. -/
def typeLines (lines : List String) (job : Job) : Job :=
  lines.foldl (fun job line => job.feed (some line)) job

theorem Plays.attendant {a : Attendant} {dump : Bool} {job : Job} (h : Plays (.running a dump) job) :
    ∃ b, job = .running b dump ∧ Schedule.Reachable Attendant.threads a b := by
  induction h with
  | refl => exact ⟨a, rfl, .refl⟩
  | act _ hact hb ih =>
    obtain ⟨b, heq, hreach⟩ := ih
    cases heq
    exact ⟨_, rfl, hreach.step hact hb⟩

theorem Plays.done {outcome : Outcome} {job : Job} (h : Plays (.done outcome) job) :
    job = .done outcome := by
  induction h with
  | refl => rfl
  | act _ _ _ ih => cases ih

theorem typeLines_debugging (b : Debugger) (lines : List String) :
    (Job.debugging b).typeLines lines = .debugging (b.typeLines lines) := by
  induction lines generalizing b with
  | nil => rfl
  | cons line lines ih => exact ih (b.feed (some line))

/-- The two commands begin with the same program and the same inputs, if the first one begins at all. -/
theorem start_cases {run debug : Invocation} {inputs : List String} (hrun : run.action = .run)
    (hdebug : debug.action = .debug) (hinputs : run.inputs? = some inputs)
    (hinputs' : debug.inputs? = some inputs) (hdump : run.dump = true)
    (config? : Option (Except String String)) (text : String) :
    (∃ outcome, start run config? (.ok text) = .done outcome) ∨
      ∃ echoPrompts, start run config? (.ok text) = .running (.ofText text inputs echoPrompts) true ∧
        start debug config? (.ok text) = .debugging (.ofText text inputs) := by
  have hsettings (base : Settings) :
      (∃ outcome, onSettings run (base.override run) (.ok text) = .done outcome) ∨
        ∃ echoPrompts,
          onSettings run (base.override run) (.ok text) =
            .running (.ofText text inputs echoPrompts) true ∧
          onSettings debug (base.override debug) (.ok text) = .debugging (.ofText text inputs) := by
    have hfilter (i : Invocation) : (base.override i).logFilter = base.logFilter := rfl
    have hon (i : Invocation) (h : LogFilter.read base.logFilter ≠ .error .torn) :
        onSettings i (base.override i) (.ok text) = onProgram i (base.override i) text := by
      unfold onSettings
      rw [hfilter]
      split <;> simp_all
    by_cases hread : LogFilter.read base.logFilter = .error .torn
    · refine .inl ⟨.broken [] tornFilter, ?_⟩
      simp only [onSettings, hfilter, hread]
    · refine .inr ⟨base.echoPrompts, ?_, ?_⟩
      · rw [hon run hread]
        simp [onProgram, Settings.override, hrun, hinputs, hdump]
      · rw [hon debug hread]
        simp [onProgram, Settings.override, hdebug, hinputs']
  cases config? with
  | none => exact hsettings {}
  | some config =>
    cases config with
    | error complaint => exact .inl ⟨_, rfl⟩
    | ok config =>
      cases hread : Settings.read? config with
      | none =>
        refine .inl ⟨.failure Settings.invalidMessage, ?_⟩
        simp only [start, Settings.ofInvocation, hread]
      | some base => simpa only [start, Settings.ofInvocation, hread] using hsettings base

theorem outcome?_of_report {a : Attendant} {r : Report} (h : a.report? = some r) (dump : Bool) :
    (Job.running a dump).outcome? = some (.ofReport a.run.program dump a.printed r) := by
  rw [outcome?, h]
  rfl

theorem outcome?_running {a : Attendant} {dump : Bool} {o : Outcome}
    (h : (Job.running a dump).outcome? = some o) :
    ∃ r, a.run.report? = some r ∧ o = .ofReport a.run.program dump a.printed r := by
  obtain ⟨r, hr, rfl⟩ := Option.map_eq_some_iff.mp h
  unfold Attendant.report? at hr
  split at hr
  · exact ⟨r, hr, rfl⟩
  · cases hr

end Job

/-- Two commands end alike: they have printed the same values, the same machine at the end and what is said
of the end, and they have the same exit code, which tells whether the program succeeded. -/
def Outcome.EndsLike (program : Program) (elapsed elapsed' : Nat) (o o' : Outcome) : Prop :=
  ∃ status snapshot before before' message message',
    status.describe? elapsed = some message ∧ status.describe? elapsed' = some message' ∧
    o.printed = before ++ [.message ⟨status, message⟩, .dump program snapshot] ∧
    o'.printed = before' ++ [.dump program snapshot, .message ⟨status, message'⟩] ∧
    before.filterMap Printed.value? = before'.filterMap Printed.value? ∧
    o.complaint? = none ∧ o'.complaint? = none ∧
    o.code = o'.code ∧ (o.code = 0 ↔ status = .succeeded)

theorem Outcome.code_ofStatus (status : Status) (printed : List Printed) :
    (ofStatus status printed).code = 0 ↔ status = .succeeded := by
  cases status <;> simp [ofStatus, codeOf]

namespace Attendant.Unattended

variable {text : String} {inputs : List String} {elapsed : Nat} {a : Attendant}

/-- After as many lines as there are turns, and after any more, the debugger has ended like the run. -/
theorem endsLike (h : Unattended text inputs elapsed a) {r : Report} (hr : a.run.report? = some r)
    (hall : a.received = a.run.console.length)
    (hfits : Listing.programFits (Program.ofText text) = true) (elapsed' : Nat) :
    ∃ n, ∀ lines : List String, n ≤ lines.length → ∃ o',
      (Job.debugging ((Debugger.start text inputs elapsed').typeLines lines)).outcome? = some o' ∧
        (Outcome.ofReport a.run.program true a.printed r).EndsLike (Program.ofText text) elapsed
          elapsed' o' := by
  obtain ⟨hprogram, n, d, hd, hnot, hfinished, hends, hsnapshot, hevents⟩ := h.driven hr
  obtain ⟨before, message, hmessage, hprinted, hvalues⟩ := h.printed hr hall
  refine ⟨n, fun lines hle => ?_⟩
  have hd' := Driven.watchedTurns?_of_finished hle hd hfinished hends
  have hfollows := (Debugger.follows_start hfits inputs elapsed').typeLines lines hd' hnot
  generalize (Debugger.start text inputs elapsed').typeLines lines = b at hfollows ⊢
  obtain ⟨hphase, before', message', hmessage', hprinted'⟩ := hfollows.ended _ hfinished
  rw [hfollows.elapsed] at hmessage'
  rw [hfollows.stepper, hfollows.program, hsnapshot] at hprinted'
  have hoe : Outcome.ofReport a.run.program true a.printed r =
      .ofStatus r.status (a.printed ++ [.dump (Program.ofText text) r.snapshot]) := by
    simp [Outcome.ofReport, hprogram, hfits]
  have hvalues' : d.events.filterMap Event.value? = before'.filterMap Printed.value? := by
    rw [← hfollows.values, hprinted', List.filterMap_append, List.filterMap_cons_none rfl,
      List.filterMap_cons_none (Printed.value?_of_ends hends message')]
    exact List.append_nil _
  refine ⟨.ofStatus r.status b.printed, by simp [Job.outcome?, hphase], r.status, r.snapshot, before,
    before', message, message', hmessage, hmessage', ?_, hprinted', ?_, ?_⟩
  · rw [hoe]
    show a.printed ++ _ = _
    rw [hprinted, List.append_assoc]
    rfl
  · rw [hvalues, hevents, hvalues']
  · rw [hoe]
    exact ⟨rfl, rfl, rfl, Outcome.code_ofStatus ..⟩

/-- The debugger cannot show the program, and breaks off before the first step. -/
theorem breaksOff (h : Unattended text inputs elapsed a) {r : Report} (hr : a.run.report? = some r)
    (hfits : Listing.programFits (Program.ofText text) = false) (elapsed' : Nat) (lines : List String) :
    (Outcome.ofReport a.run.program true a.printed r).code = 101 ∧
      (Job.debugging ((Debugger.start text inputs elapsed').typeLines lines)).outcome? =
        some (.broken [.dump (Program.ofText text) (Machine.snapshot {})] Outcome.tooWide) := by
  obtain ⟨hprogram, -⟩ := h.driven hr
  have hstart := Debugger.start_of_not_fits hfits inputs elapsed'
  have hbroken : (Debugger.start text inputs elapsed').phase = .broken := by rw [hstart]
  rw [Debugger.typeLines_of_broken hbroken, hstart]
  refine ⟨?_, rfl⟩
  simp [Outcome.ofReport, hprogram, hfits, Outcome.broken]

end Attendant.Unattended

namespace Job

/-- A run with its dump at the end and a debugger, on the same program with inputs for all its questions.
If the run has ended and the front end has received every message, the debugger ends alike once
enough lines have been typed, whatever the order of the threads of the run. A program that is too
wide to be shown lets both break off, the debugger before its first step. -/
theorem run_ends_like_debug {run debug : Invocation} {inputs : List String} (hrun : run.action = .run)
    (hdebug : debug.action = .debug) (hinputs : run.inputs? = some inputs)
    (hinputs' : debug.inputs? = some inputs) (hdump : run.dump = true)
    {config? : Option (Except String String)} {text : String} {elapsed : Nat} {a : Attendant}
    {dump : Bool} {o : Outcome}
    (hplays : Plays ((start run config? (.ok text)).withElapsed elapsed) (.running a dump))
    (ho : (Job.running a dump).outcome? = some o) (hall : a.received = a.run.console.length)
    (elapsed' : Nat) :
    ∃ n, ∀ lines : List String, n ≤ lines.length → ∃ o',
      (((start debug config? (.ok text)).withElapsed elapsed').typeLines lines).outcome? = some o' ∧
        (Listing.programFits (Program.ofText text) = true →
          o.EndsLike (Program.ofText text) elapsed elapsed' o') ∧
        (Listing.programFits (Program.ofText text) = false → o.code = 101 ∧
          o' = .broken [.dump (Program.ofText text) (Machine.snapshot {})] Outcome.tooWide) := by
  obtain ⟨outcome, hdone⟩ | ⟨echoPrompts, hstart, hstart'⟩ :=
    start_cases hrun hdebug hinputs hinputs' hdump config? text
  · rw [hdone] at hplays
    cases hplays.done
  · rw [hstart] at hplays
    rw [hstart']
    obtain ⟨b, heq, hreach⟩ := hplays.attendant
    cases heq
    obtain ⟨r, hr, rfl⟩ := outcome?_running ho
    have hunattended : Attendant.Unattended text inputs elapsed a :=
      Attendant.unattended_of_reachable hreach
    have htyped (lines : List String) :
        ((Job.debugging (.ofText text inputs)).withElapsed elapsed').typeLines lines =
          .debugging ((Debugger.start text inputs elapsed').typeLines lines) :=
      typeLines_debugging _ lines
    cases hfits : Listing.programFits (Program.ofText text) with
    | true =>
      obtain ⟨n, hn⟩ := hunattended.endsLike hr hall hfits elapsed'
      refine ⟨n, fun lines hle => ?_⟩
      obtain ⟨o', ho', hends⟩ := hn lines hle
      exact ⟨o', htyped lines ▸ ho', fun _ => hends, nofun⟩
    | false =>
      refine ⟨0, fun lines _ => ?_⟩
      obtain ⟨hcode, ho'⟩ := hunattended.breaksOff hr hfits elapsed' lines
      exact ⟨_, htyped lines ▸ ho', nofun, fun _ => ⟨hcode, rfl⟩⟩

/-- The run goes on as far as it can before each of so many messages is received. -/
def rounds (count : Nat) : List Nat :=
  (List.replicate count ((List.replicate 50 [3, 4, 5]).flatten ++ [0])).flatten

theorem plays_of_reachable {a b : Attendant} (h : Schedule.Reachable Attendant.threads a b)
    (dump : Bool) : Plays (.running a dump) (.running b dump) := by
  induction h with
  | refl => exact .refl _
  | step _ hact hb ih => exact ih.act hact hb

def runCommand (inputs : List String) : Invocation :=
  { action := .run, file := "p.ram", inputs? := some inputs, dump := true }

def debugCommand (inputs : List String) : Invocation :=
  { action := .debug, file := "p.ram", inputs? := some inputs }

theorem start_commands (text : String) (inputs : List String) :
    start (runCommand inputs) none (.ok text) = .running (.ofText text inputs true) true ∧
      start (debugCommand inputs) none (.ok text) = .debugging (.ofText text inputs) := by
  have hread : LogFilter.read Settings.defaultLogFilter = .ok () := by decide +kernel
  have hstart (i : Invocation) :
      start i none (.ok text) = onProgram i (Settings.override {} i) text := by
    change onSettings i (Settings.override {} i) (.ok text) = _
    have hfilter : (Settings.override {} i).logFilter = Settings.defaultLogFilter := rfl
    simp only [onSettings, hfilter, hread]
  exact ⟨hstart _, hstart _⟩

theorem plays_runCommand (text : String) (inputs : List String) (elapsed : Nat) (order : List Nat) :
    Plays ((start (runCommand inputs) none (.ok text)).withElapsed elapsed)
      (.running (Schedule.follow Attendant.threads order (Attendant.start text inputs true elapsed))
        true) := by
  rw [(start_commands text inputs).1]
  exact plays_of_reachable (Schedule.reachable_follow _ _ .refl) true

theorem start_debugCommand (text : String) (inputs lines : List String) (elapsed : Nat) :
    ((start (debugCommand inputs) none (.ok text)).withElapsed elapsed).typeLines lines =
      .debugging ((Debugger.start text inputs elapsed).typeLines lines) := by
  rw [(start_commands text inputs).2]
  exact typeLines_debugging _ lines

theorem run_ends_like_debug_echoing :
    let text := "SET 1\nINP 1\nOUT 1\nHLT 0"
    let a := Schedule.follow Attendant.threads (rounds 3) (Attendant.start text ["5"] true 7)
    Plays ((start (runCommand ["5"]) none (.ok text)).withElapsed 7) (.running a true) ∧
      a.received = a.run.console.length ∧
      ∃ o, (Job.running a true).outcome? = some o ∧ o.code = 0 ∧
        ∃ n, ∀ lines : List String, n ≤ lines.length → ∃ o',
          (((start (debugCommand ["5"]) none (.ok text)).withElapsed 9).typeLines lines).outcome? =
              some o' ∧
            o.EndsLike (Program.ofText text) 7 9 o' := by
  intro text a
  have hreport : a.report? = some ⟨.succeeded, ⟨3, some [0, 5], false, false⟩⟩ := by decide +kernel
  have hplays : Plays ((start (runCommand ["5"]) none (.ok text)).withElapsed 7) (.running a true) :=
    plays_runCommand text ["5"] 7 (rounds 3)
  have houtcome := outcome?_of_report hreport true
  have hall : a.received = a.run.console.length := by decide +kernel
  have hdebug : (debugCommand ["5"]).action = .debug := rfl
  obtain ⟨n, hn⟩ := run_ends_like_debug rfl hdebug rfl rfl rfl hplays houtcome hall 9
  refine ⟨hplays, hall, _, houtcome, by decide +kernel, n, fun lines hle => ?_⟩
  obtain ⟨o', ho', hends, -⟩ := hn lines hle
  exact ⟨o', ho', hends (by decide +kernel)⟩

/-- A program that ends before its last line, which can be too wide to be shown. -/
def lastLine (width : Nat) : String :=
  String.ofList ("SET 1\nOUT 1\nHLT 0\n".toList ++ List.replicate width 'A')

theorem ofText_lastLine {width : Nat} (h : width ≠ 0) : Program.ofText (lastLine width) =
    ["SET 1", "OUT 1", "HLT 0", String.ofList (List.replicate width 'A')] := by
  have hfeed : '\n' ∉ List.replicate width 'A' := by simp [List.mem_replicate]
  have htext : (lastLine width).toList = "SET 1".toList ++ '\n' :: ("OUT 1".toList ++ '\n' ::
      ("HLT 0".toList ++ '\n' :: List.replicate width 'A')) := String.toList_ofList
  rw [Program.ofText, htext, Text.lines_append_feed (by decide), Text.lines_append_feed (by decide),
    Text.lines_append_feed (by decide), Text.lines_of_notMem_feed hfeed, if_neg (by simp [h])]
  rfl

theorem programFits_lastLine {width : Nat} (h : Listing.maxWidth < width) :
    Listing.programFits (Program.ofText (lastLine width)) = false := by
  rw [ofText_lastLine (Nat.ne_zero_of_lt h), ← Bool.not_eq_true, Listing.programFits, Listing.tableFits_iff]
  intro hfits
  have hword := Listing.programRow_word (l := List.replicate width 'A')
    (fun c hc => List.eq_of_mem_replicate hc ▸ by decide) (by simp [Nat.ne_zero_of_lt h]) 0 3
  have hwidth := hfits _ (by simp [Listing.programTable]) _ hword
  simp at hwidth
  omega

def wide : String := lastLine (Listing.maxWidth + 1)

/-- The run prints its value before the dump at the end, and the debugger does not come so far. -/
theorem run_differs_from_debug :
    let a := Schedule.follow Attendant.threads (rounds 2) (Attendant.start wide [] true 0)
    Plays ((start (runCommand []) none (.ok wide)).withElapsed 0) (.running a true) ∧
      a.received = a.run.console.length ∧
      ∃ r o, a.report? = some r ∧ r.status = .succeeded ∧
        (Job.running a true).outcome? = some o ∧ o.code = 101 ∧
        o.printed.filterMap Printed.value? = ["0"] ∧
        ∀ lines o', (((start (debugCommand []) none (.ok wide)).withElapsed 0).typeLines lines).outcome? =
            some o' → o'.code = 101 ∧ o'.printed.filterMap Printed.value? = [] := by
  have hfits := programFits_lastLine (Nat.lt_succ_self Listing.maxWidth)
  have hstart : Attendant.start wide [] true 0 =
      { run := Session.accept {} ["SET 1", "OUT 1", "HLT 0",
          String.ofList (List.replicate (Listing.maxWidth + 1) 'A')] 0,
        inputs := [], echoPrompts := true } := by
    rw [Attendant.start, wide, ofText_lastLine (Nat.succ_ne_zero _)]
  intro a
  have hreport : a.report? = some ⟨.succeeded, ⟨2, some [0, 0], false, false⟩⟩ := by
    simp only [a, hstart]
    decide +kernel
  have hprinted : a.printed.filterMap Printed.value? = ["0"] := by
    simp only [a, hstart]
    decide +kernel
  have hall : a.received = a.run.console.length := by
    simp only [a, hstart]
    decide +kernel
  have hunattended : Attendant.Unattended wide [] 0 a :=
    Attendant.unattended_of_reachable (Schedule.reachable_follow Attendant.threads (rounds 2) .refl)
  have hrun := (Option.ite_none_right_eq_some.mp hreport).2
  obtain ⟨hprogram, -⟩ := hunattended.driven hrun
  refine ⟨plays_runCommand wide [] 0 (rounds 2), hall, _, _, hreport, rfl,
    outcome?_of_report hreport true, ?_, ?_, fun lines o' ho' => ?_⟩
  · exact (hunattended.breaksOff hrun hfits 0 []).1
  · have hdumped : (Outcome.ofReport a.run.program true a.printed
        ⟨.succeeded, ⟨2, some [0, 0], false, false⟩⟩).printed =
          a.printed ++ [.dump a.run.program ⟨2, some [0, 0], false, false⟩] := by
      have hfits' : Listing.programFits a.run.program = false := hprogram ▸ hfits
      simp [Outcome.ofReport, hfits', Outcome.broken]
    rw [hdumped, List.filterMap_append, hprinted]
    rfl
  · rw [start_debugCommand, (hunattended.breaksOff hrun hfits 0 lines).2] at ho'
    cases ho'
    exact ⟨rfl, rfl⟩

end Job

end AccumulatorMachine
