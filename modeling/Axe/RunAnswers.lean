import Axe.RunVisibility
import Axe.TaskReplay

namespace Axe.Mcp

open Hardened (U64)

/-!
# Answers about runs are right

Each request of a client is followed alone, in a world that other clients and the threads of
runs move as they may.  What it has seen stays true until it answers.
-/

variable {Report : Type} {read : List Char → Option Report} {world later : RegistryWorld Report}
variable {task : Nat} {id : RunId}

abbrev timelyPool (read : List Char → Option Report) :
    TaskPool (registryInterface Report) Empty (RegistryWorld Report) Request :=
  (registryPool read).confined Timely

/-- A part of a request, in a world that was sane. -/
abbrev Does {Value : Type} (read : List Char → Option Report) (task : Nat)
    (program : Registry Report Value) (ends : Value → RegistryWorld Report → Prop)
    (world : RegistryWorld Report) : Prop :=
  (timelyPool read).Behaves
    (fun task world later => Sane read world → Relies read task world later)
    (Acts read) task program ends (fun _ _ => True) world

theorem Relies.of_evolves (sane : Sane read world)
    (evolved :
      Relation.ReflTransGen (fun world later => Sane read world → Relies read task world later)
        world later) :
    Relies read task world later := by
  induction evolved with
  | refl => exact .refl sane
  | tail _ step ih => exact ih.trans (step ih.sane)

theorem does_ask {Value : Type} (op : RunCall Report)
    {next : op.Reply → Registry Report Value} {ends : Value → RegistryWorld Report → Prop}
    (sane : Sane read world)
    (fits : ∀ moved, Relies read task world moved → Fits read task moved op)
    (rest : ∀ moved, Relies read task world moved →
        ∀ reply, RegistryAllows read task moved op reply →
          Sane read (registryReact read task op reply moved) →
            Does read task (next reply) ends (registryReact read task op reply moved)) :
    Does read task (ask op >>= next) ends world := by
  intro moved evolved reply allowed
  have relies := Relies.of_evolves sane evolved
  have acts := Acts.request op reply allowed (fits moved relies)
  exact ⟨acts, rest moved relies reply allowed (acts.sane relies.sane)⟩

def Answers (read : List Char → Option Report) (task : Nat) (world : RegistryWorld Report)
    (answer : Answer Report) : Prop :=
  Sane read world ∧ ∀ moved, Relies read task world moved → Fits read task moved (.answer answer)

theorem does_answer {answer : Answer Report} (answers : Answers read task world answer) :
    Does read task (ask (.answer answer)) (fun _ _ => True) world := by
  intro moved evolved reply allowed
  have relies := Relies.of_evolves answers.1 evolved
  exact ⟨.request (.answer answer) reply allowed (answers.2 moved relies), trivial⟩

/-!
### Starting
-/

theorem does_mint
    (kind : RunKind)
    (sane : Sane read world) :
    Does read task (RunId.mint kind)
      (fun id world =>
        Sane read world ∧ world.lockedBy = some task ∧ Fits read task world (.spawn id)) world := by
  apply does_ask .now sane (fun _ _ => trivial)
  intro moved relies now _ _
  apply does_ask (.tryUpdate now) relies.sane (fun _ _ => trivial)
  intro raised stillRelies previous updated saneRaised
  obtain ⟨heldStill, rfl, room⟩ := updated
  refine ⟨saneRaised, heldStill, ?_, kind, _, rfl, le_rfl⟩
  cases taken : raised.runs (.ofMillis kind (nextMillis now raised.lastMillis)) with
  | none => exact taken
  | some run =>
    obtain ⟨other, millis, same, before⟩ := stillRelies.sane.minted taken
    have sameMillis := congrArg RunId.mintedMillis same
    rw [RunId.mintedMillis_ofMillis, RunId.mintedMillis_ofMillis] at sameMillis
    have after := @lt_nextMillis now _ room
    rw [sameMillis] at after
    omega

theorem does_start (kind : RunKind) (sane : Sane read world) :
    Does read task (RunRegistry.start kind)
      (fun outcome world => Answers read task world (.started outcome)) world := by
  apply does_ask .claim sane (fun _ _ => trivial)
  intro claimed _ reply _ saneClaimed
  cases reply with
  | error refused => exact ⟨saneClaimed, fun _ _ => trivial⟩
  | ok nothing =>
    apply Meets.andThen (does_mint kind saneClaimed) (fun _ _ _ _ => trivial)
    intro id _ minted fresh
    obtain ⟨saneMinted, held, unused, named⟩ := fresh
    apply does_ask (.spawn id) saneMinted
    · intro moved relies
      obtain ⟨_, sameMillis, absent⟩ := relies.locked held
      refine ⟨absent id unused, ?_⟩
      rw [sameMillis]
      exact named
    · intro moved _ body _ saneSpawned
      exact ⟨saneSpawned, fun _ _ => trivial⟩

/-!
### One run
-/

theorem file_readable (readable : world.readable read id = true) :
    ((world.file id).bind read).isSome = world.landed id := by
  obtain ⟨run, started, whole⟩ := RegistryWorld.readable_iff.mp readable
  rw [RegistryWorld.file, RegistryWorld.landed, started]
  exact Run.readable_content whole

theorem settled_of_found {report : Option Report} (readable : world.readable read id = true)
    (answered : RegistryAllows read task world (.readReport id.reportFileName) report) :
    world.settled read id = report.isSome := by
  obtain ⟨run, started, _⟩ := RegistryWorld.readable_iff.mp readable
  have same : report = (world.file id).bind read := answered id rfl (by rw [started]; rfl)
  rw [RegistryWorld.settled, readable, Bool.and_true, same, file_readable readable]

theorem unsettled_of_missing
    (answered : RegistryAllows read task world (.readReport id.reportFileName) none) :
    world.settled read id = false := by
  cases settled : world.settled read id with
  | false => rfl
  | true =>
    have readable := (RegistryWorld.settled_iff.mp settled).2
    rw [settled_of_found readable answered] at settled
    cases settled

theorem does_state (text : String) (sane : Sane read world) :
    Does read task (RunRegistry.state text)
      (fun found world => Answers read task world (.state found)) world := by
  cases parsed : RunId.parse text with
  | none =>
    simp only [RunRegistry.state, parsed]
    refine ⟨sane, ?_⟩
    intro moved relies id named
    have absent : moved.runs id = none := by
      cases started : moved.runs id with
      | none => rfl
      | some run =>
        have parses := relies.sane.parses started
        rw [named, parsed] at parses
        cases parses
    constructor
    · cases known : moved.knownTo task id with
      | false => rfl
      | true =>
        obtain ⟨run, started, _⟩ := RegistryWorld.readable_iff.mp (relies.sane.seen known)
        rw [absent] at started
        cases started
    · simp [RegistryWorld.settled, RegistryWorld.landed, absent]
  | some id =>
    simp only [RunRegistry.state, parsed]
    apply does_ask (.readReport id.reportFileName) sane (fun _ _ => trivial)
    intro asked _ report answered saneAsked
    have own := @RegistryWorld.queryOf_asks _ read asked task (some id.reportFileName) report.isSome
    cases report with
    | some report =>
      refine ⟨saneAsked, ?_⟩
      intro moved relies known
      have readable : asked.readable read id = true :=
        RegistryWorld.knownTo_asks ▸ relies.knownTo ▸ known
      exact relies.grows.settled (settled_of_found readable answered)
    | none =>
      apply does_ask (.isRunning id) saneAsked (fun _ _ => trivial)
      intro looked relies running looks saneLooked
      have awaits :
          Query.awaits ⟨task, some id.reportFileName, false, asked.readable read⟩ id = true := by
        simp [Query.awaits]
      have missing : asked.settled read id = false := unsettled_of_missing answered
      have unsettled : looked.settled read id = false := relies.waits own awaits missing
      have stays : ∀ moved, Relies read task looked moved → moved.settled read id = false :=
        fun moved still => still.waits (relies.own.trans own) awaits unsettled
      obtain ⟨_, rfl⟩ := looks
      by_cases runs : id ∈ looked.handles ∧ looked.live id = true
      · simp only [decide_eq_true runs, if_true]
        exact ⟨saneLooked, stays⟩
      · simp only [decide_eq_false runs, Bool.false_eq_true, if_false]
        refine ⟨saneLooked, ?_⟩
        intro moved still other named
        have same : other = id := RunId.parse_unique (named ▸ parsed)
        subst same
        refine ⟨?_, stays moved still⟩
        cases known : moved.knownTo task other with
        | false => rfl
        | true =>
          rw [still.knownTo] at known
          exact (runs (saneLooked.live (saneLooked.seen known) unsettled)).elim

/-!
### All runs
-/

theorem does_describe
    (ids : List RunId)
    (sane : Sane read world) :
    Does read task (RunRegistry.describe ids)
      (fun entries later =>
        Relies read task world later ∧ entries.map RunListEntry.runId = ids) world := by
  induction ids generalizing world with
  | nil => exact ⟨.refl sane, rfl⟩
  | cons id rest ih =>
    apply does_ask (.isRunning id) sane (fun _ _ => trivial)
    intro moved relies running _ _
    apply Meets.andThen (ih relies.sane) (fun _ _ _ _ => trivial)
    intro entries _ later described
    refine ⟨relies.trans described.1, ?_⟩
    rw [List.map_cons, described.2]

theorem listed_or_live {asked retained : RegistryWorld Report} {opened names : List String}
    (shown : asked.Shows opened) (more : opened ⊆ names) (sane : Sane read asked)
    (relies : Relies read task (asked.asks read task none false) retained)
    (readable : asked.readable read id = true) :
    id ∈ names.filterMap RunId.fromReportFileName ∨ id ∈ retained.handles.filter retained.live := by
  cases settled : asked.settled read id with
  | true =>
    left
    obtain ⟨run, started, _⟩ := RegistryWorld.readable_iff.mp readable
    have landed := (RegistryWorld.settled_iff.mp settled).1
    have found : (asked.file id).isSome = true := by
      rw [← file_readable readable] at landed
      obtain ⟨report, reads⟩ := Option.isSome_iff_exists.mp landed
      obtain ⟨content, holds, _⟩ := Option.bind_eq_some_iff.mp reads
      rw [holds]
      rfl
    have named := (shown id (by rw [started]; rfl)).mpr found
    apply List.mem_filterMap.mpr
    exact ⟨id.reportFileName, more named,
      RunId.fromReportFileName_reportFileName (sane.parses started)⟩
  | false =>
    right
    have unsettled := relies.waits RegistryWorld.queryOf_asks rfl settled
    exact List.mem_filter.mpr (relies.sane.live (relies.grows.readable readable) unsettled)

theorem does_list (sane : Sane read world) : Does read task RunRegistry.list
      (fun entries world => Answers read task world (.listed entries)) world := by
  apply does_ask .openReports sane (fun _ _ => trivial)
  intro asked beforeAsked opened shown saneAsked
  apply does_ask (.nextEntries opened) saneAsked (fun _ _ => trivial)
  intro looked toLooked names more saneLooked
  apply does_ask .retain saneLooked (fun _ _ => trivial)
  intro retained fromLooked inFlight kept saneRetained
  have toRetained : Relies read task (asked.asks read task none false) retained :=
    toLooked.trans fromLooked
  obtain ⟨_, rfl⟩ := kept
  refine Meets.weaken (does_describe _ saneRetained) ?_ (fun _ _ _ _ => trivial)
  intro entries _ described ends
  obtain ⟨toDescribed, same⟩ := ends
  refine ⟨toDescribed.sane, ?_⟩
  intro moved toMoved id known
  have readable : asked.readable read id = true := by
    have knownRetained : retained.knownTo task id = true :=
      toDescribed.knownTo ▸ toMoved.knownTo ▸ known
    rw [toRetained.knownTo, RegistryWorld.knownTo_asks] at knownRetained
    exact knownRetained
  have member : id ∈ entries.map RunListEntry.runId := by
    rw [same, List.mem_mergeSort, List.mem_append, List.mem_filter]
    by_cases listed : id ∈ names.filterMap RunId.fromReportFileName
    · exact .inl listed
    · right
      have live := listed_or_live shown more.1 beforeAsked.sane toRetained readable
      exact ⟨live.resolve_left listed, decide_eq_true listed⟩
  exact List.mem_map.mp member

theorem does_request (request : Request) (sane : Sane read world) :
    Does read task request.program (fun _ _ => True) world := by
  cases request with
  | start kind =>
    exact Meets.andThen (does_start kind sane) (fun _ _ _ _ => trivial)
      (fun _ _ _ answers => does_answer answers)
  | state text =>
    exact Meets.andThen (does_state text sane) (fun _ _ _ _ => trivial)
      (fun _ _ _ answers => does_answer answers)
  | list =>
    exact Meets.andThen (does_list sane) (fun _ _ _ _ => trivial)
      (fun _ _ _ answers => does_answer answers)

/-!
## Every run
-/

structure Told (read : List Char → Option Report) (world : RegistryWorld Report) : Prop where
  inView : InView world.answers
  settled : ∀ {answered id report}, answered ∈ world.answers →
      answered.answer = .state (.finished id report) → answered.known id = true →
        world.settled read id = true

namespace Told

theorem of_answers_eq (told : Told read world) (same : later.answers = world.answers)
    (grows : Grows world later) :
    Told read later where
  inView := same ▸ told.inView
  settled := by
    intro answered id report member finished known
    rw [same] at member
    exact grows.settled (told.settled member finished known)

theorem answer {answer : Answer Report} (told : Told read world)
    (fits : Fits read task world (.answer answer)) :
    Told read (registryReact read task (.answer answer) () world) where
  inView := by
    constructor
    · intro answered text id member unknown named
      rcases List.mem_append.mp member with old | isNew
      · exact told.inView.found old unknown named
      · rw [List.mem_singleton] at isNew
        subst isNew
        cases unknown
        exact (fits id named).1
    · intro answered entries id member listed known
      rcases List.mem_append.mp member with old | isNew
      · exact told.inView.listed old listed known
      · rw [List.mem_singleton] at isNew
        subst isNew
        cases listed
        exact fits id known
    · refine List.pairwise_append.mpr ⟨told.inView.final, List.pairwise_singleton _ _, ?_⟩
      intro earlier before later isNew id report state finished known answers named
      rw [List.mem_singleton] at isNew
      subst isNew
      cases answers
      -- a settled run is answered to be finished, since the other answers do not fit
      have settled := told.settled before finished known
      cases state with
      | finished other report => exact ⟨report, by rw [RunId.eq_of_text_eq named]⟩
      | running other =>
        have same : other = id := RunId.eq_of_text_eq named
        subst same
        rw [show world.settled read other = false from fits] at settled
        cases settled
      | unknown text =>
        rw [(fits id named.symm).2] at settled
        cases settled
  settled := by
    intro answered id report member finished known
    rcases List.mem_append.mp member with old | isNew
    · exact told.settled old finished known
    · rw [List.mem_singleton] at isNew
      subst isNew
      cases finished
      exact fits known

end Told

theorem Acts.told (told : Told read world) (acts : Acts read task world later) :
    Told read later := by
  have grows := acts.grows
  obtain ⟨op, reply, allowed, fits⟩ := acts
  cases op with
  | answer answer => exact told.answer fits
  | _ => exact told.of_answers_eq rfl grows

theorem RunMoves.told (told : Told read world) (grows : Grows world later)
    (moves : RunMoves world later) :
    Told read later := by
  cases moves <;> exact told.of_answers_eq rfl grows

/-!
A registry that is asked about a load test, whose report is a pair of braces.
-/

def readEmptyObject (text : List Char) : Option Unit :=
  if text = ['\x7b', '\x7d'] then some () else none

inductive ThreadMove where
  | create (id : RunId)
  | write (id : RunId) (count : Nat)
  | finish (id : RunId)

def moveThread : ThreadMove → RegistryWorld Unit → Option (RegistryWorld Unit)
  | .create id, world =>
    match world.runs id with
    | some run =>
      if run.written = none ∧ run.ended = false then
        some (world.setRun id { run with written := some 0 })
      else
        none
    | none => none
  | .write id more, world =>
    match world.runs id with
    | some ⟨some body, some count, false⟩ =>
      if count < more ∧ more ≤ body.length then
        some (world.setRun id ⟨some body, some more, false⟩)
      else
        none
    | _ => none
  | .finish id, world =>
    match world.runs id with
    | some run =>
      if run.body = none ∨ run.landed = true then
        some (world.setRun id { run with ended := true })
      else
        none
    | none => none

/-- The registry answers as it does; runs write an empty object. -/
def replyToRequest (task : Nat) (world : RegistryWorld Unit) : (op : RunCall Unit) → Option op.Reply
  | .readReport name =>
    some (((RunId.beforeEnd RunId.reportEnding name).bind fun text =>
      world.file ⟨text⟩).bind readEmptyObject)
  | .isRunning id =>
    if world.lockedBy = none then
      some (decide (id ∈ world.handles ∧ world.live id = true))
    else
      none
  | .claim =>
    if world.lockedBy = none ∧ world.handles.filter world.live = [] then some (.ok ()) else none
  | .now => some (7 : U64)
  | .tryUpdate _ =>
    if world.lockedBy = some task ∧ world.lastMillis.toNat + 1 < 2 ^ 64 then
      some world.lastMillis
    else
      none
  | .spawn _ =>
    if world.lockedBy = some task then some (some ['\x7b', '\x7d']) else none
  | .answer _ => some ()
  | _ => none

theorem moveThread_sound {move : ThreadMove} {world later : RegistryWorld Unit}
    (moved : moveThread move world = some later) :
    RunMoves world later := by
  cases move with
  | create id =>
    simp only [moveThread] at moved
    split at moved
    · rename_i run started
      obtain ⟨⟨unwritten, goes⟩, same⟩ := Option.ite_none_right_eq_some.mp moved
      cases same
      exact .create started unwritten goes
    · cases moved
  | write id more =>
    simp only [moveThread] at moved
    split at moved
    · rename_i body count started
      obtain ⟨fits, same⟩ := Option.ite_none_right_eq_some.mp moved
      cases same
      exact .write more started rfl rfl fits rfl
    · cases moved
  | finish id =>
    simp only [moveThread] at moved
    split at moved
    · rename_i run started
      obtain ⟨done, same⟩ := Option.ite_none_right_eq_some.mp moved
      cases same
      exact .finish started done
    · cases moved

theorem replyToRequest_sound {task : Nat} {world : RegistryWorld Unit} {op : RunCall Unit}
    {reply : op.Reply} (replied : replyToRequest task world op = some reply) :
    RegistryAllows readEmptyObject task world op reply := by
  cases op with
  | readReport name =>
    cases replied
    intro id named _
    rw [← named, RunId.beforeEnd_reportFileName]
    rfl
  | isRunning id =>
    obtain ⟨free, same⟩ := Option.ite_none_right_eq_some.mp replied
    cases same
    exact ⟨free, rfl⟩
  | claim =>
    obtain ⟨⟨free, idle⟩, same⟩ := Option.ite_none_right_eq_some.mp replied
    cases same
    exact ⟨free, idle⟩
  | tryUpdate now =>
    obtain ⟨⟨held, room⟩, same⟩ := Option.ite_none_right_eq_some.mp replied
    cases same
    exact ⟨held, rfl, room⟩
  | spawn id =>
    obtain ⟨held, _⟩ := Option.ite_none_right_eq_some.mp replied
    exact held
  | now => trivial
  | answer answer => trivial
  | openReports => cases replied
  | nextEntries opened => cases replied
  | retain => cases replied

def registryResponder : PoolResponder (registryPool readEmptyObject) ThreadMove Unit where
  move := moveThread
  move_sound := moveThread_sound
  reply := fun _ => replyToRequest
  reply_sound := replyToRequest_sound

def firstLoadTest : RunId := .ofMillis .loadTest 7

/--
In every run of the registry in which no report lands while a question that has not seen it
is under way, no run that leaves a readable report is ever answered to be unknown or missing in
a list, and what is answered to be finished once always is.
-/
theorem runs_with_reports_stay_in_view
    {last : PoolState (registryInterface Report) Empty (RegistryWorld Report)}
    (run : (registryPool read).Runs Timely ⟨[], .initial⟩ last) :
    InView last.world.answers := by
  have start : Sane read (.initial : RegistryWorld Report) ∧ Told read .initial := by
    refine ⟨sane_initial, ⟨⟨?_, ?_, .nil⟩, ?_⟩⟩ <;> intros <;> contradiction
  have reached := @TaskPool.Runs.invariant _ _ _ _ (timelyPool read)
      (fun task world later => Sane read world → Relies read task world later) (Acts read)
      Timely ⟨[], .initial⟩ last (fun _ world => Sane read world ∧ Told read world)
      (fun different acts sane => acts.relies different sane)
      (fun moved sane => moved.1.relies sane moved.2)
      (by
        intro count world later change permitted holds
        cases change with
        | environment evolved =>
          have relies : Relies read 0 world later := evolved.1.relies holds.1 evolved.2
          exact ⟨relies.sane, evolved.1.told holds.2 relies.grows⟩
        | perform task _ acts => exact ⟨acts.sane holds.1, acts.told holds.2⟩)
      (fun holds => holds)
      (fun holds request => does_request request holds.1)
      run.confined (TaskPool.obedient_empty _) start
  exact reached.1.2.inView

/-- A load test that is asked about while it runs and after it has left its report. -/
theorem load_test_stays_in_view :
    ∃ last : PoolState (registryInterface Unit) Empty (RegistryWorld Unit),
      (registryPool readEmptyObject).Runs Timely ⟨[], .initial⟩ last ∧
        last.world.answers.map Answered.answer =
          [.started (.ok firstLoadTest), .state (.running firstLoadTest),
            .state (.finished firstLoadTest ())] ∧
        InView last.world.answers := by
  obtain ⟨last, run, passed⟩ :=
    @PoolResponder.exists_run _ _ _ _ _ _ _ registryResponder Timely _ ⟨[], .initial⟩
      [.spawn (.start .loadTest), .answer 0 () 5,
        .spawn (.state firstLoadTest.text), .answer 1 () 3,
        .world (.create firstLoadTest), .world (.write firstLoadTest 2),
        .spawn (.state firstLoadTest.text), .answer 2 () 2]
      (fun state =>
        decide (state.world.answers.map Answered.answer =
          [.started (.ok firstLoadTest), .state (.running firstLoadTest),
            .state (.finished firstLoadTest ())]))
      (by decide +kernel)
  exact ⟨last, run, of_decide_eq_true passed, runs_with_reports_stay_in_view run⟩

/--
A load test leaves its report and ends between the two looks of a question: the question
answers that the run is unknown.
-/
theorem reported_load_test_is_unknown :
    ∃ last : PoolState (registryInterface Unit) Empty (RegistryWorld Unit),
      (registryPool readEmptyObject).Runs TaskPool.Permit.anything ⟨[], .initial⟩ last ∧
        ∃ answered ∈ last.world.answers, answered.answer = .state (.unknown firstLoadTest.text) ∧
            answered.known firstLoadTest = true := by
  obtain ⟨last, run, passed⟩ :=
    @PoolResponder.exists_run _ _ _ _ _ _ _ registryResponder TaskPool.Permit.anything _
      ⟨[], .initial⟩
      [.spawn (.start .loadTest), .answer 0 () 5,
        .spawn (.state firstLoadTest.text), .answer 1 () 1,
        .world (.create firstLoadTest), .world (.write firstLoadTest 2),
        .world (.finish firstLoadTest), .answer 1 () 2]
      (fun state =>
        decide (∃ answered ∈ state.world.answers,
          answered.answer = .state (.unknown firstLoadTest.text) ∧
            answered.known firstLoadTest = true))
      (by decide +kernel)
  exact ⟨last, run, of_decide_eq_true passed⟩

end Axe.Mcp
