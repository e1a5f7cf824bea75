import Axe.RunRegistry

namespace Axe.Mcp

open Hardened (U64)

/-!
# Runs stay in view

Questions look at the report first and at the handle later.  In between a run can leave its
report and end: the file was not there yet, and the handle is gone.  What is proved here is
that this is the only way to lose a run: as long as no report lands while a question that has
not seen it is under way, every run with a readable report is found by every question.
-/

variable {Report : Type} {read : List Char → Option Report} {world later : RegistryWorld Report}
variable {task : Nat} {id : RunId}

def Timely (world later : RegistryWorld Report) : Prop :=
  ∀ id ∈ world.handles, world.landed id = false → later.landed id = true →
    ∀ query ∈ world.queries, query.awaits id = false

instance decidableTimely (world later : RegistryWorld Report) : Decidable (Timely world later) :=
  inferInstanceAs (Decidable (∀ _ ∈ _, _ → _ → _))

namespace RunState

def text : RunState Report → String
  | running id => id.text
  | finished id _ => id.text
  | unknown text => text

end RunState

/-- What clients are told: no run with a readable report is unknown or missing in a list, and
a finished run stays finished. -/
structure InView (answers : List (Answered Report)) : Prop where
  found : ∀ {answered text id}, answered ∈ answers → answered.answer = .state (.unknown text) →
      id.text = text → answered.known id = false
  listed : ∀ {answered entries id}, answered ∈ answers → answered.answer = .listed entries →
      answered.known id = true → ∃ entry ∈ entries, entry.runId = id
  final : answers.Pairwise fun earlier later =>
      ∀ {id report state}, earlier.answer = .state (.finished id report) →
        earlier.known id = true → later.answer = .state state → state.text = id.text →
          ∃ report, state = .finished id report

namespace RegistryWorld

def settled (world : RegistryWorld Report) (read : List Char → Option Report) (id : RunId) : Bool :=
  world.landed id && world.readable read id

end RegistryWorld

/-!
## Reports
-/

namespace Run

variable {run : Run}

theorem readable_content (readable : run.readable read = true) :
    (run.content.bind read).isSome = run.landed := by
  obtain ⟨body, written, ended⟩ := run
  cases body with
  | none => cases readable
  | some body =>
    cases written with
    | none => rfl
    | some count =>
      simp only [Run.readable, Option.any_some, Bool.and_eq_true, List.all_eq_true,
        List.mem_range] at readable
      obtain ⟨whole, parts⟩ := readable
      simp only [content, landed, Option.bind_some]
      by_cases complete : body.length ≤ count
      · simpa [complete, List.take_of_length_le complete] using whole
      · have unread := parts count (Nat.lt_of_not_le complete)
        simp only [Option.isNone_iff_eq_none] at unread
        simp [unread, complete]

end Run

/-!
## What the world keeps
-/

/-- Identifiers are minted, runs that go on have handles, runs that leave a report end after
it, and questions know runs that there are. -/
structure Sane (read : List Char → Option Report) (world : RegistryWorld Report) : Prop where
  minted : ∀ {id run}, world.runs id = some run →
      ∃ kind millis, id = .ofMillis kind millis ∧ millis.toNat ≤ world.lastMillis.toNat
  handled : ∀ {id run}, world.runs id = some run → run.ended = false → id ∈ world.handles
  left : ∀ {id run}, world.runs id = some run → run.ended = true →
      run.body = none ∨ run.landed = true
  seen : ∀ {task id}, world.knownTo task id = true → world.readable read id = true

theorem sane_initial : Sane read (.initial : RegistryWorld Report) where
  minted := by
    intro id run started
    cases started
  handled := by
    intro id run started
    cases started
  left := by
    intro id run started
    cases started
  seen := by
    intro task id known
    cases known

/-- Runs stay, with what they will write; what is written stays written. -/
def Grows (world later : RegistryWorld Report) : Prop :=
  ∀ id run, world.runs id = some run → ∃ after, later.runs id = some after ∧ after.body = run.body ∧
      (run.landed = true → after.landed = true)

theorem Grows.refl : Grows world world := by
  intro id run started
  exact ⟨run, started, rfl, fun landed => landed⟩

theorem Grows.of_runs_eq (same : later.runs = world.runs) : Grows world later := by
  intro id run started
  rw [← same] at started
  exact ⟨run, started, rfl, fun landed => landed⟩

theorem Grows.trans {last : RegistryWorld Report} (first : Grows world later)
    (second : Grows later last) :
    Grows world last := by
  intro id run started
  obtain ⟨after, goesOn, sameBody, lands⟩ := first id run started
  obtain ⟨final, ends, lastBody, stays⟩ := second id after goesOn
  exact ⟨final, ends, lastBody.trans sameBody, fun landed => stays (lands landed)⟩

namespace RegistryWorld

theorem setRun_runs_self {run : Run} : (world.setRun id run).runs id = some run := by simp [setRun]

theorem setRun_runs_of_ne {other : RunId} {run : Run} (different : other ≠ id) :
    (world.setRun id run).runs other = world.runs other := by
  simp [setRun, different]

theorem readable_iff : world.readable read id = true ↔
      ∃ run, world.runs id = some run ∧ run.readable read = true := by
  rw [readable, Option.any_eq_true]

theorem landed_iff :
    world.landed id = true ↔ ∃ run, world.runs id = some run ∧ run.landed = true := by
  rw [landed, Option.any_eq_true]

theorem settled_iff : world.settled read id = true ↔
      world.landed id = true ∧ world.readable read id = true := by
  rw [settled, Bool.and_eq_true]

end RegistryWorld

theorem Grows.readable (grows : Grows world later) (readable : world.readable read id = true) :
    later.readable read id = true := by
  obtain ⟨run, started, whole⟩ := RegistryWorld.readable_iff.mp readable
  obtain ⟨after, goesOn, sameBody, _⟩ := grows id run started
  apply RegistryWorld.readable_iff.mpr
  refine ⟨after, goesOn, ?_⟩
  rw [Run.readable, sameBody]
  exact whole

theorem Grows.settled (grows : Grows world later) (settled : world.settled read id = true) :
    later.settled read id = true := by
  obtain ⟨landed, readable⟩ := RegistryWorld.settled_iff.mp settled
  obtain ⟨run, started, whole⟩ := RegistryWorld.landed_iff.mp landed
  obtain ⟨after, goesOn, _, lands⟩ := grows id run started
  apply RegistryWorld.settled_iff.mpr
  exact ⟨RegistryWorld.landed_iff.mpr ⟨after, goesOn, lands whole⟩, grows.readable readable⟩

theorem Grows.of_setRun {run : Run} (same : later.runs = (world.setRun id run).runs)
    (goesOn : ∀ before, world.runs id = some before →
        run.body = before.body ∧ (before.landed = true → run.landed = true)) :
    Grows world later := by
  intro other before started
  rw [same]
  by_cases this : other = id
  · subst this
    exact ⟨run, RegistryWorld.setRun_runs_self, goesOn before started⟩
  · rw [RegistryWorld.setRun_runs_of_ne this]
    exact ⟨before, started, rfl, fun landed => landed⟩

theorem settled_of_setRun {other : RunId} {run : Run}
    (same : later.runs = (world.setRun id run).runs) (settled : later.settled read other = true) :
    world.settled read other = true ∨ other = id ∧ run.landed = true := by
  obtain ⟨landed, readable⟩ := RegistryWorld.settled_iff.mp settled
  obtain ⟨after, goesOn, whole⟩ := RegistryWorld.landed_iff.mp landed
  by_cases this : other = id
  · subst this
    rw [same, RegistryWorld.setRun_runs_self] at goesOn
    cases goesOn
    exact .inr ⟨rfl, whole⟩
  · left
    have unchanged : later.runs other = world.runs other := by
      rw [same, RegistryWorld.setRun_runs_of_ne this]
    simp only [RegistryWorld.settled, RegistryWorld.landed, RegistryWorld.readable,
      unchanged] at settled ⊢
    exact settled

namespace Sane

theorem parses {run : Run} (sane : Sane read world) (started : world.runs id = some run) :
    RunId.parse id.text = some id := by
  obtain ⟨kind, millis, rfl, _⟩ := sane.minted started
  exact RunId.parse_ofMillis kind millis

theorem live (sane : Sane read world) (readable : world.readable read id = true)
    (unsettled : world.settled read id = false) :
    id ∈ world.handles ∧ world.live id = true := by
  obtain ⟨run, started, whole⟩ := RegistryWorld.readable_iff.mp readable
  have goes : run.ended = false := by
    cases ended : run.ended with
    | false => rfl
    | true =>
      rcases sane.left started ended with bodyless | landed
      · rw [Run.readable, bodyless] at whole
        cases whole
      · have settled : world.settled read id = true := RegistryWorld.settled_iff.mpr
            ⟨RegistryWorld.landed_iff.mpr ⟨run, started, landed⟩, readable⟩
        rw [settled] at unsettled
        cases unsettled
  refine ⟨sane.handled started goes, ?_⟩
  rw [RegistryWorld.live, started, Option.any_some, goes]
  rfl

theorem of_runs_eq (sane : Sane read world) (same : later.runs = world.runs)
    (counts : world.lastMillis.toNat ≤ later.lastMillis.toNat)
    (handles : ∀ id ∈ world.handles, world.live id = true → id ∈ later.handles)
    (knows : ∀ task id, later.knownTo task id = true →
        world.knownTo task id = true ∨ world.readable read id = true) :
    Sane read later where
  minted := by
    intro id run started
    rw [same] at started
    obtain ⟨kind, millis, named, bound⟩ := sane.minted started
    exact ⟨kind, millis, named, bound.trans counts⟩
  handled := by
    intro id run started goes
    rw [same] at started
    apply handles id (sane.handled started goes)
    rw [RegistryWorld.live, started, Option.any_some, goes]
    rfl
  left := by
    intro id run started ended
    rw [same] at started
    exact sane.left started ended
  seen := by
    intro task id known
    have before : world.readable read id = true := by
      rcases knows task id known with known | readable
      · exact sane.seen known
      · exact readable
    exact (Grows.of_runs_eq same).readable before

theorem of_setRun {run : Run} (sane : Sane read world)
    (same : later.runs = (world.setRun id run).runs) (grows : Grows world later)
    (named : ∃ kind millis, id = .ofMillis kind millis ∧ millis.toNat ≤ world.lastMillis.toNat)
    (counts : later.lastMillis = world.lastMillis) (handles : world.handles ⊆ later.handles)
    (handle : run.ended = false → id ∈ later.handles)
    (leaves : run.ended = true → run.body = none ∨ run.landed = true)
    (knows : ∀ task id, later.knownTo task id = world.knownTo task id) :
    Sane read later where
  minted := by
    intro other after started
    rw [same] at started
    rw [counts]
    by_cases this : other = id
    · subst this
      exact named
    · rw [RegistryWorld.setRun_runs_of_ne this] at started
      exact sane.minted started
  handled := by
    intro other after started goes
    rw [same] at started
    by_cases this : other = id
    · subst this
      rw [RegistryWorld.setRun_runs_self] at started
      cases started
      exact handle goes
    · rw [RegistryWorld.setRun_runs_of_ne this] at started
      exact handles (sane.handled started goes)
  left := by
    intro other after started ended
    rw [same] at started
    by_cases this : other = id
    · subst this
      rw [RegistryWorld.setRun_runs_self] at started
      cases started
      exact leaves ended
    · rw [RegistryWorld.setRun_runs_of_ne this] at started
      exact sane.left started ended
  seen := by
    intro task other known
    rw [knows] at known
    exact grows.readable (sane.seen known)

end Sane

/-!
## What others do to a task's question
-/

structure Relies (read : List Char → Option Report) (task : Nat)
    (world later : RegistryWorld Report) : Prop where
  sane : Sane read later
  grows : Grows world later
  own : later.queryOf task = world.queryOf task
  waits : ∀ {query id}, world.queryOf task = some query → query.awaits id = true →
      world.settled read id = false → later.settled read id = false
  locked : world.lockedBy = some task →
      later.lockedBy = some task ∧ later.lastMillis = world.lastMillis ∧
        ∀ id, world.runs id = none → later.runs id = none

namespace Relies

theorem refl (sane : Sane read world) : Relies read task world world where
  sane := sane
  grows := .refl
  own := rfl
  waits := fun _ _ unsettled => unsettled
  locked := fun held => ⟨held, rfl, fun _ absent => absent⟩

theorem trans {last : RegistryWorld Report} (first : Relies read task world later)
    (second : Relies read task later last) :
    Relies read task world last where
  sane := second.sane
  grows := first.grows.trans second.grows
  own := second.own.trans first.own
  waits := by
    intro query id own awaits unsettled
    exact second.waits (first.own.trans own) awaits (first.waits own awaits unsettled)
  locked := by
    intro held
    obtain ⟨stillHeld, sameMillis, absent⟩ := first.locked held
    obtain ⟨heldAtLast, lastMillis, lastAbsent⟩ := second.locked stillHeld
    exact ⟨heldAtLast, lastMillis.trans sameMillis, fun id free => lastAbsent id (absent id free)⟩

theorem knownTo (relies : Relies read task world later) :
    later.knownTo task id = world.knownTo task id := by
  rw [RegistryWorld.knownTo, relies.own, RegistryWorld.knownTo]

theorem of_runs_eq (sane : Sane read later) (same : later.runs = world.runs)
    (own : later.queryOf task = world.queryOf task)
    (locked : world.lockedBy = some task →
        later.lockedBy = some task ∧ later.lastMillis = world.lastMillis) :
    Relies read task world later where
  sane := sane
  grows := .of_runs_eq same
  own := own
  waits := by
    intro query id _ _ unsettled
    cases settled : later.settled read id with
    | false => rfl
    | true =>
      have before : world.settled read id = true :=
        Grows.settled (Grows.of_runs_eq same.symm) settled
      rw [before] at unsettled
      cases unsettled
  locked := by
    intro held
    obtain ⟨stillHeld, sameMillis⟩ := locked held
    refine ⟨stillHeld, sameMillis, ?_⟩
    intro id absent
    rw [same]
    exact absent

end Relies

/-- What each request must be right about when it is made. -/
def Fits (read : List Char → Option Report) (task : Nat)
    (world : RegistryWorld Report) : RunCall Report → Prop
  | .spawn id =>
    world.runs id = none ∧
      ∃ kind millis, id = .ofMillis kind millis ∧ millis.toNat ≤ world.lastMillis.toNat
  | .answer (.state (.unknown text)) =>
    ∀ id : RunId, id.text = text → world.knownTo task id = false ∧ world.settled read id = false
  | .answer (.state (.running id)) => world.settled read id = false
  | .answer (.state (.finished id _)) => world.knownTo task id = true → world.settled read id = true
  | .answer (.listed entries) =>
    ∀ id, world.knownTo task id = true → ∃ entry ∈ entries, entry.runId = id
  | _ => True

/-- A task makes one request, and is right about it. -/
inductive Acts (read : List Char → Option Report) (task : Nat)
    (world : RegistryWorld Report) : RegistryWorld Report → Prop where
  | request
      (op : RunCall Report)
      (reply : op.Reply)
      (allowed : RegistryAllows read task world op reply)
      (fits : Fits read task world op) :
      Acts read task world (registryReact read task op reply world)

namespace RegistryWorld

theorem queryOf_asks {about : Option String} {found : Bool} :
    (world.asks read task about found).queryOf task =
      some ⟨task, about, found, world.readable read⟩ := by
  simp [queryOf, asks]

variable {about : Option String}

theorem knownTo_asks {found : Bool} :
    (world.asks read task about found).knownTo task id = world.readable read id := by
  rw [knownTo, queryOf_asks, Option.any_some]

theorem queryOf_asks_of_ne {found : Bool} {other : Nat} (different : task ≠ other) :
    (world.asks read task about found).queryOf other = world.queryOf other := by
  simp [queryOf, asks, different]

variable {answers : List (Answered Report)}

theorem queryOf_filter {other : Nat} (different : task ≠ other) :
    queryOf { world with
      queries := world.queries.filter fun query => query.task ≠ task
      answers := answers } other = world.queryOf other := by
  simp only [queryOf, List.find?_filter]
  congr 1
  funext query
  by_cases same : query.task = other
  · simp [same, different.symm]
  · simp [same]

theorem queryOf_filter_self :
    queryOf { world with
      queries := world.queries.filter fun query => query.task ≠ task
      answers := answers } task = none := by
  simp [queryOf, List.find?_filter]

end RegistryWorld

theorem Acts.grows (acts : Acts read task world later) : Grows world later := by
  obtain ⟨op, reply, allowed, fits⟩ := acts
  cases op with
  | spawn id =>
    refine @Grows.of_setRun _ _ _ id ⟨reply, none, false⟩ rfl ?_
    intro before started
    rw [fits.1] at started
    cases started
  | _ => exact Grows.of_runs_eq rfl

theorem Acts.sane (sane : Sane read world) (acts : Acts read task world later) :
    Sane read later := by
  obtain ⟨op, reply, allowed, fits⟩ := acts
  have asked : ∀ about found, Sane read (world.asks read task about found) := by
    intro about found
    refine sane.of_runs_eq rfl le_rfl (fun _ member _ => member) ?_
    intro other id known
    by_cases same : task = other
    · subst same
      rw [RegistryWorld.knownTo, RegistryWorld.queryOf_asks] at known
      exact .inr known
    · rw [RegistryWorld.knownTo, RegistryWorld.queryOf_asks_of_ne same] at known
      exact .inl known
  have retained :
      ∀ id ∈ world.handles, world.live id = true → id ∈ world.handles.filter world.live :=
    fun id member live => List.mem_filter.mpr ⟨member, live⟩
  cases op with
  | readReport name => exact asked _ _
  | openReports => exact asked _ _
  | isRunning id => exact sane
  | nextEntries opened => exact sane
  | now => exact sane
  | retain => exact sane.of_runs_eq rfl le_rfl retained (fun _ _ known => .inl known)
  | claim => exact sane.of_runs_eq rfl le_rfl retained (fun _ _ known => .inl known)
  | tryUpdate now =>
    exact sane.of_runs_eq rfl (lt_nextMillis allowed.2.2).le (fun _ member _ => member)
      (fun _ _ known => .inl known)
  | spawn id =>
    have grows := Acts.grows (.request (.spawn id) reply allowed fits)
    exact sane.of_setRun rfl grows fits.2 rfl (List.subset_append_left _ _)
      (fun _ => List.mem_append_right _ (List.mem_singleton_self _))
      (fun ended => by cases ended) (fun _ _ => rfl)
  | answer answer =>
    refine sane.of_runs_eq rfl le_rfl (fun _ member _ => member) ?_
    intro other id known
    by_cases same : task = other
    · subst same
      rw [registryReact, RegistryWorld.knownTo, RegistryWorld.queryOf_filter_self] at known
      cases known
    · rw [registryReact, RegistryWorld.knownTo, RegistryWorld.queryOf_filter same] at known
      exact .inl known

theorem Acts.relies {other : Nat} (different : task ≠ other) (sane : Sane read world)
    (acts : Acts read task world later) :
    Relies read other world later := by
  have saneLater := acts.sane sane
  have grows := acts.grows
  obtain ⟨op, reply, allowed, fits⟩ := acts
  -- who holds the lock keeps it: others take it only when it is free
  have excluded : world.lockedBy = some task → world.lockedBy = some other → False := by
    intro held heldHere
    rw [held] at heldHere
    exact different (Option.some.inj heldHere)
  have unlocked : world.lockedBy = none → world.lockedBy = some other → False := by
    intro free heldHere
    rw [free] at heldHere
    cases heldHere
  cases op with
  | readReport name =>
    exact .of_runs_eq saneLater rfl (RegistryWorld.queryOf_asks_of_ne different)
      (fun held => ⟨held, rfl⟩)
  | openReports =>
    exact .of_runs_eq saneLater rfl (RegistryWorld.queryOf_asks_of_ne different)
      (fun held => ⟨held, rfl⟩)
  | isRunning id => exact .refl sane
  | nextEntries opened => exact .refl sane
  | now => exact .refl sane
  | retain => exact .of_runs_eq saneLater rfl rfl (fun held => ⟨held, rfl⟩)
  | claim => exact .of_runs_eq saneLater rfl rfl (fun held => (unlocked allowed.1 held).elim)
  | tryUpdate now =>
    exact .of_runs_eq saneLater rfl rfl (fun held => (excluded allowed.1 held).elim)
  | answer answer =>
    exact .of_runs_eq saneLater rfl (RegistryWorld.queryOf_filter different)
      (fun held => ⟨held, rfl⟩)
  | spawn id =>
    refine ⟨saneLater, grows, rfl, ?_, fun held => (excluded allowed held).elim⟩
    intro query awaited _ _ unsettled
    cases settled : (registryReact read task (.spawn id) reply world).settled read awaited with
    | false => rfl
    | true =>
      rcases @settled_of_setRun _ _ _ _ id awaited ⟨reply, none, false⟩ rfl settled with
        before | ⟨_, landed⟩
      · rw [before] at unsettled
        cases unsettled
      · cases reply <;> cases landed

theorem RunMoves.exists_run (moves : RunMoves world later) : ∃ id run after,
      world.runs id = some run ∧ later = world.setRun id after ∧ after.body = run.body ∧
        (run.landed = true → after.landed = true) ∧
        (after.ended = true → run.ended = true ∨ run.body = none ∨ after.landed = true) ∧
        (after.ended = false → run.ended = false) ∧
        (run.landed = false → after.landed = true → run.ended = false) := by
  cases moves with
  | @create id run started unwritten goes =>
    refine ⟨id, run, _, started, rfl, rfl, ?_, fun ended => .inl ended,
      fun _ => goes, fun _ _ => goes⟩
    intro landed
    cases body : run.body <;> simp [Run.landed, unwritten, body] at landed
  | @write id run body count more started leaves written fits goes =>
    refine ⟨id, run, _, started, rfl, rfl, ?_, fun ended => .inl ended,
      fun _ => goes, fun _ _ => goes⟩
    intro landed
    simp only [Run.landed, leaves, written, decide_eq_true_eq] at landed ⊢
    omega
  | @finish id run started done =>
    refine ⟨id, run, _, started, rfl, rfl, fun landed => landed, fun _ => .inr done,
      (fun goes => by cases goes), ?_⟩
    intro unlanded landed
    have landed : run.landed = true := landed
    rw [unlanded] at landed
    cases landed

theorem RunMoves.relies (sane : Sane read world) (moves : RunMoves world later)
    (timely : Timely world later) :
    Relies read task world later := by
  obtain ⟨id, run, after, started, rfl, sameBody, stays, leaves, goes, lands⟩ := moves.exists_run
  have grows : Grows world (world.setRun id after) := by
    apply Grows.of_setRun rfl
    intro before was
    rw [started] at was
    cases was
    exact ⟨sameBody, stays⟩
  have saneLater : Sane read (world.setRun id after) := by
    refine sane.of_setRun rfl grows (sane.minted started) rfl (fun _ member => member)
      (fun alive => sane.handled started (goes alive)) ?_ (fun _ _ => rfl)
    intro ended
    rcases leaves ended with before | bodyless | landed
    · rcases sane.left started before with bodyless | landed
      · exact .inl (sameBody.trans bodyless)
      · exact .inr (stays landed)
    · exact .inl (sameBody.trans bodyless)
    · exact .inr landed
  refine ⟨saneLater, grows, rfl, ?_, ?_⟩
  · intro query awaited own awaits unsettled
    cases settled : (world.setRun id after).settled read awaited with
    | false => rfl
    | true =>
      exfalso
      rcases settled_of_setRun rfl settled with before | ⟨rfl, landed⟩
      · rw [before] at unsettled
        cases unsettled
      · have landing : run.landed = false := by
          cases before : run.landed with
          | false => rfl
          | true =>
            have landedBefore := RegistryWorld.landed_iff.mpr ⟨run, started, before⟩
            obtain ⟨_, readable⟩ := RegistryWorld.settled_iff.mp settled
            simp only [RegistryWorld.settled, landedBefore, RegistryWorld.readable, started,
              Option.any_some, Bool.true_and] at unsettled
            simp only [RegistryWorld.readable, RegistryWorld.setRun_runs_self,
              Option.any_some, Run.readable, sameBody] at readable
            rw [Run.readable, readable] at unsettled
            cases unsettled
        have member := sane.handled started (lands landing landed)
        have unlanded : world.landed awaited = false := by
          simp [RegistryWorld.landed, started, landing]
        obtain ⟨landedLater, _⟩ := RegistryWorld.settled_iff.mp settled
        have unasked :=
          timely awaited member unlanded landedLater query (List.mem_of_find?_eq_some own)
        rw [unasked] at awaits
        cases awaits
  · intro held
    refine ⟨held, rfl, ?_⟩
    intro other absent
    by_cases this : other = id
    · subst this
      rw [started] at absent
      cases absent
    · rw [RegistryWorld.setRun_runs_of_ne this]
      exact absent

end Axe.Mcp
