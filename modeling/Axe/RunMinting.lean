import Axe.ProgramOracle
import Axe.RunRegistry
import Axe.TaskReplay

namespace Axe.Mcp

open Hardened (U64)

/-!
# Identifiers that callers choose and identifiers that are minted

A client names a run by any text.  The registry means to look only at texts that it could have
minted, but it compares just the start of a text with the starts of the kinds.  What is minted
itself is distinct and later than everything before, whatever mints beside it.
-/

variable {Report : Type}

/-!
## Texts of callers
-/

def filesRead (calls : List (RunCall Report)) : List String :=
  calls.filterMap fun op =>
    match op with
    | .readReport name => some name
    | _ => none

abbrev answerText (oracle : Oracle (registryInterface Report))
    (text : String) : List (RunCall Report) × Except Empty (RunState Report) :=
  (RunRegistry.state text).evaluate oracle

/-- A text makes the registry read at most one file, which lies directly in the directory and is
named as the registry names runs.  No other text makes it read anything. -/
structure StaysInReports (Report : Type) (text : String) : Prop where
  once :
    ∀ oracle : Oracle (registryInterface Report), (filesRead (answerText oracle text).1).length ≤ 1
  named :
    ∀ oracle : Oracle (registryInterface Report), ∀ name ∈ filesRead (answerText oracle text).1,
      '/' ∉ name.toList ∧ ∃ kind millis, name = (RunId.ofMillis kind millis).reportFileName
  others : ¬ RunId.Mintable text → ∀ oracle : Oracle (registryInterface Report),
      filesRead (answerText oracle text).1 = [] ∧ (answerText oracle text).2 = .ok (.unknown text)

theorem answerText_of_parse_none {oracle : Oracle (registryInterface Report)} {text : String}
    (refused : RunId.parse text = none) :
    answerText oracle text = ([], .ok (.unknown text)) := by
  simp only [answerText, RunRegistry.state, refused]
  rfl

theorem filesRead_of_parse_some {oracle : Oracle (registryInterface Report)} {text : String}
    {id : RunId} (parsed : RunId.parse text = some id) :
    filesRead (answerText oracle text).1 = [id.reportFileName] := by
  simp only [answerText, RunRegistry.state, parsed]
  cases found : oracle (.readReport id.reportFileName) with
  | none => simp [Program.evaluate, bind, Program.bind, pure, ask, Program.perform, found, filesRead]
  | some report =>
    simp [Program.evaluate, bind, Program.bind, pure, ask, Program.perform, found, filesRead]

theorem slash_not_mem_reportFileName (kind : RunKind) (millis : U64) :
    '/' ∉ (RunId.ofMillis kind millis).reportFileName.toList := by
  have digits : '/' ∉ Nat.toDigits 10 millis.toNat := by
    intro member
    have digit : ('/').isDigit = true := Nat.isDigit_of_mem_toDigits (by decide) (by decide) member
    exact absurd digit (by decide)
  have start : '/' ∉ kind.start.toList := by cases kind <;> decide
  have ending : '/' ∉ RunId.reportEnding.toList := by decide
  simp only [RunId.reportFileName, RunId.ofMillis, decimalText, String.toList_append,
    String.toList_ofList, List.mem_append, not_or]
  exact ⟨⟨start, digits⟩, ending⟩

def nothingThere : Oracle (registryInterface Report)
  | .readReport _ => (none : Option Report)
  | .isRunning _ => false
  | .openReports => ([] : List String)
  | .nextEntries _ => ([] : List String)
  | .retain => ([] : List RunId)
  | .claim => (.ok () : Except StartRefused Unit)
  | .now => (0 : U64)
  | .tryUpdate _ => (0 : U64)
  | .spawn _ => (none : Option (List Char))
  | .answer _ => ()

theorem staysInReports_iff (text : String) : StaysInReports Report text ↔
      ((∃ kind : RunKind, kind.start.toList <+: text.toList) → RunId.Mintable text) := by
  constructor
  · intro stays begins
    obtain ⟨kind, starts⟩ := begins
    by_contra foreign
    have parsed : RunId.parse text = some ⟨text⟩ := by
      rw [RunId.parse, RunId.kindOf_eq_some.mpr starts]
      rfl
    have reads := @filesRead_of_parse_some Report nothingThere _ _ parsed
    rw [(stays.others foreign nothingThere).1] at reads
    cases reads
  · intro mintable
    cases parsed : RunId.parse text with
    | none =>
      constructor
      · intro oracle
        rw [answerText_of_parse_none parsed]
        exact Nat.zero_le 1
      · intro oracle name member
        rw [answerText_of_parse_none parsed] at member
        cases member
      · intro _ oracle
        rw [answerText_of_parse_none parsed]
        exact ⟨rfl, rfl⟩
    | some id =>
      obtain ⟨kind, found, rfl⟩ := Option.map_eq_some_iff.mp parsed
      obtain ⟨kind, millis, rfl⟩ := mintable ⟨kind, RunId.starts_of_kindOf found⟩
      constructor
      · intro oracle
        rw [filesRead_of_parse_some parsed]
        exact le_rfl
      · intro oracle name member
        rw [filesRead_of_parse_some parsed, List.mem_singleton] at member
        subst member
        exact ⟨slash_not_mem_reportFileName kind millis, kind, millis, rfl⟩
      · intro foreign
        exact (foreign ⟨kind, millis, rfl⟩).elim

/-!
## Mints beside each other
-/

/-- The counter, the milliseconds taken from it in the order of the updates, and the minted
identifiers. -/
structure MintWorld where
  lastMillis : U64
  taken : List (Nat × U64)
  returned : List (Nat × RunId)

namespace MintWorld

def initial : MintWorld where
  lastMillis := 0
  taken := []
  returned := []

def take (world : MintWorld) (task : Nat) (now : U64) : MintWorld :=
  { world with
    lastMillis := nextMillis now world.lastMillis
    taken := world.taken ++ [(task, nextMillis now world.lastMillis)] }

def give (world : MintWorld) (task : Nat) (id : RunId) : MintWorld :=
  { world with returned := world.returned ++ [(task, id)] }

end MintWorld

/-- The clock says anything, the update is atomic. -/
def MintAllows (world : MintWorld) : (op : RunCall Report) → op.Reply → Prop
  | .now, _ => True
  | .tryUpdate _, reply => reply = world.lastMillis
  | .answer _, _ => True
  | _, _ => False

def mintReact (task : Nat) : (op : RunCall Report) → op.Reply → MintWorld → MintWorld
  | .tryUpdate now, _, world => world.take task now
  | .answer (.started (.ok id)), _, world => world.give task id
  | _, _, world => world

def mintPool (Report : Type) : TaskPool (registryInterface Report) Empty MintWorld RunKind where
  allowed := fun _ => MintAllows
  react := mintReact
  evolve := fun _ _ => False
  program := fun kind => (RunId.mint kind).bind fun id => ask (.answer (.started (.ok id)))

/-- The counter has not reached its last value. -/
def Room (world _later : MintWorld) : Prop := world.lastMillis.toNat + 1 < 2 ^ 64

instance decidableRoom (world later : MintWorld) : Decidable (Room world later) :=
  inferInstanceAs (Decidable (_ < _))

/-- What is minted: milliseconds go up from update to update, and each identifier has the
millisecond that its own mint took, which no other has. -/
structure MintedApart (world : MintWorld) : Prop where
  increasing : world.taken.Pairwise fun earlier later => earlier.2.toNat < later.2.toNat
  own : ∀ {task id}, (task, id) ∈ world.returned →
      (task, id.mintedMillis) ∈ world.taken ∧ ∃ kind, id = .ofMillis kind id.mintedMillis
  distinct : world.returned.Pairwise fun first second =>
      first.2 ≠ second.2 ∧ first.2.mintedMillis ≠ second.2.mintedMillis

inductive Mints (task : Nat) (world : MintWorld) : MintWorld → Prop where
  | nothing : Mints task world world
  | take
      (now : U64)
      (first : ∀ millis, (task, millis) ∉ world.taken) :
      Mints task world (world.take task now)
  | give
      {kind : RunKind}
      {millis : U64}
      (took : (task, millis) ∈ world.taken)
      (first : ∀ id, (task, id) ∉ world.returned) :
      Mints task world (world.give task (.ofMillis kind millis))

def LeavesMints (task : Nat) (world later : MintWorld) : Prop :=
  (∀ millis, (task, millis) ∈ later.taken ↔ (task, millis) ∈ world.taken) ∧
    ∀ id, (task, id) ∈ later.returned ↔ (task, id) ∈ world.returned

variable {world later : MintWorld} {task : Nat}

theorem Mints.leaves {other : Nat} (different : task ≠ other) (mints : Mints task world later) :
    LeavesMints other world later := by
  cases mints with
  | nothing => exact ⟨fun _ => .rfl, fun _ => .rfl⟩
  | take now first =>
    refine ⟨?_, fun _ => .rfl⟩
    intro millis
    simp [MintWorld.take, different.symm]
  | give took first =>
    refine ⟨fun _ => .rfl, ?_⟩
    intro id
    simp [MintWorld.give, different.symm]

theorem LeavesMints.of_evolves (evolved : Relation.ReflTransGen (LeavesMints task) world later) :
    LeavesMints task world later := by
  induction evolved with
  | refl => exact ⟨fun _ => .rfl, fun _ => .rfl⟩
  | tail _ step ih =>
    exact ⟨fun millis => (step.1 millis).trans (ih.1 millis), fun id => (step.2 id).trans (ih.2 id)⟩

theorem mint_behaves (kind : RunKind)
    (fresh : (∀ millis, (task, millis) ∉ world.taken) ∧ ∀ id, (task, id) ∉ world.returned) :
    (mintPool Report).Behaves LeavesMints Mints task ((mintPool Report).program kind)
      (fun _ _ => True) (fun _ _ => True) world := by
  intro atClock toClock now _
  refine ⟨.nothing, ?_⟩
  intro atUpdate toUpdate previous updated
  have leaves := LeavesMints.of_evolves (toClock.trans toUpdate)
  have untaken : ∀ millis, (task, millis) ∉ atUpdate.taken :=
    fun millis member => fresh.1 millis ((leaves.1 millis).mp member)
  refine ⟨.take now untaken, ?_⟩
  intro atReturn toReturn _ _
  have leavesAgain := LeavesMints.of_evolves toReturn
  have updated : previous = atUpdate.lastMillis := updated
  subst updated
  refine ⟨.give ?_ ?_, trivial⟩
  · apply (leavesAgain.1 _).mpr
    exact List.mem_append_right _ (List.mem_singleton_self _)
  · intro id member
    exact fresh.2 id ((leaves.2 id).mp ((leavesAgain.2 id).mp member))

/-- What holds after any number of steps of some tasks. -/
structure MintsKept (count : Nat) (world : MintWorld) : Prop where
  takers : ∀ {task millis}, (task, millis) ∈ world.taken → task < count
  owners : ∀ {task id}, (task, id) ∈ world.returned → task < count
  bounded : ∀ {task millis}, (task, millis) ∈ world.taken → millis.toNat ≤ world.lastMillis.toNat
  increasing : world.taken.Pairwise fun earlier later => earlier.2.toNat < later.2.toNat
  own : ∀ {task id}, (task, id) ∈ world.returned →
      (task, id.mintedMillis) ∈ world.taken ∧ ∃ kind, id = .ofMillis kind id.mintedMillis
  once : world.returned.Pairwise fun first second => first.1 ≠ second.1

namespace MintsKept

variable {count : Nat}

theorem taker_unique {first second : Nat} {millis : U64} (kept : MintsKept count world)
    (taken : (first, millis) ∈ world.taken) (takenToo : (second, millis) ∈ world.taken) :
    first = second := by
  have apart : (world.taken.map Prod.snd).Nodup := by
    apply List.pairwise_map.mpr
    apply kept.increasing.imp
    intro earlier later less same
    rw [same] at less
    exact less.false
  exact congrArg Prod.fst (List.inj_on_of_nodup_map apart taken takenToo rfl)

theorem mintedApart (kept : MintsKept count world) : MintedApart world where
  increasing := kept.increasing
  own := kept.own
  distinct := by
    apply kept.once.imp_of_mem
    intro first second member memberToo different
    have millis : first.2.mintedMillis ≠ second.2.mintedMillis := by
      intro same
      have taken := (kept.own member).1
      have takenToo := (kept.own memberToo).1
      rw [← same] at takenToo
      exact different (kept.taker_unique taken takenToo)
    exact ⟨fun same => millis (congrArg RunId.mintedMillis same), millis⟩

theorem take (kept : MintsKept count world) (known : task < count) (now : U64)
    (room : world.lastMillis.toNat + 1 < 2 ^ 64) :
    MintsKept count (world.take task now) where
  takers := by
    intro other millis member
    rcases List.mem_append.mp member with old | isNew
    · exact kept.takers old
    · cases List.mem_singleton.mp isNew
      exact known
  owners := kept.owners
  bounded := by
    intro other millis member
    rcases List.mem_append.mp member with old | isNew
    · exact (kept.bounded old).trans (lt_nextMillis room).le
    · cases List.mem_singleton.mp isNew
      exact le_rfl
  increasing := by
    apply List.pairwise_append.mpr
    refine ⟨kept.increasing, List.pairwise_singleton _ _, ?_⟩
    intro earlier member later isNew
    cases List.mem_singleton.mp isNew
    exact (kept.bounded member).trans_lt (lt_nextMillis room)
  own := by
    intro other id member
    obtain ⟨taken, named⟩ := kept.own member
    exact ⟨List.mem_append_left _ taken, named⟩
  once := kept.once

theorem give {kind : RunKind} {millis : U64} (kept : MintsKept count world) (known : task < count)
    (took : (task, millis) ∈ world.taken) (first : ∀ id, (task, id) ∉ world.returned) :
    MintsKept count (world.give task (.ofMillis kind millis)) where
  takers := kept.takers
  owners := by
    intro other id member
    rcases List.mem_append.mp member with old | isNew
    · exact kept.owners old
    · cases List.mem_singleton.mp isNew
      exact known
  bounded := kept.bounded
  increasing := kept.increasing
  own := by
    intro other id member
    rcases List.mem_append.mp member with old | isNew
    · exact kept.own old
    · cases List.mem_singleton.mp isNew
      rw [RunId.mintedMillis_ofMillis]
      exact ⟨took, kind, rfl⟩
  once := by
    apply List.pairwise_append.mpr
    refine ⟨kept.once, List.pairwise_singleton _ _, ?_⟩
    intro earlier member later isNew
    cases List.mem_singleton.mp isNew
    rcases earlier with ⟨other, id⟩
    intro same
    have same : other = task := same
    subst same
    exact first id member

end MintsKept

theorem mints_apart {last : PoolState (registryInterface Report) Empty MintWorld}
    (run : (mintPool Report).Runs Room ⟨[], .initial⟩ last) :
    MintedApart last.world := by
  have start : MintsKept 0 MintWorld.initial := by
    constructor <;> first | exact .nil | (intros; contradiction)
  have reached := @TaskPool.Runs.invariant _ _ _ _ (mintPool Report) LeavesMints Mints Room
      ⟨[], .initial⟩ last MintsKept
      (fun different mints => mints.leaves different)
      (fun moved => moved.elim)
      (by
        intro count world later change room kept
        cases change with
        | environment moved => exact moved.elim
        | perform task known mints =>
          cases mints with
          | nothing => exact kept
          | take now first => exact kept.take known now room
          | give took first => exact kept.give known took first)
      (fun kept => { kept with
        takers := fun member => Nat.lt_succ_of_lt (kept.takers member)
        owners := fun member => Nat.lt_succ_of_lt (kept.owners member) })
      (fun kept kind =>
        mint_behaves kind
          ⟨fun _ member => (kept.takers member).false, fun _ member => (kept.owners member).false⟩)
      run (TaskPool.obedient_empty _) start
  exact reached.1.mintedApart

def mintResponder : PoolResponder (mintPool Unit) Unit Unit where
  move := fun _ _ => none
  move_sound := fun moved => by cases moved
  reply := fun _ _ world op =>
    match op with
    | .now => some (7 : U64)
    | .tryUpdate _ => some world.lastMillis
    | .answer _ => some ()
    | _ => none
  reply_sound := by
    intro _ task world op answer replied
    cases op <;> cases replied <;> trivial

/--
Which texts keep the registry inside its reports directory: those that start as no run does and
those that it could have minted.  What it mints it reads back with its kind, and while the counter
has not reached its last value minted identifiers are distinct and increasing.
-/
theorem caller_identifiers_stay_in_reports_iff (Report : Type) : (∀ text,
      StaysInReports Report text ↔
        ((∃ kind : RunKind, kind.start.toList <+: text.toList) → RunId.Mintable text)) ∧
    (∀ kind millis,
      RunId.parse (RunId.ofMillis kind millis).text = some (RunId.ofMillis kind millis) ∧
        (RunId.ofMillis kind millis).kind = some kind) ∧
    ∀ last, (mintPool Report).Runs Room ⟨[], .initial⟩ last → MintedApart last.world :=
  ⟨staysInReports_iff,
    fun kind millis => ⟨RunId.parse_ofMillis kind millis, RunId.kindOf_ofMillis kind millis⟩,
    fun _ run => mints_apart run⟩

/-- Two mints at one moment of the clock, whose updates follow each other, are apart. -/
theorem mints_at_one_moment_are_apart : ∃ last : PoolState (registryInterface Unit) Empty MintWorld,
      (mintPool Unit).Runs Room ⟨[], .initial⟩ last ∧ last.world.returned =
          [(1, .ofMillis .intentsSend 8), (0, .ofMillis .loadTest 7)] ∧
        MintedApart last.world := by
  obtain ⟨last, run, passed⟩ :=
    @PoolResponder.exists_run _ _ _ _ _ _ _ mintResponder Room _ ⟨[], .initial⟩
      [.spawn .loadTest, .spawn .intentsSend, .answer 0 () 1, .answer 1 () 1,
        .answer 0 () 1, .answer 1 () 2, .answer 0 () 1]
      (fun state =>
        decide (state.world.returned = [(1, .ofMillis .intentsSend 8), (0, .ofMillis .loadTest 7)]))
      (by decide +kernel)
  exact ⟨last, run, of_decide_eq_true passed,
    (caller_identifiers_stay_in_reports_iff Unit).2.2 last run⟩

/-- A client makes the registry read a file of a directory below the reports. -/
theorem foreign_text_is_read : ¬ RunId.Mintable "axe-load-test-archive/old" ∧
      filesRead (answerText (nothingThere : Oracle (registryInterface Unit))
        "axe-load-test-archive/old").1 = ["axe-load-test-archive/old.json"] := by
  constructor
  · rintro ⟨kind, millis, same⟩
    have free := slash_not_mem_reportFileName kind millis
    rw [RunId.reportFileName, ← same] at free
    exact absurd free (by decide)
  · have parsed : RunId.parse "axe-load-test-archive/old" = some ⟨"axe-load-test-archive/old"⟩ := by
      decide +kernel
    rw [filesRead_of_parse_some parsed]
    rfl

end Axe.Mcp
