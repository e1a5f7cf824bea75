import Axe.PrefixCodec

namespace Axe.ConfigSource

/-!
# The cache of the chains config

A call that finds no fresh cache fetches the config, writes it to a temporary file and renames
that file to the cache.  The name of the temporary file holds the process and nothing else, so
the calls of one process share it.

A file is created or truncated first and written in pieces afterwards, each at the offset that
its writer has reached.  A rename moves the file as it is, and whoever has it open writes on.
-/

/-- How far a call has come. -/
inductive Stage where
  | look
  | fetch
  | openTemp (body : Bytes)
  | write (body : Bytes) (file offset : Nat)
  | ended (result : Except String Unit)
  deriving DecidableEq

/-- A call of some process. -/
structure Task where
  pid : Nat
  stage : Stage
  deriving DecidableEq

/-- The calls, and the files that they share.  Files are numbered as they are created. -/
structure World where
  tasks : List Task
  contents : List Bytes
  temps : Nat → Option Nat
  cache : Option Nat

/-- No call, no file and no cache. -/
def World.initial : World := ⟨[], [], fun _ => none, none⟩

/-- Write a piece at an offset, over what is there. -/
def writeAt (content : Bytes) (offset : Nat) (piece : Bytes) : Bytes :=
  content.take offset ++ List.replicate (offset - content.length) 0 ++ piece ++
    content.drop (offset + piece.length)

/-- What a call, the system or the user does next. -/
inductive Event where
  | call (pid : Nat)
  | useOther (task : Nat) (found : Bool)
  | isFresh (task : Nat) (fresh : Bool)
  | fetched (task : Nat) (body : Option Bytes)
  | openTemp (task : Nat)
  | write (task count : Nat)
  | rename (task : Nat)
  | ioError (task : Nat)
  | kill (pid : Nat)
  deriving DecidableEq

/-- Move a call on to its next stage. -/
def World.setStage (world : World) (task : Nat) (stage : Stage) : World :=
  { world with tasks := world.tasks.modify task fun old => { old with stage := stage } }

/-- Create the temporary file of a process, or truncate the one that is there. -/
def World.createTemp (world : World) (pid : Nat) : World × Nat :=
  match world.temps pid with
  | some file => ({ world with contents := world.contents.set file [] }, file)
  | none =>
    ({ world with
        contents := world.contents ++ [[]]
        temps := Function.update world.temps pid (some world.contents.length) },
      world.contents.length)

/-- What one event does, if it is possible. -/
def step (parses : Bytes → Bool) (world : World) : Event → Option World
  | .call pid => some { world with tasks := world.tasks ++ [⟨pid, .look⟩] }
  | .useOther task found =>
    -- An explicit path or a sibling checkout; the cache is not looked at.
    match world.tasks[task]? with
    | some ⟨_, .look⟩ =>
      some (world.setStage task (.ended (if found then .ok () else .error "chains config")))
    | _ => none
  | .isFresh task fresh =>
    match world.tasks[task]? with
    | some ⟨_, .look⟩ =>
      if fresh then
        if world.cache.isSome then some (world.setStage task (.ended (.ok ()))) else none
      else
        some (world.setStage task .fetch)
    | _ => none
  | .fetched task body =>
    match world.tasks[task]?, body with
    | some ⟨_, .fetch⟩, some body =>
      if parses body then some (world.setStage task (.openTemp body)) else none
    | some ⟨_, .fetch⟩, none =>
      some (world.setStage task (.ended
        (if world.cache.isSome then .ok () else .error "no chains config")))
    | _, _ => none
  | .openTemp task =>
    match world.tasks[task]? with
    | some ⟨pid, .openTemp body⟩ =>
      let created := world.createTemp pid
      some (created.1.setStage task (.write body created.2 0))
    | _ => none
  | .write task count =>
    match world.tasks[task]? with
    | some ⟨_, .write body file offset⟩ =>
      let piece := (body.drop offset).take (count + 1)
      if piece = [] then
        none
      else
        some ({ world with
          contents := world.contents.modify file fun old => writeAt old offset piece }.setStage
            task (.write body file (offset + piece.length)))
    | _ => none
  | .rename task =>
    match world.tasks[task]? with
    | some ⟨pid, .write body _ offset⟩ =>
      if offset = body.length then
        match world.temps pid with
        | some file =>
          some ({ world with
            cache := some file
            temps := Function.update world.temps pid none }.setStage task (.ended (.ok ())))
        | none => some (world.setStage task (.ended (.error "No such file or directory")))
      else
        none
    | _ => none
  | .ioError task =>
    match world.tasks[task]? with
    | some ⟨_, .ended _⟩ | none => none
    | some _ => some (world.setStage task (.ended (.error "io error")))
  | .kill pid =>
    some { world with
      tasks := world.tasks.map fun task =>
        if task.pid = pid then { task with stage := .ended (.error "killed") } else task }

/-- The worlds that permitted events lead to. -/
inductive Reachable (parses : Bytes → Bool) (permit : World → Event → Prop) : World → Prop where
  | initial : Reachable parses permit .initial
  | step
      {world later : World}
      (event : Event)
      (reached : Reachable parses permit world)
      (permitted : permit world event)
      (moved : step parses world event = some later) :
      Reachable parses permit later

/-- The cache, if there is one, is a whole configuration. -/
def CacheComplete (parses : Bytes → Bool) (world : World) : Prop :=
  ∀ file, world.cache = some file → ∃ body, world.contents[file]? = some body ∧ parses body = true

/-- No call that wrote its body lost its temporary file to another one. -/
def NoneLost (world : World) : Prop :=
  ∀ task ∈ world.tasks, task.stage ≠ .ended (.error "No such file or directory")

/-- The call has the temporary file open. -/
def Stage.isWriting : Stage → Bool
  | .write _ _ _ => true
  | _ => false

/-- The call that opens its temporary file. -/
def Event.opener (world : World) : Event → Option Task
  | .openTemp task => world.tasks[task]?
  | _ => none

/-- A call opens the temporary file only while no other call of its process writes it. -/
def OneWriter (world : World) (event : Event) : Prop :=
  ∀ opener ∈ event.opener world,
    ∀ other ∈ world.tasks, other.pid = opener.pid → other.stage.isWriting = false

instance OneWriter.decidable (world : World) (event : Event) : Decidable (OneWriter world event) :=
  inferInstanceAs (Decidable (∀ opener ∈ event.opener world, _))

/-!
## One writer in each process
-/

/-- What holds while each process has one writer at most: a writer has the temporary file of
its process, with what it has written so far, and all files in use are different. -/
structure Separate (parses : Bytes → Bool) (world : World) : Prop where
  writer : ∀ (task pid : Nat) (body : Bytes) (file offset : Nat),
    world.tasks[task]? = some ⟨pid, .write body file offset⟩ →
      world.temps pid = some file ∧ offset ≤ body.length ∧ parses body = true ∧
        world.contents[file]? = some (body.take offset)
  alone : ∀ (first second : Nat) (one two : Task),
    world.tasks[first]? = some one → world.tasks[second]? = some two → one.pid = two.pid →
      one.stage.isWriting = true → two.stage.isWriting = true → first = second
  fetched : ∀ (task pid : Nat) (body : Bytes),
    world.tasks[task]? = some ⟨pid, .openTemp body⟩ → parses body = true
  known : ∀ pid file, world.temps pid = some file → file < world.contents.length
  apart : ∀ first second file, world.temps first = some file → world.temps second = some file →
    first = second
  unshared : ∀ pid file, world.temps pid = some file → world.cache ≠ some file
  complete : CacheComplete parses world
  noneLost : NoneLost world

variable {parses : Bytes → Bool} {world later : World}

theorem getElem?_setStage (world : World) (task other : Nat) (stage : Stage) :
    (world.setStage task stage).tasks[other]? =
      if other = task then (world.tasks[other]?).map fun old => { old with stage := stage }
      else world.tasks[other]? := by
  simp only [World.setStage, List.getElem?_modify]
  split
  · simp_all
  · rename_i different
    rw [if_neg fun same => different same.symm]
    simp

/-- A stage that writes to no file; what it fetched is whole, and its rename did not fail. -/
structure Quiet (parses : Bytes → Bool) (stage : Stage) : Prop where
  idle : stage.isWriting = false
  fetched : ∀ body, stage = .openTemp body → parses body = true
  kept : stage ≠ .ended (.error "No such file or directory")

theorem quiet_ended {result : Except String Unit}
    (kept : result ≠ .error "No such file or directory") : Quiet parses (.ended result) :=
  ⟨rfl, by simp, fun same => kept (Stage.ended.inj same)⟩

variable {body : Bytes}

theorem quiet_openTemp (parsed : parses body = true) : Quiet parses (.openTemp body) :=
  ⟨rfl, by simpa using parsed, by simp⟩

namespace Separate

variable (separate : Separate parses world)

include separate

theorem retask {tasks : List Task}
    (changed : ∀ (other : Nat) (found : Task), tasks[other]? = some found →
      world.tasks[other]? = some found ∨ Quiet parses found.stage) :
    Separate parses { world with tasks := tasks } := by
  have writes {other : Nat} {found : Task} (isFound : tasks[other]? = some found)
      (writing : found.stage.isWriting = true) : world.tasks[other]? = some found := by
    rcases changed other found isFound with old | quiet
    · exact old
    · rw [quiet.idle] at writing
      cases writing
  constructor
  · intro other pid body file offset isFound
    exact separate.writer other pid body file offset (writes isFound rfl)
  · intro first second one two isOne isTwo samePid oneWrites twoWrites
    exact separate.alone first second one two (writes isOne oneWrites) (writes isTwo twoWrites)
      samePid oneWrites twoWrites
  · intro other pid body isFound
    rcases changed other _ isFound with old | quiet
    · exact separate.fetched other pid body old
    · exact quiet.fetched body rfl
  · exact separate.known
  · exact separate.apart
  · exact separate.unshared
  · exact separate.complete
  · intro found member
    obtain ⟨other, isFound⟩ := List.mem_iff_getElem?.mp member
    rcases changed other found isFound with old | quiet
    · exact separate.noneLost found (List.mem_of_getElem? old)
    · exact quiet.kept

theorem setStage (task : Nat) {stage : Stage}
    (quiet : Quiet parses stage) : Separate parses (world.setStage task stage) := by
  apply separate.retask
  intro other found isFound
  have isFound : (world.setStage task stage).tasks[other]? = some found := isFound
  rw [getElem?_setStage] at isFound
  split at isFound
  · obtain ⟨old, _, rfl⟩ := Option.map_eq_some_iff.mp isFound
    exact .inr quiet
  · exact .inl isFound

theorem refill {pid file : Nat}
    (owned : world.temps pid = some file)
    (silent : ∀ task ∈ world.tasks, task.pid = pid → task.stage.isWriting = false)
    (content : Bytes) :
    Separate parses { world with contents := world.contents.set file content } := by
  have elsewhere {other : Nat} (different : file ≠ other) :
      (world.contents.set file content)[other]? = world.contents[other]? :=
    List.getElem?_set_ne different
  constructor
  · intro task other body found offset isFound
    obtain ⟨hasTemp, rest⟩ := separate.writer task other body found offset isFound
    refine ⟨hasTemp, rest.1, rest.2.1, ?_⟩
    rw [elsewhere, rest.2.2]
    rintro rfl
    cases separate.apart _ _ _ owned hasTemp
    exact Bool.noConfusion (silent _ (List.mem_of_getElem? isFound) rfl)
  · exact separate.alone
  · exact separate.fetched
  · intro other found isTemp
    rw [List.length_set]
    exact separate.known other found isTemp
  · exact separate.apart
  · exact separate.unshared
  · intro cached isCache
    obtain ⟨body, isBody, parsed⟩ := separate.complete cached isCache
    refine ⟨body, ?_, parsed⟩
    rw [elsewhere, isBody]
    rintro rfl
    exact separate.unshared pid _ owned isCache
  · exact separate.noneLost

theorem create {pid : Nat} (absent : world.temps pid = none) :
    Separate parses { world with
      contents := world.contents ++ [[]]
      temps := Function.update world.temps pid (some world.contents.length) } := by
  have isTemp {other file : Nat}
      (found : Function.update world.temps pid (some world.contents.length) other = some file) :
      (other = pid ∧ file = world.contents.length) ∨
        (other ≠ pid ∧ world.temps other = some file) := by
    by_cases same : other = pid
    · rw [same, Function.update_self] at found
      exact .inl ⟨same, (Option.some.inj found).symm⟩
    · rw [Function.update_of_ne same] at found
      exact .inr ⟨same, found⟩
  have old {file : Nat} {content : Bytes} (found : world.contents[file]? = some content) :
      (world.contents ++ [[]])[file]? = some content :=
    (List.getElem?_append_left (List.getElem?_eq_some_iff.mp found).1).trans found
  constructor
  · intro task other body file offset isFound
    obtain ⟨hasTemp, within, parsed, content⟩ := separate.writer task other body file offset isFound
    refine ⟨?_, within, parsed, old content⟩
    change Function.update _ _ _ _ = _
    rw [Function.update_of_ne, hasTemp]
    rintro rfl
    rw [absent] at hasTemp
    cases hasTemp
  · exact separate.alone
  · exact separate.fetched
  · intro other file found
    rw [List.length_append, List.length_singleton]
    rcases isTemp found with ⟨_, rfl⟩ | ⟨_, before⟩
    · exact Nat.lt_succ_self _
    · exact Nat.lt_succ_of_lt (separate.known other file before)
  · intro first second file isFirst isSecond
    rcases isTemp isFirst with ⟨rfl, isNew⟩ | ⟨_, before⟩
    · rcases isTemp isSecond with ⟨rfl, _⟩ | ⟨_, before⟩
      · rfl
      · exact absurd isNew (Nat.ne_of_lt (separate.known second file before))
    · rcases isTemp isSecond with ⟨_, isNew⟩ | ⟨_, later⟩
      · exact absurd isNew (Nat.ne_of_lt (separate.known first file before))
      · exact separate.apart first second file before later
  · intro other file found isCache
    rcases isTemp found with ⟨_, rfl⟩ | ⟨_, before⟩
    · obtain ⟨body, isBody, _⟩ := separate.complete _ isCache
      exact Nat.lt_irrefl _ (List.getElem?_eq_some_iff.mp isBody).1
    · exact separate.unshared other file before isCache
  · intro file isCache
    obtain ⟨body, isBody, parsed⟩ := separate.complete file isCache
    exact ⟨body, old isBody, parsed⟩
  · exact separate.noneLost

theorem startWriting {task pid file offset : Nat}
    {body : Bytes} (isTask : world.tasks[task]? = some ⟨pid, .openTemp body⟩)
    (silent : ∀ other ∈ world.tasks, other.pid = pid → other.stage.isWriting = false)
    (owned : world.temps pid = some file) (within : offset ≤ body.length)
    (content : world.contents[file]? = some (body.take offset)) :
    Separate parses (world.setStage task (.write body file offset)) := by
  have changed {other : Nat} {found : Task}
      (isFound : (world.setStage task (.write body file offset)).tasks[other]? = some found) :
      (other = task ∧ found = ⟨pid, .write body file offset⟩) ∨
        (other ≠ task ∧ world.tasks[other]? = some found) := by
    rw [getElem?_setStage] at isFound
    split at isFound
    · rename_i same
      rw [same, isTask] at isFound
      exact .inl ⟨same, (Option.some.inj isFound).symm⟩
    · exact .inr ⟨‹_›, isFound⟩
  have foreign {other : Nat} {found : Task} (isFound : world.tasks[other]? = some found)
      (writing : found.stage.isWriting = true) : found.pid ≠ pid := by
    intro samePid
    rw [silent found (List.mem_of_getElem? isFound) samePid] at writing
    cases writing
  constructor
  · intro other otherPid otherBody otherFile otherOffset isFound
    rcases changed isFound with ⟨_, same⟩ | ⟨_, old⟩
    · cases same
      exact ⟨owned, within, separate.fetched task pid body isTask, content⟩
    · exact separate.writer other otherPid otherBody otherFile otherOffset old
  · intro first second one two isOne isTwo samePid oneWrites twoWrites
    rcases changed isOne with ⟨rfl, rfl⟩ | ⟨_, oldOne⟩
    · rcases changed isTwo with ⟨rfl, rfl⟩ | ⟨_, oldTwo⟩
      · rfl
      · exact absurd samePid.symm (foreign oldTwo twoWrites)
    · rcases changed isTwo with ⟨rfl, rfl⟩ | ⟨_, oldTwo⟩
      · exact absurd samePid (foreign oldOne oneWrites)
      · exact separate.alone first second one two oldOne oldTwo samePid oneWrites twoWrites
  · intro other otherPid otherBody isFound
    rcases changed isFound with ⟨_, same⟩ | ⟨_, old⟩
    · cases same
    · exact separate.fetched other otherPid otherBody old
  · exact separate.known
  · exact separate.apart
  · exact separate.unshared
  · exact separate.complete
  · intro found member
    obtain ⟨other, isFound⟩ := List.mem_iff_getElem?.mp member
    rcases changed isFound with ⟨_, same⟩ | ⟨_, old⟩
    · rw [same]
      exact fun impossible => by cases impossible
    · exact separate.noneLost found (List.mem_of_getElem? old)

theorem rename {pid file : Nat} {body : Bytes}
    (silent : ∀ other ∈ world.tasks, other.pid = pid → other.stage.isWriting = false)
    (owned : world.temps pid = some file) (content : world.contents[file]? = some body)
    (parsed : parses body = true) :
    Separate parses { world with
      cache := some file
      temps := Function.update world.temps pid none } := by
  have isTemp {other found : Nat}
      (isFound : Function.update world.temps pid none other = some found) :
      other ≠ pid ∧ world.temps other = some found := by
    by_cases same : other = pid
    · rw [same, Function.update_self] at isFound
      cases isFound
    · rw [Function.update_of_ne same] at isFound
      exact ⟨same, isFound⟩
  constructor
  · intro task other otherBody found offset isFound
    obtain ⟨hasTemp, rest⟩ := separate.writer task other otherBody found offset isFound
    refine ⟨?_, rest⟩
    change Function.update _ _ _ _ = _
    rw [Function.update_of_ne, hasTemp]
    rintro rfl
    exact Bool.noConfusion (silent _ (List.mem_of_getElem? isFound) rfl)
  · exact separate.alone
  · exact separate.fetched
  · intro other found isFound
    exact separate.known other found (isTemp isFound).2
  · intro first second found isFirst isSecond
    exact separate.apart first second found (isTemp isFirst).2 (isTemp isSecond).2
  · rintro other found isFound ⟨⟩
    obtain ⟨different, before⟩ := isTemp isFound
    exact different (separate.apart _ _ _ before owned)
  · rintro found ⟨⟩
    exact ⟨body, content, parsed⟩
  · exact separate.noneLost

end Separate

variable {offset : Nat}

theorem writeAt_take (within : offset ≤ body.length) (count : Nat) :
    writeAt (body.take offset) offset ((body.drop offset).take count) =
      body.take (offset + ((body.drop offset).take count).length) := by
  have length : (body.take offset).length = offset := List.length_take_of_le within
  have short : (body.take offset).length ≤ offset + ((body.drop offset).take count).length := by
    omega
  rw [writeAt, List.take_of_length_le (Nat.le_of_eq length), length, Nat.sub_self,
    List.drop_eq_nil_of_le short, List.replicate_zero, List.append_nil, List.append_nil,
    List.length_take, List.take_add]
  congr 1
  rw [List.length_drop, List.take_eq_take_iff, List.length_drop]
  omega

theorem setStage_setStage (world : World) (task : Nat) (first second : Stage) :
    (world.setStage task first).setStage task second = world.setStage task second := by
  simp [World.setStage, List.modify_modify_eq, Function.comp_def]

theorem Separate.silent_of_writer (separate : Separate parses world) {task pid file : Nat}
    (isTask : world.tasks[task]? = some ⟨pid, .write body file offset⟩) {stage : Stage}
    (idle : stage.isWriting = false) :
    ∀ other ∈ (world.setStage task stage).tasks, other.pid = pid →
      other.stage.isWriting = false := by
  intro other member samePid
  obtain ⟨index, isOther⟩ := List.mem_iff_getElem?.mp member
  rw [getElem?_setStage] at isOther
  split at isOther
  · obtain ⟨old, _, rfl⟩ := Option.map_eq_some_iff.mp isOther
    exact idle
  · rename_i different
    by_contra writing
    exact different (separate.alone index task other _ isOther isTask samePid
      (Bool.not_eq_false _ ▸ writing) rfl)

/-- A writer adds the next piece of its body to its own file. -/
theorem Separate.writePiece
    (separate : Separate parses world)
    {task pid file : Nat}
    (isTask : world.tasks[task]? = some ⟨pid, .write body file offset⟩)
    (count : Nat) :
    Separate parses ({ world with
      contents := world.contents.modify file fun old =>
        writeAt old offset ((body.drop offset).take (count + 1)) }.setStage task
          (.write body file (offset + ((body.drop offset).take (count + 1)).length))) := by
  obtain ⟨owned, within, parsed, content⟩ := separate.writer task pid body file offset isTask
  -- The writer lets go of its file, the file is written, and it takes it again.
  have idle := separate.setStage task (quiet_openTemp parsed)
  have silent := separate.silent_of_writer isTask (rfl : (Stage.openTemp body).isWriting = _)
  have isIdle : (world.setStage task (.openTemp body)).tasks[task]? =
      some ⟨pid, .openTemp body⟩ := by
    rw [getElem?_setStage, if_pos rfl, isTask]
    rfl
  have written := writeAt_take within (count + 1)
  have bound := separate.known pid file owned
  have refilled := idle.refill owned silent
    (writeAt (body.take offset) offset ((body.drop offset).take (count + 1)))
  have again := @startWriting _ _ refilled _ _ _
    (offset + ((body.drop offset).take (count + 1)).length) _ isIdle silent owned
    (by rw [List.length_take, List.length_drop]; omega)
    (by rw [← written]; exact List.getElem?_set_self bound)
  have modified : world.contents.modify file (fun old =>
      writeAt old offset ((body.drop offset).take (count + 1))) = world.contents.set file
          (writeAt (body.take offset) offset ((body.drop offset).take (count + 1))) := by
    apply List.ext_getElem?
    intro index
    rw [List.getElem?_modify, List.getElem?_set]
    by_cases same : file = index
    · subst same
      rw [content, if_pos rfl, if_pos bound]
      simp
    · simp [same]
  rw [modified]
  exact setStage_setStage { world with contents := _ } task _ _ ▸ again

theorem Separate.step (separate : Separate parses world) {event : Event}
    (one : OneWriter world event) (moved : step parses world event = some later) :
    Separate parses later := by
  cases event with
  | call pid =>
    cases moved
    apply separate.retask
    intro other found isFound
    rcases Nat.lt_or_ge other world.tasks.length with inside | outside
    · exact .inl (List.getElem?_append_left inside ▸ isFound)
    · right
      rw [List.getElem?_append_right outside] at isFound
      cases List.mem_singleton.mp (List.mem_of_getElem? isFound)
      exact ⟨rfl, by simp, by simp⟩
  | useOther task found =>
    simp only [ConfigSource.step] at moved
    split at moved
    · cases moved
      apply separate.setStage task (quiet_ended _)
      cases found <;> decide
    · cases moved
  | isFresh task fresh =>
    simp only [ConfigSource.step] at moved
    split at moved
    · split at moved
      · split at moved
        · cases moved
          exact separate.setStage task (quiet_ended (by decide))
        · cases moved
      · cases moved
        exact separate.setStage task ⟨rfl, by simp, by simp⟩
    · cases moved
  | fetched task body =>
    simp only [ConfigSource.step] at moved
    split at moved
    · split at moved
      · rename_i parsed
        cases moved
        exact separate.setStage task (quiet_openTemp parsed)
      · cases moved
    · cases moved
      apply separate.setStage task (quiet_ended _)
      split <;> decide
    · cases moved
  | openTemp task =>
    simp only [ConfigSource.step] at moved
    split at moved
    · rename_i pid body isTask
      cases moved
      have silent := one _ isTask
      unfold World.createTemp
      split
      · rename_i file owned
        apply (separate.refill owned silent []).startWriting isTask silent owned (Nat.zero_le _)
        exact List.getElem?_set_self (separate.known pid file owned)
      · rename_i absent
        apply (separate.create absent).startWriting isTask silent
        · exact Function.update_self ..
        · exact Nat.zero_le _
        · exact List.getElem?_concat_length
    · cases moved
  | write task count =>
    simp only [ConfigSource.step] at moved
    split at moved
    · rename_i pid body file offset isTask
      split at moved
      · cases moved
      · cases moved
        exact separate.writePiece isTask count
    · cases moved
  | rename task =>
    simp only [ConfigSource.step] at moved
    split at moved
    · rename_i pid body file offset isTask
      obtain ⟨owned, within, parsed, content⟩ := separate.writer task pid body file offset isTask
      split at moved
      · rename_i isWhole
        rw [owned] at moved
        cases moved
        rw [isWhole, List.take_length] at content
        have quiet : Quiet parses (.ended (.ok ())) := quiet_ended (by decide)
        exact (separate.setStage task quiet).rename
          (separate.silent_of_writer isTask quiet.idle) owned content parsed
      · cases moved
    · cases moved
  | ioError task =>
    simp only [ConfigSource.step] at moved
    split at moved
    · cases moved
    · cases moved
    · cases moved
      exact separate.setStage task (quiet_ended (by decide))
  | kill pid =>
    cases moved
    apply separate.retask
    intro other found isFound
    rw [List.getElem?_map] at isFound
    obtain ⟨old, isOld, rfl⟩ := Option.map_eq_some_iff.mp isFound
    by_cases killed : old.pid = pid
    · right
      rw [if_pos killed]
      exact quiet_ended (by decide)
    · left
      rw [if_neg killed]
      exact isOld

theorem separate_of_reachable (reached : Reachable parses OneWriter world) :
    Separate parses world := by
  induction reached with
  | initial => constructor <;> simp [World.initial, CacheComplete, NoneLost]
  | step event _ one moved ih => exact ih.step one moved

/-- What is known of every body that is fetched. -/
def Event.Serves (served : Bytes → Bool) : Event → Prop
  | .fetched _ (some body) => served body = true
  | _ => True

instance (served : Bytes → Bool) : (event : Event) → Decidable (event.Serves served)
  | .fetched _ (some _) => inferInstanceAs (Decidable (_ = true))
  | .fetched _ none | .call _ | .useOther _ _ | .isFresh _ _ | .openTemp _ | .write _ _
  | .rename _ | .ioError _ | .kill _ => .isTrue trivial

theorem step_served {served : Bytes → Bool} {event : Event} (serves : event.Serves served)
    (moved : step parses world event = some later) :
    step (fun body => parses body && served body) world event = some later := by
  cases event with
  | fetched task body =>
    simp only [step] at moved ⊢
    split at moved
    · rename_i body isFetch
      have isServed : served body = true := serves
      simpa only [isFetch, isServed, Bool.and_true] using moved
    · rename_i isFetch
      simpa only [isFetch] using moved
    · cases moved
  | _ => exact moved

theorem Reachable.served {served : Bytes → Bool}
    (reached : Reachable parses (fun world event => OneWriter world event ∧ event.Serves served)
      world) :
    Reachable (fun body => parses body && served body) OneWriter world := by
  induction reached with
  | initial => exact .initial
  | step event _ permitted moved ih => exact ih.step event permitted.1 (step_served permitted.2 moved)

/-- At every moment the cache is absent or holds one complete body, one of those that were
fetched, and no call loses its file to another one, if no two calls of one process write at
the same time. -/
theorem cache_is_never_half_written
    (parses served : Bytes → Bool)
    (world : World)
    (reached : Reachable parses (fun world event => OneWriter world event ∧ event.Serves served)
      world) :
    CacheComplete (fun body => parses body && served body) world ∧ NoneLost world := by
  have separate := separate_of_reachable reached.served
  exact ⟨separate.complete, separate.noneLost⟩

/-- The world after some events, if all are possible and permitted. -/
def runEvents (parses : Bytes → Bool) (permit : World → Event → Prop)
    [∀ world event, Decidable (permit world event)] : World → List Event → Option World
  | world, [] => some world
  | world, event :: rest =>
    if permit world event then
      (step parses world event).bind fun later => runEvents parses permit later rest
    else
      none

theorem reachable_of_runEvents {events : List Event} {permit : World → Event → Prop}
    [∀ world event, Decidable (permit world event)] (reached : Reachable parses permit world)
    (run : runEvents parses permit world events = some later) : Reachable parses permit later := by
  induction events generalizing world with
  | nil =>
    cases run
    exact reached
  | cons event rest ih =>
    rw [runEvents] at run
    split at run
    · obtain ⟨next, moved, run⟩ := Option.bind_eq_some_iff.mp run
      exact ih (.step event reached ‹_› moved) run
    · cases run

/-- Every body but the empty one parses. -/
def parsesSome (body : Bytes) : Bool := body ≠ []

/-- Two processes write the cache one after the other; it holds one of the two bodies. -/
theorem two_processes_fill_cache :
    ∃ world, world.cache = some 1 ∧
      CacheComplete (fun body => parsesSome body && [[7, 8], [7, 9]].contains body) world ∧
        NoneLost world := by
  have passed : (runEvents parsesSome
      (fun world event => OneWriter world event ∧ event.Serves [[7, 8], [7, 9]].contains) .initial
      [.call 1, .call 2, .isFresh 0 false, .isFresh 1 false, .fetched 0 (some [7, 8]),
        .fetched 1 (some [7, 9]), .openTemp 0, .write 0 0, .openTemp 1, .write 0 0, .rename 0,
        .write 1 1, .rename 1]).any (fun world => world.cache = some 1) = true := by
    decide
  obtain ⟨world, run, cached⟩ := (Option.any_eq_true _ _).mp passed
  have reached := reachable_of_runEvents .initial run
  exact ⟨world, of_decide_eq_true cached,
    cache_is_never_half_written parsesSome _ world reached⟩

/-- Two calls of one process: the second one truncates the temporary file of the first one just
before that is renamed, so the cache is empty; then the second one finds its file gone. -/
theorem shared_temp_is_half_written :
    ∃ world, Reachable parsesSome (fun _ _ => True) world ∧ ¬ CacheComplete parsesSome world ∧
      ∃ later, Reachable parsesSome (fun _ _ => True) later ∧ ¬ NoneLost later := by
  have truncated : (runEvents parsesSome (fun _ _ => True) .initial
      [.call 1, .call 1, .isFresh 0 false, .isFresh 1 false, .fetched 0 (some [7, 8]),
        .fetched 1 (some [7, 8]), .openTemp 0, .write 0 1, .openTemp 1, .rename 0]).any
      (fun world => world.cache = some 0 ∧ world.contents = [[]]) = true := by
    decide
  have lost : (runEvents parsesSome (fun _ _ => True) .initial
      [.call 1, .call 1, .isFresh 0 false, .isFresh 1 false, .fetched 0 (some [7, 8]),
        .fetched 1 (some [7, 8]), .openTemp 0, .write 0 1, .openTemp 1, .rename 0, .write 1 1,
        .rename 1]).any
      (fun world => world.tasks[1]? =
        some ⟨1, .ended (.error "No such file or directory")⟩) = true := by
    decide
  obtain ⟨world, run, truncated⟩ := (Option.any_eq_true _ _).mp truncated
  obtain ⟨later, laterRun, lost⟩ := (Option.any_eq_true _ _).mp lost
  obtain ⟨cached, contents⟩ := of_decide_eq_true truncated
  refine ⟨world, reachable_of_runEvents .initial run, ?_, later,
    reachable_of_runEvents .initial laterRun, ?_⟩
  · intro complete
    obtain ⟨body, isBody, parsed⟩ := complete 0 cached
    rw [contents] at isBody
    cases isBody
    exact absurd parsed (by decide)
  · intro noneLost
    exact noneLost _ (List.mem_of_getElem? (of_decide_eq_true lost)) rfl

end Axe.ConfigSource
