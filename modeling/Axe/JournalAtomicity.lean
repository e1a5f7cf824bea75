import Axe.ProgramExecution
import Axe.SampleNode

namespace Axe.Hardened

/-!
# Journal operations that fail

Recording, replacing, confirming and retiring change the journal in memory and
then write it to its file.  A call that fails can leave the change in memory, and
the next successful write of the session puts it into the file.
-/

/-- The operations on a journal. -/
inductive JournalOperation where
  | record (key : ActionKey) (transaction : Transaction)
  | replace (key : ActionKey) (replacement : Transaction)
  | confirm (hash : HashText) (result : Confirmation)
  | retire (key : ActionKey) (gasLimit : Option U64)

namespace JournalOperation

/-- The program of an operation. -/
def program : JournalOperation → Deploy Unit
  | record key transaction => recordAction key transaction
  | replace key replacement => replaceAction key replacement
  | confirm hash result => confirmResult hash result
  | retire key gasLimit => retireAction key gasLimit

/-- The journal that an operation writes, if it writes one. -/
def writes (journal : Journal) : JournalOperation → Option Journal
  | record key transaction =>
    if journal.get key = none then some (journal.record key transaction) else none
  | replace key replacement =>
    (journal.get key).map fun previous => journal.replace key previous replacement
  | confirm hash result => some (journal.confirm hash result)
  | retire key gasLimit =>
    (journal.get key).map fun previous => journal.retire key previous gasLimit

def refused (journal : Journal) : JournalOperation → Journal
  | replace key replacement => journal.record key replacement
  | _ => journal

end JournalOperation

def writesEnd (outcome : WriteOutcome) : (op : Call) → op.Reply → Prop
  | .commit _, reply => reply = outcome
  | _, _ => True

def writingMachine (lib : Platform) (honest : Prop) (outcome : WriteOutcome) :
    Machine deployInterface Station (Chains lib) :=
  (deployMachine lib honest).restrict (writesEnd outcome)

section Execution

variable {lib : Platform} {honest : Prop} {outcome : WriteOutcome}
variable {here here' : Station} {world world' : Chains lib} {result : Except Stop Unit}

theorem executes_writeJournal {journal : Journal}
    (executes : Executes (writingMachine lib honest outcome) (writeJournal journal)
        here world result here' world') :
    here' = here.written journal outcome ∧ (result = .ok () ↔ outcome = .ok) := by
  cases executes with
  | call reply _ allowed rest =>
    have same : reply = outcome := allowed.2
    subst same
    cases reply with
    | ok =>
      cases rest
      exact ⟨rfl, by simp⟩
    | failedBefore =>
      cases rest
      exact ⟨rfl, by simp⟩
    | failedAfter =>
      cases rest
      exact ⟨rfl, by simp⟩

theorem executes_currentJournal {later : Journal → Deploy Unit}
    (executes : Executes (writingMachine lib honest outcome)
        (Program.bind currentJournal later) here world result here' world') :
    ∃ moved, Executes (writingMachine lib honest outcome) (later here.memory)
        here moved result here' world' := by
  cases executes with
  | @call _ _ _ _ _ moved _ _ reply _ allowed rest =>
    have same : reply = here.memory := allowed.1
    subst same
    exact ⟨moved, rest⟩

theorem JournalOperation.executes {op : JournalOperation}
    (executes : Executes (writingMachine lib honest outcome) op.program
        here world result here' world') :
    (∃ journal, op.writes here.memory = some journal ∧
          here' = here.written journal outcome ∧ (result = .ok () ↔ outcome = .ok)) ∨
      op.writes here.memory = none ∧ here' = { here with memory := op.refused here.memory } ∧
        result ≠ .ok () := by
  cases op with
  | record key transaction =>
    obtain ⟨moved, rest⟩ := executes_currentJournal executes
    by_cases fresh : here.memory.get key = none
    · simp only [Program.ensure, if_pos fresh] at rest
      left
      exact ⟨_, by simp [writes, fresh], executes_writeJournal rest⟩
    · simp only [Program.ensure, if_neg fresh] at rest
      cases rest
      right
      exact ⟨by simp [writes, fresh], rfl, by simp⟩
  | replace key replacement =>
    obtain ⟨moved, rest⟩ := executes_currentJournal executes
    cases current : here.memory.get key with
    | some previous =>
      simp only [current] at rest
      left
      exact ⟨_, by simp [writes, current], executes_writeJournal rest⟩
    | none =>
      simp only [current] at rest
      cases rest with
      | call reply evolved allowed rest =>
        cases rest
        right
        exact ⟨by simp [writes, current], rfl, by simp⟩
  | confirm hash confirmation =>
    obtain ⟨moved, rest⟩ := executes_currentJournal executes
    left
    exact ⟨_, rfl, executes_writeJournal rest⟩
  | retire key gasLimit =>
    obtain ⟨moved, rest⟩ := executes_currentJournal executes
    cases current : here.memory.get key with
    | some previous =>
      simp only [current] at rest
      left
      exact ⟨_, by simp [writes, current], executes_writeJournal rest⟩
    | none =>
      simp only [current] at rest
      cases rest
      right
      exact ⟨by simp [writes, current], rfl, by simp⟩

end Execution

structure Journal.Same (journal other : Journal) : Prop where
  rest : { journal with actions := ∅, confirmations := ∅, attempts := ∅, retryGasLimits := ∅ } =
      { other with actions := ∅, confirmations := ∅, attempts := ∅, retryGasLimits := ∅ }
  actions : ∀ key, journal.actions.lookup key = other.actions.lookup key
  confirmations : ∀ hash, journal.confirmations.lookup hash = other.confirmations.lookup hash
  attempts : ∀ key, journal.attempts.lookup key = other.attempts.lookup key
  retryGasLimits : ∀ key, journal.retryGasLimits.lookup key = other.retryGasLimits.lookup key

def sameFile : Option Journal → Option Journal → Prop
  | some file, some other => file.Same other
  | none, none => True
  | _, _ => False

namespace Journal.Same

variable {journal other third : Journal}

theorem refl (journal : Journal) : journal.Same journal :=
  ⟨rfl, fun _ => rfl, fun _ => rfl, fun _ => rfl, fun _ => rfl⟩

theorem trans (first : journal.Same other) (second : other.Same third) : journal.Same third :=
  ⟨first.rest.trans second.rest, fun key => (first.actions key).trans (second.actions key),
    fun hash => (first.confirmations hash).trans (second.confirmations hash),
    fun key => (first.attempts key).trans (second.attempts key),
    fun key => (first.retryGasLimits key).trans (second.retryGasLimits key)⟩

variable (same : journal.Same other)

include same

theorem get (key : ActionKey) : journal.get key = other.get key :=
  same.actions key

theorem past (key : ActionKey) : journal.past key = other.past key := by
  simp [Journal.past, same.attempts key]

theorem record (key : ActionKey) (transaction : Transaction) :
    (journal.record key transaction).Same (other.record key transaction) := by
  refine ⟨same.rest, fun asked => ?_, same.confirmations, same.attempts, same.retryGasLimits⟩
  by_cases equal : asked = key
  · subst equal
    simp [Journal.record]
  · simp [Journal.record, AList.lookup_insert_ne equal, same.actions asked]

theorem pushAttempt (key : ActionKey) (previous : Transaction) :
    (journal.pushAttempt key previous).Same (other.pushAttempt key previous) := by
  refine ⟨same.rest, same.actions, same.confirmations, fun asked => ?_, same.retryGasLimits⟩
  by_cases equal : asked = key
  · subst equal
    simp [Journal.pushAttempt, same.past asked]
  · simp [Journal.pushAttempt, AList.lookup_insert_ne equal, same.attempts asked]

theorem confirm (hash : HashText) (result : Confirmation) :
    (journal.confirm hash result).Same (other.confirm hash result) := by
  refine ⟨same.rest, same.actions, fun asked => ?_, same.attempts, same.retryGasLimits⟩
  by_cases equal : asked = hash
  · subst equal
    simp [Journal.confirm]
  · simp [Journal.confirm, AList.lookup_insert_ne equal, same.confirmations asked]

theorem erase (key : ActionKey) : Journal.Same
      { journal with actions := journal.actions.erase key }
      { other with actions := other.actions.erase key } := by
  refine ⟨same.rest, fun asked => ?_, same.confirmations, same.attempts, same.retryGasLimits⟩
  by_cases equal : asked = key
  · subst equal
    simp
  · simp [AList.lookup_erase_ne equal, same.actions asked]

theorem limit (key : ActionKey) (limit : U64) : Journal.Same
      { journal with retryGasLimits := journal.retryGasLimits.insert key limit }
      { other with retryGasLimits := other.retryGasLimits.insert key limit } := by
  refine ⟨same.rest, same.actions, same.confirmations, same.attempts, fun asked => ?_⟩
  by_cases equal : asked = key
  · subst equal
    simp
  · simp [AList.lookup_insert_ne equal, same.retryGasLimits asked]

theorem retire (key : ActionKey) (previous : Transaction)
    (gasLimit : Option U64) :
    (journal.retire key previous gasLimit).Same (other.retire key previous gasLimit) := by
  have moved := (same.erase key).pushAttempt key previous
  cases gasLimit with
  | none => exact moved
  | some limit => exact moved.limit key limit

end Journal.Same

/--
The states in which a failing operation changes nothing.  Recording a key that is
taken and retiring one that is missing are refused first; a write that succeeds
makes the operation succeed, unless it replaces a missing key; confirming what is
already confirmed changes nothing in any case.
-/
def JournalOperation.FailsCleanly (outcome : WriteOutcome)
    (journal : Journal) : JournalOperation → Prop
  | record key _ => outcome = .ok ∨ journal.get key ≠ none
  | replace key _ => outcome = .ok ∧ journal.get key ≠ none
  | confirm hash result => outcome = .ok ∨ journal.confirmation hash = some result
  | retire key _ => outcome = .ok ∨ journal.get key = none

section Atomicity

variable {lib : Platform} {honest : Prop} {outcome : WriteOutcome}
variable {op : JournalOperation} {here here' : Station} {world world' : Chains lib}

theorem Journal.confirm_same {journal : Journal} {hash : HashText} {result : Confirmation}
    (known : journal.confirmation hash = some result) :
    (journal.confirm hash result).Same journal := by
  refine ⟨rfl, fun _ => rfl, fun asked => ?_, fun _ => rfl, fun _ => rfl⟩
  by_cases equal : asked = hash
  · subst equal
    simpa [Journal.confirm, Journal.confirmation] using known.symm
  · simp [Journal.confirm, AList.lookup_insert_ne equal]

theorem JournalOperation.writes_differs {journal written : Journal}
    (writes : op.writes journal = some written) (same : written.Same journal) :
    ∃ hash result, op = .confirm hash result ∧ journal.confirmation hash = some result := by
  cases op with
  | record key transaction =>
    by_cases fresh : journal.get key = none
    · simp only [JournalOperation.writes, if_pos fresh, Option.some.injEq] at writes
      have entered := same.get key
      rw [← writes, Journal.get_record_self, fresh] at entered
      cases entered
    · simp only [JournalOperation.writes, if_neg fresh] at writes
      cases writes
  | replace key replacement =>
    obtain ⟨previous, _, replaced⟩ := Option.map_eq_some_iff.mp writes
    have grown := congrArg List.length (same.past key)
    rw [← replaced, Journal.past_replace_self] at grown
    simp at grown
  | confirm hash result =>
    have entered := same.confirmations hash
    simp only [JournalOperation.writes, Option.some.injEq] at writes
    rw [← writes] at entered
    exact ⟨hash, result, rfl, by simpa [Journal.confirm, Journal.confirmation] using entered.symm⟩
  | retire key gasLimit =>
    obtain ⟨previous, current, retired⟩ := Option.map_eq_some_iff.mp writes
    have gone := same.get key
    rw [← retired, current] at gone
    cases gasLimit with
    | none => simp [Journal.retire, Journal.get, Journal.pushAttempt] at gone
    | some limit => simp [Journal.retire, Journal.get, Journal.pushAttempt] at gone

theorem JournalOperation.FailsCleanly.unchanged {error : Stop}
    (clean : op.FailsCleanly outcome here.memory) (early : outcome ≠ .failedAfter)
    (executes : Executes (writingMachine lib honest outcome) op.program
        here world (.error error) here' world') :
    here'.memory.Same here.memory ∧ here'.disk = here.disk := by
  rcases op.executes executes with ⟨journal, writes, rfl, succeeds⟩ | ⟨refused, rfl, _⟩
  · -- the write failed, so the operation confirmed what was confirmed
    have failed : outcome ≠ .ok := by
      intro good
      cases succeeds.mpr good
    have before : outcome = .failedBefore := by
      cases outcome with
      | ok => exact absurd rfl failed
      | failedBefore => rfl
      | failedAfter => exact absurd rfl early
    subst before
    refine ⟨?_, rfl⟩
    cases op with
    | record key transaction =>
      rcases clean with good | taken
      · cases good
      · simp [JournalOperation.writes, taken] at writes
    | replace key replacement => cases clean.1
    | confirm hash result =>
      rcases clean with good | known
      · cases good
      · simp only [JournalOperation.writes, Option.some.injEq] at writes
        subst writes
        exact Journal.confirm_same known
    | retire key gasLimit =>
      rcases clean with good | missing
      · cases good
      · simp [JournalOperation.writes, missing] at writes
  · cases op with
    | record key transaction => exact ⟨.refl _, rfl⟩
    | replace key replacement =>
      have missing : here.memory.get key = none := by simpa [JournalOperation.writes] using refused
      exact absurd missing clean.2
    | confirm hash result => cases refused
    | retire key gasLimit => exact ⟨.refl _, rfl⟩

theorem JournalOperation.exists_execution (lib : Platform) (honest : Prop)
    (op : JournalOperation) (outcome : WriteOutcome) (here : Station) (world : Chains lib) :
    ∃ result here', Executes (writingMachine lib honest outcome) op.program
        here world result here' world := by
  have writing : ∀ journal, ∃ result here',
        Executes (writingMachine lib honest outcome) (writeJournal journal)
          here world result here' world := by
    intro journal
    cases outcome with
    | ok => exact ⟨_, _, .call (.ok : WriteOutcome) .refl ⟨trivial, rfl⟩ .done⟩
    | failedBefore => exact ⟨_, _, .call (.failedBefore : WriteOutcome) .refl ⟨trivial, rfl⟩ .fail⟩
    | failedAfter => exact ⟨_, _, .call (.failedAfter : WriteOutcome) .refl ⟨trivial, rfl⟩ .fail⟩
  -- every operation reads the journal first
  have reading : ∀ later : Journal → Deploy Unit, (∃ result here',
        Executes (writingMachine lib honest outcome) (later here.memory)
          here world result here' world) →
      ∃ result here', Executes (writingMachine lib honest outcome)
          (Program.bind currentJournal later) here world result here' world := by
    rintro later ⟨result, here', rest⟩
    exact ⟨result, here', .call here.memory .refl ⟨rfl, trivial⟩ rest⟩
  cases op with
  | record key transaction =>
    apply reading
    by_cases fresh : here.memory.get key = none
    · simp only [Program.ensure, if_pos fresh]
      exact writing _
    · simp only [Program.ensure, if_neg fresh]
      exact ⟨_, _, .fail⟩
  | replace key replacement =>
    apply reading
    cases current : here.memory.get key with
    | some previous => exact writing _
    | none => exact ⟨_, _, .call () .refl ⟨trivial, trivial⟩ .fail⟩
  | confirm hash result => exact reading _ (writing _)
  | retire key gasLimit =>
    apply reading
    cases current : here.memory.get key with
    | some previous => exact writing _
    | none => exact ⟨_, _, .fail⟩

theorem JournalOperation.exists_unclean (honest : Prop) (world : Chains lib)
    (unclean : ¬ op.FailsCleanly outcome here.memory) :
    ∃ error here', Executes (writingMachine lib honest outcome) op.program
        here world (.error error) here' world ∧ ¬ here'.memory.Same here.memory := by
  obtain ⟨result, here', executes⟩ := op.exists_execution lib honest outcome here world
  rcases op.executes executes with ⟨journal, writes, rfl, succeeds⟩ | ⟨refused, rfl, failed⟩
  · have bad : outcome ≠ .ok := by
      intro good
      cases op with
      | record key transaction => exact unclean (.inl good)
      | replace key replacement =>
        refine unclean ⟨good, fun missing => ?_⟩
        simp [JournalOperation.writes, missing] at writes
      | confirm hash confirmation => exact unclean (.inl good)
      | retire key gasLimit => exact unclean (.inl good)
    cases result with
    | ok value => exact absurd (succeeds.mp rfl) bad
    | error error =>
      refine ⟨error, _, executes, fun same => ?_⟩
      obtain ⟨hash, confirmation, rfl, known⟩ := JournalOperation.writes_differs writes same
      exact unclean (.inr known)
  · cases result with
    | ok value => exact absurd rfl failed
    | error error =>
      refine ⟨error, _, executes, fun same => ?_⟩
      cases op with
      | record key transaction =>
        have taken : here.memory.get key ≠ none := by simpa [JournalOperation.writes] using refused
        exact unclean (.inr taken)
      | replace key replacement =>
        have missing : here.memory.get key = none := by
          simpa [JournalOperation.writes] using refused
        have entered := same.get key
        simp [JournalOperation.refused, missing] at entered
      | confirm hash confirmation => cases refused
      | retire key gasLimit =>
        have missing : here.memory.get key = none := by
          simpa [JournalOperation.writes] using refused
        exact unclean (.inr missing)

end Atomicity

def JournalOperation.carryOut (held : Journal × Option Journal)
    (op : JournalOperation) : Journal × Option Journal :=
  match op.writes held.1 with
  | some journal => (journal, some journal)
  | none => held

/-- What the successful calls of a session alone make of the two journals. -/
def carriedOut (held : Journal × Option Journal)
    (calls : List (JournalOperation × Bool)) : Journal × Option Journal :=
  ((calls.filter Prod.snd).map Prod.fst).foldl JournalOperation.carryOut held

/--
Calls of one session, each with its success.  Writes that fail do so before the
file changed, and every call is made where its failure would change nothing.
-/
inductive CleanSession (lib : Platform) (honest : Prop) :
    Station → Chains lib → List (JournalOperation × Bool) → Station → Chains lib → Prop where
  | nil
      {here : Station}
      {world : Chains lib} :
      CleanSession lib honest here world [] here world
  | call
      {start here here' : Station}
      {first world world' : Chains lib}
      {calls : List (JournalOperation × Bool)}
      {op : JournalOperation}
      {outcome : WriteOutcome}
      {result : Except Stop Unit}
      (before : CleanSession lib honest start first calls here world)
      (early : outcome ≠ .failedAfter)
      (clean : op.FailsCleanly outcome here.memory)
      (executes : Executes (writingMachine lib honest outcome) op.program
          here world result here' world') :
      CleanSession lib honest start first
        (calls ++ [(op, result.toBool)]) here' world'

section Sessions

variable {lib : Platform} {honest : Prop}
variable {here here' : Station} {world world' : Chains lib}

theorem JournalOperation.writes_same {op : JournalOperation}
    {journal other written : Journal} (same : journal.Same other)
    (writes : op.writes journal = some written) :
    ∃ copy, op.writes other = some copy ∧ written.Same copy := by
  cases op with
  | record key transaction =>
    by_cases fresh : journal.get key = none
    · simp only [JournalOperation.writes, if_pos fresh, Option.some.injEq] at writes
      have also : other.get key = none := same.get key ▸ fresh
      exact ⟨_, by simp only [JournalOperation.writes, if_pos also],
        writes ▸ same.record key transaction⟩
    · simp only [JournalOperation.writes, if_neg fresh] at writes
      cases writes
  | replace key replacement =>
    obtain ⟨previous, current, rfl⟩ := Option.map_eq_some_iff.mp writes
    have also : other.get key = some previous := same.get key ▸ current
    exact ⟨other.replace key previous replacement,
      by simp only [JournalOperation.writes, also, Option.map_some],
      (same.record key replacement).pushAttempt key previous⟩
  | confirm hash result =>
    simp only [JournalOperation.writes, Option.some.injEq] at writes
    exact ⟨_, rfl, writes ▸ same.confirm hash result⟩
  | retire key gasLimit =>
    obtain ⟨previous, current, rfl⟩ := Option.map_eq_some_iff.mp writes
    have also : other.get key = some previous := same.get key ▸ current
    exact ⟨_, by simp only [JournalOperation.writes, also, Option.map_some],
      same.retire key previous gasLimit⟩

theorem carriedOut_append (held : Journal × Option Journal) (calls : List (JournalOperation × Bool))
    (op : JournalOperation) (succeeded : Bool) :
    carriedOut held (calls ++ [(op, succeeded)]) =
      if succeeded then op.carryOut (carriedOut held calls)
      else carriedOut held calls := by
  cases succeeded with
  | true => simp [carriedOut]
  | false => simp [carriedOut]

theorem CleanSession.carriedOut {calls : List (JournalOperation × Bool)}
    (session : CleanSession lib honest here world calls here' world') :
    here'.memory.Same (carriedOut (here.memory, here.disk) calls).1 ∧
      sameFile here'.disk (carriedOut (here.memory, here.disk) calls).2 := by
  induction session with
  | nil =>
    refine ⟨.refl _, ?_⟩
    change sameFile here.disk here.disk
    cases here.disk with
    | none => trivial
    | some file => exact .refl file
  | @call now after first between later calls op outcome result before early clean
      executes ih =>
      rw [carriedOut_append]
      cases result with
      | error error =>
        obtain ⟨memory, disk⟩ := clean.unchanged early executes
        simp only [Except.toBool, Bool.false_eq_true, if_false, disk]
        exact ⟨memory.trans ih.1, ih.2⟩
      | ok value =>
        rcases op.executes executes with
          ⟨journal, writes, rfl, succeeds⟩ | ⟨_, _, failed⟩
        · have good : outcome = .ok := succeeds.mp rfl
          subst good
          obtain ⟨copy, copied, same⟩ := JournalOperation.writes_same ih.1 writes
          simp only [Except.toBool, if_true, JournalOperation.carryOut, copied]
          exact ⟨same, same⟩
        · exact absurd rfl failed

end Sessions

/--
A failing journal operation whose write failed before the rename leaves the
journal in memory and on disk as they were exactly if the call fails cleanly; and
in a session of such calls both journals hold what the successful calls alone
made of them.
-/
theorem failed_operations_change_nothing_iff
    (lib : Platform)
    (honest : Prop) :
    (∀ (op : JournalOperation) (outcome : WriteOutcome) (here : Station) (world : Chains lib),
      outcome ≠ .failedAfter → ((∀ error here' world',
            Executes (writingMachine lib honest outcome) op.program
              here world (.error error) here' world' →
            here'.memory.Same here.memory ∧ here'.disk = here.disk) ↔
          op.FailsCleanly outcome here.memory)) ∧
      ∀ here world calls here' world', CleanSession lib honest here world calls here' world' →
          here'.memory.Same (carriedOut (here.memory, here.disk) calls).1 ∧
            sameFile here'.disk (carriedOut (here.memory, here.disk) calls).2 := by
  constructor
  · intro op outcome here world early
    constructor
    · intro atomic
      by_contra unclean
      obtain ⟨error, here', executes, differs⟩ :=
        JournalOperation.exists_unclean honest world unclean
      exact differs (atomic error here' world executes).1
    · intro clean error here' world' executes
      exact clean.unchanged early executes
  · intro here world calls here' world' session
    exact session.carriedOut

namespace Sample

def payment : Transaction := .cosmos (rewardsTransaction 0 5)

/-- A process with the payment in its memory and no journal file. -/
def holding : Station := { start.here with memory := start.here.memory.record rewardsKey payment }

def otherConfirmed : JournalOperation := .confirm (.cosmos []) (.cosmos 1 0 ⟨none, none, none, ""⟩)

end Sample

/-- Recording a key that is taken is refused and changes nothing. -/
theorem failed_operations_change_nothing_for_taken_keys :
    Sample.holding.memory.get Sample.rewardsKey = some Sample.payment ∧ ∀ error here' world',
        Executes (writingMachine Sample.platform True .failedBefore)
            (JournalOperation.record Sample.rewardsKey Sample.payment).program
            Sample.holding Sample.chains (.error error) here' world' →
          here'.memory.Same Sample.holding.memory ∧ here'.disk = none := by
  have taken : Sample.holding.memory.get Sample.rewardsKey = some Sample.payment := by
    simp [Sample.holding]
  refine ⟨taken, ?_⟩
  apply ((failed_operations_change_nothing_iff Sample.platform True).1
    (.record Sample.rewardsKey Sample.payment) .failedBefore Sample.holding Sample.chains
    (by decide)).mpr
  right
  simp [taken]

/--
Replacing a missing key fails, and the next successful write of the session puts
the replacement into the file; a recording whose write failed stays in memory.
-/
theorem failed_operations_are_persisted : (Sample.start.here.memory.get Sample.rewardsKey = none ∧
      Executes (writingMachine Sample.platform True .ok)
        (JournalOperation.replace Sample.rewardsKey Sample.payment).program
        Sample.start.here Sample.chains
        (.error (.failed ("missing action " ++ Sample.rewardsKey.text)))
        Sample.holding Sample.chains ∧
      ∃ last file, Executes (writingMachine Sample.platform True .ok) Sample.otherConfirmed.program
          Sample.holding Sample.chains (.ok ()) last Sample.chains ∧
        last.disk = some file ∧ file.get Sample.rewardsKey = some Sample.payment) ∧
      Executes (writingMachine Sample.platform True .failedBefore)
        (JournalOperation.record Sample.rewardsKey Sample.payment).program
        Sample.start.here Sample.chains
        (.error (.failed "cannot write the deployment journal"))
        Sample.holding Sample.chains := by
  refine ⟨⟨rfl, ?_, ?_⟩, ?_⟩
  · exact .call Sample.start.here.memory .refl ⟨rfl, trivial⟩
      (.call () .refl ⟨trivial, trivial⟩ .fail)
  · refine ⟨_, _, .call Sample.holding.memory .refl ⟨rfl, trivial⟩
      (.call (.ok : WriteOutcome) .refl ⟨trivial, rfl⟩ .done), rfl, ?_⟩
    simp [Sample.holding]
  · exact .call Sample.start.here.memory .refl ⟨rfl, trivial⟩
      (.call (.failedBefore : WriteOutcome) .refl ⟨trivial, rfl⟩ .fail)

end Axe.Hardened
