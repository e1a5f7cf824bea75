import Mathlib.Logic.Relation
import Axe.ProgramSyntax

namespace Axe

/-!
# Contracts for programs in a changing world

A machine says which replies a call may get and what each reply does to the
state the program owns and to the world around it.  The world also changes by
itself between two calls.

`Meets` is a weakest precondition with a promise: every call the program makes
must change the two states as the promise allows, whatever the world did in
between, and the program must end in one of the two given postconditions.
-/

/-- What the world may answer, how an answer changes it, and how it moves by itself. -/
structure Machine (api : Interface) (Local World : Type) where
  allowed : Local → World → (op : api.Call) → api.Reply op → Prop
  react : (op : api.Call) → api.Reply op → Local → World → Local × World
  evolve : World → World → Prop

namespace Machine

variable {api : Interface} {Local World : Type}

/-- The world after any number of its own moves. -/
def Evolves (machine : Machine api Local World) : World → World → Prop :=
  Relation.ReflTransGen machine.evolve

/-- A call that changes neither the program's state nor the world. -/
def Reads (machine : Machine api Local World) (op : api.Call) : Prop :=
  ∀ reply here world, machine.react op reply here world = (here, world)

end Machine

/-- What one call is allowed to do to the two states. -/
abbrev Promise (Local World : Type) := Local → World → Local → World → Prop

variable {api : Interface} {Error Failure Value Result Item Local World : Type}

/-- The program keeps the promise at every call and ends as required. -/
def Meets (machine : Machine api Local World) (promise : Promise Local World) :
    Program api Error Value →
    (Value → Local → World → Prop) →
    (Error → Local → World → Prop) →
    Local → World → Prop
  | .done value, onDone, _, here, world => onDone value here world
  | .fail error, _, onFail, here, world => onFail error here world
  | .call op next, onDone, onFail, here, world =>
    ∀ later, machine.Evolves world later → ∀ reply, machine.allowed here later op reply →
        promise here later
            (machine.react op reply here later).1
            (machine.react op reply here later).2 ∧
          Meets machine promise (next reply) onDone onFail
            (machine.react op reply here later).1
            (machine.react op reply here later).2

namespace Meets

variable {machine : Machine api Local World} {promise : Promise Local World}
variable {program : Program api Error Value} {onDone onDone' : Value → Local → World → Prop}
variable {onFail onFail' : Error → Local → World → Prop} {here : Local} {world : World}

theorem weaken (meets : Meets machine promise program onDone onFail here world)
    (doneLater : ∀ value here world, onDone value here world → onDone' value here world)
    (failLater : ∀ error here world, onFail error here world → onFail' error here world) :
    Meets machine promise program onDone' onFail' here world := by
  induction program generalizing here world with
  | done value => exact doneLater value here world meets
  | fail error => exact failLater error here world meets
  | call op next ih =>
    intro later evolved reply allowed
    obtain ⟨kept, rest⟩ := meets later evolved reply allowed
    exact ⟨kept, ih reply rest⟩

theorem promising {promise' : Promise Local World}
    (meets : Meets machine promise program onDone onFail here world)
    (allows : ∀ {here world here' world'}, promise here world here' world' →
        promise' here world here' world') :
    Meets machine promise' program onDone onFail here world := by
  induction program generalizing here world with
  | done value => exact meets
  | fail error => exact meets
  | call op next ih =>
    intro later evolved reply allowed
    obtain ⟨kept, rest⟩ := meets later evolved reply allowed
    exact ⟨allows kept, ih reply rest⟩

theorem slower {moves : World → World → Prop}
    (meets : Meets machine promise program onDone onFail here world)
    (fewer : ∀ world later, moves world later → machine.evolve world later) :
    Meets { machine with evolve := moves } promise program onDone onFail here world := by
  induction program generalizing here world with
  | done value => exact meets
  | fail error => exact meets
  | call op next ih =>
    intro later evolved reply allowed
    obtain ⟨kept, rest⟩ := meets later (Relation.ReflTransGen.mono fewer _ _ evolved) reply allowed
    exact ⟨kept, ih reply rest⟩

theorem both (first : Meets machine promise program onDone onFail here world)
    (second : Meets machine promise program onDone' onFail' here world) :
    Meets machine promise program
      (fun value here world => onDone value here world ∧ onDone' value here world)
      (fun error here world => onFail error here world ∧ onFail' error here world)
      here world := by
  induction program generalizing here world with
  | done value => exact ⟨first, second⟩
  | fail error => exact ⟨first, second⟩
  | call op next ih =>
    intro later evolved reply allowed
    obtain ⟨kept, rest⟩ := first later evolved reply allowed
    exact ⟨kept, ih reply rest (second later evolved reply allowed).2⟩

variable {onResult : Result → Local → World → Prop}

theorem bind {later : Value → Program api Error Result}
    (first : Meets machine promise program (fun value here world =>
          Meets machine promise (later value) onResult onFail here world)
        onFail here world) :
    Meets machine promise (program.bind later) onResult onFail here world := by
  induction program generalizing here world with
  | done value => exact first
  | fail error => exact first
  | call op next ih =>
    intro moved evolved reply allowed
    obtain ⟨kept, rest⟩ := first moved evolved reply allowed
    exact ⟨kept, ih reply rest⟩

theorem andThen {later : Value → Program api Error Result} {onFail'' : Error → Local → World → Prop}
    (first : Meets machine promise program onDone onFail here world)
    (failLater : ∀ error here world, onFail error here world → onFail'' error here world)
    (second : ∀ value here world, onDone value here world →
        Meets machine promise (later value) onResult onFail'' here world) :
    Meets machine promise (program.bind later) onResult onFail'' here world :=
  bind (first.weaken second failLater)

/-- A program after another, with one condition on their failures. -/
theorem seq
    {later : Value → Program api Error Result}
    (first : Meets machine promise program onDone onFail here world)
    (second : ∀ value here world, onDone value here world →
      Meets machine promise (later value) onResult onFail here world) :
    Meets machine promise (program.bind later) onResult onFail here world :=
  first.andThen (fun _ _ _ failed => failed) second

theorem mono (meets : Meets machine promise program onDone onFail here world)
    (weaker : ∀ value here world, onDone value here world → onDone' value here world) :
    Meets machine promise program onDone' onFail here world :=
  meets.weaken weaker fun _ _ _ failed => failed

theorem attempt {onFailure : Failure → Local → World → Prop}
    {onOutcome : Except Error Value → Local → World → Prop}
    (meets : Meets machine promise program
        (fun value here world => onOutcome (.ok value) here world)
        (fun error here world => onOutcome (.error error) here world)
        here world) :
    Meets machine promise (program.attempt : Program api Failure (Except Error Value))
      onOutcome onFailure here world := by
  induction program generalizing here world with
  | done value => exact meets
  | fail error => exact meets
  | call op next ih =>
    intro later evolved reply allowed
    obtain ⟨kept, rest⟩ := meets later evolved reply allowed
    exact ⟨kept, ih reply rest⟩

variable {error : Error}

theorem ensure {condition : Prop} [Decidable condition] {onUnit : Unit → Local → World → Prop}
    (holds : condition → onUnit () here world) (fails : ¬ condition → onFail error here world) :
    Meets machine promise (Program.ensure condition error : Program api Error Unit)
      onUnit onFail here world := by
  unfold Program.ensure
  split
  · exact holds ‹_›
  · exact fails ‹_›

theorem orFail {option : Option Value}
    (present : ∀ value, option = some value → onDone value here world)
    (absent : option = none → onFail error here world) :
    Meets machine promise (Program.orFail option error : Program api Error Value)
      onDone onFail here world := by
  cases shape : option with
  | some value => exact present value shape
  | none => exact absent shape

theorem ensure_bind {condition : Prop} [Decidable condition]
    {later : Unit → Program api Error Value}
    (rest : condition → Meets machine promise (later ()) onDone onFail here world)
    (fails : ¬ condition → onFail error here world) :
    Meets machine promise
      ((Program.ensure condition error).bind later) onDone onFail here world :=
  bind (ensure rest fails)

theorem orFail_bind {option : Option Result} {later : Result → Program api Error Value}
    (rest : ∀ value, option = some value →
        Meets machine promise (later value) onDone onFail here world)
    (fails : option = none → onFail error here world) :
    Meets machine promise
      ((Program.orFail option error).bind later) onDone onFail here world :=
  bind (orFail rest fails)

variable {op : api.Call}

theorem read {onReply : api.Reply op → Local → World → Prop}
    (reads : machine.Reads op) (stutter : ∀ here world, promise here world here world)
    (ends : ∀ moved, machine.Evolves world moved →
        ∀ reply, machine.allowed here moved op reply → onReply reply here moved) :
    Meets machine promise (Program.perform op) onReply onFail here world := by
  intro moved evolved reply allowed
  rw [reads reply here moved]
  exact ⟨stutter here moved, ends moved evolved reply allowed⟩

variable {later : api.Reply op → Program api Error Value}

/--
A call that only reads leaves the program's state alone; the rest of the
program starts in a world that may have moved on.
-/
theorem read_bind
    (reads : machine.Reads op)
    (stutter : ∀ here world, promise here world here world)
    (rest : ∀ moved, machine.Evolves world moved → ∀ reply, machine.allowed here moved op reply →
      Meets machine promise (later reply) onDone onFail here moved) :
    Meets machine promise
      ((Program.perform op).bind later) onDone onFail here world := by
  intro moved evolved reply allowed
  rw [reads reply here moved]
  exact ⟨stutter here moved, rest moved evolved reply allowed⟩

theorem require_bind {unpack : api.Reply op → Option Result}
    {later : Result → Program api Error Value} (reads : machine.Reads op)
    (stutter : ∀ here world, promise here world here world)
    (rest : ∀ moved, machine.Evolves world moved →
        ∀ reply, machine.allowed here moved op reply → ∀ value, unpack reply = some value →
            Meets machine promise (later value) onDone onFail here moved)
    (fails : ∀ moved, machine.Evolves world moved → onFail error here moved) :
    Meets machine promise
      ((Program.require op unpack error).bind later)
      onDone onFail here world := by
  intro moved evolved reply allowed
  rw [reads reply here moved]
  refine ⟨stutter here moved, ?_⟩
  exact orFail_bind (fun value found => rest moved evolved reply allowed value found)
    (fun _ => fails moved evolved)

theorem perform_bind
    (kept : ∀ moved, machine.Evolves world moved →
        ∀ reply, machine.allowed here moved op reply → promise here moved
              (machine.react op reply here moved).1
              (machine.react op reply here moved).2 ∧
            Meets machine promise (later reply) onDone onFail
              (machine.react op reply here moved).1
              (machine.react op reply here moved).2) :
    Meets machine promise
      ((Program.perform op).bind later) onDone onFail here world :=
  kept

theorem each {body : Item → Program api Error Unit} {invariant : List Item → Local → World → Prop}
    (step : ∀ item rest here world, invariant (item :: rest) here world →
        Meets machine promise (body item)
          (fun _ here world => invariant rest here world) onFail here world)
    (items : List Item) (start : invariant items here world) :
    Meets machine promise (Program.each body items)
      (fun _ here world => invariant [] here world) onFail here world := by
  induction items generalizing here world with
  | nil => exact start
  | cons item rest ih =>
    refine (step item rest here world start).andThen (fun _ _ _ ends => ends) ?_
    intro _ here world kept
    exact ih kept

variable {kept : Local → World → Prop}

theorem forEach {body : Item → Program api Error Unit} {items : List Item}
    (step : ∀ item here world, kept here world → Meets machine promise (body item)
          (fun _ here world => kept here world) onFail here world) (start : kept here world) :
    Meets machine promise (Program.each body items)
      (fun _ here world => kept here world) onFail here world :=
  @each _ _ _ _ _ _ _ _ _ _ body (fun _ => kept)
    (fun item _ here world => step item here world) items start

/--
A search over a list is met when each of its probes keeps the invariant, and
the answer of the first probe that has one is the answer of the search.
-/
theorem firstSome
    {search : Item → Program api Error (Option Value)}
    {found : Value → Local → World → Prop}
    {items : List Item}
    (step : ∀ item ∈ items, ∀ here world, kept here world → Meets machine promise (search item)
      (fun answer here world =>
      kept here world ∧ ∀ value, answer = some value → found value here world)
      onFail here world)
    (start : kept here world) :
    Meets machine promise (Program.firstSome search items)
      (fun answer here world =>
        kept here world ∧ ∀ value, answer = some value → found value here world)
      onFail here world := by
  induction items generalizing here world with
  | nil => exact ⟨start, fun value absent => by cases absent⟩
  | cons item rest ih =>
    refine (step item List.mem_cons_self here world start).andThen (fun _ _ _ ends => ends) ?_
    intro answer here world reached
    cases answer with
    | some value => exact reached
    | none =>
      exact ih (fun other member => step other (List.mem_cons_of_mem _ member))
        reached.1

theorem evolves (meets : Meets machine promise program onDone onFail here world)
    (doneStable : ∀ value here world later, machine.Evolves world later →
        onDone value here world → onDone value here later)
    (failStable : ∀ error here world later, machine.Evolves world later →
        onFail error here world → onFail error here later)
    {later : World} (evolved : machine.Evolves world later) :
    Meets machine promise program onDone onFail here later := by
  cases program with
  | done value => exact doneStable value here world later evolved meets
  | fail error => exact failStable error here world later evolved meets
  | call op next =>
    intro last moved reply allowed
    exact meets last (evolved.trans moved) reply allowed

variable {invariant : Local → World → Prop}
  (meets : Meets machine promise program onDone onFail here world)
  (stable : ∀ here world later, machine.Evolves world later →
    invariant here world → invariant here later)
  (step : ∀ {here world here' world'}, promise here world here' world' →
    invariant here world → invariant here' world')
  (start : invariant here world)

include meets stable step start

theorem carrying : Meets machine
      (fun here world here' world' =>
        promise here world here' world' ∧ invariant here' world')
      program
      (fun value here world => onDone value here world ∧ invariant here world)
      (fun error here world => onFail error here world ∧ invariant here world)
      here world := by
  induction program generalizing here world with
  | done value => exact ⟨meets, start⟩
  | fail error => exact ⟨meets, start⟩
  | call op next ih =>
    intro later evolved reply allowed
    obtain ⟨kept, rest⟩ := meets later evolved reply allowed
    have after := step kept (stable here world later evolved start)
    exact ⟨⟨kept, after⟩, ih reply rest after⟩

theorem keeping : Meets machine promise program
      (fun value here world => onDone value here world ∧ invariant here world)
      (fun error here world => onFail error here world ∧ invariant here world)
      here world :=
  (carrying meets stable step start).promising And.left

end Meets

end Axe
