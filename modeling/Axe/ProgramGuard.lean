import Axe.CrashService

namespace Axe

/-!
# Guarded calls

Some properties are about the moment at which a program makes a call: what holds
of the state and the world then.  `Guarded` is the weakest precondition for
them, and the rule at the end carries it to every moment of a run.

Which calls a program can make at all is a property of its tree alone, `Only`.
A contract and a list of possible calls together give a guard.
-/

variable {api : Interface} {Error Failure Value Result Item Local World : Type}

namespace Program

/-- All calls of the program are of one kind. -/
def Only (may : api.Call → Prop) : Program api Error Value → Prop
  | .done _ => True
  | .fail _ => True
  | .call op next => may op ∧ ∀ reply, (next reply).Only may

variable {may : api.Call → Prop}

variable {program : Program api Error Value}

theorem Only.bind {later : Value → Program api Error Result} (first : program.Only may)
    (second : ∀ value, (later value).Only may) :
    (program.bind later).Only may := by
  induction program with
  | done value => exact second value
  | fail error => trivial
  | call op next ih => exact ⟨first.1, fun reply => ih reply (first.2 reply)⟩

@[simp] theorem only_ensure (condition : Prop) [Decidable condition] (error : Error) :
    Only may (ensure condition error : Program api Error Unit) := by
  unfold ensure
  split <;> trivial

@[simp] theorem only_orFail (option : Option Value) (error : Error) :
    Only may (orFail option error : Program api Error Value) := by
  unfold orFail
  split <;> trivial

theorem Only.attempt (only : program.Only may) :
    Only may (program.attempt : Program api Failure (Except Error Value)) := by
  induction program with
  | done value => trivial
  | fail error => trivial
  | call op next ih => exact ⟨only.1, fun reply => ih reply (only.2 reply)⟩

theorem Only.firstSome {search : Item → Program api Error (Option Value)}
    (each : ∀ item, (search item).Only may) (items : List Item) :
    (Program.firstSome search items).Only may := by
  induction items with
  | nil => trivial
  | cons item rest ih =>
    refine (each item).bind fun found => ?_
    cases found with
    | some value => trivial
    | none => exact ih

end Program

/-- Whenever the program makes a call, the guard holds; it ends as required. -/
def Guarded (machine : Machine api Local World) (guard : Local → World → api.Call → Prop) :
    Program api Error Value →
    (Value → Local → World → Prop) →
    Local → World → Prop
  | .done value, onDone, here, world => onDone value here world
  | .fail _, _, _, _ => True
  | .call op next, onDone, here, world =>
    ∀ later, machine.Evolves world later → guard here later op ∧
        ∀ reply, machine.allowed here later op reply → Guarded machine guard (next reply) onDone
            (machine.react op reply here later).1
            (machine.react op reply here later).2

variable {machine : Machine api Local World} {guard : Local → World → api.Call → Prop}
variable {program : Program api Error Value} {onDone : Value → Local → World → Prop}
variable {here : Local} {world : World}

/--
A program that keeps a contract is guarded at the calls it can make, by
whatever the promise and the world keep.
-/
theorem Meets.guarded
    {promise : Promise Local World}
    {onFail : Error → Local → World → Prop}
    {may : api.Call → Prop}
    {kept : Local → World → Prop}
    (meets : Meets machine promise program onDone onFail here world)
    (only : program.Only may)
    (stable : ∀ here world later, machine.Evolves world later → kept here world → kept here later)
    (step : ∀ {here world here' world'}, promise here world here' world' →
      kept here world → kept here' world')
    (guards : ∀ here world op, kept here world → may op → guard here world op)
    (start : kept here world) :
    Guarded machine guard program onDone here world := by
  induction program generalizing here world with
  | done value => exact meets
  | fail error => trivial
  | call op next ih =>
    intro later evolved
    have now := stable here world later evolved start
    refine ⟨guards here later op now only.1, fun reply allowed => ?_⟩
    obtain ⟨moved, rest⟩ := meets later evolved reply allowed
    exact ih reply rest (only.2 reply) (step moved now)

namespace Guarded

theorem bind {later : Value → Program api Error Result} {onResult : Result → Local → World → Prop}
    (first : Guarded machine guard program
        (fun value here world => Guarded machine guard (later value) onResult here world)
        here world) :
    Guarded machine guard (program.bind later) onResult here world := by
  induction program generalizing here world with
  | done value => exact first
  | fail error => trivial
  | call op next ih =>
    intro moved evolved
    obtain ⟨guards, rest⟩ := first moved evolved
    exact ⟨guards, fun reply allowed => ih reply (rest reply allowed)⟩

theorem weaken {onDone' : Value → Local → World → Prop}
    (guarded : Guarded machine guard program onDone here world)
    (later : ∀ value here world, onDone value here world → onDone' value here world) :
    Guarded machine guard program onDone' here world := by
  induction program generalizing here world with
  | done value => exact later value here world guarded
  | fail error => trivial
  | call op next ih =>
    intro moved evolved
    obtain ⟨guards, rest⟩ := guarded moved evolved
    exact ⟨guards, fun reply allowed => ih reply (rest reply allowed)⟩

theorem keeping {kept : Local → World → Prop}
    (guarded : Guarded machine guard program onDone here world)
    (stable : ∀ here world later, machine.Evolves world later → kept here world → kept here later)
    (step : ∀ op reply here world, kept here world → kept (machine.react op reply here world).1
          (machine.react op reply here world).2)
    (start : kept here world) :
    Guarded machine guard program
      (fun value here world => onDone value here world ∧ kept here world) here world := by
  induction program generalizing here world with
  | done value => exact ⟨guarded, start⟩
  | fail error => trivial
  | call op next ih =>
    intro moved evolved
    obtain ⟨guards, rest⟩ := guarded moved evolved
    refine ⟨guards, fun reply allowed => ih reply (rest reply allowed) ?_⟩
    exact step op reply here moved (stable here world moved evolved start)

theorem each {body : Item → Program api Error Unit} {invariant : List Item → Local → World → Prop}
    (step : ∀ item rest here world, invariant (item :: rest) here world →
        Guarded machine guard (body item)
          (fun _ here world => invariant rest here world) here world)
    (items : List Item) (start : invariant items here world) :
    Guarded machine guard (Program.each body items)
      (fun _ here world => invariant [] here world) here world := by
  induction items generalizing here world with
  | nil => exact start
  | cons item rest ih =>
    refine bind ((step item rest here world start).weaken ?_)
    intro _ here world kept
    exact ih kept

theorem evolves {onDone : Value → Local → World → Prop}
    (guarded : Guarded machine guard program onDone here world)
    (stable : ∀ value here world later, machine.Evolves world later →
        onDone value here world → onDone value here later)
    {later : World} (evolved : machine.Evolves world later) :
    Guarded machine guard program onDone here later := by
  cases program with
  | done value => exact stable value here world later evolved guarded
  | fail error => trivial
  | call op next =>
    intro last moved
    exact guarded last (evolved.trans moved)

end Guarded

namespace Service

def once (machine : Machine api Local World) : Service api Error Local World Empty where
  machine := machine
  boot := fun order => order.elim
  program := fun order => order.elim

/-- The running program, if there is one, is guarded. -/
def Watched (machine : Machine api Local World) (guard : Local → World → api.Call → Prop)
    (config : Config api Error Local World) : Prop :=
  match config.activity with
  | .idle => True
  | .busy program => Guarded machine guard program (fun _ _ _ => True) config.here config.world

theorem Watched.step {first second : Config api Error Local World}
    (watched : Watched machine guard first) (step : (once machine).Step first second) :
    Watched machine guard second := by
  cases step with
  | @environment activity here world later evolved =>
    cases activity with
    | idle => trivial
    | busy program =>
      exact Guarded.evolves watched (fun _ _ _ _ _ _ => trivial)
        (Relation.ReflTransGen.single evolved)
  | launch order => exact order.elim
  | perform reply allowed => exact (watched _ .refl).2 reply allowed
  | stop => trivial

theorem Runs.calls_guarded {start last : Config api Error Local World}
    {op : api.Call} {next : api.Reply op → Program api Error Unit}
    (run : (once machine).Runs Permit.anything start last) (watched : Watched machine guard start)
    (calls : last.activity = .busy (.call op next)) :
    guard last.here last.world op := by
  have reached : Watched machine guard last := by
    clear calls
    induction run with
    | refl => exact watched
    | tail _ step ih => exact ih.step step.1
  obtain ⟨activity, here, world⟩ := last
  cases calls
  exact (reached _ .refl).1

end Service

end Axe
