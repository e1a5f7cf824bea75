import Axe.HardenedRunner

namespace Axe.Hardened

/-!
# Stages of a deployment

A state is at stage `count` if it has the planned steps, the first `count` of
them are completed and the others are not.  Saving an address keeps the stage,
and completing the next step goes to the next one.
-/

def StepKind.bare : StepKind → StepKind
  | deployGateway _ => .deployGateway none
  | deployUpgradable _ _ => .deployUpgradable none none
  | deployIts _ => .deployIts {}
  | kind => kind

def Step.bare (step : Step) : Step := ⟨step.name, .pending, step.kind.bare⟩

/-- The steps in their order. -/
def stepOrder : List StepName := defaultSteps.map Step.name

/-- The place of a step in the order. -/
def StepName.place (name : StepName) : Nat := stepOrder.idxOf name

theorem stepOrder_place (name : StepName) : stepOrder[name.place]? = some name := by
  cases name <;> decide +kernel

theorem place_eq {name : StepName} {index : Nat} (found : stepOrder[index]? = some name) :
    name.place = index := by
  have distinct : stepOrder.Nodup := by decide +kernel
  have bound : name.place < stepOrder.length :=
    (List.getElem?_eq_some_iff.mp (stepOrder_place name)).1
  exact (List.getElem?_inj bound distinct).mp ((stepOrder_place name).trans found.symm)

section Kinds

variable {step changed : Step}

structure SavesAddress (step changed : Step) : Prop where
  status : changed.status = step.status
  bare : changed.bare = step.bare

variable {address : Address}

theorem setImplementationAddress_saves
    (saved : step.setImplementationAddress address = .ok changed) :
    SavesAddress step changed := by
  unfold Step.setImplementationAddress at saved
  split at saved <;> cases saved <;> rename_i kind
  all_goals exact ⟨rfl, by simp [Step.bare, kind, StepKind.bare]⟩

theorem setProxyAddress_saves (saved : step.setProxyAddress address = .ok changed) :
    SavesAddress step changed := by
  unfold Step.setProxyAddress at saved
  split at saved <;> cases saved
  rename_i kind
  exact ⟨rfl, by simp [Step.bare, kind, StepKind.bare]⟩

theorem setItsDeployer_saves {deployer : Address}
    (saved : step.setItsDeployer deployer = .ok changed) :
    SavesAddress step changed := by
  unfold Step.setItsDeployer at saved
  split at saved
  · rename_i kind
    split at saved <;> cases saved
    all_goals exact ⟨rfl, by simp [Step.bare, kind, StepKind.bare]⟩
  · cases saved

theorem setItsAddress_saves {label : EvmLabel}
    (saved : step.setItsAddress label address = .ok changed) :
    SavesAddress step changed := by
  unfold Step.setItsAddress at saved
  split at saved
  · rename_i addresses kind
    cases found : addresses.set address label with
    | error message =>
      rw [found] at saved
      cases saved
    | ok now =>
      rw [found] at saved
      cases saved
      exact ⟨rfl, by simp [Step.bare, kind, StepKind.bare]⟩
  · cases saved

theorem bare_definedAs (step : Step) : step.bare.definedAs step = true := by
  obtain ⟨name, status, kind⟩ := step
  cases kind <;>
    simp [Step.definedAs, Step.bare, StepKind.bare, Step.fields, StepKind.fields,
      addressField, List.lookup_cons, List.lookup_nil]

end Kinds

/-- The steps of the plan, of which the first ones are done. -/
structure Staged (plan : Plan) (count : Nat) (steps : List Step) : Prop where
  planned : plan.steps = .ok (steps.map Step.bare)
  completed : ∀ {index step}, steps[index]? = some step → (step.status = .completed ↔ index < count)
  within : count ≤ steps.length

variable {plan : Plan} {step owned : Step}

theorem Plan.assignOwner_name (assigned : plan.assignOwner step = .ok owned) :
    owned.name = step.name := by
  unfold Plan.assignOwner at assigned
  split at assigned
  · split at assigned
    · cases assigned
      rfl
    · split at assigned
      · cases assigned
        rfl
      · split at assigned <;> cases assigned
        rfl
  · cases assigned
    rfl

theorem Plan.assignOwner_kind (assigned : plan.assignOwner step = .ok owned) :
    owned.kind = step.kind ∨ ∃ contract newOwner owner,
        step.kind = .transferOwnership contract newOwner ∧
          owned.kind = .transferOwnership contract owner := by
  unfold Plan.assignOwner at assigned
  split at assigned
  · rename_i contract newOwner kind
    refine .inr ⟨contract, newOwner, ?_⟩
    split at assigned
    · cases assigned
      exact ⟨_, kind, rfl⟩
    · split at assigned
      · cases assigned
        exact ⟨_, kind, rfl⟩
      · split at assigned <;> cases assigned
        exact ⟨_, kind, rfl⟩
  · cases assigned
    exact .inl rfl

theorem Plan.assignOwner_bare (assigned : plan.assignOwner step = .ok owned)
    (bare : step.bare = step) :
    owned.bare = owned := by
  have pending : step.status = .pending := by rw [← bare]; rfl
  unfold Plan.assignOwner at assigned
  split at assigned
  · split at assigned
    · cases assigned
      simp [Step.bare, StepKind.bare, pending]
    · split at assigned
      · cases assigned
        simp [Step.bare, StepKind.bare, pending]
      · split at assigned <;> cases assigned
        simp [Step.bare, StepKind.bare, pending]
  · cases assigned
    exact bare

variable {change : Step → Except String Step} {steps results : List Step}

private theorem mapM_mem (mapped : steps.mapM change = .ok results) {result : Step}
    (member : result ∈ results) :
    ∃ step ∈ steps, change step = .ok result := by
  induction steps generalizing results with
  | nil =>
    cases mapped
    cases member
  | cons step rest ih =>
    rw [List.mapM_cons] at mapped
    cases first : change step with
    | error message =>
      rw [first] at mapped
      cases mapped
    | ok changed =>
      cases others : rest.mapM change with
      | error message =>
        rw [first, others] at mapped
        cases mapped
      | ok changes =>
        rw [first, others] at mapped
        cases mapped
        rcases List.mem_cons.mp member with same | later
        · exact ⟨step, List.mem_cons_self, same ▸ first⟩
        · obtain ⟨origin, listed, changedTo⟩ := ih others later
          exact ⟨origin, List.mem_cons_of_mem _ listed, changedTo⟩

theorem Plan.steps_bare (planned : plan.steps = .ok steps) (member : step ∈ steps) :
    step.bare = step := by
  obtain ⟨origin, listed, assigned⟩ := mapM_mem planned member
  have bare : ∀ step ∈ defaultSteps, step.bare = step := by decide +kernel
  exact Plan.assignOwner_bare assigned (bare origin listed)

structure Step.Regular (step : Step) : Prop where
  gateway : step.kind = .deployGateway none ↔ step.name = .axelarGateway
  prediction : step.kind = .predictAddress → step.name = .predictGatewayAddress

theorem Plan.steps_regular (planned : plan.steps = .ok steps) (member : step ∈ steps) :
    step.Regular := by
  obtain ⟨origin, listed, assigned⟩ := mapM_mem planned member
  have regular : ∀ step ∈ defaultSteps,
        (step.kind = .deployGateway none ↔ step.name = .axelarGateway) ∧
          (step.kind = .predictAddress → step.name = .predictGatewayAddress) := by
    decide +kernel
  obtain ⟨gateway, prediction⟩ := regular origin listed
  have name := Plan.assignOwner_name assigned
  rcases Plan.assignOwner_kind assigned with same | ⟨contract, old, new, before, after⟩
  · exact ⟨by rw [same, name]; exact gateway, by rw [same, name]; exact prediction⟩
  · rw [before] at gateway
    refine ⟨?_, ?_⟩
    · rw [after, name, ← gateway]
      simp
    · rw [after]
      simp

private theorem mapM_name
    (keeps : ∀ {step changed}, change step = .ok changed → changed.name = step.name)
    (mapped : steps.mapM change = .ok results) :
    results.map Step.name = steps.map Step.name := by
  induction steps generalizing results with
  | nil =>
    cases mapped
    rfl
  | cons step rest ih =>
    rw [List.mapM_cons] at mapped
    cases first : change step with
    | error message =>
      rw [first] at mapped
      cases mapped
    | ok changed =>
      cases others : rest.mapM change with
      | error message =>
        rw [first, others] at mapped
        cases mapped
      | ok changes =>
        rw [first, others] at mapped
        cases mapped
        simp [keeps first, ih others]

theorem Plan.steps_names (planned : plan.steps = .ok steps) : steps.map Step.name = stepOrder :=
  mapM_name Plan.assignOwner_name planned

namespace Staged

variable {plan : Plan} {count : Nat} {steps : List Step}

theorem start (planned : plan.steps = .ok steps) : Staged plan 0 steps := by
  have bare : steps.map Step.bare = steps := by
    rw [List.map_congr_left fun step member => Plan.steps_bare planned member, List.map_id']
  refine ⟨by rw [bare]; exact planned, ?_, Nat.zero_le _⟩
  intro index step placed
  have isBare := Plan.steps_bare planned (List.mem_of_getElem? placed)
  have pending : step.status = .pending := by rw [← isBare]; rfl
  simp [pending]

theorem names (staged : Staged plan count steps) : steps.map Step.name = stepOrder := by
  rw [← Plan.steps_names staged.planned, List.map_map]
  rfl

variable {index : Nat} {step : Step}

theorem place (staged : Staged plan count steps) (found : steps[index]? = some step) :
    step.name.place = index := by
  apply place_eq
  rw [← staged.names, List.getElem?_map, found]
  rfl

theorem regular (staged : Staged plan count steps) (member : step ∈ steps) :
    step.bare.Regular :=
  Plan.steps_regular staged.planned (List.mem_map_of_mem member)

theorem set (staged : Staged plan count steps) {changed : Step} (found : steps[index]? = some step)
    (saves : SavesAddress step changed) :
    Staged plan count (steps.set index changed) := by
  have bound : index < steps.length := (List.getElem?_eq_some_iff.mp found).1
  have sameBare : (steps.set index changed).map Step.bare = steps.map Step.bare := by
    rw [List.map_set, saves.bare]
    apply List.ext_getElem?
    intro other
    rw [List.getElem?_set]
    split
    · rename_i same
      subst same
      have isStep : steps[index] = step := Option.some.inj
        ((List.getElem?_eq_getElem bound).symm.trans found)
      simp [bound, isStep]
    · rfl
  refine ⟨sameBare ▸ staged.planned, ?_, by simpa using staged.within⟩
  intro other now placed
  rw [List.getElem?_set] at placed
  split at placed
  · rename_i same
    subst same
    cases placed
    rw [saves.status]
    exact staged.completed found
  · exact staged.completed placed

theorem complete (staged : Staged plan count steps) (pending : count < steps.length) :
    Staged plan (count + 1)
      (steps.modify count fun step => { step with status := .completed }) := by
  have sameBare : (steps.modify count fun step => { step with status := .completed }).map
          Step.bare =
        steps.map Step.bare := by
    apply List.ext_getElem?
    intro index
    simp only [List.getElem?_map, List.getElem?_modify]
    cases steps[index]? with
    | none => rfl
    | some step => split <;> rfl
  refine ⟨sameBare ▸ staged.planned, ?_, by simpa using Nat.succ_le_of_lt pending⟩
  intro index step placed
  rw [List.getElem?_modify] at placed
  obtain ⟨before, found, changed⟩ := Option.map_eq_some_iff.mp placed
  have status := staged.completed found
  split at changed
  · rename_i same
    subst same changed
    simp
  · rename_i different
    cases changed
    rw [status]
    omega

private theorem find_zipIdx {Item : Type} (chosen : Item → Bool) (items : List Item)
    (count offset : Nat)
    (chosenFrom : ∀ index item, items[index]? = some item → (chosen item = true ↔ count ≤ index)) :
    (items.zipIdx offset).find? (fun entry => chosen entry.1) =
      items[count]?.map fun item => (item, count + offset) := by
  induction items generalizing count offset with
  | nil => rfl
  | cons item rest ih =>
    have here : chosen item = true ↔ count ≤ 0 := chosenFrom 0 item rfl
    rw [List.zipIdx_cons]
    cases count with
    | zero =>
      have found : chosen item = true := here.mpr le_rfl
      simp [found]
    | succ count =>
      have skipped : chosen item = false := by
        rw [← Bool.not_eq_true, here]
        omega
      rw [List.find?_cons, skipped, List.getElem?_cons_succ, ih count (offset + 1)]
      · simp [Nat.add_comm, Nat.add_left_comm]
      · intro index other found
        rw [chosenFrom (index + 1) other found]
        omega

variable {state : State}

theorem nextPendingStep (staged : Staged plan count state.steps) :
    nextPendingStep state = state.steps[count]?.map fun step => (count, step) := by
  have found := find_zipIdx (fun step => decide (step.status = .pending))
    state.steps count 0 fun index step placed => by
      have status := staged.completed placed
      cases now : step.status <;> simp_all
  simp only [Hardened.nextPendingStep]
  rw [found, Option.map_map]
  rfl

private theorem validateStepList_ok (steps : List Step) (count : Nat) (pending : Bool)
    (ordered : ∀ index step, steps[index]? = some step → (step.status = .completed ↔ index < count))
    (started : pending = true → count = 0) :
    validateStepList pending ((steps.map Step.bare).zip steps) = .ok () := by
  induction steps generalizing count pending with
  | nil => rfl
  | cons step rest ih =>
    have first : step.status = .completed ↔ 0 < count := ordered 0 step rfl
    have others : ∀ index other, rest[index]? = some other →
          (other.status = .completed ↔ index < count - 1) := by
      intro index other placed
      rw [ordered (index + 1) other placed]
      omega
    simp only [List.map_cons, List.zip_cons_cons, validateStepList, bare_definedAs, if_true]
    cases status : step.status with
    | pending =>
      have none : ¬ 0 < count := by simp [← first, status]
      exact ih (count - 1) true others (by omega)
    | completed =>
      have some : 0 < count := first.mp status
      have notPending : pending = false := by
        rw [← Bool.not_eq_true]
        intro isPending
        have := started isPending
        omega
      subst notPending
      exact ih (count - 1) false others (by simp)

theorem validateSteps (staged : Staged plan count state.steps)
    (hasPlan : state.hardenedPlan = some plan) :
    validateSteps state = .ok () := by
  unfold Hardened.validateSteps
  simp only [hasPlan, staged.planned, List.length_map, if_true]
  exact validateStepList_ok state.steps count false
    (fun _ _ placed => staged.completed placed) (by simp)

theorem length (staged : Staged plan count steps) : steps.length = stepOrder.length := by
  rw [← staged.names, List.length_map]

theorem take_completed_iff (staged : Staged plan count steps) (bound : index ≤ steps.length) :
    (∀ step ∈ steps.take index, step.status = .completed) ↔ index ≤ count := by
  constructor
  · intro done
    by_contra early
    have within : count < steps.length := by omega
    have placed : steps[count]? = some steps[count] := List.getElem?_eq_getElem within
    have member : steps[count] ∈ steps.take index :=
      List.mem_take_iff_getElem.mpr ⟨count, by omega, rfl⟩
    exact Nat.lt_irrefl count ((staged.completed placed).mp (done _ member))
  · intro late step member
    obtain ⟨place, placeBound, found⟩ := List.mem_take_iff_getElem.mp member
    have placed : steps[place]? = some step := by rw [List.getElem?_eq_getElem (by omega), found]
    exact (staged.completed placed).mpr (by omega)

theorem validateActivation_iff (staged : Staged plan count state.steps) :
    validateActivation state = .ok () ↔ StepName.waitForVerifierSet.place ≤ count := by
  have found : (state.steps.findIdx? fun step => step.name = .waitForVerifierSet) =
        some StepName.waitForVerifierSet.place := by
    have ordered : (stepOrder.findIdx? fun name => decide (name = .waitForVerifierSet)) =
          some StepName.waitForVerifierSet.place := by
      decide +kernel
    rw [← staged.names, List.findIdx?_map] at ordered
    exact ordered
  have bound : StepName.waitForVerifierSet.place ≤ state.steps.length := by
    rw [staged.length]
    decide +kernel
  rw [← staged.take_completed_iff bound]
  simp only [validateActivation, found]
  split <;> simp_all

end Staged

end Axe.Hardened
