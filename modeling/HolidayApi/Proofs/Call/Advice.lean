import HolidayApi.Call.Registry
import HolidayApi.Proofs.Access.Admission

/-! # What the advices of an operation do to a call

    Operations are declared step by step, and the registry is built from what
    was declared.

    * `advices_ofSteps`: the advices of a name are its guards in the order in
      which they were given, and then perhaps the span, whatever was declared
      in between. So no guard ever stands behind a span.
    * `surround_passed` and `surround_denied`: a chain asks guard after guard,
      until one of them turns the caller away.
    * `invokeNow_built` is what follows for a call that is invoked under the
      name of an operation.
-/

namespace HolidayApi.Call

open HolidayApi.Access (Guard)

variable {σ α : Type}

/-! ### Declaring step by step -/

/-- A step of declaring operations. -/
inductive Declaration where
  /-- An operation is declared. -/
  | plain (name : String)
  /-- An operation is declared and given one more guard. -/
  | guarded (name : String) (guard : Guard)

namespace Declaration

/-- The name that a step declares. -/
def name : Declaration → String
  | plain name | guarded name _ => name

/-- The guard that a step gives to an operation, if it gives one. -/
def guardFor? (operation : String) : Declaration → Option Guard
  | plain _ => none
  | guarded name guard => if name = operation then some guard else none

theorem guardFor?_of_ne {step : Declaration} {operation : String} (h : step.name ≠ operation) :
    step.guardFor? operation = none := by
  cases step with
  | plain name => rfl
  | guarded name guard => exact if_neg h

theorem filterMap_guardFor? {steps : List Declaration} {operation : String}
    (h : operation ∉ steps.map name) : steps.filterMap (guardFor? operation) = [] := by
  rw [List.filterMap_eq_nil_iff]
  intro step hstep
  refine guardFor?_of_ne ?_
  intro hname
  exact h (List.mem_map.mpr ⟨step, hstep, hname⟩)

end Declaration

namespace Declarations

/-- What is declared after one more step. -/
def declare (d : Declarations) : Declaration → Declarations
  | .plain name => d.operation name
  | .guarded name guard => d.guarded name guard

/-- What is declared after all steps. -/
def ofSteps (policy : Policy) (steps : List Declaration) : Declarations :=
  steps.foldl declare { policy }

/-- An entry is found under its own name, and others behind it. -/
theorem lookup_entry {β : Type} (operation name : String) (value : β)
    (rest : List (String × β)) :
    ((name, value) :: rest).lookup operation =
      if name = operation then some value else rest.lookup operation := by
  rw [List.lookup_cons]
  by_cases hname : name = operation
  · simp [hname]
  · have hne : (operation == name) = false := by simpa using Ne.symm hname
    rw [if_neg hname, hne]

/-- Adding guards to a name changes what is found under that name only. -/
theorem lookup_add (name : String) (guards : List Guard) (operation : String)
    (declared : List (String × List Guard)) :
    (add name guards declared).lookup operation =
      if name = operation then some ((declared.lookup operation).getD [] ++ guards)
      else declared.lookup operation := by
  induction declared with
  | nil => exact lookup_entry operation name guards []
  | cons entry rest ih =>
    obtain ⟨other, known⟩ := entry
    unfold add
    by_cases hother : other = name
    · -- the guards go to this entry
      subst hother
      rw [if_pos rfl, lookup_entry, lookup_entry]
      by_cases hname : other = operation
      · rw [if_pos hname, if_pos hname, if_pos hname]
        rfl
      · rw [if_neg hname, if_neg hname, if_neg hname]
    · rw [if_neg hother, lookup_entry, lookup_entry, ih]
      by_cases hoperation : other = operation
      · -- this entry is found, and it is not the one that changes
        have hname : ¬ name = operation := fun h => hother (hoperation.trans h.symm)
        rw [if_pos hoperation, if_neg hname, if_pos hoperation]
      · rw [if_neg hoperation, if_neg hoperation]

/-- A step changes what is found under the name that it declares. -/
theorem lookup_declare (d : Declarations) (step : Declaration) (operation : String) :
    (d.declare step).declared.lookup operation =
      if step.name = operation then
        some ((d.declared.lookup operation).getD [] ++ (step.guardFor? operation).toList)
      else d.declared.lookup operation := by
  cases step with
  | plain name => exact lookup_add name [] operation d.declared
  | guarded name guard =>
    show (add name [guard] d.declared).lookup operation = _
    rw [lookup_add]
    by_cases hname : name = operation
    · simp [Declaration.name, Declaration.guardFor?, hname]
    · simp [Declaration.name, hname]

/-- A name is declared by the steps that mention it, and its guards are those
    that they give. -/
theorem lookup_foldl_declare (steps : List Declaration) (d : Declarations) (operation : String) :
    (steps.foldl declare d).declared.lookup operation =
      if operation ∈ steps.map Declaration.name then
        some ((d.declared.lookup operation).getD []
          ++ steps.filterMap (Declaration.guardFor? operation))
      else d.declared.lookup operation := by
  induction steps generalizing d with
  | nil => rfl
  | cons step rest ih =>
    have hgiven : (step :: rest).filterMap (Declaration.guardFor? operation) =
        (step.guardFor? operation).toList ++ rest.filterMap (Declaration.guardFor? operation) := by
      rw [List.filterMap_cons]
      cases step.guardFor? operation with
      | none => rfl
      | some guard => rfl
    rw [List.foldl_cons, ih, lookup_declare, hgiven]
    by_cases hstep : step.name = operation
    · -- the name is declared by now, so later steps only add guards
      have hmentioned : operation ∈ (step :: rest).map Declaration.name := by
        simp [hstep]
      rw [if_pos hstep, if_pos hmentioned]
      by_cases hrest : operation ∈ rest.map Declaration.name
      · rw [if_pos hrest, Option.getD_some, List.append_assoc]
      · rw [if_neg hrest, Declaration.filterMap_guardFor? hrest, List.append_nil]
    · have hmentioned : operation ∈ (step :: rest).map Declaration.name ↔
          operation ∈ rest.map Declaration.name := by
        simp [Ne.symm hstep]
      rw [if_neg hstep, Declaration.guardFor?_of_ne hstep]
      simp only [hmentioned, Option.toList_none, List.nil_append]

theorem policy_foldl_declare (steps : List Declaration) (d : Declarations) :
    (steps.foldl declare d).policy = d.policy := by
  induction steps generalizing d with
  | nil => rfl
  | cons step rest ih =>
    rw [List.foldl_cons, ih]
    cases step with
    | plain name => rfl
    | guarded name guard => rfl

theorem lookup_map_advices (d : Declarations) (operation : String)
    (declared : List (String × List Guard)) :
    (declared.map fun (name, guards) => (name, d.advices name guards)).lookup operation =
      (declared.lookup operation).map (d.advices operation) := by
  induction declared with
  | nil => rfl
  | cons entry rest ih =>
    obtain ⟨name, guards⟩ := entry
    rw [List.map_cons, lookup_entry, lookup_entry, ih]
    by_cases hname : name = operation
    · subst hname
      rw [if_pos rfl, if_pos rfl]
      rfl
    · rw [if_neg hname, if_neg hname]

/-- The advices of a name are made from what is found under it. -/
theorem advices_registry (d : Declarations) (recorder : Recorder σ) (operation : String) :
    (d.registry recorder).advices operation =
      ((d.declared.lookup operation).map (d.advices operation)).getD [] := by
  show ((d.declared.map fun (name, guards) => (name, d.advices name guards)).lookup
    operation).getD [] = _
  rw [lookup_map_advices]

/-- **The advices of an operation**: first all guards that it was given, in
    order, and then the span if the policy traces it. -/
theorem advices_ofSteps (policy : Policy) (steps : List Declaration) (recorder : Recorder σ)
    (operation : String) :
    ((ofSteps policy steps).registry recorder).advices operation =
      (steps.filterMap (Declaration.guardFor? operation)).map Advice.checkCaller
        ++ if operation ∈ steps.map Declaration.name ∧ policy.selects operation = true
          then [.traceCall] else [] := by
  have hpolicy : (ofSteps policy steps).policy = policy := policy_foldl_declare steps _
  rw [advices_registry]
  unfold ofSteps at hpolicy ⊢
  rw [lookup_foldl_declare]
  by_cases hdeclared : operation ∈ steps.map Declaration.name
  · rw [if_pos hdeclared]
    unfold advices
    rw [hpolicy]
    simp only [hdeclared, true_and]
    rfl
  · -- nobody gave guards to a name that was not declared
    rw [if_neg hdeclared, if_neg (fun h => hdeclared h.1),
      Declaration.filterMap_guardFor? hdeclared]
    rfl

end Declarations

/-! ### Running a chain -/

/-- The state after so many guards looked at a caller and let it through. -/
def Session.checkedTimes (s : Session σ) (times : Nat) (caller : String) : Session σ :=
  { s with told := List.replicate times (.callerChecked caller) ++ s.told }

theorem Session.checkedTimes_succ (s : Session σ) (times : Nat) (caller : String) :
    (s.checked caller).checkedTimes times caller = s.checkedTimes (times + 1) caller := by
  unfold checked checkedTimes
  simp [List.replicate_succ']

namespace Registry

variable {recorder : Recorder σ} {operation caller : String}

/-- Guards that let the caller through are asked one after another, and what
    stands behind them runs then. -/
theorem surround_passed {guards : List Guard}
    (hpass : ∀ guard ∈ guards, guard.allowed.admits caller = true) (rest : List Advice)
    (call : Work σ (Outcome α)) (s : Session σ) :
    surround recorder operation caller call (guards.map Advice.checkCaller ++ rest) s =
      surround recorder operation caller call rest (s.checkedTimes guards.length caller) := by
  induction guards generalizing s with
  | nil => rfl
  | cons guard guards ih =>
    have hguard : guard.allowed.admits caller = true := hpass guard List.mem_cons_self
    have hguards : ∀ g ∈ guards, g.allowed.admits caller = true :=
      fun g hg => hpass g (List.mem_cons_of_mem guard hg)
    -- the later guards start from what this one left behind
    show guard.protect caller
      (surround recorder operation caller call (guards.map Advice.checkCaller ++ rest)) s = _
    rw [Guard.protect_of_admits hguard, ih hguards, Session.checkedTimes_succ, List.length_cons]

/-- The first guard that turns the caller away ends the chain: neither later
    guards nor span nor call are reached. -/
theorem surround_denied {passed : List Guard} {guard : Guard}
    (hpass : ∀ guard ∈ passed, guard.allowed.admits caller = true)
    (hdeny : guard.allowed.admits caller = false) (rest : List Advice)
    (call : Work σ (Outcome α)) (s : Session σ) :
    surround recorder operation caller call
        (passed.map Advice.checkCaller ++ .checkCaller guard :: rest) s =
      (.error (.unauthorizedIp caller), (s.checkedTimes passed.length caller).rejected caller) := by
  rw [surround_passed hpass]
  exact Guard.protect_of_rejects hdeny _ _

/-- The guards of an operation are those that it was given. -/
theorem guards_ofSteps (policy : Policy) (steps : List Declaration) (recorder : Recorder σ)
    (operation : String) :
    ((Declarations.ofSteps policy steps).registry recorder).guards operation =
      steps.filterMap (Declaration.guardFor? operation) := by
  have hguards : ∀ guards : List Guard, (guards.map Advice.checkCaller).filterMap Advice.guard? =
      guards := by
    intro guards
    rw [List.filterMap_map]
    exact List.filterMap_some
  unfold guards
  rw [Declarations.advices_ofSteps, List.filterMap_append, hguards]
  -- the span is no guard, so it is dropped where it is there at all
  by_cases htraced : operation ∈ steps.map Declaration.name ∧ policy.selects operation = true
  · rw [if_pos htraced]
    exact List.append_nil _
  · rw [if_neg htraced]
    exact List.append_nil _

/-- **A call under the name of an operation** is asked about by the guards of
    that name one after another. If all of them let the caller through, the
    call runs once, within a span if the policy traces the name; the first
    guard that does not is the last thing that happens. A name that was never
    declared adds nothing to the call. -/
theorem invokeNow_built (policy : Policy) (steps : List Declaration) (recorder : Recorder σ)
    (start : Session σ) (operation : String) (caller : Option String)
    (call : Work σ (Outcome α)) :
    let registry := ((Declarations.ofSteps policy steps).build recorder start).1
    let guards := registry.guards operation
    let address := caller.getD "unknown"
    guards = steps.filterMap (Declaration.guardFor? operation) ∧
    ((∀ guard ∈ guards, guard.allowed.admits address = true) → ∀ s : Session σ,
      registry.invokeNow operation caller call s =
        (if operation ∈ steps.map Declaration.name ∧ policy.selects operation = true then do
          let span ← recorder.opened operation
          let outcome ← call
          recorder.closed span (Recorder.faultOf outcome)
          return outcome
        else call)
        { s with told := List.replicate guards.length (.callerChecked address) ++ s.told }) ∧
    (∀ passed guard later, guards = passed ++ guard :: later →
      (∀ earlier ∈ passed, earlier.allowed.admits address = true) →
      guard.allowed.admits address = false → ∀ s : Session σ,
      registry.invokeNow operation caller call s =
        (.error (.unauthorizedIp address),
          { s with
            told := .callerRejected address ::
              List.replicate (passed.length + 1) (.callerChecked address) ++ s.told
            meters := { s.meters with denials := s.meters.denials + 1 } })) ∧
    (operation ∉ steps.map Declaration.name →
      registry.invokeNow operation caller call = call) := by
  intro registry guards address
  have hguards : guards = steps.filterMap (Declaration.guardFor? operation) :=
    guards_ofSteps policy steps recorder operation
  have hadvices : registry.advices operation = guards.map Advice.checkCaller
      ++ if operation ∈ steps.map Declaration.name ∧ policy.selects operation = true
        then [.traceCall] else [] := by
    rw [hguards]
    exact Declarations.advices_ofSteps policy steps recorder operation
  have hinvoke : registry.invokeNow operation caller call =
      surround recorder operation address call (registry.advices operation) := rfl
  refine ⟨hguards, ?_, ?_, ?_⟩
  · intro hpass s
    rw [hinvoke, hadvices, surround_passed hpass]
    by_cases htraced : operation ∈ steps.map Declaration.name ∧ policy.selects operation = true
    · rw [if_pos htraced, if_pos htraced]
      rfl
    · rw [if_neg htraced, if_neg htraced]
      rfl
  · intro passed guard later hsplit hpass hdeny s
    -- what stands behind the guard that denies does not matter
    rw [hinvoke, hadvices, hsplit, List.map_append, List.map_cons, List.append_assoc,
      List.cons_append, surround_denied hpass hdeny]
    rfl
  · intro hundeclared
    have hnone : guards = [] := hguards.trans (Declaration.filterMap_guardFor? hundeclared)
    -- neither guards nor span are left, and the empty chain is the call
    rw [hinvoke, hadvices, hnone, if_neg (fun h => hundeclared h.1)]
    rfl

end Registry
end HolidayApi.Call
