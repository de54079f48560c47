import HolidayApi.Proofs.Call.Advice
import Mathlib.Data.List.Nodup

/-! # What a registry holds

    A registry is built from declarations that may mention a name as often as
    they like. It holds every declared name once, with the guards that were
    given to it in order and the span behind them (`holds_ofSteps`). Nothing
    else of the declarations can be seen in it, so two of them that declare
    the same names and give each name the same guards make the same registry
    (`Holds.same`): steps for different names may change places, and
    to declare a name again has no effect.

    The names are found by induction over the steps, of which each adds its own
    name unless it is there (`names_declare`).
-/

namespace HolidayApi.Call

open HolidayApi.Access (Guard)

variable {σ : Type}

/-! ### Declared names -/

namespace Declarations

variable {policy : Policy} {name operation : String}

/-- Guards for a name declare it, unless it is declared already. -/
theorem names_add (name : String) (guards : List Guard) (declared : List (String × List Guard)) :
    (add name guards declared).map Prod.fst =
      if name ∈ declared.map Prod.fst then declared.map Prod.fst
      else declared.map Prod.fst ++ [name] := by
  induction declared with
  | nil => rfl
  | cons entry rest ih =>
    obtain ⟨other, known⟩ := entry
    unfold add
    by_cases hother : other = name
    · simp [hother]
    · -- the name may still be declared further back
      rw [if_neg hother, List.map_cons, ih]
      by_cases hrest : name ∈ rest.map Prod.fst
      · have hold : name ∈ ((other, known) :: rest).map Prod.fst :=
          List.mem_cons_of_mem _ hrest
        rw [if_pos hrest, if_pos hold]
        rfl
      · have hnew : name ∉ ((other, known) :: rest).map Prod.fst := by
          rw [List.map_cons, List.mem_cons, not_or]
          exact ⟨Ne.symm hother, hrest⟩
        rw [if_neg hrest, if_neg hnew]
        rfl

theorem names_declare (d : Declarations) (step : Declaration) :
    (d.declare step).declared.map Prod.fst =
      if step.name ∈ d.declared.map Prod.fst then d.declared.map Prod.fst
      else d.declared.map Prod.fst ++ [step.name] := by
  cases step with
  | plain name => exact names_add name [] d.declared
  | guarded name guard => exact names_add name [guard] d.declared

/-- A step leaves names distinct. -/
theorem nodup_declare {d : Declarations} (h : (d.declared.map Prod.fst).Nodup)
    (step : Declaration) : ((d.declare step).declared.map Prod.fst).Nodup := by
  rw [names_declare]
  split
  · exact h
  · next hnew =>
    refine List.nodup_append.mpr ⟨h, List.nodup_singleton _, ?_⟩
    rintro operation hold _ hsame rfl
    exact hnew (List.mem_singleton.mp hsame ▸ hold)

theorem mem_declare {d : Declarations} {step : Declaration} :
    operation ∈ (d.declare step).declared.map Prod.fst ↔
      operation ∈ d.declared.map Prod.fst ∨ operation = step.name := by
  rw [names_declare]
  split
  · next hold =>
    -- the name is declared already, so it adds nothing
    constructor
    · exact .inl
    · rintro (hmem | rfl)
      · exact hmem
      · exact hold
  · rw [List.mem_append, List.mem_singleton]

/-- After any steps the names are distinct, and they are those before the steps
    and those of the steps. -/
theorem names_foldl_declare (steps : List Declaration) {d : Declarations}
    (h : (d.declared.map Prod.fst).Nodup) :
    ((steps.foldl declare d).declared.map Prod.fst).Nodup ∧
    ∀ operation, operation ∈ (steps.foldl declare d).declared.map Prod.fst ↔
      operation ∈ d.declared.map Prod.fst ∨ operation ∈ steps.map Declaration.name := by
  induction steps generalizing d with
  | nil => exact ⟨h, fun operation => by simp⟩
  | cons step rest ih =>
    obtain ⟨hnodup, hmem⟩ := ih (nodup_declare h step)
    refine ⟨hnodup, fun operation => ?_⟩
    rw [List.foldl_cons, hmem, mem_declare, List.map_cons, List.mem_cons, or_assoc]

theorem names_registry (d : Declarations) (recorder : Recorder σ) :
    (d.registry recorder).names = d.declared.map Prod.fst := by
  unfold registry Registry.names
  rw [List.map_map]
  rfl

end Declarations

/-! ### Contents -/

namespace Registry

/-- The registry holds these names, each once, with these guards in order and
    behind them the span of the traced names. -/
structure Holds (r : Registry σ) (declared : List String) (guards : String → List Guard)
    (traced : String → Bool) : Prop where
  nodup : r.names.Nodup
  mem_names : ∀ operation, operation ∈ r.names ↔ operation ∈ declared
  advices : ∀ operation, r.advices operation = (guards operation).map Advice.checkCaller
    ++ if operation ∈ declared ∧ traced operation = true then [.traceCall] else []

/-- Two registries with the same operations and the same advices of each, in
    whatever order they keep them. -/
structure Same (r r' : Registry σ) : Prop where
  names : r.names.Perm r'.names
  advices : ∀ operation, r.advices operation = r'.advices operation

variable {r r' : Registry σ} {declared declared' : List String}
  {guards guards' : String → List Guard} {traced traced' : String → Bool}

theorem Holds.same (h : r.Holds declared guards traced) (h' : r'.Holds declared' guards' traced)
    (hdeclared : ∀ operation, operation ∈ declared ↔ operation ∈ declared')
    (hguards : ∀ operation, guards operation = guards' operation) : r.Same r' where
  names := by
    rw [List.perm_ext_iff_of_nodup h.nodup h'.nodup]
    intro operation
    rw [h.mem_names, h'.mem_names, hdeclared]
  advices operation := by
    rw [h.advices, h'.advices, hguards]
    simp only [hdeclared]

/-- An operation is found with its own advices, where names are distinct. -/
theorem lookup_eq_some_iff {β : Type} {entries : List (String × β)}
    (h : (entries.map Prod.fst).Nodup) {name : String} {value : β} :
    entries.lookup name = some value ↔ (name, value) ∈ entries := by
  induction entries with
  | nil => simp
  | cons entry rest ih =>
    obtain ⟨other, first⟩ := entry
    rw [List.map_cons, List.nodup_cons] at h
    rw [Declarations.lookup_entry, List.mem_cons]
    by_cases hname : other = name
    · -- no entry behind this one has its name
      subst hname
      have hlater : (other, value) ∉ rest := fun hmem =>
        h.1 (List.mem_map.mpr ⟨(other, value), hmem, rfl⟩)
      rw [if_pos rfl]
      simp [hlater, eq_comm]
    · rw [if_neg hname, ih h.2]
      simp [Ne.symm hname]

/-- The order in which a registry keeps its operations does not matter. -/
theorem same_of_perm {operations : List (String × List Advice)} (h : r.names.Nodup)
    (hperm : operations.Perm r.operations) (recorder : Recorder σ) :
    Same ⟨operations, recorder⟩ r where
  names := hperm.map Prod.fst
  advices operation := by
    have hnodup : (operations.map Prod.fst).Nodup := (hperm.map Prod.fst).nodup_iff.mpr h
    have hlookup : operations.lookup operation = r.operations.lookup operation := by
      apply Option.ext
      intro advices
      rw [lookup_eq_some_iff hnodup, lookup_eq_some_iff h, hperm.mem_iff]
    exact congrArg (Option.getD · []) hlookup

end Registry

/-! ### Declarations that make the same registry -/

namespace Declarations

open Declaration (guardFor?)

/-- **What was declared is what the registry holds.** -/
theorem holds_ofSteps (policy : Policy) (steps : List Declaration) (recorder : Recorder σ) :
    ((ofSteps policy steps).registry recorder).Holds (steps.map Declaration.name)
      (fun operation => steps.filterMap (guardFor? operation)) policy.selects := by
  have hstart : (({ policy } : Declarations).declared.map Prod.fst).Nodup := List.nodup_nil
  obtain ⟨hnodup, hmem⟩ := names_foldl_declare steps hstart
  refine ⟨?_, ?_, advices_ofSteps policy steps recorder⟩
  · rw [names_registry]
    exact hnodup
  · intro operation
    rw [names_registry]
    exact (hmem operation).trans (or_iff_right List.not_mem_nil)

/-- Steps that declare the same names and give each of them the same guards
    make the same registry. -/
theorem same_of_guards {policy : Policy} {steps steps' : List Declaration}
    (hnames : ∀ operation, operation ∈ steps.map Declaration.name ↔
      operation ∈ steps'.map Declaration.name)
    (hguards : ∀ operation, steps.filterMap (guardFor? operation) =
      steps'.filterMap (guardFor? operation)) (recorder : Recorder σ) :
    ((ofSteps policy steps).registry recorder).Same
      ((ofSteps policy steps').registry recorder) :=
  (holds_ofSteps policy steps recorder).same (holds_ofSteps policy steps' recorder) hnames hguards

/-- Steps for different names commute. -/
theorem same_of_swap {first second : Declaration} (h : first.name ≠ second.name)
    (policy : Policy) (before later : List Declaration) (recorder : Recorder σ) :
    ((ofSteps policy (before ++ first :: second :: later)).registry recorder).Same
      ((ofSteps policy (before ++ second :: first :: later)).registry recorder) := by
  have hperm : (before ++ first :: second :: later).Perm (before ++ second :: first :: later) :=
    (List.Perm.swap second first later).append_left before
  refine same_of_guards (fun operation => (hperm.map Declaration.name).mem_iff) ?_ recorder
  intro operation
  -- only one of the two can give a guard to this name
  have hone : guardFor? operation first = none ∨ guardFor? operation second = none := by
    by_cases hfirst : first.name = operation
    · refine .inr (Declaration.guardFor?_of_ne fun hsecond => ?_)
      exact h (hfirst.trans hsecond.symm)
    · exact .inl (Declaration.guardFor?_of_ne hfirst)
  simp only [List.filterMap_append, List.filterMap_cons]
  rcases hone with hnone | hnone
  · rw [hnone]
  · rw [hnone]

/-- Declaring a name that is declared elsewhere has no effect. -/
theorem same_of_repeated {before later : List Declaration} {name : String}
    (h : name ∈ (before ++ later).map Declaration.name) (policy : Policy)
    (recorder : Recorder σ) :
    ((ofSteps policy (before ++ .plain name :: later)).registry recorder).Same
      ((ofSteps policy (before ++ later)).registry recorder) := by
  refine same_of_guards ?_ ?_ recorder
  · intro operation
    have hmoved : operation ∈ (before ++ .plain name :: later).map Declaration.name ↔
        operation = name ∨ operation ∈ (before ++ later).map Declaration.name := by
      simp only [List.map_append, List.map_cons, List.mem_append, List.mem_cons]
      rw [or_left_comm]
      rfl
    rw [hmoved]
    constructor
    · rintro (rfl | hmem)
      · exact h
      · exact hmem
    · exact .inr
  · intro operation
    rw [List.filterMap_append, List.filterMap_append, List.filterMap_cons]
    rfl

end Declarations
end HolidayApi.Call
