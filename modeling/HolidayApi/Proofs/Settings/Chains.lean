import HolidayApi.Proofs.Call.Contents
import HolidayApi.Proofs.Settings.Verdicts
import Mathlib.Data.String.Basic

/-! # The report on advices

    The registry of the program holds the operations of the program and those
    that the settings name (`holds_declarations`). The report lists them with
    their advices in the order of their names (`sorted_chains`), so it does not
    show in which order the registry keeps them (`chains_eq_of_same`).

    `built_registry_reported` gathers what a registry holds that was built from
    any declarations, what the one of some settings holds, and what is
    reported of it.
-/

namespace HolidayApi

open HolidayApi.Call (Advice Declaration Declarations Policy Recorder Registry Session)

variable {σ : Type}

namespace Call.Registry.Holds

/-- The advices of an operation by their names. -/
theorem names_advices {r : Registry σ} {declared : List String}
    {guards : String → List Access.Guard} {traced : String → Bool}
    (h : r.Holds declared guards traced) (operation : String) :
    (r.advices operation).map Advice.name =
      List.replicate (guards operation).length "CheckIp"
        ++ if operation ∈ declared ∧ traced operation = true then ["LogTrace"] else [] := by
  have hguards : ((guards operation).map Advice.checkCaller).map Advice.name =
      List.replicate (guards operation).length "CheckIp" := by
    rw [List.map_map]
    exact List.map_const'
  rw [h.advices, List.map_append, hguards]
  split <;> rfl

end Call.Registry.Holds

namespace Settings

variable {registry other : Registry σ}

/-! ### The operations of the program -/

/-- The names of a step for each operation, plain or guarded. -/
theorem names_declarationSteps (s : Settings) :
    (declarationSteps s).map Declaration.name =
      Web.allOperations ++ s.operations.map OperationGuard.name := by
  unfold declarationSteps
  rw [List.map_append, List.map_map, List.map_map]
  exact congrArg (· ++ _) (List.map_id _)

/-- An operation is traced if tracing is on and its patterns say so. -/
theorem selects_policy (s : Settings) (operation : String) :
    (Web.policy s).selects operation =
      (s.trace.enabled && Policy.selects ⟨s.trace.included, s.trace.excluded⟩ operation) := by
  unfold Web.policy
  cases s.trace.enabled <;> simp [Policy.selects, Policy.disabled]

/-- **The registry of the program** holds its own operations and those that the
    settings name, with a guard for each of the settings' entries. -/
theorem holds_declarations (s : Settings) (recorder : Recorder σ) :
    ((Web.declarations s).registry recorder).Holds
      (Web.allOperations ++ s.operations.map OperationGuard.name)
      (fun operation => (s.operations.filter fun g => g.name == operation).map (Web.guardOf s))
      (fun operation =>
        s.trace.enabled && Policy.selects ⟨s.trace.included, s.trace.excluded⟩ operation) := by
  have hholds := Declarations.holds_ofSteps (Web.policy s) (declarationSteps s) recorder
  have hguards : (fun operation => (declarationSteps s).filterMap
      (Declaration.guardFor? operation)) = fun operation =>
        (s.operations.filter fun g => g.name == operation).map (Web.guardOf s) := by
    funext operation
    unfold declarationSteps
    -- the program declares its own operations without guards
    rw [List.filterMap_append, guardFor?_plain, guardFor?_guarded, List.nil_append]
  rw [names_declarationSteps, hguards, funext (selects_policy s)] at hholds
  rw [declarations_eq]
  exact hholds

/-! ### The report -/

theorem names_chains (registry : Registry σ) :
    (chains registry).map Prod.fst = registry.names.mergeSort fun a b => a ≤ b := by
  unfold chains
  rw [List.map_map]
  exact List.map_id _

theorem mem_chains {name : String} {chain : List String} :
    (name, chain) ∈ chains registry ↔
      name ∈ registry.names ∧ chain = (registry.advices name).map Advice.name := by
  unfold chains
  simp only [List.mem_map, List.mem_mergeSort, Prod.mk.injEq]
  constructor
  · rintro ⟨_, hmem, rfl, rfl⟩
    exact ⟨hmem, rfl⟩
  · rintro ⟨hmem, rfl⟩
    exact ⟨name, hmem, rfl, rfl⟩

theorem pairwise_names (names : List String) :
    (names.mergeSort fun a b => a ≤ b).Pairwise (· ≤ ·) := by
  have hsorted : (names.mergeSort fun a b => a ≤ b).Pairwise fun a b => decide (a ≤ b) = true := by
    apply List.pairwise_mergeSort
    · intro a b c hab hbc
      rw [decide_eq_true_iff] at hab hbc ⊢
      exact le_trans hab hbc
    · intro a b
      rw [Bool.or_eq_true, decide_eq_true_iff, decide_eq_true_iff]
      exact le_total a b
  exact hsorted.imp of_decide_eq_true

/-- The names of the report are in order, and no name stands twice. -/
theorem sorted_chains (h : registry.names.Nodup) :
    ((chains registry).map Prod.fst).Pairwise (· < ·) := by
  have hnodup : (registry.names.mergeSort fun a b => a ≤ b).Nodup :=
    (List.mergeSort_perm _ _).nodup_iff.mpr h
  rw [names_chains]
  exact (pairwise_names registry.names).imp₂ (fun _ _ hle hne => lt_of_le_of_ne hle hne) hnodup

/-- **The report does not show in which order operations are kept.** -/
theorem chains_eq_of_same (h : registry.Same other) : chains registry = chains other := by
  have hsorted : (registry.names.mergeSort fun a b => a ≤ b) =
      other.names.mergeSort fun a b => a ≤ b := by
    -- there is only one way to put the same names in order
    refine List.Perm.eq_of_pairwise (fun a b _ _ => le_antisymm) (pairwise_names _)
      (pairwise_names _) ?_
    exact (List.mergeSort_perm _ _).trans (h.names.trans (List.mergeSort_perm _ _).symm)
  unfold chains
  rw [hsorted]
  simp only [h.advices]

/-- **A registry holds what was declared, and the report lists it.** Of any
    declarations every name is held once, with its guards in order and behind
    them the span if the policy traces it. So only the names and, for each of
    them, the order of its own guards matter. The registry of some settings
    holds the sixteen operations of the program and the names of the settings,
    and the report lists exactly these, strictly in order, however the registry
    keeps them. -/
theorem built_registry_reported (recorder : Recorder σ) (start : Session σ) :
    let built := fun policy steps => ((Declarations.ofSteps policy steps).build recorder start).1
    (∀ policy steps, (built policy steps).Holds (steps.map Declaration.name)
      (fun operation => steps.filterMap (Declaration.guardFor? operation)) policy.selects) ∧
    (∀ policy steps steps',
      (∀ operation, operation ∈ steps.map Declaration.name ↔
        operation ∈ steps'.map Declaration.name) →
      (∀ operation, steps.filterMap (Declaration.guardFor? operation) =
        steps'.filterMap (Declaration.guardFor? operation)) →
      (built policy steps).Same (built policy steps')) ∧
    (∀ policy before first second later, first.name ≠ second.name →
      (built policy (before ++ first :: second :: later)).Same
        (built policy (before ++ second :: first :: later))) ∧
    (∀ policy before name later, name ∈ (before ++ later).map Declaration.name →
      (built policy (before ++ .plain name :: later)).Same (built policy (before ++ later))) ∧
    Web.allOperations.length = 16 ∧ Web.allOperations.Nodup ∧
    ∀ s : Settings,
      let registry := ((Web.declarations s).build recorder start).1
      let declared := Web.allOperations ++ s.operations.map OperationGuard.name
      let guards := fun operation =>
        (s.operations.filter fun g => g.name == operation).map (Web.guardOf s)
      let traced := fun operation =>
        s.trace.enabled && Policy.selects ⟨s.trace.included, s.trace.excluded⟩ operation
      registry.Holds declared guards traced ∧
      ((chains registry).map Prod.fst).Pairwise (· < ·) ∧
      (∀ name chain, (name, chain) ∈ chains registry ↔ name ∈ declared ∧
        chain = List.replicate (s.operations.countP fun g => g.name == name) "CheckIp"
          ++ if traced name = true then ["LogTrace"] else []) ∧
      ∀ operations : List (String × List Advice), operations.Perm registry.operations →
        chains (⟨operations, recorder⟩ : Registry σ) = chains registry := by
  intro built
  refine ⟨?_, ?_, ?_, ?_, by decide, by decide, ?_⟩
  · intro policy steps
    exact Declarations.holds_ofSteps policy steps recorder
  · intro policy steps steps' hnames hguards
    exact Declarations.same_of_guards hnames hguards recorder
  · intro policy before first second later hne
    exact Declarations.same_of_swap hne policy before later recorder
  · intro policy before name later hmem
    exact Declarations.same_of_repeated hmem policy recorder
  · intro s registry declared guards traced
    have hholds : registry.Holds declared guards traced := holds_declarations s recorder
    refine ⟨hholds, sorted_chains hholds.nodup, ?_, ?_⟩
    · intro name chain
      have hcount : (guards name).length = s.operations.countP fun g => g.name == name := by
        rw [List.countP_eq_length_filter]
        exact List.length_map _
      rw [mem_chains, hholds.mem_names, hholds.names_advices, hcount]
      refine and_congr_right fun hdeclared => ?_
      simp only [hdeclared, true_and]
    · intro operations hperm
      exact chains_eq_of_same (Registry.same_of_perm hholds.nodup hperm recorder)

end Settings
end HolidayApi
