import HolidayApi.Proofs.Call.Advice
import HolidayApi.Proofs.Call.Frame
import HolidayApi.Proofs.Settings.Violations
import HolidayApi.Proofs.Web.WriteGuard
import HolidayApi.Settings.Report

/-! # Verdicts come true

    A verdict is read off the settings: it looks at the first entry that has
    the name of an operation. The registry takes all entries of a name and
    asks all their guards. The two agree because settings that pass the check
    name every operation once (`names_nodup`), so that the entry that is found
    is the only one (`guards_of_checked`).

    What a guard decides shows in the number of times that the call behind it
    runs. `verdict_foretells` says that verdicts foretell this number, for the
    operations of the registry and for the write routes of the application.
-/

namespace HolidayApi.Call

open HolidayApi.Access (Guard)

variable {σ α : Type}

/-! ### Counting runs -/

/-- The work on data that stand beside the number of its runs. -/
def Work.counted (work : Work σ α) : Work (Nat × σ) α := fun s =>
  let result := work { s with data := s.data.2 }
  (result.1, { result.2 with data := (s.data.1 + 1, result.2.data) })

theorem Work.counted_run (work : Work σ α) (s : Session (Nat × σ)) :
    (work.counted s).2.data.1 = s.data.1 + 1 := rfl

end HolidayApi.Call

namespace HolidayApi.Settings

open HolidayApi.Access (Caller.resolve Guard)
open HolidayApi.Calendar (Store)
open HolidayApi.Call (Declaration Declarations Recorder Registry Session Work)
open HolidayApi.Web (Application Envelope Request Route WriteRoute)

variable {σ α : Type} {settings : Settings}

/-! ### Names of guarded operations -/

/-- Settings that pass the check name every operation once. -/
theorem names_nodup {start : Session σ} (h : (settings.check start).1 = .ok ()) :
    (settings.operations.map OperationGuard.name).Nodup := by
  have hsensible : settings.Sensible := check_eq_ok_iff.mp h
  exact hsensible.distinct

/-! ### Guards of an operation -/

/-- The steps in which the operations are declared: first those of the
    program, then those with a guard. -/
def declarationSteps (settings : Settings) : List Declaration :=
  Web.allOperations.map .plain
    ++ settings.operations.map fun g => .guarded g.name (Web.guardOf settings g)

theorem declarations_eq (settings : Settings) :
    Web.declarations settings =
      Declarations.ofSteps (Web.policy settings) (declarationSteps settings) := by
  unfold Web.declarations Declarations.ofSteps declarationSteps
  rw [List.foldl_append, List.foldl_map, List.foldl_map]
  rfl

theorem guardFor?_plain (names : List String) (operation : String) :
    (names.map Declaration.plain).filterMap (Declaration.guardFor? operation) = [] := by
  rw [List.filterMap_eq_nil_iff]
  intro step hstep
  obtain ⟨name, _, rfl⟩ := List.mem_map.mp hstep
  rfl

theorem guardFor?_guarded (guard : OperationGuard → Guard) (entries : List OperationGuard)
    (operation : String) :
    (entries.map fun g => Declaration.guarded g.name (guard g)).filterMap
        (Declaration.guardFor? operation) =
      (entries.filter fun g => g.name == operation).map guard := by
  induction entries with
  | nil => rfl
  | cons g rest ih =>
    rw [List.map_cons, List.filterMap_cons, List.filter_cons, ih]
    by_cases hname : g.name = operation
    · simp [Declaration.guardFor?, hname]
    · simp [Declaration.guardFor?, hname]

/-- An operation has the guards of all entries with its name, in order. -/
theorem guards_declarations (settings : Settings) (recorder : Recorder σ) (operation : String) :
    ((Web.declarations settings).registry recorder).guards operation =
      (settings.operations.filter fun g => g.name == operation).map (Web.guardOf settings) := by
  rw [declarations_eq, Registry.guards_ofSteps]
  unfold declarationSteps
  rw [List.filterMap_append, guardFor?_plain, guardFor?_guarded, List.nil_append]

/-- Where every name stands once, the entry that is found is the only one. -/
theorem filter_name_eq_find? {entries : List OperationGuard}
    (h : (entries.map OperationGuard.name).Nodup) (operation : String) :
    entries.filter (fun g => g.name == operation) =
      (entries.find? fun g => g.name == operation).toList := by
  induction entries with
  | nil => rfl
  | cons g rest ih =>
    rw [List.map_cons, List.nodup_cons] at h
    obtain ⟨hfirst, hrest⟩ := h
    by_cases hname : g.name = operation
    · have hnone : rest.filter (fun g => g.name == operation) = [] := by
        rw [List.filter_eq_nil_iff]
        intro g' hg' hname'
        have hsame : g'.name = g.name := (beq_iff_eq.mp hname').trans hname.symm
        exact hfirst (List.mem_map.mpr ⟨g', hg', hsame⟩)
      simp [hname, hnone]
    · simp [hname, ih hrest]

theorem guards_of_checked {start : Session α} (h : (settings.check start).1 = .ok ())
    (recorder : Recorder σ) (operation : String) :
    ((Web.declarations settings).registry recorder).guards operation =
      ((settings.operations.find? fun g => g.name == operation).map
        (Web.guardOf settings)).toList := by
  rw [guards_declarations, filter_name_eq_find? (names_nodup h)]
  cases settings.operations.find? fun g => g.name == operation with
  | none => rfl
  | some g => rfl

/-! ### What a verdict foretells -/

/-- The verdict about a caller of a protected call: it is allowed iff the call
    runs, which happens once, and denied iff the caller is turned away and the
    call does not run. -/
structure Verdict.Foretells (verdict : Verdict) (address : String)
    (call : Work (Nat × σ) (Outcome α)) (s : Session (Nat × σ)) : Prop where
  allowed : verdict = .allowed ↔ (call s).2.data.1 = s.data.1 + 1
  denied : verdict = .denied ↔
    (call s).1 = .error (.unauthorizedIp address) ∧ (call s).2.data.1 = s.data.1

namespace Verdict

variable {guard : Guard} {address : String}

theorem ofGuard_of_admits (h : guard.allowed.admits address = true) :
    ofGuard guard address = .allowed := if_pos h

theorem ofGuard_of_rejects (h : guard.allowed.admits address = false) :
    ofGuard guard address = .denied := by
  unfold ofGuard
  rw [h]
  rfl

theorem ofGuard_eq_denied_iff (guard : Guard) (address : String) :
    ofGuard guard address = .denied ↔ ¬ guard.allowed.admits address = true := by
  cases hguard : guard.allowed.admits address with
  | true =>
    rw [ofGuard_of_admits hguard]
    decide
  | false =>
    rw [ofGuard_of_rejects hguard]
    decide

theorem Foretells.of_runs {call : Work (Nat × σ) (Outcome α)} {s : Session (Nat × σ)}
    (h : (call s).2.data.1 = s.data.1 + 1) : Foretells .allowed address call s where
  allowed := iff_of_true rfl h
  denied := by
    refine iff_of_false (by decide) ?_
    intro hdenied
    have hnot := hdenied.2
    omega

theorem Foretells.of_turnedAway {call : Work (Nat × σ) (Outcome α)} {s : Session (Nat × σ)}
    (hresult : (call s).1 = .error (.unauthorizedIp address))
    (hruns : (call s).2.data.1 = s.data.1) : Foretells .denied address call s where
  allowed := by
    refine iff_of_false (by decide) ?_
    intro hallowed
    omega
  denied := iff_of_true rfl ⟨hresult, hruns⟩

/-- Advices with one guard let through whom it does. -/
theorem admits_iff_of_guards {advices : List Call.Advice}
    (hguards : advices.filterMap Call.Advice.guard? = [guard]) :
    Registry.Admits advices address ↔ guard.allowed.admits address = true := by
  unfold Registry.Admits
  rw [hguards]
  simp

/-- What a guard decides is foretold of calls behind it, whatever else
    surrounds them. -/
theorem foretells_surround {recorder : Recorder (Nat × σ)} (hr : recorder.KeepsData)
    (operation : String) {advices : List Call.Advice}
    (hguards : advices.filterMap Call.Advice.guard? = [guard]) (call : Work σ (Outcome α))
    (s : Session (Nat × σ)) :
    (ofGuard guard address).Foretells address
      (Registry.surround recorder operation address call.counted advices) s := by
  have hadmits : Registry.Admits advices address ↔ guard.allowed.admits address = true :=
    admits_iff_of_guards hguards
  cases hguard : guard.allowed.admits address with
  | true =>
    obtain ⟨s₁, hdata₁, _, hdata⟩ :=
      Registry.surround_admitted hr operation (hadmits.mpr hguard) call.counted s
    rw [ofGuard_of_admits hguard]
    refine .of_runs ?_
    rw [hdata, Work.counted_run, hdata₁]
  | false =>
    have hrejects : ¬ Registry.Admits advices address := by
      rw [hadmits, hguard]
      decide
    obtain ⟨hresult, hdata⟩ := Registry.surround_rejected hr operation hrejects call.counted s
    rw [ofGuard_of_rejects hguard]
    exact .of_turnedAway hresult (by rw [hdata])

end Verdict

/-- The verdict about an operation is that of its only guard. -/
theorem verdict_of_checked {start : Session α} (h : (settings.check start).1 = .ok ())
    (recorder : Recorder σ) (address operation : String) :
    (verdict settings address (some operation) = .unguarded ∧
      ((Web.declarations settings).registry recorder).guards operation = []) ∨
    ∃ guard, verdict settings address (some operation) = .ofGuard guard address ∧
      ((Web.declarations settings).registry recorder).guards operation = [guard] := by
  rw [guards_of_checked h]
  unfold verdict
  -- both sides look for the same entry
  cases hentry : settings.operations.find? fun g => g.name == operation with
  | none =>
    exact .inl ⟨by simp only [hentry], rfl⟩
  | some g =>
    exact .inr ⟨Web.guardOf settings g, by simp only [hentry], rfl⟩

/-- Who is denied is not let through by the advices of the operation. -/
theorem denied_iff_not_admits {start : Session α} (h : (settings.check start).1 = .ok ())
    (recorder : Recorder σ) (address operation : String) :
    verdict settings address (some operation) = .denied ↔
      ¬ Registry.Admits (((Web.declarations settings).registry recorder).advices operation)
        address := by
  rcases verdict_of_checked h recorder address operation with
    ⟨hverdict, hguards⟩ | ⟨guard, hverdict, hguards⟩
  · rw [hverdict]
    refine iff_of_false (by decide) ?_
    rw [not_not]
    intro guard hguard
    have hnone : guard ∈ ([] : List Guard) := hguards ▸ hguard
    cases hnone
  · rw [hverdict, Verdict.ofGuard_eq_denied_iff, Verdict.admits_iff_of_guards hguards]

theorem Verdict.ofGuard_ne_unguarded (guard : Guard) (address : String) :
    ofGuard guard address ≠ .unguarded := by
  unfold ofGuard
  split
  · decide
  · decide

/-- The verdict about the write routes says whether their guard turns the caller
    away. -/
theorem denied_iff_turnedAway (guard : Guard) (address : String) (r : Request) :
    Verdict.ofGuard guard address = .denied ↔
      ∀ (handler : Work Store (Outcome Envelope)) (s : Session Store),
        Application.TurnedAway address s (Application.behind guard address r handler s).1
          (Application.behind guard address r handler s).2 := by
  cases hguard : guard.allowed.admits address with
  | true =>
    rw [Verdict.ofGuard_of_admits hguard]
    refine iff_of_false (by decide) ?_
    intro hall
    -- a handler that answers with a success is seen behind the guard
    obtain ⟨id, issued, hrun⟩ := Application.behind_run guard address r
      (do return .ok (← Application.health)) { data := {} }
    have hstatus := (hall (do return .ok (← Application.health)) { data := {} }).status
    simp only [Guard.protect_of_admits hguard] at hrun
    rw [hrun] at hstatus
    cases hstatus
  | false =>
    rw [Verdict.ofGuard_of_rejects hguard]
    exact iff_of_true rfl fun handler s => Application.turnedAway_behind hguard r handler s

/-- **Verdicts foretell what guards do.** Of settings that pass the check, the
    verdict about an operation says whether the operation has a guard, and then
    it has one only; whether calls run that are invoked under its name for this
    caller; and whether the caller is turned away. The verdict about the write
    routes says the same of a request that writes and is not too long. -/
theorem verdict_foretells (settings : Settings) (start : Session Store)
    (h : (settings.check start).1 = .ok ()) (address : String) :
    (∀ (σ α : Type) (operation : String) (before : Session (Nat × σ)),
      let registry := ((Web.declarations settings).build Recorder.standard before).1
      let verdict := verdict settings address (some operation)
      (verdict = .unguarded ↔ registry.guards operation = []) ∧
      (verdict ≠ .unguarded → (∃ guard, registry.guards operation = [guard]) ∧
        ∀ (call : Work σ (Outcome α)) (s : Session (Nat × σ)),
          verdict.Foretells address
            (registry.invokeNow operation (some address) call.counted) s)) ∧
    (∀ (r : Request) (route : Route) (verb : Route.Verb),
      Route.ofTarget? r.target = some route → WriteRoute r.method route verb →
      (∀ n, Application.announcedLength r = some n → n ≤ settings.security.maxBodySize) →
      Caller.resolve r.headers r.peer settings.security.trustedProxies = address →
      let app := (Application.build settings start).1
      let guard := Web.writeGuard settings
      let verdict := verdict settings address none
      app.answer r = Application.behind guard address r (app.perform r route verb) ∧
      (∀ (handler : Work Store (Outcome Envelope)) (s : Session (Nat × Store)),
        verdict.Foretells address (guard.protect address handler.counted) s) ∧
      (verdict = .denied ↔ ∀ (handler : Work Store (Outcome Envelope)) (s : Session Store),
        Application.TurnedAway address s (Application.behind guard address r handler s).1
          (Application.behind guard address r handler s).2)) := by
  refine ⟨?_, ?_⟩
  · intro σ α operation before registry about
    rcases verdict_of_checked h Recorder.standard address operation with
      ⟨hverdict, hguards⟩ | ⟨guard, hverdict, hguards⟩
    · refine ⟨iff_of_true hverdict hguards, ?_⟩
      intro hguarded
      exact absurd hverdict hguarded
    · have hsome : about ≠ .unguarded := by
        intro hnone
        exact Verdict.ofGuard_ne_unguarded guard address (hverdict.symm.trans hnone)
      refine ⟨iff_of_false hsome ?_, ?_⟩
      · intro hnone
        have hnot : [guard] = [] := hguards.symm.trans hnone
        cases hnot
      · intro _
        refine ⟨⟨guard, hguards⟩, ?_⟩
        intro call s
        show Verdict.Foretells (verdict settings address (some operation)) _ _ _
        rw [hverdict]
        exact Verdict.foretells_surround Recorder.keepsData_standard operation hguards call s
  · intro r route verb htarget hwrite hlength hcaller app guard about
    have hcaller' : app.caller r = address := hcaller
    have hshort : app.isTooLong r = false := Application.isTooLong_eq_false hlength
    have hanswer : app.answer r =
        Application.behind guard (app.caller r) r (app.perform r route verb) :=
      Application.answer_write htarget hwrite hshort
    rw [hcaller'] at hanswer
    refine ⟨hanswer, ?_, denied_iff_turnedAway guard address r⟩
    intro handler s
    -- a guard by itself is a chain of one advice
    have hguards : [Call.Advice.checkCaller guard].filterMap Call.Advice.guard? = [guard] := rfl
    exact Verdict.foretells_surround Recorder.keepsData_standard "" hguards handler s

/-- Settings with a guard for deletions. -/
def guardedDeletion : Settings where
  operations := [⟨"HolidayController.delete", .ofPatterns ["192.168.*.*"]⟩]

/-- A deletion that a stranger asks for. -/
def strangersDeletion : Request where
  method := "DELETE"
  target := "/api/holidays/id/1"
  peer := some (.v4 (.ofOctets 8 8 8 8))

theorem verdict_foretells_deletion :
    let registry : Registry (Nat × Store) :=
      ((Web.declarations guardedDeletion).build Recorder.standard { data := (0, {}) }).1
    (guardedDeletion.check (σ := Store) { data := {} }).1 = .ok () ∧
    guardedDeletion.verdict "8.8.8.8" (some "HolidayController.delete") = .denied ∧
    (∀ (call : Work Store (Outcome Unit)) (s : Session (Nat × Store)),
      (registry.invokeNow "HolidayController.delete" (some "8.8.8.8") call.counted s).1 =
        .error (.unauthorizedIp "8.8.8.8")) ∧
    ∀ (handler : Work Store (Outcome Envelope)) (s : Session (Nat × Store)),
      (Verdict.denied).Foretells "8.8.8.8"
        ((Web.writeGuard guardedDeletion).protect "8.8.8.8" handler.counted) s := by
  intro registry
  have hcheck : (guardedDeletion.check (σ := Store) { data := {} }).1 = .ok () := by rfl
  have hoperation : guardedDeletion.verdict "8.8.8.8" (some "HolidayController.delete") =
      .denied := by decide
  have hroutes : guardedDeletion.verdict "8.8.8.8" none = .denied := by decide
  have h := verdict_foretells guardedDeletion { data := {} } hcheck "8.8.8.8"
  refine ⟨hcheck, hoperation, ?_, ?_⟩
  · intro call s
    have hguarded : guardedDeletion.verdict "8.8.8.8" (some "HolidayController.delete") ≠
        .unguarded := by decide
    exact (((h.1 Store Unit "HolidayController.delete" { data := (0, {}) }).2 hguarded).2 call
      s).denied.mp hoperation |>.1
  · intro handler s
    have hlength : ∀ n, Application.announcedLength strangersDeletion = some n →
        n ≤ guardedDeletion.security.maxBodySize := by
      intro n hn
      cases hn
    have hwrite := h.2 strangersDeletion (.item "1") .delete rfl (.delete "1") hlength (by decide)
    rw [← hroutes]
    exact hwrite.2.1 handler s

end HolidayApi.Settings
