import HolidayApi.Settings.Check
import Mathlib.Data.List.Basic

/-! # The check finds every violation once

    The check goes through the names of guarded operations with the names that
    it has seen. What it finds at a name depends on the names before it only
    (`nameViolation?`), so the list of what it finds is known position by
    position (`nameViolations_eq`), and so is how often each violation stands
    in it (`count_unnamed`, `count_repeated`).

    The other violations are found one by one, whatever the others are, and so
    the check passes iff the settings are sensible in all respects
    (`violations_eq_nil_iff`).
-/

namespace HolidayApi.Settings

open HolidayApi.Call (Session Work)
open HolidayApi.Net (Endpoint)

variable {σ : Type}

/-! ### The names of operations -/

/-- An operation without a name. -/
def unnamed : Violation := ⟨"operations.name", "must not be empty"⟩

/-- An operation with the name of another. -/
def repeated (name : String) : Violation :=
  ⟨"operations.name", "duplicate operation '" ++ name ++ "'"⟩

theorem repeated_inj {name other : String} : repeated name = repeated other ↔ name = other := by
  constructor
  · intro h
    have htext : "duplicate operation '" ++ name ++ "'" = "duplicate operation '" ++ other ++ "'" :=
      congrArg Violation.message h
    have hchars := congrArg String.toList htext
    simp only [String.toList_append, List.append_cancel_left_eq, List.append_cancel_right_eq]
      at hchars
    exact String.toList_inj.mp hchars
  · rintro rfl
    rfl

theorem repeated_ne_unnamed (name : String) : repeated name ≠ unnamed := by
  intro h
  have hchars := congrArg (fun v : Violation => v.message.toList.head?) h
  simp [repeated, unnamed] at hchars

/-- What is wrong with a name that comes after these names. -/
def nameViolation? (earlier : List String) (name : String) : Option Violation :=
  if name = "" then some unnamed
  else if name ∈ earlier then some (repeated name)
  else none

/-- What the check finds at one name, and what it has seen after that. -/
theorem nameViolations_cons (seen : List String) (g : OperationGuard)
    (rest : List OperationGuard) :
    nameViolations seen (g :: rest) =
      (nameViolation? seen g.name).toList ++
        nameViolations (if g.name = "" ∨ g.name ∈ seen then seen else g.name :: seen) rest := by
  by_cases hempty : g.name = ""
  · simp [nameViolations, nameViolation?, hempty, unnamed]
  · by_cases hseen : g.name ∈ seen
    · simp [nameViolations, nameViolation?, hempty, hseen, repeated]
    · simp [nameViolations, nameViolation?, hempty, hseen]

/-- Only the names themselves matter, not in which order they were seen. -/
theorem nameViolation?_congr {earlier earlier' : List String} {name : String}
    (h : name ≠ "" → (name ∈ earlier ↔ name ∈ earlier')) :
    nameViolation? earlier name = nameViolation? earlier' name := by
  unfold nameViolation?
  by_cases hempty : name = ""
  · rw [if_pos hempty, if_pos hempty]
  · simp only [if_neg hempty, h hempty]

/-- **What is found at a place depends on the names before it**, as long as the
    names that were seen are those before the list. -/
theorem nameViolations_of_seen {guards : List OperationGuard} {seen before : List String}
    (h : ∀ name ≠ "", name ∈ seen ↔ name ∈ before) :
    nameViolations seen guards = (guards.map OperationGuard.name).zipIdx.filterMap fun place =>
      nameViolation? (before ++ (guards.map OperationGuard.name).take place.2) place.1 := by
  induction guards generalizing seen before with
  | nil => rfl
  | cons g rest ih =>
    have hseen : ∀ name ≠ "",
        name ∈ (if g.name = "" ∨ g.name ∈ seen then seen else g.name :: seen) ↔
          name ∈ before ++ [g.name] := by
      intro name hname
      rw [List.mem_append, List.mem_singleton, ← h name hname]
      split
      · next hold =>
        rcases hold with hempty | hmem
        · -- an empty name is not put among the seen ones
          constructor
          · exact .inl
          · rintro (hin | rfl)
            · exact hin
            · exact absurd hempty hname
        · constructor
          · exact .inl
          · rintro (hin | rfl)
            · exact hin
            · exact hmem
      · rw [List.mem_cons, or_comm]
    have hfirst : nameViolation? seen g.name = nameViolation? before g.name :=
      nameViolation?_congr (h g.name)
    have hmoved : ∀ place : String × Nat,
        nameViolation? (before ++ (g.name :: rest.map OperationGuard.name).take (place.2 + 1))
            place.1 =
          nameViolation? (before ++ [g.name] ++ (rest.map OperationGuard.name).take place.2)
            place.1 := by
      intro place
      rw [List.take_succ_cons, List.append_assoc]
      rfl
    rw [nameViolations_cons, ih hseen, hfirst, List.map_cons, List.zipIdx_cons',
      List.filterMap_cons, List.filterMap_map]
    simp only [Function.comp_def, Prod.map_fst, Prod.map_snd, id_eq, hmoved, List.take_zero,
      List.append_nil]
    cases nameViolation? before g.name <;> rfl

/-- The violations of names, position by position. -/
theorem nameViolations_eq (guards : List OperationGuard) :
    nameViolations [] guards = (guards.map OperationGuard.name).zipIdx.filterMap fun place =>
      nameViolation? ((guards.map OperationGuard.name).take place.2) place.1 :=
  nameViolations_of_seen fun _ _ => Iff.rfl

example : nameViolations [] [⟨"read", ⟨[]⟩⟩, ⟨"", ⟨[]⟩⟩, ⟨"read", ⟨[]⟩⟩, ⟨"", ⟨[]⟩⟩] =
    [unnamed, repeated "read", unnamed] := by decide

/-- There are none iff all names are there, and differ from each other and from
    those seen before. -/
theorem nameViolations_eq_nil_iff {guards : List OperationGuard} {seen : List String} :
    nameViolations seen guards = [] ↔
      (∀ g ∈ guards, g.name ≠ "" ∧ g.name ∉ seen) ∧
        (guards.map OperationGuard.name).Nodup := by
  induction guards generalizing seen with
  | nil => simp [nameViolations]
  | cons g rest ih =>
    have hfirst : nameViolation? seen g.name = none ↔ g.name ≠ "" ∧ g.name ∉ seen := by
      unfold nameViolation?
      split
      · next hempty => simp [hempty]
      · next hempty => simp [hempty]
    rw [nameViolations_cons, List.append_eq_nil_iff, Option.toList_eq_nil_iff, hfirst, ih,
      List.map_cons, List.nodup_cons]
    constructor
    · rintro ⟨⟨hempty, hseen⟩, hrest, hnodup⟩
      rw [if_neg (by simp [hempty, hseen])] at hrest
      refine ⟨?_, ?_, hnodup⟩
      · intro g' hg'
        rcases List.mem_cons.mp hg' with rfl | hlater
        · exact ⟨hempty, hseen⟩
        · obtain ⟨hname, hnew⟩ := hrest g' hlater
          exact ⟨hname, fun hmem => hnew (List.mem_cons_of_mem _ hmem)⟩
      · intro hmem
        obtain ⟨g', hg', hname⟩ := List.mem_map.mp hmem
        exact (hrest g' hg').2 (by rw [hname]; exact List.mem_cons_self)
    · rintro ⟨hall, hnew, hnodup⟩
      have hg := hall g List.mem_cons_self
      rw [if_neg (by simp [hg.1, hg.2])]
      refine ⟨hg, ?_, hnodup⟩
      intro g' hg'
      obtain ⟨hname, hseen⟩ := hall g' (List.mem_cons_of_mem g hg')
      refine ⟨hname, fun hmem => ?_⟩
      rcases List.mem_cons.mp hmem with heq | hold
      · exact hnew (List.mem_map.mpr ⟨g', hg', heq⟩)
      · exact hseen hold

/-! ### How often a violation is found -/

/-- Every missing name is found. -/
theorem count_unnamed (guards : List OperationGuard) (seen : List String) :
    (nameViolations seen guards).count unnamed =
      (guards.map OperationGuard.name).count "" := by
  induction guards generalizing seen with
  | nil => rfl
  | cons g rest ih =>
    rw [nameViolations_cons, List.count_append, ih, List.map_cons, List.count_cons]
    unfold nameViolation?
    by_cases hempty : g.name = ""
    · simp [hempty, Nat.add_comm]
    · by_cases hseen : g.name ∈ seen
      · simp [hempty, hseen, repeated_ne_unnamed]
      · simp [hempty, hseen]

/-- Every use of a name but the first is found; the first one too, if the name
    was seen before. -/
theorem count_repeated_of_seen {name : String} (hname : name ≠ "") (guards : List OperationGuard)
    (seen : List String) :
    (nameViolations seen guards).count (repeated name) =
      (guards.map OperationGuard.name).count name - if name ∈ seen then 0 else 1 := by
  induction guards generalizing seen with
  | nil => simp [nameViolations]
  | cons g rest ih =>
    have hunnamed : ¬unnamed = repeated name := Ne.symm (repeated_ne_unnamed name)
    rw [nameViolations_cons, List.count_append, ih, List.map_cons, List.count_cons]
    unfold nameViolation?
    by_cases hsame : g.name = name
    · subst hsame
      by_cases hseen : g.name ∈ seen
      · simp [hname, hseen, Nat.add_comm]
      · simp [hname, hseen]
    · -- another name changes neither count, and does not become the one looked for
      have hother : ¬repeated g.name = repeated name := fun h => hsame (repeated_inj.mp h)
      by_cases hempty : g.name = ""
      · simp [hempty, hunnamed, Ne.symm hname]
      · by_cases hseen : g.name ∈ seen
        · simp [hempty, hseen, hother, hsame]
        · simp [hempty, hseen, hsame, Ne.symm hsame]

theorem count_repeated {name : String} (hname : name ≠ "") (guards : List OperationGuard) :
    (nameViolations [] guards).count (repeated name) =
      (guards.map OperationGuard.name).count name - 1 := by
  rw [count_repeated_of_seen hname, if_neg List.not_mem_nil]

/-- A missing name is never taken for a repeated one. -/
theorem count_repeated_empty (guards : List OperationGuard) :
    (nameViolations [] guards).count (repeated "") = 0 := by
  rw [List.count_eq_zero, nameViolations_eq]
  intro hmem
  obtain ⟨place, _, hfound⟩ := List.mem_filterMap.mp hmem
  unfold nameViolation? at hfound
  split at hfound
  · exact repeated_ne_unnamed "" (Option.some.inj hfound).symm
  · next hempty =>
    split at hfound
    · exact hempty (repeated_inj.mp (Option.some.inj hfound))
    · cases hfound

/-! ### All violations -/

/-- Settings that make sense. -/
structure Sensible (s : Settings) : Prop where
  listener : ∃ endpoint, Endpoint.parse? s.listener.bindAddress = some endpoint
  timeout : 0 < s.timeouts.requestSecs
  level : s.observability.logLevel ∈ ["trace", "debug", "info", "warn", "error"]
  metrics : s.observability.metricsEnabled = true →
    ∃ endpoint, Endpoint.parse? s.observability.metricsAddress = some endpoint
  named : ∀ g ∈ s.operations, g.name ≠ ""
  distinct : (s.operations.map OperationGuard.name).Nodup

theorem require_eq_nil_iff {holds : Bool} {field message : String} :
    require holds field message = [] ↔ holds = true := by
  cases holds <;> simp [require]

theorem isEndpoint_iff {text : String} :
    isEndpoint text = true ↔ ∃ endpoint, Endpoint.parse? text = some endpoint :=
  Option.isSome_iff_exists

/-- **There are no violations iff the settings make sense.** -/
theorem violations_eq_nil_iff {s : Settings} : s.violations = [] ↔ s.Sensible := by
  have hmetrics : (!s.observability.metricsEnabled || isEndpoint s.observability.metricsAddress) =
      true ↔ (s.observability.metricsEnabled = true →
        ∃ endpoint, Endpoint.parse? s.observability.metricsAddress = some endpoint) := by
    rw [Bool.or_eq_true, isEndpoint_iff, Bool.not_eq_true']
    cases s.observability.metricsEnabled <;> simp
  unfold violations
  rw [List.append_eq_nil_iff, List.append_eq_nil_iff, List.append_eq_nil_iff,
    List.append_eq_nil_iff, require_eq_nil_iff, require_eq_nil_iff, require_eq_nil_iff,
    require_eq_nil_iff, isEndpoint_iff, decide_eq_true_iff, List.contains_iff_mem, hmetrics,
    nameViolations_eq_nil_iff]
  constructor
  · rintro ⟨⟨⟨⟨hlistener, htimeout⟩, hlevel⟩, hmetrics⟩, hnames, hnodup⟩
    exact ⟨hlistener, Nat.pos_of_ne_zero htimeout, hlevel, hmetrics,
      fun g hg => (hnames g hg).1, hnodup⟩
  · rintro ⟨hlistener, htimeout, hlevel, hmetrics, hnamed, hnodup⟩
    exact ⟨⟨⟨⟨hlistener, Nat.ne_of_gt htimeout⟩, hlevel⟩, hmetrics⟩,
      fun g hg => ⟨hnamed g hg, List.not_mem_nil⟩, hnodup⟩

/-- The check warns first, and then answers with what it has found. -/
theorem check_run (s : Settings) (start : Session σ) :
    (s.check start).1 = if s.violations = [] then .ok () else .error s.violations := by
  have hempty : s.violations.isEmpty = true ↔ s.violations = [] := List.isEmpty_iff
  unfold check
  rw [Work.bind_run]
  simp only [hempty]
  split <;> rfl

/-- The violations in the order in which the check reports them. -/
def reported (s : Settings) : List Violation :=
  let names := s.operations.map OperationGuard.name
  (if Endpoint.parse? s.listener.bindAddress = none then
    [⟨"listener.bind_address", "invalid socket address '" ++ s.listener.bindAddress ++ "'"⟩]
    else []) ++
  (if s.timeouts.requestSecs = 0 then [⟨"timeouts.request_secs", "must be greater than 0"⟩]
    else []) ++
  (if s.observability.logLevel ∈ ["trace", "debug", "info", "warn", "error"] then []
    else [⟨"observability.log_level",
      "unknown level '" ++ s.observability.logLevel ++ "'"⟩]) ++
  (if s.observability.metricsEnabled = true ∧
      Endpoint.parse? s.observability.metricsAddress = none then
    [⟨"observability.metrics_address",
      "invalid socket address '" ++ s.observability.metricsAddress ++ "'"⟩]
    else []) ++
  names.zipIdx.filterMap fun place => nameViolation? (names.take place.2) place.1

theorem violations_eq_reported (s : Settings) : s.violations = s.reported := by
  have hlistener : isEndpoint s.listener.bindAddress = true ↔
      ¬Endpoint.parse? s.listener.bindAddress = none := by
    rw [isEndpoint_iff, ← Option.isSome_iff_exists, Option.isSome_iff_ne_none]
  have hmetrics : (!s.observability.metricsEnabled || isEndpoint s.observability.metricsAddress) =
      true ↔ ¬(s.observability.metricsEnabled = true ∧
        Endpoint.parse? s.observability.metricsAddress = none) := by
    rw [Bool.or_eq_true, Bool.not_eq_true', isEndpoint_iff, ← Option.isSome_iff_exists,
      Option.isSome_iff_ne_none, ← Bool.not_eq_true, not_and_or]
  unfold violations reported require
  simp only [nameViolations_eq, hlistener, hmetrics, ite_not, decide_eq_true_iff,
    List.contains_iff_mem, logLevels]

/-- Violations of other settings are no violations of names. -/
theorem count_require_of_field {v : Violation} {field : String} (hfield : v.field ≠ field)
    (holds : Bool) (message : String) : (require holds field message).count v = 0 := by
  rw [List.count_eq_zero]
  intro hmem
  unfold require at hmem
  split at hmem
  · cases hmem
  · exact hfield (congrArg Violation.field (List.mem_singleton.mp hmem))

theorem count_violations {s : Settings} {v : Violation} (h : v.field = "operations.name") :
    s.violations.count v = (nameViolations [] s.operations).count v := by
  unfold violations
  simp only [List.count_append]
  rw [count_require_of_field (by rw [h]; decide), count_require_of_field (by rw [h]; decide),
    count_require_of_field (by rw [h]; decide), count_require_of_field (by rw [h]; decide),
    Nat.zero_add]

theorem check_eq_ok_iff {s : Settings} {start : Session σ} :
    (s.check start).1 = .ok () ↔ s.Sensible := by
  rw [check_run, ← violations_eq_nil_iff]
  split
  · next hnone => exact iff_of_true rfl hnone
  · next hsome => exact iff_of_false nofun hsome

theorem check_eq_error_iff {s : Settings} {start : Session σ} {found : List Violation} :
    (s.check start).1 = .error found ↔ ¬s.Sensible ∧ found = s.reported := by
  rw [check_run, ← violations_eq_nil_iff, ← violations_eq_reported]
  split
  · next hnone => exact iff_of_false nofun fun h => h.1 hnone
  · next hsome =>
    rw [Except.error.injEq, eq_comm]
    exact (and_iff_right hsome).symm

/-- Checked settings are those of the document. -/
theorem checked_run (s : Settings) (start : Session σ) :
    (s.checked start).1 =
      ((s.check start).1.map fun _ => s).mapError Problem.violated := by
  unfold checked
  rw [Work.bind_run]
  cases (s.check start).1 with
  | ok done => rfl
  | error found => rfl

/-- **The check reports every violation once, and nothing else.** It passes iff
    the settings are sensible, and otherwise answers with `reported`: in this
    order the violations of the listener, the timeout, the log level and the
    metrics, each of them whatever the others are, and then those of the names,
    place by place. So there are as many violations for missing names as there
    are names missing, and for a name that stands in `k` places there are
    `k - 1`. -/
theorem check_reports_violations (s : Settings) (start : Session σ) :
    ((s.check start).1 = .ok () ↔ s.Sensible) ∧
    (∀ found, (s.check start).1 = .error found ↔ ¬s.Sensible ∧ found = s.reported) ∧
    (∀ loaded, (s.checked start).1 = .ok loaded ↔ s.Sensible ∧ loaded = s) ∧
    (∀ problem, (s.checked start).1 = .error problem ↔
      ¬s.Sensible ∧ problem = .violated s.reported) ∧
    s.reported.count unnamed = (s.operations.map OperationGuard.name).count "" ∧
    (∀ name, s.reported.count (repeated name) =
      if name = "" then 0 else (s.operations.map OperationGuard.name).count name - 1) := by
  refine ⟨check_eq_ok_iff, fun _ => check_eq_error_iff, ?_, ?_, ?_, ?_⟩
  · intro loaded
    have hpasses : s.Sensible ↔ (s.check start).1 = .ok () := check_eq_ok_iff.symm
    rw [checked_run, hpasses]
    cases (s.check start).1 with
    | ok done => simp [Except.map, Except.mapError, eq_comm]
    | error found => simp [Except.map, Except.mapError]
  · intro problem
    rw [checked_run]
    cases hcheck : (s.check start).1 with
    | ok done =>
      have hsensible : s.Sensible := check_eq_ok_iff.mp hcheck
      simp [Except.map, Except.mapError, hsensible]
    | error found =>
      obtain ⟨hnot, rfl⟩ := check_eq_error_iff.mp hcheck
      simp [Except.map, Except.mapError, hnot, eq_comm]
  · rw [← violations_eq_reported, count_violations rfl, count_unnamed]
  · intro name
    rw [← violations_eq_reported, count_violations rfl]
    split
    · next hempty => rw [hempty, count_repeated_empty]
    · next hname => exact count_repeated hname s.operations

end HolidayApi.Settings
