import HolidayApi.Proofs.Access.Notation
import HolidayApi.Proofs.Settings.Violations
import HolidayApi.Settings.Report
import Mathlib.Data.List.Count

/-! # Warnings and report name the same dead entries

    Entries that admit nobody are named twice, by the check at startup and by
    the report on settings. Which entries these are is said here without
    either of them: the settings have named lists, and the dead entries of
    some lists are the malformed ones under their own texts (`deadAmong`).

    The report goes through the lists in the order of the document. The check
    can be made in one walk (`walk`), which looks at the name of an operation
    and warns about its list before it goes on to the next; what it finds
    wrong with a name does not keep it from warning (`walkOperations_run`).

    `warnings_match_report` says that both name the same entries, each as often.
-/

namespace HolidayApi

namespace Access.Entry

/-! ### The text of a dead entry -/

/-- The text that means nothing, of an entry that is malformed. -/
def meaningless? : Entry → Option String
  | malformed raw => some raw
  | _ => none

/-- A malformed entry is shown as it was given. -/
theorem meaningless?_eq (entry : Entry) :
    entry.meaningless? = if entry.isMalformed then some entry.text else none := by
  cases entry <;> rfl

/-- Of a text that is read, it is the text itself. -/
theorem meaningless?_parse (raw : String) :
    (parse raw).meaningless? = if (parse raw).isMalformed then some raw else none := by
  have hreading : Reading raw (parse raw) := reading_parse raw
  generalize parse raw = entry at hreading
  cases hreading <;> rfl

end Access.Entry

namespace Settings

open HolidayApi.Access (AllowList Entry)
open HolidayApi.Call (Event Session Work)

variable {σ : Type}

/-! ### The lists of the settings -/

/-- The lists that concern all operations, with the names of their settings. -/
def securityLists (s : Settings) : List (String × AllowList) :=
  [("security.allowed_ips", s.security.allowed),
   ("security.default_allowed_ips", s.security.allowedAlways),
   ("security.trusted_proxies", s.security.trustedProxies)]

/-- The lists of single operations, with the names of their settings. -/
def operationLists (s : Settings) : List (String × AllowList) :=
  s.operations.map fun g => ("operations[" ++ g.name ++ "].allowed_ips", g.allowed)

/-- The dead entries of some lists, each under the text that means nothing. -/
def deadAmong (lists : List (String × AllowList)) : List DeadEntry :=
  lists.flatMap fun (field, list) =>
    (list.entries.filterMap Entry.meaningless?).map (DeadEntry.mk field)

theorem deadIn_eq (field : String) (list : AllowList) :
    deadIn field list = (list.entries.filterMap Entry.meaningless?).map (DeadEntry.mk field) := by
  unfold deadIn AllowList.malformed
  rw [← List.filterMap_eq_map, List.filterMap_filter, List.map_filterMap]
  refine List.filterMap_congr fun entry _ => ?_
  rw [Entry.meaningless?_eq]
  cases entry.isMalformed <;> rfl

theorem deadInSecurity_eq (s : Settings) : s.deadInSecurity = deadAmong s.securityLists := by
  unfold deadInSecurity deadAmong securityLists
  simp only [deadIn_eq, List.flatMap_cons, List.flatMap_nil, List.append_nil, List.append_assoc]

theorem deadInOperations_eq (s : Settings) : s.deadInOperations = deadAmong s.operationLists := by
  unfold deadInOperations deadAmong operationLists
  simp only [deadIn_eq, List.flatMap_map]

/-- The dead entries of a list that was given as texts are some of these texts. -/
theorem deadAmong_ofPatterns (field : String) (patterns : List String) :
    deadAmong [(field, .ofPatterns patterns)] =
      (patterns.filter fun raw => (Entry.parse raw).isMalformed).map (DeadEntry.mk field) := by
  have hmeaningless : Entry.meaningless? ∘ Entry.parse =
      Option.guard fun raw => (Entry.parse raw).isMalformed := by
    funext raw
    exact Entry.meaningless?_parse raw
  have hsingle : deadAmong [(field, .ofPatterns patterns)] =
      ((patterns.map Entry.parse).filterMap Entry.meaningless?).map (DeadEntry.mk field) :=
    List.append_nil _
  rw [hsingle, List.filterMap_map, hmeaningless, List.filterMap_eq_filter]

example : deadAmong [("trusted", .ofPatterns ["10.*", "::1", "10.0.0.0/33", "*"])] =
    [⟨"trusted", "10.*"⟩, ⟨"trusted", "10.0.0.0/33"⟩] := by decide

/-! ### Warnings -/

/-- The warning about a dead entry. -/
def DeadEntry.warning (dead : DeadEntry) : Event := .entryMalformed dead.field dead.entry

theorem DeadEntry.warning_inj {dead other : DeadEntry} :
    dead.warning = other.warning ↔ dead = other := by
  constructor
  · intro h
    cases dead
    cases other
    cases h
    rfl
  · rintro rfl
    rfl

/-- A warning is told as often as its entry is listed. -/
theorem count_warning (dead : DeadEntry) (entries : List DeadEntry) :
    (entries.map DeadEntry.warning).count dead.warning = entries.count dead :=
  List.count_map_of_injective entries _ (fun _ _ => DeadEntry.warning_inj.mp) dead

/-- The state after warnings about these entries. -/
def warned (start : Session σ) (entries : List DeadEntry) : Session σ :=
  { start with told := (entries.map DeadEntry.warning).reverse ++ start.told }

theorem warned_append (start : Session σ) (first second : List DeadEntry) :
    warned (warned start first) second = warned start (first ++ second) := by
  unfold warned
  simp

/-- Warns about each of the entries. -/
def warnAll (entries : List DeadEntry) : Work σ Unit :=
  entries.forM fun dead => Work.tell dead.warning

theorem warnAll_run (entries : List DeadEntry) (start : Session σ) :
    warnAll entries start = ((), warned start entries) := by
  induction entries generalizing start with
  | nil => rfl
  | cons dead rest ih =>
    show warnAll rest (warned start [dead]) = _
    rw [ih, warned_append]
    rfl

/-- The check in one run: it warns about all entries and changes nothing else. -/
theorem check_warns (s : Settings) (start : Session σ) :
    (s.check start).2 = warned start (s.deadInOperations ++ s.deadInSecurity) := by
  have hwarn : (s.check start).2 =
      (warnAll (s.deadInOperations ++ s.deadInSecurity) start).2 := by
    unfold check
    rw [Work.bind_run]
    split <;> rfl
  rw [hwarn, warnAll_run]

/-! ### The check as one walk -/

/-- Looks at the name of an operation and warns about its list, then goes on to
    the next; `seen` are the names before. -/
def walkOperations (seen : List String) : List OperationGuard → Work σ (List Violation)
  | [] => return []
  | g :: rest => do
    let found := (nameViolation? seen g.name).toList
    warnAll (deadIn ("operations[" ++ g.name ++ "].allowed_ips") g.allowed)
    let later ← walkOperations (if g.name = "" ∨ g.name ∈ seen then seen else g.name :: seen) rest
    return found ++ later

/-- The check as one walk: the settings without the operations, then the
    operations, and then the lists that concern all of them. -/
def walk (s : Settings) : Work σ (Except (List Violation) Unit) := do
  let early := violations { s with operations := [] }
  let late ← walkOperations [] s.operations
  warnAll (deadIn "security.allowed_ips" s.security.allowed)
  warnAll (deadIn "security.default_allowed_ips" s.security.allowedAlways)
  warnAll (deadIn "security.trusted_proxies" s.security.trustedProxies)
  if (early ++ late).isEmpty then return .ok () else return .error (early ++ late)

/-- The walk finds all violations of names and warns about all lists, whatever
    it has found before. -/
theorem walkOperations_run (seen : List String) (guards : List OperationGuard)
    (start : Session σ) :
    walkOperations seen guards start =
      (nameViolations seen guards, warned start (guards.flatMap fun g =>
        deadIn ("operations[" ++ g.name ++ "].allowed_ips") g.allowed)) := by
  induction guards generalizing seen start with
  | nil => rfl
  | cons g rest ih =>
    -- the list of the first operation is warned about before the others are looked at
    rw [nameViolations_cons, List.flatMap_cons, ← warned_append]
    unfold walkOperations
    rw [Work.bind_run, warnAll_run, Work.bind_run, ih]
    rfl

/-- **The check is the walk**: that names and lists are looked at in turn makes
    no difference to what is found or told. -/
theorem check_eq_walk (s : Settings) (start : Session σ) : s.check start = s.walk start := by
  have hfound : violations { s with operations := [] } ++ nameViolations [] s.operations =
      s.violations := by
    unfold violations
    simp only [nameViolations, List.append_nil]
  have hwalk : s.walk start =
      (if s.violations = [] then .ok () else .error s.violations,
        warned start (s.deadInOperations ++ s.deadInSecurity)) := by
    unfold walk
    rw [Work.bind_run, walkOperations_run, Work.bind_run, warnAll_run, Work.bind_run, warnAll_run,
      Work.bind_run, warnAll_run]
    simp only [warned_append, hfound, List.isEmpty_iff, List.append_assoc, deadInSecurity,
      deadInOperations]
    split <;> rfl
  rw [hwalk]
  exact Prod.ext (check_run s start) (check_warns s start)

/-- **The warnings of the check are the report**, in another order. The report
    lists the dead entries of the settings, first those of the lists that
    concern all operations and then those of single ones; the check warns about
    the latter first. So every entry is warned about as often as it is
    reported, under the same setting and in the text that was given. The check
    warns of all of them whether it passes or not, though it looks at names and
    lists in turn, and leaves all else as it was. -/
theorem warnings_match_report (s : Settings) (start : Session σ) :
    let inSecurity := deadAmong s.securityLists
    let inOperations := deadAmong s.operationLists
    s.deadEntries = inSecurity ++ inOperations ∧
    (s.check start).2 = { start with
      told := ((inOperations ++ inSecurity).map DeadEntry.warning).reverse ++ start.told } ∧
    (∀ dead, ((inOperations ++ inSecurity).map DeadEntry.warning).count dead.warning =
      s.deadEntries.count dead) ∧
    s.check start = s.walk start ∧
    (s.checked start).2 = (s.check start).2 ∧
    ∀ field patterns, deadAmong [(field, .ofPatterns patterns)] =
      (patterns.filter fun raw => (Entry.parse raw).isMalformed).map (DeadEntry.mk field) := by
  intro inSecurity inOperations
  have hreport : s.deadEntries = inSecurity ++ inOperations := by
    unfold deadEntries
    rw [deadInSecurity_eq, deadInOperations_eq]
  refine ⟨hreport, ?_, ?_, check_eq_walk s start, ?_, deadAmong_ofPatterns⟩
  · rw [check_warns, deadInSecurity_eq, deadInOperations_eq]
    rfl
  · intro dead
    rw [count_warning, hreport, List.count_append, List.count_append, Nat.add_comm]
  · -- what the check finds is answered, and nothing is told after it
    unfold checked
    rw [Work.bind_run]
    cases (s.check start).1 <;> rfl

end Settings
end HolidayApi
