import HolidayApi.Proofs.Call.Slots

/-! # The log of nested calls is their tree

    Calls that run in spans within one another form a forest. What is told
    while they run is the walk through that forest: a line where a call
    begins, then the lines of the calls within it, then a line where it ends.

    * `Begins` and `Ends` say what these lines look like in the log; `Walk`
      puts them in order.
    * `Ran` is what running a forest leaves behind, and `Ran.call` the step:
      what is known of the calls within a call and of those after it gives
      what is known of all of them.
    * `run_tells_tree` is the statement for whole forests in any slot.
-/

namespace HolidayApi.Call

variable {α : Type}

/-! ### Forests of calls -/

/-- Calls one after another, each with the calls within it. -/
inductive Forest (α : Type) where
  /-- No more calls. -/
  | done
  /-- A call with this label, which makes the calls `inner` and then has this
      outcome, and the calls after it. -/
  | call (label : String) (inner : Forest α) (outcome : Outcome α) (next : Forest α)

/-- What is seen of a call when it has returned. -/
structure Return (α : Type) where
  /-- The label of the call. -/
  label : String
  /-- The slot before the call. -/
  before : Slot
  /-- What the call returned. -/
  outcome : Outcome α
  /-- The slot after the call. -/
  after : Slot

namespace Forest

/-- Runs the calls, each in a span, and notes every return. -/
def run : Forest α → Work (List (Return α)) Unit
  | .done => pure ()
  | .call label inner outcome next => do
    let before := (← get).slot
    let returned ← Recorder.standard.around label do
      inner.run
      return outcome
    modify fun s => { s with data := s.data ++ [⟨label, before, returned, s.slot⟩] }
    next.run

/-- The number of outermost calls. -/
def roots : Forest α → Nat
  | .done => 0
  | .call _ _ _ next => next.roots + 1

/-- The outcomes of all calls with their labels, in the order in which the
    calls return. -/
def outcomes : Forest α → List (String × Outcome α)
  | .done => []
  | .call label inner outcome next => inner.outcomes ++ (label, outcome) :: next.outcomes

end Forest

/-! ### Lines -/

/-- The bars in front of a line: one for each level above, and its own. -/
def stem (level : Nat) : String := String.join (List.replicate (level - 1) "|   ") ++ "|"

/-- The line where a call begins. -/
structure Begins (line : Event) (trace : Id) (level : Nat) (label : String) : Prop where
  severity : line.severity = .debug
  message : ∀ elapsed, line.message elapsed = "# " ++ stem level ++ "--> " ++ label
  fields : ∀ name, line.fields name = [("trace_id", .shown (trace.text name))]

/-- The line where a call ends. Only a fault that is not expected makes it a
    warning, and only such a fault is told. -/
structure Ends (line : Event) (trace : Id) (level : Nat) (label : String)
    (outcome : Outcome α) : Prop where
  severity : line.severity = match outcome with
    | .ok _ | .error (.known ..) => .debug
    | .error _ => .warn
  message : ∀ elapsed, line.message elapsed =
    "# " ++ stem level ++ (match outcome with | .ok _ => "<-- " | .error _ => "<X- ") ++ label
      ++ " , elapsed=" ++ String.ofList (Text.decimal elapsed) ++ "ms" ++ match outcome with
        | .ok _ | .error (.known ..) => ""
        | .error fault => " , ex=" ++ fault.kind.name ++ " " ++ fault.text
  fields : ∀ name, line.fields name = [("trace_id", .shown (trace.text name))]

/-- The lines of a forest whose outermost calls are at this level, where
    `trace` gives the ids of the outermost calls by their places. All calls
    within an outermost one share its id. -/
inductive Walk : (trace : Nat → Id) → (level : Nat) → Forest α → List Event → Prop where
  | done {trace level} : Walk trace level .done []
  | call {trace level label inner outcome next first insides last rest} :
      Begins first (trace 0) level label →
      Walk (fun _ => trace 0) (level + 1) inner insides →
      Ends last (trace 0) level label outcome →
      Walk (fun root => trace (root + 1)) level next rest →
      Walk trace level (.call label inner outcome next) (first :: insides ++ last :: rest)

theorem begins_spanOpened (trace : Id) (level : Nat) (label : String) :
    Begins (.spanOpened trace level label) trace level label :=
  ⟨rfl, fun _ => rfl, fun _ => rfl⟩

theorem ends_spanClosed (trace : Id) (level : Nat) (label : String) (outcome : Outcome α) :
    Ends (.spanClosed trace level label (Recorder.faultOf outcome)) trace level label outcome := by
  cases outcome with
  | ok value => exact ⟨rfl, fun _ => rfl, fun _ => rfl⟩
  | error fault =>
    cases fault with
    | known code message => exact ⟨rfl, fun _ => rfl, fun _ => rfl⟩
    | business code message => exact ⟨rfl, fun _ => rfl, fun _ => rfl⟩
    | unauthorizedIp address => exact ⟨rfl, fun _ => rfl, fun _ => rfl⟩
    | invalidArgument detail => exact ⟨rfl, fun _ => rfl, fun _ => rfl⟩
    | internal detail => exact ⟨rfl, fun _ => rfl, fun _ => rfl⟩

/-! ### What a forest leaves behind -/

/-- What running a forest from one state has led to in another. -/
structure Ran (forest : Forest α) (s s' : Session (List (Return α))) : Prop where
  /-- All slots are as they were. -/
  sameSlots : s'.SameSlots s
  /-- An outermost call issues an id if the slot has none for it. -/
  issued : s'.issued = s.issued + s.slot.issues * forest.roots
  /-- The lines of the forest were told. -/
  told : ∃ lines, s'.events = s.events ++ lines ∧
    Walk (fun root => s.slot.chainId (s.issued + root)) (s.slot.depth + 1) forest lines
  /-- Every call returned its own outcome, to the slot from which it came. -/
  returned : ∃ returns : List (Return α), s'.data = s.data ++ returns ∧
    returns.map (fun r => (r.label, r.outcome)) = forest.outcomes ∧
    ∀ r ∈ returns, r.after = r.before

namespace Ran

variable {label : String} {inner next : Forest α} {outcome : Outcome α}
  {s inside after : Session (List (Return α))}

theorem done (s : Session (List (Return α))) : Ran .done s s where
  sameSlots := Session.SameSlots.refl s
  issued := by simp [Forest.roots]
  told := ⟨[], by simp, .done⟩
  returned := ⟨[], by simp [Forest.outcomes]⟩

/-- The state in which a call has returned and the return is noted. -/
def noted (label : String) (outcome : Outcome α) (s inside : Session (List (Return α))) :
    Session (List (Return α)) :=
  let span : Span := ⟨s.slot.chainId s.issued, s.slot.depth + 1, label⟩
  let closed := Recorder.closedState span (Recorder.faultOf outcome) inside
  { closed with data := closed.data ++ [⟨label, s.slot, outcome, closed.slot⟩] }

theorem events_noted (label : String) (outcome : Outcome α)
    (s inside : Session (List (Return α))) :
    (noted label outcome s inside).events =
      inside.events ++ [.spanClosed (s.slot.chainId s.issued) (s.slot.depth + 1) label
        (Recorder.faultOf outcome)] :=
  Recorder.events_closedState _ _ inside

/-- **One more call**: the calls within it ran inside its span, and those
    after it from where it returned. -/
theorem call (hinner : Ran inner (Recorder.openedState label s) inside)
    (hnext : Ran next (noted label outcome s inside) after) :
    Ran (.call label inner outcome next) s after := by
  have hclosed := Recorder.sameSlots_closedState
    ⟨s.slot.chainId s.issued, s.slot.depth + 1, label⟩ (Recorder.faultOf outcome)
    hinner.sameSlots
  have hslots : (noted label outcome s inside).SameSlots s := ⟨hclosed.thread, hclosed.scopes⟩
  have hslot : (noted label outcome s inside).slot = s.slot := hslots.slot
  have hopened : (Recorder.openedState label s).slot = s.slot.opened s.issued :=
    Recorder.slot_openedState label s
  have hissued : (noted label outcome s inside).issued = s.issued + s.slot.issues := by
    -- a chain is active within the call, so nothing is issued there
    have hinside : inside.issued = s.issued + s.slot.issues := by
      have h := hinner.issued
      rw [hopened, Slot.issues_opened, Nat.zero_mul, Nat.add_zero] at h
      exact h
    exact (Recorder.issued_closedState _ _ inside).trans hinside
  constructor
  case sameSlots => exact hnext.sameSlots.trans hslots
  case issued =>
    have h := hnext.issued
    rw [hissued, hslot] at h
    rw [h, Forest.roots, Nat.mul_add, Nat.mul_one]
    omega
  case told =>
    obtain ⟨insides, hinsides, hwalkInner⟩ := hinner.told
    obtain ⟨rest, hrest, hwalkRest⟩ := hnext.told
    rw [hopened] at hwalkInner
    rw [hslot, hissued] at hwalkRest
    -- the ids of the outermost calls after this one go on where it stopped
    have hlater : (fun root => s.slot.chainId (s.issued + s.slot.issues + root)) =
        fun root => s.slot.chainId (s.issued + (root + 1)) := by
      funext root
      exact s.slot.chainId_after s.issued root
    rw [hlater] at hwalkRest
    refine ⟨_, ?_, .call (begins_spanOpened _ _ label) hwalkInner
      (ends_spanClosed _ _ label outcome) hwalkRest⟩
    rw [hrest, events_noted, hinsides, Recorder.events_openedState]
    simp
  case returned =>
    obtain ⟨within, hwithin, houtcomes, hsame⟩ := hinner.returned
    obtain ⟨later, hlater, houtcomesLater, hsameLater⟩ := hnext.returned
    refine ⟨within ++ ⟨label, s.slot, outcome, (noted label outcome s inside).slot⟩ :: later,
      ?_, ?_, ?_⟩
    · have hnoted : (noted label outcome s inside).data =
          inside.data ++ [⟨label, s.slot, outcome, (noted label outcome s inside).slot⟩] := by
        show (Recorder.closedState _ _ inside).data ++ _ = _
        rw [Recorder.data_closedState]
        rfl
      rw [hlater, hnoted, hwithin, Recorder.data_openedState]
      simp
    · rw [List.map_append, List.map_cons, houtcomes, houtcomesLater]
      rfl
    · intro r hr
      rcases List.mem_append.mp hr with hr | hr
      · exact hsame r hr
      · rcases List.mem_cons.mp hr with rfl | hr
        · exact hslot
        · exact hsameLater r hr

end Ran

/-! ### Runs -/

theorem Forest.run_call (label : String) (inner : Forest α) (outcome : Outcome α)
    (next : Forest α) (s : Session (List (Return α))) :
    (Forest.call label inner outcome next).run s =
      next.run (Ran.noted label outcome s (inner.run (Recorder.openedState label s)).2) := by
  show (let result := Recorder.standard.around label (do inner.run; return outcome) s
    next.run { result.2 with
      data := result.2.data ++ [(⟨label, s.slot, result.1, result.2.slot⟩ : Return α)] }) = _
  rw [Recorder.standard_around_run]
  rfl

theorem ran_run (forest : Forest α) (s : Session (List (Return α))) :
    Ran forest s (forest.run s).2 := by
  -- the calls within a call and those after it start from other states
  induction forest generalizing s with
  | done => exact Ran.done s
  | call label inner outcome next ihInner ihNext =>
    rw [Forest.run_call]
    exact Ran.call (ihInner _) (ihNext _)

/-- **The log of nested calls is their tree.** The calls of a forest tell its
    walk, one level deeper than the slot in which they start. Every outermost
    call and all calls within it tell one id: the active one, else the seed,
    else one of their own that was not issued before. Every call returns its
    own outcome to the slot from which it came. -/
theorem run_tells_tree (forest : Forest α) (s : Session (List (Return α))) :
    ∃ (lines : List Event) (returns : List (Return α)),
      (forest.run s).2.events = s.events ++ lines ∧
      Walk (fun root => s.slot.chainId (s.issued + root)) (s.slot.depth + 1) forest lines ∧
      (forest.run s).2.data = s.data ++ returns ∧
      returns.map (fun r => (r.label, r.outcome)) = forest.outcomes ∧
      (∀ r ∈ returns, r.after = r.before) ∧
      (forest.run s).2.slot = s.slot := by
  have hran := ran_run forest s
  obtain ⟨lines, hlines, hwalk⟩ := hran.told
  obtain ⟨returns, hreturns, houtcomes, hsame⟩ := hran.returned
  exact ⟨lines, returns, hlines, hwalk, hreturns, houtcomes, hsame, hran.sameSlots.slot⟩

example : (((Forest.call "Controller.get" (.call "Service.find" .done
      (.error (.internal "disk full")) .done) (.ok ()) .done).run { data := [] }).2.events.map
        fun line => line.message 0) =
    ["# |--> Controller.get", "# |   |--> Service.find",
     "# |   |<X- Service.find , elapsed=0ms , ex=InternalError internal error: disk full",
     "# |<-- Controller.get , elapsed=0ms"] := by decide

end HolidayApi.Call
