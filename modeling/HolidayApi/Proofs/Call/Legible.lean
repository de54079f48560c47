import HolidayApi.Proofs.Call.Tree
import HolidayApi.Text.Split
import Mathlib.Data.List.Forall2

/-! # The log of nested calls can be read back

    Labels and texts of faults stand in the lines of the log as they are, and
    they may look like any part of a line. Even so, the log tells which calls
    there were:

    1. The bars and the arrow in front of a line are known from the line
       (`front_append_inj`): where another bar could stand there is an arrow,
       and no arrow begins like another one.
    2. So it is known of each line whether a call begins or ends there. The
       first line of a call gives the label, and with the label the last line
       can be cut (`sameLabel_of_begins`, `sameClass_of_ends`).
    3. From line to line, the walk of one forest is then that of another only
       if they have the same calls (`sameCalls_of_walks`).

    The times in the lines are not compared: it is enough that there are times
    with which the lines are equal.
-/

namespace HolidayApi.Call

variable {α β : Type}

/-! ### Fronts of lines -/

/-- The arrows of the lines of a call. -/
inductive Arrow where
  | begins
  | returns
  | fails
  deriving DecidableEq, Repr

/-- The arrow as it stands in a line. -/
def Arrow.text : Arrow → String
  | begins => "--> "
  | returns => "<-- "
  | fails => "<X- "

/-- What stands in front of the label in a line at this level. -/
def front (arrow : Arrow) (level : Nat) : String := Event.bars level ++ arrow.text

theorem toList_bars_one : (Event.bars 1).toList = ['|'] := by decide

/-- For one more call around it a line has one more bar. -/
theorem toList_bars_succ (around : Nat) :
    (Event.bars (around + 2)).toList =
      '|' :: ' ' :: ' ' :: ' ' :: (Event.bars (around + 1)).toList := by
  have hbar : "|   ".toList = ['|', ' ', ' ', ' '] := by decide
  show (String.join (List.replicate (around + 1) "|   ") ++ "|").toList = _
  rw [List.replicate_succ, String.join_cons, String.append_assoc, String.toList_append, hbar]
  rfl

/-- No arrow is the beginning of another one. -/
theorem arrow_append_inj {arrow arrow' : Arrow} {rest rest' : List Char}
    (h : arrow.text.toList ++ rest = arrow'.text.toList ++ rest') :
    arrow = arrow' ∧ rest = rest' := by
  cases arrow <;> cases arrow' <;> simp_all [Arrow.text]

/-- An arrow does not go on like a bar with another bar behind it. -/
theorem arrow_ne_indent (arrow : Arrow) (rest more : List Char) :
    arrow.text.toList ++ rest ≠ ' ' :: more := by
  cases arrow <;> simp [Arrow.text]

theorem bars_append_inj {around around' : Nat} {arrow arrow' : Arrow} {rest rest' : List Char}
    (h : (Event.bars (around + 1)).toList ++ (arrow.text.toList ++ rest) =
      (Event.bars (around' + 1)).toList ++ (arrow'.text.toList ++ rest')) :
    around = around' ∧ arrow = arrow' ∧ rest = rest' := by
  -- as long as both lines have one more bar, it is taken away from both
  induction around generalizing around' with
  | zero =>
    cases around' with
    | zero =>
      have hcut := List.append_cancel_left h
      exact ⟨rfl, arrow_append_inj hcut⟩
    | succ around' =>
      rw [toList_bars_one, toList_bars_succ] at h
      exact absurd (List.cons.inj h).2 (arrow_ne_indent arrow rest _)
  | succ around ih =>
    cases around' with
    | zero =>
      rw [toList_bars_one, toList_bars_succ] at h
      exact absurd (List.cons.inj h).2.symm (arrow_ne_indent arrow' rest' _)
    | succ around' =>
      rw [toList_bars_succ, toList_bars_succ] at h
      simp only [List.cons_append, List.cons.injEq, true_and] at h
      obtain ⟨hsame, harrow, hrest⟩ := ih h
      exact ⟨by rw [hsame], harrow, hrest⟩

/-- **The front of a line is known from the line.** -/
theorem front_append_inj {arrow arrow' : Arrow} {level level' : Nat} (hlevel : 1 ≤ level)
    (hlevel' : 1 ≤ level') {rest rest' : String}
    (h : front arrow level ++ rest = front arrow' level' ++ rest') :
    arrow = arrow' ∧ level = level' ∧ rest = rest' := by
  obtain ⟨around, rfl⟩ : ∃ around, level = around + 1 := ⟨level - 1, by omega⟩
  obtain ⟨around', rfl⟩ : ∃ around', level' = around' + 1 := ⟨level' - 1, by omega⟩
  have hchars := congrArg String.toList h
  simp only [front, String.toList_append, List.append_assoc] at hchars
  obtain ⟨rfl, rfl, hrest⟩ := bars_append_inj hchars
  exact ⟨rfl, rfl, String.toList_inj.mp hrest⟩

/-! ### Lines -/

/-- The arrow of the line where a call with this outcome ends. -/
def Arrow.ofOutcome : Outcome α → Arrow
  | .ok _ => returns
  | .error _ => fails

/-- What the line says after the time. -/
def noteOf : Outcome α → String
  | .ok _ | .error (.known ..) => ""
  | .error fault => " , ex=" ++ fault.kind.name ++ " " ++ fault.text

/-- The line has this front, whatever time it tells. -/
def Draws (line : Event) (arrow : Arrow) (level : Nat) : Prop :=
  ∀ elapsed, ∃ rest, line.message elapsed = "# " ++ (front arrow level ++ rest)

theorem Begins.message_eq {line : Event} {trace : Id} {level : Nat} {label : String}
    (h : Begins line trace level label) (elapsed : Nat) :
    line.message elapsed = "# " ++ (front .begins level ++ label) := by
  rw [h.message elapsed]
  simp only [front, Arrow.text, String.append_assoc]
  rfl

theorem Ends.message_eq {line : Event} {trace : Id} {level : Nat} {label : String}
    {outcome : Outcome α} (h : Ends line trace level label outcome) (elapsed : Nat) :
    line.message elapsed = "# " ++ (front (.ofOutcome outcome) level ++ (label ++ (" , elapsed=" ++
      (String.ofList (Text.decimal elapsed) ++ ("ms" ++ noteOf outcome))))) := by
  rw [h.message elapsed]
  cases outcome with
  | ok value =>
    simp only [front, Arrow.ofOutcome, Arrow.text, noteOf, String.append_assoc]
    rfl
  | error fault =>
    cases fault <;>
      simp only [front, Arrow.ofOutcome, Arrow.text, noteOf, String.append_assoc] <;> rfl

theorem Begins.draws {line : Event} {trace : Id} {level : Nat} {label : String}
    (h : Begins line trace level label) : Draws line .begins level :=
  fun elapsed => ⟨_, h.message_eq elapsed⟩

theorem Ends.draws {line : Event} {trace : Id} {level : Nat} {label : String}
    {outcome : Outcome α} (h : Ends line trace level label outcome) :
    Draws line (.ofOutcome outcome) level :=
  fun elapsed => ⟨_, h.message_eq elapsed⟩

/-- The lines look the same with some times in them. -/
structure SameLine (line line' : Event) : Prop where
  severity : line.severity = line'.severity
  message : ∃ elapsed elapsed', line.message elapsed = line'.message elapsed'

/-- Lines that look the same have the same front. -/
theorem SameLine.draws {line line' : Event} (h : SameLine line line') {arrow arrow' : Arrow}
    {level level' : Nat} (hlevel : 1 ≤ level) (hlevel' : 1 ≤ level')
    (hdraws : Draws line arrow level) (hdraws' : Draws line' arrow' level') :
    arrow = arrow' ∧ level = level' := by
  obtain ⟨elapsed, elapsed', hmessage⟩ := h.message
  obtain ⟨rest, hrest⟩ := hdraws elapsed
  obtain ⟨rest', hrest'⟩ := hdraws' elapsed'
  rw [hrest, hrest'] at hmessage
  obtain ⟨harrow, hsame, _⟩ := front_append_inj hlevel hlevel' (String.append_right_inj _ |>.mp hmessage)
  exact ⟨harrow, hsame⟩

/-- The first line of a call gives its label. -/
theorem sameLabel_of_begins {line line' : Event} (h : SameLine line line') {trace trace' : Id}
    {level : Nat} (hlevel : 1 ≤ level) {label label' : String}
    (hbegins : Begins line trace level label) (hbegins' : Begins line' trace' level label') :
    label = label' := by
  obtain ⟨elapsed, elapsed', hmessage⟩ := h.message
  rw [hbegins.message_eq, hbegins'.message_eq] at hmessage
  exact (front_append_inj hlevel hlevel (String.append_right_inj _ |>.mp hmessage)).2.2

/-- A number in front of another character is known from the text. -/
theorem decimal_append_inj {n n' : Nat} {rest rest' : String}
    (h : String.ofList (Text.decimal n) ++ ("ms" ++ rest) =
      String.ofList (Text.decimal n') ++ ("ms" ++ rest')) : rest = rest' := by
  have hno : ∀ k : Nat, 'm' ∉ Text.decimal k := fun k => Text.not_mem_decimal (by decide) k
  have hms : "ms".toList = ['m', 's'] := by decide
  have hchars := congrArg String.toList h
  simp only [String.toList_append, String.toList_ofList, hms, List.cons_append,
    List.nil_append] at hchars
  -- the number ends at the first `m`
  have hcut := congrArg (Text.cutAt 'm') hchars
  rw [Text.cutAt_append _ (hno n), Text.cutAt_append _ (hno n')] at hcut
  simp only [Option.some.injEq, Prod.mk.injEq, List.cons.injEq, true_and] at hcut
  exact String.toList_inj.mp hcut.2

/-- What is said of two faults differs if their kinds or their texts do. -/
theorem note_inj {fault fault' : Fault}
    (h : " , ex=" ++ fault.kind.name ++ " " ++ fault.text =
      " , ex=" ++ fault'.kind.name ++ " " ++ fault'.text) :
    fault.kind = fault'.kind ∧ fault.text = fault'.text := by
  have hno : ∀ kind : Fault.Kind, ' ' ∉ kind.name.toList := by
    intro kind
    cases kind <;> decide
  have hname : ∀ kind kind' : Fault.Kind, kind.name.toList = kind'.name.toList → kind = kind' := by
    intro kind kind'
    cases kind <;> cases kind' <;> decide
  have hblank : " ".toList = [' '] := by decide
  simp only [String.append_assoc] at h
  have hchars := congrArg String.toList (String.append_right_inj _ |>.mp h)
  simp only [String.toList_append, hblank, List.cons_append, List.nil_append] at hchars
  have hcut := congrArg (Text.cutAt ' ') hchars
  rw [Text.cutAt_append _ (hno _), Text.cutAt_append _ (hno _)] at hcut
  simp only [Option.some.injEq, Prod.mk.injEq] at hcut
  exact ⟨hname _ _ hcut.1, String.toList_inj.mp hcut.2⟩

/-! ### Calls that cannot be told apart -/

/-- Both calls succeed, or both have an expected outcome, or both fail with the
    same words under the same kind. -/
inductive SameClass : Outcome α → Outcome β → Prop where
  | success {value : α} {value' : β} : SameClass (.ok value) (.ok value')
  | expected {fault fault' : Fault} (h : fault.isKnown = true) (h' : fault'.isKnown = true) :
      SameClass (.error fault) (.error fault')
  | failure {fault fault' : Fault} (h : fault.isKnown = false) (h' : fault'.isKnown = false)
      (hkind : fault.kind = fault'.kind) (htext : fault.text = fault'.text) :
      SameClass (.error fault) (.error fault')

/-- The forests have the same shape, and calls at the same place have the same
    label and outcomes of the same class. -/
inductive SameCalls : Forest α → Forest β → Prop where
  | done : SameCalls .done .done
  | call {label : String} {inner next : Forest α} {inner' next' : Forest β}
      {outcome : Outcome α} {outcome' : Outcome β} :
      SameCalls inner inner' → SameClass outcome outcome' → SameCalls next next' →
      SameCalls (.call label inner outcome next) (.call label inner' outcome' next')

theorem noteOf_error (fault : Fault) :
    noteOf (.error fault : Outcome α) =
      if fault.isKnown then "" else " , ex=" ++ fault.kind.name ++ " " ++ fault.text := by
  cases fault <;> rfl

/-- Outcomes of other classes have other arrows or other notes. -/
theorem sameClass_of_note {outcome : Outcome α} {outcome' : Outcome β}
    (harrow : Arrow.ofOutcome outcome = Arrow.ofOutcome outcome')
    (hnote : noteOf outcome = noteOf outcome') : SameClass outcome outcome' := by
  have hempty : ∀ fault : Fault, "" ≠ " , ex=" ++ fault.kind.name ++ " " ++ fault.text := by
    intro fault hsame
    have hchars := congrArg String.toList hsame
    simp at hchars
  cases outcome with
  | ok value =>
    cases outcome' with
    | ok value' => exact .success
    | error fault' => cases harrow
  | error fault =>
    cases outcome' with
    | ok value' => cases harrow
    | error fault' =>
      rw [noteOf_error, noteOf_error] at hnote
      cases hknown : fault.isKnown with
      | true =>
        cases hknown' : fault'.isKnown with
        | true => exact .expected hknown hknown'
        | false =>
          simp only [hknown, hknown', if_true, Bool.false_eq_true, if_false] at hnote
          exact absurd hnote (hempty fault')
      | false =>
        cases hknown' : fault'.isKnown with
        | true =>
          simp only [hknown, hknown', if_true, Bool.false_eq_true, if_false] at hnote
          exact absurd hnote.symm (hempty fault)
        | false =>
          simp only [hknown, hknown', Bool.false_eq_true, if_false] at hnote
          obtain ⟨hkind, htext⟩ := note_inj hnote
          exact .failure hknown hknown' hkind htext

/-- With the label known, the last line of a call gives the class of its
    outcome. -/
theorem sameClass_of_ends {line line' : Event} (h : SameLine line line') {trace trace' : Id}
    {level : Nat} (hlevel : 1 ≤ level) {label : String} {outcome : Outcome α}
    {outcome' : Outcome β} (hends : Ends line trace level label outcome)
    (hends' : Ends line' trace' level label outcome') : SameClass outcome outcome' := by
  obtain ⟨elapsed, elapsed', hmessage⟩ := h.message
  rw [hends.message_eq, hends'.message_eq] at hmessage
  obtain ⟨harrow, _, hrest⟩ :=
    front_append_inj hlevel hlevel (String.append_right_inj _ |>.mp hmessage)
  -- the labels are equal, so they go with what follows them up to the time
  have htime := String.append_right_inj _ |>.mp (String.append_right_inj _ |>.mp hrest)
  exact sameClass_of_note harrow (decimal_append_inj htime)

/-! ### Walks that look the same -/

/-- If anything is left, it begins with a line that begins no call. -/
def BeginsNone (lines : List Event) : Prop :=
  ∀ line, lines.head? = some line →
    ∃ arrow level, arrow ≠ .begins ∧ 1 ≤ level ∧ Draws line arrow level

theorem beginsNone_nil : BeginsNone [] := by
  intro line hline
  cases hline

theorem Ends.beginsNone {line : Event} {trace : Id} {level : Nat} {label : String}
    {outcome : Outcome α} (h : Ends line trace level label outcome) (hlevel : 1 ≤ level)
    (rest : List Event) : BeginsNone (line :: rest) := by
  intro first hfirst
  cases hfirst
  refine ⟨.ofOutcome outcome, level, ?_, hlevel, h.draws⟩
  cases outcome <;> simp [Arrow.ofOutcome]

/-- What begins no call does not look like what begins one. -/
theorem BeginsNone.not_sameLines {lines : List Event} (h : BeginsNone lines) {line : Event}
    {trace : Id} {level : Nat} (hlevel : 1 ≤ level) {label : String}
    (hbegins : Begins line trace level label) (rest : List Event) :
    ¬List.Forall₂ SameLine lines (line :: rest) := by
  intro hsame
  cases hsame with
  | cons hline _ =>
    obtain ⟨arrow, level', harrow, hlevel', hdraws⟩ := h _ rfl
    exact harrow (hline.draws hlevel' hlevel hdraws hbegins.draws).1

theorem SameLine.symm {line line' : Event} (h : SameLine line line') : SameLine line' line := by
  obtain ⟨hseverity, elapsed, elapsed', hmessage⟩ := h
  exact ⟨hseverity.symm, elapsed', elapsed, hmessage.symm⟩

theorem sameLines_symm {lines lines' : List Event} (h : List.Forall₂ SameLine lines lines') :
    List.Forall₂ SameLine lines' lines :=
  h.flip.imp fun _ _ hline => hline.symm

/-- **Walks that look the same are walks of the same calls.** What follows them
    begins no call, so each walk knows where it ends. -/
theorem sameCalls_of_walks {f : Forest α} {g : Forest β} {trace trace' : Nat → Id} {level : Nat}
    (hlevel : 1 ≤ level) {lines lines' : List Event} (hf : Walk trace level f lines)
    (hg : Walk trace' level g lines') {rest rest' : List Event} (hrest : BeginsNone rest)
    (hrest' : BeginsNone rest') (hsame : List.Forall₂ SameLine (lines ++ rest) (lines' ++ rest')) :
    SameCalls f g ∧ List.Forall₂ SameLine rest rest' := by
  induction hf generalizing g trace' lines' rest rest' with
  | done =>
    cases hg with
    | done => exact ⟨.done, hsame⟩
    | call hfirst _ _ _ => exact absurd hsame (hrest.not_sameLines hlevel hfirst _)
  | @call trace level label inner outcome next first insides last later hfirst _ hlast _
      ihInner ihNext =>
    cases hg with
    | done =>
      exact absurd (sameLines_symm hsame) (hrest'.not_sameLines hlevel hfirst _)
    | @call _ _ label' inner' outcome' next' first' insides' last' later' hfirst' hinner' hlast'
        hnext' =>
      simp only [List.cons_append, List.append_assoc, List.forall₂_cons] at hsame
      obtain ⟨hline, hsame⟩ := hsame
      obtain rfl := sameLabel_of_begins hline hlevel hfirst hfirst'
      -- the calls within end where the call itself does
      have hdeeper : 1 ≤ level + 1 := Nat.le_add_left 1 level
      obtain ⟨hcalls, hsame⟩ := ihInner hdeeper hinner' (hlast.beginsNone hlevel _)
        (hlast'.beginsNone hlevel _) hsame
      rw [List.forall₂_cons] at hsame
      have hclass := sameClass_of_ends hsame.1 hlevel hlast hlast'
      obtain ⟨hlater, hleft⟩ := ihNext hlevel hnext' hrest hrest' hsame.2
      exact ⟨.call hcalls hclass hlater, hleft⟩

/-! ### Logs -/

/-- The lines that the calls add to the log. -/
def Forest.told (forest : Forest α) (s : Session (List (Return α))) : List Event :=
  (forest.run s).2.events.drop s.events.length

/-- What is seen of the lines if the `i`-th one tells the time `times i`. -/
def shown (times : Nat → Nat) (lines : List Event) : List (Severity × String) :=
  lines.mapIdx fun i line => (line.severity, line.message (times i))

theorem sameLines_of_shown {times times' : Nat → Nat} {lines lines' : List Event}
    (h : shown times lines = shown times' lines') : List.Forall₂ SameLine lines lines' := by
  unfold shown at h
  induction lines generalizing times times' lines' with
  | nil =>
    cases lines' with
    | nil => exact .nil
    | cons line' rest' => simp at h
  | cons line rest ih =>
    cases lines' with
    | nil => simp at h
    | cons line' rest' =>
      rw [List.mapIdx_cons, List.mapIdx_cons, List.cons.injEq, Prod.mk.injEq] at h
      obtain ⟨⟨hseverity, hmessage⟩, hrest⟩ := h
      exact .cons ⟨hseverity, _, _, hmessage⟩ (ih hrest)

/-- The calls add their walk to the log. -/
theorem walk_told (forest : Forest α) (s : Session (List (Return α))) :
    Walk (fun root => s.slot.chainId (s.issued + root)) (s.slot.depth + 1) forest
      (forest.told s) := by
  obtain ⟨lines, hlines, hwalk⟩ := (ran_run forest s).told
  unfold Forest.told
  rw [hlines, List.drop_left]
  exact hwalk

/-- **The log of nested calls can be read back.** If two forests, run in the same
    slot, add lines to the log that are equal with some times in them, they have
    the same shape, the same labels, and at every call outcomes of the same
    class, whatever stands in labels and texts. The front of a line alone is
    known from the line: which arrow it has, how many bars, and what follows. -/
theorem calls_legible :
    (∀ (f : Forest α) (g : Forest β) (s : Session (List (Return α)))
      (t : Session (List (Return β))), s.slot = t.slot →
      ∀ times times', shown times (f.told s) = shown times' (g.told t) → SameCalls f g) ∧
    ∀ (arrow arrow' : Arrow) (level level' : Nat), 1 ≤ level → 1 ≤ level' →
      ∀ rest rest' : String, front arrow level ++ rest = front arrow' level' ++ rest' →
        arrow = arrow' ∧ level = level' ∧ rest = rest' := by
  constructor
  · intro f g s t hslot times times' hshown
    have hg := walk_told g t
    rw [← hslot] at hg
    have hsame := sameLines_of_shown hshown
    rw [← List.append_nil (f.told s), ← List.append_nil (g.told t)] at hsame
    exact (sameCalls_of_walks (Nat.le_add_left 1 _) (walk_told f s) hg beginsNone_nil
      beginsNone_nil hsame).1
  · intro arrow arrow' level level' hlevel hlevel' rest rest' h
    exact front_append_inj hlevel hlevel' h

/-- Calls with labels that look like other parts of lines. -/
def oddCalls (value : α) (code : Code) : Forest α :=
  .call "a , elapsed=1ms" (.call "|--> b" .done (.error (.known code "gone")) .done) (.ok value)
    (.call "<-- c" .done (.error (.internal "7ms , ex=KnownError ")) .done)

/-- They are known from the log up to the values and the words that it leaves
    out. -/
theorem calls_legible_oddCalls :
    shown (10 * ·) ((oddCalls 1 .notFound).told { data := [] }) =
      shown (10 * ·) ((oddCalls true .illegalState).told { data := [] }) ∧
    SameCalls (oddCalls 1 .notFound) (oddCalls true .illegalState) := by
  have hshown : shown (10 * ·) ((oddCalls 1 .notFound).told { data := [] }) =
      shown (10 * ·) ((oddCalls true .illegalState).told { data := [] }) := by decide +kernel
  exact ⟨hshown, calls_legible.1 _ _ { data := [] } { data := [] } rfl _ _ hshown⟩

end HolidayApi.Call
