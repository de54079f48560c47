import HolidayApi.Data.Decode
import Mathlib.Data.List.Pairwise
import Mathlib.Data.List.Perm.Basic

/-! # Reading what was written

    A JSON value keeps its members in an order that says nothing. Two values
    that differ in such orders only are `Rearranged`.

    * `Reads d json a`: the decoder reads `a` from the value, in whatever order
      its members stand and in every dialect. There is a rule for each way in
      which decoders are put together.
    * `Ensures d good`: all that the decoder ever reads is good. These rules
      know nothing of values that were written, so they hold of mappings, of
      sequences of fields and of unfinished documents.
-/

namespace HolidayApi.Data

/-! ### The order of members -/

/-- The second value is the first one with the members of objects in some
    other order. -/
inductive Json.Rearranged : Json → Json → Prop where
  | same (json : Json) : Rearranged json json
  | list {items items' : List Json} :
      List.Forall₂ Rearranged items items' → Rearranged (.list items) (.list items')
  | object {members changed members' : List (String × Json)} :
      members.map Prod.fst = changed.map Prod.fst →
      List.Forall₂ Rearranged (members.map Prod.snd) (changed.map Prod.snd) →
      changed.Perm members' → Rearranged (.object members) (.object members')

namespace Json.Rearranged

theorem of_list {items : List Json} {json : Json} (h : Rearranged (.list items) json) :
    ∃ items', json = .list items' ∧ List.Forall₂ Rearranged items items' := by
  cases h with
  | same => exact ⟨items, rfl, List.forall₂_same.mpr fun item _ => .same item⟩
  | list hitems => exact ⟨_, rfl, hitems⟩

/-- A rearranged object has the same members, each of them rearranged. -/
theorem of_object {members : List (String × Json)} {json : Json}
    (h : Rearranged (.object members) json) :
    ∃ ordered members', json = .object members' ∧ members.Perm ordered ∧
      List.Forall₂ (fun m m' => m.1 = m'.1 ∧ Rearranged m.2 m'.2) ordered members' := by
  cases h with
  | same =>
    exact ⟨members, members, rfl, .refl members,
      List.forall₂_same.mpr fun m _ => ⟨rfl, .same m.2⟩⟩
  | @object _ changed members' hkeys hvalues hperm =>
    have hchanged : List.Forall₂ (fun m m' => m.1 = m'.1 ∧ Rearranged m.2 m'.2)
        members changed := by
      clear hperm
      induction members generalizing changed with
      | nil =>
        cases changed with
        | nil => exact .nil
        | cons m' rest' => simp at hkeys
      | cons m rest ih =>
        cases changed with
        | nil => simp at hkeys
        | cons m' rest' =>
          simp only [List.map_cons, List.cons.injEq, List.forall₂_cons] at hkeys hvalues
          exact .cons ⟨hkeys.1, hvalues.1⟩ (ih hkeys.2 hvalues.2)
    -- the order may as well be changed first
    obtain ⟨ordered, hordered, hmembers⟩ :
        Relation.Comp List.Perm (List.Forall₂ fun m m' => m.1 = m'.1 ∧ Rearranged m.2 m'.2)
          members members' := by
      rw [← List.forall₂_comp_perm_eq_perm_comp_forall₂]
      exact ⟨changed, hchanged, hperm⟩
    exact ⟨ordered, members', rfl, hordered, hmembers⟩

end Json.Rearranged

namespace Decoder

variable {σ α : Type}

/-- The decoder reads this from the value, however its members are ordered. -/
def Reads (d : Decoder α) (json : Json) (a : α) : Prop :=
  ∀ json', json.Rearranged json' → ∀ dialect, d dialect json'.datum = .ok a

/-! ### Simple values and lists -/

theorem reads_text (t : String) : Reads text (.text t) t := by
  intro json' h dialect
  cases h
  rfl

theorem reads_boolean (b : Bool) : Reads boolean (.bool b) b := by
  intro json' h dialect
  cases h
  rfl

theorem reads_natural {expected : String} {n : Nat} (h : n ≤ Text.max64) :
    Reads (natural expected) (.nat n) n := by
  intro json' hsame dialect
  have hrange : (0 : Int) ≤ n ∧ (n : Int) ≤ Text.max64 := by omega
  cases hsame
  show (if (0 : Int) ≤ n ∧ (n : Int) ≤ Text.max64 then Except.ok (n : Int).toNat else _) = _
  rw [if_pos hrange]
  rfl

theorem reads_choice {known : List (String × α)} {name : String} {a : α}
    (h : known.lookup name = some a) : Reads (choice known) (.text name) a := by
  intro json' hsame dialect
  cases hsame
  cases dialect <;> simp [choice, Json.datum, h]

/-- Items are read one after another, put behind those before them. -/
theorem itemsFrom_ok {d : Decoder α} {dialect : Dialect} {items : List Json} {as : List α}
    (h : List.Forall₂ (fun item a => d dialect item.datum = .ok a) items as) (read : List α)
    (i : Nat) :
    itemsFrom d dialect read i (Json.itemData items) = .ok (read.reverse ++ as) := by
  induction h generalizing read i with
  | nil => simp [itemsFrom, Json.itemData]
  | @cons item a rest as hitem hrest ih =>
    have hunder : under (.index i) (d dialect item.datum) = .ok a := by
      rw [hitem]
      rfl
    unfold Json.itemData itemsFrom
    simp [hunder, ih]

theorem reads_list {d : Decoder α} {items : List Json} {as : List α}
    (h : List.Forall₂ (Reads d) items as) : Reads (list d) (.list items) as := by
  intro json' hsame dialect
  obtain ⟨items', rfl, hitems⟩ := hsame.of_list
  have hread : List.Forall₂ (fun item a => d dialect item.datum = .ok a) items' as := by
    clear hsame
    induction hitems generalizing as with
    | nil =>
      cases h
      exact .nil
    | cons hitem _ ih =>
      cases h with
      | cons hreads hrest => exact .cons (hreads _ hitem dialect) (ih hrest)
  show (do
    let values ← itemsFrom d dialect [] 0 (Json.itemData items')
    if true then .ok values else .error .malformed) = _
  rw [itemsFrom_ok hread]
  rfl

/-! ### Records -/

/-- A member of a record: its key and value, and what reading it changes in
    the unfinished record. -/
structure Member (σ : Type) where
  key : String
  value : Json
  change : σ → σ

/-- The members as they are written. -/
def written (members : List (Member σ)) : Json := .object (members.map fun m => (m.key, m.value))

/-- The unfinished record after these members were read. -/
def readAll (members : List (Member σ)) (start : σ) : σ :=
  members.foldl (fun s m => m.change s) start

/-- The field is that of the member, and reads its value. -/
structure Fits (field : Field σ) (m : Member σ) : Prop where
  name : field.name = m.key
  set : ∀ json', m.value.Rearranged json' → ∀ dialect s,
    field.set dialect json'.datum s = .ok (m.change s)

/-- A field whose value is put at its place fits a member with that value. -/
theorem fits_of {get : σ → Option α} {put : σ → α → σ} {d : Decoder α} {value : Json} {a : α}
    (name : String) (h : d.Reads value a) :
    Fits (.of name get put d) ⟨name, value, fun s => put s a⟩ := by
  refine ⟨rfl, ?_⟩
  intro json' hsame dialect s
  show (d dialect json'.datum).map (put s) = .ok (put s a)
  rw [h json' hsame dialect]
  rfl

/-- Each field is set by the member with its name, and by no other. -/
structure Apart (fields : List (Field σ)) (members : List (Member σ)) (start : σ) : Prop where
  unset : ∀ field ∈ fields, field.isSet start = false
  others : ∀ field ∈ fields, ∀ m ∈ members, field.name ≠ m.key → ∀ s,
    field.isSet (m.change s) = field.isSet s

theorem find?_field {fields : List (Field σ)} (h : (fields.map Field.name).Nodup) {field : Field σ}
    (hfield : field ∈ fields) :
    (fields.find? fun other => other.name == field.name) = some field := by
  induction fields with
  | nil => simp at hfield
  | cons first rest ih =>
    rw [List.map_cons, List.nodup_cons] at h
    rcases List.mem_cons.mp hfield with rfl | hrest
    · simp
    · have hne : first.name ≠ field.name := by
        intro heq
        exact h.1 (heq ▸ List.mem_map_of_mem hrest)
      simp [hne, ih h.2 hrest]

/-- What stands in one of two related lists has its counterpart in the other. -/
theorem exists_related {β γ : Type} {R : β → γ → Prop} {xs : List β} {ys : List γ}
    (h : List.Forall₂ R xs ys) {x : β} (hx : x ∈ xs) : ∃ y ∈ ys, R x y := by
  induction h with
  | nil => simp at hx
  | @cons first y rest ys hfirst _ ih =>
    rcases List.mem_cons.mp hx with rfl | hx
    · exact ⟨y, List.mem_cons_self, hfirst⟩
    · obtain ⟨found, hfound, hrelated⟩ := ih hx
      exact ⟨found, List.mem_cons_of_mem y hfound, hrelated⟩

/-- Members whose fields are not set yet are read one after another. -/
theorem fromEntries_ok {shape : Shape σ α} {dialect : Dialect}
    {members : List (Member σ)} {entries : List (String × Json)}
    (hnames : (shape.fields.map Field.name).Nodup) (hkeys : (members.map Member.key).Nodup)
    (hfits : ∀ m ∈ members, ∃ field ∈ shape.fields, Fits field m)
    (hothers : ∀ field ∈ shape.fields, ∀ m ∈ members, field.name ≠ m.key → ∀ s,
      field.isSet (m.change s) = field.isSet s)
    (hentries : List.Forall₂ (fun m entry => m.key = entry.1 ∧ m.value.Rearranged entry.2)
      members entries)
    {s : σ} (hunset : ∀ m ∈ members, ∀ field ∈ shape.fields, field.name = m.key →
      field.isSet s = false) :
    shape.fromEntries dialect (Json.memberData entries) s = .ok (readAll members s) := by
  induction hentries generalizing s with
  | nil => rfl
  | @cons m entry rest entries hentry _ ih =>
    obtain ⟨key, value⟩ := entry
    obtain ⟨rfl, hvalue⟩ : m.key = key ∧ m.value.Rearranged value := hentry
    obtain ⟨field, hfield, hfits'⟩ := hfits m List.mem_cons_self
    rw [List.map_cons, List.nodup_cons] at hkeys
    have hfind : (shape.fields.find? fun other => other.name == m.key) = some field := by
      rw [← hfits'.name]
      exact find?_field hnames hfield
    have hnew : field.isSet s = false := hunset m List.mem_cons_self field hfield hfits'.name
    have hset : under (.field m.key) (field.set dialect value.datum s) = .ok (m.change s) := by
      rw [hfits'.set value hvalue dialect s]
      rfl
    unfold Json.memberData Shape.fromEntries
    simp only [hfind, hnew, hset]
    -- the keys still to come are others, so their fields are not set by this member
    refine ih hkeys.2 (fun m' hm' => hfits m' (List.mem_cons_of_mem m hm'))
      (fun f hf m' hm' => hothers f hf m' (List.mem_cons_of_mem m hm')) ?_
    intro m' hm' other hother hname
    have hne : other.name ≠ m.key := by
      intro heq
      exact hkeys.1 (heq ▸ hname ▸ List.mem_map_of_mem hm')
    rw [hothers other hother m List.mem_cons_self hne]
    exact hunset m' (List.mem_cons_of_mem m hm') other hother hname

/-- What is in another order after a change was in another order before it. -/
theorem exists_perm_of_map {β γ : Type} {f : β → γ} {xs : List β} {ys : List γ}
    (h : (xs.map f).Perm ys) : ∃ ordered, xs.Perm ordered ∧ ordered.map f = ys := by
  have hsame : List.Forall₂ (fun x y => f x = y) xs (xs.map f) :=
    List.forall₂_map_right_iff.mpr (List.forall₂_same.mpr fun x _ => rfl)
  obtain ⟨ordered, hordered, hys⟩ :
      Relation.Comp List.Perm (List.Forall₂ fun x y => f x = y) xs ys := by
    rw [← List.forall₂_comp_perm_eq_perm_comp_forall₂]
    exact ⟨_, hsame, h⟩
  refine ⟨ordered, hordered, ?_⟩
  rw [← List.forall₂_eq_eq_eq, List.forall₂_map_left_iff]
  exact hys

/-- A record is read from its members in any order. -/
theorem reads_record {shape : Shape σ α} {members : List (Member σ)} {a : α}
    (hfits : List.Forall₂ Fits shape.fields members) (hkeys : (members.map Member.key).Nodup)
    (hapart : Apart shape.fields members shape.start)
    (hfinish : ∀ ordered, members.Perm ordered →
      shape.finish (readAll ordered shape.start) = .ok a) :
    Reads shape.decoder (written members) a := by
  intro json' hsame dialect
  obtain ⟨placed, entries, rfl, hplaced, hentries⟩ := hsame.of_object
  obtain ⟨ordered, hordered, rfl⟩ := exists_perm_of_map hplaced
  have hnames : shape.fields.map Field.name = members.map Member.key := by
    have hequal : List.Forall₂ (fun (f : Field σ) (m : Member σ) => f.name = m.key)
        shape.fields members := hfits.imp fun f m h => h.name
    rw [← List.forall₂_eq_eq_eq, List.forall₂_map_left_iff, List.forall₂_map_right_iff]
    exact hequal
  have hread : shape.fromEntries dialect (Json.memberData entries) shape.start =
      .ok (readAll ordered shape.start) := by
    refine fromEntries_ok (hnames ▸ hkeys) ((hordered.map Member.key).nodup hkeys) ?_ ?_
      (List.forall₂_map_left_iff.mp hentries) ?_
    · intro m hm
      exact exists_related hfits.flip (hordered.mem_iff.mpr hm)
    · intro field hfield m hm
      exact hapart.others field hfield m (hordered.mem_iff.mpr hm)
    · intro m _ field hfield _
      exact hapart.unset field hfield
  have hclose : shape.close (readAll ordered shape.start) = .ok a := by
    unfold Shape.close
    rw [hfinish ordered hordered]
  show (do
    let s ← shape.fromEntries dialect (Json.memberData entries) shape.start
    if true then shape.close s else .error .malformed) = _
  rw [hread]
  exact hclose

/-- A member that names no field is passed over. -/
theorem decoder_skip {shape : Shape σ α} {key : String}
    (hkey : ∀ field ∈ shape.fields, field.name ≠ key) {datum : Datum} (hwhole : datum.isWhole = true)
    (dialect : Dialect) (entries : List (Option String × Datum)) (whole : Bool) :
    shape.decoder dialect (.mapping ((some key, datum) :: entries) whole) =
      shape.decoder dialect (.mapping entries whole) := by
  have hnone : (shape.fields.find? fun field => field.name == key) = none := by
    rw [List.find?_eq_none]
    intro field hfield
    simp [hkey field hfield]
  have hentries : shape.fromEntries dialect ((some key, datum) :: entries) shape.start =
      shape.fromEntries dialect entries shape.start := by
    conv =>
      lhs
      unfold Shape.fromEntries
    simp only [hnone, hwhole, if_true]
  simp only [Shape.decoder, hentries]

/-- It makes no difference which of the two members is read first. -/
def Member.Commutes (m m' : Member σ) : Prop := ∀ s, m.change (m'.change s) = m'.change (m.change s)

instance : Std.Symm (Member.Commutes (σ := σ)) := ⟨fun _ _ h s => (h s).symm⟩

theorem readAll_perm {members ordered : List (Member σ)} (h : members.Perm ordered)
    (hcomm : members.Pairwise Member.Commutes) (start : σ) :
    readAll ordered start = readAll members start := by
  have hall : ∀ m ∈ members, ∀ m' ∈ members, m'.Commutes m := by
    intro m hm m' hm'
    exact hcomm.forall_of_forall (fun m _ s => rfl) hm' hm
  exact (h.foldl_eq' (fun m hm m' hm' s => hall m hm m' hm' s) start).symm

/-! ### What decoders can read -/

/-- All that the decoder reads, from whatever data, is good. -/
def Ensures (d : Decoder α) (good : α → Prop) : Prop :=
  ∀ dialect datum a, d dialect datum = .ok a → good a

/-- A mismatch gives nothing. -/
theorem mismatch_ne_ok (dialect : Dialect) (datum : Datum) (expected : String) (a : α) :
    mismatch dialect datum expected ≠ .ok a := by
  unfold mismatch
  cases datum.described dialect with
  | some found => simp [fail]
  | none => simp

theorem under_eq_ok {segment : Segment} {outcome : Decoded α} {a : α}
    (h : under segment outcome = .ok a) : outcome = .ok a := by
  unfold under at h
  split at h
  · cases h
  · exact h

theorem ensures_natural (expected : String) : Ensures (natural expected) (· ≤ Text.max64) := by
  intro dialect datum n h
  simp only [natural] at h
  split at h
  · next k =>
    split at h
    · next hrange =>
      cases h
      show k.toNat ≤ Text.max64
      omega
    · cases h
  · exact absurd h (mismatch_ne_ok _ _ _ _)

theorem ensures_itemsFrom {d : Decoder α} {good : α → Prop} (hd : Ensures d good)
    {dialect : Dialect} {items : List Datum} {read as : List α} {i : Nat}
    (hread : ∀ a ∈ read, good a) (h : itemsFrom d dialect read i items = .ok as) :
    ∀ a ∈ as, good a := by
  induction items generalizing read i with
  | nil =>
    cases h
    intro a ha
    exact hread a (List.mem_reverse.mp ha)
  | cons datum rest ih =>
    unfold itemsFrom at h
    split at h
    · next value hvalue =>
      refine ih ?_ h
      intro a ha
      rcases List.mem_cons.mp ha with rfl | ha
      · exact hd _ _ _ (under_eq_ok hvalue)
      · exact hread a ha
    · cases h

theorem ensures_list {d : Decoder α} {good : α → Prop} (hd : Ensures d good) :
    Ensures (list d) fun as => ∀ a ∈ as, good a := by
  intro dialect datum as h
  simp only [list] at h
  split at h
  · next items whole =>
    cases hitems : itemsFrom d dialect [] 0 items with
    | error e =>
      rw [hitems] at h
      cases h
    | ok values =>
      rw [hitems] at h
      cases whole with
      | false => cases h
      | true =>
        cases h
        exact ensures_itemsFrom hd (by simp) hitems
  · next items => exact ensures_itemsFrom hd (by simp) h
  · exact absurd h (mismatch_ne_ok _ _ _ _)

/-- Setting the field keeps what holds of the unfinished record. -/
def Field.Keeps (field : Field σ) (invariant : σ → Prop) : Prop :=
  ∀ dialect datum s s', invariant s → field.set dialect datum s = .ok s' → invariant s'

/-- A field keeps it whose values are good and are put at their place. -/
theorem keeps_of_good {field : Field σ} {d : Decoder α} {invariant : σ → Prop} {good : α → Prop}
    (put : σ → α → σ) (hd : Ensures d good)
    (hput : ∀ s a, invariant s → good a → invariant (put s a))
    (hset : ∀ dialect datum s, field.set dialect datum s = (d dialect datum).map (put s)) :
    field.Keeps invariant := by
  intro dialect datum s s' hs h
  rw [hset] at h
  cases hread : d dialect datum with
  | error e =>
    rw [hread] at h
    cases h
  | ok a =>
    rw [hread] at h
    cases h
    exact hput s a hs (hd dialect datum a hread)

section Record

variable {shape : Shape σ α} {invariant : σ → Prop}
  (hfields : ∀ field ∈ shape.fields, field.Keeps invariant)
include hfields

theorem invariant_fromEntries {dialect : Dialect} {entries : List (Option String × Datum)}
    {s s' : σ} (hs : invariant s) (h : shape.fromEntries dialect entries s = .ok s') :
    invariant s' := by
  induction entries generalizing s with
  | nil =>
    cases h
    exact hs
  | cons entry rest ih =>
    obtain ⟨key, datum⟩ := entry
    cases key with
    | none => cases h
    | some key =>
      unfold Shape.fromEntries at h
      split at h
      · -- no field has this key
        split at h
        · exact ih hs h
        · cases h
      · next field hfield =>
        -- a field that is set already is refused, and so is a value that cannot be read
        split at h
        · cases h
        · split at h
          · next t ht =>
            have hmem : field ∈ shape.fields := List.mem_of_find?_eq_some hfield
            exact ih (hfields field hmem _ _ _ _ hs (under_eq_ok ht)) h
          · cases h

theorem invariant_fromItems {dialect : Dialect} {whole : Bool} {fields : List (Field σ)}
    (hsub : ∀ field ∈ fields, field ∈ shape.fields) {i : Nat} {items rest : List Datum} {s s' : σ}
    (hs : invariant s) (h : shape.fromItems dialect whole fields i items s = .ok (s', rest)) :
    invariant s' := by
  induction fields generalizing i items s with
  | nil =>
    cases h
    exact hs
  | cons field fields ih =>
    cases items with
    | nil =>
      -- what is left out keeps its default
      unfold Shape.fromItems at h
      split at h
      · cases h
      · split at h
        · cases h
          exact hs
        · cases h
    | cons datum items =>
      unfold Shape.fromItems at h
      split at h
      · next t ht =>
        have hmem : field ∈ shape.fields := hsub field List.mem_cons_self
        exact ih (fun f hf => hsub f (List.mem_cons_of_mem field hf))
          (hfields field hmem _ _ _ _ hs (under_eq_ok ht)) h
      · cases h

variable {good : α → Prop} (hstart : invariant shape.start)
  (hfinish : ∀ s a, invariant s → shape.finish s = .ok a → good a)
include hfinish

omit hfields in
theorem good_close {s : σ} {a : α} (hs : invariant s) (h : shape.close s = .ok a) : good a := by
  unfold Shape.close at h
  split at h
  · next value hvalue =>
    cases h
    exact hfinish s _ hs hvalue
  · cases h

include hstart

theorem good_fromSequence {dialect : Dialect} {items : List Datum} {whole : Bool} {a : α}
    (h : shape.fromSequence dialect items whole = .ok a) : good a := by
  unfold Shape.fromSequence at h
  cases hitems : shape.fromItems dialect whole shape.fields 0 items shape.start with
  | error e =>
    rw [hitems] at h
    cases h
  | ok result =>
    obtain ⟨s, rest⟩ := result
    have hs : invariant s := invariant_fromItems hfields (fun _ hf => hf) hstart hitems
    rw [hitems] at h
    cases hclose : shape.close s with
    | error e =>
      simp only [hclose, bind, Except.bind] at h
      cases h
    | ok value =>
      simp only [hclose, bind, Except.bind] at h
      have hvalue : value = a := by
        split at h
        · exact Except.ok.inj h
        · exact Except.ok.inj h
        · cases h
        · cases h
      exact hvalue ▸ good_close hfinish hs hclose

/-- **A record** is good if each of its fields keeps what makes it so. -/
theorem ensures_record : Ensures shape.decoder good := by
  intro dialect datum a h
  simp only [Shape.decoder] at h
  split at h
  · -- a mapping
    next entries whole =>
    cases hentries : shape.fromEntries dialect entries shape.start with
    | error e =>
      rw [hentries] at h
      cases h
    | ok s =>
      rw [hentries] at h
      cases whole with
      | false => cases h
      | true => exact good_close hfinish (invariant_fromEntries hfields hstart hentries) h
  · exact good_fromSequence hfields hstart hfinish h
  · exact good_fromSequence hfields hstart hfinish h
  · exact good_close hfinish hstart h
  · exact absurd h (mismatch_ne_ok _ _ _ _)

end Record

end Decoder
end HolidayApi.Data
