import HolidayApi.Proofs.Access.Admission

/-! # Merged allow lists

    Merging walks over the second list and adds what the list so far does not
    hold, so an entry that the second list repeats is added once. What comes
    out has a closed form, the first list followed by the new entries
    (`addNew_eq`). The walk over one list after another is the walk over both
    (`addNew_append`), and that the second list was itself made by merging
    makes no difference (`addNew_addNew`): hence merging is associative.

    `merged_laws` collects what follows for lists and guards.
-/

namespace HolidayApi.Access

namespace AllowList

/-! ### The walk over the second list -/

/-- Where nothing is new nothing is added. -/
theorem addNew_of_subset {known new : List Entry} (h : new ⊆ known) : addNew known new = known := by
  have hnone : new.filter (· ∉ known) = [] := by
    rw [List.filter_eq_nil_iff]
    intro entry hentry
    simpa using h hentry
  rw [addNew_eq, hnone, List.eraseDups_nil, List.append_nil]

theorem addNew_append (known first second : List Entry) :
    addNew known (first ++ second) = addNew (addNew known first) second := by
  induction first generalizing known with
  | nil => rfl
  | cons entry rest ih =>
    rw [List.cons_append]
    by_cases hentry : entry ∈ known
    · rw [addNew_cons_known hentry, addNew_cons_known hentry, ih]
    · rw [addNew_cons_new hentry, addNew_cons_new hentry, ih]

/-- The copies that an earlier walk left out would have been left out anyway. -/
theorem addNew_addNew (known first second : List Entry) :
    addNew known (addNew first second) = addNew known (first ++ second) := by
  induction second generalizing first with
  | nil => rw [addNew, List.append_nil]
  | cons entry rest ih =>
    by_cases hentry : entry ∈ first
    · have hknown : entry ∈ addNew known first := mem_addNew.mpr (.inr hentry)
      rw [addNew_cons_known hentry, ih, addNew_append, addNew_append known first (entry :: rest),
        addNew_cons_known hknown]
    · rw [addNew_cons_new hentry, ih, List.append_assoc, List.singleton_append]

/-! ### The laws -/

/-- **Merging is union in a stable order.** The merged list admits whom one of
    the two lists admits, and a guard over a configured and a default list lets
    through these callers and turns away all others, so the defaults cannot be
    shut out. The entries of the first list come first and as they were, then
    those of the second that are new, each once and where it appears first.
    Merging is associative, merging again or with itself adds nothing, and
    nothing is added by the empty list. -/
theorem merged_laws {σ : Type} (a b c : AllowList) :
    (∀ address : String,
      ((a.merged b).admits address = true ↔
        a.admits address = true ∨ b.admits address = true) ∧
      ∀ s : Call.Session σ, ((Guard.withDefaults a b).check address s).1 =
        if a.admits address = true ∨ b.admits address = true then .ok ()
        else .error (.unauthorizedIp address)) ∧
    (a.merged b).entries = a.entries ++ (b.entries.filter (· ∉ a.entries)).eraseDups ∧
    (a.merged b).merged c = a.merged (b.merged c) ∧
    a.merged a = a ∧
    (a.merged b).merged b = a.merged b ∧
    a.merged empty = a := by
  refine ⟨?_, addNew_eq _ _, ?_, ?_, ?_, rfl⟩
  · intro address
    refine ⟨admits_merged a b address, fun s => ?_⟩
    have hguard := Guard.admits_withDefaults a b address
    split
    · next hadmits => rw [Guard.check_of_admits (hguard.mpr hadmits)]
    · next hrejects =>
      have hdenied : (Guard.withDefaults a b).allowed.admits address = false :=
        Bool.eq_false_iff.mpr fun h => hrejects (hguard.mp h)
      rw [Guard.check_of_rejects hdenied]
  · unfold merged
    rw [addNew_addNew, addNew_append]
  · unfold merged
    rw [addNew_of_subset (List.Subset.refl _)]
  · unfold merged
    rw [addNew_of_subset fun entry hentry => mem_addNew.mpr (.inr hentry)]

end AllowList

end HolidayApi.Access
