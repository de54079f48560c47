import HolidayApi.Access.Guard

/-! # Whom a guard lets through, and what it leaves behind

    A guard over two lists lets through whom either of them admits
    (`admits_withDefaults`); that the second list only gives what the first
    does not hold makes no difference.

    A guard that looks at a caller leaves a trace of its own. The two states
    after it are named here, and a protected call either runs in the first of
    them (`protect_of_admits`) or not at all (`protect_of_rejects`).
-/

namespace HolidayApi.Access

open HolidayApi.Call (Session Work)

variable {σ α : Type}

/-! ### Merged lists -/

namespace AllowList

/-- **What is added** is what is new, in the order in which it appears first. -/
theorem addNew_eq (known new : List Entry) :
    addNew known new = known ++ (new.filter (· ∉ known)).eraseDups := by
  induction new generalizing known with
  | nil => simp [addNew]
  | cons entry rest ih =>
    by_cases hentry : entry ∈ known
    · rw [addNew_cons_known hentry, ih, List.filter_cons_of_neg (by simpa using hentry)]
    · -- from now on the entry is known, and copies of it are left out
      have hfilter : rest.filter (· ∉ known ++ [entry]) =
          (rest.filter (· ∉ known)).filter (fun other => !other == entry) := by
        rw [List.filter_filter]
        refine List.filter_congr fun other _ => ?_
        rw [Bool.eq_iff_iff]
        simp [and_comm]
      rw [addNew_cons_new hentry, ih, List.filter_cons_of_pos (by simpa using hentry),
        List.eraseDups_cons, hfilter, List.append_assoc, List.singleton_append]

theorem mem_addNew {entry : Entry} {known new : List Entry} :
    entry ∈ addNew known new ↔ entry ∈ known ∨ entry ∈ new := by
  rw [addNew_eq, List.mem_append, List.mem_eraseDups, List.mem_filter, decide_eq_true_iff]
  by_cases h : entry ∈ known <;> simp [h]

/-- A merged list admits whom one of the two admits. -/
theorem admits_merged (a b : AllowList) (address : String) :
    (a.merged b).admits address = true ↔ a.admits address = true ∨ b.admits address = true := by
  simp only [admits_iff, merged, mem_addNew]
  constructor
  · intro h
    obtain ⟨entry, hentry, hcovers⟩ := h
    rcases hentry with hentry | hentry
    · exact Or.inl ⟨entry, hentry, hcovers⟩
    · exact Or.inr ⟨entry, hentry, hcovers⟩
  · intro h
    rcases h with ⟨entry, hentry, hcovers⟩ | ⟨entry, hentry, hcovers⟩
    · exact ⟨entry, Or.inl hentry, hcovers⟩
    · exact ⟨entry, Or.inr hentry, hcovers⟩

end AllowList

namespace Guard

theorem admits_withDefaults (configured defaults : AllowList) (address : String) :
    (withDefaults configured defaults).allowed.admits address = true ↔
      configured.admits address = true ∨ defaults.admits address = true :=
  AllowList.admits_merged configured defaults address

end Guard
end HolidayApi.Access

namespace HolidayApi.Call.Session

variable {σ : Type}

/-! ### What a guard leaves behind -/

/-- The state after a guard looked at a caller and let it through. -/
def checked (s : Session σ) (caller : String) : Session σ :=
  { s with told := .callerChecked caller :: s.told }

/-- The state after a guard looked at a caller and turned it away. -/
def rejected (s : Session σ) (caller : String) : Session σ :=
  { s with
    told := .callerRejected caller :: .callerChecked caller :: s.told
    meters := s.meters.countDenial }

end HolidayApi.Call.Session

namespace HolidayApi.Access.Guard

open HolidayApi.Call (Session Work)

variable {σ α : Type} {guard : Guard} {caller : String}

theorem check_of_admits (h : guard.allowed.admits caller = true) (s : Session σ) :
    guard.check caller s = (.ok (), s.checked caller) := by
  unfold check
  rw [h]
  rfl

theorem check_of_rejects (h : guard.allowed.admits caller = false) (s : Session σ) :
    guard.check caller s = (.error (.unauthorizedIp caller), s.rejected caller) := by
  unfold check
  rw [h]
  rfl

/-- A call behind a guard that lets the caller through. -/
theorem protect_of_admits (h : guard.allowed.admits caller = true) (call : Work σ (Outcome α))
    (s : Session σ) : guard.protect caller call s = call (s.checked caller) := by
  unfold protect
  rw [Work.bind_run, check_of_admits h]

/-- A call behind a guard that turns the caller away does not run. -/
theorem protect_of_rejects (h : guard.allowed.admits caller = false) (call : Work σ (Outcome α))
    (s : Session σ) :
    guard.protect caller call s = (.error (.unauthorizedIp caller), s.rejected caller) := by
  unfold protect
  rw [Work.bind_run, check_of_rejects h]
  rfl

end HolidayApi.Access.Guard
