import HolidayApi.Call.Registry
import HolidayApi.Proofs.Access.Admission

/-! # What surrounds a call leaves the data alone

    Guards and spans tell events, count and move the trace slot. None of that
    touches the data, so a call that passes its guards does to the data what
    it does on its own (`surround_admitted`), and a caller who is turned away
    leaves the data as it was (`surround_rejected`).
-/

namespace HolidayApi.Call

open HolidayApi.Access (Guard)

variable {σ α β : Type}

/-! ### Work that leaves the data alone -/

/-- The work leaves the data alone. -/
def Work.KeepsData (work : Work σ α) : Prop := ∀ s, (work s).2.data = s.data

namespace Work.KeepsData

theorem of_pure (a : α) : KeepsData (pure a : Work σ α) := fun _ => rfl

theorem bind {work : Work σ α} {next : α → Work σ β} (h : KeepsData work)
    (hnext : ∀ a, KeepsData (next a)) : KeepsData (work >>= next) := by
  intro s
  rw [Work.bind_run, hnext, h]

theorem tell (event : Event) : KeepsData (Work.tell event : Work σ Unit) := fun _ => rfl

theorem tellAll (event : β → Event) (bs : List β) :
    KeepsData (bs.forM fun b => Work.tell (event b) : Work σ PUnit) := by
  induction bs with
  | nil => exact of_pure _
  | cons b rest ih => exact bind (tell _) fun _ => ih

end Work.KeepsData

/-- A scope changes where the work runs, not what it does to the data. -/
theorem Work.data_inScope (seed : Option Id) (work : Work σ α) (s : Session σ) :
    (Work.inScope seed work s).1 = (work (s.enter { seed })).1 ∧
    (Work.inScope seed work s).2.data = (work (s.enter { seed })).2.data := ⟨rfl, rfl⟩

/-! ### Spans -/

/-- Neither opening nor closing a span touches the data. -/
structure Recorder.KeepsData (r : Recorder σ) : Prop where
  opened : ∀ label, Work.KeepsData (r.opened label)
  closed : ∀ span fault, Work.KeepsData (r.closed span fault)

theorem Recorder.keepsData_standard : (standard : Recorder σ).KeepsData where
  opened label := by
    intro s
    exact Session.data_setSlot s _
  closed span fault := by
    intro s
    exact Session.data_setSlot _ _

/-- A call in a span runs on the same data, and its outcome is handed on. -/
theorem Recorder.around_data {r : Recorder σ} (hr : r.KeepsData) (label : String)
    (call : Work σ (Outcome α)) (s : Session σ) :
    ∃ s₁ : Session σ, s₁.data = s.data ∧ (r.around label call s).1 = (call s₁).1 ∧
      (r.around label call s).2.data = (call s₁).2.data := by
  refine ⟨(r.opened label s).2, hr.opened label s, rfl, ?_⟩
  exact hr.closed _ _ _

/-! ### Guards -/

/-- A call behind a guard that lets the caller through. -/
theorem protect_admitted {guard : Guard} {caller : String}
    (h : guard.allowed.admits caller = true) (call : Work σ (Outcome α)) (s : Session σ) :
    ∃ s₁ : Session σ, s₁.data = s.data ∧ guard.protect caller call s = call s₁ :=
  ⟨s.checked caller, rfl, Guard.protect_of_admits h call s⟩

/-- A call behind a guard that turns the caller away. -/
theorem protect_rejected {guard : Guard} {caller : String}
    (h : ¬ guard.allowed.admits caller = true) (call : Work σ (Outcome α)) (s : Session σ) :
    (guard.protect caller call s).1 = .error (.unauthorizedIp caller) ∧
    (guard.protect caller call s).2.data = s.data := by
  rw [Guard.protect_of_rejects (Bool.eq_false_iff.mpr h)]
  exact ⟨rfl, rfl⟩

/-! ### Advices -/

namespace Registry

variable {recorder : Recorder σ} {caller : String} {advices : List Advice}

/-- Every guard among the advices lets the caller through. -/
def Admits (advices : List Advice) (caller : String) : Prop :=
  ∀ guard ∈ advices.filterMap Advice.guard?, guard.allowed.admits caller = true

theorem surround_admitted (hr : recorder.KeepsData) (operation : String)
    (hadm : Admits advices caller) (call : Work σ (Outcome α)) (s : Session σ) :
    ∃ s₁ : Session σ, s₁.data = s.data ∧
      (surround recorder operation caller call advices s).1 = (call s₁).1 ∧
      (surround recorder operation caller call advices s).2.data = (call s₁).2.data := by
  induction advices generalizing s with
  | nil => exact ⟨s, rfl, rfl, rfl⟩
  | cons advice rest ih =>
    cases advice with
    | checkCaller guard =>
      have hguard : guard.allowed.admits caller = true := hadm guard (by simp [Advice.guard?])
      have hrest : Admits rest caller := fun g hg => hadm g (by simp [Advice.guard?, hg])
      -- the guard only counts and tells; the rest runs on the same data
      obtain ⟨s₁, hs₁, hrun⟩ := protect_admitted hguard
        (surround recorder operation caller call rest) s
      obtain ⟨s₂, hs₂, hresult, hdata⟩ := ih hrest s₁
      simp only [surround, hrun]
      exact ⟨s₂, hs₂.trans hs₁, hresult, hdata⟩
    | traceCall =>
      have hrest : Admits rest caller := fun g hg => hadm g (by simpa [Advice.guard?] using hg)
      obtain ⟨s₁, hs₁, hresult₁, hdata₁⟩ := recorder.around_data hr operation
        (surround recorder operation caller call rest) s
      obtain ⟨s₂, hs₂, hresult₂, hdata₂⟩ := ih hrest s₁
      exact ⟨s₂, hs₂.trans hs₁, hresult₁.trans hresult₂, hdata₁.trans hdata₂⟩

/-- A call that is let through and comes to a change of the data makes this
    change on the data as they are. -/
theorem surround_changes (hr : recorder.KeepsData) (operation : String)
    (hadm : Admits advices caller) (change : σ → Outcome α × σ) {call : Work σ (Outcome α)}
    (hcall : ∀ s : Session σ,
      call s = ((change s.data).1, { s with data := (change s.data).2 })) (s : Session σ) :
    (surround recorder operation caller call advices s).1 = (change s.data).1 ∧
    (surround recorder operation caller call advices s).2.data = (change s.data).2 := by
  obtain ⟨s₁, hdata, hresult, hfinal⟩ := surround_admitted hr operation hadm call s
  rw [hcall, hdata] at hresult hfinal
  exact ⟨hresult, hfinal⟩

theorem surround_rejected (hr : recorder.KeepsData) (operation : String)
    (hadm : ¬ Admits advices caller) (call : Work σ (Outcome α)) (s : Session σ) :
    (surround recorder operation caller call advices s).1 = .error (.unauthorizedIp caller) ∧
    (surround recorder operation caller call advices s).2.data = s.data := by
  induction advices generalizing s with
  | nil => exact absurd (fun _ hg => by simp at hg) hadm
  | cons advice rest ih =>
    cases advice with
    | checkCaller guard =>
      by_cases hguard : guard.allowed.admits caller = true
      · -- this guard lets the caller through, so a later one does not
        have hrest : ¬ Admits rest caller := fun h => hadm fun g hg => by
          simp only [List.filterMap_cons, Advice.guard?, List.mem_cons] at hg
          rcases hg with rfl | hg
          · exact hguard
          · exact h g hg
        obtain ⟨s₁, hs₁, hrun⟩ := protect_admitted hguard
          (surround recorder operation caller call rest) s
        simp only [surround, hrun, ← hs₁]
        exact ih hrest s₁
      · exact protect_rejected hguard _ s
    | traceCall =>
      have hrest : ¬ Admits rest caller := fun h => hadm fun g hg =>
        h g (by simpa [Advice.guard?] using hg)
      obtain ⟨s₁, hs₁, hresult, hdata⟩ := recorder.around_data hr operation
        (surround recorder operation caller call rest) s
      obtain ⟨herror, hsame⟩ := ih hrest s₁
      exact ⟨hresult.trans herror, hdata.trans (hsame.trans hs₁)⟩

end Registry

/-- Building the registry only tells of its operations. -/
theorem Declarations.keepsData_build (d : Declarations) (recorder : Recorder σ) :
    (d.build recorder).KeepsData := by
  unfold build
  exact Work.KeepsData.bind (Work.KeepsData.tellAll _ _) fun _ => Work.KeepsData.of_pure _

end HolidayApi.Call
