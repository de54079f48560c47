import HolidayApi.Stop.Channel
import Mathlib.Data.List.Basic

/-! # What a receiver hears and where it stands

    A receiver hears by what it has not seen: a signal where that is one, a lag
    where it is more, and otherwise whether there are coordinators (`signal_iff`
    and its like). Hearing moves that receiver alone (`lookup_advance`,
    `lookup_receive_ne`), and after a lag one signal is left
    (`unseen_of_lagged`).
-/

namespace HolidayApi.Stop

/-! ### Numbered parties -/

section Numbered

variable {β : Type}

theorem lookup_front (l : List (Nat × β)) (r q : Nat) (x : β) :
    ((r, x) :: l).lookup q = if q = r then some x else l.lookup q := by
  rw [List.lookup_cons]
  by_cases hq : q = r
  · simp [hq]
  · have hne : (q == r) = false := beq_eq_false_iff_ne.mpr hq
    rw [hne, if_neg hq]

/-- A change at one number is seen at that number only. -/
theorem lookup_mapAt (l : List (Nat × β)) (k : Nat) (f : β → β) (q : Nat) :
    (l.map fun (r, x) => if r = k then (r, f x) else (r, x)).lookup q =
      if q = k then (l.lookup q).map f else l.lookup q := by
  induction l with
  | nil => simp
  | cons entry rest ih =>
    obtain ⟨r, x⟩ := entry
    by_cases hr : r = k
    · subst hr
      simp only [List.map_cons, if_true, lookup_front, ih]
      by_cases hq : q = r <;> simp [hq]
    · simp only [List.map_cons, if_neg hr, lookup_front, ih]
      by_cases hq : q = r
      · simp [hq, hr]
      · simp [hq]

theorem keys_mapAt (l : List (Nat × β)) (k : Nat) (f : β → β) :
    (l.map fun (r, x) => if r = k then (r, f x) else (r, x)).map Prod.fst = l.map Prod.fst := by
  rw [List.map_map]
  refine List.map_congr_left ?_
  intro entry _
  obtain ⟨r, x⟩ := entry
  by_cases hr : r = k <;> simp [hr]

/-- A number that is dropped is not there, and the others are. -/
theorem lookup_dropped (l : List (Nat × β)) (k q : Nat) :
    (l.filter fun (r, _) => r ≠ k).lookup q = if q = k then none else l.lookup q := by
  induction l with
  | nil => simp
  | cons entry rest ih =>
    obtain ⟨r, x⟩ := entry
    by_cases hr : r = k
    · rw [List.filter_cons_of_neg (by simpa using hr), ih, lookup_front]
      by_cases hq : q = k
      · rw [if_pos hq, if_pos hq]
      · rw [if_neg hq, if_neg hq, if_neg (fun h => hq (h.trans hr))]
    · rw [List.filter_cons_of_pos (by simpa using hr), lookup_front, lookup_front, ih]
      by_cases hq : q = r
      · rw [if_pos hq, if_pos hq, if_neg (fun h => hr (hq.symm.trans h))]
      · rw [if_neg hq, if_neg hq]

theorem keys_dropped (l : List (Nat × β)) (k : Nat) :
    (l.filter fun (r, _) => r ≠ k).map Prod.fst = (l.map Prod.fst).filter (· ≠ k) := by
  rw [List.filter_map]
  rfl

/-- What was changed at a number goes with it. -/
theorem dropped_mapAt (l : List (Nat × β)) (k : Nat) (f : β → β) :
    ((l.map fun (r, x) => if r = k then (r, f x) else (r, x)).filter fun (r, _) => r ≠ k) =
      l.filter fun (r, _) => r ≠ k := by
  induction l with
  | nil => rfl
  | cons entry rest ih =>
    obtain ⟨r, x⟩ := entry
    by_cases hr : r = k
    · simpa [hr] using ih
    · simpa [hr] using ih

theorem isSome_lookup (l : List (Nat × β)) (q : Nat) :
    (l.lookup q).isSome = true ↔ q ∈ l.map Prod.fst := by
  induction l with
  | nil => simp
  | cons entry rest ih =>
    obtain ⟨r, x⟩ := entry
    rw [lookup_front, List.map_cons, List.mem_cons, ← ih]
    by_cases hq : q = r <;> simp [hq]

end Numbered

namespace Channel

variable {c : Channel} {r : Nat}

/-! ### What a receiver hears -/

theorem receive_none (h : c.unseen r = 0) :
    c.receive r = (if c.coordinators = 0 then .closed else .empty, c) := by
  unfold receive
  rw [h]

theorem receive_one (h : c.unseen r = 1) : c.receive r = (.signal, c.advance r 1) := by
  unfold receive
  rw [h]

theorem receive_more {missed : Nat} (h : c.unseen r = missed + 2) :
    c.receive r = (.lagged (missed + 1), c.advance r (missed + 1)) := by
  unfold receive
  rw [h]

theorem signal_iff : (c.receive r).1 = .signal ↔ c.unseen r = 1 := by
  rcases hunseen : c.unseen r with _ | _ | missed
  · rw [receive_none hunseen]
    split <;> simp
  · simp [receive_one hunseen]
  · simp [receive_more hunseen]

theorem lagged_iff (n : Nat) : (c.receive r).1 = .lagged n ↔ 1 ≤ n ∧ c.unseen r = n + 1 := by
  rcases hunseen : c.unseen r with _ | _ | missed
  · rw [receive_none hunseen]
    split <;> simp
  · simp [receive_one hunseen]
    omega
  · simp [receive_more hunseen]
    omega

theorem empty_iff : (c.receive r).1 = .empty ↔ c.unseen r = 0 ∧ c.coordinators ≠ 0 := by
  rcases hunseen : c.unseen r with _ | _ | missed
  · rw [receive_none hunseen]
    split <;> simp [*]
  · simp [receive_one hunseen]
  · simp [receive_more hunseen]

theorem closed_iff : (c.receive r).1 = .closed ↔ c.unseen r = 0 ∧ c.coordinators = 0 := by
  rcases hunseen : c.unseen r with _ | _ | missed
  · rw [receive_none hunseen]
    split <;> simp [*]
  · simp [receive_one hunseen]
  · simp [receive_more hunseen]

/-- Somebody is called iff there is something that was not seen. -/
theorem isCall_iff : (c.receive r).1.isCall = true ↔ 0 < c.unseen r := by
  rcases hunseen : c.unseen r with _ | _ | missed
  · rw [receive_none hunseen]
    split <;> simp [Reception.isCall]
  · simp [receive_one hunseen, Reception.isCall]
  · simp [receive_more hunseen, Reception.isCall]

/-- Who is not called finds the channel as it was. -/
theorem receive_quiet (h : (c.receive r).1.isCall = false) : (c.receive r).2 = c := by
  have hnone : ¬ 0 < c.unseen r := by
    rw [← isCall_iff, h]
    decide
  rw [receive_none (by omega)]

/-! ### Where a receiver stands -/

theorem unseen_eq {seen : Nat} (h : c.receivers.lookup r = some seen) :
    c.unseen r = c.sent - seen := by
  unfold unseen
  rw [h]

theorem lookup_advance (steps q : Nat) : (c.advance r steps).receivers.lookup q =
    if q = r then (c.receivers.lookup q).map (· + steps) else c.receivers.lookup q :=
  lookup_mapAt c.receivers r (· + steps) q

theorem lookup_subscribe (q : Nat) : c.subscribe.2.receivers.lookup q =
    if q = c.made then some c.sent else c.receivers.lookup q :=
  lookup_front c.receivers c.made q c.sent

theorem lookup_dropReceiver (q : Nat) : (c.dropReceiver r).receivers.lookup q =
    if q = r then none else c.receivers.lookup q :=
  lookup_dropped c.receivers r q

@[simp] theorem sent_receive : (c.receive r).2.sent = c.sent := by
  unfold receive
  split <;> rfl

@[simp] theorem made_receive : (c.receive r).2.made = c.made := by
  unfold receive
  split <;> rfl

@[simp] theorem coordinators_receive : (c.receive r).2.coordinators = c.coordinators := by
  unfold receive
  split <;> rfl

@[simp] theorem keys_receive :
    (c.receive r).2.receivers.map Prod.fst = c.receivers.map Prod.fst := by
  unfold receive
  split
  · rfl
  · exact keys_mapAt c.receivers r (· + 1)
  · exact keys_mapAt c.receivers r (· + _)

/-- What one receiver hears does not move another. -/
theorem lookup_receive_ne {q : Nat} (h : q ≠ r) :
    (c.receive r).2.receivers.lookup q = c.receivers.lookup q := by
  unfold receive
  split
  · rfl
  · rw [lookup_advance, if_neg h]
  · rw [lookup_advance, if_neg h]

theorem unseen_congr {d : Channel} {q : Nat} (hsent : d.sent = c.sent)
    (hlookup : d.receivers.lookup q = c.receivers.lookup q) : d.unseen q = c.unseen q := by
  unfold unseen
  rw [hsent, hlookup]

/-- After a lag one signal is left. -/
theorem unseen_of_lagged {n : Nat} (h : (c.receive r).1 = .lagged n) :
    (c.receive r).2.unseen r = 1 := by
  obtain ⟨hn, hunseen⟩ := (lagged_iff n).mp h
  obtain ⟨missed, rfl⟩ : ∃ missed, n = missed + 1 := ⟨n - 1, by omega⟩
  rw [receive_more hunseen]
  cases hseen : c.receivers.lookup r with
  | none =>
    unfold unseen at hunseen
    rw [hseen] at hunseen
    cases hunseen
  | some seen =>
    have hafter : (c.advance r (missed + 1)).receivers.lookup r = some (seen + (missed + 1)) := by
      rw [lookup_advance, if_pos rfl, hseen]
      rfl
    rw [unseen_eq hseen] at hunseen
    rw [unseen_eq hafter]
    show c.sent - (seen + (missed + 1)) = 1
    omega

/-- A receiver that is dropped leaves nothing of where it stood. -/
theorem dropReceiver_advance (steps : Nat) :
    (c.advance r steps).dropReceiver r = c.dropReceiver r :=
  congrArg (fun receivers => { c with receivers }) (dropped_mapAt c.receivers r (· + steps))

theorem dropReceiver_receive : (c.receive r).2.dropReceiver r = c.dropReceiver r := by
  rcases hunseen : c.unseen r with _ | _ | missed
  · rw [receive_none hunseen]
  · rw [receive_one hunseen, dropReceiver_advance]
  · rw [receive_more hunseen, dropReceiver_advance]

end Channel
end HolidayApi.Stop
