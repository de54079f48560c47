import HolidayApi.Daemon.Parties
import HolidayApi.Proofs.Stop.Receiving

/-! # What the parties to a shutdown can do

    A poll ends with the first cause that is there (`firstCause_eq_find`). If
    none is, it leaves the channel alone (`firstCause_none`), and if one is, the
    receiver goes with all that it heard (`dropReceiver_firstCause`).

    `Moves` is all that a step can come to (`step_moves`); what is kept by every
    move is kept by every step.
-/

namespace HolidayApi.Daemon

open HolidayApi.Stop (Channel Reception Signal)

/-! ### Polls -/

/-- Whether a cause is there, if these signals have arrived and a trigger is
    there or not. -/
def isThere (arrived : List Signal) (called : Bool) : Cause → Bool
  | .signal s => s ∈ arrived
  | .triggered => called

variable {r : Nat} {arrived : List Signal}

/-- Who hears nothing hears nothing the next time either, and leaves the
    channel alone. -/
theorem hear_quiet {ear : Ear} {c : Channel} (h : (ear.hear r c).1 = false) :
    (ear.hear r c).2.2 = c ∧ ((ear.hear r c).2.1.hear r c).1 = false := by
  cases ear with
  | deaf => exact ⟨rfl, rfl⟩
  | listening =>
    have hquiet : (c.receive r).1.isCall = false := h
    refine ⟨Channel.receive_quiet hquiet, ?_⟩
    show ((if (c.receive r).1 = .closed then Ear.deaf else .listening).hear r c).1 = false
    split
    · rfl
    · exact hquiet

/-- Who does not listen any more did not before, or heard that nobody is
    left. -/
theorem hear_deaf {ear : Ear} {c : Channel} (h : (ear.hear r c).2.1 = .deaf) :
    ear = .deaf ∨ (c.receive r).1 = .closed := by
  cases ear with
  | deaf => exact .inl rfl
  | listening =>
    have hclosed : (if (c.receive r).1 = .closed then Ear.deaf else .listening) = .deaf := h
    split at hclosed
    · next hheard => exact .inr hheard
    · cases hclosed

theorem dropReceiver_hear (ear : Ear) (c : Channel) :
    (ear.hear r c).2.2.dropReceiver r = c.dropReceiver r := by
  cases ear with
  | deaf => rfl
  | listening => exact Channel.dropReceiver_receive

theorem firstCause_triggered (rest : List Cause) (ear : Ear) (c : Channel) :
    firstCause r arrived (.triggered :: rest) ear c =
      if (ear.hear r c).1 then (some .triggered, (ear.hear r c).2)
      else firstCause r arrived rest (ear.hear r c).2.1 (ear.hear r c).2.2 := by
  rw [firstCause]
  rcases ear.hear r c with ⟨called, ear', c'⟩
  cases called <;> rfl

theorem firstCause_signal (s : Signal) (rest : List Cause) (ear : Ear) (c : Channel) :
    firstCause r arrived (.signal s :: rest) ear c =
      if s ∈ arrived then (some (.signal s), ear, c)
      else firstCause r arrived rest ear c := rfl

/-- A poll ends with the first of the causes that is there. -/
theorem firstCause_eq_find (causes : List Cause) (ear : Ear) (c : Channel) :
    (firstCause r arrived causes ear c).1 = causes.find? (isThere arrived (ear.hear r c).1) := by
  induction causes generalizing ear c with
  | nil => rfl
  | cons cause rest ih =>
    cases cause with
    | signal s =>
      rw [firstCause_signal]
      by_cases hs : s ∈ arrived
      · simp [hs, isThere]
      · simp [hs, isThere, ih]
    | triggered =>
      rw [firstCause_triggered]
      cases hheard : (ear.hear r c).1 with
      | true => rfl
      | false =>
        -- the rest is looked at as if nothing had been heard
        obtain ⟨hsame, hstill⟩ := hear_quiet hheard
        rw [List.find?_cons_of_neg (by simp [isThere])]
        simp only [Bool.false_eq_true, if_false]
        rw [hsame, ih, hstill]

/-- A poll that finds no cause leaves the channel alone. -/
theorem firstCause_none {causes : List Cause} {ear : Ear} {c : Channel}
    (h : (firstCause r arrived causes ear c).1 = none) :
    (firstCause r arrived causes ear c).2.2 = c ∧
    ((firstCause r arrived causes ear c).2.1 = .deaf →
      ear = .deaf ∨ (c.receive r).1 = .closed) := by
  induction causes generalizing ear c with
  | nil => exact ⟨rfl, fun hdeaf => .inl hdeaf⟩
  | cons cause rest ih =>
    cases cause with
    | signal s =>
      rw [firstCause_signal] at h ⊢
      split at h
      · cases h
      · next hs =>
        rw [if_neg hs]
        exact ih h
    | triggered =>
      rw [firstCause_triggered] at h ⊢
      split at h
      · cases h
      · next hheard =>
        have hheard : (ear.hear r c).1 = false := Bool.eq_false_iff.mpr hheard
        obtain ⟨hsame, -⟩ := hear_quiet hheard
        obtain ⟨hchannel, hdeaf⟩ := ih h
        rw [if_neg (by simp [hheard])]
        refine ⟨hchannel.trans hsame, ?_⟩
        intro hafter
        rcases hdeaf hafter with hbefore | hclosed
        · exact hear_deaf hbefore
        · rw [hsame] at hclosed
          exact .inr hclosed

/-- Whatever a poll finds, without the receiver the channel is the same. -/
theorem dropReceiver_firstCause (causes : List Cause) (ear : Ear) (c : Channel) :
    (firstCause r arrived causes ear c).2.2.dropReceiver r = c.dropReceiver r := by
  induction causes generalizing ear c with
  | nil => rfl
  | cons cause rest ih =>
    cases cause with
    | signal s =>
      rw [firstCause_signal]
      split
      · rfl
      · exact ih ear c
    | triggered =>
      rw [firstCause_triggered]
      split
      · exact dropReceiver_hear ear c
      · rw [ih, dropReceiver_hear]

/-! ### Moves -/

/-- What a step can come to, and how the parties stand after it. -/
inductive Moves (p : Parties) : Act → Parties → Prop where
  | nothing : Moves p .nothing p
  | subscribed : p.coordinators ≠ [] →
      Moves p (.subscribed p.channel.made) { p with channel := p.channel.subscribe.2 }
  | cloned : p.coordinators ≠ [] →
      Moves p (.cloned p.cloned)
        { p with
          channel := p.channel.clone
          coordinators := p.cloned :: p.coordinators
          cloned := p.cloned + 1 }
  | triggered : p.coordinators ≠ [] →
      Moves p .triggered { p with channel := p.channel.trigger }
  | received (r : Nat) : p.isLive r = true → p.isWaiting r = false →
      Moves p (.received r (p.channel.receive r).1)
        { p with channel := (p.channel.receive r).2 }
  | waited (r : Nat) : p.isLive r = true → p.isWaiting r = false → Moves p (.waited r) (p.await r)
  | served : p.coordinators ≠ [] →
      Moves p (.served p.channel.made)
        ({ p with channel := p.channel.subscribe.2 }.await p.channel.made)
  | pending (r : Nat) (ear : Ear) : p.isWaiting r = true →
      (ear = .deaf → p.waits.lookup r = some .deaf ∨ (p.channel.receive r).1 = .closed) →
      Moves p (.pending r) (p.keepWaiting r ear p.channel)
  | resolved (r : Nat) (cause : Cause) : p.isWaiting r = true →
      Moves p (.resolved r cause) (p.without r)
  | coordinatorDropped (k : Nat) : k ∈ p.coordinators →
      Moves p (.coordinatorDropped k)
        { p with
          channel := p.channel.dropCoordinator
          coordinators := p.coordinators.filter (· ≠ k) }
  | receiverDropped (r : Nat) : p.isLive r = true → Moves p (.receiverDropped r) (p.without r)

theorem moves_ifThere {p : Parties} {there : Bool} {result : Act × Parties}
    (h : there = true → Moves p result.1 result.2) :
    Moves p (p.ifThere there result).1 (p.ifThere there result).2 := by
  unfold Parties.ifThere
  split
  · next hthere => exact h hthere
  · exact .nothing

/-- A wait that listens or does not is a wait. -/
theorem isWaiting_of_lookup {p : Parties} {ear : Ear} (h : p.waits.lookup r = some ear) :
    p.isWaiting r = true := by
  unfold Parties.isWaiting
  rw [h]
  rfl

theorem moves_poll (p : Parties) (r turn : Nat) (arrived : List Signal) :
    Moves p (p.poll r turn arrived).1 (p.poll r turn arrived).2 := by
  unfold Parties.poll
  cases hear : p.waits.lookup r with
  | none => exact .nothing
  | some ear =>
    have hwaiting : p.isWaiting r = true := isWaiting_of_lookup hear
    simp only
    cases hfound : (firstCause r arrived (causesFrom turn) ear p.channel).1 with
    | some cause =>
      -- what the wait has heard goes with its receiver
      have hwithout : { p with channel := (firstCause r arrived (causesFrom turn) ear
          p.channel).2.2 }.without r = p.without r := by
        unfold Parties.without
        rw [dropReceiver_firstCause]
      rw [hwithout]
      exact .resolved r cause hwaiting
    | none =>
      obtain ⟨hchannel, hdeaf⟩ := firstCause_none hfound
      rw [hchannel]
      refine .pending r _ hwaiting ?_
      intro hafter
      rcases hdeaf hafter with hbefore | hclosed
      · rw [hear, hbefore]
        exact .inl rfl
      · exact .inr hclosed

/-- **A step is a move.** -/
theorem step_moves (p : Parties) (step : Step) : Moves p (p.step step).1 (p.step step).2 := by
  have hsome : ∀ {k : Nat}, decide (k ∈ p.coordinators) = true → p.coordinators ≠ [] :=
    fun hk => List.ne_nil_of_mem (of_decide_eq_true hk)
  have hfree : ∀ {r : Nat}, (p.isLive r && !p.isWaiting r) = true →
      p.isLive r = true ∧ p.isWaiting r = false := by
    intro r h
    simpa using h
  cases step with
  | subscribe k => exact moves_ifThere fun hk => .subscribed (hsome hk)
  | clone k => exact moves_ifThere fun hk => .cloned (hsome hk)
  | trigger k => exact moves_ifThere fun hk => .triggered (hsome hk)
  | receive r => exact moves_ifThere fun h => .received r (hfree h).1 (hfree h).2
  | wait r => exact moves_ifThere fun h => .waited r (hfree h).1 (hfree h).2
  | serve k => exact moves_ifThere fun hk => .served (hsome hk)
  | poll r turn arrived => exact moves_poll p r turn arrived
  | dropCoordinator k =>
    exact moves_ifThere fun hk => .coordinatorDropped k (of_decide_eq_true hk)
  | dropReceiver r => exact moves_ifThere fun hlive => .receiverDropped r hlive

end HolidayApi.Daemon
