import HolidayApi.Proofs.Daemon.Moves

/-! # Every trigger is told once

    Whatever the parties to a shutdown do, a live receiver is told of each
    trigger since it was made, and of none twice: the signals that it has read,
    the lags that were reported to it and what it has not seen add up to the
    triggers since then. A wait ends with a trigger iff there is one that was
    not told before, whether coordinators are left or not.

    * The acts of a run say who is live, who was given to a wait and what was
      told (`liveReceivers`, `liveCoordinators`, `Awaited`, `sentSince`,
      `signalsRead`, `lagsReported`).
    * `CoordinatorsKnown`, `ReceiversKnown`, `Conserved` and `Waits` are kept by
      every move, and so by every run (`Consistent.move`, `consistent_run`).
    * `Consistent.delivers` and `Consistent.answers` read off what a receiver
      and a wait are told, and `Consistent.takes` which steps the parties take;
      `triggers_delivered` puts them together.
-/

namespace HolidayApi.Daemon

open HolidayApi.Stop (Channel Reception Signal isSome_lookup keys_dropped lookup_dropped
  lookup_front lookup_mapAt)

/-! ### What the acts say -/

/-- The receivers that were made and have not gone since. A wait that ended took
    its receiver with it. -/
def liveReceivers : List Act → List Nat
  | [] => []
  | .subscribed r :: acts | .served r :: acts => r :: liveReceivers acts
  | .resolved r _ :: acts | .receiverDropped r :: acts => (liveReceivers acts).filter (· ≠ r)
  | _ :: acts => liveReceivers acts

/-- The coordinators that were made and have not gone since; the first one is
    there from the beginning. -/
def liveCoordinators : List Act → List Nat
  | [] => [0]
  | .cloned k :: acts => k :: liveCoordinators acts
  | .coordinatorDropped k :: acts => (liveCoordinators acts).filter (· ≠ k)
  | _ :: acts => liveCoordinators acts

/-- The number of triggers since a receiver was made. -/
def sentSince (r : Nat) : List Act → Nat
  | [] => 0
  | .subscribed q :: acts | .served q :: acts => if q = r then 0 else sentSince r acts
  | .triggered :: acts => sentSince r acts + 1
  | _ :: acts => sentSince r acts

/-- The number of signals that a receiver has read. -/
def signalsRead (r : Nat) (acts : List Act) : Nat := acts.count (.received r .signal)

/-- The lag that an act reports to a receiver. -/
def Act.lag (r : Nat) : Act → Nat
  | .received q (.lagged n) => if q = r then n else 0
  | _ => 0

/-- The sum of the lags that were reported to a receiver. -/
def lagsReported (r : Nat) : List Act → Nat
  | [] => 0
  | act :: acts => act.lag r + lagsReported r acts

/-- The number of triggers of which a receiver was told. -/
def told (r : Nat) (acts : List Act) : Nat := signalsRead r acts + lagsReported r acts

/-- Whether a receiver heard something. -/
def Act.isReception : Act → Bool
  | .received .. => true
  | _ => false

theorem told_skip {act : Act} (h : act.isReception = false) (r : Nat) (acts : List Act) :
    told r (act :: acts) = told r acts := by
  have hcount : (act == .received r .signal) = false := by
    rw [beq_eq_false_iff_ne]
    intro hsame
    rw [hsame] at h
    cases h
  have hlag : act.lag r = 0 := by
    cases act with
    | received q heard => cases h
    | _ => rfl
  simp [told, signalsRead, lagsReported, List.count_cons, hcount, hlag]

/-- What is said to one receiver is not said to another. -/
theorem told_other {q r : Nat} (h : q ≠ r) (heard : Reception) (acts : List Act) :
    told r (.received q heard :: acts) = told r acts := by
  have hcount : (Act.received q heard == .received r .signal) = false := by
    rw [beq_eq_false_iff_ne]
    intro hsame
    cases hsame
    exact h rfl
  have hlag : (Act.received q heard).lag r = 0 := by
    cases heard <;> simp [Act.lag, h]
  simp [told, signalsRead, lagsReported, List.count_cons, hcount, hlag]

theorem told_signal (r : Nat) (acts : List Act) :
    told r (.received r .signal :: acts) = told r acts + 1 := by
  simp only [told, signalsRead, lagsReported, List.count_cons_self, Act.lag]
  omega

theorem told_lagged (r n : Nat) (acts : List Act) :
    told r (.received r (.lagged n) :: acts) = told r acts + n := by
  have hcount : signalsRead r (.received r (.lagged n) :: acts) = signalsRead r acts := by
    simp [signalsRead]
  simp only [told, hcount, lagsReported, Act.lag, if_true]
  omega

theorem told_quiet {heard : Reception} (h : heard.isCall = false) (r : Nat) (acts : List Act) :
    told r (.received r heard :: acts) = told r acts := by
  cases heard with
  | signal | lagged => cases h
  | empty | closed => simp [told, signalsRead, lagsReported, Act.lag]

/-! ### Who is there -/

/-- The coordinators are those that the acts tell of. -/
structure CoordinatorsKnown (acts : List Act) (p : Parties) : Prop where
  live : p.coordinators = liveCoordinators acts
  count : p.channel.coordinators = p.coordinators.length
  distinct : p.coordinators.Nodup
  numbered : ∀ k ∈ p.coordinators, k < p.cloned

/-- The receivers are those that the acts tell of. -/
structure ReceiversKnown (acts : List Act) (p : Parties) : Prop where
  live : p.channel.receivers.map Prod.fst = liveReceivers acts
  distinct : (liveReceivers acts).Nodup
  numbered : ∀ r ∈ liveReceivers acts, r < p.channel.made

variable {acts : List Act} {act : Act} {p p' : Parties}

theorem CoordinatorsKnown.move (h : CoordinatorsKnown acts p) (hmove : Moves p act p') :
    CoordinatorsKnown (act :: acts) p' := by
  cases hmove with
  | nothing | subscribed | triggered | waited | served | pending | resolved | receiverDropped =>
    exact ⟨h.live, h.count, h.distinct, h.numbered⟩
  | received r => exact ⟨h.live, Channel.coordinators_receive.trans h.count, h.distinct, h.numbered⟩
  | cloned =>
    constructor
    case live => exact congrArg (p.cloned :: ·) h.live
    case count => exact congrArg (· + 1) h.count
    case distinct =>
      -- the number of a clone is a new one
      refine List.nodup_cons.mpr ⟨?_, h.distinct⟩
      intro hmem
      exact Nat.lt_irrefl _ (h.numbered _ hmem)
    case numbered =>
      intro k hk
      rcases List.mem_cons.mp hk with rfl | hk
      · exact Nat.lt_succ_self _
      · exact Nat.lt_succ_of_lt (h.numbered k hk)
  | coordinatorDropped k hk =>
    constructor
    case live => exact congrArg (List.filter (· ≠ k)) h.live
    case count =>
      have herase : p.coordinators.filter (· ≠ k) = p.coordinators.erase k := by
        rw [h.distinct.erase_eq_filter]
        refine List.filter_congr ?_
        intro q _
        by_cases hq : q = k <;> simp [hq]
      show p.channel.coordinators - 1 = (p.coordinators.filter (· ≠ k)).length
      rw [herase, List.length_erase_of_mem hk, h.count]
    case distinct => exact h.distinct.filter _
    case numbered => exact fun q hq => h.numbered q (List.mem_of_mem_filter hq)

theorem ReceiversKnown.subscribe (h : ReceiversKnown acts p) :
    (p.channel.made :: p.channel.receivers.map Prod.fst) = p.channel.made :: liveReceivers acts ∧
    (p.channel.made :: liveReceivers acts).Nodup ∧
    ∀ r ∈ p.channel.made :: liveReceivers acts, r < p.channel.made + 1 := by
  refine ⟨congrArg (p.channel.made :: ·) h.live, List.nodup_cons.mpr ⟨?_, h.distinct⟩, ?_⟩
  · intro hmem
    exact Nat.lt_irrefl _ (h.numbered _ hmem)
  · intro r hr
    rcases List.mem_cons.mp hr with rfl | hr
    · exact Nat.lt_succ_self _
    · exact Nat.lt_succ_of_lt (h.numbered r hr)

theorem ReceiversKnown.drop (h : ReceiversKnown acts p) (r : Nat) :
    (p.without r).channel.receivers.map Prod.fst = (liveReceivers acts).filter (· ≠ r) ∧
    ((liveReceivers acts).filter (· ≠ r)).Nodup ∧
    ∀ q ∈ (liveReceivers acts).filter (· ≠ r), q < p.channel.made := by
  refine ⟨(keys_dropped p.channel.receivers r).trans ?_, h.distinct.filter _,
    fun q hq => h.numbered q (List.mem_of_mem_filter hq)⟩
  rw [h.live]

theorem ReceiversKnown.move (h : ReceiversKnown acts p) (hmove : Moves p act p') :
    ReceiversKnown (act :: acts) p' := by
  cases hmove with
  | nothing | cloned | triggered | waited | pending | coordinatorDropped =>
    exact ⟨h.live, h.distinct, h.numbered⟩
  | received r =>
    refine ⟨Channel.keys_receive.trans h.live, h.distinct, ?_⟩
    intro q hq
    rw [Channel.made_receive]
    exact h.numbered q hq
  | subscribed | served =>
    obtain ⟨hlive, hdistinct, hnumbered⟩ := h.subscribe
    exact ⟨hlive, hdistinct, hnumbered⟩
  | resolved r | receiverDropped r =>
    obtain ⟨hlive, hdistinct, hnumbered⟩ := h.drop r
    exact ⟨hlive, hdistinct, hnumbered⟩

theorem ReceiversKnown.isLive_iff (h : ReceiversKnown acts p) (r : Nat) :
    p.isLive r = true ↔ r ∈ liveReceivers acts := by
  unfold Parties.isLive
  rw [isSome_lookup, h.live]

/-! ### What was told -/

/-- What a receiver was told of and what it has not seen are the triggers since
    it was made. -/
structure Conserved (acts : List Act) (p : Parties) : Prop where
  fresh : ∀ r, p.channel.made ≤ r → told r acts = 0
  balance : ∀ r seen, p.channel.receivers.lookup r = some seen →
    seen ≤ p.channel.sent ∧ told r acts + (p.channel.sent - seen) = sentSince r acts

theorem Conserved.subscribe (h : Conserved acts p) (hact : act.isReception = false)
    (hsince : ∀ r, sentSince r (act :: acts) =
      if p.channel.made = r then 0 else sentSince r acts) {waits : List (Nat × Ear)} :
    Conserved (act :: acts) { p with channel := p.channel.subscribe.2, waits } := by
  constructor
  case fresh =>
    intro r hr
    rw [told_skip hact]
    exact h.fresh r (Nat.le_of_succ_le hr)
  case balance =>
    intro r seen hlookup
    rw [Channel.lookup_subscribe] at hlookup
    rw [told_skip hact, hsince]
    by_cases hr : r = p.channel.made
    · -- the new receiver begins where the channel stands
      rw [if_pos hr] at hlookup
      cases hlookup
      rw [if_pos hr.symm, h.fresh r (Nat.le_of_eq hr.symm)]
      exact ⟨Nat.le_refl _, by simp [Channel.subscribe]⟩
    · rw [if_neg hr] at hlookup
      rw [if_neg fun hmade => hr hmade.symm]
      exact h.balance r seen hlookup

theorem Conserved.receive (h : Conserved acts p) {q : Nat} (hmade : q < p.channel.made)
    (hlive : p.isLive q = true) :
    Conserved (.received q (p.channel.receive q).1 :: acts)
      { p with channel := (p.channel.receive q).2 } := by
  constructor
  case fresh =>
    intro r hr
    have hr : p.channel.made ≤ r := Channel.made_receive ▸ hr
    rw [told_other (by omega)]
    exact h.fresh r hr
  case balance =>
    intro r seen hlookup
    show seen ≤ (p.channel.receive q).2.sent ∧
      told r _ + ((p.channel.receive q).2.sent - seen) = sentSince r acts
    rw [Channel.sent_receive]
    by_cases hr : r = q
    · subst hr
      obtain ⟨old, hold⟩ := Option.isSome_iff_exists.mp hlive
      obtain ⟨hle, hsum⟩ := h.balance r old hold
      have hunseen := Channel.unseen_eq hold
      rcases hcase : p.channel.unseen r with _ | _ | missed
      · -- there is nothing to hear
        have hquiet : (p.channel.receive r).1.isCall = false := by
          rw [Bool.eq_false_iff, ne_eq, Channel.isCall_iff, hcase]
          omega
        have hlookup : p.channel.receivers.lookup r = some seen := by
          rw [← hlookup]
          exact congrArg (fun c : Channel => c.receivers.lookup r)
            (Channel.receive_quiet hquiet).symm
        rw [told_quiet hquiet]
        exact h.balance r seen hlookup
      · rw [Channel.receive_one hcase] at hlookup ⊢
        have hmoved : some (old + 1) = some seen := by
          rw [← hlookup, Channel.lookup_advance, if_pos rfl, hold]
          rfl
        cases hmoved
        rw [told_signal]
        omega
      · rw [Channel.receive_more hcase] at hlookup ⊢
        have hmoved : some (old + (missed + 1)) = some seen := by
          rw [← hlookup, Channel.lookup_advance, if_pos rfl, hold]
          rfl
        cases hmoved
        rw [told_lagged]
        omega
    · have hlookup : p.channel.receivers.lookup r = some seen := by
        rw [← hlookup]
        exact (Channel.lookup_receive_ne hr).symm
      rw [told_other fun hq => hr hq.symm]
      exact h.balance r seen hlookup

theorem Conserved.drop (h : Conserved acts p) (hact : act.isReception = false)
    (hsince : ∀ r, sentSince r (act :: acts) = sentSince r acts) (r : Nat) :
    Conserved (act :: acts) (p.without r) := by
  constructor
  case fresh =>
    intro q hq
    rw [told_skip hact]
    exact h.fresh q hq
  case balance =>
    intro q seen hlookup
    have hlookup : (p.channel.dropReceiver r).receivers.lookup q = some seen := hlookup
    rw [Channel.lookup_dropReceiver] at hlookup
    by_cases hq : q = r
    · rw [if_pos hq] at hlookup
      cases hlookup
    · rw [if_neg hq] at hlookup
      rw [told_skip hact, hsince]
      exact h.balance q seen hlookup

theorem Conserved.skip (h : Conserved acts p) (hact : act.isReception = false)
    (hsince : ∀ r, sentSince r (act :: acts) = sentSince r acts)
    (hmade : p'.channel.made = p.channel.made) (hsent : p'.channel.sent = p.channel.sent)
    (hreceivers : p'.channel.receivers = p.channel.receivers) : Conserved (act :: acts) p' := by
  constructor
  case fresh =>
    intro r hr
    rw [told_skip hact]
    exact h.fresh r (hmade ▸ hr)
  case balance =>
    intro r seen hlookup
    rw [hreceivers] at hlookup
    rw [told_skip hact, hsince, hsent]
    exact h.balance r seen hlookup

theorem Conserved.move (h : Conserved acts p) (hknown : ReceiversKnown acts p)
    (hmove : Moves p act p') : Conserved (act :: acts) p' := by
  cases hmove with
  | nothing | cloned | waited | pending | coordinatorDropped =>
    exact h.skip rfl (fun _ => rfl) rfl rfl rfl
  | subscribed => exact h.subscribe rfl fun _ => rfl
  | served => exact h.subscribe rfl fun _ => rfl
  | resolved r | receiverDropped r => exact h.drop rfl (fun _ => rfl) r
  | received q hlive => exact h.receive (hknown.numbered q ((hknown.isLive_iff q).mp hlive)) hlive
  | triggered =>
    constructor
    case fresh =>
      intro r hr
      rw [told_skip rfl]
      exact h.fresh r hr
    case balance =>
      intro r seen hlookup
      obtain ⟨hle, hsum⟩ := h.balance r seen hlookup
      rw [told_skip rfl]
      show seen ≤ p.channel.sent + 1 ∧
        told r acts + (p.channel.sent + 1 - seen) = sentSince r acts + 1
      omega

/-- The balance of a live receiver, in terms of what it has not seen. -/
theorem Conserved.told_add_unseen (h : Conserved acts p) {r : Nat} (hlive : p.isLive r = true) :
    told r acts + p.channel.unseen r = sentSince r acts := by
  obtain ⟨seen, hseen⟩ := Option.isSome_iff_exists.mp hlive
  rw [Channel.unseen_eq hseen]
  exact (h.balance r seen hseen).2

/-! ### Who waits -/

/-- A receiver was given to a wait, for its own sake or as that of a server. -/
def Awaited (r : Nat) (acts : List Act) : Prop := .waited r ∈ acts ∨ .served r ∈ acts

/-- Who waits is who was given to a wait and has not gone since. A wait that does
    not listen any more misses nothing, and the receiver of a server was never
    asked. -/
structure Waits (acts : List Act) (p : Parties) : Prop where
  waiting : ∀ r, p.isWaiting r = true ↔ p.isLive r = true ∧ Awaited r acts
  numbered : ∀ r, Awaited r acts → r < p.channel.made
  deaf : ∀ r, p.waits.lookup r = some .deaf → p.channel.unseen r = 0 ∧ p.coordinators = []
  unasked : ∀ r, .served r ∈ acts → told r acts = 0

theorem isLive_subscribe (q : Nat) :
    ({ p with channel := p.channel.subscribe.2 } : Parties).isLive q = true ↔
      q = p.channel.made ∨ p.isLive q = true := by
  unfold Parties.isLive
  show (p.channel.subscribe.2.receivers.lookup q).isSome = true ↔ _
  rw [Channel.lookup_subscribe]
  by_cases hq : q = p.channel.made <;> simp [hq]

theorem isLive_receive (r q : Nat) :
    ({ p with channel := (p.channel.receive r).2 } : Parties).isLive q = true ↔
      p.isLive q = true := by
  unfold Parties.isLive
  rw [isSome_lookup, isSome_lookup, Channel.keys_receive]

theorem isLive_without (r q : Nat) :
    (p.without r).isLive q = true ↔ q ≠ r ∧ p.isLive q = true := by
  unfold Parties.isLive
  show ((p.channel.dropReceiver r).receivers.lookup q).isSome = true ↔ _
  rw [Channel.lookup_dropReceiver]
  by_cases hq : q = r <;> simp [hq]

theorem lookup_without (r q : Nat) :
    (p.without r).waits.lookup q = if q = r then none else p.waits.lookup q :=
  lookup_dropped p.waits r q

theorem lookup_await (r q : Nat) :
    (p.await r).waits.lookup q = if q = r then some .listening else p.waits.lookup q :=
  lookup_front p.waits r q .listening

theorem lookup_keepWaiting (r q : Nat) (ear : Ear) (c : Channel) :
    (p.keepWaiting r ear c).waits.lookup q =
      if q = r then (p.waits.lookup q).map fun _ => ear else p.waits.lookup q :=
  lookup_mapAt p.waits r (fun _ => ear) q

theorem isWaiting_without (r q : Nat) :
    (p.without r).isWaiting q = true ↔ q ≠ r ∧ p.isWaiting q = true := by
  unfold Parties.isWaiting
  rw [lookup_without]
  by_cases hq : q = r <;> simp [hq]

theorem isWaiting_await (r q : Nat) :
    (p.await r).isWaiting q = true ↔ q = r ∨ p.isWaiting q = true := by
  unfold Parties.isWaiting
  rw [lookup_await]
  by_cases hq : q = r <;> simp [hq]

theorem isWaiting_keepWaiting (r q : Nat) (ear : Ear) (c : Channel) :
    (p.keepWaiting r ear c).isWaiting q = p.isWaiting q := by
  unfold Parties.isWaiting
  rw [lookup_keepWaiting]
  by_cases hq : q = r <;> simp [hq]

/-- Whether a receiver is given to a wait. -/
def Act.isAwaiting : Act → Bool
  | .waited _ | .served _ => true
  | _ => false

theorem mem_of_mem_cons {first : Act} (hact : act.isAwaiting = false)
    (hfirst : first.isAwaiting = true) (h : first ∈ act :: acts) : first ∈ acts := by
  refine List.mem_of_ne_of_mem ?_ h
  intro hsame
  rw [hsame, hact] at hfirst
  cases hfirst

theorem awaited_skip (hact : act.isAwaiting = false) (r : Nat) :
    Awaited r (act :: acts) ↔ Awaited r acts := by
  constructor
  · rintro (hwaited | hserved)
    · exact .inl (mem_of_mem_cons hact rfl hwaited)
    · exact .inr (mem_of_mem_cons hact rfl hserved)
  · exact Or.imp (List.mem_cons_of_mem act) (List.mem_cons_of_mem act)

theorem awaited_waited (q r : Nat) : Awaited r (.waited q :: acts) ↔ r = q ∨ Awaited r acts := by
  simp [Awaited, or_assoc]

theorem awaited_served (q r : Nat) : Awaited r (.served q :: acts) ↔ r = q ∨ Awaited r acts := by
  simp [Awaited, or_left_comm]

namespace Waits

/-- As long as there are coordinators, every wait listens. -/
theorem lookup_ne_deaf (h : Waits acts p) (hsome : p.coordinators ≠ []) (r : Nat) :
    p.waits.lookup r ≠ some .deaf := by
  intro hdeaf
  exact hsome (h.deaf r hdeaf).2

/-- The number of the next receiver was never given to a wait. -/
theorem not_awaited_made (h : Waits acts p) : ¬ Awaited p.channel.made acts := by
  intro hmade
  exact Nat.lt_irrefl _ (h.numbered _ hmade)

/-- Where nobody hears anything and no server begins, no server was asked. -/
theorem unasked_skip (h : Waits acts p) (hact : act.isReception = false)
    (hawaiting : act.isAwaiting = false) :
    ∀ r, .served r ∈ act :: acts → told r (act :: acts) = 0 := by
  intro r hr
  rw [told_skip hact]
  exact h.unasked r (mem_of_mem_cons hawaiting rfl hr)

/-- Acts that leave receivers and waits as they are. -/
theorem skip (h : Waits acts p) (hact : act.isReception = false)
    (hawaiting : act.isAwaiting = false) (hmade : p'.channel.made = p.channel.made)
    (hlive : ∀ r, p'.isLive r = p.isLive r) (hwaiting : ∀ r, p'.isWaiting r = p.isWaiting r)
    (hdeaf : ∀ r, p'.waits.lookup r = some .deaf →
      p'.channel.unseen r = 0 ∧ p'.coordinators = []) : Waits (act :: acts) p' := by
  constructor
  case waiting =>
    intro r
    rw [hwaiting, hlive, awaited_skip hawaiting]
    exact h.waiting r
  case numbered =>
    intro r hr
    rw [hmade]
    exact h.numbered r ((awaited_skip hawaiting r).mp hr)
  case deaf => exact hdeaf
  case unasked => exact h.unasked_skip hact hawaiting

/-- A receiver goes, and its wait with it. -/
theorem drop (h : Waits acts p) (hact : act.isReception = false)
    (hawaiting : act.isAwaiting = false) (r : Nat) : Waits (act :: acts) (p.without r) := by
  constructor
  case waiting =>
    intro q
    rw [isWaiting_without, isLive_without, awaited_skip hawaiting, h.waiting, and_assoc]
  case numbered => exact fun q hq => h.numbered q ((awaited_skip hawaiting q).mp hq)
  case deaf =>
    intro q hq
    rw [lookup_without] at hq
    split at hq
    · cases hq
    · next hne =>
      obtain ⟨hunseen, hnone⟩ := h.deaf q hq
      refine ⟨?_, hnone⟩
      rw [← hunseen]
      refine Channel.unseen_congr (c := p.channel) rfl ?_
      show (p.channel.dropReceiver r).receivers.lookup q = _
      rw [Channel.lookup_dropReceiver, if_neg hne]
  case unasked => exact h.unasked_skip hact hawaiting

/-- A receiver that no wait holds hears something. -/
theorem receive (h : Waits acts p) {q : Nat} (hlive : p.isLive q = true)
    (hfree : p.isWaiting q = false) (heard : Reception) :
    Waits (.received q heard :: acts) { p with channel := (p.channel.receive q).2 } := by
  constructor
  case waiting =>
    intro r
    rw [isLive_receive, awaited_skip rfl]
    exact h.waiting r
  case numbered =>
    intro r hr
    show r < (p.channel.receive q).2.made
    rw [Channel.made_receive]
    exact h.numbered r ((awaited_skip rfl r).mp hr)
  case deaf =>
    intro r hr
    obtain ⟨hunseen, hnone⟩ := h.deaf r hr
    have hne : r ≠ q := by
      intro hsame
      rw [hsame] at hr
      rw [isWaiting_of_lookup (p := p) hr] at hfree
      cases hfree
    refine ⟨?_, hnone⟩
    rw [← hunseen]
    exact Channel.unseen_congr Channel.sent_receive (Channel.lookup_receive_ne hne)
  case unasked =>
    intro r hr
    have hserved : .served r ∈ acts := mem_of_mem_cons rfl rfl hr
    -- the receiver of a server is held by its wait
    have hne : q ≠ r := by
      intro hsame
      rw [hsame] at hlive hfree
      rw [(h.waiting r).mpr ⟨hlive, .inr hserved⟩] at hfree
      cases hfree
    rw [told_other hne]
    exact h.unasked r hserved

theorem move (h : Waits acts p) (hcoordinators : CoordinatorsKnown acts p)
    (hreceivers : ReceiversKnown acts p) (hconserved : Conserved acts p)
    (hmove : Moves p act p') : Waits (act :: acts) p' := by
  cases hmove with
  | nothing => exact h.skip rfl rfl rfl (fun _ => rfl) (fun _ => rfl) h.deaf
  | cloned hsome | triggered hsome =>
    exact h.skip rfl rfl rfl (fun _ => rfl) (fun _ => rfl)
      fun r hr => absurd hr (h.lookup_ne_deaf hsome r)
  | coordinatorDropped k hk =>
    exact h.skip rfl rfl rfl (fun _ => rfl) (fun _ => rfl)
      fun r hr => absurd hr (h.lookup_ne_deaf (List.ne_nil_of_mem hk) r)
  | received q hlive hfree => exact h.receive hlive hfree _
  | resolved r | receiverDropped r => exact h.drop rfl rfl r
  | pending r ear hwaiting hear =>
    refine h.skip rfl rfl rfl (fun _ => rfl) (fun q => isWaiting_keepWaiting r q ear _) ?_
    intro q hq
    rw [lookup_keepWaiting] at hq
    split at hq
    · next hsame =>
      subst hsame
      obtain ⟨old, -, hear'⟩ := Option.map_eq_some_iff.mp hq
      rcases hear hear' with hbefore | hclosed
      · exact h.deaf q hbefore
      · -- the wait has just heard that nobody is left
        obtain ⟨hunseen, hnone⟩ := Channel.closed_iff.mp hclosed
        rw [hcoordinators.count] at hnone
        exact ⟨hunseen, List.eq_nil_of_length_eq_zero hnone⟩
    · exact h.deaf q hq
  | subscribed hsome =>
    constructor
    case waiting =>
      intro r
      rw [isLive_subscribe, awaited_skip rfl]
      refine (h.waiting r).trans ⟨And.imp .inr id, ?_⟩
      rintro ⟨hnew | hlive, hr⟩
      · rw [hnew] at hr
        exact absurd hr h.not_awaited_made
      · exact ⟨hlive, hr⟩
    case numbered =>
      intro r hr
      exact Nat.lt_succ_of_lt (h.numbered r ((awaited_skip rfl r).mp hr))
    case deaf => exact fun r hr => absurd hr (h.lookup_ne_deaf hsome r)
    case unasked => exact h.unasked_skip rfl rfl
  | served hsome =>
    constructor
    case waiting =>
      intro r
      rw [isWaiting_await, awaited_served]
      refine Iff.trans ?_ (and_congr_left' (isLive_subscribe r)).symm
      rw [← or_and_left]
      exact or_congr_right (h.waiting r)
    case numbered =>
      intro r hr
      rcases (awaited_served _ r).mp hr with rfl | hr
      · exact Nat.lt_succ_self _
      · exact Nat.lt_succ_of_lt (h.numbered r hr)
    case deaf =>
      intro r hr
      rw [lookup_await] at hr
      split at hr
      · cases hr
      · exact absurd hr (h.lookup_ne_deaf hsome r)
    case unasked =>
      intro r hr
      rw [told_skip rfl]
      rcases List.mem_cons.mp hr with hnew | hr
      · cases hnew
        exact hconserved.fresh _ (Nat.le_refl _)
      · exact h.unasked r hr
  | waited r hlive hfree =>
    constructor
    case waiting =>
      intro q
      rw [isWaiting_await, awaited_waited, h.waiting]
      show _ ↔ p.isLive q = true ∧ _
      by_cases hq : q = r
      · simp [hq, hlive]
      · simp [hq]
    case numbered =>
      intro q hq
      rcases (awaited_waited r q).mp hq with rfl | hq
      · exact hreceivers.numbered q ((hreceivers.isLive_iff q).mp hlive)
      · exact h.numbered q hq
    case deaf =>
      intro q hq
      rw [lookup_await] at hq
      split at hq
      · cases hq
      · exact h.deaf q hq
    case unasked =>
      intro q hq
      rw [told_skip rfl]
      have hserved : .served q ∈ acts := by simpa using hq
      exact h.unasked q hserved

end Waits

/-! ### Runs -/

/-- The acts and the parties fit together. -/
structure Consistent (acts : List Act) (p : Parties) : Prop where
  coordinators : CoordinatorsKnown acts p
  receivers : ReceiversKnown acts p
  conserved : Conserved acts p
  waits : Waits acts p

theorem consistent_start : Consistent [] {} where
  coordinators := ⟨rfl, rfl, by decide, by decide⟩
  receivers := ⟨rfl, List.nodup_nil, nofun⟩
  conserved := ⟨fun _ _ => rfl, nofun⟩
  waits := ⟨fun _ => ⟨nofun, nofun⟩, by simp [Awaited], nofun, nofun⟩

/-- **Every move keeps acts and parties together.** -/
theorem Consistent.move (h : Consistent acts p) (hmove : Moves p act p') :
    Consistent (act :: acts) p' where
  coordinators := h.coordinators.move hmove
  receivers := h.receivers.move hmove
  conserved := h.conserved.move h.receivers hmove
  waits := h.waits.move h.coordinators h.receivers h.conserved hmove

theorem consistent_run (steps : List Step) (h : Consistent acts p) :
    Consistent (Parties.run acts p steps).1 (Parties.run acts p steps).2 := by
  induction steps generalizing acts p with
  | nil => exact h
  | cons first rest ih => exact ih (h.move (step_moves p first))

/-- A run goes on with what its next step comes to. -/
theorem run_concat (acts : List Act) (p : Parties) (steps : List Step) (next : Step) :
    Parties.run acts p (steps ++ [next]) =
      (((Parties.run acts p steps).2.step next).1 :: (Parties.run acts p steps).1,
        ((Parties.run acts p steps).2.step next).2) := by
  induction steps generalizing acts p with
  | nil => rfl
  | cons first rest ih => exact ih _ _

/-! ### What is delivered -/

/-- What a live receiver was told, and what it is told now. -/
structure Delivers (acts : List Act) (c : Channel) (r : Nat) : Prop where
  /-- No trigger is lost, invented or told twice. -/
  conserved : signalsRead r acts + lagsReported r acts + c.unseen r = sentSince r acts
  signal : (c.receive r).1 = .signal ↔ c.unseen r = 1
  lagged : ∀ n, (c.receive r).1 = .lagged n ↔ 1 ≤ n ∧ c.unseen r = n + 1
  left : ∀ n, (c.receive r).1 = .lagged n → (c.receive r).2.unseen r = 1
  empty : (c.receive r).1 = .empty ↔ c.unseen r = 0 ∧ liveCoordinators acts ≠ []
  closed : (c.receive r).1 = .closed ↔ c.unseen r = 0 ∧ liveCoordinators acts = []

/-- How a wait answers a poll. Coordinators take no part in it but by the
    triggers that they sent. -/
structure Answers (acts : List Act) (p : Parties) (r : Nat) : Prop where
  /-- It ends with the first cause, in the order of the poll, that is there: a
      signal that has arrived, or a trigger that was not told. -/
  poll : ∀ turn arrived, (p.step (.poll r turn arrived)).1 =
    ((causesFrom turn).find? (isThere arrived (told r acts < sentSince r acts))).elim
      (.pending r) (.resolved r)
  /-- Where no signal has arrived, it ends iff there is such a trigger. -/
  trigger : ∀ turn, (p.step (.poll r turn [])).1 = .resolved r .triggered ↔
    told r acts < sentSince r acts
  /-- With a receiver that was not asked before, any trigger since it was made is
      one. -/
  unasked : told r acts = 0 → ∀ turn,
    (p.step (.poll r turn [])).1 = .resolved r .triggered ↔ 0 < sentSince r acts

/-- Nothing was ever heard of a receiver. -/
structure IsNew (acts : List Act) (r : Nat) : Prop where
  not_live : r ∉ liveReceivers acts
  not_told : told r acts = 0
  not_awaited : ¬ Awaited r acts

/-- Which steps are taken, and as what: all those of the parties that are there,
    and no others. -/
structure Takes (acts : List Act) (p : Parties) : Prop where
  subscribe : ∀ k, (p.step (.subscribe k)).1 =
    if k ∈ liveCoordinators acts then .subscribed p.channel.made else .nothing
  serve : ∀ k, (p.step (.serve k)).1 =
    if k ∈ liveCoordinators acts then .served p.channel.made else .nothing
  /-- Who subscribes has a receiver of its own, and so has a server. -/
  receiver_new : IsNew acts p.channel.made
  clone : ∀ k, (p.step (.clone k)).1 =
    if k ∈ liveCoordinators acts then .cloned p.cloned else .nothing
  coordinator_new : p.cloned ∉ liveCoordinators acts
  trigger : ∀ k, (p.step (.trigger k)).1 =
    if k ∈ liveCoordinators acts then .triggered else .nothing
  dropCoordinator : ∀ k, (p.step (.dropCoordinator k)).1 =
    if k ∈ liveCoordinators acts then .coordinatorDropped k else .nothing
  /-- A live receiver that no wait holds hears what the channel has for it. -/
  receive : ∀ r, p.step (.receive r) =
    if r ∈ liveReceivers acts ∧ p.isWaiting r = false then
      (.received r (p.channel.receive r).1, { p with channel := (p.channel.receive r).2 })
    else (.nothing, p)
  wait : ∀ r, (p.step (.wait r)).1 =
    if r ∈ liveReceivers acts ∧ p.isWaiting r = false then .waited r else .nothing
  /-- Nothing is polled but waits. -/
  poll : ∀ r, p.isWaiting r = false → ∀ turn arrived,
    p.step (.poll r turn arrived) = (.nothing, p)
  dropReceiver : ∀ r, (p.step (.dropReceiver r)).1 =
    if r ∈ liveReceivers acts then .receiverDropped r else .nothing

/-- Without signals it is the trigger alone that matters, whatever comes first. -/
theorem find?_causesFrom (turn : Nat) (called : Bool) :
    (causesFrom turn).find? (isThere [] called) = if called then some .triggered else none := by
  have hturn : turn % 3 = 0 ∨ turn % 3 = 1 ∨ turn % 3 = 2 := by omega
  unfold causesFrom List.rotateLeft
  rcases hturn with h | h | h <;> cases called <;> simp [h, isThere]

variable {r : Nat}

namespace Consistent

theorem coordinators_eq_zero_iff (h : Consistent acts p) :
    p.channel.coordinators = 0 ↔ liveCoordinators acts = [] := by
  rw [h.coordinators.count, ← h.coordinators.live]
  exact List.length_eq_zero_iff

theorem delivers (h : Consistent acts p) (hlive : r ∈ liveReceivers acts) :
    Delivers acts p.channel r where
  conserved := h.conserved.told_add_unseen ((h.receivers.isLive_iff r).mpr hlive)
  signal := Channel.signal_iff
  lagged := Channel.lagged_iff
  left := fun _ => Channel.unseen_of_lagged
  empty := by
    rw [Channel.empty_iff, ne_eq, h.coordinators_eq_zero_iff]
  closed := by
    rw [Channel.closed_iff, h.coordinators_eq_zero_iff]

/-- A wait hears the coordinators iff there is a trigger that was not told. -/
theorem hear_eq (h : Consistent acts p) {ear : Ear} (hear : p.waits.lookup r = some ear) :
    (ear.hear r p.channel).1 = decide (told r acts < sentSince r acts) := by
  obtain ⟨hlive, -⟩ := (h.waits.waiting r).mp (isWaiting_of_lookup hear)
  have hbalance := h.conserved.told_add_unseen hlive
  cases ear with
  | deaf =>
    -- who stopped listening has missed nothing
    have hunseen := (h.waits.deaf r hear).1
    have hnone : ¬ told r acts < sentSince r acts := by omega
    exact (decide_eq_false hnone).symm
  | listening =>
    show (p.channel.receive r).1.isCall = _
    rw [Bool.eq_iff_iff, Channel.isCall_iff, decide_eq_true_eq]
    omega

theorem answers (h : Consistent acts p) (hwaiting : p.isWaiting r = true) : Answers acts p r := by
  obtain ⟨ear, hear⟩ := Option.isSome_iff_exists.mp hwaiting
  have hpoll : ∀ turn arrived, (p.step (.poll r turn arrived)).1 =
      ((causesFrom turn).find? (isThere arrived (told r acts < sentSince r acts))).elim
        (.pending r) (.resolved r) := by
    intro turn arrived
    rw [← h.hear_eq hear, ← firstCause_eq_find]
    show (p.poll r turn arrived).1 = _
    unfold Parties.poll
    rw [hear]
    simp only
    cases (firstCause r arrived (causesFrom turn) ear p.channel).1 <;> rfl
  have htrigger : ∀ turn, (p.step (.poll r turn [])).1 = .resolved r .triggered ↔
      told r acts < sentSince r acts := by
    intro turn
    rw [hpoll, find?_causesFrom]
    by_cases hcalled : told r acts < sentSince r acts <;> simp [hcalled]
  refine ⟨hpoll, htrigger, ?_⟩
  intro hnothing turn
  rw [htrigger, hnothing]

/-- Who waits is who was given to a wait and has not gone since. -/
theorem isWaiting_iff (h : Consistent acts p) (r : Nat) :
    p.isWaiting r = true ↔ r ∈ liveReceivers acts ∧ Awaited r acts := by
  rw [h.waits.waiting, h.receivers.isLive_iff]

/-- A server that was called and has not gone waits, and was told of nothing. -/
theorem serves (h : Consistent acts p) (hserved : .served r ∈ acts)
    (hlive : r ∈ liveReceivers acts) : p.isWaiting r = true ∧ told r acts = 0 :=
  ⟨(h.isWaiting_iff r).mpr ⟨hlive, .inr hserved⟩, h.waits.unasked r hserved⟩

theorem receiver_new (h : Consistent acts p) : IsNew acts p.channel.made where
  not_live := fun hmade => Nat.lt_irrefl _ (h.receivers.numbered _ hmade)
  not_told := h.conserved.fresh _ (Nat.le_refl _)
  not_awaited := h.waits.not_awaited_made

/-- Steps that are for a coordinator. -/
theorem ifThere_coordinator (h : Consistent acts p) (k : Nat) (result : Act × Parties) :
    (p.ifThere (k ∈ p.coordinators) result).1 =
      if k ∈ liveCoordinators acts then result.1 else .nothing := by
  unfold Parties.ifThere
  rw [h.coordinators.live]
  by_cases hk : k ∈ liveCoordinators acts <;> simp [hk]

/-- Steps that are for a receiver that no wait holds. -/
theorem ifThere_free (h : Consistent acts p) (r : Nat) (result : Act × Parties) :
    p.ifThere (p.isLive r && !p.isWaiting r) result =
      if r ∈ liveReceivers acts ∧ p.isWaiting r = false then result else (.nothing, p) := by
  unfold Parties.ifThere
  refine if_congr ?_ rfl rfl
  rw [Bool.and_eq_true, Bool.not_eq_true', h.receivers.isLive_iff]

theorem takes (h : Consistent acts p) : Takes acts p where
  subscribe := fun k => h.ifThere_coordinator k _
  serve := fun k => h.ifThere_coordinator k _
  receiver_new := h.receiver_new
  clone := fun k => h.ifThere_coordinator k _
  coordinator_new := by
    intro hmem
    rw [← h.coordinators.live] at hmem
    exact Nat.lt_irrefl _ (h.coordinators.numbered _ hmem)
  trigger := fun k => h.ifThere_coordinator k _
  dropCoordinator := fun k => h.ifThere_coordinator k _
  receive := fun r => h.ifThere_free r _
  wait := by
    intro r
    show (p.ifThere (p.isLive r && !p.isWaiting r) _).1 = _
    rw [h.ifThere_free, apply_ite Prod.fst]
  poll := by
    intro r hfree turn arrived
    have hnone : p.waits.lookup r = none := by
      unfold Parties.isWaiting at hfree
      simpa using hfree
    show p.poll r turn arrived = _
    unfold Parties.poll
    rw [hnone]
  dropReceiver := by
    intro r
    show (if p.isLive r then _ else _ : Act × Parties).1 = _
    rw [apply_ite Prod.fst]
    exact if_congr (h.receivers.isLive_iff r) rfl rfl

end Consistent

/-- **Every trigger is told once**, in every run of the parties. The receivers
    that are counted are the live ones, and each of them is told of the triggers
    since it was made. Those of them wait that were given to a wait, and a wait
    ends with a trigger iff there is one that was not told. A server waits from
    the moment in which it is called, and so ends with a trigger iff there was
    one since then. The parties that are there can take each of their steps, and
    the run goes on with what comes of it. -/
theorem triggers_delivered (steps : List Step) :
    let acts := (Parties.run [] {} steps).1
    let p := (Parties.run [] {} steps).2
    (p.channel.receiverCount = (liveReceivers acts).length ∧ (liveReceivers acts).Nodup) ∧
      (∀ r ∈ liveReceivers acts, Delivers acts p.channel r) ∧
      (∀ r, p.isWaiting r = true ↔ r ∈ liveReceivers acts ∧ Awaited r acts) ∧
      (∀ r, p.isWaiting r = true → Answers acts p r) ∧
      (∀ r, .served r ∈ acts → r ∈ liveReceivers acts → p.isWaiting r = true ∧
        ∀ turn, (p.step (.poll r turn [])).1 = .resolved r .triggered ↔ 0 < sentSince r acts) ∧
      Takes acts p ∧
      ∀ next, Parties.run [] {} (steps ++ [next]) =
        ((p.step next).1 :: acts, (p.step next).2) := by
  intro acts p
  have h : Consistent acts p := consistent_run steps consistent_start
  refine ⟨⟨?_, h.receivers.distinct⟩, fun r hlive => h.delivers hlive, h.isWaiting_iff,
    fun r hwaiting => h.answers hwaiting, ?_, h.takes, run_concat [] {} steps⟩
  · rw [← h.receivers.live, List.length_map]
    rfl
  · intro r hserved hlive
    obtain ⟨hwaiting, htold⟩ := h.serves hserved hlive
    exact ⟨hwaiting, (h.answers hwaiting).unasked htold⟩

/-- A receiver that is asked, one that is given to a wait and one of a server.
    Three triggers come after them, and then nobody is left. -/
def overtaken : List Step :=
  [.trigger 0, .subscribe 0, .subscribe 0, .serve 0, .wait 1, .trigger 0, .receive 0, .trigger 0,
    .trigger 0, .dropCoordinator 0]

/-- The receiver read one signal and lags by one behind the other two. The wait
    and the server stop. -/
theorem triggers_delivered_overtaken :
    let acts := (Parties.run [] {} overtaken).1
    let p := (Parties.run [] {} overtaken).2
    (0 ∈ liveReceivers acts ∧ signalsRead 0 acts = 1 ∧ p.isWaiting 0 = false ∧
      (p.step (.receive 0)).1 = .received 0 (.lagged 1)) ∧
    (.waited 1 ∈ acts ∧ 1 ∈ liveReceivers acts ∧
      ∀ turn, (p.step (.poll 1 turn [])).1 = .resolved 1 .triggered) ∧
    .served 2 ∈ acts ∧ 2 ∈ liveReceivers acts ∧
      ∀ turn, (p.step (.poll 2 turn [])).1 = .resolved 2 .triggered := by
  intro acts p
  have hreceiver : 0 ∈ liveReceivers acts := by decide
  have hwaited : .waited 1 ∈ acts := by decide
  have hwaiter : 1 ∈ liveReceivers acts := by decide
  have hserved : .served 2 ∈ acts := by decide
  have hserver : 2 ∈ liveReceivers acts := by decide
  obtain ⟨-, hdelivers, hwaits, hanswers, hserves, htakes, -⟩ := triggers_delivered overtaken
  have hfree : p.isWaiting 0 = false := by
    rw [Bool.eq_false_iff, ne_eq, hwaits]
    rintro ⟨-, hwaited | hserved⟩
    · exact absurd hwaited (by decide)
    · exact absurd hserved (by decide)
  refine ⟨⟨hreceiver, by decide, hfree, ?_⟩, ⟨hwaited, hwaiter, ?_⟩, hserved, hserver, ?_⟩
  · -- two triggers came after the signal that it read
    have hlagged : (p.channel.receive 0).1 = .lagged 1 :=
      ((hdelivers 0 hreceiver).lagged 1).mpr (by decide)
    rw [htakes.receive, if_pos ⟨hreceiver, hfree⟩, hlagged]
  · intro turn
    have hwaiting : p.isWaiting 1 = true := (hwaits 1).mpr ⟨hwaiter, .inl hwaited⟩
    exact ((hanswers 1 hwaiting).trigger turn).mpr (by decide)
  · intro turn
    exact ((hserves 2 hserved hserver).2 turn).mpr (by decide)

end HolidayApi.Daemon
