import Sctl.WatchdogResets

/-!
The backoff between the USB cycles of an outage. Each failed cycle doubles the time
that has to pass before the next one, and the third sends the watchdog dormant. The
dormant interval is fixed, and shorter than what two failed cycles ask for.
-/
namespace Sctl.UsbBackoff
open LteBands LteShared LtePrograms LteWatchdog WatchdogResets Dialogues Runs

/-- No tick of the episode resets it. -/
def Unbroken (episode : List (List LteTurn)) : Prop :=
  ∀ turns ∈ episode, ∀ turn ∈ turns, ∀ kind, turn.question ≠ .reset kind

instance : DecidablePred Unbroken := fun episode =>
  decidable_of_iff (∀ turns ∈ episode, ∀ turn ∈ turns, turn.question ≠ .reset .light ∧ turn.question ≠ .reset .heavy)
    ⟨fun none turns here turn member kind => by
      cases kind with
      | light => exact (none turns here turn member).1
      | heavy => exact (none turns here turn member).2,
    fun none turns here turn member => ⟨none turns here turn member .light,none turns here turn member .heavy⟩⟩

/-! ### What an episode does to the state -/

/-- Failed cycles are counted, and who sleeps sleeps on. -/
structure Progress (state after : WatchdogState) : Prop where
  counted : state.l3Attempts ≤ after.l3Attempts
  asleep : state.dormant = true → after.dormant = true

theorem Progress.refl (state : WatchdogState) : Progress state state := ⟨le_rfl,id⟩

theorem Progress.trans {first second third : WatchdogState} (early : Progress first second) (late : Progress second third) :
    Progress first third :=
  ⟨early.counted.trans late.counted,late.asleep ∘ early.asleep⟩

theorem progress_carries : Carries Progress where
  trans := Progress.trans
  noted _ attempts dormant := ⟨attempts.ge,fun asleep => dormant.trans asleep⟩
  slept _ := ⟨le_rfl,fun _ => rfl⟩
  failed _ := ⟨Nat.le_succ _,id⟩

/-- Without a reset the tiered reset leaves the watchdog as it is. -/
theorem tieredReset_unbroken {watchdog after : Watchdog} {connected : Nat} {turns : List LteTurn}
    (ended : (tieredReset watchdog connected).Ends turns after)
    (unbroken : ∀ turn ∈ turns, ∀ kind, turn.question ≠ .reset kind) : after = watchdog := by
  unfold tieredReset at ended
  split at ended
  · split at ended
    · obtain ⟨early,late,state,rfl,reset,_⟩ := Dialogue.ends_bind.mp ended
      obtain ⟨⟨answer,rfl⟩,_⟩ := resetEpisode_ends reset
      exact absurd rfl (unbroken ⟨.reset .heavy,answer⟩ (by simp) .heavy)
    · split at ended
      · obtain ⟨early,late,state,rfl,reset,_⟩ := Dialogue.ends_bind.mp ended
        obtain ⟨⟨answer,rfl⟩,_⟩ := resetEpisode_ends reset
        exact absurd rfl (unbroken ⟨.reset .light,answer⟩ (by simp) .light)
      · exact (Dialogue.ends_done.mp ended).2.symm
  · exact (Dialogue.ends_done.mp ended).2.symm

theorem connectedTick_progress {watchdog after : Watchdog} {turns : List LteTurn}
    (ended : (connectedTick watchdog).Ends turns after)
    (unbroken : ∀ turn ∈ turns, ∀ kind, turn.question ≠ .reset kind) : Progress watchdog.state after.state := by
  unfold connectedTick at ended
  obtain ⟨first,rest,began,rfl,_,onward⟩ := Dialogue.ends_bind.mp ended
  obtain ⟨looked,later,rfl,reset⟩ := ends_now.mp onward
  obtain ⟨early,last,next,rfl,tiers,promotion⟩ := Dialogue.ends_bind.mp reset
  obtain ⟨promoted,final,rfl,done⟩ := ends_question.mp promotion
  obtain ⟨_,rfl⟩ := Dialogue.ends_done.mp done
  rw [tieredReset_unbroken tiers fun turn member => unbroken turn (by simp [member])]
  exact ⟨le_rfl,id⟩

theorem disconnectedTick_progress {config : LteConfig} {watchdog after : Watchdog} {turns : List LteTurn}
    (ended : (disconnectedTick config watchdog).Ends turns after) : Progress watchdog.state after.state := by
  have forgot : Progress watchdog.state { watchdog.state with tunnelConnectedSince := none } := ⟨le_rfl,id⟩
  have held : Asks (fun _ => True) (disconnectedTick config watchdog) fun after => Progress _ after.state :=
    disconnectedTick_carries progress_carries
  have kept := asks_ends held ended
  exact forgot.trans kept

theorem tick_progress {config : LteConfig} {watchdog after : Watchdog} {turns : List LteTurn}
    (ended : (tick config watchdog).Ends turns after)
    (unbroken : ∀ turn ∈ turns, ∀ kind, turn.question ≠ .reset kind) : Progress watchdog.state after.state := by
  obtain ⟨skip,first,rfl,afterSkip⟩ := ends_question.mp ended
  by_cases skipped : skip.value = true
  · rw [if_pos skipped] at afterSkip
    obtain ⟨_,rfl⟩ := Dialogue.ends_done.mp afterSkip
    exact .refl _
  rw [if_neg skipped] at afterSkip
  obtain ⟨user,second,rfl,afterUser⟩ := ends_question.mp afterSkip
  by_cases active : user.value = true
  · rw [if_pos active] at afterUser
    obtain ⟨_,rfl⟩ := Dialogue.ends_done.mp afterUser
    exact .refl _
  rw [if_neg active] at afterUser
  obtain ⟨connected,third,rfl,afterUp⟩ := ends_question.mp afterUser
  by_cases seen : connected.value = true
  · rw [if_pos seen] at afterUp
    exact connectedTick_progress afterUp fun turn member => unbroken turn (by simp [member])
  · rw [if_neg seen] at afterUp
    exact disconnectedTick_progress afterUp

theorem run_progress {config : LteConfig} {episode : List (List LteTurn)} {watchdog after : Watchdog}
    (ran : run (tickOnce config) watchdog episode = some after) (unbroken : Unbroken episode) :
    Progress watchdog.state after.state := by
  induction episode generalizing watchdog with
  | nil => cases ran; exact .refl _
  | cons turns rest ih =>
    obtain ⟨next,ticked,later⟩ := run_cons_iff.mp ran
    have first := tick_progress (tickOnce_iff.mp ticked) (unbroken turns List.mem_cons_self)
    exact first.trans (ih later fun other member => unbroken other (List.mem_cons_of_mem turns member))

/-! ### The backoff -/

theorem cooldown_dormant {state : WatchdogState} (dormant : state.dormant = true) (level : Nat) :
    state.cooldown level = dormantTickInterval := by
  simp [WatchdogState.cooldown,dormant]

/-- The active backoff of a USB cycle: five minutes, doubled by each failed one, up to the cap. -/
theorem cooldown_active {state : WatchdogState} (active : state.dormant = false) :
    state.cooldown 3 = min (secs (300 * 2 ^ min state.l3Attempts 3)) maxL3Cooldown := by
  by_cases failed : 0 < state.l3Attempts
  · simp [WatchdogState.cooldown,active,failed]
  · have none : state.l3Attempts = 0 := by omega
    simp [WatchdogState.cooldown,active,none]
    decide

/-- From one state of an episode to a later one the backoff does not decrease, unless the
    watchdog goes dormant in between with two failed cycles or more. -/
theorem cooldown_le_iff {early late : WatchdogState} (progress : Progress early late) :
    early.cooldown 3 ≤ late.cooldown 3 ↔ (late.dormant = true → 2 ≤ early.l3Attempts → early.dormant = true) := by
  cases asleep : early.dormant with
  | true => simp [cooldown_dormant asleep,cooldown_dormant (progress.asleep asleep)]
  | false =>
    rw [cooldown_active asleep]
    cases slept : late.dormant with
    | false =>
      rw [cooldown_active slept]
      have counted := progress.counted
      have grown : secs (300 * 2 ^ min early.l3Attempts 3) ≤ secs (300 * 2 ^ min late.l3Attempts 3) := by
        apply Nat.mul_le_mul_right
        apply Nat.mul_le_mul_left
        exact Nat.pow_le_pow_right (by decide) (by omega)
      exact iff_of_true (by omega) (by simp)
    | true =>
      rw [cooldown_dormant slept]
      have counts : min early.l3Attempts 3 = 0 ∨ min early.l3Attempts 3 = 1 ∨ min early.l3Attempts 3 = 2 ∨
        min early.l3Attempts 3 = 3 := by omega
      rcases counts with none | one | two | three
      · rw [none]
        exact iff_of_true (by decide) (by omega)
      · rw [one]
        exact iff_of_true (by decide) (by omega)
      · rw [two]
        refine iff_of_false (by decide) ?_
        intro all
        exact absurd (all rfl (by omega)) (by simp)
      · rw [three]
        refine iff_of_false (by decide) ?_
        intro all
        exact absurd (all rfl (by omega)) (by simp)

/-- The backoff of an episode never decreases if and only if the watchdog does not end up
    dormant in it, or was dormant whenever two USB cycles had failed. -/
theorem backoff_monotone_iff (config : LteConfig) {episode : List (List LteTurn)} {watchdog after : Watchdog}
    (ran : run (tickOnce config) watchdog episode = some after) (unbroken : Unbroken episode) :
    Between (tickOnce config) (fun early late => early.state.cooldown 3 ≤ late.state.cooldown 3) watchdog episode ↔
      (after.state.dormant = true →
        Always (tickOnce config) (fun w => 2 ≤ w.state.l3Attempts → w.state.dormant = true) watchdog episode) := by
  constructor
  · intro grows dormant
    rw [always_iff_reached]
    intro early late split reached before
    subst split
    obtain ⟨m,same,rest⟩ := run_append_iff.mp ran
    cases before.symm.trans same
    have progress := run_progress rest fun turns member => unbroken turns (List.mem_append_right _ member)
    have below := grows early late [] (by simp) reached before after rest
    exact (cooldown_le_iff progress).mp below dormant
  · intro always early mid late split s before t between
    subst split
    have progress := run_progress between fun turns member => unbroken turns (by simp [member])
    rw [cooldown_le_iff progress]
    intro dormant
    -- whoever is dormant is so at the end of the episode
    obtain ⟨t',through,rest⟩ := run_append_iff.mp ran
    have same : t' = t := Option.some.inj (through.symm.trans (run_append_iff.mpr ⟨s,before,between⟩))
    subst same
    have last := run_progress rest fun turns member => unbroken turns (by simp [member])
    exact always_iff_reached.mp (always (last.asleep dormant)) early (mid ++ late) (by simp) s before

/-! ### Outages in which every USB cycle fails -/

/-- A device whose answers cannot be read, and which is gone from an instant on. -/
def modemMute (gone clock : Nat) (question : Ask) : Answer question × Nat :=
  let reply : question.Reply := match question with
    | .command .attention => if gone ≤ clock then none else some "OK".toList
    | .sysfsPresent => decide (clock < gone)
    | .writeFile _ => true
    | question => plainReply question
  (⟨clock,clock / secs 1,reply⟩,clock)

/-- USB cycles are allowed at once, on a symptom that is not known. -/
def eagerConfig : LteConfig :=
  { interface := ⟨"wwan0",true,none⟩, maxEscalationLevel := 4, minSustainedSecs := 0, requireSysfsAbsent := false,
    unknownEscalate := true }

/-- One cycle fails, then the device is gone; three cycles fail. -/
def lostEarly : List (List LteTurn) × Watchdog := ticksAt eagerConfig (modemMute (secs 300)) {} ([30,180,330].map secs)
def lostLate : List (List LteTurn) × Watchdog := ticksAt eagerConfig (modemMute (secs 9000)) {} ([30,180,780,1980].map secs)

theorem lostEarly_facts : Unbroken lostEarly.1 ∧ lostEarly.2.state.dormant = true ∧
    Always (tickOnce eagerConfig) (fun w => 2 ≤ w.state.l3Attempts → w.state.dormant = true) {} lostEarly.1 := by
  decide +kernel

theorem lostLate_facts : Unbroken lostLate.1 ∧ lostLate.2.state.cooldown 3 = secs 900 ∧
    (run (tickOnce eagerConfig) {} (lostLate.1.take 3)).map (fun w => w.state.cooldown 3) = some (secs 1200) := by
  decide +kernel

theorem backoff_monotone_lostEarly :
    Between (tickOnce eagerConfig) (fun early late => early.state.cooldown 3 ≤ late.state.cooldown 3) {} lostEarly.1 := by
  obtain ⟨unbroken,_,asleep⟩ := lostEarly_facts
  exact (backoff_monotone_iff eagerConfig run_ticksAt unbroken).mpr fun _ => asleep

/-- After two failed cycles twenty minutes have to pass, after the third one fifteen. -/
theorem dormant_sooner : ¬ ∀ (config : LteConfig) (episode : List (List LteTurn)) (watchdog after : Watchdog),
    run (tickOnce config) watchdog episode = some after → Unbroken episode →
    Between (tickOnce config) (fun early late => early.state.cooldown 3 ≤ late.state.cooldown 3) watchdog episode := by
  intro claim
  obtain ⟨unbroken,late,early⟩ := lostLate_facts
  obtain ⟨w,ran,long⟩ := Option.map_eq_some_iff.mp early
  have all : run (tickOnce eagerConfig) {} lostLate.1 = some lostLate.2 := run_ticksAt
  have grows := claim eagerConfig lostLate.1 {} lostLate.2 all unbroken
  have split : lostLate.1 = lostLate.1.take 3 ++ lostLate.1.drop 3 := (List.take_append_drop 3 _).symm
  have rest : run (tickOnce eagerConfig) w (lostLate.1.drop 3) = some lostLate.2 := by
    rw [split] at all
    obtain ⟨m,through,rest⟩ := run_append_iff.mp all
    cases ran.symm.trans through
    exact rest
  have below : w.state.cooldown 3 ≤ lostLate.2.state.cooldown 3 :=
    grows (lostLate.1.take 3) (lostLate.1.drop 3) [] (by simp) w ran lostLate.2 rest
  rw [long,late] at below
  exact absurd below (by decide)

end Sctl.UsbBackoff
