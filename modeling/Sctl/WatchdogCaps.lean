import Sctl.LteWatchdog

/-!
The caps of an episode of the watchdog. Read off a transcript of the loop, the
actions since the last reset are counted where they are called: by the
dispatch, by the nudge after a radio action, in a band revert. The dispatch
keeps its caps and its cooldowns in every run; nudges and reverts stand outside
both, and add as many interface restarts as there are radio actions and reverts.
-/
namespace Sctl.WatchdogCaps
open LteBands LteShared LtePrograms LteWatchdog Dialogues

/-- What is counted since the last reset, with the instant of the last turn. -/
structure Tally where
  reregisters : Nat := 0
  airplaneCycles : Nat := 0
  restarts : Nat := 0
  nudges : Nat := 0
  reverts : Nat := 0
  lastAct : Option Nat := none
  spaced : Bool := true
  clock : Nat := 0
deriving DecidableEq, Repr

/-- A dispatched action: it comes its cooldown after the last action, or not. -/
def Tally.dispatched (tally : Tally) (instant cooldown : Nat) : Tally :=
  { tally with lastAct := some instant
               spaced := tally.spaced && tally.lastAct.all fun last => decide (last + cooldown ≤ instant) }

/-- The count after a turn. A band revert counts as an action when it is recorded. -/
def Tally.count (tally : Tally) (turn : LteTurn) : Tally :=
  let tally := { tally with clock := turn.answer.instant }
  match turn.question with
  | .reset _ => { spaced := tally.spaced, clock := tally.clock }
  | .act .reregister (.dispatched _ cooldown) =>
    { tally.dispatched turn.answer.instant cooldown with reregisters := tally.reregisters + 1 }
  | .act .airplaneCycle (.dispatched _ cooldown) =>
    { tally.dispatched turn.answer.instant cooldown with airplaneCycles := tally.airplaneCycles + 1 }
  | .act .restartInterface (.dispatched _ cooldown) =>
    { tally.dispatched turn.answer.instant cooldown with restarts := tally.restarts + 1 }
  | .act .usbPowerCycle (.dispatched _ cooldown) => tally.dispatched turn.answer.instant cooldown
  | .act .restartInterface .nudge => { tally with nudges := tally.nudges + 1 }
  | .act .restartInterface .revert => { tally with reverts := tally.reverts + 1 }
  | .shared .recordRevert => { tally with lastAct := some turn.answer.instant }
  | _ => tally

/-- The caps of the dispatch, and what stands outside it. -/
structure Within (tally : Tally) : Prop where
  reregisters : tally.reregisters ≤ maxReregistersPerEpisode
  airplaneCycles : tally.airplaneCycles ≤ maxAirplaneCyclesPerEpisode
  restarts : tally.restarts ≤ maxIfaceRestartsPerEpisode
  nudges : tally.nudges ≤ tally.reregisters + tally.airplaneCycles
  reverts : tally.reverts ≤ 2
  spaced : tally.spaced = true

/-- The watch over the loop: time does not run back, and the count stays within its bounds. -/
def capWatch : Watch Ask Answer Tally where
  allows tally turn := tally.clock ≤ turn.answer.instant
  track := Tally.count
  fine := Within

/-- The questions that the count passes over. -/
def calm : Ask → Bool
  | .act _ _ | .reset _ | .shared .recordRevert => false
  | _ => true

theorem count_calm {tally : Tally} {turn : LteTurn} (quiet : calm turn.question = true) :
    tally.count turn = { tally with clock := turn.answer.instant } := by
  obtain ⟨question,answer⟩ := turn
  unfold Tally.count
  split <;> first | rfl | simp_all [calm]

theorem verifyRecovery_calm (timeout : Nat) : Asks (calm ·) (verifyRecovery timeout) fun _ => True := by
  have turns : ∀ start n, Asks (calm ·) (verifyRecovery.go timeout start n) fun _ => True := by
    intro start n
    induction n with
    | zero => trivial
    | succ n ih =>
      simp only [verifyRecovery.go,asks_bind,asks_now]
      refine ⟨rfl,fun instant => ?_⟩
      split
      · simp only [asks_bind,asks_sleep,asks_interfaceHasIpv4,asks_tunnelConnected]
        refine ⟨rfl,rfl,fun hasIp => ⟨rfl,fun connected => ?_⟩⟩
        split
        · trivial
        · exact ih
      · trivial
  simp only [verifyRecovery,asks_bind,asks_now]
  exact ⟨rfl,fun start => turns start _⟩

theorem verifiedSetBands_calm (bands : List Nat) : Asks (calm ·) (verifiedSetBands bands) fun _ => True := by
  simp only [verifiedSetBands,asks_require,asks_bind,asks_sleep]
  refine ⟨rfl,trivial,fun _ => ⟨rfl,rfl,trivial,fun response => ?_⟩⟩
  split
  · trivial
  · simp only [asks_bind,asks_send,asks_sleep,asks_require]
    refine ⟨rfl,rfl,rfl,trivial,fun _ => ⟨rfl,trivial,fun again => ?_⟩⟩
    split
    · trivial
    · simp [calm]

theorem interfaceHasIpv4_calm : Asks (calm ·) interfaceHasIpv4 fun _ => True := by simp [calm]

theorem awaitAddress_calm (n : Nat) : Asks (calm ·) (awaitAddress n) fun _ => True := by
  induction n with
  | zero => trivial
  | succ n ih =>
    simp only [awaitAddress,asks_bind,asks_interfaceHasIpv4]
    refine ⟨rfl,fun hasIp => ?_⟩
    split
    · trivial
    · exact asks_call (by simp [calm]) fun _ => ih

theorem readCurrentBands_calm : Asks (calm ·) readCurrentBands fun _ => True := by
  simp only [readCurrentBands,asks_require]
  refine ⟨rfl,trivial,fun response => ?_⟩
  split
  · trivial
  · simp [calm]

theorem diagnoseDataPath_calm : Asks (calm ·) diagnoseDataPath fun _ => True := by
  simp only [diagnoseDataPath,asks_bind,asks_interfaceHasIpv4]
  refine ⟨rfl,fun hasIp => ?_⟩
  split
  · simp only [ask,asks_bind,asks_ask,asks_done]
    refine ⟨rfl,fun reachable => ?_⟩
    split <;> trivial
  · trivial

theorem reconnectingWithAddress_calm : Asks (calm ·) reconnectingWithAddress fun _ => True := by
  simp only [reconnectingWithAddress,ask,asks_bind,asks_ask,asks_done]
  refine ⟨rfl,fun reconnecting => ?_⟩
  split
  · simp [calm]
  · trivial

theorem diagnoseSearching_calm (state : WatchdogState) : Asks (calm ·) (diagnoseSearching state) fun _ => True := by
  unfold diagnoseSearching
  split
  · trivial
  · simp [calm]

theorem diagnose_calm (state : WatchdogState) : Asks (calm ·) (diagnose state) fun _ => True := by
  simp only [diagnose,asks_bind,asks_command]
  refine ⟨rfl,fun reply => ?_⟩
  cases reply with
  | none =>
    simp only [ask,asks_bind,asks_ask,asks_done]
    refine ⟨rfl,fun present => ?_⟩
    split <;> trivial
  | some _ =>
    refine asks_call reconnectingWithAddress_calm fun reconnecting => ?_
    split
    · trivial
    · simp only [asks_bind,asks_command]
      refine ⟨rfl,fun registration => ?_⟩
      split
      · exact diagnoseSearching_calm state
      · trivial
      · trivial
      · exact diagnoseDataPath_calm
      · exact diagnoseDataPath_calm
      · trivial
      · trivial

/-- The part of the watchdog's state that the count is kept in. -/
structure Counts where
  reregisters : Nat
  airplaneCycles : Nat
  ifaceRestarts : Nat
  triedPrechangeRevert : Bool
  triedSafeRevert : Bool

def counts (state : WatchdogState) : Counts :=
  ⟨state.reregisters,state.airplaneCycles,state.ifaceRestarts,state.triedPrechangeRevert,state.triedSafeRevert⟩

/-- The reverts that the flags admit. -/
def Counts.reverts (counts : Counts) : Nat := counts.triedPrechangeRevert.toNat + counts.triedSafeRevert.toNat

/-- The state's counters are the count, which stays within its bounds. -/
structure Books (counts : Counts) (tally : Tally) : Prop where
  reregisters : tally.reregisters = counts.reregisters
  airplaneCycles : tally.airplaneCycles = counts.airplaneCycles
  restarts : tally.restarts = counts.ifaceRestarts
  reverts : tally.reverts ≤ counts.reverts
  past : ∀ act ∈ tally.lastAct, act ≤ tally.clock
  within : Within tally

/-- The last action is recorded in the state, at its instant or later. -/
def Recorded (lastActionAt : Option Nat) (tally : Tally) : Prop :=
  ∀ act ∈ tally.lastAct, ∃ recorded ∈ lastActionAt, act ≤ recorded

/-- Only time has passed. -/
structure Later (tally later : Tally) : Prop where
  clock : tally.clock ≤ later.clock
  same : later = { tally with clock := later.clock }

theorem later_refl (tally : Tally) : Later tally tally := ⟨le_rfl,rfl⟩

theorem within_later {tally later : Tally} (within : Within tally) (passed : Later tally later) : Within later := by
  rw [passed.same]
  exact ⟨within.reregisters,within.airplaneCycles,within.restarts,within.nudges,within.reverts,within.spaced⟩

theorem books_later {counts : Counts} {tally later : Tally} (books : Books counts tally) (passed : Later tally later) :
    Books counts later where
  reregisters := by rw [passed.same]; exact books.reregisters
  airplaneCycles := by rw [passed.same]; exact books.airplaneCycles
  restarts := by rw [passed.same]; exact books.restarts
  reverts := by rw [passed.same]; exact books.reverts
  past := by
    have earlier := passed.clock
    rw [passed.same]
    intro act acted
    exact (books.past act acted).trans earlier
  within := within_later books.within passed

theorem recorded_later {lastActionAt : Option Nat} {tally later : Tally} (recorded : Recorded lastActionAt tally)
    (passed : Later tally later) : Recorded lastActionAt later := by
  rw [passed.same]
  exact recorded

/-- A calm program only lets time pass. -/
theorem calm_guarantees {α : Type} {program : Lte α} {leaf : α → Prop} {tally : Tally}
    (quiet : Asks (calm ·) program leaf) (within : Within tally) :
    Guarantees capWatch program tally fun value later => leaf value ∧ Later tally later := by
  refine guarantees_of_asks ?_ quiet (later_refl tally)
  intro memory turn passed still (allowed : memory.clock ≤ turn.answer.instant)
  have counted : capWatch.track memory turn = { memory with clock := turn.answer.instant } := count_calm still
  have onward : Later tally (capWatch.track memory turn) := by
    rw [counted]
    exact ⟨passed.clock.trans allowed,by rw [passed.same]⟩
  exact ⟨within_later within onward,onward⟩

/-- What every stage of a tick keeps: the counters, and the record of the last action. -/
structure Kept (counts : Counts) (lastActionAt : Option Nat) (tally : Tally) : Prop where
  books : Books counts tally
  recorded : Recorded lastActionAt tally

theorem kept_later {counts : Counts} {lastActionAt : Option Nat} {tally later : Tally}
    (kept : Kept counts lastActionAt tally) (passed : Later tally later) : Kept counts lastActionAt later :=
  ⟨books_later kept.books passed,recorded_later kept.recorded passed⟩

/-- The rule to step over a calm program. -/
theorem guarantees_calm {α β : Type} {program : Lte α} {rest : α → Lte β} {counts : Counts}
    {lastActionAt : Option Nat} {tally : Tally} {post : β → Tally → Prop}
    (quiet : Asks (calm ·) program fun _ => True) (kept : Kept counts lastActionAt tally)
    (onward : ∀ value later, Later tally later → Kept counts lastActionAt later →
      Guarantees capWatch (rest value) later post) :
    Guarantees capWatch (program >>= rest) tally post :=
  guarantees_call (calm_guarantees quiet kept.books.within) fun value later held =>
    onward value later held.2 (kept_later kept held.2)

/-- The counters and the record of a state are kept. -/
def KeptBy (state : WatchdogState) (tally : Tally) : Prop := Kept (counts state) state.lastActionAt tally

/-- Recording an action puts the record up to the count. -/
theorem recordAction_guarantees {state : WatchdogState} {action : Outcome} {tally : Tally}
    (books : Books (counts state) tally) :
    Guarantees capWatch (recordAction state action) tally fun recorded later =>
      KeptBy recorded later ∧ Later tally later := by
  rw [recordAction,guarantees_now]
  intro answer (allowed : tally.clock ≤ answer.instant)
  have counted : capWatch.track tally ⟨.clock,answer⟩ = { tally with clock := answer.instant } := rfl
  have passed : Later tally (capWatch.track tally ⟨.clock,answer⟩) := ⟨allowed,rfl⟩
  have after := books_later books passed
  refine ⟨after.within,⟨after,?_⟩,passed⟩
  intro act acted
  exact ⟨answer.instant,rfl,(books.past act acted).trans allowed⟩

/-- A reset starts the count again, and the counters with it. -/
theorem resetEpisode_guarantees {state : WatchdogState} {kind : Reset} {tally : Tally} (within : Within tally) :
    Guarantees capWatch (resetEpisode kind state) tally fun cleared later => KeptBy cleared later := by
  unfold resetEpisode
  rw [guarantees_question]
  intro answer allowed
  have cleared : Within (capWatch.track tally ⟨.reset kind,answer⟩) :=
    ⟨Nat.zero_le _,Nat.zero_le _,Nat.zero_le _,Nat.zero_le _,Nat.zero_le _,within.spaced⟩
  refine ⟨cleared,?_⟩
  cases kind with
  | light => exact ⟨⟨rfl,rfl,rfl,Nat.zero_le _,fun act acted => absurd acted (by simp [capWatch,Tally.count]),cleared⟩,
      fun act acted => absurd acted (by simp [capWatch,Tally.count])⟩
  | heavy => exact ⟨⟨rfl,rfl,rfl,Nat.zero_le _,fun act acted => absurd acted (by simp [capWatch,Tally.count]),cleared⟩,
      fun act acted => absurd acted (by simp [capWatch,Tally.count])⟩

/-- An announced action with what the count makes of it. -/
theorem guarantees_act {α : Type} {action : Action} {site : Site} {rest : Lte α} {tally : Tally}
    {post : α → Tally → Prop}
    (onward : ∀ instant, tally.clock ≤ instant →
      Within (tally.count ⟨.act action site,⟨instant,0,()⟩⟩) ∧
        Guarantees capWatch rest (tally.count ⟨.act action site,⟨instant,0,()⟩⟩) post) :
    Guarantees capWatch (ask (.act action site) >>= fun _ => rest) tally post :=
  fun answer allowed => onward answer.instant allowed

/-- What follows the announcement of an interface restart. -/
theorem restart_rest_calm (config : InterfaceConfig) (site : Site) :
    ∃ rest, actionRestartInterface config site = (ask (.act .restartInterface site) >>= fun _ => rest) ∧
      Asks (calm ·) rest fun _ => True := by
  refine ⟨_,rfl,?_⟩
  cases config.restartCmd with
  | some custom =>
    simp only [ask,asks_bind,asks_ask,asks_done]
    refine ⟨rfl,fun ended => ?_⟩
    split <;> trivial
  | none =>
    simp only [ask,asks_bind,asks_ask,asks_done]
    refine ⟨rfl,fun down => ?_⟩
    split
    · trivial
    · simp only [asks_bind,asks_sleep,asks_ask,asks_done]
      refine ⟨rfl,rfl,fun up => ?_⟩
      split <;> trivial

theorem restart_guarantees {config : InterfaceConfig} {site : Site} {tally : Tally}
    (within : ∀ instant, tally.clock ≤ instant → Within (tally.count ⟨.act .restartInterface site,⟨instant,0,()⟩⟩)) :
    Guarantees capWatch (actionRestartInterface config site) tally fun _ later =>
      ∃ instant, tally.clock ≤ instant ∧ Later (tally.count ⟨.act .restartInterface site,⟨instant,0,()⟩⟩) later := by
  obtain ⟨rest,same,quiet⟩ := restart_rest_calm config site
  rw [same]
  refine guarantees_act fun instant allowed => ⟨within instant allowed,?_⟩
  exact guarantees_mono (calm_guarantees quiet (within instant allowed)) fun _ later held => ⟨instant,allowed,held.2⟩

theorem reverts_le_two (counts : Counts) : counts.reverts ≤ 2 := by
  unfold Counts.reverts
  have first := Bool.toNat_le counts.triedPrechangeRevert
  have second := Bool.toNat_le counts.triedSafeRevert
  omega

/-- A restart in a revert is covered by the flag that the revert has set. -/
theorem kept_revert {counts : Counts} {lastActionAt : Option Nat} {tally : Tally} {instant : Nat}
    (kept : Kept counts lastActionAt tally) (room : tally.reverts + 1 ≤ counts.reverts)
    (allowed : tally.clock ≤ instant) :
    Kept counts lastActionAt (tally.count ⟨.act .restartInterface .revert,⟨instant,0,()⟩⟩) where
  books := {
    reregisters := kept.books.reregisters
    airplaneCycles := kept.books.airplaneCycles
    restarts := kept.books.restarts
    reverts := room
    past := fun act acted => (kept.books.past act acted).trans allowed
    within := {
      reregisters := kept.books.within.reregisters
      airplaneCycles := kept.books.within.airplaneCycles
      restarts := kept.books.within.restarts
      nudges := kept.books.within.nudges
      reverts := room.trans (reverts_le_two counts)
      spaced := kept.books.within.spaced } }
  recorded := kept.recorded

section
variable {counts : Counts} {lastActionAt : Option Nat}

/-- The registration wait of a revert restarts the interface once at most. -/
theorem awaitData_guarantees {config : InterfaceConfig} {start n : Nat} {tally : Tally}
    (kept : Kept counts lastActionAt tally) (room : tally.reverts + 1 ≤ counts.reverts) :
    Guarantees capWatch (awaitData config start n) tally fun _ later => Kept counts lastActionAt later := by
  induction n generalizing tally with
  | zero => exact kept
  | succ n ih =>
    refine guarantees_calm (by simp [calm]) kept fun instant looked first kept => ?_
    split
    · refine guarantees_calm (by simp [calm]) kept fun connected asked second kept => ?_
      split
      · exact kept
      · refine guarantees_calm (by simp [calm]) kept fun registration polled third kept => ?_
        have room : polled.reverts + 1 ≤ counts.reverts := by
          rw [third.same,second.same,first.same]
          exact room
        split
        · refine guarantees_calm (awaitAddress_calm 5) kept fun found waited fourth kept => ?_
          have room : waited.reverts + 1 ≤ counts.reverts := by
            rw [fourth.same]
            exact room
          split
          · exact kept
          · have restart := fun instant (allowed : waited.clock ≤ instant) => kept_revert kept room allowed
            refine guarantees_call (restart_guarantees fun instant allowed => (restart instant allowed).books.within) ?_
            rintro _ restarted ⟨instant,allowed,passed⟩
            refine guarantees_calm (by simp [calm]) (kept_later (restart instant allowed) passed) fun _ slept _ kept => ?_
            exact guarantees_mono (calm_guarantees interfaceHasIpv4_calm kept.books.within) fun _ _ last =>
              kept_later kept last.2
        · refine guarantees_calm (by simp [calm]) kept fun _ waited fourth kept => ?_
          refine ih kept ?_
          rw [fourth.same]
          exact room
    · exact kept

/-- So does the whole revert of the bands. -/
theorem applyBandConfig_guarantees {config : InterfaceConfig} {bands : List Nat} {priority : Option Nat} {tally : Tally}
    (kept : Kept counts lastActionAt tally) (room : tally.reverts + 1 ≤ counts.reverts) :
    Guarantees capWatch (applyBandConfig config bands priority) tally fun _ later =>
      Kept counts lastActionAt later := by
  unfold applyBandConfig
  split
  · exact kept
  · refine guarantees_calm (verifiedSetBands_calm bands) kept fun written wrote first kept => ?_
    cases written with
    | none => exact kept
    | some result =>
      refine guarantees_calm (by simp [setPriority,calm]) kept fun _ set second kept => ?_
      refine guarantees_calm (by simp [calm]) kept fun connected asked third kept => ?_
      split
      · exact kept
      · refine guarantees_calm (by simp [calm]) kept fun _ left fourth kept => ?_
        refine guarantees_calm (by simp [calm]) kept fun _ slept fifth kept => ?_
        refine guarantees_calm (by simp [calm]) kept fun _ joined sixth kept => ?_
        refine guarantees_calm (by simp [calm]) kept fun start looked seventh kept => ?_
        refine awaitData_guarantees kept ?_
        rw [seventh.same,sixth.same,fifth.same,fourth.same,third.same,second.same,first.same]
        exact room

end

/-- What a stage of the tick hands on is kept. -/
def StageKept (stage : Stage) (tally : Tally) : Prop :=
  match stage with
  | .ended state | .onward state => KeptBy state tally

/-- A revert whose flag is set keeps the counters, and its record when it is recorded. -/
theorem revertTo_guarantees {config : LteConfig} {bands : List Nat} {priority : Option Nat} {action : Outcome}
    {state : WatchdogState} {tally : Tally} (kept : KeptBy state tally)
    (room : tally.reverts + 1 ≤ (counts state).reverts) :
    Guarantees capWatch (revertTo config bands priority action state) tally StageKept := by
  refine guarantees_call (applyBandConfig_guarantees kept room) fun applied later kept => ?_
  split
  · rw [guarantees_region]
    intro answer (allowed : later.clock ≤ answer.instant)
    -- the revert is an action of the episode from here on
    have books : Books (counts state) (capWatch.track later ⟨.shared .recordRevert,answer⟩) :=
      { reregisters := kept.books.reregisters
        airplaneCycles := kept.books.airplaneCycles
        restarts := kept.books.restarts
        reverts := kept.books.reverts
        past := fun act acted => le_of_eq (Option.mem_some.mp acted).symm
        within := ⟨kept.books.within.reregisters,kept.books.within.airplaneCycles,kept.books.within.restarts,
          kept.books.within.nudges,kept.books.within.reverts,kept.books.within.spaced⟩ }
    refine ⟨books.within,guarantees_call (recordAction_guarantees books) ?_⟩
    rintro recorded after ⟨kept,_⟩
    refine guarantees_calm (by simp [calm]) kept fun _ slept _ kept => ?_
    refine guarantees_calm (verifyRecovery_calm _) kept fun verified looked _ kept => ?_
    split
    · exact guarantees_call (resetEpisode_guarantees kept.books.within) fun cleared last kept => kept
    · exact kept
  · exact kept

theorem prechangeRevert_guarantees {config : LteConfig} {state : WatchdogState} {tally : Tally}
    (kept : KeptBy state tally) : Guarantees capWatch (prechangeRevert config state) tally StageKept := by
  unfold prechangeRevert
  split
  · exact kept
  · next untried =>
    refine guarantees_calm ⟨rfl,fun _ => trivial⟩ kept fun found later _ kept => ?_
    cases found with
    | none => exact kept
    | some before =>
      have room : later.reverts + 1 ≤ (counts { state with triedPrechangeRevert := true }).reverts := by
        have covered := kept.books.reverts
        simp only [counts,Counts.reverts,Bool.toNat_true,untried,Bool.toNat_false] at covered ⊢
        omega
      exact revertTo_guarantees
        ⟨⟨kept.books.reregisters,kept.books.airplaneCycles,kept.books.restarts,by omega,kept.books.past,
          kept.books.within⟩,kept.recorded⟩ room

theorem safeRevert_guarantees {config : LteConfig} {state : WatchdogState} {tally : Tally}
    (kept : KeptBy state tally) : Guarantees capWatch (safeRevert config state) tally StageKept := by
  unfold safeRevert
  split
  · exact kept
  · next untried =>
    refine guarantees_calm ⟨rfl,fun _ => trivial⟩ kept fun found later _ kept => ?_
    cases found with
    | none => exact kept
    | some safe =>
      refine guarantees_calm readCurrentBands_calm kept fun current later _ kept => ?_
      split
      · exact kept
      · have room : later.reverts + 1 ≤ (counts { state with triedSafeRevert := true }).reverts := by
          have covered := kept.books.reverts
          simp only [counts,Counts.reverts,Bool.toNat_true,untried,Bool.toNat_false] at covered ⊢
          omega
        exact revertTo_guarantees
          ⟨⟨kept.books.reregisters,kept.books.airplaneCycles,kept.books.restarts,by omega,kept.books.past,
            kept.books.within⟩,kept.recorded⟩ room

theorem cooldown_pos (state : WatchdogState) (level : Nat) : 0 < state.cooldown level := by
  unfold WatchdogState.cooldown
  split
  · decide
  · split
    · have small : 0 < 300 * 2 ^ min state.l3Attempts 3 := Nat.mul_pos (by decide) (Nat.pow_pos (by decide))
      exact lt_min (Nat.mul_pos small (by decide)) (by decide)
    · split <;> decide

/-- The check of the cooldown, against the last action counted. -/
theorem cooldownElapsed_guarantees {state : WatchdogState} {level : Nat} {tally : Tally} (kept : KeptBy state tally) :
    Guarantees capWatch (cooldownElapsed state level) tally fun elapsed later =>
      Later tally later ∧ (elapsed = true → ∀ act ∈ later.lastAct, act + state.cooldown level ≤ later.clock) := by
  unfold cooldownElapsed
  cases last : state.lastActionAt with
  | none =>
    refine ⟨later_refl tally,fun _ act acted => ?_⟩
    obtain ⟨recorded,there,_⟩ := kept.recorded act acted
    simp [last] at there
  | some recorded =>
    simp only [guarantees_now]
    intro answer (allowed : tally.clock ≤ answer.instant)
    have passed : Later tally (capWatch.track tally ⟨.clock,answer⟩) := ⟨allowed,rfl⟩
    refine ⟨within_later kept.books.within passed,passed,?_⟩
    intro elapsed act acted
    have waited : state.cooldown level ≤ answer.instant - recorded := of_decide_eq_true elapsed
    obtain ⟨other,there,earlier⟩ := kept.recorded act acted
    rw [last,Option.mem_some] at there
    have positive := cooldown_pos state level
    have now : (capWatch.track tally ⟨.clock,answer⟩).clock = answer.instant := rfl
    rw [now]
    omega

/-- What the dispatch hands on: an action still to be recorded may be nudged after when
    it was one of the radio. -/
def DispatchKept (dispatched : Dispatch) (tally : Tally) : Prop :=
  match dispatched with
  | .wait state => KeptBy state tally
  | .acted _ level state => Books (counts state) tally ∧
      (level ≤ 1 → tally.nudges + 1 ≤ tally.reregisters + tally.airplaneCycles)

theorem spaced_dispatched {tally : Tally} {instant cooldown : Nat} (spaced : tally.spaced = true)
    (waited : ∀ act ∈ tally.lastAct, act + cooldown ≤ instant) : (tally.dispatched instant cooldown).spaced = true := by
  unfold Tally.dispatched
  cases acted : tally.lastAct with
  | none => simp [spaced]
  | some act => simp [spaced,waited act acted]

/-- An action after its cooldown, else nothing. -/
theorem afterCooldown_guarantees {state : WatchdogState} {level : Nat} {act : Site → Lte Dispatch} {tally : Tally}
    (kept : KeptBy state tally)
    (acts : ∀ later, KeptBy state later → (∀ act ∈ later.lastAct, act + state.cooldown level ≤ later.clock) →
      Guarantees capWatch (act (.dispatched level (state.cooldown level))) later DispatchKept) :
    Guarantees capWatch (afterCooldown state level act) tally DispatchKept := by
  refine guarantees_call (cooldownElapsed_guarantees kept) ?_
  rintro elapsed later ⟨passed,waited⟩
  have kept := kept_later kept passed
  split
  · next waits => exact acts later kept (waited waits)
  · exact kept

/-- The counter that an action of the dispatch raises. -/
def Counts.raise (counts : Counts) : Action → Counts
  | .reregister => { counts with reregisters := counts.reregisters + 1 }
  | .airplaneCycle => { counts with airplaneCycles := counts.airplaneCycles + 1 }
  | .restartInterface => { counts with ifaceRestarts := counts.ifaceRestarts + 1 }
  | .usbPowerCycle => counts

/-- The cap that the dispatch has checked before an action. -/
def Counts.below (counts : Counts) : Action → Prop
  | .reregister => counts.reregisters < maxReregistersPerEpisode
  | .airplaneCycle => counts.airplaneCycles < maxAirplaneCyclesPerEpisode
  | .restartInterface => counts.ifaceRestarts < maxIfaceRestartsPerEpisode
  | .usbPowerCycle => True

/-- An announced action of the dispatch raises its counter on both sides; after one of
    the radio there is room for a nudge. -/
theorem books_dispatched {counts : Counts} {lastActionAt : Option Nat} {action : Action} {level cooldown instant : Nat}
    {tally : Tally} (kept : Kept counts lastActionAt tally) (below : counts.below action)
    (waited : ∀ act ∈ tally.lastAct, act + cooldown ≤ instant) :
    let after := tally.count ⟨.act action (.dispatched level cooldown),⟨instant,0,()⟩⟩
    Books (counts.raise action) after ∧
      (action = .reregister ∨ action = .airplaneCycle → after.nudges + 1 ≤ after.reregisters + after.airplaneCycles) := by
  intro after
  have capped := kept.books.within
  have radio := kept.books.reregisters
  have cycles := kept.books.airplaneCycles
  have restarts := kept.books.restarts
  have nudges := capped.nudges
  have spaced : after.spaced = true := by
    cases action <;> exact spaced_dispatched capped.spaced waited
  have past : ∀ act ∈ after.lastAct, act ≤ after.clock := by
    intro act acted
    cases action <;> exact le_of_eq (Option.mem_some.mp acted).symm
  cases action with
  | reregister =>
    refine ⟨⟨congrArg (· + 1) radio,cycles,restarts,kept.books.reverts,past,?_⟩,fun _ => ?_⟩
    · exact ⟨(congrArg (· + 1) radio).trans_le below,capped.airplaneCycles,capped.restarts,by simp only [after,Tally.count,Tally.dispatched]; omega,
        capped.reverts,spaced⟩
    · simp only [after,Tally.count,Tally.dispatched]
      omega
  | airplaneCycle =>
    refine ⟨⟨radio,congrArg (· + 1) cycles,restarts,kept.books.reverts,past,?_⟩,fun _ => ?_⟩
    · exact ⟨capped.reregisters,(congrArg (· + 1) cycles).trans_le below,capped.restarts,by simp only [after,Tally.count,Tally.dispatched]; omega,
        capped.reverts,spaced⟩
    · simp only [after,Tally.count,Tally.dispatched]
      omega
  | restartInterface =>
    refine ⟨⟨radio,cycles,congrArg (· + 1) restarts,kept.books.reverts,past,?_⟩,by simp⟩
    exact ⟨capped.reregisters,capped.airplaneCycles,(congrArg (· + 1) restarts).trans_le below,nudges,capped.reverts,spaced⟩
  | usbPowerCycle =>
    refine ⟨⟨radio,cycles,restarts,kept.books.reverts,past,?_⟩,by simp⟩
    exact ⟨capped.reregisters,capped.airplaneCycles,capped.restarts,nudges,capped.reverts,spaced⟩

/-- An action of the dispatch after its cooldown: it is announced, and its calm rest ends
    with the counters that the announcement raised. -/
theorem dispatched_guarantees {α : Type} {state : WatchdogState} {action : Action} {level : Nat} {rest : Lte α}
    {outcome : α → Outcome} {after : α → WatchdogState} {tally : Tally} (kept : KeptBy state tally)
    (below : (counts state).below action) (waited : ∀ act ∈ tally.lastAct, act + state.cooldown level ≤ tally.clock)
    (radio : level ≤ 1 → action = .reregister ∨ action = .airplaneCycle)
    (quiet : Asks (calm ·) rest fun value => counts (after value) = (counts state).raise action) :
    Guarantees capWatch (ask (.act action (.dispatched level (state.cooldown level))) >>= fun _ => rest) tally
      fun value later => DispatchKept (.acted (outcome value) level (after value)) later := by
  refine guarantees_act fun instant allowed => ?_
  obtain ⟨books,nudged⟩ := @books_dispatched _ _ action level _ _ _ kept below fun act acted =>
    (waited act acted).trans allowed
  refine ⟨books.within,guarantees_mono (calm_guarantees quiet books.within) ?_⟩
  rintro value later ⟨same,passed⟩
  refine ⟨same ▸ books_later books passed,fun low => ?_⟩
  rw [passed.same]
  exact nudged (radio low)

theorem dispatchReregister_guarantees {state : WatchdogState} {tally : Tally} (kept : KeptBy state tally)
    (below : state.reregisters < maxReregistersPerEpisode) :
    Guarantees capWatch (dispatchReregister state) tally DispatchKept := by
  refine afterCooldown_guarantees kept fun later kept waited => guarantees_bind.mpr ?_
  refine dispatched_guarantees kept below waited (fun _ => .inl rfl) ?_
  simp only [asks_bind,asks_command]
  refine ⟨rfl,fun reply => ?_⟩
  cases reply <;> rfl

theorem dispatchAirplaneCycle_guarantees {state : WatchdogState} {tally : Tally} (kept : KeptBy state tally)
    (below : state.airplaneCycles < maxAirplaneCyclesPerEpisode) :
    Guarantees capWatch (dispatchAirplaneCycle state) tally DispatchKept := by
  refine afterCooldown_guarantees kept fun later kept waited => guarantees_bind.mpr ?_
  refine dispatched_guarantees kept below waited (fun _ => .inr rfl) ?_
  simp only [asks_bind,asks_command]
  refine ⟨rfl,fun reply => ?_⟩
  cases reply with
  | none => rfl
  | some _ =>
    simp only [asks_bind,asks_sleep,asks_command]
    refine ⟨rfl,rfl,fun reply => ?_⟩
    cases reply <;> rfl

theorem dispatchRestartInterface_guarantees {config : LteConfig} {state : WatchdogState} {tally : Tally}
    (kept : KeptBy state tally) (below : state.ifaceRestarts < maxIfaceRestartsPerEpisode) :
    Guarantees capWatch (dispatchRestartInterface config state) tally DispatchKept := by
  refine afterCooldown_guarantees kept fun later kept waited => ?_
  obtain ⟨rest,same,quiet⟩ := restart_rest_calm config.interface (.dispatched 2 (state.cooldown 2))
  rw [same]
  refine guarantees_bind.mpr (dispatched_guarantees kept below waited (by simp) ?_)
  exact asks_mono quiet fun _ _ => rfl

theorem usbPowerCycle_rest_calm (site : Site) :
    ∃ rest, actionUsbPowerCycle site = (ask (.act .usbPowerCycle site) >>= fun _ => rest) ∧
      Asks (calm ·) rest fun _ => True := by
  have device : ∀ n, Asks (calm ·) (awaitDevice n) fun _ => True := by
    intro n
    induction n with
    | zero => trivial
    | succ n ih =>
      simp only [awaitDevice,ask,asks_bind,asks_sleep,asks_ask,asks_done]
      refine ⟨rfl,rfl,fun present => ?_⟩
      split
      · simp [calm]
      · exact ih
  refine ⟨_,rfl,?_⟩
  simp only [ask,asks_bind,asks_ask,asks_done]
  refine ⟨rfl,fun present => ?_⟩
  split
  · simp only [asks_bind,asks_ask,asks_done]
    refine ⟨rfl,fun off => ?_⟩
    split
    · simp only [asks_bind,asks_sleep,asks_ask,asks_done]
      refine ⟨rfl,rfl,fun on => ?_⟩
      split
      · exact asks_call (device 15) fun _ => trivial
      · trivial
    · trivial
  · trivial

theorem dispatchUsbCycle_guarantees {config : LteConfig} {disconnectSecs : Nat} {state : WatchdogState} {tally : Tally}
    (kept : KeptBy state tally) : Guarantees capWatch (dispatchUsbCycle config disconnectSecs state) tally DispatchKept := by
  refine afterCooldown_guarantees kept fun later kept waited => ?_
  refine guarantees_calm ⟨rfl,fun _ => trivial⟩ kept fun present probed passed kept => ?_
  have waited : ∀ act ∈ probed.lastAct, act + state.cooldown 3 ≤ probed.clock := by
    intro act acted
    rw [passed.same] at acted
    exact (waited act acted).trans passed.clock
  split
  · obtain ⟨rest,same,quiet⟩ := usbPowerCycle_rest_calm (.dispatched 3 (state.cooldown 3))
    rw [same]
    refine guarantees_bind.mpr (dispatched_guarantees kept trivial waited (by simp) ?_)
    exact asks_mono quiet fun _ _ => rfl
  · exact kept

theorem dispatch_guarantees {config : LteConfig} {disconnectSecs : Nat} {state : WatchdogState} {symptom : Symptom}
    {tally : Tally} (kept : KeptBy state tally) :
    Guarantees capWatch (dispatch config disconnectSecs state symptom) tally DispatchKept := by
  obtain ⟨next,noted,_,choice⟩ := dispatch_choice config disconnectSecs state symptom
  have kept : KeptBy next tally := by
    rw [noted]
    exact kept
  rcases choice with same | same | ⟨below,same⟩ | ⟨below,same⟩ | ⟨below,same⟩
  · rw [same]
    exact kept
  · rw [same]
    exact dispatchUsbCycle_guarantees kept
  · rw [same]
    exact dispatchReregister_guarantees kept below
  · rw [same]
    exact dispatchAirplaneCycle_guarantees kept below
  · rw [same]
    exact dispatchRestartInterface_guarantees kept below

/-- The nudge takes the room that an action of the radio left. -/
theorem nudge_guarantees {config : LteConfig} {level : Nat} {counts : Counts} {lastActionAt : Option Nat} {tally : Tally}
    (kept : Kept counts lastActionAt tally)
    (room : level ≤ 1 → tally.nudges + 1 ≤ tally.reregisters + tally.airplaneCycles) :
    Guarantees capWatch (nudge config level) tally fun _ later => Kept counts lastActionAt later := by
  unfold nudge onlyIf
  split
  · next low =>
    refine guarantees_calm (by simp [calm]) kept fun _ slept first kept => ?_
    refine guarantees_calm (by simp [calm]) kept fun hasIp asked second kept => ?_
    split
    · exact kept
    · have room : asked.nudges + 1 ≤ asked.reregisters + asked.airplaneCycles := by
        rw [second.same,first.same]
        exact room (of_decide_eq_true low)
      have nudged : ∀ instant, asked.clock ≤ instant →
          Kept counts lastActionAt (asked.count ⟨.act .restartInterface .nudge,⟨instant,0,()⟩⟩) := by
        intro instant allowed
        have within := kept.books.within
        exact ⟨⟨kept.books.reregisters,kept.books.airplaneCycles,kept.books.restarts,kept.books.reverts,
          fun act acted => (kept.books.past act acted).trans allowed,
          ⟨within.reregisters,within.airplaneCycles,within.restarts,room,within.reverts,within.spaced⟩⟩,kept.recorded⟩
      refine guarantees_call (restart_guarantees fun instant allowed => (nudged instant allowed).books.within) ?_
      rintro _ later ⟨instant,allowed,passed⟩
      exact kept_later (nudged instant allowed) passed
  · exact kept

theorem afterAction_guarantees {config : LteConfig} {symptom : Symptom} {action : Outcome} {level : Nat}
    {watchdog : Watchdog} {state : WatchdogState} {tally : Tally} (books : Books (counts state) tally)
    (room : level ≤ 1 → tally.nudges + 1 ≤ tally.reregisters + tally.airplaneCycles) :
    Guarantees capWatch (afterAction config symptom action level watchdog state) tally fun after later =>
      KeptBy after.state later := by
  unfold afterAction
  have counted : Books (counts (if symptom = .unresponsive then state else { state with consecutiveAtFailures := 0 }))
      tally := by
    split
    · exact books
    · exact books
  refine guarantees_call (recordAction_guarantees counted) ?_
  rintro recorded later ⟨kept,passed⟩
  have room : level ≤ 1 → later.nudges + 1 ≤ later.reregisters + later.airplaneCycles := by
    rw [passed.same]
    exact room
  refine guarantees_call (nudge_guarantees kept room) fun _ nudged kept => ?_
  refine guarantees_calm (verifyRecovery_calm _) kept fun verified looked _ kept => ?_
  split
  · exact guarantees_call (resetEpisode_guarantees kept.books.within) fun cleared last kept => kept
  · split
    · dsimp only
      split
      · exact kept
      · exact kept
    · exact kept

theorem respond_guarantees {config : LteConfig} {disconnectSecs : Nat} {watchdog : Watchdog} {state : WatchdogState}
    {tally : Tally} (kept : KeptBy state tally) :
    Guarantees capWatch (respond config disconnectSecs watchdog state) tally fun after later =>
      KeptBy after.state later := by
  refine guarantees_calm (diagnose_calm state) kept fun symptom diagnosed _ kept => ?_
  have noted : KeptBy { state with lastSymptom := some symptom } diagnosed := kept
  refine guarantees_call (dispatch_guarantees noted) fun dispatched later held => ?_
  cases dispatched with
  | wait state => exact held
  | acted action level state => exact afterAction_guarantees held.1 held.2

theorem since_calm (field : Option Nat) : Asks (calm ·) (since field) fun _ => True := by
  unfold since
  split
  · trivial
  · simp [calm]

theorem tieredReset_guarantees {watchdog : Watchdog} {connected : Nat} {tally : Tally}
    (kept : KeptBy watchdog.state tally) :
    Guarantees capWatch (tieredReset watchdog connected) tally fun after later => KeptBy after.state later := by
  unfold tieredReset
  split
  · split
    · refine guarantees_call (resetEpisode_guarantees kept.books.within) fun cleared later kept => ?_
      refine guarantees_calm ?_ kept fun _ reported _ kept => kept
      unfold onlyIf
      split
      · exact ⟨rfl,fun _ => trivial⟩
      · trivial
    · split
      · exact guarantees_call (resetEpisode_guarantees kept.books.within) fun cleared later kept => kept
      · exact kept
  · exact kept

theorem connectedTick_guarantees {watchdog : Watchdog} {tally : Tally} (kept : KeptBy watchdog.state tally) :
    Guarantees capWatch (connectedTick watchdog) tally fun after later => KeptBy after.state later := by
  refine guarantees_calm (since_calm _) kept fun began looked _ kept => ?_
  refine guarantees_calm (by simp [calm]) kept fun instant again _ kept => ?_
  refine guarantees_call (tieredReset_guarantees kept) fun after reset kept => ?_
  exact guarantees_calm ⟨rfl,fun _ => trivial⟩ kept fun _ promoted _ kept => kept

theorem effectiveGrace_calm (config : LteConfig) (state : WatchdogState) :
    Asks (calm ·) (effectiveGrace config state) fun found =>
      counts found.2 = counts state ∧ found.2.lastActionAt = state.lastActionAt := by
  simp only [effectiveGrace,asks_bind,asks_command]
  refine ⟨rfl,fun reply => ?_⟩
  split
  · exact asks_call (since_calm _) fun _ => ⟨rfl,rfl⟩
  · exact ⟨rfl,rfl⟩

theorem disconnectedTick_guarantees {config : LteConfig} {watchdog : Watchdog} {tally : Tally}
    (kept : KeptBy watchdog.state tally) :
    Guarantees capWatch (disconnectedTick config watchdog) tally fun after later => KeptBy after.state later := by
  refine guarantees_calm ⟨rfl,fun _ => trivial⟩ kept fun _ forgot _ kept => ?_
  refine guarantees_calm (since_calm _) kept fun began looked _ kept => ?_
  refine guarantees_calm (by simp [calm]) kept fun instant again _ kept => ?_
  refine guarantees_call (calm_guarantees (effectiveGrace_calm config _) kept.books.within) ?_
  rintro ⟨grace,state⟩ later ⟨⟨same,record⟩,passed⟩
  have kept : KeptBy state later := by
    unfold KeptBy
    rw [same,record]
    exact kept_later kept passed
  dsimp only
  split
  · exact kept
  · refine guarantees_call (prechangeRevert_guarantees kept) fun stage reverted held => ?_
    cases stage with
    | ended state => exact held
    | onward state =>
      refine guarantees_call (safeRevert_guarantees held) fun stage reverted held => ?_
      cases stage with
      | ended state => exact held
      | onward state => exact respond_guarantees held

theorem tick_guarantees {config : LteConfig} {watchdog : Watchdog} {tally : Tally} (kept : KeptBy watchdog.state tally) :
    Guarantees capWatch (tick config watchdog) tally fun after later => KeptBy after.state later := by
  refine guarantees_calm ⟨rfl,fun _ => trivial⟩ kept fun skipped checked _ kept => ?_
  split
  · exact kept
  · refine guarantees_calm ⟨rfl,fun _ => trivial⟩ kept fun active checked _ kept => ?_
    split
    · exact kept
    · refine guarantees_calm ⟨rfl,fun _ => trivial⟩ kept fun connected asked _ kept => ?_
      split
      · exact connectedTick_guarantees kept
      · exact disconnectedTick_guarantees kept

theorem loop_guarantees {config : LteConfig} {n : Nat} {watchdog : Watchdog} {tally : Tally}
    (kept : KeptBy watchdog.state tally) :
    Guarantees capWatch (loop config n watchdog) tally fun after later => KeptBy after.state later := by
  induction n generalizing watchdog tally with
  | zero => exact kept
  | succ n ih => exact guarantees_call (tick_guarantees kept) fun after later kept => ih kept

/-- A device whose modem gives up its registration for good, with the tunnel up for a while
    at the start: the clock moves with the ticks and the sleeps. -/
def unregistered (clock : Nat) (question : Ask) : Answer question × Nat :=
  let clock := match question with
    | .shared .skipTick => (clock / tickInterval + 1) * tickInterval
    | .sleep wait => clock + wait
    | _ => clock
  let reply : question.Reply := match question with
    | .command .registration => some "+CEREG: 0,0\r\nOK".toList
    | .connected => secs 60 ≤ clock && clock < secs 200
    | question => plainReply question
  (⟨clock,clock / secs 1,reply⟩,clock)

def outageConfig : LteConfig := { interface := ⟨"wwan0",true,none⟩ }

/-- Nineteen ticks of it: a light reset, then a re-registration and two airplane cycles,
    each nudged after. -/
def outage : List LteTurn := ((loop outageConfig 19 {}).follow unregistered 0).1

end Sctl.WatchdogCaps
