import Sctl.Runs
import Sctl.LteQuestions

/-!
The full reset of the watchdog after an outage. A connected tick clears the
episode after 90 seconds and everything after 300, but both tiers look at the
start of the outage, and the first one forgets it. So a stable tunnel reaches
the second tier only when no tick falls between the two.
-/
namespace Sctl.WatchdogResets
open LteBands LteShared LtePrograms LteWatchdog LteQuestions Dialogues Runs

/-- The tick is not suppressed, and it sees the tunnel connected. -/
def seesConnected : List LteTurn → Bool
  | ⟨.shared .skipTick,skip⟩ :: ⟨.shared .userSuppressed,active⟩ :: ⟨.connected,connected⟩ :: _ =>
    !skip.value && !active.value && connected.value
  | _ => false

/-- The clock readings of a tick. -/
def readings (turns : List LteTurn) : List Nat :=
  (turns.filter fun turn => turn.question = .clock).map (·.answer.instant)

/-- The instant at which a connected tick looks how long the tunnel has been up. -/
def lookedAt (turns : List LteTurn) : Nat := (readings turns).getLast?.getD 0

/-- The exhaustion report goes out in the tick. -/
def reports (turns : List LteTurn) : Bool := turns.any fun turn => turn.question = .report

/-- The watchdog with the tunnel connected since an instant. -/
def upSince (watchdog : Watchdog) (began : Nat) : Watchdog :=
  { watchdog with state := { watchdog.state with tunnelConnectedSince := some began } }

/-- The tiered reset, as it leaves the watchdog. -/
def tiered (watchdog : Watchdog) (connected : Nat) : Watchdog :=
  if watchdog.state.tunnelDisconnectSince.isSome then
    if connected ≥ safePromoteThreshold then ⟨watchdog.state.heavyReset,false⟩
    else if connected ≥ lightResetThreshold then { watchdog with state := watchdog.state.lightReset }
    else watchdog
  else watchdog

/-- A reset is one turn, announced. -/
theorem resetEpisode_ends {kind : Reset} {state after : WatchdogState} {turns : List LteTurn}
    (ended : (resetEpisode kind state).Ends turns after) :
    (∃ answer, turns = [⟨.reset kind,answer⟩]) ∧ after = state.reset kind := by
  unfold resetEpisode at ended
  obtain ⟨answer,later,rfl,rest⟩ := ends_question.mp ended
  obtain ⟨rfl,rfl⟩ := Dialogue.ends_done.mp rest
  exact ⟨⟨answer,rfl⟩,rfl⟩

/-- The tiered reset reads no clock, and reports exactly when it takes the file away. -/
theorem tieredReset_ends {watchdog after : Watchdog} {connected : Nat} {turns : List LteTurn}
    (ended : (tieredReset watchdog connected).Ends turns after) :
    after = tiered watchdog connected ∧ readings turns = [] ∧
      (reports turns = true ↔ watchdog.exhausted = true ∧ after.exhausted = false) := by
  unfold tieredReset at ended
  unfold tiered
  split at ended
  · next down =>
    rw [if_pos down]
    split at ended
    · next long =>
      rw [if_pos long]
      obtain ⟨early,late,state,rfl,reset,rest⟩ := Dialogue.ends_bind.mp ended
      obtain ⟨⟨answer,rfl⟩,rfl⟩ := resetEpisode_ends reset
      obtain ⟨early,late,_,rfl,reported,done⟩ := Dialogue.ends_bind.mp rest
      obtain ⟨rfl,rfl⟩ := Dialogue.ends_done.mp done
      unfold onlyIf at reported
      split at reported
      · next pending =>
        obtain ⟨answer,later,rfl,told⟩ := Dialogue.ends_ask.mp reported
        obtain ⟨rfl,_⟩ := Dialogue.ends_done.mp told
        simp [readings,reports,pending,WatchdogState.reset]
      · next none =>
        obtain ⟨rfl,_⟩ := Dialogue.ends_done.mp reported
        simp [readings,reports,none,WatchdogState.reset]
    · next short =>
      rw [if_neg short]
      split at ended
      · next light =>
        rw [if_pos light]
        obtain ⟨early,late,state,rfl,reset,rest⟩ := Dialogue.ends_bind.mp ended
        obtain ⟨⟨answer,rfl⟩,rfl⟩ := resetEpisode_ends reset
        obtain ⟨rfl,rfl⟩ := Dialogue.ends_done.mp rest
        cases watchdog.exhausted <;> simp [readings,reports,WatchdogState.reset]
      · next early =>
        rw [if_neg early]
        obtain ⟨rfl,rfl⟩ := Dialogue.ends_done.mp ended
        cases watchdog.exhausted <;> simp [readings,reports]
  · next up =>
    rw [if_neg up]
    obtain ⟨rfl,rfl⟩ := Dialogue.ends_done.mp ended
    cases watchdog.exhausted <;> simp [readings,reports]

theorem readings_append (first second : List LteTurn) : readings (first ++ second) = readings first ++ readings second := by
  simp [readings]

theorem reports_append (first second : List LteTurn) : reports (first ++ second) = (reports first || reports second) := by
  simp [reports]

/-- The tick of a connected tunnel: it looks at the clock, last of all readings, and
    resets by how long the tunnel has been up. -/
theorem connectedTick_ends {watchdog after : Watchdog} {turns : List LteTurn}
    (ended : (connectedTick watchdog).Ends turns after) :
    ∃ began, began = watchdog.state.tunnelConnectedSince.getD ((readings turns).headD 0) ∧
      lookedAt turns ∈ readings turns ∧
      after = tiered (upSince watchdog began) (lookedAt turns - began) ∧
      (reports turns = true ↔ watchdog.exhausted = true ∧ after.exhausted = false) := by
  unfold connectedTick at ended
  obtain ⟨first,rest,began,rfl,started,onward⟩ := Dialogue.ends_bind.mp ended
  obtain ⟨looked,later,rfl,reset⟩ := ends_now.mp onward
  obtain ⟨early,last,next,rfl,tiers,promotion⟩ := Dialogue.ends_bind.mp reset
  obtain ⟨promoted,final,rfl,done⟩ := ends_question.mp promotion
  obtain ⟨rfl,rfl⟩ := Dialogue.ends_done.mp done
  obtain ⟨rfl,quiet,reported⟩ := tieredReset_ends tiers
  have rest : readings (⟨.clock,looked⟩ :: (early ++ [⟨.shared .promoteStable,promoted⟩])) = [looked.instant] := by
    rw [← List.singleton_append,readings_append,readings_append,quiet]
    simp [readings]
  have told : reports (⟨.clock,looked⟩ :: (early ++ [⟨.shared .promoteStable,promoted⟩])) = reports early := by
    simp [reports]
  refine ⟨began,?_⟩
  rw [lookedAt,readings_append,rest,reports_append,told]
  unfold since at started
  cases connected : watchdog.state.tunnelConnectedSince with
  | some instant =>
    rw [connected] at started
    obtain ⟨rfl,rfl⟩ := Dialogue.ends_done.mp started
    exact ⟨rfl,by simp [readings],by simp [readings,upSince],by simpa [reports] using reported⟩
  | none =>
    rw [connected] at started
    obtain ⟨answer,later,rfl,found⟩ := Dialogue.ends_ask.mp started
    obtain ⟨rfl,rfl⟩ := Dialogue.ends_done.mp found
    exact ⟨by simp [readings],by simp [readings],by simp [readings,upSince],by simpa [reports] using reported⟩

/-- A tick that sees the tunnel connected is the connected tick, after its checks. -/
theorem seesConnected_ends {config : LteConfig} {watchdog after : Watchdog} {turns : List LteTurn}
    (ended : (tick config watchdog).Ends turns after) (connected : seesConnected turns = true) :
    ∃ later, readings turns = readings later ∧ reports turns = reports later ∧
      (connectedTick watchdog).Ends later after := by
  obtain ⟨skip,first,rfl,afterSkip⟩ := ends_question.mp ended
  by_cases skipped : skip.value = true
  · rw [if_pos skipped] at afterSkip
    obtain ⟨rfl,_⟩ := Dialogue.ends_done.mp afterSkip
    simp [seesConnected] at connected
  rw [if_neg skipped] at afterSkip
  obtain ⟨user,second,rfl,afterUser⟩ := ends_question.mp afterSkip
  by_cases active : user.value = true
  · rw [if_pos active] at afterUser
    obtain ⟨rfl,_⟩ := Dialogue.ends_done.mp afterUser
    simp [seesConnected] at connected
  rw [if_neg active] at afterUser
  obtain ⟨up,third,rfl,afterUp⟩ := ends_question.mp afterUser
  have seen : up.value = true := by
    simp only [seesConnected,Bool.and_eq_true] at connected
    exact connected.2
  rw [if_pos seen] at afterUp
  exact ⟨third,by simp [readings],by simp [reports],afterUp⟩

/-- What one connected tick of a run does. -/
theorem connected_step {config : LteConfig} {watchdog after : Watchdog} {turns : List LteTurn}
    (stepped : tickOnce config watchdog turns = some after) (connected : seesConnected turns = true) :
    ∃ began, began = watchdog.state.tunnelConnectedSince.getD ((readings turns).headD 0) ∧
      lookedAt turns ∈ readings turns ∧ after = tiered (upSince watchdog began) (lookedAt turns - began) ∧
      (reports turns = true ↔ watchdog.exhausted = true ∧ after.exhausted = false) := by
  obtain ⟨later,read,told,ended⟩ := seesConnected_ends (tickOnce_iff.mp stepped) connected
  rw [lookedAt,read,told,← lookedAt]
  exact connectedTick_ends ended

section
variable {state : WatchdogState} {config : LteConfig}

/-- A tick looks whether there are bands to go back to. -/
def Checks : Ask → Prop
  | .shared (.prechangeInfo _) => True
  | _ => False

/-- Questions other than that look. -/
def NotCheck (question : Ask) : Prop := ¬ Checks question

theorem notCheck_plain (question : Ask) (plain : Plain question) : NotCheck question := by
  unfold NotCheck
  cases question with
  | shared region => exact plain.elim
  | _ => exact id

/-- A relation that the reverts and the recovery actions of a tick keep to. -/
structure Follows (R : WatchdogState → WatchdogState → Prop) : Prop where
  trans : ∀ {s t u}, R s t → R t u → R s u
  noted : ∀ {s t : WatchdogState}, t.tunnelConnectedSince = s.tunnelConnectedSince → t.l3Attempts = s.l3Attempts →
    t.dormant = s.dormant → t.tunnelDisconnectSince = s.tunnelDisconnectSince →
    t.triedPrechangeRevert = s.triedPrechangeRevert → R s t
  cleared : ∀ s : WatchdogState, R s s.lightReset
  slept : ∀ s, R s { s with dormant := true }
  failed : ∀ s, R s { s with l3Attempts := s.l3Attempts + 1 }

/-- A relation that whatever a disconnected tick does to the state keeps to. -/
structure Carries (R : WatchdogState → WatchdogState → Prop) : Prop where
  trans : ∀ {s t u}, R s t → R t u → R s u
  noted : ∀ {s t : WatchdogState}, t.tunnelConnectedSince = s.tunnelConnectedSince → t.l3Attempts = s.l3Attempts →
    t.dormant = s.dormant → R s t
  slept : ∀ s, R s { s with dormant := true }
  failed : ∀ s, R s { s with l3Attempts := s.l3Attempts + 1 }

variable {R : WatchdogState → WatchdogState → Prop}

theorem Carries.follows (carries : Carries R) : Follows R where
  trans := carries.trans
  noted connected cycles dormant _ _ := carries.noted connected cycles dormant
  cleared _ := carries.noted rfl rfl rfl
  slept := carries.slept
  failed := carries.failed

theorem Follows.same (follows : Follows R) {s t : WatchdogState} (kept : t = { s with
    lastActionAt := t.lastActionAt, lastSymptom := t.lastSymptom, lastAction := t.lastAction,
    consecutiveAtFailures := t.consecutiveAtFailures, reregisters := t.reregisters, ifaceRestarts := t.ifaceRestarts,
    airplaneCycles := t.airplaneCycles, searchingSince := t.searchingSince, triedSafeRevert := t.triedSafeRevert,
    episodeActions := t.episodeActions }) : R s t := by
  rw [kept]
  exact follows.noted rfl rfl rfl rfl rfl

theorem recordAction_follows (follows : Follows R) {action : Outcome} : Asks NotCheck (recordAction state action) (R state) :=
  ⟨id,fun _ => follows.same rfl⟩

theorem lightReset_follows (follows : Follows R) : Asks NotCheck (resetEpisode .light state) (R state) :=
  ⟨id,fun _ => follows.cleared state⟩

/-- The state that a stage hands on. -/
def stageState : Stage → WatchdogState
  | .ended state | .onward state => state

theorem revertTo_follows (follows : Follows R) {bands : List Nat} {priority : Option Nat} {action : Outcome} :
    Asks NotCheck (revertTo config bands priority action state) fun stage => R state (stageState stage) := by
  refine asks_call (applyBandConfig_asks notCheck_plain fun _ => id) fun applied => ?_
  split
  · refine asks_call ⟨id,fun _ => trivial⟩ fun _ => asks_bind.mpr ?_
    refine asks_mono (recordAction_follows follows) fun recorded same => ?_
    refine asks_call ⟨id,fun _ => trivial⟩ fun _ => ?_
    refine asks_call (verifyRecovery_asks notCheck_plain) fun verified => ?_
    split
    · refine asks_bind.mpr (asks_mono (lightReset_follows follows) fun cleared reset => ?_)
      exact follows.trans same reset
    · exact same
  · exact follows.same rfl

theorem safeRevert_follows (follows : Follows R) :
    Asks NotCheck (safeRevert config state) fun stage => R state (stageState stage) := by
  unfold safeRevert
  split
  · exact follows.same rfl
  · refine asks_call ⟨id,fun _ => trivial⟩ fun found => ?_
    cases found with
    | none => exact follows.same rfl
    | some safe =>
      refine asks_call (readCurrentBands_asks notCheck_plain) fun current => ?_
      split
      · exact follows.same rfl
      · have tried : R state { state with triedSafeRevert := true } := follows.same rfl
        exact asks_mono (revertTo_follows follows) fun stage kept => follows.trans tried kept

/-- The state that a dispatch hands on. -/
def dispatchState : Dispatch → WatchdogState
  | .wait state => state
  | .acted _ _ state => state

theorem afterCooldown_follows (follows : Follows R) {level : Nat} {act : Site → Lte Dispatch}
    (acts : ∀ site, Asks NotCheck (act site) fun dispatched => R state (dispatchState dispatched)) :
    Asks NotCheck (afterCooldown state level act) fun dispatched => R state (dispatchState dispatched) := by
  refine asks_call (cooldownElapsed_asks notCheck_plain) fun elapsed => ?_
  split
  · exact acts _
  · exact follows.same rfl

theorem dispatchReregister_follows (follows : Follows R) :
    Asks NotCheck (dispatchReregister state) fun dispatched => R state (dispatchState dispatched) := by
  refine afterCooldown_follows follows fun site => asks_bind.mpr ⟨id,fun _ => ⟨id,fun reply => ?_⟩⟩
  obtain ⟨_,_,_ | _⟩ := reply
  · exact follows.same rfl
  · exact follows.same rfl

theorem dispatchAirplaneCycle_follows (follows : Follows R) :
    Asks NotCheck (dispatchAirplaneCycle state) fun dispatched => R state (dispatchState dispatched) := by
  refine afterCooldown_follows follows fun site => asks_bind.mpr ⟨id,fun _ => ⟨id,fun reply => ?_⟩⟩
  obtain ⟨_,_,_ | _⟩ := reply
  · exact follows.same rfl
  · refine ⟨id,fun _ => ⟨id,fun reply => ?_⟩⟩
    obtain ⟨_,_,_ | _⟩ := reply
    · exact follows.same rfl
    · exact follows.same rfl

theorem dispatchRestartInterface_follows (follows : Follows R) :
    Asks NotCheck (dispatchRestartInterface config state) fun dispatched => R state (dispatchState dispatched) := by
  refine afterCooldown_follows follows fun _ => asks_call (actionRestartInterface_asks notCheck_plain) fun _ => ?_
  exact follows.same rfl

theorem dispatchUsbCycle_follows (follows : Follows R) {disconnectSecs : Nat} :
    Asks NotCheck (dispatchUsbCycle config disconnectSecs state) fun dispatched => R state (dispatchState dispatched) := by
  refine afterCooldown_follows follows fun site => asks_call ⟨id,fun _ => trivial⟩ fun present => ?_
  split
  · exact asks_call (actionUsbPowerCycle_asks notCheck_plain) fun _ => follows.same rfl
  · exact follows.slept state

theorem noted_follows (follows : Follows R) {next : WatchdogState} (noted : Noted state next)
    (dormant : next.dormant = state.dormant ∨ next.dormant = true) : R state next := by
  rcases dormant with same | slept
  · rw [noted]
    exact follows.noted rfl rfl same rfl rfl
  · rw [noted]
    exact follows.trans (follows.slept state) (follows.noted rfl rfl slept rfl rfl)

theorem dispatch_follows (follows : Follows R) {disconnectSecs : Nat} {symptom : Symptom} :
    Asks NotCheck (dispatch config disconnectSecs state symptom) fun dispatched => R state (dispatchState dispatched) := by
  obtain ⟨next,noted,dormant,choice⟩ := dispatch_choice config disconnectSecs state symptom
  have first : R state next := noted_follows follows noted dormant
  rcases choice with chosen | chosen | ⟨_,chosen⟩ | ⟨_,chosen⟩ | ⟨_,chosen⟩
  · rw [chosen]
    exact first
  · rw [chosen]
    exact asks_mono (dispatchUsbCycle_follows follows) fun _ kept => follows.trans first kept
  · rw [chosen]
    exact asks_mono (dispatchReregister_follows follows) fun _ kept => follows.trans first kept
  · rw [chosen]
    exact asks_mono (dispatchAirplaneCycle_follows follows) fun _ kept => follows.trans first kept
  · rw [chosen]
    exact asks_mono (dispatchRestartInterface_follows follows) fun _ kept => follows.trans first kept

theorem afterAction_follows (follows : Follows R) {symptom : Symptom} {action : Outcome} {level : Nat} {watchdog : Watchdog} :
    Asks NotCheck (afterAction config symptom action level watchdog state) fun after => R state after.state := by
  refine asks_bind.mpr (asks_mono (recordAction_follows follows) fun recorded same => ?_)
  have first : R state recorded := by
    refine follows.trans ?_ same
    split
    · exact follows.same rfl
    · exact follows.same rfl
  refine asks_call (nudge_asks notCheck_plain) fun _ => ?_
  refine asks_call (verifyRecovery_asks notCheck_plain) fun verified => ?_
  split
  · exact asks_bind.mpr (asks_mono (lightReset_follows follows) fun cleared reset => follows.trans first reset)
  · split
    · have failed : R state { recorded with l3Attempts := recorded.l3Attempts + 1 } := follows.trans first (follows.failed recorded)
      dsimp only
      split
      · exact follows.trans failed (follows.slept _)
      · exact failed
    · exact first

theorem respond_follows (follows : Follows R) {disconnectSecs : Nat} {watchdog : Watchdog} :
    Asks NotCheck (respond config disconnectSecs watchdog state) fun after => R state after.state := by
  refine asks_call (diagnose_asks notCheck_plain) fun symptom => asks_bind.mpr ?_
  refine asks_mono (dispatch_follows follows) fun dispatched handled => ?_
  have seen : R state { state with lastSymptom := some symptom } := follows.same rfl
  have kept := follows.trans seen handled
  cases dispatched with
  | wait state => exact kept
  | acted action level state => exact asks_mono (afterAction_follows follows) fun after acted => follows.trans kept acted

theorem prechangeRevert_carries (carries : Carries R) :
    Asks (fun _ => True) (prechangeRevert config state) fun stage => R state (stageState stage) := by
  unfold prechangeRevert
  split
  · exact carries.noted rfl rfl rfl
  · refine asks_call (asks_anything fun _ => trivial) fun found => ?_
    cases found with
    | none => exact carries.noted rfl rfl rfl
    | some before =>
      have tried : R state { state with triedPrechangeRevert := true } := carries.noted rfl rfl rfl
      exact asks_mono (asks_weaken (fun _ _ => trivial) (revertTo_follows carries.follows)) fun stage kept => carries.trans tried kept

/-- What a disconnected tick does, once it has forgotten when the tunnel came up. -/
theorem disconnectedTick_carries (carries : Carries R) {watchdog : Watchdog} :
    Asks (fun _ => True) (disconnectedTick config watchdog) fun after =>
      R { watchdog.state with tunnelConnectedSince := none } after.state := by
  refine asks_call (asks_anything fun _ => trivial) fun _ => ?_
  refine asks_call (asks_anything fun _ => trivial) fun began => ?_
  refine asks_call (asks_anything fun _ => trivial) fun instant => asks_bind.mpr ?_
  have grace : ∀ state : WatchdogState,
      Asks (fun _ => True) (effectiveGrace config state) fun found => R state found.2 := by
    intro state
    refine asks_call (asks_anything fun _ => trivial) fun reply => ?_
    split
    · exact asks_call (asks_anything fun _ => trivial) fun _ => carries.noted rfl rfl rfl
    · exact carries.noted rfl rfl rfl
  refine asks_mono (grace _) fun found waited => ?_
  have started : R { watchdog.state with tunnelConnectedSince := none }
      { watchdog.state with tunnelConnectedSince := none, tunnelDisconnectSince := some began } := carries.noted rfl rfl rfl
  have same := carries.trans started waited
  dsimp only
  split
  · exact same
  · refine asks_bind.mpr (asks_mono (prechangeRevert_carries carries) fun stage reverted => ?_)
    have reverted := carries.trans same reverted
    cases stage with
    | ended state => exact reverted
    | onward state =>
      refine asks_bind.mpr (asks_mono (asks_weaken (fun _ _ => trivial) (safeRevert_follows carries.follows)) fun stage restored => ?_)
      have restored := carries.trans reverted restored
      cases stage with
      | ended state => exact restored
      | onward state =>
        exact asks_mono (asks_weaken (fun _ _ => trivial) (respond_follows carries.follows)) fun after kept => carries.trans restored kept

/-- A disconnected tick forgets when the tunnel came up. -/
theorem disconnectedTick_forgets {watchdog : Watchdog} :
    Asks (fun _ => True) (disconnectedTick config watchdog) fun after => after.state.tunnelConnectedSince = none := by
  have same : Carries fun s t : WatchdogState => t.tunnelConnectedSince = s.tunnelConnectedSince :=
    ⟨fun first second => second.trans first,fun same _ _ => same,fun _ => rfl,fun _ => rfl⟩
  exact disconnectedTick_carries same

end

theorem tiered_connection (watchdog : Watchdog) (connected : Nat) :
    (tiered watchdog connected).state.tunnelConnectedSince = watchdog.state.tunnelConnectedSince := by
  unfold tiered
  split
  · split
    · rfl
    · split <;> rfl
  · rfl

/-- The instant of the connection was read off the clock in some tick before. -/
theorem tick_connection {config : LteConfig} {watchdog after : Watchdog} {turns : List LteTurn} {began : Nat}
    (stepped : tickOnce config watchdog turns = some after) (up : after.state.tunnelConnectedSince = some began) :
    watchdog.state.tunnelConnectedSince = some began ∨ began ∈ readings turns := by
  have ended := tickOnce_iff.mp stepped
  obtain ⟨skip,first,rfl,afterSkip⟩ := ends_question.mp ended
  by_cases skipped : skip.value = true
  · rw [if_pos skipped] at afterSkip
    obtain ⟨rfl,rfl⟩ := Dialogue.ends_done.mp afterSkip
    exact .inl up
  rw [if_neg skipped] at afterSkip
  obtain ⟨user,second,rfl,afterUser⟩ := ends_question.mp afterSkip
  by_cases active : user.value = true
  · rw [if_pos active] at afterUser
    obtain ⟨rfl,rfl⟩ := Dialogue.ends_done.mp afterUser
    exact .inl up
  rw [if_neg active] at afterUser
  obtain ⟨connected,third,rfl,afterUp⟩ := ends_question.mp afterUser
  by_cases seen : connected.value = true
  · rw [if_pos seen] at afterUp
    obtain ⟨instant,same,looked,rfl,_⟩ := connectedTick_ends afterUp
    rw [tiered_connection,upSince,Option.some.injEq] at up
    subst up
    cases before : watchdog.state.tunnelConnectedSince with
    | some earlier => exact .inl (congrArg some (by rw [same,before]; rfl))
    | none =>
      refine .inr ?_
      rw [before,Option.getD_none] at same
      have read : readings third ≠ [] := fun none => by simp [none] at looked
      obtain ⟨head,tail,split⟩ := List.exists_cons_of_ne_nil read
      rw [split,List.headD_cons] at same
      have member : instant ∈ readings third := by simp [split,same]
      simpa [readings] using member
  · rw [if_neg seen] at afterUp
    rw [asks_ends disconnectedTick_forgets afterUp] at up
    simp at up

theorem run_connection {config : LteConfig} {history : List (List LteTurn)} {watchdog after : Watchdog} {began : Nat}
    (ran : run (tickOnce config) watchdog history = some after) (up : after.state.tunnelConnectedSince = some began) :
    watchdog.state.tunnelConnectedSince = some began ∨ ∃ turns ∈ history, began ∈ readings turns := by
  induction history generalizing watchdog with
  | nil => cases ran; exact .inl up
  | cons turns history ih =>
    obtain ⟨mid,stepped,later⟩ := run_cons_iff.mp ran
    rcases ih later with before | ⟨other,member,read⟩
    · rcases tick_connection stepped before with earlier | read
      · exact .inl earlier
      · exact .inr ⟨turns,by simp,read⟩
    · exact .inr ⟨other,by simp [member],read⟩

/-- Nothing is left to reset, and no report to send. -/
structure Settled (watchdog : Watchdog) : Prop where
  l3Attempts : watchdog.state.l3Attempts = 0
  dormant : watchdog.state.dormant = false
  exhausted : watchdog.exhausted = false

/-- A tunnel that has been up so long is between the two tiers. -/
def BetweenTiers (connected : Nat) : Prop := lightResetThreshold ≤ connected ∧ connected < safePromoteThreshold

instance : DecidablePred BetweenTiers := fun _ => inferInstanceAs (Decidable (_ ∧ _))

/-- The tiers have no hold on an outage that is forgotten. -/
theorem tiered_forgotten {watchdog : Watchdog} {durations : List Nat}
    (forgotten : watchdog.state.tunnelDisconnectSince = none) : durations.foldl tiered watchdog = watchdog := by
  induction durations with
  | nil => rfl
  | cons connected durations ih =>
    rw [List.foldl_cons,show tiered watchdog connected = watchdog by simp [tiered,forgotten]]
    exact ih

/-- Over looks that grow to five minutes, everything is settled in the end exactly when it
    was at the start, or the outage was open and no look fell between the tiers. -/
theorem settled_foldl_iff {watchdog : Watchdog} {durations : List Nat} (grow : durations.Pairwise (· ≤ ·))
    (long : ∃ connected ∈ durations, safePromoteThreshold ≤ connected) :
    Settled (durations.foldl tiered watchdog) ↔
      Settled watchdog ∨
        (watchdog.state.tunnelDisconnectSince.isSome ∧ ∀ connected ∈ durations, ¬ BetweenTiers connected) := by
  induction durations with
  | nil => simp at long
  | cons connected durations ih =>
    obtain ⟨first,grow⟩ := List.pairwise_cons.mp grow
    rw [List.foldl_cons]
    cases outage : watchdog.state.tunnelDisconnectSince with
    | none =>
      rw [show tiered watchdog connected = watchdog by simp [tiered,outage],tiered_forgotten outage]
      simp
    | some since =>
      by_cases heavy : safePromoteThreshold ≤ connected
      · have cleared : tiered watchdog connected = ⟨watchdog.state.heavyReset,false⟩ := by
          simp [tiered,outage,heavy]
        rw [cleared,tiered_forgotten rfl]
        refine iff_of_true ⟨rfl,rfl,rfl⟩ (.inr ⟨rfl,?_⟩)
        intro other member between
        have later : connected ≤ other := by
          rcases List.mem_cons.mp member with rfl | after
          · exact le_rfl
          · exact first other after
        exact absurd between.2 (not_lt.mpr (heavy.trans later))
      · by_cases light : lightResetThreshold ≤ connected
        · have cleared : tiered watchdog connected = { watchdog with state := watchdog.state.lightReset } := by
            simp [tiered,outage,heavy,light]
          rw [cleared,tiered_forgotten rfl]
          have between : BetweenTiers connected := ⟨light,not_le.mp heavy⟩
          constructor
          · intro settled
            exact .inl ⟨settled.l3Attempts,settled.dormant,settled.exhausted⟩
          · rintro (settled | ⟨_,none⟩)
            · exact ⟨settled.l3Attempts,settled.dormant,settled.exhausted⟩
            · exact absurd between (none connected (by simp))
        · have kept : tiered watchdog connected = watchdog := by simp [tiered,outage,heavy,light]
          have later : ∃ other ∈ durations, safePromoteThreshold ≤ other := by
            obtain ⟨other,member,enough⟩ := long
            rcases List.mem_cons.mp member with rfl | after
            · exact absurd enough heavy
            · exact ⟨other,after,enough⟩
          rw [kept,ih grow later,outage]
          simp [BetweenTiers,light]

theorem tiered_exhausted {watchdog : Watchdog} {connected : Nat} (left : (tiered watchdog connected).exhausted = true) :
    watchdog.exhausted = true := by
  unfold tiered at left
  split at left
  · split at left
    · simp at left
    · split at left <;> exact left
  · exact left

/-- A run of connected ticks resets by its looks at the clock, and sends the report
    exactly when it takes the file away. -/
theorem connected_run {config : LteConfig} {period : List (List LteTurn)} {watchdog after : Watchdog} {began : Nat}
    (up : watchdog.state.tunnelConnectedSince = some began)
    (ran : run (tickOnce config) watchdog period = some after)
    (connected : ∀ turns ∈ period, seesConnected turns = true) :
    after = (period.map fun turns => lookedAt turns - began).foldl tiered watchdog ∧
      (∀ turns ∈ period, lookedAt turns ∈ readings turns) ∧
      (after.exhausted = true → watchdog.exhausted = true) ∧
      ((∃ turns ∈ period, reports turns = true) ↔ watchdog.exhausted = true ∧ after.exhausted = false) := by
  induction period generalizing watchdog with
  | nil => cases ran; simp
  | cons turns period ih =>
    obtain ⟨mid,stepped,later⟩ := run_cons_iff.mp ran
    obtain ⟨instant,same,looked,tiers,told⟩ := connected_step stepped (connected turns (by simp))
    rw [up,Option.getD_some] at same
    subst same
    have unchanged : upSince watchdog instant = watchdog := by rw [upSince,← up]
    rw [unchanged] at tiers
    have still : mid.state.tunnelConnectedSince = some instant := by rw [tiers,tiered_connection,up]
    obtain ⟨settled,looks,kept,reported⟩ := ih still later fun other member => connected other (by simp [member])
    have taken : mid.exhausted = true → watchdog.exhausted = true := by
      rw [tiers]
      exact tiered_exhausted
    refine ⟨by rw [settled,List.map_cons,List.foldl_cons,tiers],?_,fun left => taken (kept left),?_⟩
    · intro other member
      rcases List.mem_cons.mp member with rfl | after
      · exact looked
      · exact looks other after
    simp only [List.mem_cons,exists_eq_or_imp,told,reported]
    constructor
    · rintro (⟨pending,gone⟩ | ⟨pending,gone⟩)
      · exact ⟨pending,Bool.eq_false_iff.mpr fun left => by simp [kept left] at gone⟩
      · exact ⟨taken pending,gone⟩
    · rintro ⟨pending,gone⟩
      by_cases left : mid.exhausted = true
      · exact .inr ⟨left,gone⟩
      · exact .inl ⟨pending,Bool.eq_false_iff.mpr left⟩

/-- The instants of the clock readings are among those of the turns. -/
theorem readings_mem {turns : List LteTurn} {instant : Nat} (read : instant ∈ readings turns) :
    ∃ turn ∈ turns, turn.answer.instant = instant := by
  obtain ⟨turn,member,found⟩ := List.mem_map.mp read
  exact ⟨turn,List.mem_of_mem_filter member,found⟩

/-- Readings in later ticks are no earlier. -/
theorem readings_ordered {first second : List (List LteTurn)} {early late : List LteTurn} {before after : Nat}
    (timely : Timely (first ++ second).flatten) (earlier : early ∈ first) (later : late ∈ second)
    (read : before ∈ readings early) (readAfter : after ∈ readings late) : before ≤ after := by
  obtain ⟨turn,member,rfl⟩ := readings_mem read
  obtain ⟨other,memberAfter,rfl⟩ := readings_mem readAfter
  rw [Timely,List.isChain_iff_pairwise,List.flatten_append,List.map_append,List.pairwise_append] at timely
  refine timely.2.2 _ (List.mem_map_of_mem ?_) _ (List.mem_map_of_mem ?_)
  · exact List.mem_flatten.mpr ⟨early,earlier,member⟩
  · exact List.mem_flatten.mpr ⟨late,later,memberAfter⟩

/-- Both parts of a timely run are timely. -/
theorem timely_append {first second : List (List LteTurn)} (timely : Timely (first ++ second).flatten) :
    Timely first.flatten ∧ Timely second.flatten := by
  simp only [Timely,List.isChain_iff_pairwise,List.flatten_append,List.map_append,List.pairwise_append] at timely ⊢
  exact ⟨timely.1,timely.2.1⟩

/-- The looks of a period grow. -/
theorem looks_grow {period : List (List LteTurn)} (timely : Timely period.flatten)
    (looks : ∀ turns ∈ period, lookedAt turns ∈ readings turns) : (period.map lookedAt).Pairwise (· ≤ ·) := by
  induction period with
  | nil => exact List.Pairwise.nil
  | cons turns period ih =>
    rw [List.map_cons,List.pairwise_cons]
    constructor
    · intro instant member
      obtain ⟨other,after,rfl⟩ := List.mem_map.mp member
      exact @readings_ordered [turns] period _ _ _ _ timely (by simp) after (looks turns (by simp))
        (looks other (by simp [after]))
    · exact ih (@timely_append [turns] period timely).2 fun other member => looks other (by simp [member])

/-- The first reading of a tick is no later than its look. -/
theorem first_reading_le {turns : List LteTurn} (timely : Timely turns) : (readings turns).headD 0 ≤ lookedAt turns := by
  have ordered : (readings turns).Pairwise (· ≤ ·) := by
    rw [Timely,List.isChain_iff_pairwise] at timely
    exact timely.sublist (List.filter_sublist.map _)
  unfold lookedAt
  cases read : readings turns with
  | nil => simp
  | cons head tail =>
    rw [read] at ordered
    rw [List.headD_cons,List.getLast?_eq_some_getLast (by simp),Option.getD_some]
    rcases List.mem_cons.mp (List.getLast_mem (List.cons_ne_nil head tail)) with same | after
    · exact le_of_eq same.symm
    · exact (List.pairwise_cons.mp ordered).1 _ after

/-- Since when a period of connected ticks counts the tunnel as up. -/
def connectedFrom (watchdog : Watchdog) (first : List LteTurn) : Nat :=
  watchdog.state.tunnelConnectedSince.getD ((readings first).headD 0)

/-- After any history, a period of five minutes of connected ticks ends with no USB cycle
    counted, not dormant and the pending report sent, exactly when nothing was left to do at
    its start, or the outage was still open then and no tick of it fell between the tiers. -/
theorem full_reset_iff (config : LteConfig) (exhausted : Bool) (history : List (List LteTurn)) (first : List LteTurn)
    (later : List (List LteTurn)) (before after : Watchdog)
    (ran : run (tickOnce config) ⟨{},exhausted⟩ history = some before)
    (stable : run (tickOnce config) before (first :: later) = some after)
    (timely : Timely (history ++ first :: later).flatten)
    (connected : ∀ turns ∈ first :: later, seesConnected turns = true)
    (long : ∃ last ∈ first :: later, lookedAt first + safePromoteThreshold ≤ lookedAt last) :
    (after.state.l3Attempts = 0 ∧ after.state.dormant = false ∧
        (before.exhausted = true → ∃ turns ∈ first :: later, reports turns = true)) ↔
      Settled before ∨ (before.state.tunnelDisconnectSince.isSome ∧
        ∀ turns ∈ first :: later, ¬ BetweenTiers (lookedAt turns - connectedFrom before first)) := by
  obtain ⟨mid,stepped,rest⟩ := run_cons_iff.mp stable
  obtain ⟨began,same,looked,tiers,told⟩ := connected_step stepped (connected first (by simp))
  have up : mid.state.tunnelConnectedSince = some began := by rw [tiers,tiered_connection]; rfl
  obtain ⟨settled,looks,kept,reported⟩ := connected_run up rest fun turns member => connected turns (by simp [member])
  have durations : after = ((first :: later).map fun turns => lookedAt turns - began).foldl tiered
      (upSince before began) := by
    rw [settled,tiers,List.map_cons,List.foldl_cons]
  have looks : ∀ turns ∈ first :: later, lookedAt turns ∈ readings turns := by
    intro turns member
    rcases List.mem_cons.mp member with rfl | within
    · exact looked
    · exact looks turns within
  have ordered : Timely (first :: later).flatten := (timely_append timely).2
  -- the connection is no later than the first look of the period
  have began_le : began ≤ lookedAt first := by
    cases earlier : before.state.tunnelConnectedSince with
    | some instant =>
      rw [earlier,Option.getD_some] at same
      subst same
      rcases run_connection ran earlier with none | ⟨turns,member,read⟩
      · simp at none
      · exact readings_ordered timely member (by simp) read looked
    | none =>
      rw [earlier,Option.getD_none] at same
      rw [same]
      have alone := (@timely_append [first] later ordered).1
      rw [List.flatten_singleton] at alone
      exact first_reading_le alone
  have grow : ((first :: later).map fun turns => lookedAt turns - began).Pairwise (· ≤ ·) := by
    have instants := looks_grow ordered looks
    rw [List.pairwise_map] at instants ⊢
    exact instants.imp fun earlier => Nat.sub_le_sub_right earlier began
  have enough : ∃ duration ∈ (first :: later).map fun turns => lookedAt turns - began,
      safePromoteThreshold ≤ duration := by
    obtain ⟨last,member,far⟩ := long
    exact ⟨_,List.mem_map_of_mem member,by omega⟩
  have taken : mid.exhausted = true → before.exhausted = true := by
    rw [tiers]
    exact fun left => (tiered_exhausted left : (upSince before began).exhausted = true)
  have sent : (∃ turns ∈ first :: later, reports turns = true) ↔
      before.exhausted = true ∧ after.exhausted = false := by
    simp only [List.mem_cons,exists_eq_or_imp,told,reported]
    constructor
    · rintro (⟨pending,gone⟩ | ⟨pending,gone⟩)
      · exact ⟨pending,Bool.eq_false_iff.mpr fun left => by simp [kept left] at gone⟩
      · exact ⟨taken pending,gone⟩
    · rintro ⟨pending,gone⟩
      by_cases left : mid.exhausted = true
      · exact .inr ⟨left,gone⟩
      · exact .inl ⟨pending,Bool.eq_false_iff.mpr left⟩
  have whole : (after.state.l3Attempts = 0 ∧ after.state.dormant = false ∧
      (before.exhausted = true → ∃ turns ∈ first :: later, reports turns = true)) ↔ Settled after := by
    rw [sent]
    constructor
    · rintro ⟨cycles,awake,report⟩
      refine ⟨cycles,awake,Bool.eq_false_iff.mpr fun left => ?_⟩
      have gone := (report (taken (kept left))).2
      simp [left] at gone
    · intro settled
      exact ⟨settled.l3Attempts,settled.dormant,fun pending => ⟨pending,settled.exhausted⟩⟩
  rw [whole,durations,settled_foldl_iff grow enough]
  refine or_congr ⟨fun held => ⟨held.1,held.2,held.3⟩,fun held => ⟨held.1,held.2,held.3⟩⟩ (and_congr_right fun _ => ?_)
  rw [List.forall_mem_map,connectedFrom,← same]

/-- The ticks that begin at the given instants, against the same surroundings: their
    transcripts, and the watchdog they leave. -/
def ticksAt (config : LteConfig) (answer : Nat → (question : Ask) → Answer question × Nat) :
    Watchdog → List Nat → List (List LteTurn) × Watchdog
  | watchdog, [] => ([],watchdog)
  | watchdog, instant :: instants =>
    let ticked := (tick config watchdog).follow answer instant
    let later := ticksAt config answer ticked.2 instants
    (ticked.1 :: later.1,later.2)

theorem run_ticksAt {config : LteConfig} {answer : Nat → (question : Ask) → Answer question × Nat} {watchdog : Watchdog}
    {instants : List Nat} : run (tickOnce config) watchdog (ticksAt config answer watchdog instants).1 =
      some (ticksAt config answer watchdog instants).2 := by
  induction instants generalizing watchdog with
  | nil => rfl
  | cons instant instants ih =>
    exact run_cons_iff.mpr ⟨_,tickOnce_iff.mpr Dialogue.resume_follow,ih⟩

/-- A device that has lost its modem, with a tunnel that comes up after three minutes all the same. -/
def modemLost (clock : Nat) (question : Ask) : Answer question × Nat :=
  let reply : question.Reply := match question with
    | .command .attention => none
    | .connected => decide (secs 180 ≤ clock)
    | question => plainReply question
  (⟨clock,clock / secs 1,reply⟩,clock)

def outageConfig : LteConfig := { interface := ⟨"wwan0",true,none⟩ }

/-- The outage, after which the watchdog is dormant. -/
def outage : List (List LteTurn) × Watchdog :=
  ticksAt outageConfig modemLost {} ([30,60,90,120,150].map secs)

/-- The five minutes after the outage, with ticks that skip the first tier and with a tick every thirty seconds. -/
def sparse : List (List LteTurn) × Watchdog := ticksAt outageConfig modemLost outage.2 ([180,480].map secs)

def steady : List (List LteTurn) × Watchdog :=
  ticksAt outageConfig modemLost outage.2 ((List.range 11).map fun n => secs (180 + 30 * n))

/-- Ticks begin at least one interval after one another. -/
def Spaced (ticks : List (List LteTurn)) : Prop :=
  (ticks.filterMap fun turns => turns.head?.map (·.answer.instant)).IsChain fun early late => early + tickInterval ≤ late

instance : DecidablePred Spaced := fun _ => inferInstanceAs (Decidable (List.IsChain _ _))

theorem sparse_facts : Timely (outage.1 ++ sparse.1).flatten ∧
    (∀ turns ∈ sparse.1, seesConnected turns = true) ∧ outage.2.state.tunnelDisconnectSince.isSome = true ∧
    (∃ last ∈ sparse.1, lookedAt (sparse.1.headD []) + safePromoteThreshold ≤ lookedAt last) ∧
    ∀ turns ∈ sparse.1, ¬ BetweenTiers (lookedAt turns - connectedFrom outage.2 (sparse.1.headD [])) := by
  decide +kernel

theorem steady_facts : Timely (outage.1 ++ steady.1).flatten ∧
    Spaced (outage.1 ++ steady.1) ∧ (∀ turns ∈ steady.1, seesConnected turns = true) ∧
    (∃ last ∈ steady.1, lookedAt (steady.1.headD []) + safePromoteThreshold ≤ lookedAt last) ∧
    steady.2.state.dormant = true := by decide +kernel

theorem full_reset_iff_sparse : sparse.2.state.dormant = false := by
  obtain ⟨timely,connected,down,long,apart⟩ := sparse_facts
  have split : sparse.1 = sparse.1.headD [] :: sparse.1.tail := rfl
  have ran : run (tickOnce outageConfig) outage.2 sparse.1 = some sparse.2 := run_ticksAt
  rw [split] at ran timely connected long apart
  exact ((full_reset_iff outageConfig false outage.1 _ _ outage.2 sparse.2 run_ticksAt ran timely connected long).mpr
    (.inr ⟨down,apart⟩)).2.1

/-- Five minutes of a stable tunnel, a tick every thirty seconds, and the watchdog is still dormant. -/
theorem steady_stays_dormant : ¬ ∀ (config : LteConfig) (exhausted : Bool) (history : List (List LteTurn))
    (first : List LteTurn) (later : List (List LteTurn)) (before after : Watchdog),
    run (tickOnce config) ⟨{},exhausted⟩ history = some before →
    run (tickOnce config) before (first :: later) = some after →
    Timely (history ++ first :: later).flatten → Spaced (history ++ first :: later) →
    (∀ turns ∈ first :: later, seesConnected turns = true) →
    (∃ last ∈ first :: later, lookedAt first + safePromoteThreshold ≤ lookedAt last) →
    after.state.l3Attempts = 0 ∧ after.state.dormant = false ∧
      (before.exhausted = true → ∃ turns ∈ first :: later, reports turns = true) := by
  intro claim
  obtain ⟨timely,spaced,connected,long,dormant⟩ := steady_facts
  have split : steady.1 = steady.1.headD [] :: steady.1.tail := rfl
  have ran : run (tickOnce outageConfig) outage.2 steady.1 = some steady.2 := run_ticksAt
  rw [split] at ran timely spaced connected long
  have reset := claim outageConfig false outage.1 _ _ outage.2 steady.2 run_ticksAt ran timely spaced connected long
  rw [dormant] at reset
  exact absurd reset.2.1 (by decide)

end Sctl.WatchdogResets
