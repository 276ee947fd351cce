import Sctl.LteWatchdog

/-!
When a watchdog tick stands aside. A running scan, a band action in progress
and recent user activity each ask for it. The first check reads the band action
only when no scan status is left, so a scan that has ended hides it; exactly
then, with no user activity to stop the tick instead, the modem is commanded.
-/
namespace Sctl.WatchdogSuppression
open LteBands LteShared LtePrograms LteWatchdog Dialogues

/-- A band scan is running, and for thirty minutes at most. -/
def Scanning (epoch : Nat) (lte : LteState) : Prop :=
  ∃ scan, lte.scanStatus = some scan ∧ scan.state = .running ∧ ¬ scan.stuck epoch

/-- A band action is in progress. -/
def Changing (instant : Nat) (lte : LteState) : Prop := ∃ stop, lte.bandActionUntil = some stop ∧ instant < stop

/-- The last user action is less than two minutes old. -/
def Active (instant : Nat) (lte : LteState) : Prop :=
  ∃ acted, lte.lastUserActionAt = some acted ∧ instant - acted < userActivitySuppression

/-- The tick is asked to stand aside. -/
def Suppressed (instant epoch : Nat) (lte : LteState) : Prop :=
  Scanning epoch lte ∨ Changing instant lte ∨ Active instant lte

/-- Questions that reach the modem, the interface or the device. -/
def disturbs : Ask → Bool
  | .command _ | .act _ _ | .process _ | .writeFile _ | .openModem => true
  | _ => false

/-- No modem command and no recovery action among the turns. -/
def Quiet (turns : List LteTurn) : Prop := ∀ turn ∈ turns, disturbs turn.question = false

/-- The two checks of the tick are answered from the state, at the instant. -/
def SeenAt (instant epoch : Nat) (lte : LteState) (turn : LteTurn) : Prop :=
  match turn with
  | ⟨.shared .skipTick,answer⟩ => answer.value = (skipTick instant epoch lte).1
  | ⟨.shared .userSuppressed,answer⟩ => answer.value = userSuppressed instant lte
  | _ => True

theorem userSuppressed_iff {instant : Nat} {lte : LteState} :
    userSuppressed instant lte = true ↔ Active instant lte := by
  unfold userSuppressed Active
  cases lte.lastUserActionAt with
  | none => simp
  | some acted => simp

/-- The first check stops the tick for a running scan, and for a band action when no
    scan status is there. -/
theorem skipTick_iff {instant epoch : Nat} {lte : LteState} :
    (skipTick instant epoch lte).1 = true ↔
      Scanning epoch lte ∨ (lte.scanStatus = none ∧ Changing instant lte) := by
  unfold skipTick Scanning Changing
  cases lte.scanStatus with
  | none =>
    cases lte.bandActionUntil with
    | none => simp
    | some stop => simp
  | some scan =>
    by_cases running : scan.state = .running
    · by_cases stuck : scan.stuck epoch
      · simp [running,stuck]
      · simp [running,stuck]
    · simp [running]

/-- The watch over a tick: the checks see the state, and all is fine while it is quiet. -/
def quietWatch (instant epoch : Nat) (lte : LteState) : Watch Ask Answer Bool where
  allows _ turn := SeenAt instant epoch lte turn
  track quiet turn := quiet && !disturbs turn.question
  fine quiet := quiet = true

/-- A tick that one of the checks stops asks nothing but the checks. -/
theorem stopped_guarantees {config : LteConfig} {watchdog : Watchdog} {instant epoch : Nat} {lte : LteState}
    (stops : (skipTick instant epoch lte).1 = true ∨ userSuppressed instant lte = true) :
    Guarantees (quietWatch instant epoch lte) (tick config watchdog) true fun _ _ => True := by
  rw [tick,guarantees_region]
  intro skip (skipped : skip.value = _)
  refine ⟨rfl,?_⟩
  rw [skipped]
  cases first : (skipTick instant epoch lte).1 with
  | true => trivial
  | false =>
    rw [if_neg (by decide),guarantees_region]
    intro user (active : user.value = _)
    refine ⟨rfl,?_⟩
    rw [active,stops.resolve_left (by simp [first])]
    trivial

theorem quiet_of_fine {instant epoch : Nat} {lte : LteState} {turns : List LteTurn}
    (fine : Fine (quietWatch instant epoch lte) true turns) : Quiet turns := by
  induction turns with
  | nil => simp [Quiet]
  | cons turn turns ih =>
    have calm : disturbs turn.question = false := by simpa [quietWatch] using fine.1
    have later : Fine (quietWatch instant epoch lte) true turns := by
      have kept : (quietWatch instant epoch lte).track true turn = true := fine.1
      simpa [kept] using fine.2
    intro other member
    rcases List.mem_cons.mp member with rfl | within
    · exact calm
    · exact ih later other within

theorem allowed_of_seen {instant epoch : Nat} {lte : LteState} {turns : List LteTurn} {quiet : Bool}
    (seen : ∀ turn ∈ turns, SeenAt instant epoch lte turn) : Allowed (quietWatch instant epoch lte) quiet turns := by
  induction turns generalizing quiet with
  | nil => trivial
  | cons turn turns ih => exact ⟨seen turn (by simp),ih fun other member => seen other (by simp [member])⟩

/-- The turns of a tick that neither check stops, with the tunnel down, up to its first command. -/
def downTo (instant epoch : Nat) (watchdog : Watchdog) : List LteTurn :=
  [⟨.shared .skipTick,⟨instant,epoch,false⟩⟩,⟨.shared .userSuppressed,⟨instant,epoch,false⟩⟩,
    ⟨.connected,⟨instant,epoch,false⟩⟩,⟨.shared .forgetStability,⟨instant,epoch,()⟩⟩] ++
  (if watchdog.state.tunnelDisconnectSince = none then [⟨.clock,⟨instant,epoch,()⟩⟩] else []) ++
  [⟨.clock,⟨instant,epoch,()⟩⟩,⟨.command .registration,⟨instant,epoch,none⟩⟩]

/-- A tick that neither check stops asks the modem for its registration when the tunnel is down. -/
theorem unstopped_commands (config : LteConfig) (watchdog : Watchdog) (instant epoch : Nat) :
    ∃ rest, (tick config watchdog).resume (downTo instant epoch watchdog) = some rest := by
  unfold downTo
  simp only [tick,disconnectedTick,region,ask,tunnelConnected,now,Dialogue.ask_bind,Dialogue.done_bind,
    List.cons_append,List.nil_append,Dialogue.resume_turn,Bool.false_eq_true,if_false]
  cases watchdog.state.tunnelDisconnectSince with
  | none =>
    simp only [since,now,effectiveGrace,command,ask,Dialogue.ask_bind,Dialogue.done_bind,if_true,
      List.cons_append,List.nil_append,Dialogue.resume_turn]
    exact ⟨_,Dialogue.resume_nil _⟩
  | some began =>
    simp only [since,effectiveGrace,command,ask,Dialogue.pure_eq,Dialogue.ask_bind,Dialogue.done_bind,
      reduceCtorEq,if_false,List.nil_append,Dialogue.resume_turn]
    exact ⟨_,Dialogue.resume_nil _⟩

/-- A tick that is quiet whatever it finds is stopped by one of the checks. -/
theorem stops_of_quiet {config : LteConfig} {watchdog : Watchdog} {instant epoch : Nat} {lte : LteState}
    (quiet : ∀ turns rest, (tick config watchdog).resume turns = some rest →
      (∀ turn ∈ turns, SeenAt instant epoch lte turn) → Quiet turns) :
    (skipTick instant epoch lte).1 = true ∨ userSuppressed instant lte = true := by
  by_contra unstopped
  simp only [not_or,Bool.not_eq_true] at unstopped
  obtain ⟨rest,resumed⟩ := unstopped_commands config watchdog instant epoch
  have calm := quiet _ rest resumed ?_
  · exact absurd (calm ⟨.command .registration,⟨instant,epoch,none⟩⟩ (by simp [downTo])) (by simp [disturbs])
  · intro turn member
    simp only [downTo,List.mem_append,List.mem_cons,List.not_mem_nil,or_false] at member
    rcases member with ((rfl | rfl | rfl | rfl) | clock) | rfl | rfl
    · exact unstopped.1.symm
    · exact unstopped.2.symm
    · trivial
    · trivial
    · split at clock
      · rw [List.mem_singleton] at clock
        subst clock
        trivial
      · simp at clock
    · trivial
    · trivial

/-- A tick asked to stand aside does so, whatever else it finds, exactly when a band
    action it is asked to stand aside for is not hidden: no scan status is left, or a scan
    runs, or the user acted just now. -/
theorem suppressed_tick_quiet_iff (config : LteConfig) (watchdog : Watchdog) (instant epoch : Nat) (lte : LteState) :
    (Suppressed instant epoch lte → ∀ turns rest, (tick config watchdog).resume turns = some rest →
        (∀ turn ∈ turns, SeenAt instant epoch lte turn) → Quiet turns) ↔
      (Changing instant lte → lte.scanStatus = none ∨ Scanning epoch lte ∨ Active instant lte) := by
  constructor
  · intro quiet changing
    have stops := stops_of_quiet (quiet (.inr (.inl changing)))
    rw [skipTick_iff,userSuppressed_iff] at stops
    rcases stops with (scanning | ⟨none,_⟩) | active
    · exact .inr (.inl scanning)
    · exact .inl none
    · exact .inr (.inr active)
  · intro shown suppressed turns rest resumed seen
    have stops : (skipTick instant epoch lte).1 = true ∨ userSuppressed instant lte = true := by
      rw [skipTick_iff,userSuppressed_iff]
      rcases suppressed with scanning | changing | active
      · exact .inl (.inl scanning)
      · rcases shown changing with none | scanning | active
        · exact .inl (.inr ⟨none,changing⟩)
        · exact .inl (.inl scanning)
        · exact .inr active
      · exact .inr active
    exact quiet_of_fine (guarantees_transcript (stopped_guarantees stops) resumed (allowed_of_seen seen)).1

/-- A scan that completes, then a band change whose registration is rolled back slowly:
    the interface restart at its end asks for twenty seconds more. -/
def scanThenRollback : List (Nat × Nat × Region) :=
  [(secs 0,1000,.scanRequest),(secs 1,1001,.scanStart ⟨.running,1001,none,[4],[],none,[],[4,12],none⟩),
    (secs 60,1060,.scanFinished []),(secs 400,1400,.userChange (secs 45) [4,12] none ⟨[13],none⟩),
    (secs 515,1515,.suppressUntil (secs 20))]

theorem band_action_hidden : ¬ ∀ (config : LteConfig) (watchdog : Watchdog) (instant epoch : Nat)
    (accesses : List (Nat × Nat × Region)), Suppressed instant epoch (accessAll {} accesses).lte →
      ∀ turns rest, (tick config watchdog).resume turns = some rest →
        (∀ turn ∈ turns, SeenAt instant epoch (accessAll {} accesses).lte turn) → Quiet turns := by
  intro claim
  have changing : Changing (secs 525) (accessAll {} scanThenRollback).lte := ⟨secs 535,by decide,by decide⟩
  have stops := stops_of_quiet (claim ⟨⟨"wwan0",true,none⟩,120,3,600,true,false,false,180⟩ {} (secs 525) 1525
    scanThenRollback (.inr (.inl changing)))
  exact absurd stops (by decide)

end Sctl.WatchdogSuppression
