import Sctl.Runs
import Sctl.Tables
import Sctl.Texts
import Sctl.InfraTargets

/-!
The monitoring loop: each tick checks the targets that are due one after the
other, and a target that is down has its recovery command run while the lock is
held. A pushed config stops the loop at its next wait and starts another one.
-/
namespace Sctl.InfraMonitor
open Runs InfraTargets

structure RecoveryConfig where
  enabled : Bool
  command : String
  cooldownSecs : Nat
  maxRetries : Nat
deriving DecidableEq

structure Target where
  id : String
  limits : Thresholds
  intervalSecs : Option Nat
  recovery : Option RecoveryConfig

structure Config where
  checkIntervalSecs : Nat
  targets : List Target

structure RecoveryLogEntry where
  targetId : String
  command : String
  exitCode : Int
  stdout : List Char
deriving DecidableEq

/-- What an observer sees: commands that are started and that are done with, and targets that come up. -/
inductive Event
  | started (id : String) (at_ cooldown maxRetries : Nat)
  | ended (entry : RecoveryLogEntry)
  | cameUp (id : String)
deriving DecidableEq

/-- Where the loop is: between two ticks, or in the tick that began at `now`, with the
    targets that are still to come. -/
inductive Phase
  | waiting
  | between (now : Nat) (rest : List Target)
  | checking (now : Nat) (target : Target) (rest : List Target)
  | recovering (now : Nat) (target : Target) (recovery : RecoveryConfig) (rest : List Target)

structure Monitor where
  config : Config
  lastCheck : Table String Nat
  phase : Phase

/-- The shared state and its monitor, the clock in seconds, and the events, the last one first. -/
structure State where
  clock : Nat
  monitor : Option Monitor
  targets : Table String TargetState
  tracker : Table String (Nat × Nat)
  recoveryLog : List RecoveryLogEntry
  events : List Event
  crashed : Bool

def start (clock : Nat) : State := ⟨clock,none,∅,∅,[],[],false⟩

def maxRecoveryLog : Nat := 50

def State.pushRecoveryLog (s : State) (entry : RecoveryLogEntry) : State :=
  { s with recoveryLog := (if maxRecoveryLog ≤ s.recoveryLog.length then s.recoveryLog.drop 1 else s.recoveryLog) ++ [entry] }

/-- `&text[..n]`; `none` is the panic, at a byte inside a character or behind the end. -/
def sliceTo : Nat → List Char → Option (List Char)
  | 0, _ => some []
  | _ + 1, [] => none
  | n + 1, c :: rest => if c.utf8Size ≤ n + 1 then (sliceTo (n + 1 - c.utf8Size) rest).map (c :: ·) else none

/-- The output of a command as it is logged. -/
def truncated (stdout : List Char) : Option (List Char) :=
  if 512 < Texts.byteLength stdout then (sliceTo 512 stdout).map (· ++ "...".toList) else some stdout

/-- What the loop makes of the result of a check, up to a recovery. -/
def State.record (s : State) (target : Target) (result : CheckResult) : State :=
  let prev := statusOf (s.targets.lookup target.id)
  let next := recordCheck target.limits (s.targets.lookup target.id) result
  { s with
    targets := s.targets.insert target.id next
    tracker := if next.status = .up ∧ prev = .down then s.tracker.erase target.id else s.tracker
    events := if next.status = .up ∧ prev ≠ .up then .cameUp target.id :: s.events else s.events }

/-- The last execution and the number of them, as the tracker has it. -/
def State.tracked (s : State) (id : String) : Nat × Nat := (s.tracker.lookup id).getD (0,0)

/-- The recovery that is run for a target in the tick that began at `now`. -/
def State.recoveryOf (s : State) (target : Target) (now : Nat) : Option RecoveryConfig :=
  if statusOf (s.targets.lookup target.id) = .down then
    target.recovery.filter fun recovery => recovery.enabled && (s.tracked target.id).2 < recovery.maxRetries &&
      recovery.cooldownSecs ≤ now - (s.tracked target.id).1
  else none

def State.execute (s : State) (target : Target) (recovery : RecoveryConfig) : State :=
  { s with events := .started target.id s.clock recovery.cooldownSecs recovery.maxRetries :: s.events }

/-- What `exec_simple` gives, as the exit code and the text that is logged. -/
def outcomeOf : Except (List Char) (Int × List Char) → Int × List Char
  | .ok (exit,out) => (exit,out)
  | .error e => (-1,"ERROR: ".toList ++ e)

inductive Action
  | pass (secs : Nat)
  | tick
  | next
  | checked (result : CheckResult)
  | commandEnds (result : Except (List Char) (Int × List Char))
  /-- The old loop stops at its next wait; with a result in hand it goes on until then. -/
  | push (config : Config) (inHand : Option CheckResult)

/-- The old loop's last stretch: a command that it starts is killed with it. -/
def State.lastStretch (s : State) (target : Target) (now : Nat) (result : CheckResult) : State :=
  match (s.record target result).recoveryOf target now with
  | some recovery => (s.record target result).execute target recovery
  | none => s.record target result

def move (s : State) (a : Action) : Option State :=
  match a with
  | .pass secs => some { s with clock := s.clock + secs }
  | .tick =>
    match s.monitor with
    | some ⟨config,lastCheck,.waiting⟩ => some { s with monitor := some ⟨config,lastCheck,.between s.clock config.targets⟩ }
    | _ => none
  | .next =>
    match s.monitor with
    | some ⟨config,lastCheck,.between _ []⟩ => some { s with monitor := some ⟨config,lastCheck,.waiting⟩ }
    | some ⟨config,lastCheck,.between now (target :: rest)⟩ =>
      if now - (lastCheck.lookup target.id).getD 0 < target.intervalSecs.getD config.checkIntervalSecs then
        some { s with monitor := some ⟨config,lastCheck,.between now rest⟩ }
      else some { s with monitor := some ⟨config,lastCheck.insert target.id now,.checking now target rest⟩ }
    | _ => none
  | .checked result =>
    match s.monitor with
    | some ⟨config,lastCheck,.checking now target rest⟩ =>
      match (s.record target result).recoveryOf target now with
      | some recovery =>
        some { (s.record target result).execute target recovery with
          monitor := some ⟨config,lastCheck,.recovering now target recovery rest⟩ }
      | none => some { s.record target result with monitor := some ⟨config,lastCheck,.between now rest⟩ }
    | _ => none
  | .commandEnds result =>
    match s.monitor with
    | some ⟨config,lastCheck,.recovering now target recovery rest⟩ =>
      match truncated (outcomeOf result).2 with
      | some stdout =>
        let entry := ⟨target.id,recovery.command,(outcomeOf result).1,stdout⟩
        some { s.pushRecoveryLog entry with
          tracker := s.tracker.insert target.id (now,(s.tracked target.id).2 + 1)
          events := .ended entry :: s.events
          monitor := some ⟨config,lastCheck,.between now rest⟩ }
      | none => some { s with crashed := true }
    | _ => none
  | .push config inHand =>
    match s.monitor with
    | some ⟨_,_,.recovering _ _ _ _⟩ => none
    | some ⟨_,_,.checking now target _⟩ =>
      let after := match inHand with
        | some result => s.lastStretch target now result
        | none => s
      some { after with monitor := some ⟨config,∅,.waiting⟩ }
    | _ => if inHand.isSome then none else some { s with monitor := some ⟨config,∅,.waiting⟩ }

/-- A panic ends the process. -/
def step (s : State) (a : Action) : Option State := if s.crashed then none else move s a

/-! ### Discipline -/

/-- The executions for a target since it came up last. -/
def sinceUp (id : String) : List Event → Nat
  | [] => 0
  | .started other _ _ _ :: older => if other = id then sinceUp id older + 1 else sinceUp id older
  | .ended _ :: older => sinceUp id older
  | .cameUp other :: older => if other = id then 0 else sinceUp id older

/-- When the last execution for a target started. -/
def lastStart (id : String) : List Event → Option Nat
  | [] => none
  | .started other at_ _ _ :: older => if other = id then some at_ else lastStart id older
  | _ :: older => lastStart id older

/-- No execution was one too many since the target came up, and none started within the
    cooldown after the one before. -/
def WithinLimits : List Event → Prop
  | [] => True
  | .started id at_ cooldown maxRetries :: older =>
    (sinceUp id older + 1 ≤ maxRetries ∧ ∀ before, lastStart id older = some before → before + cooldown ≤ at_) ∧ WithinLimits older
  | _ :: older => WithinLimits older

def startsOf (events : List Event) : Nat :=
  events.countP fun event => match event with
    | .started .. => true
    | _ => false

def entriesOf (events : List Event) : List RecoveryLogEntry :=
  events.reverse.filterMap fun event => match event with
    | .ended entry => some entry
    | _ => none

/-- The target whose command is running. -/
def State.running (s : State) : Option String :=
  match s.monitor with
  | some ⟨_,_,.recovering _ target _ _⟩ => some target.id
  | _ => none

/-- Recovery is disciplined: the limits are kept, and every execution that is done with is
    counted and logged and has left the monitor running. -/
structure Disciplined (s : State) : Prop where
  alive : s.crashed = false
  limits : WithinLimits s.events
  counted : ∀ id, sinceUp id s.events = (s.tracked id).2 + if s.running = some id then 1 else 0
  ended : startsOf s.events = (entriesOf s.events).length + if s.running.isSome then 1 else 0
  logged : s.recoveryLog = (entriesOf s.events).drop ((entriesOf s.events).length - maxRecoveryLog)

/-- The tick that a phase belongs to. -/
def Phase.now? : Phase → Option Nat
  | .waiting => none
  | .between now _ => some now
  | .checking now _ _ => some now
  | .recovering now _ _ _ => some now

/-- The books fit: a tracked target is down, nothing is tracked or started in the future,
    and what is tracked is not after its start. -/
structure Sound (s : State) : Prop where
  down : ∀ id, (s.tracker.lookup id).isSome ∨ s.running = some id → statusOf (s.targets.lookup id) = .down
  past : ∀ id at_, lastStart id s.events = some at_ → at_ ≤ s.clock
  tick : ∀ monitor now, s.monitor = some monitor → monitor.phase.now? = some now → now ≤ s.clock

/-- The condition of a step. A command starts only if the one before was started in the
    second in which its tick began, or its cooldown is over; the output of a command
    can be cut for the log; and a loop that is stopped starts none on its last stretch. -/
def Keeps (s : State) : Action → Prop
  | .checked result =>
    match s.monitor with
    | some ⟨_,_,.checking now target _⟩ =>
      ∀ recovery, (s.record target result).recoveryOf target now = some recovery → ∀ before, lastStart target.id s.events = some before →
        (s.tracked target.id).1 = before ∧ (s.tracker.lookup target.id).isSome ∨ before + recovery.cooldownSecs ≤ s.clock
    | _ => True
  | .commandEnds result => (truncated (outcomeOf result).2).isSome
  | .push _ (some result) =>
    match s.monitor with
    | some ⟨_,_,.checking now target _⟩ => (s.record target result).recoveryOf target now = none
    | _ => True
  | _ => True

/-! ### A check -/

section
variable {s t : State} {target : Target} {result : CheckResult} {now : Nat}

theorem status_from_down {limits : Thresholds} {current : Option TargetState} (down : statusOf current = .down) :
    (recordCheck limits current result).status = .up ∨ (recordCheck limits current result).status = .down := by
  simp only [recordCheck,down,computeStatus]
  split
  · exact .inl rfl
  · exact .inr rfl

theorem sinceUp_record (id : String) : sinceUp id (s.record target result).events =
    if id = target.id ∧ (recordCheck target.limits (s.targets.lookup target.id) result).status = .up ∧
      statusOf (s.targets.lookup target.id) ≠ .up then 0 else sinceUp id s.events := by
  simp only [State.record]
  by_cases up : (recordCheck target.limits (s.targets.lookup target.id) result).status = .up ∧ statusOf (s.targets.lookup target.id) ≠ .up
  · rw [if_pos up,sinceUp]
    by_cases same : target.id = id
    · rw [if_pos same,if_pos ⟨same.symm,up⟩]
    · rw [if_neg same,if_neg fun both => same both.1.symm]
  · rw [if_neg up,if_neg fun both => up both.2]

theorem lastStart_record (id : String) : lastStart id (s.record target result).events = lastStart id s.events := by
  simp only [State.record]
  split <;> rfl

theorem withinLimits_record : WithinLimits (s.record target result).events ↔ WithinLimits s.events := by
  simp only [State.record]
  split <;> rfl

theorem startsOf_record : startsOf (s.record target result).events = startsOf s.events := by
  simp only [State.record]
  split
  · exact List.countP_cons_of_neg (by simp)
  · rfl

theorem entriesOf_cons (event : Event) (events : List Event) : entriesOf (event :: events) = entriesOf events ++
    (match event with | .ended entry => [entry] | _ => []) := by
  simp only [entriesOf,List.reverse_cons,List.filterMap_append]
  cases event <;> rfl

theorem entriesOf_record : entriesOf (s.record target result).events = entriesOf s.events := by
  simp only [State.record]
  split
  · rw [entriesOf_cons,List.append_nil]
  · rfl

theorem status_record (id : String) : statusOf ((s.record target result).targets.lookup id) =
    if id = target.id then (recordCheck target.limits (s.targets.lookup target.id) result).status else statusOf (s.targets.lookup id) := by
  simp only [State.record,Table.lookup_insert_eq]
  split <;> rfl

theorem tracker_record (id : String) : (s.record target result).tracker.lookup id =
    if id = target.id ∧ (recordCheck target.limits (s.targets.lookup target.id) result).status = .up ∧
      statusOf (s.targets.lookup target.id) = .down then none else s.tracker.lookup id := by
  simp only [State.record]
  by_cases up : (recordCheck target.limits (s.targets.lookup target.id) result).status = .up ∧ statusOf (s.targets.lookup target.id) = .down
  · rw [if_pos up,Table.lookup_erase_eq]
    by_cases same : id = target.id
    · rw [if_pos same,if_pos ⟨same,up⟩]
    · rw [if_neg same,if_neg fun both => same both.1]
  · rw [if_neg up,if_neg fun both => up both.2]

/-- A target that is tracked is down, so that one that comes up from elsewhere has nothing tracked. -/
theorem tracked_record (sound : Sound s) (id : String) : ((s.record target result).tracked id).2 =
    if id = target.id ∧ (recordCheck target.limits (s.targets.lookup target.id) result).status = .up ∧
      statusOf (s.targets.lookup target.id) ≠ .up then 0 else (s.tracked id).2 := by
  rw [State.tracked,State.tracked,tracker_record]
  by_cases came : id = target.id ∧ (recordCheck target.limits (s.targets.lookup target.id) result).status = .up ∧
      statusOf (s.targets.lookup target.id) ≠ .up
  · rw [if_pos came]
    obtain ⟨rfl,up,before⟩ := came
    split
    · rfl
    · next notDown =>
      cases there : s.tracker.lookup target.id with
      | none => rfl
      | some entry => exact absurd ⟨rfl,up,sound.down target.id (.inl (by rw [there]; rfl))⟩ notDown
  · rw [if_neg came]
    split
    · next down => exact absurd ⟨down.1,down.2.1,by rw [down.2.2]; decide⟩ came
    · rfl

theorem running_record : (s.record target result).running = s.running := rfl

theorem sound_record (sound : Sound s) (idle : s.running = none) : Sound (s.record target result) := by
  constructor
  · intro id either
    rw [running_record,idle] at either
    have kept := either.resolve_right (by simp)
    rw [tracker_record] at kept
    rw [status_record]
    split at kept
    · cases kept
    · next notUp =>
      have before := sound.down id (.inl kept)
      split
      · next same =>
        rw [same] at before
        exact (status_from_down before).resolve_left fun up => notUp ⟨same,up,before⟩
      · exact before
  · intro id at_ last
    rw [lastStart_record] at last
    exact sound.past id at_ last
  · exact sound.tick

theorem disciplined_record (sound : Sound s) (idle : s.running = none) (disciplined : Disciplined s) : Disciplined (s.record target result) := by
  refine ⟨disciplined.alive,withinLimits_record.mpr disciplined.limits,fun id => ?_,?_,?_⟩
  · rw [sinceUp_record,tracked_record sound,running_record]
    by_cases came : id = target.id ∧ (recordCheck target.limits (s.targets.lookup target.id) result).status = .up ∧
        statusOf (s.targets.lookup target.id) ≠ .up
    · rw [if_pos came,if_pos came,idle]
      rfl
    · rw [if_neg came,if_neg came]
      exact disciplined.counted id
  · rw [startsOf_record,entriesOf_record,running_record]
    exact disciplined.ended
  · rw [entriesOf_record]
    exact disciplined.logged

theorem recoveryOf_eq_some {recovery : RecoveryConfig} (found : s.recoveryOf target now = some recovery) :
    statusOf (s.targets.lookup target.id) = .down ∧ (s.tracked target.id).2 < recovery.maxRetries ∧
      recovery.cooldownSecs ≤ now - (s.tracked target.id).1 := by
  simp only [State.recoveryOf,Option.ite_none_right_eq_some,Option.filter_eq_some_iff,Bool.and_eq_true,decide_eq_true_eq] at found
  exact ⟨found.1,found.2.2.1.2,found.2.2.2⟩

/-- A target that is down after a check keeps what is tracked of it. -/
theorem tracked_down (down : statusOf ((s.record target result).targets.lookup target.id) = .down) :
    (s.record target result).tracked target.id = s.tracked target.id := by
  rw [status_record,if_pos rfl] at down
  rw [State.tracked,tracker_record,if_neg]
  · rfl
  · intro up
    rw [down] at up
    cases up.2.1

/-! ### A command -/

theorem startsOf_execute {recovery : RecoveryConfig} : startsOf (s.execute target recovery).events = startsOf s.events + 1 :=
  List.countP_cons_of_pos (by simp)

theorem entriesOf_execute {recovery : RecoveryConfig} : entriesOf (s.execute target recovery).events = entriesOf s.events := by
  rw [State.execute,entriesOf_cons,List.append_nil]

/-- A started command is within its limits exactly if the cooldown is over. -/
theorem withinLimits_execute {recovery : RecoveryConfig} (disciplined : Disciplined s) (idle : s.running = none)
    (found : s.recoveryOf target now = some recovery) : WithinLimits (s.execute target recovery).events ↔
      ∀ before, lastStart target.id s.events = some before → before + recovery.cooldownSecs ≤ s.clock := by
  have count := disciplined.counted target.id
  rw [idle,if_neg (by simp)] at count
  have few := (recoveryOf_eq_some found).2.1
  exact ⟨fun within => within.1.2,fun over_ => ⟨⟨by omega,over_⟩,disciplined.limits⟩⟩

/-- The tracker's cooldown is the real one where the tracked second is that of the start. -/
theorem cooldown_over {recovery : RecoveryConfig} {before : Nat} (past : before ≤ s.clock) (tick : now ≤ s.clock)
    (found : s.recoveryOf target now = some recovery) (same : (s.tracked target.id).1 = before) :
    before + recovery.cooldownSecs ≤ s.clock := by
  have gap := (recoveryOf_eq_some found).2.2
  omega

/-- With another monitor, and none of its commands running before or after, the books are the same. -/
theorem disciplined_monitor {m : Option Monitor} (idle : s.running = none) (idle' : { s with monitor := m }.running = none) :
    Disciplined { s with monitor := m } ↔ Disciplined s := by
  constructor
  · rintro ⟨alive,limits,counted,ended,logged⟩
    rw [idle'] at ended
    refine ⟨alive,limits,fun id => ?_,by rw [idle]; exact ended,logged⟩
    have count := counted id
    rw [idle'] at count
    rw [idle]
    exact count
  · rintro ⟨alive,limits,counted,ended,logged⟩
    rw [idle] at ended
    refine ⟨alive,limits,fun id => ?_,by rw [idle']; exact ended,logged⟩
    have count := counted id
    rw [idle] at count
    rw [idle']
    exact count

theorem sound_monitor {m : Option Monitor} (idle : { s with monitor := m }.running = none)
    (tick : ∀ monitor now, m = some monitor → monitor.phase.now? = some now → now ≤ s.clock) (sound : Sound s) :
    Sound { s with monitor := m } := by
  refine ⟨fun id either => ?_,sound.past,tick⟩
  rw [idle] at either
  exact sound.down id (either.imp_right (by simp))

/-- What is true when a command starts. -/
theorem started {recovery : RecoveryConfig} {config : Config} {lastCheck : Table String Nat} {rest : List Target} (sound : Sound s)
    (disciplined : Disciplined s) (idle : s.running = none) (tick : now ≤ s.clock) (found : s.recoveryOf target now = some recovery) :
    let t := { s.execute target recovery with monitor := some ⟨config,lastCheck,.recovering now target recovery rest⟩ }
    Sound t ∧ (Disciplined t ↔ ∀ before, lastStart target.id s.events = some before → before + recovery.cooldownSecs ≤ s.clock) := by
  intro t
  have running : t.running = some target.id := rfl
  refine ⟨⟨fun id either => ?_,fun id at_ last => ?_,fun monitor now' same at_ => ?_⟩,?_⟩
  · rcases either with kept | here
    · exact sound.down id (.inl kept)
    · cases here
      exact (recoveryOf_eq_some found).1
  · simp only [t,State.execute,lastStart] at last
    split at last
    · cases last
      exact Nat.le_refl _
    · exact sound.past id at_ last
  · cases same
    cases at_
    exact tick
  · rw [← withinLimits_execute disciplined idle found]
    refine ⟨Disciplined.limits,fun within => ⟨disciplined.alive,within,fun id => ?_,?_,?_⟩⟩
    · have count := disciplined.counted id
      rw [idle] at count
      rw [running]
      simp only [t,State.execute,sinceUp,Option.some.injEq]
      show _ = (s.tracked id).2 + _
      split <;> simp_all
    · have count := disciplined.ended
      rw [idle] at count
      rw [running]
      show startsOf (s.execute target recovery).events = (entriesOf (s.execute target recovery).events).length + _
      rw [startsOf_execute,entriesOf_execute,count]
      rfl
    · show s.recoveryLog = _
      rw [disciplined.logged]
      show _ = List.drop ((entriesOf (s.execute target recovery).events).length - _) (entriesOf (s.execute target recovery).events)
      rw [entriesOf_execute]

/-- A command that a stopped loop starts is not accounted for. -/
theorem stray_not_disciplined {recovery : RecoveryConfig} {m : Option Monitor} (disciplined : Disciplined s) (idle : s.running = none)
    (idle' : { s.execute target recovery with monitor := m }.running = none) :
    ¬ Disciplined { s.execute target recovery with monitor := m } := by
  intro after
  have ended := after.ended
  have before := disciplined.ended
  rw [idle'] at ended
  rw [idle] at before
  change startsOf (s.execute target recovery).events = (entriesOf (s.execute target recovery).events).length + 0 at ended
  rw [startsOf_execute,entriesOf_execute] at ended
  omega

/-- The log keeps the last entries. -/
theorem drop_push {entry : RecoveryLogEntry} {entries log : List RecoveryLogEntry}
    (logged : log = entries.drop (entries.length - maxRecoveryLog)) :
    (if maxRecoveryLog ≤ log.length then log.drop 1 else log) ++ [entry] =
      (entries ++ [entry]).drop ((entries ++ [entry]).length - maxRecoveryLog) := by
  have length : log.length = min entries.length maxRecoveryLog := by
    rw [logged,List.length_drop]
    omega
  have whole : (entries ++ [entry]).length = entries.length + 1 := List.length_append
  rw [whole]
  split
  · next full =>
    have positive : 0 < maxRecoveryLog := by decide
    have cut : (entries ++ [entry]).drop (entries.length + 1 - maxRecoveryLog) =
        entries.drop (entries.length + 1 - maxRecoveryLog) ++ [entry] := List.drop_append_of_le_length (by omega)
    have more : 1 + (entries.length - maxRecoveryLog) = entries.length + 1 - maxRecoveryLog := by omega
    rw [logged,List.drop_drop,cut,Nat.add_comm,more]
  · next room =>
    have few : entries.length < maxRecoveryLog := by omega
    have none_ : entries.length - maxRecoveryLog = 0 := by omega
    have none' : entries.length + 1 - maxRecoveryLog = 0 := by omega
    rw [logged,none_,none',List.drop_zero,List.drop_zero]

/-- A command that is done with. -/
theorem finished {recovery : RecoveryConfig} {config : Config} {lastCheck : Table String Nat} {rest : List Target}
    {entry : RecoveryLogEntry} (sound : Sound s) (disciplined : Disciplined s)
    (there : s.monitor = some ⟨config,lastCheck,.recovering now target recovery rest⟩) :
    let t := { s.pushRecoveryLog entry with
      tracker := s.tracker.insert target.id (now,(s.tracked target.id).2 + 1)
      events := .ended entry :: s.events
      monitor := some ⟨config,lastCheck,.between now rest⟩ }
    Sound t ∧ Disciplined t := by
  intro t
  have running : s.running = some target.id := by rw [State.running,there]
  have idle : t.running = none := rfl
  have lookup : ∀ id, t.tracker.lookup id = if id = target.id then some (now,(s.tracked target.id).2 + 1) else s.tracker.lookup id :=
    fun id => Table.lookup_insert_eq _ _ _ _
  refine ⟨⟨fun id either => ?_,sound.past,fun monitor now' same at_ => ?_⟩,⟨disciplined.alive,disciplined.limits,fun id => ?_,?_,?_⟩⟩
  · have kept := either.resolve_right (by rw [idle]; simp)
    rw [lookup] at kept
    split at kept
    · next same =>
      subst same
      exact sound.down target.id (.inr running)
    · exact sound.down id (.inl kept)
  · cases same
    cases at_
    exact sound.tick _ _ there rfl
  · have count := disciplined.counted id
    rw [running] at count
    rw [idle,State.tracked,lookup]
    show sinceUp id s.events = _
    by_cases same : id = target.id
    · subst same
      rw [if_pos rfl] at count ⊢
      exact count
    · rw [if_neg (by simpa using Ne.symm same)] at count
      rw [if_neg same]
      exact count
  · have count := disciplined.ended
    rw [running] at count
    rw [idle]
    show startsOf (.ended entry :: s.events) = (entriesOf (.ended entry :: s.events)).length + 0
    rw [entriesOf_cons,List.length_append,startsOf,List.countP_cons_of_neg (by simp)]
    exact count
  · show (if maxRecoveryLog ≤ s.recoveryLog.length then s.recoveryLog.drop 1 else s.recoveryLog) ++ [entry] =
      (entriesOf (.ended entry :: s.events)).drop ((entriesOf (.ended entry :: s.events)).length - maxRecoveryLog)
    rw [entriesOf_cons]
    exact drop_push disciplined.logged

/-! ### A step -/

theorem start_sound (clock : Nat) : Sound (start clock) := by
  constructor
  · intro id either
    rcases either with tracked | running
    · cases tracked
    · cases running
  · exact nofun
  · exact nofun

theorem start_disciplined (clock : Nat) : Disciplined (start clock) := ⟨rfl,trivial,fun _ => rfl,rfl,rfl⟩

theorem sound_execute {recovery : RecoveryConfig} (sound : Sound s) (idle : s.running = none) : Sound (s.execute target recovery) := by
  refine ⟨fun id either => ?_,fun id at_ last => ?_,sound.tick⟩
  · have idle' : (s.execute target recovery).running = none := idle
    rw [idle'] at either
    exact sound.down id (either.imp_right (by simp))
  · simp only [State.execute,lastStart] at last
    split at last
    · cases last
      exact Nat.le_refl _
    · exact sound.past id at_ last

/-- The monitor goes on to another place of the same tick, or waits for the next one. -/
theorem goes_on {config : Config} {lastCheck : Table String Nat} {phase : Phase} (sound : Sound s) (disciplined : Disciplined s)
    (idle : s.running = none) (idle' : { s with monitor := some ⟨config,lastCheck,phase⟩ }.running = none)
    (tick : ∀ now, phase.now? = some now → now ≤ s.clock) :
    Sound { s with monitor := some ⟨config,lastCheck,phase⟩ } ∧ Disciplined { s with monitor := some ⟨config,lastCheck,phase⟩ } := by
  refine ⟨sound_monitor idle' (fun monitor now same at_ => ?_) sound,(disciplined_monitor idle idle').mpr disciplined⟩
  cases same
  exact tick now at_

theorem checked_step (sound : Sound s) (disciplined : Disciplined s) (moved : move s (.checked result) = some t) :
    Sound t ∧ (Disciplined t ↔ Keeps s (.checked result)) := by
  simp only [move] at moved
  split at moved
  · next config lastCheck now target rest there =>
    have idle : s.running = none := by rw [State.running,there]
    have tick : now ≤ s.clock := sound.tick _ _ there rfl
    have sound' : Sound (s.record target result) := sound_record sound idle
    have disciplined' : Disciplined (s.record target result) := disciplined_record sound idle disciplined
    simp only [Keeps,there]
    cases found : (s.record target result).recoveryOf target now with
    | some recovery =>
      rw [found] at moved
      cases moved
      obtain ⟨after,exactly⟩ := @started _ target now recovery config lastCheck rest sound' disciplined' idle tick found
      refine ⟨after,exactly.trans ?_⟩
      rw [lastStart_record]
      constructor
      · intro elapsed recovery' same before last
        cases same
        exact .inr (elapsed before last)
      · intro prompt before last
        rcases prompt recovery rfl before last with ⟨same,-⟩ | elapsed
        · refine cooldown_over (sound.past target.id before last) tick found ?_
          rw [tracked_down (recoveryOf_eq_some found).1]
          exact same
        · exact elapsed
    | none =>
      rw [found] at moved
      cases moved
      obtain ⟨after,kept⟩ := @goes_on _ config lastCheck (.between now rest) sound' disciplined' idle rfl fun now' at_ => by
        cases at_
        exact tick
      exact ⟨after,iff_of_true kept (by simp)⟩
  · cases moved

theorem commandEnds_step {result : Except (List Char) (Int × List Char)} (sound : Sound s) (disciplined : Disciplined s)
    (moved : move s (.commandEnds result) = some t) : Sound t ∧ (Disciplined t ↔ Keeps s (.commandEnds result)) := by
  simp only [move] at moved
  split at moved
  · next config lastCheck now target recovery rest there =>
    simp only [Keeps]
    split at moved
    · next stdout cut =>
      cases moved
      obtain ⟨after,kept⟩ := @finished _ target now recovery config lastCheck rest
        ⟨target.id,recovery.command,(outcomeOf result).1,stdout⟩ sound disciplined there
      exact ⟨after,iff_of_true kept (by rw [cut]; rfl)⟩
    · next panics =>
      cases moved
      refine ⟨⟨sound.down,sound.past,sound.tick⟩,iff_of_false (fun after => ?_) (by rw [panics]; decide)⟩
      cases after.alive
  · cases moved

theorem push_step {config : Config} {inHand : Option CheckResult} (sound : Sound s) (disciplined : Disciplined s)
    (moved : move s (.push config inHand) = some t) : Sound t ∧ (Disciplined t ↔ Keeps s (.push config inHand)) := by
  have waits : ∀ {u : State}, u.running = none → Sound u → Disciplined u →
      Sound { u with monitor := some ⟨config,∅,.waiting⟩ } ∧ Disciplined { u with monitor := some ⟨config,∅,.waiting⟩ } :=
    fun idle sound disciplined => goes_on sound disciplined idle rfl nofun
  simp only [move] at moved
  split at moved
  · cases moved
  · next config' lastCheck now target rest there =>
    have idle : s.running = none := by rw [State.running,there]
    cases inHand with
    | none =>
      cases moved
      obtain ⟨after,kept⟩ := waits idle sound disciplined
      exact ⟨after,iff_of_true kept trivial⟩
    | some result =>
      have sound' : Sound (s.record target result) := sound_record sound idle
      have disciplined' : Disciplined (s.record target result) := disciplined_record sound idle disciplined
      simp only [Keeps,there]
      cases moved
      simp only [State.lastStretch]
      cases found : (s.record target result).recoveryOf target now with
      | some recovery =>
        refine ⟨?_,iff_of_false (stray_not_disciplined disciplined' idle rfl) (by simp)⟩
        refine sound_monitor rfl (fun monitor now same at_ => ?_) (sound_execute sound' idle)
        cases same
        cases at_
      | none =>
        obtain ⟨after,kept⟩ := waits (show (s.record target result).running = none from idle) sound' disciplined'
        exact ⟨after,iff_of_true kept rfl⟩
  · next noCommand noCheck =>
    split at moved
    · cases moved
    · next noHand =>
      cases moved
      have idle : s.running = none := by
        rw [State.running]
        split
        · next there => exact absurd there (noCommand _ _ _ _ _ _)
        · rfl
      obtain ⟨after,kept⟩ := waits idle sound disciplined
      refine ⟨after,iff_of_true kept ?_⟩
      cases inHand with
      | none => trivial
      | some result => exact absurd rfl noHand

variable {a : Action}

theorem step_disciplined (sound : Sound s) (disciplined : Disciplined s) (stepped : step s a = some t) :
    Sound t ∧ (Disciplined t ↔ Keeps s a) := by
  rw [step,if_neg (by rw [disciplined.alive]; decide)] at stepped
  cases a with
  | pass secs =>
    cases stepped
    refine ⟨⟨sound.down,fun id at_ last => ?_,fun monitor now there at_ => ?_⟩,iff_of_true ?_ trivial⟩
    · exact Nat.le_trans (sound.past id at_ last) (Nat.le_add_right _ _)
    · exact Nat.le_trans (sound.tick monitor now there at_) (Nat.le_add_right _ _)
    · exact ⟨disciplined.alive,disciplined.limits,disciplined.counted,disciplined.ended,disciplined.logged⟩
  | tick =>
    simp only [move] at stepped
    split at stepped
    · next config lastCheck there =>
      cases stepped
      have idle : s.running = none := by rw [State.running,there]
      obtain ⟨after,kept⟩ := @goes_on _ config lastCheck (.between s.clock config.targets) sound disciplined idle rfl fun now at_ => by
        cases at_
        exact Nat.le_refl _
      exact ⟨after,iff_of_true kept trivial⟩
    · cases stepped
  | next =>
    simp only [move] at stepped
    split at stepped
    · next config lastCheck now there =>
      cases stepped
      have idle : s.running = none := by rw [State.running,there]
      obtain ⟨after,kept⟩ := @goes_on _ config lastCheck .waiting sound disciplined idle rfl nofun
      exact ⟨after,iff_of_true kept trivial⟩
    · next config lastCheck now target rest there =>
      have idle : s.running = none := by rw [State.running,there]
      have tick : ∀ now', some now = some now' → now' ≤ s.clock := fun now' same => sound.tick _ _ there same
      split at stepped
      · cases stepped
        obtain ⟨after,kept⟩ := @goes_on _ config lastCheck (.between now rest) sound disciplined idle rfl tick
        exact ⟨after,iff_of_true kept trivial⟩
      · cases stepped
        obtain ⟨after,kept⟩ := @goes_on _ config (lastCheck.insert target.id now) (.checking now target rest) sound disciplined idle rfl tick
        exact ⟨after,iff_of_true kept trivial⟩
    · cases stepped
  | checked result => exact checked_step sound disciplined stepped
  | commandEnds result => exact commandEnds_step sound disciplined stepped
  | push config inHand => exact push_step sound disciplined stepped

/-- Recovery is disciplined in every state that a run of the monitor passes exactly if
    its steps meet the condition. -/
theorem recovery_disciplined_iff (clock : Nat) (as : List Action) :
    Always step Disciplined (start clock) as ↔ Along step Keeps (start clock) as :=
  always_iff_along_with (fun _ _ _ sound disciplined stepped => (step_disciplined sound disciplined stepped).1)
    (fun _ _ _ sound disciplined stepped => (step_disciplined sound disciplined stepped).2) (start_sound clock) (start_disciplined clock)

end

/-- One target that is down after two failures, with a recovery command. -/
def oneTarget : Config := ⟨0,[⟨"router",⟨200,2,2,two_lt,two_lt⟩,none,some ⟨true,"reboot-router",300,2⟩⟩]⟩

/-- Its command prints a character of two bytes across the cut. -/
def longOutput : List Action :=
  [.push oneTarget none,.pass 1000,.tick,.next,.checked ⟨false,none⟩,.next,.tick,.next,.checked ⟨false,none⟩,
    .commandEnds (.ok (0,List.replicate 511 'a' ++ ['\u00e9']))]

theorem long_output_crashes : ¬ ∀ (clock : Nat) (as : List Action), Always step Disciplined (start clock) as := by
  intro all
  have crashed : (run step (start 0) longOutput).map State.crashed = some true := by decide +kernel
  obtain ⟨t,ran,panics⟩ := Option.map_eq_some_iff.mp crashed
  have alive := (always_last (all 0 longOutput) ran).alive
  rw [panics] at alive
  cases alive

end Sctl.InfraMonitor
