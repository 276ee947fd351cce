import Mathlib.Data.List.TakeWhile
import Sctl.Runs

/-!
The supervisor of the server (`server/src/supervisor.rs`): it starts the server as a
child, waits for it and starts it again after a crash. A crash loop engages the safe
mode, which stretches the time before the next start. Every start also spawns a task
that forwards the signals of the supervisor to the child of that start.
-/
namespace Sctl.ServerSupervisor
open Runs

/-- The clock counts nanoseconds. -/
def secs (n : Nat) : Nat := 10 ^ 9 * n

def crashLoopThreshold : Nat := 3
def crashLoopWindow : Nat := secs 180
def safeModeBackoffSecs : Nat := 300

structure SupervisorConfig where
  maxBackoff : Nat
  stableThreshold : Nat

abbrev Pid := Nat

inductive Signal
  | sigint
  | sigterm
deriving DecidableEq

/-- What `wait` answers: the child's exit code, none for a child that a signal ended, or an error. -/
inductive Status
  | code (n : Int)
  | signalled
  | error
deriving DecidableEq

/-- Why the exit counts as a crash; the codes 99 and 0 do not. -/
def Status.reason : Status → Option String
  | .code n => if n = 99 then none else if n = 0 then none else some "child_exit_nonzero"
  | .signalled => some "child_exit_nonzero"
  | .error => some "child_wait_error"

/-! ### The safe mode -/

/-- `safe_mode.flag`. -/
structure SafeModeFlag where
  sinceUnix : Nat
  reason : String
  consecutiveCrashes : Nat
deriving DecidableEq

/-- A flag that cannot be written leaves the one that is there. -/
def writeSafeModeFlag (unix : Nat) (written : Bool) (reason : String) (consecutive : Nat) (old : Option SafeModeFlag) :
    Option SafeModeFlag :=
  if written then some ⟨unix,reason,consecutive⟩ else old

structure SafeMode where
  history : List Nat
  engaged : Bool
  flag : Option SafeModeFlag
deriving DecidableEq

/-- The crashes at the front that left the window are popped. -/
def trim (now : Nat) (history : List Nat) : List Nat := history.dropWhile fun front => decide (crashLoopWindow < now - front)

/-- The safe mode after a crash, and the backoff in front of the next start. -/
def recordCrashAndPickBackoff (now unix : Nat) (written : Bool) (m : SafeMode) (normalBackoff : Nat) (reason : String) :
    SafeMode × Nat :=
  let history := trim now (m.history ++ [now])
  if crashLoopThreshold ≤ history.length then
    (⟨history,true,writeSafeModeFlag unix written reason history.length m.flag⟩,safeModeBackoffSecs)
  else
    ({ m with history := history },normalBackoff)

/-- The ramp of the normal backoff, a `u64`. -/
def nextBackoff (cfg : SupervisorConfig) (uptime backoff : Nat) : Nat :=
  if secs cfg.stableThreshold ≤ uptime then 1 else min (backoff * 2 % 2 ^ 64) cfg.maxBackoff

/-! ### The loop and the signal tasks -/

/-- The signal task of a child. -/
inductive Listener
  /-- It did not run yet. -/
  | spawned
  | listening
  /-- A signal woke it. -/
  | woken (sig : Signal)
  /-- It has set `shutting_down`. -/
  | stored (sig : Signal)
  | done
deriving DecidableEq

/-- A child that was started, with its signal task. -/
structure Child where
  pid : Pid
  listener : Listener
  /-- `wait` has returned for it. -/
  reaped : Bool
  /-- It was started after the signal. -/
  late : Bool
  /-- The signal that came while it ran. -/
  met : Option Signal
  /-- What its task sent to its pid, and whether `wait` had returned by then. -/
  sent : Option (Signal × Bool)
deriving DecidableEq

def Child.new (pid : Pid) (late : Bool) : Child := ⟨pid,.spawned,false,late,none,none⟩

inductive Phase
  /-- At the top of the loop since that instant. -/
  | starting (since : Nat)
  | running (since : Nat)
  /-- `wait` has returned. -/
  | waited (status : Status) (uptime : Nat)
  | sleeping (uptime wakes : Nat)
  | stopped
  /-- The default action of a signal ended the supervisor. -/
  | killed
deriving DecidableEq

def Phase.over : Phase → Bool
  | .stopped | .killed => true
  | _ => false

/-- The wait in front of a start after a crash, and whether the safe mode was engaged by then. -/
structure Wait where
  engaged : Bool
  secs : Nat
deriving DecidableEq

structure State where
  now : Nat
  phase : Phase
  backoff : Nat
  safeMode : SafeMode
  shuttingDown : Bool
  /-- One for each start. -/
  children : List Child
  /-- The signal that the supervisor got. -/
  got : Option Signal
  /-- All crashes that were recorded. -/
  crashes : List Nat
  waits : List Wait
deriving DecidableEq

def State.start : State := ⟨0,.starting 0,1,⟨[],false,none⟩,false,[],none,[],[]⟩

inductive Action
  | pass (n : Nat)
  /-- `spawn`, with the pid of the child; a child that cannot be spawned ends the supervisor. -/
  | spawn (pid : Option Pid)
  /-- The task of a child runs for the first time. -/
  | listen (child : Nat)
  | signal (sig : Signal)
  /-- The task of a child sets `shutting_down`. -/
  | store (child : Nat)
  /-- It calls `kill`. -/
  | kill (child : Nat)
  /-- `wait` returns. -/
  | reap (status : Status)
  /-- What the loop does with the exit of the child. -/
  | judge (unix : Nat) (written : Bool)
  /-- The loop goes on after its sleep. -/
  | wake
deriving DecidableEq

def Child.listen (c : Child) : Child := { c with listener := .listening }
def Child.reap (c : Child) : Child := { c with reaped := true }

/-- The signal wakes every task that listens. -/
def Child.wake (sig : Signal) (c : Child) : Child :=
  { c with
    listener := if c.listener = .listening then .woken sig else c.listener
    met := if c.reaped then none else some sig }

def Child.store (sig : Signal) (c : Child) : Child := { c with listener := .stored sig }
def Child.kill (sig : Signal) (c : Child) : Child := { c with listener := .done, sent := some (sig,c.reaped) }

def spawn (s : State) (since : Nat) : Option Pid → State
  | some pid => { s with phase := .running since, children := s.children ++ [Child.new pid s.got.isSome] }
  | none => { s with phase := .stopped }

/-- Before the first task listens, a signal has its default action. -/
def signal (s : State) (sig : Signal) : State :=
  { s with
    got := some sig
    children := s.children.map (Child.wake sig)
    phase := if ∃ c ∈ s.children, c.listener = .listening then s.phase else .killed }

/-- A crash is recorded and the loop sleeps. -/
def crash (s : State) (uptime : Nat) (picked : SafeMode × Nat) : State :=
  { s with
    safeMode := picked.1
    phase := .sleeping uptime (s.now + secs picked.2)
    crashes := s.crashes ++ [s.now]
    waits := s.waits ++ [⟨picked.1.engaged,picked.2⟩] }

def judge (s : State) (unix : Nat) (written : Bool) (status : Status) (uptime : Nat) : State :=
  if s.shuttingDown then { s with phase := .stopped }
  else match status.reason with
    | none => { s with phase := .stopped }
    | some reason => crash s uptime (recordCrashAndPickBackoff s.now unix written s.safeMode s.backoff reason)

variable (cfg : SupervisorConfig)

def wake (s : State) (uptime : Nat) : State :=
  if s.shuttingDown then { s with phase := .stopped }
  else { s with backoff := nextBackoff cfg uptime s.backoff, phase := .starting s.now }

def step (s : State) (a : Action) : Option State :=
  if s.phase.over then none
  else match a with
    | .pass n => some { s with now := s.now + n }
    | .spawn pid =>
      match s.phase with
      | .starting since => some (spawn s since pid)
      | _ => none
    | .listen i =>
      match s.children[i]? with
      | some c => if c.listener = .spawned then some { s with children := s.children.modify i Child.listen } else none
      | none => none
    | .signal sig => if s.got = none then some (signal s sig) else none
    | .store i =>
      match (s.children[i]?).map Child.listener with
      | some (.woken sig) => some { s with shuttingDown := true, children := s.children.modify i (Child.store sig) }
      | _ => none
    | .kill i =>
      match (s.children[i]?).map Child.listener with
      | some (.stored sig) => some { s with children := s.children.modify i (Child.kill sig) }
      | _ => none
    | .reap status =>
      match s.phase with
      | .running since => some { s with phase := .waited status (s.now - since), children := s.children.map Child.reap }
      | _ => none
    | .judge unix written =>
      match s.phase with
      | .waited status uptime => some (judge s unix written status uptime)
      | _ => none
    | .wake =>
      match s.phase with
      | .sleeping uptime wakes => if wakes ≤ s.now then some (wake cfg s uptime) else none
      | _ => none

/-! ### What the safe mode is to hold -/

/-- Some crash had at least `CRASH_LOOP_THRESHOLD` crashes within the last `CRASH_LOOP_WINDOW`, itself included. -/
def CrashLooped (crashes : List Nat) : Prop :=
  ∃ earlier last later, crashes = earlier ++ last :: later ∧
    crashLoopThreshold ≤ ((earlier ++ [last]).filter fun c => decide (last - c ≤ crashLoopWindow)).length

/-- The safe mode is engaged from the first such crash on, and with it engaged every wait is `SAFE_MODE_BACKOFF_SECS`. -/
structure SafeModeHolds (s : State) : Prop where
  engaged : s.safeMode.engaged = true ↔ CrashLooped s.crashes
  stretched : ∀ w ∈ s.waits, w.engaged = true → w.secs = safeModeBackoffSecs

/-- A crash with the safe mode engaged already comes when the normal backoff is
    `SAFE_MODE_BACKOFF_SECS` as well. -/
def RampThere (s : State) (a : Action) : Prop :=
  match a,s.phase with
  | .judge _ _,.waited status _ =>
    s.shuttingDown = false → status.reason ≠ none → s.safeMode.engaged = true → s.backoff = safeModeBackoffSecs
  | _,_ => True

instance (s : State) (a : Action) : Decidable (RampThere s a) := by
  unfold RampThere
  split <;> infer_instance

/-! ### The window -/

theorem crashLooped_append {crashes : List Nat} {now : Nat} : CrashLooped (crashes ++ [now]) ↔ CrashLooped crashes ∨
    crashLoopThreshold ≤ ((crashes ++ [now]).filter fun c => decide (now - c ≤ crashLoopWindow)).length := by
  constructor
  · rintro ⟨earlier,last,later,split,many⟩
    rcases List.eq_nil_or_concat later with rfl | ⟨more,final,rfl⟩
    · obtain ⟨rfl,same⟩ := List.append_inj' split rfl
      cases same
      exact .inr many
    · have parted : crashes = earlier ++ last :: more := by
        rw [List.concat_eq_append,← List.cons_append,← List.append_assoc] at split
        exact (List.append_inj' split rfl).1
      exact .inl ⟨earlier,last,more,parted,many⟩
  · rintro (⟨earlier,last,later,split,many⟩ | many)
    · exact ⟨earlier,last,later ++ [now],by simp [split],many⟩
    · exact ⟨crashes,now,[],rfl,many⟩

/-- The crashes in order, and the history as those of them that did not leave the window. -/
structure Recorded (now : Nat) (crashes history : List Nat) : Prop where
  ordered : crashes.Pairwise (· ≤ ·)
  past : ∀ c ∈ crashes, c ≤ now
  kept : ∃ old, crashes = old ++ history ∧ ∀ c ∈ old, crashLoopWindow < now - c

theorem Recorded.pass {now later : Nat} {crashes history : List Nat} (rec : Recorded now crashes history)
    (after : now ≤ later) : Recorded later crashes history := by
  obtain ⟨old,split,left⟩ := rec.kept
  refine ⟨rec.ordered,fun c member => Nat.le_trans (rec.past c member) after,old,split,?_⟩
  intro c member
  have := left c member
  omega

theorem Recorded.crash {now : Nat} {crashes history : List Nat} (rec : Recorded now crashes history) :
    Recorded now (crashes ++ [now]) (trim now (history ++ [now])) := by
  obtain ⟨old,split,left⟩ := rec.kept
  refine ⟨?_,?_,old ++ (history ++ [now]).takeWhile fun front => decide (crashLoopWindow < now - front),?_,?_⟩
  · refine List.pairwise_append.mpr ⟨rec.ordered,List.pairwise_singleton _ _,?_⟩
    simpa using rec.past
  · intro c member
    rcases List.mem_append.mp member with member | member
    · exact rec.past c member
    · exact (List.mem_singleton.mp member).le
  · rw [trim,List.append_assoc,List.takeWhile_append_dropWhile,split,List.append_assoc]
  · intro c member
    rcases List.mem_append.mp member with member | member
    · exact left c member
    · simpa using List.mem_takeWhile_imp member

/-- What trimming leaves is in the window, since the crashes are in order. -/
theorem trim_recent {now : Nat} {history : List Nat} (ordered : history.Pairwise (· ≤ ·)) :
    ∀ c ∈ trim now history, now - c ≤ crashLoopWindow := by
  induction history with
  | nil => simp [trim]
  | cons first rest ih =>
    rw [List.pairwise_cons] at ordered
    by_cases gone : crashLoopWindow < now - first
    · rw [trim,List.dropWhile_cons_of_pos (by simpa using gone)]
      exact ih ordered.2
    · rw [trim,List.dropWhile_cons_of_neg (by simpa using gone)]
      intro c member
      rcases List.mem_cons.mp member with rfl | member
      · omega
      · have := ordered.1 c member
        omega

/-- The trimmed history is what lies in the window of all crashes. -/
theorem Recorded.window {now : Nat} {crashes history : List Nat} (rec : Recorded now crashes history) :
    ((crashes ++ [now]).filter fun c => decide (now - c ≤ crashLoopWindow)) = trim now (history ++ [now]) := by
  have after := rec.crash
  obtain ⟨old,split,left⟩ := after.kept
  have recent : ∀ c ∈ trim now (history ++ [now]), now - c ≤ crashLoopWindow := by
    obtain ⟨before,first,_⟩ := rec.kept
    have ordered := (List.pairwise_append.mp rec.crash.ordered).1
    apply trim_recent
    refine List.pairwise_append.mpr ⟨?_,List.pairwise_singleton _ _,?_⟩
    · rw [first] at ordered
      exact (List.pairwise_append.mp ordered).2.1
    · intro c member d same
      rw [List.mem_singleton.mp same]
      exact rec.past c (by simp [first,member])
  rw [split,List.filter_append,List.filter_eq_nil_iff.mpr,List.nil_append,List.filter_eq_self.mpr]
  · simpa using recent
  · intro c member
    have := left c member
    simp only [decide_eq_true_eq]
    omega

/-- A crash that comes long after all others is alone in the history. -/
theorem Recorded.alone {now : Nat} {crashes history : List Nat} (rec : Recorded now crashes history)
    (long : ∀ c ∈ crashes, c + secs safeModeBackoffSecs ≤ now) : trim now (history ++ [now]) = [now] := by
  rw [← rec.window,List.filter_append,List.filter_eq_nil_iff.mpr]
  · simp
  · intro c member
    have := long c member
    simp only [decide_eq_true_eq]
    unfold crashLoopWindow
    simp only [secs,safeModeBackoffSecs] at *
    omega

/-! ### Runs -/

variable {cfg}

/-- When the next start is due. -/
def State.resumes (s : State) : Nat :=
  match s.phase with
  | .sleeping _ wakes => wakes
  | _ => s.now

theorem crash_resumes {s : State} {uptime : Nat} {picked : SafeMode × Nat} :
    (crash s uptime picked).resumes = s.now + secs picked.2 := rfl

/-- What only the loop's verdict on an exit changes. -/
structure SameRecord (s t : State) : Prop where
  crashes : t.crashes = s.crashes
  safeMode : t.safeMode = s.safeMode
  waits : t.waits = s.waits
  now : s.now ≤ t.now
  resumes : t.phase.over = false → s.resumes ≤ t.resumes

theorem step_sameRecord {s t : State} {a : Action} (stepped : step cfg s a = some t)
    (other : ∀ unix written, a ≠ .judge unix written) : SameRecord s t := by
  unfold step at stepped
  split at stepped
  · cases stepped
  cases a with
  | pass n =>
    cases stepped
    refine ⟨rfl,rfl,rfl,Nat.le_add_right s.now n,fun _ => ?_⟩
    unfold State.resumes
    cases s.phase <;> simp
  | spawn pid =>
    dsimp only at stepped
    split at stepped
    · rename_i since there
      cases stepped
      cases pid with
      | none => exact ⟨rfl,rfl,rfl,le_rfl,by simp [spawn,Phase.over]⟩
      | some pid => exact ⟨rfl,rfl,rfl,le_rfl,by simp [spawn,State.resumes,there]⟩
    · cases stepped
  | listen i =>
    dsimp only at stepped
    split at stepped
    · split at stepped
      · cases stepped
        exact ⟨rfl,rfl,rfl,le_rfl,fun _ => le_rfl⟩
      · cases stepped
    · cases stepped
  | signal sig =>
    dsimp only at stepped
    split at stepped
    · cases stepped
      refine ⟨rfl,rfl,rfl,le_rfl,?_⟩
      unfold signal
      dsimp only
      split
      · exact fun _ => le_rfl
      · simp [Phase.over]
    · cases stepped
  | store i =>
    dsimp only at stepped
    split at stepped
    · cases stepped
      exact ⟨rfl,rfl,rfl,le_rfl,fun _ => le_rfl⟩
    · cases stepped
  | kill i =>
    dsimp only at stepped
    split at stepped
    · cases stepped
      exact ⟨rfl,rfl,rfl,le_rfl,fun _ => le_rfl⟩
    · cases stepped
  | reap status =>
    dsimp only at stepped
    split at stepped
    · rename_i since there
      cases stepped
      exact ⟨rfl,rfl,rfl,le_rfl,by simp [State.resumes,there]⟩
    · cases stepped
  | judge unix written => exact absurd rfl (other unix written)
  | wake =>
    dsimp only at stepped
    split at stepped
    · rename_i uptime wakes there
      split at stepped
      · rename_i due
        cases stepped
        unfold wake
        split
        · exact ⟨rfl,rfl,rfl,le_rfl,by simp [Phase.over]⟩
        · exact ⟨rfl,rfl,rfl,le_rfl,by simp [State.resumes,there,due]⟩
      · cases stepped
    · cases stepped

/-- The loop stops at the exit of a child, or records it as a crash. -/
theorem judge_cases {s t : State} {unix : Nat} {written : Bool} (stepped : step cfg s (.judge unix written) = some t) :
    ∃ status uptime, s.phase = .waited status uptime ∧ (((s.shuttingDown = true ∨ status.reason = none) ∧
        t = { s with phase := .stopped }) ∨
      ∃ reason picked, s.shuttingDown = false ∧ status.reason = some reason ∧
        recordCrashAndPickBackoff s.now unix written s.safeMode s.backoff reason = picked ∧ t = crash s uptime picked) := by
  unfold step at stepped
  split at stepped
  · cases stepped
  dsimp only at stepped
  split at stepped
  · rename_i status uptime there
    refine ⟨status,uptime,there,?_⟩
    cases stepped
    unfold judge
    cases down : s.shuttingDown with
    | true => exact .inl ⟨.inl rfl,by simp⟩
    | false =>
      cases why : status.reason with
      | none => exact .inl ⟨.inr rfl,by simp⟩
      | some reason => exact .inr ⟨reason,_,rfl,rfl,rfl,by simp⟩
  · cases stepped

/-- What a recorded crash makes of the safe mode. -/
theorem record_spec {now unix backoff : Nat} {written : Bool} {m : SafeMode} {reason : String} {picked : SafeMode × Nat}
    (recorded : recordCrashAndPickBackoff now unix written m backoff reason = picked) :
    picked.1.history = trim now (m.history ++ [now]) ∧
      (crashLoopThreshold ≤ (trim now (m.history ++ [now])).length ∧ picked.1.engaged = true ∧ picked.2 = safeModeBackoffSecs ∨
        (trim now (m.history ++ [now])).length < crashLoopThreshold ∧ picked.1.engaged = m.engaged ∧ picked.2 = backoff) := by
  subst recorded
  unfold recordCrashAndPickBackoff
  by_cases many : crashLoopThreshold ≤ (trim now (m.history ++ [now])).length
  · simp [many]
  · simp [many,Nat.lt_of_not_le many]

/-- With every wait of the safe mode stretched, the next start is that long after every crash. -/
structure Spaced (s : State) : Prop where
  recorded : Recorded s.now s.crashes s.safeMode.history
  apart : s.phase.over = false → SafeModeHolds s → s.safeMode.engaged = true →
    ∀ c ∈ s.crashes, c + secs safeModeBackoffSecs ≤ s.resumes

theorem Spaced.start : Spaced .start where
  recorded := ⟨List.Pairwise.nil,by simp [State.start],[],rfl,by simp⟩
  apart _ _ engaged := nomatch engaged

/-- The crash that is recorded next is alone in the window once the safe mode is engaged. -/
theorem Spaced.alone {s : State} (spaced : Spaced s) (holds : SafeModeHolds s) {status : Status} {uptime : Nat}
    (there : s.phase = .waited status uptime) (engaged : s.safeMode.engaged = true) :
    trim s.now (s.safeMode.history ++ [s.now]) = [s.now] := by
  apply spaced.recorded.alone
  have long := spaced.apart (by simp [there,Phase.over]) holds engaged
  simpa [State.resumes,there] using long

theorem Spaced.step {s t : State} {a : Action} (spaced : Spaced s) (holds : SafeModeHolds s) (stepped : step cfg s a = some t) :
    Spaced t := by
  by_cases verdict : ∃ unix written, a = .judge unix written
  · obtain ⟨unix,written,rfl⟩ := verdict
    obtain ⟨status,uptime,there,⟨_,rfl⟩ | ⟨reason,picked,_,_,recorded,rfl⟩⟩ := judge_cases stepped
    · exact ⟨spaced.recorded,by simp [Phase.over]⟩
    · refine ⟨?_,fun _ after engaged => ?_⟩
      · show Recorded s.now (s.crashes ++ [s.now]) picked.1.history
        rw [(record_spec recorded).1]
        exact spaced.recorded.crash
      · have long : picked.2 = safeModeBackoffSecs :=
          after.stretched ⟨picked.1.engaged,picked.2⟩ (List.mem_append_right _ List.mem_cons_self) engaged
        intro c member
        have past : c ≤ s.now := by
          rcases List.mem_append.mp member with member | member
          · exact spaced.recorded.past c member
          · exact (List.mem_singleton.mp member).le
        rw [crash_resumes,long]
        exact Nat.add_le_add_right past _
  · have same := step_sameRecord stepped (fun unix written is => verdict ⟨unix,written,is⟩)
    refine ⟨?_,fun going after engaged c member => ?_⟩
    · rw [same.crashes,same.safeMode]
      exact spaced.recorded.pass same.now
    · have live : s.phase.over = false := by
        by_contra ended
        simp [ServerSupervisor.step,ended] at stepped
      rw [same.safeMode] at engaged
      rw [same.crashes] at member
      exact Nat.le_trans (spaced.apart live holds engaged c member) (same.resumes going)

/-- A crash engages the safe mode exactly when the crashes loop by then. -/
theorem engaged_iff {s : State} {unix : Nat} {written : Bool} {reason : String} {picked : SafeMode × Nat} (spaced : Spaced s)
    (holds : SafeModeHolds s) (recorded : recordCrashAndPickBackoff s.now unix written s.safeMode s.backoff reason = picked) :
    picked.1.engaged = true ↔ CrashLooped (s.crashes ++ [s.now]) := by
  rw [crashLooped_append,spaced.recorded.window,← holds.engaged]
  rcases (record_spec recorded).2 with ⟨many,engaged,_⟩ | ⟨few,engaged,_⟩
  · simp [many,engaged]
  · simp [Nat.not_le_of_lt few,engaged]

/-- After a step the safe mode holds as it is to hold if and only if a crash that comes
    with it engaged came with the normal backoff at that of the safe mode. -/
theorem holds_step_iff {s t : State} {a : Action} (spaced : Spaced s) (holds : SafeModeHolds s)
    (stepped : step cfg s a = some t) : SafeModeHolds t ↔ RampThere s a := by
  by_cases verdict : ∃ unix written, a = .judge unix written
  · obtain ⟨unix,written,rfl⟩ := verdict
    obtain ⟨status,uptime,there,⟨quiet,rfl⟩ | ⟨reason,picked,up,why,recorded,rfl⟩⟩ := judge_cases stepped
    · refine iff_of_true ⟨holds.engaged,holds.stretched⟩ ?_
      simp only [RampThere,there]
      intro up crashed
      rcases quiet with down | quiet
      · simp [down] at up
      · exact absurd quiet crashed
    · have spec := record_spec recorded
      simp only [RampThere,there]
      constructor
      · intro after _ _ engaged
        -- the window holds this crash alone, so the backoff is the normal one
        rw [spaced.alone holds there engaged] at spec
        rcases spec.2 with ⟨many,_⟩ | ⟨_,still,normal⟩
        · simp [crashLoopThreshold] at many
        · rw [← normal]
          exact after.stretched ⟨picked.1.engaged,picked.2⟩ (List.mem_append_right _ List.mem_cons_self) (still.trans engaged)
      · intro ramp
        refine ⟨engaged_iff spaced holds recorded,fun w member engaged => ?_⟩
        rcases List.mem_append.mp member with member | member
        · exact holds.stretched w member engaged
        · cases List.mem_singleton.mp member
          rcases spec.2 with ⟨_,_,long⟩ | ⟨_,still,normal⟩
          · exact long
          · exact normal.trans (ramp up (by simp [why]) (still.symm.trans engaged))
  · have same := step_sameRecord stepped (fun unix written is => verdict ⟨unix,written,is⟩)
    refine iff_of_true ⟨?_,?_⟩ ?_
    · rw [same.safeMode,same.crashes]
      exact holds.engaged
    · rw [same.waits]
      exact holds.stretched
    · cases a with
      | judge unix written => exact absurd ⟨unix,written,rfl⟩ verdict
      | _ => simp [RampThere]

theorem SafeModeHolds.start : SafeModeHolds .start :=
  ⟨by simp [State.start,CrashLooped],by simp [State.start]⟩

/-- The safe mode holds throughout a run if and only if every crash after the one that
    engages it comes with the ramp of the normal backoff at that of the safe mode. -/
theorem safe_mode_holds_iff (cfg : SupervisorConfig) (as : List Action) :
    Always (step cfg) SafeModeHolds .start as ↔ Along (step cfg) RampThere .start as :=
  always_iff_along_with (fun s _ _ (spaced : Spaced s) holds stepped => spaced.step holds stepped)
    (fun _ _ _ spaced holds stepped => holds_step_iff spaced holds stepped) Spaced.start SafeModeHolds.start

/-- A child that is started, crashes `uptime` later and is judged, up to the sleep of the loop. -/
def crashes (uptime : Nat) : List Action := [.spawn (some 7),.pass uptime,.reap (.code 1),.judge 0 true]

/-- Three crashes at once engage the safe mode; the fourth comes after the wait of the
    safe mode and is followed by the normal backoff of 8 seconds. -/
theorem safe_mode_left : ∃ t, run (step ⟨60,120⟩) .start (crashes 0 ++ [.pass (secs 1),.wake] ++ crashes 0 ++
    [.pass (secs 2),.wake] ++ crashes 0 ++ [.pass (secs 300),.wake] ++ crashes 0) = some t ∧
      t.waits = [⟨false,1⟩,⟨false,2⟩,⟨true,300⟩,⟨true,8⟩] ∧ ¬ SafeModeHolds t := by
  obtain ⟨t,ran,waits⟩ := Option.map_eq_some_iff.mp (show (run (step ⟨60,120⟩) .start (crashes 0 ++ [.pass (secs 1),.wake] ++
    crashes 0 ++ [.pass (secs 2),.wake] ++ crashes 0 ++ [.pass (secs 300),.wake] ++ crashes 0)).map State.waits =
      some [⟨false,1⟩,⟨false,2⟩,⟨true,300⟩,⟨true,8⟩] by decide +kernel)
  refine ⟨t,ran,waits,fun holds => ?_⟩
  have long := holds.stretched ⟨true,8⟩ (by simp [waits]) rfl
  simp [safeModeBackoffSecs] at long

end Sctl.ServerSupervisor
