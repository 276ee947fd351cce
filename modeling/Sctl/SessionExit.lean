import Sctl.Readers

/-!
The end of a session (`sessions/session.rs`, `sessions/mod.rs`). The process
writes to its pipes and exits; each reader takes a chunk from its pipe and
pushes it once it has the buffer's lock; the exit watcher waits for the process,
records the code, pushes the exit line, flips the status and announces the exit,
each under a lock of its own; `sweep` and `kill_session` abort all of them. No
task waits for another one.
-/
namespace Sctl.SessionExit
open Sctl.SessionBuffer Sctl.Readers Sctl.Runs Sctl.Utf8

inductive Process
  | running
  /-- It ended by itself, with a code unless a signal ended it. -/
  | exited (code : Option Int)
  /-- It was still there when the grace period of a kill was over. -/
  | killed
deriving DecidableEq

/-- What the process wrote to a pipe: read so far, cut into chunks, and unread. -/
structure Pipe where
  written : List UInt8
  chunks : List (List UInt8)
  unread : List UInt8
  /-- The last chunk read, while its reader waits for the buffer. -/
  inHand : Option (List UInt8)
deriving DecidableEq

/-- Where the exit watcher stands, with what `wait` returned. -/
inductive Watcher
  | waiting
  | waited (result : Except String (Option Int))
  | recorded (result : Except String (Option Int))
  | told (code : Int)
  | flipped (code : Int)
  | ended

structure State where
  session : ManagedSession
  process : Process
  pipes : OutputStream → Pipe
  watcher : Watcher
  /-- The session manager still has the session. -/
  listed : Bool
  /-- A graceful kill has sent its SIGTERM and polls the status. -/
  killing : Bool
  /-- A job announces its exit. -/
  exitEvents : Bool
  announced : Option Int

inductive Action
  | write (stream : OutputStream) (bytes : List UInt8)
  | exit (code : Option Int)
  /-- A read returns this many bytes. -/
  | read (stream : OutputStream) (count : Nat)
  | push (stream : OutputStream) (now : Nat)
  | endOfFile (stream : OutputStream)
  | readError (stream : OutputStream) (error : ReadError)
  | wait (result : Except String (Option Int))
  | recordCode
  | pushExit (now : Nat)
  | flipStatus
  | announce
  | sweep
  | kill
  /-- The kill saw the status flip, or its grace period ended. -/
  | killEnds (late : Bool)

def start (session : ManagedSession) (exitEvents : Bool) : State :=
  ⟨session,.running,fun _ => ⟨[],[],[],none⟩,.waiting,true,false,exitEvents,none⟩

/-- A PTY has no pipe for the errors; both streams of the process end in its one output. -/
def carries : Io → OutputStream → Bool
  | _, .stdout => true
  | .pipes, .stderr => true
  | _, _ => false

def codeOf : Except String (Option Int) → Int
  | .ok code => code.getD (-1)
  | .error _ => -1

def exitLine : Except String (Option Int) → String
  | .ok code => "Process exited with code " ++ toString (code.getD (-1))
  | .error e => "Process wait error: " ++ e

def abortTasks (s : ManagedSession) : ManagedSession :=
  { s with stdoutReader := false, stderrReader := false, exitWatcher := false }

/-- What `wait` can return: the status of a process that is gone, or an error. -/
def waitReturns (process : Process) : Except String (Option Int) → Bool
  | .error _ => true
  | .ok code =>
    match process with
    | .running => false
    | .exited left => code = left
    | .killed => code = none

def State.setPipe (s : State) (stream : OutputStream) (p : Pipe) : State :=
  { s with pipes := Function.update s.pipes stream p }

/-- The reader is at its read: it runs and has nothing in hand. -/
def State.atRead (s : State) (stream : OutputStream) : Bool :=
  s.session.reads stream && (s.pipes stream).inHand.isNone

def step (s : State) : Action → Option State
  | .write stream bytes =>
    if s.process = .running ∧ carries s.session.io stream = true then
      let p := s.pipes stream
      some (s.setPipe stream { p with written := p.written ++ bytes, unread := p.unread ++ bytes })
    else none
  | .exit code => if s.process = .running then some { s with process := .exited code } else none
  | .read stream count =>
    let p := s.pipes stream
    if s.atRead stream = true ∧ 0 < count ∧ count ≤ ManagedSession.readSize ∧ count ≤ p.unread.length then
      let chunk := p.unread.take count
      some (s.setPipe stream { p with
        chunks := p.chunks ++ [chunk], unread := p.unread.drop count, inHand := some chunk })
    else none
  | .push stream now =>
    let p := s.pipes stream
    match p.inHand with
    | some chunk =>
      if s.session.reads stream then
        some ({ s with session := s.session.push stream (fromUtf8Lossy chunk) now }.setPipe stream { p with inHand := none })
      else none
    | none => none
  | .endOfFile stream =>
    if s.atRead stream = true ∧ (s.pipes stream).unread = [] ∧ s.process ≠ .running then
      some { s with session := s.session.closeReader stream }
    else none
  -- a PTY with nothing to read leaves its reader where it is
  | .readError stream error =>
    if s.atRead stream = true ∧ ¬ (s.session.io = .pty ∧ error = .wouldBlock) then
      some { s with session := s.session.closeReader stream }
    else none
  | .wait result =>
    match s.watcher with
    | .waiting =>
      if s.session.exitWatcher = true ∧ waitReturns s.process result = true then some { s with watcher := .waited result }
      else none
    | _ => none
  | .recordCode =>
    match s.watcher with
    | .waited result =>
      if s.session.exitWatcher then
        some { s with session := { s.session with exitCode := some (codeOf result) }, watcher := .recorded result }
      else none
    | _ => none
  | .pushExit now =>
    match s.watcher with
    | .recorded result =>
      if s.session.exitWatcher then
        some { s with session := s.session.push .system (exitLine result) now, watcher := .told (codeOf result) }
      else none
    | _ => none
  | .flipStatus =>
    match s.watcher with
    | .told code =>
      if s.session.exitWatcher then
        some { s with session := { s.session with status := .exited }, watcher := .flipped code }
      else none
    | _ => none
  | .announce =>
    match s.watcher with
    | .flipped code =>
      if s.session.exitWatcher then
        some { s with announced := if s.exitEvents then some code else s.announced, watcher := .ended }
      else none
    | _ => none
  | .sweep =>
    if s.listed = true ∧ s.session.status = .exited then
      some { s with session := abortTasks s.session, listed := false }
    else none
  | .kill => if s.listed then some { s with listed := false, killing := true } else none
  | .killEnds late =>
    if s.killing = true ∧ (late = true ∨ s.session.status = .exited) then
      some { s with
        session := abortTasks s.session, killing := false
        process := if late = true ∧ s.process = .running then .killed else s.process }
    else none

/-! ### What a session owes its consumers -/

/-- Every byte written to the stream is in the buffer, as chunks that were decoded. -/
def AllPushed (stream : OutputStream) (s : State) : Prop :=
  ∃ chunks : List (List UInt8), chunks.flatten = (s.pipes stream).written ∧
    s.session.dataOf stream = chunks.map fromUtf8Lossy

/-- No output comes after the exit line, a reader ends when all is pushed, and
    whoever hears of the exit finds everything in the buffer. -/
structure OutputComplete (s : State) : Prop where
  ordered : ∀ e ∈ s.session.pushed, ∀ line ∈ s.session.pushed,
    e.stream ≠ .system → line.stream = .system → e.seq < line.seq
  lossless : s.process ≠ .killed → ∀ stream, stream ≠ .system → s.session.reads stream = true ∨ AllPushed stream s
  announced : s.announced ≠ none → ∀ stream, stream ≠ .system → AllPushed stream s

def Pipe.empty (p : Pipe) : Bool := p.unread.isEmpty && p.inHand.isNone

/-- The process is gone and all its output is pushed. -/
def drained (s : State) : Bool := s.process ≠ .running && (s.pipes .stdout).empty && (s.pipes .stderr).empty

/-- The exit line is pushed and the tasks are aborted only when nothing is left
    to read or to push, and no read fails before its pipe is empty. -/
def drainsFirst (s : State) : Action → Bool
  | .pushExit _ => drained s
  | .sweep => drained s
  | .killEnds late => drained s || (late && decide (s.process = .running))
  | .readError stream _ => (s.pipes stream).empty && decide (s.process ≠ .running)
  | _ => true

/-! ### One step -/

theorem step_push {s t : State} {stream : OutputStream} {now : Nat} (stepped : step s (.push stream now) = some t) :
    ∃ chunk, (s.pipes stream).inHand = some chunk ∧ s.session.reads stream = true ∧
      t = { s with session := s.session.push stream (fromUtf8Lossy chunk) now }.setPipe stream
        { s.pipes stream with inHand := none } := by
  simp only [step] at stepped
  split at stepped
  · next chunk inHand =>
    simp only [Option.ite_none_right_eq_some,Option.some.injEq] at stepped
    exact ⟨chunk,inHand,stepped.1,stepped.2.symm⟩
  · cases stepped

theorem step_wait {s t : State} {result : Except String (Option Int)} (stepped : step s (.wait result) = some t) :
    s.watcher = .waiting ∧ s.session.exitWatcher = true ∧ waitReturns s.process result = true ∧
      t = { s with watcher := .waited result } := by
  simp only [step] at stepped
  split at stepped
  · next waiting =>
    simp only [Option.ite_none_right_eq_some,Option.some.injEq] at stepped
    exact ⟨waiting,stepped.1.1,stepped.1.2,stepped.2.symm⟩
  · cases stepped

theorem step_recordCode {s t : State} (stepped : step s .recordCode = some t) :
    ∃ result, s.watcher = .waited result ∧ s.session.exitWatcher = true ∧
      t = { s with session := { s.session with exitCode := some (codeOf result) }, watcher := .recorded result } := by
  simp only [step] at stepped
  split at stepped
  · next result waited =>
    simp only [Option.ite_none_right_eq_some,Option.some.injEq] at stepped
    exact ⟨result,waited,stepped.1,stepped.2.symm⟩
  · cases stepped

theorem step_pushExit {s t : State} {now : Nat} (stepped : step s (.pushExit now) = some t) :
    ∃ result, s.watcher = .recorded result ∧ s.session.exitWatcher = true ∧
      t = { s with session := s.session.push .system (exitLine result) now, watcher := .told (codeOf result) } := by
  simp only [step] at stepped
  split at stepped
  · next result recorded =>
    simp only [Option.ite_none_right_eq_some,Option.some.injEq] at stepped
    exact ⟨result,recorded,stepped.1,stepped.2.symm⟩
  · cases stepped

theorem step_flipStatus {s t : State} (stepped : step s .flipStatus = some t) :
    ∃ code, s.watcher = .told code ∧ s.session.exitWatcher = true ∧
      t = { s with session := { s.session with status := .exited }, watcher := .flipped code } := by
  simp only [step] at stepped
  split at stepped
  · next code told =>
    simp only [Option.ite_none_right_eq_some,Option.some.injEq] at stepped
    exact ⟨code,told,stepped.1,stepped.2.symm⟩
  · cases stepped

theorem step_announce {s t : State} (stepped : step s .announce = some t) :
    ∃ code, s.watcher = .flipped code ∧ s.session.exitWatcher = true ∧
      t = { s with announced := if s.exitEvents then some code else s.announced, watcher := .ended } := by
  simp only [step] at stepped
  split at stepped
  · next code flipped =>
    simp only [Option.ite_none_right_eq_some,Option.some.injEq] at stepped
    exact ⟨code,flipped,stepped.1,stepped.2.symm⟩
  · cases stepped

@[simp] theorem setPipe_session (s : State) (stream : OutputStream) (p : Pipe) :
    (s.setPipe stream p).session = s.session := rfl

@[simp] theorem setPipe_process (s : State) (stream : OutputStream) (p : Pipe) :
    (s.setPipe stream p).process = s.process := rfl

@[simp] theorem setPipe_watcher (s : State) (stream : OutputStream) (p : Pipe) :
    (s.setPipe stream p).watcher = s.watcher := rfl

@[simp] theorem setPipe_announced (s : State) (stream : OutputStream) (p : Pipe) :
    (s.setPipe stream p).announced = s.announced := rfl

theorem setPipe_pipes (s : State) (stream other : OutputStream) (p : Pipe) :
    (s.setPipe stream p).pipes other = if other = stream then p else s.pipes other := by
  simp [State.setPipe,Function.update_apply]

theorem empty_iff {p : Pipe} : p.empty = true ↔ p.unread = [] ∧ p.inHand = none := by
  simp [Pipe.empty]

theorem atRead_iff {s : State} {stream : OutputStream} :
    s.atRead stream = true ↔ s.session.reads stream = true ∧ (s.pipes stream).inHand = none := by
  simp [State.atRead]

theorem dataOf_congr {s t : ManagedSession} (same : t.pushed = s.pushed) (stream : OutputStream) :
    t.dataOf stream = s.dataOf stream := by
  simp [ManagedSession.dataOf,same]

/-- The exit line is in the buffer. -/
def Told (s : State) : Prop := ∃ line ∈ s.session.pushed, line.stream = .system

def Watcher.past : Watcher → Bool
  | .told _ => true
  | .flipped _ => true
  | .ended => true
  | _ => false

/-- What the steps of a session keep when its output is drained first. -/
structure Draining (s : State) : Prop where
  account : ∀ stream, (s.pipes stream).chunks.flatten ++ (s.pipes stream).unread = (s.pipes stream).written
  decoded : ∀ stream, stream ≠ .system →
    (s.pipes stream).chunks.map fromUtf8Lossy =
      s.session.dataOf stream ++ (s.pipes stream).inHand.toList.map fromUtf8Lossy
  numbered : ∀ e ∈ s.session.pushed, e.seq < s.session.buffer.nextSeq
  reading : s.process = .running → ∀ stream, carries s.session.io stream = true → s.session.reads stream = true
  lossless : s.process ≠ .killed → ∀ stream, s.session.reads stream = true ∨ (s.pipes stream).empty = true
  told : Told s → drained s = true
  ordered : ∀ e ∈ s.session.pushed, ∀ line ∈ s.session.pushed,
    e.stream ≠ .system → line.stream = .system → e.seq < line.seq
  past : s.watcher.past = true ∨ s.announced ≠ none → Told s

theorem drained_iff {s : State} :
    drained s = true ↔ s.process ≠ .running ∧ (s.pipes .stdout).empty = true ∧ (s.pipes .stderr).empty = true := by
  simp [drained,and_assoc]

theorem drained_empty {s : State} (all : drained s = true) {stream : OutputStream} (program : stream ≠ .system) :
    (s.pipes stream).empty = true := by
  obtain ⟨-,out,err⟩ := drained_iff.mp all
  cases stream with
  | stdout => exact out
  | stderr => exact err
  | system => exact absurd rfl program

/-- An empty pipe was pushed whole. -/
theorem allPushed_of_empty {s : State} (draining : Draining s) {stream : OutputStream} (program : stream ≠ .system)
    (empty : (s.pipes stream).empty = true) : AllPushed stream s := by
  obtain ⟨unread,inHand⟩ := empty_iff.mp empty
  have account := draining.account stream
  have decoded := draining.decoded stream program
  rw [unread,List.append_nil] at account
  rw [inHand] at decoded
  exact ⟨(s.pipes stream).chunks,account,by simpa using decoded.symm⟩

theorem draining_complete {s : State} (draining : Draining s) : OutputComplete s where
  ordered := draining.ordered
  lossless own stream program := by
    rcases draining.lossless own stream with reads | empty
    · exact .inl reads
    · exact .inr (allPushed_of_empty draining program empty)
  announced said stream program :=
    allPushed_of_empty draining program (drained_empty (draining.told (draining.past (.inr said))) program)

theorem draining_start {session : ManagedSession} {bufferSize : Nat}
    (spawned : session = .spawn bufferSize ∨ session = .spawnPty bufferSize) (exitEvents : Bool) :
    Draining (start session exitEvents) := by
  have fresh : session.pushed = [] := by obtain rfl | rfl := spawned <;> rfl
  refine ⟨?_,?_,?_,?_,?_,?_,?_,?_⟩
  · intro stream; rfl
  · intro stream _; simp [start,ManagedSession.dataOf,fresh]
  · intro e member; simp [start,fresh] at member
  · intro _ stream there
    obtain rfl | rfl := spawned
    · cases stream with
      | stdout => rfl
      | stderr => rfl
      | system => cases there
    · cases stream with
      | stdout => rfl
      | stderr => cases there
      | system => cases there
  · intro _ stream; exact .inr rfl
  · rintro ⟨line,member,-⟩; simp [start,fresh] at member
  · intro e member; simp [start,fresh] at member
  · rintro (past | said)
    · cases past
    · exact absurd rfl said

/-- A step that touches neither the buffer nor the pipes, and closes readers
    only of a pipe that will stay empty. -/
theorem draining_frame {s t : State} (draining : Draining s) (pushed : t.session.pushed = s.session.pushed)
    (nextSeq : t.session.buffer.nextSeq = s.session.buffer.nextSeq) (io : t.session.io = s.session.io)
    (pipes : t.pipes = s.pipes) (process : t.process = s.process)
    (reads : ∀ stream, t.session.reads stream = s.session.reads stream ∨
      ((s.pipes stream).empty = true ∧ s.process ≠ .running))
    (past : t.watcher.past = true ∨ t.announced ≠ none → s.watcher.past = true ∨ s.announced ≠ none) : Draining t := by
  have told : Told t ↔ Told s := by simp only [Told,pushed]
  have drains : drained t = drained s := by simp only [drained,pipes,process]
  refine ⟨?_,?_,?_,?_,?_,?_,?_,?_⟩
  · rw [pipes]; exact draining.account
  · intro stream program
    rw [pipes,dataOf_congr pushed]; exact draining.decoded stream program
  · rw [pushed,nextSeq]; exact draining.numbered
  · intro running stream there
    rw [process] at running
    rw [io] at there
    rcases reads stream with same | ⟨-,gone⟩
    · rw [same]; exact draining.reading running stream there
    · exact absurd running gone
  · intro own stream
    rw [process] at own
    rw [pipes]
    rcases reads stream with same | ⟨empty,-⟩
    · rw [same]; exact draining.lossless own stream
    · exact .inr empty
  · intro said
    rw [drains]; exact draining.told (told.mp said)
  · rw [pushed]; exact draining.ordered
  · intro there; exact told.mpr (draining.past (past there))

theorem draining_write {s : State} {stream : OutputStream} {bytes : List UInt8} (draining : Draining s)
    (running : s.process = .running) (there : carries s.session.io stream = true) :
    Draining (s.setPipe stream { s.pipes stream with
      written := (s.pipes stream).written ++ bytes, unread := (s.pipes stream).unread ++ bytes }) := by
  have silent : ¬ Told s := fun said => (drained_iff.mp (draining.told said)).1 running
  refine ⟨?_,?_,draining.numbered,draining.reading,?_,?_,draining.ordered,draining.past⟩
  · intro other
    rw [setPipe_pipes]
    by_cases same : other = stream
    · subst same; simp [← draining.account other]
    · simpa [same] using draining.account other
  · intro other program
    rw [setPipe_pipes]
    by_cases same : other = stream
    · subst same; simpa using draining.decoded other program
    · simpa [same] using draining.decoded other program
  · intro own other
    rw [setPipe_pipes]
    by_cases same : other = stream
    · subst same; exact .inl (draining.reading running other there)
    · simpa [same] using draining.lossless own other
  · intro said; exact absurd said silent

theorem draining_exit {s : State} (draining : Draining s) (running : s.process = .running) (code : Option Int) :
    Draining { s with process := .exited code } := by
  have silent : ¬ Told s := fun said => (drained_iff.mp (draining.told said)).1 running
  refine ⟨draining.account,draining.decoded,draining.numbered,?_,?_,?_,draining.ordered,draining.past⟩
  · intro live; cases live
  · intro _ stream; exact draining.lossless (by simp [running]) stream
  · intro said; exact absurd said silent

theorem draining_read {s : State} {stream : OutputStream} {count : Nat} (draining : Draining s)
    (reads : s.session.reads stream = true) (free : (s.pipes stream).inHand = none) (some_ : 0 < count)
    (there : count ≤ (s.pipes stream).unread.length) :
    Draining (s.setPipe stream { s.pipes stream with
      chunks := (s.pipes stream).chunks ++ [(s.pipes stream).unread.take count]
      unread := (s.pipes stream).unread.drop count
      inHand := some ((s.pipes stream).unread.take count) }) := by
  have program : stream ≠ .system := by rintro rfl; cases reads
  have silent : ¬ Told s := by
    intro said
    have empty := (empty_iff.mp (drained_empty (draining.told said) program)).1
    rw [empty,List.length_nil] at there
    omega
  refine ⟨?_,?_,draining.numbered,draining.reading,?_,?_,draining.ordered,draining.past⟩
  · intro other
    rw [setPipe_pipes]
    by_cases same : other = stream
    · subst same; simpa using draining.account other
    · simpa [same] using draining.account other
  · intro other away
    rw [setPipe_pipes]
    by_cases same : other = stream
    · subst same
      have before := draining.decoded other away
      rw [free] at before
      simpa using before
    · simpa [same] using draining.decoded other away
  · intro own other
    rw [setPipe_pipes]
    by_cases same : other = stream
    · subst same; exact .inl reads
    · simpa [same] using draining.lossless own other
  · intro said; exact absurd said silent

theorem reads_push (s : ManagedSession) (stream other : OutputStream) (data : String) (now : Nat) :
    (s.push stream data now).reads other = s.reads other := by
  cases other <;> rfl

theorem mem_pushed {s : ManagedSession} {stream : OutputStream} {data : String} {now : Nat} {e : OutputEntry} :
    e ∈ (s.push stream data now).pushed ↔ e ∈ s.pushed ∨ e = ⟨s.buffer.nextSeq,stream,data,now⟩ := by
  simp [ManagedSession.push]

/-- A push is numbered after all others. -/
theorem numbered_push {s : ManagedSession} (numbered : ∀ e ∈ s.pushed, e.seq < s.buffer.nextSeq)
    (stream : OutputStream) (data : String) (now : Nat) :
    ∀ e ∈ (s.push stream data now).pushed, e.seq < (s.push stream data now).buffer.nextSeq := by
  intro e member
  have next : (s.push stream data now).buffer.nextSeq = s.buffer.nextSeq + 1 := rfl
  rw [next]
  rcases mem_pushed.mp member with old | rfl
  · have before := numbered e old
    omega
  · exact Nat.lt_succ_self _

theorem draining_push {s : State} {stream : OutputStream} {chunk : List UInt8} {now : Nat} (draining : Draining s)
    (reads : s.session.reads stream = true) (inHand : (s.pipes stream).inHand = some chunk) :
    Draining ({ s with session := s.session.push stream (fromUtf8Lossy chunk) now }.setPipe stream
      { s.pipes stream with inHand := none }) := by
  have program : stream ≠ .system := by rintro rfl; cases reads
  have silent : ¬ Told s := by
    intro said
    have empty := (empty_iff.mp (drained_empty (draining.told said) program)).2
    rw [inHand] at empty; cases empty
  have still : ∀ line ∈ (s.session.push stream (fromUtf8Lossy chunk) now).pushed, line.stream ≠ .system := by
    intro line member
    rcases mem_pushed.mp member with old | rfl
    · exact fun told => silent ⟨line,old,told⟩
    · exact program
  refine ⟨?_,?_,numbered_push draining.numbered _ _ _,?_,?_,?_,?_,?_⟩
  · intro other
    rw [setPipe_pipes]
    by_cases same : other = stream
    · subst same; simpa using draining.account other
    · simpa [same] using draining.account other
  · intro other away
    rw [setPipe_pipes,setPipe_session,ManagedSession.dataOf_push]
    have before := draining.decoded other away
    by_cases same : other = stream
    · subst same
      rw [inHand] at before
      simpa using before
    · simpa [same,Ne.symm same] using before
  · intro running other there
    rw [setPipe_session,reads_push]
    exact draining.reading running other there
  · intro own other
    rw [setPipe_session,reads_push,setPipe_pipes]
    by_cases same : other = stream
    · subst same; exact .inl reads
    · simpa [same] using draining.lossless own other
  · rintro ⟨line,member,told⟩; exact absurd told (still line member)
  · intro e _ line member _ told; exact absurd told (still line member)
  · intro past; exact absurd (draining.past past) silent

theorem draining_pushExit {s : State} {result : Except String (Option Int)} {now : Nat} (draining : Draining s)
    (first : drained s = true) :
    Draining { s with session := s.session.push .system (exitLine result) now, watcher := .told (codeOf result) } := by
  refine ⟨draining.account,?_,numbered_push draining.numbered _ _ _,?_,?_,fun _ => first,?_,?_⟩
  · intro stream program
    rw [ManagedSession.dataOf_push,if_neg program.symm,List.append_nil]
    exact draining.decoded stream program
  · intro running; exact absurd running (drained_iff.mp first).1
  · intro own stream
    rw [reads_push]; exact draining.lossless own stream
  · intro e there line member program told
    rcases mem_pushed.mp there with old | rfl
    · rcases mem_pushed.mp member with before | rfl
      · exact draining.ordered e old line before program told
      · exact draining.numbered e old
    · exact absurd rfl program
  · intro _; exact ⟨_,mem_pushed.mpr (.inr rfl),rfl⟩

theorem reads_abortTasks (s : ManagedSession) (stream : OutputStream) : (abortTasks s).reads stream = false := by
  cases stream <;> rfl

theorem reads_closeReader {s : ManagedSession} {stream other : OutputStream} (differs : other ≠ stream) :
    (s.closeReader stream).reads other = s.reads other := by
  cases stream <;> cases other <;> first | rfl | exact absurd rfl differs

theorem draining_closeReader {s : State} {stream : OutputStream} (draining : Draining s)
    (empty : (s.pipes stream).empty = true) (gone : s.process ≠ .running) :
    Draining { s with session := s.session.closeReader stream } := by
  refine draining_frame draining ?_ ?_ ?_ rfl rfl ?_ id
  · cases stream <;> rfl
  · cases stream <;> rfl
  · cases stream <;> rfl
  · intro other
    by_cases same : other = stream
    · subst same; exact .inr ⟨empty,gone⟩
    · exact .inl (reads_closeReader same)

theorem draining_abort {s t : State} (draining : Draining s) (first : drained s = true)
    (session : t.session = abortTasks s.session) (pipes : t.pipes = s.pipes) (process : t.process = s.process)
    (watcher : t.watcher = s.watcher) (announced : t.announced = s.announced) : Draining t := by
  obtain ⟨gone,-,-⟩ := drained_iff.mp first
  refine draining_frame draining (by rw [session]; rfl) (by rw [session]; rfl) (by rw [session]; rfl) pipes process ?_ ?_
  · intro stream
    cases stream with
    | stdout => exact .inr ⟨drained_empty first (by decide),gone⟩
    | stderr => exact .inr ⟨drained_empty first (by decide),gone⟩
    | system => left; rw [session,reads_abortTasks]; rfl
  · rw [watcher,announced]; exact id

theorem draining_killed {s t : State} (draining : Draining s) (running : s.process = .running)
    (session : t.session = abortTasks s.session) (pipes : t.pipes = s.pipes) (process : t.process = .killed)
    (watcher : t.watcher = s.watcher) (announced : t.announced = s.announced) : Draining t := by
  have pushed : t.session.pushed = s.session.pushed := by rw [session]; rfl
  have nextSeq : t.session.buffer.nextSeq = s.session.buffer.nextSeq := by rw [session]; rfl
  have silent : ¬ Told s := fun said => (drained_iff.mp (draining.told said)).1 running
  have told : Told t ↔ Told s := by simp only [Told,pushed]
  refine ⟨?_,?_,?_,?_,?_,?_,?_,?_⟩
  · rw [pipes]; exact draining.account
  · intro stream program
    rw [pipes,dataOf_congr pushed]; exact draining.decoded stream program
  · rw [pushed,nextSeq]; exact draining.numbered
  · intro live; rw [process] at live; cases live
  · intro own; exact absurd process own
  · intro said; exact absurd (told.mp said) silent
  · rw [pushed]; exact draining.ordered
  · rw [watcher,announced]
    intro past; exact absurd (draining.past past) silent

theorem draining_step {s t : State} {a : Action} (draining : Draining s) (first : drainsFirst s a = true)
    (stepped : step s a = some t) : Draining t := by
  cases a with
  | write stream bytes =>
    simp only [step,Option.ite_none_right_eq_some,Option.some.injEq] at stepped
    obtain ⟨⟨running,there⟩,rfl⟩ := stepped
    exact draining_write draining running there
  | exit code =>
    simp only [step,Option.ite_none_right_eq_some,Option.some.injEq] at stepped
    obtain ⟨running,rfl⟩ := stepped
    exact draining_exit draining running code
  | read stream count =>
    simp only [step,Option.ite_none_right_eq_some,Option.some.injEq,atRead_iff] at stepped
    obtain ⟨⟨⟨reads,free⟩,some_,-,there⟩,rfl⟩ := stepped
    exact draining_read draining reads free some_ there
  | push stream now =>
    obtain ⟨chunk,inHand,reads,rfl⟩ := step_push stepped
    exact draining_push draining reads inHand
  | endOfFile stream =>
    simp only [step,Option.ite_none_right_eq_some,Option.some.injEq,atRead_iff] at stepped
    obtain ⟨⟨⟨-,free⟩,unread,gone⟩,rfl⟩ := stepped
    exact draining_closeReader draining (empty_iff.mpr ⟨unread,free⟩) gone
  | readError stream error =>
    simp only [step,Option.ite_none_right_eq_some,Option.some.injEq] at stepped
    obtain ⟨-,rfl⟩ := stepped
    obtain ⟨empty,gone⟩ : (s.pipes stream).empty = true ∧ s.process ≠ .running := by simpa [drainsFirst] using first
    exact draining_closeReader draining empty gone
  | wait result =>
    obtain ⟨waiting,-,-,rfl⟩ := step_wait stepped
    exact draining_frame draining rfl rfl rfl rfl rfl (fun _ => .inl rfl) (by simp [Watcher.past,waiting])
  | recordCode =>
    obtain ⟨result,waited,-,rfl⟩ := step_recordCode stepped
    refine draining_frame draining rfl rfl rfl rfl rfl ?_ (by simp [Watcher.past,waited])
    intro stream; left; cases stream <;> rfl
  | pushExit now =>
    obtain ⟨result,-,-,rfl⟩ := step_pushExit stepped
    exact draining_pushExit draining first
  | flipStatus =>
    obtain ⟨code,told,-,rfl⟩ := step_flipStatus stepped
    refine draining_frame draining rfl rfl rfl rfl rfl ?_ (by simp [Watcher.past,told])
    intro stream; left; cases stream <;> rfl
  | announce =>
    obtain ⟨code,flipped,-,rfl⟩ := step_announce stepped
    exact draining_frame draining rfl rfl rfl rfl rfl (fun _ => .inl rfl) (by simp [Watcher.past,flipped])
  | sweep =>
    simp only [step,Option.ite_none_right_eq_some,Option.some.injEq] at stepped
    obtain ⟨-,rfl⟩ := stepped
    exact draining_abort draining first rfl rfl rfl rfl rfl
  | kill =>
    simp only [step,Option.ite_none_right_eq_some,Option.some.injEq] at stepped
    obtain ⟨-,rfl⟩ := stepped
    exact draining_frame draining rfl rfl rfl rfl rfl (fun _ => .inl rfl) id
  | killEnds late =>
    simp only [step,Option.ite_none_right_eq_some,Option.some.injEq] at stepped
    obtain ⟨-,rfl⟩ := stepped
    by_cases forced : late = true ∧ s.process = .running
    · exact draining_killed draining forced.2 rfl rfl (if_pos forced) rfl rfl
    · have all : drained s = true := by
        have either : drained s = true ∨ (late = true ∧ s.process = .running) := by simpa [drainsFirst] using first
        exact either.resolve_right forced
      exact draining_abort draining all rfl rfl (if_neg forced) rfl rfl

/-! ### Readers come to an end -/

/-- A turn of the reader of a stream. -/
def readerTurn (stream : OutputStream) : Action → Bool
  | .read from_ _ => from_ = stream
  | .push from_ _ => from_ = stream
  | .endOfFile from_ => from_ = stream
  | .readError from_ _ => from_ = stream
  | _ => false

def turns (stream : OutputStream) (as : List Action) : Nat := as.countP (readerTurn stream)

/-- More than the turns that a reader can still take: a byte costs a read and a push at most. -/
def work (stream : OutputStream) (s : State) : Nat :=
  2 * (s.pipes stream).unread.length + (s.pipes stream).inHand.toList.length + if s.session.reads stream then 1 else 0

theorem work_closeReader {s : State} {stream from_ : OutputStream} (reads : s.session.reads from_ = true) :
    work stream { s with session := s.session.closeReader from_ } + (if from_ = stream then 1 else 0) ≤ work stream s := by
  by_cases same : from_ = stream
  · subst same
    have closed : (s.session.closeReader from_).reads from_ = false := by cases from_ <;> rfl
    simp [work,reads,closed]
  · simp [work,same,reads_closeReader (Ne.symm same)]

theorem work_abort {s t : State} {stream : OutputStream} (session : t.session = abortTasks s.session)
    (pipes : t.pipes = s.pipes) : work stream t ≤ work stream s := by
  simp [work,session,pipes,reads_abortTasks]

/-- Once the process is gone, each turn of a reader uses up some of its work and
    nothing adds to it. -/
theorem work_step {s t : State} {a : Action} {stream : OutputStream} (gone : s.process ≠ .running)
    (stepped : step s a = some t) :
    t.process = s.process ∧ work stream t + (if readerTurn stream a then 1 else 0) ≤ work stream s := by
  cases a with
  | write from_ bytes => simp [step,gone] at stepped
  | exit code => simp [step,gone] at stepped
  | read from_ count =>
    simp only [step,Option.ite_none_right_eq_some,Option.some.injEq,atRead_iff] at stepped
    obtain ⟨⟨⟨reads,free⟩,some_,-,there⟩,rfl⟩ := stepped
    refine ⟨rfl,?_⟩
    simp only [work,setPipe_pipes,setPipe_session,readerTurn,eq_comm]
    by_cases same : stream = from_
    · subst same; simp [free]; omega
    · simp [same]
  | push from_ now =>
    obtain ⟨chunk,inHand,reads,rfl⟩ := step_push stepped
    refine ⟨rfl,?_⟩
    simp only [work,setPipe_pipes,setPipe_session,reads_push,readerTurn,eq_comm]
    by_cases same : stream = from_
    · subst same
      simp only [if_true,decide_true,inHand,Option.toList_none,Option.toList_some,List.length_nil,List.length_singleton]
      omega
    · simp [same]
  | endOfFile from_ =>
    simp only [step,Option.ite_none_right_eq_some,Option.some.injEq,atRead_iff] at stepped
    obtain ⟨⟨⟨reads,-⟩,-⟩,rfl⟩ := stepped
    exact ⟨rfl,by simpa [readerTurn] using work_closeReader reads⟩
  | readError from_ error =>
    simp only [step,Option.ite_none_right_eq_some,Option.some.injEq,atRead_iff] at stepped
    obtain ⟨⟨⟨reads,-⟩,-⟩,rfl⟩ := stepped
    exact ⟨rfl,by simpa [readerTurn] using work_closeReader reads⟩
  | wait result =>
    obtain ⟨-,-,-,rfl⟩ := step_wait stepped
    exact ⟨rfl,le_rfl⟩
  | recordCode =>
    obtain ⟨result,-,-,rfl⟩ := step_recordCode stepped
    exact ⟨rfl,by cases stream <;> exact le_rfl⟩
  | pushExit now =>
    obtain ⟨result,-,-,rfl⟩ := step_pushExit stepped
    exact ⟨rfl,by simp [work,reads_push,readerTurn]⟩
  | flipStatus =>
    obtain ⟨code,-,-,rfl⟩ := step_flipStatus stepped
    exact ⟨rfl,by cases stream <;> exact le_rfl⟩
  | announce =>
    obtain ⟨code,-,-,rfl⟩ := step_announce stepped
    exact ⟨rfl,le_rfl⟩
  | sweep =>
    simp only [step,Option.ite_none_right_eq_some,Option.some.injEq] at stepped
    obtain ⟨-,rfl⟩ := stepped
    exact ⟨rfl,work_abort rfl rfl⟩
  | kill =>
    simp only [step,Option.ite_none_right_eq_some,Option.some.injEq] at stepped
    obtain ⟨-,rfl⟩ := stepped
    exact ⟨rfl,le_rfl⟩
  | killEnds late =>
    simp only [step,Option.ite_none_right_eq_some,Option.some.injEq] at stepped
    obtain ⟨-,rfl⟩ := stepped
    exact ⟨by simp [gone],work_abort rfl rfl⟩

theorem work_run {s t : State} {as : List Action} {stream : OutputStream} (gone : s.process ≠ .running)
    (ran : run step s as = some t) : t.process = s.process ∧ work stream t + turns stream as ≤ work stream s := by
  induction as generalizing s with
  | nil => cases ran; exact ⟨rfl,le_rfl⟩
  | cons a rest ih =>
    obtain ⟨m,stepped,after⟩ := run_cons_iff.mp ran
    obtain ⟨same,here⟩ := @work_step s m a stream gone stepped
    obtain ⟨later,there⟩ := ih (by rw [same]; exact gone) after
    refine ⟨later.trans same,?_⟩
    simp only [turns,List.countP_cons] at there ⊢
    omega

/-- A reader that runs has a turn to take once the process is gone. -/
theorem reader_enabled {s : State} {stream : OutputStream} (gone : s.process ≠ .running)
    (reads : s.session.reads stream = true) :
    ∃ a t, readerTurn stream a = true ∧ drainsFirst s a = true ∧ step s a = some t := by
  cases inHand : (s.pipes stream).inHand with
  | some chunk => exact ⟨.push stream 0,_,by simp [readerTurn],rfl,by simp only [step,inHand,reads,if_true]; rfl⟩
  | none =>
    have free : s.atRead stream = true := atRead_iff.mpr ⟨reads,inHand⟩
    cases unread : (s.pipes stream).unread with
    | nil => exact ⟨.endOfFile stream,_,by simp [readerTurn],rfl,if_pos ⟨free,unread,gone⟩⟩
    | cons b rest =>
      exact ⟨.read stream 1,_,by simp [readerTurn],rfl,if_pos ⟨free,Nat.one_pos,by decide,by simp [unread]⟩⟩

/-- When all output is drained before the exit line and before the tasks are
    aborted, nothing follows the exit line and, whatever the schedule, every byte
    is pushed after finitely many turns of its reader, which can always take one. -/
theorem output_complete {session : ManagedSession} {bufferSize : Nat}
    (spawned : session = .spawn bufferSize ∨ session = .spawnPty bufferSize) (exitEvents : Bool) (as : List Action)
    (first : Along step (fun s a => drainsFirst s a = true) (start session exitEvents) as) :
    Always step OutputComplete (start session exitEvents) as ∧
      ∀ t code, run step (start session exitEvents) as = some t → t.process = .exited code →
        ∀ stream, stream ≠ .system → ∃ bound, ∀ bs u, Along step (fun s a => drainsFirst s a = true) t bs →
          run step t bs = some u → AllPushed stream u ∨ (turns stream bs < bound ∧
            ∃ a v, readerTurn stream a = true ∧ drainsFirst u a = true ∧ step u a = some v) := by
  refine ⟨always_of_keeps (fun _ _ _ => draining_step) (fun _ => draining_complete) (draining_start spawned exitEvents)
    first,?_⟩
  intro t code ran exited stream program
  have reached : Draining t := run_keeps (fun _ _ _ => draining_step) (draining_start spawned exitEvents) first ran
  have gone : t.process ≠ .running := by simp [exited]
  refine ⟨work stream t,?_⟩
  intro bs u later after
  have draining : Draining u := run_keeps (fun _ _ _ => draining_step) reached later after
  obtain ⟨same,spent⟩ := @work_run t u bs stream gone after
  have own : u.process ≠ .killed := by rw [same,exited]; simp
  rcases draining.lossless own stream with reads | empty
  · right
    have left : 0 < work stream u := by simp [work,reads]
    exact ⟨by omega,reader_enabled (by rw [same]; exact gone) reads⟩
  · left; exact allPushed_of_empty draining program empty

/-- A job's two writes are read and pushed before its exit is told; the readers
    end, and the session is swept. -/
def drainedFirst : List Action :=
  [.write .stdout [0x61,0x62],.write .stderr [0x21],.read .stdout 1,.exit (some 0),.wait (.ok (some 0)),.push .stdout 1,
    .read .stdout 1,.read .stderr 1,.push .stdout 2,.push .stderr 3,.recordCode,.pushExit 4,.endOfFile .stdout,.flipStatus,
    .announce,.sweep]

theorem output_complete_drainedFirst :
    Always step OutputComplete (start (.spawn 16) true) drainedFirst :=
  (output_complete (.inl rfl) true drainedFirst (by decide +kernel)).1

/-- The exit line is pushed while both pipes hold a byte; one is read after it
    and the session is swept before the other one is. -/
def sweptUnread : List Action :=
  [.write .stdout [0x61],.write .stderr [0x21],.exit (some 0),.wait (.ok (some 0)),.recordCode,.pushExit 1,.read .stdout 1,
    .push .stdout 2,.flipStatus,.announce,.sweep]

theorem output_lost :
    ∃ t, run step (start (.spawn 16) true) sweptUnread = some t ∧ t.process = .exited (some 0) ∧ t.announced = some 0 ∧
      t.session.pushed.map (fun e => (e.seq,e.stream)) = [(1,.system),(2,.stdout)] ∧
      t.session.reads .stderr = false ∧ ¬ AllPushed .stderr t ∧
      ¬ Always step OutputComplete (start (.spawn 16) true) sweptUnread := by
  have known : (run step (start (.spawn 16) true) sweptUnread).map (fun t =>
      (t.process,t.announced,t.session.pushed,t.session.reads .stderr,(t.pipes .stderr).written)) =
      some (.exited (some 0),some 0,[⟨1,.system,"Process exited with code 0",1⟩,⟨2,.stdout,"a",2⟩],false,[0x21]) := by
    decide +kernel
  obtain ⟨t,ran,facts⟩ := Option.map_eq_some_iff.mp known
  simp only [Prod.mk.injEq] at facts
  obtain ⟨process,announced,pushed,reads,written⟩ := facts
  have unpushed : ¬ AllPushed .stderr t := by
    rintro ⟨chunks,whole,decoded⟩
    have nothing : t.session.dataOf .stderr = [] := by simp [ManagedSession.dataOf,pushed]
    rw [nothing] at decoded
    have none_ : chunks = [] := List.map_eq_nil_iff.mp decoded.symm
    rw [none_,written] at whole
    cases whole
  refine ⟨t,ran,process,announced,by rw [pushed]; rfl,reads,unpushed,?_⟩
  intro all
  exact unpushed ((always_last all ran).announced (by simp [announced]) .stderr (by decide))

end Sctl.SessionExit
