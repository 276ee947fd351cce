import Mathlib.Data.List.Basic
import Mathlib.Logic.Function.Basic
import Sctl.Runs
import Sctl.Utf8

/-!
The output of a command (`server/src/shell/process.rs`): `exec_command` reads both
pipes of a child at once, keeps the first bytes of each, drains the rest, and waits
for the child. Its processes write to the two pipes in one order, a pipe holds
finitely many bytes, and a process waits while there is no room. Durations and a
child that cannot be started are left out.
-/
namespace Sctl.CappedOutput
open Runs

def maxExecOutput : Nat := 1024 * 1024

/-- The bytes that one read takes at most. -/
def readSize : Nat := 8192

/-- The locals of `read_capped`. -/
structure Reader where
  buf : List UInt8
  totalRead : Nat

/-- A read brought `tmp`. -/
def Reader.take (maxBytes : Nat) (r : Reader) (tmp : List UInt8) : Reader where
  buf := if r.buf.length < maxBytes then r.buf ++ tmp.take (min tmp.length (maxBytes - r.buf.length)) else r.buf
  totalRead := r.totalRead + tmp.length

/-- What `read_capped` returns. -/
def Reader.text (maxBytes : Nat) (r : Reader) : String :=
  Utf8.fromUtf8Lossy r.buf ++
    if maxBytes < r.totalRead then
      "\n[truncated: " ++ toString r.totalRead ++ " bytes total, showing first " ++ toString maxBytes ++ "]"
    else ""

/-- What is to be shown of some bytes, however they arrive: the first ones, and a notice when there are more. -/
def capped (maxBytes : Nat) (bytes : List UInt8) : String := Reader.text maxBytes ⟨bytes.take maxBytes,bytes.length⟩

inductive Stream
  | stdout
  | stderr
deriving DecidableEq

structure ExecResult where
  exitCode : Int
  stdout : String
  stderr : String

inductive ExecError
  | spawnFailed (e : String)
  | processFailed (e : String)
  | timeout

/-- Where the reader of a stream stands. -/
inductive Reading
  | reading
  | eof
  | error
deriving DecidableEq

/-- One stream: its pipe, whether its write end is closed, and its reader. -/
structure Side where
  pipe : List UInt8
  closed : Bool
  reader : Reader
  reading : Reading

structure State where
  /-- What the processes of the command still write, in their order. -/
  todo : List (Stream × UInt8)
  /-- How the child ended: with a code, or by a signal. -/
  exited : Option (Option Int)
  side : Stream → Side
  result : Option (Except ExecError ExecResult)

def start (program : List (Stream × UInt8)) : State := ⟨program,none,fun _ => ⟨[],false,⟨[],0⟩,.reading⟩,none⟩

inductive Action
  /-- The processes write `n` bytes to one pipe. -/
  | write (st : Stream) (n : Nat)
  /-- The last process that held the write end closed it. -/
  | close (st : Stream)
  | exit (code : Option Int)
  | read (st : Stream) (n : Nat)
  | eof (st : Stream)
  | readError (st : Stream)
  /-- Both readers are done and so is the wait for the child. -/
  | finish
  | waitError (e : String)
  | timeout
deriving DecidableEq

/-- Nothing fails and time does not run out. -/
def Action.ordinary : Action → Bool
  | .readError _ | .waitError _ | .timeout => false
  | _ => true

def State.set (s : State) (st : Stream) (side : Side) : State := { s with side := Function.update s.side st side }

/-- Both readers are done. -/
def State.joined (s : State) : Bool := (s.side .stdout).reading ≠ .reading && (s.side .stderr).reading ≠ .reading

def State.exitCode (s : State) : Int := (s.exited.bind id).getD (-1)

/-- One step, over pipes that hold `capacity` bytes. -/
def move (capacity : Nat) (s : State) : Action → Option State
  | .write st n =>
    let side := s.side st
    let bytes := s.todo.take n
    if 0 < n ∧ bytes.length = n ∧ (∀ b ∈ bytes, b.1 = st) ∧ side.pipe.length + n ≤ capacity then
      some ({ s with todo := s.todo.drop n }.set st { side with pipe := side.pipe ++ bytes.map Prod.snd })
    else none
  | .close st =>
    let side := s.side st
    if side.closed = false ∧ ∀ b ∈ s.todo, b.1 ≠ st then some (s.set st { side with closed := true }) else none
  | .exit code => if s.exited = none then some { s with exited := some code } else none
  | .read st n =>
    let side := s.side st
    if 0 < n ∧ n ≤ readSize ∧ n ≤ side.pipe.length ∧ side.reading = .reading then
      some (s.set st { side with pipe := side.pipe.drop n, reader := side.reader.take maxExecOutput (side.pipe.take n) })
    else none
  | .eof st =>
    let side := s.side st
    if side.pipe = [] ∧ side.closed = true ∧ side.reading = .reading then some (s.set st { side with reading := .eof }) else none
  | .readError st =>
    let side := s.side st
    if side.reading = .reading then some (s.set st { side with reading := .error }) else none
  | .finish =>
    if s.joined = true ∧ s.exited.isSome then
      some { s with
        result := some (.ok {
          exitCode := s.exitCode
          stdout := (s.side .stdout).reader.text maxExecOutput
          stderr := (s.side .stderr).reader.text maxExecOutput }) }
    else none
  | .waitError e => if s.joined = true then some { s with result := some (.error (.processFailed e)) } else none
  | .timeout => some { s with result := some (.error .timeout) }

/-- No step follows the return. -/
def step (capacity : Nat) (s : State) (a : Action) : Option State := if s.result.isSome then none else move capacity s a

/-- The bytes of one stream. -/
def bytesOf (st : Stream) (program : List (Stream × UInt8)) : List UInt8 :=
  (program.filter fun b => b.1 = st).map Prod.snd

def ExecResult.out (r : ExecResult) : Stream → String
  | .stdout => r.stdout
  | .stderr => r.stderr

/-- What a run of the command makes of what its processes write. -/
structure Captures (capacity : Nat) (program : List (Stream × UInt8)) (s : State) : Prop where
  /-- No more than the cap is held of a stream, whatever is written. -/
  bounded : ∀ st, (s.side st).reader.buf.length ≤ maxExecOutput ∧ (s.side st).pipe.length ≤ capacity
  /-- Nothing is lost, doubled or reordered on the way. -/
  conserved : ∀ st, ∃ read, bytesOf st program = read ++ (s.side st).pipe ++ bytesOf st s.todo ∧
    (s.side st).reader = ⟨read.take maxExecOutput,read.length⟩
  /-- The result is a function of the bytes written, not of how they arrived. -/
  result : ∀ r, s.result = some (.ok r) → r.exitCode = s.exitCode ∧ ∀ st,
    ((s.side st).reading = .eof ∧ r.out st = capped maxExecOutput (bytesOf st program)) ∨
      ((s.side st).reading = .error ∧ ∃ read, read <+: bytesOf st program ∧ r.out st = capped maxExecOutput read)

/-! ### One stream -/

section
variable {capacity n : Nat} {all left : List UInt8} {side : Side} {st : Stream} {program : List (Stream × UInt8)} {s t : State}

/-- Whatever was read before, a read keeps the first bytes of all that was read. -/
theorem Reader.take_read (maxBytes : Nat) (read tmp : List UInt8) :
    Reader.take maxBytes ⟨read.take maxBytes,read.length⟩ tmp = ⟨(read ++ tmp).take maxBytes,(read ++ tmp).length⟩ := by
  simp only [Reader.take,List.length_take,List.length_append,Reader.mk.injEq,and_true]
  by_cases room : read.length < maxBytes
  · have whole : read.take maxBytes = read := List.take_of_length_le (by omega)
    have least : min maxBytes read.length = read.length := by omega
    rw [if_pos (by omega),whole,least,List.take_append,whole]
    congr 1
    by_cases short : tmp.length ≤ maxBytes - read.length
    · rw [min_eq_left short,List.take_length,List.take_of_length_le short]
    · rw [min_eq_right (by omega)]
  · rw [if_neg (by omega),List.take_append_of_le_length (by omega)]

/-- What is known of a stream whose processes write `all` in a run and still write `left`. -/
structure Flow (capacity : Nat) (all left : List UInt8) (side : Side) : Prop where
  room : side.pipe.length ≤ capacity
  conserved : ∃ read, all = read ++ side.pipe ++ left ∧ side.reader = ⟨read.take maxExecOutput,read.length⟩
  closed : side.closed = true → left = []
  eof : side.reading = .eof → side.pipe = [] ∧ side.closed = true

theorem Flow.bounded (flow : Flow capacity all left side) : side.reader.buf.length ≤ maxExecOutput := by
  obtain ⟨read,-,reader⟩ := flow.conserved
  rw [reader]
  exact List.length_take_le ..

theorem Flow.write (flow : Flow capacity all left side) {bytes rest : List UInt8} (split : left = bytes ++ rest)
    (some_ : bytes ≠ []) (fits : side.pipe.length + bytes.length ≤ capacity) :
    Flow capacity all rest { side with pipe := side.pipe ++ bytes } := by
  have open_ : side.closed = true → False := fun closed => some_ (List.append_eq_nil_iff.mp (split ▸ flow.closed closed)).1
  obtain ⟨read,whole,reader⟩ := flow.conserved
  refine ⟨by simpa using fits,⟨read,?_,reader⟩,fun closed => absurd closed open_,fun eof => absurd (flow.eof eof).2 open_⟩
  rw [whole,split]
  simp only [List.append_assoc]

theorem Flow.close (flow : Flow capacity all [] side) : Flow capacity all [] { side with closed := true } :=
  ⟨flow.room,flow.conserved,fun _ => rfl,fun eof => ⟨(flow.eof eof).1,rfl⟩⟩

theorem Flow.read (flow : Flow capacity all left side) (reading : side.reading = .reading) :
    Flow capacity all left { side with
      pipe := side.pipe.drop n
      reader := side.reader.take maxExecOutput (side.pipe.take n) } := by
  have room := flow.room
  obtain ⟨read,whole,reader⟩ := flow.conserved
  refine ⟨?_,⟨read ++ side.pipe.take n,?_,?_⟩,flow.closed,fun eof => ?_⟩
  · rw [List.length_drop]
    omega
  · show all = read ++ side.pipe.take n ++ side.pipe.drop n ++ left
    rw [whole,List.append_assoc read (side.pipe.take n),List.take_append_drop]
  · show side.reader.take maxExecOutput (side.pipe.take n) = _
    rw [reader]
    exact Reader.take_read ..
  · cases reading.symm.trans eof

theorem Flow.eof_of (flow : Flow capacity all left side) (empty : side.pipe = []) (closed : side.closed = true) :
    Flow capacity all left { side with reading := .eof } :=
  ⟨flow.room,flow.conserved,flow.closed,fun _ => ⟨empty,closed⟩⟩

theorem Flow.fail (flow : Flow capacity all left side) : Flow capacity all left { side with reading := .error } :=
  ⟨flow.room,flow.conserved,flow.closed,nofun⟩

/-- What the reader shows at its end. -/
theorem Flow.shown (flow : Flow capacity all left side) (done : side.reading ≠ .reading) :
    (side.reading = .eof ∧ side.reader.text maxExecOutput = capped maxExecOutput all) ∨
      (side.reading = .error ∧ ∃ read, read <+: all ∧ side.reader.text maxExecOutput = capped maxExecOutput read) := by
  obtain ⟨read,whole,reader⟩ := flow.conserved
  cases ended : side.reading with
  | reading => exact absurd ended done
  | eof =>
    obtain ⟨empty,closed⟩ := flow.eof ended
    rw [empty,flow.closed closed,List.append_nil,List.append_nil] at whole
    exact .inl ⟨rfl,by rw [reader,whole]; rfl⟩
  | error => exact .inr ⟨rfl,read,⟨side.pipe ++ left,by rw [whole,List.append_assoc]⟩,by rw [reader]; rfl⟩

/-! ### What every run keeps -/

theorem bytesOf_append (st : Stream) (first second : List (Stream × UInt8)) :
    bytesOf st (first ++ second) = bytesOf st first ++ bytesOf st second := by
  simp [bytesOf]

theorem bytesOf_same {bytes : List (Stream × UInt8)} (same : ∀ b ∈ bytes, b.1 = st) : bytesOf st bytes = bytes.map Prod.snd := by
  rw [bytesOf,List.filter_eq_self.mpr (by simpa using same)]

theorem bytesOf_none {bytes : List (Stream × UInt8)} (none_ : ∀ b ∈ bytes, b.1 ≠ st) : bytesOf st bytes = [] := by
  rw [bytesOf,List.filter_eq_nil_iff.mpr (by simpa using none_)]
  rfl

structure Sound (capacity : Nat) (program : List (Stream × UInt8)) (s : State) : Prop where
  flow : ∀ st, Flow capacity (bytesOf st program) (bytesOf st s.todo) (s.side st)
  result : ∀ r, s.result = some (.ok r) → r.exitCode = s.exitCode ∧ (∀ st, (s.side st).reading ≠ .reading) ∧
    ∀ st, r.out st = (s.side st).reader.text maxExecOutput

theorem Sound.captures (sound : Sound capacity program s) : Captures capacity program s where
  bounded st := ⟨(sound.flow st).bounded,(sound.flow st).room⟩
  conserved st := (sound.flow st).conserved
  result r returned := by
    obtain ⟨code,done,shown⟩ := sound.result r returned
    refine ⟨code,fun st => ?_⟩
    rw [shown st]
    exact (sound.flow st).shown (done st)

/-- One stream moves on and the call has not returned. -/
theorem Sound.set (sound : Sound capacity program s) (pending : s.result = none) {todo : List (Stream × UInt8)} {side : Side}
    (moved : Flow capacity (bytesOf st program) (bytesOf st todo) side)
    (others : ∀ st', st' ≠ st → bytesOf st' todo = bytesOf st' s.todo) :
    Sound capacity program ({ s with todo := todo }.set st side) := by
  refine ⟨fun st' => ?_,fun r returned => absurd (pending.symm.trans returned) nofun⟩
  by_cases same : st' = st
  · subst same
    simpa [State.set] using moved
  · simpa [State.set,Function.update_of_ne same,others st' same] using sound.flow st'

theorem joined_iff : s.joined = true ↔ ∀ st, (s.side st).reading ≠ .reading := by
  constructor
  · intro joined st
    simp only [State.joined,Bool.and_eq_true,decide_eq_true_eq] at joined
    cases st
    · exact joined.1
    · exact joined.2
  · intro all
    simp [State.joined,all]

theorem step_open {a : Action} (stepped : step capacity s a = some t) : s.result = none ∧ move capacity s a = some t := by
  unfold step at stepped
  split at stepped
  · cases stepped
  next open_ => exact ⟨by simpa using open_,stepped⟩

theorem step_sound (s : State) (a : Action) (t : State) (sound : Sound capacity program s) (stepped : step capacity s a = some t) :
    Sound capacity program t := by
  obtain ⟨pending,stepped⟩ := step_open stepped
  cases a with
  | write st n =>
    simp only [move,Option.ite_none_right_eq_some,Option.some.injEq] at stepped
    obtain ⟨⟨some_,length,same,fits⟩,rfl⟩ := stepped
    have split : ∀ st', bytesOf st' s.todo = bytesOf st' (s.todo.take n) ++ bytesOf st' (s.todo.drop n) := by
      intro st'
      rw [← bytesOf_append,List.take_append_drop]
    refine sound.set pending ((sound.flow st).write ?_ ?_ ?_) fun st' other => ?_
    · rw [split st,bytesOf_same same]
    · intro none_
      rw [List.map_eq_nil_iff.mp none_] at length
      exact absurd length (by simp; omega)
    · rw [List.length_map,length]
      exact fits
    · have none_ : bytesOf st' (s.todo.take n) = [] := bytesOf_none fun b member => by rw [same b member]; exact other.symm
      rw [split st',none_]
      rfl
  | close st =>
    simp only [move,Option.ite_none_right_eq_some,Option.some.injEq] at stepped
    obtain ⟨⟨-,none_⟩,rfl⟩ := stepped
    have nothing := bytesOf_none none_
    have flow := sound.flow st
    refine sound.set pending ?_ fun _ _ => rfl
    rw [nothing] at flow ⊢
    exact flow.close
  | exit code =>
    simp only [move,Option.ite_none_right_eq_some,Option.some.injEq] at stepped
    obtain ⟨-,rfl⟩ := stepped
    exact ⟨sound.flow,fun r returned => absurd (pending.symm.trans returned) nofun⟩
  | read st n =>
    simp only [move,Option.ite_none_right_eq_some,Option.some.injEq] at stepped
    obtain ⟨⟨-,-,-,reading⟩,rfl⟩ := stepped
    exact sound.set pending ((sound.flow st).read reading) fun _ _ => rfl
  | eof st =>
    simp only [move,Option.ite_none_right_eq_some,Option.some.injEq] at stepped
    obtain ⟨⟨empty,closed,-⟩,rfl⟩ := stepped
    exact sound.set pending ((sound.flow st).eof_of empty closed) fun _ _ => rfl
  | readError st =>
    simp only [move,Option.ite_none_right_eq_some,Option.some.injEq] at stepped
    obtain ⟨-,rfl⟩ := stepped
    exact sound.set pending (sound.flow st).fail fun _ _ => rfl
  | finish =>
    simp only [move,Option.ite_none_right_eq_some,Option.some.injEq] at stepped
    obtain ⟨⟨joined,-⟩,rfl⟩ := stepped
    refine ⟨sound.flow,fun r returned => ?_⟩
    cases returned
    refine ⟨rfl,joined_iff.mp joined,fun st => ?_⟩
    cases st <;> rfl
  | waitError e =>
    simp only [move,Option.ite_none_right_eq_some,Option.some.injEq] at stepped
    obtain ⟨-,rfl⟩ := stepped
    exact ⟨sound.flow,nofun⟩
  | timeout =>
    cases stepped
    exact ⟨sound.flow,nofun⟩

theorem start_sound (capacity : Nat) (program : List (Stream × UInt8)) : Sound capacity program (start program) where
  flow _ := ⟨Nat.zero_le capacity,⟨[],rfl,rfl⟩,nofun,nofun⟩
  result := nofun

/-- However the pipes deliver, the result shows what the processes wrote. -/
theorem output_captured (capacity : Nat) (program : List (Stream × UInt8)) (as : List Action) :
    Always (step capacity) (Captures capacity program) (start program) as :=
  always_of_preserves step_sound (fun _ sound => sound.captures) (start_sound capacity program)

/-! ### No deadlock -/

/-- The steps that are left for a stream, once nothing more is written to it. -/
def pendingOf (side : Side) : Nat :=
  side.pipe.length + (if side.closed then 0 else 1) + if side.reading = .reading then 1 else 0

/-- The end of the child, or the return of the call. -/
def dueOf {α : Type} (event : Option α) : Nat := if event.isNone then 1 else 0

/-- The steps that are left at most. -/
def State.pending (s : State) : Nat :=
  2 * s.todo.length + pendingOf (s.side .stdout) + pendingOf (s.side .stderr) + dueOf s.exited + dueOf s.result

theorem pending_set (s : State) (st : Stream) (side : Side) :
    (s.set st side).pending + pendingOf (s.side st) = s.pending + pendingOf side := by
  cases st <;> simp only [State.pending,State.set,Function.update_self,Function.update_of_ne (show Stream.stdout ≠ .stderr by decide),
    Function.update_of_ne (show Stream.stderr ≠ .stdout by decide)] <;> omega

theorem step_pending {a : Action} (stepped : step capacity s a = some t) : t.pending < s.pending := by
  obtain ⟨pending,stepped⟩ := step_open stepped
  cases a with
  | write st n =>
    simp only [move,Option.ite_none_right_eq_some,Option.some.injEq] at stepped
    obtain ⟨⟨some_,length,-,-⟩,rfl⟩ := stepped
    have written : ({ s with todo := s.todo.drop n } : State).pending + 2 * n = s.pending := by
      simp only [State.pending,List.length_drop]
      rw [List.length_take] at length
      omega
    have moved := pending_set { s with todo := s.todo.drop n } st { s.side st with pipe := (s.side st).pipe ++ (s.todo.take n).map Prod.snd }
    simp only [pendingOf,List.length_append,List.length_map,length] at moved
    omega
  | close st =>
    simp only [move,Option.ite_none_right_eq_some,Option.some.injEq] at stepped
    obtain ⟨⟨open_,-⟩,rfl⟩ := stepped
    have moved := pending_set s st { s.side st with closed := true }
    simp only [pendingOf,open_,Bool.false_eq_true,if_true,if_false] at moved
    omega
  | exit code =>
    simp only [move,Option.ite_none_right_eq_some,Option.some.injEq] at stepped
    obtain ⟨running,rfl⟩ := stepped
    simp [State.pending,dueOf,running]
  | read st n =>
    simp only [move,Option.ite_none_right_eq_some,Option.some.injEq] at stepped
    obtain ⟨⟨some_,-,enough,-⟩,rfl⟩ := stepped
    have moved := pending_set s st { s.side st with
      pipe := (s.side st).pipe.drop n
      reader := (s.side st).reader.take maxExecOutput ((s.side st).pipe.take n) }
    simp only [pendingOf,List.length_drop] at moved
    omega
  | eof st =>
    simp only [move,Option.ite_none_right_eq_some,Option.some.injEq] at stepped
    obtain ⟨⟨-,-,reading⟩,rfl⟩ := stepped
    have moved := pending_set s st { s.side st with reading := .eof }
    simp only [pendingOf,reading,reduceCtorEq,if_true,if_false] at moved
    omega
  | readError st =>
    simp only [move,Option.ite_none_right_eq_some,Option.some.injEq] at stepped
    obtain ⟨reading,rfl⟩ := stepped
    have moved := pending_set s st { s.side st with reading := .error }
    simp only [pendingOf,reading,reduceCtorEq,if_true,if_false] at moved
    omega
  | finish =>
    simp only [move,Option.ite_none_right_eq_some,Option.some.injEq] at stepped
    obtain ⟨-,rfl⟩ := stepped
    simp [State.pending,dueOf,pending]
  | waitError e =>
    simp only [move,Option.ite_none_right_eq_some,Option.some.injEq] at stepped
    obtain ⟨-,rfl⟩ := stepped
    simp [State.pending,dueOf,pending]
  | timeout =>
    cases stepped
    simp [State.pending,dueOf,pending]

theorem run_pending {as : List Action} (ran : run (step capacity) s as = some t) : as.length + t.pending ≤ s.pending := by
  induction as generalizing s with
  | nil =>
    cases ran
    simp
  | cons a rest ih =>
    obtain ⟨m,stepped,after⟩ := run_cons_iff.mp ran
    have one := step_pending stepped
    have more := ih after
    simp only [List.length_cons]
    omega

/-- A step that is no failure can be taken. -/
def Moves (capacity : Nat) (s : State) : Prop := ∃ a, a.ordinary = true ∧ (step capacity s a).isSome = true

theorem moves_of {a : Action} (ordinary : a.ordinary = true) (pending : s.result = none)
    (moved : (move capacity s a).isSome = true) : Moves capacity s :=
  ⟨a,ordinary,by simpa [step,pending] using moved⟩

/-- What is in a pipe can be read. -/
theorem moves_full (sound : Sound capacity program s) (pending : s.result = none) (working : (s.side st).reading ≠ .error)
    (some_ : (s.side st).pipe ≠ []) : Moves capacity s := by
  have reading : (s.side st).reading = .reading := by
    cases at_ : (s.side st).reading with
    | reading => rfl
    | eof => exact absurd ((sound.flow st).eof at_).1 some_
    | error => exact absurd at_ working
  have length := List.length_pos_iff.mpr some_
  refine moves_of (a := .read st 1) rfl pending ?_
  have size : 1 ≤ readSize := by decide
  simp only [move]
  rw [if_pos ⟨Nat.one_pos,size,length,reading⟩]
  rfl

/-- Once nothing more is written, a stream moves on to its end. -/
theorem moves_ended (sound : Sound capacity program s) (pending : s.result = none) (working : (s.side st).reading ≠ .error)
    (nothing : s.todo = []) : (s.side st).reading = .eof ∨ Moves capacity s := by
  by_cases some_ : (s.side st).pipe = []
  · cases at_ : (s.side st).reading with
    | eof => exact .inl rfl
    | error => exact absurd at_ working
    | reading =>
      cases closed : (s.side st).closed with
      | false => exact .inr (moves_of (a := .close st) rfl pending (by simp [move,nothing,closed]))
      | true => exact .inr (moves_of (a := .eof st) rfl pending (by simp [move,some_,closed,at_]))
  · exact .inr (moves_full sound pending working some_)

theorem unblocked (sound : Sound capacity program s) (room : 0 < capacity) (pending : s.result = none)
    (working : ∀ st, (s.side st).reading ≠ .error) : Moves capacity s := by
  cases left : s.todo with
  | cons b rest =>
    by_cases fits : (s.side b.1).pipe.length + 1 ≤ capacity
    · refine moves_of (a := .write b.1 1) rfl pending ?_
      simp [move,left,fits]
    · refine moves_full sound pending (working b.1) ?_
      intro empty
      rw [empty] at fits
      exact fits (by simpa using Nat.succ_le_of_lt room)
  | nil =>
    rcases moves_ended sound pending (working .stdout) left with out | moves
    · rcases moves_ended sound pending (working .stderr) left with err | moves
      · cases running : s.exited with
        | none => exact moves_of (a := .exit (some 0)) rfl pending (by simp [move,running])
        | some code => exact moves_of (a := .finish) rfl pending (by simp [move,State.joined,out,err,running])
      · exact moves
    · exact moves

/-- A command never hangs on its pipes: whatever its processes write, in whatever order, a call takes boundedly
    many steps, and until it returns one can be taken, as long as no read fails. -/
theorem exec_returns (room : 0 < capacity) (program : List (Stream × UInt8)) (as : List Action) (s : State)
    (ran : run (step capacity) (start program) as = some s) :
    as.length ≤ 2 * program.length + 6 ∧
      (s.result = none → (∀ st, (s.side st).reading ≠ .error) → Moves capacity s) := by
  refine ⟨?_,unblocked (run_preserves step_sound (start_sound capacity program) ran) room⟩
  have bound := run_pending ran
  simp only [start,State.pending,pendingOf,dueOf,List.length_nil,Option.isNone_none,Bool.false_eq_true,if_true,if_false] at bound
  omega

/-- One byte on its way through a pipe that holds one. -/
theorem exec_returns_oneByte : ∃ s, run (step 1) (start [(.stdout,65)]) [.write .stdout 1,.read .stdout 1] = some s ∧
    (s.result = none → (∀ st, (s.side st).reading ≠ .error) → Moves 1 s) :=
  ⟨_,rfl,(exec_returns Nat.one_pos [(.stdout,65)] [.write .stdout 1,.read .stdout 1] _ rfl).2⟩

end
end Sctl.CappedOutput
