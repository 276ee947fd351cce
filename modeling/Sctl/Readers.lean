import Sctl.Runs
import Sctl.SessionBuffer
import Sctl.Utf8

/-!
The tasks of a session that read the output of its process
(`sessions/session.rs`): one for each pipe, or one for the PTY, which merges
both. A read returns at most 4096 bytes and each read is decoded alone and
pushed as one entry, between the pushes of the other tasks. The output of a
command (`shell/process.rs`) is read to its end before it is decoded.
-/
namespace Sctl.Readers
open Sctl.SessionBuffer Sctl.Runs Sctl.Utf8

inductive Io
  | pipes
  | pty
deriving DecidableEq

inductive SessionStatus
  | running
  | exited
deriving DecidableEq

inductive ReadError
  | eio
  | wouldBlock
  | other
deriving DecidableEq

structure ManagedSession where
  io : Io
  buffer : OutputBuffer
  status : SessionStatus
  exitCode : Option Int
  stdoutReader : Bool
  stderrReader : Bool
  exitWatcher : Bool
  /-- The entries pushed so far, also those that the buffer has forgotten. -/
  pushed : List OutputEntry

inductive Action
  | read (stream : OutputStream) (result : Except ReadError (List UInt8)) (now : Nat)
  /-- The process is waited for: its code, if it has one, or an error. -/
  | wait (result : Except String (Option Int)) (now : Nat)
  | setJournal (channel : JournalChannel)
  | abortTasks

namespace ManagedSession

def spawn (bufferSize : Nat) : ManagedSession :=
  ⟨.pipes,.new bufferSize,.running,none,true,true,true,[]⟩

def spawnPty (bufferSize : Nat) : ManagedSession :=
  ⟨.pty,.new bufferSize,.running,none,true,false,true,[]⟩

def push (s : ManagedSession) (stream : OutputStream) (data : String) (now : Nat) : ManagedSession :=
  { s with buffer := s.buffer.push stream data now, pushed := s.pushed ++ [⟨s.buffer.nextSeq,stream,data,now⟩] }

def reads (s : ManagedSession) : OutputStream → Bool
  | .stdout => s.stdoutReader
  | .stderr => s.stderrReader
  | .system => false

def closeReader (s : ManagedSession) : OutputStream → ManagedSession
  | .stdout => { s with stdoutReader := false }
  | .stderr => { s with stderrReader := false }
  | .system => s

def readSize : Nat := 4096

/-- One turn of a reader's loop. No bytes are the end of the stream. Only the
    reader of a PTY goes on after an error, when there was nothing to read. -/
def readOutput (s : ManagedSession) (stream : OutputStream) (result : Except ReadError (List UInt8)) (now : Nat) :
    ManagedSession :=
  match result with
  | .ok [] => s.closeReader stream
  | .ok bytes => s.push stream (fromUtf8Lossy bytes) now
  | .error e => if s.io = .pty ∧ e = .wouldBlock then s else s.closeReader stream

def exitWatch (s : ManagedSession) (result : Except String (Option Int)) (now : Nat) : ManagedSession :=
  match result with
  | .ok code =>
    { s with exitCode := some (code.getD (-1)), status := .exited, exitWatcher := false }.push .system
      ("Process exited with code " ++ toString (code.getD (-1))) now
  | .error e =>
    { s with exitCode := some (-1), status := .exited, exitWatcher := false }.push .system ("Process wait error: " ++ e) now

def step (s : ManagedSession) : Action → Option ManagedSession
  | .read stream result now =>
    if s.reads stream ∧ (∀ bytes ∈ result.toOption, bytes.length ≤ readSize) then some (s.readOutput stream result now)
    else none
  | .wait result now => if s.exitWatcher then some (s.exitWatch result now) else none
  | .setJournal channel => some { s with buffer := s.buffer.setJournal channel }
  | .abortTasks => some { s with stdoutReader := false, stderrReader := false, exitWatcher := false }

/-! ### What was read and what was pushed -/

/-- The bytes that an action reads from a stream. -/
def bytesRead (stream : OutputStream) : Action → Option (List UInt8)
  | .read from_ (.ok bytes) _ => if from_ = stream ∧ bytes ≠ [] then some bytes else none
  | _ => none

/-- The chunks that a run reads from a stream. -/
def received (stream : OutputStream) (as : List Action) : List (List UInt8) := as.filterMap (bytesRead stream)

theorem received_cons (stream : OutputStream) (a : Action) (rest : List Action) :
    received stream (a :: rest) = received stream [a] ++ received stream rest :=
  List.filterMap_append (l := [a])

def dataOf (stream : OutputStream) (s : ManagedSession) : List String :=
  (s.pushed.filter fun e => e.stream = stream).map OutputEntry.data

/-- All that was pushed for a stream. -/
def pushedText (stream : OutputStream) (s : ManagedSession) : String := String.join (s.dataOf stream)

theorem dataOf_push (s : ManagedSession) (stream from_ : OutputStream) (data : String) (now : Nat) :
    (s.push from_ data now).dataOf stream = s.dataOf stream ++ if from_ = stream then [data] else [] := by
  by_cases same : from_ = stream <;> simp [dataOf,push,same]

theorem dataOf_closeReader (s : ManagedSession) (stream from_ : OutputStream) :
    (s.closeReader from_).dataOf stream = s.dataOf stream := by
  cases from_ <;> rfl

theorem dataOf_readOutput (s : ManagedSession) (stream from_ : OutputStream) (result : Except ReadError (List UInt8))
    (now : Nat) : (s.readOutput from_ result now).dataOf stream =
      s.dataOf stream ++ (received stream [.read from_ result now]).map fromUtf8Lossy := by
  match result with
  | .ok [] => simp [readOutput,received,bytesRead,dataOf_closeReader]
  | .ok (b :: bytes) =>
    rw [readOutput,dataOf_push]
    · by_cases same : from_ = stream <;> simp [received,bytesRead,same]
    · simp
  | .error e =>
    simp only [readOutput]
    split_ifs <;> simp [received,bytesRead,dataOf_closeReader]

/-- A step pushes for a stream what it reads from it, decoded. -/
theorem dataOf_step {stream : OutputStream} (program : stream ≠ .system) {s t : ManagedSession} {a : Action}
    (stepped : step s a = some t) : t.dataOf stream = s.dataOf stream ++ (received stream [a]).map fromUtf8Lossy := by
  cases a with
  | read from_ result now =>
    simp only [step,Option.ite_none_right_eq_some,Option.some.injEq] at stepped
    rw [← stepped.2,dataOf_readOutput]
  | wait result now =>
    simp only [step,Option.ite_none_right_eq_some,Option.some.injEq] at stepped
    rw [← stepped.2]
    cases result <;> rw [exitWatch,dataOf_push,if_neg program.symm] <;> rfl
  | setJournal channel =>
    simp only [step,Option.some.injEq] at stepped
    subst stepped
    simp [received,bytesRead,dataOf]
  | abortTasks =>
    simp only [step,Option.some.injEq] at stepped
    subst stepped
    simp [received,bytesRead,dataOf]

theorem dataOf_run {stream : OutputStream} (program : stream ≠ .system) {s t : ManagedSession} {as : List Action}
    (ran : run step s as = some t) : t.dataOf stream = s.dataOf stream ++ (received stream as).map fromUtf8Lossy := by
  induction as generalizing s with
  | nil =>
    simp only [run,Option.some.injEq] at ran
    simp [ran,received]
  | cons a rest ih =>
    obtain ⟨u,stepped,later⟩ := run_cons_iff.mp ran
    rw [ih later,dataOf_step program stepped,List.append_assoc,← List.map_append,← received_cons]

theorem received_nonempty {stream : OutputStream} {as : List Action} : ∀ chunk ∈ received stream as, chunk ≠ [] := by
  intro chunk member
  obtain ⟨a,-,from_a⟩ := List.mem_filterMap.mp member
  unfold bytesRead at from_a
  split at from_a
  · simp only [Option.ite_none_right_eq_some,Option.some.injEq] at from_a
    exact from_a.2 ▸ from_a.1.2
  · cases from_a

/-- The chunks of a run are those that reads of 4096 bytes can return. -/
theorem received_le {stream : OutputStream} {s t : ManagedSession} {as : List Action} (ran : run step s as = some t) :
    ∀ chunk ∈ received stream as, chunk.length ≤ readSize := by
  induction as generalizing s with
  | nil => simp [received]
  | cons a rest ih =>
    obtain ⟨u,stepped,later⟩ := run_cons_iff.mp ran
    rw [received_cons]
    intro chunk member
    obtain here | there := List.mem_append.mp member
    · obtain ⟨b,only,from_b⟩ := List.mem_filterMap.mp here
      rw [List.mem_singleton.mp only] at from_b
      unfold bytesRead at from_b
      split at from_b
      · simp only [Option.ite_none_right_eq_some,Option.some.injEq] at from_b
        simp only [step,Option.ite_none_right_eq_some] at stepped
        exact from_b.2 ▸ stepped.1.2 _ rfl
      · cases from_b
    · exact ih later chunk there

/-- Every way to cut a stream into chunks is one in which it can be read. -/
theorem reads_run {s : ManagedSession} {stream : OutputStream} (open_ : s.reads stream = true) (chunks : List (List UInt8))
    (sizes : ∀ chunk ∈ chunks, chunk ≠ [] ∧ chunk.length ≤ readSize) :
    ∃ as t, run step s as = some t ∧ received stream as = chunks := by
  induction chunks generalizing s with
  | nil => exact ⟨[],s,rfl,rfl⟩
  | cons chunk chunks ih =>
    obtain ⟨⟨nonempty,small⟩,later⟩ := List.forall_mem_cons.mp sizes
    have kept : (s.push stream (fromUtf8Lossy chunk) 0).reads stream = true := by cases stream <;> exact open_
    obtain ⟨as,t,ran,same⟩ := ih kept later
    have first : step s (.read stream (.ok chunk) 0) = some (s.push stream (fromUtf8Lossy chunk) 0) := by
      simp [step,open_,Except.toOption,small,readOutput]
    refine ⟨.read stream (.ok chunk) 0 :: as,t,run_cons_iff.mpr ⟨_,first,ran⟩,?_⟩
    rw [received_cons,same]
    simp [received,bytesRead,nonempty]

/-! ### Text that is read in chunks -/

theorem toList_fromUtf8Lossy (bytes : List UInt8) : (fromUtf8Lossy bytes).toList = decodeFrom none bytes := by
  simp [fromUtf8Lossy]

theorem toList_join_lossy (chunks : List (List UInt8)) :
    (String.join (chunks.map fromUtf8Lossy)).toList = chunks.flatMap (decodeFrom none) := by
  simp [List.flatMap_map,toList_fromUtf8Lossy]

/-- Output that is UTF-8 is pushed as the text it encodes exactly when every
    read ends between two characters. -/
theorem text_pushed_iff {bufferSize : Nat} {s t : ManagedSession} {stream : OutputStream} {as : List Action} {text : String}
    (spawned : s = spawn bufferSize ∨ s = spawnPty bufferSize) (program : stream ≠ .system)
    (ran : run step s as = some t) (valid : (received stream as).flatten = encode text.toList) :
    t.pushedText stream = text ↔ Aligned text.toList (received stream as) := by
  have fresh : s.dataOf stream = [] := by obtain rfl | rfl := spawned <;> rfl
  rw [← decode_parts_iff received_nonempty valid,← toList_join_lossy,String.toList_inj,pushedText,
    dataOf_run program ran,fresh,List.nil_append]

/-- Two reads of "aéb" that part it after the accented letter, with a read of the other pipe in between. -/
def readsApart : List Action :=
  [.read .stdout (.ok [0x61,0xC3,0xA9]) 1,.read .stderr (.ok [0x21]) 2,.read .stdout (.ok [0x62]) 3]

theorem text_pushed_apart :
    ∃ t, run step (spawn 16) readsApart = some t ∧ Aligned "aéb".toList (received .stdout readsApart) ∧
      t.pushedText .stdout = "aéb" := by
  have valid : (received .stdout readsApart).flatten = encode "aéb".toList := by decide +kernel
  have aligned : Aligned "aéb".toList (received .stdout readsApart) :=
    (aligned_iff received_nonempty valid).mpr (by decide +kernel)
  exact ⟨_,rfl,aligned,(text_pushed_iff (.inl rfl) (by decide) rfl valid).mpr aligned⟩

/-- Two reads of one byte each, inside the one character of "é". -/
def readsInside : List Action := [.read .stdout (.ok [0xC3]) 1,.read .stdout (.ok [0xA9]) 2]

theorem text_replaced :
    ∃ t, run step (spawn 16) readsInside = some t ∧ (received .stdout readsInside).flatten = encode "é".toList ∧
      t.pushedText .stdout = "\uFFFD\uFFFD" ∧ t.pushedText .stdout ≠ "é" :=
  ⟨_,rfl,by decide +kernel,by decide +kernel,by decide +kernel⟩

end ManagedSession

/-! ### The output of a command -/

structure Capture where
  buf : List UInt8
  totalRead : Nat

def captureChunk (maxBytes : Nat) (c : Capture) (chunk : List UInt8) : Capture :=
  { buf := if c.buf.length < maxBytes then c.buf ++ chunk.take (maxBytes - c.buf.length) else c.buf
    totalRead := c.totalRead + chunk.length }

/-- `read_capped`, on the chunks that the reads return up to the end or an error. -/
def readCapped (maxBytes : Nat) (chunks : List (List UInt8)) : String :=
  let c := chunks.foldl (captureChunk maxBytes) ⟨[],0⟩
  let s := fromUtf8Lossy c.buf
  if maxBytes < c.totalRead then
    s ++ "\n[truncated: " ++ toString c.totalRead ++ " bytes total, showing first " ++ toString maxBytes ++ "]"
  else s

theorem captureChunk_foldl (maxBytes : Nat) (chunks : List (List UInt8)) (read : List UInt8) :
    chunks.foldl (captureChunk maxBytes) ⟨read.take maxBytes,read.length⟩ =
      ⟨(read ++ chunks.flatten).take maxBytes,(read ++ chunks.flatten).length⟩ := by
  induction chunks generalizing read with
  | nil => simp
  | cons chunk chunks ih =>
    have next : captureChunk maxBytes ⟨read.take maxBytes,read.length⟩ chunk =
        ⟨(read ++ chunk).take maxBytes,(read ++ chunk).length⟩ := by
      simp only [captureChunk,Capture.mk.injEq,List.length_append,and_true,List.take_append,List.length_take]
      split_ifs with more
      · congr 2; omega
      · rw [Nat.sub_eq_zero_of_le (show maxBytes ≤ read.length by omega)]; simp
    rw [List.foldl_cons,next,ih]
    simp

/-- A command's output within the limit is its text, however it is read. -/
theorem readCapped_text {maxBytes : Nat} {chunks : List (List UInt8)} {text : String}
    (valid : chunks.flatten = encode text.toList) (fits : chunks.flatten.length ≤ maxBytes) :
    readCapped maxBytes chunks = text := by
  have all := captureChunk_foldl maxBytes chunks []
  simp only [List.take_nil,List.length_nil,List.nil_append] at all
  rw [readCapped,all,List.take_of_length_le fits]
  simp only [Nat.not_lt.mpr fits,if_false]
  rw [← String.toList_inj,ManagedSession.toList_fromUtf8Lossy,valid,decodeFrom_encode]

end Sctl.Readers
