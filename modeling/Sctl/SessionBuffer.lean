import Mathlib.Data.List.Basic
import Mathlib.Algebra.Group.Nat.Defs

/-!
The ring buffer of a session's output (`sessions/buffer.rs`). Entries are
numbered from 1 as they are pushed; a full buffer forgets the oldest one. The
type carries what the source keeps true throughout: the entries it holds are
the last ones pushed, with consecutive numbers, and once something was pushed
the buffer is never empty again, even with room for no entry. Numbers are
natural; the source's `u64` would overflow after 2^64 pushes.
-/
namespace Sctl.SessionBuffer

inductive OutputStream
  | stdout
  | stderr
  | system
deriving DecidableEq

def OutputStream.asStr : OutputStream → String
  | .stdout => "stdout"
  | .stderr => "stderr"
  | .system => "system"

structure OutputEntry where
  seq : Nat
  stream : OutputStream
  data : String
  timestampMs : Nat
deriving DecidableEq

/-- An entry as the journal stores it. -/
structure JournalEntry where
  s : Nat
  t : Char
  d : String
  ts : Nat
deriving DecidableEq

def JournalEntry.fromOutputEntry (entry : OutputEntry) : JournalEntry :=
  ⟨entry.seq,match entry.stream with
    | .stdout => 'o'
    | .stderr => 'e'
    | .system => 'x',entry.data,entry.timestampMs⟩

/-- The bounded channel to the journal's writer. -/
structure JournalChannel where
  queued : List JournalEntry
  capacity : Nat

/-- `try_send` with its result ignored: a full channel loses the entry. -/
def JournalChannel.trySend (channel : JournalChannel) (entry : JournalEntry) : JournalChannel :=
  if channel.queued.length < channel.capacity then { channel with queued := channel.queued ++ [entry] } else channel

structure OutputBuffer where
  entries : List OutputEntry
  nextSeq : Nat
  maxEntries : Nat
  journal : Option JournalChannel
  room : entries.length < nextSeq
  sequenced : entries.map OutputEntry.seq = List.range' (nextSeq - entries.length) entries.length
  live : entries = [] → nextSeq = 1

namespace OutputBuffer

def new (maxEntries : Nat) : OutputBuffer where
  entries := []
  nextSeq := 1
  maxEntries := maxEntries
  journal := none
  room := by simp
  sequenced := rfl
  live _ := rfl

def setJournal (b : OutputBuffer) (channel : JournalChannel) : OutputBuffer := { b with journal := some channel }

/-- What is left when a push makes room. -/
def kept (b : OutputBuffer) : List OutputEntry :=
  if b.maxEntries ≤ b.entries.length then b.entries.drop 1 else b.entries

theorem kept_length_le (b : OutputBuffer) : b.kept.length ≤ b.entries.length := by
  unfold kept; split <;> simp

theorem kept_sequenced (b : OutputBuffer) :
    b.kept.map OutputEntry.seq = List.range' (b.nextSeq - b.kept.length) b.kept.length := by
  unfold kept
  split
  · rw [List.map_drop,b.sequenced,List.drop_range']
    have room := b.room
    cases held : b.entries.length with
    | zero => simp [List.length_eq_zero_iff.mp held]
    | succ n => simp only [List.length_drop,held]; congr 1; omega
  · exact b.sequenced

def push (b : OutputBuffer) (stream : OutputStream) (data : String) (now : Nat) : OutputBuffer where
  entries := b.kept ++ [⟨b.nextSeq,stream,data,now⟩]
  nextSeq := b.nextSeq + 1
  maxEntries := b.maxEntries
  journal := b.journal.map fun channel => channel.trySend (.fromOutputEntry ⟨b.nextSeq,stream,data,now⟩)
  room := by
    have fewer := b.kept_length_le
    have room := b.room
    simp; omega
  sequenced := by
    have fewer := b.kept_length_le
    have room := b.room
    rw [List.map_append,b.kept_sequenced,List.length_append,List.length_singleton,List.range'_concat]
    have last : b.nextSeq - b.kept.length + 1 * b.kept.length = b.nextSeq := by omega
    have first : b.nextSeq + 1 - (b.kept.length + 1) = b.nextSeq - b.kept.length := by omega
    rw [first,last]
    rfl
  live empty := by simp at empty

/-- The number of the oldest entry held, or of the next one. -/
def oldestAvailable (b : OutputBuffer) : Nat :=
  match b.entries.head? with
  | some e => e.seq
  | none => b.nextSeq

def saturatingAdd (a b : Nat) : Nat := min (a + b) (2 ^ 64 - 1)

/-- The entries after a number, and how many of them are already forgotten. -/
def readSince (b : OutputBuffer) (since : Nat) : List OutputEntry × Nat :=
  (b.entries.filter fun e => since < e.seq,
    if saturatingAdd since 1 < b.oldestAvailable then b.oldestAvailable - since - 1 else 0)

def hasEntriesSince (b : OutputBuffer) (since : Nat) : Bool :=
  match b.entries.getLast? with
  | some e => since < e.seq
  | none => false

/-! ### What a buffer holds -/

theorem oldestAvailable_eq (b : OutputBuffer) : b.oldestAvailable = b.nextSeq - b.entries.length := by
  unfold oldestAvailable
  have sequenced := b.sequenced
  cases held : b.entries with
  | nil => simp
  | cons e rest =>
    rw [held] at sequenced
    simp only [List.map_cons,List.length_cons,List.range'_succ,List.cons.injEq] at sequenced
    simpa using sequenced.1

theorem hasEntriesSince_iff (b : OutputBuffer) (since : Nat) : b.hasEntriesSince since = true ↔ since + 1 < b.nextSeq := by
  unfold hasEntriesSince
  have room := b.room
  cases held : b.entries.getLast? with
  | none =>
    have empty : b.entries = [] := List.getLast?_eq_none_iff.mp held
    simp [b.live empty]
  | some e =>
    have last : (b.entries.map OutputEntry.seq).getLast? = some e.seq := by simp [held]
    have some_ : b.entries ≠ [] := by rintro empty; simp [empty] at held
    have pos := List.length_pos_iff.mpr some_
    rw [b.sequenced,List.getLast?_range'] at last
    simp only [Nat.pos_iff_ne_zero.mp pos] at last
    simp at last
    simp only [decide_eq_true_eq]; omega

theorem seq_lt_nextSeq {b : OutputBuffer} {e : OutputEntry} (member : e ∈ b.entries) : e.seq < b.nextSeq := by
  have room := b.room
  have seq : e.seq ∈ b.entries.map OutputEntry.seq := List.mem_map_of_mem member
  rw [b.sequenced,List.mem_range'_1] at seq
  omega

theorem filter_range' (since first count : Nat) :
    (List.range' first count).filter (fun i => since < i) =
      List.range' (max (since + 1) first) (first + count - max (since + 1) first) := by
  induction count generalizing first with
  | zero =>
    have none_ : first + 0 - max (since + 1) first = 0 := by omega
    rw [none_]
    rfl
  | succ n ih =>
    rw [List.range'_succ,List.filter_cons,ih]
    by_cases after : since < first
    · simp only [after,decide_true,if_true]
      rw [Nat.max_eq_right (by omega),Nat.max_eq_right (by omega)]
      have count : first + (n + 1) - first = (first + 1 + n - (first + 1)) + 1 := by omega
      rw [count,List.range'_succ]
    · simp only [after,decide_false]
      rw [Nat.max_eq_left (by omega),Nat.max_eq_left (by omega)]
      simp only [Bool.false_eq_true,if_false]
      congr 1; omega

/-- A read returns the numbers after `since` that are still held, in order. -/
theorem readSince_seqs (b : OutputBuffer) (since : Nat) :
    (b.readSince since).1.map OutputEntry.seq =
      List.range' (max (since + 1) b.oldestAvailable) (b.nextSeq - max (since + 1) b.oldestAvailable) := by
  have room := b.room
  have whole : b.oldestAvailable + b.entries.length = b.nextSeq := by rw [oldestAvailable_eq]; omega
  have moved : (b.readSince since).1.map OutputEntry.seq = (b.entries.map OutputEntry.seq).filter fun i => since < i := by
    simp [readSince,List.filter_map,Function.comp_def]
  rw [moved,b.sequenced,← oldestAvailable_eq,filter_range',whole]

end OutputBuffer
end Sctl.SessionBuffer
