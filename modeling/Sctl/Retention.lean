import Sctl.SessionBuffer

/-!
What an output buffer retains, over whole histories of it: readers push in any
order, and the journal's hook is installed at some point in between. A consumer
that asks for what came after a number gets the retained entries after it and
the count of those that are gone, which together account for every entry pushed
since.
-/
namespace Sctl.Retention
open Sctl.SessionBuffer

/-- What is done to a buffer: a push of some reader, or the journal's hook. -/
inductive Change
  | push (stream : OutputStream) (data : String) (now : Nat)
  | setJournal (channel : JournalChannel)

def change (b : OutputBuffer) : Change → OutputBuffer
  | .push stream data now => b.push stream data now
  | .setJournal channel => b.setJournal channel

/-- The buffer after a history of changes. -/
def after (b : OutputBuffer) (changes : List Change) : OutputBuffer := changes.foldl change b

section
variable {b : OutputBuffer} {since : Nat}

@[simp] theorem push_maxEntries (stream : OutputStream) (data : String) (now : Nat) :
    (b.push stream data now).maxEntries = b.maxEntries := rfl

/-- A push keeps within the limit, where no room at all still holds one entry. -/
theorem push_length (stream : OutputStream) (data : String) (now : Nat) (within : b.entries.length ≤ max 1 b.maxEntries) :
    (b.push stream data now).entries.length ≤ max 1 b.maxEntries := by
  have length : (b.push stream data now).entries.length = b.kept.length + 1 := by simp [OutputBuffer.push]
  rw [length]
  unfold OutputBuffer.kept
  split
  · next full =>
    rw [List.length_drop]
    omega
  · next room => omega

theorem after_bounded (changes : List Change) (within : b.entries.length ≤ max 1 b.maxEntries) :
    (after b changes).entries.length ≤ max 1 b.maxEntries := by
  induction changes generalizing b with
  | nil => exact within
  | cons first rest ih =>
    cases first with
    | push stream data now => exact @ih (b.push stream data now) (push_length stream data now within)
    | setJournal channel => exact @ih (b.setJournal channel) within

theorem mem_readSince {e : OutputEntry} : e ∈ (b.readSince since).1 ↔ e ∈ b.entries ∧ since < e.seq := by
  simp [OutputBuffer.readSince]

theorem readSince_length : (b.readSince since).1.length = b.nextSeq - max (since + 1) b.oldestAvailable := by
  have length := congrArg List.length (b.readSince_seqs since)
  simpa using length

/-- The count of forgotten entries is the distance to the oldest one, at any number. -/
theorem readSince_dropped : (b.readSince since).2 = b.oldestAvailable - since - 1 := by
  unfold OutputBuffer.readSince OutputBuffer.saturatingAdd
  dsimp only
  split <;> omega

theorem oldestAvailable_le : b.oldestAvailable ≤ b.nextSeq := by
  rw [b.oldestAvailable_eq]
  omega

/-- What was pushed after a number is returned or counted. -/
theorem readSince_accounts :
    (b.readSince since).2 + (b.readSince since).1.length = if since < b.nextSeq then b.nextSeq - 1 - since else 0 := by
  have oldest : b.oldestAvailable ≤ b.nextSeq := oldestAvailable_le
  rw [readSince_length,readSince_dropped]
  split <;> omega

theorem hasEntriesSince_eq : b.hasEntriesSince since = true ↔ (b.readSince since).1 ≠ [] := by
  have room := b.room
  have oldest := b.oldestAvailable_eq
  rw [b.hasEntriesSince_iff,← List.length_pos_iff,readSince_length]
  have live : b.entries.length = 0 → b.nextSeq = 1 := fun empty => b.live (List.length_eq_zero_iff.mp empty)
  omega

theorem readSince_ordered : ((b.readSince since).1.map OutputEntry.seq).Pairwise (· < ·) := by
  rw [b.readSince_seqs]
  exact List.pairwise_lt_range'

end

/-- What every consumer of the ring relies on: consecutive numbers within the limit, and
reads that return what is retained after a number and count what is gone. -/
structure Contract (maxEntries : Nat) (b : OutputBuffer) : Prop where
  consecutive : b.entries.map OutputEntry.seq = List.range' (b.nextSeq - b.entries.length) b.entries.length
  room : b.entries.length < b.nextSeq
  bounded : b.entries.length ≤ max 1 maxEntries
  exact : ∀ since e, e ∈ (b.readSince since).1 ↔ e ∈ b.entries ∧ since < e.seq
  ordered : ∀ since, ((b.readSince since).1.map OutputEntry.seq).Pairwise (· < ·)
  accounted : ∀ since, (b.readSince since).2 + (b.readSince since).1.length =
    if since < b.nextSeq then b.nextSeq - 1 - since else 0
  ready : ∀ since, b.hasEntriesSince since = true ↔ (b.readSince since).1 ≠ []

theorem ring_buffer_contract (maxEntries : Nat) (changes : List Change) :
    Contract maxEntries (after (.new maxEntries) changes) where
  consecutive := OutputBuffer.sequenced _
  room := OutputBuffer.room _
  bounded := @after_bounded (.new maxEntries) changes (Nat.zero_le _)
  exact _ _ := mem_readSince
  ordered _ := readSince_ordered
  accounted _ := readSince_accounts
  ready _ := hasEntriesSince_eq

end Sctl.Retention
