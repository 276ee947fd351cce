import Mathlib.Data.Set.Lattice
import Mathlib.Order.CompletePartialOrder
import Mathlib.Order.Interval.Set.Basic
import Sctl.TransferManager

/-!
The chunks of an admitted transfer: how many `compute_chunks` counts and which
bytes of the file each of them stands for.
-/
namespace Sctl.ChunkArithmetic
open Files TransferTypes TransferManager

/-- The chunk size of a download request: a `u32` in the body of an HTTP request, a
    `u64` in a message through the tunnel, which is cast. -/
inductive Sent
  | http (chunkSize : Option Nat) (fits : ∀ c ∈ chunkSize, c < 2 ^ 32)
  | tunnel (chunkSize : Option Nat) (fits : ∀ c ∈ chunkSize, c < 2 ^ 64)

def Sent.chunkSize : Sent → Option Nat
  | http chunkSize _ => chunkSize
  | tunnel chunkSize _ => chunkSize.map (· % 2 ^ 32)

/-- The sizes that the two requests let through. -/
inductive Admits (cfg : TransferConfig) : Nat → Nat → Prop
  | download (env : Env) (m : Manager) (path : String) (sent : Sent) (plan : DownloadPlan)
      (checked : initDownloadCheck cfg env m path sent.chunkSize = .ok plan) : Admits cfg plan.fileSize plan.chunkSize
  | upload (env : Env) (m : Manager) (req : InitUpload) (plan : UploadPlan)
      (checked : initUploadCheck cfg env m req = .ok plan) : Admits cfg plan.fileSize plan.chunkSize

/-- The bytes of chunk `i`, as `serve_chunk` and `receive_chunk` place them. -/
def chunkBytes (fileSize chunkSize i : Nat) : Set Nat := Set.Ico (i * chunkSize) (i * chunkSize + chunkLen fileSize chunkSize i)

/-- The chunks are counted without a panic or a truncation, and they partition the file. -/
structure Exact (fileSize chunkSize total : Nat) : Prop where
  counted : computeChunks fileSize chunkSize = some total
  whole : total = if fileSize = 0 then 1 else divCeil fileSize chunkSize
  apart : ∀ i < total, ∀ j < total, i ≠ j → Disjoint (chunkBytes fileSize chunkSize i) (chunkBytes fileSize chunkSize j)
  covers : ⋃ i ∈ Set.Iio total, chunkBytes fileSize chunkSize i = Set.Ico 0 fileSize

section
variable {fileSize chunkSize i j total : Nat}

theorem chunkBytes_upto : i * chunkSize + chunkLen fileSize chunkSize i ≤ (i + 1) * chunkSize := by
  rw [Nat.succ_mul]
  exact Nat.add_le_add_left (Nat.min_le_left _ _) _

theorem chunkBytes_before (less : i < j) : Disjoint (chunkBytes fileSize chunkSize i) (chunkBytes fileSize chunkSize j) := by
  rw [Set.disjoint_left]
  intro byte first second
  have upto : i * chunkSize + chunkLen fileSize chunkSize i ≤ j * chunkSize :=
    chunkBytes_upto.trans (Nat.mul_le_mul_right chunkSize less)
  exact absurd (lt_of_lt_of_le first.2 (upto.trans second.1)) (lt_irrefl byte)

theorem chunkBytes_apart (other : i ≠ j) : Disjoint (chunkBytes fileSize chunkSize i) (chunkBytes fileSize chunkSize j) := by
  rcases Nat.lt_or_gt_of_ne other with less | more
  · exact chunkBytes_before less
  · exact (chunkBytes_before more).symm

/-- A byte of the file is in the chunk that its offset falls into. -/
theorem mem_chunkBytes {byte : Nat} (pos : 0 < chunkSize) (inside : byte < fileSize) : byte ∈ chunkBytes fileSize chunkSize (byte / chunkSize) := by
  have start := Nat.div_mul_le_self byte chunkSize
  have stop : byte < byte / chunkSize * chunkSize + chunkSize := Nat.lt_div_mul_add pos
  refine ⟨start,?_⟩
  unfold chunkLen
  omega

theorem div_lt_divCeil {byte : Nat} (pos : 0 < chunkSize) (inside : byte < fileSize) : byte / chunkSize < divCeil fileSize chunkSize := by
  by_contra past
  have upto := Nat.mul_le_mul_right chunkSize (Nat.not_lt.mp past)
  have whole := le_divCeil_mul fileSize pos
  have start := Nat.div_mul_le_self byte chunkSize
  omega

theorem exact_empty : Exact 0 chunkSize 1 where
  counted := rfl
  whole := rfl
  apart i below j below' other := absurd (by omega) other
  covers := by
    have none_ : ∀ i, chunkBytes 0 chunkSize i = ∅ := fun i => by simp [chunkBytes,chunkLen]
    simp [none_]

/-- A count that fits its machine integer is exact. -/
theorem exact_of_fits (some_ : fileSize ≠ 0) (pos : 0 < chunkSize) (fits : divCeil fileSize chunkSize < 2 ^ 32) :
    Exact fileSize chunkSize (divCeil fileSize chunkSize) := by
  have counted : computeChunks fileSize chunkSize = some (divCeil fileSize chunkSize) := by
    rw [computeChunks,if_neg some_,if_neg (Nat.pos_iff_ne_zero.mp pos),Nat.mod_eq_of_lt fits]
  refine ⟨counted,(if_neg some_).symm,fun i _ j _ other => chunkBytes_apart other,?_⟩
  have inside := (computeChunks_covers pos fits).inside
  rw [counted,Option.getD_some] at inside
  apply Set.Subset.antisymm
  · intro byte member
    obtain ⟨i,below,there⟩ := Set.mem_iUnion₂.mp member
    exact ⟨Nat.zero_le byte,lt_of_lt_of_le there.2 (inside i below)⟩
  · intro byte member
    exact Set.mem_iUnion₂.mpr ⟨byte / chunkSize,div_lt_divCeil pos member.2,mem_chunkBytes pos member.2⟩

/-- The chunks of an admitted transfer are exact exactly if the file is empty, or the chunk
    size is not zero and the number of chunks fits a `u32`. -/
theorem chunks_exact_iff {cfg : TransferConfig} (_ : Admits cfg fileSize chunkSize) :
    (∃ total, Exact fileSize chunkSize total) ↔ fileSize = 0 ∨ (0 < chunkSize ∧ divCeil fileSize chunkSize < 2 ^ 32) := by
  constructor
  · rintro ⟨total,exact_⟩
    by_cases empty : fileSize = 0
    · exact .inl empty
    · have counted := exact_.counted
      have whole := exact_.whole
      rw [if_neg empty] at whole
      subst whole
      by_cases zero : chunkSize = 0
      · rw [computeChunks,if_neg empty,if_pos zero] at counted
        cases counted
      · rw [computeChunks,if_neg empty,if_neg zero] at counted
        refine .inr ⟨Nat.pos_of_ne_zero zero,?_⟩
        rw [← Option.some.inj counted]
        exact Nat.mod_lt _ (by decide)
  · rintro (rfl | ⟨pos,fits⟩)
    · exact ⟨1,exact_empty⟩
    · by_cases empty : fileSize = 0
      · subst empty
        exact ⟨1,exact_empty⟩
      · exact ⟨_,exact_of_fits empty pos fits⟩

end

/-- A file of one byte. -/
def oneByte : Manager := ⟨∅,((Disk.empty fun _ => false).create ["b"] 0).1.update 0 fun f => { f with content := [65] }⟩

def oneBytePlan (chunkSize : Nat) : DownloadPlan := ⟨["b"],1,chunkSize,some 0⟩

theorem oneByte_checked (chunkSize : Option Nat) :
    initDownloadCheck (.new 4 1024 1024 60) (.calm 0 "") oneByte "/b" chunkSize = .ok (oneBytePlan (chunkSize.getD 1024)) := by
  rfl

theorem chunks_exact_oneByte : (∃ total, Exact 1 1024 total) ↔ 1 = 0 ∨ (0 < 1024 ∧ divCeil 1 1024 < 2 ^ 32) :=
  chunks_exact_iff (.download (.calm 0 "") oneByte "/b" (.http none nofun) (oneBytePlan 1024) (oneByte_checked none))

/-- A request for chunks of no bytes is admitted, and the division panics. -/
theorem zero_chunks_panic : ¬ ∀ (cfg : TransferConfig) (fileSize chunkSize : Nat), Admits cfg fileSize chunkSize →
    ∃ total, Exact fileSize chunkSize total := by
  intro all
  have zero : ∀ c ∈ some 0, c < 2 ^ 32 := by simp
  obtain ⟨total,exact_⟩ := all _ 1 0 (.download (.calm 0 "") oneByte "/b" (.http (some 0) zero) (oneBytePlan 0) (oneByte_checked (some 0)))
  cases exact_.counted

end Sctl.ChunkArithmetic
