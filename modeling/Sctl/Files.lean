import Mathlib.Data.List.Basic
import Mathlib.Logic.Function.Basic
import Mathlib.Data.UInt

/-!
Files as byte strings, and a disk that maps names to them. A write goes to an
offset of an open file and a rename moves a name, so a disk keeps names and
contents apart: a file that was opened stays the same file when its name is
moved, replaced or removed. Which paths are directories is fixed.
-/
namespace Sctl.Files

abbrev Bytes := List UInt8

/-! ### Byte strings -/

/-- The file after `payload` is written at `offset`. A gap before it reads as
    zeros, and a write of nothing does nothing. -/
def writeAt (content : Bytes) (offset : Nat) (payload : Bytes) : Bytes :=
  if payload = [] then content
  else (content ++ List.replicate (offset - content.length) 0).take offset ++ payload ++
    content.drop (offset + payload.length)

/-- The file cut or filled with zeros to a length. -/
def setLen (content : Bytes) (len : Nat) : Bytes :=
  (content ++ List.replicate (len - content.length) 0).take len

/-- The bytes of a range, as far as the file reaches. -/
def slice (content : Bytes) (offset len : Nat) : Bytes := (content.drop offset).take len

theorem setLen_length (content : Bytes) (len : Nat) : (setLen content len).length = len := by
  simp [setLen]; omega

theorem writeAt_inside {content : Bytes} {offset : Nat} {payload : Bytes}
    (inside : offset + payload.length ≤ content.length) :
    writeAt content offset payload = content.take offset ++ payload ++ content.drop (offset + payload.length) := by
  unfold writeAt
  split
  · next empty => subst empty; simp
  · have gap : offset - content.length = 0 := by omega
    simp [gap]

theorem writeAt_length {content : Bytes} {offset : Nat} {payload : Bytes}
    (inside : offset + payload.length ≤ content.length) : (writeAt content offset payload).length = content.length := by
  rw [writeAt_inside inside]
  simp; omega

theorem slice_length {content : Bytes} {offset len : Nat} (inside : offset + len ≤ content.length) :
    (slice content offset len).length = len := by
  simp [slice]; omega

theorem slice_min (content : Bytes) (offset len : Nat) :
    slice content offset (min len (content.length - offset)) = slice content offset len := by
  simp only [slice]
  rw [← List.length_drop,← List.take_take,List.take_length]

/-- A write reads back. -/
theorem slice_writeAt_same {content : Bytes} {offset : Nat} {payload : Bytes}
    (inside : offset + payload.length ≤ content.length) :
    slice (writeAt content offset payload) offset payload.length = payload := by
  rw [writeAt_inside inside,slice]
  have start : (content.take offset).length = offset := by simp; omega
  rw [List.append_assoc,List.drop_append_of_le_length (by omega),List.drop_of_length_le (by omega)]
  simp

/-- A write leaves every range it does not touch. -/
theorem slice_writeAt_apart {content : Bytes} {offset at_ len : Nat} {payload : Bytes}
    (inside : offset + payload.length ≤ content.length)
    (apart : at_ + len ≤ offset ∨ offset + payload.length ≤ at_) :
    slice (writeAt content offset payload) at_ len = slice content at_ len := by
  rw [writeAt_inside inside]
  apply List.ext_getElem?
  intro i
  simp only [slice,List.getElem?_take,List.getElem?_drop]
  split
  · next lt =>
    simp only [List.append_assoc,List.getElem?_append,List.length_take,List.getElem?_take,List.getElem?_drop]
    rcases apart with before | after
    · have low : at_ + i < offset := by omega
      rw [if_pos (by omega),if_pos low]
    · rw [if_neg (by omega),if_neg (by omega)]
      congr 1; omega
  · rfl

/-- Writing what is there changes nothing, and only that. -/
theorem writeAt_eq_self_iff (content : Bytes) (offset : Nat) (payload : Bytes) :
    writeAt content offset payload = content ↔ slice content offset payload.length = payload := by
  by_cases inside : offset + payload.length ≤ content.length
  · constructor
    · intro same
      have back := slice_writeAt_same inside
      rwa [same] at back
    · intro there
      rw [writeAt_inside inside]
      conv_lhs => rw [← there]
      simp only [slice,List.length_take,List.length_drop]
      rw [List.append_assoc,Nat.min_eq_left (by omega),← List.drop_drop,List.take_append_drop,List.take_append_drop]
  · by_cases empty : payload = []
    · subst empty; simp [writeAt,slice]
    · -- the write makes the file longer, and the range ends beyond the file
      have pos : 0 < payload.length := List.length_pos_iff.mpr empty
      constructor
      · intro same
        have length := congrArg List.length same
        simp [writeAt,empty] at length
        omega
      · intro there
        have length := congrArg List.length there
        simp [slice] at length
        omega

/-- A file is the concatenation of its consecutive pieces. -/
theorem flatMap_slices (content : Bytes) (size : Nat) : ∀ (count : Nat), content.length ≤ count * size →
    (List.range count).flatMap (fun i => slice content (i * size) size) = content := by
  intro count
  induction count generalizing content with
  | zero => intro bound; simp at bound; simp [bound]
  | succ n ih =>
    intro bound
    have rest := ih (content.drop size) (by simp; rw [Nat.succ_mul] at bound; omega)
    rw [List.range_succ_eq_map,List.flatMap_cons,List.flatMap_map]
    have shifted : ∀ i, slice content ((i + 1) * size) size = slice (content.drop size) (i * size) size := by
      intro i
      simp only [slice,List.drop_drop]
      rw [Nat.succ_mul,Nat.add_comm]
    simp only [shifted,rest]
    simp [slice]

/-! ### Disks -/

structure File where
  content : Bytes
  /-- Seconds since the epoch of the last change. -/
  mtime : Nat
  /-- Permission bits, once they were set. -/
  mode : Option Nat
deriving DecidableEq

/-- Names lead to files; `bounded` says that a file with a name has a number
    below `next`, so that `next` is always free. -/
structure Disk (Path : Type) where
  names : Path → Option Nat
  files : Nat → File
  next : Nat
  dirs : Path → Bool
  bounded : ∀ p ino, names p = some ino → ino < next

namespace Disk
variable {Path : Type} [DecidableEq Path]

/-- A disk with no file. -/
def empty (dirs : Path → Bool) : Disk Path where
  names _ := none
  files _ := ⟨[],0,none⟩
  next := 0
  dirs := dirs
  bounded := by simp

/-- The file at a path. -/
def file? (d : Disk Path) (p : Path) : Option File := (d.names p).map d.files

/-- The file open under a number changed in place. -/
def update (d : Disk Path) (ino : Nat) (f : File → File) : Disk Path :=
  { d with files := Function.update d.files ino (f (d.files ino)) }

/-- Create a file, or cut the one that has the name to nothing. -/
def create (d : Disk Path) (p : Path) (now : Nat) : Disk Path × Nat :=
  match d.names p with
  | some ino => (d.update ino fun f => { f with content := [], mtime := now },ino)
  | none => ({ d with
      names := Function.update d.names p (some d.next)
      files := Function.update d.files d.next ⟨[],now,none⟩
      next := d.next + 1
      bounded := by
        intro q ino there
        by_cases same : q = p
        · subst same; simp at there; omega
        · simp [same] at there
          exact Nat.lt_succ_of_lt (d.bounded q ino there) },d.next)

/-- The name removed; the file stays for those who have it open. -/
def remove (d : Disk Path) (p : Path) : Disk Path :=
  { d with
    names := Function.update d.names p none
    bounded := by
      intro q ino there
      by_cases same : q = p
      · subst same; simp at there
      · simp [same] at there; exact d.bounded q ino there }

/-- The name `source` moved over `target`, replacing what was there. A missing
    source and a directory as target are errors; two names of one file are
    left as they are. -/
def rename (d : Disk Path) (source target : Path) : Option (Disk Path) :=
  match at_source : d.names source with
  | none => none
  | some ino =>
    if d.dirs target then none
    else if d.names target = some ino then some d
    else some { d with
      names := Function.update (Function.update d.names target (some ino)) source none
      bounded := by
        intro q i there
        by_cases first : q = source
        · subst first; simp at there
        · by_cases second : q = target
          · subst second; simp [first] at there; subst there; exact d.bounded _ _ at_source
          · simp [first,second] at there; exact d.bounded q i there }

/-- A new name gets a new file. -/
theorem create_new {d : Disk Path} {p : Path} (now : Nat) (missing : d.names p = none) :
    (d.create p now).2 = d.next ∧ (d.create p now).1.next = d.next + 1 ∧
      (d.create p now).1.names = Function.update d.names p (some d.next) ∧
      (d.create p now).1.files = Function.update d.files d.next ⟨[],now,none⟩ := by
  unfold create
  split
  · next there => rw [missing] at there; cases there
  · exact ⟨rfl,rfl,rfl,rfl⟩

/-- What was created is empty under its name. -/
theorem create_opens (d : Disk Path) (p : Path) (now : Nat) :
    (d.create p now).1.names p = some (d.create p now).2 ∧ ((d.create p now).1.files (d.create p now).2).content = [] := by
  unfold create
  split
  · next ino there => simp [update,there]
  · simp

/-- What a rename does: the file of the source is at the target, and no other
    name leads anywhere new. -/
theorem rename_moves {d e : Disk Path} {source target : Path} (renamed : d.rename source target = some e) :
    ∃ ino, d.names source = some ino ∧ e.names target = some ino ∧ e.files = d.files ∧ e.next = d.next ∧
      ∀ p, p ≠ target → e.names p = d.names p ∨ e.names p = none := by
  unfold rename at renamed
  split at renamed
  · cases renamed
  · next ino there =>
    split_ifs at renamed with plain same
    · cases renamed; exact ⟨ino,there,same,rfl,rfl,fun _ _ => .inl rfl⟩
    · cases renamed
      have apart : target ≠ source := fun at_ => same (at_ ▸ there)
      refine ⟨ino,there,by simp [apart],rfl,rfl,?_⟩
      intro p other
      by_cases moved : p = source
      · subst moved; exact .inr (Function.update_self ..)
      · exact .inl (by simp [moved,other])

theorem rename_succeeds {d : Disk Path} {source target : Path} {ino : Nat} (there : d.names source = some ino)
    (plain : d.dirs target = false) : ∃ after, d.rename source target = some after := by
  unfold rename
  split
  · next missing => rw [there] at missing; cases missing
  · next other _ =>
    by_cases same : d.names target = some other
    · exact ⟨d,by simp [plain,same]⟩
    · simp [plain,same]

end Disk
end Sctl.Files
