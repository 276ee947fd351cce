import Mathlib.Data.Set.Basic
import Sctl.Files

/-!
A program's own paths on a disk, next to paths that others read. While no file is both, what
the program does to its own files is not seen; by a rename one of them comes to be read,
whole, and whoever had the file before it open keeps what he had.
-/
namespace Sctl.PrivatePaths
open Files
variable {Path : Type}

/-- The file has one of the names, or somebody has it open. -/
def Taken (d : Disk Path) (paths : Set Path) (opened : Set Nat) (ino : Nat) : Prop :=
  (∃ p ∈ paths, d.names p = some ino) ∨ ino ∈ opened

/-- No file of an own path has another name among the own and the shared ones, nor is it open. -/
structure Shelf (d : Disk Path) (own shared : Set Path) (opened : Set Nat) : Prop where
  unshared : ∀ p ∈ own, p ∉ shared
  single : ∀ p ∈ own, ∀ q, q ∈ own ∨ q ∈ shared → ∀ ino, d.names p = some ino → d.names q = some ino → q = p
  unseen : ∀ p ∈ own, ∀ ino, d.names p = some ino → ino ∉ opened
  bounded : ∀ ino ∈ opened, ino < d.next

/-- The paths name the same files with the same contents, and the open files are as they were. -/
structure Same (d e : Disk Path) (paths : Set Path) (opened : Set Nat) : Prop where
  names : ∀ p ∈ paths, e.names p = d.names p
  files : ∀ p ∈ paths, ∀ ino, d.names p = some ino → e.files ino = d.files ino
  opened : ∀ ino ∈ opened, e.files ino = d.files ino

theorem Same.refl (d : Disk Path) (paths : Set Path) (opened : Set Nat) : Same d d paths opened :=
  ⟨fun _ _ => rfl,fun _ _ _ _ => rfl,fun _ _ => rfl⟩

theorem Same.file? {d e : Disk Path} {paths : Set Path} {opened : Set Nat} (same : Same d e paths opened) {p : Path}
    (member : p ∈ paths) : e.file? p = d.file? p := by
  unfold Disk.file?
  rw [same.names p member]
  cases named : d.names p with
  | none => rfl
  | some ino => exact congrArg some (same.files p member ino named)

theorem Same.mono {d e : Disk Path} {paths fewer : Set Path} {opened : Set Nat} (same : Same d e paths opened)
    (inside : fewer ⊆ paths) : Same d e fewer opened :=
  ⟨fun p member => same.names p (inside member),fun p member => same.files p (inside member),same.opened⟩

namespace Shelf
variable {d e : Disk Path} {own own' shared : Set Path} {opened : Set Nat} {p q : Path} {ino : Nat}

/-- Paths come to be read that no own path shares a file with. -/
theorem share (shelf : Shelf d own shared opened) {more : Set Path}
    (free : ∀ q ∈ more, ∀ p ∈ own, p ≠ q ∧ (d.names p = none ∨ d.names p ≠ d.names q)) :
    Shelf d own (more ∪ shared) opened where
  unshared p member := by
    rintro (new | old)
    · exact (free p new p member).1 rfl
    · exact shelf.unshared p member old
  single p member q other ino named named' := by
    rcases other with inside | new | old
    · exact shelf.single p member q (.inl inside) ino named named'
    · rcases (free q new p member).2 with missing | differ
      · rw [missing] at named; cases named
      · exact absurd (named.trans named'.symm) differ
    · exact shelf.single p member q (.inr old) ino named named'
  unseen := shelf.unseen
  bounded := shelf.bounded

/-- Somebody opens a shared path. -/
theorem open_ (shelf : Shelf d own shared opened) (member : q ∈ shared) (named : d.names q = some ino) :
    Shelf d own shared (insert ino opened) where
  unshared := shelf.unshared
  single := shelf.single
  unseen p inside k there := by
    rintro (new | old)
    · subst new
      have at_ := shelf.single p inside q (.inr member) k there named
      exact shelf.unshared p inside (at_ ▸ member)
    · exact shelf.unseen p inside k there old
  bounded k inside := by
    rcases inside with new | old
    · subst new; exact d.bounded q k named
    · exact shelf.bounded k old

/-- An own file is changed in place. -/
theorem update (shelf : Shelf d own shared opened) (member : p ∈ own) (named : d.names p = some ino) (f : File → File) :
    Shelf (d.update ino f) own shared opened ∧ Same d (d.update ino f) (own \ {p} ∪ shared) opened := by
  have elsewhere : ∀ k, k ≠ ino → (d.update ino f).files k = d.files k := fun k apart => by
    simp [Disk.update,apart]
  refine ⟨⟨shelf.unshared,shelf.single,shelf.unseen,shelf.bounded⟩,fun _ _ => rfl,?_,?_⟩
  · rintro q inside k there
    apply elsewhere
    rintro rfl
    rcases inside with ⟨other,apart⟩ | read
    · exact apart (shelf.single p member q (.inl other) k named there)
    · exact shelf.unshared p member (shelf.single p member q (.inr read) k named there ▸ read)
  · intro k inside
    apply elsewhere
    rintro rfl
    exact shelf.unseen p member k named inside

/-- A file that nobody holds comes to be the program's own. -/
theorem take (shelf : Shelf d own shared opened) (unshared : p ∉ shared) (named : d.names p = some ino)
    (free : ¬ Taken d (own ∪ shared) opened ino) : Shelf d (insert p own) shared opened := by
  refine ⟨?_,?_,?_,shelf.bounded⟩
  · rintro q (rfl | old)
    · exact unshared
    · exact shelf.unshared q old
  · rintro q (rfl | old) r (inside | read) k there there'
    · rcases inside with rfl | inside
      · rfl
      · cases named.symm.trans there
        exact absurd (.inl ⟨r,.inl inside,there'⟩) free
    · cases named.symm.trans there
      exact absurd (.inl ⟨r,.inr read,there'⟩) free
    · rcases inside with rfl | inside
      · cases named.symm.trans there'
        exact absurd (.inl ⟨q,.inl old,there⟩) free
      · exact shelf.single q old r (.inl inside) k there there'
    · exact shelf.single q old r (.inr read) k there there'
  · rintro q (rfl | old) k there
    · cases named.symm.trans there
      exact fun inside => free (.inr inside)
    · exact shelf.unseen q old k there

variable [DecidableEq Path]

/-- A new file comes to be the program's own. -/
theorem create_anew (shelf : Shelf d own shared opened) (now : Nat) (unshared : p ∉ shared) (missing : d.names p = none) :
    Shelf (d.create p now).1 (insert p own) shared opened ∧ Same d (d.create p now).1 (own \ {p} ∪ shared) opened ∧
      ∀ q, q ≠ p → (d.create p now).1.names q = d.names q := by
  obtain ⟨number,next,names,files⟩ := Disk.create_new now missing
  have elsewhere : ∀ q, q ≠ p → (d.create p now).1.names q = d.names q := fun q apart => by
    rw [names,Function.update_of_ne apart]
  have here : (d.create p now).1.names p = some d.next := by rw [names,Function.update_self]
  have fresh : ∀ q, d.names q ≠ some d.next := fun q there => Nat.lt_irrefl _ (d.bounded q _ there)
  refine ⟨⟨?_,?_,?_,?_⟩,⟨?_,?_,?_⟩,elsewhere⟩
  · rintro q (rfl | old)
    · exact unshared
    · exact shelf.unshared q old
  · intro q inside r other k there there'
    by_cases first : q = p <;> by_cases second : r = p
    · exact second.trans first.symm
    · subst first
      cases here.symm.trans there
      rw [elsewhere r second] at there'
      exact absurd there' (fresh r)
    · subst second
      cases here.symm.trans there'
      rw [elsewhere q first] at there
      exact absurd there (fresh q)
    · rw [elsewhere q first] at there
      rw [elsewhere r second] at there'
      have inside' : q ∈ own := inside.resolve_left first
      exact shelf.single q inside' r (other.imp_left fun member => member.resolve_left second) k there there'
  · intro q inside k there opened'
    by_cases first : q = p
    · subst first
      cases here.symm.trans there
      exact Nat.lt_irrefl _ (shelf.bounded _ opened')
    · rw [elsewhere q first] at there
      exact shelf.unseen q (inside.resolve_left first) k there opened'
  · intro k inside
    have below := shelf.bounded k inside
    omega
  · rintro q (⟨_,apart⟩ | read)
    · exact elsewhere q apart
    · exact elsewhere q fun at_ => unshared (at_ ▸ read)
  · intro q _ k there
    have apart : k ≠ d.next := fun at_ => fresh q (at_ ▸ there)
    rw [files,Function.update_of_ne apart]
  · intro k inside
    have apart : k ≠ d.next := fun at_ => Nat.lt_irrefl _ (at_ ▸ shelf.bounded k inside)
    rw [files,Function.update_of_ne apart]

/-- A path comes to be the program's own: its file is created, or one that nobody holds is cut. -/
theorem create (shelf : Shelf d own shared opened) (now : Nat) (unshared : p ∉ shared)
    (untaken : ∀ ino, d.names p = some ino → ¬ Taken d (own ∪ shared) opened ino) :
    Shelf (d.create p now).1 (insert p own) shared opened ∧ Same d (d.create p now).1 (own \ {p} ∪ shared) opened ∧
      ∀ q, q ≠ p → (d.create p now).1.names q = d.names q := by
  cases named : d.names p with
  | none => exact shelf.create_anew now unshared named
  | some ino =>
    have cut : (d.create p now).1 = d.update ino fun f => { f with content := [], mtime := now } := by
      unfold Disk.create
      split
      · next k there => cases named.symm.trans there; rfl
      · next missing => rw [named] at missing; cases missing
    have owned := shelf.take unshared named (untaken ino named)
    obtain ⟨kept,same⟩ := owned.update (Set.mem_insert p own) named fun f => { f with content := [], mtime := now }
    rw [cut]
    refine ⟨kept,⟨fun _ _ => rfl,?_,same.opened⟩,fun _ _ => rfl⟩
    rintro q (⟨old,apart⟩ | read)
    · exact same.files q (.inl ⟨Set.mem_insert_of_mem p old,apart⟩)
    · exact same.files q (.inr read)

/-- An own path is removed. -/
theorem remove (shelf : Shelf d own shared opened) (member : p ∈ own) :
    Shelf (d.remove p) (own \ {p}) shared opened ∧ Same d (d.remove p) (own \ {p} ∪ shared) opened ∧
      (d.remove p).names p = none ∧ ∀ q, q ≠ p → (d.remove p).names q = d.names q := by
  have elsewhere : ∀ q, q ≠ p → (d.remove p).names q = d.names q := fun q apart => Function.update_of_ne apart ..
  have here : (d.remove p).names p = none := Function.update_self ..
  refine ⟨⟨?_,?_,?_,shelf.bounded⟩,⟨?_,fun _ _ _ _ => rfl,fun _ _ => rfl⟩,here,elsewhere⟩
  · exact fun q inside => shelf.unshared q inside.1
  · intro q inside r other k there there'
    have apart : r ≠ p := by rintro rfl; rw [here] at there'; cases there'
    rw [elsewhere q inside.2] at there
    rw [elsewhere r apart] at there'
    exact shelf.single q inside.1 r (other.imp_left And.left) k there there'
  · intro q inside k there
    rw [elsewhere q inside.2] at there
    exact shelf.unseen q inside.1 k there
  · rintro q (inside | read)
    · exact elsewhere q inside.2
    · exact elsewhere q fun at_ => shelf.unshared p member (at_ ▸ read)

/-- An own file is moved onto a shared path; nobody sees anything else change. -/
theorem rename (shelf : Shelf d own shared opened) (member : p ∈ own) (read : q ∈ shared)
    (renamed : d.rename p q = some e) :
    Shelf e (own \ {p}) shared opened ∧ Same d e (own \ {p} ∪ shared \ {q}) opened ∧ e.files = d.files ∧
      e.names p = none ∧ e.names q = d.names p ∧ ∃ ino, d.names p = some ino := by
  unfold Disk.rename at renamed
  split at renamed
  · cases renamed
  · next ino named =>
    split_ifs at renamed with plain same
    · -- two names of one file: the shared path would be the own one
      exact absurd read (shelf.single p member q (.inr read) ino named same ▸ shelf.unshared p member)
    · cases renamed
      have apart : q ≠ p := fun at_ => shelf.unshared p member (at_ ▸ read)
      have elsewhere : ∀ r, r ≠ p → r ≠ q →
          Function.update (Function.update d.names q (some ino)) p none r = d.names r := by
        intro r first second
        rw [Function.update_of_ne first,Function.update_of_ne second]
      have there : Function.update (Function.update d.names q (some ino)) p none q = some ino := by
        rw [Function.update_of_ne apart,Function.update_self]
      have own_ne : ∀ r ∈ own, r ≠ q := fun r inside at_ => shelf.unshared r inside (at_ ▸ read)
      refine ⟨⟨?_,?_,?_,shelf.bounded⟩,⟨?_,fun _ _ _ _ => rfl,fun _ _ => rfl⟩,rfl,Function.update_self ..,
        there.trans named.symm,ino,named⟩
      · exact fun r inside => shelf.unshared r inside.1
      · intro r inside t other k at_r at_t
        replace at_r := (elsewhere r inside.2 (own_ne r inside.1)).symm.trans at_r
        by_cases moved : t = q
        · subst moved
          cases there.symm.trans at_t
          exact absurd (shelf.single p member r (.inl inside.1) ino named at_r) inside.2
        · have stays : t ≠ p := by
            rintro rfl
            cases (Function.update_self ..).symm.trans at_t
          replace at_t := (elsewhere t stays moved).symm.trans at_t
          exact shelf.single r inside.1 t (other.imp_left And.left) k at_r at_t
      · intro r inside k at_r
        exact shelf.unseen r inside.1 k ((elsewhere r inside.2 (own_ne r inside.1)).symm.trans at_r)
      · rintro r (inside | read')
        · exact elsewhere r inside.2 (own_ne r inside.1)
        · exact elsewhere r (fun at_ => shelf.unshared p member (at_ ▸ read'.1)) read'.2

end Shelf
end Sctl.PrivatePaths
