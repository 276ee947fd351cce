import Sctl.PrivatePaths
import Sctl.Runs
import Sctl.Tables
import Sctl.Texts

/-!
Requests that write files (`server/src/routes/files.rs`): `put_file` and `upload_file` write
to a temporary file and rename it onto the target (`rename_temp_to_final`). A step here is
one operation on the disk, so that requests interleave at every await. A cleanup that is
spawned runs at any later time; removing a file does not fail.
-/
namespace Sctl.FileWrites
open Runs Files PrivatePaths

abbrev Text := List Char

structure PathBuf where
  parent : Text
  name : Text
deriving DecidableEq

/-- The server's own process and its configured limit. -/
structure Server where
  pid : Nat
  maxFileSize : Nat

/-- One file that a request writes. -/
structure Job where
  target : PathBuf
  bytes : Bytes
  mode : Option Text

/-- What the request does next for the first of its jobs. -/
inductive Pc
  /-- `create_dir_all`. -/
  | mkdir
  /-- Draw a number for the temporary file, or give up before. -/
  | draw
  /-- `fs::write` creates the file. -/
  | create (temp : PathBuf)
  /-- `fs::write` has written some bytes. -/
  | writing (temp : PathBuf) (ino written : Nat)
  /-- Parse and set the mode. -/
  | permit (temp : PathBuf)
  | rename (temp : PathBuf)
  /-- `remove_file`, awaited. -/
  | remove (temp : PathBuf)
  | ended

/-- A request with the files that it has still to write, an upload's perhaps more than one. -/
structure Request where
  jobs : List Job
  pc : Pc

/-- What a reader sees of a file, and its permissions. -/
def seen (f : File) : Bytes × Option Nat := (f.content,f.mode)

structure Reader where
  ino : Nat
  found : Bytes × Option Nat

structure State where
  disk : Disk PathBuf
  writeCounter : Nat
  requests : List Request
  /-- The files that a spawned task is to remove. -/
  cleanups : List PathBuf
  /-- The targets of all requests so far. -/
  targets : List PathBuf
  /-- The temporary files that requests have created so far. -/
  created : List PathBuf
  /-- What a target had when its first request came in, or what the last rename onto it was to bring. -/
  landed : PathBuf → Option (Bytes × Option Nat)
  /-- The files of targets that readers have opened, as they were then. -/
  readers : List Reader

def start (disk : Disk PathBuf) : State := ⟨disk,0,[],[],[],[],fun _ => none,[]⟩

/-- `.sctl_tmp_{pid}_{seq}` in the directory. -/
def tempPath (server : Server) (parent : Text) (seq : Nat) : PathBuf :=
  ⟨parent,".sctl_tmp_".toList ++ (Nat.toDigits 10 server.pid ++ '_' :: Nat.toDigits 10 seq)⟩

/-- The name of an uploaded file does not lead out of the directory. -/
def plainName (name : Text) : Bool := !(name.contains '/' || name.contains '\\' || name == ['.','.'])

/-- The files that `upload_file` writes if nothing fails: fields without a file name are passed over,
    and at a bad name or a file that is too large the request ends. -/
def uploadJobs (server : Server) (dir : Text) (fields : List (Option Text × Bytes)) : List Job :=
  let files := fields.filterMap fun field => field.1.map fun name => (name,field.2)
  let accepted := files.takeWhile fun file => plainName file.1 && file.2.length ≤ server.maxFileSize
  accepted.map fun file => ⟨⟨dir,file.1⟩,file.2,none⟩

/-- The mode that was asked for, if it parses. -/
def Job.bits (job : Job) : Option Nat := job.mode.bind (Texts.fromStrRadix 8 (2 ^ 32))

inductive Action
  /-- A request comes in; invalid base64 is no content. -/
  | putFile (path : PathBuf) (content : Option Bytes) (mode : Option Text) (createDirs : Bool)
  | uploadFile (dir : Text) (fields : List (Option Text × Bytes))
  | mkdir (i : Nat) (ok : Bool)
  | draw (i : Nat)
  /-- The next field of an upload does not come in. -/
  | refuse (i : Nat)
  | create (i now : Nat) (ok : Bool)
  | write (i now count : Nat)
  | writeFails (i : Nat)
  | finish (i : Nat)
  | permit (i : Nat) (ok : Bool)
  | remove (i : Nat)
  | rename (i : Nat) (ok : Bool)
  | cleanup (temp : PathBuf)
  | read (path : PathBuf)

def State.put (s : State) (i : Nat) (jobs : List Job) (pc : Pc) : State := { s with requests := s.requests.set i ⟨jobs,pc⟩ }

/-- The request spawns the removal and ends. -/
def State.spawnCleanup (s : State) (i : Nat) (jobs : List Job) (temp : PathBuf) : State :=
  { s.put i jobs .ended with cleanups := temp :: s.cleanups }

/-- A request comes in with its jobs. -/
def State.accept (s : State) (jobs : List Job) (pc : Pc) : State :=
  { s with
    requests := s.requests ++ [⟨jobs,pc⟩]
    targets := jobs.map Job.target ++ s.targets
    landed := fun p => if p ∈ s.targets then s.landed p else (s.disk.file? p).map seen }

def step (server : Server) (s : State) : Action → Option State
  | .putFile path content mode createDirs =>
    match content with
    | none => some s
    | some bytes =>
      if server.maxFileSize < bytes.length then some s
      else some (s.accept [⟨path,bytes,mode⟩] (if createDirs then .mkdir else .draw))
  | .uploadFile dir fields => some (s.accept (uploadJobs server dir fields) .draw)
  | .mkdir i ok =>
    match s.requests[i]? with
    | some ⟨jobs,.mkdir⟩ => some (s.put i jobs (if ok then .draw else .ended))
    | _ => none
  | .draw i =>
    match s.requests[i]? with
    | some ⟨job :: jobs,.draw⟩ =>
      let temp := tempPath server job.target.parent s.writeCounter
      some { s.put i (job :: jobs) (.create temp) with writeCounter := (s.writeCounter + 1) % 2 ^ 64 }
    | _ => none
  | .refuse i =>
    match s.requests[i]? with
    | some ⟨jobs,.draw⟩ => some (s.put i jobs .ended)
    | _ => none
  | .create i now ok =>
    match s.requests[i]? with
    | some ⟨jobs,.create temp⟩ =>
      if ok then
        some { s.put i jobs (.writing temp (s.disk.create temp now).2 0) with
          disk := (s.disk.create temp now).1, created := temp :: s.created }
      else some (s.put i jobs .ended)
    | _ => none
  | .write i now count =>
    match s.requests[i]? with
    | some ⟨job :: jobs,.writing temp ino written⟩ =>
      if written + count ≤ job.bytes.length then
        some { s.put i (job :: jobs) (.writing temp ino (written + count)) with
          disk := s.disk.update ino fun f => { f with content := f.content ++ slice job.bytes written count, mtime := now } }
      else none
    | _ => none
  | .writeFails i =>
    match s.requests[i]? with
    | some ⟨jobs,.writing _ _ _⟩ => some (s.put i jobs .ended)
    | _ => none
  | .finish i =>
    match s.requests[i]? with
    | some ⟨job :: jobs,.writing temp _ written⟩ =>
      if written = job.bytes.length then
        some (s.put i (job :: jobs) (if job.mode.isSome then .permit temp else .rename temp))
      else none
    | _ => none
  | .permit i ok =>
    match s.requests[i]? with
    | some ⟨job :: jobs,.permit temp⟩ =>
      match job.bits with
      | none => some (s.spawnCleanup i (job :: jobs) temp)
      | some bits =>
        match s.disk.names temp,ok with
        | some ino,true =>
          some { s.put i (job :: jobs) (.rename temp) with disk := s.disk.update ino fun f => { f with mode := some bits } }
        | _,_ => some (s.put i (job :: jobs) (.remove temp))
    | _ => none
  | .remove i =>
    match s.requests[i]? with
    | some ⟨jobs,.remove temp⟩ => some { s.put i jobs .ended with disk := s.disk.remove temp }
    | _ => none
  | .rename i ok =>
    match s.requests[i]? with
    | some ⟨job :: jobs,.rename temp⟩ =>
      match s.disk.rename temp job.target,ok with
      | some disk,true =>
        some { s.put i jobs .draw with
          disk
          landed := Function.update s.landed job.target ((s.disk.file? temp).map fun f => (job.bytes,job.bits.or f.mode)) }
      | _,_ => some (s.spawnCleanup i (job :: jobs) temp)
    | _ => none
  | .cleanup temp =>
    if temp ∈ s.cleanups then some { s with cleanups := s.cleanups.erase temp, disk := s.disk.remove temp } else none
  | .read path =>
    match s.disk.names path with
    | some ino => if path ∈ s.targets then some { s with readers := ⟨ino,seen (s.disk.files ino)⟩ :: s.readers } else none
    | none => none

/-! ### What the writes promise -/

def Pc.temp : Pc → Option PathBuf
  | .create temp | .writing temp _ _ | .permit temp | .rename temp | .remove temp => some temp
  | _ => none

/-- The temporary path, once the request has created its file. -/
def Pc.opened : Pc → Option PathBuf
  | .create _ => none
  | pc => pc.temp

/-- The temporary files of requests that go on and those still to be removed. -/
def State.inUse (s : State) : List PathBuf := s.requests.filterMap (fun r => r.pc.opened) ++ s.cleanups

/-- The paths whose files are not to be written by anybody else. -/
def State.held (s : State) : Set PathBuf := {p | p ∈ s.inUse ++ s.targets}

/-- The files that readers have open. -/
def State.opened (s : State) : Set Nat := {ino | ino ∈ s.readers.map Reader.ino}

/-- Targets change by whole renames only, whoever reads one sees one file throughout, temporary
    paths are not shared, and none is left once its request has ended and the cleanups have run. -/
structure Atomic (s : State) : Prop where
  whole : ∀ p ∈ s.targets, (s.disk.file? p).map seen = s.landed p
  steady : ∀ r ∈ s.readers, seen (s.disk.files r.ino) = r.found
  apart : ∀ (i j : Nat) (ri rj : Request) temp, s.requests[i]? = some ri → s.requests[j]? = some rj → ri.pc.temp = some temp →
    rj.pc.temp = some temp → i = j
  cleaned : ∀ p ∈ s.created, p ∉ s.inUse → p ∉ s.targets → s.disk.names p = none

/-- The path may become a target: it is no temporary file in use, nor another name of one. -/
def Free (s : State) (p : PathBuf) : Prop :=
  ∀ temp ∈ s.inUse, temp ≠ p ∧ (s.disk.names temp = none ∨ s.disk.names temp ≠ s.disk.names p)

/-- No write fails once its file is created, the counter does not wrap around, and temporary files
    and targets do not meet: no request comes in for a temporary file in use, and a request creates
    its own neither at a target nor over a file that is a target's, in use or open. -/
def Safe (server : Server) (s : State) : Action → Prop
  | .putFile path content _ _ => ∀ bytes, content = some bytes → bytes.length ≤ server.maxFileSize → Free s path
  | .uploadFile dir fields => ∀ job ∈ uploadJobs server dir fields, Free s job.target
  | .draw _ => s.writeCounter + 1 < 2 ^ 64
  | .create i _ true => ∀ jobs temp, s.requests[i]? = some ⟨jobs,.create temp⟩ →
      temp ∉ s.targets ∧ ∀ ino, s.disk.names temp = some ino → ¬ Taken s.disk s.held s.opened ino
  | .writeFails _ => False
  | _ => True

/-! ### Temporary paths are numbered -/

theorem tempPath_injective {server : Server} {dir dir' : Text} {m n : Nat} (small : m < 2 ^ 64) (small' : n < 2 ^ 64)
    (same : tempPath server dir m = tempPath server dir' n) : m = n := by
  have names := congrArg PathBuf.name same
  simp only [tempPath,List.append_cancel_left_eq,List.cons.injEq,true_and] at names
  have read := Texts.readDigits_decimal small
  rw [names,Texts.readDigits_decimal small'] at read
  exact (Option.some.inj read).symm

/-- The path has a number that was drawn already. -/
def Drawn (server : Server) (counter : Nat) (p : PathBuf) : Prop := ∃ dir n, n < counter ∧ p = tempPath server dir n

theorem Drawn.not_next {server : Server} {counter : Nat} (small : counter < 2 ^ 64) {dir : Text} :
    ¬ Drawn server counter (tempPath server dir counter) := by
  rintro ⟨dir',n,below,same⟩
  have equal := tempPath_injective small (below.trans small) same
  omega

/-- Every temporary path has a number of its own, and one that is to be removed is no request's. -/
structure Numbered (server : Server) (counter : Nat) (requests : List Request) (cleanups : List PathBuf) : Prop where
  bounded : counter < 2 ^ 64
  drawn : ∀ r ∈ requests, ∀ p, r.pc.temp = some p → Drawn server counter p
  apart : ∀ (i j : Nat) (ri rj : Request) temp, requests[i]? = some ri → requests[j]? = some rj → ri.pc.temp = some temp →
    rj.pc.temp = some temp → i = j
  spawned : ∀ p ∈ cleanups, Drawn server counter p ∧ ∀ r ∈ requests, r.pc.temp ≠ some p
  once : cleanups.Nodup

theorem Pc.temp_of_opened {pc : Pc} {p : PathBuf} (opened : pc.opened = some p) : pc.temp = some p := by
  cases pc <;> first | exact opened | cases opened

theorem set_cases {requests : List Request} {i j : Nat} {r' other : Request} (at_ : (requests.set i r')[j]? = some other) :
    j = i ∧ other = r' ∨ j ≠ i ∧ requests[j]? = some other := by
  by_cases same : i = j
  · subst same
    have inside : i < requests.length := by
      have below := (List.getElem?_eq_some_iff.mp at_).1
      simpa using below
    rw [List.getElem?_set_self inside] at at_
    exact .inl ⟨rfl,(Option.some.inj at_).symm⟩
  · rw [List.getElem?_set_ne same] at at_
    exact .inr ⟨Ne.symm same,at_⟩

theorem mem_set_iff {requests : List Request} {i : Nat} {r r' other : Request} (found : requests[i]? = some r) :
    other ∈ requests.set i r' ↔ other = r' ∨ ∃ j, j ≠ i ∧ requests[j]? = some other := by
  constructor
  · intro member
    obtain ⟨j,at_⟩ := List.mem_iff_getElem?.mp member
    rcases set_cases at_ with ⟨_,same⟩ | ⟨differ,old⟩
    · exact .inl same
    · exact .inr ⟨j,differ,old⟩
  · rintro (rfl | ⟨j,differ,at_⟩)
    · exact List.mem_set (List.getElem?_eq_some_iff.mp found).1 other
    · refine List.mem_iff_getElem?.mpr ⟨j,?_⟩
      rw [List.getElem?_set_ne (Ne.symm differ)]
      exact at_

namespace Numbered
variable {server : Server} {counter : Nat} {requests : List Request} {cleanups : List PathBuf} {i : Nat} {r q : Request}

/-- A request that moves on keeps its number, takes one that nobody has, or has none. -/
theorem set (numbered : Numbered server counter requests cleanups) (found : requests[i]? = some r)
    (own : ∀ p, q.pc.temp = some p → Drawn server counter p ∧ p ∉ cleanups ∧
      ∀ (j : Nat) (other : Request), j ≠ i → requests[j]? = some other → other.pc.temp ≠ some p) :
    Numbered server counter (requests.set i q) cleanups where
  bounded := numbered.bounded
  drawn other member p there := by
    rcases (mem_set_iff found).mp member with rfl | ⟨j,_,at_⟩
    · exact (own p there).1
    · exact numbered.drawn other (List.mem_of_getElem? at_) p there
  apart j k rj rk p at_j at_k temp_j temp_k := by
    rcases set_cases at_j with ⟨rfl,rfl⟩ | ⟨first,old_j⟩ <;> rcases set_cases at_k with ⟨rfl,rfl⟩ | ⟨second,old_k⟩
    · rfl
    · exact absurd temp_k ((own p temp_j).2.2 k rk second old_k)
    · exact absurd temp_j ((own p temp_k).2.2 j rj first old_j)
    · exact numbered.apart j k rj rk p old_j old_k temp_j temp_k
  spawned p member := by
    refine ⟨(numbered.spawned p member).1,?_⟩
    intro other inside there
    rcases (mem_set_iff found).mp inside with rfl | ⟨j,_,at_⟩
    · exact (own p there).2.1 member
    · exact (numbered.spawned p member).2 other (List.mem_of_getElem? at_) there
  once := numbered.once

theorem keep (numbered : Numbered server counter requests cleanups) (found : requests[i]? = some r)
    (kept : q.pc.temp = none ∨ q.pc.temp = r.pc.temp) : Numbered server counter (requests.set i q) cleanups := by
  apply numbered.set found
  intro p there
  rcases kept with none_ | same
  · rw [none_] at there; cases there
  · rw [same] at there
    have member := List.mem_of_getElem? found
    refine ⟨numbered.drawn r member p there,fun inside => (numbered.spawned p inside).2 r member there,?_⟩
    intro j other differ at_ there'
    exact differ (numbered.apart j i other r p at_ found there' there)

theorem draw (numbered : Numbered server counter requests cleanups) (found : requests[i]? = some r)
    (small : counter + 1 < 2 ^ 64) {dir : Text} (drawn : q.pc.temp = some (tempPath server dir counter)) :
    Numbered server (counter + 1) (requests.set i q) cleanups := by
  have later : ∀ p, Drawn server counter p → Drawn server (counter + 1) p :=
    fun p ⟨dir,n,below,same⟩ => ⟨dir,n,Nat.lt_succ_of_lt below,same⟩
  have next : ¬ Drawn server counter (tempPath server dir counter) := Drawn.not_next numbered.bounded
  have numbered' : Numbered server (counter + 1) requests cleanups :=
    ⟨small,fun r member p there => later p (numbered.drawn r member p there),numbered.apart,
      fun p member => ⟨later p (numbered.spawned p member).1,(numbered.spawned p member).2⟩,numbered.once⟩
  apply numbered'.set found
  intro p there
  cases drawn.symm.trans there
  refine ⟨⟨dir,counter,Nat.lt_succ_self _,rfl⟩,fun inside => next (numbered.spawned _ inside).1,?_⟩
  intro j other _ at_ there'
  exact next (numbered.drawn other (List.mem_of_getElem? at_) _ there')

/-- A request that ends hands its temporary path to a spawned cleanup. -/
theorem spawn (numbered : Numbered server counter requests cleanups) (found : requests[i]? = some r) {temp : PathBuf}
    (there : r.pc.temp = some temp) (ended : q.pc.temp = none) :
    Numbered server counter (requests.set i q) (temp :: cleanups) := by
  have kept := numbered.keep found (.inl ended)
  have new : temp ∉ cleanups := fun member => (numbered.spawned temp member).2 r (List.mem_of_getElem? found) there
  refine ⟨kept.bounded,kept.drawn,kept.apart,?_,List.nodup_cons.mpr ⟨new,numbered.once⟩⟩
  intro p member
  rcases List.mem_cons.mp member with rfl | old
  · refine ⟨numbered.drawn r (List.mem_of_getElem? found) p there,?_⟩
    intro other inside there'
    rcases (mem_set_iff found).mp inside with rfl | ⟨j,differ,at_⟩
    · rw [ended] at there'; cases there'
    · exact differ (numbered.apart j i other r p at_ found there' there)
  · exact kept.spawned p old

theorem append (numbered : Numbered server counter requests cleanups) (new : r.pc.temp = none) :
    Numbered server counter (requests ++ [r]) cleanups where
  bounded := numbered.bounded
  drawn other member p there := by
    rcases List.mem_append.mp member with old | last
    · exact numbered.drawn other old p there
    · cases List.mem_singleton.mp last
      rw [new] at there; cases there
  apart j k rj rk p at_j at_k temp_j temp_k := by
    have old : ∀ (l : Nat) (rl : Request), (requests ++ [r])[l]? = some rl → rl.pc.temp = some p → requests[l]? = some rl := by
      intro l rl at_ there
      rw [List.getElem?_append] at at_
      split_ifs at at_
      · exact at_
      · cases List.mem_singleton.mp (List.mem_of_getElem? at_)
        rw [new] at there; cases there
    exact numbered.apart j k rj rk p (old j rj at_j temp_j) (old k rk at_k temp_k) temp_j temp_k
  spawned p member := by
    refine ⟨(numbered.spawned p member).1,?_⟩
    intro other inside there
    rcases List.mem_append.mp inside with old | last
    · exact (numbered.spawned p member).2 other old there
    · cases List.mem_singleton.mp last
      rw [new] at there; cases there
  once := numbered.once

theorem erase (numbered : Numbered server counter requests cleanups) (temp : PathBuf) :
    Numbered server counter requests (cleanups.erase temp) :=
  ⟨numbered.bounded,numbered.drawn,numbered.apart,fun p member => numbered.spawned p (List.mem_of_mem_erase member),
    numbered.once.erase temp⟩

end Numbered

/-! ### What every state keeps -/

/-- What a request's temporary file holds. -/
def Held (disk : Disk PathBuf) : Request → Prop
  | ⟨job :: _,.writing temp ino written⟩ => disk.names temp = some ino ∧ (disk.files ino).content = job.bytes.take written
  | ⟨job :: _,.permit temp⟩ => ∃ f, disk.file? temp = some f ∧ f.content = job.bytes
  | ⟨job :: _,.rename temp⟩ => ∃ f, disk.file? temp = some f ∧ f.content = job.bytes ∧ ∀ bits, job.bits = some bits → f.mode = some bits
  | _ => True

theorem Held.same {d e : Disk PathBuf} {paths : Set PathBuf} {opened : Set Nat} {r : Request} (held : Held d r)
    (same : Same d e paths opened) (inside : ∀ p, r.pc.opened = some p → p ∈ paths) : Held e r := by
  rcases r with ⟨_ | ⟨job,jobs⟩,pc⟩
  · cases pc <;> trivial
  · cases pc with
    | writing temp ino written =>
      obtain ⟨named,content⟩ := held
      have member := inside temp rfl
      exact ⟨(same.names temp member).trans named,(congrArg File.content (same.files temp member ino named)).trans content⟩
    | permit temp =>
      obtain ⟨f,found,content⟩ := held
      exact ⟨f,(same.file? (inside temp rfl)).trans found,content⟩
    | rename temp =>
      obtain ⟨f,found,content⟩ := held
      exact ⟨f,(same.file? (inside temp rfl)).trans found,content⟩
    | _ => trivial

theorem held_of_unopened {disk : Disk PathBuf} {r : Request} (unopened : r.pc.opened = none) : Held disk r := by
  rcases r with ⟨_ | _,pc⟩ <;> cases pc <;> trivial

structure Sound (server : Server) (s : State) : Prop where
  numbered : Numbered server s.writeCounter s.requests s.cleanups
  aimed : ∀ r ∈ s.requests, ∀ job ∈ r.jobs, job.target ∈ s.targets
  held : ∀ r ∈ s.requests, Held s.disk r
  shelf : Shelf s.disk {p | p ∈ s.inUse} {p | p ∈ s.targets} s.opened
  whole : ∀ p ∈ s.targets, (s.disk.file? p).map seen = s.landed p
  steady : ∀ r ∈ s.readers, seen (s.disk.files r.ino) = r.found
  cleaned : ∀ p ∈ s.created, p ∉ s.inUse → p ∉ s.targets → s.disk.names p = none

theorem Sound.atomic {server : Server} {s : State} (sound : Sound server s) : Atomic s :=
  ⟨sound.whole,sound.steady,sound.numbered.apart,sound.cleaned⟩

theorem mem_inUse {s : State} {p : PathBuf} : p ∈ s.inUse ↔ (∃ r ∈ s.requests, r.pc.opened = some p) ∨ p ∈ s.cleanups := by
  simp [State.inUse]

section move
variable {server : Server} {s t : State} {i : Nat} {r : Request} {jobs : List Job} {pc : Pc}

/-- The files in use that are not the request's own. -/
def others (s : State) (r : Request) : Set PathBuf := {p | p ∈ s.inUse ∧ r.pc.opened ≠ some p}

theorem mem_others (sound : Sound server s) (found : s.requests[i]? = some r) {j : Nat} {other : Request} (differ : j ≠ i)
    (at_ : s.requests[j]? = some other) {p : PathBuf} (there : other.pc.opened = some p) : p ∈ others s r := by
  refine ⟨mem_inUse.mpr (.inl ⟨other,List.mem_of_getElem? at_,there⟩),?_⟩
  intro own
  exact differ (sound.numbered.apart j i other r p at_ found (Pc.temp_of_opened there) (Pc.temp_of_opened own))

theorem inUse_move (found : s.requests[i]? = some r) (moved : t.requests = s.requests.set i ⟨jobs,pc⟩)
    {p : PathBuf} : p ∈ t.inUse ↔ pc.opened = some p ∨ (∃ j other, j ≠ i ∧ s.requests[j]? = some other ∧
      other.pc.opened = some p) ∨ p ∈ t.cleanups := by
  rw [mem_inUse,moved]
  constructor
  · rintro (⟨other,member,there⟩ | spawned)
    · rcases (mem_set_iff found).mp member with rfl | ⟨j,differ,at_⟩
      · exact .inl there
      · exact .inr (.inl ⟨j,other,differ,at_,there⟩)
    · exact .inr (.inr spawned)
  · rintro (own | ⟨j,other,differ,at_,there⟩ | spawned)
    · exact .inl ⟨⟨jobs,pc⟩,(mem_set_iff found).mpr (.inl rfl),own⟩
    · exact .inl ⟨other,(mem_set_iff found).mpr (.inr ⟨j,differ,at_⟩),there⟩
    · exact .inr spawned

/-- While nothing is spawned, the files in use are the other requests' and the request's new one. -/
theorem inUse_set (sound : Sound server s) (found : s.requests[i]? = some r) (moved : t.requests = s.requests.set i ⟨jobs,pc⟩)
    (waiting : t.cleanups = s.cleanups) {p : PathBuf} : p ∈ t.inUse ↔ pc.opened = some p ∨ p ∈ others s r := by
  rw [inUse_move found moved,waiting]
  refine or_congr_right ?_
  constructor
  · rintro (⟨j,other,differ,at_,there⟩ | spawned)
    · exact mem_others sound found differ at_ there
    · refine ⟨mem_inUse.mpr (.inr spawned),fun own => ?_⟩
      exact (sound.numbered.spawned p spawned).2 r (List.mem_of_getElem? found) (Pc.temp_of_opened own)
  · rintro ⟨member,apart⟩
    rcases mem_inUse.mp member with ⟨other,inside,there⟩ | spawned
    · obtain ⟨j,at_⟩ := List.mem_iff_getElem?.mp inside
      refine .inl ⟨j,other,?_,at_,there⟩
      rintro rfl
      cases found.symm.trans at_
      exact apart there
    · exact .inr spawned

theorem inUse_keep (sound : Sound server s) (found : s.requests[i]? = some r) (moved : t.requests = s.requests.set i ⟨jobs,pc⟩)
    (waiting : t.cleanups = s.cleanups) (kept : pc.opened = r.pc.opened) {p : PathBuf} : p ∈ t.inUse ↔ p ∈ s.inUse := by
  rw [inUse_set sound found moved waiting,kept]
  constructor
  · rintro (own | other)
    · exact mem_inUse.mpr (.inl ⟨r,List.mem_of_getElem? found,own⟩)
    · exact other.1
  · intro member
    by_cases own : r.pc.opened = some p
    · exact .inl own
    · exact .inr ⟨member,own⟩

/-- A request moves on and the disk may change, but nothing that the other requests have on it. -/
theorem Sound.move (sound : Sound server s) (found : s.requests[i]? = some r)
    (moved : t.requests = s.requests.set i ⟨jobs,pc⟩) (readers : t.readers = s.readers) (targets : t.targets = s.targets)
    (numbered : Numbered server t.writeCounter t.requests t.cleanups) (fewer : jobs ⊆ r.jobs) (held : Held t.disk ⟨jobs,pc⟩)
    (shelf : Shelf t.disk {p | p ∈ t.inUse} {p | p ∈ s.targets} s.opened) (same : Same s.disk t.disk (others s r) s.opened)
    (whole : ∀ p ∈ s.targets, (t.disk.file? p).map seen = t.landed p)
    (cleaned : ∀ p ∈ t.created, p ∉ t.inUse → p ∉ s.targets → t.disk.names p = none) : Sound server t where
  numbered := numbered
  aimed other member job inside := by
    rw [targets]
    rw [moved] at member
    rcases (mem_set_iff found).mp member with rfl | ⟨j,_,at_⟩
    · exact sound.aimed r (List.mem_of_getElem? found) job (fewer inside)
    · exact sound.aimed other (List.mem_of_getElem? at_) job inside
  held other member := by
    rw [moved] at member
    rcases (mem_set_iff found).mp member with rfl | ⟨j,differ,at_⟩
    · exact held
    · exact (sound.held other (List.mem_of_getElem? at_)).same same fun p there => mem_others sound found differ at_ there
  shelf := by
    have open_ : t.opened = s.opened := by unfold State.opened; rw [readers]
    rw [targets,open_]
    exact shelf
  whole := by rw [targets]; exact whole
  steady reader member := by
    rw [readers] at member
    rw [same.opened reader.ino (List.mem_map_of_mem member)]
    exact sound.steady reader member
  cleaned := by rw [targets]; exact cleaned

/-- A request moves on and touches nothing. -/
theorem Sound.wait (sound : Sound server s) (found : s.requests[i]? = some r)
    (moved : t = { s with requests := s.requests.set i ⟨jobs,pc⟩, writeCounter := t.writeCounter })
    (numbered : Numbered server t.writeCounter t.requests t.cleanups) (fewer : jobs ⊆ r.jobs)
    (held : Held s.disk ⟨jobs,pc⟩) (kept : pc.opened = r.pc.opened) : Sound server t := by
  have same : ∀ p, p ∈ t.inUse ↔ p ∈ s.inUse := fun _ => inUse_keep sound found (by rw [moved]) (by rw [moved]) kept
  have disk : t.disk = s.disk := by rw [moved]
  apply sound.move found (by rw [moved]) (by rw [moved]) (by rw [moved]) numbered fewer
  · rw [disk]; exact held
  · simp only [disk,same]; exact sound.shelf
  · rw [disk]; exact .refl ..
  · have landed : t.landed = s.landed := by rw [moved]
    rw [disk,landed]; exact sound.whole
  · intro p member unused
    have created : t.created = s.created := by rw [moved]
    rw [created] at member
    rw [disk]
    exact sound.cleaned p member fun inside => unused ((same p).mpr inside)

/-- The request ends and leaves its temporary file to a spawned task. -/
theorem Sound.spawn (sound : Sound server s) (found : s.requests[i]? = some r) {temp : PathBuf}
    (own : r.pc.opened = some temp) : Sound server (s.spawnCleanup i r.jobs temp) := by
  have same : ∀ p, p ∈ (s.spawnCleanup i r.jobs temp).inUse ↔ p ∈ s.inUse := by
    intro p
    have waiting := @inUse_set server s (s.put i r.jobs .ended) i r r.jobs .ended sound found rfl rfl p
    have spawned : p ∈ (s.spawnCleanup i r.jobs temp).inUse ↔ p = temp ∨ p ∈ (s.put i r.jobs .ended).inUse := by
      simp only [mem_inUse,State.spawnCleanup,List.mem_cons]
      exact or_left_comm
    rw [spawned,waiting]
    constructor
    · rintro (rfl | ended | other)
      · exact mem_inUse.mpr (.inl ⟨r,List.mem_of_getElem? found,own⟩)
      · cases ended
      · exact other.1
    · intro member
      by_cases here : p = temp
      · exact .inl here
      · refine .inr (.inr ⟨member,fun there => here ?_⟩)
        exact Option.some.inj (there.symm.trans own)
  have numbered := sound.numbered.spawn (q := ⟨r.jobs,.ended⟩) found (Pc.temp_of_opened own) rfl
  apply sound.move found (t := s.spawnCleanup i r.jobs temp) rfl rfl rfl numbered (List.Subset.refl _)
  · exact held_of_unopened rfl
  · simp only [same]; exact sound.shelf
  · exact .refl ..
  · exact sound.whole
  · intro p member unused
    exact sound.cleaned p member fun inside => unused ((same p).mpr inside)

/-- A request changes its own file in place. -/
theorem Sound.change (sound : Sound server s) (found : s.requests[i]? = some r) {temp : PathBuf} {ino : Nat}
    (own : r.pc.opened = some temp) (named : s.disk.names temp = some ino) (f : File → File)
    (kept : pc.opened = r.pc.opened) (held : Held (s.disk.update ino f) ⟨r.jobs,pc⟩)
    (temps : pc.temp = r.pc.temp) : Sound server { s.put i r.jobs pc with disk := s.disk.update ino f } := by
  have member : temp ∈ s.inUse := mem_inUse.mpr (.inl ⟨r,List.mem_of_getElem? found,own⟩)
  obtain ⟨shelf,same⟩ := sound.shelf.update member named f
  let t : State := { s.put i r.jobs pc with disk := s.disk.update ino f }
  have uses : ∀ p, p ∈ t.inUse ↔ p ∈ s.inUse := fun _ => inUse_keep (t := t) sound found rfl rfl kept
  have numbered := sound.numbered.keep (q := ⟨r.jobs,pc⟩) found (.inr temps)
  apply sound.move found (t := t) rfl rfl rfl numbered (List.Subset.refl _) held
  · simp only [uses]; exact shelf
  · refine same.mono ?_
    rintro p ⟨inside,apart⟩
    exact .inl ⟨inside,fun at_ => apart (Set.mem_singleton_iff.mp at_ ▸ own)⟩
  · intro p read
    have unseen : (s.disk.update ino f).file? p = s.disk.file? p := same.file? (.inr read)
    exact (congrArg (Option.map seen) unseen).trans (sound.whole p read)
  · intro p made unused
    exact sound.cleaned p made fun inside => unused ((uses p).mpr inside)

/-- A request creates its temporary file. -/
theorem Sound.create (sound : Sound server s) {temp : PathBuf} (found : s.requests[i]? = some ⟨jobs,.create temp⟩) (now : Nat)
    (unshared : temp ∉ s.targets) (untaken : ∀ ino, s.disk.names temp = some ino → ¬ Taken s.disk s.held s.opened ino) :
    Sound server { s.put i jobs (.writing temp (s.disk.create temp now).2 0) with
      disk := (s.disk.create temp now).1, created := temp :: s.created } := by
  have new : temp ∉ s.inUse := by
    intro member
    rcases mem_inUse.mp member with ⟨other,inside,there⟩ | spawned
    · obtain ⟨j,at_⟩ := List.mem_iff_getElem?.mp inside
      cases sound.numbered.apart j i _ _ temp at_ found (Pc.temp_of_opened there) rfl
      cases found.symm.trans at_
      cases there
    · exact (sound.numbered.spawned temp spawned).2 _ (List.mem_of_getElem? found) rfl
  have held : s.held = {p | p ∈ s.inUse} ∪ {p | p ∈ s.targets} := by
    ext p
    simp [State.held]
  rw [held] at untaken
  obtain ⟨shelf,same,elsewhere⟩ := sound.shelf.create now unshared untaken
  let t : State := { s.put i jobs (.writing temp (s.disk.create temp now).2 0) with
    disk := (s.disk.create temp now).1, created := temp :: s.created }
  have uses : ∀ p, p ∈ t.inUse ↔ p = temp ∨ p ∈ s.inUse := by
    intro p
    rw [inUse_set (t := t) sound found rfl rfl]
    refine or_congr ⟨fun own => (Option.some.inj own).symm,fun at_ => at_ ▸ rfl⟩ ⟨And.left,fun member => ⟨member,nofun⟩⟩
  have opens := Disk.create_opens s.disk temp now
  have numbered := sound.numbered.keep (q := ⟨jobs,.writing temp (s.disk.create temp now).2 0⟩) found (.inr rfl)
  apply sound.move found (t := t) rfl rfl rfl numbered (List.Subset.refl _)
  · cases jobs with
    | nil => trivial
    | cons job rest => exact opens
  · simp only [uses]; exact shelf
  · refine same.mono ?_
    rintro p ⟨inside,_⟩
    exact .inl ⟨inside,fun at_ => new (Set.mem_singleton_iff.mp at_ ▸ inside)⟩
  · intro p read
    exact (congrArg (Option.map seen) (same.file? (.inr read))).trans (sound.whole p read)
  · intro p made unused read
    have apart : p ≠ temp := fun at_ => unused ((uses p).mpr (.inl at_))
    have old := (List.mem_cons.mp made).resolve_left apart
    rw [elsewhere p apart]
    exact sound.cleaned p old (fun inside => unused ((uses p).mpr (.inr inside))) read

theorem inUse_release (sound : Sound server s) (found : s.requests[i]? = some r) (moved : t.requests = s.requests.set i ⟨jobs,pc⟩)
    (waiting : t.cleanups = s.cleanups) {temp : PathBuf} (own : r.pc.opened = some temp) (ended : pc.opened = none) :
    {p | p ∈ t.inUse} = {p | p ∈ s.inUse} \ {temp} := by
  ext p
  have uses := inUse_set sound found moved waiting (p := p)
  rw [ended,or_iff_right nofun] at uses
  refine uses.trans (and_congr_right fun _ => not_congr ?_)
  rw [own]
  exact ⟨fun same => (Option.some.inj same).symm,fun same => congrArg some (Set.mem_singleton_iff.mp same).symm⟩

theorem others_release {temp : PathBuf} (own : r.pc.opened = some temp) : others s r ⊆ {p | p ∈ s.inUse} \ {temp} := by
  rintro p ⟨inside,apart⟩
  exact ⟨inside,fun at_ => apart (Set.mem_singleton_iff.mp at_ ▸ own)⟩

/-- A request removes its temporary file. -/
theorem Sound.remove (sound : Sound server s) {temp : PathBuf} (found : s.requests[i]? = some ⟨jobs,.remove temp⟩) :
    Sound server { s.put i jobs .ended with disk := s.disk.remove temp } := by
  have member : temp ∈ s.inUse := mem_inUse.mpr (.inl ⟨_,List.mem_of_getElem? found,rfl⟩)
  obtain ⟨shelf,same,gone,elsewhere⟩ := sound.shelf.remove member
  let t : State := { s.put i jobs .ended with disk := s.disk.remove temp }
  have uses := inUse_release (t := t) sound found rfl rfl rfl rfl
  have numbered := sound.numbered.keep (q := ⟨jobs,.ended⟩) found (.inl rfl)
  apply sound.move found (t := t) rfl rfl rfl numbered (List.Subset.refl _)
  · exact held_of_unopened rfl
  · rw [uses]; exact shelf
  · exact same.mono fun p inside => .inl (others_release rfl inside)
  · intro p read
    exact (congrArg (Option.map seen) (same.file? (.inr read))).trans (sound.whole p read)
  · intro p made unused read
    by_cases at_ : p = temp
    · rw [at_]; exact gone
    · have free : p ∉ s.inUse := fun inside => unused (uses.ge ⟨inside,at_⟩)
      exact (elsewhere p at_).trans (sound.cleaned p made free read)

/-- A request moves its temporary file onto the target. -/
theorem Sound.rename (sound : Sound server s) {temp : PathBuf} {job : Job}
    (found : s.requests[i]? = some ⟨job :: jobs,.rename temp⟩) {disk : Disk PathBuf}
    (renamed : s.disk.rename temp job.target = some disk) :
    Sound server { s.put i jobs .draw with
      disk
      landed := Function.update s.landed job.target ((s.disk.file? temp).map fun f => (job.bytes,job.bits.or f.mode)) } := by
  have inside := List.mem_of_getElem? found
  have member : temp ∈ s.inUse := mem_inUse.mpr (.inl ⟨_,inside,rfl⟩)
  have aimed := sound.aimed _ inside job List.mem_cons_self
  obtain ⟨shelf,same,files,gone,moved,ino,named⟩ := sound.shelf.rename member aimed renamed
  obtain ⟨f,there,content,mode⟩ := sound.held _ inside
  let t : State := { s.put i jobs .draw with
    disk
    landed := Function.update s.landed job.target ((s.disk.file? temp).map fun f => (job.bytes,job.bits.or f.mode)) }
  have uses := inUse_release (t := t) sound found rfl rfl rfl rfl
  have numbered := sound.numbered.keep (q := ⟨jobs,.draw⟩) found (.inl rfl)
  apply sound.move found (t := t) rfl rfl rfl numbered (List.subset_cons_self ..)
  · exact held_of_unopened rfl
  · rw [uses]; exact shelf
  · exact same.mono fun p inside => .inl (others_release rfl inside)
  · intro p read
    by_cases at_ : p = job.target
    · -- the target has the file that the request wrote, with its mode
      subst at_
      have brought : disk.file? job.target = some f := by
        unfold Disk.file? at there ⊢
        rw [moved,files]; exact there
      change (disk.file? job.target).map seen = Function.update s.landed job.target _ job.target
      simp only [Function.update_self,there,brought,Option.map_some,seen,content]
      cases bits : job.bits with
      | none => rfl
      | some b => rw [mode b bits]; rfl
    · change (disk.file? p).map seen = Function.update s.landed job.target _ p
      rw [Function.update_of_ne at_]
      exact (congrArg (Option.map seen) (same.file? (.inr ⟨read,at_⟩))).trans (sound.whole p read)
  · intro p made unused read
    by_cases at_ : p = temp
    · rw [at_]; exact gone
    · have free : p ∉ s.inUse := fun inside => unused (uses.ge ⟨inside,at_⟩)
      have missing := sound.cleaned p made free read
      obtain ⟨_,_,_,_,_,kept⟩ := Disk.rename_moves renamed
      rcases kept p fun same => read (same ▸ aimed) with old | none_
      · exact old.trans missing
      · exact none_

end move

/-- A spawned task removes a temporary file. -/
theorem Sound.cleanup {server : Server} {s : State} (sound : Sound server s) {temp : PathBuf} (member : temp ∈ s.cleanups) :
    Sound server { s with cleanups := s.cleanups.erase temp, disk := s.disk.remove temp } := by
  obtain ⟨shelf,same,gone,elsewhere⟩ := sound.shelf.remove (mem_inUse.mpr (.inr member))
  have apart : ∀ r ∈ s.requests, r.pc.opened ≠ some temp := fun r inside own =>
    (sound.numbered.spawned temp member).2 r inside (Pc.temp_of_opened own)
  have uses : {p | p ∈ ({ s with cleanups := s.cleanups.erase temp, disk := s.disk.remove temp } : State).inUse} =
      {p | p ∈ s.inUse} \ {temp} := by
    ext p
    simp only [Set.mem_ofPred_eq,Set.mem_sdiff,Set.mem_singleton_iff,mem_inUse,sound.numbered.once.mem_erase_iff]
    constructor
    · rintro (⟨r,inside,own⟩ | ⟨differ,spawned⟩)
      · exact ⟨.inl ⟨r,inside,own⟩,fun at_ => apart r inside (at_ ▸ own)⟩
      · exact ⟨.inr spawned,differ⟩
    · rintro ⟨own | spawned,differ⟩
      · exact .inl own
      · exact .inr ⟨differ,spawned⟩
  refine ⟨sound.numbered.erase temp,sound.aimed,?_,?_,?_,sound.steady,?_⟩
  · intro r inside
    refine (sound.held r inside).same same fun p own => .inl ⟨mem_inUse.mpr (.inl ⟨r,inside,own⟩),fun at_ => ?_⟩
    exact apart r inside (Set.mem_singleton_iff.mp at_ ▸ own)
  · rw [uses]; exact shelf
  · intro p read
    exact (congrArg (Option.map seen) (same.file? (.inr read))).trans (sound.whole p read)
  · intro p made unused read
    by_cases at_ : p = temp
    · rw [at_]; exact gone
    · have free : p ∉ s.inUse := fun inside => unused (uses.ge ⟨inside,at_⟩)
      exact (elsewhere p at_).trans (sound.cleaned p made free read)

theorem Sound.read {server : Server} {s : State} (sound : Sound server s) {path : PathBuf} {ino : Nat} (read : path ∈ s.targets)
    (named : s.disk.names path = some ino) : Sound server { s with readers := ⟨ino,seen (s.disk.files ino)⟩ :: s.readers } := by
  have opened : ({ s with readers := ⟨ino,seen (s.disk.files ino)⟩ :: s.readers } : State).opened = insert ino s.opened := by
    ext k
    simp [State.opened]
  refine ⟨sound.numbered,sound.aimed,sound.held,?_,sound.whole,?_,sound.cleaned⟩
  · rw [opened]; exact sound.shelf.open_ read named
  · intro reader member
    rcases List.mem_cons.mp member with rfl | old
    · rfl
    · exact sound.steady reader old

/-- A request comes in whose targets are no temporary files in use. -/
theorem Sound.accept {server : Server} {s : State} (sound : Sound server s) {jobs : List Job} {pc : Pc} (new : pc.temp = none)
    (free : ∀ job ∈ jobs, Free s job.target) : Sound server (s.accept jobs pc) := by
  have unopened : pc.opened = none := by cases pc <;> first | rfl | cases new
  have uses : ∀ p, p ∈ (s.accept jobs pc).inUse ↔ p ∈ s.inUse := by
    intro p
    simp only [mem_inUse,State.accept,List.mem_append,List.mem_singleton]
    refine or_congr_left ⟨?_,fun ⟨r,inside,own⟩ => ⟨r,.inl inside,own⟩⟩
    rintro ⟨r,inside | rfl,own⟩
    · exact ⟨r,inside,own⟩
    · cases unopened.symm.trans own
  have targets : {p | p ∈ (s.accept jobs pc).targets} = {p | p ∈ jobs.map Job.target} ∪ {p | p ∈ s.targets} := by
    ext p
    exact List.mem_append
  refine ⟨sound.numbered.append new,?_,?_,?_,?_,sound.steady,?_⟩
  · intro r member job inside
    refine List.mem_append.mpr ?_
    rcases List.mem_append.mp member with old | last
    · exact .inr (sound.aimed r old job inside)
    · cases List.mem_singleton.mp last
      exact .inl (List.mem_map_of_mem inside)
  · intro r member
    rcases List.mem_append.mp member with old | last
    · exact sound.held r old
    · cases List.mem_singleton.mp last
      exact held_of_unopened unopened
  · rw [targets]
    simp only [uses]
    apply sound.shelf.share
    intro q more p inside
    obtain ⟨job,member,rfl⟩ := List.mem_map.mp more
    exact free job member p inside
  · intro p member
    by_cases old : p ∈ s.targets
    · exact (sound.whole p old).trans (if_pos old).symm
    · exact (if_neg old).symm
  · intro p made unused read
    exact sound.cleaned p made (fun inside => unused ((uses p).mpr inside)) fun old => read (List.mem_append_right _ old)

theorem step_sound {server : Server} {s t : State} {a : Action} (sound : Sound server s) (safe : Safe server s a)
    (stepped : step server s a = some t) : Sound server t := by
  cases a with
  | putFile path content mode createDirs =>
    simp only [step] at stepped
    split at stepped
    · cases stepped; exact sound
    · next bytes =>
      by_cases large : server.maxFileSize < bytes.length
      · rw [if_pos large] at stepped; cases stepped; exact sound
      · rw [if_neg large] at stepped; cases stepped
        refine sound.accept (by cases createDirs <;> rfl) fun job member => ?_
        cases List.mem_singleton.mp member
        exact safe bytes rfl (by omega)
  | uploadFile dir fields =>
    cases stepped
    exact sound.accept rfl safe
  | mkdir i ok =>
    simp only [step] at stepped
    split at stepped
    · next jobs found =>
      cases stepped
      have waits : (if ok then Pc.draw else .ended).temp = none := by split_ifs <;> rfl
      have unopened : (if ok then Pc.draw else .ended).opened = none := by split_ifs <;> rfl
      exact sound.wait found rfl (sound.numbered.keep found (.inl waits)) (List.Subset.refl _) (held_of_unopened unopened) unopened
    · cases stepped
  | draw i =>
    simp only [step] at stepped
    split at stepped
    · next job jobs found =>
      cases stepped
      have small : (s.writeCounter + 1) % 2 ^ 64 = s.writeCounter + 1 := Nat.mod_eq_of_lt safe
      refine sound.wait found rfl ?_ (List.Subset.refl _) (held_of_unopened rfl) rfl
      rw [small]
      exact sound.numbered.draw found safe rfl
    · cases stepped
  | refuse i =>
    simp only [step] at stepped
    split at stepped
    · next jobs found =>
      cases stepped
      exact sound.wait found rfl (sound.numbered.keep found (.inl rfl)) (List.Subset.refl _) (held_of_unopened rfl) rfl
    · cases stepped
  | create i now ok =>
    simp only [step] at stepped
    split at stepped
    · next jobs temp found =>
      cases ok with
      | true =>
        cases stepped
        obtain ⟨unshared,untaken⟩ := safe jobs temp found
        exact sound.create found now unshared untaken
      | false =>
        cases stepped
        exact sound.wait found rfl (sound.numbered.keep found (.inl rfl)) (List.Subset.refl _) (held_of_unopened rfl) rfl
    · cases stepped
  | write i now count =>
    simp only [step] at stepped
    split at stepped
    · next job jobs temp ino written found =>
      split_ifs at stepped with fits
      cases stepped
      obtain ⟨named,content⟩ := sound.held _ (List.mem_of_getElem? found)
      refine sound.change found rfl named _ rfl ⟨named,?_⟩ rfl
      simp only [Disk.update,Function.update_self,content]
      exact (List.take_add ..).symm
    · cases stepped
  | writeFails i => exact safe.elim
  | finish i =>
    simp only [step] at stepped
    split at stepped
    · next job jobs temp ino written found =>
      split_ifs at stepped with whole
      all_goals cases stepped
      all_goals
        obtain ⟨named,content⟩ := sound.held _ (List.mem_of_getElem? found)
        rw [whole,List.take_length] at content
        have there : s.disk.file? temp = some (s.disk.files ino) := by rw [Disk.file?,named]; rfl
      · exact sound.wait found rfl (sound.numbered.keep found (.inr rfl)) (List.Subset.refl _) ⟨_,there,content⟩ rfl
      · next plain =>
        refine sound.wait found rfl (sound.numbered.keep found (.inr rfl)) (List.Subset.refl _) ⟨_,there,content,?_⟩ rfl
        intro bits parsed
        cases mode : job.mode <;> simp_all [Job.bits]
    · cases stepped
  | permit i ok =>
    simp only [step] at stepped
    split at stepped
    · next job jobs temp found =>
      split at stepped
      · cases stepped
        exact sound.spawn found rfl
      · next bits parsed =>
        split at stepped
        · next _ ino named =>
          cases stepped
          obtain ⟨f,there,content⟩ := sound.held _ (List.mem_of_getElem? found)
          have same : f = s.disk.files ino := by
            rw [Disk.file?,named] at there; exact (Option.some.inj there).symm
          refine sound.change found rfl named _ rfl ⟨{ f with mode := some bits },?_,content,?_⟩ rfl
          · simp only [Disk.file?,Disk.update,named,Option.map_some,Function.update_self,same]
          · intro other asked
            exact parsed.symm.trans asked
        · cases stepped
          exact sound.wait found rfl (sound.numbered.keep found (.inr rfl)) (List.Subset.refl _) trivial rfl
    · cases stepped
  | remove i =>
    simp only [step] at stepped
    split at stepped
    · next jobs temp found => cases stepped; exact sound.remove found
    · cases stepped
  | rename i ok =>
    simp only [step] at stepped
    split at stepped
    · next job jobs temp found =>
      split at stepped
      · next disk _ renamed => cases stepped; exact sound.rename found renamed
      · cases stepped; exact sound.spawn found rfl
    · cases stepped
  | cleanup temp =>
    simp only [step] at stepped
    split_ifs at stepped with member
    cases stepped
    exact sound.cleanup member
  | read path =>
    simp only [step] at stepped
    split at stepped
    · next ino named =>
      split_ifs at stepped with read
      cases stepped
      exact sound.read read named
    · cases stepped

theorem start_sound (server : Server) (disk : Disk PathBuf) : Sound server (start disk) where
  numbered := ⟨Nat.two_pow_pos 64,by simp [start],by simp [start],by simp [start],List.nodup_nil⟩
  aimed := by simp [start]
  held := by simp [start]
  shelf := ⟨by simp [start,State.inUse],by simp [start,State.inUse],by simp [start,State.inUse],by simp [start,State.opened]⟩
  whole := by simp [start]
  steady := by simp [start]
  cleaned := by simp [start]

/-- Whatever fails and however requests and readers interleave, as long as no write fails once its
    file is there and the temporary files and the targets do not meet. -/
theorem writes_atomic {server : Server} {disk : Disk PathBuf} {as : List Action}
    (safe : Along (step server) (Safe server) (start disk) as) : Always (step server) Atomic (start disk) as :=
  always_of_keeps (fun _ _ _ sound met stepped => step_sound sound met stepped) (fun _ => Sound.atomic)
    (start_sound server disk) safe

def motd : PathBuf := ⟨"/etc".toList,"motd".toList⟩

/-- A file of two bytes with a mode, written in two pieces. -/
def putRun : List Action :=
  [.putFile motd (some [104,105]) (some ['6','4','4']) false,.draw 0,.create 0 1 true,.write 0 2 1,.write 0 3 1,.finish 0,
    .permit 0 true,.rename 0 true,.read motd]

theorem writes_atomic_put : Always (step ⟨7,100⟩) Atomic (start (.empty fun _ => false)) putRun ∧
    (run (step ⟨7,100⟩) (start (.empty fun _ => false)) putRun).map (fun t => t.readers.map Reader.found) =
      some [([104,105],some 420)] := by
  refine ⟨writes_atomic ?_,by decide⟩
  rintro _ ⟨⟩
  refine ⟨fun _ _ _ temp member => absurd member List.not_mem_nil,?_⟩
  rintro _ ⟨⟩
  refine ⟨show 0 + 1 < 2 ^ 64 by decide,?_⟩
  rintro _ ⟨⟩
  refine ⟨?_,?_⟩
  · rintro jobs temp ⟨⟩
    exact ⟨by decide,nofun⟩
  · repeat' first | exact trivial | refine fun _ _ => ⟨trivial,?_⟩

/-- The write fails once the file is there: the request ends and the file stays. -/
theorem failed_write_left : ¬ ∀ server disk as, Always (step server) Atomic (start disk) as := by
  intro all
  have always := all ⟨7,100⟩ (.empty fun _ => false)
    [.putFile motd (some [104,105]) none false,.draw 0,.create 0 1 true,.write 0 2 1,.writeFails 0]
  have atomic := always_last always (t := _) rfl
  have missing := atomic.cleaned (tempPath ⟨7,100⟩ motd.parent 0) List.mem_cons_self (by decide) (by decide)
  revert missing
  decide

end Sctl.FileWrites
