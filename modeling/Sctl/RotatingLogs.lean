import Mathlib.Data.List.DropRight
import Sctl.Files
import Sctl.Runs

/-!
Log files that are rotated (`append_rotating` of `server/src/util.rs`): a line is
appended to a file, which is renamed first if it has become too large; the file
that had that name is lost. A step is one operation on the disk, any of which may
fail, and a write may stop in the middle of the line. Whoever reads the files may
do so between any two steps.
-/
namespace Sctl.RotatingLogs
open Files Runs
abbrev Text := List Char

/-! ### The name of the rotated file -/

/-- `Path::extension` of a file name: what is behind its last point, unless that is its first character. -/
def extension (name : Text) : Option Text :=
  if '.' ∈ name ∧ name.rdropWhile (· ≠ '.') ≠ ['.'] then some (name.rtakeWhile (· ≠ '.')) else none

/-- `Path::with_extension` of a file name. -/
def withExtension (name ext : Text) : Text :=
  let stem := match extension name with
    | some _ => (name.rdropWhile (· ≠ '.')).dropLast
    | none => name
  if ext = [] then stem else stem ++ '.' :: ext

def rotatedPath (name : Text) : Text :=
  match extension name with
  | some ext => withExtension name (ext ++ ".1".toList)
  | none => withExtension name "1".toList

/-- The name with `.1` behind it, whatever it is. -/
theorem rotatedPath_eq (name : Text) : rotatedPath name = name ++ ".1".toList := by
  unfold rotatedPath withExtension
  cases found : extension name with
  | none => rfl
  | some ext =>
    unfold extension at found
    split_ifs at found with dotted
    obtain rfl := Option.some.inj found
    have some_ : name.rdropWhile (· ≠ '.') ≠ [] := by
      intro none_
      rw [List.rdropWhile_eq_nil_iff] at none_
      simpa using none_ '.' dotted.1
    have dot : (name.rdropWhile (· ≠ '.')).getLast some_ = '.' := by
      simpa using List.rdropWhile_last_not (fun c : Char => decide (c ≠ '.')) name some_
    have stem : (name.rdropWhile (· ≠ '.')).dropLast ++ ['.'] = name.rdropWhile (· ≠ '.') := by
      have whole := List.dropLast_append_getLast some_
      rwa [dot] at whole
    dsimp only
    rw [if_neg (by simp)]
    calc (name.rdropWhile (· ≠ '.')).dropLast ++ '.' :: (name.rtakeWhile (· ≠ '.') ++ ".1".toList)
        = (name.rdropWhile (· ≠ '.')).dropLast ++ ['.'] ++ name.rtakeWhile (· ≠ '.') ++ ".1".toList := by simp
      _ = name ++ ".1".toList := by rw [stem,List.rdropWhile_append_rtakeWhile]

/-! ### Appending lines -/

/-- Where `append_rotating` stands with its line, and whether it has renamed the file. -/
inductive Pc
  | idle
  | checking (line : Bytes)
  | opening (line : Bytes) (rotated : Bool)
  /-- So many bytes of the line are written. -/
  | writing (line : Bytes) (done : Nat) (rotated : Bool)

/-- The file and the one under the rotated name; beside them what was lost and all that was
    written, with the lines that were appended and what the calls answered. -/
structure State where
  live : Option Bytes
  old : Option Bytes
  pc : Pc
  dropped : Bytes
  written : Bytes
  lines : List Bytes
  answers : List (Option Bool)

def start (live old : Option Bytes) : State := ⟨live,old,.idle,[],old.getD [] ++ live.getD [],[],[]⟩

inductive Action
  | call (line : Bytes)
  /-- The size is asked for, and the file renamed if it is too large; either may fail. -/
  | check (stats renames : Bool)
  | open_ (opens : Bool)
  | write (n : Nat)
  /-- A write fails. -/
  | fail
  | finish
deriving DecidableEq

def step (maxBytes : Nat) (s : State) : Action → Option State
  | .call line =>
    match s.pc with
    | .idle => some { s with pc := .checking line }
    | _ => none
  | .check stats renames =>
    match s.pc with
    | .checking line =>
      match s.live with
      | some content =>
        if stats && decide (maxBytes < content.length) && renames then
          some { s with live := none, old := s.live, pc := .opening line true, dropped := s.dropped ++ s.old.getD [] }
        else some { s with pc := .opening line false }
      | none => some { s with pc := .opening line false }
    | _ => none
  | .open_ opens =>
    match s.pc with
    | .opening line rotated =>
      if opens then some { s with live := some (s.live.getD []), pc := .writing line 0 rotated }
      else some { s with pc := .idle, answers := s.answers ++ [none] }
    | _ => none
  | .write n =>
    match s.pc with
    | .writing line done rotated =>
      let part := slice line done n
      if part = [] then none
      else some { s with
        live := some (s.live.getD [] ++ part)
        pc := .writing line (done + part.length) rotated
        written := s.written ++ part }
    | _ => none
  | .fail =>
    match s.pc with
    | .writing line done _ => if done < line.length then some { s with pc := .idle, answers := s.answers ++ [none] } else none
    | _ => none
  | .finish =>
    match s.pc with
    | .writing line done rotated =>
      if done = line.length then
        some { s with pc := .idle, lines := s.lines ++ [line], answers := s.answers ++ [some rotated] }
      else none
    | _ => none

/-- What is in the two files. -/
def State.kept (s : State) : Bytes := s.old.getD [] ++ s.live.getD []

/-- The files end what was written, without a gap, and unless that is all of it they hold more
    than the size at which a file is rotated. -/
structure Retains (maxBytes : Nat) (s : State) : Prop where
  suffix : s.written = s.dropped ++ s.kept
  enough : s.kept = s.written ∨ maxBytes < s.kept.length

/-- Neither file is longer than a file that is not yet rotated with one line more. -/
def Bounded (maxBytes longest : Nat) (s : State) : Prop :=
  (s.live.getD []).length ≤ maxBytes + longest ∧ (s.old.getD []).length ≤ maxBytes + longest

/-- The size can be asked for, the file can be renamed, and no line is longer than so. -/
def steady (longest : Nat) : Action → Bool
  | .call line => line.length ≤ longest
  | .check stats renames => stats && renames
  | _ => true

/-! ### What a step does -/

/-- What a step does, by where the call stands. -/
inductive Moves (maxBytes : Nat) (s : State) : Action → State → Prop
  | call {line : Bytes} : s.pc = .idle → Moves maxBytes s (.call line) { s with pc := .checking line }
  | rotate {line content : Bytes} {stats renames : Bool} : s.pc = .checking line → s.live = some content → maxBytes < content.length →
      Moves maxBytes s (.check stats renames)
        { s with live := none, old := some content, pc := .opening line true, dropped := s.dropped ++ s.old.getD [] }
  | keep {line : Bytes} {stats renames : Bool} : s.pc = .checking line →
      (stats && renames → (s.live.getD []).length ≤ maxBytes) →
      Moves maxBytes s (.check stats renames) { s with pc := .opening line false }
  | opened {line : Bytes} {rotated : Bool} : s.pc = .opening line rotated →
      Moves maxBytes s (.open_ true) { s with live := some (s.live.getD []), pc := .writing line 0 rotated }
  | unopened {line : Bytes} {rotated : Bool} : s.pc = .opening line rotated →
      Moves maxBytes s (.open_ false) { s with pc := .idle, answers := s.answers ++ [none] }
  | write {line : Bytes} {done n : Nat} {rotated : Bool} : s.pc = .writing line done rotated →
      Moves maxBytes s (.write n) { s with
        live := some (s.live.getD [] ++ slice line done n)
        pc := .writing line (done + (slice line done n).length) rotated
        written := s.written ++ slice line done n }
  | fail {line : Bytes} {done : Nat} {rotated : Bool} : s.pc = .writing line done rotated → done < line.length →
      Moves maxBytes s .fail { s with pc := .idle, answers := s.answers ++ [none] }
  | finish {line : Bytes} {rotated : Bool} : s.pc = .writing line line.length rotated →
      Moves maxBytes s .finish { s with pc := .idle, lines := s.lines ++ [line], answers := s.answers ++ [some rotated] }

section
variable {maxBytes : Nat} {s t : State} {a : Action}

theorem step_moves (stepped : step maxBytes s a = some t) : Moves maxBytes s a t := by
  cases a with
  | call line =>
    cases at_ : s.pc with
    | idle => simp only [step,at_] at stepped; cases stepped; exact .call at_
    | _ => simp only [step,at_] at stepped; cases stepped
  | check stats renames =>
    cases at_ : s.pc with
    | checking line =>
      cases live : s.live with
      | none => simp only [step,at_,live] at stepped; cases stepped; exact live ▸ .keep at_ (by simp [live])
      | some content =>
        simp only [step,at_,live] at stepped
        split_ifs at stepped with large
        · cases stepped
          simp only [Bool.and_eq_true,decide_eq_true_eq] at large
          exact .rotate at_ live large.1.2
        · cases stepped
          refine live ▸ .keep at_ fun both => ?_
          simp only [Bool.and_eq_true] at both
          simpa [live,both] using large
    | _ => simp only [step,at_] at stepped; cases stepped
  | open_ opens =>
    cases at_ : s.pc with
    | opening line rotated =>
      simp only [step,at_] at stepped
      cases opens with
      | true => cases stepped; exact .opened at_
      | false => cases stepped; exact .unopened at_
    | _ => simp only [step,at_] at stepped; cases stepped
  | write n =>
    cases at_ : s.pc with
    | writing line done rotated =>
      simp only [step,at_] at stepped
      split_ifs at stepped
      cases stepped
      exact .write at_
    | _ => simp only [step,at_] at stepped; cases stepped
  | fail =>
    cases at_ : s.pc with
    | writing line done rotated =>
      simp only [step,at_] at stepped
      split_ifs at stepped with left
      cases stepped
      exact .fail at_ left
    | _ => simp only [step,at_] at stepped; cases stepped
  | finish =>
    cases at_ : s.pc with
    | writing line done rotated =>
      simp only [step,at_] at stepped
      split_ifs at stepped with all
      cases stepped
      subst all
      exact .finish at_
    | _ => simp only [step,at_] at stepped; cases stepped

/-- What was lost was under the rotated name while the file grew too large. -/
structure Kept (maxBytes : Nat) (s : State) : Prop where
  suffix : s.written = s.dropped ++ s.kept
  rotated : s.dropped = [] ∨ maxBytes < (s.old.getD []).length

theorem step_kept (s : State) (a : Action) (t : State) (kept : Kept maxBytes s) (stepped : step maxBytes s a = some t) :
    Kept maxBytes t := by
  have suffix := kept.suffix
  unfold State.kept at suffix
  cases step_moves stepped with
  | rotate at_ live large =>
    refine ⟨?_,.inr large⟩
    rw [suffix,live]
    simp [State.kept]
  | write at_ =>
    refine ⟨?_,kept.rotated⟩
    rw [suffix]
    simp [State.kept]
  | _ => exact ⟨suffix,kept.rotated⟩

theorem Kept.retains (kept : Kept maxBytes s) : Retains maxBytes s where
  suffix := kept.suffix
  enough := by
    rcases kept.rotated with none_ | large
    · exact .inl (by rw [kept.suffix,none_,List.nil_append])
    · refine .inr ?_
      rw [State.kept,List.length_append]
      omega

/-- How long the file may be at this point of a call. -/
def room (maxBytes longest : Nat) : Pc → Nat → Prop
  | .idle, n => n ≤ maxBytes + longest
  | .checking line, n => n ≤ maxBytes + longest ∧ line.length ≤ longest
  | .opening line _, n => n ≤ maxBytes ∧ line.length ≤ longest
  | .writing line done _, n => n ≤ maxBytes + done ∧ done ≤ line.length ∧ line.length ≤ longest

structure Small (maxBytes longest : Nat) (s : State) : Prop where
  live : room maxBytes longest s.pc (s.live.getD []).length
  old : (s.old.getD []).length ≤ maxBytes + longest

theorem Small.bounded {longest : Nat} (small : Small maxBytes longest s) : Bounded maxBytes longest s := by
  have live := small.live
  refine ⟨?_,small.old⟩
  cases at_ : s.pc <;> rw [at_] at live <;> simp only [room] at live <;> omega

theorem step_small {longest : Nat} (s : State) (a : Action) (t : State) (small : Small maxBytes longest s)
    (steady_ : steady longest a = true) (stepped : step maxBytes s a = some t) : Small maxBytes longest t := by
  have live := small.live
  have old := small.old
  cases step_moves stepped with
  | call at_ =>
    rw [at_] at live
    exact ⟨⟨live,by simpa [steady] using steady_⟩,old⟩
  | rotate at_ content large =>
    rw [at_,content] at live
    exact ⟨⟨Nat.zero_le _,live.2⟩,live.1⟩
  | keep at_ fits =>
    rw [at_] at live
    exact ⟨⟨fits steady_,live.2⟩,old⟩
  | opened at_ =>
    rw [at_] at live
    exact ⟨⟨live.1,Nat.zero_le _,live.2⟩,old⟩
  | unopened at_ =>
    rw [at_] at live
    exact ⟨Nat.le_add_right_of_le live.1,old⟩
  | @write line done n rotated at_ =>
    rw [at_] at live
    simp only [room] at live
    have part : (slice line done n).length ≤ line.length - done := by simp [slice]
    refine ⟨?_,old⟩
    simp only [room,Option.getD_some,List.length_append]
    omega
  | fail at_ left =>
    rw [at_] at live
    simp only [room] at live
    refine ⟨?_,old⟩
    simp only [room]
    omega
  | finish at_ =>
    rw [at_] at live
    simp only [room] at live
    refine ⟨?_,old⟩
    simp only [room]
    omega

/-! ### Whole lines -/

/-- The line of the call under way. -/
def Pc.line : Pc → Option Bytes
  | .idle => none
  | .checking line => some line
  | .opening line _ => some line
  | .writing line _ _ => some line

/-- What is there of the line of a call. -/
def Pc.begun : Pc → Bytes
  | .writing line done _ => line.take done
  | _ => []

/-- The files hold the last lines that were appended, and the one that is being written. -/
structure Whole (s : State) (lost before since : List Bytes) : Prop where
  lines : s.lines = lost ++ before ++ since
  old : s.old.getD [] = before.flatten
  /-- Nothing was moved or lost before the first rotation. -/
  unrotated : s.old = none → lost = [] ∧ before = []
  live : s.live.getD [] = since.flatten ++ s.pc.begun

end

/-- In every run the files hold the end of what was written, and when no size query and no rename
    fails they stay within the size and one line. -/
theorem logs_retained (maxBytes longest : Nat) (live old : Option Bytes) (as : List Action) :
    Always (step maxBytes) (Retains maxBytes) (start live old) as ∧
    (Bounded maxBytes longest (start live old) → Along (step maxBytes) (fun _ a => steady longest a = true) (start live old) as →
      Always (step maxBytes) (Bounded maxBytes longest) (start live old) as) := by
  refine ⟨?_,fun first all => ?_⟩
  · exact always_of_preserves step_kept (fun _ kept => kept.retains) ⟨rfl,.inl rfl⟩
  · exact always_of_keeps step_small (fun _ small => small.bounded) ⟨first.1,first.2⟩ all

/-- Two lines of three bytes, where a file is rotated above two bytes. -/
def twoLines : List Action :=
  [.call [1,2,10],.check true true,.open_ true,.write 3,.finish,
    .call [3,4,10],.check true true,.open_ true,.write 1,.write 2,.finish]

theorem logs_retained_twoLines : Always (step 2) (Bounded 2 3) (start none none) twoLines :=
  (logs_retained 2 3 none none twoLines).2 ⟨by decide,by decide⟩ (by decide)

end Sctl.RotatingLogs
