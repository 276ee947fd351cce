import Sctl.SessionExit
import Sctl.Tables
import Sctl.Texts

/-!
The journal of a session on disk (`sessions/journal.rs`). A file has a line of
metadata and then a line for each entry. After a restart it is read back, and a
line of the system that tells an exit code marks a session that had ended.
`serde_json` is a parameter: what it writes for a value and reads from a line.
-/
namespace Sctl.Journals
open Sctl.SessionBuffer Sctl.Texts

structure SessionMetadata where
  v : Nat
  pid : Nat
  shell : String
  workingDir : String
  persistent : Bool
  pty : Bool
  created : Nat
deriving DecidableEq

def toOutputEntry (entry : JournalEntry) : OutputEntry :=
  ⟨entry.s,match entry.t with
    | 'o' => .stdout
    | 'e' => .stderr
    | _ => .system,entry.d,entry.ts⟩

structure ArchivedSession where
  sessionId : String
  metadata : SessionMetadata
  entries : List OutputEntry
  exitCode : Option Int
deriving DecidableEq

/-- `serde_json` for one type: `to_string` and `from_str`. -/
structure Format (Value : Type) where
  text : Value → List Char
  fromStr : List Char → Except String Value

/-- A value is written on one line, from which it reads back. -/
structure Format.Reads {Value : Type} (format : Format Value) (value : Value) : Prop where
  back : format.fromStr (format.text value) = .ok value
  oneLine : '\n' ∉ format.text value
  noReturn : (format.text value).getLast? ≠ some '\r'
  nonempty : format.text value ≠ []

instance {Value : Type} [DecidableEq Value] (format : Format Value) (value : Value) : Decidable (format.Reads value) :=
  decidable_of_iff (format.fromStr (format.text value) = .ok value ∧ '\n' ∉ format.text value ∧
      (format.text value).getLast? ≠ some '\r' ∧ format.text value ≠ [])
    ⟨fun all => ⟨all.1,all.2.1,all.2.2.1,all.2.2.2⟩,fun reads => ⟨reads.back,reads.oneLine,reads.noReturn,reads.nonempty⟩⟩

structure Serde where
  metadata : Format SessionMetadata
  entry : Format JournalEntry

/-- What a file holds when its header and these entries are written. -/
def journalText (serde : Serde) (metadata : SessionMetadata) (written : List JournalEntry) : List Char :=
  (serde.metadata.text metadata :: written.map serde.entry.text).flatMap fun line => line ++ ['\n']

def exitPrefix : List Char := "Process exited with code ".toList

/-- The number of an exit line. -/
def parseExitCode (msg : String) : Option Int :=
  if exitPrefix.isPrefixOf msg.toList then parseSigned (2 ^ 31) (trim (msg.toList.drop exitPrefix.length)) else none

/-- One line of a journal after the first. The last exit code counts, and a corrupt line is skipped. -/
def recoverLine (serde : Serde) (read : List OutputEntry × Option Int) (line : List Char) : List OutputEntry × Option Int :=
  if line.isEmpty then read
  else match serde.entry.fromStr line with
    | .ok entry =>
      (read.1 ++ [toOutputEntry entry],if entry.t = 'x' then (parseExitCode entry.d).or read.2 else read.2)
    | .error _ => read

def recoverSingleJournal (serde : Serde) (sessionId : String) (text : List Char) : Except String ArchivedSession :=
  match lines text with
  | [] => .error "empty journal file"
  | metaLine :: rest =>
    match serde.metadata.fromStr metaLine with
    | .error e => .error ("parse metadata: " ++ e)
    | .ok metadata =>
      let read := rest.foldl (recoverLine serde) ([],none)
      .ok ⟨sessionId,metadata,read.1,read.2⟩

/-- The journals of a directory by their session, in the order in which it lists them. -/
abbrev Directory := Table String (List Char)

def recoverSessions (serde : Serde) (dir : Directory) : List ArchivedSession :=
  dir.entries.filterMap fun file => (recoverSingleJournal serde file.1 file.2).toOption

/-! ### Orphaned processes -/

/-- What the system tells about its processes: whether one can be signalled, and its command line. -/
structure Processes where
  alive : Nat → Bool
  cmdline : Nat → Option (List UInt8)

inductive Signal
  | term
  | kill
deriving DecidableEq

/-- The first argument of the command line names the shell. -/
def isShell (processes : Processes) (metadata : SessionMetadata) : Bool :=
  ((processes.cmdline metadata.pid).bind fun bytes =>
    (String.fromUTF8? ⟨(bytes.takeWhile (· ≠ 0)).toArray⟩).map fun exe => contains exe.toList metadata.shell.toList).getD false

/-- The signals to the process group of one archived session, with the processes
    before the first one and two seconds later. -/
def killOrphan (before later : Processes) (archived : ArchivedSession) : List (Int × Signal) :=
  let pid := archived.metadata.pid
  if archived.exitCode.isSome then []
  else if pid = 0 then []
  else if !before.alive pid then []
  else if !isShell before archived.metadata then []
  else (-(pid : Int),.term) :: if later.alive pid then [(-(pid : Int),.kill)] else []

/-- What is sent for the session of each journal. -/
def killOrphanedProcesses (serde : Serde) (before later : String → Processes) (dir : Directory) :
    List (String × List (Int × Signal)) :=
  dir.entries.filterMap fun file => (recoverSingleJournal serde file.1 file.2).toOption.map fun archived =>
    (file.1,killOrphan (before file.1) (later file.1) archived)

/-! ### Exit lines -/

/-- The exit line of every code reads back. -/
theorem parseExitCode_exitLine {code : Int} (least : -2 ^ 31 ≤ code) (most : code < 2 ^ 31) :
    parseExitCode (SessionExit.exitLine (.ok (some code))) = some code := by
  have read : parseSigned (2 ^ 31) (toString code).toList = some code :=
    parseSigned_toString (by push_cast; exact least) (by push_cast; exact most)
  have line : (SessionExit.exitLine (.ok (some code))).toList = exitPrefix ++ (toString code).toList :=
    String.toList_append
  have front : exitPrefix.isPrefixOf (exitPrefix ++ (toString code).toList) = true :=
    List.isPrefixOf_iff_prefix.mpr (List.prefix_append ..)
  rw [parseExitCode,line,if_pos front,List.drop_left,trim_toString,read]

/-- The line of a failed wait does not. -/
theorem parseExitCode_waitError (e : String) : parseExitCode (SessionExit.exitLine (.error e)) = none := by
  have line : (SessionExit.exitLine (.error e)).toList = "Process wait error: ".toList ++ e.toList := String.toList_append
  rw [parseExitCode,line]
  rfl

/-! ### What a journal gives back -/

@[simp] theorem toOutputEntry_fromOutputEntry (e : OutputEntry) : toOutputEntry (.fromOutputEntry e) = e := by
  obtain ⟨seq,stream,data,now⟩ := e
  cases stream <;> rfl

/-- The exit code that the entries tell, the last one first. -/
def exitCodeOf (written : List JournalEntry) : Option Int :=
  written.foldl (fun code entry => if entry.t = 'x' then (parseExitCode entry.d).or code else code) none

/-- Whether an entry is an exit line. -/
def tellsExit (entry : JournalEntry) : Bool := entry.t = 'x' && (parseExitCode entry.d).isSome

theorem exitCodeOf_isSome {written : List JournalEntry} : (exitCodeOf written).isSome = written.any tellsExit := by
  have told : ∀ code : Option Int, (written.foldl (fun code entry =>
      if entry.t = 'x' then (parseExitCode entry.d).or code else code) code).isSome =
        (code.isSome || written.any tellsExit) := by
    induction written with
    | nil => simp
    | cons entry rest ih =>
      intro code
      rw [List.foldl_cons,ih,List.any_cons,tellsExit]
      split
      · next system => cases parseExitCode entry.d <;> simp [system]
      · next program => simp [program]
  rw [exitCodeOf,told none,Option.isSome_none,Bool.false_or]

section
variable {serde : Serde} {metadata : SessionMetadata} {written : List JournalEntry}

theorem recoverLine_foldl (reads : ∀ entry ∈ written, serde.entry.Reads entry) (entries : List OutputEntry)
    (code : Option Int) :
    (written.map serde.entry.text).foldl (recoverLine serde) (entries,code) =
      (entries ++ written.map toOutputEntry,
        written.foldl (fun code entry => if entry.t = 'x' then (parseExitCode entry.d).or code else code) code) := by
  induction written generalizing entries code with
  | nil => simp
  | cons entry rest ih =>
    have here := reads entry List.mem_cons_self
    have line : recoverLine serde (entries,code) (serde.entry.text entry) =
        (entries ++ [toOutputEntry entry],if entry.t = 'x' then (parseExitCode entry.d).or code else code) := by
      rw [recoverLine,if_neg (by simpa using here.nonempty),here.back]
    rw [List.map_cons,List.foldl_cons,line,ih fun other member => reads other (List.mem_cons_of_mem entry member)]
    simp

/-- A file reads back as what was written to it. -/
theorem recoverSingleJournal_journalText {sessionId : String} (header : serde.metadata.Reads metadata)
    (reads : ∀ entry ∈ written, serde.entry.Reads entry) :
    recoverSingleJournal serde sessionId (journalText serde metadata written) =
      .ok ⟨sessionId,metadata,written.map toOutputEntry,exitCodeOf written⟩ := by
  have whole : lines (journalText serde metadata written) =
      serde.metadata.text metadata :: written.map serde.entry.text := by
    refine lines_written ?_ ?_
    · intro text member
      rcases List.mem_cons.mp member with rfl | within
      · exact header.oneLine
      · obtain ⟨entry,among,rfl⟩ := List.mem_map.mp within
        exact (reads entry among).oneLine
    · intro text member
      rcases List.mem_cons.mp member with rfl | within
      · exact header.noReturn
      · obtain ⟨entry,among,rfl⟩ := List.mem_map.mp within
        exact (reads entry among).noReturn
  simp only [recoverSingleJournal,whole,header.back,recoverLine_foldl reads,List.nil_append,exitCodeOf]

end

/-- Only the processes of sessions without an exit code are signalled. -/
theorem killOrphan_ended {before later : Processes} {archived : ArchivedSession} (ended : archived.exitCode.isSome = true) :
    killOrphan before later archived = [] := by
  rw [killOrphan,if_pos ended]

end Sctl.Journals
