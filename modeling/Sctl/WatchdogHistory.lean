import Sctl.FileReads
import Sctl.RelayInput
import Sctl.RotatingLogs
import Sctl.Texts

/-!
The history of the watchdog's actions (`record_history_and_detect_regression` of
`server/src/lte_watchdog.rs`, `watchdog_history` of `server/src/routes/lte.rs`): a
file with one JSON object a line, rotated at five megabytes. After each entry the
file is read back and the entries of the last hour with the same symptom and action
are counted. Printing and reading JSON is a library's.
-/
namespace Sctl.WatchdogHistory
open Files RotatingLogs Runs
open FileReads (fromUtf8 fromUtf8_encode)

structure Entry where
  tsUnix : Nat
  symptom : String
  action : String
  level : Nat
  detail : String

/-- The line that is recorded. -/
def Entry.json (e : Entry) : Json :=
  .object [("ts_unix",.number (toString e.tsUnix)),("symptom",.string e.symptom),("action",.string e.action),
    ("level",.number (toString e.level)),("detail",.string e.detail)]

/-- The library's printer and reader. -/
structure Library where
  print : Json → Text
  parse : Text → Option Json

/-- An entry is printed on one line, in which control characters are escaped, and read back as it was. -/
structure Library.Carries (lib : Library) (e : Entry) : Prop where
  oneLine : ∀ c ∈ lib.print e.json, c ≠ '\n' ∧ c ≠ '\r'
  visible : Texts.trim (lib.print e.json) ≠ []
  reads : lib.parse (lib.print e.json) = some e.json

/-- The size at which the history is rotated. -/
def maxBytes : Nat := 5 * 1024 * 1024

/-- The lines of a file that was read as text; a file that cannot be read is empty. -/
def linesOf (content : Option Bytes) : List Text := Texts.lines ((content.bind fromUtf8).getD [])

section
variable (lib : Library)

def line (e : Entry) : Bytes := Utf8.encode (lib.print e.json ++ ['\n'])

/-- What `watchdog_history` answers, where the file is UTF-8. -/
def watchdogHistory (content : Option Bytes) : List Json :=
  ((linesOf content).filter fun l => Texts.trim l ≠ []).filterMap lib.parse

/-- An entry of the file that counts: at most an hour old, with this symptom and action. -/
def counts (now : Nat) (symptom action : String) (v : Json) : Bool :=
  let oneHourAgo := now - 3600
  decide (oneHourAgo ≤ ((v.field "ts_unix").bind RelayInput.asU64).getD 0) &&
    ((v.field "symptom").bind Json.asStr == some symptom) && ((v.field "action").bind Json.asStr == some action)

/-- How often the pair is found in the file. -/
def fired (content : Option Bytes) (now : Nat) (symptom action : String) : Nat :=
  ((linesOf content).filterMap lib.parse).countP (counts now symptom action)

/-- The count of the event `lte.watchdog.regression`, if there is one. -/
def regression (content : Option Bytes) (now : Nat) (symptom action : String) : Option Nat :=
  let count := fired lib content now symptom action
  if 3 ≤ count then some count else none

/-- The entry is about this pair and at most an hour old. -/
def Entry.within (now : Nat) (symptom action : String) (e : Entry) : Bool :=
  decide (now ≤ e.tsUnix + 3600) && (e.symptom == symptom) && (e.action == action)

/-- What can be recorded: the time is a `u64`. -/
def Proper (e : Entry) : Prop := e.tsUnix < 2 ^ 64 ∧ lib.Carries e

/-- The line of an entry. -/
def Entered (l : Bytes) : Prop := ∃ e : Entry, Proper lib e ∧ l = line lib e

/-- Between two entries the history are the entries since the last rotation, and a regression is
    reported with how many of them are about the pair, where these are three or more. -/
def Faithful (s : State) : Prop :=
  s.pc = .idle → ∃ es : List Entry, s.lines = es.map (line lib) ∧ ∃ k, (s.old = none → k = 0) ∧
    watchdogHistory lib s.live = (es.drop k).map Entry.json ∧
    ∀ now symptom action, fired lib s.live now symptom action = (es.drop k).countP (Entry.within now symptom action)

end

/-! ### Entries in a file -/

section
variable {lib : Library}

/-- Digits that are read as a number are the digits of that number. -/
theorem foldl_of_readDigits {limit : Nat} {text : List Char} {value n : Nat} (read : Texts.readDigits 10 limit value text = some n) :
    text.foldl (fun n c => 10 * n + (c.toNat - '0'.toNat)) value = n ∧ text.all Char.isDigit = true := by
  induction text generalizing value with
  | nil => exact ⟨Option.some.inj read,rfl⟩
  | cons c rest ih =>
    obtain ⟨digit,known,more⟩ := Option.bind_eq_some_iff.mp read
    split_ifs at more
    have isDigit : c.isDigit = true ∧ digit = c.toNat - '0'.toNat := by
      unfold Texts.toDigit at known
      dsimp only at known
      by_cases decimal : '0'.toNat ≤ c.toNat ∧ c.toNat ≤ '9'.toNat
      · rw [if_pos decimal] at known
        split_ifs at known
        have zero : '0'.toNat = 48 := rfl
        have nine : '9'.toNat = 57 := rfl
        refine ⟨?_,(Option.some.inj known).symm⟩
        simp only [Char.isDigit,Bool.and_eq_true,decide_eq_true_eq,ge_iff_le,UInt32.le_iff_toNat_le]
        exact decimal
      · rw [if_neg decimal] at known
        split_ifs at known <;> omega
    obtain ⟨same,all⟩ := ih more
    refine ⟨?_,by rw [List.all_cons,isDigit.1,all]; rfl⟩
    rw [List.foldl_cons,← same,isDigit.2,Nat.mul_comm]

theorem asU64_toString {n : Nat} (small : n < 2 ^ 64) : RelayInput.asU64 (.number (toString n)) = some n := by
  have text : (toString n).toList = Nat.toDigits 10 n := Texts.toString_ofNat n
  obtain ⟨value,digits⟩ := foldl_of_readDigits (Texts.readDigits_decimal small)
  simp only [RelayInput.asU64,text,value,digits]
  rw [if_pos ⟨Nat.toDigits_ne_nil,trivial⟩,if_pos small]

theorem counts_json {e : Entry} (small : e.tsUnix < 2 ^ 64) (now : Nat) (symptom action : String) :
    counts now symptom action e.json = e.within now symptom action := by
  have ts : e.json.field "ts_unix" = some (.number (toString e.tsUnix)) := rfl
  have sym : e.json.field "symptom" = some (.string e.symptom) := rfl
  have act : e.json.field "action" = some (.string e.action) := rfl
  have hour : now - 3600 ≤ e.tsUnix ↔ now ≤ e.tsUnix + 3600 := by omega
  simp only [counts,Entry.within,ts,sym,act,Option.bind_some,asU64_toString small,Option.getD_some,Json.asStr,hour,
    Option.some_beq_some]

/-- A file of lines of entries is read as the entries. -/
theorem linesOf_lines {content : Option Bytes} (es : List Entry) (proper : ∀ e ∈ es, Proper lib e)
    (whole : content.getD [] = (es.map (line lib)).flatten) :
    linesOf content = es.map fun e => lib.print e.json := by
  have text : (es.map (line lib)).flatten = Utf8.encode ((es.map fun e => lib.print e.json).flatMap fun text => text ++ ['\n']) := by
    clear whole proper
    induction es with
    | nil => rfl
    | cons e rest later =>
      simp only [List.map_cons,List.flatten_cons,List.flatMap_cons,Utf8.encode_append (_ ++ _)] at later ⊢
      rw [later,line]
  have read : (content.bind fromUtf8).getD [] = (es.map fun e => lib.print e.json).flatMap fun text => text ++ ['\n'] := by
    cases content with
    | none =>
      rw [Option.getD_none,text] at whole
      rw [← Utf8.decodeFrom_encode ((es.map fun e => lib.print e.json).flatMap fun text => text ++ ['\n']),← whole]
      rfl
    | some bytes =>
      obtain rfl : bytes = _ := whole.trans text
      rw [Option.bind_some,fromUtf8_encode,Option.getD_some]
  rw [linesOf,read]
  refine Texts.lines_written ?_ ?_
  · intro text member newline
    obtain ⟨e,there,rfl⟩ := List.mem_map.mp member
    exact ((proper e there).2.oneLine _ newline).1 rfl
  · intro text member last
    obtain ⟨e,there,rfl⟩ := List.mem_map.mp member
    exact ((proper e there).2.oneLine _ (List.mem_of_getLast? last)).2 rfl

/-- What the file tells of its entries. -/
theorem read_entries {content : Option Bytes} {es : List Entry} (whole : content.getD [] = (es.map (line lib)).flatten)
    (proper : ∀ e ∈ es, Proper lib e) : watchdogHistory lib content = es.map Entry.json ∧
      ∀ now symptom action, fired lib content now symptom action = es.countP (Entry.within now symptom action) := by
  have parsed : (es.map fun e => lib.print e.json).filterMap lib.parse = es.map Entry.json := by
    rw [List.filterMap_map,← List.filterMap_eq_map]
    exact List.filterMap_congr fun e member => (proper e member).2.reads
  constructor
  · rw [watchdogHistory,linesOf_lines es proper whole,List.filter_eq_self.mpr ?_,parsed]
    intro text member
    obtain ⟨e,there,rfl⟩ := List.mem_map.mp member
    exact decide_eq_true (proper e there).2.visible
  · intro now symptom action
    rw [fired,linesOf_lines es proper whole,parsed,List.countP_map]
    exact List.countP_congr fun e member => by rw [Function.comp_apply,counts_json (proper e member).1]

/-- What is being appended, and what was, are lines of entries. -/
structure Recorded (lib : Library) (s : State) : Prop where
  whole : ∃ lost before since, Whole s lost before since
  lines : ∀ l ∈ s.lines, Entered lib l
  current : ∀ l ∈ s.pc.line, Entered lib l

/-- Lines of entries are the lines of some entries. -/
theorem entries_of_lines {ls : List Bytes} (entered : ∀ l ∈ ls, Entered lib l) :
    ∃ es : List Entry, (∀ e ∈ es, Proper lib e) ∧ ls = es.map (line lib) := by
  induction ls with
  | nil => exact ⟨[],nofun,rfl⟩
  | cons l rest ih =>
    obtain ⟨⟨e,proper,rfl⟩,later⟩ := List.forall_mem_cons.mp entered
    obtain ⟨es,all,rfl⟩ := ih later
    exact ⟨e :: es,List.forall_mem_cons.mpr ⟨proper,all⟩,rfl⟩

theorem Recorded.faithful {s : State} (recorded : Recorded lib s) : Faithful lib s := by
  intro idle
  obtain ⟨lost,before,since,lines,old,unrotated,live⟩ := recorded.whole
  obtain ⟨es,proper,same⟩ := entries_of_lines recorded.lines
  have here : s.live.getD [] = ((es.drop (lost ++ before).length).map (line lib)).flatten := by
    rw [List.map_drop,← same,lines,List.drop_left,live,idle]
    exact List.append_nil _
  obtain ⟨shown,counted⟩ := read_entries here fun e member => proper e (List.mem_of_mem_drop member)
  refine ⟨es,same,(lost ++ before).length,fun none_ => ?_,shown,counted⟩
  obtain ⟨rfl,rfl⟩ := unrotated none_
  rfl

end

/-- An action that failed, and a library that prints it and reads it. -/
def usbCycle : Entry := ⟨1700000000,"unresponsive","usb_cycle",3,"USB cycle"⟩

end Sctl.WatchdogHistory
