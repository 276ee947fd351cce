import Sctl.LastOccurrence
import Sctl.McpClient
import Sctl.Texts

/-!
A command run in a session that stays open. The client wraps it in two markers and
polls the session's output; after each poll it looks for the done marker with a digit
behind it in all the text so far, and takes what stands there for the exit code.
-/
namespace Sctl.ExecWait
open Sctl.LastOccurrence Sctl.McpClient Sctl.SessionBuffer
open Sctl.Readers (SessionStatus)

abbrev Text := List Char

/-! ### The wrapped command -/

def startMarker (nonce : Text) : Text := "__SCTL_".toList ++ nonce ++ "_START__".toList

def doneMarker (nonce : Text) : Text := "__SCTL_".toList ++ nonce ++ "_DONE_".toList

/-- The line that is sent; its shell prints the markers. -/
def wrapped (nonce command : Text) : Text :=
  "printf '".toList ++ startMarker nonce ++ "\\n'; ".toList ++ command ++ " ; printf '\\n".toList ++ doneMarker nonce ++
    "%s__\\n' \"$?\"".toList

/-! ### The scan -/

structure ExecWaitResult where
  output : Text
  exitCode : Option Int
  timedOut : Bool
deriving DecidableEq

/-- The text before the first `sought`, or all of it. -/
def beforeFirst (sought : Text) : Text → Text
  | [] => []
  | c :: rest => if sought.isPrefixOf (c :: rest) then [] else c :: beforeFirst sought rest

/-- What stands before the last done marker with a digit behind it. Each turn of the
    loop shortens the text that is searched, so that as many turns as it is long do. -/
def findDone (done accumulated : Text) : Nat → Text → Option Text
  | 0,_ => none
  | turns + 1,upTo =>
    match splitLast done upTo with
    | none => none
    | some (before,_) =>
      match accumulated.drop (before.length + done.length) with
      | c :: _ => if c.isDigit then some before else findDone done accumulated turns before
      | [] => findDone done accumulated turns before

/-- `split("__").next()`, then `trim` and `parse::<i32>`. -/
def readCode (afterDone : Text) : Option Int := Texts.parseSigned (2 ^ 31) (Texts.trim (beforeFirst ['_','_'] afterDone))

/-- Where the output starts: behind the line of the last start marker. -/
def outputStart (start before : Text) : Nat :=
  match splitLast start before with
  | some (lead,tail) => lead.length + start.length + (if '\n' ∈ tail then tail.idxOf '\n' + 1 else 0)
  | none => 0

def outputEnd (before : Text) : Nat :=
  match splitLast ['\n'] before with
  | some (lead,_) => lead.length
  | none => before.length

def outputOf (start before : Text) : Text :=
  if outputStart start before ≤ outputEnd before then (before.take (outputEnd before)).drop (outputStart start before) else []

def scan (nonce accumulated : Text) : Option ExecWaitResult :=
  (findDone (doneMarker nonce) accumulated (accumulated.length + 1) accumulated).map fun before =>
    ⟨outputOf (startMarker nonce) before,readCode (accumulated.drop (before.length + (doneMarker nonce).length)),false⟩

/-! ### The polls -/

structure Call where
  sessionId : String
  nonce : Text
  deadline : Nat
  /-- The last number in the buffer when the command is sent. -/
  startSeq : Nat

/-- One turn of the loop: when it begins, in ms, whether the client is connected then,
    and the session's buffer when `read_output` has waited for it. -/
structure Poll where
  now : Nat
  connected : Bool
  buffer : Option SessionBuffer

structure Progress where
  accumulated : Text
  lastReadSeq : Nat
  disconnectedSince : Option Nat

inductive Turn
  | returns (result : Except String ExecWaitResult)
  | goesOn (s : Progress)

def disconnectGraceSecs : Nat := 10

/-- The text of some entries. -/
def dataOf (entries : List OutputEntry) : Text := entries.flatMap fun e => e.data.toList

def lastSeq (since : Nat) (entries : List OutputEntry) : Nat := entries.foldl (fun seq e => max seq e.seq) since

def turn (call : Call) (s : Progress) (p : Poll) : Turn :=
  if call.deadline ≤ p.now then .returns (.ok ⟨s.accumulated,none,true⟩)
  else
    let disconnectedSince := if p.connected then none else some (s.disconnectedSince.getD p.now)
    if disconnectedSince.any fun since => disconnectGraceSecs ≤ (p.now - since) / 1000 then
      .returns (.error "WebSocket disconnected for 10s during exec_wait")
    else
      match p.buffer with
      | none => .returns (.error ("Session " ++ call.sessionId ++ " not found locally"))
      | some b =>
        let entries := b.readOutput s.lastReadSeq
        let accumulated := s.accumulated ++ dataOf entries
        if b.status = .exited then .returns (.ok ⟨accumulated,b.exitCode,false⟩)
        else
          match scan call.nonce accumulated with
          | some result => .returns (.ok result)
          | none => .goesOn ⟨accumulated,lastSeq s.lastReadSeq entries,disconnectedSince⟩

/-- The loop over some polls; `none` when it goes on after them. -/
def loop (call : Call) : Progress → List Poll → Option (Except String ExecWaitResult)
  | _,[] => none
  | s,p :: polls =>
    match turn call s p with
    | .returns result => some result
    | .goesOn s => loop call s polls

def execWait (call : Call) (polls : List Poll) : Option (Except String ExecWaitResult) :=
  loop call ⟨[],call.startSeq,none⟩ polls

/-! ### What the session prints -/

/-- The hexadecimal digits of the clock. -/
def IsNonce (nonce : Text) : Prop := ∀ c ∈ nonce, c.isDigit = true ∨ ('a' ≤ c ∧ c ≤ 'f')

/-- Neither marker is in the text. -/
structure Unmarked (nonce text : Text) : Prop where
  start : ¬ startMarker nonce <:+: text
  done : ¬ doneMarker nonce <:+: text

/-- The terminal's echo of the wrapped line, where there is one. -/
inductive Echo (nonce command : Text) : Text → Prop
  | absent : Echo nonce command []
  | newline : Echo nonce command (wrapped nonce command ++ ['\n'])
  | carriageReturn : Echo nonce command (wrapped nonce command ++ ['\r','\n'])

def codeText (code : Nat) : Text := (toString (Int.ofNat code)).toList

/-- What comes before the done marker. -/
def lead (nonce echo output : Text) : Text := echo ++ startMarker nonce ++ '\n' :: output ++ ['\n']

def streamOf (nonce echo output : Text) (code : Nat) : Text :=
  lead nonce echo output ++ doneMarker nonce ++ (codeText code ++ ['_','_','\n'])

/-- The polls find the session running and read these entries, one batch each. -/
def Reads : Nat → List Poll → List (List OutputEntry) → Prop
  | _,[],[] => True
  | since,p :: polls,batch :: batches =>
    (∃ b, p.buffer = some b ∧ b.status = .running ∧ b.readOutput since = batch) ∧ Reads (lastSeq since batch) polls batches
  | _,_,_ => False

/-- Neither the time is up nor the connection gone. -/
def Alive (call : Call) (p : Poll) : Prop := p.now < call.deadline ∧ p.connected = true

/-- How long the text is after each poll. -/
def cuts : Nat → List (List OutputEntry) → List Nat
  | _,[] => []
  | n,batch :: batches => (n + (dataOf batch).length) :: cuts (n + (dataOf batch).length) batches

/-- The first poll that gets a digit behind the done marker gets all digits, and not
    one underscore alone. -/
def CodeWhole (marked digits : Nat) (lengths : List Nat) : Prop :=
  ∀ n, lengths.find? (fun n => marked < n) = some n → marked + digits ≤ n ∧ n ≠ marked + digits + 1

/-! ### Where the done marker stands -/

section Markers
variable {nonce command echo output : Text}

theorem free_nonce (hex : IsNonce nonce) {c : Char} (noDigit : c.isDigit = false) (noLetter : ¬ ('a' ≤ c ∧ c ≤ 'f')) : c ∉ nonce := by
  intro member
  rcases hex c member with digit | letter
  · rw [noDigit] at digit
    cases digit
  · exact noLetter letter

theorem free_start (hex : IsNonce nonce) {c : Char} (noDigit : c.isDigit = false) (noLetter : ¬ ('a' ≤ c ∧ c ≤ 'f'))
    (fixed : c ∉ "__SCTL_START".toList) : c ∉ startMarker nonce := by
  have parts : ("__SCTL_".toList ++ "_START__".toList) ⊆ "__SCTL_START".toList := by decide
  intro member
  unfold startMarker at member
  rw [List.mem_append,List.mem_append] at member
  rcases member with (front | inside) | back
  · exact fixed (parts (List.mem_append_left _ front))
  · exact free_nonce hex noDigit noLetter inside
  · exact fixed (parts (List.mem_append_right _ back))

theorem free_done (hex : IsNonce nonce) {c : Char} (noDigit : c.isDigit = false) (noLetter : ¬ ('a' ≤ c ∧ c ≤ 'f'))
    (fixed : c ∉ "__SCTL_DONE".toList) : c ∉ doneMarker nonce := by
  have parts : ("__SCTL_".toList ++ "_DONE_".toList) ⊆ "__SCTL_DONE".toList := by decide
  intro member
  unfold doneMarker at member
  rw [List.mem_append,List.mem_append] at member
  rcases member with (front | inside) | back
  · exact fixed (parts (List.mem_append_left _ front))
  · exact free_nonce hex noDigit noLetter inside
  · exact fixed (parts (List.mem_append_right _ back))

/-- A letter that only the done marker has. -/
theorem done_letter (nonce : Text) : 'D' ∈ doneMarker nonce := by
  unfold doneMarker
  rw [List.mem_append]
  exact .inr (by decide)

theorem not_in_start (hex : IsNonce nonce) (before after : Text) : startMarker nonce ≠ before ++ doneMarker nonce ++ after :=
  not_occurs (done_letter nonce) (free_start hex (by decide) (by decide) (by decide))

/-- In the wrapped line the done marker stands before a percent sign. -/
theorem done_in_wrapped (hex : IsNonce nonce) (unmarked : ¬ doneMarker nonce <:+: command) {before after : Text}
    (whole : wrapped nonce command = before ++ doneMarker nonce ++ after) : after.head? = some '%' := by
  have letter := done_letter nonce
  have blank := free_done hex (show ' '.isDigit = false by decide) (by decide) (by decide)
  have slash := free_done hex (show '\\'.isDigit = false by decide) (by decide) (by decide)
  have percent := free_done hex (show '%'.isDigit = false by decide) (by decide) (by decide)
  have shape : wrapped nonce command = ("printf '".toList ++ startMarker nonce ++ "\\n';".toList) ++ ' ' ::
      (command ++ ' ' :: ("; printf '".toList ++ '\\' :: (('n' :: doneMarker nonce) ++ '%' :: "s__\\n' \"$?\"".toList))) := by
    unfold wrapped
    simp
  have noLetter : 'D' ∉ "printf '".toList ++ startMarker nonce ++ "\\n';".toList := by
    have inner := free_start hex (show 'D'.isDigit = false by decide) (by decide) (by decide)
    simpa using inner
  rw [shape] at whole
  rcases occurs_apart blank whole with ⟨more,first,-⟩ | ⟨more,-,rest⟩
  · exact absurd first (not_occurs letter noLetter)
  rcases occurs_apart blank rest with ⟨more,first,-⟩ | ⟨more,-,rest⟩
  · exact absurd ⟨_,_,first.symm⟩ unmarked
  rcases occurs_apart slash rest with ⟨more,first,-⟩ | ⟨more,-,rest⟩
  · exact absurd first (not_occurs letter (by decide))
  rcases occurs_apart percent rest with ⟨more,first,tail⟩ | ⟨more,-,rest⟩
  · -- the marker is one symbol shorter than the text, and that symbol is the `n`
    have lengths := congrArg List.length first
    simp only [List.length_append,List.length_cons] at lengths
    rename_i front
    cases front with
    | nil =>
      have heads := congrArg List.head? first
      unfold doneMarker at heads
      simp at heads
    | cons c front =>
      have none_ : more = [] := List.length_eq_zero_iff.mp (by simp only [List.length_cons] at lengths; omega)
      rw [tail,none_]
      rfl
  · exact absurd rest (not_occurs letter (by decide))

/-- The echo has the done marker before a percent sign only. -/
theorem done_in_echo (hex : IsNonce nonce) (unmarked : ¬ doneMarker nonce <:+: command) (echoed : Echo nonce command echo)
    {before after : Text} (whole : echo ++ startMarker nonce = before ++ doneMarker nonce ++ after) : after.head? = some '%' := by
  have newline := free_done hex (show '\n'.isDigit = false by decide) (by decide) (by decide)
  have return_ := free_done hex (show '\r'.isDigit = false by decide) (by decide) (by decide)
  have head : ∀ {more rest : Text}, more.head? = some '%' → (more ++ rest).head? = some '%' := by
    intro more rest first
    cases more with
    | nil => cases first
    | cons c more => exact first
  cases echoed with
  | absent => exact absurd whole (not_in_start hex _ _)
  | newline =>
    have shape : wrapped nonce command ++ ['\n'] ++ startMarker nonce = wrapped nonce command ++ '\n' :: startMarker nonce := by simp
    rw [shape] at whole
    rcases occurs_apart newline whole with ⟨more,first,rfl⟩ | ⟨more,-,rest⟩
    · exact head (done_in_wrapped hex unmarked first)
    · exact absurd rest (not_in_start hex _ _)
  | carriageReturn =>
    have shape : wrapped nonce command ++ ['\r','\n'] ++ startMarker nonce =
        wrapped nonce command ++ '\r' :: ([] ++ '\n' :: startMarker nonce) := by simp
    rw [shape] at whole
    rcases occurs_apart return_ whole with ⟨more,first,rfl⟩ | ⟨more,-,rest⟩
    · exact head (done_in_wrapped hex unmarked first)
    rcases occurs_apart newline rest with ⟨more,first,-⟩ | ⟨more,-,rest⟩
    · exact absurd first (not_occurs (done_letter nonce) (by simp))
    · exact absurd rest (not_in_start hex _ _)

theorem digit_of_code {code : Nat} {c : Char} (member : c ∈ codeText code) : c.isDigit = true := by
  rw [codeText,Texts.toString_ofNat] at member
  exact Nat.isDigit_of_mem_toDigits (by decide) (by decide) member

/-- Behind its own start the done marker does not occur again: its `S` is the last one. -/
theorem done_once (hex : IsNonce nonce) {code : Nat} {before after : Text}
    (whole : doneMarker nonce ++ (codeText code ++ ['_','_','\n']) = before ++ doneMarker nonce ++ after) : before = [] := by
  have shape : doneMarker nonce = '_' :: '_' :: 'S' :: ("CTL_".toList ++ nonce ++ "_DONE_".toList) := by
    unfold doneMarker
    simp
  have noLetter : 'S' ∉ "CTL_".toList ++ nonce ++ "_DONE_".toList ++ (codeText code ++ ['_','_','\n']) := by
    have inner := free_nonce hex (show 'S'.isDigit = false by decide) (by decide)
    have digits : 'S' ∉ codeText code := fun member => absurd (digit_of_code member) (by decide)
    simp [inner,digits]
  rw [shape] at whole
  match before with
  | [] => rfl
  | [_] =>
    have third := (List.cons.inj (List.cons.inj (List.cons.inj whole).2).2).1
    cases third
  | [_,_] =>
    have third := (List.cons.inj (List.cons.inj (List.cons.inj whole).2).2).1
    cases third
  | _ :: _ :: _ :: before =>
    have rest := (List.cons.inj (List.cons.inj (List.cons.inj whole).2).2).2
    refine absurd ?_ noLetter
    rw [List.append_eq] at rest
    rw [rest]
    simp

/-- In the stream the done marker stands where it belongs, or earlier before a percent sign. -/
theorem done_places (hex : IsNonce nonce) (unmarked : ¬ doneMarker nonce <:+: command) (echoed : Echo nonce command echo)
    (plain : Unmarked nonce output) {code : Nat} {before after : Text}
    (whole : streamOf nonce echo output code = before ++ doneMarker nonce ++ after) :
    before = lead nonce echo output ∨ (before.length < (lead nonce echo output).length ∧ after.head? = some '%') := by
  have newline := free_done hex (show '\n'.isDigit = false by decide) (by decide) (by decide)
  have shape : streamOf nonce echo output code = (echo ++ startMarker nonce) ++ '\n' ::
      (output ++ '\n' :: (doneMarker nonce ++ (codeText code ++ ['_','_','\n']))) := by
    rw [streamOf,lead]
    simp
  rw [shape] at whole
  rcases occurs_apart newline whole with ⟨more,first,rfl⟩ | ⟨more,first,rest⟩
  · right
    have early := done_in_echo hex unmarked echoed first
    have lengths := congrArg List.length first
    simp only [List.length_append] at lengths
    refine ⟨?_,?_⟩
    · simp only [lead,List.length_append,List.length_cons,List.length_nil]
      omega
    · cases more with
      | nil => cases early
      | cons c more => exact early
  · rcases occurs_apart newline rest with ⟨_,inside,-⟩ | ⟨more',second,rest'⟩
    · exact absurd ⟨_,_,inside.symm⟩ plain.done
    · left
      rw [done_once hex rest'] at second
      rw [first,second,lead]
      simp

/-! ### The scan of a part of the stream -/

theorem startMarker_ne_nil (nonce : Text) : startMarker nonce ≠ [] := by
  unfold startMarker
  simp

/-- The output's line of the start marker is the last one with it. -/
theorem start_last (hex : IsNonce nonce) (plain : Unmarked nonce output) (echo : Text) :
    splitLast (startMarker nonce) (lead nonce echo output) = some (echo,'\n' :: output ++ ['\n']) := by
  have newline := free_start hex (show '\n'.isDigit = false by decide) (by decide) (by decide)
  have shape : lead nonce echo output = echo ++ startMarker nonce ++ ('\n' :: output ++ ['\n']) := by
    rw [lead]
    simp
  rw [shape]
  refine splitLast_of_last fun front back whole => ?_
  rcases occurs_apart newline whole with ⟨more,first,-⟩ | ⟨more,-,rest⟩
  · have lengths := congrArg List.length first
    simp only [List.length_append] at lengths
    omega
  · rcases occurs_apart newline (show output ++ '\n' :: [] = _ from rest) with ⟨more',inside,-⟩ | ⟨more',-,empty⟩
    · exact absurd ⟨_,_,inside.symm⟩ plain.start
    · have none_ := congrArg List.length empty
      have positive := List.length_pos_iff.mpr (startMarker_ne_nil nonce)
      simp only [List.length_append,List.length_nil] at none_
      omega

theorem newline_last (front : Text) : splitLast ['\n'] (front ++ ['\n']) = some (front,[]) := by
  have found := @splitLast_of_last Char _ ['\n'] front [] fun lead back whole => by
    have lengths := congrArg List.length whole
    simp only [List.length_append,List.length_cons,List.length_nil] at lengths
    omega
  rwa [List.append_nil] at found

/-- Between the start marker's line and the done marker's is the output. -/
theorem output_of_lead (hex : IsNonce nonce) (plain : Unmarked nonce output) (echo : Text) :
    outputOf (startMarker nonce) (lead nonce echo output) = output := by
  have starts : outputStart (startMarker nonce) (lead nonce echo output) = (echo ++ startMarker nonce ++ ['\n']).length := by
    rw [outputStart,start_last hex plain echo]
    simp
    omega
  have shape : lead nonce echo output = (echo ++ startMarker nonce ++ ['\n']) ++ output ++ ['\n'] := by
    rw [lead]
    simp
  have ends : outputEnd (lead nonce echo output) = ((echo ++ startMarker nonce ++ ['\n']) ++ output).length := by
    rw [outputEnd,shape,newline_last]
  have ordered : (echo ++ startMarker nonce ++ ['\n']).length ≤ ((echo ++ startMarker nonce ++ ['\n']) ++ output).length :=
    (List.prefix_append _ _).length_le
  rw [outputOf,starts,ends,if_pos ordered,shape,List.take_left,List.drop_left]

/-- As long as no digit is behind the done marker, it is not found. -/
theorem scan_early (hex : IsNonce nonce) (unmarked : ¬ doneMarker nonce <:+: command) (echoed : Echo nonce command echo)
    (plain : Unmarked nonce output) {code : Nat} {accumulated : Text} (part : accumulated <+: streamOf nonce echo output code)
    (early : accumulated.length ≤ (lead nonce echo output ++ doneMarker nonce).length) : scan nonce accumulated = none := by
  have searched : ∀ turns upTo, upTo <+: accumulated → findDone (doneMarker nonce) accumulated turns upTo = none := by
    intro turns
    induction turns with
    | zero => intros; rfl
    | succ turns ih =>
      intro upTo within
      rw [findDone]
      split
      case h_1 => rfl
      case h_2 before after found =>
        have here := (splitLast_eq_some found).1
        have first : before <+: accumulated := by
          rw [here,List.append_assoc] at within
          exact (List.prefix_append _ _).trans within
        obtain ⟨tail,rest⟩ := within
        obtain ⟨later,whole⟩ := part
        have place : streamOf nonce echo output code = before ++ doneMarker nonce ++ (after ++ tail ++ later) := by
          rw [← whole,← rest,here]
          simp
        have dropped : accumulated.drop (before.length + (doneMarker nonce).length) = after ++ tail := by
          rw [← rest,here,← List.length_append,List.append_assoc (before ++ doneMarker nonce),List.drop_left]
        rw [dropped]
        split
        case h_2 => exact ih before first
        case h_1 c others behind =>
          rcases done_places hex unmarked echoed plain place with rfl | ⟨-,percent⟩
          · -- the whole marker and more would be longer than the text
            rw [← rest,here,List.append_assoc (lead nonce echo output ++ doneMarker nonce),behind,List.length_append] at early
            simp only [List.length_append,List.length_cons] at early
            omega
          · rw [behind] at percent
            cases percent
            exact ih before first
  rw [scan,searched _ _ (List.prefix_refl _)]
  rfl

/-- With a digit behind it, it is found, and the output is right. -/
theorem scan_late (hex : IsNonce nonce) (unmarked : ¬ doneMarker nonce <:+: command) (echoed : Echo nonce command echo)
    (plain : Unmarked nonce output) {code : Nat} {tail : Text} (part : tail <+: codeText code ++ ['_','_','\n']) (some_ : tail ≠ []) :
    scan nonce (lead nonce echo output ++ doneMarker nonce ++ tail) = some ⟨output,readCode tail,false⟩ := by
  obtain ⟨later,whole⟩ := part
  have last : IsLast (doneMarker nonce) (lead nonce echo output ++ doneMarker nonce ++ tail) (lead nonce echo output) := by
    intro front back split
    have place : streamOf nonce echo output code = front ++ doneMarker nonce ++ (back ++ later) := by
      rw [streamOf,← whole,← List.append_assoc,split]
      simp
    rcases done_places hex unmarked echoed plain place with rfl | ⟨shorter,-⟩
    · exact Nat.le_refl _
    · exact Nat.le_of_lt shorter
  have found := splitLast_of_last last
  have dropped : (lead nonce echo output ++ doneMarker nonce ++ tail).drop ((lead nonce echo output).length + (doneMarker nonce).length) =
      tail := by
    rw [← List.length_append,List.drop_left]
  obtain ⟨c,rest,rfl⟩ := List.exists_cons_of_ne_nil some_
  have digit : c.isDigit = true := by
    have digits : codeText code ≠ [] := by
      rw [codeText,Texts.toString_ofNat]
      exact Nat.toDigits_ne_nil
    obtain ⟨d,others,shape⟩ := List.exists_cons_of_ne_nil digits
    have first : c = d := by
      rw [shape] at whole
      exact (List.cons.inj whole).1
    exact @digit_of_code code c (by rw [first,shape]; exact List.mem_cons_self)
  have search : findDone (doneMarker nonce) (lead nonce echo output ++ doneMarker nonce ++ c :: rest)
      ((lead nonce echo output ++ doneMarker nonce ++ c :: rest).length + 1) (lead nonce echo output ++ doneMarker nonce ++ c :: rest) =
        some (lead nonce echo output) := by
    rw [findDone,found]
    dsimp only
    rw [dropped]
    exact if_pos digit
  rw [scan,search,Option.map_some,dropped,output_of_lead hex plain echo]

end Markers

/-! ### The exit code -/

/-- More digits do not make a number smaller. -/
theorem readDigits_grows {limit value read : Nat} {digits : Text} (found : Texts.readDigits 10 limit value digits = some read) :
    value ≤ read ∧ (digits ≠ [] → value * 10 ≤ read) := by
  induction digits generalizing value with
  | nil =>
    cases found
    exact ⟨Nat.le_refl _,fun some_ => absurd rfl some_⟩
  | cons c digits ih =>
    rw [Texts.readDigits,Option.bind_eq_some_iff] at found
    obtain ⟨digit,-,found⟩ := found
    split at found
    · have more := (ih found).1
      exact ⟨by omega,fun _ => by omega⟩
    · cases found

theorem parseSigned_digit {limit : Nat} {c : Char} {rest : Text} (digit : c.isDigit = true) :
    Texts.parseSigned limit (c :: rest) = (Texts.readDigits 10 limit 0 (c :: rest)).map Int.ofNat := by
  have minus : c ≠ '-' := fun same => by simp [same] at digit
  have plus : c ≠ '+' := fun same => by simp [same] at digit
  unfold Texts.parseSigned
  split
  · next alone => exact absurd (List.cons.inj alone).1 minus
  · next signed => exact absurd (List.cons.inj signed).1 minus
  · unfold Texts.fromStrRadix
    split
    · next none_ => cases none_
    · next alone => exact absurd (List.cons.inj alone).1 plus
    · next signed => exact absurd (List.cons.inj signed).1 plus
    · cases Texts.readDigits 10 limit 0 (c :: rest) <;> rfl

/-- The code is read from the digits and from what stands up to the first two underscores. -/
theorem readCode_digits {digits rest : Text} (all : ∀ c ∈ digits, c.isDigit = true) (some_ : digits ≠ [])
    (plain : ∀ c ∈ beforeFirst ['_','_'] rest, c = '_') :
    readCode (digits ++ rest) = (Texts.readDigits 10 (2 ^ 31) 0 (digits ++ beforeFirst ['_','_'] rest)).map Int.ofNat := by
  have front : ∀ digits : Text, (∀ c ∈ digits, c.isDigit = true) →
      beforeFirst ['_','_'] (digits ++ rest) = digits ++ beforeFirst ['_','_'] rest := by
    intro digits all
    induction digits with
    | nil => rfl
    | cons c digits ih =>
      have digit := all c List.mem_cons_self
      have other : ['_','_'].isPrefixOf (c :: (digits ++ rest)) = false := by
        rw [List.isPrefixOf,Bool.and_eq_false_imp]
        intro same
        rw [← beq_iff_eq.mp same] at digit
        exact absurd digit (by decide)
      rw [List.cons_append,beforeFirst,other,if_neg Bool.false_ne_true,ih fun c member => all c (List.mem_cons_of_mem _ member)]
      rfl
  have blank : ∀ c ∈ digits ++ beforeFirst ['_','_'] rest, Texts.isWhitespace c = false := by
    intro c member
    rcases List.mem_append.mp member with digit | line
    · exact Texts.isWhitespace_digit (all c digit)
    · rw [plain c line]
      decide
  rw [readCode,front digits all,Texts.trim,Texts.trimBy_eq_self blank]
  obtain ⟨c,digits,rfl⟩ := List.exists_cons_of_ne_nil some_
  exact parseSigned_digit (all c List.mem_cons_self)

/-- A part of the code's text and of what comes behind it reads as the code exactly when
    it has all the digits and not one underscore alone. -/
theorem readCode_iff {code : Nat} (small : code ≤ 255) {n : Nat} (some_ : 0 < n) :
    readCode ((codeText code ++ ['_','_','\n']).take n) = some (code : Int) ↔
      (codeText code).length ≤ n ∧ n ≠ (codeText code).length + 1 := by
  have all : ∀ c ∈ codeText code, c.isDigit = true := fun c member => digit_of_code member
  have whole : Texts.readDigits 10 (2 ^ 31) 0 (codeText code) = some code := by
    rw [codeText,Texts.toString_ofNat]
    exact Texts.readDigits_decimal (by omega)
  have nonempty : codeText code ≠ [] := by
    rw [codeText,Texts.toString_ofNat]
    exact Nat.toDigits_ne_nil
  rcases Nat.lt_or_ge n (codeText code).length with few | full
  · -- some digits are missing
    rw [List.take_append_of_le_length few.le]
    refine iff_of_false (fun found => ?_) fun held => absurd held.1 (by omega)
    have part : (codeText code).take n ≠ [] := by
      rw [Ne,List.take_eq_nil_iff]
      rintro (rfl | none_)
      · exact absurd some_ (Nat.lt_irrefl 0)
      · exact nonempty none_
    have read := @readCode_digits _ [] (fun c member => all c (List.mem_of_mem_take member)) part (List.forall_mem_nil _)
    rw [List.append_nil,beforeFirst,List.append_nil,found] at read
    obtain ⟨m,value,same⟩ := Option.map_eq_some_iff.mp read.symm
    obtain rfl : m = code := Int.ofNat.inj same
    rw [← List.take_append_drop n (codeText m),Texts.readDigits_append,value,Option.bind_some] at whole
    have more := (readDigits_grows whole).2 fun none_ => by
      rw [List.drop_eq_nil_iff] at none_
      omega
    obtain rfl : m = 0 := by omega
    have one : (codeText 0).length = 1 := by decide
    omega
  · obtain ⟨k,rfl⟩ := Nat.exists_eq_add_of_le full
    rw [List.take_length_add_append,readCode_digits all nonempty]
    · match k with
      | 0 =>
        rw [show beforeFirst ['_','_'] (['_','_','\n'].take 0) = [] from rfl,List.append_nil,whole]
        exact iff_of_true rfl ⟨full,by omega⟩
      | 1 =>
        refine iff_of_false (fun found => ?_) fun held => held.2 rfl
        rw [show beforeFirst ['_','_'] (['_','_','\n'].take 1) = ['_'] from rfl,Texts.readDigits_append,whole] at found
        cases found
      | k + 2 =>
        rw [show beforeFirst ['_','_'] (['_','_','\n'].take (k + 2)) = [] from rfl,List.append_nil,whole]
        exact iff_of_true rfl ⟨full,by omega⟩
    · match k with
      | 0 => exact fun c member => by cases member
      | 1 => exact fun c member => List.mem_singleton.mp member
      | k + 2 => exact fun c member => by cases member

/-! ### The polls -/

section Polls
variable {call : Call} {command echo output : Text} {code : Nat}

/-- A poll of a running session goes on to the scan. -/
theorem turn_alive {s : Progress} {p : Poll} {b : SessionBuffer} (alive : Alive call p) (found : p.buffer = some b)
    (running : b.status = .running) :
    turn call s p =
      match scan call.nonce (s.accumulated ++ dataOf (b.readOutput s.lastReadSeq)) with
      | some result => .returns (.ok result)
      | none => .goesOn ⟨s.accumulated ++ dataOf (b.readOutput s.lastReadSeq),lastSeq s.lastReadSeq (b.readOutput s.lastReadSeq),none⟩ := by
  have open_ : ¬ call.deadline ≤ p.now := Nat.not_le_of_lt alive.1
  simp only [turn,if_neg open_,alive.2,found,running]
  rfl

/-- From text that has no digit behind the done marker yet, the rest of the stream. -/
theorem loop_iff (hex : IsNonce call.nonce) (unmarked : ¬ doneMarker call.nonce <:+: command) (echoed : Echo call.nonce command echo)
    (plain : Unmarked call.nonce output) (small : code ≤ 255) {polls : List Poll} {batches : List (List OutputEntry)} {s : Progress}
    (alive : ∀ p ∈ polls, Alive call p) (reads : Reads s.lastReadSeq polls batches)
    (whole : s.accumulated ++ dataOf batches.flatten = streamOf call.nonce echo output code)
    (early : s.accumulated.length ≤ (lead call.nonce echo output ++ doneMarker call.nonce).length) :
    loop call s polls = some (.ok ⟨output,some code,false⟩) ↔
      CodeWhole (lead call.nonce echo output ++ doneMarker call.nonce).length (codeText code).length (cuts s.accumulated.length batches) := by
  induction polls generalizing batches s with
  | nil =>
    cases batches with
    | cons batch batches => exact reads.elim
    | nil =>
      -- the stream is longer than what has been read
      have lengths := congrArg List.length whole
      simp only [streamOf,dataOf,List.flatten_nil,List.flatMap_nil,List.append_nil,List.length_append,List.length_cons] at lengths
      simp only [List.length_append] at early
      omega
  | cons p polls ih =>
    cases batches with
    | nil => exact reads.elim
    | cons batch batches =>
      obtain ⟨⟨b,found,running,rfl⟩,later⟩ := reads
      have turned := @turn_alive call s p b (alive p List.mem_cons_self) found running
      have split : s.accumulated ++ dataOf (b.readOutput s.lastReadSeq) ++ dataOf batches.flatten =
          streamOf call.nonce echo output code := by
        rw [← whole,List.flatten_cons,dataOf,dataOf,dataOf,List.flatMap_append,List.append_assoc]
      have size : (s.accumulated ++ dataOf (b.readOutput s.lastReadSeq)).length =
          s.accumulated.length + (dataOf (b.readOutput s.lastReadSeq)).length := List.length_append
      rw [loop,turned,cuts,← size]
      generalize s.accumulated ++ dataOf (b.readOutput s.lastReadSeq) = accumulated at split
      by_cases waits : accumulated.length ≤ (lead call.nonce echo output ++ doneMarker call.nonce).length
      · rw [scan_early hex unmarked echoed plain ⟨_,split⟩ waits]
        have rest := @ih batches ⟨accumulated,lastSeq s.lastReadSeq (b.readOutput s.lastReadSeq),none⟩
          (fun p member => alive p (List.mem_cons_of_mem _ member)) later split waits
        refine rest.trans ?_
        rw [CodeWhole,CodeWhole,List.find?_cons,decide_eq_false (Nat.not_lt_of_le waits)]
      · have beyond := Nat.lt_of_not_le waits
        obtain ⟨tail,rfl⟩ : (lead call.nonce echo output ++ doneMarker call.nonce) <+: accumulated :=
          List.prefix_of_prefix_length_le (List.prefix_append _ _) ⟨_,split⟩ (Nat.le_of_lt beyond)
        have part : tail <+: codeText code ++ ['_','_','\n'] := by
          rw [streamOf,List.append_assoc _ tail] at split
          exact ⟨_,List.append_cancel_left split⟩
        have length : tail.length + (lead call.nonce echo output ++ doneMarker call.nonce).length =
            (lead call.nonce echo output ++ doneMarker call.nonce ++ tail).length := by
          rw [@List.length_append Char _ tail]
          omega
        have some_ : tail ≠ [] := by
          rintro rfl
          simp at beyond
        rw [scan_late hex unmarked echoed plain part some_]
        have reads := readCode_iff small (List.length_pos_iff.mpr some_)
        rw [← List.prefix_iff_eq_take.mp part] at reads
        have answered : some (.ok ⟨output,readCode tail,false⟩ : Except String ExecWaitResult) =
            some (.ok ⟨output,some (code : Int),false⟩) ↔ readCode tail = some (code : Int) := by
          simp
        refine (answered.trans reads).trans ?_
        rw [CodeWhole,List.find?_cons,decide_eq_true beyond]
        simp only [Option.some.injEq,forall_eq']
        omega

end Polls

/-- However the stream is cut into entries and polls, the output and the exit code are
    exact if and only if the first poll that gets a digit of the code gets all of it and
    does not stop between the two underscores behind. -/
theorem exec_wait_exact_iff (call : Call) (command echo output : Text) (code : Nat) (polls : List Poll)
    (batches : List (List OutputEntry)) (hex : IsNonce call.nonce) (unmarked : ¬ doneMarker call.nonce <:+: command)
    (echoed : Echo call.nonce command echo) (plain : Unmarked call.nonce output) (small : code ≤ 255)
    (alive : ∀ p ∈ polls, Alive call p) (reads : Reads call.startSeq polls batches)
    (whole : dataOf batches.flatten = streamOf call.nonce echo output code) :
    execWait call polls = some (.ok ⟨output,some code,false⟩) ↔
      CodeWhole (lead call.nonce echo output ++ doneMarker call.nonce).length (codeText code).length (cuts 0 batches) :=
  @loop_iff call command echo output code hex unmarked echoed plain small polls batches ⟨[],call.startSeq,none⟩ alive reads whole
    (Nat.zero_le _)

/-! ### A code that is cut -/

def aCall : Call := ⟨"s","1f".toList,1000,0⟩

/-- What a command prints that is not found. -/
def notFound : Text := streamOf "1f".toList [] [] 127

def entry (seq : Nat) (text : Text) : OutputEntry := ⟨seq,.stdout,String.ofList text,0⟩

def polled (entries : List OutputEntry) : Poll := ⟨0,true,some { SessionBuffer.new with entries }⟩

/-- The stream in two polls. -/
def batchesAt (n : Nat) (text : Text) : List (List OutputEntry) := [[entry 1 (text.take n)],[entry 2 (text.drop n)]]

def pollsAt (n : Nat) (text : Text) : List Poll :=
  [polled [entry 1 (text.take n)],polled [entry 1 (text.take n),entry 2 (text.drop n)]]

theorem pollsAt_alive (n : Nat) (text : Text) : ∀ p ∈ pollsAt n text, Alive aCall p := by
  intro p member
  simp only [pollsAt,List.mem_cons,List.not_mem_nil,or_false] at member
  rcases member with rfl | rfl <;> exact ⟨Nat.zero_lt_succ 999,rfl⟩

theorem pollsAt_reads (n : Nat) (text : Text) : Reads aCall.startSeq (pollsAt n text) (batchesAt n text) :=
  ⟨⟨_,rfl,rfl,rfl⟩,⟨_,rfl,rfl,rfl⟩,trivial⟩

theorem batchesAt_whole (n : Nat) (text : Text) : dataOf (batchesAt n text).flatten = text := by
  simp [batchesAt,dataOf,entry]

/-- The code whole in the first poll, the underscores in the second. -/
theorem exec_wait_exact_whole : execWait aCall (pollsAt 37 notFound) = some (.ok ⟨[],some 127,false⟩) :=
  (exec_wait_exact_iff aCall [] [] [] 127 (pollsAt 37 notFound) (batchesAt 37 notFound) (Texts.forall_of_all (by decide +kernel)) (by decide +kernel) .absent
    ⟨by decide +kernel,by decide +kernel⟩ (by decide) (pollsAt_alive 37 notFound) (pollsAt_reads 37 notFound)
    (batchesAt_whole 37 notFound)).mpr (by
      rw [show cuts 0 (batchesAt 37 notFound) = [37,40] by decide +kernel]
      intro n found
      rw [show (lead aCall.nonce [] [] ++ doneMarker aCall.nonce).length = 34 by decide +kernel] at found ⊢
      cases found
      decide +kernel)

/-- Cut behind the first digit of 127 the exit code is 1; cut between the underscores there is none. -/
theorem code_cut :
    (∀ n, (∀ p ∈ pollsAt n notFound, Alive aCall p) ∧ Reads aCall.startSeq (pollsAt n notFound) (batchesAt n notFound) ∧
      dataOf (batchesAt n notFound).flatten = notFound) ∧
      execWait aCall (pollsAt 35 notFound) = some (.ok ⟨[],some 1,false⟩) ∧
      execWait aCall (pollsAt 38 notFound) = some (.ok ⟨[],none,false⟩) :=
  ⟨fun n => ⟨pollsAt_alive n notFound,pollsAt_reads n notFound,batchesAt_whole n notFound⟩,by decide +kernel⟩

end Sctl.ExecWait
