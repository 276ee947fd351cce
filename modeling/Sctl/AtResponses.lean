import Mathlib.Data.List.TakeWhile
import Sctl.CutCharacters
import Sctl.Texts

/-!
AT commands on the modem's serial port. The port is read until a line of the text so
far is a final result; each read is decoded alone. Of the text the lines that are
neither blank nor the echo of a command are the response, which the modem's thread
logs and answers with.
-/
namespace Sctl.AtResponses
open Sctl.CutCharacters Sctl.Texts Sctl.Utf8

abbrev Text := List Char

/-! ### The lines -/

/-- `char::is_control`. -/
def isControl (c : Char) : Bool := c.toNat < 0x20 || (0x7F ≤ c.toNat && c.toNat ≤ 0x9F)

def looksFinal (trimmed : Text) : Bool :=
  trimmed = "OK".toList || trimmed = "ERROR".toList || "+CME ERROR:".toList.isPrefixOf trimmed ||
    "+CMS ERROR:".toList.isPrefixOf trimmed

def responseIsComplete (response : Text) : Bool := (lines response).any fun line => looksFinal (trim line)

def sanitizeResponse (response : Text) : Text :=
  (response.filter fun c => c = '\r' || c = '\n' || !isControl c).filter fun c => c ≠ replacementCharacter

/-- What `strip_echo` keeps: lines that are not blank and whose first ASCII letters are not `AT`. -/
def keepsLine (line : Text) : Bool :=
  let trimmed := trim line
  if trimmed.isEmpty then false else !"AT".toList.isPrefixOf (trimmed.dropWhile fun c => !c.isAlpha)

def stripEcho (response : Text) : Text := ['\r','\n'].intercalate ((lines response).filter keepsLine)

/-! ### The port -/

def readBufSize : Nat := 1024

/-- What `read` returns; no bytes when the port was idle for 100 ms. -/
inductive Read
  | ok (bytes : List UInt8) (fits : bytes.length ≤ readBufSize)
  | again
  | failed (error : String)

/-- A turn of the reading loop, and when it begins, in ms. -/
structure Turn where
  now : Nat
  read : Read

structure Call where
  /-- In seconds. -/
  timeout : Nat
  /-- When the command has been written, in ms. -/
  started : Nat
  flush : Except String Unit
  write : Except String Unit

def Call.deadline (call : Call) : Nat := call.started + call.timeout * 1000

/-- The reading loop; `none` when it goes on after the turns. -/
def readLoop (call : Call) : Text → List Turn → Option (Except String Text)
  | _,[] => none
  | response,t :: turns =>
    if call.deadline ≤ t.now then
      some (.error ("timeout after " ++ toString call.timeout ++ ".0s, partial: " ++ String.ofList (trim response)))
    else
      match t.read with
      | .ok bytes _ =>
        let response := response ++ decodeFrom none bytes
        if responseIsComplete response then some (.ok (stripEcho (sanitizeResponse response))) else readLoop call response turns
      | .again => if responseIsComplete response then some (.ok (stripEcho (sanitizeResponse response))) else readLoop call response turns
      | .failed e => some (.error ("read: " ++ e))

def executeAt (call : Call) (turns : List Turn) : Option (Except String Text) :=
  match call.flush,call.write with
  | .error e,_ => some (.error ("tcflush: " ++ e))
  | .ok _,.error e => some (.error ("write: " ++ e))
  | .ok _,.ok _ => readLoop call [] turns

/-- `&text[..n]`, which panics inside a character. -/
def sliceTo (n : Nat) (text : Text) : Option Text := if size (within n text) = n then some (within n text) else none

/-- What is logged of a response. -/
def excerpt (resp : Text) : Option Text := if 80 < size resp then sliceTo 80 resp else some resp

inductive Outcome
  | replied (result : Except String Text)
  | panicked
deriving DecidableEq

/-- One request of the modem's thread: the response is logged, if that is enabled, and sent. -/
def handle (debugging : Bool) (call : Call) (turns : List Turn) : Option Outcome :=
  (executeAt call turns).map fun result =>
    match result with
    | .ok resp => if debugging && (excerpt resp).isNone then .panicked else .replied (.ok resp)
    | .error e => .replied (.error e)

/-! ### Replies -/

inductive IsFinalResult : Text → Prop
  | ok : IsFinalResult "OK".toList
  | error : IsFinalResult "ERROR".toList
  | cme (text : Text) : IsFinalResult ("+CME ERROR: ".toList ++ text)
  | cms (text : Text) : IsFinalResult ("+CMS ERROR: ".toList ++ text)

/-- What a modem sends for a command. -/
structure Reply where
  infos : List Text
  final : Text
  oneLine : ∀ line ∈ infos ++ [final], '\r' ∉ line ∧ '\n' ∉ line
  isFinal : IsFinalResult final
  others : ∀ line ∈ infos, ¬ IsFinalResult line

/-- Lines as they are sent. -/
def sent (texts : List Text) : Text := texts.flatMap fun line => line ++ ['\r','\n']

def Reply.lines (r : Reply) : List Text := r.infos ++ [r.final]

/-- The lines of the reply that are neither blank nor an echo. -/
def Reply.answer (r : Reply) : Text := ['\r','\n'].intercalate (r.lines.filter keepsLine)

/-- Where the final line ends, in bytes. -/
def Reply.finalEnd (r : Reply) : Nat := size (sent r.infos) + size r.final

/-- The bytes that the turns read. -/
def readsOf (turns : List Turn) : List (List UInt8) :=
  turns.filterMap fun t =>
    match t.read with
    | .ok bytes _ => some bytes
    | _ => none

/-- The turn begins in time and does not fail. -/
def Turn.Works (call : Call) (t : Turn) : Prop := t.now < call.deadline ∧ ∀ e, t.read ≠ .failed e

/-- Reads that do no harm to a reply. -/
structure Harmless (r : Reply) (reads : List (List UInt8)) : Prop where
  /-- Before the end of the final line no line of what was read looks like a final result. -/
  waits : ∀ first rest, reads = first ++ rest → first.flatten.length < r.finalEnd →
    responseIsComplete (first.flatMap (decodeFrom none)) = false
  /-- No read ends between the final line's carriage return and line feed, unless one ends before both. -/
  lineFeed : r.finalEnd + 1 ∈ ends 0 reads → r.finalEnd ∈ ends 0 reads
  /-- The characters of the lines in the response are printed ones, and no read ends inside one. -/
  characters : ∀ first line rest, r.lines = first ++ line :: rest → keepsLine line = true →
    ∀ before c after, line = before ++ c :: after →
      isControl c = false ∧ c ≠ replacementCharacter ∧ Uncut (ends 0 reads) (size (sent first) + size before) c

/-! ### Trimming -/

theorem trimBy_spec (drop : Char → Bool) (text : Text) :
    ∃ lead trail, text = lead ++ trimBy drop text ++ trail ∧ (∀ c ∈ lead, drop c = true) ∧ ∀ c ∈ trail, drop c = true := by
  refine ⟨text.takeWhile drop,((text.dropWhile drop).reverse.takeWhile drop).reverse,?_,fun c member => ?_,fun c member => ?_⟩
  · rw [trimBy,List.append_assoc,← List.reverse_append,List.takeWhile_append_dropWhile,List.reverse_reverse,
      List.takeWhile_append_dropWhile]
  · exact List.mem_takeWhile_imp member
  · exact List.mem_takeWhile_imp (List.mem_reverse.mp member)

theorem trim_eq_nil_iff {text : Text} : trim text = [] ↔ ∀ c ∈ text, isWhitespace c = true := by
  obtain ⟨lead,trail,whole,before,after⟩ := trimBy_spec isWhitespace text
  rw [trim]
  constructor
  · intro empty
    rw [empty,List.append_nil] at whole
    intro c member
    rw [whole] at member
    rcases List.mem_append.mp member with front | back
    · exact before c front
    · exact after c back
  · intro all
    have front : text.dropWhile isWhitespace = [] := List.dropWhile_eq_nil_iff.mpr all
    rw [trimBy,front]
    rfl

/-- The echo of a command: its first letters are `AT`. -/
def Echoes (line : Text) : Prop := ∃ before after, line = before ++ 'A' :: 'T' :: after ∧ ∀ c ∈ before, c.isAlpha = false

theorem letter_range {c : Char} (letter : c.isAlpha = true) : (65 ≤ c.toNat ∧ c.toNat ≤ 90) ∨ (97 ≤ c.toNat ∧ c.toNat ≤ 122) := by
  change (decide (65 ≤ c.val ∧ c.val ≤ 90) || (decide (97 ≤ c.val) && decide (c.val ≤ 122))) = true at letter
  simp only [Bool.or_eq_true,Bool.and_eq_true,decide_eq_true_eq,UInt32.le_iff_toNat_le] at letter
  exact letter

theorem isAlpha_of_isWhitespace {c : Char} (white : isWhitespace c = true) : c.isAlpha = false := by
  by_contra letter
  replace letter := letter_range (Bool.not_eq_false _ ▸ letter)
  simp only [isWhitespace,Bool.or_eq_true,Bool.and_eq_true,decide_eq_true_eq,List.contains_iff_mem,List.mem_cons,
    List.not_mem_nil,or_false] at white
  omega

theorem echoes_iff {line : Text} : Echoes line ↔ "AT".toList <+: (trim line).dropWhile fun c => !c.isAlpha := by
  obtain ⟨lead,trail,whole,before,after⟩ := trimBy_spec isWhitespace line
  have lead_ : ∀ c ∈ lead, (!c.isAlpha) = true := fun c member => by rw [isAlpha_of_isWhitespace (before c member)]; rfl
  have trail_ : ∀ c ∈ trail, (!c.isAlpha) = true := fun c member => by rw [isAlpha_of_isWhitespace (after c member)]; rfl
  rw [trim]
  generalize trimBy isWhitespace line = middle at whole
  constructor
  · rintro ⟨front,back,same,letters⟩
    have read : line.dropWhile (fun c => !c.isAlpha) = 'A' :: 'T' :: back := by
      rw [same,List.dropWhile_append_of_pos fun c member => by rw [letters c member]; rfl]
      rfl
    rw [whole,List.append_assoc,List.dropWhile_append_of_pos lead_,List.dropWhile_append,
      List.dropWhile_eq_nil_iff.mpr trail_] at read
    split_ifs at read with none_
    generalize middle.dropWhile (fun c => !c.isAlpha) = found at read none_ ⊢
    rcases found with - | ⟨a,- | ⟨b,rest⟩⟩
    · exact absurd rfl none_
    · -- a trailing character is not a letter
      obtain ⟨-,tail⟩ := List.cons.inj read
      have white := trail_ 'T' (List.mem_of_mem_head? (congrArg List.head? tail))
      cases white
    · obtain ⟨rfl,tail⟩ := List.cons.inj read
      obtain ⟨rfl,-⟩ := List.cons.inj tail
      exact ⟨rest,rfl⟩
  · rintro ⟨rest,same⟩
    refine ⟨lead ++ middle.takeWhile (fun c => !c.isAlpha),rest ++ trail,?_,fun c member => ?_⟩
    · have parted : middle.takeWhile (fun c => !c.isAlpha) ++ ("AT".toList ++ rest) = middle := by
        rw [same]
        exact List.takeWhile_append_dropWhile
      rw [whole]
      conv_lhs => rw [← parted]
      simp
    · rcases List.mem_append.mp member with front | back
      · exact isAlpha_of_isWhitespace (before c front)
      · simpa using List.mem_takeWhile_imp back

theorem keepsLine_iff {line : Text} : keepsLine line = true ↔ (∃ c ∈ line, isWhitespace c = false) ∧ ¬ Echoes line := by
  have blank : trim line = [] ↔ ¬ ∃ c ∈ line, isWhitespace c = false := by
    rw [trim_eq_nil_iff]
    push Not
    simp only [Bool.not_eq_false]
  rw [keepsLine,echoes_iff,← not_iff_comm.mp blank.symm]
  simp only [List.isEmpty_iff]
  split_ifs with empty
  · simp [empty]
  · rw [Bool.not_eq_true',← Bool.not_eq_true,List.isPrefixOf_iff_prefix]
    exact ⟨fun kept => ⟨empty,kept⟩,fun both => both.2⟩

/-! ### Lines that are read back -/

theorem linesAfter_last {held part : Text} (oneLine : '\n' ∉ part) : linesAfter held part = linesAfter (part.reverse ++ held) [] := by
  induction part generalizing held with
  | nil => rfl
  | cons c part ih =>
    have other : c ≠ '\n' := fun same => oneLine (by rw [same]; exact List.mem_cons_self)
    have step : linesAfter held (c :: part) = linesAfter (c :: held) part := by simp [linesAfter,other]
    rw [step,ih fun member => oneLine (List.mem_cons_of_mem c member)]
    simp

/-- The text behind the last line feed. -/
def last (part : Text) : List Text := if part = [] then [] else [part]

theorem lines_last {part : Text} (oneLine : '\n' ∉ part) : lines part = last part := by
  rw [lines,linesAfter_last oneLine,List.append_nil,last]
  split_ifs with empty
  · rw [empty]
    rfl
  · rcases shape : part.reverse with - | ⟨c,rest⟩
    · exact absurd (List.reverse_eq_nil_iff.mp shape) empty
    · rw [linesAfter,← shape,List.reverse_reverse]
      simp

theorem lines_sent {texts : List Text} {part : Text} (oneLine : ∀ line ∈ texts, '\n' ∉ line) (oneLine' : '\n' ∉ part) :
    lines (sent texts ++ part) = texts ++ last part := by
  induction texts with
  | nil => exact lines_last oneLine'
  | cons line texts ih =>
    have clear : '\n' ∉ line ++ ['\r'] := by
      have first := oneLine line List.mem_cons_self
      simpa using first
    have shape : sent (line :: texts) ++ part = (line ++ ['\r']) ++ '\n' :: (sent texts ++ part) := by simp [sent]
    have later := ih fun other member => oneLine other (List.mem_cons_of_mem line member)
    rw [lines] at later ⊢
    rw [shape,linesAfter_line clear,later]
    simp [endLine]

theorem intercalate_concat (texts : List Text) (part : Text) : ['\r','\n'].intercalate (texts ++ [part]) = sent texts ++ part := by
  induction texts with
  | nil => simp [sent]
  | cons line texts ih =>
    rw [List.cons_append,List.intercalate_cons_of_ne_nil (by simp),ih]
    simp [sent]

/-- Lines that are joined read back. -/
theorem lines_joined {texts : List Text} (oneLine : ∀ line ∈ texts, '\n' ∉ line) (some_ : ∀ line ∈ texts, line ≠ []) :
    lines (['\r','\n'].intercalate texts) = texts := by
  rcases List.eq_nil_or_concat texts with rfl | ⟨texts,part,rfl⟩
  · rfl
  · rw [List.concat_eq_append] at oneLine some_ ⊢
    have full := some_ part (by simp)
    rw [intercalate_concat,lines_sent (fun line member => oneLine line (List.mem_append_left _ member)) (oneLine part (by simp)),
      last,if_neg full]

/-! ### What arrives of the lines -/

section Arrival
variable {cuts : List Nat} {n : Nat}

/-- What is left of a text that begins at `n` when it is decoded and cleaned. -/
def arrives (cuts : List Nat) (n : Nat) (text : Text) : Text := sanitizeResponse (uncut cuts n text)

def arrivedLines (cuts : List Nat) : Nat → List Text → List Text
  | _,[] => []
  | n,line :: texts => arrives cuts n line :: arrivedLines cuts (n + size line + 2) texts

theorem sanitizeResponse_append (first second : Text) :
    sanitizeResponse (first ++ second) = sanitizeResponse first ++ sanitizeResponse second := by
  simp [sanitizeResponse]

theorem sanitizeResponse_sublist (text : Text) : (sanitizeResponse text).Sublist text :=
  List.filter_sublist.trans List.filter_sublist

theorem arrives_append (n : Nat) (first second : Text) :
    arrives cuts n (first ++ second) = arrives cuts n first ++ arrives cuts (n + size first) second := by
  rw [arrives,uncut_append,sanitizeResponse_append,arrives,arrives]

theorem arrives_sublist (n : Nat) (text : Text) : (arrives cuts n text).Sublist text :=
  (sanitizeResponse_sublist _).trans (uncut_sublist n text)

theorem arrives_ascii {text : Text} (ascii : ∀ c ∈ text, c.utf8Size = 1) (n : Nat) : arrives cuts n text = sanitizeResponse text := by
  rw [arrives,uncut_ascii ascii]

/-- The replacement characters that decoding gives are cleaned away. -/
theorem sanitizeResponse_lossy {text raw : Text} (lossy : Lossy cuts n text raw) (k : Nat) :
    sanitizeResponse (raw ++ List.replicate k replacementCharacter) = arrives cuts n text := by
  have swapped : ∀ text, sanitizeResponse text =
      (text.filter fun c => c ≠ replacementCharacter).filter fun c => c = '\r' || c = '\n' || !isControl c := by
    intro text
    rw [sanitizeResponse,List.filter_comm]
  rw [arrives,swapped,swapped,List.filter_append,lossy.filter,List.filter_replicate]
  simp

theorem sent_cons (line : Text) (texts : List Text) : sent (line :: texts) = line ++ (['\r','\n'] ++ sent texts) := by
  simp [sent]

theorem sent_append (first second : List Text) : sent (first ++ second) = sent first ++ sent second := by
  simp [sent]

theorem size_lineEnd : size ['\r','\n'] = 2 := by decide

theorem arrives_sent (n : Nat) (texts : List Text) : arrives cuts n (sent texts) = sent (arrivedLines cuts n texts) := by
  induction texts generalizing n with
  | nil => rfl
  | cons line texts ih =>
    rw [sent_cons,arrives_append,arrives_append,arrives_ascii (show ∀ c ∈ ['\r','\n'], c.utf8Size = 1 from forall_of_all (by decide)),ih,size_lineEnd,arrivedLines,sent_cons]
    rfl

/-- A letter is one byte and no control character. -/
theorem letter_printed {c : Char} (letter : c.isAlpha = true) : c.utf8Size = 1 ∧ isControl c = false ∧ c ≠ replacementCharacter := by
  have range := letter_range letter
  refine ⟨?_,?_,?_⟩
  · rw [Char.utf8Size_eq_one_iff,UInt32.le_iff_toNat_le]
    change c.toNat ≤ 127
    omega
  · simp only [isControl,Bool.or_eq_false_iff,Bool.and_eq_false_iff,decide_eq_false_iff_not]
    omega
  · rintro rfl
    revert range
    decide

/-- The first letter of a line arrives. -/
theorem arrives_letter (n : Nat) (text : Text) : (arrives cuts n text).find? Char.isAlpha = text.find? Char.isAlpha := by
  induction text generalizing n with
  | nil => rfl
  | cons c text ih =>
    have parted : arrives cuts n (c :: text) = arrives cuts n [c] ++ arrives cuts (n + size [c]) text := arrives_append n [c] text
    rw [parted,List.find?_append,ih,List.find?_cons]
    cases letter : c.isAlpha with
    | true =>
      obtain ⟨one,printed,other⟩ := letter_printed letter
      have kept : arrives cuts n [c] = [c] := by
        rw [arrives_ascii (by simpa using one)]
        simp [sanitizeResponse,printed,other]
      rw [kept,List.find?_cons,letter]
      rfl
    | false =>
      have none_ : (arrives cuts n [c]).find? Char.isAlpha = none := by
        rw [List.find?_eq_none]
        intro d member
        rw [List.mem_singleton.mp ((arrives_sublist n [c]).subset member),letter]
        exact Bool.false_ne_true
      rw [none_]
      rfl

theorem echoes_arrives {line : Text} (echoed : Echoes line) (n : Nat) : Echoes (arrives cuts n line) := by
  obtain ⟨before,after,rfl,letters⟩ := echoed
  rw [show before ++ 'A' :: 'T' :: after = before ++ (['A','T'] ++ after) from rfl,arrives_append,arrives_append,
    arrives_ascii (show ∀ c ∈ ['A','T'], c.utf8Size = 1 from forall_of_all (by decide))]
  exact ⟨arrives cuts n before,_,rfl,fun c member => letters c ((arrives_sublist n before).subset member)⟩

/-- Of lines that are dropped nothing is kept. -/
theorem keeps_of_arrives {line : Text} (kept : keepsLine (arrives cuts n line) = true) : keepsLine line = true := by
  rw [keepsLine_iff] at kept ⊢
  obtain ⟨⟨c,member,dark⟩,quiet⟩ := kept
  exact ⟨⟨c,(arrives_sublist n line).subset member,dark⟩,fun echoed => quiet (echoes_arrives echoed n)⟩

theorem kept_arrived_le (n : Nat) (texts : List Text) :
    ((arrivedLines cuts n texts).filter keepsLine).length ≤ (texts.filter keepsLine).length := by
  induction texts generalizing n with
  | nil => exact Nat.le_refl 0
  | cons line texts ih =>
    have later := ih (n + size line + 2)
    rw [arrivedLines,List.filter_cons,List.filter_cons]
    split_ifs with arrived kept kept
    · rw [List.length_cons,List.length_cons]
      omega
    · exact absurd (keeps_of_arrives arrived) kept
    · rw [List.length_cons]
      omega
    · exact later

/-- The lines that are kept are the lines that were sent exactly when each arrives whole. -/
theorem kept_arrived_iff (n : Nat) (texts : List Text) :
    (arrivedLines cuts n texts).filter keepsLine = texts.filter keepsLine ↔
      ∀ first line rest, texts = first ++ line :: rest → keepsLine line = true → arrives cuts (n + size (sent first)) line = line := by
  induction texts generalizing n with
  | nil =>
    refine ⟨fun _ first line rest parted => ?_,fun _ => rfl⟩
    cases first <;> cases parted
  | cons head texts ih =>
    have count := @kept_arrived_le cuts (n + size head + 2) texts
    have behind : ∀ first, n + size (sent (head :: first)) = n + size head + 2 + size (sent first) := by
      intro first
      rw [sent_cons,size_append,size_append,size_lineEnd]
      omega
    rw [arrivedLines,List.filter_cons,List.filter_cons]
    constructor
    · intro same first line rest parted kept
      have both : (keepsLine head = true → arrives cuts n head = head) ∧
          (arrivedLines cuts (n + size head + 2) texts).filter keepsLine = texts.filter keepsLine := by
        split_ifs at same with arrived kept' kept'
        · exact ⟨fun _ => (List.cons.inj same).1,(List.cons.inj same).2⟩
        · exact absurd (keeps_of_arrives arrived) kept'
        · -- one line less is kept
          have lengths := congrArg List.length same
          rw [List.length_cons] at lengths
          omega
        · exact ⟨fun here => absurd here kept',same⟩
      cases first with
      | nil =>
        obtain ⟨rfl,rfl⟩ := List.cons.inj parted
        exact both.1 kept
      | cons other first =>
        obtain ⟨rfl,parted'⟩ := List.cons.inj parted
        rw [behind]
        exact (ih _).mp both.2 first line rest parted' kept
    · intro whole
      have later := (ih (n + size head + 2)).mpr fun first line rest parted kept => by
        rw [← behind]
        exact whole (head :: first) line rest (by rw [parted]; rfl) kept
      rw [later]
      cases kept : keepsLine head with
      | true =>
        have first := whole [] head texts rfl kept
        rw [show n + size (sent []) = n from rfl] at first
        rw [first,kept]
      | false =>
        have dropped : keepsLine (arrives cuts n head) ≠ true := fun arrived => by
          rw [keeps_of_arrives arrived] at kept
          cases kept
        rw [if_neg dropped]
        simp

end Arrival

end Sctl.AtResponses
