import Mathlib.Data.List.Basic
import Sctl.Texts

/-!
Lines of the form `name: field,field,…`, as devices report values. A reader takes what
stands between the first two colons, trims it, and splits it at the commas. It finds the
fields that were written, where none has a colon or a comma in it and none begins or ends
with white space.
-/
namespace Sctl.Fields
open Texts

/-- The text has an end on each side that `trim` leaves. -/
def dark (text : List Char) : Bool := text.head?.any (fun c => !isWhitespace c) && text.getLast?.any fun c => !isWhitespace c

def isField (text : List Char) : Bool := text.all (fun c => c != ':' && c != ',' && c != '\n') && dark text

def body (fields : List (List Char)) : List Char := [','].intercalate fields

def line (name : List Char) (fields : List (List Char)) : List Char := name ++ ':' :: ' ' :: body fields

/-- What a reader splits at the commas. -/
def data (line : List Char) : Option (List Char) := (line.splitOn ':')[1]?.map trim

variable {text first second name : List Char} {fields : List (List Char)}

theorem isField_iff : isField text = true ↔ (∀ c ∈ text, c ≠ ':' ∧ c ≠ ',' ∧ c ≠ '\n') ∧ dark text = true := by
  simp [isField,and_assoc]

theorem dark_iff : dark text = true ↔
    (∃ c, text.head? = some c ∧ isWhitespace c = false) ∧ ∃ c, text.getLast? = some c ∧ isWhitespace c = false := by
  simp [dark,Option.any_eq_true]

theorem dropWhile_dark {c : Char} (head : text.head? = some c) (black : isWhitespace c = false) : text.dropWhile isWhitespace = text := by
  cases text with
  | nil => cases head
  | cons d rest =>
    obtain rfl := Option.some.inj head
    exact List.dropWhile_cons_of_neg (by rw [black]; decide)

theorem trim_dark (ends : dark text = true) : trim text = text := by
  obtain ⟨⟨c,head,black⟩,⟨d,last,black'⟩⟩ := dark_iff.mp ends
  rw [trim,trimBy,dropWhile_dark head black,dropWhile_dark (by rw [List.head?_reverse]; exact last) black',List.reverse_reverse]

/-- White space in front does not matter. -/
theorem trim_blank (ends : dark text = true) : trim (' ' :: text) = text := by
  have blank : isWhitespace ' ' = true := by decide
  have whole := trim_dark ends
  rwa [trim,trimBy,List.dropWhile_cons_of_pos blank,← trimBy]

theorem dark_join (front : dark first = true) (behind : dark second = true) : dark (first ++ ',' :: second) = true := by
  obtain ⟨⟨c,head,black⟩,-⟩ := dark_iff.mp front
  obtain ⟨-,⟨d,last,black'⟩⟩ := dark_iff.mp behind
  refine dark_iff.mpr ⟨⟨c,?_,black⟩,⟨d,?_,black'⟩⟩
  · rw [List.head?_append,head,Option.some_or]
  · rw [List.getLast?_append,List.getLast?_cons,last]
    rfl

theorem body_cons (fields : List (List Char)) (some_ : fields ≠ []) : body (first :: fields) = first ++ ',' :: body fields := by
  cases fields with
  | nil => contradiction
  | cons second rest => simp [body,List.intercalate]

theorem dark_body (all : ∀ field ∈ fields, isField field = true) (some_ : fields ≠ []) : dark (body fields) = true := by
  induction fields with
  | nil => contradiction
  | cons first rest ih =>
    have here := (isField_iff.mp (all first List.mem_cons_self)).2
    by_cases more : rest = []
    · subst more
      simpa [body,List.intercalate] using here
    · rw [body_cons rest more]
      exact dark_join here (ih (fun field member => all field (List.mem_cons_of_mem first member)) more)

theorem mem_body {c : Char} (member : c ∈ body fields) : c = ',' ∨ ∃ field ∈ fields, c ∈ field := by
  induction fields with
  | nil => cases member
  | cons first rest ih =>
    by_cases more : rest = []
    · subst more
      exact .inr ⟨first,List.mem_cons_self,by simpa [body,List.intercalate] using member⟩
    · rw [body_cons rest more] at member
      rcases List.mem_append.mp member with here | later
      · exact .inr ⟨first,List.mem_cons_self,here⟩
      · rcases List.mem_cons.mp later with comma | later
        · exact .inl comma
        · rcases ih later with comma | ⟨field,there,inside⟩
          · exact .inl comma
          · exact .inr ⟨field,List.mem_cons_of_mem first there,inside⟩

theorem infix_body {field : List Char} (member : field ∈ fields) : field <:+: body fields := by
  induction fields with
  | nil => cases member
  | cons first rest ih =>
    by_cases more : rest = []
    · subst more
      obtain rfl := List.mem_singleton.mp member
      simp [body,List.intercalate]
    · rw [body_cons rest more]
      rcases List.mem_cons.mp member with rfl | later
      · exact (List.prefix_append _ _).isInfix
      · exact (ih later).trans ((List.suffix_cons ',' _).trans (List.suffix_append _ _)).isInfix

theorem infix_line {field : List Char} (member : field ∈ fields) : field <:+: line name fields :=
  (infix_body member).trans (((List.suffix_cons ' ' _).trans (List.suffix_cons ':' _)).trans (List.suffix_append _ _)).isInfix

/-- What has no comma is in the body when it is in a field. -/
theorem contains_body {sought : List Char} (free : ',' ∉ sought) (some_ : fields ≠ []) :
    contains (body fields) sought = fields.any fun field => contains field sought := by
  induction fields with
  | nil => contradiction
  | cons first rest ih =>
    by_cases more : rest = []
    · subst more
      simp [body,List.intercalate]
    · rw [body_cons rest more,contains_apart free,ih more,List.any_cons]

/-- Of a line the body is read. -/
theorem data_line (all : ∀ field ∈ fields, isField field = true) (some_ : fields ≠ []) (plain : ':' ∉ name) :
    data (line name fields) = some (body fields) := by
  have free : ':' ∉ ' ' :: body fields := by
    intro colon
    rcases List.mem_cons.mp colon with other | inside
    · exact absurd other (by decide)
    · rcases mem_body inside with other | ⟨field,there,inside⟩
      · exact absurd other (by decide)
      · exact ((isField_iff.mp (all field there)).1 ':' inside).1 rfl
  rw [data,line,List.splitOn_append_cons_self_of_not_mem plain,List.splitOn_eq_singleton free]
  exact congrArg some (trim_blank (dark_body all some_))

theorem split_body (all : ∀ field ∈ fields, isField field = true) (some_ : fields ≠ []) : (body fields).splitOn ',' = fields :=
  List.splitOn_intercalate ',' (fun field there inside => ((isField_iff.mp (all field there)).1 ',' inside).2.1 rfl) some_

/-- Trimming each of the fields once more changes none. -/
theorem trim_fields (all : ∀ field ∈ fields, isField field = true) : fields.map trim = fields := by
  refine (List.map_congr_left fun field there => ?_).trans (List.map_id fields)
  exact trim_dark (isField_iff.mp (all field there)).2

end Sctl.Fields
