import Mathlib.Data.List.Infix

/-!
Streams of lines that each end with a separator: the first line cut off, and the
lines that are complete. A part of the stream that is dropped leaves the lines
after it as they are, but for one that it tears.
-/
namespace Sctl.Lines

section
variable {Symbol Value : Type} {sep : Symbol} {read : List Symbol → Option Value}

/-- A line has one separator, at its end. -/
structure IsLine (sep : Symbol) (line : List Symbol) : Prop where
  text : ∃ text, sep ∉ text ∧ line = text ++ [sep]

theorem isLine_of_text {text : List Symbol} (clear : sep ∉ text) : IsLine sep (text ++ [sep]) := ⟨text,clear,rfl⟩

theorem IsLine.ne_nil {line : List Symbol} (isLine : IsLine sep line) : line ≠ [] := by
  obtain ⟨text,-,rfl⟩ := isLine.text
  simp

theorem IsLine.sep_mem {line : List Symbol} (isLine : IsLine sep line) : sep ∈ line := by
  obtain ⟨text,-,rfl⟩ := isLine.text
  simp

theorem isLine_cons {line : List Symbol} {a : Symbol} (other : a ≠ sep) (isLine : IsLine sep line) : IsLine sep (a :: line) := by
  obtain ⟨text,clear,rfl⟩ := isLine.text
  exact ⟨a :: text,by simp [clear,Ne.symm other],rfl⟩

theorem isLine_append {first line : List Symbol} (clear : sep ∉ first) (isLine : IsLine sep line) : IsLine sep (first ++ line) := by
  obtain ⟨text,clear',rfl⟩ := isLine.text
  exact ⟨first ++ text,by simp [clear,clear'],by simp⟩

/-- No part at the end of a line, but the whole, reads as anything. -/
def Clean (read : List Symbol → Option Value) (line : List Symbol) : Prop :=
  ∀ first rest, line = first ++ rest → first ≠ [] → read rest = none

theorem clean_of_append {first rest : List Symbol} (clean : Clean read (first ++ rest)) : Clean read rest := by
  intro first' rest' split some_
  exact clean (first ++ first') rest' (by rw [split,List.append_assoc]) (by simp [some_])

end

variable {Symbol : Type} [DecidableEq Symbol] {sep : Symbol}

/-- The first line, with its separator, and the rest. -/
def cut (sep : Symbol) : List Symbol → Option (List Symbol × List Symbol)
  | [] => none
  | a :: rest => if a = sep then some ([a],rest) else (cut sep rest).map fun c => (a :: c.1,c.2)

/-- The complete lines, each with its separator. -/
def lines (sep : Symbol) : List Symbol → List (List Symbol)
  | [] => []
  | a :: rest =>
    if a = sep then [a] :: lines sep rest
    else match lines sep rest with
      | [] => []
      | line :: more => (a :: line) :: more

theorem cut_none_iff {text : List Symbol} : cut sep text = none ↔ sep ∉ text := by
  induction text with
  | nil => simp [cut]
  | cons a rest ih =>
    rw [cut]
    split
    · next same => simp [same]
    · next other => simp [ih,Ne.symm other]

theorem cut_spec {text line rest : List Symbol} (found : cut sep text = some (line,rest)) :
    IsLine sep line ∧ text = line ++ rest := by
  induction text generalizing line rest with
  | nil => cases found
  | cons a tail ih =>
    rw [cut] at found
    split at found
    · next same =>
      cases found
      exact ⟨⟨[],by simp,by simp [same]⟩,rfl⟩
    · next other =>
      obtain ⟨⟨line',rest'⟩,there,same⟩ := Option.map_eq_some_iff.mp found
      cases same
      obtain ⟨isLine,whole⟩ := ih there
      exact ⟨isLine_cons other isLine,by rw [whole]; rfl⟩

theorem cut_text {text : List Symbol} (clear : sep ∉ text) : cut sep (text ++ [sep]) = some (text ++ [sep],[]) := by
  induction text with
  | nil => simp [cut]
  | cons a rest ih =>
    rw [List.mem_cons,not_or] at clear
    rw [List.cons_append,cut,if_neg (Ne.symm clear.1),ih clear.2]
    rfl

/-! ### Complete lines -/

/-- A line that is begun goes on with the first line of what follows. -/
theorem lines_begun {first : List Symbol} (clear : sep ∉ first) (rest : List Symbol) :
    lines sep (first ++ rest) = match lines sep rest with
      | [] => []
      | line :: more => (first ++ line) :: more := by
  induction first with
  | nil =>
    rw [List.nil_append]
    cases lines sep rest <;> rfl
  | cons a tail ih =>
    rw [List.mem_cons,not_or] at clear
    obtain ⟨other,clear⟩ := clear
    rw [List.cons_append,lines,if_neg (Ne.symm other),ih clear]
    cases lines sep rest <;> rfl

theorem lines_line {line : List Symbol} (isLine : IsLine sep line) (rest : List Symbol) :
    lines sep (line ++ rest) = line :: lines sep rest := by
  obtain ⟨text,clear,rfl⟩ := isLine.text
  rw [List.append_assoc,lines_begun clear,List.singleton_append,lines,if_pos rfl]

theorem isLine_of_mem {text line : List Symbol} (member : line ∈ lines sep text) : IsLine sep line := by
  induction text generalizing line with
  | nil => cases member
  | cons a rest ih =>
    rw [lines] at member
    split at member
    · next same =>
      rcases List.mem_cons.mp member with rfl | later
      · exact ⟨[],by simp,by simp [same]⟩
      · exact ih later
    · next other =>
      cases more : lines sep rest with
      | nil => rw [more] at member; cases member
      | cons first more' =>
        rw [more] at member ih
        rcases List.mem_cons.mp member with rfl | later
        · exact isLine_cons other (ih List.mem_cons_self)
        · exact ih (List.mem_cons_of_mem _ later)

/-- Whole lines in front are lines. -/
theorem lines_append (whole : List (List Symbol)) (all : ∀ line ∈ whole, IsLine sep line) (rest : List Symbol) :
    lines sep (whole.flatten ++ rest) = whole ++ lines sep rest := by
  induction whole with
  | nil => rfl
  | cons line more ih =>
    rw [List.flatten_cons,List.append_assoc,lines_line (all line List.mem_cons_self),
      ih fun line member => all line (List.mem_cons_of_mem _ member)]
    rfl

/-- What comes behind only adds lines behind, unless a line is unfinished. -/
theorem lines_begins (text more : List Symbol) : ∃ later, lines sep (text ++ more) = lines sep text ++ later := by
  induction text with
  | nil => exact ⟨_,rfl⟩
  | cons a rest ih =>
    obtain ⟨later,same⟩ := ih
    rw [List.cons_append,lines,lines]
    split
    · exact ⟨later,by rw [same]; rfl⟩
    · rw [same]
      cases lines sep rest with
      | nil => exact ⟨_,rfl⟩
      | cons line more' => exact ⟨later,rfl⟩

/-! ### Whole lines -/

/-- Nothing is behind the last line. -/
def Whole (sep : Symbol) (text : List Symbol) : Prop := (lines sep text).flatten = text

theorem lines_append_whole {text : List Symbol} (whole : Whole sep text) (more : List Symbol) :
    lines sep (text ++ more) = lines sep text ++ lines sep more := by
  have split := lines_append (lines sep text) (fun line => isLine_of_mem) more
  rwa [whole] at split

theorem whole_append {text line : List Symbol} (whole : Whole sep text) (isLine : IsLine sep line) : Whole sep (text ++ line) := by
  have last := lines_line isLine []
  rw [List.append_nil] at last
  rw [Whole,lines_append_whole whole,last,lines,List.flatten_append,whole,List.flatten_cons,List.flatten_nil,List.append_nil]

theorem whole_drop {dropped text : List Symbol} (whole : Whole sep (dropped ++ text)) : Whole sep text := by
  induction dropped with
  | nil => exact whole
  | cons a rest ih =>
    apply ih
    rw [Whole,List.cons_append,lines] at whole
    split at whole
    · exact (List.cons.inj whole).2
    · cases more : lines sep (rest ++ text) with
      | nil => rw [more] at whole; cases whole
      | cons first more' =>
        rw [more] at whole
        rw [Whole,more]
        exact (List.cons.inj whole).2

/-! ### Dropped parts -/

section
variable {Value : Type} {read : List Symbol → Option Value}

/-- The lines of what is left are ends of lines that were there. -/
theorem clean_drop {dropped text : List Symbol} (clean : ∀ line ∈ lines sep (dropped ++ text), Clean read line) :
    ∀ line ∈ lines sep text, Clean read line := by
  induction dropped with
  | nil => exact clean
  | cons a rest ih =>
    apply ih
    intro line member
    rw [List.cons_append,lines] at clean
    split at clean
    · exact clean line (List.mem_cons_of_mem _ member)
    · cases more : lines sep (rest ++ text) with
      | nil => rw [more] at member; cases member
      | cons first more' =>
        rw [more] at member clean
        rcases List.mem_cons.mp member with rfl | later
        · exact @clean_of_append _ _ _ [a] _ (clean _ List.mem_cons_self)
        · exact clean line (List.mem_cons_of_mem _ later)

/-- What is read after a part was dropped was there before, in that order. -/
theorem sublist_drop {dropped text : List Symbol} (clean : ∀ line ∈ lines sep (dropped ++ text), Clean read line) :
    ((lines sep text).filterMap read).Sublist ((lines sep (dropped ++ text)).filterMap read) := by
  induction dropped with
  | nil => exact List.Sublist.refl _
  | cons a rest ih =>
    have clean' : ∀ line ∈ lines sep (rest ++ text), Clean read line := @clean_drop _ _ _ _ _ [a] _ clean
    refine (ih clean').trans ?_
    rw [List.cons_append,lines] at clean ⊢
    split at clean
    · next same =>
      rw [if_pos same,List.filterMap_cons]
      split
      · exact List.Sublist.refl _
      · exact List.sublist_cons_self _ _
    · next other =>
      rw [if_neg other]
      cases more : lines sep (rest ++ text) with
      | nil => exact List.Sublist.refl _
      | cons first more' =>
        rw [more] at clean
        have torn : read first = none := clean _ List.mem_cons_self [a] first rfl (by simp)
        rw [List.filterMap_cons,torn,List.filterMap_cons]
        dsimp only
        split
        · exact List.Sublist.refl _
        · exact List.sublist_cons_self _ _

/-- The first line goes with what is dropped. -/
theorem sublist_drop_first {dropped text : List Symbol} (some_ : dropped ≠ [])
    (clean : ∀ line ∈ lines sep (dropped ++ text), Clean read line) :
    ((lines sep text).filterMap read).Sublist (((lines sep (dropped ++ text)).drop 1).filterMap read) := by
  obtain ⟨a,rest,rfl⟩ := List.exists_cons_of_ne_nil some_
  have clean' : ∀ line ∈ lines sep (rest ++ text), Clean read line := @clean_drop _ _ _ _ _ [a] _ clean
  have later := sublist_drop clean'
  rw [List.cons_append,lines] at clean ⊢
  split at clean
  · next same =>
    rw [if_pos same]
    exact later
  · next other =>
    rw [if_neg other]
    cases more : lines sep (rest ++ text) with
    | nil =>
      rw [more] at later
      exact later
    | cons first more' =>
      rw [more] at clean later
      have torn : read first = none := clean _ List.mem_cons_self [a] first rfl (by simp)
      rw [List.filterMap_cons,torn] at later
      exact later

end
end Sctl.Lines
