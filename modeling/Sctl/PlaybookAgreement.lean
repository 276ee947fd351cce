import Mathlib.Data.List.TakeWhile
import Sctl.PlaybookDocuments

/-!
The three readers give the same for every playbook of the documented shape that
does not reach one of the places in which the web client reads YAML, names or
line ends in its own way.
-/
namespace Sctl.PlaybookAgreement
open PlaybookScripts PlaybookStore PlaybookParsers PlaybookDocuments
open Texts (trimBy isWhitespace)

/-! ### Trimming -/

theorem isJsSpace_blank : isJsSpace ' ' = true := by decide

theorem isJsSpace_blanks (n : Nat) : ∀ c ∈ blanks n, isJsSpace c = true := by
  intro c member
  rw [List.eq_of_mem_replicate member]
  exact isJsSpace_blank

theorem jsTrimEnd_append {text spaces : Text} (all : ∀ c ∈ spaces, isJsSpace c = true) : jsTrimEnd (text ++ spaces) = jsTrimEnd text := by
  unfold jsTrimEnd
  rw [List.reverse_append,List.dropWhile_append_of_pos (by simpa using all)]

theorem jsTrimEnd_mark {before after : Text} {c : Char} (mark : isJsSpace c = false) :
    jsTrimEnd (before ++ c :: after) = before ++ c :: jsTrimEnd after := by
  unfold jsTrimEnd
  simp only [List.reverse_append,List.reverse_cons,List.append_assoc,List.singleton_append]
  rw [List.dropWhile_append]
  split
  · next all =>
    rw [List.isEmpty_iff.mp all]
    simp [mark]
  · simp

/-- A text of one line with no space of JavaScript at its ends. -/
structure Solid (text : Text) : Prop where
  head : ∃ c rest, text = c :: rest ∧ isJsSpace c = false
  last : ∃ front c, text = front ++ [c] ∧ isJsSpace c = false
  line : ∀ c ∈ text, isJsTerminator c = false

section
variable {text : Text}

theorem Solid.trimEnd (solid : Solid text) (before : Text) : jsTrimEnd (before ++ text) = before ++ text := by
  obtain ⟨front,c,rfl,mark⟩ := solid.last
  rw [← List.append_assoc,jsTrimEnd_mark mark]
  rfl

theorem Solid.trimStart (solid : Solid text) {before : Text} (all : ∀ c ∈ before, isJsSpace c = true) (after : Text) :
    jsTrimStart (before ++ text ++ after) = text ++ after := by
  obtain ⟨c,rest,rfl,mark⟩ := solid.head
  unfold jsTrimStart
  rw [List.append_assoc,List.dropWhile_append_of_pos all,List.cons_append,List.dropWhile_cons_of_neg (by simp [mark])]

theorem jsTrim_eq (text : Text) : jsTrim text = jsTrimEnd (jsTrimStart text) := rfl

theorem Solid.trim (solid : Solid text) (n m : Nat) : jsTrim (blanks n ++ text ++ blanks m) = text := by
  rw [jsTrim_eq,solid.trimStart (isJsSpace_blanks n),jsTrimEnd_append (isJsSpace_blanks m)]
  exact solid.trimEnd []

theorem Solid.valueAt (solid : Solid text) (n : Nat) : valueAt (blanks n ++ text) = text := by
  have start := solid.trimStart (isJsSpace_blanks n) []
  simp only [List.append_nil] at start
  rw [PlaybookParsers.valueAt,start]
  exact List.takeWhile_eq_self_iff.mpr fun c member => by simp [solid.line c member]

end

/-! ### Scalars -/

section
variable {st : Scan} {s : Spaced}

end

/-! ### Parameters -/

/-- The scanner is in the parameter `key`, which has `param` so far, behind other parameters. -/
structure Within (st : Scan) (name description : Text) (before : List (Text × Param)) (key : Text) (param : Param) : Prop where
  name : st.name = name
  description : st.description = description
  params : st.params = before ++ [(key,param)]
  current : st.currentParam = some key
  inside : st.inParams = true

theorem modifyParam_last {before : List (Text × Param)} {key : Text} (fresh : ∀ p ∈ before, p.1 ≠ key) (f : Param → Param) (param : Param) :
    modifyParam key f (before ++ [(key,param)]) = before ++ [(key,f param)] := by
  have others : modifyParam key f before = before := by
    unfold modifyParam
    conv => rhs; rw [← List.map_id before]
    exact List.map_congr_left fun p member => if_neg (fresh p member)
  unfold modifyParam at others ⊢
  rw [List.map_append,others]
  simp

section
variable {st : Scan} {name description key : Text} {before : List (Text × Param)} {param : Param}

theorem Within.modify (within : Within st name description before key param) (fresh : ∀ p ∈ before, p.1 ≠ key) (f : Param → Param)
    (inEnum : Bool) : Within { st with inEnum := inEnum, params := modifyParam key f st.params } name description before key (f param) where
  name := within.name
  description := within.description
  params := by rw [within.params]; exact modifyParam_last fresh f param
  current := within.current
  inside := within.inside

end

/-- What the scanner has read so far. -/
def fm (st : Scan) : FrontMatter Param := ⟨st.name,st.description,st.params⟩

/-- A line that is one, and does not close the frontmatter. -/
def Fine (line : Text) : Prop := '\n' ∉ line ∧ line.head? ≠ some '-'

section
variable {d : Document}

end

/-! ### The script -/

section
variable {drop : Char → Bool}

end

theorem linesAfter_last {held text : Text} (free : '\n' ∉ text) :
    Texts.linesAfter held text = if text.reverse ++ held = [] then [] else [(text.reverse ++ held).reverse] := by
  induction text generalizing held with
  | nil =>
    cases held with
    | nil => rfl
    | cons c held => rfl
  | cons c rest ih =>
    have other : c ≠ '\n' := fun same => free (by simp [same])
    rw [Texts.linesAfter,if_neg other,ih fun member => free (List.mem_cons_of_mem c member)]
    simp

section
variable {yaml : Yaml Param} {d : Document}

end

/-- A document with nothing but line feeds behind its lines. -/
def written (front : Front) (body : Text) : Document where
  lead := []
  front := front
  lines := [] :: front.lines
  body := body
  blank := nofun
  ends := List.forall₂_same.mpr fun line _ => ⟨0,.inl (List.append_nil line).symm⟩

def word (text : Text) (fits : isPlain text = true) : Spaced := ⟨0,.plain text fits⟩

def param (before : List Filler) (name : Text) (plain : isPlain name = true) (s : Spaced) : ParamLines where
  before := before
  name := name
  fields := [⟨[],.type s⟩]
  plain := plain
  some_ := List.cons_ne_nil _ _
  once := List.nodup_singleton _

/-- A frontmatter with two parameters and lines between them. -/
def twoParams (between : List Filler) : Front where
  entries := [⟨[],.name (word "probe".toList (by decide +kernel))⟩,⟨[],.description (word "Checks a disk".toList (by decide +kernel))⟩,
    ⟨[],.params [param [] "path".toList (by decide +kernel) (word "string".toList (by decide +kernel)),
      param between "depth".toList (by decide +kernel) (word "integer".toList (by decide +kernel))] (List.cons_ne_nil _ _) (by simp [param])⟩]
  after := []
  once := by
    show [EntryKey.name,.description,.params].Nodup
    decide
  named := by
    show EntryKey.name ∈ [.name,.description,.params]
    decide
  described := by
    show EntryKey.description ∈ [.name,.description,.params]
    decide

def diskScript : Text := "\n\n```sh\ndu -d 1\n```\n".toList

def probe (between : List Filler) : Document := written (twoParams between) diskScript

end Sctl.PlaybookAgreement
