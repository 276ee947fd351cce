import Sctl.Tables
import Sctl.Texts
import Sctl.Templates

/-!
The two renderers of playbook scripts: the MCP client's, which replaces a
placeholder by the value as it is, and the web client's, whose replacement is
read for `$` patterns and whose check for placeholders left over is another one.
-/
namespace Sctl.PlaybookScripts
open Templates

abbrev Text := List Char

/-- A default that is not `null`. Of a number, an array or an object both texts are
    given: what `to_string` makes of it in the MCP client, and what `String` does in the web client. -/
inductive Default
  | string (s : Text)
  | bool (b : Bool)
  | other (json js : Text)
deriving DecidableEq

def Default.rendered : Default → Text
  | .string s => s
  | .bool b => (toString b).toList
  | .other json _ => json

/-- What a renderer reads of a declared parameter. -/
structure ParamDef where
  default : Option Default
deriving DecidableEq

/-- The declared parameters, in the order in which the web client goes through them. -/
structure Params where
  entries : List (Text × ParamDef)
  distinct : (entries.map Prod.fst).Nodup

def Params.names (params : Params) : List Text := params.entries.map Prod.fst

def placeholder (name : Text) : Text := ['{','{'] ++ name ++ ['}','}']

/-- The text in front of the first `sought` and the text behind it. -/
def splitOnce (sought : Text) : Text → Option (Text × Text)
  | [] => if sought = [] then some ([],[]) else none
  | c :: rest =>
    if sought.isPrefixOf (c :: rest) then some ([],(c :: rest).drop sought.length)
    else (splitOnce sought rest).map fun found => (c :: found.1,found.2)

/-- `\w` of a regular expression. -/
def isWordChar (c : Char) : Bool := c.isAlphanum || c == '_'

/-- What a `$` and the character behind it stand for in the replacement of `replaceAll`. -/
def special (matched before after : Text) (c : Char) : Option Text :=
  if c = '$' then some ['$']
  else if c = '&' then some matched
  else if c = '\x60' then some before
  else if c = '\x27' then some after
  else none

/-- What the renderers share: each declared parameter whose placeholder is in the script is
    replaced by its value, and a placeholder that is left over is an error. -/
def renderWith (value : Text → ParamDef → Option Text) (insert : Text → Text → Text → Text → Text)
    (leftover : Text → Option Text) : List (Text × ParamDef) → Text → Except Text Text
  | [], script =>
    match leftover script with
    | some undeclared => .error ("Script references undeclared parameter: ".toList ++ placeholder undeclared)
    | none => .ok script
  | (name,d) :: rest, script =>
    if Texts.contains script (placeholder name) then
      match value name d with
      | none => .error ("Missing required parameter: ".toList ++ name)
      | some v => renderWith value insert leftover rest (replaceEach (placeholder name) (insert (placeholder name) v) script)
    else renderWith value insert leftover rest script

section Steps
variable {value : Text → ParamDef → Option Text} {insert : Text → Text → Text → Text → Text} {leftover : Text → Option Text}
variable {name : Text} {d : ParamDef} {rest : List (Text × ParamDef)} {script : Text}

end Steps

section Renderers
variable (inherited : Text → Option Text) (args : Table Text Text)

/-- `args.get(name).or(def.default)`, as text. -/
def argOrDefault (name : Text) (d : ParamDef) : Option Text :=
  args.lookup name <|> d.default.map Default.rendered

/-- The check of the MCP client: the first `}}` behind the first `{{`. -/
def undeclaredIn (script : Text) : Option Text :=
  (splitOnce ['{','{'] script).bind fun opened => (splitOnce ['}','}'] opened.2).map Prod.fst

/-- The MCP client's renderer; a map of the parameters is gone through in any order. -/
def renderScript (order : List (Text × ParamDef)) (script : Text) : Except Text Text :=
  renderWith (argOrDefault args) (fun _ rendered _ _ => rendered) undeclaredIn order script

end Renderers

/-- Both fail, or both return the same script. -/
def Agree : Except Text Text → Except Text Text → Prop
  | .ok one, .ok other => one = other
  | .error _, .error _ => True
  | _, _ => False

/-! ### Placeholders -/

/-- The placeholders of these names cannot overlap each other or themselves. -/
structure Separate (names : List Text) : Prop where
  once : ∀ name ∈ names, ¬ Meets (placeholder name) (placeholder name)
  apart : ∀ one ∈ names, ∀ other ∈ names, one ≠ other → Apart (placeholder one) (placeholder other)

theorem Separate.of_subset {names some_ : List Text} (separate : Separate names) (within : some_ ⊆ names) : Separate some_ :=
  ⟨fun name member => separate.once name (within member),
    fun one member other member' => separate.apart one (within member) other (within member')⟩

theorem splitOnce_eq_some {sought text before after : Text} (found : splitOnce sought text = some (before,after)) :
    text = before ++ sought ++ after := by
  induction text generalizing before after with
  | nil =>
    rw [splitOnce] at found
    split_ifs at found with empty
    cases found
    rw [empty]
    rfl
  | cons c rest ih =>
    rw [splitOnce] at found
    split_ifs at found with here
    · cases found
      rw [List.isPrefixOf_iff_prefix] at here
      rw [List.nil_append,List.prefix_iff_eq_append.mp here]
    · obtain ⟨⟨first,second⟩,later,same⟩ := Option.map_eq_some_iff.mp found
      cases same
      rw [ih later]
      rfl

/-- A value without a `$` pattern. -/
def Plain (value : Text) : Prop := ∀ c ∈ ['$','&','\x60','\x27'], ¬ ['$',c] <:+: value

section Loop
variable {value : Text → ParamDef → Option Text} {insert : Text → Text → Text → Text → Text} {leftover : Text → Option Text}
variable {entries : List (Text × ParamDef)} {script : Text}

end Loop

/-! ### Scripts that are filled in -/

/-- The script with these texts for the placeholders of the names. -/
def filled (names : List Text) (text : Text → Text) (script : Text) : Text := flat text (pieces names placeholder script)

section Fill
variable {text : Text → Text} {names rest : List Text} {name : Text} {template : List (Piece Char Text)}

/-- What is in the holes when the names in `rest` are still to be filled in. -/
def pending (text : Text → Text) (rest : List Text) (name : Text) : Text := if name ∈ rest then placeholder name else text name

variable {value : Text → ParamDef → Option Text} {insert : Text → Text → Text → Text → Text} {leftover : Text → Option Text}

end Fill

/-- These are the texts of all placeholders in the script, in both languages, and with them
    it has no placeholder of a declared parameter. -/
structure Fills (rust web : Text → ParamDef → Option Text) (params : Params) (script : Text) (text : Text → Text) : Prop where
  rust_value : ∀ entry ∈ params.entries, placeholder entry.1 <:+: script → rust entry.1 entry.2 = some (text entry.1)
  web_value : ∀ entry ∈ params.entries, placeholder entry.1 <:+: script → web entry.1 entry.2 = some (text entry.1)
  plain : ∀ entry ∈ params.entries, placeholder entry.1 <:+: script → Plain (text entry.1)
  clean : ∀ name ∈ params.names, ¬ placeholder name <:+: filled params.names text script

end Sctl.PlaybookScripts
