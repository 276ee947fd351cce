import Sctl.Json
import Sctl.PlaybookScripts

/-!
Rendering a playbook with the arguments of a tool call, which are JSON, against one
simultaneous substitution. The loop replaces one placeholder after another, in the
order of a hash map and in text that already has the values before it.
-/
namespace Sctl.PlaybookRendering
open Templates PlaybookScripts

/-! ### The renderer -/

section Renderer
variable (print : Json → Text) (args : Json)

/-- The text of a value; `print` is `to_string` of numbers, arrays and objects. -/
def rendered : Json → Text
  | .string s => s.toList
  | .bool b => (toString b).toList
  | other => print other

/-- `args.get(name).filter(|v| !v.is_null())`. -/
def argument (name : Text) : Option Json :=
  match args.field (String.ofList name) with
  | some .null => none
  | found => found

/-- The argument or the default, as text. -/
def valueOf (name : Text) (d : ParamDef) : Option Text :=
  (argument args name).map (rendered print) <|> d.default.map Default.rendered

/-- The parameters come in the order of the map. -/
def renderScript (order : List (Text × ParamDef)) (script : Text) : Except Text Text :=
  renderWith (valueOf print args) (fun _ v _ _ => v) undeclaredIn order script

end Renderer

/-! ### One substitution -/

/-- What can stand between two opening and two closing braces: the double braces of its
    placeholder are at the two ends only. -/
structure Bare (name : Text) : Prop where
  opens : ¬ ['{','{'] <:+: '{' :: name
  closes : ¬ ['}','}'] <:+: name ++ ['}']

section Substitution
variable (print : Json → Text) (args : Json) (params : Params) (script : Text)

end Substitution

/-! ### Names that keep apart -/

section Loop
variable {value : Text → ParamDef → Option Text} {entries : List (Text × ParamDef)} {script : Text}

end Loop

variable {print : Json → Text} {args : Json} {params : Params} {script : Text}

def twoParams : Params := ⟨[("a".toList,⟨none⟩),("b".toList,⟨none⟩)],by decide⟩

end Sctl.PlaybookRendering
