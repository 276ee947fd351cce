import Mathlib.Logic.Basic
import Mathlib.Data.List.Basic

/-!
JSON values as a handler of messages sees them: it looks fields of an object up
by name, reads strings and writes fields. A field that is missing, or that is
looked up in something that is not an object, is `null`; writing a field to
something that is neither an object nor `null` is a panic.
-/
namespace Sctl

inductive Json
  | null
  | bool (b : Bool)
  | number (text : String)
  | string (s : String)
  | array (items : List Json)
  | object (fields : List (String × Json))

namespace Json

def field : Json → String → Option Json
  | .object fields, key => fields.lookup key
  | _, _ => none

/-- `value["key"]`. -/
def index (v : Json) (key : String) : Json := (v.field key).getD .null

def asStr : Json → Option String
  | .string s => some s
  | _ => none

def asBool : Json → Option Bool
  | .bool b => some b
  | _ => none

/-- `value["key"].as_str()`. -/
def str (v : Json) (key : String) : Option String := (v.index key).asStr

/-- `value["key"].as_bool()`. -/
def flag (v : Json) (key : String) : Option Bool := (v.index key).asBool

/-- The object of the fields that are there. -/
def record (fields : List (String × Option Json)) : Json :=
  .object (fields.filterMap fun f => f.2.map fun v => (f.1,v))

def put (fields : List (String × Json)) (key : String) (v : Json) : List (String × Json) :=
  match fields with
  | [] => [(key,v)]
  | (k,w) :: rest => if k = key then (k,v) :: rest else (k,w) :: put rest key v

/-- `value["key"] = v`; `none` is the panic. -/
def set : Json → String → Json → Option Json
  | .object fields, key, v => some (.object (put fields key v))
  | .null, key, v => some (.object [(key,v)])
  | _, _, _ => none

theorem lookup_first (name k : String) (w : Json) (rest : List (String × Json)) :
    ((name,w) :: rest).lookup k = if k = name then some w else rest.lookup k := by
  by_cases same : k = name
  · subst same; simp
  · rw [List.lookup_cons,beq_eq_false_iff_ne.mpr same,if_neg same]

theorem lookup_put (fields : List (String × Json)) (key k : String) (v : Json) :
    (put fields key v).lookup k = if k = key then some v else fields.lookup k := by
  induction fields with
  | nil => exact lookup_first key k v []
  | cons e rest ih =>
    obtain ⟨name,w⟩ := e
    by_cases here : name = key
    · subst here
      simp only [put,if_pos,lookup_first]
      split_ifs <;> rfl
    · simp only [put,if_neg here,lookup_first,ih]
      by_cases first : k = name
      · subst first; simp [here]
      · simp [first]

/-- A field that is written reads as what was written, and all others as before. -/
theorem field_set {v v' w : Json} {key : String} (written : v.set key w = some v') (k : String) :
    v'.field k = if k = key then some w else v.field k := by
  cases v with
  | object fields => cases written; exact lookup_put fields key k w
  | null =>
    cases written
    exact lookup_first key k w []
  | bool => cases written
  | number => cases written
  | string => cases written
  | array => cases written

/-- Something with a string in one of its fields is an object. -/
theorem set_of_str {v : Json} {key s : String} (there : v.str key = some s) (key' : String) (w : Json) :
    ∃ v', v.set key' w = some v' := by
  cases v with
  | object fields => exact ⟨_,rfl⟩
  | null => cases there
  | bool => cases there
  | number => cases there
  | string => cases there
  | array => cases there

theorem str_eq_some {v : Json} {key s : String} (there : v.field key = some (.string s)) : v.str key = some s := by
  rw [str,index,there]
  rfl

end Json
end Sctl
