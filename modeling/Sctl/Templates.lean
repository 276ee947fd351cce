import Mathlib.Data.List.Basic
import Mathlib.Data.List.Infix
import Mathlib.Logic.Function.Basic

/-!
Texts with holes: a text sought is replaced wherever it stands, and the holes of
a template are filled one name after the other. Where no two of the texts that
stand for holes can overlap, and no filled text brings another hole about, the
order of the names does not matter.
-/
namespace Sctl.Templates

variable {Symbol : Type}

/-- An occurrence of `later` can start in one of `earlier`, behind the first symbol of it. -/
def Meets (earlier later : List Symbol) : Prop :=
  ∃ front back, earlier = front ++ back ∧ front ≠ [] ∧ back ≠ [] ∧ (later <+: back ∨ back <+: later)

/-- No occurrence of the one text overlaps an occurrence of the other. -/
structure Apart (one other : List Symbol) : Prop where
  behind : ¬ Meets one other
  before : ¬ Meets other one
  longer : ¬ one <+: other
  shorter : ¬ other <+: one

theorem Apart.symm {one other : List Symbol} (apart : Apart one other) : Apart other one :=
  ⟨apart.before,apart.behind,apart.shorter,apart.longer⟩

section Replacement
variable [DecidableEq Symbol]

/-- Each occurrence of `sought`, from the front on, gives way to what `insert` makes of
    the text before it and the text behind it. The first `skip` symbols belong to an
    occurrence that is already replaced. -/
def replaceFrom (sought : List Symbol) (insert : List Symbol → List Symbol → List Symbol) :
    Nat → List Symbol → List Symbol → List Symbol
  | _, _, [] => []
  | skip + 1, before, c :: rest => replaceFrom sought insert skip (before ++ [c]) rest
  | 0, before, c :: rest =>
    if sought.isPrefixOf (c :: rest) then
      insert before ((c :: rest).drop sought.length) ++ replaceFrom sought insert (sought.length - 1) (before ++ [c]) rest
    else c :: replaceFrom sought insert 0 (before ++ [c]) rest

/-- What becomes of a text when a text that is not empty is replaced throughout. -/
def replaceEach (sought : List Symbol) (insert : List Symbol → List Symbol → List Symbol) (text : List Symbol) : List Symbol :=
  replaceFrom sought insert 0 [] text

variable {sought m : List Symbol} {insert : List Symbol → List Symbol → List Symbol}

end Replacement

/-! ### Filling holes -/

section Pieces
variable {Name : Type}

/-- A template: text and the names of what goes between. -/
inductive Piece (Symbol Name : Type)
  | symbol (c : Symbol)
  | hole (name : Name)

/-- The text of a template, with `fill` in the holes. -/
def flat (fill : Name → List Symbol) : List (Piece Symbol Name) → List Symbol
  | [] => []
  | .symbol c :: rest => c :: flat fill rest
  | .hole name :: rest => fill name ++ flat fill rest

/-- The template that a text is: a hole is where the mark of a known name starts, and
    the first `skip` symbols belong to one. -/
def piecesFrom [DecidableEq Symbol] (known : List Name) (mark : Name → List Symbol) : Nat → List Symbol → List (Piece Symbol Name)
  | _, [] => []
  | skip + 1, _ :: rest => piecesFrom known mark skip rest
  | 0, c :: rest =>
    match known.find? fun name => (mark name).isPrefixOf (c :: rest) with
    | some name => .hole name :: piecesFrom known mark ((mark name).length - 1) rest
    | none => .symbol c :: piecesFrom known mark 0 rest

def pieces [DecidableEq Symbol] (known : List Name) (mark : Name → List Symbol) (text : List Symbol) : List (Piece Symbol Name) :=
  piecesFrom known mark 0 text

variable {known : List Name} {mark : Name → List Symbol}

variable {fill fill' : Name → List Symbol} {template : List (Piece Symbol Name)} {m : List Symbol}

variable [DecidableEq Symbol] [DecidableEq Name]

end Pieces
end Sctl.Templates
