import Mathlib.Logic.Function.Basic
import Sctl.Dialogues

/-!
Dialogues that run side by side. A pool has at most one under each name, and
each keeps what it was begun for and the turns it has made. A turn of the pool
is a turn of one of them; a dialogue that is done leaves its place empty. What
holds of every dialogue is carried over a turn by showing it of the one that
made the turn and of those that waited.
-/
namespace Sctl.Pools
open Dialogues
universe u v w x
variable {Ask : Type u} {Answer : Ask → Type v} {Label : Type w} {Name : Type x}

/-- A dialogue under way: what it was begun for, its turns so far, and what is left of it. -/
structure Thread (Ask : Type u) (Answer : Ask → Type v) (Label : Type w) where
  label : Label
  asked : List (Turn Ask Answer)
  rest : Dialogue Ask Answer Unit

/-- The dialogues that run side by side, by name. -/
abbrev Pool (Ask : Type u) (Answer : Ask → Type v) (Label : Type w) (Name : Type x) : Type (max u v w x) :=
  Name → Option (Thread Ask Answer Label)

namespace Thread

def begin (label : Label) (program : Dialogue Ask Answer Unit) : Thread Ask Answer Label := ⟨label,[],program⟩

/-- The thread, unless it is done. -/
def live (thread : Thread Ask Answer Label) : Option (Thread Ask Answer Label) :=
  match thread.rest with
  | .done _ => none
  | .ask _ _ => some thread

/-- The thread after a turn of it. -/
def after (thread : Thread Ask Answer Label) (turn : Turn Ask Answer) (rest : Dialogue Ask Answer Unit) :
    Thread Ask Answer Label := ⟨thread.label,thread.asked ++ [turn],rest⟩

theorem live_eq_some {thread found : Thread Ask Answer Label} (lives : thread.live = some found) : found = thread := by
  unfold live at lives
  split at lives
  · cases lives
  · exact (Option.some.inj lives).symm

theorem live_eq_none {thread : Thread Ask Answer Label} (ended : thread.live = none) : thread.rest = .done () := by
  unfold live at ended
  split at ended
  · next left => exact left
  · cases ended

end Thread

variable {pool next : Pool Ask Answer Label Name} {name : Name} {turn : Turn Ask Answer}

/-- The property holds of every thread of the pool. -/
def Everywhere (P : Name → Thread Ask Answer Label → Prop) (pool : Pool Ask Answer Label Name) : Prop :=
  ∀ name thread, pool name = some thread → P name thread

variable [DecidableEq Name]

/-- A thread takes the place under a name. -/
def put (pool : Pool Ask Answer Label Name) (name : Name) (thread : Thread Ask Answer Label) :
    Pool Ask Answer Label Name := Function.update pool name thread.live

theorem put_other {other : Name} {thread : Thread Ask Answer Label} (different : other ≠ name) :
    put pool name thread other = pool other := Function.update_of_ne different _ _

/-- What a pool has after a thread took its place: that thread, or one it had. -/
theorem put_some {other : Name} {thread found : Thread Ask Answer Label} (has : put pool name thread other = some found) :
    (other = name ∧ found = thread) ∨ (other ≠ name ∧ pool other = some found) := by
  by_cases same : other = name
  · subst same
    rw [put,Function.update_self] at has
    exact .inl ⟨rfl,Thread.live_eq_some has⟩
  · rw [put_other same] at has
    exact .inr ⟨same,has⟩

theorem everywhere_put {P Q : Name → Thread Ask Answer Label → Prop} {thread : Thread Ask Answer Label}
    (held : Everywhere P pool) (new : Q name thread) (others : ∀ other found, other ≠ name → P other found → Q other found) :
    Everywhere Q (put pool name thread) := by
  intro other found has
  rcases put_some has with ⟨rfl,rfl⟩ | ⟨different,had⟩
  · exact new
  · exact others other found different (held other found had)

/-- A turn of the thread under a name. -/
def answer [DecidableEq Ask] (pool : Pool Ask Answer Label Name) (name : Name) (turn : Turn Ask Answer) :
    Option (Pool Ask Answer Label Name) :=
  (pool name).bind fun thread => (thread.rest.resume [turn]).map fun rest => put pool name (thread.after turn rest)

/-- A turn is the answer to the question that the thread is at. -/
theorem answer_iff [DecidableEq Ask] : answer pool name turn = some next ↔
    ∃ thread question follow reply, pool name = some thread ∧ thread.rest = .ask question follow ∧
      turn = ⟨question,reply⟩ ∧ next = put pool name (thread.after turn (follow reply)) := by
  simp only [answer,Option.bind_eq_some_iff,Option.map_eq_some_iff]
  constructor
  · rintro ⟨thread,has,rest,resumed,rfl⟩
    cases left : thread.rest with
    | done value => simp [left,Dialogue.resume] at resumed
    | ask question follow =>
      rw [left] at resumed
      obtain ⟨reply,rfl,onward⟩ := Dialogue.resume_ask resumed
      rw [Dialogue.resume_nil,Option.some.injEq] at onward
      exact ⟨thread,question,follow,reply,has,left,rfl,by rw [onward]⟩
  · rintro ⟨thread,question,follow,reply,has,left,rfl,rfl⟩
    refine ⟨thread,has,follow reply,?_,rfl⟩
    rw [left,Dialogue.resume_turn,Dialogue.resume_nil]

end Sctl.Pools
