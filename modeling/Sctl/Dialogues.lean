import Mathlib.Logic.Basic
import Mathlib.Data.List.Basic

/-!
Programs that ask their surroundings. A `Dialogue` asks one question at a time
and goes on with the answer; its transcripts are its runs, with whatever
answers the surroundings give. What holds of every transcript is computed from
the program (`Guarantees`): a `Watch` says which answers can come, what it
remembers of the transcript, and what must be fine at every moment of it. The
rules for `done`, `ask` and `>>=` are what proofs about a program use.
-/
namespace Sctl.Dialogues
universe u v w x

/-- A program that asks questions of `Ask`, each answered by an `Answer` to it. -/
inductive Dialogue (Ask : Type u) (Answer : Ask → Type v) (α : Type w) : Type (max u v w) where
  | done (value : α)
  | ask (question : Ask) (next : Answer question → Dialogue Ask Answer α)

/-- A question with the answer that came. -/
structure Turn (Ask : Type u) (Answer : Ask → Type v) : Type (max u v) where
  question : Ask
  answer : Answer question

variable {Ask : Type u} {Answer : Ask → Type v} {α β : Type w}

namespace Dialogue

/-- One dialogue after another, which may use what the first one found. -/
def bind : Dialogue Ask Answer α → (α → Dialogue Ask Answer β) → Dialogue Ask Answer β
  | .done value, rest => rest value
  | .ask question next, rest => .ask question fun answer => (next answer).bind rest

instance : Monad (Dialogue Ask Answer) where
  pure := .done
  bind := bind

@[simp] theorem pure_eq (value : α) : (pure value : Dialogue Ask Answer α) = .done value := rfl

@[simp] theorem done_bind (value : α) (rest : α → Dialogue Ask Answer β) :
    (.done value >>= rest : Dialogue Ask Answer β) = rest value := rfl

@[simp] theorem ask_bind (question : Ask) (next : Answer question → Dialogue Ask Answer α)
    (rest : α → Dialogue Ask Answer β) :
    (.ask question next >>= rest : Dialogue Ask Answer β) = .ask question fun answer => next answer >>= rest := rfl

theorem bind_after {γ : Type w} (first : Dialogue Ask Answer α) (second : α → Dialogue Ask Answer β)
    (third : β → Dialogue Ask Answer γ) : first >>= second >>= third = first >>= fun value => second value >>= third := by
  induction first with
  | done value => rfl
  | ask question next ih => exact congrArg (Dialogue.ask question) (funext ih)

/-- The dialogue that is left after the turns, if they are turns of it. -/
def resume [DecidableEq Ask] : Dialogue Ask Answer α → List (Turn Ask Answer) → Option (Dialogue Ask Answer α)
  | rest, [] => some rest
  | .done _, _ :: _ => none
  | .ask question next, turn :: turns =>
    if same : turn.question = question then resume (next (same ▸ turn.answer)) turns else none

section
variable [DecidableEq Ask]

@[simp] theorem resume_nil (dialogue : Dialogue Ask Answer α) : dialogue.resume [] = some dialogue := by
  cases dialogue <;> rfl

theorem resume_done (value : α) (turn : Turn Ask Answer) (turns : List (Turn Ask Answer)) :
    (Dialogue.done value : Dialogue Ask Answer α).resume (turn :: turns) = none := rfl

theorem resume_cons (question : Ask) (next : Answer question → Dialogue Ask Answer α) (turn : Turn Ask Answer)
    (turns : List (Turn Ask Answer)) : (Dialogue.ask question next).resume (turn :: turns) =
      if same : turn.question = question then resume (next (same ▸ turn.answer)) turns else none := rfl

@[simp] theorem resume_turn {question : Ask} {next : Answer question → Dialogue Ask Answer α}
    {answer : Answer question} {turns : List (Turn Ask Answer)} :
    (Dialogue.ask question next).resume (⟨question,answer⟩ :: turns) = (next answer).resume turns := dif_pos rfl

theorem resume_ask {question : Ask} {next : Answer question → Dialogue Ask Answer α}
    {turn : Turn Ask Answer} {turns : List (Turn Ask Answer)} {rest : Dialogue Ask Answer α}
    (resumed : (Dialogue.ask question next).resume (turn :: turns) = some rest) :
    ∃ answer, turn = ⟨question,answer⟩ ∧ (next answer).resume turns = some rest := by
  obtain ⟨asked,answer⟩ := turn
  by_cases same : asked = question
  · subst same
    exact ⟨answer,rfl,resume_turn.symm.trans resumed⟩
  · rw [resume_cons,dif_neg same] at resumed
    cases resumed

end

section
variable [DecidableEq Ask]

/-- The turns are a whole transcript of the dialogue, which ends with the value. -/
def Ends (dialogue : Dialogue Ask Answer α) (turns : List (Turn Ask Answer)) (value : α) : Prop :=
  dialogue.resume turns = some (.done value)

theorem ends_done {found value : α} {turns : List (Turn Ask Answer)} :
    Ends (.done found) turns value ↔ turns = [] ∧ found = value := by
  cases turns with
  | nil =>
    rw [Ends,resume_nil,Option.some.injEq,Dialogue.done.injEq]
    exact ⟨fun same => ⟨rfl,same⟩,fun both => both.2⟩
  | cons turn turns =>
    rw [Ends,resume_done]
    exact ⟨nofun,fun both => nomatch both.1⟩

theorem ends_ask {question : Ask} {next : Answer question → Dialogue Ask Answer α} {turns : List (Turn Ask Answer)}
    {value : α} : Ends (.ask question next) turns value ↔
      ∃ answer rest, turns = ⟨question,answer⟩ :: rest ∧ Ends (next answer) rest value := by
  constructor
  · intro ended
    cases turns with
    | nil => simp [Ends] at ended
    | cons turn rest =>
      obtain ⟨answer,rfl,onward⟩ := resume_ask ended
      exact ⟨answer,rest,rfl,onward⟩
  · rintro ⟨answer,rest,rfl,onward⟩
    exact resume_turn.trans onward

/-- A transcript of two dialogues is one of the first, then one of the second. -/
theorem ends_bind {first : Dialogue Ask Answer α} {rest : α → Dialogue Ask Answer β} {turns : List (Turn Ask Answer)}
    {value : β} : Ends (first >>= rest) turns value ↔
      ∃ early late mid, turns = early ++ late ∧ Ends first early mid ∧ Ends (rest mid) late value := by
  induction first generalizing turns with
  | done found =>
    constructor
    · intro ended
      exact ⟨[],turns,found,rfl,ends_done.mpr ⟨rfl,rfl⟩,ended⟩
    · rintro ⟨early,late,mid,rfl,found,ended⟩
      obtain ⟨rfl,rfl⟩ := ends_done.mp found
      exact ended
  | ask question next ih =>
    rw [ask_bind,ends_ask]
    constructor
    · rintro ⟨answer,later,rfl,onward⟩
      obtain ⟨early,late,mid,rfl,before,after⟩ := (ih answer).mp onward
      exact ⟨⟨question,answer⟩ :: early,late,mid,rfl,ends_ask.mpr ⟨answer,early,rfl,before⟩,after⟩
    · rintro ⟨early,late,mid,rfl,before,after⟩
      obtain ⟨answer,early,rfl,onward⟩ := ends_ask.mp before
      exact ⟨answer,early ++ late,rfl,(ih answer).mpr ⟨early,late,mid,rfl,onward,after⟩⟩

/-- Only one transcript of a dialogue begins a list of turns. -/
theorem ends_unique {dialogue : Dialogue Ask Answer α} {early late early' late' : List (Turn Ask Answer)} {value value' : α}
    (ended : dialogue.Ends early value) (again : dialogue.Ends early' value') (same : early ++ late = early' ++ late') :
    early = early' ∧ value = value' ∧ late = late' := by
  induction dialogue generalizing early early' with
  | done found =>
    obtain ⟨rfl,rfl⟩ := ends_done.mp ended
    obtain ⟨rfl,rfl⟩ := ends_done.mp again
    exact ⟨rfl,rfl,same⟩
  | ask question next ih =>
    obtain ⟨answer,rest,rfl,onward⟩ := ends_ask.mp ended
    obtain ⟨answer',rest',rfl,onward'⟩ := ends_ask.mp again
    obtain ⟨turn,onwards⟩ := List.cons_eq_cons.mp same
    cases turn
    obtain ⟨rfl,rfl,rfl⟩ := ih answer onward onward' onwards
    exact ⟨rfl,rfl,rfl⟩

end

/-- The dialogue against surroundings that answer from a state of their own: its
    transcript and its value. -/
def follow {Env : Type x} (answer : Env → (question : Ask) → Answer question × Env) :
    Dialogue Ask Answer α → Env → List (Turn Ask Answer) × α
  | .done value, _ => ([],value)
  | .ask question next, env =>
    let (reply,env) := answer env question
    let (turns,value) := follow answer (next reply) env
    (⟨question,reply⟩ :: turns,value)

theorem resume_follow [DecidableEq Ask] {Env : Type x} {answer : Env → (question : Ask) → Answer question × Env}
    {dialogue : Dialogue Ask Answer α} {env : Env} :
    dialogue.resume (dialogue.follow answer env).1 = some (.done (dialogue.follow answer env).2) := by
  induction dialogue generalizing env with
  | done value => rfl
  | ask question next ih => exact resume_turn.trans (ih _)

end Dialogue

/-- What is watched over a transcript: the answers that can come, what is
    remembered of the turns, and what has to be fine after every turn. -/
structure Watch (Ask : Type u) (Answer : Ask → Type v) (Memory : Type x) where
  allows : Memory → Turn Ask Answer → Prop
  track : Memory → Turn Ask Answer → Memory
  fine : Memory → Prop

variable {Memory : Type x} {watch : Watch Ask Answer Memory}

/-- Whatever allowed answers come, all stays fine and the dialogue, if it ends,
    ends with a value and a memory that meet `post`. -/
def Guarantees (watch : Watch Ask Answer Memory) :
    Dialogue Ask Answer α → Memory → (α → Memory → Prop) → Prop
  | .done value, memory, post => post value memory
  | .ask question next, memory, post => ∀ answer, watch.allows memory ⟨question,answer⟩ →
      watch.fine (watch.track memory ⟨question,answer⟩) ∧
        Guarantees watch (next answer) (watch.track memory ⟨question,answer⟩) post

@[simp] theorem guarantees_done {value : α} {memory : Memory} {post : α → Memory → Prop} :
    Guarantees watch (.done value) memory post ↔ post value memory := Iff.rfl

@[simp] theorem guarantees_ask {question : Ask} {next : Answer question → Dialogue Ask Answer α} {memory : Memory}
    {post : α → Memory → Prop} : Guarantees watch (.ask question next) memory post ↔
      ∀ answer, watch.allows memory ⟨question,answer⟩ → watch.fine (watch.track memory ⟨question,answer⟩) ∧
        Guarantees watch (next answer) (watch.track memory ⟨question,answer⟩) post := Iff.rfl

/-- What follows is guaranteed from wherever the first dialogue can end. -/
theorem guarantees_bind {first : Dialogue Ask Answer α} {rest : α → Dialogue Ask Answer β} {memory : Memory}
    {post : β → Memory → Prop} : Guarantees watch (first >>= rest) memory post ↔
      Guarantees watch first memory fun value later => Guarantees watch (rest value) later post := by
  induction first generalizing memory with
  | done value => rfl
  | ask question next ih =>
    refine forall_congr' fun answer => forall_congr' fun _ => ?_
    exact and_congr_right fun _ => ih answer

theorem guarantees_mono {dialogue : Dialogue Ask Answer α} {memory : Memory} {post post' : α → Memory → Prop}
    (held : Guarantees watch dialogue memory post) (weaker : ∀ value later, post value later → post' value later) :
    Guarantees watch dialogue memory post' := by
  induction dialogue generalizing memory with
  | done value => exact weaker value memory held
  | ask question next ih =>
    intro answer allowed
    exact ⟨(held answer allowed).1,ih answer (held answer allowed).2⟩

/-- The rule that proofs use to step over a call: its own guarantee, then the rest. -/
theorem guarantees_call {first : Dialogue Ask Answer α} {rest : α → Dialogue Ask Answer β} {memory : Memory}
    {mid : α → Memory → Prop} {post : β → Memory → Prop} (called : Guarantees watch first memory mid)
    (onward : ∀ value later, mid value later → Guarantees watch (rest value) later post) :
    Guarantees watch (first >>= rest) memory post :=
  guarantees_bind.mpr (guarantees_mono called onward)

/-- The turns are allowed one after another. -/
def Allowed (watch : Watch Ask Answer Memory) : Memory → List (Turn Ask Answer) → Prop
  | _, [] => True
  | memory, turn :: turns => watch.allows memory turn ∧ Allowed watch (watch.track memory turn) turns

/-- All is fine after every one of the turns. -/
def Fine (watch : Watch Ask Answer Memory) : Memory → List (Turn Ask Answer) → Prop
  | _, [] => True
  | memory, turn :: turns => watch.fine (watch.track memory turn) ∧ Fine watch (watch.track memory turn) turns

/-- A guarantee speaks of every transcript of the dialogue. -/
theorem guarantees_transcript [DecidableEq Ask] {dialogue rest : Dialogue Ask Answer α} {memory : Memory}
    {post : α → Memory → Prop} {turns : List (Turn Ask Answer)} (held : Guarantees watch dialogue memory post)
    (resumed : dialogue.resume turns = some rest) (allowed : Allowed watch memory turns) :
    Fine watch memory turns ∧ Guarantees watch rest (turns.foldl watch.track memory) post := by
  induction turns generalizing dialogue memory with
  | nil =>
    rw [Dialogue.resume_nil,Option.some.injEq] at resumed
    subst resumed
    exact ⟨trivial,held⟩
  | cons turn turns ih =>
    cases dialogue with
    | done value => simp [Dialogue.resume] at resumed
    | ask question next =>
      obtain ⟨answer,rfl,onward⟩ := Dialogue.resume_ask resumed
      have here := held answer allowed.1
      have later := ih here.2 onward allowed.2
      exact ⟨⟨here.1,later.1⟩,later.2⟩

/-- Whatever the answers, only questions of the kind are asked, and the value returned is a `leaf`. -/
def Asks (kind : Ask → Prop) : Dialogue Ask Answer α → (α → Prop) → Prop
  | .done value, leaf => leaf value
  | .ask question next, leaf => kind question ∧ ∀ answer, Asks kind (next answer) leaf

section
variable {kind : Ask → Prop}

@[simp] theorem asks_done {value : α} {leaf : α → Prop} :
    Asks kind (.done value : Dialogue Ask Answer α) leaf ↔ leaf value := Iff.rfl

@[simp] theorem asks_ask {question : Ask} {next : Answer question → Dialogue Ask Answer α} {leaf : α → Prop} :
    Asks kind (.ask question next) leaf ↔ kind question ∧ ∀ answer, Asks kind (next answer) leaf := Iff.rfl

@[simp] theorem asks_bind {first : Dialogue Ask Answer α} {rest : α → Dialogue Ask Answer β} {leaf : β → Prop} :
    Asks kind (first >>= rest) leaf ↔ Asks kind first fun value => Asks kind (rest value) leaf := by
  induction first with
  | done value => rfl
  | ask question next ih => exact and_congr_right fun _ => forall_congr' ih

theorem asks_anything {dialogue : Dialogue Ask Answer α} (kinds : ∀ question, kind question) :
    Asks kind dialogue fun _ => True := by
  induction dialogue with
  | done value => trivial
  | ask question next ih => exact ⟨kinds question,ih⟩

theorem asks_mono {dialogue : Dialogue Ask Answer α} {leaf leaf' : α → Prop} (held : Asks kind dialogue leaf)
    (weaker : ∀ value, leaf value → leaf' value) : Asks kind dialogue leaf' := by
  induction dialogue with
  | done value => exact weaker value held
  | ask question next ih => exact ⟨held.1,fun answer => ih answer (held.2 answer)⟩

theorem asks_weaken {kind' : Ask → Prop} {dialogue : Dialogue Ask Answer α} {leaf : α → Prop}
    (kinds : ∀ question, kind question → kind' question) (held : Asks kind dialogue leaf) : Asks kind' dialogue leaf := by
  induction dialogue with
  | done value => exact held
  | ask question next ih => exact ⟨kinds question held.1,fun answer => ih answer (held.2 answer)⟩

/-- What is said of every value returned holds of the one a transcript ends with. -/
theorem asks_ends [DecidableEq Ask] {dialogue : Dialogue Ask Answer α} {leaf : α → Prop}
    {turns : List (Turn Ask Answer)} {value : α} (held : Asks kind dialogue leaf) (ended : dialogue.Ends turns value) :
    leaf value := by
  induction dialogue generalizing turns with
  | done found =>
    obtain ⟨_,rfl⟩ := Dialogue.ends_done.mp ended
    exact held
  | ask question next ih =>
    obtain ⟨answer,rest,_,onward⟩ := Dialogue.ends_ask.mp ended
    exact ih answer (held.2 answer) onward

/-- Every question of a transcript is of the kind. -/
theorem asks_questions [DecidableEq Ask] {dialogue : Dialogue Ask Answer α} {leaf : α → Prop}
    {turns : List (Turn Ask Answer)} {value : α} (held : Asks kind dialogue leaf) (ended : dialogue.Ends turns value) :
    ∀ turn ∈ turns, kind turn.question := by
  induction dialogue generalizing turns with
  | done found =>
    obtain ⟨rfl,_⟩ := Dialogue.ends_done.mp ended
    exact List.forall_mem_nil _
  | ask question next ih =>
    obtain ⟨answer,rest,rfl,onward⟩ := Dialogue.ends_ask.mp ended
    exact List.forall_mem_cons.mpr ⟨held.1,ih answer (held.2 answer) onward⟩

/-- The rule to step over a call whose value does not matter. -/
theorem asks_call {first : Dialogue Ask Answer α} {rest : α → Dialogue Ask Answer β} {leaf : β → Prop}
    (called : Asks kind first fun _ => True) (onward : ∀ value, Asks kind (rest value) leaf) :
    Asks kind (first >>= rest) leaf :=
  asks_bind.mpr (asks_mono called fun value _ => onward value)

/-- A dialogue that asks only questions over which the memory keeps an invariant keeps it. -/
theorem guarantees_of_asks {dialogue : Dialogue Ask Answer α} {leaf : α → Prop} {inv : Memory → Prop}
    (keeps : ∀ memory turn, inv memory → kind turn.question → watch.allows memory turn →
      watch.fine (watch.track memory turn) ∧ inv (watch.track memory turn))
    (held : Asks kind dialogue leaf) {memory : Memory} (start : inv memory) :
    Guarantees watch dialogue memory fun value later => leaf value ∧ inv later := by
  induction dialogue generalizing memory with
  | done value => exact ⟨held,start⟩
  | ask question next ih =>
    intro answer allowed
    have kept := keeps memory ⟨question,answer⟩ start held.1 allowed
    exact ⟨kept.1,ih answer (held.2 answer) kept.2⟩

end

end Sctl.Dialogues
