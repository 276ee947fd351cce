import Mathlib.Logic.Basic
import Mathlib.Data.List.Basic
import Mathlib.Algebra.Group.Nat.Defs

/-!
Runs of a system that takes one atomic step at a time. An interleaving of
concurrent calls is a list of actions; `step` answers `none` when an action is
not enabled, so a run is exactly a list of actions that `run` carries through.
A condition on the state before a step (`Along`), a property of every state
passed (`Always`) and a relation between an earlier and a later state
(`Between`, and `While` something holds) are what the developments below say
about a run.
-/
namespace Sctl.Runs
universe u v
variable {State : Type u} {Action : Type v} (step : State → Action → Option State)

/-- The state after the actions, one after another. -/
def run : State → List Action → Option State
  | s, [] => some s
  | s, a :: rest => (step s a).bind fun t => run t rest

/-- Every action that the run takes meets the condition in the state before it. -/
def Along (ok : State → Action → Prop) : State → List Action → Prop
  | _, [] => True
  | s, a :: rest => ∀ t, step s a = some t → ok s a ∧ Along ok t rest

/-- Every state that the run passes has the property, its first one included. -/
def Always (P : State → Prop) : State → List Action → Prop
  | s, [] => P s
  | s, a :: rest => P s ∧ ∀ t, step s a = some t → Always P t rest

/-- Every earlier state of the run is related to every later one. -/
def Between (R : State → State → Prop) (s : State) (as : List Action) : Prop :=
  ∀ early mid late, as = early ++ mid ++ late → ∀ t, run step s early = some t →
    ∀ u, run step t mid = some u → R t u

/-- An earlier state of the run is related to a later one when `P` holds from the one to the other. -/
def While (P : State → Prop) (R : State → State → Prop) (s : State) (as : List Action) : Prop :=
  ∀ early mid late, as = early ++ mid ++ late → ∀ t, run step s early = some t →
    ∀ u, run step t mid = some u → Always step P t mid → R t u

instance decidableAlong (ok : State → Action → Prop) [∀ s a, Decidable (ok s a)] :
    ∀ (s : State) (as : List Action), Decidable (Along step ok s as)
  | _, [] => .isTrue trivial
  | s, a :: rest =>
    match found : step s a with
    | none => .isTrue fun _ stepped => nomatch found.symm.trans stepped
    | some t =>
      have := decidableAlong ok t rest
      decidable_of_iff (ok s a ∧ Along step ok t rest)
        ⟨fun met _ stepped => Option.some.inj (found.symm.trans stepped) ▸ met,fun all => all t found⟩

instance decidableAlways (P : State → Prop) [DecidablePred P] :
    ∀ (s : State) (as : List Action), Decidable (Always step P s as)
  | s, [] => inferInstanceAs (Decidable (P s))
  | s, a :: rest =>
    match found : step s a with
    | none =>
      decidable_of_iff (P s) ⟨fun first => ⟨first,fun _ stepped => nomatch found.symm.trans stepped⟩,And.left⟩
    | some t =>
      have := decidableAlways P t rest
      decidable_of_iff (P s ∧ Always step P t rest)
        ⟨fun all => ⟨all.1,fun _ stepped => Option.some.inj (found.symm.trans stepped) ▸ all.2⟩,
          fun all => ⟨all.1,all.2 t found⟩⟩

variable {step}

@[simp] theorem run_nil (s : State) : run step s [] = some s := rfl

theorem run_cons_iff {s u : State} {a : Action} {rest : List Action} :
    run step s (a :: rest) = some u ↔ ∃ t, step s a = some t ∧ run step t rest = some u := by
  simp [run,Option.bind_eq_some_iff]

theorem run_append_iff {first second : List Action} {s u : State} :
    run step s (first ++ second) = some u ↔ ∃ t, run step s first = some t ∧ run step t second = some u := by
  induction first generalizing s with
  | nil => simp
  | cons a rest ih =>
    simp only [List.cons_append,run_cons_iff,ih]
    constructor
    · rintro ⟨t,stepped,m,before,after⟩; exact ⟨m,⟨t,stepped,before⟩,after⟩
    · rintro ⟨m,⟨t,stepped,before⟩,after⟩; exact ⟨t,stepped,m,before,after⟩

theorem run_singleton {s t : State} {a : Action} : run step s [a] = some t ↔ step s a = some t := by
  simp [run_cons_iff]

theorem along_append {ok : State → Action → Prop} {first second : List Action} {s t : State}
    (all : Along step ok s (first ++ second)) (ran : run step s first = some t) :
    Along step ok s first ∧ Along step ok t second := by
  induction first generalizing s with
  | nil => cases ran; exact ⟨trivial,all⟩
  | cons a rest ih =>
    obtain ⟨m,stepped,after⟩ := run_cons_iff.mp ran
    have later := ih (all m stepped).2 after
    refine ⟨?_,later.2⟩
    intro m' stepped'
    cases stepped.symm.trans stepped'
    exact ⟨(all m stepped).1,later.1⟩

theorem along_append_of {ok : State → Action → Prop} {first second : List Action} {s t : State}
    (ran : run step s first = some t) (before : Along step ok s first) (after : Along step ok t second) :
    Along step ok s (first ++ second) := by
  induction first generalizing s with
  | nil => cases ran; exact after
  | cons a rest ih =>
    obtain ⟨m,stepped,later⟩ := run_cons_iff.mp ran
    intro m' stepped'
    cases stepped.symm.trans stepped'
    exact ⟨(before m stepped).1,ih later (before m stepped).2⟩

/-- What holds of every action of the list holds along the run. -/
theorem along_of_forall {ok : Action → Prop} {as : List Action} {s : State} (all : ∀ a ∈ as, ok a) :
    Along step (fun _ a => ok a) s as := by
  induction as generalizing s with
  | nil => trivial
  | cons a rest ih =>
    intro t _
    exact ⟨all a List.mem_cons_self,ih fun other member => all other (List.mem_cons_of_mem a member)⟩

theorem along_and {ok ok' : State → Action → Prop} {as : List Action} {s : State} :
    Along step (fun s a => ok s a ∧ ok' s a) s as ↔ Along step ok s as ∧ Along step ok' s as := by
  induction as generalizing s with
  | nil => simp [Along]
  | cons a rest ih =>
    simp only [Along,ih]
    constructor
    · intro all
      exact ⟨fun t stepped => ⟨(all t stepped).1.1,(all t stepped).2.1⟩,
        fun t stepped => ⟨(all t stepped).1.2,(all t stepped).2.2⟩⟩
    · rintro ⟨first,second⟩ t stepped
      exact ⟨⟨(first t stepped).1,(second t stepped).1⟩,(first t stepped).2,(second t stepped).2⟩

/-- Conditions that agree in every state the run can be in agree along the run. -/
theorem along_congr {inv : State → Prop} {ok ok' : State → Action → Prop}
    (keeps : ∀ s a t, inv s → step s a = some t → inv t)
    (same : ∀ s a t, inv s → step s a = some t → (ok s a ↔ ok' s a)) {as : List Action} {s : State}
    (start : inv s) : Along step ok s as ↔ Along step ok' s as := by
  induction as generalizing s with
  | nil => rfl
  | cons a rest ih =>
    refine forall_congr' fun t => forall_congr' fun stepped => ?_
    rw [same s a t start stepped,ih (keeps s a t start stepped)]

/-- The induction rule: what a step taken under the condition keeps, a run
    taken under the condition keeps. -/
theorem run_keeps {inv : State → Prop} {ok : State → Action → Prop}
    (keeps : ∀ s a t, inv s → ok s a → step s a = some t → inv t) {as : List Action} {s t : State}
    (start : inv s) (all : Along step ok s as) (ran : run step s as = some t) : inv t := by
  induction as generalizing s with
  | nil => cases ran; exact start
  | cons a rest ih =>
    obtain ⟨m,stepped,after⟩ := run_cons_iff.mp ran
    exact ih (keeps s a m start (all m stepped).1 stepped) (all m stepped).2 after

/-- The unconditional form: every step keeps it, so every run does. -/
theorem run_preserves {inv : State → Prop} (keeps : ∀ s a t, inv s → step s a = some t → inv t)
    {as : List Action} {s t : State} (start : inv s) (ran : run step s as = some t) : inv t := by
  induction as generalizing s with
  | nil => cases ran; exact start
  | cons a rest ih =>
    obtain ⟨m,stepped,after⟩ := run_cons_iff.mp ran
    exact ih (keeps s a m start stepped) after

theorem always_of_keeps {inv P : State → Prop} {ok : State → Action → Prop}
    (keeps : ∀ s a t, inv s → ok s a → step s a = some t → inv t) (enough : ∀ s, inv s → P s)
    {as : List Action} {s : State} (start : inv s) (all : Along step ok s as) : Always step P s as := by
  induction as generalizing s with
  | nil => exact enough s start
  | cons a rest ih =>
    exact ⟨enough s start,fun t stepped => ih (keeps s a t start (all t stepped).1 stepped) (all t stepped).2⟩

theorem always_of_preserves {inv P : State → Prop} (keeps : ∀ s a t, inv s → step s a = some t → inv t)
    (enough : ∀ s, inv s → P s) {as : List Action} {s : State} (start : inv s) : Always step P s as := by
  induction as generalizing s with
  | nil => exact enough s start
  | cons a rest ih => exact ⟨enough s start,fun t stepped => ih (keeps s a t start stepped)⟩

theorem always_first {P : State → Prop} {as : List Action} {s : State} (all : Always step P s as) : P s := by
  cases as with
  | nil => exact all
  | cons a rest => exact all.1

theorem always_last {P : State → Prop} {as : List Action} {s t : State} (all : Always step P s as)
    (ran : run step s as = some t) : P t := by
  induction as generalizing s with
  | nil => cases ran; exact all
  | cons a rest ih =>
    obtain ⟨m,stepped,after⟩ := run_cons_iff.mp ran
    exact ih (all.2 m stepped) after

/-- The states that a run passes are the ones that its beginnings lead to. -/
theorem always_iff_reached {P : State → Prop} {as : List Action} {s : State} : Always step P s as ↔
    ∀ early late, as = early ++ late → ∀ t, run step s early = some t → P t := by
  constructor
  · intro all early late split t ran
    subst split
    induction early generalizing s with
    | nil => cases ran; exact always_first all
    | cons a rest ih =>
      obtain ⟨m,stepped,after⟩ := run_cons_iff.mp ran
      exact ih after (all.2 m stepped)
  · intro reached
    induction as generalizing s with
    | nil => exact reached [] [] rfl s rfl
    | cons a rest ih =>
      refine ⟨reached [] (a :: rest) rfl s rfl,fun t stepped => ih fun early late split u ran => ?_⟩
      exact reached (a :: early) late (by rw [split,List.cons_append]) u (run_cons_iff.mpr ⟨t,stepped,ran⟩)

/-- A property that one step keeps exactly under a condition holds along a run
    exactly when every step of the run meets the condition. What else is kept may
    rest on the property. -/
theorem always_iff_along_with {inv P : State → Prop} {ok : State → Action → Prop}
    (keeps : ∀ s a t, inv s → P s → step s a = some t → inv t)
    (exactly : ∀ s a t, inv s → P s → step s a = some t → (P t ↔ ok s a)) {as : List Action} {s : State}
    (start : inv s) (first : P s) : Always step P s as ↔ Along step ok s as := by
  induction as generalizing s with
  | nil => simp [Always,Along,first]
  | cons a rest ih =>
    simp only [Always,Along,first,true_and]
    refine forall_congr' fun t => forall_congr' fun stepped => ?_
    have kept := keeps s a t start first stepped
    have here := exactly s a t start first stepped
    constructor
    · intro all
      have now : P t := always_first all
      exact ⟨here.mp now,(ih kept now).mp all⟩
    · rintro ⟨met,all⟩
      exact (ih kept (here.mpr met)).mpr all

theorem always_iff_along {inv P : State → Prop} {ok : State → Action → Prop}
    (keeps : ∀ s a t, inv s → step s a = some t → inv t)
    (exactly : ∀ s a t, inv s → P s → step s a = some t → (P t ↔ ok s a)) {as : List Action} {s : State}
    (start : inv s) (first : P s) : Always step P s as ↔ Along step ok s as :=
  always_iff_along_with (fun s a t held _ => keeps s a t held) exactly start first

/-- What no step brings back held throughout when it holds at the end. -/
theorem always_of_last {inv P : State → Prop} (keeps : ∀ s a t, inv s → step s a = some t → inv t)
    (back : ∀ s a t, inv s → step s a = some t → P t → P s) {as : List Action} {s t : State} (start : inv s)
    (ran : run step s as = some t) (last : P t) : Always step P s as := by
  induction as generalizing s with
  | nil => cases ran; exact last
  | cons a rest ih =>
    obtain ⟨m,stepped,after⟩ := run_cons_iff.mp ran
    have later : Always step P m rest := ih (keeps s a m start stepped) after
    refine ⟨back s a m start stepped (always_first later),fun m' stepped' => ?_⟩
    cases stepped.symm.trans stepped'
    exact later

/-- So the end of a run tells whether every step met the condition. -/
theorem last_iff_along {inv P : State → Prop} {ok : State → Action → Prop}
    (keeps : ∀ s a t, inv s → step s a = some t → inv t)
    (exactly : ∀ s a t, inv s → P s → step s a = some t → (P t ↔ ok s a))
    (back : ∀ s a t, inv s → step s a = some t → P t → P s) {as : List Action} {s t : State} (start : inv s) (first : P s)
    (ran : run step s as = some t) : P t ↔ Along step ok s as := by
  constructor
  · intro last
    exact (always_iff_along keeps exactly start first).mp (always_of_last keeps back start ran last)
  · intro all
    exact always_last ((always_iff_along keeps exactly start first).mpr all) ran

/-- A relation that composes and that one step keeps exactly under a condition
    relates all states of a run exactly when every step meets the condition. -/
theorem between_iff_along {inv : State → Prop} {R : State → State → Prop} {ok : State → Action → Prop}
    (keeps : ∀ s a t, inv s → step s a = some t → inv t) (same : ∀ s, R s s)
    (compose : ∀ s a t rest u, inv s → step s a = some t → run step t rest = some u → R s t → R t u → R s u)
    (exactly : ∀ s a t, inv s → step s a = some t → (R s t ↔ ok s a)) {as : List Action} {s : State}
    (start : inv s) : Between step R s as ↔ Along step ok s as := by
  constructor
  · intro all
    induction as generalizing s with
    | nil => trivial
    | cons a rest ih =>
      intro t stepped
      refine ⟨(exactly s a t start stepped).mp (all [] [a] rest rfl s rfl t (run_singleton.mpr stepped)),?_⟩
      refine ih (keeps s a t start stepped) ?_
      intro early mid late split m before u after
      exact all (a :: early) mid late (by simp [split]) m (run_cons_iff.mpr ⟨t,stepped,before⟩) u after
  · intro all early mid late split t before u after
    subst split
    have reached : inv t := run_preserves keeps start before
    have rest := (along_append (along_append (by simpa using all) before).2 after).1
    clear before all start
    induction mid generalizing t with
    | nil => cases after; exact same _
    | cons a more ih =>
      obtain ⟨m,stepped,beyond⟩ := run_cons_iff.mp after
      have related := (exactly t a m reached stepped).mpr (rest m stepped).1
      have onward := ih m beyond (keeps t a m reached stepped) (rest m stepped).2
      exact compose t a m more u reached stepped beyond related onward

/-- What relates every two neighbours relates all states of a run. -/
theorem between_of_steps {R : State → State → Prop} (same : ∀ s, R s s) (compose : ∀ s t u, R s t → R t u → R s u)
    (steps : ∀ s a t, step s a = some t → R s t) (s : State) (as : List Action) : Between step R s as := by
  intro early mid late split t before u after
  clear split before
  induction mid generalizing t with
  | nil => cases after; exact same _
  | cons a rest ih =>
    obtain ⟨m,stepped,beyond⟩ := run_cons_iff.mp after
    exact compose t m u (steps t a m stepped) (ih m beyond)

/-- The rule of `Between` for a relation that is asked for only while something holds. -/
theorem while_iff_along {Index : Type} {P : Index → State → Prop} {R : Index → State → State → Prop}
    {ok : State → Action → Prop} (same : ∀ i s, R i s s)
    (compose : ∀ i s t u, P i t → R i s t → R i t u → R i s u)
    (exactly : ∀ s a t, step s a = some t → ((∀ i, P i s → P i t → R i s t) ↔ ok s a)) {as : List Action} {s : State} :
    (∀ i, While step (P i) (R i) s as) ↔ Along step ok s as := by
  constructor
  · intro all
    induction as generalizing s with
    | nil => trivial
    | cons a rest ih =>
      intro t stepped
      refine ⟨(exactly s a t stepped).mp ?_,ih ?_⟩
      · intro i before after
        refine all i [] [a] rest rfl s rfl t (run_singleton.mpr stepped) ⟨before,?_⟩
        intro t' stepped'
        cases stepped.symm.trans stepped'
        exact after
      · intro i early mid late split m before u after
        exact all i (a :: early) mid late (by simp [split]) m (run_cons_iff.mpr ⟨t,stepped,before⟩) u after
  · intro all i early mid late split t before u after holds
    subst split
    have rest := (along_append (along_append (by simpa using all) before).2 after).1
    clear before all
    induction mid generalizing t with
    | nil => cases after; exact same i _
    | cons a more ih =>
      obtain ⟨m,stepped,beyond⟩ := run_cons_iff.mp after
      have still := holds.2 m stepped
      have related := (exactly t a m stepped).mpr (rest m stepped).1 i holds.1 (always_first still)
      exact compose i t m u (always_first still) related (ih m beyond still (rest m stepped).2)

end Sctl.Runs
