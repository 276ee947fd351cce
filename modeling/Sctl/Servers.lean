import Mathlib.Data.List.Basic
import Mathlib.Data.List.Nodup
import Mathlib.Logic.Function.Basic
import Sctl.Runs

/-!
A worker behind a bounded queue, which serves one request at a time and answers each
through a channel of its own. Any number of callers send requests and wait for the
answers; a caller may be dropped wherever it waits. When the worker dies, the queue and
the answers that it owes go with it, and who sends later learns that it is gone.
-/
namespace Sctl.Servers
open Runs
universe u v
variable {Request : Type u} {Reply : Type v}

/-- Where a caller stands. -/
inductive Phase (Reply : Type v)
  /-- It waits for room in the queue. -/
  | sending
  | awaiting
  | answered (reply : Reply)
  /-- Nobody took the request. -/
  | refused
  /-- The worker died with the request. -/
  | dropped
  | abandoned
deriving DecidableEq

inductive Worker
  | idle
  | busy (n : Nat)
  | gone
deriving DecidableEq

structure State (Request : Type u) (Reply : Type v) where
  /-- The calls so far, by number. -/
  requests : List Request
  phase : Nat → Option (Phase Reply)
  queue : List Nat
  worker : Worker
  /-- The calls whose requests entered the queue, in order. -/
  entered : List Nat
  /-- The calls that were served, in order, and their replies; none for the one that the worker died of. -/
  served : List (Nat × Option Reply)

def start : State Request Reply := ⟨[],fun _ => none,[],.idle,[],[]⟩

inductive Action (Request : Type u) (Reply : Type v)
  | call (request : Request)
  | send (n : Nat)
  | take
  /-- The worker is done with its request, or dies. -/
  | serve (reply : Option Reply)
  | abandon (n : Nat)
  /-- Nobody can send any more. -/
  | stop

/-- The caller waits for an answer. -/
def waiting : Option (Phase Reply) → Bool
  | some .awaiting => true
  | _ => false

/-- The call is over. -/
def over_ : Option (Phase Reply) → Bool
  | some .sending | some .awaiting => false
  | _ => true

/-- Those of the calls that wait for an answer get one. -/
def tell (ns : List Nat) (phase : Phase Reply) (old : Nat → Option (Phase Reply)) (m : Nat) : Option (Phase Reply) :=
  if waiting (old m) && decide (m ∈ ns) then some phase else old m

def State.busy (s : State Request Reply) : List Nat :=
  match s.worker with
  | .busy n => [n]
  | _ => []

def step (capacity : Nat) (s : State Request Reply) : Action Request Reply → Option (State Request Reply)
  | .call request =>
    some { s with requests := s.requests ++ [request], phase := Function.update s.phase s.requests.length (some .sending) }
  | .send n =>
    match s.phase n with
    | some .sending =>
      if s.worker = .gone then some { s with phase := Function.update s.phase n (some .refused) }
      else if s.queue.length < capacity then
        some { s with
          phase := Function.update s.phase n (some .awaiting)
          queue := s.queue ++ [n]
          entered := s.entered ++ [n] }
      else none
    | _ => none
  | .take =>
    match s.worker, s.queue with
    | .idle, n :: rest => some { s with worker := .busy n, queue := rest }
    | _, _ => none
  | .serve reply =>
    match s.worker with
    | .busy n =>
      match reply with
      | some r => some { s with phase := tell [n] (.answered r) s.phase, worker := .idle, served := s.served ++ [(n,some r)] }
      | none =>
        some { s with
          phase := tell (n :: s.queue) .dropped s.phase
          queue := []
          worker := .gone
          served := s.served ++ [(n,none)] }
    | _ => none
  | .abandon n => if over_ (s.phase n) then none else some { s with phase := Function.update s.phase n (some .abandoned) }
  | .stop =>
    match s.worker, s.queue with
    | .idle, [] => if (List.range s.requests.length).all fun n => over_ (s.phase n) then some { s with worker := .gone } else none
    | _, _ => none

/-- What the callers know, when the calls in `pending` are in the queue or with the worker. -/
structure Phases (served : List (Nat × Option Reply)) (pending : List Nat) (worker : Worker)
    (phase : Nat → Option (Phase Reply)) : Prop where
  /-- Who is answered has the reply to its own request. -/
  own : ∀ n r, phase n = some (.answered r) → (n,some r) ∈ served
  /-- And a reply goes to its caller, unless the caller was dropped. -/
  told : ∀ n r, (n,some r) ∈ served → phase n = some (.answered r) ∨ phase n = some .abandoned
  /-- Nobody waits for an answer that does not come. -/
  waits : ∀ n, phase n = some .awaiting → n ∈ pending
  held : ∀ n ∈ pending, phase n = some .awaiting ∨ phase n = some .abandoned
  /-- Only when the worker is gone a caller is turned away. -/
  gone : ∀ n, phase n = some .refused ∨ phase n = some .dropped → worker = .gone

/-- What every run keeps. -/
structure Served (capacity : Nat) (s : State Request Reply) : Prop where
  phases : Phases s.served (s.busy ++ s.queue) s.worker s.phase
  /-- Requests are served one at a time, in the order in which they entered the queue. -/
  order : s.served.map Prod.fst ++ s.busy ++ s.queue <+: s.entered
  whole : s.worker ≠ .gone → s.entered = s.served.map Prod.fst ++ s.busy ++ s.queue
  /-- None is served twice. -/
  once : s.entered.Nodup
  room : s.queue.length ≤ capacity
  empty : s.worker = .gone → s.queue = []

variable {capacity n : Nat} {s t : State Request Reply} {served : List (Nat × Option Reply)} {pending : List Nat} {worker : Worker}
  {phase : Nat → Option (Phase Reply)}

theorem waiting_iff {phase : Option (Phase Reply)} : waiting phase = true ↔ phase = some .awaiting := by
  rcases phase with _ | phase
  · simp [waiting]
  · cases phase <;> simp [waiting]

theorem over_false {phase : Option (Phase Reply)} (going : over_ phase = false) :
    phase = some .sending ∨ phase = some .awaiting := by
  rcases phase with _ | phase
  · cases going
  · cases phase <;> simp_all [over_]

theorem tell_waiting {ns : List Nat} {answer : Phase Reply} (waits : phase n = some .awaiting) (member : n ∈ ns) :
    tell ns answer phase n = some answer := by
  simp [tell,waiting_iff.mpr waits,member]

theorem tell_other {ns : List Nat} {answer : Phase Reply} (other : phase n = some .awaiting → n ∉ ns) :
    tell ns answer phase n = phase n := by
  unfold tell
  split
  next both =>
    simp only [Bool.and_eq_true,waiting_iff,decide_eq_true_eq] at both
    exact absurd both.2 (other both.1)
  · rfl

theorem tell_cases (ns : List Nat) (answer : Phase Reply) (phase : Nat → Option (Phase Reply)) (m : Nat) :
    phase m = some .awaiting ∧ m ∈ ns ∧ tell ns answer phase m = some answer ∨ tell ns answer phase m = phase m := by
  by_cases both : phase m = some .awaiting ∧ m ∈ ns
  · exact .inl ⟨both.1,both.2,tell_waiting both.1 both.2⟩
  · exact .inr (tell_other fun waits member => both ⟨waits,member⟩)

/-- One call moves on. -/
theorem Phases.update (phases : Phases served pending worker phase) {pending' : List Nat} {p : Phase Reply}
    (replied : ∀ r, (n,some r) ∈ served → p = .abandoned) (more : pending ⊆ pending')
    (fewer : ∀ m ∈ pending', m ∈ pending ∨ m = n) (held : n ∈ pending' → p = .awaiting ∨ p = .abandoned)
    (waits : p = .awaiting → n ∈ pending') (gone : p = .refused ∨ p = .dropped → worker = .gone) (answered : ∀ r, p ≠ .answered r) :
    Phases served pending' worker (Function.update phase n (some p)) := by
  have other : ∀ m, m ≠ n → Function.update phase n (some p) m = phase m := fun m apart => Function.update_of_ne apart ..
  have here : Function.update phase n (some p) n = some p := Function.update_self ..
  refine ⟨fun m r now => ?_,fun m r member => ?_,fun m now => ?_,fun m member => ?_,fun m now => ?_⟩
  all_goals by_cases same : m = n
  · rw [same,here,Option.some.injEq] at now
    exact absurd now (answered r)
  · rw [other m same] at now
    exact phases.own m r now
  · rw [same] at member ⊢
    rw [here]
    exact .inr (congrArg some (replied r member))
  · rw [other m same]
    exact phases.told m r member
  · rw [same,here,Option.some.injEq] at now
    rw [same]
    exact waits now
  · rw [other m same] at now
    exact more (phases.waits m now)
  · rw [same] at member ⊢
    rw [here,Option.some.injEq,Option.some.injEq]
    exact held member
  · rw [other m same]
    rcases fewer m member with old | new
    · exact phases.held m old
    · exact absurd new same
  · rw [same,here,Option.some.injEq,Option.some.injEq] at now
    exact gone now
  · rw [other m same] at now
    exact phases.gone m now

/-- The worker replies to the first of the pending calls. -/
theorem Phases.reply (phases : Phases served (n :: pending) (.busy n) phase) (r : Reply) (once : n ∉ pending) :
    Phases (served ++ [(n,some r)]) pending .idle (tell [n] (.answered r) phase) := by
  refine ⟨fun m r' now => ?_,fun m r' member => ?_,fun m now => ?_,fun m member => ?_,fun m now => ?_⟩
  · rcases tell_cases [n] (.answered r) phase m with ⟨-,member,told⟩ | same
    · obtain rfl := List.mem_singleton.mp member
      cases told.symm.trans now
      simp
    · exact List.mem_append_left _ (phases.own m r' (same ▸ now))
  · rcases List.mem_append.mp member with old | new
    · have before := phases.told m r' old
      rwa [tell_other (by rintro waits; rw [waits] at before; simp at before)]
    · cases List.mem_singleton.mp new
      rcases phases.held n List.mem_cons_self with waits | dropped
      · exact .inl (tell_waiting waits List.mem_cons_self)
      · exact .inr (by rw [tell_other (by rw [dropped]; nofun),dropped])
  · rcases tell_cases [n] (.answered r) phase m with ⟨-,-,told⟩ | same
    · cases told.symm.trans now
    · rcases List.mem_cons.mp (phases.waits m (same ▸ now)) with rfl | later
      · rw [tell_waiting (same ▸ now) List.mem_cons_self] at now
        cases now
      · exact later
  · have apart : m ≠ n := fun same => once (same ▸ member)
    rw [tell_other fun _ there => apart (List.mem_singleton.mp there)]
    exact phases.held m (List.mem_cons_of_mem n member)
  · rcases tell_cases [n] (.answered r) phase m with ⟨-,-,told⟩ | same
    · rw [told] at now
      simp at now
    · cases phases.gone m (same ▸ now)

/-- The worker dies, and all pending calls learn it. -/
theorem Phases.die (phases : Phases served (n :: pending) (.busy n) phase) :
    Phases (served ++ [(n,none)]) [] .gone (tell (n :: pending) .dropped phase) := by
  refine ⟨fun m r now => ?_,fun m r member => ?_,fun m now => ?_,nofun,fun _ _ => rfl⟩
  · rcases tell_cases (n :: pending) .dropped phase m with ⟨-,-,told⟩ | same
    · cases told.symm.trans now
    · exact List.mem_append_left _ (phases.own m r (same ▸ now))
  · have old : (m,some r) ∈ served := by simpa using member
    have before := phases.told m r old
    rwa [tell_other (by rintro waits; rw [waits] at before; simp at before)]
  · rcases tell_cases (n :: pending) .dropped phase m with ⟨-,-,told⟩ | same
    · cases told.symm.trans now
    · rw [tell_waiting (same ▸ now) (phases.waits m (same ▸ now))] at now
      cases now

structure Sound (capacity : Nat) (s : State Request Reply) : Prop where
  served : Served capacity s
  known : ∀ n, s.requests.length ≤ n → s.phase n = none
  /-- What entered the queue is beyond sending. -/
  entered : ∀ n ∈ s.entered, s.phase n ≠ some .sending ∧ s.phase n ≠ none

theorem Sound.not_replied (sound : Sound capacity s) (early : s.phase n = some .sending ∨ s.phase n = none) (r : Reply) :
    (n,some r) ∉ s.served := by
  intro member
  rcases sound.served.phases.told n r member with now | now <;> rw [now] at early <;> simp at early

theorem Sound.not_pending (sound : Sound capacity s) (early : s.phase n = some .sending ∨ s.phase n = none) :
    n ∉ s.busy ++ s.queue := by
  intro member
  rcases sound.served.phases.held n member with now | now <;> rw [now] at early <;> simp at early

theorem Sound.known_update (sound : Sound capacity s) {old p : Phase Reply} (here : s.phase n = some old) (m : Nat)
    (beyond : s.requests.length ≤ m) : Function.update s.phase n (some p) m = none := by
  have fresh := sound.known m beyond
  rw [Function.update_of_ne (by rintro rfl; cases here.symm.trans fresh),fresh]

theorem Sound.entered_update (sound : Sound capacity s) {p : Phase Reply} (past : n ∈ s.entered → p ≠ .sending) (m : Nat)
    (member : m ∈ s.entered) :
    Function.update s.phase n (some p) m ≠ some .sending ∧ Function.update s.phase n (some p) m ≠ none := by
  by_cases same : m = n
  · subst same
    rw [Function.update_self]
    exact ⟨fun sending => past member (Option.some.inj sending),nofun⟩
  · rw [Function.update_of_ne same]
    exact sound.entered m member

theorem Sound.entered_tell (sound : Sound capacity s) {ns : List Nat} {answer : Phase Reply} (other : answer ≠ .sending) (m : Nat)
    (member : m ∈ s.entered) : tell ns answer s.phase m ≠ some .sending ∧ tell ns answer s.phase m ≠ none := by
  rcases tell_cases ns answer s.phase m with ⟨-,-,told⟩ | same
  · rw [told]
    exact ⟨fun sending => other (Option.some.inj sending),nofun⟩
  · rw [same]
    exact sound.entered m member

theorem Sound.known_tell (sound : Sound capacity s) {ns : List Nat} {answer : Phase Reply} (m : Nat)
    (beyond : s.requests.length ≤ m) : tell ns answer s.phase m = none := by
  have fresh := sound.known m beyond
  rw [tell_other (by rw [fresh]; nofun),fresh]

theorem step_sound (s : State Request Reply) (a : Action Request Reply) (t : State Request Reply) (sound : Sound capacity s)
    (stepped : step capacity s a = some t) : Sound capacity t := by
  have served := sound.served
  cases a with
  | call request =>
    cases stepped
    have fresh : s.phase s.requests.length = none := sound.known _ (Nat.le_refl _)
    have phases := served.phases.update (p := .sending) (fun r member => absurd member (sound.not_replied (.inr fresh) r))
      (List.Subset.refl _) (fun m member => .inl member) (fun member => absurd member (sound.not_pending (.inr fresh)))
      (nofun) (by simp) (nofun)
    refine ⟨{ served with phases := phases },fun n beyond => ?_,fun n member => ?_⟩
    · simp only [List.length_append,List.length_singleton] at beyond
      show Function.update s.phase s.requests.length (some .sending) n = none
      rw [Function.update_of_ne (by omega)]
      exact sound.known n (by omega)
    · have old := sound.entered n member
      show Function.update s.phase s.requests.length (some .sending) n ≠ some .sending ∧
        Function.update s.phase s.requests.length (some .sending) n ≠ none
      rw [Function.update_of_ne (by rintro rfl; exact old.2 fresh)]
      exact old
  | send n =>
    simp only [step] at stepped
    split at stepped
    next at_ =>
      have early : s.phase n = some .sending ∨ s.phase n = none := .inl at_
      have absent : n ∉ s.entered := fun member => (sound.entered n member).1 at_
      split_ifs at stepped with gone room
      · cases stepped
        have phases := served.phases.update (p := .refused) (fun r member => absurd member (sound.not_replied early r))
          (List.Subset.refl _) (fun m member => .inl member) (fun member => absurd member (sound.not_pending early))
          (nofun) (fun _ => gone) (nofun)
        exact ⟨{ served with phases := phases },sound.known_update at_,sound.entered_update fun member => absurd member absent⟩
      · cases stepped
        have whole := served.whole gone
        have phases : Phases s.served (s.busy ++ (s.queue ++ [n])) s.worker (Function.update s.phase n (some .awaiting)) :=
          served.phases.update
          (fun r member => absurd member (sound.not_replied early r)) (fun m member => by simp at member ⊢; tauto)
          (fun m member => by simp at member ⊢; tauto) (fun _ => .inl rfl) (fun _ => by simp) (by simp) (nofun)
        have entered : s.entered ++ [n] = s.served.map Prod.fst ++ s.busy ++ (s.queue ++ [n]) := by
          rw [whole,List.append_assoc _ s.queue]
        refine ⟨⟨phases,entered ▸ List.prefix_rfl,fun _ => entered,?_,?_,fun gone' => absurd gone' gone⟩,sound.known_update at_,
          fun m member => ?_⟩
        · exact List.nodup_append.mpr ⟨served.once,List.nodup_singleton n,fun m member m' single same => absent (by
            rwa [← List.mem_singleton.mp single,← same])⟩
        · simpa using Nat.succ_le_of_lt room
        · rcases List.mem_append.mp member with old | new
          · exact sound.entered_update (p := .awaiting) (fun _ => nofun) m old
          · obtain rfl := List.mem_singleton.mp new
            show Function.update s.phase m (some .awaiting) m ≠ some .sending ∧ Function.update s.phase m (some .awaiting) m ≠ none
            rw [Function.update_self]
            exact ⟨nofun,nofun⟩
    · cases stepped
  | take =>
    simp only [step] at stepped
    split at stepped
    next n rest idle queue =>
      cases stepped
      have pending : s.busy ++ s.queue = n :: rest := by rw [State.busy,idle,queue]; rfl
      have order := served.whole (by rw [idle]; nofun)
      rw [List.append_assoc,pending] at order
      have phases := served.phases
      rw [pending] at phases
      refine ⟨⟨{ phases with gone := fun m now => ?_ },?_,fun _ => ?_,served.once,?_,nofun⟩,sound.known,sound.entered⟩
      · cases idle.symm.trans (phases.gone m now)
      · rw [List.append_assoc]
        exact order ▸ List.prefix_rfl
      · rw [List.append_assoc]
        exact order
      · have room := served.room
        rw [queue] at room
        exact Nat.le_of_succ_le room
    · cases stepped
  | serve reply =>
    simp only [step] at stepped
    split at stepped
    next n busy =>
      have pending : s.busy ++ s.queue = n :: s.queue := by rw [State.busy,busy]; rfl
      have order := served.whole (by rw [busy]; nofun)
      rw [List.append_assoc,pending] at order
      have phases := served.phases
      rw [pending,busy] at phases
      have once : n ∉ s.queue := by
        have distinct := served.once
        rw [order,List.nodup_append] at distinct
        exact (List.nodup_cons.mp distinct.2.1).1
      cases reply with
      | some r =>
        cases stepped
        have whole : s.entered = (s.served ++ [(n,some r)]).map Prod.fst ++ [] ++ s.queue := by simp [order]
        exact ⟨⟨phases.reply r once,whole ▸ List.prefix_rfl,fun _ => whole,served.once,served.room,nofun⟩,sound.known_tell,
          sound.entered_tell (nofun)⟩
      | none =>
        cases stepped
        have told : (s.served ++ [((n : Nat),(none : Option Reply))]).map Prod.fst ++ [] ++ [] <+: s.entered :=
          ⟨s.queue,by simp [order]⟩
        exact ⟨⟨phases.die,told,fun alive => absurd rfl alive,served.once,Nat.zero_le _,fun _ => rfl⟩,sound.known_tell,
          sound.entered_tell (nofun)⟩
    · cases stepped
  | abandon n =>
    simp only [step] at stepped
    split at stepped
    · cases stepped
    next going =>
      cases stepped
      have early := over_false (Bool.eq_false_iff.mpr going)
      have phases := served.phases.update (n := n) (p := .abandoned) (fun _ _ => rfl) (List.Subset.refl _)
        (fun m member => .inl member) (fun _ => .inr rfl) (nofun) (by simp) (nofun)
      have known : ∀ m, s.requests.length ≤ m → Function.update s.phase n (some .abandoned) m = none := by
        rcases early with at_ | at_ <;> exact sound.known_update at_
      exact ⟨{ served with phases := phases },known,sound.entered_update fun _ => nofun⟩
  | stop =>
    simp only [step] at stepped
    split at stepped
    next idle queue =>
      split_ifs at stepped
      cases stepped
      have pending : s.busy ++ s.queue = [] := by rw [State.busy,idle,queue]; rfl
      have phases := served.phases
      rw [pending] at phases
      have order := served.whole (by rw [idle]; nofun)
      rw [List.append_assoc,pending] at order
      refine ⟨⟨?_,?_,fun alive => absurd rfl alive,served.once,served.room,fun _ => queue⟩,sound.known,sound.entered⟩
      · show Phases s.served ([] ++ s.queue) .gone s.phase
        rw [queue]
        exact { phases with gone := fun _ _ => rfl }
      · show s.served.map Prod.fst ++ [] ++ s.queue <+: s.entered
        rw [queue,order]
        simp
    · cases stepped

/-- What a step adds to the calls and to what was served. -/
theorem step_log {a : Action Request Reply} (stepped : step capacity s a = some t) : s.requests <+: t.requests ∧
    ((∀ reply, a ≠ .serve reply) ∧ t.served = s.served ∨ ∃ reply n, a = .serve reply ∧ s.worker = .busy n ∧ t.served = s.served ++ [(n,reply)]) := by
  cases a with
  | call request => cases stepped; exact ⟨List.prefix_append _ _,.inl ⟨nofun,rfl⟩⟩
  | send n =>
    simp only [step] at stepped
    split at stepped
    · split_ifs at stepped <;> cases stepped <;> exact ⟨List.prefix_rfl,.inl ⟨nofun,rfl⟩⟩
    · cases stepped
  | take =>
    simp only [step] at stepped
    split at stepped <;> cases stepped
    exact ⟨List.prefix_rfl,.inl ⟨nofun,rfl⟩⟩
  | serve reply =>
    simp only [step] at stepped
    split at stepped
    next n busy => cases reply <;> cases stepped <;> exact ⟨List.prefix_rfl,.inr ⟨_,n,rfl,busy,rfl⟩⟩
    · cases stepped
  | abandon n =>
    simp only [step] at stepped
    split at stepped <;> cases stepped
    exact ⟨List.prefix_rfl,.inl ⟨nofun,rfl⟩⟩
  | stop =>
    simp only [step] at stepped
    split at stepped
    · split_ifs at stepped
      cases stepped
      exact ⟨List.prefix_rfl,.inl ⟨nofun,rfl⟩⟩
    · cases stepped

theorem start_sound (capacity : Nat) : Sound capacity (start : State Request Reply) :=
  ⟨⟨⟨nofun,nofun,nofun,nofun,nofun⟩,List.prefix_rfl,fun _ => rfl,List.nodup_nil,Nat.zero_le _,fun _ => rfl⟩,fun _ _ => rfl,nofun⟩

end Sctl.Servers
