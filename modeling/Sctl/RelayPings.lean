import Sctl.Runs

/-!
The relay's ping task (`relay_ping_task` in `server/src/tunnel/relay.rs`) with what the
device's frames count for it. Times are in milliseconds since the task's interval began.
Beside the task's own variables the state keeps what has happened: when the last answer
came, and the pings and the ticks since then.
-/
namespace Sctl.RelayPings
open Runs

/-- Where the task stands. -/
inductive Pc
  /-- It waits for a tick. -/
  | waiting
  /-- It has read the count, and its ping waits for a place in the channel. -/
  | sending
  /-- It has reported `write_path_dead`. -/
  | dead
  | stopped
deriving DecidableEq

/-- When the last answer of the device came. -/
inductive Heard
  | never
  | waiting
  | sending
deriving DecidableEq

structure State where
  pc : Pc
  pongCount : Nat
  pingsSentSincePong : Nat
  lastPongCount : Nat
  /-- When the next tick of the interval is due. -/
  due : Nat
  now : Nat
  heard : Heard
  /-- The pings since the last answer, by the time at which each was sent, the last one first. -/
  unanswered : List Nat
  /-- The ticks since the last answer. -/
  ticks : Nat
  /-- The pings that were unanswered when the task reported, and when it did. -/
  report : Option (List Nat × Nat)
  /-- The pings that were unanswered at the last tick that went on. -/
  passed : List Nat

/-- The first tick, which is immediate, is over. -/
def start : State := ⟨.waiting,0,0,0,10000,0,.never,[],0,none,[]⟩

inductive Action
  | tick (now : Nat)
  /-- The ping is in the channel. -/
  | sent (now : Nat)
  | pong (now : Nat)
  /-- A `tunnel.ping` of the device, which counts as an answer too. -/
  | heartbeat (now : Nat)
  /-- The channel is closed, or the connection shuts down. -/
  | stop (now : Nat)

def Action.now : Action → Nat
  | .tick now | .sent now | .pong now | .heartbeat now | .stop now => now

/-- The count that a frame of the device goes up by. -/
def State.answered (s : State) (now : Nat) : State :=
  { s with pongCount := s.pongCount + 1, now, heard := if s.pc = .sending then .sending else .waiting, unanswered := [], ticks := 0 }

/-- The tick of the interval. -/
def State.interval (s : State) (now : Nat) : State := { s with due := s.due + 10000, now, ticks := s.ticks + 1 }

/-- What the task does at a tick. -/
def State.ticked (s : State) (now : Nat) : State :=
  if s.lastPongCount < s.pongCount then
    { s.interval now with pc := .sending, pingsSentSincePong := 0, lastPongCount := s.pongCount, passed := s.unanswered }
  else if 3 ≤ s.pingsSentSincePong + 1 then
    { s.interval now with pc := .dead, pingsSentSincePong := s.pingsSentSincePong + 1, report := some (s.unanswered,now) }
  else { s.interval now with pc := .sending, pingsSentSincePong := s.pingsSentSincePong + 1, passed := s.unanswered }

def step (s : State) (a : Action) : Option State :=
  if a.now < s.now then none
  else match a with
    | .tick now => if s.pc = .waiting ∧ s.due ≤ now then some (s.ticked now) else none
    | .sent now =>
      if s.pc = .sending then some { s with pc := .waiting, now, unanswered := now :: s.unanswered } else none
    | .pong now => some (s.answered now)
    | .heartbeat now => some (s.answered now)
    | .stop now => if s.pc = .waiting ∨ s.pc = .sending then some { s with pc := .stopped, now } else none

/-- The last three pings have been unanswered for ten seconds each. -/
def Overdue (unanswered : List Nat) (now : Nat) : Prop := 3 ≤ unanswered.length ∧ ∀ sent ∈ unanswered.take 3, sent + 10000 ≤ now

/-- The task has reported over three overdue pings only, and has passed no tick with three unanswered. -/
structure Right (s : State) : Prop where
  reports : ∀ unanswered now, s.report = some (unanswered,now) → Overdue unanswered now
  passes : s.passed.length < 3

/-- A tick without an answer since the start, or since one that came while a ping waited for its
    place, is not the third of its kind; one without an answer since another time is not the
    fourth, or its last ping was sent ten seconds before. -/
def Safe (s : State) : Action → Prop
  | .tick now =>
    match s.heard with
    | .never => s.ticks < 2
    | .sending => s.ticks < 2
    | .waiting => s.ticks < 3 ∨ ∀ sent ∈ s.unanswered.head?, sent + 10000 ≤ now
  | _ => True

/-! ### What the task knows -/

/-- A ping is on its way to the channel. -/
def State.ahead (s : State) : Nat := if s.pc = .sending then 1 else 0

/-- A ping was on its way when the last answer came. -/
def State.before (s : State) : Nat := if s.heard = .sending then 1 else 0

/-- How the task's variables follow from what has happened. -/
structure Follows (s : State) : Prop where
  pings : s.unanswered.length + s.ahead = s.ticks + s.before
  newest : s.unanswered.Pairwise (fun later earlier => earlier ≤ later)
  few : s.pingsSentSincePong < 3
  silent : s.heard = .never → s.lastPongCount = s.pongCount ∧ s.pingsSentSincePong = s.ticks
  fresh : s.heard ≠ .never → s.ticks = 0 → s.lastPongCount < s.pongCount
  seen : s.heard ≠ .never → 0 < s.ticks → s.lastPongCount = s.pongCount ∧ s.pingsSentSincePong + 1 = s.ticks
  last : 0 < s.ticks → s.passed.length + 1 = s.ticks + s.before

/-- While the task runs, its variables follow; no ping was sent later than now. -/
structure Sound (s : State) : Prop where
  past : ∀ sent ∈ s.unanswered, sent ≤ s.now
  follows : s.pc = .waiting ∨ s.pc = .sending → Follows s

section Steps
variable {s t : State} {now : Nat}

theorem Follows.le (follows : Follows s) : s.lastPongCount ≤ s.pongCount := by
  by_cases never : s.heard = .never
  · exact Nat.le_of_eq (follows.silent never).1
  · rcases Nat.eq_zero_or_pos s.ticks with none_ | some_
    · exact Nat.le_of_lt (follows.fresh never none_)
    · exact Nat.le_of_eq (follows.seen never some_).1

/-- The count is above the task's own exactly at the first tick after an answer. -/
theorem Follows.grown_iff (follows : Follows s) : s.lastPongCount < s.pongCount ↔ s.heard ≠ .never ∧ s.ticks = 0 := by
  constructor
  · intro grown
    have heard : s.heard ≠ .never := fun never => absurd (follows.silent never).1 (Nat.ne_of_lt grown)
    rcases Nat.eq_zero_or_pos s.ticks with none_ | some_
    · exact ⟨heard,none_⟩
    · exact absurd (follows.seen heard some_).1 (Nat.ne_of_lt grown)
  · rintro ⟨heard,none_⟩
    exact follows.fresh heard none_

theorem sound_answered (sound : Sound s) (now : Nat) : Sound (s.answered now) := by
  refine ⟨fun _ member => absurd member List.not_mem_nil,fun runs => ?_⟩
  have follows := sound.follows runs
  have heard : (s.answered now).heard ≠ .never := by
    simp only [State.answered]
    split <;> nofun
  refine ⟨?_,.nil,follows.few,fun never => absurd never heard,fun _ _ => ?_,fun _ some_ => absurd some_ (Nat.lt_irrefl 0),
    fun some_ => absurd some_ (Nat.lt_irrefl 0)⟩
  · simp only [State.answered,State.ahead,State.before]
    by_cases sending : s.pc = .sending <;> simp [sending]
  · exact Nat.lt_succ_of_le follows.le

theorem sound_ticked (sound : Sound s) (waits : s.pc = .waiting) (later : s.now ≤ now) : Sound (s.ticked now) := by
  have follows := sound.follows (.inl waits)
  have pings := follows.pings
  have past : ∀ sent ∈ s.unanswered, sent ≤ now := fun sent member => Nat.le_trans (sound.past sent member) later
  simp only [State.ahead,waits,reduceCtorEq,if_false] at pings
  unfold State.ticked
  split
  · next grown =>
    obtain ⟨heard,none_⟩ := follows.grown_iff.mp grown
    refine ⟨past,fun _ => ⟨?_,follows.newest,Nat.zero_lt_succ 2,fun never => absurd never heard,fun _ zero => ?_,fun _ _ => ⟨rfl,?_⟩,
      fun _ => ?_⟩⟩
    · show s.unanswered.length + 1 = s.ticks + 1 + s.before
      omega
    · exact absurd zero (Nat.succ_ne_zero _)
    · show 0 + 1 = s.ticks + 1
      omega
    · show s.unanswered.length + 1 = s.ticks + 1 + s.before
      omega
  · next still =>
    split
    · exact ⟨past,fun runs => by simp at runs⟩
    · next few =>
      refine ⟨past,fun _ => ⟨?_,follows.newest,Nat.lt_of_not_le few,fun never => ?_,fun _ zero => ?_,fun heard _ => ?_,fun _ => ?_⟩⟩
      · show s.unanswered.length + 1 = s.ticks + 1 + s.before
        omega
      · have silent := follows.silent never
        exact ⟨silent.1,congrArg (· + 1) silent.2⟩
      · exact absurd zero (Nat.succ_ne_zero _)
      · have some_ : 0 < s.ticks := Nat.pos_of_ne_zero fun none_ => still (follows.grown_iff.mpr ⟨heard,none_⟩)
        have seen := follows.seen heard some_
        exact ⟨seen.1,congrArg (· + 1) seen.2⟩
      · show s.unanswered.length + 1 = s.ticks + 1 + s.before
        omega

theorem sound_step (s : State) (a : Action) (t : State) (sound : Sound s) (stepped : step s a = some t) : Sound t := by
  simp only [step,Option.ite_none_left_eq_some] at stepped
  obtain ⟨later,stepped⟩ := stepped
  replace later := Nat.le_of_not_lt later
  cases a with
  | tick now =>
    simp only [Option.ite_none_right_eq_some] at stepped
    obtain ⟨⟨waits,-⟩,stepped⟩ := stepped
    cases stepped
    exact sound_ticked sound waits later
  | sent now =>
    simp only [Option.ite_none_right_eq_some] at stepped
    obtain ⟨sends,stepped⟩ := stepped
    cases stepped
    have follows := sound.follows (.inr sends)
    have pings := follows.pings
    simp only [State.ahead,sends,if_true] at pings
    refine ⟨?_,fun _ => ⟨?_,?_,follows.few,follows.silent,follows.fresh,follows.seen,follows.last⟩⟩
    · intro ping member
      rcases List.mem_cons.mp member with rfl | member
      · exact Nat.le_refl _
      · exact Nat.le_trans (sound.past ping member) later
    · show s.unanswered.length + 1 + 0 = s.ticks + s.before
      omega
    · exact List.pairwise_cons.mpr ⟨fun ping member => Nat.le_trans (sound.past ping member) later,follows.newest⟩
  | pong now => cases stepped; exact sound_answered sound now
  | heartbeat now => cases stepped; exact sound_answered sound now
  | stop now =>
    simp only [Option.ite_none_right_eq_some] at stepped
    obtain ⟨-,stepped⟩ := stepped
    cases stepped
    exact ⟨fun ping member => Nat.le_trans (sound.past ping member) later,fun runs => by simp at runs⟩

/-! ### When a tick is right -/

/-- Of three pings in a row the last one is the youngest. -/
theorem overdue_iff {unanswered : List Nat} (newest : unanswered.Pairwise (fun later earlier => earlier ≤ later))
    (three : 3 ≤ unanswered.length) (now : Nat) : Overdue unanswered now ↔ ∀ sent ∈ unanswered.head?, sent + 10000 ≤ now := by
  obtain ⟨sent,earlier,rfl⟩ := List.exists_cons_of_length_pos (show 0 < unanswered.length by omega)
  rw [Overdue,and_iff_right three]
  constructor
  · intro all ping first
    cases first
    exact all sent List.mem_cons_self
  · intro youngest ping member
    have bound : sent + 10000 ≤ now := youngest sent rfl
    rcases List.mem_cons.mp (List.mem_of_mem_take member) with rfl | member
    · exact bound
    · have older := (List.pairwise_cons.mp newest).1 ping member
      omega

/-- A tick that goes on is right exactly when fewer than three pings are unanswered. -/
theorem right_passed (right : Right s) (same : t.report = s.report) (passed : t.passed = s.unanswered) :
    Right t ↔ s.unanswered.length < 3 :=
  ⟨fun after => passed ▸ after.passes,fun few => ⟨same ▸ right.reports,passed ▸ few⟩⟩

theorem right_reported (right : Right s) (reported : t.report = some (s.unanswered,now)) (same : t.passed = s.passed) :
    Right t ↔ Overdue s.unanswered now := by
  constructor
  · intro after
    exact after.reports _ _ reported
  · intro overdue
    refine ⟨fun unanswered at_ again => ?_,same ▸ right.passes⟩
    cases reported.symm.trans again
    exact overdue

theorem right_ticked_iff (sound : Sound s) (right : Right s) (waits : s.pc = .waiting) :
    Right (s.ticked now) ↔ Safe s (.tick now) := by
  have follows := sound.follows (.inl waits)
  have pings := follows.pings
  simp only [State.ahead,State.before,waits,reduceCtorEq,if_false,Nat.add_zero] at pings
  have few := follows.few
  unfold State.ticked
  split
  · next grown =>
    obtain ⟨heard,none_⟩ := follows.grown_iff.mp grown
    refine (right_passed right (by rfl) (by rfl)).trans (iff_of_true (by split at pings <;> omega) ?_)
    cases last : s.heard with
    | never => exact absurd last heard
    | sending => simp only [Safe,last]; omega
    | waiting => simp only [Safe,last]; exact .inl (by omega)
  · next still =>
    cases last : s.heard with
    | never =>
      have silent := follows.silent last
      simp only [last,reduceCtorEq,if_false] at pings
      simp only [Safe,last]
      split
      · next three =>
        refine (right_reported right (by rfl) (by rfl)).trans ?_
        refine iff_of_false (fun overdue => ?_) (by omega)
        have three := overdue.1
        omega
      · refine (right_passed right (by rfl) (by rfl)).trans ?_
        omega
    | sending =>
      have heard : s.heard ≠ .never := by rw [last]; nofun
      have some_ : 0 < s.ticks := Nat.pos_of_ne_zero fun none_ => still (follows.grown_iff.mpr ⟨heard,none_⟩)
      have seen := follows.seen heard some_
      -- the tick before passed one ping fewer
      have before := follows.last some_
      have passes := right.passes
      simp only [State.before,last,if_true] at pings before
      simp only [Safe,last]
      split
      · omega
      · refine (right_passed right (by rfl) (by rfl)).trans ?_
        omega
    | waiting =>
      have heard : s.heard ≠ .never := by rw [last]; nofun
      have some_ : 0 < s.ticks := Nat.pos_of_ne_zero fun none_ => still (follows.grown_iff.mpr ⟨heard,none_⟩)
      have seen := follows.seen heard some_
      simp only [last,reduceCtorEq,if_false] at pings
      simp only [Safe,last]
      split
      · rw [or_iff_right (by omega)]
        exact (right_reported right (by rfl) (by rfl)).trans (overdue_iff follows.newest (by omega) now)
      · refine (right_passed right (by rfl) (by rfl)).trans ?_
        exact iff_of_true (by omega) (.inl (by omega))

theorem right_step_iff (s : State) (a : Action) (t : State) (sound : Sound s) (right : Right s) (stepped : step s a = some t) :
    Right t ↔ Safe s a := by
  simp only [step,Option.ite_none_left_eq_some] at stepped
  obtain ⟨-,stepped⟩ := stepped
  cases a with
  | tick now =>
    simp only [Option.ite_none_right_eq_some] at stepped
    obtain ⟨⟨waits,-⟩,stepped⟩ := stepped
    cases stepped
    exact right_ticked_iff sound right waits
  | sent now =>
    simp only [Option.ite_none_right_eq_some] at stepped
    cases stepped.2
    exact iff_of_true ⟨right.reports,right.passes⟩ trivial
  | pong now => cases stepped; exact iff_of_true ⟨right.reports,right.passes⟩ trivial
  | heartbeat now => cases stepped; exact iff_of_true ⟨right.reports,right.passes⟩ trivial
  | stop now =>
    simp only [Option.ite_none_right_eq_some] at stepped
    cases stepped.2
    exact iff_of_true ⟨right.reports,right.passes⟩ trivial

end Steps

theorem sound_start : Sound start :=
  ⟨fun _ member => absurd member List.not_mem_nil,fun _ => ⟨rfl,.nil,by decide,fun _ => ⟨rfl,rfl⟩,fun heard => absurd rfl heard,
    fun heard => absurd rfl heard,fun some_ => absurd some_ (Nat.lt_irrefl 0)⟩⟩

/-- The write path is reported dead exactly over three overdue pings throughout a run exactly
    when its ticks are safe. -/
theorem dead_path_iff (as : List Action) : Always step Right start as ↔ Along step Safe start as :=
  always_iff_along sound_step right_step_iff sound_start ⟨nofun,by decide⟩

/-- In the first interval the third tick reports over two pings. -/
theorem two_pings_dead : ¬ ∀ as : List Action, Always step Right start as := by
  intro claim
  have third : run step start [.tick 10000,.sent 10000,.tick 20000,.sent 20000,.tick 30000] =
      some ⟨.dead,0,3,0,40000,30000,.never,[20000,10000],3,some ([20000,10000],30000),[10000]⟩ := rfl
  have overdue := (always_last (claim _) third).reports _ _ rfl
  exact absurd overdue.1 (by decide)

end Sctl.RelayPings
