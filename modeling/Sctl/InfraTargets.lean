import Mathlib.Logic.Basic
import Mathlib.Data.List.Basic
import Mathlib.Data.List.Induction
import Mathlib.Algebra.Group.Nat.Defs

/-!
The status of an infrastructure target, as the monitor computes it from one
check to the next, and what the hysteresis rule says about a whole history of
checks.
-/
namespace Sctl.InfraTargets

inductive TargetStatus
  | unknown
  | up
  | degraded
  | down
deriving DecidableEq

/-- What the status depends on of the result of a check. -/
structure CheckResult where
  ok : Bool
  latencyMs : Option Nat
deriving DecidableEq

/-- The parameters of a target's status; the two counts are `u32`. -/
structure Thresholds where
  degradedThresholdMs : Nat
  downAfter : Nat
  upAfter : Nat
  downAfter_lt : downAfter < 2 ^ 32
  upAfter_lt : upAfter < 2 ^ 32

theorem two_lt : 2 < 2 ^ 32 := by decide

/-- What the monitor keeps of a target; the two counts are `u32`. -/
structure TargetState where
  status : TargetStatus
  consecutiveOk : Nat
  consecutiveFail : Nat
deriving DecidableEq

/-- `saturating_add(1)` of a `u32`. -/
def saturatingSucc (n : Nat) : Nat := min (n + 1) (2 ^ 32 - 1)

/-- `+ 1` of a `u32`, in a release build. -/
def wrappingSucc (n : Nat) : Nat := (n + 1) % 2 ^ 32

def CheckResult.isSlow (limits : Thresholds) (result : CheckResult) : Bool :=
  match result.latencyMs with
  | some ms => limits.degradedThresholdMs < ms
  | none => false

def computeStatus (limits : Thresholds) (prev : TargetStatus) (result : CheckResult) (current : Option TargetState) : TargetStatus :=
  let consecutiveFail := current.elim 0 TargetState.consecutiveFail
  let consecutiveOk := current.elim 0 TargetState.consecutiveOk
  match prev with
  | .unknown => if result.ok then .up else .degraded
  | .up =>
    if !result.ok then .degraded
    else if result.isSlow limits then .degraded
    else .up
  | .degraded =>
    if result.ok ∧ limits.upAfter ≤ wrappingSucc consecutiveOk then .up
    else if result.ok = false ∧ limits.downAfter ≤ wrappingSucc consecutiveFail then .down
    else .degraded
  | .down => if result.ok ∧ limits.upAfter ≤ wrappingSucc consecutiveOk then .up else .down

def statusOf (current : Option TargetState) : TargetStatus := current.elim .unknown TargetState.status

/-- What the monitor makes of one check: the next status, from the counts before the
    check, and then the counts. -/
def recordCheck (limits : Thresholds) (current : Option TargetState) (result : CheckResult) : TargetState where
  status := computeStatus limits (statusOf current) result current
  consecutiveOk := if result.ok then saturatingSucc (current.elim 0 TargetState.consecutiveOk) else 0
  consecutiveFail := if result.ok then 0 else saturatingSucc (current.elim 0 TargetState.consecutiveFail)

/-- The state of a target that started fresh, after these checks. -/
def stateAfter (limits : Thresholds) (results : List CheckResult) : Option TargetState :=
  results.foldl (fun current result => some (recordCheck limits current result)) none

def statusAfter (limits : Thresholds) (results : List CheckResult) : TargetStatus := statusOf (stateAfter limits results)

/-! ### The hysteresis rule -/

/-- The number of checks at the end of a history that have the property. -/
def runOf (p : CheckResult → Bool) (results : List CheckResult) : Nat := (results.reverse.takeWhile p).length

def failures : List CheckResult → Nat := runOf fun result => !result.ok

def successes : List CheckResult → Nat := runOf CheckResult.ok

def allSlow (limits : Thresholds) (results : List CheckResult) : Prop :=
  ∀ result ∈ results, result.ok = true ∧ result.isSlow limits = true

/-- The status went from `up` to `degraded` and back. -/
def Alternates (limits : Thresholds) (results : List CheckResult) : Prop :=
  ∃ first second third, first < second ∧ second < third ∧ third ≤ results.length ∧
    statusAfter limits (results.take first) = .up ∧ statusAfter limits (results.take second) = .degraded ∧
    statusAfter limits (results.take third) = .up

/-- The rule, over the history of a target. -/
structure FollowsRule (limits : Thresholds) (results : List CheckResult) : Prop where
  enters_down : ∀ before result after, results = before ++ result :: after → statusAfter limits before ≠ .down →
    (statusAfter limits (before ++ [result]) = .down ↔ failures (before ++ [result]) = limits.downAfter)
  leaves_down : ∀ before result after, results = before ++ result :: after → statusAfter limits before = .down →
    statusAfter limits (before ++ [result]) ≠ .down → successes (before ++ [result]) = limits.upAfter
  steady : allSlow limits results → ¬ Alternates limits results

/-- A check fails while the target is unknown or up. -/
def FailsFresh (limits : Thresholds) (results : List CheckResult) : Prop :=
  ∃ before result after, results = before ++ result :: after ∧ result.ok = false ∧
    (statusAfter limits before = .unknown ∨ statusAfter limits before = .up)

/-! ### One more check -/

section
variable {limits : Thresholds} {results before : List CheckResult} {result : CheckResult}

theorem stateAfter_append : stateAfter limits (results ++ [result]) = some (recordCheck limits (stateAfter limits results) result) := by
  simp [stateAfter]

theorem statusAfter_append : statusAfter limits (results ++ [result]) =
    computeStatus limits (statusAfter limits results) result (stateAfter limits results) := by
  rw [statusAfter,stateAfter_append]
  rfl

theorem runOf_append {p : CheckResult → Bool} : runOf p (results ++ [result]) = if p result then runOf p results + 1 else 0 := by
  rw [runOf,List.reverse_append,List.reverse_singleton,List.singleton_append,List.takeWhile_cons]
  split <;> rfl

theorem failures_append : failures (results ++ [result]) = if result.ok then 0 else failures results + 1 := by
  rw [failures,runOf_append]
  cases result.ok <;> rfl

theorem successes_append : successes (results ++ [result]) = if result.ok then successes results + 1 else 0 := by
  rw [successes,runOf_append]

/-- The counts are those of the history, as far as a `u32` goes. -/
structure Counted (results : List CheckResult) (current : Option TargetState) : Prop where
  ok : current.elim 0 TargetState.consecutiveOk = min (successes results) (2 ^ 32 - 1)
  fail : current.elim 0 TargetState.consecutiveFail = min (failures results) (2 ^ 32 - 1)

theorem saturatingSucc_min {n : Nat} : saturatingSucc (min n (2 ^ 32 - 1)) = min (n + 1) (2 ^ 32 - 1) := by
  rw [saturatingSucc]
  omega

theorem wrappingSucc_min {n limit : Nat} (small : n + 1 < 2 ^ 32) : limit ≤ wrappingSucc (min n (2 ^ 32 - 1)) ↔ limit ≤ n + 1 := by
  rw [wrappingSucc,Nat.min_eq_left (by omega),Nat.mod_eq_of_lt small]

theorem counted (limits : Thresholds) (results : List CheckResult) : Counted results (stateAfter limits results) := by
  induction results using List.reverseRecOn with
  | nil => exact ⟨rfl,rfl⟩
  | append_singleton results result ih =>
    rw [stateAfter_append]
    constructor
    · show (if result.ok then _ else 0) = _
      rw [successes_append,ih.ok]
      split
      · exact saturatingSucc_min
      · rfl
    · show (if result.ok then 0 else _) = _
      rw [failures_append,ih.fail]
      split
      · rfl
      · exact saturatingSucc_min

/-- What the status says about the run of checks before. -/
structure Placed (limits : Thresholds) (results : List CheckResult) : Prop where
  unknown : statusAfter limits results = .unknown → results = []
  up : statusAfter limits results = .up → failures results = 0
  degraded : statusAfter limits results = .degraded → failures results < max limits.downAfter 2
  down : statusAfter limits results = .down → successes results < limits.upAfter

/-- In a degraded target, a failing check counts as far as the limit. -/
theorem fail_count (placed : Placed limits results) (degraded : statusAfter limits results = .degraded) :
    limits.downAfter ≤ wrappingSucc ((stateAfter limits results).elim 0 TargetState.consecutiveFail) ↔
      limits.downAfter ≤ failures results + 1 := by
  rw [(counted limits results).fail]
  have few := placed.degraded degraded
  have bound := limits.downAfter_lt
  exact wrappingSucc_min (by omega)

/-- In a target that is down, a successful check counts as far as the limit. -/
theorem ok_count (placed : Placed limits results) (down : statusAfter limits results = .down) :
    limits.upAfter ≤ wrappingSucc ((stateAfter limits results).elim 0 TargetState.consecutiveOk) ↔
      limits.upAfter ≤ successes results + 1 := by
  rw [(counted limits results).ok]
  have few := placed.down down
  have bound := limits.upAfter_lt
  exact wrappingSucc_min (by omega)

/-- What one check can do to the status. -/
inductive Checked (limits : Thresholds) (results : List CheckResult) (result : CheckResult) : TargetStatus → TargetStatus → Prop
  | first_ok (ok : result.ok = true) : Checked limits results result .unknown .up
  | fails (status : TargetStatus) (fresh : status = .unknown ∨ status = .up) (fail : result.ok = false) :
      Checked limits results result status .degraded
  | slow (ok : result.ok = true) (slow : result.isSlow limits = true) : Checked limits results result .up .degraded
  | stays_up (ok : result.ok = true) (fast : result.isSlow limits = false) : Checked limits results result .up .up
  | recovers (ok : result.ok = true) : Checked limits results result .degraded .up
  | goes_down (fail : result.ok = false) (many : limits.downAfter ≤ failures results + 1) : Checked limits results result .degraded .down
  | stays_degraded (few : result.ok = false → failures results + 1 < limits.downAfter) :
      Checked limits results result .degraded .degraded
  | comes_up (ok : result.ok = true) (many : limits.upAfter ≤ successes results + 1) : Checked limits results result .down .up
  | stays_down (few : result.ok = true → successes results + 1 < limits.upAfter) : Checked limits results result .down .down

theorem checked (placed : Placed limits results) :
    Checked limits results result (statusAfter limits results) (statusAfter limits (results ++ [result])) := by
  rw [statusAfter_append]
  cases status : statusAfter limits results with
  | unknown =>
    cases ok : result.ok with
    | true => simpa [computeStatus,ok] using Checked.first_ok ok
    | false => simpa [computeStatus,ok] using Checked.fails .unknown (.inl rfl) ok
  | up =>
    cases ok : result.ok with
    | false => simpa [computeStatus,ok] using Checked.fails .up (.inr rfl) ok
    | true =>
      cases slow : result.isSlow limits with
      | true => simpa [computeStatus,ok,slow] using Checked.slow ok slow
      | false => simpa [computeStatus,ok,slow] using Checked.stays_up ok slow
  | degraded =>
    have count := fail_count placed status
    simp only [computeStatus,count]
    split
    · next recovers => exact .recovers recovers.1
    · split
      · next down => exact .goes_down down.1 down.2
      · next stays => exact .stays_degraded fun fail => by simpa [fail] using stays
  | down =>
    have count := ok_count placed status
    simp only [computeStatus,count]
    split
    · next comes => exact .comes_up comes.1 comes.2
    · next stays => exact .stays_down fun ok => by simpa [ok] using stays

theorem placed_up (here : statusAfter limits results = .up) (none_ : failures results = 0) : Placed limits results := by
  refine ⟨?_,fun _ => none_,?_,?_⟩ <;> rw [here] <;> simp

theorem placed_degraded (here : statusAfter limits results = .degraded) (few : failures results < max limits.downAfter 2) :
    Placed limits results := by
  refine ⟨?_,?_,fun _ => few,?_⟩ <;> rw [here] <;> simp

theorem placed_down (here : statusAfter limits results = .down) (few : successes results < limits.upAfter) : Placed limits results := by
  refine ⟨?_,?_,?_,fun _ => few⟩ <;> rw [here] <;> simp

theorem placed (up : 1 ≤ limits.upAfter) (results : List CheckResult) : Placed limits results := by
  induction results using List.reverseRecOn with
  | nil => exact ⟨fun _ => rfl,fun _ => rfl,nofun,nofun⟩
  | append_singleton results result ih =>
    have moved := @checked limits results result ih
    have fails := @failures_append results result
    have succeeds := @successes_append results result
    generalize before : statusAfter limits results = prev at moved
    generalize after : statusAfter limits (results ++ [result]) = next at moved
    cases moved with
    | first_ok ok => exact placed_up after (by rw [fails,if_pos ok])
    | fails _ fresh fail =>
      have none_ : failures results = 0 := by
        rcases fresh with rfl | rfl
        · rw [ih.unknown before]
          rfl
        · exact ih.up before
      exact placed_degraded after (by rw [fails,if_neg (by simp [fail]),none_]; omega)
    | slow ok => exact placed_degraded after (by rw [fails,if_pos ok]; omega)
    | stays_up ok => exact placed_up after (by rw [fails,if_pos ok])
    | recovers ok => exact placed_up after (by rw [fails,if_pos ok])
    | goes_down fail => exact placed_down after (by rw [succeeds,if_neg (by simp [fail])]; omega)
    | stays_degraded few =>
      refine placed_degraded after ?_
      rw [fails]
      split
      · omega
      · next fail =>
        have here := few (by simpa using fail)
        omega
    | comes_up ok => exact placed_up after (by rw [fails,if_pos ok])
    | stays_down few =>
      refine placed_down after ?_
      rw [succeeds]
      split
      · next ok => exact few ok
      · omega

/-! ### Going down and coming up -/

theorem failsFresh_more {after : List CheckResult} (fails : FailsFresh limits before) : FailsFresh limits (before ++ after) := by
  obtain ⟨first,result,rest,rfl,fail,fresh⟩ := fails
  exact ⟨first,result,rest ++ after,by simp,fail,fresh⟩

/-- Unless it came from a target that was unknown or up, a run of failures in a degraded target is below the limit. -/
theorem below_limit (down : 1 ≤ limits.downAfter) (up : 1 ≤ limits.upAfter)
    (calm : 2 ≤ limits.downAfter ∨ ¬ FailsFresh limits results) (degraded : statusAfter limits results = .degraded) :
    failures results < limits.downAfter := by
  rcases calm with two | calm
  · have few := (placed up results).degraded degraded
    omega
  · induction results using List.reverseRecOn with
    | nil => cases degraded
    | append_singleton results result ih =>
      have moved := @checked limits results result (placed up results)
      rw [degraded] at moved
      rw [failures_append]
      generalize here : statusAfter limits results = prev at moved
      cases moved with
      | fails _ fresh fail => exact absurd ⟨results,result,[],rfl,fail,here ▸ fresh⟩ calm
      | slow ok =>
        rw [if_pos ok]
        exact down
      | stays_degraded few =>
        split
        · exact down
        · next fail => exact few (by simpa using fail)

theorem enters_down (down : 1 ≤ limits.downAfter) (up : 1 ≤ limits.upAfter)
    (calm : 2 ≤ limits.downAfter ∨ ¬ FailsFresh limits (before ++ [result])) (notDown : statusAfter limits before ≠ .down) :
    statusAfter limits (before ++ [result]) = .down ↔ failures (before ++ [result]) = limits.downAfter := by
  have moved := @checked limits before result (placed up before)
  have fails := @failures_append before result
  have calm' : 2 ≤ limits.downAfter ∨ ¬ FailsFresh limits before := calm.imp_right fun calm fresh => calm (failsFresh_more fresh)
  have below := below_limit down up calm'
  have none_ := (placed up before).up
  generalize here : statusAfter limits before = prev at moved
  generalize next_ : statusAfter limits (before ++ [result]) = next at moved
  cases moved with
  | first_ok ok => exact iff_of_false (by simp) (by rw [fails,if_pos ok]; omega)
  | fails _ fresh fail =>
    refine iff_of_false (by simp) ?_
    rcases calm with two | calm
    · have nothing : failures before = 0 := by
        rcases fresh with rfl | rfl
        · rw [(placed up before).unknown here]
          rfl
        · exact none_ here
      rw [fails,if_neg (by simp [fail]),nothing]
      omega
    · exact absurd ⟨before,result,[],rfl,fail,here ▸ fresh⟩ calm
  | slow ok => exact iff_of_false (by simp) (by rw [fails,if_pos ok]; omega)
  | stays_up ok => exact iff_of_false (by simp) (by rw [fails,if_pos ok]; omega)
  | recovers ok => exact iff_of_false (by simp) (by rw [fails,if_pos ok]; omega)
  | goes_down fail many =>
    refine iff_of_true rfl ?_
    have few := below here
    rw [fails,if_neg (by simp [fail])]
    omega
  | stays_degraded few =>
    refine iff_of_false (by simp) ?_
    rw [fails]
    split
    · omega
    · next fail =>
      have less := few (by simpa using fail)
      omega
  | comes_up => exact absurd here notDown
  | stays_down => exact absurd here notDown

theorem leaves_down (up : 1 ≤ limits.upAfter) (down : statusAfter limits before = .down)
    (left : statusAfter limits (before ++ [result]) ≠ .down) : successes (before ++ [result]) = limits.upAfter := by
  have moved := @checked limits before result (placed up before)
  have few := (placed up before).down down
  rw [down] at moved
  generalize next_ : statusAfter limits (before ++ [result]) = next at moved left
  cases moved with
  | fails _ fresh => simp at fresh
  | comes_up ok many =>
    rw [successes_append,if_pos ok]
    omega
  | stays_down => exact absurd rfl left

/-- A failing check in a target that was unknown or up starts a run, and does not take the target down. -/
theorem failsFresh_misses (up : 1 ≤ limits.upAfter) (fail : result.ok = false)
    (fresh : statusAfter limits before = .unknown ∨ statusAfter limits before = .up) :
    statusAfter limits (before ++ [result]) = .degraded ∧ failures (before ++ [result]) = 1 := by
  have nothing : failures before = 0 := by
    rcases fresh with unknown | up_
    · rw [(placed up before).unknown unknown]
      rfl
    · exact (placed up before).up up_
  rw [statusAfter_append,failures_append,nothing,fail]
  rcases fresh with same | same <;> rw [same] <;> simp [computeStatus,fail]

/-! ### Slow targets -/

theorem allSlow_take {n : Nat} (slow : allSlow limits results) : allSlow limits (results.take n) :=
  fun result member => slow result (List.mem_of_mem_take member)

theorem slow_successes (slow : allSlow limits results) : successes results = results.length := by
  induction results using List.reverseRecOn with
  | nil => rfl
  | append_singleton results result ih =>
    have last := slow result (by simp)
    rw [successes_append,if_pos last.1,ih fun other member => slow other (List.mem_append_left _ member),List.length_append]
    rfl

/-- A target that is always slow is up after its first check, and then degraded until
    its run of successes reaches the limit. -/
theorem slow_status (slow : allSlow limits results) :
    (results.length = 1 → statusAfter limits results = .up) ∧
    (2 ≤ results.length → results.length < max 3 limits.upAfter → statusAfter limits results = .degraded) ∧
    (results.length = max 3 limits.upAfter → statusAfter limits results = .up) := by
  induction results using List.reverseRecOn with
  | nil => exact ⟨nofun,fun two => absurd two (by simp),fun same => absurd same (by simp; omega)⟩
  | append_singleton results result ih =>
    have last := slow result (by simp)
    have before : allSlow limits results := fun other member => slow other (List.mem_append_left _ member)
    obtain ⟨first,middle,-⟩ := ih before
    have length : (results ++ [result]).length = results.length + 1 := List.length_append
    have bound := limits.upAfter_lt
    rw [length,statusAfter_append]
    refine ⟨fun one => ?_,fun two few => ?_,fun many => ?_⟩
    · have empty : results = [] := List.length_eq_zero_iff.mp (by omega)
      subst empty
      simp [computeStatus,statusAfter,stateAfter,statusOf,last.1]
    · by_cases one : results.length = 1
      · rw [first one]
        simp [computeStatus,last]
      · rw [middle (by omega) (by omega)]
        have count : ¬ limits.upAfter ≤ wrappingSucc ((stateAfter limits results).elim 0 TargetState.consecutiveOk) := by
          rw [(counted limits results).ok,slow_successes before,wrappingSucc_min (by omega)]
          omega
        simp [computeStatus,count,last.1]
    · rw [middle (by omega) (by omega)]
      have count : limits.upAfter ≤ wrappingSucc ((stateAfter limits results).elim 0 TargetState.consecutiveOk) := by
        rw [(counted limits results).ok,slow_successes before,wrappingSucc_min (by omega)]
        omega
      simp [computeStatus,count,last.1]

theorem slow_alternates_iff (slow : allSlow limits results) : Alternates limits results ↔ max 3 limits.upAfter ≤ results.length := by
  constructor
  · rintro ⟨first,second,third,before,between,within,-,-,up⟩
    by_contra few
    have length : (results.take third).length = third := List.length_take_of_le within
    have status := (slow_status (allSlow_take (n := third) slow)).2.1 (by omega) (by omega)
    rw [up] at status
    cases status
  · intro many
    have length : ∀ n, n ≤ results.length → (results.take n).length = n := fun n within => List.length_take_of_le within
    have status := fun n => slow_status (@allSlow_take limits results n slow)
    refine ⟨1,max 3 limits.upAfter - 1,max 3 limits.upAfter,by omega,by omega,many,?_,?_,?_⟩
    · exact (status 1).1 (length 1 (by omega))
    · have here := length (max 3 limits.upAfter - 1) (by omega)
      exact (status _).2.1 (by omega) (by omega)
    · exact (status _).2.2 (length _ many)

/-- The rule holds of a history unless a limit of one failure meets a failing check in a
    target that was unknown or up, or the target is slow for long enough to come up again. -/
theorem hysteresis_iff (down : 1 ≤ limits.downAfter) (up : 1 ≤ limits.upAfter) :
    FollowsRule limits results ↔ (2 ≤ limits.downAfter ∨ ¬ FailsFresh limits results) ∧
      ¬ (allSlow limits results ∧ max 3 limits.upAfter ≤ results.length) := by
  constructor
  · intro follows
    constructor
    · by_contra neither
      obtain ⟨one,fails⟩ := not_or.mp neither
      obtain ⟨before,result,after,whole,fail,fresh⟩ := not_not.mp fails
      obtain ⟨degraded,single⟩ := failsFresh_misses up fail fresh
      have notDown : statusAfter limits before ≠ .down := by
        rcases fresh with same | same <;> rw [same] <;> decide
      have rule := (follows.enters_down before result after whole notDown).mpr (by omega)
      rw [degraded] at rule
      cases rule
    · rintro ⟨slow,many⟩
      exact follows.steady slow ((slow_alternates_iff slow).mpr many)
  · rintro ⟨calm,notSlow⟩
    refine ⟨?_,?_,?_⟩
    · rintro before result after rfl notDown
      refine enters_down down up (calm.imp_right fun calm fresh => calm ?_) notDown
      rw [← List.singleton_append,← List.append_assoc]
      exact failsFresh_more fresh
    · rintro before result after rfl down left
      exact leaves_down up down left
    · exact fun slow alternates => notSlow ⟨slow,(slow_alternates_iff slow).mp alternates⟩

end

/-- The limits that a config has when it gives none. -/
def defaultLimits : Thresholds := ⟨200,3,2,by decide,by decide⟩

theorem rule_followed_outage : FollowsRule defaultLimits
    [⟨true,some 40⟩,⟨false,none⟩,⟨false,none⟩,⟨false,none⟩,⟨true,some 50⟩,⟨true,some 300⟩] := by
  refine (hysteresis_iff (by decide) (by decide)).mpr ⟨.inl (by decide),?_⟩
  rintro ⟨slow,-⟩
  exact absurd (slow ⟨true,some 40⟩ (by simp)) (by decide)

/-- Three slow checks take a target up, degraded and up again. -/
theorem slow_target_alternates :
    ¬ ∀ (limits : Thresholds) (results : List CheckResult), 1 ≤ limits.downAfter → 1 ≤ limits.upAfter → FollowsRule limits results := by
  intro all
  have follows := all defaultLimits [⟨true,some 300⟩,⟨true,some 300⟩,⟨true,some 300⟩] (by decide) (by decide)
  exact follows.steady (by unfold allSlow; decide) ⟨1,2,3,by decide,by decide,by decide,by decide,by decide,by decide⟩

end Sctl.InfraTargets
