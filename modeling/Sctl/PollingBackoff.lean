import Mathlib.Data.List.Basic

/-!
The backoff of the LTE poller (`AtPollingHealth` and the loop of
`spawn_lte_poller`). A cycle takes its mode from the health and from whether the
data path is up; the health has a mode of its own, which starts as `full` and
which the recorded polls change only from `gentle` and `cautious`.
-/
namespace Sctl.PollingBackoff

inductive AtPollMode
  | full
  | gentle
  | cautious
  | suppressed
deriving DecidableEq

structure AtTestState where
  level : Nat
  consecutiveOk : Nat
  disruptions : Nat

structure AtPollingHealth where
  mode : AtPollMode
  consecutiveOk : Nat
  cautiousDisruptions : Nat

namespace AtPollingHealth

def new : AtPollingHealth := ⟨.full,0,0⟩

def recordOk (h : AtPollingHealth) : AtPollingHealth :=
  let h := { h with consecutiveOk := h.consecutiveOk + 1 }
  match h.mode with
  | .cautious => if 5 ≤ h.consecutiveOk then { h with mode := .gentle, consecutiveOk := 0, cautiousDisruptions := 0 } else h
  | _ => h

def recordDisruption (h : AtPollingHealth) : AtPollingHealth :=
  let h := { h with consecutiveOk := 0 }
  match h.mode with
  | .gentle => { h with mode := .cautious }
  | .cautious =>
    let h := { h with cautiousDisruptions := h.cautiousDisruptions + 1 }
    if 2 ≤ h.cautiousDisruptions then { h with mode := .suppressed } else h
  | _ => h

end AtPollingHealth

/-- What a cycle finds: the data path at its start, whether `AT+CSQ` gave a value, the tunnel
    before and after its commands, and the data path after the wait of a suppressed cycle. -/
structure Cycle where
  dataActive : Bool
  rssi : Bool
  prePong : Nat
  preConnected : Bool
  postPong : Nat
  postConnected : Bool
  stillActive : Bool

/-- The tunnel went down or silent while the commands ran. -/
def Cycle.disrupted (c : Cycle) : Bool :=
  (c.preConnected && !c.postConnected) || (c.prePong < 5000 && 10000 < c.postPong)

/-- The variables of the loop. -/
structure Poller where
  health : AtPollingHealth
  test : AtTestState

def Poller.new : Poller := ⟨.new,⟨0,0,0⟩⟩

/-- The mode that a cycle ran in, and whether it recorded a disruption. -/
structure Report where
  mode : AtPollMode
  detected : Bool
deriving DecidableEq

def pollMode (health : AtPollingHealth) (dataActive : Bool) : AtPollMode :=
  if !dataActive then .full
  else if health.mode = .suppressed then .suppressed
  else if health.mode = .full then .gentle
  else health.mode

/-- A cycle of the test mode. -/
def AtTestState.next (t : AtTestState) (disrupted : Bool) : AtTestState :=
  if disrupted then ⟨0,0,t.disruptions + 1⟩
  else if 3 ≤ t.consecutiveOk + 1 ∧ t.level < 4 then { t with level := t.level + 1, consecutiveOk := 0 }
  else { t with consecutiveOk := t.consecutiveOk + 1 }

section
variable (atTestMode : Bool)

/-- One cycle of the loop. -/
def poll (p : Poller) (c : Cycle) : Poller × Report :=
  let mode := pollMode p.health c.dataActive
  if atTestMode ∧ c.dataActive ∧ mode ≠ .suppressed then ({ p with test := p.test.next c.disrupted },⟨mode,false⟩)
  else if mode = .suppressed then
    (if c.stillActive then p else { p with health := ⟨.full,0,0⟩ },⟨mode,false⟩)
  else if !c.rssi then (p,⟨mode,false⟩)
  else
    let detected := c.dataActive && c.disrupted
    let health := if detected then p.health.recordDisruption else p.health
    ({ p with health := if c.dataActive then health.recordOk else health },⟨mode,detected⟩)

/-- The cycles of a poller, each with its report. -/
def history : Poller → List Cycle → List (Cycle × Report)
  | _, [] => []
  | p, c :: rest => (c,(poll atTestMode p c).2) :: history (poll atTestMode p c).1 rest

/-- The mode after a disruption in a mode. -/
def Backed : AtPollMode → AtPollMode → Prop
  | .gentle, next => next = .cautious
  | .cautious, next => next = .cautious ∨ next = .suppressed
  | _, _ => True

/-- Five polls in a row without a disruption. -/
def FiveCalm (cycles : List (Cycle × Report)) : Prop :=
  ∃ front five back, cycles = front ++ five ++ back ∧ five.length = 5 ∧ ∀ e ∈ five, e.2.detected = false

/-- After a disruption the next cycle with the data path up is more conservative, and a later
    one is gentle again only after five calm polls or after the data path went down. -/
def BacksOff (cycles : List (Cycle × Report)) : Prop :=
  ∀ before c middle d after, cycles = before ++ c :: (middle ++ d :: after) → c.2.detected = true → d.1.dataActive = true →
    ((∀ e ∈ middle, e.1.dataActive = false) → Backed c.2.mode d.2.mode) ∧
    (d.2.mode = .gentle → FiveCalm middle ∨ ∃ e ∈ middle, e.1.dataActive = false)

/-- The cycle's commands run with the data path up and disrupt it. -/
def Cycle.disrupts (c : Cycle) : Bool := !atTestMode && c.dataActive && c.rssi && c.disrupted

/-- What a cycle reports while the health is in mode `full`. -/
def reportFull (c : Cycle) : Report := ⟨if c.dataActive then .gentle else .full,c.disrupts atTestMode⟩

end

variable {atTestMode : Bool} {p : Poller}

/-- Neither kind of record changes mode `full`. -/
theorem record_full {h : AtPollingHealth} (full : h.mode = .full) : h.recordOk.mode = .full ∧ h.recordDisruption.mode = .full := by
  obtain ⟨mode,_,_⟩ := h
  cases full
  exact ⟨rfl,rfl⟩

theorem poll_full (atTestMode : Bool) (full : p.health.mode = .full) (c : Cycle) :
    (poll atTestMode p c).1.health.mode = .full ∧ (poll atTestMode p c).2 = reportFull atTestMode c := by
  have mode : pollMode p.health c.dataActive = if c.dataActive then .gentle else .full := by
    unfold pollMode
    cases c.dataActive <;> simp [full]
  have shown : pollMode p.health c.dataActive ≠ .suppressed := by
    rw [mode]
    cases c.dataActive <;> simp
  have recorded : (if c.dataActive && c.disrupted then p.health.recordDisruption else p.health).mode = .full := by
    split
    · exact (record_full full).2
    · exact full
  simp only [poll]
  by_cases tests : atTestMode = true ∧ c.dataActive = true
  · rw [if_pos ⟨tests.1,tests.2,shown⟩]
    exact ⟨full,by simp [reportFull,Cycle.disrupts,mode,tests.1]⟩
  · rw [if_neg (fun all => tests ⟨all.1,all.2.1⟩),if_neg shown]
    by_cases read : c.rssi = true
    · rw [if_neg (by simp [read]),mode]
      constructor
      · show (if c.dataActive = true then AtPollingHealth.recordOk _ else _ : AtPollingHealth).mode = _
        split
        · exact (record_full recorded).1
        · exact recorded
      · cases active : c.dataActive with
        | false => simp [reportFull,Cycle.disrupts,active]
        | true =>
          have off : atTestMode = false := by simpa [active] using tests
          simp [reportFull,Cycle.disrupts,active,read,off]
    · rw [if_pos (by simpa using read)]
      exact ⟨full,by simp [reportFull,Cycle.disrupts,mode,read]⟩

theorem history_full (full : p.health.mode = .full) (cycles : List Cycle) :
    history atTestMode p cycles = cycles.map fun c => (c,reportFull atTestMode c) := by
  induction cycles generalizing p with
  | nil => rfl
  | cons c rest ih =>
    obtain ⟨stays,report⟩ := poll_full atTestMode full c
    rw [history,report,ih stays,List.map_cons]

/-- The poller backs off exactly where no cycle with the data path up follows a disruption. -/
theorem backs_off_iff (atTestMode : Bool) (cycles : List Cycle) : BacksOff (history atTestMode .new cycles) ↔
    ∀ before c after, cycles = before ++ c :: after → c.disrupts atTestMode = true → ∀ d ∈ after, d.dataActive = false := by
  rw [history_full rfl]
  constructor
  · rintro backs before c after rfl disrupts d member
    by_contra active
    obtain ⟨first,found⟩ : ∃ first, after.find? Cycle.dataActive = some first := by
      rw [← Option.isSome_iff_exists,List.find?_isSome]
      exact ⟨d,member,by simpa using active⟩
    obtain ⟨up,middle,rest,rfl,down⟩ := List.find?_eq_some_iff_append.mp found
    have now := (backs (before.map fun c => (c,reportFull atTestMode c)) (c,reportFull atTestMode c)
      (middle.map fun c => (c,reportFull atTestMode c)) (first,reportFull atTestMode first)
      (rest.map fun c => (c,reportFull atTestMode c)) (by simp) disrupts up).1
    have running : c.dataActive = true := by
      simp only [Cycle.disrupts,Bool.and_eq_true] at disrupts
      exact disrupts.1.1.2
    simp only [reportFull,running,up,if_true,Backed] at now
    refine absurd (now ?_) (by decide)
    intro e inside
    obtain ⟨e',there,rfl⟩ := List.mem_map.mp inside
    simpa using down e' there
  · intro quiet before c middle d after split detected up
    have cycles_ := congrArg (List.map Prod.fst) split
    have member : c ∈ cycles.map fun c => (c,reportFull atTestMode c) := by simp [split]
    obtain ⟨c',_,rfl⟩ := List.mem_map.mp member
    have down := quiet (before.map Prod.fst) c' ((middle ++ d :: after).map Prod.fst) (by simpa [Function.comp_def] using cycles_) detected d.1 (by simp)
    rw [up] at down
    cases down

/-- A cycle that disrupts the data path, and a calm one. -/
def bad : Cycle := ⟨true,true,100,true,100,false,true⟩

def calmCycle : Cycle := ⟨true,true,100,true,100,true,true⟩

theorem gentle_after_disruption : ¬ BacksOff (history false .new [bad,calmCycle]) := by
  intro backs
  have next := (backs [] (bad,⟨.gentle,true⟩) [] (calmCycle,⟨.gentle,false⟩) [] rfl rfl rfl).1 (by simp)
  cases next

end Sctl.PollingBackoff
