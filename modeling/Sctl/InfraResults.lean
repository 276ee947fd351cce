import Sctl.InfraMonitor

/-!
The results of the monitor against the config that is active. A check of the running
loop adds its target to the results and gives them the version of the loop's config;
a pushed config takes nothing away, and a loop that was stopped while it waited for a
check may still record that one.
-/
namespace Sctl.InfraResults
open Runs InfraTargets InfraMonitor

/-- A pushed config with its version. -/
structure InfraConfig where
  version : Nat
  monitor : Config

/-- A loop that was stopped in a check, in the tick that began at `now`. -/
structure Stopped where
  version : Nat
  now : Nat
  target : Target

/-- What the routes and the loops share, the loops that were stopped, and the targets
    that the running loop has checked. -/
structure State where
  base : InfraMonitor.State
  config : Option InfraConfig
  /-- The version of the running loop's config. -/
  running : Nat
  configVersion : Nat
  stopped : List Stopped
  checked : List String

/-- The server has started, with the config that it found on the disk. -/
def start (clock : Nat) (loaded : Option InfraConfig) : State where
  base := { InfraMonitor.start clock with monitor := loaded.map fun config => ⟨config.monitor,∅,.waiting⟩ }
  config := loaded
  running := (loaded.map InfraConfig.version).getD 0
  configVersion := 0
  stopped := []
  checked := []

inductive Action
  /-- A step of the running loop. -/
  | loop (a : InfraMonitor.Action)
  | push (config : InfraConfig)
  | delete
  /-- A loop that was stopped records the check that it waited for. -/
  | late (n : Nat) (result : CheckResult)

/-- The lock is held while a recovery command runs. -/
def locked (s : State) : Bool :=
  match s.base.monitor with
  | some ⟨_,_,.recovering _ _ _ _⟩ => true
  | _ => false

/-- The running loop is stopped at its next wait. -/
def abort (s : State) : List Stopped :=
  match s.base.monitor with
  | some ⟨_,_,.checking now target _⟩ => s.stopped ++ [⟨s.running,now,target⟩]
  | _ => s.stopped

/-- The running loop moves on; a check gives the results its version. -/
def loop (s : State) (a : InfraMonitor.Action) : Option State :=
  (InfraMonitor.step s.base a).map fun base =>
    match a,s.base.monitor with
    | .checked _,some ⟨_,_,.checking _ target _⟩ =>
      { s with base := base, configVersion := s.running, checked := target.id :: s.checked }
    | _,_ => { s with base := base }

def pushConfig (s : State) (config : InfraConfig) : State :=
  { s with
    base := { s.base with monitor := some ⟨config.monitor,∅,.waiting⟩ }
    config := some config
    running := config.version
    stopped := abort s
    checked := [] }

def deleteConfig (s : State) : State :=
  { s with
    base := { s.base with monitor := none, targets := ∅, tracker := ∅ }
    config := none
    configVersion := 0
    stopped := abort s
    checked := [] }

def lateCheck (s : State) (n : Nat) (old : Stopped) (result : CheckResult) : State :=
  { s with
    base := s.base.lastStretch old.target old.now result
    configVersion := old.version
    stopped := s.stopped.eraseIdx n }

def step (s : State) (a : Action) : Option State :=
  if s.base.crashed then none
  else match a with
    | .loop (.push _ _) => none
    | .loop a => loop s a
    | .push config => if locked s then none else some (pushConfig s config)
    | .delete => if locked s then none else some (deleteConfig s)
    | .late n result =>
      if locked s then none
      else match s.stopped[n]? with
        | some old => some (lateCheck s n old result)
        | none => none

/-! ### What the results are to tell -/

def ids (config : InfraConfig) : List String := config.monitor.targets.map Target.id

/-- The running loop has checked every target of the config. -/
def Round (config : InfraConfig) (checked : List String) : Prop := ∀ id ∈ ids config, id ∈ checked

instance (config : InfraConfig) (checked : List String) : Decidable (Round config checked) :=
  inferInstanceAs (Decidable (∀ id ∈ ids config, id ∈ checked))

/-- The results describe the active config once each of its targets was checked; without
    a config they are empty. -/
def Describes (s : State) : Prop :=
  match s.config with
  | some config => Round config s.checked →
    s.configVersion = config.version ∧ ∀ id, s.base.targets.lookup id ≠ none ↔ id ∈ ids config
  | none => s.configVersion = 0 ∧ ∀ id, s.base.targets.lookup id = none

/-- The config on the disk has a target, or the version of no config. -/
def Told (loaded : Option InfraConfig) : Prop := ∀ config, loaded = some config → config.monitor.targets = [] → config.version = 0

/-- The condition of a step. The check that completes the first round finds no target of an
    earlier config; a config without targets is pushed on empty results of its version; and
    a stopped loop records nothing once the config is gone, and after the first round of
    another one only what could be its own. -/
def Keeps (s : State) : Action → Prop
  | .loop (.checked _) =>
    match s.config,s.base.monitor with
    | some config,some ⟨_,_,.checking _ target _⟩ => Round config (target.id :: s.checked) →
      ∀ id, s.base.targets.lookup id ≠ none → id ∈ ids config
    | _,_ => True
  | .push config => config.monitor.targets = [] → s.configVersion = config.version ∧ ∀ id, s.base.targets.lookup id = none
  | .late n _ =>
    match s.config,s.stopped[n]? with
    | some config,some old => Round config s.checked → old.version = config.version ∧ old.target.id ∈ ids config
    | none,some _ => False
    | _,none => True
  | _ => True

/-! ### The steps -/

/-- The targets that a phase still has to check. -/
def ahead : Phase → List Target
  | .waiting => []
  | .between _ rest => rest
  | .checking _ target rest | .recovering _ target _ rest => target :: rest

/-- The running loop is the one of the active config, and what it has checked is in the results. -/
structure Sound (s : State) : Prop where
  idle : s.config = none → s.base.monitor = none
  active : ∀ config, s.config = some config → s.running = config.version ∧ ∃ m, s.base.monitor = some m ∧
    m.config = config.monitor ∧ ∀ target ∈ ahead m.phase, target ∈ config.monitor.targets
  checked : ∀ id ∈ s.checked, s.base.targets.lookup id ≠ none

theorem lookup_record {s : InfraMonitor.State} {target : Target} {result : CheckResult} (id : String) :
    (s.record target result).targets.lookup id ≠ none ↔ id = target.id ∨ s.targets.lookup id ≠ none := by
  show (s.targets.insert target.id _).lookup id ≠ none ↔ _
  rw [Table.lookup_insert_eq]
  by_cases same : id = target.id
  · simp [same]
  · simp [same]

theorem lookup_lastStretch {s : InfraMonitor.State} {target : Target} {now : Nat} {result : CheckResult} {id : String} :
    (s.lastStretch target now result).targets.lookup id ≠ none ↔ id = target.id ∨ s.targets.lookup id ≠ none := by
  have recorded : (s.lastStretch target now result).targets = (s.record target result).targets := by
    unfold State.lastStretch
    split <;> rfl
  rw [recorded]
  exact lookup_record id

/-- A step of the loop keeps its config; only a check changes the results. -/
theorem base_step {s t : InfraMonitor.State} {a : InfraMonitor.Action} {m : Monitor} (stepped : InfraMonitor.step s a = some t)
    (own : ∀ config inHand, a ≠ .push config inHand) (there : s.monitor = some m) :
    (∃ n, t.monitor = some n ∧ n.config = m.config ∧
      ∀ target ∈ ahead n.phase, target ∈ ahead m.phase ∨ target ∈ m.config.targets) ∧
    ((∃ result now target rest, a = .checked result ∧ m.phase = .checking now target rest ∧
        ∀ id, t.targets.lookup id ≠ none ↔ id = target.id ∨ s.targets.lookup id ≠ none) ∨
      (∀ result, a ≠ .checked result) ∧ t.targets = s.targets) := by
  unfold InfraMonitor.step at stepped
  split at stepped
  · cases stepped
  unfold move at stepped
  cases a with
  | pass secs =>
    cases stepped
    exact ⟨⟨m,there,rfl,fun _ => .inl⟩,.inr ⟨nofun,rfl⟩⟩
  | tick =>
    dsimp only at stepped
    split at stepped
    · next config lastCheck waiting =>
      cases there.symm.trans waiting
      cases stepped
      exact ⟨⟨_,rfl,rfl,fun _ => .inr⟩,.inr ⟨nofun,rfl⟩⟩
    · cases stepped
  | next =>
    dsimp only at stepped
    split at stepped
    · next config lastCheck now between =>
      cases there.symm.trans between
      cases stepped
      exact ⟨⟨_,rfl,rfl,nofun⟩,.inr ⟨nofun,rfl⟩⟩
    · next config lastCheck now target rest between =>
      cases there.symm.trans between
      split at stepped
      · cases stepped
        exact ⟨⟨_,rfl,rfl,fun _ member => .inl (List.mem_cons_of_mem target member)⟩,.inr ⟨nofun,rfl⟩⟩
      · cases stepped
        exact ⟨⟨_,rfl,rfl,fun _ => .inl⟩,.inr ⟨nofun,rfl⟩⟩
    · cases stepped
  | checked result =>
    dsimp only at stepped
    split at stepped
    · next config lastCheck now target rest checking =>
      cases there.symm.trans checking
      split at stepped
      · cases stepped
        exact ⟨⟨_,rfl,rfl,fun _ => .inl⟩,.inl ⟨result,now,target,rest,rfl,rfl,lookup_record⟩⟩
      · cases stepped
        refine ⟨⟨_,rfl,rfl,fun _ member => .inl (List.mem_cons_of_mem target member)⟩,?_⟩
        exact .inl ⟨result,now,target,rest,rfl,rfl,lookup_record⟩
    · cases stepped
  | commandEnds result =>
    dsimp only at stepped
    split at stepped
    · next config lastCheck now target recovery rest recovering =>
      cases there.symm.trans recovering
      split at stepped
      · cases stepped
        exact ⟨⟨_,rfl,rfl,fun _ member => .inl (List.mem_cons_of_mem target member)⟩,.inr ⟨nofun,rfl⟩⟩
      · cases stepped
        exact ⟨⟨_,recovering,rfl,fun _ => .inl⟩,.inr ⟨nofun,rfl⟩⟩
    · cases stepped
  | push config inHand => exact absurd rfl (own config inHand)

/-- Without a loop only time passes. -/
theorem base_idle {s t : InfraMonitor.State} {a : InfraMonitor.Action} (stepped : InfraMonitor.step s a = some t)
    (own : ∀ config inHand, a ≠ .push config inHand) (none_ : s.monitor = none) :
    t.monitor = none ∧ t.targets = s.targets ∧ ∀ result, a ≠ .checked result := by
  unfold InfraMonitor.step at stepped
  split at stepped
  · cases stepped
  unfold move at stepped
  cases a with
  | pass secs =>
    cases stepped
    exact ⟨none_,rfl,nofun⟩
  | push config inHand => exact absurd rfl (own config inHand)
  | _ => simp [none_] at stepped

/-- What a step of the loop leaves alone, and what a check does to the results. -/
structure Loops (s t : State) (a : InfraMonitor.Action) : Prop where
  config : t.config = s.config
  running : t.running = s.running
  stopped : t.stopped = s.stopped
  idle : s.base.monitor = none → t.base.monitor = none
  going : ∀ m, s.base.monitor = some m → ∃ n, t.base.monitor = some n ∧ n.config = m.config ∧
    ∀ target ∈ ahead n.phase, target ∈ ahead m.phase ∨ target ∈ m.config.targets
  results : (∃ result m now target rest, a = .checked result ∧ s.base.monitor = some m ∧ m.phase = .checking now target rest ∧
      t.configVersion = s.running ∧ t.checked = target.id :: s.checked ∧
      ∀ id, t.base.targets.lookup id ≠ none ↔ id = target.id ∨ s.base.targets.lookup id ≠ none) ∨
    (∀ result, a ≠ .checked result) ∧ t.configVersion = s.configVersion ∧ t.checked = s.checked ∧ t.base.targets = s.base.targets

theorem loop_loops {s t : State} {a : InfraMonitor.Action} (stepped : loop s a = some t)
    (own : ∀ config inHand, a ≠ .push config inHand) : Loops s t a := by
  obtain ⟨base,moved,made⟩ := Option.map_eq_some_iff.mp stepped
  cases there : s.base.monitor with
  | none =>
    obtain ⟨idle,same,unchecked⟩ := base_idle moved own there
    have made : t = { s with base := base } := by
      rw [← made,there]
      split
      · simp_all
      · rfl
    subst made
    exact ⟨rfl,rfl,rfl,fun _ => idle,fun m is => by simp [there] at is,.inr ⟨unchecked,rfl,rfl,same⟩⟩
  | some m =>
    obtain ⟨⟨n,after,config,onward⟩,checks | ⟨unchecked,same⟩⟩ := base_step moved own there
    · obtain ⟨result,now,target,rest,rfl,phase,recorded⟩ := checks
      obtain ⟨conf,lastCheck,_⟩ := m
      cases phase
      rw [there] at made
      subst made
      refine ⟨rfl,rfl,rfl,fun is => by simp [there] at is,fun m' is => ?_,?_⟩
      · cases there.symm.trans is
        exact ⟨n,after,config,onward⟩
      · exact .inl ⟨result,_,now,target,rest,rfl,there,rfl,rfl,rfl,recorded⟩
    · have made : t = { s with base := base } := by
        rw [← made]
        split
        · exact absurd rfl (unchecked _)
        · rfl
      subst made
      refine ⟨rfl,rfl,rfl,fun is => by simp [there] at is,fun m' is => ?_,.inr ⟨unchecked,rfl,rfl,same⟩⟩
      cases there.symm.trans is
      exact ⟨n,after,config,onward⟩

theorem step_cases {s t : State} {a : Action} (stepped : step s a = some t) :
    match a with
    | .loop a => (∀ config inHand, a ≠ .push config inHand) ∧ loop s a = some t
    | .push config => t = pushConfig s config
    | .delete => t = deleteConfig s
    | .late n result => ∃ old, s.stopped[n]? = some old ∧ t = lateCheck s n old result := by
  unfold step at stepped
  split at stepped
  · cases stepped
  cases a with
  | loop a =>
    cases a with
    | push config inHand => cases stepped
    | _ => exact ⟨nofun,stepped⟩
  | push config =>
    dsimp only at stepped
    split at stepped
    · cases stepped
    · exact (Option.some.inj stepped).symm
  | delete =>
    dsimp only at stepped
    split at stepped
    · cases stepped
    · exact (Option.some.inj stepped).symm
  | late n result =>
    dsimp only at stepped
    split at stepped
    · cases stepped
    · split at stepped
      · next old found => exact ⟨old,found,(Option.some.inj stepped).symm⟩
      · cases stepped

theorem Sound.start (clock : Nat) (loaded : Option InfraConfig) : Sound (start clock loaded) := by
  cases loaded with
  | none => exact ⟨fun _ => rfl,nofun,nofun⟩
  | some config =>
    refine ⟨nofun,fun config' is => ?_,nofun⟩
    cases is
    exact ⟨rfl,_,rfl,rfl,nofun⟩

theorem lastStretch_monitor {s : InfraMonitor.State} {target : Target} {now : Nat} {result : CheckResult} :
    (s.lastStretch target now result).monitor = s.monitor := by
  unfold State.lastStretch
  split <;> rfl

theorem Sound.step {s t : State} {a : Action} (sound : Sound s) (stepped : step s a = some t) : Sound t := by
  have effect := step_cases stepped
  cases a with
  | loop a =>
    have loops := loop_loops effect.2 effect.1
    refine ⟨fun none_ => ?_,fun config is => ?_,fun id member => ?_⟩
    · rw [loops.config] at none_
      exact loops.idle (sound.idle none_)
    · rw [loops.config] at is
      obtain ⟨version,m,there,own,onward⟩ := sound.active config is
      obtain ⟨n,after,same,later⟩ := loops.going m there
      refine ⟨loops.running.trans version,n,after,same.trans own,fun target member => ?_⟩
      rcases later target member with member | member
      · exact onward target member
      · rw [← own]
        exact member
    · rcases loops.results with ⟨result,m,now,target,rest,_,_,_,_,checked,recorded⟩ | ⟨_,_,checked,same⟩
      · rw [recorded]
        rw [checked] at member
        rcases List.mem_cons.mp member with here | member
        · exact .inl here
        · exact .inr (sound.checked id member)
      · rw [same]
        rw [checked] at member
        exact sound.checked id member
  | push config =>
    obtain rfl : t = pushConfig s config := effect
    refine ⟨nofun,fun config' is => ?_,nofun⟩
    cases is
    exact ⟨rfl,_,rfl,rfl,nofun⟩
  | delete =>
    obtain rfl : t = deleteConfig s := effect
    exact ⟨fun _ => rfl,nofun,nofun⟩
  | late n result =>
    obtain ⟨old,found,rfl⟩ := effect
    refine ⟨fun none_ => ?_,fun config is => ?_,fun id member => ?_⟩
    · exact lastStretch_monitor.trans (sound.idle none_)
    · obtain ⟨version,m,there,own,onward⟩ := sound.active config is
      exact ⟨version,m,lastStretch_monitor.trans there,own,onward⟩
    · exact lookup_lastStretch.mpr (.inr (sound.checked id member))

theorem round_nil {config : InfraConfig} : Round config [] ↔ config.monitor.targets = [] := by
  simp [Round,ids,List.eq_nil_iff_forall_not_mem]

/-- After a step the results describe the config if and only if the step met its condition. -/
theorem describes_step_iff {s t : State} {a : Action} (sound : Sound s) (describes : Describes s) (stepped : step s a = some t) :
    Describes t ↔ Keeps s a := by
  have effect := step_cases stepped
  cases a with
  | loop a =>
    have loops := loop_loops effect.2 effect.1
    rcases loops.results with ⟨result,m,now,target,rest,rfl,there,phase,version,checked,recorded⟩ |
      ⟨unchecked,version,checked,same⟩
    · obtain ⟨conf,lastCheck,_⟩ := m
      cases phase
      cases is : s.config with
      | none => exact absurd (there.symm.trans (sound.idle is)) nofun
      | some config =>
        obtain ⟨own,m,there',same,onward⟩ := sound.active config is
        cases there.symm.trans there'
        have mine : target.id ∈ ids config := List.mem_map_of_mem (onward target List.mem_cons_self)
        unfold Describes
        simp only [loops.config,is,Keeps,there,version,checked,recorded]
        refine imp_congr_right fun round => ?_
        constructor
        · rintro ⟨_,keys⟩ id found
          exact (keys id).mp (.inr found)
        · intro keys
          refine ⟨own,fun id => ⟨?_,fun member => ?_⟩⟩
          · rintro (rfl | found)
            · exact mine
            · exact keys id found
          · rcases List.mem_cons.mp (round id member) with here | member
            · exact .inl here
            · exact .inr (sound.checked id member)
    · refine iff_of_true ?_ ?_
      · unfold Describes
        rw [loops.config,version,checked,same]
        exact describes
      · cases a with
        | checked result => exact absurd rfl (unchecked result)
        | _ => trivial
  | push config =>
    obtain rfl : t = pushConfig s config := effect
    show (Round config [] → s.configVersion = config.version ∧ ∀ id, s.base.targets.lookup id ≠ none ↔ id ∈ ids config) ↔
      (config.monitor.targets = [] → s.configVersion = config.version ∧ ∀ id, s.base.targets.lookup id = none)
    rw [round_nil]
    refine imp_congr_right fun none_ => and_congr_right fun _ => forall_congr' fun id => ?_
    simp [ids,none_]
  | delete =>
    obtain rfl : t = deleteConfig s := effect
    exact iff_of_true ⟨rfl,fun id => rfl⟩ trivial
  | late n result =>
    obtain ⟨old,found,rfl⟩ := effect
    have version : (lateCheck s n old result).configVersion = old.version := rfl
    have recorded : ∀ id, (lateCheck s n old result).base.targets.lookup id ≠ none ↔
      id = old.target.id ∨ s.base.targets.lookup id ≠ none := fun id => lookup_lastStretch
    cases is : s.config with
    | none =>
      refine iff_of_false (fun after => ?_) ?_
      · have still : (lateCheck s n old result).config = none := is
        simp only [Describes,still] at after
        exact (recorded old.target.id).mpr (.inl rfl) (after.2 old.target.id)
      · simp [Keeps,is,found]
    | some config =>
      have still : (lateCheck s n old result).config = some config := is
      have same : (lateCheck s n old result).checked = s.checked := rfl
      simp only [Describes,is] at describes
      simp only [Describes,still,same,version,Keeps,is,found,recorded]
      refine imp_congr_right fun round => and_congr_right fun _ => ?_
      have keys := (describes round).2
      constructor
      · intro all
        exact (all old.target.id).mp (.inl rfl)
      · intro own id
        rw [keys id]
        constructor
        · rintro (rfl | member)
          · exact own
          · exact member
        · exact .inr

theorem describes_start_iff (clock : Nat) (loaded : Option InfraConfig) : Describes (start clock loaded) ↔ Told loaded := by
  cases loaded with
  | none => exact iff_of_true ⟨rfl,fun _ => rfl⟩ nofun
  | some config =>
    show (Round config [] → 0 = config.version ∧ ∀ id, (∅ : Table String TargetState).lookup id ≠ none ↔ id ∈ ids config) ↔ _
    rw [round_nil]
    constructor
    · intro all config' is none_
      cases is
      exact (all none_).1.symm
    · intro told none_
      refine ⟨(told config rfl none_).symm,fun id => ?_⟩
      simp [ids,none_]

/-- The results describe the active config in every state of a run if and only if every step met its condition. -/
theorem results_describe_iff (clock : Nat) (loaded : Option InfraConfig) (as : List Action) :
    Always step Describes (start clock loaded) as ↔ Told loaded ∧ Along step Keeps (start clock loaded) as := by
  rw [← describes_start_iff clock loaded]
  constructor
  · intro all
    have first := always_first all
    exact ⟨first,(always_iff_along (fun s a t (sound : Sound s) stepped => sound.step stepped)
      (fun s a t sound describes stepped => describes_step_iff sound describes stepped) (Sound.start clock loaded) first).mp all⟩
  · rintro ⟨first,all⟩
    exact (always_iff_along (fun s a t (sound : Sound s) stepped => sound.step stepped)
      (fun s a t sound describes stepped => describes_step_iff sound describes stepped) (Sound.start clock loaded) first).mpr all

def plain (id : String) : Target := ⟨id,InfraTargets.defaultLimits,none,none⟩

def twoTargets : InfraConfig := ⟨1,60,[plain "a",plain "b"]⟩
def oneTarget : InfraConfig := ⟨2,60,[plain "a"]⟩

/-- A target is checked that is due. -/
def check : List Action := [.loop .next,.loop (.checked ⟨true,some 5⟩)]

/-- Of two targets one is removed; after the check of the other the results have both. -/
theorem removed_target_stays : ∃ s, run step (start 1000 none) ([.push twoTargets,.loop .tick] ++ check ++ check ++
    [.loop .next,.push oneTarget,.loop .tick] ++ check) = some s ∧ s.checked = ["a"] ∧ ¬ Describes s := by
  refine ⟨_,rfl,rfl,fun describes => ?_⟩
  have keys := (describes (by decide)).2 "b"
  exact absurd (keys.mp (by decide)) (by decide)

end Sctl.InfraResults
