import Sctl.LteQuestions
import Sctl.LteSystem

/-!
What the safe bands have proved. The watchdog promotes bands on which it has
seen the tunnel connected for five minutes, but it tells their age by
`band_stable_since`, and not every change of the bands resets that. The history
of a run says what has really been seen: a stretch from one sighting of a
connected tunnel to another, with no change of the bands, no tick that saw it
down and none that stood aside. Stored bands have such a stretch behind them in
every run in which no additive change is promoted and no tick promotes over a
change that went unrecorded, over ticks that stood aside, or from a poll that
is out of date.
-/
namespace Sctl.SafeBands
open LteBands LteShared LtePrograms LteWatchdog LteQuestions LteSystem Dialogues Pools Runs

/-- When a tick that has found the tunnel connected records it. -/
def sightingAt : Event → Option Nat
  | .turn .watchdog ⟨.shared .promoteStable,answer⟩ _ => some answer.instant
  | _ => none

/-- The event is a sighting of a connected tunnel, at the instant. -/
def Sighting (instant : Nat) (event : Event) : Prop := sightingAt event = some instant

/-- The question writes the bands or the priority. -/
def writes : Ask → Bool
  | .command (.writeBands _) | .command (.writePriority _) => true
  | _ => false

/-- A tick stands aside, and does not look at the tunnel. -/
def standsAside (turn : LteTurn) : Bool :=
  match turn with
  | ⟨.shared .skipTick,answer⟩ | ⟨.shared .userSuppressed,answer⟩ => answer.value
  | _ => false

/-- What ends a stretch of sightings: a change of the bands, a tick that stands aside, one
    that sees the tunnel down, or a restart. -/
def interrupts : Event → Bool
  | .begin _ => false
  | .turn _ turn _ => writes turn.question || standsAside turn || turn.question = .shared .forgetStability
  | .drift _ | .restart => true

/-- Over the events of a run, the tunnel was seen connected for five minutes on the bands and priority. -/
def Proven (config : LteConfig) (start : Provider) (events : List Event) (bands : List Nat) (priority : Option Nat) : Prop :=
  ∃ before first span last after began ended provider, events = before ++ first :: (span ++ last :: after) ∧
    Sighting began first ∧ Sighting ended last ∧ began + safePromoteThreshold ≤ ended ∧
    (∀ event ∈ span, interrupts event = false) ∧ run (step config) start before = some provider ∧
    bandMask bands = provider.modem.mask ∧ priority = provider.modem.priority

/-- The safe bands, as the state or the file has them. -/
def Stores (shared : Shared) (safe : SafeBandConfig) : Prop :=
  shared.lte.safeBands = some safe ∨ shared.safeFile = some safe

/-- The bands that a sighting at the instant promotes. -/
def promotedAt (instant : Nat) (lte : LteState) : Option (List Nat) :=
  match lte.bandStableSince with
  | none => none
  | some since =>
    if instant - since ≥ safePromoteThreshold then
      lte.toPromote.filter fun bands => lte.promotes bands (lte.signal.bind (·.rsrp))
    else none

/-- The priority that goes with promoted bands. -/
def cachedPriority (lte : LteState) : Option Nat := lte.cachedConfig.bind (·.priorityBand)

/-- The provider, and whether stability has been tracked over a disturbance. -/
structure Observed where
  provider : Provider
  disturbed : Bool

/-- What the tracking of stability does not take note of: a change of the bands that is not
    the watchdog's own, and a tick that stands aside. -/
def disturbs : Event → Bool
  | .turn place turn _ => (writes turn.question && place ≠ .watchdog) || standsAside turn
  | .drift _ => true
  | .begin _ | .restart => false

/-- One event, observed: what disturbs is remembered for as long as stability is tracked. -/
def observe (config : LteConfig) (observed : Observed) (event : Event) : Option Observed :=
  (step config observed.provider event).map fun next =>
    ⟨next,next.shared.lte.bandStableSince.isSome && (observed.disturbed || disturbs event)⟩

/-- The condition on an event: an additive change is not promoted, and a sighting promotes
    undisturbed bands only, when the last poll has the bands and priority of the modem. -/
def Sound (observed : Observed) : Event → Prop
  | .turn _ ⟨.shared (.additiveChange _ _ config),_⟩ _ =>
    observed.provider.shared.lte.promotes config.enabledBands (observed.provider.shared.lte.signal.bind (·.rsrp)) = false
  | .turn _ ⟨.shared .promoteStable,answer⟩ _ =>
    ∀ bands ∈ promotedAt answer.instant observed.provider.shared.lte, observed.disturbed = false ∧
      bandMask bands = observed.provider.modem.mask ∧
      cachedPriority observed.provider.shared.lte = observed.provider.modem.priority
  | _ => True

section
variable {shared : Shared} {now epoch : Nat}

theorem promoteSafeBands_stores {bands : List Nat} {priority : Option Nat} {rsrp : Option Int} {safe : SafeBandConfig}
    (stored : Stores (promoteSafeBands epoch bands priority rsrp shared) safe) :
    Stores shared safe ∨
      (shared.lte.promotes bands rsrp = true ∧ safe.bands = bands ∧ safe.priorityBand = priority) := by
  unfold promoteSafeBands at stored
  split at stored
  · next promoted =>
    rcases stored with found | found <;> cases found <;> exact .inr ⟨promoted,rfl,rfl⟩
  · exact .inl stored

theorem promoteSafeBands_tracking {bands : List Nat} {priority : Option Nat} {rsrp : Option Int} :
    (promoteSafeBands epoch bands priority rsrp shared).lte.bandStableSince = shared.lte.bandStableSince := by
  unfold promoteSafeBands
  split <;> rfl

/-- What a sighting does: it begins to track, or tracks on, or comes to an end and may promote. -/
theorem promoteStable_cases :
    (shared.lte.bandStableSince = none ∧ (promoteStable now epoch shared).lte.bandStableSince = some now ∧
      ∀ safe, Stores (promoteStable now epoch shared) safe → Stores shared safe) ∨
    promoteStable now epoch shared = shared ∨
    ∃ since, shared.lte.bandStableSince = some since ∧ since + safePromoteThreshold ≤ now ∧
      (promoteStable now epoch shared).lte.bandStableSince = none ∧
      ∀ safe, Stores (promoteStable now epoch shared) safe → Stores shared safe ∨
        (promotedAt now shared.lte = some safe.bands ∧ safe.priorityBand = cachedPriority shared.lte) := by
  cases tracked : shared.lte.bandStableSince with
  | none =>
    have kept : (promoteStable now epoch shared).lte.bandStableSince = some now ∧
        ∀ safe, Stores (promoteStable now epoch shared) safe → Stores shared safe := by
      have early : ¬ now - now ≥ safePromoteThreshold := by simp [safePromoteThreshold,secs]
      simp only [promoteStable,LteState.trackStability,tracked,if_true,if_neg early]
      exact ⟨trivial,fun _ held => held⟩
    exact .inl ⟨rfl,kept⟩
  | some since =>
    refine .inr ?_
    have same : shared.lte.trackStability now = shared.lte := by simp [LteState.trackStability,tracked]
    by_cases long : now - since ≥ safePromoteThreshold
    · refine .inr ⟨since,rfl,?_,?_,?_⟩
      · have positive : 0 < safePromoteThreshold := by decide
        omega
      · simp only [promoteStable,same,tracked,if_pos long]
      · intro safe stored
        simp only [promoteStable,same,tracked,if_pos long] at stored
        cases chosen : shared.lte.toPromote with
        | none =>
          rw [chosen] at stored
          exact .inl stored
        | some bands =>
          rw [chosen] at stored
          rcases promoteSafeBands_stores stored with held | ⟨promoted,rfl,priority⟩
          · exact .inl held
          · refine .inr ⟨?_,priority⟩
            simp [promotedAt,tracked,long,chosen,promoted]
    · exact .inl (by simp only [promoteStable,same,tracked,if_neg long])

/-- No other access begins to track, or stores safe bands, unless it promotes an additive change. -/
theorem access_frame {region : Region} (other : region ≠ .promoteStable)
    (refused : ∀ current priority config, region = .additiveChange current priority config →
      shared.lte.promotes config.enabledBands (shared.lte.signal.bind (·.rsrp)) = false) :
    ((access now epoch shared region).2.lte.bandStableSince = shared.lte.bandStableSince ∨
      (access now epoch shared region).2.lte.bandStableSince = none) ∧
    ∀ safe, Stores (access now epoch shared region).2 safe → Stores shared safe := by
  cases region with
  | promoteStable => exact absurd rfl other
  | skipTick =>
    obtain ⟨status,same⟩ := skipTick_status now epoch shared.lte
    rw [access,same]
    exact ⟨.inl rfl,fun _ held => held⟩
  | additiveChange current priority config =>
    refine ⟨.inr ?_,fun safe stored => ?_⟩
    · exact promoteSafeBands_tracking
    · rcases promoteSafeBands_stores (stored : Stores (promoteSafeBands epoch config.enabledBands _ _ _) safe) with
        held | ⟨promoted,_⟩
      · exact held
      · exact absurd promoted (Bool.eq_false_iff.mp (refused current priority config rfl))
  | clearSimData =>
    refine ⟨.inl rfl,fun safe stored => .inl (stored.resolve_right nofun)⟩
  | simChange => exact ⟨.inr rfl,fun safe stored => .inr (stored.resolve_left nofun)⟩
  | polled signal save => cases save <;> exact ⟨.inl rfl,fun _ held => held⟩
  | forgetStability => exact ⟨.inr rfl,fun _ held => held⟩
  | recordRevert => exact ⟨.inr rfl,fun _ held => held⟩
  | userChange wait current priority config => exact ⟨.inr rfl,fun _ held => held⟩
  | _ => exact ⟨.inl rfl,fun _ held => held⟩

end

/-- Any question but a sighting. -/
def NoSighting (question : Ask) : Prop := question ≠ .shared .promoteStable

theorem noSighting_routine (question : Ask) (routine : Routine question) : NoSighting question := by
  rintro rfl
  exact routine

theorem noSighting_plain (question : Ask) (plain : Plain question) : NoSighting question := plain_of noSighting_routine question plain

/-- What is remembered of the watchdog: whether it has seen the tunnel down since its last
    sighting, and whether all its writes came then. -/
structure Seen where
  down : Bool := false
  careful : Bool := true

def downWatch : Watch Ask Answer Seen where
  allows _ _ := True
  track seen turn := {
    down := turn.question = .shared .forgetStability || (turn.question ≠ .shared .promoteStable && seen.down)
    careful := seen.careful && (!writes turn.question || seen.down) }
  fine seen := seen.careful = true

section
variable {config : LteConfig} {watchdog : Watchdog} {seen : Seen} {α : Type}

/-- Once the tunnel is seen down, a program that makes no sighting may write. -/
theorem down_guarantees {program : Lte α} (asks : Asks NoSighting program fun _ => True) (down : seen.down = true)
    (careful : seen.careful = true) :
    Guarantees downWatch program seen fun _ later => later.careful = true := by
  have keeps : ∀ (seen : Seen) (turn : LteTurn), seen.down = true ∧ seen.careful = true → NoSighting turn.question →
      downWatch.allows seen turn → downWatch.fine (downWatch.track seen turn) ∧
        ((downWatch.track seen turn).down = true ∧ (downWatch.track seen turn).careful = true) := by
    intro seen turn ⟨down,careful⟩ (other : turn.question ≠ .shared .promoteStable) _
    simp [downWatch,down,careful,other]
  exact guarantees_mono (guarantees_of_asks keeps asks ⟨down,careful⟩) fun _ _ held => held.2.2

/-- Questions that write nothing may be asked at any time. -/
theorem still_guarantees {program : Lte α} (asks : Asks (fun question => writes question = false) program fun _ => True)
    (careful : seen.careful = true) : Guarantees downWatch program seen fun _ later => later.careful = true := by
  have keeps : ∀ (seen : Seen) (turn : LteTurn), seen.careful = true → writes turn.question = false →
      downWatch.allows seen turn → downWatch.fine (downWatch.track seen turn) ∧
        (downWatch.track seen turn).careful = true := by
    intro seen turn careful quiet _
    simp [downWatch,careful,quiet]
  exact guarantees_mono (guarantees_of_asks keeps asks careful) fun _ _ held => held.2

theorem still_asks (connected : Nat) :
    Asks (fun question => writes question = false) (tieredReset watchdog connected) fun _ => True := by
  have reset : ∀ kind state, Asks (fun question => writes question = false) (resetEpisode kind state) fun _ => True :=
    fun _ _ => ⟨rfl,fun _ => trivial⟩
  unfold tieredReset
  split
  · split
    · refine asks_call (reset _ _) fun state => asks_call ?_ fun _ => trivial
      rw [asks_onlyIf]
      split
      · exact ⟨rfl,fun _ => trivial⟩
      · trivial
    · split
      · exact asks_call (reset _ _) fun _ => trivial
      · trivial
  · trivial

theorem since_still {field : Option Nat} :
    Asks (fun question => writes question = false) (since field) fun _ => True := by
  cases field with
  | none => exact ⟨rfl,fun _ => trivial⟩
  | some instant => trivial

/-- The watchdog writes bands only while the tunnel is down. -/
theorem tick_careful (careful : seen.careful = true) :
    Guarantees downWatch (tick config watchdog) seen fun _ later => later.careful = true := by
  have reading : ∀ {α β : Type} {first : Lte α} {rest : α → Lte β} {seen : Seen}, seen.careful = true →
      Asks (fun question => writes question = false) first (fun _ => True) →
      (∀ value later, later.careful = true →
        Guarantees downWatch (rest value) later fun _ last => last.careful = true) →
      Guarantees downWatch (first >>= rest) seen fun _ last => last.careful = true :=
    fun careful asks rest => guarantees_call (still_guarantees asks careful) rest
  refine reading careful ⟨rfl,fun _ => trivial⟩ fun skipped _ careful => ?_
  split
  · exact careful
  · refine reading careful ⟨rfl,fun _ => trivial⟩ fun active _ careful => ?_
    split
    · exact careful
    · refine reading careful ⟨rfl,fun _ => trivial⟩ fun connected _ careful => ?_
      split
      · refine reading careful since_still fun began _ careful => ?_
        refine reading careful ⟨rfl,fun _ => trivial⟩ fun instant _ careful => ?_
        refine reading careful (still_asks _) fun watchdog _ careful => ?_
        exact reading careful ⟨rfl,fun _ => trivial⟩ fun _ _ careful => careful
      · have asks : Asks NoSighting (disconnectedTick config watchdog) fun _ => True :=
          disconnectedTick_asks noSighting_routine fun _ same => by cases same
        refine guarantees_region.mpr fun forgot _ => ⟨by simp [downWatch,careful,writes],?_⟩
        exact down_guarantees (asks.2 forgot) (by simp [downWatch]) (by simp [downWatch,careful,writes])

theorem loop_careful {n : Nat} (careful : seen.careful = true) :
    Guarantees downWatch (loop config n watchdog) seen fun _ later => later.careful = true := by
  induction n generalizing watchdog seen with
  | zero => exact careful
  | succ n ih => exact guarantees_call (tick_careful careful) fun after later careful => ih careful

end

section
variable {config : LteConfig}

theorem write_noSighting (hex : List Char) : NoSighting (.command (.writeBands hex)) := fun same => by cases same

theorem task_noSighting (task : Task) : Asks NoSighting (task.program config.interface) fun _ => True := by
  cases task with
  | monitor expected old oldPriority =>
    exact monitorRegistration_asks noSighting_routine (write_noSighting _) (write_noSighting _)
  | recover expected =>
    refine asks_call (alone noSighting_routine trivial) fun _ => asks_call (alone noSighting_routine trivial) fun hasIp => ?_
    refine asks_call (alone noSighting_routine trivial) fun up => asks_call ?_ fun _ => alone noSighting_routine trivial
    rw [asks_onlyIf]
    split
    · exact recoverDataPathPub_asks noSighting_routine (write_noSighting _)
    · trivial
  | scan request =>
    refine asks_bind.mpr ⟨noSighting_routine _ trivial,fun looked => ?_⟩
    refine asks_call (alone noSighting_routine trivial) fun reply => ?_
    exact scanFrom_asks noSighting_routine (fun _ _ => write_noSighting _) (write_noSighting _)

theorem setBands_noSighting (params : SetBandsParams) : Asks NoSighting (setBands params) fun _ => True := by
  unfold setBands
  split
  · trivial
  · refine asks_call (alone noSighting_routine trivial) fun cached => ?_
    dsimp only
    split
    · refine asks_call ?_ fun _ => asks_require.mpr ⟨write_noSighting _,trivial,fun _ => asks_call ?_ fun _ => ?_⟩
      · cases cached.2.2 with
        | none => trivial
        | some band =>
          exact asks_call (send_asks noSighting_plain trivial) fun _ => alone noSighting_routine trivial
      · cases params.priorityBand with
        | none => trivial
        | some band =>
          rw [onlySome,asks_onlyIf]
          split
          · exact asks_call (alone noSighting_routine trivial) fun _ => send_asks noSighting_plain trivial
          · trivial
      · exact asks_call ⟨by simp [NoSighting],fun _ => trivial⟩ fun _ => trivial
    · have applied : Asks NoSighting (applyBandsFast params.mode.bands params.priorityBand) fun _ => True :=
        asks_require.mpr ⟨noSighting_routine _ trivial,trivial,fun response =>
          asks_mono (applyFrom_asks noSighting_plain (write_noSighting _)) fun _ _ => trivial⟩
      refine asks_call applied fun result => ?_
      cases result with
      | none => trivial
      | some found =>
        obtain ⟨config,old,oldPriority,gone⟩ := found
        cases gone with
        | true =>
          refine asks_call ⟨by simp [NoSighting],fun _ => trivial⟩ fun _ => ?_
          exact asks_call ⟨by simp [NoSighting],fun _ => trivial⟩ fun _ => trivial
        | false =>
          refine asks_call ⟨by simp [NoSighting],fun _ => trivial⟩ fun _ => ?_
          exact asks_call ⟨by simp [NoSighting],fun _ => trivial⟩ fun _ => trivial

theorem poll_noSighting {rsrp : Option Int} {freqBand : Option Nat} {save : Bool} :
    Asks NoSighting (poll rsrp freqBand save) fun _ => True := by
  refine asks_call (alone noSighting_routine trivial) fun active => asks_call (alone noSighting_routine trivial) fun reply => ?_
  cases Option.bind reply parseCsq with
  | none => trivial
  | some _ =>
    refine asks_call (send_asks noSighting_plain trivial) fun _ => ?_
    split
    · exact asks_call (alone noSighting_routine trivial) fun config => ⟨nofun,fun _ => trivial⟩
    · refine asks_call (asks_mono (readBandConfig_asks noSighting_plain) fun _ _ => trivial) fun config => ?_
      exact ⟨nofun,fun _ => trivial⟩

theorem safeSetBands_noSighting {watched : Bool} {bands : List Nat} {priority : Option Nat} {timeout : Nat} :
    Asks NoSighting (safeSetBands watched bands priority timeout) fun _ => True := by
  have told : ∀ condition wait, Asks NoSighting (onlyIf condition (region (.suppressUntil wait))) fun _ => True := by
    intro condition wait
    cases condition with
    | true => exact alone noSighting_routine trivial
    | false => trivial
  have changed : Asks NoSighting (doSafeSetBands watched bands priority timeout) fun _ => True :=
    asks_require.mpr ⟨noSighting_routine _ trivial,trivial,fun response =>
      safeChangeFrom_asks noSighting_routine (write_noSighting _) (write_noSighting _)⟩
  refine asks_call (told _ _) fun _ => asks_call changed fun result => ?_
  exact asks_call (endSuppression_asks noSighting_routine) fun _ => trivial

/-- Only the watchdog makes sightings. -/
theorem job_noSighting {job : Job} (other : job.place ≠ some .watchdog) :
    Asks NoSighting (job.program config) fun _ => True := by
  cases job with
  | watchdog exhausted ticks => exact absurd rfl other
  | checkScan => exact absurd rfl other
  | poll rsrp freqBand save => exact poll_noSighting
  | setBands params => exact asks_call (setBands_noSighting params) fun _ => trivial
  | scan request tunnelUp =>
    refine asks_call ?_ fun _ => trivial
    unfold LtePrograms.scan
    split
    · trivial
    · refine asks_call (alone noSighting_routine trivial) fun running => ?_
      split
      · trivial
      · exact asks_call ⟨nofun,fun _ => trivial⟩ fun _ => trivial
  | safeSetBands watched bands priority timeout => exact asks_call safeSetBands_noSighting fun _ => trivial
  | detectSimChange previous => exact detectSimChange_asks noSighting_routine (write_noSighting _)
  | task task => exact task_noSighting task

/-- What is remembered of the watchdog's thread. -/
def seenOf (thread : LteThread) : Seen := thread.asked.foldl downWatch.track {}

/-- A thread as it can be while stability is tracked since some instant or not: the
    watchdog writes with care, and knows the tunnel down only when nothing is tracked;
    the others make no sighting. -/
def Careful (tracked : Option Nat) (place : Place) (thread : LteThread) : Prop :=
  if place = .watchdog then
    (Guarantees downWatch thread.rest (seenOf thread) fun _ later => later.careful = true) ∧
      (seenOf thread).careful = true ∧ ((seenOf thread).down = true → tracked = none)
  else Asks NoSighting thread.rest fun _ => True

theorem job_careful {job : Job} {place : Place} (begins : job.place = some place) (tracked : Option Nat) :
    Careful tracked place (.begin job (job.program config)) := by
  unfold Careful
  split
  · next watchdog =>
    subst watchdog
    refine ⟨?_,rfl,fun down => by cases down⟩
    cases job with
    | watchdog exhausted ticks => exact guarantees_call (loop_careful rfl) fun _ _ careful => careful
    | checkScan => exact fun _ _ => ⟨rfl,rfl⟩
    | poll _ _ _ => cases begins
    | setBands _ => cases begins
    | scan _ _ => cases begins
    | safeSetBands _ _ _ _ => cases begins
    | detectSimChange _ => cases begins
    | task _ => cases begins
  · next other =>
    refine job_noSighting fun same => other ?_
    exact Option.some.inj (begins.symm.trans same)

/-- A thread that waits stays careful while no tracking begins. -/
theorem careful_waits {tracked after : Option Nat} {place : Place} {thread : LteThread}
    (careful : Careful tracked place thread) (idle : place = .watchdog → tracked = none → after = none) :
    Careful after place thread := by
  unfold Careful at careful ⊢
  split
  · next watchdog =>
    rw [if_pos watchdog] at careful
    exact ⟨careful.1,careful.2.1,fun down => idle watchdog (careful.2.2 down)⟩
  · next other =>
    rw [if_neg other] at careful
    exact careful

end

section
variable {config : LteConfig} {start : Provider} {events : List Event} {observed next : Observed} {event : Event}

/-- The stretch behind stability tracked since an instant: it begins with a sighting then,
    on the bands that the modem has now, and nothing has interrupted it. -/
def Stretch (config : LteConfig) (start : Provider) (events : List Event) (modem : Modem) (since : Nat) : Prop :=
  ∃ before first span provider, events = before ++ first :: span ∧ Sighting since first ∧
    (∀ event ∈ span, interrupts event = false) ∧ run (step config) start before = some provider ∧ provider.modem = modem

theorem Stretch.grow {modem : Modem} {since : Nat} (stretch : Stretch config start events modem since)
    (goes : interrupts event = false) : Stretch config start (events ++ [event]) modem since := by
  obtain ⟨before,first,span,provider,rfl,sighting,calm,ran,same⟩ := stretch
  refine ⟨before,first,span ++ [event],provider,by simp,sighting,?_,ran,same⟩
  intro other member
  rcases List.mem_append.mp member with within | last
  · exact calm other within
  · rw [List.mem_singleton.mp last]
    exact goes

theorem Proven.grow {bands : List Nat} {priority : Option Nat} (proven : Proven config start events bands priority) :
    Proven config start (events ++ [event]) bands priority := by
  obtain ⟨before,first,span,last,after,began,ended,provider,rfl,rest⟩ := proven
  exact ⟨before,first,span,last,after ++ [event],began,ended,provider,by simp,rest⟩

/-- A stretch of five minutes proves the bands it was on. -/
theorem Stretch.proven {modem : Modem} {since instant : Nat} {bands : List Nat} {priority : Option Nat}
    (stretch : Stretch config start events modem since) (sighting : Sighting instant event)
    (long : since + safePromoteThreshold ≤ instant) (same : bandMask bands = modem.mask)
    (samePriority : priority = modem.priority) : Proven config start (events ++ [event]) bands priority := by
  obtain ⟨before,first,span,provider,rfl,began,calm,ran,rfl⟩ := stretch
  exact ⟨before,first,span,event,[],since,instant,provider,by simp,began,sighting,long,calm,ran,same,samePriority⟩

/-- The invariant of an observed run. -/
structure Tracked (config : LteConfig) (start : Provider) (events : List Event) (observed : Observed) : Prop where
  ran : run (step config) start events = some observed.provider
  stretch : ∀ since, observed.provider.shared.lte.bandStableSince = some since → observed.disturbed = false →
    Stretch config start events observed.provider.modem since
  idle : observed.provider.shared.lte.bandStableSince = none → observed.disturbed = false
  stored : ∀ safe, Stores observed.provider.shared safe → Proven config start events safe.bands safe.priorityBand
  threads : Everywhere (Careful observed.provider.shared.lte.bandStableSince) observed.provider.threads

theorem observe_iff : observe config observed event = some next ↔
    ∃ provider, step config observed.provider event = some provider ∧
      next = ⟨provider,provider.shared.lte.bandStableSince.isSome && (observed.disturbed || disturbs event)⟩ := by
  simp only [observe,Option.map_eq_some_iff]
  exact exists_congr fun provider => and_congr_right fun _ => eq_comm

/-- A modem that is not written keeps its bands. -/
theorem modemAfter_same {modem : Modem} {turn : LteTurn} {took : Bool} (quiet : writes turn.question = false) :
    modemAfter modem turn took = modem := by
  obtain ⟨question,answer⟩ := turn
  cases question with
  | command command =>
    cases command with
    | writeBands hex => cases quiet
    | writePriority band => cases quiet
    | _ => rfl
  | _ => rfl

/-- An event other than a sighting, after which stability is still tracked and undisturbed,
    has not interrupted anything. -/
theorem goes_on {provider : Provider} {place : Place} {turn : LteTurn} {took : Bool} {thread : LteThread}
    {question : Ask} {follow : Answer question → Lte Unit} {reply : Answer question}
    (careful : Careful provider.shared.lte.bandStableSince place thread) (left : thread.rest = .ask question follow)
    (turned : turn = ⟨question,reply⟩) (tracked : (sharedAfter provider.shared turn).lte.bandStableSince ≠ none)
    (calm : disturbs (.turn place turn took) = false) : interrupts (.turn place turn took) = false := by
  subst turned
  simp only [disturbs,Bool.or_eq_false_iff,Bool.and_eq_false_iff,decide_eq_false_iff_not,not_not] at calm
  simp only [interrupts,Bool.or_eq_false_iff,decide_eq_false_iff_not]
  refine ⟨⟨?_,calm.2⟩,?_⟩
  · rcases calm.1 with quiet | watchdog
    · exact quiet
    · -- a write of the watchdog comes while nothing is tracked
      rw [Careful,if_pos watchdog,left] at careful
      by_contra writing
      rw [Bool.not_eq_false] at writing
      have down : (seenOf thread).down = true := by
        have fine := (careful.1 reply trivial).1
        simpa [downWatch,writing,careful.2.1] using fine
      have same : sharedAfter provider.shared ⟨question,reply⟩ = provider.shared := by
        refine sharedAfter_other fun region same => ?_
        dsimp only at same
        rw [same] at writing
        cases writing
      exact tracked ((congrArg (·.lte.bandStableSince) same).trans (careful.2.2 down))
  · rintro rfl
    exact tracked rfl

/-- What the shared state becomes over a turn, apart from a sighting's own effect. -/
theorem sharedAfter_frame {provider : Provider} {place : Place} {turn : LteTurn} {took disturbed : Bool}
    (sound : Sound ⟨provider,disturbed⟩ (.turn place turn took)) (other : turn.question ≠ .shared .promoteStable) :
    ((sharedAfter provider.shared turn).lte.bandStableSince = provider.shared.lte.bandStableSince ∨
      (sharedAfter provider.shared turn).lte.bandStableSince = none) ∧
    ∀ safe, Stores (sharedAfter provider.shared turn) safe → Stores provider.shared safe := by
  obtain ⟨question,answer⟩ := turn
  cases question with
  | shared region =>
    refine access_frame (fun same => other (congrArg Ask.shared same)) ?_
    rintro current priority config rfl
    exact sound
  | _ => exact ⟨.inl rfl,fun _ held => held⟩

/-- The threads stay careful over a turn. -/
theorem careful_turn {provider : Provider} {place : Place} {turn : LteTurn} {thread : LteThread}
    {question : Ask} {follow : Answer question → Lte Unit} {reply : Answer question} {after : Option Nat}
    (held : Everywhere (Careful provider.shared.lte.bandStableSince) provider.threads)
    (has : provider.threads place = some thread) (left : thread.rest = .ask question follow) (turned : turn = ⟨question,reply⟩)
    (idle : turn.question ≠ .shared .promoteStable → provider.shared.lte.bandStableSince = none → after = none)
    (forgot : turn.question = .shared .forgetStability → after = none) :
    Everywhere (Careful after)
      (spawnedBy config provider.turns turn (put provider.threads place (thread.after turn (follow reply)))) := by
  subst turned
  have careful := held place thread has
  refine everywhere_turn held ?_ ?_ ?_
  · unfold Careful at careful ⊢
    split
    · next watchdog =>
      rw [if_pos watchdog,left] at careful
      obtain ⟨guarantees,quiet,knows⟩ := careful
      obtain ⟨fine,onward⟩ := guarantees reply trivial
      have seen : seenOf (thread.after ⟨question,reply⟩ (follow reply)) = downWatch.track (seenOf thread) ⟨question,reply⟩ := by
        simp [seenOf,Thread.after]
      rw [seen]
      refine ⟨onward,fine,fun down => ?_⟩
      simp only [downWatch,Bool.or_eq_true,decide_eq_true_eq,Bool.and_eq_true] at down
      rcases down with saw | ⟨other,down⟩
      · exact forgot saw
      · exact idle other (knows down)
    · next other =>
      rw [if_neg other,left] at careful
      exact careful.2 reply
  · intro other found different waiting
    refine careful_waits waiting fun watchdog => idle ?_
    -- the sighting would be the watchdog's own
    intro sighting
    have mine : place ≠ .watchdog := fun same => different (watchdog.trans same.symm)
    rw [Careful,if_neg mine,left] at careful
    exact careful.1 sighting
  · intro task spawned
    exact task_noSighting task

theorem observe_keeps (tracked : Tracked config start events observed) (sound : Sound observed event)
    (stepped : observe config observed event = some next) : Tracked config start (events ++ [event]) next := by
  obtain ⟨after,made,rfl⟩ := observe_iff.mp stepped
  have ran : run (step config) start (events ++ [event]) = some after :=
    run_append_iff.mpr ⟨_,tracked.ran,run_singleton.mpr made⟩
  obtain ⟨provider,disturbed⟩ := observed
  have idle : after.shared.lte.bandStableSince = none →
      (after.shared.lte.bandStableSince.isSome && (disturbed || disturbs event)) = false := fun none => by simp [none]
  -- what is left over an event that does not touch the shared state
  have calm : ∀ since, after.shared.lte.bandStableSince = some since →
      (after.shared.lte.bandStableSince.isSome && (disturbed || disturbs event)) = false →
      disturbed = false ∧ disturbs event = false := by
    intro since still undisturbed
    simpa [still] using undisturbed
  cases event with
  | begin job =>
    obtain ⟨place,begins,_,rfl⟩ := step_begin.mp made
    refine ⟨ran,fun since still undisturbed => ?_,idle,fun safe stores => (tracked.stored safe stores).grow,?_⟩
    · exact (tracked.stretch since still (calm since still undisturbed).1).grow rfl
    · exact everywhere_put tracked.threads (job_careful begins _) fun _ _ _ held => held
  | turn place turn took =>
    obtain ⟨thread,question,follow,reply,has,left,turned,_,told,rfl⟩ := step_turn.mp made
    have careful : Careful provider.shared.lte.bandStableSince place thread := tracked.threads place thread has
    by_cases sighting : turn.question = .shared .promoteStable
    · subst turned
      dsimp only at sighting
      subst sighting
      have watchdog : place = .watchdog := by
        by_contra other
        rw [Careful,if_neg other,left] at careful
        exact careful.1 rfl
      subst watchdog
      have threads := @careful_turn config provider .watchdog ⟨.shared .promoteStable,reply⟩ thread _ follow reply
        (promoteStable reply.instant reply.epoch provider.shared).lte.bandStableSince tracked.threads has left rfl
        (fun other => absurd rfl other) nofun
      have here : Sighting reply.instant (.turn .watchdog ⟨.shared .promoteStable,reply⟩ took) := rfl
      rcases @promoteStable_cases provider.shared reply.instant reply.epoch with
        ⟨nothing,begun,stores⟩ | same | ⟨since,tracks,long,ended,stores⟩
      · -- tracking begins here
        refine ⟨ran,fun since still _ => ?_,idle,fun safe held => (tracked.stored safe (stores safe held)).grow,threads⟩
        cases begun.symm.trans still
        exact ⟨events,_,[],provider,rfl,here,by simp,tracked.ran,rfl⟩
      · refine ⟨ran,fun since still undisturbed => ?_,idle,fun safe held => ?_,threads⟩
        · have undisturbed := (calm since still undisturbed).1
          exact (tracked.stretch since ((congrArg (·.lte.bandStableSince) same).symm.trans still) undisturbed).grow rfl
        · exact (tracked.stored safe (same ▸ held : Stores provider.shared safe)).grow
      · refine ⟨ran,fun since still _ => ?_,idle,fun safe held => ?_,threads⟩
        · cases ended.symm.trans still
        · rcases stores safe held with before | ⟨promoted,priority⟩
          · exact (tracked.stored safe before).grow
          · obtain ⟨undisturbed,mask,current⟩ := sound safe.bands promoted
            exact (tracked.stretch since tracks undisturbed).proven here long mask (priority.trans current)
    · obtain ⟨tracks,stores⟩ := sharedAfter_frame sound sighting
      refine ⟨ran,fun since still undisturbed => ?_,idle,fun safe held => (tracked.stored safe (stores safe held)).grow,?_⟩
      · have before : provider.shared.lte.bandStableSince = some since := by
          rcases tracks with same | none
          · exact same.symm.trans still
          · cases none.symm.trans still
        obtain ⟨undisturbed,quiet⟩ := calm since still undisturbed
        have goes := goes_on careful left turned (fun none => by cases none.symm.trans still) quiet
        have unwritten : writes turn.question = false := by
          simp only [interrupts,Bool.or_eq_false_iff] at goes
          exact goes.1.1
        have stretch := tracked.stretch since before undisturbed
        rw [modemAfter_same unwritten]
        exact stretch.grow goes
      · refine careful_turn tracked.threads has left turned (fun _ none => ?_) fun forgot => ?_
        · rcases tracks with same | none'
          · exact same.trans none
          · exact none'
        · subst turned
          dsimp only at forgot
          subst forgot
          rfl
  | drift modem =>
    cases made
    refine ⟨ran,fun since still undisturbed => ?_,idle,fun safe stores => (tracked.stored safe stores).grow,tracked.threads⟩
    cases (calm since still undisturbed).2
  | restart =>
    cases made
    refine ⟨ran,nofun,idle,fun safe stores => ?_,nofun⟩
    exact (tracked.stored safe (.inr (stores.elim id id))).grow

/-- The observed run goes wherever the run goes. -/
theorem run_observe {provider last : Provider} {disturbed : Bool} (ran : run (step config) provider events = some last) :
    ∃ after, run (observe config) ⟨provider,disturbed⟩ events = some ⟨last,after⟩ := by
  induction events generalizing provider disturbed with
  | nil =>
    cases ran
    exact ⟨disturbed,rfl⟩
  | cons event events ih =>
    obtain ⟨next,stepped,later⟩ := run_cons_iff.mp ran
    obtain ⟨after,observed⟩ := ih later
    exact ⟨after,run_cons_iff.mpr ⟨_,observe_iff.mpr ⟨next,stepped,rfl⟩,observed⟩⟩

theorem run_tracked {before : List Event} {last : Observed} (tracked : Tracked config start before observed)
    (sound : Along (observe config) Sound observed events) (ran : run (observe config) observed events = some last) :
    Tracked config start (before ++ events) last := by
  induction events generalizing before observed with
  | nil =>
    cases ran
    rwa [List.append_nil]
  | cons event events ih =>
    obtain ⟨next,stepped,later⟩ := run_cons_iff.mp ran
    have grown := ih (observe_keeps tracked (sound next stepped).1 stepped) (sound next stepped).2 later
    rwa [List.append_assoc,List.singleton_append] at grown

end

/-- In every sound run of the provider, the safe bands, in the state and in the file, have
    been seen to work for five minutes. -/
theorem safe_bands_proven (config : LteConfig) (modem : Modem) (events : List Event) (provider : Provider)
    (ran : run (step config) (fresh modem) events = some provider)
    (sound : Along (observe config) Sound ⟨fresh modem,false⟩ events) (safe : SafeBandConfig)
    (stored : Stores provider.shared safe) : Proven config (fresh modem) events safe.bands safe.priorityBand := by
  have start : Tracked config (fresh modem) [] ⟨fresh modem,false⟩ := by
    refine ⟨rfl,nofun,fun _ => rfl,fun safe stored => ?_,nofun⟩
    rcases stored with found | found <;> cases found
  obtain ⟨after,observed⟩ := run_observe ran
  exact (run_tracked start sound observed).stored safe stored

instance (observed : Observed) : DecidablePred (Sound observed)
  | .turn _ turn _ =>
    match turn with
    | ⟨.shared region,_⟩ =>
      match region with
      | .additiveChange .. => inferInstanceAs (Decidable (_ = false))
      | .promoteStable => inferInstanceAs (Decidable (∀ _ ∈ promotedAt _ _,_))
      | .skipTick | .userSuppressed | .forgetStability | .prechangeInfo _ | .recordRevert | .safeInfo | .cachedBands
      | .userChange .. | .endBandChange | .suppressUntil _ | .endSuppression | .scanRequest | .scanStart _ | .scanAborted
      | .scanBand _ | .scanProgress .. | .scanFinished _ | .polledConfig | .polled .. | .clearSimData | .simChange =>
        .isTrue trivial
    | ⟨.clock,_⟩ | ⟨.sleep _,_⟩ | ⟨.command _,_⟩ | ⟨.connected,_⟩ | ⟨.reconnecting,_⟩ | ⟨.hasIpv4,_⟩
    | ⟨.sysfsPresent,_⟩ | ⟨.reachable,_⟩ | ⟨.process _,_⟩ | ⟨.writeFile _,_⟩ | ⟨.openModem,_⟩ | ⟨.speedTest,_⟩
    | ⟨.spawn _,_⟩ | ⟨.act _ _,_⟩ | ⟨.reset _,_⟩ | ⟨.report,_⟩ | ⟨.restoring,_⟩ => .isTrue trivial
  | .begin _ | .drift _ | .restart => .isTrue trivial

def providerConfig : LteConfig := { interface := ⟨"wwan0",true,none⟩ }

/-- A modem on band 4 with a signal, and a tunnel that is up. -/
def healthy : (question : Ask) → question.Reply
  | .command .readBands => some "+QCFG: \"band\",0x260,0x8,0x0\r\nOK".toList
  | .command .signalStrength => some "+CSQ: 20,99\r\nOK".toList
  | .connected => true
  | question => plainReply question

/-- A poll, then eleven ticks that see the tunnel connected. -/
def steady : List Event × Nat × Provider :=
  play providerConfig ([.event (.begin (.poll none none false)),.talk .poller 6 healthy,
      .event (.begin (.watchdog false 11)),.wait (secs 30),.talk .watchdog 6 healthy] ++
    (List.range 10).flatMap fun n => [.wait (secs (60 + 30 * n)),.talk .watchdog 5 healthy]) (0,fresh ⟨8,none⟩)

theorem safe_bands_proven_steady : Proven providerConfig (fresh ⟨8,none⟩) steady.1 [4] none :=
  safe_bands_proven providerConfig ⟨8,none⟩ steady.1 steady.2.2 run_play (by decide +kernel)
    ⟨[4],none,330,none⟩ (.inl (by decide +kernel))

/-- A poll, and then a request that adds band 12. -/
def added : List Event × Nat × Provider :=
  play providerConfig [.event (.begin (.poll none none false)),.talk .poller 6 healthy,
    .event (.begin (.setBands ⟨.locked [4,12],none,false,false⟩)),.talk .request 9 plainReply] (0,fresh ⟨8,none⟩)

/-- The added band is promoted at once. -/
theorem added_band_unproven : ¬ ∀ (config : LteConfig) (modem : Modem) (events : List Event) (provider : Provider),
    run (step config) (fresh modem) events = some provider → ∀ safe, Stores provider.shared safe →
      Proven config (fresh modem) events safe.bands safe.priorityBand := by
  intro claim
  have stored : Stores added.2.2.shared ⟨[4,12],none,0,none⟩ := .inl (by decide +kernel)
  obtain ⟨_,first,_,_,_,began,_,_,split,sighting,_⟩ := claim providerConfig ⟨8,none⟩ added.1 added.2.2 run_play _ stored
  have unseen : added.1.all (fun event => sightingAt event = none) = true := by decide +kernel
  have none := of_decide_eq_true (List.all_eq_true.mp unseen first (by simp [split]))
  cases sighting.symm.trans none

end Sctl.SafeBands
