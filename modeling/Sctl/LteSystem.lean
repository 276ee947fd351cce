import Sctl.Runs
import Sctl.Pools
import Sctl.LteWatchdog

/-!
The cellular provider as a whole (`drivers/sctl-comms-quectel/src/main.rs`):
the watchdog and the signal poller (`spawn_lte_poller` in `server/src/lte.rs`),
the request that the driver serves, and the tasks that requests leave running,
turn by turn in any order over one shared state and one modem. The driver
serves one request at a time. Commands may fail or return any text; a failed
write may have taken effect all the same, and the modem may change its bands
by itself. A restart ends every program and loads the two files again.
-/
namespace Sctl.LteSystem
open Texts LteBands LteShared LtePrograms LteWatchdog Dialogues Pools Runs

/-- What runs in the provider. -/
inductive Job where
  | watchdog (exhausted : Bool) (ticks : Nat)
  | checkScan
  | poll (rsrp : Option Int) (freqBand : Option Nat) (save : Bool)
  | setBands (params : SetBandsParams)
  | scan (request : ScanRequest) (tunnelUp : Bool)
  | safeSetBands (watched : Bool) (bands : List Nat) (priority : Option Nat) (timeout : Nat)
  | detectSimChange (previous : Option (List Char))
  | task (task : Task)
deriving DecidableEq, Repr

/-- Where it runs: tasks side by side, of the others one each. -/
inductive Place where
  | watchdog
  | poller
  | request
  | task (index : Nat)
deriving DecidableEq, Repr

/-- The place of a job that begins by itself; a task is spawned. -/
def Job.place : Job → Option Place
  | .watchdog .. | .checkScan => some .watchdog
  | .poll .. => some .poller
  | .setBands _ | .scan .. | .safeSetBands .. | .detectSimChange _ => some .request
  | .task _ => none

def Job.program (config : LteConfig) : Job → Lte Unit
  | .watchdog exhausted ticks => do
    let _ ← loop config ticks ⟨{},exhausted⟩
  | .checkScan => LtePrograms.checkScan
  | .poll rsrp freqBand save => LtePrograms.poll rsrp freqBand save
  | .setBands params => do
    let _ ← LtePrograms.setBands params
  | .scan request tunnelUp => do
    let _ ← LtePrograms.scan request tunnelUp
  | .safeSetBands watched bands priority timeout => do
    let _ ← LtePrograms.safeSetBands watched bands priority timeout
  | .detectSimChange previous => LtePrograms.detectSimChange previous
  | .task work => work.program config.interface

/-- The bands that the modem is set to. -/
structure Modem where
  mask : Nat
  priority : Option Nat
deriving DecidableEq, Repr

abbrev LteThread : Type := Thread Ask Answer Job

/-- The provider with its modem. -/
structure Provider where
  shared : Shared
  modem : Modem
  clock : Nat
  threads : Pool Ask Answer Job Place
  turns : Nat

/-- What can happen next: a job begins, a thread gets its next answer (`took` says whether
    a write that failed took effect), the modem changes its bands, the provider restarts. -/
inductive Event where
  | begin (job : Job)
  | turn (place : Place) (turn : LteTurn) (took : Bool)
  | drift (modem : Modem)
  | restart

instance decidableReply : (region : Region) → DecidableEq region.Reply
  | .skipTick | .userSuppressed | .scanRequest => inferInstanceAs (DecidableEq Bool)
  | .prechangeInfo _ | .safeInfo => inferInstanceAs (DecidableEq (Option (List Nat × Option Nat)))
  | .cachedBands => inferInstanceAs (DecidableEq (List Nat × Option Nat × Option Nat))
  | .polledConfig => inferInstanceAs (DecidableEq (Option BandConfig))
  | .promoteStable | .forgetStability | .recordRevert | .additiveChange .. | .userChange .. | .endBandChange
  | .suppressUntil _ | .endSuppression | .scanStart _ | .scanAborted | .scanBand _ | .scanProgress ..
  | .scanFinished _ | .polled .. | .clearSimData | .simChange => inferInstanceAs (DecidableEq Unit)

/-- The shared state tells what it holds. -/
def Told (shared : Shared) (turn : LteTurn) : Prop :=
  match turn with
  | ⟨.shared region,answer⟩ => answer.value = (access answer.instant answer.epoch shared region).1
  | _ => True

instance (shared : Shared) (turn : LteTurn) : Decidable (Told shared turn) :=
  match turn with
  | ⟨.shared _,_⟩ => inferInstanceAs (Decidable (_ = _))
  | ⟨.clock,_⟩ | ⟨.sleep _,_⟩ | ⟨.command _,_⟩ | ⟨.connected,_⟩ | ⟨.reconnecting,_⟩ | ⟨.hasIpv4,_⟩
  | ⟨.sysfsPresent,_⟩ | ⟨.reachable,_⟩ | ⟨.process _,_⟩ | ⟨.writeFile _,_⟩ | ⟨.openModem,_⟩ | ⟨.speedTest,_⟩
  | ⟨.spawn _,_⟩ | ⟨.act _ _,_⟩ | ⟨.reset _,_⟩ | ⟨.report,_⟩ | ⟨.restoring,_⟩ => .isTrue trivial

/-- The shared state after a turn. -/
def sharedAfter (shared : Shared) (turn : LteTurn) : Shared :=
  match turn with
  | ⟨.shared region,answer⟩ => (access answer.instant answer.epoch shared region).2
  | _ => shared

/-- The modem's bands after a turn. -/
def modemAfter (modem : Modem) (turn : LteTurn) (took : Bool) : Modem :=
  match turn with
  | ⟨.command (.writeBands hex),answer⟩ =>
    if took ∨ answer.value.isSome then { modem with mask := (fromStrRadix 16 (2 ^ 128) hex).getD modem.mask } else modem
  | ⟨.command (.writePriority band),answer⟩ =>
    if took ∨ answer.value.isSome then { modem with priority := if band = 0 then none else some band } else modem
  | _ => modem

/-- The threads after a turn, once the thread that made it has gone on: a new task is
    named by the number of the turn. -/
def spawnedBy (config : LteConfig) (turns : Nat) (turn : LteTurn) (threads : Pool Ask Answer Job Place) :
    Pool Ask Answer Job Place :=
  match turn.question with
  | .spawn task => put threads (.task turns) (.begin (.task task) (task.program config.interface))
  | _ => threads

/-- One event. A job waits for its place, time does not run back, and the shared state is
    asked under its lock. -/
def step (config : LteConfig) (provider : Provider) : Event → Option Provider
  | .begin job => do
    let place ← job.place
    if (provider.threads place).isNone then
      some { provider with threads := put provider.threads place (.begin job (job.program config)) }
    else none
  | .turn place turn took => do
    let threads ← answer provider.threads place turn
    if provider.clock ≤ turn.answer.instant ∧ Told provider.shared turn then
      some {
        shared := sharedAfter provider.shared turn
        modem := modemAfter provider.modem turn took
        clock := turn.answer.instant
        threads := spawnedBy config provider.turns turn threads
        turns := provider.turns + 1 }
    else none
  | .drift modem => some { provider with modem := modem }
  | .restart => some { provider with shared := provider.shared.load, threads := fun _ => none }

/-- The provider that starts on a device for the first time. -/
def fresh (modem : Modem) : Provider := ⟨{},modem,0,fun _ => none,0⟩

section
variable {config : LteConfig} {provider next : Provider} {place : Place} {turn : LteTurn} {took : Bool}

theorem step_begin {job : Job} : step config provider (.begin job) = some next ↔
    ∃ place, job.place = some place ∧ provider.threads place = none ∧
      next = { provider with threads := put provider.threads place (.begin job (job.program config)) } := by
  simp only [step,Option.bind_eq_bind,Option.bind_eq_some_iff,Option.ite_none_right_eq_some,Option.isNone_iff_eq_none,
    Option.some.injEq]
  refine exists_congr fun place => and_congr_right fun _ => and_congr_right fun _ => eq_comm

/-- A turn answers the question that its thread is at. -/
theorem step_turn : step config provider (.turn place turn took) = some next ↔
    ∃ thread question follow reply, provider.threads place = some thread ∧ thread.rest = .ask question follow ∧
      turn = ⟨question,reply⟩ ∧ provider.clock ≤ reply.instant ∧ Told provider.shared turn ∧
      next = {
        shared := sharedAfter provider.shared turn
        modem := modemAfter provider.modem turn took
        clock := reply.instant
        threads := spawnedBy config provider.turns turn (put provider.threads place (thread.after turn (follow reply)))
        turns := provider.turns + 1 } := by
  simp only [step,Option.bind_eq_bind,Option.bind_eq_some_iff,Option.ite_none_right_eq_some,Option.some.injEq,answer_iff]
  constructor
  · rintro ⟨threads,⟨thread,question,follow,reply,has,left,rfl,rfl⟩,⟨later,told⟩,rfl⟩
    exact ⟨thread,question,follow,reply,has,left,rfl,later,told,rfl⟩
  · rintro ⟨thread,question,follow,reply,has,left,rfl,later,told,rfl⟩
    exact ⟨_,⟨thread,question,follow,reply,has,left,rfl,rfl⟩,⟨later,told⟩,rfl⟩

/-- What a turn leaves of every thread: of the one that made it, of those that waited,
    and of a task that it spawned. -/
theorem everywhere_turn {P Q : Place → LteThread → Prop} {thread : LteThread} (held : Everywhere P provider.threads)
    (made : Q place thread) (waited : ∀ other found, other ≠ place → P other found → Q other found)
    (spawned : ∀ task, turn.question = .spawn task →
      Q (.task provider.turns) (.begin (.task task) (task.program config.interface))) :
    Everywhere Q (spawnedBy config provider.turns turn (put provider.threads place thread)) := by
  have moved : Everywhere Q (put provider.threads place thread) := everywhere_put held made waited
  unfold spawnedBy
  split
  · next task asked => exact everywhere_put moved (spawned task asked) fun _ _ _ kept => kept
  · exact moved

@[simp] theorem sharedAfter_shared {shared : Shared} {region : Region} {answer : Answer (.shared region)} :
    sharedAfter shared ⟨.shared region,answer⟩ = (access answer.instant answer.epoch shared region).2 := rfl

/-- The shared state is changed by accesses to it and by nothing else. -/
theorem sharedAfter_other {shared : Shared} (other : ∀ region, turn.question ≠ .shared region) :
    sharedAfter shared turn = shared := by
  obtain ⟨question,answer⟩ := turn
  cases question with
  | shared region => exact absurd rfl (other region)
  | _ => rfl

end

/-- What is told to a question, and else the reply given. -/
def toldReply (shared : Shared) (clock : Nat) : (question : Ask) → question.Reply → question.Reply
  | .shared region, _ => (access clock (clock / secs 1) shared region).1
  | _, reply => reply

/-- The next turn of a thread, with the reply given: only a sleep takes time. -/
def nextTurn (provider : Provider) (place : Place) (clock : Nat) (replies : (question : Ask) → question.Reply) :
    Option LteTurn :=
  match provider.threads place with
  | some ⟨_,_,.ask question _⟩ =>
    let clock := match question with
      | .sleep wait => clock + wait
      | _ => clock
    some ⟨question,clock,clock / secs 1,toldReply provider.shared clock question (replies question)⟩
  | _ => none

/-- So many turns of a thread. -/
def talk (config : LteConfig) (place : Place) (replies : (question : Ask) → question.Reply) :
    Nat → Nat × Provider → List Event × (Nat × Provider)
  | 0, state => ([],state)
  | count + 1, (clock,provider) =>
    match nextTurn provider place clock replies with
    | some turn =>
      match step config provider (.turn place turn false) with
      | some next =>
        let later := talk config place replies count (turn.answer.instant,next)
        (.turn place turn false :: later.1,later.2)
      | none => ([],(clock,provider))
    | none => ([],(clock,provider))

/-- The parts of a run that is played: an event, a wait until an instant, turns of a thread. -/
inductive Move where
  | event (event : Event)
  | wait (stop : Nat)
  | talk (place : Place) (count : Nat) (replies : (question : Ask) → question.Reply)

/-- The events of the moves, as far as they can be made, with the clock and the provider after them. -/
def play (config : LteConfig) : List Move → Nat × Provider → List Event × (Nat × Provider)
  | [], state => ([],state)
  | .wait stop :: moves, (clock,provider) => play config moves (max clock stop,provider)
  | .event event :: moves, (clock,provider) =>
    match step config provider event with
    | some next =>
      let later := play config moves (clock,next)
      (event :: later.1,later.2)
    | none => ([],(clock,provider))
  | .talk place count replies :: moves, state =>
    let talked := talk config place replies count state
    let later := play config moves talked.2
    (talked.1 ++ later.1,later.2)

theorem run_talk {config : LteConfig} {place : Place} {replies : (question : Ask) → question.Reply} {count clock : Nat}
    {provider : Provider} : run (step config) provider (talk config place replies count (clock,provider)).1 =
      some (talk config place replies count (clock,provider)).2.2 := by
  induction count generalizing clock provider with
  | zero => rfl
  | succ count ih =>
    rw [talk]
    split
    · split
      · next stepped => exact run_cons_iff.mpr ⟨_,stepped,ih⟩
      · rfl
    · rfl

/-- What is played is a run. -/
theorem run_play {config : LteConfig} {moves : List Move} {clock : Nat} {provider : Provider} :
    run (step config) provider (play config moves (clock,provider)).1 = some (play config moves (clock,provider)).2.2 := by
  induction moves generalizing clock provider with
  | nil => rfl
  | cons move moves ih =>
    cases move with
    | event event =>
      unfold play
      split
      · next stepped => exact run_cons_iff.mpr ⟨_,stepped,ih⟩
      · rfl
    | wait stop => exact ih
    | talk place count replies => exact run_append_iff.mpr ⟨_,run_talk,ih⟩

end Sctl.LteSystem
