import Sctl.LteQuestions
import Sctl.LteSystem

/-!
Band scans. A request checks the scan status, and the task that it spawns sets
it later, gives it up when the tunnel comes back before the bands are restored,
and may be declared stuck while it still runs; the status can outlive a restart,
the task does not. Between these the check is a lock: where no request falls
into one of the gaps and no restart cuts a scan off, one scan at a time changes
the modem (`Idle`, `Busy`), a refusal means that one is under way, and the bands
that it read first are the modem's again when it ends (`Restored`).
-/
namespace Sctl.BandScans
open Texts LteBands LteShared LtePrograms LteWatchdog LteQuestions LteSystem Dialogues Pools Runs

/-- A scan task is under way, named by the turn that spawned it. -/
def Scanning (provider : Provider) (n : Nat) : Prop :=
  ∃ thread request, provider.threads (.task n) = some thread ∧ thread.label = .task (.scan request)

/-- The tasks under way. -/
def tasks (provider : Provider) : List LteThread :=
  (List.range provider.turns).filterMap fun n => provider.threads (.task n)

def startsStatus : Ask → Bool
  | .shared (.scanStart _) => true
  | _ => false

/-- Some turn asked such a question. -/
def has (kind : Ask → Bool) (turns : List LteTurn) : Bool := turns.any fun turn => kind turn.question

/-- The scan has set its status to running. -/
def begun (thread : LteThread) : Bool := has startsStatus thread.asked

/-- The scan has set its status to aborted; it goes on to restore the bands. -/
def aborted (thread : LteThread) : Bool := has (· = .shared .scanAborted) thread.asked

/-- The scan is restoring the bands. -/
def restoring (turns : List LteTurn) : Bool := has (· = .restoring) turns

/-- The reply to a read of the bands. -/
def bandsReply : LteTurn → Option (Option (List Char))
  | ⟨.command .readBands,answer⟩ => some answer.value
  | _ => none

/-- The reply to the first read of the bands, those that a scan goes back to. -/
def firstRead (turns : List LteTurn) : Option (Option (List Char)) := turns.findSome? bandsReply

/-- The reply tells the bands of a mask. -/
def tells (mask : Nat) (reply : Option (List Char)) : Bool :=
  reply.any fun response => bandMask (parseBandConfig response) = mask

theorem tells_unique {mask other : Nat} {reply : Option (List Char)} (told : tells mask reply = true)
    (too : tells other reply = true) : mask = other := by
  cases reply with
  | none => cases told
  | some response => exact (of_decide_eq_true told).symm.trans (of_decide_eq_true too)

/-- The condition on an event. A request checks the status of a scan that is under way
    only after the scan has set it, before it aborts, and while it is not given up as
    stuck; a scan can read the modem's bands; at a restart no file says that a scan is
    running, and the modem has the bands that the scan under way has read. -/
def orderly (provider : Provider) : Event → Bool
  | .turn _ ⟨.shared .scanRequest,_⟩ _ => (tasks provider).all fun thread =>
      begun thread && !aborted thread && provider.shared.lte.scanStatus.all (·.state ≠ .timeout)
  | .turn (.task n) ⟨.command .readBands,answer⟩ _ => (provider.threads (.task n)).all fun thread =>
      (firstRead thread.asked).isSome || tells provider.modem.mask answer.value
  | .restart => provider.shared.dataFile.join.all (·.state ≠ .running) &&
      (tasks provider).all fun thread => (firstRead thread.asked).all (tells provider.modem.mask)
  | _ => true

/-- The commands by which a scan restores the bands succeed. -/
def restores (provider : Provider) : Event → Bool
  | .turn place ⟨.command _,answer⟩ _ =>
    (provider.threads place).all fun thread => !restoring thread.asked || answer.value.isSome
  | _ => true

/-- The events of scan requests, scans, the watchdog's checks, polls and restarts. -/
def concerns : Event → Bool
  | .begin (.scan ..) | .begin .checkScan | .begin (.poll ..) | .turn .. | .restart => true
  | .begin (.watchdog ..) | .begin (.setBands _) | .begin (.safeSetBands ..) | .begin (.detectSimChange _)
  | .begin (.task _) | .drift _ => false

/-! ### The scan status -/

/-- The status says that a scan is running. -/
def isRunning (status : Option ScanStatus) : Bool := status.any (·.state = .running)

/-- The status says that a scan is running, or was given up as stuck. -/
def inHand (status : Option ScanStatus) : Bool := status.any fun scan => scan.state = .running ∨ scan.state = .timeout

/-- The status and its file say no more of a running scan than before, and nothing ended it. -/
structure Quiet (old new : Shared) : Prop where
  running : isRunning new.lte.scanStatus = true → isRunning old.lte.scanStatus = true
  file : isRunning new.dataFile.join = true → isRunning old.dataFile.join = true ∨ isRunning old.lte.scanStatus = true
  inHand : inHand old.lte.scanStatus = true → inHand new.lte.scanStatus = true

theorem Quiet.rfl {shared : Shared} : Quiet shared shared := ⟨id,.inl,id⟩

/-- Questions that begin and end no scan. -/
def Passing : Ask → Prop
  | .shared .skipTick | .shared .polledConfig | .shared (.polled ..) | .shared .scanRequest | .shared (.scanBand _)
  | .shared (.scanProgress ..) => True
  | .shared _ => False
  | _ => True

theorem skipTick_quiet (now epoch : Nat) (lte : LteState) :
    (isRunning (skipTick now epoch lte).2.scanStatus = true → isRunning lte.scanStatus = true) ∧
      (inHand lte.scanStatus = true → inHand (skipTick now epoch lte).2.scanStatus = true) := by
  unfold skipTick
  split
  · next scan stored =>
    split
    · next running =>
      split
      · exact ⟨by simp [isRunning],by simp [inHand]⟩
      · exact ⟨id,id⟩
    · exact ⟨id,id⟩
  · next stored => split <;> exact ⟨id,id⟩

/-- An update that leaves the state of the scan says the same. -/
theorem map_quiet {update : ScanStatus → ScanStatus} (same : ∀ scan, (update scan).state = scan.state)
    (status : Option ScanStatus) : isRunning (status.map update) = isRunning status ∧ inHand (status.map update) = inHand status := by
  cases status with
  | none => exact ⟨rfl,rfl⟩
  | some scan => simp [isRunning,inHand,same]

theorem passing_quiet {shared : Shared} {turn : LteTurn} (passing : Passing turn.question) :
    Quiet shared (sharedAfter shared turn) := by
  obtain ⟨question,answer⟩ := turn
  cases question with
  | shared region =>
    cases region with
    | skipTick =>
      obtain ⟨running,kept⟩ := skipTick_quiet answer.instant answer.epoch shared.lte
      exact ⟨running,.inl,kept⟩
    | polled signal save =>
      cases save with
      | true => exact ⟨id,.inr,id⟩
      | false => exact ⟨id,.inl,id⟩
    | scanBand band =>
      obtain ⟨running,kept⟩ :=
        @map_quiet (fun scan => { scan with currentBand := some band }) (fun _ => rfl) shared.lte.scanStatus
      exact ⟨(congrArg (· = true) running).mp,.inl,(congrArg (· = true) kept).mpr⟩
    | scanProgress band results =>
      obtain ⟨running,kept⟩ :=
        @map_quiet (fun scan => { scan with bandsScanned := scan.bandsScanned ++ [band], results := results })
          (fun _ => rfl) shared.lte.scanStatus
      exact ⟨(congrArg (· = true) running).mp,.inl,(congrArg (· = true) kept).mpr⟩
    | polledConfig => exact .rfl
    | scanRequest => exact ⟨id,.inl,id⟩
    | _ => exact absurd passing id
  | _ => exact .rfl

/-- A status in hand that was not given up says that the scan is running. -/
theorem running_of_inHand {status : Option ScanStatus} (held : inHand status = true)
    (kept : status.all (·.state ≠ .timeout) = true) : status.any (·.state == .running) = true := by
  cases status with
  | none => exact absurd held Bool.false_ne_true
  | some scan => simp_all [inHand]

theorem scanAborted_running (epoch : Nat) (lte : LteState) : isRunning (scanAborted epoch lte).scanStatus = false := by
  cases stored : lte.scanStatus <;> simp [isRunning,scanAborted,stored]

theorem scanFinished_running (epoch : Nat) (results : List ScanBandResult) (lte : LteState) :
    isRunning (scanFinished epoch results lte).scanStatus = false := by
  cases stored : lte.scanStatus with
  | none => simp [isRunning,scanFinished,stored]
  | some scan => by_cases aborted : scan.state = .aborted <;> simp [isRunning,scanFinished,stored,aborted]

/-! ### What the programs ask -/

/-- What the watchdog's check and the poller ask. -/
def Bystander : Ask → Prop
  | .command (.writeBands _) | .spawn _ => False
  | .shared .skipTick | .shared .polledConfig | .shared (.polled ..) => True
  | .shared _ => False
  | _ => True

/-- What a scan asks before its last status update. -/
def ScanQuestion : Ask → Prop
  | .spawn _ => False
  | .shared (.scanStart status) => status.state = .running
  | .shared region => Telling region
  | _ => True

/-- What is left of a scan: it ends with its last status update. -/
def Closing : Lte Unit → Prop
  | .done _ => False
  | .ask question next =>
    ((∃ results, question = .shared (.scanFinished results)) ∧ ∀ answer, next answer = .done ()) ∨
      ScanQuestion question ∧ ∀ answer, Closing (next answer)

/-- What is left of a request: the check of the status, the spawn of the scan, or nothing. -/
inductive Requesting : Lte Unit → Prop where
  | checking (next : Answer (.shared .scanRequest) → Lte Unit)
      (refused : ∀ answer, answer.value = true → next answer = .done ())
      (accepted : ∀ answer, answer.value = false → Requesting (next answer)) :
      Requesting (.ask (.shared .scanRequest) next)
  | accepted (request : ScanRequest) (next : Answer (.spawn (.scan request)) → Lte Unit)
      (ends : ∀ answer, next answer = .done ()) : Requesting (.ask (.spawn (.scan request)) next)
  | ended : Requesting (.done ())

/-- The request is past the check. -/
def Accepted (rest : Lte Unit) : Prop := ∃ task next, rest = .ask (.spawn task) next

/-- The threads as they can be, by place. -/
def Shape (place : Place) (thread : LteThread) : Prop :=
  match place with
  | .watchdog | .poller => Asks Bystander thread.rest fun _ => True
  | .request => Requesting thread.rest
  | .task _ => (∃ request, thread.label = .task (.scan request)) ∧ (Closing thread.rest ∨ thread.rest = .done ())

theorem bystander_passing {question : Ask} (held : Bystander question) : Passing question := by
  cases question with
  | shared region => cases region <;> first | exact held | exact absurd held id
  | _ => trivial

theorem bystander_plain (question : Ask) (plain : Plain question) : Bystander question := by
  cases question with
  | command command =>
    cases command with
    | writeBands hex => exact absurd plain id
    | _ => trivial
  | shared region => exact absurd plain id
  | spawn task => exact absurd plain id
  | _ => trivial

theorem checkScan_asks : Asks Bystander checkScan fun _ => True := ⟨trivial,fun _ => trivial⟩

theorem poll_asks {rsrp : Option Int} {freqBand : Option Nat} {save : Bool} :
    Asks Bystander (poll rsrp freqBand save) fun _ => True := by
  have stores : ∀ signal, Asks Bystander (region (.polled signal save)) fun _ => True :=
    fun signal => asks_region.mpr ⟨trivial,fun _ => trivial⟩
  refine asks_call (alone bystander_plain trivial) fun active => ?_
  refine asks_call (alone bystander_plain trivial) fun reply => ?_
  cases reply.bind parseCsq with
  | none => trivial
  | some strength =>
    refine asks_call (send_asks bystander_plain trivial) fun _ => ?_
    split
    · exact asks_call (asks_region.mpr ⟨trivial,fun _ => trivial⟩) fun config => stores _
    · refine asks_call ?_ fun config => stores _
      refine asks_call (alone bystander_plain trivial) fun bands => ?_
      exact asks_call (alone bystander_plain trivial) fun priority => trivial

theorem scanQuestion_plain (question : Ask) (plain : Plain question) : ScanQuestion question := by
  cases question with
  | shared region => exact absurd plain id
  | spawn task => exact absurd plain id
  | _ => trivial

/-- What a scan asks passes its status by, sets it, or aborts it. -/
theorem scanQuestion_cases {question : Ask} (scanning : ScanQuestion question) :
    (Passing question ∧ startsStatus question = false ∧ question ≠ .shared .scanAborted) ∨
      (∃ status, question = .shared (.scanStart status) ∧ status.state = .running) ∨
      question = .shared .scanAborted := by
  cases question with
  | shared region =>
    cases region with
    | scanStart status => exact .inr (.inl ⟨status,rfl,scanning⟩)
    | scanAborted => exact .inr (.inr rfl)
    | scanBand band => exact .inl ⟨trivial,rfl,nofun⟩
    | scanProgress band results => exact .inl ⟨trivial,rfl,nofun⟩
    | _ => exact absurd scanning id
  | _ => exact .inl ⟨trivial,rfl,nofun⟩

theorem scanQuestion_tells (region : Region) (telling : Telling region) : ScanQuestion (.shared region) := by
  cases region <;> first | exact telling | exact absurd telling id

/-- A scan goes on after a part of it that is not its end. -/
theorem closing_call {α : Type} {first : Lte α} {rest : α → Lte Unit} (asks : Asks ScanQuestion first fun _ => True)
    (onward : ∀ value, Closing (rest value)) : Closing (first >>= rest) := by
  induction first with
  | done value => exact onward value
  | ask question next ih => exact .inr ⟨asks.1,fun answer => ih answer (asks.2 answer)⟩

theorem bandScan_closing {config : InterfaceConfig} {request : ScanRequest} : Closing (bandScan config request) := by
  have clock : Asks ScanQuestion epochNow fun _ => True := ⟨trivial,fun _ => trivial⟩
  refine closing_call clock fun startedAt => ?_
  refine closing_call (alone scanQuestion_plain trivial) fun bands => ?_
  refine closing_call (alone scanQuestion_plain trivial) fun priority => ?_
  refine closing_call (asks_region.mpr ⟨rfl,fun _ => trivial⟩) fun _ => ?_
  refine closing_call (scanBands_asks scanQuestion_plain scanQuestion_tells fun _ _ => trivial) fun results => ?_
  refine closing_call (restoreBands_asks scanQuestion_plain trivial) fun _ => ?_
  exact .inl ⟨⟨results,rfl⟩,fun _ => rfl⟩

theorem closing_live {thread : LteThread} (closing : Closing thread.rest) : thread.live = some thread := by
  unfold Thread.live
  split
  · next left =>
    rw [left] at closing
    exact absurd closing id
  · rfl

theorem scan_requesting (config : LteConfig) {request : ScanRequest} {tunnelUp : Bool} :
    Requesting (Job.program config (.scan request tunnelUp)) := by
  change Requesting (LtePrograms.scan request tunnelUp >>= fun _ => pure ())
  unfold LtePrograms.scan
  split
  · exact .ended
  · refine .checking _ ?_ ?_
    · rintro ⟨_,_,_⟩ ⟨⟩
      rfl
    · rintro ⟨_,_,_⟩ ⟨⟩
      exact .accepted request _ fun _ => rfl

theorem scan_unasked (config : LteConfig) {request : ScanRequest} {tunnelUp : Bool} :
    ¬ Accepted (Job.program config (.scan request tunnelUp)) := by
  rintro ⟨task,next,same⟩
  change (LtePrograms.scan request tunnelUp >>= fun _ => pure ()) = _ at same
  unfold LtePrograms.scan at same
  split at same <;> cases same

/-! ### One scan at a time -/

/-- No scan is under way, and neither the status nor its file says so. -/
structure Idle (provider : Provider) : Prop where
  none : ∀ n, provider.threads (.task n) = none
  status : isRunning provider.shared.lte.scanStatus = false
  file : isRunning provider.shared.dataFile.join = false

/-- One scan is under way, and no request is past the check; what says that a scan is
    running speaks of this one, which keeps the status in hand until it aborts. -/
structure Busy (provider : Provider) (n : Nat) (thread : LteThread) : Prop where
  found : provider.threads (.task n) = some thread
  only : ∀ other task, provider.threads (.task other) = some task → other = n
  early : n < provider.turns
  unasked : ∀ asking, provider.threads .request = some asking → ¬ Accepted asking.rest
  status : isRunning provider.shared.lte.scanStatus = true → begun thread = true
  file : isRunning provider.shared.dataFile.join = true → begun thread = true
  lock : begun thread = true → aborted thread = false → inHand provider.shared.lte.scanStatus = true

/-- The invariant of the lock. -/
structure Exclusive (provider : Provider) : Prop where
  shapes : Everywhere Shape provider.threads
  lock : Idle provider ∨ ∃ n thread, Busy provider n thread

section
variable {provider next : Provider} {n : Nat} {thread later : LteThread}

/-- An event that leaves the tasks alone. -/
theorem Idle.frame (idle : Idle provider) (same : ∀ n, next.threads (.task n) = provider.threads (.task n))
    (quiet : Quiet provider.shared next.shared) : Idle next where
  none n := (same n).trans (idle.none n)
  status := Bool.eq_false_iff.mpr fun running => by simpa [idle.status] using quiet.running running
  file := Bool.eq_false_iff.mpr fun running => by simpa [idle.file,idle.status] using quiet.file running

theorem Busy.frame (busy : Busy provider n thread) (same : ∀ n, next.threads (.task n) = provider.threads (.task n))
    (turns : provider.turns ≤ next.turns)
    (unasked : ∀ asking, next.threads .request = some asking → ¬ Accepted asking.rest)
    (quiet : Quiet provider.shared next.shared) : Busy next n thread where
  found := (same n).trans busy.found
  only other task has := busy.only other task ((same other).symm.trans has)
  early := busy.early.trans_le turns
  unasked := unasked
  status running := busy.status (quiet.running running)
  file running := (quiet.file running).elim busy.file busy.status
  lock begun going := quiet.inHand (busy.lock begun going)

/-- The lock over an event that leaves the tasks alone. -/
theorem Exclusive.frame (exclusive : Exclusive provider) (shapes : Everywhere Shape next.threads)
    (same : ∀ n, next.threads (.task n) = provider.threads (.task n)) (turns : provider.turns ≤ next.turns)
    (unasked : ∀ n thread, Busy provider n thread → ∀ asking, next.threads .request = some asking → ¬ Accepted asking.rest)
    (quiet : Quiet provider.shared next.shared) : Exclusive next := by
  refine ⟨shapes,?_⟩
  rcases exclusive.lock with idle | ⟨n,thread,busy⟩
  · exact .inl (idle.frame same quiet)
  · exact .inr ⟨n,thread,busy.frame same turns (unasked n thread busy) quiet⟩

/-- The scan under way goes on. -/
theorem Busy.onward (busy : Busy provider n thread) (live : later.live = some later)
    (threads : next.threads = put provider.threads (.task n) later) (turns : provider.turns ≤ next.turns)
    (status : isRunning next.shared.lte.scanStatus = true → begun later = true)
    (file : isRunning next.shared.dataFile.join = true → begun later = true)
    (lock : begun later = true → aborted later = false → inHand next.shared.lte.scanStatus = true) :
    Busy next n later where
  found := by rw [threads,put,Function.update_self,live]
  only other task has := by
    rw [threads] at has
    rcases put_some has with ⟨same,_⟩ | ⟨_,had⟩
    · exact Place.task.inj same
    · exact busy.only other task had
  early := busy.early.trans_le turns
  unasked asking has := by
    have elsewhere : Place.request ≠ .task n := by simp
    rw [threads,put_other elsewhere] at has
    exact busy.unasked asking has
  status := status
  file := file
  lock := lock

/-- A task under way is the one of the lock. -/
theorem Exclusive.busy (exclusive : Exclusive provider) (has : provider.threads (.task n) = some thread) :
    Busy provider n thread := by
  rcases exclusive.lock with idle | ⟨m,held,busy⟩
  · exact absurd ((idle.none n).symm.trans has) nofun
  · obtain rfl := busy.only n thread has
    obtain rfl := Option.some.inj (busy.found.symm.trans has)
    exact busy

theorem Busy.mem_tasks (busy : Busy provider n thread) : thread ∈ tasks provider :=
  List.mem_filterMap.mpr ⟨n,List.mem_range.mpr busy.early,busy.found⟩

theorem begun_after {turn : LteTurn} {rest : Lte Unit} :
    begun (thread.after turn rest) = (begun thread || startsStatus turn.question) := by
  simp [begun,has,Thread.after]

theorem aborted_after {turn : LteTurn} {rest : Lte Unit} :
    aborted (thread.after turn rest) = (aborted thread || decide (turn.question = .shared .scanAborted)) := by
  simp [aborted,has,Thread.after]

end

/-- The provider after a turn of the thread at a place. -/
def turned (config : LteConfig) (provider : Provider) (place : Place) (later : LteThread) (turn : LteTurn) (took : Bool) :
    Provider where
  shared := sharedAfter provider.shared turn
  modem := modemAfter provider.modem turn took
  clock := turn.answer.instant
  threads := spawnedBy config provider.turns turn (put provider.threads place later)
  turns := provider.turns + 1

theorem spawnedBy_other {config : LteConfig} {turns : Nat} {turn : LteTurn} {threads : Pool Ask Answer Job Place}
    (other : ∀ task, turn.question ≠ .spawn task) : spawnedBy config turns turn threads = threads := by
  unfold spawnedBy
  split
  · next task asked => exact absurd asked (other task)
  · rfl

section
variable {config : LteConfig} {provider next : Provider}

/-- After a turn that spawns nothing there are the thread that made it and those that waited. -/
theorem turned_some {place other : Place} {later found : LteThread} {turn : LteTurn} {took : Bool}
    (calm : ∀ task, turn.question ≠ .spawn task)
    (has : (turned config provider place later turn took).threads other = some found) :
    (other = place ∧ found = later) ∨ (other ≠ place ∧ provider.threads other = some found) := by
  rw [turned,spawnedBy_other calm] at has
  exact put_some has

theorem turned_self {place : Place} {later : LteThread} {turn : LteTurn} {took : Bool}
    (calm : ∀ task, turn.question ≠ .spawn task) : (turned config provider place later turn took).threads place = later.live := by
  rw [turned,spawnedBy_other calm]
  exact Function.update_self ..

/-- A spawn adds the new task to these. -/
theorem spawned_some {place other : Place} {later found : LteThread} {task : Task} {reply : Answer (.spawn task)}
    {took : Bool} (has : (turned config provider place later ⟨.spawn task,reply⟩ took).threads other = some found) :
    (other = .task provider.turns ∧ found = .begin (.task task) (task.program config.interface)) ∨
      (other ≠ .task provider.turns ∧ put provider.threads place later other = some found) :=
  put_some has

theorem turned_other {place other : Place} {later : LteThread} {turn : LteTurn} {took : Bool}
    (calm : ∀ task, turn.question ≠ .spawn task) (different : other ≠ place) :
    (turned config provider place later turn took).threads other = provider.threads other := by
  rw [turned,spawnedBy_other calm]
  exact put_other different

/-- A job that begins takes a place of its own, and a request begins before the check. -/
theorem exclusive_begin {job : Job} (exclusive : Exclusive provider) (concerned : concerns (.begin job) = true)
    (stepped : step config provider (.begin job) = some next) : Exclusive next := by
  obtain ⟨place,placed,_,rfl⟩ := step_begin.mp stepped
  have shape : Shape place (.begin job (job.program config)) ∧ ∀ n, place ≠ .task n := by
    cases job with
    | checkScan =>
      cases placed
      exact ⟨checkScan_asks,nofun⟩
    | poll rsrp freqBand save =>
      cases placed
      exact ⟨poll_asks,nofun⟩
    | scan request tunnelUp =>
      cases placed
      exact ⟨scan_requesting config,nofun⟩
    | _ => cases concerned
  refine exclusive.frame (everywhere_put exclusive.shapes shape.1 fun _ _ _ held => held)
    (fun n => put_other (shape.2 n).symm) le_rfl (fun n thread busy asking has => ?_) .rfl
  rcases put_some has with ⟨rfl,rfl⟩ | ⟨_,had⟩
  · cases job with
    | scan request tunnelUp => exact scan_unasked config
    | checkScan | poll rsrp freqBand save => cases placed
    | _ => cases concerned
  · exact busy.unasked asking had

/-- A turn of the watchdog or the poller leaves the lock as it is. -/
theorem exclusive_aside {place : Place} {thread : LteThread} {question : Ask} {follow : Answer question → Lte Unit}
    {reply : Answer question} {took : Bool} (exclusive : Exclusive provider) (noTask : ∀ n, Place.task n ≠ place)
    (noRequest : Place.request ≠ place) (asks : Asks Bystander (.ask question follow) fun _ => True)
    (shape : Asks Bystander (follow reply) (fun _ => True) → Shape place (thread.after ⟨question,reply⟩ (follow reply))) :
    Exclusive (turned config provider place (thread.after ⟨question,reply⟩ (follow reply)) ⟨question,reply⟩ took) := by
  have calm : ∀ task, question ≠ .spawn task := by
    rintro task rfl
    exact asks.1
  refine exclusive.frame (everywhere_turn exclusive.shapes (shape (asks.2 reply)) (fun _ _ _ held => held)
    fun task spawned => absurd spawned (calm task)) (fun n => turned_other calm (noTask n)) (Nat.le_succ _)
    (fun n busyThread busy asking has => ?_) (passing_quiet (bystander_passing asks.1))
  exact busy.unasked asking ((turned_other calm noRequest).symm.trans has)

/-- A turn of a request: it checks the status when no scan is under way or one holds the
    lock, and what it spawns is the only scan. -/
theorem exclusive_request {thread : LteThread} {question : Ask} {follow : Answer question → Lte Unit}
    {reply : Answer question} {took : Bool} (exclusive : Exclusive provider)
    (has : provider.threads .request = some thread) (left : thread.rest = .ask question follow)
    (met : orderly provider (.turn .request ⟨question,reply⟩ took) = true)
    (told : Told provider.shared ⟨question,reply⟩) :
    Exclusive (turned config provider .request (thread.after ⟨question,reply⟩ (follow reply)) ⟨question,reply⟩ took) := by
  have noTask : ∀ {n}, Place.task n ≠ .request := nofun
  have shape : Requesting thread.rest := exclusive.shapes .request thread has
  rw [left] at shape
  cases shape with
  | checking follow refused accepted =>
    have onward : Requesting (follow reply) := by
      cases value : reply.value with
      | true => exact refused reply value ▸ .ended
      | false => exact accepted reply value
    have calm : ∀ task, Ask.shared .scanRequest ≠ .spawn task := by simp
    have quiet : Quiet provider.shared (sharedAfter provider.shared ⟨.shared .scanRequest,reply⟩) := passing_quiet trivial
    refine exclusive.frame (everywhere_put exclusive.shapes onward fun _ _ _ held => held)
      (fun n => turned_other calm noTask) (Nat.le_succ _) (fun n scan busy asking found => ?_) quiet
    rcases turned_some calm found with ⟨_,rfl⟩ | ⟨different,_⟩
    · have held := List.all_eq_true.mp met scan busy.mem_tasks
      simp only [Bool.and_eq_true,Bool.not_eq_true'] at held
      have running : reply.value = true := told.trans (running_of_inHand (busy.lock held.1.1 held.1.2) held.2)
      rintro ⟨task,next,goesOn⟩
      exact nomatch (refused reply running).symm.trans goesOn
    · exact absurd rfl different
  | accepted request follow ends =>
    have answering : Requesting (follow reply) := ends reply ▸ .ended
    rcases exclusive.lock with idle | ⟨n,scan,busy⟩
    · have shape : Shape (.task provider.turns) (.begin (.task (.scan request)) (bandScan config.interface request)) :=
        ⟨⟨request,rfl⟩,.inl bandScan_closing⟩
      have answered : Everywhere Shape (put provider.threads .request (thread.after ⟨.spawn (.scan request),reply⟩ (follow reply))) :=
        everywhere_put exclusive.shapes answering fun _ _ _ held => held
      refine ⟨everywhere_put answered shape fun _ _ _ held => held,
        .inr ⟨provider.turns,.begin (.task (.scan request)) (bandScan config.interface request),?_⟩⟩
      exact {
        found := by
          have live := @closing_live (.begin (.task (.scan request)) (bandScan config.interface request)) bandScan_closing
          exact (Function.update_self ..).trans live
        only := by
          intro other task held
          rcases spawned_some held with ⟨same,_⟩ | ⟨_,had⟩
          · exact Place.task.inj same
          · exact absurd ((idle.none other).symm.trans ((put_other noTask).symm.trans had)) nofun
        early := Nat.lt_succ_self _
        unasked := by
          intro asking held
          rcases spawned_some held with ⟨same,_⟩ | ⟨_,waited⟩
          · cases same
          rcases put_some waited with ⟨_,rfl⟩ | ⟨different,_⟩
          · rintro ⟨task,next,goesOn⟩
            exact nomatch (ends reply).symm.trans goesOn
          · exact absurd rfl different
        status := fun running => absurd (idle.status.symm.trans running) Bool.false_ne_true
        file := fun running => absurd (idle.file.symm.trans running) Bool.false_ne_true
        lock := nofun }
    · exact absurd ⟨_,_,left⟩ (busy.unasked thread has)

/-- A turn of the scan under way: it goes on, or it ends with its last status update. -/
theorem exclusive_task {n : Nat} {thread : LteThread} {question : Ask} {follow : Answer question → Lte Unit}
    {reply : Answer question} {took : Bool} (exclusive : Exclusive provider)
    (has : provider.threads (.task n) = some thread) (left : thread.rest = .ask question follow) :
    Exclusive (turned config provider (.task n) (thread.after ⟨question,reply⟩ (follow reply)) ⟨question,reply⟩ took) := by
  have busy := exclusive.busy has
  obtain ⟨label,closing⟩ : (∃ request, thread.label = .task (.scan request)) ∧ (Closing thread.rest ∨ thread.rest = .done ()) :=
    exclusive.shapes (.task n) thread has
  rw [left] at closing
  rcases closing with (⟨⟨results,rfl⟩,ends⟩ | ⟨scanning,goesOn⟩) | ended
  · refine ⟨everywhere_put exclusive.shapes ⟨label,.inr (ends reply)⟩ fun _ _ _ held => held,.inl ⟨fun m => ?_,?_,?_⟩⟩
    · by_cases same : m = n
      · subst same
        exact (Function.update_self ..).trans (by simp [Thread.live,Thread.after,ends])
      · have calm : ∀ task, Ask.shared (.scanFinished results) ≠ .spawn task := nofun
        refine (turned_other calm (mt Place.task.inj same)).trans ?_
        exact Option.eq_none_iff_forall_ne_some.mpr fun other held => same (busy.only m other held)
    · exact scanFinished_running ..
    · exact scanFinished_running ..
  · have calm : ∀ task, question ≠ .spawn task := by
      rintro task rfl
      exact scanning
    have live := @closing_live (thread.after ⟨question,reply⟩ (follow reply)) (goesOn reply)
    rw [turned,spawnedBy_other calm]
    refine ⟨everywhere_put exclusive.shapes ⟨label,.inl (goesOn reply)⟩ fun _ _ _ held => held,
      .inr ⟨n,thread.after ⟨question,reply⟩ (follow reply),?_⟩⟩
    rcases scanQuestion_cases scanning with ⟨passing,silent,going⟩ | ⟨status,rfl,set⟩ | rfl
    · have quiet : Quiet provider.shared (sharedAfter provider.shared ⟨question,reply⟩) := passing_quiet passing
      have same : begun (thread.after ⟨question,reply⟩ (follow reply)) = begun thread := by
        rw [begun_after,silent,Bool.or_false]
      refine busy.onward live rfl (Nat.le_succ _) (fun running => same.trans (busy.status (quiet.running running)))
        (fun running => same.trans ((quiet.file running).elim busy.file busy.status)) fun held notAborted => ?_
      rw [aborted_after,Bool.or_eq_false_iff] at notAborted
      exact quiet.inHand (busy.lock (same.symm.trans held) notAborted.1)
    · have starts : begun (thread.after ⟨.shared (.scanStart status),reply⟩ (follow reply)) = true := by
        rw [begun_after]
        exact Bool.or_true _
      refine busy.onward live rfl (Nat.le_succ _) (fun _ => starts) (fun _ => starts) fun _ _ => ?_
      simp [access,inHand,set]
    · refine busy.onward live rfl (Nat.le_succ _) (fun running => ?_) (fun running => ?_) fun _ notAborted => ?_
      · exact absurd ((scanAborted_running ..).symm.trans running) Bool.false_ne_true
      · rw [begun_after,busy.file running,Bool.true_or]
      · simp [aborted_after] at notAborted
  · cases ended

/-- A turn keeps the lock. -/
theorem exclusive_turn {place : Place} {turn : LteTurn} {took : Bool} (exclusive : Exclusive provider)
    (met : orderly provider (.turn place turn took) = true)
    (stepped : step config provider (.turn place turn took) = some next) : Exclusive next := by
  obtain ⟨thread,question,follow,reply,has,left,rfl,_,told,rfl⟩ := step_turn.mp stepped
  have shape := exclusive.shapes place thread has
  cases place with
  | watchdog => exact exclusive_aside exclusive nofun nofun (left ▸ shape) id
  | poller => exact exclusive_aside exclusive nofun nofun (left ▸ shape) id
  | request => exact exclusive_request exclusive has left met told
  | task n => exact exclusive_task exclusive has left

/-- An event under the condition keeps the lock. -/
theorem step_exclusive {event : Event} (exclusive : Exclusive provider) (met : orderly provider event = true)
    (concerned : concerns event = true) (stepped : step config provider event = some next) : Exclusive next := by
  cases event with
  | begin job => exact exclusive_begin exclusive concerned stepped
  | turn place turn took => exact exclusive_turn exclusive met stepped
  | drift modem => cases concerned
  | restart =>
    cases stepped
    have unsaid : isRunning provider.shared.dataFile.join = false := by
      have held := (Bool.and_eq_true_iff.mp met).1
      cases saved : provider.shared.dataFile.join with
      | none => rfl
      | some scan => simpa [saved,isRunning] using held
    exact ⟨nofun,.inl ⟨fun _ => rfl,unsaid,unsaid⟩⟩

end

/-! ### What a scan writes -/

/-- What is remembered of a scan: its turns, and whether the modem has the bands of before,
    as far as the scan's own writes go. -/
structure ScanSeen where
  asked : List LteTurn
  clean : Bool

/-- The write was answered, and wrote the mask. -/
def wrote (mask : Nat) (hex : List Char) (reply : Option (List Char)) : Bool :=
  reply.isSome && fromStrRadix 16 (2 ^ 128) hex = some mask

/-- The scan knows the bands of the mask. -/
def Known (mask : Nat) (seen : ScanSeen) : Prop := (firstRead seen.asked).any (tells mask) = true

/-- The watch over a scan of a modem with the mask: it can read the bands, and restore them;
    before it has read them it writes none. -/
def scanWatch (mask : Nat) : Watch Ask Answer ScanSeen where
  allows seen turn :=
    match turn with
    | ⟨.command sent,answer⟩ =>
      (sent = .readBands → firstRead seen.asked = none → tells mask answer.value = true) ∧
        (restoring seen.asked = true → answer.value.isSome = true)
    | _ => True
  track seen turn := {
    asked := seen.asked ++ [turn]
    clean :=
      match turn with
      | ⟨.command (.writeBands hex),answer⟩ => wrote mask hex answer.value
      | _ => seen.clean }
  fine seen := Known mask seen ∨ (firstRead seen.asked = none ∧ seen.clean = true)

section
variable {mask : Nat} {seen : ScanSeen} {config : InterfaceConfig} {original : List Nat} {priority : Option Nat}

theorem bandMask_lt (bands : List Nat) : bandMask bands < 2 ^ 128 := by
  refine Nat.lt_pow_two_of_testBit _ fun bit large => ?_
  rw [testBit_bandMask,decide_eq_false_iff_not]
  omega

theorem firstRead_append {turns : List LteTurn} {turn : LteTurn} :
    firstRead (turns ++ [turn]) = (firstRead turns).or (bandsReply turn) := by
  rw [firstRead,List.findSome?_append]
  cases found : bandsReply turn <;> simp [found,firstRead]

theorem known_track {turn : LteTurn} (known : Known mask seen) : Known mask ((scanWatch mask).track seen turn) := by
  unfold Known at known ⊢
  rw [scanWatch,firstRead_append]
  cases found : firstRead seen.asked with
  | none => simp [found] at known
  | some reply => simpa [found] using known

theorem restoring_track {turn : LteTurn} (back : restoring seen.asked = true) :
    restoring ((scanWatch mask).track seen turn).asked = true := by
  simp [scanWatch,restoring,has] at back ⊢
  exact .inl back

/-- While the scan restores the bands, a write of the mask keeps the modem as it is. -/
theorem clean_track {turn : LteTurn} (same : seen.clean = true) (back : restoring seen.asked = true)
    (writes : ∀ hex, turn.question = .command (.writeBands hex) → fromStrRadix 16 (2 ^ 128) hex = some mask)
    (allowed : (scanWatch mask).allows seen turn) : ((scanWatch mask).track seen turn).clean = true := by
  obtain ⟨question,answer⟩ := turn
  cases question with
  | command sent =>
    cases sent with
    | writeBands hex => exact Bool.and_eq_true_iff.mpr ⟨allowed.2 back,decide_eq_true (writes hex rfl)⟩
    | _ => exact same
  | _ => exact same

/-- Once the bands are known, whatever a program does they stay known. -/
theorem known_guarantees {α : Type} (program : Lte α) (known : Known mask seen) :
    Guarantees (scanWatch mask) program seen fun _ later => Known mask later := by
  have asks : Asks (fun _ => True) program fun _ => True := asks_anything fun _ => trivial
  refine guarantees_mono (guarantees_of_asks ?_ asks known) fun _ _ held => held.2
  exact fun memory turn held _ _ => ⟨Or.inl (known_track held),known_track held⟩

/-- The end of a scan writes the bands that it knows. -/
theorem restoreBands_guarantees (known : Known mask seen) (same : bandMask original = mask) :
    Guarantees (scanWatch mask) (restoreBands config original priority) seen fun _ later =>
      Known mask later ∧ later.clean = true := by
  let writesMask : Ask → Prop := fun question => ∀ hex, question = .command (.writeBands hex) →
    fromStrRadix 16 (2 ^ 128) hex = some mask
  have written : fromStrRadix 16 (2 ^ 128) (bandsToHex original) = some mask := by
    rw [← same]
    exact fromStrRadix_upperHex (bandMask_lt original)
  have asks : Asks writesMask (restoreBands config original priority) fun _ => True := by
    refine restoreBands_asks (fun question plain hex asked => ?_) fun hex asked => ?_
    · subst asked
      exact absurd plain id
    · cases asked
      exact written
  let clean : ScanSeen → Prop := fun seen => Known mask seen ∧ restoring seen.asked = true ∧ seen.clean = true
  have keeps : ∀ memory turn, clean memory → writesMask turn.question → (scanWatch mask).allows memory turn →
      (scanWatch mask).fine ((scanWatch mask).track memory turn) ∧ clean ((scanWatch mask).track memory turn) := by
    rintro memory turn ⟨known,back,same⟩ writes allowed
    exact ⟨Or.inl (known_track known),known_track known,restoring_track back,clean_track same back writes allowed⟩
  -- the first write is answered, and from then on the modem has the mask
  intro started _
  refine ⟨Or.inl (known_track known),fun answer allowed => ⟨Or.inl (known_track (known_track known)),?_⟩⟩
  have back : restoring (seen.asked ++ [⟨.restoring,started⟩]) = true := by simp [restoring,has]
  refine guarantees_mono (guarantees_of_asks keeps ((asks.2 started).2 answer) ?_) fun _ _ held => ⟨held.2.1,held.2.2.2⟩
  refine ⟨known_track (known_track known),restoring_track back,?_⟩
  exact Bool.and_eq_true_iff.mpr ⟨allowed.2 back,decide_eq_true written⟩

theorem bandScan_guarantees {request : ScanRequest} :
    Guarantees (scanWatch mask) (bandScan config request) ⟨[],true⟩ fun _ later => later.clean = true := by
  refine guarantees_epochNow.mpr fun started _ => ⟨.inr ⟨rfl,rfl⟩,?_⟩
  refine guarantees_command.mpr fun answer allowed => ?_
  have told : tells mask answer.value = true := allowed.1 rfl rfl
  obtain ⟨instant,epoch,_ | response⟩ := answer
  · cases told
  have known : Known mask ((scanWatch mask).track ((scanWatch mask).track ⟨[],true⟩ ⟨.clock,started⟩)
    ⟨.command .readBands,⟨instant,epoch,some response⟩⟩) := told
  have same : bandMask (parseBandConfig response) = mask := of_decide_eq_true told
  refine ⟨.inl known,?_⟩
  refine guarantees_call (known_guarantees _ known) fun priority later known => ?_
  refine guarantees_call (known_guarantees _ known) fun _ later known => ?_
  refine guarantees_call (known_guarantees _ known) fun results later known => ?_
  refine guarantees_call (restoreBands_guarantees known same) fun _ later back => ?_
  exact fun _ _ => ⟨.inl (known_track back.1),back.2⟩

end

/-! ### The bands of before -/

/-- What is remembered of a scan thread. -/
def seenOf (mask : Nat) (thread : LteThread) : ScanSeen := thread.asked.foldl (scanWatch mask).track ⟨[],true⟩

/-- The scan brings back the mask: it has read it or written nothing, and ends with it. -/
structure Returns (mask : Nat) (modem : Modem) (thread : LteThread) : Prop where
  rest : Guarantees (scanWatch mask) thread.rest (seenOf mask thread) fun _ later => later.clean = true
  fine : (scanWatch mask).fine (seenOf mask thread)
  modem : (seenOf mask thread).clean = true → modem.mask = mask

/-- The modem has the mask when no scan is under way, and the one under way brings it back. -/
structure Restored (mask : Nat) (provider : Provider) : Prop where
  idle : (∀ n, provider.threads (.task n) = none) → provider.modem.mask = mask
  scan : ∀ n thread, provider.threads (.task n) = some thread → Returns mask provider.modem thread

section
variable {config : LteConfig} {provider next : Provider} {mask : Nat} {thread : LteThread}

theorem seenOf_asked : (seenOf mask thread).asked = thread.asked := by
  have all : ∀ (turns : List LteTurn) (seen : ScanSeen),
      (turns.foldl (scanWatch mask).track seen).asked = seen.asked ++ turns := by
    intro turns
    induction turns with
    | nil => simp
    | cons turn turns ih =>
      intro seen
      rw [List.foldl_cons,ih]
      simp [scanWatch]
  exact all thread.asked ⟨[],true⟩

theorem seenOf_after {turn : LteTurn} {rest : Lte Unit} :
    seenOf mask (thread.after turn rest) = (scanWatch mask).track (seenOf mask thread) turn := by
  simp [seenOf,Thread.after]

/-- A question that writes no bands leaves the mask. -/
theorem modemAfter_mask {modem : Modem} {turn : LteTurn} {took : Bool}
    (other : ∀ hex, turn.question ≠ .command (.writeBands hex)) : (modemAfter modem turn took).mask = modem.mask := by
  obtain ⟨question,answer⟩ := turn
  cases question with
  | command sent =>
    cases sent with
    | writeBands hex => exact absurd rfl (other hex)
    | writePriority band =>
      unfold modemAfter
      dsimp only
      split <;> rfl
    | _ => rfl
  | _ => rfl

theorem clean_other {seen : ScanSeen} {turn : LteTurn} (other : ∀ hex, turn.question ≠ .command (.writeBands hex)) :
    ((scanWatch mask).track seen turn).clean = seen.clean := by
  obtain ⟨question,answer⟩ := turn
  cases question with
  | command sent =>
    cases sent with
    | writeBands hex => exact absurd rfl (other hex)
    | _ => rfl
  | _ => rfl

/-- An event that leaves the tasks and the mask alone. -/
theorem Restored.frame (restored : Restored mask provider)
    (same : ∀ n, next.threads (.task n) = provider.threads (.task n)) (kept : next.modem.mask = provider.modem.mask) :
    Restored mask next where
  idle none := kept.trans (restored.idle fun n => (same n).symm.trans (none n))
  scan n thread has := by
    obtain ⟨rest,fine,modem⟩ := restored.scan n thread ((same n).symm.trans has)
    exact ⟨rest,fine,fun clean => kept.trans (modem clean)⟩

/-- A turn of the scan under way, as the conditions allow it. -/
theorem Returns.turn {modem : Modem} {question : Ask} {follow : Answer question → Lte Unit} {reply : Answer question}
    {took : Bool} (returns : Returns mask modem thread) (left : thread.rest = .ask question follow)
    (allowed : (scanWatch mask).allows (seenOf mask thread) ⟨question,reply⟩) :
    Returns mask (modemAfter modem ⟨question,reply⟩ took) (thread.after ⟨question,reply⟩ (follow reply)) := by
  have rest := returns.rest
  rw [left] at rest
  obtain ⟨fine,onward⟩ := rest reply allowed
  refine ⟨?_,?_,?_⟩
  · rw [seenOf_after]
    exact onward
  · rw [seenOf_after]
    exact fine
  · rw [seenOf_after]
    intro clean
    by_cases write : ∃ hex, question = .command (.writeBands hex)
    · obtain ⟨hex,rfl⟩ := write
      obtain ⟨answered,written⟩ := Bool.and_eq_true_iff.mp clean
      rw [modemAfter,if_pos (.inr answered),of_decide_eq_true written,Option.getD_some]
    · have other : ∀ hex, question ≠ .command (.writeBands hex) := fun hex asked => write ⟨hex,asked⟩
      rw [clean_other other] at clean
      exact (modemAfter_mask other).trans (returns.modem clean)

/-- What the conditions say of a turn of the scan under way. -/
theorem Returns.allows {n : Nat} {turn : LteTurn} {took : Bool} (returns : Returns mask provider.modem thread)
    (has : provider.threads (.task n) = some thread) (met : orderly provider (.turn (.task n) turn took) = true)
    (kept : restores provider (.turn (.task n) turn took) = true) : (scanWatch mask).allows (seenOf mask thread) turn := by
  obtain ⟨question,answer⟩ := turn
  cases question with
  | command sent =>
    refine ⟨?_,fun back => ?_⟩
    · rintro rfl unread
      have told : tells provider.modem.mask answer.value = true := by
        rw [seenOf_asked] at unread
        simpa [orderly,has,unread] using met
      rcases returns.fine with known | ⟨_,clean⟩
      · simp [Known,unread] at known
      · rwa [returns.modem clean] at told
    · rw [seenOf_asked] at back
      simpa [restores,has,back] using kept
  | _ => trivial

/-- The scan that is spawned while no scan is under way. -/
theorem returns_begin {modem : Modem} {request : ScanRequest} (same : modem.mask = mask) :
    Returns mask modem (.begin (.task (.scan request)) (bandScan config.interface request)) :=
  ⟨bandScan_guarantees,.inr ⟨rfl,rfl⟩,fun _ => same⟩

theorem restored_aside {place : Place} {question : Ask} {follow : Answer question → Lte Unit} {reply : Answer question}
    {took : Bool} (restored : Restored mask provider) (noTask : ∀ n, Place.task n ≠ place)
    (asks : Asks Bystander (.ask question follow) fun _ => True) :
    Restored mask (turned config provider place (thread.after ⟨question,reply⟩ (follow reply)) ⟨question,reply⟩ took) := by
  have calm : ∀ task, question ≠ .spawn task := by
    rintro task rfl
    exact asks.1
  have writesNone : ∀ hex, question ≠ .command (.writeBands hex) := by
    rintro hex rfl
    exact asks.1
  exact restored.frame (fun n => turned_other calm (noTask n)) (modemAfter_mask writesNone)

theorem restored_request {question : Ask} {follow : Answer question → Lte Unit} {reply : Answer question} {took : Bool}
    (exclusive : Exclusive provider) (restored : Restored mask provider)
    (has : provider.threads .request = some thread) (left : thread.rest = .ask question follow) :
    Restored mask (turned config provider .request (thread.after ⟨question,reply⟩ (follow reply)) ⟨question,reply⟩ took) := by
  have noTask : ∀ {n}, Place.task n ≠ .request := nofun
  have shape : Requesting thread.rest := exclusive.shapes .request thread has
  rw [left] at shape
  cases shape with
  | checking follow refused accepted =>
    have calm : ∀ task, Ask.shared .scanRequest ≠ .spawn task := by simp
    exact restored.frame (fun n => turned_other calm noTask) rfl
  | accepted request follow ends =>
    rcases exclusive.lock with idle | ⟨n,scan,busy⟩
    · have same : provider.modem.mask = mask := restored.idle idle.none
      refine ⟨fun _ => same,fun n found held => ?_⟩
      rcases spawned_some held with ⟨_,rfl⟩ | ⟨_,had⟩
      · exact returns_begin same
      · exact absurd ((idle.none n).symm.trans ((put_other noTask).symm.trans had)) nofun
    · exact absurd ⟨_,_,left⟩ (busy.unasked thread has)

theorem restored_task {n : Nat} {question : Ask} {follow : Answer question → Lte Unit} {reply : Answer question}
    {took : Bool} (exclusive : Exclusive provider) (restored : Restored mask provider)
    (has : provider.threads (.task n) = some thread) (left : thread.rest = .ask question follow)
    (met : orderly provider (.turn (.task n) ⟨question,reply⟩ took) = true)
    (kept : restores provider (.turn (.task n) ⟨question,reply⟩ took) = true) :
    Restored mask (turned config provider (.task n) (thread.after ⟨question,reply⟩ (follow reply)) ⟨question,reply⟩ took) := by
  have returns := restored.scan n thread has
  have onward := @Returns.turn _ _ _ _ _ reply took returns left (returns.allows has met kept)
  have closing : Closing thread.rest ∨ thread.rest = .done () := (exclusive.shapes (.task n) thread has).2
  rw [left] at closing
  have calm : ∀ task, question ≠ .spawn task := by
    rintro task rfl
    rcases closing with (⟨⟨_,ending⟩,_⟩ | ⟨scanning,_⟩) | ended
    · cases ending
    · exact scanning
    · cases ended
  refine ⟨fun none => ?_,fun m found held => ?_⟩
  · have ended : follow reply = .done () := Thread.live_eq_none ((turned_self calm).symm.trans (none n))
    have rest : Guarantees (scanWatch mask) (follow reply) _ fun _ later => later.clean = true := onward.rest
    rw [ended] at rest
    exact onward.modem rest
  · rcases turned_some calm held with ⟨_,rfl⟩ | ⟨different,had⟩
    · exact onward
    · exact absurd (congrArg Place.task ((exclusive.busy has).only m found had)) different

/-- An event under the conditions keeps the promise to restore. -/
theorem step_restored {event : Event} (exclusive : Exclusive provider) (restored : Restored mask provider)
    (met : orderly provider event = true) (kept : restores provider event = true) (concerned : concerns event = true)
    (stepped : step config provider event = some next) : Restored mask next := by
  cases event with
  | begin job =>
    obtain ⟨place,placed,_,rfl⟩ := step_begin.mp stepped
    have noTask : ∀ n, Place.task n ≠ place := by
      cases job <;> first | (cases placed; nofun) | cases placed
    exact restored.frame (fun n => put_other (noTask n)) rfl
  | turn place turn took =>
    obtain ⟨thread,question,follow,reply,has,left,rfl,_,_,rfl⟩ := step_turn.mp stepped
    have shape := exclusive.shapes place thread has
    cases place with
    | watchdog => exact restored_aside restored nofun (left ▸ shape)
    | poller => exact restored_aside restored nofun (left ▸ shape)
    | request => exact restored_request exclusive restored has left
    | task n => exact restored_task exclusive restored has left met kept
  | drift modem => cases concerned
  | restart =>
    cases stepped
    have same : provider.modem.mask = mask := by
      rcases exclusive.lock with idle | ⟨n,scan,busy⟩
      · exact restored.idle idle.none
      · have returns := restored.scan n scan busy.found
        have held := List.all_eq_true.mp (Bool.and_eq_true_iff.mp met).2 scan busy.mem_tasks
        rcases returns.fine with known | ⟨_,clean⟩
        · rw [Known,seenOf_asked] at known
          cases read : firstRead scan.asked with
          | none => simp [read] at known
          | some reply =>
            rw [read,Option.any_some] at known
            rw [read,Option.all_some] at held
            exact tells_unique held known
        · exact returns.modem clean
    exact ⟨fun _ => same,nofun⟩

end

/-! ### Whole runs -/

section
variable {config : LteConfig} {modem : Modem} {events : List Event} {provider : Provider}

/-- The lock holds after a run under the condition, and so does the promise to restore. -/
theorem run_exclusive (ran : run (step config) (fresh modem) events = some provider)
    (concerned : ∀ event ∈ events, concerns event = true)
    (met : Along (step config) (fun provider event => orderly provider event = true) (fresh modem) events) :
    Exclusive provider := by
  have start : Exclusive (fresh modem) := ⟨nofun,.inl ⟨fun _ => rfl,rfl,rfl⟩⟩
  refine run_keeps ?_ start (along_and.mpr ⟨met,along_of_forall concerned⟩) ran
  exact fun _ _ _ held both stepped => step_exclusive held both.1 both.2 stepped

theorem run_restored (ran : run (step config) (fresh modem) events = some provider)
    (concerned : ∀ event ∈ events, concerns event = true)
    (met : Along (step config) (fun provider event => orderly provider event = true) (fresh modem) events)
    (kept : Along (step config) (fun provider event => restores provider event = true) (fresh modem) events) :
    Restored modem.mask provider := by
  let inv : Provider → Prop := fun provider => Exclusive provider ∧ Restored modem.mask provider
  have start : inv (fresh modem) := ⟨⟨nofun,.inl ⟨fun _ => rfl,rfl,rfl⟩⟩,fun _ => rfl,nofun⟩
  have both : inv provider := by
    refine run_keeps ?_ start (along_and.mpr ⟨along_and.mpr ⟨met,kept⟩,along_of_forall concerned⟩) ran
    rintro before event after ⟨exclusive,restored⟩ ⟨⟨met,kept⟩,concerned⟩ stepped
    exact ⟨step_exclusive exclusive met concerned stepped,step_restored exclusive restored met kept concerned stepped⟩
  exact both.2

theorem Exclusive.idle_of_tasks (exclusive : Exclusive provider) (empty : (tasks provider).isEmpty = true) (n : Nat) :
    ¬ Scanning provider n := by
  rintro ⟨thread,_,has,_⟩
  have member := (exclusive.busy has).mem_tasks
  rw [List.isEmpty_iff.mp empty] at member
  cases member

end

/-- In every run of scan requests, scans, watchdog checks, polls and restarts under the
    condition there is one scan at a time, a refusal means that one is under way, and when
    none is and the restoring commands succeeded the modem has the bands it had at first. -/
theorem scans_exclusive (config : LteConfig) (modem : Modem) (events : List Event) (provider : Provider)
    (ran : run (step config) (fresh modem) events = some provider) (concerned : ∀ event ∈ events, concerns event = true)
    (met : Along (step config) (fun provider event => orderly provider event = true) (fresh modem) events) :
    (∀ n m, Scanning provider n → Scanning provider m → n = m) ∧
      (∀ now epoch, (access now epoch provider.shared .scanRequest).1 = true → ∃ n, Scanning provider n) ∧
      (Along (step config) (fun provider event => restores provider event = true) (fresh modem) events →
        (∀ n, ¬ Scanning provider n) → provider.modem.mask = modem.mask) := by
  have exclusive := run_exclusive ran concerned met
  have scans : ∀ n thread, provider.threads (.task n) = some thread → Scanning provider n := by
    intro n thread has
    obtain ⟨⟨request,label⟩,_⟩ := exclusive.shapes (.task n) thread has
    exact ⟨thread,request,has,label⟩
  refine ⟨?_,?_,?_⟩
  · rintro n m ⟨thread,_,has,_⟩ ⟨other,_,too,_⟩
    exact ((exclusive.busy has).only m other too).symm
  · intro now epoch refused
    rcases exclusive.lock with idle | ⟨n,thread,busy⟩
    · exact absurd (idle.status.symm.trans refused) Bool.false_ne_true
    · exact ⟨n,scans n thread busy.found⟩
  · intro kept none
    refine (run_restored ran concerned met kept).idle fun n => ?_
    exact Option.eq_none_iff_forall_ne_some.mpr fun thread has => none n (scans n thread has)

def providerConfig : LteConfig := { interface := ⟨"wwan0",true,none⟩ }

/-- A modem that reads its bands as 4 and 12. -/
def steady : (question : Ask) → question.Reply
  | .command .readBands => some "+QCFG: \"band\",0x260,0x808,0x0\r\nOK".toList
  | .command .signalStrength => some "+CSQ: 20,99\r\nOK".toList
  | question => plainReply question

/-- A scan of band 4 with a second request, a check and a poll that saves while it runs, and a restart after it. -/
def scanned : List Event × Nat × Provider :=
  play providerConfig [.event (.begin (.scan ⟨[4],false,false⟩ false)),.talk .request 2 steady,.talk (.task 1) 6 steady,
    .event (.begin (.scan ⟨[12],false,false⟩ false)),.talk .request 1 steady,.event (.begin .checkScan),
    .talk .watchdog 1 steady,.event (.begin (.poll none none true)),.talk .poller 6 steady,.talk (.task 1) 100 steady,
    .event .restart] (0,fresh ⟨0x808,none⟩)

theorem scans_exclusive_scanned : scanned.2.2.modem.mask = 0x808 := by
  have facts : ((∀ event ∈ scanned.1, concerns event = true) ∧ (tasks scanned.2.2).isEmpty = true) ∧
      Along (step providerConfig) (fun provider event => orderly provider event = true) (fresh ⟨0x808,none⟩) scanned.1 ∧
      Along (step providerConfig) (fun provider event => restores provider event = true) (fresh ⟨0x808,none⟩) scanned.1 := by
    decide +kernel
  obtain ⟨⟨concerned,empty⟩,met,kept⟩ := facts
  have ended := (run_exclusive run_play concerned met).idle_of_tasks empty
  exact (scans_exclusive providerConfig ⟨0x808,none⟩ scanned.1 scanned.2.2 run_play concerned met).2.2 kept ended

/-- Two requests, the second one served before the first one's task has set the status. -/
def overlapping : List Event × Nat × Provider :=
  play providerConfig [.event (.begin (.scan ⟨[4],false,false⟩ false)),.talk .request 2 steady,
    .event (.begin (.scan ⟨[12],false,false⟩ false)),.talk .request 2 steady] (0,fresh ⟨0x808,none⟩)

/-- Both scans are under way. -/
theorem two_scans_at_once : ¬ ∀ (config : LteConfig) (modem : Modem) (events : List Event) (provider : Provider),
    run (step config) (fresh modem) events = some provider → (∀ event ∈ events, concerns event = true) →
      ∀ n m, Scanning provider n → Scanning provider m → n = m := by
  intro claim
  have facts : (∀ event ∈ overlapping.1, concerns event = true) ∧
      (overlapping.2.2.threads (.task 1)).map (·.label) = some (.task (.scan ⟨[4],false,false⟩)) ∧
      (overlapping.2.2.threads (.task 3)).map (·.label) = some (.task (.scan ⟨[12],false,false⟩)) := by
    decide +kernel
  obtain ⟨concerned,first,second⟩ := facts
  obtain ⟨thread,has,label⟩ := Option.map_eq_some_iff.mp first
  obtain ⟨other,too,otherLabel⟩ := Option.map_eq_some_iff.mp second
  have same := claim providerConfig ⟨0x808,none⟩ overlapping.1 overlapping.2.2 run_play concerned 1 3
    ⟨thread,_,has,label⟩ ⟨other,_,too,otherLabel⟩
  cases same

end Sctl.BandScans
