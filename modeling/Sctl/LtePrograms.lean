import Sctl.LteShared

/-!
The programs that change the modem's bands: `server/src/lte.rs` (verified
writes, fast and safe changes with their rollbacks, the registration monitor,
the band scan) and the requests of the Quectel driver
(`drivers/sctl-comms-quectel/src/main.rs`). Each is a dialogue: AT commands,
the clock, the tunnel flag, the interface and the shared state are questions,
and every answer is stamped with the instant at which it came. Loops that wait
in steps against the clock make as many passes as their steps fit.
-/
namespace Sctl.LtePrograms
open LteBands LteShared Dialogues

/-- The AT commands. -/
inductive Command where
  | attention
  | registration
  | readBands
  | writeBands (hex : List Char)
  | readPriority
  | writePriority (band : Nat)
  | deregister
  | register
  | radioOff
  | radioOn
  | servingCell
  | signalStrength
  | simId
deriving DecidableEq, Repr

/-- The text that goes to the modem. -/
def Command.text : Command → List Char
  | .attention => "AT".toList
  | .registration => "AT+CEREG?".toList
  | .readBands => "AT+QCFG=\"band\"".toList
  | .writeBands hex => "AT+QCFG=\"band\",260,".toList ++ hex ++ ",0".toList
  | .readPriority => "AT+QCFG=\"bandpri\"".toList
  | .writePriority band => "AT+QCFG=\"bandpri\",".toList ++ Nat.toDigits 10 band
  | .deregister => "AT+COPS=2".toList
  | .register => "AT+COPS=0".toList
  | .radioOff => "AT+CFUN=0".toList
  | .radioOn => "AT+CFUN=1".toList
  | .servingCell => "AT+QENG=\"servingcell\"".toList
  | .signalStrength => "AT+CSQ".toList
  | .simId => "AT+QCCID".toList

/-- The recovery actions of the watchdog. -/
inductive Action where
  | reregister
  | airplaneCycle
  | restartInterface
  | usbPowerCycle
deriving DecidableEq, Repr

/-- Where a recovery action is called from: the dispatch, at a level and under a
    cooldown, the nudge after it, a band revert, or a program outside the watchdog. -/
inductive Site where
  | dispatched (level cooldown : Nat)
  | nudge
  | revert
  | elsewhere
deriving DecidableEq, Repr

/-- The outcomes that the actions report. -/
inductive Outcome where
  | reregister
  | reregisterFailed
  | airplaneCycle
  | airplaneCycleFailed
  | airplaneCyclePartial
  | ifaceRestartCustom
  | ifaceRestartCustomFailed
  | ifaceRestartNetifd
  | ifaceRestart
  | ifaceRestartFailed
  | ifaceRestartPartial
  | usbCycle
  | usbCycleNoDevice
  | usbCycleFailed
  | usbCyclePartial
  | prechangeRevert
  | safeRevert
  | wait
deriving DecidableEq, Repr

/-- The two resets of the watchdog's episode. -/
inductive Reset where
  | light
  | heavy
deriving DecidableEq, Repr

/-- The request of a band scan. -/
structure ScanRequest where
  bands : List Nat
  includeSpeedTest : Bool
  force : Bool
deriving DecidableEq, Repr

/-- The background tasks that a request leaves running. -/
inductive Task where
  | monitor (expected old : List Nat) (oldPriority : Option Nat)
  | recover (expected : List Nat)
  | scan (request : ScanRequest)
deriving DecidableEq, Repr

/-- The questions of the programs. `act`, `reset`, `report` and `restoring` are only
    announced: they mark the calls that a transcript is read for. -/
inductive Ask where
  | clock
  | sleep (wait : Nat)
  | command (command : Command)
  | connected
  | reconnecting
  | hasIpv4
  | sysfsPresent
  | reachable
  | process (arguments : List String)
  | writeFile (text : String)
  | openModem
  | speedTest
  | shared (region : Region)
  | spawn (task : Task)
  | act (action : Action) (site : Site)
  | reset (kind : Reset)
  | report
  | restoring
deriving DecidableEq, Repr

/-- What a question is answered with; a failed command has no reply text, a
    process that could not be run no exit status. -/
@[reducible] def Ask.Reply : Ask → Type
  | .command _ => Option (List Char)
  | .connected | .reconnecting | .hasIpv4 | .sysfsPresent | .reachable | .writeFile _ | .openModem => Bool
  | .process _ => Option Bool
  | .shared region => region.Reply
  | _ => Unit

/-- The plainest reply to each access and to each question, for runs of which little is asked. -/
def plainAccess : (region : Region) → region.Reply
  | .skipTick | .userSuppressed | .scanRequest => false
  | .prechangeInfo _ | .safeInfo => none
  | .cachedBands => ([],none,none)
  | .polledConfig => none
  | .promoteStable | .forgetStability | .recordRevert | .additiveChange .. | .userChange .. | .endBandChange
  | .suppressUntil _ | .endSuppression | .scanStart _ | .scanAborted | .scanBand _ | .scanProgress ..
  | .scanFinished _ | .polled .. | .clearSimData | .simChange => ()

def plainReply : (question : Ask) → question.Reply
  | .command _ => some "OK".toList
  | .connected | .reconnecting | .hasIpv4 | .sysfsPresent | .reachable | .writeFile _ | .openModem => false
  | .process _ => some true
  | .shared region => plainAccess region
  | .clock | .sleep _ | .speedTest | .spawn _ | .act .. | .reset _ | .report | .restoring => ()

/-- An answer with the instant and the epoch second at which it came. -/
structure Stamped (α : Type) where
  instant : Nat
  epoch : Nat
  value : α

/-- The answers to a question. -/
abbrev Answer (question : Ask) : Type := Stamped question.Reply

abbrev Lte : Type → Type := Dialogue Ask Answer

abbrev LteTurn : Type := Turn Ask Answer

/-- Time does not run back over the turns. -/
def Timely (turns : List LteTurn) : Prop := (turns.map (·.answer.instant)).IsChain (· ≤ ·)

instance : DecidablePred Timely := fun _ => inferInstanceAs (Decidable (List.IsChain _ _))

/-- A question of which only the answer counts. -/
def ask (question : Ask) : Lte question.Reply := .ask question fun answer => .done answer.value

/-- `Instant::now`. -/
def now : Lte Nat := .ask .clock fun answer => .done answer.instant

/-- `SystemTime::now`, in seconds since the epoch. -/
def epochNow : Lte Nat := .ask .clock fun answer => .done answer.epoch

/-- `modem.command`. -/
def command (command : Command) : Lte (Option (List Char)) := ask (.command command)

def sleep (wait : Nat) : Lte Unit := ask (.sleep wait)

def region (region : Region) : Lte region.Reply := ask (.shared region)

def tunnelConnected : Lte Bool := ask .connected

def interfaceHasIpv4 : Lte Bool := ask .hasIpv4

/-- A transcript of a question and what comes after it. -/
theorem ends_question {question : Ask} {α : Type} {rest : question.Reply → Lte α} {turns : List LteTurn} {value : α} :
    Dialogue.Ends (ask question >>= rest) turns value ↔
      ∃ answer later, turns = ⟨question,answer⟩ :: later ∧ Dialogue.Ends (rest answer.value) later value :=
  Dialogue.ends_ask

theorem ends_now {α : Type} {rest : Nat → Lte α} {turns : List LteTurn} {value : α} :
    Dialogue.Ends (now >>= rest) turns value ↔
      ∃ answer later, turns = ⟨.clock,answer⟩ :: later ∧ Dialogue.Ends (rest answer.instant) later value :=
  Dialogue.ends_ask

section
variable {Memory : Type} {watch : Watch Ask Answer Memory} {memory : Memory} {α : Type} {post : α → Memory → Prop}

/-- A question is guaranteed over each answer that can come; so are its shorthands. -/
theorem guarantees_question {question : Ask} {rest : question.Reply → Lte α} :
    Guarantees watch (ask question >>= rest) memory post ↔
      ∀ answer, watch.allows memory ⟨question,answer⟩ → watch.fine (watch.track memory ⟨question,answer⟩) ∧
        Guarantees watch (rest answer.value) (watch.track memory ⟨question,answer⟩) post := Iff.rfl

theorem guarantees_region {asked : Region} {rest : asked.Reply → Lte α} :
    Guarantees watch (region asked >>= rest) memory post ↔
      ∀ answer, watch.allows memory ⟨.shared asked,answer⟩ → watch.fine (watch.track memory ⟨.shared asked,answer⟩) ∧
        Guarantees watch (rest answer.value) (watch.track memory ⟨.shared asked,answer⟩) post := Iff.rfl

theorem guarantees_command {sent : Command} {rest : Option (List Char) → Lte α} :
    Guarantees watch (command sent >>= rest) memory post ↔
      ∀ answer, watch.allows memory ⟨.command sent,answer⟩ → watch.fine (watch.track memory ⟨.command sent,answer⟩) ∧
        Guarantees watch (rest answer.value) (watch.track memory ⟨.command sent,answer⟩) post := Iff.rfl

theorem guarantees_now {rest : Nat → Lte α} :
    Guarantees watch (now >>= rest) memory post ↔
      ∀ answer, watch.allows memory ⟨.clock,answer⟩ → watch.fine (watch.track memory ⟨.clock,answer⟩) ∧
        Guarantees watch (rest answer.instant) (watch.track memory ⟨.clock,answer⟩) post := Iff.rfl

theorem guarantees_epochNow {rest : Nat → Lte α} :
    Guarantees watch (epochNow >>= rest) memory post ↔
      ∀ answer, watch.allows memory ⟨.clock,answer⟩ → watch.fine (watch.track memory ⟨.clock,answer⟩) ∧
        Guarantees watch (rest answer.epoch) (watch.track memory ⟨.clock,answer⟩) post := Iff.rfl

variable {kind : Ask → Prop}

@[simp] theorem asks_question {question : Ask} {leaf : question.Reply → Prop} :
    Asks kind (ask question) leaf ↔ kind question ∧ ∀ reply, leaf reply :=
  and_congr_right fun _ => ⟨fun all reply => all ⟨0,0,reply⟩,fun all answer => all answer.value⟩

@[simp] theorem asks_region {asked : Region} {leaf : asked.Reply → Prop} :
    Asks kind (region asked) leaf ↔ kind (.shared asked) ∧ ∀ reply, leaf reply := asks_question

@[simp] theorem asks_command {sent : Command} {leaf : Option (List Char) → Prop} :
    Asks kind (command sent) leaf ↔ kind (.command sent) ∧ ∀ reply, leaf reply := asks_question

@[simp] theorem asks_sleep {wait : Nat} {leaf : Unit → Prop} :
    Asks kind (sleep wait) leaf ↔ kind (.sleep wait) ∧ leaf () :=
  asks_question.trans (and_congr_right fun _ => ⟨fun all => all (),fun held _ => held⟩)

@[simp] theorem asks_tunnelConnected {leaf : Bool → Prop} :
    Asks kind tunnelConnected leaf ↔ kind .connected ∧ ∀ reply, leaf reply := asks_question

@[simp] theorem asks_interfaceHasIpv4 {leaf : Bool → Prop} :
    Asks kind interfaceHasIpv4 leaf ↔ kind .hasIpv4 ∧ ∀ reply, leaf reply := asks_question

@[simp] theorem asks_now {leaf : Nat → Prop} : Asks kind now leaf ↔ kind .clock ∧ ∀ instant, leaf instant :=
  and_congr_right fun _ => ⟨fun all instant => all ⟨instant,0,()⟩,fun all answer => all answer.instant⟩

@[simp] theorem asks_epochNow {leaf : Nat → Prop} : Asks kind epochNow leaf ↔ kind .clock ∧ ∀ epoch, leaf epoch :=
  and_congr_right fun _ => ⟨fun all epoch => all ⟨0,epoch,()⟩,fun all answer => all answer.epoch⟩

end

/-- An `if` without an `else`. -/
def onlyIf (condition : Bool) (program : Lte Unit) : Lte Unit := if condition then program else pure ()

/-- An `if let Some` without an `else`. -/
def onlySome {α : Type} (value : Option α) (program : α → Lte Unit) : Lte Unit :=
  match value with
  | none => pure ()
  | some found => program found

/-- A command whose reply is dropped. -/
def send (sent : Command) : Lte Unit := .ask (.command sent) fun _ => .done ()

@[simp] theorem asks_send {kind : Ask → Prop} {sent : Command} {leaf : Unit → Prop} :
    Asks kind (send sent) leaf ↔ kind (.command sent) ∧ leaf () :=
  and_congr_right fun _ => ⟨fun all => all ⟨0,0,none⟩,fun held _ => held⟩

@[simp] theorem asks_onlyIf {kind : Ask → Prop} {condition : Bool} {program : Lte Unit} {leaf : Unit → Prop} :
    Asks kind (onlyIf condition program) leaf ↔ if condition then Asks kind program leaf else leaf () := by
  unfold onlyIf
  split <;> rfl

/-- A command whose failure ends the program, as `?` does. -/
def require {α : Type} (sent : Command) (rest : List Char → Lte (Option α)) : Lte (Option α) :=
  command sent >>= fun reply =>
    match reply with
    | none => pure none
    | some response => rest response

@[simp] theorem asks_require {kind : Ask → Prop} {α : Type} {sent : Command} {rest : List Char → Lte (Option α)}
    {leaf : Option α → Prop} : Asks kind (require sent rest) leaf ↔
      kind (.command sent) ∧ leaf none ∧ ∀ response, Asks kind (rest response) leaf := by
  rw [require,asks_bind,asks_command]
  refine and_congr_right fun _ => ⟨fun all => ⟨all none,fun response => all (some response)⟩,?_⟩
  rintro ⟨failed,answered⟩ reply
  cases reply with
  | none => exact failed
  | some response => exact answered response

theorem guarantees_require {Memory : Type} {watch : Watch Ask Answer Memory} {memory : Memory} {α : Type} {sent : Command}
    {rest : List Char → Lte (Option α)} {post : Option α → Memory → Prop} :
    Guarantees watch (require sent rest) memory post ↔
      ∀ answer, watch.allows memory ⟨.command sent,answer⟩ → watch.fine (watch.track memory ⟨.command sent,answer⟩) ∧
        (answer.value = none → post none (watch.track memory ⟨.command sent,answer⟩)) ∧
        ∀ response, answer.value = some response →
          Guarantees watch (rest response) (watch.track memory ⟨.command sent,answer⟩) post := by
  rw [require,guarantees_command]
  refine forall_congr' fun answer => forall_congr' fun _ => and_congr_right fun _ => ?_
  cases answer.value with
  | none => simp
  | some response => simp

/-- A reply to `AT+CEREG?` that says the modem is registered. -/
def saysRegistered (reply : Option (List Char)) : Bool := (reply.bind parseCereg).any (·.isRegistered)

/-- The passes that a loop can make which sleeps `step` in each and stops at `limit`. -/
def passes (limit step : Nat) : Nat := (limit + step - 1) / step

/-- What a device runs to restart its interface. -/
structure InterfaceConfig where
  interface : String
  openwrt : Bool
  restartCmd : Option String
deriving DecidableEq, Repr

/-- `action_restart_interface`; the netifd name is looked up by a process of its own. -/
def actionRestartInterface (config : InterfaceConfig) (site : Site) : Lte Outcome := do
  let _ ← ask (.act .restartInterface site)
  match config.restartCmd with
  | some custom =>
    match ← ask (.process ["sh","-c",custom]) with
    | some true => pure .ifaceRestartCustom
    | _ => pure .ifaceRestartCustomFailed
  | none =>
    let down := if config.openwrt then ["ifdown",config.interface] else ["ip","link","set",config.interface,"down"]
    let up := if config.openwrt then ["ifup",config.interface] else ["ip","link","set",config.interface,"up"]
    match ← ask (.process down) with
    | none => pure .ifaceRestartFailed
    | some _ =>
      sleep (secs 2)
      match ← ask (.process up) with
      | none => pure .ifaceRestartPartial
      | some _ => pure (if config.openwrt then .ifaceRestartNetifd else .ifaceRestart)

/-- `VerifiedSetResult`. -/
structure VerifiedSetResult where
  bands : List Nat
  didDeregister : Bool
deriving DecidableEq, Repr

/-- `verified_set_bands`: write, read back, and once more deregistered. -/
def verifiedSetBands (bands : List Nat) : Lte (Option VerifiedSetResult) :=
  require (.writeBands (bandsToHex bands)) fun _ => do
    sleep (secs 1)
    require .readBands fun response =>
      if bandsToHex (parseBandConfig response) = bandsToHex bands then
        pure (some ⟨parseBandConfig response,false⟩)
      else do
        send .deregister
        sleep (secs 1 / 2)
        require (.writeBands (bandsToHex bands)) fun _ =>
          require .readBands fun again =>
            if bandsToHex (parseBandConfig again) = bandsToHex bands then
              pure (some ⟨parseBandConfig again,true⟩)
            else do
              send .register
              pure none

/-- The set a request asks for holds the old one and more. -/
def isAdditive (old new : List Nat) : Bool := old.all (· ∈ new) && !new.all (· ∈ old)

/-- The priority write: 0 clears it. -/
def setPriority (priority : Option Nat) : Lte Unit := send (.writePriority (priority.getD 0))

/-- `apply_bands_fast`, once the old bands are read. -/
def applyFrom (bands : List Nat) (priority : Option Nat) (oldResponse : List Char) :
    Lte (Option (BandConfig × List Nat × Option Nat × Bool)) := do
  let old := parseBandConfig oldResponse
  sleep (secs 1)
  require .readPriority fun priorityResponse => do
    sleep (secs 1)
    let written : Option VerifiedSetResult ←
      if isAdditive old bands then
        require (.writeBands (bandsToHex bands)) fun _ => do
          sleep (secs 1)
          require .readBands fun response => pure (some ⟨parseBandConfig response,false⟩)
      else verifiedSetBands bands
    match written with
    | none => pure none
    | some result =>
      onlyIf result.didDeregister (send .register)
      sleep (secs 1)
      setPriority priority
      pure (some (⟨result.bands,priority⟩,old,parseBandpri priorityResponse,result.didDeregister))

/-- `apply_bands_fast`: the configuration read back, the old bands and priority, and
    whether the modem was deregistered. -/
def applyBandsFast (bands : List Nat) (priority : Option Nat) :
    Lte (Option (BandConfig × List Nat × Option Nat × Bool)) :=
  require .readBands (applyFrom bands priority)

/-- `recover_data_path_pub`: the restart can reset the bands, so they are applied again. -/
def recoverDataPathPub (config : InterfaceConfig) (expected : List Nat) : Lte Unit := do
  region (.suppressUntil (secs 20))
  let _ ← actionRestartInterface config .elsewhere
  sleep (secs 5)
  let response := (← command .readBands).getD []
  onlyIf (bandsToHex (parseBandConfig response) ≠ bandsToHex expected) do
    let _ ← verifiedSetBands expected
  let _ ← interfaceHasIpv4

/-- The wait for registration after a band change, one poll every three seconds. -/
def awaitRegistration (start timeout : Nat) : Nat → Lte Bool
  | 0 => pure false
  | n + 1 => do
    if (← now) - start ≥ timeout then pure false
    else
      sleep (secs 3)
      if saysRegistered (← command .registration) then pure true
      else awaitRegistration start timeout n

/-- The rollback's priority is written only when there was one. -/
def restorePriority (priority : Option Nat) : Lte Unit := onlySome priority fun band => send (.writePriority band)

/-- `monitor_registration`. -/
def monitorRegistration (config : InterfaceConfig) (expected old : List Nat) (oldPriority : Option Nat)
    (timeout : Nat) : Lte Unit := do
  let start ← now
  if ← awaitRegistration start timeout (passes timeout (secs 3)) then
    recoverDataPathPub config expected
    region .endBandChange
  else
    let response := (← command .readBands).getD []
    onlyIf (bandsToHex (parseBandConfig response) = bandsToHex expected) do
      let _ ← verifiedSetBands old
      restorePriority oldPriority
      send .register
      recoverDataPathPub config old
    region .endBandChange

/-- `do_safe_set_bands`, once the old bands are read. -/
def safeChangeFrom (watched : Bool) (bands : List Nat) (priority : Option Nat) (timeout : Nat)
    (oldResponse : List Char) : Lte (Option BandConfig) :=
  require .readPriority fun priorityResponse => do
    match ← verifiedSetBands bands with
    | none => pure none
    | some _ =>
      send .register
      setPriority priority
      let start ← now
      if ← awaitRegistration start timeout (passes timeout (secs 3)) then
        onlyIf watched (region .endSuppression)
        match ← command .readBands with
        | some response => pure (some ⟨parseBandConfig response,priority⟩)
        | none => pure (some ⟨bands,priority⟩)
      else
        let _ ← verifiedSetBands (parseBandConfig oldResponse)
        restorePriority (parseBandpri priorityResponse)
        onlyIf watched (region .endSuppression)
        pure none

/-- `do_safe_set_bands`; `watched` says that the shared state is there to be told. -/
def doSafeSetBands (watched : Bool) (bands : List Nat) (priority : Option Nat) (timeout : Nat) :
    Lte (Option BandConfig) :=
  require .readBands (safeChangeFrom watched bands priority timeout)

/-- `safe_set_bands`. -/
def safeSetBands (watched : Bool) (bands : List Nat) (priority : Option Nat) (timeout : Nat) :
    Lte (Option BandConfig) := do
  onlyIf watched (region (.suppressUntil (timeout + secs 5)))
  let result ← doSafeSetBands watched bands priority timeout
  onlyIf (watched && result.isNone) (region .endSuppression)
  pure result

/-- The scan's check for a tunnel that came back, which a forced scan does not make. -/
def tunnelBack (request : ScanRequest) : Lte Bool := if request.force then pure false else tunnelConnected

/-- The registration poll of a scanned band: fifteen times three seconds. -/
def pollRegistration : Nat → Lte Bool
  | 0 => pure false
  | n + 1 => do
    sleep (secs 3)
    if saysRegistered (← command .registration) then pure true
    else pollRegistration n

/-- The loop of `spawn_band_scan` over the bands. -/
def scanBands (request : ScanRequest) : List Nat → List ScanBandResult → Lte (List ScanBandResult)
  | [], results => pure results
  | band :: rest, results => do
    if ← tunnelBack request then
      region .scanAborted
      pure results
    else
      region (.scanBand band)
      match ← verifiedSetBands [band] with
      | none => scanBands request rest (results ++ [⟨band,false,0⟩])
      | some _ =>
        if ← tunnelBack request then
          region .scanAborted
          pure results
        else
          send .deregister
          sleep (secs 1)
          send .register
          let started ← now
          let registered ← pollRegistration 15
          let elapsed := (← now) - started
          onlyIf registered do
            sleep (secs 2)
            send .servingCell
            onlyIf request.includeSpeedTest (ask .speedTest)
          let results := results ++ [⟨band,registered,elapsed / 1000000⟩]
          region (.scanProgress band results)
          scanBands request rest results

/-- The wait for the data path after a scan. -/
def awaitDataPath (start : Nat) : Nat → Lte Bool
  | 0 => pure false
  | n + 1 => do
    if (← now) - start ≥ secs 45 then pure false
    else
      if saysRegistered (← command .registration) then
        if ← interfaceHasIpv4 then pure true
        else
          sleep (secs 3)
          awaitDataPath start n
      else
        sleep (secs 3)
        awaitDataPath start n

/-- The end of a scan: the original bands and priority again, then registration. -/
def restoreBands (config : InterfaceConfig) (original : List Nat) (originalPriority : Option Nat) : Lte Unit := do
  ask .restoring
  let _ ← verifiedSetBands original
  restorePriority originalPriority
  if ← tunnelConnected then pure ()
  else
    send .deregister
    sleep (secs 1)
    send .register
    let start ← now
    if ← awaitDataPath start (passes (secs 45) (secs 3)) then pure ()
    else
      let _ ← actionRestartInterface { config with restartCmd := none } .elsewhere
      sleep (secs 5)
      let _ ← interfaceHasIpv4

/-- The scan, once the original bands are read. -/
def scanFrom (config : InterfaceConfig) (request : ScanRequest) (startedAt : Nat) (original : List Nat) : Lte Unit := do
  let originalPriority := (← command .readPriority).bind parseBandpri
  region (.scanStart ⟨.running,startedAt,none,request.bands,[],none,[],original,originalPriority⟩)
  let results ← scanBands request request.bands []
  restoreBands config original originalPriority
  region (.scanFinished results)

/-- The task of `spawn_band_scan`. -/
def bandScan (config : InterfaceConfig) (request : ScanRequest) : Lte Unit := do
  let startedAt ← epochNow
  let original := ((← command .readBands).map parseBandConfig).getD []
  scanFrom config request startedAt original

/-- The program of a task that a request leaves running. -/
def Task.program (config : InterfaceConfig) : Task → Lte Unit
  | .monitor expected old oldPriority =>
    monitorRegistration config expected old oldPriority (secs 30)
  | .recover expected => do
    sleep (secs 5)
    let hasIp ← interfaceHasIpv4
    let tunnelOk ← tunnelConnected
    onlyIf (!(hasIp && tunnelOk)) (recoverDataPathPub config expected)
    region .endBandChange
  | .scan request => bandScan config request

/-- The modes of a band request. -/
inductive BandMode where
  | auto
  | locked (bands : List Nat)
deriving DecidableEq, Repr

def BandMode.bands : BandMode → List Nat
  | .auto => (List.range 128).map (· + 1)
  | .locked bands => bands

/-- `SetBandsParams`, once its mode is known to be one. -/
structure SetBandsParams where
  mode : BandMode
  priorityBand : Option Nat
  tunnelConnected : Bool
  force : Bool
deriving DecidableEq, Repr

/-- The additive branch of `set_bands`, which neither reads the bands back nor waits. -/
def addBands (params : SetBandsParams) (cached : List Nat) (cachedPriority serving : Option Nat) : Lte (Option Unit) := do
  onlySome serving fun band => do
    send (.writePriority band)
    sleep (secs 1)
  require (.writeBands (bandsToHex params.mode.bands)) fun _ => do
    onlySome params.priorityBand fun priority =>
      onlyIf (params.priorityBand ≠ serving) do
        sleep (secs 1)
        send (.writePriority priority)
    region (.additiveChange cached cachedPriority ⟨params.mode.bands,params.priorityBand.or serving⟩)
    pure (some ())

/-- `set_bands` of the driver, for a provider that is open; `none` is an error reply. -/
def setBands (params : SetBandsParams) : Lte (Option Unit) :=
  if params.tunnelConnected ∧ ¬ params.force then pure none
  else do
    let (cached,cachedPriority,serving) ← region .cachedBands
    if cached ≠ [] ∧ isAdditive cached params.mode.bands then addBands params cached cachedPriority serving
    else
      match ← applyBandsFast params.mode.bands params.priorityBand with
      | none => pure none
      | some (config,old,oldPriority,didDeregister) =>
        if didDeregister then
          region (.userChange (secs 45) old oldPriority config)
          ask (.spawn (.monitor params.mode.bands old oldPriority))
          pure (some ())
        else
          region (.userChange (secs 15) old oldPriority config)
          ask (.spawn (.recover params.mode.bands))
          pure (some ())

/-- `scan` of the driver, for a provider that is open: the status is checked here,
    and the task sets it later. -/
def scan (request : ScanRequest) (tunnelUp : Bool) : Lte (Option Unit) :=
  if tunnelUp ∧ ¬ request.force then pure none
  else do
    if ← region .scanRequest then pure none
    else
      ask (.spawn (.scan request))
      pure (some ())

/-- The band configuration that the poller reads; one without bands is none. -/
def readBandConfig : Lte (Option BandConfig) := do
  let enabled := ((← command .readBands).map parseBandConfig).getD []
  let priority := (← command .readPriority).bind parseBandpri
  pure (if enabled = [] then none else some ⟨enabled,priority⟩)

/-- One pass of the poller's loop. With a data path the band configuration is the one of
    the last poll. What `AT+QENG` says of the signal is a parameter, and so is whether this
    pass saves the data. -/
def poll (rsrp : Option Int) (freqBand : Option Nat) (save : Bool) : Lte Unit := do
  let dataActive ← interfaceHasIpv4
  onlySome ((← command .signalStrength).bind parseCsq) fun _ => do
    send .servingCell
    let config ← if dataActive then region .polledConfig else readBandConfig
    region (.polled ⟨rsrp,freqBand,config⟩ save)

/-- `detect_sim_change`, with the ICCID that was saved before. -/
def detectSimChange (previous : Option (List Char)) : Lte Unit := do
  onlySome ((← command .simId).bind parseQccid) fun iccid =>
    onlyIf (previous.any (· ≠ iccid)) do
      region .clearSimData
      region .simChange
      send (.writeBands (bandsToHex BandMode.auto.bands))
      send (.writePriority 0)
      send .register

/-- The first check of a tick, which gives up on a stuck scan, without the rest of the tick. -/
def checkScan : Lte Unit := do
  let _ ← region .skipTick

end Sctl.LtePrograms
