import Sctl.LtePrograms

/-!
The LTE watchdog (`server/src/lte_watchdog.rs`): one tick of its loop as a
dialogue, from the suppression checks over the connected path and the grace
period to the band reverts, the diagnosis, the dispatch of one recovery action
and its verification. The snapshot, the event log and the history file, which
no decision reads, are left out; the exhaustion file is a flag beside the state.
-/
namespace Sctl.LteWatchdog
open LteBands LteShared LtePrograms Dialogues

def tickInterval : Nat := secs 30
def lightResetThreshold : Nat := secs 90
def maxL3Attempts : Nat := 3
def maxL3Cooldown : Nat := secs 1800
def dormantTickInterval : Nat := secs 900
def searchingActionThreshold : Nat := secs 180
def searchingGraceExtension : Nat := secs 180
def atFailureSkipThreshold : Nat := 3
def maxReregistersPerEpisode : Nat := 1
def maxIfaceRestartsPerEpisode : Nat := 2
def maxAirplaneCyclesPerEpisode : Nat := 2

/-- `Symptom`. -/
inductive Symptom where
  | searching (secs : Nat)
  | registeredNoData
  | notRegistered
  | unresponsive
  | relayProblem
  | tunnelReconnecting
  | internetUnreachable
  | modemGone
  | unknown
deriving DecidableEq, Repr

/-- `WatchdogState`. -/
structure WatchdogState where
  tunnelDisconnectSince : Option Nat := none
  tunnelConnectedSince : Option Nat := none
  lastActionAt : Option Nat := none
  lastSymptom : Option Symptom := none
  lastAction : Option Outcome := none
  consecutiveAtFailures : Nat := 0
  reregisters : Nat := 0
  ifaceRestarts : Nat := 0
  airplaneCycles : Nat := 0
  l3Attempts : Nat := 0
  dormant : Bool := false
  searchingSince : Option Nat := none
  triedPrechangeRevert : Bool := false
  triedSafeRevert : Bool := false
  episodeActions : List Outcome := []
deriving DecidableEq, Repr

/-- What the loop keeps: its state, and whether `watchdog_exhausted.json` is there. -/
structure Watchdog where
  state : WatchdogState := {}
  exhausted : Bool := false
deriving DecidableEq, Repr

/-- The part of `LteConfig` that the watchdog reads. -/
structure LteConfig where
  interface : InterfaceConfig
  watchdogGraceSecs : Nat := 120
  maxEscalationLevel : Nat := 3
  minSustainedSecs : Nat := 600
  requireSysfsAbsent : Bool := true
  unknownAirplaneCycle : Bool := false
  unknownEscalate : Bool := false
  notregisteredGraceSecs : Nat := 180
deriving DecidableEq, Repr

namespace WatchdogState

/-- `light_reset`. -/
def lightReset (state : WatchdogState) : WatchdogState :=
  { state with
    tunnelDisconnectSince := none
    lastActionAt := none
    consecutiveAtFailures := 0
    reregisters := 0
    ifaceRestarts := 0
    airplaneCycles := 0
    triedPrechangeRevert := false
    triedSafeRevert := false
    searchingSince := none
    episodeActions := [] }

/-- `heavy_reset`. -/
def heavyReset (state : WatchdogState) : WatchdogState :=
  { state.lightReset with l3Attempts := 0, dormant := false }

def reset (state : WatchdogState) : Reset → WatchdogState
  | .light => state.lightReset
  | .heavy => state.heavyReset

/-- The cooldown that `cooldown_elapsed` asks for at a level. -/
def cooldown (state : WatchdogState) (level : Nat) : Nat :=
  if state.dormant then dormantTickInterval
  else if level ≥ 3 ∧ state.l3Attempts > 0 then
    min (secs (300 * 2 ^ min state.l3Attempts 3)) maxL3Cooldown
  else
    match level with
    | 0 => secs 60
    | 1 | 2 => secs 120
    | _ => secs 300

end WatchdogState

/-- `cooldown_elapsed`: the clock is read only when an action has been recorded. -/
def cooldownElapsed (state : WatchdogState) (level : Nat) : Lte Bool :=
  match state.lastActionAt with
  | none => pure true
  | some last => do
    let instant ← now
    pure (instant - last ≥ state.cooldown level)

/-- `record_action`. -/
def recordAction (state : WatchdogState) (action : Outcome) : Lte WatchdogState := do
  let instant ← now
  pure { state with
    lastActionAt := some instant, lastAction := some action, episodeActions := state.episodeActions ++ [action] }

/-- A reset of the episode, announced. -/
def resetEpisode (kind : Reset) (state : WatchdogState) : Lte WatchdogState := do
  ask (.reset kind)
  pure (state.reset kind)

/-- `verify_recovery`, one look every five seconds. -/
def verifyRecovery (timeout : Nat) : Lte Bool := do
  let start ← now
  go start (passes timeout (secs 5))
where
  go (start : Nat) : Nat → Lte Bool
    | 0 => pure false
    | n + 1 => do
      let instant ← now
      if instant - start < timeout then
        sleep (secs 5)
        let hasIp ← interfaceHasIpv4
        let connected ← tunnelConnected
        if hasIp && connected then pure true else go start n
      else pure false

/-- `action_reregister`. -/
def actionReregister (site : Site) (state : WatchdogState) : Lte (Outcome × WatchdogState) := do
  ask (.act .reregister site)
  match ← command .register with
  | some _ => pure (.reregister,{ state with consecutiveAtFailures := 0 })
  | none => pure (.reregisterFailed,{ state with consecutiveAtFailures := state.consecutiveAtFailures + 1 })

/-- `action_airplane_cycle`. -/
def actionAirplaneCycle (site : Site) (state : WatchdogState) : Lte (Outcome × WatchdogState) := do
  ask (.act .airplaneCycle site)
  match ← command .radioOff with
  | none => pure (.airplaneCycleFailed,{ state with consecutiveAtFailures := state.consecutiveAtFailures + 1 })
  | some _ =>
    sleep (secs 5)
    match ← command .radioOn with
    | some _ => pure (.airplaneCycle,{ state with consecutiveAtFailures := 0 })
    -- the counter was just cleared by the first command
    | none => pure (.airplaneCyclePartial,{ state with consecutiveAtFailures := 1 })

/-- The wait of `action_usb_power_cycle` for the device to come back. -/
def awaitDevice : Nat → Lte Unit
  | 0 => pure ()
  | n + 1 => do
    sleep (secs 2)
    if ← ask .sysfsPresent then
      sleep (secs 3)
      let _ ← ask .openModem
    else awaitDevice n

/-- `action_usb_power_cycle`. -/
def actionUsbPowerCycle (site : Site) : Lte Outcome := do
  ask (.act .usbPowerCycle site)
  if ← ask .sysfsPresent then
    if ← ask (.writeFile "0") then
      sleep (secs 3)
      if ← ask (.writeFile "1") then
        awaitDevice 15
        pure .usbCycle
      else pure .usbCyclePartial
    else pure .usbCycleFailed
  else pure .usbCycleNoDevice

/-- `evaluate_usb_cycle_gate`. -/
def evaluateUsbCycleGate (config : LteConfig) (disconnectSecs : Nat) (sysfsPresent : Bool) : Bool :=
  if config.maxEscalationLevel < 4 then false
  else if disconnectSecs < config.minSustainedSecs then false
  else !(config.requireSysfsAbsent && sysfsPresent)

/-- `read_current_bands`. -/
def readCurrentBands : Lte (Option (List Nat × Option Nat)) :=
  require .readBands fun response =>
    if parseBandConfig response = [] then pure none
    else do
      let priority := (← command .readPriority).bind parseBandpri
      pure (some (parseBandConfig response,priority))

/-- The wait for an address once `apply_band_config` sees the modem registered. -/
def awaitAddress : Nat → Lte Bool
  | 0 => pure false
  | n + 1 => do
    if ← interfaceHasIpv4 then pure true
    else
      sleep (secs 2)
      awaitAddress n

/-- The registration wait of `apply_band_config`. -/
def awaitData (config : InterfaceConfig) (start : Nat) : Nat → Lte Bool
  | 0 => pure false
  | n + 1 => do
    let instant ← now
    if instant - start < secs 30 then
      if ← tunnelConnected then pure false
      else if saysRegistered (← command .registration) then
        if ← awaitAddress 5 then pure true
        else
          let _ ← actionRestartInterface { config with openwrt := false, restartCmd := none } .revert
          sleep (secs 5)
          interfaceHasIpv4
      else
        sleep (secs 3)
        awaitData config start n
    else pure false

/-- `apply_band_config`: the data path is up on the bands asked for. -/
def applyBandConfig (config : InterfaceConfig) (bands : List Nat) (priority : Option Nat) : Lte Bool :=
  if bands = [] then pure false
  else do
    match ← verifiedSetBands bands with
    | none => pure false
    | some _ =>
      setPriority priority
      if ← tunnelConnected then pure false
      else
        send .deregister
        sleep (secs 1)
        send .register
        let start ← now
        awaitData config start (passes (secs 30) (secs 3))

/-- What a stage of the tick comes to: the tick is over, or it goes on. -/
inductive Stage where
  | ended (state : WatchdogState)
  | onward (state : WatchdogState)
deriving DecidableEq, Repr

/-- A band revert, applied, recorded and verified. -/
def revertTo (config : LteConfig) (bands : List Nat) (priority : Option Nat) (action : Outcome)
    (state : WatchdogState) : Lte Stage := do
  if ← applyBandConfig config.interface bands priority then
    region .recordRevert
    let state ← recordAction state action
    sleep (secs 10)
    if ← verifyRecovery (secs 30) then
      pure (.ended (← resetEpisode .light state))
    else pure (.onward state)
  else pure (.onward state)

/-- The revert to the bands before the last user change. -/
def prechangeRevert (config : LteConfig) (state : WatchdogState) : Lte Stage :=
  if state.triedPrechangeRevert then pure (.onward state)
  else do
    match ← region (.prechangeInfo state.tunnelDisconnectSince) with
    | none => pure (.onward state)
    | some (bands,priority) =>
      revertTo config bands priority .prechangeRevert { state with triedPrechangeRevert := true }

/-- The revert to the safe bands, unless the modem has them. -/
def safeRevert (config : LteConfig) (state : WatchdogState) : Lte Stage :=
  if state.triedSafeRevert then pure (.onward state)
  else do
    match ← region .safeInfo with
    | none => pure (.onward state)
    | some (bands,priority) =>
      let current ← readCurrentBands
      if current.map (·.1) = some bands then pure (.onward state)
      else revertTo config bands priority .safeRevert { state with triedSafeRevert := true }

/-- The tunnel client is reconnecting, and the interface has an address to do it with. -/
def reconnectingWithAddress : Lte Bool := do
  if ← ask .reconnecting then interfaceHasIpv4 else pure false

/-- The diagnosis of a registered modem, from the kernel's view of the data path. -/
def diagnoseDataPath : Lte Symptom := do
  if ← interfaceHasIpv4 then
    if ← ask .reachable then pure .relayProblem else pure .internetUnreachable
  else pure .registeredNoData

/-- How long the modem has been searching. -/
def diagnoseSearching (state : WatchdogState) : Lte Symptom :=
  match state.searchingSince with
  | none => pure (.searching 0)
  | some since => do
    let instant ← now
    pure (.searching ((instant - since) / secs 1))

/-- `diagnose`. -/
def diagnose (state : WatchdogState) : Lte Symptom := do
  match ← command .attention with
  | none => do
    if ← ask .sysfsPresent then pure .unresponsive else pure .modemGone
  | some _ =>
    if ← reconnectingWithAddress then pure .tunnelReconnecting
    else
      match (← command .registration).bind parseCereg with
      | some .searching => diagnoseSearching state
      | some .notRegistered | some .denied => pure .notRegistered
      | some .registeredHome | some .registeredRoam => diagnoseDataPath
      | some .unknown | none => pure .unknown

/-- What the dispatch comes to: nothing this tick, or one action at a level. -/
inductive Dispatch where
  | wait (state : WatchdogState)
  | acted (action : Outcome) (level : Nat) (state : WatchdogState)
deriving DecidableEq, Repr

/-- `cooldown_elapsed`, else the tick is over. -/
def afterCooldown (state : WatchdogState) (level : Nat) (act : Site → Lte Dispatch) : Lte Dispatch := do
  if ← cooldownElapsed state level then act (.dispatched level (state.cooldown level))
  else pure (.wait state)

def dispatchReregister (state : WatchdogState) : Lte Dispatch :=
  afterCooldown state 0 fun site => do
    let (action,state) ← actionReregister site { state with reregisters := state.reregisters + 1 }
    pure (.acted action 0 state)

def dispatchAirplaneCycle (state : WatchdogState) : Lte Dispatch :=
  afterCooldown state 1 fun site => do
    let (action,state) ← actionAirplaneCycle site { state with airplaneCycles := state.airplaneCycles + 1 }
    pure (.acted action 1 state)

def dispatchRestartInterface (config : LteConfig) (state : WatchdogState) : Lte Dispatch :=
  afterCooldown state 2 fun site => do
    let action ← actionRestartInterface config.interface site
    pure (.acted action 2 { state with ifaceRestarts := state.ifaceRestarts + 1 })

/-- `try_usb_cycle_gated`; a cycle that the gate declines sends the watchdog dormant. -/
def dispatchUsbCycle (config : LteConfig) (disconnectSecs : Nat) (state : WatchdogState) : Lte Dispatch :=
  afterCooldown state 3 fun site => do
    let present ← ask .sysfsPresent
    if evaluateUsbCycleGate config disconnectSecs present then
      let action ← actionUsbPowerCycle site
      pure (.acted action 3 state)
    else pure (.wait { state with dormant := true })

/-- The dispatch on a symptom. -/
def dispatch (config : LteConfig) (disconnectSecs : Nat) (state : WatchdogState) : Symptom → Lte Dispatch
  | .searching searchingSecs =>
    if searchingSecs < searchingActionThreshold / secs 1 then
      pure (.wait { state with lastAction := some .wait })
    else if state.airplaneCycles ≥ maxAirplaneCyclesPerEpisode then
      dispatchUsbCycle config disconnectSecs state
    else dispatchAirplaneCycle state
  | .registeredNoData =>
    if state.ifaceRestarts ≥ maxIfaceRestartsPerEpisode then
      if state.airplaneCycles ≥ maxAirplaneCyclesPerEpisode then dispatchUsbCycle config disconnectSecs state
      else dispatchAirplaneCycle state
    else dispatchRestartInterface config state
  | .notRegistered =>
    if disconnectSecs < config.notregisteredGraceSecs then pure (.wait state)
    else if state.reregisters < maxReregistersPerEpisode then dispatchReregister state
    else if state.airplaneCycles < maxAirplaneCyclesPerEpisode then dispatchAirplaneCycle state
    else dispatchUsbCycle config disconnectSecs state
  | .unresponsive =>
    let state := { state with consecutiveAtFailures := state.consecutiveAtFailures + 1 }
    if state.consecutiveAtFailures < atFailureSkipThreshold then
      if state.ifaceRestarts < maxIfaceRestartsPerEpisode then dispatchRestartInterface config state
      else pure (.wait state)
    else dispatchUsbCycle config disconnectSecs state
  | .relayProblem | .internetUnreachable => pure (.wait { state with lastAction := some .wait })
  | .tunnelReconnecting => pure (.wait state)
  | .modemGone => pure (.wait { state with lastAction := some .wait, dormant := true })
  | .unknown =>
    if !config.unknownAirplaneCycle && !config.unknownEscalate then
      pure (.wait { state with lastAction := some .wait })
    else if config.unknownAirplaneCycle && state.airplaneCycles < maxAirplaneCyclesPerEpisode then
      dispatchAirplaneCycle state
    else if config.unknownEscalate then dispatchUsbCycle config disconnectSecs state
    else pure (.wait state)

/-- What the dispatch notes of a symptom before it acts, or instead. -/
def Noted (state next : WatchdogState) : Prop :=
  next = { state with
    lastAction := next.lastAction, consecutiveAtFailures := next.consecutiveAtFailures, dormant := next.dormant }

/-- The branches that the dispatch has, over all symptoms: each action of a counter comes
    after a check of its cap. -/
theorem dispatch_choice (config : LteConfig) (disconnectSecs : Nat) (state : WatchdogState) (symptom : Symptom) :
    ∃ next, Noted state next ∧ (next.dormant = state.dormant ∨ next.dormant = true) ∧
      (dispatch config disconnectSecs state symptom = pure (.wait next) ∨
        dispatch config disconnectSecs state symptom = dispatchUsbCycle config disconnectSecs next ∨
        (next.reregisters < maxReregistersPerEpisode ∧
          dispatch config disconnectSecs state symptom = dispatchReregister next) ∨
        (next.airplaneCycles < maxAirplaneCyclesPerEpisode ∧
          dispatch config disconnectSecs state symptom = dispatchAirplaneCycle next) ∨
        (next.ifaceRestarts < maxIfaceRestartsPerEpisode ∧
          dispatch config disconnectSecs state symptom = dispatchRestartInterface config next)) := by
  let waiting := { state with lastAction := some .wait }
  let failing := { state with consecutiveAtFailures := state.consecutiveAtFailures + 1 }
  cases symptom with
  | searching searchingSecs =>
    simp only [dispatch]
    split
    · exact ⟨waiting,rfl,.inl rfl,.inl rfl⟩
    · split
      · exact ⟨state,rfl,.inl rfl,.inr (.inl rfl)⟩
      · exact ⟨state,rfl,.inl rfl,.inr (.inr (.inr (.inl ⟨by omega,rfl⟩)))⟩
  | registeredNoData =>
    simp only [dispatch]
    split
    · split
      · exact ⟨state,rfl,.inl rfl,.inr (.inl rfl)⟩
      · exact ⟨state,rfl,.inl rfl,.inr (.inr (.inr (.inl ⟨by omega,rfl⟩)))⟩
    · exact ⟨state,rfl,.inl rfl,.inr (.inr (.inr (.inr ⟨by omega,rfl⟩)))⟩
  | notRegistered =>
    simp only [dispatch]
    split
    · exact ⟨state,rfl,.inl rfl,.inl rfl⟩
    · split
      · next below => exact ⟨state,rfl,.inl rfl,.inr (.inr (.inl ⟨below,rfl⟩))⟩
      · split
        · next below => exact ⟨state,rfl,.inl rfl,.inr (.inr (.inr (.inl ⟨below,rfl⟩)))⟩
        · exact ⟨state,rfl,.inl rfl,.inr (.inl rfl)⟩
  | unresponsive =>
    simp only [dispatch]
    split
    · split
      · next below => exact ⟨failing,rfl,.inl rfl,.inr (.inr (.inr (.inr ⟨below,rfl⟩)))⟩
      · exact ⟨failing,rfl,.inl rfl,.inl rfl⟩
    · exact ⟨failing,rfl,.inl rfl,.inr (.inl rfl)⟩
  | unknown =>
    simp only [dispatch]
    split
    · exact ⟨waiting,rfl,.inl rfl,.inl rfl⟩
    · split
      · next allowed =>
        simp only [Bool.and_eq_true,decide_eq_true_eq] at allowed
        exact ⟨state,rfl,.inl rfl,.inr (.inr (.inr (.inl ⟨allowed.2,rfl⟩)))⟩
      · split
        · exact ⟨state,rfl,.inl rfl,.inr (.inl rfl)⟩
        · exact ⟨state,rfl,.inl rfl,.inl rfl⟩
  | relayProblem => exact ⟨waiting,rfl,.inl rfl,.inl rfl⟩
  | tunnelReconnecting => exact ⟨state,rfl,.inl rfl,.inl rfl⟩
  | internetUnreachable => exact ⟨waiting,rfl,.inl rfl,.inl rfl⟩
  | modemGone => exact ⟨{ waiting with dormant := true },rfl,.inr rfl,.inl rfl⟩

/-- The nudge after a radio action: an interface without an address is restarted. -/
def nudge (config : LteConfig) (level : Nat) : Lte Unit :=
  onlyIf (level ≤ 1) do
    sleep (secs 15)
    if ← interfaceHasIpv4 then pure ()
    else
      let _ ← actionRestartInterface config.interface .nudge

def verifyTimeout : Nat → Nat
  | 0 | 2 => secs 30
  | 1 => secs 45
  | _ => secs 60

/-- What follows an action: it is recorded, nudged and verified, and a failed USB
    cycle counts towards exhaustion. -/
def afterAction (config : LteConfig) (symptom : Symptom) (action : Outcome) (level : Nat) (watchdog : Watchdog)
    (state : WatchdogState) : Lte Watchdog := do
  let state := if symptom = .unresponsive then state else { state with consecutiveAtFailures := 0 }
  let state ← recordAction state action
  nudge config level
  if ← verifyRecovery (verifyTimeout level) then
    pure { watchdog with state := ← resetEpisode .light state }
  else if level ≥ 3 then
    let state := { state with l3Attempts := state.l3Attempts + 1 }
    if state.l3Attempts ≥ maxL3Attempts then
      pure { state := { state with dormant := true }, exhausted := true }
    else pure { watchdog with state := state }
  else pure { watchdog with state := state }

/-- Diagnosis, dispatch and what follows. -/
def respond (config : LteConfig) (disconnectSecs : Nat) (watchdog : Watchdog) (state : WatchdogState) :
    Lte Watchdog := do
  let symptom ← diagnose state
  match ← dispatch config disconnectSecs { state with lastSymptom := some symptom } symptom with
  | .wait state => pure { watchdog with state := state }
  | .acted action level state => afterAction config symptom action level watchdog state

/-- `Instant::now` into a field that is still empty. -/
def since (field : Option Nat) : Lte Nat :=
  match field with
  | some instant => pure instant
  | none => now

/-- The tiered reset of an outage that is over, by how long the tunnel has been connected. -/
def tieredReset (watchdog : Watchdog) (connected : Nat) : Lte Watchdog :=
  if watchdog.state.tunnelDisconnectSince.isSome then
    if connected ≥ safePromoteThreshold then do
      let state ← resetEpisode .heavy watchdog.state
      -- the report goes out when the file is there, whether or not the watchdog was dormant
      onlyIf watchdog.exhausted (ask .report)
      pure ⟨state,false⟩
    else if connected ≥ lightResetThreshold then do
      pure { watchdog with state := ← resetEpisode .light watchdog.state }
    else pure watchdog
  else pure watchdog

/-- The tick of a tunnel that is connected: the tiered reset, then the promotion. -/
def connectedTick (watchdog : Watchdog) : Lte Watchdog := do
  let connectedSince ← since watchdog.state.tunnelConnectedSince
  let instant ← now
  let watchdog ← tieredReset
    { watchdog with state := { watchdog.state with tunnelConnectedSince := some connectedSince } }
    (instant - connectedSince)
  region .promoteStable
  pure watchdog

/-- The grace of a disconnected tick: longer while the modem is searching. -/
def effectiveGrace (config : LteConfig) (state : WatchdogState) : Lte (Nat × WatchdogState) := do
  match (← command .registration).bind parseCereg with
  | some .searching =>
    let searching ← since state.searchingSince
    pure (secs config.watchdogGraceSecs + searchingGraceExtension,{ state with searchingSince := some searching })
  | _ => pure (secs config.watchdogGraceSecs,{ state with searchingSince := none })

/-- The tick of a tunnel that is down. -/
def disconnectedTick (config : LteConfig) (watchdog : Watchdog) : Lte Watchdog := do
  region .forgetStability
  let disconnectSince ← since watchdog.state.tunnelDisconnectSince
  let instant ← now
  let (grace,state) ← effectiveGrace config
    { watchdog.state with tunnelConnectedSince := none, tunnelDisconnectSince := some disconnectSince }
  let duration := instant - disconnectSince
  if duration < grace then pure { watchdog with state := state }
  else
    match ← prechangeRevert config state with
    | .ended state => pure { watchdog with state := state }
    | .onward state =>
      match ← safeRevert config state with
      | .ended state => pure { watchdog with state := state }
      | .onward state => respond config (duration / secs 1) watchdog state

/-- One tick of the loop. -/
def tick (config : LteConfig) (watchdog : Watchdog) : Lte Watchdog := do
  if ← region .skipTick then pure watchdog
  else if ← region .userSuppressed then pure watchdog
  else if ← tunnelConnected then connectedTick watchdog
  else disconnectedTick config watchdog

/-- So many ticks of the loop, one after another. -/
def loop (config : LteConfig) : Nat → Watchdog → Lte Watchdog
  | 0, watchdog => pure watchdog
  | n + 1, watchdog => tick config watchdog >>= loop config n

/-- A tick as a step of a run: the turns are the whole transcript of it. -/
def tickOnce (config : LteConfig) (watchdog : Watchdog) (turns : List LteTurn) : Option Watchdog :=
  match (tick config watchdog).resume turns with
  | some (.done after) => some after
  | _ => none

theorem tickOnce_iff {config : LteConfig} {watchdog after : Watchdog} {turns : List LteTurn} :
    tickOnce config watchdog turns = some after ↔ (tick config watchdog).Ends turns after := by
  unfold tickOnce Dialogue.Ends
  cases (tick config watchdog).resume turns with
  | none => simp
  | some rest => cases rest <;> simp

end Sctl.LteWatchdog
