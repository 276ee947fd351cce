import Sctl.LteBands
import Sctl.Dialogues

/-!
The LTE state that the watchdog, the signal poller, the band scans and the
driver's requests share (`LteState` in `server/src/lte.rs`), with the two files
kept beside it. It lies behind one lock, so what the programs do to it is a
list of accesses, each atomic: a `Region` is the code between one `lock()` and
its release, `access` is what it computes. Instants count nanoseconds, the
epoch counts seconds.
-/
namespace Sctl.LteShared
open LteBands

/-- A `Duration` of so many seconds. -/
def secs (n : Nat) : Nat := n * 1000000000

/-- `BandConfig`. -/
structure BandConfig where
  enabledBands : List Nat
  priorityBand : Option Nat
deriving DecidableEq, Repr

/-- `LteSignal`, as far as bands go: the poller replaces it as a whole. -/
structure LteSignal where
  rsrp : Option Int
  freqBand : Option Nat
  bandConfig : Option BandConfig
deriving DecidableEq, Repr

/-- The states that a `ScanStatus` is written with. -/
inductive ScanState where
  | running
  | timeout
  | aborted
  | completed
deriving DecidableEq, Repr

/-- `ScanBandResult`, without its measurements. -/
structure ScanBandResult where
  band : Nat
  registered : Bool
  registrationTimeMs : Nat
deriving DecidableEq, Repr

/-- `ScanStatus`. -/
structure ScanStatus where
  state : ScanState
  startedAt : Nat
  completedAt : Option Nat
  bandsToScan : List Nat
  bandsScanned : List Nat
  currentBand : Option Nat
  results : List ScanBandResult
  originalBands : List Nat
  originalPriority : Option Nat
deriving DecidableEq, Repr

/-- `SafeBandConfig`. -/
structure SafeBandConfig where
  bands : List Nat
  priorityBand : Option Nat
  confirmedAt : Nat
  signalRsrp : Option Int
deriving DecidableEq, Repr

/-- `BandChangeSource`. -/
inductive BandChangeSource where
  | user
  | watchdog
deriving DecidableEq, Repr

/-- `LteState`, without the data that only the status report reads. -/
structure LteState where
  signal : Option LteSignal := none
  scanStatus : Option ScanStatus := none
  bandActionUntil : Option Nat := none
  safeBands : Option SafeBandConfig := none
  bandsAtConnect : Option (List Nat) := none
  bandStableSince : Option Nat := none
  lastBandChangeAt : Option Nat := none
  preChangeBands : Option (List Nat × Option Nat) := none
  registrationPending : Bool := false
  lastUserActionAt : Option Nat := none
deriving DecidableEq, Repr

/-- What lies behind the lock, with `safe_bands.json` and the scan part of `lte_data.json`. -/
structure Shared where
  lte : LteState := {}
  safeFile : Option SafeBandConfig := none
  dataFile : Option (Option ScanStatus) := none
deriving DecidableEq, Repr

/-- How long the tunnel must be stable before the bands are promoted. -/
def safePromoteThreshold : Nat := secs 300

/-- How long after user activity the watchdog is suppressed. -/
def userActivitySuppression : Nat := secs 120

/-- How long after a band change the pre-change revert is eligible. -/
def prechangeRevertWindow : Nat := secs 180

def safeBandsMinRsrp : Int := -110

/-- The signal's band configuration, as every cached read of it goes. -/
def LteState.cachedConfig (lte : LteState) : Option BandConfig := lte.signal.bind (·.bandConfig)

/-- The gates of `promote_safe_bands`: a list too long to be one of the hardware is
    refused, and so is a marginal signal when the stored one is no worse. -/
def LteState.promotes (lte : LteState) (bands : List Nat) (rsrp : Option Int) : Bool :=
  bands.length ≤ 64 &&
    match rsrp with
    | none => true
    | some current =>
      if current < safeBandsMinRsrp then
        match lte.safeBands with
        | some existing => !decide (existing.signalRsrp.getD (-2147483648) ≥ current)
        | none => true
      else true

/-- `promote_safe_bands`, the save included. -/
def promoteSafeBands (epoch : Nat) (bands : List Nat) (priority : Option Nat) (rsrp : Option Int)
    (shared : Shared) : Shared :=
  if shared.lte.promotes bands rsrp then
    let config : SafeBandConfig := ⟨bands,priority,epoch,rsrp⟩
    { shared with lte := { shared.lte with safeBands := some config }, safeFile := some config }
  else shared

/-- `record_band_change`. -/
def LteState.recordBandChange (lte : LteState) (now : Nat) (source : BandChangeSource)
    (currentBands : List Nat) (currentPriority : Option Nat) : LteState :=
  let lte := { lte with bandStableSince := none, bandsAtConnect := none }
  match source with
  | .watchdog => lte
  | .user =>
    { lte with
      lastBandChangeAt := some now
      preChangeBands := if currentBands = [] then lte.preChangeBands else some (currentBands,currentPriority) }

/-- A running scan is given up on by the watchdog after thirty minutes. -/
def ScanStatus.stuck (scan : ScanStatus) (epoch : Nat) : Prop := epoch - scan.startedAt > 30 * 60

instance (scan : ScanStatus) (epoch : Nat) : Decidable (scan.stuck epoch) := inferInstanceAs (Decidable (_ > _))

/-- The first check of a watchdog tick. -/
def skipTick (now epoch : Nat) (lte : LteState) : Bool × LteState :=
  match lte.scanStatus with
  | some scan =>
    if scan.state = .running then
      if scan.stuck epoch then
        (false,{ lte with scanStatus := some { scan with state := .timeout, completedAt := some epoch } })
      else (true,lte)
    else (false,lte)
  | none =>
    match lte.bandActionUntil with
    | some stop => (now < stop,lte)
    | none => (false,lte)

/-- The first check changes the scan status at most. -/
theorem skipTick_status (now epoch : Nat) (lte : LteState) :
    ∃ status, (skipTick now epoch lte).2 = { lte with scanStatus := status } := by
  unfold skipTick
  split
  · split
    · split <;> exact ⟨_,rfl⟩
    · exact ⟨_,rfl⟩
  · split <;> exact ⟨_,rfl⟩

/-- The second check of a watchdog tick. -/
def userSuppressed (now : Nat) (lte : LteState) : Bool :=
  match lte.lastUserActionAt with
  | some acted => now - acted < userActivitySuppression
  | none => false

/-- The stability tracking of a connected tick begins with the bands of the last poll. -/
def LteState.trackStability (lte : LteState) (now : Nat) : LteState :=
  if lte.bandStableSince = none then
    { lte with
      bandStableSince := some now
      bandsAtConnect := lte.bandsAtConnect.or (lte.cachedConfig.map (·.enabledBands)) }
  else lte

/-- The bands that a connected tick would promote: those at connect, if the stored ones differ. -/
def LteState.toPromote (lte : LteState) : Option (List Nat) :=
  match lte.safeBands, lte.bandsAtConnect with
  | some safe, some current => if safe.bands = current then none else some current
  | none, some current => some current
  | _, none => none

/-- The access of a connected tick: track stability, and promote after five minutes of it. -/
def promoteStable (now epoch : Nat) (shared : Shared) : Shared :=
  let shared := { shared with lte := shared.lte.trackStability now }
  match shared.lte.bandStableSince with
  | none => shared
  | some since =>
    if now - since ≥ safePromoteThreshold then
      let shared :=
        match shared.lte.toPromote with
        | some bands =>
          promoteSafeBands epoch bands (shared.lte.cachedConfig.bind (·.priorityBand))
            (shared.lte.signal.bind (·.rsrp)) shared
        | none => shared
      { shared with lte := { shared.lte with bandStableSince := none, bandsAtConnect := none } }
    else shared

/-- What the pre-change revert would go back to, for an outage since `disconnectSince`. -/
def prechangeInfo (now : Nat) (disconnectSince : Option Nat) (lte : LteState) :
    Option (List Nat × Option Nat) :=
  match lte.lastBandChangeAt, lte.preChangeBands with
  | some changed, some before =>
    if now - changed < prechangeRevertWindow ∧ disconnectSince.any (changed < ·) then some before else none
  | _, _ => none

/-- The driver's additive band change: it is recorded and promoted in one go. -/
def additiveChange (now epoch : Nat) (cachedBands : List Nat) (cachedPriority : Option Nat) (config : BandConfig)
    (shared : Shared) : Shared :=
  let lte := { shared.lte with lastUserActionAt := some now, bandActionUntil := some (now + secs 15) }
  let lte := lte.recordBandChange now .user cachedBands cachedPriority
  let shared := promoteSafeBands epoch config.enabledBands config.priorityBand (lte.signal.bind (·.rsrp))
    { shared with lte := lte }
  { shared with lte := { shared.lte with
      signal := shared.lte.signal.map fun signal => { signal with bandConfig := some config } } }

/-- The driver's other band changes: recorded, with registration pending. -/
def userChange (now suppression : Nat) (currentBands : List Nat) (currentPriority : Option Nat) (config : BandConfig)
    (lte : LteState) : LteState :=
  let lte := { lte with
    lastUserActionAt := some now, registrationPending := true, bandActionUntil := some (now + suppression) }
  let lte := lte.recordBandChange now .user currentBands currentPriority
  { lte with signal := lte.signal.map fun signal => { signal with bandConfig := some config } }

/-- The status update of a scan that stops because the tunnel is back. -/
def scanAborted (epoch : Nat) (lte : LteState) : LteState :=
  { lte with scanStatus := lte.scanStatus.map fun scan =>
      { scan with state := .aborted, completedAt := some epoch } }

/-- The last status update of a scan. -/
def scanFinished (epoch : Nat) (results : List ScanBandResult) (lte : LteState) : LteState :=
  { lte with scanStatus := lte.scanStatus.map fun scan =>
      let scan := if scan.state = .aborted then scan
        else { scan with state := .completed, completedAt := some epoch }
      { scan with currentBand := none, results := results } }

/-- `save_lte_data`. -/
def Shared.saveLteData (shared : Shared) : Shared := { shared with dataFile := some shared.lte.scanStatus }

/-- `load_safe_bands` and `load_lte_data` into a new `LteState`: a provider that starts. -/
def Shared.load (shared : Shared) : Shared :=
  { shared with lte := { safeBands := shared.safeFile, scanStatus := shared.dataFile.join } }

/-- The accesses to the shared state, one for each stretch of code under the lock
    (`clear_sim_data` removes the files without it). -/
inductive Region where
  | skipTick
  | userSuppressed
  | promoteStable
  | forgetStability
  | prechangeInfo (disconnectSince : Option Nat)
  | recordRevert
  | safeInfo
  | cachedBands
  | additiveChange (cachedBands : List Nat) (cachedPriority : Option Nat) (config : BandConfig)
  | userChange (suppression : Nat) (currentBands : List Nat) (currentPriority : Option Nat) (config : BandConfig)
  | endBandChange
  | suppressUntil (wait : Nat)
  | endSuppression
  | scanRequest
  | scanStart (status : ScanStatus)
  | scanAborted
  | scanBand (band : Nat)
  | scanProgress (band : Nat) (results : List ScanBandResult)
  | scanFinished (results : List ScanBandResult)
  | polledConfig
  | polled (signal : LteSignal) (save : Bool)
  | clearSimData
  | simChange
deriving DecidableEq, Repr

/-- What an access tells its program. -/
@[reducible] def Region.Reply : Region → Type
  | .skipTick | .userSuppressed | .scanRequest => Bool
  | .prechangeInfo _ | .safeInfo => Option (List Nat × Option Nat)
  | .cachedBands => List Nat × Option Nat × Option Nat
  | .polledConfig => Option BandConfig
  | _ => Unit

/-- An access at an instant: what it tells, and what it leaves behind. -/
def access (now epoch : Nat) (shared : Shared) : (region : Region) → region.Reply × Shared
  | .skipTick => ((skipTick now epoch shared.lte).1,{ shared with lte := (skipTick now epoch shared.lte).2 })
  | .userSuppressed => (userSuppressed now shared.lte,shared)
  | .promoteStable => ((),promoteStable now epoch shared)
  | .forgetStability => ((),{ shared with lte := { shared.lte with bandStableSince := none, bandsAtConnect := none } })
  | .prechangeInfo disconnectSince => (prechangeInfo now disconnectSince shared.lte,shared)
  | .recordRevert => ((),{ shared with lte := shared.lte.recordBandChange now .watchdog [] none })
  | .safeInfo => (shared.lte.safeBands.map fun safe => (safe.bands,safe.priorityBand),shared)
  | .cachedBands =>
    (((shared.lte.cachedConfig.map (·.enabledBands)).getD [],shared.lte.cachedConfig.bind (·.priorityBand),
      shared.lte.signal.bind (·.freqBand)),shared)
  | .additiveChange bands priority config => ((),additiveChange now epoch bands priority config shared)
  | .userChange wait bands priority config =>
    ((),{ shared with lte := userChange now wait bands priority config shared.lte })
  | .endBandChange =>
    ((),{ shared with lte := { shared.lte with bandActionUntil := none, registrationPending := false } })
  | .suppressUntil wait => ((),{ shared with lte := { shared.lte with bandActionUntil := some (now + wait) } })
  | .endSuppression => ((),{ shared with lte := { shared.lte with bandActionUntil := none } })
  | .scanRequest =>
    (shared.lte.scanStatus.any (·.state == .running),
      { shared with lte := { shared.lte with lastUserActionAt := some now } })
  | .scanStart status => ((),{ shared with lte := { shared.lte with scanStatus := some status } })
  | .scanAborted => ((),{ shared with lte := scanAborted epoch shared.lte })
  | .scanBand band =>
    ((),{ shared with lte := { shared.lte with
      scanStatus := shared.lte.scanStatus.map fun scan => { scan with currentBand := some band } } })
  | .scanProgress band results =>
    ((),{ shared with lte := { shared.lte with
      scanStatus := shared.lte.scanStatus.map fun scan =>
        { scan with bandsScanned := scan.bandsScanned ++ [band], results := results } } })
  | .scanFinished results => ((),{ shared with lte := scanFinished epoch results shared.lte }.saveLteData)
  | .polledConfig => (shared.lte.cachedConfig,shared)
  | .polled signal save =>
    let shared := { shared with lte := { shared.lte with signal := some signal } }
    ((),if save then shared.saveLteData else shared)
  | .clearSimData => ((),{ shared with safeFile := none, dataFile := none })
  | .simChange =>
    ((),{ shared with lte := { shared.lte with
      safeBands := none, scanStatus := none, bandStableSince := none, bandsAtConnect := none,
      preChangeBands := none, lastBandChangeAt := none } })

/-- The state after a list of accesses, each with its instant and epoch second. -/
def accessAll (shared : Shared) (accesses : List (Nat × Nat × Region)) : Shared :=
  accesses.foldl (fun shared made => (access made.1 made.2.1 shared made.2.2).2) shared

end Sctl.LteShared
