import Mathlib.Data.Finmap
import Sctl.Json
import Sctl.Utf8
import Sctl.WriteBehind

/-!
What the relay keeps of its devices and what the tunnel keeps of its connection,
across restarts. Both are saved now and then by the same periodic task and once
more at shutdown. The snapshots are behind a lock that saves share, and a change
sets the flag while it has the lock. The events are behind a mutex, and a push
sets the flag after it.
-/
namespace Sctl.Persistence
open Sctl.Runs Sctl.Files Sctl.WriteBehind

/-! ### Device snapshots -/

structure DeviceSnapshot where
  serial : String
  lastLteSignal : Option Json
  lastGpsFix : Option Json
  lastWatchdog : Option Json
  lastSeen : Nat

abbrev Snapshots := Finmap fun _ : String => DeviceSnapshot

def snapshotMaxAgeSecs : Nat := 7 * 24 * 3600

def DeviceSnapshot.record (snap : DeviceSnapshot) (field : String) (value : Json) : DeviceSnapshot :=
  match field with
  | "lte.signal" => { snap with lastLteSignal := some value }
  | "gps.fix" => { snap with lastGpsFix := some value }
  | "lte.watchdog" => { snap with lastWatchdog := some value }
  | _ => snap

inductive SnapshotChange
  | touch (serial : String) (now : Nat)
  | update (serial field : String) (value : Json) (now : Nat)

def touchSnapshot (snapshots : Snapshots) (serial : String) (now : Nat) : Option Snapshots :=
  (snapshots.lookup serial).map fun snap => snapshots.insert serial { snap with lastSeen := now }

def updateSnapshot (snapshots : Snapshots) (serial field : String) (value : Json) (now : Nat) : Snapshots :=
  let snap := (snapshots.lookup serial).getD ⟨serial,none,none,none,now⟩
  snapshots.insert serial { snap.record field value with lastSeen := now }

def applySnapshot : SnapshotChange → Snapshots → Option Snapshots
  | .touch serial now, snapshots => touchSnapshot snapshots serial now
  | .update serial field value now, snapshots => some (updateSnapshot snapshots serial field value now)

def DeviceSnapshot.young (now : Nat) (snap : DeviceSnapshot) : Bool := now - snap.lastSeen < snapshotMaxAgeSecs

/-- The entries that are young enough; `load_snapshots` keeps only them. -/
def retain (now : Nat) (snapshots : Snapshots) : Snapshots where
  entries := snapshots.entries.filter fun e => e.2.young now
  nodupKeys := by
    induction snapshots using Finmap.induction_on with
    | H t => exact t.nodupKeys.sublist List.filter_sublist

theorem retain_eq_iff {now : Nat} {snapshots : Snapshots} :
    retain now snapshots = snapshots ↔ ∀ e ∈ snapshots.entries, e.2.young now = true := by
  rw [← Finmap.ext_iff',retain,Multiset.filter_eq_self]

/-- The snapshots, where saves share the lock. -/
def snapshotStore (json : Codec Snapshots) : Design Snapshots SnapshotChange :=
  ⟨json,∅,applySnapshot,false,false⟩

/-! ### Connection events -/

inductive TunnelEventType
  | connected
  | disconnected
  | pongTimeout
  | writerFailed
  | reconnectAttempt
  | watchdogAction
deriving DecidableEq

structure ConnectionEvent where
  timestamp : Nat
  eventType : TunnelEventType
  detail : String
deriving DecidableEq

def maxTunnelEvents : Nat := 200

def eventMaxAgeSecs : Nat := 48 * 3600

/-- A push; at capacity the oldest event goes. -/
def pushEvent (events : List ConnectionEvent) (e : ConnectionEvent) : List ConnectionEvent :=
  (if maxTunnelEvents ≤ events.length then events.tail else events) ++ [e]

def ConnectionEvent.young (now : Nat) (e : ConnectionEvent) : Bool := now - e.timestamp < eventMaxAgeSecs

/-- The events that are young enough; `load_events` keeps only them. -/
def recent (now : Nat) (events : List ConnectionEvent) : List ConnectionEvent := events.filter fun e => e.young now

/-- The events, whose mutex a save has to itself and a push gives back before it sets the flag. -/
def eventStore (json : Codec (List ConnectionEvent)) : Design (List ConnectionEvent) ConnectionEvent :=
  ⟨json,[],fun e events => some (pushEvent events e),true,true⟩

/-! ### What is on disk -/

/-- Without a save under way the flag is set or the file has the data, exactly if the start dropped
    nothing as too old and the saves of the run end well. Whether a push between its list and its
    flag counts as under way is left open; where it does not, the run has no push of a new event
    with the flag down and no save under way. -/
theorem file_keeps_up_iff (waits : Bool) (now : Nat) (disk : Disk Name) :
    (∀ (json : Codec Snapshots) (actions : List (Action SnapshotChange)),
      Always (step (snapshotStore json)) (Persisted waits (snapshotStore json))
          (start (snapshotStore json) (retain now) disk) actions ↔
        (∀ e ∈ (restoredAt (snapshotStore json) disk .file).entries, e.2.young now = true) ∧
          Along (step (snapshotStore json)) (EndsWell waits (snapshotStore json))
            (start (snapshotStore json) (retain now) disk) actions) ∧
    ∀ (json : Codec (List ConnectionEvent)) (actions : List (Action ConnectionEvent)),
      Always (step (eventStore json)) (Persisted waits (eventStore json))
          (start (eventStore json) (recent now) disk) actions ↔
        (∀ e ∈ restoredAt (eventStore json) disk .file, e.young now = true) ∧
          Along (step (eventStore json)) (FailsWell waits (eventStore json))
            (start (eventStore json) (recent now) disk) actions := by
  constructor
  · intro json actions
    rw [← retain_eq_iff]
    exact persisted_iff
  · intro json actions
    rw [← List.filter_eq_self]
    exact persisted_exclusive_iff rfl

/-! ### A save that fails -/

def attempt : ConnectionEvent := ⟨1760000000,.reconnectAttempt,"attempt #0"⟩

def attemptText : Bytes :=
  Utf8.encode ("[\n  \x7b\n    \"timestamp\": 1760000000,\n    \"event_type\": \"ReconnectAttempt\",\n" ++
    "    \"detail\": \"attempt #0\"\n  \x7d\n]").toList

/-- The text of a list of one event, which is all that the run below needs. -/
def attemptJson : Codec (List ConnectionEvent) where
  encode events := if events = [attempt] then some attemptText else none
  decode text := if text = attemptText then some [attempt] else none
  reads events text := by
    intro encoded
    rw [Option.ite_none_right_eq_some] at encoded
    obtain ⟨rfl,same⟩ := encoded
    rw [if_pos (Option.some.inj same).symm]

/-- An event is pushed, and the save cannot create its temporary file. -/
def diskFull : List (Action ConnectionEvent) := [.change attempt,.mark,.swap,.lock 0,.fail 0]

theorem failed_save_forgotten : ¬ ∀ (json : Codec (List ConnectionEvent)) (now : Nat) (disk : Disk Name)
    (actions : List (Action ConnectionEvent)), (∀ e ∈ restoredAt (eventStore json) disk .file, e.young now = true) →
    Always (step (eventStore json)) (Persisted true (eventStore json)) (start (eventStore json) (recent now) disk) actions := by
  intro claim
  have forgot : (run (step (eventStore attemptJson)) (start (eventStore attemptJson) (recent 1760000000) (.empty fun _ => false)) diskFull).map
      (fun s => (s.marking,s.saves,s.dirty,restoredAt (eventStore attemptJson) s.disk .file,s.data)) =
      some (0,[.ended false],false,[],[attempt]) := by decide +kernel
  obtain ⟨s,ran,last⟩ := Option.map_eq_some_iff.mp forgot
  simp only [Prod.mk.injEq] at last
  obtain ⟨marking,saves,clean,file,data⟩ := last
  have quiet : s.quiet true := by
    refine ⟨fun _ => marking,fun phase member => ?_⟩
    rw [saves,List.mem_singleton] at member
    rw [member]
    rfl
  have kept := always_last (claim attemptJson 1760000000 (.empty fun _ => false) diskFull (fun _ member => by cases member)) ran quiet clean
  rw [file,data] at kept
  cases kept

end Sctl.Persistence
