import Sctl.Tables
import Sctl.Texts

/-!
How the relay finds its connection history again after a restart
(`seed_from_journal` of `tunnel/relay.rs`). It reads the lines that it logged,
tells them apart by texts that it seeks in them, one after the other, and takes
the serial of a device from the last `serial=` of a line. What a line looks like
around its message is the business of the logger.
-/
namespace Sctl.JournalSeed
open Sctl.Texts

/-! ### The lines that are logged -/

inductive DisconnectReason
  | wsClose
  | writerFailed
  | writePathDead
deriving DecidableEq

def DisconnectReason.text : DisconnectReason → String
  | .wsClose => "ws_close"
  | .writerFailed => "writer_failed"
  | .writePathDead => "write_path_dead"

/-- What is logged about a device in the course of its connection. -/
inductive Message
  | connecting
  | droppedEarly
  | invalidRegistration
  | emptyApiKey
  | reRegistering
  | registered
  | handlerShuttingDown
  | writerExited
  | notResponding
  | handlerExiting
  | disconnected (reason : DisconnectReason)
  | heartbeatTimeout
  | markedForEviction
  | sendFailed
  | drained
deriving DecidableEq

def Message.text : Message → String
  | .connecting => "Device connecting..."
  | .droppedEarly => "Device disconnected before registration"
  | .invalidRegistration => "Device sent invalid registration"
  | .emptyApiKey => "Device registered with empty api_key"
  | .reRegistering => "Device re-registering while stale connection exists, evicting old"
  | .registered => "Device registered"
  | .handlerShuttingDown => "Device handler shutting down (replaced by new connection)"
  | .writerExited => "Relay writer task exited — write path dead, closing device connection"
  | .notResponding => "Relay: closing connection — device not responding to relay pings (write path dead)"
  | .handlerExiting => "Device handler exiting (replaced, skipping cleanup)"
  | .disconnected _ => "Device disconnected"
  | .heartbeatTimeout => "Evicted device (heartbeat timeout)"
  | .markedForEviction => "Failed to send broadcast to device, marking for eviction"
  | .sendFailed => "Evicted device (broadcast send failed)"
  | .drained => "Drained device for relay shutdown"

/-- The fields after the serial. -/
def Message.fields : Message → List (String × String)
  | .disconnected reason => [("reason","\"" ++ reason.text ++ "\"")]
  | _ => []

inductive Line
  | device (message : Message) (serial : String)
  | shuttingDown
deriving DecidableEq

def Line.text : Line → List Char
  | .device message _ => message.text.toList
  | .shuttingDown => "Shutting down...".toList

/-- The fields of a line, each a blank, its name, `=` and its value. -/
def fieldsText (fields : List (String × String)) : List Char :=
  fields.flatMap fun f => ' ' :: f.1.toList ++ '=' :: f.2.toList

def Line.fields : Line → List Char
  | .device message serial => fieldsText (("serial",serial) :: message.fields)
  | .shuttingDown => []

/-- `is_valid_serial`; a registration with another serial is refused before anything is logged. -/
def isValidSerial (serial : String) : Bool :=
  serial ≠ "" && serial.utf8ByteSize ≤ 64 &&
    serial.toList.all fun c => c.isAlphanum || c == '-' || c == '_' || c == '.'

def Line.valid : Line → Bool
  | .device _ serial => isValidSerial serial
  | .shuttingDown => true

/-! ### Seeding -/

def deviceRegistered : List Char := "Device registered".toList
def evictedHeartbeat : List Char := "Evicted device (heartbeat timeout)".toList
def evictedBroadcast : List Char := "Evicted device (broadcast send failed)".toList
def deviceDisconnected : List Char := "Device disconnected".toList
def shuttingDown : List Char := "Shutting down".toList

def soughtTexts : List (List Char) :=
  [deviceRegistered,evictedHeartbeat,evictedBroadcast,deviceDisconnected,shuttingDown]

def stripFrom : Bool → List Char → List Char
  | _, [] => []
  | true, c :: rest => stripFrom (!c.isAlpha) rest
  | false, c :: rest => if c = '\x1b' then stripFrom true rest else c :: stripFrom false rest

/-- `strip_ansi`: an escape sequence goes to the next letter. -/
def stripAnsi (text : List Char) : List Char := stripFrom false text

/-- What comes after the last place where a text stands. -/
def afterLast (sought : List Char) : List Char → Option (List Char)
  | [] => none
  | c :: rest =>
    match afterLast sought rest with
    | some found => some found
    | none => if sought.isPrefixOf (c :: rest) then some ((c :: rest).drop sought.length) else none

def serialMark : List Char := "serial=".toList

def extractSerialFromLog (msg : List Char) : Option String :=
  match afterLast serialMark (stripAnsi msg) with
  | none => none
  | some rest =>
    let serial := rest.takeWhile fun c => !(isWhitespace c || c == ',')
    if serial = [] then none else some (String.ofList serial)

structure ConnectionSession where
  serial : String
  connectedAt : Nat
  disconnectedAt : Option Nat
  reason : Option String
  lastHeartbeatAgeMs : Option Nat
deriving DecidableEq

def ConnectionSession.close (ts : Nat) (reason : String) (session : ConnectionSession) : ConnectionSession :=
  { session with disconnectedAt := some ts, reason := some reason }

def ConnectionSession.closeIfOpen (ts : Nat) (reason : String) (session : ConnectionSession) : ConnectionSession :=
  if session.disconnectedAt.isNone then session.close ts reason else session

/-- The sessions so far, and where the open one of a serial is. -/
structure Seed where
  sessions : List ConnectionSession
  opened : Table String Nat

def Seed.register (seed : Seed) (ts : Nat) (serial : String) : Seed :=
  let sessions :=
    match seed.opened.lookup serial with
    | some idx => seed.sessions.modify idx (·.closeIfOpen ts "replaced")
    | none => seed.sessions
  ⟨sessions ++ [⟨serial,ts,none,none,none⟩],(seed.opened.erase serial).insert serial sessions.length⟩

def Seed.disconnect (seed : Seed) (ts : Nat) (reason serial : String) : Seed :=
  match seed.opened.lookup serial with
  | some idx => ⟨seed.sessions.modify idx (·.close ts reason),seed.opened.erase serial⟩
  | none => seed

def Seed.shutDown (seed : Seed) (ts : Nat) : Seed :=
  ⟨seed.opened.entries.foldl (fun sessions e => sessions.modify e.2 (·.closeIfOpen ts "relay_shutdown")) seed.sessions,∅⟩

/-- A line of the journal: its time in microseconds and its text. -/
structure Entry where
  realtime : Nat
  message : List Char

def Seed.read (seed : Seed) (entry : Entry) : Seed :=
  let ts := entry.realtime / 1000000
  let onSerial (f : String → Seed) : Seed := ((extractSerialFromLog entry.message).map f).getD seed
  if contains entry.message deviceRegistered then onSerial (seed.register ts)
  else if contains entry.message evictedHeartbeat then onSerial (seed.disconnect ts "heartbeat_timeout")
  else if contains entry.message evictedBroadcast then onSerial (seed.disconnect ts "send_failed")
  else if contains entry.message deviceDisconnected then onSerial (seed.disconnect ts "disconnected")
  else if contains entry.message shuttingDown then seed.shutDown ts
  else seed

/-- The sessions before they are trimmed. -/
def replay (entries : List Entry) : Seed := entries.foldl Seed.read ⟨[],∅⟩

def maxConnectionHistory : Nat := 100

def seedFromJournal (entries : List Entry) : List ConnectionSession :=
  let sessions := (replay entries).sessions
  sessions.drop (sessions.length - maxConnectionHistory)

/-! ### One line -/

/-- A logger: it writes the message of a line and, escape sequences aside, the fields at the end,
    and what it writes besides has none of the sought texts. -/
structure Logger where
  write : Line → List Char
  mentions : ∀ line, line.valid = true → ∀ sought ∈ soughtTexts, contains (write line) sought = contains line.text sought
  fields : ∀ line, line.valid = true → ∃ lead, stripAnsi (write line) = lead ++ line.fields

def Message.level : Message → List Char
  | .connecting | .registered | .handlerShuttingDown | .handlerExiting | .disconnected _ | .drained => " INFO".toList
  | _ => " WARN".toList

/-- What a line does to the sessions. -/
inductive Effect
  | opens (serial : String)
  | closes (serial reason : String)
  | closesAll

/-- A message is taken for what the first of the sought texts in it says. -/
def Line.effect : Line → Option Effect
  | .device .registered serial | .device .emptyApiKey serial => some (.opens serial)
  | .device .heartbeatTimeout serial => some (.closes serial "heartbeat_timeout")
  | .device .sendFailed serial => some (.closes serial "send_failed")
  | .device (.disconnected _) serial | .device .droppedEarly serial => some (.closes serial "disconnected")
  | .shuttingDown => some .closesAll
  | _ => none

def Seed.apply (seed : Seed) (ts : Nat) : Option Effect → Seed
  | some (.opens serial) => seed.register ts serial
  | some (.closes serial reason) => seed.disconnect ts reason serial
  | some .closesAll => seed.shutDown ts
  | none => seed

def Seed.isOpen (seed : Seed) (serial : String) : Prop :=
  ∃ session ∈ seed.sessions, session.serial = serial ∧ session.disconnectedAt = none

/-- Whether a line opens or closes the session of a serial. -/
def Line.toldOf (serial : String) (line : Line) : Option Bool :=
  match line.effect with
  | some (.opens other) => if serial = other then some true else none
  | some (.closes other _) => if serial = other then some false else none
  | some .closesAll => some false
  | none => none

/-- The lines of a log, the latest first, as the journal has them. -/
def entries (logger : Logger) (log : List (Nat × Line)) : List Entry :=
  log.reverse.map fun e => ⟨e.1,logger.write e.2⟩

/-- What the latest line that is about a serial says. -/
def lastSaid (serial : String) (log : List (Nat × Line)) : Option Bool := log.findSome? fun e => e.2.toldOf serial

end Sctl.JournalSeed
