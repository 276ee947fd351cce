import Mathlib.Data.List.DropRight
import Sctl.Readers
import Sctl.Subscribers
import Sctl.Tables

/-!
The WebSocket client of the MCP server (`mcp/src/websocket.rs`). It keeps a
buffer for each session that it knows, and one result slot for each kind of
request; what the device sends is dispatched to these. A slot is written before
its waiters are notified, so `dispatchMessage` returns the slot to notify.
-/
namespace Sctl.McpClient
open Sctl.SessionBuffer Sctl.Subscribers
open Sctl.Readers (SessionStatus)

def maxBufferEntries : Nat := 5000

structure SessionBuffer where
  entries : List OutputEntry
  status : SessionStatus
  exitCode : Option Int
  lastSeq : Nat
  isPty : Bool
  droppedCount : Nat
  attached : Bool
deriving DecidableEq

namespace SessionBuffer

def new : SessionBuffer := ⟨[],.running,none,0,false,0,false⟩

/-- A jump in the numbers counts as lost entries, from the second entry on. -/
def push (b : SessionBuffer) (entry : OutputEntry) : SessionBuffer :=
  { b with
    droppedCount := if b.lastSeq + 1 < entry.seq ∧ 0 < b.lastSeq then b.droppedCount + (entry.seq - b.lastSeq - 1)
      else b.droppedCount
    lastSeq := max b.lastSeq entry.seq
    entries := (if maxBufferEntries ≤ b.entries.length then b.entries.drop 1 else b.entries) ++ [entry] }

/-- An entry of the client's own, under the next number. -/
def notice (b : SessionBuffer) (text : String) : SessionBuffer := b.push ⟨b.lastSeq + 1,.system,text,0⟩

/-- The part of `read_output` under the lock. -/
def readOutput (b : SessionBuffer) (since : Nat) : List OutputEntry := b.entries.filter fun e => since < e.seq

end SessionBuffer

/-! ### Messages -/

/-- What the device, the tunnel or the relay sends. A reply carries the number of the request
    that it answers, of which nothing in the message tells. -/
inductive Message
  | output (m : OutputMsg)
  | exited (sessionId : String) (exitCode : Option Int)
  | started (sessionId : Option String) (pty : Option Bool) (request : Nat)
  | listed (request : Nat)
  | attached (sessionId : String) (status : Option String) (exitCode : Option Int) (pty : Option Bool)
      (entries : Option (List OutputMsg))
  | closed (sessionId : String)
  | error (code : String) (sessionId : Option String) (request : Option Nat)
  | aiStatusAck (sessionId : String) (request : Nat)
  | gap (sessionId reason : String)
  /-- Acknowledgements and broadcasts, which change neither buffers nor slots. -/
  | other
deriving DecidableEq

def parseOutputEntry (m : OutputMsg) : Option (String × OutputEntry) :=
  let entry := fun stream => (m.sessionId,(⟨m.seq,stream,m.data,m.timestampMs⟩ : OutputEntry))
  if m.type = "session.stdout" then some (entry .stdout)
  else if m.type = "session.stderr" then some (entry .stderr)
  else if m.type = "session.system" then some (entry .system)
  else none

/-- A cast to `i32` wraps around. -/
def asI32 (code : Int) : Int := code.bmod (2 ^ 32)

/-- The entries of a replay, pushed one after another. -/
def SessionBuffer.replay (b : SessionBuffer) (entries : List OutputMsg) : SessionBuffer :=
  entries.foldl (fun b m => match parseOutputEntry m with
    | some (_,entry) => b.push entry
    | none => b) b

/-- A reply to an attach may tell the status and whether the session has a PTY. -/
def SessionBuffer.updateStatus (b : SessionBuffer) (exitCode : Option Int) : Option String → SessionBuffer
  | some "exited" => { b with status := .exited, exitCode := exitCode.map asI32 }
  | some _ => { b with status := .running }
  | none => b

def SessionBuffer.updatePty (b : SessionBuffer) : Option Bool → SessionBuffer
  | some pty => { b with isPty := pty }
  | none => b

/-- What a message does to the buffer of its session. -/
def SessionBuffer.receive (b : SessionBuffer) : Message → SessionBuffer
  | .output m =>
    match parseOutputEntry m with
    | some (_,entry) => b.push entry
    | none => b
  | .exited _ exitCode =>
    let exitCode := exitCode.map asI32
    { b with status := .exited, exitCode }.notice ("Process exited with code " ++ toString (exitCode.getD (-1)))
  | .attached _ status exitCode pty (some entries) =>
    { ((b.updateStatus exitCode status).updatePty pty).replay entries with attached := true }
  | .closed _ => { b with status := .exited }
  | .error _ _ _ => { b with status := .exited, exitCode := none }
  | .gap _ reason =>
    b.notice ("[output gap detected: " ++ reason ++ ", last_seq=" ++ toString b.lastSeq ++ "]")
  | _ => b

/-- The session whose buffer a message changes. -/
def Message.session? : Message → Option String
  | .output m => (parseOutputEntry m).map Prod.fst
  | .exited sessionId _ => if sessionId = "" then none else some sessionId
  | .attached sessionId _ _ _ entries => entries.map fun _ => sessionId
  | .closed sessionId => if sessionId = "" then none else some sessionId
  | .error code sessionId _ => if code = "AI_NOT_ALLOWED" then none else sessionId
  | .gap sessionId _ => if sessionId = "" then none else some sessionId
  | _ => none

/-! ### Result slots -/

inductive Slot
  | start
  | list
  | aiStatus
deriving DecidableEq

/-- The slot that a message is put into. -/
def Message.slot? : Message → Option Slot
  | .started _ _ _ => some .start
  | .listed _ => some .list
  | .aiStatusAck _ _ => some .aiStatus
  | .error code sessionId _ =>
    if code = "AI_NOT_ALLOWED" then some .aiStatus
    else if sessionId = none then some .start
    else none
  | _ => none

structure Connection where
  sessions : Table String SessionBuffer
  results : Slot → Option Message

def Connection.setResult (c : Connection) (slot : Slot) (result : Option Message) : Connection :=
  { c with results := Function.update c.results slot result }

def dispatchMessage (c : Connection) (m : Message) : Connection × Option Slot :=
  match m.session?, m.slot? with
  | some sessionId, _ => ({ c with sessions := Table.modify sessionId (fun b => b.receive m) c.sessions },none)
  | none, some slot => (c.setResult slot (some m),some slot)
  | none, none => (c,none)

/-- A message reaches the buffer of its session only. -/
theorem lookup_dispatch (c : Connection) (m : Message) (sessionId : String) :
    (dispatchMessage c m).1.sessions.lookup sessionId =
      if m.session? = some sessionId then (c.sessions.lookup sessionId).map fun b => b.receive m
      else c.sessions.lookup sessionId := by
  unfold dispatchMessage
  cases own : m.session? with
  | none => cases m.slot? <;> simp [Connection.setResult]
  | some other =>
    simp only [Table.lookup_modify,Option.some.injEq,eq_comm]
    split
    · next same => subst same; rfl
    · rfl

/-! ### One buffer -/

/-- The entries that a message brings. -/
def Message.brings : Message → List OutputEntry
  | .output m => ((parseOutputEntry m).map Prod.snd).toList
  | .attached _ _ _ _ (some entries) => entries.filterMap fun m => (parseOutputEntry m).map Prod.snd
  | _ => []

/-- The client adds an entry of its own. -/
def Message.notices : Message → Bool
  | .exited _ _ => true
  | .gap _ _ => true
  | _ => false

/-- What the device sends of an entry is that entry. -/
theorem parseOutputEntry_entryToWsMessage (sessionId : String) (e : OutputEntry) :
    parseOutputEntry (entryToWsMessage sessionId e) = some (sessionId,e) := by
  obtain ⟨seq,stream,data,now⟩ := e
  cases stream <;> rfl

theorem parseOutputEntry_seq {m : OutputMsg} {sessionId : String} {e : OutputEntry}
    (parsed : parseOutputEntry m = some (sessionId,e)) : e.seq = m.seq := by
  unfold parseOutputEntry at parsed
  split_ifs at parsed <;> cases parsed <;> rfl

theorem brings_replay (sessionId : String) (status : Option String) (exitCode : Option Int) (pty : Option Bool)
    (entries : List OutputEntry) :
    (Message.attached sessionId status exitCode pty (some (entries.map fun e => entryToWsMessage sessionId e))).brings =
      entries := by
  simp [Message.brings,List.filterMap_map,parseOutputEntry_entryToWsMessage]

namespace SessionBuffer
variable {b : SessionBuffer} {m : Message}

/-- What is pushed when a message is received. -/
def pushes (b : SessionBuffer) : Message → List OutputEntry
  | .exited _ exitCode =>
    [⟨b.lastSeq + 1,.system,"Process exited with code " ++ toString ((exitCode.map asI32).getD (-1)),0⟩]
  | .gap _ reason =>
    [⟨b.lastSeq + 1,.system,"[output gap detected: " ++ reason ++ ", last_seq=" ++ toString b.lastSeq ++ "]",0⟩]
  | m => m.brings

/-- The output that a buffer holds, how far it got and how much it takes for lost. -/
structure SameOutput (b c : SessionBuffer) : Prop where
  entries : c.entries = b.entries
  lastSeq : c.lastSeq = b.lastSeq
  droppedCount : c.droppedCount = b.droppedCount

theorem sameOutput_push {c : SessionBuffer} (same : SameOutput b c) (entry : OutputEntry) :
    SameOutput (b.push entry) (c.push entry) := by
  obtain ⟨entries,lastSeq,droppedCount⟩ := same
  exact ⟨by simp only [push,entries],by simp only [push,lastSeq],by simp only [push,lastSeq,droppedCount]⟩

theorem sameOutput_foldl {c : SessionBuffer} (same : SameOutput b c) (entries : List OutputEntry) :
    SameOutput (entries.foldl push b) (entries.foldl push c) := by
  induction entries generalizing b c with
  | nil => exact same
  | cons entry rest ih => exact ih (sameOutput_push same entry)

theorem replay_eq (b : SessionBuffer) (entries : List OutputMsg) :
    b.replay entries = (entries.filterMap fun m => (parseOutputEntry m).map Prod.snd).foldl push b := by
  unfold replay
  induction entries generalizing b with
  | nil => rfl
  | cons m rest ih =>
    rw [List.foldl_cons,ih,List.filterMap_cons]
    cases parseOutputEntry m <;> rfl

theorem sameOutput_updateStatus (exitCode : Option Int) (status : Option String) :
    SameOutput b (b.updateStatus exitCode status) := by
  unfold updateStatus
  split <;> exact ⟨rfl,rfl,rfl⟩

theorem sameOutput_updatePty (pty : Option Bool) : SameOutput b (b.updatePty pty) := by
  cases pty <;> exact ⟨rfl,rfl,rfl⟩

theorem sameOutput_trans {c d : SessionBuffer} (first : SameOutput b c) (second : SameOutput c d) : SameOutput b d :=
  ⟨second.entries.trans first.entries,second.lastSeq.trans first.lastSeq,second.droppedCount.trans first.droppedCount⟩

/-- Receiving a message changes the output by pushes only. -/
theorem receive_output (b : SessionBuffer) (m : Message) : SameOutput ((b.pushes m).foldl push b) (b.receive m) := by
  have same : ∀ c : SessionBuffer, SameOutput c c := fun c => ⟨rfl,rfl,rfl⟩
  cases m with
  | output m =>
    simp only [receive,pushes,Message.brings]
    cases parseOutputEntry m <;> exact same _
  | exited sessionId exitCode =>
    have ended : SameOutput b { b with status := .exited, exitCode := exitCode.map asI32 } := ⟨rfl,rfl,rfl⟩
    exact sameOutput_push ended _
  | gap sessionId reason => exact same _
  | attached sessionId status exitCode pty entries =>
    cases entries with
    | none => exact same _
    | some entries =>
      have told : SameOutput b ((b.updateStatus exitCode status).updatePty pty) :=
        sameOutput_trans (sameOutput_updateStatus exitCode status) (sameOutput_updatePty pty)
      have replayed := sameOutput_foldl told (entries.filterMap fun m => (parseOutputEntry m).map Prod.snd)
      rw [← replay_eq ((b.updateStatus exitCode status).updatePty pty) entries] at replayed
      exact ⟨replayed.entries,replayed.lastSeq,replayed.droppedCount⟩
  | closed sessionId | error code sessionId request => exact ⟨rfl,rfl,rfl⟩
  | started sessionId pty request | listed request | aiStatusAck sessionId request | other => exact same _

/-! ### The entries that stay -/

theorem push_entries (within : b.entries.length ≤ maxBufferEntries) (entry : OutputEntry) :
    (b.push entry).entries = (b.entries ++ [entry]).rtake maxBufferEntries := by
  unfold push List.rtake
  dsimp only
  split
  · next full =>
    have one : (b.entries ++ [entry]).length - maxBufferEntries = 1 := by simp; omega
    rw [one,List.drop_append_of_le_length (by unfold maxBufferEntries at full; omega)]
  · next room =>
    have none_ : (b.entries ++ [entry]).length - maxBufferEntries = 0 := by simp; omega
    rw [none_,List.drop_zero]

theorem rtake_length_le {α : Type} (l : List α) (n : Nat) : (l.rtake n).length ≤ n := by
  simp [List.rtake]; omega

theorem rtake_rtake_append {α : Type} (first second : List α) (n : Nat) :
    ((first.rtake n) ++ second).rtake n = (first ++ second).rtake n := by
  simp only [List.rtake,List.drop_append,List.drop_drop,List.length_append,List.length_drop]
  congr 2 <;> omega

/-- After any number of pushes the last entries are there. -/
theorem foldl_push_entries (within : b.entries.length ≤ maxBufferEntries) (entries : List OutputEntry) :
    (entries.foldl push b).entries = (b.entries ++ entries).rtake maxBufferEntries := by
  induction entries generalizing b with
  | nil =>
    have whole : b.entries.length - maxBufferEntries = 0 := by omega
    simp [List.rtake,whole]
  | cons entry rest ih =>
    have bounded : (b.push entry).entries.length ≤ maxBufferEntries := by
      rw [push_entries within]
      exact rtake_length_le _ _
    rw [List.foldl_cons,ih bounded,push_entries within,rtake_rtake_append,List.append_assoc,List.singleton_append]

theorem foldl_push_lastSeq (entries : List OutputEntry) :
    (entries.foldl push b).lastSeq = (entries.map OutputEntry.seq).foldl max b.lastSeq := by
  induction entries generalizing b with
  | nil => rfl
  | cons entry rest ih => rw [List.foldl_cons,ih]; rfl

theorem foldl_push_length (within : b.entries.length ≤ maxBufferEntries) (entries : List OutputEntry) :
    (entries.foldl push b).entries.length ≤ maxBufferEntries := by
  rw [foldl_push_entries within]
  exact rtake_length_le _ _

end SessionBuffer
end Sctl.McpClient
