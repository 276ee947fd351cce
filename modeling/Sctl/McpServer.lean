import Mathlib.Data.List.Infix
import Sctl.Json
import Sctl.Runs
import Sctl.Texts

/-!
The MCP server on stdio (`mcp/src/mcp.rs`). The loop reads a line, answers it and
goes on with the next one; what it sends goes through a channel of 64 messages to
the task that owns stdout. `tools/list` may spawn a task that loads playbooks in
the background and then sends a notification through the same channel. What the
registry, the tools and the JSON parser answer is given with the actions and as a
parameter; kept beside the state are the lines, what they were answered with, and
what the writer took from the channel.
-/
namespace Sctl.McpServer
open Runs

/-- `ToolResult` of a tool call. -/
structure ToolResult where
  content : Json
  isError : Bool
  toolsChanged : Bool

/-- What a task sends, and whether it is a background load. -/
structure Message where
  background : Bool
  value : Json

/-- The capacity of the channel. -/
def capacity : Nat := 64

def version : String × Json := ("jsonrpc",.string "2.0")

def listChanged : Json := .object [version,("method",.string "notifications/tools/list_changed")]

def parseError (e : String) : Json :=
  .object [version,("id",.null),
    ("error",.object [("code",.number "-32700"),("message",.string ("Parse error: " ++ e))])]

def methodNotFound (method : String) (id : Json) : Json :=
  .object [version,("id",id),
    ("error",.object [("code",.number "-32601"),("message",.string ("Method not found: " ++ method))])]

def handleInitialize (serverVersion : String) : Json :=
  .object [version,("result",.object [("protocolVersion",.string "2024-11-05"),
    ("capabilities",.object [("tools",.object [("listChanged",.bool true)])]),
    ("serverInfo",.object [("name",.string "mcp-sctl"),("version",.string serverVersion)])])]

def toolsListed (tools : Json) : Json := .object [version,("result",.object [("tools",tools)])]

def toolCalled (result : ToolResult) : Json :=
  .object [version,("result",.object (("content",result.content) :: if result.isError then [("isError",.bool true)] else []))]

/-- `inject_id` into an object. -/
def injectId (response id : Json) : Json := (response.set "id" id).getD response

/-- What a line asks the server for. -/
inductive Asks
  | nothing
  | answer (message : Json)
  | list (id : Json)
  | call (id : Json) (name : String) (args : Json)

section
variable (parse : List Char → Except String Json) (serverVersion : String)

/-- A line up to the first thing that the loop waits for. -/
def asks (line : List Char) : Asks :=
  let trimmed := Texts.trim line
  if trimmed = [] then .nothing
  else match parse trimmed with
    | .error e => .answer (parseError e)
    | .ok request =>
      match request.field "id" with
      | none => .nothing
      | some id =>
        match (request.str "method").getD "" with
        | "initialize" => .answer (injectId (handleInitialize serverVersion) id)
        | "tools/list" => .list id
        | "tools/call" =>
          let params := (request.field "params").getD (.object [])
          .call id ((params.str "name").getD "") ((params.field "arguments").getD (.object []))
        | "ping" => .answer (injectId (.object [version,("id",id),("result",.object [])]) id)
        | method => .answer (injectId (methodNotFound method id) id)

/-- The id that the answer carries. -/
def Asks.id : Asks → Option Json
  | .nothing => none
  | .answer message => message.field "id"
  | .list id => some id
  | .call id _ _ => some id

/-- Where the loop stands, with the line that it is at. -/
inductive Pc
  | reading
  /-- It asks whether a device has playbooks that were not loaded. -/
  | checking (line : List Char) (id : Json)
  | defining (line : List Char) (id : Json)
  | calling (line : List Char) (id : Json)
  /-- It sends what a line is answered with. -/
  | sending (messages : List Json)
  /-- It has dropped its sender and waits for the writer. -/
  | closing
  | returned

structure State where
  pc : Pc
  channel : List Message
  /-- The background loads that run, and those that have yet to send their notification. -/
  loading : Nat
  telling : Nat
  /-- The lines that were read. -/
  lines : List (List Char)
  /-- The lines for which the loop knows the answer, with what they are answered with. -/
  handled : List (List Char × List Json)
  spawned : Nat
  taken : List Message
  written : List Json

def start : State := ⟨.reading,[],0,0,[],[],0,[],[]⟩

inductive Action
  | line (text : List Char)
  /-- Stdin has ended, or cannot be read. -/
  | eof
  | checked (unloaded : Bool)
  | defined (tools : Json)
  | called (result : ToolResult)
  | send
  /-- A background load comes to its end. -/
  | loaded
  | tell
  /-- The writer takes a message, and writes it if stdout takes it. -/
  | write (accepted : Bool)
  | finish

/-- The loop goes on to send what a line is answered with. -/
def State.reply (s : State) (line : List Char) (messages : List Json) : State :=
  { s with pc := .sending messages, handled := s.handled ++ [(line,messages)] }

def step (s : State) : Action → Option State
  | .line text =>
    match s.pc with
    | .reading =>
      let read := { s with lines := s.lines ++ [text] }
      match asks parse serverVersion text with
      | .nothing => some (read.reply text [])
      | .answer message => some (read.reply text [message])
      | .list id => some { read with pc := .checking text id }
      | .call id _ _ => some { read with pc := .calling text id }
    | _ => none
  | .eof =>
    match s.pc with
    | .reading => some { s with pc := .closing }
    | _ => none
  | .checked unloaded =>
    match s.pc with
    | .checking line id =>
      let n := if unloaded then 1 else 0
      some { s with pc := .defining line id, loading := s.loading + n, spawned := s.spawned + n }
    | _ => none
  | .defined tools =>
    match s.pc with
    | .defining line id => some (s.reply line [injectId (toolsListed tools) id])
    | _ => none
  | .called result =>
    match s.pc with
    | .calling line id =>
      some (s.reply line (injectId (toolCalled result) id :: if result.toolsChanged then [listChanged] else []))
    | _ => none
  | .send =>
    match s.pc with
    | .sending [] => some { s with pc := .reading }
    | .sending (m :: rest) =>
      if s.channel.length < capacity then some { s with pc := .sending rest, channel := s.channel ++ [⟨false,m⟩] } else none
    | _ => none
  | .loaded => if 0 < s.loading then some { s with loading := s.loading - 1, telling := s.telling + 1 } else none
  | .tell =>
    if 0 < s.telling ∧ s.channel.length < capacity then
      some { s with telling := s.telling - 1, channel := s.channel ++ [⟨true,listChanged⟩] }
    else none
  | .write accepted =>
    match s.channel with
    | [] => none
    | m :: rest =>
      some { s with
        channel := rest
        taken := s.taken ++ [m]
        written := s.written ++ if accepted then [m.value] else [] }
  | .finish =>
    match s.pc,s.channel with
    | .closing,[] => if s.loading = 0 ∧ s.telling = 0 then some { s with pc := .returned } else none
    | _,_ => none

/-! ### What the client may rely on -/

def ids (messages : List Json) : List Json := messages.filterMap fun m => m.field "id"

/-- What the loop sent, without the background loads. -/
def foreground (messages : List Message) : List Json :=
  (messages.filter fun m => !m.background).map Message.value

def notices (messages : List Message) : Nat := messages.countP Message.background

/-- A line is answered with these messages. -/
inductive Answers (line : List Char) : List Json → Prop
  | nothing : asks parse serverVersion line = .nothing → Answers line []
  | answer {message : Json} : asks parse serverVersion line = .answer message → Answers line [message]
  | list {id : Json} (tools : Json) : asks parse serverVersion line = .list id → Answers line [injectId (toolsListed tools) id]
  | call {id args : Json} {name : String} (result : ToolResult) : asks parse serverVersion line = .call id name args →
      Answers line (injectId (toolCalled result) id :: if result.toolsChanged then [listChanged] else [])

/-- The line that the loop does not know the answer to yet. -/
def Pc.line : Pc → Option (List Char)
  | .checking line _ => some line
  | .defining line _ => some line
  | .calling line _ => some line
  | _ => none

/-- The loop waits for what its line asks for. -/
def Pc.waitsFor : Pc → Prop
  | .checking line id => asks parse serverVersion line = .list id
  | .defining line id => asks parse serverVersion line = .list id
  | .calling line id => ∃ name args, asks parse serverVersion line = .call id name args
  | _ => True

def Pc.pending : Pc → List Json
  | .sending messages => messages
  | _ => []

/-- What was sent, to the writer or as far as the channel. -/
def State.sent (s : State) : List Message := s.taken ++ s.channel

/-- The books of the loop while it is at a line and has yet to send some messages: what it sent
    and has yet to send is what its lines are answered with, and each load is told once. -/
structure Books (s : State) (line : Option (List Char)) (pending : List Json) : Prop where
  lines : s.lines = s.handled.map Prod.fst ++ line.toList
  answered : ∀ h ∈ s.handled, Answers parse serverVersion h.1 h.2
  sent : foreground s.sent ++ pending = s.handled.flatMap Prod.snd
  told : notices s.sent + s.telling + s.loading = s.spawned
  plain : ∀ m ∈ s.sent, m.background = true → m.value = listChanged
  /-- A line that is answered at once spawns nothing. -/
  fresh : s.handled = [] → (∀ text ∈ line, ∃ message, asks parse serverVersion text = .answer message) → s.spawned = 0
  opening : ∀ h ∈ s.handled.head?, ∀ message, asks parse serverVersion h.1 = .answer message →
    (s.sent = [] ∧ s.spawned = 0 ∧ pending = [message]) ∨ ∃ more, s.sent = ⟨false,message⟩ :: more
  written : s.written.Sublist (s.taken.map Message.value)

structure Orderly (s : State) : Prop where
  books : Books parse serverVersion s s.pc.line s.pc.pending
  waits : s.pc.waitsFor parse serverVersion
  returned : s.pc = .returned → s.channel = [] ∧ s.telling = 0 ∧ s.loading = 0

end

section
variable {parse : List Char → Except String Json} {serverVersion : String} {s t : State}
  {line : Option (List Char)} {pending : List Json}

theorem foreground_append (first second : List Message) :
    foreground (first ++ second) = foreground first ++ foreground second := by
  simp [foreground]

theorem notices_append (first second : List Message) : notices (first ++ second) = notices first + notices second := by
  simp [notices]

theorem nothing_sent {messages : List Message} (none_ : foreground messages = []) (quiet : notices messages = 0) :
    messages = [] := by
  cases messages with
  | nil => rfl
  | cons m rest =>
    obtain ⟨background,value⟩ := m
    cases background with
    | true => simp [notices] at quiet
    | false => simp [foreground] at none_

namespace Books

/-- A line is read. -/
theorem read (books : Books parse serverVersion s none []) (text : List Char) :
    Books parse serverVersion { s with lines := s.lines ++ [text] } (some text) [] :=
  { books with
    lines := by simp [books.lines]
    fresh := fun first _ => books.fresh first (by simp) }

/-- The answer to the line is known. -/
theorem reply {text : List Char} {messages : List Json} (books : Books parse serverVersion s (some text) [])
    (answers : Answers parse serverVersion text messages) :
    Books parse serverVersion (s.reply text messages) none messages where
  lines := by simp [State.reply,books.lines]
  answered := List.forall_mem_append.mpr ⟨books.answered,List.forall_mem_singleton.mpr answers⟩
  sent := by
    have before := books.sent
    rw [List.append_nil] at before
    show foreground s.sent ++ messages = _
    rw [before]
    simp [State.reply]
  told := books.told
  plain := books.plain
  fresh := by simp [State.reply]
  opening := by
    intro h head message asked
    cases handled : s.handled with
    | nil =>
      obtain rfl : (text,messages) = h := by simpa [State.reply,handled] using head
      have quiet : s.spawned = 0 := books.fresh handled fun _ member => Option.mem_some_iff.mp member ▸ ⟨message,asked⟩
      have silent : s.sent = [] := by
        refine nothing_sent ?_ ?_
        · simpa [handled] using books.sent
        · have told := books.told
          omega
      refine .inl ⟨silent,quiet,?_⟩
      cases answers with
      | nothing other => cases asked.symm.trans other
      | answer other => cases asked.symm.trans other; rfl
      | list _ other => cases asked.symm.trans other
      | call _ other => cases asked.symm.trans other
    | cons first rest =>
      have member : h ∈ s.handled.head? := by simpa [State.reply,handled] using head
      rcases books.opening h member message asked with ⟨_,_,impossible⟩ | later
      · cases impossible
      · exact .inr later
  written := books.written

/-- A background load is spawned while the tools are listed. -/
theorem spawn {text : List Char} {id : Json} (books : Books parse serverVersion s (some text) [])
    (asked : asks parse serverVersion text = .list id) (n : Nat) :
    Books parse serverVersion { s with loading := s.loading + n, spawned := s.spawned + n } (some text) [] :=
  { books with
    told := by
      have told := books.told
      show notices s.sent + s.telling + (s.loading + n) = s.spawned + n
      omega
    fresh := by
      intro _ answered
      obtain ⟨message,other⟩ := answered text rfl
      cases asked.symm.trans other
    opening := by
      intro h head message answered
      rcases books.opening h head message answered with ⟨_,_,impossible⟩ | later
      · cases impossible
      · exact .inr later }

/-- A background load sends its notification. -/
theorem tell (books : Books parse serverVersion s line pending) (left : 0 < s.telling) :
    Books parse serverVersion { s with telling := s.telling - 1, channel := s.channel ++ [⟨true,listChanged⟩] } line pending := by
  have sent : State.sent { s with telling := s.telling - 1, channel := s.channel ++ [⟨true,listChanged⟩] } =
      s.sent ++ [⟨true,listChanged⟩] := by
    simp [State.sent]
  have told := books.told
  refine { books with sent := ?_, told := ?_, plain := ?_, opening := ?_ }
  · rw [sent,foreground_append,← books.sent]
    simp [foreground]
  · rw [sent,notices_append]
    simp only [notices,List.countP_singleton,if_true]
    simp only [notices] at told
    omega
  · rw [sent]
    exact List.forall_mem_append.mpr ⟨books.plain,List.forall_mem_singleton.mpr fun _ => rfl⟩
  · intro h head message asked
    rw [sent]
    rcases books.opening h head message asked with ⟨_,quiet,_⟩ | ⟨more,already⟩
    · omega
    · exact .inr ⟨more ++ [⟨true,listChanged⟩],by rw [already]; rfl⟩

/-- The writer takes a message. -/
theorem take {m : Message} {rest : List Message} (books : Books parse serverVersion s line pending)
    (next : s.channel = m :: rest) (accepted : Bool) :
    Books parse serverVersion { s with
      channel := rest
      taken := s.taken ++ [m]
      written := s.written ++ if accepted then [m.value] else [] } line pending := by
  have sent : (s.taken ++ [m]) ++ rest = s.sent := by simp [State.sent,next]
  refine { books with sent := ?_, told := ?_, plain := ?_, opening := ?_, written := ?_ }
  · simpa only [State.sent,sent] using books.sent
  · simpa only [State.sent,sent] using books.told
  · simpa only [State.sent,sent] using books.plain
  · simpa only [State.sent,sent] using books.opening
  · rw [List.map_append]
    refine books.written.append ?_
    cases accepted <;> simp

end Books

theorem ids_append (first second : List Json) : ids (first ++ second) = ids first ++ ids second := List.filterMap_append

end
end Sctl.McpServer
