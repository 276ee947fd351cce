import Sctl.Lines
import Sctl.Runs
import Sctl.Utf8

/-!
The supervisor of the MCP server (`mcp/src/supervisor.rs`): a proxy between the
client's lines and a worker process that is replaced on a reload or when it dies.
What a worker writes goes through a pipe and a `BufReader`; the proxy loop, the
draining of an old worker and the second initialization of a new one each have a
reader of their own, and what a reader holds is gone when it is dropped. In the
proxy loop a line of the client or a reload cancels `read_line`, which leaves what
it took in `worker_line`.
-/
namespace Sctl.Supervisor
open Sctl.Runs

abbrev Bytes := List UInt8

def newline : UInt8 := 10

/-- The text that `read_line` appends has to be UTF-8. -/
def isUtf8 (bytes : Bytes) : Bool := Utf8.encode (Utf8.decodeFrom none bytes) = bytes

/-- What the supervisor looks at in a message: its method (`""` without one) and its id, as JSON. -/
structure Rpc where
  method : String
  id : Option String
deriving DecidableEq

/-- A worker, with what it wrote to its stdout and what of that the client was sent. -/
structure Worker where
  inbox : List Bytes
  /-- Lines that it began to write. -/
  outbox : Bytes
  pipe : Bytes
  alive : Bool
  wrote : Bytes
  forwarded : Bytes

def Worker.new : Worker := ⟨[],[],[],true,[],[]⟩

/-- What an earlier worker wrote, and what of that the client was sent. -/
structure Printed where
  wrote : Bytes
  forwarded : Bytes

inductive Phase
  /-- `proxy_loop`. -/
  | proxy
  /-- `drain_worker`. -/
  | drain
  /-- A new worker was spawned. -/
  | spawned
  /-- It was sent the stored initialization, and its answer is read. -/
  | reinit
  /-- `tools/list_changed` and the pending requests are sent next. -/
  | ready
  | exited
deriving DecidableEq

structure State where
  phase : Phase
  initRequest : Option Bytes
  initNotification : Option Bytes
  pending : List (String × Bytes)
  worker : Worker
  reader : Bytes
  line : Bytes
  /-- What the client was sent. -/
  client : Bytes
  past : List Printed

def State.start : State := ⟨.proxy,none,none,[],.new,[],[],[],[]⟩

def listChanged : Bytes :=
  Utf8.encode "\x7b\"jsonrpc\":\"2.0\",\"method\":\"notifications/tools/list_changed\"\x7d\n".toList

/-! ### The messages that are kept -/

/-- `IndexMap::insert`. -/
def insertPending (id : String) (line : Bytes) : List (String × Bytes) → List (String × Bytes)
  | [] => [(id,line)]
  | e :: rest => if e.1 = id then (id,line) :: rest else e :: insertPending id line rest

section
variable (rpc : Bytes → Option Rpc)

def trackRequest (s : State) (line : Bytes) : State :=
  match rpc line with
  | none => s
  | some message =>
    if message.method = "initialize" then { s with initRequest := some line }
    else if message.method = "notifications/initialized" then { s with initNotification := some line }
    else match message.id with
      | some id => { s with pending := insertPending id line s.pending }
      | none => s

/-- `IndexMap::shift_remove` of the message's id. -/
def removePending (line : Bytes) (pending : List (String × Bytes)) : List (String × Bytes) :=
  match (rpc line).bind Rpc.id with
  | some id => pending.filter (·.1 ≠ id)
  | none => pending

def trackResponse (s : State) (line : Bytes) : State := { s with pending := removePending rpc line s.pending }

/-! ### Reading the worker -/

/-- `fill_buf`: an empty reader takes some bytes from the pipe. -/
def fill (s : State) (n : Nat) : Option State :=
  if s.reader ≠ [] then some s
  else if n = 0 ∨ s.worker.pipe = [] then none
  else some { s with
    reader := s.worker.pipe.take n
    worker := { s.worker with pipe := s.worker.pipe.drop n } }

/-- A line goes to the client. -/
def forward (s : State) (line : Bytes) : State :=
  let s := trackResponse rpc s line
  { s with client := s.client ++ line, line := [], worker := { s.worker with forwarded := s.worker.forwarded ++ line } }

/-- `proxy_loop` returns and the worker's stdin is closed. -/
def leave (s : State) : State := { s with phase := .drain, reader := [], line := [] }

/-- `drain_worker` returns; the worker is killed and another one spawned. -/
def replace (s : State) : State :=
  { s with
    phase := .spawned
    reader := []
    line := []
    past := s.past ++ [⟨s.worker.wrote,s.worker.forwarded⟩]
    worker := .new }

/-- The first line of a new worker is taken for its answer and dropped with its reader. From then on
    the worker wrote what is behind it. -/
def reinitialized (s : State) (rest : Bytes) : State :=
  { s with phase := .ready, reader := [], line := [], worker := { s.worker with wrote := rest ++ s.worker.pipe } }

/-- The supervisor gives up before a new worker has answered; `unread` is what the worker wrote behind the answer. -/
def exit (s : State) (unread : Bytes) : State :=
  { s with phase := .exited, reader := [], line := [], past := s.past ++ [⟨unread,[]⟩], worker := .new }

/-- What is behind the first line. -/
def afterFirst (bytes : Bytes) : Bytes := ((Lines.cut newline bytes).map Prod.snd).getD []

/-- `read_line` returned a line, `rest` is still in the reader. -/
def lineRead (s : State) (line rest : Bytes) : Option State :=
  match s.phase with
  | .proxy =>
    if isUtf8 line then some { forward rpc s line with reader := rest }
    else some (leave s)
  | .drain =>
    if isUtf8 line then
      let s := forward rpc s line
      if s.pending = [] then some (replace s) else some { s with reader := rest }
    else some (replace s)
  | .reinit =>
    if isUtf8 line then some (reinitialized s rest) else some (exit s (rest ++ s.worker.pipe))
  | _ => none

/-- The phases in which the worker's stdout is read. -/
def Phase.reads : Phase → Bool
  | .proxy | .drain | .reinit => true
  | _ => false

inductive Action
  /-- A line of the client; `written` is whether the worker's stdin takes it. -/
  | client (line : Bytes) (written : Bool)
  /-- `read_line` goes on, with `n` bytes from the pipe if its reader is empty. -/
  | read (n : Nat)
  /-- It comes to the end of the worker's output. -/
  | eof
  | reload
  /-- The time to drain, or to answer the initialization, is over. -/
  | timeout
  /-- The stored initialization is written to the new worker, if there is one. -/
  | greet (written : Bool)
  /-- The client is told of the reload and the first `n` pending requests are written. -/
  | replay (n : Nat)
  /-- The worker begins to write a line. -/
  | emit (text : Bytes)
  /-- It begins to write its answer to a line that it received. -/
  | answer (line text : Bytes)
  /-- It writes some bytes. -/
  | put (n : Nat)
  | die

def step (s : State) : Action → Option State
  | .client line written =>
    if s.phase = .proxy then
      let s := trackRequest rpc s line
      if written then
        if s.worker.alive then
          some { s with line := [], worker := { s.worker with inbox := s.worker.inbox ++ [line] } }
        else none
      else some (leave s)
    else none
  | .read n =>
    if s.phase.reads then
      (fill s n).bind fun s =>
        match Lines.cut newline s.reader with
        | some (last,rest) => lineRead rpc s (s.line ++ last) rest
        | none => some { s with line := s.line ++ s.reader, reader := [] }
    else none
  | .eof =>
    if s.phase.reads ∧ s.reader = [] ∧ s.worker.pipe = [] ∧ s.worker.alive = false then
      if s.line = [] then
        match s.phase with
        | .proxy => some (leave s)
        | .drain => some (replace s)
        | _ => some (exit s [])
      else lineRead rpc s s.line []
    else none
  | .reload => if s.phase = .proxy then some (leave s) else none
  | .timeout =>
    match s.phase with
    | .drain => some (replace s)
    | .reinit => some (exit s (afterFirst (s.line ++ (s.reader ++ s.worker.pipe))))
    | _ => none
  | .greet written =>
    if s.phase = .spawned then
      match s.initRequest with
      | none => some { s with phase := .ready }
      | some request =>
        if written then
          if s.worker.alive then
            some { s with
              phase := .reinit
              worker := { s.worker with inbox := request :: s.initNotification.toList } }
          else none
        else some (exit s s.worker.wrote)
    else none
  | .replay n =>
    if s.phase = .ready ∧ (s.worker.alive = true → s.pending.length ≤ n) then
      some { s with
        phase := .proxy
        client := s.client ++ listChanged
        worker := { s.worker with inbox := s.worker.inbox ++ (s.pending.take n).map Prod.snd } }
    else none
  | .emit text =>
    if s.worker.alive ∧ newline ∉ text then
      some { s with worker := { s.worker with outbox := s.worker.outbox ++ text ++ [newline] } }
    else none
  | .answer line text =>
    if s.worker.alive ∧ line ∈ s.worker.inbox ∧ newline ∉ text then
      some { s with worker := { s.worker with
        inbox := s.worker.inbox.erase line
        outbox := s.worker.outbox ++ text ++ [newline] } }
    else none
  | .put n =>
    if s.worker.alive then
      some { s with worker := { s.worker with
        outbox := s.worker.outbox.drop n
        pipe := s.worker.pipe ++ s.worker.outbox.take n
        wrote := s.worker.wrote ++ s.worker.outbox.take n } }
    else none
  | .die => some { s with worker := { s.worker with alive := false, inbox := [], outbox := [] } }

/-! ### What the client is sent -/

/-- The worker's complete lines were sent, whole, once and in order; the rest are unfinished lines. -/
def Printed.Delivered (w : Printed) : Prop :=
  ∃ whole rest sent, w.wrote = whole ++ rest ∧ w.forwarded = whole ++ sent ∧ newline ∉ rest ∧ newline ∉ sent

/-- What is still read of the worker's output. -/
def State.unread (s : State) : Bytes := s.line ++ (s.reader ++ s.worker.pipe)

/-- The worker is dead and no complete line of it is left to be read. -/
def Over (s : State) : Prop := s.worker.alive = false ∧ newline ∉ s.unread

/-- The output of the earlier workers as it was sent, each followed by the notification of the reload. -/
def State.announced (s : State) : Bytes := (s.past.map fun w => w.forwarded ++ listChanged).flatten

/-- The notifications in it that are not sent yet, or never are. -/
def Phase.unsent : Phase → Bytes
  | .proxy | .drain => []
  | .exited => listChanged ++ listChanged
  | _ => listChanged

/-- No line of a worker is lost or torn. The complete lines of the earlier workers were sent, each
    whole, once and in order; of the present worker all that it wrote was sent or is still read, but
    for the unfinished end of a dead one. -/
structure Intact (s : State) : Prop where
  past : ∀ w ∈ s.past, w.Delivered
  present : s.worker.wrote = s.worker.forwarded ++ s.unread ∨ Over s ∧ Printed.Delivered ⟨s.worker.wrote,s.worker.forwarded⟩
  sent : s.client ++ s.phase.unsent = s.announced ++ s.worker.forwarded

/-- The line that `read` completes, with what is in the reader then and in the pipe. -/
def completes (s : State) (n : Nat) : Option (Bytes × Bytes × Bytes) :=
  (fill s n).bind fun t => (Lines.cut newline t.reader).map fun c => (t.line ++ c.1,c.2,t.worker.pipe)

/-- Nothing was taken from the pipe that was not sent, or nothing of it matters any more. -/
def Clear (s : State) : Prop := s.line = [] ∧ s.reader = [] ∨ Over s

/-- What a line that is read has to be: UTF-8, the last complete one if the drain ends with it, and
    the only one if it is the answer to the second initialization. -/
def KeepsRead (s : State) (line rest pipe : Bytes) : Prop :=
  match s.phase with
  | .proxy => isUtf8 line = true
  | .drain => isUtf8 line = true ∧ (removePending rpc line s.pending = [] → newline ∉ rest ++ pipe)
  | _ =>
    if isUtf8 line then rest = [] ∨ s.worker.alive = false ∧ newline ∉ rest ++ pipe
    else newline ∉ rest ++ pipe

/-- The lines of a step stay whole:
    a line of the client that the worker takes comes when no line of the worker is begun;
    the proxy loop is left when nothing was taken from the pipe that was not sent;
    when the drain or the wait for an answer ends, no complete line is left. -/
def KeepsLines (s : State) : Action → Prop
  | .client _ written => if written then s.line = [] else Clear s
  | .reload => Clear s
  | .timeout => if s.phase = .drain then newline ∉ s.unread else newline ∉ afterFirst s.unread
  | .read n => ∀ line rest pipe, completes s n = some (line,rest,pipe) → KeepsRead rpc s line rest pipe
  | .greet written => written = false → s.initRequest ≠ none → newline ∉ s.worker.wrote
  | _ => True

/-- Nothing is sent of a new worker before the client is told of the reload, and the line that is
    begun has no end. -/
structure Begun (s : State) : Prop where
  fresh : s.phase ≠ .proxy → s.phase ≠ .drain → s.worker.forwarded = []
  unfinished : newline ∉ s.line

variable {rpc} {s t : State}

/-! ### What the parts of a step change -/

theorem trackRequest_eq (s : State) (line : Bytes) :
    trackRequest rpc s line = { s with
      initRequest := (trackRequest rpc s line).initRequest
      initNotification := (trackRequest rpc s line).initNotification
      pending := (trackRequest rpc s line).pending } := by
  unfold trackRequest
  repeat' split
  all_goals rfl

/-- Filling the reader only moves bytes on. -/
structure Filled (s t : State) : Prop where
  same : t = { s with reader := t.reader, worker := { s.worker with pipe := t.worker.pipe } }
  unread : t.unread = s.unread

theorem filled {n : Nat} (got : fill s n = some t) : Filled s t := by
  unfold fill at got
  split at got
  · cases got
    exact ⟨rfl,rfl⟩
  · next empty =>
    split at got
    · cases got
    · cases got
      refine ⟨rfl,?_⟩
      rw [not_ne_iff] at empty
      simp [State.unread,empty]

/-! ### Delivery -/

theorem delivered_iff (sent unread : Bytes) : Printed.Delivered ⟨sent ++ unread,sent⟩ ↔ newline ∉ unread := by
  constructor
  · rintro ⟨whole,rest,more,wrote,forwarded,clear,-⟩ there
    dsimp only at wrote forwarded
    rw [forwarded,List.append_assoc] at wrote
    rw [← List.append_cancel_left wrote] at clear
    exact clear (List.mem_append_right _ there)
  · intro clear
    exact ⟨sent,unread,[],rfl,(List.append_nil _).symm,clear,by simp⟩

theorem delivered_more {wrote sent more : Bytes} (delivered : Printed.Delivered ⟨wrote,sent⟩) (clear : newline ∉ more) :
    Printed.Delivered ⟨wrote,sent ++ more⟩ := by
  obtain ⟨whole,rest,sent',same,same',clear',clear''⟩ := delivered
  refine ⟨whole,rest,sent' ++ more,same,?_,clear',by simp [clear,clear'']⟩
  dsimp only at same'
  rw [same',List.append_assoc]

theorem Intact.delivered_iff (intact : Intact s) : Printed.Delivered ⟨s.worker.wrote,s.worker.forwarded⟩ ↔ newline ∉ s.unread := by
  rcases intact.present with flow | ⟨finished,delivered⟩
  · rw [flow]
    exact Supervisor.delivered_iff _ _
  · exact iff_of_true delivered finished.2

theorem intact_leave (intact : Intact s) (proxy : s.phase = .proxy) : Intact (leave s) ↔ Clear s := by
  have sent := intact.sent
  rw [proxy] at sent
  constructor
  · intro after
    rcases after.present with flow | ⟨⟨dead,-⟩,delivered⟩
    · rcases intact.present with flow' | ⟨finished,-⟩
      · have same := List.append_cancel_left (flow'.symm.trans flow)
        have empty : s.line ++ s.reader = [] := by
          rw [State.unread,← List.append_assoc] at same
          exact List.append_left_eq_self.mp same
        exact .inl (List.append_eq_nil_iff.mp empty)
      · exact .inr finished
    · exact .inr ⟨dead,intact.delivered_iff.mp delivered⟩
  · rintro (⟨line,reader⟩ | finished)
    · refine ⟨intact.past,?_,sent⟩
      have same : (leave s).unread = s.unread := by simp [State.unread,leave,line,reader]
      rw [Over,same]
      exact intact.present
    · refine ⟨intact.past,.inr ⟨⟨finished.1,?_⟩,intact.delivered_iff.mpr finished.2⟩,sent⟩
      intro there
      exact finished.2 (List.mem_append_right _ (List.mem_append_right _ there))

theorem intact_replace (intact : Intact s) (drain : s.phase = .drain) : Intact (replace s) ↔ newline ∉ s.unread := by
  rw [← intact.delivered_iff]
  constructor
  · intro after
    exact after.past _ (List.mem_append_right _ List.mem_cons_self)
  · intro delivered
    have sent := intact.sent
    rw [drain,Phase.unsent,List.append_nil] at sent
    refine ⟨?_,.inl rfl,?_⟩
    · intro w member
      rcases List.mem_append.mp member with before | new
      · exact intact.past w before
      · rw [List.mem_singleton.mp new]
        exact delivered
    · simp [replace,Phase.unsent,State.announced,sent,Worker.new]

theorem intact_exit {unread : Bytes} (intact : Intact s) (between : s.phase.unsent = listChanged)
    (fresh : s.worker.forwarded = []) :
    Intact (exit s unread) ↔ newline ∉ unread := by
  rw [← delivered_iff [] unread]
  constructor
  · intro after
    exact after.past _ (List.mem_append_right _ List.mem_cons_self)
  · intro delivered
    have sent := intact.sent
    rw [between,fresh,List.append_nil] at sent
    refine ⟨?_,.inl rfl,?_⟩
    · intro w member
      rcases List.mem_append.mp member with before | new
      · exact intact.past w before
      · rw [List.mem_singleton.mp new]
        exact delivered
    · have told : s.client ++ (listChanged ++ listChanged) = s.announced ++ listChanged := by rw [← sent,List.append_assoc]
      simpa [exit,Phase.unsent,State.announced,Worker.new] using told

/-! ### Lines that are read -/

/-- Sending what was read of the worker, a line or the unfinished end of its output. -/
theorem intact_forward {line rest : Bytes} (intact : Intact s) (told : s.phase.unsent = []) (read : s.line ++ s.reader = line ++ rest)
    (whole : newline ∈ line ∨ s.worker.alive = false ∧ newline ∉ s.unread) :
    Intact { forward rpc s line with reader := rest } := by
  have sent := intact.sent
  rw [told,List.append_nil] at sent
  have unread : s.unread = line ++ (rest ++ s.worker.pipe) := by
    rw [State.unread,← List.append_assoc,read,List.append_assoc]
  refine ⟨intact.past,?_,?_⟩
  · show s.worker.wrote = (s.worker.forwarded ++ line) ++ ([] ++ (rest ++ s.worker.pipe)) ∨ _
    rcases intact.present with flow | ⟨finished,delivered⟩
    · left
      rw [flow,unread,List.nil_append,List.append_assoc]
    · rcases whole with isLine | ⟨dead,clear⟩
      · exact (finished.2 (by rw [unread]; exact List.mem_append_left _ isLine)).elim
      · right
        rw [unread,List.mem_append,not_or] at clear
        exact ⟨⟨dead,clear.2⟩,delivered_more delivered clear.1⟩
  · show (s.client ++ line) ++ s.phase.unsent = s.announced ++ (s.worker.forwarded ++ line)
    rw [told,List.append_nil,sent,List.append_assoc]

theorem intact_reinitialized {rest : Bytes} (intact : Intact s) (reinit : s.phase = .reinit) (fresh : s.worker.forwarded = []) :
    Intact (reinitialized s rest) ↔ rest = [] ∨ s.worker.alive = false ∧ newline ∉ rest ++ s.worker.pipe := by
  have sent := intact.sent
  rw [reinit] at sent
  have present : (rest ++ s.worker.pipe = s.worker.forwarded ++ s.worker.pipe ∨ (s.worker.alive = false ∧ newline ∉ s.worker.pipe) ∧
      Printed.Delivered ⟨rest ++ s.worker.pipe,s.worker.forwarded⟩) ↔
      rest = [] ∨ s.worker.alive = false ∧ newline ∉ rest ++ s.worker.pipe := by
    rw [fresh]
    have nothing := delivered_iff [] (rest ++ s.worker.pipe)
    rw [List.nil_append] at nothing
    rw [nothing,List.nil_append,List.append_left_eq_self]
    refine or_congr_right ⟨fun both => ⟨both.1.1,both.2⟩,fun both => ⟨⟨both.1,?_⟩,both.2⟩⟩
    exact fun there => both.2 (List.mem_append_right _ there)
  rw [← present]
  exact ⟨fun after => after.present,fun here => ⟨intact.past,here,sent⟩⟩

theorem intact_lineRead {line rest : Bytes} (intact : Intact s) (begun : Begun s) (read : s.line ++ s.reader = line ++ rest)
    (isLine : newline ∈ line) (moved : lineRead rpc s line rest = some t) :
    Intact t ↔ KeepsRead rpc s line rest s.worker.pipe := by
  have there : newline ∈ s.unread := by
    rw [State.unread,← List.append_assoc,read]
    exact List.mem_append_left _ (List.mem_append_left _ isLine)
  unfold lineRead at moved
  unfold KeepsRead
  split at moved
  · next proxy =>
    simp only [proxy]
    split at moved
    · next valid =>
      cases moved
      exact iff_of_true (intact_forward intact (by rw [proxy]; rfl) read (.inl isLine)) valid
    · next invalid =>
      cases moved
      rw [intact_leave intact proxy]
      refine iff_of_false ?_ invalid
      rintro (⟨line',reader⟩ | finished)
      · rw [line',reader] at read
        rw [(List.append_eq_nil_iff.mp read.symm).1] at isLine
        cases isLine
      · exact finished.2 there
  · next drain =>
    simp only [drain]
    split at moved
    · next valid =>
      have sent : Intact { forward rpc s line with reader := rest } :=
        intact_forward intact (by rw [drain]; rfl) read (.inl isLine)
      dsimp only at moved
      split at moved
      · next none_ =>
        cases moved
        show Intact (replace { forward rpc s line with reader := rest }) ↔ _
        exact (intact_replace sent drain).trans ⟨fun clear => ⟨valid,fun _ => clear⟩,fun both => both.2 none_⟩
      · next some_ =>
        cases moved
        exact iff_of_true sent ⟨valid,fun ends => (some_ ends).elim⟩
    · next invalid =>
      cases moved
      rw [intact_replace intact drain]
      exact iff_of_false (fun clear => clear there) fun both => invalid both.1
  · next reinit =>
    have fresh := begun.fresh (by rw [reinit]; decide) (by rw [reinit]; decide)
    simp only [reinit]
    split at moved
    · next valid =>
      cases moved
      rw [intact_reinitialized intact reinit fresh,if_pos valid]
    · next invalid =>
      cases moved
      rw [intact_exit intact (by rw [reinit]; rfl) fresh,if_neg invalid]
  · cases moved

/-- The unfinished end of a dead worker's output is sent or dropped. -/
theorem intact_lastRead (intact : Intact s) (begun : Begun s) (ended : s.reader = [] ∧ s.worker.pipe = [] ∧ s.worker.alive = false)
    (moved : lineRead rpc s s.line [] = some t) : Intact t := by
  obtain ⟨reader,pipe,dead⟩ := ended
  have finished : Over s := by
    refine ⟨dead,?_⟩
    rw [State.unread,reader,pipe,List.append_nil]
    simpa using begun.unfinished
  have read : s.line ++ s.reader = s.line ++ [] := by rw [reader]
  unfold lineRead at moved
  split at moved
  · next proxy =>
    split at moved <;> cases moved
    · exact intact_forward intact (by rw [proxy]; rfl) read (.inr finished)
    · exact (intact_leave intact proxy).mpr (.inr finished)
  · next drain =>
    have sent : Intact { forward rpc s s.line with reader := [] } := intact_forward intact (by rw [drain]; rfl) read (.inr finished)
    have left_ : newline ∉ State.unread { forward rpc s s.line with reader := [] } := by
      show newline ∉ [] ++ ([] ++ s.worker.pipe)
      rw [pipe]
      simp
    split at moved
    · dsimp only at moved
      split at moved <;> cases moved
      · exact (intact_replace sent drain).mpr left_
      · exact sent
    · cases moved
      exact (intact_replace intact drain).mpr finished.2
  · next reinit =>
    have fresh := begun.fresh (by rw [reinit]; decide) (by rw [reinit]; decide)
    split at moved <;> cases moved
    · exact (intact_reinitialized intact reinit fresh).mpr (.inl rfl)
    · exact (intact_exit intact (by rw [reinit]; rfl) fresh).mpr (by rw [pipe]; simp)
  · cases moved

/-! ### Runs -/

theorem lineRead_line {line rest : Bytes} (moved : lineRead rpc s line rest = some t) : newline ∉ t.line := by
  unfold lineRead at moved
  split at moved
  · split at moved <;> cases moved <;> exact List.not_mem_nil
  · dsimp only at moved
    repeat' split at moved
    all_goals cases moved; exact List.not_mem_nil
  · split at moved <;> cases moved <;> exact List.not_mem_nil
  · cases moved

theorem begun_lineRead {line rest : Bytes} (begun : Begun s) (moved : lineRead rpc s line rest = some t) : Begun t where
  unfinished := lineRead_line moved
  fresh := by
    unfold lineRead at moved
    split at moved
    · next proxy =>
      split at moved <;> cases moved
      · exact fun other => (other proxy).elim
      · exact fun _ other => (other rfl).elim
    · next drain =>
      dsimp only at moved
      repeat' split at moved
      all_goals cases moved
      · exact fun _ _ => rfl
      · exact fun _ other => (other drain).elim
      · exact fun _ _ => rfl
    · next reinit =>
      have fresh := begun.fresh (by rw [reinit]; decide) (by rw [reinit]; decide)
      split at moved <;> cases moved
      · exact fun _ _ => fresh
      · exact fun _ _ => rfl
    · cases moved

theorem begun_filled (begun : Begun s) (fills : Filled s t) : Begun t := by
  rw [fills.same]
  exact ⟨begun.fresh,begun.unfinished⟩

theorem intact_filled (intact : Intact s) (fills : Filled s t) : Intact t := by
  have present := intact.present
  rw [Over,← fills.unread] at present
  rw [fills.same] at present ⊢
  exact ⟨intact.past,present,intact.sent⟩

theorem begun_step {a : Action} (begun : Begun s) (stepped : step rpc s a = some t) : Begun t := by
  cases a with
  | client line written =>
    simp only [step,Option.ite_none_right_eq_some] at stepped
    obtain ⟨proxy,moved⟩ := stepped
    rw [trackRequest_eq] at moved
    split at moved
    · rw [Option.ite_none_right_eq_some] at moved
      obtain ⟨-,moved⟩ := moved
      cases moved
      exact ⟨fun other => (other proxy).elim,List.not_mem_nil⟩
    · cases moved
      exact ⟨fun _ other => (other rfl).elim,List.not_mem_nil⟩
  | read n =>
    simp only [step,Option.ite_none_right_eq_some] at stepped
    obtain ⟨reads,moved⟩ := stepped
    obtain ⟨u,got,moved⟩ := Option.bind_eq_some_iff.mp moved
    have begun' := begun_filled begun (filled got)
    split at moved
    · exact begun_lineRead begun' moved
    · next none_ =>
      cases moved
      refine ⟨begun'.fresh,?_⟩
      show newline ∉ u.line ++ u.reader
      rw [List.mem_append,not_or]
      exact ⟨begun'.unfinished,Lines.cut_none_iff.mp none_⟩
  | eof =>
    simp only [step,Option.ite_none_right_eq_some] at stepped
    obtain ⟨-,moved⟩ := stepped
    split at moved
    · split at moved <;> cases moved
      · exact ⟨fun _ other => (other rfl).elim,List.not_mem_nil⟩
      · exact ⟨fun _ _ => rfl,List.not_mem_nil⟩
      · exact ⟨fun _ _ => rfl,List.not_mem_nil⟩
    · exact begun_lineRead begun moved
  | reload =>
    simp only [step,Option.ite_none_right_eq_some] at stepped
    obtain ⟨-,moved⟩ := stepped
    cases moved
    exact ⟨fun _ other => (other rfl).elim,List.not_mem_nil⟩
  | timeout =>
    simp only [step] at stepped
    split at stepped <;> cases stepped <;> exact ⟨fun _ _ => rfl,List.not_mem_nil⟩
  | greet written =>
    simp only [step,Option.ite_none_right_eq_some] at stepped
    obtain ⟨spawned,moved⟩ := stepped
    have fresh := begun.fresh (by rw [spawned]; decide) (by rw [spawned]; decide)
    repeat' split at moved
    all_goals cases moved
    · exact ⟨fun _ _ => fresh,begun.unfinished⟩
    · exact ⟨fun _ _ => fresh,begun.unfinished⟩
    · exact ⟨fun _ _ => rfl,List.not_mem_nil⟩
  | replay n =>
    simp only [step,Option.ite_none_right_eq_some] at stepped
    obtain ⟨-,moved⟩ := stepped
    cases moved
    exact ⟨fun other => (other rfl).elim,begun.unfinished⟩
  | emit text | answer line text | put n =>
    simp only [step,Option.ite_none_right_eq_some] at stepped
    obtain ⟨-,moved⟩ := stepped
    cases moved
    exact ⟨begun.fresh,begun.unfinished⟩
  | die =>
    cases stepped
    exact ⟨begun.fresh,begun.unfinished⟩

theorem intact_step {a : Action} (begun : Begun s) (intact : Intact s) (stepped : step rpc s a = some t) :
    Intact t ↔ KeepsLines rpc s a := by
  cases a with
  | client line written =>
    simp only [step,Option.ite_none_right_eq_some] at stepped
    obtain ⟨proxy,moved⟩ := stepped
    rw [trackRequest_eq] at moved
    split at moved
    · next written =>
      rw [Option.ite_none_right_eq_some] at moved
      obtain ⟨alive,moved⟩ := moved
      cases moved
      rw [KeepsLines,if_pos written]
      rcases intact.present with flow | ⟨⟨dead,-⟩,-⟩
      · constructor
        · intro after
          rcases after.present with flow' | ⟨⟨dead,-⟩,-⟩
          · exact List.append_left_eq_self.mp (List.append_cancel_left (flow.symm.trans flow'))
          · cases alive.symm.trans dead
        · intro empty
          refine ⟨intact.past,.inl ?_,intact.sent⟩
          rw [State.unread,empty] at flow
          exact flow
      · cases alive.symm.trans dead
    · next unwritten =>
      cases moved
      rw [KeepsLines,if_neg unwritten]
      exact intact_leave ⟨intact.past,intact.present,intact.sent⟩ proxy
  | read n =>
    simp only [step,Option.ite_none_right_eq_some] at stepped
    obtain ⟨reads,moved⟩ := stepped
    obtain ⟨u,got,moved⟩ := Option.bind_eq_some_iff.mp moved
    have fills := filled got
    have intact' := intact_filled intact fills
    split at moved
    · next last rest cut =>
      obtain ⟨isLine,bytes⟩ := Lines.cut_spec cut
      have whole : u.line ++ u.reader = (u.line ++ last) ++ rest := by rw [bytes,List.append_assoc]
      have exactly := intact_lineRead intact' (begun_filled begun fills) whole (List.mem_append_right _ isLine.sep_mem) moved
      rw [exactly]
      have here : completes s n = some (u.line ++ last,rest,u.worker.pipe) := by
        rw [completes,got,Option.bind_some,cut]
        rfl
      have same : ∀ pipe, KeepsRead rpc u (u.line ++ last) rest pipe ↔ KeepsRead rpc s (u.line ++ last) rest pipe := by
        intro pipe
        rw [fills.same]
        exact Iff.rfl
      constructor
      · intro keeps line rest' pipe done
        cases here.symm.trans done
        exact (same _).mp keeps
      · intro keeps
        exact (same _).mpr (keeps _ _ _ here)
    · next none_ =>
      cases moved
      refine iff_of_true ?_ ?_
      · have present := intact'.present
        have unread : State.unread { u with line := u.line ++ u.reader, reader := [] } = u.unread := by
          simp [State.unread]
        rw [Over,← unread] at present
        exact ⟨intact'.past,present,intact'.sent⟩
      · intro line rest pipe done
        rw [completes,got,Option.bind_some,none_] at done
        cases done
  | eof =>
    simp only [step,Option.ite_none_right_eq_some] at stepped
    obtain ⟨⟨reads,ended⟩,moved⟩ := stepped
    refine iff_of_true ?_ trivial
    split at moved
    · next empty =>
      split at moved
      · next proxy =>
        cases moved
        exact (intact_leave intact proxy).mpr (.inl ⟨empty,ended.1⟩)
      · next drain =>
        cases moved
        exact (intact_replace intact drain).mpr (by rw [State.unread,empty,ended.1,ended.2.1]; exact List.not_mem_nil)
      · next notProxy notDrain =>
        cases moved
        have reinit : s.phase = .reinit := by
          cases phase : s.phase <;> simp_all [Phase.reads]
        exact (intact_exit intact (by rw [reinit]; rfl) (begun.fresh notProxy notDrain)).mpr List.not_mem_nil
    · exact intact_lastRead intact begun ended moved
  | reload =>
    simp only [step,Option.ite_none_right_eq_some] at stepped
    obtain ⟨proxy,moved⟩ := stepped
    cases moved
    exact intact_leave intact proxy
  | timeout =>
    simp only [step] at stepped
    split at stepped
    · next drain =>
      cases stepped
      rw [KeepsLines,if_pos drain]
      exact intact_replace intact drain
    · next reinit =>
      cases stepped
      rw [KeepsLines,if_neg (by rw [reinit]; decide)]
      exact intact_exit intact (by rw [reinit]; rfl) (begun.fresh (by rw [reinit]; decide) (by rw [reinit]; decide))
    · cases stepped
  | greet written =>
    simp only [step,Option.ite_none_right_eq_some] at stepped
    obtain ⟨spawned,moved⟩ := stepped
    have fresh := begun.fresh (by rw [spawned]; decide) (by rw [spawned]; decide)
    have sent := intact.sent
    rw [spawned] at sent
    split at moved
    · next none_ =>
      cases moved
      exact iff_of_true ⟨intact.past,intact.present,sent⟩ fun _ some_ => (some_ none_).elim
    · next request some_ =>
      split at moved
      · next written =>
        rw [Option.ite_none_right_eq_some] at moved
        obtain ⟨-,moved⟩ := moved
        cases moved
        exact iff_of_true ⟨intact.past,intact.present,sent⟩ fun unwritten => by rw [written] at unwritten; cases unwritten
      · next unwritten =>
        cases moved
        rw [intact_exit intact (by rw [spawned]; rfl) fresh]
        exact ⟨fun clear _ _ => clear,fun keeps => keeps (by simpa using unwritten) (by rw [some_]; nofun)⟩
  | replay n =>
    simp only [step,Option.ite_none_right_eq_some] at stepped
    obtain ⟨⟨ready,-⟩,moved⟩ := stepped
    cases moved
    refine iff_of_true ⟨intact.past,intact.present,?_⟩ trivial
    have sent := intact.sent
    rw [ready] at sent
    exact (List.append_nil _).trans sent
  | emit text =>
    simp only [step,Option.ite_none_right_eq_some] at stepped
    obtain ⟨-,moved⟩ := stepped
    cases moved
    exact iff_of_true ⟨intact.past,intact.present,intact.sent⟩ trivial
  | answer line text =>
    simp only [step,Option.ite_none_right_eq_some] at stepped
    obtain ⟨-,moved⟩ := stepped
    cases moved
    exact iff_of_true ⟨intact.past,intact.present,intact.sent⟩ trivial
  | put n =>
    simp only [step,Option.ite_none_right_eq_some] at stepped
    obtain ⟨alive,moved⟩ := stepped
    cases moved
    refine iff_of_true ⟨intact.past,.inl ?_,intact.sent⟩ trivial
    rcases intact.present with flow | ⟨⟨dead,-⟩,-⟩
    · show s.worker.wrote ++ _ = _
      rw [flow]
      simp [State.unread]
    · rw [dead] at alive
      cases alive
  | die =>
    cases stepped
    refine iff_of_true ⟨intact.past,?_,intact.sent⟩ trivial
    rcases intact.present with flow | ⟨⟨-,clear⟩,delivered⟩
    · exact .inl flow
    · exact .inr ⟨⟨rfl,clear⟩,delivered⟩

variable (rpc) in
/-- In every run the lines of the workers are sent, whole, once and in order, exactly if every step
    keeps them. -/
theorem lines_sent_iff (actions : List Action) :
    Always (step rpc) Intact State.start actions ↔ Along (step rpc) (KeepsLines rpc) State.start actions :=
  always_iff_along (fun _ _ _ => begun_step) (fun _ _ _ => intact_step)
    ⟨fun other => (other rfl).elim,List.not_mem_nil⟩ ⟨by rintro w ⟨⟩,.inl rfl,rfl⟩

end

/-- `{"id":1,"method":"ping"}`, the answer to it without its end, and the next request. -/
def ping : Bytes := Utf8.encode "\x7b\"id\":1,\"method\":\"ping\"\x7d\n".toList
def pong : Bytes := Utf8.encode "\x7b\"id\":1,\"result\":\x7b\x7d\x7d".toList
def pingAgain : Bytes := Utf8.encode "\x7b\"id\":2,\"method\":\"ping\"\x7d\n".toList

def parsed : List (Bytes × Rpc) :=
  [(ping,⟨"ping",some "1"⟩),(pong ++ [newline],⟨"",some "1"⟩),(pingAgain,⟨"ping",some "2"⟩)]

/-- The answer is half read when the next line of the client comes. -/
def halfRead : List Action :=
  [.client ping true,.answer ping pong,.put 4,.read 4,.client pingAgain true,.put 20,.read 20]

theorem torn_line_sent : ¬ ∀ (rpc : Bytes → Option Rpc) (actions : List Action), Always (step rpc) Intact State.start actions := by
  intro claim
  have torn : (run (step (parsed.lookup ·)) State.start halfRead).map (fun s =>
      ((s.worker.wrote,s.worker.forwarded),(s.unread,s.worker.alive))) =
      some ((pong ++ [newline],pong.drop 4 ++ [newline]),([],true)) := by decide +kernel
  obtain ⟨s,ran,last⟩ := Option.map_eq_some_iff.mp torn
  simp only [Prod.mk.injEq] at last
  obtain ⟨⟨wrote,forwarded⟩,unread,alive⟩ := last
  rcases (always_last (claim (parsed.lookup ·) halfRead) ran).present with flow | ⟨⟨dead,-⟩,-⟩
  · rw [wrote,forwarded,unread] at flow
    revert flow
    decide +kernel
  · cases alive.symm.trans dead

end Sctl.Supervisor
