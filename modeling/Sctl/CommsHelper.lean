import Sctl.Runs
import Sctl.Tables
import Sctl.Utf8
import Sctl.Lines
import Sctl.Json
import Sctl.Texts

/-!
Calls of the comms provider helper: one process, one request line and one response
line at a time under a lock, while any call may be dropped wherever it waits. What
a dropped call leaves in the pipes is there for the next one. The pipes carry bytes,
and a call writes and reads one of them at a time.
-/
namespace Sctl.CommsHelper
open Runs

def newline : UInt8 := 10

structure CommsCallError where
  code : String
  message : String
deriving DecidableEq

structure CommsRequest where
  id : String
  method : String
  params : Json

structure CommsResponse where
  id : String
  ok : Bool
  result : Option Json
  error : Option CommsCallError

/-- The JSON of the two ends: the text of a request, the id that the helper finds in a
    line, and the response that the client reads from one, or what is wrong with it. -/
structure Codec where
  raw : CommsRequest → List Char
  id? : List UInt8 → Option String
  response : List Char → Except String CommsResponse

/-- Where a call is: before the lock, in `exchange`, done, or dropped. -/
inductive Phase
  | waiting
  | writing (rest : List UInt8)
  | ending
  | flushing
  | reading (line : List UInt8)
  | returned (result : Except CommsCallError Json)
  | dropped

/-- A call holds the lock from its first write to its end. -/
def Phase.exchanging : Phase → Bool
  | .writing _ | .ending | .flushing | .reading _ => true
  | .waiting | .returned _ | .dropped => false

structure Call where
  request : CommsRequest
  phase : Phase

/-- What the helper does: it reads, or it works on a line, whose request id it knows if it is a request. -/
inductive Helper
  | reads
  | works (line : List UInt8) (id : Option String)

/-- The calls in the order in which they started, and the process: what is in its two pipes,
    the error that it is broken by, and whether it is alive. It is noted which request
    lines the helper answered, and whether it died, was too slow or broke the protocol. -/
structure State where
  calls : List Call
  nextId : Nat
  broken : Option CommsCallError
  input : List UInt8
  helper : Helper
  output : List UInt8
  alive : Bool
  answers : List (List UInt8 × CommsResponse)
  faulty : Bool

def start : State := ⟨[],1,none,[],.reads,[],true,[],false⟩

def isTransportError (code : String) : Bool :=
  code == "COMMS_WRITE_FAILED" || code == "COMMS_READ_FAILED" || code == "COMMS_DECODE_FAILED" || code == "COMMS_ID_MISMATCH" ||
    code == "COMMS_HELPER_EXITED"

/-- The bytes as a text, if they are one. -/
def fromUtf8 (bytes : List UInt8) : Option (List Char) :=
  let text := Utf8.decodeFrom none bytes
  if Utf8.encode text = bytes then some text else none

/-- What a response says to the caller. -/
def CommsResponse.answer (resp : CommsResponse) : Except CommsCallError Json :=
  if resp.ok then .ok (resp.result.getD .null)
  else .error (resp.error.getD ⟨"COMMS_PROVIDER_ERROR","provider returned an error"⟩)

/-- `exchange` from the line that was read on. -/
def received (codec : Codec) (id : String) (line : List UInt8) : Except CommsCallError Json :=
  match fromUtf8 line with
  | none => .error ⟨"COMMS_READ_FAILED","stream did not contain valid UTF-8"⟩
  | some text =>
    if text = [] then .error ⟨"COMMS_HELPER_EXITED","provider helper closed stdout"⟩
    else match codec.response text with
      | .error e => .error ⟨"COMMS_DECODE_FAILED","invalid provider response: " ++ e ++ "; raw=" ++ String.ofList (Texts.trim text)⟩
      | .ok resp =>
        if resp.id ≠ id then .error ⟨"COMMS_ID_MISMATCH","expected response id " ++ id ++ ", got " ++ resp.id⟩
        else resp.answer

/-- What happens to a call that was made. -/
inductive Move
  | lock
  | write
  | writeFails (message : String)
  | flush
  | read
  | readEnds
  | timeout
  | drop

inductive Action
  | call (method : String) (params : Json)
  | moves (n : Nat) (move : Move)
  /-- The helper takes a line from its input. -/
  | take
  /-- It answers the line with one of its own. -/
  | answer (line : List UInt8)
  /-- It breaks the protocol with anything that it writes. -/
  | stray (bytes : List UInt8)
  | die

def State.exchanging (s : State) : Bool := s.calls.any fun call => call.phase.exchanging

def State.move (s : State) (n : Nat) (call : Call) (phase : Phase) : State := { s with calls := s.calls.set n ⟨call.request,phase⟩ }

/-- `mark_broken`. -/
def State.markBroken (s : State) (err : CommsCallError) : State := { s with broken := some err, alive := false }

/-- The result of `exchange`; a transport error breaks the client. -/
def State.finish (s : State) (n : Nat) (call : Call) (result : Except CommsCallError Json) : State :=
  let ended := s.move n call (.returned result)
  match result with
  | .ok _ => ended
  | .error err => if isTransportError err.code then ended.markBroken err else ended

def writes (rest : List UInt8) : Phase := if rest = [] then .ending else .writing rest

/-- The helper was given time for nothing: it answered every line, and all it wrote was read. -/
def State.answered (s : State) : Bool :=
  match s.helper with
  | .reads => !s.input.contains newline && s.output.isEmpty
  | .works .. => false

def State.timesOut (s : State) (n : Nat) (call : Call) (faulty : Bool) : State :=
  let err : CommsCallError := ⟨"COMMS_TIMEOUT",call.request.method ++ " timed out"⟩
  ({ s with faulty := s.faulty || faulty }.move n call (.returned (.error err))).markBroken err

/-- `call_with_timeout` one step further. A pipe that takes no bytes and an answer that does
    not come are the fault of the helper, unless it answered every line. -/
def Move.step (codec : Codec) (s : State) (n : Nat) (call : Call) : Move → Option State
  | .lock =>
    match call.phase with
    | .waiting =>
      if s.exchanging then none
      else match s.broken with
        | some err => some (s.move n call (.returned (.error err)))
        | none => some (s.move n call (writes (Utf8.encode (codec.raw call.request))))
    | _ => none
  | .write =>
    match call.phase with
    | .writing (b :: rest) => some ({ s with input := s.input ++ [b] }.move n call (writes rest))
    | .ending => some ({ s with input := s.input ++ [newline] }.move n call .flushing)
    | _ => none
  | .writeFails message =>
    match call.phase with
    | .writing _ | .ending | .flushing =>
      if s.alive then none else some (s.finish n call (.error ⟨"COMMS_WRITE_FAILED",message⟩))
    | _ => none
  | .flush =>
    match call.phase with
    | .flushing => some (s.move n call (.reading []))
    | _ => none
  | .read =>
    match call.phase, s.output with
    | .reading line, b :: rest =>
      if b = newline then some ({ s with output := rest }.finish n call (received codec call.request.id (line ++ [b])))
      else some ({ s with output := rest }.move n call (.reading (line ++ [b])))
    | _, _ => none
  | .readEnds =>
    match call.phase with
    | .reading line => if s.alive || !s.output.isEmpty then none else some (s.finish n call (received codec call.request.id line))
    | _ => none
  | .timeout =>
    match call.phase with
    | .writing _ | .ending | .flushing => some (s.timesOut n call true)
    | .reading _ => if s.output.contains newline then none else some (s.timesOut n call (!s.answered))
    | _ => none
  | .drop =>
    match call.phase with
    | .returned _ | .dropped => none
    | _ => some (s.move n call .dropped)

/-- The line is a response to the request with the id. -/
def answers? (codec : Codec) (id : String) (line : List UInt8) : Option CommsResponse :=
  (fromUtf8 (line ++ [newline])).bind fun text =>
    match codec.response text with
    | .ok resp => if resp.id = id then some resp else none
    | .error _ => none

def step (codec : Codec) (s : State) : Action → Option State
  | .call method params =>
    some { s with calls := s.calls ++ [⟨⟨toString s.nextId,method,params⟩,.waiting⟩], nextId := s.nextId + 1 }
  | .moves n move => (s.calls[n]?).bind fun call => move.step codec s n call
  | .take =>
    match s.alive, s.helper, Lines.cut newline s.input with
    | true, .reads, some (line,rest) => some { s with input := rest, helper := .works line.dropLast (codec.id? line.dropLast) }
    | _, _, _ => none
  | .answer line =>
    match s.alive, s.helper with
    | true, .works asked id =>
      if newline ∈ line then none
      else match id with
        | some id => (answers? codec id line).map fun resp =>
          { s with helper := .reads, output := s.output ++ line ++ [newline], answers := s.answers ++ [(asked,resp)] }
        | none => some { s with helper := .reads, output := s.output ++ line ++ [newline] }
    | _, _ => none
  | .stray bytes => if s.alive then some { s with output := s.output ++ bytes, faulty := true } else none
  | .die => some { s with alive := false, faulty := true }

/-! ### Calls are served -/

/-- The helper answered the line of the request with what the call returned. -/
def Served (codec : Codec) (s : State) (request : CommsRequest) (result : Except CommsCallError Json) : Prop :=
  ∃ resp, (Utf8.encode (codec.raw request),resp) ∈ s.answers ∧ result = resp.answer

def transportFailure : Except CommsCallError Json → Bool
  | .ok _ => false
  | .error err => isTransportError err.code

/-- Steps of one call, and of the helper while it keeps to the protocol. -/
def Action.goesOn (n : Nat) : Action → Bool
  | .moves m .write | .moves m .flush | .moves m .read => m == n
  | .take | .answer _ => true
  | _ => false

/-- Further steps of the call and of the helper let the call return the answer to its request. -/
def Returns (codec : Codec) (s : State) (n : Nat) (request : CommsRequest) : Prop :=
  ∃ as t result, (∀ a ∈ as, a.goesOn n = true) ∧ run (step codec) s as = some t ∧ t.faulty = false ∧
    t.calls[n]? = some ⟨request,.returned result⟩ ∧ Served codec t request result

/-- Unless the helper died, was too slow or broke the protocol, the client is not broken,
    what a call returned is the answer to its own request and no transport error, and a
    call that has the lock goes on to return. -/
structure Serves (codec : Codec) (s : State) : Prop where
  unbroken : s.faulty = false → s.broken = none
  served : s.faulty = false → ∀ call ∈ s.calls, ∀ result, call.phase = .returned result →
    Served codec s call.request result ∧ transportFailure result = false
  returns : s.faulty = false → ∀ (n : Nat) (call : Call), s.calls[n]? = some call → call.phase.exchanging = true →
    Returns codec s n call.request

/-- Nothing of a dropped exchange is left in the pipes or with the helper. -/
def Clear (s : State) : Prop := s.input = [] ∧ s.answered = true

/-- A call takes the lock only when nothing is left, and no response to a request carries a
    code of a transport error. -/
def Keeps (codec : Codec) (s : State) : Action → Prop
  | .moves _ .lock => s.faulty = true ∨ Clear s
  | .answer line =>
    match s.helper with
    | .works _ (some id) => s.faulty = true ∨ ∀ resp ∈ answers? codec id line, transportFailure resp.answer = false
    | _ => True
  | _ => True

instance (s : State) : Decidable (Clear s) := inferInstanceAs (Decidable (s.input = [] ∧ s.answered = true))

instance (codec : Codec) : (s : State) → (a : Action) → Decidable (Keeps codec s a)
  | s, .moves _ .lock => inferInstanceAs (Decidable (s.faulty = true ∨ Clear s))
  | s, .answer line =>
    match found : s.helper with
    | .works _ (some id) =>
      decidable_of_iff (s.faulty = true ∨ ∀ resp ∈ answers? codec id line, transportFailure resp.answer = false) (by simp [Keeps,found])
    | .works _ none | .reads => .isTrue (by simp [Keeps,found])
  | _, .call .. | _, .take | _, .stray _ | _, .die => .isTrue trivial
  | _, .moves _ .write | _, .moves _ (.writeFails _) | _, .moves _ .flush | _, .moves _ .read | _, .moves _ .readEnds |
    _, .moves _ .timeout | _, .moves _ .drop => .isTrue trivial

/-! ### The call that has the lock -/

/-- What the JSON of the two ends does for the requests of a client: their texts are one
    line, the helper finds the id in them, and there is a response to each. -/
structure Codec.Lawful (codec : Codec) : Prop where
  one_line : ∀ (n : Nat) method params, '\n' ∉ codec.raw ⟨toString n,method,params⟩
  found : ∀ (n : Nat) method params, codec.id? (Utf8.encode (codec.raw ⟨toString n,method,params⟩)) = some (toString n)
  answerable : ∀ n : Nat, ∃ line resp, newline ∉ line ∧ answers? codec (toString n) line = some resp ∧ transportFailure resp.answer = false

variable {codec : Codec} {s t : State} {n : Nat} {call : Call} {request : CommsRequest} {phase : Phase}

/-- The line of a request. -/
def Codec.bytes (codec : Codec) (request : CommsRequest) : List UInt8 := Utf8.encode (codec.raw request)

/-- The request was sent: its line is in the pipe, or the helper works on it, or its answer is
    partly read. -/
inductive Asked (codec : Codec) (s : State) (request : CommsRequest) : List UInt8 → Prop
  | sent : s.input = codec.bytes request ++ [newline] → s.helper = .reads → s.output = [] → Asked codec s request []
  | taken : s.input = [] → s.helper = .works (codec.bytes request) (some request.id) → s.output = [] → Asked codec s request []
  | answered {line : List UInt8} (answer : List UInt8) (resp : CommsResponse) : s.input = [] → s.helper = .reads →
      newline ∉ answer → answers? codec request.id answer = some resp → (codec.bytes request,resp) ∈ s.answers →
      line ++ s.output = answer ++ [newline] → s.output ≠ [] → Asked codec s request line

/-- What is in the pipes while a call is in a phase, and what it returned. -/
def Talks (codec : Codec) (s : State) (request : CommsRequest) : Phase → Prop
  | .waiting | .dropped => True
  | .writing rest => s.input ++ rest = codec.bytes request ∧ s.helper = .reads ∧ s.output = [] ∧ rest ≠ []
  | .ending => s.input = codec.bytes request ∧ s.helper = .reads ∧ s.output = []
  | .flushing => Asked codec s request []
  | .reading line => Asked codec s request line
  | .returned result => Served codec s request result ∧ transportFailure result = false

/-- A request of the client: its id is a number. -/
def Numbered (request : CommsRequest) : Prop := ∃ n : Nat, request.id = toString n

structure Good (codec : Codec) (s : State) : Prop where
  unbroken : s.broken = none
  alive : s.alive = true
  fault : s.faulty = false
  numbered : ∀ call ∈ s.calls, Numbered call.request
  polite : ∀ entry ∈ s.answers, transportFailure entry.2.answer = false
  talks : ∀ (n : Nat) (call : Call), s.calls[n]? = some call → Talks codec s call.request call.phase
  single : ∀ (n m : Nat) (call other : Call), s.calls[n]? = some call → s.calls[m]? = some other → call.phase.exchanging = true →
    other.phase.exchanging = true → n = m

theorem newline_free (lawful : codec.Lawful) (numbered : Numbered request) : newline ∉ codec.bytes request := by
  obtain ⟨id,method,params⟩ := request
  obtain ⟨n,rfl⟩ := numbered
  exact fun member => lawful.one_line n method params (Utf8.newline_mem_encode member)

theorem id_found (lawful : codec.Lawful) (numbered : Numbered request) : codec.id? (codec.bytes request) = some request.id := by
  obtain ⟨id,method,params⟩ := request
  obtain ⟨n,rfl⟩ := numbered
  exact lawful.found n method params

/-- What a call that does not have the lock knows stays as it is. -/
theorem talks_apart (talks : Talks codec s request phase) (apart : phase.exchanging = false) (kept : s.answers ⊆ t.answers) :
    Talks codec t request phase := by
  cases phase with
  | waiting | dropped => trivial
  | returned result =>
    obtain ⟨⟨resp,member,same⟩,polite⟩ := talks
    exact ⟨⟨resp,kept member,same⟩,polite⟩
  | _ => cases apart

theorem asked_congr {line : List UInt8} (asked : Asked codec s request line) (input : t.input = s.input)
    (helper : t.helper = s.helper) (output : t.output = s.output) (answers : t.answers = s.answers) : Asked codec t request line := by
  cases asked with
  | sent line idle read => exact .sent (input ▸ line) (helper ▸ idle) (output ▸ read)
  | taken empty busy read => exact .taken (input ▸ empty) (helper ▸ busy) (output ▸ read)
  | answered answer resp empty idle clear response member whole more =>
    exact .answered answer resp (input ▸ empty) (helper ▸ idle) clear response (answers ▸ member) (output ▸ whole) (output ▸ more)

theorem talks_congr (talks : Talks codec s request phase) (input : t.input = s.input) (helper : t.helper = s.helper)
    (output : t.output = s.output) (answers : t.answers = s.answers) : Talks codec t request phase := by
  cases phase with
  | waiting | dropped => trivial
  | writing rest =>
    obtain ⟨whole,idle,read,more⟩ := talks
    exact ⟨input ▸ whole,helper ▸ idle,output ▸ read,more⟩
  | ending =>
    obtain ⟨whole,idle,read⟩ := talks
    exact ⟨input ▸ whole,helper ▸ idle,output ▸ read⟩
  | flushing | reading line => exact asked_congr talks input helper output answers
  | returned result =>
    obtain ⟨⟨resp,member,same⟩,polite⟩ := talks
    exact ⟨⟨resp,answers ▸ member,same⟩,polite⟩

/-- One call moves on: the others do not have the lock. -/
theorem move_good (good : Good codec s) (there : s.calls[n]? = some call)
    (others : ∀ (m : Nat) (other : Call), m ≠ n → s.calls[m]? = some other → other.phase.exchanging = false)
    (calls : t.calls = s.calls.set n ⟨call.request,phase⟩) (unbroken : t.broken = none) (alive : t.alive = true)
    (fault : t.faulty = false) (answers : t.answers = s.answers) (talks : Talks codec t call.request phase) : Good codec t where
  unbroken := unbroken
  alive := alive
  fault := fault
  numbered := by
    intro other member
    rw [calls] at member
    rcases List.mem_or_eq_of_mem_set member with old | rfl
    · exact good.numbered other old
    · exact good.numbered call (List.mem_of_getElem? there)
  polite := by
    rw [answers]
    exact good.polite
  talks := by
    intro m other found
    rw [calls,Tasks.getElem?_set_eq there] at found
    split at found
    · cases found
      exact talks
    · next apart => exact talks_apart (good.talks m other found) (others m other apart found) (answers ▸ List.Subset.refl _)
  single := by
    intro k m first second found found' holds holds'
    rw [calls,Tasks.getElem?_set_eq there] at found found'
    split at found
    · next here =>
      split at found'
      · next here' => rw [here,here']
      · next apart => rw [others m second apart found'] at holds'; cases holds'
    · next apart => rw [others k first apart found] at holds; cases holds

/-- A call leaves the pipes as they are, and does not get the lock. -/
theorem leave_good (good : Good codec s) (there : s.calls[n]? = some call) (apart : phase.exchanging = false)
    (talks : Talks codec s call.request phase) : Good codec (s.move n call phase) where
  unbroken := good.unbroken
  alive := good.alive
  fault := good.fault
  numbered := by
    intro other member
    rcases List.mem_or_eq_of_mem_set member with old | rfl
    · exact good.numbered other old
    · exact good.numbered call (List.mem_of_getElem? there)
  polite := good.polite
  talks := by
    intro m other found
    rw [State.move,Tasks.getElem?_set_eq there] at found
    split at found
    · cases found
      exact talks_congr talks rfl rfl rfl rfl
    · exact talks_congr (good.talks m other found) rfl rfl rfl rfl
  single := by
    intro k m first second found found' holds holds'
    rw [State.move,Tasks.getElem?_set_eq there] at found found'
    split at found
    · cases found
      rw [apart] at holds
      cases holds
    · split at found'
      · cases found'
        rw [apart] at holds'
        cases holds'
      · exact good.single k m first second found found' holds holds'

theorem others_apart (good : Good codec s) (there : s.calls[n]? = some call) (holds : call.phase.exchanging = true) :
    ∀ (m : Nat) (other : Call), m ≠ n → s.calls[m]? = some other → other.phase.exchanging = false := by
  intro m other apart found
  by_contra exchanging
  exact apart (good.single m n other call found there (by simpa using exchanging) holds)

@[simp] theorem finish_faulty (s : State) (n : Nat) (call : Call) (result : Except CommsCallError Json) :
    (s.finish n call result).faulty = s.faulty := by
  unfold State.finish
  split
  · rfl
  · split <;> rfl

theorem finish_eq {result : Except CommsCallError Json} (polite : transportFailure result = false) :
    s.finish n call result = s.move n call (.returned result) := by
  unfold State.finish
  split
  · rfl
  · next err =>
    have plain : isTransportError err.code = false := polite
    rw [plain]
    rfl

/-- The first write of a text, or of the newline after an empty one. -/
theorem writes_talks {rest : List UInt8} (whole : s.input ++ rest = codec.bytes request) (idle : s.helper = .reads)
    (read : s.output = []) : Talks codec s request (writes rest) := by
  unfold writes
  split
  · next done =>
    subst done
    exact ⟨by simpa using whole,idle,read⟩
  · next more => exact ⟨whole,idle,read,more⟩

theorem received_answer {line answer : List UInt8} {resp : CommsResponse} (response : answers? codec request.id answer = some resp)
    (same : line = answer ++ [newline]) : received codec request.id line = resp.answer := by
  subst same
  obtain ⟨text,read,parsed⟩ := Option.bind_eq_some_iff.mp response
  have some_ : text ≠ [] := by
    intro empty
    rw [fromUtf8] at read
    split at read
    · next encoded =>
      cases read
      rw [empty] at encoded
      simp at encoded
    · cases read
  split at parsed
  · next resp' decoded =>
    split at parsed
    · next own =>
      cases parsed
      simp [received,read,some_,decoded,own]
    · cases parsed
  · cases parsed

/-- The byte that ends the line was the last one that was there. -/
theorem line_ends {line rest answer : List UInt8} (clear : newline ∉ answer) (whole : line ++ newline :: rest = answer ++ [newline]) :
    line = answer ∧ rest = [] := by
  obtain ⟨more,begun,ends⟩ | ⟨more,begun,ends⟩ := List.append_eq_append_iff.mp whole
  · cases more with
    | nil =>
      cases ends
      exact ⟨by simpa using begun.symm,rfl⟩
    | cons b more =>
      obtain ⟨rfl,-⟩ := List.cons.inj ends
      exact absurd (by simp [begun]) clear
  · cases more with
    | nil =>
      cases ends
      exact ⟨by simpa using begun,rfl⟩
    | cons b more => simp at ends

theorem idle_of_answered (answered : s.answered = true) : s.helper = .reads ∧ newline ∉ s.input ∧ s.output = [] := by
  unfold State.answered at answered
  split at answered
  · next idle => exact ⟨idle,by simpa using answered⟩
  · cases answered

/-- One step of a call keeps a good state good, if the helper is not at fault. -/
theorem move_step_good {move : Move} (good : Good codec s) (there : s.calls[n]? = some call)
    (keeps : Keeps codec s (.moves n move)) (stepped : move.step codec s n call = some t) (fault : t.faulty = false) :
    Good codec t := by
  have talks := good.talks n call there
  have others (holds : call.phase.exchanging = true) := others_apart good there holds
  cases move with
  | lock =>
    simp only [Move.step] at stepped
    split at stepped
    · next waiting =>
      split at stepped
      · cases stepped
      · next free =>
        rw [good.unbroken] at stepped
        cases stepped
        obtain ⟨empty,answered⟩ : Clear s := by
          rcases keeps with faulty | clear
          · rw [good.fault] at faulty; cases faulty
          · exact clear
        obtain ⟨idle,-,read⟩ := idle_of_answered answered
        have nobody : ∀ (m : Nat) (other : Call), m ≠ n → s.calls[m]? = some other → other.phase.exchanging = false := by
          intro m other _ found
          simp only [State.exchanging,List.any_eq_true,not_exists,not_and] at free
          simpa using free other (List.mem_of_getElem? found)
        refine move_good good there nobody rfl good.unbroken good.alive good.fault rfl (writes_talks ?_ idle read)
        show s.input ++ codec.bytes call.request = codec.bytes call.request
        rw [empty,List.nil_append]
    · cases stepped
  | write =>
    simp only [Move.step] at stepped
    split at stepped
    · next b rest writing =>
      cases stepped
      rw [writing] at talks others
      obtain ⟨whole,idle,read,-⟩ := talks
      refine move_good good there (others rfl) rfl good.unbroken good.alive good.fault rfl (writes_talks ?_ idle read)
      show (s.input ++ [b]) ++ rest = codec.bytes call.request
      rw [← whole,List.append_assoc,List.singleton_append]
    · next ending =>
      cases stepped
      rw [ending] at talks others
      obtain ⟨whole,idle,read⟩ := talks
      refine move_good good there (others rfl) rfl good.unbroken good.alive good.fault rfl (.sent ?_ idle read)
      show s.input ++ [newline] = codec.bytes call.request ++ [newline]
      rw [whole]
    · cases stepped
  | writeFails message =>
    simp only [Move.step,good.alive,if_true] at stepped
    split at stepped <;> cases stepped
  | flush =>
    simp only [Move.step] at stepped
    split at stepped
    · next flushing =>
      cases stepped
      rw [flushing] at talks others
      exact move_good good there (others rfl) rfl good.unbroken good.alive good.fault rfl (asked_congr talks rfl rfl rfl rfl)
    · cases stepped
  | read =>
    simp only [Move.step] at stepped
    split at stepped
    · next line b rest reading waiting =>
      rw [reading] at talks others
      cases talks with
      | sent whole idle read => rw [read] at waiting; cases waiting
      | taken empty busy read => rw [read] at waiting; cases waiting
      | answered answer resp empty idle clear response member whole more =>
        rw [waiting] at whole
        split at stepped
        · next ends =>
          subst ends
          cases stepped
          obtain ⟨rfl,rfl⟩ := line_ends clear whole
          rw [received_answer response rfl]
          have polite := good.polite _ member
          rw [finish_eq polite]
          exact move_good good there (others rfl) rfl good.unbroken good.alive good.fault rfl ⟨⟨resp,member,rfl⟩,polite⟩
        · next inside =>
          cases stepped
          refine move_good good there (others rfl) rfl good.unbroken good.alive good.fault rfl ?_
          refine .answered answer resp empty idle clear response member ?_ ?_
          · show (line ++ [b]) ++ rest = answer ++ [newline]
            rw [← whole,List.append_assoc,List.singleton_append]
          · show rest ≠ []
            intro last
            rw [last] at whole
            exact inside (List.cons.inj (List.append_inj_right' whole rfl)).1
    · cases stepped
  | readEnds =>
    simp only [Move.step,good.alive,Bool.true_or,if_true] at stepped
    split at stepped <;> cases stepped
  | timeout =>
    simp only [Move.step] at stepped
    split at stepped
    · cases stepped
      simp [State.timesOut,State.move,State.markBroken] at fault
    · cases stepped
      simp [State.timesOut,State.move,State.markBroken] at fault
    · cases stepped
      simp [State.timesOut,State.move,State.markBroken] at fault
    · next line reading =>
      rw [reading] at talks
      split at stepped
      · cases stepped
      · next pending =>
        cases stepped
        have answered : s.answered = true := by simpa [State.timesOut,State.move,State.markBroken,good.fault] using fault
        obtain ⟨idle,untaken,read⟩ := idle_of_answered answered
        cases talks with
        | sent whole _ _ =>
          refine absurd ?_ untaken
          rw [whole]
          simp
        | taken _ busy _ => rw [idle] at busy; cases busy
        | answered answer resp empty _ clear response member whole more => exact absurd read more
    · cases stepped
  | drop =>
    simp only [Move.step] at stepped
    have dropped : t = s.move n call .dropped := by
      split at stepped
      · cases stepped
      · cases stepped
      · cases stepped; rfl
    subst dropped
    exact leave_good good there rfl trivial

/-- A step of the helper: it leaves the calls as they are, and what the one with the lock knows is true. -/
theorem helper_good (good : Good codec s) (calls : t.calls = s.calls) (unbroken : t.broken = s.broken) (alive : t.alive = s.alive)
    (fault : t.faulty = s.faulty) (answers : s.answers ⊆ t.answers)
    (polite : ∀ entry ∈ t.answers, transportFailure entry.2.answer = false)
    (holder : ∀ call ∈ s.calls, call.phase.exchanging = true → Talks codec t call.request call.phase) : Good codec t where
  unbroken := unbroken.trans good.unbroken
  alive := alive.trans good.alive
  fault := fault.trans good.fault
  numbered := calls ▸ good.numbered
  polite := polite
  talks := by
    intro n call there
    rw [calls] at there
    cases holds : call.phase.exchanging with
    | true => exact holder call (List.mem_of_getElem? there) holds
    | false => exact talks_apart (good.talks n call there) holds answers
  single := calls ▸ good.single

theorem take_talks {line rest : List UInt8} (lawful : codec.Lawful) (numbered : Numbered request)
    (cut : Lines.cut newline s.input = some (line,rest)) (holds : phase.exchanging = true) (talks : Talks codec s request phase) :
    Talks codec { s with input := rest, helper := .works line.dropLast (codec.id? line.dropLast) } request phase := by
  obtain ⟨isLine,split⟩ := Lines.cut_spec cut
  obtain ⟨text,clear,rfl⟩ := isLine.text
  have free := newline_free lawful numbered
  have there : newline ∈ s.input := by simp [split]
  have asked {line : List UInt8} (asked : Asked codec s request line) :
      Asked codec { s with input := rest, helper := .works (text ++ [newline]).dropLast (codec.id? (text ++ [newline]).dropLast) } request line := by
    cases asked with
    | sent whole idle read =>
      rw [split,List.append_assoc,List.singleton_append] at whole
      obtain ⟨rfl,rfl⟩ := line_ends free whole
      refine .taken rfl ?_ read
      simp [id_found lawful numbered]
    | taken empty busy read => rw [empty] at there; cases there
    | answered answer resp empty => rw [empty] at there; cases there
  cases phase with
  | waiting | dropped | returned result => cases holds
  | writing rest => exact absurd (talks.1 ▸ List.mem_append_left rest there) free
  | ending => exact absurd (talks.1 ▸ there) free
  | flushing | reading line => exact asked talks

theorem answer_talks {asked line : List UInt8} {id : Option String} {resp : CommsResponse} (busy : s.helper = .works asked id)
    (clear : newline ∉ line) (response : ∀ own, id = some own → answers? codec own line = some resp)
    (holds : phase.exchanging = true) (talks : Talks codec s request phase)
    (same : t = { s with helper := .reads, output := s.output ++ line ++ [newline], answers := s.answers ++ [(asked,resp)] }) :
    Talks codec t request phase := by
  subst same
  have works {read : List UInt8} (known : Asked codec s request read) : Asked codec
      { s with helper := .reads, output := s.output ++ line ++ [newline], answers := s.answers ++ [(asked,resp)] } request read := by
    cases known with
    | sent whole idle => rw [idle] at busy; cases busy
    | taken empty works read =>
      rw [works] at busy
      cases busy
      exact .answered line resp empty rfl clear (response _ rfl) (by simp) (by simp [read]) (by simp)
    | answered answer other empty idle => rw [idle] at busy; cases busy
  cases phase with
  | waiting | dropped | returned result => cases holds
  | writing rest | ending => rw [talks.2.1] at busy; cases busy
  | flushing | reading line => exact works talks

/-- Without an id the line was no request, so that no call waits for its answer. -/
theorem stray_answer {asked : List UInt8} (busy : s.helper = .works asked none) (holds : phase.exchanging = true) :
    ¬ Talks codec s request phase := by
  intro talks
  have known {read : List UInt8} (known : Asked codec s request read) : False := by
    cases known with
    | sent whole idle => rw [idle] at busy; cases busy
    | taken empty works => rw [works] at busy; cases busy
    | answered answer other empty idle => rw [idle] at busy; cases busy
  cases phase with
  | waiting | dropped | returned result => cases holds
  | writing rest | ending => rw [talks.2.1] at busy; cases busy
  | flushing | reading line => exact known talks

theorem call_good (good : Good codec s) (method : String) (params : Json) :
    Good codec { s with calls := s.calls ++ [⟨⟨toString s.nextId,method,params⟩,.waiting⟩], nextId := s.nextId + 1 } := by
  have found {m : Nat} {other : Call} (there : (s.calls ++ [⟨⟨toString s.nextId,method,params⟩,.waiting⟩])[m]? = some other) :
      s.calls[m]? = some other ∨ other = ⟨⟨toString s.nextId,method,params⟩,.waiting⟩ := by
    rw [List.getElem?_append] at there
    split at there
    · exact .inl there
    · exact .inr (List.mem_singleton.mp (List.mem_of_getElem? there))
  exact {
    unbroken := good.unbroken
    alive := good.alive
    fault := good.fault
    numbered := by
      intro other member
      rcases List.mem_append.mp member with old | new
      · exact good.numbered other old
      · cases List.mem_singleton.mp new
        exact ⟨s.nextId,rfl⟩
    polite := good.polite
    talks := by
      intro m other there
      obtain old | rfl := found there
      · exact talks_congr (good.talks m other old) rfl rfl rfl rfl
      · trivial
    single := by
      intro k m first second there there' holds holds'
      obtain old | rfl := found there
      · obtain old' | rfl := found there'
        · exact good.single k m first second old old' holds holds'
        · cases holds'
      · cases holds }

theorem step_good {a : Action} (lawful : codec.Lawful) (good : Good codec s) (keeps : Keeps codec s a)
    (stepped : step codec s a = some t) (fault : t.faulty = false) : Good codec t := by
  cases a with
  | call method params =>
    cases stepped
    exact call_good good method params
  | moves n move =>
    obtain ⟨call,there,moved⟩ := Option.bind_eq_some_iff.mp stepped
    exact move_step_good good there keeps moved fault
  | take =>
    simp only [step] at stepped
    split at stepped
    · next line rest alive idle cut =>
      cases stepped
      refine helper_good good rfl rfl rfl rfl (List.Subset.refl _) good.polite ?_
      intro call member holds
      obtain ⟨n,there⟩ := List.mem_iff_getElem?.mp member
      exact take_talks lawful (good.numbered call member) cut holds (good.talks n call there)
    · cases stepped
  | answer line =>
    simp only [step] at stepped
    split at stepped
    · next asked id alive busy =>
      split at stepped
      · cases stepped
      · next clear =>
        split at stepped
        · next own =>
          obtain ⟨resp,response,rfl⟩ := Option.map_eq_some_iff.mp stepped
          refine helper_good good rfl rfl rfl rfl (List.subset_append_left _ _) ?_ ?_
          · intro entry member
            rcases List.mem_append.mp member with old | new
            · exact good.polite entry old
            · cases List.mem_singleton.mp new
              simp only [Keeps,busy,good.fault,Bool.false_eq_true,false_or] at keeps
              exact keeps resp response
          · intro call member holds
            obtain ⟨n,there⟩ := List.mem_iff_getElem?.mp member
            exact answer_talks busy clear (fun _ same => by cases same; exact response) holds (good.talks n call there) rfl
        · cases stepped
          refine helper_good good rfl rfl rfl rfl (List.Subset.refl _) good.polite ?_
          intro call member holds
          obtain ⟨n,there⟩ := List.mem_iff_getElem?.mp member
          exact absurd (good.talks n call there) (stray_answer busy holds)
    · cases stepped
  | stray bytes =>
    simp only [step,good.alive,if_true] at stepped
    cases stepped
    cases fault
  | die =>
    cases stepped
    cases fault

theorem fault_kept {a : Action} (stepped : step codec s a = some t) (fault : t.faulty = false) : s.faulty = false := by
  cases a with
  | call method params => cases stepped; exact fault
  | moves n move =>
    obtain ⟨call,-,moved⟩ := Option.bind_eq_some_iff.mp stepped
    cases move with
    | timeout =>
      simp only [Move.step] at moved
      split at moved
      · cases moved; simp [State.timesOut,State.move,State.markBroken] at fault
      · cases moved; simp [State.timesOut,State.move,State.markBroken] at fault
      · cases moved; simp [State.timesOut,State.move,State.markBroken] at fault
      · split at moved
        · cases moved
        · cases moved
          simp only [State.timesOut,State.markBroken,State.move,Bool.or_eq_false_iff] at fault
          exact fault.1
      · cases moved
    | lock =>
      simp only [Move.step] at moved
      split at moved
      · split at moved
        · cases moved
        · split at moved <;> cases moved <;> exact fault
      · cases moved
    | write =>
      simp only [Move.step] at moved
      split at moved <;> cases moved <;> exact fault
    | flush =>
      simp only [Move.step] at moved
      split at moved <;> cases moved
      exact fault
    | drop =>
      simp only [Move.step] at moved
      split at moved <;> cases moved
      exact fault
    | writeFails message =>
      simp only [Move.step] at moved
      split at moved
      · split at moved <;> cases moved; simpa using fault
      · split at moved <;> cases moved; simpa using fault
      · split at moved <;> cases moved; simpa using fault
      · cases moved
    | read =>
      simp only [Move.step] at moved
      split at moved
      · split at moved <;> cases moved
        · simpa using fault
        · exact fault
      · cases moved
    | readEnds =>
      simp only [Move.step] at moved
      split at moved
      · split at moved <;> cases moved
        simpa using fault
      · cases moved
  | take =>
    simp only [step] at stepped
    split at stepped <;> cases stepped
    exact fault
  | answer line =>
    simp only [step] at stepped
    split at stepped
    · split at stepped
      · cases stepped
      · split at stepped
        · obtain ⟨resp,-,rfl⟩ := Option.map_eq_some_iff.mp stepped
          exact fault
        · cases stepped; exact fault
    · cases stepped
  | stray bytes =>
    simp only [step] at stepped
    split at stepped <;> cases stepped
    cases fault
  | die => cases stepped; cases fault

/-! ### A call that has the lock returns -/

theorem returns_of_step {a : Action} (goes : a.goesOn n = true) (stepped : step codec s a = some t) (later : Returns codec t n request) :
    Returns codec s n request := by
  obtain ⟨as,u,result,all,ran,done⟩ := later
  exact ⟨a :: as,u,result,List.forall_mem_cons.mpr ⟨goes,all⟩,run_cons_iff.mpr ⟨t,stepped,ran⟩,done⟩

theorem returns_done {result : Except CommsCallError Json} (good : Good codec s) (there : s.calls[n]? = some ⟨request,.returned result⟩) :
    Returns codec s n request :=
  ⟨[],s,result,List.forall_mem_nil _,rfl,good.fault,there,(good.talks n _ there).1⟩

theorem move_there (there : s.calls[n]? = some call) (phase : Phase) : (s.calls.set n ⟨call.request,phase⟩)[n]? = some ⟨call.request,phase⟩ := by
  rw [Tasks.getElem?_set_eq there,if_pos rfl]

theorem finish_there (there : s.calls[n]? = some call) (result : Except CommsCallError Json) :
    (s.finish n call result).calls[n]? = some ⟨call.request,.returned result⟩ := by
  unfold State.finish
  split
  · exact move_there there _
  · split <;> exact move_there there _

theorem goes_self (n : Nat) : (Action.moves n .read).goesOn n = true ∧ (Action.moves n .write).goesOn n = true ∧
    (Action.moves n .flush).goesOn n = true := by simp [Action.goesOn]

/-- One step of the call itself, and what is left. -/
theorem returns_of_move {move : Move} (goes : (Action.moves n move).goesOn n = true) (good : Good codec s)
    (there : s.calls[n]? = some call) (keeps : Keeps codec s (.moves n move)) (moved : move.step codec s n call = some t)
    (fault : t.faulty = false) (later : Good codec t → Returns codec t n request) : Returns codec s n request :=
  returns_of_step goes (Option.bind_eq_some_iff.mpr ⟨call,there,moved⟩) (later (move_step_good good there keeps moved fault))

/-- Once the helper answered, the call reads the bytes of the line; the induction is on them. -/
theorem returns_read {line : List UInt8} (good : Good codec s) (there : s.calls[n]? = some ⟨request,.reading line⟩)
    (empty : s.input = []) (idle : s.helper = .reads) : Returns codec s n request := by
  induction left : s.output generalizing s line with
  | nil =>
    have talks : Asked codec s request line := good.talks n _ there
    cases talks with
    | sent whole => rw [empty] at whole; simp at whole
    | taken _ busy => rw [idle] at busy; cases busy
    | answered answer resp _ _ _ _ _ _ more => exact absurd left more
  | cons b rest ih =>
    by_cases ends : b = newline
    · have moved : Move.step codec s n ⟨request,.reading line⟩ .read =
          some ({ s with output := rest }.finish n ⟨request,.reading line⟩ (received codec request.id (line ++ [b]))) := by
        simp [Move.step,left,ends]
      refine returns_of_move (goes_self n).1 good there trivial moved (by simpa using good.fault) ?_
      intro after
      exact returns_done after (finish_there (s := { s with output := rest }) there _)
    · have moved : Move.step codec s n ⟨request,.reading line⟩ .read =
          some ({ s with output := rest }.move n ⟨request,.reading line⟩ (.reading (line ++ [b]))) := by
        simp [Move.step,left,ends]
      refine returns_of_move (goes_self n).1 good there trivial moved good.fault ?_
      intro after
      exact ih after (move_there there _) empty idle rfl

/-- While the helper works on the request, it may answer it. -/
theorem returns_answer (lawful : codec.Lawful) (good : Good codec s) (there : s.calls[n]? = some ⟨request,.reading []⟩)
    (empty : s.input = []) (busy : s.helper = .works (codec.bytes request) (some request.id)) : Returns codec s n request := by
  obtain ⟨k,named⟩ := good.numbered _ (List.mem_of_getElem? there)
  obtain ⟨line,resp,clear,response,polite⟩ := lawful.answerable k
  rw [← named] at response
  let t : State := { s with helper := .reads, output := s.output ++ line ++ [newline], answers := s.answers ++ [(codec.bytes request,resp)] }
  have stepped : step codec s (.answer line) = some t := by simp [step,good.alive,busy,clear,response,t]
  have keeps : Keeps codec s (.answer line) := by
    simp only [Keeps,busy]
    refine .inr fun other same => ?_
    rw [Option.mem_def,response] at same
    cases same
    exact polite
  have after : Good codec t := step_good lawful good keeps stepped good.fault
  exact returns_of_step rfl stepped (returns_read after there empty rfl)

/-- While the line is in the pipe, the helper may take it. -/
theorem returns_take (lawful : codec.Lawful) (good : Good codec s) (there : s.calls[n]? = some ⟨request,.reading []⟩)
    (sent : s.input = codec.bytes request ++ [newline]) (idle : s.helper = .reads) : Returns codec s n request := by
  have numbered : Numbered request := good.numbered _ (List.mem_of_getElem? there)
  have cut : Lines.cut newline s.input = some (codec.bytes request ++ [newline],[]) := by
    rw [sent]
    exact Lines.cut_text (newline_free lawful numbered)
  let t : State := { s with input := [], helper := .works (codec.bytes request) (some request.id) }
  have stepped : step codec s .take = some t := by
    simp [step,good.alive,idle,cut,id_found lawful numbered,t]
  have keeps : Keeps codec s .take := trivial
  have after : Good codec t := step_good lawful good keeps stepped good.fault
  exact returns_of_step rfl stepped (returns_answer lawful after there rfl rfl)

theorem returns_reading {line : List UInt8} (lawful : codec.Lawful) (good : Good codec s)
    (there : s.calls[n]? = some ⟨request,.reading line⟩) : Returns codec s n request := by
  have talks : Asked codec s request line := good.talks n _ there
  cases talks with
  | sent whole idle read => exact returns_take lawful good there whole idle
  | taken empty busy read => exact returns_answer lawful good there empty busy
  | answered answer resp empty idle => exact returns_read good there empty idle

theorem returns_flushing (lawful : codec.Lawful) (good : Good codec s) (there : s.calls[n]? = some ⟨request,.flushing⟩) :
    Returns codec s n request :=
  returns_of_move (goes_self n).2.2 good there trivial rfl good.fault fun after => returns_reading lawful after (move_there there _)

theorem returns_ending (lawful : codec.Lawful) (good : Good codec s) (there : s.calls[n]? = some ⟨request,.ending⟩) :
    Returns codec s n request :=
  returns_of_move (goes_self n).2.1 good there trivial rfl good.fault fun after => returns_flushing lawful after (move_there there _)

/-- By induction on what is left of the text. -/
theorem returns_writes {rest : List UInt8} (lawful : codec.Lawful) (good : Good codec s)
    (there : s.calls[n]? = some ⟨request,writes rest⟩) : Returns codec s n request := by
  induction rest generalizing s with
  | nil => exact returns_ending lawful good there
  | cons b rest ih =>
    have moved : Move.step codec s n ⟨request,writes (b :: rest)⟩ .write =
        some ({ s with input := s.input ++ [b] }.move n ⟨request,writes (b :: rest)⟩ (writes rest)) := rfl
    exact returns_of_move (goes_self n).2.1 good there trivial moved good.fault fun after => ih after (move_there there _)

theorem good_returns (lawful : codec.Lawful) (good : Good codec s) (there : s.calls[n]? = some call)
    (holds : call.phase.exchanging = true) : Returns codec s n call.request := by
  obtain ⟨request,phase⟩ := call
  cases phase with
  | waiting | dropped | returned result => cases holds
  | reading line => exact returns_reading lawful good there
  | flushing => exact returns_flushing lawful good there
  | ending => exact returns_ending lawful good there
  | writing rest =>
    have more : rest ≠ [] := (good.talks n _ there).2.2.2
    have begun : s.calls[n]? = some ⟨request,writes rest⟩ := by simpa [writes,more] using there
    exact returns_writes lawful good begun

theorem good_serves (lawful : codec.Lawful) (good : Good codec s) : Serves codec s where
  unbroken _ := good.unbroken
  served := by
    intro _ call member result returned
    obtain ⟨n,there⟩ := List.mem_iff_getElem?.mp member
    have talks := good.talks n call there
    rw [returned] at talks
    exact talks
  returns _ _ _ there holds := good_returns lawful good there holds

theorem start_good : Good codec start where
  unbroken := rfl
  alive := rfl
  fault := rfl
  numbered _ member := by cases member
  polite _ member := by cases member
  talks _ _ there := by simp [start] at there
  single _ _ _ _ there := by simp [start] at there

/-- A good state, unless the helper is at fault. -/
def Kept (codec : Codec) (s : State) : Prop := s.faulty = false → Good codec s

theorem step_kept (lawful : codec.Lawful) (s : State) (a : Action) (t : State) (kept : Kept codec s) (keeps : Keeps codec s a)
    (stepped : step codec s a = some t) : Kept codec t :=
  fun fault => step_good lawful (kept (fault_kept stepped fault)) keeps stepped fault

theorem kept_serves (lawful : codec.Lawful) (s : State) (kept : Kept codec s) : Serves codec s where
  unbroken fault := (good_serves lawful (kept fault)).unbroken fault
  served fault := (good_serves lawful (kept fault)).served fault
  returns fault := (good_serves lawful (kept fault)).returns fault

/-- In every run in which a call takes the lock only when nothing of a dropped exchange is
    left, and no response carries a code of a transport error, every call is served. -/
theorem calls_served (codec : Codec) (lawful : codec.Lawful) (as : List Action) (keeps : Along (step codec) (Keeps codec) start as) :
    Always (step codec) (Serves codec) start as :=
  always_of_keeps (step_kept lawful) (kept_serves lawful) (fun _ => start_good) keeps

/-! ### A call dropped in its exchange -/

/-- The texts of a `hello`, with its id read from its place in them. -/
def opening : List Char := ['{','"','i','d','"',':','"']

def readId (text : List Char) : String := String.ofList ((text.drop 7).takeWhile (· ≠ '"'))

def helloText (r : CommsRequest) : List Char := opening ++ r.id.toList ++ '"' :: ",\"method\":\"hello\",\"params\":\x7b\x7d\x7d".toList

def plain : Codec where
  raw := helloText
  id? line := (fromUtf8 line).map readId
  response text := if text.take 7 = opening then .ok ⟨readId text,true,none,none⟩ else .error "expected value"

def okText (id : String) : List Char := opening ++ id.toList ++ '"' :: ",\"ok\":true\x7d".toList

def okLine (id : String) : List UInt8 := Utf8.encode (okText id)

/-- The first call is dropped when its request is written; the second one reads the answer to it. -/
def droppedExchange : List Action :=
  [.call "hello" (.object []),.call "hello" (.object []),.moves 0 .lock] ++ List.replicate 40 (.moves 0 .write) ++
    [.moves 0 .flush,.moves 0 .drop,.take,.answer (okLine "1"),.moves 1 .lock] ++ List.replicate 40 (.moves 1 .write) ++
    [.moves 1 .flush] ++ List.replicate 21 (.moves 1 .read)

theorem dropped_breaks : ¬ Always (step plain) (Serves plain) start droppedExchange := by
  intro serves
  have broken : (run (step plain) start droppedExchange).map (fun s => (s.broken.isSome,s.faulty)) = some (true,false) := by
    decide +kernel
  obtain ⟨s,ran,last⟩ := Option.map_eq_some_iff.mp broken
  simp only [Prod.mk.injEq] at last
  rw [(always_last serves ran).unbroken last.2] at last
  cases last.1

/-! ### A call dropped before it -/

theorem readId_opening {id rest : List Char} (free : '"' ∉ id) : readId (opening ++ id ++ '"' :: rest) = String.ofList id := by
  have cut : (opening ++ id ++ '"' :: rest).drop 7 = id ++ '"' :: rest := by simp [opening]
  have taken : (id ++ '"' :: rest).takeWhile (· ≠ '"') = id := by
    have kept : ∀ c ∈ id, decide (c ≠ '"') = true := by
      intro c member
      rw [decide_eq_true_eq]
      rintro rfl
      exact free member
    rw [List.takeWhile_append_of_pos kept]
    simp
  rw [readId,cut,taken]

theorem number_free {c : Char} (other : c.isDigit = false) (n : Nat) : c ∉ (toString n).toList := by
  intro member
  have written : c ∈ Nat.toDigits 10 n := by simpa using member
  have digit : c.isDigit = true := Nat.isDigit_of_mem_toDigits (by decide) (by decide) written
  rw [other] at digit
  cases digit

theorem fromUtf8_encode (text : List Char) : fromUtf8 (Utf8.encode text) = some text := by
  simp [fromUtf8,Utf8.decodeFrom_encode]

theorem encode_line (text : List Char) : Utf8.encode text ++ [newline] = Utf8.encode (text ++ ['\n']) := by
  rw [Utf8.encode_append]
  rfl

theorem newline_free_of {id rest : List Char} (free : '\n' ∉ id) (clear : '\n' ∉ rest) : '\n' ∉ opening ++ id ++ '"' :: rest := by
  simp [opening,free,clear]

theorem plain_response (n : Nat) : answers? plain (toString n) (okLine (toString n)) = some ⟨toString n,true,none,none⟩ := by
  have free : '"' ∉ (toString n).toList := number_free (by decide) n
  have id : readId (okText (toString n) ++ ['\n']) = toString n := by
    rw [okText,List.append_assoc,List.cons_append,readId_opening free]
    exact String.ofList_toList
  have begun : (okText (toString n) ++ ['\n']).take 7 = opening := by
    rw [okText,List.append_assoc,List.append_assoc]
    rfl
  have response : plain.response (okText (toString n) ++ ['\n']) = .ok ⟨toString n,true,none,none⟩ := by
    simp only [plain,begun,id,if_true]
  rw [answers?,okLine,encode_line,fromUtf8_encode,Option.bind_some]
  simp only [response,if_true]

theorem plain_lawful : plain.Lawful where
  one_line n method params := newline_free_of (number_free (by decide) n) (by decide)
  found n method params := by
    have free : '"' ∉ (toString n).toList := number_free (by decide) n
    have id : readId (helloText ⟨toString n,method,params⟩) = toString n := (readId_opening free).trans String.ofList_toList
    simp only [plain,fromUtf8_encode,Option.map_some,id]
  answerable n := by
    refine ⟨okLine (toString n),⟨toString n,true,none,none⟩,?_,plain_response n,rfl⟩
    exact fun member => newline_free_of (number_free (by decide) n) (by decide) (Utf8.newline_mem_encode member)

/-- The first call is dropped while it waits for the lock; the second one is served. -/
def droppedBefore : List Action :=
  [.call "hello" (.object []),.call "hello" (.object []),.moves 0 .drop,.moves 1 .lock] ++ List.replicate 40 (.moves 1 .write) ++
    [.moves 1 .flush,.take,.answer (okLine "2")] ++ List.replicate 21 (.moves 1 .read)

theorem calls_served_before : Always (step plain) (Serves plain) start droppedBefore :=
  calls_served plain plain_lawful droppedBefore (by decide +kernel)

end Sctl.CommsHelper
