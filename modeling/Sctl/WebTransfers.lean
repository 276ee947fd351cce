import Sctl.ChunkArithmetic
import Sctl.Dialogues
import Sctl.TransferBooks

/-!
`TransferTracker` of the web client against the manager of a server. The tracker
is a dialogue of requests, and a session is the server with one tracker at work:
its requests go to a slot of their own and any other calls come in between.
The numbers of the tracker are doubles, which count sizes below 2^53 exactly;
what it shows of its progress and the user's abort are not part of the model.
-/
namespace Sctl.WebTransfers
open Files TransferTypes TransferManager TransferSteps TransferBooks ChunkArithmetic Dialogues Runs

/-- `DEFAULT_CHUNK_SIZE`. -/
def defaultChunkSize : Nat := 262144

def maxChunkRetries : Nat := 3

inductive Request
  | initDownload (path : String) (chunkSize : Nat)
  | initUpload (req : InitUpload)
  | getChunk (id : String) (index : Nat)
  | sendChunk (id : String) (index : Nat) (data : Bytes) (hash : String)
  | abort (id : String)

/-- The call that a request makes. -/
def Request.move (c : Nat) : Request → Move
  | .initDownload path chunkSize => .initDownload c path (if chunkSize = 0 then none else some chunkSize)
  | .initUpload req => .initUpload c req
  | .getChunk id index => .serveChunk c id index
  | .sendChunk id index data hash => .receiveChunk c id index hash data
  | .abort id => .abort c id

abbrev Web : Type → Type := Dialogue Request fun _ => Reply

def request (asked : Request) : Web Reply := .ask asked .done

theorem request_bind {α : Type} (asked : Request) (rest : Reply → Web α) : request asked >>= rest = .ask asked rest := rfl

section
variable (sha256 : Bytes → String)

/-- A chunk of a download, with its retries. -/
def downloadChunk (id : String) (i : Nat) : Nat → Web (Option Bytes)
  | 0 => pure none
  | retries + 1 => do
    match ← request (.getChunk id i) with
    | .chunk header data => if sha256 data ≠ header.chunkHash then downloadChunk id i retries else pure (some data)
    | _ => downloadChunk id i retries

/-- The chunks from `i` on, after what was received. -/
def downloadFrom (id : String) (i : Nat) (received : Bytes) : Nat → Web (Option Bytes)
  | 0 => pure (some received)
  | left + 1 => do
    match ← downloadChunk sha256 id i maxChunkRetries with
    | none => pure none
    | some data => downloadFrom id (i + 1) (received ++ data) left

/-- The whole file against its hash. -/
def assemble (fileHash : String) : Option Bytes → Web (Option Bytes)
  | none => pure none
  | some full => if sha256 full ≠ fileHash then pure none else pure (some full)

/-- `TransferTracker.download`; `none` is an exception. -/
def download (path : String) : Web (Option Bytes) := do
  match ← request (.initDownload path defaultChunkSize) with
  | .downloadStarted init => downloadFrom sha256 init.transferId 0 [] init.totalChunks >>= assemble sha256 init.fileHash
  | _ => pure none

/-- `Math.ceil(a / b)`. -/
def ceilDiv (a b : Nat) : Nat := (a + b - 1) / b

def totalChunks (size : Nat) : Nat := max 1 (ceilDiv size defaultChunkSize)

/-- `file.slice(offset, end)` of a chunk. -/
def chunkOf (file : Bytes) (i : Nat) : Bytes :=
  let offset := i * defaultChunkSize
  let stop := min (offset + defaultChunkSize) file.length
  slice file offset (stop - offset)

/-- A chunk of an upload, with its retries. -/
def uploadChunk (id : String) (i : Nat) (data : Bytes) : Nat → Web Bool
  | 0 => pure false
  | retries + 1 => do
    match ← request (.sendChunk id i data (sha256 data)) with
    | .ack a => if a.ok then pure true else uploadChunk id i data retries
    | _ => uploadChunk id i data retries

/-- The chunks from `i` on. -/
def uploadFrom (id : String) (file : Bytes) (i : Nat) : Nat → Web Bool
  | 0 => pure true
  | left + 1 => do
    if ← uploadChunk sha256 id i (chunkOf file i) maxChunkRetries then uploadFrom id file (i + 1) left else pure false

/-- What an upload does at its end: after an exception it aborts. -/
def settle (id : String) (sent : Bool) : Web Bool :=
  if sent then pure true else request (.abort id) >>= fun _ => pure false

def uploadRequest (dirPath filename : String) (file : Bytes) : InitUpload :=
  ⟨dirPath,filename,file.length,"",defaultChunkSize,totalChunks file.length,none⟩

/-- `TransferTracker.upload`; `false` is an exception. -/
def upload (dirPath filename : String) (file : Bytes) : Web Bool := do
  match ← request (.initUpload (uploadRequest dirPath filename file)) with
  | .uploadStarted init => uploadFrom sha256 init.transferId file 0 (totalChunks file.length) >>= settle init.transferId
  | _ => pure false

end

/-! ### Sessions -/

/-- A server and a tracker at work; `failed` says that a request has failed so far,
    and `transfer` is the id that the tracker was given. -/
structure Session (α : Type) where
  server : State
  client : Web α
  waiting : Bool
  failed : Bool
  transfer : Option String

/-- A call of the server that is not the tracker's, or a section of any call; or the
    tracker sends its next request. -/
inductive Act
  | serve (a : Action)
  | ask (env : Env)

def Reply.fails : Reply → Bool
  | .failed _ => true
  | _ => false

def startedId : Reply → Option String
  | .downloadStarted r => some r.transferId
  | .uploadStarted r => some r.transferId
  | _ => none

/-- The reply that a step sent. -/
def sent (s : State) : Option Reply :=
  match s.trace with
  | .replied _ r :: _ => some r
  | _ => none

variable {α : Type} (cfg : TransferConfig) (sha256 : Bytes → String) (c : Nat)

/-- The tracker after a section of its own call: it waits on, or goes on with the reply. -/
def Session.hear (x : Session α) (t : State) : Session α :=
  match x.client,t.calls c,sent t with
  | .ask _ next,none,some r => ⟨t,next r,false,x.failed || Reply.fails r,(startedId r).or x.transfer⟩
  | client,_,_ => ⟨t,client,true,x.failed,x.transfer⟩

def Session.step (x : Session α) : Act → Option (Session α)
  | .serve a =>
    if a.move.slot = some c then
      if x.waiting then (TransferSteps.step cfg sha256 x.server a).map (x.hear c) else none
    else (TransferSteps.step cfg sha256 x.server a).map fun t => { x with server := t }
  | .ask env =>
    match x.client,x.waiting with
    | .ask asked _,false => (TransferSteps.step cfg sha256 x.server ⟨env,asked.move c⟩).map (x.hear c)
    | _,_ => none

def Session.begin (server : State) (client : Web α) : Session α := ⟨server,client,false,false,none⟩

/-- How a session moves: a step of another call, a section of the tracker's own call,
    or its next request. -/
inductive Session.Moved (x y : Session α) : Act → Prop
  | other {a : Action} {t : State} : a.move.slot ≠ some c → TransferSteps.step cfg sha256 x.server a = some t →
      y = { x with server := t } → Moved x y (.serve a)
  | goes {a : Action} {t : State} : x.waiting = true → a.move.slot = some c → TransferSteps.step cfg sha256 x.server a = some t →
      y = x.hear c t → Moved x y (.serve a)
  | asks {env : Env} {asked : Request} {next : Reply → Web α} {t : State} : x.client = .ask asked next → x.waiting = false →
      TransferSteps.step cfg sha256 x.server ⟨env,asked.move c⟩ = some t → y = x.hear c t → Moved x y (.ask env)

section
variable {cfg : TransferConfig} {sha256 : Bytes → String} {c : Nat} {x y : Session α} {act : Act}

theorem Session.moved (stepped : x.step cfg sha256 c act = some y) : Session.Moved cfg sha256 c x y act := by
  obtain ⟨server,client,waiting,failed,transfer⟩ := x
  cases act with
  | serve a =>
    simp only [Session.step] at stepped
    split_ifs at stepped with slot waits
    · obtain ⟨t,went,rfl⟩ := Option.map_eq_some_iff.mp stepped
      exact .goes waits slot went rfl
    · obtain ⟨t,went,rfl⟩ := Option.map_eq_some_iff.mp stepped
      exact .other slot went rfl
  | ask env =>
    cases client with
    | done value => cases stepped
    | ask asked next =>
      cases waiting with
      | true => cases stepped
      | false =>
        obtain ⟨t,went,rfl⟩ := Option.map_eq_some_iff.mp stepped
        exact .asks rfl rfl went rfl

/-- The tracker waits for the rest of its call. -/
theorem Session.hear_park (t : State) (call : Call) :
    x.hear c (t.park c call) = ⟨t.park c call,x.client,true,x.failed,x.transfer⟩ := by
  obtain ⟨server,client,waiting,failed,transfer⟩ := x
  cases client <;> simp [Session.hear]

/-- The tracker goes on with a reply. -/
theorem Session.hear_reply {asked : Request} {next : Reply → Web α} (asks : x.client = .ask asked next) (t : State) (r : Reply) :
    x.hear c (t.reply c r) = ⟨t.reply c r,next r,false,x.failed || Reply.fails r,(startedId r).or x.transfer⟩ := by
  obtain ⟨server,client,waiting,failed,transfer⟩ := x
  obtain rfl : client = _ := asks
  simp [Session.hear,sent]

/-- A request that failed is not forgotten. -/
theorem Session.hear_failed {t : State} (failed : x.failed = true) : (x.hear c t).failed = true := by
  unfold Session.hear
  split
  · simp [failed]
  · exact failed

theorem Session.step_failed (failed : x.failed = true) (stepped : x.step cfg sha256 c act = some y) : y.failed = true := by
  cases Session.moved stepped with
  | other _ _ same => rw [same]; exact failed
  | goes _ _ _ same => rw [same]; exact Session.hear_failed failed
  | asks _ _ _ same => rw [same]; exact Session.hear_failed failed

theorem Session.step_server (stepped : x.step cfg sha256 c act = some y) :
    ∃ a, TransferSteps.step cfg sha256 x.server a = some y.server := by
  have heard {t : State} : (x.hear c t).server = t := by
    unfold Session.hear
    split <;> rfl
  cases Session.moved stepped with
  | other _ went same => exact ⟨_,by rw [same]; exact went⟩
  | goes _ _ went same => exact ⟨_,by rw [same,heard]; exact went⟩
  | asks _ _ went same => exact ⟨_,by rw [same,heard]; exact went⟩

end

/-! ### The numbers -/

theorem ceilDiv_eq (a : Nat) {b : Nat} (pos : 0 < b) : ceilDiv a b = divCeil a b := by
  have whole := Nat.mod_add_div' a b
  unfold ceilDiv divCeil
  by_cases exact_ : a % b = 0
  · rw [if_neg (by omega)]
    have split : a + b - 1 = (b - 1) + a / b * b := by omega
    rw [split,Nat.add_mul_div_right _ _ pos,Nat.div_eq_of_lt (by omega),Nat.zero_add]
  · rw [if_pos (by omega)]
    have split : a + b - 1 = (a % b - 1) + (a / b + 1) * b := by
      rw [Nat.succ_mul]
      omega
    have small : a % b - 1 < b := lt_of_le_of_lt (Nat.sub_le _ _) (Nat.mod_lt a pos)
    rw [split,Nat.add_mul_div_right _ _ pos,Nat.div_eq_of_lt small,Nat.zero_add]

theorem chunkSize_pos : 0 < defaultChunkSize := by decide

/-- The tracker counts the chunks that the manager counts, exactly where the count fits a `u32`. -/
theorem computeChunks_iff (size : Nat) :
    computeChunks size defaultChunkSize = some (totalChunks size) ↔ divCeil size defaultChunkSize < 2 ^ 32 := by
  unfold computeChunks totalChunks
  rw [ceilDiv_eq size chunkSize_pos]
  by_cases empty : size = 0
  · subst empty
    decide
  · have some_ : 0 < divCeil size defaultChunkSize := by
      by_contra none_
      have upto := le_divCeil_mul size chunkSize_pos
      rw [Nat.eq_zero_of_not_pos none_] at upto
      omega
    rw [if_neg empty,if_neg chunkSize_pos.ne',Option.some_inj,Nat.max_eq_right some_]
    constructor
    · intro same
      rw [← same]
      exact Nat.mod_lt _ (by decide)
    · exact Nat.mod_eq_of_lt

/-- The tracker cuts the chunks that the manager expects. -/
theorem chunkOf_eq (file : Bytes) (i : Nat) :
    chunkOf file i = slice file (i * defaultChunkSize) (chunkLen file.length defaultChunkSize i) := by
  have len : min (i * defaultChunkSize + defaultChunkSize) file.length - i * defaultChunkSize =
      chunkLen file.length defaultChunkSize i := by
    unfold chunkLen
    omega
  show slice file _ _ = _
  rw [len]

theorem slice_chunkLen (file : Bytes) (i : Nat) :
    slice file (i * defaultChunkSize) (chunkLen file.length defaultChunkSize i) = slice file (i * defaultChunkSize) defaultChunkSize :=
  slice_min file _ _

end Sctl.WebTransfers
