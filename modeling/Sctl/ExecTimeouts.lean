import Mathlib.Algebra.Order.Ring.Nat
import Sctl.RelayInput

/-!
How long a proxied command may take. The relay works out from the body how long it
waits for the answer; the device works out from the same body, and from its own
configuration, under which time limits it runs the commands.
-/
namespace Sctl.ExecTimeouts
open Sctl.RelayInput (Relay Request Outcome Endpoint asU64 proxy proxied assign typed source)

/-! ### The device's configuration -/

/-- The fields that `validate` reads, and the limits of commands. -/
structure ServerConfig where
  listen : String
  maxSessions : Nat
  execTimeoutMs : Nat
  maxBatchSize : Nat
  maxFileSize : Nat
  defaultTerminalRows : Nat
  defaultTerminalCols : Nat
  maxConcurrentTransfers : Nat
  transferChunkSize : Nat

structure TunnelConfig where
  relay : Bool
  tunnelKey : String
  url : Option String

structure Config where
  server : ServerConfig
  tunnel : Option TunnelConfig

def outOfRange (name : String) (value : Nat) : List String :=
  if 1 ≤ value ∧ value ≤ 500 then [] else ["server." ++ name ++ " " ++ toString value ++ " out of range [1, 500]"]

def tooSmall (name : String) (value : Nat) : List String :=
  if value < 1024 then ["server." ++ name ++ " " ++ toString value ++ " is too small (min 1024)"] else []

def validateTunnel (tc : TunnelConfig) : List String :=
  (match tc.relay,tc.url with
    | false,some url =>
      if "ws://".toList.isPrefixOf url.toList || "wss://".toList.isPrefixOf url.toList then []
      else ["tunnel.url '" ++ url ++ "' must start with ws:// or wss://"]
    | _,_ => []) ++
  if tc.relay && tc.tunnelKey.utf8ByteSize < 8 then
    ["tunnel.tunnel_key length " ++ toString tc.tunnelKey.utf8ByteSize ++ " is too short (min 8)"]
  else []

/-- The errors of a configuration; `isSocketAddr` is the parser of socket addresses. -/
def validate (isSocketAddr : String → Bool) (config : Config) : List String :=
  (if isSocketAddr config.server.listen then []
    else ["server.listen '" ++ config.server.listen ++ "' is not a valid socket address"]) ++
  outOfRange "default_terminal_rows" config.server.defaultTerminalRows ++
  outOfRange "default_terminal_cols" config.server.defaultTerminalCols ++
  (if 10000 < config.server.maxSessions then
    ["server.max_sessions " ++ toString config.server.maxSessions ++ " exceeds limit of 10000"]
  else []) ++
  tooSmall "max_file_size" config.server.maxFileSize ++
  tooSmall "transfer_chunk_size" config.server.transferChunkSize ++
  (if config.server.maxConcurrentTransfers < 1 then ["server.max_concurrent_transfers must be >= 1"] else []) ++
  (config.tunnel.map validateTunnel).getD []

/-! ### The device -/

/-- What a handler does: it refuses, or runs commands one after another, each under its limit in ms. -/
inductive Answer
  | refused (status : Nat) (error code : String)
  | runs (limits : List Nat)

/-- The most that the commands may take. -/
def Answer.time : Answer → Nat
  | .refused _ _ _ => 0
  | .runs limits => limits.sum

def limitOf (config : Config) (timeoutMs : Option Nat) : Nat := timeoutMs.getD config.server.execTimeoutMs

def tooMany (config : Config) : Answer :=
  .refused 400 ("Too many commands (max " ++ toString config.server.maxBatchSize ++ ")") "BATCH_TOO_LARGE"

def handleTunnelExec (config : Config) (msg : Json) : Answer := .runs [limitOf config (asU64 (msg.index "timeout_ms"))]

def handleTunnelExecBatch (config : Config) (msg : Json) : Answer :=
  match msg.index "commands" with
  | .array commands =>
    if config.server.maxBatchSize < commands.length then tooMany config
    else .runs (commands.map fun cmd => limitOf config (asU64 (cmd.index "timeout_ms")))
  | _ => .refused 400 "commands array is required" "INVALID_REQUEST"

/-- A body of `POST /api/exec`, or one command of a batch. -/
structure BatchCommand where
  command : String
  timeoutMs : Option Nat

structure BatchExecRequest where
  commands : List BatchCommand

def exec (config : Config) (payload : BatchCommand) : Answer := .runs [limitOf config payload.timeoutMs]

def batchExec (config : Config) (payload : BatchExecRequest) : Answer :=
  if payload.commands = [] then .refused 400 "commands array is empty" "INVALID_REQUEST"
  else if config.server.maxBatchSize < payload.commands.length then tooMany config
  else .runs (payload.commands.map fun cmd => limitOf config cmd.timeoutMs)

/-- A field of type `Option<u64>`; `none` is the error. -/
def readTimeout (v : Json) : Option (Option Nat) :=
  match v.index "timeout_ms" with
  | .null => some none
  | timeout => (asU64 timeout).map some

def readCommand (v : Json) : Option BatchCommand := do
  let command ← v.str "command"
  let timeoutMs ← readTimeout v
  some ⟨command,timeoutMs⟩

def readBatch (v : Json) : Option BatchExecRequest :=
  match v.index "commands" with
  | .array cmds => (cmds.mapM readCommand).map (⟨·⟩)
  | _ => none

/-! ### The two requests -/

inductive Kind
  | exec
  | execBatch

def Kind.endpoint : Kind → Endpoint
  | .exec => .exec
  | .execBatch => .execBatch

/-- The device on a message of the tunnel. -/
def handle (config : Config) (msg : Json) : Kind → Answer
  | .exec => handleTunnelExec config msg
  | .execBatch => handleTunnelExecBatch config msg

/-- The device's own route on the same body, where that is well formed. -/
def route (config : Config) (body : Json) : Kind → Option Answer
  | .exec => (readCommand body).map (exec config)
  | .execBatch => (readBatch body).map (batchExec config)

/-- Addition of two `u64`; `none` is an overflow. -/
def addU64 (a b : Nat) : Option Nat := if a + b < 2 ^ 64 then some (a + b) else none

def mulU64 (a b : Nat) : Option Nat := if a * b < 2 ^ 64 then some (a * b) else none

def sumU64 (ns : List Nat) : Option Nat := ns.foldlM addU64 0

/-- What the relay counts for a command. -/
def relayMs (cmd : Json) : Nat := (asU64 (cmd.index "timeout_ms")).getD 30000

/-- The relay's timeout with every operation checked. -/
def timeoutSecs (relay : Relay) (payload : Json) : Kind → Option Nat
  | .exec =>
    match asU64 (payload.index "timeout_ms") with
    | some ms => addU64 (ms / 1000) 5
    | none => some relay.tunnelProxyTimeoutSecs
  | .execBatch =>
    match payload.index "commands" with
    | .array cmds => do
      let totalMs ← sumU64 (cmds.map relayMs)
      let margin ← mulU64 5 cmds.length
      addU64 (totalMs / 1000) margin
    | _ => some relay.tunnelProxyTimeoutSecs

/-- No operation overflows, and the relay waits for as long as the device may take. -/
structure Outwaits (relay : Relay) (config : Config) (kind : Kind) (payload msg : Json) (secs : Nat) : Prop where
  fits : timeoutSecs relay payload kind = some secs
  handled : (handle config msg kind).time ≤ 1000 * secs
  routed : ∀ answer, route config payload kind = some answer → answer.time ≤ 1000 * secs

/-- The timeouts that commands give. -/
def given (cmds : List Json) : List Nat := cmds.filterMap fun cmd => asU64 (cmd.index "timeout_ms")

/-- How many commands give none. -/
def absent (cmds : List Json) : Nat := cmds.length - (given cmds).length

/-- The timeouts, with half a minute for each that is absent, are a `u64`, and the
    device's default is not so long that the margin of 5 s a command cannot make up for it. -/
def InTime (relay : Relay) (config : Config) (payload : Json) : Kind → Prop
  | .exec =>
    (asU64 (payload.index "timeout_ms")).isSome = true ∨ config.server.execTimeoutMs ≤ 1000 * relay.tunnelProxyTimeoutSecs
  | .execBatch => ∀ cmds, payload.index "commands" = .array cmds →
    (given cmds).sum + 30000 * absent cmds < 2 ^ 64 ∧
    ((given cmds).sum + 30000 * absent cmds) / 1000 + 5 * cmds.length < 2 ^ 64 ∧
    (cmds.length ≤ config.server.maxBatchSize →
      config.server.execTimeoutMs * absent cmds + (given cmds).sum % 1000 ≤ 30000 * absent cmds + 5000 * cmds.length)

/-! ### Messages -/

/-- An assignment leaves all other fields as they are. -/
theorem index_assign {fields : List (String × Json)} {v msg : Json} (assigned : assign v fields = some msg) {key : String}
    (other : key ∉ fields.map Prod.fst) : msg.index key = v.index key := by
  induction fields generalizing v with
  | nil => cases assigned; rfl
  | cons e rest ih =>
    rw [List.map_cons,List.mem_cons,not_or] at other
    rw [assign,List.foldlM_cons] at assigned
    obtain ⟨v',written,after⟩ := Option.bind_eq_some_iff.mp assigned
    rw [ih after other.2,Json.index,Json.field_set written,if_neg other.1,Json.index]

theorem proxied_forward {relay : Relay} {request : Request} {fields : List (String × Json)} {timeout : Json → Nat}
    {payload msg : Json} {secs : Nat} (body : request.body = .json payload)
    (sent : proxied relay request fields timeout = .forward msg secs) :
    assign payload fields = some msg ∧ secs = timeout payload := by
  rw [proxied,body] at sent
  dsimp only at sent
  split at sent
  case h_1 refused found =>
    -- what refuses a request is an error
    unfold RelayInput.validateDeviceAuth at found
    subst sent
    split at found
    · cases found
    · split at found
      · split_ifs at found <;> cases found
      · cases found
  case h_2 =>
    split at sent
    case h_1 msg' assigned =>
      cases sent
      exact ⟨assigned,rfl⟩
    case h_2 => cases sent

theorem keys_written (request : Request) (type key : String) (notType : key ≠ "type") (notId : key ≠ "request_id")
    (notSource : key ≠ "_source") : key ∉ (typed request type ++ source request).map Prod.fst := by
  unfold typed source
  cases request.sctlClient <;> simp [notType,notId,notSource]

/-! ### Arithmetic -/

theorem foldlM_addU64 (ns : List Nat) {total : Nat} (fits : total < 2 ^ 64) :
    ns.foldlM addU64 total = if total + ns.sum < 2 ^ 64 then some (total + ns.sum) else none := by
  induction ns generalizing total with
  | nil => simpa using fits
  | cons n rest ih =>
    rw [List.foldlM_cons,List.sum_cons,← Nat.add_assoc]
    by_cases small : total + n < 2 ^ 64
    · rw [addU64,if_pos small,Option.bind_eq_bind,Option.bind_some,ih small]
    · have large : ¬ total + n + rest.sum < 2 ^ 64 := by omega
      rw [addU64,if_neg small,if_neg large]
      rfl

theorem sumU64_eq (ns : List Nat) : sumU64 ns = if ns.sum < 2 ^ 64 then some ns.sum else none := by
  rw [sumU64,foldlM_addU64 ns (by decide),Nat.zero_add]

theorem foldl_wraps (cmds : List Json) (total : Nat) :
    cmds.foldl (fun total c => (total + relayMs c) % 2 ^ 64) total % 2 ^ 64 = (total + (cmds.map relayMs).sum) % 2 ^ 64 := by
  induction cmds generalizing total with
  | nil => simp
  | cons c rest ih =>
    rw [List.foldl_cons,ih,List.map_cons,List.sum_cons,Nat.mod_add_mod,Nat.add_assoc]

theorem foldl_small (cmds : List Json) {total : Nat} (fits : total < 2 ^ 64) :
    cmds.foldl (fun total c => (total + relayMs c) % 2 ^ 64) total < 2 ^ 64 := by
  induction cmds generalizing total with
  | nil => exact fits
  | cons c rest ih => exact ih (Nat.mod_lt _ (by decide))

theorem asU64_lt {v : Json} {n : Nat} (read : asU64 v = some n) : n < 2 ^ 64 := by
  unfold asU64 at read
  split at read
  · dsimp only at read
    split_ifs at read with digits small
    cases read
    exact small
  · cases read

/-- With `d` for each timeout that is absent. -/
theorem sum_getD (cmds : List Json) (d : Nat) :
    (cmds.map fun cmd => (asU64 (cmd.index "timeout_ms")).getD d).sum = (given cmds).sum + d * absent cmds := by
  have counted : ∀ cmds : List Json, (given cmds).length ≤ cmds.length := fun cmds => List.length_filterMap_le _ _
  induction cmds with
  | nil => simp [given,absent]
  | cons cmd rest ih =>
    have le := counted rest
    rw [List.map_cons,List.sum_cons,ih]
    cases read : asU64 (cmd.index "timeout_ms") with
    | some ms =>
      have cons : given (cmd :: rest) = ms :: given rest := by simp [given,read]
      simp only [absent,cons,List.sum_cons,List.length_cons,Option.getD_some,Nat.add_sub_add_right]
      omega
    | none =>
      have cons : given (cmd :: rest) = given rest := by simp [given,read]
      have more : absent (cmd :: rest) = absent rest + 1 := by
        simp only [absent,cons,List.length_cons]
        omega
      rw [cons,more,Option.getD_none,Nat.mul_add]
      omega

theorem sum_relayMs (cmds : List Json) : (cmds.map relayMs).sum = (given cmds).sum + 30000 * absent cmds :=
  sum_getD cmds 30000

theorem batch_fits_iff {relay : Relay} {payload : Json} {cmds : List Json} (there : payload.index "commands" = .array cmds)
    (secs : Nat) :
    timeoutSecs relay payload .execBatch = some secs ↔
      (given cmds).sum + 30000 * absent cmds < 2 ^ 64 ∧
      ((given cmds).sum + 30000 * absent cmds) / 1000 + 5 * cmds.length < 2 ^ 64 ∧
      ((given cmds).sum + 30000 * absent cmds) / 1000 + 5 * cmds.length = secs := by
  simp only [timeoutSecs,there,sumU64_eq,sum_relayMs]
  by_cases total : (given cmds).sum + 30000 * absent cmds < 2 ^ 64
  · rw [if_pos total,and_iff_right total,Option.bind_eq_bind,Option.bind_some,mulU64]
    by_cases margin : 5 * cmds.length < 2 ^ 64
    · rw [if_pos margin,Option.bind_some,addU64]
      split_ifs with all
      · rw [and_iff_right all,Option.some_inj]
      · exact iff_of_false (fun fits => by cases fits) fun both => all both.1
    · rw [if_neg margin]
      refine iff_of_false (fun fits => by cases fits) fun both => ?_
      omega
  · rw [if_neg total]
    exact iff_of_false (fun fits => by cases fits) fun both => total both.1

/-- Where nothing overflows, the build that wraps computes the same. -/
theorem forwarded_eq {relay : Relay} {request : Request} {kind : Kind} {payload msg : Json} {secs secs' : Nat}
    (body : request.body = .json payload) (sent : proxy relay request kind.endpoint = .forward msg secs)
    (fits : timeoutSecs relay payload kind = some secs') : secs = secs' := by
  cases kind with
  | exec =>
    obtain ⟨-,rfl⟩ := proxied_forward body sent
    unfold timeoutSecs at fits
    cases read : asU64 (payload.index "timeout_ms") with
    | none =>
      rw [read] at fits
      exact Option.some.inj fits
    | some ms =>
      rw [read] at fits
      simp only [addU64] at fits
      split_ifs at fits
      exact Option.some.inj fits
  | execBatch =>
    obtain ⟨-,rfl⟩ := proxied_forward body sent
    cases there : payload.index "commands" with
    | array cmds =>
      obtain ⟨total,all,rfl⟩ := (batch_fits_iff there secs').mp fits
      have wraps := foldl_wraps cmds 0
      rw [Nat.mod_eq_of_lt (foldl_small cmds (by decide)),Nat.zero_add,sum_relayMs,Nat.mod_eq_of_lt total] at wraps
      have same : cmds.foldl (fun total c => (total + (asU64 (c.index "timeout_ms")).getD 30000) % 2 ^ 64) 0 =
          (given cmds).sum + 30000 * absent cmds := wraps
      dsimp only
      rw [same,Nat.mod_eq_of_lt all]
    | _ => simpa [timeoutSecs,there] using fits

/-- The fields that the relay writes are none that the device reads its limits from. -/
theorem handle_forwarded {relay : Relay} {request : Request} {kind : Kind} {payload msg : Json} {secs : Nat}
    (body : request.body = .json payload) (sent : proxy relay request kind.endpoint = .forward msg secs) (config : Config) :
    handle config msg kind = handle config payload kind := by
  cases kind with
  | exec =>
    obtain ⟨assigned,-⟩ := proxied_forward body sent
    have same := index_assign assigned
      (keys_written request "tunnel.exec" "timeout_ms" (by decide) (by decide) (by decide))
    rw [handle,handleTunnelExec,same]
    rfl
  | execBatch =>
    obtain ⟨assigned,-⟩ := proxied_forward body sent
    have same := index_assign assigned
      (keys_written request "tunnel.exec_batch" "commands" (by decide) (by decide) (by decide))
    rw [handle,handleTunnelExecBatch,same]
    rfl

/-! ### The device's routes -/

theorem readTimeout_eq {v : Json} {timeoutMs : Option Nat} (read : readTimeout v = some timeoutMs) :
    timeoutMs = asU64 (v.index "timeout_ms") := by
  unfold readTimeout at read
  cases there : v.index "timeout_ms" with
  | null => rw [there] at read; cases read; rfl
  | _ =>
    rw [there] at read
    obtain ⟨ms,found,rfl⟩ := Option.map_eq_some_iff.mp read
    exact found.symm

theorem readCommand_timeout {v : Json} {cmd : BatchCommand} (read : readCommand v = some cmd) :
    cmd.timeoutMs = asU64 (v.index "timeout_ms") := by
  obtain ⟨command,-,rest⟩ := Option.bind_eq_some_iff.mp read
  obtain ⟨timeoutMs,found,same⟩ := Option.bind_eq_some_iff.mp rest
  cases same
  exact readTimeout_eq found

theorem mapM_readCommand {cmds : List Json} {commands : List BatchCommand} (read : cmds.mapM readCommand = some commands) :
    commands.map BatchCommand.timeoutMs = cmds.map fun cmd => asU64 (cmd.index "timeout_ms") := by
  induction cmds generalizing commands with
  | nil => cases read; rfl
  | cons cmd rest ih =>
    rw [List.mapM_cons] at read
    obtain ⟨first,found,after⟩ := Option.bind_eq_some_iff.mp read
    obtain ⟨others,remaining,same⟩ := Option.bind_eq_some_iff.mp after
    cases same
    rw [List.map_cons,List.map_cons,ih remaining,readCommand_timeout found]

/-- The route takes as long as the tunnel's handler. -/
theorem route_time {config : Config} {body : Json} {kind : Kind} {answer : Answer} (routed : route config body kind = some answer) :
    answer.time = (handle config body kind).time := by
  cases kind with
  | exec =>
    obtain ⟨cmd,read,rfl⟩ := Option.map_eq_some_iff.mp routed
    rw [exec,readCommand_timeout read]
    rfl
  | execBatch =>
    obtain ⟨request,read,rfl⟩ := Option.map_eq_some_iff.mp routed
    unfold readBatch at read
    split at read
    case h_2 => cases read
    case h_1 cmds there =>
      obtain ⟨commands,all,rfl⟩ := Option.map_eq_some_iff.mp read
      have timeouts := mapM_readCommand all
      have size : commands.length = cmds.length := by simpa using congrArg List.length timeouts
      have limits : commands.map (fun cmd => limitOf config cmd.timeoutMs) =
          cmds.map fun cmd => limitOf config (asU64 (cmd.index "timeout_ms")) := by
        simpa [Function.comp_def] using congrArg (List.map (limitOf config)) timeouts
      simp only [batchExec,handle,handleTunnelExecBatch,there,size,limits]
      by_cases empty : commands = []
      · -- the handler of the tunnel runs no command where the route refuses
        have none : cmds = [] := List.length_eq_zero_iff.mp (by rw [← size,empty]; rfl)
        simp [empty,none,Answer.time]
      · rw [if_neg empty]

/-! ### The relay waits long enough -/

theorem outwaits_iff_handled {relay : Relay} {request : Request} {config : Config} {kind : Kind} {payload msg : Json} {secs : Nat}
    (body : request.body = .json payload) (sent : proxy relay request kind.endpoint = .forward msg secs) :
    Outwaits relay config kind payload msg secs ↔
      timeoutSecs relay payload kind = some secs ∧ (handle config payload kind).time ≤ 1000 * secs := by
  have same := handle_forwarded body sent config
  constructor
  · intro outwaits
    exact ⟨outwaits.fits,same ▸ outwaits.handled⟩
  · rintro ⟨fits,enough⟩
    refine ⟨fits,by rw [same]; exact enough,?_⟩
    intro answer routed
    rw [route_time routed]
    exact enough

/-- The time of a batch, by the commands with and without a timeout. -/
theorem batch_time {config : Config} {payload : Json} {cmds : List Json} (there : payload.index "commands" = .array cmds) :
    (handleTunnelExecBatch config payload).time =
      if config.server.maxBatchSize < cmds.length then 0
      else (given cmds).sum + config.server.execTimeoutMs * absent cmds := by
  simp only [handleTunnelExecBatch,there]
  split_ifs with large
  · rfl
  · exact sum_getD cmds config.server.execTimeoutMs

/-- What rounding down to seconds loses is the rest of the given ones by 1000, since
    30 s are whole seconds. -/
theorem covers_iff (given absent limit count : Nat) :
    given + limit * absent ≤ 1000 * ((given + 30000 * absent) / 1000 + 5 * count) ↔
      limit * absent + given % 1000 ≤ 30000 * absent + 5000 * count := by
  have seconds : (given + 30000 * absent) / 1000 = given / 1000 + 30 * absent := by omega
  have divided := Nat.div_add_mod given 1000
  rw [seconds]
  omega

/-- The relay waits for as long as the device may take exactly when the exec gives
    its timeout, or the device's default is within the relay's; and for a batch when
    the timeouts' sum is a `u64` and the device's default, where it is used, is not
    longer than half a minute by more than the margins make up for. -/
theorem relay_outwaits_iff (relay : Relay) (request : Request) (config : Config) (kind : Kind) {payload msg : Json} {secs : Nat}
    (body : request.body = .json payload) (sent : proxy relay request kind.endpoint = .forward msg secs) :
    Outwaits relay config kind payload msg secs ↔ InTime relay config payload kind := by
  rw [outwaits_iff_handled body sent]
  cases kind with
  | exec =>
    obtain ⟨-,rfl⟩ := proxied_forward body sent
    cases read : asU64 (payload.index "timeout_ms") with
    | some ms =>
      have small := asU64_lt read
      have sum : ms / 1000 + 5 < 2 ^ 64 := by omega
      refine iff_of_true ⟨?_,?_⟩ (.inl (by rw [read]; rfl))
      · simp only [timeoutSecs,read,addU64,if_pos sum,Option.map_some,Option.getD_some]
      · simp only [handle,handleTunnelExec,Answer.time,limitOf,read,Option.getD_some,Option.map_some,List.sum_singleton]
        omega
    | none =>
      simp [timeoutSecs,read,handle,handleTunnelExec,Answer.time,limitOf,InTime]
  | execBatch =>
    cases there : payload.index "commands" with
    | array cmds =>
      have same : InTime relay config payload .execBatch ↔
          (given cmds).sum + 30000 * absent cmds < 2 ^ 64 ∧
          ((given cmds).sum + 30000 * absent cmds) / 1000 + 5 * cmds.length < 2 ^ 64 ∧
          (cmds.length ≤ config.server.maxBatchSize →
            config.server.execTimeoutMs * absent cmds + (given cmds).sum % 1000 ≤ 30000 * absent cmds + 5000 * cmds.length) := by
        simp [InTime,there]
      rw [same,batch_fits_iff there secs,← covers_iff]
      change _ ∧ (handleTunnelExecBatch config payload).time ≤ 1000 * secs ↔ _
      rw [batch_time there]
      constructor
      · rintro ⟨⟨total,all,rfl⟩,enough⟩
        refine ⟨total,all,fun small => ?_⟩
        rwa [if_neg (by omega)] at enough
      · rintro ⟨total,all,enough⟩
        have fits : timeoutSecs relay payload .execBatch = some _ := (batch_fits_iff there _).mpr ⟨total,all,rfl⟩
        obtain rfl := forwarded_eq body sent fits
        refine ⟨⟨total,all,rfl⟩,?_⟩
        split_ifs with large
        · exact Nat.zero_le _
        · exact enough (by omega)
    | _ =>
      obtain ⟨-,rfl⟩ := proxied_forward body sent
      refine iff_of_true ⟨?_,?_⟩ ?_
      · simp [timeoutSecs,there]
      · simp [handle,handleTunnelExecBatch,there,Answer.time]
      · intro cmds array
        rw [there] at array
        cases array

/-! ### The relay gives up first -/

/-- The defaults, with a limit of its own for commands. -/
def configured (execTimeoutMs : Nat) : Config :=
  ⟨⟨"0.0.0.0:1337",20,execTimeoutMs,20,52428800,24,80,4,262144⟩,none⟩

def listens (addr : String) : Bool := addr == "0.0.0.0:1337"

def timed (ms : String) : Json := .object [("command",.string "sleep 90"),("timeout_ms",.number ms)]

def untimed : Json := .object [("command",.string "sleep 90")]

def twice (cmd : Json) : Json := .object [("commands",.array [cmd,cmd])]

/-- An exec without a timeout: 60 s at the relay for 120 s at the device. A batch of
    two whose sum is 2^64: it wraps to 0, and the relay waits for 10 s. -/
theorem relay_gives_up_first :
    validate listens (configured 120000) = [] ∧
    (∃ msg, proxy RelayInput.relay (RelayInput.posted untimed) .exec = .forward msg 60 ∧
      (handle (configured 120000) msg .exec).time = 120000 ∧
      ¬Outwaits RelayInput.relay (configured 120000) .exec untimed msg 60) ∧
    ∃ msg, proxy RelayInput.relay (RelayInput.posted (twice (timed "9223372036854775808"))) .execBatch = .forward msg 10 ∧
      (handle (configured 120000) msg .execBatch).time = 2 ^ 64 ∧
      ¬Outwaits RelayInput.relay (configured 120000) .execBatch (twice (timed "9223372036854775808")) msg 10 := by
  refine ⟨by decide +kernel,⟨_,rfl,rfl,?_⟩,_,rfl,rfl,?_⟩
  · intro outwaits
    exact absurd outwaits.handled (by decide)
  · intro outwaits
    exact absurd outwaits.handled (by decide +kernel)

theorem relay_outwaits_two :
    ∃ msg, proxy RelayInput.relay (RelayInput.posted (twice (timed "90999"))) .execBatch = .forward msg 191 ∧
      (Outwaits RelayInput.relay (configured 30000) .execBatch (twice (timed "90999")) msg 191 ↔
        InTime RelayInput.relay (configured 30000) (twice (timed "90999")) .execBatch) :=
  ⟨_,rfl,relay_outwaits_iff RelayInput.relay (RelayInput.posted (twice (timed "90999"))) (configured 30000) .execBatch rfl rfl⟩

end Sctl.ExecTimeouts
