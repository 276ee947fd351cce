import Sctl.Json
import Sctl.RelaySubscriptions

/-!
Who gets a frame of the device. The relay puts a client's id before the request
id of everything the client sends (`handle_client_ws`); a frame that comes back
with such a tag goes to that client, untagged. A response without a tag belongs
to a REST call; other frames without one go to all clients (`handle_device_ws`).
Deliveries are those that the relay attempts, whether or not a client's queue is
full. The types that the device answers with are those of `tunnel/client.rs`.
-/
namespace Sctl.RelayRouting
open Sctl.RelaySubscriptions (Subscriptions subscribe members)

/-! ### Tags -/

def tag (clientId rid : String) : String := clientId ++ ":" ++ rid

/-- What stands before and after the first colon. -/
def untag (rid : String) : Option (String × String) :=
  if ':' ∈ rid.toList then
    some (String.ofList (rid.toList.takeWhile (· ≠ ':')),String.ofList (rid.toList.dropWhile (· ≠ ':')).tail)
  else none

/-- What `handle_client_ws` forwards. -/
def tagRequest (clientId : String) (request : Json) : Option Json :=
  request.set "request_id" (.string (tag clientId ((request.str "request_id").getD "")))

/-! ### The device's answers -/

/-- Requests that REST calls make. -/
def restRequests : List String :=
  ["tunnel.exec","tunnel.exec_batch","tunnel.info","tunnel.health","tunnel.diagnostics","tunnel.file.read",
    "tunnel.file.write","tunnel.file.delete","tunnel.activity","tunnel.exec_result","tunnel.sessions","tunnel.shells",
    "tunnel.session.signal","tunnel.session.kill","tunnel.session.patch","tunnel.playbooks.list","tunnel.playbooks.get",
    "tunnel.playbooks.put","tunnel.playbooks.delete","tunnel.gps","tunnel.lte","tunnel.lte.bands","tunnel.lte.scan",
    "tunnel.lte.speedtest","tunnel.infra.results","tunnel.infra.discover","tunnel.infra.discover.progress",
    "tunnel.infra.discover.subnets","tunnel.infra.config","tunnel.infra.config.delete","tunnel.infra.check",
    "gx.download.init","gx.upload.init","gx.chunk.request","gx.chunk","gx.resume","gx.abort","gx.status","gx.list"]

/-- The type of the text frame that answers a REST call's request; a
    `gx.chunk.request` that succeeds is answered by a binary frame. -/
def restReply (request : String) : String :=
  if request = "gx.chunk.request" ∨ request = "gx.chunk" then "gx.chunk.ack" else request ++ ".result"

/-- The types of the frames that answer a forwarded `session.*`, `shell.*` or
    `job.*` request and repeat its id. -/
def forwardedReplies : String → List String
  | "session.start" => ["session.started","error"]
  | "job.start" => ["session.started","error"]
  | "session.exec" => ["session.exec.ack","error"]
  | "session.kill" => ["session.closed","error"]
  | "session.signal" => ["session.signal.ack","error"]
  | "session.attach" => ["session.attached","error"]
  | "session.list" => ["session.listed"]
  | "session.resize" => ["session.resize.ack","error"]
  | "session.allow_ai" => ["session.allow_ai.ack","error"]
  | "session.ai_status" => ["session.ai_status.ack","error"]
  | "session.rename" => ["session.rename.ack","error"]
  | "shell.list" => ["shell.listed"]
  | _ => []

/-! ### The relay -/

structure Relay where
  clients : List String
  subs : Subscriptions
  pending : List String
  lastGpsFix : Option Json
  lastLteSignal : Option Json

inductive Frame
  | text (v : Json)
  | binary (header : Json) (data : List UInt8)

/-- `TunnelResponse`. -/
inductive Response
  | json (v : Json)
  | binary (header : Json) (data : List UInt8)

inductive Delivery
  | client (clientId : String) (msg : Json)
  | call (requestId : String) (response : Response)

def endsWith (s suffix : String) : Bool := suffix.toList.isSuffixOf s.toList

def typeOf (v : Json) : String := (v.str "type").getD ""

def outputTypes : List String := ["session.stdout","session.stderr","session.system"]

def lifecycleTypes : List String :=
  ["session.started","session.created","session.destroyed","session.closed","session.exited","session.renamed",
    "session.ai_status_changed","session.ai_permission_changed","session.exec.ack","session.signal.ack",
    "session.resize.ack","session.attached","session.listed","session.allow_ai.ack","session.ai_status.ack",
    "session.rename.ack","shell.listed","activity.new","gx.progress","gx.complete","gx.error","error"]

def telemetryTypes : List String := ["gps.fix","lte.signal","lte.watchdog"]

def isResponse (t : String) : Bool := endsWith t ".result" || endsWith t ".ack"

/-- To the client of the tag, with the id that it sent. -/
def toClient (r : Relay) (clientId rid : String) (v : Json) : List Delivery :=
  if clientId ∈ r.clients then ((v.set "request_id" (.string rid)).map (Delivery.client clientId)).toList else []

def toAll (r : Relay) (v : Json) : List Delivery := r.clients.map (Delivery.client · v)

/-- To those of the session's subscribers that are there. -/
def toSubscribers (r : Relay) (v : Json) : List Delivery :=
  match v.str "session_id" with
  | some id => ((members r.subs id).filter (· ∈ r.clients)).map (Delivery.client · v)
  | none => []

def resolve (r : Relay) (requestId : String) (response : Response) : Relay × List Delivery :=
  if requestId ∈ r.pending then ({ r with pending := r.pending.erase requestId },[.call requestId response]) else (r,[])

def routeResponse (r : Relay) (v : Json) : Relay × List Delivery :=
  match v.str "request_id" with
  | some requestId =>
    match untag requestId with
    | some (clientId,rid) => (r,toClient r clientId rid v)
    | none => resolve r requestId (.json v)
  | none => (r,[])

/-- A session that ends has no subscribers any more, and who started one is subscribed. -/
def updateSubs (subs : Subscriptions) (v : Json) : Subscriptions :=
  if typeOf v = "session.destroyed" ∨ typeOf v = "session.closed" then
    match v.str "session_id" with
    | some id => subs.erase id
    | none => subs
  else if typeOf v = "session.started" then
    match (v.str "request_id").bind untag,v.str "session_id" with
    | some (clientId,_),some id => subscribe subs id clientId
    | _,_ => subs
  else subs

def routeLifecycle (r : Relay) (v : Json) : Relay × List Delivery :=
  let r' := { r with subs := updateSubs r.subs v }
  match (v.str "request_id").bind untag with
  | some (clientId,rid) => (r',toClient r' clientId rid v)
  | none => (r',toAll r' v)

def routeTelemetry (r : Relay) (v : Json) : Relay × List Delivery :=
  ({ r with
    lastGpsFix := if typeOf v = "gps.fix" then some v else r.lastGpsFix
    lastLteSignal := if typeOf v = "lte.signal" then some v else r.lastLteSignal },toAll r v)

/-- The arms in the order of the source. -/
def routeText (r : Relay) (v : Json) : Relay × List Delivery :=
  if typeOf v ∈ outputTypes then (r,toSubscribers r v)
  else if typeOf v = "tunnel.ping" ∨ typeOf v = "tunnel.pong" then (r,[])
  else if isResponse (typeOf v) then routeResponse r v
  else if typeOf v ∈ lifecycleTypes then routeLifecycle r v
  else if typeOf v ∈ telemetryTypes then routeTelemetry r v
  else (r,[])

def routeBinary (r : Relay) (header : Json) (data : List UInt8) : Relay × List Delivery :=
  match header.str "request_id" with
  | some requestId => resolve r requestId (.binary header data)
  | none => (r,[])

def route (r : Relay) : Frame → Relay × List Delivery
  | .text v => routeText r v
  | .binary header data => routeBinary r header data

/-! ### Exact routing -/

/-- A response, an error, or what the device answers a forwarded request with. -/
def IsReply (t : String) : Prop := isResponse t = true ∨ t = "error" ∨ ∃ request, t ∈ forwardedReplies request

/-- The frame is for the REST call that made the request under the id. -/
def AnswersRest (request requestId : String) : Frame → Prop
  | .text v => request ∈ restRequests ∧ typeOf v = restReply request ∧ v.str "request_id" = some requestId
  | .binary header _ => header.str "request_id" = some requestId

theorem untag_tag {clientId : String} (plain : ':' ∉ clientId.toList) (rid : String) :
    untag (tag clientId rid) = some (clientId,rid) := by
  have whole : (tag clientId rid).toList = clientId.toList ++ ':' :: rid.toList := by
    simp [tag,String.toList_append]
  have before : ∀ c ∈ clientId.toList, (decide (c ≠ ':')) = true := by
    intro c member
    rw [decide_eq_true_eq]
    rintro rfl
    exact plain member
  have taken : (clientId.toList ++ ':' :: rid.toList).takeWhile (· ≠ ':') = clientId.toList := by
    rw [List.takeWhile_append_of_pos before]
    simp
  have dropped : (clientId.toList ++ ':' :: rid.toList).dropWhile (· ≠ ':') = ':' :: rid.toList := by
    rw [List.dropWhile_append_of_pos before]
    simp
  rw [untag,whole,if_pos (by simp),taken,dropped]
  simp [String.ofList_toList]

theorem untag_plain {rid : String} (plain : ':' ∉ rid.toList) : untag rid = none := if_neg plain

/-- A response's type is none of the types before it. -/
theorem response_first {t : String} (response : isResponse t = true) :
    t ∉ outputTypes ∧ ¬ (t = "tunnel.ping" ∨ t = "tunnel.pong") := by
  refine ⟨?_,?_⟩
  · intro member
    simp only [outputTypes,List.mem_cons,List.not_mem_nil,or_false] at member
    rcases member with rfl | rfl | rfl <;> revert response <;> decide
  · rintro (rfl | rfl) <;> revert response <;> decide

theorem lifecycle_first {t : String} (lifecycle : t ∈ lifecycleTypes) :
    t ∉ outputTypes ∧ ¬ (t = "tunnel.ping" ∨ t = "tunnel.pong") := by
  revert t
  decide

theorem reply_cases {t : String} (reply : IsReply t) : isResponse t = true ∨ t ∈ lifecycleTypes := by
  rcases reply with response | rfl | ⟨request,answer⟩
  · exact .inl response
  · exact .inr (by decide)
  · unfold forwardedReplies at answer
    split at answer <;> revert t <;> decide

theorem endsWith_append (s suffix : String) : endsWith (s ++ suffix) suffix = true := by
  rw [endsWith,String.toList_append,List.isSuffixOf_iff_suffix]
  exact List.suffix_append _ _

theorem restReply_response (request : String) : isResponse (restReply request) = true := by
  unfold restReply
  split_ifs
  · decide
  · rw [isResponse,endsWith_append,Bool.true_or]

theorem toClient_eq {r : Relay} {clientId rid rid' : String} {v : Json} (known : clientId ∈ r.clients)
    (there : v.str "request_id" = some rid') :
    ∃ restored, toClient r clientId rid v = [.client clientId restored] ∧ restored.str "request_id" = some rid ∧
      ∀ key, key ≠ "request_id" → restored.field key = v.field key := by
  obtain ⟨restored,written⟩ := Json.set_of_str there "request_id" (.string rid)
  have fields := Json.field_set written
  refine ⟨restored,?_,?_,?_⟩
  · rw [toClient,if_pos known,written]
    rfl
  · exact Json.str_eq_some (by rw [fields,if_pos rfl])
  · intro key other
    rw [fields,if_neg other]

/-- A tagged reply takes the arm of responses or that of the session's life. -/
theorem routeText_tagged {r : Relay} {clientId rid : String} {v : Json} (plain : ':' ∉ clientId.toList)
    (reply : IsReply (typeOf v)) (echo : v.str "request_id" = some (tag clientId rid)) :
    ∃ subs, (routeText r v).2 = toClient { r with subs := subs } clientId rid v := by
  rcases reply_cases reply with response | lifecycle
  · obtain ⟨output,heartbeat⟩ := response_first response
    refine ⟨r.subs,?_⟩
    rw [routeText,if_neg output,if_neg heartbeat,if_pos response]
    simp only [routeResponse,echo,untag_tag plain]
  · obtain ⟨output,heartbeat⟩ := lifecycle_first lifecycle
    rw [routeText,if_neg output,if_neg heartbeat]
    by_cases response : isResponse (typeOf v) = true
    · refine ⟨r.subs,?_⟩
      rw [if_pos response]
      simp only [routeResponse,echo,untag_tag plain]
    · refine ⟨updateSubs r.subs v,?_⟩
      rw [if_neg response,if_pos lifecycle]
      simp only [routeLifecycle,echo,Option.bind_some,untag_tag plain]

/-- What is for a call's id reaches that call or nobody. -/
theorem resolve_call (r : Relay) (requestId : String) (response : Response) (clientId : String) (msg : Json) :
    Delivery.client clientId msg ∉ (resolve r requestId response).2 := by
  unfold resolve
  split_ifs <;> simp

theorem rest_not_to_client {r : Relay} {request requestId : String} {frame : Frame}
    (answers : AnswersRest request requestId frame) (plain : ':' ∉ requestId.toList) (clientId : String) (msg : Json) :
    Delivery.client clientId msg ∉ (route r frame).2 := by
  cases frame with
  | text v =>
    obtain ⟨-,type,there⟩ := answers
    have response : isResponse (typeOf v) = true := by rw [type]; exact restReply_response request
    obtain ⟨output,heartbeat⟩ := response_first response
    rw [route,routeText,if_neg output,if_neg heartbeat,if_pos response]
    simp only [routeResponse,there,untag_plain plain]
    exact resolve_call r requestId (.json v) clientId msg
  | binary header data =>
    have there : header.str "request_id" = some requestId := answers
    rw [route,routeBinary,there]
    exact resolve_call r requestId (.binary header data) clientId msg

/-- A reply that repeats a client's tagged id is delivered to that client and to
    nobody else, with the id that the client sent and all other fields as they
    were; a frame for a REST call is never delivered to a client. -/
theorem routing_exact (r : Relay) :
    (∀ (clientId rid : String) (fields : List (String × Json)), ':' ∉ clientId.toList → clientId ∈ r.clients →
      (Json.object fields).str "request_id" = some rid →
      ∃ tagged, tagRequest clientId (.object fields) = some tagged ∧
        ∀ v, IsReply (typeOf v) → v.str "request_id" = tagged.str "request_id" →
          ∃ restored, (route r (.text v)).2 = [.client clientId restored] ∧ restored.str "request_id" = some rid ∧
            ∀ key, key ≠ "request_id" → restored.field key = v.field key) ∧
    ∀ (request requestId : String) (frame : Frame), ':' ∉ requestId.toList → AnswersRest request requestId frame →
      ∀ clientId msg, Delivery.client clientId msg ∉ (route r frame).2 := by
  refine ⟨?_,fun request requestId frame plain answers => rest_not_to_client answers plain⟩
  intro clientId rid fields plain known asked
  refine ⟨_,rfl,?_⟩
  intro v reply echo
  have sent : (Json.object (Json.put fields "request_id" (.string (tag clientId rid)))).str "request_id" =
      some (tag clientId rid) :=
    Json.str_eq_some (by rw [Json.field,Json.lookup_put,if_pos rfl])
  rw [asked,Option.getD_some,sent] at echo
  obtain ⟨subs,delivered⟩ := routeText_tagged (r := r) plain reply echo
  obtain ⟨restored,only,id,others⟩ := @toClient_eq { r with subs := subs } clientId rid _ v known echo
  exact ⟨restored,by rw [route,delivered,only],id,others⟩

/-- Two clients and a REST call. -/
def busy : Relay := ⟨["a","b"],∅,["r"],none,none⟩

def colonRequest : List (String × Json) := [("type",.string "session.exec"),("request_id",.string ":x:")]

def colonAck : Json :=
  .object [("type",.string "session.exec.ack"),("session_id",.string "s"),("request_id",.string "a::x:")]

def execResult : Json := .object [("type",.string "tunnel.exec.result"),("request_id",.string "r"),("status",.number "200")]

theorem routing_exact_busy :
    (∃ restored, (route busy (.text colonAck)).2 = [.client "a" restored] ∧ restored.str "request_id" = some ":x:" ∧
      restored.field "session_id" = some (.string "s")) ∧
    (route busy (.text execResult)).2 = [.call "r" (.json execResult)] ∧
    ∀ clientId msg, Delivery.client clientId msg ∉ (route busy (.text execResult)).2 := by
  refine ⟨?_,rfl,?_⟩
  · obtain ⟨tagged,sent,exact_⟩ := (routing_exact busy).1 "a" ":x:" colonRequest (by decide) (by decide) rfl
    cases sent
    obtain ⟨restored,only,id,others⟩ := exact_ colonAck (.inl (by decide)) rfl
    exact ⟨restored,only,id,others "session_id" (by decide)⟩
  · exact (routing_exact busy).2 "tunnel.exec" "r" (.text execResult) (by decide) ⟨by decide,rfl,rfl⟩

end Sctl.RelayRouting
