import Sctl.ActivityPolling
import Sctl.Rings
import Sctl.Texts

/-!
Results of commands (`server/src/routes/exec.rs`, `ExecResultsCache` in
`activity.rs`). A command that has ended is logged, which draws an id and stores an
entry of the journal later, and after that its full result is stored under the id.
Requests run side by side with each other and with everything else that is logged,
so results are stored in another order than that of their ids. The handlers of the
tunnel do the same as those of the routes.
-/
namespace Sctl.ExecResults
open ActivityPolling Runs

structure ExecResult where
  exitCode : Int
  stdout : List Char
  stderr : List Char
  durationMs : Nat

inductive ExecError
  | spawnFailed (e : List Char)
  | processFailed (e : List Char)
  | timeout

/-- What `ExecError` displays. -/
def ExecError.message : ExecError → List Char
  | .spawnFailed e => "Failed to spawn process: ".toList ++ e
  | .processFailed e => "Process error: ".toList ++ e
  | .timeout => "Command timed out".toList

structure CachedExecResult where
  activityId : Nat
  exitCode : Int
  stdout : List Char
  stderr : List Char
  durationMs : Nat
  command : List Char
  status : String
  errorMessage : Option (List Char)

/-- A command that has ended, as its request knows it. -/
structure Ended where
  command : List Char
  source : ActivitySource
  requestId : Option String
  timeout : Nat
  outcome : Except ExecError ExecResult

/-! ### What is written down -/

/-- `split_whitespace` and `join(" ")`. -/
def collapse (s : List Char) : List Char :=
  [' '].intercalate ((s.splitOnP Texts.isWhitespace).filter (· ≠ []))

def truncateStr (s : List Char) (max : Nat) : List Char :=
  let cleaned := collapse s
  if cleaned.length ≤ max then cleaned else cleaned.take (max - 3) ++ "...".toList

def number (n : Int) : Json := .number (toString n)

/-- The entry of the journal for a command. -/
def entry (id now : Nat) (c : Ended) : ActivityEntry where
  id := id
  timestamp := now
  activityType := .exec
  source := c.source
  summary := String.ofList (truncateStr c.command 80)
  detail := some <| .object <| match c.outcome with
    | .ok r => [("exit_code",number r.exitCode),("duration_ms",number r.durationMs),
        ("stdout_preview",.string (String.ofList (truncateStr r.stdout 200))),
        ("stderr_preview",.string (String.ofList (truncateStr r.stderr 200))),("has_full_output",.bool true)]
    | .error .timeout => [("exit_code",number (-1)),("duration_ms",number c.timeout),("status",.string "timeout"),
        ("error",.string (String.ofList ExecError.timeout.message)),("has_full_output",.bool true)]
    | .error e => [("exit_code",number (-1)),("duration_ms",number 0),("status",.string "error"),
        ("error",.string (String.ofList e.message)),("has_full_output",.bool true)]
  requestId := c.requestId

/-- What is cached for a command: `log_exec_ok` and `log_exec_err`. -/
def cached (id : Nat) (c : Ended) : CachedExecResult :=
  match c.outcome with
  | .ok r => ⟨id,r.exitCode,r.stdout,r.stderr,r.durationMs,c.command,"ok",none⟩
  | .error .timeout =>
    let e := ExecError.timeout.message
    ⟨id,-1,[],e,c.timeout,c.command,"timeout",some e⟩
  | .error e => ⟨id,-1,[],e.message,0,c.command,"error",some e.message⟩

/-! ### Requests side by side -/

/-- A call to `log` that has drawn its id, and what its caller is about to cache. -/
structure Call where
  entry : ActivityEntry
  result : Option CachedExecResult

structure State where
  log : ActivityLog
  cache : Rings.Index Nat CachedExecResult
  calls : List Call
  /-- Results whose entry is in the journal. -/
  logged : List CachedExecResult
  /-- The commands that have ended, by the id that they drew, and the time of their entry. -/
  ended : List (Nat × Nat × Ended)
  stored : List CachedExecResult

def start (maxEntries : Nat) : State := ⟨.new maxEntries,.empty,[],[],[],[]⟩

inductive Action
  /-- A command has ended. -/
  | finish (now : Nat) (c : Ended)
  /-- Something else is logged. -/
  | other (now : Nat) (activityType : ActivityType) (source : ActivitySource) (summary : String) (detail : Option Json)
      (requestId : Option String)
  | append (call : Nat)
  | store (result : Nat)

variable (size : Nat)

/-- `ExecResultsCache::store`. -/
def store (cache : Rings.Index Nat CachedExecResult) (r : CachedExecResult) : Rings.Index Nat CachedExecResult :=
  cache.store CachedExecResult.activityId size r

/-- A call to `log` draws the next id. -/
def State.draw (s : State) (call : Nat → Call) : State :=
  { s with log := { s.log with nextId := s.log.nextId + 1 }, calls := s.calls ++ [call s.log.nextId] }

def step (s : State) : Action → Option State
  | .finish now c =>
    let drew := s.draw fun id => ⟨entry id now c,some (cached id c)⟩
    some { drew with ended := s.ended ++ [(s.log.nextId,now,c)] }
  | .other now activityType source summary detail requestId =>
    some (s.draw fun id => ⟨⟨id,now,activityType,source,summary,detail,requestId⟩,none⟩)
  | .append call => (s.calls[call]?).map fun c =>
      { s with
        log := s.log.append c.entry
        calls := s.calls.eraseIdx call
        logged := s.logged ++ c.result.toList }
  | .store result => (s.logged[result]?).map fun r =>
      { s with
        cache := store size s.cache r
        logged := s.logged.eraseIdx result
        stored := s.stored ++ [r] }

/-- `ExecResultsCache::get`, as `GET /api/activity/{id}/result` asks for it. -/
def State.get (s : State) (activityId : Nat) : Option CachedExecResult := s.cache.map.lookup activityId

/-- What a client may rely on that finds a command in the journal and asks for its result. -/
structure Faithful (s : State) : Prop where
  /-- What is found under an id is the result of the command that drew it. -/
  own : ∀ id r, s.get id = some r → ∃ now c, (id,now,c) ∈ s.ended ∧ r = cached id c
  /-- The entry with the id is about the same command. -/
  same : ∀ e ∈ s.log.entries, ∀ now c, (e.id,now,c) ∈ s.ended → e = entry e.id now c
  /-- An id belongs to one command. -/
  once : (s.ended.map Prod.fst).Nodup
  /-- The results found are the last ones that were stored. -/
  latest : ∀ id r, s.get id = some r ↔ r ∈ Rings.latest size s.stored ∧ r.activityId = id
  /-- A command in the journal without a result is about to store it, or as many others have
      stored theirs since as the cache has room for. -/
  missing : ∀ e ∈ s.log.entries, ∀ now c, (e.id,now,c) ∈ s.ended → s.get e.id = none →
    cached e.id c ∈ s.logged ∨
      ∃ earlier later, s.stored = earlier ++ cached e.id c :: later ∧ max 1 size ≤ later.length
  bounded : s.cache.order.length ≤ max 1 size

/-! ### What every run keeps -/

/-- The results on their way to the cache and those that were stored. -/
def State.held (s : State) : List CachedExecResult := s.calls.filterMap Call.result ++ s.logged ++ s.stored

/-- The entries on their way to the journal and those in it. -/
def State.entries (s : State) : List ActivityEntry := s.calls.map Call.entry ++ s.log.entries

/-- An id that was drawn belongs to one entry, and to one result if a command drew it. -/
structure Sound (s : State) : Prop where
  exact_ : Rings.Exact CachedExecResult.activityId size s.cache s.stored
  results : (s.held.map CachedExecResult.activityId).Perm (s.ended.map Prod.fst)
  once : (s.ended.map Prod.fst).Nodup
  below : ∀ x ∈ s.ended, x.1 < s.log.nextId
  whose : ∀ r ∈ s.held, ∃ now c, (r.activityId,now,c) ∈ s.ended ∧ r = cached r.activityId c
  numbered : ∀ call ∈ s.calls, ∀ r ∈ call.result, r.activityId = call.entry.id
  distinct : (ids s.entries).Nodup
  fresh : ∀ e ∈ s.entries, e.id < s.log.nextId
  same : ∀ e ∈ s.entries, ∀ now c, (e.id,now,c) ∈ s.ended → e = entry e.id now c

variable {size : Nat} {s t : State}

theorem cached_activityId (id : Nat) (c : Ended) : (cached id c).activityId = id := by
  unfold cached
  split <;> rfl

theorem entries_draw (s : State) (call : Nat → Call) : (s.draw call).entries.Perm ((call s.log.nextId).entry :: s.entries) := by
  simp only [State.entries,State.draw,List.map_append,List.map_cons,List.map_nil,List.append_assoc,List.singleton_append]
  exact List.perm_middle

/-- The entry of a call has an id of its own. -/
theorem Sound.drew (sound : Sound size s) (call : Nat → Call) (drawn : (call s.log.nextId).entry.id = s.log.nextId) :
    (ids (s.draw call).entries).Nodup ∧ ∀ e ∈ (s.draw call).entries, e.id < s.log.nextId + 1 := by
  have entries := entries_draw s call
  constructor
  · refine ((entries.map ActivityEntry.id).nodup_iff).mpr (List.nodup_cons.mpr ⟨fun member => ?_,sound.distinct⟩)
    obtain ⟨e,there,same⟩ := List.mem_map.mp member
    have before := sound.fresh e there
    omega
  · intro e member
    rcases List.mem_cons.mp (entries.mem_iff.mp member) with rfl | old
    · rw [drawn]
      exact Nat.lt_succ_self _
    · exact Nat.lt_succ_of_lt (sound.fresh e old)

/-- A call draws an id for something that is not a command. -/
theorem Sound.draw (sound : Sound size s) {call : Nat → Call} (drawn : (call s.log.nextId).entry.id = s.log.nextId)
    (none_ : (call s.log.nextId).result = none) : Sound size (s.draw call) := by
  have entries := entries_draw s call
  have held : (s.draw call).held = s.held := by simp [State.held,State.draw,none_]
  obtain ⟨distinct,fresh⟩ := sound.drew call drawn
  refine ⟨sound.exact_,by rw [held]; exact sound.results,sound.once,?_,by rw [held]; exact sound.whose,?_,distinct,fresh,?_⟩
  · exact fun x member => Nat.lt_succ_of_lt (sound.below x member)
  · refine List.forall_mem_append.mpr ⟨sound.numbered,List.forall_mem_singleton.mpr fun r result => ?_⟩
    rw [none_] at result
    cases result
  · intro e member now c ended
    rcases List.mem_cons.mp (entries.mem_iff.mp member) with rfl | old
    · rw [drawn] at ended
      exact absurd (sound.below _ ended) (Nat.lt_irrefl _)
    · exact sound.same e old now c ended

/-- A command ends and its call draws an id. -/
theorem Sound.finish (sound : Sound size s) (now : Nat) (c : Ended) {drew : State}
    (same : drew = s.draw fun id => ⟨entry id now c,some (cached id c)⟩) :
    Sound size { drew with ended := s.ended ++ [(s.log.nextId,now,c)] } := by
  subst same
  have entries := entries_draw s fun id => ⟨entry id now c,some (cached id c)⟩
  have unused : s.log.nextId ∉ s.ended.map Prod.fst := by
    intro member
    obtain ⟨x,there,same⟩ := List.mem_map.mp member
    have before := sound.below x there
    omega
  have held : (s.draw fun id => ⟨entry id now c,some (cached id c)⟩).held.Perm (cached s.log.nextId c :: s.held) := by
    simp only [State.held,State.draw,List.filterMap_append,List.append_assoc]
    exact List.perm_middle
  obtain ⟨distinct,fresh⟩ := sound.drew (fun id => ⟨entry id now c,some (cached id c)⟩) rfl
  refine ⟨sound.exact_,?_,?_,?_,?_,?_,distinct,fresh,?_⟩
  · refine (held.map CachedExecResult.activityId).trans ?_
    rw [List.map_cons,List.map_append,cached_activityId]
    exact (sound.results.cons _).trans (List.perm_append_singleton _ _).symm
  · rw [List.map_append]
    refine List.nodup_append.mpr ⟨sound.once,List.nodup_singleton _,?_⟩
    rintro id old _ new rfl
    obtain rfl : id = s.log.nextId := List.mem_singleton.mp new
    exact unused old
  · exact List.forall_mem_append.mpr
      ⟨fun x member => Nat.lt_succ_of_lt (sound.below x member),List.forall_mem_singleton.mpr (Nat.lt_succ_self _)⟩
  · intro r member
    rcases List.mem_cons.mp (held.mem_iff.mp member) with rfl | old
    · rw [cached_activityId]
      exact ⟨now,c,by simp,rfl⟩
    · obtain ⟨now',c',there,own⟩ := sound.whose r old
      exact ⟨now',c',List.mem_append_left _ there,own⟩
  · refine List.forall_mem_append.mpr ⟨sound.numbered,List.forall_mem_singleton.mpr fun r result => ?_⟩
    obtain rfl := Option.mem_some_iff.mp result
    exact cached_activityId _ c
  · intro e member now' c' ended
    rcases List.mem_cons.mp (entries.mem_iff.mp member) with rfl | old
    · rcases List.mem_append.mp ended with before | new
      · exact absurd (List.mem_map_of_mem before) unused
      · obtain ⟨_,rfl,rfl⟩ : (entry s.log.nextId now c).id = s.log.nextId ∧ now' = now ∧ c' = c := by
          simpa using List.mem_singleton.mp new
        rfl
    · rcases List.mem_append.mp ended with before | new
      · exact sound.same e old now' c' before
      · simp only [List.mem_singleton,Prod.mk.injEq] at new
        have before := sound.fresh e old
        omega

theorem held_append {n : Nat} {call : Call} (here : s.calls[n]? = some call) :
    ((s.calls.eraseIdx n).filterMap Call.result ++ (s.logged ++ call.result.toList) ++ s.stored).Perm s.held := by
  obtain ⟨bound,rfl⟩ := List.getElem?_eq_some_iff.mp here
  have moved : (s.calls.filterMap Call.result).Perm (s.calls[n].result.toList ++ (s.calls.eraseIdx n).filterMap Call.result) := by
    refine ((List.getElem_cons_eraseIdx_perm bound).symm.filterMap Call.result).trans ?_
    rw [List.filterMap_cons]
    cases s.calls[n].result <;> exact .refl _
  have turned : (s.calls[n].result.toList ++ (s.calls.eraseIdx n).filterMap Call.result ++ s.logged).Perm
      ((s.calls.eraseIdx n).filterMap Call.result ++ (s.logged ++ s.calls[n].result.toList)) := by
    rw [List.append_assoc,← List.append_assoc _ s.logged]
    exact List.perm_append_comm
  exact ((moved.append_right s.logged).trans turned).symm.append_right s.stored

theorem entries_append {n : Nat} {call : Call} (here : s.calls[n]? = some call) :
    ∃ all, all.Perm s.entries ∧
      ((s.calls.eraseIdx n).map Call.entry ++ (s.log.append call.entry).entries).Sublist all := by
  obtain ⟨bound,rfl⟩ := List.getElem?_eq_some_iff.mp here
  refine ⟨(s.calls.eraseIdx n).map Call.entry ++ (s.log.entries ++ [s.calls[n].entry]),?_,
    (append_sublist s.log s.calls[n].entry).append_left _⟩
  have moved := (List.getElem_cons_eraseIdx_perm bound).map Call.entry
  rw [← List.append_assoc]
  exact (List.perm_append_singleton _ _).trans (moved.append_right s.log.entries)

/-- The entry of a call comes to the journal. -/
theorem Sound.append (sound : Sound size s) {n : Nat} {call : Call} (here : s.calls[n]? = some call) :
    Sound size { s with
      log := s.log.append call.entry
      calls := s.calls.eraseIdx n
      logged := s.logged ++ call.result.toList } := by
  have held := held_append here
  obtain ⟨all,same,fewer⟩ := entries_append here
  have kept {e : ActivityEntry} (member : e ∈ (s.calls.eraseIdx n).map Call.entry ++ (s.log.append call.entry).entries) :
      e ∈ s.entries := same.mem_iff.mp (fewer.subset member)
  refine ⟨sound.exact_,(held.map _).trans sound.results,sound.once,sound.below,?_,?_,?_,?_,?_⟩
  · exact fun r member => sound.whose r (held.mem_iff.mp member)
  · exact fun other member => sound.numbered other (List.mem_of_mem_eraseIdx member)
  · exact ((same.map ActivityEntry.id).nodup_iff.mpr sound.distinct).sublist (fewer.map _)
  · exact fun e member => sound.fresh e (kept member)
  · exact fun e member => sound.same e (kept member)

/-- A result is stored. -/
theorem Sound.store (sound : Sound size s) {n : Nat} {r : CachedExecResult} (here : s.logged[n]? = some r) :
    Sound size { s with
      cache := ExecResults.store size s.cache r
      logged := s.logged.eraseIdx n
      stored := s.stored ++ [r] } := by
  obtain ⟨bound,rfl⟩ := List.getElem?_eq_some_iff.mp here
  have held : (s.calls.filterMap Call.result ++ s.logged.eraseIdx n ++ (s.stored ++ [s.logged[n]])).Perm s.held := by
    have moved : (s.logged.eraseIdx n ++ (s.stored ++ [s.logged[n]])).Perm (s.logged ++ s.stored) := by
      rw [← List.append_assoc]
      exact (List.perm_append_singleton _ _).trans ((List.getElem_cons_eraseIdx_perm bound).append_right s.stored)
    rw [State.held,List.append_assoc,List.append_assoc]
    exact moved.append_left _
  have distinct := sound.results.nodup_iff.mpr sound.once
  rw [State.held,List.map_append] at distinct
  obtain ⟨_,stored,apart⟩ := List.nodup_append.mp distinct
  have new : s.logged[n].activityId ∉ s.stored.map CachedExecResult.activityId := by
    intro member
    refine apart s.logged[n].activityId ?_ _ member rfl
    rw [List.map_append]
    exact List.mem_append_right _ (List.mem_map_of_mem (List.getElem_mem bound))
  exact ⟨sound.exact_.store stored new,(held.map _).trans sound.results,sound.once,sound.below,
    fun r member => sound.whose r (held.mem_iff.mp member),sound.numbered,sound.distinct,sound.fresh,sound.same⟩

theorem step_sound (s : State) (a : Action) (t : State) (sound : Sound size s) (stepped : step size s a = some t) :
    Sound size t := by
  cases a with
  | finish now c =>
    cases stepped
    exact sound.finish now c rfl
  | other now activityType source summary detail requestId =>
    cases stepped
    exact sound.draw rfl rfl
  | append n =>
    obtain ⟨call,here,rfl⟩ := Option.map_eq_some_iff.mp stepped
    exact sound.append here
  | store n =>
    obtain ⟨r,here,rfl⟩ := Option.map_eq_some_iff.mp stepped
    exact sound.store here

theorem start_sound (maxEntries : Nat) : Sound size (start maxEntries) where
  exact_ := Rings.exact_empty
  results := .refl _
  once := List.nodup_nil
  below := fun _ member => nomatch member
  whose := fun _ member => nomatch member
  numbered := fun _ member => nomatch member
  distinct := List.nodup_nil
  fresh := fun _ member => nomatch member
  same := fun _ member => nomatch member

/-- An id belongs to one command. -/
theorem Sound.command (sound : Sound size s) {id now now' : Nat} {c c' : Ended} (one : (id,now,c) ∈ s.ended)
    (two : (id,now',c') ∈ s.ended) : (now,c) = (now',c') :=
  (Prod.mk.inj (List.inj_on_of_nodup_map sound.once one two rfl)).2

/-- A command in the journal whose result is not found. -/
theorem Sound.missing (sound : Sound size s) {e : ActivityEntry} (journal : e ∈ s.log.entries) {now : Nat} {c : Ended}
    (ended : (e.id,now,c) ∈ s.ended) (none_ : s.get e.id = none) :
    cached e.id c ∈ s.logged ∨ ∃ earlier later, s.stored = earlier ++ cached e.id c :: later ∧ max 1 size ≤ later.length := by
  have drew : e.id ∈ s.held.map CachedExecResult.activityId := sound.results.mem_iff.mpr (List.mem_map_of_mem ended)
  obtain ⟨r,held,same⟩ := List.mem_map.mp drew
  obtain ⟨now',c',theirs,own⟩ := sound.whose r held
  rw [same] at theirs own
  obtain ⟨-,rfl⟩ := Prod.mk.inj (sound.command theirs ended)
  subst own
  rcases List.mem_append.mp held with early | stored
  · rcases List.mem_append.mp early with call | logged
    · -- its entry would not be in the journal yet
      obtain ⟨one,member,result⟩ := List.mem_filterMap.mp call
      have numbered := sound.numbered one member _ result
      rw [cached_activityId] at numbered
      have distinct := sound.distinct
      rw [State.entries,ids_append] at distinct
      refine absurd numbered.symm ((List.nodup_append.mp distinct).2.2 _ ?_ _ (List.mem_map_of_mem journal))
      exact List.mem_map_of_mem (List.mem_map_of_mem member)
    · exact .inl logged
  · obtain ⟨earlier,later,split⟩ := List.append_of_mem stored
    refine .inr ⟨earlier,later,split,?_⟩
    by_contra few
    have kept : cached e.id c' ∈ Rings.latest size s.stored := by
      rw [split]
      exact Rings.mem_latest_of_few (by omega)
    have found := (sound.exact_.map e.id _).mpr ⟨kept,cached_activityId _ _⟩
    rw [State.get,found] at none_
    cases none_

theorem Sound.faithful (sound : Sound size s) : Faithful size s where
  own id r found := by
    obtain ⟨held,same⟩ := (sound.exact_.map id r).mp found
    have member : r ∈ s.held := List.mem_append_right _ ((Rings.latest_suffix s.stored).subset held)
    obtain ⟨now,c,ended,own⟩ := sound.whose r member
    rw [same] at ended own
    exact ⟨now,c,ended,own⟩
  same e member := sound.same e (List.mem_append_right _ member)
  once := sound.once
  latest := sound.exact_.map
  missing _ journal _ _ := sound.missing journal
  bounded := by
    rw [sound.exact_.order,Rings.latest_length]
    exact Nat.min_le_right _ _

/-- However requests overlap, the result found for an entry of the journal is that of its command. -/
theorem results_faithful (size maxEntries : Nat) (as : List Action) :
    Always (step size) (Faithful size) (start maxEntries) as :=
  always_of_preserves step_sound (fun _ sound => sound.faithful) (start_sound maxEntries)

end Sctl.ExecResults
