import Mathlib.Data.List.Perm.Basic
import Sctl.Json
import Sctl.Marks
import Sctl.Runs

/-!
The activity journal (`activity.rs`) and a client that polls it. A call to `log`
draws its id from a counter and takes the lock of the ring later, so calls store
their entries in another order than that of the ids. A poll asks for the entries
with a greater id than the greatest one it was given, under the filters of the
request and cut at its limit. Ids are natural; the source's counter is a `u64`.
-/
namespace Sctl.ActivityPolling
open Sctl.Marks Sctl.Runs

inductive ActivityType
  | exec
  | fileRead
  | fileWrite
  | fileList
  | sessionStart
  | sessionExec
  | sessionKill
  | sessionSignal
  | fileDelete
  | playbookList
  | playbookRead
  | playbookWrite
  | playbookDelete
  | wsConnect
  | wsDisconnect
  | tunnelConnect
  | tunnelDisconnect
  | transferStart
  | transferComplete
deriving DecidableEq

inductive ActivitySource
  | mcp
  | ws
  | rest
  | tunnel
  | unknown
deriving DecidableEq

structure ActivityEntry where
  id : Nat
  timestamp : Nat
  activityType : ActivityType
  source : ActivitySource
  summary : String
  detail : Option Json
  requestId : Option String

structure ActivityLog where
  entries : List ActivityEntry
  nextId : Nat
  maxEntries : Nat

namespace ActivityLog

def new (maxEntries : Nat) : ActivityLog := ⟨[],1,maxEntries⟩

/-- The filters of a request; one that is missing admits every entry. -/
structure Filters where
  activityType : Option ActivityType
  source : Option ActivitySource
  sessionId : Option String

/-- The request without filters. -/
def Filters.none : Filters := ⟨Option.none,Option.none,Option.none⟩

def Filters.admits (filters : Filters) (e : ActivityEntry) : Bool :=
  filters.activityType.all (fun t => e.activityType == t) && filters.source.all (fun s => e.source == s) &&
    filters.sessionId.all fun sid => (e.detail.bind fun d => d.str "session_id") == some sid

/-- What a read finds, before its limit. -/
def found (log : ActivityLog) (filters : Filters) (sinceId : Nat) : List ActivityEntry :=
  (log.entries.filter fun e => sinceId < e.id).filter filters.admits

def readSinceFiltered (log : ActivityLog) (filters : Filters) (sinceId limit : Nat) : List ActivityEntry :=
  (log.found filters sinceId).take limit

def readSince (log : ActivityLog) (sinceId limit : Nat) : List ActivityEntry :=
  (log.entries.filter fun e => sinceId < e.id).take limit

/-- The part of `log` under the lock: the oldest entry makes room. -/
def append (log : ActivityLog) (entry : ActivityEntry) : ActivityLog :=
  { log with
    entries := (if log.maxEntries ≤ log.entries.length then log.entries.drop 1 else log.entries) ++ [entry] }

/-- The read of the tunnel is that of the route without filters. -/
theorem readSince_eq (log : ActivityLog) (sinceId limit : Nat) :
    log.readSince sinceId limit = log.readSinceFiltered .none sinceId limit := by
  have all : (log.entries.filter fun e => sinceId < e.id).filter Filters.none.admits =
      log.entries.filter fun e => sinceId < e.id := List.filter_eq_self.mpr fun e _ => rfl
  rw [readSince,readSinceFiltered,found,all]

end ActivityLog
open ActivityLog

structure State where
  log : ActivityLog
  /-- Calls that drew an id and have not stored their entry. -/
  drawn : List ActivityEntry
  /-- The greatest id that the poller was given. -/
  sinceId : Nat
  /-- The ids that the poller was given, in order. -/
  returned : List Nat

def start (maxEntries : Nat) : State := ⟨.new maxEntries,[],0,[]⟩

inductive Action
  | draw (now : Nat) (activityType : ActivityType) (source : ActivitySource) (summary : String) (detail : Option Json)
      (requestId : Option String)
  | append (call : Nat)
  | poll (limit : Nat)

/-- The ids of some entries. -/
def ids (entries : List ActivityEntry) : List Nat := entries.map ActivityEntry.id

theorem ids_append (first second : List ActivityEntry) : ids (first ++ second) = ids first ++ ids second :=
  List.map_append

/-- The poller after the entries it was given. -/
def given (s : State) (entries : List ActivityEntry) : State :=
  { s with
    sinceId := (ids entries).foldl max s.sinceId
    returned := s.returned ++ ids entries }

def poll (filters : Filters) (s : State) (limit : Nat) : State :=
  given s (s.log.readSinceFiltered filters s.sinceId limit)

def step (filters : Filters) (s : State) : Action → Option State
  | .draw now activityType source summary detail requestId =>
    some { s with
      log := { s.log with nextId := s.log.nextId + 1 }
      drawn := s.drawn ++ [⟨s.log.nextId,now,activityType,source,summary,detail,requestId⟩] }
  | .append call => (s.drawn[call]?).map fun entry =>
      { s with log := s.log.append entry, drawn := s.drawn.eraseIdx call }
  | .poll limit => some (poll filters s limit)

/-- No entry was given twice, and after a poll that is not cut by its limit every entry
    that is still in the ring was given. -/
structure MissesNothing (filters : Filters) (s : State) : Prop where
  once : s.returned.Nodup
  complete : ∀ limit, s.log.entries.length ≤ limit → ∀ e ∈ s.log.entries, filters.admits e = true →
    e.id ∈ (poll filters s limit).returned

/-- An entry is stored before the poller is given a greater id, and a limit cuts off greater ids
    than it lets through. -/
def inTurn (filters : Filters) (s : State) : Action → Bool
  | .draw .. => true
  | .append call => (s.drawn[call]?).all fun e => !filters.admits e || s.sinceId < e.id
  | .poll limit =>
    let found := s.log.found filters s.sinceId
    (found.take limit).all fun e => (found.drop limit).all fun left => e.id < left.id

/-! ### What every run keeps -/

/-- Ids are drawn once, and the poller's mark covers what it was given. -/
structure Numbered (s : State) : Prop where
  distinct : (ids (s.drawn ++ s.log.entries)).Nodup
  below : ∀ n ∈ ids (s.drawn ++ s.log.entries), n < s.log.nextId
  unseen : ∀ e ∈ s.drawn, e.id ∉ s.returned
  covered : ∀ n ∈ s.returned, n ≤ s.sinceId
  mark : s.sinceId < s.log.nextId
  once : s.returned.Nodup

variable {filters : Filters} {s t : State} {a : Action}

theorem mem_found {log : ActivityLog} {sinceId : Nat} {e : ActivityEntry} :
    e ∈ log.found filters sinceId ↔ (e ∈ log.entries ∧ sinceId < e.id) ∧ filters.admits e = true := by
  simp only [found,List.mem_filter,decide_eq_true_eq]

theorem append_sublist (log : ActivityLog) (entry : ActivityEntry) :
    (log.append entry).entries.Sublist (log.entries ++ [entry]) := by
  apply List.Sublist.append_right
  split
  · exact List.drop_sublist 1 log.entries
  · exact List.Sublist.refl _

theorem mem_append {log : ActivityLog} {entry e : ActivityEntry} (member : e ∈ (log.append entry).entries) :
    e ∈ log.entries ∨ e = entry := by
  rcases List.mem_append.mp ((append_sublist log entry).subset member) with old | new
  · exact .inl old
  · exact .inr (List.mem_singleton.mp new)

/-- The call that stores its entry, among the drawn ones. -/
theorem drawn_split {call : Nat} {entry : ActivityEntry} (here : s.drawn[call]? = some entry) :
    s.drawn.Perm (entry :: s.drawn.eraseIdx call) := by
  obtain ⟨bound,rfl⟩ := List.getElem?_eq_some_iff.mp here
  exact (List.getElem_cons_eraseIdx_perm bound).symm

theorem numbered_append {call : Nat} {entry : ActivityEntry} (numbered : Numbered s) (here : s.drawn[call]? = some entry) :
    Numbered { s with log := s.log.append entry, drawn := s.drawn.eraseIdx call } := by
  have moved : (s.drawn.eraseIdx call ++ (s.log.entries ++ [entry])).Perm (s.drawn ++ s.log.entries) := by
    have cycled : (s.drawn.eraseIdx call ++ (s.log.entries ++ [entry])).Perm
        (entry :: (s.drawn.eraseIdx call ++ s.log.entries)) := by
      rw [← List.append_assoc]
      exact List.perm_append_singleton entry _
    exact cycled.trans ((drawn_split here).symm.append_right s.log.entries)
  have same : (ids (s.drawn.eraseIdx call ++ (s.log.entries ++ [entry]))).Perm (ids (s.drawn ++ s.log.entries)) := moved.map _
  have kept : (ids (s.drawn.eraseIdx call ++ (s.log.append entry).entries)).Sublist
      (ids (s.drawn.eraseIdx call ++ (s.log.entries ++ [entry]))) :=
    ((append_sublist s.log entry).append_left _).map _
  constructor
  · exact (same.nodup_iff.mpr numbered.distinct).sublist kept
  · exact fun n member => numbered.below n (same.mem_iff.mp (kept.subset member))
  · exact fun e member => numbered.unseen e (List.mem_of_mem_eraseIdx member)
  · exact numbered.covered
  · exact numbered.mark
  · exact numbered.once

theorem numbered_poll (numbered : Numbered s) (limit : Nat) : Numbered (poll filters s limit) := by
  have part : (s.log.readSinceFiltered filters s.sinceId limit).Sublist s.log.entries :=
    (List.take_sublist ..).trans (List.filter_sublist.trans List.filter_sublist)
  have distinct := List.nodup_append.mp (ids_append .. ▸ numbered.distinct)
  obtain ⟨least,most⟩ := le_foldl_max (ids (s.log.readSinceFiltered filters s.sinceId limit)) s.sinceId
  constructor
  · exact numbered.distinct
  · exact numbered.below
  · intro e member given
    rcases List.mem_append.mp given with old | new
    · exact numbered.unseen e member old
    · exact distinct.2.2 e.id (List.mem_map_of_mem member) e.id ((part.map _).subset new) rfl
  · intro n member
    rcases List.mem_append.mp member with old | new
    · exact Nat.le_trans (numbered.covered n old) least
    · exact most n new
  · refine foldl_max_lt numbered.mark fun n member => numbered.below n ?_
    rw [ids_append]
    exact List.mem_append_right _ ((part.map _).subset member)
  · refine List.nodup_append.mpr ⟨numbered.once,distinct.2.1.sublist (part.map _),?_⟩
    rintro n old m new rfl
    obtain ⟨e,within,rfl⟩ := List.mem_map.mp new
    have after : s.sinceId < e.id := (mem_found.mp (List.mem_of_mem_take within)).1.2
    have before : e.id ≤ s.sinceId := numbered.covered _ old
    omega

theorem numbered_step (numbered : Numbered s) (stepped : step filters s a = some t) : Numbered t := by
  cases a with
  | draw now activityType source summary detail requestId =>
    cases stepped
    have split : ∀ entry : ActivityEntry, (ids (s.drawn ++ [entry] ++ s.log.entries)).Perm
        (entry.id :: ids (s.drawn ++ s.log.entries)) := by
      intro entry
      rw [List.append_assoc]
      exact (List.perm_middle (a := entry)).map ActivityEntry.id
    constructor
    · refine (split _).nodup_iff.mpr (List.nodup_cons.mpr ⟨fun member => ?_,numbered.distinct⟩)
      exact Nat.lt_irrefl _ (numbered.below _ member)
    · intro n member
      rcases List.mem_cons.mp ((split _).mem_iff.mp member) with rfl | old
      · exact Nat.lt_succ_self _
      · exact Nat.lt_succ_of_lt (numbered.below n old)
    · intro e member given
      rcases List.mem_append.mp member with old | new
      · exact numbered.unseen e old given
      · rw [List.mem_singleton.mp new] at given
        exact absurd (numbered.covered _ given) (Nat.not_le_of_lt numbered.mark)
    · exact numbered.covered
    · exact Nat.lt_succ_of_lt numbered.mark
    · exact numbered.once
  | append call =>
    simp only [step,Option.map_eq_some_iff] at stepped
    obtain ⟨entry,here,rfl⟩ := stepped
    exact numbered_append numbered here
  | poll limit => cases stepped; exact numbered_poll numbered limit

/-! ### One step -/

/-- An entry of the ring was given or is to be given. -/
def Visible (filters : Filters) (s : State) : Prop :=
  ∀ e ∈ s.log.entries, filters.admits e = true → e.id ∈ s.returned ∨ s.sinceId < e.id

theorem mem_ids_found {log : ActivityLog} {sinceId : Nat} {e : ActivityEntry} (member : e ∈ log.entries)
    (admitted : filters.admits e = true) : e.id ∈ ids (log.found filters sinceId) ↔ sinceId < e.id := by
  constructor
  · intro within
    obtain ⟨e',found,same⟩ := List.mem_map.mp within
    rw [← same]
    exact (mem_found.mp found).1.2
  · intro after
    exact List.mem_map_of_mem (mem_found.mpr ⟨⟨member,after⟩,admitted⟩)

theorem missesNothing_iff (numbered : Numbered s) : MissesNothing filters s ↔ Visible filters s := by
  have whole : ∀ limit, s.log.entries.length ≤ limit →
      s.log.readSinceFiltered filters s.sinceId limit = s.log.found filters s.sinceId := by
    intro limit enough
    have fewer : (s.log.found filters s.sinceId).length ≤ s.log.entries.length :=
      Nat.le_trans (List.length_filter_le ..) (List.length_filter_le ..)
    exact List.take_of_length_le (Nat.le_trans fewer enough)
  constructor
  · intro none_ e member admitted
    have read := none_.complete s.log.entries.length (Nat.le_refl _) e member admitted
    simp only [poll,given,whole _ (Nat.le_refl _)] at read
    exact (List.mem_append.mp read).imp_right (mem_ids_found member admitted).mp
  · intro visible
    refine ⟨numbered.once,fun limit enough e member admitted => ?_⟩
    simp only [poll,given,whole limit enough]
    apply List.mem_append.mpr
    exact (visible e member admitted).imp_right (mem_ids_found member admitted).mpr

theorem visible_append {call : Nat} {entry : ActivityEntry} (numbered : Numbered s) (visible : Visible filters s)
    (here : s.drawn[call]? = some entry) :
    Visible filters { s with log := s.log.append entry, drawn := s.drawn.eraseIdx call } ↔
      inTurn filters s (.append call) = true := by
  simp only [inTurn,here,Option.all_some,Bool.or_eq_true,Bool.not_eq_true',decide_eq_true_eq]
  have stored : entry ∈ (s.log.append entry).entries := by simp [ActivityLog.append]
  constructor
  · intro after
    by_cases admitted : filters.admits entry = true
    · right
      exact (after entry stored admitted).resolve_left (numbered.unseen entry (List.mem_of_getElem? here))
    · left
      exact Bool.eq_false_iff.mpr admitted
  · intro turn e member admitted
    rcases mem_append member with old | rfl
    · exact visible e old admitted
    · right
      exact turn.resolve_left (by rw [admitted]; exact Bool.noConfusion)

theorem visible_poll {limit : Nat} (numbered : Numbered s) (visible : Visible filters s) :
    Visible filters (poll filters s limit) ↔ inTurn filters s (.poll limit) = true := by
  have ring : (ids s.log.entries).Nodup := (List.nodup_append.mp (ids_append .. ▸ numbered.distinct)).2.1
  have distinct : (ids (s.log.found filters s.sinceId)).Nodup :=
    ring.sublist ((List.filter_sublist.trans List.filter_sublist).map _)
  have whole := List.take_append_drop limit (s.log.found filters s.sinceId)
  simp only [inTurn,List.all_eq_true,decide_eq_true_eq]
  constructor
  · intro after e taken left cut
    have found : left ∈ s.log.found filters s.sinceId := List.mem_of_mem_drop cut
    obtain ⟨⟨member,beyond⟩,admitted⟩ := mem_found.mp found
    have kept : left.id ∉ ids ((s.log.found filters s.sinceId).take limit) := by
      rw [← whole,ids_append] at distinct
      exact fun within => (List.nodup_append.mp distinct).2.2 left.id within left.id (List.mem_map_of_mem cut) rfl
    rcases after left member admitted with given | later
    · rcases List.mem_append.mp given with old | new
      · exact absurd (numbered.covered _ old) (Nat.not_le_of_lt beyond)
      · exact absurd new kept
    · exact Nat.lt_of_le_of_lt ((le_foldl_max (ids ((s.log.found filters s.sinceId).take limit)) s.sinceId).2 e.id
        (List.mem_map_of_mem taken)) later
  · intro cut e member admitted
    rcases visible e member admitted with old | beyond
    · exact .inl (List.mem_append_left _ old)
    · have found : e ∈ s.log.found filters s.sinceId := mem_found.mpr ⟨⟨member,beyond⟩,admitted⟩
      rw [← whole] at found
      rcases List.mem_append.mp found with taken | left
      · exact .inl (List.mem_append_right _ (List.mem_map_of_mem taken))
      · right
        refine foldl_max_lt beyond fun n within => ?_
        obtain ⟨e',taken,rfl⟩ := List.mem_map.mp within
        exact cut e' taken e left

theorem missesNothing_step (numbered : Numbered s) (none_ : MissesNothing filters s)
    (stepped : step filters s a = some t) : MissesNothing filters t ↔ inTurn filters s a = true := by
  rw [missesNothing_iff (numbered_step numbered stepped)]
  have visible : Visible filters s := (missesNothing_iff numbered).mp none_
  cases a with
  | draw now activityType source summary detail requestId =>
    cases stepped
    exact iff_of_true visible rfl
  | append call =>
    simp only [step,Option.map_eq_some_iff] at stepped
    obtain ⟨entry,here,rfl⟩ := stepped
    exact visible_append numbered visible here
  | poll limit => cases stepped; exact visible_poll numbered visible

/-- A poller misses nothing exactly as long as no entry that it asks for is stored after it was
    given a greater id, and no limit cuts off a smaller id than it lets through. -/
theorem polling_misses_nothing_iff (filters : Filters) (maxEntries : Nat) (actions : List Action) :
    Always (step filters) (MissesNothing filters) (start maxEntries) actions ↔
      Along (step filters) (fun s a => inTurn filters s a = true) (start maxEntries) actions := by
  have numbered : Numbered (start maxEntries) :=
    ⟨List.nodup_nil,by simp [start,ActivityLog.new,ids],by simp [start],by simp [start],Nat.zero_lt_one,List.nodup_nil⟩
  refine always_iff_along (fun _ _ _ numbered stepped => numbered_step numbered stepped)
    (fun _ _ _ numbered none_ stepped => missesNothing_step numbered none_ stepped) numbered ?_
  exact (missesNothing_iff numbered).mpr fun e member => by cases member

/-- Two calls draw their ids and store their entries in the opposite order, with a poll in between. -/
def overtaken : List Action :=
  [.draw 0 .exec .rest "first" none none,.draw 0 .exec .rest "second" none none,.append 1,.poll 50,.append 0]

/-- The first entry is in the ring, and no later poll asks for it. -/
theorem entry_never_returned : ¬ ∀ (filters : Filters) (maxEntries : Nat) (actions : List Action),
    Always (step filters) (MissesNothing filters) (start maxEntries) actions := by
  intro claim
  have skipped : (run (step .none) (start 200) overtaken).map (fun s => (ids s.log.entries,(poll .none s 2).returned)) =
      some ([2,1],[2]) := by decide
  obtain ⟨s,ran,last⟩ := Option.map_eq_some_iff.mp skipped
  obtain ⟨ring,read⟩ := Prod.mk.inj last
  have first : 1 ∈ ids s.log.entries := by rw [ring]; decide
  obtain ⟨e,member,here⟩ := List.mem_map.mp first
  have enough : s.log.entries.length ≤ 2 := by
    have two : (ids s.log.entries).length = 2 := by rw [ring]; rfl
    rw [ids,List.length_map] at two
    omega
  have returned := (always_last (claim .none 200 overtaken) ran).complete 2 enough e member rfl
  rw [read,here] at returned
  exact absurd returned (by decide)

end Sctl.ActivityPolling
