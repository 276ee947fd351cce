import Mathlib.Data.Finset.Card
import Mathlib.Data.List.MinMax
import Sctl.ActivityPolling

/-!
The activity list of a connection in the web client. It is fed by the broadcasts
of the server, which are appended unless their id is there, and by fetches of the
journal, which replace it with the answer that the server gave some time before.
-/
namespace Sctl.ActivityView
open Runs
open ActivityPolling (ActivityEntry ActivityLog ActivityType ActivitySource ids)

/-- At most one fetch is in flight; a second call joins it. The server reads its journal
    at some moment, and it is noted whether no entry was stored since the call. -/
inductive Fetch
  | idle
  | asked (quiet : Bool)
  | answered (entries : List ActivityEntry) (quiet : Bool)

/-- The journal of the server, the ids of the calls that sent their broadcast before they
    store their entry, the broadcasts on their way and the list of the connection. It is
    noted which ids the list ever got, and whether the last step was the return of a fetch
    during which no entry was stored. -/
structure State where
  journal : ActivityPolling.State
  sent : List Nat
  wire : List ActivityEntry
  fetch : Fetch
  activity : List ActivityEntry
  got : Finset Nat
  returned : Bool

def start (ringSize : Nat) : State := ⟨ActivityPolling.start ringSize,[],[],.idle,[],∅,false⟩

/-- What `fetchActivity` asks for without a limit of its own, as the route cuts it. -/
def fetchLimit : Nat := min 100 200

/-- `getActivity(0, 100)` as the server answers it. -/
def readActivity (log : ActivityLog) : List ActivityEntry := log.readSinceFiltered .none 0 fetchLimit

/-- `slice(-n)`, which is everything for zero. -/
def sliceLast (n : Nat) (entries : List ActivityEntry) : List ActivityEntry :=
  if n = 0 then entries else entries.drop (entries.length - n)

def onActivity (maxEntries : Nat) (activity : List ActivityEntry) (entry : ActivityEntry) : List ActivityEntry :=
  if activity.any fun e => e.id == entry.id then activity
  else
    let updated := activity ++ [entry]
    if maxEntries < updated.length then sliceLast maxEntries updated else updated

inductive Action
  /-- A call to `log` draws its id, sends its broadcast and stores its entry. -/
  | draw (now : Nat) (activityType : ActivityType) (source : ActivitySource) (summary : String) (detail : Option Json)
      (requestId : Option String)
  | broadcast (call : Nat)
  | store (call : Nat)
  /-- The next broadcast reaches the client, or is lost. -/
  | arrives
  | lost
  | fetch
  | answers
  | returns
  | fails

def Fetch.loud : Fetch → Fetch
  | .idle => .idle
  | .asked _ => .asked false
  | .answered entries _ => .answered entries false

def step (maxEntries : Nat) (s : State) : Action → Option State
  | .draw now activityType source summary detail requestId =>
    (ActivityPolling.step .none s.journal (.draw now activityType source summary detail requestId)).map fun journal =>
      { s with journal := journal, returned := false }
  | .broadcast call => (s.journal.drawn[call]?).bind fun entry =>
    if entry.id ∈ s.sent then none
    else some { s with sent := entry.id :: s.sent, wire := s.wire ++ [entry], returned := false }
  | .store call => (s.journal.drawn[call]?).bind fun entry =>
    if entry.id ∈ s.sent then
      (ActivityPolling.step .none s.journal (.append call)).map fun journal =>
        { s with journal := journal, fetch := s.fetch.loud, returned := false }
    else none
  | .arrives =>
    match s.wire with
    | [] => none
    | entry :: wire =>
      some { s with
        wire := wire
        activity := onActivity maxEntries s.activity entry
        got := if entry.id ∈ ids s.activity then s.got else insert entry.id s.got
        returned := false }
  | .lost =>
    match s.wire with
    | [] => none
    | _ :: wire => some { s with wire := wire, returned := false }
  | .fetch =>
    match s.fetch with
    | .idle => some { s with fetch := .asked true, returned := false }
    | .asked _ | .answered .. => some { s with returned := false }
  | .answers =>
    match s.fetch with
    | .asked quiet => some { s with fetch := .answered (readActivity s.journal.log) quiet, returned := false }
    | .idle | .answered .. => none
  | .returns =>
    match s.fetch with
    | .answered entries quiet =>
      some { s with fetch := .idle, activity := entries, got := s.got ∪ (ids entries).toFinset, returned := quiet }
    | .idle | .asked _ => none
  | .fails =>
    match s.fetch with
    | .idle => none
    | .asked _ | .answered .. => some { s with fetch := .idle, returned := false }

/-! ### Convergence -/

/-- How many of the ids are greater. -/
def newer (got : Finset Nat) (n : Nat) : Nat := (got.filter (n < ·)).card

/-- The entries of the ring that fewer than `k` others are newer than. -/
def Newest (k : Nat) (ring : List ActivityEntry) (e : ActivityEntry) : Prop :=
  e ∈ ring ∧ (ring.filter fun other => e.id < other.id).length < k

/-- No id is there twice, an entry that the list ever got is there while it is among the
    newest of those that it got, and after a fetch during which nothing was stored the
    newest entries of the server are there. -/
structure Converges (maxEntries : Nat) (s : State) : Prop where
  once : (ids s.activity).Nodup
  kept : ∀ n ∈ s.got, newer s.got n < maxEntries → n ∈ ids s.activity
  newest : s.returned = true → ∀ e, Newest (min fetchLimit s.journal.log.entries.length) s.journal.log.entries e → e ∈ s.activity

/-- The entries at the front that an arrival pushes out. -/
def pushed (maxEntries : Nat) (activity : List ActivityEntry) : List ActivityEntry :=
  if maxEntries = 0 then [] else activity.take (activity.length + 1 - maxEntries)

/-- An arrival pushes out, and an answer leaves out, only what is older than `maxEntries` of the
    entries that the list got; and an answer to a fetch during which nothing was stored is newer
    than what it leaves out. -/
def Keeps (maxEntries : Nat) (s : State) : Action → Prop
  | .arrives =>
    match s.wire with
    | [] => True
    | entry :: _ => entry.id ∈ ids s.activity ∨
        ∀ n ∈ ids (pushed maxEntries s.activity), maxEntries ≤ newer (insert entry.id s.got) n
  | .returns =>
    match s.fetch with
    | .answered entries quiet =>
      (∀ n ∈ ids s.activity, n ∉ ids entries → maxEntries ≤ newer (s.got ∪ (ids entries).toFinset) n) ∧
        (quiet = true → ∀ e ∈ entries, ∀ left ∈ s.journal.log.entries, left.id ∉ ids entries → left.id < e.id)
    | .idle | .asked _ => True
  | _ => True

/-! ### The newest entries of a ring -/

section
variable {ring : List ActivityEntry} {limit : Nat}

theorem eq_of_id (distinct : (ids ring).Nodup) {e other : ActivityEntry} (member : e ∈ ring) (member' : other ∈ ring)
    (same : e.id = other.id) : e = other :=
  List.inj_on_of_nodup_map distinct member member' same

theorem mem_take_of_id (distinct : (ids ring).Nodup) {e : ActivityEntry} (member : e ∈ ring) (taken : e.id ∈ ids (ring.take limit)) :
    e ∈ ring.take limit := by
  obtain ⟨other,here,same⟩ := List.mem_map.mp taken
  rwa [← eq_of_id distinct (List.mem_of_mem_take here) member same]

theorem exists_greatest {entries : List ActivityEntry} (some_ : entries ≠ []) : ∃ d ∈ entries, ∀ e ∈ entries, e.id ≤ d.id := by
  cases greatest : entries.argmax ActivityEntry.id with
  | none => exact absurd (List.argmax_eq_none.mp greatest) some_
  | some d => exact ⟨d,List.argmax_mem greatest,fun e member => List.le_of_mem_argmax member greatest⟩

/-- The first entries of a ring without equal ids hold its newest ones exactly if the others
    are older than all of them. -/
theorem take_newest_iff (distinct : (ids ring).Nodup) :
    (∀ e, Newest (min limit ring.length) ring e → e ∈ ring.take limit) ↔
      ∀ e ∈ ring.take limit, ∀ left ∈ ring, left.id ∉ ids (ring.take limit) → left.id < e.id := by
  have length : (ring.take limit).length = min limit ring.length := List.length_take
  constructor
  · intro newest e member left there out
    -- the newest of the entries that are left out is not among the newest of the ring
    have inRest : left ∈ ring.filter fun other => other.id ∉ ids (ring.take limit) := List.mem_filter.mpr ⟨there,by simpa using out⟩
    obtain ⟨d,inRest',greatest⟩ := exists_greatest (List.ne_nil_of_mem inRest)
    obtain ⟨there',out'⟩ := List.mem_filter.mp inRest'
    have many : (ring.take limit).length ≤ (ring.filter fun other => d.id < other.id).length := by
      by_contra few
      refine (by simpa using out' : d.id ∉ ids (ring.take limit)) (List.mem_map_of_mem (newest d ⟨there',?_⟩))
      omega
    -- so all that is newer than it was read, and nothing else
    have read : (ring.filter fun other => d.id < other.id) = (ring.take limit).filter fun other => d.id < other.id := by
      have none_ : (ring.drop limit).filter (fun other => d.id < other.id) = [] := by
        refine List.filter_eq_nil_iff.mpr fun other behind after => ?_
        have inRing : other ∈ ring := List.mem_of_mem_drop behind
        by_cases taken : other.id ∈ ids (ring.take limit)
        · exact List.disjoint_take_drop (List.Nodup.of_map _ distinct) (Nat.le_refl limit) (mem_take_of_id distinct inRing taken) behind
        · have older := greatest other (List.mem_filter.mpr ⟨inRing,by simpa using taken⟩)
          have after : d.id < other.id := by simpa using after
          omega
      conv => lhs; rw [← List.take_append_drop limit ring]
      rw [List.filter_append,none_,List.append_nil]
    have all := List.length_filter_eq_length_iff.mp (Nat.le_antisymm (List.length_filter_le _ _) (read ▸ many)) e member
    exact Nat.lt_of_le_of_lt (greatest left inRest) (by simpa using all)
  · intro older e ⟨there,few⟩
    by_contra out
    have apart : e.id ∉ ids (ring.take limit) := fun taken => out (mem_take_of_id distinct there taken)
    have newer : (ring.take limit).filter (fun other => e.id < other.id) = ring.take limit :=
      List.filter_eq_self.mpr fun other member => by simpa using older other member e there apart
    have fewer : (ring.take limit).length ≤ (ring.filter fun other => e.id < other.id).length := by
      rw [← newer]
      exact ((List.take_sublist limit ring).filter _).length_le
    omega

end

/-! ### The list of the connection -/

section
variable {maxEntries : Nat} {activity : List ActivityEntry} {entry : ActivityEntry}

theorem any_id : (activity.any fun e => e.id == entry.id) = true ↔ entry.id ∈ ids activity := by
  simp [ids]

theorem onActivity_known (known : entry.id ∈ ids activity) : onActivity maxEntries activity entry = activity := by
  rw [onActivity,if_pos (any_id.mpr known)]

/-- A new entry is at the end, and what is missing is what it pushed out. -/
theorem onActivity_new (maxEntries : Nat) (new : entry.id ∉ ids activity) :
    pushed maxEntries activity ++ onActivity maxEntries activity entry = activity ++ [entry] := by
  have absent : ¬ (activity.any fun e => e.id == entry.id) = true := fun known => new (any_id.mp known)
  rw [onActivity,if_neg absent,pushed]
  by_cases zero : maxEntries = 0
  · simp [sliceLast,zero]
  · simp only [sliceLast,zero,if_false,List.length_append,List.length_singleton]
    have cut : activity.take (activity.length + 1 - maxEntries) = (activity ++ [entry]).take (activity.length + 1 - maxEntries) := by
      rw [List.take_append_of_le_length (by omega)]
    rw [cut]
    split
    · exact List.take_append_drop _ _
    · next fits =>
      have none_ : activity.length + 1 - maxEntries = 0 := by omega
      rw [none_,List.take_zero,List.nil_append]

theorem pushed_subset : pushed maxEntries activity ⊆ activity := by
  unfold pushed
  split
  · exact List.nil_subset _
  · exact List.take_subset _ _

theorem newer_le {got got' : Finset Nat} (grows : got ⊆ got') (n : Nat) : newer got n ≤ newer got' n :=
  Finset.card_le_card (Finset.filter_subset_filter _ grows)

end

/-! ### One step -/

/-- What every run keeps: the ids of the journal are distinct and positive, the list and an
    answer have entries of it, and an answer to a quiet fetch is the present one. -/
structure Sound (s : State) : Prop where
  numbered : ActivityPolling.Numbered s.journal
  positive : ∀ e ∈ s.journal.drawn ++ s.journal.log.entries, 0 < e.id
  has : ∀ n ∈ ids s.activity, n ∈ s.got
  answer : ∀ entries quiet, s.fetch = .answered entries quiet →
    (ids entries).Nodup ∧ (quiet = true → entries = readActivity s.journal.log)

variable {maxEntries : Nat} {s t : State} {a : Action}

theorem ring_distinct (sound : Sound s) : (ids s.journal.log.entries).Nodup :=
  (List.nodup_append.mp (ActivityPolling.ids_append .. ▸ sound.numbered.distinct)).2.1

theorem readActivity_eq (sound : Sound s) : readActivity s.journal.log = s.journal.log.entries.take fetchLimit := by
  have all : s.journal.log.found .none 0 = s.journal.log.entries := by
    have positive : (s.journal.log.entries.filter fun e => 0 < e.id) = s.journal.log.entries :=
      List.filter_eq_self.mpr fun e member => by simpa using sound.positive e (List.mem_append_right _ member)
    rw [ActivityPolling.ActivityLog.found,positive]
    exact List.filter_eq_self.mpr fun e _ => rfl
  rw [readActivity,ActivityPolling.ActivityLog.readSinceFiltered,all]

theorem start_sound (ringSize : Nat) : Sound (start ringSize) where
  numbered := ⟨List.nodup_nil,by simp [start,ActivityPolling.start,ActivityPolling.ActivityLog.new,ids],
    by simp [start,ActivityPolling.start],by simp [start,ActivityPolling.start],Nat.zero_lt_one,List.nodup_nil⟩
  positive := by simp [start,ActivityPolling.start,ActivityPolling.ActivityLog.new]
  has := by simp [start,ids]
  answer _ _ none_ := by cases none_

/-- A step of the journal. -/
theorem journal_sound {journal : ActivityPolling.State} {action : ActivityPolling.Action} {fetch : Fetch} (sound : Sound s)
    (stepped : ActivityPolling.step .none s.journal action = some journal)
    (answer : ∀ entries quiet, fetch = .answered entries quiet →
      (ids entries).Nodup ∧ (quiet = true → entries = readActivity journal.log)) :
    Sound { s with journal := journal, fetch := fetch, returned := false } where
  numbered := ActivityPolling.numbered_step sound.numbered stepped
  positive := by
    cases action with
    | draw now activityType source summary detail requestId =>
      cases stepped
      intro e member
      simp only [List.append_assoc,List.mem_append,List.mem_singleton] at member
      rcases member with old | rfl | old
      · exact sound.positive e (List.mem_append_left _ old)
      · exact Nat.lt_of_le_of_lt (Nat.zero_le _) sound.numbered.mark
      · exact sound.positive e (List.mem_append_right _ old)
    | append call =>
      obtain ⟨entry,here,rfl⟩ := Option.map_eq_some_iff.mp stepped
      intro e member
      rcases List.mem_append.mp member with old | stored
      · exact sound.positive e (List.mem_append_left _ (List.mem_of_mem_eraseIdx old))
      · rcases ActivityPolling.mem_append stored with old | rfl
        · exact sound.positive e (List.mem_append_right _ old)
        · exact sound.positive e (List.mem_append_left _ (List.mem_of_getElem? here))
    | poll limit =>
      cases stepped
      exact sound.positive
  has := sound.has
  answer := answer

theorem once_onActivity {activity : List ActivityEntry} {entry : ActivityEntry} (once : (ids activity).Nodup) :
    (ids (onActivity maxEntries activity entry)).Nodup := by
  by_cases known : entry.id ∈ ids activity
  · rwa [onActivity_known known]
  · have split := onActivity_new maxEntries known
    have whole : (ids (activity ++ [entry])).Nodup := by
      rw [ActivityPolling.ids_append]
      exact List.nodup_append.mpr ⟨once,List.nodup_singleton _,fun n old m new same => known (by
        rw [← List.mem_singleton.mp new,← same]; exact old)⟩
    rw [← split,ActivityPolling.ids_append] at whole
    exact (List.nodup_append.mp whole).2.1

/-- The ids of the list after an arrival are those of what is not pushed out, and the new one. -/
theorem mem_onActivity (maxEntries : Nat) {activity : List ActivityEntry} {entry : ActivityEntry} (once : (ids activity).Nodup) (new : entry.id ∉ ids activity)
    (n : Nat) : n ∈ ids (onActivity maxEntries activity entry) ↔
      n = entry.id ∨ n ∈ ids activity ∧ n ∉ ids (pushed maxEntries activity) := by
  have split := congrArg ids (onActivity_new maxEntries new)
  rw [ActivityPolling.ids_append,ActivityPolling.ids_append] at split
  have whole : (ids activity ++ ids [entry]).Nodup := List.nodup_append.mpr ⟨once,List.nodup_singleton _,fun k old m here same => new (by
    rw [← List.mem_singleton.mp here,← same]; exact old)⟩
  have apart := (List.nodup_append.mp (split ▸ whole)).2.2
  have either : n ∈ ids (pushed maxEntries activity) ∨ n ∈ ids (onActivity maxEntries activity entry) ↔
      n ∈ ids activity ∨ n = entry.id := by
    rw [← List.mem_append,split,List.mem_append]
    simp [ids]
  have front : n ∈ ids (pushed maxEntries activity) → n ∈ ids activity := fun member => List.map_subset _ pushed_subset member
  constructor
  · intro here
    have out : n ∉ ids (pushed maxEntries activity) := fun gone => apart n gone n here rfl
    exact (either.mp (.inr here)).elim (fun old => .inr ⟨old,out⟩) .inl
  · rintro (rfl | ⟨old,out⟩)
    · exact (either.mpr (.inr rfl)).resolve_left fun gone => new (front gone)
    · exact (either.mpr (.inl old)).resolve_left out

theorem arrives_kept {entry : ActivityEntry} (sound : Sound s) (converges : Converges maxEntries s) (new : entry.id ∉ ids s.activity) :
    (∀ n ∈ insert entry.id s.got, newer (insert entry.id s.got) n < maxEntries → n ∈ ids (onActivity maxEntries s.activity entry)) ↔
      ∀ n ∈ ids (pushed maxEntries s.activity), maxEntries ≤ newer (insert entry.id s.got) n := by
  have here := mem_onActivity maxEntries converges.once new
  constructor
  · intro kept n out
    by_contra few
    have old : n ∈ ids s.activity := List.map_subset _ pushed_subset out
    have still := kept n (Finset.mem_insert_of_mem (sound.has n old)) (Nat.lt_of_not_le few)
    rcases (here n).mp still with rfl | ⟨-,in_⟩
    · exact new old
    · exact in_ out
  · intro older n member few
    apply (here n).mpr
    rcases Finset.mem_insert.mp member with rfl | old
    · exact .inl rfl
    · refine .inr ⟨converges.kept n old ?_,fun out => ?_⟩
      · exact Nat.lt_of_le_of_lt (newer_le (Finset.subset_insert _ _) n) few
      · exact Nat.not_lt_of_le (older n out) few

theorem returns_kept {entries : List ActivityEntry} (sound : Sound s) (converges : Converges maxEntries s) :
    (∀ n ∈ s.got ∪ (ids entries).toFinset, newer (s.got ∪ (ids entries).toFinset) n < maxEntries → n ∈ ids entries) ↔
      ∀ n ∈ ids s.activity, n ∉ ids entries → maxEntries ≤ newer (s.got ∪ (ids entries).toFinset) n := by
  constructor
  · intro kept n old out
    by_contra few
    exact out (kept n (Finset.mem_union_left _ (sound.has n old)) (Nat.lt_of_not_le few))
  · intro older n member few
    by_contra out
    rcases Finset.mem_union.mp member with old | read
    · have held := converges.kept n old (Nat.lt_of_le_of_lt (newer_le Finset.subset_union_left n) few)
      exact Nat.not_lt_of_le (older n held out) few
    · exact out (List.mem_toFinset.mp read)

/-- Steps that leave the list as it is. -/
theorem same_converges (converges : Converges maxEntries s) (activity : t.activity = s.activity) (got : t.got = s.got)
    (returned : t.returned = false) : Converges maxEntries t where
  once := activity ▸ converges.once
  kept := by
    rw [activity,got]
    exact converges.kept
  newest now := by rw [returned] at now; cases now

theorem step_sound (sound : Sound s) (converges : Converges maxEntries s) (stepped : step maxEntries s a = some t) : Sound t := by
  cases a with
  | draw now activityType source summary detail requestId =>
    simp only [step,Option.map_eq_some_iff] at stepped
    obtain ⟨journal,drawn,rfl⟩ := stepped
    refine journal_sound sound drawn ?_
    cases drawn
    exact sound.answer
  | broadcast call =>
    obtain ⟨entry,here,moved⟩ := Option.bind_eq_some_iff.mp stepped
    split at moved
    · cases moved
    · cases moved
      exact ⟨sound.numbered,sound.positive,sound.has,sound.answer⟩
  | store call =>
    obtain ⟨entry,here,moved⟩ := Option.bind_eq_some_iff.mp stepped
    split at moved
    · obtain ⟨journal,stored,rfl⟩ := Option.map_eq_some_iff.mp moved
      refine journal_sound sound stored ?_
      intro entries quiet answered
      cases fetch : s.fetch with
      | idle | asked quiet => rw [fetch] at answered; cases answered
      | answered before quiet' =>
        rw [fetch] at answered
        cases answered
        exact ⟨(sound.answer _ _ fetch).1,nofun⟩
    · cases moved
  | arrives =>
    simp only [step] at stepped
    split at stepped
    · cases stepped
    · next entry wire more =>
      cases stepped
      refine ⟨sound.numbered,sound.positive,?_,sound.answer⟩
      intro n member
      by_cases known : entry.id ∈ ids s.activity
      · rw [onActivity_known known] at member
        rw [if_pos known]
        exact sound.has n member
      · rw [if_neg known]
        rcases (mem_onActivity maxEntries converges.once known n).mp member with rfl | ⟨old,-⟩
        · exact Finset.mem_insert_self _ _
        · exact Finset.mem_insert_of_mem (sound.has n old)
  | lost =>
    simp only [step] at stepped
    split at stepped
    · cases stepped
    · cases stepped
      exact ⟨sound.numbered,sound.positive,sound.has,sound.answer⟩
  | fetch =>
    simp only [step] at stepped
    split at stepped
    · cases stepped
      exact ⟨sound.numbered,sound.positive,sound.has,fun _ _ answered => by cases answered⟩
    · cases stepped
      exact ⟨sound.numbered,sound.positive,sound.has,sound.answer⟩
    · cases stepped
      exact ⟨sound.numbered,sound.positive,sound.has,sound.answer⟩
  | answers =>
    simp only [step] at stepped
    split at stepped
    · cases stepped
      refine ⟨sound.numbered,sound.positive,sound.has,fun entries quiet answered => ?_⟩
      cases answered
      refine ⟨?_,fun _ => rfl⟩
      rw [readActivity_eq sound]
      exact (ring_distinct sound).sublist ((List.take_sublist _ _).map _)
    · cases stepped
    · cases stepped
  | returns =>
    simp only [step] at stepped
    split at stepped
    · cases stepped
      refine ⟨sound.numbered,sound.positive,?_,fun _ _ answered => by cases answered⟩
      exact fun n member => Finset.mem_union_right _ (List.mem_toFinset.mpr member)
    · cases stepped
    · cases stepped
  | fails =>
    simp only [step] at stepped
    split at stepped
    · cases stepped
    · cases stepped
      exact ⟨sound.numbered,sound.positive,sound.has,fun _ _ answered => by cases answered⟩
    · cases stepped
      exact ⟨sound.numbered,sound.positive,sound.has,fun _ _ answered => by cases answered⟩

theorem step_converges (sound : Sound s) (converges : Converges maxEntries s) (stepped : step maxEntries s a = some t) :
    Converges maxEntries t ↔ Keeps maxEntries s a := by
  cases a with
  | draw now activityType source summary detail requestId =>
    simp only [step,Option.map_eq_some_iff] at stepped
    obtain ⟨journal,drawn,rfl⟩ := stepped
    exact iff_of_true (same_converges converges rfl rfl rfl) trivial
  | broadcast call =>
    obtain ⟨entry,here,moved⟩ := Option.bind_eq_some_iff.mp stepped
    split at moved
    · cases moved
    · cases moved
      exact iff_of_true (same_converges converges rfl rfl rfl) trivial
  | store call =>
    obtain ⟨entry,here,moved⟩ := Option.bind_eq_some_iff.mp stepped
    split at moved
    · obtain ⟨journal,stored,rfl⟩ := Option.map_eq_some_iff.mp moved
      exact iff_of_true (same_converges converges rfl rfl rfl) trivial
    · cases moved
  | arrives =>
    simp only [step] at stepped
    split at stepped
    · cases stepped
    · next entry wire more =>
      cases stepped
      simp only [Keeps,more]
      by_cases known : entry.id ∈ ids s.activity
      · refine iff_of_true (same_converges converges (onActivity_known known) ?_ rfl) (.inl known)
        rw [if_pos known]
      · rw [if_neg known]
        constructor
        · exact fun after => .inr ((arrives_kept sound converges known).mp after.kept)
        · intro older
          exact ⟨once_onActivity converges.once,(arrives_kept sound converges known).mpr (older.resolve_left known),nofun⟩
  | lost =>
    simp only [step] at stepped
    split at stepped
    · cases stepped
    · cases stepped
      exact iff_of_true (same_converges converges rfl rfl rfl) trivial
  | fetch =>
    simp only [step] at stepped
    split at stepped <;> cases stepped <;> exact iff_of_true (same_converges converges rfl rfl rfl) trivial
  | answers =>
    simp only [step] at stepped
    split at stepped
    · cases stepped
      exact iff_of_true (same_converges converges rfl rfl rfl) trivial
    · cases stepped
    · cases stepped
  | returns =>
    simp only [step] at stepped
    split at stepped
    · next entries quiet answered =>
      cases stepped
      obtain ⟨once,present⟩ := sound.answer entries quiet answered
      simp only [Keeps,answered]
      have whole : quiet = true → ((∀ e, Newest (min fetchLimit s.journal.log.entries.length) s.journal.log.entries e → e ∈ entries) ↔
          ∀ e ∈ entries, ∀ left ∈ s.journal.log.entries, left.id ∉ ids entries → left.id < e.id) := by
        intro still
        rw [present still,readActivity_eq sound]
        exact take_newest_iff (ring_distinct sound)
      constructor
      · intro after
        exact ⟨(returns_kept sound converges).mp after.kept,fun still => (whole still).mp (after.newest still)⟩
      · rintro ⟨older,read⟩
        exact ⟨once,(returns_kept sound converges).mpr older,fun still => (whole still).mpr (read still)⟩
    · cases stepped
    · cases stepped
  | fails =>
    simp only [step] at stepped
    split at stepped
    · cases stepped
    · cases stepped
      exact iff_of_true (same_converges converges rfl rfl rfl) trivial
    · cases stepped
      exact iff_of_true (same_converges converges rfl rfl rfl) trivial

/-- The list converges in every state of a run exactly if every arrival and every return of a
    fetch meets the condition. -/
theorem activity_converges_iff (ringSize maxEntries : Nat) (as : List Action) :
    Always (step maxEntries) (Converges maxEntries) (start ringSize) as ↔ Along (step maxEntries) (Keeps maxEntries) (start ringSize) as := by
  refine always_iff_along_with (fun _ _ _ sound converges stepped => step_sound sound converges stepped)
    (fun _ _ _ sound converges stepped => step_converges sound converges stepped) (start_sound ringSize) ?_
  exact ⟨List.nodup_nil,fun n none_ => by simp [start] at none_,nofun⟩

/-- The fetch is answered, an entry is logged and its broadcast arrives, and then the answer does. -/
def answeredBefore : List Action :=
  [.fetch,.answers,.draw 0 .exec .rest "first" none none,.broadcast 0,.store 0,.arrives,.returns]

theorem entry_lost : ¬ ∀ (ringSize maxEntries : Nat) (as : List Action),
    Always (step maxEntries) (Converges maxEntries) (start ringSize) as := by
  intro claim
  have overwritten : (run (step 200) (start 200) answeredBefore).map (fun s => (ids s.activity,decide (1 ∈ s.got),newer s.got 1)) =
      some ([],true,0) := by decide
  obtain ⟨s,ran,last⟩ := Option.map_eq_some_iff.mp overwritten
  simp only [Prod.mk.injEq,decide_eq_true_eq] at last
  obtain ⟨empty,got,few⟩ := last
  have kept := (always_last (claim 200 200 answeredBefore) ran).kept 1 got (by rw [few]; decide)
  rw [empty] at kept
  cases kept

end Sctl.ActivityView
