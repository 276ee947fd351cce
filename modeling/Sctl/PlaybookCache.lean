import Sctl.Runs
import Sctl.Tables

/-!
The playbook cache of the MCP client under overlapping calls: loads that read
the cache, fetch and write later, refreshes of one device, a refresh of all that
holds the lock, and invalidations, while the playbooks of the devices change. A
fetch lists the playbooks of a device and then gets them one by one.
-/
namespace Sctl.PlaybookCache
open Runs

variable {Book : Type}

/-- The playbooks of a device, as texts by name. -/
abbrev Content := Table String String

/-- A device: its playbooks, those that it had since the last invalidation (its present
    ones among them), the number of changes, and how many there were at that invalidation. -/
structure Device where
  content : Content
  had : List Content
  changes : Nat
  settled : Nat

/-- What a fetch has read: the playbooks that were listed, after how many changes, and those
    that were got; whether every reply came, and whether each text was what it was when it was listed. -/
structure Reading (Book : Type) where
  seen : Content
  changes : Nat
  got : List (String × Book)
  complete : Bool
  steady : Bool

inductive Fetch (Book : Type)
  | starting
  | reading (r : Reading Book) (name : String) (todo : List String)
  | done (r : Reading Book)

/-- A call that fetches: `ensure_loaded`, with a limit of time, and `refresh_device` write at
    the end, and `refresh_all` stores one device after the other while it holds the lock. -/
inductive Task (Book : Type)
  | gathering (limited : Bool) (fetches : List (String × Fetch Book))
  | sweeping (name : String) (fetch : Fetch Book) (todo : List String)
  | returned

/-- An entry of the cache, with a note of whether the fetch that made it failed anywhere. -/
structure DevicePlaybooks (Book : Type) where
  loaded : Bool
  playbooks : List (String × Book)
  complete : Bool

structure State (Book : Type) where
  devices : String → Device
  cache : Table String (DevicePlaybooks Book)
  tasks : List (Task Book)

/-- The lock is held by a refresh of all. -/
def State.locked (s : State Book) : Bool :=
  s.tasks.any fun task => match task with
    | .sweeping .. => true
    | _ => false

/-- What a fetch comes across: the list, a playbook, or a failure of either; a load also stops waiting. -/
inductive Reply
  | lists
  | listFails
  | gets
  | getFails
  | timesOut
deriving DecidableEq

/-- Every failure of a list, and a fetch that takes too long, is an empty list of playbooks. -/
def Fetch.failed : Fetch Book := .done ⟨∅,0,[],false,true⟩

def Fetch.reads (r : Reading Book) : List String → Fetch Book
  | [] => .done r
  | name :: todo => .reading r name todo

/-- A text that does not parse is skipped. -/
def Reading.add (parse : String → String → Option Book) (r : Reading Book) (name : String) (raw : String) : Reading Book :=
  match parse name raw with
  | some book => { r with got := r.got ++ [(name,book)] }
  | none => r

/-- `fetch_device_playbooks`, one reply further; a playbook that cannot be got is left out. -/
def Fetch.next (parse : String → String → Option Book) (device : Device) : Fetch Book → Reply → Option (Fetch Book)
  | .done _, _ => none
  | _, .timesOut => some .failed
  | .starting, .lists => some (.reads ⟨device.content,device.changes,[],true,true⟩ device.content.keys)
  | .starting, .listFails => some .failed
  | .reading r name todo, .gets =>
    match device.content.lookup name with
    | some raw => some (.reads { r.add parse name raw with steady := r.steady && r.seen.lookup name = some raw } todo)
    | none => some (.reads { r with complete := false } todo)
  | .reading r _ todo, .getFails => some (.reads { r with complete := false } todo)
  | _, _ => none

def Fetch.result? : Fetch Book → Option (Reading Book)
  | .done r => some r
  | _ => none

def State.put (s : State Book) (name : String) (r : Reading Book) : State Book :=
  { s with cache := s.cache.insert name ⟨true,r.got,r.complete⟩ }

def State.isLoaded (s : State Book) (name : String) : Bool := ((s.cache.lookup name).map DevicePlaybooks.loaded).getD false

inductive Action
  /-- The playbooks of a device change, by a call or by anything else. -/
  | change (name : String) (content : Content)
  /-- `invalidate_device`. -/
  | invalidate (name : String)
  /-- `ensure_loaded`, as far as its read of the cache. -/
  | load (clients : List String)
  | refresh (name : String)
  | refreshAll (clients : List String)
  /-- A reply to one of the fetches of a task. -/
  | reply (task fetch : Nat) (reply : Reply)
  /-- A load or a refresh writes what it fetched. -/
  | write (task : Nat)
  /-- A refresh of all stores what it fetched and goes on. -/
  | store (task : Nat)

/-- Everything that was fetched, once all of it is. -/
def results (fetches : List (String × Fetch Book)) : Option (List (String × Reading Book)) :=
  fetches.mapM fun entry => entry.2.result?.map fun r => (entry.1,r)

def Device.change (device : Device) (content : Content) : Device :=
  { device with content := content, had := device.had ++ [content], changes := device.changes + 1 }

def Device.settle (device : Device) : Device :=
  { device with had := [device.content], settled := device.changes }

/-- After a device a refresh of all goes on with the next one. -/
def Task.sweep : List String → Task Book
  | [] => .returned
  | name :: todo => .sweeping name .starting todo

def step (parse : String → String → Option Book) (s : State Book) : Action → Option (State Book)
  | .change name content => some { s with devices := Function.update s.devices name ((s.devices name).change content) }
  | .invalidate name =>
    if s.locked then none
    else some { s with
      devices := Function.update s.devices name (s.devices name).settle
      cache := Table.modify name (fun entry => { entry with loaded := false }) s.cache }
  | .load clients =>
    if s.locked then none
    else
      let missing := clients.filter fun name => !s.isLoaded name
      some { s with tasks := s.tasks ++ [if missing = [] then .returned else .gathering true (missing.map fun name => (name,.starting))] }
  | .refresh name => some { s with tasks := s.tasks ++ [.gathering false [(name,.starting)]] }
  | .refreshAll clients =>
    if s.locked then none
    else some { s with tasks := s.tasks ++ [.sweep clients] }
  | .reply n k reply =>
    match s.tasks[n]? with
    | some (.gathering limited fetches) =>
      match fetches[k]? with
      | some (name,fetch) =>
        if reply = .timesOut ∧ limited = false then none
        else (fetch.next parse (s.devices name) reply).map fun fetch' =>
          { s with tasks := s.tasks.set n (.gathering limited (fetches.set k (name,fetch'))) }
      | none => none
    | some (.sweeping name fetch todo) =>
      if reply = .timesOut then none
      else (fetch.next parse (s.devices name) reply).map fun fetch' => { s with tasks := s.tasks.set n (.sweeping name fetch' todo) }
    | _ => none
  | .write n =>
    match s.tasks[n]? with
    | some (.gathering _ fetches) =>
      if s.locked then none
      else (results fetches).map fun written =>
        { written.foldl (fun s entry => s.put entry.1 entry.2) s with tasks := s.tasks.set n .returned }
    | _ => none
  | .store n =>
    match s.tasks[n]? with
    | some (.sweeping name fetch todo) =>
      fetch.result?.map fun r => { s.put name r with tasks := s.tasks.set n (.sweep todo) }
    | _ => none

def start (devices : String → Content) : State Book where
  devices name := ⟨devices name,[devices name],0,0⟩
  cache := ∅
  tasks := []

/-! ### Fresh entries -/

variable (parse : String → String → Option Book)

/-- The playbooks that were got are those of the content. -/
def Same (got : List (String × Book)) (content : Content) : Prop :=
  ∀ name, got.lookup name = (content.lookup name).bind (parse name)

/-- What is marked loaded was fetched without a failure, and is a set that the device had
    since its last invalidation. -/
def Fresh (s : State Book) : Prop := ∀ name entry, s.cache.lookup name = some entry → entry.loaded = true →
  entry.complete = true ∧ ∃ content ∈ (s.devices name).had, Same parse entry.playbooks content

/-- A fetch that was not disturbed: no reply failed, each text was what it was when it was
    listed, and any change since the listing came after the last invalidation. -/
def Undisturbed (device : Device) : Fetch Book → Prop
  | .done r => r.complete = true ∧ r.steady = true ∧ device.settled ≤ r.changes
  | _ => True

/-- The condition of a step: every fetch that it writes or stores was undisturbed. -/
def Keeps (s : State Book) : Action → Prop
  | .write n =>
    match s.tasks[n]? with
    | some (.gathering _ fetches) => ∀ entry ∈ fetches, Undisturbed (s.devices entry.1) entry.2
    | _ => True
  | .store n =>
    match s.tasks[n]? with
    | some (.sweeping name fetch _) => Undisturbed (s.devices name) fetch
    | _ => True
  | _ => True

instance (device : Device) : (fetch : Fetch Book) → Decidable (Undisturbed device fetch)
  | .starting | .reading .. => inferInstanceAs (Decidable True)
  | .done r => inferInstanceAs (Decidable (r.complete = true ∧ r.steady = true ∧ device.settled ≤ r.changes))

instance : (s : State Book) → (a : Action) → Decidable (Keeps s a)
  | s, .write n =>
    match found : s.tasks[n]? with
    | some (.gathering _ fetches) =>
      decidable_of_iff (∀ entry ∈ fetches, Undisturbed (s.devices entry.1) entry.2) (by simp [Keeps,found])
    | some (.sweeping ..) | some .returned | none => .isTrue (by simp [Keeps,found])
  | s, .store n =>
    match found : s.tasks[n]? with
    | some (.sweeping name fetch _) => decidable_of_iff (Undisturbed (s.devices name) fetch) (by simp [Keeps,found])
    | some (.gathering ..) | some .returned | none => .isTrue (by simp [Keeps,found])
  | _, .change .. | _, .invalidate _ | _, .load _ | _, .refresh _ | _, .refreshAll _ | _, .reply .. => inferInstanceAs (Decidable True)

/-! ### Sound fetches -/

variable {parse} {device : Device} {r : Reading Book} {fetch fetch' : Fetch Book} {todo : List String}

structure Device.Settled (device : Device) : Prop where
  present : device.content ∈ device.had
  bound : device.settled ≤ device.changes

/-- What an intact fetch knows: what it listed is still there, or the device has changed since;
    and what is not still to be got is what was listed. -/
structure Reading.Sound (parse : String → String → Option Book) (device : Device) (todo : List String) (r : Reading Book) : Prop where
  bound : r.changes ≤ device.changes
  current : r.changes = device.changes → r.seen = device.content
  had : device.settled ≤ r.changes → r.seen ∈ device.had
  distinct : todo.Nodup
  covers : ∀ name, r.got.lookup name = if name ∈ todo then none else (r.seen.lookup name).bind (parse name)

/-- No reply failed, and every text was what it was when it was listed. -/
def Reading.Intact (r : Reading Book) : Prop := r.complete = true ∧ r.steady = true

def Fetch.Sound (parse : String → String → Option Book) (device : Device) : Fetch Book → Prop
  | .starting => True
  | .reading r name todo => r.Intact → r.Sound parse device (name :: todo)
  | .done r => r.Intact → r.Sound parse device []

theorem Device.Settled.change (settled : device.Settled) (content : Content) : (device.change content).Settled where
  present := by simp [Device.change]
  bound := Nat.le_succ_of_le settled.bound

theorem Device.Settled.settle (_ : device.Settled) : device.settle.Settled where
  present := by simp [Device.settle]
  bound := Nat.le_refl _

theorem Reading.Sound.change (sound : r.Sound parse device todo) (content : Content) :
    r.Sound parse (device.change content) todo where
  bound := Nat.le_succ_of_le sound.bound
  current := by
    intro same
    have := sound.bound
    simp only [Device.change] at same
    omega
  had settled := List.mem_append_left _ (sound.had settled)
  distinct := sound.distinct
  covers := sound.covers

/-- An invalidation after the last change leaves what was listed in place. -/
theorem Reading.Sound.settle (sound : r.Sound parse device todo) : r.Sound parse device.settle todo where
  bound := sound.bound
  current := sound.current
  had := by
    intro settled
    have same : r.changes = device.changes := Nat.le_antisymm sound.bound settled
    simp [Device.settle,sound.current same]
  distinct := sound.distinct
  covers := sound.covers

theorem Fetch.Sound.change (sound : fetch.Sound parse device) (content : Content) : fetch.Sound parse (device.change content) := by
  cases fetch with
  | starting => trivial
  | reading r name todo => exact fun intact => (sound intact).change content
  | done r => exact fun intact => (sound intact).change content

theorem Fetch.Sound.settle (sound : fetch.Sound parse device) : fetch.Sound parse device.settle := by
  cases fetch with
  | starting => trivial
  | reading r name todo => exact fun intact => (sound intact).settle
  | done r => exact fun intact => (sound intact).settle

theorem reads_sound (sound : r.Intact → r.Sound parse device todo) : (Fetch.reads r todo).Sound parse device := by
  cases todo with
  | nil => exact sound
  | cons name todo => exact sound

theorem incomplete_sound (failed : r.complete = false) : (Fetch.reads r todo).Sound parse device :=
  reads_sound fun intact => by cases failed.symm.trans intact.1

theorem listed_sound (settled : device.Settled) :
    (⟨device.content,device.changes,[],true,true⟩ : Reading Book).Sound parse device device.content.keys where
  bound := Nat.le_refl _
  current _ := rfl
  had _ := settled.present
  distinct := device.content.keys_nodup
  covers := by
    intro name
    by_cases listed : name ∈ device.content.keys
    · simp [listed]
    · have missing : device.content.lookup name = none := AList.lookup_eq_none.mpr listed
      simp [listed,missing]

theorem add_covers {name : String} {raw : String} (sound : r.Sound parse device (name :: todo)) (found : r.seen.lookup name = some raw)
    (other : String) : (r.add parse name raw).got.lookup other = if other ∈ todo then none else (r.seen.lookup other).bind (parse other) := by
  have fresh : name ∉ todo := (List.nodup_cons.mp sound.distinct).1
  have before := sound.covers other
  by_cases same : other = name
  · subst same
    cases parsed : parse other raw with
    | none => simpa [Reading.add,parsed,fresh,found] using before
    | some book => 
      have missing : r.got.lookup other = none := by simpa using before
      simp [Reading.add,parsed,fresh,found,List.lookup_append,missing]
  · cases parsed : parse name raw with
    | none => simpa [Reading.add,parsed,same] using before
    | some book =>
      have apart : (other == name) = false := by simpa using same
      simpa [Reading.add,parsed,same,List.lookup_append,List.lookup_cons,List.lookup_nil,apart] using before

theorem add_fields (parse : String → String → Option Book) (r : Reading Book) (name : String) (raw : String) :
    (r.add parse name raw).seen = r.seen ∧ (r.add parse name raw).changes = r.changes ∧
      (r.add parse name raw).complete = r.complete := by
  unfold Reading.add
  split <;> exact ⟨rfl,rfl,rfl⟩

/-- One reply of a sound fetch leaves it sound. -/
theorem next_sound {reply : Reply} (settled : device.Settled) (sound : fetch.Sound parse device)
    (next : fetch.next parse device reply = some fetch') : fetch'.Sound parse device := by
  unfold Fetch.next at next
  split at next
  · cases next
  · cases next
    exact fun intact => by cases intact.1
  · cases next
    exact reads_sound fun _ => listed_sound settled
  · cases next
    exact fun intact => by cases intact.1
  · rename_i r name todo
    split at next
    · rename_i raw found
      cases next
      refine reads_sound fun intact => ?_
      obtain ⟨seen,changes,complete⟩ := add_fields parse r name raw
      obtain ⟨steady,here⟩ : r.steady = true ∧ r.seen.lookup name = some raw := by simpa using intact.2
      have before := sound ⟨complete ▸ intact.1,steady⟩
      exact {
        bound := by simpa [changes] using before.bound
        current := by simpa [changes,seen] using before.current
        had := by simpa [changes,seen] using before.had
        distinct := (List.nodup_cons.mp before.distinct).2
        covers := by
          intro other
          have covered := add_covers before here other
          simpa [seen] using covered }
    · cases next
      exact incomplete_sound rfl
  · cases next
    exact incomplete_sound rfl
  · cases next

/-- What an undisturbed fetch got is a set that the device had since the last invalidation. -/
theorem undisturbed_had (sound : fetch.Sound parse device) (undisturbed : Undisturbed device fetch)
    (result : fetch.result? = some r) : r.complete = true ∧ ∃ content ∈ device.had, Same parse r.got content := by
  cases fetch with
  | starting => cases result
  | reading r name todo => cases result
  | done r =>
    cases result
    obtain ⟨complete,steady,settled⟩ := undisturbed
    have read := sound ⟨complete,steady⟩
    exact ⟨complete,r.seen,read.had settled,fun name => by simpa using read.covers name⟩

/-! ### The cache of a state -/

variable {s t : State Book}

def Task.Sound (parse : String → String → Option Book) (devices : String → Device) : Task Book → Prop
  | .gathering _ fetches => ∀ entry ∈ fetches, entry.2.Sound parse (devices entry.1)
  | .sweeping name fetch _ => fetch.Sound parse (devices name)
  | .returned => True

structure Sound (parse : String → String → Option Book) (s : State Book) : Prop where
  settled : ∀ name, (s.devices name).Settled
  tasks : ∀ task ∈ s.tasks, task.Sound parse s.devices
  fresh : Fresh parse s

theorem start_sound (devices : String → Content) : Sound parse (start devices : State Book) where
  settled _ := ⟨List.mem_singleton_self _,Nat.le_refl _⟩
  tasks _ member := by cases member
  fresh _ _ found := by
    rw [start,AList.lookup_empty] at found
    cases found

/-- What keeps every fetch of a device sound keeps every task sound. -/
theorem task_sound {devices : String → Device} {changed : Device} {name : String} {task : Task Book}
    (keeps : ∀ fetch : Fetch Book, fetch.Sound parse (devices name) → fetch.Sound parse changed)
    (sound : task.Sound parse devices) : task.Sound parse (Function.update devices name changed) := by
  have each : ∀ (other : String) (fetch : Fetch Book), fetch.Sound parse (devices other) →
      fetch.Sound parse (Function.update devices name changed other) := by
    intro other fetch before
    by_cases same : other = name
    · subst same
      simpa using keeps fetch before
    · simpa [same] using before
  cases task with
  | gathering limited fetches => exact fun entry member => each entry.1 entry.2 (sound entry member)
  | sweeping other fetch todo => exact each other fetch sound
  | returned => trivial

theorem settled_update {devices : String → Device} {changed : Device} {name : String}
    (settled : ∀ name, (devices name).Settled) (here : changed.Settled) (other : String) :
    (Function.update devices name changed other).Settled := by
  by_cases same : other = name
  · subst same
    simpa using here
  · simpa [same] using settled other

theorem change_sound (sound : Sound parse s) (name : String) (content : Content) :
    Sound parse { s with devices := Function.update s.devices name ((s.devices name).change content) } where
  settled := settled_update sound.settled ((sound.settled name).change content)
  tasks task member := task_sound (fun _ before => before.change content) (sound.tasks task member)
  fresh := by
    intro other entry found loaded
    obtain ⟨complete,old,member,same⟩ := sound.fresh other entry found loaded
    refine ⟨complete,old,?_,same⟩
    by_cases here : other = name
    · subst here
      simpa [Device.change] using Or.inl member
    · simpa [here] using member

/-- An invalidation leaves no entry of the device that is marked loaded. -/
theorem invalidate_sound (sound : Sound parse s) (name : String) :
    Sound parse { s with
      devices := Function.update s.devices name (s.devices name).settle
      cache := Table.modify name (fun entry => { entry with loaded := false }) s.cache } where
  settled := settled_update sound.settled (sound.settled name).settle
  tasks task member := task_sound (fun _ before => before.settle) (sound.tasks task member)
  fresh := by
    intro other entry found loaded
    simp only [Table.lookup_modify] at found
    by_cases here : other = name
    · rw [if_pos here] at found
      obtain ⟨old,-,rfl⟩ := Option.map_eq_some_iff.mp found
      cases loaded
    · rw [if_neg here] at found
      simpa [here] using sound.fresh other entry found loaded

/-- A task that starts or moves on, with the devices and the cache as they are. -/
theorem tasks_sound {tasks : List (Task Book)} (sound : Sound parse s)
    (each : ∀ task ∈ tasks, task ∈ s.tasks ∨ task.Sound parse s.devices) : Sound parse { s with tasks := tasks } where
  settled := sound.settled
  tasks task member := (each task member).elim (sound.tasks task) id
  fresh := sound.fresh

theorem append_sound {task : Task Book} (sound : Sound parse s) (new : task.Sound parse s.devices) :
    Sound parse { s with tasks := s.tasks ++ [task] } := by
  refine tasks_sound sound ?_
  intro other member
  rcases List.mem_append.mp member with old | last
  · exact .inl old
  · cases List.mem_singleton.mp last
    exact .inr new

theorem set_sound (sound : Sound parse s) (n : Nat) (task : Task Book) (new : task.Sound parse s.devices) :
    Sound parse { s with tasks := s.tasks.set n task } := by
  refine tasks_sound sound ?_
  intro other member
  rcases List.mem_or_eq_of_mem_set member with old | rfl
  · exact .inl old
  · exact .inr new

theorem starting_sound {devices : String → Device} (limited : Bool) (names : List String) :
    (Task.gathering limited (names.map fun name => (name,.starting)) : Task Book).Sound parse devices := by
  intro entry member
  obtain ⟨name,-,rfl⟩ := List.mem_map.mp member
  trivial

theorem sweep_sound {devices : String → Device} (todo : List String) :
    (Task.sweep todo : Task Book).Sound parse devices := by
  cases todo <;> trivial

/-- One entry that is put keeps a sound state sound when it is a set that the device had. -/
theorem put_sound {name : String} (sound : Sound parse s)
    (had : r.complete = true ∧ ∃ content ∈ (s.devices name).had, Same parse r.got content) : Sound parse (s.put name r) where
  settled := sound.settled
  tasks := sound.tasks
  fresh := by
    intro other entry found loaded
    simp only [State.put,Table.lookup_insert_eq] at found
    by_cases here : other = name
    · subst here
      rw [if_pos rfl] at found
      cases found
      exact had
    · rw [if_neg here] at found
      exact sound.fresh other entry found loaded

theorem written_sound {written : List (String × Reading Book)} (sound : Sound parse s)
    (had : ∀ entry ∈ written, entry.2.complete = true ∧ ∃ content ∈ (s.devices entry.1).had, Same parse entry.2.got content) :
    Sound parse (written.foldl (fun s entry => s.put entry.1 entry.2) s) ∧
      (written.foldl (fun s entry => s.put entry.1 entry.2) s).devices = s.devices ∧
      (written.foldl (fun s entry => s.put entry.1 entry.2) s).tasks = s.tasks := by
  induction written generalizing s with
  | nil => exact ⟨sound,rfl,rfl⟩
  | cons entry rest ih =>
    have first := put_sound sound (had entry List.mem_cons_self)
    have later := ih first fun other member => had other (List.mem_cons_of_mem entry member)
    exact later

theorem results_of {fetches : List (String × Fetch Book)} {written : List (String × Reading Book)}
    (all : results fetches = some written) {entry : String × Reading Book} (member : entry ∈ written) :
    ∃ fetch, (entry.1,fetch) ∈ fetches ∧ fetch.result? = some entry.2 := by
  induction fetches generalizing written with
  | nil =>
    cases all
    cases member
  | cons first rest ih =>
    simp only [results,List.mapM_cons] at all
    obtain ⟨head,here,others⟩ := Option.bind_eq_some_iff.mp all
    obtain ⟨tail,later,whole⟩ := Option.bind_eq_some_iff.mp others
    cases whole
    rcases List.mem_cons.mp member with rfl | behind
    · obtain ⟨r,result,rfl⟩ := Option.map_eq_some_iff.mp here
      exact ⟨first.2,List.mem_cons_self,result⟩
    · obtain ⟨fetch,found,result⟩ := ih later behind
      exact ⟨fetch,List.mem_cons_of_mem first found,result⟩

/-- A reply to a fetch of a task leaves a sound state sound. -/
theorem reply_sound {n k : Nat} {reply : Reply} (sound : Sound parse s) (stepped : step parse s (.reply n k reply) = some t) :
    Sound parse t := by
  simp only [step] at stepped
  split at stepped
  · rename_i limited fetches found
    have before := sound.tasks _ (List.mem_of_getElem? found)
    split at stepped
    · rename_i name fetch here
      split at stepped
      · cases stepped
      · obtain ⟨fetch',next,rfl⟩ := Option.map_eq_some_iff.mp stepped
        refine set_sound sound n _ ?_
        intro entry member
        rcases List.mem_or_eq_of_mem_set member with old | rfl
        · exact before entry old
        · exact next_sound (sound.settled name) (before (name,fetch) (List.mem_of_getElem? here)) next
    · cases stepped
  · rename_i name fetch todo found
    have before : fetch.Sound parse (s.devices name) := sound.tasks _ (List.mem_of_getElem? found)
    split at stepped
    · cases stepped
    · obtain ⟨fetch',next,rfl⟩ := Option.map_eq_some_iff.mp stepped
      exact set_sound sound n _ (next_sound (sound.settled name) before next)
  · cases stepped

theorem write_sound {n : Nat} (sound : Sound parse s) (keeps : Keeps s (.write n)) (stepped : step parse s (.write n) = some t) :
    Sound parse t := by
  simp only [step] at stepped
  split at stepped
  · rename_i limited fetches found
    split at stepped
    · cases stepped
    · obtain ⟨written,all,rfl⟩ := Option.map_eq_some_iff.mp stepped
      have before := sound.tasks _ (List.mem_of_getElem? found)
      simp only [Keeps,found] at keeps
      have had : ∀ entry ∈ written, entry.2.complete = true ∧
          ∃ content ∈ (s.devices entry.1).had, Same parse entry.2.got content := by
        intro entry member
        obtain ⟨fetch,here,result⟩ := results_of all member
        exact undisturbed_had (before _ here) (keeps _ here) result
      obtain ⟨after,-,tasks⟩ := written_sound sound had
      have moved := set_sound after n .returned trivial
      rwa [tasks] at moved
  · cases stepped

theorem store_sound {n : Nat} (sound : Sound parse s) (keeps : Keeps s (.store n)) (stepped : step parse s (.store n) = some t) :
    Sound parse t := by
  simp only [step] at stepped
  split at stepped
  · rename_i name fetch todo found
    obtain ⟨r,result,rfl⟩ := Option.map_eq_some_iff.mp stepped
    have before : fetch.Sound parse (s.devices name) := sound.tasks _ (List.mem_of_getElem? found)
    simp only [Keeps,found] at keeps
    have after := put_sound sound (undisturbed_had before keeps result)
    exact set_sound after n _ (sweep_sound todo)
  · cases stepped

theorem step_sound (s : State Book) (a : Action) (t : State Book) (sound : Sound parse s) (keeps : Keeps s a)
    (stepped : step parse s a = some t) : Sound parse t := by
  cases a with
  | change name content =>
    cases stepped
    exact change_sound sound name content
  | invalidate name =>
    simp only [step] at stepped
    split at stepped
    · cases stepped
    · cases stepped
      exact invalidate_sound sound name
  | load clients =>
    simp only [step] at stepped
    split at stepped
    · cases stepped
    · cases stepped
      refine append_sound sound ?_
      split
      · trivial
      · exact starting_sound true _
  | refresh name =>
    cases stepped
    exact append_sound sound (starting_sound false [name])
  | refreshAll clients =>
    simp only [step] at stepped
    split at stepped
    · cases stepped
    · cases stepped
      exact append_sound sound (sweep_sound clients)
  | reply n k reply => exact reply_sound sound stepped
  | write n => exact write_sound sound keeps stepped
  | store n => exact store_sound sound keeps stepped

/-- While only undisturbed fetches are written, what is marked loaded is a set that the
    device had since its last invalidation. -/
theorem cache_fresh (parse : String → String → Option Book) (devices : String → Content) (as : List Action)
    (keeps : Along (step parse) Keeps (start devices : State Book) as) :
    Always (step parse) (Fresh parse) (start devices : State Book) as :=
  always_of_keeps step_sound (fun _ sound => sound.fresh) (start_sound devices) keeps

/-! ### A deletion during a load -/

/-- Every text is a playbook, and every device has one of them. -/
def taken (_ raw : String) : Option String := some raw

def onePlaybook (_ : String) : Content := (∅ : Content).insert "fix" "#!/bin/sh"

/-- The playbook of a device is got, deleted and got by nobody since; the load then writes it. -/
def deletedMeanwhile : List Action :=
  [.load ["router"],.reply 0 0 .lists,.reply 0 0 .gets,.change "router" ∅,.invalidate "router",.write 0]

/-- The list of a device cannot be fetched; the load writes that it has no playbooks. -/
def listFailed : List Action := [.load ["router"],.reply 0 0 .listFails,.write 0]

/-- A refresh of the device between two changes. -/
def refreshedBetween : List Action :=
  [.change "router" ∅,.invalidate "router",.refresh "router",.reply 0 0 .lists,.write 0,.change "router" (onePlaybook "router")]

theorem cache_fresh_between : Always (step taken) (Fresh taken) (start onePlaybook : State String) refreshedBetween :=
  cache_fresh taken onePlaybook refreshedBetween (by decide +kernel)

theorem deleted_loaded : ¬ Always (step taken) (Fresh taken) (start onePlaybook : State String) deletedMeanwhile := by
  intro fresh
  have stale : (run (step taken) (start onePlaybook : State String) deletedMeanwhile).map (fun s =>
      ((s.cache.lookup "router").map fun entry => (entry.loaded,entry.playbooks),(s.devices "router").had.map AList.entries)) =
      some (some (true,[("fix","#!/bin/sh")]),[[]]) := by decide +kernel
  obtain ⟨s,ran,last⟩ := Option.map_eq_some_iff.mp stale
  simp only [Prod.mk.injEq] at last
  obtain ⟨cached,had⟩ := last
  obtain ⟨entry,found,shown⟩ := Option.map_eq_some_iff.mp cached
  simp only [Prod.mk.injEq] at shown
  obtain ⟨-,content,member,same⟩ := always_last fresh ran "router" entry found shown.1
  have empty : content = ∅ := by
    have listed : content.entries ∈ [[]] := had ▸ List.mem_map_of_mem member
    exact AList.ext (List.mem_singleton.mp listed)
  have got := same "fix"
  rw [shown.2,empty] at got
  cases got

theorem failed_loaded : ¬ Always (step taken) (Fresh taken) (start onePlaybook : State String) listFailed := by
  intro fresh
  have failed : (run (step taken) (start onePlaybook : State String) listFailed).map (fun s =>
      (s.cache.lookup "router").map fun entry => (entry.loaded,entry.complete)) = some (some (true,false)) := by decide +kernel
  obtain ⟨s,ran,last⟩ := Option.map_eq_some_iff.mp failed
  obtain ⟨entry,found,shown⟩ := Option.map_eq_some_iff.mp last
  simp only [Prod.mk.injEq] at shown
  have complete := (always_last fresh ran "router" entry found shown.1).1
  rw [shown.2] at complete
  cases complete

/-- The cache is stale after a deletion during a load, and a failed fetch is marked loaded. -/
theorem stale_loaded : ¬ (Always (step taken) (Fresh taken) (start onePlaybook : State String) deletedMeanwhile ∨
    Always (step taken) (Fresh taken) (start onePlaybook : State String) listFailed) :=
  fun fresh => fresh.elim deleted_loaded failed_loaded

end Sctl.PlaybookCache
