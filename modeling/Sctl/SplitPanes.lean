import Sctl.Pairings
import Sctl.Runs

/-!
Split panes of the web client (`web/src/lib/components/TerminalContainer.svelte`): the tabs, the
active one and the groups of two. A step is one event with what it runs until the next await;
what a call awaits comes back, or fails, at any later time. Keys of tabs are numbered.
-/
namespace Sctl.SplitPanes
open Runs Pairings

inductive Direction
  | horizontal
  | vertical
deriving DecidableEq

inductive Pane
  | primary
  | secondary
deriving DecidableEq

/-- A tab, with the session on the server that it is for. -/
structure SessionInfo where
  key : Nat
  sessionId : Nat
  attached : Bool
  dead : Bool
deriving DecidableEq

/-- A split with a new session, which goes on when the start returns. -/
structure Setup where
  primaryKey : Nat
  direction : Direction
deriving DecidableEq

/-- The tabs and what joins them. -/
structure Panes where
  sessions : List SessionInfo
  activeKey : Option Nat
  keyForSession : Nat → Option Nat
  /-- A group is the primary key with the secondary one and the direction. -/
  splitGroups : List (Pair Nat Direction)
  focusedPane : Pane
  splitSetupInProgress : Bool
  nextKey : Nat

/-- With the picker and the calls that are awaited. -/
structure State extends Panes where
  splitPickerDirection : Option Direction
  /-- The start that is in flight, with the split that waits for it. -/
  sessionStart : Option (Option Setup)
  /-- Splits whose start has returned. -/
  returned : List Setup
  attachInFlight : List Nat
  /-- The sessions whose attach is awaited. -/
  attaching : List Nat
  /-- The sessions whose kill is awaited. -/
  killing : List Nat

def start : State := ⟨⟨[],none,fun _ => none,[],.primary,false,0⟩,none,none,[],[],[],[]⟩

namespace Panes
variable (s : Panes)

def keys : List Nat := s.sessions.map SessionInfo.key

def find (sessionId : Nat) : Option SessionInfo := s.sessions.find? fun t => t.sessionId = sessionId

def sessionIdFor (key : Nat) : Option Nat := (s.sessions.find? fun t => t.key = key).map SessionInfo.sessionId

/-- The group of the active tab, if it is a primary. -/
def currentGroup : Option (Pair Nat Direction) := s.activeKey.bind fun key => lookup key s.splitGroups

/-- A member of a group brings its group, unless a split is being set up. -/
def setActiveKey (key : Nat) : Panes :=
  match if s.splitSetupInProgress then none else pairOf key s.splitGroups with
  | some found =>
    { s with activeKey := some found.first, focusedPane := if key = found.first then .primary else .secondary }
  | none => { s with activeKey := some key }

/-- A new tab, which is selected. -/
def addSession (sessionId : Nat) (attached : Bool) : Panes :=
  let added : Panes := { s with
    sessions := s.sessions ++ [⟨s.nextKey,sessionId,attached,false⟩]
    keyForSession := Function.update s.keyForSession sessionId (some s.nextKey)
    nextKey := s.nextKey + 1 }
  added.setActiveKey s.nextKey

/-- The tabs rewritten, but for their keys and sessions. -/
def mark (attached dead : SessionInfo → Bool) : Panes :=
  { s with sessions := s.sessions.map fun t => ⟨t.key,t.sessionId,attached t,dead t⟩ }

def openTab (sessionId : Nat) : Panes :=
  match s.find sessionId with
  | some existing => s.setActiveKey existing.key
  | none => s.addSession sessionId false

/-- What follows when an awaited attach returns or fails; a failure marks the tab dead. -/
def attached (sessionId : Nat) (ok : Bool) : Panes :=
  if ok then
    match s.find sessionId with
    | none => s
    | some current =>
      if current.dead ∨ current.attached then s
      else s.mark (fun t => if t.sessionId = sessionId then true else t.attached) SessionInfo.dead
  else s.mark (fun t => if t.sessionId = sessionId then false else t.attached) (fun t => if t.sessionId = sessionId then true else t.dead)

/-- The group of a tab that is removed goes; if it is viewed and the tab its primary, the other pane
    comes forward. -/
def leaveGroup (key : Nat) : Panes :=
  match pairOf key s.splitGroups with
  | some found =>
    { s with
      activeKey := if s.activeKey = some found.first ∧ key = found.first then some found.second else s.activeKey
      splitGroups := erase found.first s.splitGroups
      focusedPane := .primary }
  | none => s

def removeSession (sessionId : Nat) : Panes :=
  let sessions := s.sessions.filter fun t => t.sessionId ≠ sessionId
  match s.keyForSession sessionId with
  | some key =>
    let left := s.leaveGroup key
    { left with
      sessions
      keyForSession := Function.update s.keyForSession sessionId none
      activeKey := if left.activeKey = some key then sessions.getLast?.map SessionInfo.key else left.activeKey }
  | none => { s with sessions }

/-- Only the focused pane stays active. -/
def unsplit : Panes :=
  match s.currentGroup with
  | some g =>
    { s with
      activeKey := if s.focusedPane = .secondary then some g.second else s.activeKey
      splitGroups := erase g.first s.splitGroups
      focusedPane := .primary }
  | none => s

/-- What follows when the start of a split has returned: the last tab is taken for the new one. -/
def finishSplit (setup : Setup) : Panes :=
  { s with
    splitGroups :=
      match s.sessions.getLast? with
      | some last => set ⟨setup.primaryKey,last.key,setup.direction⟩ s.splitGroups
      | none => s.splitGroups
    activeKey := some setup.primaryKey
    focusedPane := .secondary
    splitSetupInProgress := false }

/-- The connection drops: behind a relay the tabs are cleared, else they are detached. -/
def lose (relay : Bool) : Panes :=
  if relay then
    { s with
      sessions := []
      keyForSession := fun id => if (s.find id).isSome then none else s.keyForSession id
      activeKey := none }
  else s.mark (fun _ => false) SessionInfo.dead

/-- Sessions that the server does not have are marked dead. -/
def reconcileWithRemote (remote : List Nat) : Panes :=
  s.mark (fun t => t.attached && remote.contains t.sessionId) (fun t => t.dead || !remote.contains t.sessionId)

def handlePaneClickFocus (key : Nat) : Panes :=
  match s.currentGroup with
  | some g =>
    if s.activeKey = some key then { s with focusedPane := .primary }
    else if key = g.second then { s with focusedPane := .secondary }
    else s
  | none => s

def toggleSplitFocus : Panes :=
  match s.currentGroup with
  | some _ => { s with focusedPane := if s.focusedPane = .primary then .secondary else .primary }
  | none => s

def focusedSession : Option SessionInfo :=
  match s.currentGroup with
  | some g => s.sessions.find? fun t => some t.key = if s.focusedPane = .secondary then some g.second else s.activeKey
  | none => s.sessions.find? fun t => some t.key = s.activeKey

/-- Whether the layout shows the tab. -/
def visible (key : Nat) : Prop := s.activeKey = some key ∨ s.currentGroup.map Pair.second = some key

/-- The tabs that the picker offers. -/
def pickable (t : SessionInfo) : Prop := some t.key ≠ s.activeKey ∧ t.dead = false ∧ t.key ∉ members s.splitGroups

instance (t : SessionInfo) : Decidable (s.pickable t) := inferInstanceAs (Decidable (_ ∧ _))

end Panes

namespace State
variable (s : State)

def with_ (panes : Panes) : State := { s with toPanes := panes }

/-- A start that finds another in flight returns at once. -/
def startSession (waiting : Option Setup) : State :=
  match s.sessionStart with
  | some _ => { s with returned := s.returned ++ waiting.toList }
  | none => { s with sessionStart := some waiting }

/-- A tab that is dead is not attached again, and its session stays among those in flight. -/
def attachSession (sessionId : Nat) : State :=
  if sessionId ∈ s.attachInFlight then s
  else
    let inFlight := { s with attachInFlight := sessionId :: s.attachInFlight }
    if (s.find sessionId).any SessionInfo.dead then inFlight
    else { inFlight with toPanes := s.openTab sessionId, attaching := sessionId :: s.attaching }

/-- `splitHorizontal` and `splitVertical` -/
def split (direction : Direction) : State :=
  match s.currentGroup with
  | some g =>
    if g.value = direction then s.with_ s.unsplit
    else { s with splitGroups := set { g with value := direction } s.splitGroups }
  | none => { s with splitPickerDirection := if s.splitPickerDirection = some direction then none else some direction }

/-- With a target the split is there at once, else when a new session has started. -/
def doSplit (direction : Direction) (target : Option Nat) : State :=
  let closed := { s with splitPickerDirection := none }
  match s.activeKey with
  | none => closed
  | some active =>
    if s.sessions.length < 1 then closed
    else
      match target with
      | some targetKey =>
        { closed with splitGroups := set ⟨active,targetKey,direction⟩ s.splitGroups, focusedPane := .primary }
      | none => { closed with splitSetupInProgress := true }.startSession (some ⟨active,direction⟩)

end State

inductive Action
  | startSession
  | sessionStarted (sessionId : Nat)
  | startFailed
  | splitReturned
  | attachSession (sessionId : Nat)
  | attached (sessionId : Nat) (ok : Bool)
  | openTab (sessionId : Nat)
  | selectSession (key : Nat)
  | closeSession (key : Nat)
  | killSessionById (sessionId : Nat)
  | killed (sessionId : Nat)
  | detachSession (key : Nat)
  | closeTab (key : Nat)
  /-- The server says that a session is destroyed, or that one with a subscription has ended. -/
  | destroyed (sessionId : Nat)
  | ended (sessionId : Nat)
  | split (direction : Direction)
  | unsplit
  | dismissPicker
  /-- A choice in the picker: a tab that it offers, or a new session. -/
  | pick (target : SessionInfo)
  | pickNew
  | clickPane (key : Nat)
  | toggleSplitFocus
  | connected (remote : List Nat)
  | lost

def step (relay : Bool) (s : State) : Action → Option State
  | .startSession => some (s.startSession none)
  | .sessionStarted sessionId =>
    s.sessionStart.map fun waiting =>
      { s with toPanes := s.addSession sessionId true, sessionStart := none, returned := s.returned ++ waiting.toList }
  | .startFailed =>
    s.sessionStart.map fun waiting => { s with sessionStart := none, returned := s.returned ++ waiting.toList }
  | .splitReturned =>
    s.returned.head?.map fun setup => { s with toPanes := s.finishSplit setup, returned := s.returned.tail }
  | .attachSession sessionId => some (s.attachSession sessionId)
  | .attached sessionId ok =>
    if sessionId ∈ s.attaching then
      some { s with
        toPanes := s.toPanes.attached sessionId ok
        attachInFlight := s.attachInFlight.erase sessionId
        attaching := s.attaching.erase sessionId }
    else none
  | .openTab sessionId => some (s.with_ (s.openTab sessionId))
  | .selectSession key => some (if key ∈ s.keys then s.with_ (s.setActiveKey key) else s)
  | .closeSession key => some { s with killing := (s.sessionIdFor key).toList ++ s.killing }
  | .killSessionById sessionId => some { s with killing := sessionId :: s.killing }
  | .killed sessionId =>
    if sessionId ∈ s.killing then
      some { s with toPanes := s.removeSession sessionId, killing := s.killing.erase sessionId }
    else none
  | .detachSession key => some (s.with_ (s.mark (fun t => if t.key = key then false else t.attached) SessionInfo.dead))
  | .closeTab key =>
    match s.sessionIdFor key with
    | some sessionId => some (s.with_ (s.removeSession sessionId))
    | none => some s
  | .destroyed sessionId => some (if (s.find sessionId).isSome then s.with_ (s.removeSession sessionId) else s)
  | .ended sessionId => some (s.with_ (s.removeSession sessionId))
  | .split direction => some (s.split direction)
  | .unsplit => some (s.with_ s.unsplit)
  | .dismissPicker => some { s with splitPickerDirection := none }
  | .pick target =>
    match s.splitPickerDirection with
    | some direction =>
      if target ∈ s.sessions ∧ s.pickable target then some (s.doSplit direction (some target.key)) else none
    | none => none
  | .pickNew => s.splitPickerDirection.map fun direction => s.doSplit direction none
  | .clickPane key => some (s.with_ (s.handlePaneClickFocus key))
  | .toggleSplitFocus => some (s.with_ s.toggleSplitFocus)
  | .connected remote => some (s.with_ (s.reconcileWithRemote remote))
  | .lost => some (s.with_ (s.lose relay))

/-! ### What the panes promise -/

/-- Every group joins two listed tabs, no tab is in two groups, the active tab is listed, and what
    is typed goes to a tab that is shown. -/
structure Joined (s : Panes) : Prop where
  distinct : (members s.splitGroups).Nodup
  listed : ∀ k ∈ members s.splitGroups, k ∈ s.keys
  active : ∀ k, s.activeKey = some k → k ∈ s.keys
  shown : ∀ k, s.activeKey = some k → ∃ t, s.focusedSession = some t ∧ s.visible t.key

/-- The tab is in no group but perhaps the one with this primary key. -/
def Apart (s : Panes) (primary key : Nat) : Prop := key ∉ members (erase primary s.splitGroups)

/-- A tab of the session that `removeSession` does not look at, since another one has its place in
    the table, is not active, and in no group but one that goes without bringing it forward. -/
def Removable (s : Panes) (sessionId : Nat) : Prop :=
  ∀ twin ∈ s.sessions, twin.sessionId = sessionId → s.keyForSession sessionId ≠ some twin.key →
    s.activeKey ≠ some twin.key ∧ ∀ g ∈ s.splitGroups, twin.key = g.first ∨ twin.key = g.second →
      ∃ key, s.keyForSession sessionId = some key ∧ (key = g.first ∨ key = g.second) ∧
        ¬ (key = g.first ∧ s.activeKey = some key)

/-- The primary tab of a split that goes on is listed, the last tab is another one, and neither is in
    another group. -/
def Finishable (s : Panes) (primary : Nat) : Prop :=
  primary ∈ s.keys ∧ Apart s primary primary ∧ ∀ last ∈ s.sessions.getLast?, last.key ≠ primary ∧ Apart s primary last.key

/-- Behind a relay the connection is not lost while a group is there; a split with a new session goes
    on when it can be finished; a split with an existing one does not start from a secondary tab; and
    no second tab of a removed session is in the way. -/
def Safe (relay : Bool) (s : State) : Action → Prop
  | .splitReturned => ∀ setup, s.returned.head? = some setup → Finishable s.toPanes setup.primaryKey
  | .pick _ => ∀ active, s.activeKey = some active → Apart s.toPanes active active
  | .killed sessionId | .ended sessionId => Removable s.toPanes sessionId
  | .destroyed sessionId => (s.find sessionId).isSome → Removable s.toPanes sessionId
  | .closeTab key => ∀ sessionId, s.sessionIdFor key = some sessionId → Removable s.toPanes sessionId
  | .lost => relay = true → s.splitGroups = []
  | _ => True

/-! ### Tabs and their keys -/

/-- Keys are used once, and the table has the key of a tab for every session that has one. -/
structure Kept (s : Panes) : Prop where
  keys : s.keys.Nodup
  fresh : ∀ k ∈ s.keys, k < s.nextKey
  known : ∀ t ∈ s.sessions, (s.keyForSession t.sessionId).isSome
  tab : ∀ id k, s.keyForSession id = some k → ∃ t ∈ s.sessions, t.sessionId = id ∧ t.key = k

theorem start_kept : Kept start.toPanes := ⟨List.nodup_nil,nofun,nofun,nofun⟩

/-- The keys, the sessions and the table are all that matters. -/
theorem Kept.same {s t : Panes} (kept : Kept s) (ids : t.sessions.map (fun u => (u.key,u.sessionId)) =
    s.sessions.map fun u => (u.key,u.sessionId)) (table : t.keyForSession = s.keyForSession) (next : t.nextKey = s.nextKey) :
    Kept t := by
  have keys : t.keys = s.keys := by
    have first := congrArg (List.map Prod.fst) ids
    rwa [List.map_map,List.map_map] at first
  have across : ∀ {s t : Panes}, t.sessions.map (fun u => (u.key,u.sessionId)) = s.sessions.map (fun u => (u.key,u.sessionId)) →
      ∀ u ∈ t.sessions, ∃ v ∈ s.sessions, v.key = u.key ∧ v.sessionId = u.sessionId := by
    intro s t ids u member
    have inside : (u.key,u.sessionId) ∈ s.sessions.map fun u => (u.key,u.sessionId) := by
      rw [← ids]; exact List.mem_map_of_mem member
    obtain ⟨v,there,same⟩ := List.mem_map.mp inside
    exact ⟨v,there,congrArg Prod.fst same,congrArg Prod.snd same⟩
  refine ⟨keys ▸ kept.keys,?_,?_,?_⟩
  · rw [keys,next]; exact kept.fresh
  · intro u member
    obtain ⟨v,there,_,same⟩ := across ids u member
    rw [table,← same]
    exact kept.known v there
  · intro id k found
    rw [table] at found
    obtain ⟨v,there,rfl,rfl⟩ := kept.tab id k found
    obtain ⟨u,member,key,same⟩ := across ids.symm v there
    exact ⟨u,member,same,key⟩

section
variable {s t : Panes} {key sessionId : Nat}

@[simp] theorem setActiveKey_sessions : (s.setActiveKey key).sessions = s.sessions := by
  unfold Panes.setActiveKey; split <;> rfl

@[simp] theorem setActiveKey_keyForSession : (s.setActiveKey key).keyForSession = s.keyForSession := by
  unfold Panes.setActiveKey; split <;> rfl

@[simp] theorem setActiveKey_nextKey : (s.setActiveKey key).nextKey = s.nextKey := by
  unfold Panes.setActiveKey; split <;> rfl

@[simp] theorem setActiveKey_splitGroups : (s.setActiveKey key).splitGroups = s.splitGroups := by
  unfold Panes.setActiveKey; split <;> rfl

theorem Kept.setActiveKey (kept : Kept s) : Kept (s.setActiveKey key) := kept.same (by simp) (by simp) (by simp)

theorem Kept.mark (kept : Kept s) (attached dead : SessionInfo → Bool) : Kept (s.mark attached dead) :=
  kept.same (by simp [Panes.mark,Function.comp_def]) rfl rfl

theorem Kept.addSession (kept : Kept s) (attached : Bool) : Kept (s.addSession sessionId attached) := by
  refine Kept.setActiveKey ⟨?_,?_,?_,?_⟩
  · have new : s.nextKey ∉ s.keys := fun member => Nat.lt_irrefl _ (kept.fresh _ member)
    simp only [Panes.keys,List.map_append,List.map_cons,List.map_nil]
    exact List.nodup_append.mpr ⟨kept.keys,List.nodup_singleton _,fun k member j last => by
      cases List.mem_singleton.mp last
      rintro rfl
      exact new member⟩
  · intro k member
    simp only [Panes.keys,List.map_append,List.mem_append] at member
    rcases member with old | last
    · exact Nat.lt_succ_of_lt (kept.fresh k old)
    · cases List.mem_singleton.mp last
      exact Nat.lt_succ_self _
  · intro u member
    by_cases same : u.sessionId = sessionId
    · rw [same]; simp
    · have old : u ∈ s.sessions := by
        rcases List.mem_append.mp member with old | last
        · exact old
        · cases List.mem_singleton.mp last
          exact absurd rfl same
      simp only [Function.update_of_ne same]
      exact kept.known u old
  · intro id k found
    by_cases same : id = sessionId
    · subst same
      simp only [Function.update_self,Option.some.injEq] at found
      exact ⟨_,List.mem_append_right _ (List.mem_singleton_self _),rfl,found⟩
    · simp only [Function.update_of_ne same] at found
      obtain ⟨u,member,named⟩ := kept.tab id k found
      exact ⟨u,List.mem_append_left _ member,named⟩

theorem Kept.removeSession (kept : Kept s) : Kept (s.removeSession sessionId) := by
  have keys : ((s.sessions.filter fun t => t.sessionId ≠ sessionId).map SessionInfo.key).Sublist s.keys :=
    List.filter_sublist.map _
  have left : ∀ {u : SessionInfo}, u ∈ (s.sessions.filter fun t => t.sessionId ≠ sessionId) ↔
      u ∈ s.sessions ∧ u.sessionId ≠ sessionId := by simp
  have next : ∀ k, (s.leaveGroup k).nextKey = s.nextKey := fun k => by unfold Panes.leaveGroup; split <;> rfl
  unfold Panes.removeSession
  cases named : s.keyForSession sessionId with
  | some key =>
    refine ⟨kept.keys.sublist keys,?_,?_,?_⟩
    · intro k member
      simp only [next]
      exact kept.fresh k (keys.subset member)
    · intro u member
      obtain ⟨there,other⟩ := left.mp member
      simp only [Function.update_of_ne other]
      exact kept.known u there
    · intro id k found
      by_cases same : id = sessionId
      · subst same; simp at found
      · simp only [Function.update_of_ne same] at found
        obtain ⟨u,there,rfl,at_⟩ := kept.tab id k found
        exact ⟨u,left.mpr ⟨there,same⟩,rfl,at_⟩
  | none =>
    refine ⟨kept.keys.sublist keys,fun k member => kept.fresh k (keys.subset member),?_,?_⟩
    · exact fun u member => kept.known u (left.mp member).1
    · intro id k found
      obtain ⟨u,there,rfl,at_⟩ := kept.tab id k found
      refine ⟨u,left.mpr ⟨there,?_⟩,rfl,at_⟩
      rintro rfl
      rw [named] at found; cases found

theorem Kept.lose (kept : Kept s) (relay : Bool) : Kept (s.lose relay) := by
  cases relay with
  | false => exact kept.mark _ _
  | true =>
    refine ⟨List.nodup_nil,nofun,nofun,?_⟩
    intro id k found
    simp only [Panes.lose,if_true] at found
    split_ifs at found with there
    obtain ⟨u,member,named,_⟩ := kept.tab id k found
    refine absurd (List.find?_isSome.mpr ⟨u,member,?_⟩) there
    exact decide_eq_true named

end

/-! ### What a step can do -/

/-- What an action does to the tabs and the groups, and when it is safe. -/
inductive Effect (relay : Bool) (s : State) : Action → Panes → Prop
  | still {a : Action} (safe : Safe relay s a) : Effect relay s a s.toPanes
  | mark {a : Action} (attached dead : SessionInfo → Bool) (safe : Safe relay s a) : Effect relay s a (s.mark attached dead)
  | focus {a : Action} (pane : Pane) (setup : Bool) (safe : Safe relay s a) :
    Effect relay s a { s.toPanes with focusedPane := pane, splitSetupInProgress := setup }
  | select {a : Action} {key : Nat} (listed : key ∈ s.keys) (safe : Safe relay s a) : Effect relay s a (s.setActiveKey key)
  | add {a : Action} (sessionId : Nat) (attached : Bool) (safe : Safe relay s a) : Effect relay s a (s.addSession sessionId attached)
  | remove {a : Action} {sessionId : Nat} (safe : Safe relay s a ↔ Removable s.toPanes sessionId) :
    Effect relay s a (s.removeSession sessionId)
  | unsplit {a : Action} (safe : Safe relay s a) : Effect relay s a s.unsplit
  | turn {a : Action} {g : Pair Nat Direction} (found : s.currentGroup = some g) (direction : Direction) (safe : Safe relay s a) :
    Effect relay s a { s.toPanes with splitGroups := set { g with value := direction } s.splitGroups }
  | join {active : Nat} {target : SessionInfo} (direction : Direction) (found : s.activeKey = some active)
    (listed : target ∈ s.sessions) (pickable : s.pickable target) : Effect relay s (.pick target)
      { s.toPanes with splitGroups := set ⟨active,target.key,direction⟩ s.splitGroups, focusedPane := .primary }
  | finish {setup : Setup} (found : s.returned.head? = some setup) : Effect relay s .splitReturned (s.finishSplit setup)
  | lose : Effect relay s .lost (s.lose relay)

theorem find_mem {s : Panes} {sessionId : Nat} {t : SessionInfo} (found : s.find sessionId = some t) :
    t ∈ s.sessions ∧ t.sessionId = sessionId :=
  ⟨List.mem_of_find?_eq_some found,by simpa using List.find?_some found⟩

theorem startSession_panes (s : State) (waiting : Option Setup) : (s.startSession waiting).toPanes = s.toPanes := by
  unfold State.startSession
  split <;> rfl

theorem openTab_effect {relay : Bool} {s : State} {a : Action} (sessionId : Nat) (safe : Safe relay s a) :
    Effect relay s a (s.openTab sessionId) := by
  unfold Panes.openTab
  split
  · next existing found => exact .select (List.mem_map_of_mem (find_mem found).1) safe
  · exact .add sessionId false safe

theorem step_effect {relay : Bool} {s t : State} {a : Action} (stepped : step relay s a = some t) :
    Effect relay s a t.toPanes := by
  cases a with
  | startSession =>
    cases stepped
    rw [startSession_panes]
    exact .still trivial
  | sessionStarted sessionId =>
    obtain ⟨waiting,_,rfl⟩ := Option.map_eq_some_iff.mp stepped
    exact .add sessionId true trivial
  | startFailed =>
    obtain ⟨waiting,_,rfl⟩ := Option.map_eq_some_iff.mp stepped
    exact .still trivial
  | splitReturned =>
    obtain ⟨setup,found,rfl⟩ := Option.map_eq_some_iff.mp stepped
    exact .finish found
  | attachSession sessionId =>
    cases stepped
    unfold State.attachSession
    split_ifs
    · exact .still trivial
    · exact .still trivial
    · exact openTab_effect sessionId trivial
  | attached sessionId ok =>
    simp only [step] at stepped
    split_ifs at stepped
    cases stepped
    show Effect relay s _ (s.toPanes.attached sessionId ok)
    unfold Panes.attached
    split_ifs
    · split
      · exact .still trivial
      · split_ifs
        · exact .still trivial
        · exact .mark _ _ trivial
    · exact .mark _ _ trivial
  | openTab sessionId => cases stepped; exact openTab_effect sessionId trivial
  | selectSession key =>
    cases stepped
    split_ifs with listed
    · exact .select listed trivial
    · exact .still trivial
  | closeSession key => cases stepped; exact .still trivial
  | killSessionById sessionId => cases stepped; exact .still trivial
  | killed sessionId =>
    simp only [step] at stepped
    split_ifs at stepped
    cases stepped
    exact .remove .rfl
  | detachSession key => cases stepped; exact .mark _ _ trivial
  | closeTab key =>
    simp only [step] at stepped
    split at stepped
    · next sessionId found =>
      cases stepped
      refine .remove ⟨fun safe => safe sessionId found,fun safe other found' => ?_⟩
      cases found.symm.trans found'
      exact safe
    · next missing =>
      cases stepped
      exact .still fun other found => nomatch missing.symm.trans found
  | destroyed sessionId =>
    cases stepped
    split_ifs with there
    · exact .remove ⟨fun safe => safe there,fun safe _ => safe⟩
    · exact .still fun there' => absurd there' there
  | ended sessionId => cases stepped; exact .remove .rfl
  | split direction =>
    cases stepped
    unfold State.split
    split
    · next g found =>
      split_ifs
      · exact .unsplit trivial
      · exact .turn found direction trivial
    · exact .still trivial
  | unsplit => cases stepped; exact .unsplit trivial
  | dismissPicker => cases stepped; exact .still trivial
  | pick target =>
    simp only [step] at stepped
    split at stepped
    · next direction _ =>
      split_ifs at stepped with offered
      cases stepped
      unfold State.doSplit
      dsimp only
      split
      · next missing => exact .still fun active found => nomatch missing.symm.trans found
      · next active found =>
        have some_ : ¬ s.sessions.length < 1 := by
          have := List.length_pos_of_mem offered.1
          omega
        rw [if_neg some_]
        exact .join direction found offered.1 offered.2
    · cases stepped
  | pickNew =>
    obtain ⟨direction,_,rfl⟩ := Option.map_eq_some_iff.mp stepped
    unfold State.doSplit
    dsimp only
    split
    · exact .still trivial
    · split_ifs
      · exact .still trivial
      · rw [startSession_panes]
        exact .focus s.focusedPane true trivial
  | clickPane key =>
    cases stepped
    show Effect relay s _ (s.handlePaneClickFocus key)
    unfold Panes.handlePaneClickFocus
    split
    · split_ifs
      · exact .focus .primary s.splitSetupInProgress trivial
      · exact .focus .secondary s.splitSetupInProgress trivial
      · exact .still trivial
    · exact .still trivial
  | toggleSplitFocus =>
    cases stepped
    show Effect relay s _ s.toggleSplitFocus
    unfold Panes.toggleSplitFocus
    split
    · exact .focus _ s.splitSetupInProgress trivial
    · exact .still trivial
  | connected remote => cases stepped; exact .mark _ _ trivial
  | lost => cases stepped; exact .lose

theorem effect_kept {relay : Bool} {s : State} {a : Action} {t : Panes} (kept : Kept s.toPanes) (effect : Effect relay s a t) :
    Kept t := by
  cases effect with
  | still | focus | turn | join => exact kept.same rfl rfl rfl
  | mark => exact kept.mark _ _
  | select => exact kept.setActiveKey
  | add _ attached => exact kept.addSession attached
  | remove => exact kept.removeSession
  | unsplit =>
    unfold Panes.unsplit
    split
    · exact kept.same rfl rfl rfl
    · exact kept
  | finish => exact kept.same rfl rfl rfl
  | lose => exact kept.lose relay

theorem step_kept {relay : Bool} {s t : State} {a : Action} (kept : Kept s.toPanes) (stepped : step relay s a = some t) :
    Kept t.toPanes :=
  effect_kept kept (step_effect stepped)

/-! ### When the panes stay joined -/

section
variable {s : Panes}

theorem currentGroup_some {g : Pair Nat Direction} (found : s.currentGroup = some g) :
    g ∈ s.splitGroups ∧ s.activeKey = some g.first := by
  obtain ⟨key,active,there⟩ := Option.bind_eq_some_iff.mp found
  obtain ⟨member,same⟩ := lookup_some there
  exact ⟨member,same ▸ active⟩

/-- The focused tab is shown when the tabs of the groups and the active one are listed. -/
theorem joined_of (distinct : (members s.splitGroups).Nodup) (listed : ∀ k ∈ members s.splitGroups, k ∈ s.keys)
    (active : ∀ k, s.activeKey = some k → k ∈ s.keys) : Joined s := by
  refine ⟨distinct,listed,active,?_⟩
  have tab : ∀ k, k ∈ s.keys → ∃ t, (s.sessions.find? fun t => some t.key = some k) = some t ∧ t.key = k := by
    intro k member
    obtain ⟨u,there,rfl⟩ := List.mem_map.mp member
    have some_ : (s.sessions.find? fun t => decide (some t.key = some u.key)).isSome = true := by
      rw [List.find?_isSome]
      exact ⟨u,there,decide_eq_true rfl⟩
    obtain ⟨t,found⟩ := Option.isSome_iff_exists.mp some_
    have same : t.key = u.key := by simpa using List.find?_some found
    exact ⟨t,found,same⟩
  intro k viewed
  unfold Panes.focusedSession Panes.visible
  cases group : s.currentGroup with
  | none =>
    obtain ⟨t,found,rfl⟩ := tab k (active k viewed)
    exact ⟨t,by rw [viewed]; exact found,.inl viewed⟩
  | some g =>
    by_cases second : s.focusedPane = .secondary
    · obtain ⟨t,found,same⟩ := tab g.second (listed _ (second_mem (currentGroup_some group).1))
      exact ⟨t,by simpa only [if_pos second] using found,.inr (congrArg some same.symm)⟩
    · obtain ⟨t,found,rfl⟩ := tab k (active k viewed)
      exact ⟨t,by simpa only [if_neg second,viewed] using found,.inl viewed⟩

theorem start_joined : Joined start.toPanes := joined_of List.nodup_nil nofun nofun

theorem Joined.setActiveKey (joined : Joined s) {key : Nat} (listed : key ∈ s.keys) : Joined (s.setActiveKey key) := by
  unfold Panes.setActiveKey
  split
  · next found there =>
    split_ifs at there
    have member := (pairOf_some there).1
    refine joined_of joined.distinct joined.listed ?_
    rintro k ⟨⟩
    exact joined.listed _ (first_mem member)
  · refine joined_of joined.distinct joined.listed ?_
    rintro k ⟨⟩
    exact listed

theorem Joined.addSession (joined : Joined s) (sessionId : Nat) (attached : Bool) : Joined (s.addSession sessionId attached) := by
  have more : ∀ k ∈ s.keys, k ∈ (s.sessions ++ [(⟨s.nextKey,sessionId,attached,false⟩ : SessionInfo)]).map SessionInfo.key := by
    intro k member
    rw [List.map_append]
    exact List.mem_append_left _ member
  have added : Joined ({ s with
      sessions := s.sessions ++ [⟨s.nextKey,sessionId,attached,false⟩]
      keyForSession := Function.update s.keyForSession sessionId (some s.nextKey)
      nextKey := s.nextKey + 1 } : Panes) :=
    joined_of joined.distinct (fun k member => more k (joined.listed k member)) fun k viewed => more k (joined.active k viewed)
  exact added.setActiveKey (by simp [Panes.keys])

theorem Joined.mark (joined : Joined s) (attached dead : SessionInfo → Bool) : Joined (s.mark attached dead) := by
  have keys : (s.mark attached dead).keys = s.keys := by simp [Panes.keys,Panes.mark,Function.comp_def]
  exact joined_of joined.distinct (keys ▸ joined.listed) (keys ▸ joined.active)

theorem Joined.unsplit (joined : Joined s) : Joined s.unsplit := by
  unfold Panes.unsplit
  split
  · next g found =>
    have fewer := members_erase g.first s.splitGroups
    refine joined_of (joined.distinct.sublist fewer) (fun k member => joined.listed k (fewer.subset member)) ?_
    intro k viewed
    dsimp only at viewed
    split_ifs at viewed
    · cases viewed; exact joined.listed _ (second_mem (currentGroup_some found).1)
    · exact joined.active k viewed
  · exact joined

/-- A group that is set joins exactly when its tabs are two, listed and in no other group. -/
theorem joined_set_iff (joined : Joined s) {g : Pair Nat Direction} {t : Panes} (sessions : t.sessions = s.sessions)
    (groups : t.splitGroups = set g s.splitGroups) (active : ∀ k, t.activeKey = some k → s.activeKey = some k ∨ k = g.first) :
    Joined t ↔ (g.first ∈ s.keys ∧ g.second ∈ s.keys) ∧ g.first ≠ g.second ∧ Apart s g.first g.first ∧ Apart s g.first g.second := by
  have keys : t.keys = s.keys := by unfold Panes.keys; rw [sessions]
  have inside : ∀ k, k ∈ members (set g s.splitGroups) ↔ k = g.first ∨ k = g.second ∨ k ∈ members (erase g.first s.splitGroups) := by
    intro k
    rw [(members_set joined.distinct).mem_iff,List.mem_cons,List.mem_cons]
  constructor
  · intro later
    have distinct := later.distinct
    have listed := later.listed
    rw [groups] at distinct listed
    rw [keys] at listed
    exact ⟨⟨listed _ ((inside _).mpr (.inl rfl)),listed _ ((inside _).mpr (.inr (.inl rfl)))⟩,
      (members_set_nodup joined.distinct).mp distinct⟩
  · rintro ⟨⟨first,second⟩,apart⟩
    refine joined_of ?_ ?_ ?_
    · rw [groups]; exact (members_set_nodup joined.distinct).mpr apart
    · intro k member
      rw [groups] at member
      rw [keys]
      rcases (inside k).mp member with rfl | rfl | old
      · exact first
      · exact second
      · exact joined.listed k ((members_erase _ _).subset old)
    · intro k viewed
      rw [keys]
      rcases active k viewed with old | rfl
      · exact joined.active k old
      · exact first

theorem Joined.turn (joined : Joined s) {g : Pair Nat Direction} (found : s.currentGroup = some g) (direction : Direction) :
    Joined { s with splitGroups := set { g with value := direction } s.splitGroups } := by
  have member := (currentGroup_some found).1
  have alone : ∀ k, k = g.first ∨ k = g.second → Apart s g.first k := by
    intro k own other
    obtain ⟨e,there,differ,of⟩ := mem_members_erase.mp other
    exact differ (congrArg Pair.first (pair_unique joined.distinct there member of own))
  have first := joined.listed g.first (first_mem member)
  have second := joined.listed g.second (second_mem member)
  have turned := @joined_set_iff s joined { g with value := direction }
    { s with splitGroups := set { g with value := direction } s.splitGroups } rfl rfl fun _ viewed => .inl viewed
  have differ : g.first ≠ g.second := keys_apart joined.distinct member
  exact turned.mpr ⟨⟨first,second⟩,differ,alone _ (.inl rfl),alone _ (.inr rfl)⟩

theorem joined_join_iff (joined : Joined s) {active : Nat} {target : SessionInfo} {direction : Direction}
    (found : s.activeKey = some active) (listed : target ∈ s.sessions) (pickable : s.pickable target) :
    Joined { s with splitGroups := set ⟨active,target.key,direction⟩ s.splitGroups, focusedPane := .primary } ↔
      Apart s active active := by
  have joins := @joined_set_iff s joined ⟨active,target.key,direction⟩
    { s with splitGroups := set ⟨active,target.key,direction⟩ s.splitGroups, focusedPane := .primary } rfl rfl
    fun _ viewed => .inl viewed
  refine joins.trans ?_
  obtain ⟨other,_,free⟩ := pickable
  have differ : active ≠ target.key := fun same => other (same ▸ found.symm)
  have apart : Apart s active target.key := fun member => free ((members_erase _ _).subset member)
  exact ⟨fun all => all.2.2.1,fun alone => ⟨⟨joined.active active found,List.mem_map_of_mem listed⟩,differ,alone,apart⟩⟩

theorem joined_finish_iff (joined : Joined s) (setup : Setup) : Joined (s.finishSplit setup) ↔ Finishable s setup.primaryKey := by
  unfold Finishable
  cases last : s.sessions.getLast? with
  | none =>
    have empty : s.sessions = [] := List.getLast?_eq_none_iff.mp last
    have missing : setup.primaryKey ∉ s.keys := by simp [Panes.keys,empty]
    exact ⟨fun later => absurd (later.active setup.primaryKey rfl) missing,fun all => absurd all.1 missing⟩
  | some t =>
    have groups : (s.finishSplit setup).splitGroups = set ⟨setup.primaryKey,t.key,setup.direction⟩ s.splitGroups := by
      simp only [Panes.finishSplit,last]
    have listed : t.key ∈ s.keys := List.mem_map_of_mem (List.mem_of_getLast? last)
    refine (@joined_set_iff s joined ⟨setup.primaryKey,t.key,setup.direction⟩ (s.finishSplit setup) rfl groups
      fun k viewed => .inr (Option.some.inj viewed).symm).trans ?_
    constructor
    · rintro ⟨⟨there,_⟩,differ,alone,alone'⟩
      refine ⟨there,alone,?_⟩
      rintro _ ⟨⟩
      exact ⟨Ne.symm differ,alone'⟩
    · rintro ⟨there,alone,other⟩
      obtain ⟨differ,alone'⟩ := other t rfl
      exact ⟨⟨there,listed⟩,Ne.symm differ,alone,alone'⟩

theorem joined_lose_iff (joined : Joined s) (relay : Bool) : Joined (s.lose relay) ↔ (relay = true → s.splitGroups = []) := by
  cases relay with
  | false => exact ⟨nofun,fun _ => joined.mark _ _⟩
  | true =>
    constructor
    · intro later _
      cases groups : s.splitGroups with
      | nil => rfl
      | cons g rest =>
        have inside : g.first ∈ members (s.lose true).splitGroups := by
          show g.first ∈ members s.splitGroups
          rw [groups]; exact List.mem_cons_self
        exact absurd (later.listed _ inside) List.not_mem_nil
    · intro empty
      have none_ : (s.lose true).splitGroups = [] := empty rfl
      refine joined_of ?_ ?_ nofun
      · rw [none_]; exact List.nodup_nil
      · rw [none_]; exact nofun

theorem mem_filter_session {sessionId : Nat} {t : SessionInfo} :
    t ∈ (s.sessions.filter fun t => t.sessionId ≠ sessionId) ↔ t ∈ s.sessions ∧ t.sessionId ≠ sessionId := by simp

theorem tab_unique (kept : Kept s) {t u : SessionInfo} (member : t ∈ s.sessions) (member' : u ∈ s.sessions) (same : t.key = u.key) :
    t = u :=
  List.inj_on_of_nodup_map kept.keys member member' same

/-- The tabs that are left when those of a session go. -/
theorem mem_left (kept : Kept s) {sessionId : Nat} {t : SessionInfo} (member : t ∈ s.sessions) :
    t.key ∈ (s.sessions.filter fun t => t.sessionId ≠ sessionId).map SessionInfo.key ↔ t.sessionId ≠ sessionId := by
  constructor
  · intro inside
    obtain ⟨u,there,same⟩ := List.mem_map.mp inside
    obtain ⟨listed,other⟩ := mem_filter_session.mp there
    exact tab_unique kept listed member same ▸ other
  · exact fun other => List.mem_map_of_mem (mem_filter_session.mpr ⟨member,other⟩)

/-- The group of a listed key, after the tab is gone: only the others are left. -/
theorem leaveGroup_groups (joined : Joined s) (key : Nat) : (s.leaveGroup key).splitGroups.Sublist s.splitGroups ∧
    ∀ g ∈ s.splitGroups, g ∈ (s.leaveGroup key).splitGroups ↔ ¬ (key = g.first ∨ key = g.second) := by
  unfold Panes.leaveGroup
  cases found : pairOf key s.splitGroups with
  | none =>
    refine ⟨List.Sublist.refl _,fun g member => ⟨fun _ of => ?_,fun _ => member⟩⟩
    have some_ := pairOf_isSome member of
    rw [found] at some_; cases some_
  | some e =>
    obtain ⟨there,of⟩ := pairOf_some found
    refine ⟨List.filter_sublist,fun g member => ?_⟩
    rw [mem_erase]
    constructor
    · rintro ⟨_,differ⟩ own
      exact differ (congrArg Pair.first (pair_unique joined.distinct member there own of))
    · intro outside
      refine ⟨member,fun same => outside ?_⟩
      have equal := pair_unique joined.distinct member there (.inl rfl) (.inl same)
      exact equal ▸ of

/-- The other pane comes forward exactly when the viewed group loses its primary. -/
theorem leaveGroup_active {key k : Nat} (viewed : (s.leaveGroup key).activeKey = some k) :
    s.activeKey = some k ∨ ∃ g ∈ s.splitGroups, key = g.first ∧ s.activeKey = some key ∧ k = g.second := by
  unfold Panes.leaveGroup at viewed
  split at viewed
  · next e found =>
    have there := (pairOf_some found).1
    dsimp only at viewed
    split_ifs at viewed with promoted
    · cases viewed
      exact .inr ⟨e,there,promoted.2,promoted.2 ▸ promoted.1,rfl⟩
    · exact .inl viewed
  · exact .inl viewed

theorem leaveGroup_stays {key k : Nat} (active : s.activeKey = some k) (other : k ≠ key) : (s.leaveGroup key).activeKey = some k := by
  unfold Panes.leaveGroup
  split
  · next e _ =>
    have kept : ¬ (s.activeKey = some e.first ∧ key = e.first) := by
      rintro ⟨viewed,rfl⟩
      exact other (Option.some.inj (active.symm.trans viewed))
    exact (if_neg kept).trans active
  · exact active

theorem leaveGroup_promotes (joined : Joined s) {g : Pair Nat Direction} (member : g ∈ s.splitGroups)
    (active : s.activeKey = some g.first) : (s.leaveGroup g.first).activeKey = some g.second := by
  unfold Panes.leaveGroup
  rw [pairOf_eq joined.distinct member (.inl rfl)]
  exact if_pos ⟨active,rfl⟩

theorem removeSession_known {sessionId key : Nat} (named : s.keyForSession sessionId = some key) :
    (s.removeSession sessionId).sessions = (s.sessions.filter fun t => t.sessionId ≠ sessionId) ∧
      (s.removeSession sessionId).splitGroups = (s.leaveGroup key).splitGroups ∧
      (s.removeSession sessionId).activeKey = if (s.leaveGroup key).activeKey = some key then
        (s.sessions.filter fun t => t.sessionId ≠ sessionId).getLast?.map SessionInfo.key else (s.leaveGroup key).activeKey := by
  unfold Panes.removeSession
  rw [named]
  exact ⟨rfl,rfl,rfl⟩

/-- A removal keeps the panes joined exactly when no other tab of the session is in its way. -/
theorem joined_remove_iff (kept : Kept s) (joined : Joined s) (sessionId : Nat) :
    Joined (s.removeSession sessionId) ↔ Removable s sessionId := by
  cases named : s.keyForSession sessionId with
  | none =>
    have none_ : ∀ t ∈ s.sessions, t.sessionId ≠ sessionId := by
      rintro t member rfl
      have known := kept.known t member
      rw [named] at known; cases known
    have same : s.removeSession sessionId = s := by
      have all : (s.sessions.filter fun t => t.sessionId ≠ sessionId) = s.sessions :=
        List.filter_eq_self.mpr fun t member => decide_eq_true (none_ t member)
      simp only [Panes.removeSession,named,all]
    rw [same]
    exact ⟨fun _ twin member of => absurd of (none_ twin member),fun _ => joined⟩
  | some key =>
    obtain ⟨sessions,groups,active⟩ := removeSession_known named
    obtain ⟨fewer,left⟩ := leaveGroup_groups joined key
    have keys : ∀ t ∈ s.sessions, t.key ∈ (s.removeSession sessionId).keys ↔ t.sessionId ≠ sessionId := by
      intro t member
      unfold Panes.keys
      rw [sessions]
      exact mem_left kept member
    constructor
    · intro later twin member of other
      have differ : twin.key ≠ key := fun same => other (named.trans (congrArg some same.symm))
      have gone : twin.key ∉ (s.removeSession sessionId).keys := fun inside => (keys twin member).mp inside of
      refine ⟨?_,?_⟩
      · intro viewed
        have stays := leaveGroup_stays viewed differ
        have active' : (s.removeSession sessionId).activeKey = some twin.key := by
          rw [active,stays,if_neg fun same => differ (Option.some.inj same)]
        exact gone (later.active _ active')
      · intro g there of'
        have own : key = g.first ∨ key = g.second := by
          by_contra outside
          have stays : g ∈ (s.removeSession sessionId).splitGroups := groups ▸ (left g there).mpr outside
          exact gone (later.listed _ (mem_members.mpr ⟨g,stays,of'⟩))
        refine ⟨key,named,own,?_⟩
        rintro ⟨rfl,viewed⟩
        have second : twin.key = g.second := of'.resolve_left differ
        have promoted := leaveGroup_promotes joined there viewed
        have active' : (s.removeSession sessionId).activeKey = some twin.key := by
          rw [active,promoted,← second,if_neg fun same => differ (Option.some.inj same)]
        exact gone (later.active _ active')
    · intro removable
      have away : ∀ t ∈ s.sessions, t.key ≠ key → s.activeKey = some t.key → t.sessionId ≠ sessionId := by
        intro t member differ viewed of
        exact (removable t member of fun same => differ (Option.some.inj (named.symm.trans same)).symm).1 viewed
      refine joined_of ?_ ?_ ?_
      · rw [groups]
        exact joined.distinct.sublist (fewer.flatMap _)
      · intro k inside
        rw [groups] at inside
        obtain ⟨g,stays,of⟩ := mem_members.mp inside
        have there := fewer.subset stays
        have outside := (left g there).mp stays
        obtain ⟨t,member,rfl⟩ := List.mem_map.mp (joined.listed k (mem_members.mpr ⟨g,there,of⟩))
        refine (keys t member).mpr fun own => ?_
        have differ : s.keyForSession sessionId ≠ some t.key := by
          intro same
          cases named.symm.trans same
          exact outside of
        obtain ⟨key',named',inside',_⟩ := (removable t member own differ).2 g there of
        cases named.symm.trans named'
        exact outside inside'
      · intro k viewed
        rw [active] at viewed
        split_ifs at viewed with closed
        · obtain ⟨t,last,rfl⟩ := Option.map_eq_some_iff.mp viewed
          obtain ⟨member,other⟩ := mem_filter_session.mp (List.mem_of_getLast? last)
          exact (keys t member).mpr other
        · have differ : k ≠ key := fun same => closed (viewed.trans (congrArg some same))
          rcases leaveGroup_active viewed with stays | ⟨g,there,first,active',rfl⟩
          · obtain ⟨t,member,rfl⟩ := List.mem_map.mp (joined.active k stays)
            exact (keys t member).mpr (away t member differ stays)
          · -- the other pane came forward, so it is no second tab of the session
            obtain ⟨t,member,same⟩ := List.mem_map.mp (joined.listed _ (second_mem there))
            rw [← same]
            refine (keys t member).mpr fun own => ?_
            have twin : s.keyForSession sessionId ≠ some t.key := by
              intro named'
              cases named.symm.trans named'
              exact differ same.symm
            obtain ⟨key',named',_,viewed'⟩ := (removable t member own twin).2 g there (.inr same)
            cases named.symm.trans named'
            exact viewed' ⟨first,active'⟩

end

theorem effect_joined {relay : Bool} {s : State} {a : Action} {t : Panes} (kept : Kept s.toPanes) (joined : Joined s.toPanes)
    (effect : Effect relay s a t) : Joined t ↔ Safe relay s a := by
  cases effect with
  | still safe => exact iff_of_true joined safe
  | mark _ _ safe => exact iff_of_true (joined.mark _ _) safe
  | focus _ _ safe => exact iff_of_true (joined_of joined.distinct joined.listed joined.active) safe
  | select listed safe => exact iff_of_true (joined.setActiveKey listed) safe
  | add sessionId attached safe => exact iff_of_true (joined.addSession sessionId attached) safe
  | remove safe => exact (joined_remove_iff kept joined _).trans safe.symm
  | unsplit safe => exact iff_of_true joined.unsplit safe
  | turn found direction safe => exact iff_of_true (joined.turn found direction) safe
  | @join active target direction found listed pickable =>
    refine (joined_join_iff joined found listed pickable).trans ⟨fun apart other found' => ?_,fun safe => safe active found⟩
    cases found.symm.trans found'
    exact apart
  | @finish setup found =>
    refine (joined_finish_iff joined setup).trans ⟨fun finishable other found' => ?_,fun safe => safe setup found⟩
    cases found.symm.trans found'
    exact finishable
  | lose => exact joined_lose_iff joined relay

/-- In every run the panes stay joined exactly when every step is safe. -/
theorem panes_joined_iff (relay : Bool) (as : List Action) :
    Always (step relay) (fun s => Joined s.toPanes) start as ↔ Along (step relay) (Safe relay) start as := by
  have keeps : ∀ (s : State) a (t : State), Kept s.toPanes → step relay s a = some t → Kept t.toPanes :=
    fun _ _ _ kept stepped => step_kept kept stepped
  have exactly_ : ∀ (s : State) a (t : State), Kept s.toPanes → Joined s.toPanes → step relay s a = some t →
      (Joined t.toPanes ↔ Safe relay s a) :=
    fun _ _ _ kept joined stepped => effect_joined kept joined (step_effect stepped)
  exact always_iff_along keeps exactly_ start_kept start_joined

/-- Behind a relay, a split is made and the connection drops: its group stays, without a tab. -/
theorem lost_split : ¬ ∀ relay as, Always (step relay) (fun s => Joined s.toPanes) start as := by
  intro all
  have always := all true
    [.startSession,.sessionStarted 1,.split .vertical,.pickNew,.sessionStarted 2,.splitReturned,.lost]
  have joined := always_last always (t := _) rfl
  exact absurd (joined.listed 0 (by decide)) (by decide)

end Sctl.SplitPanes
