import Sctl.Runs
import Sctl.Tables

/-!
Who is attached to a session. Every direct WebSocket connection keeps the list
of sessions it started or attached to, the tunnel keeps one subscriber task a
session, and the session manager keeps one counter a session, which `sweep`
reads. A message of a client is one step; a connection that closes lets go of
its sessions one after another, with everything else in between.
-/
namespace Sctl.Attachments
open Sctl.Runs

/-! ### The session manager -/

structure SessionEntry where
  exited : Bool
  persistent : Bool
  lastActivity : Nat
  attachedCount : Nat
  /-- In seconds; 0 is never. -/
  idleTimeout : Nat
deriving DecidableEq

abbrev Sessions := Table String SessionEntry

/-- `u32::saturating_add(1)`. -/
def saturatingIncrement (count : Nat) : Nat := min (count + 1) (2 ^ 32 - 1)

def createSession (sessions : Sessions) (now : Nat) (id : String) (persistent : Bool) (idleTimeout : Nat) : Sessions :=
  sessions.insert id ⟨false,persistent,now,1,idleTimeout⟩

def attach (sessions : Sessions) (now : Nat) (id : String) : Sessions :=
  Table.modify id (fun e => { e with attachedCount := saturatingIncrement e.attachedCount, lastActivity := now }) sessions

/-- The attach of the tunnel sets the count to 1. -/
def attachShared (sessions : Sessions) (now : Nat) (id : String) : Sessions :=
  Table.modify id (fun e => { e with attachedCount := 1, lastActivity := now }) sessions

def letGo (now : Nat) (e : SessionEntry) : SessionEntry :=
  { e with attachedCount := e.attachedCount - 1, lastActivity := now }

def detach (sessions : Sessions) (now : Nat) (id : String) : Sessions := Table.modify id (letGo now) sessions

def detachAll (sessions : Sessions) (now : Nat) (ids : List String) : Sessions :=
  ids.foldl (fun sessions id => detach sessions now id) sessions

def isPersistent (sessions : Sessions) (id : String) : Bool := (sessions.lookup id).any fun e => e.persistent

def killSession (sessions : Sessions) (id : String) : Sessions := sessions.erase id

/-- Times are nanoseconds, timeouts seconds. -/
def idleExpired (now : Nat) (e : SessionEntry) : Bool :=
  0 < e.idleTimeout && e.attachedCount = 0 && e.idleTimeout * 10 ^ 9 < now - e.lastActivity

/-- Exited sessions go first, then those idle for too long. -/
def sweep (sessions : Sessions) (now : Nat) : Sessions :=
  Table.keep (fun _ e => !idleExpired now e) (Table.keep (fun _ e => !e.exited) sessions)

/-! ### Connections -/

structure Connection where
  /-- `connection_sessions`. -/
  sessions : List String
  closing : Bool
deriving DecidableEq

structure State where
  sessions : Sessions
  /-- The session ids handed out so far. -/
  issued : List String
  connections : Table Nat Connection
  /-- The sessions with a subscriber task of the tunnel. -/
  tunnel : List String

/-- The server after it recovered the sessions of its journals: nobody is
    attached, and recovered sessions have no timeout. -/
def start (recovered : Sessions) : State where
  sessions := Table.mapValues (fun e => { e with attachedCount := 0, idleTimeout := 0 }) recovered
  issued := recovered.entries.map Sigma.fst
  connections := ∅
  tunnel := []

inductive Move
  | connect (c : Nat)
  | sessionStart (c : Nat) (id : String) (persistent : Bool) (idleTimeout : Nat)
  | sessionAttach (c : Nat) (id : String)
  | sessionKill (c : Nat) (id : String)
  /-- The socket closes; the clean-up starts. -/
  | disconnect (c : Nat)
  /-- The clean-up goes on with the next session. -/
  | release (c : Nat)
  | tunnelStart (id : String) (persistent : Bool) (idleTimeout : Nat)
  | tunnelAttach (id : String)
  | tunnelDetach (id : String)
  | tunnelKill (id : String)
  /-- A subscriber task that ended by itself is dropped from the map. -/
  | tunnelReap (id : String)
  | tunnelLost
  | httpKill (id : String)
  | processExit (id : String)
  | sweep

structure Action where
  now : Nat
  move : Move

namespace State
variable (s : State)

/-- The connection, if it still takes messages. -/
def openConnection (c : Nat) : Option Connection := (s.connections.lookup c).filter fun conn => !conn.closing

def withSessions (c : Nat) (f : List String → List String) : Table Nat Connection :=
  Table.modify c (fun conn => { conn with sessions := f conn.sessions }) s.connections

end State

def track (id : String) (ids : List String) : List String := if id ∈ ids then ids else ids ++ [id]

def step (maxSessions : Nat) (s : State) (a : Action) : Option State :=
  match a.move with
  | .connect c => if (s.connections.lookup c).isSome then none
    else some { s with connections := s.connections.insert c ⟨[],false⟩ }
  | .sessionStart c id persistent idleTimeout =>
    if (s.openConnection c).isNone || s.issued.contains id then none
    else if maxSessions ≤ s.sessions.entries.length then some s
    else some { s with
      sessions := createSession s.sessions a.now id persistent idleTimeout
      issued := id :: s.issued
      connections := s.withSessions c (· ++ [id]) }
  | .sessionAttach c id =>
    if (s.openConnection c).isNone then none
    else if (s.sessions.lookup id).isNone then some s
    else some { s with
      sessions := attach s.sessions a.now id
      connections := s.withSessions c (track id) }
  | .sessionKill c id =>
    if (s.openConnection c).isNone then none
    else some { s with
      sessions := killSession s.sessions id
      connections := s.withSessions c (List.filter (· ≠ id)) }
  | .disconnect c => if (s.openConnection c).isNone then none
    else some { s with connections := Table.modify c (fun conn => { conn with closing := true }) s.connections }
  | .release c => match s.connections.lookup c with
    | some ⟨id :: rest,true⟩ => some { s with
        sessions := if isPersistent s.sessions id then detach s.sessions a.now id else killSession s.sessions id
        connections := s.connections.insert c ⟨rest,true⟩ }
    | _ => none
  | .tunnelStart id persistent idleTimeout =>
    if s.issued.contains id then none
    else if maxSessions ≤ s.sessions.entries.length then some s
    else some { s with
      sessions := createSession s.sessions a.now id persistent idleTimeout
      issued := id :: s.issued
      tunnel := track id s.tunnel }
  | .tunnelAttach id =>
    if (s.sessions.lookup id).isNone then some { s with tunnel := s.tunnel.erase id }
    else some { s with sessions := attachShared s.sessions a.now id, tunnel := track id s.tunnel }
  | .tunnelDetach id => some { s with sessions := detach s.sessions a.now id, tunnel := s.tunnel.erase id }
  | .tunnelKill id =>
    if (s.sessions.lookup id).isNone then some s
    else some { s with sessions := killSession s.sessions id, tunnel := s.tunnel.erase id }
  | .tunnelReap id => if id ∈ s.tunnel then some { s with tunnel := s.tunnel.erase id } else none
  | .tunnelLost => some { s with sessions := detachAll s.sessions a.now s.tunnel, tunnel := [] }
  | .httpKill id => some { s with sessions := killSession s.sessions id }
  | .processExit id => some { s with sessions := Table.modify id (fun e => { e with exited := true }) s.sessions }
  | .sweep => some { s with sessions := sweep s.sessions a.now }

/-! ### Counting -/

def Attached (s : State) (id : String) : Prop :=
  (∃ c conn, s.connections.lookup c = some conn ∧ id ∈ conn.sessions) ∨ id ∈ s.tunnel

/-- How many connections have the session. -/
def direct (connections : Table Nat Connection) (id : String) : Nat :=
  connections.count fun conn => id ∈ conn.sessions

/-- How many hold the session: connections, and the tunnel as one. -/
def holders (s : State) (id : String) : Nat := direct s.connections id + if id ∈ s.tunnel then 1 else 0

/-- The counter is 0 exactly when nobody is attached; so `sweep` takes no
    session for idle that somebody is attached to, and takes an abandoned one
    as soon as its timeout is over. -/
structure CountsAttachments (s : State) : Prop where
  zero : ∀ id e, s.sessions.lookup id = some e → (e.attachedCount = 0 ↔ ¬ Attached s id)
  spares : ∀ id e now, s.sessions.lookup id = some e → Attached s id → e.exited = false →
    (sweep s.sessions now).lookup id = some e
  takes : ∀ id e now, s.sessions.lookup id = some e → ¬ Attached s id → 0 < e.idleTimeout →
    e.idleTimeout * 10 ^ 9 < now - e.lastActivity → (sweep s.sessions now).lookup id = none

/-- What the counter assumes of its users: a connection attaches to a session
    it does not have yet, the tunnel to one that no connection has; the tunnel
    detaches from what it has, and its tasks end only after their session. -/
def countsOnce (s : State) (a : Action) : Bool :=
  match a.move with
  | .sessionAttach c id => match s.connections.lookup c,s.sessions.lookup id with
    | some conn,some e => id ∉ conn.sessions && e.attachedCount < 2 ^ 32 - 1
    | _,_ => true
  | .tunnelAttach id => (s.sessions.lookup id).isNone || direct s.connections id = 0
  | .tunnelDetach id => id ∈ s.tunnel || (s.sessions.lookup id).all fun e => e.attachedCount = 0
  | .tunnelReap id => (s.sessions.lookup id).isNone
  | _ => true

structure Tallied (s : State) : Prop where
  tally : ∀ id e, s.sessions.lookup id = some e → e.attachedCount = holders s id
  session : ∀ id e, s.sessions.lookup id = some e → id ∈ s.issued
  connection : ∀ c conn, s.connections.lookup c = some conn → conn.sessions.Nodup ∧ ∀ id ∈ conn.sessions, id ∈ s.issued
  tunnel : s.tunnel.Nodup ∧ ∀ id ∈ s.tunnel, id ∈ s.issued

theorem direct_eq_zero_iff {connections : Table Nat Connection} {id : String} :
    direct connections id = 0 ↔ ∀ c conn, connections.lookup c = some conn → id ∉ conn.sessions := by
  rw [direct,Table.count_eq_zero_iff]
  simp

theorem holders_eq_zero_iff {s : State} {id : String} : holders s id = 0 ↔ ¬ Attached s id := by
  simp only [holders,Attached,Nat.add_eq_zero_iff,direct_eq_zero_iff,not_or,not_exists,not_and]
  refine and_congr Iff.rfl ?_
  split <;> simp_all

/-- Nobody has a session that was never handed out. -/
theorem holders_fresh {s : State} {id : String} (tallied : Tallied s) (fresh : id ∉ s.issued) : holders s id = 0 := by
  rw [holders_eq_zero_iff]
  rintro (⟨c,conn,found,member⟩ | member)
  · exact fresh ((tallied.connection c conn found).2 id member)
  · exact fresh (tallied.tunnel.2 id member)

theorem direct_modify {connections : Table Nat Connection} {c : Nat} {conn : Connection} {f : Connection → Connection}
    (found : connections.lookup c = some conn) (id : String) :
    direct (Table.modify c f connections) id + (if id ∈ conn.sessions then 1 else 0) =
      direct connections id + if id ∈ (f conn).sessions then 1 else 0 := by
  have counted := Table.count_modify (fun conn : Connection => decide (id ∈ conn.sessions)) f found
  simpa [direct] using counted

theorem tallied_counts {s : State} (tallied : Tallied s) : CountsAttachments s := by
  have zero : ∀ id e, s.sessions.lookup id = some e → (e.attachedCount = 0 ↔ ¬ Attached s id) := by
    intro id e found
    rw [tallied.tally id e found,holders_eq_zero_iff]
  refine ⟨zero,?_,?_⟩
  · intro id e now found attached running
    have held : e.attachedCount ≠ 0 := fun none => (zero id e found).mp none attached
    refine Table.lookup_keep_iff.mpr ⟨Table.lookup_keep_iff.mpr ⟨found,by simp [running]⟩,?_⟩
    simp [idleExpired,held]
  · intro id e now found alone timeout late
    have expired : idleExpired now e = true := by
      simp only [idleExpired,Bool.and_eq_true,decide_eq_true_eq]
      exact ⟨⟨timeout,(zero id e found).mpr alone⟩,late⟩
    cases left : (sweep s.sessions now).lookup id with
    | none => rfl
    | some kept =>
      obtain ⟨inner,fresh⟩ := Table.lookup_keep_iff.mp left
      obtain ⟨there,_⟩ := Table.lookup_keep_iff.mp inner
      rw [found] at there; cases there
      simp [expired] at fresh

theorem tallied_start (recovered : Sessions) : Tallied (start recovered) := by
  have none : ∀ id, holders (start recovered) id = 0 := by
    intro id
    rw [holders_eq_zero_iff]
    simp [Attached,start]
  refine ⟨?_,?_,?_,?_⟩
  · intro id e found
    rw [none id]
    simp only [start,Table.lookup_mapValues] at found
    obtain ⟨old,_,rfl⟩ := Option.map_eq_some_iff.mp found
    rfl
  · intro id e found
    simp only [start,Table.lookup_mapValues] at found
    obtain ⟨old,there,_⟩ := Option.map_eq_some_iff.mp found
    exact List.mem_map.mpr ⟨_,Table.lookup_eq_some_iff.mp there,rfl⟩
  · intro c conn found; simp [start] at found
  · simp [start]

/-! ### One step -/

theorem openConnection_found {s : State} {c : Nat} (closed : ¬ (s.openConnection c).isNone = true) :
    ∃ conn, s.connections.lookup c = some conn := by
  cases found : s.connections.lookup c with
  | none => simp [State.openConnection,found] at closed
  | some conn => exact ⟨conn,rfl⟩

/-- A changed list of one connection. -/
theorem holders_withSessions {s : State} {c : Nat} {conn : Connection} {f : List String → List String}
    (found : s.connections.lookup c = some conn) (id : String) :
    holders { s with connections := s.withSessions c f } id + (if id ∈ conn.sessions then 1 else 0) =
      holders s id + if id ∈ f conn.sessions then 1 else 0 := by
  have counted := @direct_modify s.connections c conn (fun conn => { conn with sessions := f conn.sessions }) found id
  simp only [holders,State.withSessions] at counted ⊢
  omega

theorem connection_modify {s : State} {c : Nat} {f : Connection → Connection} {issued : List String} (tallied : Tallied s)
    (more : ∀ id ∈ s.issued, id ∈ issued)
    (kept : ∀ conn, s.connections.lookup c = some conn → (f conn).sessions.Nodup ∧ ∀ id ∈ (f conn).sessions, id ∈ issued) :
    ∀ c' conn, (Table.modify c f s.connections).lookup c' = some conn →
      conn.sessions.Nodup ∧ ∀ id ∈ conn.sessions, id ∈ issued := by
  intro c' conn found
  rw [Table.lookup_modify] at found
  split_ifs at found with same
  · obtain ⟨old,there,rfl⟩ := Option.map_eq_some_iff.mp found
    exact kept old there
  · have known := tallied.connection c' conn found
    exact ⟨known.1,fun id member => more id (known.2 id member)⟩

theorem track_nodup {ids : List String} {id : String} (nodup : ids.Nodup) : (track id ids).Nodup := by
  unfold track
  split
  · exact nodup
  · next new =>
    refine List.nodup_append.mpr ⟨nodup,by simp,?_⟩
    rintro x here y there rfl
    exact new (List.mem_singleton.mp there ▸ here)

theorem mem_track {ids : List String} {id other : String} : other ∈ track id ids ↔ other ∈ ids ∨ other = id := by
  unfold track
  split
  · next member =>
    constructor
    · exact .inl
    · rintro (here | rfl)
      · exact here
      · exact member
  · simp

/-- Sessions that are only removed keep the tally of the others. -/
theorem tallied_fewer {s : State} {sessions : Sessions} (tallied : Tallied s)
    (fewer : ∀ id e, sessions.lookup id = some e →
      ∃ old, s.sessions.lookup id = some old ∧ e.attachedCount = old.attachedCount) :
    Tallied { s with sessions := sessions } := by
  refine ⟨?_,?_,tallied.connection,tallied.tunnel⟩
  · intro id e found
    obtain ⟨old,there,same⟩ := fewer id e found
    rw [same]; exact tallied.tally id old there
  · intro id e found
    obtain ⟨old,there,_⟩ := fewer id e found
    exact tallied.session id old there

theorem killed_fewer {sessions : Sessions} {id : String} : ∀ id' e, (killSession sessions id).lookup id' = some e →
    ∃ old, sessions.lookup id' = some old ∧ e.attachedCount = old.attachedCount := by
  intro id' e found
  rw [killSession,Table.lookup_erase_eq] at found
  split_ifs at found
  exact ⟨e,found,rfl⟩

theorem tallied_kill {s : State} {connections : Table Nat Connection} {tunnel : List String} {id : String}
    (tallied : Tallied s)
    (same : ∀ other, other ≠ id → holders { s with connections := connections, tunnel := tunnel } other = holders s other)
    (lists : ∀ c conn, connections.lookup c = some conn → conn.sessions.Nodup ∧ ∀ id ∈ conn.sessions, id ∈ s.issued)
    (tasks : tunnel.Nodup ∧ ∀ id ∈ tunnel, id ∈ s.issued) :
    Tallied { s with sessions := killSession s.sessions id, connections := connections, tunnel := tunnel } := by
  refine ⟨?_,?_,lists,tasks⟩
  · intro id' e found
    rw [killSession,Table.lookup_erase_eq] at found
    split_ifs at found with this
    rw [tallied.tally id' e found]
    exact (same id' this).symm
  · intro id' e found
    obtain ⟨old,there,_⟩ := killed_fewer id' e found
    exact tallied.session id' old there

/-- One session's counter and its holders change together. -/
theorem tallied_modify {s : State} {connections : Table Nat Connection} {tunnel : List String} {id : String}
    {f : SessionEntry → SessionEntry} (tallied : Tallied s)
    (others : ∀ other, other ≠ id → holders { s with connections := connections, tunnel := tunnel } other = holders s other)
    (here : ∀ e, s.sessions.lookup id = some e →
      (f e).attachedCount = holders { s with connections := connections, tunnel := tunnel } id)
    (lists : ∀ c conn, connections.lookup c = some conn → conn.sessions.Nodup ∧ ∀ id ∈ conn.sessions, id ∈ s.issued)
    (tasks : tunnel.Nodup ∧ ∀ id ∈ tunnel, id ∈ s.issued) :
    Tallied { s with sessions := Table.modify id f s.sessions, connections := connections, tunnel := tunnel } := by
  refine ⟨?_,?_,lists,tasks⟩
  · intro id' e found
    rw [Table.lookup_modify] at found
    split_ifs at found with this
    · subst this
      obtain ⟨old,there,rfl⟩ := Option.map_eq_some_iff.mp found
      exact here old there
    · rw [tallied.tally id' e found]
      exact (others id' this).symm
  · intro id' e found
    rw [Table.lookup_modify] at found
    split_ifs at found with this
    · subst this
      obtain ⟨old,there,_⟩ := Option.map_eq_some_iff.mp found
      exact tallied.session id' old there
    · exact tallied.session id' e found

/-- A new session, with its first holder. -/
theorem tallied_create {s : State} {connections : Table Nat Connection} {tunnel : List String} {id : String}
    {now idleTimeout : Nat} {persistent : Bool} (tallied : Tallied s)
    (others : ∀ other, other ≠ id → holders { s with connections := connections, tunnel := tunnel } other = holders s other)
    (here : holders { s with connections := connections, tunnel := tunnel } id = 1)
    (lists : ∀ c conn, connections.lookup c = some conn → conn.sessions.Nodup ∧ ∀ x ∈ conn.sessions, x ∈ id :: s.issued)
    (tasks : tunnel.Nodup ∧ ∀ x ∈ tunnel, x ∈ id :: s.issued) :
    Tallied { s with
      sessions := createSession s.sessions now id persistent idleTimeout, issued := id :: s.issued
      connections := connections, tunnel := tunnel } := by
  refine ⟨?_,?_,lists,tasks⟩
  · intro id' e found
    rw [createSession,Table.lookup_insert_eq] at found
    split_ifs at found with this
    · subst this; cases found; exact here.symm
    · rw [tallied.tally id' e found]
      exact (others id' this).symm
  · intro id' e found
    rw [createSession,Table.lookup_insert_eq] at found
    split_ifs at found with this
    · subst this; exact List.mem_cons_self
    · exact List.mem_cons_of_mem id (tallied.session id' e found)

theorem tallied_sessionStart {s : State} {c now idleTimeout : Nat} {id : String} {persistent : Bool} {conn : Connection}
    (tallied : Tallied s) (found : s.connections.lookup c = some conn) (fresh : id ∉ s.issued) :
    Tallied { s with
      sessions := createSession s.sessions now id persistent idleTimeout, issued := id :: s.issued
      connections := s.withSessions c (· ++ [id]) } := by
  have known := tallied.connection c conn found
  have new : id ∉ conn.sessions := fun member => fresh (known.2 id member)
  have change (other : String) := @holders_withSessions s c conn (· ++ [id]) found other
  refine tallied_create tallied ?_ ?_ ?_ ?_
  · intro other differs
    have counted := change other
    simp only [List.mem_append,List.mem_singleton,differs,or_false] at counted
    omega
  · have counted := change id
    rw [holders_fresh tallied fresh] at counted
    simpa [new] using counted
  · refine connection_modify tallied (fun x member => List.mem_cons_of_mem id member) ?_
    intro conn' there
    rw [found] at there; cases there
    refine ⟨List.nodup_append.mpr ⟨known.1,by simp,?_⟩,?_⟩
    · rintro x here y there rfl
      rw [List.mem_singleton.mp there] at here; exact new here
    · intro x member
      rcases List.mem_append.mp member with old | now
      · exact List.mem_cons_of_mem id (known.2 x old)
      · rw [List.mem_singleton.mp now]; exact List.mem_cons_self
  · exact ⟨tallied.tunnel.1,fun x member => List.mem_cons_of_mem id (tallied.tunnel.2 x member)⟩

theorem tallied_sessionAttach {s : State} {c now : Nat} {id : String} {conn : Connection} {e : SessionEntry}
    (tallied : Tallied s) (found : s.connections.lookup c = some conn) (session : s.sessions.lookup id = some e)
    (new : id ∉ conn.sessions) (room : e.attachedCount < 2 ^ 32 - 1) :
    Tallied { s with sessions := attach s.sessions now id, connections := s.withSessions c (track id) } := by
  have known := tallied.connection c conn found
  have change (other : String) := @holders_withSessions s c conn (track id) found other
  refine tallied_modify tallied ?_ ?_ ?_ tallied.tunnel
  · intro other differs
    have counted := change other
    simp only [mem_track,differs,or_false] at counted
    omega
  · intro e' there
    rw [session] at there; cases there
    have counted := change id
    have tally := tallied.tally id e session
    simp only [mem_track,new,or_true,if_true,if_false] at counted
    simp only [saturatingIncrement]
    omega
  · refine connection_modify tallied (fun _ member => member) ?_
    intro conn' there
    rw [found] at there; cases there
    refine ⟨track_nodup known.1,?_⟩
    intro x member
    rcases mem_track.mp member with old | rfl
    · exact known.2 x old
    · exact tallied.session x e session

theorem tallied_sessionKill {s : State} {c : Nat} {id : String} {conn : Connection} (tallied : Tallied s)
    (found : s.connections.lookup c = some conn) :
    Tallied { s with sessions := killSession s.sessions id, connections := s.withSessions c (List.filter (· ≠ id)) } := by
  have known := tallied.connection c conn found
  refine tallied_kill tallied ?_ ?_ tallied.tunnel
  · intro other differs
    have counted := @holders_withSessions s c conn (List.filter (· ≠ id)) found other
    have same : other ∈ List.filter (· ≠ id) conn.sessions ↔ other ∈ conn.sessions := by simp [differs]
    simp only [same] at counted
    omega
  · refine connection_modify tallied (fun _ member => member) ?_
    intro conn' there
    rw [found] at there; cases there
    exact ⟨known.1.filter _,fun x member => known.2 x (List.mem_filter.mp member).1⟩

theorem tallied_release {s : State} {c now : Nat} {id : String} {rest : List String} (tallied : Tallied s)
    (found : s.connections.lookup c = some ⟨id :: rest,true⟩) :
    Tallied { s with
      sessions := if isPersistent s.sessions id then detach s.sessions now id else killSession s.sessions id
      connections := s.connections.insert c ⟨rest,true⟩ } := by
  have known := tallied.connection c _ found
  have nodup := List.nodup_cons.mp known.1
  have same : s.connections.insert c ⟨rest,true⟩ = Table.modify c (fun _ => ⟨rest,true⟩) s.connections := by
    simp [Table.modify,found]
  have change (other : String) := @direct_modify s.connections c _ (fun _ => ⟨rest,true⟩) found other
  have lists := @connection_modify s c (fun _ => ⟨rest,true⟩) s.issued tallied (fun _ member => member)
    (fun _ _ => ⟨nodup.2,fun x member => known.2 x (List.mem_cons_of_mem id member)⟩)
  have others : ∀ other, other ≠ id →
      holders { s with connections := Table.modify c (fun _ => ⟨rest,true⟩) s.connections } other = holders s other := by
    intro other differs
    have counted := change other
    simp only [List.mem_cons,differs,false_or] at counted
    simp only [holders]; omega
  rw [same]
  split
  · refine tallied_modify tallied others ?_ lists tallied.tunnel
    intro e there
    have counted := change id
    have tally := tallied.tally id e there
    simp only [List.mem_cons,true_or,if_true,nodup.1,if_false] at counted
    simp only [holders] at tally
    simp only [letGo,holders]; omega
  · exact tallied_kill tallied others lists tallied.tunnel

theorem detachAll_lookup {sessions : Sessions} {now : Nat} {ids : List String} (nodup : ids.Nodup) (id : String) :
    (detachAll sessions now ids).lookup id =
      if id ∈ ids then (sessions.lookup id).map (letGo now) else sessions.lookup id := by
  induction ids generalizing sessions with
  | nil => rfl
  | cons first rest ih =>
    obtain ⟨apart,nodup⟩ := List.nodup_cons.mp nodup
    rw [detachAll,List.foldl_cons,← detachAll,ih nodup,detach,Table.lookup_modify]
    by_cases this : id = first
    · subst this; simp [apart]
    · simp [this]

theorem tallied_tunnelLost {s : State} {now : Nat} (tallied : Tallied s) :
    Tallied { s with sessions := detachAll s.sessions now s.tunnel, tunnel := [] } := by
  have found (id : String) := @detachAll_lookup s.sessions now s.tunnel tallied.tunnel.1 id
  refine ⟨?_,?_,tallied.connection,by simp⟩
  · intro id e there
    rw [found] at there
    by_cases held : id ∈ s.tunnel
    · rw [if_pos held] at there
      obtain ⟨old,before,rfl⟩ := Option.map_eq_some_iff.mp there
      have tally := tallied.tally id old before
      simp only [holders,held,if_true] at tally
      simp only [letGo,holders,List.not_mem_nil,if_false]; omega
    · rw [if_neg held] at there
      have tally := tallied.tally id e there
      simpa [holders,held] using tally
  · intro id e there
    rw [found] at there
    split_ifs at there
    · obtain ⟨old,before,_⟩ := Option.map_eq_some_iff.mp there
      exact tallied.session id old before
    · exact tallied.session id e there

theorem holders_erase {s : State} (id other : String) (differs : other ≠ id) :
    holders { s with tunnel := s.tunnel.erase id } other = holders s other := by
  simp only [holders,List.mem_erase_of_ne differs]

theorem holders_track {s : State} (id other : String) (differs : other ≠ id) :
    holders { s with tunnel := track id s.tunnel } other = holders s other := by
  simp only [holders,mem_track,differs,or_false]

theorem erased_tunnel {s : State} (tallied : Tallied s) (id : String) :
    (s.tunnel.erase id).Nodup ∧ ∀ x ∈ s.tunnel.erase id, x ∈ s.issued :=
  ⟨tallied.tunnel.1.erase id,fun x member => tallied.tunnel.2 x (List.mem_of_mem_erase member)⟩

/-- A task without a session goes. -/
theorem tallied_dropTask {s : State} {id : String} (tallied : Tallied s) (absent : s.sessions.lookup id = none) :
    Tallied { s with tunnel := s.tunnel.erase id } := by
  refine ⟨?_,tallied.session,tallied.connection,erased_tunnel tallied id⟩
  intro other e found
  have differs : other ≠ id := by rintro rfl; rw [absent] at found; cases found
  rw [tallied.tally other e found]; exact (holders_erase id other differs).symm

theorem tallied_tunnelStart {s : State} {now idleTimeout : Nat} {id : String} {persistent : Bool} (tallied : Tallied s)
    (fresh : id ∉ s.issued) :
    Tallied { s with
      sessions := createSession s.sessions now id persistent idleTimeout, issued := id :: s.issued
      tunnel := track id s.tunnel } := by
  have alone := holders_fresh tallied fresh
  refine tallied_create tallied (holders_track id) ?_ ?_ ?_
  · simp only [holders] at alone
    simp only [holders,mem_track,or_true,if_true]; omega
  · intro c conn found
    have known := tallied.connection c conn found
    exact ⟨known.1,fun x member => List.mem_cons_of_mem id (known.2 x member)⟩
  · refine ⟨track_nodup tallied.tunnel.1,?_⟩
    intro x member
    rcases mem_track.mp member with old | rfl
    · exact List.mem_cons_of_mem id (tallied.tunnel.2 x old)
    · exact List.mem_cons_self

theorem tallied_tunnelAttach {s : State} {now : Nat} {id : String} {e : SessionEntry} (tallied : Tallied s)
    (session : s.sessions.lookup id = some e) (alone : direct s.connections id = 0) :
    Tallied { s with sessions := attachShared s.sessions now id, tunnel := track id s.tunnel } := by
  refine tallied_modify tallied (holders_track id) ?_ tallied.connection ?_
  · intro e _
    simp only [holders,mem_track,or_true,if_true,alone]
  · refine ⟨track_nodup tallied.tunnel.1,?_⟩
    intro x member
    rcases mem_track.mp member with old | rfl
    · exact tallied.tunnel.2 x old
    · exact tallied.session x e session

theorem tallied_tunnelDetach {s : State} {now : Nat} {id : String} (tallied : Tallied s)
    (held : ∀ e, s.sessions.lookup id = some e → id ∈ s.tunnel ∨ e.attachedCount = 0) :
    Tallied { s with sessions := detach s.sessions now id, tunnel := s.tunnel.erase id } := by
  refine tallied_modify tallied (holders_erase id) ?_ tallied.connection (erased_tunnel tallied id)
  intro e found
  have tally := tallied.tally id e found
  have gone : id ∉ s.tunnel.erase id := tallied.tunnel.1.not_mem_erase
  simp only [holders] at tally
  simp only [letGo,holders,gone,if_false]
  rcases held e found with here | zero
  · rw [if_pos here] at tally; omega
  · omega

theorem tallied_connect {s : State} {c : Nat} (tallied : Tallied s) (missing : s.connections.lookup c = none) :
    Tallied { s with connections := s.connections.insert c ⟨[],false⟩ } := by
  have same (id : String) : direct (s.connections.insert c ⟨[],false⟩) id = direct s.connections id := by
    rw [direct,Table.count_insert_new _ missing]; simp [direct]
  refine ⟨?_,tallied.session,?_,tallied.tunnel⟩
  · intro id e found
    rw [tallied.tally id e found]; simp only [holders,same]
  · intro c' conn found
    rw [Table.lookup_insert_eq] at found
    split_ifs at found
    · cases found; simp
    · exact tallied.connection c' conn found

theorem tallied_disconnect {s : State} {c : Nat} {conn : Connection} (tallied : Tallied s)
    (found : s.connections.lookup c = some conn) :
    Tallied { s with connections := Table.modify c (fun conn => { conn with closing := true }) s.connections } := by
  refine ⟨?_,tallied.session,?_,tallied.tunnel⟩
  · intro id e there
    have counted := @direct_modify s.connections c conn (fun conn => { conn with closing := true }) found id
    rw [tallied.tally id e there]
    simp only [holders]; simp only at counted; omega
  · exact connection_modify tallied (fun _ member => member) fun conn' there => tallied.connection c conn' there

theorem tallied_step {maxSessions : Nat} {s t : State} {a : Action} (tallied : Tallied s) (once : countsOnce s a = true)
    (stepped : step maxSessions s a = some t) : Tallied t := by
  obtain ⟨now,move⟩ := a
  cases move with
  | connect c =>
    simp only [step] at stepped
    split_ifs at stepped with taken
    cases stepped
    exact tallied_connect tallied (by simpa using taken)
  | sessionStart c id persistent idleTimeout =>
    simp only [step,Bool.or_eq_true] at stepped
    split_ifs at stepped with closed full
    · cases stepped; exact tallied
    · cases stepped
      rw [not_or] at closed
      obtain ⟨conn,found⟩ := openConnection_found closed.1
      exact tallied_sessionStart tallied found (by simpa using closed.2)
  | sessionAttach c id =>
    simp only [step] at stepped
    split_ifs at stepped with closed missing
    · cases stepped; exact tallied
    · cases stepped
      obtain ⟨conn,found⟩ := openConnection_found closed
      obtain ⟨e,session⟩ := Option.ne_none_iff_exists'.mp (by simpa using missing)
      have free : id ∉ conn.sessions ∧ e.attachedCount < 2 ^ 32 - 1 := by simpa [countsOnce,found,session] using once
      exact tallied_sessionAttach tallied found session free.1 free.2
  | sessionKill c id =>
    simp only [step] at stepped
    split_ifs at stepped with closed
    cases stepped
    obtain ⟨conn,found⟩ := openConnection_found closed
    exact tallied_sessionKill tallied found
  | disconnect c =>
    simp only [step] at stepped
    split_ifs at stepped with closed
    cases stepped
    obtain ⟨conn,found⟩ := openConnection_found closed
    exact tallied_disconnect tallied found
  | release c =>
    simp only [step] at stepped
    split at stepped
    · next found => cases stepped; exact tallied_release tallied found
    · cases stepped
  | tunnelStart id persistent idleTimeout =>
    simp only [step] at stepped
    split_ifs at stepped with used full
    · cases stepped; exact tallied
    · cases stepped; exact tallied_tunnelStart tallied (by simpa using used)
  | tunnelAttach id =>
    simp only [step] at stepped
    split_ifs at stepped with missing
    · cases stepped; exact tallied_dropTask tallied (by simpa using missing)
    · cases stepped
      obtain ⟨e,session⟩ := Option.ne_none_iff_exists'.mp (by simpa using missing)
      exact tallied_tunnelAttach tallied session (by simpa [countsOnce,missing] using once)
  | tunnelDetach id =>
    cases stepped
    refine tallied_tunnelDetach tallied ?_
    intro e found
    simpa [countsOnce,found] using once
  | tunnelKill id =>
    simp only [step] at stepped
    split_ifs at stepped with missing
    · cases stepped; exact tallied
    · cases stepped; exact tallied_kill tallied (holders_erase id) tallied.connection (erased_tunnel tallied id)
  | tunnelReap id =>
    simp only [step] at stepped
    split_ifs at stepped
    cases stepped
    exact tallied_dropTask tallied (by simpa [countsOnce] using once)
  | tunnelLost => cases stepped; exact tallied_tunnelLost tallied
  | httpKill id => cases stepped; exact tallied_fewer tallied killed_fewer
  | processExit id =>
    cases stepped
    refine tallied_fewer tallied ?_
    intro id' e found
    rw [Table.lookup_modify] at found
    split_ifs at found with this
    · subst this
      obtain ⟨old,there,rfl⟩ := Option.map_eq_some_iff.mp found
      exact ⟨old,there,rfl⟩
    · exact ⟨e,found,rfl⟩
  | sweep =>
    cases stepped
    refine tallied_fewer tallied ?_
    intro id e found
    exact ⟨e,(Table.lookup_keep_iff.mp (Table.lookup_keep_iff.mp found).1).1,rfl⟩

/-- In a run in which everybody attaches once and detaches what they have, the
    counter tells who is attached in every state. -/
theorem attachments_counted (maxSessions : Nat) (recovered : Sessions) (as : List Action)
    (once : Along (step maxSessions) (fun s a => countsOnce s a = true) (start recovered) as) :
    Always (step maxSessions) CountsAttachments (start recovered) as :=
  always_of_keeps (fun _ _ _ tallied met stepped => tallied_step tallied met stepped)
    (fun _ tallied => tallied_counts tallied) (tallied_start recovered) once

/-- Two clients and the tunnel come and go; the session outlives them all. -/
def comeAndGo : List Action :=
  [⟨0,.connect 0⟩,⟨0,.connect 1⟩,⟨1,.sessionStart 0 "s" true 60⟩,⟨2,.sessionAttach 1 "s"⟩,⟨3,.disconnect 0⟩,⟨4,.release 0⟩,
    ⟨5,.disconnect 1⟩,⟨6,.release 1⟩,⟨7,.tunnelAttach "s"⟩,⟨8,.tunnelAttach "s"⟩,⟨9,.tunnelLost⟩,⟨10 ^ 12,.sweep⟩]

theorem attachments_counted_comeAndGo : Always (step 4) CountsAttachments (start ∅) comeAndGo :=
  attachments_counted 4 ∅ comeAndGo (by decide +kernel)

/-- A client attaches again to the session it started, and leaves. -/
def attachedTwice : List Action :=
  [⟨0,.connect 0⟩,⟨1,.sessionStart 0 "s" true 60⟩,⟨2,.sessionAttach 0 "s"⟩,⟨3,.disconnect 0⟩,⟨4,.release 0⟩]

theorem attachment_leaked : ¬ Always (step 4) CountsAttachments (start ∅) attachedTwice := by
  intro all
  have last : (run (step 4) (start ∅) attachedTwice).map (fun s => (s.sessions.lookup "s",holders s "s")) =
      some (some ⟨false,true,4,1,60⟩,0) := by decide +kernel
  obtain ⟨t,ran,known⟩ := Option.map_eq_some_iff.mp last
  obtain ⟨found,alone⟩ := Prod.mk.inj known
  have zero := ((always_last all ran).zero "s" _ found).mpr (holders_eq_zero_iff.mp alone)
  cases zero

end Sctl.Attachments
