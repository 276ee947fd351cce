import Mathlib.Data.List.Forall2
import Sctl.Json
import Sctl.SessionBuffer

/-!
The batches of a session's output that a device sends through the tunnel
(`batch_output_entries`). The loop keeps one frame open and flushes it when the
next entry has another stream or does not fit. What it has done at any time is to
cut the entries so far into groups, one for each frame and one that is open.
-/
namespace Sctl.TunnelBatches
open SessionBuffer

def tunnelStreamBatchMaxEntries : Nat := 32

def tunnelStreamBatchMaxBytes : Nat := 8 * 1024

structure Frame where
  stream : OutputStream
  data : String
  seq : Nat
  timestampMs : Nat
deriving DecidableEq

/-- The message of a frame. -/
def Frame.message (sessionId : String) (f : Frame) : Json :=
  .object [("type",.string ("session." ++ f.stream.asStr)),("session_id",.string sessionId),("data",.string f.data),
    ("seq",.number (toString f.seq)),("timestamp_ms",.number (toString f.timestampMs))]

def serializeFailed : String := "\x7b\"type\":\"error\",\"message\":\"serialize failed\"\x7d"

section
variable (toJson : Json → Option String) (sessionId : String)

def Frame.text (f : Frame) : String := (toJson (f.message sessionId)).getD serializeFailed

/-- The variables of the loop. -/
structure Batching where
  batched : List String
  currentStream : Option OutputStream
  currentData : String
  currentSeq : Nat
  currentTimestampMs : Nat
  currentCount : Nat

def Batching.new : Batching := ⟨[],none,"",0,0,0⟩

def Batching.flushCurrent (b : Batching) : Batching :=
  match b.currentStream with
  | some stream =>
    { b with
      batched := b.batched ++ [Frame.text toJson sessionId ⟨stream,b.currentData,b.currentSeq,b.currentTimestampMs⟩]
      currentStream := none
      currentData := ""
      currentCount := 0 }
  | none => b

def Batching.push (b : Batching) (entry : OutputEntry) : Batching :=
  let sameStream := b.currentStream = some entry.stream
  let fitsBytes := b.currentData.utf8ByteSize + entry.data.utf8ByteSize ≤ tunnelStreamBatchMaxBytes
  let fitsCount := b.currentCount < tunnelStreamBatchMaxEntries
  let b := if ¬ sameStream ∨ ¬ fitsBytes ∨ ¬ fitsCount then
      { b.flushCurrent toJson sessionId with currentStream := some entry.stream }
    else b
  { b with
    currentData := b.currentData ++ entry.data
    currentSeq := entry.seq
    currentTimestampMs := entry.timestampMs
    currentCount := b.currentCount + 1 }

def batchOutputEntries (entries : List OutputEntry) : List String :=
  ((entries.foldl (Batching.push toJson sessionId) .new).flushCurrent toJson sessionId).batched

/-! ### Frames and the entries that they hold -/

/-- A frame holds these entries. -/
structure Holds (f : Frame) (group : List OutputEntry) : Prop where
  stream : ∀ e ∈ group, e.stream = f.stream
  data : f.data.toList = group.flatMap fun e => e.data.toList
  last : ∃ e, group.getLast? = some e ∧ f.seq = e.seq ∧ f.timestampMs = e.timestampMs
  entries : group.length ≤ tunnelStreamBatchMaxEntries
  bytes : f.data.utf8ByteSize ≤ tunnelStreamBatchMaxBytes ∨ ∃ e, group = [e] ∧ tunnelStreamBatchMaxBytes < e.data.utf8ByteSize

/-- The characters of a piece of output, each with its stream. -/
def chars (stream : OutputStream) (data : String) : List (OutputStream × Char) := data.toList.map fun c => (stream,c)

/-- The frames hold the entries: each a run of them, one after the other. -/
structure Batches (entries : List OutputEntry) (frames : List Frame) : Prop where
  groups : ∃ groups, entries = groups.flatten ∧ List.Forall₂ Holds frames groups
  chars : frames.flatMap (fun f => chars f.stream f.data) = entries.flatMap fun e => chars e.stream e.data
  increasing : (frames.map Frame.seq).Pairwise (· < ·)
  last : frames.getLast?.map Frame.seq = entries.getLast?.map OutputEntry.seq

/-- The state of the loop after these entries: those of the frames and those of the open one. -/
structure Cut (b : Batching) (groups : List (List OutputEntry)) (frames : List Frame) (current : List OutputEntry) : Prop where
  batched : b.batched = frames.map (Frame.text toJson sessionId)
  frames : List.Forall₂ Holds frames groups
  idle : b.currentStream = none → current = [] ∧ b.currentData = "" ∧ b.currentCount = 0
  busy : ∀ stream, b.currentStream = some stream →
    Holds ⟨stream,b.currentData,b.currentSeq,b.currentTimestampMs⟩ current ∧ b.currentCount = current.length

end

section
variable {toJson : Json → Option String} {sessionId : String} {b : Batching} {groups : List (List OutputEntry)} {frames : List Frame}
variable {current : List OutputEntry} {entry : OutputEntry}

theorem flush_cut (cut : Cut toJson sessionId b groups frames current) : ∃ groups' frames', groups'.flatten = groups.flatten ++ current ∧
    Cut toJson sessionId (b.flushCurrent toJson sessionId) groups' frames' [] ∧ (b.flushCurrent toJson sessionId).currentStream = none := by
  unfold Batching.flushCurrent
  cases open_ : b.currentStream with
  | none =>
    obtain ⟨empty,_,_⟩ := cut.idle open_
    subst empty
    exact ⟨groups,frames,by simp,cut,open_⟩
  | some stream =>
    obtain ⟨holds,_⟩ := cut.busy stream open_
    refine ⟨groups ++ [current],frames ++ [⟨stream,b.currentData,b.currentSeq,b.currentTimestampMs⟩],by simp,
      ⟨?_,?_,fun _ => ⟨rfl,rfl,rfl⟩,?_⟩,rfl⟩
    · simp [cut.batched]
    · exact List.rel_append cut.frames (.cons holds .nil)
    · intro _ other
      cases other

/-- An entry opens a frame. -/
theorem holds_one (e : OutputEntry) : Holds ⟨e.stream,"" ++ e.data,e.seq,e.timestampMs⟩ [e] where
  stream e' member := by rw [List.mem_singleton.mp member]
  data := by simp
  last := ⟨e,rfl,rfl,rfl⟩
  entries := by
    show 1 ≤ 32
    omega
  bytes := by
    by_cases fits : e.data.utf8ByteSize ≤ tunnelStreamBatchMaxBytes
    · exact .inl (by simpa using fits)
    · exact .inr ⟨e,rfl,by omega⟩

/-- An entry that fits goes into the open frame. -/
theorem holds_more {stream : OutputStream} {data : String} {seq timestampMs : Nat} (holds : Holds ⟨stream,data,seq,timestampMs⟩ current)
    (same : entry.stream = stream) (bytes : data.utf8ByteSize + entry.data.utf8ByteSize ≤ tunnelStreamBatchMaxBytes)
    (count : current.length < tunnelStreamBatchMaxEntries) :
    Holds ⟨stream,data ++ entry.data,entry.seq,entry.timestampMs⟩ (current ++ [entry]) where
  stream e member := by
    rcases List.mem_append.mp member with before | last
    · exact holds.stream e before
    · rw [List.mem_singleton.mp last]
      exact same
  data := by
    have before : data.toList = _ := holds.data
    simp [before]
  last := ⟨entry,by simp,rfl,rfl⟩
  entries := by
    rw [List.length_append]
    exact count
  bytes := by
    left
    simpa using bytes

theorem push_cut (cut : Cut toJson sessionId b groups frames current) (entry : OutputEntry) : ∃ groups' frames' current',
    groups'.flatten ++ current' = groups.flatten ++ current ++ [entry] ∧
      Cut toJson sessionId (b.push toJson sessionId entry) groups' frames' current' := by
  by_cases stays : b.currentStream = some entry.stream ∧ b.currentData.utf8ByteSize + entry.data.utf8ByteSize ≤ tunnelStreamBatchMaxBytes ∧
      b.currentCount < tunnelStreamBatchMaxEntries
  · obtain ⟨same,bytes,count⟩ := stays
    obtain ⟨holds,counted⟩ := cut.busy _ same
    refine ⟨groups,frames,current ++ [entry],by simp,?_⟩
    simp only [Batching.push]
    rw [if_neg (by simp [same,bytes,count])]
    refine ⟨cut.batched,cut.frames,fun none_ => ?_,fun stream is => ?_⟩
    · cases none_.symm.trans same
    · cases is.symm.trans same
      exact ⟨holds_more holds rfl bytes (counted ▸ count),by simp [counted]⟩
  · obtain ⟨groups',frames',whole,cut',idle⟩ := flush_cut cut
    obtain ⟨_,empty,zero⟩ := cut'.idle idle
    refine ⟨groups',frames',[entry],by rw [whole],?_⟩
    simp only [Batching.push]
    rw [if_pos (by rwa [← not_and_or,← not_and_or])]
    refine ⟨cut'.batched,cut'.frames,fun none_ => (by cases none_),fun stream is => ?_⟩
    obtain rfl := Option.some.inj is
    show Holds ⟨_,(b.flushCurrent toJson sessionId).currentData ++ _,_,_⟩ _ ∧ (b.flushCurrent toJson sessionId).currentCount + 1 = 1
    rw [empty,zero]
    exact ⟨holds_one entry,rfl⟩

/-- The loop over all entries. -/
theorem foldl_cut (cut : Cut toJson sessionId b groups frames current) (entries : List OutputEntry) : ∃ groups' frames' current',
    groups'.flatten ++ current' = groups.flatten ++ current ++ entries ∧
      Cut toJson sessionId (entries.foldl (Batching.push toJson sessionId) b) groups' frames' current' := by
  induction entries generalizing b groups frames current with
  | nil => exact ⟨groups,frames,current,by simp,cut⟩
  | cons entry rest ih =>
    obtain ⟨groups',frames',current',whole,cut'⟩ := push_cut cut entry
    obtain ⟨groups'',frames'',current'',whole',cut''⟩ := ih cut'
    exact ⟨groups'',frames'',current'',by rw [whole',whole]; simp,cut''⟩

theorem new_cut (toJson : Json → Option String) (sessionId : String) : Cut toJson sessionId .new [] [] [] :=
  ⟨rfl,.nil,fun _ => ⟨rfl,rfl,rfl⟩,fun _ other => by cases other⟩

/-! ### What the frames preserve -/

theorem holds_chars {f : Frame} {group : List OutputEntry} (holds : Holds f group) :
    chars f.stream f.data = group.flatMap fun e => chars e.stream e.data := by
  unfold chars
  rw [holds.data,List.map_flatMap]
  apply List.flatMap_congr
  intro e member
  rw [holds.stream e member]

theorem frames_chars (all : List.Forall₂ Holds frames groups) :
    frames.flatMap (fun f => chars f.stream f.data) = groups.flatten.flatMap fun e => chars e.stream e.data := by
  induction all with
  | nil => rfl
  | cons holds _ ih => rw [List.flatMap_cons,List.flatten_cons,List.flatMap_append,ih,holds_chars holds]

theorem holds_mem {f : Frame} {group : List OutputEntry} (holds : Holds f group) : f.seq ∈ group.map OutputEntry.seq := by
  obtain ⟨e,last,same,_⟩ := holds.last
  rw [same]
  exact List.mem_map_of_mem (List.mem_of_getLast? last)

theorem seqs_sublist (all : List.Forall₂ Holds frames groups) : (frames.map Frame.seq).Sublist (groups.flatten.map OutputEntry.seq) := by
  induction all with
  | nil => exact List.Sublist.refl _
  | cons holds _ ih =>
    rw [List.flatten_cons,List.map_append,List.map_cons,← List.singleton_append]
    exact (List.singleton_sublist.mpr (holds_mem holds)).append ih

theorem last_seq (all : List.Forall₂ Holds frames groups) :
    frames.getLast?.map Frame.seq = groups.flatten.getLast?.map OutputEntry.seq := by
  induction all with
  | nil => rfl
  | @cons f group frames groups holds _ ih =>
    obtain ⟨e,last,same,_⟩ := holds.last
    rw [List.getLast?_cons,List.flatten_cons,List.getLast?_append,last]
    cases more : groups.flatten.getLast? with
    | none =>
      rw [more,Option.map_none,Option.map_eq_none_iff] at ih
      rw [ih]
      exact congrArg some same
    | some e' =>
      rw [more] at ih
      obtain ⟨f',there,same'⟩ := Option.map_eq_some_iff.mp ih
      rw [there]
      exact congrArg some same'

theorem batches_of_cut {entries : List OutputEntry} (whole : groups.flatten = entries) (all : List.Forall₂ Holds frames groups)
    (increasing : (entries.map OutputEntry.seq).Pairwise (· < ·)) : Batches entries frames where
  groups := ⟨groups,whole.symm,all⟩
  chars := by rw [frames_chars all,whole]
  increasing := by
    rw [← whole] at increasing
    exact increasing.sublist (seqs_sublist all)
  last := by rw [last_seq all,whole]

end

/-- The frames of numbered entries preserve the output, where each serializes. -/
theorem batches_preserve_output (toJson : Json → Option String) (sessionId : String) (entries : List OutputEntry)
    (serializes : ∀ f, (toJson (Frame.message sessionId f)).isSome = true) (increasing : (entries.map OutputEntry.seq).Pairwise (· < ·)) :
    ∃ frames, (batchOutputEntries toJson sessionId entries).map some = frames.map (fun f => toJson (Frame.message sessionId f)) ∧
      Batches entries frames := by
  obtain ⟨groups,frames,current,whole,cut⟩ := foldl_cut (new_cut toJson sessionId) entries
  obtain ⟨groups',frames',whole',cut',_⟩ := flush_cut cut
  refine ⟨frames',?_,batches_of_cut (by rw [whole',whole]; rfl) cut'.frames increasing⟩
  rw [batchOutputEntries,cut'.batched,List.map_map]
  apply List.map_congr_left
  intro f _
  obtain ⟨text,found⟩ := Option.isSome_iff_exists.mp (serializes f)
  simp [Frame.text,found]

/-- An object of numbers and of strings that need no escapes, with its keys in order. -/
def printed : Json → Option String
  | .object fields => some ("\x7b" ++ ",".intercalate ((fields.mergeSort fun f g => f.1 ≤ g.1).map fun f => "\"" ++ f.1 ++ "\":" ++
    match f.2 with
    | .string s => "\"" ++ s ++ "\""
    | .number n => n
    | _ => "null") ++ "\x7d")
  | _ => some "null"

/-- Two runs of one stream around another stream. -/
def mixed : List OutputEntry := [⟨1,.stdout,"a",5⟩,⟨2,.stdout,"b",6⟩,⟨4,.stderr,"",7⟩,⟨7,.stdout,"c",8⟩]

theorem batches_preserve_mixed : ∃ frames,
    (batchOutputEntries printed "s" mixed).map some = frames.map (fun f => printed (Frame.message "s" f)) ∧ Batches mixed frames :=
  batches_preserve_output printed "s" mixed (fun _ => rfl) (by decide)

end Sctl.TunnelBatches
