import Sctl.Base64
import Sctl.Files
import Sctl.TransferTypes
import Sctl.Utf8

/-!
Reading a file (`server/src/routes/files.rs`): `read_file` with its optional range, and the
content of a `put_file` request. One call reads at most the buffer, and perhaps less; what the
operating system answers is a parameter, and so is the base64 engine.
-/
namespace Sctl.FileReads
open Files TransferTypes

abbrev Text := List Char

structure ApiError where
  code : String
  message : String
  status : Nat
deriving DecidableEq

structure Metadata where
  isDir : Bool
  len : Nat
  modified : Option Text

/-- The answers to the calls of one request, and the file that they are about. -/
structure Calls where
  content : Bytes
  metadata : Except IoError Metadata
  opened : Except IoError Unit
  seek (offset : Nat) : Except IoError Unit
  /-- How much of a buffer of the length is filled from the offset on. -/
  read (offset len : Nat) : Except IoError Nat

structure FileReadResponse where
  path : Text
  content : Text
  size : Nat
  modified : Option Text
  encoding : Option Text
  truncated : Bool

/-- The text with these bytes, if they are UTF-8. -/
def fromUtf8 (bytes : Bytes) : Option Text :=
  let text := Utf8.decodeFrom none bytes
  if Utf8.encode text = bytes then some text else none

def ioError (e : IoError) : ApiError := ⟨"IO_ERROR",e.text,500⟩

def metadataError (e : IoError) : ApiError :=
  match e.kind with
  | .notFound => ⟨"FILE_NOT_FOUND","File not found",404⟩
  | .permissionDenied => ⟨"PERMISSION_DENIED","Permission denied",403⟩
  | .other => ioError e

def openError (e : IoError) : ApiError :=
  if e.kind = .permissionDenied then ⟨"PERMISSION_DENIED","Permission denied",403⟩ else ioError e

def base64 : Text := ['b','a','s','e','6','4']

section engine
variable (encode : Bytes → Text) (decode : Text → Option Bytes) (usize maxSize : Nat)

def readLimit (limit : Option Nat) : Nat := limit.elim maxSize fun l => min l maxSize

/-- The length of the buffer: what is left of the file as a `usize`, within the limit. -/
def toRead (offset limit : Option Nat) (len : Nat) : Nat := min (readLimit maxSize limit) ((len - offset.getD 0) % usize)

/-- The bytes as text, or else in base64. -/
def respond (path : Text) (metadata : Metadata) (offset : Nat) (bytes : Bytes) : FileReadResponse :=
  let truncated := decide ((offset + bytes.length) % 2 ^ 64 < metadata.len)
  match fromUtf8 bytes with
  | some text => ⟨path,text,metadata.len,metadata.modified,none,truncated⟩
  | none => ⟨path,encode bytes,metadata.len,metadata.modified,some base64,truncated⟩

def readFile (path : Text) (offset limit : Option Nat) (calls : Calls) : Except ApiError FileReadResponse := do
  let metadata ← calls.metadata.mapError metadataError
  if metadata.isDir then throw ⟨"IS_DIRECTORY","Path is a directory, use list=true",400⟩
  if offset.isNone ∧ limit.isNone ∧ maxSize < metadata.len % usize then
    throw ⟨"FILE_TOO_LARGE",s!"File too large ({metadata.len} bytes, max {maxSize})",400⟩
  calls.opened.mapError openError
  if 0 < offset.getD 0 then (calls.seek (offset.getD 0)).mapError ioError
  let n ← (calls.read (offset.getD 0) (toRead usize maxSize offset limit metadata.len)).mapError ioError
  return respond encode path metadata (offset.getD 0) (slice calls.content (offset.getD 0) n)

/-- The bytes that `put_file` writes for a content. -/
def putContent (content : Text) (encoding : Option Text) : Option Bytes :=
  if encoding = some base64 then decode content else some (Utf8.encode content)

/-- The file is there with its size, and a read fills some of the buffer: nothing only if the
    buffer is empty or the file ends. -/
structure Serves (calls : Calls) (modified : Option Text) : Prop where
  metadata : calls.metadata = .ok ⟨false,calls.content.length,modified⟩
  opened : calls.opened = .ok ()
  read : ∀ offset len, ∃ n, calls.read offset len = .ok n ∧ n ≤ len ∧ n ≤ calls.content.length - offset ∧
    (0 < len → offset < calls.content.length → 0 < n)

/-- The answer has exactly the bytes of the range, and tells whether the file goes on after it. -/
def Complete (offset limit : Option Nat) (content : Bytes) (answer : Except ApiError FileReadResponse) : Prop :=
  ∃ response, answer = .ok response ∧
    putContent decode response.content response.encoding = some (slice content (offset.getD 0) (readLimit maxSize limit)) ∧
    response.truncated = decide (offset.getD 0 + readLimit maxSize limit < content.length)

/-- The answer is what was put: the same bytes, and the same text unless the bytes that were put in
    base64 can be text. -/
def ReadsBack (content : Text) (encoding : Option Text) (answer : Except ApiError FileReadResponse) : Prop :=
  ∃ response, answer = .ok response ∧ response.truncated = false ∧
    putContent decode response.content response.encoding = putContent decode content encoding ∧
    (encoding ≠ some base64 → response.content = content ∧ response.encoding = none) ∧
    (response.encoding = some base64 → response.content = content)

variable {encode decode usize maxSize}

theorem fromUtf8_encode (text : Text) : fromUtf8 (Utf8.encode text) = some text := by
  simp [fromUtf8,Utf8.decodeFrom_encode]

theorem encode_of_fromUtf8 {bytes : Bytes} {text : Text} (valid : fromUtf8 bytes = some text) : Utf8.encode text = bytes := by
  simp only [fromUtf8] at valid
  split_ifs at valid with same
  cases valid; exact same

/-- An answer holds the bytes that it was made of. -/
theorem putContent_respond (decodes : ∀ bytes, decode (encode bytes) = some bytes) {path : Text} {metadata : Metadata}
    {offset : Nat} {bytes : Bytes} : putContent decode (respond encode path metadata offset bytes).content
      (respond encode path metadata offset bytes).encoding = some bytes := by
  unfold respond
  cases valid : fromUtf8 bytes with
  | some text => exact congrArg some (encode_of_fromUtf8 valid)
  | none => exact (if_pos rfl).trans (decodes bytes)

theorem respond_truncated {path : Text} {metadata : Metadata} {offset : Nat} {bytes : Bytes} :
    (respond encode path metadata offset bytes).truncated = decide ((offset + bytes.length) % 2 ^ 64 < metadata.len) := by
  unfold respond
  cases fromUtf8 bytes <;> rfl

/-- A file that is served is answered with the bytes that one read brings, once the seek succeeds. -/
theorem readFile_eq {path : Text} {offset limit : Option Nat} {calls : Calls} {modified : Option Text} {n : Nat}
    (serves : Serves calls modified) (word : maxSize < usize)
    (asked : offset.isSome ∨ limit.isSome ∨ calls.content.length ≤ maxSize)
    (sought : 0 < offset.getD 0 → calls.seek (offset.getD 0) = .ok ())
    (filled : calls.read (offset.getD 0) (toRead usize maxSize offset limit calls.content.length) = .ok n) :
    readFile encode usize maxSize path offset limit calls = .ok (respond encode path ⟨false,calls.content.length,modified⟩
      (offset.getD 0) (slice calls.content (offset.getD 0) n)) := by
  have small : ¬ (offset.isNone ∧ limit.isNone ∧ maxSize < calls.content.length % usize) := by
    rintro ⟨noOffset,noLimit,large⟩
    rcases asked with some_ | some_ | fits
    · rw [Option.isNone_iff_eq_none] at noOffset; rw [noOffset] at some_; cases some_
    · rw [Option.isNone_iff_eq_none] at noLimit; rw [noLimit] at some_; cases some_
    · rw [Nat.mod_eq_of_lt (by omega)] at large; omega
  simp only [readFile,serves.metadata,Except.mapError,bind,Except.bind,serves.opened,if_neg small,filled]
  by_cases more : 0 < offset.getD 0
  · simp only [if_pos more,sought more]; rfl
  · simp only [if_neg more]; rfl

theorem readFile_seek {path : Text} {offset limit : Option Nat} {calls : Calls} {modified : Option Text}
    (serves : Serves calls modified) {response : FileReadResponse}
    (answered : readFile encode usize maxSize path offset limit calls = .ok response) (more : 0 < offset.getD 0) :
    calls.seek (offset.getD 0) = .ok () := by
  cases sought : calls.seek (offset.getD 0) with
  | ok => rfl
  | error e =>
    simp only [readFile,serves.metadata,Except.mapError,bind,Except.bind,serves.opened,if_pos more,sought] at answered
    split_ifs at answered

theorem slice_length_min (content : Bytes) (offset len : Nat) :
    (slice content offset len).length = min len (content.length - offset) := by
  simp [slice]

theorem toRead_whole {len : Nat} (fits : len ≤ maxSize) (word : maxSize < usize) : toRead usize maxSize none none len = len := by
  have small : len % usize = len := Nat.mod_eq_of_lt (by omega)
  simp only [toRead,readLimit,Option.elim_none,Option.getD_none,Nat.sub_zero,small]
  omega

/-- What the one read must do for the answer to be the whole range: the seek succeeds, the rest of
    the file is counted right as far as it is asked for, and the read fills the buffer. -/
def OneReadSuffices (usize maxSize : Nat) (offset limit : Option Nat) (calls : Calls) : Prop :=
  let rest := calls.content.length - offset.getD 0
  let buffer := toRead usize maxSize offset limit calls.content.length
  (0 < offset.getD 0 → calls.seek (offset.getD 0) = .ok ()) ∧ (rest < usize ∨ readLimit maxSize limit ≤ rest % usize) ∧
    calls.read (offset.getD 0) buffer = .ok buffer

/-- A range comes back whole exactly when one read suffices for it. -/
theorem complete_iff (decodes : ∀ bytes, decode (encode bytes) = some bytes) {path : Text} {offset limit : Option Nat}
    {calls : Calls} {modified : Option Text} (serves : Serves calls modified) (word : maxSize < usize)
    (sized : calls.content.length < 2 ^ 64) (typed : offset.getD 0 < 2 ^ 64)
    (asked : offset.isSome ∨ limit.isSome ∨ calls.content.length ≤ maxSize) :
    Complete decode maxSize offset limit calls.content (readFile encode usize maxSize path offset limit calls) ↔
      OneReadSuffices usize maxSize offset limit calls := by
  obtain ⟨n,filled,fits,inside,_⟩ := serves.read (offset.getD 0) (toRead usize maxSize offset limit calls.content.length)
  have cut : (calls.content.length - offset.getD 0) % usize ≤ calls.content.length - offset.getD 0 := Nat.mod_le _ _
  constructor
  · rintro ⟨response,answered,bytes,_⟩
    have sought := readFile_seek serves answered
    rw [readFile_eq serves word asked sought filled] at answered
    cases answered
    rw [putContent_respond decodes] at bytes
    have lengths := congrArg List.length (Option.some.inj bytes)
    rw [slice_length_min,slice_length_min] at lengths
    have whole : n = toRead usize maxSize offset limit calls.content.length := by
      unfold toRead at fits ⊢
      omega
    refine ⟨sought,?_,by rw [← whole]; exact whole ▸ filled⟩
    by_cases small : calls.content.length - offset.getD 0 < usize
    · exact .inl small
    · -- what is left of the file does not fit a `usize`, so the limit is what ends the range
      have below : (calls.content.length - offset.getD 0) % usize < usize := Nat.mod_lt _ (by omega)
      unfold toRead at whole
      exact .inr (by omega)
  · rintro ⟨sought,counted,full⟩
    have range : toRead usize maxSize offset limit calls.content.length =
        min (readLimit maxSize limit) (calls.content.length - offset.getD 0) := by
      unfold toRead
      rcases counted with small | limited
      · rw [Nat.mod_eq_of_lt small]
      · omega
    refine ⟨_,readFile_eq serves word asked sought full,?_,?_⟩
    · rw [putContent_respond decodes,range,slice_min]
    · rw [respond_truncated,slice_length_min,range]
      change decide (_ % 2 ^ 64 < calls.content.length) = _
      apply decide_eq_decide.mpr
      by_cases before : offset.getD 0 < calls.content.length
      · rw [Nat.mod_eq_of_lt (by omega)]
        omega
      · rw [Nat.mod_eq_of_lt (by omega)]
        omega

/-- What was put and stored reads back exactly when one read brings all of it. -/
theorem readsBack_iff (decodes : ∀ bytes, decode (encode bytes) = some bytes)
    (canonical : ∀ text bytes, decode text = some bytes → encode bytes = text) {path content : Text}
    {encoding : Option Text} {calls : Calls} {modified : Option Text} (serves : Serves calls modified)
    (word : maxSize < usize) (sized : calls.content.length < 2 ^ 64)
    (put : putContent decode content encoding = some calls.content) (accepted : calls.content.length ≤ maxSize) :
    ReadsBack decode content encoding (readFile encode usize maxSize path none none calls) ↔
      calls.read 0 calls.content.length = .ok calls.content.length := by
  have buffer := toRead_whole accepted word
  obtain ⟨n,filled,fits,inside,_⟩ := serves.read 0 (toRead usize maxSize none none calls.content.length)
  have answer := @readFile_eq encode usize maxSize path none none calls modified n serves word (.inr (.inr accepted)) nofun filled
  rw [buffer] at filled
  rw [answer]
  unfold ReadsBack
  rw [put]
  constructor
  · rintro ⟨response,answered,_,bytes,_⟩
    cases answered
    rw [putContent_respond decodes] at bytes
    have lengths := congrArg List.length (Option.some.inj bytes)
    rw [slice_length_min,Option.getD_none] at lengths
    have whole : n = calls.content.length := by omega
    rw [filled,whole]
  · intro full
    cases filled.symm.trans full
    have all : slice calls.content 0 calls.content.length = calls.content := List.take_length
    rw [Option.getD_none,all]
    refine ⟨_,rfl,?_,putContent_respond decodes,?_,?_⟩
    · rw [respond_truncated]
      have end_ : ¬ (0 + calls.content.length) % 2 ^ 64 < calls.content.length := by
        rw [Nat.zero_add,Nat.mod_eq_of_lt sized]; exact Nat.lt_irrefl _
      exact decide_eq_false end_
    · intro plain
      have bytes : Utf8.encode content = calls.content := Option.some.inj ((if_neg plain).symm.trans put)
      rw [← bytes]
      simp only [respond,fromUtf8_encode,and_self]
    · intro binary
      unfold respond at binary ⊢
      cases valid : fromUtf8 calls.content with
      | some text => rw [valid] at binary; cases binary
      | none =>
        refine canonical content calls.content ?_
        by_cases asked : encoding = some base64
        · exact (if_pos asked).symm.trans put
        · -- a text that was put is UTF-8
          have bytes : Utf8.encode content = calls.content := Option.some.inj ((if_neg asked).symm.trans put)
          rw [← bytes,fromUtf8_encode] at valid
          cases valid

end engine

/-- Reads are complete, and what was put reads back, exactly when the one read call suffices. -/
theorem reads_iff {encode : Bytes → Text} {decode : Text → Option Bytes}
    (decodes : ∀ bytes, decode (encode bytes) = some bytes)
    (canonical : ∀ text bytes, decode text = some bytes → encode bytes = text) {usize maxSize : Nat} {path : Text}
    {calls : Calls} {modified : Option Text} (serves : Serves calls modified) (word : maxSize < usize)
    (sized : calls.content.length < 2 ^ 64) :
    (∀ offset limit, offset.getD 0 < 2 ^ 64 → offset.isSome ∨ limit.isSome ∨ calls.content.length ≤ maxSize →
      (Complete decode maxSize offset limit calls.content (readFile encode usize maxSize path offset limit calls) ↔
        OneReadSuffices usize maxSize offset limit calls)) ∧
    ∀ content encoding, putContent decode content encoding = some calls.content → calls.content.length ≤ maxSize →
      (ReadsBack decode content encoding (readFile encode usize maxSize path none none calls) ↔
        calls.read 0 calls.content.length = .ok calls.content.length) :=
  ⟨fun _ _ typed asked => complete_iff decodes serves word sized typed asked,
    fun _ _ put accepted => readsBack_iff decodes canonical serves word sized put accepted⟩

/-- A file on a system whose reads bring at most so many bytes at once. -/
def capped (content : Bytes) (cap : Nat) : Calls where
  content := content
  metadata := .ok ⟨false,content.length,none⟩
  opened := .ok ()
  seek offset := if offset < 2 ^ 63 then .ok () else .error ⟨.other,"Invalid argument (os error 22)"⟩
  read offset len := .ok (min (min len cap) (content.length - offset))

theorem capped_serves (content : Bytes) {cap : Nat} (some_ : 0 < cap) : Serves (capped content cap) none where
  metadata := rfl
  opened := rfl
  read offset len := by
    refine ⟨min (min len cap) (content.length - offset),rfl,by omega,Nat.min_le_right _ _,?_⟩
    intro room before
    change offset < content.length at before
    omega

/-- A file that is longer than what a read brings at once does not come back whole. -/
theorem not_complete_of_capped {encode : Bytes → Text} {decode : Text → Option Bytes}
    (decodes : ∀ bytes, decode (encode bytes) = some bytes) {usize maxSize : Nat} {path : Text} {content : Bytes} {cap : Nat}
    (some_ : 0 < cap) (long : cap < content.length) (fits : content.length ≤ maxSize) (word : maxSize < usize)
    (sized : content.length < 2 ^ 64) : ¬ Complete decode maxSize none none content
      (readFile encode usize maxSize path none none (capped content cap)) := by
  intro complete
  have typed : (none : Option Nat).getD 0 < 2 ^ 64 := Nat.two_pow_pos 64
  have suffices_ := (complete_iff decodes (capped_serves content some_) word sized typed (.inr (.inr fits))).mp complete
  have full := suffices_.2.2
  have buffer := toRead_whole fits word
  simp only [capped,buffer,Option.getD_none,Except.ok.injEq] at full
  omega

theorem reads_iff_binary : ReadsBack (Base64.decode Base64.standard) ['/','2','E','='] (some base64)
    (readFile (Base64.encode Base64.standard) (2 ^ 32) 52428800 ['/','f'] none none (capped [255,97] (2 ^ 21))) := by
  have reads := @reads_iff _ _ (Base64.decode_encode Base64.standard) (fun _ _ => Base64.encode_decode Base64.standard)
    (2 ^ 32) 52428800 ['/','f'] _ _ (capped_serves [255,97] (Nat.two_pow_pos 21)) (by decide) (by decide)
  exact (reads.2 ['/','2','E','='] (some base64) (by decide) (by decide)).mpr rfl

/-- One read brings 2 MiB of a file that is a byte longer. -/
theorem read_capped : ¬ Complete (Base64.decode Base64.standard) 52428800 none none (List.replicate (2 ^ 21 + 1) 97)
    (readFile (Base64.encode Base64.standard) (2 ^ 32) 52428800 ['/','f'] none none
      (capped (List.replicate (2 ^ 21 + 1) 97) (2 ^ 21))) :=
  not_complete_of_capped (Base64.decode_encode Base64.standard) (Nat.two_pow_pos 21)
    (by rw [List.length_replicate]; decide) (by rw [List.length_replicate]; decide) (by decide)
    (by rw [List.length_replicate]; decide)

end Sctl.FileReads
