import Mathlib.Data.List.Basic
import Sctl.Files

/-!
The data of the chunked transfer protocol (`gawdxfer/types.rs`) and the pure
helpers of its manager: chunk counts, path validation, disk space, errors.
Sizes and counters are natural numbers; where the source casts or lets a
machine integer wrap, the modulus is written out. Times are nanoseconds.
-/
namespace Sctl.TransferTypes
open Sctl.Files

inductive Direction
  | upload
  | download
deriving DecidableEq

inductive Phase
  | init
  | transferring
  | paused
  | verifying
  | complete
  | failed (reason : String)
  | aborted
deriving DecidableEq

def Phase.asStr : Phase → String
  | .init => "init"
  | .transferring => "transferring"
  | .paused => "paused"
  | .verifying => "verifying"
  | .complete => "complete"
  | .failed _ => "failed"
  | .aborted => "aborted"

/-- The phases that count against `max_concurrent`. -/
def Phase.active : Phase → Bool
  | .init => true
  | .transferring => true
  | _ => false

/-- The phases that end a transfer. -/
def Phase.terminal : Phase → Bool
  | .complete => true
  | .failed _ => true
  | .aborted => true
  | _ => false

/-- The phases that `sweep_stale` removes. -/
def Phase.sweepable : Phase → Bool
  | .paused => true
  | phase => phase.terminal

/-- An absolute path as its components, which is how `PathBuf` compares paths. -/
abbrev PathBuf := List String

structure TransferSpec where
  transferId : String
  direction : Direction
  path : PathBuf
  filename : String
  fileSize : Nat
  fileHash : String
  chunkSize : Nat
  totalChunks : Nat
  mode : Option String
  createdAt : Nat
  sourceMtime : Option Nat
deriving DecidableEq

structure TransferProgress where
  phase : Phase
  chunksDone : List Bool
  bytesTransferred : Nat
  lastActivity : Nat
  tempPath : PathBuf
  errorCount : Nat
deriving DecidableEq

structure Transfer where
  spec : TransferSpec
  progress : TransferProgress
deriving DecidableEq

structure InitUpload where
  path : String
  filename : String
  fileSize : Nat
  fileHash : String
  chunkSize : Nat
  totalChunks : Nat
  mode : Option String
deriving DecidableEq

structure InitUploadResult where
  transferId : String
  chunkSize : Nat
  totalChunks : Nat
deriving DecidableEq

structure InitDownloadResult where
  transferId : String
  fileSize : Nat
  fileHash : String
  chunkSize : Nat
  totalChunks : Nat
  filename : String
deriving DecidableEq

structure ChunkHeader where
  transferId : String
  chunkIndex : Nat
  chunkHash : String
deriving DecidableEq

structure ChunkAck where
  transferId : String
  chunkIndex : Nat
  ok : Bool
  error : Option String
deriving DecidableEq

structure ResumeResult where
  transferId : String
  direction : Direction
  chunksReceived : List Nat
  totalChunks : Nat
  chunkSize : Nat
  fileSize : Nat
  fileHash : String
deriving DecidableEq

structure TransferError where
  transferId : String
  code : String
  message : String
  recoverable : Bool
deriving DecidableEq

structure TransferConfig where
  maxConcurrent : Nat
  chunkSize : Nat
  maxFileSize : Nat
  staleTimeoutSecs : Nat
  maxChunkRetries : Nat

def TransferConfig.new (maxConcurrent chunkSize maxFileSize staleTimeoutSecs : Nat) : TransferConfig :=
  ⟨maxConcurrent,chunkSize,maxFileSize,staleTimeoutSecs,3⟩

/-! ### Errors -/

def makeError (transferId code message : String) (recoverable : Bool) : TransferError :=
  ⟨transferId,code,message,recoverable⟩

inductive ErrorKind
  | notFound
  | permissionDenied
  | other
deriving DecidableEq

/-- An error of the operating system: its kind and its text. -/
structure IoError where
  kind : ErrorKind
  text : String
deriving DecidableEq

def IoError.missing : IoError := ⟨.notFound,"No such file or directory (os error 2)"⟩
def IoError.isDirectory : IoError := ⟨.other,"Is a directory (os error 21)"⟩
def IoError.shortRead : IoError := ⟨.other,"early eof"⟩

/-- The reply to a failed `metadata`: `init_download` and `init_upload` differ
    in the text for a missing path only. -/
def statError (notFoundText : String) (e : IoError) : TransferError :=
  match e.kind with
  | .notFound => makeError "" "FILE_NOT_FOUND" s!"{notFoundText}: {e.text}" false
  | .permissionDenied => makeError "" "PERMISSION_DENIED" s!"Permission denied: {e.text}" false
  | .other => makeError "" "IO_ERROR" s!"I/O error: {e.text}" false

def notFoundError (transferId : String) : TransferError :=
  makeError transferId "TRANSFER_NOT_FOUND" "Transfer not found" false

def ioError (transferId what : String) (e : IoError) : TransferError :=
  makeError transferId "IO_ERROR" s!"{what}: {e.text}" false

/-! ### Paths -/

/-- `Path::components` of an absolute path: empty parts and `.` disappear. -/
def components (path : String) : List String :=
  ((path.toList.splitOn '/').map String.ofList).filter fun part => part ≠ "" && part ≠ "."

/-- `PathBuf::join` with a name that has no separator. -/
def join (path : PathBuf) (name : String) : PathBuf := if name = "." then path else path ++ [name]

def tempName (transferId : String) : String := s!".gx_tmp_{transferId}"

def validateTransferPath (path : String) : Except TransferError PathBuf :=
  if path.toList.head? ≠ some '/' then .error (makeError "" "INVALID_PATH" "Path must be absolute" false)
  else if Char.ofNat 0 ∈ path.toList then .error (makeError "" "INVALID_PATH" "Path contains null bytes" false)
  else if ".." ∈ components path then .error (makeError "" "INVALID_PATH" "Path traversal (..) not allowed" false)
  else .ok (components path)

/-- The file name test of `init_upload`. -/
def invalidFilename (filename : String) : Bool :=
  filename.isEmpty || '/' ∈ filename.toList || '\\' ∈ filename.toList || filename = ".."

/-- `Path::file_name`, with the name a download of `/` falls back to. -/
def downloadName (path : PathBuf) : String := path.getLast?.getD "download"

theorem join_injective {p q : PathBuf} {a b : String} (plainA : a ≠ ".") (plainB : b ≠ ".")
    (same : join p a = join q b) : p = q ∧ a = b := by
  simp only [join,plainA,plainB,if_false] at same
  have parts := List.append_inj' same rfl
  exact ⟨parts.1,by simpa using parts.2⟩

theorem tempName_toList (a : String) : (tempName a).toList = ".gx_tmp_".toList ++ a.toList := by
  simp [tempName,toString]

theorem tempName_injective {a b : String} (same : tempName a = tempName b) : a = b := by
  have chars := congrArg String.toList same
  rw [tempName_toList,tempName_toList] at chars
  exact String.toList_inj.mp (List.append_cancel_left chars)

theorem tempName_ne_dot (a : String) : tempName a ≠ "." := by
  intro same
  have chars := congrArg (fun s => s.toList.length) same
  simp [tempName_toList] at chars

/-- The id can be read off the path of a temporary file. -/
theorem join_tempName_injective {p q : PathBuf} {a b : String} (same : join p (tempName a) = join q (tempName b)) :
    a = b :=
  tempName_injective (join_injective (tempName_ne_dot a) (tempName_ne_dot b) same).2

/-! ### Sizes -/

/-- `u64::div_ceil`. -/
def divCeil (a b : Nat) : Nat := if 0 < a % b then a / b + 1 else a / b

/-- The chunk count, cast to `u32`; `none` is the panic of a division by zero. -/
def computeChunks (fileSize chunkSize : Nat) : Option Nat :=
  if fileSize = 0 then some 1
  else if chunkSize = 0 then none
  else some (divCeil fileSize chunkSize % 2 ^ 32)

/-- The disk space test; `available` is `none` when `statvfs` fails. -/
def checkDiskSpace (available : Option Nat) (requiredBytes : Nat) : Except TransferError Unit :=
  match available with
  | none => .ok ()
  | some free =>
    let needed := (requiredBytes + requiredBytes / 10) % 2 ^ 64
    if free < needed then
      .error (makeError "" "DISK_FULL"
        s!"Insufficient disk space: {free} bytes available, {needed} bytes needed" false)
    else .ok ()

/-- What chunk `index` of a file must hold: `serve_chunk` reads this many bytes. -/
def chunkLen (fileSize chunkSize index : Nat) : Nat := min chunkSize (fileSize - index * chunkSize)

theorem le_divCeil_mul (a : Nat) {b : Nat} (pos : 0 < b) : a ≤ divCeil a b * b := by
  have whole := Nat.div_add_mod a b
  have small := Nat.mod_lt a pos
  rw [Nat.mul_comm] at whole
  unfold divCeil
  split
  · rw [Nat.succ_mul]; omega
  · omega

theorem mul_lt_of_lt_divCeil {a b i : Nat} (below : i < divCeil a b) : i * b < a := by
  have whole := Nat.div_add_mod a b
  rw [Nat.mul_comm] at whole
  unfold divCeil at below
  split at below
  · have upto : i * b ≤ a / b * b := Nat.mul_le_mul_right b (by omega)
    omega
  · have upto : (i + 1) * b ≤ a / b * b := Nat.mul_le_mul_right b below
    have pos : 0 < b := by
      rcases Nat.eq_zero_or_pos b with zero | pos
      · subst zero; simp at below
      · exact pos
    rw [Nat.succ_mul] at upto; omega

/-- The chunks of a file cover it, and each lies inside it. -/
structure Covers (fileSize chunkSize totalChunks : Nat) : Prop where
  whole : fileSize ≤ totalChunks * chunkSize
  inside : ∀ i < totalChunks, i * chunkSize + chunkLen fileSize chunkSize i ≤ fileSize

/-- A chunk count that fits its machine integer is right. -/
theorem computeChunks_covers {fileSize chunkSize : Nat} (pos : 0 < chunkSize)
    (fits : divCeil fileSize chunkSize < 2 ^ 32) :
    Covers fileSize chunkSize ((computeChunks fileSize chunkSize).getD 0) := by
  by_cases empty : fileSize = 0
  · subst empty
    refine ⟨Nat.zero_le _,?_⟩
    intro i below
    have first : i = 0 := by simpa [computeChunks] using below
    subst first; simp [chunkLen]
  · have nonzero : chunkSize ≠ 0 := by omega
    have count : (computeChunks fileSize chunkSize).getD 0 = divCeil fileSize chunkSize := by
      simp only [computeChunks,empty,nonzero,if_false,Option.getD_some]
      exact Nat.mod_eq_of_lt fits
    rw [count]
    refine ⟨le_divCeil_mul fileSize pos,?_⟩
    intro i below
    have starts := mul_lt_of_lt_divCeil below
    unfold chunkLen; omega

end Sctl.TransferTypes
