import Sctl.TransferRetries
import Sctl.WebTransfers

/-!
Downloads of the web client. While the source stays as it is and no request
fails, a tracker that has asked for `i` chunks holds the first `i` chunks of the
source, so what it assembles is as much of the file as the manager counted chunks.
-/
namespace Sctl.WebDownloads
open Files TransferTypes TransferManager TransferSteps TransferBooks ChunkArithmetic WebTransfers Dialogues Runs

/-- The source of a download is there, with its content. -/
def Source (path : PathBuf) (ino : Nat) (content : Bytes) (s : State) : Prop :=
  s.manager.disk.names path = some ino ∧ (s.manager.disk.files ino).content = content

section
variable {cfg : TransferConfig} {sha256 : Bytes → String} {s t : State} {env : Env} {path : PathBuf} {ino : Nat} {content : Bytes}

theorem Source.file (source : Source path ino content s) : s.manager.disk.file? path = some (s.manager.disk.files ino) := by
  simp [Disk.file?,source.1]

theorem initDownloadCheck_ok {text : String} {chunkSize : Option Nat} {plan : DownloadPlan}
    (checked : initDownloadCheck cfg env s.manager text chunkSize = .ok plan) : validateTransferPath text = .ok plan.path ∧
      (∃ file, s.manager.disk.file? plan.path = some file ∧ plan.fileSize = file.content.length) ∧
      plan.chunkSize = chunkSize.getD cfg.chunkSize := by
  unfold initDownloadCheck at checked
  simp only [bind,Except.bind,pure,Except.pure,throw,throwThe,MonadExceptOf.throw] at checked
  split at checked
  · cases checked
  · next validated valid =>
    split at checked
    · cases checked
    · split at checked
      · cases checked
      · next file found =>
        split_ifs at checked
        cases checked
        rw [TransferRetries.mapError_ok] at found
        refine ⟨valid,⟨file,?_,rfl⟩,rfl⟩
        unfold statFile at found
        split at found
        · cases found
        · split at found
          · next there =>
            cases found
            exact there
          · cases found

end

/-! ### What a download has got to -/

variable (sha256 : Bytes → String)

/-- The rest of a download: the chunks from `i` on, and the whole file against its hash. -/
def fetch (id fileHash : String) (total i : Nat) (received : Bytes) : Web (Option Bytes) :=
  downloadFrom sha256 id i received (total - i) >>= assemble sha256 fileHash

/-- The manager's download of the source. -/
structure Serves (spec : TransferSpec) (path : PathBuf) (content : Bytes) : Prop where
  direction : spec.direction = .download
  path : spec.path = path
  fileSize : spec.fileSize = content.length
  fileHash : spec.fileHash = sha256 content
  chunkSize : spec.chunkSize = defaultChunkSize
  counted : computeChunks content.length defaultChunkSize = some spec.totalChunks

/-- The tracker has the first `i` chunks of the source and is about to ask for the next. -/
structure Fetched (s : State) (client : Web (Option Bytes)) (spec : TransferSpec) (path : PathBuf) (content : Bytes) (i : Nat) : Prop where
  serves : Serves sha256 spec path content
  admitted : .admitted spec ∈ s.trace
  upto : i ≤ spec.totalChunks
  client : client = fetch sha256 spec.transferId spec.fileHash spec.totalChunks i (content.take (i * defaultChunkSize))

/-- What a call of the tracker has got to. -/
inductive Serving (s : State) (client : Web (Option Bytes)) (text : String) (path : PathBuf) (ino : Nat) (content : Bytes) : Call → Prop
  | hashing {plan : DownloadPlan} : client = download sha256 text → plan.path = path → plan.fileSize = content.length →
      plan.chunkSize = defaultChunkSize → Serving s client text path ino content (.downloadHash plan)
  | inserting {transfer : Transfer} : client = download sha256 text → Serves sha256 transfer.spec path content →
      Serving s client text path ino content (.downloadInsert transfer)
  | opening {spec : TransferSpec} {i : Nat} : Fetched sha256 s client spec path content i → i < spec.totalChunks →
      Serving s client text path ino content (.serveOpen spec.transferId i
        ⟨i * defaultChunkSize,chunkLen content.length defaultChunkSize i,path⟩)
  | reading {spec : TransferSpec} {i : Nat} : Fetched sha256 s client spec path content i → i < spec.totalChunks →
      Serving s client text path ino content (.serveRead spec.transferId i
        ⟨i * defaultChunkSize,chunkLen content.length defaultChunkSize i,path⟩ ino)
  | marking {spec : TransferSpec} {i : Nat} : Fetched sha256 s client spec path content i → i < spec.totalChunks →
      Serving s client text path ino content (.serveProgress spec.transferId i
        (slice content (i * defaultChunkSize) (chunkLen content.length defaultChunkSize i)))

/-- How far a download is, as long as no request has failed. -/
inductive Stage (text : String) (path : PathBuf) (ino : Nat) (content : Bytes) (c : Nat) (x : Session (Option Bytes)) : Prop
  | failed : x.failed = true → Stage text path ino content c x
  | begun : x.client = download sha256 text → x.waiting = false → Stage text path ino content c x
  | fetched {spec : TransferSpec} {i : Nat} : Fetched sha256 x.server x.client spec path content i → x.waiting = false →
      Stage text path ino content c x
  | serving {call : Call} : x.waiting = true → x.server.calls c = some call →
      Serving sha256 x.server x.client text path ino content call → Stage text path ino content c x

section
variable {sha256 : Bytes → String} {cfg : TransferConfig} {s t : State} {env : Env} {text : String} {path : PathBuf} {ino c : Nat} {content : Bytes}

/-- While chunks are left the tracker asks for the next one, and takes it in. -/
theorem fetch_asks (sha256 : Bytes → String) (id fileHash : String) {total i : Nat} (left : i < total) (received : Bytes) :
    ∃ next, fetch sha256 id fileHash total i received = .ask (.getChunk id i) next ∧
      ∀ header data, sha256 data = header.chunkHash → next (.chunk header data) = fetch sha256 id fileHash total (i + 1) (received ++ data) := by
  obtain ⟨rest,split⟩ : ∃ rest, total - i = rest + 1 := ⟨total - i - 1,by omega⟩
  have later : total - (i + 1) = rest := by omega
  refine ⟨_,by rw [fetch,split]; rfl,?_⟩
  intro header data same
  rw [fetch,later]
  show ((if sha256 data ≠ header.chunkHash then downloadChunk sha256 id i 2 else .done (some data)) >>= _) >>= _ = _
  rw [if_neg (by simp [same])]
  rfl

theorem fetch_done (id fileHash : String) (total : Nat) (received : Bytes) :
    fetch sha256 id fileHash total total received = .done (if sha256 received ≠ fileHash then none else some received) := by
  rw [fetch,Nat.sub_self]
  show (if sha256 received ≠ fileHash then (.done none : Web (Option Bytes)) else .done (some received)) = _
  split <;> rfl

theorem download_asks (sha256 : Bytes → String) (text : String) : ∃ next, download sha256 text = .ask (.initDownload text defaultChunkSize) next ∧
    ∀ init, next (.downloadStarted init) = fetch sha256 init.transferId init.fileHash init.totalChunks 0 [] :=
  ⟨_,rfl,fun _ => rfl⟩

variable {client : Web (Option Bytes)} {spec : TransferSpec} {i : Nat} {a : Action}

theorem Fetched.grow (stepped : TransferSteps.step cfg sha256 s a = some t) (fetched : Fetched sha256 s client spec path content i) :
    Fetched sha256 t client spec path content i :=
  { fetched with admitted := trace_grows stepped fetched.admitted }

theorem Fetched.asks (fetched : Fetched sha256 s client spec path content i) (left : i < spec.totalChunks) :
    ∃ next, client = .ask (.getChunk spec.transferId i) next ∧ ∀ header data, sha256 data = header.chunkHash →
      next (.chunk header data) = fetch sha256 spec.transferId spec.fileHash spec.totalChunks (i + 1)
        (content.take (i * defaultChunkSize) ++ data) := by
  obtain ⟨next,asks,takes⟩ := fetch_asks sha256 spec.transferId spec.fileHash left (content.take (i * defaultChunkSize))
  exact ⟨next,fetched.client.trans asks,takes⟩

theorem Serving.grow {call : Call} (stepped : TransferSteps.step cfg sha256 s a = some t)
    (serving : Serving sha256 s client text path ino content call) : Serving sha256 t client text path ino content call := by
  cases serving with
  | hashing asks at_ size chunk => exact .hashing asks at_ size chunk
  | inserting asks serves => exact .inserting asks serves
  | opening fetched left => exact .opening (fetched.grow stepped) left
  | reading fetched left => exact .reading (fetched.grow stepped) left
  | marking fetched left => exact .marking (fetched.grow stepped) left

/-- What the manager reads off its table for a chunk of the download. -/
theorem serve_context {ctx : ServeContext} (books : Books s) (fetched : Fetched sha256 s client spec path content i)
    (checked : serveCheck env s.manager spec.transferId i = .ok ctx) :
    ctx = ⟨i * defaultChunkSize,chunkLen content.length defaultChunkSize i,path⟩ := by
  obtain ⟨transfer,found,_,_,_,_,rfl⟩ := serveCheck_ok checked
  obtain ⟨spec',admitted,belongs⟩ := books.table _ _ found
  cases books.admittedOnce spec' spec admitted fetched.admitted belongs.key
  rw [belongs.same]
  show (⟨i * spec.chunkSize,chunkLen spec.fileSize spec.chunkSize i,spec.path⟩ : ServeContext) = _
  rw [fetched.serves.chunkSize,fetched.serves.fileSize,fetched.serves.path]

/-- The tracker's own call goes on by a section. -/
theorem serving_step {x : Session (Option Bytes)} {call : Call} (source : Source path ino content x.server)
    (serving : Serving sha256 x.server x.client text path ino content call)
    (advanced : advance cfg sha256 x.server env c call = some t) : Stage sha256 text path ino content c (x.hear c t) := by
  have answered {asked : Request} {next : Reply → Web (Option Bytes)} {s : State} {r : Reply} (asks : x.client = .ask asked next)
      (fails : Reply.fails r = true) : Stage sha256 text path ino content c (x.hear c (s.reply c r)) := by
    rw [Session.hear_reply asks]
    exact .failed (by simp [fails])
  have parked {s : State} {call : Call} (serving : Serving sha256 (s.park c call) x.client text path ino content call) :
      Stage sha256 text path ino content c (x.hear c (s.park c call)) := by
    rw [Session.hear_park]
    exact .serving rfl (by simp) serving
  cases serving with
  | hashing asks at_ size chunk =>
    obtain ⟨next,starts,_⟩ := download_asks sha256 text
    rw [advance,size,chunk,at_] at advanced
    split at advanced
    · cases advanced
    · next total counted =>
      split at advanced
      · cases advanced
        exact answered (asks.trans starts) rfl
      · next fileHash hashed =>
        split_ifs at advanced
        cases advanced
        refine parked (.inserting asks ⟨rfl,at_,size,?_,chunk,counted⟩)
        show fileHash = _
        unfold hashFile at hashed
        split at hashed
        · cases hashed
        · rw [source.file] at hashed
          cases hashed
          rw [source.2]
  | @inserting transfer asks serves =>
    obtain ⟨next,starts,goesOn⟩ := download_asks sha256 text
    cases advanced
    rw [Session.hear_reply (asks.trans starts)]
    refine .fetched (i := 0) ⟨serves,by simp,Nat.zero_le _,?_⟩ rfl
    rw [goesOn,Nat.zero_mul,List.take_zero]
  | opening fetched left =>
    obtain ⟨next,asks,_⟩ := fetched.asks left
    simp only [advance] at advanced
    split at advanced
    · obtain rfl := Option.some.inj advanced
      exact answered asks rfl
    · next opened =>
      obtain rfl := Option.some.inj advanced
      rw [serveOpen,TransferRetries.mapError_ok,TransferRetries.openExisting_ok,source.1] at opened
      cases opened.2
      exact parked (.reading { fetched with } left)
  | @reading spec i fetched left =>
    obtain ⟨next,asks,_⟩ := fetched.asks left
    simp only [advance] at advanced
    split at advanced
    · obtain rfl := Option.some.inj advanced
      exact answered asks rfl
    · next read =>
      obtain rfl := Option.some.inj advanced
      obtain ⟨_,_,rfl,_⟩ := TransferRetries.serveRead_length read
      rw [source.2]
      exact parked (.marking { fetched with } left)
  | @marking spec i fetched left =>
    obtain ⟨next,asks,takes⟩ := fetched.asks left
    obtain rfl := Option.some.inj advanced
    rw [Session.hear_reply asks]
    refine .fetched (i := i + 1) ⟨fetched.serves,by simpa using fetched.admitted,left,?_⟩ rfl
    show next _ = _
    rw [takes _ _ rfl,slice_chunkLen]
    rw [Nat.succ_mul,List.take_add]
    rfl

/-- The tracker sends its next request. -/
theorem asking_step {x : Session (Option Bytes)} {asked : Request} {next : Reply → Web (Option Bytes)} (books : Books x.server)
    (source : Source path ino content x.server) (valid : validateTransferPath text = .ok path) (asks : x.client = .ask asked next)
    (stage : x.client = download sha256 text ∨ ∃ spec i, Fetched sha256 x.server x.client spec path content i)
    (stepped : TransferSteps.step cfg sha256 x.server ⟨env,asked.move c⟩ = some t) : Stage sha256 text path ino content c (x.hear c t) := by
  rcases stage with begun | ⟨spec,i,fetched⟩
  · obtain ⟨next',starts,_⟩ := download_asks sha256 text
    have same := asks.symm.trans (begun.trans starts)
    cases same
    simp only [Request.move,if_neg chunkSize_pos.ne',TransferSteps.step] at stepped
    split_ifs at stepped
    split at stepped
    · cases stepped
      rw [Session.hear_reply asks]
      exact .failed (by simp [Reply.fails])
    · next plan checked =>
      obtain rfl := Option.some.inj stepped
      obtain ⟨there,⟨file,found,size⟩,chunk⟩ := initDownloadCheck_ok checked
      have at_ : path = plan.path := Except.ok.inj (valid.symm.trans there)
      rw [Session.hear_park]
      refine .serving rfl (by simp) (.hashing begun at_.symm ?_ chunk)
      rw [← at_,source.file] at found
      cases found
      rw [size,source.2]
  · have left : i < spec.totalChunks := by
      by_contra last
      obtain rfl : i = spec.totalChunks := Nat.le_antisymm fetched.upto (Nat.not_lt.mp last)
      rw [fetched.client,fetch_done] at asks
      cases asks
    obtain ⟨next',starts,_⟩ := fetched.asks left
    cases asks.symm.trans starts
    simp only [Request.move,TransferSteps.step] at stepped
    split_ifs at stepped
    split at stepped
    · cases stepped
      rw [Session.hear_reply asks]
      exact .failed (by simp [Reply.fails])
    · next ctx checked =>
      obtain rfl := Option.some.inj stepped
      obtain rfl := serve_context books fetched checked
      rw [Session.hear_park]
      exact .serving rfl (by simp) (.opening { fetched with } left)

theorem stage_step {x y : Session (Option Bytes)} {act : Act} (books : Books x.server) (source : Source path ino content x.server)
    (valid : validateTransferPath text = .ok path) (stage : Stage sha256 text path ino content c x)
    (stepped : x.step cfg sha256 c act = some y) : Stage sha256 text path ino content c y := by
  by_cases failed : x.failed = true
  · exact .failed (Session.step_failed failed stepped)
  cases Session.moved stepped with
  | @other a t apart went same =>
    subst same
    cases stage with
    | failed gone => exact absurd gone failed
    | begun asks idle => exact .begun asks idle
    | fetched fetched idle => exact .fetched (fetched.grow went) idle
    | serving waiting there serving => exact .serving waiting ((step_calls_other went apart).trans there) (serving.grow went)
  | @goes a t waiting slot went same =>
    subst same
    cases stage with
    | failed gone => exact absurd gone failed
    | begun _ idle => exact absurd (waiting.symm.trans idle) (by decide)
    | fetched _ idle => exact absurd (waiting.symm.trans idle) (by decide)
    | serving _ there serving => exact serving_step source serving (occupied_advance went slot there).2
  | @asks env asked next t asks idle went same =>
    subst same
    cases stage with
    | failed gone => exact absurd gone failed
    | begun begun _ => exact asking_step books source valid asks (.inl begun) went
    | fetched fetched _ => exact asking_step books source valid asks (.inr ⟨_,_,fetched⟩) went
    | serving waiting _ _ => exact absurd (waiting.symm.trans idle) (by decide)

/-- What a download ends with: the chunks that the manager counted, if their hash is the file's. -/
theorem stage_done {x : Session (Option Bytes)} {value : Option Bytes} (stage : Stage sha256 text path ino content c x)
    (fine : x.failed = false) (ended : x.client = .done value) : ∃ total, computeChunks content.length defaultChunkSize = some total ∧
      value = if sha256 (content.take (total * defaultChunkSize)) ≠ sha256 content then none
        else some (content.take (total * defaultChunkSize)) := by
  cases stage with
  | failed gone => exact absurd (fine.symm.trans gone) (by decide)
  | begun asks _ =>
    obtain ⟨next,starts,_⟩ := download_asks sha256 text
    cases ended.symm.trans (asks.trans starts)
  | @fetched spec i fetched _ =>
    have last : i = spec.totalChunks := by
      refine Nat.le_antisymm fetched.upto (Nat.not_lt.mp fun left => ?_)
      obtain ⟨next,asks,_⟩ := fetched.asks left
      cases ended.symm.trans asks
    subst last
    have found := ended.symm.trans fetched.client
    rw [fetch_done,fetched.serves.fileHash] at found
    exact ⟨_,fetched.serves.counted,Dialogue.done.inj found⟩
  | serving _ _ serving =>
    cases serving with
    | hashing asks | inserting asks =>
      obtain ⟨next,starts,_⟩ := download_asks sha256 text
      cases ended.symm.trans (asks.trans starts)
    | opening fetched left | reading fetched left | marking fetched left =>
      obtain ⟨next,asks,_⟩ := fetched.asks left
      cases ended.symm.trans asks

/-- The counted chunks are the whole file exactly where their number fits a `u32`. -/
theorem take_counted_iff {total : Nat} (counted : computeChunks content.length defaultChunkSize = some total) :
    content.take (total * defaultChunkSize) = content ↔ divCeil content.length defaultChunkSize < 2 ^ 32 := by
  rw [List.take_eq_self_iff]
  by_cases empty : content.length = 0
  · rw [empty]
    simp [divCeil]
  · rw [computeChunks,if_neg empty,if_neg chunkSize_pos.ne'] at counted
    obtain rfl := Option.some.inj counted
    constructor
    · intro whole
      by_contra large
      have below : divCeil content.length defaultChunkSize % 2 ^ 32 < divCeil content.length defaultChunkSize :=
        lt_of_lt_of_le (Nat.mod_lt _ (by decide)) (Nat.not_lt.mp large)
      exact absurd whole (Nat.not_le.mpr (mul_lt_of_lt_divCeil below))
    · intro fits
      rw [Nat.mod_eq_of_lt fits]
      exact le_divCeil_mul _ chunkSize_pos

/-- A download that ends returns the file exactly where the number of its chunks fits a `u32`. -/
theorem done_iff {x : Session (Option Bytes)} {value : Option Bytes} (stage : Stage sha256 text path ino content c x)
    (fine : x.failed = false) (ended : x.client = .done value) :
    value = some content ↔ divCeil content.length defaultChunkSize < 2 ^ 32 := by
  obtain ⟨total,counted,rfl⟩ := stage_done stage fine ended
  rw [← take_counted_iff counted]
  constructor
  · intro whole
    split_ifs at whole
    exact Option.some.inj whole
  · intro whole
    rw [whole,if_neg (by simp)]

theorem download_iff {s : State} {as : List Act} (books : Books s) (valid : validateTransferPath text = .ok path)
    (unmodified : Along (Session.step cfg sha256 c) (fun x _ => Source path ino content x.server) (Session.begin s (download sha256 text)) as) :
    Always (Session.step cfg sha256 c) (fun x => x.failed = false → ∀ value, x.client = .done value →
      (value = some content ↔ divCeil content.length defaultChunkSize < 2 ^ 32)) (Session.begin s (download sha256 text)) as := by
  have keeps (x : Session (Option Bytes)) (act : Act) (y : Session (Option Bytes))
      (kept : Books x.server ∧ Stage sha256 text path ino content c x) (source : Source path ino content x.server)
      (stepped : x.step cfg sha256 c act = some y) : Books y.server ∧ Stage sha256 text path ino content c y := by
    obtain ⟨a,went⟩ := Session.step_server stepped
    exact ⟨books_step kept.1 went,stage_step kept.1 source valid kept.2 stepped⟩
  exact always_of_keeps keeps (fun x kept fine value ended => done_iff kept.2 fine ended) ⟨books,.begun rfl rfl⟩ unmodified

end
end Sctl.WebDownloads
