import Sctl.TransferDisk
import Sctl.WebUploads

/-!
The web client and the server agree from end to end: they cut a file into the
same chunks, a download returns the file of the device and an upload publishes
the file of the browser, whatever other calls come in between.
-/
namespace Sctl.WebAgreement
open Files TransferTypes TransferManager TransferSteps TransferBooks TransferDisk ChunkArithmetic
open WebTransfers WebDownloads WebUploads Dialogues Runs

/-- The range that the manager serves or writes for a chunk is the one that the tracker cuts. -/
def RangesAgree (m : Manager) (file : Bytes) : Prop :=
  ∀ id t i, m.transfers.lookup id = some t → t.spec.chunkSize = defaultChunkSize → t.spec.fileSize = file.length →
    (∀ env ctx, serveCheck env m id i = .ok ctx → chunkOf file i = slice file ctx.offset ctx.chunkLen) ∧
    ∀ ctx, receiveCheck m id i = .ok ctx → chunkOf file i = slice file ctx.offset (chunkLen file.length ctx.chunkSize i)

/-- What a download without a failed request ends with. -/
def Returns (content : Bytes) (x : Session (Option Bytes)) : Prop :=
  x.failed = false → ∀ value, x.client = .done value →
    (value = some content ↔ divCeil content.length defaultChunkSize < 2 ^ 32)

variable {cfg : TransferConfig} {sha256 : Bytes → String} {disk : Disk PathBuf} {before : List Action} {s : State}

theorem ranges_agree (m : Manager) (file : Bytes) : RangesAgree m file := by
  intro id t i found chunk size
  constructor
  · intro env ctx checked
    obtain ⟨other,there,_,_,_,_,rfl⟩ := serveCheck_ok checked
    obtain rfl := Option.some.inj (found.symm.trans there)
    rw [chunkOf_eq,chunk,size]
  · intro ctx checked
    obtain ⟨other,there,_,_,_,rfl⟩ := receiveCheck_ok checked
    obtain rfl := Option.some.inj (found.symm.trans there)
    rw [chunkOf_eq,chunk]

/-- From any state that a server reaches, the tracker and the manager agree. -/
theorem transfers_agree (ran : run (TransferSteps.step cfg sha256) (start disk) before = some s) (c : Nat) (file : Bytes) :
    (∀ size, computeChunks size defaultChunkSize = some (totalChunks size) ↔ divCeil size defaultChunkSize < 2 ^ 32) ∧
    RangesAgree s.manager file ∧
    (∀ text path ino as, validateTransferPath text = .ok path →
      Along (Session.step cfg sha256 c) (fun x _ => Source path ino file x.server) (Session.begin s (download sha256 text)) as →
      Always (Session.step cfg sha256 c) (Returns file) (Session.begin s (download sha256 text)) as) ∧
    ∀ dirPath dir filename as, validateTransferPath dirPath = .ok dir →
      Along (Session.step cfg sha256 c) (fun x act => leavesOwn c x act = true ∧ sparesOwn c x act = true)
        (Session.begin s (upload sha256 dirPath filename file)) as →
      Always (Session.step cfg sha256 c) (Publishes dir filename file) (Session.begin s (upload sha256 dirPath filename file)) as := by
  have temps : Temps s := run_preserves (fun _ _ _ kept stepped => temps_step kept stepped) (temps_start disk) ran
  have below : HandlesBelow s := by
    refine run_preserves (fun _ _ _ kept stepped => handlesBelow_step kept stepped) ?_ ran
    intro c r ino found
    cases found
  refine ⟨computeChunks_iff,ranges_agree s.manager file,?_,?_⟩
  · intro text path ino as valid unmodified
    exact download_iff temps.books valid unmodified
  · intro dirPath dir filename as valid apart
    exact upload_publishes temps below valid apart

/-- The tracker's own call for `n` sections. -/
def own (n : Nat) (uuid : String) : List Act := List.replicate n (.serve ⟨.calm 0 uuid,.advance 0⟩)

/-- An upload of one byte, with another upload to the directory under way. -/
def uploading (others : List Action) : List Act :=
  .ask (.calm 0 "u") :: own 3 "u" ++ .ask (.calm 0 "") :: own 6 "" ++ others.map .serve ++ own 2 ""

/-- A download of one byte. -/
def downloading : List Act := .ask (.calm 0 "x") :: own 2 "x" ++ .ask (.calm 0 "") :: own 3 ""

/-- A disk with a file of one byte. -/
def oneByte : Disk PathBuf := smallDisk.update 0 fun f => { f with content := [65] }

instance (path : PathBuf) (ino : Nat) (content : Bytes) (s : State) : Decidable (Source path ino content s) :=
  inferInstanceAs (Decidable (_ ∧ _))

theorem transfers_agree_oneByte :
    Always (Session.step (.new 4 1024 1024 60) plainDigest 0) (Returns [65])
      (Session.begin (start oneByte) (download plainDigest "/a")) downloading ∧
    Always (Session.step (.new 4 1024 1024 60) plainDigest 0) (Publishes [] "b" [65])
      (Session.begin (start oneByte) (upload plainDigest "/" "b" [65])) (uploading []) := by
  have ran : run (TransferSteps.step (.new 4 1024 1024 60) plainDigest) (start oneByte) [] = some (start oneByte) := rfl
  obtain ⟨_,_,downloads,uploads⟩ := transfers_agree ran 0 [65]
  exact ⟨downloads "/a" ["a"] 0 downloading (by decide) (by decide +kernel),uploads "/" [] "b" (uploading []) (by decide) (by decide +kernel)⟩

/-- Another upload that is renamed onto the temporary file is published in place of the
    file, and above `2 ^ 50` bytes the manager counts other chunks than the tracker. -/
theorem transfers_differ :
    ¬ ((∀ size < 2 ^ 53, computeChunks size defaultChunkSize = some (totalChunks size)) ∧
      ∀ as, Along (Session.step (.new 4 1024 1024 60) plainDigest 0) (fun x act => leavesOwn 0 x act = true)
        (Session.begin (start smallDisk) (upload plainDigest "/" "b" [65])) as →
        Always (Session.step (.new 4 1024 1024 60) plainDigest 0) (Publishes [] "b" [65])
          (Session.begin (start smallDisk) (upload plainDigest "/" "b" [65])) as) ∧
    computeChunks (2 ^ 50 + 1) defaultChunkSize = some 1 ∧ totalChunks (2 ^ 50 + 1) = 2 ^ 32 + 1 := by
  refine ⟨?_,by decide,by decide⟩
  rintro ⟨_,publishes⟩
  have all := publishes (uploading takenName) (by decide +kernel)
  have last : (run (Session.step (.new 4 1024 1024 60) plainDigest 0) (Session.begin (start smallDisk) (upload plainDigest "/" "b" [65]))
      (uploading takenName)).map (fun x => (x.failed,x.transfer,(match x.client with
        | .done value => some value
        | .ask _ _ => none),x.server.trace.contains (.published "u" ["b"] [65]))) = some (false,some "u",some true,false) := by decide +kernel
  obtain ⟨x,ran,known⟩ := Option.map_eq_some_iff.mp last
  simp only [Prod.mk.injEq] at known
  obtain ⟨fine,transfer,ended,missing⟩ := known
  have done : x.client = .done true := by
    split at ended
    · next value is => rw [is,Option.some.inj ended]
    · cases ended
  obtain ⟨_,id,same,published⟩ := always_last all ran fine true done
  obtain rfl := Option.some.inj (transfer.symm.trans same)
  have there : x.server.trace.contains (.published "u" ["b"] [65]) = true := List.contains_iff_mem.mpr published
  rw [missing] at there
  cases there

end Sctl.WebAgreement
