import Mathlib.Data.Nat.Bitwise
import Sctl.Texts

/-!
LTE bands as the modem speaks of them (`server/src/lte.rs`): a list of band
numbers is written as a hexadecimal mask, bit N-1 for band N, and read back
from the reply to `AT+QCFG="band"`. The other reply parsers stand beside it, of
the registration status (`server/src/lte_watchdog.rs`), the signal and the SIM.
-/
namespace Sctl.LteBands
open Texts

/-- The bands that have a bit in the mask. -/
def InMask (band : Nat) : Prop := 1 ≤ band ∧ band ≤ 128

instance : DecidablePred InMask := fun _ => inferInstanceAs (Decidable (_ ∧ _))

/-- The mask that `bands_to_hex` collects; other band numbers are passed over. -/
def bandMask (bands : List Nat) : Nat :=
  bands.foldl (fun mask band => if InMask band then mask ||| 1 <<< (band - 1) else mask) 0

/-- `bands_to_hex`. -/
def bandsToHex (bands : List Nat) : List Char := upperHex (bandMask bands)

/-- The bands of a mask, in increasing order: the loop at the end of `parse_band_config`. -/
def maskBands (mask : Nat) : List Nat := ((List.range 128).filter mask.testBit).map (· + 1)

/-- `parse_band_config`: a reply that cannot be read gives no bands. -/
def parseBandConfig (response : List Char) : List Nat :=
  ((do
    let line ← (lines response).find? fun line => contains line "+QCFG:".toList && contains line "band".toList
    let data ← (line.splitOn ':')[1]?
    let hex ← ((data.splitOn ',').map trim)[2]?
    let digits := trimStartMatches "0X".toList (trimStartMatches "0x".toList (trimMatches '"' hex))
    let mask ← fromStrRadix 16 (2 ^ 128) digits
    some (maskBands mask)) : Option (List Nat)).getD []

/-- `parse_bandpri`. -/
def parseBandpri (response : List Char) : Option Nat := do
  let line ← (lines response).find? fun line => contains line "+QCFG:".toList && contains line "bandpri".toList
  let data ← (line.splitOn ':')[1]?
  let priority ← (((trim data).splitOn ',').map trim)[1]?
  fromStrRadix 10 (2 ^ 16) (trimMatches '"' priority)

/-- `RegistrationStatus`. -/
inductive RegistrationStatus where
  | notRegistered
  | registeredHome
  | searching
  | denied
  | unknown
  | registeredRoam
deriving DecidableEq, Repr

def RegistrationStatus.isRegistered (status : RegistrationStatus) : Bool :=
  status == .registeredHome || status == .registeredRoam

/-- `parse_cereg`; every caller drops the text of the error. -/
def parseCereg (response : List Char) : Option RegistrationStatus := do
  let line ← (lines response).find? fun line => contains line "+CEREG:".toList
  let data ← (line.splitOn ':')[1]?
  let stat ← ((trim data).splitOn ',')[1]?
  let code ← fromStrRadix 10 (2 ^ 8) (trim stat)
  some (match code with
    | 0 => .notRegistered
    | 1 => .registeredHome
    | 2 => .searching
    | 3 => .denied
    | 5 => .registeredRoam
    | _ => .unknown)

/-- `parse_csq`: a signal of 99 is an error. -/
def parseCsq (response : List Char) : Option Int := do
  let line ← (lines response).find? fun line => contains line "+CSQ:".toList
  let data ← (line.splitOn ':')[1]?
  let text ← ((trim data).splitOn ',').head?
  let raw : Int ← match trim text with
    | '-' :: digits => (readDigits 10 (2 ^ 31 + 1) 0 digits).bind fun n => if digits = [] then none else some (-n : Int)
    | digits => (fromStrRadix 10 (2 ^ 31) digits).map Int.ofNat
  if raw = 99 then none else some (-113 + 2 * raw)

/-- `parse_qccid`. -/
def parseQccid (response : List Char) : Option (List Char) := do
  let line ← (lines response).find? fun line => contains line "+QCCID:".toList
  let data ← (line.splitOn ':')[1]?
  if trim data = [] then none else some (trim data)

example : parseBandConfig "+QCFG: \"band\",0x260,0x1808,0x0\r\nOK".toList = [4,12,13] := by decide +kernel
example : parseBandConfig "ERROR".toList = [] := by decide +kernel
example : parseBandpri "+QCFG: \"bandpri\",4\r\nOK".toList = some 4 := by decide +kernel
example : parseCereg "+CEREG: 0,5\r\nOK".toList = some .registeredRoam := by decide +kernel

private theorem testBit_foldl (bands : List Nat) (mask bit : Nat) :
    (bands.foldl (fun mask band => if InMask band then mask ||| 1 <<< (band - 1) else mask) mask).testBit bit =
      (mask.testBit bit || decide (bit < 128 ∧ bit + 1 ∈ bands)) := by
  induction bands generalizing mask with
  | nil => simp
  | cons band rest ih =>
    rw [List.foldl_cons,ih]
    by_cases held : InMask band
    · have shifted : (1 <<< (band - 1)).testBit bit = decide (bit + 1 = band) := by
        rw [Nat.one_shiftLeft,Nat.testBit_two_pow]
        have positive := held.1
        exact decide_eq_decide.mpr (by omega)
      rw [if_pos held,Nat.testBit_or,shifted,Bool.or_assoc,← Bool.decide_or]
      have bounded := held.2
      congr 1
      refine decide_eq_decide.mpr ?_
      rw [List.mem_cons]
      constructor
      · rintro (rfl | ⟨small,member⟩)
        · exact ⟨by omega,.inl rfl⟩
        · exact ⟨small,.inr member⟩
      · rintro ⟨small,rfl | member⟩
        · exact .inl rfl
        · exact .inr ⟨small,member⟩
    · rw [if_neg held]
      congr 1
      refine decide_eq_decide.mpr (and_congr_right fun small => ?_)
      rw [List.mem_cons]
      constructor
      · exact .inr
      · rintro (rfl | member)
        · exact absurd ⟨by omega,by omega⟩ held
        · exact member

/-- Bit N-1 of the mask says whether band N is asked for. -/
theorem testBit_bandMask (bands : List Nat) (bit : Nat) :
    (bandMask bands).testBit bit = decide (bit < 128 ∧ bit + 1 ∈ bands) := by
  simp [bandMask,testBit_foldl]

/-- The mask that disables every band is written exactly for a list with no band in range. -/
theorem bandMask_eq_zero_iff {bands : List Nat} : bandMask bands = 0 ↔ ¬ ∃ band ∈ bands, InMask band := by
  constructor
  · rintro zero ⟨band,member,positive,bounded⟩
    have bit := testBit_bandMask bands (band - 1)
    rw [zero,Nat.zero_testBit,show band - 1 + 1 = band by omega] at bit
    simp [member,show band - 1 < 128 by omega] at bit
  · intro none
    refine Nat.eq_of_testBit_eq fun bit => ?_
    rw [testBit_bandMask,Nat.zero_testBit,decide_eq_false_iff_not]
    rintro ⟨small,member⟩
    exact none ⟨bit + 1,member,by omega,by omega⟩

theorem mem_maskBands {mask band : Nat} : band ∈ maskBands mask ↔ InMask band ∧ mask.testBit (band - 1) = true := by
  simp only [maskBands,List.mem_map,List.mem_filter,List.mem_range]
  constructor
  · rintro ⟨bit,⟨small,held⟩,rfl⟩
    exact ⟨⟨by omega,by omega⟩,by simpa using held⟩
  · rintro ⟨⟨positive,bounded⟩,held⟩
    exact ⟨band - 1,⟨by omega,held⟩,by omega⟩

/-- The bands of a 128-bit mask give the mask back. -/
theorem bandMask_maskBands {mask : Nat} (small : mask < 2 ^ 128) : bandMask (maskBands mask) = mask := by
  refine Nat.eq_of_testBit_eq fun bit => ?_
  simp only [testBit_bandMask,mem_maskBands]
  by_cases inside : bit < 128
  · simp [inside,InMask,show bit + 1 ≤ 128 by omega]
  · have large : 2 ^ 128 ≤ 2 ^ bit := Nat.pow_le_pow_right (by decide) (by omega)
    simp [inside,Nat.testBit_lt_two_pow (lt_of_lt_of_le small large)]

/-- What a reply is read as holds bands of the mask only. -/
theorem mem_parseBandConfig {response : List Char} {band : Nat} (member : band ∈ parseBandConfig response) :
    InMask band := by
  unfold parseBandConfig at member
  generalize found : (do
    let line ← (lines response).find? fun line => contains line "+QCFG:".toList && contains line "band".toList
    let data ← (line.splitOn ':')[1]?
    let hex ← ((data.splitOn ',').map trim)[2]?
    let digits := trimStartMatches "0X".toList (trimStartMatches "0x".toList (trimMatches '"' hex))
    let mask ← fromStrRadix 16 (2 ^ 128) digits
    some (maskBands mask) : Option (List Nat)) = result at member
  cases result with
  | none => simp at member
  | some bands =>
    simp only [Option.bind_eq_bind,Option.bind_eq_some_iff,Option.some.injEq] at found
    obtain ⟨_,_,_,_,_,_,mask,_,rfl⟩ := found
    exact (mem_maskBands.mp member).1

/-- The text `0` of the mask is the mask 0. -/
theorem bandsToHex_eq_zero_iff {bands : List Nat} : bandsToHex bands = ['0'] ↔ bandMask bands = 0 :=
  ⟨fun same => upperHex_injective (same.trans (by decide)),fun zero => by rw [bandsToHex,zero]; decide⟩

end Sctl.LteBands
