import Sctl.Files
import Sctl.Json

/-!
The binary frames of the tunnel (`tunnel/mod.rs`): the length of a JSON header in
four bytes, the header and the payload. A read of a byte string is partial, so a
read out of bounds, which is a panic, shows as `none`.
-/
namespace Sctl.BinaryFrames
open Files

/-- `serde_json`, as far as the frames use it. -/
structure Serde where
  toVec : Json → Bytes
  fromSlice : Bytes → Option Json

/-- The targets that the program is built for, by the width of `usize`. -/
inductive Target
  | bits32
  | bits64

def Target.usizeMax : Target → Nat
  | .bits32 => 2 ^ 32 - 1
  | .bits64 => 2 ^ 64 - 1

def Target.checkedAdd (target : Target) (a b : Nat) : Option Nat := if a + b ≤ target.usizeMax then some (a + b) else none

/-- `u32::to_be_bytes`. -/
def toBeBytes (n : Nat) : Bytes := [UInt8.ofNat (n / 2 ^ 24),UInt8.ofNat (n / 2 ^ 16),UInt8.ofNat (n / 2 ^ 8),UInt8.ofNat n]

/-- `u32::from_be_bytes`. -/
def fromBeBytes (a b c d : UInt8) : Nat := ((a.toNat * 2 ^ 8 + b.toNat) * 2 ^ 8 + c.toNat) * 2 ^ 8 + d.toNat

/-- `data[start..stop]`. -/
def range? (data : Bytes) (start stop : Nat) : Option Bytes :=
  if start ≤ stop ∧ stop ≤ data.length then some ((data.take stop).drop start) else none

/-- The frame of a header that is serialized; its length is cast to a `u32`. -/
def frame (headerBytes payload : Bytes) : Bytes :=
  let headerLen := headerBytes.length % 2 ^ 32
  toBeBytes headerLen ++ headerBytes ++ payload

def maxBinaryFrameHeader : Nat := 1048576

section
variable (target : Target) (serde : Serde)

def encodeBinaryFrame (header : Json) (payload : Bytes) : Bytes := frame (serde.toVec header) payload

/-- The outer `none` is a panic. -/
def decodeBinaryFrame (data : Bytes) : Option (Option (Json × Bytes)) := do
  if data.length < 4 then return none
  let headerLen := fromBeBytes (← data[0]?) (← data[1]?) (← data[2]?) (← data[3]?)
  if maxBinaryFrameHeader < headerLen then return none
  match target.checkedAdd 4 headerLen with
  | none => return none
  | some total =>
    if data.length < total then return none
    match serde.fromSlice (← range? data 4 total) with
    | none => return none
    | some header =>
      let payload ← range? data total data.length
      return some (header,payload)

end

/-! ### The length -/

theorem fromBeBytes_toBeBytes (n : Nat) : fromBeBytes (UInt8.ofNat (n / 2 ^ 24)) (UInt8.ofNat (n / 2 ^ 16)) (UInt8.ofNat (n / 2 ^ 8))
    (UInt8.ofNat n) = n % 2 ^ 32 := by
  simp only [fromBeBytes,UInt8.toNat_ofNat']
  omega

theorem toBeBytes_fromBeBytes (a b c d : UInt8) : toBeBytes (fromBeBytes a b c d) = [a,b,c,d] := by
  have bound := fun x : UInt8 => x.toNat_lt
  have same {n : Nat} {x : UInt8} (value : n % 2 ^ 8 = x.toNat) : UInt8.ofNat n = x := by
    apply UInt8.toNat_inj.mp
    rw [UInt8.toNat_ofNat',value]
  have := bound a
  have := bound b
  have := bound c
  have := bound d
  unfold toBeBytes fromBeBytes
  rw [@same _ a (by omega),@same _ b (by omega),@same _ c (by omega),@same _ d (by omega)]

theorem toBeBytes_inj {m n : Nat} (same : toBeBytes m = toBeBytes n) : m % 2 ^ 32 = n % 2 ^ 32 := by
  simp only [toBeBytes,List.cons.injEq,and_true] at same
  obtain ⟨first,second,third,last⟩ := same
  rw [← fromBeBytes_toBeBytes m,first,second,third,last,fromBeBytes_toBeBytes]

/-! ### Frames -/

variable {target : Target} {serde : Serde} {data rest : Bytes} {a b c d : UInt8}

theorem decode_short (short : data.length < 4) : decodeBinaryFrame target serde data = some none := by
  unfold decodeBinaryFrame
  rw [if_pos short]
  rfl

/-- What follows the length is read, and nothing else. -/
theorem decode_long : decodeBinaryFrame target serde (a :: b :: c :: d :: rest) = some
    (if fromBeBytes a b c d ≤ maxBinaryFrameHeader ∧ fromBeBytes a b c d ≤ rest.length then
      (serde.fromSlice (rest.take (fromBeBytes a b c d))).map fun header => (header,rest.drop (fromBeBytes a b c d))
    else none) := by
  obtain ⟨len,same⟩ : ∃ len, len = fromBeBytes a b c d := ⟨_,rfl⟩
  have size : (a :: b :: c :: d :: rest).length = 4 + rest.length := by
    simp only [List.length_cons]
    omega
  unfold decodeBinaryFrame
  rw [if_neg (by omega)]
  show (if maxBinaryFrameHeader < fromBeBytes a b c d then _ else _) = _
  rw [← same]
  by_cases large : maxBinaryFrameHeader < len
  · rw [if_pos large,if_neg (by omega)]
    rfl
  · have room : 4 + len ≤ target.usizeMax := by
      unfold maxBinaryFrameHeader at large
      cases target <;> simp only [Target.usizeMax] <;> omega
    rw [if_neg large,Target.checkedAdd,if_pos room]
    show (if _ < 4 + len then _ else _) = _
    by_cases cut : (a :: b :: c :: d :: rest).length < 4 + len
    · rw [if_pos cut,if_neg (by omega)]
      rfl
    · have header : range? (a :: b :: c :: d :: rest) 4 (4 + len) = some (rest.take len) := by
        rw [range?,if_pos (by omega),Nat.add_comm 4 len]
        rfl
      have payload : range? (a :: b :: c :: d :: rest) (4 + len) (a :: b :: c :: d :: rest).length = some (rest.drop len) := by
        rw [range?,if_pos (by omega),List.take_length,Nat.add_comm 4 len]
        rfl
      rw [if_neg cut,if_pos (by omega),header,payload]
      simp only [bind,Option.bind]
      cases serde.fromSlice (rest.take len) <;> rfl

theorem decode_total (data : Bytes) : ∃ result, decodeBinaryFrame target serde data = some result := by
  match data with
  | a :: b :: c :: d :: rest => exact ⟨_,decode_long⟩
  | [] | [_] | [_,_] | [_,_,_] => exact ⟨none,decode_short (by simp)⟩

theorem decode_frame {headerBytes payload : Bytes} (fits : headerBytes.length ≤ maxBinaryFrameHeader) :
    decodeBinaryFrame target serde (frame headerBytes payload) =
      some ((serde.fromSlice headerBytes).map fun header => (header,payload)) := by
  have small : headerBytes.length < 2 ^ 32 := by
    unfold maxBinaryFrameHeader at fits
    omega
  have len := fromBeBytes_toBeBytes headerBytes.length
  rw [Nat.mod_eq_of_lt small] at len
  unfold frame
  rw [Nat.mod_eq_of_lt small]
  refine decode_long.trans ?_
  rw [len,if_pos ⟨fits,by simp⟩]
  simp

theorem decode_some {header : Json} {payload : Bytes} (decoded : decodeBinaryFrame target serde data = some (some (header,payload))) :
    ∃ headerBytes, data = frame headerBytes payload ∧ headerBytes.length ≤ maxBinaryFrameHeader ∧
      serde.fromSlice headerBytes = some header := by
  match data with
  | [] | [_] | [_,_] | [_,_,_] =>
    rw [decode_short (by simp)] at decoded
    cases decoded
  | a :: b :: c :: d :: rest =>
    rw [decode_long,Option.some_inj] at decoded
    split_ifs at decoded with fits
    obtain ⟨parsed,found,same⟩ := Option.map_eq_some_iff.mp decoded
    cases same
    have len : (rest.take (fromBeBytes a b c d)).length = fromBeBytes a b c d := by
      rw [List.length_take]
      omega
    have small : fromBeBytes a b c d < 2 ^ 32 := by
      have := fits.1
      unfold maxBinaryFrameHeader at this
      omega
    refine ⟨rest.take (fromBeBytes a b c d),?_,len.le.trans fits.1,found⟩
    rw [frame,len,Nat.mod_eq_of_lt small,toBeBytes_fromBeBytes,List.append_assoc,List.take_append_drop]
    rfl

theorem frame_injective {headerBytes payload headerBytes' payload' : Bytes} (fits : headerBytes.length ≤ maxBinaryFrameHeader)
    (fits' : headerBytes'.length ≤ maxBinaryFrameHeader) (same : frame headerBytes payload = frame headerBytes' payload') :
    headerBytes = headerBytes' ∧ payload = payload' := by
  unfold frame at same
  rw [List.append_assoc,List.append_assoc] at same
  obtain ⟨lengths,rests⟩ := List.append_inj same rfl
  have sizes := toBeBytes_inj lengths
  unfold maxBinaryFrameHeader at fits fits'
  exact List.append_inj rests (by omega)

/-- Frames round-trip, a decoder reads only in bounds and takes a byte string apart in the
    one way in which it was put together. -/
theorem binary_frames_round_trip (target : Target) (serde : Serde) :
    (∀ header payload, serde.fromSlice (serde.toVec header) = some header → (serde.toVec header).length ≤ maxBinaryFrameHeader →
      decodeBinaryFrame target serde (encodeBinaryFrame serde header payload) = some (some (header,payload))) ∧
    (∀ data, ∃ result, decodeBinaryFrame target serde data = some result) ∧
    (∀ data header payload, decodeBinaryFrame target serde data = some (some (header,payload)) →
      ∃ headerBytes, data = frame headerBytes payload ∧ headerBytes.length ≤ maxBinaryFrameHeader ∧
        serde.fromSlice headerBytes = some header) ∧
    ∀ headerBytes payload headerBytes' payload', headerBytes.length ≤ maxBinaryFrameHeader →
      headerBytes'.length ≤ maxBinaryFrameHeader → frame headerBytes payload = frame headerBytes' payload' →
      headerBytes = headerBytes' ∧ payload = payload' := by
  refine ⟨?_,decode_total,fun data header payload decoded => decode_some decoded,
    fun _ _ _ _ fits fits' same => frame_injective fits fits' same⟩
  intro header payload reads fits
  rw [encodeBinaryFrame,decode_frame fits,reads]
  rfl

/-- The one header `null`. -/
def nullOnly : Serde := ⟨fun _ => [110,117,108,108],fun bytes => if bytes = [110,117,108,108] then some .null else none⟩

theorem binary_frame_null :
    decodeBinaryFrame .bits32 nullOnly (encodeBinaryFrame nullOnly .null [1,2]) = some (some (.null,[1,2])) :=
  (binary_frames_round_trip .bits32 nullOnly).1 .null [1,2] rfl (by decide)

end Sctl.BinaryFrames
