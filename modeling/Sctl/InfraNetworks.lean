import Mathlib.Data.Set.Basic
import Sctl.Texts

/-!
The address helpers of the discovery (`server/src/infra/discovery.rs`): `normalize_cidr`,
`cidr_overlaps` and `cidr_contains`. A network is the addresses that begin with the same
bits, so that two networks are apart or one lies in the other.
-/
namespace Sctl.InfraNetworks
open Texts

/-! ### Prefixes of bit vectors -/

section Bits
variable {w : Nat}

/-- The vectors have the same bits in front, from the most significant on. -/
def Agree (length : Nat) (x y : BitVec w) : Prop := ∀ i < length, x.getMsbD i = y.getMsbD i

theorem Agree.symm {length : Nat} {x y : BitVec w} (agree : Agree length x y) : Agree length y x :=
  fun i inside => (agree i inside).symm

theorem Agree.trans {length : Nat} {x y z : BitVec w} (first : Agree length x y) (second : Agree length y z) :
    Agree length x z := fun i inside => (first i inside).trans (second i inside)

theorem Agree.shorter {length longer : Nat} {x y : BitVec w} (agree : Agree longer x y) (less : length ≤ longer) :
    Agree length x y := fun i inside => agree i (by omega)

/-- The mask that keeps the bits in front. -/
def leading (length : Nat) : BitVec w := BitVec.allOnes w <<< (w - length)

theorem getMsbD_leading {length i : Nat} (fits : length ≤ w) : (leading length : BitVec w).getMsbD i = decide (i < length) := by
  simp only [leading,BitVec.getMsbD_shiftLeft,BitVec.getMsbD_allOnes]
  exact decide_eq_decide.mpr (by omega)

/-- Masked vectors are equal exactly when they begin alike. -/
theorem masked_eq_iff {length : Nat} {x y : BitVec w} (fits : length ≤ w) :
    x &&& leading length = y &&& leading length ↔ Agree length x y := by
  have bits (z : BitVec w) (i : Nat) : (z &&& leading length).getMsbD i = (z.getMsbD i && decide (i < length)) := by
    rw [BitVec.getMsbD_and,getMsbD_leading fits]
  constructor
  · intro same i inside
    have bit : (x &&& leading length).getMsbD i = (y &&& leading length).getMsbD i := by rw [same]
    simpa [bits,inside] using bit
  · intro agree
    refine BitVec.eq_of_getMsbD_eq fun i _ => ?_
    rw [bits,bits]
    by_cases inside : i < length
    · rw [agree i inside]
    · simp [inside]

/-- A masked vector begins as it did. -/
theorem agree_masked {length : Nat} (fits : length ≤ w) (x : BitVec w) : Agree length (x &&& leading length) x := by
  refine (masked_eq_iff fits).mp ?_
  rw [BitVec.and_assoc,BitVec.and_self]

/-- A vector with the number of its bits that a network shares. -/
structure Network (w : Nat) where
  base : BitVec w
  length : Nat
  fits : length ≤ w
deriving DecidableEq

/-- The addresses of a network. -/
def Network.addresses (network : Network w) : Set (BitVec w) := {x | Agree network.length x network.base}

theorem Network.base_mem (network : Network w) : network.base ∈ network.addresses := fun _ _ => rfl

/-- Networks meet only where the base of one lies in the other: of two prefixes that one
    address has, the shorter is the beginning of the longer. -/
theorem Network.meet_iff (m n : Network w) :
    (m.addresses ∩ n.addresses).Nonempty ↔ n.base ∈ m.addresses ∨ m.base ∈ n.addresses := by
  constructor
  · rintro ⟨x,inFirst,inSecond⟩
    rcases Nat.le_total m.length n.length with less | less
    · exact .inl ((inSecond.shorter less).symm.trans inFirst)
    · exact .inr ((inFirst.shorter less).symm.trans inSecond)
  · rintro (inside | inside)
    · exact ⟨n.base,inside,n.base_mem⟩
    · exact ⟨m.base,m.base_mem,inside⟩

/-- A base that begins alike denotes the same addresses. -/
theorem Network.addresses_congr {m n : Network w} (same : m.length = n.length) (agree : Agree n.length m.base n.base) :
    m.addresses = n.addresses := by
  ext x
  rw [addresses,addresses,same]
  exact ⟨fun inside => inside.trans agree,fun inside => inside.trans agree.symm⟩

end Bits

/-! ### The texts -/

/-- `split_once`, for one character. -/
def splitOnce (mark : Char) : List Char → Option (List Char × List Char)
  | [] => none
  | c :: rest => if c = mark then some ([],rest) else (splitOnce mark rest).map fun parts => (c :: parts.1,parts.2)

/-- One part of `Ipv4Addr::from_str`: three digits at most, and no zero in front of others. -/
def parseOctet : List Char → Option Nat
  | [] => none
  | '0' :: _ :: _ => none
  | part => if part.length ≤ 3 then readDigits 10 (2 ^ 8) 0 part else none

/-- `Ipv4Addr::from_str`. -/
def parseIpv4 (text : List Char) : Option (BitVec 32) :=
  match text.splitOn '.' with
  | [first,second,third,fourth] => do
    let a ← parseOctet first
    let b ← parseOctet second
    let c ← parseOctet third
    let d ← parseOctet fourth
    some (BitVec.ofNat 32 (((a * 256 + b) * 256 + c) * 256 + d))
  | _ => none

/-- One part of the `Display` of an `Ipv4Addr`. -/
def showOctet (n : Nat) : List Char := Nat.toDigits 10 (n % 256)

/-- The `Display` of an `Ipv4Addr`. -/
def showIpv4 (ip : BitVec 32) : List Char :=
  showOctet (ip.toNat / 256 / 256 / 256) ++ '.' :: (showOctet (ip.toNat / 256 / 256) ++ '.' ::
    (showOctet (ip.toNat / 256) ++ '.' :: showOctet ip.toNat))

/-! ### The helpers -/

/-- The mask as both functions make it: a shift by the whole width would overflow. -/
def mask (length : Nat) : BitVec 32 := if length = 0 then 0 else BitVec.allOnes 32 <<< (32 - length)

/-- `normalize_cidr`. -/
def normalizeCidr (cidr : List Char) : Option (List Char) := do
  let (ip,length) ← splitOnce '/' cidr
  let ip ← parseIpv4 ip
  let length ← fromStrRadix 10 (2 ^ 8) length
  if 32 < length then none
  else
    let net := ip &&& mask length
    some (showIpv4 net ++ '/' :: Nat.toDigits 10 length)

/-- `cidr_contains`. -/
def cidrContains (cidr : List Char) (ip : BitVec 32) : Bool :=
  match splitOnce '/' cidr with
  | none => false
  | some (net,length) =>
    match parseIpv4 net with
    | none => false
    | some net =>
      match fromStrRadix 10 (2 ^ 8) length with
      | none => false
      | some length => if 32 < length then false else ip &&& mask length == net &&& mask length

/-- `cidr_overlaps`. -/
def cidrOverlaps (a b : List Char) : Bool :=
  let parse (c : List Char) : Option (BitVec 32) := (splitOnce '/' c).bind fun parts => parseIpv4 parts.1
  match parse a,parse b with
  | some ipA,some ipB => cidrContains a ipB || cidrContains b ipA
  | _,_ => false

/-- What a text of an address and a prefix denotes. -/
def parseCidr (cidr : List Char) : Option (Network 32) := do
  let (ip,length) ← splitOnce '/' cidr
  let base ← parseIpv4 ip
  let length ← fromStrRadix 10 (2 ^ 8) length
  if fits : length ≤ 32 then some ⟨base,length,fits⟩ else none

/-! ### What is written reads back -/

theorem splitOnce_append {mark : Char} {before : List Char} (free : mark ∉ before) (after : List Char) :
    splitOnce mark (before ++ mark :: after) = some (before,after) := by
  induction before with
  | nil => simp [splitOnce]
  | cons c rest ih =>
    rw [List.mem_cons,not_or] at free
    simp [splitOnce,Ne.symm free.1,ih free.2]

theorem parseOctet_showOctet (n : Nat) : parseOctet (showOctet n) = some (n % 256) := by
  have each : ∀ octet < 256, parseOctet (Nat.toDigits 10 octet) = some octet := by decide +kernel
  exact each (n % 256) (Nat.mod_lt n (by decide))

theorem showOctet_free {c : Char} (other : c.isDigit = false) (n : Nat) : c ∉ showOctet n := by
  intro digit
  have isDigit := Nat.isDigit_of_mem_toDigits (by decide) (by decide) digit
  simp [other] at isDigit

theorem showIpv4_free (ip : BitVec 32) : '/' ∉ showIpv4 ip := by
  simp [showIpv4,showOctet_free (show ('/').isDigit = false by decide)]

theorem parseIpv4_showIpv4 (ip : BitVec 32) : parseIpv4 (showIpv4 ip) = some ip := by
  have free := showOctet_free (show ('.').isDigit = false by decide)
  have whole : ((ip.toNat / 256 / 256 / 256 % 256 * 256 + ip.toNat / 256 / 256 % 256) * 256 + ip.toNat / 256 % 256) * 256 +
      ip.toNat % 256 = ip.toNat := by
    have bound := ip.isLt
    omega
  have parts : (showIpv4 ip).splitOn '.' = [showOctet (ip.toNat / 256 / 256 / 256),showOctet (ip.toNat / 256 / 256),
      showOctet (ip.toNat / 256),showOctet ip.toNat] := by
    rw [showIpv4,List.splitOn_append_cons_self_of_not_mem (free _),List.splitOn_append_cons_self_of_not_mem (free _),
      List.splitOn_append_cons_self_of_not_mem (free _),List.splitOn_eq_singleton (free _)]
  simp only [parseIpv4,parts,parseOctet_showOctet,Option.bind_eq_bind,Option.bind_some]
  rw [whole,BitVec.ofNat_toNat,BitVec.setWidth_eq]

/-! ### The helpers are exact -/

theorem mask_eq (length : Nat) : mask length = leading length := by
  rw [mask,leading]
  split
  · next none_ => subst none_; rfl
  · rfl

theorem parseCidr_eq_some {cidr : List Char} {network : Network 32} (parsed : parseCidr cidr = some network) :
    ∃ ip length, splitOnce '/' cidr = some (ip,length) ∧ parseIpv4 ip = some network.base ∧
      fromStrRadix 10 (2 ^ 8) length = some network.length := by
  simp only [parseCidr,Option.bind_eq_bind,Option.bind_eq_some_iff,Option.dite_none_right_eq_some,Option.some.injEq] at parsed
  obtain ⟨⟨ip,length⟩,split,base,address,number,written,fits,rfl⟩ := parsed
  exact ⟨ip,length,split,address,written⟩

theorem cidrContains_iff {cidr : List Char} {network : Network 32} (parsed : parseCidr cidr = some network) (ip : BitVec 32) :
    cidrContains cidr ip = true ↔ ip ∈ network.addresses := by
  obtain ⟨address,length,split,base,written⟩ := parseCidr_eq_some parsed
  simp only [cidrContains,split,base,written,Nat.not_lt.mpr network.fits,↓reduceIte,beq_iff_eq,mask_eq]
  exact masked_eq_iff network.fits

theorem cidrOverlaps_eq {a b : List Char} {m n : Network 32} (first : parseCidr a = some m) (second : parseCidr b = some n) :
    cidrOverlaps a b = (cidrContains a n.base || cidrContains b m.base) := by
  obtain ⟨_,_,split,base,-⟩ := parseCidr_eq_some first
  obtain ⟨_,_,split',base',-⟩ := parseCidr_eq_some second
  simp only [cidrOverlaps,split,split',base,base',Option.bind_some]

theorem cidrOverlaps_iff {a b : List Char} {m n : Network 32} (first : parseCidr a = some m) (second : parseCidr b = some n) :
    cidrOverlaps a b = true ↔ (m.addresses ∩ n.addresses).Nonempty := by
  rw [cidrOverlaps_eq first second,Bool.or_eq_true,cidrContains_iff first,cidrContains_iff second]
  exact (m.meet_iff n).symm

/-- The network with the bits behind its prefix cleared. -/
def Network.cleared (network : Network 32) : Network 32 := { network with base := network.base &&& leading network.length }

theorem Network.cleared_addresses (network : Network 32) : network.cleared.addresses = network.addresses :=
  addresses_congr rfl (agree_masked network.fits network.base)

theorem Network.cleared_cleared (network : Network 32) : network.cleared.cleared = network.cleared := by
  simp [cleared,BitVec.and_assoc]

/-- The text of a network, as `normalize_cidr` writes it. -/
def Network.text (network : Network 32) : List Char := showIpv4 network.base ++ '/' :: Nat.toDigits 10 network.length

theorem parseCidr_text (network : Network 32) : parseCidr network.text = some network := by
  have small : network.length < 2 ^ 8 := Nat.lt_of_le_of_lt network.fits (by decide)
  have written := fromStrRadix_of_readDigits Nat.toDigits_ne_nil (readDigits_decimal small)
  simp only [parseCidr,Network.text,splitOnce_append (showIpv4_free network.base),parseIpv4_showIpv4,written,
    Option.bind_eq_bind,Option.bind_some,network.fits,↓reduceDIte]

theorem normalizeCidr_eq {cidr : List Char} {network : Network 32} (parsed : parseCidr cidr = some network) :
    normalizeCidr cidr = some network.cleared.text := by
  obtain ⟨ip,length,split,base,written⟩ := parseCidr_eq_some parsed
  simp only [normalizeCidr,split,base,written,Option.bind_eq_bind,Option.bind_some,Nat.not_lt.mpr network.fits,↓reduceIte,
    mask_eq,Network.text,Network.cleared]

/-- Overlap is a common address, from either side, containment is membership, and a
    normalised text denotes the same addresses and stays as it is. -/
theorem cidr_exact (a b : List Char) (m n : Network 32) (first : parseCidr a = some m) (second : parseCidr b = some n) :
    (cidrOverlaps a b = true ↔ (m.addresses ∩ n.addresses).Nonempty) ∧ cidrOverlaps a b = cidrOverlaps b a ∧
      (∀ ip, cidrContains a ip = true ↔ ip ∈ m.addresses) ∧
      ∃ normal network, normalizeCidr a = some normal ∧ parseCidr normal = some network ∧
        network.addresses = m.addresses ∧ normalizeCidr normal = some normal := by
  refine ⟨cidrOverlaps_iff first second,?_,cidrContains_iff first,m.cleared.text,m.cleared,normalizeCidr_eq first,
    parseCidr_text m.cleared,m.cleared_addresses,?_⟩
  · rw [cidrOverlaps_eq first second,cidrOverlaps_eq second first,Bool.or_comm]
  · rw [normalizeCidr_eq (parseCidr_text m.cleared),m.cleared_cleared]

/-- A host inside a wider network, each with bits behind its prefix. -/
theorem cidr_exact_nested : cidrOverlaps "10.1.2.3/8".toList "10.200.0.9/+31".toList = true ∧
    normalizeCidr "10.1.2.3/8".toList = some "10.0.0.0/8".toList := by
  have parsed : parseCidr "10.1.2.3/8".toList = some ⟨BitVec.ofNat 32 167838211,8,by decide⟩ := by decide +kernel
  have parsed' : parseCidr "10.200.0.9/+31".toList = some ⟨BitVec.ofNat 32 180879369,31,by decide⟩ := by decide +kernel
  have exact_ := cidr_exact _ _ _ _ parsed parsed'
  refine ⟨exact_.1.mpr ⟨BitVec.ofNat 32 180879369,?_,Network.base_mem _⟩,by decide +kernel⟩
  intro i inside
  revert inside i
  decide +kernel

end Sctl.InfraNetworks
