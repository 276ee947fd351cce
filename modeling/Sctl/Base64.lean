import Mathlib.Data.List.GetD
import Mathlib.Data.UInt

/-!
Base64 with padding: three bytes are four symbols of six bits, and a rest of one or two bytes is
filled up with `=`. The bits that a padded group leaves over must be zero, so that every byte
string has exactly one text. The alphabet is a parameter.
-/
namespace Sctl.Base64

/-- Sixty-four symbols and their values; the padding is none of them. -/
structure Alphabet where
  symbol : Nat → Char
  value : Char → Option Nat
  value_symbol : ∀ n < 64, value (symbol n) = some n
  symbol_value : ∀ c n, value c = some n → n < 64 ∧ symbol n = c
  padding : value '=' = none

variable (a : Alphabet)

def encode : List UInt8 → List Char
  | [] => []
  | [x] => [a.symbol (x.toNat / 4),a.symbol (x.toNat % 4 * 16),'=','=']
  | [x,y] => [a.symbol (x.toNat / 4),a.symbol (x.toNat % 4 * 16 + y.toNat / 16),a.symbol (y.toNat % 16 * 4),'=']
  | x :: y :: z :: rest =>
    a.symbol (x.toNat / 4) :: a.symbol (x.toNat % 4 * 16 + y.toNat / 16) :: a.symbol (y.toNat % 16 * 4 + z.toNat / 64) ::
      a.symbol (z.toNat % 64) :: encode rest

/-- The bytes of a group, as far as it is not padded. -/
def first (p q : Nat) : UInt8 := UInt8.ofNat (p * 4 + q / 16)
def second (q r : Nat) : UInt8 := UInt8.ofNat (q % 16 * 16 + r / 4)
def third (r s : Nat) : UInt8 := UInt8.ofNat (r % 4 * 64 + s)

def decode : List Char → Option (List UInt8)
  | [] => some []
  | c :: d :: e :: f :: rest =>
    match a.value c,a.value d,a.value e,a.value f with
    | some p,some q,some r,some s => (decode rest).map fun bytes => first p q :: second q r :: third r s :: bytes
    | some p,some q,some r,none => if f = '=' ∧ rest = [] ∧ r % 4 = 0 then some [first p q,second q r] else none
    | some p,some q,none,none => if e = '=' ∧ f = '=' ∧ rest = [] ∧ q % 16 = 0 then some [first p q] else none
    | _,_,_,_ => none
  | _ => none

theorem byte_eq {n : Nat} {x : UInt8} (same : n = x.toNat) : UInt8.ofNat n = x := by
  rw [same]; exact UInt8.ofNat_toNat

theorem toNat_byte {n : Nat} (small : n < 256) : (UInt8.ofNat n).toNat = n := by
  simp [Nat.mod_eq_of_lt small]

/-- Every byte string reads back. -/
theorem decode_encode (bytes : List UInt8) : decode a (encode a bytes) = some bytes := by
  have value (n : Nat) (small : n < 64) := a.value_symbol n small
  fun_induction encode a bytes with
  | case1 => rfl
  | case2 x =>
    have big := x.toNat_lt
    rw [decode,value _ (by omega),value _ (by omega),a.padding]
    have one : first (x.toNat / 4) (x.toNat % 4 * 16) = x := byte_eq (by omega)
    simp [one]
  | case3 x y =>
    have big := x.toNat_lt
    have big' := y.toNat_lt
    rw [decode,value _ (by omega),value _ (by omega),value _ (by omega),a.padding]
    have one : first (x.toNat / 4) (x.toNat % 4 * 16 + y.toNat / 16) = x := byte_eq (by omega)
    have two : second (x.toNat % 4 * 16 + y.toNat / 16) (y.toNat % 16 * 4) = y := byte_eq (by omega)
    simp [one,two]
  | case4 x y z rest ih =>
    have big := x.toNat_lt
    have big' := y.toNat_lt
    have big'' := z.toNat_lt
    rw [decode,value _ (by omega),value _ (by omega),value _ (by omega),value _ (by omega)]
    have one : first (x.toNat / 4) (x.toNat % 4 * 16 + y.toNat / 16) = x := byte_eq (by omega)
    have two : second (x.toNat % 4 * 16 + y.toNat / 16) (y.toNat % 16 * 4 + z.toNat / 64) = y := byte_eq (by omega)
    have three : third (y.toNat % 16 * 4 + z.toNat / 64) (z.toNat % 64) = z := byte_eq (by omega)
    simp only [ih,one,two,three,Option.map_some]

/-- What is read has no other text. -/
theorem encode_decode {text : List Char} {bytes : List UInt8} (read : decode a text = some bytes) : encode a bytes = text := by
  fun_induction decode a text generalizing bytes with
  | case1 => cases read; rfl
  | case2 c d e f rest p q r s atC atD atE atF ih =>
    obtain ⟨more,found,rfl⟩ := Option.map_eq_some_iff.mp read
    obtain ⟨smallP,rfl⟩ := a.symbol_value _ _ atC
    obtain ⟨smallQ,rfl⟩ := a.symbol_value _ _ atD
    obtain ⟨smallR,rfl⟩ := a.symbol_value _ _ atE
    obtain ⟨smallS,rfl⟩ := a.symbol_value _ _ atF
    have one : (first p q).toNat = p * 4 + q / 16 := toNat_byte (by omega)
    have two : (second q r).toNat = q % 16 * 16 + r / 4 := toNat_byte (by omega)
    have three : (third r s).toNat = r % 4 * 64 + s := toNat_byte (by omega)
    have first_ : (p * 4 + q / 16) / 4 = p := by omega
    have second_ : (p * 4 + q / 16) % 4 * 16 + (q % 16 * 16 + r / 4) / 16 = q := by omega
    have third_ : (q % 16 * 16 + r / 4) % 16 * 4 + (r % 4 * 64 + s) / 64 = r := by omega
    have fourth_ : (r % 4 * 64 + s) % 64 = s := by omega
    simp only [encode,one,two,three,ih found,first_,second_,third_,fourth_]
  | case3 c d e f rest p q r padded atC atD atE closed =>
    cases read
    obtain ⟨smallP,rfl⟩ := a.symbol_value _ _ atC
    obtain ⟨smallQ,rfl⟩ := a.symbol_value _ _ atD
    obtain ⟨smallR,rfl⟩ := a.symbol_value _ _ atE
    obtain ⟨rfl,rfl,zero⟩ := closed
    have one : (first p q).toNat = p * 4 + q / 16 := toNat_byte (by omega)
    have two : (second q r).toNat = q % 16 * 16 + r / 4 := toNat_byte (by omega)
    have first_ : (p * 4 + q / 16) / 4 = p := by omega
    have second_ : (p * 4 + q / 16) % 4 * 16 + (q % 16 * 16 + r / 4) / 16 = q := by omega
    have third_ : (q % 16 * 16 + r / 4) % 16 * 4 = r := by omega
    simp only [encode,one,two,first_,second_,third_]
  | case5 c d e f rest p q padded padded' atC atD closed =>
    cases read
    obtain ⟨smallP,rfl⟩ := a.symbol_value _ _ atC
    obtain ⟨smallQ,rfl⟩ := a.symbol_value _ _ atD
    obtain ⟨rfl,rfl,rfl,zero⟩ := closed
    have one : (first p q).toNat = p * 4 + q / 16 := toNat_byte (by omega)
    have first_ : (p * 4 + q / 16) / 4 = p := by omega
    have second_ : (p * 4 + q / 16) % 4 * 16 = q := by omega
    simp only [encode,one,first_,second_]
  | _ => cases read

/-! ### The standard alphabet -/

def standardSymbols : List Char :=
  "ABCDEFGHIJKLMNOPQRSTUVWXYZ".toList ++ "abcdefghijklmnopqrstuvwxyz".toList ++ "0123456789+/".toList

def standard : Alphabet where
  symbol n := standardSymbols.getD n '='
  value c := standardSymbols.idxOf? c
  value_symbol := by decide
  symbol_value c n found := by
    obtain ⟨inside,at_,_⟩ := List.idxOf?_eq_some_iff.mp found
    refine ⟨inside.trans_eq (by decide),?_⟩
    rw [List.getD_eq_getElem _ _ inside]
    exact at_
  padding := by decide

end Sctl.Base64
