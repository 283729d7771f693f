import Courier.Text.Encoding
import Mathlib

/-! Base64 read back. Four digits hold 24 bits; padding at the end says how many of their bytes
there are. -/

namespace Courier

namespace Base64

def alphabet : List Char :=
  "ABCDEFGHIJKLMNOPQRSTUVWXYZabcdefghijklmnopqrstuvwxyz0123456789+/".toList

def value? (c : Char) : Option ℕ := alphabet.idxOf? c

theorem value?_digit {n : ℕ} (h : n < 64) : value? (digit n) = some n := by
  revert n
  decide +kernel

theorem digit_ne_padding {n : ℕ} (h : n < 64) : digit n ≠ '=' := by
  revert n
  decide +kernel

def quad? (a b c d : Char) : Option Bytes := do
  let w ← value? a
  let x ← value? b
  let first := UInt8.ofNat (w * 4 + x / 16)
  if c = '=' then return [first]
  let y ← value? c
  let second := UInt8.ofNat (x % 16 * 16 + y / 4)
  if d = '=' then return [first, second]
  let z ← value? d
  return [first, second, UInt8.ofNat (y % 4 * 64 + z)]

def decode? : List Char → Option Bytes
  | [] => some []
  | a :: b :: c :: d :: rest => do
    let bytes ← quad? a b c d
    let others ← decode? rest
    return bytes ++ others
  | _ => none

section

variable {w x y z : ℕ} (hw : w < 64) (hx : x < 64) (hy : y < 64) (hz : z < 64)

include hw hx

theorem quad?_one : quad? (digit w) (digit x) '=' '=' = some [UInt8.ofNat (w * 4 + x / 16)] := by
  rw [quad?, value?_digit hw, value?_digit hx]
  rfl

include hy

theorem quad?_two : quad? (digit w) (digit x) (digit y) '=' =
    some [UInt8.ofNat (w * 4 + x / 16), UInt8.ofNat (x % 16 * 16 + y / 4)] := by
  rw [quad?, value?_digit hw, value?_digit hx, value?_digit hy]
  simp only [Option.bind_eq_bind, Option.bind_some, if_neg (digit_ne_padding hy), if_true]
  rfl

include hz

theorem quad?_three : quad? (digit w) (digit x) (digit y) (digit z) =
    some [UInt8.ofNat (w * 4 + x / 16), UInt8.ofNat (x % 16 * 16 + y / 4),
      UInt8.ofNat (y % 4 * 64 + z)] := by
  rw [quad?, value?_digit hw, value?_digit hx, value?_digit hy, value?_digit hz]
  simp only [Option.bind_eq_bind, Option.bind_some, if_neg (digit_ne_padding hy),
    if_neg (digit_ne_padding hz)]
  rfl

end

theorem decode?_encode (bs : Bytes) : decode? (encode bs) = some bs := by
  have hlt : ∀ b : UInt8, b.toNat < 256 := fun b => b.toNat_lt
  induction bs using encode.induct with
  | case1 => rfl
  | case2 a =>
    have ha := hlt a
    have hfirst : a.toNat / 4 * 4 + a.toNat % 4 * 16 / 16 = a.toNat := by omega
    rw [encode, decode?, quad?_one (by omega) (by omega), hfirst, UInt8.ofNat_toNat]
    rfl
  | case3 a b =>
    have ha := hlt a
    have hb := hlt b
    have hfirst : a.toNat / 4 * 4 + (a.toNat % 4 * 16 + b.toNat / 16) / 16 = a.toNat := by omega
    have hsecond : (a.toNat % 4 * 16 + b.toNat / 16) % 16 * 16 + b.toNat % 16 * 4 / 4 =
        b.toNat := by
      omega
    rw [encode, decode?, quad?_two (by omega) (by omega) (by omega), hfirst, hsecond,
      UInt8.ofNat_toNat, UInt8.ofNat_toNat]
    rfl
  | case4 a b c rest ih =>
    have ha := hlt a
    have hb := hlt b
    have hc := hlt c
    have hfirst : a.toNat / 4 * 4 + (a.toNat % 4 * 16 + b.toNat / 16) / 16 = a.toNat := by omega
    have hsecond : (a.toNat % 4 * 16 + b.toNat / 16) % 16 * 16 +
        (b.toNat % 16 * 4 + c.toNat / 64) / 4 = b.toNat := by omega
    have hthird : (b.toNat % 16 * 4 + c.toNat / 64) % 4 * 64 + c.toNat % 64 = c.toNat := by omega
    rw [encode, decode?, quad?_three (by omega) (by omega) (by omega) (by omega), hfirst, hsecond,
      hthird, UInt8.ofNat_toNat, UInt8.ofNat_toNat, UInt8.ofNat_toNat, ih]
    rfl

end Base64

end Courier
