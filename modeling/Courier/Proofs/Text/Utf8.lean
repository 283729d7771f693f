import Courier.Text.Encoding
import Mathlib

/-! What is encoded in UTF-8 is decoded to the same text, without gaps: the first byte of a
character says how many follow, and each that follows lies in the range it asks for. -/

namespace Courier

namespace Utf8

theorem start_two {k : Nat} (hl : 2 ≤ k) (hk : k < 32) :
    start (0xC0 + k) = .more ⟨1, 0x80, 0xBF, k⟩ := by
  unfold start
  grind

theorem start_three {k : Nat} (hk : k < 16) :
    start (0xE0 + k) =
      .more ⟨2, if k = 0 then 0xA0 else 0x80, if k = 13 then 0x9F else 0xBF, k⟩ := by
  unfold start
  grind

theorem start_four {k : Nat} (hk : k ≤ 4) :
    start (0xF0 + k) =
      .more ⟨3, if k = 0 then 0x90 else 0x80, if k = 4 then 0x8F else 0xBF, k⟩ := by
  unfold start
  grind

section

variable {acc : List (Option Char)} {b low high needed bits : Nat} {p : Pending}

theorem step_first (hs : start b = .more p) : step acc none b = (acc, some p) := by
  simp [step, hs]

theorem step_middle (h : low ≤ b ∧ b ≤ high) :
    step acc (some ⟨needed + 2, low, high, bits⟩) b =
      (acc, some ⟨needed + 1, 0x80, 0xBF, bits * 64 + (b - 0x80)⟩) := by
  simp [step, h]

theorem step_last (h : low ≤ b ∧ b ≤ high) :
    step acc (some ⟨1, low, high, bits⟩) b =
      (some (Char.ofNat (bits * 64 + (b - 0x80))) :: acc, none) := by
  simp [step, h]

end

def scanCodes (state : List (Option Char) × Option Pending) (bs : List Nat) :
    List (Option Char) × Option Pending :=
  bs.foldl (fun s b => step s.1 s.2 b) state

theorem scanCodes_cons (state : List (Option Char) × Option Pending) (b : Nat) (bs : List Nat) :
    scanCodes state (b :: bs) = scanCodes (step state.1 state.2 b) bs := rfl

theorem scanCodes_encodeChar (acc : List (Option Char)) (c : Char) :
    scanCodes (acc, none) (encodeChar c) = (some c :: acc, none) := by
  have hv : c.toNat < 0xD800 ∨ 0xDFFF < c.toNat ∧ c.toNat < 0x110000 := c.valid
  have hc : Char.ofNat c.toNat = c := Char.ofNat_toNat c
  rw [encodeChar]
  generalize c.toNat = n at hv hc
  split
  · next h => simp [scanCodes, step, start, h, hc]
  split
  · next h₁ h₂ =>
    have hbits : n / 64 * 64 + (0x80 + n % 64 - 0x80) = n := by omega
    rw [scanCodes_cons, step_first (start_two (by omega) (by omega)), scanCodes_cons,
      step_last (by omega), hbits, hc]
    rfl
  split
  · next h₁ h₂ h₃ =>
    have hbits : (n / 4096 * 64 + (0x80 + n / 64 % 64 - 0x80)) * 64 + (0x80 + n % 64 - 0x80) =
        n := by omega
    -- The narrow ranges of the second byte keep out what is shorter, and surrogates.
    have hrange : (if n / 4096 = 0 then 0xA0 else 0x80) ≤ 0x80 + n / 64 % 64 ∧
        0x80 + n / 64 % 64 ≤ if n / 4096 = 13 then 0x9F else 0xBF := by
      split <;> split <;> omega
    rw [scanCodes_cons, step_first (start_three (by omega)), scanCodes_cons, step_middle hrange,
      scanCodes_cons, step_last (by omega), hbits, hc]
    rfl
  · next h₁ h₂ h₃ =>
    have hbits : ((n / 262144 * 64 + (0x80 + n / 4096 % 64 - 0x80)) * 64 +
        (0x80 + n / 64 % 64 - 0x80)) * 64 + (0x80 + n % 64 - 0x80) = n := by omega
    have hrange : (if n / 262144 = 0 then 0x90 else 0x80) ≤ 0x80 + n / 4096 % 64 ∧
        0x80 + n / 4096 % 64 ≤ if n / 262144 = 4 then 0x8F else 0xBF := by
      split <;> split <;> omega
    rw [scanCodes_cons, step_first (start_four (by omega)), scanCodes_cons, step_middle hrange,
      scanCodes_cons, step_middle (by omega), scanCodes_cons, step_last (by omega), hbits, hc]
    rfl

theorem lt_of_mem_encodeChar {c : Char} {b : Nat} (h : b ∈ encodeChar c) : b < 256 := by
  have hv : c.toNat < 0xD800 ∨ 0xDFFF < c.toNat ∧ c.toNat < 0x110000 := c.valid
  rw [encodeChar] at h
  split at h
  · simp at h
    omega
  split at h
  · simp at h
    omega
  split at h
  all_goals
    simp at h
    omega

theorem scan_map_ofNat {bs : List Nat} (h : ∀ b ∈ bs, b < 256) (acc : List (Option Char))
    (pending : Option Pending) (rest : Bytes) :
    scan acc pending (bs.map UInt8.ofNat ++ rest) =
      scan (scanCodes (acc, pending) bs).1 (scanCodes (acc, pending) bs).2 rest := by
  induction bs generalizing acc pending with
  | nil => rfl
  | cons b bs ih =>
    obtain ⟨hb, hbs⟩ := List.forall_mem_cons.1 h
    have hval : (UInt8.ofNat b).toNat = b := by simp [Nat.mod_eq_of_lt hb]
    rw [List.map_cons, List.cons_append, scan, hval]
    exact ih hbs _ _

@[simp] theorem encode_nil : encode [] = [] := rfl

theorem encode_cons (c : Char) (s : List Char) :
    encode (c :: s) = (encodeChar c).map UInt8.ofNat ++ encode s := rfl

theorem encode_append (s t : List Char) : encode (s ++ t) = encode s ++ encode t :=
  List.flatMap_append

theorem encode_cons_of_ascii {c : Char} (h : c.toNat < 0x80) (s : List Char) :
    encode (c :: s) = UInt8.ofNat c.toNat :: encode s := by
  rw [encode_cons, encodeChar, if_pos h]
  rfl

theorem scan_encode (acc : List (Option Char)) (s : List Char) :
    scan acc none (encode s) = acc.reverse ++ s.map some := by
  induction s generalizing acc with
  | nil => simp [scan]
  | cons c s ih =>
    rw [encode_cons, scan_map_ofNat (fun b => lt_of_mem_encodeChar), scanCodes_encodeChar, ih]
    simp

theorem pieces_encode (s : List Char) : pieces (encode s) = s.map some := by
  rw [pieces, scan_encode]
  rfl

theorem decode?_encode (s : List Char) : decode? (encode s) = some s := by
  simp [decode?, pieces_encode]

theorem decodeLossy_of_decode? {bs : Bytes} {s : List Char} (h : decode? bs = some s) :
    decodeLossy bs = s := by
  have hpieces : ∀ ps : List (Option Char), ps.all Option.isSome = true →
      ps.map (·.getD '\ufffd') = ps.filterMap id := by
    intro ps hall
    induction ps with
    | nil => rfl
    | cons p ps ih =>
      obtain ⟨hp, hall⟩ := Bool.and_eq_true_iff.1 hall
      obtain ⟨c, rfl⟩ := Option.isSome_iff_exists.1 hp
      simp [ih hall]
  rw [decode?] at h
  split at h
  · next hall =>
    cases h
    exact hpieces _ hall
  · cases h

theorem decodeLossy_encode (s : List Char) : decodeLossy (encode s) = s :=
  decodeLossy_of_decode? (decode?_encode s)

end Utf8

end Courier
