import Mathlib.Data.List.Basic

/-!
# Base64

Three bytes are written as four digits of six bits, and a shorter rest with padding. Reading accepts
both alphabets, skips what is no digit and ends at the padding.
-/

namespace CreativeBackend.Base64

def alphabet : List Char :=
  "ABCDEFGHIJKLMNOPQRSTUVWXYZabcdefghijklmnopqrstuvwxyz0123456789+/".toList

def digit (n : Nat) : Char := alphabet.getD n '='

/-- The digit of either alphabet that a character stands for. -/
def value (c : Char) : Option Nat :=
  if c = '-' then some 62 else if c = '_' then some 63 else alphabet.findIdx? (· == c)

/-- The digits of bytes. -/
def toDigits : List UInt8 → List Nat
  | [] => []
  | [a] => [a.toNat / 4, a.toNat % 4 * 16]
  | [a, b] => [a.toNat / 4, a.toNat % 4 * 16 + b.toNat / 16, b.toNat % 16 * 4]
  | a :: b :: c :: rest =>
      a.toNat / 4 :: (a.toNat % 4 * 16 + b.toNat / 16) :: (b.toNat % 16 * 4 + c.toNat / 64) ::
        c.toNat % 64 :: toDigits rest

/-- The bytes that digits are complete for. -/
def ofDigits : List Nat → List UInt8
  | p :: q :: r :: s :: rest =>
      UInt8.ofNat (p * 4 + q / 16) :: UInt8.ofNat (q % 16 * 16 + r / 4) ::
        UInt8.ofNat (r % 4 * 64 + s) :: ofDigits rest
  | [p, q, r] => [UInt8.ofNat (p * 4 + q / 16), UInt8.ofNat (q % 16 * 16 + r / 4)]
  | [p, q] => [UInt8.ofNat (p * 4 + q / 16)]
  | _ => []

/-- `toString('base64')`. -/
def encode (bytes : List UInt8) : List Char :=
  (toDigits bytes).map digit ++ List.replicate ((3 - bytes.length % 3) % 3) '='

/-- `Buffer.from(text, 'base64')`. -/
def decode (text : List Char) : List UInt8 := ofDigits ((text.takeWhile (· ≠ '=')).filterMap value)

theorem toDigits_lt (bytes : List UInt8) : ∀ n ∈ toDigits bytes, n < 64 := by
  have hbyte : ∀ b : UInt8, b.toNat < 256 := fun b => b.toNat_lt
  induction bytes using toDigits.induct with
  | case1 => simp [toDigits]
  | case2 a =>
      have ha := hbyte a
      simp only [toDigits, List.forall_mem_cons, List.not_mem_nil, false_imp_iff, implies_true,
        and_true]
      omega
  | case3 a b =>
      have ha := hbyte a
      have hb := hbyte b
      simp only [toDigits, List.forall_mem_cons, List.not_mem_nil, false_imp_iff, implies_true,
        and_true]
      omega
  | case4 a b c rest ih =>
      have ha := hbyte a
      have hb := hbyte b
      have hc := hbyte c
      simp only [toDigits, List.forall_mem_cons]
      exact ⟨by omega, by omega, by omega, by omega, ih⟩

theorem ofNat_of_eq {n : Nat} {b : UInt8} (h : n = b.toNat) : UInt8.ofNat n = b := by
  rw [h]
  exact UInt8.ofNat_toNat

/-- The bytes are read back from their digits. -/
theorem ofDigits_toDigits (bytes : List UInt8) : ofDigits (toDigits bytes) = bytes := by
  have hbyte : ∀ b : UInt8, b.toNat < 256 := fun b => b.toNat_lt
  induction bytes using toDigits.induct with
  | case1 => rfl
  | case2 a =>
      have ha := hbyte a
      rw [toDigits, ofDigits, ofNat_of_eq (b := a) (by omega)]
  | case3 a b =>
      have ha := hbyte a
      have hb := hbyte b
      rw [toDigits, ofDigits, ofNat_of_eq (b := a) (by omega), ofNat_of_eq (b := b) (by omega)]
  | case4 a b c rest ih =>
      have ha := hbyte a
      have hb := hbyte b
      have hc := hbyte c
      rw [toDigits, ofDigits, ofNat_of_eq (b := a) (by omega), ofNat_of_eq (b := b) (by omega),
        ofNat_of_eq (b := c) (by omega), ih]

/-- The digits are read back from their characters. -/
theorem value_digit {n : Nat} (h : n < 64) : value (digit n) = some n ∧ digit n ≠ '=' := by
  have hall : ∀ n < 64, value (digit n) = some n ∧ digit n ≠ '=' := by decide +kernel
  exact hall n h

/-- Digits with any padding are read back. -/
theorem decode_padded (bytes : List UInt8) (n : Nat) :
    decode ((toDigits bytes).map digit ++ List.replicate n '=') = bytes := by
  have hdigits : ∀ c ∈ (toDigits bytes).map digit, c ≠ '=' := by
    intro c hc
    obtain ⟨d, hd, rfl⟩ := List.mem_map.mp hc
    exact (value_digit (toDigits_lt bytes d hd)).2
  have htaken : ((toDigits bytes).map digit ++ List.replicate n '=').takeWhile (· ≠ '=') =
      (toDigits bytes).map digit := by
    rw [List.takeWhile_append_of_pos fun c hc => decide_eq_true (hdigits c hc)]
    cases n with
    | zero => simp
    | succ n => simp [List.replicate_succ]
  have hvalues : ∀ digits : List Nat, (∀ d ∈ digits, d < 64) →
      (digits.map digit).filterMap value = digits := by
    intro digits h
    induction digits with
    | nil => rfl
    | cons d digits ih =>
        rw [List.forall_mem_cons] at h
        rw [List.map_cons, List.filterMap_cons_some (value_digit h.1).1, ih h.2]
  rw [decode, htaken, hvalues _ (toDigits_lt bytes), ofDigits_toDigits]

end CreativeBackend.Base64
