import Mathlib.Data.List.Basic

/-!
# URI components

`encodeURIComponent` writes the bytes of every character but the unreserved ones as two
hexadecimal digits after a percent sign, and `decodeURIComponent` reads them back.
-/

namespace CreativeBackend.Uri

/-- `A-Z a-z 0-9 - _ . ! ~ * ' ( )`. -/
def unreserved (c : Char) : Bool := c.isAlphanum || "-_.!~*'()".toList.contains c

def hexDigits : List Char := "0123456789ABCDEF".toList

def hexDigit (n : Nat) : Char := hexDigits.getD n '0'

/-- The value of a hexadecimal digit of either case. -/
def hexValue (c : Char) : Option Nat := hexDigits.findIdx? (· == c.toUpper)

def percent (b : UInt8) : List Char := ['%', hexDigit (b.toNat / 16), hexDigit (b.toNat % 16)]

def encodeChar (c : Char) : List Char :=
  if unreserved c = true then [c] else (String.utf8EncodeChar c).flatMap percent

def encodeURIComponent (s : String) : String := String.ofList (s.toList.flatMap encodeChar)

/-- The bytes of an encoded text; `none` is a `URIError`. -/
def decodeBytes : List Char → Option (List UInt8)
  | [] => some []
  | c :: rest =>
      if c = '%' then
        match rest with
        | high :: low :: rest => do
            let h ← hexValue high
            let l ← hexValue low
            (decodeBytes rest).map (UInt8.ofNat (16 * h + l) :: ·)
        | _ => none
      else (decodeBytes rest).map (String.utf8EncodeChar c ++ ·)

def decodeURIComponent (s : String) : Option String :=
  (decodeBytes s.toList).bind fun bytes => String.fromUTF8? bytes.toByteArray

theorem hexValue_hexDigit {n : Nat} (h : n < 16) : hexValue (hexDigit n) = some n := by
  have hall : ∀ n < 16, hexValue (hexDigit n) = some n := by decide
  exact hall n h

theorem decodeBytes_percent (b : UInt8) (rest : List Char) :
    decodeBytes (percent b ++ rest) = (decodeBytes rest).map (b :: ·) := by
  have hb : b.toNat < 256 := b.toNat_lt
  have hbyte : UInt8.ofNat (16 * (b.toNat / 16) + b.toNat % 16) = b := by
    rw [Nat.div_add_mod]
    exact UInt8.ofNat_toNat
  have hhigh : b.toNat / 16 < 16 := by omega
  have hlow : b.toNat % 16 < 16 := by omega
  simp only [percent, List.cons_append, List.nil_append, decodeBytes, if_true,
    hexValue_hexDigit hhigh, hexValue_hexDigit hlow, Option.bind_eq_bind, Option.bind_some, hbyte]

theorem decodeBytes_percents (bytes : List UInt8) (rest : List Char) :
    decodeBytes (bytes.flatMap percent ++ rest) = (decodeBytes rest).map (bytes ++ ·) := by
  induction bytes with
  | nil => simp
  | cons b bytes ih =>
      rw [List.flatMap_cons, List.append_assoc, decodeBytes_percent, ih, Option.map_map]
      rfl

theorem decodeBytes_of_ne {c : Char} (hc : c ≠ '%') (rest : List Char) :
    decodeBytes (c :: rest) = (decodeBytes rest).map (String.utf8EncodeChar c ++ ·) := by
  cases rest with
  | nil => simp [decodeBytes, hc]
  | cons d rest =>
      cases rest with
      | nil => rw [decodeBytes, if_neg hc]; simp
      | cons e rest => rw [decodeBytes, if_neg hc]

theorem decodeBytes_encodeChar (c : Char) (rest : List Char) :
    decodeBytes (encodeChar c ++ rest) =
      (decodeBytes rest).map (String.utf8EncodeChar c ++ ·) := by
  unfold encodeChar
  split
  · next hc =>
      have hne : c ≠ '%' := by
        rintro rfl
        exact absurd hc (by decide)
      rw [List.singleton_append, decodeBytes_of_ne hne]
  · exact decodeBytes_percents _ rest

theorem decodeBytes_encode (cs : List Char) :
    decodeBytes (cs.flatMap encodeChar) = some (cs.flatMap String.utf8EncodeChar) := by
  induction cs with
  | nil => rfl
  | cons c cs ih =>
      rw [List.flatMap_cons, decodeBytes_encodeChar, ih, Option.map_some, List.flatMap_cons]

/-- A text is read back from its bytes. -/
theorem fromUTF8?_bytes (s : String) :
    String.fromUTF8? (s.toList.flatMap String.utf8EncodeChar).toByteArray = some s := by
  have hbytes : (s.toList.flatMap String.utf8EncodeChar).toByteArray = s.toByteArray := by
    rw [← String.utf8Encode_toList, List.utf8Encode]
  rw [hbytes, String.fromUTF8?, dif_pos s.isValidUTF8]
  rfl

/-- Decoding reads back what was encoded. -/
theorem decodeURIComponent_encodeURIComponent (s : String) :
    decodeURIComponent (encodeURIComponent s) = some s := by
  rw [decodeURIComponent, encodeURIComponent, String.toList_ofList, decodeBytes_encode,
    Option.bind_some, fromUTF8?_bytes]

end CreativeBackend.Uri
