import CreativeBackend.Runtime.Base64
import CreativeBackend.Runtime.JsonText
import CreativeBackend.Visitors.VisitorsService

/-!
# The cursor of the offline snapshot

A page of the snapshot names the next one by a cursor: the JSON text of the snapshot and of the last
row, in base64 for URLs. The cursor that the service writes is the one that it reads back.

## Implementation notes

`replaced` shows bytes that are no UTF-8 with replacement characters.
-/

namespace CreativeBackend

/-- Library functions whose results no cursor of the service depends on. -/
structure TextLibrary where
  nearest : Rat → Rat
  replaced : List UInt8 → String

structure StaffOfflineSnapshotCursor where
  version : Nat
  eventId : Id
  snapshotAsOf : String
  createdAt : String
  id : Id
  changeCursor : Option Json

/-- The object that `JSON.stringify` prints; a property that is undefined is left out. -/
def StaffOfflineSnapshotCursor.toJson (c : StaffOfflineSnapshotCursor) : Json :=
  .obj ([("version", .num (Rat.ofInt c.version)), ("eventId", .str c.eventId),
    ("snapshotAsOf", .str c.snapshotAsOf), ("createdAt", .str c.createdAt), ("id", .str c.id)] ++
      (c.changeCursor.map fun j => ("changeCursor", j)).toList)

variable (rt : Runtime) (lib : TextLibrary)

namespace VisitorsService

/-- `Buffer.from(value, 'utf8')`. -/
def utf8Bytes (s : String) : List UInt8 := s.toList.flatMap String.utf8EncodeChar

/-- `toString('utf8')`. -/
def utf8Text (bytes : List UInt8) : String :=
  (String.fromUTF8? bytes.toByteArray).getD (lib.replaced bytes)

/-- The symbols `+` and `/` are replaced by `-` and `_`. -/
def forUrl (c : Char) : Char := if c = '+' then '-' else if c = '/' then '_' else c

/-- The two replacements the other way. -/
def fromUrl (c : Char) : Char := if c = '-' then '+' else if c = '_' then '/' else c

def encodeOfflineSnapshotCursor (cursor : StaffOfflineSnapshotCursor) : String :=
  let json := JsonText.stringify rt cursor.toJson
  String.ofList (((Base64.encode (utf8Bytes json)).map forUrl).rdropWhile (· = '='))

/-- `parsed.version`, which is 2 or 3. -/
def cursorVersion (parsed : Json) : Option Nat :=
  if parsed.integer? "version" = some 2 then some 2
  else if parsed.integer? "version" = some 3 then some 3
  else none

/-- The cursor in a JSON value. -/
def readCursor (parsed : Json) : Option StaffOfflineSnapshotCursor := do
  let version ← cursorVersion parsed
  let eventId ← parsed.string? "eventId"
  let snapshotAsOf ← parsed.string? "snapshotAsOf"
  let createdAt ← parsed.string? "createdAt"
  let id ← parsed.string? "id"
  if trim eventId = "" ∨ trim id = "" then none
  else
    let changeCursor := parsed.field? "changeCursor"
    if changeCursor.all fun j => isDecimal (jsString rt j) then
      some { version, eventId, snapshotAsOf, createdAt, id, changeCursor }
    else none

/-- The JSON text of an encoded cursor. -/
def cursorText (encodedCursor : String) : String :=
  let normalized := (trim encodedCursor).toList.map fromUrl
  let paddingLength := (4 - utf16Length (String.ofList normalized) % 4) % 4
  utf8Text lib (Base64.decode (normalized ++ List.replicate paddingLength '='))

def decodeOfflineSnapshotCursor (encodedCursor : String) :
    Except Exn StaffOfflineSnapshotCursor :=
  ((JsonText.parse lib.nearest (cursorText lib encodedCursor)).bind (readCursor rt)).elim
    (.error (.badRequest "Invalid offline snapshot cursor")) .ok

def parseCursorDate (value errorMessage : String) : Except Exn Time :=
  match rt.parseDate value with
  | some parsed => .ok parsed
  | none => .error (.badRequest errorMessage)

def createSnapshotId (eventId : Id) (snapshotAsOf : String) : String :=
  encodeOfflineSnapshotCursor rt {
    version := 3
    eventId
    snapshotAsOf
    createdAt := snapshotAsOf
    id := "snapshot"
    changeCursor := some (.str "0") }

/-! ## The cursor is read back -/

/-- A cursor that the service writes: its ids are not blank, and its change cursor is a decimal
number. -/
structure Produced (c : StaffOfflineSnapshotCursor) : Prop where
  version : c.version = 3
  eventId : trim c.eventId ≠ ""
  id : trim c.id ≠ ""
  changeCursor : ∃ s, c.changeCursor = some (.str s) ∧ isDecimal s = true

theorem utf8Text_utf8Bytes (s : String) : utf8Text lib (utf8Bytes s) = s := by
  rw [utf8Text, utf8Bytes, Uri.fromUTF8?_bytes, Option.getD_some]

/-- What becomes of a digit. -/
theorem digit_forUrl {n : Nat} (h : n < 64) :
    fromUrl (forUrl (Base64.digit n)) = Base64.digit n ∧
      forUrl (Base64.digit n) ≠ '=' ∧ isTrimmed (forUrl (Base64.digit n)) = false := by
  have hall : ∀ n < 64, fromUrl (forUrl (Base64.digit n)) = Base64.digit n ∧
      forUrl (Base64.digit n) ≠ '=' ∧ isTrimmed (forUrl (Base64.digit n)) = false := by
    decide +kernel
  exact hall n h

/-- The digits of the text in the alphabet for URLs. -/
def urlDigits (bytes : List UInt8) : List Char :=
  (Base64.toDigits bytes).map fun n => forUrl (Base64.digit n)

theorem mem_urlDigits {bytes : List UInt8} {c : Char} (h : c ∈ urlDigits bytes) :
    c ≠ '=' ∧ isTrimmed c = false := by
  obtain ⟨n, hn, rfl⟩ := List.mem_map.mp h
  exact (digit_forUrl (Base64.toDigits_lt bytes n hn)).2

theorem map_fromUrl_urlDigits (bytes : List UInt8) :
    (urlDigits bytes).map fromUrl = (Base64.toDigits bytes).map Base64.digit := by
  rw [urlDigits, List.map_map]
  apply List.map_congr_left
  intro n hn
  exact (digit_forUrl (Base64.toDigits_lt bytes n hn)).1

/-- The padding is removed. -/
theorem rdropWhile_encode (bytes : List UInt8) :
    ((Base64.encode bytes).map forUrl).rdropWhile (· = '=') = urlDigits bytes := by
  have hpadding : ∀ c ∈ (List.replicate ((3 - bytes.length % 3) % 3) '=').reverse,
      decide (c = '=') = true := by
    intro c hc
    rw [List.reverse_replicate] at hc
    exact decide_eq_true (List.eq_of_mem_replicate hc)
  have hdigits : ∀ c ∈ (urlDigits bytes).reverse, decide (c = '=') = false := fun c hc =>
    decide_eq_false (mem_urlDigits (List.mem_reverse.mp hc)).1
  have hmap : (Base64.encode bytes).map forUrl =
      urlDigits bytes ++ List.replicate ((3 - bytes.length % 3) % 3) '=' := by
    rw [Base64.encode, List.map_append, List.map_map, List.map_replicate]
    rfl
  rw [hmap, List.rdropWhile, List.reverse_append, dropWhile_append_left hpadding,
    dropWhile_eq_self hdigits, List.reverse_reverse]

theorem toList_encode (c : StaffOfflineSnapshotCursor) :
    (encodeOfflineSnapshotCursor rt c).toList =
      urlDigits (utf8Bytes (JsonText.stringify rt c.toJson)) := by
  rw [encodeOfflineSnapshotCursor, String.toList_ofList, rdropWhile_encode]

theorem encode_ne_empty (c : StaffOfflineSnapshotCursor) :
    encodeOfflineSnapshotCursor rt c ≠ "" := by
  intro hempty
  have hdigits : urlDigits (utf8Bytes (JsonText.stringify rt c.toJson)) = [] := by
    rw [← toList_encode, hempty]
    rfl
  have hbytes : utf8Bytes (JsonText.stringify rt c.toJson) = [] := by
    rw [urlDigits, List.map_eq_nil_iff] at hdigits
    rw [← Base64.ofDigits_toDigits (utf8Bytes _), hdigits]
    rfl
  obtain ⟨rest, htext⟩ : ∃ rest, (JsonText.stringify rt c.toJson).toList = '\x7b' :: rest :=
    ⟨_, by rw [JsonText.stringify, String.toList_ofList]; rfl⟩
  rw [utf8Bytes, htext, List.flatMap_cons, List.append_eq_nil_iff] at hbytes
  exact absurd hbytes.1 (by decide)

variable {rt}

theorem parse_toJson {c : StaffOfflineSnapshotCursor} (h : Produced c) :
    JsonText.parse lib.nearest (JsonText.stringify rt c.toJson) = some c.toJson := by
  obtain ⟨s, hchange, -⟩ := h.changeCursor
  have hstring : ∀ s, JsonText.Plain (.str s) := fun s => ⟨rfl, fun q hq => by cases hq⟩
  have hversion : JsonText.Plain (.num (Rat.ofInt c.version)) := by
    refine ⟨rfl, fun q hq => ?_⟩
    rw [h.version] at hq
    obtain rfl := Json.num.inj hq
    decide
  rw [StaffOfflineSnapshotCursor.toJson, hchange]
  apply JsonText.parse_stringify
  · exact List.cons_ne_nil _ _
  · simp
  · rw [List.cons_append]
    exact List.forall_mem_cons.mpr ⟨hversion, by simp [hstring]⟩

theorem readCursor_toJson {c : StaffOfflineSnapshotCursor} (h : Produced c) :
    readCursor rt c.toJson = some c := by
  obtain ⟨s, hchange, hdecimal⟩ := h.changeCursor
  have heventId := h.eventId
  have hid := h.id
  obtain ⟨version, eventId, snapshotAsOf, createdAt, id, changeCursor⟩ := c
  obtain rfl : version = 3 := h.version
  obtain rfl : changeCursor = some (.str s) := hchange
  generalize hj : StaffOfflineSnapshotCursor.toJson
    { version := 3, eventId, snapshotAsOf, createdAt, id, changeCursor := some (.str s) } = j
  have hversion : cursorVersion j = some 3 := by
    subst hj
    rfl
  have hevent : j.string? "eventId" = some eventId := by
    subst hj
    rfl
  have hasOf : j.string? "snapshotAsOf" = some snapshotAsOf := by
    subst hj
    rfl
  have hcreated : j.string? "createdAt" = some createdAt := by
    subst hj
    rfl
  have hread : j.string? "id" = some id := by
    subst hj
    rfl
  have hcursor : j.field? "changeCursor" = some (.str s) := by
    subst hj
    rfl
  simp only [readCursor, hversion, hevent, hasOf, hcreated, hread, hcursor, Option.bind_eq_bind,
    Option.bind_some, if_neg (not_or.mpr ⟨heventId, hid⟩), Option.all_some, jsString, hdecimal,
    if_true]

theorem cursorText_encode (c : StaffOfflineSnapshotCursor) :
    cursorText lib (encodeOfflineSnapshotCursor rt c) = JsonText.stringify rt c.toJson := by
  have htrim : trim (encodeOfflineSnapshotCursor rt c) = encodeOfflineSnapshotCursor rt c := by
    apply trim_eq_self
    intro d hd
    rw [toList_encode] at hd
    exact (mem_urlDigits hd).2
  simp only [cursorText, htrim, toList_encode, map_fromUrl_urlDigits, Base64.decode_padded,
    utf8Text_utf8Bytes]

/-- The service reads back the cursor that it wrote. -/
theorem decode_encode {c : StaffOfflineSnapshotCursor} (h : Produced c) :
    decodeOfflineSnapshotCursor rt lib (encodeOfflineSnapshotCursor rt c) = .ok c := by
  rw [decodeOfflineSnapshotCursor, cursorText_encode, parse_toJson lib h, Option.bind_some,
    readCursor_toJson h, Option.elim_some]

end VisitorsService

end CreativeBackend
