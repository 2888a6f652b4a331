import CreativeBackend.Runtime.Text
import CreativeBackend.Visitors.Journal
import CreativeBackend.Interaction.Program
import CreativeBackend.Relational.Order

/-!
# The delta endpoint of the visitors

`findChangesForStaff` reads one page of the journal after the cursor of a device, the
visitors that the page upserts, and the latest cursor of the event.

## Implementation notes

`countFirst` says which of the two queries of `Promise.all` is answered first. The event is
that of the active assignment of the staff member.
-/

namespace CreativeBackend

open Interaction Relational

/-! ## The database -/

/-- The committed rows that the endpoint reads. -/
structure VisitorRows where
  registrations : List VisitorRegistration
  qrTokens : List VisitorQrToken
  attendeeTypes : List AttendeeType

/-- The rows after a write is committed; a registration takes its QR token with it. -/
def VisitorRows.write (rows : VisitorRows) : VisitorWrite → VisitorRows
  | .insertRegistration new => { rows with registrations := rows.registrations ++ [new] }
  | .updateRegistration old new => { rows with
      registrations := rows.registrations.map fun x => if x.id = old.id then new else x }
  | .deleteRegistration old => { rows with
      registrations := rows.registrations.filter fun x => x.id ≠ old.id
      qrTokens := rows.qrTokens.filter fun x => x.registrationId ≠ old.id }
  | .insertQrToken new => { rows with qrTokens := rows.qrTokens ++ [new] }
  | .updateQrToken old new => { rows with
      qrTokens := rows.qrTokens.map fun x => if x.id = old.id then new else x }

structure VisitorDb where
  journal : Journal
  rows : VisitorRows

/-- What the transactions of the other services do to the database. -/
inductive DbAct where
  | begin
  | write (i : Nat) (w : VisitorWrite) (now : Time)
  | skipId
  | commit (i : Nat)
  | rollback (i : Nat)

def VisitorDb.act (db : VisitorDb) : DbAct → VisitorDb
  | .begin => { db with journal := db.journal.begin }
  | .write i w now => { db with journal := db.journal.write i w now }
  | .skipId => { db with journal := db.journal.skipId }
  | .commit i => {
      journal := db.journal.commit i
      rows := ((db.journal.opens[i]?.map (·.writes)).getD []).foldl VisitorRows.write db.rows }
  | .rollback i => { db with journal := db.journal.rollback i }

/-- A registration with the relations that the query selects. -/
structure VisitorRow where
  registration : VisitorRegistration
  attendeeType : Option AttendeeType
  qrToken : Option VisitorQrToken

/-- The queries of the endpoint. -/
inductive VisitorCall where
  | changes (eventId : Id) (after take : Nat)
  | registrations (eventId : Id) (ids : List Id)
  | latestChange (eventId : Id)
  | countRegistrations (eventId : Id)

abbrev VisitorResp : VisitorCall → Type
  | .changes _ _ _ => List VisitorChange
  | .registrations _ _ => List VisitorRow
  | .latestChange _ => Option Nat
  | .countRegistrations _ => Nat

abbrev VisitorSvc := Prog VisitorResp Exn

def visitorCall (c : VisitorCall) : VisitorSvc (VisitorResp c) := Prog.call c

namespace VisitorDb

variable (db : VisitorDb)

/-- `findMany` on the journal: the committed rows after a cursor in the order of their ids. -/
def changesAfter (eventId : Id) (after take : Nat) : List VisitorChange :=
  (((db.journal.committed.filter fun c => c.eventId = eventId ∧ after < c.id)).insertionSort
    fun a b => a.id ≤ b.id).take take

def registrationsByIds (eventId : Id) (ids : List Id) : List VisitorRow :=
  (db.rows.registrations.filter fun x => x.eventId = eventId ∧ x.id ∈ ids).map fun x => {
    registration := x
    attendeeType := db.rows.attendeeTypes.find? fun t => t.id = x.attendeeTypeId
    qrToken := db.rows.qrTokens.find? fun t => t.registrationId = x.id }

/-- `_max.id`. -/
def latestChange (eventId : Id) : Option Nat :=
  ((db.journal.committed.filter fun c => c.eventId = eventId).map (·.id)).max?

/-- The answer to a query. -/
def answer : (c : VisitorCall) → VisitorResp c
  | .changes eventId after take => db.changesAfter eventId after take
  | .registrations eventId ids => db.registrationsByIds eventId ids
  | .latestChange eventId => db.latestChange eventId
  | .countRegistrations eventId =>
      (db.rows.registrations.filter fun x => x.eventId = eventId).length

end VisitorDb

/-! ## The endpoint -/

structure StaffVisitorChangesQueryDto where
  after : Option String := none
  limit : Int := 500

structure OfflineQr where
  id : Id
  tokenId : String
  qrToken : String
  token : String
  value : String
  signedToken : Option String := none
  compactQrToken : String
  status : QrTokenStatus
  validFrom : Time
  validUntil : Time
  generatedAt : Time
  updatedAt : Time
  imageUrl : Option String := none
  relativePath : Option String := none

/-- A visitor as the scanners store it: the selected columns, and its QR token. -/
structure OfflineVisitor where
  registration : VisitorRegistration
  attendeeType : Option AttendeeType
  customFields : Json
  qrToken : Option String
  canonicalQrToken : Option String
  qr : Option OfflineQr

structure ChangeItem where
  cursor : String
  operation : ChangeOperation
  registrationId : Id
  changedAt : String
  visitor : Option OfflineVisitor

structure ChangesReply where
  eventId : Id
  afterCursor : String
  nextCursor : String
  latestCursor : String
  hasMore : Bool
  visitorsCount : Nat
  changes : List ChangeItem

variable (rt : Runtime)

namespace VisitorsService

/-- `/^\d+$/.test(value)`. -/
def isDecimal (value : String) : Bool := !value.toList.isEmpty && value.toList.all Char.isDigit

/-- `BigInt(value)` of decimal digits. -/
def bigInt (value : String) : Nat := Nat.ofDigitChars 10 value.toList 0

def parseVisitorChangeCursor (value : Option String) : Except Exn Nat :=
  let normalized := (truthy (value.map trim)).getD "0"
  if isDecimal normalized then .ok (bigInt normalized)
  else .error (.badRequest "after must be a non-negative integer")

def createCompactTokenForOffline (tokenId : String) : Except Exn String :=
  if trim tokenId = "" then .error (.badRequest "QR token ID is required")
  else createCompactQrToken rt (trim tokenId)

def formatOfflineQr (qrToken : VisitorQrToken) : Except Exn OfflineQr := do
  let compactQrToken ← createCompactTokenForOffline rt qrToken.tokenId
  return {
    id := qrToken.id
    tokenId := qrToken.tokenId
    qrToken := compactQrToken
    token := compactQrToken
    value := compactQrToken
    compactQrToken
    status := qrToken.status
    validFrom := qrToken.validFrom
    validUntil := qrToken.validUntil
    generatedAt := qrToken.generatedAt
    updatedAt := qrToken.updatedAt }

def formatOfflineVisitor (visitor : VisitorRow) : Except Exn OfflineVisitor := do
  let qr ← visitor.qrToken.mapM (formatOfflineQr rt)
  return {
    registration := visitor.registration
    attendeeType := visitor.attendeeType
    customFields := visitor.registration.customFields.getD (.obj [])
    qrToken := qr.map (·.qrToken)
    canonicalQrToken := qr.map (·.qrToken)
    qr }

/-- `map.set(change.registrationId, change)`. -/
def setChange (changes : List VisitorChange) (change : VisitorChange) : List VisitorChange :=
  if changes.any fun c => c.registrationId = change.registrationId then
    changes.map fun c => if c.registrationId = change.registrationId then change else c
  else changes ++ [change]

/-- The newest change of each registration in a page, in the order of their ids. -/
def effectiveRows (pageRows : List VisitorChange) : List VisitorChange :=
  (pageRows.foldl setChange []).insertionSort fun a b => a.id ≤ b.id

/-- The registrations that a page upserts. -/
def upsertedIds (rows : List VisitorChange) : List Id :=
  ((rows.filter fun c => c.operation = .UPSERT).map (·.registrationId)).eraseDups

/-- The visitor of an upsert. -/
def changedVisitor (registrations : List VisitorRow) (change : VisitorChange) :
    Except Exn (Option OfflineVisitor) :=
  match change.operation, registrations.find? fun x => x.registration.id = change.registrationId with
  | .UPSERT, some registration => some <$> formatOfflineVisitor rt registration
  | _, _ => .ok none

/-- One entry of the reply. -/
def changeItem (registrations : List VisitorRow) (change : VisitorChange) :
    Except Exn ChangeItem := do
  let visitor ← changedVisitor rt registrations change
  return {
    cursor := toString change.id
    operation := change.operation
    registrationId := change.registrationId
    changedAt := rt.toISOString change.changedAt
    visitor }

/-- `Math.min(Math.max(query.limit || 500, 1), 1000)`. -/
def pageLimit (limit : Int) : Nat := (min (max (if limit = 0 then 500 else limit) 1) 1000).toNat

/-- The two queries of `Promise.all`. -/
def readLatest (countFirst : Bool) (eventId : Id) : VisitorSvc (Option Nat × Nat) :=
  if countFirst then do
    let visitorsCount ← visitorCall (.countRegistrations eventId)
    let latest ← visitorCall (.latestChange eventId)
    return (latest, visitorsCount)
  else do
    let latest ← visitorCall (.latestChange eventId)
    let visitorsCount ← visitorCall (.countRegistrations eventId)
    return (latest, visitorsCount)

/-- The visitors that a page upserts. -/
def readRegistrations (eventId : Id) (ids : List Id) : VisitorSvc (List VisitorRow) :=
  if ids.length > 0 then visitorCall (.registrations eventId ids) else return []

/-- The reply for a page. -/
def changesReply (eventId : Id) (after : Nat) (hasMore : Bool) (pageRows : List VisitorChange)
    (latest : Option Nat) (visitorsCount : Nat) (changes : List ChangeItem) : ChangesReply :=
  let nextCursor := ((pageRows.getLast?.map (·.id)).getD after)
  let latestCursor := latest.getD 0
  { eventId
    afterCursor := toString after
    nextCursor := toString nextCursor
    latestCursor := toString latestCursor
    hasMore := hasMore || nextCursor < latestCursor
    visitorsCount
    changes }

def findChangesForStaff (eventId : Id) (countFirst : Bool) (query : StaffVisitorChangesQueryDto) :
    VisitorSvc ChangesReply := do
  let after ← Prog.ofExcept (parseVisitorChangeCursor query.after)
  let limit := pageLimit query.limit
  let rows ← visitorCall (.changes eventId after (limit + 1))
  let hasMore : Bool := rows.length > limit
  let pageRows := if hasMore then rows.take limit else rows
  let effective := effectiveRows pageRows
  let registrations ← readRegistrations eventId (upsertedIds effective)
  let (latest, visitorsCount) ← readLatest countFirst eventId
  let changes ← Prog.ofExcept (effective.mapM (changeItem rt registrations))
  return changesReply eventId after hasMore pageRows latest visitorsCount changes

/-! ## Cursors -/

theorem isDigit_of_mem_repr {n : Nat} : ∀ c ∈ n.repr.toList, c.isDigit = true := by
  intro c hc
  rw [Nat.toList_repr] at hc
  exact Nat.isDigit_of_mem_toDigits (by decide) (by decide) hc

theorem isDecimal_repr (n : Nat) : isDecimal n.repr = true := by
  simp only [isDecimal, Bool.and_eq_true, List.all_eq_true]
  refine ⟨?_, isDigit_of_mem_repr⟩
  rw [Nat.toList_repr]
  simp [Nat.toDigits_ne_nil]

/-- A cursor is read back as it was written. -/
theorem parse_toString (n : Nat) : parseVisitorChangeCursor (some (toString n)) = .ok n := by
  have htrim : trim n.repr = n.repr :=
    trim_eq_self fun c hc => isTrimmed_of_isDigit (isDigit_of_mem_repr c hc)
  have hsome : truthy (some n.repr) = some n.repr :=
    truthy_eq_some_iff.mpr ⟨rfl, Nat.repr_ne_empty⟩
  have hvalue : bigInt n.repr = n := by
    rw [bigInt, Nat.toList_repr, Nat.ofDigitChars_ten_toDigits]
  show parseVisitorChangeCursor (some n.repr) = .ok n
  simp only [parseVisitorChangeCursor, Option.map_some, htrim, hsome, Option.getD_some,
    isDecimal_repr, if_true, hvalue]

/-! ## Pages -/

variable {rows : List VisitorChange} {c : VisitorChange}

theorem mem_setChange {changes : List VisitorChange} {change : VisitorChange}
    (hc : c ∈ changes) (hle : c.id ≤ change.id) : ∃ d ∈ setChange changes change,
      d.registrationId = c.registrationId ∧ c.id ≤ d.id := by
  unfold setChange
  split
  · by_cases hsame : c.registrationId = change.registrationId
    · refine ⟨change, List.mem_map.mpr ⟨c, hc, by simp [hsame]⟩, hsame.symm, hle⟩
    · refine ⟨c, List.mem_map.mpr ⟨c, hc, by simp [hsame]⟩, rfl, Nat.le_refl _⟩
  · exact ⟨c, List.mem_append_left _ hc, rfl, Nat.le_refl _⟩

theorem mem_setChange_self (changes : List VisitorChange) (change : VisitorChange) :
    change ∈ setChange changes change := by
  unfold setChange
  split
  · next h =>
      obtain ⟨d, hd, hsame⟩ := List.any_eq_true.mp h
      rw [decide_eq_true_eq] at hsame
      exact List.mem_map.mpr ⟨d, hd, if_pos hsame⟩
  · exact List.mem_append_right _ (List.mem_singleton.mpr rfl)

theorem eq_or_mem_of_setChange {changes : List VisitorChange} {change : VisitorChange}
    (h : c ∈ setChange changes change) : c ∈ changes ∨ c = change := by
  unfold setChange at h
  split at h
  · obtain ⟨d, hd, rfl⟩ := List.mem_map.mp h
    split
    · exact .inr rfl
    · exact .inl hd
  · exact (List.mem_append.mp h).imp_right List.mem_singleton.mp

/-- A change of the map or of the rest of the page is in the result, or a newer one of its
registration is. -/
theorem exists_foldl_setChange {changes : List VisitorChange}
    (hsorted : rows.Pairwise fun a b => a.id ≤ b.id)
    (hle : ∀ a ∈ changes, ∀ b ∈ rows, a.id ≤ b.id) (hc : c ∈ changes ∨ c ∈ rows) :
    ∃ d ∈ rows.foldl setChange changes, d.registrationId = c.registrationId ∧ c.id ≤ d.id := by
  induction rows generalizing changes c with
  | nil =>
      rcases hc with hc | hc
      · exact ⟨c, hc, rfl, Nat.le_refl _⟩
      · cases hc
  | cons change rest ih =>
      obtain ⟨hchange, hrest⟩ := List.pairwise_cons.mp hsorted
      have hle' : ∀ a ∈ setChange changes change, ∀ b ∈ rest, a.id ≤ b.id := by
        intro a ha b hb
        rcases eq_or_mem_of_setChange ha with ha | rfl
        · exact hle a ha b (List.mem_cons_of_mem _ hb)
        · exact hchange b hb
      rcases hc with hc | hc
      · obtain ⟨d, hd, hreg, hid⟩ := mem_setChange hc (hle c hc change List.mem_cons_self)
        obtain ⟨e, he, hreg', hid'⟩ := ih hrest hle' (.inl hd)
        exact ⟨e, he, hreg'.trans hreg, hid.trans hid'⟩
      · rcases List.mem_cons.mp hc with rfl | hc
        · exact ih hrest hle' (.inl (mem_setChange_self _ _))
        · exact ih hrest hle' (.inr hc)

/-- The newest change of each registration is in the order of the ids, and covers the page. -/
theorem exists_effectiveRow (hsorted : rows.Pairwise fun a b => a.id ≤ b.id) (hc : c ∈ rows) :
    ∃ d ∈ effectiveRows rows, d.registrationId = c.registrationId ∧ c.id ≤ d.id := by
  have hfold : ∃ d ∈ rows.foldl setChange [], d.registrationId = c.registrationId ∧ c.id ≤ d.id :=
    exists_foldl_setChange hsorted (by simp) (.inr hc)
  obtain ⟨d, hd, h⟩ := hfold
  exact ⟨d, (List.mem_insertionSort _).mpr hd, h⟩

theorem changeItem_eq_ok {rt : Runtime} {registrations : List VisitorRow} {item : ChangeItem}
    (h : changeItem rt registrations c = .ok item) :
    item.cursor = toString c.id ∧ item.operation = c.operation ∧
      item.registrationId = c.registrationId := by
  simp only [changeItem, bind, Except.bind] at h
  split at h
  · cases h
  · cases h
    exact ⟨rfl, rfl, rfl⟩

end VisitorsService

end CreativeBackend
