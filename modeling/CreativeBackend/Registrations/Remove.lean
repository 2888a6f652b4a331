import CreativeBackend.Store.Calls

/-!
# Removing a registration

`RegistrationsService.remove` deletes a registration with the rows that refer to it, in
one transaction: its offline scans, offline mappings, movements, raw scans and QR token.
Rows of other registrations that refer to a deleted row lose the reference.

## Implementation notes

The deletions from the tables of ticket images, notifications and import rows are left
out, as no service here reads these tables. A movement that was written for another
registration restricts the deletion of its raw scan.
-/

namespace CreativeBackend

open Relational

/-- A nullable reference after the deletion of the rows with a property. -/
def detached (gone : Id → Bool) (reference : Option Id) : Option Id :=
  reference.filter fun id => !gone id

/-- Nulls do not clash. -/
theorem sameKey_of_detached {gone : Id → Bool} {a b : Option Id}
    (h : sameKey (detached gone a) (detached gone b) = true) : sameKey a b = true := by
  cases a with
  | none => simp [detached, sameKey] at h
  | some k =>
      by_cases hk : gone k = true
      · simp [detached, sameKey, hk] at h
      · simp only [detached, Option.filter_some, hk, Bool.not_false, if_true] at h
        simp only [sameKey, Option.isSome_some, Bool.true_and, beq_iff_eq] at h ⊢
        cases b with
        | none => cases h
        | some k' =>
            by_cases hk' : gone k' = true
            · simp [Option.filter_some, hk'] at h
            · simpa [Option.filter_some, hk'] using h

namespace Store

variable (s : Store) (id : Id)

/-- The movements, raw scans and tokens of a registration. -/
def isMovementOf (movementId : Id) : Bool :=
  s.movements.rows.any fun m => m.id = movementId && m.registrationId = id

def isRawScanOf (scanEventRawId : Id) : Bool :=
  s.rawScans.rows.any fun a => a.id = scanEventRawId && a.registrationId = some id

def isTokenOf (qrTokenId : Id) : Bool :=
  s.qrTokens.rows.any fun q => q.id = qrTokenId && q.registrationId = id

/-- An offline scan without its references to deleted rows. -/
def detachScan (x : OfflineScanOperation) : OfflineScanOperation :=
  { x with
    movementId := detached (s.isMovementOf id) x.movementId
    scanEventRawId := detached (s.isRawScanOf id) x.scanEventRawId }

def detachMapping (m : OfflineRegistrationMapping) : OfflineRegistrationMapping :=
  { m with canonicalQrTokenId := detached (s.isTokenOf id) m.canonicalQrTokenId }

def detachMovement (m : MovementLog) : MovementLog :=
  { m with qrTokenId := detached (s.isTokenOf id) m.qrTokenId }

def detachRaw (a : ScanEventRaw) : ScanEventRaw :=
  { a with qrTokenId := detached (s.isTokenOf id) a.qrTokenId }

theorem clash_detachScan (x y : OfflineScanOperation)
    (h : clash (s.detachScan id x) (s.detachScan id y) = true) : clash x y = true := by
  simp only [clash, Bool.or_eq_true] at h ⊢
  rcases h with (h | h) | h
  · exact .inl (.inl h)
  · exact .inl (.inr (sameKey_of_detached h))
  · exact .inr (sameKey_of_detached h)

/-- The rows that the transaction of `remove` leaves. -/
def withoutRegistration : Store :=
  { s with
    offlineScans := (s.offlineScans.deleteMany fun x => x.registrationId = some id).mapRows
      (s.detachScan id) (fun _ => rfl) (s.clash_detachScan id)
    mappings := (s.mappings.deleteMany fun m => m.registrationId = some id).mapRows
      (s.detachMapping id) (fun _ => rfl) (fun _ _ h => h)
    movements := (s.movements.deleteMany fun m => m.registrationId = id).mapRows
      (s.detachMovement id) (fun _ => rfl) (fun _ _ h => h)
    rawScans := (s.rawScans.deleteMany fun a => a.registrationId = some id).mapRows
      (s.detachRaw id) (fun _ => rfl) (fun _ _ h => h)
    qrTokens := s.qrTokens.deleteMany fun q => q.registrationId = id
    registrations := s.registrations.delete id }

/-- The deleted rows of each table. -/
structure DeletedRelations where
  offlineScans : Nat
  offlineMappings : Nat
  movements : Nat
  rawScans : Nat
  qrTokens : Nat

def countRelations : DeletedRelations where
  offlineScans := (s.offlineScans.rows.filter fun x => x.registrationId = some id).length
  offlineMappings := (s.mappings.rows.filter fun m => m.registrationId = some id).length
  movements := (s.movements.rows.filter fun m => m.registrationId = id).length
  rawScans := (s.rawScans.rows.filter fun a => a.registrationId = some id).length
  qrTokens := (s.qrTokens.rows.filter fun q => q.registrationId = id).length

/-- The transaction of `remove`. -/
def deleteRegistration : Answer DeletedRelations :=
  if s.movements.rows.any fun m => m.registrationId ≠ id && s.isRawScanOf id m.scanEventRawId then
    (.error (.prisma .foreignKey), s)
  else if (s.registrations.find? id).isNone then (.error (.prisma .notFound), s)
  else (.ok (s.countRelations id), s.withoutRegistration id)

end Store

namespace RegistrationsService

/-- What `remove` returns. -/
structure Removed where
  deleted : Bool
  registrationId : Id
  publicId : String
  deletedRelations : Store.DeletedRelations

def findRegistrationOrThrow (s : Store) (id : Id) : Except Exn Registration :=
  match s.registrations.find? id with
  | none => .error (.notFound "Registration not found")
  | some registration => .ok registration

def ensureEventCanBeModified (s : Store) (eventId : Id) : Except Exn Event :=
  match s.events.find? eventId with
  | none => .error (.notFound "Event not found")
  | some event =>
      if event.status = .ARCHIVED then .error (.badRequest "Archived events cannot be modified")
      else .ok event

def remove (s : Store) (id : Id) : Store.Answer Removed :=
  match findRegistrationOrThrow s id with
  | .error e => (.error e, s)
  | .ok registration =>
      match ensureEventCanBeModified s registration.eventId with
      | .error e => (.error e, s)
      | .ok _ =>
          match s.deleteRegistration id with
          | (.error e, s') => (.error e, s')
          | (.ok deletedRelations, s') =>
              (.ok { deleted := true
                     registrationId := registration.id
                     publicId := registration.publicId
                     deletedRelations }, s')

variable {s s' : Store} {id : Id}

/-- What a successful removal has done. -/
theorem remove_eq_ok {r : Removed} (h : remove s id = (.ok r, s')) :
    s' = s.withoutRegistration id ∧ ∃ registration ∈ s.registrations.rows, registration.id = id := by
  simp only [remove, findRegistrationOrThrow] at h
  cases hfind : s.registrations.find? id with
  | none =>
      rw [hfind] at h
      cases h
  | some registration =>
      simp only [hfind] at h
      split at h
      · cases h
      · split at h
        · cases h
        · next heq =>
            cases h
            refine ⟨?_, registration, (Table.find?_eq_some_iff.mp hfind)⟩
            simp only [Store.deleteRegistration] at heq
            split at heq
            · cases heq
            · split at heq
              · cases heq
              · cases heq
                rfl

end RegistrationsService

namespace Store

variable {s : Store} {id : Id}

theorem mem_registrations_withoutRegistration {r : Registration} :
    r ∈ (s.withoutRegistration id).registrations.rows ↔ r ∈ s.registrations.rows ∧ r.id ≠ id :=
  Table.mem_delete

theorem mem_qrTokens_withoutRegistration {q : QrToken} :
    q ∈ (s.withoutRegistration id).qrTokens.rows ↔ q ∈ s.qrTokens.rows ∧ q.registrationId ≠ id := by
  simp [withoutRegistration, Table.mem_deleteMany]

/-- A mapping that is left was there, with another registration. -/
theorem mem_mappings_withoutRegistration {m : OfflineRegistrationMapping}
    (h : m ∈ (s.withoutRegistration id).mappings.rows) :
    m.registrationId ≠ some id ∧ ∃ m₀ ∈ s.mappings.rows, m = s.detachMapping id m₀ := by
  obtain ⟨m₀, hm₀, rfl⟩ := List.mem_map.mp h
  obtain ⟨hmem, hkept⟩ := Table.mem_deleteMany.mp hm₀
  exact ⟨by simpa [detachMapping] using hkept, m₀, hmem, rfl⟩

end Store

end CreativeBackend
