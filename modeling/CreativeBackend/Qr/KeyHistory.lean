import CreativeBackend.Scans.Service

/-!
# The history of the offline keys

`provisionDevicePublicKey` keeps one row for each version of a device's key and overwrites it.
Where no version is provisioned again under another public key or after it was rotated out,
the window of a row is the time in which its version was active with its public key, so a code
is only accepted that was issued in such a time.

## Implementation notes

A history lists the stores from the present one back. A store was current from its clock to the
clock of the next one; the present one is current from its clock on.
-/

namespace CreativeBackend

open Relational Interaction

structure ProvisionInput where
  deviceId : Id
  publicKey : String
  keyVersion : Int
  rotateExisting : Bool := false

namespace Store

variable (s : Store)

/-- The key is one of the other active keys of the device. -/
def isRotated (input : ProvisionInput) (k : DeviceOfflineKey) : Bool :=
  k.deviceId = input.deviceId ∧ k.status = .ACTIVE ∧ k.version ≠ input.keyVersion

/-- The `data` of `deviceOfflineKey.updateMany`. -/
def rotateKey (now : Time) (input : ProvisionInput) (k : DeviceOfflineKey) : DeviceOfflineKey :=
  if isRotated input k then { k with status := .ROTATED, validUntil := some now } else k

theorem key_rotateKey (now : Time) (input : ProvisionInput) (k : DeviceOfflineKey) :
    key (rotateKey now input k) = key k := by
  unfold rotateKey
  split <;> rfl

theorem clash_rotateKey (now : Time) (input : ProvisionInput) (a b : DeviceOfflineKey)
    (h : clash (rotateKey now input a) (rotateKey now input b) = true) : clash a b = true := by
  unfold rotateKey at h
  split at h <;> split at h <;> exact h

/-- `deviceOfflineKey.updateMany`, if the caller asks for it. -/
def rotateKeys (input : ProvisionInput) : Table DeviceOfflineKey :=
  if input.rotateExisting then
    s.offlineKeys.mapRows (rotateKey s.clock input) (key_rotateKey _ _) (clash_rotateKey _ _)
  else s.offlineKeys

/-- The row of the version. -/
def offlineKeyOf (keys : Table DeviceOfflineKey) (input : ProvisionInput) :
    Option DeviceOfflineKey :=
  keys.rows.find? fun k => k.deviceId = input.deviceId ∧ k.version = input.keyVersion

/-- The `create` of `deviceOfflineKey.upsert`. -/
def newKey (now : Time) (input : ProvisionInput) : DeviceOfflineKey where
  deviceId := input.deviceId
  version := input.keyVersion
  publicKey := input.publicKey
  status := .ACTIVE
  validFrom := now

/-- The `update` of `deviceOfflineKey.upsert`. -/
def renewKey (input : ProvisionInput) (k : DeviceOfflineKey) : DeviceOfflineKey :=
  { k with publicKey := input.publicKey, status := .ACTIVE, validUntil := none, revokedAt := none }

/-- The transaction of `provisionDevicePublicKey`. -/
def provisionKey (input : ProvisionInput) : Answer DeviceOfflineKey :=
  match offlineKeyOf (s.rotateKeys input) input with
  | none =>
      match (s.rotateKeys input).create (newKey s.clock input) with
      | none => (.error (.prisma .uniqueConstraint), s)
      | some (row, t) => (.ok row, { s with offlineKeys := t })
  | some k =>
      match (s.rotateKeys input).update k.id (renewKey input) with
      | .done row t => (.ok row, { s with offlineKeys := t })
      | _ => (.error (.prisma .notFound), s)

/-- What provisioning does: nothing, or it adds the version, or renews it. -/
theorem provisionKey_cases {input : ProvisionInput} :
    (s.provisionKey input).2 = s ∨ ∃ row t, (s.provisionKey input).2 = { s with offlineKeys := t } ∧
      ((s.rotateKeys input).create (newKey s.clock input) = some (row, t) ∨
        ∃ k ∈ (s.rotateKeys input).rows, k.deviceId = input.deviceId ∧
          k.version = input.keyVersion ∧
          (s.rotateKeys input).update k.id (renewKey input) = .done row t) := by
  unfold provisionKey
  split
  · split
    · exact .inl rfl
    · next row t hcreate => exact .inr ⟨row, t, rfl, .inl hcreate⟩
  · next k hfind =>
      split
      · next row t hupdate =>
          unfold offlineKeyOf at hfind
          have hk : k.deviceId = input.deviceId ∧ k.version = input.keyVersion := by
            simpa using List.find?_some hfind
          exact .inr ⟨row, t, rfl, .inr ⟨k, List.mem_of_find?_eq_some hfind, hk.1, hk.2, hupdate⟩⟩
      · exact .inl rfl

end Store

/-- `provisionDevicePublicKey`. -/
def provisionDevicePublicKey (rt : Runtime) (input : ProvisionInput) (s : Store) :
    Store.Answer DeviceOfflineKey :=
  if rt.isEd25519PublicKey input.publicKey = false then
    (.error (.badRequest "Invalid Ed25519 public key"), s)
  else if (s.devices.find? input.deviceId).isNone then (.error (.notFound "Device not found"), s)
  else s.provisionKey input

namespace KeyHistory

/-! ## Histories -/

/-- The store was current at the time. -/
def CurrentAt (time : Time) (y : Store) : List Store → Prop
  | [] => False
  | x :: earlier => y = x ∧ x.clock ≤ time ∨ time ≤ x.clock ∧ CurrentAt time y earlier

/-- The version of the device's key was active with the public key at the time. -/
def ActiveAt (time : Time) (deviceId : Id) (version : Int) (publicKey : String)
    (history : List Store) : Prop :=
  ∃ y, CurrentAt time y history ∧ ∃ k ∈ y.offlineKeys.rows, k.deviceId = deviceId ∧
    k.version = version ∧ k.publicKey = publicKey ∧ k.status = .ACTIVE

/-- The histories of the keys: a key is provisioned where `permits` says so, or time passes and
others change other tables. -/
inductive KeyRun (rt : Runtime) (permits : Store → ProvisionInput → Prop) : List Store → Prop
  | start {s} (h : s.offlineKeys = .empty) : KeyRun rt permits [s]
  | provision {s history} (input : ProvisionInput) (hr : KeyRun rt permits (s :: history))
      (hp : permits s input) :
      KeyRun rt permits ((provisionDevicePublicKey rt input s).2 :: s :: history)
  | other {s s' history} (hr : KeyRun rt permits (s :: history))
      (hkeys : s'.offlineKeys = s.offlineKeys) (hclock : s.clock ≤ s'.clock) :
      KeyRun rt permits (s' :: s :: history)

/-- What is accepted was issued while the key version it names was active with a public key
that verifies it. -/
def AuthorisesWhileActive (rt : Runtime) (permits : Store → ProvisionInput → Prop) : Prop :=
  ∀ s history, KeyRun rt permits (s :: history) →
    ∀ signedOfflineQr expectedEventId ch verified,
      ((verifySignedOfflineQr rt signedOfflineQr expectedEventId).run (machine rt ch) s).1 =
        .ok verified →
      ∃ issuedAt publicKey, rt.parseDate verified.payload.issuedAt = some issuedAt ∧
        rt.verifyEd25519 publicKey verified.parsed.encodedPayload verified.parsed.signature = true ∧
        ActiveAt issuedAt verified.payload.issuerDeviceId verified.payload.issuerKeyVersion
          publicKey (s :: history)

/-- A version that exists was created just now, or keeps its public key and was not rotated
out before. -/
def RenewsOnly (s : Store) (input : ProvisionInput) : Prop :=
  ∀ k ∈ s.offlineKeys.rows, k.deviceId = input.deviceId → k.version = input.keyVersion →
    k.validFrom = s.clock ∨
      k.publicKey = input.publicKey ∧ ∀ until_, k.validUntil = some until_ → s.clock ≤ until_

/-! ## The invariant -/

variable {rt : Runtime} {permits : Store → ProvisionInput → Prop} {s s' : Store}
  {history : List Store} {k : DeviceOfflineKey}

/-- The window of the row, up to now, is a time in which its version was active with its
public key. -/
structure Covered (s : Store) (history : List Store) (k : DeviceOfflineKey) : Prop where
  status : k.status = .ACTIVE ∧ k.validUntil = none ∨
    k.status = .ROTATED ∧ ∃ until_ ≤ s.clock, k.validUntil = some until_
  active : ∀ time, k.validFrom ≤ time → (∀ until_, k.validUntil = some until_ → time ≤ until_) →
    (k.status = .ACTIVE → time < s.clock) → ActiveAt time k.deviceId k.version k.publicKey history

theorem ActiveAt.cons {time : Time} {deviceId : Id} {version : Int} {publicKey : String}
    (h : ActiveAt time deviceId version publicKey history) (hle : time ≤ s.clock) :
    ActiveAt time deviceId version publicKey (s :: history) := by
  obtain ⟨y, hy, hk⟩ := h
  exact ⟨y, .inr ⟨hle, hy⟩, hk⟩

/-- An active key of the present store is active from now on. -/
theorem activeAt_now {time : Time} (hk : k ∈ s.offlineKeys.rows) (hactive : k.status = .ACTIVE)
    (hle : s.clock ≤ time) :
    ActiveAt time k.deviceId k.version k.publicKey (s :: history) :=
  ⟨s, .inl ⟨rfl, hle⟩, k, hk, rfl, rfl, rfl, hactive⟩

/-- The whole window of a row of the present store is covered. -/
theorem Covered.whole (h : Covered s history k) (hk : k ∈ s.offlineKeys.rows) {time : Time}
    (hfrom : k.validFrom ≤ time) (huntil : ∀ until_, k.validUntil = some until_ → time ≤ until_) :
    ActiveAt time k.deviceId k.version k.publicKey (s :: history) := by
  rcases h.status with ⟨hactive, -⟩ | ⟨hrotated, last, hlast, hu⟩
  · rcases Int.lt_or_le time s.clock with hlt | hle
    · exact (h.active time hfrom huntil fun _ => hlt).cons (Int.le_of_lt hlt)
    · exact activeAt_now hk hactive hle
  · have hle : time ≤ s.clock := Int.le_trans (huntil last hu) hlast
    refine (h.active time hfrom huntil fun hactive => ?_).cons hle
    rw [hrotated] at hactive
    cases hactive

/-- A row that nobody changes stays covered. -/
theorem Covered.later (h : Covered s history k) (hk : k ∈ s.offlineKeys.rows)
    (hclock : s.clock ≤ s'.clock) : Covered s' (s :: history) k := by
  constructor
  case status =>
    rcases h.status with hactive | ⟨hrotated, last, hlast, hu⟩
    · exact .inl hactive
    · exact .inr ⟨hrotated, last, Int.le_trans hlast hclock, hu⟩
  case active => exact fun time hfrom huntil _ => h.whole hk hfrom huntil

/-- What the rows are after the other keys of the device were rotated out. -/
theorem rotated_cases {input : ProvisionInput} {x : DeviceOfflineKey}
    (hx : x ∈ (s.rotateKeys input).rows) :
    ∃ k ∈ s.offlineKeys.rows, x = k ∨ k.status = .ACTIVE ∧ k.version ≠ input.keyVersion ∧
      x = { k with status := .ROTATED, validUntil := some s.clock } := by
  unfold Store.rotateKeys at hx
  split at hx
  · obtain ⟨k, hk, rfl⟩ := List.mem_map.mp hx
    refine ⟨k, hk, ?_⟩
    unfold Store.rotateKey
    split
    · next hrotated =>
        have hcases := of_decide_eq_true hrotated
        exact .inr ⟨hcases.2.1, hcases.2.2, rfl⟩
    · exact .inl rfl
  · exact ⟨x, hx, .inl rfl⟩

theorem Covered.rotated (h : Covered s history k) (hk : k ∈ s.offlineKeys.rows)
    (hactive : k.status = .ACTIVE) :
    Covered s (s :: history) { k with status := .ROTATED, validUntil := some s.clock } := by
  constructor
  case status => exact .inr ⟨rfl, s.clock, Int.le_refl _, rfl⟩
  case active =>
    intro time hfrom _ _
    refine h.whole hk hfrom fun until_ hu => ?_
    rcases h.status with ⟨-, hnone⟩ | ⟨hrotated, -⟩
    · rw [hnone] at hu
      cases hu
    · rw [hactive] at hrotated
      cases hrotated

/-- A provisioned version is covered where it is renewed only. -/
theorem Covered.renewed {input : ProvisionInput} (h : Covered s history k)
    (hk : k ∈ s.offlineKeys.rows) (hdevice : k.deviceId = input.deviceId)
    (hversion : k.version = input.keyVersion) (hp : RenewsOnly s input) :
    Covered s (s :: history) (Store.renewKey input k) := by
  constructor
  case status => exact .inl ⟨rfl, rfl⟩
  case active =>
    intro time hfrom _ hlt
    have hbefore : time < s.clock := hlt rfl
    rcases hp k hk hdevice hversion with hnew | ⟨hkey, huntil⟩
    · have hfrom' : s.clock ≤ time := hnew ▸ hfrom
      exact absurd hbefore (Int.not_lt.mpr hfrom')
    · change ActiveAt time k.deviceId k.version input.publicKey (s :: history)
      rw [← hkey]
      exact h.whole hk hfrom fun until_ hu =>
        Int.le_trans (Int.le_of_lt hbefore) (huntil until_ hu)

theorem Covered.of_clock (h : Covered s history k) (hclock : s'.clock = s.clock) :
    Covered s' history k := by
  constructor
  case status => exact hclock ▸ h.status
  case active => exact hclock ▸ h.active

/-- A new version is covered from now on. -/
theorem covered_new {input : ProvisionInput} {id : Id} :
    Covered s history { Store.newKey s.clock input with id } := by
  constructor
  case status => exact .inl ⟨rfl, rfl⟩
  case active => exact fun time hfrom _ hlt => absurd (hlt rfl) (Int.not_lt.mpr hfrom)

/-- What provisioning keeps. -/
theorem covered_provisionKey {input : ProvisionInput}
    (h : ∀ k ∈ s.offlineKeys.rows, Covered s history k) (hp : RenewsOnly s input) :
    ∀ k ∈ (s.provisionKey input).2.offlineKeys.rows,
      Covered (s.provisionKey input).2 (s :: history) k := by
  have hrows : ∀ x ∈ (s.rotateKeys input).rows, Covered s (s :: history) x := by
    intro x hx
    obtain ⟨k, hk, rfl | ⟨hactive, -, rfl⟩⟩ := rotated_cases hx
    · exact (h x hk).later hk (Int.le_refl _)
    · exact (h k hk).rotated hk hactive
  rcases s.provisionKey_cases with hsame | ⟨row, t, hs', hcreate | hrenew⟩
  · rw [hsame]
    exact fun k hk => (h k hk).later hk (Int.le_refl _)
  · rw [hs']
    intro k hk
    refine Covered.of_clock (s := s) ?_ rfl
    rcases (Table.mem_create hcreate).mp hk with hold | rfl
    · exact hrows k hold
    · rw [(Table.create_eq_some hcreate).1]
      exact covered_new
  · rw [hs']
    obtain ⟨x, hx, hdevice, hversion, hupdate⟩ := hrenew
    intro k hk
    refine Covered.of_clock (s := s) ?_ rfl
    rcases (Table.mem_update hupdate).mp hk with ⟨hold, -⟩ | rfl
    · exact hrows k hold
    · -- The rotation leaves the version itself alone.
      obtain ⟨x', hx', hkey, hrow, -, -⟩ := Table.update_eq_done hupdate
      obtain rfl := (s.rotateKeys input).eq_of_key hx hx' hkey.symm
      obtain ⟨y, hy, rfl | ⟨-, hother, rfl⟩⟩ := rotated_cases hx
      · rw [hrow]
        exact (h x hy).renewed hy hdevice hversion hp
      · exact absurd hversion hother

/-- The invariant of the histories that only renew. -/
theorem covered_of_run (hr : KeyRun rt RenewsOnly (s :: history)) :
    ∀ k ∈ s.offlineKeys.rows, Covered s history k := by
  generalize hwhole : s :: history = whole at hr
  induction hr generalizing s history with
  | start h =>
      cases hwhole
      rw [h]
      intro k hk
      cases hk
  | @provision s₀ history₀ input hr hp ih =>
      cases hwhole
      have hbefore := ih rfl
      have hsame : ∀ k ∈ s₀.offlineKeys.rows, Covered s₀ (s₀ :: history₀) k := fun k hk =>
        (hbefore k hk).later hk (Int.le_refl _)
      unfold provisionDevicePublicKey
      split
      · exact hsame
      · split
        · exact hsame
        · exact covered_provisionKey hbefore hp
  | other hr hkeys hclock ih =>
      cases hwhole
      intro k hk
      rw [hkeys] at hk
      exact (ih rfl k hk).later hk hclock

/-! ## The result -/

/-- A code is issued within the window of its key. -/
theorem window_of_usable {issuedAt : Time}
    (h : assertKeyUsableForPayload k (some issuedAt) = .ok ()) :
    k.validFrom ≤ issuedAt ∧ ∀ until_, k.validUntil = some until_ → issuedAt ≤ until_ := by
  unfold assertKeyUsableForPayload at h
  split at h
  · cases h
  · next hfrom =>
      split at h
      · cases h
      · next huntil =>
          constructor
          · simpa using hfrom
          · intro until_ hu
            rw [hu] at huntil
            simpa using huntil

/-- Where versions are only renewed, what is accepted was issued while its key was active. -/
theorem authorises_while_active (rt : Runtime) : AuthorisesWhileActive rt RenewsOnly := by
  intro s history hr signedOfflineQr expectedEventId ch verified h
  obtain ⟨-, hread, hissuer⟩ := verifySignedOfflineQr_ok rt (Prod.ext h rfl)
  obtain ⟨issuedAt, hissued⟩ := issuedAt_of_assertOfflineQrPayload rt (readOfflineQr_ok rt hread).2
  obtain ⟨issuer, k, hfound, husable, hverified⟩ := checkIssuer_ok rt hissuer
  obtain ⟨device, -, hpair⟩ := Option.map_eq_some_iff.mp hfound
  obtain ⟨-, hkey⟩ := Prod.mk.inj hpair
  have hmem := List.mem_of_find?_eq_some hkey
  have hfields : k.deviceId = verified.payload.issuerDeviceId ∧
      k.version = verified.payload.issuerKeyVersion := by
    simpa using List.find?_some hkey
  obtain ⟨hdevice, hversion⟩ := hfields
  rw [hissued] at husable
  obtain ⟨hfrom, huntil⟩ := window_of_usable husable
  refine ⟨issuedAt, k.publicKey, hissued, hverified, ?_⟩
  rw [← hdevice, ← hversion]
  exact (covered_of_run hr k hmem).whole hmem hfrom huntil

/-! ## Codes that were issued in between -/

section Between

/-- A version keeps its public key. -/
def KeepsPublicKey (s : Store) (input : ProvisionInput) : Prop :=
  ∀ k ∈ s.offlineKeys.rows, k.deviceId = input.deviceId → k.version = input.keyVersion →
    k.publicKey = input.publicKey

/-- A version that was rotated out is not provisioned again. -/
def SparesRotated (s : Store) (input : ProvisionInput) : Prop :=
  ∀ k ∈ s.offlineKeys.rows, k.deviceId = input.deviceId → k.version = input.keyVersion →
    k.status = .ACTIVE

/-- A card that was issued at 5. -/
def datedCard : Json := .obj [
  ("v", .num 1), ("type", .str "OFFLINE_REGISTRATION"), ("eventId", .str "c0"),
  ("issuerDeviceId", .str "c0"), ("issuerKeyVersion", .num 1),
  ("offlineRegistrationOperationId", .str "reg-1"), ("offlineQrToken", .str "O2.card"),
  ("attendeeTypeId", .str "c0"), ("issuedAt", .str "issued"), ("validUntil", .str "until")]

/-- A signature is the public key that verifies it. -/
def keyRuntime : Runtime :=
  { sampleRuntime with
    jsonParse := fun text => if text = "card" then some datedCard else none
    parseDate := fun text => if text = "issued" then some 5 else some 30
    verifyEd25519 := fun publicKey _ signature => publicKey = signature }

def provided (keyVersion : Int) (publicKey : String) (rotateExisting : Bool) : ProvisionInput where
  deviceId := "c0"
  publicKey
  keyVersion
  rotateExisting

def provide (keyVersion : Int) (publicKey : String) (rotateExisting : Bool) (s : Store) : Store :=
  (provisionDevicePublicKey keyRuntime (provided keyVersion publicKey rotateExisting) s).2

def unprovided : Store := { sampleStore with clock := 0, offlineKeys := .empty }

def first : Store := provide 1 "KEY-A" false unprovided

/-- The first version is rotated out at 3. -/
def second : Store := provide 2 "KEY-B" true { first with clock := 3 }

/-- It is provisioned again at 10. -/
def third : Store := provide 1 "KEY-A" true { second with clock := 10 }

/-- Another key takes the place of the first at 10. -/
def replaced : Store := provide 1 "KEY-B" false { first with clock := 10 }

/-- The card is accepted under the key. -/
theorem accepted {s : Store} {history : List Store} (publicKey : String)
    (h : ((verifySignedOfflineQr keyRuntime ("card." ++ publicKey) none).run
      (machine keyRuntime {}) s).1.toOption.any (fun verified =>
        verified.payload.issuedAt = "issued" && verified.payload.issuerDeviceId = "c0" &&
          verified.payload.issuerKeyVersion = 1 && verified.parsed.signature = publicKey) = true)
    (hall : ∀ signedOfflineQr expectedEventId ch verified,
      ((verifySignedOfflineQr keyRuntime signedOfflineQr expectedEventId).run
        (machine keyRuntime ch) s).1 = .ok verified →
      ∃ issuedAt publicKey, keyRuntime.parseDate verified.payload.issuedAt = some issuedAt ∧
        keyRuntime.verifyEd25519 publicKey verified.parsed.encodedPayload
          verified.parsed.signature = true ∧
        ActiveAt issuedAt verified.payload.issuerDeviceId verified.payload.issuerKeyVersion
          publicKey history) : ActiveAt 5 "c0" 1 publicKey history := by
  obtain ⟨verified, hok, hfields⟩ := exists_ok h
  simp only [Bool.and_eq_true, decide_eq_true_eq] at hfields
  obtain ⟨⟨⟨hissued, hdevice⟩, hversion⟩, hsignature⟩ := hfields
  obtain ⟨issuedAt, key, hdate, hverified, hactive⟩ := hall _ _ _ _ hok
  rw [hissued] at hdate
  cases hdate
  have hkey : key = publicKey := by
    rw [hsignature] at hverified
    exact of_decide_eq_true hverified
  rw [hdevice, hversion, hkey] at hactive
  exact hactive

/-- At 5 the first version is rotated out. -/
theorem not_activeAt_third : ¬ ActiveAt 5 "c0" 1 "KEY-A" [third, { second with clock := 10 }, second,
    { first with clock := 3 }, first, unprovided] := by
  rintro ⟨y, hy, k, hk, -, hversion, -, hactive⟩
  have hrotated : ∀ k ∈ second.offlineKeys.rows, k.version = 1 → k.status ≠ .ACTIVE := by
    decide +kernel
  rcases hy with ⟨-, hlate⟩ | ⟨-, ⟨-, hlate⟩ | ⟨-, ⟨rfl, -⟩ | ⟨hearly, -⟩⟩⟩
  · exact absurd hlate (by decide +kernel)
  · exact absurd hlate (by decide +kernel)
  · exact hrotated k hk hversion hactive
  · exact absurd hearly (by decide +kernel)

/-- At 5 the first version has its first public key. -/
theorem not_activeAt_replaced : ¬ ActiveAt 5 "c0" 1 "KEY-B" [replaced, { first with clock := 10 },
    first, unprovided] := by
  rintro ⟨y, hy, k, hk, -, -, hkey, -⟩
  have hfirst : ∀ k ∈ first.offlineKeys.rows, k.publicKey ≠ "KEY-B" := by
    decide +kernel
  rcases hy with ⟨-, hlate⟩ | ⟨-, ⟨-, hlate⟩ | ⟨-, ⟨rfl, -⟩ | ⟨hearly, -⟩⟩⟩
  · exact absurd hlate (by decide +kernel)
  · exact absurd hlate (by decide +kernel)
  · exact hfirst k hk hkey
  · exact absurd hearly (by decide +kernel)

/-- A code is accepted that was issued while its version was rotated out, and one that was issued
before the public key that verifies it was provisioned. -/
theorem accepted_while_inactive :
    ¬ AuthorisesWhileActive keyRuntime KeepsPublicKey ∧
      ¬ AuthorisesWhileActive keyRuntime SparesRotated := by
  constructor
  · intro hall
    have hfirst : KeyRun keyRuntime KeepsPublicKey [first, unprovided] :=
      .provision _ (.start rfl) (by unfold KeepsPublicKey; decide +kernel)
    have hsecond : KeyRun keyRuntime KeepsPublicKey [second, { first with clock := 3 }, first,
        unprovided] :=
      .provision _ (.other hfirst rfl (by decide +kernel)) (by
        unfold KeepsPublicKey
        decide +kernel)
    have hthird : KeyRun keyRuntime KeepsPublicKey [third, { second with clock := 10 }, second,
        { first with clock := 3 }, first, unprovided] :=
      .provision _ (.other hsecond rfl (by decide +kernel)) (by
        unfold KeepsPublicKey
        decide +kernel)
    exact not_activeAt_third (accepted "KEY-A" (by decide +kernel) (hall _ _ hthird))
  · intro hall
    have hfirst : KeyRun keyRuntime SparesRotated [first, unprovided] :=
      .provision _ (.start rfl) (by unfold SparesRotated; decide +kernel)
    have hreplaced : KeyRun keyRuntime SparesRotated [replaced, { first with clock := 10 }, first,
        unprovided] :=
      .provision _ (.other hfirst rfl (by decide +kernel)) (by
        unfold SparesRotated
        decide +kernel)
    exact not_activeAt_replaced (accepted "KEY-B" (by decide +kernel) (hall _ _ hreplaced))

end Between

end KeyHistory

end CreativeBackend
