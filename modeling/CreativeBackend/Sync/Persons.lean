import CreativeBackend.Registrations.Creation
import CreativeBackend.Scans.Footprint
import CreativeBackend.Sync.Executions
import CreativeBackend.Sync.Ownership

/-!
# One person for each offline registration

A mapping points to the registration that an execution of its own offline registration
created, as long as the recovery of an interrupted execution finds no other: the lookup
by external id also finds what an import, the dashboard or another device created.
-/

namespace CreativeBackend

open Relational Interaction Prog

namespace Persons

/-- Who registered a person offline: the issuing device, the event and the operation. -/
structure Identity where
  issuerDeviceId : Id
  eventId : Id
  offlineRegistrationOperationId : String
  deriving DecidableEq

def identityOf (m : OfflineRegistrationMapping) : Identity where
  issuerDeviceId := m.issuerDeviceId
  eventId := m.eventId
  offlineRegistrationOperationId := m.offlineRegistrationOperationId

/-- The offline registration that a thread executes: that of the latest mapping which it
found or created. -/
def executing : List SyncEvent → Option Identity
  | [] => none
  | ⟨_, .run _ (.mappingUpsert data), .ok _, _⟩ :: _ => some (identityOf data)
  | _ :: log => executing log

/-- The registrations that a call created, with the offline registration that it executed. -/
def createdBy (log : List SyncEvent) : SyncEvent → List (Id × Option Identity)
  | ⟨t, .run _ (.registrationCreate _), .ok row, _⟩ =>
      [(row.id, executing (log.filter fun e => e.thread = t))]
  | ⟨_, .base (.registrationCreate _), .ok row, _⟩ => [(row.id, none)]
  | _ => []

/-- The registrations that the calls of a log created, the latest first. -/
def creations : List SyncEvent → List (Id × Option Identity)
  | [] => []
  | e :: log => createdBy log e ++ creations log

/-- An execution of the offline registration `identity` created the registration. -/
def CreatedFor (trace : List SyncEvent) (identity : Identity) (registrationId : Id) : Prop :=
  (registrationId, some identity) ∈ creations trace

instance (trace : List SyncEvent) (identity : Identity) (registrationId : Id) :
    Decidable (CreatedFor trace identity registrationId) :=
  inferInstanceAs (Decidable (_ ∈ _))

theorem CreatedFor.append {trace : List SyncEvent} {identity : Identity} {registrationId : Id}
    (h : CreatedFor trace identity registrationId) (new : List SyncEvent) :
    CreatedFor (new ++ trace) identity registrationId := by
  induction new with
  | nil => exact h
  | cons e rest ih => exact List.mem_append_right _ ih

/-! ## The service -/

/-- What others do to the registrations and mappings: they change, add and delete
registrations, and delete mappings. -/
structure Elsewhere (s s' : SyncStore) : Prop where
  mappings : ∀ m ∈ s'.base.mappings.rows, m ∈ s.base.mappings.rows
  mappingsSerial : s.base.mappings.serial ≤ s'.base.mappings.serial
  registrations : s.base.registrations.serial ≤ s'.base.registrations.serial

/-- The sync service among creations of registrations: submissions, recoveries and
creations through the dashboard, an import or the public form, started at any time. Any
database, queue or file call may fail. -/
def personService (rt : Runtime) : Service SyncResp Exn SyncStore where
  Choice := Choice
  machine := syncMachine rt
  faulty := SyncCall.faulty
  env := Elsewhere
  starts s p s' := s' = s ∧ (SyncRun rt p ∨
    ∃ registration, p = (onScanStore (RegistrationsService.createNormalized rt registration)).void)

/-- A mapping points to the registration of its own operation, and to no other's. -/
structure OwnPersons (w : SyncWorld) : Prop where
  own : ∀ m ∈ w.store.base.mappings.rows, m.status = .SYNCED → ∀ registrationId,
    m.registrationId = some registrationId → CreatedFor w.trace (identityOf m) registrationId
  apart : ∀ m ∈ w.store.base.mappings.rows, ∀ m' ∈ w.store.base.mappings.rows,
    (m.issuerDeviceId, m.offlineRegistrationOperationId) ≠
      (m'.issuerDeviceId, m'.offlineRegistrationOperationId) → ∀ registrationId,
        m.registrationId = some registrationId → m'.registrationId ≠ some registrationId
  alone : ∀ m ∈ w.store.base.mappings.rows, ∀ registrationId,
    m.registrationId = some registrationId → ∀ creator,
      (registrationId, creator) ∈ creations w.trace → creator = some (identityOf m)

/-- The recovery of an interrupted execution, which follows the upsert of its mapping,
finds only registrations that an execution of the same offline registration created. -/
def RecoversOwn (t : Nat) (c : SyncCall) (w : SyncWorld) : Prop :=
  match c, w.own t with
  | .run _ (.registrationFirst v), ⟨_, .run _ (.mappingUpsert data), .ok _, _⟩ :: _ =>
      ∀ r ∈ w.store.base.registrations.rows, v.holds r = true →
        CreatedFor w.trace (identityOf data) r.id
  | _, _ => True

instance (t : Nat) (c : SyncCall) (w : SyncWorld) : Decidable (RecoversOwn t c w) := by
  unfold RecoversOwn
  split <;> infer_instance

/-! ## What a call does to registrations and mappings -/

/-- Later mappings keep the identity of earlier ones, and keys are not used again. -/
structure Extends (s s' : SyncStore) : Prop where
  mappings : s.base.mappings.Evolves identityOf s'.base.mappings
  registrations : s.base.registrations.serial ≤ s'.base.registrations.serial

theorem Extends.refl (s : SyncStore) : Extends s s := ⟨.refl _, Nat.le_refl _⟩

theorem Extends.trans {s₀ s₁ s₂ : SyncStore} (h : Extends s₀ s₁) (h' : Extends s₁ s₂) :
    Extends s₀ s₂ :=
  ⟨h.mappings.trans h'.mappings, Nat.le_trans h.registrations h'.registrations⟩

theorem Elsewhere.extends_ {s s' : SyncStore} (h : Elsewhere s s') : Extends s s' where
  mappings := ⟨h.mappingsSerial, fun m hm => .inl ⟨m, h.mappings m hm, rfl, rfl⟩⟩
  registrations := h.registrations

/-- The later mappings are the earlier ones, with their registrations. -/
def SameLinks (s s' : Store) : Prop :=
  ∀ m ∈ s'.mappings.rows, ∀ registrationId, m.registrationId = some registrationId →
    ∃ m₀ ∈ s.mappings.rows, identityOf m₀ = identityOf m ∧ m₀.registrationId = some registrationId

theorem SameLinks.of_mappings {s s' : Store} (h : s'.mappings = s.mappings) : SameLinks s s' :=
  fun m hm _ hr => ⟨m, h ▸ hm, rfl, hr⟩

/-- The calls that neither look a mapping up for an execution, nor create a registration,
nor link a mapping to one. -/
def Plain : Call → Prop
  | .mappingUpsert _ => False
  | .mappingUpdate _ p => p.registrationId = none
  | .registrationCreate _ => False
  | _ => True

variable {s s' : Store}

theorem effect_sameLinks {c : Call} {x : Except Exn (Resp c)} (h : Effect s c x s')
    (hc : Plain c) : SameLinks s s' := by
  cases h with
  | patchMapping hu =>
      intro m hm registrationId hr
      rcases (Table.mem_update hu).mp hm with ⟨hold, -⟩ | rfl
      · exact ⟨m, hold, rfl, hr⟩
      · obtain ⟨old, hold, -, hrow, -, -⟩ := Table.update_eq_done hu
        have hpatch : m.registrationId = old.registrationId := by
          rw [hrow]
          exact congrArg (fun o => o.orElse fun _ => old.registrationId) hc
        refine ⟨old, hold, ?_, hpatch ▸ hr⟩
        rw [hrow]
        rfl
  | addMapping => cases hc
  | register => cases hc
  | _ => exact SameLinks.of_mappings rfl

/-- The upsert of a mapping without registration. -/
theorem effect_upsert {data : OfflineRegistrationMapping} {x : Except Exn OfflineRegistrationMapping}
    (h : Effect s (.mappingUpsert data) x s') (hdata : data.registrationId = none) :
    SameLinks s s' ∧ ∀ m, x = .ok m → m ∈ s'.mappings.rows ∧ identityOf m = identityOf data := by
  cases h with
  | read hc => cases hc
  | failed =>
      refine ⟨.of_mappings rfl, fun m hm => ?_⟩
      cases hm
  | foundMapping hfound =>
      refine ⟨.of_mappings rfl, fun m hm => ?_⟩
      cases hm
      have hsame := List.find?_some hfound
      simp only [decide_eq_true_eq] at hsame
      obtain ⟨hdevice, hevent, hoperation⟩ := hsame
      exact ⟨List.mem_of_find?_eq_some hfound, by simp [identityOf, hdevice, hevent, hoperation]⟩
  | addMapping _ hcr =>
      have hrow := (Table.create_eq_some hcr).1
      constructor
      · intro m hm registrationId hr
        rcases (Table.mem_create hcr).mp hm with hold | rfl
        · exact ⟨m, hold, rfl, hr⟩
        · rw [hrow] at hr
          have hnone : (some registrationId : Option Id) = none := hr.symm.trans hdata
          cases hnone
      · intro m hm
        cases hm
        refine ⟨(Table.mem_create hcr).mpr (.inr rfl), ?_⟩
        rw [hrow]
        rfl

/-- The update that links a mapping. -/
theorem effect_link {id registrationId : Id} {p : MappingPatch}
    {x : Except Exn OfflineRegistrationMapping} (h : Effect s (.mappingUpdate id p) x s')
    (hp : p.registrationId = some registrationId) :
    ∀ m ∈ s'.mappings.rows, m ∈ s.mappings.rows ∨ m.registrationId = some registrationId ∧
      ∃ old ∈ s.mappings.rows, old.id = id ∧ identityOf old = identityOf m := by
  intro m hm
  cases h with
  | read hc => cases hc
  | failed => exact .inl hm
  | patchMapping hu =>
      rcases (Table.mem_update hu).mp hm with ⟨hold, -⟩ | rfl
      · exact .inl hold
      · obtain ⟨old, hold, hid, hrow, -, -⟩ := Table.update_eq_done hu
        refine .inr ⟨?_, old, hold, hid, ?_⟩
        · rw [hrow]
          exact congrArg (fun o => o.orElse fun _ => old.registrationId) hp
        · rw [hrow]
          rfl

theorem effect_mappings {c : Call} {x : Except Exn (Resp c)} (h : Effect s c x s') :
    s.mappings.Evolves identityOf s'.mappings := by
  cases h with
  | patchMapping hu => exact .update hu fun _ => rfl
  | addMapping _ hc => exact .create hc
  | _ => exact .refl _

theorem effect_registrations {c : Call} {x : Except Exn (Resp c)} (h : Effect s c x s') :
    s.registrations.serial ≤ s'.registrations.serial := by
  cases h with
  | register hc =>
      have hserial := (Table.create_eq_some hc).2.2
      simp only [hserial]
      omega
  | _ => exact Nat.le_refl _

theorem effect_registrationCreate {data : Registration} {x : Except Exn Registration}
    (h : Effect s (.registrationCreate data) x s') : (∃ e, x = .error e) ∧ s' = s ∨
      ∃ row table, s.registrations.create (Store.registrationRow s.clock data) = some (row, table) ∧
        x = .ok row ∧ s' = { s with registrations := table } := by
  cases h with
  | read hc => cases hc
  | failed => exact .inl ⟨⟨_, rfl⟩, rfl⟩
  | register hc => exact .inr ⟨_, _, hc, rfl, rfl⟩

theorem syncEffect_run {operationId : String} {c : Call} {x : Except Exn (Resp c)} {s s' : SyncStore}
    (h : SyncEffect s (.run operationId c) x s') : Effect s.base c x s'.base := by
  cases h with
  | run he => exact he
  | read hc => cases hc
  | failed => exact .failed

theorem syncEffect_base {c : Call} {x : Except Exn (Resp c)} {s s' : SyncStore}
    (h : SyncEffect s (.base c) x s') : Effect s.base c x s'.base := by
  cases h with
  | base he => exact he
  | read hc => cases hc
  | failed => exact .failed

theorem syncEffect_extends {s s' : SyncStore} {c : SyncCall} {x : Except Exn (SyncResp c)}
    (h : SyncEffect s c x s') : Extends s s' := by
  have hsame : s'.base = s.base → Extends s s' := fun hb =>
    ⟨hb ▸ .refl _, hb ▸ Nat.le_refl _⟩
  cases h with
  | base he => exact ⟨effect_mappings he, effect_registrations he⟩
  | run he => exact ⟨effect_mappings he, effect_registrations he⟩
  | read => exact .refl _
  | failed => exact .refl _
  | create _ _ hbase => exact hsame hbase
  | processing _ hbase => exact hsame hbase
  | close _ hbase => exact hsame hbase
  | taken => exact .refl _
  | claim _ _ _ _ hbase => exact hsame hbase
  | finish _ hbase => exact hsame hbase

/-! ## The invariant -/

/-- The invariant of all runs whose recoveries find their own registrations. -/
structure Own (w : SyncWorld) : Prop where
  linked : ∀ m ∈ w.store.base.mappings.rows, ∀ registrationId,
    m.registrationId = some registrationId → CreatedFor w.trace (identityOf m) registrationId
  single : ((creations w.trace).map (·.1)).Nodup
  bounded : ∀ p ∈ creations w.trace, ∃ n < w.store.base.registrations.serial, p.1 = fresh n

variable {w : SyncWorld} {t : Nat} {s' : SyncStore}

theorem eq_of_nodup_fst {α β : Type} {l : List (α × β)} (h : (l.map (·.1)).Nodup) {a : α}
    {b b' : β} (hb : (a, b) ∈ l) (hb' : (a, b') ∈ l) : b = b' :=
  congrArg Prod.snd (List.inj_on_of_nodup_map h hb hb' rfl)

theorem Own.ownPersons (h : Own w) : OwnPersons w where
  own m hm _ registrationId hr := h.linked m hm registrationId hr
  apart m hm m' hm' hne registrationId hr hr' := by
    have hid : some (identityOf m) = some (identityOf m') :=
      eq_of_nodup_fst h.single (h.linked m hm _ hr) (h.linked m' hm' _ hr')
    have heq : identityOf m = identityOf m' := Option.some.inj hid
    exact hne (Prod.ext (congrArg (·.issuerDeviceId) heq)
      (congrArg (·.offlineRegistrationOperationId) heq))
  alone m hm registrationId hr creator hcreator :=
    eq_of_nodup_fst h.single hcreator (h.linked m hm registrationId hr)

/-- The call creates no registration. -/
def Barren (c : SyncCall) (x : Except Exn (SyncResp c)) : Prop :=
  ∀ t s log, createdBy log ⟨t, c, x, s⟩ = []

/-- A call that creates no registration, and links mappings only to own registrations. -/
theorem Own.next (hi : Own w) {trace : List SyncEvent} (htr : creations trace = creations w.trace)
    (hserial : w.store.base.registrations.serial ≤ s'.base.registrations.serial)
    (hlinks : ∀ m ∈ s'.base.mappings.rows, ∀ registrationId,
      m.registrationId = some registrationId → CreatedFor w.trace (identityOf m) registrationId) :
    Own ⟨s', trace⟩ where
  linked m hm registrationId hr := by
    rw [CreatedFor, htr]
    exact hlinks m hm registrationId hr
  single := by
    rw [htr]
    exact hi.single
  bounded p hp := by
    rw [htr] at hp
    obtain ⟨n, hn, hid⟩ := hi.bounded p hp
    exact ⟨n, Nat.lt_of_lt_of_le hn hserial, hid⟩

theorem Barren.creations {c : SyncCall} {x : Except Exn (SyncResp c)} (h : Barren c x)
    (s : SyncStore) (log : List SyncEvent) :
    creations (⟨t, c, x, s⟩ :: log) = Persons.creations log := by
  rw [Persons.creations, h]
  rfl

theorem Own.links (hi : Own w) (h : SameLinks w.store.base s'.base) {m : OfflineRegistrationMapping}
    (hm : m ∈ s'.base.mappings.rows) {registrationId : Id}
    (hr : m.registrationId = some registrationId) :
    CreatedFor w.trace (identityOf m) registrationId := by
  obtain ⟨m₀, hm₀, hid, hr₀⟩ := h m hm registrationId hr
  exact hid ▸ hi.linked m₀ hm₀ registrationId hr₀

theorem barren_base {c : Call} (hc : Plain c) (x : Except Exn (Resp c)) : Barren (.base c) x := by
  intro t s log
  cases c with
  | registrationCreate data => exact hc.elim
  | _ => rfl

theorem barren_run {c : Call} (hc : Plain c) (x : Except Exn (Resp c)) (operationId : String) :
    Barren (.run operationId c) x := by
  intro t s log
  cases c with
  | registrationCreate data => exact hc.elim
  | _ => rfl

theorem Own.base (hi : Own w) {c : Call} (hc : Plain c) {x : Except Exn (Resp c)}
    (h : SyncEffect w.store (.base c) x s') : Own (w.log t (.base c) x s') := by
  have hlinks : SameLinks w.store.base s'.base := effect_sameLinks (syncEffect_base h) hc
  exact hi.next ((barren_base hc x).creations _ _) (syncEffect_extends h).registrations
    fun m hm _ hr => hi.links hlinks hm hr

theorem Own.run (hi : Own w) {c : Call} (hc : Plain c) {operationId : String}
    {x : Except Exn (Resp c)} (h : SyncEffect w.store (.run operationId c) x s') :
    Own (w.log t (.run operationId c) x s') := by
  have hlinks : SameLinks w.store.base s'.base := effect_sameLinks (syncEffect_run h) hc
  exact hi.next ((barren_run hc x operationId).creations _ _) (syncEffect_extends h).registrations
    fun m hm _ hr => hi.links hlinks hm hr

/-- A call on the sync tables. -/
theorem Own.tables (hi : Own w) {c : SyncCall} {x : Except Exn (SyncResp c)}
    (hc : Barren c x) (hbase : s'.base = w.store.base) : Own (w.log t c x s') :=
  hi.next (hc.creations _ _) (hbase ▸ Nat.le_refl _) fun m hm _ hr =>
    hi.linked m (hbase ▸ hm) _ hr

/-- A new registration. -/
theorem Own.create (hi : Own w) {c : SyncCall} {x : Except Exn (SyncResp c)} {data row : Registration}
    {table : Table Registration} (hc : w.store.base.registrations.create data = some (row, table))
    {creator : Option Identity} (hrow : createdBy w.trace ⟨t, c, x, w.store⟩ = [(row.id, creator)])
    (hs : s'.base = { w.store.base with registrations := table }) : Own (w.log t c x s') := by
  obtain ⟨hkey, -, hserial⟩ := Table.create_eq_some hc
  have hid : row.id = fresh w.store.base.registrations.serial := by
    rw [hkey]
    rfl
  have hcreations : creations (w.log t c x s').trace = (row.id, creator) :: creations w.trace := by
    rw [World.log, creations, hrow]
    rfl
  refine ⟨fun m hm registrationId hr => ?_, ?_, ?_⟩
  · have hold : CreatedFor w.trace (identityOf m) registrationId :=
      hi.linked m (by rw [World.log, hs] at hm; exact hm) registrationId hr
    rw [CreatedFor, hcreations]
    exact List.mem_cons_of_mem _ hold
  · rw [hcreations, List.map_cons, List.nodup_cons]
    refine ⟨fun hmem => ?_, hi.single⟩
    obtain ⟨p, hp, heq⟩ := List.mem_map.mp hmem
    obtain ⟨n, hn, hpn⟩ := hi.bounded p hp
    have hsame : n = w.store.base.registrations.serial :=
      KeySupply.fresh_injective (hpn.symm.trans (heq.trans hid))
    exact Nat.lt_irrefl _ (hsame ▸ hn)
  · intro p hp
    have hnext : s'.base.registrations.serial = w.store.base.registrations.serial + 1 := by
      rw [hs]
      exact hserial
    rw [hcreations] at hp
    rcases List.mem_cons.mp hp with rfl | hp
    · exact ⟨_, hnext ▸ Nat.lt_succ_self _, hid⟩
    · obtain ⟨n, hn, hpn⟩ := hi.bounded p hp
      exact ⟨n, hnext ▸ Nat.lt_succ_of_lt hn, hpn⟩

/-! ## The rules -/

/-- The rules of runs whose recoveries find their own registrations. -/
def discipline (rt : Runtime) : Discipline (personService rt) RecoversOwn where
  inv := Own
  rely := Extends
  rely_refl := Extends.refl
  rely_trans := Extends.trans
  call_rely _ _ h := syncEffect_extends (syncEffect_of_outcome h)
  env_inv hi h := hi.next rfl h.registrations fun m hm _ hr => hi.linked m (h.mappings m hm) _ hr
  env_rely _ h := h.extends_
  start_inv hi h := h.1 ▸ hi
  start_rely _ h := h.1 ▸ Extends.refl _

variable {rt : Runtime} {α : Type} {operationId : String} {identity : Identity}

theorem CreatedFor.later {w' : SyncWorld} {registrationId : Id}
    (h : CreatedFor w.trace identity registrationId) (hl : (discipline rt).Leads w w') :
    CreatedFor w'.trace identity registrationId := by
  obtain ⟨-, new, hn⟩ := hl
  exact hn ▸ h.append new

/-- Thread `t` executes the offline registration. -/
def Executing (t : Nat) (identity : Identity) (w : SyncWorld) : Prop :=
  executing (w.own t) = some identity

theorem Executing.since {w' : SyncWorld} (h : Executing t identity w)
    (hs : (discipline rt).Since t w w') : Executing t identity w' := by
  rw [Executing, hs.own]
  exact h

theorem Executing.log (h : Executing t identity w) {c : Call} (hc : Plain c)
    (x : Except Exn (Resp c)) : Executing t identity (w.log t (.run operationId c) x s') := by
  have hkept : executing ((w.log t (.run operationId c) x s').own t) = executing (w.own t) := by
    rw [World.own_log]
    cases c with
    | mappingUpsert data => exact hc.elim
    | _ => rfl
  rw [Executing, hkept]
  exact h

theorem inOperation_all_of {P : Call → Prop} {p : Svc α} (hp : p.All P) :
    (inOperation operationId p).All fun c => ∃ c', c = .run operationId c' ∧ P c' := by
  induction p with
  | ret a => trivial
  | throw e => trivial
  | ask c k ih => exact ⟨⟨c, rfl, hp.1⟩, fun r => ih r (hp.2 r)⟩

theorem onScanStore_all_of {P : Call → Prop} {p : Svc α} (hp : p.All P) :
    (onScanStore p).All fun c => ∃ c', c = .base c' ∧ P c' := by
  induction p with
  | ret a => trivial
  | throw e => trivial
  | ask c k ih => exact ⟨⟨c, rfl, hp.1⟩, fun r => ih r (hp.2 r)⟩

/-- A plain part of an execution. -/
theorem safe_plain {p : Svc α} (hp : p.All Plain) :
    (discipline rt).logic.Safe t (inOperation operationId p) w := by
  refine Discipline.safe_of_all ?_ (inOperation_all_of hp) w
  rintro c ⟨c', rfl, hc⟩ u v hi - x s' ho
  exact hi.run hc (syncEffect_of_outcome ho)

/-- After a plain part, the thread still executes the same offline registration. -/
theorem returns_plain {p : Svc α} (hp : p.All Plain) (he : Executing t identity w) :
    (discipline rt).Returns t (fun _ w' => Executing t identity w')
      (inOperation operationId p) w := by
  refine Logic.Holds.mono (Discipline.holds_kept (D := discipline rt)
    (F := Executing t identity) (fun a b hab ha => ha.since hab) ?_ (inOperation_all_of hp) he)
    fun _ _ _ h _ _ => h
  rintro c ⟨c', rfl, hc⟩ a ha hi - x s' ho
  exact ⟨hi.run hc (syncEffect_of_outcome ho), ha.log hc x⟩

theorem keeps_plain {c : Call} (hc : Plain c) :
    (discipline rt).Keeps t (.run operationId c) w :=
  fun _ _ hi _ _ _ ho => hi.run hc (syncEffect_of_outcome ho)

/-! ## Creating a registration -/

theorem plain_of_formats {c : Call} (h : c.formats = true) : Plain c := by
  cases c <;> trivial

theorem plain_of_reads {p : Svc α} (hp : Reads p) : p.All Plain :=
  hp.formats.mono fun _ h => plain_of_formats h

theorem plain_of_checks {p : Svc α} (hp : Checks p) : p.All Plain := plain_of_reads hp.reads

theorem keeps_registrationCreate {data : Registration} :
    (discipline rt).Keeps t (.run operationId (.registrationCreate data)) w := by
  intro w' _ hi _ x s' ho
  rcases effect_registrationCreate (syncEffect_run (syncEffect_of_outcome ho)) with
    ⟨⟨e, rfl⟩, hbase⟩ | ⟨row, table, hc, rfl, hbase⟩
  · exact hi.tables (fun _ _ _ => rfl) hbase
  · exact hi.create hc rfl hbase

/-- The registration that an execution creates is created for its offline registration. -/
theorem returns_registrationCreate {data : Registration} (he : Executing t identity w) :
    (discipline rt).Returns t (fun row w' => CreatedFor w'.trace identity row.id)
      (inOperation operationId (call (.registrationCreate data))) w := by
  rw [inOperation_call]
  refine (Discipline.returns_performed keeps_registrationCreate).mono fun row w' h => ?_
  obtain ⟨w₀, s₀, hs, -, -, -, h₀⟩ := h
  have hlogged : CreatedFor (w₀.log t (.run operationId (.registrationCreate data))
      (.ok row) s₀).trace identity row.id := by
    have hexec : executing (w₀.own t) = some identity := he.since hs
    refine List.mem_append_left _ ?_
    simp only [createdBy, List.mem_singleton, Prod.mk.injEq, true_and]
    exact hexec.symm
  exact hlogged.later h₀.leads

theorem plain_of_draws {c : Call} (h : RegistrationsService.draws c = true) : Plain c :=
  plain_of_formats (RegistrationsService.formats_of_draws h)

theorem enqueueRegistrationPipeline_plain (registration : Registration) :
    (RegistrationsService.enqueueRegistrationPipeline rt registration).All Plain := by
  unfold RegistrationsService.enqueueRegistrationPipeline
  split
  · exact all_tryCatch (all_call trivial) fun _ => trivial
  · trivial

theorem returns_createRegistrationOrThrowConflict (hi : Own w) (he : Executing t identity w)
    (registration : Registration) :
    (discipline rt).Returns t (fun row w' => CreatedFor w'.trace identity row.id)
      (inOperation operationId
        (RegistrationsService.createRegistrationOrThrowConflict registration)) w := by
  simp only [RegistrationsService.createRegistrationOrThrowConflict, tryCatch_eq, bind_eq,
    inOperation_tryCatch, inOperation_bind]
  refine Discipline.returns_tryCatch (D := discipline rt) hi ?_ fun error w₁ _ _ => ?_
  · exact Discipline.returns_bind (D := discipline rt) hi
      (returns_plain ((RegistrationsService.tryPublicIds_draws 5).mono
        fun _ => plain_of_draws) he) fun _ _ _ _ he₁ => returns_registrationCreate he₁
  · split <;> exact Discipline.returns_throw

theorem returns_createNormalized (hi : Own w) (he : Executing t identity w)
    (registration : Registration) :
    (discipline rt).Returns t (fun row w' => CreatedFor w'.trace identity row.id)
      (inOperation operationId (RegistrationsService.createNormalized rt registration)) w := by
  simp only [RegistrationsService.createNormalized, bind_eq, inOperation_bind]
  refine Discipline.returns_bind (D := discipline rt) hi (returns_plain (plain_of_checks
    (ScansService.ensureEventCanBeModified_checks _)) he) fun event w₁ hi₁ _ he₁ => ?_
  refine Discipline.returns_bind (D := discipline rt) hi₁ (returns_plain (plain_of_reads
    (RegistrationsService.ensureAttendeeTypeCanBeUsed_reads _ _)) he₁) fun _ w₂ hi₂ _ he₂ => ?_
  refine Discipline.returns_bind (D := discipline rt) hi₂ (returns_plain (plain_of_reads
    (RegistrationsService.ensureDuplicateAllowed_reads _ _)) he₂) fun _ w₃ hi₃ _ he₃ => ?_
  refine Discipline.returns_bind (D := discipline rt) hi₃ (returns_plain (plain_of_reads
    (RegistrationsService.validateStoredFields_reads rt _ _ _)) he₃) fun _ w₄ hi₄ _ he₄ => ?_
  refine Discipline.returns_bind (D := discipline rt) hi₄
    (returns_createRegistrationOrThrowConflict hi₄ he₄ _) fun row w₅ hi₅ _ h₅ => ?_
  refine Discipline.returns_bind (D := discipline rt) hi₅ (P := fun _ w' =>
    CreatedFor w'.trace identity row.id) ?_ fun _ w₆ _ _ h₆ => ?_
  · refine (Discipline.returns_leads (Discipline.returns_of_safe
      (safe_plain (enqueueRegistrationPipeline_plain row)))).mono fun _ w' h => h₅.later h.2
  · exact Discipline.returns_ret fun w' hl => h₆.later hl

theorem plain_of_registers {c : Call} (h : c.registers = true) :
    Plain c ∨ ∃ data, c = .registrationCreate data := by
  cases c with
  | registrationCreate data => exact .inr ⟨data, rfl⟩
  | random => exact .inl trivial
  | enqueuePipeline job => exact .inl trivial
  | _ => exact .inl (plain_of_formats (Call.formats_of_reads h))

/-- Creations through the dashboard, an import or the public form. -/
theorem safe_creation (registration : Registration) :
    (discipline rt).logic.Safe t
      (onScanStore (RegistrationsService.createNormalized rt registration)) w := by
  refine Discipline.safe_of_all ?_ (onScanStore_all_of
    (RegistrationsService.createNormalized_registers rt registration)) w
  rintro c ⟨c', rfl, hc⟩ u v hi - x s' ho
  rcases plain_of_registers hc with hc | ⟨data, rfl⟩
  · exact hi.base hc (syncEffect_of_outcome ho)
  · rcases effect_registrationCreate (syncEffect_base (syncEffect_of_outcome ho)) with
      ⟨⟨e, rfl⟩, hbase⟩ | ⟨row, table, hcreate, rfl, hbase⟩
    · exact hi.tables (fun _ _ _ => rfl) hbase
    · exact hi.create hcreate rfl hbase

/-! ## Linking a mapping -/

/-- A mapping of the offline registration was found or created before. -/
def KnownMapping (identity : Identity) (m : OfflineRegistrationMapping) (w : SyncWorld) : Prop :=
  identityOf m = identity ∧ ∃ s : SyncStore, m ∈ s.base.mappings.rows ∧ Extends s w.store

theorem KnownMapping.later {m : OfflineRegistrationMapping} {w' : SyncWorld}
    (h : KnownMapping identity m w) (hl : (discipline rt).Leads w w') :
    KnownMapping identity m w' := by
  obtain ⟨hid, s, hm, hs⟩ := h
  exact ⟨hid, s, hm, hs.trans hl.1⟩

/-- A stored row under the key of a known mapping is a mapping of the same registration. -/
theorem KnownMapping.eq {m m' : OfflineRegistrationMapping} (h : KnownMapping identity m w)
    (hm' : m' ∈ w.store.base.mappings.rows) (hid : m'.id = m.id) : identityOf m' = identity := by
  obtain ⟨hm, s, hmem, hs⟩ := h
  exact (hs.mappings.core_eq hmem hm' hid.symm).symm.trans hm

/-- A mapping may be linked to a registration of its own offline registration. -/
theorem keeps_link {m : OfflineRegistrationMapping} {p : MappingPatch} {registrationId : Id}
    (hp : p.registrationId = some registrationId) (hk : KnownMapping identity m w)
    (hc : CreatedFor w.trace identity registrationId) :
    (discipline rt).Keeps t (.run operationId (.mappingUpdate m.id p)) w := by
  intro w' hs hi _ x s' ho
  have hk' := hk.later hs.leads
  have hc' := hc.later hs.leads
  have heff := syncEffect_of_outcome ho
  refine hi.next (Barren.creations (fun _ _ _ => rfl) _ _) (syncEffect_extends heff).registrations
    fun m' hm' id hr => ?_
  rcases effect_link (syncEffect_run heff) hp m' hm' with hold | ⟨hlinked, old, hold, hid, hsame⟩
  · exact hi.linked m' hold id hr
  · have heq : id = registrationId := Option.some.inj (hr.symm.trans hlinked)
    exact heq ▸ hsame ▸ hk'.eq hold hid ▸ hc'

/-! ## Executions -/

theorem plain_of_offline {c : Call} (h : ScansService.AnyOffline c) : Plain c := by
  cases h with
  | submit h =>
      cases h with
      | format h => exact plain_of_formats h
      | _ => trivial
  | settle h => cases h <;> trivial
  | _ => trivial

theorem plain_of_online {c : Call} (h : c.Online (fun _ => True) anyOperation) : Plain c := by
  cases h with
  | prepare h =>
      cases h with
      | format h => exact plain_of_formats h
      | _ => trivial
  | settle h => cases h <;> trivial

theorem generate_plain (registrationId : Id) :
    (QrService.generate rt registrationId).All Plain :=
  (QrService.generate_formats rt registrationId).mono fun _ h => plain_of_formats h

theorem enqueueOfflineReconciliation_plain (input : ReconcileInput) :
    (SyncService.enqueueOfflineReconciliation rt input).All Plain := by
  refine all_tryCatch (all_call trivial) fun _ => all_bind ?_ fun _ => trivial
  exact (ScansService.reconcileOfflineRegistration_offline rt input).mono
    fun _ => plain_of_offline

theorem attempt_plain {locals : LocalRegistrationMap} {p : Svc α} (hp : p.All Plain) :
    (SyncService.attempt locals p).All Plain :=
  all_tryCatch (all_bind hp fun _ => trivial) fun _ => trivial

theorem findSynced_plain (batch : SubmitSyncBatchDto) (identity : SyncService.OfflineIdentity) :
    (SyncService.findSynced batch identity).All Plain := by
  refine all_bind (all_call trivial) fun existing => ?_
  cases existing with
  | none => trivial
  | some existing =>
      dsimp only
      split
      · exact all_bind (all_call rfl) fun _ => trivial
      · split
        · trivial
        · refine all_bind (all_call trivial) fun registration => ?_
          cases registration <;> trivial

theorem readIdentity_plain (payload : List (String × Json)) (batch : SubmitSyncBatchDto) :
    (SyncService.readIdentity rt payload batch).All Plain := by
  refine all_bind (all_ofExcept _) fun _ => ?_
  refine all_bind (plain_of_reads (verifySignedOfflineQr_reads rt _ _)) fun verified => ?_
  split
  · trivial
  · refine all_bind (all_ofExcept _) fun _ => all_bind (all_ofExcept _) fun _ => ?_
    exact all_bind (all_ofExcept _) fun _ => all_bind (all_ofExcept _) fun _ => trivial

theorem answerSynced_plain (locals : LocalRegistrationMap) (identity : SyncService.OfflineIdentity)
    (mapping : OfflineRegistrationMapping) (registration : Registration) :
    (SyncService.answerSynced rt locals identity mapping registration).All Plain :=
  attempt_plain (all_bind (generate_plain _) fun _ => trivial)

theorem safe_linkAndReconcile {registration : Registration} {m : OfflineRegistrationMapping}
    (hi : Own w) (hk : KnownMapping identity m w)
    (hc : CreatedFor w.trace identity registration.id) (status : OfflineRegistrationStatus)
    (offline : SyncService.OfflineIdentity) (batch : SubmitSyncBatchDto)
    (locals : LocalRegistrationMap) :
    (discipline rt).logic.Safe t (inOperation operationId
      (SyncService.linkAndReconcile rt status offline batch locals m registration)) w := by
  simp only [SyncService.linkAndReconcile, SyncService.linkMapping, bind_eq, inOperation_bind]
  refine Discipline.safe_bind hi ?_ fun linked w₁ _ _ => ?_
  · refine Discipline.safe_bind hi (safe_plain (generate_plain _)) fun qr w₁ hi₁ hl₁ => ?_
    refine Discipline.safe_bind hi₁ (safe_plain (all_call trivial)) fun stored w₂ hi₂ hl₂ => ?_
    refine Discipline.safe_bind hi₂ ?_ fun _ _ _ _ => fun _ _ _ => trivial
    rw [inOperation_call]
    have hl : (discipline rt).Leads w w₂ := hl₁.trans hl₂
    exact (Discipline.holds_call (keeps_link rfl (hk.later hl) (hc.later hl))).safe
  · exact safe_plain (attempt_plain
      (all_bind (enqueueOfflineReconciliation_plain _) fun _ => trivial))

/-- The registration that an execution creates for its mapping. -/
theorem returns_createRegistration (hi : Own w) (he : Executing t identity w)
    (payload : List (String × Json)) (batch : SubmitSyncBatchDto) (m : OfflineRegistrationMapping) :
    (discipline rt).Returns t (fun row w' => CreatedFor w'.trace identity row.id)
      (inOperation operationId (SyncService.createRegistration rt payload batch m)) w := by
  simp only [SyncService.createRegistration, RegistrationsService.create, tryCatch_eq, bind_eq,
    inOperation_tryCatch, inOperation_bind]
  refine Discipline.returns_tryCatch (D := discipline rt) hi ?_ fun error w₁ hi₁ _ => ?_
  · refine Discipline.returns_bind (D := discipline rt) hi
      (returns_plain (all_ofExcept _) he) fun dto w₁ hi₁ _ he₁ => ?_
    refine Discipline.returns_bind (D := discipline rt) hi₁
      (returns_plain (all_ofExcept _) he₁) fun registration w₂ hi₂ _ he₂ => ?_
    exact returns_createNormalized hi₂ he₂ registration
  · exact Discipline.returns_bind (D := discipline rt) (P := fun _ _ => True) hi₁
      (Discipline.returns_of_safe (safe_plain (all_call rfl)))
      fun _ _ _ _ _ => Discipline.returns_throw

/-- The mapping of an execution, found or created. -/
theorem returns_mappingUpsert {data : OfflineRegistrationMapping} (hdata : data.registrationId = none) :
    (discipline rt).Returns t (fun m w' => KnownMapping (identityOf data) m w' ∧
        ∃ s, w'.own t = ⟨t, .run operationId (.mappingUpsert data), .ok m, s⟩ :: w.own t)
      (inOperation operationId (call (.mappingUpsert data))) w := by
  rw [inOperation_call]
  have hkeeps : (discipline rt).Keeps t (.run operationId (.mappingUpsert data)) w := by
    intro w' _ hi _ x s' ho
    have heff := syncEffect_of_outcome ho
    exact hi.next (Barren.creations (fun _ _ _ => rfl) _ _) (syncEffect_extends heff).registrations
      fun m hm _ hr => hi.links (effect_upsert (syncEffect_run heff) hdata).1 hm hr
  refine (Discipline.returns_performed hkeeps).mono fun m w' h => ⟨?_, h.own⟩
  obtain ⟨w₀, s₀, -, -, -, ho, h₀⟩ := h
  obtain ⟨hm, hid⟩ := (effect_upsert (syncEffect_run (syncEffect_of_outcome ho)) hdata).2 m rfl
  exact ⟨hid, s₀, hm, h₀.1⟩

/-- The registration that a permitted recovery finds. -/
theorem returns_recovery {data m : OfflineRegistrationMapping} {s : SyncStore}
    {log : List SyncEvent}
    (hown : w.own t = ⟨t, .run operationId (.mappingUpsert data), .ok m, s⟩ :: log)
    (v : RegistrationWhere) :
    (discipline rt).Returns t
      (fun found w' => Executing t (identityOf data) w' ∧
        ∀ r, found = some r → CreatedFor w'.trace (identityOf data) r.id)
      (inOperation operationId (call (.registrationFirst v))) w := by
  rw [inOperation_call]
  have hplain : Plain (.registrationFirst v) := trivial
  refine (Discipline.returns_performed (keeps_plain hplain)).mono fun found w' h => ?_
  obtain ⟨w₀, s₀, hs, hi₀, hpermitted, ho, h₀⟩ := h
  have hexec : Executing t (identityOf data) w := by
    rw [Executing, hown]
    rfl
  refine ⟨Executing.since ((hexec.since hs).log hplain _) h₀, fun r hr => ?_⟩
  subst hr
  have hfinds : ∀ r ∈ w₀.store.base.registrations.rows, v.holds r = true →
      CreatedFor w₀.trace (identityOf data) r.id := by
    simpa only [RecoversOwn, hs.own, hown] using hpermitted
  have heff : SyncEffect w₀.store (.run operationId (.registrationFirst v)) (.ok (some r)) s₀ :=
    syncEffect_of_outcome ho
  have hleads : (discipline rt).Leads w₀ w' :=
    Discipline.Leads.trans ⟨syncEffect_extends heff, [_], rfl⟩ h₀.leads
  rcases ho with ⟨ch, ho⟩ | ⟨-, -, e, he⟩
  · have hfirst : ch.first (w₀.store.base.registrations.rows.filter v.holds) = some r := by
      have := congrArg Prod.fst ho
      simpa [personService, syncMachine, onBase, machine, query] using this
    obtain ⟨hr, hholds⟩ := List.mem_filter.mp (Choice.first_mem hfirst)
    exact (hfinds r hr hholds).later hleads
  · cases he

theorem safe_registerOffline (hi : Own w) (payload : List (String × Json))
    (batch : SubmitSyncBatchDto) (locals : LocalRegistrationMap)
    (offline : SyncService.OfflineIdentity) :
    (discipline rt).logic.Safe t (inOperation operationId
      (SyncService.registerOffline rt payload batch locals offline)) w := by
  simp only [SyncService.registerOffline, bind_eq, inOperation_bind]
  refine Discipline.safe_bind_returns hi (returns_mappingUpsert rfl) fun m w₁ hi₁ _ h₁ => ?_
  obtain ⟨hk, s, hown⟩ := h₁
  refine Discipline.safe_bind_returns hi₁ (returns_recovery hown _) fun found w₂ hi₂ hl₂ h₂ => ?_
  cases found with
  | some registration =>
      exact safe_linkAndReconcile hi₂ (hk.later hl₂) (h₂.2 registration rfl) _ _ _ _
  | none =>
      simp only [inOperation_bind]
      refine Discipline.safe_bind_returns hi₂ (returns_createRegistration hi₂ h₂.1 payload batch m)
        fun registration w₃ hi₃ hl₃ h₃ => ?_
      exact safe_linkAndReconcile hi₃ ((hk.later hl₂).later hl₃) h₃ _ _ _ _

theorem safe_runOfflineRegistration (hi : Own w) (payload : List (String × Json))
    (batch : SubmitSyncBatchDto) (locals : LocalRegistrationMap) :
    (discipline rt).logic.Safe t (inOperation operationId
      (SyncService.runOfflineRegistration rt payload batch locals)) w := by
  simp only [SyncService.runOfflineRegistration, SyncService.attemptFrom, tryCatch_eq, bind_eq,
    inOperation_tryCatch, inOperation_bind]
  refine Discipline.safe_tryCatch hi ?_ fun error _ _ _ => fun _ _ _ => trivial
  refine Discipline.safe_bind hi (safe_plain (readIdentity_plain payload batch))
    fun offline w₁ hi₁ _ => ?_
  refine Discipline.safe_bind hi₁ (safe_plain (findSynced_plain batch offline))
    fun synced w₂ hi₂ _ => ?_
  cases synced with
  | some synced => exact safe_plain (answerSynced_plain locals offline synced.1 synced.2)
  | none => exact safe_registerOffline hi₂ payload batch locals offline

theorem safe_runOperation (hi : Own w) (mappingFirst : Bool) (operation : SubmitSyncOperationDto)
    (batch : SubmitSyncBatchDto) (locals : LocalRegistrationMap) :
    (discipline rt).logic.Safe t (inOperation operationId
      (SyncService.runOperation rt mappingFirst operation batch locals)) w := by
  unfold SyncService.runOperation
  cases operation.type with
  | OFFLINE_REGISTRATION =>
      simp only [bind_eq, inOperation_bind]
      exact Discipline.safe_bind hi (safe_runOfflineRegistration hi _ batch locals)
        fun _ _ _ _ => fun _ _ _ => trivial
  | OFFLINE_SCAN =>
      refine safe_plain (attempt_plain (all_bind (all_bind (all_ofExcept _) fun input => ?_)
        fun _ => trivial))
      exact (ScansService.ingestOfflineScan_offline rt mappingFirst input).mono
        fun _ => plain_of_offline
  | QR_GENERATION =>
      refine safe_plain (attempt_plain (all_bind (all_ofExcept _) fun _ => ?_))
      exact all_bind (generate_plain _) fun _ => trivial
  | SCAN_EVENT =>
      refine safe_plain (attempt_plain (all_bind (all_ofExcept _) fun dto => ?_))
      exact all_bind ((ScansService.ingest_online rt trivial).mono fun _ => plain_of_online)
        fun _ => trivial

theorem executes : Executes rt (discipline rt) where
  call c hc t w hi _ x s' ho := by
    have heff := syncEffect_of_outcome ho
    cases c with
    | run operationId c => cases hc
    | base c =>
        exact hi.base (plain_of_formats (Call.formats_of_reads (Call.reads_of_checks hc))) heff
    | _ =>
        refine hi.tables (fun _ _ _ => rfl) ?_
        cases heff <;> first | rfl | assumption
  run mappingFirst operation batch locals t w hi :=
    safe_runOperation hi mappingFirst operation batch locals

/-- The offline registration of the sample card. -/
def sampleRegistration (fields : List (String × Json)) : SubmitSyncOperationDto where
  operationId := "op-1"
  type := .OFFLINE_REGISTRATION
  payload := fields ++ [("signedOfflineQr", .str "card.-"), ("eventId", .str "c0"),
    ("offlineRegistrationOperationId", .str "reg-1"), ("offlineRegistrationId", .str "local-1"),
    ("offlineQrToken", .str "O2.card"), ("attendeeTypeId", .str "c0"),
    ("fullName", .str "Visitor"), ("phone", .str "1")]

/-- Start the submission of an offline registration. -/
def registers (fields : List (String × Json)) : (personService sampleRuntime).Action :=
  .start (SyncService.submitBatch sampleRuntime (fun _ => true)
    (sampleBatch "batch-1" [sampleRegistration fields])).void (fun _ => true) id

/-- Start the recovery of failed operations. -/
def recovers : (personService sampleRuntime).Action :=
  .start (SyncService.recoverFailedOfflineRegistrations sampleRuntime (fun _ => true) {}).void
    (fun _ => true) id

/-- Start the creation of a guest whose external id is the operation id of the card. -/
def invites : (personService sampleRuntime).Action :=
  .start (onScanStore (RegistrationsService.createNormalized sampleRuntime {
      publicId := ""
      eventId := "c0"
      attendeeTypeId := "c0"
      fullName := "Guest"
      phone := some "2"
      externalId := some "reg-1" })).void (fun _ => true) id

/-- The next calls of a thread. -/
def personSteps (t n : Nat) : List (personService sampleRuntime).Action :=
  List.replicate n (.step t ({} : Choice))

@[simp] theorem registers_legal {fields : List (String × Json)} : (registers fields).Legal :=
  fun _ _ => ⟨rfl, .inl (.submitBatch _ _)⟩

@[simp] theorem recovers_legal : recovers.Legal :=
  fun _ _ => ⟨rfl, .inl (.recoverFailedOfflineRegistrations _ _)⟩

@[simp] theorem invites_legal : invites.Legal := fun _ _ => ⟨rfl, .inr ⟨_, rfl⟩⟩

@[simp] theorem personSteps_legal {t n : Nat} : Service.Legal (personSteps t n) := by
  intro a ha
  rw [List.eq_of_mem_replicate ha]
  trivial

/-- The mapping of the card is deleted. -/
def unmaps : (personService sampleRuntime).Action :=
  .change (fun _ => true) fun s =>
    { s with base := { s.base with mappings := s.base.mappings.delete "c0" } }

@[simp] theorem unmaps_legal : unmaps.Legal :=
  fun _ _ => ⟨fun _ hm => (Table.mem_delete.mp hm).1, Nat.le_refl _, Nat.le_refl _⟩

/-- A registration that cannot be linked, as its mapping is gone, and its recovery by
external id. -/
def recoveredRegistration : List (personService sampleRuntime).Action :=
  [registers [("externalId", .str "person-1")]] ++ personSteps 0 27 ++ [unmaps] ++
    personSteps 0 3 ++ [recovers] ++ personSteps 1 13

theorem recoveredRegistration_legal : Service.Legal recoveredRegistration := by
  simp [recoveredRegistration]

end Persons

end CreativeBackend
