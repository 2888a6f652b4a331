import CreativeBackend.Staff.Runs

/-!
# One active session

No index of the database keeps a user, or a device, from having two active sessions. The
transactions do: whatever the order of the calls, each user and each device of an event has one
active session at most, each user one active assignment, and a session that has ended stays so.
-/

namespace CreativeBackend.Staff

open Relational Interaction StaffStore

variable {s s' : StaffStore}

/-- A user and a device of an event have one active session at most, and a user has one active
assignment at most. -/
structure Exclusive (s : StaffStore) : Prop where
  ofUser : s.sessions.Alone (·.status = .ACTIVE) (·.staffUserId)
  ofDevice : s.sessions.Alone (·.status = .ACTIVE) fun a => (a.eventId, a.deviceId)
  assignment : s.OneAssignment

/-- Sessions that continue have their users and devices for themselves. -/
theorem Exclusive.of_remains (h : Exclusive s)
    (hr : s.sessions.Remains Session.Continues s'.sessions) (ha : s'.OneAssignment) :
    Exclusive s' where
  ofUser := h.ofUser.remains (hr.mono fun _ _ hab hb => ⟨hab.active hb, hab.user⟩)
  ofDevice := h.ofDevice.remains
    (hr.mono fun _ _ hab hb => ⟨hab.active hb, Prod.ext hab.event hab.device⟩)
  assignment := ha

theorem Exclusive.starts {d : NewSession} (h : Exclusive s) (hs : Starts d s s') : Exclusive s' := by
  obtain ⟨⟨t, data, row, hr, hfree, hcreate, hevent, huser, hdevice, -⟩, hassignments⟩ := hs
  have hbefore : Exclusive { s with sessions := t } := h.of_remains hr h.assignment
  constructor
  · apply hbefore.ofUser.create hcreate
    intro a ha hactive
    rw [huser]
    exact (hfree a ha hactive).1
  · apply hbefore.ofDevice.create hcreate
    intro a ha hactive hsame
    rw [hevent, hdevice] at hsame
    exact (hfree a ha hactive).2 (Prod.mk.inj hsame)
  · rw [OneAssignment, hassignments]
    exact h.assignment

/-- What one call keeps. -/
theorem Exclusive.effect {c : StaffCall} (h : Exclusive s) (he : s.Effect c s') : Exclusive s' := by
  cases he with
  | reassigned scope he => exact h.of_remains he.continues (he.one h.assignment)
  | started hs => exact h.starts hs
  | @updated id p row t hp hu =>
      refine h.of_remains ?_ (one_of_update (by simp [hp]) hu h.assignment)
      exact .refl .refl s.sessions

/-- No call makes a session active again. -/
theorem retired_of_effect {c : StaffCall} {id : Id}
    (h : s.sessions.Retired (·.status = .ACTIVE) id) (he : s.Effect c s') :
    s'.sessions.Retired (·.status = .ACTIVE) id := by
  cases he with
  | reassigned scope he => exact h.remains (he.continues.mono fun _ _ hab => hab.active)
  | started hs =>
      obtain ⟨t, data, row, hr, -, hcreate, -⟩ := hs.added
      exact (h.remains (hr.mono fun _ _ hab => hab.active)).create hcreate
  | updated hp hu => exact h

/-- Whatever the order of the calls, sessions and assignments stay exclusive, and a session that has
ended is not active later. -/
theorem exclusive_of_reach {s₀ : StaffStore} (h₀ : Exclusive s₀) {cfg cfg' : StaffConfig}
    (hr : staffService.system.Reach (Service.init s₀) cfg)
    (hr' : staffService.system.Reach cfg cfg') :
    Exclusive cfg.world.store ∧
      ∀ a ∈ cfg.world.store.sessions.rows, a.status = .ENDED →
        ∀ b ∈ cfg'.world.store.sessions.rows, b.id = a.id → b.status ≠ .ACTIVE := by
  rw [← System.restrict_true staffService.system] at hr hr'
  obtain ⟨hsound, hexclusive⟩ := store_of_sound (I := Exclusive)
    (fun _ _ _ _ hi _ he => hi.effect he)
    (fun _ _ hs ha hi => ⟨by rw [hs]; exact hi.ofUser, by rw [hs]; exact hi.ofDevice,
      by rw [OneAssignment, ha]; exact hi.assignment⟩) (sound_init s₀) h₀ hr
  refine ⟨hexclusive, fun a ha hended b hb hid => ?_⟩
  have hretired : cfg.world.store.sessions.Retired (·.status = .ACTIVE) a.id := by
    refine Table.Retired.of_mem ha ?_
    rw [hended]
    decide
  have hlater := store_of_sound (I := fun s => s.sessions.Retired (·.status = .ACTIVE) a.id)
    (fun _ _ _ _ hi _ he => retired_of_effect hi he) (fun _ _ hs _ hi => by dsimp only; rwa [hs])
    hsound hretired hr'
  exact hlater.2.idle b hb hid

/-! ## Two starts -/

/-- A member of staff, and the gate that she is assigned to. -/
def gateStore : StaffStore where
  clock := 1785542400000
  events := .ofData [{ status := .ACTIVE, startsAt := 0, endsAt := 1785628800000 }]
  users := .ofData [{ role := .STAFF }]
  devices := .ofData [{ eventId := "c0", code := "D1", status := .ACTIVE }]
  checkpoints := .ofData [{ eventId := "c0", code := "GATE" }]
  assignments := .ofData
    [{ eventId := "c0", userId := "c0", checkpointId := some "c0", deviceId := some "c0" }]

theorem gateStore_exclusive : Exclusive gateStore where
  ofUser a ha := by cases ha
  ofDevice a ha := by cases ha
  assignment a ha b hb _ _ _ := by
    rw [show gateStore.assignments.rows = [_] from rfl, List.mem_singleton] at ha hb
    rw [ha, hb]

def startGate : StaffOp :=
  .start { id := "c0", role := .STAFF }
    { eventId := "c0", deviceId := "c0", checkpointId := "c0", mode := .ENTRY }

def startOp (op : StaffOp) : staffService.Action := .start op.program (fun _ => true) fun s => s

/-- Operations that are started together, and the steps that each takes in turn. -/
def interleaving (ops : List StaffOp) (steps : List (Nat × Nat)) : List staffService.Action :=
  ops.map startOp ++ steps.flatMap fun (t, n) => List.replicate n (.step t {})

theorem legal_interleaving (ops : List StaffOp) (steps : List (Nat × Nat)) :
    Service.Legal (interleaving ops steps) := by
  unfold interleaving
  rw [Service.legal_append]
  constructor
  · intro a ha
    obtain ⟨op, -, rfl⟩ := List.mem_map.mp ha
    exact fun _ _ => ⟨rfl, op, rfl⟩
  · intro a ha
    obtain ⟨⟨t, n⟩, -, hmem⟩ := List.mem_flatMap.mp ha
    rw [List.eq_of_mem_replicate hmem]
    trivial

def isActive (a : Session) : Bool := a.status = .ACTIVE

def isEnded (a : Session) : Bool := a.status = .ENDED

/-- The second start ends the session of the first. -/
theorem second_start_ends_first : ∃ cfg : StaffConfig,
    staffService.system.Reach (Service.init gateStore) cfg ∧
      (cfg.world.store.sessions.rows.any isEnded = true ∧
        cfg.world.store.sessions.rows.any isActive = true) ∧
      Exclusive cfg.world.store ∧
        ∀ a ∈ cfg.world.store.sessions.rows, a.status = .ENDED →
          ∀ b ∈ cfg.world.store.sessions.rows, b.id = a.id → b.status ≠ .ACTIVE := by
  obtain ⟨cfg, hr, hstore⟩ := Service.exists_reach_of_perform (fun _ _ _ => True)
    (interleaving [startGate, startGate] [(0, 7), (1, 7)]) (Service.init gateStore)
    (fun s => s.sessions.rows.any isEnded && s.sessions.rows.any isActive)
    (legal_interleaving _ _) (by decide +kernel)
  rw [System.restrict_true] at hr
  rw [Bool.and_eq_true] at hstore
  exact ⟨cfg, hr, hstore, exclusive_of_reach gateStore_exclusive hr .refl⟩

end CreativeBackend.Staff
