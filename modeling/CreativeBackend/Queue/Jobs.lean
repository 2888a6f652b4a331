import CreativeBackend.Queue.Stream
import CreativeBackend.Scans.Footprint

/-!
# The calls of the scan jobs

`processRawScan` neither creates a raw scan nor a job, and leaves no raw scan pending that
it writes. It only returns after the row of its scan was found decided, or was written.
-/

namespace CreativeBackend

open Relational Interaction Prog

/-- The calls of `processRawScan`. -/
def Call.handles : Call → Bool
  | .touchActivity _ _ => true
  | .offlineScanCreate _ => true
  | .updateProcessed _ _ => true
  | .rawScanUpdate _ v => v.status ≠ .PENDING
  | c => c.formats

theorem Call.handles_of_formats {c : Call} (h : c.formats = true) : c.handles = true := by
  cases c <;> first | rfl | exact h | exact Bool.noConfusion h

/-- Programs that only make the calls of `processRawScan`. -/
abbrev Handles {α : Type} (p : Svc α) : Prop := p.All (·.handles = true)

theorem Formats.handles {α : Type} {p : Svc α} (h : Formats p) : Handles p :=
  h.mono fun _ => Call.handles_of_formats

theorem Reads.handles {α : Type} {p : Svc α} (h : Reads p) : Handles p := h.formats.handles

theorem Checks.handles {α : Type} {p : Svc α} (h : Checks p) : Handles p := h.reads.handles

/-- The answer says that the scan is gone or decided, or the call decides it. -/
def Decides (id : Id) : (c : Call) → Except Exn (Resp c) → Prop
  | .rawScanById k, .ok none => k = id
  | .rawScanById k, .ok (some a) => k = id ∧ ¬ (a.id = id ∧ a.status = .PENDING)
  | .rawScanUpdate k v, .ok _ => k = id ∧ v.status ≠ .PENDING
  | .updateProcessed scan _, .ok _ => scan.id = id
  | _, _ => False

namespace ScansService

variable (rt : Runtime)

theorem createPendingScan_handles (dto : CreateScanDto) (data : Id → OfflineScanData) :
    Handles (createPendingScan dto data) := by
  unfold createPendingScan
  split
  · trivial
  · refine all_bind (all_call rfl) fun existing => ?_
    cases existing with
    | none => exact all_call rfl
    | some existing => trivial

theorem processDecision_handles (scanEvent : ScanEventRaw) (event : Event) (device : Device)
    (staffSession : Option StaffSession) (checkpoint : Option Checkpoint) (context : QrContext) :
    Handles (processDecision rt scanEvent event device staffSession checkpoint context) := by
  cases context with
  | pendingOfflineReference offlineQrToken payload registrationId =>
      simp only [processDecision]
      split
      · trivial
      · refine all_bind (createPendingScan_handles _ _) fun _ => ?_
        refine all_bind (all_call rfl) fun _ => ?_
        exact all_bind (all_call rfl) fun _ => trivial
  | pendingOffline verified =>
      simp only [processDecision]
      split
      · trivial
      · refine all_bind (createPendingScan_handles _ _) fun _ => ?_
        refine all_bind (all_call rfl) fun _ => ?_
        exact all_bind (all_call rfl) fun _ => trivial
  | invalid reason payload qrTokenId registrationId =>
      refine all_bind (all_call rfl) fun _ => ?_
      refine all_bind (all_call rfl) fun _ => ?_
      exact all_bind (formatScanResponse_formats rt _ _ _ _ _).handles fun _ => trivial
  | valid context =>
      refine all_bind (scanReason_checks rt _ _ _ _).handles fun reason => ?_
      refine all_bind (all_call rfl) fun _ => ?_
      refine all_bind (all_call rfl) fun _ => ?_
      exact all_bind (formatScanResponse_formats rt _ _ _ _ _).handles fun _ => trivial

theorem processPending_handles (scanEvent : ScanEventRaw) : Handles (processPending rt scanEvent) := by
  refine all_bind (ensureEventCanBeModified_checks _).handles fun event => ?_
  refine all_bind (ensureActiveDevice_checks _ _).handles fun device => ?_
  refine all_bind (ensureActiveStaffSession_checks _ _).handles fun staffSession => ?_
  refine all_bind (ensureActiveCheckpoint_checks _ _).handles fun checkpoint => ?_
  refine all_bind (validateQrForScan_reads rt _ _).handles fun context => ?_
  exact processDecision_handles rt scanEvent event device staffSession checkpoint context

theorem processRawScan_handles (scanEventRawId : Id) :
    Handles (processRawScan rt scanEventRawId) := by
  refine all_bind (all_call rfl) fun scanEvent => ?_
  cases scanEvent with
  | none => trivial
  | some scanEvent =>
      dsimp only
      split
      · trivial
      · refine all_tryCatch (processPending_handles rt scanEvent) fun error => ?_
        exact all_bind (all_call rfl) fun _ => trivial

theorem processDecision_earns (scanEvent : ScanEventRaw) (event : Event) (device : Device)
    (staffSession : Option StaffSession) (checkpoint : Option Checkpoint) (context : QrContext) :
    (processDecision rt scanEvent event device staffSession checkpoint context).Earns
      (Decides scanEvent.id) := by
  have hwritten : ∀ v : RawScanVerdict, v.status ≠ .PENDING →
      (call (.rawScanUpdate scanEvent.id v)).Earns (Decides scanEvent.id) :=
    fun v hv => earns_call fun _ => ⟨rfl, hv⟩
  cases context with
  | pendingOfflineReference offlineQrToken payload registrationId =>
      simp only [processDecision]
      split
      · trivial
      · exact earns_bind_right fun _ => (hwritten _ (by simp [failedVerdict])).bind _
  | pendingOffline verified =>
      simp only [processDecision]
      split
      · trivial
      · exact earns_bind_right fun _ => (hwritten _ (by simp [failedVerdict])).bind _
  | invalid reason payload qrTokenId registrationId =>
      exact (hwritten _ (by simp [invalidVerdict])).bind _
  | valid context =>
      refine earns_bind_right fun reason => ?_
      exact (earns_call fun _ => rfl : (call (.updateProcessed scanEvent _)).Earns _).bind _

/-- What `processRawScan` returns, it returns after its scan was decided. -/
theorem processRawScan_earns (scanEventRawId : Id) :
    (processRawScan rt scanEventRawId).Earns (Decides scanEventRawId) := by
  refine earns_call_bind fun scanEvent => ?_
  cases scanEvent with
  | none => exact .inl rfl
  | some scanEvent =>
      by_cases hpending : scanEvent.id = scanEventRawId ∧ scanEvent.status = .PENDING
      · obtain ⟨rfl, hstatus⟩ := hpending
        right
        dsimp only
        rw [if_neg (not_not.mpr hstatus)]
        refine Earns.tryCatch ?_ fun error => ?_
        · refine earns_bind_right fun event => earns_bind_right fun device => ?_
          refine earns_bind_right fun staffSession => earns_bind_right fun checkpoint => ?_
          refine earns_bind_right fun context => ?_
          exact processDecision_earns rt scanEvent event device staffSession checkpoint context
        · exact Earns.bind (earns_call fun _ => ⟨rfl, by simp [failedVerdict]⟩) _
      · exact .inl ⟨rfl, hpending⟩

end ScansService

/-! ## Programs on the database among the calls of the queue -/

section Lifted

variable {α β : Type}

theorem all_onDatabase {P : QueueCall → Prop} {p : Svc α} (h : p.All fun c => P (.base c)) :
    (onDatabase p).All P := by
  induction p with
  | ret a => trivial
  | throw e => trivial
  | ask c k ih => exact ⟨h.1, fun r => ih r (h.2 r)⟩

/-- What is earned of the database is earned of the queue. -/
theorem earns_onDatabase {A : (c : QueueCall) → Except Exn (QueueResp c) → Prop} {p : Svc α}
    (h : p.Earns fun c x => A (.base c) x) : (onDatabase p).Earns A := by
  induction p with
  | ret a => exact h.elim
  | throw e => trivial
  | ask c k ih =>
      intro r
      rcases h r with hr | hr
      · exact .inl hr
      · exact .inr (ih r hr)

theorem onDatabase_bind (p : Svc α) (f : α → Svc β) :
    onDatabase (p.bind f) = (onDatabase p).bind fun a => onDatabase (f a) := by
  induction p with
  | ret a => rfl
  | throw e => rfl
  | ask c k ih =>
      simp only [bind_ask, onDatabase, ih]

theorem onDatabase_tryCatch (p : Svc α) (f : Exn → Svc α) :
    onDatabase (p.tryCatch f) = (onDatabase p).tryCatch fun e => onDatabase (f e) := by
  induction p with
  | ret a => rfl
  | throw e => rfl
  | ask c k ih =>
      simp only [Prog.tryCatch, onDatabase, ih]

theorem onDatabase_call (c : Call) : onDatabase (call c) = queueCall (.base c) := by
  unfold call queueCall Prog.call onDatabase
  congr 1
  funext r
  cases r <;> rfl

end Lifted

end CreativeBackend
