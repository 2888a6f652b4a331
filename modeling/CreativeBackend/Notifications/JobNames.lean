import CreativeBackend.Notifications.Deliveries
import CreativeBackend.Interaction.OwnLog

/-!
# The jobs of the logs

The jobs of the queue have distinct ids, and the id of a job names the log that it delivers, so a
log has at most one job. What happens around the service keeps it so.
-/

namespace CreativeBackend

open Relational Interaction NotificationsService

namespace Notifications.Retries

/-- The job that `enqueueWhatsAppLog` adds. -/
def newJob (logId : Id) (manualRetry : Bool) (attempts : Nat) : WhatsAppJob :=
  { id := getWhatsAppJobId logId, notificationLogId := logId, manualRetry, attempts }

/-- Job ids are unique and name the log of the job. -/
structure Named (s : NotificationStore) : Prop where
  nodup : (s.jobs.map (·.id)).Nodup
  named : ∀ j ∈ s.jobs, j.id = getWhatsAppJobId j.notificationLogId ∧ HasLog j.notificationLogId s

theorem jobId_injective {a b : Id} (h : getWhatsAppJobId a = getWhatsAppJobId b) : a = b := by
  have hlist : ("whatsapp-" ++ a).toList = ("whatsapp-" ++ b).toList := congrArg String.toList h
  rw [String.toList_append, String.toList_append] at hlist
  exact String.toList_injective (List.append_cancel_left hlist)

theorem mem_updateJobs {s : NotificationStore} {jobId : String} {f : WhatsAppJob → WhatsAppJob}
    {j' : WhatsAppJob} : j' ∈ (s.updateJobs jobId f).jobs ↔
      ∃ j ∈ s.jobs, (if j.id = jobId then f j else j) = j' := by
  simp [NotificationStore.updateJobs, List.mem_map]

theorem mem_updateJobs_self {s : NotificationStore} {f : WhatsAppJob → WhatsAppJob}
    {j : WhatsAppJob} (hj : j ∈ s.jobs) : f j ∈ (s.updateJobs j.id f).jobs :=
  mem_updateJobs.mpr ⟨j, hj, if_pos rfl⟩

namespace Named

variable {s s' : NotificationStore} (h : Named s)

include h

theorem eq_of_id {j j' : WhatsAppJob} (hj : j ∈ s.jobs) (hj' : j' ∈ s.jobs) (hid : j.id = j'.id) :
    j = j' :=
  List.inj_on_of_nodup_map h.nodup hj hj' hid

/-- The job of a log is the one under its id. -/
theorem findJob_eq_some {logId : Id} {j : WhatsAppJob} (hj : j ∈ s.jobs)
    (hlog : j.notificationLogId = logId) : s.findJob (getWhatsAppJobId logId) = some j := by
  have hid : j.id = getWhatsAppJobId logId := hlog ▸ (h.named j hj).1
  cases hfound : s.findJob (getWhatsAppJobId logId) with
  | none =>
      have hno := List.find?_eq_none.mp hfound j hj
      exact absurd hid (by simpa using hno)
  | some j' =>
      have hid' : j'.id = getWhatsAppJobId logId := by simpa using List.find?_some hfound
      rw [h.eq_of_id (List.mem_of_find?_eq_some hfound) hj (hid'.trans hid.symm)]

/-- A change of the jobs that keeps their ids and logs. -/
theorem update (hlogs : ∀ logId, HasLog logId s → HasLog logId s') {jobId : String}
    {f : WhatsAppJob → WhatsAppJob} (hjobs : s'.jobs = (s.updateJobs jobId f).jobs)
    (hid : ∀ j, (f j).id = j.id) (hlog : ∀ j, (f j).notificationLogId = j.notificationLogId) :
    Named s' where
  nodup := by
    have hsame : s'.jobs.map (·.id) = s.jobs.map (·.id) := by
      rw [hjobs, NotificationStore.updateJobs, List.map_map]
      apply List.map_congr_left
      intro j _
      by_cases hj : j.id = jobId <;> simp [hj, hid]
    rw [hsame]
    exact h.nodup
  named j' hj' := by
    rw [hjobs] at hj'
    obtain ⟨j, hj, rfl⟩ := mem_updateJobs.mp hj'
    obtain ⟨hname, hhas⟩ := h.named j hj
    split
    · rw [hid, hlog]
      exact ⟨hname, hlogs _ hhas⟩
    · exact ⟨hname, hlogs _ hhas⟩

end Named

theorem named_of_surroundings {s s' : NotificationStore} (h : Surroundings s s') (hn : Named s) :
    Named s' := by
  cases h with
  | promote jobId =>
      have hlogs : ∀ {f}, ∀ logId, HasLog logId s → HasLog logId (s.updateJobs jobId f) :=
        fun _ h => h
      apply hn.update hlogs rfl
      · intro j
        split <;> rfl
      · intro j
        split <;> rfl
  | remove keep =>
      refine ⟨hn.nodup.sublist (List.filter_sublist.map _), fun j hj => ?_⟩
      exact hn.named j (List.mem_of_mem_filter hj)
  | change _ _ => exact ⟨hn.nodup, hn.named⟩

end Notifications.Retries

end CreativeBackend
