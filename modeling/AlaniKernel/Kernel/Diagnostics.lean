import AlaniKernel.Audit
import AlaniKernel.Fault

/-!
# What the diagnostic rings retain

The audit log and the fault reporter number what they are given from one, and
keep the latest of it.
-/

namespace AlaniKernel

open AlaniKernel.Foundation

namespace AuditLog

theorem length_numbered (self : AuditLog) (events : List AuditEvent) :
    (self.numbered events).length = events.length :=
  List.length_mapIdx

theorem len_appendAll (events : List AuditEvent) :
    (new.appendAll events).len = min events.length maxAuditEvents := by
  have hcount := (recent_appendAll events).count
  rwa [length_numbered] at hcount

theorem numbered_new (events : List AuditEvent) (k : Nat) :
    (new.numbered events)[k]? =
      events[k]?.map fun event => { event with sequence := UInt64.ofNat (k + 1) } := by
  rw [numbered, List.getElem?_mapIdx, UInt64.ofNat_add, UInt64.add_comm]
  rfl

theorem get_appendAll (events : List AuditEvent) (index : Nat) :
    (new.appendAll events).get index =
      (Ring.latest maxAuditEvents (new.numbered events))[index]? :=
  (recent_appendAll events).get index

theorem get_appendAll_eq (events : List AuditEvent) (index : Nat) :
    (new.appendAll events).get index =
      events[events.length - (new.appendAll events).len + index]?.map fun event =>
        { event with
          sequence :=
            UInt64.ofNat (events.length - (new.appendAll events).len + index + 1) } := by
  have holdest : events.length - maxAuditEvents =
      events.length - (new.appendAll events).len := by
    rw [len_appendAll]
    omega
  rw [get_appendAll, Ring.latest, List.getElem?_drop, length_numbered, numbered_new, holdest]

theorem last_appendAll {events : List AuditEvent} (h : events ≠ []) :
    (new.appendAll events).last =
      (new.appendAll events).get ((new.appendAll events).len - 1) := by
  have hne : new.numbered events ≠ [] := by
    apply List.ne_nil_of_length_pos
    rw [length_numbered]
    exact List.length_pos_iff.mpr h
  exact (recent_appendAll events).last_eq_get hne

end AuditLog

namespace FaultReporter

theorem len_recordAll (faults : List FaultRecord) :
    (new.recordAll faults).len = min faults.length maxFaultRecords := by
  have hcount := (recent_recordAll faults).count
  rwa [numbered, List.length_mapIdx] at hcount

theorem last_recordAll (faults : List FaultRecord) :
    (new.recordAll faults).last =
      faults.getLast?.map fun fault =>
        { fault with sequence := UInt64.ofNat faults.length } := by
  rw [(recent_recordAll faults).last, numbered]
  induction faults using List.reverseRecOn with
  | nil => rfl
  | append_singleton faults fault =>
      rw [List.mapIdx_concat, List.getLast?_concat, List.getLast?_concat, Option.map_some,
        List.length_append, UInt64.ofNat_add, UInt64.add_comm]
      rfl

end FaultReporter

/--
The log and the reporter retain the latest of their history, at most a ring's
capacity of it, each entry as it was appended but for the number it was given.
-/
theorem rings_retain_latest (events : List AuditEvent) (faults : List FaultRecord) :
    let log := AuditLog.new.appendAll events
    let reporter := FaultReporter.new.recordAll faults
    log.len = min events.length 128 ∧
      (∀ index < log.len, ∃ event,
        events[events.length - log.len + index]? = some event ∧
          log.get index = some { event with
            sequence := UInt64.ofNat (events.length - log.len + index + 1) }) ∧
      (∀ index, log.len ≤ index → log.get index = none) ∧
      (events ≠ [] → log.last = log.get (log.len - 1)) ∧
      (events = [] → log.last = none) ∧
      reporter.len = min faults.length 64 ∧
      reporter.last = faults.getLast?.map fun fault =>
        { fault with sequence := UInt64.ofNat faults.length } := by
  intro log reporter
  have hlen : log.len = min events.length 128 := AuditLog.len_appendAll events
  refine ⟨hlen, ?_, ?_, AuditLog.last_appendAll, ?_, FaultReporter.len_recordAll faults,
    FaultReporter.last_recordAll faults⟩
  · intro index hindex
    have hwithin : events.length - log.len + index < events.length := by omega
    refine ⟨_, List.getElem?_eq_getElem hwithin, ?_⟩
    rw [AuditLog.get_appendAll_eq, List.getElem?_eq_getElem hwithin]
    rfl
  · intro index hindex
    exact if_pos hindex
  · rintro rfl
    rfl

theorem rings_retain_latest_wrapped :
    let log := AuditLog.new.appendAll (List.replicate 130 .empty)
    log.len = 128 ∧ log.get 0 = some { AuditEvent.empty with sequence := 3 } := by
  intro log
  obtain ⟨hlen, hget, -⟩ := rings_retain_latest (List.replicate 130 .empty) []
  have hfull : log.len = 128 := by
    rw [hlen, List.length_replicate]
    rfl
  obtain ⟨event, hevent, hfirst⟩ := hget 0 (by rw [hfull]; decide)
  rw [hfull, List.length_replicate] at hevent hfirst
  cases hevent
  exact ⟨hfull, hfirst⟩

end AlaniKernel
