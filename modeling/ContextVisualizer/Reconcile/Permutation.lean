import ContextVisualizer.Reconcile.Refinement

/-!
# Reconciliation does not depend on arrival order

Two snapshots that hold the same `(container id, record)` pairs, in any order, give tables with
the same keys, and each key's entry has the same `event_id` in both: the survivor of a key is a
record of largest `event_id`, and which records carry that largest value does not depend on the
order. Which of them survives does: ties go to the first one read. When every key has one
largest record, the two topologies list the same nodes, in possibly different orders.
-/

namespace ContextVisualizer

variable (py : Runtime)

/-- Two records of one key that both carry the largest `event_id` of the key are the same. -/
def UniqueMax (rs : List Keyed) : Prop :=
  ∀ r ∈ rs, ∀ s ∈ rs, r.1 = s.1 → dominates rs r.1 (eventNum r.2) →
    dominates rs s.1 (eventNum s.2) → r.2 = s.2

instance (rs : List Keyed) : Decidable (UniqueMax rs) :=
  inferInstanceAs (Decidable (∀ r ∈ rs, ∀ s ∈ rs, _))

/-! ### Survivors under a permutation -/

/-- The survivors of a key in two orders of the same records have the same `event_id`. -/
lemma eventNum_survivor_perm {rs rs' : List Keyed} (h : rs.Perm rs') {k : String}
    {e e' : Entries} (hs : survivor rs k = some e) (hs' : survivor rs' k = some e') :
    eventNum e = eventNum e' := by
  obtain ⟨hm, hmax⟩ := survivor_spec hs
  obtain ⟨hm', hmax'⟩ := survivor_spec hs'
  exact le_antisymm (hmax' _ (h.subset hm) rfl) (hmax _ (h.symm.subset hm') rfl)

lemma uniqueTop_of_uniqueMax {rs : List Keyed} (hu : UniqueMax rs) : UniqueTop intBelow rs := by
  simpa only [UniqueTop, unbeaten_intBelow] using hu

/-- With one largest record per key, the survivor does not depend on the order. -/
lemma survivor_perm {rs rs' : List Keyed} (h : rs.Perm rs') (hu : UniqueMax rs) (k : String) :
    survivor rs k = survivor rs' k := by
  simp only [survivor_eq_firstMax,
    firstMax_perm h (keyOrder_intBelow rs) (uniqueTop_of_uniqueMax hu)]

lemma referenceNodes_perm (host : String) {rs rs' : List Keyed} (h : rs.Perm rs')
    (hu : UniqueMax rs) : (referenceNodes py host rs).Perm (referenceNodes py host rs') := by
  unfold referenceNodes
  simp only [survivor_perm h hu]
  exact (firstKeys_perm (h.map Prod.fst)).filterMap _

/-! ### Two runs of `get_topology` -/

/-- Two snapshots with the same records, in any order: both answer 200, the tables have the same
keys, each key's entries have the same `event_id`, and with one largest record per key the two
node lists are permutations of each other. -/
theorem topology_order_independent (host : String) (A B : Snapshot)
    (hA : ReconcileReady A.containers)
    (hperm : (topologyEntries A.containers).Perm (topologyEntries B.containers)) :
    ∃ tA tB nA nB, latestNodes py A.containers = .ok tA ∧
      latestNodes py B.containers = .ok tB ∧
      getTopology py host (.ok A) = .ok ⟨topologyBody nA, 200⟩ ∧
      getTopology py host (.ok B) = .ok ⟨topologyBody nB, 200⟩ ∧
      (tA.map Prod.fst).Perm (tB.map Prod.fst) ∧
      (∀ k ea eb, tA.lookup k = some ea → tB.lookup k = some eb →
        eventNum ea = eventNum eb) ∧
      (UniqueMax (keyedEntries py A.containers) → nA.Perm nB) := by
  have hB : ReconcileReady B.containers := fun p hp => hA p (hperm.symm.subset hp)
  have hK : (keyedEntries py A.containers).Perm (keyedEntries py B.containers) := hperm.map _
  obtain ⟨tA, hlA, htA⟩ := latestNodes_tracks py hA
  obtain ⟨tB, hlB, htB⟩ := latestNodes_tracks py hB
  refine ⟨tA, tB, _, _, hlA, hlB, getTopology_ok_of py hlA (mapM_nodeView py host hA htA),
    getTopology_ok_of py hlB (mapM_nodeView py host hB htB), ?_, fun k ea eb ha hb => ?_,
    referenceNodes_perm py host hK⟩
  · rw [htA.keys, htB.keys]
    exact firstKeys_perm (hK.map Prod.fst)
  · rw [htA.lookup, ← survivor_eq_firstMax] at ha
    rw [htB.lookup, ← survivor_eq_firstMax] at hb
    exact eventNum_survivor_perm hK ha hb

/-- The snapshot `specSnapshot` with its two containers listed the other way round. -/
def specSnapshotSwapped : Snapshot := ⟨specSnapshot.containers.reverse, by decide⟩

theorem topology_order_independent_specSnapshot : ReconcileReady specSnapshot.containers ∧
    (topologyEntries specSnapshot.containers).Perm
      (topologyEntries specSnapshotSwapped.containers) ∧
    ∃ tA tB nA nB, latestNodes sampleRuntime specSnapshot.containers = .ok tA ∧
      latestNodes sampleRuntime specSnapshotSwapped.containers = .ok tB ∧
      getTopology sampleRuntime "viz" (.ok specSnapshot) = .ok ⟨topologyBody nA, 200⟩ ∧
      getTopology sampleRuntime "viz" (.ok specSnapshotSwapped) = .ok ⟨topologyBody nB, 200⟩ ∧
      (tA.map Prod.fst).Perm (tB.map Prod.fst) ∧
      (∀ k ea eb, tA.lookup k = some ea → tB.lookup k = some eb →
        eventNum ea = eventNum eb) ∧
      (UniqueMax (keyedEntries sampleRuntime specSnapshot.containers) → nA.Perm nB) :=
  ⟨by decide, by decide,
    topology_order_independent sampleRuntime "viz" specSnapshot specSnapshotSwapped (by decide)
      (by decide)⟩

/-- Node `1` reported twice with the same `event_id`: the first record read survives, so the
two orders show different CPU figures. -/
def tiedSnapshot : Snapshot := ⟨[
    ("c1", .list [.dict [("node_id", .int 1), ("cpu_usage_pct", .int 10)]]),
    ("c2", .list [.dict [("node_id", .int 1), ("cpu_usage_pct", .int 20)]])], by decide⟩

example : getTopology sampleRuntime "viz" (.ok tiedSnapshot) ≠
    getTopology sampleRuntime "viz" (.ok ⟨tiedSnapshot.containers.reverse, by decide⟩) := by
  simp only [ne_eq, Except.ok.injEq]
  intro h
  cases h

end ContextVisualizer
