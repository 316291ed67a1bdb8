import ContextVisualizer.Reconcile.Refinement
import ContextVisualizer.Python.Compare

/-!
# Reconciliation under the order `>` gives event ids

`survivor` takes event ids to be ints. The loop itself only asks `>` of two records of one key,
and what it keeps for any strict weak order that `>` computes is the first unbeaten record
(`latestNodes_tracksBy`). This module instantiates that at Python's `>`.

Event ids that are non-NaN numbers on every record of a key, or strings on every record of a
key, are ranked (`Json.rank`), and their ranks are such an order (`EventsComparable`): numbers
are compared by exact value, strings by code points (`getTopology_eq_firstMax`). Without ties at
the top of a key the answer then does not depend on the order the records arrive in
(`topology_order_independent_ranked`). A NaN is not ranked, since `>` is false on both sides of
it; a key whose first record carries a NaN keeps that record whatever follows
(`latestNodes_nan_pinned`).
-/

namespace ContextVisualizer

variable (py : Runtime)

/-! ### Event ids of one kind per key -/

/-- `a`'s event id is below `b`'s, as `>` sees them once both are ranked. -/
def eventBelow (a b : Entries) : Bool :=
  match (eventId a).rank, (eventId b).rank with
  | some x, some y => x.lt y
  | _, _ => false

/-- Both event ids are ranked, and of one kind. -/
def comparableEvents (a b : Entries) : Bool :=
  match (eventId a).rank, (eventId b).rank with
  | some x, some y => x.sameKind y
  | _, _ => false

/-- The event ids of the records of each key are all numbers other than NaN, or all strings. -/
def EventsComparable (rs : List Keyed) : Prop :=
  ∀ r ∈ rs, ∀ s ∈ rs, r.1 = s.1 → comparableEvents r.2 s.2

instance (rs : List Keyed) : Decidable (EventsComparable rs) :=
  inferInstanceAs (Decidable (∀ r ∈ rs, ∀ s ∈ rs, _))

lemma ranks_of_comparable {a b : Entries} (h : comparableEvents a b) :
    ∃ x y, (eventId a).rank = some x ∧ (eventId b).rank = some y ∧ x.sameKind y := by
  unfold comparableEvents at h
  cases ha : (eventId a).rank <;> cases hb : (eventId b).rank <;>
    simp only [ha, hb, Bool.false_eq_true] at h
  exact ⟨_, _, rfl, rfl, h⟩

lemma eventBelow_of_ranks {a b : Entries} {x y : Rank} (ha : (eventId a).rank = some x)
    (hb : (eventId b).rank = some y) : eventBelow a b = x.lt y := by
  simp [eventBelow, ha, hb]

lemma keyOrder_eventBelow {rs : List Keyed} (h : EventsComparable rs) :
    KeyOrder eventBelow rs where
  irrefl r hr := by
    obtain ⟨x, _, hx, -, -⟩ := ranks_of_comparable (h r hr r hr rfl)
    rw [eventBelow_of_ranks hx hx, Rank.lt_irrefl]
  trans r hr s hs t ht hrs hst := by
    obtain ⟨x, y, hx, hy, -⟩ := ranks_of_comparable (h r hr s hs hrs)
    obtain ⟨y', z, hy', hz, -⟩ := ranks_of_comparable (h s hs t ht hst)
    cases hy.symm.trans hy'
    rw [eventBelow_of_ranks hx hy, eventBelow_of_ranks hy hz, eventBelow_of_ranks hx hz]
    exact Rank.lt_trans
  negTrans r hr s hs t ht hrs hst := by
    obtain ⟨x, y, hx, hy, hxy⟩ := ranks_of_comparable (h r hr s hs hrs)
    obtain ⟨y', z, hy', hz, -⟩ := ranks_of_comparable (h s hs t ht hst)
    cases hy.symm.trans hy'
    rw [eventBelow_of_ranks hx hy, eventBelow_of_ranks hy hz, eventBelow_of_ranks hx hz]
    exact Rank.lt_or_lt hxy

lemma compares_eventBelow {rs : List Keyed} (h : EventsComparable rs) :
    Compares eventBelow rs := fun r hr s hs hrs => by
  obtain ⟨x, y, hx, hy, hxy⟩ := ranks_of_comparable (h r hr s hs hrs)
  rw [eventBelow_of_ranks hx hy]
  exact pyGt_of_rank hx hy hxy

/-- When the event ids of each key's records are all numbers other than NaN or all strings, and
node ids are ints or absent, `get_topology` answers 200 with one node per key, in order of first
appearance, built from the key's first record that no record of the key is above: numbers by
exact value, strings by code points. -/
theorem getTopology_eq_firstMax (host : String) (snap : Snapshot)
    (he : EventsComparable (keyedEntries py snap.containers))
    (hn : ∀ p ∈ topologyEntries snap.containers, nodeIdIsInt p.2) :
    getTopology py host (.ok snap) = .ok ⟨topologyBody
      ((firstKeys ((keyedEntries py snap.containers).map Prod.fst)).filterMap fun k =>
        (firstMax eventBelow (keyedEntries py snap.containers) k).map (referenceNode py host k)),
      200⟩ := by
  obtain ⟨nodes, hl, ht⟩ :=
    latestNodes_tracksBy py (keyOrder_eventBelow he) (compares_eventBelow he)
  exact getTopology_ok_of py hl (mapM_nodeView_tracksBy py host hn ht)

/-- Node `1` reports the float `2.5` after the int `2`; node `2` reports the strings `"9"` and
then `"10"`, which compare by code points. -/
def rankedSnapshot : Snapshot := ⟨[
    ("c1", .list [.dict [("node_id", .int 1), ("event_id", .int 2), ("hostname", .str "old")],
      .dict [("node_id", .int 1), ("event_id", .float ⟨0x4004000000000000⟩)],
      .dict [("node_id", .int 2), ("event_id", .str "9"), ("hostname", .str "nine")]]),
    ("c2", .list [.dict [("node_id", .int 2), ("event_id", .str "10"), ("hostname", .str "ten")]])],
  by decide⟩

theorem getTopology_eq_firstMax_rankedSnapshot :
    EventsComparable (keyedEntries sampleRuntime rankedSnapshot.containers) ∧
    (∀ p ∈ topologyEntries rankedSnapshot.containers, nodeIdIsInt p.2) ∧
    getTopology sampleRuntime "viz" (.ok rankedSnapshot) = .ok ⟨topologyBody
      ((firstKeys ((keyedEntries sampleRuntime rankedSnapshot.containers).map Prod.fst)).filterMap
        fun k => (firstMax eventBelow (keyedEntries sampleRuntime rankedSnapshot.containers) k).map
          (referenceNode sampleRuntime "viz" k)), 200⟩ :=
  ⟨by decide, by decide,
    getTopology_eq_firstMax sampleRuntime "viz" rankedSnapshot (by decide) (by decide)⟩

example : getTopology sampleRuntime "viz" (.ok rankedSnapshot) = .ok ⟨topologyBody [
    .dict [("node_id", .int 1), ("hostname", .str "viz"), ("ip_address", .str ""),
      ("cpu_usage_pct", .int 0), ("ram_usage_pct", .int 0), ("gpu_count", .int 0),
      ("gpu_usage_pct", .int 0), ("hbm_usage_pct", .int 0)],
    .dict [("node_id", .int 2), ("hostname", .str "nine"), ("ip_address", .str ""),
      ("cpu_usage_pct", .int 0), ("ram_usage_pct", .int 0), ("gpu_count", .int 0),
      ("gpu_usage_pct", .int 0), ("hbm_usage_pct", .int 0)]], 200⟩ := rfl


/-- Two snapshots holding the same records in any order, with event ids of one kind per key and
no tie at the top of any key: both answer 200, and the two node lists are permutations of each
other. -/
theorem topology_order_independent_ranked (host : String) (A B : Snapshot)
    (he : EventsComparable (keyedEntries py A.containers))
    (hn : ∀ p ∈ topologyEntries A.containers, nodeIdIsInt p.2)
    (hperm : (topologyEntries A.containers).Perm (topologyEntries B.containers))
    (hu : UniqueTop eventBelow (keyedEntries py A.containers)) :
    ∃ nA nB, getTopology py host (.ok A) = .ok ⟨topologyBody nA, 200⟩ ∧
      getTopology py host (.ok B) = .ok ⟨topologyBody nB, 200⟩ ∧ nA.Perm nB := by
  have hK : (keyedEntries py A.containers).Perm (keyedEntries py B.containers) := hperm.map _
  have heB : EventsComparable (keyedEntries py B.containers) := fun r hr s hs =>
    he r (hK.symm.subset hr) s (hK.symm.subset hs)
  have hnB : ∀ p ∈ topologyEntries B.containers, nodeIdIsInt p.2 := fun p hp =>
    hn p (hperm.symm.subset hp)
  obtain ⟨tA, hlA, htA⟩ :=
    latestNodes_tracksBy py (keyOrder_eventBelow he) (compares_eventBelow he)
  obtain ⟨tB, hlB, htB⟩ :=
    latestNodes_tracksBy py (keyOrder_eventBelow heB) (compares_eventBelow heB)
  refine ⟨_, _, getTopology_ok_of py hlA (mapM_nodeView_tracksBy py host hn htA),
    getTopology_ok_of py hlB (mapM_nodeView_tracksBy py host hnB htB), ?_⟩
  simp only [firstMax_perm hK (keyOrder_eventBelow he) hu]
  exact (firstKeys_perm (hK.map Prod.fst)).filterMap _

/-- String event ids: node `1` reports `"9"` and then `"10"`, node `2` reports `"a"`. -/
def textSnapshot : Snapshot := ⟨[
    ("c1", .list [.dict [("node_id", .int 1), ("event_id", .str "9")]]),
    ("c2", .list [.dict [("node_id", .int 1), ("event_id", .str "10")],
      .dict [("node_id", .int 2), ("event_id", .str "a")]])], by decide⟩

theorem topology_order_independent_ranked_textSnapshot :
    EventsComparable (keyedEntries sampleRuntime textSnapshot.containers) ∧
    (∀ p ∈ topologyEntries textSnapshot.containers, nodeIdIsInt p.2) ∧
    (topologyEntries textSnapshot.containers).Perm
      (topologyEntries textSnapshot.containers.reverse) ∧
    UniqueTop eventBelow (keyedEntries sampleRuntime textSnapshot.containers) ∧
    ∃ nA nB,
      getTopology sampleRuntime "viz" (.ok textSnapshot) = .ok ⟨topologyBody nA, 200⟩ ∧
      getTopology sampleRuntime "viz" (.ok ⟨textSnapshot.containers.reverse, by decide⟩) =
        .ok ⟨topologyBody nB, 200⟩ ∧ nA.Perm nB :=
  ⟨by decide, by decide, by decide, by decide,
    topology_order_independent_ranked sampleRuntime "viz" textSnapshot
      ⟨textSnapshot.containers.reverse, by decide⟩ (by decide) (by decide) (by decide)
      (by decide)⟩

/-! ### A NaN event id pins its record -/

/-- A step on another key leaves the record of `k` alone. -/
lemma lookup_keepLatest_of_ne {nodes nodes' : NodeTable} {j k : String} {e : Entries}
    (h : keepLatest nodes j e = .ok nodes') (hkj : k ≠ j) : nodes'.lookup k = nodes.lookup k := by
  unfold keepLatest at h
  split at h
  · cases h
    exact lookup_dictSet_of_ne _ _ hkj
  · obtain ⟨b, -, rfl⟩ := map_eq_ok_iff.1 h
    split
    · exact lookup_dictSet_of_ne _ _ hkj
    · rfl

/-- A kept record whose event id is NaN stays kept: no later record is above it. -/
lemma lookup_keepLatest_nan {nodes nodes' : NodeTable} {j k : String} {e e' : Entries}
    (hnan : (eventId e).numValue? = some .nan) (hk : nodes.lookup k = some e)
    (h : keepLatest nodes j e' = .ok nodes') : nodes'.lookup k = some e := by
  by_cases hkj : k = j
  · subst hkj
    rw [keepLatest, hk] at h
    obtain ⟨b, hb, rfl⟩ := map_eq_ok_iff.1 h
    rw [pyGt_nan_right hnan hb]
    exact hk
  · rw [lookup_keepLatest_of_ne h hkj, hk]

lemma foldlM_lookup_of_not_mem {k : String} : ∀ (rs : List Keyed) {nodes nodes' : NodeTable},
    k ∉ rs.map Prod.fst → rs.foldlM absorbKeyed nodes = .ok nodes' →
      nodes'.lookup k = nodes.lookup k
  | [], _, _, _, h => by cases h; rfl
  | r :: rs, _, _, hk, h => by
    rw [List.foldlM_cons] at h
    obtain ⟨n₁, h₁, h⟩ := bind_eq_ok.1 h
    simp only [List.map_cons, List.mem_cons, not_or] at hk
    rw [foldlM_lookup_of_not_mem rs hk.2 h, lookup_keepLatest_of_ne h₁ hk.1]

lemma foldlM_lookup_nan {k : String} {e : Entries} (hnan : (eventId e).numValue? = some .nan) :
    ∀ (rs : List Keyed) {nodes nodes' : NodeTable}, nodes.lookup k = some e →
      rs.foldlM absorbKeyed nodes = .ok nodes' → nodes'.lookup k = some e
  | [], _, _, hk, h => by cases h; exact hk
  | r :: rs, _, _, hk, h => by
    rw [List.foldlM_cons] at h
    obtain ⟨n₁, h₁, h⟩ := bind_eq_ok.1 h
    exact foldlM_lookup_nan hnan rs (lookup_keepLatest_nan hnan hk h₁) h

/-- If the first record of key `k` carries a NaN event id, the loop keeps that record whenever it
answers, whatever event ids the later records of `k` carry: `>` is false against a NaN. -/
theorem latestNodes_nan_pinned {raw : List (String × Json)} {pre post : List Keyed} {k : String}
    {e : Entries} {table : NodeTable} (hsplit : keyedEntries py raw = pre ++ (k, e) :: post)
    (hk : k ∉ pre.map Prod.fst) (hnan : (eventId e).numValue? = some .nan)
    (h : latestNodes py raw = .ok table) : table.lookup k = some e := by
  rw [latestNodes_eq_foldlM, hsplit, List.foldlM_append] at h
  obtain ⟨n₁, h₁, h⟩ := bind_eq_ok.1 h
  rw [List.foldlM_cons] at h
  obtain ⟨n₂, h₂, h⟩ := bind_eq_ok.1 h
  have hn₁ : n₁.lookup k = none := foldlM_lookup_of_not_mem pre hk h₁
  have hn₂ : n₂.lookup k = some e := by
    simp only [absorbKeyed, keepLatest, hn₁, Except.ok.injEq] at h₂
    rw [← h₂, lookup_dictSet_self]
  exact foldlM_lookup_nan hnan post hn₂ h

/-- Node `1` first reports a NaN event id, then `5`. -/
def nanSnapshot : Snapshot := ⟨[("c1", .list [
    .dict [("node_id", .int 1), ("event_id", .float ⟨0x7FF8000000000000⟩),
      ("hostname", .str "a")],
    .dict [("node_id", .int 1), ("event_id", .int 5), ("hostname", .str "b")]])], by decide⟩

/-- The NaN record is the one kept, although `5` came later. -/
theorem latestNodes_nan_pinned_nanSnapshot :
    keyedEntries sampleRuntime nanSnapshot.containers =
      [] ++ ("1", [("node_id", .int 1), ("event_id", .float ⟨0x7FF8000000000000⟩),
        ("hostname", .str "a")]) ::
        [("1", [("node_id", .int 1), ("event_id", .int 5), ("hostname", .str "b")])] ∧
    "1" ∉ ([] : List Keyed).map Prod.fst ∧
    (eventId [("node_id", .int 1), ("event_id", .float ⟨0x7FF8000000000000⟩),
      ("hostname", .str "a")]).numValue? = some .nan ∧
    ∃ table, latestNodes sampleRuntime nanSnapshot.containers = .ok table ∧
      table.lookup "1" = some [("node_id", .int 1), ("event_id", .float ⟨0x7FF8000000000000⟩),
        ("hostname", .str "a")] :=
  ⟨rfl, by simp, rfl, _, rfl,
    @latestNodes_nan_pinned sampleRuntime nanSnapshot.containers [] _ _ _ _ rfl (by simp) rfl rfl⟩

end ContextVisualizer
