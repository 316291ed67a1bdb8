import ContextVisualizer.Reconcile.FirstMax

/-!
# The reconciliation loop computes the reference

`latestNodes` reads the records of `keyedEntries` one at a time (`latestNodes_eq_foldlM`). Each
step keeps the table's keys in order of first appearance whatever the comparison answers
(`keys_keepLatest`). Where `>` between the event ids of each key's records answers a strict weak
order `lt` (`Compares`, `KeyOrder`), each step also keeps every key's entry equal to the key's
first unbeaten record (`keepLatest_tracksBy`); by induction over the records so does the whole
loop (`latestNodes_tracksBy`), and the view of its table lists one node per key
(`mapM_nodeView_tracksBy`).

Int event ids are such an order, under which the first unbeaten record is the survivor
(`survivor_eq_firstMax`): on snapshots whose records carry int or no ids the loop ends on the
reference table, and the view is the reference topology (`getTopology_eq_reference`).
-/

namespace ContextVisualizer

variable (py : Runtime)

/-! ### The loop as one fold over the keyed records -/

/-- The body of the inner loop on one keyed record. -/
def absorbKeyed (nodes : NodeTable) (r : Keyed) : Except PyError NodeTable :=
  keepLatest nodes r.1 r.2

lemma foldlM_absorbEntry (cid : String) (items : List Json) (nodes : NodeTable) :
    items.foldlM (absorbEntry py cid) nodes =
      ((reportEntries (.list items)).map fun e => (nodeKey py cid e, e)).foldlM absorbKeyed
        nodes := by
  induction items generalizing nodes with
  | nil => rfl
  | cons item items ih =>
    cases item <;> simp_all [reportEntries, Json.dict?, absorbEntry, absorbKeyed]

theorem latestNodes_eq_foldlM (raw : List (String × Json)) :
    latestNodes py raw = (keyedEntries py raw).foldlM absorbKeyed [] := by
  suffices ∀ nodes : NodeTable, raw.foldlM (absorbReport py) nodes =
      (keyedEntries py raw).foldlM absorbKeyed nodes from this []
  induction raw with
  | nil => exact fun _ => rfl
  | cons c raw ih =>
    intro nodes
    obtain ⟨cid, report⟩ := c
    have hsplit : keyedEntries py ((cid, report) :: raw) =
        (reportEntries report).map (fun e => (nodeKey py cid e, e)) ++ keyedEntries py raw := by
      simp [keyedEntries, topologyEntries]
    rw [List.foldlM_cons, hsplit, List.foldlM_append]
    cases report <;> simp [absorbReport, reportEntries, ih, foldlM_absorbEntry]

/-! ### One step of the loop -/

/-- Whatever the comparison answers, a step leaves the keys in order of first appearance. -/
lemma keys_keepLatest {nodes nodes' : NodeTable} {ks : List String} {k : String}
    {e : Entries} (hk : nodes.map Prod.fst = firstKeys ks) (h : keepLatest nodes k e = .ok nodes') :
    nodes'.map Prod.fst = firstKeys (ks ++ [k]) := by
  rw [firstKeys_append_singleton, ← hk]
  unfold keepLatest at h
  split at h
  · next hl =>
    cases h
    have hnot := lookup_eq_none_iff.1 hl
    rw [keys_dictSet_of_not_mem _ hnot, addKey, if_neg hnot]
  · next prev hl =>
    have hmem := mem_keys_of_lookup_eq_some hl
    obtain ⟨b, -, rfl⟩ := map_eq_ok_iff.1 h
    rw [addKey, if_pos hmem]
    split
    · exact keys_dictSet_of_mem _ hmem
    · rfl

section Order

variable (lt : Entries → Entries → Bool)


/-- `>` between the event ids of two records of one key of `rs` does not raise, and answers
`lt`. -/
def Compares (rs : List Keyed) : Prop :=
  ∀ r ∈ rs, ∀ s ∈ rs, r.1 = s.1 → pyGt (eventId s.2) (eventId r.2) = .ok (lt r.2 s.2)

/-- The invariant of the loop after the records `P`: the table holds the keys of `P` in order of
first appearance, each with its first unbeaten record. -/
structure TracksBy (nodes : NodeTable) (P : List Keyed) : Prop where
  keys : nodes.map Prod.fst = firstKeys (P.map Prod.fst)
  lookup : ∀ k, nodes.lookup k = firstMax lt P k


variable {lt}

lemma Compares.mono {rs rs' : List Keyed} (h : Compares lt rs) (hsub : rs' ⊆ rs) :
    Compares lt rs' :=
  fun r hr s hs => h r (hsub hr) s (hsub hs)


/-- One step keeps the invariant. -/
theorem keepLatest_tracksBy {nodes : NodeTable} {P : List Keyed} {k : String} {e : Entries}
    (ht : TracksBy lt nodes P) (ho : KeyOrder lt (P ++ [(k, e)]))
    (hc : Compares lt (P ++ [(k, e)])) :
    ∃ nodes', keepLatest nodes k e = .ok nodes' ∧ TracksBy lt nodes' (P ++ [(k, e)]) := by
  have he : (k, e) ∈ P ++ [(k, e)] := List.mem_append_right _ (List.mem_singleton_self _)
  have hkeys : ∀ {nodes'}, keepLatest nodes k e = .ok nodes' →
      nodes'.map Prod.fst = firstKeys ((P ++ [(k, e)]).map Prod.fst) := fun h => by
    rw [List.map_append]
    exact keys_keepLatest ht.keys h
  cases hl : nodes.lookup k with
  | none =>
    have hnot : k ∉ P.map Prod.fst := by
      rw [← mem_firstKeys, ← ht.keys]
      exact lookup_eq_none_iff.1 hl
    have hstep : keepLatest nodes k e = .ok (dictSet k e nodes) := by simp [keepLatest, hl]
    refine ⟨_, hstep, hkeys hstep, fun j => ?_⟩
    by_cases hj : j = k
    · subst hj
      simp [firstMax_append_new hnot (ho.irrefl _ he)]
    · rw [lookup_dictSet_of_ne _ _ hj, ht.lookup, firstMax_append_of_ne _ (Ne.symm hj)]
  | some prev =>
    have hs : firstMax lt P k = some prev := (ht.lookup k).symm.trans hl
    have hp : (k, prev) ∈ P ++ [(k, e)] := List.mem_append_left _ (firstMax_spec hs).1
    have hstep : keepLatest nodes k e =
        .ok (if lt prev e then dictSet k e nodes else nodes) := by
      simp [keepLatest, hl, hc (k, prev) hp (k, e) he rfl, Except.map]
    refine ⟨_, hstep, hkeys hstep, fun j => ?_⟩
    by_cases hj : j = k
    · subst hj
      rw [firstMax_append_of_some ho hs]
      split <;> simp [hl]
    · rw [firstMax_append_of_ne _ (Ne.symm hj), ← ht.lookup]
      split
      · exact lookup_dictSet_of_ne _ _ hj
      · rfl

/-- The whole run keeps the invariant. -/
theorem foldlM_tracksBy : ∀ (rs : List Keyed) {nodes : NodeTable} {P : List Keyed},
    TracksBy lt nodes P → KeyOrder lt (P ++ rs) → Compares lt (P ++ rs) →
      ∃ nodes', rs.foldlM absorbKeyed nodes = .ok nodes' ∧ TracksBy lt nodes' (P ++ rs)
  | [], _, _, ht, _, _ => ⟨_, rfl, by simpa using ht⟩
  | (k, e) :: rs, _, P, ht, ho, hc => by
    rw [List.append_cons] at ho hc ⊢
    have hsub : P ++ [(k, e)] ⊆ P ++ [(k, e)] ++ rs := List.subset_append_left _ _
    obtain ⟨n₁, h₁, ht₁⟩ := keepLatest_tracksBy ht (ho.mono hsub) (hc.mono hsub)
    obtain ⟨n₂, h₂, ht₂⟩ := foldlM_tracksBy rs ht₁ ho hc
    exact ⟨n₂, by simp [absorbKeyed, h₁, h₂], ht₂⟩

theorem latestNodes_tracksBy {raw : List (String × Json)} (ho : KeyOrder lt (keyedEntries py raw))
    (hc : Compares lt (keyedEntries py raw)) :
    ∃ nodes, latestNodes py raw = .ok nodes ∧ TracksBy lt nodes (keyedEntries py raw) := by
  obtain ⟨nodes, hrun, ht⟩ :=
    foldlM_tracksBy _ (show TracksBy lt [] [] from ⟨rfl, fun _ => rfl⟩) (by simpa using ho)
      (by simpa using hc)
  exact ⟨nodes, (latestNodes_eq_foldlM py raw).trans hrun, by simpa using ht⟩

end Order

/-! ### The view of the table -/

/-- A record with an int or no `node_id` is shown with `int()` of its key as node id. -/
lemma nodeView_keyed (host cid : String) {e : Entries} (he : nodeIdIsInt e) :
    nodeView py host (nodeKey py cid e, e) = .ok (referenceNode py host (nodeKey py cid e) e) := by
  unfold nodeIdIsInt at he
  unfold nodeView nodeIdOf referenceNode nodeKey
  split at he
  · next hl =>
    simp only [hl, toInt]
    cases intOfStr py cid <;> rfl
  · next hl =>
    simp only [hl, toInt]
    cases intOfStr py cid <;> rfl
  · next n hl => simp [hl, intOfStr_toString, Except.map]
  · cases he

lemma map_eq_filterMap_lookup {α β : Type} (g : String → α → β) :
    ∀ {d : List (String × α)}, (d.map Prod.fst).Nodup →
      d.map (fun p => g p.1 p.2) = (d.map Prod.fst).filterMap fun k => (d.lookup k).map (g k)
  | [], _ => rfl
  | (k, v) :: d, hn => by
    rw [List.map_cons, List.nodup_cons] at hn
    have htail : (d.map Prod.fst).filterMap (fun j => (((k, v) :: d).lookup j).map (g j)) =
        (d.map Prod.fst).filterMap fun j => (d.lookup j).map (g j) :=
      List.filterMap_congr fun j hj => by
        rw [lookup_cons_eq, if_neg (fun e : j = k => hn.1 (e ▸ hj))]
    rw [List.map_cons, List.map_cons, List.filterMap_cons, htail, lookup_cons_eq, if_pos rfl,
      ← map_eq_filterMap_lookup g hn.2]
    rfl

section View

variable {lt : Entries → Entries → Bool}

/-- The view of a table that keeps first unbeaten records, with int or no node ids. -/
lemma mapM_nodeView_tracksBy (host : String) {raw : List (String × Json)} {nodes : NodeTable}
    (hn : ∀ p ∈ topologyEntries raw, nodeIdIsInt p.2)
    (ht : TracksBy lt nodes (keyedEntries py raw)) :
    nodes.mapM (nodeView py host) = .ok ((firstKeys ((keyedEntries py raw).map Prod.fst)).filterMap
      fun k => (firstMax lt (keyedEntries py raw) k).map (referenceNode py host k)) := by
  have hnodup : (nodes.map Prod.fst).Nodup := ht.keys ▸ nodup_firstKeys _
  rw [@mapM_eq_ok _ _ _ _ (fun p : String × Entries => referenceNode py host p.1 p.2) _,
    map_eq_filterMap_lookup _ hnodup, ht.keys]
  · simp only [ht.lookup]
  · rintro ⟨k, e⟩ hx
    have hs : firstMax lt (keyedEntries py raw) k = some e :=
      (ht.lookup k).symm.trans (lookup_of_mem_nodup hnodup hx)
    obtain ⟨p, hp, hpe⟩ := List.mem_map.1 (firstMax_spec hs).1
    simp only [Prod.mk.injEq] at hpe
    obtain ⟨rfl, rfl⟩ := hpe
    exact nodeView_keyed py host p.1 (hn p hp)

end View

lemma getTopology_ok_of {host : String} {snap : Snapshot} {nodes : NodeTable} {ns : List Json}
    (hl : latestNodes py snap.containers = .ok nodes)
    (hv : nodes.mapM (nodeView py host) = .ok ns) :
    getTopology py host (.ok snap) = .ok ⟨topologyBody ns, 200⟩ := by
  simp only [getTopology, hl, ok_bind, hv]
  rfl

/-! ### Int event ids -/

lemma eventId_of_isInt {e : Entries} (h : eventIdIsInt e) : eventId e = .int (eventNum e) := by
  unfold eventIdIsInt at h
  unfold eventId eventNum
  cases hl : e.lookup "event_id" with
  | none => rfl
  | some v => cases v <;> simp_all

/-- With int event ids `>` answers the int order. -/
lemma compares_intBelow {rs : List Keyed} (h : ∀ r ∈ rs, eventIdIsInt r.2) :
    Compares intBelow rs := fun r hr s hs _ => by
  rw [eventId_of_isInt (h s hs), eventId_of_isInt (h r hr), pyGt_int]
  rfl

/-- On a snapshot whose records carry int or no ids the loop answers, with each key's
survivor. -/
lemma latestNodes_tracks {raw : List (String × Json)} (h : ReconcileReady raw) :
    ∃ nodes, latestNodes py raw = .ok nodes ∧ TracksBy intBelow nodes (keyedEntries py raw) :=
  latestNodes_tracksBy py (keyOrder_intBelow _) (compares_intBelow fun r hr => by
    obtain ⟨p, hp, rfl⟩ := List.mem_map.1 hr
    exact (h p hp).2)

/-- The view of that table is the reference topology. -/
lemma mapM_nodeView (host : String) {raw : List (String × Json)} {nodes : NodeTable}
    (h : ReconcileReady raw) (ht : TracksBy intBelow nodes (keyedEntries py raw)) :
    nodes.mapM (nodeView py host) = .ok (referenceNodes py host (keyedEntries py raw)) := by
  rw [mapM_nodeView_tracksBy py host (fun p hp => (h p hp).1) ht, referenceNodes]
  simp only [survivor_eq_firstMax]

/-! ### `get_topology` against the reference -/

theorem getTopology_eq_reference (host : String) (snap : Snapshot)
    (h : ReconcileReady snap.containers) :
    getTopology py host (.ok snap) =
      .ok ⟨topologyBody (referenceNodes py host (keyedEntries py snap.containers)), 200⟩ := by
  obtain ⟨nodes, hl, ht⟩ := latestNodes_tracks py h
  exact getTopology_ok_of py hl (mapM_nodeView py host h ht)

/-- Node `1` is reported by two containers; the report with the larger `event_id` is the one
shown. -/
def specSnapshot : Snapshot := ⟨[
    ("c1", .list [.dict [("node_id", .int 1), ("event_id", .int 5), ("cpu_usage_pct", .int 10)]]),
    ("c2", .list [.dict [("node_id", .int 1), ("event_id", .int 7), ("cpu_usage_pct", .int 20)]])],
  by decide⟩

theorem getTopology_specSnapshot : ReconcileReady specSnapshot.containers ∧
    getTopology sampleRuntime "viz" (.ok specSnapshot) = .ok ⟨topologyBody
      (referenceNodes sampleRuntime "viz" (keyedEntries sampleRuntime specSnapshot.containers)),
      200⟩ :=
  ⟨by decide, getTopology_eq_reference sampleRuntime "viz" specSnapshot (by decide)⟩

example : getTopology sampleRuntime "viz" (.ok specSnapshot) = .ok ⟨topologyBody [.dict [
    ("node_id", .int 1), ("hostname", .str "viz"), ("ip_address", .str ""),
    ("cpu_usage_pct", .int 20), ("ram_usage_pct", .int 0), ("gpu_count", .int 0),
    ("gpu_usage_pct", .int 0), ("hbm_usage_pct", .int 0)]], 200⟩ := rfl

/-! ### Where a node's host name comes from -/

lemma forall₂_filterMap {α β : Type} {R : α → β → Prop} {f : α → Option β} :
    ∀ {l : List α}, (∀ a ∈ l, ∃ b, f a = some b ∧ R a b) →
      List.Forall₂ R l (l.filterMap f)
  | [], _ => .nil
  | a :: l, h => by
    obtain ⟨b, hb, hr⟩ := h a (List.mem_cons_self a l)
    rw [List.filterMap_cons, hb]
    exact .cons hr (forall₂_filterMap fun a' ha' => h a' (List.mem_cons_of_mem a ha'))

/-- The node of each key shows the host name of the key's survivor, or the local host name when
the survivor has none; the other records of the key play no part. -/
theorem getTopology_hostname (host : String) (snap : Snapshot)
    (h : ReconcileReady snap.containers) :
    ∃ nodes, getTopology py host (.ok snap) = .ok ⟨topologyBody nodes, 200⟩ ∧
      List.Forall₂ (fun k node => ∃ e, survivor (keyedEntries py snap.containers) k = some e ∧
          node.get "hostname" .null = .ok (hostnameOr host e))
        (firstKeys ((keyedEntries py snap.containers).map Prod.fst)) nodes := by
  obtain ⟨nodes, hl, ht⟩ := latestNodes_tracks py h
  refine ⟨_, getTopology_ok_of py hl (mapM_nodeView py host h ht),
    forall₂_filterMap fun k hk => ?_⟩
  obtain ⟨e, he⟩ := survivor_isSome_of_mem (mem_firstKeys.1 hk)
  exact ⟨referenceNode py host k e, by rw [he]; rfl, e, he, rfl⟩

/-- Node `1` is reported twice, and the later report, which wins, names its host; node `2`
names an empty one. -/
def namedSnapshot : Snapshot := ⟨[("c1", .list [
    .dict [("node_id", .int 1), ("event_id", .int 1)],
    .dict [("node_id", .int 1), ("event_id", .int 2), ("hostname", .str "node-a")],
    .dict [("node_id", .int 2), ("hostname", .str "")]])], by decide⟩

theorem getTopology_hostname_namedSnapshot : ReconcileReady namedSnapshot.containers ∧
    ∃ nodes,
      getTopology sampleRuntime "viz" (.ok namedSnapshot) = .ok ⟨topologyBody nodes, 200⟩ ∧
      List.Forall₂ (fun k node =>
          ∃ e, survivor (keyedEntries sampleRuntime namedSnapshot.containers) k = some e ∧
            node.get "hostname" .null = .ok (hostnameOr "viz" e))
        (firstKeys ((keyedEntries sampleRuntime namedSnapshot.containers).map Prod.fst)) nodes :=
  ⟨by decide, getTopology_hostname sampleRuntime "viz" namedSnapshot (by decide)⟩

example : getTopology sampleRuntime "viz" (.ok namedSnapshot) = .ok ⟨topologyBody [
    .dict [("node_id", .int 1), ("hostname", .str "node-a"), ("ip_address", .str ""),
      ("cpu_usage_pct", .int 0), ("ram_usage_pct", .int 0), ("gpu_count", .int 0),
      ("gpu_usage_pct", .int 0), ("hbm_usage_pct", .int 0)],
    .dict [("node_id", .int 2), ("hostname", .str "viz"), ("ip_address", .str ""),
      ("cpu_usage_pct", .int 0), ("ram_usage_pct", .int 0), ("gpu_count", .int 0),
      ("gpu_usage_pct", .int 0), ("hbm_usage_pct", .int 0)]], 200⟩ := rfl

/-- Node `1` is reported twice; only the older report, which loses on `event_id`, names its
host. -/
def hostnameSnapshot : Snapshot := ⟨[("c1", .list [
    .dict [("node_id", .int 1), ("event_id", .int 1), ("hostname", .str "node-a")],
    .dict [("node_id", .int 1), ("event_id", .int 2)]])], by decide⟩

/-- The node is shown with the visualizer's own host name, although a report of it carried
`node-a`. -/
theorem getTopology_hostnameSnapshot :
    getTopology sampleRuntime "viz" (.ok hostnameSnapshot) = .ok ⟨topologyBody [.dict [
      ("node_id", .int 1), ("hostname", .str "viz"), ("ip_address", .str ""),
      ("cpu_usage_pct", .int 0), ("ram_usage_pct", .int 0), ("gpu_count", .int 0),
      ("gpu_usage_pct", .int 0), ("hbm_usage_pct", .int 0)]], 200⟩ := rfl

end ContextVisualizer
