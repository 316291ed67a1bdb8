import ContextVisualizer.Reconcile.Totality
import ContextVisualizer.Aggregate.Summary

/-!
# What an answer of `get_topology` is made of

An answer is the loop's table seen node by node (`getTopology_eq_ok_iff`), and the table holds
only records the loop has read. So when every record carries an int `node_id`, the nodes listed
have pairwise distinct node ids (`getTopology_node_ids_nodup`). A missing `node_id` breaks this,
since containers whose ids are not numerals are all shown as node `0`.

Over the union of two snapshots that report no node in common, `get_topology` answers exactly
when it answers on each of them, and then lists the first snapshot's nodes followed by the
second's, each shown as its own snapshot shows it (`getTopology_union`). Behind this is a frame
property of the loop: a record whose key a prefix of the table lacks leaves that prefix alone
(`foldlM_absorbKeyed_append_left`).
-/

namespace ContextVisualizer

variable (py : Runtime)

/-! ### The answer and the table -/

lemma topologyBody_inj {ns ns' : List Json} :
    topologyBody ns = topologyBody ns' ↔ ns = ns' := by
  simp [topologyBody]

/-- What an answer of `get_topology` is made of: the loop's table, and its nodes. -/
theorem getTopology_eq_ok_iff {host : String} {snap : Snapshot} {r : Reply} :
    getTopology py host (.ok snap) = .ok r ↔ ∃ t ns, latestNodes py snap.containers = .ok t ∧
      t.mapM (nodeView py host) = .ok ns ∧ r = ⟨topologyBody ns, 200⟩ := by
  simp only [getTopology, bind_eq_ok, pure_eq_ok, Except.ok.injEq]
  constructor
  · rintro ⟨t, ht, ns, hns, rfl⟩
    exact ⟨t, ns, ht, hns, rfl⟩
  · rintro ⟨t, ns, ht, hns, rfl⟩
    exact ⟨t, ht, ns, hns, rfl⟩

/-- The record carries an int `node_id`. -/
def hasIntNodeId (e : Entries) : Bool :=
  match e.lookup "node_id" with
  | some (.int _) => true
  | _ => false

lemma exists_of_hasIntNodeId {e : Entries} (h : hasIntNodeId e) :
    ∃ n : Int, e.lookup "node_id" = some (.int n) := by
  unfold hasIntNodeId at h
  split at h
  · exact ⟨_, by assumption⟩
  · cases h

/-- Whenever the loop answers, its table holds only records it has read. -/
lemma mem_keyedEntries_of_latestNodes {raw : List (String × Json)} {t : NodeTable}
    (hl : latestNodes py raw = .ok t) {p : String × Entries} (hp : p ∈ t) :
    p ∈ keyedEntries py raw := by
  rw [latestNodes_eq_foldlM] at hl
  simpa using foldlM_absorbKeyed_mem _ hl p hp

/-- When every record carries an int `node_id`, the nodes `get_topology` lists have pairwise
distinct node ids, whenever it answers. -/
theorem getTopology_node_ids_nodup {host : String} {snap : Snapshot} {r : Reply}
    (hn : ∀ p ∈ topologyEntries snap.containers, hasIntNodeId p.2)
    (h : getTopology py host (.ok snap) = .ok r) :
    ∃ nodes, r = ⟨topologyBody nodes, 200⟩ ∧
      (nodes.map fun node => node.get "node_id" .null).Nodup := by
  obtain ⟨t, ns, hl, hv, rfl⟩ := (getTopology_eq_ok_iff py).1 h
  refine ⟨ns, rfl, ?_⟩
  -- every kept record is a record read, keyed by `str(node_id)`
  have hread : ∀ p ∈ t, ∃ cid n, p = (nodeKey py cid p.2, p.2) ∧
      p.2.lookup "node_id" = some (.int n) := fun p hp => by
    obtain ⟨q, hq, rfl⟩ := List.mem_map.1 (mem_keyedEntries_of_latestNodes py hl hp)
    obtain ⟨n, hqn⟩ := exists_of_hasIntNodeId (hn q hq)
    exact ⟨q.1, n, rfl, hqn⟩
  have hns : ns = t.map fun p => referenceNode py host p.1 p.2 := by
    refine Except.ok.inj (hv.symm.trans (mapM_eq_ok fun p hp => ?_))
    obtain ⟨cid, n, hp, hpn⟩ := hread p hp
    rw [hp]
    exact nodeView_keyed py host cid (by simp [nodeIdIsInt, hpn])
  -- the node of key `str(n)` shows `n`
  have hid : ∀ p ∈ t, ∃ n : Int, p.1 = toString n ∧
      (referenceNode py host p.1 p.2).get "node_id" .null = .ok (.int n) := fun p hp => by
    obtain ⟨cid, n, hpe, hpn⟩ := hread p hp
    have hk : p.1 = toString n := by
      rw [hpe]
      simp [nodeKey, hpn]
    exact ⟨n, hk, by simp [referenceNode, hk, intOfStr_toString, lookup_cons_eq]⟩
  have hkeys : (t.map Prod.fst).Nodup := (latestNodes_keys py hl).symm ▸ nodup_firstKeys _
  subst hns
  rw [List.map_map]
  refine (hkeys.of_map _).map_on fun p hp q hq hpq => List.inj_on_of_nodup_map hkeys hp hq ?_
  obtain ⟨n, hpn, hp'⟩ := hid p hp
  obtain ⟨m, hqm, hq'⟩ := hid q hq
  simp only [Function.comp, hp', hq', Except.ok.injEq, Json.int.injEq] at hpq
  rw [hpn, hqm, hpq]

/-- Node `1` reported twice, node `2` once. -/
def twoNodeSnapshot : Snapshot := ⟨[
    ("c1", .list [.dict [("node_id", .int 1), ("event_id", .int 3)], .dict [("node_id", .int 2)]]),
    ("c2", .list [.dict [("node_id", .int 1), ("event_id", .int 5)]])], by decide⟩

theorem getTopology_node_ids_nodup_twoNodeSnapshot :
    (∀ p ∈ topologyEntries twoNodeSnapshot.containers, hasIntNodeId p.2) ∧
    ∃ r, getTopology sampleRuntime "viz" (.ok twoNodeSnapshot) = .ok r ∧
      ∃ nodes, r = ⟨topologyBody nodes, 200⟩ ∧
        (nodes.map fun node => node.get "node_id" .null).Nodup :=
  ⟨by decide, _, rfl,
    @getTopology_node_ids_nodup sampleRuntime "viz" twoNodeSnapshot _ (by decide) rfl⟩

/-- Two containers whose reports carry no `node_id`: both are shown as node `0`. -/
example : (getTopology sampleRuntime "viz"
    (.ok ⟨[("a", .list [.dict []]), ("b", .list [.dict []])], by decide⟩)).map
      (fun r => r.body) = .ok (topologyBody [
      .dict (("node_id", .int 0) :: nodeFields "viz" []),
      .dict (("node_id", .int 0) :: nodeFields "viz" [])]) := rfl

/-! ### A prefix of other keys is left alone -/

lemma lookup_append_of_not_mem {α : Type} {k : String} :
    ∀ {d : List (String × α)} (n : List (String × α)), k ∉ d.map Prod.fst →
      (d ++ n).lookup k = n.lookup k
  | [], _, _ => rfl
  | (_, _) :: _, n, h => by
    simp only [List.map_cons, List.mem_cons, not_or] at h
    rw [List.cons_append, lookup_cons_eq, if_neg h.1, lookup_append_of_not_mem n h.2]

lemma dictSet_append_of_not_mem {α : Type} {k : String} (v : α) :
    ∀ {d : List (String × α)} (n : List (String × α)), k ∉ d.map Prod.fst →
      dictSet k v (d ++ n) = d ++ dictSet k v n
  | [], _, _ => rfl
  | (_, _) :: _, n, h => by
    simp only [List.map_cons, List.mem_cons, not_or] at h
    rw [List.cons_append, dictSet, if_neg (Ne.symm h.1), dictSet_append_of_not_mem v n h.2,
      List.cons_append]

/-- A step on a key that a prefix of the table lacks happens behind that prefix. -/
lemma keepLatest_append_left {d n : NodeTable} {k : String} (e : Entries)
    (h : k ∉ d.map Prod.fst) : keepLatest (d ++ n) k e = (d ++ ·) <$> keepLatest n k e := by
  unfold keepLatest
  rw [lookup_append_of_not_mem n h, dictSet_append_of_not_mem e n h]
  split
  · rfl
  · cases pyGt (eventId e) (eventId _) with
    | error => rfl
    | ok b => cases b <;> rfl

theorem foldlM_absorbKeyed_append_left {d : NodeTable} : ∀ (rs : List Keyed) (n : NodeTable),
    (∀ r ∈ rs, r.1 ∉ d.map Prod.fst) →
      rs.foldlM absorbKeyed (d ++ n) = (d ++ ·) <$> rs.foldlM absorbKeyed n
  | [], _, _ => rfl
  | r :: rs, n, h => by
    simp only [List.foldlM_cons, absorbKeyed]
    rw [keepLatest_append_left _ (h r (.head _))]
    cases keepLatest n r.1 r.2 with
    | error => rfl
    | ok n₁ => exact foldlM_absorbKeyed_append_left rs n₁ fun s hs => h s (.tail _ hs)

/-! ### Two snapshots -/

lemma keyedEntries_append (raw raw' : List (String × Json)) :
    keyedEntries py (raw ++ raw') = keyedEntries py raw ++ keyedEntries py raw' := by
  simp [keyedEntries, topologyEntries]

/-- The loop over two snapshots with no key in common: the first's table, then the second's. -/
theorem latestNodes_append {raw raw' : List (String × Json)}
    (hk : ∀ k ∈ (keyedEntries py raw).map Prod.fst, k ∉ (keyedEntries py raw').map Prod.fst) :
    latestNodes py (raw ++ raw') =
      latestNodes py raw >>= fun t => (t ++ ·) <$> latestNodes py raw' := by
  rw [latestNodes_eq_foldlM, keyedEntries_append, List.foldlM_append, latestNodes_eq_foldlM,
    latestNodes_eq_foldlM]
  cases ht : (keyedEntries py raw).foldlM absorbKeyed [] with
  | error => rfl
  | ok t =>
    have hkeys := foldlM_absorbKeyed_keys _
      (show ([] : NodeTable).map Prod.fst = firstKeys [] from rfl) ht
    have hd : ∀ r ∈ keyedEntries py raw', r.1 ∉ t.map Prod.fst := fun r hr hrt => by
      rw [hkeys, List.nil_append, mem_firstKeys] at hrt
      exact hk r.1 hrt (List.mem_map_of_mem _ hr)
    simpa using foldlM_absorbKeyed_append_left (keyedEntries py raw') [] hd

/-- Over two snapshots with no container and no node in common, `get_topology` answers exactly
when it answers on each, and then lists the first's nodes followed by the second's. -/
theorem getTopology_union (host : String) (A B : Snapshot)
    (hd : ∀ c ∈ A.containers.map Prod.fst, c ∉ B.containers.map Prod.fst)
    (hk : ∀ k ∈ (keyedEntries py A.containers).map Prod.fst,
      k ∉ (keyedEntries py B.containers).map Prod.fst) (r : Reply) :
    getTopology py host (.ok (A.union B hd)) = .ok r ↔
      ∃ nsA nsB, getTopology py host (.ok A) = .ok ⟨topologyBody nsA, 200⟩ ∧
        getTopology py host (.ok B) = .ok ⟨topologyBody nsB, 200⟩ ∧
        r = ⟨topologyBody (nsA ++ nsB), 200⟩ := by
  simp only [getTopology_eq_ok_iff, Snapshot.union, latestNodes_append py hk, bind_eq_ok,
    Reply.mk.injEq, topologyBody_inj, and_true]
  constructor
  · rintro ⟨t, ns, ⟨tA, hA, hAB⟩, hv, rfl⟩
    obtain ⟨tB, hB, rfl⟩ := map_eq_ok_iff.1 hAB
    rw [List.mapM_append] at hv
    obtain ⟨nsA, hvA, hv⟩ := bind_eq_ok.1 hv
    obtain ⟨nsB, hvB, hv⟩ := bind_eq_ok.1 hv
    cases hv
    exact ⟨nsA, nsB, ⟨tA, nsA, hA, hvA, rfl⟩, ⟨tB, nsB, hB, hvB, rfl⟩, rfl⟩
  · rintro ⟨nsA, nsB, ⟨tA, _, hA, hvA, rfl⟩, ⟨tB, _, hB, hvB, rfl⟩, rfl⟩
    refine ⟨tA ++ tB, nsA ++ nsB, ⟨tA, hA, ?_⟩, ?_, rfl⟩
    · rw [hB]
      rfl
    · rw [List.mapM_append, hvA, hvB]
      rfl

/-- Node `2`, reported from a third container. -/
def nodeTwoSnapshot : Snapshot :=
  ⟨[("c3", .list [.dict [("node_id", .int 2), ("event_id", .int 4)]])], by decide⟩

theorem getTopology_union_specSnapshot :
    ∃ hd, (∀ k ∈ (keyedEntries sampleRuntime specSnapshot.containers).map Prod.fst,
      k ∉ (keyedEntries sampleRuntime nodeTwoSnapshot.containers).map Prod.fst) ∧
    ∃ r, getTopology sampleRuntime "viz" (.ok (specSnapshot.union nodeTwoSnapshot hd)) = .ok r ∧
      (getTopology sampleRuntime "viz" (.ok (specSnapshot.union nodeTwoSnapshot hd)) = .ok r ↔
        ∃ nsA nsB,
          getTopology sampleRuntime "viz" (.ok specSnapshot) = .ok ⟨topologyBody nsA, 200⟩ ∧
          getTopology sampleRuntime "viz" (.ok nodeTwoSnapshot) =
            .ok ⟨topologyBody nsB, 200⟩ ∧
          r = ⟨topologyBody (nsA ++ nsB), 200⟩) :=
  have hd : ∀ c ∈ specSnapshot.containers.map Prod.fst,
      c ∉ nodeTwoSnapshot.containers.map Prod.fst := by decide
  ⟨hd, by decide, _, rfl,
    getTopology_union sampleRuntime "viz" specSnapshot nodeTwoSnapshot hd (by decide) _⟩

end ContextVisualizer
