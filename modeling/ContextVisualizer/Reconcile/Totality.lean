import ContextVisualizer.Reconcile.Refinement

/-!
# When `get_topology` answers

On arbitrary JSON the view can raise at two places: the `>` between the `event_id`s of two
records of one key (line 36), and `int(node_id)` on a kept entry (line 47). Python answers `>`
between any two numbers, NaN included, and between any two strings. So where the event ids of
each key's records are all numbers or all strings (`SameKindEvents`) and every `node_id` is one
`int()` accepts, the view answers 200 with one node per distinct identity key
(`getTopology_ok_of_sameKind`). The identity key of a record is `str(node_id)` whenever
`node_id` is present and not `None`, whatever its type; the container id stands in only for a
missing or `None` node id.

Two invariants of the loop hold on any input: its table holds the keys read, in order of first
appearance (`foldlM_absorbKeyed_keys`), and only records it has read (`foldlM_absorbKeyed_mem`).
By the second, every comparison a step makes is between two records of one key, which is what
the condition on event ids covers (`keepLatest_ok`).
-/

namespace ContextVisualizer

variable (py : Runtime)

/-! ### Event ids `>` answers on -/

/-- What `>` compares an event id as: a number (an int, a bool or a float, NaN included) or a
string. -/
inductive EventKind where
  | number
  | text
  deriving DecidableEq

/-- The kind of an event id; `None`, a list and a dict have none. -/
def eventKind (v : Json) : Option EventKind :=
  match v with
  | .str _ => some .text
  | v => if v.numValue?.isSome then some .number else none

/-- The event ids of the records of each key have a kind, and one kind per key. -/
def SameKindEvents (rs : List Keyed) : Prop :=
  ∀ r ∈ rs, ∀ s ∈ rs, r.1 = s.1 →
    (eventKind (eventId r.2)).isSome ∧ eventKind (eventId r.2) = eventKind (eventId s.2)

instance (rs : List Keyed) : Decidable (SameKindEvents rs) :=
  inferInstanceAs (Decidable (∀ r ∈ rs, ∀ s ∈ rs, _))

/-- `>` between the event ids of any two records of one key of `rs` answers. -/
def GtAnswers (rs : List Keyed) : Prop :=
  ∀ r ∈ rs, ∀ s ∈ rs, r.1 = s.1 → ∃ b, pyGt (eventId s.2) (eventId r.2) = .ok b

lemma GtAnswers.mono {rs rs' : List Keyed} (h : GtAnswers rs) (hsub : rs' ⊆ rs) :
    GtAnswers rs' :=
  fun r hr s hs => h r (hsub hr) s (hsub hs)

lemma numValue_of_eventKind {v : Json} (h : eventKind v = some .number) :
    ∃ x, v.numValue? = some x := by
  cases v <;> simp_all [eventKind, Option.isSome_iff_exists]

lemma eq_str_of_eventKind {v : Json} (h : eventKind v = some .text) : ∃ s, v = .str s := by
  cases v <;> simp_all [eventKind]

/-- Two event ids of one kind never make `>` raise. -/
lemma pyGt_ok_of_eventKind {a b : Json} {κ : EventKind} (ha : eventKind a = some κ)
    (hb : eventKind b = some κ) : ∃ c, pyGt a b = .ok c := by
  cases κ with
  | number =>
    obtain ⟨x, hx⟩ := numValue_of_eventKind ha
    obtain ⟨y, hy⟩ := numValue_of_eventKind hb
    exact ⟨_, pyGt_of_numValue hx hy⟩
  | text =>
    obtain ⟨s, rfl⟩ := eq_str_of_eventKind ha
    obtain ⟨t, rfl⟩ := eq_str_of_eventKind hb
    exact ⟨_, rfl⟩

lemma gtAnswers_of_sameKind {rs : List Keyed} (h : SameKindEvents rs) : GtAnswers rs :=
  fun r hr s hs hrs => by
    obtain ⟨κ, hκ⟩ := Option.isSome_iff_exists.1 (h r hr s hs hrs).1
    exact pyGt_ok_of_eventKind ((h r hr s hs hrs).2 ▸ hκ) hκ

/-- `node_id` is absent, `None`, or a value `int()` accepts. -/
def nodeIdConverts (e : Entries) : Bool :=
  match e.lookup "node_id" with
  | none | some .null => true
  | some v => (toInt py v).isOk

/-! ### Invariants of the loop on any input -/

lemma mem_keepLatest {nodes nodes' : NodeTable} {k : String} {e : Entries}
    {p : String × Entries} (h : keepLatest nodes k e = .ok nodes') (hp : p ∈ nodes') :
    p ∈ nodes ∨ p = (k, e) := by
  unfold keepLatest at h
  split at h
  · cases h
    exact mem_dictSet hp
  · obtain ⟨b, -, rfl⟩ := map_eq_ok_iff.1 h
    split at hp
    · exact mem_dictSet hp
    · exact .inl hp

/-- On any input, a run of the loop that does not raise keeps only records it has read. -/
theorem foldlM_absorbKeyed_mem : ∀ (rs : List Keyed) {nodes nodes' : NodeTable},
    rs.foldlM absorbKeyed nodes = .ok nodes' → ∀ p ∈ nodes', p ∈ nodes ∨ p ∈ rs
  | [], _, _, h => by
    cases h
    exact fun _ hp => .inl hp
  | r :: rs, _, _, h => fun p hp => by
    rw [List.foldlM_cons] at h
    obtain ⟨n₁, h₁, h⟩ := bind_eq_ok.1 h
    rcases foldlM_absorbKeyed_mem rs h p hp with hp | hp
    · rcases mem_keepLatest h₁ hp with hp | rfl
      · exact .inl hp
      · exact .inr (List.mem_cons_self _ _)
    · exact .inr (List.mem_cons_of_mem _ hp)

/-- On any input, a run of the loop that does not raise holds the records' identity keys in order
of first appearance. -/
theorem foldlM_absorbKeyed_keys : ∀ (rs : List Keyed) {nodes nodes' : NodeTable}
    {ks : List String}, nodes.map Prod.fst = firstKeys ks →
      rs.foldlM absorbKeyed nodes = .ok nodes' →
        nodes'.map Prod.fst = firstKeys (ks ++ rs.map Prod.fst)
  | [], _, _, _, hk, h => by
    cases h
    simpa using hk
  | r :: rs, _, _, _, hk, h => by
    rw [List.foldlM_cons] at h
    obtain ⟨n₁, h₁, h⟩ := bind_eq_ok.1 h
    simpa using foldlM_absorbKeyed_keys rs (keys_keepLatest hk h₁) h

lemma latestNodes_keys {raw : List (String × Json)} {table : NodeTable}
    (h : latestNodes py raw = .ok table) :
    table.map Prod.fst = firstKeys ((keyedEntries py raw).map Prod.fst) := by
  rw [latestNodes_eq_foldlM] at h
  simpa using
    foldlM_absorbKeyed_keys _ (show ([] : NodeTable).map Prod.fst = firstKeys [] from rfl) h

/-! ### The loop answers -/

/-- A step does not raise when the table holds only records of `P` and `>` answers between the
records of each key of `P` and the new record. -/
lemma keepLatest_ok {nodes : NodeTable} {P : List Keyed} {k : String} {e : Entries}
    (hn : ∀ p ∈ nodes, p ∈ P) (hc : GtAnswers (P ++ [(k, e)])) :
    ∃ nodes', keepLatest nodes k e = .ok nodes' := by
  unfold keepLatest
  split
  · exact ⟨_, rfl⟩
  · next prev hl =>
    obtain ⟨b, hb⟩ := hc (k, prev) (List.mem_append_left _ (hn _ (mem_of_lookup_eq_some hl)))
      (k, e) (List.mem_append_right _ (List.mem_singleton_self _)) rfl
    rw [hb]
    exact ⟨_, rfl⟩

/-- The whole run does not raise when `>` answers between the records of each key. -/
lemma foldlM_absorbKeyed_ok : ∀ (rs : List Keyed) {nodes : NodeTable} {P : List Keyed},
    (∀ p ∈ nodes, p ∈ P) → GtAnswers (P ++ rs) →
      ∃ nodes', rs.foldlM absorbKeyed nodes = .ok nodes'
  | [], _, _, _, _ => ⟨_, rfl⟩
  | (k, e) :: rs, nodes, P, hn, hc => by
    rw [List.append_cons] at hc
    obtain ⟨n₁, h₁⟩ := keepLatest_ok hn (hc.mono (List.subset_append_left _ _))
    have hn₁ : ∀ p ∈ n₁, p ∈ P ++ [(k, e)] := fun p hp => by
      rcases mem_keepLatest h₁ hp with hp | rfl
      · exact List.mem_append_left _ (hn p hp)
      · exact List.mem_append_right _ (List.mem_singleton_self _)
    obtain ⟨n₂, h₂⟩ := foldlM_absorbKeyed_ok rs hn₁ hc
    exact ⟨n₂, by simp [absorbKeyed, h₁, h₂]⟩

/-- With a convertible `node_id`, `nodeIdOf` does not raise, whatever the key. -/
lemma nodeIdOf_ok_of_converts (k : String) {e : Entries} (he : nodeIdConverts py e) :
    ∃ n, nodeIdOf py k e = .ok n := by
  unfold nodeIdConverts at he
  unfold nodeIdOf
  split at he
  · next hl =>
    simp only [hl, toInt]
    cases intOfStr py k <;> exact ⟨_, rfl⟩
  · next hl =>
    simp only [hl, toInt]
    cases intOfStr py k <;> exact ⟨_, rfl⟩
  · next v hnull hl =>
    cases hv : toInt py v with
    | error => rw [hv] at he; exact absurd he Bool.false_ne_true
    | ok n => simp [hl, hnull, hv]

lemma nodeView_ok_of_converts (host k : String) {e : Entries} (he : nodeIdConverts py e) :
    ∃ j, nodeView py host (k, e) = .ok j := by
  obtain ⟨n, hn⟩ := nodeIdOf_ok_of_converts py k he
  exact ⟨_, by rw [nodeView, hn]; rfl⟩

/-! ### `get_topology` answers -/

/-- When the event ids of each key's records are all numbers or all strings and every node id
is absent, `None`, or accepted by `int()`, `get_topology` answers 200 with one node per distinct
identity key, the key being `str(node_id)` or, for a missing or `None` node id, the container
id. -/
theorem getTopology_ok_of_sameKind (host : String) (snap : Snapshot)
    (hev : SameKindEvents (keyedEntries py snap.containers))
    (hnid : ∀ p ∈ topologyEntries snap.containers, nodeIdConverts py p.2) :
    ∃ table nodes, latestNodes py snap.containers = .ok table ∧
      table.map Prod.fst = firstKeys ((keyedEntries py snap.containers).map Prod.fst) ∧
      getTopology py host (.ok snap) = .ok ⟨topologyBody nodes, 200⟩ ∧
      nodes.length = table.length := by
  obtain ⟨table, hrun⟩ := foldlM_absorbKeyed_ok (keyedEntries py snap.containers)
    (show ∀ p ∈ ([] : NodeTable), p ∈ ([] : List Keyed) by simp)
    (by simpa using gtAnswers_of_sameKind hev)
  have hview : ∀ p ∈ table, ∃ j, nodeView py host p = .ok j := by
    intro p hp
    rcases foldlM_absorbKeyed_mem _ hrun p hp with hp | hp
    · cases hp
    · obtain ⟨q, hq, rfl⟩ := List.mem_map.1 hp
      exact nodeView_ok_of_converts py host _ (hnid q hq)
  obtain ⟨nodes, hv⟩ := mapM_ok_of_forall hview
  have hl : latestNodes py snap.containers = .ok table :=
    (latestNodes_eq_foldlM py _).trans hrun
  exact ⟨table, nodes, hl, latestNodes_keys py hl, getTopology_ok_of py hl hv,
    length_of_mapM_eq_ok hv⟩

/-- Event ids of both kinds. Node `7` is reported with the string id `"7"` and a bool event id,
then with the int id `7` and a NaN event id; node `1` reports the strings `"9"` and `"10"`; an
item that is not a dict is skipped; and container `c3` reports without ids. -/
def kindSnapshot : Snapshot := ⟨[
    ("c1", .list [.dict [("node_id", .str "7"), ("event_id", .bool true)], .int 3,
      .dict [("node_id", .int 1), ("event_id", .str "9")]]),
    ("c2", .list [.dict [("node_id", .int 7), ("event_id", .float ⟨0x7FF8000000000000⟩)],
      .dict [("node_id", .int 1), ("event_id", .str "10")]]),
    ("c3", .list [.dict [("hostname", .str "n3")]])], by decide⟩

theorem getTopology_ok_of_sameKind_kindSnapshot :
    SameKindEvents (keyedEntries sampleRuntime kindSnapshot.containers) ∧
    (∀ p ∈ topologyEntries kindSnapshot.containers, nodeIdConverts sampleRuntime p.2) ∧
    ∃ table nodes, latestNodes sampleRuntime kindSnapshot.containers = .ok table ∧
      table.map Prod.fst =
        firstKeys ((keyedEntries sampleRuntime kindSnapshot.containers).map Prod.fst) ∧
      getTopology sampleRuntime "viz" (.ok kindSnapshot) = .ok ⟨topologyBody nodes, 200⟩ ∧
      nodes.length = table.length :=
  ⟨by decide, by decide,
    getTopology_ok_of_sameKind sampleRuntime "viz" kindSnapshot (by decide) (by decide)⟩

/-- Whenever `get_topology` answers, on any snapshot, it lists one node per distinct identity
key. -/
theorem getTopology_node_count {host : String} {snap : Snapshot} {r : Reply}
    (h : getTopology py host (.ok snap) = .ok r) :
    ∃ nodes, r = ⟨topologyBody nodes, 200⟩ ∧
      nodes.length = (firstKeys ((keyedEntries py snap.containers).map Prod.fst)).length := by
  obtain ⟨table, hl, h⟩ := bind_eq_ok.1 h
  obtain ⟨nodes, hv, h⟩ := bind_eq_ok.1 h
  cases h
  refine ⟨nodes, rfl, ?_⟩
  rw [length_of_mapM_eq_ok hv, ← List.length_map table Prod.fst, latestNodes_keys py hl]

/-- Reports of every shape: a string node id, a boolean event id, a report that is not a list,
and list items that are not dicts. -/
def mixedSnapshot : Snapshot := ⟨[
    ("c1", .list [.dict [("node_id", .str "7"), ("event_id", .bool true)], .int 3, .null]),
    ("c2", .dict [("node_id", .str "oops")]),
    ("c3", .list [.dict [("event_id", .int 2), ("hostname", .str "n3")]])], by decide⟩

theorem getTopology_node_count_mixedSnapshot :
    ∃ r, getTopology sampleRuntime "viz" (.ok mixedSnapshot) = .ok r ∧
      ∃ nodes, r = ⟨topologyBody nodes, 200⟩ ∧ nodes.length =
        (firstKeys ((keyedEntries sampleRuntime mixedSnapshot.containers).map Prod.fst)).length :=
  ⟨_, rfl, getTopology_node_count sampleRuntime rfl⟩

/-- Two records of container `c`, both with `event_id` `None`. -/
def nullEventSnapshot : Snapshot :=
  ⟨[("c", .list [.dict [("event_id", .null)], .dict [("event_id", .null)]])], by decide⟩

/-- Both records are keyed by `c`, and `None > None` raises `TypeError`: the view fails. -/
theorem getTopology_nullEventSnapshot :
    getTopology sampleRuntime "viz" (.ok nullEventSnapshot) = .error .typeError := rfl

end ContextVisualizer
