import ContextVisualizer.Api.Views

/-!
# What reconciliation is meant to compute

The loop of `get_topology` reads the dict items of the list reports, gives each an identity key
(`nodeKey`), and keeps one entry per key. This module states, without the loop, which entry that
should be: the *survivor* of a key is the first record, in iteration order, whose `event_id`
(absent counting as `0`) is the largest among the records with that key. Keys come out in order
of first appearance, which is the order of a Python dict.

The keys come with their one-record recurrence (`firstKeys_append_singleton`): what changes
when the loop reads one more record. The survivor is the choice `FirstMax` studies for every
order, taken under the order of int event ids.
-/

namespace ContextVisualizer

variable (py : Runtime)

/-! ### The records the loop reads -/

/-- Lines 24-28: the dict items of a report, when it is a list. -/
def reportEntries : Json → List Entries
  | .list items => items.filterMap Json.dict?
  | _ => []

/-- The `(container id, entry)` pairs the loop visits, in order. -/
def topologyEntries (raw : List (String × Json)) : List (String × Entries) :=
  raw.flatMap fun c => (reportEntries c.2).map (c.1, ·)

/-- A record with its identity key. -/
abbrev Keyed := String × Entries

/-- The records of the loop with their identity keys. -/
def keyedEntries (raw : List (String × Json)) : List Keyed :=
  (topologyEntries raw).map fun p => (nodeKey py p.1 p.2, p.2)

/-- The `event_id` an entry is compared by: its value when an int, `0` when absent. -/
def eventNum (entry : Entries) : Int :=
  match entry.lookup "event_id" with
  | some (.int n) => n
  | _ => 0

/-- `node_id` is absent, `None` or an int. -/
def nodeIdIsInt (entry : Entries) : Bool :=
  match entry.lookup "node_id" with
  | none | some .null | some (.int _) => true
  | _ => false

/-- `event_id` is absent or an int. -/
def eventIdIsInt (entry : Entries) : Bool :=
  match entry.lookup "event_id" with
  | none | some (.int _) => true
  | _ => false

/-- Every record the loop reads has an int or no `node_id` (`None` counting as none) and an int
or no `event_id`: the snapshots on which the loop computes the reference. -/
def ReconcileReady (raw : List (String × Json)) : Prop :=
  ∀ p ∈ topologyEntries raw, nodeIdIsInt p.2 ∧ eventIdIsInt p.2

instance (raw : List (String × Json)) : Decidable (ReconcileReady raw) :=
  inferInstanceAs (Decidable (∀ p ∈ topologyEntries raw, _))

/-! ### Keys in order of first appearance -/

/-- Add `k` at the end unless it is already there. -/
def addKey (seen : List String) (k : String) : List String :=
  if k ∈ seen then seen else seen ++ [k]

/-- The keys of `ks` in order of first appearance. -/
def firstKeys (ks : List String) : List String := ks.foldl addKey []

lemma firstKeys_append_singleton (ks : List String) (k : String) :
    firstKeys (ks ++ [k]) = addKey (firstKeys ks) k := by
  simp [firstKeys]

lemma mem_addKey {seen : List String} {j k : String} :
    k ∈ addKey seen j ↔ k ∈ seen ∨ k = j := by
  unfold addKey
  split
  · next h => exact ⟨.inl, fun hk => hk.elim id (· ▸ h)⟩
  · simp

lemma mem_foldl_addKey (ks seen : List String) (k : String) :
    k ∈ ks.foldl addKey seen ↔ k ∈ seen ∨ k ∈ ks := by
  induction ks generalizing seen with
  | nil => simp
  | cons j ks ih => rw [List.foldl_cons, ih, mem_addKey, List.mem_cons, or_assoc]

@[simp] lemma mem_firstKeys {ks : List String} {k : String} :
    k ∈ firstKeys ks ↔ k ∈ ks := by
  simp [firstKeys, mem_foldl_addKey]

lemma nodup_firstKeys (ks : List String) : (firstKeys ks).Nodup := by
  suffices ∀ seen : List String, seen.Nodup → (ks.foldl addKey seen).Nodup from this [] .nil
  induction ks with
  | nil => exact fun _ h => h
  | cons j ks ih =>
    intro seen h
    apply ih
    by_cases hj : j ∈ seen
    · simpa [addKey, hj] using h
    · simpa [addKey, hj, List.nodup_append] using h

lemma firstKeys_perm {ks ks' : List String} (h : ks.Perm ks') :
    (firstKeys ks).Perm (firstKeys ks') :=
  (List.perm_ext_iff_of_nodup (nodup_firstKeys ks) (nodup_firstKeys ks')).2 fun k => by
    simpa using h.mem_iff

/-! ### The survivor of a key -/

/-- Every record of `rs` with key `k` has an event id at most `ev`. -/
def dominates (rs : List Keyed) (k : String) (ev : Int) : Bool :=
  rs.all fun r => r.1 != k || eventNum r.2 ≤ ev

/-- The survivor of `k`: the first record with key `k` whose event id is the largest among the
records with key `k`. -/
def survivor (rs : List Keyed) (k : String) : Option Entries :=
  (rs.find? fun r => r.1 == k && dominates rs k (eventNum r.2)).map Prod.snd

lemma dominates_iff {rs : List Keyed} {k : String} {ev : Int} :
    dominates rs k ev ↔ ∀ r ∈ rs, r.1 = k → eventNum r.2 ≤ ev := by
  simp [dominates, imp_iff_not_or]

/-! ### The reference topology -/

/-- The node the reference builds for key `k` from its survivor: the node id is `int(k)`, or
`0` when `k` does not read as an int; the other fields are the survivor's, or their defaults. -/
def referenceNode (host k : String) (e : Entries) : Json :=
  .dict (("node_id", .int ((intOfStr py k).getD 0)) :: nodeFields host e)

/-- One node per distinct key, in order of first appearance, built from the key's survivor. -/
def referenceNodes (host : String) (rs : List Keyed) : List Json :=
  (firstKeys (rs.map Prod.fst)).filterMap fun k => (survivor rs k).map (referenceNode py host k)

end ContextVisualizer
