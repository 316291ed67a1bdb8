import ContextVisualizer.Reconcile.Reference

/-!
# The first unbeaten record of a key

The loop of `get_topology` keeps, for each key, the record it read first among those no later
record of the key is above. This module states that choice for any comparison `lt` on records:
`firstMax lt rs k` is the first record of key `k` in `rs` that no record of key `k` is above.
Where `lt` is a strict weak order on the records of each key (`KeyOrder`), reading one more
record changes the choice exactly as the loop body does (`firstMax_append_*`), every key has a
choice (`firstMax_isSome`), and without ties at the top the choice does not depend on the order
of the records (`firstMax_perm`).

The survivor of the reference is the choice under the order of int event ids
(`survivor_eq_firstMax`), so that what is proved here of every order holds of the survivor.
-/

namespace ContextVisualizer

/-! ### Unbeaten records -/

section Order

variable (lt : Entries → Entries → Bool)

/-- No record of key `k` in `rs` is above `e`. -/
def unbeaten (rs : List Keyed) (k : String) (e : Entries) : Bool :=
  rs.all fun s => s.1 != k || !lt e s.2

/-- The first record of key `k` that no record of key `k` is above. -/
def firstMax (rs : List Keyed) (k : String) : Option Entries :=
  (rs.find? fun r => r.1 == k && unbeaten lt rs k r.2).map Prod.snd

/-- `lt` is a strict weak order on the records of each key of `rs`. -/
structure KeyOrder (rs : List Keyed) : Prop where
  irrefl : ∀ r ∈ rs, lt r.2 r.2 = false
  trans : ∀ r ∈ rs, ∀ s ∈ rs, ∀ t ∈ rs, r.1 = s.1 → s.1 = t.1 →
    lt r.2 s.2 → lt s.2 t.2 → lt r.2 t.2
  negTrans : ∀ r ∈ rs, ∀ s ∈ rs, ∀ t ∈ rs, r.1 = s.1 → s.1 = t.1 →
    lt r.2 t.2 → lt r.2 s.2 ∨ lt s.2 t.2

variable {lt}

lemma KeyOrder.mono {rs rs' : List Keyed} (h : KeyOrder lt rs) (hsub : rs' ⊆ rs) :
    KeyOrder lt rs' :=
  ⟨fun r hr => h.irrefl r (hsub hr),
    fun r hr s hs t ht => h.trans r (hsub hr) s (hsub hs) t (hsub ht),
    fun r hr s hs t ht => h.negTrans r (hsub hr) s (hsub hs) t (hsub ht)⟩

lemma unbeaten_iff {rs : List Keyed} {k : String} {e : Entries} :
    unbeaten lt rs k e ↔ ∀ s ∈ rs, s.1 = k → lt e s.2 = false := by
  simp [unbeaten, imp_iff_not_or]

lemma unbeaten_append_singleton (rs : List Keyed) (r : Keyed) (k : String) (e : Entries) :
    unbeaten lt (rs ++ [r]) k e = (unbeaten lt rs k e && (r.1 != k || !lt e r.2)) := by
  simp [unbeaten]

lemma firstMax_spec {rs : List Keyed} {k : String} {e : Entries}
    (h : firstMax lt rs k = some e) : (k, e) ∈ rs ∧ unbeaten lt rs k e := by
  obtain ⟨r, hr, rfl⟩ := Option.map_eq_some'.1 h
  have hp := List.find?_some hr
  simp only [Bool.and_eq_true, beq_iff_eq] at hp
  obtain ⟨k', e'⟩ := r
  obtain ⟨rfl, hd⟩ := hp
  exact ⟨List.mem_of_find?_eq_some hr, hd⟩

lemma firstMax_eq_none {rs : List Keyed} {k : String} (h : k ∉ rs.map Prod.fst) :
    firstMax lt rs k = none := by
  simp only [firstMax, Option.map_eq_none', List.find?_eq_none, Bool.and_eq_true, beq_iff_eq,
    not_and]
  exact fun r hr hk => absurd (List.mem_map.2 ⟨r, hr, hk⟩) h

lemma find?_congr_of_mem {α : Type} {p q : α → Bool} :
    ∀ {l : List α}, (∀ x ∈ l, p x = q x) → l.find? p = l.find? q
  | [], _ => rfl
  | x :: l, h => by
    simp only [List.find?_cons, h x (List.mem_cons_self x l),
      find?_congr_of_mem fun y hy => h y (List.mem_cons_of_mem x hy)]

/-- A record with another key leaves the first unbeaten record of `k` alone. -/
lemma firstMax_append_of_ne (rs : List Keyed) {r : Keyed} {k : String} (h : r.1 ≠ k) :
    firstMax lt (rs ++ [r]) k = firstMax lt rs k := by
  simp [firstMax, unbeaten_append_singleton, bne, beq_false_of_ne h, List.find?_append]

/-- The new record is the first unbeaten one of its key once no earlier record of the key is
unbeaten. -/
lemma firstMax_append_last {rs : List Keyed} {k : String} {e : Entries}
    (he : unbeaten lt (rs ++ [(k, e)]) k e)
    (hrs : ∀ r ∈ rs, r.1 = k → unbeaten lt (rs ++ [(k, e)]) k r.2 = false) :
    firstMax lt (rs ++ [(k, e)]) k = some e := by
  have hnone : ∀ r ∈ rs, ¬(r.1 == k && unbeaten lt (rs ++ [(k, e)]) k r.2) := fun r hr h' => by
    simp only [Bool.and_eq_true, beq_iff_eq] at h'
    simp [hrs r hr h'.1] at h'
  rw [firstMax, List.find?_append, List.find?_eq_none.2 hnone]
  simp [he]

/-- The first record of a key is, so far, its first unbeaten one. -/
lemma firstMax_append_new {rs : List Keyed} {k : String} {e : Entries}
    (h : k ∉ rs.map Prod.fst) (he : lt e e = false) :
    firstMax lt (rs ++ [(k, e)]) k = some e := by
  have hnone : ∀ r ∈ rs, r.1 ≠ k := fun r hr hk => h (List.mem_map.2 ⟨r, hr, hk⟩)
  refine firstMax_append_last ?_ fun r hr hk => absurd hk (hnone r hr)
  simp [unbeaten_append_singleton, he, unbeaten_iff.2 fun s hs hk => absurd hk (hnone s hs)]

/-- A later record of the key takes over exactly when it is above the one kept. -/
theorem firstMax_append_of_some {rs : List Keyed} {k : String} {prev e : Entries}
    (ho : KeyOrder lt (rs ++ [(k, e)])) (h : firstMax lt rs k = some prev) :
    firstMax lt (rs ++ [(k, e)]) k = if lt prev e then some e else some prev := by
  obtain ⟨hmem, hun⟩ := firstMax_spec h
  have hp : (k, prev) ∈ rs ++ [(k, e)] := List.mem_append_left _ hmem
  have he : (k, e) ∈ rs ++ [(k, e)] := List.mem_append_right _ (List.mem_singleton_self _)
  have hprev := unbeaten_iff.1 hun
  split
  · next hlt =>
    -- `e` is above `prev`, which no earlier record is above: so `e` is above every earlier record
    -- of its key, and below none
    have hbeat : ∀ r ∈ rs, r.1 = k → lt r.2 e = true := fun r hr hk =>
      (ho.negTrans (k, prev) hp r (List.mem_append_left _ hr) (k, e) he hk.symm hk hlt).resolve_left
        (by simp [hprev r hr hk])
    have hbelow : ∀ s ∈ rs, s.1 = k → lt e s.2 = false := fun s hs hk => by
      cases hes : lt e s.2
      · rfl
      · have := ho.trans (k, prev) hp (k, e) he s (List.mem_append_left _ hs) rfl hk.symm hlt hes
        simp [hprev s hs hk] at this
    refine firstMax_append_last ?_ fun r hr hk => by
      simp [unbeaten_append_singleton, hbeat r hr hk]
    simp [unbeaten_append_singleton, unbeaten_iff.2 hbelow, (ho.irrefl _ he : lt e e = false)]
  · next hle =>
    -- an earlier record unbeaten so far is not below `e` either, or `prev` would be
    have hsame : ∀ r ∈ rs, (r.1 == k && unbeaten lt (rs ++ [(k, e)]) k r.2) =
        (r.1 == k && unbeaten lt rs k r.2) := by
      intro r hr
      rw [unbeaten_append_singleton]
      by_cases hk : r.1 = k
      · by_cases hu : unbeaten lt rs k r.2
        · have hre : lt r.2 e = false := by
            cases hre : lt r.2 e
            · rfl
            · rcases ho.negTrans r (List.mem_append_left _ hr) (k, prev) hp (k, e) he hk rfl hre
                with h' | h'
              · simp [unbeaten_iff.1 hu (k, prev) hmem rfl] at h'
              · exact absurd h' hle
          simp [hk, hu, hre]
        · simp [hu]
      · simp [beq_false_of_ne hk]
    have hfind := h
    rw [firstMax] at hfind ⊢
    obtain ⟨r, hr, hre⟩ := Option.map_eq_some'.1 hfind
    rw [List.find?_append, find?_congr_of_mem hsame, hr]
    simp [hre]

end Order

/-! ### Arrival order -/

section Arrival

variable (lt : Entries → Entries → Bool)

/-- Two records of one key that no record of the key is above are the same: no tie at the
top. -/
def UniqueTop (rs : List Keyed) : Prop :=
  ∀ r ∈ rs, ∀ s ∈ rs, r.1 = s.1 → unbeaten lt rs r.1 r.2 → unbeaten lt rs s.1 s.2 →
    r.2 = s.2

instance (rs : List Keyed) : Decidable (UniqueTop lt rs) :=
  inferInstanceAs (Decidable (∀ r ∈ rs, ∀ s ∈ rs, _))

variable {lt}

lemma unbeaten_cons (r : Keyed) (rs : List Keyed) (k : String) (e : Entries) :
    unbeaten lt (r :: rs) k e = ((r.1 != k || !lt e r.2) && unbeaten lt rs k e) := by
  simp [unbeaten]

lemma unbeaten_perm {rs rs' : List Keyed} (h : rs.Perm rs') (k : String) (e : Entries) :
    unbeaten lt rs k e = unbeaten lt rs' k e :=
  Bool.eq_iff_iff.2 (by simp only [unbeaten_iff, h.mem_iff])

/-- A strict weak order on finitely many records of a key has a record nothing is above. -/
lemma exists_unbeaten : ∀ {rs : List Keyed}, KeyOrder lt rs → ∀ {k : String},
    k ∈ rs.map Prod.fst → ∃ e, (k, e) ∈ rs ∧ unbeaten lt rs k e
  | [], _, _, hk => by simp at hk
  | r :: rs, ho, k, hk => by
    have hr : r ∈ r :: rs := List.mem_cons_self _ _
    -- `r` itself, when no later record of its key is above it
    have htop : r.1 = k → (∀ s ∈ rs, s.1 = k → lt r.2 s.2 = false) →
        ∃ e, (k, e) ∈ r :: rs ∧ unbeaten lt (r :: rs) k e := fun hrk hs => by
      subst hrk
      refine ⟨r.2, hr, ?_⟩
      rw [unbeaten_cons, Bool.and_eq_true]
      exact ⟨by simp [ho.irrefl r hr], unbeaten_iff.2 hs⟩
    by_cases hk' : k ∈ rs.map Prod.fst
    · obtain ⟨m, hm, hmu⟩ := exists_unbeaten (ho.mono (List.subset_cons_self r rs)) hk'
      have hm' : (k, m) ∈ r :: rs := List.mem_cons_of_mem _ hm
      by_cases hrm : r.1 = k ∧ lt m r.2
      · refine htop hrm.1 fun s hs hsk => ?_
        cases hrs : lt r.2 s.2
        · rfl
        · have := ho.trans (k, m) hm' r hr s (List.mem_cons_of_mem _ hs) hrm.1.symm
            (hrm.1.trans hsk.symm) hrm.2 hrs
          simp [unbeaten_iff.1 hmu s hs hsk] at this
      · refine ⟨m, hm', ?_⟩
        rw [unbeaten_cons, hmu, Bool.and_true]
        by_cases hrk : r.1 = k
        · simpa [hrk] using hrm
        · simp [hrk]
    · have hrk : r.1 = k := by
        simp only [List.map_cons, List.mem_cons] at hk
        exact hk.resolve_right hk' |>.symm
      exact htop hrk fun s hs hsk => absurd (List.mem_map.2 ⟨s, hs, hsk⟩) hk'

lemma firstMax_isSome {rs : List Keyed} (ho : KeyOrder lt rs) {k : String}
    (hk : k ∈ rs.map Prod.fst) : ∃ e, firstMax lt rs k = some e := by
  obtain ⟨e, he, hu⟩ := exists_unbeaten ho hk
  cases hf : firstMax lt rs k with
  | some e' => exact ⟨e', rfl⟩
  | none =>
    simp only [firstMax, Option.map_eq_none', List.find?_eq_none] at hf
    exact absurd (by simp [hu]) (hf (k, e) he)

/-- With no tie at the top of any key, the first unbeaten record does not depend on the
order. -/
theorem firstMax_perm {rs rs' : List Keyed} (h : rs.Perm rs') (ho : KeyOrder lt rs)
    (hu : UniqueTop lt rs) (k : String) : firstMax lt rs k = firstMax lt rs' k := by
  by_cases hk : k ∈ rs.map Prod.fst
  · obtain ⟨e, he⟩ := firstMax_isSome ho hk
    obtain ⟨e', he'⟩ := firstMax_isSome (ho.mono h.symm.subset) ((h.map Prod.fst).subset hk)
    obtain ⟨hm, hun⟩ := firstMax_spec he
    obtain ⟨hm', hun'⟩ := firstMax_spec he'
    have hee : e = e' := hu (k, e) hm (k, e') (h.symm.subset hm') rfl hun
      (by rwa [unbeaten_perm h])
    rw [he, he', hee]
  · rw [firstMax_eq_none hk, firstMax_eq_none fun hk' => hk ((h.map Prod.fst).symm.subset hk')]

end Arrival

/-! ### The survivor is the choice under int event ids -/

/-- `a`'s event id is below `b`'s, absent ids counting as `0`. -/
def intBelow (a b : Entries) : Bool := decide (eventNum a < eventNum b)

lemma unbeaten_intBelow (rs : List Keyed) (k : String) (e : Entries) :
    unbeaten intBelow rs k e = dominates rs k (eventNum e) := by
  simp only [unbeaten, dominates, intBelow, ← decide_not, not_lt]

theorem survivor_eq_firstMax (rs : List Keyed) (k : String) :
    survivor rs k = firstMax intBelow rs k := by
  simp only [survivor, firstMax, unbeaten_intBelow]

/-- Int event ids are linearly ordered, on the records of every key. -/
lemma keyOrder_intBelow (rs : List Keyed) : KeyOrder intBelow rs where
  irrefl _ _ := by simp [intBelow]
  trans _ _ _ _ _ _ _ _ h₁ h₂ := by simp only [intBelow, decide_eq_true_eq] at *; omega
  negTrans _ _ _ _ _ _ _ _ h := by simp only [intBelow, decide_eq_true_eq] at *; omega

lemma survivor_spec {rs : List Keyed} {k : String} {e : Entries} (h : survivor rs k = some e) :
    (k, e) ∈ rs ∧ ∀ r ∈ rs, r.1 = k → eventNum r.2 ≤ eventNum e := by
  rw [survivor_eq_firstMax] at h
  obtain ⟨hm, hu⟩ := firstMax_spec h
  exact ⟨hm, fun r hr hk => by simpa [intBelow] using unbeaten_iff.1 hu r hr hk⟩

lemma survivor_eq_none {rs : List Keyed} {k : String} (h : k ∉ rs.map Prod.fst) :
    survivor rs k = none := by
  rw [survivor_eq_firstMax, firstMax_eq_none h]

/-- Every key of the records has a survivor. -/
lemma survivor_isSome_of_mem {rs : List Keyed} {k : String} (hk : k ∈ rs.map Prod.fst) :
    ∃ e, survivor rs k = some e := by
  simpa only [survivor_eq_firstMax] using firstMax_isSome (keyOrder_intBelow rs) hk

end ContextVisualizer
