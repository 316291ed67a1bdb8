import ContextVisualizer.Reconcile.Refinement

/-!
# The worker summary

`get_workers` and `get_system` flatten the reports into one worker list the same way and add up
`queued`, `blocked` and `processed` over it with `sum(w.get(k, 0) for w in workers)`. Where every
worker is a dict whose counters, where present, are ints or bools, each sum is the exact sum of
the counts (`sumField_of_ready`), and both views answer 200 with the same figures. Elsewhere the
sum raises: on a worker that is not a dict (`AttributeError` from `w.get`) and on a counter that
is not a number (`TypeError` from `+`).

Floats join the sums by way of `float()` of the running int or of an int item, which raises
`OverflowError` past the float range. With `float()` answering where CPython's does and the int
counters well inside that range, both views answer exactly when every worker is a dict whose
counters, where present, are numbers (`workers_ok_iff_numeric`).

`get_topology` reads the same reports differently: it skips a report that is a single dict, which
the other two views count as one worker.
-/

namespace ContextVisualizer

variable (py : Runtime)

/-! ### Flattening -/

lemma foldl_reportWorkers (raw : List (String × Json)) (acc : List Json) :
    raw.foldl (fun workers report => workers ++ reportWorkers report.2) acc =
      acc ++ raw.flatMap fun c => reportWorkers c.2 := by
  induction raw generalizing acc with
  | nil => simp
  | cons c raw ih => simp [ih, List.append_assoc]

/-- The worker list is the reports' workers, container after container. -/
lemma flattenWorkers_eq_flatMap (raw : List (String × Json)) :
    flattenWorkers raw = raw.flatMap fun c => reportWorkers c.2 := by
  simp [flattenWorkers, foldl_reportWorkers]

lemma flattenWorkers_append (A B : List (String × Json)) :
    flattenWorkers (A ++ B) = flattenWorkers A ++ flattenWorkers B := by
  simp [flattenWorkers_eq_flatMap]

/-! ### The counters -/

/-- The counters both views add up. -/
def counterFields : List String := ["queued", "blocked", "processed"]

/-- What `w.get(k, 0)` counts for in the sum when it is an int or a bool; `0` otherwise. -/
def counterOf (k : String) : Json → Int
  | .dict es => ((es.lookup k).getD (.int 0)).intValue?.getD 0
  | _ => 0

/-- `w` is a dict and `w.get(k, 0)` is an int or a bool. -/
def counterReady (k : String) : Json → Bool
  | .dict es => ((es.lookup k).getD (.int 0)).intValue?.isSome
  | _ => false

/-- The sum of counter `k` over the workers. -/
def counterTotal (k : String) (ws : List Json) : Int := (ws.map (counterOf k)).sum

lemma counterTotal_append (k : String) (ws vs : List Json) :
    counterTotal k (ws ++ vs) = counterTotal k ws + counterTotal k vs := by
  simp [counterTotal]

/-- Every worker is a dict whose counters, where present, are ints or bools. -/
def WorkersReady (raw : List (String × Json)) : Prop :=
  ∀ w ∈ flattenWorkers raw, ∀ k ∈ counterFields, counterReady k w

instance (raw : List (String × Json)) : Decidable (WorkersReady raw) :=
  inferInstanceAs (Decidable (∀ w ∈ flattenWorkers raw, _))

/-- One step of the sum on a ready worker adds its count. -/
lemma add_get_of_counterReady {k : String} {w : Json} (h : counterReady k w) (a : Int) :
    (do Total.add py (.int a) (← w.get k (.int 0))) = .ok (.int (a + counterOf k w)) := by
  cases w with
  | dict es =>
    obtain ⟨n, hn⟩ := Option.isSome_iff_exists.1 h
    simp [Total.add, counterOf, hn]
  | _ => cases h

lemma foldlM_add_of_ready (k : String) :
    ∀ {ws : List Json} (a : Int), (∀ w ∈ ws, counterReady k w) →
      ws.foldlM (fun acc w => do Total.add py acc (← w.get k (.int 0))) (.int a) =
        .ok (.int (a + counterTotal k ws))
  | [], a, _ => by simp [counterTotal, pure, Except.pure]
  | w :: ws, a, h => by
    simp only [List.mem_cons, forall_eq_or_imp] at h
    rw [List.foldlM_cons, add_get_of_counterReady py h.1, ok_bind, foldlM_add_of_ready k _ h.2]
    simp [counterTotal, Int.add_assoc]

/-- On ready workers `sum(w.get(k, 0) for w in workers)` is the exact total. -/
theorem sumField_of_ready {k : String} {ws : List Json} (h : ∀ w ∈ ws, counterReady k w) :
    sumField py k ws = .ok (.int (counterTotal k ws)) := by
  simp [sumField, foldlM_add_of_ready py k 0 h, Total.toJson]

/-! ### Both views on ready snapshots -/

/-- The body of `get_workers`. -/
def workersBody (ws : List Json) (count queued blocked processed : Int) : Json :=
  .dict [("workers", .list ws), ("summary", .dict [("count", .int count),
    ("queued", .int queued), ("blocked", .int blocked), ("processed", .int processed)])]

/-- The body of `get_system` after a fetch. -/
def systemBody (count queued blocked processed : Int) : Json :=
  .dict [("connected", .bool true), ("workers", .int count), ("queued", .int queued),
    ("blocked", .int blocked), ("processed", .int processed)]

/-- The reply of `get_workers` on the worker list `ws`, with exact count and totals. -/
def workersReply (ws : List Json) : Reply :=
  ⟨workersBody ws ws.length (counterTotal "queued" ws) (counterTotal "blocked" ws)
    (counterTotal "processed" ws), 200⟩

/-- The reply of `get_system` on the worker list `ws`, with the same figures. -/
def systemReply (ws : List Json) : Reply :=
  ⟨systemBody ws.length (counterTotal "queued" ws) (counterTotal "blocked" ws)
    (counterTotal "processed" ws), 200⟩

lemma sumField_flattenWorkers {raw : List (String × Json)} (h : WorkersReady raw) {k : String}
    (hk : k ∈ counterFields) :
    sumField py k (flattenWorkers raw) = .ok (.int (counterTotal k (flattenWorkers raw))) :=
  sumField_of_ready py fun w hw => h w hw k hk

lemma getWorkers_of_ready {S : Snapshot} (h : WorkersReady S.containers) :
    getWorkers py (.ok S) = .ok (workersReply (flattenWorkers S.containers)) := by
  simp only [getWorkers, sumField_flattenWorkers py h (by decide : "queued" ∈ counterFields),
    sumField_flattenWorkers py h (by decide : "blocked" ∈ counterFields),
    sumField_flattenWorkers py h (by decide : "processed" ∈ counterFields), ok_bind]
  rfl

lemma getSystem_of_ready (connected : Bool) {S : Snapshot} (h : WorkersReady S.containers) :
    getSystem py connected (.ok S) = .ok (systemReply (flattenWorkers S.containers)) := by
  simp only [getSystem, sumField_flattenWorkers py h (by decide : "queued" ∈ counterFields),
    sumField_flattenWorkers py h (by decide : "blocked" ∈ counterFields),
    sumField_flattenWorkers py h (by decide : "processed" ∈ counterFields), ok_bind]
  rfl

/-- `{**A, **B}` for two snapshots with no container in common: A's containers, then B's. -/
def Snapshot.union (A B : Snapshot)
    (h : ∀ c ∈ A.containers.map Prod.fst, c ∉ B.containers.map Prod.fst) : Snapshot :=
  ⟨A.containers ++ B.containers, by
    rw [List.map_append, List.nodup_append]
    exact ⟨A.nodup, B.nodup, fun c hA hB => h c hA hB⟩⟩

/-- On ready snapshots the summary is exact, additive over containers and the same in both
views. A single container contributes its list, itself when a dict, or nothing; the union of
two snapshots has the workers of both, one after the other, and the sums of their counts and
totals. -/
theorem workers_summary_additive (connected : Bool) (A B : Snapshot)
    (hd : ∀ c ∈ A.containers.map Prod.fst, c ∉ B.containers.map Prod.fst)
    (hA : WorkersReady A.containers) (hB : WorkersReady B.containers) :
    (∀ c r, flattenWorkers [(c, r)] = reportWorkers r) ∧
    getWorkers py (.ok A) = .ok (workersReply (flattenWorkers A.containers)) ∧
    getWorkers py (.ok B) = .ok (workersReply (flattenWorkers B.containers)) ∧
    getWorkers py (.ok (A.union B hd)) = .ok ⟨workersBody
      (flattenWorkers A.containers ++ flattenWorkers B.containers)
      ((flattenWorkers A.containers).length + (flattenWorkers B.containers).length)
      (counterTotal "queued" (flattenWorkers A.containers) +
        counterTotal "queued" (flattenWorkers B.containers))
      (counterTotal "blocked" (flattenWorkers A.containers) +
        counterTotal "blocked" (flattenWorkers B.containers))
      (counterTotal "processed" (flattenWorkers A.containers) +
        counterTotal "processed" (flattenWorkers B.containers)), 200⟩ ∧
    getSystem py connected (.ok A) = .ok (systemReply (flattenWorkers A.containers)) := by
  have hAB : WorkersReady (A.union B hd).containers := fun w hw => by
    rw [Snapshot.union, flattenWorkers_append, List.mem_append] at hw
    exact hw.elim (hA w) (hB w)
  refine ⟨fun c r => by simp [flattenWorkers], getWorkers_of_ready py hA,
    getWorkers_of_ready py hB, ?_, getSystem_of_ready py connected hA⟩
  rw [getWorkers_of_ready py hAB, workersReply, Snapshot.union, flattenWorkers_append]
  simp [counterTotal_append]

/-- Two containers, one reporting a list of two workers and one a single worker. -/
def workerSnapshot : Snapshot := ⟨[
    ("c1", .list [.dict [("queued", .int 2), ("processed", .int 5)], .dict [("blocked", .int 1)]]),
    ("c2", .dict [("queued", .int 3), ("processed", .bool true)])], by decide⟩

/-- A third container, reporting one worker. -/
def otherWorkerSnapshot : Snapshot :=
  ⟨[("c3", .list [.dict [("queued", .int 4), ("blocked", .bool false)]])], by decide⟩

theorem workers_summary_additive_workerSnapshot :
    (∀ c ∈ workerSnapshot.containers.map Prod.fst,
      c ∉ otherWorkerSnapshot.containers.map Prod.fst) ∧
    WorkersReady workerSnapshot.containers ∧ WorkersReady otherWorkerSnapshot.containers ∧
    ∃ hd, (∀ c r, flattenWorkers [(c, r)] = reportWorkers r) ∧
    getWorkers sampleRuntime (.ok workerSnapshot) =
      .ok (workersReply (flattenWorkers workerSnapshot.containers)) ∧
    getWorkers sampleRuntime (.ok otherWorkerSnapshot) =
      .ok (workersReply (flattenWorkers otherWorkerSnapshot.containers)) ∧
    getWorkers sampleRuntime (.ok (workerSnapshot.union otherWorkerSnapshot hd)) =
      .ok ⟨workersBody
      (flattenWorkers workerSnapshot.containers ++ flattenWorkers otherWorkerSnapshot.containers)
      ((flattenWorkers workerSnapshot.containers).length +
        (flattenWorkers otherWorkerSnapshot.containers).length)
      (counterTotal "queued" (flattenWorkers workerSnapshot.containers) +
        counterTotal "queued" (flattenWorkers otherWorkerSnapshot.containers))
      (counterTotal "blocked" (flattenWorkers workerSnapshot.containers) +
        counterTotal "blocked" (flattenWorkers otherWorkerSnapshot.containers))
      (counterTotal "processed" (flattenWorkers workerSnapshot.containers) +
        counterTotal "processed" (flattenWorkers otherWorkerSnapshot.containers)), 200⟩ ∧
    getSystem sampleRuntime false (.ok workerSnapshot) =
      .ok (systemReply (flattenWorkers workerSnapshot.containers)) :=
  have hd : ∀ c ∈ workerSnapshot.containers.map Prod.fst,
      c ∉ otherWorkerSnapshot.containers.map Prod.fst := by decide
  ⟨hd, by decide, by decide, hd,
    workers_summary_additive sampleRuntime false workerSnapshot otherWorkerSnapshot hd
      (by decide) (by decide)⟩

example : getWorkers sampleRuntime (.ok workerSnapshot) =
    .ok ⟨workersBody (flattenWorkers workerSnapshot.containers) 3 5 1 6, 200⟩ := rfl

/-- Both views answer 200 on every ready snapshot. -/
theorem workers_system_ok_of_ready (connected : Bool) (S : Snapshot)
    (h : WorkersReady S.containers) :
    getWorkers py (.ok S) = .ok (workersReply (flattenWorkers S.containers)) ∧
    getSystem py connected (.ok S) = .ok (systemReply (flattenWorkers S.containers)) :=
  ⟨getWorkers_of_ready py h, getSystem_of_ready py connected h⟩

theorem workers_system_ok_of_ready_workerSnapshot : WorkersReady workerSnapshot.containers ∧
    getWorkers sampleRuntime (.ok workerSnapshot) =
      .ok (workersReply (flattenWorkers workerSnapshot.containers)) ∧
    getSystem sampleRuntime true (.ok workerSnapshot) =
      .ok (systemReply (flattenWorkers workerSnapshot.containers)) :=
  ⟨by decide, workers_system_ok_of_ready sampleRuntime true workerSnapshot (by decide)⟩

/-- One worker whose `queued` is `None`. -/
def nullCounterSnapshot : Snapshot := ⟨[("c", .list [.dict [("queued", .null)]])], by decide⟩

/-- `0 + None` raises `TypeError`, in both views. -/
theorem getWorkers_nullCounterSnapshot :
    getWorkers sampleRuntime (.ok nullCounterSnapshot) = .error .typeError ∧
    getSystem sampleRuntime true (.ok nullCounterSnapshot) = .error .typeError := ⟨rfl, rfl⟩

/-! ### An answer accounts for every worker -/

/-- `+` on a running total accepts numbers only. -/
lemma Total.numValue_of_add {t t' : Total} {v : Json} (h : Total.add py t v = .ok t') :
    v.numValue?.isSome := by
  cases t <;> cases v <;> simp_all [Total.add, Json.intValue?, Json.numValue?]

lemma foldlM_sum_counted {k : String} : ∀ {ws : List Json} {t t' : Total},
    ws.foldlM (fun acc w => do Total.add py acc (← w.get k (.int 0))) t = .ok t' →
      ∀ w ∈ ws, ∃ es, w = .dict es ∧ ((es.lookup k).getD (.int 0)).numValue?.isSome
  | [], _, _, _ => by simp
  | w :: _, _, _, h => by
    rw [List.foldlM_cons] at h
    obtain ⟨t₁, h₁, h⟩ := bind_eq_ok.1 h
    obtain ⟨v, hv, h₁⟩ := bind_eq_ok.1 h₁
    rw [List.forall_mem_cons]
    refine ⟨?_, foldlM_sum_counted h⟩
    cases w <;> simp only [Json.get, reduceCtorEq] at hv
    · next es =>
      cases hv
      exact ⟨es, rfl, Total.numValue_of_add py h₁⟩

/-- When `sum(w.get(k, 0) for w in workers)` answers, every worker is a dict whose counter `k`,
where present, is a number. -/
lemma sumField_counted {k : String} {ws : List Json} {v : Json} (h : sumField py k ws = .ok v) :
    ∀ w ∈ ws, ∃ es, w = .dict es ∧ ((es.lookup k).getD (.int 0)).numValue?.isSome := by
  obtain ⟨t, ht, -⟩ := map_eq_ok_iff.1 h
  exact foldlM_sum_counted py ht

/-- Every worker is a dict whose counters, where present, are numbers: ints, bools or floats. -/
def CountersNumeric (ws : List Json) : Prop :=
  ∀ w ∈ ws, ∃ es, w = .dict es ∧
    ∀ k ∈ counterFields, ((es.lookup k).getD (.int 0)).numValue?.isSome

lemma countersNumeric_of_sums {ws : List Json} {q b p : Json}
    (hq : sumField py "queued" ws = .ok q) (hb : sumField py "blocked" ws = .ok b)
    (hp : sumField py "processed" ws = .ok p) : CountersNumeric ws := by
  intro w hw
  obtain ⟨es, rfl, hq⟩ := sumField_counted py hq w hw
  obtain ⟨_, he₁, hb⟩ := sumField_counted py hb _ hw
  obtain ⟨_, he₂, hp⟩ := sumField_counted py hp _ hw
  cases he₁
  cases he₂
  exact ⟨es, rfl, by simp [counterFields, hq, hb, hp]⟩

/-- No worker is skipped or counted as zero: whenever `get_workers` answers after a fetch, every
flattened worker is a dict whose `queued`, `blocked` and `processed`, where present, are numbers. -/
theorem getWorkers_counted (S : Snapshot) {r : Reply} (h : getWorkers py (.ok S) = .ok r) :
    ∀ w ∈ flattenWorkers S.containers, ∃ es, w = .dict es ∧
      ∀ k ∈ counterFields, ((es.lookup k).getD (.int 0)).numValue?.isSome := by
  simp only [getWorkers, bind_eq_ok] at h
  obtain ⟨_, hq, _, hb, _, hp, -⟩ := h
  exact countersNumeric_of_sums py hq hb hp

theorem getWorkers_counted_workerSnapshot :
    ∃ r, getWorkers sampleRuntime (.ok workerSnapshot) = .ok r ∧
      ∀ w ∈ flattenWorkers workerSnapshot.containers, ∃ es, w = .dict es ∧
        ∀ k ∈ counterFields, ((es.lookup k).getD (.int 0)).numValue?.isSome :=
  ⟨_, rfl, getWorkers_counted sampleRuntime workerSnapshot rfl⟩

/-! ### Float counters -/

/-- The magnitude of a running total while it is an int; a float total has none. -/
def Total.intMag : Total → Nat
  | .int a => a.natAbs
  | .float _ => 0

/-- Adding a number answers while the int magnitudes stay below the float limit, and the int
magnitude grows by at most the item's. -/
lemma Total.add_ok (hpy : py.FloatOfIntInRange) {t : Total} {v : Json} (hv : v.numValue?.isSome)
    (hb : t.intMag + (v.intValue?.getD 0).natAbs < floatLimit) :
    ∃ t', Total.add py t v = .ok t' ∧ t'.intMag ≤ t.intMag + (v.intValue?.getD 0).natAbs := by
  cases v <;> simp only [Json.numValue?, Option.isSome_none, Bool.false_eq_true] at hv
  all_goals cases t
  case bool.int b a | int.int b a => exact ⟨_, rfl, Int.natAbs_add_le _ _⟩
  case float.int y a =>
    obtain ⟨x, hx⟩ := hpy a (by simpa [Total.intMag, Json.intValue?] using hb)
    exact ⟨.float (py.floatAdd x y), by simp [Total.add, Json.intValue?, hx, Except.map],
      Nat.zero_le _⟩
  case float.float y x => exact ⟨_, rfl, Nat.zero_le _⟩
  case bool.float b x | int.float b x =>
    obtain ⟨y, hy⟩ := hpy _ (by simpa [Total.intMag] using hb)
    simp only [Json.intValue?, Option.getD_some] at hy
    exact ⟨.float (py.floatAdd x y), by simp [Total.add, Json.intValue?, hy, Except.map],
      Nat.zero_le _⟩

/-- The sum answers on numeric counters whose int magnitudes, with the running total's, stay
below the float limit. -/
lemma foldlM_sum_ok (hpy : py.FloatOfIntInRange) {k : String} :
    ∀ {ws : List Json} {t : Total}, (∀ w ∈ ws, ∃ es, w = .dict es ∧
      ((es.lookup k).getD (.int 0)).numValue?.isSome) →
      t.intMag + (ws.map fun w => (counterOf k w).natAbs).sum < floatLimit →
        ∃ t', ws.foldlM (fun acc w => do Total.add py acc (← w.get k (.int 0))) t = .ok t'
  | [], _, _, _ => ⟨_, rfl⟩
  | w :: ws, t, hn, hb => by
    obtain ⟨es, rfl, hv⟩ := hn w (List.mem_cons_self _ _)
    simp only [List.map_cons, List.sum_cons] at hb
    obtain ⟨t₁, h₁, hm₁⟩ := @Total.add_ok py hpy t _ hv
      (show t.intMag + (counterOf k (.dict es)).natAbs < floatLimit by omega)
    have hm₁' : t₁.intMag ≤ t.intMag + (counterOf k (.dict es)).natAbs := hm₁
    obtain ⟨t₂, h₂⟩ := foldlM_sum_ok hpy (fun w hw => hn w (List.mem_cons_of_mem _ hw))
      (show t₁.intMag + _ < floatLimit by omega)
    exact ⟨t₂, by simp [h₁, h₂]⟩

lemma sumField_ok_of_numeric (hpy : py.FloatOfIntInRange) {ws : List Json} (hn : CountersNumeric ws)
    {k : String} (hk : k ∈ counterFields)
    (hb : (ws.map fun w => (counterOf k w).natAbs).sum < floatLimit) :
    ∃ v, sumField py k ws = .ok v := by
  obtain ⟨t, ht⟩ := @foldlM_sum_ok py hpy k ws (.int 0) (fun w hw => by
    obtain ⟨es, rfl, h⟩ := hn w hw
    exact ⟨es, rfl, h k hk⟩) (by simpa [Total.intMag] using hb)
  exact ⟨t.toJson, by simp [sumField, ht]⟩

/-- The int counters of each field have magnitudes summing below the float limit. -/
def CountersInRange (ws : List Json) : Prop :=
  ∀ k ∈ counterFields, (ws.map fun w => (counterOf k w).natAbs).sum < floatLimit

/-- The three sums answer exactly on numeric counters, once the int counters are in range; and
then so does a reply built from them. -/
lemma sums_ok_iff (hpy : py.FloatOfIntInRange) {ws : List Json} (hb : CountersInRange ws)
    (mk : Json → Json → Json → Reply) :
    (∃ r, (do
        let q ← sumField py "queued" ws
        let b ← sumField py "blocked" ws
        let p ← sumField py "processed" ws
        pure (mk q b p)) = Except.ok r) ↔ CountersNumeric ws := by
  simp only [bind_eq_ok, pure_eq_ok]
  constructor
  · rintro ⟨_, _, hq, _, hb, _, hp, -⟩
    exact countersNumeric_of_sums py hq hb hp
  · intro hn
    have ok : ∀ k ∈ counterFields, ∃ v, sumField py k ws = .ok v := fun k hk =>
      sumField_ok_of_numeric py hpy hn hk (hb k hk)
    obtain ⟨q, hq⟩ := ok "queued" (by decide)
    obtain ⟨b, hb'⟩ := ok "blocked" (by decide)
    obtain ⟨p, hp⟩ := ok "processed" (by decide)
    exact ⟨_, q, hq, b, hb', p, hp, rfl⟩

/-- With `float()` answering where CPython's does and the int counters' magnitudes summing below
the float limit, both views answer exactly when every worker is a dict whose counters, where
present, are numbers: ints, bools or floats. -/
theorem workers_ok_iff_numeric (hpy : py.FloatOfIntInRange) (connected : Bool) (S : Snapshot)
    (hb : CountersInRange (flattenWorkers S.containers)) :
    ((∃ r, getWorkers py (.ok S) = .ok r) ↔ CountersNumeric (flattenWorkers S.containers)) ∧
    ((∃ r, getSystem py connected (.ok S) = .ok r) ↔
      CountersNumeric (flattenWorkers S.containers)) :=
  ⟨sums_ok_iff py hpy hb _, sums_ok_iff py hpy hb _⟩

/-- One worker counts `0.5` items processed, an int and a bool item queued. -/
def floatWorkerSnapshot : Snapshot := ⟨[("c1", .list [
    .dict [("queued", .int 2), ("processed", .float ⟨0x3FE0000000000000⟩)],
    .dict [("queued", .bool true), ("processed", .int 3)]])], by decide⟩

theorem workers_ok_iff_numeric_floatWorkerSnapshot : sampleRuntime.FloatOfIntInRange ∧
    CountersInRange (flattenWorkers floatWorkerSnapshot.containers) ∧
    ((∃ r, getWorkers sampleRuntime (.ok floatWorkerSnapshot) = .ok r) ↔
      CountersNumeric (flattenWorkers floatWorkerSnapshot.containers)) ∧
    ((∃ r, getSystem sampleRuntime true (.ok floatWorkerSnapshot) = .ok r) ↔
      CountersNumeric (flattenWorkers floatWorkerSnapshot.containers)) :=
  have hsmall : ∀ k ∈ counterFields,
      ((flattenWorkers floatWorkerSnapshot.containers).map fun w => (counterOf k w).natAbs).sum <
        2 ^ 64 := by decide
  have hb : CountersInRange (flattenWorkers floatWorkerSnapshot.containers) := fun k hk =>
    lt_of_lt_of_le (hsmall k hk)
      ((Nat.pow_le_pow_right (by norm_num) (by norm_num)).trans two_pow_lt_floatLimit.le)
  ⟨sampleRuntime_floatOfIntInRange, hb, workers_ok_iff_numeric sampleRuntime
    sampleRuntime_floatOfIntInRange true floatWorkerSnapshot hb⟩

example : (getWorkers sampleRuntime (.ok floatWorkerSnapshot)).toBool = true := by decide

/-! ### What `get_topology` reads of the same reports -/

lemma reportEntries_eq_filterMap (r : Json) :
    reportEntries r = (if r.isDict then [] else reportWorkers r).filterMap Json.dict? := by
  cases r <;> rfl

/-- The loop of `get_topology` reads the dict workers of every report except a report that is
itself a single dict, which the other views count as a worker. -/
theorem topology_records_of_workers (raw : List (String × Json)) :
    latestNodes py raw = ((raw.flatMap fun c =>
        ((if c.2.isDict then [] else reportWorkers c.2).filterMap Json.dict?).map (c.1, ·)).map
      fun p => (nodeKey py p.1 p.2, p.2)).foldlM absorbKeyed [] ∧
    flattenWorkers raw = raw.flatMap fun c => reportWorkers c.2 := by
  refine ⟨?_, flattenWorkers_eq_flatMap raw⟩
  rw [latestNodes_eq_foldlM, keyedEntries, topologyEntries]
  simp only [reportEntries_eq_filterMap]

/-- A container reporting one node as a single dict. -/
def singleReportSnapshot : Snapshot := ⟨[("c", .dict [("node_id", .int 1)])], by decide⟩

/-- `get_workers` counts the node as a worker; `get_topology` shows no node. -/
theorem getTopology_singleReportSnapshot :
    getTopology sampleRuntime "viz" (.ok singleReportSnapshot) = .ok ⟨topologyBody [], 200⟩ ∧
    getWorkers sampleRuntime (.ok singleReportSnapshot) =
      .ok ⟨workersBody [.dict [("node_id", .int 1)]] 1 0 0 0, 200⟩ := ⟨rfl, rfl⟩

end ContextVisualizer
