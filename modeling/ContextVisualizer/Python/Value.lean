import Mathlib

/-!
# Python values as the endpoints receive them

The telemetry client hands every endpoint Python objects decoded from the runtime: `None`,
booleans, ints, floats, strings, lists, and dicts with string keys. `Json` is that fragment of
Python's object model. A dict is kept as its list of entries in insertion order, which is the
order `dict` iterates in; `get` reads the entry of a key, of which a Python dict has one.

A float is held as its IEEE 754 bit pattern, so that every value of the type is a float Python
can hold; `PyFloat.value` decodes it for the comparisons and conversions the code performs.
-/

namespace ContextVisualizer

/-- The exceptions the modelled code raises or catches. An exception that leaves a view
function is answered by Flask with status 500. -/
inductive PyError where
  | typeError
  | valueError
  | attributeError
  | overflowError
  | osError
  | yamlError
  deriving DecidableEq, Repr

/-- A Python `float`: an IEEE 754 binary64 value, held as its bit pattern. -/
structure PyFloat where
  bits : UInt64
  deriving DecidableEq, Repr

/-- A binary64 value decoded: `m * 2 ^ e`, an infinity, or NaN. -/
inductive FloatValue where
  | finite (m : Int) (e : Int)
  | inf (neg : Bool)
  | nan
  deriving DecidableEq, Repr

/-- Decode the sign, the 11-bit biased exponent and the 52-bit fraction. -/
def PyFloat.value (x : PyFloat) : FloatValue :=
  let b : Nat := x.bits.toNat
  let frac : Nat := b % 2 ^ 52
  let biased : Nat := b / 2 ^ 52 % 2 ^ 11
  let neg : Bool := b / 2 ^ 63 == 1
  if biased = 2047 then
    if frac = 0 then .inf neg else .nan
  else
    let m : Int := Int.ofNat (if biased = 0 then frac else frac + 2 ^ 52)
    .finite (if neg then -m else m) (Int.ofNat (if biased = 0 then 1 else biased) - 1075)

/-- The Python objects a telemetry report or a config file is made of. -/
inductive Json where
  | null
  | bool (b : Bool)
  | int (n : Int)
  | float (x : PyFloat)
  | str (s : String)
  | list (xs : List Json)
  | dict (entries : List (String × Json))
  deriving Repr, Inhabited

/-- The entries of a dict: a telemetry record, or a row of a config section. -/
abbrev Entries := List (String × Json)

namespace Json

mutual

/-- Structural equality of values, written out because `deriving DecidableEq` does not reach
the lists nested in `Json`. -/
def decEq : (a b : Json) → Decidable (a = b)
  | .null, .null => isTrue rfl
  | .bool a, .bool b =>
    if h : a = b then isTrue (h ▸ rfl) else isFalse fun e => by cases e; exact h rfl
  | .int a, .int b =>
    if h : a = b then isTrue (h ▸ rfl) else isFalse fun e => by cases e; exact h rfl
  | .float a, .float b =>
    if h : a = b then isTrue (h ▸ rfl) else isFalse fun e => by cases e; exact h rfl
  | .str a, .str b =>
    if h : a = b then isTrue (h ▸ rfl) else isFalse fun e => by cases e; exact h rfl
  | .list a, .list b => match decEqList a b with
    | isTrue h => isTrue (h ▸ rfl)
    | isFalse h => isFalse fun e => by cases e; exact h rfl
  | .dict a, .dict b => match decEqEntries a b with
    | isTrue h => isTrue (h ▸ rfl)
    | isFalse h => isFalse fun e => by cases e; exact h rfl
  | .null, .bool _ | .null, .int _ | .null, .float _ | .null, .str _ | .null, .list _
  | .null, .dict _ | .bool _, .null | .bool _, .int _ | .bool _, .float _ | .bool _, .str _
  | .bool _, .list _ | .bool _, .dict _ | .int _, .null | .int _, .bool _ | .int _, .float _
  | .int _, .str _ | .int _, .list _ | .int _, .dict _ | .float _, .null | .float _, .bool _
  | .float _, .int _ | .float _, .str _ | .float _, .list _ | .float _, .dict _
  | .str _, .null | .str _, .bool _ | .str _, .int _ | .str _, .float _ | .str _, .list _
  | .str _, .dict _ | .list _, .null | .list _, .bool _ | .list _, .int _ | .list _, .float _
  | .list _, .str _ | .list _, .dict _ | .dict _, .null | .dict _, .bool _ | .dict _, .int _
  | .dict _, .float _ | .dict _, .str _ | .dict _, .list _ => isFalse fun e => Json.noConfusion e
def decEqList : (a b : List Json) → Decidable (a = b)
  | [], [] => isTrue rfl
  | x :: xs, y :: ys => match decEq x y, decEqList xs ys with
    | isTrue h₁, isTrue h₂ => isTrue (h₁ ▸ h₂ ▸ rfl)
    | isFalse h₁, _ => isFalse fun e => by cases e; exact h₁ rfl
    | _, isFalse h₂ => isFalse fun e => by cases e; exact h₂ rfl
  | [], _ :: _ | _ :: _, [] => isFalse fun e => List.noConfusion e
def decEqEntries : (a b : List (String × Json)) → Decidable (a = b)
  | [], [] => isTrue rfl
  | (k, x) :: xs, (l, y) :: ys =>
    if hk : k = l then match decEq x y, decEqEntries xs ys with
      | isTrue h₁, isTrue h₂ => isTrue (hk ▸ h₁ ▸ h₂ ▸ rfl)
      | isFalse h₁, _ => isFalse fun e => by cases e; exact h₁ rfl
      | _, isFalse h₂ => isFalse fun e => by cases e; exact h₂ rfl
    else isFalse fun e => by cases e; exact hk rfl
  | [], _ :: _ | _ :: _, [] => isFalse fun e => List.noConfusion e
end
instance : DecidableEq Json := decEq

/-- Python's truth value `bool(v)`. -/
def truthy : Json → Bool
  | .null => false
  | .bool b => b
  | .int n => n != 0
  | .float x => match x.value with
    | .finite m _ => m != 0
    | _ => true
  | .str s => !s.isEmpty
  | .list xs => !xs.isEmpty
  | .dict es => !es.isEmpty

/-- `v.get(k, default)`: an `AttributeError` unless `v` is a dict. -/
def get (v : Json) (k : String) (default : Json) : Except PyError Json :=
  match v with
  | .dict es => .ok ((es.lookup k).getD default)
  | _ => .error .attributeError

@[simp] lemma get_dict (es : Entries) (k : String) (d : Json) :
    (Json.dict es).get k d = .ok ((es.lookup k).getD d) := rfl

/-- `isinstance(v, dict)`. -/
def isDict : Json → Bool
  | .dict _ => true
  | _ => false

/-- The entries of a value that passes `isinstance(v, dict)`. -/
def dict? : Json → Option Entries
  | .dict e => some e
  | _ => none

/-- Only a dict answers `get`. -/
lemma isDict_of_get {v : Json} {k : String} {d x : Json} (h : v.get k d = .ok x) : v.isDict := by
  cases v <;> first | rfl | cases h

end Json

/-! ### Raising and not raising -/

@[simp] lemma ok_bind {ε α β : Type} (a : α) (f : α → Except ε β) :
    (Except.ok a >>= f) = f a := rfl

@[simp] lemma pure_eq_ok {ε α : Type} (a : α) : (pure a : Except ε α) = .ok a := rfl

@[simp] lemma error_bind {ε α β : Type} (e : ε) (f : α → Except ε β) :
    (Except.error e >>= f) = .error e := rfl

lemma bind_eq_ok {ε α β : Type} {x : Except ε α} {f : α → Except ε β} {b : β} :
    x >>= f = .ok b ↔ ∃ a, x = .ok a ∧ f a = .ok b := by
  cases x <;> simp

lemma isOk_iff_eq_ok {ε : Type} (x : Except ε Unit) : x.isOk ↔ x = .ok () := by
  cases x <;> simp [Except.isOk, Except.toBool]

/-- Two checks in a row pass exactly when both pass. -/
lemma bind_unit_eq_ok {ε : Type} {x y : Except ε Unit} :
    (x >>= fun _ => y) = .ok () ↔ x = .ok () ∧ y = .ok () := by
  cases x <;> simp

/-- Two checks in a row fail with the first one's error, or the second one's after the first
passes. -/
lemma bind_unit_eq_error {ε : Type} {x y : Except ε Unit} {m : ε} :
    (x >>= fun _ => y) = .error m ↔ x = .error m ∨ (x = .ok () ∧ y = .error m) := by
  cases x <;> simp

lemma map_eq_ok_iff {ε α β : Type} {f : α → β} {x : Except ε α} {y : β} :
    x.map f = .ok y ↔ ∃ a, x = .ok a ∧ f a = y := by
  cases x <;> simp [Except.map]

lemma mapM_eq_ok {ε α β : Type} {f : α → Except ε β} {g : α → β} :
    ∀ {l : List α}, (∀ x ∈ l, f x = .ok (g x)) → l.mapM f = .ok (l.map g)
  | [], _ => rfl
  | x :: l, h => by
    simp only [List.mem_cons, forall_eq_or_imp] at h
    rw [List.mapM_cons, h.1, mapM_eq_ok h.2]
    rfl

lemma mapM_ok_of_forall {ε α β : Type} {f : α → Except ε β} :
    ∀ {l : List α}, (∀ x ∈ l, ∃ y, f x = .ok y) → ∃ ys, l.mapM f = .ok ys
  | [], _ => ⟨[], rfl⟩
  | x :: l, h => by
    obtain ⟨y, hy⟩ := h x (List.mem_cons_self x l)
    obtain ⟨ys, hys⟩ := mapM_ok_of_forall fun x' hx' => h x' (List.mem_cons_of_mem x hx')
    exact ⟨y :: ys, by rw [List.mapM_cons, hy, hys]; rfl⟩

lemma length_of_mapM_eq_ok {ε α β : Type} {f : α → Except ε β} :
    ∀ {l : List α} {ys : List β}, l.mapM f = .ok ys → ys.length = l.length
  | [], ys, h => by cases h; rfl
  | x :: l, ys, h => by
    rw [List.mapM_cons] at h
    obtain ⟨y, -, h⟩ := bind_eq_ok.1 h
    obtain ⟨ys', hl, h⟩ := bind_eq_ok.1 h
    cases h
    simp [length_of_mapM_eq_ok hl]

/-- A `mapM` that does not raise did not raise on any item. -/
lemma ok_of_mapM_eq_ok {ε α β : Type} {f : α → Except ε β} :
    ∀ {l : List α} {ys : List β}, l.mapM f = .ok ys → ∀ x ∈ l, ∃ y, f x = .ok y
  | [], _, _ => by simp
  | x :: l, ys, h => by
    rw [List.mapM_cons] at h
    obtain ⟨y, hy, h⟩ := bind_eq_ok.1 h
    obtain ⟨ys', hl, -⟩ := bind_eq_ok.1 h
    simp only [List.mem_cons, forall_eq_or_imp]
    exact ⟨⟨y, hy⟩, ok_of_mapM_eq_ok hl⟩

/-! ### Insertion-ordered dicts -/

section Dict

variable {α : Type}

/-- `d[k] = v` on a Python dict: a present key keeps its position and takes the new value, a new
key goes last. -/
def dictSet (k : String) (v : α) : List (String × α) → List (String × α)
  | [] => [(k, v)]
  | (k', v') :: d => if k' = k then (k, v) :: d else (k', v') :: dictSet k v d

lemma lookup_cons_eq (k k' : String) (v : α) (d : List (String × α)) :
    ((k', v) :: d).lookup k = if k = k' then some v else d.lookup k := by
  simp only [List.lookup]
  split <;> simp_all

@[simp] lemma lookup_dictSet_self (k : String) (v : α) (d : List (String × α)) :
    (dictSet k v d).lookup k = some v := by
  induction d with
  | nil => simp [dictSet, lookup_cons_eq]
  | cons e d ih =>
    obtain ⟨k', v'⟩ := e
    by_cases h : k' = k
    · simp [dictSet, h, lookup_cons_eq]
    · simp [dictSet, h, lookup_cons_eq, ih, Ne.symm h]

lemma lookup_dictSet_of_ne {k j : String} (v : α) (d : List (String × α)) (h : j ≠ k) :
    (dictSet k v d).lookup j = d.lookup j := by
  induction d with
  | nil => simp [dictSet, lookup_cons_eq, h]
  | cons e d ih =>
    obtain ⟨k', v'⟩ := e
    by_cases hk : k' = k
    · subst hk; simp [dictSet, lookup_cons_eq, h]
    · simp [dictSet, hk, lookup_cons_eq, ih]

lemma keys_dictSet_of_mem {k : String} (v : α) {d : List (String × α)}
    (h : k ∈ d.map Prod.fst) : (dictSet k v d).map Prod.fst = d.map Prod.fst := by
  induction d with
  | nil => simp at h
  | cons e d ih =>
    obtain ⟨k', v'⟩ := e
    by_cases hk : k' = k
    · simp [dictSet, hk]
    · simp only [List.map_cons, List.mem_cons, Ne.symm hk, false_or] at h
      simp [dictSet, hk, ih h]

lemma keys_dictSet_of_not_mem {k : String} (v : α) {d : List (String × α)}
    (h : k ∉ d.map Prod.fst) : (dictSet k v d).map Prod.fst = d.map Prod.fst ++ [k] := by
  induction d with
  | nil => rfl
  | cons e d ih =>
    obtain ⟨k', v'⟩ := e
    simp only [List.map_cons, List.mem_cons, not_or] at h
    simp [dictSet, Ne.symm h.1, ih h.2]

lemma lookup_eq_none_iff {k : String} {d : List (String × α)} :
    d.lookup k = none ↔ k ∉ d.map Prod.fst := by
  induction d with
  | nil => simp
  | cons e d ih =>
    obtain ⟨k', v'⟩ := e
    by_cases h : k = k' <;> simp [lookup_cons_eq, h, ih]

lemma mem_keys_of_lookup_eq_some {k : String} {v : α} {d : List (String × α)}
    (h : d.lookup k = some v) : k ∈ d.map Prod.fst := by
  by_contra hn
  rw [lookup_eq_none_iff.2 hn] at h
  cases h

lemma mem_of_lookup_eq_some {k : String} {v : α} :
    ∀ {d : List (String × α)}, d.lookup k = some v → (k, v) ∈ d
  | [], h => by cases h
  | (k', v') :: d, h => by
    rw [lookup_cons_eq] at h
    split at h
    · cases h; simp_all
    · exact List.mem_cons_of_mem _ (mem_of_lookup_eq_some h)

lemma lookup_of_mem_nodup {k : String} {v : α} :
    ∀ {d : List (String × α)}, (d.map Prod.fst).Nodup → (k, v) ∈ d → d.lookup k = some v
  | [], _, h => by cases h
  | (k', v') :: d, hn, h => by
    rw [List.map_cons, List.nodup_cons] at hn
    rw [lookup_cons_eq]
    rcases List.mem_cons.1 h with h | h
    · cases h; simp
    · have hk : k ≠ k' := fun e => hn.1 (e ▸ List.mem_map.2 ⟨_, h, rfl⟩)
      rw [if_neg hk, lookup_of_mem_nodup hn.2 h]

lemma mem_dictSet {k : String} {v : α} {p : String × α} :
    ∀ {d : List (String × α)}, p ∈ dictSet k v d → p ∈ d ∨ p = (k, v)
  | [], h => by simp_all [dictSet]
  | (k', v') :: d, h => by
    unfold dictSet at h
    split at h
    · rcases List.mem_cons.1 h with h | h
      · exact .inr h
      · exact .inl (List.mem_cons_of_mem _ h)
    · rcases List.mem_cons.1 h with h | h
      · exact .inl (h ▸ List.mem_cons_self _ _)
      · exact (mem_dictSet h).imp_left (List.mem_cons_of_mem _)

end Dict

end ContextVisualizer
