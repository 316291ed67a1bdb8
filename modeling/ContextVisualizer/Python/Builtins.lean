import ContextVisualizer.Python.Float

/-!
# The builtins the endpoints call

`str`, `int`, `==`, `>` and `sum`, as CPython evaluates them on the values of `Json`.

Four parts of CPython are long algorithms or tables and are not spelled out here: the text
`repr` gives a float, a list or a dict; the Unicode database `int()` consults for characters
beyond ASCII; `float()` of an int; and the rounding of float addition. They are the fields of
`Runtime`, and every theorem of the development holds for every runtime; a theorem that needs
`float()` to answer where CPython's does says so (`Runtime.FloatOfIntInRange`). Resource limits
of the interpreter (memory, recursion depth, the digit limit on int and str conversions) are not
modelled.
-/

namespace ContextVisualizer

/-- The parts of CPython the endpoints rely on that this model takes as given. -/
structure Runtime where
  /-- `repr` of a float, a list or a dict, which is what `str` returns for them. -/
  repr : Json → String
  /-- `Py_UNICODE_TODECIMAL` on a character from U+007F on. -/
  decimal : Char → Option (Fin 10)
  /-- `Py_UNICODE_ISSPACE` on a character from U+007F on. -/
  isSpace : Char → Bool
  /-- `float(n)`, or `OverflowError` when `n` is beyond the float range. -/
  floatOfInt : Int → Except PyError PyFloat
  /-- Float addition as `sum` performs it. -/
  floatAdd : PyFloat → PyFloat → PyFloat

/-- `float(n)` answers on every int of magnitude below `2 ^ 1024 - 2 ^ 970`, as CPython's does
(`longAsDouble_ok`). -/
def Runtime.FloatOfIntInRange (py : Runtime) : Prop :=
  ∀ n : Int, n.natAbs < floatLimit → ∃ x, py.floatOfInt n = .ok x

/-- A runtime for evaluating the model on concrete inputs: no Unicode digits or spaces beyond
ASCII, `repr` left blank, `float()` of an int as CPython computes it, and float addition that
keeps its left operand in place of the rounded sum. -/
def sampleRuntime : Runtime where
  repr _ := ""
  decimal _ := none
  isSpace _ := false
  floatOfInt := longAsDouble
  floatAdd x _ := x

lemma sampleRuntime_floatOfIntInRange : sampleRuntime.FloatOfIntInRange :=
  fun _ h => longAsDouble_ok h

variable (py : Runtime)

/-! ### `str` -/

/-- `str(v)`. -/
def pyStr : Json → String
  | .null => "None"
  | .bool b => if b then "True" else "False"
  | .int n => toString n
  | .str s => s
  | v => py.repr v

@[simp] lemma pyStr_int (n : Int) : pyStr py (.int n) = toString n := rfl

@[simp] lemma pyStr_str (s : String) : pyStr py (.str s) = s := rfl

/-! ### `int` -/

/-- ASCII whitespace as `Py_ISSPACE` tests it. -/
def isAsciiSpace (c : Char) : Bool :=
  c = ' ' || c = '\t' || c = '\n' || c = '\r' || c.toNat = 11 || c.toNat = 12

/-- `_PyUnicode_TransformDecimalAndSpaceToASCII` on one character: Unicode spaces become
`' '`, Unicode digits their ASCII digit, any other non-ASCII character `'?'`. -/
def toAscii (c : Char) : Char :=
  if c.toNat < 127 then c
  else if py.isSpace c then ' '
  else match py.decimal c with
    | some d => Char.ofNat (48 + d)
    | none => '?'

/-- A run of decimal digits with single underscores between them, as `PyLong_FromString` reads
it: the value, and the text after the run. -/
def digitRun : Nat → List Char → Nat × List Char
  | acc, [] => (acc, [])
  | acc, c :: cs =>
    if c.isDigit then digitRun (10 * acc + (c.toNat - 48)) cs
    else if c = '_' then
      match cs with
      | d :: ds => if d.isDigit then digitRun (10 * acc + (d.toNat - 48)) ds else (acc, c :: cs)
      | [] => (acc, c :: cs)
    else (acc, c :: cs)

/-- An unsigned base-10 literal, surrounded by nothing but trailing whitespace. -/
def parseUnsigned : List Char → Option Nat
  | d :: ds =>
    if d.isDigit then
      let (v, rest) := digitRun (d.toNat - 48) ds
      if rest.all isAsciiSpace then some v else none
    else none
  | [] => none

/-- `int(s)` on ASCII text: whitespace, an optional sign, then an unsigned literal. -/
def parseInt (cs : List Char) : Option Int :=
  match cs.dropWhile isAsciiSpace with
  | '-' :: r => (parseUnsigned r).map fun v => -(v : Int)
  | '+' :: r => (parseUnsigned r).map Int.ofNat
  | r => (parseUnsigned r).map Int.ofNat

example : parseInt " -1_000\n".data = some (-1000) := by decide
example : parseInt "1__0".data = none := by decide

/-- `int(s)` for a `str` argument: the text is first brought to ASCII. -/
def intOfStr (s : String) : Option Int :=
  parseInt (s.data.map (toAscii py))

/-- `int(x)` of a finite float `m * 2 ^ e`, which rounds toward zero. -/
def truncate (m e : Int) : Int :=
  if 0 ≤ e then m * 2 ^ e.toNat else m.sign * ((m.natAbs / 2 ^ (-e).toNat : Nat) : Int)

/-- `int(v)`. -/
def toInt : Json → Except PyError Int
  | .bool b => .ok (if b then 1 else 0)
  | .int n => .ok n
  | .float x => match x.value with
    | .finite m e => .ok (truncate m e)
    | .inf _ => .error .overflowError
    | .nan => .error .valueError
  | .str s => match intOfStr py s with
    | some n => .ok n
    | none => .error .valueError
  | _ => .error .typeError

@[simp] lemma toInt_int (n : Int) : toInt py (.int n) = .ok n := rfl

/-! ### The decimal text of an int reads back as the int -/

/-- One more decimal digit on the right of `acc`. -/
def digitStep (acc : Nat) (c : Char) : Nat := 10 * acc + (c.toNat - 48)

lemma digitChar_spec :
    ∀ d < 10, (Nat.digitChar d).isDigit ∧ (Nat.digitChar d).toNat - 48 = d := by
  decide

lemma digitRun_of_digits (acc : Nat) (ds : List Char) (h : ∀ c ∈ ds, c.isDigit) :
    digitRun acc ds = (ds.foldl digitStep acc, []) := by
  induction ds generalizing acc with
  | nil => rfl
  | cons c cs ih =>
    simp only [List.mem_cons, forall_eq_or_imp] at h
    rw [digitRun.eq_def]
    simp only [h.1, if_true, List.foldl_cons]
    exact ih _ h.2

/-- `Nat.toDigits` writes the digits of `n` in front of `ds`. -/
lemma toDigitsCore_spec (fuel n : Nat) (ds : List Char) (hn : n < fuel) :
    (∀ c ∈ Nat.toDigitsCore 10 fuel n ds, c.isDigit ∨ c ∈ ds) ∧
      (Nat.toDigitsCore 10 fuel n ds).foldl digitStep 0 = ds.foldl digitStep n ∧
      Nat.toDigitsCore 10 fuel n ds ≠ [] := by
  induction fuel generalizing n ds with
  | zero => omega
  | succ f ih =>
    obtain ⟨hd, hv⟩ := digitChar_spec (n % 10) (Nat.mod_lt _ (by decide))
    simp only [Nat.toDigitsCore]
    split
    · refine ⟨?_, ?_, List.cons_ne_nil _ _⟩
      · simp only [List.mem_cons, forall_eq_or_imp]
        exact ⟨Or.inl hd, fun c hc => Or.inr hc⟩
      · simp only [List.foldl_cons, digitStep, hv]
        congr 1
        omega
    · obtain ⟨h1, h2, h3⟩ := ih (n / 10) (Nat.digitChar (n % 10) :: ds) (by omega)
      refine ⟨fun c hc => ?_, ?_, h3⟩
      · rcases h1 c hc with h | h
        · exact Or.inl h
        · simp only [List.mem_cons] at h
          rcases h with rfl | h
          · exact Or.inl hd
          · exact Or.inr h
      · rw [h2, List.foldl_cons, digitStep, hv]
        congr 1
        omega

lemma isDigit_iff (c : Char) : c.isDigit = true ↔ 48 ≤ c.toNat ∧ c.toNat ≤ 57 := by
  simp only [Char.isDigit, Bool.and_eq_true, decide_eq_true_eq, Char.toNat, UInt32.le_def,
    ge_iff_le]
  simp [BitVec.le_def, UInt32.toNat]

lemma isAsciiSpace_of_isDigit {c : Char} (h : c.isDigit) : isAsciiSpace c = false := by
  rw [isDigit_iff] at h
  have : c ≠ ' ' ∧ c ≠ '\t' ∧ c ≠ '\n' ∧ c ≠ '\r' := by
    refine ⟨?_, ?_, ?_, ?_⟩ <;> rintro rfl <;> simp at h
  simp [isAsciiSpace, this]
  omega

/-- The digits of `toString m`, with nothing around them, parse as `m`. -/
lemma toDigits_parse (m : Nat) : ∃ d ds, Nat.toDigits 10 m = d :: ds ∧ d.isDigit ∧
    (∀ c ∈ ds, c.isDigit) ∧ parseUnsigned (d :: ds) = some m := by
  obtain ⟨hall, hval, hne⟩ := toDigitsCore_spec (m + 1) m [] (Nat.lt_succ_self m)
  simp only [List.not_mem_nil, or_false] at hall
  unfold Nat.toDigits
  generalize Nat.toDigitsCore 10 (m + 1) m [] = ds at hall hval hne
  obtain _ | ⟨d, ds⟩ := ds
  · exact absurd rfl hne
  · simp only [List.mem_cons, forall_eq_or_imp] at hall
    simp only [List.foldl_cons, List.foldl_nil] at hval
    refine ⟨d, ds, rfl, hall.1, hall.2, ?_⟩
    simp [parseUnsigned, hall.1, digitRun_of_digits _ ds hall.2, digitStep, ← hval]

lemma map_toAscii_of_digits (cs : List Char) (h : ∀ c ∈ cs, c.isDigit) :
    cs.map (toAscii py) = cs := by
  induction cs with
  | nil => rfl
  | cons c cs ih =>
    simp only [List.mem_cons, forall_eq_or_imp] at h
    have hc := (isDigit_iff c).1 h.1
    simp [toAscii, show c.toNat < 127 by omega, ih h.2]

lemma parseInt_of_isDigit {d : Char} (ds : List Char) (hd : d.isDigit) :
    parseInt (d :: ds) = (parseUnsigned (d :: ds)).map Int.ofNat := by
  rw [parseInt, List.dropWhile_cons_of_neg (by simp [isAsciiSpace_of_isDigit hd])]
  split <;> simp_all

/-- Python reads `str(n)` back as `n`: the node id a key was printed from is the key's
`int()`. -/
theorem intOfStr_toString (n : Int) : intOfStr py (toString n) = some n := by
  cases n with
  | ofNat m =>
    obtain ⟨d, ds, hm, hd, hds, hp⟩ := toDigits_parse m
    have hall : ∀ c ∈ d :: ds, c.isDigit := by simpa using ⟨hd, hds⟩
    show parseInt ((Nat.toDigits 10 m).map (toAscii py)) = _
    rw [hm, map_toAscii_of_digits py _ hall, parseInt_of_isDigit _ hd, hp]
    rfl
  | negSucc m =>
    obtain ⟨d, ds, hm, hd, hds, hp⟩ := toDigits_parse (m + 1)
    have hall : ∀ c ∈ d :: ds, c.isDigit := by simpa using ⟨hd, hds⟩
    show parseInt (('-' :: Nat.toDigits 10 (m + 1)).map (toAscii py)) = _
    rw [hm, List.map_cons, map_toAscii_of_digits py _ hall]
    simp [parseInt, isAsciiSpace, toAscii, hp, Int.negSucc_eq]

/-! ### `==` and `>` -/

namespace FloatValue

/-- `a * 2 ^ e < b * 2 ^ f`, exactly. -/
def dyadicLt (a e b f : Int) : Bool :=
  if e ≤ f then a < b * 2 ^ (f - e).toNat else a * 2 ^ (e - f).toNat < b

/-- `a * 2 ^ e = b * 2 ^ f`, exactly. -/
def dyadicEq (a e b f : Int) : Bool :=
  if e ≤ f then a = b * 2 ^ (f - e).toNat else a * 2 ^ (e - f).toNat = b

/-- Python's `x > y` between numbers: exact, and false when either side is NaN. -/
def gt : FloatValue → FloatValue → Bool
  | .finite a e, .finite b f => dyadicLt b f a e
  | .inf n, .finite _ _ => !n
  | .finite _ _, .inf n => n
  | .inf n, .inf n' => !n && n'
  | _, _ => false

/-- Python's `x == y` between numbers. -/
def eq : FloatValue → FloatValue → Bool
  | .finite a e, .finite b f => dyadicEq a e b f
  | .inf n, .inf n' => n == n'
  | _, _ => false

end FloatValue

/-- The value a bool, an int or a float has in a comparison. -/
def Json.numValue? : Json → Option FloatValue
  | .bool b => some (.finite (if b then 1 else 0) 0)
  | .int n => some (.finite n 0)
  | .float x => some x.value
  | _ => none

mutual

/-- Python's `a == b`. Inside containers CPython first tests identity; that shortcut, which
only matters for NaN, is not modelled. -/
def pyEq : Json → Json → Bool
  | .null, .null => true
  | .str s, .str t => s == t
  | .list xs, .list ys => listEq xs ys
  | .dict es, .dict fs => es.length == fs.length && dictEq es fs
  | a, b => match a.numValue?, b.numValue? with
    | some x, some y => x.eq y
    | _, _ => false

/-- `==` on lists: same length, equal items. -/
def listEq : List Json → List Json → Bool
  | [], [] => true
  | x :: xs, y :: ys => pyEq x y && listEq xs ys
  | _, _ => false

/-- Every entry of the first dict is in the second, with an equal value. -/
def dictEq : Entries → Entries → Bool
  | [], _ => true
  | (k, v) :: es, fs =>
    (match fs.lookup k with
      | some w => pyEq v w
      | none => false) && dictEq es fs

end

/-- Python's `s < t` on strings: code points compared from the left, a proper prefix first. -/
def strLt : List Char → List Char → Bool
  | [], [] => false
  | [], _ :: _ => true
  | _ :: _, [] => false
  | a :: as, b :: bs => if a = b then strLt as bs else decide (a.toNat < b.toNat)

mutual

/-- Python's `a > b`: numbers by value, strings by code points, lists item by item; any other
pair raises `TypeError`. -/
def pyGt : Json → Json → Except PyError Bool
  | .str s, .str t => .ok (strLt t.data s.data)
  | .list xs, .list ys => listGt xs ys
  | a, b => match a.numValue?, b.numValue? with
    | some x, some y => .ok (x.gt y)
    | _, _ => .error .typeError

/-- `>` on lists: the first pair of unequal items decides, else the longer list is greater. -/
def listGt : List Json → List Json → Except PyError Bool
  | x :: xs, y :: ys => if pyEq x y then listGt xs ys else pyGt x y
  | _ :: _, [] => .ok true
  | [], _ => .ok false

end

@[simp] lemma pyGt_int (a b : Int) : pyGt (.int a) (.int b) = .ok (decide (b < a)) := by
  simp [pyGt, Json.numValue?, FloatValue.gt, FloatValue.dyadicLt]

/-- Numbers are always comparable: `>` between two of them never raises. -/
lemma pyGt_of_numValue {a b : Json} {x y : FloatValue} (ha : a.numValue? = some x)
    (hb : b.numValue? = some y) : pyGt a b = .ok (x.gt y) := by
  cases a <;> cases b <;> simp_all [Json.numValue?, pyGt]

example : pyGt (.list [.int 1, .str "b"]) (.list [.int 1, .str "a"]) = .ok true := rfl
example : pyGt .null (.int 0) = .error .typeError := rfl

/-! ### `sum` -/

/-- The int a bool or an int counts for in arithmetic. -/
def Json.intValue? : Json → Option Int
  | .bool b => some (if b then 1 else 0)
  | .int n => some n
  | _ => none

/-- The running value of `sum(...)`: an int from the start value `0` until a float joins. -/
inductive Total where
  | int (n : Int)
  | float (x : PyFloat)

/-- The number a total is. -/
def Total.toJson : Total → Json
  | .int n => .int n
  | .float x => .float x

/-- One addition of `sum`: `TypeError` unless the item is a number. -/
def Total.add : Total → Json → Except PyError Total
  | .int a, v => match v.intValue?, v with
    | some b, _ => .ok (.int (a + b))
    | none, .float y => (py.floatOfInt a).map fun x => .float (py.floatAdd x y)
    | none, _ => .error .typeError
  | .float x, v => match v.intValue?, v with
    | some b, _ => (py.floatOfInt b).map fun y => .float (py.floatAdd x y)
    | none, .float y => .ok (.float (py.floatAdd x y))
    | none, _ => .error .typeError

/-- `sum(w.get(k, 0) for w in workers)`: the items are fetched and added one at a time. -/
def sumField (k : String) (workers : List Json) : Except PyError Json :=
  Total.toJson <$> workers.foldlM (fun acc w => do Total.add py acc (← w.get k (.int 0))) (.int 0)

example : sumField sampleRuntime "queued" [.dict [("queued", .int 2)], .dict []] = .ok (.int 2) :=
  rfl

end ContextVisualizer
