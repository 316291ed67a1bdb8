import ContextVisualizer.Api.Views

/-!
# The configuration views

`get_config` and `get_pools` (`context_visualizer/api/config.py` and `pools.py`) both read the
runtime's YAML configuration through `_load_config`, which opens the first of three candidate
paths that is set and names a file. `None` from it, whether no candidate was usable or the file
held an empty document, is answered with 404 by both views (`not_found_iff`).

`get_pools` then lists the `compose` section: it answers 200 exactly when the configuration is a
mapping whose `compose` is missing, empty, or a list of mappings, and it then lists one pool per
entry, with the four fields of the entry or `""` (`getPools_ok_iff`). YAML documents are taken
to be values of `Json`: mappings with string keys.
-/

namespace ContextVisualizer

/-- What `_load_config` reads of its process. -/
structure Host where
  /-- `os.environ.get`. -/
  env : String → Option String
  /-- `str(Path.home() / ".chimaera" / "chimaera.yaml")`. -/
  homeConfig : String
  /-- `os.path.isfile`. -/
  isFile : String → Bool
  /-- `yaml.safe_load` of the opened file: the document, `None` for an empty one, or the
  exception raised. -/
  load : String → Except PyError Json

variable (host : Host)

/-! ### `_load_config` -/

/-- Lines 21-25: the paths tried, in the runtime's order. -/
def candidates : List (Option String) :=
  [host.env "CHI_SERVER_CONF", host.env "WRP_RUNTIME_CONF", some host.homeConfig]

/-- Lines 26-27: a candidate is used when it is set, non-empty and a file. -/
def usable : Option String → Bool
  | some path => path != "" && host.isFile path
  | none => false

/-- Lines 26-30: load the first usable candidate, or `None`. -/
def firstConfig : List (Option String) → Except PyError Json
  | [] => .ok .null
  | path :: rest => match path, usable host path with
    | some p, true => host.load p
    | _, _ => firstConfig rest

/-- `_load_config()`. -/
def loadConfig : Except PyError Json := firstConfig host (candidates host)

/-- The path `_load_config` opens, if any. -/
def configPath? : Option String := ((candidates host).find? (usable host)).join

lemma firstConfig_eq_find? (ps : List (Option String)) :
    firstConfig host ps = match (ps.find? (usable host)).join with
      | some p => host.load p
      | none => .ok .null := by
  induction ps with
  | nil => rfl
  | cons path rest ih =>
    cases path with
    | none => simp [firstConfig, usable, ih]
    | some p => cases hp : usable host (some p) <;> simp [firstConfig, hp, ih]

/-- `_load_config` loads the first usable candidate, and answers `None` without one. -/
lemma loadConfig_eq : loadConfig host = match configPath? host with
    | some p => host.load p
    | none => .ok .null :=
  firstConfig_eq_find? host _

/-- `_load_config` answers `None` when no candidate is usable or the first usable one holds an
empty document. -/
lemma loadConfig_eq_null_iff : loadConfig host = .ok .null ↔
    configPath? host = none ∨ ∃ p, configPath? host = some p ∧ host.load p = .ok .null := by
  rw [loadConfig_eq]
  cases configPath? host <;> simp

/-! ### The views -/

/-- `GET /api/config`. -/
def getConfig : Except PyError Reply := do
  let cfg ← loadConfig host
  if cfg = .null then
    pure ⟨.dict [("error", .str "no config file found"), ("searched", .list
      [.str "CHI_SERVER_CONF", .str "WRP_RUNTIME_CONF", .str "~/.chimaera/chimaera.yaml"])], 404⟩
  else pure ⟨.dict [("config", cfg)], 200⟩

/-- Line 16: `cfg.get("compose", []) or []`. -/
def composeOf (cfg : Json) : Except PyError Json := do
  let compose ← cfg.get "compose" (.list [])
  pure (if compose.truthy then compose else .list [])

/-- `for entry in compose`: the items iterating a value yields; a dict yields its keys and a
string its characters. -/
def pyIter : Json → Except PyError (List Json)
  | .list xs => .ok xs
  | .dict es => .ok (es.map fun e => .str e.1)
  | .str s => .ok (s.data.map fun c => .str (String.singleton c))
  | _ => .error .typeError

/-- Lines 19-24: one pool. -/
def poolView (entry : Json) : Except PyError Json := do
  pure (.dict [("mod_name", ← entry.get "mod_name" (.str "")),
    ("pool_name", ← entry.get "pool_name" (.str "")),
    ("pool_id", ← entry.get "pool_id" (.str "")),
    ("pool_query", ← entry.get "pool_query" (.str ""))])

/-- Lines 16-26: the pools of a loaded configuration. -/
def poolsReply (cfg : Json) : Except PyError Reply := do
  let entries ← pyIter (← composeOf cfg)
  let pools ← entries.mapM poolView
  pure ⟨.dict [("pools", .list pools)], 200⟩

/-- `GET /api/pools`. -/
def getPools : Except PyError Reply := do
  let cfg ← loadConfig host
  if cfg = .null then pure ⟨.dict [("error", .str "config not found")], 404⟩
  else poolsReply cfg

/-! ### Not found -/

lemma poolsReply_status {cfg : Json} {r : Reply} (h : poolsReply cfg = .ok r) :
    r.status = 200 := by
  obtain ⟨_, -, h⟩ := bind_eq_ok.1 h
  obtain ⟨_, -, h⟩ := bind_eq_ok.1 h
  obtain ⟨_, -, h⟩ := bind_eq_ok.1 h
  cases h
  rfl

/-- Both views answer 404 exactly when no candidate is usable or the first usable one holds an
empty document; an existing configuration file can thus be reported as not found. -/
lemma not_found_iff :
    ((∃ b, getPools host = .ok ⟨b, 404⟩) ↔ configPath? host = none ∨
      ∃ p, configPath? host = some p ∧ host.load p = .ok .null) ∧
    ((∃ b, getConfig host = .ok ⟨b, 404⟩) ↔ configPath? host = none ∨
      ∃ p, configPath? host = some p ∧ host.load p = .ok .null) := by
  rw [← loadConfig_eq_null_iff]
  cases hl : loadConfig host with
  | error e => simp [getPools, getConfig, hl]
  | ok cfg =>
    by_cases hc : cfg = .null
    · subst hc
      simp [getPools, getConfig, hl]
    · simp only [getPools, getConfig, hl, ok_bind, if_neg hc, Except.ok.injEq, hc, iff_false]
      exact ⟨fun ⟨b, hb⟩ => by simpa using poolsReply_status hb, by simp⟩

/-! ### The pools listed -/

/-- The pool listed for a compose entry that is a mapping. -/
def poolRecord (entry : Entries) : Json :=
  .dict [("mod_name", field entry "mod_name" (.str "")),
    ("pool_name", field entry "pool_name" (.str "")),
    ("pool_id", field entry "pool_id" (.str "")),
    ("pool_query", field entry "pool_query" (.str ""))]

lemma poolView_dict (entry : Entries) : poolView (.dict entry) = .ok (poolRecord entry) := rfl

lemma isDict_of_poolView {x y : Json} (h : poolView x = .ok y) : x.isDict := by
  obtain ⟨_, hx, -⟩ := bind_eq_ok.1 h
  exact Json.isDict_of_get hx

lemma mapM_poolView :
    ∀ xs : List Entries, (xs.map Json.dict).mapM poolView = .ok (xs.map poolRecord)
  | [] => rfl
  | e :: xs => by
    rw [List.map_cons, List.mapM_cons, poolView_dict, ok_bind, mapM_poolView xs]
    rfl

lemma eq_map_dict_of_isDict : ∀ {xs : List Json}, (∀ x ∈ xs, x.isDict) →
    xs = (xs.filterMap Json.dict?).map Json.dict
  | [], _ => rfl
  | x :: xs, h => by
    simp only [List.mem_cons, forall_eq_or_imp] at h
    cases x <;> simp_all [Json.isDict, Json.dict?, ← eq_map_dict_of_isDict h.2]

/-- What `or []` lets through is truthy or the empty list; iterating it gives only mappings
when it is a list. -/
lemma eq_list_of_pyIter {c : Json} {xs : List Json} (hc : c.truthy ∨ c = .list [])
    (hi : pyIter c = .ok xs) (hd : ∀ x ∈ xs, x.isDict) : c = .list xs := by
  cases c with
  | list ys => cases hi; rfl
  | dict es =>
    cases es with
    | nil => simp [Json.truthy] at hc
    | cons e es => cases hi; simp [Json.isDict] at hd
  | str s =>
    obtain ⟨cs⟩ := s
    cases cs with
    | nil => exact absurd hc (by decide)
    | cons ch cs => cases hi; simp [Json.isDict] at hd
  | _ => cases hi

lemma composeOf_eq_ok {cfg c : Json} (h : composeOf cfg = .ok c) :
    ∃ es, cfg = .dict es ∧ (c.truthy ∨ c = .list []) := by
  obtain ⟨c', hc', h⟩ := bind_eq_ok.1 h
  cases cfg <;> try cases hc'
  refine ⟨_, rfl, ?_⟩
  cases h
  split <;> simp_all

/-- The pools of a configuration: a mapping whose `compose` is a list of mappings, listed one
pool per entry. -/
lemma poolsReply_eq_ok {cfg body : Json} : poolsReply cfg = .ok ⟨body, 200⟩ ↔
    ∃ (es : Entries) (xs : List Entries), cfg = .dict es ∧
      composeOf (.dict es) = .ok (.list (xs.map Json.dict)) ∧
      body = .dict [("pools", .list (xs.map poolRecord))] := by
  constructor
  · intro h
    obtain ⟨c, hc, h⟩ := bind_eq_ok.1 h
    obtain ⟨entries, hi, h⟩ := bind_eq_ok.1 h
    obtain ⟨pools, hp, h⟩ := bind_eq_ok.1 h
    obtain ⟨es, rfl, htr⟩ := composeOf_eq_ok hc
    have hd : ∀ x ∈ entries, x.isDict := fun x hx =>
      let ⟨_, hy⟩ := ok_of_mapM_eq_ok hp x hx
      isDict_of_poolView hy
    have hxs := eq_map_dict_of_isDict hd
    rw [hxs, mapM_poolView] at hp
    cases hp
    cases h
    exact ⟨es, _, rfl, by rw [hc, eq_list_of_pyIter htr hi hd, ← hxs], rfl⟩
  · rintro ⟨es, xs, rfl, hc, rfl⟩
    simp only [poolsReply, hc, ok_bind, pyIter, mapM_poolView]
    rfl

/-- `get_pools` answers 200 exactly when the configuration is a mapping whose `compose` is
missing, empty, or a list of mappings; it then lists one pool per entry, in order. -/
theorem getPools_ok_iff {body : Json} : getPools host = .ok ⟨body, 200⟩ ↔
    ∃ (es : Entries) (xs : List Entries), loadConfig host = .ok (.dict es) ∧
      composeOf (.dict es) = .ok (.list (xs.map Json.dict)) ∧
      body = .dict [("pools", .list (xs.map poolRecord))] := by
  rw [getPools, bind_eq_ok]
  constructor
  · rintro ⟨cfg, hl, h⟩
    split at h
    · cases h
    · obtain ⟨es, xs, rfl, hc, hb⟩ := poolsReply_eq_ok.1 h
      exact ⟨es, xs, hl, hc, hb⟩
  · rintro ⟨es, xs, hl, hc, hb⟩
    refine ⟨_, hl, ?_⟩
    rw [if_neg Json.noConfusion]
    exact poolsReply_eq_ok.2 ⟨es, xs, rfl, hc, hb⟩

end ContextVisualizer
