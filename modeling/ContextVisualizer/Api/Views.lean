import ContextVisualizer.Python.Builtins

/-!
# The telemetry views

`get_topology`, `get_workers` and `get_system` (`context_visualizer/api/topology.py`,
`workers.py` and `system.py`), each a Flask view over one fetch from the telemetry client.

A fetch gives a `Snapshot`, the dict from container ids to the containers' reports, or fails
with an exception, of which the view keeps the text `str(exc)`. A view returns a `Reply`, or
raises; Flask answers a raised exception with status 500. The host name `get_topology` falls
back on is what `socket.gethostname()` returned.
-/

namespace ContextVisualizer

/-- What `chimaera_client.get_system_stats_all()` and `get_worker_stats()` return: a dict from
container ids to the containers' reports. -/
structure Snapshot where
  containers : List (String × Json)
  nodup : (containers.map Prod.fst).Nodup

/-- One fetch from the telemetry client: the snapshot, or the text of the exception raised. -/
abbrev Fetch := Except String Snapshot

/-- What a view hands back to Flask: `jsonify(body), status`. -/
structure Reply where
  body : Json
  status : Nat

variable (py : Runtime)

/-! ### `get_topology` -/

/-- The dict `nodes` of `get_topology`: identity key to the entry kept for it. -/
abbrev NodeTable := List (String × Entries)

/-- Lines 30-33: `str(node_id)`, or the container id when `node_id` is absent or `None`. -/
def nodeKey (cid : String) (entry : Entries) : String :=
  match entry.lookup "node_id" with
  | none | some .null => cid
  | some nid => pyStr py nid

/-- `entry.get("event_id", 0)`. -/
def eventId (entry : Entries) : Json := (entry.lookup "event_id").getD (.int 0)

/-- Lines 35-37: store `entry` under `key` unless the entry already stored there has an
`event_id` at least as large. -/
def keepLatest (nodes : NodeTable) (key : String) (entry : Entries) :
    Except PyError NodeTable :=
  match nodes.lookup key with
  | none => .ok (dictSet key entry nodes)
  | some prev => (pyGt (eventId entry) (eventId prev)).map fun newer =>
      if newer then dictSet key entry nodes else nodes

/-- Lines 26-37: one item of a container's list; items that are not dicts are skipped. -/
def absorbEntry (cid : String) (nodes : NodeTable) : Json → Except PyError NodeTable
  | .dict entry => keepLatest nodes (nodeKey py cid entry) entry
  | _ => .ok nodes

/-- Lines 23-37: one container's report; reports that are not lists are skipped. -/
def absorbReport (nodes : NodeTable) : String × Json → Except PyError NodeTable
  | (cid, .list entries) => entries.foldlM (absorbEntry py cid) nodes
  | _ => .ok nodes

/-- Lines 22-37: the reconciliation loop over the snapshot. -/
def latestNodes (raw : List (String × Json)) : Except PyError NodeTable :=
  raw.foldlM (absorbReport py) []

/-- Lines 45-53: `int(node_id)`; without a `node_id`, the key read as an int, or `0` when
`int()` raises `ValueError` or `TypeError` on it. -/
def nodeIdOf (key : String) (entry : Entries) : Except PyError Int :=
  match entry.lookup "node_id" with
  | none | some .null =>
    match toInt py (.str key) with
    | .ok n => .ok n
    | .error .valueError | .error .typeError => .ok 0
    | .error e => .error e
  | some raw => toInt py raw

/-- `entry.get(k, default)`. -/
def field (entry : Entries) (k : String) (default : Json) : Json :=
  (entry.lookup k).getD default

/-- Line 57: `entry.get("hostname") or local_hostname`. -/
def hostnameOr (host : String) (entry : Entries) : Json :=
  let h := field entry "hostname" .null
  if h.truthy then h else .str host

/-- Lines 57-63: the fields of a node after its `node_id`. -/
def nodeFields (host : String) (entry : Entries) : Entries :=
  [("hostname", hostnameOr host entry),
   ("ip_address", field entry "ip_address" (.str "")),
   ("cpu_usage_pct", field entry "cpu_usage_pct" (.int 0)),
   ("ram_usage_pct", field entry "ram_usage_pct" (.int 0)),
   ("gpu_count", field entry "gpu_count" (.int 0)),
   ("gpu_usage_pct", field entry "gpu_usage_pct" (.int 0)),
   ("hbm_usage_pct", field entry "hbm_usage_pct" (.int 0))]

/-- Lines 43-64: the node reported for one entry of `nodes`. -/
def nodeView (host : String) (node : String × Entries) : Except PyError Json :=
  (nodeIdOf py node.1 node.2).map fun nodeId =>
    .dict (("node_id", .int nodeId) :: nodeFields host node.2)

/-- The body of a successful `get_topology`. -/
def topologyBody (nodes : List Json) : Json := .dict [("nodes", .list nodes)]

/-- `GET /api/topology`. -/
def getTopology (host : String) : Fetch → Except PyError Reply
  | .error msg => .ok ⟨.dict [("error", .str msg)], 503⟩
  | .ok snap => do
    let nodes ← latestNodes py snap.containers
    let result ← nodes.mapM (nodeView py host)
    pure ⟨topologyBody result, 200⟩

/-! ### `get_workers` and `get_system` -/

/-- Lines 19-23 of `workers.py` and 36-40 of `system.py`: a list report contributes its items,
a dict report itself, and any other report nothing. -/
def reportWorkers : Json → List Json
  | .list xs => xs
  | .dict es => [.dict es]
  | _ => []

/-- The worker list both views build by `extend` and `append`. -/
def flattenWorkers (raw : List (String × Json)) : List Json :=
  raw.foldl (fun workers report => workers ++ reportWorkers report.2) []

/-- `GET /api/workers`. -/
def getWorkers : Fetch → Except PyError Reply
  | .error msg => .ok ⟨.dict [("error", .str msg)], 503⟩
  | .ok snap => do
    let workers := flattenWorkers snap.containers
    let queued ← sumField py "queued" workers
    let blocked ← sumField py "blocked" workers
    let processed ← sumField py "processed" workers
    pure ⟨.dict [("workers", .list workers),
      ("summary", .dict [("count", .int workers.length), ("queued", queued),
        ("blocked", blocked), ("processed", processed)])], 200⟩

/-- `GET /api/system`; `connected` is what `chimaera_client.is_connected()` answered. A failed
fetch reports that answer back, not `False`. -/
def getSystem (connected : Bool) : Fetch → Except PyError Reply
  | .error msg => .ok ⟨.dict [("connected", .bool connected), ("error", .str msg)], 503⟩
  | .ok snap => do
    let workers := flattenWorkers snap.containers
    let queued ← sumField py "queued" workers
    let blocked ← sumField py "blocked" workers
    let processed ← sumField py "processed" workers
    pure ⟨.dict [("connected", .bool true), ("workers", .int workers.length),
      ("queued", queued), ("blocked", blocked), ("processed", processed)], 200⟩

end ContextVisualizer
