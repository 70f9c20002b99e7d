import Hpc.Cli.Client

set_option autoImplicit false

namespace Hpc.Cli

open Hpc.Core Hpc.Daemon Hpc.Lib Hpc.Monitor

def roleText : NodeRole → String
  | .unspecified => "unspecified"
  | .storage => "storage"
  | .compute => "compute"
  | .metadata => "metadata"
  | .gateway => "gateway"

-- A registered node is shown as healthy.
def statusCell : NodeStatus → String
  | .healthy | .registered => "healthy"
  | .degraded => "degraded"
  | .unreachable => "unreachable"
  | .draining => "draining"

structure NodeRow where
  node : String
  role : String
  status : String
  cpu : String
  mem : String
  disk : String
  lastSeen : String
deriving DecidableEq

inductive NodeList where
  | noNodes
  | table (rows : List NodeRow) (status : ClusterStatus)

section List

variable {F Bytes : Type} [F64Text F]

-- f64::max, which takes the other one for a number that is none.
def f64Max (a b : F) : F := if F64.ge a b then a else if F64.ge b b then b else a

def percent (x : F) : String := F64Text.fixed 0 x ++ "%"

def nodeRow (now : UInt64) (n : NodeRecord F) : NodeRow :=
  let (cpu, mem, disk) := match n.latestMetrics with
    | some m =>
        let disk := (m.disks.map DiskMetrics.usedFraction).foldl f64Max (F64.ofU64 0)
        (percent m.cpu.usagePercent, percent (F64Text.mul (m.memory.usedFraction : F) (F64.ofU64 100)),
          percent (F64Text.mul disk (F64.ofU64 100)))
    | none => ("-", "-", "-")
  ⟨n.info.nodeId, roleText n.info.role, statusCell n.status, cpu, mem, disk,
    toString (saturatingSub now n.lastSeenUnix).toNat ++ "s ago"⟩

-- The two requests are answered one after the other, and the daemon does not stand still between them.
def nodeList (serde : SerdeF64 F) (text : Json F → String) (api : ApiClient) (daemon : Instance) (serverTime now : UInt64)
    (first second : SharedState F Bytes) : Except ClientError NodeList := do
  let nodes ← fetchNodes text api serde first
  let status ← fetchClusterStatus text api daemon serverTime second
  if nodes.isEmpty then return .noNodes
  else return .table (nodes.map (nodeRow now)) status

end List

section Counting

variable {F Bytes : Type}

theorem status_cell_healthy (status : NodeStatus) : statusCell status = "healthy" ↔ status ∈ [.healthy, .registered] := by
  cases status <;> decide

theorem status_cell_degraded (status : NodeStatus) : statusCell status = "degraded" ↔ status ∈ [NodeStatus.degraded] := by
  cases status <;> decide

theorem status_cell_unreachable (status : NodeStatus) :
    statusCell status = "unreachable" ↔ status ∈ [NodeStatus.unreachable] := by
  cases status <;> decide

theorem standing_map (nodes loaded : List (NodeRecord F)) (same : loaded.map NodeRecord.status = nodes.map NodeRecord.status)
    (statuses : List NodeStatus) : standing loaded statuses = standing nodes statuses := by
  have counted (list : List (NodeRecord F)) :
      standing list statuses = (list.map NodeRecord.status).countP fun status => decide (status ∈ statuses) := by
    rw [standing, List.countP_map]
    rfl
  rw [counted, counted, same]

theorem list_nodes_length (state : SharedState F Bytes) : (listNodes state).length = state.nodes.size := by
  have same : (listNodes state).Perm (values state.nodes) := List.mergeSort_perm _ _
  rw [same.length_eq, values, List.length_map, Std.ExtTreeMap.length_toList]

theorem list_nodes_listed (state : SharedState F Bytes)
    (keyed : SelfKeyed (fun record : NodeRecord F => record.info.nodeId) state.nodes) (id : NodeId) :
    id ∈ (listNodes state).map (·.info.nodeId) ↔ state.nodes.contains id = true := by
  have same : (listNodes state).Perm (values state.nodes) := List.mergeSort_perm _ _
  rw [(same.map _).mem_iff, Std.ExtTreeMap.contains_eq_isSome_getElem?, Option.isSome_iff_exists, List.mem_map]
  apply Iff.intro
  · rintro ⟨record, member, rfl⟩
    obtain ⟨key, found⟩ := (mem_values state.nodes record).mp member
    have own : record.info.nodeId = key := keyed key record found
    exact ⟨record, by rw [own]; exact found⟩
  · rintro ⟨record, found⟩
    exact ⟨record, (mem_values state.nodes record).mpr ⟨id, found⟩, keyed id record found⟩

theorem fetch_cluster_status (text : Json F → String) (api : ApiClient) (daemon : Instance) (now : UInt64)
    (state : SharedState F Bytes) :
    fetchClusterStatus text api daemon now state =
      .ok ⟨(listNodes state).length, standing (listNodes state) [.healthy, .registered],
        standing (listNodes state) [.degraded], standing (listNodes state) [.unreachable], state.channels.size⟩ := by
  rw [fetchClusterStatus, decode, read_cluster_status, clusterStatus, tallyNodes, tally_fold]
  simp [Except.mapError]

end Counting

section Shown

variable {F Bytes : Type} [F64Text F] (serde : SerdeF64 F)

def shows (statuses : List String) (rows : List NodeRow) : Nat := rows.countP fun row => decide (row.status ∈ statuses)

structure ShowsCluster (now : UInt64) (first second : NodeTable F) (rows : List NodeRow) (status : ClusterStatus) : Prop where
  ascending : (rows.map NodeRow.node).Pairwise (· < ·)
  listed : ∀ id : NodeId, id ∈ rows.map NodeRow.node ↔ first.contains id = true
  shown : ∀ (id : NodeId) (record : NodeRecord F), first[id]? = some record →
    ∃ loaded, record.traverse serde.reread = .ok loaded ∧ loaded.erase = record.erase ∧ nodeRow now loaded ∈ rows
  total : status.totalNodes = second.size ∧ status.healthy + status.degraded + status.unreachable = status.totalNodes
  counted : first = second → status.totalNodes = rows.length ∧ status.healthy = shows ["healthy"] rows ∧
    status.degraded = shows ["degraded"] rows ∧ status.unreachable = shows ["unreachable"] rows

theorem shows_standing (now : UInt64) (nodes : List (NodeRecord F)) (text : String) (statuses : List NodeStatus)
    (told : ∀ status, statusCell status = text ↔ status ∈ statuses) :
    shows [text] (nodes.map (nodeRow now)) = standing nodes statuses := by
  rw [shows, standing, List.countP_map]
  apply List.countP_congr
  intro node _
  have cell : (nodeRow now node).status = statusCell node.status := rfl
  simp [cell, told node.status]

theorem fetch_nodes (text : Json F → String) (api : ApiClient) (state : SharedState F Bytes) :
    fetchNodes text api serde state = ((listNodes state).mapM fun record : NodeRecord F => record.traverse serde.reread).mapError
      (.undecodable ("decoding response from " ++ api.url "/api/v1/nodes")) := by
  rw [fetchNodes, decode, scrape_list]

theorem loaded_same (nodes loaded : List (NodeRecord F))
    (came : nodes.mapM (fun record : NodeRecord F => record.traverse serde.reread) = .ok loaded) :
    loaded.map (·.info.nodeId) = nodes.map (·.info.nodeId) ∧ loaded.map NodeRecord.status = nodes.map NodeRecord.status := by
  apply And.intro
  · exact mapM_observe _ _ _ (fun record after made => congrArg (fun blank : NodeRecord Unit => blank.info.nodeId)
      (record_traverse_erase serde.reread record after made)) nodes loaded came
  · exact mapM_observe _ _ _ (fun record after made => congrArg (NodeRecord.status (F := Unit))
      (record_traverse_erase serde.reread record after made)) nodes loaded came

theorem list_shows (now : UInt64) (first second : SharedState F Bytes)
    (keyed : SelfKeyed (fun record : NodeRecord F => record.info.nodeId) first.nodes)
    (serving : ∀ node ∈ listNodes second, node.status ≠ .draining) (loaded : List (NodeRecord F))
    (came : (listNodes first).mapM (fun record : NodeRecord F => record.traverse serde.reread) = .ok loaded) :
    ShowsCluster serde now first.nodes second.nodes (loaded.map (nodeRow now))
      ⟨(listNodes second).length, standing (listNodes second) [.healthy, .registered], standing (listNodes second) [.degraded],
        standing (listNodes second) [.unreachable], second.channels.size⟩ := by
  obtain ⟨ids, statuses⟩ := loaded_same serde (listNodes first) loaded came
  have named : (loaded.map (nodeRow now)).map NodeRow.node = (listNodes first).map (·.info.nodeId) := by
    rw [← ids, List.map_map]
    rfl
  refine ⟨?ascending, ?listed, ?shown, ⟨list_nodes_length second, standing_total _ serving⟩, ?counted⟩
  case ascending =>
    rw [named]
    exact (sorted_values (fun record : NodeRecord F => record.info.nodeId) first.nodes keyed _ (List.Perm.refl _)).2
  case listed =>
    intro id
    rw [named]
    exact list_nodes_listed first keyed id
  case shown =>
    intro id record found
    have same : (listNodes first).Perm (values first.nodes) := List.mergeSort_perm _ _
    have member : record ∈ listNodes first := same.mem_iff.mpr ((mem_values first.nodes record).mpr ⟨id, found⟩)
    obtain ⟨after, there, made⟩ := related_mem (fun after record => NodeRecord.traverse serde.reread record = .ok after)
      _ _ ((mapM_ok_iff _ _ _).mp came).flip record member
    exact ⟨after, made, record_traverse_erase serde.reread record after made, List.mem_map_of_mem there⟩
  case counted =>
    intro still
    have same : listNodes second = listNodes first := by rw [listNodes, listNodes, still]
    rw [same, shows_standing now loaded _ _ status_cell_healthy, shows_standing now loaded _ _ status_cell_degraded,
      shows_standing now loaded _ _ status_cell_unreachable]
    have kept := standing_map (listNodes first) loaded statuses
    have length := congrArg List.length ids
    rw [List.length_map, List.length_map] at length
    exact ⟨by rw [List.length_map, length], (kept _).symm, (kept _).symm, (kept _).symm⟩

-- hpc node list shows the cluster, or fails because a figure of some node has no JSON; whatever the daemon has been through,
-- and whatever happens between its two answers.
theorem node_list_shows_cluster (config : DaemonConfig F) (start : SharedState F (Json F)) (phases later : List (Phase F))
    (first second : Overlapped F (Json F)) (booted : bootstrap (jsonCodec serde) Store.fresh = .ok start)
    (ran : runFrom (overlapStep (jsonCodec serde) config) ⟨start, []⟩ phases = some first)
    (between : runFrom (overlapStep (jsonCodec serde) config) first later = some second) (text : Json F → String)
    (api : ApiClient) (daemon : Instance) (serverTime now : UInt64) :
    let screen := nodeList serde text api daemon serverTime now first.daemon second.daemon
    (readable first.daemon.nodes = false → ∃ cause, screen =
        .error (.undecodable ("decoding response from " ++ api.url "/api/v1/nodes") cause)) ∧
      (readable first.daemon.nodes = true → first.daemon.nodes.size = 0 → screen = .ok .noNodes) ∧
      (readable first.daemon.nodes = true → first.daemon.nodes.size ≠ 0 → ∃ rows status, screen = .ok (.table rows status) ∧
        status.connectedStreams = second.daemon.channels.size ∧
        ShowsCluster serde now first.daemon.nodes second.daemon.nodes rows status) := by
  intro screen
  have reached := (run_append (overlapStep (jsonCodec serde) config) ⟨start, []⟩ second phases later).mpr ⟨first, ran, between⟩
  have rows := overlap_run_rows (jsonCodec serde) (Backed config.thresholds) config (backed_rows config.thresholds serde) start
    (phases ++ later) second booted reached
  have serving : ∀ node ∈ listNodes second.daemon, node.status ≠ .draining := by
    intro node member
    have same : (listNodes second.daemon).Perm (values second.daemon.nodes) := List.mergeSort_perm _ _
    obtain ⟨id, found⟩ := (mem_values second.daemon.nodes node).mp (same.mem_iff.mp member)
    exact (rows.memory id node found).2.1
  have keyed := run_own_keys serde config start phases first booted ran
  have shown : screen = (fetchNodes text api serde first.daemon).bind fun nodes =>
      if nodes.isEmpty then .ok .noNodes
      else .ok (.table (nodes.map (nodeRow now)) ⟨(listNodes second.daemon).length,
        standing (listNodes second.daemon) [.healthy, .registered], standing (listNodes second.daemon) [.degraded],
        standing (listNodes second.daemon) [.unreachable], second.daemon.channels.size⟩) := by
    change (fetchNodes text api serde first.daemon >>= _) = _
    rw [fetch_cluster_status]
    rfl
  have readable_iff := scrape_succeeds_iff serde first.daemon
  rw [scrape_list] at readable_iff
  rw [fetch_nodes] at shown
  cases came : (listNodes first.daemon).mapM fun record : NodeRecord F => record.traverse serde.reread with
  | error cause =>
      have unreadable : ¬ readable first.daemon.nodes = true := by
        rw [← readable_iff, came]
        rintro ⟨nodes, found⟩
        cases found
      rw [came] at shown
      exact ⟨fun _ => ⟨cause, shown⟩, fun good => absurd good unreadable, fun good => absurd good unreadable⟩
  | ok loaded =>
      have good : readable first.daemon.nodes = true := readable_iff.mp ⟨loaded, came⟩
      have length := congrArg List.length (loaded_same serde _ loaded came).1
      rw [List.length_map, List.length_map, list_nodes_length] at length
      rw [came] at shown
      refine ⟨fun bad => absurd good (by rw [bad]; exact Bool.false_ne_true), fun _ empty => ?_, fun _ some => ?_⟩
      · rw [empty, List.length_eq_zero_iff] at length
        rw [shown, length]
        rfl
      · have there : loaded.isEmpty = false := by
          rw [List.isEmpty_eq_false_iff]
          intro none
          rw [none] at length
          exact some length.symm
        refine ⟨_, _, ?_, rfl, list_shows serde now first.daemon second.daemon keyed serving loaded came⟩
        rw [shown]
        simp only [Except.mapError, Except.bind, there, Bool.false_eq_true, if_false]

end Shown

section Samples

-- Three nodes that register out of the order of their ids: the first has been swept when the others come, and one of these has
-- a stream.
def gathering : List (Phase ℚ) :=
  [.update (.register (sampleInfo "n3") 960), .transact 0 .commits, .update (.register (sampleInfo "n1") 1000), .reap 1001,
    .update (.register (sampleInfo "n2") 1002), .attach "n2" 0, .transact 1 .commits]

def gathered : Overlapped ℚ (Json ℚ) :=
  (runFrom (overlapStep (jsonCodec rationalSerde) rationalConfig) ⟨⟨∅, ∅, Store.fresh⟩, []⟩ gathering).getD
    ⟨⟨∅, ∅, Store.fresh⟩, []⟩

def gatheredScreen : Except ClientError NodeList :=
  nodeList rationalSerde (fun _ => "") (ApiClient.new "http://127.0.0.1:8080/") (Instance.boot rationalConfig 900) 1005 1005
    gathered.daemon gathered.daemon

theorem gathered_keys : gathered.daemon.nodes.keys = ["n1", "n2", "n3"] := by decide +kernel

theorem three_nodes_listed : ∃ rows status, gatheredScreen = .ok (.table rows status) ∧
    rows.map NodeRow.node = ["n1", "n2", "n3"] ∧ status.totalNodes = 3 ∧ status.connectedStreams = 1 ∧
    ShowsCluster rationalSerde 1005 gathered.daemon.nodes gathered.daemon.nodes rows status := by
  obtain ⟨rows, status, screen, streams, shows⟩ := (node_list_shows_cluster rationalSerde rationalConfig ⟨∅, ∅, Store.fresh⟩
    gathering [] gathered gathered rfl rfl rfl (fun _ => "") (ApiClient.new "http://127.0.0.1:8080/")
    (Instance.boot rationalConfig 900) 1005 1005).2.2 (by decide +kernel) (by decide +kernel)
  refine ⟨rows, status, screen, ?_, shows.total.1.trans (by decide +kernel), streams.trans (by decide +kernel), shows⟩
  apply List.Pairwise.eq_of_mem_iff shows.ascending (by decide)
  intro id
  rw [shows.listed, ← gathered_keys, Std.ExtTreeMap.mem_keys, Std.ExtTreeMap.mem_iff_contains]

end Samples

end Hpc.Cli
