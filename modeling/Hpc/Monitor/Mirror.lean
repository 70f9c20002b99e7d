import Hpc.Daemon.Overlap
import Hpc.Monitor.Transitions

set_option autoImplicit false

namespace Hpc.Monitor

open Hpc.Core Hpc.Daemon Hpc.Lib

section Series

variable {V : Type}

def lastSet (entries : List (List String × V)) (label : List String) : Option V :=
  (entries.reverse.find? fun entry => entry.1 == label).map Prod.snd

def setAll (vec : GaugeVec V) (entries : List (List String × V)) : GaugeVec V :=
  entries.foldl (fun vec entry => vec.insert entry.1 entry.2) vec

theorem set_all_lookup (entries : List (List String × V)) (label : List String) :
    (setAll ∅ entries)[label]? = lastSet entries label := by
  rw [setAll, fold_insert_lookup Prod.fst Prod.snd, lastSet]
  have same : (fun entry : List String × V => compare entry.1 label == .eq) = fun entry => entry.1 == label := by
    funext entry
    by_cases equal : entry.1 = label <;> simp [equal]
  simp [same]

theorem last_set_append (front back : List (List String × V)) (label : List String) :
    lastSet (front ++ back) label = (lastSet back label).or (lastSet front label) := by
  rw [lastSet, List.reverse_append, List.find?_append, Option.map_or]
  rfl

theorem last_set_none (entries : List (List String × V)) (label : List String)
    (absent : ∀ entry ∈ entries, entry.1 ≠ label) : lastSet entries label = none := by
  rw [lastSet, Option.map_eq_none_iff, List.find?_eq_none]
  intro entry member
  simpa using absent entry (List.mem_reverse.mp member)

theorem single_last_set (label : List String) (value : V) : lastSet [(label, value)] label = some value := by
  simp [lastSet]

variable {F : Type}

def Owned (brings : NodeRecord F → List (List String × V)) : Prop :=
  ∀ node, ∀ entry ∈ brings node, entry.1.head? = some node.info.nodeId

theorem last_set_others (brings : NodeRecord F → List (List String × V)) (owned : Owned brings) (nodes : List (NodeRecord F))
    (label : List String) (others : ∀ node ∈ nodes, label.head? ≠ some node.info.nodeId) :
    lastSet (nodes.flatMap brings) label = none := by
  apply last_set_none
  intro entry member same
  obtain ⟨node, present, brought⟩ := List.mem_flatMap.mp member
  apply others node present
  rw [← same]
  exact owned node entry brought

theorem last_set_own (brings : NodeRecord F → List (List String × V)) (owned : Owned brings) (nodes : List (NodeRecord F))
    (distinct : (nodes.map (·.info.nodeId)).Nodup) (node : NodeRecord F) (member : node ∈ nodes) (label : List String)
    (own : label.head? = some node.info.nodeId) : lastSet (nodes.flatMap brings) label = lastSet (brings node) label := by
  obtain ⟨front, back, rfl⟩ := List.append_of_mem member
  rw [List.map_append, List.map_cons, List.nodup_append] at distinct
  obtain ⟨_, later, apart⟩ := distinct
  have after : ∀ other ∈ back, label.head? ≠ some other.info.nodeId := by
    intro other present same
    apply (List.nodup_cons.mp later).1
    rw [own, Option.some.injEq] at same
    exact same ▸ List.mem_map_of_mem present
  have before : ∀ other ∈ front, label.head? ≠ some other.info.nodeId := by
    intro other present same
    rw [own, Option.some.injEq] at same
    exact apart _ (List.mem_map_of_mem present) _ List.mem_cons_self same.symm
  rw [List.flatMap_append, List.flatMap_cons, last_set_append, last_set_append, last_set_others brings owned back label after,
    last_set_others brings owned front label before]
  simp

end Series

section Entries

variable {F : Type}

def upEntries (node : NodeRecord F) : List (List String × Int) :=
  [([node.info.nodeId], if node.status ≠ .unreachable then 1 else 0)]

def sampleEntries (measure : MetricsReport F → F) (node : NodeRecord F) : List (List String × F) :=
  node.latestMetrics.elim [] fun m => [([node.info.nodeId], measure m)]

theorem up_owned : Owned (F := F) upEntries := fun node entry member => by rw [List.mem_singleton.mp member]; rfl

theorem sample_owned (measure : MetricsReport F → F) : Owned (sampleEntries measure) := by
  intro node entry member
  cases latest : node.latestMetrics with
  | none => simp [sampleEntries, latest] at member
  | some m =>
      rw [sampleEntries, latest] at member
      rw [List.mem_singleton.mp member]
      rfl

theorem sample_last_set (measure : MetricsReport F → F) (node : NodeRecord F) :
    lastSet (sampleEntries measure node) [node.info.nodeId] = node.latestMetrics.map measure := by
  cases latest : node.latestMetrics with
  | none => simp [sampleEntries, latest, lastSet]
  | some m => simp [sampleEntries, latest, single_last_set]

variable [F64Text F] (detector : Detector F)

def degradedEntries (node : NodeRecord F) : List (List String × Int) :=
  [([node.info.nodeId], if detector.evaluate node ≠ [] then 1 else 0)]

def diskEntries (node : NodeRecord F) : List (List String × F) :=
  node.latestMetrics.elim [] fun m => m.disks.map fun d => ([node.info.nodeId, d.mountPoint], d.usedFraction)

theorem degraded_owned : Owned (degradedEntries detector) := fun node entry member => by rw [List.mem_singleton.mp member]; rfl

theorem disk_owned : Owned (F := F) diskEntries := by
  intro node entry member
  cases latest : node.latestMetrics with
  | none => simp [diskEntries, latest] at member
  | some m =>
      rw [diskEntries, latest] at member
      obtain ⟨d, _, rfl⟩ := List.mem_map.mp member
      rfl

theorem fold_sets {V : Type} (vec : Sweep F → GaugeVec V) (brings : NodeRecord F → List (List String × V))
    (each : ∀ sweep node, vec (Sweep.node detector sweep node) = setAll (vec sweep) (brings node)) (start : Sweep F)
    (nodes : List (NodeRecord F)) :
    vec (nodes.foldl (Sweep.node detector) start) = setAll (vec start) (nodes.flatMap brings) := by
  induction nodes generalizing start with
  | nil => rfl
  | cons node rest ih =>
      rw [List.foldl_cons, ih, each, List.flatMap_cons, setAll, setAll, setAll, List.foldl_append]

structure Filled (nodes : List (NodeRecord F)) (metrics : Metrics F) : Prop where
  nodeUp : metrics.nodeUp = setAll ∅ (nodes.flatMap upEntries)
  nodeDegraded : metrics.nodeDegraded = setAll ∅ (nodes.flatMap (degradedEntries detector))
  cpuPercent : metrics.cpuPercent = setAll ∅ (nodes.flatMap (sampleEntries fun m => m.cpu.usagePercent))
  memoryRatio : metrics.memoryRatio = setAll ∅ (nodes.flatMap (sampleEntries fun m => m.memory.usedFraction))
  load1 : metrics.load1 = setAll ∅ (nodes.flatMap (sampleEntries fun m => m.load.one))
  diskRatio : metrics.diskRatio = setAll ∅ (nodes.flatMap diskEntries)

theorem update_fills (before : Metrics F) (nodes : List (NodeRecord F)) :
    Filled detector nodes (before.update nodes detector).1 := by
  refine ⟨?_, ?_, ?_, ?_, ?_, ?_⟩
  · refine fold_sets detector (fun sweep => sweep.metrics.nodeUp) upEntries (fun sweep node => ?_) _ nodes
    cases latest : node.latestMetrics <;> simp [Sweep.node, latest, Metrics.sample, setAll, upEntries]
  · refine fold_sets detector (fun sweep => sweep.metrics.nodeDegraded) (degradedEntries detector) (fun sweep node => ?_) _ nodes
    cases latest : node.latestMetrics <;> simp [Sweep.node, latest, Metrics.sample, setAll, degradedEntries]
  · refine fold_sets detector (fun sweep => sweep.metrics.cpuPercent) (sampleEntries _) (fun sweep node => ?_) _ nodes
    cases latest : node.latestMetrics <;> simp [Sweep.node, latest, Metrics.sample, setAll, sampleEntries]
  · refine fold_sets detector (fun sweep => sweep.metrics.memoryRatio) (sampleEntries _) (fun sweep node => ?_) _ nodes
    cases latest : node.latestMetrics <;> simp [Sweep.node, latest, Metrics.sample, setAll, sampleEntries]
  · refine fold_sets detector (fun sweep => sweep.metrics.load1) (sampleEntries _) (fun sweep node => ?_) _ nodes
    cases latest : node.latestMetrics <;> simp [Sweep.node, latest, Metrics.sample, setAll, sampleEntries]
  · refine fold_sets detector (fun sweep => sweep.metrics.diskRatio) diskEntries (fun sweep node => ?_) _ nodes
    cases latest : node.latestMetrics <;> simp [Sweep.node, latest, Metrics.sample, setAll, diskEntries, List.foldl_map]

end Entries

section Mirroring

variable {F : Type} [F64Text F] (serde : SerdeF64 F) (detector : Detector F)

def listNodes {Bytes : Type} (state : SharedState F Bytes) : List (NodeRecord F) := sortNodes (values state.nodes)

def listBody (nodes : List (NodeRecord F)) : Json F := .array (nodes.map (writeRecord serde))

def scrape (body : Json F) : Except String (List (NodeRecord F)) := readArray (readRecord serde) body

def readable (table : NodeTable F) : Bool := (values table).all fun record => record.floats.all F64.isFinite

structure ShowsNode (id : NodeId) (loaded : NodeRecord F) (metrics : Metrics F) : Prop where
  nodeUp : metrics.nodeUp[[id]]? = some (if loaded.status ≠ .unreachable then 1 else 0)
  nodeDegraded : metrics.nodeDegraded[[id]]? = some (if detector.evaluate loaded ≠ [] then 1 else 0)
  cpuPercent : metrics.cpuPercent[[id]]? = loaded.latestMetrics.map fun m => m.cpu.usagePercent
  memoryRatio : metrics.memoryRatio[[id]]? = loaded.latestMetrics.map fun m => m.memory.usedFraction
  load1 : metrics.load1[[id]]? = loaded.latestMetrics.map fun m => m.load.one
  diskRatio : ∀ mountPoint, metrics.diskRatio[[id, mountPoint]]? = loaded.latestMetrics.bind fun m =>
    (m.disks.reverse.find? fun d => d.mountPoint == mountPoint).map DiskMetrics.usedFraction

-- What is exported is the table: each node as its record came through, with nothing changed but what JSON changes in a
-- float, and no other node.
structure MirrorsTable (table : NodeTable F) (metrics : Metrics F) : Prop where
  shown : ∀ (id : NodeId) (record : NodeRecord F), table[id]? = some record →
    ∃ loaded, record.traverse serde.reread = .ok loaded ∧ loaded.erase = record.erase ∧ ShowsNode detector id loaded metrics
  absent : ∀ id : NodeId, table[id]? = none → Forgets id metrics
  total : metrics.nodesTotal = (values table).length

theorem scrape_list (nodes : List (NodeRecord F)) :
    scrape serde (listBody serde nodes) = nodes.mapM fun record => record.traverse serde.reread := by
  rw [scrape, listBody, read_array_map]
  simp only [read_write_record]

theorem readable_iff (table : NodeTable F) :
    readable table = true ↔ ∀ record ∈ values table, AllFinite record.floats := by
  simp [readable, AllFinite, List.all_eq_true]

theorem scrape_succeeds_iff {Bytes : Type} (state : SharedState F Bytes) :
    (∃ nodes, scrape serde (listBody serde (listNodes state)) = .ok nodes) ↔ readable state.nodes = true := by
  have same : (listNodes state).Perm (values state.nodes) := List.mergeSort_perm _ _
  rw [scrape_list, mapM_succeeds_iff, readable_iff]
  simp only [record_traverse_succeeds, reread_succeeds_iff, AllFinite]
  apply Iff.intro
  · exact fun all record member => all record (same.mem_iff.mpr member)
  · exact fun all record member => all record (same.mem_iff.mp member)

theorem disk_last_set (node : NodeRecord F) (mountPoint : String) :
    lastSet (diskEntries node) [node.info.nodeId, mountPoint] = node.latestMetrics.bind fun m =>
      (m.disks.reverse.find? fun d => d.mountPoint == mountPoint).map DiskMetrics.usedFraction := by
  cases latest : node.latestMetrics with
  | none => simp [diskEntries, latest, lastSet]
  | some m =>
      simp only [diskEntries, latest, lastSet, Option.elim_some, Option.bind_some]
      rw [← List.map_reverse, List.find?_map, Option.map_map]
      have same : ((fun entry : List String × F => entry.1 == [node.info.nodeId, mountPoint]) ∘
          fun d : DiskMetrics F => ([node.info.nodeId, d.mountPoint], d.usedFraction)) = fun d => d.mountPoint == mountPoint := by
        funext d
        by_cases equal : d.mountPoint = mountPoint <;> simp [equal]
      rw [same]
      rfl

theorem update_shows (before : Metrics F) (nodes : List (NodeRecord F)) (distinct : (nodes.map (·.info.nodeId)).Nodup)
    (node : NodeRecord F) (member : node ∈ nodes) :
    ShowsNode detector node.info.nodeId node (before.update nodes detector).1 := by
  have filled := update_fills detector before nodes
  refine ⟨?_, ?_, ?_, ?_, ?_, fun mountPoint => ?_⟩
  · rw [filled.nodeUp, set_all_lookup, last_set_own _ up_owned nodes distinct node member _ rfl]
    exact single_last_set _ _
  · rw [filled.nodeDegraded, set_all_lookup, last_set_own _ (degraded_owned detector) nodes distinct node member _ rfl]
    exact single_last_set _ _
  · rw [filled.cpuPercent, set_all_lookup, last_set_own _ (sample_owned _) nodes distinct node member _ rfl, sample_last_set]
  · rw [filled.memoryRatio, set_all_lookup, last_set_own _ (sample_owned _) nodes distinct node member _ rfl, sample_last_set]
  · rw [filled.load1, set_all_lookup, last_set_own _ (sample_owned _) nodes distinct node member _ rfl, sample_last_set]
  · rw [filled.diskRatio, set_all_lookup, last_set_own _ disk_owned nodes distinct node member _ rfl, disk_last_set]

structure Scraped (table : NodeTable F) (nodes : List (NodeRecord F)) : Prop where
  distinct : (nodes.map fun node => node.info.nodeId).Nodup
  listed : ∀ (id : NodeId) (record : NodeRecord F), table[id]? = some record →
    ∃ loaded ∈ nodes, record.traverse serde.reread = .ok loaded ∧ loaded.info.nodeId = id
  known : ∀ node ∈ nodes, ∃ record, table[node.info.nodeId]? = some record
  total : nodes.length = (values table).length

theorem scraped_nodes {Bytes : Type} (state : SharedState F Bytes)
    (keyed : SelfKeyed (fun record : NodeRecord F => record.info.nodeId) state.nodes) (nodes : List (NodeRecord F))
    (answered : scrape serde (listBody serde (listNodes state)) = .ok nodes) : Scraped serde state.nodes nodes := by
  obtain ⟨same, ascending⟩ := sorted_values (fun record : NodeRecord F => record.info.nodeId) state.nodes keyed
    (values state.nodes) (List.Perm.refl _)
  rw [scrape_list] at answered
  have erased : ∀ (record loaded : NodeRecord F), record.traverse serde.reread = .ok loaded →
      loaded.info.nodeId = record.info.nodeId := fun record loaded came =>
    congrArg (fun blank : NodeRecord Unit => blank.info.nodeId) (record_traverse_erase serde.reread record loaded came)
  have ids : nodes.map (fun node => node.info.nodeId) = (listNodes state).map fun record => record.info.nodeId :=
    mapM_observe _ (fun record => record.info.nodeId) (fun loaded => loaded.info.nodeId) erased _ nodes answered
  have related := (mapM_ok_iff _ (listNodes state) nodes).mp answered
  refine ⟨?distinct, ?listed, ?known, ?total⟩
  case distinct =>
    rw [ids]
    exact ascending.imp fun less => ne_of_lt less
  case listed =>
    intro id record found
    have member : record ∈ listNodes state := same.mem_iff.mpr ((mem_values state.nodes record).mpr ⟨id, found⟩)
    obtain ⟨loaded, there, came⟩ := related_mem (fun loaded record => NodeRecord.traverse serde.reread record = .ok loaded)
      _ _ related.flip record member
    exact ⟨loaded, there, came, (erased record loaded came).trans (keyed id record found)⟩
  case known =>
    intro node member
    obtain ⟨record, listed, came⟩ := mapM_result_mem _ _ nodes answered node member
    obtain ⟨key, found⟩ := (mem_values state.nodes record).mp (same.mem_iff.mp listed)
    have named : key = node.info.nodeId := (keyed key record found).symm.trans (erased record node came).symm
    exact ⟨record, named ▸ found⟩
  case total =>
    have length := congrArg List.length ids
    rw [List.length_map, List.length_map] at length
    exact length.trans same.length_eq

theorem scraped_mirrors (table : NodeTable F) (nodes : List (NodeRecord F)) (scraped : Scraped serde table nodes)
    (before : Metrics F) : MirrorsTable serde detector table (before.update nodes detector).1 := by
  refine ⟨?shown, ?absent, congrArg Nat.cast scraped.total⟩
  case shown =>
    intro id record found
    obtain ⟨loaded, member, came, named⟩ := scraped.listed id record found
    have shows := update_shows detector before nodes scraped.distinct loaded member
    rw [named] at shows
    exact ⟨loaded, came, record_traverse_erase serde.reread record loaded came, shows⟩
  case absent =>
    intro id none
    apply exports_forgets nodes _ (update_exports detector before nodes) id
    intro node member here
    obtain ⟨record, found⟩ := scraped.known node member
    rw [here, none] at found
    cases found

end Mirroring

-- The daemon under any interleaving of its calls, with the monitor that scrapes it now and then. Beside both stands which
-- table was the last to be read, and how many scrapes came to nothing.
structure Monitored (F : Type) where
  system : Overlapped F (Json F)
  watch : Watch F
  read : Option (NodeTable F)
  failures : Nat

inductive MonitoredLabel (F : Type) where
  | system (phase : Phase F)
  | scrape
  | unanswered

section Machine

variable {F : Type} [F64Text F] (serde : SerdeF64 F) (config : DaemonConfig F) (detector : Detector F)

def Watch.observe (watch : Watch F) (nodes : List (NodeRecord F)) : Watch F :=
  let (metrics, degraded) := watch.metrics.update nodes detector
  let current := Std.ExtTreeSet.ofList (degraded.map Prod.fst)
  ⟨metrics, current, watch.log ++ transitions watch.previouslyDegraded current degraded⟩

def Watch.fail (watch : Watch F) : Watch F := { watch with metrics := watch.metrics.recordScrapeError }

theorem observe_scrapes (watch : Watch F) (snapshot : Snapshot F) :
    watch.scrape detector (.ok snapshot) = watch.observe detector snapshot.nodes := rfl

def monitoredStep (state : Monitored F) : MonitoredLabel F → Option (Monitored F)
  | .system phase => (overlapStep (jsonCodec serde) config state.system phase).map fun system => { state with system := system }
  | .scrape =>
      let table := state.system.daemon.nodes
      let watch := match scrape serde (listBody serde (listNodes state.system.daemon)) with
        | .ok nodes => state.watch.observe detector nodes
        | .error _ => state.watch.fail
      if readable table then some { state with watch := watch, read := some table }
      else some { state with watch := watch, failures := state.failures + 1 }
  | .unanswered => some { state with watch := state.watch.fail, failures := state.failures + 1 }

def ShowsLast (state : Monitored F) : Prop :=
  match state.read with
  | none => state.watch.metrics.gauges = Metrics.new
  | some table => MirrorsTable serde detector table state.watch.metrics

structure Screened (state : Monitored F) : Prop where
  rows : AllRows (jsonCodec serde) Kept state.system
  errors : state.watch.metrics.scrapeErrors = state.failures
  shows : ShowsLast serde detector state

theorem update_errors (before : Metrics F) (nodes : List (NodeRecord F)) :
    (before.update nodes detector).1.scrapeErrors = before.scrapeErrors := by
  have kept : ∀ start : Sweep F,
      (nodes.foldl (Sweep.node detector) start).metrics.scrapeErrors = start.metrics.scrapeErrors := by
    induction nodes with
    | nil => exact fun _ => rfl
    | cons node rest ih =>
        intro start
        rw [List.foldl_cons, ih]
        cases latest : node.latestMetrics <;> simp [Sweep.node, latest, Metrics.sample]
  exact kept ⟨before.reset, 0, 0, 0, []⟩

theorem mirrors_fail (table : NodeTable F) (metrics : Metrics F) (mirrors : MirrorsTable serde detector table metrics) :
    MirrorsTable serde detector table metrics.recordScrapeError := by
  refine ⟨fun id record found => ?_, fun id none => ?_, mirrors.total⟩
  · obtain ⟨loaded, came, erased, shows⟩ := mirrors.shown id record found
    exact ⟨loaded, came, erased, shows.nodeUp, shows.nodeDegraded, shows.cpuPercent, shows.memoryRatio, shows.load1,
      shows.diskRatio⟩
  · have forgets := mirrors.absent id none
    exact ⟨forgets.nodeUp, forgets.nodeDegraded, forgets.cpuPercent, forgets.memoryRatio, forgets.load1, forgets.diskRatio⟩

theorem shows_fail (state : Monitored F) (shows : ShowsLast serde detector state) :
    ShowsLast serde detector { state with watch := state.watch.fail, failures := state.failures + 1 } := by
  rw [ShowsLast] at shows ⊢
  cases last : state.read with
  | none =>
      simp only [last] at shows ⊢
      exact shows
  | some table =>
      simp only [last] at shows ⊢
      exact mirrors_fail serde detector table _ shows

theorem screened_step (state next : Monitored F) (label : MonitoredLabel F) (screened : Screened serde detector state)
    (taken : monitoredStep serde config detector state label = some next) : Screened serde detector next := by
  cases label with
  | system phase =>
      obtain ⟨system, stepped, rfl⟩ := Option.map_eq_some_iff.mp taken
      have rows := overlap_step_rows (jsonCodec serde) Kept config (kept_rows serde config.thresholds) state.system system phase
        screened.rows stepped
      exact ⟨rows, screened.errors, screened.shows⟩
  | unanswered =>
      cases taken
      exact ⟨screened.rows, congrArg (· + 1) screened.errors, shows_fail serde detector state screened.shows⟩
  | scrape =>
      rw [monitoredStep] at taken
      have succeeds := scrape_succeeds_iff serde state.system.daemon
      by_cases fit : readable state.system.daemon.nodes = true
      · obtain ⟨nodes, answered⟩ := succeeds.mpr fit
        simp only [answered, fit, if_true, Option.some.injEq] at taken
        subst taken
        have keyed : SelfKeyed (fun record : NodeRecord F => record.info.nodeId) state.system.daemon.nodes :=
          fun id record found => (screened.rows.memory id record found).1
        have errors := update_errors detector state.watch.metrics nodes
        exact ⟨screened.rows, errors.trans screened.errors,
          scraped_mirrors serde detector _ nodes (scraped_nodes serde state.system.daemon keyed nodes answered) _⟩
      · cases answered : scrape serde (listBody serde (listNodes state.system.daemon)) with
        | ok nodes => exact absurd (succeeds.mp ⟨nodes, answered⟩) fit
        | error message =>
            simp only [answered, fit, Bool.false_eq_true, if_false, Option.some.injEq] at taken
            subst taken
            exact ⟨screened.rows, congrArg (· + 1) screened.errors, shows_fail serde detector state screened.shows⟩

-- In every run, whatever the daemon's calls do between and during the scrapes, the exporter shows the table of the last
-- scrape that could be read, no node of it missing and none left over. A scrape fails exactly when it is not answered or
-- some node's sample holds a float that is not finite, and then only the error counter moves.
theorem gauges_mirror_table (start : SharedState F (Json F)) (labels : List (MonitoredLabel F)) (finish : Monitored F)
    (booted : bootstrap (jsonCodec serde) Store.fresh = .ok start)
    (ran : runFrom (monitoredStep serde config detector) ⟨⟨start, []⟩, Watch.fresh, none, 0⟩ labels = some finish) :
    finish.watch.metrics.scrapeErrors = finish.failures ∧ ShowsLast serde detector finish := by
  have rows := overlap_run_rows (jsonCodec serde) Kept config (kept_rows serde config.thresholds) start [] ⟨start, []⟩ booted rfl
  have blank : ShowsLast serde detector ⟨⟨start, []⟩, Watch.fresh, none, 0⟩ := rfl
  have screened := run_invariant (monitoredStep serde config detector) (Screened serde detector)
    (fun state label next before taken => screened_step serde config detector state next label before taken)
    _ finish labels ⟨rows, rfl, blank⟩ ran
  exact ⟨screened.errors, screened.shows⟩

end Machine

section Samples

def sampleScrapes : List (MonitoredLabel ℚ) := .unanswered :: threeNodes.map .system ++ [.scrape]

theorem sample_scrapes_run : (runFrom (monitoredStep rationalSerde rationalConfig ⟨rationalConfig.thresholds⟩)
    ⟨⟨⟨∅, ∅, Store.fresh⟩, []⟩, Watch.fresh, none, 0⟩ sampleScrapes).isSome := by
  decide +kernel

theorem three_nodes_mirrored :
    (Option.get _ sample_scrapes_run).watch.metrics.scrapeErrors = (Option.get _ sample_scrapes_run).failures ∧
      ShowsLast rationalSerde ⟨rationalConfig.thresholds⟩ (Option.get _ sample_scrapes_run) :=
  gauges_mirror_table rationalSerde rationalConfig ⟨rationalConfig.thresholds⟩ ⟨∅, ∅, Store.fresh⟩ sampleScrapes _ rfl
    (Option.some_get sample_scrapes_run).symm

end Samples

end Hpc.Monitor
