import Hpc.Lib.Runs
import Hpc.Monitor.Export

set_option autoImplicit false

namespace Hpc.Monitor

open Hpc.Core Hpc.Daemon Hpc.Lib

structure Snapshot (F : Type) where
  nodes : List (NodeRecord F)
  distinct : (nodes.map (·.info.nodeId)).Nodup

inductive Scrape (F : Type) where
  | ok (snapshot : Snapshot F)
  | err

inductive Transition where
  | degraded (node : String) (reasons : String)
  | recovered (node : String)
deriving DecidableEq, Repr

structure Watch (F : Type) where
  metrics : Metrics F
  previouslyDegraded : Std.ExtTreeSet String
  log : List Transition

def Watch.fresh {F : Type} : Watch F := ⟨Metrics.new, ∅, []⟩

def transitions (previouslyDegraded current : Std.ExtTreeSet String) (degraded : List (String × List String)) :
    List Transition :=
  (degraded.filter fun (id, _) => !previouslyDegraded.contains id).map
      (fun (id, reasons) => .degraded id ("; ".intercalate reasons)) ++
    (previouslyDegraded.toList.filter fun id => !current.contains id).map .recovered

section Loop

variable {F : Type} [F64Text F] (detector : Detector F)

def Metrics.recordScrapeError (metrics : Metrics F) : Metrics F := { metrics with scrapeErrors := metrics.scrapeErrors + 1 }

def Watch.scrape (watch : Watch F) : Scrape F → Watch F
  | .ok snapshot =>
      let (metrics, degraded) := watch.metrics.update snapshot.nodes detector
      let current := Std.ExtTreeSet.ofList (degraded.map Prod.fst)
      ⟨metrics, current, watch.log ++ transitions watch.previouslyDegraded current degraded⟩
  | .err => { watch with metrics := watch.metrics.recordScrapeError }

def scrapeStep (watch : Watch F) (answer : Scrape F) : Option (Watch F) := some (watch.scrape detector answer)

end Loop

-- The events of one node: true where it degrades, false where it recovers.
def Transition.about (id : NodeId) : Transition → Option Bool
  | .degraded node _ => if node = id then some true else none
  | .recovered node => if node = id then some false else none

def history (id : NodeId) (log : List Transition) : List Bool := log.filterMap (Transition.about id)

def Alternates (events : List Bool) : Prop := events.IsChain (· ≠ ·) ∧ ∀ first ∈ events.head?, first = true

theorem alternates_nil : Alternates [] := ⟨List.isChain_nil, fun first absent => by cases absent⟩

theorem alternates_snoc (events : List Bool) (next : Bool) (before : Alternates events)
    (turn : events.getLast? = some (!next) ∨ events = [] ∧ next = true) : Alternates (events ++ [next]) := by
  obtain ⟨chain, first⟩ := before
  rcases turn with last | ⟨none, degraded⟩
  · apply And.intro
    · apply List.isChain_append.mpr
      refine ⟨chain, List.isChain_singleton next, ?_⟩
      intro old ended new started
      rw [last] at ended
      cases ended
      cases started
      exact Bool.not_ne_self next
    · cases events with
      | nil => cases last
      | cons event rest => exact first
  · rw [none, degraded]
    exact ⟨List.isChain_singleton true, fun first started => by cases started; rfl⟩

theorem filterMap_key {Item Out : Type} (key : Item → NodeId) (id : NodeId) (out : Out) (items : List Item)
    (distinct : (items.map key).Nodup) :
    items.filterMap (fun item => if key item = id then some out else none) = if id ∈ items.map key then [out] else [] := by
  induction items with
  | nil => simp
  | cons item rest ih =>
      rw [List.map_cons, List.nodup_cons] at distinct
      rw [List.filterMap_cons, ih distinct.2]
      by_cases same : key item = id
      · subst same
        simp [distinct.1]
      · simp [same, Ne.symm same]

theorem history_append (id : NodeId) (front back : List Transition) :
    history id (front ++ back) = history id front ++ history id back := List.filterMap_append

theorem history_degraded (id : NodeId) (previous : Std.ExtTreeSet String) (degraded : List (String × List String))
    (distinct : (degraded.map Prod.fst).Nodup) :
    history id ((degraded.filter fun (id, _) => !previous.contains id).map
      fun (id, reasons) => .degraded id ("; ".intercalate reasons)) =
        if id ∈ degraded.map Prod.fst ∧ id ∉ previous then [true] else [] := by
  have kept : ((degraded.filter fun (id, _) => !previous.contains id).map Prod.fst).Nodup :=
    distinct.sublist (List.filter_sublist.map _)
  have member : id ∈ (degraded.filter fun (id, _) => !previous.contains id).map Prod.fst ↔
      id ∈ degraded.map Prod.fst ∧ id ∉ previous := by
    simp [← Std.ExtTreeSet.contains_iff_mem]
  rw [history, List.filterMap_map]
  exact (filterMap_key Prod.fst id true _ kept).trans (if_congr member rfl rfl)

theorem history_recovered (id : NodeId) (previous current : Std.ExtTreeSet String) :
    history id ((previous.toList.filter fun id => !current.contains id).map .recovered) =
      if id ∈ previous ∧ id ∉ current then [false] else [] := by
  have distinct : previous.toList.Nodup :=
    Std.ExtTreeSet.distinct_toList.imp fun different same => different (Std.LawfulEqCmp.compare_eq_iff_eq.mpr same)
  have kept : ((previous.toList.filter fun id => !current.contains id).map fun id => id).Nodup := by
    rw [List.map_id']
    exact distinct.filter _
  have member : (id ∈ (previous.toList.filter fun id => !current.contains id).map fun id => id) ↔
      id ∈ previous ∧ id ∉ current := by
    simp [← Std.ExtTreeSet.contains_iff_mem]
  rw [history, List.filterMap_map]
  exact (filterMap_key (fun id => id) id false _ kept).trans (if_congr member rfl rfl)

theorem history_transitions (id : NodeId) (previous current : Std.ExtTreeSet String)
    (degraded : List (String × List String)) (distinct : (degraded.map Prod.fst).Nodup)
    (listed : id ∈ current ↔ id ∈ degraded.map Prod.fst) :
    history id (transitions previous current degraded) =
      if id ∈ previous then if id ∈ current then [] else [false] else if id ∈ current then [true] else [] := by
  rw [transitions, history_append, history_degraded id previous degraded distinct, history_recovered]
  simp only [← listed]
  by_cases before : id ∈ previous <;> by_cases now : id ∈ current <;> simp [before, now]

section Runs

variable {F : Type} [F64Text F] (detector : Detector F)

theorem sweep_degraded (start : Sweep F) (nodes : List (NodeRecord F)) :
    (nodes.foldl (Sweep.node detector) start).degradedNodes = start.degradedNodes ++
      (nodes.filter fun node => detector.evaluate node ≠ []).map fun node => (node.info.nodeId, detector.evaluate node) := by
  induction nodes generalizing start with
  | nil => simp
  | cons node rest ih =>
      rw [List.foldl_cons, ih]
      by_cases sick : detector.evaluate node = [] <;> simp [Sweep.node, sick]

theorem update_degraded (metrics : Metrics F) (nodes : List (NodeRecord F)) :
    (metrics.update nodes detector).2 =
      (nodes.filter fun node => detector.evaluate node ≠ []).map fun node => (node.info.nodeId, detector.evaluate node) :=
  sweep_degraded detector _ nodes

theorem degraded_ids (metrics : Metrics F) (nodes : List (NodeRecord F)) (id : NodeId) :
    id ∈ (metrics.update nodes detector).2.map Prod.fst ↔
      ∃ node ∈ nodes, node.info.nodeId = id ∧ detector.evaluate node ≠ [] := by
  rw [update_degraded]
  simp only [List.map_map, List.mem_map, List.mem_filter, Function.comp_apply, decide_eq_true_eq]
  exact exists_congr fun node => and_assoc.trans (and_congr_right fun _ => and_comm)

theorem degraded_distinct (metrics : Metrics F) (snapshot : Snapshot F) :
    ((metrics.update snapshot.nodes detector).2.map Prod.fst).Nodup := by
  rw [update_degraded, List.map_map]
  exact snapshot.distinct.sublist (List.filter_sublist.map _)

theorem mem_current (degraded : List (String × List String)) (id : NodeId) :
    id ∈ Std.ExtTreeSet.ofList (degraded.map Prod.fst) ↔ id ∈ degraded.map Prod.fst := by
  rw [Std.ExtTreeSet.mem_ofList, List.contains_iff_mem]

structure Remembers (watch : Watch F) (id : NodeId) : Prop where
  alternates : Alternates (history id watch.log)
  latest : id ∈ watch.previouslyDegraded ↔ (history id watch.log).getLast? = some true

theorem scrape_remembers (watch : Watch F) (answer : Scrape F) (id : NodeId) (before : Remembers watch id) :
    Remembers (watch.scrape detector answer) id := by
  cases answer with
  | err => exact ⟨before.alternates, before.latest⟩
  | ok snapshot =>
      obtain ⟨alternates, latest⟩ := before
      have added := history_transitions id watch.previouslyDegraded _ _
        (degraded_distinct detector watch.metrics snapshot) (mem_current _ id)
      have log : history id (watch.scrape detector (.ok snapshot)).log = history id watch.log ++ _ :=
        (history_append id watch.log _).trans (congrArg _ added)
      by_cases was : id ∈ watch.previouslyDegraded
      · by_cases now : id ∈ Std.ExtTreeSet.ofList ((watch.metrics.update snapshot.nodes detector).2.map Prod.fst)
        · rw [if_pos was, if_pos now, List.append_nil] at log
          exact ⟨log ▸ alternates, log ▸ iff_of_true now (latest.mp was)⟩
        · rw [if_pos was, if_neg now] at log
          refine ⟨log ▸ alternates_snoc _ false alternates (Or.inl (latest.mp was)), log ▸ iff_of_false now ?_⟩
          rw [List.getLast?_concat]
          decide
      · have unmarked : (history id watch.log).getLast? ≠ some true := mt latest.mpr was
        by_cases now : id ∈ Std.ExtTreeSet.ofList ((watch.metrics.update snapshot.nodes detector).2.map Prod.fst)
        · rw [if_neg was, if_pos now] at log
          refine ⟨log ▸ alternates_snoc _ true alternates ?_, log ▸ iff_of_true now List.getLast?_concat⟩
          cases ended : (history id watch.log).getLast? with
          | none => exact Or.inr ⟨List.getLast?_eq_none_iff.mp ended, rfl⟩
          | some event =>
              cases event with
              | true => exact absurd ended unmarked
              | false => exact Or.inl rfl
        · rw [if_neg was, if_neg now, List.append_nil] at log
          exact ⟨log ▸ alternates, log ▸ iff_of_false now unmarked⟩

-- What a scrape may log: nothing on a failure, and a recovery only of a node that is there with nothing to complain of.
def FaithfulScrape (watch : Watch F) : Scrape F → Prop
  | .err => (watch.scrape detector .err).log = watch.log
  | .ok snapshot => ∃ logged, (watch.scrape detector (.ok snapshot)).log = watch.log ++ logged ∧
      ∀ id, .recovered id ∈ logged → ∃ node ∈ snapshot.nodes, node.info.nodeId = id ∧ detector.evaluate node = []

structure Faithful (start : Watch F) (answers : List (Scrape F)) : Prop where
  alternates : Throughout (scrapeStep detector) (fun watch => ∀ id, Alternates (history id watch.log)) start answers
  scrapes : Obeys (scrapeStep detector) (FaithfulScrape detector) start answers

def KeepsDegraded (watch : Watch F) : Scrape F → Prop
  | .err => True
  | .ok snapshot => ∀ id ∈ watch.previouslyDegraded, ∃ node ∈ snapshot.nodes, node.info.nodeId = id

theorem recovered_mem (previous current : Std.ExtTreeSet String) (degraded : List (String × List String)) (id : NodeId) :
    .recovered id ∈ transitions previous current degraded ↔ id ∈ previous ∧ id ∉ current := by
  simp [transitions, ← Std.ExtTreeSet.contains_iff_mem]

theorem faithful_scrape_iff (watch : Watch F) (answer : Scrape F) :
    FaithfulScrape detector watch answer ↔ KeepsDegraded watch answer := by
  cases answer with
  | err => exact iff_of_true rfl trivial
  | ok snapshot =>
      have sick := fun id => (mem_current _ id).trans (degraded_ids detector watch.metrics snapshot.nodes id)
      have gone := fun id => recovered_mem watch.previouslyDegraded
        (Std.ExtTreeSet.ofList ((watch.metrics.update snapshot.nodes detector).2.map Prod.fst))
        (watch.metrics.update snapshot.nodes detector).2 id
      apply Iff.intro
      · intro reached id watched
        obtain ⟨logged, grown, sound⟩ := reached
        have same := List.append_cancel_left grown
        by_cases now : ∃ node ∈ snapshot.nodes, node.info.nodeId = id ∧ detector.evaluate node ≠ []
        · obtain ⟨node, member, named, _⟩ := now
          exact ⟨node, member, named⟩
        · obtain ⟨node, member, named, _⟩ := sound id (same ▸ (gone id).mpr ⟨watched, mt (sick id).mp now⟩)
          exact ⟨node, member, named⟩
      · intro keeps
        refine ⟨_, rfl, ?_⟩
        intro id recovered
        obtain ⟨watched, well⟩ := (gone id).mp recovered
        obtain ⟨node, member, named⟩ := keeps id watched
        refine ⟨node, member, named, ?_⟩
        by_contra reasons
        exact well ((sick id).mpr ⟨node, member, named, reasons⟩)

theorem always_alternates (answers : List (Scrape F)) :
    Throughout (scrapeStep detector) (fun watch => ∀ id, Alternates (history id watch.log)) Watch.fresh answers := by
  have remembers : Throughout (scrapeStep detector) (fun watch => ∀ id, Remembers watch id) Watch.fresh answers := by
    apply throughout_invariant
    · intro watch answer next before taken
      cases taken
      exact fun id => scrape_remembers detector watch answer id (before id)
    · exact fun id => ⟨alternates_nil, iff_of_false Std.ExtTreeSet.not_mem_empty (by simp [Watch.fresh, history])⟩
  exact throughout_mono _ _ _ (fun watch all id => (all id).alternates) _ _ remembers

theorem faithful_iff_kept (answers : List (Scrape F)) :
    Faithful detector Watch.fresh answers ↔ Obeys (scrapeStep detector) KeepsDegraded Watch.fresh answers := by
  have same : FaithfulScrape detector = KeepsDegraded :=
    funext fun watch => funext fun answer => propext (faithful_scrape_iff detector watch answer)
  apply Iff.intro
  · exact fun faithful => same ▸ faithful.scrapes
  · exact fun kept => ⟨always_alternates detector answers, same ▸ kept⟩

end Runs

section Samples

def departing : List (Scrape ℚ) := [.ok ⟨[⟨sampleInfo "n1", .unreachable, 1000, none⟩], by decide⟩, .ok ⟨[], List.nodup_nil⟩]

theorem departed_node_recovers :
    (runFrom (scrapeStep ⟨rationalConfig.thresholds⟩) Watch.fresh departing).map Watch.log =
        some [.degraded "n1" "unreachable (no heartbeat)", .recovered "n1"] ∧
      ¬ Faithful ⟨rationalConfig.thresholds⟩ Watch.fresh departing := by
  apply And.intro (by decide)
  intro faithful
  have second := ((faithful.scrapes _ rfl).2 _ rfl).1
  obtain ⟨node, absent, _⟩ := (faithful_scrape_iff _ _ _).mp second "n1" (by decide)
  cases absent

end Samples

end Hpc.Monitor
