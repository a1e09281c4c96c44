import NetTools.Topology.Graph

/-!
# Queries over the derived graph

A snapshot wraps a graph with where it comes from. The impact query visits what adjacencies in state
`Up` connect, depth first; the path query goes breadth first.
-/

namespace NetTools

inductive GraphCoverage where
  | complete
  | partially
  | unknown
  deriving DecidableEq, Repr

def GraphCoverage.value : GraphCoverage → String
  | .complete => "complete"
  | .partially => "partial"
  | .unknown => "unknown"

structure GraphSnapshot where
  graph : Graph
  observedAt : Datetime
  validUntil : Datetime
  coverage : GraphCoverage
  sourceEvidenceKeys : List String
  schemaVersion : Int
  limitations : List String
  ordered : observedAt.le validUntil = true
  supported : schemaVersion = 1
  sourced : sourceEvidenceKeys ≠ []

/-- The constructor, with the checks of `__post_init__`. -/
def GraphSnapshot.make (graph : Graph) (observedAt validUntil : Datetime)
    (coverage : GraphCoverage) (sourceEvidenceKeys : List String) (schemaVersion : Int)
    (limitations : List String) : Except String GraphSnapshot :=
  if hordered : observedAt.le validUntil = true then
    if hsupported : schemaVersion = 1 then
      if hsourced : sourceEvidenceKeys ≠ [] then
        pure ⟨graph, observedAt, validUntil, coverage, sourceEvidenceKeys, schemaVersion,
          limitations, hordered, hsupported, hsourced⟩
      else throw "graph snapshots require source evidence keys"
    else throw ("unsupported graph snapshot schema version: " ++ toString schemaVersion)
  else throw "graph snapshot validity cannot end before observation"

def sectionParsed (evidence : DeviceEvidence) : GraphProtocol → Bool
  | .isis => evidence.isis.isSome
  | .lldp => evidence.lldp.isSome

def snapshotIntents : List GraphProtocol := [.isis, .lldp]

def GraphProtocol.label : GraphProtocol → String
  | .isis => "IS-IS"
  | .lldp => "LLDP"

section

variable (casefold : String → String) (platform : String → Value) (evidence : Collection)

def evidenceSections (parsed : Bool) : List (String × GraphProtocol) :=
  (sortedEntries evidence).flatMap (fun entry =>
    (snapshotIntents.filter (fun intent => sectionParsed entry.2 intent == parsed)).map
      (fun intent => (entry.1, intent)))

def sourceKeys : List String :=
  (evidenceSections evidence true).map (fun source => source.1 ++ ":" ++ source.2.name)

def snapshotLimitations : List String :=
  (evidenceSections evidence false).map (fun source =>
    source.1 ++ " " ++ source.2.label ++ " evidence did not parse cleanly")

/-- The texts of the `ValueError`s. -/
def buildGraphSnapshot (observedAt : Datetime) (validitySeconds : Int) :
    Except String GraphSnapshot :=
  if validitySeconds < 0 then throw "graph snapshot validity must not be negative"
  else
    let limitations := snapshotLimitations evidence
    GraphSnapshot.make (buildGraph casefold platform evidence) observedAt
      (observedAt.addSeconds validitySeconds)
      (if limitations = [] then .complete else .partially) (sourceKeys evidence) 1 limitations

end

namespace Graph

variable (graph : Graph)

def names : List String := graph.nodes.map GraphNode.name

def IsUp (edge : GraphEdge) : Bool := edge.protocol == .isis && edge.state.isUp

/-- The neighbours over adjacencies in state `Up`. -/
def adjacency (device : String) : List String :=
  (graph.edges.flatMap (fun edge =>
    if IsUp edge then
      (if edge.deviceA = device then [edge.deviceB] else []) ++
        (if edge.deviceB = device then [edge.deviceA] else [])
    else [])).dedup

/-- The adjacencies in state `Up`, as a graph. -/
def upGraph : SimpleGraph String :=
  SimpleGraph.fromRel (fun left right => ∃ edge ∈ graph.edges, IsUp edge = true ∧
    edge.deviceA = left ∧ edge.deviceB = right)

variable {graph}

lemma mem_adjacency_iff {device neighbor : String} : neighbor ∈ graph.adjacency device ↔
    ∃ edge ∈ graph.edges, IsUp edge = true ∧
      (edge.deviceA = device ∧ edge.deviceB = neighbor ∨
        edge.deviceA = neighbor ∧ edge.deviceB = device) := by
  unfold adjacency
  rw [List.mem_dedup, List.mem_flatMap]
  apply exists_congr
  intro edge
  apply and_congr_right
  intro hedge
  cases hup : IsUp edge with
  | false => simp
  | true =>
    rw [if_pos rfl, List.mem_append]
    by_cases ha : edge.deviceA = device <;> by_cases hb : edge.deviceB = device <;>
      simp [ha, hb, eq_comm]

lemma mem_names_of_mem_adjacency {device neighbor : String}
    (h : neighbor ∈ graph.adjacency device) : neighbor ∈ graph.names := by
  obtain ⟨edge, hedge, -, ⟨-, rfl⟩ | ⟨rfl, -⟩⟩ := mem_adjacency_iff.mp h
  · exact (graph.ends edge hedge).2
  · exact (graph.ends edge hedge).1

lemma upGraph_adj_iff {device neighbor : String} :
    graph.upGraph.Adj device neighbor ↔
      device ≠ neighbor ∧ neighbor ∈ graph.adjacency device := by
  unfold upGraph
  rw [SimpleGraph.fromRel_adj, mem_adjacency_iff]
  apply and_congr_right
  intro hne
  constructor
  · rintro (⟨edge, hedge, hup, ha, hb⟩ | ⟨edge, hedge, hup, ha, hb⟩)
    · exact ⟨edge, hedge, hup, .inl ⟨ha, hb⟩⟩
    · exact ⟨edge, hedge, hup, .inr ⟨ha, hb⟩⟩
  · rintro ⟨edge, hedge, hup, ⟨ha, hb⟩ | ⟨ha, hb⟩⟩
    · exact .inl ⟨edge, hedge, hup, ha, hb⟩
    · exact .inr ⟨edge, hedge, hup, ha, hb⟩

lemma mem_fresh_iff {seen : List String} {current neighbor : String} (hcurrent : current ∈ seen) :
    neighbor ∈ graph.adjacency current ∧ neighbor ∉ seen ↔
      graph.upGraph.Adj current neighbor ∧ neighbor ∉ seen := by
  rw [upGraph_adj_iff]
  constructor
  · rintro ⟨hadj, hunseen⟩
    exact ⟨⟨fun h => hunseen (h ▸ hcurrent), hadj⟩, hunseen⟩
  · rintro ⟨⟨-, hadj⟩, hunseen⟩
    exact ⟨hadj, hunseen⟩

end Graph

structure ImpactResult where
  subject : String
  connected : List String
  disconnected : List String
  limitations : List String
  unknown : List String := []
  sourceEvidenceKeys : List String := []
  observedAt : Option Datetime := none
  validUntil : Option Datetime := none
  coverage : Option GraphCoverage := none

/-- `Graph | GraphSnapshot`. -/
inductive ImpactSource where
  | ofGraph (graph : Graph)
  | ofSnapshot (snapshot : GraphSnapshot)

def ImpactSource.derivedGraph : ImpactSource → Graph
  | .ofGraph graph => graph
  | .ofSnapshot snapshot => snapshot.graph

def ImpactSource.snapshot? : ImpactSource → Option GraphSnapshot
  | .ofGraph _ => none
  | .ofSnapshot snapshot => some snapshot

/-- `while frontier`. -/
def visit (graph : Graph) : Nat → List String → List String → List String
  | 0, visited, _ => visited
  | _ + 1, visited, [] => visited
  | turns + 1, visited, current :: frontier =>
    let fresh := (graph.adjacency current).filter (· ∉ visited)
    visit graph turns (visited ++ fresh) (fresh.reverse ++ frontier)

def visited (graph : Graph) (subject : String) : List String :=
  visit graph graph.names.length [subject] [subject]

def impactLimitations (source : ImpactSource) : List String :=
  ["impact covers only derived IS-IS adjacency connectivity",
    "no service, VRF, forwarding-plane, or traffic-demand impact is modeled"] ++
  (if source.derivedGraph.edges.any (fun edge => edge.protocol == .isis) then []
    else ["no parsed IS-IS edges were available"]) ++
  match source.snapshot? with
  | none => []
  | some snapshot => snapshot.limitations ++
    (if snapshot.coverage = .complete then []
      else ["graph evidence coverage is " ++ snapshot.coverage.value])

def ImpactSource.conclusive (source : ImpactSource) : Bool :=
  source.snapshot?.all (fun snapshot => snapshot.coverage == .complete)

def connectivityImpact (source : ImpactSource) (subject : String) : ImpactResult :=
  let graph := source.derivedGraph
  let snapshot := source.snapshot?
  let answer : ImpactResult :=
    { subject := subject
      connected := []
      disconnected := []
      limitations := ["subject is absent from the derived graph"]
      sourceEvidenceKeys := (snapshot.map GraphSnapshot.sourceEvidenceKeys).getD []
      observedAt := snapshot.map GraphSnapshot.observedAt
      validUntil := snapshot.map GraphSnapshot.validUntil
      coverage := snapshot.map GraphSnapshot.coverage }
  if subject ∈ graph.names then
    let visited := visited graph subject
    let rest := sortedNames (graph.names.filter (· ∉ visited))
    { answer with
      connected := sortedNames visited
      disconnected := if source.conclusive then rest else []
      unknown := if source.conclusive then [] else rest
      limitations := impactLimitations source }
  else answer

inductive PathStatus where
  | unknownSubject
  | found
  | incomplete
  | notFound
  deriving DecidableEq, Repr

structure PathResult where
  status : PathStatus
  source : String
  destination : String
  path : List String
  sourceEvidenceKeys : List String
  limitations : List String

abbrev Predecessors : Type := List (String × Option String)

/-- `while frontier`, up to the turn of the destination. -/
def searchPath (graph : Graph) (destination : String) :
    Nat → Predecessors → List String → Predecessors
  | 0, predecessors, _ => predecessors
  | _ + 1, predecessors, [] => predecessors
  | turns + 1, predecessors, current :: frontier =>
    if current = destination then predecessors
    else
      let fresh := (sortedNames (graph.adjacency current)).filter
        (· ∉ predecessors.map Prod.fst)
      searchPath graph destination turns
        (predecessors ++ fresh.map (fun neighbor => (neighbor, some current))) (frontier ++ fresh)

def pathBetween (snapshot : GraphSnapshot) (source destination : String) : PathResult :=
  let graph := snapshot.graph
  let answer : PathResult :=
    { status := .unknownSubject
      source := source
      destination := destination
      path := []
      sourceEvidenceKeys := snapshot.sourceEvidenceKeys
      limitations := snapshot.limitations }
  if source ∈ graph.names ∧ destination ∈ graph.names then
    let predecessors :=
      searchPath graph destination graph.names.length [(source, none)] [source]
    if destination ∈ predecessors.map Prod.fst then
      { answer with
        status := .found
        path := (GraphSearch.chain predecessors predecessors.length (some destination)).reverse }
    else if snapshot.coverage = .complete then { answer with status := .notFound }
    else
      { answer with
        status := .incomplete
        limitations := if snapshot.limitations = [] then ["graph evidence coverage is incomplete"]
          else snapshot.limitations }
  else
    { answer with
      limitations := ["one or both path endpoints are absent from the derived graph"] }

section

variable {graph : Graph} {source : ImpactSource} {snapshot : GraphSnapshot}
  {subject destination : String}

lemma mem_visit_iff (turns : Nat) {seen frontier : List String}
    (h : GraphSearch.Searched graph.upGraph subject seen frontier)
    (hturns : GraphSearch.turnsLeft graph.names seen frontier ≤ turns) (device : String) :
    device ∈ visit graph turns seen frontier ↔ graph.upGraph.Reachable subject device := by
  induction turns generalizing seen frontier with
  | zero =>
    have hfrontier : frontier = [] := by
      rw [← List.length_eq_zero_iff]
      unfold GraphSearch.turnsLeft at hturns
      omega
    subst hfrontier
    exact h.seen_iff device
  | succ turns ih =>
    cases frontier with
    | nil => exact h.seen_iff device
    | cons current frontier =>
      have hcurrent := h.pending_seen current List.mem_cons_self
      have hfresh : ∀ y, y ∈ (graph.adjacency current).filter (· ∉ seen) ↔
          graph.upGraph.Adj current y ∧ y ∉ seen := by
        intro y
        rw [List.mem_filter, decide_eq_true_eq]
        exact Graph.mem_fresh_iff hcurrent
      have hnames : ∀ y ∈ (graph.adjacency current).filter (· ∉ seen),
          y ∈ graph.names ∧ y ∉ seen := by
        intro y hy
        exact ⟨Graph.mem_names_of_mem_adjacency (List.mem_filter.mp hy).1, ((hfresh y).mp hy).2⟩
      have hlength : (((graph.adjacency current).filter (· ∉ seen)).reverse ++ frontier).length =
          frontier.length + ((graph.adjacency current).filter (· ∉ seen)).length := by
        rw [List.length_append, List.length_reverse, Nat.add_comm]
      have hnodup : ((graph.adjacency current).filter (· ∉ seen)).Nodup :=
        (List.nodup_dedup _).filter _
      have hleft := @GraphSearch.turnsLeft_step _ _ _ _ _ _ _ current _ graph.nodup hnodup hnames
        (fun y => List.mem_append) hlength
      rw [visit]
      apply ih
      · apply h.step hfresh (fun y => List.mem_append)
        intro y
        rw [List.mem_append, List.mem_reverse, or_comm]
      · unfold Graph.names at hturns ⊢
        omega

lemma mem_visited_iff (hsubject : subject ∈ graph.names) (device : String) :
    device ∈ visited graph subject ↔ graph.upGraph.Reachable subject device := by
  apply mem_visit_iff _ (GraphSearch.Searched.init _ _)
  exact (GraphSearch.turnsLeft_init graph.nodup hsubject).le

lemma mem_sortedNames (names : List String) (name : String) :
    name ∈ sortedNames names ↔ name ∈ names := by
  rw [sortedNames, List.mem_insertionSort, List.mem_dedup]

theorem mem_connected_iff (source : ImpactSource) (subject device : String) :
    device ∈ (connectivityImpact source subject).connected ↔
      subject ∈ source.derivedGraph.names ∧
        source.derivedGraph.upGraph.Reachable subject device := by
  unfold connectivityImpact
  by_cases hsubject : subject ∈ source.derivedGraph.names
  · simp only [if_pos hsubject, mem_sortedNames, mem_visited_iff hsubject, iff_and_self]
    exact fun _ => hsubject
  · simp only [if_neg hsubject, List.not_mem_nil, false_iff]
    exact fun h => hsubject h.1

lemma disconnected_eq_nil (h : snapshot.coverage ≠ .complete) :
    (connectivityImpact (.ofSnapshot snapshot) subject).disconnected = [] := by
  have hconclusive : (ImpactSource.ofSnapshot snapshot).conclusive = false := by
    unfold ImpactSource.conclusive ImpactSource.snapshot?
    rw [Option.all_some, beq_eq_false_iff_ne]
    exact h
  unfold connectivityImpact
  by_cases hsubject : subject ∈ (ImpactSource.ofSnapshot snapshot).derivedGraph.names
  · simp only [if_pos hsubject, hconclusive, Bool.false_eq_true, if_false]
  · simp only [if_neg hsubject]

lemma layered_searchPath (turns : Nat) {predecessors : Predecessors} {frontier : List String}
    (h : GraphSearch.Layered graph.upGraph subject predecessors frontier)
    (hturns : GraphSearch.turnsLeft graph.names (predecessors.map Prod.fst) frontier ≤ turns) :
    ∃ rest, GraphSearch.Layered graph.upGraph subject
        (searchPath graph destination turns predecessors frontier) rest ∧
      (rest = [] ∨
        destination ∈ (searchPath graph destination turns predecessors frontier).map Prod.fst) := by
  induction turns generalizing predecessors frontier with
  | zero =>
    refine ⟨frontier, h, .inl ?_⟩
    rw [← List.length_eq_zero_iff]
    unfold GraphSearch.turnsLeft at hturns
    omega
  | succ turns ih =>
    cases frontier with
    | nil => exact ⟨[], h, .inl rfl⟩
    | cons current frontier =>
      have hcurrent := h.searched.pending_seen current List.mem_cons_self
      rw [searchPath]
      by_cases hdestination : current = destination
      · rw [if_pos hdestination]
        exact ⟨_, h, .inr (hdestination ▸ hcurrent)⟩
      · rw [if_neg hdestination]
        have hfresh : ∀ y, y ∈ (sortedNames (graph.adjacency current)).filter
            (· ∉ predecessors.map Prod.fst) ↔
              graph.upGraph.Adj current y ∧ y ∉ predecessors.map Prod.fst := by
          intro y
          rw [List.mem_filter, decide_eq_true_eq, mem_sortedNames]
          exact Graph.mem_fresh_iff hcurrent
        have hnames : ∀ y ∈ (sortedNames (graph.adjacency current)).filter
            (· ∉ predecessors.map Prod.fst),
              y ∈ graph.names ∧ y ∉ predecessors.map Prod.fst := by
          intro y hy
          have hadj := (mem_sortedNames _ _).mp (List.mem_filter.mp hy).1
          exact ⟨Graph.mem_names_of_mem_adjacency hadj, ((hfresh y).mp hy).2⟩
        have hnodup : ((sortedNames (graph.adjacency current)).filter
            (· ∉ predecessors.map Prod.fst)).Nodup := by
          apply List.Nodup.filter
          exact (List.perm_insertionSort _ _).nodup_iff.mpr (List.nodup_dedup _)
        apply ih (h.step hfresh)
        have hkeys := fun y => @List.mem_append _ y (predecessors.map Prod.fst)
          ((sortedNames (graph.adjacency current)).filter (· ∉ predecessors.map Prod.fst))
        have hleft := @GraphSearch.turnsLeft_step _ _ _ _ _ _ _ current _ graph.nodup hnodup hnames
          hkeys (@List.length_append _ frontier _)
        rw [List.map_append, List.map_map]
        unfold Graph.names at hturns ⊢
        have hid : ∀ l : List String, l.map (Prod.fst ∘ fun neighbor => (neighbor, some current)) =
            l := fun l => List.map_id l
        rw [hid]
        omega

lemma mem_names_of_reachable (hsource : subject ∈ graph.names)
    (hreach : graph.upGraph.Reachable subject destination) : destination ∈ graph.names := by
  obtain ⟨walk⟩ := hreach
  induction walk using SimpleGraph.Walk.concatRec with
  | Hnil => exact hsource
  | Hconcat walk hadj ih => exact Graph.mem_names_of_mem_adjacency (Graph.upGraph_adj_iff.mp hadj).2

theorem pathBetween_found (snapshot : GraphSnapshot) (source destination : String) :
    ((pathBetween snapshot source destination).status = .found ↔
        source ∈ snapshot.graph.names ∧
          snapshot.graph.upGraph.Reachable source destination) ∧
      ((pathBetween snapshot source destination).status = .found →
        ∃ walk : snapshot.graph.upGraph.Walk source destination, walk.IsPath ∧
          walk.length = snapshot.graph.upGraph.dist source destination ∧
            (pathBetween snapshot source destination).path = walk.support) := by
  by_cases hnames : source ∈ snapshot.graph.names ∧ destination ∈ snapshot.graph.names
  · have hturns := (GraphSearch.turnsLeft_init snapshot.graph.nodup hnames.1).le
    obtain ⟨rest, hlayered, hdone⟩ := @layered_searchPath snapshot.graph source destination _ _ _
      (GraphSearch.Layered.init snapshot.graph.upGraph source) hturns
    have hfound : destination ∈ (searchPath snapshot.graph destination
        snapshot.graph.names.length [(source, none)] [source]).map Prod.fst ↔
          snapshot.graph.upGraph.Reachable source destination := by
      constructor
      · exact hlayered.searched.reachable destination
      · intro hreach
        rcases hdone with rfl | hmem
        · exact (hlayered.searched.seen_iff destination).mpr hreach
        · exact hmem
    unfold pathBetween
    simp only [if_pos hnames]
    by_cases hmem : destination ∈ (searchPath snapshot.graph destination
        snapshot.graph.names.length [(source, none)] [source]).map Prod.fst
    · rw [if_pos hmem]
      obtain ⟨walk, hpath, hlength, hchain⟩ := hlayered.isPath_chain hmem
      exact ⟨⟨fun _ => ⟨hnames.1, hfound.mp hmem⟩, fun _ => rfl⟩,
        fun _ => ⟨walk, hpath, hlength, hchain⟩⟩
    · rw [if_neg hmem]
      have hnot : ¬ (source ∈ snapshot.graph.names ∧
          snapshot.graph.upGraph.Reachable source destination) :=
        fun h => hmem (hfound.mpr h.2)
      split
      · exact ⟨⟨nofun, fun h => absurd h hnot⟩, nofun⟩
      · exact ⟨⟨nofun, fun h => absurd h hnot⟩, nofun⟩
  · have hnot : ¬ (source ∈ snapshot.graph.names ∧
        snapshot.graph.upGraph.Reachable source destination) :=
      fun h => hnames ⟨h.1, mem_names_of_reachable h.1 h.2⟩
    unfold pathBetween
    simp only [if_neg hnames]
    exact ⟨⟨nofun, fun h => absurd h hnot⟩, nofun⟩

lemma pathBetween_ne_notFound (h : snapshot.coverage ≠ .complete) (source destination : String) :
    (pathBetween snapshot source destination).status ≠ .notFound := by
  unfold pathBetween
  simp only [if_neg h]
  by_cases hnames : source ∈ snapshot.graph.names ∧ destination ∈ snapshot.graph.names
  · rw [if_pos hnames]
    split
    · nofun
    · nofun
  · rw [if_neg hnames]
    nofun

end

end NetTools
