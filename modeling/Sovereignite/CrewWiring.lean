import Sovereignite.CrewReconcilers
import Sovereignite.EffectEvaluation

/-!
# Wiring the members of a crew

The members of a crew refer to each other by name.  They are built in the order
in which they are listed, so a crew whose references form no cycle is wired
exactly when every member is listed after those it refers to.  The first member
is the root, and so a crew whose root refers to anyone is never ready.
-/

namespace Sovereignite.Shipcrew

open Effect Program

section Lists

def agentNamed (agents : List (String × Agent)) (name : String) : Agent :=
  (agents.lookup name).getD default

/-- Every member is listed after those it refers to, and these are among the
known names or listed before. -/
def ReferencesPrecede : List String → List CrewMember → Prop
  | _, [] => True
  | known, m :: rest =>
    (∀ ref ∈ m.subAgents, ref ∈ known) ∧ ReferencesPrecede (m.name :: known) rest

instance : (known : List String) → (members : List CrewMember) →
    Decidable (ReferencesPrecede known members)
  | _, [] => isTrue trivial
  | known, m :: rest =>
    have := instDecidableReferencesPrecede (m.name :: known) rest
    inferInstanceAs (Decidable (_ ∧ _))

theorem lookup_isSome_iff {Value : Type} {entries : List (String × Value)} {name : String} :
    (entries.lookup name).isSome = true ↔ name ∈ entries.map Prod.fst := by
  rw [List.lookup_isSome_iff]
  simp only [beq_iff_eq, List.mem_map]
  constructor
  · rintro ⟨entry, member, same⟩
    exact ⟨entry, member, same.symm⟩
  · rintro ⟨entry, member, same⟩
    exact ⟨entry, member, same.symm⟩

end Lists

section Building

variable {kit : Toolkit} {models : List (String × Llm)}
variable {agents final : List (String × Agent)} {m : CrewMember} {crew : Crew}

/-- The references of a member are found iff their names are there. -/
theorem subAgentsOf_eq_ok {subAgents : List Agent} :
    subAgentsOf agents m = .ok subAgents ↔
      (∀ ref ∈ m.subAgents, ref ∈ agents.map Prod.fst) ∧
        subAgents = m.subAgents.map (agentNamed agents) := by
  unfold subAgentsOf
  induction m.subAgents generalizing subAgents with
  | nil =>
    simp only [List.mapM_nil, List.map_nil]
    constructor
    · rintro ⟨⟩
      simp
    · rintro ⟨_, rfl⟩
      rfl
  | cons ref rest ih =>
    rw [List.mapM_cons, bind_eq_ok]
    cases found : agents.lookup ref with
    | none =>
      have missing : ref ∉ agents.map Prod.fst := by
        rw [← lookup_isSome_iff, found]
        simp
      constructor
      · rintro ⟨_, impossible, _⟩
        cases impossible
      · rintro ⟨present, _⟩
        exact absurd (present ref List.mem_cons_self) missing
    | some agent =>
      have present : ref ∈ agents.map Prod.fst := by
        rw [← lookup_isSome_iff, found]
        rfl
      constructor
      · rintro ⟨_, ⟨⟩, remaining⟩
        obtain ⟨_, built, finished⟩ := bind_eq_ok.mp remaining
        cases finished
        obtain ⟨known, rfl⟩ := ih.mp built
        refine ⟨?_, ?_⟩
        · simpa using ⟨by simpa using present, by simpa using known⟩
        · simp [agentNamed, found]
      · rintro ⟨known, rfl⟩
        refine ⟨agent, rfl, bind_eq_ok.mpr ⟨rest.map (agentNamed agents), ?_, ?_⟩⟩
        · exact ih.mpr ⟨fun other member => known other (List.mem_cons_of_mem _ member), rfl⟩
        · simp [agentNamed, found]
          rfl

/-- The agents of a crew: a member's configuration over the agents of those it refers to. -/
inductive AgentOf (kit : Toolkit) (crew : Crew) : String → Agent → Prop where
  | node {m : CrewMember} {model : Option Llm} {config : AgentConfig} {subAgents : List Agent}
      (listed : m ∈ crew.spec.members) (read : configOf kit model m = .ok config)
      (referred : List.Forall₂ (AgentOf kit crew) m.subAgents subAgents) :
      AgentOf kit crew m.name (.node config subAgents)

/-- The configurations of all members can be read and the library accepts the
agents of this crew and a runner for its root. -/
structure Constructible (kit : Toolkit) (crew : Crew) : Prop where
  configs : ∀ m ∈ crew.spec.members, ∀ model, ∃ config, configOf kit model m = .ok config
  agents : ∀ name config subAgents, AgentOf kit crew name (.node config subAgents) →
    kit.checkAgent config subAgents = .ok ()
  runners : ∀ first root, crew.spec.members.head? = some first →
    AgentOf kit crew first.name root → kit.checkRunner (appNameOf crew) root = .ok ()

def AgentsOf (kit : Toolkit) (crew : Crew) (agents : List (String × Agent)) : Prop :=
  ∀ name agent, agents.lookup name = some agent → AgentOf kit crew name agent

theorem agentsOf_nil : AgentsOf kit crew [] := by
  rintro _ _ ⟨⟩

theorem AgentsOf.node {model : Option Llm} {config : AgentConfig}
    (made : AgentsOf kit crew agents) (listed : m ∈ crew.spec.members)
    (read : configOf kit model m = .ok config)
    (known : ∀ ref ∈ m.subAgents, ref ∈ agents.map Prod.fst) :
    AgentOf kit crew m.name (.node config (m.subAgents.map (agentNamed agents))) := by
  refine .node listed read (List.forall₂_map_right_iff.mpr (List.forall₂_same.mpr ?_))
  intro ref referred
  obtain ⟨agent, found⟩ := Option.isSome_iff_exists.mp (lookup_isSome_iff.mpr (known ref referred))
  rw [agentNamed, found]
  exact made ref agent found

theorem AgentsOf.cons {name : String} {agent : Agent} (made : AgentsOf kit crew agents)
    (new : AgentOf kit crew name agent) : AgentsOf kit crew ((name, agent) :: agents) := by
  intro other found stored
  rw [List.lookup_cons] at stored
  split at stored
  · next same =>
      cases stored
      rw [beq_iff_eq.mp same]
      exact new
  · exact made other found stored

theorem addMember_eq_ok {config : AgentConfig} {next : List (String × Agent)}
    (constructible : Constructible kit crew) (made : AgentsOf kit crew agents)
    (listed : m ∈ crew.spec.members)
    (read : configOf kit (models.lookup m.name) m = .ok config) :
    addMember kit models agents m = .ok next ↔
      (∀ ref ∈ m.subAgents, ref ∈ agents.map Prod.fst) ∧
        next = (m.name, .node config (m.subAgents.map (agentNamed agents))) :: agents := by
  have accepts := fun known =>
    constructible.agents m.name config _ (made.node listed read known)
  unfold addMember buildMember
  constructor
  · intro added
    obtain ⟨_, built, finished⟩ := bind_eq_ok.mp added
    obtain ⟨subAgents, found, built⟩ := bind_eq_ok.mp built
    obtain ⟨_, configured, built⟩ := bind_eq_ok.mp built
    rw [read] at configured
    cases configured
    obtain ⟨known, rfl⟩ := subAgentsOf_eq_ok.mp found
    rw [accepts known] at built
    cases built
    cases finished
    exact ⟨known, rfl⟩
  · rintro ⟨known, rfl⟩
    apply bind_eq_ok.mpr
    refine ⟨.node config (m.subAgents.map (agentNamed agents)), ?_, rfl⟩
    apply bind_eq_ok.mpr
    refine ⟨_, subAgentsOf_eq_ok.mpr ⟨known, rfl⟩, ?_⟩
    apply bind_eq_ok.mpr
    refine ⟨config, read, ?_⟩
    rw [accepts known]

variable {members : List CrewMember}

theorem foldEach_addMember_iff (constructible : Constructible kit crew)
    (listed : members ⊆ crew.spec.members) (made : AgentsOf kit crew agents) :
    (∃ final, foldEach (addMember kit models) agents members = .ok final) ↔
      ReferencesPrecede (agents.map Prod.fst) members := by
  induction members generalizing agents with
  | nil => simp [foldEach, ReferencesPrecede]
  | cons m _ ih =>
    rw [List.cons_subset] at listed
    obtain ⟨_, read⟩ := constructible.configs m listed.1 (models.lookup m.name)
    constructor
    · rintro ⟨final, folded⟩
      obtain ⟨_, added, folded⟩ := bind_eq_ok.mp folded
      obtain ⟨known, rfl⟩ := (addMember_eq_ok constructible made listed.1 read).mp added
      have grown := made.cons (made.node listed.1 read known)
      exact ⟨known, (ih listed.2 grown).mp ⟨final, folded⟩⟩
    · rintro ⟨known, preceding⟩
      have grown := made.cons (made.node listed.1 read known)
      obtain ⟨final, folded⟩ := (ih listed.2 grown).mpr preceding
      exact ⟨final, bind_eq_ok.mpr
        ⟨_, (addMember_eq_ok constructible made listed.1 read).mpr ⟨known, rfl⟩, folded⟩⟩

/-- A member was built with its configuration and with exactly the agents it
refers to. -/
def BuiltAs (kit : Toolkit) (models : List (String × Llm)) (agents : List (String × Agent))
    (m : CrewMember) : Prop :=
  ∃ config, configOf kit (models.lookup m.name) m = .ok config ∧
    agents.lookup m.name = some (.node config (m.subAgents.map (agentNamed agents)))

/-- Members with different names do not disturb each other: what was built stays,
and every member is built with the agents it refers to. -/
theorem foldEach_addMember_built (constructible : Constructible kit crew)
    (listed : members ⊆ crew.spec.members) (made : AgentsOf kit crew agents)
    (unique : (members.map CrewMember.name).Nodup)
    (separate : ∀ m ∈ members, m.name ∉ agents.map Prod.fst)
    (folded : foldEach (addMember kit models) agents members = .ok final) :
    AgentsOf kit crew final ∧
      (∀ name ∈ agents.map Prod.fst, final.lookup name = agents.lookup name) ∧
      ∀ m ∈ members, BuiltAs kit models final m := by
  induction members generalizing agents with
  | nil =>
    cases folded
    simp [made]
  | cons m rest ih =>
    rw [List.cons_subset] at listed
    obtain ⟨config, read⟩ := constructible.configs m listed.1 (models.lookup m.name)
    obtain ⟨_, added, folded⟩ := bind_eq_ok.mp folded
    obtain ⟨known, rfl⟩ := (addMember_eq_ok constructible made listed.1 read).mp added
    simp only [List.map_cons, List.nodup_cons, List.mem_map, not_exists, not_and] at unique
    have new := separate m List.mem_cons_self
    have apart : ∀ other ∈ rest, other.name ∉ ((m.name, Agent.node config
        (m.subAgents.map (agentNamed agents))) :: agents).map Prod.fst := by
      intro other member listed
      rcases List.mem_cons.mp listed with same | earlier
      · exact unique.1 other member same
      · exact separate other (List.mem_cons_of_mem _ member) earlier
    have grown := made.cons (made.node listed.1 read known)
    obtain ⟨finished, kept, built⟩ := ih listed.2 grown unique.2 apart folded
    -- what was there before is not the new member and is found behind it
    have earlier : ∀ name ∈ agents.map Prod.fst, final.lookup name = agents.lookup name := by
      intro name member
      have different : name ≠ m.name := by
        rintro rfl
        exact new member
      have unequal : (name == m.name) = false := by simpa using different
      rw [kept name (List.mem_cons_of_mem _ member), List.lookup_cons, unequal]
    refine ⟨finished, earlier, ?_⟩
    intro other member
    rcases List.mem_cons.mp member with rfl | later
    · refine ⟨config, read, ?_⟩
      have same : other.subAgents.map (agentNamed agents) =
          other.subAgents.map (agentNamed final) := by
        apply List.map_congr_left
        intro ref listed
        unfold agentNamed
        rw [earlier ref (known ref listed)]
      rw [kept other.name List.mem_cons_self, List.lookup_cons, same]
      simp
    · exact built other later

end Building

section Serving

structure Cluster where
  backends : ObjectKey → Option ModelBackend
  secrets : ObjectKey → Option Secret
  crews : ObjectKey → Option Crew
  runs : ObjectKey → Option CrewRun
  registry : ObjectKey → Option RunnerEntry

def found {Object : Type} : Option Object → Except Error Object
  | none => .error (.sentinel .notFound)
  | some object => .ok object

/-- A cluster that answers every request from its objects.  An update is refused
unless it is based on the version that is stored. -/
def serve : Oracle signature Cluster
  | state, .getModelBackend key => (found (state.backends key), state)
  | state, .getSecret key => (found (state.secrets key), state)
  | state, .getCrew key => (found (state.crews key), state)
  | state, .getCrewRun key => (found (state.runs key), state)
  | state, .updateModelBackend mb =>
    match state.backends mb.key with
    | none => (.error (.sentinel .notFound), state)
    | some stored =>
      if stored.version = mb.version then
        (.ok (mb.version + 1), { state with
          backends := Function.update state.backends mb.key
            (some { stored with ready := mb.ready, version := mb.version + 1 }) })
      else (.error (.message "conflict"), state)
  | state, .updateCrew crew =>
    match state.crews crew.key with
    | none => (.error (.sentinel .notFound), state)
    | some stored =>
      if stored.version = crew.version then
        (.ok (crew.version + 1), { state with
          crews := Function.update state.crews crew.key
            (some { stored with status := crew.status, version := crew.version + 1 }) })
      else (.error (.message "conflict"), state)
  | state, .updateCrewRun run =>
    match state.runs run.key with
    | none => (.error (.sentinel .notFound), state)
    | some stored =>
      if stored.version = run.version then
        (.ok (run.version + 1), { state with
          runs := Function.update state.runs run.key
            (some { stored with status := run.status, version := run.version + 1 }) })
      else (.error (.message "conflict"), state)
  | state, .registryGet key => (state.registry key, state)
  | state, .registrySet key entry =>
    ((), { state with registry := Function.update state.registry key (some entry) })
  | state, .registryDelete key =>
    ((), { state with registry := Function.update state.registry key none })
  | state, .run _ _ _ _ _ _ => ([], state)

variable {kit : Toolkit} {state : Cluster} {crew : Crew} {key : ObjectKey}

theorem eval_ask_bind {β : Type} (request : Request) (next : Reply request → Running β) :
    (ask request >>= next).eval serve state =
      (next (serve state request).1).eval serve (serve state request).2 :=
  rfl

def apiKeyOf (state : Cluster) (namespaceName : String) : Option SecretKeyRef → Option String
  | none => some ""
  | some ref => (state.secrets ⟨namespaceName, ref.name⟩).bind (·.lookup ref.key)

/-- A backend is there, is ready, and a model can be made from it. -/
def BackendReady (kit : Toolkit) (state : Cluster) (namespaceName ref : String) : Prop :=
  ∃ mb apiKey llm, state.backends ⟨namespaceName, ref⟩ = some mb ∧ mb.ready = true ∧
    apiKeyOf state namespaceName mb.apiKeyRef = some apiKey ∧
    buildModel kit mb apiKey = .ok llm

/-- The backends of the crew and of its members are ready. -/
def BackendsReady (kit : Toolkit) (state : Cluster) (crew : Crew) : Prop :=
  BackendReady kit state crew.key.namespaceName crew.spec.modelRef ∧
    ∀ m ∈ crew.spec.members, m.modelRef ≠ "" →
      BackendReady kit state crew.key.namespaceName m.modelRef

theorem eval_resolveAPIKeyFromRef {namespaceName apiKey : String} {ref : Option SecretKeyRef}
    (present : apiKeyOf state namespaceName ref = some apiKey) :
    (resolveAPIKeyFromRef namespaceName ref).eval serve state = (.ok apiKey, state) := by
  unfold resolveAPIKeyFromRef secretValue
  cases ref with
  | none =>
    cases present
    rfl
  | some =>
    obtain ⟨_, stored, valued⟩ := Option.bind_eq_some_iff.mp present
    simp only [eval_ask_bind, serve, stored, found, Except.mapError, take, ofExcept_ok,
      ret_bind, valued]
    rfl

theorem eval_resolveModel {ref : String}
    (ready : BackendReady kit state crew.key.namespaceName ref) :
    ∃ llm, (resolveModel kit crew ref).eval serve state = (.ok llm, state) := by
  obtain ⟨_, _, llm, stored, isReady, present, built⟩ := ready
  refine ⟨llm, ?_⟩
  unfold resolveModel
  simp only [eval_ask_bind, serve, stored, found, Except.mapError, take, ofExcept_ok, ret_bind]
  rw [eval_rejectIf_bind _ (by simp [isReady]),
    eval_bind_ok _ (eval_resolveAPIKeyFromRef present), eval_ofExcept, built]

theorem eval_resolveMember {defaultModel : Llm} {models : List (String × Llm)} {m : CrewMember}
    (ready : m.modelRef ≠ "" → BackendReady kit state crew.key.namespaceName m.modelRef) :
    ∃ next, (resolveMember kit crew defaultModel (.ok models) m).eval serve state =
      (.ok (.ok next), state) := by
  unfold resolveMember
  by_cases unnamed : m.modelRef = ""
  · exact ⟨(m.name, defaultModel) :: models, by simp [unnamed]⟩
  · obtain ⟨llm, resolved⟩ := eval_resolveModel (ready unnamed)
    refine ⟨(m.name, llm) :: models, ?_⟩
    simp [unnamed, resolved]

theorem eval_resolveModels (ready : BackendsReady kit state crew) :
    ∃ models, (resolveModels kit crew).eval serve state = (.ok (.ok models), state) := by
  obtain ⟨llm, resolved⟩ := eval_resolveModel ready.1
  have loop : ∀ (members : List CrewMember) (models : List (String × Llm)),
      (∀ m ∈ members, m.modelRef ≠ "" → BackendReady kit state crew.key.namespaceName m.modelRef) →
      ∃ final, (forEach (resolveMember kit crew llm) (.ok models) members).eval serve
        state = (.ok (.ok final), state) := by
    intro members
    induction members with
    | nil =>
      intro models _
      exact ⟨models, rfl⟩
    | cons m _ ih =>
      intro models backends
      obtain ⟨next, here⟩ := @eval_resolveMember _ _ _ llm models _ (backends m List.mem_cons_self)
      obtain ⟨final, later⟩ :=
        ih next fun other member => backends other (List.mem_cons_of_mem _ member)
      refine ⟨final, ?_⟩
      unfold forEach
      rw [eval_bind_ok _ here, later]
  obtain ⟨final, evaluated⟩ := loop crew.spec.members [] ready.2
  refine ⟨final, ?_⟩
  unfold resolveModels
  rw [eval_attempt_bind, resolved]
  exact evaluated

theorem eval_reconcileCrew {models : List (String × Llm)} (stored : state.crews key = some crew)
    (keyed : crew.key = key)
    (resolved : (resolveModels kit crew).eval serve state = (.ok (.ok models), state)) :
    (∀ entry, buildEntry kit crew models = .ok entry →
        ((reconcileCrew kit key).eval serve state).1 = .ok () ∧
          ((reconcileCrew kit key).eval serve state).2.registry key = some entry ∧
          (((reconcileCrew kit key).eval serve state).2.crews key).any (·.status.ready) = true) ∧
      ∀ msg, buildEntry kit crew models = .error msg →
        ((reconcileCrew kit key).eval serve state).1 = .error (.message msg) := by
  subst keyed
  unfold reconcileCrew
  simp only [eval_ask_bind, serve, stored, found, eval_bind_ok _ resolved]
  constructor
  · intro _ built
    simp [built, setReady, eval_ask_bind, serve, stored, take]
  · intro _ refused
    simp [refused, setNotReady, eval_ask_bind]

end Serving

section Wiring

def Refers (members : List CrewMember) (first second : String) : Prop :=
  ∃ m ∈ members, m.name = first ∧ second ∈ m.subAgents

/-- Members with different names whose references name members and form no cycle. -/
structure WellReferenced (members : List CrewMember) : Prop where
  unique : (members.map CrewMember.name).Nodup
  known : ∀ m ∈ members, ∀ ref ∈ m.subAgents, ref ∈ members.map CrewMember.name
  acyclic : ∀ name, ¬ Relation.TransGen (Refers members) name name

/-- The reconcile builds every member with exactly the agents it refers to, takes
the first one as root, registers its runner and marks the crew ready. -/
def WiredAndReady (kit : Toolkit) (state : Cluster) (key : ObjectKey) (crew : Crew) : Prop :=
  ∃ models memberAgents first,
    (resolveModels kit crew).eval serve state = (.ok (.ok models), state) ∧
    buildMembers kit models crew.spec.members = .ok memberAgents ∧
    (∀ m ∈ crew.spec.members, BuiltAs kit models memberAgents m) ∧
    crew.spec.members.head? = some first ∧
    ((reconcileCrew kit key).eval serve state).1 = .ok () ∧
    ((reconcileCrew kit key).eval serve state).2.registry key =
      some ⟨agentNamed memberAgents first.name, appNameOf crew⟩ ∧
    (((reconcileCrew kit key).eval serve state).2.crews key).any (·.status.ready) = true

theorem buildEntry_eq_ok {kit : Toolkit} {crew : Crew} {models : List (String × Llm)}
    {memberAgents : List (String × Agent)} {first : CrewMember}
    (constructible : Constructible kit crew) (made : AgentsOf kit crew memberAgents)
    (built : buildMembers kit models crew.spec.members = .ok memberAgents)
    (rooted : crew.spec.members.head? = some first)
    (present : BuiltAs kit models memberAgents first) :
    buildEntry kit crew models = .ok ⟨agentNamed memberAgents first.name, appNameOf crew⟩ := by
  obtain ⟨_, _, stored⟩ := present
  have root : rootAgentOf crew.spec.members memberAgents =
      .ok (agentNamed memberAgents first.name) := by
    cases listed : crew.spec.members with
    | nil => simp [listed] at rooted
    | cons =>
      rw [listed] at rooted
      cases rooted
      simp [rootAgentOf, agentNamed, stored]
  unfold buildEntry
  apply bind_eq_ok.mpr
  refine ⟨memberAgents, built, bind_eq_ok.mpr ⟨_, root, ?_⟩⟩
  have agent : AgentOf kit crew first.name (agentNamed memberAgents first.name) := by
    rw [agentNamed, stored]
    exact made _ _ stored
  rw [constructible.runners first _ rooted agent]

/-- A crew is wired and ready iff it has a member and every member is listed
after those it refers to. -/
theorem wired_iff_references_precede {kit : Toolkit} {state : Cluster} {key : ObjectKey}
    {crew : Crew} (stored : state.crews key = some crew) (keyed : crew.key = key)
    (referenced : WellReferenced crew.spec.members)
    (backends : BackendsReady kit state crew)
    (constructible : Constructible kit crew) :
    WiredAndReady kit state key crew ↔
      crew.spec.members ≠ [] ∧ ReferencesPrecede [] crew.spec.members := by
  constructor
  · rintro ⟨models, memberAgents, first, _, built, _, rooted, _⟩
    constructor
    · intro none
      simp [none] at rooted
    · exact (foldEach_addMember_iff constructible (List.Subset.refl _) agentsOf_nil).mp
        ⟨memberAgents, built⟩
  · rintro ⟨some, preceding⟩
    obtain ⟨models, resolved⟩ := eval_resolveModels backends
    obtain ⟨memberAgents, built⟩ :=
      (@foldEach_addMember_iff kit models [] crew _ constructible (List.Subset.refl _)
        agentsOf_nil).mpr preceding
    obtain ⟨made, _, wired⟩ := foldEach_addMember_built constructible (List.Subset.refl _)
      agentsOf_nil referenced.unique (by simp) built
    obtain ⟨first, _, listed⟩ := List.exists_cons_of_ne_nil some
    have rooted : crew.spec.members.head? = Option.some first := by rw [listed]; rfl
    have member : first ∈ crew.spec.members := by rw [listed]; exact List.mem_cons_self
    have entry := buildEntry_eq_ok constructible made built rooted (wired first member)
    obtain ⟨succeeded, registered, ready⟩ :=
      (eval_reconcileCrew stored keyed resolved).1 _ entry
    exact ⟨models, memberAgents, first, resolved, built, wired, rooted, succeeded, registered,
      ready⟩

end Wiring

section Orders

/-- Libraries that accept everything. -/
def permissive : Toolkit where
  checkGemini _ _ := .ok ()
  checkOpenAI _ _ := .ok ()
  checkAgent _ _ := .ok ()
  checkRunner _ _ := .ok ()
  unmarshalContentConfig _ := .ok .null
  unmarshalSchema _ := .ok .null
  unmarshalParts _ := .ok []
  marshalEvent _ := .ok []

def sampleKey : ObjectKey := ⟨"default", "crew"⟩

def sampleBackend : ModelBackend where
  key := ⟨"default", "llama"⟩
  version := 1
  provider := .ollama
  model := "llama"
  baseURL := ""
  apiKeyRef := none
  ready := true

def sampleMember (name : String) (subAgents : List String) : CrewMember where
  name := name
  description := ""
  mode := .chat
  modelRef := ""
  instruction := ""
  subAgents := subAgents
  outputKey := ""
  generateContentConfig := none
  inputSchema := none
  outputSchema := none
  includeContents := none
  disallowTransferToParent := none
  disallowTransferToPeers := none

def skipper : CrewMember := sampleMember "skipper" ["mate"]

def mate : CrewMember := sampleMember "mate" []

def sampleCrew (members : List CrewMember) : Crew where
  key := sampleKey
  version := 1
  spec := ⟨"", "llama", members⟩
  status := ⟨false, []⟩

def sampleCluster (members : List CrewMember) : Cluster where
  backends key := if key = sampleBackend.key then some sampleBackend else none
  secrets _ := none
  crews key := if key = sampleKey then some (sampleCrew members) else none
  runs _ := none
  registry _ := none

theorem sampleCluster_ready {members : List CrewMember} (unnamed : ∀ m ∈ members, m.modelRef = "") :
    BackendsReady permissive (sampleCluster members) (sampleCrew members) := by
  constructor
  · exact ⟨sampleBackend, "", _, rfl, rfl, rfl, rfl⟩
  · intro m member named
    exact absurd (unnamed m member) named

theorem permissive_constructs {members : List CrewMember}
    (plain : ∀ m ∈ members, m.generateContentConfig = none ∧ m.inputSchema = none ∧
      m.outputSchema = none) : Constructible permissive (sampleCrew members) where
  configs := by
    intro m member _
    obtain ⟨config, input, output⟩ := plain m member
    simp [configOf, readOptional, config, input, output, bind_eq_ok]
  agents _ _ _ _ := rfl
  runners _ _ _ _ := rfl

theorem wellReferenced_of_perm {members : List CrewMember}
    (listed : members.Perm [skipper, mate]) : WellReferenced members := by
  have only : ∀ first second, Relation.TransGen (Refers members) first second →
      first = "skipper" ∧ second = "mate" := by
    have step : ∀ first second, Refers members first second →
        first = "skipper" ∧ second = "mate" := by
      rintro first second ⟨m, member, rfl, referred⟩
      have which : m = skipper ∨ m = mate := by simpa using listed.mem_iff.mp member
      rcases which with rfl | rfl
      · exact ⟨rfl, by simpa [skipper, sampleMember] using referred⟩
      · simp [mate, sampleMember] at referred
    intro first second path
    induction path with
    | single refers => exact step _ _ refers
    | tail _ refers ih => exact ⟨ih.1, (step _ _ refers).2⟩
  constructor
  · exact (listed.map CrewMember.name).nodup_iff.mpr (by decide)
  · intro m member ref referred
    rw [(listed.map CrewMember.name).mem_iff]
    have which : m = skipper ∨ m = mate := by simpa using listed.mem_iff.mp member
    rcases which with rfl | rfl
    · have same : ref = "mate" := by simpa [skipper, sampleMember] using referred
      rw [same]
      decide
    · simp [mate, sampleMember] at referred
  · intro name cycle
    obtain ⟨first, second⟩ := only name name cycle
    rw [first] at second
    exact absurd second (by decide)

/-- With the skipper as root the crew is not ready, although its references form
no cycle and nothing fails. -/
theorem skipper_first_not_ready :
    ∃ kit state key crew, state.crews key = some crew ∧ crew.key = key ∧
      WellReferenced crew.spec.members ∧ BackendsReady kit state crew ∧
      Constructible kit crew ∧ crew.spec.members ≠ [] ∧
      ¬ WiredAndReady kit state key crew := by
  have constructible : Constructible permissive (sampleCrew [skipper, mate]) :=
    permissive_constructs (by decide)
  refine ⟨permissive, sampleCluster [skipper, mate], sampleKey, sampleCrew [skipper, mate], rfl,
    rfl, wellReferenced_of_perm (.refl _), sampleCluster_ready (by decide), constructible,
    List.cons_ne_nil _ _, ?_⟩
  rintro ⟨_, memberAgents, _, _, built, _⟩
  have preceding : ReferencesPrecede [] [skipper, mate] :=
    (foldEach_addMember_iff constructible (List.Subset.refl _) agentsOf_nil).mp
      ⟨memberAgents, built⟩
  exact absurd preceding (by decide)

/-- With the mate as root the same crew is ready. -/
theorem mate_first_ready :
    WiredAndReady permissive (sampleCluster [mate, skipper]) sampleKey
      (sampleCrew [mate, skipper]) :=
  (wired_iff_references_precede rfl rfl
    (wellReferenced_of_perm (.swap skipper mate [])) (sampleCluster_ready (by decide))
    (permissive_constructs (by decide))).mpr ⟨List.cons_ne_nil _ _, by decide⟩

end Orders

end Sovereignite.Shipcrew
