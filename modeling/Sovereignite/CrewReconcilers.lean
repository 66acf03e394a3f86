import Sovereignite.CrewObjects

/-!
# The reconcilers of crews

Three reconcilers work on model backends, on crews and on runs of crews.  The
agents of a crew are built in the order of its members, and a reference to
another member is looked up among those built before.
-/

namespace Sovereignite.Shipcrew

open Effect

section Models

variable (kit : Toolkit)

def buildModel (mb : ModelBackend) (apiKey : String) : Except Error Llm :=
  match mb.provider with
  | .gemini => do
    reject (apiKey == "") (.message "gemini provider requires apiKeyRef")
    (kit.checkGemini mb.model apiKey).mapError .message
    return ⟨.gemini, mb.model, "", apiKey⟩
  | .openai => do
    (kit.checkOpenAI mb.model mb.baseURL).mapError .message
    return ⟨.openai, mb.model, mb.baseURL, ""⟩
  | .ollama => do
    let baseURL := if mb.baseURL == "" then "http://localhost:11434/v1" else mb.baseURL
    (kit.checkOpenAI mb.model baseURL).mapError .message
    return ⟨.ollama, mb.model, baseURL, ""⟩
  | .unknown text => .error (.message ("unknown provider " ++ quoted text))

/-- The value of a secret that a reference names.  The two texts are those of
the errors, which differ between the reconcilers. -/
def secretValue (ref : Option SecretKeyRef) (namespaceName : String)
    (unread : SecretKeyRef → Error → Error) (missing : SecretKeyRef → Error) :
    Running String :=
  match ref with
  | none => return ""
  | some ref => do
    let reply ← ask (.getSecret ⟨namespaceName, ref.name⟩)
    let secret ← take (reply.mapError (unread ref))
    match secret.lookup ref.key with
    | none => .fail (missing ref)
    | some data => return data

def resolveAPIKey (mb : ModelBackend) : Running String :=
  let place (ref : SecretKeyRef) := mb.key.namespaceName ++ "/" ++ ref.name
  secretValue mb.apiKeyRef mb.key.namespaceName
    (fun ref => .wrap ("failed to get secret " ++ place ref))
    fun ref => .message ("key " ++ quoted ref.key ++ " not found in secret " ++ place ref)

def resolveAPIKeyFromRef (namespaceName : String) (ref : Option SecretKeyRef) : Running String :=
  let place (ref : SecretKeyRef) := namespaceName ++ "/" ++ ref.name
  secretValue ref namespaceName (fun ref => .wrap ("secret " ++ place ref))
    fun ref => .message ("key " ++ quoted ref.key ++ " not in secret " ++ place ref)

def reconcileModelBackend (key : ObjectKey) : Running Unit := do
  match ← ask (.getModelBackend key) with
  | .error error => ignoreNotFound error
  | .ok mb => do
    let apiKey ← resolveAPIKey mb
    match buildModel kit mb apiKey with
    | .error error => do
      let _ ← ask (.updateModelBackend { mb with ready := false })
      .fail (.wrap "model backend not ready" error)
    | .ok _ => do
      let _ ← take (← ask (.updateModelBackend { mb with ready := true }))
      return ()

def resolveModel (crew : Crew) (ref : String) : Running Llm := do
  let reply ← ask (.getModelBackend ⟨crew.key.namespaceName, ref⟩)
  let mb ← take (reply.mapError (.wrap ("model backend " ++ quoted ref ++ " not found")))
  Program.rejectIf (!mb.ready) (.message ("model backend " ++ quoted ref ++ " not ready"))
  let apiKey ← resolveAPIKeyFromRef crew.key.namespaceName mb.apiKeyRef
  take (buildModel kit mb apiKey)

end Models

section Wiring

variable (kit : Toolkit)

def resolveMode : AgentMode → Mode
  | .chat => .chat
  | .task => .task
  | .singleTurn => .singleTurn
  | .unknown _ => .chat

def readOptional (name field : String) (read : Bytes → Except String Json)
    (raw : Option Bytes) : Except String (Option Json) :=
  match raw with
  | none => .ok none
  | some raw =>
    match read raw with
    | .error error => .error ("member " ++ quoted name ++ " " ++ field ++ ": " ++ error)
    | .ok value => .ok (some value)

/-- The agents a member refers to, among those built before. -/
def subAgentsOf (memberAgents : List (String × Agent)) (m : CrewMember) :
    Except String (List Agent) :=
  m.subAgents.mapM fun ref =>
    match memberAgents.lookup ref with
    | none => .error ("member " ++ quoted m.name ++ " references unknown subagent " ++ quoted ref)
    | some sub => .ok sub

def configOf (model : Option Llm) (m : CrewMember) : Except String AgentConfig := do
  let generateContentConfig ← readOptional m.name "generateContentConfig"
    kit.unmarshalContentConfig m.generateContentConfig
  let inputSchema ← readOptional m.name "inputSchema" kit.unmarshalSchema m.inputSchema
  let outputSchema ← readOptional m.name "outputSchema" kit.unmarshalSchema m.outputSchema
  return {
    name := m.name
    description := m.description
    model
    mode := resolveMode m.mode
    instruction := m.instruction
    outputKey := m.outputKey
    generateContentConfig
    inputSchema
    outputSchema
    includeContents := m.includeContents.getD ""
    disallowTransferToParent := m.disallowTransferToParent.getD false
    disallowTransferToPeers := m.disallowTransferToPeers.getD false }

def buildMember (memberModels : List (String × Llm)) (memberAgents : List (String × Agent))
    (m : CrewMember) : Except String Agent := do
  let subAgents ← subAgentsOf memberAgents m
  let config ← configOf kit (memberModels.lookup m.name) m
  match kit.checkAgent config subAgents with
  | .error error => .error ("member " ++ quoted m.name ++ ": " ++ error)
  | .ok _ => .ok (.node config subAgents)

/-- Build the agent of one more member; the latest one of a name is found first. -/
def addMember (memberModels : List (String × Llm)) (memberAgents : List (String × Agent))
    (m : CrewMember) : Except String (List (String × Agent)) := do
  let a ← buildMember kit memberModels memberAgents m
  return (m.name, a) :: memberAgents

def buildMembers (memberModels : List (String × Llm)) (members : List CrewMember) :
    Except String (List (String × Agent)) :=
  foldEach (addMember kit memberModels) [] members

def rootAgentOf (members : List CrewMember) (memberAgents : List (String × Agent)) :
    Except String Agent :=
  match members with
  | [] => .error "no members defined"
  | first :: _ =>
    match memberAgents.lookup first.name with
    | none => .error ("root agent " ++ quoted first.name ++ " not found")
    | some root => .ok root

def appNameOf (crew : Crew) : String :=
  if crew.spec.appName == "" then crew.key.name else crew.spec.appName

def buildEntry (crew : Crew) (memberModels : List (String × Llm)) :
    Except String RunnerEntry := do
  let memberAgents ← buildMembers kit memberModels crew.spec.members
  let root ← rootAgentOf crew.spec.members memberAgents
  match kit.checkRunner (appNameOf crew) root with
  | .error error => .error ("runner: " ++ error)
  | .ok _ => .ok ⟨root, appNameOf crew⟩

end Wiring

section Crews

variable (kit : Toolkit)

/-- The outcome of the update is dropped. -/
def setNotReady (crew : Crew) (msg : String) : Running Unit := do
  let _ ← ask (.updateCrew { crew with status := { crew.status with ready := false } })
  .fail (.message msg)

def resolveMember (crew : Crew) (defaultModel : Llm)
    (memberModels : Except String (List (String × Llm))) (m : CrewMember) :
    Running (Except String (List (String × Llm))) :=
  match memberModels with
  | .error msg => return .error msg
  | .ok found =>
    if m.modelRef == "" then
      return .ok ((m.name, defaultModel) :: found)
    else do
      match ← (resolveModel kit crew m.modelRef).attempt with
      | .error error =>
        return .error ("member " ++ quoted m.name ++ " model " ++ quoted m.modelRef ++ ": " ++
          error.text Sentinel.text)
      | .ok llm => return .ok ((m.name, llm) :: found)

/-- The models of all members, or the text of the first error. -/
def resolveModels (crew : Crew) : Running (Except String (List (String × Llm))) := do
  match ← (resolveModel kit crew crew.spec.modelRef).attempt with
  | .error error =>
    return .error ("model " ++ quoted crew.spec.modelRef ++ ": " ++ error.text Sentinel.text)
  | .ok defaultModel =>
    Program.forEach (resolveMember kit crew defaultModel) (.ok []) crew.spec.members

/-- The runner is registered before the status is written. -/
def setReady (crew : Crew) (entry : RunnerEntry) (key : ObjectKey) : Running Unit := do
  let _ ← ask (.registrySet key entry)
  let _ ← take (← ask (.updateCrew { crew with status := ⟨true, []⟩ }))
  return ()

def reconcileCrew (key : ObjectKey) : Running Unit := do
  match ← ask (.getCrew key) with
  | .error error => do
    let _ ← ask (.registryDelete key)
    ignoreNotFound error
  | .ok crew => do
    match ← resolveModels kit crew with
    | .error msg => setNotReady crew msg
    | .ok memberModels =>
      match buildEntry kit crew memberModels with
      | .error msg => setNotReady crew msg
      | .ok entry => setReady crew entry key

end Crews

section Runs

variable (kit : Toolkit)

def buildContent (msg : MessageContent) : Content :=
  match msg.parts with
  | none => .text msg.text
  | some raw =>
    match kit.unmarshalParts raw with
    | .error _ => .text msg.text
    | .ok parts => .parts parts

def sessionIDOf (run : CrewRun) : String :=
  if run.spec.sessionID == "" then run.key.namespaceName ++ "/" ++ run.key.name
  else run.spec.sessionID

def runConfigOf (spec : CrewRunSpec) : RunConfig where
  streamingMode := if spec.streamingMode == some .sse then .sse else .none
  saveInputBlobsAsArtifacts := spec.saveInputBlobsAsArtifacts.getD false

/-- The events of a stream up to its first error.  An absent event and one that
cannot be encoded are left out. -/
def collectEvents : List StreamItem → Except Error (List Bytes)
  | [] => .ok []
  | .error error :: _ => .error error
  | .event none :: rest => collectEvents rest
  | .event (some event) :: rest => do
    let events ← collectEvents rest
    match kit.marshalEvent event with
    | .error _ => .ok events
    | .ok raw => .ok (raw :: events)

def CrewRun.withPhase (run : CrewRun) (phase : CrewRunPhase) : CrewRun :=
  { run with status := { run.status with phase } }

def CrewRunPhase.terminal : CrewRunPhase → Bool
  | .succeeded => true
  | .failed => true
  | _ => false

/-- The run failed; the outcome of the update is dropped. -/
def failRun (run : CrewRun) (error : Error) : Running Unit := do
  let _ ← ask (.updateCrewRun (run.withPhase .failed))
  .fail error

def executeRun (run : CrewRun) (entry : RunnerEntry) : Running Unit := do
  let run := { run with status := { run.status with sessionID := sessionIDOf run } }
  let items ← ask (.run run.key entry run.spec.userID (sessionIDOf run)
    (buildContent kit run.spec.message) (runConfigOf run.spec))
  match collectEvents kit items with
  | .error error => failRun run error
  | .ok events => do
    let finished := { run with status := { run.status with events, phase := .succeeded } }
    let _ ← take (← ask (.updateCrewRun finished))
    return ()

def reconcileCrewRun (key : ObjectKey) : Running Unit := do
  match ← ask (.getCrewRun key) with
  | .error error => ignoreNotFound error
  | .ok found =>
    if found.status.phase.terminal then
      return ()
    else do
      let version ← take (← ask (.updateCrewRun (found.withPhase .running)))
      let run := { found.withPhase .running with version }
      match ← ask (.registryGet ⟨run.key.namespaceName, run.spec.crewRef⟩) with
      | none => failRun run (.message ("crew " ++ quoted run.spec.crewRef ++ " runner not ready"))
      | some entry => executeRun kit run entry

end Runs

end Sovereignite.Shipcrew
