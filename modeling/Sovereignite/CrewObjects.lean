import Sovereignite.EffectProgram
import Sovereignite.Platform

/-!
# Crews, their runs and what the controller calls on

A crew is a list of agents with references among them.  The controller builds
the agents of a crew and a runner for the first of them, keeps the runner in a
registry in memory, and executes the runs of the crew with it.  The cluster
keeps one version of each object; an update names the version it is based on.
-/

namespace Sovereignite.Shipcrew

open Effect

inductive Sentinel where
  | notFound
  deriving DecidableEq

def Sentinel.text : Sentinel → String
  | .notFound => "not found"

abbrev Error := ErrorValue Sentinel

structure ObjectKey where
  namespaceName : String
  name : String
  deriving DecidableEq

section Objects

inductive Provider where
  | gemini
  | openai
  | ollama
  | unknown (text : String)
  deriving DecidableEq

structure SecretKeyRef where
  name : String
  key : String
  deriving DecidableEq

structure ModelBackend where
  key : ObjectKey
  version : Nat
  provider : Provider
  model : String
  baseURL : String
  apiKeyRef : Option SecretKeyRef
  ready : Bool
  deriving DecidableEq

abbrev Secret := List (String × String)

inductive AgentMode where
  | chat
  | task
  | singleTurn
  | unknown (text : String)
  deriving DecidableEq

structure CrewMember where
  name : String
  description : String
  mode : AgentMode
  modelRef : String
  instruction : String
  subAgents : List String
  outputKey : String
  generateContentConfig : Option Bytes
  inputSchema : Option Bytes
  outputSchema : Option Bytes
  includeContents : Option String
  disallowTransferToParent : Option Bool
  disallowTransferToPeers : Option Bool
  deriving DecidableEq

structure CrewSpec where
  appName : String
  modelRef : String
  members : List CrewMember
  deriving DecidableEq

structure CrewStatus where
  ready : Bool
  conditions : List String
  deriving DecidableEq

structure Crew where
  key : ObjectKey
  version : Nat
  spec : CrewSpec
  status : CrewStatus
  deriving DecidableEq

inductive CrewRunPhase where
  | unset
  | pending
  | running
  | succeeded
  | failed
  deriving DecidableEq

inductive StreamingMode where
  | none
  | sse
  deriving DecidableEq

structure MessageContent where
  text : String
  parts : Option Bytes
  deriving DecidableEq

structure CrewRunSpec where
  crewRef : String
  userID : String
  sessionID : String
  message : MessageContent
  streamingMode : Option StreamingMode
  saveInputBlobsAsArtifacts : Option Bool
  deriving DecidableEq

structure CrewRunStatus where
  phase : CrewRunPhase
  sessionID : String
  events : List Bytes
  deriving DecidableEq

structure CrewRun where
  key : ObjectKey
  version : Nat
  spec : CrewRunSpec
  status : CrewRunStatus
  deriving DecidableEq

end Objects

section Agents

/-- A model, by what it was made from. -/
structure Llm where
  provider : Provider
  model : String
  baseURL : String
  apiKey : String
  deriving DecidableEq

inductive Mode where
  | chat
  | task
  | singleTurn
  deriving DecidableEq, Inhabited

/-- The configuration of an agent without the agents below it. -/
structure AgentConfig where
  name : String
  description : String
  model : Option Llm
  mode : Mode
  instruction : String
  outputKey : String
  generateContentConfig : Option Json
  inputSchema : Option Json
  outputSchema : Option Json
  includeContents : String
  disallowTransferToParent : Bool
  disallowTransferToPeers : Bool
  deriving Inhabited

inductive Agent where
  | node (config : AgentConfig) (subAgents : List Agent)
  deriving Inhabited

structure RunnerEntry where
  agent : Agent
  appName : String

inductive Content where
  | parts (parts : List Json)
  | text (text : String)

structure RunConfig where
  streamingMode : StreamingMode
  saveInputBlobsAsArtifacts : Bool
  deriving DecidableEq

/-- One item of the stream a runner gives: an event, which may be absent, or an
error. -/
inductive StreamItem where
  | event (event : Option Json)
  | error (error : Error)

/-- The functions of the agent library and of the JSON library that are called.
The constructors of the agent library check their arguments. -/
structure Toolkit where
  checkGemini : String → String → Except String Unit
  checkOpenAI : String → String → Except String Unit
  checkAgent : AgentConfig → List Agent → Except String Unit
  checkRunner : String → Agent → Except String Unit
  unmarshalContentConfig : Bytes → Except String Json
  unmarshalSchema : Bytes → Except String Json
  unmarshalParts : Bytes → Except String (List Json)
  marshalEvent : Json → Except String Bytes

end Agents

/-- What the programs ask of the cluster, of the registry and of a runner.  An
update that succeeds gives the new version of the object. -/
inductive Request where
  | getModelBackend (key : ObjectKey)
  | getSecret (key : ObjectKey)
  | getCrew (key : ObjectKey)
  | getCrewRun (key : ObjectKey)
  | updateModelBackend (mb : ModelBackend)
  | updateCrew (crew : Crew)
  | updateCrewRun (run : CrewRun)
  | registryGet (key : ObjectKey)
  | registrySet (key : ObjectKey) (entry : RunnerEntry)
  | registryDelete (key : ObjectKey)
  | run (key : ObjectKey) (entry : RunnerEntry) (userID sessionID : String) (message : Content)
      (config : RunConfig)

def Reply : Request → Type
  | .getModelBackend _ => Except Error ModelBackend
  | .getSecret _ => Except Error Secret
  | .getCrew _ => Except Error Crew
  | .getCrewRun _ => Except Error CrewRun
  | .updateModelBackend _ => Except Error Nat
  | .updateCrew _ => Except Error Nat
  | .updateCrewRun _ => Except Error Nat
  | .registryGet _ => Option RunnerEntry
  | .registrySet _ _ => Unit
  | .registryDelete _ => Unit
  | .run _ _ _ _ _ _ => List StreamItem

def signature : Signature := ⟨Request, Reply⟩

abbrev Running (α : Type) := Program signature Error α

def ask (request : Request) : Running (Reply request) :=
  Program.perform (S := signature) request

def take {α : Type} (outcome : Except Error α) : Running α :=
  Program.ofExcept outcome

/-- An error is dropped if it says that the object is not there. -/
def ignoreNotFound (error : Error) : Running Unit :=
  if error.is .notFound then return () else .fail error

end Sovereignite.Shipcrew
