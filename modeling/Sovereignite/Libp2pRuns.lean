import Sovereignite.EffectSystem
import Sovereignite.Libp2pService

/-!
# Processes on one state root

Any number of processes initialize the identity or start its service over one
state root, each with its own key and its own runtime root.  Their file
operations interleave, and a crash stops some of them between two operations
without undoing anything.  Every operation may fail, a write after any part of
its content.  What the file system says about owners and permissions is left
open.
-/

namespace Sovereignite.Libp2p

open Effect

abbrev Process := Nat

/-- The files and what names lead to them.  `creator` and `drawn` record which
process made a file and which one drew a random value; `hostnames` are the
names the host was given and `returned` the identities that initializers
returned, newest first. -/
structure World where
  entries : String → String → Option Nat
  files : Nat → Option Bytes
  creator : Nat → Option Process
  drawn : Bytes → Option Process
  hostnames : List String
  returned : List PublicIdentity

namespace World

def enter (world : World) (directory name : String) (file : Option Nat) : World :=
  { world with
    entries := Function.update world.entries directory
      (Function.update (world.entries directory) name file) }

def create (world : World) (process : Process) (directory name : String) (file : Nat) :
    World :=
  { world.enter directory name (some file) with
    files := Function.update world.files file (some [])
    creator := Function.update world.creator file (some process) }

def append (world : World) (file : Nat) (content : Bytes) : World :=
  { world with
    files := Function.update world.files file ((world.files file).map (· ++ content)) }

def draw (world : World) (process : Process) (value : Bytes) : World :=
  { world with drawn := Function.update world.drawn value (some process) }

end World

/-- Which value the random source may give, by the values it gave before. -/
abbrev Randomness := (Bytes → Prop) → Bytes → Prop

/-- The random source never gives a value twice. -/
def NeverRepeats (random : Randomness) : Prop :=
  ∀ before value, random before value → ¬ before value

def answer (random : Randomness) (process : Process) (world : World) :
    (request : Request) → Reply request → World → Prop
  | .random length, reply, after =>
    (∃ error, reply = .error error ∧ after = world) ∨
      ∃ value, reply = .ok value ∧ value.length = length ∧
        random (fun earlier => world.drawn earlier ≠ none) value ∧
        after = world.draw process value
  | .openFile directory name, reply, after =>
    after = world ∧ ∀ file, reply = .ok file → world.entries directory name = some file
  | .createExclusive directory name, reply, after =>
    (∃ error, reply = .error error ∧ after = world) ∨
      ∃ file, reply = .ok file ∧ world.entries directory name = none ∧
        world.files file = none ∧ after = world.create process directory name file
  | .openOrCreate directory name, reply, after =>
    ((∀ file, reply = .ok file → world.entries directory name = some file) ∧ after = world) ∨
      ∃ file, reply = .ok file ∧ world.entries directory name = none ∧
        world.files file = none ∧ after = world.create process directory name file
  | .link directory source target, reply, after =>
    (∃ error, reply = .error error ∧ after = world) ∨
      ∃ file, reply = .ok () ∧ world.entries directory source = some file ∧
        world.entries directory target = none ∧
        after = world.enter directory target (some file)
  | .rename directory source target, reply, after =>
    (∃ error, reply = .error error ∧ after = world) ∨
      ∃ file, reply = .ok () ∧ world.entries directory source = some file ∧
        after = (world.enter directory target (some file)).enter directory source none
  | .remove directory name, reply, after =>
    (∃ error, reply = .error error ∧ after = world) ∨
      (reply = .ok () ∧ after = world.enter directory name none)
  | .write file content, reply, after =>
    (∃ error written, reply = .error error ∧ written <+: content ∧
        after = world.append file written) ∨
      (reply = .ok () ∧ after = world.append file content)
  | .stat file, reply, after =>
    after = world ∧ ∀ info, reply = .ok info → (world.files file).map List.length = some info.size
  | .read file limit, reply, after =>
    after = world ∧ ∀ content, reply = .ok content →
      (world.files file).map (List.take limit) = some content
  | .setHostname name, _, after =>
    after = { world with hostnames := name :: world.hostnames }
  | .returned identity, _, after =>
    after = { world with returned := identity :: world.returned }
  | _, _, after => after = world

section Calls

variable (env : Platform) (lib : Library)

def initializeCall (config : Config) (key : TPMSigningKey) : Running Unit := do
  let identity ← initializeIdentity env lib config key
  let _ ← ask (.returned identity.publicIdentity)
  return ()

def startCall (config : Config) (key : TPMSigningKey) : Running Unit := do
  let identity ← start env lib config key
  let _ ← ask (.returned identity.publicIdentity)
  return ()

def rules (random : Randomness) (root : String) :
    SystemRules signature World Process Error Unit where
  answer := answer random
  offered _ program := ∃ config key, clean config.stateRoot = root ∧
    (program = initializeCall env lib config key ∨ program = startCall env lib config key)
  crash _ before after := after = before

end Calls

def identityContent (root : String) (world : World) : Option Bytes :=
  world.entries root identityStateFilename >>= world.files

/-- The identity file is the complete encoding of a record, and reading it gives
the record. -/
def Stores (lib : Library) (root : String) (world : World) (record : IdentityRecord) :
    Prop :=
  ∃ content, identityContent root world = some content ∧
    encodeRecord lib record = .ok content ∧ parseRecord lib content = .ok record

/-- No process is known yet, and the identity file is absent or complete.  Other
names in the state root may be taken. -/
structure Initial (lib : Library) (root : String) (world : World) : Prop where
  created : ∀ file, world.creator file = none
  drawn : ∀ value, world.drawn value = none
  hostnames : world.hostnames = []
  returned : world.returned = []
  complete : ∀ file, world.entries root identityStateFilename = some file →
    ∃ record, Stores lib root world record

/-- Decoding the file of a record gives the record and then the end. -/
def Library.RecordRoundTrip (lib : Library) : Prop :=
  ∀ record encoded, lib.marshalRecord record = .ok encoded →
    lib.decodeRecord (encoded ++ [10]) = .ok (record, .endOfInput)

end Sovereignite.Libp2p
