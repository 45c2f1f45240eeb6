import ModelHub.Http.Script
import ModelHub.Session
import ModelHub.Text.Utf8

/-!
# Worlds

A world holds all that a session can reach: files, a network, and the two outputs. Carrying out a
session in a world is a function, and it leaves a record of what passed over the network.
-/

namespace ModelHub

/-- What a request is answered with, after the requests before it. -/
abbrev Network : Type := List Http.Request → Http.Request → Http.Answer

namespace Network

/-- Nothing can be connected to. -/
def unreachable : Network := fun _ _ => .unreachable

def seenUrl (request : Http.Request) : String := request.url.withoutFragment.render

/-- A scripted service answers all requests. -/
def scripted (script : Http.Script) : Network := fun earlier request =>
  let left := earlier.foldl (fun script request => (script.answer (seenUrl request)).2) script
  (left.answer (seenUrl request)).1

end Network

/-- What stands at a path: nothing, a file, or something that is there but cannot be read, such as a
directory. Where the path leads through a file, it cannot even be found out what is there. -/
inductive Place where
  | absent
  | file (octets : List Nat)
  | closed
  | barred
  deriving DecidableEq, Repr

namespace Place

/-- The text that is read there, if its octets are well formed. -/
def read : Place → Except FileFault String
  | .absent => .error .missing
  | .file octets =>
    match Text.decode? octets with
    | some text => .ok (String.ofList text)
    | none => .error .unreadable
  | .closed => .error .unreadable
  | .barred => .error .unreadable

def isThere : Place → Bool
  | .absent => false
  | .file _ => true
  | .closed => true
  | .barred => false

/-! ### Places of a list of files -/

/-- The names that a path goes through, without those that lead nowhere. -/
def pathNames (path : String) : List (List Char) :=
  (path.toList.splitOn '/').filter fun name => name ≠ [] && name ≠ ['.']

/-- The path starts at the root, and not where the program runs. -/
def isRooted (path : String) : Bool := path.toList.head? = some '/'

/-- The path ends like the path of a directory. -/
def endsOpen (path : String) : Bool :=
  match (path.toList.splitOn '/').getLast? with
  | some name => name = [] || name = ['.']
  | none => true

/-- The second path starts where the first one does and goes through its names first. -/
def leadsTo (path further : String) : Bool :=
  isRooted path = isRooted further && (pathNames path).isPrefixOf (pathNames further)

/-- What stands at a path where there are these files, with the directories that they lie in, and
nothing else. -/
def among (files : List (String × List Nat)) (path : String) : Place :=
  if path = "" then .absent
  else
    match files.find? fun entry => leadsTo entry.1 path with
    | some entry => if leadsTo path entry.1 && !endsOpen path then .file entry.2 else .barred
    | none =>
      if (pathNames path).isEmpty || files.any fun entry => leadsTo path entry.1 then .closed
      else .absent

end Place

/-- All that a session can reach, with what it has exchanged over the network and what it has
written. -/
structure World where
  files : String → Place
  network : Network
  exchanges : List (Http.Request × Http.Answer)
  output : String
  errors : String

namespace World

/-- A world with these files alone, in which nothing has been done. -/
def fresh (files : List (String × List Nat)) (network : Network) : World :=
  { files := Place.among files, network := network, exchanges := [], output := "", errors := "" }

/-! ## Files -/

def readFile (world : World) (path : String) : Except FileFault String := (world.files path).read

def hasFile (world : World) (path : String) : Bool := (world.files path).isThere

/-! ## The network -/

def exchange (world : World) (request : Http.Request) : Http.Answer × World :=
  let answer := world.network (world.exchanges.map (·.1)) request
  (answer, { world with exchanges := world.exchanges ++ [(request, answer)] })

def received (world : World) : List Http.Request :=
  world.exchanges.filterMap fun exchange =>
    match exchange.2 with
    | .unreachable => none
    | _ => some exchange.1

/-! ## Sessions -/

/-- Carries out an action. -/
def perform (world : World) : (action : Action) → action.Answer × World
  | .readFile path => (world.readFile path, world)
  | .probeFile path => (world.hasFile path, world)
  | .exchange request => world.exchange request
  | .print text => ((), { world with output := world.output ++ text })
  | .report text => ((), { world with errors := world.errors ++ text })

/-- Carries out a session: what it gives, or how it halts, and the world it leaves. -/
def run {α : Type} (world : World) : Session α → Except Ending α × World
  | .done value => (.ok value, world)
  | .halt ending => (.error ending, world)
  | .act action next =>
    let found := world.perform action
    found.2.run (next found.1)

end World

end ModelHub
