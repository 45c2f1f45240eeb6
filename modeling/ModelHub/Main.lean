import ModelHub.Run

/-!
# The program

Carries out a run with the files and the outputs of the system. This build has no transport, so no
service can be reached.
-/

namespace ModelHub.Main

def readOctets (path : String) : IO (Except FileFault ByteArray) := do
  try
    let octets ← IO.FS.readBinFile path
    pure (.ok octets)
  catch reason =>
    match reason with
    | .noFileOrDirectory .. => pure (.error .missing)
    | _ => pure (.error .unreadable)

def readText (path : String) : IO (Except FileFault String) := do
  match ← readOctets path with
  | .error fault => pure (.error fault)
  | .ok octets =>
    match Text.decode? (octets.toList.map UInt8.toNat) with
    | none => pure (.error .unreadable)
    | some text => pure (.ok (String.ofList text))

def isThere (path : String) : IO Bool := do
  match ← readOctets path with
  | .error .missing => pure false
  | _ => pure true

/-- Carries out an action. -/
def perform : (action : Action) → IO action.Answer
  | .readFile path => readText path
  | .probeFile path => isThere path
  | .exchange _ => pure .unreachable
  | .print text => do
    let output ← IO.getStdout
    output.putStr text
  | .report text => do
    let errors ← IO.getStderr
    errors.putStr text

/-- Carries out a session and gives the exit code. -/
def carryOut : Session Unit → IO UInt32
  | .done _ => pure 0
  | .halt (.exit code) => pure code.toUInt32
  | .halt .unfinished => pure 1
  | .act action next => do
    let answer ← perform action
    carryOut (next answer)

/-- Listings end within this many pages. -/
def pageLimit : Nat := 1000000

def surroundings : IO Surroundings := do
  let home ← IO.getEnv "HOME"
  let colorless ← IO.getEnv "NO_COLOR"
  let errors ← IO.getStderr
  let terminal ← errors.isTty
  pure { home := home, terminal := terminal && colorless.isNone, pageLimit := pageLimit }

end ModelHub.Main

/-- Runs the program with the arguments it is given. -/
def main (arguments : List String) : IO UInt32 := do
  let found ← ModelHub.Main.surroundings
  ModelHub.Main.carryOut (ModelHub.Run.program found arguments)
