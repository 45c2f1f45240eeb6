import ModelHub.Failure
import ModelHub.Http.Message

/-!
# Sessions

A session is what a run of the program does: it acts, one action after another, each further
action chosen by the answers to those before it, until it is done or halts. A session is a value;
what its actions come to is decided by whoever carries it out.
-/

namespace ModelHub

/-- What a session can do: look at a file, send one request, or write to one of the two outputs. -/
inductive Action where
  | readFile (path : String)
  | probeFile (path : String)
  | exchange (request : Http.Request)
  | print (text : String)
  | report (text : String)

abbrev Action.Answer : Action → Type
  | .readFile _ => Except FileFault String
  | .probeFile _ => Bool
  | .exchange _ => Http.Answer
  | .print _ => Unit
  | .report _ => Unit

/-- How a session halts: with an exit code, or because a hub went on listing beyond every bound. -/
inductive Ending where
  | exit (code : Nat)
  | unfinished
  deriving DecidableEq, Repr

/-- A session that gives a value when it is done. -/
inductive Session (α : Type) : Type where
  | done (value : α)
  | halt (ending : Ending)
  | act (action : Action) (next : action.Answer → Session α)

namespace Session

variable {α β : Type}

/-- Goes on with what a session gives; a session that halts goes no further. -/
def bind (first : Session α) (next : α → Session β) : Session β :=
  match first with
  | .done value => next value
  | .halt ending => .halt ending
  | .act action continuation => .act action fun answer => (continuation answer).bind next

instance : Monad Session where
  pure := done
  bind := bind

def perform (action : Action) : Session action.Answer := .act action .done

def readFile (path : String) : Session (Except FileFault String) := perform (.readFile path)

/-- Whether there is a file. -/
def probeFile (path : String) : Session Bool := perform (.probeFile path)

def exchange (request : Http.Request) : Session Http.Answer := perform (.exchange request)

def print (text : String) : Session Unit := perform (.print text)

def report (line : String) : Session Unit := perform (.report (line ++ "\n"))

/-- Ends the session with an exit code. -/
def exit (code : Nat) : Session α := .halt (.exit code)

end Session

end ModelHub
