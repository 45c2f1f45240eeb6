import ModelHub.Http.Message

/-!
# Scripted services

A scripted service answers from a list of entries, each good for a number of requests and perhaps
for one URL only. It stands in for a live service where a run has to be known beforehand.
-/

namespace ModelHub.Http

/-- An answer that a scripted service gives, the URL it is meant for, and how often it gives it. -/
structure ScriptEntry where
  url : Option String
  uses : Nat
  answer : Answer
  deriving DecidableEq, Repr

abbrev Script : Type := List ScriptEntry

/-- Statuses whose replies have no body. -/
def bodilessStatuses : List Nat := [204, 304]

def Answer.sent : Answer → Answer
  | .reply served =>
    .reply (if bodilessStatuses.contains served.status then { served with body := [] } else served)
  | answer => answer

def exhausted : Answer := .reply (.ofText 500 none "script exhausted")

def ScriptEntry.fits (entry : ScriptEntry) (url : String) : Bool :=
  decide (0 < entry.uses) && (entry.url.isNone || entry.url = some url)

/-- The answer to a request for a URL, with the script that is left. The first entry that fits
answers. -/
def Script.answer (url : String) : Script → Answer × Script
  | [] => (exhausted, [])
  | entry :: rest =>
    if entry.fits url then (entry.answer.sent, { entry with uses := entry.uses - 1 } :: rest)
    else
      let found := Script.answer url rest
      (found.1, entry :: found.2)

end ModelHub.Http
