/-!
# UTF-8

A character is written as one to four octets; octets are natural numbers below 256. Octets that are
not well formed are no text, but they can be mended into one.
-/

namespace ModelHub.Text

/-- A continuation octet with the lowest six bits of a number. -/
def continuation (value : Nat) : Nat := 0x80 + value % 64

def octets (character : Char) : List Nat :=
  let code := character.toNat
  if code < 0x80 then [code]
  else if code < 0x800 then [0xC0 + code / 64, continuation code]
  else if code < 0x10000 then
    [0xE0 + code / 4096, continuation (code / 64), continuation code]
  else
    [0xF0 + code / 262144, continuation (code / 4096), continuation (code / 64),
      continuation code]

def encode (characters : List Char) : List Nat :=
  characters.flatMap octets

def carried? (octet : Nat) : Option Nat :=
  if 0x80 ≤ octet ∧ octet < 0xC0 then some (octet - 0x80) else none

/-- The character with a code point, if it is one and its octets are as many as said: a longer
form of a character is no form of it. -/
def charOfLength? (code length : Nat) : Option Char :=
  if code.isValidChar ∧ (octets (Char.ofNat code)).length = length then some (Char.ofNat code)
  else none

/-- The text that octets denote, if every character of it is well formed. -/
def decode? : List Nat → Option (List Char)
  | [] => some []
  | first :: rest =>
    if first < 0x80 then (decode? rest).map (Char.ofNat first :: ·)
    else if first < 0xC0 then none
    else if first < 0xE0 then
      match rest with
      | second :: rest =>
        match carried? second with
        | some b =>
          match charOfLength? ((first - 0xC0) * 64 + b) 2, decode? rest with
          | some character, some characters => some (character :: characters)
          | _, _ => none
        | none => none
      | _ => none
    else if first < 0xF0 then
      match rest with
      | second :: third :: rest =>
        match carried? second, carried? third with
        | some b, some c =>
          match charOfLength? (((first - 0xE0) * 64 + b) * 64 + c) 3, decode? rest with
          | some character, some characters => some (character :: characters)
          | _, _ => none
        | _, _ => none
      | _ => none
    else if first < 0xF8 then
      match rest with
      | second :: third :: fourth :: rest =>
        match carried? second, carried? third, carried? fourth with
        | some b, some c, some d =>
          match charOfLength? ((((first - 0xF0) * 64 + b) * 64 + c) * 64 + d) 4, decode? rest with
          | some character, some characters => some (character :: characters)
          | _, _ => none
        | _, _, _ => none
      | _ => none
    else none

/-! ## Mending -/

/-- What stands for octets that are no character. -/
def replacement : Char := '\uFFFD'

/-- What is awaited of a character that has begun: so many octets, the bounds of the first of them,
and the number that the octets so far stand for. -/
structure Awaited where
  owed : Nat
  low : Nat
  high : Nat
  value : Nat

/-- What an octet comes to: a character, the beginning of one, or nothing. -/
inductive Taken where
  | whole (character : Char)
  | partly (awaited : Awaited)
  | broken

/-- Takes the first octet of a character. Its second one is bounded where longer forms, surrogates
or numbers beyond the last character would begin. -/
def begin (octet : Nat) : Taken :=
  if octet < 0x80 then .whole (Char.ofNat octet)
  else if octet < 0xC2 then .broken
  else if octet < 0xE0 then .partly ⟨1, 0x80, 0xBF, octet - 0xC0⟩
  else if octet < 0xF0 then
    .partly ⟨2, if octet = 0xE0 then 0xA0 else 0x80, if octet = 0xED then 0x9F else 0xBF,
      octet - 0xE0⟩
  else if octet < 0xF5 then
    .partly ⟨3, if octet = 0xF0 then 0x90 else 0x80, if octet = 0xF4 then 0x8F else 0xBF,
      octet - 0xF0⟩
  else .broken

def Awaited.take (awaited : Awaited) (octet : Nat) : Taken :=
  if awaited.low ≤ octet ∧ octet ≤ awaited.high then
    let value := awaited.value * 64 + (octet - 0x80)
    if awaited.owed = 1 then .whole (Char.ofNat value)
    else .partly ⟨awaited.owed - 1, 0x80, 0xBF, value⟩
  else .broken

def Taken.write (taken : Taken) (next : Option Awaited → List Char) : List Char :=
  match taken with
  | .whole character => character :: next none
  | .partly awaited => next (some awaited)
  | .broken => replacement :: next none

/-- The text of octets in which each beginning of a character that is not finished is replaced, and
each octet that begins none. -/
def mendFrom : List Nat → Option Awaited → List Char
  | [], none => []
  | [], some _ => [replacement]
  | octet :: rest, none => (begin octet).write (mendFrom rest)
  | octet :: rest, some awaited =>
    match awaited.take octet with
    | .broken => replacement :: (begin octet).write (mendFrom rest)
    | taken => taken.write (mendFrom rest)

/-- The octets of a byte order mark. -/
def orderMark : List Nat := [0xEF, 0xBB, 0xBF]

/-- The text that octets are shown as. A byte order mark in front is no part of it. -/
def mend (octets : List Nat) : List Char :=
  mendFrom (if orderMark.isPrefixOf octets then octets.drop orderMark.length else octets) none

end ModelHub.Text
