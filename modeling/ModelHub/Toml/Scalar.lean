import ModelHub.Text.Reader
import ModelHub.Toml.Table

/-!
# TOML scalars

Strings in their four forms, numbers, truth values, dates and times. No control character but the
tab may stand in a text, and a text on several lines has line feeds for line ends, however they
are written.
-/

namespace ModelHub.Toml

open Text

/-! ## Lines -/

/-- Space and tab separate tokens within a line. -/
def isGap (character : Char) : Bool := character = ' ' || character = '\t'

def skipGap (input : List Char) : List Char := input.dropWhile isGap

/-- Tab, printable ASCII and everything beyond ASCII may stand in texts and comments. -/
def isTextChar (character : Char) : Bool :=
  character = '\t' || decide (0x20 ≤ character.toNat ∧ character.toNat ≠ 0x7F)

/-- What follows a line end, if one is at the front: a line feed, with or without a carriage
return before it. -/
def lineEnd? : List Char → Option (List Char)
  | '\n' :: rest => some rest
  | '\r' :: '\n' :: rest => some rest
  | _ => none

/-- The characters after spaces, tabs, line ends and comments; the flag says whether the front is
inside a comment. -/
def skipFiller : Bool → List Char → List Char
  | _, [] => []
  | _, '\n' :: rest => skipFiller false rest
  | _, '\r' :: '\n' :: rest => skipFiller false rest
  | true, character :: rest =>
    if isTextChar character then skipFiller true rest else character :: rest
  | false, character :: rest =>
    if isGap character then skipFiller false rest
    else if character = '#' then skipFiller true rest
    else character :: rest

def skipBlankLines : List Char → List Char
  | [] => []
  | '\n' :: rest => skipBlankLines rest
  | '\r' :: '\n' :: rest => skipBlankLines rest
  | character :: rest => if isGap character then skipBlankLines rest else character :: rest

/-! ## Strings -/

def simpleEscape? : Char → Option Char
  | '"' => some '"'
  | '\\' => some '\\'
  | 'b' => some '\x08'
  | 'f' => some '\x0c'
  | 'n' => some '\n'
  | 'r' => some '\r'
  | 't' => some '\t'
  | _ => none

/-- The character with a code point given by digits, if there is one. -/
def readCodePoint (count : Nat) : Reader Char := fun input =>
  match readFixed 16 count input with
  | none => none
  | some (code, rest) => if code.isValidChar then some (Char.ofNat code, rest) else none

def readEscape : Reader Char
  | [] => none
  | 'u' :: rest => readCodePoint 4 rest
  | 'U' :: rest => readCodePoint 8 rest
  | letter :: rest => (simpleEscape? letter).map fun character => (character, rest)

/-- The text of a string with escapes up to its closing quote. Each step takes at least one
character, so a count of the characters bounds the steps. -/
def readBasicText : Nat → Reader (List Char)
  | 0, _ => none
  | _ + 1, [] => none
  | _ + 1, '"' :: rest => some ([], rest)
  | steps + 1, '\\' :: rest =>
    match readEscape rest with
    | none => none
    | some (character, rest) =>
      (readBasicText steps rest).map fun found => (character :: found.1, found.2)
  | steps + 1, character :: rest =>
    if isTextChar character then
      (readBasicText steps rest).map fun found => (character :: found.1, found.2)
    else none

/-- The text of a string without escapes up to its closing apostrophe. -/
def readLiteralText : Reader (List Char) := fun input =>
  let isInside := fun character => isTextChar character && character ≠ '\''
  match input.dropWhile isInside with
  | '\'' :: rest => some (input.takeWhile isInside, rest)
  | _ => none

/-- A backslash at the end of a line, already taken, joins the line to the next one that is not
blank. -/
def joinLines? (input : List Char) : Option (List Char) :=
  (lineEnd? (skipGap input)).map skipBlankLines

/-- The text of a string on several lines up to its three closing quotes. One or two quotes belong
to the text, also right before the closing ones. -/
def readLinesText (mark : Char) (escapes : Bool) : Nat → Reader (List Char)
  | 0, _ => none
  | _ + 1, [] => none
  | steps + 1, '\n' :: rest =>
    (readLinesText mark escapes steps rest).map fun found => ('\n' :: found.1, found.2)
  | steps + 1, '\r' :: '\n' :: rest =>
    (readLinesText mark escapes steps rest).map fun found => ('\n' :: found.1, found.2)
  | steps + 1, character :: rest =>
    if character = mark then
      let count := 1 + (rest.takeWhile (· = mark)).length
      if count < 3 then
        (readLinesText mark escapes steps ((character :: rest).drop count)).map fun found =>
          (List.replicate count mark ++ found.1, found.2)
      else
        let kept := min (count - 3) 2
        some (List.replicate kept mark, (character :: rest).drop (kept + 3))
    else if escapes && character = '\\' then
      match joinLines? rest with
      | some rest => readLinesText mark escapes steps rest
      | none =>
        match readEscape rest with
        | none => none
        | some (character, rest) =>
          (readLinesText mark escapes steps rest).map fun found => (character :: found.1, found.2)
    else if isTextChar character then
      (readLinesText mark escapes steps rest).map fun found => (character :: found.1, found.2)
    else none

/-- A string on several lines, after its opening quotes; a line end right there does not count. -/
def readLines (mark : Char) (escapes : Bool) : Reader (List Char) := fun input =>
  let input := (lineEnd? input).getD input
  readLinesText mark escapes (input.length + 1) input

def readLineString : Reader String
  | '"' :: rest =>
    (readBasicText (rest.length + 1) rest).map fun found => (String.ofList found.1, found.2)
  | '\'' :: rest => (readLiteralText rest).map fun found => (String.ofList found.1, found.2)
  | _ => none

def readString : Reader String
  | '"' :: '"' :: '"' :: rest =>
    (readLines '"' true rest).map fun found => (String.ofList found.1, found.2)
  | '\'' :: '\'' :: '\'' :: rest =>
    (readLines '\'' false rest).map fun found => (String.ofList found.1, found.2)
  | input => readLineString input

/-! ## Numbers -/

/-- The sign in front of a number: whether it is there and negative. -/
def readSign : List Char → Bool × List Char
  | '-' :: rest => (true, rest)
  | '+' :: rest => (false, rest)
  | input => (false, input)

/-- Further digits of a number; an underscore may stand between two of them. -/
def takeDigits (isDigit : Char → Bool) : List Char → List Char × List Char
  | [] => ([], [])
  | '_' :: digit :: rest =>
    if isDigit digit then
      let found := takeDigits isDigit rest
      (digit :: found.1, found.2)
    else ([], '_' :: digit :: rest)
  | digit :: rest =>
    if isDigit digit then
      let found := takeDigits isDigit rest
      (digit :: found.1, found.2)
    else ([], digit :: rest)

def readDigitRow (isDigit : Char → Bool) : Reader (List Char)
  | [] => none
  | digit :: rest =>
    if isDigit digit then
      let found := takeDigits isDigit rest
      some (digit :: found.1, found.2)
    else none

/-- The whole part of a decimal number: a zero alone, or digits that do not start with zero. -/
def readWhole : Reader (List Char)
  | '0' :: rest => some (['0'], rest)
  | input => readDigitRow Char.isDigit input

/-- Integers lie below this bound, and not below its negative. -/
def integerBound : Nat := Nat.pow 2 63

def integer? (negative : Bool) (value : Nat) : Option Toml :=
  if negative then
    if value ≤ integerBound then some (.integer (-(value : Int))) else none
  else if value < integerBound then some (.integer value) else none

def readBased (base : Nat) : Reader Toml := fun input =>
  match readDigitRow (fun digit => (digitInBase? base digit).isSome) input with
  | none => none
  | some (digits, rest) =>
    ((numberInBase? base digits).bind (integer? false)).map fun value => (value, rest)

def readDecimal : Reader Toml := fun input =>
  let sign := readSign input
  match readWhole sign.2 with
  | none => none
  | some (digits, rest) => (integer? sign.1 (ofDigits digits)).map fun value => (value, rest)

def readInteger : Reader Toml
  | '0' :: 'x' :: rest => readBased 16 rest
  | '0' :: 'o' :: rest => readBased 8 rest
  | '0' :: 'b' :: rest => readBased 2 rest
  | input => readDecimal input

def readFraction : Reader (List Char)
  | '.' :: rest => readDigitRow Char.isDigit rest
  | _ => none

def readExponent : Reader Int
  | mark :: rest =>
    if mark = 'e' ∨ mark = 'E' then
      let sign := readSign rest
      (readDigitRow Char.isDigit sign.2).map fun found =>
        let value : Int := ofDigits found.1
        (if sign.1 then -value else value, found.2)
    else none
  | [] => none

/-- The decimal `significand * 10 ^ exponent` is nearer to the next power of two than to the
greatest number of the 64-bit format. -/
def isTooLarge (significand : Nat) (exponent : Int) : Bool :=
  let place : Int := (Nat.repr significand).length + exponent
  if significand = 0 ∨ place < 300 then false
  else if 320 < place then true
  else
    let bound := Nat.pow 2 1024 - Nat.pow 2 970
    if exponent < 0 then decide (bound * Nat.pow 10 exponent.natAbs ≤ significand)
    else decide (bound ≤ significand * Nat.pow 10 exponent.natAbs)

def writtenUpTo (input rest : List Char) : String :=
  String.ofList (input.take (input.length - rest.length))

/-- A floating-point number, which has a fraction or an exponent or both. A positive one has to be
in range. -/
def readDecimalFloat : Reader Toml := fun input =>
  let sign := readSign input
  match readWhole sign.2 with
  | none => none
  | some (whole, rest) =>
    let fraction := readFraction rest
    let exponent := readExponent (match fraction with | none => rest | some found => found.2)
    match fraction, exponent with
    | none, none => none
    | _, _ =>
      let digits := (fraction.map (·.1)).getD []
      let rest :=
        match fraction, exponent with
        | _, some found => found.2
        | some found, none => found.2
        | none, none => rest
      let tooLarge :=
        isTooLarge (ofDigits (whole ++ digits))
          ((exponent.map (·.1)).getD 0 - (digits.length : Int))
      if !sign.1 && tooLarge then none else some (.float (writtenUpTo input rest), rest)

/-- Infinity and not-a-number, with or without a sign. -/
def readSpecialFloat : Reader Toml := fun input =>
  match (readSign input).2 with
  | 'i' :: 'n' :: 'f' :: rest => some (.float (writtenUpTo input rest), rest)
  | 'n' :: 'a' :: 'n' :: rest => some (.float (writtenUpTo input rest), rest)
  | _ => none

def readFloat : Reader Toml := fun input =>
  (readDecimalFloat input).or (readSpecialFloat input)

/-! ## Dates and times -/

/-- A year has a 29th of February when it is divisible by four, and by four hundred if it is
divisible by a hundred. -/
def isLeapYear (year : Nat) : Bool :=
  year % 4 = 0 && (year % 100 != 0 || year % 400 = 0)

/-- The number of days of a month; there are none in a month that does not exist. -/
def daysOfMonth (year month : Nat) : Nat :=
  if month = 2 then (if isLeapYear year then 29 else 28)
  else if [4, 6, 9, 11].contains month then 30
  else if 1 ≤ month ∧ month ≤ 12 then 31
  else 0

/-- A number of two digits with at most a given value, after a mark. -/
def readPart (mark : Char) (greatest : Nat) : Reader Nat
  | character :: rest =>
    if character = mark then
      (readFixed 10 2 rest).filter fun found => decide (found.1 ≤ greatest)
    else none
  | [] => none

/-- A date; what is left is what follows it. -/
def readDate (input : List Char) : Option (List Char) :=
  match readFixed 10 4 input with
  | none => none
  | some (year, rest) =>
    match readPart '-' 12 rest with
    | none => none
    | some (month, rest) =>
      match readPart '-' (daysOfMonth year month) rest with
      | none => none
      | some (day, rest) => if 1 ≤ day then some rest else none

def skipSecondFraction (input : List Char) : List Char :=
  match input with
  | '.' :: rest =>
    match readDigits rest with
    | some (_, rest) => rest
    | none => input
  | _ => input

/-- A time of the day. A minute may have a second more than sixty. -/
def readTimeOfDay (input : List Char) : Option (List Char) :=
  match (readFixed 10 2 input).filter fun found => decide (found.1 ≤ 23) with
  | none => none
  | some (_, rest) =>
    match readPart ':' 59 rest with
    | none => none
    | some (_, rest) => (readPart ':' 60 rest).map fun found => skipSecondFraction found.2

def skipOffset (input : List Char) : List Char :=
  match input with
  | [] => []
  | mark :: rest =>
    if mark = 'Z' ∨ mark = 'z' then rest
    else
      match (readPart '+' 23 input).or (readPart '-' 23 input) with
      | none => input
      | some (_, rest) =>
        match readPart ':' 59 rest with
        | none => input
        | some (_, rest) => rest

def readDateTime (input : List Char) : Option (List Char) :=
  (readDate input).map fun afterDate =>
    match afterDate with
    | [] => []
    | mark :: rest =>
      if mark = 'T' ∨ mark = 't' ∨ mark = ' ' then
        match readTimeOfDay rest with
        | none => afterDate
        | some rest => skipOffset rest
      else afterDate

def readTime : Reader Toml := fun input =>
  ((readDateTime input).or (readTimeOfDay input)).map fun rest =>
    (.time (writtenUpTo input rest), rest)

/-! ## Scalars -/

def readBoolean : Reader Toml
  | 't' :: 'r' :: 'u' :: 'e' :: rest => some (.boolean true, rest)
  | 'f' :: 'a' :: 'l' :: 's' :: 'e' :: rest => some (.boolean false, rest)
  | _ => none

/-- A value that is no array and no table. What can be read as a time is one, and what can be read
as a floating-point number is no integer. -/
def readScalar : Reader Toml := fun input =>
  match input with
  | [] => none
  | first :: _ =>
    if first = '"' ∨ first = '\'' then
      (readString input).map fun found => (.string found.1, found.2)
    else (readBoolean input).or ((readTime input).or ((readFloat input).or (readInteger input)))

end ModelHub.Toml
