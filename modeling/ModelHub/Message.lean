/-!
# Messages

Errors and warnings are lines that start with how grave they are. In colour that word and the text
are painted with terminal codes; without colour nothing is added to them.
-/

namespace ModelHub

/-- Whether terminal codes are used. -/
inductive Color where
  | on
  | off
  deriving DecidableEq, Repr

/-- Whether the user asks for terminal codes. -/
inductive ColorChoice where
  | auto
  | on
  | off
  deriving DecidableEq, Repr

namespace ColorChoice

def name : ColorChoice → String
  | .auto => "auto"
  | .on => "on"
  | .off => "off"

def ofName? (text : String) : Option ColorChoice :=
  [ColorChoice.auto, .on, .off].find? fun choice => choice.name = text

/-- What a choice comes to. Without a preference, colour is used where the messages are read on a
terminal that allows it. -/
def resolve (terminal : Bool) : ColorChoice → Color
  | .auto => if terminal then .on else .off
  | .on => .on
  | .off => .off

end ColorChoice

/-- How a text is painted: bold, in a colour of its own or in the usual one. -/
inductive Paint where
  | red
  | green
  | yellow
  | plain
  deriving DecidableEq, Repr

def Paint.code : Paint → String
  | .red => "31"
  | .green => "32"
  | .yellow => "33"
  | .plain => "39"

def Color.paint (color : Color) (paint : Paint) (text : String) : String :=
  match color with
  | .on => "\x1b[1;" ++ paint.code ++ "m" ++ text ++ "\x1b[0m"
  | .off => text

/-- How grave a message is. -/
inductive Severity where
  | error
  | warning
  deriving DecidableEq, Repr

namespace Severity

def label : Severity → String
  | .error => "error:"
  | .warning => "warning:"

def paint : Severity → Paint
  | .error => .red
  | .warning => .yellow

def format (severity : Severity) (color : Color) (text : String) : String :=
  color.paint severity.paint severity.label ++ " " ++ color.paint .plain text

end Severity

end ModelHub
