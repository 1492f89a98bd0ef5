/-!
# Log lines

What the bridge reports while it works. Operations that report return their lines in order, oldest
first, beside their result.
-/

namespace GuestBridge

namespace Log

inductive Level where
  | error
  | warn
  | info
  | debug
  | trace
deriving DecidableEq, Repr

/-- The name of a level, in capitals. -/
def Level.name : Level → String
  | .error => "ERROR"
  | .warn => "WARN"
  | .info => "INFO"
  | .debug => "DEBUG"
  | .trace => "TRACE"

/-- One report. -/
structure Line where
  level : Level
  text : String
deriving DecidableEq, Repr

def error (text : String) : Line := ⟨.error, text⟩

def warn (text : String) : Line := ⟨.warn, text⟩

def info (text : String) : Line := ⟨.info, text⟩

def debug (text : String) : Line := ⟨.debug, text⟩

/-- The line with its level in front. -/
def Line.render (l : Line) : String := l.level.name ++ ": " ++ l.text

end Log

/-- The lines of one operation, oldest first. -/
abbrev Log := List Log.Line

end GuestBridge
