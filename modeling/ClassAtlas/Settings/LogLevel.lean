import ClassAtlas.Text.LetterCase

/-!
Levels of log messages. Messages are written when their level is at least the one that is set.
-/

namespace ClassAtlas.LogLevel

/-- The level that applies when a name is unknown. -/
def fallback : Int := 30

/-- The levels that have names. -/
def named : List (String × Int) := [
  ("NOTSET", 0), ("DEBUG", 10), ("INFO", 20), ("WARN", 30), ("WARNING", 30), ("ERROR", 40),
  ("CRITICAL", 50), ("FATAL", 50)]

/-- The level with a name; case does not count. -/
def ofName (name : String) : Int := (named.lookup (Text.upper name)).getD fallback

end ClassAtlas.LogLevel
