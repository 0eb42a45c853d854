/-!
# What is logged

The directives that set the level of the log, for the server itself and for the layer below it
that handles connections.
-/

namespace WebMount

/-- The parts of the program that write to the log. -/
def logTargets : List String := ["resource_filter", "tower_http"]

/-- The directives that let all parts write to the log at a level. -/
def logDirectives (level : String) : String :=
  ",".intercalate (logTargets.map fun target => s!"{target}={level}")

end WebMount
