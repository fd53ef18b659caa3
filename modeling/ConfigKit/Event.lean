-- SUMMARY: Log events: a level, a message, and fields of text.
/-!
# Log events

What the operations report while they work. An event has a level, a message that names what happens,
and fields that say with what. Field values are text.
-/

namespace ConfigKit

/-- How much an event matters. -/
inductive Level where
  | trace
  | debug
  | warn
  deriving DecidableEq

/-- One reported event. -/
structure Event where
  level : Level
  message : String
  fields : List (String × String)
  deriving DecidableEq

end ConfigKit
