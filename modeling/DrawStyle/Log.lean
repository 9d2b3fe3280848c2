import DrawStyle.Text

/-!
Messages about what is being done.

Each message has a level and comes from one part of the work, by which messages can be chosen.
-/

namespace DrawStyle

inductive Level where
  | error
  | warn
  | info
  | debug
  | trace
deriving DecidableEq, Repr

namespace Level

/-- The place of a level in the order from the most important one. -/
def rank : Level → Nat
  | error => 1
  | warn => 2
  | info => 3
  | debug => 4
  | trace => 5

def name : Level → Text
  | error => "ERROR".toList
  | warn => "WARN".toList
  | info => "INFO".toList
  | debug => "DEBUG".toList
  | trace => "TRACE".toList

end Level

inductive Topic where
  | reading
  | parsing
  | merging
  | resolving
  | writing
  | running
  | commanding
deriving DecidableEq, Repr

/-- The name by which the messages of a part of the work are chosen. -/
def Topic.target : Topic → Text
  | reading => "drawcss_core::loader".toList
  | parsing => "drawcss_core::parser".toList
  | merging => "drawcss_core::merger".toList
  | resolving => "drawcss_core::resolver".toList
  | writing => "drawcss_core::emitter".toList
  | running => "drawcss_core::pipeline".toList
  | commanding => "drawcss".toList

structure LogEntry where
  level : Level
  topic : Topic
  message : Text
deriving DecidableEq, Repr

end DrawStyle
