import DrawStyle.Automaton.ExpressionStates
import DrawStyle.Expression.Reader
import DrawStyle.Expression.Search
import DrawStyle.Log
import DrawStyle.Text.Terminal

/-!
Which messages are shown, and how.

A filter is written as rules between commas: a level for everything, or the beginning of a
target with a level. Of the rules whose targets a message matches the longest one counts, and
of equally long ones the last. Behind a slash stands a regular expression; of the messages that
the rules choose only those are shown that have a part which fits it. What a message holds to
control a terminal counts for the expression and is not shown.
-/

namespace DrawStyle.CommandLine

/-- Shows messages of a target up to a level; without a level, none. -/
structure FilterRule where
  /-- What the target of a message begins with; everything if absent. -/
  target : Option Text
  level : Option Level
deriving DecidableEq, Repr

structure LogFilter where
  rules : List FilterRule
  /-- What a part of a message must fit; nothing is required if absent. -/
  wanted : Option Expression := none
deriving Repr

inductive FilterFault where
  | tooManySlashes (spec : Text)
  | badRule (rule : Text)
  | badExpression (expression : Text) (fault : ExpressionFault)
  | expressionTooLarge
deriving DecidableEq, Repr

def FilterFault.message (fault : FilterFault) : Text :=
  let what := match fault with
    | tooManySlashes spec =>
      "invalid logging spec '".toList ++ spec ++ "' (too many '/'s)".toList
    | badRule rule => "invalid logging spec '".toList ++ rule ++ ['\'']
    | badExpression expression fault =>
      "invalid regex filter - ".toList ++ fault.report expression
    | expressionTooLarge => "invalid regex filter - ".toList ++ Automaton.tooLargeMessage
  "warning: ".toList ++ what ++ ", ignoring it".toList

/-- A text without the blanks around it. -/
def trim (t : Text) : Text := ((t.dropWhile isBlank).reverse.dropWhile isBlank).reverse

/-- The level that a word names, in either case; `off` is no level. -/
def level? (word : Text) : Option (Option Level) :=
  let word := word.map Char.toLower
  if word = "off".toList then some none
  else if word = "error".toList then some (some .error)
  else if word = "warn".toList then some (some .warn)
  else if word = "info".toList then some (some .info)
  else if word = "debug".toList then some (some .debug)
  else if word = "trace".toList then some (some .trace)
  else none

def readRule (t : Text) : Except Text FilterRule :=
  match t.splitOn '=' with
  | [word] =>
    match level? word with
    | some level => .ok ⟨none, level⟩
    | none => .ok ⟨some word, some .trace⟩
  | [target, level] =>
    if trim level = [] then .ok ⟨some target, some .trace⟩
    else match level? (trim level) with
      | some level => .ok ⟨some target, level⟩
      | none => .error (trim level)
  | _ => .error t

namespace LogFilter

def addRule (rule : FilterRule) : List FilterRule → List FilterRule
  | [] => [rule]
  | r :: rules => if r.target = rule.target then rule :: rules else r :: addRule rule rules

def upTo (level : Level) : LogFilter := { rules := [⟨none, some level⟩] }

/-- Reads rules, and gives those that are wrong; they are left out. -/
def parseRules (t : Text) : List FilterRule × List FilterFault :=
  (((t.splitOn ',').map trim).filter (· ≠ [])).foldl (fun (rules, wrong) rule =>
    match readRule rule with
    | .ok rule => (addRule rule rules, wrong)
    | .error what => (rules, wrong ++ [.badRule what])) ([], [])

/-- Reads the expression of a filter, if there is one, and gives what is wrong with it. -/
def parseWanted : Option Text → Option Expression × List FilterFault
  | none => (none, [])
  | some t =>
    match Expression.parse t with
    | .ok e => if Automaton.isTooLarge e then (none, [.expressionTooLarge]) else (some e, [])
    | .error fault => (none, [.badExpression t fault])

/-- The filter of some rules; where there are none, errors are shown. -/
def ofRules (rules : List FilterRule) (wanted : Option Expression) : LogFilter :=
  { rules := if rules = [] then (upTo .error).rules else rules, wanted }

/-- Reads a filter, and gives what is wrong in it and was left out. -/
def parse (t : Text) : LogFilter × List FilterFault :=
  match t.splitOn '/' with
  | [] => (ofRules [] none, [])
  | front :: behind =>
    if behind.length ≤ 1 then
      let (rules, wrongRules) := parseRules front
      let (wanted, wrongExpression) := parseWanted behind.head?
      (ofRules rules wanted, wrongRules ++ wrongExpression)
    else (ofRules [] none, [.tooManySlashes t])

/-- The rule that counts for a target: of those that match the last one that is longest. -/
def ruleFor? (filter : LogFilter) (target : Text) : Option FilterRule :=
  filter.rules.foldl (fun best rule =>
    let name := rule.target.getD []
    if !name.isPrefixOf target then best
    else match best with
      | none => some rule
      | some b => if (b.target.getD []).byteSize ≤ name.byteSize then some rule else best) none

def chooses (filter : LogFilter) (entry : LogEntry) : Bool :=
  match (filter.ruleFor? entry.topic.target).bind FilterRule.level with
  | some level => entry.level.rank ≤ level.rank
  | none => false

def shows (filter : LogFilter) (entry : LogEntry) : Bool :=
  filter.chooses entry && filter.wanted.all fun e => e.isIn entry.message

end LogFilter

/-- A text in which every line but the first is indented. -/
def indentRest (indent : Nat) (t : Text) : Text :=
  t.flatMap fun c => if c = '\n' then '\n' :: List.replicate indent ' ' else [c]

def entryLines (entry : LogEntry) : Text :=
  let level := entry.level.name
  '[' :: level ++ List.replicate (5 - level.length) ' ' ++ ' ' :: entry.topic.target ++
    "] ".toList ++ indentRest 4 entry.message ++ ['\n']

/-- What is written of a message: all but what a terminal would obey. Where a message ends within
such a sequence, the end of its last line belongs to the sequence. -/
def entryText (entry : LogEntry) : Text := withoutControls (entryLines entry)

end DrawStyle.CommandLine
