import DrawStyle.Expression.Basic

/-!
Expressions in normal form.

Sequences and choices are made of their parts and branches without nesting, literals that touch
become one, a choice of characters becomes a set, and what all branches of a choice begin with is
taken out of it. Nothing of this changes which texts fit.
-/

namespace DrawStyle.Expression

def ofParts : List Expression → Expression
  | [] => empty
  | [e] => e
  | e :: es => sequence e (ofParts es)

/-- Puts a part before others; two literals become one. -/
def putBefore (e : Expression) (es : List Expression) : List Expression :=
  match e, es with
  | empty, es => es
  | literal t, literal u :: es => literal (t ++ u) :: es
  | e, es => e :: es

def sequenceOf (es : List Expression) : Expression :=
  ofParts ((es.flatMap parts).foldr putBefore [])

def nothing : Expression := set true .empty

def setOf (plain : Bool) (s : CharSet) : Expression :=
  match s.single? with
  | some c => literal [c]
  | none => if s.ranges = [] then nothing else set plain s

def ofBranches (e : Expression) : List Expression → Expression
  | [] => e
  | f :: es => choice e (ofBranches f es)

def character? : Expression → Option Char
  | literal [c] => some c
  | _ => none

def set? : Expression → Option CharSet
  | set _ s => some s
  | _ => none

/-- A set for a choice, if all branches are characters or all are sets. -/
def setOfBranches? (es : List Expression) : Option CharSet :=
  match es.mapM character? with
  | some cs => some (.ofList cs)
  | none => (es.mapM set?).map .unions

/-- The parts of a sequence; nothing else has any here. -/
def sequenceParts : Expression → List Expression
  | sequence a b => a :: b.parts
  | _ => []

def commonFront : List Expression → List Expression → List Expression
  | e :: es, f :: fs => if e = f then e :: commonFront es fs else []
  | _, _ => []

def frontOfBranches : List Expression → List Expression
  | [] => []
  | e :: es => es.foldl (fun front f => commonFront front f.sequenceParts) e.sequenceParts

/-- The choice between some expressions; what they begin with is taken out at most `n` times. -/
def choiceWithin : Nat → List Expression → Expression
  | n, es =>
    match es.flatMap branches with
    | [] => nothing
    | [e] => e
    | e :: es =>
      match setOfBranches? (e :: es) with
      | some s => setOf false s
      | none =>
        match n, frontOfBranches (e :: es) with
        | n + 1, f :: front =>
          let rests := (e :: es).map fun e => sequenceOf (e.sequenceParts.drop (front.length + 1))
          sequenceOf (f :: front ++ [choiceWithin n rests])
        | _, _ => ofBranches e es

/-- The choice between some expressions. Each time what they begin with is taken out they become
smaller. -/
def choiceOf (es : List Expression) : Expression :=
  choiceWithin (es.foldl (fun n e => n + e.size) 0) es

/-- An expression so many times in a row. One for which nothing is read is not needed twice. -/
def repeatedOf (e : Expression) (least : Nat) (most : Option Nat) (greedy : Bool) : Expression :=
  let once := e.readsNothing
  let least := if once then min least 1 else least
  let most := if once then some (min (most.getD 1) 1) else most
  if least = 0 ∧ most = some 0 then empty
  else if least = 1 ∧ most = some 1 then e
  else repeated e least most greedy

end DrawStyle.Expression
