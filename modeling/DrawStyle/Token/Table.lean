import DrawStyle.Token.Entries

/-!
Token tables: the literal values behind the names that a stylesheet refers to.

A name is made of ASCII letters, digits and dashes and is held with two dashes in front. It
may be given with or without them, so `t5` and `--t5` are one name.
-/

namespace DrawStyle

def inTokenName (c : Char) : Bool := isAlphanumeric c || c == '-'

/-- A name without the two dashes that may stand in front. -/
def bareName : Text → Text
  | '-' :: '-' :: bare => bare
  | name => name

def normalizeName? (name : Text) : Option Text :=
  let bare := bareName name
  if bare = [] then none
  else if bare.all inTokenName then some ('-' :: '-' :: bare)
  else none

structure InvalidName where
  name : Text
deriving DecidableEq, Repr

def InvalidName.message (e : InvalidName) : Text :=
  "invalid token name '".toList ++ e.name ++ ['\'']

/-- Token names with their literal values, each name once, in order. -/
structure TokenTable where
  entries : Entries
  sorted : entries.Sorted
deriving DecidableEq, Repr

namespace TokenTable

def empty : TokenTable := ⟨[], Entries.sorted_nil⟩

/-- Material colours and line thicknesses of technical drawings. A line is half as thick on
screen as the pen that prints it. -/
def drawingDefaults : TokenTable :=
  ⟨.ofMembers <| [
    ("--concrete-color", "rgb(0, 255, 0)"),
    ("--concrete-precast-color", "rgb(0, 255, 255)"),
    ("--concrete-light-color", "rgb(0, 200, 0)"),
    ("--masonry-color", "rgb(129, 64, 0)"),
    ("--insulation-soft-color", "rgb(255, 191, 0)"),
    ("--insulation-hard-color", "rgb(255, 128, 0)"),
    ("--exspandedclay-color", "rgb(195, 175, 165)"),
    ("--wood-element-color", "rgb(129, 96, 0)"),
    ("--wood-color", "rgb(153, 102, 0)"),
    ("--steel-color", "rgb(255, 0, 0)"),
    ("--gypsom-color", "rgb(189, 173, 126)"),
    ("--terrain-color", "rgb(97, 75, 62)"),
    ("--filling-color", "rgb(204, 153, 0)"),
    ("--t1", "0.03px"),
    ("--t2", "0.06px"),
    ("--t3", "0.09px"),
    ("--t4", "0.125px"),
    ("--t5", "0.175px"),
    ("--t6", "0.25px"),
    ("--t7", "0.35px"),
    ("--t8", "0.5px")].map fun (name, value) => (name.toList, value.toList),
    Entries.sorted_ofMembers _⟩

def insert (table : TokenTable) (name value : Text) : Except InvalidName TokenTable :=
  match normalizeName? name with
  | some name => .ok ⟨table.entries.put name value, table.sorted.put name value⟩
  | none => .error ⟨name⟩

/-- Inserts members in order, up to the first whose name is invalid. -/
def insertAll (table : TokenTable) : List (Text × Text) → Except InvalidName TokenTable
  | [] => .ok table
  | (name, value) :: members =>
    match table.insert name value with
    | .ok table => table.insertAll members
    | .error e => .error e

/-- A table with another one layered over it: the values of the layer win. -/
def extend (table layer : TokenTable) : TokenTable :=
  ⟨table.entries.putAll layer.entries, table.sorted.putAll layer.entries⟩

def get? (table : TokenTable) (name : Text) : Option Text := table.entries.get? name

def contains (table : TokenTable) (name : Text) : Bool := (table.get? name).isSome

def size (table : TokenTable) : Nat := table.entries.length

theorem get?_extend (table layer : TokenTable) (name : Text) :
    (table.extend layer).get? name = (layer.get? name).or (table.get? name) :=
  Entries.get?_putAll layer.sorted table.entries name

theorem contains_extend (table layer : TokenTable) (name : Text) :
    (table.extend layer).contains name = (layer.contains name || table.contains name) := by
  simp only [contains, get?_extend, Option.isSome_or]

end TokenTable

end DrawStyle
