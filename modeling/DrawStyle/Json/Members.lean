import DrawStyle.Json.NumberLiteral
import DrawStyle.Json.StringLiteral

/-!
JSON objects whose members are strings.

`readObject` gives the members in the order of the text, repeats included. The first fault from
the left is reported; what stands behind a value of another type is not looked at.
-/

namespace DrawStyle.Json

def isJsonBlank (c : Char) : Bool := c == ' ' || c == '\t' || c == '\n' || c == '\r'

def skipBlanks (t : Text) : Text := t.dropWhile isJsonBlank

def readWord : Text → Text → Except Fault Text
  | [], t => .ok t
  | _ :: _, [] => .error (.early .value)
  | w :: word, c :: t => if c = w then readWord word t else .error (.on .expectedIdentifier (c :: t))

/-- Reads a value that is not wanted. Of a sequence or a map nothing is read. -/
def readFound : Text → Except Fault (Found × Text)
  | [] => .error (.early .value)
  | c :: t =>
    if c = '"' then (readString t).map fun (s, rest) => (.string s, rest)
    else if c = '[' then .ok (.sequence, c :: t)
    else if c = '\x7b' then .ok (.map, c :: t)
    else if c = 'n' then (readWord ['u', 'l', 'l'] t).map fun rest => (.null, rest)
    else if c = 't' then (readWord ['r', 'u', 'e'] t).map fun rest => (.boolean true, rest)
    else if c = 'f' then (readWord ['a', 'l', 's', 'e'] t).map fun rest => (.boolean false, rest)
    else if c = '-' ∨ isDigit c then readNumber (c :: t)
    else .error (.on .expectedValue (c :: t))

/-- What is wrong where a value of another type stands than is wanted. -/
def valueFault (expected : Expected) (t : Text) : Fault :=
  match readFound t with
  | .ok (found, rest) => .before (.unexpectedType found expected) rest
  | .error fault => fault

def readStringValue : Text → Except Fault (Text × Text)
  | '"' :: t => readString t
  | t => .error (valueFault .string t)

def readMember (t : Text) : Except Fault ((Text × Text) × Text) :=
  match readString t with
  | .error fault => .error fault
  | .ok (name, t) =>
    match skipBlanks t with
    | [] => .error (.early .object)
    | ':' :: t => (readStringValue (skipBlanks t)).map fun (value, rest) => ((name, value), rest)
    | t => .error (.on .expectedColon t)

def nameFault : Text → Fault
  | [] => .early .value
  | '\x7d' :: t => .on .trailingComma ('\x7d' :: t)
  | t => .on .keyMustBeString t

theorem length_skipBlanks_le (t : Text) : (skipBlanks t).length ≤ t.length :=
  (List.dropWhile_sublist _).length_le

theorem length_lt_of_readStringValue {t s rest : Text} (h : readStringValue t = .ok (s, rest)) :
    rest.length < t.length := by
  unfold readStringValue at h
  split at h
  · exact Nat.lt_succ_of_lt (length_lt_of_readString h)
  · cases h

theorem length_lt_of_readMember {t : Text} {m : Text × Text} {rest : Text}
    (h : readMember t = .ok (m, rest)) : rest.length < t.length := by
  unfold readMember at h
  split at h
  · cases h
  · next name u hs =>
    have h₁ := length_lt_of_readString hs
    have h₂ := length_skipBlanks_le u
    split at h
    · cases h
    · next v hv =>
      obtain ⟨⟨value, r⟩, hr, heq⟩ := map_eq_ok h
      cases heq
      have h₃ := length_lt_of_readStringValue hr
      have h₄ := length_skipBlanks_le v
      rw [hv] at h₂
      simp only [List.length_cons] at h₂
      omega
    · cases h

def readMembers (t : Text) : Except Fault (List (Text × Text) × Text) :=
  match _h : skipBlanks t with
  | [] => .error (.early .object)
  | '\x7d' :: rest => .ok ([], rest)
  | ',' :: v =>
    match _hu : skipBlanks v with
    | '"' :: u =>
      match _hm : readMember u with
      | .error fault => .error fault
      | .ok (m, rest) => (readMembers rest).map fun (ms, rest) => (m :: ms, rest)
    | u => .error (nameFault u)
  | u => .error (.on .expectedCommaOrBrace u)
termination_by t.length
decreasing_by
  have h₁ := length_lt_of_readMember _hm
  have h₂ := length_skipBlanks_le t
  have h₃ := length_skipBlanks_le v
  rw [_h] at h₂
  rw [_hu] at h₃
  simp only [List.length_cons] at h₂ h₃
  omega

/-- Reads an object behind its opening brace: its members, and what follows it. -/
def readObject (t : Text) : Except Fault (List (Text × Text) × Text) :=
  match skipBlanks t with
  | [] => .error (.early .object)
  | '\x7d' :: rest => .ok ([], rest)
  | '"' :: u =>
    match readMember u with
    | .error fault => .error fault
    | .ok (m, rest) => (readMembers rest).map fun (ms, rest) => (m :: ms, rest)
  | u => .error (.on .keyMustBeString u)

end DrawStyle.Json
