import DrawStyle.Json.Fault
import DrawStyle.Text.Digit

/-!
String literals of a JSON text.

A literal ends at the first quote that is not escaped. Controls must be escaped, and a pair of
`\u` escapes spells a character behind the first 65536.
-/

namespace DrawStyle.Json

theorem map_eq_ok {ε α β : Type} {f : α → β} {x : Except ε α} {b : β} (h : x.map f = .ok b) :
    ∃ a, x = .ok a ∧ f a = b := by
  cases x with
  | error e => cases h
  | ok a => cases h; exact ⟨a, rfl, rfl⟩

def hexValue? (a b c d : Char) : Option Nat := do
  return (((← hexDigit? a) * 16 + (← hexDigit? b)) * 16 + (← hexDigit? c)) * 16 + (← hexDigit? d)

/-- What is wrong where four hexadecimal digits are wanted and not found: fewer than four bytes
are left, or the four bytes that follow are not digits. -/
def hexFault (t : Text) : Fault :=
  if Text.byteSize (t.take 4) < 4 then .early .string else ⟨.invalidEscape, t, 4⟩

def readHex : Text → Except Fault (Nat × Text)
  | a :: b :: c :: d :: rest =>
    match hexValue? a b c d with
    | some n => .ok (n, rest)
    | none => .error (hexFault (a :: b :: c :: d :: rest))
  | t => .error (hexFault t)

def isLeading (n : Nat) : Bool := 0xD800 ≤ n && n ≤ 0xDBFF

def isTrailing (n : Nat) : Bool := 0xDC00 ≤ n && n ≤ 0xDFFF

/-- Reads the digits of the second half of a pair of escapes whose first half is `leading`. -/
def readTrailingDigits (leading : Nat) (t : Text) : Except Fault (Char × Text) :=
  match readHex t with
  | .error fault => .error fault
  | .ok (trailing, rest) =>
    if isTrailing trailing then
      .ok (.ofNat (0x10000 + (leading - 0xD800) * 0x400 + (trailing - 0xDC00)), rest)
    else .error (.before .loneSurrogate rest)

/-- Reads the second half of a pair of escapes whose first half is `leading`. -/
def readTrailing (leading : Nat) : Text → Except Fault (Char × Text)
  | [] => .error (.early .string)
  | c :: t =>
    if c = '\\' then
      match t with
      | [] => .error (.early .string)
      | d :: u =>
        if d = 'u' then readTrailingDigits leading u
        else .error (.on .unfinishedSurrogatePair t)
    else .error (.on .unfinishedSurrogatePair (c :: t))

def readUnicode (t : Text) : Except Fault (Char × Text) :=
  match readHex t with
  | .error fault => .error fault
  | .ok (n, rest) =>
    if isTrailing n then .error (.before .loneSurrogate rest)
    else if isLeading n then readTrailing n rest
    else .ok (.ofNat n, rest)

def escaped? (c : Char) : Option Char :=
  if c = '"' ∨ c = '\\' ∨ c = '/' then some c
  else if c = 'b' then some '\x08'
  else if c = 'f' then some '\x0c'
  else if c = 'n' then some '\n'
  else if c = 'r' then some '\r'
  else if c = 't' then some '\t'
  else none

/-- Reads what follows a backslash: the character that the escape stands for. -/
def readEscape : Text → Except Fault (Char × Text)
  | [] => .error (.early .string)
  | c :: t =>
    if c = 'u' then readUnicode t
    else match escaped? c with
      | some d => .ok (d, t)
      | none => .error (.on .invalidEscape (c :: t))

theorem length_lt_of_readHex {t : Text} {n : Nat} {rest : Text} (h : readHex t = .ok (n, rest)) :
    rest.length < t.length := by
  unfold readHex at h
  split at h
  · split at h
    · cases h; simp only [List.length_cons]; omega
    · cases h
  · cases h

theorem length_lt_of_readTrailingDigits {leading : Nat} {t : Text} {c : Char} {rest : Text}
    (h : readTrailingDigits leading t = .ok (c, rest)) : rest.length < t.length := by
  unfold readTrailingDigits at h
  split at h
  · cases h
  · next hx =>
    split at h
    · simp only [Except.ok.injEq, Prod.mk.injEq] at h
      exact h.2 ▸ length_lt_of_readHex hx
    · cases h

theorem length_lt_of_readTrailing {leading : Nat} {t : Text} {c : Char} {rest : Text}
    (h : readTrailing leading t = .ok (c, rest)) : rest.length < t.length := by
  unfold readTrailing at h
  split at h
  · cases h
  · split at h
    · split at h
      · cases h
      · split at h
        · have := length_lt_of_readTrailingDigits h
          simp only [List.length_cons]
          omega
        · cases h
    · cases h

theorem length_lt_of_readUnicode {t : Text} {c : Char} {rest : Text}
    (h : readUnicode t = .ok (c, rest)) : rest.length < t.length := by
  unfold readUnicode at h
  split at h
  · cases h
  · next hx =>
    have hlt := length_lt_of_readHex hx
    split at h
    · cases h
    · split at h
      · exact Nat.lt_trans (length_lt_of_readTrailing h) hlt
      · cases h; exact hlt

theorem length_lt_of_readEscape {t : Text} {c : Char} {rest : Text}
    (h : readEscape t = .ok (c, rest)) : rest.length < t.length := by
  unfold readEscape at h
  split at h
  · cases h
  · split at h
    · exact Nat.lt_succ_of_lt (length_lt_of_readUnicode h)
    · split at h
      · cases h; exact Nat.lt_succ_self _
      · cases h

/-- Reads a string literal behind its opening quote: its text, and what follows it. -/
def readString (t : Text) : Except Fault (Text × Text) :=
  match t with
  | [] => .error (.early .string)
  | c :: t =>
    if c = '"' then .ok ([], t)
    else if c = '\\' then
      match _h : readEscape t with
      | .error fault => .error fault
      | .ok (d, rest) => (readString rest).map fun (s, rest) => (d :: s, rest)
    else if c < ' ' then .error (.on .controlCharacter (c :: t))
    else (readString t).map fun (s, rest) => (c :: s, rest)
termination_by t.length
decreasing_by
  · have := length_lt_of_readEscape _h
    simp only [List.length_cons]
    omega
  · simp

theorem length_lt_of_readString {t s rest : Text} (h : readString t = .ok (s, rest)) :
    rest.length < t.length := by
  fun_induction readString t generalizing s rest with
  | case1 => cases h
  | case2 t => cases h; exact Nat.lt_succ_self _
  | case3 => cases h
  | case4 t d rest' he _ ih =>
    have hlt := length_lt_of_readEscape he
    obtain ⟨⟨s', r'⟩, hr, heq⟩ := map_eq_ok h
    cases heq
    exact Nat.lt_succ_of_lt (Nat.lt_trans (ih hr) hlt)
  | case5 => cases h
  | case6 c t _ _ _ ih =>
    obtain ⟨⟨s', r'⟩, hr, heq⟩ := map_eq_ok h
    cases heq
    exact Nat.lt_succ_of_lt (ih hr)

end DrawStyle.Json
