/-!
Texts, their size in bytes, and the characters that count as blank.

A stylesheet is handled as the list of its characters; bytes matter only where a size or an
offset is reported, and at the edge, where files are read and written.
-/

namespace DrawStyle

abbrev Text := List Char

namespace Text

def byteSize : Text → Nat
  | [] => 0
  | c :: t => c.utf8Size + byteSize t

def encode (t : Text) : ByteArray := (String.ofList t).toUTF8

/-- The text that the bytes of a file spell, if they are well-formed UTF-8. -/
def decode? (bytes : ByteArray) : Option Text := (String.fromUTF8? bytes).map String.toList

@[simp] theorem byteSize_nil : byteSize [] = 0 := rfl

@[simp] theorem byteSize_cons (c : Char) (t : Text) :
    byteSize (c :: t) = c.utf8Size + byteSize t := rfl

@[simp] theorem byteSize_append (s t : Text) : byteSize (s ++ t) = byteSize s + byteSize t := by
  induction s with
  | nil => simp
  | cons c s ih => simp [ih, Nat.add_assoc]

theorem decode?_encode (t : Text) : decode? (encode t) = some t := by
  have h : String.fromUTF8? (String.ofList t).toUTF8 = some (String.ofList t) :=
    dif_pos (String.isValidUTF8 _)
  simp only [decode?, encode, h, Option.map_some, String.toList_ofList]

end Text

def isBlank (c : Char) : Bool :=
  let n := c.toNat
  (0x09 ≤ n && n ≤ 0x0D) || n == 0x20 || n == 0x85 || n == 0xA0 || n == 0x1680 ||
    (0x2000 ≤ n && n ≤ 0x200A) || n == 0x2028 || n == 0x2029 || n == 0x202F || n == 0x205F ||
    n == 0x3000

/-- A text of blanks only; the empty text is one. -/
def Text.isBlank (t : Text) : Bool := t.all DrawStyle.isBlank

def isAlphanumeric (c : Char) : Bool :=
  ('a' ≤ c && c ≤ 'z') || ('A' ≤ c && c ≤ 'Z') || ('0' ≤ c && c ≤ '9')

def afterFront? : Text → Text → Option Text
  | [], t => some t
  | _ :: _, [] => none
  | c :: front, d :: t => if c = d then afterFront? front t else none

@[simp] theorem afterFront?_append (front t : Text) : afterFront? front (front ++ t) = some t := by
  induction front with
  | nil => simp [afterFront?]
  | cons c front ih => simp [afterFront?, ih]

theorem eq_append_of_afterFront? {front t rest : Text} (h : afterFront? front t = some rest) :
    t = front ++ rest := by
  induction front generalizing t with
  | nil => simpa [afterFront?] using h
  | cons c front ih =>
    cases t with
    | nil => simp [afterFront?] at h
    | cons d t =>
      by_cases hcd : c = d
      · simp only [afterFront?, hcd, if_true] at h
        simp [hcd, ih h]
      · simp [afterFront?, hcd] at h

end DrawStyle
