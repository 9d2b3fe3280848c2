import DrawStyle.Text
import Mathlib.Data.List.Basic

/-!
The bytes of a text.

Bytes are those of at most one text, and they are as many as the text is said to take.
-/

namespace DrawStyle.Text

lemma size_utf8Encode (t : Text) : t.utf8Encode.size = byteSize t := by
  induction t with
  | nil => rfl
  | cons c t ih =>
    rw [List.utf8Encode_cons, ByteArray.size_append, ih, byteSize_cons, List.utf8Encode_singleton]
    simp

/-- A text takes as many bytes in a file as it is said to take. -/
theorem size_encode (t : Text) : (encode t).size = byteSize t := by
  rw [← size_utf8Encode, encode, String.toUTF8_eq_toByteArray, String.toByteArray_ofList]

/-- **Bytes spell a text exactly if they are those of the text.** -/
theorem decode?_eq_some_iff {bytes : ByteArray} {t : Text} :
    decode? bytes = some t ↔ bytes = encode t := by
  constructor
  · intro h
    obtain ⟨s, hs, rfl⟩ := Option.map_eq_some_iff.mp h
    rw [String.fromUTF8?] at hs
    split at hs
    · next hvalid =>
      obtain rfl := Option.some.inj hs
      rw [encode, String.ofList_toList]
      rfl
    · cases hs
  · rintro rfl
    exact decode?_encode t

/-- The bytes of a text, one after the other. -/
def bytes (t : Text) : List UInt8 := (encode t).data.toList

lemma bytes_eq_flatMap (t : Text) : bytes t = t.flatMap String.utf8EncodeChar := by
  rw [bytes, encode, String.toUTF8_eq_toByteArray, String.toByteArray_ofList, List.utf8Encode]
  simp

lemma bytes_cons (c : Char) (t : Text) : bytes (c :: t) = String.utf8EncodeChar c ++ bytes t := by
  simp only [bytes_eq_flatMap, List.flatMap_cons]

lemma bytes_append (s t : Text) : bytes (s ++ t) = bytes s ++ bytes t := by
  simp only [bytes_eq_flatMap, List.flatMap_append]

lemma length_bytes (t : Text) : (bytes t).length = byteSize t := by
  rw [← size_encode, bytes, Array.length_toList]
  rfl

lemma encodeChar_append_lt {c d : Char} (h : c < d) (x y : List UInt8) :
    String.utf8EncodeChar c ++ x < String.utf8EncodeChar d ++ y := by
  have hlt : c.val.toNat < d.val.toNat := h
  have hd : d.val.toNat < 0x110000 := by
    rcases d.valid with hd | hd
    · exact Nat.lt_trans hd (by decide)
    · exact hd.2
  rw [String.utf8EncodeChar, String.utf8EncodeChar]
  generalize c.val.toNat = v at hlt
  generalize d.val.toNat = w at hlt hd
  -- the digits of a number to the base 64, one division after the other
  have hthird : ∀ n : Nat, n / 4096 = n / 64 / 64 := fun n => (Nat.div_div_eq_div_mul n 64 64).symm
  have hfourth : ∀ n : Nat, n / 262144 = n / 64 / 64 / 64 := fun n => by
    rw [Nat.div_div_eq_div_mul, Nat.div_div_eq_div_mul]
  split_ifs
  all_goals
    simp only [hthird, hfourth, List.cons_append, List.nil_append, List.cons_lt_cons_iff,
      UInt8.lt_iff_toNat_lt, ← UInt8.toNat_inj, UInt8.toNat_ofNat']
    omega

lemma bytes_lt {s t : Text} (h : s < t) : bytes s < bytes t := by
  induction h with
  | @nil c t =>
    rw [bytes_cons]
    rcases hc : String.utf8EncodeChar c with _ | ⟨b, bs⟩
    · exact absurd hc (String.utf8EncodeChar_ne_nil)
    · exact List.Lex.nil
  | rel h =>
    rw [bytes_cons, bytes_cons]
    exact encodeChar_append_lt h _ _
  | @cons c s t h ih =>
    rw [bytes_cons, bytes_cons]
    exact List.append_left_lt ih

theorem lt_iff_bytes_lt {s t : Text} : s < t ↔ bytes s < bytes t := by
  constructor
  · exact bytes_lt
  · intro h
    by_contra hnot
    rcases List.le_iff_lt_or_eq.mp (List.not_lt.mp hnot) with hts | rfl
    · exact List.lt_irrefl _ (List.lt_trans h (bytes_lt hts))
    · exact List.lt_irrefl _ h

end DrawStyle.Text
