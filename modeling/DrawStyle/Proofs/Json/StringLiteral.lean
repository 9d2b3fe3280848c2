import DrawStyle.Json.StringLiteral
import Mathlib.Data.Char

/-!
How string literals are written.

Each character of a text is written as it is, by a letter behind a backslash, or by the hexadecimal
digits of its UTF-16 units, of which there are one or two. What is read behind an opening quote is
what is written so, up to a quote.
-/

namespace DrawStyle.Json

/-- Four hexadecimal digits, in either case, and the number that they spell. -/
inductive HexSpelling : Text → ℕ → Prop
  | digits {a b c d : Char} {i j k l : ℕ} : hexDigit? a = some i → hexDigit? b = some j →
      hexDigit? c = some k → hexDigit? d = some l →
      HexSpelling [a, b, c, d] (i * 0x1000 + j * 0x100 + k * 0x10 + l)

/-- The letters that may follow a backslash, with the characters that they stand for. -/
def letterEscapes : List (Char × Char) :=
  [('"', '"'), ('\\', '\\'), ('/', '/'), ('b', '\x08'), ('f', '\x0c'), ('n', '\n'), ('r', '\r'),
    ('t', '\t')]

/-- The ways to write a character in a string literal. -/
inductive CharSpelling : Text → Char → Prop
  | raw {c : Char} : ' ' ≤ c → c ≠ '"' → c ≠ '\\' → CharSpelling [c] c
  | letter {d c : Char} : (d, c) ∈ letterEscapes → CharSpelling ['\\', d] c
  | unit {digits : Text} {c : Char} : HexSpelling digits c.toNat →
      CharSpelling ('\\' :: 'u' :: digits) c
  | pair {digits digits' : Text} {n m : ℕ} {c : Char} : HexSpelling digits n →
      HexSpelling digits' m → 0xD800 ≤ n → n ≤ 0xDBFF → 0xDC00 ≤ m → m ≤ 0xDFFF →
      c.toNat = 0x10000 + (n - 0xD800) * 0x400 + (m - 0xDC00) →
      CharSpelling ('\\' :: 'u' :: (digits ++ '\\' :: 'u' :: digits')) c

/-- The ways to write a text between the quotes of a string literal. -/
inductive StringSpelling : Text → Text → Prop
  | nil : StringSpelling [] []
  | cons {u s t : Text} {c : Char} : CharSpelling u c → StringSpelling s t →
      StringSpelling (u ++ s) (c :: t)

section

variable {t u s rest digits : Text} {c d : Char} {n m : ℕ}

/-! ### Digits -/

lemma hexDigit?_lt (h : hexDigit? d = some n) : n < 16 := by
  have hzero : ('0' : Char).toNat = 48 := rfl
  have hsmall : ('a' : Char).toNat = 97 := rfl
  have hlarge : ('A' : Char).toNat = 65 := rfl
  have hd : d.val.toNat = d.toNat := rfl
  rw [hexDigit?] at h
  simp only [Char.le_def, UInt32.le_iff_toNat_le] at h
  split at h
  · next hrange =>
    have hnine : ('9' : Char).val.toNat = 57 := rfl
    obtain rfl := Option.some.inj h
    omega
  · split at h
    · next hrange =>
      have hf : ('f' : Char).val.toNat = 102 := rfl
      obtain rfl := Option.some.inj h
      omega
    · split at h
      · next hrange =>
        have hf : ('F' : Char).val.toNat = 70 := rfl
        obtain rfl := Option.some.inj h
        omega
      · cases h

lemma HexSpelling.lt (h : HexSpelling digits n) : n < 0x10000 := by
  obtain ⟨ha, hb, hc, hd⟩ := h
  have hi := hexDigit?_lt ha
  have hj := hexDigit?_lt hb
  have hk := hexDigit?_lt hc
  have hl := hexDigit?_lt hd
  omega

lemma hexValue?_eq_some {a b c d : Char} (h : hexValue? a b c d = some n) :
    HexSpelling [a, b, c, d] n := by
  simp only [hexValue?, Option.bind_eq_bind, Option.pure_def, Option.bind_eq_some_iff,
    Option.some.injEq] at h
  obtain ⟨i, ha, j, hb, k, hc, l, hd, rfl⟩ := h
  have hvalue : ((i * 16 + j) * 16 + k) * 16 + l = i * 0x1000 + j * 0x100 + k * 0x10 + l := by omega
  rw [hvalue]
  exact .digits ha hb hc hd

/-- **Four digits are read where four digits stand.** -/
theorem readHex_eq_ok_iff :
    readHex t = .ok (n, rest) ↔ ∃ digits, HexSpelling digits n ∧ t = digits ++ rest := by
  constructor
  · intro h
    rw [readHex.eq_def] at h
    split at h
    · next a b c d rest' =>
      split at h
      · next hvalue =>
        obtain ⟨rfl, rfl⟩ := Prod.mk.inj (Except.ok.inj h)
        exact ⟨_, hexValue?_eq_some hvalue, rfl⟩
      · cases h
    · cases h
  · rintro ⟨digits, hspell, rfl⟩
    obtain ⟨ha, hb, hc, hd⟩ := hspell
    next a b c d i j k l =>
    have hvalue : hexValue? a b c d = some (i * 0x1000 + j * 0x100 + k * 0x10 + l) := by
      simp only [hexValue?, ha, hb, hc, hd, Option.bind_eq_bind, Option.pure_def,
        Option.bind_some, Option.some.injEq]
      omega
    simp only [List.cons_append, List.nil_append, readHex, hvalue]

/-! ### Escapes -/

lemma escaped?_eq_some_iff : escaped? d = some c ↔ (d, c) ∈ letterEscapes := by
  constructor
  · intro h
    rw [escaped?] at h
    split at h
    · next hd =>
      obtain rfl := Option.some.inj h
      rcases hd with rfl | rfl | rfl
      all_goals decide
    · split_ifs at h with hb hf hn hr ht
      all_goals
        obtain rfl := Option.some.inj h
        subst d
        decide
  · intro h
    have hall : ∀ e ∈ letterEscapes, escaped? e.1 = some e.2 := by decide
    exact hall _ h

lemma isLeading_iff : isLeading n = true ↔ 0xD800 ≤ n ∧ n ≤ 0xDBFF := by
  simp [isLeading]

lemma isTrailing_iff : isTrailing n = true ↔ 0xDC00 ≤ n ∧ n ≤ 0xDFFF := by
  simp [isTrailing]

lemma toNat_ofNat (h : n < 0xD800 ∨ 0xDFFF < n ∧ n < 0x110000) : (Char.ofNat n).toNat = n := by
  rw [Char.ofNat, dif_pos h]
  rfl

lemma not_surrogate (c : Char) : c.toNat < 0xD800 ∨ 0xDFFF < c.toNat ∧ c.toNat < 0x110000 := c.valid

lemma readTrailing_eq_ok_iff : readTrailing n t = .ok (c, rest) ↔
    ∃ digits m, HexSpelling digits m ∧ isTrailing m = true ∧
      .ofNat (0x10000 + (n - 0xD800) * 0x400 + (m - 0xDC00)) = c ∧
        t = '\\' :: 'u' :: (digits ++ rest) := by
  constructor
  · intro h
    rw [readTrailing.eq_def] at h
    split at h
    · cases h
    · next d u =>
      split_ifs at h with hd
      subst hd
      split at h
      · cases h
      · next e v =>
        split_ifs at h with he
        subst he
        rw [readTrailingDigits] at h
        split at h
        · cases h
        · next m rest' hhex =>
          obtain ⟨digits, hdigits, rfl⟩ := readHex_eq_ok_iff.mp hhex
          split_ifs at h with htrail
          obtain ⟨hc, rfl⟩ := Prod.mk.inj (Except.ok.inj h)
          exact ⟨digits, m, hdigits, htrail, hc, rfl⟩
  · rintro ⟨digits, m, hdigits, htrail, hc, rfl⟩
    have hhex : readHex (digits ++ rest) = .ok (m, rest) :=
      readHex_eq_ok_iff.mpr ⟨digits, hdigits, rfl⟩
    rw [readTrailing, if_pos rfl, if_pos rfl, readTrailingDigits, hhex]
    dsimp only
    rw [if_pos htrail, hc]

/-- **The digits of one or of two units** are read where they stand behind `\u`. -/
theorem readUnicode_eq_ok_iff : readUnicode t = .ok (c, rest) ↔
    ∃ u, CharSpelling ('\\' :: 'u' :: u) c ∧ t = u ++ rest := by
  constructor
  · intro h
    rw [readUnicode] at h
    split at h
    · cases h
    · next n rest' hhex =>
      obtain ⟨digits, hdigits, rfl⟩ := readHex_eq_ok_iff.mp hhex
      have hlt := hdigits.lt
      split_ifs at h with htrail hlead
      · obtain ⟨digits', m, hdigits', htrail', hc, rfl⟩ := readTrailing_eq_ok_iff.mp h
        obtain ⟨hn, hn'⟩ := isLeading_iff.mp hlead
        obtain ⟨hm, hm'⟩ := isTrailing_iff.mp htrail'
        refine ⟨digits ++ '\\' :: 'u' :: digits', .pair hdigits hdigits' hn hn' hm hm' ?_, by simp⟩
        rw [← hc, toNat_ofNat (by omega)]
      · obtain ⟨hc, rfl⟩ := Prod.mk.inj (Except.ok.inj h)
        rw [isTrailing_iff] at htrail
        rw [isLeading_iff] at hlead
        refine ⟨digits, .unit ?_, rfl⟩
        rwa [← hc, toNat_ofNat (by omega)]
  · rintro ⟨u, hspell, rfl⟩
    have hvalid := not_surrogate c
    rw [readUnicode]
    cases hspell with
    | letter hletter =>
      have hall : ∀ e ∈ letterEscapes, e.1 ≠ 'u' := by decide
      exact absurd rfl (hall _ hletter)
    | unit hdigits =>
      have hhex : readHex (u ++ rest) = .ok (c.toNat, rest) :=
        readHex_eq_ok_iff.mpr ⟨u, hdigits, rfl⟩
      have htrail : ¬ isTrailing c.toNat = true := by
        rw [isTrailing_iff]
        omega
      have hlead : ¬ isLeading c.toNat = true := by
        rw [isLeading_iff]
        omega
      rw [hhex]
      dsimp only
      rw [if_neg htrail, if_neg hlead, Char.ofNat_toNat]
    | @pair digits digits' n m _ hdigits hdigits' hn hn' hm hm' hc =>
      have hhex : readHex (digits ++ '\\' :: 'u' :: (digits' ++ rest)) =
          .ok (n, '\\' :: 'u' :: (digits' ++ rest)) := readHex_eq_ok_iff.mpr ⟨digits, hdigits, rfl⟩
      have htrail : ¬ isTrailing n = true := by
        rw [isTrailing_iff]
        omega
      have htext : digits ++ '\\' :: 'u' :: digits' ++ rest =
          digits ++ '\\' :: 'u' :: (digits' ++ rest) := by simp
      rw [htext, hhex]
      dsimp only
      rw [if_neg htrail, if_pos (isLeading_iff.mpr ⟨hn, hn'⟩)]
      refine readTrailing_eq_ok_iff.mpr ⟨digits', m, hdigits', isTrailing_iff.mpr ⟨hm, hm'⟩, ?_, rfl⟩
      rw [← hc, Char.ofNat_toNat]

/-- **What an escape stands for** is read behind a backslash. -/
theorem readEscape_eq_ok_iff : readEscape t = .ok (c, rest) ↔
    ∃ u, CharSpelling ('\\' :: u) c ∧ t = u ++ rest := by
  constructor
  · intro h
    rw [readEscape.eq_def] at h
    split at h
    · cases h
    · next d t =>
      split_ifs at h with hd
      · obtain ⟨u, hspell, rfl⟩ := readUnicode_eq_ok_iff.mp h
        rw [hd]
        exact ⟨'u' :: u, hspell, rfl⟩
      · split at h
        · next e hletter =>
          obtain ⟨rfl, rfl⟩ := Prod.mk.inj (Except.ok.inj h)
          exact ⟨[d], .letter (escaped?_eq_some_iff.mp hletter), rfl⟩
        · cases h
  · rintro ⟨u, hspell, rfl⟩
    have hunicode : ∀ v, u = 'u' :: v → readEscape (u ++ rest) = .ok (c, rest) := by
      rintro v rfl
      rw [List.cons_append, readEscape, if_pos rfl]
      exact readUnicode_eq_ok_iff.mpr ⟨v, hspell, rfl⟩
    cases hspell with
    | raw _ _ hne => exact absurd rfl hne
    | unit hdigits => exact hunicode _ rfl
    | pair hdigits hdigits' hn hn' hm hm' hc => exact hunicode _ rfl
    | @letter d _ hletter =>
      have hall : ∀ e ∈ letterEscapes, e.1 ≠ 'u' := by decide
      rw [List.cons_append, readEscape, if_neg (hall _ hletter), escaped?_eq_some_iff.mpr hletter]
      rfl

/-! ### Literals -/

lemma CharSpelling.readString_append (h : CharSpelling u c) (hs : readString t = .ok (s, rest)) :
    readString (u ++ t) = .ok (c :: s, rest) := by
  have hescape : ∀ v, u = '\\' :: v → readString (u ++ t) = .ok (c :: s, rest) := by
    rintro v rfl
    have he : readEscape (v ++ t) = .ok (c, t) := readEscape_eq_ok_iff.mpr ⟨v, h, rfl⟩
    rw [List.cons_append, readString, if_neg (by decide), if_pos rfl]
    split
    · next heq => rw [he] at heq; cases heq
    · next heq =>
      rw [he] at heq
      cases heq
      rw [hs]
      rfl
  cases h with
  | letter _ => exact hescape _ rfl
  | unit _ => exact hescape _ rfl
  | pair => exact hescape _ rfl
  | raw hlow hquote hslash =>
    have hcontrol : ¬ c < ' ' := by simpa using hlow
    rw [List.singleton_append, readString, if_neg hquote, if_neg hslash, if_neg hcontrol, hs]
    rfl

/-- **What is read behind an opening quote is what is written up to a quote.** -/
theorem readString_eq_ok_iff :
    readString t = .ok (s, rest) ↔ ∃ u, StringSpelling u s ∧ t = u ++ '"' :: rest := by
  constructor
  · intro h
    fun_induction readString t generalizing s rest with
    | case1 => cases h
    | case2 t =>
      cases h
      exact ⟨[], .nil, rfl⟩
    | case3 => cases h
    | case4 t d rest' he _ ih =>
      obtain ⟨⟨s', rest''⟩, hs, heq⟩ := map_eq_ok h
      cases heq
      obtain ⟨u, hspell, rfl⟩ := readEscape_eq_ok_iff.mp he
      obtain ⟨v, hrest, rfl⟩ := ih hs
      exact ⟨'\\' :: u ++ v, .cons hspell hrest, by simp⟩
    | case5 => cases h
    | case6 c t hquote hslash hcontrol ih =>
      obtain ⟨⟨s', rest''⟩, hs, heq⟩ := map_eq_ok h
      cases heq
      obtain ⟨v, hrest, rfl⟩ := ih hs
      exact ⟨[c] ++ v, .cons (.raw (by simpa using hcontrol) hquote hslash) hrest, rfl⟩
  · rintro ⟨u, hspell, rfl⟩
    induction hspell with
    | nil => rw [List.nil_append, readString, if_pos rfl]
    | cons hchar _ ih =>
      rw [List.append_assoc]
      exact hchar.readString_append ih

end

end DrawStyle.Json
