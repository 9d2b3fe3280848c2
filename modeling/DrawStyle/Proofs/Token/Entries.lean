import DrawStyle.Token.Table
import DrawStyle.Proofs.Text.Encoding
import Mathlib.Data.List.Nodup

/-!
What sorted entries hold.

Entries are known by the values under their names, and those of given members by the last value
given to each name. Their names stand in the order of the bytes.
-/

namespace DrawStyle

namespace Entries

variable {es fs : Entries} {name value : Text} {e : Text × Text} {members : List (Text × Text)}

lemma Sorted.nodup_names (h : es.Sorted) : (es.map Prod.fst).Nodup := by
  refine List.pairwise_map.mpr (h.imp fun {e f} hlt heq => ?_)
  rw [heq] at hlt
  exact List.lt_irrefl _ hlt

/-- The value under a name is the one that stands there. -/
theorem Sorted.get?_eq_some_iff (h : es.Sorted) :
    es.get? name = some value ↔ (name, value) ∈ es := by
  refine ⟨mem_of_get?, fun hmem => ?_⟩
  induction es with
  | nil => cases hmem
  | cons e es ih =>
    obtain ⟨hfirst, hrest⟩ := List.pairwise_cons.mp h
    rcases List.mem_cons.mp hmem with rfl | hmem
    · simp [get?]
    · have hne : name ≠ e.1 := by
        rintro rfl
        exact List.lt_irrefl _ (hfirst (e.1, value) hmem)
      rw [get?, if_neg hne]
      exact ih hrest hmem

lemma Sorted.eq_of_perm (hes : es.Sorted) (hfs : fs.Sorted) (h : es.Perm fs) : es = fs := by
  refine h.eq_of_pairwise (fun e f _ _ hef hfe => ?_) hes hfs
  exact absurd (List.lt_trans hef hfe) (List.lt_irrefl _)

/-- **Sorted entries are the same if they hold the same.** -/
theorem Sorted.ext (hes : es.Sorted) (hfs : fs.Sorted) (h : ∀ e, e ∈ es ↔ e ∈ fs) : es = fs :=
  hes.eq_of_perm hfs <|
    (List.perm_ext_iff_of_nodup hes.nodup_names.of_map hfs.nodup_names.of_map).mpr h

lemma get?_putAll_members (es : Entries) (members : List (Text × Text)) (name : Text) :
    (es.putAll members).get? name = (members.reverse.lookup name).or (es.get? name) := by
  induction members generalizing es with
  | nil => rfl
  | cons m members ih =>
    have hrest : es.putAll (m :: members) = (es.put m.1 m.2).putAll members := rfl
    have hlast : [m].lookup name = if name = m.1 then some m.2 else none := by
      rw [List.lookup_cons, List.lookup_nil]
      by_cases hname : name = m.1
      · simp [hname]
      · simp [hname, beq_eq_false_iff_ne.mpr hname]
    rw [hrest, ih, get?_put, List.reverse_cons, List.lookup_append, Option.or_assoc, hlast]
    congr 1
    split_ifs
    · rfl
    · rfl

lemma get?_ofMembers (members : List (Text × Text)) (name : Text) :
    (ofMembers members).get? name = members.reverse.lookup name := by
  rw [ofMembers, get?_putAll_members, get?, Option.or_none]

/-- **Of equal names the last one counts.** -/
theorem mem_ofMembers_iff :
    (name, value) ∈ ofMembers members ↔ members.reverse.lookup name = some value := by
  rw [← (sorted_ofMembers members).get?_eq_some_iff, get?_ofMembers]

/-- What is true of all members is seen without putting them in order. -/
lemma forall_mem_ofMembers {P : Text × Text → Prop} (h : ∀ m ∈ members, P m) :
    ∀ e ∈ ofMembers members, P e := by
  intro e he
  obtain ⟨s, t, hst, -⟩ := List.lookup_eq_some_iff.mp (mem_ofMembers_iff.mp he)
  refine h e (List.mem_reverse.mp ?_)
  rw [hst]
  exact List.mem_append_right _ List.mem_cons_self

/-- The value of a name is found among the members with that name. -/
lemma lookup_filter_name (members : List (Text × Text)) (name : Text) :
    (members.filter fun m => m.1 == name).lookup name = members.lookup name := by
  induction members with
  | nil => rfl
  | cons m members ih =>
    by_cases hm : m.1 = name
    · rw [List.filter_cons_of_pos (by simp [hm]), List.lookup_cons, List.lookup_cons, hm,
        beq_self_eq_true]
    · have hne : (name == m.1) = false := beq_eq_false_iff_ne.mpr (Ne.symm hm)
      rw [List.filter_cons_of_neg (by simp [hm]), List.lookup_cons, hne, ih]

lemma name_mem_ofMembers_iff :
    name ∈ (ofMembers members).map Prod.fst ↔ name ∈ members.map Prod.fst := by
  simp only [List.mem_map, Prod.exists, exists_and_right, exists_eq_right, mem_ofMembers_iff]
  rw [← Option.isSome_iff_exists, List.lookup_isSome_iff]
  simp

lemma perm_ofMembers (h : (members.map Prod.fst).Nodup) : (ofMembers members).Perm members := by
  have hsorted : (ofMembers members).Nodup := (sorted_ofMembers members).nodup_names.of_map
  refine (List.perm_ext_iff_of_nodup hsorted h.of_map).mpr fun ⟨name, value⟩ => ?_
  rw [mem_ofMembers_iff, List.lookup_eq_some_iff, ← List.mem_reverse]
  constructor
  · rintro ⟨s, t, hst, -⟩
    rw [hst]
    simp
  · intro hmem
    obtain ⟨s, t, hst⟩ := List.mem_iff_append.mp hmem
    refine ⟨s, t, hst, fun p hp => ?_⟩
    rw [← List.nodup_reverse, ← List.map_reverse, hst, List.map_append, List.nodup_append] at h
    have hne : p.1 ≠ name := h.2.2 _ (List.mem_map_of_mem hp) _ (by simp)
    simpa using hne.symm

/-- In front of sorted entries, an entry is the last to be found under names that descend. -/
lemma Sorted.findSome?_get?_cons (h : Sorted (e :: es)) {names : List Text}
    (hnames : names.Pairwise fun name name' => name' < name) :
    names.findSome? (fun name => get? name (e :: es)) =
      (names.findSome? fun name => es.get? name).or (if e.1 ∈ names then some e.2 else none) := by
  obtain ⟨hfirst, -⟩ := List.pairwise_cons.mp h
  induction names with
  | nil => rfl
  | cons name names ih =>
    obtain ⟨hbefore, hrest⟩ := List.pairwise_cons.mp hnames
    rw [List.findSome?_cons, List.findSome?_cons, ih hrest]
    by_cases heq : name = e.1
    · -- what stands behind `e` stands behind all names that are left
      subst heq
      have hnone : names.findSome? (fun name => es.get? name) = none :=
        List.findSome?_eq_none_iff.mpr fun name hname =>
          get?_eq_none fun f hf => List.lt_trans (hbefore name hname) (hfirst f hf)
      rw [get?_eq_none hfirst, hnone]
      simp [get?]
    · have hget : get? name (e :: es) = es.get? name := by simp [get?, heq]
      have hmem : e.1 ∈ name :: names ↔ e.1 ∈ names := by simp [Ne.symm heq]
      rw [hget]
      simp only [hmem]
      rcases es.get? name with _ | v
      · rfl
      · rfl

/-- If the names of sorted entries are replaced, the last value under a name is that of the last
entry with one of the names for which it stands. -/
theorem Sorted.lookup_reverse_map (h : es.Sorted) {f : Text → Text} {names : List Text}
    (hnames : names.Pairwise fun name name' => name' < name)
    (hf : ∀ raw, raw ∈ names ↔ f raw = name) :
    (es.map fun e => (f e.1, e.2)).reverse.lookup name =
      names.findSome? fun raw => es.get? raw := by
  induction es with
  | nil => exact (List.findSome?_eq_none_iff.mpr fun _ _ => rfl).symm
  | cons e es ih =>
    rw [h.findSome?_get?_cons hnames, ← ih (List.pairwise_cons.mp h).2, List.map_cons,
      List.reverse_cons, List.lookup_append, List.lookup_cons, List.lookup_nil]
    congr 1
    by_cases hname : f e.1 = name
    · rw [if_pos ((hf _).mpr hname), hname, beq_self_eq_true]
    · rw [if_neg (fun hmem => hname ((hf _).mp hmem)),
        beq_eq_false_iff_ne.mpr (Ne.symm hname)]

lemma sorted_iff_bytes : es.Sorted ↔ es.Pairwise fun e f => e.1.bytes < f.1.bytes := by
  simp only [Sorted, Text.lt_iff_bytes_lt]

end Entries

lemma TokenTable.get?_eq_some_iff {table : TokenTable} {name value : Text} :
    table.get? name = some value ↔ (name, value) ∈ table.entries :=
  table.sorted.get?_eq_some_iff

lemma TokenTable.ext_get? {table table' : TokenTable}
    (h : ∀ name, table.get? name = table'.get? name) : table = table' := by
  obtain ⟨entries, sorted⟩ := table
  obtain ⟨entries', sorted'⟩ := table'
  have he : entries = entries' := sorted.ext sorted' fun e => by
    rw [← sorted.get?_eq_some_iff, ← sorted'.get?_eq_some_iff]
    exact Eq.congr_left (h e.1)
  subst he
  rfl

end DrawStyle
