import DrawStyle.CommandLine.Arguments
import DrawStyle.Proofs.Text.Runs
import Mathlib.Data.List.Infix

/-!
What accepted arguments ask for.

Arguments are read one by one, with the options that were found so far. Where they are accepted,
no value looks like an option, so what an argument is does not depend on those in front of it:
the options can be read off the arguments wherever they stand.
-/

namespace DrawStyle.CommandLine

namespace ValueOption

/-- The letter by which an option is written with one dash. -/
def letter : ValueOption → Char
  | dir => 'd'
  | tokens => 't'

/-- The word by which an option is written with two dashes. -/
def word : ValueOption → Text
  | dir => "dir".toList
  | tokens => "tokens".toList

/-- How an option is written, without its value or with it. -/
inductive Spells (option : ValueOption) : Text → Option Text → Prop
  | short : Spells option ['-', option.letter] none
  | long : Spells option ('-' :: '-' :: option.word) none
  | attached {value : Text} (hne : value ≠ []) (hequals : value.head? ≠ some '=') :
      Spells option ('-' :: option.letter :: value) (some value)
  | shortEquals {value : Text} : Spells option ('-' :: option.letter :: '=' :: value) (some value)
  | longEquals {value : Text} :
      Spells option ('-' :: '-' :: option.word ++ '=' :: value) (some value)

/-- Among the arguments, an option stands together with its value or directly before it. -/
def Given (option : ValueOption) (value : Text) (args : List Text) : Prop :=
  (∃ arg ∈ args, option.Spells arg (some value)) ∨
    ∃ arg, option.Spells arg none ∧ [arg, value] <:+: args

end ValueOption

/-- The argument that asks for repeated lines to be kept. -/
def keepDuplicatesFlag : Text := "--keep-duplicates".toList

/-- A command and its options are what the arguments ask for. -/
structure Asks (args : List Text) (command : Command) (options : Options) : Prop where
  command : args.head? = some command.name
  value : ∀ option value, options.value? option = some value ↔ option.Given value args.tail
  keepDuplicates : options.keepDuplicates = true ↔ keepDuplicatesFlag ∈ args.tail

section

variable {command command' : Command} {option : ValueOption} {arg body name value : Text}
  {args args' : List Text} {options options' : Options} {v : Option Text}

/-! ### Single arguments -/

lemma splitAtEquals_append (h : '=' ∉ name) (value : Text) :
    splitAtEquals (name ++ '=' :: value) = (name, some value) := by
  have hrun : ∀ c ∈ name, (c != '=') = true := fun c hc => bne_iff_ne.mpr fun he => h (he ▸ hc)
  simp only [splitAtEquals, dropWhile_run hrun (bne_self_eq_false '='),
    takeWhile_run hrun (bne_self_eq_false '=')]

lemma splitAtEquals_of_not_mem (h : '=' ∉ body) : splitAtEquals body = (body, none) := by
  have hrun : ∀ c ∈ body, (c != '=') = true := fun c hc => bne_iff_ne.mpr fun he => h (he ▸ hc)
  have hnil : (body ++ []).dropWhile (· != '=') = [] := List.dropWhile_append_of_pos hrun
  rw [List.append_nil] at hnil
  simp only [splitAtEquals, hnil]

lemma splitAtEquals_eq_some_iff :
    splitAtEquals body = (name, some value) ↔ '=' ∉ name ∧ body = name ++ '=' :: value := by
  constructor
  · intro h
    by_cases hmem : '=' ∈ body
    · obtain ⟨name', value', rfl, hname'⟩ := List.eq_append_cons_of_mem hmem
      rw [splitAtEquals_append hname'] at h
      cases h
      exact ⟨hname', rfl⟩
    · rw [splitAtEquals_of_not_mem hmem] at h
      cases h
  · rintro ⟨hname, rfl⟩
    exact splitAtEquals_append hname value

lemma splitAtEquals_eq_none_iff :
    splitAtEquals body = (name, none) ↔ '=' ∉ name ∧ body = name := by
  constructor
  · intro h
    by_cases hmem : '=' ∈ body
    · obtain ⟨name', value', rfl, hname'⟩ := List.eq_append_cons_of_mem hmem
      rw [splitAtEquals_append hname'] at h
      cases h
    · rw [splitAtEquals_of_not_mem hmem] at h
      cases h
      exact ⟨hmem, rfl⟩
  · rintro ⟨hname, rfl⟩
    exact splitAtEquals_of_not_mem hname

lemma ValueOption.equals_not_mem_word (option : ValueOption) : '=' ∉ option.word := by
  cases option <;> decide

lemma word_dir : ValueOption.dir.word = "dir".toList := rfl

lemma word_tokens : ValueOption.tokens.word = "tokens".toList := rfl

lemma longOption_eq_valued_iff :
    longOption command arg body = .valued option v ↔ splitAtEquals body = (option.word, v) := by
  constructor
  · intro h
    rcases hsplit : splitAtEquals body with ⟨name, value⟩
    simp only [longOption, hsplit] at h
    split at h
    · next hname =>
      cases h
      rw [hname, word_dir]
    · split at h
      · next hname =>
        cases h
        rw [hname, word_tokens]
      · repeat' split at h
        all_goals cases h
  · intro h
    simp only [longOption, h]
    cases option
    · rw [word_dir, if_pos rfl]
    · rw [word_tokens, if_neg (by decide), if_pos rfl]

lemma shortOption_eq_valued_iff {c : Char} :
    shortOption arg c body = .valued option v ↔ c = option.letter ∧ attached body = v := by
  constructor
  · intro h
    rw [shortOption] at h
    split at h
    · next hc =>
      cases h
      exact ⟨hc, rfl⟩
    · split at h
      · next hc =>
        cases h
        exact ⟨hc, rfl⟩
      · split at h
        all_goals cases h
  · rintro ⟨rfl, rfl⟩
    cases option
    · rfl
    · rfl

lemma attached_eq_some_iff :
    attached body = some value ↔
      body = '=' :: value ∨ body ≠ [] ∧ body.head? ≠ some '=' ∧ body = value := by
  rw [attached.eq_def]
  split
  · simp
  · simp
  · next hnil hequals =>
    rw [Option.some.injEq]
    constructor
    · rintro rfl
      refine Or.inr ⟨hnil, fun hhead => ?_, rfl⟩
      obtain ⟨u, hu⟩ := List.head?_eq_some_iff.mp hhead
      exact hequals u hu
    · rintro (rfl | ⟨-, -, rfl⟩)
      · exact absurd rfl (hequals value)
      · rfl

lemma attached_eq_none_iff : attached body = none ↔ body = [] := by
  rw [attached.eq_def]
  split
  · simp
  · simp
  · next hnil hequals => simpa using hnil

lemma classify_long (h : body ≠ []) :
    classify command ('-' :: '-' :: body) = longOption command ('-' :: '-' :: body) body := by
  rcases body with _ | ⟨c, body⟩
  · exact absurd rfl h
  · rfl

lemma classify_short {c : Char} (h : c ≠ '-') :
    classify command ('-' :: c :: body) = shortOption ('-' :: c :: body) c body := by
  rw [classify.eq_def]
  split
  · next he => exact absurd (by simpa using congrArg List.tail he) (by simp [h])
  · next he => exact absurd (List.cons.inj (List.cons.inj he).2).1 h
  · next he =>
    cases he
    rfl
  · next hother => exact absurd rfl (hother c body)

/-- **What an argument is, if it is an option that takes a value.** -/
theorem classify_eq_valued_iff : classify command arg = .valued option v ↔ option.Spells arg v := by
  have hletter : option.letter ≠ '-' := by cases option <;> decide
  have hword : option.word ≠ [] := by cases option <;> decide
  constructor
  · intro h
    rw [classify.eq_def] at h
    split at h
    · cases h
    · rw [longOption_eq_valued_iff] at h
      rcases v with _ | value
      · obtain ⟨-, rfl⟩ := splitAtEquals_eq_none_iff.mp h
        exact .long
      · obtain ⟨-, rfl⟩ := splitAtEquals_eq_some_iff.mp h
        exact .longEquals
    · obtain ⟨rfl, hbody⟩ := shortOption_eq_valued_iff.mp h
      rcases v with _ | value
      · rw [attached_eq_none_iff.mp hbody]
        exact .short
      · rcases attached_eq_some_iff.mp hbody with rfl | ⟨hne, hequals, rfl⟩
        · exact .shortEquals
        · exact .attached hne hequals
    · cases h
  · intro h
    cases h with
    | short => exact (classify_short hletter).trans (shortOption_eq_valued_iff.mpr ⟨rfl, rfl⟩)
    | long =>
      exact (classify_long hword).trans <| longOption_eq_valued_iff.mpr <|
        splitAtEquals_eq_none_iff.mpr ⟨option.equals_not_mem_word, rfl⟩
    | attached hne hequals =>
      exact (classify_short hletter).trans <| shortOption_eq_valued_iff.mpr
        ⟨rfl, attached_eq_some_iff.mpr (Or.inr ⟨hne, hequals, rfl⟩)⟩
    | shortEquals => exact (classify_short hletter).trans (shortOption_eq_valued_iff.mpr ⟨rfl, rfl⟩)
    | longEquals =>
      exact (classify_long (by simp)).trans <| longOption_eq_valued_iff.mpr <|
        splitAtEquals_eq_some_iff.mpr ⟨option.equals_not_mem_word, rfl⟩

/-- How an argument is written tells for which option it is, and with which value. -/
lemma ValueOption.Spells.unique {option' : ValueOption} {v' : Option Text}
    (h : option.Spells arg v) (h' : option'.Spells arg v') : option = option' ∧ v = v' := by
  have he : classify .build arg = .valued option v := classify_eq_valued_iff.mpr h
  exact Argument.valued.inj (he.symm.trans (classify_eq_valued_iff.mpr h'))

lemma ValueOption.Spells.looksLikeOption (h : option.Spells arg v) :
    looksLikeOption arg = true := by
  cases h <;> rfl

lemma ValueOption.Spells.iff {option' : ValueOption} {v' : Option Text}
    (h : option.Spells arg v) : option'.Spells arg v' ↔ option' = option ∧ v' = v := by
  constructor
  · intro h'
    obtain ⟨rfl, rfl⟩ := h.unique h'
    exact ⟨rfl, rfl⟩
  · rintro ⟨rfl, rfl⟩
    exact h

/-- The flag is understood or refused, and nothing else is taken for it. -/
lemma classify_keepDuplicatesFlag (command : Command) :
    classify command keepDuplicatesFlag = .keepDuplicates ∨
      ∃ reason, classify command keepDuplicatesFlag = .refused reason := by
  cases command
  · exact Or.inr ⟨_, rfl⟩
  · exact Or.inl rfl

lemma ValueOption.Spells.ne_keepDuplicatesFlag (h : option.Spells arg v) :
    arg ≠ keepDuplicatesFlag := by
  rintro rfl
  have hvalued : classify .merge keepDuplicatesFlag = .valued option v :=
    classify_eq_valued_iff.mpr h
  cases hvalued

lemma eq_keepDuplicatesFlag_of_classify (h : classify command arg = .keepDuplicates) :
    arg = keepDuplicatesFlag := by
  rw [classify.eq_def] at h
  split at h
  · cases h
  · next body _ =>
    rcases hsplit : splitAtEquals body with ⟨name, value⟩
    simp only [longOption, hsplit] at h
    split at h
    · cases h
    · split at h
      · cases h
      · split at h
        · split at h
          all_goals cases h
        · split at h
          · next hname =>
            split at h
            · next hnone =>
              rw [hnone] at hsplit
              obtain ⟨-, rfl⟩ := splitAtEquals_eq_none_iff.mp hsplit
              rw [hname.1]
              rfl
            · cases h
          · cases h
  · simp only [shortOption] at h
    repeat' split at h
    all_goals cases h
  · cases h

/-! ### Several arguments -/

lemma ValueOption.given_nil : ¬ option.Given value [] := by
  rintro (⟨arg, hmem, -⟩ | ⟨arg, -, hwithin⟩)
  · cases hmem
  · cases List.infix_nil.mp hwithin

/-- An option with its value stands at the front of the arguments or behind it. -/
lemma ValueOption.given_cons :
    option.Given value (arg :: args) ↔
      option.Spells arg (some value) ∨ option.Spells arg none ∧ args.head? = some value ∨
        option.Given value args := by
  constructor
  · rintro (⟨arg', hmem, h⟩ | ⟨arg', h, hwithin⟩)
    · rcases List.mem_cons.mp hmem with rfl | hmem
      · exact Or.inl h
      · exact Or.inr (Or.inr (Or.inl ⟨arg', hmem, h⟩))
    · rcases List.infix_cons_iff.mp hwithin with ⟨u, hu⟩ | hwithin
      · obtain ⟨rfl, hargs⟩ := List.cons.inj hu
        exact Or.inr (Or.inl ⟨h, by rw [← hargs]; rfl⟩)
      · exact Or.inr (Or.inr (Or.inr ⟨arg', h, hwithin⟩))
  · rintro (h | ⟨h, hhead⟩ | ⟨arg', hmem, h⟩ | ⟨arg', h, hwithin⟩)
    · exact Or.inl ⟨arg, List.mem_cons_self, h⟩
    · obtain ⟨u, rfl⟩ := List.head?_eq_some_iff.mp hhead
      exact Or.inr ⟨arg, h, [], u, rfl⟩
    · exact Or.inl ⟨arg', List.mem_cons_of_mem _ hmem, h⟩
    · exact Or.inr ⟨arg', h, hwithin.trans (List.suffix_cons _ _).isInfix⟩

/-- An argument that is no option with a value makes no difference to what is given. -/
lemma ValueOption.given_cons_of_not_valued
    (h : ∀ option v, classify command arg ≠ .valued option v) :
    option.Given value (arg :: args) ↔ option.Given value args := by
  have hnone : ∀ v, ¬ option.Spells arg v := fun v hv => h option v (classify_eq_valued_iff.mpr hv)
  rw [given_cons, or_iff_right (hnone _), or_iff_right fun h => hnone _ h.1]

lemma Options.value?_withValue (options : Options) (value : Path) (option option' : ValueOption) :
    (options.withValue value option).value? option' =
      if option' = option then some value else options.value? option' := by
  cases option <;> cases option' <;> rfl

lemma Options.give_eq_ok_iff :
    options.give arg option value = .ok options' ↔
      value ≠ [] ∧ options.value? option = none ∧ options' = options.withValue value option := by
  rw [give]
  split
  · next h => simp [h]
  · next h =>
    rcases hvalue : options.value? option with _ | old
    · simp [h, eq_comm]
    · simp

/-- Options are the ones so far with all that the arguments give. -/
structure Options.Extended (options : Options) (args : List Text) (options' : Options) : Prop where
  value : ∀ option value, options'.value? option = some value ↔
    options.value? option = some value ∨ option.Given value args
  keepDuplicates : options'.keepDuplicates = true ↔
    options.keepDuplicates = true ∨ keepDuplicatesFlag ∈ args

namespace Options.Extended

lemma nil (options : Options) : options.Extended [] options where
  value option value := by simp [ValueOption.given_nil]
  keepDuplicates := by simp

lemma cons (hvalued : ∀ option v, classify command arg ≠ .valued option v)
    (hflag : arg ≠ keepDuplicatesFlag) (h : options.Extended args options') :
    options.Extended (arg :: args) options' where
  value option value := by rw [h.value, ValueOption.given_cons_of_not_valued hvalued]
  keepDuplicates := by rw [h.keepDuplicates, List.mem_cons, or_iff_right hflag.symm]

lemma flag (h : Extended { options with keepDuplicates := true } args options') :
    options.Extended (keepDuplicatesFlag :: args) options' where
  value option value := by
    have hvalued : ∀ option v,
        classify .merge keepDuplicatesFlag ≠ .valued option v := fun _ _ he => by cases he
    have hsame : Options.value? { options with keepDuplicates := true } option =
        options.value? option := by cases option <;> rfl
    rw [h.value, ValueOption.given_cons_of_not_valued hvalued, hsame]
  keepDuplicates := by simp [h.keepDuplicates]

/-- Where an option has no value so far, it is given one, and what is behind gives the rest. -/
lemma withValue (hfree : options.value? option = none)
    (hgiven : ∀ option' value', option'.Given value' args ↔
      option' = option ∧ value = value' ∨ option'.Given value' args')
    (hflag : keepDuplicatesFlag ∈ args ↔ keepDuplicatesFlag ∈ args')
    (h : Extended (options.withValue value option) args' options') :
    options.Extended args options' where
  value option' value' := by
    rw [h.value, value?_withValue, hgiven]
    by_cases ho : option' = option
    · subst ho
      simp [hfree]
    · simp [ho]
  keepDuplicates := by
    have hsame : (options.withValue value option).keepDuplicates = options.keepDuplicates := by
      cases option <;> rfl
    rw [h.keepDuplicates, hsame, hflag]

end Options.Extended

/-- **What accepted options are** is read off the arguments, one after the other. -/
theorem extended_of_readOptions
    (h : readOptions command options args = .ok (.run command' options')) :
    command' = command ∧ options.Extended args options' := by
  fun_induction readOptions command options args with
  | case1 options =>
    cases h
    exact ⟨rfl, .nil _⟩
  | case4 options arg hend =>
    cases h
    have hvalued : ∀ option v, classify command arg ≠ .valued option v := fun _ _ he => by
      rw [hend] at he
      cases he
    refine ⟨rfl, .cons hvalued (fun he => ?_) (.nil _)⟩
    rw [he] at hend
    rcases classify_keepDuplicatesFlag command with hflag | ⟨_, hflag⟩
    all_goals
      rw [hflag] at hend
      cases hend
  | case7 options arg args hflag _ ih =>
    obtain ⟨hcommand, hargs⟩ := ih h
    rw [eq_keepDuplicatesFlag_of_classify hflag]
    exact ⟨hcommand, .flag hargs⟩
  | case9 options arg args option value hspells options'' hgive ih =>
    -- the option has its value with it
    obtain ⟨-, hfree, rfl⟩ := Options.give_eq_ok_iff.mp hgive
    obtain ⟨hcommand, hargs⟩ := ih h
    rw [classify_eq_valued_iff] at hspells
    refine ⟨hcommand, .withValue hfree (fun option' value' => ?_) ?_ hargs⟩
    · rw [ValueOption.given_cons, hspells.iff, hspells.iff, Option.some.injEq, @eq_comm _ value']
      simp
    · simp [hspells.ne_keepDuplicatesFlag.symm]
  | case13 options arg option hspells value args hvalue options'' hgive ih =>
    -- the value follows, and is no option
    obtain ⟨-, hfree, rfl⟩ := Options.give_eq_ok_iff.mp hgive
    obtain ⟨hcommand, hargs⟩ := ih h
    rw [classify_eq_valued_iff] at hspells
    have hnone : ∀ (option' : ValueOption) v, ¬ option'.Spells value v := fun option' v h' =>
      hvalue h'.looksLikeOption
    refine ⟨hcommand, .withValue hfree (fun option' value' => ?_) ?_ hargs⟩
    · rw [ValueOption.given_cons, ValueOption.given_cons, hspells.iff, hspells.iff]
      simp [hnone]
    · have hne : value ≠ keepDuplicatesFlag := by
        rintro rfl
        exact hvalue rfl
      simp [hspells.ne_keepDuplicatesFlag.symm, hne.symm]
  | _ => cases h

/-- **What accepted arguments ask for**: the command comes first, and behind it the options
stand with the values that they have, and the flag if repeated lines are kept. -/
theorem asks_of_readArguments (h : readArguments args = .ok (.run command options)) :
    Asks args command options := by
  have hread : ∃ args', args = command.name :: args' ∧
      readOptions command {} args' = .ok (.run command options) := by
    rcases args with _ | ⟨arg, args⟩
    · cases h
    · rw [readArguments.eq_def] at h
      dsimp only at h
      split at h
      · next hname =>
        obtain ⟨rfl, -⟩ := extended_of_readOptions h
        exact ⟨args, by rw [hname], h⟩
      · split at h
        · next hname =>
          obtain ⟨rfl, -⟩ := extended_of_readOptions h
          exact ⟨args, by rw [hname], h⟩
        · -- what is left asks for help or is refused
          split at h
          · rw [readHelp.eq_def] at h
            repeat' split at h
            all_goals cases h
          · repeat' split at h
            all_goals cases h
  obtain ⟨args', rfl, hread⟩ := hread
  have hargs := (extended_of_readOptions hread).2
  exact
    { command := rfl
      value := fun option value => by
        rw [hargs.value]
        cases option <;> simp [Options.value?]
      keepDuplicates := by
        rw [hargs.keepDuplicates]
        simp }

end

end DrawStyle.CommandLine
