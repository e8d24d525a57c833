import UiPolicy.Config.Load
import UiPolicy.Proofs.Config.Settings
import UiPolicy.Proofs.Text.Lowercase

/-!
# Variables as settings

A variable of the process is one for a setting if its name is made of `when__` and the names that
lead to the setting, in any case, with two underscores or a dot between any two of them
(`Config.Key.IsVariable`). `pathOf_eq_iff` says which texts are paths to a setting. So the layer of
the variables gives a setting the value of the last variable that is one for it
(`getLast?_given_variables`), and nothing if there is none (`given_variables_eq_nil`).
-/

namespace UiPolicy

namespace Setting

/-! ## Paths that are written as names -/

/-- Whether a path may lead through a name that is written as it is. -/
structure IsStep (name : String) : Prop where
  nonempty : name.toList ≠ []
  chars : ∀ c ∈ name.toList, isNameChar c = true
  lowercase : Text.lowercase name = name

theorem lt_of_isNameChar {c : Char} (h : isNameChar c = true) : c.toNat < 128 := by
  simp only [isNameChar, Bool.or_eq_true, decide_eq_true_eq] at h
  rcases h with ((h | rfl) | rfl) | rfl
  · simp only [Char.isAlphanum, Char.isAlpha, Char.isUpper, Char.isLower, Char.isDigit,
      Bool.or_eq_true, Bool.and_eq_true, decide_eq_true_eq, UInt32.le_iff_toNat_le, ge_iff_le,
      Char.toNat_val] at h
    have hZ : 'Z'.toNat = 90 := rfl
    have hz : 'z'.toNat = 122 := rfl
    have h9 : '9'.toNat = 57 := rfl
    omega
  all_goals decide

theorem IsStep.of_chars {name : String} (hempty : name.toList ≠ [])
    (h : ∀ c ∈ name.toList, isNameChar c = true ∧ c.isUpper = false) : IsStep name where
  nonempty := hempty
  chars c hc := (h c hc).1
  lowercase := Text.lowercase_eq_self fun c hc => ⟨lt_of_isNameChar (h c hc).1, (h c hc).2⟩

theorem isNameChar_of_head? (names : List String) {c : Char}
    (h : (names.flatMap ('.' :: ·.toList)).head? = some c) : isNameChar c = false := by
  cases names with
  | nil => cases h
  | cons name names =>
    obtain rfl := Option.some.inj h
    decide

theorem readName_append {name : String} (h : IsStep name) {rest : List Char}
    (hrest : ∀ c, rest.head? = some c → isNameChar c = false) :
    readName (name.toList ++ rest) = some (.name name, rest) := by
  have hends : rest.takeWhile isNameChar = [] ∧ rest.dropWhile isNameChar = rest := by
    cases rest with
    | nil => exact ⟨rfl, rfl⟩
    | cons c rest =>
      have hc := hrest c rfl
      exact ⟨List.takeWhile_cons_of_neg (by simp [hc]), List.dropWhile_cons_of_neg (by simp [hc])⟩
  unfold readName
  rw [List.takeWhile_append_of_pos h.chars, List.dropWhile_append_of_pos h.chars, hends.1,
    hends.2, List.append_nil]
  cases hname : name.toList with
  | nil => exact absurd hname h.nonempty
  | cons c cs =>
    simp only [← hname, String.ofList_toList, h.lowercase]

theorem readSteps_names {names : List String} (h : ∀ name ∈ names, IsStep name) {fuel : Nat}
    (hfuel : names.length ≤ fuel) :
    readSteps fuel (names.flatMap ('.' :: ·.toList)) = some (names.map .name) := by
  induction names generalizing fuel with
  | nil => cases fuel <;> rfl
  | cons name names ih =>
    obtain ⟨fuel, rfl⟩ := Nat.exists_eq_add_of_le' (Nat.le_trans (Nat.le_add_left 1 _) hfuel)
    have hsteps := ih (fun n hn => h n (List.mem_cons_of_mem _ hn))
      (Nat.le_of_succ_le_succ hfuel)
    rw [List.flatMap_cons, List.cons_append, readSteps, if_pos rfl,
      readName_append (h name List.mem_cons_self) fun _ => isNameChar_of_head? names]
    simp only [Option.bind_eq_bind, Option.bind_some, hsteps]
    rfl

/-- A path of names with dots between them leads through these names. -/
theorem pathOf_names {text first : String} {names : List String}
    (h : ∀ name ∈ first :: names, IsStep name)
    (htext : text.toList = first.toList ++ names.flatMap ('.' :: ·.toList)) :
    pathOf text = (first :: names).map .name := by
  have hfuel : names.length ≤ (names.flatMap ('.' :: ·.toList)).length := by
    clear htext h
    induction names with
    | nil => exact Nat.le_refl 0
    | cons name names ih =>
      simp only [List.flatMap_cons, List.length_append, List.length_cons]
      omega
  have hsteps := readSteps_names (fun n hn => h n (List.mem_cons_of_mem _ hn)) hfuel
  have hfirst := readName_append (h first List.mem_cons_self) fun _ => isNameChar_of_head? names
  simp only [pathOf, htext, hfirst, Option.bind_eq_bind, Option.bind_some, hsteps]
  rfl

/-! ## What a path of names was read from -/

theorem eq_of_readName {cs rest : List Char} (hcs : ∀ c ∈ cs, c.isUpper = false) {name : String}
    (h : readName cs = some (.name name, rest)) : IsStep name ∧ cs = name.toList ++ rest := by
  have hsplit := List.takeWhile_append_dropWhile (p := isNameChar) (l := cs)
  have hchars : ∀ c ∈ cs.takeWhile isNameChar, isNameChar c = true ∧ c.isUpper = false :=
    fun c hc => ⟨List.all_eq_true.1 List.all_takeWhile c hc,
      hcs c ((List.takeWhile_prefix isNameChar).subset hc)⟩
  unfold readName at h
  split at h
  · cases h
  · next front hne =>
    have hstep : IsStep (String.ofList (cs.takeWhile isNameChar)) :=
      .of_chars (by simpa using hne) (by simpa using hchars)
    simp only [hstep.lowercase, Option.some.injEq, Prod.mk.injEq, Step.name.injEq] at h
    obtain ⟨rfl, rfl⟩ := h
    exact ⟨hstep, by rw [String.toList_ofList, hsplit]⟩

theorem not_name_of_readIndex {cs rest : List Char} {step : Step}
    (h : readIndex cs = some (step, rest)) (name : String) : step ≠ .name name := by
  unfold readIndex at h
  dsimp only at h
  split at h
  · obtain ⟨rfl, -⟩ := Prod.mk.inj (Option.some.inj h)
    exact Step.noConfusion
  · cases h

/-- What is read as steps begins with a name after a dot, or with an index. -/
theorem exists_of_readSteps_cons {fuel : Nat} {c : Char} {cs : List Char} {path : List Step}
    (h : readSteps fuel (c :: cs) = some path) : ∃ fuel' step rest steps,
      (c = '.' ∧ readName cs = some (step, rest) ∨ readIndex cs = some (step, rest)) ∧
        readSteps fuel' rest = some steps ∧ path = step :: steps := by
  cases fuel with
  | zero => cases h
  | succ fuel =>
    have hbind : ∀ read : Option (Step × List Char),
        (read.bind fun r => (readSteps fuel r.2).bind fun steps => some (r.1 :: steps)) =
          some path → ∃ step rest steps, read = some (step, rest) ∧
            readSteps fuel rest = some steps ∧ path = step :: steps := by
      intro read hread
      obtain ⟨⟨step, rest⟩, rfl, hrest⟩ := Option.bind_eq_some_iff.1 hread
      obtain ⟨steps, hsteps, heq⟩ := Option.bind_eq_some_iff.1 hrest
      exact ⟨step, rest, steps, rfl, hsteps, (Option.some.inj heq).symm⟩
    unfold readSteps at h
    dsimp only at h
    split at h
    · next hdot =>
      obtain ⟨step, rest, steps, hstep, hsteps⟩ := hbind _ h
      exact ⟨fuel, step, rest, steps, .inl ⟨hdot, hstep⟩, hsteps⟩
    · split at h
      · obtain ⟨step, rest, steps, hstep, hsteps⟩ := hbind _ h
        exact ⟨fuel, step, rest, steps, .inr hstep, hsteps⟩
      · cases h

theorem eq_of_readSteps {cs : List Char} (hcs : ∀ c ∈ cs, c.isUpper = false) {fuel : Nat}
    {names : List String} (h : readSteps fuel cs = some (names.map .name)) :
    (∀ name ∈ names, IsStep name) ∧ cs = names.flatMap ('.' :: ·.toList) := by
  induction names generalizing fuel cs with
  | nil =>
    refine ⟨fun _ hn => absurd hn List.not_mem_nil, ?_⟩
    cases cs with
    | nil => rfl
    | cons c cs =>
      obtain ⟨_, _, _, _, -, -, heq⟩ := exists_of_readSteps_cons h
      cases heq
  | cons name names ih =>
    cases cs with
    | nil => cases fuel <;> cases h
    | cons c cs =>
      obtain ⟨fuel, step, rest, steps, hstep, hsteps, heq⟩ := exists_of_readSteps_cons h
      obtain ⟨rfl, rfl⟩ := List.cons.inj heq
      rcases hstep with ⟨rfl, hstep⟩ | hstep
      · have htail : ∀ c ∈ cs, c.isUpper = false := fun c hc => hcs c (List.mem_cons_of_mem _ hc)
        obtain ⟨hname, rfl⟩ := eq_of_readName htail hstep
        obtain ⟨hnames, rfl⟩ := ih (fun c hc => htail c (List.mem_append_right _ hc)) hsteps
        exact ⟨List.forall_mem_cons.2 ⟨hname, hnames⟩, rfl⟩
      · exact absurd rfl (not_name_of_readIndex hstep name)

/-- A text without capitals is a path through several names exactly if it is these names with dots
between them, and each can be a step. -/
theorem pathOf_eq_iff {text first : String} {names : List String} (hnames : names ≠ [])
    (htext : ∀ c ∈ text.toList, c.isUpper = false) :
    pathOf text = (first :: names).map .name ↔ (∀ name ∈ first :: names, IsStep name) ∧
      text.toList = first.toList ++ names.flatMap ('.' :: ·.toList) := by
  refine ⟨fun h => ?_, fun h => pathOf_names h.1 h.2⟩
  have hsingle : ∀ name : String, [Step.name name] ≠ (first :: names).map .name := by
    intro name heq
    exact hnames (List.map_eq_nil_iff.1 (List.cons.inj heq).2.symm)
  simp only [pathOf, Option.bind_eq_bind] at h
  cases hread : readName text.toList with
  | none =>
    rw [hread] at h
    exact absurd h (hsingle _)
  | some read =>
    obtain ⟨step, rest⟩ := read
    cases hsteps : readSteps rest.length rest with
    | none =>
      simp only [hread, Option.bind_some, hsteps] at h
      exact absurd h (hsingle _)
    | some steps =>
      simp only [hread, Option.bind_some, hsteps] at h
      obtain ⟨rfl, rfl⟩ := List.cons.inj h
      obtain ⟨hfirst, heq⟩ := eq_of_readName htext hread
      have hrest : ∀ c ∈ rest, c.isUpper = false := fun c hc =>
        htext c (heq ▸ List.mem_append_right _ hc)
      obtain ⟨hothers, rfl⟩ := eq_of_readSteps hrest hsteps
      exact ⟨List.forall_mem_cons.2 ⟨hfirst, hothers⟩, heq⟩

/-! ## What an entry gives -/

/-- An entry that fits a setting and gives it a value stands at just its place. -/
theorem eq_of_given_under {value : Setting} (hvalue : value.isTable = false) {path : List Step}
    {names : List String} (h : Fits (value.under path) names)
    (hgiven : (value.under path).given names ≠ []) : path = names.map .name := by
  induction names generalizing path with
  | nil =>
    have hscalar := h.isScalar
    cases path with
    | nil => rfl
    | cons step path => cases step <;> cases hscalar
  | cons name names ih =>
    have htable := h.isTable
    cases path with
    | nil =>
      rw [under, hvalue] at htable
      cases htable
    | cons step path =>
      cases step with
      | item index => cases htable
      | name step =>
        rw [given_under_cons] at hgiven
        split at hgiven
        · next hname =>
          subst hname
          rw [ih h.of_under hgiven, List.map_cons]
        · exact absurd rfl hgiven

theorem given_under_names (value : Setting) (names : List String) :
    (value.under (names.map .name)).given names = [value] := by
  induction names with
  | nil => rfl
  | cons name names ih => rw [List.map_cons, given_under_cons, if_pos rfl, ih]

end Setting

namespace Config

/-! ## Names of variables -/

section Names

variable {α : Type}

/-- The name of the variable of a setting, in lower case. -/
def Key.variableName (key : Key α) : String :=
  key.names.foldl (· ++ "__" ++ ·) "when"

/-- Whether a variable of a name is one for a setting. -/
structure Key.IsVariable (key : Key α) (name : String) : Prop where
  steps : ∀ step ∈ key.names, Setting.IsStep step
  spelled : ∃ rest, Text.lowercase name = "when__" ++ rest ∧
    dotted rest.toList = (".".intercalate key.names).toList

/-- Whether a setting's names can be told apart in the name of a variable. This is only in question
where a module has a name of its own making. -/
def Key.HasVariable : {α : Type} → Key α → Prop
  | _, module name => Setting.IsStep name ∧ ¬['_', '_'] <:+: name.toList
  | _, _ => True

theorem dotted_of_not_infix {cs : List Char} (h : ¬['_', '_'] <:+: cs) : dotted cs = cs := by
  induction cs with
  | nil => rfl
  | cons c cs ih =>
    have hcs : dotted cs = cs := ih fun hinfix => h (List.infix_cons hinfix)
    unfold dotted
    split
    · next heq =>
      obtain ⟨rfl, rfl⟩ := List.cons.inj heq
      exact absurd (List.prefix_append ['_', '_'] _).isInfix h
    · next heq =>
      obtain ⟨rfl, rfl⟩ := List.cons.inj heq
      rw [hcs]
    · next heq => cases heq

/-- No character but dots is new. -/
theorem mem_dotted {c : Char} {cs : List Char} (h : c ∈ dotted cs) : c = '.' ∨ c ∈ cs := by
  fun_induction dotted cs with
  | case1 cs ih =>
    rcases List.mem_cons.1 h with h | h
    · exact .inl h
    · exact (ih h).imp_right fun hc => List.mem_cons_of_mem _ (List.mem_cons_of_mem _ hc)
  | case2 d cs hd ih =>
    rcases List.mem_cons.1 h with rfl | h
    · exact .inr List.mem_cons_self
    · exact (ih h).imp_right (List.mem_cons_of_mem d)
  | case3 => exact .inr h

theorem toList_intercalate_dot (first : String) (names : List String) :
    (".".intercalate (first :: names)).toList =
      first.toList ++ names.flatMap ('.' :: ·.toList) := by
  rw [String.toList_intercalate]
  induction names generalizing first with
  | nil => simp
  | cons name names ih =>
    rw [List.map_cons, List.map_cons, List.intercalate_cons_cons, ← List.map_cons, ih]
    simp

/-- A variable that is named after a setting is one for it. -/
theorem Key.isVariable_of_variableName {key : Key α} (h : key.HasVariable) {name : String}
    (hname : Text.lowercase name = key.variableName) : key.IsVariable name := by
  have hsmall : ∀ names : List String, (names.all fun name => name.toList ≠ [] &&
      name.toList.all fun c => Setting.isNameChar c && !c.isUpper) = true →
        ∀ name ∈ names, Setting.IsStep name := by
    intro names hall name hmem
    obtain ⟨hempty, hchars⟩ := Bool.and_eq_true_iff.1 (List.all_eq_true.1 hall name hmem)
    refine .of_chars (of_decide_eq_true hempty) fun c hc => ?_
    simpa using List.all_eq_true.1 hchars c hc
  suffices hspelled : (∀ step ∈ key.names, Setting.IsStep step) ∧
      key.variableName = "when__" ++ String.ofList (key.variableName.toList.drop 6) ∧
      dotted (key.variableName.toList.drop 6) = (".".intercalate key.names).toList by
    obtain ⟨hsteps, hstart, hdotted⟩ := hspelled
    exact ⟨hsteps, _, hname.trans hstart, by rw [String.toList_ofList, hdotted]⟩
  cases key with
  | module name =>
    obtain ⟨hstep, hinfix⟩ := h
    have hrest : (Key.module name).variableName.toList.drop 6 =
        "logging__modules__".toList ++ name.toList := by
      simp [variableName, names]
    have hsteps := hsmall ["logging", "modules"] (by decide)
    refine ⟨List.forall_mem_append.2 ⟨hsteps, List.forall_mem_singleton.2 hstep⟩, ?_, ?_⟩
    · rw [hrest]
      apply String.toList_injective
      simp [variableName, names]
    · rw [hrest]
      simp [names, dotted, dotted_of_not_infix hinfix]
  | _ => exact ⟨hsmall _ (by decide), rfl, rfl⟩

end Names

/-! ## The layer of the variables -/

theorem isTable_settingOfText (text : String) : (settingOfText text).isTable = false := by
  unfold settingOfText
  dsimp only
  split
  · rfl
  · split
    · rfl
    · split <;> rfl

/-- A text is taken as it is if it is no truth value and writes no number. -/
theorem settingOfText_eq_string {text : String} (htrue : Text.lowercase text ≠ "true")
    (hfalse : Text.lowercase text ≠ "false") (hinteger : readInteger? text = none)
    (hfloat : readFloat? text = none) : settingOfText text = .string text := by
  simp only [settingOfText, if_neg htrue, if_neg hfalse, hinteger, hfloat]

theorem lowered_settingOfText (text : String) :
    (settingOfText text).lowered = settingOfText text := by
  have htable := isTable_settingOfText text
  cases h : settingOfText text with
  | table entries => rw [h] at htable; cases htable
  | _ => rfl

theorem startsWith_when_iff {name : String} :
    name.startsWith "when__" = true ↔ ∃ rest, name = "when__" ++ rest := by
  rw [String.startsWith_string_iff]
  constructor
  · rintro ⟨rest, hrest⟩
    refine ⟨String.ofList rest, String.toList_injective ?_⟩
    simpa using hrest.symm
  · rintro ⟨rest, rfl⟩
    simp

theorem drop_when_append (rest : String) : ("when__" ++ rest).toList.drop 6 = rest.toList := by
  rw [String.toList_append]
  rfl

theorem Key.IsVariable.dotted_eq {α : Type} {key : Key α} {name : String}
    (h : key.IsVariable name) :
    String.ofList (dotted ((Text.lowercase name).toList.drop 6)) = ".".intercalate key.names := by
  obtain ⟨rest, hname, hspelled⟩ := h.spelled
  rw [hname, drop_when_append, hspelled, String.ofList_toList]

section Given

variable {vars : Variables} {α : Type} {key : Key α}

theorem mem_layer {entry : String × Setting} : entry ∈ vars.layer ↔
    ∃ v ∈ vars.list, ∃ rest, Text.lowercase v.1 = "when__" ++ rest ∧
      entry = (String.ofList (dotted rest.toList), settingOfText v.2) := by
  rw [Variables.layer, List.mem_filterMap]
  refine exists_congr fun v => and_congr_right fun _ => ?_
  dsimp only
  split
  · next hstart =>
    obtain ⟨rest, hrest⟩ := startsWith_when_iff.1 hstart
    rw [hrest, drop_when_append, Option.some.injEq]
    constructor
    · rintro rfl
      exact ⟨rest, rfl, rfl⟩
    · rintro ⟨rest', heq, rfl⟩
      rw [String.append_right_inj _ |>.1 heq]
  · next hstart =>
    refine iff_of_false nofun ?_
    rintro ⟨rest, hrest, -⟩
    exact hstart (startsWith_when_iff.2 ⟨rest, hrest⟩)

/-- A variable is one for a setting exactly if its entry stands at the path to the setting. -/
theorem isVariable_iff {name rest : String} (hname : Text.lowercase name = "when__" ++ rest) :
    key.IsVariable name ↔
      Setting.pathOf (String.ofList (dotted rest.toList)) = key.names.map .name := by
  obtain ⟨first, names, hnames, hkey⟩ : ∃ first names, names ≠ [] ∧ key.names = first :: names := by
    cases key <;> exact ⟨_, _, List.cons_ne_nil _ _, rfl⟩
  have htext : ∀ c ∈ (String.ofList (dotted rest.toList)).toList, c.isUpper = false := by
    intro c hc
    rw [String.toList_ofList] at hc
    rcases mem_dotted hc with rfl | hc
    · rfl
    · refine Text.isUpper_of_mem_lowercase (s := name) ?_
      rw [hname, String.toList_append]
      exact List.mem_append_right _ hc
  rw [hkey, Setting.pathOf_eq_iff hnames htext, String.toList_ofList, ← toList_intercalate_dot,
    ← hkey]
  constructor
  · intro h
    have hspelled := h.dotted_eq
    rw [hname, drop_when_append] at hspelled
    exact ⟨h.steps, by rw [← hspelled, String.toList_ofList]⟩
  · rintro ⟨hsteps, hspelled⟩
    exact ⟨hsteps, rest, hname, hspelled⟩

/-- Without a variable for a setting the layer gives it nothing. -/
theorem given_variables_eq_nil (hfits : Layer.Fits vars.layer key.names)
    (h : ∀ v ∈ vars.list, ¬key.IsVariable v.1) : Layer.given vars.layer key.names = [] := by
  rw [Layer.given, List.flatMap_eq_nil_iff]
  intro entry hentry
  obtain ⟨v, hv, rest, hname, rfl⟩ := mem_layer.1 hentry
  have hfit := hfits _ hentry
  simp only [lowered_settingOfText] at hfit ⊢
  by_contra hgiven
  exact h v hv ((isVariable_iff hname).2
    (Setting.eq_of_given_under (isTable_settingOfText v.2) hfit hgiven))

/-- The last variable for a setting decides what the layer gives it. -/
theorem getLast?_given_variables (hfits : Layer.Fits vars.layer key.names)
    {front back : List (String × String)} {entry : String × String}
    (hlist : vars.list = front ++ entry :: back) (hentry : key.IsVariable entry.1)
    (hback : ∀ other ∈ back, ¬key.IsVariable other.1) :
    (Layer.given vars.layer key.names).getLast? = some (settingOfText entry.2) := by
  obtain ⟨list⟩ := vars
  obtain rfl : list = front ++ entry :: back := hlist
  obtain ⟨rest, hname, -⟩ := hentry.spelled
  let e := (String.ofList (dotted rest.toList), settingOfText entry.2)
  have hlayer : Variables.layer ⟨front ++ entry :: back⟩ =
      Variables.layer ⟨front⟩ ++ (e :: Variables.layer ⟨back⟩) := by
    simp only [Variables.layer, List.filterMap_append, List.filterMap_cons, hname,
      startsWith_when_iff.2 ⟨rest, rfl⟩, if_true, drop_when_append, e]
  have hnone : Layer.given (Variables.layer ⟨back⟩) key.names = [] := by
    refine given_variables_eq_nil (fun other hother => hfits other ?_) hback
    rw [hlayer]
    exact List.mem_append_right _ (List.mem_cons_of_mem _ hother)
  have hgiven : (e.2.lowered.under (Setting.pathOf e.1)).given key.names = [e.2] := by
    rw [lowered_settingOfText, (isVariable_iff hname).1 hentry, Setting.given_under_names]
  rw [hlayer, Layer.given_append_cons, hgiven, hnone, List.append_nil, List.getLast?_concat]

end Given

end Config

end UiPolicy
