import Mathlib.Data.List.Nodup
import UiPolicy.Config.Setting

/-!
# What layers say of a setting

A layer may name a setting by its tables and by paths, in any case. `Layer.given` lists the values
that it gives to a setting. Putting layers over each other keeps of each setting the value that was
given last (`at?_addLayers`), as long as the layers do not contradict each other in what is a table:
what a setting lies in is given as tables, and the setting itself as something else (`Fits`).
-/

namespace UiPolicy

/-- The entries of a layer; the names of the outermost ones are paths. -/
abbrev Layer := List (String × Setting)

namespace Setting

def isTable : Setting → Bool
  | .table _ => true
  | _ => false

/-- Whether a setting is neither a table nor a list. -/
def isScalar : Setting → Bool
  | .table _ => false
  | .array _ => false
  | _ => true

mutual

/-- A setting with the names of its tables in lower case. Names inside lists stay as they are. -/
def lowered : Setting → Setting
  | .table entries => .table (loweredEntries entries)
  | s => s

def loweredEntries : List (String × Setting) → List (String × Setting)
  | [] => []
  | (name, value) :: entries => (Text.lowercase name, value.lowered) :: loweredEntries entries

end

/-- A value inside the tables and lists that a path leads through. -/
def under (value : Setting) : List Step → Setting
  | [] => value
  | .name name :: path => .table [(name, value.under path)]
  | .item index :: path => .array (setItem [] index (value.under path))

/-- The setting that names lead to. -/
def at? : Setting → List String → Option Setting
  | s, [] => some s
  | s, name :: names => (s.get? name).bind (·.at? names)

/-- The settings that names lead to, in order, if a table may hold a name more than once. -/
def given : Setting → List String → List Setting
  | s, [] => [s]
  | s, name :: names => (s.entries.filter (·.1 = name)).flatMap (·.2.given names)

end Setting

/-- The values that a layer gives to the setting that names lead to, in order. -/
def Layer.given (layer : Layer) (names : List String) : List Setting :=
  layer.flatMap fun (key, value) => (value.lowered.under (Setting.pathOf key)).given names

namespace Setting

/-! ## Names of a table -/

/-- Another value for a name that is there. -/
theorem find?_replace {entries : List (String × Setting)} {name : String}
    (h : name ∈ entries.map (·.1)) (value : Setting) (other : String) :
    ((entries.map fun (n, old) => if n = name then (n, value) else (n, old)).find?
        (·.1 = other)).map (·.2) =
      if name = other then some value else (entries.find? (·.1 = other)).map (·.2) := by
  have hsame : ((fun e => decide (e.1 = other)) ∘ fun ((n, old) : String × Setting) =>
      if n = name then (n, value) else (n, old)) = fun e => decide (e.1 = other) := by
    funext ⟨n, old⟩
    by_cases hn : n = name <;> simp [hn]
  rw [List.find?_map, hsame]
  cases hfind : entries.find? (·.1 = other) with
  | none =>
    have hne : ¬name = other := by
      rintro rfl
      obtain ⟨e, he, heq⟩ := List.mem_map.1 h
      simpa [heq] using List.find?_eq_none.1 hfind e he
    rw [if_neg hne]
    rfl
  | some e =>
    have he : e.1 = other := by simpa using List.find?_some hfind
    by_cases hname : name = other
    · simp [he, hname]
    · simp [he, hname, Ne.symm hname]

theorem get?_put (s : Setting) (name : String) (value : Setting) (other : String) :
    (s.put name value).get? other = if name = other then some value else s.get? other := by
  unfold put
  split
  · next hmem =>
    obtain ⟨e, he, heq⟩ := List.any_eq_true.1 hmem
    exact find?_replace (List.mem_map.2 ⟨e, he, by simpa using heq⟩) value other
  · next hmem =>
    have hname : s.entries.find? (·.1 = name) = none := by
      rw [List.find?_eq_none]
      intro e he heq
      exact hmem (List.any_eq_true.2 ⟨e, he, heq⟩)
    rw [get?, entries, List.find?_append]
    by_cases hother : name = other
    · subst hother
      simp [hname]
    · simp [hother, get?]

/-- Whether a setting is a table that holds no name twice. -/
def IsProper (s : Setting) : Prop :=
  s.isTable = true ∧ (s.entries.map (·.1)).Nodup

theorem isProper_put {s : Setting} (h : (s.entries.map (·.1)).Nodup) (name : String)
    (value : Setting) : (s.put name value).IsProper := by
  unfold put
  split
  · have hsame : ((·.1) ∘ fun ((n, old) : String × Setting) =>
        if n = name then (n, value) else (n, old)) = (·.1) := by
      funext ⟨n, old⟩
      by_cases hn : n = name <;> simp [hn]
    refine ⟨rfl, ?_⟩
    rw [entries, List.map_map, hsame]
    exact h
  · next hmem =>
    refine ⟨rfl, ?_⟩
    rw [entries, List.map_append, List.nodup_append]
    refine ⟨h, List.nodup_singleton _, fun n hn other hother => ?_⟩
    rintro rfl
    obtain ⟨e, he, rfl⟩ := List.mem_map.1 hn
    exact hmem (List.any_eq_true.2 ⟨e, he, by simpa using hother⟩)

theorem at?_put (s : Setting) (name : String) (value : Setting) (other : String)
    (names : List String) :
    (s.put name value).at? (other :: names) =
      if name = other then value.at? names else s.at? (other :: names) := by
  rw [at?, get?_put]
  split <;> rfl

/-! ## Values that fit -/

/-- Whether all that a value gives on the way that names lead is tables, and all that it gives at
their end is neither table nor list. -/
def Fits (value : Setting) (names : List String) : Prop :=
  (∀ front, front <+: names → front ≠ names → ∀ s ∈ value.given front, s.isTable = true) ∧
  ∀ s ∈ value.given names, s.isScalar = true

/-- Whether all that a value gives on the way that names lead, and at their end, is tables. -/
def FitsTable (value : Setting) (names : List String) : Prop :=
  ∀ front, front <+: names → ∀ s ∈ value.given front, s.isTable = true

theorem given_table_cons (entries : List (String × Setting)) (name : String)
    (names : List String) :
    (table entries).given (name :: names) =
      (entries.filter (·.1 = name)).flatMap (·.2.given names) := rfl

theorem mem_given_of_mem {entries : List (String × Setting)} {name : String} {value s : Setting}
    {names : List String} (hvalue : (name, value) ∈ entries) (hs : s ∈ value.given names) :
    s ∈ (table entries).given (name :: names) := by
  rw [given_table_cons, List.mem_flatMap]
  exact ⟨(name, value), List.mem_filter.2 ⟨hvalue, by simp⟩, hs⟩

theorem Fits.of_mem {entries : List (String × Setting)} {name : String} {value : Setting}
    {names : List String} (h : Fits (.table entries) (name :: names))
    (hvalue : (name, value) ∈ entries) : Fits value names := by
  refine ⟨fun front hfront hne s hs => ?_, fun s hs => h.2 s (mem_given_of_mem hvalue hs)⟩
  have hne' : name :: front ≠ name :: names := fun heq => hne (List.cons.inj heq).2
  exact h.1 (name :: front) (List.cons_prefix_cons.2 ⟨rfl, hfront⟩) hne' s
    (mem_given_of_mem hvalue hs)

theorem FitsTable.of_mem {entries : List (String × Setting)} {name : String} {value : Setting}
    {names : List String} (h : FitsTable (.table entries) (name :: names))
    (hvalue : (name, value) ∈ entries) : FitsTable value names :=
  fun front hfront s hs =>
    h (name :: front) (List.cons_prefix_cons.2 ⟨rfl, hfront⟩) s (mem_given_of_mem hvalue hs)

theorem Fits.isTable {value : Setting} {name : String} {names : List String}
    (h : Fits value (name :: names)) : value.isTable = true :=
  h.1 [] List.nil_prefix (by simp) value (List.mem_singleton_self value)

theorem Fits.isScalar {value : Setting} (h : Fits value []) : value.isScalar = true :=
  h.2 value (List.mem_singleton_self value)

theorem FitsTable.isTable {value : Setting} {names : List String} (h : FitsTable value names) :
    value.isTable = true :=
  h [] List.nil_prefix value (List.mem_singleton_self value)

/-! ## A value over another -/

/-- What the names of a table's entries lead to once it is put over another table. -/
theorem get?_overlayEntries (entries : List (String × Setting)) (below : Setting)
    (name : String) :
    (overlayEntries entries below).get? name =
      (entries.filter (Text.lowercase ·.1 = name)).foldl
        (fun old entry => some (entry.2.overlay old)) (below.get? name) := by
  induction entries generalizing below with
  | nil => rfl
  | cons entry entries ih =>
    rw [overlayEntries, ih, get?_put]
    by_cases hname : Text.lowercase entry.1 = name
    · simp [hname]
    · simp [hname]

theorem loweredEntries_eq_map (entries : List (String × Setting)) :
    loweredEntries entries = entries.map fun e => (Text.lowercase e.1, e.2.lowered) := by
  induction entries with
  | nil => rfl
  | cons entry entries ih => rw [loweredEntries, ih, List.map_cons]

theorem given_lowered_cons (entries : List (String × Setting)) (name : String)
    (names : List String) :
    (table entries).lowered.given (name :: names) =
      (entries.filter (Text.lowercase ·.1 = name)).flatMap (·.2.lowered.given names) := by
  rw [lowered, given_table_cons, loweredEntries_eq_map, List.filter_map, List.flatMap_map]
  rfl

theorem mem_lowered {entries : List (String × Setting)} {name : String} {entry : String × Setting}
    (h : entry ∈ entries.filter (Text.lowercase ·.1 = name)) :
    (name, entry.2.lowered) ∈ loweredEntries entries := by
  obtain ⟨hmem, hname⟩ := List.mem_filter.1 h
  rw [loweredEntries_eq_map, List.mem_map]
  exact ⟨entry, hmem, by rw [of_decide_eq_true hname]⟩

/-- Where each of several values leaves what it gives last, all of them leave what they give last
together. -/
theorem bind_foldl_eq {α : Type} {names : List String} {put : α → Option Setting → Setting}
    {said : α → List Setting} {xs : List α}
    (h : ∀ a ∈ xs, ∀ old, (put a old).at? names =
      (said a).getLast?.or (old.bind (·.at? names))) (old : Option Setting) :
    (xs.foldl (fun old a => some (put a old)) old).bind (·.at? names) =
      (xs.flatMap said).getLast?.or (old.bind (·.at? names)) := by
  induction xs generalizing old with
  | nil => rfl
  | cons a xs ih =>
    have ha : (some (put a old)).bind (·.at? names) = _ := h a List.mem_cons_self old
    have hxs : ∀ a ∈ xs, _ := fun a ha => h a (List.mem_cons_of_mem _ ha)
    rw [List.foldl_cons, ih hxs, ha, List.flatMap_cons, List.getLast?_append, Option.or_assoc]

/-- A value put over another leaves of a setting what it gives last, or else what was there. -/
theorem at?_overlay {names : List String} {value : Setting} (h : Fits value.lowered names)
    (below : Option Setting) :
    (value.overlay below).at? names =
      (value.lowered.given names).getLast?.or (below.bind (·.at? names)) := by
  induction names generalizing value below with
  | nil =>
    have hscalar := h.isScalar
    cases value with
    | table entries => cases hscalar
    | _ => rfl
  | cons name names ih =>
    have htable := h.isTable
    cases value with
    | table entries =>
      have hsteps : ∀ entry ∈ entries.filter (Text.lowercase ·.1 = name), ∀ old : Option Setting,
          (entry.2.overlay old).at? names =
            (entry.2.lowered.given names).getLast?.or (old.bind (·.at? names)) :=
        fun entry hentry => ih (h.of_mem (mem_lowered hentry))
      rw [overlay, at?, get?_overlayEntries, bind_foldl_eq hsteps, given_lowered_cons]
      cases below <;> rfl
    | _ => cases htable

/-- Whether a setting is a proper table, if it is there. -/
def ProperIfAny (s? : Option Setting) : Prop :=
  ∀ s, s? = some s → s.IsProper

theorem ProperIfAny.getD {below : Option Setting} (h : ProperIfAny below) :
    (below.getD (.table [])).IsProper := by
  cases below with
  | none => exact ⟨rfl, List.nodup_nil⟩
  | some s => exact h s rfl

theorem isProper_overlayEntries (entries : List (String × Setting)) {below : Setting}
    (h : below.IsProper) : (overlayEntries entries below).IsProper := by
  induction entries generalizing below with
  | nil => exact h
  | cons entry entries ih => exact ih (isProper_put h.2 _ _)

theorem properIfAny_foldl {α : Type} {names : List String} {put : α → Option Setting → Setting}
    {xs : List α}
    (h : ∀ a ∈ xs, ∀ old : Option Setting, ProperIfAny (old.bind (·.at? names)) →
      ProperIfAny ((put a old).at? names)) {old : Option Setting}
    (hold : ProperIfAny (old.bind (·.at? names))) :
    ProperIfAny ((xs.foldl (fun old a => some (put a old)) old).bind (·.at? names)) := by
  induction xs generalizing old with
  | nil => exact hold
  | cons a xs ih =>
    exact ih (fun a ha => h a (List.mem_cons_of_mem _ ha)) (h a List.mem_cons_self old hold)

/-- A table put over a proper table is a proper table. -/
theorem properIfAny_overlay {names : List String} {value : Setting}
    (h : FitsTable value.lowered names) {below : Option Setting}
    (hbelow : ProperIfAny (below.bind (·.at? names))) :
    ProperIfAny ((value.overlay below).at? names) := by
  induction names generalizing value below with
  | nil =>
    have htable := h.isTable
    cases value with
    | table entries =>
      have hbelow' : ProperIfAny below := by cases below <;> exact hbelow
      rintro s ⟨⟩
      exact isProper_overlayEntries entries hbelow'.getD
    | _ => cases htable
  | cons name names ih =>
    have htable := h.isTable
    cases value with
    | table entries =>
      rw [overlay, at?, get?_overlayEntries]
      refine properIfAny_foldl (fun entry hentry old => ih (h.of_mem (mem_lowered hentry))) ?_
      cases below with
      | none => rintro s ⟨⟩
      | some below => exact hbelow
    | _ => cases htable

/-! ## A value at a path -/

theorem Fits.of_under {value : Setting} {step : String} {path : List Step} {names : List String}
    (h : Fits (value.under (.name step :: path)) (step :: names)) : Fits (value.under path) names :=
  h.of_mem (List.mem_singleton_self _)

theorem FitsTable.of_under {value : Setting} {step : String} {path : List Step}
    {names : List String} (h : FitsTable (value.under (.name step :: path)) (step :: names)) :
    FitsTable (value.under path) names :=
  h.of_mem (List.mem_singleton_self _)

theorem given_under_cons (value : Setting) (step : String) (path : List Step) (name : String)
    (names : List String) :
    (value.under (.name step :: path)).given (name :: names) =
      if step = name then (value.under path).given names else [] := by
  rw [under, given_table_cons]
  by_cases hname : step = name <;> simp [hname]

theorem at?_getD_table (below : Option Setting) (name : String) (names : List String) :
    (below.getD (.table [])).at? (name :: names) = below.bind (·.at? (name :: names)) := by
  cases below <;> rfl

/-- Like `at?_overlay`, for a value at a path. -/
theorem at?_setAt {path : List Step} {names : List String} {value : Setting}
    (h : Fits (value.lowered.under path) names) (below : Option Setting) :
    (setAt value path below).at? names =
      ((value.lowered.under path).given names).getLast?.or (below.bind (·.at? names)) := by
  induction path generalizing names below with
  | nil => exact at?_overlay h below
  | cons step path ih =>
    cases names with
    | nil => cases step <;> cases h.isScalar
    | cons name names =>
      cases step with
      | item index => cases h.isTable
      | name step =>
        rw [setAt, at?_put, given_under_cons]
        by_cases hname : step = name
        · subst hname
          rw [if_pos rfl, if_pos rfl, ih h.of_under, ← at?_getD_table]
          rfl
        · rw [if_neg hname, if_neg hname, at?_getD_table]
          rfl

/-- Like `properIfAny_overlay`, for a value at a path. -/
theorem properIfAny_setAt {path : List Step} {names : List String} {value : Setting}
    (h : FitsTable (value.lowered.under path) names) {below : Option Setting}
    (hbelow : ProperIfAny (below.bind (·.at? names))) :
    ProperIfAny ((setAt value path below).at? names) := by
  induction path generalizing names below with
  | nil => exact properIfAny_overlay h hbelow
  | cons step path ih =>
    cases step with
    | item index => cases h.isTable
    | name step =>
      cases names with
      | nil =>
        have hbelow' : ProperIfAny below := by cases below <;> exact hbelow
        rintro s ⟨⟩
        exact isProper_put hbelow'.getD.2 _ _
      | cons name names =>
        rw [← at?_getD_table] at hbelow
        rw [setAt, at?_put]
        by_cases hname : step = name
        · subst hname
          rw [if_pos rfl]
          exact ih h.of_under hbelow
        · rw [if_neg hname]
          exact hbelow

/-- A path begins with a name. -/
theorem exists_pathOf (text : String) : ∃ name path, pathOf text = .name name :: path := by
  have hname : ∀ {cs first rest}, readName cs = some (first, rest) →
      ∃ name, first = .name name := by
    intro cs first rest h
    unfold readName at h
    split at h
    · cases h
    · obtain ⟨rfl, -⟩ := Prod.mk.inj (Option.some.inj h)
      exact ⟨_, rfl⟩
  unfold pathOf
  cases hfirst : readName text.toList with
  | none => exact ⟨Text.lowercase text, [], by simp [hfirst]⟩
  | some read =>
    obtain ⟨first, rest⟩ := read
    obtain ⟨name, rfl⟩ := hname hfirst
    cases hrest : readSteps rest.length rest with
    | none => exact ⟨Text.lowercase text, [], by simp [hfirst, hrest]⟩
    | some path => exact ⟨name, path, by simp [hfirst, hrest]⟩

end Setting

/-! ## Layers over each other -/

namespace Layer

open Setting

/-- Whether the entries of a layer fit a setting: `Setting.Fits` for each of them. -/
def Fits (layer : Layer) (names : List String) : Prop :=
  ∀ entry ∈ layer, Setting.Fits (entry.2.lowered.under (pathOf entry.1)) names

def FitsTable (layer : Layer) (names : List String) : Prop :=
  ∀ entry ∈ layer, Setting.FitsTable (entry.2.lowered.under (pathOf entry.1)) names

theorem mem_given {layer : Layer} {entry : String × Setting} {names : List String} {s : Setting}
    (hentry : entry ∈ layer) (hs : s ∈ (entry.2.lowered.under (pathOf entry.1)).given names) :
    s ∈ layer.given names :=
  List.mem_flatMap.2 ⟨entry, hentry, hs⟩

theorem given_append_cons (front back : Layer) (entry : String × Setting) (names : List String) :
    Layer.given (front ++ entry :: back) names = Layer.given front names ++
      ((entry.2.lowered.under (pathOf entry.1)).given names ++ Layer.given back names) := by
  rw [Layer.given, List.flatMap_append, List.flatMap_cons]
  rfl

/-- Every entry of a layer is a table at first, as its path begins with a name. -/
theorem isTable_of_mem_given_nil {value s : Setting} {key : String}
    (h : s ∈ (value.under (pathOf key)).given []) : s.isTable = true := by
  obtain ⟨name, path, hpath⟩ := exists_pathOf key
  rw [hpath] at h
  rw [List.mem_singleton.1 h]
  rfl

theorem Fits.of_given {layer : Layer} {names : List String}
    (htables : ∀ front, front <+: names → front ≠ [] → front ≠ names →
      ∀ s ∈ layer.given front, s.isTable = true)
    (hscalars : ∀ s ∈ layer.given names, s.isScalar = true) : layer.Fits names := by
  intro entry hentry
  refine ⟨fun front hfront hne s hs => ?_, fun s hs => hscalars s (mem_given hentry hs)⟩
  cases front with
  | nil => exact isTable_of_mem_given_nil hs
  | cons name front => exact htables _ hfront (by simp) hne s (mem_given hentry hs)

theorem FitsTable.of_given {layer : Layer} {names : List String}
    (htables : ∀ front, front <+: names → front ≠ [] →
      ∀ s ∈ layer.given front, s.isTable = true) : layer.FitsTable names := by
  intro entry hentry front hfront s hs
  cases front with
  | nil => exact isTable_of_mem_given_nil hs
  | cons name front => exact htables _ hfront (by simp) s (mem_given hentry hs)

theorem some_addLayer (layer : Layer) (below : Setting) :
    some (addLayer below layer) =
      layer.foldl (fun old entry => some (setAt entry.2 (pathOf entry.1) old)) (some below) := by
  induction layer generalizing below with
  | nil => rfl
  | cons entry layer ih => exact ih _

theorem at?_addLayer {layer : Layer} {names : List String} (h : layer.Fits names)
    (below : Setting) :
    (addLayer below layer).at? names = (layer.given names).getLast?.or (below.at? names) := by
  have hsteps : ∀ entry ∈ layer, ∀ old, (setAt entry.2 (pathOf entry.1) old).at? names =
      ((entry.2.lowered.under (pathOf entry.1)).given names).getLast?.or
        (old.bind (·.at? names)) :=
    fun entry hentry => at?_setAt (h entry hentry)
  have hfold := bind_foldl_eq hsteps (some below)
  rw [← some_addLayer] at hfold
  exact hfold

theorem properIfAny_addLayer {layer : Layer} {names : List String} (h : layer.FitsTable names)
    {below : Setting} (hbelow : ProperIfAny (below.at? names)) :
    ProperIfAny ((addLayer below layer).at? names) := by
  have hfold : ProperIfAny ((layer.foldl
      (fun old entry => some (setAt entry.2 (pathOf entry.1) old)) (some below)).bind
        (·.at? names)) :=
    properIfAny_foldl (fun entry hentry old => properIfAny_setAt (h entry hentry)) hbelow
  rw [← some_addLayer] at hfold
  exact hfold

end Layer

namespace Setting

/-- **Layers leave of a setting what was given last.** The highest layer that gives the setting a
value decides. -/
theorem at?_addLayers {layers : List Layer} {names : List String}
    (h : ∀ layer ∈ layers, layer.Fits names) (below : Setting) :
    (layers.foldl addLayer below).at? names =
      (layers.reverse.findSome? fun layer => (layer.given names).getLast?).or
        (below.at? names) := by
  induction layers generalizing below with
  | nil => rfl
  | cons layer layers ih =>
    rw [List.foldl_cons, ih (fun l hl => h l (List.mem_cons_of_mem _ hl)),
      Layer.at?_addLayer (h layer List.mem_cons_self), List.reverse_cons, List.findSome?_append,
      Option.or_assoc]
    simp

theorem properIfAny_addLayers {layers : List Layer} {names : List String}
    (h : ∀ layer ∈ layers, layer.FitsTable names) {below : Setting}
    (hbelow : ProperIfAny (below.at? names)) :
    ProperIfAny ((layers.foldl addLayer below).at? names) := by
  induction layers generalizing below with
  | nil => exact hbelow
  | cons layer layers ih =>
    exact ih (fun l hl => h l (List.mem_cons_of_mem _ hl))
      (Layer.properIfAny_addLayer (h layer List.mem_cons_self) hbelow)

end Setting

end UiPolicy
