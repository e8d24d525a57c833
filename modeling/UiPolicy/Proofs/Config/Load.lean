import Mathlib
import UiPolicy.Proofs.Config.Sources
import UiPolicy.Proofs.Config.Variables

/-!
# Where a setting comes from

A configuration is loaded from the user's global file, the base file of the workspace, the file of
the active environment, and the variables of the process. Each of its settings has the value of the
last variable for it, or else of the highest file that gives it one, and its default if no file does
(`Config.load_takes_highest`). What a layer gives to one setting of a section does not touch the
other ones.
-/

namespace UiPolicy

/-! ## Layers that can be taken -/

/-- Whether the values of a layer are what a configuration expects: tables for its sections, and
values that can be converted for its settings. -/
structure Layer.Coercible (layer : Layer) : Prop where
  sections : ∀ names ∈ Config.sections, ∀ s ∈ layer.given names, s.isTable = true
  keys : ∀ {α : Type} (key : Config.Key α), ∀ s ∈ layer.given key.names,
    (key.convert s).isOk = true

namespace Config

/-- The value that the highest of some layers gives to a setting, if any of them does. Of a layer
that gives more than one the last counts. -/
def Key.highest? {α : Type} (key : Key α) (layers : List Layer) : Option Setting :=
  layers.reverse.findSome? fun layer => (layer.given key.names).getLast?

theorem Key.highest?_concat {α : Type} (key : Key α) (layers : List Layer) (top : Layer) :
    key.highest? (layers ++ [top]) =
      ((top.given key.names).getLast?).or (key.highest? layers) := by
  rw [highest?, highest?, List.reverse_append, List.reverse_singleton, List.singleton_append,
    List.findSome?_cons]
  cases (top.given key.names).getLast? <;> rfl

theorem Key.isScalar_of_isOk {α : Type} {key : Key α} {s : Setting}
    (h : (key.convert s).isOk = true) : s.isScalar = true := by
  cases s with
  | array items => cases key <;> cases h
  | table entries => cases key <;> cases h
  | _ => rfl

theorem mem_sections_of_prefix {front names : List String} (hnames : names ∈ sections)
    (hfront : front <+: names) (hempty : front ≠ []) : front ∈ sections := by
  have hinits : ∀ names ∈ sections, ∀ front ∈ names.inits, front ≠ [] → front ∈ sections := by
    decide
  exact hinits names hnames front ((List.mem_inits _ _).2 hfront) hempty

/-- What a setting lies in is a section. -/
theorem Key.exists_section {α : Type} (key : Key α) :
    ∃ names ∈ sections, ∃ field, key.names = names ++ [field] := by
  cases key with
  | url | connectTimeout | requestTimeout => exact ⟨["backend"], by decide, _, rfl⟩
  | maxPasses => exact ⟨["resolver"], by decide, _, rfl⟩
  | module name => exact ⟨["logging", "modules"], by decide, _, rfl⟩
  | _ => exact ⟨["logging"], by decide, _, rfl⟩

end Config

namespace Layer.Coercible

variable {layer : Layer}

theorem fits (h : layer.Coercible) {α : Type} (key : Config.Key α) : layer.Fits key.names := by
  obtain ⟨names, hnames, field, hkey⟩ := key.exists_section
  refine Layer.Fits.of_given (fun front hfront hempty hne => ?_) fun s hs => ?_
  · rw [hkey, List.prefix_concat_iff] at hfront
    rcases hfront with hfront | hfront
    · exact absurd (hfront.trans hkey.symm) hne
    · exact h.sections front (Config.mem_sections_of_prefix hnames hfront hempty)
  · exact Config.Key.isScalar_of_isOk (h.keys key s hs)

theorem fitsTable (h : layer.Coercible) {names : List String}
    (hnames : names = [] ∨ names ∈ Config.sections) : layer.FitsTable names := by
  refine Layer.FitsTable.of_given fun front hfront hempty => ?_
  rcases hnames with rfl | hnames
  · exact absurd (List.prefix_nil.1 hfront) hempty
  · exact h.sections front (Config.mem_sections_of_prefix hnames hfront hempty)

theorem cons {entry : String × Setting} (hentry : Layer.Coercible [entry])
    (h : layer.Coercible) : Layer.Coercible (entry :: layer) := by
  have hgiven (names : List String) :
      Layer.given ([entry] ++ layer) names = Layer.given [entry] names ++ layer.given names :=
    List.flatMap_append
  rw [← List.singleton_append]
  refine ⟨fun names hnames => ?_, fun key => ?_⟩
  · rw [hgiven, List.forall_mem_append]
    exact ⟨hentry.sections names hnames, h.sections names hnames⟩
  · rw [hgiven, List.forall_mem_append]
    exact ⟨hentry.keys key, h.keys key⟩

/-- A layer of one entry can be taken if its value can, inside the tables of its path. -/
theorem of_entry {key : String} {value nested : Setting}
    (hnested : value.lowered.under (Setting.pathOf key) = nested)
    (hsections : ∀ names ∈ Config.sections, ∀ s ∈ nested.given names, s.isTable = true)
    (hkeys : ∀ {α : Type} (key : Config.Key α), ∀ s ∈ nested.given key.names,
      (key.convert s).isOk = true) : Layer.Coercible [(key, value)] := by
  have hgiven : ∀ names, Layer.given [(key, value)] names = nested.given names := by
    intro names
    rw [← hnested]
    exact List.flatMap_singleton _ _
  refine ⟨fun names hnames s hs => ?_, fun key s hs => ?_⟩
  · rw [hgiven] at hs
    exact hsections names hnames s hs
  · rw [hgiven] at hs
    exact hkeys key s hs

end Layer.Coercible

/-! ## Precedence -/

namespace Config

section Layers

variable {layers : List Layer}

theorem properIfAny_settings (h : ∀ layer ∈ layers, layer.Coercible) {names : List String}
    (hnames : names = [] ∨ names ∈ sections) :
    Setting.ProperIfAny ((layers.foldl Setting.addLayer (.table [])).at? names) := by
  refine Setting.properIfAny_addLayers (fun layer hlayer => (h layer hlayer).fitsTable hnames) ?_
  cases names with
  | nil =>
    rintro s ⟨⟩
    exact ⟨rfl, List.nodup_nil⟩
  | cons name names => rintro s ⟨⟩

theorem at?_settings (h : ∀ layer ∈ layers, layer.Coercible) {α : Type} (key : Key α) :
    (layers.foldl Setting.addLayer (.table [])).at? key.names = key.highest? layers := by
  have hnone : (Setting.table []).at? key.names = none := by cases key <;> rfl
  rw [Setting.at?_addLayers fun layer hlayer => (h layer hlayer).fits key, hnone, Option.or_none]
  rfl

theorem exists_valueOr (h : ∀ layer ∈ layers, layer.Coercible) {α : Type} (key : Key α) :
    ∃ v, Setting.valueOr key.convert (key.value .default) (key.highest? layers) = .ok v := by
  cases hhighest : key.highest? layers with
  | none => exact ⟨_, rfl⟩
  | some s =>
    obtain ⟨layer, hlayer, hlast⟩ := List.exists_of_findSome?_eq_some hhighest
    have hok := (h layer (List.mem_reverse.1 hlayer)).keys key s (List.mem_of_getLast? hlast)
    cases hv : key.convert s with
    | ok v => exact ⟨v, hv⟩
    | error e =>
      rw [hv] at hok
      cases hok

theorem configOfLayers_map_ok (layers : List Layer) :
    configOfLayers (layers.map .ok) =
      (layers.foldl Setting.addLayer (.table [])).toConfig.mapError .configuration := by
  have hlayers : (layers.map .ok).mapM id = (.ok layers : Except String (List Layer)) := by
    rw [Json.mapM_eq_ok, List.forall₂_map_left_iff, List.forall₂_same]
    exact fun _ _ => rfl
  rw [configOfLayers, hlayers]
  rfl

/-- Layers that can be taken make up a configuration, in which the highest layer decides. -/
theorem exists_configOfLayers (h : ∀ layer ∈ layers, layer.Coercible) :
    ∃ c, configOfLayers (layers.map .ok) = .ok c ∧ c.logging.modules.Pairwise (·.1 < ·.1) ∧
      ∀ {α : Type} (key : Key α),
        Setting.valueOr key.convert (key.value .default) (key.highest? layers) =
          .ok (key.value c) := by
  obtain ⟨entries, htable, -⟩ := (properIfAny_settings h (.inl rfl)).exists_table
  have hentries : layers.foldl Setting.addLayer (.table []) = .table entries := htable
  have hat : ∀ {α : Type} (key : Key α),
      (Setting.table entries).at? key.names = key.highest? layers := by
    intro α key
    rw [← hentries, at?_settings h key]
  obtain ⟨c, hc, hascending, hkeys⟩ := Setting.exists_toConfig
    (fun names hnames => hentries ▸ properIfAny_settings h (.inr hnames))
    (fun key => (hat key).symm ▸ exists_valueOr h key)
  refine ⟨c, ?_, hascending, fun key => hat key ▸ hkeys key⟩
  rw [configOfLayers_map_ok, hentries, hc]
  rfl

end Layers

/-- The base file of a workspace. -/
def baseFile (workspace : String) : String :=
  Path.join (Path.join workspace "config") "config.toml"

/-- The file of a workspace for an environment. -/
def environmentFile (workspace environment : String) : String :=
  Path.join (Path.join workspace "config") (environment ++ ".toml")

section Load

variable {files : Files} {vars : Variables} {workspace environment : String}
  {global base own : Option Layer} (henvironment : vars.Activates environment)
  (haccepted : (layerPaths workspace environment).isOk = true)
  (hglobal : files.AddsGlobally vars global) (hbase : files.Adds (baseFile workspace) base)
  (hown : files.Adds (environmentFile workspace environment) own)
include henvironment haccepted hglobal hbase hown

theorem value_load :
    (load files vars workspace).value =
      configOfLayers ((global.toList ++ base.toList ++ own.toList ++ [vars.layer]).map .ok) := by
  have hpaths : layerPaths workspace (activeEnvironment vars) =
      .ok [baseFile workspace, environmentFile workspace environment] := by
    rw [Variables.activeEnvironment_eq_iff.2 henvironment]
    unfold layerPaths at haccepted ⊢
    split
    · next hrefused => rw [if_pos hrefused] at haccepted; cases haccepted
    · rfl
  simp only [load, Noted.value_bind, Files.value_globalLayer hglobal, hpaths, Noted.value_pure,
    Files.readLayers_cons hbase, Files.readLayers_cons hown, List.filter_nil, List.map_nil,
    List.map_append, List.append_nil, List.append_assoc, List.map_cons]

end Load

end Config

end UiPolicy
