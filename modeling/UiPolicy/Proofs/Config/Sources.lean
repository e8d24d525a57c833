import UiPolicy.Config.Load
import UiPolicy.Proofs.Config.Layers
import UiPolicy.Proofs.Json.Record

/-!
# Where layers come from

What files add to the layers of a configuration: the user's global file, which is looked for where
two variables say (`Variables.HasGlobalFile`), and the files of the workspace, one of which is named
after the active environment (`Variables.Activates`).
-/

namespace UiPolicy

/-! ## Names of files -/

namespace Text

theorem splitAt_ne_nil (separator : Char) (cs : List Char) : splitAt separator cs ≠ [] := by
  cases cs with
  | nil => exact List.cons_ne_nil _ _
  | cons c cs =>
    rw [splitAt]
    split
    · exact List.cons_ne_nil _ _
    · split <;> exact List.cons_ne_nil _ _

theorem splitAt_append (separator : Char) (front back : List Char) :
    splitAt separator (front ++ separator :: back) =
      splitAt separator front ++ splitAt separator back := by
  induction front with
  | nil => simp [splitAt]
  | cons c front ih =>
    rw [List.cons_append, splitAt, splitAt, ih]
    split
    · rfl
    · cases hfront : splitAt separator front with
      | nil => exact absurd hfront (splitAt_ne_nil separator front)
      | cons part parts => rfl

theorem splitAt_eq_singleton {separator : Char} {cs : List Char} (h : separator ∉ cs) :
    splitAt separator cs = [cs] := by
  induction cs with
  | nil => rfl
  | cons c cs ih =>
    obtain ⟨hc, hcs⟩ := not_or.1 (mt List.mem_cons.2 h)
    rw [splitAt, if_neg (Ne.symm hc), ih hcs]

end Text

namespace Path

/-- A name is the last one of a path if it stands last between the slashes. -/
theorem getLast?_names {path name : String} {parts : List (List Char)}
    (hparts : Text.splitAt '/' path.toList = parts ++ [name.toList]) (hempty : name ≠ "")
    (hdot : name ≠ ".") : (names path).getLast? = some name := by
  have hall : ((Text.splitAt '/' path.toList).map String.ofList).filter (!·.isEmpty) =
      (parts.map String.ofList).filter (!·.isEmpty) ++ [name] := by
    rw [hparts, List.map_append, List.filter_append]
    simp [hempty]
  rw [names, hall]
  cases (parts.map String.ofList).filter (!·.isEmpty) with
  | nil => simp [hdot]
  | cons first rest =>
    simp only [List.cons_append, List.filter_append]
    split <;> simp [hdot, List.getLast?_cons]

/-- A plain name is the last one of a path that ends in it. -/
theorem fileName?_join (base : String) {name : String} (hslash : '/' ∉ name.toList)
    (hempty : name ≠ "") (hdot : name ≠ ".") (hdots : name ≠ "..") :
    fileName? (join base name) = some name := by
  have hafter : ∀ front, Text.splitAt '/' (front ++ '/' :: name.toList) =
      Text.splitAt '/' front ++ [name.toList] := by
    intro front
    rw [Text.splitAt_append, Text.splitAt_eq_singleton hslash]
  have hparts : ∃ parts, Text.splitAt '/' (join base name).toList = parts ++ [name.toList] := by
    unfold join
    split
    · exact ⟨[], Text.splitAt_eq_singleton hslash⟩
    · split
      · next hbase =>
        obtain ⟨front, hfront⟩ := List.getLast?_eq_some_iff.1 hbase
        exact ⟨Text.splitAt '/' front, by simp [hfront, hafter]⟩
      · exact ⟨Text.splitAt '/' base.toList, by simp [hafter]⟩
  obtain ⟨parts, hparts⟩ := hparts
  rw [fileName?, getLast?_names hparts hempty hdot]
  simp [hdot, hdots]

end Path

/-! ## What the sources hold -/

/-- What a file adds to the layers: nothing if it is not there, or what its document says. -/
def Files.Adds (files : Files) (path : String) : Option Layer → Prop
  | none => files.isFile path = false
  | some layer => ∃ text, files.read path = .ok text ∧ DocumentKind.toml.layer text = .ok layer

/-- Whether a path is that of the user's global file. It lies in the directory that
`XDG_CONFIG_HOME` names, and under `HOME` only if that names none. -/
def Variables.HasGlobalFile (vars : Variables) (path : String) : Prop :=
  (∃ directory, vars.list.lookup "XDG_CONFIG_HOME" = some directory ∧ directory ≠ "" ∧
    path = Path.join (Path.join directory "when") "config.toml") ∨
  ((vars.list.lookup "XDG_CONFIG_HOME").getD "" = "" ∧
    ∃ home, vars.list.lookup "HOME" = some home ∧
      path = Path.join (Path.join (Path.join home ".config") "when") "config.toml")

/-- What the user's global file adds to the layers. -/
def Files.AddsGlobally (files : Files) (vars : Variables) : Option Layer → Prop
  | none => ∀ path, vars.HasGlobalFile path → files.contains path = false
  | some layer => ∃ path, vars.HasGlobalFile path ∧ files.Adds path (some layer)

/-- Whether an environment is the active one: the one that `WHEN_ENV` names, if that is not blank,
and `development` if it is blank or not set. -/
def Variables.Activates (vars : Variables) (environment : String) : Prop :=
  (vars.list.lookup "WHEN_ENV" = some environment ∧ ∃ c ∈ environment.toList, ¬Text.isBlank c) ∨
  ((∀ name, vars.list.lookup "WHEN_ENV" = some name → ∀ c ∈ name.toList, Text.isBlank c) ∧
    environment = "development")

namespace Variables

variable {vars : Variables}

theorem get?_eq_lookup (name : String) : vars.get? name = vars.list.lookup name := by
  obtain ⟨list⟩ := vars
  rw [get?]
  induction list with
  | nil => rfl
  | cons v list ih =>
    obtain ⟨other, value⟩ := v
    rw [List.find?_cons, List.lookup_cons]
    by_cases hother : other = name
    · simp [hother]
    · have hname : (name == other) = false := beq_eq_false_iff_ne.2 (Ne.symm hother)
      simp only [hother, decide_false, hname]
      exact ih

theorem globalPath?_eq_some_iff {path : String} :
    globalPath? vars = some path ↔ vars.HasGlobalFile path := by
  have hhome : (vars.list.lookup "HOME").map (fun home =>
      Path.join (Path.join (Path.join home ".config") "when") "config.toml") = some path ↔
        ∃ home, vars.list.lookup "HOME" = some home ∧
          path = Path.join (Path.join (Path.join home ".config") "when") "config.toml" := by
    rw [Option.map_eq_some_iff]
    simp only [eq_comm]
  unfold globalPath? HasGlobalFile
  rw [get?_eq_lookup, get?_eq_lookup]
  cases vars.list.lookup "XDG_CONFIG_HOME" with
  | none => simpa using hhome
  | some directory =>
    by_cases hempty : directory = ""
    · have hnone : (some directory).filter (!·.isEmpty) = none := by simp [hempty]
      rw [hnone]
      simpa [hempty] using hhome
    · have hsome : (some directory).filter (!·.isEmpty) = some directory := by simp [hempty]
      rw [hsome]
      simp [hempty, eq_comm]

theorem activeEnvironment_eq_iff {environment : String} :
    activeEnvironment vars = environment ↔ vars.Activates environment := by
  unfold activeEnvironment Activates
  rw [get?_eq_lookup, show environmentVariable = "WHEN_ENV" from rfl]
  cases vars.list.lookup "WHEN_ENV" with
  | none =>
    simp only [reduceCtorEq, false_and, false_or, false_implies, implies_true, true_and]
    exact eq_comm
  | some name =>
    simp only [List.isEmpty_iff, Text.trim_eq_nil_iff, Option.some.injEq, forall_eq']
    by_cases hblank : ∀ c ∈ name.toList, Text.isBlank c
    · rw [if_pos hblank]
      constructor
      · rintro rfl
        exact .inr ⟨hblank, rfl⟩
      · rintro (⟨rfl, c, hc, hnot⟩ | ⟨-, rfl⟩)
        · exact absurd (hblank c hc) hnot
        · rfl
    · rw [if_neg hblank]
      constructor
      · rintro rfl
        exact .inl ⟨rfl, by simpa using hblank⟩
      · rintro (⟨rfl, -⟩ | ⟨hall, -⟩)
        · rfl
        · exact absurd hall hblank

end Variables

namespace Files

variable {files : Files} {vars : Variables} {path : String} {layer : Layer}

theorem isFile_of_read {text : String} (h : files.read path = .ok text) :
    files.isFile path = true := by
  unfold read at h
  obtain ⟨node, hnode, h⟩ := Json.bind_eq_ok.1 h
  cases node with
  | file content => rw [isFile, hnode]
  | directory entries => cases h

theorem contains_of_isFile (h : files.isFile path = true) : files.contains path = true := by
  unfold isFile at h
  split at h
  · next hnode => rw [contains, hnode]; rfl
  · cases h

theorem readLayer_of_adds (h : files.Adds path (some layer)) :
    files.isFile path = true ∧ readLayer files path .toml = .ok layer := by
  obtain ⟨text, hread, hlayer⟩ := h
  refine ⟨isFile_of_read hread, ?_⟩
  rw [readLayer, hread]
  exact hlayer

/-- The global file is called `config.toml` wherever it is. -/
theorem extension?_globalPath (h : globalPath? vars = some path) :
    (Path.extension? path).bind DocumentKind.ofExtension? = some .toml := by
  have hjoin : ∀ base, (Path.extension? (Path.join base "config.toml")).bind
      DocumentKind.ofExtension? = some .toml := by
    intro base
    rw [Path.extension?, Path.fileName?_join base (by decide) (by decide) (by decide) (by decide)]
    decide
  unfold globalPath? at h
  split at h
  · obtain rfl := Option.some.inj h
    exact hjoin _
  · obtain ⟨home, -, rfl⟩ := Option.map_eq_some_iff.1 h
    exact hjoin _

theorem value_globalLayer {layer? : Option Layer} (h : files.AddsGlobally vars layer?) :
    (globalLayer files vars).value = layer?.toList.map .ok := by
  unfold globalLayer
  cases layer? with
  | none =>
    split
    · rfl
    · next path hpath =>
      rw [if_neg (by rw [h path (Variables.globalPath?_eq_some_iff.1 hpath)]; simp)]
      rfl
  | some layer =>
    obtain ⟨path, hglobal, hadds⟩ := h
    have hpath := Variables.globalPath?_eq_some_iff.2 hglobal
    obtain ⟨hfile, hread⟩ := readLayer_of_adds hadds
    simp only [hpath, contains_of_isFile hfile, findDocument, hfile, if_true,
      extension?_globalPath hpath, Noted.value_pure, hread]
    rfl

theorem readLayers_cons {layer? : Option Layer} (h : files.Adds path layer?)
    (paths : List String) :
    ((path :: paths).filter files.isFile).map (readLayer files · .toml) =
      layer?.toList.map .ok ++ (paths.filter files.isFile).map (readLayer files · .toml) := by
  cases layer? with
  | none =>
    rw [List.filter_cons_of_neg (by rw [show files.isFile path = false from h]; simp)]
    rfl
  | some layer =>
    obtain ⟨hfile, hread⟩ := readLayer_of_adds h
    rw [List.filter_cons_of_pos hfile, List.map_cons, hread]
    rfl

end Files

end UiPolicy
