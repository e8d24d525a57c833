import UiPolicy.Config.Coerce
import UiPolicy.Context.Store
import UiPolicy.Proofs.Config.Layers
import UiPolicy.Proofs.Json.Record
import UiPolicy.Proofs.Keyed

/-!
# A configuration setting by setting

`Config.Key` names the settings of a configuration, and every module's level is one. Each has a
place in the layers, a conversion and a value. A table of settings is turned into a configuration as
a whole; `toConfig_of_keys` reads the configuration off key by key.
-/

namespace UiPolicy

/-- A setting of the configuration. -/
inductive Config.Key : Type → Type
  | url : Key String
  | connectTimeout : Key Nat
  | requestTimeout : Key Nat
  | maxPasses : Key Nat
  | enabled : Key Bool
  | level : Key String
  | format : Key String
  | output : Key String
  | file : Key (Option String)
  | color : Key Bool
  /-- The level of a module, if it has one. -/
  | module (name : String) : Key (Option String)

namespace Config.Key

/-- The names that lead to a setting: its section and its field, and then the module. -/
def names : {α : Type} → Key α → List String
  | _, url => ["backend", "url"]
  | _, connectTimeout => ["backend", "connect_timeout_ms"]
  | _, requestTimeout => ["backend", "request_timeout_ms"]
  | _, maxPasses => ["resolver", "max_passes"]
  | _, enabled => ["logging", "enabled"]
  | _, level => ["logging", "level"]
  | _, format => ["logging", "format"]
  | _, output => ["logging", "output"]
  | _, file => ["logging", "file"]
  | _, color => ["logging", "color"]
  | _, module name => ["logging", "modules", name]

def convert : {α : Type} → Key α → Setting → Except String α
  | _, url => Setting.toText
  | _, connectTimeout => Setting.toNat
  | _, requestTimeout => Setting.toNat
  | _, maxPasses => Setting.toNat
  | _, enabled => Setting.toBool
  | _, level => Setting.toText
  | _, format => Setting.toText
  | _, output => Setting.toText
  | _, file => Setting.toTextOption
  | _, color => Setting.toBool
  | _, module _ => fun s => some <$> s.toText

def value : {α : Type} → Key α → Config → α
  | _, url, c => c.backend.url
  | _, connectTimeout, c => c.backend.connectTimeout
  | _, requestTimeout, c => c.backend.requestTimeout
  | _, maxPasses, c => c.resolver.maxPasses
  | _, enabled, c => c.logging.enabled
  | _, level, c => c.logging.level
  | _, format, c => c.logging.format
  | _, output, c => c.logging.output
  | _, file, c => c.logging.file
  | _, color, c => c.logging.color
  | _, module name, c => (c.logging.modules.find? (·.1 = name)).map (·.2)

end Config.Key

/-- The names that lead to the tables of a configuration. -/
def Config.sections : List (List String) :=
  [["backend"], ["resolver"], ["logging"], ["logging", "modules"]]

namespace Setting

/-- A setting turned into a value, or the default if there is no setting. -/
def valueOr {α : Type} (convert : Setting → Except String α) (first : α) :
    Option Setting → Except String α
  | some s => convert s
  | none => .ok first

/-! ## Groups of settings -/

/-- A field of a group takes its setting, or keeps its first value. -/
theorem toRecord_field {ρ α : Type} {name : String} {convert : Setting → Except String α}
    {set : α → ρ → ρ} {first : ρ} {entries : List (String × Setting)} {old v : α}
    (hold : set old first = first)
    (h : valueOr convert old ((table entries).get? name) = .ok v)
    (fields : List (Field ρ)) :
    toRecord (field name convert set :: fields) first (.table entries) =
      toRecord fields (set v first) (.table entries) := by
  simp only [toRecord, List.foldlM_cons, field]
  cases hget : (table entries).get? name with
  | none =>
    rw [hget] at h
    rw [← Except.ok.inj h, hold]
    rfl
  | some s =>
    rw [hget] at h
    simp only [show convert s = .ok v from h]
    rfl

theorem toBackend_eq_ok {entries : List (String × Setting)} {c : BackendConfig}
    (hurl : valueOr toText BackendConfig.default.url ((table entries).get? "url") = .ok c.url)
    (hconnect : valueOr toNat BackendConfig.default.connectTimeout
      ((table entries).get? "connect_timeout_ms") = .ok c.connectTimeout)
    (hrequest : valueOr toNat BackendConfig.default.requestTimeout
      ((table entries).get? "request_timeout_ms") = .ok c.requestTimeout) :
    toBackend (.table entries) = .ok c := by
  refine Eq.trans (toRecord_field (by rfl) hurl _) ?_
  refine Eq.trans (toRecord_field (by rfl) hconnect _) ?_
  exact toRecord_field (by rfl) hrequest _

theorem toResolver_eq_ok {entries : List (String × Setting)} {c : ResolverConfig}
    (hpasses : valueOr toNat ResolverConfig.default.maxPasses
      ((table entries).get? "max_passes") = .ok c.maxPasses) :
    toResolver (.table entries) = .ok c :=
  toRecord_field (by rfl) hpasses _

theorem toLogging_eq_ok {entries : List (String × Setting)} {c : LoggingConfig}
    (henabled : valueOr toBool LoggingConfig.default.enabled
      ((table entries).get? "enabled") = .ok c.enabled)
    (hlevel : valueOr toText LoggingConfig.default.level
      ((table entries).get? "level") = .ok c.level)
    (hformat : valueOr toText LoggingConfig.default.format
      ((table entries).get? "format") = .ok c.format)
    (houtput : valueOr toText LoggingConfig.default.output
      ((table entries).get? "output") = .ok c.output)
    (hfile : valueOr toTextOption LoggingConfig.default.file
      ((table entries).get? "file") = .ok c.file)
    (hcolor : valueOr toBool LoggingConfig.default.color
      ((table entries).get? "color") = .ok c.color)
    (hmodules : valueOr toTextMap LoggingConfig.default.modules
      ((table entries).get? "modules") = .ok c.modules) :
    toLogging (.table entries) = .ok c := by
  refine Eq.trans (toRecord_field (by rfl) henabled _) ?_
  refine Eq.trans (toRecord_field (by rfl) hlevel _) ?_
  refine Eq.trans (toRecord_field (by rfl) hformat _) ?_
  refine Eq.trans (toRecord_field (by rfl) houtput _) ?_
  refine Eq.trans (toRecord_field (by rfl) hfile _) ?_
  refine Eq.trans (toRecord_field (by rfl) hcolor _) ?_
  exact toRecord_field (by rfl) hmodules _

theorem toConfig_eq_ok {entries : List (String × Setting)} {c : Config}
    (hbackend : valueOr toBackend Config.default.backend
      ((table entries).get? "backend") = .ok c.backend)
    (hresolver : valueOr toResolver Config.default.resolver
      ((table entries).get? "resolver") = .ok c.resolver)
    (hlogging : valueOr toLogging Config.default.logging
      ((table entries).get? "logging") = .ok c.logging) :
    toConfig (.table entries) = .ok c := by
  refine Eq.trans (toRecord_field (by rfl) hbackend _) ?_
  refine Eq.trans (toRecord_field (by rfl) hresolver _) ?_
  exact toRecord_field (by rfl) hlogging _

/-! ## Modules -/

theorem insertByName_map (name value : String) (es : List Context.Entry) :
    insertByName name value (es.map fun e => (e.key, e.value)) =
      (Context.insertEntry ⟨name, value⟩ es).map fun e => (e.key, e.value) := by
  induction es with
  | nil => rfl
  | cons e es ih =>
    rw [List.map_cons, insertByName, Context.insertEntry, ih]
    split
    · rfl
    · split <;> rfl

/-- Sorting by name is what the context does with its entries. -/
theorem sortByName_eq (pairs : List (String × String)) :
    sortByName pairs = (Context.Store.ofList pairs).entries.map fun e => (e.key, e.value) := by
  have hfold : ∀ (pairs : List (String × String)) (store : Context.Store),
      pairs.foldl (fun sorted pair => insertByName pair.1 pair.2 sorted)
          (store.entries.map fun e => (e.key, e.value)) =
        (pairs.foldl (fun s pair => s.insert pair.1 pair.2) store).entries.map
          fun e => (e.key, e.value) := by
    intro pairs
    induction pairs with
    | nil => exact fun _ => rfl
    | cons pair pairs ih =>
      intro store
      rw [List.foldl_cons, List.foldl_cons, insertByName_map]
      exact ih (store.insert pair.1 pair.2)
  exact hfold pairs .empty

theorem pairwise_sortByName (pairs : List (String × String)) :
    (sortByName pairs).Pairwise (·.1 < ·.1) := by
  rw [sortByName_eq, List.pairwise_map]
  exact (Context.Store.ofList pairs).ascending

theorem get?_foldl_insert {pairs : List (String × String)} {valueOf : String → Option String}
    (h : ∀ pair ∈ pairs, valueOf pair.1 = some pair.2) (store : Context.Store) (name : String) :
    (pairs.foldl (fun s pair => s.insert pair.1 pair.2) store).get? name =
      if name ∈ pairs.map (·.1) then valueOf name else store.get? name := by
  induction pairs generalizing store with
  | nil => rfl
  | cons pair pairs ih =>
    have hpair := h pair List.mem_cons_self
    rw [List.foldl_cons, ih (fun p hp => h p (List.mem_cons_of_mem _ hp)),
      Context.Store.get?_insert, List.map_cons]
    by_cases hname : name = pair.1
    · subst hname
      simp [hpair]
    · simp only [List.mem_cons, hname, false_or, if_false]

/-- What a sorted list of pairs says of a name, if the pairs do not contradict each other. -/
theorem find?_sortByName {pairs : List (String × String)} {valueOf : String → Option String}
    (h : ∀ pair ∈ pairs, valueOf pair.1 = some pair.2) (name : String) :
    ((sortByName pairs).find? (·.1 = name)).map (·.2) =
      if name ∈ pairs.map (·.1) then valueOf name else none := by
  rw [sortByName_eq, List.find?_map, Option.map_map]
  exact get?_foldl_insert h .empty name

theorem get?_of_mem {entries : List (String × Setting)} (h : (entries.map (·.1)).Nodup)
    {entry : String × Setting} (hentry : entry ∈ entries) :
    (table entries).get? entry.1 = some entry.2 :=
  congrArg (Option.map Prod.snd) ((Keyed.find?_eq_some_iff h).2 ⟨hentry, rfl⟩)

/-- A table of texts, one for each name that has a text. -/
theorem exists_toTextMap {entries : List (String × Setting)} (h : (entries.map (·.1)).Nodup)
    {textOf : String → Option String}
    (htext : ∀ name, valueOr (fun s => some <$> s.toText) none ((table entries).get? name) =
      .ok (textOf name)) :
    ∃ modules, toTextMap (.table entries) = .ok modules ∧ modules.Pairwise (·.1 < ·.1) ∧
      ∀ name, (modules.find? (·.1 = name)).map (·.2) = textOf name := by
  have hentry : ∀ entry ∈ entries, ∃ text, entry.2.toText = .ok text ∧
      textOf entry.1 = some text := by
    intro entry hentry
    have hentryText := htext entry.1
    rw [get?_of_mem h hentry] at hentryText
    obtain ⟨text, htext, heq⟩ := Json.map_eq_ok.1 hentryText
    exact ⟨text, htext, heq.symm⟩
  let pairs := entries.map fun entry => (entry.1, (textOf entry.1).getD "")
  have hpairs : ∀ pair ∈ pairs, textOf pair.1 = some pair.2 := by
    intro pair hpair
    obtain ⟨entry, hmem, rfl⟩ := List.mem_map.1 hpair
    obtain ⟨text, -, heq⟩ := hentry entry hmem
    rw [heq]
    rfl
  have hmapM : entries.mapM (fun entry => do return (entry.1, ← entry.2.toText)) =
      (.ok pairs : Except String _) := by
    rw [Json.mapM_eq_ok, List.forall₂_map_right_iff, List.forall₂_same]
    intro entry hmem
    obtain ⟨text, htoText, heq⟩ := hentry entry hmem
    rw [htoText, heq]
    rfl
  refine ⟨sortByName pairs, ?_, pairwise_sortByName pairs, fun name => ?_⟩
  · rw [toTextMap, hmapM]
    rfl
  · rw [find?_sortByName hpairs]
    split
    · rfl
    · next hname =>
      -- A name that no entry has is without a setting, and so without a text.
      have hnone : (table entries).get? name = none := by
        rw [get?, Option.map_eq_none_iff, Setting.entries, List.find?_eq_none]
        intro entry hmem heq
        refine hname (List.mem_map.2 ⟨_, List.mem_map.2 ⟨entry, hmem, rfl⟩, ?_⟩)
        simpa using heq
      have hnoText := htext name
      rw [hnone] at hnoText
      exact Except.ok.inj hnoText

/-! ## The whole configuration -/

/-- A section that is missing is an empty table, if this is its default. -/
theorem valueOr_section {α : Type} {convert : Setting → Except String α} {first v : α}
    {s? : Option Setting} {fields : List (String × Setting)}
    (hfirst : convert (.table []) = .ok first) (hfields : s?.getD (.table []) = .table fields)
    (h : convert (.table fields) = .ok v) : valueOr convert first s? = .ok v := by
  rw [← hfields] at h
  cases s? with
  | none => exact hfirst.symm.trans h
  | some s => exact h

theorem get?_eq_at? (s : Setting) (name : String) : s.get? name = s.at? [name] := by
  rw [at?]
  cases s.get? name <;> rfl

theorem at?_append (s : Setting) (front back : List String) :
    s.at? (front ++ back) = (s.at? front).bind (·.at? back) := by
  induction front generalizing s with
  | nil => rfl
  | cons name front ih =>
    rw [List.cons_append, at?, at?, Option.bind_assoc]
    exact congrArg _ (funext ih)

theorem ProperIfAny.exists_table {s? : Option Setting} (h : ProperIfAny s?) :
    ∃ entries, s?.getD (.table []) = .table entries ∧ (entries.map (·.1)).Nodup := by
  obtain ⟨htable, hnodup⟩ := h.getD
  cases hs : s?.getD (.table []) with
  | table entries =>
    rw [hs] at hnodup
    exact ⟨entries, rfl, hnodup⟩
  | _ =>
    rw [hs] at htable
    cases htable

/-- A section is a proper table, if need be an empty one, of what stands under its names. -/
theorem exists_section {s : Setting} {names : List String} (h : ProperIfAny (s.at? names)) :
    ∃ entries, (s.at? names).getD (.table []) = .table entries ∧ (entries.map (·.1)).Nodup ∧
      ∀ field, (table entries).get? field = s.at? (names ++ [field]) := by
  obtain ⟨entries, htable, hnodup⟩ := h.exists_table
  refine ⟨entries, htable, hnodup, fun field => ?_⟩
  rw [← htable, get?_eq_at?, at?_getD_table, at?_append]

/-- **A table whose sections are tables and whose settings all have a value is a configuration**,
and the configuration has the value of every setting. -/
theorem exists_toConfig {entries : List (String × Setting)}
    (hsections : ∀ names ∈ Config.sections, ProperIfAny ((table entries).at? names))
    (hkeys : ∀ {α : Type} (key : Config.Key α),
      ∃ v, valueOr key.convert (key.value .default) ((table entries).at? key.names) = .ok v) :
    ∃ c, toConfig (.table entries) = .ok c ∧ c.logging.modules.Pairwise (·.1 < ·.1) ∧
      ∀ {α : Type} (key : Config.Key α),
        valueOr key.convert (key.value .default) ((table entries).at? key.names) =
          .ok (key.value c) := by
  choose valueOf hvalue using @hkeys
  obtain ⟨backend, hbackend, -, hofBackend⟩ := exists_section (hsections ["backend"] (by decide))
  obtain ⟨resolver, hresolver, -, hofResolver⟩ :=
    exists_section (hsections ["resolver"] (by decide))
  obtain ⟨logging, hlogging, -, hofLogging⟩ := exists_section (hsections ["logging"] (by decide))
  obtain ⟨modules, hmodules, hnodup, hofModules⟩ :=
    exists_section (hsections ["logging", "modules"] (by decide))
  obtain ⟨levels, hlevels, hascending, hfind⟩ :=
    exists_toTextMap hnodup fun name =>
      (congrArg _ (hofModules name)).trans (hvalue (.module name))
  let c : Config :=
    ⟨⟨valueOf .url, valueOf .connectTimeout, valueOf .requestTimeout⟩, ⟨valueOf .maxPasses⟩,
      ⟨valueOf .enabled, valueOf .level, valueOf .format, valueOf .output, valueOf .file,
        valueOf .color, levels⟩⟩
  refine ⟨c, toConfig_eq_ok ?_ ?_ ?_, hascending, ?_⟩
  · rw [get?_eq_at?]
    refine valueOr_section rfl hbackend ?_
    exact toBackend_eq_ok ((congrArg _ (hofBackend _)).trans (hvalue .url))
      ((congrArg _ (hofBackend _)).trans (hvalue .connectTimeout))
      ((congrArg _ (hofBackend _)).trans (hvalue .requestTimeout))
  · rw [get?_eq_at?]
    refine valueOr_section rfl hresolver ?_
    exact toResolver_eq_ok ((congrArg _ (hofResolver _)).trans (hvalue .maxPasses))
  · rw [get?_eq_at?]
    refine valueOr_section rfl hlogging ?_
    refine toLogging_eq_ok ((congrArg _ (hofLogging _)).trans (hvalue .enabled))
      ((congrArg _ (hofLogging _)).trans (hvalue .level))
      ((congrArg _ (hofLogging _)).trans (hvalue .format))
      ((congrArg _ (hofLogging _)).trans (hvalue .output))
      ((congrArg _ (hofLogging _)).trans (hvalue .file))
      ((congrArg _ (hofLogging _)).trans (hvalue .color)) ?_
    rw [hofLogging]
    exact valueOr_section rfl hmodules hlevels
  · intro α key
    cases key with
    | module name => exact (hvalue (.module name)).trans (congrArg _ (hfind name).symm)
    | _ => exact hvalue _

end Setting

end UiPolicy
