import UiPolicy.Proofs.Json.Record
import Mathlib.Data.List.Nodup

/-!
# Values that are read back

A value is decoded with its members as they are written, where it is the value of a text, or sorted
by name, where it is a value already read. `Reads` says that it is decoded to the same either way;
it is what an encoder and its decoder owe each other.

`Reads.string`, `Reads.list` and `Record.Lawful.reads` are the cases of a string, a list and a record. For
a record it is enough to read its fields back in their order, which `Fills` says: sorting puts the
members into another order (`sortedMembers_perm`), and the order does not matter.
-/

namespace UiPolicy.Json

/-- A value is decoded to the given one, whether its members are sorted by name or not. -/
structure Reads {α : Type} (decode : Decoder α) (value : Json) (a : α) : Prop where
  written : ∀ origin, decode origin (.ofJson value) = .ok a
  sorted : ∀ origin, decode origin (.ofJson value.sorted) = .ok a

namespace Reads

variable {α β : Type} {decode : Decoder α} {value : Json} {a : α}

theorem decodeValue_eq (h : Reads decode value a) : decodeValue decode value = .ok a :=
  h.sorted .value

theorem map (h : Reads decode value a) (f : α → β) :
    Reads (fun origin draft => f <$> decode origin draft) value (f a) :=
  ⟨fun origin => map_eq_ok.2 ⟨a, h.written origin, rfl⟩,
    fun origin => map_eq_ok.2 ⟨a, h.sorted origin, rfl⟩⟩

theorem string (s : String) : Reads decodeString (.string s) s :=
  ⟨fun _ => rfl, fun _ => rfl⟩

end Reads

/-! ## Lists -/

theorem ofItems_eq_map (items : List Json) : Draft.ofItems items = items.map Draft.ofJson := by
  induction items with
  | nil => rfl
  | cons item items ih => rw [Draft.ofItems, ih, List.map_cons]

theorem sortedItems_eq_map (items : List Json) : sortedItems items = items.map sorted := by
  induction items with
  | nil => rfl
  | cons item items ih => rw [sortedItems, ih, List.map_cons]

theorem Reads.list {α : Type} {decode : Decoder α} {encode : α → Json} {as : List α}
    (h : ∀ a ∈ as, Reads decode (encode a) a) :
    Reads (decodeList decode) (.ofList encode as) as := by
  constructor
  · intro origin
    refine decodeList_eq_ok.2 ⟨_, .closed, rfl, ?_, rfl⟩
    rw [ofItems_eq_map, List.map_map, List.forall₂_map_left_iff, List.forall₂_same]
    exact fun a ha => (h a ha).written origin
  · intro origin
    refine decodeList_eq_ok.2 ⟨_, .closed, rfl, ?_, rfl⟩
    rw [ofItems_eq_map, sortedItems_eq_map, List.map_map, List.map_map,
      List.forall₂_map_left_iff, List.forall₂_same]
    exact fun a ha => (h a ha).sorted origin

/-! ## Sorted members -/

theorem ofMembers_eq_map (members : List (String × Json)) :
    Draft.ofMembers members = members.map fun m => (⟨.ok m.1, none⟩, .ofJson m.2) := by
  induction members with
  | nil => rfl
  | cons member members ih => rw [Draft.ofMembers, ih, List.map_cons]

theorem insertMember_perm {name : String} {value : Json} {members : List (String × Json)}
    (h : name ∉ members.map (·.1)) :
    (insertMember name value members).Perm ((name, value) :: members) := by
  induction members with
  | nil => exact .refl _
  | cons member members ih =>
    obtain ⟨other, old⟩ := member
    obtain ⟨hne, hmem⟩ := not_or.1 (mt List.mem_cons.2 h)
    unfold insertMember
    split
    · exact .refl _
    · exact ((ih hmem).cons (other, old)).trans (.swap _ _ _)

/-- Sorting the members of an object by name puts them into another order, and sorts their values. -/
theorem sortedMembers_perm {members done : List (String × Json)}
    (h : ((members ++ done).map (·.1)).Nodup) :
    (sortedMembers members done).Perm (members.map (fun m => (m.1, m.2.sorted)) ++ done) := by
  induction members generalizing done with
  | nil => exact .refl _
  | cons member members ih =>
    obtain ⟨name, value⟩ := member
    obtain ⟨hname, hnodup⟩ := List.nodup_cons.1 h
    have hinsert : (insertMember name value.sorted done).Perm ((name, value.sorted) :: done) :=
      insertMember_perm fun hmem => hname (by simp [hmem])
    have hmoved : (members.map (fun m => (m.1, m.2.sorted)) ++
        insertMember name value.sorted done).Perm
          ((name, value.sorted) :: (members.map (fun m => (m.1, m.2.sorted)) ++ done)) :=
      (hinsert.append_left _).trans List.perm_middle
    refine (ih ?_).trans hmoved
    have hnames : ((members ++ insertMember name value.sorted done).map (·.1)).Perm
        (name :: (members ++ done).map (·.1)) :=
      ((hinsert.append_left members).trans List.perm_middle).map (·.1)
    exact hnames.nodup_iff.2 h

/-! ## Records -/

/-- Members that are written for fields, in the order of the fields, lead from one record to
another. -/
inductive Fills {ρ : Type} : List (Field ρ) → List (String × Json) → ρ → ρ → Prop
  | nil (record : ρ) : Fills [] [] record record
  | cons {field : Field ρ} {fields value members} {record filled record' : ρ}
      (h : Reads (fun origin draft => field.fill origin draft record) value filled)
      (rest : Fills fields members filled record') :
      Fills (field :: fields) ((field.name, value) :: members) record record'

namespace Fills

variable {ρ : Type} {fields : List (Field ρ)} {members : List (String × Json)} {record record' : ρ}

theorem names_eq (h : Fills fields members record record') :
    members.map (·.1) = fields.map (·.name) := by
  induction h with
  | nil => rfl
  | cons _ _ ih => rw [List.map_cons, List.map_cons, ih]

/-- Members that are written for fields are taken, with their values put into any order in which
they are read back. -/
theorem takes (h : Fills fields members record record') {all : List (Field ρ)} {origin : Origin}
    {order : Json → Json} (horder : ∀ (decode : Decoder ρ) (value : Json) (a : ρ),
      Reads decode value a → decode origin (.ofJson (order value)) = .ok a)
    (hall : ∀ f ∈ fields, all.find? (·.name = f.name) = some f) {seen : List String}
    (hseen : ∀ f ∈ fields, f.name ∉ seen) (hnames : (fields.map (·.name)).Nodup) :
    Record.Takes all origin (Draft.ofMembers (members.map fun m => (m.1, order m.2))) seen record
      ((fields.map (·.name)).reverse ++ seen) record' := by
  induction h generalizing seen with
  | nil record => exact .done seen record
  | @cons field fields value members record filled record' hvalue rest ih =>
    obtain ⟨hfield, hfields⟩ := List.forall_mem_cons.1 hall
    obtain ⟨hfresh, hseen⟩ := List.forall_mem_cons.1 hseen
    obtain ⟨hname, hnames⟩ := List.nodup_cons.1 hnames
    have hlater : ∀ f ∈ fields, f.name ∉ field.name :: seen := by
      intro f hf hmem
      rcases List.mem_cons.1 hmem with heq | hmem
      · exact hname (List.mem_map.2 ⟨f, hf, heq⟩)
      · exact hseen f hf hmem
    rw [List.map_cons (l := fields), List.reverse_cons, List.append_assoc]
    exact .known rfl hfield hfresh (horder _ value filled hvalue)
      (ih hfields hlater hnames)

end Fills

theorem find?_name {ρ : Type} {fields : List (Field ρ)} (h : (fields.map (·.name)).Nodup)
    {field : Field ρ} (hmem : field ∈ fields) :
    fields.find? (·.name = field.name) = some field := by
  induction fields with
  | nil => cases hmem
  | cons first fields ih =>
    obtain ⟨hfirst, hfields⟩ := List.nodup_cons.1 h
    rcases List.mem_cons.1 hmem with rfl | hmem
    · rw [List.find?_cons_of_pos (by simp)]
    · rw [List.find?_cons_of_neg, ih hfields hmem]
      have hne : first.name ≠ field.name := fun heq => hfirst (List.mem_map.2 ⟨field, hmem, heq.symm⟩)
      simpa using hne

/-- The fields of a record have names of their own, and no field undoes what another one does. -/
structure Record.Lawful {ρ : Type} (kind : Record ρ) : Prop where
  names : (kind.fields.map (·.name)).Nodup
  commutes : kind.fields.Pairwise Field.Commutes

/-- A record is read back from an object with one member for each field, in the order of the
fields. -/
theorem Record.Lawful.reads {ρ : Type} {kind : Record ρ} {members : List (String × Json)}
    {record : ρ} (hkind : kind.Lawful) (h : Fills kind.fields members kind.start record) :
    Reads kind.decode (.object members) record := by
  have hdecode : ∀ (origin : Origin) (order : Json → Json),
      (∀ (decode : Decoder ρ) (value : Json) (a : ρ),
        Reads decode value a → decode origin (.ofJson (order value)) = .ok a) →
      kind.decode origin (.object false
        (Draft.ofMembers (members.map fun m => (m.1, order m.2))) .closed) = .ok record := by
    intro origin order horder
    refine Record.decode_object_eq_ok.2 ⟨_, h.takes horder
      (fun f hf => find?_name hkind.names hf) (fun _ _ => List.not_mem_nil) hkind.names, rfl, ?_⟩
    simp only [Record.missing?, List.find?_eq_none, List.append_nil, List.contains_eq_mem,
      List.mem_reverse]
    intro f hf
    simp [List.mem_map_of_mem hf]
  constructor
  · intro origin
    have hwritten := hdecode origin id fun _ _ _ hvalue => hvalue.written origin
    simp only [id, List.map_id'] at hwritten
    exact hwritten
  · intro origin
    have hsorted := hdecode origin sorted fun _ _ _ hvalue => hvalue.sorted origin
    refine Record.decode_perm hkind.commutes ?_ hsorted
    rw [ofMembers_eq_map, ofMembers_eq_map]
    have hperm : (sortedMembers members []).Perm (members.map (fun m => (m.1, m.2.sorted)) ++ []) :=
      sortedMembers_perm (by rw [List.append_nil, h.names_eq]; exact hkind.names)
    rw [List.append_nil] at hperm
    exact (hperm.map _).symm

end UiPolicy.Json
