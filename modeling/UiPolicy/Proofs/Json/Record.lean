import UiPolicy.Json.Decode
import Mathlib.Data.List.Forall2
import Mathlib.Data.List.Pairwise

/-!
# Records

What holds of every kind of record, whatever its fields are.

* `Record.of_decode`: what holds of the value before any field is filled, and is kept by every
  field, holds of every record that is decoded, from an object or from a list.
* `Record.decode_congr`: a record of a draft hangs only on what its fields make of the drafts
  inside.
* `Record.decode_perm`: the members of an object may stand in any order, as long as no field
  undoes what another one does.

The walk over the members of an object is read off `Takes`, one rule for each kind of member.
-/

namespace UiPolicy.Json

theorem bind_eq_ok {ε α β : Type} {x : Except ε α} {f : α → Except ε β} {b : β} :
    x >>= f = .ok b ↔ ∃ a, x = .ok a ∧ f a = .ok b := by
  cases x with
  | ok a => simp [bind, Except.bind]
  | error e => simp [bind, Except.bind]

theorem map_eq_ok {ε α β : Type} {x : Except ε α} {f : α → β} {b : β} :
    f <$> x = .ok b ↔ ∃ a, x = .ok a ∧ f a = b := by
  cases x with
  | ok a => simp [Functor.map, Except.map]
  | error e => simp [Functor.map, Except.map]

theorem ofFault_eq_ok {α : Type} {x : Except Fault α} {a : α} :
    ofFault x = .ok a ↔ x = .ok a := by
  cases x with
  | ok b => simp [ofFault]
  | error f => simp [ofFault]

/-! ## Lists -/

theorem mapM_eq_ok {ε α β : Type} {f : α → Except ε β} {items : List α} {as : List β} :
    items.mapM f = .ok as ↔ List.Forall₂ (fun item a => f item = .ok a) items as := by
  induction items generalizing as with
  | nil =>
    rw [List.mapM_nil, List.forall₂_nil_left_iff]
    exact ⟨fun h => (Except.ok.inj h).symm, fun h => h ▸ rfl⟩
  | cons item items ih =>
    rw [List.mapM_cons, bind_eq_ok, List.forall₂_cons_left_iff]
    constructor
    · rintro ⟨a, ha, h⟩
      obtain ⟨rest, hrest, h⟩ := bind_eq_ok.1 h
      exact ⟨a, rest, ha, ih.1 hrest, (Except.ok.inj h).symm⟩
    · rintro ⟨a, rest, ha, hrest, rfl⟩
      exact ⟨a, ha, bind_eq_ok.2 ⟨rest, ih.2 hrest, rfl⟩⟩

/-- A list is decoded item by item, and ends well. -/
theorem decodeList_eq_ok {α : Type} {decode : Decoder α} {origin : Origin} {draft : Draft}
    {as : List α} :
    decodeList decode origin draft = .ok as ↔
      ∃ items close, draft = .array false items close ∧
        List.Forall₂ (fun item a => decode origin item = .ok a) items as ∧
        Draft.keptListClose close = .ok () := by
  constructor
  · intro h
    unfold decodeList at h
    split at h
    · cases h
    · next items close =>
      obtain ⟨as', hitems, h⟩ := bind_eq_ok.1 h
      obtain ⟨⟨⟩, hclose, h⟩ := bind_eq_ok.1 h
      cases h
      exact ⟨items, close, rfl, mapM_eq_ok.1 hitems, ofFault_eq_ok.1 hclose⟩
    · cases h
  · rintro ⟨items, close, rfl, hitems, hclose⟩
    exact bind_eq_ok.2 ⟨as, mapM_eq_ok.2 hitems,
      bind_eq_ok.2 ⟨(), ofFault_eq_ok.2 hclose, rfl⟩⟩

theorem exists_of_mem_decodeList {α : Type} {decode : Decoder α} {origin : Origin} {draft : Draft}
    {as : List α} (h : decodeList decode origin draft = .ok as) {a : α} (ha : a ∈ as) :
    ∃ item, decode origin item = .ok a := by
  obtain ⟨items, close, -, hitems, -⟩ := decodeList_eq_ok.1 h
  clear h
  induction hitems with
  | nil => cases ha
  | cons hitem _ ih =>
    rcases List.mem_cons.1 ha with rfl | ha
    · exact ⟨_, hitem⟩
    · exact ih ha

theorem decodeList_congr {α : Type} {decode decode' : Decoder α} {origin : Origin} {draft : Draft}
    (h : ∀ item, item.depth < draft.depth → decode origin item = decode' origin item) :
    decodeList decode origin draft = decodeList decode' origin draft := by
  have hitems : ∀ items : List Draft, (∀ item, item.depth ≤ Draft.depthOfItems items →
      decode origin item = decode' origin item) →
      items.mapM (decode origin) = items.mapM (decode' origin) := by
    intro items
    induction items with
    | nil => exact fun _ => rfl
    | cons item items ih =>
      intro h
      rw [Draft.depthOfItems] at h
      rw [List.mapM_cons, List.mapM_cons, h item (Nat.le_max_left _ _),
        ih fun item hitem => h item (Nat.le_trans hitem (Nat.le_max_right _ _))]
  cases draft with
  | array tooDeep items close =>
    have hmapM := hitems items fun item hitem => h item (Nat.lt_succ_of_le hitem)
    cases tooDeep with
    | true => rfl
    | false => simp only [decodeList, hmapM]
  | _ => rfl

theorem exists_of_decodeText {α : Type} {decode : Decoder α} {text : String} {a : α}
    (h : decodeText decode text = .ok a) : ∃ draft, decode .text draft = .ok a := by
  unfold decodeText at h
  generalize Draft.ofText (some Draft.nestingLimit) text = reading at h
  obtain ⟨draft, trailing⟩ := reading
  obtain ⟨decoded, hdecode, h⟩ := bind_eq_ok.1 h
  cases trailing with
  | true => cases h
  | false =>
    cases h
    exact ⟨draft, hdecode⟩

/-! ## Fields -/

namespace Field

variable {ρ α β : Type}

/-- What a field does that is decoded and then stored. -/
def store (decode : Decoder α) (set : α → ρ → ρ) (origin : Origin) (draft : Draft) (record : ρ) :
    Except DecodeError ρ :=
  (set · record) <$> decode origin draft

/-- Where two fields are filled in one after the other, it does not matter which comes first. -/
def Commutes (f g : Field ρ) : Prop :=
  ∀ origin first second record record',
    (do g.fill origin second (← f.fill origin first record)) = .ok record' ↔
      (do f.fill origin first (← g.fill origin second record)) = .ok record'

instance : Std.Symm (Commutes (ρ := ρ)) :=
  ⟨fun _ _ h origin first second record record' =>
    (h origin second first record record').symm⟩

theorem required_eq (name : String) (decode : Decoder α) (set : α → ρ → ρ) :
    required name decode set = ⟨name, store decode set, false, false⟩ :=
  rfl

theorem optional_eq (name : String) (decode : Decoder α) (set : α → ρ → ρ) :
    optional name decode set = ⟨name, store decode set, true, true⟩ :=
  rfl

theorem commutes_store {name name' : String} {decode : Decoder α} {decode' : Decoder β}
    {set : α → ρ → ρ} {set' : β → ρ → ρ} {inObject inObject' inList inList' : Bool}
    (h : ∀ a b record, set a (set' b record) = set' b (set a record)) :
    Commutes ⟨name, store decode set, inObject, inList⟩
      ⟨name', store decode' set', inObject', inList'⟩ := by
  intro origin first second record record'
  simp only [store, bind_eq_ok, map_eq_ok]
  constructor
  · rintro ⟨-, ⟨a, ha, rfl⟩, b, hb, rfl⟩
    exact ⟨_, ⟨b, hb, rfl⟩, a, ha, h a b record⟩
  · rintro ⟨-, ⟨b, hb, rfl⟩, a, ha, rfl⟩
    exact ⟨_, ⟨a, ha, rfl⟩, b, hb, (h a b record).symm⟩

/-- A property of records that filling the field in does not take away. -/
def Keeps (P : ρ → Prop) (f : Field ρ) : Prop :=
  ∀ origin draft record record', P record → f.fill origin draft record = .ok record' → P record'

theorem keeps_store {P : ρ → Prop} {name : String} {decode : Decoder α} {set : α → ρ → ρ}
    {inObject inList : Bool}
    (h : ∀ origin draft a record, decode origin draft = .ok a → P record → P (set a record)) :
    Keeps P ⟨name, store decode set, inObject, inList⟩ := by
  intro origin draft record record' hrecord hfill
  obtain ⟨a, ha, rfl⟩ := map_eq_ok.1 hfill
  exact h origin draft a record ha hrecord

/-- Two fields that differ at most in what they make of drafts from a depth on. -/
structure AgreesBelow (depth : Nat) (f g : Field ρ) : Prop where
  name : f.name = g.name
  inObject : f.optionalInObject = g.optionalInObject
  inList : f.optionalInList = g.optionalInList
  fill : ∀ origin draft record, draft.depth < depth →
    f.fill origin draft record = g.fill origin draft record

theorem AgreesBelow.refl (depth : Nat) (f : Field ρ) : f.AgreesBelow depth f :=
  ⟨rfl, rfl, rfl, fun _ _ _ _ => rfl⟩

theorem find?_of_agreesBelow {depth : Nat} {fs gs : List (Field ρ)}
    (h : List.Forall₂ (AgreesBelow depth) fs gs) (p : String → Bool → Bool) :
    Option.Rel (AgreesBelow depth) (fs.find? fun f => p f.name f.optionalInObject)
      (gs.find? fun g => p g.name g.optionalInObject) := by
  induction h with
  | nil => exact .none
  | cons hfg _ ih =>
    rw [List.find?_cons, List.find?_cons, hfg.name, hfg.inObject]
    split
    · exact .some hfg
    · exact ih

end Field

namespace Record

variable {ρ : Type} {fields : List (Field ρ)} {kind : Record ρ} {origin : Origin}

/-! ## The walk over the members -/

/-- The members of an object are taken one by one: a field that has not been seen is filled in,
and a name that no field has is skipped. -/
inductive Takes (fields : List (Field ρ)) (origin : Origin) :
    List (StringDraft × Draft) → List String → ρ → List String → ρ → Prop
  | done (seen : List String) (record : ρ) : Takes fields origin [] seen record seen record
  | known {name : StringDraft} {key : String} {value : Draft} {members} {seen seen' : List String}
      {record filled record' : ρ} {field : Field ρ} (hname : name.kept = .ok key)
      (hfield : fields.find? (·.name = key) = some field) (hseen : key ∉ seen)
      (hfill : field.fill origin value record = .ok filled)
      (rest : Takes fields origin members (key :: seen) filled seen' record') :
      Takes fields origin ((name, value) :: members) seen record seen' record'
  | unknown {name : StringDraft} {key : String} {value : Draft} {members}
      {seen seen' : List String} {record record' : ρ} (hname : name.kept = .ok key)
      (hfield : fields.find? (·.name = key) = none) (hskip : value.skipFault = none)
      (rest : Takes fields origin members seen record seen' record') :
      Takes fields origin ((name, value) :: members) seen record seen' record'

theorem takes_of_decodeMembers {members : List (StringDraft × Draft)} {seen seen' : List String}
    {record record' : ρ}
    (h : decodeMembers fields origin members seen record = .ok (seen', record')) :
    Takes fields origin members seen record seen' record' := by
  induction members generalizing seen record with
  | nil =>
    cases h
    exact .done _ _
  | cons member members ih =>
    obtain ⟨name, value⟩ := member
    rw [decodeMembers] at h
    obtain ⟨key, hkey, h⟩ := bind_eq_ok.1 h
    have hname : name.kept = .ok key := ofFault_eq_ok.1 hkey
    split at h
    · next field hfield =>
      split at h
      · cases h
      · next hseen =>
        obtain ⟨filled, hfill, h⟩ := bind_eq_ok.1 h
        exact .known hname hfield (by simpa using hseen) hfill (ih h)
    · next hfield =>
      split at h
      · cases h
      · next hskip => exact .unknown hname hfield hskip (ih h)

theorem Takes.decodeMembers_eq {members : List (StringDraft × Draft)} {seen seen' : List String}
    {record record' : ρ} (h : Takes fields origin members seen record seen' record') :
    decodeMembers fields origin members seen record = .ok (seen', record') := by
  induction h with
  | done seen record => rfl
  | known hname hfield hseen hfill _ ih =>
    rw [decodeMembers, hname]
    simp only [ofFault, bind, Except.bind, hfield, List.contains_eq_mem, hseen, decide_false,
      hfill]
    exact ih
  | unknown hname hfield hskip _ ih =>
    rw [decodeMembers, hname]
    simp only [ofFault, bind, Except.bind, hfield, hskip]
    exact ih

theorem decode_object_eq_ok {members : List (StringDraft × Draft)} {close : Close} {record : ρ} :
    kind.decode origin (.object false members close) = .ok record ↔
      ∃ seen, Takes kind.fields origin members [] kind.start seen record ∧
        Draft.keptObjectClose close = .ok () ∧ missing? kind.fields seen = none := by
  constructor
  · intro h
    obtain ⟨⟨seen, filled⟩, hmembers, h⟩ := bind_eq_ok.1 h
    obtain ⟨⟨⟩, hclose, h⟩ := bind_eq_ok.1 h
    split at h
    · cases h
    · next hmissing =>
      cases h
      exact ⟨seen, takes_of_decodeMembers hmembers, ofFault_eq_ok.1 hclose, hmissing⟩
  · rintro ⟨seen, htakes, hclose, hmissing⟩
    simp only [decode, htakes.decodeMembers_eq, hclose, hmissing, ofFault, bind, Except.bind]
    rfl

/-! ## What a record keeps -/

theorem Takes.keeps {P : ρ → Prop} (hfields : ∀ f ∈ fields, f.Keeps P)
    {members : List (StringDraft × Draft)} {seen seen' : List String} {record record' : ρ}
    (h : Takes fields origin members seen record seen' record') (hrecord : P record) :
    P record' := by
  induction h with
  | done seen record => exact hrecord
  | known _ hfield _ hfill _ ih =>
    exact ih (hfields _ (List.mem_of_find?_eq_some hfield) _ _ _ _ hrecord hfill)
  | unknown _ _ _ _ ih => exact ih hrecord

theorem keeps_decodeItems {P : ρ → Prop} {total : Nat} {close : Close} {index : Nat}
    {items : List Draft} {record record' : ρ} (hfields : ∀ f ∈ fields, f.Keeps P)
    (h : decodeItems kind total close origin index fields items record = .ok record')
    (hrecord : P record) : P record' := by
  induction fields generalizing index items record with
  | nil =>
    rw [decodeItems] at h
    obtain ⟨-, -, h⟩ := bind_eq_ok.1 h
    cases h
    exact hrecord
  | cons field fields ih =>
    obtain ⟨hfield, hfields⟩ := List.forall_mem_cons.1 hfields
    cases items with
    | nil =>
      rw [decodeItems] at h
      obtain ⟨-, -, h⟩ := bind_eq_ok.1 h
      split at h
      · exact ih hfields h hrecord
      · cases h
    | cons item items =>
      rw [decodeItems] at h
      obtain ⟨filled, hfill, h⟩ := bind_eq_ok.1 h
      exact ih hfields h (hfield _ _ _ _ hrecord hfill)

theorem of_decode {P : ρ → Prop} (hstart : P kind.start) (hfields : ∀ f ∈ kind.fields, f.Keeps P)
    {draft : Draft} {record : ρ} (h : kind.decode origin draft = .ok record) : P record := by
  match draft, h with
  | .object true _ _, h | .array true _ _, h => cases h
  | .object false members close, h =>
    obtain ⟨seen, htakes, -, -⟩ := decode_object_eq_ok.1 h
    exact htakes.keeps hfields hstart
  | .array false items close, h => exact keeps_decodeItems hfields h hstart
  | .null, h | .bool _, h | .number _ _, h | .string _, h | .absent, h | .fault _, h => cases h

/-! ## What a record hangs on -/

theorem decodeMembers_congr {depth : Nat} {fields' : List (Field ρ)}
    (hfields : List.Forall₂ (Field.AgreesBelow depth) fields fields')
    {members : List (StringDraft × Draft)} (h : Draft.depthOfMembers members < depth)
    (seen : List String) (record : ρ) :
    decodeMembers fields origin members seen record =
      decodeMembers fields' origin members seen record := by
  induction members generalizing seen record with
  | nil => rfl
  | cons member members ih =>
    obtain ⟨name, value⟩ := member
    rw [Draft.depthOfMembers, Nat.max_lt] at h
    rw [decodeMembers, decodeMembers]
    congr 1
    funext key
    have hfind := Field.find?_of_agreesBelow hfields fun name _ => name = key
    generalize fields.find? (fun f => f.name = key) = found,
      fields'.find? (fun f => f.name = key) = found' at hfind ⊢
    cases hfind with
    | none => simp only [ih h.2]
    | some hagree => simp only [hagree.fill _ _ _ h.1, ih h.2]

theorem missing?_congr {depth : Nat} {fields' : List (Field ρ)}
    (hfields : List.Forall₂ (Field.AgreesBelow depth) fields fields') (seen : List String) :
    Option.Rel (Field.AgreesBelow depth) (missing? fields seen) (missing? fields' seen) :=
  Field.find?_of_agreesBelow hfields fun name optional => !optional && !seen.contains name

theorem decodeItems_congr {depth : Nat} {kind kind' : Record ρ} {fields' : List (Field ρ)}
    {total : Nat} {close : Close} (hdescribed : kind.described = kind'.described)
    (hfields : List.Forall₂ (Field.AgreesBelow depth) fields fields')
    {items : List Draft} (h : Draft.depthOfItems items < depth) (index : Nat) (record : ρ) :
    decodeItems kind total close origin index fields items record =
      decodeItems kind' total close origin index fields' items record := by
  induction hfields generalizing items index record with
  | nil => rw [decodeItems, decodeItems]
  | cons hfg _ ih =>
    cases items with
    | nil => rw [decodeItems, decodeItems, hfg.inList, hdescribed, ih h]
    | cons item items =>
      rw [Draft.depthOfItems, Nat.max_lt] at h
      rw [decodeItems, decodeItems, hfg.fill _ _ _ h.1]
      simp only [ih h.2]

/-- The record of a draft hangs on its fields only as far as they look at the drafts inside. -/
theorem decode_congr {kind kind' : Record ρ} {draft : Draft} (hname : kind.name = kind'.name)
    (hstart : kind.start = kind'.start)
    (hfields : List.Forall₂ (Field.AgreesBelow draft.depth) kind.fields kind'.fields) :
    kind.decode origin draft = kind'.decode origin draft := by
  have hdescribed : kind.described = kind'.described := by
    rw [described, described, hname, hfields.length_eq]
  cases draft with
  | object tooDeep members close =>
    cases tooDeep with
    | true => rfl
    | false =>
      have hmembers : decodeMembers kind.fields origin members [] kind.start =
          decodeMembers kind'.fields origin members [] kind.start :=
        decodeMembers_congr hfields (Nat.lt_succ_self _) [] kind.start
      simp only [decode]
      rw [← hstart, hmembers]
      congr 1
      funext ⟨seen, record⟩
      have hmissing := missing?_congr hfields seen
      generalize missing? kind.fields seen = left, missing? kind'.fields seen = left'
        at hmissing ⊢
      cases hmissing with
      | none => rfl
      | some hagree => simp only [hagree.name]
  | array tooDeep items close =>
    cases tooDeep with
    | true => rfl
    | false =>
      simp only [decode, hstart]
      exact decodeItems_congr hdescribed hfields (Nat.lt_succ_self _) 0 kind'.start
  | _ => simp only [decode, hname]

/-! ## The order of the members -/

/-- Which names have been seen matters, but not their order. -/
theorem Takes.of_mem_iff {members : List (StringDraft × Draft)} {seen seen' names : List String}
    {record record' : ρ} (h : Takes fields origin members seen record seen' record')
    (hnames : ∀ key, key ∈ names ↔ key ∈ seen) :
    ∃ names', Takes fields origin members names record names' record' ∧
      ∀ key, key ∈ names' ↔ key ∈ seen' := by
  induction h generalizing names with
  | done seen record => exact ⟨names, .done names record, hnames⟩
  | @known _ key _ _ seen _ _ _ _ _ hname hfield hseen hfill _ ih =>
    have hcons : ∀ k, k ∈ key :: names ↔ k ∈ key :: seen := fun k => by
      simp only [List.mem_cons, hnames]
    obtain ⟨names', htakes, hnames'⟩ := ih hcons
    exact ⟨names', .known hname hfield (mt (hnames key).1 hseen) hfill htakes, hnames'⟩
  | unknown hname hfield hskip _ ih =>
    obtain ⟨names', htakes, hnames'⟩ := ih hnames
    exact ⟨names', .unknown hname hfield hskip htakes, hnames'⟩

/-- Two neighbours may change places. -/
theorem Takes.swap (hfields : fields.Pairwise Field.Commutes) {first second : StringDraft × Draft}
    {members : List (StringDraft × Draft)} {seen seen' : List String} {record record' : ρ}
    (h : Takes fields origin (first :: second :: members) seen record seen' record') :
    ∃ names, Takes fields origin (second :: first :: members) seen record names record' ∧
      ∀ key, key ∈ names ↔ key ∈ seen' := by
  cases h with
  | @known _ key _ _ _ _ _ filled _ f hname hfield hseen hfill rest =>
    cases rest with
    | @known _ key' _ _ _ _ _ filled' _ g hname' hfield' hseen' hfill' rest =>
      obtain ⟨hne, hseen'⟩ := not_or.1 (mt List.mem_cons.2 hseen')
      have hcommutes : f.Commutes g := by
        refine hfields.forall (List.mem_of_find?_eq_some hfield)
          (List.mem_of_find?_eq_some hfield') fun heq => hne ?_
        have hkey := List.find?_some hfield
        have hkey' := List.find?_some hfield'
        simp only [decide_eq_true_eq] at hkey hkey'
        rw [← hkey', ← heq, hkey]
      obtain ⟨between, hsecond, hfirst⟩ := bind_eq_ok.1
        ((hcommutes _ _ _ _ _).1 (bind_eq_ok.2 ⟨filled, hfill, hfill'⟩))
      have hswapped : ∀ k, k ∈ key :: key' :: seen ↔ k ∈ key' :: key :: seen := fun k => by
        simp only [List.mem_cons, or_left_comm]
      obtain ⟨names, htakes, hnames⟩ := rest.of_mem_iff hswapped
      refine ⟨names, .known hname' hfield' hseen' hsecond (.known hname hfield ?_ hfirst htakes),
        hnames⟩
      exact mt List.mem_cons.1 (not_or.2 ⟨Ne.symm hne, hseen⟩)
    | unknown hname' hfield' hskip rest =>
      exact ⟨seen', .unknown hname' hfield' hskip (.known hname hfield hseen hfill rest),
        fun _ => .rfl⟩
  | unknown hname hfield hskip rest =>
    cases rest with
    | known hname' hfield' hseen' hfill' rest =>
      exact ⟨seen', .known hname' hfield' hseen' hfill' (.unknown hname hfield hskip rest),
        fun _ => .rfl⟩
    | unknown hname' hfield' hskip' rest =>
      exact ⟨seen', .unknown hname' hfield' hskip' (.unknown hname hfield hskip rest),
        fun _ => .rfl⟩

theorem Takes.perm (hfields : fields.Pairwise Field.Commutes)
    {members members' : List (StringDraft × Draft)} (hperm : members.Perm members')
    {seen seen' : List String} {record record' : ρ}
    (h : Takes fields origin members seen record seen' record') :
    ∃ names, Takes fields origin members' seen record names record' ∧
      ∀ key, key ∈ names ↔ key ∈ seen' := by
  induction hperm generalizing seen seen' record with
  | nil => exact ⟨seen', h, fun _ => .rfl⟩
  | cons member _ ih =>
    cases h with
    | known hname hfield hseen hfill rest =>
      obtain ⟨names, htakes, hnames⟩ := ih rest
      exact ⟨names, .known hname hfield hseen hfill htakes, hnames⟩
    | unknown hname hfield hskip rest =>
      obtain ⟨names, htakes, hnames⟩ := ih rest
      exact ⟨names, .unknown hname hfield hskip htakes, hnames⟩
  | swap second first members => exact h.swap hfields
  | trans _ _ ih₁ ih₂ =>
    obtain ⟨names₁, htakes₁, hnames₁⟩ := ih₁ h
    obtain ⟨names₂, htakes₂, hnames₂⟩ := ih₂ htakes₁
    exact ⟨names₂, htakes₂, fun key => (hnames₂ key).trans (hnames₁ key)⟩

theorem decode_perm (hfields : kind.fields.Pairwise Field.Commutes)
    {members members' : List (StringDraft × Draft)} (hperm : members.Perm members') {close : Close}
    {record : ρ} (h : kind.decode origin (.object false members close) = .ok record) :
    kind.decode origin (.object false members' close) = .ok record := by
  obtain ⟨seen, htakes, hclose, hmissing⟩ := decode_object_eq_ok.1 h
  obtain ⟨names, htakes', hnames⟩ := htakes.perm hfields hperm
  refine decode_object_eq_ok.2 ⟨names, htakes', hclose, ?_⟩
  simpa only [missing?, List.contains_eq_mem, hnames] using hmissing

end Record

end UiPolicy.Json
