import UiPolicy.Proofs.Element.Walk
import UiPolicy.Proofs.Json.Reads
import UiPolicy.Submission

/-!
# Encoding and decoding

Attributes, requests, policies and trees are read back from their encoding: their fields are, and
for a record that is enough (`Json.Record.Lawful.reads`). The tags of a policy are open, and an encoder
writes their labels only. So a policy is read back if its tags are the ones that their labels stand
for, which `Policy.Canonical` says, and every policy that is decoded is such a one.

A tree is decoded with a bound on its levels, taken from the depth of its draft. The bound never
counts: `ElementNode.decode_eq` says that a tree is a record whose children are trees again.
-/

namespace UiPolicy

open Json (Reads Fills Field Decoder Origin Draft Record decodeValue)
open Json.Field (required_eq optional_eq commutes_store keeps_store)

/-! ## Attributes and requests -/

theorem Attribute.lawful : record.Lawful :=
  ⟨by decide, by simp [record, required_eq, commutes_store]⟩

theorem Attribute.reads (a : Attribute) : Reads decode a.toJson a :=
  lawful.reads <|
    .cons ((Reads.string a.id).map _) <|
    .cons ((Reads.string a.key).map _) <|
    .cons ((Reads.string a.value).map _) <| .nil a

theorem Context.Entry.lawful : record.Lawful :=
  ⟨by decide, by simp [record, required_eq, commutes_store]⟩

theorem Context.Entry.reads (e : Context.Entry) : Reads decode e.toJson e :=
  lawful.reads <|
    .cons ((Reads.string e.key).map _) <|
    .cons ((Reads.string e.value).map _) <| .nil e

theorem SolverRequest.lawful : record.Lawful :=
  ⟨by decide, by simp [record, required_eq, optional_eq, commutes_store]⟩

theorem SolverRequest.reads (r : SolverRequest) : Reads decode r.toJson r :=
  lawful.reads <|
    .cons ((Reads.string r.function).map _) <|
    .cons ((Reads.list fun e _ => Context.Entry.reads e).map _) <| .nil r

/-! ## Policies -/

namespace Policy

/-- The tags of a policy are the ones that some labels stand for. -/
def Canonical (p : Policy) : Prop :=
  (∃ label, p.action = .ofLabel label) ∧ ∃ label, p.interaction = .ofLabel label

theorem lawful : record.Lawful :=
  ⟨by decide, by simp [record, required_eq, commutes_store]⟩

/-- A policy is decoded with the tags that its labels stand for. -/
theorem reads_ofLabel (p : Policy) :
    Reads decode p.toJson ⟨.ofLabel p.action.label, .ofLabel p.interaction.label, p.text⟩ :=
  lawful.reads <|
    .cons ((Reads.string p.action.label).map _) <|
    .cons ((Reads.string p.interaction.label).map _) <|
    .cons ((Reads.string p.text).map _) <| .nil _

theorem Canonical.reads {p : Policy} (h : p.Canonical) : Reads decode p.toJson p := by
  have hread := reads_ofLabel p
  obtain ⟨⟨label, haction⟩, label', hinteraction⟩ := h
  rw [haction, hinteraction, Action.label_ofLabel, Interaction.label_ofLabel, ← haction,
    ← hinteraction] at hread
  exact hread

theorem canonical_of_decode {origin : Origin} {draft : Draft} {p : Policy}
    (h : decode origin draft = .ok p) : p.Canonical := by
  refine Record.of_decode ⟨⟨"click", rfl⟩, "update", rfl⟩ ?_ h
  simp only [record, required_eq, List.forall_mem_cons, List.not_mem_nil, false_implies,
    implies_true, and_true]
  refine ⟨?_, ?_, ?_⟩
  · exact keeps_store fun _ _ label _ _ hp => ⟨⟨label, rfl⟩, hp.2⟩
  · exact keeps_store fun _ _ label _ _ hp => ⟨hp.1, label, rfl⟩
  · exact keeps_store fun _ _ _ _ _ hp => hp

end Policy

/-! ## Trees -/

namespace ElementNode

/-- A node hangs only on what is made of the drafts inside its own. -/
theorem record_congr {decodeChild decodeChild' : Decoder ElementNode} {origin : Origin}
    {draft : Draft}
    (h : ∀ origin child, child.depth < draft.depth →
      decodeChild origin child = decodeChild' origin child) :
    (record decodeChild).decode origin draft = (record decodeChild').decode origin draft := by
  refine Record.decode_congr rfl rfl ?_
  have hchildren : ∀ origin items, items.depth < draft.depth →
      Json.decodeList decodeChild origin items = Json.decodeList decodeChild' origin items := by
    intro origin items hitems
    exact Json.decodeList_congr fun child hchild => h origin child (Nat.lt_trans hchild hitems)
  refine .cons (.refl _ _) <| .cons (.refl _ _) <| .cons (.refl _ _) <| .cons (.refl _ _) <|
    .cons (.refl _ _) <| .cons ⟨rfl, rfl, rfl, ?_⟩ .nil
  intro origin items n hitems
  simp only [Field.optional, hchildren origin items hitems]

/-- More levels than the draft has make no difference. -/
theorem decodeLevels_eq {levels levels' : Nat} {origin : Origin} {draft : Draft}
    (h : draft.depth < levels) (h' : draft.depth < levels') :
    decodeLevels levels origin draft = decodeLevels levels' origin draft := by
  -- a child has a smaller depth, so one level less is still enough for it
  induction levels generalizing levels' origin draft with
  | zero => exact absurd h (Nat.not_lt_zero _)
  | succ levels ih =>
    obtain ⟨levels', rfl⟩ := Nat.exists_eq_succ_of_ne_zero (Nat.ne_zero_of_lt h')
    refine record_congr fun origin child hchild => ih ?_ ?_
    · exact Nat.lt_of_lt_of_le hchild (Nat.le_of_lt_succ h)
    · exact Nat.lt_of_lt_of_le hchild (Nat.le_of_lt_succ h')

/-- A tree is a record whose children are trees. -/
theorem decode_eq : decode = (record decode).decode := by
  funext origin draft
  exact record_congr fun origin child hchild => decodeLevels_eq hchild (Nat.lt_succ_self _)

/-- Every policy in the tree is one that its labels stand for. -/
def Canonical (n : ElementNode) : Prop :=
  ∀ m ∈ n.walk, ∀ p ∈ m.policies, p.Canonical

theorem mem_preorderAll {m : ElementNode} {ns : List ElementNode} :
    m ∈ preorderAll ns ↔ ∃ n ∈ ns, m ∈ n.preorder := by
  induction ns with
  | nil => simp [preorderAll]
  | cons n ns ih => simp [preorderAll, ih]

theorem canonical_iff {n : ElementNode} :
    n.Canonical ↔ (∀ p ∈ n.policies, p.Canonical) ∧ ∀ c ∈ n.children, c.Canonical := by
  cases n with
  | mk id type parent attributes policies children =>
    simp only [Canonical, walk_eq_preorder, preorder, List.forall_mem_cons, mem_preorderAll]
    constructor
    · rintro ⟨hpolicies, hbelow⟩
      exact ⟨hpolicies, fun c hc m hm => hbelow m ⟨c, hc, hm⟩⟩
    · rintro ⟨hpolicies, hchildren⟩
      refine ⟨hpolicies, ?_⟩
      rintro m ⟨c, hc, hm⟩
      exact hchildren c hc m hm

theorem Canonical.of_eq {m n : ElementNode} (h : n.Canonical) (hpolicies : m.policies = n.policies)
    (hchildren : m.children = n.children) : m.Canonical := by
  rw [canonical_iff, hpolicies, hchildren]
  exact canonical_iff.1 h

theorem canonical_of_decodeLevels {levels : Nat} {origin : Origin} {draft : Draft}
    {n : ElementNode} (h : decodeLevels levels origin draft = .ok n) : n.Canonical := by
  induction levels generalizing origin draft n with
  | zero => cases h
  | succ levels ih =>
    have hstart : (record (decodeLevels levels)).start.Canonical :=
      canonical_iff.2 ⟨by simp [record, policies], by simp [record, children]⟩
    refine Record.of_decode hstart ?_ h
    simp only [record, required_eq, optional_eq, List.forall_mem_cons, List.not_mem_nil,
      false_implies, implies_true, and_true]
    -- the policies of a tree are those of the node and those of its children
    refine ⟨?id, ?type, ?parent, ?attributes, ?policies, ?children⟩
    case policies =>
      refine keeps_store fun origin draft policies n hpolicies hn => ?_
      refine canonical_iff.2 ⟨?_, (canonical_iff.1 hn).2⟩
      intro p hp
      obtain ⟨item, hitem⟩ := Json.exists_of_mem_decodeList hpolicies hp
      exact Policy.canonical_of_decode hitem
    case children =>
      refine keeps_store fun origin draft children n hchildren hn => ?_
      refine canonical_iff.2 ⟨(canonical_iff.1 hn).1, ?_⟩
      intro c hc
      obtain ⟨item, hitem⟩ := Json.exists_of_mem_decodeList hchildren hc
      exact ih hitem
    all_goals exact keeps_store fun _ _ _ _ _ hn => hn.of_eq rfl rfl

theorem canonical_of_decode {origin : Origin} {draft : Draft} {n : ElementNode}
    (h : decode origin draft = .ok n) : n.Canonical :=
  canonical_of_decodeLevels h

theorem lawful (decodeChild : Decoder ElementNode) : (record decodeChild).Lawful := by
  constructor
  · simp [record, required_eq, optional_eq]
  · simp [record, required_eq, optional_eq, commutes_store, id, type, parent, attributes, policies,
      children]

theorem childrenToJson_eq_map (ns : List ElementNode) : childrenToJson ns = ns.map toJson := by
  induction ns with
  | nil => rfl
  | cons n ns ih => rw [childrenToJson, ih, List.map_cons]

theorem Canonical.reads : ∀ {n : ElementNode}, n.Canonical → Reads decode n.toJson n
  | mk id type parent attributes policies children, h => by
    obtain ⟨hpolicies, hchildren⟩ := canonical_iff.1 h
    have hbelow : Reads (Json.decodeList decode) (.array (childrenToJson children)) children := by
      rw [childrenToJson_eq_map]
      exact Reads.list fun c hc => (hchildren c hc).reads
    rw [decode_eq]
    exact (lawful decode).reads <|
      .cons ((Reads.string id).map _) <|
      .cons ((Reads.string type).map _) <|
      .cons ((Reads.string parent).map _) <|
      .cons ((Reads.list fun a _ => a.reads).map _) <|
      .cons ((Reads.list fun p hp => (hpolicies p hp).reads).map _) <|
      .cons (hbelow.map _) <| .nil _

end ElementNode

/-! ## Round trips -/

/-- **What is decoded is what was encoded.** Attributes and requests are decoded from their values
to themselves. Policies and trees are exactly if their tags are the ones that labels stand for; for
a tree this holds for a value already read and for the value of a text. So every tree that is
decoded, from a value or from a text, is decoded once more from its own value. -/
theorem decodeValue_toJson :
    (∀ n : ElementNode, (decodeValue ElementNode.decode n.toJson = .ok n ↔ n.Canonical) ∧
      (ElementNode.decode .text (.ofJson n.toJson) = .ok n ↔ n.Canonical)) ∧
    (∀ p : Policy, decodeValue Policy.decode p.toJson = .ok p ↔ p.Canonical) ∧
    (∀ a : Attribute, decodeValue Attribute.decode a.toJson = .ok a) ∧
    (∀ r : SolverRequest, decodeValue SolverRequest.decode r.toJson = .ok r) ∧
    (∀ value n, decodeValue ElementNode.decode value = .ok n →
      decodeValue ElementNode.decode n.toJson = .ok n) ∧
    ∀ text n, ElementNode.decodeTree text = .ok n →
      decodeValue ElementNode.decode n.toJson = .ok n := by
  refine ⟨?_, ?_, fun a => a.reads.decodeValue_eq, fun r => r.reads.decodeValue_eq, ?_, ?_⟩
  · intro n
    exact ⟨⟨ElementNode.canonical_of_decode, fun h => h.reads.decodeValue_eq⟩,
      ⟨ElementNode.canonical_of_decode, fun h => h.reads.written .text⟩⟩
  · intro p
    exact ⟨Policy.canonical_of_decode, fun h => h.reads.decodeValue_eq⟩
  · intro value n h
    exact (ElementNode.canonical_of_decode h).reads.decodeValue_eq
  · intro text n h
    obtain ⟨draft, hdecode⟩ := Json.exists_of_decodeText h
    exact (ElementNode.canonical_of_decode hdecode).reads.decodeValue_eq

/-- A value with a field too many, a label that is not known and a child written as a list, and a
text without the fields that may be left out. -/
theorem decodeValue_toJson_button :
    let policy : Json := .object [("policy", .string "p"), ("actionType", .string "hover"),
      ("interactionType", .string "update")]
    let value : Json := .object [("type", .string "button"), ("id", .string "b"), ("note", .null),
      ("do", .array [policy]), ("children", .array [.array [.string "c", .string "label"]])]
    let button := ElementNode.mk "b" "button" "" [] [⟨.unknown "hover", .update, "p"⟩]
      [.mk "c" "label" "" [] [] []]
    let text := "\x7b\"type\":\"root\",\"id\":\"r\"\x7d"
    (decodeValue ElementNode.decode value = .ok button ∧
      decodeValue ElementNode.decode button.toJson = .ok button) ∧
    ∃ root, ElementNode.decodeTree text = .ok root ∧ root.id = "r" ∧
      decodeValue ElementNode.decode root.toJson = .ok root := by
  intro policy value button text
  obtain ⟨-, -, -, -, hvalue, htext⟩ := decodeValue_toJson
  have hbutton : decodeValue ElementNode.decode value = .ok button := rfl
  have hid : (ElementNode.decodeTree text).toOption.map ElementNode.id = some "r" := by
    decide +kernel
  refine ⟨⟨hbutton, hvalue value button hbutton⟩, ?_⟩
  cases hroot : ElementNode.decodeTree text with
  | error e =>
    rw [hroot] at hid
    cases hid
  | ok root =>
    rw [hroot] at hid
    exact ⟨root, rfl, Option.some.inj hid, htext text root hroot⟩

end UiPolicy
