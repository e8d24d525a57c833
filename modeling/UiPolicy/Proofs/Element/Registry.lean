import Mathlib.Data.List.Nodup
import UiPolicy.Proofs.Attribute
import UiPolicy.Proofs.Element.Walk
import UiPolicy.Proofs.Keyed
import UiPolicy.Session

/-!
# The registry of a tree and of what becomes of it

A registry is seen through `get?` and through `ids`. Of the nodes of one id the last in pre-order is
registered (`get?_ofTree`), just as it is the one that an id stands for. Writing an attribute lets
the attributes of one element grow and leaves the others alone: `Grows` says this of any two states
of a registry.
-/

namespace UiPolicy

/-- The element that is registered for a node. -/
def Element.ofNode (node : ElementNode) : Element :=
  ⟨node.id, some node.type, node.attributes, none, none⟩

namespace Registry

/-! ## The views -/

theorem ids_eq (r : Registry) : r.ids = (r.list.map (·.id)).mergeSort (· ≤ ·) :=
  List.map_mergeSort fun _ _ _ _ => rfl

theorem mem_ids {r : Registry} {id : String} : id ∈ r.ids ↔ ∃ e, r.get? id = some e := by
  rw [ids_eq, List.mem_mergeSort, ← Option.isSome_iff_exists, get?, List.find?_isSome]
  simp

theorem id_of_get? {r : Registry} {id : String} {e : Element} (h : r.get? id = some e) :
    e.id = id := by
  simpa using List.find?_some h

/-! ## Registering -/

theorem get?_register (r : Registry) (e : Element) (id : String) :
    (r.register e).get? id = if e.id = id then some e else r.get? id :=
  Keyed.find?_put Element.id putInto (fun _ => rfl) (fun _ _ _ => rfl) e r.list id

theorem map_id_putInto (e : Element) (es : List Element) :
    (putInto e es).map (·.id) =
      if e.id ∈ es.map (·.id) then es.map (·.id) else es.map (·.id) ++ [e.id] := by
  induction es with
  | nil => rfl
  | cons x xs ih =>
    unfold putInto
    by_cases hx : x.id = e.id
    · simp [hx]
    · rw [if_neg hx, List.map_cons, ih, List.map_cons]
      by_cases hmem : e.id ∈ xs.map (·.id)
      · rw [if_pos hmem, if_pos (List.mem_cons_of_mem _ hmem)]
      · have hnot : e.id ∉ x.id :: xs.map (·.id) := fun h =>
          (List.mem_cons.1 h).elim (fun heq => hx heq.symm) hmem
        rw [if_neg hmem, if_neg hnot, List.cons_append]

/-- An id is registered once, however often an element of it is registered. -/
theorem nodup_register {r : Registry} (h : (r.list.map (·.id)).Nodup) (e : Element) :
    ((r.register e).list.map (·.id)).Nodup := by
  have hids : (r.register e).list.map (·.id) =
      if e.id ∈ r.list.map (·.id) then r.list.map (·.id) else r.list.map (·.id) ++ [e.id] :=
    map_id_putInto e r.list
  rw [hids]
  split
  · exact h
  · next hnew =>
    refine List.nodup_append.2 ⟨h, List.nodup_singleton _, fun id hid other hother heq => hnew ?_⟩
    rw [← List.mem_singleton.1 hother, ← heq]
    exact hid

/-- The registry of a tree holds for each id the last node in pre-order that carries it. -/
theorem get?_ofTree (root : ElementNode) (id : String) :
    (ofTree root).get? id = (root.node? id).map Element.ofNode := by
  have hfold := ElementNode.lookup_foldl get? (fun r n => r.register (.ofNode n)) Element.ofNode
    (fun r n id => get?_register r (.ofNode n) id) root.walk .empty id
  rw [show Registry.empty.get? id = none from rfl, Option.or_none,
    ElementNode.walk_eq_preorder] at hfold
  rw [ofTree, ElementNode.walk_eq_preorder]
  exact hfold

/-! ## Changing an element -/

section Modify

variable {f : Element → Element} (hf : ∀ e, (f e).id = e.id) (r : Registry) (id : String)
include hf

theorem ids_modify : (r.modify id f).ids = r.ids := by
  have hsame : (r.modify id f).list.map (·.id) = r.list.map (·.id) := by
    rw [modify, List.map_map]
    refine List.map_congr_left fun e _ => ?_
    rw [Function.comp_apply]
    split
    · exact hf e
    · rfl
  rw [ids_eq, ids_eq, hsame]

theorem get?_modify (other : String) :
    (r.modify id f).get? other = (r.get? other).map fun e => if other = id then f e else e := by
  -- the change keeps the ids, so that the same element is found
  have hkept : ((fun e : Element => decide (e.id = other)) ∘ fun e => if e.id = id then f e else e) =
      fun e => decide (e.id = other) := by
    funext e
    rw [Function.comp_apply]
    split
    · rw [hf]
    · rfl
  rw [get?, modify, List.find?_map, hkept]
  refine Option.map_congr fun e he => ?_
  rw [id_of_get? (r := r) he]

end Modify

theorem ids_setAttributes (r : Registry) (id : String) (attributes : List Attribute) :
    (r.setAttributes id attributes).ids = r.ids := by
  have hf (e : Element) : ({ e with attributes } : Element).id = e.id := rfl
  exact ids_modify hf r id

/-- Setting the attributes of an element leaves the other elements as they are. -/
theorem get?_setAttributes (r : Registry) (id : String) (attributes : List Attribute)
    (other : String) :
    (r.setAttributes id attributes).get? other =
      (r.get? other).map fun e => if other = id then { e with attributes } else e := by
  have hf (e : Element) : ({ e with attributes } : Element).id = e.id := rfl
  exact get?_modify hf r id other

/-! ## Growing -/

/-- Whether an element holds a key, and holds it once. -/
def HoldsOnce (r : Registry) (id key : String) : Prop :=
  ∃ e, r.get? id = some e ∧ (Attribute.keys e.attributes).count key = 1

/-- Whether a registry has come from another by writes of attributes. -/
structure Grows (old new : Registry) : Prop where
  ids : new.ids = old.ids
  attributes : ∀ {id e}, old.get? id = some e →
    ∃ e', new.get? id = some e' ∧ Attribute.Grows e.attributes e'.attributes

namespace Grows

variable {r s t : Registry}

theorem refl (r : Registry) : Grows r r :=
  ⟨rfl, fun h => ⟨_, h, .refl _⟩⟩

theorem trans (h : Grows r s) (h' : Grows s t) : Grows r t where
  ids := h'.ids.trans h.ids
  attributes hr := by
    obtain ⟨e', hs, hgrows⟩ := h.attributes hr
    obtain ⟨e'', ht, hgrows'⟩ := h'.attributes hs
    exact ⟨e'', ht, hgrows.trans hgrows'⟩

theorem setAttributes {id : String} {e : Element} {attributes : List Attribute}
    (hget : r.get? id = some e) (hgrows : Attribute.Grows e.attributes attributes) :
    Grows r (r.setAttributes id attributes) where
  ids := ids_setAttributes r id attributes
  attributes := by
    intro other x hx
    rw [get?_setAttributes, hx]
    by_cases hother : other = id
    · subst hother
      obtain rfl := Option.some.inj (hget.symm.trans hx)
      exact ⟨{ e with attributes }, by simp, hgrows⟩
    · exact ⟨x, by simp [hother], .refl _⟩

/-- An element was there before. -/
theorem exists_old (h : Grows r s) {id : String} {e' : Element} (hs : s.get? id = some e') :
    ∃ e, r.get? id = some e ∧ Attribute.Grows e.attributes e'.attributes := by
  -- the ids are the same, so there was an element of the id, and it has become this one
  have hmem : id ∈ r.ids := h.ids ▸ mem_ids.2 ⟨e', hs⟩
  obtain ⟨e, hr⟩ := mem_ids.1 hmem
  obtain ⟨e'', hs', hgrows⟩ := h.attributes hr
  obtain rfl := Option.some.inj (hs'.symm.trans hs)
  exact ⟨e, hr, hgrows⟩

theorem holdsOnce (h : Grows r s) {id key : String} (hr : r.HoldsOnce id key) :
    s.HoldsOnce id key := by
  obtain ⟨e, hget, hone⟩ := hr
  obtain ⟨e', hs, hgrows⟩ := h.attributes hget
  exact ⟨e', hs, hgrows.count_eq_one hone⟩

end Grows

end Registry

end UiPolicy
