import UiPolicy.Proofs.Element.Walk

/-!
# A walk meets every node once

Two nodes of a tree may be equal in everything they hold, so a node is told from another by its
position: the places of its ancestors and its own among their siblings. `positions` lists the
positions of a tree in the order of a recursive descent. They ascend (`pairwise_positions`), they
are those that lead to a node (`mem_positions_iff`), and the walk lists the nodes at them
(`map_at?_positions`).
-/

namespace UiPolicy.ElementNode

/-- The node at a position. -/
def at? : ElementNode → List Nat → Option ElementNode
  | n, [] => some n
  | n, place :: position => (n.children[place]?).bind (·.at? position)

mutual

/-- The positions of the nodes of a tree. -/
def positions : ElementNode → List (List Nat)
  | mk _ _ _ _ _ children => [] :: positionsFrom 0 children

/-- The positions in several trees that are siblings, the first one at a given place. -/
def positionsFrom : Nat → List ElementNode → List (List Nat)
  | _, [] => []
  | place, n :: ns => (positions n).map (place :: ·) ++ positionsFrom (place + 1) ns

end

theorem exists_of_mem_positionsFrom {place : Nat} {ns : List ElementNode} {position : List Nat}
    (h : position ∈ positionsFrom place ns) :
    ∃ next rest, position = next :: rest ∧ place ≤ next := by
  induction ns generalizing place with
  | nil => cases h
  | cons n ns ih =>
    rw [positionsFrom, List.mem_append, List.mem_map] at h
    rcases h with ⟨rest, -, rfl⟩ | h
    · exact ⟨place, rest, rfl, Nat.le_refl place⟩
    · obtain ⟨next, rest, rfl, hle⟩ := ih h
      exact ⟨next, rest, rfl, by omega⟩

/-! ## Ascending -/

mutual

theorem pairwise_positions :
    ∀ n : ElementNode, n.positions.Pairwise (List.Lex (· < ·))
  | mk _ _ _ _ _ children => by
    rw [positions, List.pairwise_cons]
    refine ⟨fun position h => ?_, pairwise_positionsFrom 0 children⟩
    obtain ⟨next, rest, rfl, -⟩ := exists_of_mem_positionsFrom h
    exact List.Lex.nil

theorem pairwise_positionsFrom :
    ∀ (place : Nat) (ns : List ElementNode),
      (positionsFrom place ns).Pairwise (List.Lex (· < ·))
  | _, [] => List.Pairwise.nil
  | place, n :: ns => by
    rw [positionsFrom, List.pairwise_append, List.pairwise_map]
    refine ⟨(pairwise_positions n).imp List.Lex.cons, pairwise_positionsFrom (place + 1) ns, ?_⟩
    intro position hposition later hlater
    obtain ⟨rest, -, rfl⟩ := List.mem_map.1 hposition
    obtain ⟨next, rest', rfl, hle⟩ := exists_of_mem_positionsFrom hlater
    exact List.Lex.rel hle

end

/-! ## Leading to a node -/

mutual

theorem mem_positions_iff :
    ∀ {n : ElementNode} {position : List Nat},
      position ∈ n.positions ↔ (n.at? position).isSome = true
  | mk _ _ _ _ _ children, [] => by simp [positions, at?]
  | mk _ _ _ _ _ children, place :: position => by
    have h : (0 + place) :: position ∈ positionsFrom 0 children ↔
        ((children[place]?).bind (·.at? position)).isSome = true := mem_positionsFrom_iff
    rw [Nat.zero_add] at h
    simp [positions, at?, ElementNode.children, h]

theorem mem_positionsFrom_iff :
    ∀ {ns : List ElementNode} {start place : Nat} {position : List Nat},
      (start + place) :: position ∈ positionsFrom start ns ↔
        ((ns[place]?).bind (·.at? position)).isSome = true
  | [], _, _, _ => by simp [positionsFrom]
  | n :: ns, start, 0, position => by
    have h : position ∈ n.positions ↔ (n.at? position).isSome = true := mem_positions_iff
    have hlater : start :: position ∉ positionsFrom (start + 1) ns := by
      intro hmem
      obtain ⟨next, rest, heq, hle⟩ := exists_of_mem_positionsFrom hmem
      obtain ⟨rfl, -⟩ := List.cons.inj heq
      omega
    simp [positionsFrom, hlater, h]
  | n :: ns, start, place + 1, position => by
    have h : (start + 1 + place) :: position ∈ positionsFrom (start + 1) ns ↔
        ((ns[place]?).bind (·.at? position)).isSome = true := mem_positionsFrom_iff
    have hsum : start + (place + 1) = start + 1 + place := by omega
    have hne : start ≠ start + 1 + place := by omega
    simp [positionsFrom, hsum, hne, h]

end

/-! ## The nodes at the positions -/

mutual

theorem map_at?_positions : ∀ n : ElementNode, n.positions.map n.at? = n.preorder.map some
  | mk id type parent attributes policies children => by
    have h : (positionsFrom 0 children).map (mk id type parent attributes policies children).at? =
        (preorderAll children).map some := by
      refine map_positionsFrom 0 children fun place position => ?_
      rw [Nat.zero_add]
      rfl
    rw [positions, preorder, List.map_cons, List.map_cons, h]
    rfl

theorem map_positionsFrom :
    ∀ (start : Nat) (ns : List ElementNode) {f : List Nat → Option ElementNode},
      (∀ place position, f ((start + place) :: position) = (ns[place]?).bind (·.at? position)) →
      (positionsFrom start ns).map f = (preorderAll ns).map some
  | _, [], _, _ => rfl
  | start, n :: ns, f, hf => by
    have hfirst : ((n.positions).map (start :: ·)).map f = n.preorder.map some := by
      rw [← map_at?_positions n, List.map_map]
      exact List.map_congr_left fun position _ => hf 0 position
    have hrest : (positionsFrom (start + 1) ns).map f = (preorderAll ns).map some := by
      refine map_positionsFrom (start + 1) ns fun place position => ?_
      rw [Nat.add_assoc, Nat.add_comm 1 place]
      exact hf (place + 1) position
    rw [positionsFrom, preorderAll, List.map_append, List.map_append, hfirst, hrest]

end

/-! ## The walk -/

theorem preorderAll_eq_flatMap (ns : List ElementNode) : preorderAll ns = ns.flatMap preorder := by
  induction ns with
  | nil => rfl
  | cons n ns ih => rw [preorderAll, List.flatMap_cons, ih]

mutual

theorem length_preorder : ∀ n : ElementNode, n.preorder.length = n.size
  | mk _ _ _ _ _ children => by
    rw [preorder, size, List.length_cons, length_preorderAll children]

theorem length_preorderAll : ∀ ns : List ElementNode, (preorderAll ns).length = sizeOfAll ns
  | [] => rfl
  | n :: ns => by
    rw [preorderAll, sizeOfAll, List.length_append, length_preorder n, length_preorderAll ns]

end

/-- **A walk meets every node once, in pre-order.** It is the node and then the walks of its
children from left to right. The positions of the nodes that it meets are all positions of the
tree, in ascending order and so without a repetition. -/
theorem walk_meets_every_node_once (root : ElementNode) :
    root.walk = root :: root.children.flatMap walk ∧
    root.walk.length = root.size ∧
    ∃ positions : List (List Nat),
      positions.Pairwise (List.Lex (· < ·)) ∧
      (∀ position, position ∈ positions ↔ (root.at? position).isSome = true) ∧
      positions.map root.at? = root.walk.map some := by
  have hwalk : walk = preorder := funext walk_eq_preorder
  rw [hwalk]
  refine ⟨?_, length_preorder root, root.positions, pairwise_positions root,
    fun _ => mem_positions_iff, map_at?_positions root⟩
  obtain ⟨id, type, parent, attributes, policies, children⟩ := root
  rw [preorder, preorderAll_eq_flatMap]
  rfl

end UiPolicy.ElementNode
