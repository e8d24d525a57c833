import UiPolicy.Element.Tree

/-!
# The nodes of a tree in pre-order

`ElementNode.walk` keeps a stack of trees. `preorder` is the order it stands for, by recursion on
the tree, and `walk_eq_preorder` says so: a stack yields the nodes of its trees one tree after the
other. Several nodes may carry one id; `node?` is the one that counts, the last in pre-order.

What is kept for the nodes of a tree is kept by id, and put in the place of what was there before:
`lookup_foldl` is one such write for each node.
-/

namespace UiPolicy.ElementNode

mutual

/-- A node and then the nodes inside it, from left to right. -/
def preorder : ElementNode → List ElementNode
  | mk id type parent attributes policies children =>
    mk id type parent attributes policies children :: preorderAll children

/-- The nodes of several trees, one tree after the other. -/
def preorderAll : List ElementNode → List ElementNode
  | [] => []
  | n :: ns => preorder n ++ preorderAll ns

end

theorem preorderAll_append (ms ns : List ElementNode) :
    preorderAll (ms ++ ns) = preorderAll ms ++ preorderAll ns := by
  induction ms with
  | nil => rfl
  | cons m ms ih => rw [List.cons_append, preorderAll, preorderAll, ih, List.append_assoc]

theorem walkStack_eq_preorderAll (stack : List ElementNode) :
    walkStack stack = preorderAll stack := by
  fun_induction walkStack stack with
  | case1 => rfl
  | case2 id type parent attributes policies children stack ih =>
    rw [ih, preorderAll_append, preorderAll, preorder, List.cons_append]

/-- The walk of a tree is its pre-order. -/
theorem walk_eq_preorder (root : ElementNode) : root.walk = root.preorder := by
  rw [walk, walkStack_eq_preorderAll, preorderAll, preorderAll, List.append_nil]

/-- The ids of the nodes that are context menus, in pre-order. There are two types of them. -/
def menuIds (root : ElementNode) : List String :=
  (root.preorder.filter fun n => n.type = "context_menu" ∨ n.type = "contextmenu").map (·.id)

theorem menuIds_eq (root : ElementNode) :
    root.menuIds = (root.preorder.filter (·.isMenu)).map (·.id) := by
  simp [menuIds, isMenu]

/-- The node that an id stands for, the last one in pre-order. -/
def node? (root : ElementNode) (id : String) : Option ElementNode :=
  root.preorder.reverse.find? (·.id = id)

theorem exists_node? {root : ElementNode} {id : String} :
    (∃ node, root.node? id = some node) ↔ ∃ n ∈ root.preorder, n.id = id := by
  rw [← Option.isSome_iff_exists, node?, List.find?_isSome]
  simp

theorem of_node? {root : ElementNode} {id : String} {node : ElementNode}
    (h : root.node? id = some node) : node ∈ root.preorder ∧ node.id = id := by
  have hmem : node ∈ root.preorder := List.mem_reverse.1 (List.mem_of_find?_eq_some h)
  exact ⟨hmem, by simpa using List.find?_some h⟩

/-! ## What is kept by id -/

/-- Where nodes are put in one after the other, each in the place of its id, the last of an id
stays. -/
theorem lookup_foldl {σ β : Type} (lookup : σ → String → Option β) (put : σ → ElementNode → σ)
    (make : ElementNode → β)
    (hput : ∀ s n id, lookup (put s n) id = if n.id = id then some (make n) else lookup s id)
    (nodes : List ElementNode) (s : σ) (id : String) :
    lookup (nodes.foldl put s) id =
      ((nodes.reverse.find? (·.id = id)).map make).or (lookup s id) := by
  -- what was there before is what the nodes so far have left, so it changes with every step
  induction nodes generalizing s with
  | nil => rfl
  | cons node nodes ih =>
    rw [List.foldl_cons, ih, hput, List.reverse_cons, List.find?_append]
    cases nodes.reverse.find? (·.id = id) with
    | some last => rfl
    | none => by_cases hid : node.id = id <;> simp [hid]

end UiPolicy.ElementNode
