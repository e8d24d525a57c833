import Mathlib.Data.List.Permutation
import UiPolicy.Proofs.Element.Registry
import UiPolicy.Proofs.Session.Direct

/-!
# What a session starts with

Registering, binding and the menus each go through the nodes of a tree by themselves, and load
policies run in between. `Direct.start_eq` says at once what comes of it: the registry and the menus
of the tree, the context that its load policies write (`ElementNode.loaded`), and nothing else.

Ids may be repeated in a tree. The registry and the page then agree on the node that an id stands
for, the last one in pre-order, while a menu is registered for an id if any node of it is a menu
(`start_agrees_on_ids`).
-/

namespace UiPolicy

/-- The context after a load policy. There is no live value, so what would stand for one is written
as it is. -/
def Context.Store.load (store : Context.Store) (p : Policy) : Context.Store :=
  match (policyArguments p.text).value with
  | key :: first :: more => store.insert key (joinArguments (first :: more))
  | _ => store

/-- The context that the load policies of a tree write, node after node in pre-order. -/
def ElementNode.loaded (root : ElementNode) : Context.Store :=
  (root.preorder.flatMap ElementNode.onLoad).foldl Context.Store.load .empty

/-- The menus of a tree, hidden, in pre-order of the first node that is a menu of its id. -/
def Menus.ofTree (root : ElementNode) : Menus :=
  ⟨root.menuIds.eraseDups.map fun id => ⟨id, .none, none, none⟩⟩

/-! ## The state at the start -/

section Load

variable (setup : Setup) (state : State)

/-- Without an event, a context policy writes what its arguments say. -/
theorem run_without_event {p : Policy} (hp : p.interaction = .context) :
    Situation.run setup ⟨state, none⟩ p =
      ⟨{ state with context := state.context.load p }, none⟩ := by
  have hlive (value : String) : withLiveValue value none = some value := by
    unfold withLiveValue
    split
    · next h => cases h
    · rfl
  rw [Situation.run_context hp, contextEntry?, Context.Store.load]
  generalize (policyArguments p.text).value = tokens
  obtain _ | ⟨key, _ | ⟨first, more⟩⟩ := tokens
  · rfl
  · rfl
  · simp only [Option.bind_none, hlive]
    rfl

theorem runAll_without_event {ps : List Policy} (h : ∀ p ∈ ps, p.interaction = .context) :
    Situation.runAll setup ⟨state, none⟩ ps =
      ⟨{ state with context := ps.foldl Context.Store.load state.context }, none⟩ := by
  induction ps generalizing state with
  | nil => rfl
  | cons p ps ih =>
    have hp : p.interaction = .context := h p List.mem_cons_self
    have hps : ∀ q ∈ ps, q.interaction = .context := fun q hq => h q (List.mem_cons_of_mem p hq)
    rw [Situation.runAll_cons, run_without_event setup state hp, ih _ hps, List.foldl_cons]

end Load

namespace Menus

/-- Registering the menus of a tree one after the other gives the menus of the tree. -/
theorem foldl_register_eq (root : ElementNode) :
    root.menuIds.foldl register .empty = .ofTree root := by
  have hlist := list_foldl_register .empty root.menuIds
  have hall (ids : List String) : ids.removeAll Menus.empty.keys = ids :=
    List.filter_eq_self.2 fun _ _ => rfl
  rw [hall] at hlist
  exact congrArg Menus.mk hlist

theorem keys_ofTree (root : ElementNode) :
    (ofTree root).keys = root.menuIds.eraseDups := by
  rw [keys, ofTree, List.map_map]
  exact List.map_id' _

theorem mem_keys_ofTree {root : ElementNode} {key : String} :
    key ∈ (ofTree root).keys ↔ key ∈ root.menuIds := by
  rw [keys_ofTree, List.mem_eraseDups]

theorem nodup_keys_ofTree (root : ElementNode) : (ofTree root).keys.Nodup := by
  have hempty : Menus.empty.keys.Nodup := List.nodup_nil
  rw [← foldl_register_eq]
  exact nodup_keys_foldl_register hempty _

theorem shown_ofTree (root : ElementNode) : (ofTree root).shown = [] := by
  rw [shown, ofTree, List.filter_eq_nil_iff]
  intro m hm
  obtain ⟨key, -, rfl⟩ := List.mem_map.1 hm
  exact Bool.false_ne_true

end Menus

section Start

variable (setup : Setup) (root : ElementNode)

theorem Direct.start_eq :
    start setup root =
      { State.empty with
        elements := .ofTree root
        context := root.loaded
        menus := .ofTree root } := by
  unfold start
  simp only [foldl_attempt, Menus.foldl_register_eq]
  rw [runAll_without_event setup _ fun _ => interaction_of_mem_onLoad]
  rfl

theorem value_start_eq :
    (Session.start setup root).value =
      ⟨setup, .ofTree root,
        { State.empty with
          elements := .ofTree root
          context := root.loaded
          menus := .ofTree root }⟩ := by
  rw [value_start, Direct.start_eq]
  rfl

end Start

/-! ## Repeated ids -/

theorem Registry.mem_ids_ofTree {root : ElementNode} {id : String} :
    id ∈ (Registry.ofTree root).ids ↔ ∃ n ∈ root.preorder, n.id = id := by
  rw [mem_ids, ← ElementNode.exists_node?]
  simp [get?_ofTree]

theorem Registry.nodup_ids_ofTree (root : ElementNode) : (Registry.ofTree root).ids.Nodup := by
  rw [ids_eq, (List.mergeSort_perm _ _).nodup_iff, ofTree]
  have hempty : (Registry.empty.list.map (·.id)).Nodup := List.nodup_nil
  -- by induction on the nodes, from any registry that holds each id once
  generalize Registry.empty = r at hempty ⊢
  induction root.walk generalizing r with
  | nil => exact hempty
  | cons node nodes ih => exact ih _ (nodup_register hempty (.ofNode node))

/-- **Registry, page and menus agree on repeated ids.** The ids that are registered are those of the
nodes, each once. What is registered for an id and what the page has for it come from the last node
in pre-order that carries it: its type and attributes, whether the pointer shows it, and one
listener for each kind of event that the node has policies for. Every id of a menu is listed once
and hidden, in pre-order of the first menu that carries it. -/
theorem start_agrees_on_ids (setup : Setup) (root : ElementNode) :
    let session := (Session.start setup root).value
    let elements := session.state.elements
    (∀ id, id ∈ elements.ids ↔ ∃ n ∈ root.preorder, n.id = id) ∧ elements.ids.Nodup ∧
    (∀ id, (session.page.target? id).isSome = (elements.get? id).isSome) ∧
    (∀ id ∈ elements.ids, ∃ node target, root.node? id = some node ∧
      elements.get? id = some ⟨id, some node.type, node.attributes, none, none⟩ ∧
      session.page.target? id = some target ∧ target.id = id ∧
      target.pointer = node.hears .click ∧
      (∀ kind, countListeners target.listeners kind = if node.hears kind then 1 else 0) ∧
      countListeners target.listeners .load = 0 ∧
      ∀ l ∈ target.listeners, l.reaction = .runPolicies id (node.fired l.kind)) ∧
    session.state.menus.list =
      ((root.preorder.filter fun n => n.type = "context_menu" ∨ n.type = "contextmenu").map
        (·.id)).eraseDups.map (fun id => ⟨id, .none, none, none⟩) ∧
    session.state.menus.keys.Nodup := by
  intro session elements
  have hstart := value_start_eq setup root
  have helements : elements = .ofTree root := congrArg (·.state.elements) hstart
  have hmenus : session.state.menus = .ofTree root := congrArg (·.state.menus) hstart
  have hpage : session.page = .ofTree root := congrArg (·.page) hstart
  simp only [helements, hmenus, hpage]
  refine ⟨fun id => Registry.mem_ids_ofTree, Registry.nodup_ids_ofTree root, fun id => ?_,
    fun id hid => ?_, rfl, Menus.nodup_keys_ofTree root⟩
  · rw [Page.target?_ofTree, Registry.get?_ofTree, Option.isSome_map, Option.isSome_map]
  · obtain ⟨node, hnode⟩ := ElementNode.exists_node?.2 (Registry.mem_ids_ofTree.1 hid)
    obtain ⟨-, rfl⟩ := ElementNode.of_node? hnode
    have hload : node.hears .load = false := by simp [ElementNode.hears, EventKind.action?]
    refine ⟨node, .ofNode node, hnode, ?_, ?_, Target.id_ofNode node, Target.pointer_ofNode node,
      Target.countListeners_ofNode node, ?_, fun l hl => (Target.of_mem_listeners_ofNode hl).2⟩
    · rw [Registry.get?_ofTree, hnode]
      rfl
    · rw [Page.target?_ofTree, hnode]
      rfl
    · rw [Target.countListeners_ofNode, hload]
      rfl

/-- Of two nodes of one id the first is a menu that can be clicked, and the second, which the id
stands for, a field that hears input. The menu is listed all the same, after the one before it. -/
theorem start_agrees_on_ids_repeated :
    let field : ElementNode := .mk "a" "field" "r" [⟨"a", "k", "1"⟩]
      [⟨.load, .context, "(b,0)"⟩, ⟨.input, .context, "(b,_value)"⟩] []
    let root : ElementNode := .mk "r" "page" "" [] []
      [.mk "m" "context_menu" "r" [] [] [],
        .mk "a" "contextmenu" "r" [] [⟨.click, .showContextMenu, "a"⟩] [], field]
    let session := (Session.start ⟨64, .recorder true, false⟩ root).value
    let elements := session.state.elements
    let heard : Listener := ⟨.input, .runPolicies "a" [⟨.input, .context, "(b,_value)"⟩]⟩
    "a" ∈ elements.ids ∧ ∃ target : Target, heard ∈ target.listeners ∧
      elements.get? "a" = some ⟨"a", some "field", [⟨"a", "k", "1"⟩], none, none⟩ ∧
      session.page.target? "a" = some target ∧ target.pointer = false ∧
      countListeners target.listeners .click = 0 ∧ countListeners target.listeners .input = 1 ∧
      heard.reaction = .runPolicies "a" (field.fired .input) ∧
      session.state.menus.list = [⟨"m", .none, none, none⟩, ⟨"a", .none, none, none⟩] := by
  intro field root session elements heard
  have hids : elements.ids = ["a", "m", "r"] := by
    unfold elements
    cbv
  have hid : "a" ∈ elements.ids := by
    rw [hids]
    exact List.mem_cons_self
  have htarget : session.page.target? "a" = some ⟨"a", false, [heard]⟩ := by cbv
  have hagrees := start_agrees_on_ids ⟨64, .recorder true, false⟩ root
  extract_lets at hagrees
  obtain ⟨-, -, -, hsame, hmenus, -⟩ := hagrees
  obtain ⟨node, target, hnode, hget, hpage, -, hpointer, hcount, -, hreaction⟩ := hsame "a" hid
  obtain rfl : field = node := Option.some.inj hnode
  obtain rfl := Option.some.inj (htarget.symm.trans hpage)
  have hheard : heard ∈ [heard] := List.mem_singleton_self heard
  exact ⟨hid, _, hheard, hget, hpage, hpointer, hcount .click, hcount .input,
    hreaction heard hheard, hmenus.trans (by cbv)⟩

end UiPolicy
