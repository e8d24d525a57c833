import UiPolicy.Proofs.Element.Walk
import UiPolicy.Proofs.Engine.Change
import UiPolicy.Proofs.Keyed
import UiPolicy.Page

/-!
# What binding a tree leaves on the page

Binding goes through the actions of each node and adds listeners as it goes. Here it is said at
once what comes of it:

* `Target.ofNode` is the target of a node, with a listener for each kind of event that has policies
  (`value_bindTarget`), and `Page.ofTree` the page of a tree (`value_bindTree`),
* of the nodes of one id the last in pre-order has the target (`target?_ofTree`),
* an event at a target runs the policies of its node in their order, and nothing if there are none
  (`runListenersFor_ofNode`).

The state passes through the load policies of the nodes and is not looked at otherwise.
-/

namespace UiPolicy

/-- The action whose policies an event of a kind fires. Load policies run when a node is bound, and
no event fires them. -/
def EventKind.action? : EventKind → Option Action
  | .click => some .click
  | .input => some .input
  | .contextMenu => some .rightClick
  | .load => none

/-- The policies of a node that an event of a kind fires, in the order in which they run. -/
def ElementNode.fired (node : ElementNode) (kind : EventKind) : List Policy :=
  match kind.action? with
  | some action => Policy.sortByLabel (node.policies.filter (·.action = action))
  | none => []

/-- The policies of a node that run when it is bound. -/
def ElementNode.onLoad (node : ElementNode) : List Policy :=
  node.policies.filter fun p => p.action = .load ∧ p.interaction = .context

/-- Whether a node has policies for a kind of event. -/
def ElementNode.hears (node : ElementNode) (kind : EventKind) : Bool :=
  node.policies.any fun p => kind.action? = some p.action

theorem ElementNode.mem_fired {node : ElementNode} {kind : EventKind} {p : Policy} :
    p ∈ node.fired kind ↔ p ∈ node.policies ∧ kind.action? = some p.action := by
  unfold ElementNode.fired
  split
  · next action haction =>
    rw [← Policy.applicable_eq, Policy.mem_applicable, haction, Option.some.injEq, eq_comm]
  · next hnone => simp [hnone]

theorem ElementNode.isEmpty_fired (node : ElementNode) (kind : EventKind) :
    (node.fired kind).isEmpty = !node.hears kind := by
  rw [Bool.eq_iff_iff, List.isEmpty_iff, List.eq_nil_iff_forall_not_mem]
  simp [ElementNode.mem_fired, ElementNode.hears]

/-! ## The target of a node -/

namespace Target

/-- A target with a listener for a kind of event, unless there is nothing to run. -/
def attach (t : Target) (kind : EventKind) (ps : List Policy) : Target :=
  if ps.isEmpty then t
  else { t with
    pointer := t.pointer || kind = .click
    listeners := t.listeners ++ [⟨kind, .runPolicies t.id ps⟩] }

/-- The target of a node. -/
def ofNode (node : ElementNode) : Target :=
  (((Target.new node.id).attach .click (node.fired .click)).attach .input
    (node.fired .input)).attach .contextMenu (node.fired .contextMenu)

@[simp] theorem id_attach (t : Target) (kind : EventKind) (ps : List Policy) :
    (t.attach kind ps).id = t.id := by
  unfold attach
  split <;> rfl

theorem listeners_attach (t : Target) (kind : EventKind) (ps : List Policy) :
    (t.attach kind ps).listeners =
      t.listeners ++ if ps.isEmpty then [] else [⟨kind, .runPolicies t.id ps⟩] := by
  unfold attach
  split
  · exact (List.append_nil _).symm
  · rfl

@[simp] theorem id_ofNode (node : ElementNode) : (ofNode node).id = node.id := by
  simp [ofNode, Target.new]

end Target

section Binding

variable (setup : Setup)

theorem filter_context_withLabel (ps : List Policy) :
    (Policy.withLabel "context" ps).filter (·.interaction = .context) =
      ps.filter (·.interaction = .context) := by
  rw [Policy.withLabel, List.filter_filter]
  refine List.filter_congr fun p _ => ?_
  by_cases h : p.interaction = .context <;> simp [h, Interaction.label]

/-- The policies that run on load are the context policies among the load policies, in the order
in which they are declared. -/
theorem filter_applicable_load (node : ElementNode) :
    (Policy.applicable node.policies .load).filter (·.interaction = .context) = node.onLoad := by
  rw [← filter_context_withLabel, Policy.withLabel_applicable, filter_context_withLabel,
    List.filter_filter, ElementNode.onLoad]
  refine List.filter_congr fun p _ => ?_
  rw [Bool.decide_and, Bool.and_comm]

/-- The state after the load policies of a node have run. -/
def ElementNode.load (state : State) (node : ElementNode) : State :=
  (Situation.runAll setup ⟨state, none⟩ node.onLoad).state

theorem value_bindAction (policies : List Policy) (state : State) (target : Target)
    (action : Action) {kind : EventKind} (hkind : EventKind.ofAction? action = some kind)
    (hload : kind ≠ .load) :
    (bindAction setup policies state target action).value =
      (state, target.attach kind (Policy.applicable policies action)) := by
  unfold bindAction Target.attach
  simp only [hkind]
  split
  · rfl
  · cases kind with
    | load => exact absurd rfl hload
    | _ => rfl

theorem value_bindAction_load (node : ElementNode) (state : State) (target : Target) :
    (bindAction setup node.policies state target .load).value =
      (node.load setup state, target) := by
  unfold bindAction ElementNode.load
  rw [← filter_applicable_load]
  simp only
  split
  · next h =>
    rw [List.isEmpty_iff.1 h]
    rfl
  · simp only [EventKind.ofAction?, evaluateOnLoad, Noted.value_bind, Noted.value_pure,
      List.partition_eq_filter_filter, value_dispatch]

/-- Binding a node gives its target and runs its load policies. -/
theorem value_bindTarget (node : ElementNode) (state : State) :
    (bindTarget setup node.policies state (.new node.id)).value =
      (node.load setup state, .ofNode node) := by
  unfold bindTarget Action.bound bindActions bindActions bindActions bindActions bindActions
  simp only [Noted.value_bind, Noted.value_pure, value_bindAction_load,
    value_bindAction setup _ _ _ .click rfl (by decide),
    value_bindAction setup _ _ _ .input rfl (by decide),
    value_bindAction setup _ _ _ .rightClick rfl (by decide), Policy.applicable_eq]
  rfl

/-! ## The page of a tree -/

/-- The page with the targets of some nodes, inserted one after the other. -/
def Page.insertNodes (page : Page) (nodes : List ElementNode) : Page :=
  nodes.foldl (fun page node => page.insert (.ofNode node)) page

theorem value_bindNodes (nodes : List ElementNode) (state : State) (page : Page) :
    (bindNodes setup nodes state page).value =
      (nodes.foldl (ElementNode.load setup) state, page.insertNodes nodes) := by
  induction nodes generalizing state page with
  | nil => rfl
  | cons node nodes ih =>
    unfold bindNodes
    rw [Noted.value_bind, value_bindTarget]
    exact ih _ _

/-- The page of a tree. -/
def Page.ofTree (root : ElementNode) : Page :=
  (Page.empty.insertNodes root.preorder).installMenus

/-- Binding a tree registers its menus, runs its load policies and gives its page. -/
theorem value_bindTree (root : ElementNode) (state : State) :
    (bindTree setup root state .empty).value =
      (root.preorder.foldl (ElementNode.load setup) (state.registerMenus root.preorder),
        .ofTree root) := by
  unfold bindTree
  rw [ElementNode.walk_eq_preorder, Noted.value_bind, value_bindNodes]
  rfl

end Binding

namespace Page

theorem target?_insert (page : Page) (t : Target) (id : String) :
    (page.insert t).target? id = if t.id = id then some t else page.target? id :=
  Keyed.find?_put Target.id putTarget (fun _ => rfl) (fun _ _ _ => rfl) t page.targets id

/-- Of the nodes of one id the last that is inserted keeps its target. -/
theorem target?_insertNodes (nodes : List ElementNode) (page : Page) (id : String) :
    (page.insertNodes nodes).target? id =
      ((nodes.reverse.find? (·.id = id)).map .ofNode).or (page.target? id) := by
  have hput (page : Page) (node : ElementNode) (id : String) :
      (page.insert (.ofNode node)).target? id =
        if node.id = id then some (.ofNode node) else page.target? id := by
    rw [target?_insert, Target.id_ofNode]
  exact ElementNode.lookup_foldl target? (fun page node => page.insert (.ofNode node)) .ofNode hput
    nodes page id

/-- An id stands for the last node in pre-order that carries it. -/
theorem target?_ofTree (root : ElementNode) (id : String) :
    (Page.ofTree root).target? id = (root.node? id).map .ofNode := by
  have h := target?_insertNodes root.preorder .empty id
  rw [show Page.empty.target? id = none from rfl, Option.or_none] at h
  exact h

theorem mem_putTarget {t x : Target} {ts : List Target} (h : t ∈ putTarget x ts) :
    t = x ∨ t ∈ ts := by
  induction ts with
  | nil => exact .inl (List.mem_singleton.1 h)
  | cons y ys ih =>
    unfold putTarget at h
    split at h
    · rcases List.mem_cons.1 h with rfl | hmem
      · exact .inl rfl
      · exact .inr (List.mem_cons_of_mem _ hmem)
    · rcases List.mem_cons.1 h with rfl | hmem
      · exact .inr List.mem_cons_self
      · exact (ih hmem).imp_right (List.mem_cons_of_mem _)

theorem mem_targets_insertNodes {nodes : List ElementNode} {page : Page} {t : Target}
    (h : t ∈ (page.insertNodes nodes).targets) :
    t ∈ page.targets ∨ ∃ node ∈ nodes, t = .ofNode node := by
  induction nodes generalizing page with
  | nil => exact .inl h
  | cons node nodes ih =>
    rcases ih h with hinsert | ⟨n, hn, rfl⟩
    · rcases mem_putTarget hinsert with rfl | hpage
      · exact .inr ⟨node, List.mem_cons_self, rfl⟩
      · exact .inl hpage
    · exact .inr ⟨n, List.mem_cons_of_mem _ hn, rfl⟩

theorem document_insertNodes (nodes : List ElementNode) (page : Page) :
    (page.insertNodes nodes).document = page.document := by
  induction nodes generalizing page with
  | nil => rfl
  | cons node nodes ih => exact ih _

/-- The document of a page closes menus on a click of either button. -/
theorem document_ofTree (root : ElementNode) :
    (Page.ofTree root).document = [⟨.click, .closeMenus⟩, ⟨.contextMenu, .closeMenus⟩] := by
  simp only [Page.ofTree, installMenus, listen, document_insertNodes]
  rfl

/-- Every listener of a page. -/
def listeners (page : Page) : List Listener :=
  page.targets.flatMap (·.listeners) ++ page.document

theorem mem_listeners_of_target? {page : Page} {id : String} {t : Target} {l : Listener}
    (ht : page.target? id = some t) (hl : l ∈ t.listeners) : l ∈ page.listeners :=
  List.mem_append_left _ (List.mem_flatMap.2 ⟨t, List.mem_of_find?_eq_some ht, hl⟩)

end Page

/-! ## Events that nothing listens for -/

section Unheard

variable (setup : Setup) {state : State} {event : Event}

theorem runListenersFor_of_unheard {listeners : List Listener}
    (h : ∀ l ∈ listeners, l.kind ≠ event.kind) :
    runListenersFor setup listeners state event = pure (state, event) := by
  have hnone : listeners.filter (·.kind = event.kind) = [] :=
    List.filter_eq_nil_iff.2 fun l hl => by simpa using h l hl
  rw [runListenersFor, hnone]
  rfl

theorem Page.fire_of_unheard {page : Page} (h : ∀ l ∈ page.listeners, l.kind ≠ event.kind)
    (id : String) : page.fire setup id state event = pure (state, event) := by
  have htarget : ∀ l ∈ (page.target? id).elim [] (·.listeners), l.kind ≠ event.kind := by
    intro l hl
    cases ht : page.target? id with
    | none =>
      rw [ht] at hl
      cases hl
    | some t =>
      rw [ht] at hl
      exact h l (mem_listeners_of_target? ht hl)
  have hdocument : ∀ l ∈ page.document, l.kind ≠ event.kind :=
    fun l hl => h l (List.mem_append_right _ hl)
  unfold Page.fire
  simp only [runListenersFor_of_unheard setup htarget]
  change (if event.propagationStopped then pure (state, event)
    else runListenersFor setup page.document state event) = pure (state, event)
  split
  · rfl
  · next hgoes => exact runListenersFor_of_unheard setup hdocument

end Unheard

/-! ## Events at a target -/

/-- A listener for one kind of event, if there is anything to run, runs its policies. -/
theorem runListeners_policies (setup : Setup) (kind : EventKind) (element : String)
    (ps : List Policy) (state : State) (event : Event) :
    runListeners setup (if ps.isEmpty then [] else [⟨kind, .runPolicies element ps⟩]) state event =
      (do
        let after ← dispatch setup element ps ⟨state, some event⟩
        return (after.state, after.event.getD event)) := by
  split
  · next h =>
    rw [List.isEmpty_iff.1 h]
    rfl
  · -- what comes after the one listener gives no notices
    exact congrArg (Noted.mk _) (List.append_nil _)

/-- The listeners of a target for a kind of event run the policies that it fires. -/
theorem filter_listeners_ofNode (node : ElementNode) (kind : EventKind) :
    (Target.ofNode node).listeners.filter (·.kind = kind) =
      if (node.fired kind).isEmpty then [] else [⟨kind, .runPolicies node.id (node.fired kind)⟩] := by
  simp only [Target.ofNode, Target.listeners_attach, Target.id_attach, List.filter_append]
  have hnew : (Target.new node.id).listeners = [] := rfl
  have hfilter : ∀ (k : EventKind) (ps : List Policy),
      (if ps.isEmpty then [] else [⟨k, .runPolicies node.id ps⟩] : List Listener).filter
        (·.kind = kind) =
      if k = kind then (if ps.isEmpty then [] else [⟨k, .runPolicies node.id ps⟩]) else [] := by
    intro k ps
    by_cases hk : k = kind <;> cases ps.isEmpty <;> simp [hk]
  have hid : (Target.new node.id).id = node.id := rfl
  rw [hnew, hid, hfilter, hfilter, hfilter]
  cases kind <;> simp [ElementNode.fired, EventKind.action?]

namespace Target

/-- A target has one listener for each kind of event that its node has policies for. -/
theorem countListeners_ofNode (node : ElementNode) (kind : EventKind) :
    countListeners (ofNode node).listeners kind = if node.hears kind then 1 else 0 := by
  rw [countListeners, List.countP_eq_length_filter, filter_listeners_ofNode,
    ElementNode.isEmpty_fired]
  cases node.hears kind <;> rfl

theorem of_mem_listeners_ofNode {node : ElementNode} {l : Listener}
    (h : l ∈ (ofNode node).listeners) :
    node.hears l.kind = true ∧ l.reaction = .runPolicies node.id (node.fired l.kind) := by
  have hmem : l ∈ (ofNode node).listeners.filter (·.kind = l.kind) :=
    List.mem_filter.2 ⟨h, decide_eq_true rfl⟩
  rw [filter_listeners_ofNode, ElementNode.isEmpty_fired] at hmem
  cases hhears : node.hears l.kind with
  | false => simp [hhears] at hmem
  | true =>
    rw [hhears] at hmem
    exact ⟨rfl, congrArg Listener.reaction (List.mem_singleton.1 hmem)⟩

theorem pointer_attach (t : Target) (kind : EventKind) (ps : List Policy) :
    (t.attach kind ps).pointer = (t.pointer || (!ps.isEmpty && kind = .click)) := by
  unfold attach
  cases ps.isEmpty <;> simp

/-- The pointer shows which elements can be clicked. -/
theorem pointer_ofNode (node : ElementNode) : (ofNode node).pointer = node.hears .click := by
  simp [ofNode, pointer_attach, ElementNode.isEmpty_fired, Target.new]

end Target

/-- The listeners of a page run the policies of nodes, each for the kind of event that fires them,
or close menus. -/
theorem Page.of_mem_listeners_ofTree {root : ElementNode} {l : Listener}
    (h : l ∈ (ofTree root).listeners) :
    l.reaction = .closeMenus ∧ (l.kind = .click ∨ l.kind = .contextMenu) ∨
      ∃ node ∈ root.preorder, node.hears l.kind = true ∧
        l.reaction = .runPolicies node.id (node.fired l.kind) := by
  rcases List.mem_append.1 h with htargets | hdocument
  · obtain ⟨t, ht, hl⟩ := List.mem_flatMap.1 htargets
    have hinsert : t ∈ (Page.empty.insertNodes root.preorder).targets := ht
    rcases mem_targets_insertNodes hinsert with hempty | ⟨node, hnode, rfl⟩
    · cases hempty
    · exact .inr ⟨node, hnode, Target.of_mem_listeners_ofNode hl⟩
  · rw [document_ofTree] at hdocument
    rcases List.mem_pair.1 hdocument with rfl | rfl
    · exact .inl ⟨rfl, .inl rfl⟩
    · exact .inl ⟨rfl, .inr rfl⟩

/-- An event at the target of a node runs the policies that it fires. -/
theorem runListenersFor_ofNode (setup : Setup) (node : ElementNode) (state : State)
    (event : Event) :
    runListenersFor setup (Target.ofNode node).listeners state event =
      (do
        let after ← dispatch setup node.id (node.fired event.kind) ⟨state, some event⟩
        return (after.state, after.event.getD event)) := by
  rw [runListenersFor, filter_listeners_ofNode, runListeners_policies]

end UiPolicy
