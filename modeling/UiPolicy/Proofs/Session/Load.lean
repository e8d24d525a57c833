import UiPolicy.Proofs.Session.Start

/-!
# Load policies run once

Load policies run while a tree is bound, and of what they could do only writes of the context are
let through. No listener is attached for them, neither at a target nor at the document, so an event
of kind `load` finds nothing to run.
-/

namespace UiPolicy

/-- Events of kind `load` have no listener, and no listener runs a load policy. -/
theorem Page.load_free {root : ElementNode} {l : Listener} (h : l ∈ (Page.ofTree root).listeners) :
    l.kind ≠ .load ∧
      ∀ element ps, l.reaction = .runPolicies element ps → ∀ p ∈ ps, p.action ≠ .load := by
  rcases of_mem_listeners_ofTree h with ⟨hclose, hkind⟩ | ⟨node, -, hhears, hreaction⟩
  · refine ⟨?_, fun element ps hrun => ?_⟩
    · rintro hload
      rw [hload] at hkind
      rcases hkind with hkind | hkind <;> cases hkind
    · rw [hclose] at hrun
      cases hrun
  · refine ⟨?_, fun element ps hrun p hp hload => ?_⟩
    · intro hload
      rw [hload, ElementNode.hears] at hhears
      simp [EventKind.action?] at hhears
    · rw [hreaction] at hrun
      obtain ⟨-, rfl⟩ := Reaction.runPolicies.inj hrun
      -- a policy runs only on events of its action, and no kind of event has the action of loading
      have hkind : l.kind.action? = some .load := hload ▸ (ElementNode.mem_fired.1 hp).2
      cases hl : l.kind <;> rw [hl] at hkind <;> cases hkind

/-- An event that nothing listens for is noted, and that is all. -/
theorem Session.fire_of_unheard {session : Session} {e : ScriptedEvent}
    (h : ∀ l ∈ session.page.listeners, l.kind ≠ e.kind) :
    session.fire e = ⟨(session, e.event), [.eventFired e.target e.kind]⟩ := by
  rw [fire, Page.fire_of_unheard session.setup h]
  rfl

/-- **Load policies run once.** A session starts with the context that the load policies of its tree
write, each interpreted without an event, and otherwise with the elements and the hidden menus of
the tree and nothing submitted. Whatever happens later, an event of kind `load` changes nothing, and
nothing that any event can run is a load policy. -/
theorem load_policies_run_once (setup : Setup) (root : ElementNode) (script : List ScriptedEvent) :
    let begun := (Session.start setup root).value
    let session := (begun.replay script).value
    begun.state =
        { State.empty with
          elements := .ofTree root
          context := root.loaded
          menus := .ofTree root } ∧
      begun.state.menus.openKeys = [] ∧
      (∀ (state : State) (action : Action) (text : String),
        (interpret setup ⟨state, none⟩ ⟨action, .context, text⟩).value.after =
          ⟨{ state with context := state.context.load ⟨action, .context, text⟩ }, none⟩) ∧
      (∀ target value x y,
        session.fire ⟨target, .load, value, x, y⟩ =
          ⟨(session, .fresh .load value x y), [.eventFired target .load]⟩) ∧
      ∀ l ∈ session.page.listeners, l.kind ≠ .load ∧
        ∀ element ps, l.reaction = .runPolicies element ps → ∀ p ∈ ps, p.action ≠ .load := by
  intro begun session
  have hbegun := value_start_eq setup root
  have hsession : session = .bound setup root _ := value_session setup root script
  have hpage : session.page = .ofTree root := congrArg (·.page) hsession
  have hlisteners : ∀ l ∈ session.page.listeners, l.kind ≠ .load ∧
      ∀ element ps, l.reaction = .runPolicies element ps → ∀ p ∈ ps, p.action ≠ .load := by
    intro l hl
    rw [hpage] at hl
    exact Page.load_free hl
  refine ⟨congrArg (·.state) hbegun, ?_, fun state action text => ?_, fun target value x y => ?_,
    hlisteners⟩
  · have hmenus : begun.state.menus = .ofTree root := congrArg (·.state.menus) hbegun
    rw [hmenus, Menus.openKeys_eq, Menus.shown_ofTree]
    rfl
  · exact run_without_event setup state rfl
  · exact Session.fire_of_unheard fun l hl => (hlisteners l hl).1

/-- A node that is replaced later writes the context all the same, a policy without a value does
not, and what stands for a live value is kept. A click then overwrites it for good. -/
theorem load_policies_run_once_replaced :
    let setup : Setup := ⟨64, .recorder true, false⟩
    let write : Policy := ⟨.click, .context, "(c,1)"⟩
    let root : ElementNode := .mk "r" "page" "" [] []
      [.mk "a" "field" "r" [] [⟨.load, .context, "(b,_value)"⟩, ⟨.load, .context, "(c)"⟩] [],
        .mk "a" "field" "r" [] [⟨.load, .context, "(c,0)"⟩, ⟨.load, .call, "f"⟩, write] []]
    let begun := (Session.start setup root).value
    let session := (begun.replay [⟨"a", .click, none, none, none⟩]).value
    let heard : Listener := ⟨.click, .runPolicies "a" [write]⟩
    begun.state.context.entries = [⟨"b", "_value"⟩, ⟨"c", "0"⟩] ∧ heard ∈ session.page.listeners ∧
      session.fire ⟨"a", .load, none, none, none⟩ =
        ⟨(session, .fresh .load none none none), [.eventFired "a" .load]⟩ ∧
      heard.kind ≠ .load ∧ write.action ≠ .load := by
  intro setup write root begun session heard
  have hlisteners : session.page.listeners =
      [heard, ⟨.click, .closeMenus⟩, ⟨.contextMenu, .closeMenus⟩] := by cbv
  have hheard : heard ∈ session.page.listeners := by
    rw [hlisteners]
    exact List.mem_cons_self
  have honce := load_policies_run_once setup root [⟨"a", .click, none, none, none⟩]
  extract_lets at honce
  obtain ⟨hstate, -, -, hfire, hall⟩ := honce
  obtain ⟨hkind, hpolicies⟩ := hall heard hheard
  refine ⟨?_, hheard, hfire "a" none none none, hkind,
    hpolicies "a" [write] rfl write (List.mem_singleton_self write)⟩
  rw [hstate]
  cbv

end UiPolicy
