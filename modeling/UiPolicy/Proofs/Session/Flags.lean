import UiPolicy.Proofs.Session.Direct

/-!
# How an event comes back

An event is marked in three places: by a policy that asks for a menu, by the page, which lets an
event that was stopped go no further, and by the document where it closes menus. `Claims` is the
condition for the first, read off the tree. No other policy touches the menus, so what the document
finds open was open when the event was fired (`Direct.event_step`).
-/

namespace UiPolicy

/-- Whether a policy asks for a menu among those that the node of a target has for an event. -/
def ElementNode.Claims (root : ElementNode) (e : ScriptedEvent) : Prop :=
  ∃ node p, root.node? e.target = some node ∧ p ∈ node.policies ∧
    e.kind.action? = some p.action ∧ p.interaction = .showContextMenu

/-- Policies that ask for no menu leave the menus as they are. -/
theorem Situation.menus_runAll {setup : Setup} {s : Situation} {ps : List Policy}
    (h : ∀ p ∈ ps, p.interaction ≠ .showContextMenu) :
    (s.runAll setup ps).state.menus = s.state.menus :=
  runAll_induction (P := fun s' => s'.state.menus = s.state.menus)
    (fun _ p _ hp hs hchange => (hchange.menus_eq (h p hp)).trans hs) rfl

namespace Direct

variable (setup : Setup) (root : ElementNode) (state : State) (e : ScriptedEvent)

theorem mem_fired {p : Policy} :
    p ∈ fired root e ↔ ∃ node, root.node? e.target = some node ∧ p ∈ node.policies ∧
      e.kind.action? = some p.action := by
  unfold fired
  cases hnode : root.node? e.target with
  | none => simp
  | some node => simp [ElementNode.mem_fired]

theorem any_fired_iff :
    (fired root e).any (·.interaction = .showContextMenu) = true ↔ root.Claims e := by
  rw [List.any_eq_true]
  constructor
  · rintro ⟨p, hp, hasks⟩
    obtain ⟨node, hnode, hmem, haction⟩ := (mem_fired root e).1 hp
    exact ⟨node, p, hnode, hmem, haction, of_decide_eq_true hasks⟩
  · rintro ⟨node, p, hnode, hmem, haction, hasks⟩
    exact ⟨p, (mem_fired root e).2 ⟨node, hnode, hmem, haction⟩, decide_eq_true hasks⟩

/-- What an event is marked with: all by a claim, and otherwise only by what it closes. -/
theorem event_step :
    (step setup root state e).event =
      if (fired root e).any (·.interaction = .showContextMenu) then some e.event.claim
      else if (e.kind = .click ∨ e.kind = .contextMenu) ∧
          ∃ m ∈ state.menus.list, m.display = .block then
        some e.event.preventDefault
      else some e.event := by
  have hevent := Situation.event_runAll setup ⟨state, some e.event⟩ (fired root e)
  rw [step_eq]
  cases hany : (fired root e).any (·.interaction = .showContextMenu) with
  | true =>
    rw [hany] at hevent
    exact hevent
  | false =>
    have hquiet : ∀ p ∈ fired root e, p.interaction ≠ .showContextMenu := by
      simpa using hany
    -- the document finds the menus that were there when the event was fired
    have hmenus : (Situation.runAll setup ⟨state, some e.event⟩ (fired root e)).state.menus =
        state.menus := Situation.menus_runAll hquiet
    rw [hany] at hevent
    simp only [Bool.false_eq_true, if_false] at hevent ⊢
    by_cases hkind : e.kind = .click ∨ e.kind = .contextMenu
    · rw [if_pos hkind, closeMenus, hmenus, hevent]
      simp only [hkind, true_and]
      rfl
    · rw [if_neg hkind, hevent, if_neg fun h => hkind h.1]

end Direct

/-- **The flags of an event.** In any state that a session reaches, an event comes back stopped
exactly if a policy that its target has for it asks for a menu, and with its default action
prevented exactly in this case and where it is a click of either button and a menu was open. Whether
the menu exists, whether the event has a place and what else fails makes no difference. -/
theorem flags_of_event (setup : Setup) (root : ElementNode) (script : List ScriptedEvent)
    (e : ScriptedEvent) :
    let session := ((Session.start setup root).value.replay script).value
    let event := (session.fire e).value.2
    (event.propagationStopped = true ↔ root.Claims e) ∧
    (event.defaultPrevented = true ↔ root.Claims e ∨
      (e.kind = .click ∨ e.kind = .contextMenu) ∧
        ∃ m ∈ session.state.menus.list, m.display = .block) ∧
    (event.kind, event.value, event.x, event.y) = (e.kind, e.value, e.x, e.y) := by
  intro session event
  have hsession : session = .bound setup root session.state := bound_session setup root script
  obtain ⟨marked, hfire, hstep⟩ := value_fire setup root session.state e
  have hevent : event = marked := by
    rw [← hsession] at hfire
    exact congrArg Prod.snd hfire
  rw [hevent]
  rw [Direct.event_step] at hstep
  by_cases hclaims : root.Claims e
  · rw [if_pos ((Direct.any_fired_iff root e).2 hclaims)] at hstep
    obtain rfl := Option.some.inj hstep
    exact ⟨iff_of_true rfl hclaims, iff_of_true rfl (.inl hclaims), rfl⟩
  · rw [if_neg (mt (Direct.any_fired_iff root e).1 hclaims)] at hstep
    by_cases hopen : (e.kind = .click ∨ e.kind = .contextMenu) ∧
        ∃ m ∈ session.state.menus.list, m.display = .block
    · rw [if_pos hopen] at hstep
      obtain rfl := Option.some.inj hstep
      exact ⟨iff_of_false nofun hclaims, iff_of_true rfl (.inr hopen), rfl⟩
    · rw [if_neg hopen] at hstep
      obtain rfl := Option.some.inj hstep
      exact ⟨iff_of_false nofun hclaims, iff_of_false nofun fun h => h.elim hclaims hopen, rfl⟩

end UiPolicy
