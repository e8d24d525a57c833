import Mathlib.Data.Option.NAry
import UiPolicy.Proofs.Session.Start

/-!
# The open menu as an automaton

Policies that ask for a menu and clicks that reach the document both close menus. Together they
drive one automaton, whose state is the menu that is open, if any, with its place: `Popup.ask` is
the request of a policy, `Popup.step` an event, `Popup.run` a script. The automaton reads the tree
and the script alone. `Follows` relates menus to a state of it; every event keeps it
(`Follows.step`), so the menus of a session are at any time those of the automaton
(`menus_follow_popup`).
-/

namespace UiPolicy

/-- A menu that is open, and where. -/
structure Popup where
  key : String
  x : Float
  y : Float

namespace Popup

/-- The menu that shows a popup. -/
def menu (o : Popup) : Menu :=
  ⟨o.key, .block, some o.x, some o.y⟩

variable (root : ElementNode)

/-- The keys that the policies fired by an event ask for, in order. -/
def asked (e : ScriptedEvent) : List String :=
  ((Direct.fired root e).filter (·.interaction = .showContextMenu)).map (menuKey ·.text)

/-- A request for a menu: it opens at the place of the event if the tree has it, both coordinates
are known, and it was not open before. Any other menu closes. -/
def ask (x y : Option Float) (o : Option Popup) (key : String) : Option Popup :=
  match x, y with
  | some x, some y =>
    if key ∈ root.menuIds ∧ o.map (·.key) ≠ some key then some ⟨key, x, y⟩ else none
  | _, _ => none

/-- An event: the requests of its policies in turn, or, if there are none, a click beside the
menu. -/
def step (o : Option Popup) (e : ScriptedEvent) : Option Popup :=
  if (asked root e).isEmpty then
    if e.kind = .click ∨ e.kind = .contextMenu then none else o
  else (asked root e).foldl (ask root e.x e.y) o

/-- A script, with no menu open at its start. -/
def run (script : List ScriptedEvent) : Option Popup :=
  script.foldl (step root) none

end Popup

/-- The pointer has a place where both coordinates are known. -/
theorem Event.coordinates?_eq (event : Option Event) :
    event.bind (·.coordinates?) = Option.map₂ Prod.mk (event.bind (·.x)) (event.bind (·.y)) := by
  cases event with
  | none => rfl
  | some event =>
    obtain ⟨kind, value, x, y, prevented, stopped⟩ := event
    cases x <;> cases y <;> rfl

/-- Whether the menus of a tree are in a state of the automaton. -/
structure Follows (root : ElementNode) (menus : Menus) (o : Option Popup) : Prop where
  nodup : menus.keys.Nodup
  mem_keys : ∀ key, key ∈ menus.keys ↔ key ∈ root.menuIds
  shown : menus.shown = o.toList.map Popup.menu

namespace Follows

variable {root : ElementNode} {menus : Menus} {o : Option Popup}

theorem openKeys (h : Follows root menus o) : menus.openKeys = o.toList.map (·.key) := by
  rw [Menus.openKeys_eq, h.shown, List.map_map]
  rfl

theorem closeAll (h : Follows root menus o) : Follows root menus.closeAll none where
  nodup := by rw [Menus.keys_closeAll]; exact h.nodup
  mem_keys key := by rw [Menus.keys_closeAll]; exact h.mem_keys key
  shown := Menus.shown_closeAll menus

/-- Asking for a menu keeps in step with the automaton. -/
theorem toggle (h : Follows root menus o) (key : String) (x y : Option Float) :
    Follows root (menus.toggle key (Option.map₂ Prod.mk x y)) (Popup.ask root x y o key) where
  nodup := by rw [Menus.keys_toggle]; exact h.nodup
  mem_keys k := by rw [Menus.keys_toggle]; exact h.mem_keys k
  shown := by
    cases x with
    | none => exact Menus.shown_toggle_none menus key
    | some x =>
      cases y with
      | none => exact Menus.shown_toggle_none menus key
      | some y =>
        have hopen : key ∉ menus.openKeys ↔ o.map (·.key) ≠ some key := by
          rw [h.openKeys]
          cases o with
          | none => simp
          | some popup => simp [eq_comm]
        rw [Option.map₂_some_some, Menus.shown_toggle h.nodup]
        simp only [h.mem_keys, hopen, Popup.ask]
        split <;> rfl

/-- Running policies keeps in step with the requests among them. -/
theorem runAll {setup : Setup} {s : Situation} {ps : List Policy}
    (h : Follows root s.state.menus o) :
    Follows root (s.runAll setup ps).state.menus
      (((ps.filter (·.interaction = .showContextMenu)).map (menuKey ·.text)).foldl
        (Popup.ask root (s.event.bind (·.x)) (s.event.bind (·.y))) o) := by
  induction ps generalizing s o with
  | nil => exact h
  | cons p ps ih =>
    rw [Situation.runAll_cons]
    have hmenus := s.menus_run setup p
    have hevent := s.event_run setup p
    by_cases hp : p.interaction = .showContextMenu
    · rw [if_pos hp] at hmenus hevent
      -- a marked event is still where it was
      have hplace : (s.run setup p).event.bind (·.x) = s.event.bind (·.x) ∧
          (s.run setup p).event.bind (·.y) = s.event.bind (·.y) := by
        rw [hevent]
        cases s.event <;> exact ⟨rfl, rfl⟩
      rw [List.filter_cons_of_pos (by simpa using hp), List.map_cons, List.foldl_cons,
        ← hplace.1, ← hplace.2]
      refine ih ?_
      rw [hmenus, hplace.1, hplace.2, Event.coordinates?_eq]
      exact h.toggle _ _ _
    · rw [if_neg hp] at hmenus hevent
      rw [List.filter_cons_of_neg (by simpa using hp), ← hevent]
      exact ih (hmenus ▸ h)

/-- An event keeps in step with the automaton. -/
theorem step (setup : Setup) {state : State} (h : Follows root state.menus o)
    (e : ScriptedEvent) :
    Follows root (Direct.step setup root state e).state.menus (Popup.step root o e) := by
  have hrun : Follows root
      (Situation.runAll setup ⟨state, some e.event⟩ (Direct.fired root e)).state.menus
      ((Popup.asked root e).foldl (Popup.ask root e.x e.y) o) :=
    runAll (s := ⟨state, some e.event⟩) h
  have hasked : (Popup.asked root e).isEmpty =
      !(Direct.fired root e).any (·.interaction = .showContextMenu) := by
    rw [Bool.eq_iff_iff]
    simp [Popup.asked]
  rw [Direct.step_eq, Popup.step, hasked]
  cases hany : (Direct.fired root e).any (·.interaction = .showContextMenu) with
  | true => exact hrun
  | false =>
    have hnil : Popup.asked root e = [] := List.isEmpty_iff.1 (by rw [hasked, hany]; rfl)
    rw [hnil] at hrun
    simp only [Bool.not_false, if_true, Bool.false_eq_true, if_false]
    split
    · rw [Direct.closeMenus_eq]
      exact hrun.closeAll
    · exact hrun

/-- A session begins with the menus of its tree, none of them open. -/
theorem start (setup : Setup) (root : ElementNode) :
    Follows root (Direct.start setup root).menus none := by
  have hmenus : (Direct.start setup root).menus = .ofTree root :=
    congrArg State.menus (Direct.start_eq setup root)
  rw [hmenus]
  exact ⟨Menus.nodup_keys_ofTree root, fun key => Menus.mem_keys_ofTree, Menus.shown_ofTree root⟩

/-- A script keeps in step with the automaton. -/
theorem foldl_step (setup : Setup) {state : State} (h : Follows root state.menus o)
    (script : List ScriptedEvent) :
    Follows root (Direct.run setup root state script).menus
      (script.foldl (Popup.step root) o) := by
  induction script generalizing state o with
  | nil => exact h
  | cons e script ih => exact ih (h.step setup e)

theorem run (setup : Setup) (root : ElementNode) (script : List ScriptedEvent) :
    Follows root (Direct.run setup root (Direct.start setup root) script).menus
      (Popup.run root script) :=
  (start setup root).foldl_step setup script

end Follows

/-- **The menus of a session are those of the automaton.** After every script at most one menu is
open: the one that the automaton has open, at the place of the event that opened it. -/
theorem menus_follow_popup (setup : Setup) (root : ElementNode) (script : List ScriptedEvent) :
    let menus := ((Session.start setup root).value.replay script).value.state.menus
    menus.openKeys.length ≤ 1 ∧
    menus.openKeys = (Popup.run root script).toList.map (·.key) ∧
    menus.list.filter (·.display = .block) = (Popup.run root script).toList.map Popup.menu := by
  intro menus
  have h : Follows root menus (Popup.run root script) := by
    have hsession := value_session setup root script
    rw [show menus = ((Session.start setup root).value.replay script).value.state.menus from rfl,
      hsession]
    exact Follows.run setup root script
  refine ⟨?_, h.openKeys, h.shown⟩
  rw [h.openKeys, List.length_map]
  cases Popup.run root script with
  | none => exact Nat.zero_le 1
  | some popup => exact Nat.le_refl 1

/-- A policy opens a menu where the pointer is and hides it again when it asks once more, a policy
for another menu replaces it, and a click beside the elements closes it. -/
theorem menus_follow_popup_toggled :
    let setup : Setup := ⟨64, .recorder true, false⟩
    let root : ElementNode := .mk "r" "page" "" [] []
      [.mk "m" "context_menu" "r" [] [] [], .mk "n" "contextmenu" "r" [] [] [],
        .mk "a" "button" "r" []
          [⟨.rightClick, .showContextMenu, " m\t"⟩, ⟨.click, .showContextMenu, "n"⟩] []]
    let shown (script : List ScriptedEvent) :=
      ((Session.start setup root).value.replay script).value.state.menus.list.filter
        (·.display = .block)
    let first : ScriptedEvent := ⟨"a", .contextMenu, none, some 1, some 2⟩
    let second : ScriptedEvent := ⟨"a", .click, none, some 3, some 4⟩
    let beside : ScriptedEvent := ⟨"b", .click, none, some 1, some 2⟩
    shown [first] = [⟨"m", .block, some 1, some 2⟩] ∧ shown [first, first] = [] ∧
    shown [first, second] = [⟨"n", .block, some 3, some 4⟩] ∧ shown [first, beside] = [] := by
  intro setup root shown first second beside
  have hshown (script : List ScriptedEvent) :
      shown script = (Popup.run root script).toList.map Popup.menu :=
    (menus_follow_popup setup root script).2.2
  simp only [hshown]
  refine ⟨?opened, ?hidden, ?replaced, ?closed⟩
  case opened => cbv
  case hidden => cbv
  case replaced => cbv
  case closed => cbv

end UiPolicy
