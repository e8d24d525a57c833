import Mathlib.Data.List.Nodup
import UiPolicy.Menu

/-!
# Menus: what shows and what hides

A list of menus is seen through two views: `keys`, which never shrinks and holds each key once, and
`shown`, the menus that are open. Each operation is described by what it does to both. `toggle` is
the request of a policy to show a menu: everything is hidden, and the menu is shown only if it is
registered, was not shown, and the event says where (`shown_toggle`).
-/

namespace UiPolicy

@[simp] theorem Menu.isOpen_hide (m : Menu) : m.hide.isOpen = false := rfl

@[simp] theorem Menu.isOpen_showAt (m : Menu) (x y : Float) : (m.showAt x y).isOpen = true := rfl

theorem Menu.hide_of_not_isOpen {m : Menu} (h : m.isOpen = false) : m.hide = m := by
  obtain ⟨key, display, left, top⟩ := m
  cases display with
  | none => rfl
  | block => cases h

namespace Menus

/-! ## The views -/

/-- The keys of the menus, in the order of registration. -/
def keys (ms : Menus) : List String :=
  ms.list.map (·.key)

/-- The menus that are shown. -/
def shown (ms : Menus) : List Menu :=
  ms.list.filter (·.isOpen)

theorem openKeys_eq (ms : Menus) : ms.openKeys = ms.shown.map (·.key) := rfl

theorem contains_iff {ms : Menus} {key : String} : ms.contains key = true ↔ key ∈ ms.keys := by
  simp [contains, keys]

theorem anyOpen_iff {ms : Menus} :
    ms.anyOpen = true ↔ ∃ m ∈ ms.list, m.display = .block := by
  simp [anyOpen, Menu.isOpen]

theorem anyOpen_eq_false {ms : Menus} : ms.anyOpen = false ↔ ms.shown = [] := by
  simp [anyOpen, shown]

/-- A menu is shown exactly if its key is among the open ones, no key being there twice. -/
theorem isOpen_iff {ms : Menus} (h : ms.keys.Nodup) {key : String} :
    ms.isOpen key = true ↔ key ∈ ms.openKeys := by
  obtain ⟨list⟩ := ms
  simp only [isOpen, get?, openKeys, keys] at h ⊢
  induction list with
  | nil => simp
  | cons m list ih =>
    obtain ⟨hm, hlist⟩ := List.nodup_cons.1 (List.map_cons ▸ h)
    rw [List.find?_cons, List.filter_cons]
    by_cases hkey : m.key = key
    · have hnot : key ∉ (list.filter (·.isOpen)).map (·.key) := by
        intro hmem
        obtain ⟨m', hm', rfl⟩ := List.mem_map.1 hmem
        exact hm (hkey ▸ List.mem_map_of_mem (List.mem_filter.1 hm').1)
      cases hopen : m.isOpen with
      | true => simp [hkey, hopen]
      | false => simpa [hkey, hopen] using hnot
    · simp only [hkey, decide_false]
      rw [ih hlist]
      cases m.isOpen with
      | true => simp [Ne.symm hkey]
      | false => rfl

/-! ## Registering -/

theorem keys_register (ms : Menus) (key : String) :
    (ms.register key).keys = if key ∈ ms.keys then ms.keys else ms.keys ++ [key] := by
  unfold register
  by_cases h : key ∈ ms.keys
  · rw [if_pos (contains_iff.2 h), if_pos h]
  · rw [if_neg (mt contains_iff.1 h), if_neg h]
    simp [keys, Menu.hidden]

theorem nodup_keys_register {ms : Menus} (h : ms.keys.Nodup) (key : String) :
    (ms.register key).keys.Nodup := by
  rw [keys_register]
  split
  · exact h
  · next hkey =>
    refine List.nodup_append.2 ⟨h, List.nodup_singleton key, fun a ha b hb hab => hkey ?_⟩
    rw [← List.mem_singleton.1 hb, ← hab]
    exact ha

/-! ## Registering several -/

theorem nodup_keys_foldl_register {ms : Menus} (h : ms.keys.Nodup) (ids : List String) :
    (ids.foldl register ms).keys.Nodup := by
  induction ids generalizing ms with
  | nil => exact h
  | cons id ids ih => exact ih (nodup_keys_register h id)

/-- Menus that are not there yet are added hidden, each key once, in the order in which the keys
first occur. -/
theorem list_foldl_register (ms : Menus) (ids : List String) :
    (ids.foldl register ms).list = ms.list ++ (ids.removeAll ms.keys).eraseDups.map .hidden := by
  induction ids generalizing ms with
  | nil => exact (List.append_nil _).symm
  | cons id ids ih =>
    rw [List.foldl_cons, ih]
    by_cases h : id ∈ ms.keys
    · have hregister : ms.register id = ms := if_pos (contains_iff.2 h)
      have hknown : (id :: ids).removeAll ms.keys = ids.removeAll ms.keys := by
        simp [List.removeAll, h]
      rw [hregister, hknown]
    · have hregister : ms.register id = ⟨ms.list ++ [.hidden id]⟩ := if_neg (mt contains_iff.1 h)
      have hnew : (id :: ids).removeAll ms.keys = id :: ids.removeAll ms.keys := by
        simp [List.removeAll, h]
      have hkeys : (Menus.mk (ms.list ++ [.hidden id])).keys = ms.keys ++ [id] := by
        simp [keys, Menu.hidden]
      have hrest : ids.removeAll (ms.keys ++ [id]) =
          (ids.removeAll ms.keys).filter (fun key => !key == id) := by
        rw [List.removeAll, List.removeAll, List.filter_filter]
        refine List.filter_congr fun key _ => ?_
        by_cases hkey : key = id <;> simp [hkey]
      rw [hregister, hnew, hkeys, hrest, List.eraseDups_cons, List.map_cons, List.append_assoc,
        List.singleton_append]

/-! ## Hiding all and showing one -/

@[simp] theorem keys_closeAll (ms : Menus) : ms.closeAll.keys = ms.keys := by
  simp [keys, closeAll, Menu.hide]

@[simp] theorem shown_closeAll (ms : Menus) : ms.closeAll.shown = [] := by
  simp [shown, closeAll]

theorem closeAll_of_shown_eq_nil {ms : Menus} (h : ms.shown = []) : ms.closeAll = ms := by
  obtain ⟨list⟩ := ms
  have hclosed : ∀ m ∈ list, m.hide = m := fun m hm =>
    Menu.hide_of_not_isOpen (by simpa using List.filter_eq_nil_iff.1 h m hm)
  simp only [closeAll, Menus.mk.injEq]
  exact (List.map_congr_left hclosed).trans (List.map_id' list)

@[simp] theorem keys_showAt (ms : Menus) (key : String) (x y : Float) :
    (ms.showAt key x y).keys = ms.keys := by
  obtain ⟨list⟩ := ms
  simp only [keys, showAt]
  induction list with
  | nil => rfl
  | cons m list ih =>
    unfold modifyFirst
    split
    · rfl
    · rw [List.map_cons, List.map_cons, ih]

/-- Among hidden menus, the one that is shown at a place is the only one shown. -/
theorem shown_showAt {ms : Menus} (h : ms.shown = []) {key : String} (hkey : key ∈ ms.keys)
    (x y : Float) : (ms.showAt key x y).shown = [⟨key, .block, some x, some y⟩] := by
  obtain ⟨list⟩ := ms
  simp only [shown, showAt, keys] at h hkey ⊢
  induction list with
  | nil => cases hkey
  | cons m list ih =>
    have hclosed : m.isOpen = false := by
      simpa using List.filter_eq_nil_iff.1 h m List.mem_cons_self
    rw [List.filter_cons_of_neg (by simp [hclosed])] at h
    unfold modifyFirst
    split
    · next heq =>
      rw [List.filter_cons_of_pos (Menu.isOpen_showAt m x y), h, ← heq]
      rfl
    · next hne =>
      rw [List.filter_cons_of_neg (by simp [hclosed])]
      refine ih h ((List.mem_cons.1 (List.map_cons ▸ hkey)).resolve_left ?_)
      exact fun heq => hne heq.symm

/-! ## Asking for a menu -/

/-- The menus after a policy asked for the one of a key: all are hidden, and the one of the key is
shown at the place of the event if it is registered and was not shown before. -/
def toggle (ms : Menus) (key : String) (place : Option (Float × Float)) : Menus :=
  match place with
  | some (x, y) =>
    if ms.contains key = true ∧ ms.isOpen key = false then ms.closeAll.showAt key x y
    else ms.closeAll
  | none => ms.closeAll

@[simp] theorem keys_toggle (ms : Menus) (key : String) (place : Option (Float × Float)) :
    (ms.toggle key place).keys = ms.keys := by
  unfold toggle
  split
  · split <;> simp
  · simp

/-- After a policy asked for a menu at most that one is shown, at the place of the event. -/
theorem shown_toggle {ms : Menus} (h : ms.keys.Nodup) (key : String) (x y : Float) :
    (ms.toggle key (some (x, y))).shown =
      if key ∈ ms.keys ∧ key ∉ ms.openKeys then [⟨key, .block, some x, some y⟩] else [] := by
  have hiff : (ms.contains key = true ∧ ms.isOpen key = false) ↔
      (key ∈ ms.keys ∧ key ∉ ms.openKeys) := by
    rw [contains_iff, ← isOpen_iff h, Bool.not_eq_true]
  simp only [toggle, hiff]
  split
  · next hkey => exact shown_showAt (shown_closeAll ms) (keys_closeAll ms ▸ hkey.1) x y
  · exact shown_closeAll ms

@[simp] theorem shown_toggle_none (ms : Menus) (key : String) :
    (ms.toggle key none).shown = [] :=
  shown_closeAll ms

end Menus

end UiPolicy
