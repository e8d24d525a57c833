import UiPolicy.Proofs.Keyed
import UiPolicy.Proofs.Menu

/-!
# Menus under any calls

The menus of a page can be called in any order and with any keys, so that several may be open at
once. What every sequence of calls keeps is `Kept`: the keys are those that were registered, each
once and in the order of their first registration, and a menu that is open stands where the last
call for its key has shown it. One pass over the menus does a call and answers it (`perform_eq`).
As the keys are distinct, a search by key meets the one menu there is: a call for a key changes that
menu alone (`ChangesOne`), and all ways to ask which menus are open agree (`Agree`).
-/

namespace UiPolicy.Menus

/-- A call on the menus of a page. -/
inductive Call
  | register (key : String)
  | showAt (key : String) (x y : Float)
  | hide (key : String)
  | closeAll

/-- A list with the first menu of a key changed, if a menu has the key. -/
def changeFirst? (key : String) (f : Menu → Menu) : List Menu → Option (List Menu)
  | [] => none
  | m :: ms => if m.key = key then some (f m :: ms) else (changeFirst? key f ms).map (m :: ·)

/-- What a search for one menu leaves, and whether it found the menu. -/
def found (ms : Menus) : Option (List Menu) → Menus × Option Bool
  | some list => (⟨list⟩, some true)
  | none => (ms, some false)

/-- A list with its open menus taken away, and whether it held one. -/
def closeEach : List Menu → List Menu × Bool
  | [] => ([], false)
  | m :: ms =>
    let rest := closeEach ms
    if m.isOpen then (m.hide :: rest.1, true) else (m :: rest.1, rest.2)

namespace Call

/-- A call in one pass over the menus: what it leaves, and what it answers. -/
def perform (ms : Menus) : Call → Menus × Option Bool
  | register key => (ms.register key, none)
  | showAt key x y => ms.found (changeFirst? key (·.showAt x y) ms.list)
  | hide key => ms.found (changeFirst? key (·.hide) ms.list)
  | closeAll =>
    let closed := closeEach ms.list
    (⟨closed.1⟩, some closed.2)

def next (ms : Menus) : Call → Menus
  | register key => ms.register key
  | showAt key x y => ms.showAt key x y
  | hide key => ms.hide key
  | closeAll => ms.closeAll

/-- What a call answers: whether the menu of its key is there, or whether any menu was open. -/
def answer? (ms : Menus) : Call → Option Bool
  | register _ => none
  | showAt key _ _ => some (ms.contains key)
  | hide key => some (ms.contains key)
  | closeAll => some ms.anyOpen

def registered? : Call → Option String
  | register key => some key
  | _ => none

/-- Where a call shows the menu of a key. -/
def place? (key : String) : Call → Option (Float × Float)
  | showAt shown x y => if shown = key then some (x, y) else none
  | _ => none

end Call

/-- The menus after a sequence of calls, none being there at first. -/
def run (calls : List Call) : Menus :=
  calls.foldl Call.next .empty

/-- What holds of the menus after a sequence of calls. -/
structure Kept (calls : List Call) (ms : Menus) : Prop where
  nodup : ms.keys.Nodup
  keys_eq : ms.keys = (calls.filterMap Call.registered?).eraseDups
  placed : ∀ m ∈ ms.list, m.isOpen = true → ∃ x y,
    calls.reverse.findSome? (Call.place? m.key) = some (x, y) ∧ m.left = some x ∧ m.top = some y

/-- What a call for one key does: it answers whether the key is registered, and changes the menu of
that key alone. -/
structure ChangesOne (ms : Menus) (c : Call) (key : String) (f : Menu → Menu) : Prop where
  answer_false_iff : c.answer? ms = some false ↔ key ∉ ms.keys
  answer_true_iff : c.answer? ms = some true ↔ key ∈ ms.keys
  next_eq_self : key ∉ ms.keys → c.next ms = ms
  list_next : (c.next ms).list = ms.list.map fun m => if m.key = key then f m else m

/-- Whether all ways to ask which menus are open agree. -/
structure Agree (ms : Menus) : Prop where
  get?_eq_some_iff : ∀ key m, ms.get? key = some m ↔ m ∈ ms.list ∧ m.key = key
  isOpen_iff_get? : ∀ key, ms.isOpen key = true ↔ ∃ m, ms.get? key = some m ∧ m.isOpen = true
  isOpen_iff_mem : ∀ key, ms.isOpen key = true ↔ key ∈ ms.openKeys
  openKeys_eq_filter : ms.openKeys = ms.keys.filter ms.isOpen

/-! ## One menu among distinct keys -/

theorem modifyFirst_of_not_mem {key : String} {list : List Menu} (f : Menu → Menu)
    (h : key ∉ list.map (·.key)) : modifyFirst key f list = list := by
  induction list with
  | nil => rfl
  | cons m list ih =>
    obtain ⟨hm, hlist⟩ := not_or.1 (mt List.mem_cons.2 h)
    rw [modifyFirst, if_neg (Ne.symm hm), ih hlist]

/-- Where keys are distinct, the first menu of a key is the only one. -/
theorem modifyFirst_eq_map {list : List Menu} (h : (list.map (·.key)).Nodup) (key : String)
    (f : Menu → Menu) :
    modifyFirst key f list = list.map fun m => if m.key = key then f m else m := by
  induction list with
  | nil => rfl
  | cons m list ih =>
    obtain ⟨hm, hlist⟩ := List.nodup_cons.1 (List.map_cons ▸ h)
    rw [modifyFirst, List.map_cons]
    by_cases hkey : m.key = key
    · have hsame : ∀ m' ∈ list, (if m'.key = key then f m' else m') = m' := by
        intro m' hm'
        refine if_neg fun heq => hm ?_
        rw [hkey, ← heq]
        exact List.mem_map_of_mem hm'
      rw [if_pos hkey, if_pos hkey, List.map_congr_left hsame, List.map_id']
    · rw [if_neg hkey, if_neg hkey, ih hlist]

theorem changeFirst?_eq (key : String) (f : Menu → Menu) (list : List Menu) :
    changeFirst? key f list =
      if key ∈ list.map (·.key) then some (modifyFirst key f list) else none := by
  induction list with
  | nil => rfl
  | cons m list ih =>
    rw [changeFirst?, modifyFirst, ih]
    by_cases hm : m.key = key
    · simp [hm]
    · simp only [hm, if_false, List.map_cons, List.mem_cons, Ne.symm hm, false_or]
      split <;> rfl

theorem closeEach_eq (list : List Menu) :
    closeEach list = (list.map (·.hide), list.any (·.isOpen)) := by
  induction list with
  | nil => rfl
  | cons m list ih =>
    rw [closeEach, ih, List.map_cons, List.any_cons]
    cases hopen : m.isOpen with
    | true => rfl
    | false => rw [Menu.hide_of_not_isOpen hopen]; rfl

/-- One pass does what the operations do one by one. -/
theorem perform_eq (ms : Menus) (c : Call) : c.perform ms = (c.next ms, c.answer? ms) := by
  have hsearch : ∀ (key : String) (f : Menu → Menu), ms.found (changeFirst? key f ms.list) =
      (⟨modifyFirst key f ms.list⟩, some (ms.contains key)) := by
    intro key f
    rw [changeFirst?_eq]
    by_cases hkey : key ∈ ms.list.map (·.key)
    · rw [if_pos hkey, contains_iff.2 hkey]
      rfl
    · rw [if_neg hkey, modifyFirst_of_not_mem f hkey,
        Bool.eq_false_iff.2 (mt contains_iff.1 hkey)]
      rfl
  cases c with
  | register key => rfl
  | showAt key x y => exact hsearch key _
  | hide key => exact hsearch key _
  | closeAll => rw [Call.perform, closeEach_eq]; rfl

theorem changesOne_showAt {ms : Menus} (h : ms.keys.Nodup) (key : String) (x y : Float) :
    ChangesOne ms (.showAt key x y) key (·.showAt x y) where
  answer_false_iff := by simp [Call.answer?, ← contains_iff]
  answer_true_iff := by simp [Call.answer?, contains_iff]
  next_eq_self hkey := congrArg Menus.mk (modifyFirst_of_not_mem _ hkey)
  list_next := modifyFirst_eq_map h key _

theorem changesOne_hide {ms : Menus} (h : ms.keys.Nodup) (key : String) :
    ChangesOne ms (.hide key) key (·.hide) where
  answer_false_iff := by simp [Call.answer?, ← contains_iff]
  answer_true_iff := by simp [Call.answer?, contains_iff]
  next_eq_self hkey := congrArg Menus.mk (modifyFirst_of_not_mem _ hkey)
  list_next := modifyFirst_eq_map h key _

theorem agree {ms : Menus} (h : ms.keys.Nodup) : Agree ms where
  get?_eq_some_iff _ _ := Keyed.find?_eq_some_iff h
  isOpen_iff_get? key := by
    rw [isOpen]
    cases ms.get? key <;> simp
  isOpen_iff_mem _ := isOpen_iff h
  openKeys_eq_filter := by
    have hsame : ∀ m ∈ ms.list, ms.isOpen m.key = m.isOpen := by
      intro m hm
      have hget : ms.get? m.key = some m := (Keyed.find?_eq_some_iff h).2 ⟨hm, rfl⟩
      rw [isOpen, hget]
      rfl
    rw [openKeys, keys, List.filter_map]
    exact congrArg _ (List.filter_congr fun m hm => (hsame m hm).symm)

/-! ## What every call keeps -/

namespace Kept

variable {calls : List Call} {ms : Menus}

theorem start : Kept [] .empty :=
  ⟨List.nodup_nil, rfl, fun _ hm => nomatch hm⟩

/-- A call that registers nothing, and shows a menu only where it says. -/
theorem of_same_keys {c : Call} (h : Kept calls ms) (hc : c.registered? = none)
    (hkeys : (c.next ms).keys = ms.keys)
    (hplaced : ∀ m ∈ (c.next ms).list, m.isOpen = true →
      (∃ x y, c.place? m.key = some (x, y) ∧ m.left = some x ∧ m.top = some y) ∨
      c.place? m.key = none ∧ m ∈ ms.list) :
    Kept (calls ++ [c]) (c.next ms) where
  nodup := by rw [hkeys]; exact h.nodup
  keys_eq := by simp [hkeys, h.keys_eq, hc]
  placed m hm hopen := by
    rw [List.reverse_append, List.reverse_singleton, List.singleton_append, List.findSome?_cons]
    rcases hplaced m hm hopen with ⟨x, y, hplace, hleft, htop⟩ | ⟨hplace, hold⟩
    · exact ⟨x, y, by rw [hplace], hleft, htop⟩
    · rw [hplace]
      exact h.placed m hold hopen

theorem register (h : Kept calls ms) (key : String) :
    Kept (calls ++ [.register key]) (ms.register key) where
  nodup := nodup_keys_register h.nodup key
  keys_eq := by
    have hregistered : (calls ++ [Call.register key]).filterMap Call.registered? =
        calls.filterMap Call.registered? ++ [key] := by simp [Call.registered?]
    rw [keys_register, hregistered, List.eraseDups_append, h.keys_eq]
    generalize calls.filterMap Call.registered? = registered
    by_cases hkey : key ∈ registered <;> simp [List.removeAll, List.eraseDups_cons, hkey]
  placed m hm hopen := by
    have hold : m ∈ ms.list := by
      rw [Menus.register] at hm
      split at hm
      · exact hm
      · rcases List.mem_append.1 hm with hm | hm
        · exact hm
        · -- the new menu is hidden
          rw [List.mem_singleton.1 hm] at hopen
          cases hopen
    rw [List.reverse_append, List.reverse_singleton, List.singleton_append, List.findSome?_cons]
    exact h.placed m hold hopen

theorem showAt (h : Kept calls ms) (key : String) (x y : Float) :
    Kept (calls ++ [.showAt key x y]) (ms.showAt key x y) := by
  refine h.of_same_keys rfl (keys_showAt ms key x y) fun m hm _ => ?_
  rw [(changesOne_showAt h.nodup key x y).list_next] at hm
  obtain ⟨old, hold, rfl⟩ := List.mem_map.1 hm
  by_cases hkey : old.key = key
  · rw [if_pos hkey]
    exact .inl ⟨x, y, by simp [Call.place?, Menu.showAt, hkey], rfl, rfl⟩
  · rw [if_neg hkey]
    exact .inr ⟨if_neg (Ne.symm hkey), hold⟩

theorem hide (h : Kept calls ms) (key : String) : Kept (calls ++ [.hide key]) (ms.hide key) := by
  have hlist := (changesOne_hide h.nodup key).list_next
  refine h.of_same_keys rfl ?_ fun m hm hopen => .inr ⟨rfl, ?_⟩
  · rw [keys, keys, hlist, List.map_map]
    refine List.map_congr_left fun m _ => ?_
    by_cases hkey : m.key = key <;> simp [hkey, Menu.hide]
  · rw [hlist] at hm
    obtain ⟨old, hold, rfl⟩ := List.mem_map.1 hm
    by_cases hkey : old.key = key
    · rw [if_pos hkey] at hopen
      cases hopen
    · rw [if_neg hkey]
      exact hold

theorem closeAll (h : Kept calls ms) : Kept (calls ++ [.closeAll]) ms.closeAll := by
  refine h.of_same_keys rfl (keys_closeAll ms) fun m hm hopen => ?_
  obtain ⟨old, -, rfl⟩ := List.mem_map.1 hm
  cases hopen

/-- One more call. -/
theorem next (h : Kept calls ms) (c : Call) : Kept (calls ++ [c]) (c.next ms) := by
  cases c with
  | register key => exact h.register key
  | showAt key x y => exact h.showAt key x y
  | hide key => exact h.hide key
  | closeAll => exact h.closeAll

theorem foldl_next (h : Kept calls ms) (more : List Call) :
    Kept (calls ++ more) (more.foldl Call.next ms) := by
  induction more generalizing calls ms with
  | nil => rw [List.append_nil]; exact h
  | cons c more ih =>
    have hnext := ih (h.next c)
    rwa [List.append_assoc] at hnext

end Kept

theorem kept_run (calls : List Call) : Kept calls (run calls) :=
  Kept.start.foldl_next calls

/-! ## All calls -/

/-- **Menus stay in order under any calls.** After every sequence of calls the keys are the
registered ones, each once, in the order of first registration, and no later call removes one. A
menu that is open stands where the last call for its key has shown it. To show or to hide a menu
answers whether its key is registered and changes that menu alone, or nothing if there is none; to
register a known key changes nothing; to close all answers whether a menu was open, leaves none
open, and keeps keys and places. Each call is done and answered in one pass. All ways to ask which
menus are open agree. -/
theorem calls_keep_menus (calls : List Call) :
    let ms := run calls
    Kept calls ms ∧
    (∀ c : Call, c.perform ms = (c.next ms, c.answer? ms)) ∧
    (∀ more, ms.keys <+: (run (calls ++ more)).keys) ∧
    (∀ key x y, ChangesOne ms (.showAt key x y) key
      fun m => { m with display := .block, left := some x, top := some y }) ∧
    (∀ key, ChangesOne ms (.hide key) key fun m => { m with display := .none }) ∧
    (∀ key, ms.register key =
      if key ∈ ms.keys then ms else ⟨ms.list ++ [⟨key, .none, none, none⟩]⟩) ∧
    (Call.closeAll.answer? ms = some true ↔ ∃ m ∈ ms.list, m.isOpen = true) ∧
    (Call.closeAll.next ms).openKeys = [] ∧
    (Call.closeAll.next ms).list.map (fun m => (m.key, m.left, m.top)) =
      ms.list.map (fun m => (m.key, m.left, m.top)) ∧
    Agree ms := by
  intro ms
  have h : Kept calls ms := kept_run calls
  refine ⟨h, perform_eq ms, fun more => ?_, changesOne_showAt h.nodup, changesOne_hide h.nodup,
    fun key => ?_, ?_, ?_, ?_, agree h.nodup⟩
  · rw [(kept_run (calls ++ more)).keys_eq, h.keys_eq, List.filterMap_append,
      List.eraseDups_append]
    exact List.prefix_append _ _
  · rw [register]
    by_cases hkey : key ∈ ms.keys
    · rw [if_pos (contains_iff.2 hkey), if_pos hkey]
    · rw [if_neg (mt contains_iff.1 hkey), if_neg hkey]
      rfl
  · simp [Call.answer?, anyOpen]
  · rw [openKeys_eq]
    exact congrArg _ (shown_closeAll ms)
  · simp [Call.next, closeAll, Menu.hide]

end UiPolicy.Menus
