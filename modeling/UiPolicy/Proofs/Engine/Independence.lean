import UiPolicy.Proofs.Engine.Effect

/-!
# The independence of the kinds of policies

A situation falls into three parts: the elements, the menus, and the context with the requests.
Every policy acts on one of them at most (`Policy.part?`), and `Situation.slice` takes a part out of
a situation. Running a policy and then taking a part is the same as taking the part first
(`Situation.slice_run`), and so it is for lists (`Situation.slice_runAll`), where only the policies
of that part are left to run.

The parts make up the situation (`Situation.eq_of_slices`). So the order of policies matters only
among those of one part: `dispatch_eq_of_parts`.
-/

namespace UiPolicy

/-- What a policy can act on. -/
inductive Part
  | elements
  | menus
  | context
deriving Repr, DecidableEq

/-- The part that a policy acts on, if its interaction is known. -/
def Policy.part? (p : Policy) : Option Part :=
  match p.interaction with
  | .update => some .elements
  | .showContextMenu => some .menus
  | .context | .call | .callback => some .context
  | .unknown _ => none

/-- An event as it is before anyone has marked it. -/
def Event.unmarked (e : Event) : Event :=
  { e with defaultPrevented := false, propagationStopped := false }

namespace Situation

/-- One part of a situation, with everything else left out. The elements are taken with the native
objects and with what these and the tags were told, the menus with the event that they mark, and the
context with the requests and with the event as it was before it was marked. -/
def slice (s : Situation) : Part → Situation
  | .elements =>
    ⟨{ State.empty with
        elements := s.state.elements
        hosted := s.state.hosted
        nextObject := s.state.nextObject
        notifications := s.state.notifications }, none⟩
  | .menus => ⟨{ State.empty with menus := s.state.menus }, s.event⟩
  | .context =>
    ⟨{ State.empty with
        context := s.state.context
        recorded := s.state.recorded
        posted := s.state.posted }, s.event.map Event.unmarked⟩

/-- Nothing of a situation is outside its parts. -/
theorem eq_of_slices {s t : Situation} (h : ∀ k, s.slice k = t.slice k) : s = t := by
  have helements := h .elements
  have hmenus := h .menus
  have hcontext := h .context
  rcases s with ⟨⟨⟩, event⟩
  rcases t with ⟨⟨⟩, event'⟩
  simp only [slice, mk.injEq, State.mk.injEq, true_and, and_true] at helements hmenus hcontext
  simp only [mk.injEq, State.mk.injEq]
  tauto

section Step

variable (setup : Setup) (s : Situation) {p : Policy} (k : Part)

theorem slice_run_update (hp : p.interaction = .update) :
    (s.run setup p).slice k = if .elements = k then (s.slice k).run setup p else s.slice k := by
  rw [run_update hp, run_update hp]
  cases k with
  | elements =>
    have helements : (s.slice .elements).state.elements = s.state.elements := rfl
    rw [if_pos rfl, helements]
    cases s.state.elements.assignment? p.text with
    | none => rfl
    | some _ => simp only [State.updateAttribute_eq]; rfl
  | _ =>
    rw [if_neg nofun]
    cases s.state.elements.assignment? p.text with
    | none => rfl
    | some _ => simp only [State.updateAttribute_eq]; rfl

theorem slice_run_showContextMenu (hp : p.interaction = .showContextMenu) :
    (s.run setup p).slice k = if .menus = k then (s.slice k).run setup p else s.slice k := by
  rw [run_showContextMenu hp, run_showContextMenu hp]
  cases k with
  | elements | menus => rfl
  | context =>
    -- the marks of the event are not part of the context
    have hmarks : Event.unmarked ∘ Event.claim = Event.unmarked := rfl
    simp only [slice, Option.map_map, hmarks]
    rfl

theorem slice_run_context (hp : p.interaction = .context) :
    (s.run setup p).slice k = if .context = k then (s.slice k).run setup p else s.slice k := by
  rw [run_context hp, run_context hp]
  cases k with
  | context =>
    have hlive : (s.slice .context).event.bind (·.value) = s.event.bind (·.value) := by
      cases hevent : s.event <;> simp only [slice, hevent] <;> rfl
    rw [if_pos rfl, hlive]
    cases contextEntry? p.text (s.event.bind (·.value)) <;> rfl
  | _ =>
    rw [if_neg nofun]
    cases contextEntry? p.text (s.event.bind (·.value)) <;> rfl

theorem slice_run_submits (hp : p.submits) :
    (s.run setup p).slice k = if .context = k then (s.slice k).run setup p else s.slice k := by
  rw [run_submits hp, run_submits hp]
  cases k with
  | context =>
    have hcontext : (s.slice .context).state.context = s.state.context := rfl
    rw [if_pos rfl, hcontext]
    cases Context.Marker.resolve s.state.context setup.maxPasses p.text with
    | error e => rfl
    | ok function => cases hs : setup.submitter <;> rfl
  | _ =>
    rw [if_neg nofun]
    cases Context.Marker.resolve s.state.context setup.maxPasses p.text with
    | error e => rfl
    | ok function => cases hs : setup.submitter <;> rfl

/-- A policy is seen by its own part only, and sees no other. -/
theorem slice_run (p : Policy) :
    (s.run setup p).slice k = if p.part? = some k then (s.slice k).run setup p else s.slice k := by
  cases hp : p.interaction with
  | update =>
    simpa only [Policy.part?, hp, Option.some.injEq] using slice_run_update setup s k hp
  | showContextMenu =>
    simpa only [Policy.part?, hp, Option.some.injEq] using slice_run_showContextMenu setup s k hp
  | context =>
    simpa only [Policy.part?, hp, Option.some.injEq] using slice_run_context setup s k hp
  | call =>
    simpa only [Policy.part?, hp, Option.some.injEq] using slice_run_submits setup s k (.inl hp)
  | callback =>
    simpa only [Policy.part?, hp, Option.some.injEq] using slice_run_submits setup s k (.inr hp)
  | unknown label =>
    rw [run_unknown hp]
    simp only [Policy.part?, hp, reduceCtorEq, if_false]

end Step

/-- On a part of the situation, a list of policies acts as its policies of that part do alone. -/
theorem slice_runAll (setup : Setup) (s : Situation) (ps : List Policy) (k : Part) :
    (s.runAll setup ps).slice k =
      (s.slice k).runAll setup (ps.filter (·.part? = some k)) := by
  induction ps generalizing s with
  | nil => rfl
  | cons p ps ih =>
    rw [runAll_cons, ih, slice_run, List.filter_cons]
    by_cases hp : p.part? = some k <;> simp only [hp, decide_true, decide_false, if_true, if_false,
      runAll_cons, Bool.false_eq_true]

end Situation

/-- Two lists of policies do the same, in every situation, if for each part they have the same
policies of that part in the same order. How the policies of different parts stand to one another
does not matter, nor do policies of an unknown interaction, wherever they stand. -/
theorem dispatch_eq_of_parts (setup : Setup) (element : String) {ps qs : List Policy}
    (h : ∀ k : Part, ps.filter (·.part? = some k) = qs.filter (·.part? = some k)) (s : Situation) :
    (dispatch setup element ps s).value = (dispatch setup element qs s).value := by
  rw [value_dispatch, value_dispatch]
  refine Situation.eq_of_slices fun k => ?_
  rw [Situation.slice_runAll, Situation.slice_runAll, h k]

/-- An update that fails, a menu, two writes of the context and a callback that runs out of passes,
in another order and with a policy of an unknown interaction. -/
theorem dispatch_eq_of_parts_shuffled :
    let setup : Setup := ⟨0, .recorder true, true⟩
    let clicked : Situation := ⟨.empty, some (.fresh .click (some "x") none none)⟩
    let update : Policy := ⟨.click, .update, "(e,color,red)"⟩
    let menu : Policy := ⟨.click, .showContextMenu, "m"⟩
    let first : Policy := ⟨.click, .context, "(a,_value)"⟩
    let second : Policy := ⟨.click, .context, "(b,_context_value(a))"⟩
    let callback : Policy := ⟨.click, .callback, "f(_context_value(b))"⟩
    let unknown : Policy := ⟨.click, .unknown "blink", "e"⟩
    let ps := [update, menu, first, second, callback]
    let qs := [first, menu, second, unknown, callback, update]
    (∀ k : Part, ps.filter (·.part? = some k) = qs.filter (·.part? = some k)) ∧
    (dispatch setup "e" ps clicked).value = (dispatch setup "e" qs clicked).value := by
  intro setup clicked update menu first second callback unknown ps qs
  have hparts : ∀ k : Part,
      ps.filter (·.part? = some k) = qs.filter (·.part? = some k) := by
    intro k
    cases k <;> decide
  exact ⟨hparts, dispatch_eq_of_parts setup "e" hparts clicked⟩

end UiPolicy
