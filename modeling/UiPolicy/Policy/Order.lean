import UiPolicy.Policy

/-!
# Order of dispatch

Of an element's policies those of one action apply together, sorted by the label of their
interaction from the last to the first: `update` before `show_context_menu`, `context`, `callback`
and `call`. Policies of one label keep their order.
-/

namespace UiPolicy.Policy

/-- Whether the first policy may run before the second. -/
def precedes (p q : Policy) : Bool :=
  q.interaction.label ≤ p.interaction.label

/-- The policies of one action in the order in which they run. -/
def applicable (policies : List Policy) (action : Action) : List Policy :=
  (policies.filter (·.action = action)).mergeSort precedes

end UiPolicy.Policy
