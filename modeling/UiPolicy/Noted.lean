import UiPolicy.Notice

/-!
# Results with notices

A computation that gives notices on the way. Notices are only ever added, and nothing that is
computed hangs on them.
-/

namespace UiPolicy

/-- A result and the notices that were given before it. -/
structure Noted (α : Type) where
  value : α
  notices : List Notice
deriving Repr

namespace Noted

instance : Monad Noted where
  pure a := ⟨a, []⟩
  bind m f := ⟨(f m.value).value, m.notices ++ (f m.value).notices⟩

@[simp] theorem value_pure {α : Type} (a : α) : (pure a : Noted α).value = a := rfl

@[simp] theorem notices_pure {α : Type} (a : α) : (pure a : Noted α).notices = [] := rfl

@[simp] theorem value_bind {α β : Type} (m : Noted α) (f : α → Noted β) :
    (m >>= f).value = (f m.value).value := rfl

@[simp] theorem notices_bind {α β : Type} (m : Noted α) (f : α → Noted β) :
    (m >>= f).notices = m.notices ++ (f m.value).notices := rfl

end Noted

def note (n : Notice) : Noted Unit :=
  ⟨(), [n]⟩

@[simp] theorem notices_note (n : Notice) : (note n).notices = [n] := rfl

def noteAll (ns : List Notice) : Noted Unit :=
  ⟨(), ns⟩

@[simp] theorem notices_noteAll (ns : List Notice) : (noteAll ns).notices = ns := rfl

end UiPolicy
