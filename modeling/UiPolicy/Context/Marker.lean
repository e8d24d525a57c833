import UiPolicy.Context.Store
import UiPolicy.Error
import UiPolicy.Text.Uppercase

/-!
# Context markers

A policy text may refer to the context: a marker is `_context_value(`, a key without a closing
bracket, and `)`. Resolution replaces the leftmost marker by the value of its key until none is
left. A value may itself bring markers, so a pass that does not lower their number is charged
against a limit.

* `cut` takes a text apart at its leftmost marker, and `count` counts its markers from the left.
* `resolveText` is the loop. It ends because a pass either lowers the number of markers or uses up
  one of the passes that are left.
-/

namespace UiPolicy.Context.Marker

/-- What a marker starts with. -/
def opening : List Char :=
  "_context_value(".toList

/-- A text taken apart at a marker. -/
structure Cut where
  before : List Char
  key : List Char
  after : List Char
deriving Repr, DecidableEq

/-- What follows an opening at the start of a text. -/
def afterOpening? (cs : List Char) : Option (List Char) :=
  if opening.isPrefixOf cs then some (cs.drop opening.length) else none

/-- The text taken apart at the first opening, its key taken up to the closing bracket. An opening
without a closing bracket after it is no marker, and neither is any later one. -/
def cut : List Char → Option Cut
  | [] => none
  | c :: cs =>
    match afterOpening? (c :: cs) with
    | some rest =>
      match rest.dropWhile (· ≠ ')') with
      | [] => none
      | _ :: after => some ⟨[], rest.takeWhile (· ≠ ')'), after⟩
    | none => (cut cs).map fun m => { m with before := c :: m.before }

theorem length_after_lt {cs : List Char} {m : Cut} (h : cut cs = some m) :
    m.after.length < cs.length := by
  induction cs generalizing m with
  | nil => simp [cut] at h
  | cons c cs ih =>
    unfold cut at h
    split at h
    · next rest hrest =>
      split at h
      · simp at h
      · next d after hdrop =>
        obtain rfl := Option.some.inj h
        have hle : (rest.dropWhile (· ≠ ')')).length ≤ rest.length :=
          (List.dropWhile_sublist _).length_le
        have hrest' : rest.length ≤ (c :: cs).length := by
          unfold afterOpening? at hrest
          split at hrest
          · obtain rfl := Option.some.inj hrest
            simp
          · simp at hrest
        rw [hdrop] at hle
        simp only [List.length_cons] at hle hrest' ⊢
        omega
    · obtain ⟨m', hm', rfl⟩ := Option.map_eq_some_iff.1 h
      have := ih hm'
      simp only [List.length_cons]
      omega

/-- The number of markers that a text holds side by side. -/
def count (cs : List Char) : Nat :=
  match h : cut cs with
  | none => 0
  | some m =>
    have := length_after_lt h
    count m.after + 1
termination_by cs.length

/-- How a value is written into a policy: a text that starts with a capital is quoted. -/
def literal (value : List Char) : List Char :=
  match value with
  | [] => []
  | c :: _ => if Text.isUppercase c then '"' :: (value ++ ['"']) else value

def Cut.fill (m : Cut) (value : List Char) : List Char :=
  m.before ++ literal value ++ m.after

/-- The outcome of resolution: the resolved text, or the text that was reached when the passes were
used up; and the keys that had no value. -/
structure Resolution where
  outcome : Except (List Char) (List Char)
  missing : List String

/-- The text with every marker replaced, with `left` passes that need not lower their number. -/
def resolveText (store : Store) (left : Nat) (text : List Char) : Resolution :=
  match cut text with
  | none => ⟨.ok text, []⟩
  | some m =>
    let key := String.ofList m.key
    let value := store.get? key
    let next := m.fill (value.getD "").toList
    let missing := if value.isNone then [key] else []
    let r :=
      if count next < count text then resolveText store left next
      else
        match left with
        | 0 => ⟨.error next, []⟩
        | left + 1 => resolveText store left next
    { r with missing := missing ++ r.missing }
termination_by (left, count text)

def isIn (text : String) : Bool :=
  (cut text.toList).isSome

/-- How a value is written into a policy. -/
def quoteLiteral (value : String) : String :=
  String.ofList (literal value.toList)

/-- The keys without a value that resolution meets, in order. -/
def missingKeys (store : Store) (maxPasses : Nat) (text : String) : List String :=
  (resolveText store maxPasses text.toList).missing

/-- The policy text with every marker replaced, or the text that was reached when more than
`maxPasses` passes did not lower the number of markers. -/
def resolve (store : Store) (maxPasses : Nat) (text : String) : Except PolicyError String :=
  match (resolveText store maxPasses text.toList).outcome with
  | .ok text => .ok (String.ofList text)
  | .error text => .error (.resolveLimitExceeded maxPasses (String.ofList text))

end UiPolicy.Context.Marker
