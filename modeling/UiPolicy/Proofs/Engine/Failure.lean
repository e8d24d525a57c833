import UiPolicy.Proofs.Engine.Notices

/-!
# Failures are noted and skipped

A policy that fails leaves no trace but a warning. `failures` names the policies of a list that
fail, each run in the situation that the ones before it leave, with nothing left by a failed one.
Leaving out a policy where it fails changes nothing (`Situation.runAll_of_error`), and the warnings
of `dispatch` are those of `failures`, one for each and in order (`warnings_dispatch`): the
interpreters give other notices but never this one (`failureRecords_interpret`).
-/

namespace UiPolicy

open Logging

/-- The policies that fail when a list of them is run, each with its error, in order. -/
def failures (setup : Setup) : List Policy → Situation → List (Policy × PolicyError)
  | [], _ => []
  | p :: ps, s =>
    match (interpret setup s p).value.result with
    | .ok () => failures setup ps (s.run setup p)
    | .error e => (p, e) :: failures setup ps s

/-- The message of the warning for a policy that failed. -/
def failureMessage : String :=
  "Policy evaluation failed"

/-- The log record for a policy of an element that failed. -/
def failureRecord (element : String) (p : Policy) (e : PolicyError) : Record :=
  ⟨.warn, "when_engine::binder", failureMessage,
    [("element", .quoted element), ("action", .plain p.action.label),
      ("interaction", .plain p.interaction.label), ("policy", .plain p.text),
      ("error", .plain e.message)]⟩

/-- The log records among some notices that say that a policy failed. -/
def failureRecords (notices : List Notice) : List Record :=
  (notices.map Notice.record).filter (·.message = failureMessage)

/-- No other notice has the message of a failed policy. -/
@[simp] theorem Notice.message_record_eq {n : Notice} :
    n.record.message = failureMessage ↔ ∃ element p e, n = .policyFailed element p e := by
  cases n with
  | policyFailed element p e => simp [record, failureMessage]
  | configurationFailed failure =>
    -- the rest of this message is not known, but its first letter is
    have hne : "Error loading configuration: " ++ failure.message ≠ failureMessage := fun h => by
      simpa [failureMessage] using congrArg (·.toList.head?) h
    simpa [record] using hne
  | commandFailed failure =>
    have hne : "Command failed: " ++ failure.message ≠ failureMessage := fun h => by
      simpa [failureMessage] using congrArg (·.toList.head?) h
    simpa [record] using hne
  | _ => simp [record, failureMessage]

@[simp] theorem failureRecords_append (ms ns : List Notice) :
    failureRecords (ms ++ ns) = failureRecords ms ++ failureRecords ns := by
  simp [failureRecords]

theorem failureRecords_policyFailed (element : String) (p : Policy) (e : PolicyError) :
    failureRecords [.policyFailed element p e] = [failureRecord element p e] := by
  simp [failureRecords, Notice.record, failureRecord, failureMessage]

/-! ## A failure changes nothing -/

/-- A policy that fails leaves the situation as it was. -/
theorem Situation.run_of_error {setup : Setup} {s : Situation} {p : Policy} {e : PolicyError}
    (h : (interpret setup s p).value.result = .error e) : s.run setup p = s :=
  ((interpret_change setup s p).after_of_error h).1

/-- A policy may be left out where it fails. -/
theorem Situation.runAll_of_error {setup : Setup} {s : Situation} {ps : List Policy} {p : Policy}
    {e : PolicyError} (qs : List Policy)
    (h : (interpret setup (s.runAll setup ps) p).value.result = .error e) :
    s.runAll setup (ps ++ [p] ++ qs) = s.runAll setup (ps ++ qs) := by
  rw [runAll_append, runAll_append, runAll_append, runAll_cons, runAll_nil, run_of_error h]

/-! ## The warnings -/

/-- No interpreter gives the warning for a failed policy. -/
theorem failureRecords_interpret (setup : Setup) (s : Situation) (p : Policy) :
    failureRecords (interpret setup s p).notices = [] := by
  rw [failureRecords, List.filter_eq_nil_iff]
  intro record hrecord
  obtain ⟨n, hn, rfl⟩ := List.mem_map.1 hrecord
  rw [decide_eq_true_eq, Notice.message_record_eq]
  rintro ⟨element, q, e, rfl⟩
  exact Interaction.not_gives_policyFailed (gives_of_mem_notices hn)

/-- The warnings of a list of policies are those of the policies that fail, in order. -/
theorem warnings_dispatch (setup : Setup) (element : String) (ps : List Policy) (s : Situation) :
    failureRecords (dispatch setup element ps s).notices =
      (failures setup ps s).map fun (p, e) => failureRecord element p e := by
  induction ps generalizing s with
  | nil => rfl
  | cons p ps ih =>
    unfold dispatch failures
    rw [Noted.notices_bind, failureRecords_append, failureRecords_interpret, List.nil_append]
    cases hresult : (interpret setup s p).value.result with
    | ok => exact ih (s.run setup p)
    | error e =>
      simp only [Noted.notices_bind, notices_note, failureRecords_append,
        failureRecords_policyFailed, List.map_cons]
      have hrun : (interpret setup s p).value.after = s := Situation.run_of_error hresult
      rw [hrun, ih s]
      rfl

/-! ## Log and continue -/

/-- **A failure is atomic.** A policy that fails leaves the registry, the context, the menus, the
requests, the notifications, the event and its own text as they were. So a list of policies ends as
the list without a policy that fails where it stands, and the log warns of each policy that fails,
once, in order and with its own text. -/
theorem dispatch_skips_failures (setup : Setup) (element : String) :
    (∀ (s : Situation) (p : Policy) (e : PolicyError),
      (interpret setup s p).value.result = .error e →
        (interpret setup s p).value.after = s ∧ (interpret setup s p).value.text = p.text) ∧
    (∀ (s : Situation) (a : List Policy) (p : Policy) (b : List Policy) (e : PolicyError),
      (interpret setup (dispatch setup element a s).value p).value.result = .error e →
        (dispatch setup element (a ++ [p] ++ b) s).value =
          (dispatch setup element (a ++ b) s).value) ∧
    (∀ (s : Situation) (ps : List Policy),
      failureRecords (dispatch setup element ps s).notices =
        (failures setup ps s).map fun (p, e) => failureRecord element p e) := by
  refine ⟨fun s p e h => (interpret_change setup s p).after_of_error h, fun s a p b e h => ?_,
    fun s ps => warnings_dispatch setup element ps s⟩
  simp only [value_dispatch] at h ⊢
  exact Situation.runAll_of_error b h

/-- An update without a key and a value is left out between two writes of the context. -/
theorem dispatch_skips_short_update :
    (interpret ⟨64, .recorder true, false⟩ (dispatch ⟨64, .recorder true, false⟩ "e"
        [⟨.click, .context, "(a,1)"⟩] ⟨.empty, none⟩).value ⟨.click, .update, "(e)"⟩).value.result =
      .error (.arity "update" "(e)" 3 1) ∧
    (dispatch ⟨64, .recorder true, false⟩ "e" ([⟨.click, .context, "(a,1)"⟩] ++
        [⟨.click, .update, "(e)"⟩] ++ [⟨.click, .context, "(b,2)"⟩]) ⟨.empty, none⟩).value =
      (dispatch ⟨64, .recorder true, false⟩ "e" ([⟨.click, .context, "(a,1)"⟩] ++
        [⟨.click, .context, "(b,2)"⟩]) ⟨.empty, none⟩).value := by
  have hfails : (interpret ⟨64, .recorder true, false⟩ (dispatch ⟨64, .recorder true, false⟩ "e"
      [⟨.click, .context, "(a,1)"⟩] ⟨.empty, none⟩).value ⟨.click, .update, "(e)"⟩).value.result =
        .error (.arity "update" "(e)" 3 1) := by cbv
  exact ⟨hfails, (dispatch_skips_failures _ "e").2.1 _ _ _ _ _ hfails⟩

end UiPolicy
