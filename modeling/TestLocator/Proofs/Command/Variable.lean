import TestLocator.Command.Line

/-!
# The variable for the project root

A variable may stand for a project root that is not given. What else words ask for does not hang on
it.

* `withVariable`, `withVariable_batch` — a request and the value of the variable;
* **`ofWords_eq`** — what words ask for, with the variable and without it.
-/

namespace TestLocator.Command

open TestLocator.Files

/-- A request where a variable may name the project root: it stands for one that is not given. -/
def withVariable (rootVariable : Option String) : Request → Except UsageFault Request
  | .batch r =>
    match r.projectRoot, rootVariable with
    | none, some v => (readPath v).map fun p => .batch { r with projectRoot := some p }
    | _, _ => .ok (.batch r)
  | request => .ok request

variable {rootVariable : Option String}

theorem withVariable_batch (rootVariable : Option String) (r : BatchRequest) :
    withVariable rootVariable (.batch r) =
        .ok (.batch { r with projectRoot := r.projectRoot <|> rootVariable.map Files.Path.mk }) ∨
      r.projectRoot = none ∧ rootVariable = some "" ∧
        withVariable rootVariable (.batch r) = .error .invalidValue := by
  obtain ⟨input, output, projectRoot, jobs, noParallel, marker⟩ := r
  cases projectRoot with
  | some root => exact .inl rfl
  | none =>
    cases rootVariable with
    | none => exact .inl rfl
    | some v =>
      by_cases hv : v = ""
      · exact .inr ⟨rfl, congrArg some hv, by rw [hv]; rfl⟩
      · have hread : readPath v = .ok ⟨v⟩ := if_neg (by simpa using hv)
        left
        simp only [withVariable, hread]
        rfl

theorem BatchWords.request_eq {s : BatchWords} {r : BatchRequest} (h : s.request none = .ok r) :
    (s.request rootVariable).map .batch = withVariable rootVariable (.batch r) := by
  obtain ⟨input, output, projectRoot, jobs, noParallel, marker, verbosity⟩ := s
  -- without an input or an output there is no request
  cases projectRoot <;> cases input <;> cases output <;>
    simp only [request, required, bind, Except.bind, pure, Except.pure, reduceCtorEq,
      Except.ok.injEq] at h
  all_goals subst h
  · cases rootVariable with
    | none => rfl
    | some v =>
      simp only [request, required, withVariable, bind, Except.bind, pure, Except.pure]
      cases readPath v <;> rfl
  · rfl

theorem bind_eq_ok_iff {α β : Type} {x : Except UsageFault α} {f : α → Except UsageFault β} {b : β} :
    (x >>= f) = .ok b ↔ ∃ a, x = .ok a ∧ f a = .ok b := by
  cases x <;> simp [bind, Except.bind]

theorem ofCommand_eq {verbosity : Option Nat} {topic : Topic} {words : List String} {i : Invocation}
    (h : Invocation.ofCommand none verbosity topic words = .ok i) :
    Invocation.ofCommand rootVariable verbosity topic words =
      (withVariable rootVariable i.request).map fun request => ⟨i.verbosity, request⟩ := by
  cases topic with
  | program => cases h
  | help => cases h
  | locate =>
    -- the variable is not looked at
    refine Eq.trans h ?_
    obtain ⟨p, -, hp⟩ := bind_eq_ok_iff.mp h
    obtain ⟨r, -, hr⟩ := bind_eq_ok_iff.mp hp
    cases hr
    rfl
  | init =>
    refine Eq.trans h ?_
    obtain ⟨p, -, hp⟩ := bind_eq_ok_iff.mp h
    cases hp
    rfl
  | batch =>
    obtain ⟨p, hread, hp⟩ := bind_eq_ok_iff.mp h
    obtain ⟨r, hrequest, hr⟩ := bind_eq_ok_iff.mp hp
    cases hr
    rw [← BatchWords.request_eq hrequest]
    simp only [Invocation.ofCommand, hread, bind, Except.bind]
    cases p.1.request rootVariable <;> rfl

/-- **A command line and the variable** that may name the project root. -/
theorem ofWords_eq {words : List String} {i : Invocation}
    (h : Invocation.ofWords none words = .ok i) :
    Invocation.ofWords rootVariable words =
      (withVariable rootVariable i.request).map fun request => ⟨i.verbosity, request⟩ := by
  obtain ⟨⟨verbosity, rest⟩, hprogram, hrest⟩ := bind_eq_ok_iff.mp h
  unfold Invocation.ofWords
  simp only [hprogram]
  cases rest with
  | nil => cases hrest
  | cons name words =>
    simp only at hrest
    cases htopic : topicOf? name with
    | none => simp [htopic] at hrest
    | some topic =>
      simp only [htopic] at hrest
      refine Eq.trans ?_ (ofCommand_eq hrest)
      simp [bind, Except.bind, htopic]

end TestLocator.Command
