import ExScript.Proofs.Session.Privacy

set_option autoImplicit false

namespace ExScript

variable {σ τ : Type} [Host σ] [Host τ]

def Expr.isCallFree : Expr → Bool
  | .literal _ | .variable _ => true
  | .concat left right => left.isCallFree && right.isCallFree
  | .call .. => false

def answerOf {α : Type} : Ending σ α → Except RuntimeError α
  | .ok a _ => .ok a
  | .error error _ => .error error

namespace World

def lookedAll (w : World σ) (vs : List Variable) : World σ := vs.foldl looked w

def Defines (w : World σ) (v : Variable) : Prop := ∃ x, answerOf (readVariable v w) = .ok x

end World

@[simp]
theorem looked_all_session (w : World σ) (vs : List Variable) : (w.lookedAll vs).session = w.session := by
  induction vs generalizing w with
  | nil => rfl
  | cons v vs ih => exact (ih (w.looked v)).trans (looked_session w v)

@[simp]
theorem looked_all_host (w : World σ) (vs : List Variable) : (w.lookedAll vs).host = w.host := by
  induction vs generalizing w with
  | nil => rfl
  | cons v vs ih => exact (ih (w.looked v)).trans (looked_host w v)

theorem looked_all_append (w : World σ) (vs vs' : List Variable) :
    w.lookedAll (vs ++ vs') = (w.lookedAll vs).lookedAll vs' := List.foldl_append

theorem value?_looked_all (w : World σ) (vs : List Variable) : (w.lookedAll vs).value? = w.value? := by
  unfold World.value? World.held?
  rw [looked_all_session, looked_all_host]

section

variable {v : Variable} {w : World σ}

theorem reads_iff {x : Value} : answerOf (readVariable v w) = .ok x ↔ w.value? v = some x := by
  cases found : w.value? v with
  | some y => simp [read_variable_of_some found, answerOf]
  | none => simp [read_variable_of_none found, answerOf]

theorem defines_iff : w.Defines v ↔ (w.value? v).isSome = true := by
  rw [World.Defines, Option.isSome_iff_exists]
  exact exists_congr fun _ => reads_iff

theorem defines_looked_all (vs : List Variable) : (w.lookedAll vs).Defines v ↔ w.Defines v := by
  rw [defines_iff, defines_iff, value?_looked_all]

end

def Expr.valueIn (values : Variable → Option Value) : Expr → Option Value
  | .literal value => some value
  | .variable v => values v
  | .concat left right => do return (← left.valueIn values).concat (← right.valueIn values)
  | .call .. => none

theorem value_in_agrees {values values' : Variable → Option Value} (e : Expr)
    (agree : ∀ v ∈ e.references, values v = values' v) : e.valueIn values = e.valueIn values' := by
  induction e using Expr.isCallFree.induct with
  | case1 value => rfl
  | case2 v => exact agree v (by simp [Expr.references])
  | case3 left right ihLeft ihRight =>
      rw [Expr.references] at agree
      rw [Expr.valueIn, Expr.valueIn, ihLeft fun v member => agree v (List.mem_append_left _ member),
        ihRight fun v member => agree v (List.mem_append_right _ member)]
  | case4 name args => rfl

-- The induction is on the expression; the right operand of a concatenation starts in the world in which the left one
-- looked all its variables up, where every variable has the value that it had before.
theorem evaluate_with_reads (invoke : Invoke σ) (e : Expr) (callFree : e.isCallFree = true) (w : World σ) :
    (∃ x, e.valueIn w.value? = some x ∧ (∀ v ∈ e.references, w.Defines v) ∧
      evaluateWith invoke e w = .ok x (w.lookedAll e.references)) ∨
    (e.valueIn w.value? = none ∧
      ∃ before v after, e.references = before ++ v :: after ∧ (∀ u ∈ before, w.Defines u) ∧ ¬ w.Defines v ∧
        evaluateWith invoke e w = .error (w.session.undefined v) (w.lookedAll (before ++ [v]))) := by
  induction e using Expr.isCallFree.induct generalizing w with
  | case1 value => exact .inl ⟨value, rfl, by simp [Expr.references], rfl⟩
  | case2 v =>
      rw [evaluateWith]
      cases found : w.value? v with
      | some x =>
          have defined : w.Defines v := ⟨x, reads_iff.mpr found⟩
          exact .inl ⟨x, found, by simpa [Expr.references] using defined, read_variable_of_some found⟩
      | none =>
          have undefined : ¬ w.Defines v := by simp [defines_iff, found]
          exact .inr ⟨found, [], v, [], rfl, by simp, undefined, read_variable_of_none found⟩
  | case3 left right ihLeft ihRight =>
      obtain ⟨leftFree, rightFree⟩ := Bool.and_eq_true_iff.mp callFree
      rw [evaluateWith, Expr.references]
      rcases ihLeft leftFree w with
        ⟨x, value, defined, ended⟩ | ⟨value, before, v, after, parts, defined, missing, failed⟩
      · have right := ihRight rightFree (w.lookedAll left.references)
        simp only [value?_looked_all, defines_looked_all, looked_all_session,
          ← looked_all_append] at right
        rcases right with
          ⟨y, value', defined', ended'⟩ | ⟨value', before, v, after, parts, defined', missing, failed⟩
        · refine .inl ⟨x.concat y, by simp [Expr.valueIn, value, value'], ?_, ?_⟩
          · exact fun v member => (List.mem_append.mp member).elim (defined v) (defined' v)
          · rw [bind_of_ok ended, bind_of_ok ended']
            rfl
        · refine .inr ⟨by simp [Expr.valueIn, value, value'], left.references ++ before, v, after,
            by rw [parts, List.append_assoc], ?_, missing, ?_⟩
          · exact fun u member => (List.mem_append.mp member).elim (defined u) (defined' u)
          · rw [bind_of_ok ended, bind_of_error failed, List.append_assoc]
      · refine .inr ⟨by simp [Expr.valueIn, value], before, v, after ++ right.references,
          by rw [parts, List.append_assoc]; rfl, defined, missing, ?_⟩
        exact bind_of_error failed _
  | case4 name args => cases callFree

theorem undefined_eq (s : Session) (v : Variable) : s.undefined v =
    .undefinedVariable (v.scope.getD (if s.callStack.isEmpty then .global else .function)) v.name := by
  unfold Session.undefined Session.shownScope
  cases v.scope <;> rfl

section

variable {e : Expr} (callFree : e.isCallFree = true) {w w' : World σ}

include callFree

theorem evaluate_reads_all {x : Value} (ended : evaluate e w = .ok x w') :
    (∀ v ∈ e.references, w.Defines v) ∧ w' = w.lookedAll e.references := by
  rcases evaluate_with_reads (invokeWithin w.session.room) e callFree w with
    ⟨y, -, defined, ended'⟩ | ⟨-, before, v, after, -, -, -, failed⟩
  · rw [evaluate, ended'] at ended
    cases ended
    exact ⟨defined, rfl⟩
  · rw [evaluate, failed] at ended
    cases ended

theorem evaluate_stops_at_first {error : RuntimeError} (failed : evaluate e w = .error error w') :
    ∃ before v after, e.references = before ++ v :: after ∧ (∀ u ∈ before, w.Defines u) ∧ ¬ w.Defines v ∧
      error = .undefinedVariable (v.scope.getD (if w.session.callStack.isEmpty then .global else .function)) v.name ∧
      w' = w.lookedAll (before ++ [v]) := by
  rcases evaluate_with_reads (invokeWithin w.session.room) e callFree w with
    ⟨y, -, -, ended⟩ | ⟨-, before, v, after, parts, defined, missing, failed'⟩
  · rw [evaluate, ended] at failed
    cases failed
  · rw [evaluate, failed'] at failed
    cases failed
    exact ⟨before, v, after, parts, defined, missing, undefined_eq w.session v, rfl⟩

theorem answer_evaluate_iff (w : World σ) (x : Value) :
    answerOf (evaluate e w) = .ok x ↔ e.valueIn w.value? = some x := by
  rcases evaluate_with_reads (invokeWithin w.session.room) e callFree w with
    ⟨y, value, -, ended⟩ | ⟨value, before, v, after, -, -, -, failed⟩
  · simp [evaluate, ended, value, answerOf]
  · simp [evaluate, failed, value, answerOf]

end

theorem evaluation_reads_its_references (e : Expr) (callFree : e.isCallFree = true) (w : World σ) :
    ((worldAfter (evaluate e w)).session = w.session ∧ (worldAfter (evaluate e w)).host = w.host) ∧
    ((∃ x w', evaluate e w = .ok x w') ↔ ∀ v ∈ e.references, w.Defines v) ∧
    (∀ x w', evaluate e w = .ok x w' → w' = w.lookedAll e.references) ∧
    (∀ error w', evaluate e w = .error error w' →
      ∃ before v after, e.references = before ++ v :: after ∧ (∀ u ∈ before, w.Defines u) ∧ ¬ w.Defines v ∧
        error = .undefinedVariable (v.scope.getD (if w.session.callStack.isEmpty then .global else .function)) v.name ∧
        w' = w.lookedAll (before ++ [v])) ∧
    ∀ u : World τ, (∀ v ∈ e.references, ∀ x,
        answerOf (readVariable v w) = .ok x ↔ answerOf (readVariable v u) = .ok x) →
      ∀ x, answerOf (evaluate e w) = .ok x ↔ answerOf (evaluate e u) = .ok x := by
  refine ⟨?_, ⟨?_, ?_⟩, ?_, ?_, ?_⟩
  · cases ended : evaluate e w with
    | ok x w' =>
        rw [(evaluate_reads_all callFree ended).2]
        simp [worldAfter]
    | error error w' =>
        obtain ⟨before, v, after, -, -, -, -, rfl⟩ := evaluate_stops_at_first callFree ended
        simp [worldAfter]
  · rintro ⟨x, w', ended⟩
    exact (evaluate_reads_all callFree ended).1
  · intro defined
    cases ended : evaluate e w with
    | ok x w' => exact ⟨x, w', rfl⟩
    | error error w' =>
        obtain ⟨before, v, after, parts, -, missing, -, -⟩ := evaluate_stops_at_first callFree ended
        exact absurd (defined v (by simp [parts])) missing
  · exact fun x w' ended => (evaluate_reads_all callFree ended).2
  · exact fun error w' failed => evaluate_stops_at_first callFree failed
  · intro u agree x
    have same : e.valueIn w.value? = e.valueIn u.value? := by
      refine value_in_agrees e fun v member => Option.ext fun y => ?_
      rw [← reads_iff, agree v member y, reads_iff]
    rw [answer_evaluate_iff callFree, answer_evaluate_iff callFree, same]

def settledWorld : World Recorder :=
  .start (Session.fresh.setGlobalVariable "x" (.num 1)) (Recorder.empty.withVariable .buffer "y" (.str "b"))

-- In the call of `Outer`, with a host that keeps a variable too.
def inHostedOuter : World Recorder := { inOuter with host := Recorder.empty.withVariable .buffer "y" (.str "b") }

def sampleOperands : Expr := .concat (.variable ⟨none, "x"⟩) (.variable ⟨some .buffer, "y"⟩)

-- `x` is a local variable in the call and a global one outside, with the same value; `z` is nowhere.
theorem in_hosted_outer_reads :
    (∃ w, evaluate sampleOperands inHostedOuter = .ok (.str "1b") w ∧
      w = inHostedOuter.lookedAll [⟨none, "x"⟩, ⟨some .buffer, "y"⟩]) ∧
    (∀ x, answerOf (evaluate sampleOperands inHostedOuter) = .ok x ↔
      answerOf (evaluate sampleOperands settledWorld) = .ok x) ∧
    ∃ w, evaluate (.concat sampleOperands (.variable ⟨none, "z"⟩)) inHostedOuter =
        .error (.undefinedVariable .function "z") w ∧
      ∃ before v after, (Expr.concat sampleOperands (.variable ⟨none, "z"⟩)).references = before ++ v :: after ∧
        (∀ u ∈ before, inHostedOuter.Defines u) ∧ ¬ inHostedOuter.Defines v ∧ v.name = "z" := by
  have laws := evaluation_reads_its_references (τ := Recorder) sampleOperands rfl inHostedOuter
  have ended : ∃ w, evaluate sampleOperands inHostedOuter = .ok (.str "1b") w := ⟨_, by with_unfolding_all rfl⟩
  have stops : ∃ w, evaluate (.concat sampleOperands (.variable ⟨none, "z"⟩)) inHostedOuter =
      .error (.undefinedVariable .function "z") w := ⟨_, by with_unfolding_all rfl⟩
  have agree : ∀ v ∈ sampleOperands.references,
      answerOf (readVariable v inHostedOuter) = answerOf (readVariable v settledWorld) := by
    intro v member
    simp only [sampleOperands, Expr.references, List.cons_append, List.nil_append, List.mem_cons, List.not_mem_nil,
      or_false] at member
    rcases member with rfl | rfl <;> with_unfolding_all rfl
  obtain ⟨w, ended⟩ := ended
  obtain ⟨w', failed⟩ := stops
  refine ⟨⟨w, ended, laws.2.2.1 _ _ ended⟩, ?_, w', failed, ?_⟩
  · exact laws.2.2.2.2 settledWorld fun v member x => by rw [agree v member]
  · obtain ⟨before, v, after, parts, defined, missing, named, -⟩ := (evaluation_reads_its_references (τ := Recorder)
      (.concat sampleOperands (.variable ⟨none, "z"⟩)) rfl inHostedOuter).2.2.2.1 _ _ failed
    injection named with scope name
    exact ⟨before, v, after, parts, defined, missing, name.symm⟩

end ExScript
