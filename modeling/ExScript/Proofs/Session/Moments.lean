import ExScript.Proofs.Session.Rules

set_option autoImplicit false

namespace ExScript

variable {σ : Type} [Host σ]

-- The tasks that start no others. They alone change what outlives the stacks.
inductive Leaf : Task → Prop
  | reference (v : Variable) : Leaf (.evaluate (.variable v))
  | declare (header : FunctionHeader) (body : List Statement) : Leaf (.execute (.function header body))
  | delete (bang : Bool) (name : FunctionName) : Leaf (.execute (.delfunction bang name))
  | command (c : HostCommand) : Leaf (.execute (.command c))
  | show (values : List Value) : Leaf (.show values)
  | store (target : Variable) (op : AssignOp) (value : Value) : Leaf (.store target op value)
  | remove (bang : Bool) (target : Variable) : Leaf (.remove bang target)

-- Where no call may nest, a run is steps and nothing else.
theorem evolves_steps {p : World σ → Prop} (kept : ∀ {v v' : World σ}, Step v v' → p v → p v') {room : Nat}
    {w w' : World σ} (run : Evolves room w w') (flat : room = 0) (holds : p w) : p w' := by
  induction run with
  | refl room w => exact holds
  | step _ last ih => exact kept last (ih flat holds)
  | call f args _ _ _ _ => cases flat

theorem leaf_evolves {t : Task} (leaf : Leaf t) (w : World σ) : Evolves 0 w (worldAfter (t.run w)) := by
  cases leaf with
  | reference v => exact (read_variable_accesses v).evolves 0 w
  | declare header body =>
      simpa [run_of_yields (.declare header body w), declare] using declare_evolves 0 header body w
  | delete bang name =>
      simpa [run_of_yields (.delete bang name w), undeclare] using undeclare_evolves 0 bang name w
  | command c =>
      simpa [run_of_yields (.command c w)] using (host_command_accesses c).evolves 0 w
  | «show» values => exact evolves_of_step (.echo w _)
  | store target op value => exact (store_accesses target op value).evolves 0 w
  | remove bang target => exact (remove_target_accesses bang target).evolves 0 w

inductive Task.Asked : Task → Prop
  | evaluate (e : Expr) : Asked (.evaluate e)
  | execute (s : Statement) : Asked (.execute s)
  | source (script : Script) : Asked (.source script)
  | call (name : String) (args : List Value) : Asked (.call name args)

-- Running the first task in the first world comes to the second task in the second world.
inductive Visits : Task → World σ → Task → World σ → Prop
  | here (t : Task) (w : World σ) : Visits t w t w
  | inside {t t' t'' : Task} {w w' w'' : World σ} (started : Starts t w t' w') (rest : Visits t' w' t'' w'') :
      Visits t w t'' w''

-- Some task that the run comes to starts or ends in the world `v`.
def Passes (t : Task) (w v : World σ) : Prop :=
  ∃ t' w', Visits t w t' w' ∧ (v = w' ∨ v = worldAfter (t'.run w'))

-- A run comes to tasks, each in the world of its moment. What single tasks and single calls preserve, whole runs
-- preserve.
structure Invariant (σ : Type) [Host σ] where
  Holds : World σ → Prop
  Fits : Task → World σ → Prop
  starts : ∀ {t t' w w'}, Holds w → Fits t w → Starts t w t' w' → Fits t' w'
  leaf : ∀ {t w}, Leaf t → Holds w → Fits t w → Holds (worldAfter (t.run w))
  enter : ∀ {f args w}, Holds w → Fits (.invoke f args) w →
    w.session.callStack.length < w.session.settings.maxDepth → Holds (w.entered f args)
  leave : ∀ {w v : World σ}, Holds w → Holds v → w.session.Resumes v.session.leave →
    Holds { v with session := v.session.leave }
  opened : ∀ {w} (id : String), Holds w → Holds (w.opened id)
  closed : ∀ {w}, Holds w → Holds w.closed

section

variable (inv : Invariant σ)

theorem yields_resumes {t : Task} {w : World σ} {ended : Ending σ t.Answer} (derived : Yields t w ended) :
    w.session.Resumes (worldAfter ended).session := by
  rw [← run_of_yields derived]
  exact run_resumes t w

-- The induction is on the derivation of the run; each premise starts in a world that the premise before it left.
theorem yields_holds {t : Task} {w : World σ} {ended : Ending σ t.Answer} (derived : Yields t w ended)
    (holds : inv.Holds w) (fits : inv.Fits t w) : inv.Holds (worldAfter ended) := by
  induction derived with
  | reference v w => exact inv.leaf (.reference v) holds fits
  | concat first _ left right =>
      have between := left holds (inv.starts holds fits (.left _ _ _))
      simpa using right between (inv.starts holds fits (.right _ _ (run_of_yields first)))
  | concatFails r _ left => exact left holds (inv.starts holds fits (.left _ _ _))
  | call found first _ given result =>
      have between := given holds (inv.starts holds fits (.arguments _ found))
      exact result between (inv.starts holds fits (.callee found (run_of_yields first)))
  | callFails found _ given => exact given holds (inv.starts holds fits (.arguments _ found))
  | arguments first _ head tail =>
      have between := head holds (inv.starts holds fits (.head _ _ _))
      simpa using tail between (inv.starts holds fits (.tail _ _ (run_of_yields first)))
  | argumentsFail es _ head => exact head holds (inv.starts holds fits (.head _ _ _))
  | invoke accepted below inside body =>
      have within := body (inv.enter holds fits below) (inv.starts holds fits (.enter accepted below))
      simpa using inv.leave holds within (resumes_call _ _ (yields_resumes inside))
  | bodyReturns rest _ first => exact first holds (inv.starts holds fits (.first _ _ _))
  | bodyGoesOn before _ first others =>
      have between := first holds (inv.starts holds fits (.first _ _ _))
      exact others between (inv.starts holds fits (.next _ _ (run_of_yields before)))
  | bodyFails rest _ first => exact first holds (inv.starts holds fits (.first _ _ _))
  | declare header body w =>
      rw [← run_of_yields (.declare header body w)]
      exact inv.leaf (.declare header body) holds fits
  | echo before _ given shown =>
      have between := given holds (inv.starts holds fits (.shown _ _))
      simpa using shown between (inv.starts holds fits (.show (run_of_yields before)))
  | echoFails _ given => exact given holds (inv.starts holds fits (.shown _ _))
  | returns inside _ result =>
      simpa using result holds (inv.starts holds fits (.result _ inside))
  | assign before _ given stored =>
      have between := given holds (inv.starts holds fits (.stored _ _ _ _))
      simpa using stored between (inv.starts holds fits (.store _ _ (run_of_yields before)))
  | assignFails target op _ given => exact given holds (inv.starts holds fits (.stored _ _ _ _))
  | unlet _ removed =>
      simpa using removed holds (inv.starts holds fits (.unlet _ _ _))
  | calls range _ result =>
      simpa using result holds (inv.starts holds fits (.called _ _ _ _))
  | delete bang name w =>
      rw [← run_of_yields (.delete bang name w)]
      exact inv.leaf (.delete bang name) holds fits
  | command c w =>
      rw [← run_of_yields (.command c w)]
      exact inv.leaf (.command c) holds fits
  | «show» values w => exact inv.leaf (.show values) holds fits
  | store target op value w => exact inv.leaf (.store target op value) holds fits
  | remove bang target w => exact inv.leaf (.remove bang target) holds fits
  | targets before _ first others =>
      have between := first holds (inv.starts holds fits (.firstTarget _ _ _ _))
      exact others between (inv.starts holds fits (.nextTarget _ (run_of_yields before)))
  | targetsFail targets _ first => exact first holds (inv.starts holds fits (.firstTarget _ _ _ _))
  | scriptGoesOn before _ first others =>
      have between := first holds (inv.starts holds fits (.firstTop _ _ _))
      exact others between (inv.starts holds fits (.nextTop _ _ (run_of_yields before)))
  | scriptFails rest _ first => exact first holds (inv.starts holds fits (.firstTop _ _ _))
  | source _ inside =>
      simpa using inv.closed (inside (inv.opened _ holds) (inv.starts holds fits (.opened _ _)))
  | named found _ result => exact result holds (inv.starts holds fits (.named _ found))
  | _ => exact holds

theorem run_holds (t : Task) {w : World σ} (holds : inv.Holds w) (fits : inv.Fits t w) :
    inv.Holds (worldAfter (t.run w)) :=
  yields_holds inv (yields_run t w) holds fits

theorem starts_holds {t t' : Task} {w w' : World σ} (started : Starts t w t' w') (holds : inv.Holds w)
    (fits : inv.Fits t w) : inv.Holds w' := by
  -- what a task starts first starts in its own world, what it starts next in the world after that
  have next : ∀ {first : Task} {a : first.Answer} {v : World σ}, Starts t w first w → first.run w = .ok a v →
      inv.Holds v := by
    intro first a v earlier ended
    have after := run_holds inv first holds (inv.starts holds fits earlier)
    rwa [ended] at after
  cases started with
  | right l r ended => exact next (.left l r w) ended
  | callee found ended => exact next (.arguments _ found) ended
  | tail e es ended => exact next (.head e es w) ended
  | enter accepted below => exact inv.enter holds fits below
  | next s rest ended => exact next (.first s rest w) ended
  | «show» ended => exact next (.shown _ w) ended
  | store target op ended => exact next (.stored target op _ w) ended
  | nextTarget targets ended => exact next (.firstTarget _ _ targets w) ended
  | nextTop s rest ended => exact next (.firstTop s rest w) ended
  | opened script => exact inv.opened _ holds
  | _ => exact holds

theorem visits_holds {t t' : Task} {w w' : World σ} (visited : Visits t w t' w') (holds : inv.Holds w)
    (fits : inv.Fits t w) : inv.Holds w' ∧ inv.Fits t' w' := by
  induction visited with
  | here t w => exact ⟨holds, fits⟩
  | inside started _ ih => exact ih (starts_holds inv started holds fits) (inv.starts holds fits started)

theorem passes_holds {t : Task} {w v : World σ} (passed : Passes t w v) (holds : inv.Holds w)
    (fits : inv.Fits t w) : inv.Holds v := by
  obtain ⟨t', w', visited, rfl | rfl⟩ := passed
  · exact (visits_holds inv visited holds fits).1
  · obtain ⟨holds', fits'⟩ := visits_holds inv visited holds fits
    exact run_holds inv t' holds' fits'

end

end ExScript
