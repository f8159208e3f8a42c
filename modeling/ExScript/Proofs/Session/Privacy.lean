import ExScript.Host.Recorder
import ExScript.Proofs.Session.Moments

set_option autoImplicit false

namespace ExScript

-- The frame exists with these contents, and no function that can be called has captured it.
structure Session.Private (id : FrameId) (contents : Bindings) (s : Session) : Prop where
  allocated : id < s.heap.frames.size
  uncaptured : ∀ key f, s.functions.get? key = some f → f.captured ≠ some id
  kept : s.heap.read id = contents

-- The running function neither owns nor captured the frame.
def Session.Apart (id : FrameId) (s : Session) : Prop :=
  ∀ frame, s.callStack.head? = some frame → frame.locals ≠ id ∧ frame.captured ≠ some id

section

variable {id : FrameId} {contents : Bindings} {s t : Session}

theorem apart_of_call_stack (apart : s.Apart id) (same : t.callStack = s.callStack) : t.Apart id := by
  rwa [Session.Apart, same]

theorem private_write (priv : s.Private id contents) {other : FrameId} (different : other ≠ id) (frame : Bindings) :
    Session.Private id contents { s with heap := s.heap.write other frame } := by
  refine ⟨?_, priv.uncaptured, ?_⟩
  · simpa using priv.allocated
  · simpa [Ne.symm different] using priv.kept

theorem target_ne {frame : CallFrame} (own : frame.locals ≠ id) (outer : frame.captured ≠ some id) (h : Heap)
    (name : String) : frame.target h name ≠ id := by
  unfold CallFrame.target
  split
  · exact own
  · rename_i captured found
    split
    · rintro rfl
      exact outer found
    · exact own

theorem private_store (priv : s.Private id contents) (apart : s.Apart id) (slot : Slot) (name : String)
    (value : Value) : (s.store slot name value).Private id contents := by
  cases slot with
  | function =>
      dsimp only [Session.store]
      split
      · exact priv
      · rename_i frame rest stack
        obtain ⟨own, outer⟩ := apart frame (by rw [stack]; rfl)
        exact private_write priv (target_ne own outer s.heap name) _
  | _ => exact ⟨priv.allocated, priv.uncaptured, priv.kept⟩

theorem private_remove_local (priv : s.Private id contents) {frame : CallFrame} (own : frame.locals ≠ id)
    (outer : frame.captured ≠ some id) (name : String) :
    Session.Private id contents { s with heap := (frame.removeLocal s.heap name).2 } := by
  unfold CallFrame.removeLocal
  split
  · exact private_write priv own _
  · split
    · exact priv
    · rename_i captured found
      split
      · exact private_write priv (fun same => outer (same ▸ found)) _
      · exact priv

theorem private_discard (priv : s.Private id contents) (apart : s.Apart id) (slot : Slot) (name : String) :
    (s.discard slot name).2.Private id contents := by
  cases slot with
  | function =>
      dsimp only [Session.discard]
      split
      · exact priv
      · rename_i frame rest stack
        obtain ⟨own, outer⟩ := apart frame (by rw [stack]; rfl)
        exact private_remove_local priv own outer name
  | argument => exact priv
  | host scope => exact priv
  | _ =>
      dsimp only [Session.discard]
      split <;> exact ⟨priv.allocated, priv.uncaptured, priv.kept⟩

-- A new closure captures the locals of the running function, which are not these.
theorem private_define (priv : s.Private id contents) (apart : s.Apart id) {header : FunctionHeader}
    {body : List Statement} (filed : s.define header body = .ok t) : t.Private id contents := by
  rw [define_ok filed]
  refine ⟨priv.allocated, fun key f found => ?_, priv.kept⟩
  by_cases here : key = header.name.key s.currentScript
  · simp only [here, Table.get?_insert_self] at found
    cases found
    dsimp only [Session.declared]
    split
    · cases top : s.callStack.head? with
      | none => simp
      | some frame => simpa using (apart frame top).1
    · simp
  · exact priv.uncaptured key f (by simpa [here] using found)

theorem private_delete (priv : s.Private id contents) {bang : Bool} {name : FunctionName}
    (deleted : s.delete bang name = .ok t) : t.Private id contents := by
  refine ⟨?_, fun key f found => priv.uncaptured key f (delete_fewer deleted found), ?_⟩
  · obtain rfl | rfl := delete_ok deleted <;> exact priv.allocated
  · obtain rfl | rfl := delete_ok deleted <;> exact priv.kept

theorem private_enter (priv : s.Private id contents) (f : DefinedFunction) (args : List Value) :
    (s.enter f args).Private id contents := by
  have allocated := priv.allocated
  refine ⟨?_, priv.uncaptured, ?_⟩
  · simpa [Session.enter] using Nat.lt_succ_of_lt allocated
  · simpa [Session.enter, allocated] using priv.kept

theorem apart_enter (priv : s.Private id contents) {f : DefinedFunction} (foreign : f.captured ≠ some id)
    (args : List Value) : (s.enter f args).Apart id := by
  intro frame top
  cases top
  exact ⟨Nat.ne_of_gt priv.allocated, foreign⟩

end

variable {σ : Type} [Host σ]

theorem step_private {id : FrameId} {contents : Bindings} {w w' : World σ} (taken : Step w w')
    (priv : w.session.Private id contents ∧ w.session.Apart id) :
    w'.session.Private id contents ∧ w'.session.Apart id := by
  refine ⟨?_, apart_of_call_stack priv.2 (step_resumes taken).callStack⟩
  cases taken with
  | store v value => exact private_store priv.1 priv.2 _ _ _
  | discard v => exact private_discard priv.1 priv.2 _ _
  | define header body s filed => exact private_define priv.1 priv.2 filed
  | delete bang name s deleted => exact private_delete priv.1 deleted
  | _ => exact priv.1

-- Expressions may run anywhere, since they change no variable themselves; statements only in functions that
-- have no hold on the frame.
def SparesFrame (id : FrameId) : Task → World σ → Prop
  | .evaluate _, _ | .evaluateAll _, _ | .call .., _ => True
  | .invoke f _, _ => f.captured ≠ some id
  | _, w => w.session.Apart id

section

variable {id : FrameId} {contents : Bindings} {t t' : Task} {w w' : World σ}

theorem spares_frame_starts (priv : w.session.Private id contents) (fits : SparesFrame id t w)
    (started : Starts t w t' w') : SparesFrame id t' w' := by
  cases started with
  | callee found ended => exact priv.uncaptured _ _ found
  | named args found => exact priv.uncaptured _ _ found
  | enter accepted below => exact apart_enter priv fits _
  | next s rest ended => exact apart_of_call_stack fits (ok_resumes ended).callStack
  | «show» ended => exact apart_of_call_stack fits (ok_resumes ended).callStack
  | store target op ended => exact apart_of_call_stack fits (ok_resumes ended).callStack
  | nextTarget targets ended => exact apart_of_call_stack fits (ok_resumes ended).callStack
  | nextTop s rest ended => exact apart_of_call_stack fits (ok_resumes ended).callStack
  | unlet bang targets => exact fits
  | firstTarget bang target targets => exact fits
  | first s rest => exact fits
  | firstTop s rest => exact fits
  | opened script => exact fits
  | _ => exact trivial

theorem private_leaf (leaf : Leaf t) (priv : w.session.Private id contents) (fits : SparesFrame id t w) :
    (worldAfter (t.run w)).session.Private id contents := by
  have steps : w.session.Apart id → (worldAfter (t.run w)).session.Private id contents := fun apart =>
    (evolves_steps (p := fun v => v.session.Private id contents ∧ v.session.Apart id) step_private (leaf_evolves leaf w)
      rfl ⟨priv, apart⟩).1
  cases leaf with
  | reference v => rwa [Task.run, evaluate, evaluateWith, world_after_read_variable, looked_session]
  | _ => exact steps fits

end

def privacy (id : FrameId) (contents : Bindings) : Invariant σ where
  Holds w := w.session.Private id contents
  Fits := SparesFrame id
  starts := spares_frame_starts
  leaf := private_leaf
  enter priv _ _ := private_enter priv _ _
  leave _ priv _ := ⟨priv.allocated, priv.uncaptured, priv.kept⟩
  opened _ priv := ⟨priv.allocated, priv.uncaptured, priv.kept⟩
  closed priv := ⟨priv.allocated, priv.uncaptured, priv.kept⟩

def allocation : Invariant σ where
  Holds w := ∀ frame ∈ w.session.callStack, frame.locals < w.session.heap.frames.size
  Fits _ _ := True
  starts _ _ _ := trivial
  leaf {t w} _ holds _ := by
    have resumed := run_resumes t w
    rw [resumed.callStack]
    exact fun frame running => Nat.lt_of_lt_of_le (holds frame running) resumed.frames
  enter {f args w} holds _ _ := by
    have grown : (w.entered f args).session.heap.frames.size = w.session.heap.frames.size + 1 := by
      simp [World.entered, Session.enter]
    intro frame running
    rw [grown]
    rcases List.mem_cons.mp running with rfl | outer
    · exact Nat.lt_succ_self _
    · exact Nat.lt_succ_of_lt (holds frame outer)
  leave _ holds _ := fun frame running => holds frame (List.mem_of_mem_tail running)
  opened _ holds := holds
  closed holds := holds

-- Sessions at rest: nothing has happened yet, or the program around the session asked for something and it
-- is done. In between, that program may set global variables and put another host in place.
inductive Rests : World σ → Prop
  | fresh (settings : Settings) (host : σ) : Rests (.start (.ofSettings settings) host)
  | ran {w : World σ} (before : Rests w) {t : Task} (asked : t.Asked) : Rests (worldAfter (t.run w))
  | set {w : World σ} (before : Rests w) (name : String) (value : Value) :
      Rests { w with session := w.session.setGlobalVariable name value }
  | hosted {w : World σ} (before : Rests w) (host : σ) : Rests { w with host }

-- The worlds that a run from a session at rest passes through.
def Reachable (v : World σ) : Prop := ∃ w t, Rests w ∧ Task.Asked t ∧ Passes t w v

theorem rests_allocated {w : World σ} (rests : Rests w) : (allocation (σ := σ)).Holds w := by
  induction rests with
  | fresh settings host => exact fun frame running => nomatch running
  | ran _ asked ih => exact run_holds allocation _ ih trivial
  | set _ name value ih => exact ih
  | hosted _ host ih => exact ih

theorem reachable_allocated {w : World σ} (reached : Reachable w) : (allocation (σ := σ)).Holds w := by
  obtain ⟨start, t, rests, -, passed⟩ := reached
  exact passes_holds allocation passed (rests_allocated rests) trivial

theorem locals_are_private {w : World σ} (reached : Reachable w) {frame : CallFrame}
    (running : frame ∈ w.session.callStack)
    (uncaptured : ∀ key f, w.session.functions.get? key = some f → f.captured ≠ some frame.locals) (e : Expr) :
    (worldAfter (evaluate e w)).session.heap.read frame.locals = w.session.heap.read frame.locals ∧
    ∀ key f, (worldAfter (evaluate e w)).session.functions.get? key = some f → f.captured ≠ some frame.locals := by
  have start : w.session.Private frame.locals (w.session.heap.read frame.locals) :=
    ⟨reachable_allocated reached frame running, uncaptured, rfl⟩
  have after := run_holds (privacy frame.locals _) (.evaluate e) start trivial
  exact ⟨after.kept, after.uncaptured⟩

-- `Inner` has an `x` that a closure of its own changes.
def inner : DefinedFunction :=
  ⟨⟨⟨none, "Inner"⟩, [], .empty, false⟩,
    [.assign ⟨none, "x"⟩ .assign (.literal (.num 2)),
      .function ⟨⟨none, "Change"⟩, [], { closure := true }, true⟩ [.assign ⟨none, "x"⟩ .assign (.literal (.num 3))],
      .call none ⟨none, "Change"⟩ [], .return (.variable ⟨none, "x"⟩)], "p.vim", none⟩

-- `Outer` has an `x` too, and calls `Inner`.
def outer : DefinedFunction :=
  ⟨⟨⟨none, "Outer"⟩, [], .empty, false⟩,
    [.assign ⟨none, "x"⟩ .assign (.literal (.num 1)), .return (.call ⟨none, "Inner"⟩ [])], "p.vim", none⟩

def nested : Script :=
  ⟨"p.vim", [.function inner.header inner.body, .function outer.header outer.body], [1, 8]⟩

def nestedSourced : World Recorder := worldAfter ((Task.source nested).run (.start (.ofSettings .default) .empty))

-- In a call of `Outer`, where it has set its `x` and is about to call `Inner`.
def inOuter : World Recorder :=
  worldAfter ((Task.execute (.assign ⟨none, "x"⟩ .assign (.literal (.num 1)))).run (nestedSourced.entered outer []))

theorem in_outer_reachable : Reachable inOuter := by
  have found : nestedSourced.session.functions.get? (Session.globalKey "Outer") = some outer := by
    with_unfolding_all rfl
  have below : nestedSourced.session.callStack.length < nestedSourced.session.settings.maxDepth := by
    with_unfolding_all decide
  have assigned : (Task.execute (.assign ⟨none, "x"⟩ .assign (.literal (.num 1)))).run
      (nestedSourced.entered outer []) = .ok .next inOuter := by
    with_unfolding_all rfl
  have visited : Visits (.call "Outer" []) nestedSourced (.body [.return (.call ⟨none, "Inner"⟩ [])]) inOuter :=
    .inside (.named [] found) (.inside (.enter rfl below) (.inside (.next _ _ assigned) (.here _ _)))
  exact ⟨nestedSourced, _, .ran (.fresh _ _) (.source nested), .call "Outer" [], _, _, visited, .inl rfl⟩

theorem in_outer_uncaptured (id : FrameId) (key : FunctionKey) (f : DefinedFunction)
    (found : inOuter.session.functions.get? key = some f) : f.captured ≠ some id := by
  have closed : inOuter.session.functions.entries.all (fun entry => entry.2.captured.isNone) = true := by
    with_unfolding_all rfl
  obtain ⟨entry, here, rfl⟩ := Option.map_eq_some_iff.mp found
  have none_captured := List.all_eq_true.mp closed entry (List.mem_of_find?_eq_some here)
  rw [Option.isNone_iff_eq_none.mp none_captured]
  simp

theorem outer_keeps_its_locals :
    (∃ v, evaluate (.call ⟨none, "Inner"⟩ []) inOuter = .ok (.num 3) v) ∧
    ((worldAfter (evaluate (.call ⟨none, "Inner"⟩ []) inOuter)).session.heap.read 0).get? "x" = some (.num 1) := by
  have running : (⟨"Outer", "p.vim", bindArguments [] [], 0, none⟩ : CallFrame) ∈ inOuter.session.callStack := by
    have stack : inOuter.session.callStack = [⟨"Outer", "p.vim", bindArguments [] [], 0, none⟩] := by
      with_unfolding_all rfl
    rw [stack]
    exact List.mem_cons_self
  have kept := (locals_are_private in_outer_reachable running (in_outer_uncaptured 0) (.call ⟨none, "Inner"⟩ [])).1
  refine ⟨⟨_, by with_unfolding_all rfl⟩, ?_⟩
  rw [kept]
  with_unfolding_all rfl

end ExScript
