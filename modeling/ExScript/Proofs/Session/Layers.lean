import Mathlib.Logic.Function.Basic
import ExScript.Proofs.Session.Atomicity
import ExScript.Proofs.Session.Privacy

set_option autoImplicit false

namespace ExScript

def Heap.entry (h : Heap) (id : FrameId) (name : String) : Option Value := (h.read id).get? name

-- The second heap holds `entry` in one place and is otherwise like the first.
def Heap.Puts (h : Heap) (id : FrameId) (name : String) (entry : Option Value) (h' : Heap) : Prop :=
  ∀ id' name', h'.entry id' name' = if id' = id ∧ name' = name then entry else h.entry id' name'

theorem entry_allocated {h : Heap} {id : FrameId} {name : String} (held : (h.entry id name).isSome = true) :
    id < h.frames.size := by
  by_contra outside
  have missing : h.read id = .empty := by simp [Heap.read, Nat.le_of_not_lt outside]
  rw [Heap.entry, missing] at held
  cases held

section

variable {h h' : Heap} {id : FrameId} {name : String} {entry : Option Value} (puts : h.Puts id name entry h')

include puts

theorem puts_here : h'.entry id = Function.update (h.entry id) name entry := by
  funext name'
  rw [puts]
  by_cases same : name' = name
  · rw [if_pos ⟨rfl, same⟩, same, Function.update_self]
  · rw [if_neg (fun both => same both.2), Function.update_of_ne same]

theorem puts_elsewhere {id' : FrameId} (different : id' ≠ id) : h'.entry id' = h.entry id' :=
  funext fun name' => (puts id' name').trans (if_neg fun both => different both.1)

end

theorem puts_write {h : Heap} {id : FrameId} {name : String} {entry : Option Value} {vars : Bindings}
    (inside : id < h.frames.size)
    (held : ∀ other, vars.get? other = if other = name then entry else (h.read id).get? other) :
    h.Puts id name entry (h.write id vars) := by
  intro id' name'
  unfold Heap.entry
  by_cases here : id' = id
  · simp [here, inside, held]
  · simp [here]

theorem puts_insert (h : Heap) {id : FrameId} (inside : id < h.frames.size) (name : String) (value : Value) :
    h.Puts id name (some value) (h.write id ((h.read id).insert name value)) :=
  puts_write inside fun other => Table.get?_insert _ name other value

theorem puts_erase (h : Heap) {id : FrameId} (inside : id < h.frames.size) (name : String) :
    h.Puts id name none (h.write id ((h.read id).erase name)) :=
  puts_write inside fun other => Table.get?_erase _ name other

inductive FrameOp where
  | read (name : String)
  | set (name : String) (value : Value)
  | remove (name : String)

def FrameOp.name : FrameOp → String
  | read name | set name _ | remove name => name

inductive FrameAnswer where
  | found (value : Option Value)
  | done
  | removed (existed : Bool)
deriving DecidableEq

-- The operations in order, each in the state that the one before it left.
def performAll {State : Type} (perform : State → FrameOp → FrameAnswer × State) (state : State) :
    List FrameOp → List FrameAnswer × State
  | [] => ([], state)
  | op :: ops =>
      let (answer, next) := perform state op
      let (answers, last) := performAll perform next ops
      (answer :: answers, last)

structure Layers where
  own : String → Option Value
  outer : String → Option Value

namespace Layers

def visible (l : Layers) (name : String) : Option Value := (l.own name).or (l.outer name)

def depth (l : Layers) (name : String) : Nat := (l.own name).isSome.toNat + (l.outer name).isSome.toNat

def putOwn (l : Layers) (name : String) (entry : Option Value) : Layers :=
  { l with own := Function.update l.own name entry }

def putOuter (l : Layers) (name : String) (entry : Option Value) : Layers :=
  { l with outer := Function.update l.outer name entry }

-- Only a name that the outer layer alone holds is set there, and a name is removed from where it is visible.
def perform (l : Layers) : FrameOp → FrameAnswer × Layers
  | .read name => (.found (l.visible name), l)
  | .set name value =>
      (.done, if (l.outer name).isSome && !(l.own name).isSome then l.putOuter name (some value)
        else l.putOwn name (some value))
  | .remove name =>
      (.removed (l.visible name).isSome, if (l.own name).isSome then l.putOwn name none else l.putOuter name none)

inductive DifferAt (name : String) (l l' : Layers) : Prop
  | own (same : l'.outer = l.outer) (others : ∀ other, other ≠ name → l'.own other = l.own other)
  | outer (same : l'.own = l.own) (others : ∀ other, other ≠ name → l'.outer other = l.outer other)

theorem perform_cases (l : Layers) (op : FrameOp) :
    (l.perform op).2 = l ∨ (∃ entry, (l.perform op).2 = l.putOwn op.name entry) ∨
      ∃ entry, (l.perform op).2 = l.putOuter op.name entry ∧
        (entry.isSome = true → (l.outer op.name).isSome = true) := by
  cases op with
  | read name => exact .inl rfl
  | set name value =>
      dsimp only [perform, FrameOp.name]
      split
      · rename_i there
        exact .inr (.inr ⟨some value, rfl, fun _ => (Bool.and_eq_true_iff.mp there).1⟩)
      · exact .inr (.inl ⟨some value, rfl⟩)
  | remove name =>
      dsimp only [perform, FrameOp.name]
      split
      · exact .inr (.inl ⟨none, rfl⟩)
      · exact .inr (.inr ⟨none, rfl, fun held => by cases held⟩)

theorem perform_differ_at (l : Layers) (op : FrameOp) : DifferAt op.name l (l.perform op).2 := by
  obtain same | ⟨entry, changed⟩ | ⟨entry, changed, -⟩ := l.perform_cases op
  · rw [same]
    exact .own rfl fun _ _ => rfl
  · rw [changed]
    exact .own rfl fun _ different => Function.update_of_ne different _ _
  · rw [changed]
    exact .outer rfl fun _ different => Function.update_of_ne different _ _

-- What the outer layer holds after an operation, it held before, if with another value.
theorem perform_outer (l : Layers) (op : FrameOp) (name : String)
    (held : ((l.perform op).2.outer name).isSome = true) : (l.outer name).isSome = true := by
  obtain same | ⟨entry, changed⟩ | ⟨entry, changed, there⟩ := l.perform_cases op
  · rwa [same] at held
  · rwa [changed] at held
  · rw [changed] at held
    dsimp only [putOuter] at held
    by_cases same : name = op.name
    · rw [same, Function.update_self] at held
      rw [same]
      exact there held
    · rwa [Function.update_of_ne same] at held

theorem perform_all_outer (l : Layers) (ops : List FrameOp) (name : String)
    (held : ((performAll perform l ops).2.outer name).isSome = true) : (l.outer name).isSome = true := by
  induction ops generalizing l with
  | nil => exact held
  | cons op ops ih => exact perform_outer l op name (ih (l.perform op).2 held)

theorem visible_iff_depth (l : Layers) (name : String) : (l.visible name).isSome = true ↔ 0 < l.depth name := by
  unfold visible depth
  cases l.own name <;> cases l.outer name <;> simp

theorem depth_remove (l : Layers) (name : String) : (l.perform (.remove name)).2.depth name = l.depth name - 1 := by
  dsimp only [perform]
  cases own : l.own name <;> cases outer : l.outer name <;> simp [depth, putOwn, putOuter, own, outer]

theorem depth_removals (l : Layers) (name : String) (count : Nat) :
    (performAll perform l (List.replicate count (.remove name))).2.depth name = l.depth name - count := by
  induction count generalizing l with
  | zero => rfl
  | succ count ih =>
      have rest := ih (l.perform (.remove name)).2
      rw [depth_remove] at rest
      rw [List.replicate_succ]
      exact rest.trans (by omega)

end Layers

namespace CallFrame

def perform (f : CallFrame) (h : Heap) : FrameOp → FrameAnswer × Heap
  | .read name => (.found (f.local? h name), h)
  | .set name value => (.done, f.setLocal h name value)
  | .remove name => (f.removeLocal h name).map .removed id

def layers (f : CallFrame) (h : Heap) : Layers where
  own := h.entry f.locals
  outer name := f.captured.bind fun outer => h.entry outer name

def after (f : CallFrame) (h : Heap) (ops : List FrameOp) : Heap := (performAll f.perform h ops).2

-- The frame of locals exists, and it is not the captured one.
structure Placed (f : CallFrame) (h : Heap) : Prop where
  allocated : f.locals < h.frames.size
  apart : f.captured ≠ some f.locals

-- What is so of a frame at any moment, `start` being an earlier one.
structure LayerLaws (f : CallFrame) (start now : Heap) : Prop where
  reads : ∀ name, f.local? now name = ((f.layers now).own name).or ((f.layers now).outer name)
  changes : ∀ op, Layers.DifferAt op.name (f.layers now) (f.layers (f.perform now op).2)
  sets : ∀ name value, f.layers (f.setLocal now name value) =
    if (f.layers now).own name = none ∧ (f.layers now).outer name ≠ none then
      (f.layers now).putOuter name (some value)
    else (f.layers now).putOwn name (some value)
  captured : ∀ name, (f.layers now).outer name ≠ none → (f.layers start).outer name ≠ none
  removes : ∀ name, (f.removeLocal now name).1 = true ↔ ∃ value, f.local? now name = some value
  removals : ∀ name count,
    (∃ value, f.local? (f.after now (List.replicate count (.remove name))) name = some value) ↔
      count < (f.layers now).depth name

end CallFrame

theorem local?_eq_visible (f : CallFrame) (h : Heap) (name : String) :
    f.local? h name = (f.layers h).visible name := by
  dsimp only [CallFrame.local?, Layers.visible, CallFrame.layers, Heap.entry]
  cases (h.read f.locals).get? name <;> rfl

section

variable {f : CallFrame} {h h' : Heap}

theorem placed_grown (placed : f.Placed h) (grown : h.frames.size ≤ h'.frames.size) : f.Placed h' :=
  ⟨Nat.lt_of_lt_of_le placed.allocated grown, placed.apart⟩

theorem layers_put_own {name : String} {entry : Option Value} (apart : f.captured ≠ some f.locals)
    (puts : h.Puts f.locals name entry h') : f.layers h' = (f.layers h).putOwn name entry := by
  unfold CallFrame.layers Layers.putOwn
  congr 1
  · exact puts_here puts
  · funext name'
    cases captured : f.captured with
    | none => rfl
    | some outer =>
        have other : outer ≠ f.locals := fun same => apart (captured.trans (congrArg some same))
        exact congrFun (puts_elsewhere puts other) name'

theorem layers_put_outer {outer : FrameId} {name : String} {entry : Option Value} (apart : f.captured ≠ some f.locals)
    (captured : f.captured = some outer) (puts : h.Puts outer name entry h') :
    f.layers h' = (f.layers h).putOuter name entry := by
  have other : f.locals ≠ outer := fun same => apart (captured.trans (congrArg some same.symm))
  unfold CallFrame.layers Layers.putOuter
  congr 1
  · exact puts_elsewhere puts other
  · simp only [captured, Option.bind_some]
    exact puts_here puts

theorem target_cases (f : CallFrame) (h : Heap) (name : String) :
    (f.target h name = f.locals ∧ ¬ (((f.layers h).outer name).isSome && !((f.layers h).own name).isSome) = true) ∨
      (f.captured = some (f.target h name) ∧
        (((f.layers h).outer name).isSome && !((f.layers h).own name).isSome) = true) := by
  unfold CallFrame.target CallFrame.layers
  cases f.captured with
  | none => exact .inl ⟨rfl, by simp⟩
  | some outer =>
      dsimp only [Option.bind_some]
      split
      · rename_i there
        exact .inr ⟨rfl, there⟩
      · rename_i there
        exact .inl ⟨rfl, there⟩

theorem set_local_puts (allocated : f.locals < h.frames.size) (name : String) (value : Value) :
    h.Puts (f.target h name) name (some value) (f.setLocal h name value) := by
  refine puts_insert h ?_ name value
  obtain ⟨own, -⟩ | ⟨captured, there⟩ := target_cases f h name
  · rwa [own]
  · have held := (Bool.and_eq_true_iff.mp there).1
    dsimp only [CallFrame.layers] at held
    rw [captured] at held
    exact entry_allocated held

theorem set_local_layers (placed : f.Placed h) (name : String) (value : Value) :
    f.layers (f.setLocal h name value) = ((f.layers h).perform (.set name value)).2 := by
  have puts := set_local_puts placed.allocated name value
  dsimp only [Layers.perform]
  obtain ⟨own, elsewhere⟩ | ⟨captured, there⟩ := target_cases f h name
  · rw [if_neg elsewhere]
    exact layers_put_own placed.apart (own ▸ puts)
  · rw [if_pos there]
    exact layers_put_outer placed.apart captured puts

theorem remove_local_cases (f : CallFrame) (h : Heap) (name : String) :
    (((f.layers h).own name).isSome = true ∧ h.Puts f.locals name none (f.removeLocal h name).2) ∨
      ((f.layers h).own name = none ∧ ∃ outer, f.captured = some outer ∧
        h.Puts outer name none (f.removeLocal h name).2) ∨
      ((f.layers h).own name = none ∧ (f.layers h).outer name = none ∧ (f.removeLocal h name).2 = h) := by
  unfold CallFrame.removeLocal CallFrame.layers
  split
  · rename_i held
    exact .inl ⟨held, puts_erase h (entry_allocated held) name⟩
  · rename_i missing
    have none_own : h.entry f.locals name = none := Option.not_isSome_iff_eq_none.mp missing
    split
    · rename_i captured
      exact .inr (.inr ⟨none_own, by simp [captured], rfl⟩)
    · rename_i outer captured
      split
      · rename_i held
        exact .inr (.inl ⟨none_own, outer, captured, puts_erase h (entry_allocated held) name⟩)
      · rename_i missing
        have none_outer : h.entry outer name = none := Option.not_isSome_iff_eq_none.mp missing
        exact .inr (.inr ⟨none_own, by simp [captured, none_outer], rfl⟩)

theorem remove_local_layers (apart : f.captured ≠ some f.locals) (name : String) :
    f.layers (f.removeLocal h name).2 = ((f.layers h).perform (.remove name)).2 := by
  dsimp only [Layers.perform]
  obtain ⟨held, puts⟩ | ⟨missing, outer, captured, puts⟩ | ⟨missing, missing', same⟩ := remove_local_cases f h name
  · rw [if_pos held]
    exact layers_put_own apart puts
  · rw [if_neg (by simp [missing])]
    exact layers_put_outer apart captured puts
  · rw [if_neg (by simp [missing]), same, Layers.putOuter, ← missing', Function.update_eq_self]

theorem perform_layers (placed : f.Placed h) (op : FrameOp) :
    (f.perform h op).1 = ((f.layers h).perform op).1 ∧ f.layers (f.perform h op).2 = ((f.layers h).perform op).2 := by
  cases op with
  | read name => exact ⟨congrArg FrameAnswer.found (local?_eq_visible f h name), rfl⟩
  | set name value => exact ⟨rfl, set_local_layers placed name value⟩
  | remove name =>
      have existed : (f.removeLocal h name).1 = ((f.layers h).visible name).isSome := by
        rw [(remove_local_existed f h name).1, local?_eq_visible]
      exact ⟨congrArg FrameAnswer.removed existed, remove_local_layers placed.apart name⟩

theorem perform_size (f : CallFrame) (h : Heap) (op : FrameOp) :
    (f.perform h op).2.frames.size = h.frames.size := by
  cases op with
  | read name => rfl
  | set name value => simp [CallFrame.perform, CallFrame.setLocal]
  | remove name =>
      dsimp only [CallFrame.perform, Prod.map, id]
      unfold CallFrame.removeLocal
      repeat' split
      all_goals simp

theorem perform_all_layers (placed : f.Placed h) (ops : List FrameOp) :
    (performAll f.perform h ops).1 = (performAll Layers.perform (f.layers h) ops).1 ∧
      f.layers (f.after h ops) = (performAll Layers.perform (f.layers h) ops).2 ∧ f.Placed (f.after h ops) := by
  induction ops generalizing h with
  | nil => exact ⟨rfl, rfl, placed⟩
  | cons op ops ih =>
      obtain ⟨answer, layers⟩ := perform_layers placed op
      obtain ⟨answers, last, kept⟩ := ih (placed_grown placed (Nat.le_of_eq (perform_size f h op).symm))
      rw [layers] at answers last
      exact ⟨congr (congrArg List.cons answer) answers, last, kept⟩

end

-- Running functions have frames of their own, and closures captured frames that are there.
structure Session.Placed (s : Session) : Prop where
  frames : ∀ f ∈ s.callStack, f.Placed s.heap
  captures : ∀ key f, s.functions.get? key = some f → ∀ id, f.captured = some id → id < s.heap.frames.size

section

variable {s t : Session}

theorem placed_resumes (placed : s.Placed) (resumed : s.Resumes t)
    (captures : ∀ key f, t.functions.get? key = some f → ∀ id, f.captured = some id → id < s.heap.frames.size) :
    t.Placed := by
  refine ⟨fun f running => ?_, fun key f found id captured => ?_⟩
  · rw [resumed.callStack] at running
    exact placed_grown (placed.frames f running) resumed.frames
  · exact Nat.lt_of_lt_of_le (captures key f found id captured) resumed.frames

-- A new closure captures the locals of the running function.
theorem placed_define (placed : s.Placed) {header : FunctionHeader} {body : List Statement}
    (filed : s.define header body = .ok t) : t.Placed := by
  refine placed_resumes placed (resumes_define filed) fun key f found id captured => ?_
  rw [define_ok filed] at found
  rcases Table.get?_of_insert found with rfl | before
  · dsimp only [Session.declared] at captured
    split at captured
    · obtain ⟨frame, top, rfl⟩ := Option.map_eq_some_iff.mp captured
      exact (placed.frames frame (List.mem_of_head? top)).allocated
    · cases captured
  · exact placed.captures key f before id captured

theorem placed_delete (placed : s.Placed) {bang : Bool} {name : FunctionName}
    (deleted : s.delete bang name = .ok t) : t.Placed := by
  refine placed_resumes placed (resumes_delete deleted) fun key f found id captured => ?_
  exact placed.captures key f (delete_fewer deleted found) id captured

-- The new frame is younger than every captured one.
theorem placed_enter (placed : s.Placed) {f : DefinedFunction}
    (older : ∀ id, f.captured = some id → id < s.heap.frames.size) (args : List Value) : (s.enter f args).Placed := by
  have grown : (s.enter f args).heap.frames.size = s.heap.frames.size + 1 := by simp [Session.enter]
  refine ⟨fun frame running => ?_, fun key g found id captured => ?_⟩
  · rcases List.mem_cons.mp running with rfl | outer
    · exact ⟨grown ▸ Nat.lt_succ_self _, fun same => Nat.lt_irrefl _ (older _ same)⟩
    · exact placed_grown (placed.frames frame outer) (by omega)
  · exact grown ▸ Nat.lt_succ_of_lt (placed.captures key g found id captured)

end

variable {σ : Type} [Host σ]

theorem step_placed {w w' : World σ} (taken : Step w w') (placed : w.session.Placed) : w'.session.Placed := by
  cases taken with
  | store v value =>
      refine placed_resumes placed (resumes_store _ _ _ _) fun key f found => ?_
      rw [store_functions] at found
      exact placed.captures key f found
  | discard v =>
      refine placed_resumes placed (resumes_discard _ _ _) fun key f found => ?_
      rw [discard_functions] at found
      exact placed.captures key f found
  | define header body s filed => exact placed_define placed filed
  | delete bang name s deleted => exact placed_delete placed deleted
  | _ => exact placed

-- What a function captured before its arguments were evaluated is there when it is invoked.
def CapturesFrame : Task → World σ → Prop
  | .invoke f _, w => ∀ id, f.captured = some id → id < w.session.heap.frames.size
  | _, _ => True

theorem captures_frame_starts {t t' : Task} {w w' : World σ} (placed : w.session.Placed)
    (started : Starts t w t' w') : CapturesFrame t' w' := by
  cases started with
  | callee found ended =>
      exact fun id captured => Nat.lt_of_lt_of_le (placed.captures _ _ found id captured) (ok_resumes ended).frames
  | named args found => exact placed.captures _ _ found
  | _ => trivial

def placement : Invariant σ where
  Holds w := w.session.Placed
  Fits := CapturesFrame
  starts placed _ started := captures_frame_starts placed started
  leaf leaf placed _ := evolves_steps step_placed (leaf_evolves leaf _) rfl placed
  enter placed older _ := placed_enter placed older _
  leave _ placed _ := ⟨fun f running => placed.frames f (List.mem_of_mem_tail running), placed.captures⟩
  opened _ placed := ⟨placed.frames, placed.captures⟩
  closed placed := ⟨placed.frames, placed.captures⟩

theorem rests_placed {w : World σ} (rests : Rests w) : w.session.Placed := by
  induction rests with
  | fresh settings host =>
      refine ⟨?_, ?_⟩
      · intro f running
        cases running
      · intro key f found
        cases found
  | ran _ asked ih => exact run_holds placement _ ih (by cases asked <;> trivial)
  | set _ name value ih => exact ⟨ih.frames, ih.captures⟩
  | hosted _ host ih => exact ih

theorem reachable_placed {w : World σ} (reached : Reachable w) : w.session.Placed := by
  obtain ⟨start, t, rests, asked, passed⟩ := reached
  exact passes_holds placement passed (rests_placed rests) (by cases asked <;> trivial)

theorem layer_laws_after {f : CallFrame} {h : Heap} (placed : f.Placed h) (ops : List FrameOp) :
    f.LayerLaws h (f.after h ops) := by
  obtain ⟨-, layers, now⟩ := perform_all_layers placed ops
  refine ⟨fun name => local?_eq_visible f _ name, fun op => ?_, fun name value => ?_, fun name held => ?_,
    fun name => ?_, fun name count => ?_⟩
  · rw [(perform_layers now op).2]
    exact Layers.perform_differ_at _ op
  · rw [set_local_layers now name value]
    refine if_congr ?_ rfl rfl
    simp only [Bool.and_eq_true, Bool.not_eq_true', Option.isSome_eq_false_iff, Option.isNone_iff_eq_none,
      Option.isSome_iff_ne_none]
    exact and_comm
  · rw [layers] at held
    exact Option.isSome_iff_ne_none.mp (Layers.perform_all_outer _ ops name (Option.isSome_iff_ne_none.mpr held))
  · rw [(remove_local_existed f _ name).1, Option.isSome_iff_exists]
  · have removed := (perform_all_layers now (List.replicate count (.remove name))).2.1
    rw [← Option.isSome_iff_exists, local?_eq_visible, removed, Layers.visible_iff_depth, Layers.depth_removals,
      Nat.sub_pos_iff_lt]

theorem frame_is_two_layer_map :
    (∀ {σ : Type} [Host σ] {w : World σ}, Reachable w → ∀ f ∈ w.session.callStack, f.Placed w.session.heap) ∧
    ∀ (f : CallFrame) (h : Heap), f.Placed h → ∀ ops : List FrameOp,
      (performAll f.perform h ops).1 = (performAll Layers.perform (f.layers h) ops).1 ∧
      f.layers (f.after h ops) = (performAll Layers.perform (f.layers h) ops).2 ∧
      f.LayerLaws h (f.after h ops) := by
  refine ⟨fun reached => (reachable_placed reached).frames, fun f h placed ops => ?_⟩
  obtain ⟨answers, layers, -⟩ := perform_all_layers placed ops
  exact ⟨answers, layers, layer_laws_after placed ops⟩

-- The captured frame has a `count` and an `n`, the frame itself another `n`.
def shadowing : Heap :=
  ⟨#[(Table.empty.insert "count" (.num 1)).insert "n" (.num 1), Table.empty.insert "n" (.num 5)]⟩

def closureFrame : CallFrame := ⟨"Inner", "a.vim", bindArguments [] [], 1, some 0⟩

-- `n` is removed twice before it is gone; in between, the captured one is set.
theorem closure_frame_uncovers :
    (∀ f ∈ inOuter.session.callStack, f.Placed inOuter.session.heap) ∧ closureFrame.Placed shadowing ∧
    (performAll closureFrame.perform shadowing
      [.set "count" (.num 2), .remove "n", .read "n", .set "n" (.num 7), .read "n", .remove "n", .remove "n"]).1 =
        [.done, .removed true, .found (some (.num 1)), .done, .found (some (.num 7)), .removed true, .removed false] ∧
    closureFrame.LayerLaws shadowing (closureFrame.after shadowing [.set "count" (.num 2), .remove "n"]) := by
  have placed : closureFrame.Placed shadowing := ⟨by decide, by decide⟩
  refine ⟨frame_is_two_layer_map.1 in_outer_reachable, placed, by decide +kernel, ?_⟩
  exact (frame_is_two_layer_map.2 closureFrame shadowing placed _).2.2

end ExScript
