import ExScript.Host.Recorder
import ExScript.Proofs.Session.Simulation

set_option autoImplicit false

namespace ExScript

namespace Table

variable {κ ν : Type} [DecidableEq κ]

-- The tables hold the same, whatever the order of their entries.
def Same (a b : Table κ ν) : Prop := ∀ key, b.get? key = a.get? key

theorem same_insert {a b : Table κ ν} (same : a.Same b) (key : κ) (value : ν) :
    (a.insert key value).Same (b.insert key value) := by
  intro other
  by_cases here : other = key
  · simp [here]
  · simp [here, same other]

theorem same_erase {a b : Table κ ν} (same : a.Same b) (key : κ) : (a.erase key).Same (b.erase key) := by
  intro other
  by_cases here : other = key
  · simp [here]
  · simp [here, same other]

theorem same_contains {a b : Table κ ν} (same : a.Same b) (key : κ) : b.contains key = a.contains key := by
  rw [contains, contains, same key]

end Table

-- Frames have identities of their own in each session; a match says which frame of one is which of the other, and
-- grows with every frame that both add.
abbrev FrameMatch := FrameId → FrameId → Prop

structure MatchedFunctions (m : FrameMatch) (f g : DefinedFunction) : Prop where
  header : g.header = f.header
  body : g.body = f.body
  script : g.script = f.script
  captured : Option.Rel m f.captured g.captured

-- Nothing is asked of the frames on the call stacks but their number. Matched frames exist, and closures share
-- a frame in one session where they share it in the other.
structure Session.Matched (m : FrameMatch) (s t : Session) : Prop where
  settings : t.settings = s.settings
  depth : t.callStack.length = s.callStack.length
  globals : s.globals.Same t.globals
  namespaces : ∀ id, (s.namespaceOf id).Same (t.namespaceOf id)
  functions : ∀ key, Option.Rel (MatchedFunctions m) (s.functions.get? key) (t.functions.get? key)
  frames : ∀ {i j}, m i j → (s.heap.read i).Same (t.heap.read j)
  exist : ∀ {i j}, m i j → i < s.heap.frames.size ∧ j < t.heap.frames.size
  oneToOne : ∀ {i j i' j'}, m i j → m i' j' → (i = i' ↔ j = j')

structure MatchedCallFrames (m : FrameMatch) (frame frame' : CallFrame) : Prop where
  script : frame'.script = frame.script
  arguments : frame'.arguments = frame.arguments
  locals : m frame.locals frame'.locals
  captured : Option.Rel m frame.captured frame'.captured

-- The sessions inside calls of the same function: of the frames on the stacks only the innermost match.
structure Session.MatchedInside (m : FrameMatch) (s t : Session) : Prop where
  outer : s.Matched m t
  innermost : ∃ frame rest frame' rest',
    s.callStack = frame :: rest ∧ t.callStack = frame' :: rest' ∧ MatchedCallFrames m frame frame'

section

variable {m m' : FrameMatch}

theorem rel_mono {α : Type} {p q : α → α → Prop} (weaker : ∀ a b, p a b → q a b) {a b : Option α}
    (related : Option.Rel p a b) : Option.Rel q a b := by
  cases related with
  | none => exact .none
  | some here => exact .some (weaker _ _ here)

theorem matched_functions_mono (grown : ∀ i j, m i j → m' i j) {f g : DefinedFunction}
    (matched : MatchedFunctions m f g) : MatchedFunctions m' f g :=
  { matched with captured := rel_mono grown matched.captured }

theorem matched_call_frames_mono (grown : ∀ i j, m i j → m' i j) {frame frame' : CallFrame}
    (matched : MatchedCallFrames m frame frame') : MatchedCallFrames m' frame frame' :=
  { matched with locals := grown _ _ matched.locals, captured := rel_mono grown matched.captured }

end

section

variable {m : FrameMatch} {s t : Session}

theorem matched_globals (matched : s.Matched m t) {globals globals' : Bindings} (same : globals.Same globals') :
    Session.Matched m { s with globals } { t with globals := globals' } := by
  obtain ⟨settings, depth, _, namespaces, functions, frames, exist, oneToOne⟩ := matched
  exact ⟨settings, depth, same, namespaces, functions, frames, exist, oneToOne⟩

theorem matched_namespaces (matched : s.Matched m t) (id : String) {vars vars' : Bindings} (same : vars.Same vars') :
    Session.Matched m { s with namespaces := s.namespaces.insert id vars }
      { t with namespaces := t.namespaces.insert id vars' } := by
  obtain ⟨settings, depth, globals, namespaces, functions, frames, exist, oneToOne⟩ := matched
  refine ⟨settings, depth, globals, fun other => ?_, functions, frames, exist, oneToOne⟩
  rw [Session.namespace_of_insert, Session.namespace_of_insert]
  split
  · exact same
  · exact namespaces other

-- A write goes to matched frames in both sessions, so it is seen through every matched identity or through none.
theorem matched_write (matched : s.Matched m t) {i j : FrameId} (here : m i j) {frame frame' : Bindings}
    (same : frame.Same frame') :
    Session.Matched m { s with heap := s.heap.write i frame } { t with heap := t.heap.write j frame' } := by
  obtain ⟨settings, depth, globals, namespaces, functions, frames, exist, oneToOne⟩ := matched
  refine ⟨settings, depth, globals, namespaces, functions, fun {i' j'} there => ?_, fun there => ?_, oneToOne⟩
  · by_cases written : i' = i
    · have written' := (oneToOne there here).mp written
      simpa [written, written', exist here] using same
    · have written' : j' ≠ j := fun same => written ((oneToOne there here).mpr same)
      simpa [written, written'] using frames there
  · simpa using exist there

section

variable {frame frame' : CallFrame}

theorem matched_local (matched : s.Matched m t) (frames : MatchedCallFrames m frame frame') (name : String) :
    frame'.local? t.heap name = frame.local? s.heap name := by
  unfold CallFrame.local?
  rw [matched.frames frames.locals name]
  split
  · rfl
  · rcases rel_cases frames.captured with ⟨without, without'⟩ | ⟨outer, outer', here, captured, captured'⟩
    · rw [without, without']
      rfl
    · rw [captured, captured']
      exact matched.frames here name

theorem matched_target (matched : s.Matched m t) (frames : MatchedCallFrames m frame frame') (name : String) :
    m (frame.target s.heap name) (frame'.target t.heap name) := by
  unfold CallFrame.target
  rcases rel_cases frames.captured with ⟨without, without'⟩ | ⟨outer, outer', here, captured, captured'⟩
  · rw [without, without']
    exact frames.locals
  · rw [captured, captured']
    dsimp only
    rw [Table.same_contains (matched.frames here), Table.same_contains (matched.frames frames.locals)]
    split
    · exact here
    · exact frames.locals

theorem matched_set_local (matched : s.Matched m t) (frames : MatchedCallFrames m frame frame') (name : String)
    (value : Value) :
    Session.Matched m { s with heap := frame.setLocal s.heap name value }
      { t with heap := frame'.setLocal t.heap name value } := by
  have here := matched_target matched frames name
  exact matched_write matched here (Table.same_insert (matched.frames here) name value)

theorem matched_remove_local (matched : s.Matched m t) (frames : MatchedCallFrames m frame frame') (name : String) :
    (frame'.removeLocal t.heap name).1 = (frame.removeLocal s.heap name).1 ∧
      Session.Matched m { s with heap := (frame.removeLocal s.heap name).2 }
        { t with heap := (frame'.removeLocal t.heap name).2 } := by
  unfold CallFrame.removeLocal
  rw [Table.same_contains (matched.frames frames.locals)]
  split
  · exact ⟨rfl, matched_write matched frames.locals (Table.same_erase (matched.frames frames.locals) name)⟩
  · rcases rel_cases frames.captured with ⟨without, without'⟩ | ⟨outer, outer', here, captured, captured'⟩
    · rw [without, without']
      exact ⟨rfl, matched⟩
    · rw [captured, captured']
      dsimp only
      rw [Table.same_contains (matched.frames here)]
      split
      · exact ⟨rfl, matched_write matched here (Table.same_erase (matched.frames here) name)⟩
      · exact ⟨rfl, matched⟩

end

theorem matched_functions (matched : s.Matched m t) {functions functions' : FunctionTable}
    (same : ∀ key, Option.Rel (MatchedFunctions m) (functions.get? key) (functions'.get? key)) :
    Session.Matched m { s with functions } { t with functions := functions' } := by
  obtain ⟨settings, depth, globals, namespaces, _, frames, exist, oneToOne⟩ := matched
  exact ⟨settings, depth, globals, namespaces, same, frames, exist, oneToOne⟩

theorem matched_contains (matched : s.Matched m t) (key : FunctionKey) :
    t.functions.contains key = s.functions.contains key := by
  unfold Table.contains
  rcases rel_cases (matched.functions key) with ⟨absent, absent'⟩ | ⟨f, g, _, found, found'⟩
  · rw [absent, absent']
  · rw [found, found']
    rfl

theorem matched_insert (matched : s.Matched m t) (key : FunctionKey) {f g : DefinedFunction}
    (functions : MatchedFunctions m f g) :
    Session.Matched m { s with functions := s.functions.insert key f }
      { t with functions := t.functions.insert key g } := by
  apply matched_functions matched
  intro other
  by_cases here : other = key
  · simpa [here] using functions
  · simpa [here] using matched.functions other

theorem matched_erase (matched : s.Matched m t) (key : FunctionKey) :
    Session.Matched m { s with functions := s.functions.erase key } { t with functions := t.functions.erase key } := by
  apply matched_functions matched
  intro other
  by_cases here : other = key
  · simp [here]
  · simpa [here] using matched.functions other

theorem matched_stacks (matched : s.Matched m t) {stack stack' : List CallFrame} (depth : stack'.length = stack.length) :
    Session.Matched m { s with callStack := stack } { t with callStack := stack' } := by
  obtain ⟨settings, _, globals, namespaces, functions, frames, exist, oneToOne⟩ := matched
  exact ⟨settings, depth, globals, namespaces, functions, frames, exist, oneToOne⟩

-- The new frames are matched with each other; they are in no match yet, since they did not exist.
def withNewFrames (m : FrameMatch) (s t : Session) : FrameMatch := fun i j =>
  m i j ∨ (i = s.heap.frames.size ∧ j = t.heap.frames.size)

theorem matched_alloc (matched : s.Matched m t) :
    Session.Matched (withNewFrames m s t) { s with heap := s.heap.alloc.2 } { t with heap := t.heap.alloc.2 } := by
  obtain ⟨settings, depth, globals, namespaces, functions, frames, exist, oneToOne⟩ := matched
  refine ⟨settings, depth, globals, namespaces, fun key => ?_, fun here => ?_, fun here => ?_, fun here there => ?_⟩
  · exact rel_mono (fun _ _ => matched_functions_mono fun _ _ => .inl) (functions key)
  · rcases here with old | ⟨rfl, rfl⟩
    · simpa [exist old] using frames old
    · simp only [Heap.read_alloc_new]
      exact fun _ => rfl
  · simp only [Heap.size_alloc]
    rcases here with old | ⟨rfl, rfl⟩
    · exact ⟨Nat.lt_succ_of_lt (exist old).1, Nat.lt_succ_of_lt (exist old).2⟩
    · exact ⟨Nat.lt_succ_self _, Nat.lt_succ_self _⟩
  · rcases here with old | ⟨rfl, rfl⟩ <;> rcases there with old' | ⟨rfl, rfl⟩
    · exact oneToOne old old'
    · exact iff_of_false (Nat.ne_of_lt (exist old).1) (Nat.ne_of_lt (exist old).2)
    · exact iff_of_false (Nat.ne_of_gt (exist old').1) (Nat.ne_of_gt (exist old').2)
    · exact iff_of_true rfl rfl

theorem matched_enter (matched : s.Matched m t) {f g : DefinedFunction} (functions : MatchedFunctions m f g)
    (args : List Value) : (s.enter f args).MatchedInside (withNewFrames m s t) (t.enter g args) := by
  refine ⟨matched_stacks (matched_alloc matched) (by simp [matched.depth]), _, _, _, _, rfl, rfl, ?_⟩
  refine ⟨functions.script, ?_, .inr ⟨rfl, rfl⟩, rel_mono (fun _ _ => .inl) functions.captured⟩
  rw [functions.header]

theorem matched_leave (matched : s.Matched m t) : s.leave.Matched m t.leave :=
  matched_stacks matched (by simp [matched.depth])

end

section

variable {m m' : FrameMatch} {s t s' t' : Session}

theorem inside_resumes (inside : s.MatchedInside m t) (grown : ∀ i j, m i j → m' i j) (outer : s'.Matched m' t')
    (resumed : s.Resumes s') (resumed' : t.Resumes t') : s'.MatchedInside m' t' := by
  obtain ⟨_, frame, rest, frame', rest', stack, stack', frames⟩ := inside
  exact ⟨outer, frame, rest, frame', rest', resumed.callStack.trans stack, resumed'.callStack.trans stack',
    matched_call_frames_mono grown frames⟩

theorem inside_script (inside : s.MatchedInside m t) : t.currentScript = s.currentScript := by
  obtain ⟨_, frame, rest, frame', rest', stack, stack', frames⟩ := inside
  rw [Session.currentScript, Session.currentScript, stack, stack']
  exact frames.script

theorem inside_stored (inside : s.MatchedInside m t) (slot : Slot) (name : String) :
    t.stored? slot name = s.stored? slot name := by
  obtain ⟨outer, frame, rest, frame', rest', stack, stack', frames⟩ := inside
  cases slot with
  | global => exact outer.globals name
  | script id => exact outer.namespaces id name
  | argument =>
      dsimp only [Session.stored?]
      rw [stack, stack']
      exact congrArg (Table.get? · name) frames.arguments
  | function =>
      dsimp only [Session.stored?]
      rw [stack, stack']
      exact matched_local outer frames name
  | host scope => rfl

theorem matched_store (inside : s.MatchedInside m t) (slot : Slot) (name : String) (value : Value) :
    (s.store slot name value).Matched m (t.store slot name value) := by
  obtain ⟨outer, frame, rest, frame', rest', stack, stack', frames⟩ := inside
  cases slot with
  | global => exact matched_globals outer (Table.same_insert outer.globals name value)
  | script id => exact matched_namespaces outer id (Table.same_insert (outer.namespaces id) name value)
  | function =>
      dsimp only [Session.store]
      rw [stack, stack']
      have stored := matched_set_local outer frames name value
      rwa [stack, stack'] at stored
  | argument => exact outer
  | host scope => exact outer

theorem matched_discard (inside : s.MatchedInside m t) (slot : Slot) (name : String) :
    (t.discard slot name).1 = (s.discard slot name).1 ∧ (s.discard slot name).2.Matched m (t.discard slot name).2 := by
  obtain ⟨outer, frame, rest, frame', rest', stack, stack', frames⟩ := inside
  cases slot with
  | global =>
      dsimp only [Session.discard]
      rw [Table.same_contains outer.globals]
      split
      · exact ⟨rfl, matched_globals outer (Table.same_erase outer.globals name)⟩
      · exact ⟨rfl, outer⟩
  | script id =>
      dsimp only [Session.discard]
      rw [Table.same_contains (outer.namespaces id)]
      split
      · exact ⟨rfl, matched_namespaces outer id (Table.same_erase (outer.namespaces id) name)⟩
      · exact ⟨rfl, outer⟩
  | function =>
      dsimp only [Session.discard]
      rw [stack, stack']
      have discarded := matched_remove_local outer frames name
      rwa [stack, stack'] at discarded
  | argument => exact ⟨rfl, outer⟩
  | host scope => exact ⟨rfl, outer⟩

-- A closure captures the innermost frame, which is matched, so closures stay matched too.
theorem inside_captured (inside : s.MatchedInside m t) (closure : Bool) :
    Option.Rel m (if closure then s.callStack.head?.map (·.locals) else none)
      (if closure then t.callStack.head?.map (·.locals) else none) := by
  obtain ⟨_, frame, rest, frame', rest', stack, stack', frames⟩ := inside
  split
  · rw [stack, stack']
    exact .some frames.locals
  · exact .none

theorem inside_define (inside : s.MatchedInside m t) (header : FunctionHeader) (body : List Statement) :
    SameEnding (Session.MatchedInside m) (s.define header body) (t.define header body) := by
  have functions : MatchedFunctions m
      ⟨header, body, s.currentScript, if header.flags.closure then s.callStack.head?.map (·.locals) else none⟩
      ⟨header, body, s.currentScript, if header.flags.closure then t.callStack.head?.map (·.locals) else none⟩ :=
    ⟨rfl, rfl, rfl, inside_captured inside _⟩
  unfold Session.define FunctionTable.define
  rw [inside_script inside, matched_contains inside.outer]
  by_cases taken : (!header.replace && s.functions.contains (header.name.key s.currentScript)) = true
  · simp only [if_pos taken]
    rfl
  · simp only [if_neg taken]
    exact ⟨matched_insert inside.outer _ functions, inside.innermost⟩

theorem inside_delete (inside : s.MatchedInside m t) (bang : Bool) (name : FunctionName) :
    SameEnding (Session.MatchedInside m) (s.delete bang name) (t.delete bang name) := by
  unfold Session.delete
  rw [inside_script inside]
  dsimp only
  rw [matched_contains inside.outer]
  split
  · exact ⟨matched_erase inside.outer _, inside.innermost⟩
  · split
    · exact inside
    · rfl

end

def callers : Simulation where
  rewriting := .keep
  Stage := FrameMatch
  Before m m' := ∀ i j, m i j → m' i j
  Alike := Session.MatchedInside
  SameFunction := MatchedFunctions
  before_refl _ _ _ here := here
  before_trans first second i j here := second i j (first i j here)
  same_function_mono grown matched := matched_functions_mono grown matched
  header matched := matched.header
  body matched := by rw [keep_body, matched.body]
  settings inside := inside.outer.settings
  depth inside := inside.outer.depth
  script := inside_script
  stored inside _ := inside_stored inside _
  store inside _ name value := inside_resumes inside (fun _ _ here => here) (matched_store inside _ name value)
    (resumes_store _ _ _ _) (resumes_store _ _ _ _)
  discarded inside _ name := (matched_discard inside _ name).1
  discard inside _ name := inside_resumes inside (fun _ _ here => here) (matched_discard inside _ name).2
    (resumes_discard _ _ _) (resumes_discard _ _ _)
  function inside _ := inside.outer.functions _
  define inside header body := by
    rw [keep_body]
    exact inside_define inside header body
  delete := inside_delete
  enter inside functions args := ⟨_, fun _ _ => .inl, matched_enter inside.outer functions args⟩
  leave inside grown after resumed resumed' := inside_resumes inside grown (matched_leave after.outer) resumed resumed'

variable {σ : Type}

structure World.Matched (m : FrameMatch) (w v : World σ) : Prop where
  session : w.session.Matched m v.session
  host : v.host = w.host
  calls : v.calls = w.calls

-- Both calls end with the same value or the same error and made the same calls of the host. Frames that were
-- matched before are matched still, next to those that the calls added.
def SameCall (m : FrameMatch) : EStateM.Result RuntimeError (World σ) Value →
    EStateM.Result RuntimeError (World σ) Value → Prop
  | .ok a w, .ok b v => ∃ m' : FrameMatch, (∀ i j, m i j → m' i j) ∧ a = b ∧ w.Matched m' v
  | .error error w, .error error' v => ∃ m' : FrameMatch, (∀ i j, m i j → m' i j) ∧ error = error' ∧ w.Matched m' v
  | _, _ => False

theorem same_call_error {m : FrameMatch} (error : RuntimeError) {w v : World σ} (matched : w.Matched m v) :
    SameCall m (.error error w) (.error error v) :=
  ⟨m, fun _ _ here => here, rfl, matched⟩

theorem same_call_of_outcome {m : FrameMatch} {ended ended' : EStateM.Result RuntimeError (World σ) Value}
    (outcome : callers.Outcome World.Matched m (fun _ => Eq) ended ended') : SameCall m ended ended' := by
  cases ended <;> cases ended' <;> exact outcome

theorem matched_room {m : FrameMatch} {s t : Session} (matched : s.Matched m t) : t.room = s.room := by
  rw [Session.room, Session.room, matched.settings, matched.depth]

theorem matched_functions_refusal {m : FrameMatch} {f g : DefinedFunction} (functions : MatchedFunctions m f g)
    (count : Nat) : g.refusal? count = f.refusal? count := by
  rw [DefinedFunction.refusal?, DefinedFunction.refusal?, functions.header]

theorem in_frame_same_call [Host σ] {m : FrameMatch} {w v : World σ} (worlds : w.Matched m v) {f g : DefinedFunction}
    (functions : MatchedFunctions m f g) (args : List Value) (room : Nat) :
    SameCall m (inFrame f args (runBody (invokeWithin room) f.body) w)
      (inFrame g args (runBody (invokeWithin room) f.body) v) := by
  have bodies : ∀ j, callers.Agree j (fun _ => Eq) (runBody (invokeWithin room) f.body : Run σ Value)
      (runBody (invokeWithin room) f.body) := by
    intro j
    have same := run_body_agree (invoke_within_agrees (σ := σ) callers room) j f.body
    rwa [show f.body.map (callers.comparison (σ := σ)).rewriting.statement = f.body from keep_body _] at same
  have grown : callers.Before m (withNewFrames m w.session v.session) := fun _ _ => .inl
  have entered : callers.AlikeWorlds (withNewFrames m w.session v.session) (w.entered f args) (v.entered g args) :=
    ⟨matched_enter worlds.session functions args, worlds.host, worlds.calls⟩
  have left : ∀ {m' : FrameMatch} {w' v' : World σ}, callers.AlikeWorlds m' w' v' →
      World.Matched m' { w' with session := w'.session.leave } { v' with session := v'.session.leave } :=
    fun after => ⟨matched_leave (Session.MatchedInside.outer after.session), after.host, after.calls⟩
  exact same_call_of_outcome (in_frame_outcome bodies (run_body_resumes room _) (run_body_resumes room _)
    functions.header args grown entered fun _ after _ _ => left after)

theorem invoke_ignores_callers [Host σ] (m : FrameMatch) (s t : Session) (host : σ) (f g : DefinedFunction)
    (args : List Value) (sessions : s.Matched m t) (functions : MatchedFunctions m f g) :
    SameCall m (invoke f args (.start s host)) (invoke g args (.start t host)) := by
  have worlds : World.Matched m (.start s host) (.start t host) := ⟨sessions, rfl, rfl⟩
  have rooms : (World.start t host).session.room = (World.start s host).session.room := matched_room sessions
  unfold invoke
  rw [rooms]
  cases (World.start s host).session.room with
  | zero =>
      unfold invokeWithin
      rw [matched_functions_refusal functions]
      cases f.refusal? args.length with
      | some error => exact same_call_error error worlds
      | none =>
        show SameCall m (.error (.callDepthExceeded s.settings.maxDepth) _)
          (.error (.callDepthExceeded t.settings.maxDepth) _)
        rw [sessions.settings]
        exact same_call_error _ worlds
  | succ room =>
      unfold invokeWithin
      rw [matched_functions_refusal functions, functions.body]
      cases f.refusal? args.length with
      | some error => exact same_call_error error worlds
      | none => exact in_frame_same_call worlds functions args room

-- A closure that appends its argument to a captured `n`, shows it and returns it with a variable of its script.
def counting (captured : FrameId) : DefinedFunction :=
  ⟨⟨⟨none, "Count"⟩, ["step"], { closure := true }, false⟩,
    [.assign ⟨none, "n"⟩ .append (.variable ⟨some .argument, "step"⟩), .echo [.variable ⟨none, "n"⟩],
      .return (.concat (.variable ⟨none, "n"⟩) (.variable ⟨some .script, "unit"⟩))], "lib.vim", some captured⟩

def countingSession (captured : FrameId) (heap : Heap) (caller : CallFrame) (sourcing : List String) : Session :=
  { Session.fresh with
    namespaces := Table.empty.insert "lib.vim" (Table.empty.insert "unit" (.str "px"))
    functions := Table.empty.insert (.global "Count") (counting captured)
    heap, callStack := [caller], sourcing }

-- Called from the function that declared it.
def countingAtHome : Session :=
  countingSession 0 ⟨#[Table.empty.insert "n" (.str "1")]⟩ ⟨"Make", "lib.vim", .empty, 0, none⟩ []

-- Called while another script is sourced, by a function of that script with an `n` and a `step` of its own.
def countingAbroad : Session :=
  countingSession 1 ⟨#[Table.empty.insert "n" (.str "7"), Table.empty.insert "n" (.str "1")]⟩
    ⟨"Use", "b.vim", Table.empty.insert "step" (.str "-"), 0, none⟩ ["b.vim"]

theorem counting_matched : countingAtHome.Matched (fun i j => i = 0 ∧ j = 1) countingAbroad := by
  refine ⟨rfl, rfl, fun _ => rfl, fun _ _ => rfl, fun key => ?_, ?_, ?_, ?_⟩
  · show Option.Rel _ ((Table.empty.insert (.global "Count") (counting 0)).get? key)
      ((Table.empty.insert (.global "Count") (counting 1)).get? key)
    by_cases here : key = .global "Count"
    · rw [here, Table.get?_insert_self, Table.get?_insert_self]
      exact .some ⟨rfl, rfl, rfl, .some ⟨rfl, rfl⟩⟩
    · rw [Table.get?_insert_ne _ _ here, Table.get?_insert_ne _ _ here]
      exact .none
  · rintro i j ⟨rfl, rfl⟩
    exact fun _ => rfl
  · rintro i j ⟨rfl, rfl⟩
    exact ⟨by decide, by decide⟩
  · rintro i j i' j' ⟨rfl, rfl⟩ ⟨rfl, rfl⟩
    exact iff_of_true rfl rfl

theorem counting_ignores_callers :
    SameCall (fun i j => i = 0 ∧ j = 1) (invoke (counting 0) [.str "+"] (.start countingAtHome Recorder.empty))
      (invoke (counting 1) [.str "+"] (.start countingAbroad Recorder.empty)) ∧
    ∃ w, invoke (counting 1) [.str "+"] (.start countingAbroad Recorder.empty) = .ok (.str "1+px") w ∧
      w.calls = [.echo "1+"] := by
  refine ⟨?_, _, by with_unfolding_all rfl, by with_unfolding_all rfl⟩
  exact invoke_ignores_callers _ countingAtHome countingAbroad Recorder.empty (counting 0) (counting 1) [.str "+"]
    counting_matched ⟨rfl, rfl, rfl, .some ⟨rfl, rfl⟩⟩

end ExScript
