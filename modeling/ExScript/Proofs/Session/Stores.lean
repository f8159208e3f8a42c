import ExScript.Proofs.Session.Atomicity
import ExScript.Proofs.Session.Layers

set_option autoImplicit false

namespace ExScript

section

variable {f : CallFrame} {h h' : Heap}

theorem local?_of_puts {id : FrameId} {name other : String} {entry : Option Value} (puts : h.Puts id name entry h')
    (different : other ≠ name) : f.local? h' other = f.local? h other := by
  have same : ∀ id', h'.entry id' other = h.entry id' other := fun id' =>
    (puts id' other).trans (if_neg fun both => different both.2)
  rw [local?_eq_visible, local?_eq_visible]
  simp only [Layers.visible, CallFrame.layers, same]

theorem local?_set_local (allocated : f.locals < h.frames.size) (name : String) (value : Value) (other : String) :
    f.local? (f.setLocal h name value) other = if other = name then some value else f.local? h other := by
  have puts := set_local_puts allocated name value
  by_cases same : other = name
  · subst same
    have here : (f.setLocal h other value).entry (f.target h other) other = some value := by
      rw [puts, if_pos ⟨rfl, rfl⟩]
    rw [if_pos rfl, local?_eq_visible]
    dsimp only [Layers.visible, CallFrame.layers]
    obtain ⟨own, -⟩ | ⟨captured, there⟩ := target_cases f h other
    · rw [← own, here]
      rfl
    · have hidden : h.entry f.locals other = none := by
        have uncovered := (Bool.and_eq_true_iff.mp there).2
        simpa [CallFrame.layers] using uncovered
      rw [captured, Option.bind_some, here, puts, hidden]
      split <;> rfl
  · rw [if_neg same]
    exact local?_of_puts puts same

theorem local?_remove_local_ne (name : String) {other : String} (different : other ≠ name) :
    f.local? (f.removeLocal h name).2 other = f.local? h other := by
  obtain ⟨-, puts⟩ | ⟨-, outer, -, puts⟩ | ⟨-, -, same⟩ := remove_local_cases f h name
  · exact local?_of_puts puts different
  · exact local?_of_puts puts different
  · rw [same]

-- What is left of a removed variable is the captured one that it hid.
theorem local?_remove_local_self {name : String} {x : Value} (left : f.local? (f.removeLocal h name).2 name = some x) :
    ∃ outer, f.captured = some outer ∧ (h.entry f.locals name).isSome = true ∧ h.entry outer name = some x := by
  rw [local?_eq_visible] at left
  dsimp only [Layers.visible, CallFrame.layers] at left
  obtain ⟨held, puts⟩ | ⟨missing, outer, captured, puts⟩ | ⟨missing, missing', same⟩ := remove_local_cases f h name
  · rw [puts, if_pos ⟨rfl, rfl⟩, Option.none_or] at left
    obtain ⟨outer, captured, found⟩ := Option.bind_eq_some_iff.mp left
    rw [puts] at found
    split at found
    · cases found
    · exact ⟨outer, captured, held, found⟩
  · have gone : (f.removeLocal h name).2.entry outer name = none := by rw [puts, if_pos ⟨rfl, rfl⟩]
    have none_own : (f.removeLocal h name).2.entry f.locals name = none := by
      rw [puts]
      split
      · rfl
      · exact missing
    rw [none_own, captured, Option.bind_some, gone] at left
    cases left
  · rw [same] at left
    dsimp only [CallFrame.layers] at missing missing'
    rw [missing, missing'] at left
    cases left

end

def Session.Allocated (s : Session) : Prop := ∀ frame ∈ s.callStack, frame.locals < s.heap.frames.size

section

variable {s t : Session}

theorem resumes_slot (resumed : s.Resumes t) (scope : Option Scope) : t.slot scope = s.slot scope := by
  refine Session.slot_congr (by rw [resumed.callStack]) ?_ scope
  rw [Session.currentScript, Session.currentScript, resumed.callStack, resumed.sourcing]

theorem resumes_undefined (resumed : s.Resumes t) (v : Variable) : t.undefined v = s.undefined v :=
  Session.undefined_congr (by rw [resumed.callStack]) v

theorem slot_function {scope : Option Scope} (slot : s.slot scope = .function) :
    ∃ frame frames, s.callStack = frame :: frames := by
  cases stack : s.callStack with
  | cons frame frames => exact ⟨frame, frames, rfl⟩
  | nil =>
      unfold Session.slot at slot
      split at slot <;> simp [stack] at slot

-- The sessions keep the same in every place but one.
def Session.SameBut (slot : Slot) (s t : Session) : Prop :=
  ∀ slot' name, slot' ≠ slot → t.stored? slot' name = s.stored? slot' name

theorem same_but_refl (slot : Slot) (s : Session) : s.SameBut slot s := fun _ _ _ => rfl

theorem same_but_globals (s : Session) (globals : Bindings) : s.SameBut .global { s with globals } := by
  intro slot' name different
  cases slot' with
  | global => exact absurd rfl different
  | _ => rfl

theorem same_but_namespace (s : Session) (id : String) (vars : Bindings) :
    s.SameBut (.script id) { s with namespaces := s.namespaces.insert id vars } := by
  intro slot' name different
  cases slot' with
  | script id' =>
      have elsewhere : id' ≠ id := fun same => different (congrArg Slot.script same)
      dsimp only [Session.stored?, Session.scriptVariable?]
      rw [Session.namespace_of_insert, if_neg elsewhere]
  | _ => rfl

theorem same_but_heap (s : Session) (heap : Heap) : s.SameBut .function { s with heap } := by
  intro slot' name different
  cases slot' with
  | function => exact absurd rfl different
  | _ => rfl

theorem store_same_but (s : Session) (slot : Slot) (name : String) (value : Value) :
    s.SameBut slot (s.store slot name value) := by
  cases slot with
  | global => exact same_but_globals s _
  | script id => exact same_but_namespace s id _
  | function =>
      dsimp only [Session.store]
      split
      · exact same_but_refl _ s
      · exact same_but_heap s _
  | _ => exact same_but_refl _ s

theorem discard_same_but (s : Session) (slot : Slot) (name : String) : s.SameBut slot (s.discard slot name).2 := by
  cases slot with
  | global =>
      dsimp only [Session.discard]
      split
      · exact same_but_globals s _
      · exact same_but_refl _ s
  | script id =>
      dsimp only [Session.discard]
      split
      · exact same_but_namespace s id _
      · exact same_but_refl _ s
  | function =>
      dsimp only [Session.discard]
      split
      · exact same_but_refl _ s
      · exact same_but_heap s _
  | _ => exact same_but_refl _ s

theorem stored?_store (allocated : s.Allocated) {scope : Option Scope} (inside : s.slot scope ≠ .argument)
    (own : ∀ kept, s.slot scope ≠ .host kept) (name : String) (value : Value) (other : String) :
    (s.store (s.slot scope) name value).stored? (s.slot scope) other =
      if other = name then some value else s.stored? (s.slot scope) other := by
  cases kept : s.slot scope with
  | global => exact Table.get?_insert s.globals name other value
  | script id =>
      dsimp only [Session.store, Session.stored?, Session.scriptVariable?]
      rw [Session.namespace_of_insert, if_pos rfl, Table.get?_insert]
  | argument => exact absurd kept inside
  | function =>
      obtain ⟨frame, frames, stack⟩ := slot_function kept
      simp only [Session.store, Session.stored?, stack, List.head?_cons, Option.bind_some]
      exact local?_set_local (allocated frame (by simp [stack])) name value other
  | host scope' => exact absurd kept (own scope')

theorem stored?_discard_global (s : Session) (name other : String) :
    (s.discard .global name).2.stored? .global other = if other = name then none else s.stored? .global other := by
  dsimp only [Session.discard]
  by_cases held : s.globals.contains name = true
  · rw [if_pos held]
    exact Table.get?_erase s.globals name other
  · rw [if_neg held]
    exact Table.get?_absent held other

theorem stored?_discard_script (s : Session) (id name other : String) :
    (s.discard (.script id) name).2.stored? (.script id) other =
      if other = name then none else s.stored? (.script id) other := by
  dsimp only [Session.discard]
  by_cases held : (s.namespaceOf id).contains name = true
  · rw [if_pos held]
    dsimp only [Session.stored?, Session.scriptVariable?]
    rw [Session.namespace_of_insert, if_pos rfl, Table.get?_erase]
  · rw [if_neg held]
    exact Table.get?_absent held other

theorem stored?_discard_ne (s : Session) (slot : Slot) (name : String) {other : String} (different : other ≠ name) :
    (s.discard slot name).2.stored? slot other = s.stored? slot other := by
  cases slot with
  | global => rw [stored?_discard_global, if_neg different]
  | script id => rw [stored?_discard_script, if_neg different]
  | function =>
      dsimp only [Session.discard]
      split
      · rfl
      · rename_i frame frames stack
        simp only [Session.stored?, stack, List.head?_cons, Option.bind_some]
        exact local?_remove_local_ne name different
  | _ => rfl

-- A captured variable has this value, and a local one of the same name hides it.
def Session.Hides (s : Session) (v : Variable) (x : Value) : Prop :=
  s.slot v.scope = .function ∧ ∃ frame outer, s.callStack.head? = some frame ∧ frame.captured = some outer ∧
    (s.heap.entry frame.locals v.name).isSome = true ∧ s.heap.entry outer v.name = some x

theorem stored?_discard_self {v : Variable} {x : Value} (removable : s.slot v.scope ≠ .argument)
    (left : (s.discard (s.slot v.scope) v.name).2.stored? (s.slot v.scope) v.name = some x) : s.Hides v x := by
  cases kept : s.slot v.scope with
  | global =>
      rw [kept, stored?_discard_global, if_pos rfl] at left
      cases left
  | script id =>
      rw [kept, stored?_discard_script, if_pos rfl] at left
      cases left
  | argument => exact absurd kept removable
  | function =>
      obtain ⟨frame, frames, stack⟩ := slot_function kept
      rw [kept] at left
      simp only [Session.discard, Session.stored?, stack, List.head?_cons, Option.bind_some] at left
      obtain ⟨outer, captured, held, found⟩ := local?_remove_local_self left
      exact ⟨kept, frame, outer, by simp [stack], captured, held, found⟩
  | host scope =>
      rw [kept] at left
      cases left

theorem slot_host {scope : Option Scope} {kept : Scope} (slot : s.slot scope = .host kept) : scope = some kept := by
  cases scope with
  | none =>
      dsimp only [Session.slot] at slot
      split at slot <;> cases slot
  | some scope =>
      cases scope with
      | global | script | argument => cases slot
      | function =>
          dsimp only [Session.slot] at slot
          split at slot <;> cases slot
      | buffer | window | tab | vim =>
          cases slot
          rfl

end

section

variable {w w' : World Recorder} {v : Variable}

theorem held?_same_but {slot slot' : Slot} {t : Session} (same : w.session.SameBut slot t) (different : slot' ≠ slot)
    (name : String) : World.held? { w with session := t } slot' name = w.held? slot' name := by
  cases slot' with
  | host scope => rfl
  | _ => exact same _ name different

theorem value?_resumed (resumed : w.session.Resumes w'.session) (u : Variable) :
    w'.value? u = w'.held? (w.session.slot u.scope) u.name := by
  rw [World.value?, resumes_slot resumed]

theorem answer_congr (resumed : w.session.Resumes w'.session) {u : Variable} (same : w'.value? u = w.value? u) :
    answerOf (readVariable u w') = answerOf (readVariable u w) := by
  cases found : w.value? u with
  | some x =>
      rw [read_variable_of_some (same.trans found), read_variable_of_some found]
      rfl
  | none =>
      rw [read_variable_of_none (same.trans found), read_variable_of_none found, resumes_undefined resumed]
      rfl

theorem slot_of_argument (argument : v.scope = some .argument) (s : Session) : s.slot v.scope = .argument := by
  rw [argument]
  rfl

theorem write_variable_argument (argument : v.scope = some .argument) (x : Value) (w : World Recorder) :
    writeVariable v x w = .error (.readOnlyVariable v.text) w := by
  obtain ⟨-, ended⟩ | ⟨scope, kept, -⟩ | ⟨-, inside, -⟩ := write_variable_cases v x w
  · exact ended
  · exact absurd ((slot_of_argument argument _).symm.trans kept) (by simp)
  · exact absurd (slot_of_argument argument _) inside

theorem remove_variable_argument (argument : v.scope = some .argument) (w : World Recorder) :
    removeVariable v w = .error (.readOnlyVariable v.text) w := by
  obtain ⟨-, ended⟩ | ⟨scope, kept, -⟩ | ⟨-, inside, -⟩ := remove_variable_cases v w
  · exact ended
  · exact absurd ((slot_of_argument argument _).symm.trans kept) (by simp)
  · exact absurd (slot_of_argument argument _) inside

-- The recorder refuses a write for `v:` variables and for nothing else.
theorem host_write_recorder (scope : Scope) (name : String) (x : Value) (w : World Recorder) :
    (scope = .vim ∧ ∃ error w', hostWrite scope name x w = .error error w') ∨
    (scope ≠ .vim ∧
      hostWrite scope name x w = .ok ⟨⟩ (w.called (.write scope name x none) (w.host.write scope name x).2)) := by
  by_cases vim : scope = .vim
  · subst vim
    exact .inl ⟨rfl, _, _, rfl⟩
  · have accepted : (Host.write w.host scope name x).1 = none := by
      show (w.host.write scope name x).1 = none
      rw [Recorder.write, if_neg vim]
    refine .inr ⟨vim, ?_⟩
    dsimp only [hostWrite]
    rw [accepted]
    rfl

theorem write_variable_ok_iff (x : Value) :
    (∃ w', writeVariable v x w = .ok ⟨⟩ w') ↔ v.scope ≠ some .argument ∧ v.scope ≠ some .vim := by
  obtain ⟨argument, ended⟩ | ⟨scope, kept, ended⟩ | ⟨own, inside, ended⟩ := write_variable_cases v x w
  · simp [ended, argument]
  · have named := slot_host kept
    obtain ⟨rfl, error, w', failed⟩ | ⟨writable, written⟩ := host_write_recorder scope v.name x w
    · simp [ended, failed, named]
    · have argument : scope ≠ .argument := by
        rintro rfl
        cases (slot_of_argument named w.session).symm.trans kept
      simp [ended, written, named, writable, argument]
  · have argument : v.scope ≠ some .argument := fun argument => inside (slot_of_argument argument _)
    have vim : v.scope ≠ some .vim := fun vim => own .vim (by rw [vim]; rfl)
    simp [ended, argument, vim]

theorem write_variable_held {x : Value} (allocated : w.session.Allocated) (written : writeVariable v x w = .ok ⟨⟩ w') :
    w.session.Resumes w'.session ∧
    ∀ slot name, w'.held? slot name =
      if slot = w.session.slot v.scope ∧ name = v.name then some x else w.held? slot name := by
  obtain ⟨-, ended⟩ | ⟨scope, kept, ended⟩ | ⟨own, inside, ended⟩ := write_variable_cases v x w
  · rw [ended] at written
    cases written
  · rw [ended] at written
    obtain ⟨-, error, u, failed⟩ | ⟨notVim, accepted⟩ := host_write_recorder scope v.name x w
    · rw [failed] at written
      cases written
    · rw [accepted] at written
      cases written
      refine ⟨resumes_refl _, fun slot name => ?_⟩
      rw [kept]
      cases slot with
      | host scope' => exact (w.host.read_write scope v.name x scope' name).trans (if_congr (by simp [notVim]) rfl rfl)
      | _ => rfl
  · rw [ended] at written
    cases written
    refine ⟨resumes_store _ _ _ _, fun slot name => ?_⟩
    by_cases here : slot = w.session.slot v.scope
    · rw [here, held?_own own, held?_own own]
      simp only [true_and]
      exact stored?_store allocated inside own v.name x name
    · rw [if_neg fun both => here both.1]
      exact held?_same_but (store_same_but _ _ _ _) here name

theorem remove_variable_held (removable : v.scope ≠ some .argument) (w : World Recorder) :
    ∃ existed w', removeVariable v w = .ok existed w' ∧ w.session.Resumes w'.session ∧
      existed = (w.value? v).isSome ∧
      (∀ slot name, slot ≠ w.session.slot v.scope ∨ name ≠ v.name → w'.held? slot name = w.held? slot name) ∧
      ∀ x, w'.held? (w.session.slot v.scope) v.name = some x → w.session.Hides v x := by
  unfold World.value?
  obtain ⟨argument, -⟩ | ⟨scope, kept, ended⟩ | ⟨own, inside, ended⟩ := remove_variable_cases v w
  · exact absurd argument removable
  · rw [kept]
    refine ⟨_, _, ended, resumes_refl _, (remove_existed _ _ _).1, fun slot name different => ?_, fun x left => ?_⟩
    · cases slot with
      | host scope' =>
          refine (w.host.read_remove scope v.name scope' name).trans (if_neg fun same => ?_)
          cases same
          exact different.elim (· rfl) (· rfl)
      | _ => rfl
    · have gone := w.host.read_remove scope v.name scope v.name
      rw [if_pos rfl] at gone
      exact absurd (gone.symm.trans left) (by simp)
  · refine ⟨_, _, ended, resumes_discard _ _ _, ?_, fun slot name different => ?_, fun x left => ?_⟩
    · rw [held?_own own]
      exact (discard_existed _ _ _ inside).1
    · by_cases here : slot = w.session.slot v.scope
      · rw [here, held?_own own, held?_own own]
        exact stored?_discard_ne _ _ _ (different.resolve_left (· here))
      · exact held?_same_but (discard_same_but _ _ _) here name
    · rw [held?_own own] at left
      exact stored?_discard_self inside left

end

theorem variables_obey_store_laws :
    (∀ {w : World Recorder}, Reachable w → w.session.Allocated) ∧
    ∀ w : World Recorder, w.session.Allocated → ∀ v : Variable,
      (∀ x, (∃ w', writeVariable v x w = .ok ⟨⟩ w') ↔ v.scope ≠ some .argument ∧ v.scope ≠ some .vim) ∧
      (∀ x w', writeVariable v x w = .ok ⟨⟩ w' → ∀ u, answerOf (readVariable u w') =
        if w.session.slot u.scope = w.session.slot v.scope ∧ u.name = v.name then .ok x
        else answerOf (readVariable u w)) ∧
      (v.scope ≠ some .argument → ∃ existed w', removeVariable v w = .ok existed w' ∧
        (existed = true ↔ w.Defines v) ∧
        (∀ u, w.session.slot u.scope ≠ w.session.slot v.scope ∨ u.name ≠ v.name →
          answerOf (readVariable u w') = answerOf (readVariable u w)) ∧
        ∀ x, answerOf (readVariable v w') = .ok x → w.session.Hides v x) ∧
      (v.scope = some .argument →
        (∀ x, writeVariable v x w = .error (.readOnlyVariable v.text) w) ∧
        removeVariable v w = .error (.readOnlyVariable v.text) w) := by
  refine ⟨fun reached => reachable_allocated reached, fun w allocated v => ?_⟩
  refine ⟨fun x => write_variable_ok_iff x, ?_, ?_, ?_⟩
  · intro x w' written u
    obtain ⟨resumed, held⟩ := write_variable_held allocated written
    have value := (value?_resumed resumed u).trans (held _ u.name)
    split
    · rename_i same
      rw [if_pos same] at value
      exact reads_iff.mpr value
    · rename_i different
      rw [if_neg different] at value
      exact answer_congr resumed value
  · intro removable
    obtain ⟨existed, w', removed, resumed, was, elsewhere, left⟩ := remove_variable_held removable w
    refine ⟨existed, w', removed, by rw [defines_iff, was], fun u different => ?_, fun x found => ?_⟩
    · exact answer_congr resumed ((value?_resumed resumed u).trans (elsewhere _ _ different))
    · exact left x ((value?_resumed resumed v).symm.trans (reads_iff.mp found))
  · exact fun argument => ⟨fun x => write_variable_argument argument x w, remove_variable_argument argument w⟩

-- In a closure that shadows the captured `n`, next to a global `n` and one that the host keeps.
def inClosure : World Recorder :=
  .start { Session.fresh.setGlobalVariable "n" (.num 9) with callStack := [closureFrame], heap := shadowing }
    (Recorder.empty.withVariable .buffer "n" (.str "b"))

-- The captured `count` is set under one spelling and read under another; removing `n` uncovers the captured one.
theorem in_closure_stores :
    inOuter.session.Allocated ∧ inClosure.session.Allocated ∧
    (∃ w, writeVariable ⟨none, "count"⟩ (.num 2) inClosure = .ok ⟨⟩ w ∧
      answerOf (readVariable ⟨some .function, "count"⟩ w) = .ok (.num 2) ∧
      answerOf (readVariable ⟨some .global, "n"⟩ w) = answerOf (readVariable ⟨some .global, "n"⟩ inClosure)) ∧
    (∃ w, removeVariable ⟨none, "n"⟩ inClosure = .ok true w ∧
      answerOf (readVariable ⟨some .buffer, "n"⟩ w) = answerOf (readVariable ⟨some .buffer, "n"⟩ inClosure) ∧
      answerOf (readVariable ⟨none, "n"⟩ w) = .ok (.num 1) ∧ inClosure.session.Hides ⟨none, "n"⟩ (.num 1)) ∧
    removeVariable ⟨some .argument, "n"⟩ inClosure = .error (.readOnlyVariable "a:n") inClosure := by
  have allocated : inClosure.session.Allocated := by
    intro frame running
    cases List.mem_singleton.mp running
    decide
  have laws := variables_obey_store_laws.2 inClosure allocated
  refine ⟨variables_obey_store_laws.1 in_outer_reachable, allocated, ?_, ?_, ?_⟩
  · obtain ⟨accepted, read, -⟩ := laws ⟨none, "count"⟩
    obtain ⟨w, written⟩ := (accepted (.num 2)).mpr (by simp)
    exact ⟨w, written, read _ w written ⟨some .function, "count"⟩, read _ w written ⟨some .global, "n"⟩⟩
  · obtain ⟨existed, w, removed, -, elsewhere, left⟩ := (laws ⟨none, "n"⟩).2.2.1 (by simp)
    have ended : ∃ w', removeVariable ⟨none, "n"⟩ inClosure = .ok true w' ∧
        answerOf (readVariable ⟨none, "n"⟩ w') = .ok (.num 1) := ⟨_, rfl, by with_unfolding_all rfl⟩
    obtain ⟨w', removed', uncovered⟩ := ended
    rw [removed] at removed'
    cases removed'
    exact ⟨w, removed, elsewhere ⟨some .buffer, "n"⟩ (.inl (by decide)), uncovered, left _ uncovered⟩
  · exact ((laws ⟨some .argument, "n"⟩).2.2.2 rfl).2

end ExScript
