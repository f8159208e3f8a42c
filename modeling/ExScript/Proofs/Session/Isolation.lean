import ExScript.Host.Recorder
import ExScript.Proofs.Session.Simulation

set_option autoImplicit false

namespace ExScript

-- The sessions are equal but for the variables of the script `id`.
structure Session.SameBeside (id : String) (s t : Session) : Prop where
  settings : t.settings = s.settings
  globals : t.globals = s.globals
  namespaces : ∀ other, other ≠ id → t.namespaces.get? other = s.namespaces.get? other
  functions : t.functions = s.functions
  callStack : t.callStack = s.callStack
  sourcing : t.sourcing = s.sourcing
  heap : t.heap = s.heap

-- Other code runs, no function belongs to `id`, and all that does is as it was at the `start`.
structure Session.Spares (id : String) (start s : Session) : Prop where
  elsewhere : s.currentScript ≠ id
  foreign : ∀ key f, s.functions.get? key = some f → f.script ≠ id
  owned : s.namespaces.get? id = start.namespaces.get? id
  filed : ∀ name, s.functions.get? (.script id name) = start.functions.get? (.script id name)

section

variable {id : String} {start s t : Session}

theorem same_beside_namespace_of (same : s.SameBeside id t) {other : String} (different : other ≠ id) :
    t.namespaceOf other = s.namespaceOf other := by
  rw [Session.namespaceOf, Session.namespaceOf, same.namespaces other different]

theorem same_beside_current_script (same : s.SameBeside id t) : t.currentScript = s.currentScript := by
  rw [Session.currentScript, Session.currentScript, same.callStack, same.sourcing]

theorem same_beside_slot (same : s.SameBeside id t) (scope : Option Scope) : t.slot scope = s.slot scope :=
  Session.slot_congr (by rw [same.callStack]) (same_beside_current_script same) scope

theorem slot_script {scope : Option Scope} {other : String} (kept : s.slot scope = .script other) :
    other = s.currentScript := by
  unfold Session.slot at kept
  split at kept <;> try cases kept
  · rfl
  all_goals split at kept <;> cases kept

theorem same_beside_insert (same : s.SameBeside id t) (other : String) (vars : Bindings) :
    Session.SameBeside id { s with namespaces := s.namespaces.insert other vars }
      { t with namespaces := t.namespaces.insert other vars } := by
  refine { same with namespaces := fun third different => ?_ }
  by_cases here : third = other
  · simp [here]
  · simp [here, same.namespaces third different]

theorem same_beside_stored (same : s.SameBeside id t) (elsewhere : s.currentScript ≠ id) (scope : Option Scope)
    (name : String) : t.stored? (s.slot scope) name = s.stored? (s.slot scope) name := by
  cases kept : s.slot scope with
  | global => simp only [Session.stored?, same.globals]
  | script other =>
      have different : other ≠ id := by rwa [slot_script kept]
      simp only [Session.stored?, Session.scriptVariable?, same_beside_namespace_of same different]
  | argument => simp only [Session.stored?, same.callStack]
  | function => simp only [Session.stored?, same.callStack, same.heap]
  | host scope => rfl

theorem same_beside_store (same : s.SameBeside id t) (elsewhere : s.currentScript ≠ id) (scope : Option Scope)
    (name : String) (value : Value) :
    (s.store (s.slot scope) name value).SameBeside id (t.store (s.slot scope) name value) := by
  cases kept : s.slot scope with
  | global =>
      dsimp only [Session.store]
      exact { same with globals := by rw [same.globals] }
  | script other =>
      have different : other ≠ id := by rwa [slot_script kept]
      dsimp only [Session.store]
      rw [same_beside_namespace_of same different]
      exact same_beside_insert same other _
  | function =>
      dsimp only [Session.store]
      rw [same.callStack]
      split
      · exact same
      · exact { same with callStack := rfl, heap := by rw [same.heap] }
  | argument => exact same
  | host scope => exact same

theorem same_beside_discard (same : s.SameBeside id t) (elsewhere : s.currentScript ≠ id) (scope : Option Scope)
    (name : String) :
    (t.discard (s.slot scope) name).1 = (s.discard (s.slot scope) name).1 ∧
      (s.discard (s.slot scope) name).2.SameBeside id (t.discard (s.slot scope) name).2 := by
  cases kept : s.slot scope with
  | global =>
      dsimp only [Session.discard]
      rw [same.globals]
      split
      · exact ⟨rfl, { same with globals := rfl }⟩
      · exact ⟨rfl, same⟩
  | script other =>
      have different : other ≠ id := by rwa [slot_script kept]
      dsimp only [Session.discard]
      rw [same_beside_namespace_of same different]
      split
      · exact ⟨rfl, same_beside_insert same other _⟩
      · exact ⟨rfl, same⟩
  | function =>
      dsimp only [Session.discard]
      rw [same.callStack, same.heap]
      split
      · exact ⟨rfl, same⟩
      · exact ⟨rfl, { same with callStack := rfl, heap := rfl }⟩
  | argument => exact ⟨rfl, same⟩
  | host scope => exact ⟨rfl, same⟩

theorem same_beside_define (same : s.SameBeside id t) (header : FunctionHeader) (body : List Statement) :
    SameEnding (Session.SameBeside id) (s.define header body) (t.define header body) := by
  unfold Session.define
  rw [same_beside_current_script same, same.functions, same.callStack]
  dsimp only
  split
  · rfl
  · exact { same with callStack := rfl, functions := rfl }

theorem same_beside_delete (same : s.SameBeside id t) (bang : Bool) (name : FunctionName) :
    SameEnding (Session.SameBeside id) (s.delete bang name) (t.delete bang name) := by
  unfold Session.delete
  rw [same_beside_current_script same, same.functions]
  dsimp only
  split
  · exact { same with functions := rfl }
  · split
    · exact same
    · rfl

theorem same_beside_enter (same : s.SameBeside id t) (f : DefinedFunction) (args : List Value) :
    (s.enter f args).SameBeside id (t.enter f args) := by
  unfold Session.enter
  rw [same.heap, same.callStack]
  exact { same with heap := rfl, callStack := rfl }

theorem same_beside_leave (same : s.SameBeside id t) : s.leave.SameBeside id t.leave := by
  unfold Session.leave
  exact { same with callStack := by rw [same.callStack] }

theorem spares_namespaces (spared : start.Spares id s) {other : String} (different : other ≠ id) (vars : Bindings) :
    start.Spares id { s with namespaces := s.namespaces.insert other vars } := by
  refine ⟨spared.elsewhere, spared.foreign, ?_, spared.filed⟩
  simpa [Ne.symm different] using spared.owned

theorem spares_store (spared : start.Spares id s) (scope : Option Scope) (name : String) (value : Value) :
    start.Spares id (s.store (s.slot scope) name value) := by
  cases kept : s.slot scope with
  | script other =>
      have different : other ≠ id := by rw [slot_script kept]; exact spared.elsewhere
      exact spares_namespaces spared different _
  | function =>
      dsimp only [Session.store]
      split
      · exact spared
      · exact ⟨spared.elsewhere, spared.foreign, spared.owned, spared.filed⟩
  | _ => exact ⟨spared.elsewhere, spared.foreign, spared.owned, spared.filed⟩

theorem spares_discard (spared : start.Spares id s) (scope : Option Scope) (name : String) :
    start.Spares id (s.discard (s.slot scope) name).2 := by
  cases kept : s.slot scope with
  | global =>
      dsimp only [Session.discard]
      split
      · exact ⟨spared.elsewhere, spared.foreign, spared.owned, spared.filed⟩
      · exact spared
  | script other =>
      have different : other ≠ id := by rw [slot_script kept]; exact spared.elsewhere
      dsimp only [Session.discard]
      split
      · exact spares_namespaces spared different _
      · exact spared
  | function =>
      dsimp only [Session.discard]
      split
      · exact spared
      · exact ⟨spared.elsewhere, spared.foreign, spared.owned, spared.filed⟩
  | argument => exact spared
  | host scope => exact spared

theorem key_ne_script {script : String} (elsewhere : script ≠ id) (name : FunctionName) (other : String) :
    name.key script ≠ .script id other := by
  unfold FunctionName.key
  split
  · rintro same
    exact elsewhere (FunctionKey.script.inj same).1
  · simp

theorem spares_define (spared : start.Spares id s) {header : FunctionHeader} {body : List Statement}
    (filed : s.define header body = .ok t) : start.Spares id t := by
  rw [define_ok filed]
  refine ⟨spared.elsewhere, fun key f found => ?_, spared.owned, fun name => ?_⟩
  · by_cases here : key = header.name.key s.currentScript
    · simp only [here, Table.get?_insert_self] at found
      cases found
      exact spared.elsewhere
    · exact spared.foreign key f (by simpa [here] using found)
  · simpa [Ne.symm (key_ne_script spared.elsewhere header.name name)] using spared.filed name

theorem spares_delete (spared : start.Spares id s) {bang : Bool} {name : FunctionName}
    (deleted : s.delete bang name = .ok t) : start.Spares id t := by
  have foreign : ∀ key f, t.functions.get? key = some f → f.script ≠ id :=
    fun key f found => spared.foreign key f (delete_fewer deleted found)
  obtain rfl | rfl := delete_ok deleted
  · refine ⟨spared.elsewhere, foreign, spared.owned, fun other => ?_⟩
    simpa [Ne.symm (key_ne_script spared.elsewhere name other)] using spared.filed other
  · exact spared

theorem spares_enter (spared : start.Spares id s) {f : DefinedFunction} (foreign : f.script ≠ id) (args : List Value) :
    start.Spares id (s.enter f args) :=
  ⟨foreign, spared.foreign, spared.owned, spared.filed⟩

theorem spares_leave (spared : start.Spares id s) (inside : start.Spares id t) (resumed : s.Resumes t.leave) :
    start.Spares id t.leave := by
  refine ⟨?_, inside.foreign, inside.owned, inside.filed⟩
  rw [Session.currentScript, resumed.callStack, resumed.sourcing]
  exact spared.elsewhere

end

-- The simulation behind isolation: the sessions differ in the variables of `id` only, and spare them.
structure Isolated (id : String) (start start' s t : Session) : Prop where
  same : s.SameBeside id t
  spared : start.Spares id s
  spared' : start'.Spares id t

section

variable {id : String} {start start' s t : Session}

theorem isolated_store (alike : Isolated id start start' s t) (scope : Option Scope) (name : String) (value : Value) :
    Isolated id start start' (s.store (s.slot scope) name value) (t.store (s.slot scope) name value) := by
  refine ⟨same_beside_store alike.same alike.spared.elsewhere scope name value, spares_store alike.spared _ _ _, ?_⟩
  rw [← same_beside_slot alike.same]
  exact spares_store alike.spared' _ _ _

theorem isolated_discard (alike : Isolated id start start' s t) (scope : Option Scope) (name : String) :
    Isolated id start start' (s.discard (s.slot scope) name).2 (t.discard (s.slot scope) name).2 := by
  refine ⟨(same_beside_discard alike.same alike.spared.elsewhere scope name).2, spares_discard alike.spared _ _, ?_⟩
  rw [← same_beside_slot alike.same]
  exact spares_discard alike.spared' _ _

theorem isolated_ending {ended ended' : Except RuntimeError Session}
    (same : SameEnding (Session.SameBeside id) ended ended')
    (spared : ∀ s, ended = .ok s → start.Spares id s) (spared' : ∀ t, ended' = .ok t → start'.Spares id t) :
    SameEnding (Isolated id start start') ended ended' := by
  rcases same_ending_cases same with ⟨error, rfl, rfl⟩ | ⟨s, t, rfl, rfl, sessions⟩
  · rfl
  · exact ⟨sessions, spared s rfl, spared' t rfl⟩

theorem isolated_function (alike : Isolated id start start' s t) (key : FunctionKey) :
    Option.Rel (fun f g => g = f ∧ f.script ≠ id) (s.functions.get? key) (t.functions.get? key) := by
  rw [alike.same.functions]
  cases found : s.functions.get? key with
  | none => exact .none
  | some f => exact .some ⟨rfl, alike.spared.foreign key f found⟩

end

def isolation (id : String) (start start' : Session) : Simulation where
  rewriting := .keep
  Stage := Unit
  Before _ _ := True
  Alike _ := Isolated id start start'
  SameFunction _ f g := g = f ∧ f.script ≠ id
  before_refl _ := trivial
  before_trans _ _ := trivial
  same_function_mono _ same := same
  header same := by rw [same.1]
  body same := by rw [keep_body, same.1]
  settings alike := alike.same.settings
  depth alike := by rw [alike.same.callStack]
  script alike := same_beside_current_script alike.same
  stored alike := same_beside_stored alike.same alike.spared.elsewhere
  store := isolated_store
  discarded alike scope name := (same_beside_discard alike.same alike.spared.elsewhere scope name).1
  discard := isolated_discard
  function alike name := isolated_function alike _
  define alike header body := by
    rw [keep_body]
    exact isolated_ending (same_beside_define alike.same header body)
      (fun _ filed => spares_define alike.spared filed) fun _ filed => spares_define alike.spared' filed
  delete alike bang name := isolated_ending (same_beside_delete alike.same bang name)
    (fun _ deleted => spares_delete alike.spared deleted) (fun _ deleted => spares_delete alike.spared' deleted)
  enter alike functions args := by
    obtain ⟨rfl, foreign⟩ := functions
    exact ⟨(), trivial, same_beside_enter alike.same _ args, spares_enter alike.spared foreign args,
      spares_enter alike.spared' foreign args⟩
  leave alike _ inside resumed resumed' := ⟨same_beside_leave inside.same,
    spares_leave alike.spared inside.spared resumed, spares_leave alike.spared' inside.spared' resumed'⟩

variable {σ : Type}

structure World.SameBeside (id : String) (w v : World σ) : Prop where
  session : w.session.SameBeside id v.session
  host : v.host = w.host
  calls : v.calls = w.calls

-- Both runs end in the same way, with the same calls of the host, and differ in nothing but what `id` has.
def SameRun (id : String) {α : Type} : EStateM.Result RuntimeError (World σ) α →
    EStateM.Result RuntimeError (World σ) α → Prop
  | .ok a w, .ok b v => a = b ∧ w.SameBeside id v
  | .error error w, .error error' v => error = error' ∧ w.SameBeside id v
  | _, _ => False

section

variable {id : String} {s t : Session}

theorem isolated_sourcing (same : s.SameBeside id t) (idle : s.callStack = [])
    (foreign : ∀ key f, s.functions.get? key = some f → f.script ≠ id) {other : String} (different : other ≠ id) :
    Isolated id s t { s with sourcing := other :: s.sourcing } { t with sourcing := other :: t.sourcing } := by
  have idle' : t.callStack = [] := same.callStack.trans idle
  refine ⟨{ same with sourcing := by rw [same.sourcing] }, ⟨?_, foreign, rfl, fun _ => rfl⟩, ?_, ?_, rfl, fun _ => rfl⟩
  · simpa only [Session.currentScript, idle] using different
  · simpa only [Session.currentScript, idle'] using different
  · rwa [same.functions]

theorem isolated_sourced {w v : World σ} {start start' : Session} {i : (isolation id start start').Stage}
    (alike : (isolation id start start').AlikeWorlds i w v) :
    World.SameBeside id w.closed v.closed := by
  have same := (show Isolated id start start' w.session v.session from alike.session).same
  exact ⟨{ same with sourcing := congrArg List.tail same.sourcing }, alike.host, alike.calls⟩

variable [Host σ]

theorem source_isolated (same : s.SameBeside id t) (idle : s.callStack = [])
    (foreign : ∀ key f, s.functions.get? key = some f → f.script ≠ id) (script : Script) (other : script.id ≠ id)
    (host : σ) :
    SameRun id (source script (.start s host)) (source script (.start t host)) ∧
    ∃ inside, s.Spares id inside ∧
      (worldAfter (source script (.start s host))).session = { inside with sourcing := inside.sourcing.tail } := by
  have outcome := execute_all_agrees (isolation id s t) () script.statements ((World.start s host).opened script.id)
    ((World.start t host).opened script.id) ⟨isolated_sourcing same idle foreign other, rfl, rfl⟩
  rw [show script.statements.map (isolation id s t).rewriting.statement = script.statements from keep_body _] at outcome
  rw [source, while_sourcing_eq, while_sourcing_eq]
  rcases outcome_cases outcome with
    ⟨a, w, b, v, _, ended, ended', _, values, alike⟩ | ⟨error, w, v, _, ended, ended', _, alike⟩
  all_goals
    have isolated : Isolated id s t w.session v.session := alike.session
    rw [ended, ended']
  · exact ⟨⟨values, isolated_sourced alike⟩, w.session, isolated.spared, rfl⟩
  · exact ⟨⟨rfl, isolated_sourced alike⟩, w.session, isolated.spared, rfl⟩

end

theorem same_beside_refl (id : String) (s : Session) : s.SameBeside id s :=
  ⟨rfl, rfl, fun _ _ => rfl, rfl, rfl, rfl, rfl⟩

theorem sourcing_keeps_namespaces_apart [Host σ] (id : String) (s : Session) (host : σ) (script : Script)
    (idle : s.callStack = []) (foreign : ∀ key f, s.functions.get? key = some f → f.script ≠ id)
    (other : script.id ≠ id) :
    (∀ name, (worldAfter (source script (.start s host))).session.scriptVariable? id name =
      s.scriptVariable? id name) ∧
    (∀ name, (worldAfter (source script (.start s host))).session.functions.get? (.script id name) =
      s.functions.get? (.script id name)) ∧
    (∀ key f, (worldAfter (source script (.start s host))).session.functions.get? key = some f → f.script ≠ id) ∧
    (∀ t, s.SameBeside id t → SameRun id (source script (.start s host)) (source script (.start t host))) := by
  obtain ⟨-, inside, spared, after⟩ := source_isolated (same_beside_refl id s) idle foreign script other host
  rw [after]
  refine ⟨fun name => ?_, spared.filed, spared.foreign, fun t same => ?_⟩
  · rw [Session.scriptVariable?, Session.scriptVariable?, Session.namespaceOf, Session.namespaceOf, spared.owned]
  · exact (source_isolated same idle foreign script other host).1

-- A session in which `a.vim` has a variable, and a function of `c.vim` sets one of the same name.
def neighbours : Session :=
  { Session.fresh with
    namespaces := Table.empty.insert "a.vim" (Table.empty.insert "x" (.num 1))
    functions := Table.empty.insert (.global "F")
      ⟨⟨⟨none, "F"⟩, [], .empty, false⟩, [.assign ⟨some .script, "x"⟩ .assign (.literal (.num 3))], "c.vim", none⟩ }

-- Sets its own variable, calls that function, shows what its variable is then and reads one that it lacks.
def visitor : Script :=
  ⟨"b.vim", [.assign ⟨some .script, "x"⟩ .assign (.literal (.str "b")), .call none ⟨none, "F"⟩ [],
    .echo [.variable ⟨some .script, "x"⟩], .echo [.variable ⟨some .script, "y"⟩]], [1, 2, 3, 4]⟩

theorem neighbours_foreign (key : FunctionKey) (f : DefinedFunction) (found : neighbours.functions.get? key = some f) :
    f.script ≠ "a.vim" := by
  by_cases here : key = .global "F"
  · rw [here] at found
    cases (Table.get?_insert_self _ _ _).symm.trans found
    decide
  · simp [neighbours, here] at found

theorem neighbours_same_beside :
    neighbours.SameBeside "a.vim" { neighbours with namespaces := neighbours.namespaces.insert "a.vim" .empty } := by
  refine { same_beside_refl "a.vim" neighbours with namespaces := fun other different => ?_ }
  exact Table.get?_insert_ne _ _ different

theorem visitor_spares_neighbours :
    (worldAfter (source visitor (.start neighbours Recorder.empty))).calls = [.echo "b"] ∧
    (worldAfter (source visitor (.start neighbours Recorder.empty))).session.scriptVariable? "a.vim" "x" =
      some (.num 1) ∧
    SameRun "a.vim" (source visitor (.start neighbours Recorder.empty))
      (source visitor (.start { neighbours with namespaces := neighbours.namespaces.insert "a.vim" .empty }
        Recorder.empty)) := by
  have kept := sourcing_keeps_namespaces_apart "a.vim" neighbours Recorder.empty visitor rfl neighbours_foreign (by decide)
  exact ⟨by with_unfolding_all rfl, (kept.1 "x").trans (by decide), kept.2.2.2 _ neighbours_same_beside⟩

end ExScript
