import Diglot.Proofs.Outcome
import Diglot.Proofs.Progress

/-!
# The memo cannot be seen

Calls that share a memo return what they return without one, whatever the order of their
steps. `Session.Transparent` collects what can be said of a session, and it can be said of every
session that begins with an empty memo:

* what is remembered and what is answered is the structural conversion;
* renderings return what they return alone, or else some failure, if they fail alone;
* what is remembered in the end is what was asked for, and only that;
* the session comes to an end, and in the end all calls have returned.

A module whose declarations are rendered in this way succeeds if each of them succeeds alone.
-/

namespace Diglot

/-- What the call was asked to do. -/
def Call.request : Call → Request
  | .conversion type _ => .conversion type
  | .rendering r => .rendering r.declaration r.inSummary

/-- Sound calls do what they were asked to do. -/
theorem Call.Sound.request_eq {context : Context} {memo : Memo} {request : Request} {call : Call}
    (h : Call.Sound context memo request call) : call.request = request := by
  cases h <;> rfl

/-- A sound call to render is a sound rendering. -/
theorem Call.Sound.of_rendering {context : Context} {memo : Memo} {request : Request}
    {r : Rendering} (h : Call.Sound context memo request (.rendering r)) :
    r.Sound context memo := by
  cases h with
  | rendering sound => exact sound

namespace Rendering

/-- A declaration returns what it returns without a memo, or else some failure. -/
theorem Sound.returns {context : Context} {memo : Memo} {r : Rendering}
    {result : Except RenderError RenderedDeclaration} (h : r.Sound context memo)
    (returns : r.Returns result) (rendered : RenderedDeclaration) :
    result = .ok rendered ↔
      r.declaration.rendered (variantsOf context r.declaration r.inSummary) = .ok rendered := by
  obtain ⟨outcome, yields, rfl⟩ := returns
  have same := h.outcome yields
  cases outcome with
  | ok variants => rw [(same variants).mp rfl]
  | error e =>
    -- a failure is matched by some failure, not by the same one
    cases alone : variantsOf context r.declaration r.inSummary with
    | ok variants => exact absurd ((same variants).mpr alone) (by rintro ⟨⟩)
    | error e' => exact iff_of_false (by rintro ⟨⟩) (by rintro ⟨⟩)

/-- In Java nothing is converted for a declaration. -/
theorem converts_java {context : Context} (java : context.dialect = .java) (r : Rendering) :
    (Call.rendering r).converts context = [] :=
  List.flatMap_eq_nil_iff.mpr fun s _ =>
    (Account.nothingConverted java).renderSignature r.declaration s r.inSummary

end Rendering

namespace Session

/-- Nothing that can be seen of a session depends on the memo or on the order of steps. -/
structure Transparent (context : Context) (requests : List Request) (session : Session) :
    Prop where
  /-- the calls do what they were asked to do -/
  calls : session.calls.map Call.request = requests
  /-- every entry is the structural conversion of its key -/
  entries : ∀ entry ∈ session.memo.entries, entry.form.val = entry.key.toKotlin
  /-- every conversion was answered with the structural conversion, be it asked for by a call
  or on the way of another one -/
  answers : ∀ answer ∈ session.answers, answer.form.val = answer.key.toKotlin
  /-- a call to convert returns the structural conversion, and does not fail -/
  conversions : ∀ type thread outcome, .conversion type thread ∈ session.calls →
    thread.rest = .finished outcome → ∃ form, outcome = .ok form ∧ form.val = type.toKotlin
  /-- a declaration succeeds if it does without a memo, and the result is the same -/
  renderings : ∀ r result, .rendering r ∈ session.calls → r.Returns result →
    ∀ rendered, result = .ok rendered ↔
      r.declaration.rendered (variantsOf context r.declaration r.inSummary) = .ok rendered
  /-- no type use is remembered twice -/
  distinct : session.memo.keys.Nodup
  /-- what is remembered is what was answered -/
  answered : ∀ key, key ∈ session.memo.keys ↔ key ∈ session.answers.map MemoEntry.key
  /-- in the end, everything that was ever asked for is remembered, and nothing else -/
  asked : session.AtRest → ∀ key, key ∈ session.memo.keys ↔ key ∈ session.asked
  /-- that is, what the calls convert, with what is converted on the way -/
  wanted : session.AtRest → ∀ key, key ∈ session.memo.keys ↔
    ∃ call ∈ session.calls, ∃ type ∈ call.converts context, key ∈ type.conversions
  /-- for which declarations do nothing in Java -/
  java : context.dialect = .java →
    ∀ r, .rendering r ∈ session.calls → (Call.rendering r).converts context = []
  /-- there is no end of steps -/
  ends : Acc (fun next session => Step context session next) session
  /-- when there are no more steps, every call has returned -/
  finished : session.Stuck context → ∀ call ∈ session.calls, call.Over

/-- Every call is sound for what it was asked to do. -/
theorem Sound.of_mem {context : Context} {requests : List Request} {session : Session}
    (h : session.Sound context requests) {call : Call} (mem : call ∈ session.calls) :
    Call.Sound context session.memo call.request call := by
  have all : ∀ {requests : List Request} {calls : List Call},
      List.Forall₂ (Call.Sound context session.memo) requests calls → call ∈ calls →
        Call.Sound context session.memo call.request call := by
    intro requests calls each mem
    induction each with
    | nil => cases mem
    | cons first others ih =>
      rcases List.mem_cons.mp mem with rfl | mem
      · exact first.request_eq ▸ first
      · exact ih mem
  exact all h.calls mem

/-- In the end, a memo remembers what was wanted for the calls. -/
theorem Sound.keys_atRest {context : Context} {requests : List Request} {session : Session}
    (h : session.Sound context requests) (rest : session.AtRest) (key : TypeUse) :
    key ∈ session.memo.keys ↔ key ∈ Call.allWanted context session.calls := by
  refine ⟨fun mem => h.wanted mem, ?_⟩
  rintro ⟨call, mem, wanted⟩
  exact ((h.of_mem mem).atRest (rest call mem)).2 wanted

/-- In the end, no conversion is left without an answer. -/
theorem Sound.asked_atRest {context : Context} {requests : List Request} {session : Session}
    (h : session.Sound context requests) (rest : session.AtRest) :
    session.asked = session.answers.map MemoEntry.key := by
  have idle : session.calls.flatMap Call.stack = [] :=
    List.flatMap_eq_nil_iff.mpr fun call mem => ((h.of_mem mem).atRest (rest call mem)).1
  rw [asked, idle, List.append_nil]

/-- **Sound sessions are transparent.** -/
theorem Sound.isTransparent {context : Context} {requests : List Request} {session : Session}
    (h : session.Sound context requests) : session.Transparent context requests where
  calls := by
    have each : List.Forall₂ (fun request call => request = call.request) requests session.calls :=
      h.calls.imp fun _ _ sound => sound.request_eq.symm
    rw [← List.forall₂_map_right_iff, List.forall₂_eq_eq_eq] at each
    exact each.symm
  entries entry mem := congrArg Subtype.val (h.memo.right entry mem)
  answers answer mem := congrArg Subtype.val (h.right answer mem)
  conversions type thread outcome mem ended := by
    cases h.of_mem mem with
    | conversion sound =>
      obtain ⟨stack, program⟩ := thread
      cases ended
      exact ⟨_, sound.ended.2.1, rfl⟩
  renderings r result mem returns := (h.of_mem mem).of_rendering.returns returns
  distinct := h.memo.distinct
  answered := h.keys
  asked rest key := by rw [h.asked_atRest rest, h.keys]
  wanted := h.keys_atRest
  java java r _ := r.converts_java java
  ends := h.ends
  finished := over_of_stuck

/-! ## Modules -/

section

variable {renderer : Renderer} {module : Module} {session : Session}

/-- What is rendered for a declaration of a module is what the renderer makes of it alone. -/
theorem Transparent.alone
    (h : session.Transparent renderer.context (renderer.requests module)) {r : Rendering}
    (mem : .rendering r ∈ session.calls) (inSummary : r.inSummary = renderer.inSummary)
    {result : Except RenderError RenderedDeclaration} (returns : r.Returns result)
    (rendered : RenderedDeclaration) :
    result = .ok rendered ↔ renderer.renderDeclaration r.declaration = .ok rendered := by
  rw [h.renderings r result mem returns, renderer.renderDeclaration_eq, inSummary]

/-- The calls render the declarations of the module. -/
theorem Transparent.mem_declarations
    (h : session.Transparent renderer.context (renderer.requests module)) {r : Rendering}
    (mem : .rendering r ∈ session.calls) :
    r.declaration ∈ module.declarations ∧ r.inSummary = renderer.inSummary := by
  have asked : (Call.rendering r).request ∈ renderer.requests module :=
    h.calls ▸ List.mem_map_of_mem mem
  obtain ⟨declaration, memDeclaration, eq⟩ := List.mem_map.mp asked
  obtain ⟨rfl, inSummary⟩ := Request.rendering.inj eq
  exact ⟨memDeclaration, inSummary.symm⟩

/-- If every call has a result, the results are those of the declarations in their order. -/
theorem map_renderDeclaration_of_each {calls : List Call} {declarations : List Declaration}
    {results : List RenderedDeclaration}
    (same : calls.map Call.request =
      declarations.map fun declaration => .rendering declaration renderer.inSummary)
    (each : List.Forall₂ (fun call result => ∃ r, call = .rendering r ∧ r.Returns (.ok result))
      calls results)
    (alone : ∀ r result, .rendering r ∈ calls → r.Returns (.ok result) →
      renderer.renderDeclaration r.declaration = .ok result) :
    declarations.map renderer.renderDeclaration = results.map Except.ok := by
  induction each generalizing declarations with
  | nil =>
    obtain rfl : declarations = [] := List.map_eq_nil_iff.mp same.symm
    rfl
  | cons first others ih =>
    obtain ⟨r, rfl, returns⟩ := first
    cases declarations with
    | nil => cases same
    | cons declaration declarations =>
      obtain ⟨here, later⟩ := List.cons.inj same
      obtain ⟨rfl, -⟩ := Request.rendering.inj here
      rw [List.map_cons, List.map_cons, alone r _ (List.mem_cons_self ..) returns,
        ih later fun r result mem => alone r result (List.mem_cons_of_mem _ mem)]

/-- **A module returns the results of its declarations**, each rendered alone, if they all
have one, and otherwise a failure. -/
theorem Transparent.ok_iff
    (h : session.Transparent renderer.context (renderer.requests module))
    {outcome : Except RenderError (List RenderedDeclaration)} (returns : session.Returns outcome)
    (results : List RenderedDeclaration) :
    outcome = .ok results ↔
      module.declarations.map renderer.renderDeclaration = results.map Except.ok := by
  have alone : ∀ r result, .rendering r ∈ session.calls → r.Returns result →
      ∀ rendered, result = .ok rendered ↔
        renderer.renderDeclaration r.declaration = .ok rendered :=
    fun r result mem => h.alone mem (h.mem_declarations mem).2
  cases returns with
  | @complete results' each =>
    have all := map_renderDeclaration_of_each h.calls each fun r result mem returns =>
      (alone r _ mem returns result).mp rfl
    rw [all, List.map_inj_right fun _ _ => Except.ok.inj]
    exact ⟨Except.ok.inj, congrArg _⟩
  | @failed r e rest mem fails =>
    refine iff_of_false (by rintro ⟨⟩) fun all => ?_
    -- the declaration that fails would have a result
    have mem' := List.mem_map_of_mem (f := renderer.renderDeclaration) (h.mem_declarations mem).1
    rw [all] at mem'
    obtain ⟨rendered, -, ok⟩ := List.mem_map.mp mem'
    cases (alone r _ mem fails rendered).mpr ok.symm

/-- The calls that render a module all render. -/
theorem Transparent.renders
    (h : session.Transparent renderer.context (renderer.requests module)) {call : Call}
    (mem : call ∈ session.calls) : ∃ r, call = .rendering r := by
  have asked : call.request ∈ renderer.requests module := h.calls ▸ List.mem_map_of_mem mem
  obtain ⟨declaration, -, eq⟩ := List.mem_map.mp asked
  cases call with
  | rendering r => exact ⟨r, rfl⟩
  | conversion type thread => cases eq

end

/-- **Nobody sees the memo**: every session that begins with an empty memo is transparent. So
a module succeeds if all its declarations do, each rendered in a session of its own, and it
returns their results in their order; it does return something when there are no more steps, and
rendering the declarations one after the other yields the same. -/
theorem transparent {context : Context} {requests : List Request} {session : Session}
    (reached : Reaches context (start requests) session) :
    session.Transparent context requests ∧
      ∀ (renderer : Renderer) (module : Module), renderer.context = context →
        renderer.requests module = requests →
          (∀ outcome results, session.Returns outcome → (outcome = .ok results ↔
            module.declarations.map renderer.renderDeclaration = results.map Except.ok)) ∧
          (∀ results, renderer.renderModule module = .ok results ↔
            module.declarations.map renderer.renderDeclaration = results.map Except.ok) ∧
          (session.Stuck context → ∃ outcome, session.Returns outcome) := by
  have h := reached.sound.isTransparent
  refine ⟨h, ?_⟩
  rintro renderer module rfl rfl
  refine ⟨fun outcome results returns => h.ok_iff returns results, fun results => ?_, ?_⟩
  · rw [renderer.renderModule_eq, mapM'_eq_ok_iff]
  · exact fun stuck => exists_returns (h.finished stuck) fun call mem => h.renders mem

/-! ### Two calls for the same type -/

/-- The class of strings, as Java names it. -/
def javaString : TypeUse := .classRef ⟨.ofClass "java.lang" "String", none, ∅, .generic⟩ []

/-- A call that has missed the form of `javaString` and made it. -/
def missed : Call :=
  .conversion javaString ⟨[javaString], .enter javaString javaString.converted pure⟩

/-- A call that has returned the form of `javaString`. -/
def returned : Call := .conversion javaString ⟨[], .finished (.ok javaString.converted)⟩

/-- A session in which two calls have returned the form of `javaString`: the memo has one entry, and
both conversions were answered. -/
def raced : Session :=
  let entry : MemoEntry := ⟨javaString, javaString.converted⟩
  ⟨⟨[entry]⟩, [entry, entry], [returned, returned]⟩

/-- Two calls look up the same type, both miss, and both enter the form that they have made.
In another session, a module with one declaration is rendered. -/
theorem transparent_raced :
    let renderer : Renderer := {}
    let requests : List Request := [.conversion javaString, .conversion javaString]
    let module : Module := { name := "clock", declarations := [clockNow] }
    (Reaches renderer.context (start requests) raced ∧
      raced.Transparent renderer.context requests) ∧
    ∃ session rendered, Reaches renderer.context (start (renderer.requests module)) session ∧
      session.Returns (.ok [rendered]) ∧ renderer.renderDeclaration clockNow = .ok rendered := by
  intro renderer requests module
  constructor
  · let entry : MemoEntry := ⟨javaString, javaString.converted⟩
    have first : Step renderer.context (start requests)
        ⟨.empty, [], [missed, Call.start (.conversion javaString)]⟩ :=
      ⟨[], .here (.conversion (.miss rfl)), rfl⟩
    have second : Step renderer.context
        ⟨.empty, [], [missed, Call.start (.conversion javaString)]⟩
        ⟨.empty, [], [missed, missed]⟩ :=
      ⟨[], .later (.here (.conversion (.miss rfl))), rfl⟩
    have third : Step renderer.context ⟨.empty, [], [missed, missed]⟩
        ⟨⟨[entry]⟩, [entry], [returned, missed]⟩ :=
      ⟨[entry], .here (.conversion .enter), rfl⟩
    have fourth : Step renderer.context ⟨⟨[entry]⟩, [entry], [returned, missed]⟩ raced :=
      ⟨[entry], .later (.here (.conversion .enter)), rfl⟩
    have reached : Reaches renderer.context (start requests) raced :=
      .tail (.tail (.tail (.tail .refl first) second) third) fourth
    exact ⟨reached, (transparent reached).1⟩
  · have started := Sound.start renderer.context (renderer.requests module)
    obtain ⟨session, reached, stuck⟩ := started.exists_stuck
    obtain ⟨results, -, returns⟩ := (transparent reached).2 renderer module rfl rfl
    obtain ⟨outcome, done⟩ := returns stuck
    obtain ⟨variants, found⟩ := exists_variantsOf (by decide) clockNow_succeeds
    have alone : renderer.renderDeclaration clockNow =
        .ok ⟨clockNow.name, clockNow.identity, variants⟩ := by
      rw [renderer.renderDeclaration_eq]
      exact congrArg clockNow.rendered found
    have each : module.declarations.map renderer.renderDeclaration = List.map Except.ok [_] :=
      congrArg (fun result => [result]) alone
    obtain rfl := (results outcome _ done).mpr each
    exact ⟨session, _, reached, done, alone⟩

end Session

end Diglot
