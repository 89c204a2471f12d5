import Diglot.Proofs.Discipline
import Diglot.Renderer
import Mathlib.Data.List.Forall2
import Mathlib.Logic.Relation

/-!
# Sessions: calls that share a memo

A `Session` is a memo with the calls that share it. A call converts one type use, or renders
one declaration; the source sets of a declaration are rendered by threads of their own.
Nothing is said about who comes next: in every step some thread of some call does the one
thing that it does next, and that may be any of the following.

* A thread looks a type use up. A hit is the answer of the conversion; after a miss the
  thread is in the middle of it.
* A thread enters a form, unless another one was faster. What is remembered then is the answer
  of the conversion.
* A source set is taken up by a thread. It need not come to that: where a signature fails, the
  source sets that are still waiting may be left.
* A signature that is found is entered into the map of the declaration, which lists its
  entries in any order it likes.
-/

namespace Diglot

/-! ## Threads -/

/-- A program with the conversions that it is in the middle of, the innermost first. -/
structure Thread (α : Type) where
  /-- conversions that have been asked for and not answered -/
  stack : List TypeUse
  /-- what is left to do -/
  rest : Program α

namespace Thread

variable {α : Type}

/-- A thread at its beginning. -/
def start (program : Program α) : Thread α := ⟨[], program⟩

/-- The thread has nothing left to do. -/
def Ended (thread : Thread α) : Prop := ∃ outcome, thread.rest = .finished outcome

/-- What a thread does in one step, with the conversions that are answered by it. -/
inductive Step : Memo → Thread α → List MemoEntry → Memo → Thread α → Prop where
  /-- what was looked up is remembered -/
  | hit {memo : Memo} {stack : List TypeUse} {key : TypeUse}
    {next : Option (Converted key) → Program α} {form : Converted key}
    (found : memo.find? key = some form) :
    Step memo ⟨stack, .lookup key next⟩ [⟨key, form⟩] memo ⟨stack, next (some form)⟩
  /-- what was looked up is not remembered -/
  | miss {memo : Memo} {stack : List TypeUse} {key : TypeUse}
    {next : Option (Converted key) → Program α} (absent : memo.find? key = none) :
    Step memo ⟨stack, .lookup key next⟩ [] memo ⟨key :: stack, next none⟩
  /-- a form is entered, unless there is one -/
  | enter {memo : Memo} {stack : List TypeUse} {key : TypeUse} {form : Converted key}
    {next : Converted key → Program α} :
    Step memo ⟨stack, .enter key form next⟩ [⟨key, (memo.enter key form).1⟩]
      (memo.enter key form).2 ⟨stack.tail, next (memo.enter key form).1⟩

end Thread

/-! ## Rendering a declaration -/

/-- A declaration that is being rendered. -/
structure Rendering where
  /-- the declaration -/
  declaration : Declaration
  /-- leave out default values and visibility -/
  inSummary : Bool
  /-- source sets that no thread has taken up -/
  waiting : List SourceSet
  /-- source sets with the threads that are after their signatures -/
  working : List (SourceSet × Thread Signature)
  /-- source sets with the signatures that were entered for them, latest first -/
  entered : List (SourceSet × Signature)
  /-- the variants that were made up by it -/
  variants : List Variant

namespace Rendering

/-- A declaration at the beginning of its rendering. -/
def start (declaration : Declaration) (inSummary : Bool) : Rendering :=
  ⟨declaration, inSummary, declaration.sourceSets, [], [], []⟩

/-- The source sets that were taken up so far. -/
def begun (r : Rendering) : List SourceSet :=
  r.working.map Prod.fst ++ r.entered.map Prod.fst

/-- Every thread has ended. -/
def AtRest (r : Rendering) : Prop := ∀ work ∈ r.working, work.2.Ended

/-- What the signature in a source set comes to without a memo. -/
def account (context : Context) (r : Rendering) (s : SourceSet) : Account Signature :=
  renderSignature context r.declaration s r.inSummary

/-- What happens to a declaration in one step, with the conversions that are answered by it. -/
inductive Step (context : Context) :
    Memo → Rendering → List MemoEntry → Memo → Rendering → Prop where
  /-- a source set is taken up -/
  | takeUp {memo : Memo} {r : Rendering} {s : SourceSet} {waiting : List SourceSet}
    (mem : r.waiting.Perm (s :: waiting)) :
    Step context memo r [] memo
      { r with
        waiting
        working := (s, .start (renderSignature context r.declaration s r.inSummary)) :: r.working }
  /-- a thread does its next step -/
  | work {memo memo' : Memo} {r : Rendering} {s : SourceSet} {thread thread' : Thread Signature}
    {working : List (SourceSet × Thread Signature)} {answers : List MemoEntry}
    (mem : r.working.Perm ((s, thread) :: working))
    (step : Thread.Step memo thread answers memo' thread') :
    Step context memo r answers memo' { r with working := (s, thread') :: working }
  /-- a source set is entered with its signature -/
  | enter {memo : Memo} {r : Rendering} {s : SourceSet} {signature : Signature}
    {stack : List TypeUse} {working : List (SourceSet × Thread Signature)}
    {variants : List Variant}
    (mem : r.working.Perm ((s, ⟨stack, .finished (.ok signature)⟩) :: working))
    (listed : (Variant.enter s signature r.variants).Perm variants) :
    Step context memo r [] memo
      { r with working, entered := (s, signature) :: r.entered, variants }

/-- What the rendering of a declaration comes to: its variants when every source set is
entered, or else the failure of some signature, when no thread is at work any more. -/
inductive Yields (r : Rendering) : Except RenderError Variants → Prop where
  /-- every source set is entered -/
  | complete (waiting : r.waiting = []) (working : r.working = []) :
    Yields r
      (match Variants.ofGroups? r.declaration.commonSourceSet? r.variants with
        | some variants => .ok variants
        | none => .error (.noSourceSets r.declaration.identity))
  /-- a signature has failed -/
  | failed {s : SourceSet} {stack : List TypeUse} {e : RenderError} (rest : r.AtRest)
    (mem : (s, ⟨stack, .finished (.error e)⟩) ∈ r.working) : Yields r (.error e)

end Rendering

/-- A declaration with its variants, or a failure that names it. -/
def Declaration.rendered (declaration : Declaration) :
    Except RenderError Variants → Except RenderError RenderedDeclaration
  | .ok variants => .ok ⟨declaration.name, declaration.identity, variants⟩
  | .error e => .error (.within declaration e)

/-- What a call to render a declaration returns. -/
def Rendering.Returns (r : Rendering) (result : Except RenderError RenderedDeclaration) : Prop :=
  ∃ outcome, r.Yields outcome ∧ r.declaration.rendered outcome = result

/-! ## Calls -/

/-- What a call is asked to do. -/
inductive Request where
  /-- convert a type use to Kotlin -/
  | conversion (type : TypeUse)
  /-- render a declaration -/
  | rendering (declaration : Declaration) (inSummary : Bool)

/-- A call that shares a memo with others. -/
inductive Call where
  | conversion (type : TypeUse) (thread : Thread (Converted type))
  | rendering (r : Rendering)

namespace Call

/-- A call at its beginning. -/
def start : Request → Call
  | .conversion type => .conversion type (.start (.convert type))
  | .rendering declaration inSummary => .rendering (.start declaration inSummary)

/-- The conversions that the call is in the middle of. -/
def stack : Call → List TypeUse
  | .conversion _ thread => thread.stack
  | .rendering r => r.working.flatMap fun work => work.2.stack

/-- Every thread of the call has ended. -/
def AtRest : Call → Prop
  | .conversion _ thread => thread.Ended
  | .rendering r => r.AtRest

/-- What a call converts, apart from what is converted on the way: the type use that it is
asked to convert, or what the signatures of the source sets taken up so far convert. -/
def converts (context : Context) : Call → List TypeUse
  | .conversion type _ => [type]
  | .rendering r => r.begun.flatMap fun s => (r.account context s).converted

/-- The type uses that are converted for a call, those on the way included. -/
def wanted (context : Context) (call : Call) : Set TypeUse :=
  {part | ∃ type ∈ call.converts context, part ∈ type.conversions}

/-- What a call does in one step, with the conversions that are answered by it. -/
inductive Step (context : Context) : Memo → Call → List MemoEntry → Memo → Call → Prop where
  | conversion {memo memo' : Memo} {type : TypeUse} {thread thread' : Thread (Converted type)}
    {answers : List MemoEntry} (step : Thread.Step memo thread answers memo' thread') :
    Step context memo (.conversion type thread) answers memo' (.conversion type thread')
  | rendering {memo memo' : Memo} {r r' : Rendering} {answers : List MemoEntry}
    (step : Rendering.Step context memo r answers memo' r') :
    Step context memo (.rendering r) answers memo' (.rendering r')

/-- One of several calls does its next step. -/
inductive SomeStep (context : Context) :
    Memo → List Call → List MemoEntry → Memo → List Call → Prop where
  | here {memo memo' : Memo} {call call' : Call} {rest : List Call} {answers : List MemoEntry}
    (step : Step context memo call answers memo' call') :
    SomeStep context memo (call :: rest) answers memo' (call' :: rest)
  | later {memo memo' : Memo} {call : Call} {rest rest' : List Call} {answers : List MemoEntry}
    (step : SomeStep context memo rest answers memo' rest') :
    SomeStep context memo (call :: rest) answers memo' (call :: rest')

end Call

/-! ## Sessions -/

/-- A memo with the calls that share it. -/
structure Session where
  /-- the memo -/
  memo : Memo
  /-- the conversions that were answered so far, with their answers, latest first -/
  answers : List MemoEntry
  /-- the calls -/
  calls : List Call

/-- The type uses of which a memo remembers the forms. -/
def Memo.keys (memo : Memo) : List TypeUse := memo.entries.map MemoEntry.key

namespace Session

/-- The calls at their beginning, with an empty memo. -/
def start (requests : List Request) : Session := ⟨.empty, [], requests.map Call.start⟩

/-- One step of a session. -/
def Step (context : Context) (session session' : Session) : Prop :=
  ∃ answers, Call.SomeStep context session.memo session.calls answers session'.memo session'.calls ∧
    session'.answers = answers ++ session.answers

/-- The session may come to another state by any number of steps. -/
def Reaches (context : Context) : Session → Session → Prop :=
  Relation.ReflTransGen (Step context)

/-- Whether no step of the session is left. -/
def Stuck (context : Context) (session : Session) : Prop :=
  ∀ next, ¬ Step context session next

/-- Every thread has ended. -/
def AtRest (session : Session) : Prop := ∀ call ∈ session.calls, call.AtRest

/-- All conversions that were ever asked for, by calls or on the way of other conversions:
those that were answered, and those that the threads are in the middle of. -/
def asked (session : Session) : List TypeUse :=
  session.answers.map MemoEntry.key ++ session.calls.flatMap Call.stack

/-- What the rendering of a module returns whose calls are those of the session: all
declarations in their order, or else the failure of one of them, when no thread is at work
any more. -/
inductive Returns (session : Session) : Except RenderError (List RenderedDeclaration) → Prop where
  /-- every declaration is rendered -/
  | complete {results : List RenderedDeclaration}
    (each : List.Forall₂ (fun call result => ∃ r, call = .rendering r ∧ r.Returns (.ok result))
      session.calls results) : Returns session (.ok results)
  /-- a declaration has failed -/
  | failed {r : Rendering} {e : RenderError} (rest : session.AtRest)
    (mem : .rendering r ∈ session.calls) (fails : r.Returns (.error e)) :
    Returns session (.error e)

end Session

/-- The calls that render a module. -/
def Renderer.requests (renderer : Renderer) (module : Module) : List Request :=
  module.declarations.map fun declaration => .rendering declaration renderer.inSummary

end Diglot
