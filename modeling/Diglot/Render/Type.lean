import Diglot.Memo.Program
import Diglot.Render.Context
import Diglot.SourceSet
import Diglot.TypeUse.FunctionType
import Diglot.TypeUse.ToJava

/-!
# Rendering types

`renderType` turns a type use into a displayed type. It renders the type arguments as
they are written, brings the type into the form that the language of the display writes,
and then either goes on with what is inside a wrapper or shows the form that it has.

Everything that it renders on the way has fewer nodes than the type itself:
`renderTypeBy` shows one type by means of a function `recurse` that is only ever asked for
smaller ones, and `renderType` hands itself to it.
-/

namespace Diglot

/-- A type use to render, and what its surroundings have to say about it. -/
structure TypeRequest where
  /-- the type use -/
  type : TypeUse
  /-- the enclosing declaration comes from Java sources -/
  fromJava : Bool
  /-- the source set whose annotations count -/
  sourceSet : SourceSet
  /-- annotations that the enclosing declaration hands to the type -/
  carried : List Annotation := []
  /-- annotations that are displayed on the enclosing declaration -/
  shownElsewhere : List Annotation := []
  /-- it is the type that a function returns -/
  isReturn : Bool := false
  /-- it cannot be a Java primitive -/
  mustBox : Bool := false
  /-- nullability that the surroundings imply -/
  imposed : Option Nullability := none

namespace TypeRequest

/-- The request for a type argument: it cannot be a primitive, and nothing is handed to
it. -/
def forArgument (request : TypeRequest) (argument : TypeUse) : TypeRequest :=
  { type := argument, fromJava := request.fromJava, sourceSet := request.sourceSet,
    mustBox := true }

/-- The request for the inside of a nullable type. -/
def forNullable (request : TypeRequest) (inner : TypeUse) : TypeRequest :=
  { request with
    type := inner, isReturn := false,
    imposed := some (Nullability.kotlinNullable.or request.imposed) }

/-- The request for the inside of a projection. -/
def forProjected (request : TypeRequest) (inner : TypeUse) : TypeRequest :=
  { request with type := inner, isReturn := false }

/-- The request for what an alias stands for. -/
def forAliased (request : TypeRequest) (inner : TypeUse) : TypeRequest :=
  { request with type := inner }

/-- The request for a parameter of a function type. Its annotations that belong to types
are handed to the type; the others are displayed on the parameter. -/
def forLambdaParameter (type : TypeUse) (fromJava : Bool) (sourceSet : SourceSet) :
    TypeRequest :=
  let annotations := type.annotationsAt sourceSet.name
  { type, fromJava, sourceSet, carried := Annotation.onType annotations,
    shownElsewhere := Annotation.distinct <| Annotation.onDeclaration annotations }

/-- The annotations of the type that are not displayed elsewhere. -/
def annotations (request : TypeRequest) : List Annotation :=
  (request.carried ++ request.type.annotationsAt request.sourceSet.name).filter
    fun a => !request.shownElsewhere.contains a

/-- The nullability of the type in the form that it has. -/
def nullability (request : TypeRequest) (dialect : Dialect) (form : TypeUse) : Nullability :=
  (form.nullability dialect (some request.fromJava) request.carried).or request.imposed

end TypeRequest

/-- The parts of a function type. -/
structure LambdaParts where
  /-- receiver of an extension -/
  receiver : Option TypeUse
  /-- parameters -/
  parameters : List TypeUse
  /-- type of the result -/
  returnType : TypeUse

/-- The parts of a function type: its last argument is what it returns, and if it is an
extension the first of the others is the receiver. -/
def TypeUse.lambdaParts (type : TypeUse) : Except RenderError LambdaParts :=
  match type.withoutNonNull with
  | classRef head arguments =>
    match arguments.getLast?, head.form, arguments.dropLast with
    | none, _, _ => throw (.unsupported .lambda .classRef)
    | some returnType, .functional true _, receiver :: parameters =>
      pure ⟨some receiver, parameters, returnType⟩
    | some returnType, _, parameters => pure ⟨none, parameters, returnType⟩
  | _ => throw (.unsupported .lambda type.shape)

/-- The parts of a function type are smaller than the type. -/
theorem TypeUse.nodes_lambdaParts_lt {type : TypeUse} {parts : LambdaParts}
    (h : type.lambdaParts = .ok parts) :
    (∀ receiver ∈ parts.receiver, receiver.nodes < type.nodes) ∧
      (∀ parameter ∈ parts.parameters, parameter.nodes < type.nodes) ∧
        parts.returnType.nodes < type.nodes := by
  unfold lambdaParts at h
  have le := nodes_withoutNonNull_le type
  split at h
  · rename_i head arguments core
    rw [core] at le
    have small : ∀ argument ∈ arguments, argument.nodes < type.nodes := fun argument mem => by
      have := nodes_le_nodesList mem
      simp only [nodes] at le
      omega
    split at h
    · cases h
    · rename_i returnType isSuspend receiver parameters last form rest
      cases h
      have sub : ∀ argument ∈ receiver :: parameters, argument ∈ arguments :=
        fun argument mem => (List.dropLast_sublist _).subset (rest ▸ mem)
      exact ⟨fun r mem => small r (sub r (by simp_all)),
        fun p mem => small p (sub p (List.mem_cons_of_mem _ mem)),
        small _ (List.mem_of_getLast? last)⟩
    · rename_i last _
      cases h
      exact ⟨by simp, fun p mem => small p ((List.dropLast_sublist _).subset mem),
        small _ (List.mem_of_getLast? last)⟩
  · cases h

/-- A parameter of a function type with the given type, with the name that the type use
gives it. -/
def Context.lambdaParameter (context : Context) (type : TypeUse) (fromJava : Bool)
    (sourceSet : SourceSet) (shown : ShownType) : Except RenderError ShownParameter := do
  let name :=
    match type with
    | .classRef head _ => head.shownName.getD ""
    | _ => ""
  let annotations ← context.shownAnnotations
    (TypeRequest.forLambdaParameter type fromJava sourceSet).shownElsewhere
    (type.nullability context.dialect (some fromJava) [])
  pure ⟨name, shown, none, [], annotations, context.dialect⟩

/-- The link to the mutable counterpart of a type from Java sources that is a read-only
collection in Kotlin. -/
def Context.mutableLink? (context : Context) (fromJava : Bool) : TypeUse → Option Link
  | .classRef head _ =>
    if fromJava && head.form = .generic then
      head.identity.mutableCounterpart?.map fun other => ⟨"Mutable", (context.link other).url⟩
    else none
  | _ => none

/-- The type arguments that are displayed beside a form: the name of a Java array says
already what its elements are. -/
def argumentsBeside (form : TypeUse) (arguments : List ShownType) : List ShownType :=
  match form with
  | .primitive name => if Text.endsWith name "[]" then [] else arguments
  | _ => arguments

/-- The nullability that decides on the annotations of a form: a star has none of its
own. -/
def annotatedNullability (form : TypeUse) (nullability : Nullability) : Nullability :=
  match form with
  | .star => .unimportant
  | _ => nullability

/-- Names of the steps in which a type is rendered. -/
def renderSteps : List String :=
  ["generics", "rewrite", "hoist-array", "unwrap", "annotate", "dispatch"]

section

variable {m : Type → Type} [Monad m] [Converting m]

/-- The form in which the language of the display writes the requested type. -/
def Context.form (context : Context) (request : TypeRequest) : m (Converted request.type) :=
  match context.dialect with
  | .kotlin => Converting.toKotlin request.type
  | .java =>
    match h : request.type.toJava
        ⟨request.isReturn, request.mustBox, context.config.qualifiedArrays⟩ with
    | .ok form => pure ⟨form, request.type.nodes_toJava_le h⟩
    | .error e => Converting.fail e

/-- Show the receiver of a function type, if it has one. -/
def renderReceiverBy (receiver : Option TypeUse)
    (recurse : (type : TypeUse) → type ∈ receiver → m ShownType) : m (Option ShownType) :=
  match receiver with
  | none => pure none
  | some type => do
    let shown ← recurse type rfl
    pure (some shown)

/-- Show a Kotlin function type by showing its parts. -/
def renderLambdaBy (context : Context) (request : TypeRequest) (form : TypeUse)
    (recurse : (inner : TypeRequest) → inner.type.nodes < form.nodes → m ShownType) :
    m ShownType :=
  match split : form.lambdaParts with
  | .error e => Converting.fail e
  | .ok parts => do
    let small := TypeUse.nodes_lambdaParts_lt split
    let sourceSet := request.sourceSet
    let receiver ← renderReceiverBy parts.receiver fun type mem =>
      recurse { type, fromJava := false, sourceSet } (small.1 type mem)
    let parameters ← parts.parameters.attach.mapM' fun ⟨type, mem⟩ => do
      let shown ←
        recurse (TypeRequest.forLambdaParameter type false sourceSet) (small.2.1 type mem)
      attempt (context.lambdaParameter type false sourceSet shown)
    let implied := form.nullability context.dialect none []
    let returnType ←
      recurse
        { type := parts.returnType, fromJava := false, sourceSet, imposed := some implied }
        small.2.2
    let isSuspend ← attempt form.isSuspending
    let own := request.nullability context.dialect form
    let stated := form.nullability context.dialect (some false) request.annotations
    let annotations ←
      attempt (context.shownAnnotations request.annotations (stated.or (some own)))
    pure (.lambda ⟨own, context.dialect, annotations⟩ isSuspend receiver parameters returnType)

/-- Show a form that is not a wrapper to look through. -/
def renderFormBy (context : Context) (request : TypeRequest) (arguments : List ShownType)
    (form : TypeUse)
    (recurse : (inner : TypeRequest) → inner.type.nodes < form.nodes → m ShownType) :
    m ShownType := do
  let nullability := request.nullability context.dialect form
  let annotations ←
    attempt (context.shownAnnotations request.annotations (annotatedNullability form nullability))
  let face : Face := ⟨nullability, context.dialect, annotations⟩
  match context.dialect with
  | .java => do
    let link ← attempt (context.typeLink "" form)
    pure (.plain face link (argumentsBeside form arguments))
  | .kotlin => do
    if ← attempt form.isFunctionType then renderLambdaBy context request form recurse
    else
      let link ← attempt (context.typeLink "" form)
      match context.mutableLink? request.fromJava form with
      | some mutable => pure (.mapped face link mutable (argumentsBeside form arguments))
      | none => pure (.plain face link (argumentsBeside form arguments))

/-- Show the requested type; `recurse` shows smaller ones. -/
def renderTypeBy (context : Context) (request : TypeRequest)
    (recurse : (inner : TypeRequest) → inner.type.nodes < request.type.nodes → m ShownType) :
    m ShownType := do
  let arguments ← request.type.writtenArguments.attach.mapM' fun ⟨argument, mem⟩ =>
    recurse (request.forArgument argument)
      (Nat.lt_of_le_of_lt (TypeUse.nodes_le_nodesList mem)
        (TypeUse.nodesList_writtenArguments_lt request.type))
  let form ← context.form request
  match form with
  | ⟨.nullable inner, le⟩ => recurse (request.forNullable inner) le
  | ⟨.projected _ inner, le⟩ => recurse (request.forProjected inner) le
  | ⟨.aliased _ inner, le⟩ =>
    recurse (request.forAliased inner)
      (Nat.lt_of_lt_of_le (Nat.lt_succ_of_le (Nat.le_add_left _ _)) le)
  | ⟨other, le⟩ =>
    renderFormBy context request arguments other fun inner lt =>
      recurse inner (Nat.lt_of_lt_of_le lt le)

/-- Show the requested type. -/
def renderType (context : Context) (request : TypeRequest) : m ShownType :=
  renderTypeBy context request fun inner _ => renderType context inner
termination_by request.type.nodes

/-- Show a type as a parameter of a function type. -/
def renderLambdaParameter (context : Context) (type : TypeUse) (fromJava : Bool)
    (sourceSet : SourceSet) : m ShownParameter := do
  let shown ← renderType context (TypeRequest.forLambdaParameter type fromJava sourceSet)
  attempt (context.lambdaParameter type fromJava sourceSet shown)

end

end Diglot
