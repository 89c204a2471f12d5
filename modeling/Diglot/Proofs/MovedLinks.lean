import Diglot.Proofs.KotlinAliases
import Diglot.Proofs.LinkTargets

/-!
# Rendering with links that lead elsewhere

The renderer displays links, but it never looks at where they lead. If the targets of all links of
a context are moved (`Context.retarget`), so are the targets of what it displays, and it fails as
before. What leads nowhere still has to, as some names are displayed without a page.

* `typeOf_retarget` — types, at every depth.
* `signatureOf_retarget` — signatures.
-/

namespace Diglot

/-! ## Types -/

/-- The context with the targets of all links moved, and another root path. -/
def Context.retarget (move : String → String) (root : String) (context : Context) : Context where
  dialect := context.dialect
  config := { context.config with rootPath := root }
  link := fun identity => (context.link identity).retarget move

section

variable {move : String → String} {root : String} {context : Context}

namespace Context

@[simp]
theorem dialect_retarget : (context.retarget move root).dialect = context.dialect := rfl

@[simp]
theorem isShown_retarget : (context.retarget move root).isShown = context.isShown := rfl

@[simp]
theorem isValidNullability_retarget : (context.retarget move root).config.isValidNullability =
    context.config.isValidNullability := rfl

mutual

theorem shownArgument_retarget (name : String) : ∀ value : AnnotationValue,
    (context.retarget move root).shownArgument name value =
      (context.shownArgument name value).retarget move
  | .array elements => by
    simp only [shownArgument, ShownArgument.retarget, shownElements_retarget elements]
  | .nested inner => by
    simp only [shownArgument, ShownArgument.retarget, shownAnnotation_retarget inner]
  | .string _ | .literal _ | .enumConstant _ | .classLiteral _ => by
    simp only [shownArgument, ShownArgument.retarget]

theorem shownElements_retarget : ∀ values : List AnnotationValue,
    (context.retarget move root).shownElements values =
      ShownArgument.retargetList move (context.shownElements values)
  | [] => rfl
  | value :: rest => by
    simp only [shownElements, ShownArgument.retargetList, shownArgument_retarget "" value,
      shownElements_retarget rest]

theorem shownArguments_retarget : ∀ arguments : List AnnotationArgument,
    (context.retarget move root).shownArguments arguments =
      ShownArgument.retargetList move (context.shownArguments arguments)
  | [] => rfl
  | ⟨name, value⟩ :: rest => by
    simp only [shownArguments, ShownArgument.retargetList, shownArgument_retarget name value,
      shownArguments_retarget rest]

/-- An annotation is displayed with its targets moved. -/
theorem shownAnnotation_retarget : ∀ annotation : Annotation,
    shownAnnotation (context.retarget move root) annotation =
      (context.shownAnnotation annotation).retarget move
  | ⟨identity, arguments⟩ => by
    simp only [shownArguments_retarget arguments, shownAnnotation, ShownAnnotation.retarget]
    rfl

end

/-- The same annotations are displayed with their targets moved. -/
theorem shownAnnotations_retarget (annotations : List Annotation) (nullability : Nullability) :
    (context.retarget move root).shownAnnotations annotations nullability =
      List.map (.retarget move) <$>
        context.shownAnnotations annotations nullability := by
  have shown : shownAnnotation (context.retarget move root) =
      ShownAnnotation.retarget move ∘ context.shownAnnotation :=
    funext shownAnnotation_retarget
  simp only [shownAnnotations, dialect_retarget, isShown_retarget, isValidNullability_retarget,
    shown, ← List.map_map]
  cases (annotations.map Annotation.publicForm).find? fun a =>
      a.isNullability && !context.config.isValidNullability a.fullName with
  | none => rfl
  | some a => rfl

/-- A type has the same name, with the target moved. -/
theorem typeLink_retarget (stays : move "" = "") (suffix : String) : ∀ type : TypeUse,
    (context.retarget move root).typeLink suffix type =
      Link.retarget move <$> context.typeLink suffix type
  | .nullable inner => by rw [typeLink, typeLink, typeLink_retarget stays "?" inner]
  | .nonNull inner => by rw [typeLink, typeLink, typeLink_retarget stays "" inner]
  | .classRef head _ => rfl
  | .parameter _ | .unresolved _ => by
    simp only [typeLink, map_pure, Link.retarget_unlinked stays]
  | .star => by simp only [typeLink, dialect_retarget, map_pure, Link.retarget_unlinked stays]
  | .void | .primitive _ => by
    simp only [typeLink, dialect_retarget]
    cases context.dialect with
    | java => exact congrArg Except.ok (Link.retarget_unlinked stays _).symm
    | kotlin => rfl
  | .javaObject _ => by
    simp only [typeLink, dialect_retarget]
    cases context.dialect <;> rfl
  | .dynamic | .aliased .. | .projected .. => rfl

/-- The mutable counterpart of a type has the same name, with the target moved. -/
theorem mutableLink?_retarget (fromJava : Bool) (form : TypeUse) :
    (context.retarget move root).mutableLink? fromJava form =
      (context.mutableLink? fromJava form).map (Link.retarget move) := by
  cases form with
  | classRef head arguments =>
    simp only [mutableLink?]
    split
    · rw [Option.map_map]
      rfl
    · rfl
  | parameter | primitive | javaObject | void | star | dynamic | unresolved | nullable | nonNull
  | projected | aliased => rfl

end Context

/-- The arguments beside a form may be moved before or after they are chosen. -/
theorem argumentsBeside_map (form : TypeUse) (arguments : List ShownType)
    (change : ShownType → ShownType) :
    argumentsBeside form (arguments.map change) = (argumentsBeside form arguments).map change := by
  cases form with
  | primitive name =>
    simp only [argumentsBeside]
    split <;> rfl
  | classRef | parameter | javaObject | void | star | dynamic | unresolved | nullable | nonNull
  | projected | aliased => rfl

/-- A function type is shown with its targets moved if its parts are. -/
theorem lambdaOf_retarget {request : TypeRequest} {form : TypeUse} {parts : LambdaParts}
    (split : form.lambdaParts = .ok parts)
    (types : ∀ inner : TypeRequest, inner.type.nodes < form.nodes →
      typeOf (context.retarget move root) inner =
        ShownType.retarget move <$> typeOf context inner) :
    lambdaOf (context.retarget move root) request form parts =
      ShownType.retarget move <$> lambdaOf context request form parts := by
  obtain ⟨smallReceiver, smallParameter, smallReturn⟩ := TypeUse.nodes_lambdaParts_lt split
  have receiver : (parts.receiver.mapM fun type =>
        typeOf (context.retarget move root)
          { type, fromJava := false, sourceSet := request.sourceSet }) =
      Option.map (ShownType.retarget move) <$> parts.receiver.mapM fun type =>
        typeOf context { type, fromJava := false, sourceSet := request.sourceSet } := by
    cases found : parts.receiver with
    | none => rfl
    | some type =>
      rw [Option.mapM_some, Option.mapM_some, types _ (smallReceiver type found),
        Functor.map_map, Functor.map_map]
      rfl
  have parameters : (parts.parameters.mapM' fun type =>
        lambdaParameterOf (context.retarget move root) type request.sourceSet) =
      List.map (ShownParameter.retarget move) <$> parts.parameters.mapM' fun type =>
        lambdaParameterOf context type request.sourceSet := by
    rw [← mapM'_map]
    refine mapM'_congr fun type mem => ?_
    have shown := types (.forLambdaParameter type false request.sourceSet)
      (smallParameter type mem)
    unfold typeOf at shown
    simp only [lambdaParameterOf, renderLambdaParameter, shown, attempt_eq,
      Context.lambdaParameter, Context.shownAnnotations_retarget, map_bind, bind_map_left]
    rfl
  have returned := types
    { type := parts.returnType, fromJava := false, sourceSet := request.sourceSet,
      imposed := some (form.nullability context.dialect none []) } smallReturn
  simp only [lambdaOf, receiver, parameters, Context.dialect_retarget, returned,
    Context.shownAnnotations_retarget, map_bind, bind_map_left]
  refine bind_congr fun receiver => ?_
  refine bind_congr fun parameters => ?_
  refine bind_congr fun returnType => ?_
  refine bind_congr fun isSuspend => ?_
  refine bind_congr fun annotations => ?_
  refine congrArg Except.ok ?_
  rw [ShownType.retarget, ShownType.retargetReceiver_eq_map, ShownParameter.retargetList_eq_map]
  rfl

/-- What is shown of a form has its targets moved, if the types below it have. -/
theorem shownForm_retarget (stays : move "" = "") {request : TypeRequest} {form : TypeUse}
    (types : ∀ inner : TypeRequest, inner.type.nodes < form.nodes →
      typeOf (context.retarget move root) inner =
        ShownType.retarget move <$> typeOf context inner)
    (arguments : List ShownType) :
    shownForm (context.retarget move root) request (arguments.map (ShownType.retarget move)) form =
      ShownType.retarget move <$> shownForm context request arguments form := by
  have lambda : form.lambdaParts.bind (lambdaOf (context.retarget move root) request form) =
      ShownType.retarget move <$> form.lambdaParts.bind (lambdaOf context request form) := by
    cases split : form.lambdaParts with
    | error e => rfl
    | ok parts => exact lambdaOf_retarget split types
  simp only [shownForm, renderFormBy, attempt_eq, renderLambdaBy_eq, lambda, argumentsBeside_map,
    Context.dialect_retarget, Context.shownAnnotations_retarget, Context.typeLink_retarget stays,
    Context.mutableLink?_retarget, map_bind, bind_map_left]
  refine bind_congr fun annotations => ?_
  cases context.dialect with
  | java =>
    simp only [map_bind]
    refine bind_congr fun link => congrArg Except.ok ?_
    rw [ShownType.retarget, ShownType.retargetList_eq_map]
    rfl
  | kotlin =>
    simp only [map_bind]
    refine bind_congr fun isFunction => ?_
    cases isFunction with
    | true => rfl
    | false =>
      simp only [Bool.false_eq_true, if_false, map_bind]
      refine bind_congr fun link => ?_
      cases context.mutableLink? request.fromJava form <;>
      · refine congrArg Except.ok ?_
        rw [ShownType.retarget, ShownType.retargetList_eq_map]
        rfl

variable (root context)

/-- **A type is shown with its targets moved.** -/
theorem typeOf_retarget (stays : move "" = "") (request : TypeRequest) :
    typeOf (context.retarget move root) request =
      ShownType.retarget move <$> typeOf context request := by
  -- everything that is shown on the way has fewer nodes
  induction size : request.type.nodes using Nat.strongRecOn generalizing request with
  | ind size ih =>
    subst size
    have arguments : shownArguments (context.retarget move root) request =
        List.map (ShownType.retarget move) <$> shownArguments context request := by
      rw [shownArguments, shownArguments, ← mapM'_map]
      exact mapM'_congr fun argument mem => ih _
        (TypeUse.nodes_lt_of_mem_writtenArguments mem) (request.forArgument argument) rfl
    have form : (context.retarget move root).writtenForm request = context.writtenForm request :=
      rfl
    rw [typeOf_eq, typeOf_eq context request, arguments, form]
    cases shownArguments context request with
    | error e => rfl
    | ok arguments =>
      cases written : context.writtenForm request with
      | error e => rfl
      | ok form =>
        have le := context.nodes_writtenForm_le written
        change shownBelow (context.retarget move root) request
            (arguments.map (ShownType.retarget move)) form =
          ShownType.retarget move <$> shownBelow context request arguments form
        by_cases leaf : form.isWrapper = false
        · rw [shownBelow_of_not_isWrapper leaf, shownBelow_of_not_isWrapper leaf]
          exact shownForm_retarget stays
            (fun inner lt => ih _ (Nat.lt_of_lt_of_le lt le) inner rfl) arguments
        · cases form with
          | nullable inner => exact ih _ le (request.forNullable inner) rfl
          | projected variance inner => exact ih _ le (request.forProjected inner) rfl
          | aliased _ inner =>
            have lt := Nat.lt_of_lt_of_le (TypeUse.nodes_lt_of_inside? rfl) le
            exact ih _ lt (request.forAliased inner) rfl
          | classRef | parameter | primitive | javaObject | void | star | dynamic | unresolved
          | nonNull => exact absurd rfl leaf

/-! ## Signatures -/

section

variable (stays : move "" = "")

include stays

/-- A parameter or a receiver is shown with its targets moved. -/
theorem parameterOf_retarget (parameter : Parameter) (inSummary fromJava : Bool)
    (sourceSet : SourceSet) :
    parameterOf (context.retarget move root) parameter inSummary fromJava sourceSet =
      ShownParameter.retarget move <$>
        parameterOf context parameter inSummary fromJava sourceSet := by
  have types := typeOf_retarget root context stays
  unfold typeOf at types
  have modifiers : (context.retarget move root).parameterModifiers fromJava =
      context.parameterModifiers fromJava := rfl
  simp only [parameterOf, renderParameter, attempt_eq, modifiers, types, map_bind,
    Context.dialect_retarget, Context.shownAnnotations_retarget]
  refine bind_congr fun modifiers => ?_
  cases context.dialect with
  | java => simp only [map_bind, bind_map_left]; rfl
  | kotlin => simp only [map_bind, bind_map_left]; rfl

/-- Several parameters are shown with their targets moved. -/
theorem parametersOf_retarget (parameters : List Parameter) (inSummary fromJava : Bool)
    (sourceSet : SourceSet) :
    (parameters.mapM' fun p =>
        parameterOf (context.retarget move root) p inSummary fromJava sourceSet) =
      List.map (ShownParameter.retarget move) <$>
        parameters.mapM' fun p => parameterOf context p inSummary fromJava sourceSet := by
  simp only [parameterOf_retarget root context stays, mapM'_map]

/-- A type parameter is shown with its targets moved. -/
theorem renderTypeParameter_retarget (parameter : TypeParameter) (fromJava : Bool)
    (sourceSet : SourceSet) :
    (renderTypeParameter (context.retarget move root) parameter fromJava sourceSet :
        Except RenderError _) =
      ShownTypeParameter.retarget move <$>
        renderTypeParameter context parameter fromJava sourceSet := by
  have types := typeOf_retarget root context stays
  unfold typeOf at types
  simp only [renderTypeParameter, types, mapM'_map, map_bind, bind_map_left,
    Context.dialect_retarget]
  rfl

/-- A function is shown with its targets moved. -/
theorem renderFunction_retarget (declaration : Declaration) (detail : FunctionDetail)
    (sourceSet : SourceSet) (inSummary : Bool) :
    (renderFunction (context.retarget move root) declaration detail sourceSet inSummary :
        Except RenderError _) =
      FunctionSignature.retarget move <$>
        renderFunction context declaration detail sourceSet inSummary := by
  have types := typeOf_retarget root context stays
  have parameters := parametersOf_retarget root context stays
  have typeParameters := renderTypeParameter_retarget root context stays
  unfold typeOf at types
  unfold parameterOf at parameters
  have modifiers : shownModifiers (context.retarget move root) = shownModifiers context := rfl
  simp only [renderFunction, renderDeclaredType, attempt_eq, modifiers, types, parameters,
    typeParameters, declarationAnnotations, mapM'_map, map_bind, bind_map_left,
    Context.dialect_retarget, Context.shownAnnotations_retarget]
  refine bind_congr fun modifiers => ?_
  refine bind_congr fun returnType => ?_
  refine bind_congr fun typeParameters => ?_
  refine bind_congr fun parameters => ?_
  refine bind_congr fun receivers => ?_
  refine bind_congr fun annotations => congrArg Except.ok ?_
  simp only [FunctionSignature.retarget, ShownParameter.retargetList_eq_map]
  cases context.dialect with
  | java => simp [Context.declarationName, Context.retarget, Link.retarget]
  | kotlin => simp [Context.declarationName, Context.retarget, Link.retarget]

/-- A property is shown with its targets moved. -/
theorem renderProperty_retarget (declaration : Declaration) (detail : PropertyDetail)
    (sourceSet : SourceSet) (inSummary : Bool) :
    (renderProperty (context.retarget move root) declaration detail sourceSet inSummary :
        Except RenderError _) =
      PropertySignature.retarget move <$>
        renderProperty context declaration detail sourceSet inSummary := by
  have types := typeOf_retarget root context stays
  have parameters := parametersOf_retarget root context stays
  unfold typeOf at types
  unfold parameterOf at parameters
  have modifiers : shownModifiers (context.retarget move root) = shownModifiers context := rfl
  have receiver : (renderPropertyReceiver (context.retarget move root) detail.receiver inSummary
        declaration.fromJava sourceSet : Except RenderError _) =
      List.map (ShownParameter.retarget move) <$>
        renderPropertyReceiver context detail.receiver inSummary declaration.fromJava
          sourceSet := by
    simp only [renderPropertyReceiver, Context.dialect_retarget, parameters]
    cases context.dialect <;> rfl
  simp only [renderProperty, renderDeclaredType, attempt_eq, modifiers, types, receiver,
    declarationAnnotations, map_bind, bind_map_left, Context.dialect_retarget,
    Context.shownAnnotations_retarget]
  refine bind_congr fun modifiers => ?_
  refine bind_congr fun type => ?_
  refine bind_congr fun receivers => ?_
  refine bind_congr fun annotations => congrArg Except.ok ?_
  simp [PropertySignature.retarget, Context.declarationName, Context.retarget, Link.retarget]

/-- **A signature is that of the other context with its targets moved**, and fails if that does,
for the same reason. -/
theorem signatureOf_retarget (declaration : Declaration) (inSummary : Bool)
    (sourceSet : SourceSet) :
    signatureOf (context.retarget move root) declaration inSummary sourceSet =
      Signature.retarget move <$> signatureOf context declaration inSummary sourceSet := by
  unfold signatureOf renderSignature
  split
  · rw [renderFunction_retarget root context stays, Functor.map_map, Functor.map_map]
    rfl
  · rw [renderProperty_retarget root context stays, Functor.map_map, Functor.map_map]
    rfl

end

end

end Diglot
