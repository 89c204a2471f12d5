import Diglot.Proofs.KotlinAliases

/-!
# What a rendering takes from a source set

Annotations, modifiers and default values are kept by the names of source sets. A rendering
looks at a source set only to find them, so source sets with the same name show the same,
whatever platforms they are for.

* `typeOf_sourceSet` — types, at every depth.
* `signatureOf_sourceSet` — signatures.
-/

namespace Diglot

section

variable {context : Context}

/-! ## Types -/

/-- A function type is shown alike from two source sets if its parts are, and the annotations of
the request are the same. -/
theorem lambdaOf_sourceSet {request : TypeRequest} {s : SourceSet}
    (annotations : { request with sourceSet := s }.annotations = request.annotations)
    {form : TypeUse} {parts : LambdaParts} (split : form.lambdaParts = .ok parts)
    (types : ∀ inner : TypeRequest, inner.type.nodes < form.nodes →
      inner.sourceSet = request.sourceSet →
        typeOf context { inner with sourceSet := s } = typeOf context inner)
    (named : s.name = request.sourceSet.name) :
    lambdaOf context { request with sourceSet := s } form parts =
      lambdaOf context request form parts := by
  obtain ⟨smallReceiver, smallParameter, smallReturn⟩ := TypeUse.nodes_lambdaParts_lt split
  have receiver : (parts.receiver.mapM fun type =>
        typeOf context { type, fromJava := false, sourceSet := s }) =
      parts.receiver.mapM fun type =>
        typeOf context { type, fromJava := false, sourceSet := request.sourceSet } := by
    cases found : parts.receiver with
    | none => rfl
    | some type =>
      rw [Option.mapM_some, Option.mapM_some]
      exact congrArg _ (types { type, fromJava := false, sourceSet := request.sourceSet }
        (smallReceiver type found) rfl)
  have parameters : (parts.parameters.mapM' fun type => lambdaParameterOf context type s) =
      parts.parameters.mapM' fun type => lambdaParameterOf context type request.sourceSet := by
    refine mapM'_congr fun type mem => ?_
    have requested : TypeRequest.forLambdaParameter type false s =
        { TypeRequest.forLambdaParameter type false request.sourceSet with sourceSet := s } := by
      simp only [TypeRequest.forLambdaParameter, named]
    have shown := types (.forLambdaParameter type false request.sourceSet)
      (smallParameter type mem) rfl
    rw [← requested] at shown
    unfold lambdaParameterOf renderLambdaParameter
    refine (congrArg (· >>= _) shown).trans (bind_congr fun type => ?_)
    simp only [Context.lambdaParameter, TypeRequest.forLambdaParameter, named]
  have returned := fun imposed => types
    { type := parts.returnType, fromJava := false, sourceSet := request.sourceSet, imposed }
    smallReturn rfl
  have nullability : { request with sourceSet := s }.nullability context.dialect form =
      request.nullability context.dialect form := rfl
  simp only [lambdaOf, receiver, parameters, annotations, returned, nullability]

variable (context)

/-- **Types are shown alike from source sets with the same name.** -/
theorem typeOf_sourceSet (request : TypeRequest) {s : SourceSet}
    (named : s.name = request.sourceSet.name) :
    typeOf context { request with sourceSet := s } = typeOf context request := by
  -- everything that is shown on the way has fewer nodes, and is seen from the same source set
  induction size : request.type.nodes using Nat.strongRecOn generalizing request with
  | ind size ih =>
    subst size
    have annotations : { request with sourceSet := s }.annotations = request.annotations := by
      simp only [TypeRequest.annotations, named]
    have arguments : shownArguments context { request with sourceSet := s } =
        shownArguments context request :=
      mapM'_congr fun argument mem => ih _ (TypeUse.nodes_lt_of_mem_writtenArguments mem)
        (request.forArgument argument) named rfl
    have form : context.writtenForm { request with sourceSet := s } =
        context.writtenForm request := rfl
    rw [typeOf_eq, typeOf_eq context request, arguments, form]
    refine congrArg _ (funext fun arguments => ?_)
    cases written : context.writtenForm request with
    | error e => rfl
    | ok form =>
      have le := context.nodes_writtenForm_le written
      change shownBelow context { request with sourceSet := s } arguments form =
        shownBelow context request arguments form
      by_cases leaf : form.isWrapper = false
      · rw [shownBelow_of_not_isWrapper leaf, shownBelow_of_not_isWrapper leaf]
        have lambda :
            form.lambdaParts.bind (lambdaOf context { request with sourceSet := s } form) =
              form.lambdaParts.bind (lambdaOf context request form) := by
          cases split : form.lambdaParts with
          | error e => simp only [Except.bind]
          | ok parts =>
            refine lambdaOf_sourceSet annotations split (fun inner lt seen => ?_) named
            exact ih _ (Nat.lt_of_lt_of_le lt le) inner (by rw [seen, named]) rfl
        have nullability : { request with sourceSet := s }.nullability context.dialect form =
            request.nullability context.dialect form := rfl
        unfold shownForm renderFormBy
        simp only [renderLambdaBy_eq, lambda, annotations, nullability]
      · cases form with
        | nullable inner => exact ih _ le (request.forNullable inner) named rfl
        | projected variance inner => exact ih _ le (request.forProjected inner) named rfl
        | aliased _ inner =>
          have lt := Nat.lt_of_lt_of_le (TypeUse.nodes_lt_of_inside? rfl) le
          exact ih _ lt (request.forAliased inner) named rfl
        | classRef | parameter | primitive | javaObject | void | star | dynamic | unresolved
        | nonNull => exact absurd rfl leaf

/-! ## Signatures -/

variable {s t : SourceSet} (named : s.name = t.name)

include named

/-- Parameters and receivers are shown alike from source sets with the same name. -/
theorem parameterOf_sourceSet (parameter : Parameter) (inSummary fromJava : Bool) :
    parameterOf context parameter inSummary fromJava s =
      parameterOf context parameter inSummary fromJava t := by
  have types := fun type carried imposed => typeOf_sourceSet context
    { type, fromJava, sourceSet := t, carried, imposed } named
  unfold typeOf at types
  simp only [parameterOf, renderParameter, Parameter.shownDefault, named, types]

/-- Type parameters are shown alike from source sets with the same name. -/
theorem renderTypeParameter_sourceSet (parameter : TypeParameter) (fromJava : Bool) :
    (renderTypeParameter context parameter fromJava s : Except RenderError _) =
      renderTypeParameter context parameter fromJava t := by
  have types := fun type imposed => typeOf_sourceSet context
    { type, fromJava, sourceSet := t, imposed } named
  unfold typeOf at types
  simp only [renderTypeParameter, types]

/-- The type of a declaration is shown alike from source sets with the same name. -/
theorem declaredTypeOf_sourceSet (declaration : Declaration) (type : TypeUse) (isReturn : Bool) :
    declaredTypeOf context declaration type s isReturn =
      declaredTypeOf context declaration type t isReturn := by
  have requested : declaredRequest context declaration type s isReturn =
      { declaredRequest context declaration type t isReturn with sourceSet := s } := by
    simp only [declaredRequest, named]
  rw [declaredTypeOf_eq, declaredTypeOf_eq, requested]
  exact typeOf_sourceSet context _ named

/-- **Source sets with the same name have the same signature.** -/
theorem signatureOf_sourceSet (declaration : Declaration) (inSummary : Bool) :
    signatureOf context declaration inSummary s = signatureOf context declaration inSummary t := by
  have types := declaredTypeOf_sourceSet context named declaration
  have parameters := fun parameter =>
    parameterOf_sourceSet context named parameter inSummary declaration.fromJava
  have typeParameters := fun parameter =>
    renderTypeParameter_sourceSet context named parameter declaration.fromJava
  unfold declaredTypeOf at types
  unfold parameterOf at parameters
  unfold signatureOf renderSignature
  split
  · simp only [renderFunction, shownModifiers, declarationAnnotations, named, types, parameters,
      typeParameters]
  · simp only [renderProperty, renderPropertyReceiver, shownModifiers, declarationAnnotations,
      named, types, parameters]

end

end Diglot
