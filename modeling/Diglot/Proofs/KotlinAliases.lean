import Diglot.Proofs.Expansion

/-!
# Aliases in Kotlin

Kotlin converts a type without a look below aliases, and then shows what they stand for.

* `TypeUse.SameFace`, `shownForm_of_sameFace` — forms that differ in their parts only are shown
  alike if their parts are.
* `TypeUse.isTransparentInKotlin` — types in which no rule looks at a shape that an alias changes.
* `typeOf_aliased_kotlin`, `typeOf_nullable_kotlin`, `typeOf_projected_of_isBare` — one equation
  for each wrapper.
* `showsAlike_expand_kotlin` — a transparent type is shown as the expanded one is.

What is an argument of a function type is converted beforehand, with the function type; an alias
keeps the conversion from it. That makes no difference for steady types.
-/

namespace Diglot

/-! ## Function types, part by part -/

/-- What is shown of a function type with the given parts. -/
def lambdaOf (context : Context) (request : TypeRequest) (form : TypeUse) (parts : LambdaParts) :
    Except RenderError ShownType := do
  let receiver ← parts.receiver.mapM fun type =>
    typeOf context { type, fromJava := false, sourceSet := request.sourceSet }
  let parameters ← parts.parameters.mapM' fun type =>
    lambdaParameterOf context type request.sourceSet
  let implied := form.nullability context.dialect none []
  let returnType ← typeOf context
    { type := parts.returnType, fromJava := false, sourceSet := request.sourceSet,
      imposed := some implied }
  let isSuspend ← form.isSuspending
  let own := request.nullability context.dialect form
  let stated := form.nullability context.dialect (some false) request.annotations
  let annotations ← context.shownAnnotations request.annotations (stated.or (some own))
  pure (.lambda ⟨own, context.dialect, annotations⟩ isSuspend receiver parameters returnType)

/-- **A function type is shown by its parts**, or fails if it cannot be split. -/
theorem renderLambdaBy_eq (context : Context) (request : TypeRequest) (form : TypeUse) :
    renderLambdaBy context request form (fun inner _ => typeOf context inner) =
      form.lambdaParts.bind (lambdaOf context request form) := by
  unfold renderLambdaBy
  split
  · rename_i e split
    rw [split]
    rfl
  · rename_i parts split
    have parameters := mapM'_attach parts.parameters fun type =>
      lambdaParameterOf context type request.sourceSet
    simp only [renderReceiverBy_eq]
    rw [split, Except.bind, lambdaOf]
    refine bind_congr fun receiver => ?_
    rw [← parameters]
    refine bind_congr fun shownParameters => ?_
    refine bind_congr fun returnType => ?_
    rw [attempt_eq]
    refine bind_congr fun isSuspend => ?_
    rw [attempt_eq]

section

variable {context : Context}

/-- Two forms that differ in their parts only: whatever else is shown of them is the same. -/
structure TypeUse.SameFace (context : Context) (form form' : TypeUse) : Prop where
  /-- they have the same nullability -/
  nullability : ∀ fromJava carried,
    form'.nullability .kotlin fromJava carried = form.nullability .kotlin fromJava carried
  /-- the same nullability decides on their annotations -/
  annotated : annotatedNullability form' = annotatedNullability form
  /-- both are function types, or neither is -/
  isFunctionType : form'.isFunctionType = form.isFunctionType
  /-- both suspend, or neither does -/
  isSuspending : form'.isSuspending = form.isSuspending
  /-- they have the same name -/
  typeLink : context.typeLink "" form' = context.typeLink "" form
  /-- they have the same mutable counterpart -/
  mutableLink? : ∀ fromJava,
    context.mutableLink? fromJava form' = context.mutableLink? fromJava form
  /-- they are shown with the same type arguments -/
  beside : argumentsBeside form' = argumentsBeside form

/-- **Forms with the same face** are shown alike if their parts are. -/
theorem shownForm_of_sameFace (kotlin : context.dialect = .kotlin) (request : TypeRequest)
    {form form' : TypeUse}
    (same : form.SameFace context form') (arguments : List ShownType) {type : TypeUse}
    (annotations : { request with type }.annotations = request.annotations)
    (parts : form.isFunctionType = .ok true →
      form'.lambdaParts.bind (lambdaOf context { request with type } form') =
        form.lambdaParts.bind (lambdaOf context request form)) :
    shownForm context { request with type } arguments form' =
      shownForm context request arguments form := by
  have nullability : { request with type }.nullability .kotlin form' =
      request.nullability .kotlin form := by
    rw [TypeRequest.nullability, same.nullability]
    rfl
  unfold shownForm renderFormBy
  simp only [kotlin, attempt_eq, renderLambdaBy_eq, same.annotated, same.isFunctionType,
    same.typeLink, same.mutableLink?, same.beside, annotations, nullability]
  refine bind_congr fun shownAnnotations => ?_
  cases function : form.isFunctionType with
  | error e => rfl
  | ok isFunction =>
    cases isFunction with
    | false => rfl
    | true => exact parts function

end

/-! ## Parts -/

/-- The parts, each changed in the same way. -/
def LambdaParts.map (f : TypeUse → TypeUse) (parts : LambdaParts) : LambdaParts :=
  ⟨parts.receiver.map f, parts.parameters.map f, f parts.returnType⟩

/-- A function type with changed arguments has changed parts. -/
theorem TypeUse.lambdaParts_map (head : ClassHead) (arguments : List TypeUse)
    (f : TypeUse → TypeUse) :
    (classRef head (arguments.map f)).lambdaParts =
      (classRef head arguments).lambdaParts.map (LambdaParts.map f) := by
  simp only [lambdaParts, withoutNonNull, List.getLast?_map, ← List.map_dropLast]
  cases arguments.getLast? with
  | none => rfl
  | some last =>
    cases head.form with
    | generic => cases arguments.dropLast <;> rfl
    | functional isExtension isSuspend =>
      cases isExtension <;> cases arguments.dropLast <;> rfl

/-- Two types of which the same is shown wherever there are no annotations beside them. -/
def Context.ShowsAlike (context : Context) (sourceSet : SourceSet) (a b : TypeUse) : Prop :=
  ∀ request : TypeRequest, request.carried = [] → request.shownElsewhere = [] →
    request.sourceSet = sourceSet →
      typeOf context { request with type := b } = typeOf context { request with type := a }

section

variable {context : Context}

/-- **A parameter without annotations** is shown with its type only. -/
theorem lambdaParameterOf_of_isBare (kotlin : context.dialect = .kotlin) {type : TypeUse}
    (bare : type.isBare = true) (sourceSet : SourceSet) :
    lambdaParameterOf context type sourceSet =
      (typeOf context { type, fromJava := false, sourceSet }).map fun shown =>
        ⟨"", shown, none, [], [], context.dialect⟩ := by
  have own : type.annotationsAt sourceSet.name = [] :=
    TypeUse.annotationsAt_of_isBare sourceSet.name type bare
  have request : TypeRequest.forLambdaParameter type false sourceSet =
      { type, fromJava := false, sourceSet } := by
    rw [TypeRequest.forLambdaParameter, own]
    rfl
  have parameter : ∀ shown, context.lambdaParameter type false sourceSet shown =
      .ok ⟨"", shown, none, [], [], context.dialect⟩ := by
    intro shown
    unfold Context.lambdaParameter
    rw [request, context.shownAnnotations_kotlin kotlin]
    cases type with
    | classRef head arguments =>
      simp only [TypeUse.isBare, Bool.and_eq_true, Option.isNone_iff_eq_none] at bare
      simp only [bare.1.2, Context.visibleAnnotations, Context.shownAnnotations, kotlin]
      rfl
    | parameter | primitive | javaObject | void | star | dynamic | unresolved | nullable
    | nonNull | projected | aliased =>
      simp only [Context.visibleAnnotations, Context.shownAnnotations, kotlin]
      rfl
  rw [lambdaParameterOf, renderLambdaParameter, request]
  simp only [attempt_eq, parameter]
  rfl

variable {request : TypeRequest} {form form' : TypeUse}

/-- **Function types are shown alike** if their parts are, and have no annotations. -/
theorem lambdaOf_map_congr (kotlin : context.dialect = .kotlin)
    (same : form.SameFace context form') {type : TypeUse}
    (annotations : { request with type }.annotations = request.annotations)
    {f g : TypeUse → TypeUse} {parts : LambdaParts} {types : List TypeUse}
    (receiverMem : ∀ a ∈ parts.receiver, a ∈ types)
    (parameterMem : ∀ a ∈ parts.parameters, a ∈ types) (returnMem : parts.returnType ∈ types)
    (bare : ∀ a ∈ types, (f a).isBare = true ∧ (g a).isBare = true)
    (alike : ∀ a ∈ types, context.ShowsAlike request.sourceSet (f a) (g a)) :
    lambdaOf context { request with type } form' (parts.map g) =
      lambdaOf context request form (parts.map f) := by
  have each : ∀ (a : TypeUse) (imposed : Option Nullability), a ∈ types →
      typeOf context
          { type := g a, fromJava := false, sourceSet := request.sourceSet, imposed } =
        typeOf context
          { type := f a, fromJava := false, sourceSet := request.sourceSet, imposed } := by
    intro a imposed mem
    exact alike a mem { type := f a, fromJava := false, sourceSet := request.sourceSet, imposed }
      rfl rfl rfl
  have receiver : ((parts.receiver.map g).mapM fun type =>
        typeOf context { type, fromJava := false, sourceSet := request.sourceSet }) =
      (parts.receiver.map f).mapM fun type =>
        typeOf context { type, fromJava := false, sourceSet := request.sourceSet } := by
    cases receiver : parts.receiver with
    | none => rfl
    | some a =>
      have shown := each a none (receiverMem a receiver)
      simp only [Option.map_some, Option.mapM_some, shown]
  have parameters : ((parts.parameters.map g).mapM' fun type =>
        lambdaParameterOf context type request.sourceSet) =
      (parts.parameters.map f).mapM' fun type =>
        lambdaParameterOf context type request.sourceSet := by
    refine mapM'_map_congr fun a mem => ?_
    have memTypes := parameterMem a mem
    rw [lambdaParameterOf_of_isBare kotlin (bare a memTypes).1,
      lambdaParameterOf_of_isBare kotlin (bare a memTypes).2, each a none memTypes]
  have nullability : { request with type }.nullability .kotlin form' =
      request.nullability .kotlin form := by
    rw [TypeRequest.nullability, same.nullability]
    rfl
  unfold lambdaOf
  simp only [LambdaParts.map, kotlin, same.nullability, same.isSuspending, annotations,
    nullability, receiver, parameters, each _ _ returnMem]

/-- **Function types are shown alike** if the arguments of the class that they are made of are, and
have no annotations. -/
theorem lambdaParts_bind_congr (kotlin : context.dialect = .kotlin)
    (same : form.SameFace context form') {type : TypeUse}
    (annotations : { request with type }.annotations = request.annotations)
    (f g : TypeUse → TypeUse) (head : ClassHead) (arguments : List TypeUse)
    (written : form.lambdaParts = (TypeUse.classRef head (arguments.map f)).lambdaParts)
    (written' : form'.lambdaParts = (TypeUse.classRef head (arguments.map g)).lambdaParts)
    (bare : ∀ a ∈ arguments, (f a).isBare = true ∧ (g a).isBare = true)
    (alike : ∀ a ∈ arguments, context.ShowsAlike request.sourceSet (f a) (g a)) :
    form'.lambdaParts.bind (lambdaOf context { request with type } form') =
      form.lambdaParts.bind (lambdaOf context request form) := by
  rw [written, written', TypeUse.lambdaParts_map, TypeUse.lambdaParts_map]
  cases split : (TypeUse.classRef head arguments).lambdaParts with
  | error e => rfl
  | ok parts =>
    obtain ⟨receiver, parameter, returned⟩ := TypeUse.mem_writtenArguments_of_lambdaParts split
    exact lambdaOf_map_congr kotlin same annotations receiver parameter returned bare alike

end

namespace TypeUse

variable {context : Context}

/-- References to one class have the same face. -/
theorem sameFace_classRef (head : ClassHead) (arguments arguments' : List TypeUse) :
    (classRef head arguments).SameFace context (classRef head arguments') where
  nullability _ _ := by simp [nullability, canBeNull, statedNullability, leadingAnnotations]
  annotated := rfl
  isFunctionType := rfl
  isSuspending := rfl
  typeLink := rfl
  mutableLink? _ := rfl
  beside := rfl

/-- Below `T & Any` an expanded type is what is expanded there. -/
theorem withoutNonNull_expand : ∀ type : TypeUse, type.namesAlias = false →
    type.expand.withoutNonNull = type.withoutNonNull.expand ∧
      type.withoutNonNull.namesAlias = false
  | nonNull inner, named => withoutNonNull_expand inner named
  | aliased .., named => by cases named
  | classRef .., named | parameter _, named | primitive _, named | javaObject _, named
  | void, named | star, named | dynamic, named | unresolved _, named | nullable _, named
  | projected .., named => ⟨rfl, named⟩

/-- A type that is not named by an alias has the name of the expanded type. -/
theorem typeLink_expand : ∀ (type : TypeUse) (suffix : String), type.namesAlias = false →
    context.typeLink suffix type.expand = context.typeLink suffix type
  | nullable inner, _, named => typeLink_expand inner "?" named
  | nonNull inner, _, named => typeLink_expand inner "" named
  | aliased .., _, named => by cases named
  | classRef .., _, _ | parameter _, _, _ | primitive _, _, _ | javaObject _, _, _ | void, _, _
  | star, _, _ | dynamic, _, _ | unresolved _, _, _ | projected .., _, _ => rfl

/-- `T & Any` has the face of the expanded type, unless an alias names it. -/
theorem sameFace_nonNull_expand {inner : TypeUse} (named : inner.namesAlias = false) :
    (nonNull inner).SameFace context (nonNull inner.expand) := by
  obtain ⟨below, notAlias⟩ := withoutNonNull_expand inner named
  have suspending : (nonNull inner.expand).isSuspending = (nonNull inner).isSuspending := by
    simp only [isSuspending, withoutNonNull, below]
    generalize inner.withoutNonNull = core at notAlias
    cases core <;> first | rfl | cases notAlias
  refine ⟨fun fromJava carried => ?_, rfl, ?_, suspending, typeLink_expand _ "" named,
    fun _ => rfl, rfl⟩
  · simp [nullability, canBeNull]
  · rw [isFunctionType, isFunctionType, suspending]
    simp only [withoutNonNull, below]
    generalize inner.withoutNonNull = core at notAlias
    cases core <;> first | rfl | cases notAlias

/-! ## Transparent types -/

/-- Whether Kotlin takes references to a class for function types. -/
def isFunctionHead (head : ClassHead) : Bool :=
  match (renamedToKotlin head []).isFunctionType with
  | .ok isFunction => isFunction
  | .error _ => false

mutual

/-- **Types with aliases that Kotlin does not see.** No alias gives `T & Any` its name, or makes an
array one that is not known as an array of Java primitives; and what stands for an argument of a
function type can be converted beforehand. -/
def isTransparentInKotlin (context : Context) (sourceSet : String) : TypeUse → Bool
  | classRef head arguments =>
    (primitiveArray? head (expandList arguments) = primitiveArray? head arguments) &&
      (!isFunctionHead head ||
        arguments.all fun a => a.expand = a || a.expand.isSteady context sourceSet) &&
      isTransparentInKotlinList context sourceSet arguments
  | nullable inner => inner.isTransparentInKotlin context sourceSet
  | nonNull inner => !inner.namesAlias && inner.isTransparentInKotlin context sourceSet
  | projected _ inner => inner.isTransparentInKotlin context sourceSet
  | aliased _ inner => inner.isTransparentInKotlin context sourceSet
  | _ => true

/-- Whether every type of a list is transparent in Kotlin. -/
def isTransparentInKotlinList (context : Context) (sourceSet : String) : List TypeUse → Bool
  | [] => true
  | first :: rest =>
    first.isTransparentInKotlin context sourceSet &&
      isTransparentInKotlinList context sourceSet rest

end

variable {sourceSet : String}

theorem isTransparentInKotlinList_iff {types : List TypeUse} :
    isTransparentInKotlinList context sourceSet types = true ↔
      ∀ type ∈ types, type.isTransparentInKotlin context sourceSet = true := by
  induction types with
  | nil => simp [isTransparentInKotlinList]
  | cons first rest ih => simp [isTransparentInKotlinList, ih]

theorem isTransparentInKotlin_of_mem_writtenArguments {argument : TypeUse} (type : TypeUse)
    (transparent : type.isTransparentInKotlin context sourceSet = true)
    (mem : argument ∈ type.writtenArguments) :
    argument.isTransparentInKotlin context sourceSet = true := by
  refine of_mem_writtenArguments
    (P := fun type => type.isTransparentInKotlin context sourceSet = true) ?_ ?_ type transparent
    argument mem
  · intro type inner inside transparent
    cases type <;> cases inside <;> first
      | exact transparent
      | exact (Bool.and_eq_true_iff.mp transparent).2
  · intro head arguments transparent
    simp only [isTransparentInKotlin, Bool.and_eq_true] at transparent
    exact isTransparentInKotlinList_iff.mp transparent.2

/-- What becomes a Java primitive is one under variance, and so it is once it is expanded. -/
theorem toKotlin_expand_of_primitive {name : String} : ∀ type : TypeUse,
    type.toKotlin = primitive name → type.expand.toKotlin = primitive name
  | projected _ inner, converted => toKotlin_expand_of_primitive inner converted
  | primitive _, converted => converted
  | classRef head arguments, converted => by
    rw [toKotlin] at converted
    split at converted <;> cases converted

mutual

/-- **What is steady once it is expanded** was steady. -/
theorem isSteady_of_expand : ∀ type : TypeUse, type.isBare = true →
    type.expand.isSteady context sourceSet = true → type.isSteady context sourceSet = true
  | classRef head arguments, bare, steady => by
    simp only [isBare, Bool.and_eq_true] at bare
    simp only [expand, isSteady, Bool.and_eq_true, Option.isNone_iff_eq_none] at steady ⊢
    refine ⟨?_, isSteadyList_of_expandList arguments bare.2 steady.2⟩
    cases found : primitiveArray? head (toKotlinList arguments) with
    | none => rfl
    | some element =>
      obtain ⟨-, name, only, -⟩ := primitiveArray?_eq_some found
      rw [toKotlinList_eq_map] at only
      obtain ⟨argument, rfl, converted⟩ := List.map_eq_singleton_iff.mp only
      have expanded : toKotlinList (expandList [argument]) = [primitive name] := by
        rw [expandList, toKotlinList, toKotlin_expand_of_primitive argument converted]
        rfl
      rw [expanded, ← only, ← toKotlinList_eq_map, found] at steady
      cases steady.1
  | projected _ inner, bare, steady => by
    simp only [expand, isSteady, Bool.and_eq_true] at steady ⊢
    refine ⟨isSteady_of_expand inner bare steady.1, ?_⟩
    rw [annotationsAt_of_isBare sourceSet inner bare, List.all_nil, Bool.or_true]
  | nullable _, _, _ | nonNull _, _, _ | aliased .., _, _ | parameter _, _, _ | primitive _, _, _
  | javaObject _, _, _ | void, _, _ | star, _, _ | dynamic, _, _ | unresolved _, _, _ => rfl

theorem isSteadyList_of_expandList : ∀ types : List TypeUse, isBareList types = true →
    isSteadyList context sourceSet (expandList types) = true →
      isSteadyList context sourceSet types = true
  | [], _, _ => rfl
  | first :: rest, bare, steady => by
    simp only [isBareList, Bool.and_eq_true] at bare
    simp only [expandList, isSteadyList, Bool.and_eq_true] at steady ⊢
    exact ⟨isSteady_of_expand first bare.1 steady.1,
      isSteadyList_of_expandList rest bare.2 steady.2⟩

end

mutual

theorem isBare_toKotlin : ∀ type : TypeUse, type.isBare = true → type.toKotlin.isBare = true
  | classRef head arguments, bare => by
    simp only [isBare, Bool.and_eq_true] at bare
    rw [toKotlin]
    split
    · simp only [arrayToKotlin, isBare, isBareList, Bool.and_eq_true]
      exact ⟨bare.1, trivial⟩
    · simp only [renamedToKotlin, isBare, Bool.and_eq_true]
      exact ⟨bare.1, isBareList_toKotlinList arguments bare.2⟩
  | projected _ inner, bare => isBare_toKotlin inner bare
  | nullable _, bare | nonNull _, bare | aliased .., bare | parameter _, bare
  | javaObject _, bare => bare
  | primitive _, _ | void, _ | star, _ | dynamic, _ | unresolved _, _ => rfl

theorem isBareList_toKotlinList : ∀ types : List TypeUse, isBareList types = true →
    isBareList (toKotlinList types) = true
  | [], _ => rfl
  | first :: rest, bare => by
    simp only [isBareList, Bool.and_eq_true] at bare
    simp only [toKotlinList, isBareList, Bool.and_eq_true]
    exact ⟨isBare_toKotlin first bare.1, isBareList_toKotlinList rest bare.2⟩

end

end TypeUse

/-! ## Expansion -/

section

variable {context : Context}

/-- **Kotlin looks below an alias as if it were not there.** -/
theorem typeOf_aliased_kotlin (kotlin : context.dialect = .kotlin) (request : TypeRequest)
    (named inner : TypeUse) :
    typeOf context { request with type := .aliased named inner } =
      typeOf context { request with type := inner } := by
  rw [typeOf_kotlin kotlin]
  change (shownArguments context { request with type := inner }).bind
      (fun _ => typeOf context { request with type := inner }) = _
  -- if the type arguments fail, so does what is below
  cases arguments : shownArguments context { request with type := inner } with
  | error e =>
    rw [typeOf_kotlin kotlin, arguments]
    rfl
  | ok shown => rfl

/-- Kotlin looks below nullability, and remembers it. -/
theorem typeOf_nullable_kotlin (kotlin : context.dialect = .kotlin) (request : TypeRequest)
    (inner : TypeUse) :
    typeOf context { request with type := .nullable inner } =
      typeOf context (request.forNullable inner) := by
  rw [typeOf_kotlin kotlin]
  change (shownArguments context (request.forNullable inner)).bind
      (fun _ => typeOf context (request.forNullable inner)) = _
  cases arguments : shownArguments context (request.forNullable inner) with
  | error e =>
    rw [typeOf_kotlin kotlin, arguments]
    rfl
  | ok shown => rfl

/-- Kotlin shows a bare type under variance as it does alone: there are no annotations to hide. -/
theorem typeOf_projected_of_isBare (kotlin : context.dialect = .kotlin) (request : TypeRequest)
    {inner : TypeUse} (bare : inner.isBare = true) (variance : Variance) :
    typeOf context { request with type := .projected variance inner } =
      typeOf context { request with type := inner } := by
  refine typeOf_of_toKotlin_eq kotlin { request with type := inner } rfl rfl fun _ => ?_
  have own := TypeUse.annotationsAt_of_isBare request.sourceSet.name inner bare
  simp only [TypeRequest.annotations, own]
  rfl

/-- The parts of a function type below `T & Any` are shown alike if they are transparent. -/
theorem lambdaParts_nonNull_expand (kotlin : context.dialect = .kotlin) (request : TypeRequest)
    {inner type : TypeUse} (named : inner.namesAlias = false) (bare : inner.isBare = true)
    (alike : ∀ a ∈ inner.writtenArguments, context.ShowsAlike request.sourceSet a a.expand)
    (annotations : { request with type }.annotations = request.annotations) :
    (TypeUse.nonNull inner.expand).lambdaParts.bind
        (lambdaOf context { request with type } (.nonNull inner.expand)) =
      (TypeUse.nonNull inner).lambdaParts.bind (lambdaOf context request (.nonNull inner)) := by
  obtain ⟨below, notAlias⟩ := TypeUse.withoutNonNull_expand inner named
  cases core : inner.withoutNonNull with
  | classRef head arguments =>
    have whole : inner.writtenArguments = arguments := by
      rw [← inner.writtenArguments_withoutNonNull, core, TypeUse.writtenArguments]
    rw [whole] at alike
    refine lambdaParts_bind_congr kotlin (TypeUse.sameFace_nonNull_expand named) annotations
      id TypeUse.expand head arguments ?_ ?_ (fun a mem => ?_) alike
    · simp only [TypeUse.lambdaParts, TypeUse.withoutNonNull, core, List.map_id]
    · simp only [TypeUse.lambdaParts, TypeUse.withoutNonNull, below, core, TypeUse.expand,
        TypeUse.expandList_eq_map]
    · have bareArgument := TypeUse.isBare_of_mem_writtenArguments inner bare (whole ▸ mem)
      exact ⟨bareArgument, a.isBare_expand bareArgument⟩
  | aliased =>
    rw [core] at notAlias
    cases notAlias
  | parameter | primitive | javaObject | void | star | dynamic | unresolved | nullable | nonNull
  | projected =>
    simp only [TypeUse.lambdaParts, TypeUse.withoutNonNull, below, core, TypeUse.expand]
    rfl

/-- Steady types that are shown alike are shown alike if they are converted beforehand. -/
theorem showsAlike_toKotlin (kotlin : context.dialect = .kotlin) {sourceSet : SourceSet}
    {a b : TypeUse} (alike : context.ShowsAlike sourceSet a b)
    (steady : b.isSteady context sourceSet.name = true)
    (steady' : a.isSteady context sourceSet.name = true) :
    context.ShowsAlike sourceSet a.toKotlin b.toKotlin := by
  intro request carried elsewhere here
  subst here
  rw [typeOf_toKotlin kotlin b request steady, typeOf_toKotlin kotlin a request steady']
  exact alike request carried elsewhere rfl

/-- **A class with aliases among its arguments** is shown as the expanded one is, if its arguments
are. -/
theorem showsAlike_expand_classRef (kotlin : context.dialect = .kotlin) {sourceSet : SourceSet}
    {head : ClassHead} {parts : List TypeUse}
    (bare : (TypeUse.classRef head parts).isBare = true)
    (transparent :
      (TypeUse.classRef head parts).isTransparentInKotlin context sourceSet.name = true)
    (each : ∀ a ∈ parts, context.ShowsAlike sourceSet a a.expand) :
    context.ShowsAlike sourceSet (.classRef head parts) (TypeUse.classRef head parts).expand := by
  intro request carried elsewhere here
  subst here
  have arguments := shownArguments_expand { request with type := .classRef head parts } fun a mem =>
    each a mem (request.forArgument a) rfl rfl rfl
  have annotations := { request with type := TypeUse.classRef head parts }.annotations_expand bare
  simp only [TypeUse.isTransparentInKotlin, Bool.and_eq_true, decide_eq_true_eq,
    Bool.or_eq_true, Bool.not_eq_true'] at transparent
  obtain ⟨⟨array, steady⟩, -⟩ := transparent
  rw [typeOf_kotlin kotlin, typeOf_kotlin kotlin { request with type := .classRef head parts },
    arguments]
  refine congrArg (Except.bind _) (funext fun shown => ?_)
  dsimp only [TypeUse.expand]
  rw [TypeUse.toKotlin, TypeUse.toKotlin, array]
  cases known : TypeUse.primitiveArray? head parts with
  | some element => exact shownForm_congr kotlin rfl rfl (congrArg _ annotations) rfl
  | none =>
    refine shownForm_of_sameFace kotlin { request with type := .classRef head parts }
      (TypeUse.sameFace_classRef _ _ _) shown annotations fun function => ?_
    have isFunction : TypeUse.isFunctionHead head = true := by
      have same : (TypeUse.renamedToKotlin head []).isFunctionType = .ok true := function
      rw [TypeUse.isFunctionHead, same]
    have steady := steady.resolve_left (by rw [isFunction]; decide)
    refine lambdaParts_bind_congr kotlin (TypeUse.sameFace_classRef _ _ _) annotations
      TypeUse.toKotlin (fun a => a.expand.toKotlin)
      { head with identity := head.identity.toKotlin } parts ?_ ?_ (fun a mem => ?_)
      fun a mem => ?_
    · rw [← TypeUse.toKotlinList_eq_map]
    · rw [TypeUse.toKotlinList_eq_map, TypeUse.expandList_eq_map, List.map_map]
      rfl
    · have bareArgument := TypeUse.isBare_of_mem_writtenArguments _ bare mem
      exact ⟨a.isBare_toKotlin bareArgument,
        a.expand.isBare_toKotlin (a.isBare_expand bareArgument)⟩
    · have bareArgument := TypeUse.isBare_of_mem_writtenArguments _ bare mem
      have fits := List.all_eq_true.mp steady a mem
      simp only [Bool.or_eq_true, decide_eq_true_eq] at fits
      rcases fits with free | steadyArgument
      · -- without aliases there is nothing to show
        intro request' _ _ _
        rw [free]
      · exact showsAlike_toKotlin kotlin (each a mem) steadyArgument
          (a.isSteady_of_expand bareArgument steadyArgument)

/-- `T & Any` is shown as the expanded one is, if the arguments are and no alias names it. -/
theorem showsAlike_expand_nonNull (kotlin : context.dialect = .kotlin) {sourceSet : SourceSet}
    {inner : TypeUse} (bare : inner.isBare = true) (named : inner.namesAlias = false)
    (each : ∀ a ∈ inner.writtenArguments, context.ShowsAlike sourceSet a a.expand) :
    context.ShowsAlike sourceSet (.nonNull inner) (TypeUse.nonNull inner).expand := by
  intro request carried elsewhere here
  subst here
  have arguments := shownArguments_expand { request with type := .nonNull inner } fun a mem =>
    each a mem (request.forArgument a) rfl rfl rfl
  have annotations := { request with type := TypeUse.nonNull inner }.annotations_expand bare
  rw [typeOf_kotlin kotlin, typeOf_kotlin kotlin { request with type := .nonNull inner }, arguments]
  refine congrArg (Except.bind _) (funext fun shown => ?_)
  refine shownForm_of_sameFace kotlin { request with type := .nonNull inner }
    (TypeUse.sameFace_nonNull_expand named) shown annotations fun _ => ?_
  -- below `T & Any` nothing is converted, so the parts are the arguments as written
  exact lambdaParts_nonNull_expand kotlin { request with type := .nonNull inner } named bare each
    annotations

/-- **Kotlin shows a transparent type as it shows the expanded type**, or fails as it does
there. -/
theorem showsAlike_expand_kotlin (kotlin : context.dialect = .kotlin) {sourceSet : SourceSet}
    (type : TypeUse) (bare : type.isBare = true)
    (transparent : type.isTransparentInKotlin context sourceSet.name = true) :
    context.ShowsAlike sourceSet type type.expand := by
  induction type using TypeUse.induct_inside with
  | step type ofArgument below =>
    have each : ∀ a ∈ type.writtenArguments, context.ShowsAlike sourceSet a a.expand :=
      fun a mem => ofArgument a mem (TypeUse.isBare_of_mem_writtenArguments type bare mem)
        (TypeUse.isTransparentInKotlin_of_mem_writtenArguments type transparent mem)
    cases type with
    | aliased named inner =>
      have inside := below inner rfl bare transparent
      intro request carried elsewhere here
      rw [typeOf_aliased_kotlin kotlin]
      exact inside request carried elsewhere here
    | nullable inner =>
      have inside := below inner rfl bare transparent
      intro request carried elsewhere here
      rw [typeOf_nullable_kotlin kotlin, TypeUse.expand, typeOf_nullable_kotlin kotlin]
      exact inside (request.forNullable inner) carried elsewhere here
    | projected variance inner =>
      have inside := below inner rfl bare transparent
      rw [TypeUse.isBare] at bare
      intro request carried elsewhere here
      rw [typeOf_projected_of_isBare kotlin request bare, TypeUse.expand,
        typeOf_projected_of_isBare kotlin request (inner.isBare_expand bare)]
      exact inside request carried elsewhere here
    | nonNull inner =>
      simp only [TypeUse.isTransparentInKotlin, Bool.and_eq_true, Bool.not_eq_true'] at transparent
      exact showsAlike_expand_nonNull kotlin bare transparent.1 each
    | classRef head parts => exact showsAlike_expand_classRef kotlin bare transparent each
    | parameter | primitive | javaObject | void | star | dynamic | unresolved =>
      exact fun _ _ _ _ => rfl

end

end Diglot
