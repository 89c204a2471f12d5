import Diglot.Proofs.Outcome

/-!
# How a type is shown

Without a memo, a type is shown in steps. Its type arguments are shown as they are written
(`shownArguments`), the type is brought into the form that the language of the display writes
(`Context.writtenForm`), and then either what is inside a wrapper is shown or the form itself.

* `typeOf_eq` — the steps as one equation.
* `Face.Shows` — what the face of a form tells.
* `typeOf_induct_parts`, `typeOf_induct` — what all shown types have, from one case for each
  kind of step.
* `parameterRequest`, `declaredRequest` — what declarations request for their types.
-/

namespace Diglot

/-- A type as it is shown, without a memo. -/
def typeOf (context : Context) (request : TypeRequest) : Except RenderError ShownType :=
  renderType context request

/-- A parameter of a function type as it is shown, without a memo. -/
def lambdaParameterOf (context : Context) (type : TypeUse) (sourceSet : SourceSet) :
    Except RenderError ShownParameter :=
  renderLambdaParameter context type false sourceSet

/-! ## Steps -/

/-- A wrapper below which a type is looked for: nullability, variance or an alias. -/
def TypeUse.isWrapper : TypeUse → Bool
  | nullable _ | projected .. | aliased .. => true
  | _ => false

/-- The form in which the language of the display writes the requested type, converted on the
spot. -/
def Context.writtenForm (context : Context) (request : TypeRequest) :
    Except RenderError TypeUse :=
  match context.dialect with
  | .kotlin => .ok request.type.toKotlin
  | .java =>
    request.type.toJava ⟨request.isReturn, request.mustBox, context.config.qualifiedArrays⟩

theorem Context.writtenForm_kotlin {context : Context} (kotlin : context.dialect = .kotlin)
    (request : TypeRequest) : context.writtenForm request = .ok request.type.toKotlin := by
  rw [writtenForm, kotlin]

/-- The type arguments of the requested type, shown as they are written. -/
def shownArguments (context : Context) (request : TypeRequest) :
    Except RenderError (List ShownType) :=
  request.type.writtenArguments.mapM' fun argument =>
    typeOf context (request.forArgument argument)

/-- A form that is not a wrapper, shown with the given arguments. -/
def shownForm (context : Context) (request : TypeRequest) (arguments : List ShownType)
    (form : TypeUse) : Except RenderError ShownType :=
  renderFormBy context request arguments form fun inner _ => typeOf context inner

/-- What is shown once the arguments and the form are known. -/
def shownBelow (context : Context) (request : TypeRequest) (arguments : List ShownType) :
    TypeUse → Except RenderError ShownType
  | .nullable inner => typeOf context (request.forNullable inner)
  | .projected _ inner => typeOf context (request.forProjected inner)
  | .aliased _ inner => typeOf context (request.forAliased inner)
  | other => shownForm context request arguments other

theorem shownBelow_of_not_isWrapper {context : Context} {request : TypeRequest}
    {arguments : List ShownType} {form : TypeUse} (leaf : form.isWrapper = false) :
    shownBelow context request arguments form = shownForm context request arguments form := by
  cases form <;> first | rfl | cases leaf

/-- Members of a list are shown one by one, whether or not they are known to be members. -/
theorem mapM'_attach {α β : Type} (list : List α) (f : α → Except RenderError β) :
    (list.attach.mapM' fun a => f a.val) = list.mapM' f := by
  rw [List.mapM'_eq_mapM, List.mapM'_eq_mapM]
  change list.attach.mapM (f ∘ Subtype.val) = _
  rw [← List.mapM_map, List.attach_map_subtype_val]

/-- The form is converted on the spot. -/
theorem Context.form_eq (context : Context) (request : TypeRequest) :
    (context.form request : Except RenderError _).map Subtype.val =
      context.writtenForm request := by
  obtain ⟨dialect, config, link⟩ := context
  cases dialect with
  | kotlin => rfl
  | java =>
    simp only [Context.form, Context.writtenForm]
    split
    · rename_i found
      exact found.symm
    · rename_i found
      exact found.symm

/-- **The steps in which a type is shown.** -/
theorem typeOf_eq (context : Context) (request : TypeRequest) :
    typeOf context request =
      (shownArguments context request).bind fun arguments =>
        (context.writtenForm request).bind fun form =>
          shownBelow context request arguments form := by
  have arguments := mapM'_attach request.type.writtenArguments fun argument =>
    typeOf context (request.forArgument argument)
  unfold typeOf at arguments
  rw [typeOf, renderType, renderTypeBy, arguments, ← context.form_eq request]
  refine congrArg (Except.bind (shownArguments context request)) (funext fun shown => ?_)
  cases (context.form request : Except RenderError _) with
  | error e => rfl
  | ok found =>
    obtain ⟨form, le⟩ := found
    cases form <;> rfl

/-! ## What is shown of a form -/

/-- **What the face of a form tells**: the nullability of the request, and annotations of the
request. In Java that nullability decides on them as well. -/
structure Face.Shows (face : Face) (context : Context) (request : TypeRequest)
    (form : TypeUse) : Prop where
  /-- the form is the written one -/
  written : context.writtenForm request = .ok form
  /-- nothing is looked for below it -/
  leaf : form.isWrapper = false
  /-- the nullability is that of the request -/
  nullability : face.nullability = request.nullability context.dialect form
  /-- the face is one of the display -/
  dialect : face.dialect = context.dialect
  /-- the annotations are displayed annotations of the request -/
  annotations : ∃ decisive, context.shownAnnotations request.annotations decisive =
    .ok face.annotations ∧
      (context.dialect = .java → decisive = annotatedNullability form face.nullability)

/-- **What is shown of the parts of a function type.** -/
structure LambdaParts.Shows (parts : LambdaParts) (context : Context) (request : TypeRequest)
    (form : TypeUse) (receiver : Option ShownType) (parameters : List ShownParameter)
    (returnType : ShownType) : Prop where
  /-- the form is a function type with these parts -/
  split : form.lambdaParts = .ok parts
  /-- the receiver stands for itself -/
  receiver : (parts.receiver.mapM fun type =>
      typeOf context { type, fromJava := false, sourceSet := request.sourceSet }) =
    .ok receiver
  /-- so does each parameter -/
  parameters : (parts.parameters.mapM' fun type =>
      lambdaParameterOf context type request.sourceSet) = .ok parameters
  /-- what the type returns has the nullability of a type of unknown source imposed on it -/
  returnType : typeOf context
      { type := parts.returnType, fromJava := false, sourceSet := request.sourceSet,
        imposed := some (form.nullability context.dialect none []) } = .ok returnType

/-- The three things that can be shown of a form. -/
inductive ShownForm (context : Context) (request : TypeRequest) (arguments : List ShownType)
    (form : TypeUse) : ShownType → Prop where
  /-- a name with type arguments -/
  | plain {face : Face} {link : Link} (shows : face.Shows context request form)
      (named : context.typeLink "" form = .ok link) :
      ShownForm context request arguments form
        (.plain face link (argumentsBeside form arguments))
  /-- a collection from Java sources, in Kotlin -/
  | mapped {face : Face} {link mutable : Link} (shows : face.Shows context request form)
      (named : context.typeLink "" form = .ok link) (kotlin : context.dialect = .kotlin)
      (collection : context.mutableLink? request.fromJava form = some mutable) :
      ShownForm context request arguments form
        (.mapped face link mutable (argumentsBeside form arguments))
  /-- a function type, in Kotlin -/
  | lambda {face : Face} {parts : LambdaParts} {isSuspend : Bool} {receiver : Option ShownType}
      {parameters : List ShownParameter} {returnType : ShownType}
      (shows : face.Shows context request form) (kotlin : context.dialect = .kotlin)
      (inside : parts.Shows context request form receiver parameters returnType) :
      ShownForm context request arguments form
        (.lambda face isSuspend receiver parameters returnType)

section

variable {context : Context} {request : TypeRequest} {arguments : List ShownType}
  {form : TypeUse} {shown : ShownType}

/-- A receiver is shown if there is one. -/
theorem renderReceiverBy_eq (receiver : Option TypeUse)
    (f : TypeUse → Except RenderError ShownType) :
    renderReceiverBy receiver (fun type _ => f type) = receiver.mapM f := by
  cases receiver with
  | none => rfl
  | some type => rfl

/-- **A function type is shown by its parts.** -/
theorem ShownForm.of_renderLambdaBy (written : context.writtenForm request = .ok form)
    (leaf : form.isWrapper = false) (kotlin : context.dialect = .kotlin)
    {recurse : (inner : TypeRequest) → inner.type.nodes < form.nodes →
      Except RenderError ShownType}
    (direct : recurse = fun inner _ => typeOf context inner)
    (found : renderLambdaBy context request form recurse = .ok shown) :
    ShownForm context request arguments form shown := by
  unfold renderLambdaBy at found
  split at found
  · cases found
  · rename_i parts split
    subst direct
    obtain ⟨receiver, receivers, found⟩ := bind_eq_ok.mp found
    obtain ⟨parameters, parametersFound, found⟩ := bind_eq_ok.mp found
    obtain ⟨returnType, returned, found⟩ := bind_eq_ok.mp found
    obtain ⟨isSuspend, -, found⟩ := bind_eq_ok.mp found
    obtain ⟨annotations, annotated, found⟩ := bind_eq_ok.mp found
    cases found
    rw [renderReceiverBy_eq] at receivers
    have parametersShown := mapM'_attach parts.parameters fun type =>
      lambdaParameterOf context type request.sourceSet
    have inside : parts.Shows context request form receiver parameters returnType :=
      ⟨split, receivers, parametersShown.symm.trans parametersFound, returned⟩
    refine .lambda ⟨written, leaf, rfl, rfl, ?_⟩ kotlin inside
    rw [attempt_eq] at annotated
    exact ⟨_, annotated, fun java => by rw [kotlin] at java; cases java⟩

/-- **What is shown of a form** is one of three things. -/
theorem ShownForm.of_shownForm (written : context.writtenForm request = .ok form)
    (leaf : form.isWrapper = false)
    (found : shownForm context request arguments form = .ok shown) :
    ShownForm context request arguments form shown := by
  unfold shownForm renderFormBy at found
  obtain ⟨annotations, annotated, found⟩ := bind_eq_ok.mp found
  rw [attempt_eq] at annotated
  have shows : Face.Shows ⟨request.nullability context.dialect form, context.dialect, annotations⟩
      context request form :=
    ⟨written, leaf, rfl, rfl, _, annotated, fun _ => rfl⟩
  split at found
  · obtain ⟨link, named, found⟩ := bind_eq_ok.mp found
    rw [attempt_eq] at named
    cases found
    exact .plain shows named
  · rename_i kotlin
    obtain ⟨isFunction, -, found⟩ := bind_eq_ok.mp found
    split at found
    · exact .of_renderLambdaBy written leaf kotlin rfl found
    · obtain ⟨link, named, found⟩ := bind_eq_ok.mp found
      rw [attempt_eq] at named
      split at found
      · rename_i mutable collection
        cases found
        exact .mapped shows named kotlin collection
      · cases found
        exact .plain shows named

/-- The receiver that is shown is that of the function type. -/
theorem LambdaParts.Shows.exists_receiver {parts : LambdaParts} {receiver : Option ShownType}
    {parameters : List ShownParameter} {returnType : ShownType}
    (h : parts.Shows context request form receiver parameters returnType) {r : ShownType}
    (mem : r ∈ receiver) :
    ∃ type ∈ parts.receiver,
      typeOf context { type, fromJava := false, sourceSet := request.sourceSet } = .ok r := by
  have shows := h.receiver
  cases split : parts.receiver with
  | none =>
    rw [split] at shows
    cases shows
    cases mem
  | some type =>
    rw [split] at shows
    cases found : typeOf context { type, fromJava := false, sourceSet := request.sourceSet } with
    | error e => simp [found, Functor.map, Except.map] at shows
    | ok r' =>
      simp only [Option.mapM_some, found, Functor.map, Except.map, Except.ok.injEq] at shows
      obtain rfl := Option.some.inj (shows.trans mem)
      exact ⟨type, rfl, found⟩

/-- The type of a parameter that is shown is that of a parameter of the function type. -/
theorem LambdaParts.Shows.exists_parameter {parts : LambdaParts} {receiver : Option ShownType}
    {parameters : List ShownParameter} {returnType : ShownType}
    (h : parts.Shows context request form receiver parameters returnType) {p : ShownParameter}
    (mem : p ∈ parameters) :
    ∃ type ∈ parts.parameters,
      typeOf context (.forLambdaParameter type false request.sourceSet) = .ok p.type := by
  obtain ⟨type, memType, found⟩ := (mem_of_mapM'_eq_ok h.parameters).2 p mem
  refine ⟨type, memType, ?_⟩
  obtain ⟨shown, shownFound, found⟩ := bind_eq_ok.mp found
  rw [attempt_eq] at found
  obtain ⟨annotations, -, found⟩ := bind_eq_ok.mp found
  cases found
  exact shownFound

end

/-! ## Induction -/

/-- The written form has no more nodes than the type. -/
theorem Context.nodes_writtenForm_le {context : Context} {request : TypeRequest} {form : TypeUse}
    (written : context.writtenForm request = .ok form) : form.nodes ≤ request.type.nodes := by
  unfold Context.writtenForm at written
  split at written
  · cases written
    exact request.type.nodes_toKotlin_le
  · exact request.type.nodes_toJava_le written

/-- What is inside of a written form has fewer nodes than the requested type. -/
theorem Context.nodes_inside_lt {context : Context} {request : TypeRequest} {form inner : TypeUse}
    (written : context.writtenForm request = .ok form) (inside : form.inside? = some inner) :
    inner.nodes < request.type.nodes :=
  Nat.lt_of_lt_of_le (TypeUse.nodes_lt_of_inside? inside) (context.nodes_writtenForm_le written)

/-- **What all shown types have**: a wrapper takes it over from what is inside, and a form has
it if its type arguments, or the parts of the function type, have it. -/
theorem typeOf_induct_parts {context : Context} {motive : TypeRequest → ShownType → Prop}
    (nullable : ∀ {request inner shown}, context.writtenForm request = .ok (.nullable inner) →
      motive (request.forNullable inner) shown → motive request shown)
    (projected : ∀ {request variance inner shown},
      context.writtenForm request = .ok (.projected variance inner) →
      motive (request.forProjected inner) shown → motive request shown)
    (aliased : ∀ {request named inner shown},
      context.writtenForm request = .ok (.aliased named inner) →
      motive (request.forAliased inner) shown → motive request shown)
    (plain : ∀ {request form face link arguments}, Face.Shows face context request form →
      context.typeLink "" form = .ok link →
      (∀ a ∈ arguments, ∃ type ∈ request.type.writtenArguments,
        motive (request.forArgument type) a) →
      motive request (.plain face link (argumentsBeside form arguments)))
    (mapped : ∀ {request form face link mutable arguments}, Face.Shows face context request form →
      context.typeLink "" form = .ok link →
      context.mutableLink? request.fromJava form = some mutable →
      (∀ a ∈ arguments, ∃ type ∈ request.type.writtenArguments,
        motive (request.forArgument type) a) →
      motive request (.mapped face link mutable (argumentsBeside form arguments)))
    (lambda : ∀ {request form face parts isSuspend receiver parameters returnType},
      Face.Shows face context request form →
      LambdaParts.Shows parts context request form receiver parameters returnType →
      (∀ r ∈ receiver, ∃ type ∈ parts.receiver,
        motive { type, fromJava := false, sourceSet := request.sourceSet } r) →
      (∀ p ∈ parameters, ∃ type ∈ parts.parameters,
        motive (.forLambdaParameter type false request.sourceSet) p.type) →
      motive
        { type := parts.returnType, fromJava := false, sourceSet := request.sourceSet,
          imposed := some (form.nullability context.dialect none []) } returnType →
      motive request (.lambda face isSuspend receiver parameters returnType))
    {request : TypeRequest} {shown : ShownType} (found : typeOf context request = .ok shown) :
    motive request shown := by
  -- every type that is shown on the way has fewer nodes
  induction size : request.type.nodes using Nat.strongRecOn generalizing request shown with
  | ind size ih =>
    subst size
    rw [typeOf_eq] at found
    obtain ⟨arguments, argumentsFound, found⟩ := bind_eq_ok.mp found
    obtain ⟨form, written, found⟩ := bind_eq_ok.mp found
    have le := context.nodes_writtenForm_le written
    have each : ∀ a ∈ arguments, ∃ type ∈ request.type.writtenArguments,
        motive (request.forArgument type) a := by
      intro a mem
      obtain ⟨type, memType, foundType⟩ := (mem_of_mapM'_eq_ok argumentsFound).2 a mem
      have lt := TypeUse.nodes_lt_of_mem_writtenArguments memType
      exact ⟨type, memType, ih _ lt foundType rfl⟩
    by_cases leaf : form.isWrapper = false
    · rw [shownBelow_of_not_isWrapper leaf] at found
      cases ShownForm.of_shownForm written leaf found with
      | plain shows named => exact plain shows named each
      | mapped shows named kotlin collection => exact mapped shows named collection each
      | lambda shows kotlin inside =>
        obtain ⟨smallReceiver, smallParameter, smallReturn⟩ :=
          TypeUse.nodes_lambdaParts_lt inside.split
        refine lambda shows inside ?_ ?_ ?_
        · intro r mem
          obtain ⟨type, memType, foundType⟩ := inside.exists_receiver mem
          have lt := Nat.lt_of_lt_of_le (smallReceiver type memType) le
          exact ⟨type, memType, ih _ lt foundType rfl⟩
        · intro p mem
          obtain ⟨type, memType, foundType⟩ := inside.exists_parameter mem
          have lt := Nat.lt_of_lt_of_le (smallParameter type memType) le
          exact ⟨type, memType, ih _ lt foundType rfl⟩
        · exact ih _ (Nat.lt_of_lt_of_le smallReturn le) inside.returnType rfl
    · cases form with
      | nullable inner =>
        exact nullable written (ih _ le found rfl)
      | projected variance inner =>
        exact projected written (ih _ le found rfl)
      | aliased named inner =>
        have lt := Nat.lt_of_lt_of_le (TypeUse.nodes_lt_of_inside? rfl) le
        exact aliased written (ih _ lt found rfl)
      | classRef | parameter | primitive | javaObject | void | star | dynamic | unresolved
      | nonNull => exact absurd rfl leaf

/-- **What all shown types have**, where a form has it if its type arguments, or the parts of the
function type, have it for some type. -/
theorem typeOf_induct {context : Context} {motive : TypeRequest → ShownType → Prop}
    (nullable : ∀ {request inner shown}, context.writtenForm request = .ok (.nullable inner) →
      motive (request.forNullable inner) shown → motive request shown)
    (projected : ∀ {request variance inner shown},
      context.writtenForm request = .ok (.projected variance inner) →
      motive (request.forProjected inner) shown → motive request shown)
    (aliased : ∀ {request named inner shown},
      context.writtenForm request = .ok (.aliased named inner) →
      motive (request.forAliased inner) shown → motive request shown)
    (plain : ∀ {request form face link arguments}, Face.Shows face context request form →
      (∀ a ∈ arguments, ∃ type, motive (request.forArgument type) a) →
      motive request (.plain face link (argumentsBeside form arguments)))
    (mapped : ∀ {request form face link mutable arguments}, Face.Shows face context request form →
      context.mutableLink? request.fromJava form = some mutable →
      (∀ a ∈ arguments, ∃ type, motive (request.forArgument type) a) →
      motive request (.mapped face link mutable (argumentsBeside form arguments)))
    (lambda : ∀ {request form face parts isSuspend receiver parameters returnType},
      Face.Shows face context request form →
      LambdaParts.Shows parts context request form receiver parameters returnType →
      (∀ r ∈ receiver, ∃ type,
        motive { type, fromJava := false, sourceSet := request.sourceSet } r) →
      (∀ p ∈ parameters, ∃ type,
        motive (.forLambdaParameter type false request.sourceSet) p.type) →
      motive
        { type := parts.returnType, fromJava := false, sourceSet := request.sourceSet,
          imposed := some (form.nullability context.dialect none []) } returnType →
      motive request (.lambda face isSuspend receiver parameters returnType))
    {request : TypeRequest} {shown : ShownType} (found : typeOf context request = .ok shown) :
    motive request shown := by
  refine typeOf_induct_parts nullable projected aliased ?_ ?_ ?_ found
  · intro request form face link arguments shows _ each
    refine plain shows fun a mem => ?_
    obtain ⟨type, -, argument⟩ := each a mem
    exact ⟨type, argument⟩
  · intro request form face link mutable arguments shows _ collection each
    refine mapped shows collection fun a mem => ?_
    obtain ⟨type, -, argument⟩ := each a mem
    exact ⟨type, argument⟩
  · intro request form face parts isSuspend receiver parameters returnType shows inside
      receives takes returns
    refine lambda shows inside (fun r mem => ?_) (fun p mem => ?_) returns
    · obtain ⟨type, -, receiver⟩ := receives r mem
      exact ⟨type, receiver⟩
    · obtain ⟨type, -, parameter⟩ := takes p mem
      exact ⟨type, parameter⟩

/-! ## Types of declarations -/

/-- The request for the type of a parameter or a receiver: Kotlin converts it beforehand, and
Java imposes what is stated of the type. -/
def parameterRequest (context : Context) (parameter : Parameter) (fromJava : Bool)
    (sourceSet : SourceSet) : TypeRequest :=
  match context.dialect with
  | .java =>
    { type := parameter.type, fromJava, sourceSet,
      carried := Annotation.onType (parameter.annotations.at sourceSet.name),
      imposed := some
        (parameter.type.nullability .java (some fromJava) parameter.annotations.leading) }
  | .kotlin =>
    { type := parameter.type.toKotlin, fromJava, sourceSet,
      carried := Annotation.onType (parameter.annotations.at sourceSet.name) }

/-- The request for the type of a property or the return type of a function. -/
def declaredRequest (context : Context) (declaration : Declaration) (type : TypeUse)
    (sourceSet : SourceSet) (isReturn : Bool) : TypeRequest :=
  let carried := Annotation.onType (declaration.annotations.at sourceSet.name)
  { type, fromJava := declaration.fromJava, sourceSet, carried, isReturn,
    imposed := some (type.nullability context.dialect (some declaration.fromJava) carried) }

/-- A parameter or a receiver as it is shown, without a memo. -/
def parameterOf (context : Context) (parameter : Parameter) (inSummary fromJava : Bool)
    (sourceSet : SourceSet) : Except RenderError ShownParameter :=
  renderParameter context parameter inSummary fromJava sourceSet

/-- The type of a property or the return type of a function as it is shown, without a memo. -/
def declaredTypeOf (context : Context) (declaration : Declaration) (type : TypeUse)
    (sourceSet : SourceSet) (isReturn : Bool) : Except RenderError ShownType :=
  renderDeclaredType context declaration type sourceSet isReturn

/-- A parameter is shown with the type that it requests. -/
theorem typeOf_of_parameterOf {context : Context} {parameter : Parameter}
    {inSummary fromJava : Bool} {sourceSet : SourceSet} {shown : ShownParameter}
    (found : parameterOf context parameter inSummary fromJava sourceSet = .ok shown) :
    typeOf context (parameterRequest context parameter fromJava sourceSet) = .ok shown.type := by
  unfold parameterOf renderParameter at found
  obtain ⟨modifiers, -, found⟩ := bind_eq_ok.mp found
  split at found
  · rename_i java
    obtain ⟨type, typeFound, found⟩ := bind_eq_ok.mp found
    obtain ⟨annotations, -, found⟩ := bind_eq_ok.mp found
    cases found
    rw [parameterRequest, java]
    exact typeFound
  · rename_i kotlin
    obtain ⟨converted, convertedFound, found⟩ := bind_eq_ok.mp found
    obtain ⟨name, -, found⟩ := bind_eq_ok.mp found
    obtain ⟨type, typeFound, found⟩ := bind_eq_ok.mp found
    obtain ⟨annotations, -, found⟩ := bind_eq_ok.mp found
    cases found
    cases convertedFound
    rw [parameterRequest, kotlin]
    exact typeFound

/-- A declared type is shown as it is requested. -/
theorem declaredTypeOf_eq (context : Context) (declaration : Declaration) (type : TypeUse)
    (sourceSet : SourceSet) (isReturn : Bool) :
    declaredTypeOf context declaration type sourceSet isReturn =
      typeOf context (declaredRequest context declaration type sourceSet isReturn) :=
  rfl

end Diglot
