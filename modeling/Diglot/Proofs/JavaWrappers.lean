import Diglot.Proofs.Expansion
import Diglot.Proofs.FinalForms

/-!
# What Java shows below wrappers

Below a wrapper the renderer goes on with the form that Java writes, and rewrites it again. For
types as Kotlin has them (`TypeUse.isRegular`) that makes no difference, so what is below a
wrapper is shown as it would be without the detour.

* `writtenArguments_toJava` — forms have the forms of the type arguments.
* `typeOf_toJava` — a form is shown as its type is.
* `typeOf_aliased_java`, `typeOf_projected_java`, `typeOf_nullable_java` — one equation for each
  wrapper. `Unit` that may be null is the one exception: it is `void`.

`Int` with type arguments, or `T & Any` around an array, are not regular: the Java primitive has
no arguments to show any more, and what is shown of an array below `T & Any` has the arguments
beside its brackets the first time only.
-/

namespace Diglot

namespace TypeUse

/-! ## Regular types -/

/-- Whether the type below all wrappers, `T & Any` included, is an array. -/
def isArrayInside : TypeUse → Bool
  | classRef head _ => head.identity.isClass "kotlin" "Array"
  | nullable inner => inner.isArrayInside
  | nonNull inner => inner.isArrayInside
  | projected _ inner => inner.isArrayInside
  | aliased _ inner => inner.isArrayInside
  | _ => false

mutual

/-- **Types as Kotlin has them**: `Unit`, primitives and their arrays have no type arguments, and
`T & Any` is not about arrays. -/
def isRegular : TypeUse → Bool
  | classRef head arguments =>
    (!head.identity.isSpecialInJava || head.identity.isClass "kotlin" "Array" ||
      arguments.isEmpty) && isRegularList arguments
  | nonNull inner => !inner.isArrayInside && inner.isRegular
  | nullable inner => inner.isRegular
  | projected _ inner => inner.isRegular
  | aliased _ inner => inner.isRegular
  | _ => true

/-- Whether every type of a list is regular. -/
def isRegularList : List TypeUse → Bool
  | [] => true
  | first :: rest => first.isRegular && isRegularList rest

end

theorem isRegularList_iff {types : List TypeUse} :
    isRegularList types = true ↔ ∀ type ∈ types, type.isRegular = true := by
  induction types with
  | nil => simp [isRegularList]
  | cons first rest ih => simp [isRegularList, ih]

/-- What is inside a regular type is regular. -/
theorem isRegular_inside {type inner : TypeUse} (inside : type.inside? = some inner)
    (regular : type.isRegular = true) : inner.isRegular = true := by
  cases type <;> cases inside <;> first
    | exact regular
    | exact (Bool.and_eq_true_iff.mp regular).2

theorem isRegular_of_mem_writtenArguments {argument : TypeUse} (type : TypeUse)
    (regular : type.isRegular = true) (mem : argument ∈ type.writtenArguments) :
    argument.isRegular = true := by
  refine of_mem_writtenArguments (P := fun type => type.isRegular = true) ?_ ?_ type regular
    argument mem
  · intro type inner
    exact isRegular_inside
  · intro head arguments regular
    simp only [isRegular, Bool.and_eq_true] at regular
    exact isRegularList_iff.mp regular.2

/-- Classes without type parameters have no type arguments. -/
theorem eq_nil_of_isRegular {head : ClassHead} {arguments : List TypeUse}
    (regular : (!head.identity.isSpecialInJava || head.identity.isClass "kotlin" "Array" ||
      arguments.isEmpty) = true)
    (special : head.identity.isSpecialInJava = true ∧
      head.identity.isClass "kotlin" "Array" = false) : arguments = [] := by
  rw [special.1, special.2] at regular
  exact List.isEmpty_iff.mp regular

/-- No primitive in a regular type has type arguments. -/
theorem appliesNoPrimitive_of_isRegular {type : TypeUse} (regular : type.isRegular = true) :
    type.appliesNoPrimitive = true := by
  cases type with
  | classRef head arguments =>
    cases isPrimitive : head.identity.isPrimitive with
    | false => rw [appliesNoPrimitive, isPrimitive, Bool.not_false, Bool.true_or]
    | true =>
      obtain ⟨package, p, named⟩ := Identity.exists_primitive isPrimitive
      simp only [isRegular, Bool.and_eq_true] at regular
      obtain rfl := eq_nil_of_isRegular regular.1
        (Identity.isSpecialInJava_of_primitive package named)
      exact Bool.or_true _
  | parameter | primitive | javaObject | void | star | dynamic | unresolved | nullable | nonNull
  | projected | aliased => rfl

/-- At no depth of a regular type has a primitive type arguments. -/
theorem everywhere_appliesNoPrimitive (type : TypeUse) (regular : type.isRegular = true) :
    type.everywhere appliesNoPrimitive = true := by
  induction type using induct_inside with
  | step type ofArgument below =>
    refine (everywhere_iff type).mpr ⟨appliesNoPrimitive_of_isRegular regular, ?_, ?_⟩
    · intro a mem
      exact ofArgument a mem (isRegular_of_mem_writtenArguments type regular mem)
    · intro inner inside
      exact below inner inside (isRegular_inside inside regular)

/-- **Forms have the forms of the type arguments**, but for arrays: these have none. -/
theorem writtenArguments_toJava : ∀ (type : TypeUse) {position : JavaPosition} {form : TypeUse},
    type.isRegular = true → type.toJava position = .ok form →
      toJavaList position.boxed type.writtenArguments = .ok form.writtenArguments ∨
        (type.isArrayInside = true ∧ form.writtenArguments = [] ∧
          ∃ name, form.core = primitive (name ++ "[]"))
  | classRef head arguments, position, form, regular, written => by
    simp only [isRegular, Bool.and_eq_true] at regular
    rw [toJava] at written
    obtain ⟨rewritten, rest, written⟩ := bind_eq_ok.mp written
    have special := eq_nil_of_isRegular regular.1
    cases ClassToJava.of_classToJava written with
    | void _ unit =>
      obtain rfl := special (Identity.isSpecialInJava_of_isUnit unit)
      exact Or.inl rfl
    | boxed package named | unboxed package named =>
      obtain rfl := special (Identity.isSpecialInJava_of_primitive package named)
      exact Or.inl rfl
    | primitiveArray package named =>
      obtain rfl := special (Identity.isSpecialInJava_of_primitiveArray package named)
      exact Or.inl rfl
    | array array => exact Or.inr ⟨array, rfl, _, rfl⟩
    | renamed => exact Or.inl rest
  | nullable inner, position, form, regular, written => by
    rw [toJava] at written
    split at written
    · rename_i unit
      cases written
      cases inner with
      | classRef head arguments =>
        simp only [isRegular, Bool.and_eq_true] at regular
        obtain rfl := eq_nil_of_isRegular regular.1 (Identity.isSpecialInJava_of_isUnit unit)
        exact Or.inl rfl
      | parameter | primitive | javaObject | void | star | dynamic | unresolved | nullable
      | nonNull | projected | aliased => cases unit
    · obtain ⟨inside, insideWritten, written⟩ := bind_eq_ok.mp written
      have below := writtenArguments_toJava inner regular insideWritten
      split at written <;> cases written
      · rcases below with same | ⟨_, _, name, core⟩
        · exact Or.inl same
        · cases core
      · exact below
  | nonNull inner, position, form, regular, written => by
    simp only [isRegular, Bool.and_eq_true, Bool.not_eq_true'] at regular
    rw [toJava] at written
    obtain ⟨inside, insideWritten, written⟩ := bind_eq_ok.mp written
    cases written
    rcases writtenArguments_toJava inner regular.2 insideWritten with same | ⟨array, -⟩
    · exact Or.inl same
    · rw [regular.1] at array
      cases array
  | projected variance inner, position, form, regular, written => by
    rw [toJava] at written
    obtain ⟨inside, insideWritten, written⟩ := bind_eq_ok.mp written
    cases written
    have below := writtenArguments_toJava inner regular insideWritten
    exact below
  | aliased named inner, position, form, regular, written => by
    rw [toJava] at written
    obtain ⟨inside, insideWritten, written⟩ := bind_eq_ok.mp written
    cases written
    have below := writtenArguments_toJava inner regular insideWritten
    exact below
  | parameter _, _, _, _, written | primitive _, _, _, _, written | javaObject _, _, _, _, written
  | void, _, _, _, written | star, _, _, _, written | dynamic, _, _, _, written
  | unresolved _, _, _, _, written => by
    cases written
    exact Or.inl rfl

end TypeUse

/-! ## Forms are shown as the types are -/

section

variable {context : Context}

/-- Java writes a type in its position, and shows what it comes to. -/
theorem typeOf_java (java : context.dialect = .java) (request : TypeRequest) {form : TypeUse}
    (written : request.type.toJava (context.position request) = .ok form) :
    typeOf context request = (shownArguments context request).bind fun arguments =>
      shownBelow context request arguments form := by
  rw [typeOf_eq, Context.writtenForm_java java, written]
  rfl

/-- What is shown has type arguments that are shown. -/
theorem exists_shownArguments {request : TypeRequest} {shown : ShownType}
    (found : typeOf context request = .ok shown) :
    ∃ arguments, shownArguments context request = .ok arguments := by
  rw [typeOf_eq] at found
  obtain ⟨arguments, argumentsFound, -⟩ := bind_eq_ok.mp found
  exact ⟨arguments, argumentsFound⟩

/-- Members of a list come to what their forms come to. -/
theorem mapM'_toJavaList {β : Type} {position : JavaPosition} {F : TypeUse → Except RenderError β} :
    ∀ {types forms : List TypeUse}, TypeUse.toJavaList position types = .ok forms →
      (∀ a ∈ types, ∀ form, a.toJava position = .ok form → F form = F a) →
        forms.mapM' F = types.mapM' F
  | [], _, written, _ => by
    cases written
    rfl
  | first :: rest, _, written, same => by
    rw [TypeUse.toJavaList] at written
    obtain ⟨form, one, written⟩ := bind_eq_ok.mp written
    obtain ⟨others, more, written⟩ := bind_eq_ok.mp written
    cases written
    have below := mapM'_toJavaList more fun a mem => same a (List.mem_cons_of_mem _ mem)
    rw [List.mapM'_cons, List.mapM'_cons, same first (List.mem_cons_self ..) form one, below]

/-- **What Java shows of a form** is its name beside its annotations and type arguments. -/
theorem shownForm_java (java : context.dialect = .java) (request : TypeRequest)
    (arguments : List ShownType) (form : TypeUse) :
    shownForm context request arguments form =
      (context.shownAnnotations request.annotations
          (annotatedNullability form (request.nullability .java form))).bind fun annotations =>
        (context.typeLink "" form).map fun link =>
          .plain ⟨request.nullability .java form, .java, annotations⟩ link
            (argumentsBeside form arguments) := by
  unfold shownForm renderFormBy
  simp only [attempt_eq, java]
  refine bind_congr fun annotations => ?_
  cases context.typeLink "" form <;> rfl

/-- Two forms that differ below the surface only: Java shows the same of them. -/
structure TypeUse.SameSurface (context : Context) (form form' : TypeUse) : Prop where
  /-- the first is no wrapper -/
  leaf : form.isWrapper = false
  /-- neither is the second -/
  leaf' : form'.isWrapper = false
  /-- they have the same nullability -/
  nullability : ∀ fromJava carried,
    form'.nullability .java fromJava carried = form.nullability .java fromJava carried
  /-- the same nullability decides on their annotations -/
  annotated : annotatedNullability form' = annotatedNullability form
  /-- they have the same name -/
  typeLink : context.typeLink "" form' = context.typeLink "" form
  /-- they are shown with the same type arguments -/
  beside : argumentsBeside form' = argumentsBeside form

/-- What is no wrapper has the surface that it has. -/
theorem TypeUse.SameSurface.refl {form : TypeUse} (leaf : form.isWrapper = false) :
    form.SameSurface context form :=
  ⟨leaf, leaf, fun _ _ => rfl, rfl, rfl, rfl⟩

/-- **Forms with the same surface** are shown alike where the annotations, the nullability and
the arguments beside the form are the same. -/
theorem shownBelow_of_sameSurface (java : context.dialect = .java) {request request' : TypeRequest}
    {arguments arguments' : List ShownType} {form form' : TypeUse}
    (same : form.SameSurface context form')
    (annotations : request'.annotations = request.annotations)
    (nullability : request'.nullability .java form = request.nullability .java form)
    (beside : argumentsBeside form arguments' = argumentsBeside form arguments) :
    shownBelow context request' arguments' form' = shownBelow context request arguments form := by
  have nullability' : request'.nullability .java form' = request.nullability .java form := by
    rw [← nullability, TypeRequest.nullability, same.nullability]
    rfl
  rw [shownBelow_of_not_isWrapper same.leaf, shownBelow_of_not_isWrapper same.leaf',
    shownForm_java java, shownForm_java java, annotations, nullability', same.annotated,
    same.typeLink, same.beside, beside]

/-- Forms of types without annotations have none. -/
theorem annotations_of_isBare (request : TypeRequest) {form : TypeUse} {position : JavaPosition}
    (bare : request.type.isBare = true) (written : request.type.toJava position = .ok form) :
    { request with type := form }.annotations = request.annotations := by
  have own := TypeUse.annotationsAt_of_isBare request.sourceSet.name _ bare
  have left := TypeUse.annotationsAt_toJava _ written request.sourceSet.name
  rw [own] at left
  simp only [TypeRequest.annotations, own, List.sublist_nil.mp left]

/-- **The type arguments of a form** are shown as those of its type, if each of them is shown as
its form is. A form that is no wrapper is shown with the same arguments. -/
theorem shownArguments_toJava (request : TypeRequest) {form : TypeUse} {arguments : List ShownType}
    (regular : request.type.isRegular = true)
    (written : request.type.toJava (context.position request) = .ok form)
    (found : shownArguments context request = .ok arguments)
    (each : ∀ a ∈ request.type.writtenArguments, ∀ a',
      a.toJava (context.position request).boxed = .ok a' →
        typeOf context (request.forArgument a') = typeOf context (request.forArgument a)) :
    ∃ arguments', shownArguments context { request with type := form } = .ok arguments' ∧
      (form.isWrapper = false →
        argumentsBeside form arguments' = argumentsBeside form arguments) := by
  rcases TypeUse.writtenArguments_toJava _ regular written with same | ⟨-, none, name, core⟩
  · refine ⟨arguments, ?_, fun _ => rfl⟩
    rw [← found]
    exact mapM'_toJavaList same each
  · refine ⟨[], ?_, fun leaf => ?_⟩
    · rw [shownArguments, none]
      rfl
    · rw [TypeUse.core_of_not_isWrapper leaf] at core
      have array : Text.endsWith (name ++ "[]") "[]" = true := by
        simp [Text.endsWith]
      rw [core, argumentsBeside, argumentsBeside, if_pos array, if_pos array]

/-- **A form is shown as its type is**, in any position where no more is returned, if the type
arguments are shown. -/
theorem typeOf_toJava (java : context.dialect = .java) (type : TypeUse) (request : TypeRequest)
    {form : TypeUse} {isReturn mustBox : Bool} {arguments : List ShownType}
    (bare : type.isBare = true) (regular : type.isRegular = true)
    (written : type.toJava (context.position request) = .ok form)
    (found : shownArguments context { request with type } = .ok arguments)
    (weaker : isReturn = true → request.isReturn = true) :
    typeOf context { request with type := form, isReturn, mustBox } =
      typeOf context { request with type } := by
  induction type using TypeUse.induct_inside
    generalizing request form isReturn mustBox arguments with
  | step type ofArgument below =>
    have each : ∀ a ∈ type.writtenArguments, ∀ a',
        a.toJava (context.position request).boxed = .ok a' →
          typeOf context (request.forArgument a') = typeOf context (request.forArgument a) := by
      intro a mem a' writtenArgument
      obtain ⟨shown, -, shownArgument⟩ := (mem_of_mapM'_eq_ok found).1 a mem
      obtain ⟨arguments, argumentsFound⟩ := exists_shownArguments shownArgument
      have bareArgument := TypeUse.isBare_of_mem_writtenArguments type bare mem
      have regularArgument := TypeUse.isRegular_of_mem_writtenArguments type regular mem
      have writtenThere : a.toJava (context.position (request.forArgument a)) = .ok a' :=
        writtenArgument
      have same : typeOf context
          { request.forArgument a with type := a', isReturn := false, mustBox := true } =
            typeOf context { request.forArgument a with type := a } :=
        ofArgument a mem (request.forArgument a) bareArgument regularArgument writtenThere
          argumentsFound id
      exact same
    have again : form.toJava ⟨isReturn, mustBox, context.config.qualifiedArrays⟩ = .ok form :=
      TypeUse.toJava_toJava type (TypeUse.everywhere_appliesNoPrimitive type regular) weaker written
    obtain ⟨arguments', formFound, beside⟩ :=
      shownArguments_toJava { request with type } regular written found each
    have steps := typeOf_java java { request with type := form, isReturn, mustBox } again
    have formFound' : shownArguments context { request with type := form, isReturn, mustBox } =
      .ok arguments' := formFound
    rw [typeOf_java java { request with type } written, found, steps, formFound']
    change shownBelow context { request with type := form, isReturn, mustBox } arguments' form =
      shownBelow context { request with type } arguments form
    have plain : form.isWrapper = false →
        shownBelow context { request with type := form, isReturn, mustBox } arguments' form =
          shownBelow context { request with type } arguments form := by
      intro leaf
      have annotations := annotations_of_isBare { request with type } bare written
      exact shownBelow_of_sameSurface java (.refl leaf) annotations rfl (beside leaf)
    -- below a wrapper, form and type are shown as what is inside is where there are no primitives
    cases type with
    | nullable inner =>
      rw [TypeUse.toJava] at written
      split at written
      · cases written
        exact plain rfl
      · obtain ⟨inside, insideWritten, written⟩ := bind_eq_ok.mp written
        split at written <;> cases written
        · exact plain rfl
        · have boxed : ∀ mustBox', typeOf context
              { request.forNullable inside with isReturn := false, mustBox := mustBox' } =
                typeOf context { request.forNullable inner with mustBox := true } := fun _ =>
            below inner rfl { request.forNullable inner with mustBox := true } bare regular
              insideWritten found id
          exact (boxed mustBox).trans (boxed request.mustBox).symm
    | projected variance inner =>
      rw [TypeUse.toJava] at written
      obtain ⟨inside, insideWritten, written⟩ := bind_eq_ok.mp written
      cases written
      have boxed : ∀ mustBox', typeOf context
          { request.forProjected inside with isReturn := false, mustBox := mustBox' } =
            typeOf context { request.forProjected inner with mustBox := true } := fun _ =>
        below inner rfl { request.forProjected inner with mustBox := true } bare regular
          insideWritten found id
      exact (boxed mustBox).trans (boxed request.mustBox).symm
    | aliased named inner =>
      rw [TypeUse.toJava] at written
      obtain ⟨inside, insideWritten, written⟩ := bind_eq_ok.mp written
      cases written
      have asForm : typeOf context { request with type := inside, isReturn, mustBox } =
          typeOf context { request with type := inner } :=
        below inner rfl request bare regular insideWritten found weaker
      have asWritten : typeOf context { request with type := inside } =
          typeOf context { request with type := inner } :=
        below inner rfl request bare regular insideWritten found id
      exact asForm.trans asWritten.symm
    | classRef | nonNull | parameter | primitive | javaObject | void | star | dynamic
    | unresolved =>
      exact plain (TypeUse.toJava_of_not_isWrapper rfl written).1

/-! ## Wrappers in Java -/

/-- A type is shown as what is inside it, if the arguments are the same, the same can be written,
and what is written is shown so. -/
theorem typeOf_eq_of_below (java : context.dialect = .java) {request inside : TypeRequest}
    (arguments : shownArguments context request = shownArguments context inside)
    (fails : ∀ e, inside.type.toJava (context.position inside) = .error e →
      context.writtenForm request = .error e)
    (below : ∀ shown form, shownArguments context inside = .ok shown →
      inside.type.toJava (context.position inside) = .ok form →
        (context.writtenForm request).bind (shownBelow context request shown) =
          typeOf context inside) :
    typeOf context request = typeOf context inside := by
  rw [typeOf_eq, arguments]
  cases found : shownArguments context inside with
  | error e =>
    rw [typeOf_eq, found]
    rfl
  | ok shown =>
    cases written : inside.type.toJava (context.position inside) with
    | error e =>
      rw [typeOf_eq, found, Context.writtenForm_java java inside, written, fails e written]
      rfl
    | ok form => exact below shown form found written

/-- **Java looks below an alias as if it were not there.** -/
theorem typeOf_aliased_java (java : context.dialect = .java) (request : TypeRequest)
    (named : TypeUse) {inner : TypeUse} (bare : inner.isBare = true)
    (regular : inner.isRegular = true) :
    typeOf context { request with type := .aliased named inner } =
      typeOf context { request with type := inner } := by
  have outside : context.writtenForm { request with type := .aliased named inner } =
      (inner.toJava (context.position request)).map (.aliased named) := by
    rw [Context.writtenForm_java java, TypeUse.toJava]
    rfl
  refine typeOf_eq_of_below java rfl
    (fun e (written : inner.toJava (context.position request) = .error e) => ?_)
    fun shown form found (written : inner.toJava (context.position request) = .ok form) => ?_
  · rw [outside, written]
    rfl
  · rw [outside, written]
    exact typeOf_toJava java inner request bare regular written found id

/-- Below variance there can be no primitive. -/
theorem typeOf_projected_java (java : context.dialect = .java) (request : TypeRequest)
    (variance : Variance) {inner : TypeUse} (bare : inner.isBare = true)
    (regular : inner.isRegular = true) :
    typeOf context { request with type := .projected variance inner } =
      typeOf context { request.forProjected inner with mustBox := true } := by
  have outside : context.writtenForm { request with type := .projected variance inner } =
      (inner.toJava (context.position request).boxed).map (.projected variance) := by
    rw [Context.writtenForm_java java, TypeUse.toJava]
    rfl
  refine typeOf_eq_of_below java rfl
    (fun e (written : inner.toJava (context.position request).boxed = .error e) => ?_)
    fun shown form found (written : inner.toJava (context.position request).boxed = .ok form) => ?_
  · rw [outside, written]
    rfl
  · rw [outside, written]
    exact typeOf_toJava java inner { request.forProjected inner with mustBox := true } bare regular
      written found id

/-- Below nullability there can be no primitive, and `void` is shown as it is elsewhere. Only `Unit`
is treated in its own way. -/
theorem typeOf_nullable_java (java : context.dialect = .java) (request : TypeRequest)
    {inner : TypeUse} (bare : inner.isBare = true) (regular : inner.isRegular = true)
    (noUnit : inner.isUnit = false) :
    typeOf context { request with type := .nullable inner } =
      typeOf context { request.forNullable inner with mustBox := true } := by
  have outside : context.writtenForm { request with type := .nullable inner } =
      (inner.toJava (context.position request).boxed).map fun form =>
        if form = .void then .void else .nullable form := by
    rw [Context.writtenForm_java java]
    exact TypeUse.toJava_nullable noUnit
  refine typeOf_eq_of_below java rfl
    (fun e (written : inner.toJava (context.position request).boxed = .error e) => ?_)
    fun shown form found (written : inner.toJava (context.position request).boxed = .ok form) => ?_
  · rw [outside, written]
    rfl
  · rw [outside, written]
    by_cases void : form = .void
    · subst void
      rw [typeOf_java java { request.forNullable inner with mustBox := true } written, found]
      have nullability : { request with type := .nullable inner }.nullability .java .void =
          { request.forNullable inner with mustBox := true }.nullability .java .void := by
        rw [TypeRequest.nullability_void, TypeRequest.nullability_void]
      have same : shownBelow context { request with type := .nullable inner } shown .void =
          shownBelow context { request.forNullable inner with mustBox := true } shown .void :=
        shownBelow_of_sameSurface java (.refl rfl) rfl nullability rfl
      exact same
    · dsimp only [Except.map, Except.bind]
      rw [if_neg void]
      exact typeOf_toJava java inner { request.forNullable inner with mustBox := true } bare regular
        written found id

end

end Diglot
