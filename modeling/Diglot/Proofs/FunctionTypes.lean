import Diglot.Proofs.ImposedNullability
import Diglot.Proofs.Wrappers

/-!
# The parts of a function type

Kotlin shows a function type by its parts. The receiver and the parameters are shown on their own,
and so is what is returned, but with nullability imposed that is read from the function type:
it is merged into that of the type that is returned.

Nullability annotations that the configuration accepts are neither shown nor refused in Kotlin.
Where they are on a function type, they are seen at what it returns and at no other part.

* `TypeUse.withAnnotations` — the type with other annotations on its class.
* `TypeUse.implied` — what a function type imposes on what it returns. `implied_of_nonNull`:
  `T & Any` hides the annotations.
* `Context.SameButAccepted` — annotations that are the same but for accepted ones.
* `function_type_parts` — what is the same of two function types that differ in accepted
  annotations, and when what they return is shown as the same.
-/

namespace Diglot

/-! ## Annotations on the class of a type -/

namespace TypeUse

/-- The type with the given annotations on its class, below whatever wrappers. -/
def withAnnotations (annotations : SourcedAnnotations) : TypeUse → TypeUse
  | classRef head arguments => classRef { head with annotations } arguments
  | nullable inner => nullable (inner.withAnnotations annotations)
  | nonNull inner => nonNull (inner.withAnnotations annotations)
  | projected variance inner => projected variance (inner.withAnnotations annotations)
  | aliased named inner => aliased named (inner.withAnnotations annotations)
  | other => other

variable (annotations : SourcedAnnotations)

@[simp]
theorem writtenArguments_withAnnotations : ∀ type : TypeUse,
    (type.withAnnotations annotations).writtenArguments = type.writtenArguments
  | nullable inner => writtenArguments_withAnnotations inner
  | nonNull inner => writtenArguments_withAnnotations inner
  | projected _ inner => writtenArguments_withAnnotations inner
  | aliased _ inner => writtenArguments_withAnnotations inner
  | classRef .. | parameter _ | primitive _ | javaObject _ | void | star | dynamic
  | unresolved _ => rfl

theorem core_withAnnotations : ∀ type : TypeUse,
    (type.withAnnotations annotations).core = type.core.withAnnotations annotations
  | nullable inner => core_withAnnotations inner
  | projected _ inner => core_withAnnotations inner
  | aliased _ inner => core_withAnnotations inner
  | classRef .. | nonNull _ | parameter _ | primitive _ | javaObject _ | void | star | dynamic
  | unresolved _ => rfl

@[simp]
theorem isWrapper_withAnnotations (type : TypeUse) :
    (type.withAnnotations annotations).isWrapper = type.isWrapper := by
  cases type <;> rfl

theorem withoutNonNull_withAnnotations : ∀ type : TypeUse,
    (type.withAnnotations annotations).withoutNonNull =
      type.withoutNonNull.withAnnotations annotations
  | nonNull inner => withoutNonNull_withAnnotations inner
  | nullable _ | projected .. | aliased .. | classRef .. | parameter _ | primitive _
  | javaObject _ | void | star | dynamic | unresolved _ => rfl

/-- A conversion leaves annotations where they are. -/
theorem toKotlin_withAnnotations (type : TypeUse) :
    (type.withAnnotations annotations).toKotlin = type.toKotlin.withAnnotations annotations := by
  cases type with
  | classRef head arguments =>
    have array : primitiveArray? { head with annotations } arguments =
        primitiveArray? head arguments := by
      unfold primitiveArray?
      rfl
    rw [withAnnotations, toKotlin, toKotlin, array]
    cases primitiveArray? head arguments with
    | some element => rfl
    | none => rfl
  | projected variance inner => exact toKotlin_withAnnotations inner
  | nullable | nonNull | aliased | parameter | primitive | javaObject | void | star | dynamic
  | unresolved => rfl

@[simp]
theorem isSuspending_withAnnotations (type : TypeUse) :
    (type.withAnnotations annotations).isSuspending = type.isSuspending := by
  rw [isSuspending, isSuspending, withoutNonNull_withAnnotations]
  cases type.withoutNonNull <;> rfl

@[simp]
theorem isFunctionType_withAnnotations (type : TypeUse) :
    (type.withAnnotations annotations).isFunctionType = type.isFunctionType := by
  rw [isFunctionType, isFunctionType, isSuspending_withAnnotations, withoutNonNull_withAnnotations]
  cases type.withoutNonNull <;> rfl

@[simp]
theorem shape_withAnnotations (type : TypeUse) :
    (type.withAnnotations annotations).shape = type.shape := by
  cases type <;> rfl

@[simp]
theorem lambdaParts_withAnnotations (type : TypeUse) :
    (type.withAnnotations annotations).lambdaParts = type.lambdaParts := by
  rw [lambdaParts, lambdaParts, withoutNonNull_withAnnotations, shape_withAnnotations]
  cases type.withoutNonNull <;> rfl

/-- The nullability that a function type imposes on what it returns. -/
def implied (type : TypeUse) : Nullability :=
  type.core.nullability .kotlin none []

/-- Types with one core imply the same. -/
theorem implied_of_core_eq {type inner : TypeUse} (core : inner.core = type.core) :
    (inner.withAnnotations annotations).implied = (type.withAnnotations annotations).implied := by
  rw [implied, implied, core_withAnnotations, core_withAnnotations, core]

/-- Where no wrapper is left, the form is that of the core. -/
theorem toKotlin_core : ∀ type : TypeUse, type.toKotlin.isWrapper = false →
    type.core.toKotlin = type.toKotlin
  | projected _ inner, leaf => toKotlin_core inner leaf
  | nullable _, leaf | aliased .., leaf => by cases leaf
  | classRef .., _ | parameter _, _ | primitive _, _ | javaObject _, _ | void, _ | star, _
  | dynamic, _ | unresolved _, _ | nonNull _, _ => rfl

/-- What is implied is the nullability of the form. -/
theorem implied_eq_nullability {type : TypeUse} (leaf : type.toKotlin.isWrapper = false) :
    (type.withAnnotations annotations).implied =
      (type.toKotlin.withAnnotations annotations).nullability .kotlin none [] := by
  rw [implied, ← toKotlin_core type leaf, ← toKotlin_withAnnotations, ← core_withAnnotations,
    nullability_toKotlin (isWrapper_core _)]

/-- What a function type implies is read from the annotations of its first source set. -/
theorem implied_of_classRef {type : TypeUse} {head : ClassHead} {arguments : List TypeUse}
    (core : type.core = classRef head arguments) :
    (type.withAnnotations annotations).implied =
      (Nullability.ofAnnotations? annotations.leading).getD .unannotated := by
  rw [implied, core_withAnnotations, core]
  simp [withAnnotations, nullability, canBeNull, statedNullability, leadingAnnotations,
    Nullability.sourceDefault]

/-- Below `T & Any` nothing is read from the annotations. -/
theorem implied_of_nonNull {type inner : TypeUse} (core : type.core = nonNull inner) :
    (type.withAnnotations annotations).implied = .kotlinDefault := by
  rw [implied, core_withAnnotations, core]
  simp [withAnnotations, nullability, canBeNull]

end TypeUse

/-! ## Accepted annotations -/

namespace Context

/-- Whether the configuration accepts an annotation as one that states nullability. -/
def accepts (context : Context) (a : Annotation) : Bool :=
  a.publicForm.isNullability && context.config.isValidNullability a.publicForm.fullName

/-- Annotations that are the same, in the same order, but for accepted nullability annotations. -/
def SameButAccepted (context : Context) (annotations annotations' : List Annotation) : Prop :=
  (annotations'.filter fun a => !context.accepts a) = annotations.filter fun a =>
    !context.accepts a

variable {context : Context} {annotations annotations' : List Annotation}

theorem SameButAccepted.filter (same : context.SameButAccepted annotations annotations')
    (p : Annotation → Bool) :
    context.SameButAccepted (annotations.filter p) (annotations'.filter p) := by
  unfold SameButAccepted at same ⊢
  rw [List.filter_comm, same, List.filter_comm]

theorem SameButAccepted.append_left (same : context.SameButAccepted annotations annotations')
    (more : List Annotation) :
    context.SameButAccepted (more ++ annotations) (more ++ annotations') := by
  unfold SameButAccepted at same ⊢
  rw [List.filter_append, List.filter_append, same]

/-- What is refused is not accepted. -/
theorem find?_refused (annotations : List Annotation) :
    ((annotations.map Annotation.publicForm).find? fun a =>
        a.isNullability && !context.config.isValidNullability a.fullName) =
      ((annotations.filter fun a => !context.accepts a).find? fun a =>
        a.publicForm.isNullability &&
          !context.config.isValidNullability a.publicForm.fullName).map Annotation.publicForm := by
  rw [List.find?_map, List.find?_filter]
  congr 2
  funext a
  by_cases nullability : a.publicForm.isNullability = true
  · simp [accepts, nullability]
  · simp [nullability]

/-- **Accepted annotations are no reason to fail.** -/
theorem SameButAccepted.alike (same : context.SameButAccepted annotations annotations')
    (decisive decisive' : Nullability) :
    Alike (fun _ _ => True) (context.shownAnnotations annotations decisive)
      (context.shownAnnotations annotations' decisive') := by
  unfold SameButAccepted at same
  unfold shownAnnotations
  dsimp only
  rw [find?_refused annotations, find?_refused annotations', same]
  split
  · exact .fails _
  · exact .succeeds trivial

/-- A type has the annotations of its class, or none of them. -/
theorem sameButAccepted_annotationsAt {old new : SourcedAnnotations} {sourceSet : String}
    (same : context.SameButAccepted (old.at sourceSet) (new.at sourceSet)) : ∀ type : TypeUse,
    context.SameButAccepted ((type.withAnnotations old).annotationsAt sourceSet)
      ((type.withAnnotations new).annotationsAt sourceSet)
  | .classRef .. => same
  | .nullable inner => sameButAccepted_annotationsAt same inner
  | .aliased _ inner => sameButAccepted_annotationsAt same inner
  | .nonNull inner => (sameButAccepted_annotationsAt same inner).filter _
  | .parameter _ | .primitive _ | .javaObject _ | .void | .star | .dynamic | .unresolved _
  | .projected .. => rfl

end Context

/-! ## Imposed nullability in Kotlin -/

/-- The displayed type with nullability merged into its own. -/
def ShownType.imposing (n : Nullability) (shown : ShownType) : ShownType :=
  shown.withFace { shown.face with nullability := shown.nullability.or (some n) }

theorem ShownType.face_withFace (face : Face) (shown : ShownType) :
    (shown.withFace face).face = face := by
  cases shown <;> rfl

/-- Two nullabilities make no difference exactly if they are merged to the same. -/
theorem ShownType.imposing_eq_iff (n n' : Nullability) (shown : ShownType) :
    shown.imposing n = shown.imposing n' ↔
      shown.nullability.or (some n) = shown.nullability.or (some n') := by
  constructor
  · intro same
    have faces := congrArg ShownType.face same
    simp only [imposing, face_withFace] at faces
    exact congrArg Face.nullability faces
  · intro same
    rw [imposing, imposing, same]

section

variable {context : Context}

/-- **In Kotlin imposed nullability is seen at the nullability only.** -/
theorem typeOf_imposing (kotlin : context.dialect = .kotlin) (n : Nullability)
    (request : TypeRequest) :
    typeOf context (request.imposing n) = (typeOf context request).map (ShownType.imposing n) := by
  have alike : Alike (ShownType.Imposed context n) (typeOf context request)
      (typeOf context (request.imposing n)) := alike_imposing n request
  generalize typeOf context request = plain at alike ⊢
  generalize typeOf context (request.imposing n) = imposed at alike ⊢
  cases alike with
  | fails e => rfl
  | @succeeds shown shown' merged =>
    have face : shown'.face =
        { shown.face with nullability := shown.nullability.or (some n) } :=
      calc
        shown'.face = ⟨shown'.nullability, shown'.face.dialect, shown'.annotations⟩ := rfl
        _ = ⟨shown.nullability.or (some n), shown.face.dialect, shown.annotations⟩ := by
          rw [merged.nullability, merged.dialect, merged.annotations_kotlin kotlin]
    rw [merged.eq_withFace, face]
    rfl

/-! ## Parts -/

/-- **What is shown of the parts of a function type**, each on its own. -/
structure LambdaParts.ShownAlone (parts : LambdaParts) (context : Context) (sourceSet : SourceSet)
    (receiver : Option ShownType) (parameters : List ShownParameter) (returnType : ShownType) :
    Prop where
  /-- the receiver -/
  receiver : (parts.receiver.mapM fun type =>
      typeOf context { type, fromJava := false, sourceSet }) = .ok receiver
  /-- the parameters -/
  parameters : (parts.parameters.mapM' fun type => lambdaParameterOf context type sourceSet) =
    .ok parameters
  /-- what is returned, without nullability that is imposed -/
  returnType : typeOf context { type := parts.returnType, fromJava := false, sourceSet } =
    .ok returnType

/-- **Two function types with the same parts**, of which two nullabilities are imposed on what
they return. -/
inductive LambdaParts.ShownIn (parts : LambdaParts) (context : Context) (sourceSet : SourceSet)
    (n n' : Nullability) : ShownType → ShownType → Prop where
  /-- only the faces differ, and what is imposed -/
  | lambda {face face' : Face} {isSuspend : Bool} {receiver : Option ShownType}
      {parameters : List ShownParameter} {returnType : ShownType}
      (alone : parts.ShownAlone context sourceSet receiver parameters returnType) :
      ShownIn parts context sourceSet n n'
        (.lambda face isSuspend receiver parameters (returnType.imposing n))
        (.lambda face' isSuspend receiver parameters (returnType.imposing n'))

variable {request : TypeRequest} {old new : SourcedAnnotations}

/-- Function types with the same parts are shown with the same parts. -/
theorem alike_lambdaOf (kotlin : context.dialect = .kotlin) (request : TypeRequest)
    {other : TypeRequest} {form form' : TypeUse} (parts : LambdaParts)
    (sourceSet : other.sourceSet = request.sourceSet)
    (suspending : form'.isSuspending = form.isSuspending)
    (accepted : context.SameButAccepted request.annotations other.annotations) :
    Alike (parts.ShownIn context request.sourceSet (form.nullability .kotlin none [])
        (form'.nullability .kotlin none []))
      (lambdaOf context request form parts) (lambdaOf context other form' parts) := by
  have returned : ∀ n,
      typeOf context
          { type := parts.returnType, fromJava := false, sourceSet := request.sourceSet,
            imposed := some n } =
        (typeOf context
          { type := parts.returnType, fromJava := false, sourceSet := request.sourceSet }).map
            (ShownType.imposing n) := fun n =>
    typeOf_imposing kotlin n
      { type := parts.returnType, fromJava := false, sourceSet := request.sourceSet }
  unfold lambdaOf
  simp only [sourceSet, suspending, kotlin, returned]
  refine .bind_same _ fun receiver receivers => ?_
  refine .bind_same _ fun parameters shownParameters => ?_
  cases alone : typeOf context
      { type := parts.returnType, fromJava := false, sourceSet := request.sourceSet } with
  | error e => exact .fails e
  | ok returnType =>
    change Alike _ (form.isSuspending >>= _) (form.isSuspending >>= _)
    refine .bind_same _ fun isSuspend _ => ?_
    refine (accepted.alike _ _).bind fun _ _ _ => ?_
    exact .succeeds (.lambda ⟨receivers, shownParameters, alone⟩)

/-- The forms of function types with other annotations are shown with the same parts. -/
theorem alike_shownForm (kotlin : context.dialect = .kotlin) {type type' form : TypeUse}
    {parts : LambdaParts} (function : form.isFunctionType = .ok true)
    (split : form.lambdaParts = .ok parts) (arguments : List ShownType)
    (accepted : context.SameButAccepted { request with type }.annotations
      { request with type := type' }.annotations) :
    Alike (parts.ShownIn context request.sourceSet
        ((form.withAnnotations old).nullability .kotlin none [])
        ((form.withAnnotations new).nullability .kotlin none []))
      (shownForm context { request with type } arguments (form.withAnnotations old))
      (shownForm context { request with type := type' } arguments (form.withAnnotations new)) := by
  have suspending : (form.withAnnotations new).isSuspending =
      (form.withAnnotations old).isSuspending := by simp
  unfold shownForm renderFormBy
  simp only [kotlin, attempt_eq, renderLambdaBy_eq, TypeUse.isFunctionType_withAnnotations,
    TypeUse.lambdaParts_withAnnotations, function, split]
  refine (accepted.alike _ _).bind fun _ _ _ => ?_
  exact alike_lambdaOf kotlin { request with type } parts rfl suspending accepted

/-- **Annotations that are accepted** are seen at what a function type returns, and at no other
part. -/
theorem alike_withAnnotations (kotlin : context.dialect = .kotlin) (request : TypeRequest)
    (type : TypeUse)
    (accepted :
      context.SameButAccepted (old.at request.sourceSet.name) (new.at request.sourceSet.name))
    {parts : LambdaParts} (function : type.core.toKotlin.isFunctionType = .ok true)
    (split : type.core.toKotlin.lambdaParts = .ok parts) :
    Alike (parts.ShownIn context request.sourceSet (type.withAnnotations old).implied
        (type.withAnnotations new).implied)
      (typeOf context { request with type := type.withAnnotations old })
      (typeOf context { request with type := type.withAnnotations new }) := by
  induction size : type.nodes using Nat.strongRecOn generalizing request type with
  | ind size ih =>
    subst size
    have arguments : ∀ annotations, shownArguments context
        { request with type := type.withAnnotations annotations } =
          shownArguments context { request with type } := fun annotations => by
      rw [shownArguments, TypeUse.writtenArguments_withAnnotations]
      rfl
    have others : context.SameButAccepted
        { request with type := type.withAnnotations old }.annotations
        { request with type := type.withAnnotations new }.annotations :=
      ((Context.sameButAccepted_annotationsAt accepted type).append_left request.carried).filter _
    rw [typeOf_kotlin kotlin, typeOf_kotlin kotlin, arguments, arguments]
    refine .bind_same _ fun arguments _ => ?_
    simp only [TypeUse.toKotlin_withAnnotations]
    cases wrapper : type.toKotlin.isWrapper with
    | false =>
      rw [type.toKotlin_core wrapper] at function split
      rw [TypeUse.implied_eq_nullability _ wrapper, TypeUse.implied_eq_nullability _ wrapper,
        shownBelow_of_not_isWrapper (by simpa using wrapper),
        shownBelow_of_not_isWrapper (by simpa using wrapper)]
      exact alike_shownForm kotlin function split arguments others
    | true =>
      obtain ⟨core, -, notProjected⟩ := type.toKotlin_of_isWrapper wrapper
      -- what is inside of the form implies what the type does, since it has the same core
      have inside : ∀ inner, type.toKotlin.inside? = some inner → inner.core = type.core →
          ∀ below : TypeRequest, below.sourceSet = request.sourceSet →
            Alike (parts.ShownIn context request.sourceSet (type.withAnnotations old).implied
                (type.withAnnotations new).implied)
              (typeOf context { below with type := inner.withAnnotations old })
              (typeOf context { below with type := inner.withAnnotations new }) := by
        intro inner inside core below sourceSet
        have lt := Nat.lt_of_lt_of_le (TypeUse.nodes_lt_of_inside? inside) type.nodes_toKotlin_le
        rw [← TypeUse.implied_of_core_eq _ core, ← TypeUse.implied_of_core_eq _ core, ← sourceSet]
        exact ih _ lt below inner (sourceSet ▸ accepted) (core ▸ function) (core ▸ split) rfl
      cases form : type.toKotlin with
      | nullable inner =>
        rw [form] at core inside
        exact inside inner rfl core (request.forNullable inner) rfl
      | aliased named inner =>
        rw [form] at core inside
        exact inside inner rfl core (request.forAliased inner) rfl
      | projected variance inner => exact absurd form (notProjected variance inner)
      | classRef | parameter | primitive | javaObject | void | star | dynamic | unresolved
      | nonNull =>
        rw [form] at wrapper
        cases wrapper

end

/-- **What a function type is made of** does not depend on whether accepted nullability annotations
are on it, but for the nullability of what it returns. That is merged with what the annotations
state, so it stays the same exactly if it is merged with both to the same; below `T & Any` it
always does. -/
theorem function_type_parts {context : Context} (kotlin : context.dialect = .kotlin)
    (request : TypeRequest) (type : TypeUse) {old new : SourcedAnnotations}
    (accepted :
      context.SameButAccepted (old.at request.sourceSet.name) (new.at request.sourceSet.name))
    {parts : LambdaParts} (function : type.core.toKotlin.isFunctionType = .ok true)
    (split : type.core.toKotlin.lambdaParts = .ok parts) :
    let stated := (type.withAnnotations old).implied
    let stated' := (type.withAnnotations new).implied
    Alike
      (fun shown shown' => ∃ face face' isSuspend receiver parameters returnType,
        parts.ShownAlone context request.sourceSet receiver parameters returnType ∧
          shown = .lambda face isSuspend receiver parameters (returnType.imposing stated) ∧
          shown' = .lambda face' isSuspend receiver parameters (returnType.imposing stated') ∧
          (returnType.imposing stated = returnType.imposing stated' ↔
            returnType.nullability.or (some stated) = returnType.nullability.or (some stated')))
      (typeOf context { request with type := type.withAnnotations old })
      (typeOf context { request with type := type.withAnnotations new }) ∧
    (∀ inner, type.core = .nonNull inner → stated = stated') ∧
    ∀ head arguments, type.core = .classRef head arguments →
      stated = (Nullability.ofAnnotations? old.leading).getD .unannotated ∧
        stated' = (Nullability.ofAnnotations? new.leading).getD .unannotated := by
  intro stated stated'
  refine ⟨?_, fun inner core => ?_, fun head arguments core => ?_⟩
  · have alike := alike_withAnnotations kotlin request type accepted function split
    generalize typeOf context { request with type := type.withAnnotations old } = first at alike ⊢
    generalize typeOf context { request with type := type.withAnnotations new } = second at alike ⊢
    cases alike with
    | fails e => exact .fails e
    | succeeds same =>
      cases same with
      | lambda alone =>
        exact .succeeds ⟨_, _, _, _, _, _, alone, rfl, rfl, ShownType.imposing_eq_iff _ _ _⟩
  · exact (TypeUse.implied_of_nonNull old core).trans (TypeUse.implied_of_nonNull new core).symm
  · exact ⟨TypeUse.implied_of_classRef old core, TypeUse.implied_of_classRef new core⟩

/-- The request for a function type that returns a string. -/
def supplier : TypeRequest where
  type := .classRef { identity := .ofClass "kotlin" "Function0", form := .functional false false }
    [.classRef { identity := .ofClass "kotlin" "String" } []]
  fromJava := false
  sourceSet := ⟨.jvm, "jvmMain"⟩

/-- The annotations of something that can be null. -/
def markedNullable : SourcedAnnotations :=
  .insert ∅ "jvmMain" [.ofClass "androidx.annotation" "Nullable"]

/-- If `supplier` can be null, the string that it returns is shown as if it could. -/
theorem function_type_parts_supplier :
    let context := Context.reference .kotlin {}
    let string : TypeUse := .classRef { identity := .ofClass "kotlin" "String" } []
    let plain := typeOf context { supplier with type := supplier.type.withAnnotations ∅ }
    let marked :=
      typeOf context { supplier with type := supplier.type.withAnnotations markedNullable }
    context.SameButAccepted (SourcedAnnotations.at ∅ "jvmMain") (markedNullable.at "jvmMain") ∧
      supplier.type.core.toKotlin.isFunctionType = .ok true ∧
      supplier.type.core.toKotlin.lambdaParts = .ok ⟨none, [], string⟩ ∧
      ShownType.text <$> plain = .ok "() -> String" ∧
      ShownType.text <$> marked = .ok "(() -> String?)?" ∧
      ∃ face face' isSuspend receiver parameters returned returned',
        plain = .ok (.lambda face isSuspend receiver parameters returned) ∧
          marked = .ok (.lambda face' isSuspend receiver parameters returned') ∧
            returned ≠ returned' := by
  intro context string plain marked
  have accepted : context.SameButAccepted (SourcedAnnotations.at ∅ "jvmMain")
      (markedNullable.at "jvmMain") := by
    unfold Context.SameButAccepted
    decide +kernel
  have function : supplier.type.core.toKotlin.isFunctionType = .ok true := by decide +kernel
  have form : supplier.type.core.toKotlin = supplier.type := by decide +kernel
  have split : supplier.type.core.toKotlin.lambdaParts = .ok ⟨none, [], string⟩ := by
    rw [form]
    rfl
  refine ⟨accepted, function, split, by decide +kernel, by decide +kernel, ?_⟩
  have stated : (supplier.type.withAnnotations ∅).implied = .unannotated := by decide +kernel
  have stated' : (supplier.type.withAnnotations markedNullable).implied = .annotatedNullable := by
    decide +kernel
  have stringShown : ShownType.nullability <$>
      typeOf context { type := string, fromJava := false, sourceSet := supplier.sourceSet } =
        .ok .kotlinDefault := by
    decide +kernel
  obtain ⟨alone, shownAlone, notNull⟩ := map_eq_ok.mp stringShown
  obtain ⟨shown, found⟩ := exists_of_isOk plain (by decide +kernel)
  obtain ⟨shown', found'⟩ := exists_of_isOk marked (by decide +kernel)
  obtain ⟨alike, -, -⟩ := function_type_parts rfl supplier supplier.type accepted function split
  rw [stated, stated'] at alike
  change Alike _ plain marked at alike
  rw [found, found'] at alike
  cases alike with
  | succeeds parts =>
    obtain ⟨face, face', isSuspend, receiver, parameters, returned, shows, rfl, rfl, same⟩ := parts
    cases shows.returnType.symm.trans shownAlone
    refine ⟨face, face', isSuspend, receiver, parameters, _, _, found, found', fun equal => ?_⟩
    have merged := same.mp equal
    rw [notNull] at merged
    revert merged
    decide

end Diglot
