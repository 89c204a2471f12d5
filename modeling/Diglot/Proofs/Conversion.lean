import Diglot.Proofs.NullableTypes

/-!
# Types that are converted to Kotlin beforehand

Kotlin converts the type of a parameter before it shows it, and shows a declared type as it is
written. What it shows of a type it takes from two forms, the written one (type arguments and
annotations) and the converted one (name and nullability), so the two ways agree where the
conversion leaves what is taken from the written form: for types that are steady
(`TypeUse.isSteady`).

* `Context.visibleAnnotations_append` — annotations that Kotlin neither displays nor refuses make
  no difference.
* `toKotlin_toKotlin` — a steady type is not converted any further.
* `typeOf_toKotlin` — a steady type is shown as its Kotlin form is.
* `typeOf_congr` — of its surroundings a type depends on what they impose, and only through the
  resolved nullability.

An array of a Java primitive is not steady: the Kotlin form has no type argument, but the
written one has, and it is shown. Neither is a type under variance with annotations that Kotlin
would display: variance does not re-expose them.
-/

namespace Diglot

open Annotation

/-! ## Names -/

namespace Identity

/-- A class has the Kotlin name of some mapped class, or it keeps its name. -/
theorem toKotlin_eq_or (identity : Identity) :
    identity.toKotlin = identity ∨
      ∃ m ∈ mappedBothWays, identity.toKotlin = identity.renamed m.kotlin := by
  unfold toKotlin
  split
  · exact Or.inl rfl
  · split
    · rename_i m found
      exact Or.inr ⟨m, List.mem_of_find?_eq_some found, rfl⟩
    · exact Or.inl rfl

/-- What is no Java name of a mapped class stays. -/
theorem toKotlin_eq_self {identity : Identity} {name : String}
    (named : identity.classNames = some name)
    (unmapped : mappedBothWays.find? (fun m => m.java = (identity.package, name)) = none) :
    identity.toKotlin = identity := by
  simp only [toKotlin, named, unmapped]

/-- What is in a package of Kotlin stays. -/
theorem toKotlin_of_package {identity : Identity} (kotlin : identity.package ∈ kotlinPackages) :
    identity.toKotlin = identity := by
  cases named : identity.classNames with
  | none => simp only [toKotlin, named]
  | some name =>
    refine toKotlin_eq_self named (List.find?_eq_none.mpr fun m mem java => ?_)
    have moved := (packages_mapped m (List.mem_append_left _ mem)).2
    rw [of_decide_eq_true java] at moved
    exact moved kotlin

/-- Kotlin names are not renamed again. -/
theorem toKotlin_toKotlin (identity : Identity) :
    identity.toKotlin.toKotlin = identity.toKotlin := by
  rcases identity.toKotlin_eq_or with same | ⟨m, mem, renamed⟩
  · rw [same, same]
  · rw [renamed]
    exact toKotlin_of_package (packages_mapped m (List.mem_append_left _ mem)).1

/-- No class of Java is the Kotlin class of arrays. -/
theorem isClass_array_toKotlin {identity : Identity}
    (array : identity.toKotlin.isClass "kotlin" "Array" = true) :
    identity.isClass "kotlin" "Array" = true := by
  have others : ∀ m ∈ mappedBothWays, m.kotlin ≠ ("kotlin", "Array") := by
    decide
  rcases identity.toKotlin_eq_or with same | ⟨m, mem, renamed⟩
  · rwa [same] at array
  · rw [renamed] at array
    simp only [isClass, Identity.renamed, className, Option.getD_some, Bool.and_eq_true] at array
    have same : m.kotlin = ("kotlin", "Array") :=
      Prod.ext (of_decide_eq_true array.1) (of_decide_eq_true array.2)
    exact absurd same (others m mem)

end Identity

/-! ## Annotations -/

namespace Annotation

/-- What is added at the end of a list leaves the members kept before it. -/
theorem exists_distinctFrom_append (annotations more : List Annotation) (seen : List String) :
    ∃ seen', distinctFrom seen (annotations ++ more) =
      distinctFrom seen annotations ++ distinctFrom seen' more := by
  induction annotations generalizing seen with
  | nil => exact ⟨seen, rfl⟩
  | cons a rest ih =>
    rw [List.cons_append, distinctFrom, distinctFrom]
    split
    · exact ih seen
    · obtain ⟨seen', eq⟩ := ih (a.identifier :: seen)
      exact ⟨seen', by rw [eq, List.cons_append]⟩

end Annotation

namespace Context

/-- The annotations that Kotlin displays: nullability has no part in it. -/
def visibleAnnotations (context : Context) (annotations : List Annotation) :
    Except RenderError (List ShownAnnotation) :=
  context.shownAnnotations annotations .unimportant

/-- An annotation that Kotlin neither displays nor refuses. -/
def isSilent (context : Context) (a : Annotation) : Bool :=
  if a.publicForm.isNullability then context.config.isValidNullability a.publicForm.fullName
  else context.isNoise a.publicForm

variable {context : Context}

theorem isShown_kotlin (kotlin : context.dialect = .kotlin) (n : Nullability) (a : Annotation) :
    context.isShown n a = (!context.isNoise a && !a.isNullability) := by
  simp [isShown, kotlin]

theorem shownAnnotations_kotlin (kotlin : context.dialect = .kotlin)
    (annotations : List Annotation) (n : Nullability) :
    context.shownAnnotations annotations n = context.visibleAnnotations annotations := by
  have same : context.isShown n = context.isShown .unimportant :=
    funext fun a => by rw [isShown_kotlin kotlin, isShown_kotlin kotlin]
  simp only [visibleAnnotations, shownAnnotations, same, kotlin]
  rfl

/-- A silent annotation is not refused, and not displayed. -/
theorem not_refused_of_isSilent {a : Annotation} (silent : context.isSilent a = true) :
    (a.publicForm.isNullability &&
      !context.config.isValidNullability a.publicForm.fullName) = false := by
  unfold isSilent at silent
  split at silent
  · rw [silent, Bool.not_true, Bool.and_false]
  · rename_i other
    rw [Bool.not_eq_true] at other
    rw [other, Bool.false_and]

theorem isShown_of_isSilent (kotlin : context.dialect = .kotlin) {a : Annotation}
    (silent : context.isSilent a = true) (n : Nullability) :
    context.isShown n a.publicForm = false := by
  rw [isShown_kotlin kotlin]
  unfold isSilent at silent
  split at silent
  · rename_i nullability
    rw [nullability, Bool.not_true, Bool.and_false]
  · rw [silent, Bool.not_true, Bool.false_and]

/-- **Silent annotations at the end** make no difference. -/
theorem visibleAnnotations_append (kotlin : context.dialect = .kotlin)
    (annotations : List Annotation) {more : List Annotation}
    (silent : ∀ a ∈ more, context.isSilent a = true) :
    context.visibleAnnotations (annotations ++ more) = context.visibleAnnotations annotations := by
  have accepted : (more.map publicForm).find? (fun a =>
      a.isNullability && !context.config.isValidNullability a.fullName) = none := by
    rw [List.find?_eq_none]
    intro form mem
    obtain ⟨a, memA, rfl⟩ := List.mem_map.mp mem
    rw [not_refused_of_isSilent (silent a memA)]
    simp
  have hidden : ∀ seen, (distinctFrom seen (more.map publicForm)).filter
      (context.isShown .unimportant) = [] := by
    intro seen
    rw [List.filter_eq_nil_iff]
    intro form mem
    obtain ⟨a, memA, rfl⟩ :=
      List.mem_map.mp ((distinctFrom_sublist seen _).subset mem)
    rw [isShown_of_isSilent kotlin (silent a memA)]
    simp
  obtain ⟨seen, eq⟩ := exists_distinctFrom_append
    (annotations.map publicForm) (more.map publicForm) []
  simp only [visibleAnnotations, shownAnnotations, kotlin, List.map_append, List.find?_append,
    accepted, Option.or_none, reduceCtorEq, decide_false, Bool.false_and, Bool.false_eq_true,
    if_false, List.append_nil, distinct, eq, List.filter_append, hidden]

end Context

/-! ## Steady types -/

namespace TypeUse

mutual

/-- **Types of which the Kotlin form shows what the written form shows** in a source set. An
array must not be one of Java primitives, and what stands under variance must not have
annotations other than silent ones. Below other wrappers nothing is converted. -/
def isSteady (context : Context) (sourceSet : String) : TypeUse → Bool
  | classRef head arguments =>
    (primitiveArray? head (toKotlinList arguments)).isNone &&
      isSteadyList context sourceSet arguments
  | projected _ inner =>
    inner.isSteady context sourceSet &&
      (inner.isWrapper || (inner.annotationsAt sourceSet).all context.isSilent)
  | _ => true

/-- Whether every type of a list is steady. -/
def isSteadyList (context : Context) (sourceSet : String) : List TypeUse → Bool
  | [] => true
  | first :: rest => first.isSteady context sourceSet && isSteadyList context sourceSet rest

end

variable {context : Context} {sourceSet : String}

/-- Arrays of Java primitives have one argument. -/
theorem primitiveArray?_eq_some {head : ClassHead} {arguments : List TypeUse}
    {element : Primitive} (found : primitiveArray? head arguments = some element) :
    head.identity.isClass "kotlin" "Array" = true ∧
      ∃ name, arguments = [primitive name] ∧ Primitive.ofJavaName? name = some element := by
  unfold primitiveArray? at found
  split at found
  · split at found
    · rename_i array
      exact ⟨array, _, rfl, found⟩
    · cases found
  · cases found

/-- An array is one of Java primitives if it is one under its Kotlin name. -/
theorem primitiveArray?_of_toKotlin {head : ClassHead} {arguments : List TypeUse}
    {element : Primitive} (found :
      primitiveArray? { head with identity := head.identity.toKotlin } arguments = some element) :
    primitiveArray? head arguments = some element := by
  obtain ⟨array, name, rfl, java⟩ := primitiveArray?_eq_some found
  rw [primitiveArray?, if_pos (Identity.isClass_array_toKotlin array), java]

/-- What is no array of Java primitives with converted arguments is none as it is written: a
Java primitive is converted to itself. -/
theorem primitiveArray?_eq_none {head : ClassHead} {arguments : List TypeUse}
    (converted : primitiveArray? head (toKotlinList arguments) = none) :
    primitiveArray? head arguments = none := by
  cases found : primitiveArray? head arguments with
  | none => rfl
  | some element =>
    obtain ⟨-, name, rfl, -⟩ := primitiveArray?_eq_some found
    exact found.symm.trans converted

/-- A steady class reference is renamed, and its arguments are converted. -/
theorem toKotlin_classRef {head : ClassHead} {arguments : List TypeUse}
    (steady : (classRef head arguments).isSteady context sourceSet = true) :
    (classRef head arguments).toKotlin = renamedToKotlin head (toKotlinList arguments) := by
  simp only [isSteady, Bool.and_eq_true, Option.isNone_iff_eq_none] at steady
  rw [toKotlin, primitiveArray?_eq_none steady.1]

mutual

/-- **Steady types are converted once.** -/
theorem toKotlin_toKotlin : ∀ type : TypeUse, type.isSteady context sourceSet = true →
    type.toKotlin.toKotlin = type.toKotlin
  | classRef head arguments, steady => by
    rw [toKotlin_classRef steady]
    simp only [isSteady, Bool.and_eq_true, Option.isNone_iff_eq_none] at steady
    have arguments' := toKotlinList_toKotlinList arguments steady.2
    have unmapped : primitiveArray? { head with identity := head.identity.toKotlin }
        (toKotlinList arguments) = none := by
      cases found : primitiveArray? { head with identity := head.identity.toKotlin }
          (toKotlinList arguments) with
      | none => rfl
      | some element => exact (primitiveArray?_of_toKotlin found).symm.trans steady.1
    rw [renamedToKotlin, toKotlin, unmapped, arguments']
    simp only [renamedToKotlin, Identity.toKotlin_toKotlin]
  | projected _ inner, steady => by
    simp only [isSteady, Bool.and_eq_true] at steady
    exact toKotlin_toKotlin inner steady.1
  | nullable _, _ | nonNull _, _ | aliased .., _ | parameter _, _ | primitive _, _
  | javaObject _, _ | void, _ | star, _ | dynamic, _ | unresolved _, _ => rfl

/-- Lists of steady types are converted once. -/
theorem toKotlinList_toKotlinList : ∀ types : List TypeUse,
    isSteadyList context sourceSet types = true →
      toKotlinList (toKotlinList types) = toKotlinList types
  | [], _ => rfl
  | first :: rest, steady => by
    simp only [isSteadyList, Bool.and_eq_true] at steady
    simp only [toKotlinList, toKotlin_toKotlin first steady.1,
      toKotlinList_toKotlinList rest steady.2]

end

end TypeUse

/-! ## What a display in Kotlin depends on -/

section

variable {context : Context} {request : TypeRequest}

/-- A form is shown by its nullability, its visible annotations, and the sources it is from. -/
theorem shownForm_congr (kotlin : context.dialect = .kotlin) {other : TypeRequest}
    {arguments : List ShownType} {form : TypeUse} (source : other.fromJava = request.fromJava)
    (sourceSet : other.sourceSet = request.sourceSet)
    (annotations : context.visibleAnnotations other.annotations =
      context.visibleAnnotations request.annotations)
    (nullability :
      other.nullability context.dialect form = request.nullability context.dialect form) :
    shownForm context other arguments form = shownForm context request arguments form := by
  unfold shownForm renderFormBy renderLambdaBy
  simp only [source, sourceSet, nullability, context.shownAnnotations_kotlin kotlin, annotations]

/-- Kotlin converts on the spot, and shows what it comes to. -/
theorem typeOf_kotlin (kotlin : context.dialect = .kotlin) (request : TypeRequest) :
    typeOf context request = (shownArguments context request).bind fun arguments =>
      shownBelow context request arguments request.type.toKotlin := by
  rw [typeOf_eq, Context.writtenForm_kotlin kotlin]
  rfl

/-- **Of two types with one Kotlin form** the same is shown, if they have the same type arguments
and the same visible annotations. -/
theorem typeOf_of_toKotlin_eq (kotlin : context.dialect = .kotlin) (request : TypeRequest)
    {type : TypeUse}
    (arguments : shownArguments context { request with type } = shownArguments context request)
    (form : type.toKotlin = request.type.toKotlin)
    (annotations : request.type.toKotlin.isWrapper = false →
      context.visibleAnnotations { request with type }.annotations =
        context.visibleAnnotations request.annotations) :
    typeOf context { request with type } = typeOf context request := by
  rw [typeOf_kotlin kotlin, typeOf_kotlin kotlin, arguments]
  dsimp only
  rw [form]
  refine congrArg (Except.bind (shownArguments context request)) (funext fun shown => ?_)
  cases written : request.type.toKotlin with
  | nullable | projected | aliased => rfl
  | classRef | nonNull | parameter | primitive | javaObject | void | star | dynamic
  | unresolved =>
    rw [written] at annotations
    exact shownForm_congr kotlin rfl rfl (annotations rfl) rfl

/-- Silent annotations of a type are not visible in what is requested. -/
theorem visibleAnnotations_of_silent (kotlin : context.dialect = .kotlin) (request : TypeRequest)
    {type : TypeUse} (bare : type.annotationsAt request.sourceSet.name = [])
    (silent : (request.type.annotationsAt request.sourceSet.name).all context.isSilent = true) :
    context.visibleAnnotations { request with type }.annotations =
      context.visibleAnnotations request.annotations := by
  simp only [TypeRequest.annotations, bare, List.append_nil, List.filter_append]
  refine (Context.visibleAnnotations_append kotlin _ fun a mem => ?_).symm
  exact List.all_eq_true.mp silent a (List.mem_filter.mp mem).1

/-- **Kotlin lets variance pass**, unless it hides annotations. -/
theorem typeOf_projected (kotlin : context.dialect = .kotlin) {variance : Variance}
    {inner : TypeUse}
    (steady :
      (TypeUse.projected variance inner).isSteady context request.sourceSet.name = true) :
    typeOf context { request with type := .projected variance inner } =
      typeOf context { request with type := inner } := by
  refine typeOf_of_toKotlin_eq kotlin { request with type := inner } rfl rfl ?_
  intro leaf
  simp only [TypeUse.isSteady, Bool.and_eq_true, Bool.or_eq_true] at steady
  rcases steady.2 with wrapper | silent
  · -- other wrappers than variance stay
    cases inner with
    | nullable | aliased => cases leaf
    | projected => rfl
    | classRef | nonNull | parameter | primitive | javaObject | void | star | dynamic
    | unresolved => cases wrapper
  · exact visibleAnnotations_of_silent kotlin { request with type := inner } rfl silent

/-! ## Conversion beforehand -/

mutual

/-- **A steady type is shown as its Kotlin form is.** -/
theorem typeOf_toKotlin (kotlin : context.dialect = .kotlin) : ∀ (type : TypeUse)
    (request : TypeRequest), type.isSteady context request.sourceSet.name = true →
      typeOf context { request with type := type.toKotlin } = typeOf context { request with type }
  | .classRef head arguments, request, steady => by
    have once := TypeUse.toKotlin_toKotlin _ steady
    have converted := TypeUse.toKotlin_classRef steady
    simp only [TypeUse.isSteady, Bool.and_eq_true] at steady
    refine typeOf_of_toKotlin_eq kotlin { request with type := .classRef head arguments }
      ?_ once fun _ => ?_
    · rw [converted]
      exact shown_toKotlinList kotlin arguments request steady.2
    · rw [converted]
      rfl
  | .projected variance inner, request, steady => by
    rw [typeOf_projected kotlin steady]
    simp only [TypeUse.isSteady, Bool.and_eq_true] at steady
    exact typeOf_toKotlin kotlin inner request steady.1
  | .nullable _, _, _ | .nonNull _, _, _ | .aliased .., _, _ | .parameter _, _, _
  | .primitive _, _, _ | .javaObject _, _, _ | .void, _, _ | .star, _, _ | .dynamic, _, _
  | .unresolved _, _, _ => rfl

/-- Steady type arguments are shown as their Kotlin forms are. -/
theorem shown_toKotlinList (kotlin : context.dialect = .kotlin) : ∀ (types : List TypeUse)
    (request : TypeRequest), TypeUse.isSteadyList context request.sourceSet.name types = true →
      ((TypeUse.toKotlinList types).mapM' fun type => typeOf context (request.forArgument type)) =
        types.mapM' fun type => typeOf context (request.forArgument type)
  | [], _, _ => rfl
  | first :: rest, request, steady => by
    simp only [TypeUse.isSteadyList, Bool.and_eq_true] at steady
    have shown := typeOf_toKotlin kotlin first (request.forArgument first) steady.1
    have others := shown_toKotlinList kotlin rest request steady.2
    rw [TypeUse.toKotlinList, List.mapM'_cons, List.mapM'_cons, others]
    refine congrArg (· >>= _) shown

end

/-! ## What the surroundings impose -/

/-- A form that is no wrapper resolves as the type does that Kotlin writes so. -/
theorem TypeRequest.nullability_toKotlin (request : TypeRequest)
    (leaf : request.type.toKotlin.isWrapper = false) :
    request.nullability .kotlin request.type.toKotlin = request.resolved := by
  rw [← request.resolved_of_not_isWrapper leaf, request.resolved_toKotlin]

/-- **Of what the surroundings impose** Kotlin shows the resolved nullability only. It makes no
difference whether the type is returned, or can be a Java primitive. -/
theorem typeOf_congr (kotlin : context.dialect = .kotlin) (request : TypeRequest)
    {isReturn mustBox : Bool} {imposed : Option Nullability}
    (resolved : { request with isReturn, mustBox, imposed }.resolved = request.resolved) :
    typeOf context { request with isReturn, mustBox, imposed } = typeOf context request := by
  -- below wrappers the surroundings differ again, and resolve to the same
  induction size : request.type.nodes using Nat.strongRecOn
    generalizing request isReturn mustBox imposed with
  | ind size ih =>
    subst size
    have le := request.type.nodes_toKotlin_le
    rw [typeOf_kotlin kotlin, typeOf_kotlin kotlin request]
    refine congrArg (Except.bind (shownArguments context request)) (funext fun shown => ?_)
    have same :
        { request with type := request.type.toKotlin, isReturn, mustBox, imposed }.resolved =
          { request with type := request.type.toKotlin }.resolved := by
      rw [request.resolved_toKotlin, ← resolved]
      exact TypeRequest.resolved_toKotlin { request with isReturn, mustBox, imposed }
    dsimp only
    cases written : request.type.toKotlin with
    | nullable inner =>
      rw [written] at le same
      refine ih _ le (request.forNullable inner) ?_ rfl
      rw [request.resolved_forNullable, ← same]
      exact TypeRequest.resolved_forNullable { request with isReturn, mustBox, imposed } inner
    | projected variance inner =>
      rw [written] at le same
      exact ih _ le (request.forProjected inner) same rfl
    | aliased named inner =>
      rw [written] at le same
      have lt := Nat.lt_of_lt_of_le (TypeUse.nodes_lt_of_inside? rfl) le
      exact ih _ lt (request.forAliased inner) same rfl
    | classRef | nonNull | parameter | primitive | javaObject | void | star | dynamic
    | unresolved =>
      have leaf : request.type.toKotlin.isWrapper = false := by rw [written]; rfl
      refine shownForm_congr kotlin rfl rfl rfl ?_
      rw [← written, kotlin, request.nullability_toKotlin leaf, ← resolved]
      exact TypeRequest.nullability_toKotlin { request with isReturn, mustBox, imposed } leaf

end

/-! ## Parameters and declared types -/

namespace TypeUse

variable (dialect : Dialect) (fromJava : Option Bool)

/-- A type with a nullable wrapper is stated to be nullable. -/
theorem nullability_of_isNullable : ∀ (type : TypeUse) (carried : List Annotation),
    type.isNullable = true → type.nullability dialect fromJava carried = .kotlinNullable
  | nullable _, _, _ => by
    rw [nullability]
    rfl
  | projected _ inner, _, wrapped => by
    rw [nullability]
    exact nullability_of_isNullable inner [] wrapped
  | aliased _ inner, _, wrapped => by
    rw [nullability]
    exact nullability_of_isNullable inner [] wrapped

/-- Of a type without a nullable wrapper is stated what is stated of its core. What is handed to the
type may not reach the core. -/
theorem exists_nullability_core : ∀ (type : TypeUse) (carried : List Annotation),
    type.isNullable = false → ∃ reaching, (reaching = carried ∨ reaching = []) ∧
      type.nullability dialect fromJava carried =
        type.core.nullability dialect fromJava reaching
  | projected _ inner, _, notNullable => by
    obtain ⟨reaching, none | none, eq⟩ := exists_nullability_core inner [] notNullable <;>
    · rw [nullability, core]
      exact ⟨reaching, Or.inr none, eq⟩
  | aliased _ inner, _, notNullable => by
    obtain ⟨reaching, none | none, eq⟩ := exists_nullability_core inner [] notNullable <;>
    · rw [nullability, core]
      exact ⟨reaching, Or.inr none, eq⟩
  | classRef .., carried, _ | parameter _, carried, _ | primitive _, carried, _
  | javaObject _, carried, _ | void, carried, _ | star, carried, _ | dynamic, carried, _
  | unresolved _, carried, _ | nonNull _, carried, _ => ⟨carried, Or.inl rfl, rfl⟩

/-- What is handed to a type makes its statement no weaker. -/
theorem rank_statedNullability_le (type : TypeUse) (carried : List Annotation) :
    (type.statedNullability fromJava carried).rank ≤
      (type.statedNullability fromJava []).rank := by
  have weakest : Nullability.annotatedNonNull.rank ≤
      (Nullability.sourceDefault fromJava).rank := by
    unfold Nullability.sourceDefault
    split <;> decide
  simp only [statedNullability, Nullability.ofAnnotations?, List.any_append, List.nil_append,
    Bool.or_eq_true]
  by_cases nullable : type.leadingAnnotations.any marksNullable = true
  · simp [nullable]
  · by_cases nonNull : type.leadingAnnotations.any marksNonNull = true
    · simp only [nullable, nonNull, or_true, if_true]
      split <;> simp [Nullability.rank]
    · simp only [nullable, nonNull]
      split
      · exact Nat.le_trans (by simp [Nullability.rank]) weakest
      · split
        · exact weakest
        · exact Nat.le_refl _

/-- What is handed to a core makes its nullability no weaker. -/
theorem rank_nullability_le {core : TypeUse} (leaf : core.isWrapper = false)
    (carried : List Annotation) :
    (core.nullability dialect fromJava carried).rank ≤
      (core.nullability dialect fromJava []).rank := by
  unfold nullability
  split
  · cases core with
    | classRef | parameter | javaObject | unresolved | primitive =>
      exact rank_statedNullability_le fromJava _ carried
    | nonNull | dynamic | star | void => exact Nat.le_refl _
    | nullable | projected | aliased => cases leaf
  · exact Nat.le_refl _

end TypeUse

/-- **To impose what is stated of a type** makes no difference. -/
theorem TypeRequest.resolved_stated {request : TypeRequest} (free : request.imposed = none) :
    { request with
      imposed := some (request.type.nullability .kotlin (some request.fromJava)
        request.carried) }.resolved = request.resolved := by
  cases wrapped : request.type.isNullable with
  | true =>
    simp only [resolved, wrapped, free,
      TypeUse.nullability_of_isNullable .kotlin (some request.fromJava) _ request.carried wrapped]
    rfl
  | false =>
    obtain ⟨reaching, reached, stated⟩ := TypeUse.exists_nullability_core .kotlin
      (some request.fromJava) request.type request.carried wrapped
    have le : (request.type.core.nullability .kotlin (some request.fromJava)
        request.carried).rank ≤
        (request.type.core.nullability .kotlin (some request.fromJava) reaching).rank := by
      rcases reached with rfl | rfl
      · exact Nat.le_refl _
      · exact TypeUse.rank_nullability_le _ _ request.type.isWrapper_core _
    simp only [resolved, wrapped, free, stated]
    exact if_neg (Nat.not_lt.mpr le)

section

variable {context : Context}

/-- **A steady type is shown in the same way** for a parameter and for a declaration that hand
the same annotations to it. -/
theorem declaredTypeOf_eq_of_isSteady (kotlin : context.dialect = .kotlin) {parameter : Parameter}
    {declaration : Declaration} {sourceSet : SourceSet} {isReturn : Bool}
    (steady : parameter.type.isSteady context sourceSet.name = true)
    (carried : onType (parameter.annotations.at sourceSet.name) =
      onType (declaration.annotations.at sourceSet.name)) :
    declaredTypeOf context declaration parameter.type sourceSet isReturn =
      typeOf context (parameterRequest context parameter declaration.fromJava sourceSet) := by
  let request : TypeRequest :=
    { type := parameter.type, fromJava := declaration.fromJava, sourceSet,
      carried := onType (declaration.annotations.at sourceSet.name) }
  have stated : request.imposed = none := rfl
  have imposed : declaredTypeOf context declaration parameter.type sourceSet isReturn =
      typeOf context request := by
    rw [declaredTypeOf_eq, declaredRequest, kotlin]
    exact typeOf_congr kotlin request (TypeRequest.resolved_stated stated)
  have converted := typeOf_toKotlin kotlin parameter.type request steady
  rw [imposed, parameterRequest, kotlin, carried]
  exact converted.symm

/-! ## Types that are not steady -/

variable {request : TypeRequest} {shown : ShownType}

/-- In Kotlin what is no wrapper once it is converted is shown in its Kotlin form, with the type
arguments that are written. -/
theorem exists_shownForm (kotlin : context.dialect = .kotlin)
    (leaf : request.type.toKotlin.isWrapper = false)
    (found : typeOf context request = .ok shown) :
    ∃ arguments, shownArguments context request = .ok arguments ∧
      ShownForm context request arguments request.type.toKotlin shown := by
  rw [typeOf_kotlin kotlin] at found
  obtain ⟨arguments, argumentsFound, found⟩ := bind_eq_ok.mp found
  rw [shownBelow_of_not_isWrapper leaf] at found
  exact ⟨arguments, argumentsFound,
    .of_shownForm (Context.writtenForm_kotlin kotlin request) leaf found⟩

/-- A class that has lost its type arguments is no function type, so it is shown with the
arguments that it is given. -/
theorem ShownForm.arguments_eq {head : ClassHead} {arguments : List ShownType}
    (shows : ShownForm context request arguments (.classRef head []) shown) :
    shown.arguments = arguments := by
  cases shows with
  | plain | mapped => rfl
  | lambda _ _ inside => cases inside.split

/-- **An array of Java primitives keeps the written type argument** beside its Kotlin name,
which has none. -/
theorem length_arguments_of_primitiveArray (kotlin : context.dialect = .kotlin)
    {head : ClassHead} {arguments : List TypeUse} {element : Primitive}
    (type : request.type = .classRef head arguments)
    (array : TypeUse.primitiveArray? head arguments = some element)
    (found : typeOf context request = .ok shown) : shown.arguments.length = 1 := by
  have converted : request.type.toKotlin = TypeUse.arrayToKotlin head element := by
    rw [type, TypeUse.toKotlin, array]
  obtain ⟨-, name, rfl, -⟩ := TypeUse.primitiveArray?_eq_some array
  obtain ⟨asWritten, each, shows⟩ := exists_shownForm kotlin (by rw [converted]; rfl) found
  rw [converted] at shows
  rw [shownArguments, type] at each
  have length := congrArg List.length (mapM'_eq_ok_iff.mp each)
  rw [List.length_map, List.length_map] at length
  rw [shows.arguments_eq]
  exact length.symm

/-- An array of Java primitives that is converted beforehand is shown without type arguments. -/
theorem arguments_of_arrayToKotlin (kotlin : context.dialect = .kotlin) {head : ClassHead}
    {element : Primitive}
    (found : typeOf context { request with type := TypeUse.arrayToKotlin head element } =
      .ok shown) :
    shown.arguments = [] := by
  obtain ⟨shownArguments, each, shows⟩ := exists_shownForm kotlin rfl found
  cases each
  exact shows.arguments_eq

/-- **What stands under variance is shown without its annotations**, only with those that are
handed to it. -/
theorem showsOnly_of_projected (kotlin : context.dialect = .kotlin) {variance : Variance}
    {inner : TypeUse} (type : request.type = .projected variance inner)
    (leaf : inner.toKotlin.isWrapper = false) (found : typeOf context request = .ok shown) :
    context.ShowsOnly request.carried shown.annotations := by
  have bare : request.type.annotationsAt request.sourceSet.name = [] := by
    rw [type]
    rfl
  have kept : request.annotations.Sublist request.carried := by
    rw [TypeRequest.annotations, bare, List.append_nil]
    exact List.filter_sublist
  have face : ∀ {form : TypeUse} {face : Face}, face.Shows context request form →
      context.ShowsOnly request.carried face.annotations := by
    intro form face shows
    obtain ⟨decisive, annotated, -⟩ := shows.annotations
    have silent : context.dialect = .java → decisive.javaAnnotation? = none := by
      intro java
      rw [kotlin] at java
      cases java
    exact (Context.showsOnly_of_shownAnnotations silent annotated).mono kept
  obtain ⟨arguments, -, shows⟩ := exists_shownForm kotlin (by rw [type]; exact leaf) found
  cases shows with
  | plain shows | mapped shows | lambda shows => exact face shows

end

/-! ## Converting beforehand -/

/-- **Where it makes no difference to convert a type beforehand**, in a display in Kotlin.

* Steady types are shown as their Kotlin forms are, or fail as these do.
* So a steady type is shown for a parameter as it is for the result of a function or for a
  property that hands the same annotations to it.
* Arrays of Java primitives are never shown as their Kotlin forms are: they keep the type
  argument that the Kotlin form has not.
* What stands under variance, and is itself no wrapper, is shown without its own annotations. -/
theorem converted_beforehand {context : Context} (kotlin : context.dialect = .kotlin) :
    (∀ request : TypeRequest, request.type.isSteady context request.sourceSet.name = true →
      typeOf context { request with type := request.type.toKotlin } = typeOf context request) ∧
    (∀ (parameter : Parameter) (declaration : Declaration) (inSummary isReturn : Bool)
        (sourceSet : SourceSet) (shown : ShownParameter),
      parameter.type.isSteady context sourceSet.name = true →
      onType (parameter.annotations.at sourceSet.name) =
        onType (declaration.annotations.at sourceSet.name) →
      parameterOf context parameter inSummary declaration.fromJava sourceSet = .ok shown →
        declaredTypeOf context declaration parameter.type sourceSet isReturn = .ok shown.type) ∧
    (∀ (request : TypeRequest) (head : ClassHead) (arguments : List TypeUse)
        (element : Primitive) (shown : ShownType),
      request.type = .classRef head arguments →
      TypeUse.primitiveArray? head arguments = some element →
      typeOf context request = .ok shown →
        shown.arguments.length = 1 ∧
          ∀ converted, typeOf context { request with type := request.type.toKotlin } =
            .ok converted → converted.arguments = []) ∧
    ∀ (request : TypeRequest) (variance : Variance) (inner : TypeUse) (shown : ShownType),
      request.type = .projected variance inner → inner.toKotlin.isWrapper = false →
      typeOf context request = .ok shown →
        context.ShowsOnly request.carried shown.annotations := by
  refine ⟨?_, ?_, ?_, ?_⟩
  · intro request steady
    exact typeOf_toKotlin kotlin request.type request steady
  · intro parameter declaration inSummary isReturn sourceSet shown steady carried found
    rw [declaredTypeOf_eq_of_isSteady kotlin steady carried]
    exact typeOf_of_parameterOf found
  · intro request head arguments element shown type array found
    refine ⟨length_arguments_of_primitiveArray kotlin type array found, fun converted => ?_⟩
    rw [type, TypeUse.toKotlin, array]
    exact arguments_of_arrayToKotlin kotlin
  · intro request variance inner shown type leaf found
    exact showsOnly_of_projected kotlin type leaf found

/-- A list of Java strings under variance, which may be null. -/
def javaNames : TypeRequest where
  type := .classRef { identity := .ofClass "java.util" "List" }
    [.projected .covariant <| .classRef
      { identity := .ofClass "java.lang" "String",
        annotations := .insert ∅ "jsMain" [.ofClass "androidx.annotation" "Nullable"] } []]
  fromJava := false
  sourceSet := ⟨.js, "jsMain"⟩

/-- An array of the Java primitive `int`. -/
def intArray : TypeRequest where
  type := .classRef { identity := .ofClass "kotlin" "Array" } [.primitive "int"]
  fromJava := false
  sourceSet := ⟨.jvm, "jvmMain"⟩

/-- A color under variance. -/
def outColor : TypeRequest where
  type := .projected .covariant <| .classRef
    { identity := .ofClass "kotlin" "Int",
      annotations := .insert ∅ "jvmMain" [.ofClass "androidx.annotation" "ColorRes"] } []
  fromJava := false
  sourceSet := ⟨.jvm, "jvmMain"⟩

/-- `javaNames` are shown as their Kotlin form is, also for a parameter and as the result of
`clockNow`; `intArray` is not, and `outColor` is shown as a plain number. -/
theorem converted_beforehand_javaNames :
    (Context.reference .kotlin {}).dialect = .kotlin ∧
      javaNames.type.isSteady (.reference .kotlin {}) "jsMain" = true ∧
      typeOf (.reference .kotlin {}) { javaNames with type := javaNames.type.toKotlin } =
        typeOf (.reference .kotlin {}) javaNames ∧
      (∃ shown, parameterOf (.reference .kotlin {}) { type := javaNames.type } false
          clockNow.fromJava javaNames.sourceSet = .ok shown ∧
        declaredTypeOf (.reference .kotlin {}) clockNow javaNames.type javaNames.sourceSet true =
          .ok shown.type) ∧
      (∃ shown converted, typeOf (.reference .kotlin {}) intArray = .ok shown ∧
        typeOf (.reference .kotlin {}) { intArray with type := intArray.type.toKotlin } =
          .ok converted ∧
        shown.arguments.length = 1 ∧ converted.arguments = []) ∧
      ∃ shown, typeOf (.reference .kotlin {}) outColor = .ok shown ∧
        (Context.reference .kotlin {}).ShowsOnly outColor.carried shown.annotations := by
  have kotlin : (Context.reference .kotlin {}).dialect = .kotlin := rfl
  obtain ⟨steady, same, arrays, variance⟩ := converted_beforehand kotlin
  have steadyNames : javaNames.type.isSteady (.reference .kotlin {}) "jsMain" = true := by
    decide +kernel
  obtain ⟨parameter, parameterFound⟩ := exists_of_isOk
    (parameterOf (.reference .kotlin {}) { type := javaNames.type } false clockNow.fromJava
      javaNames.sourceSet) (by decide +kernel)
  obtain ⟨array, arrayFound⟩ := exists_of_isOk
    (typeOf (.reference .kotlin {}) intArray) (by decide +kernel)
  obtain ⟨converted, convertedFound⟩ := exists_of_isOk
    (typeOf (.reference .kotlin {}) { intArray with type := intArray.type.toKotlin })
    (by decide +kernel)
  obtain ⟨color, colorFound⟩ := exists_of_isOk
    (typeOf (.reference .kotlin {}) outColor) (by decide +kernel)
  obtain ⟨written, lost⟩ := arrays intArray _ _ .int array rfl (by decide) arrayFound
  refine ⟨kotlin, steadyNames, steady javaNames steadyNames, ⟨parameter, parameterFound, ?_⟩,
    ⟨array, converted, arrayFound, convertedFound, written, lost converted convertedFound⟩,
    color, colorFound, variance outColor _ _ color rfl (by decide +kernel) colorFound⟩
  exact same { type := javaNames.type } clockNow false true javaNames.sourceSet parameter
    steadyNames (by decide +kernel) parameterFound

end Diglot
