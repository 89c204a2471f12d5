import Diglot.Proofs.Everywhere
import Diglot.Proofs.Failures
import Diglot.Proofs.JavaForms

/-!
# The dynamic type

The dynamic type has no name in either language, and no Java array can be named after it. A type
with the dynamic type in it is not shown. That it would be an element of an array is never the
reason: type arguments are shown before the type is written.

* `TypeUse.hasDynamic` — whether the dynamic type is somewhere in a type.
* `TypeUse.exists_toJava` — types without an array that has it in its element have a Java form.
* `typeOf_ne_ok_of_hasDynamic` — a type that has it is not shown.
* `Context.stepsFail_dynamicArrayElement` — no step fails to name an array.
-/

namespace Diglot

namespace TypeUse

/-! ## Dynamic types -/

/-- Whether this is the dynamic type. -/
def isDynamic : TypeUse → Bool
  | dynamic => true
  | _ => false

/-- Whether the dynamic type is somewhere in the type; what is written for an alias does not
count. -/
def hasDynamic (type : TypeUse) : Bool :=
  !type.everywhere fun node => !node.isDynamic

/-- Whether the dynamic type is below all wrappers. -/
def endsInDynamic : TypeUse → Bool
  | dynamic => true
  | nullable inner => inner.endsInDynamic
  | nonNull inner => inner.endsInDynamic
  | projected _ inner => inner.endsInDynamic
  | aliased _ inner => inner.endsInDynamic
  | _ => false

/-- The dynamic type is nowhere in a type exactly if it is neither below all wrappers nor in a type
argument. -/
theorem hasDynamic_eq_false_iff : ∀ type : TypeUse, type.hasDynamic = false ↔
    type.endsInDynamic = false ∧ ∀ a ∈ type.writtenArguments, a.hasDynamic = false
  | nullable inner => hasDynamic_eq_false_iff inner
  | nonNull inner => hasDynamic_eq_false_iff inner
  | projected _ inner => hasDynamic_eq_false_iff inner
  | aliased _ inner => hasDynamic_eq_false_iff inner
  | classRef head arguments => by
    simp [hasDynamic, everywhere_classRef_iff, isDynamic, endsInDynamic, writtenArguments]
  | parameter _ | primitive _ | javaObject _ | void | star | unresolved _ | dynamic => by
    simp [hasDynamic, everywhere, isDynamic, endsInDynamic, writtenArguments]

/-- The dynamic type is somewhere in a type exactly if it occurs there. -/
theorem hasDynamic_iff_occursIn (type : TypeUse) :
    type.hasDynamic = true ↔ dynamic.OccursIn type := by
  rw [hasDynamic, Bool.not_eq_true', everywhere_eq_false_iff]
  constructor
  · rintro ⟨part, occurs, found⟩
    cases part <;> first | exact occurs | cases found
  · intro occurs
    exact ⟨dynamic, occurs, rfl⟩

/-- What is below all wrappers is somewhere. -/
theorem hasDynamic_of_endsInDynamic {type : TypeUse} (ends : type.endsInDynamic = true) :
    type.hasDynamic = true := by
  cases has : type.hasDynamic with
  | true => rfl
  | false =>
    rw [((hasDynamic_eq_false_iff type).mp has).1] at ends
    cases ends

theorem endsInDynamic_withoutNonNull : ∀ type : TypeUse, type.endsInDynamic = true →
    type.withoutNonNull.endsInDynamic = true
  | nonNull inner, ends => endsInDynamic_withoutNonNull inner ends
  | nullable _, ends | projected .., ends | aliased .., ends | dynamic, ends => ends

/-- Conversion to Kotlin leaves the dynamic type below all wrappers. -/
theorem endsInDynamic_toKotlin : ∀ type : TypeUse, type.endsInDynamic = true →
    type.toKotlin.endsInDynamic = true
  | projected _ inner, ends => endsInDynamic_toKotlin inner ends
  | nonNull _, ends | nullable _, ends | aliased .., ends | dynamic, ends => ends

/-- Java forms leave the dynamic type below all wrappers. -/
theorem endsInDynamic_toJava : ∀ (type : TypeUse) {position : JavaPosition} {form : TypeUse},
    type.toJava position = .ok form → type.endsInDynamic = true → form.endsInDynamic = true
  | nullable inner, position, form, written => by
    intro ends
    have noUnit : inner.isUnit = false := by
      cases inner <;> first | rfl | cases ends
    rw [toJava_nullable noUnit] at written
    obtain ⟨inside, insideWritten, rfl⟩ := map_eq_ok.mp written
    have below := endsInDynamic_toJava inner insideWritten ends
    cases inside <;> exact below
  | nonNull inner, position, form, written | projected _ inner, position, form, written
  | aliased _ inner, position, form, written => by
    intro ends
    rw [toJava] at written
    obtain ⟨inside, insideWritten, written⟩ := bind_eq_ok.mp written
    cases written
    have below := endsInDynamic_toJava inner insideWritten ends
    exact below
  | dynamic, position, form, written => by
    cases written
    exact id
  | classRef .., _, _, _ | parameter _, _, _, _ | primitive _, _, _, _ | javaObject _, _, _, _
  | void, _, _, _ | star, _, _, _ | unresolved _, _, _, _ => nofun

/-! ## Java forms -/

mutual

/-- Types without the dynamic type can name an array. -/
theorem exists_javaElementName (qualified : Bool) : ∀ type : TypeUse,
    type.hasDynamic = false → ∃ name, type.javaElementName qualified = .ok name
  | classRef head arguments, static => by
    obtain ⟨names, listed⟩ := exists_javaElementNames qualified arguments
      ((hasDynamic_eq_false_iff _).mp static).2
    rw [javaElementName]
    cases head.form with
    | generic => exact ⟨_, rfl⟩
    | functional =>
      rw [listed]
      exact ⟨_, rfl⟩
  | nullable inner, static | nonNull inner, static | projected _ inner, static
  | aliased _ inner, static => exists_javaElementName qualified inner static
  | parameter _, _ | primitive _, _ | javaObject _, _ | void, _ | star, _ | unresolved _, _ =>
    ⟨_, rfl⟩
  | dynamic, static => nomatch static

theorem exists_javaElementNames (qualified : Bool) : ∀ types : List TypeUse,
    (∀ type ∈ types, type.hasDynamic = false) →
      ∃ names, javaElementNames qualified types = .ok names
  | [], _ => ⟨[], rfl⟩
  | first :: rest, static => by
    obtain ⟨name, named⟩ := exists_javaElementName qualified first
      (static first (List.mem_cons_self ..))
    obtain ⟨names, listed⟩ := exists_javaElementNames qualified rest
      fun type mem => static type (List.mem_cons_of_mem _ mem)
    rw [javaElementNames, named, listed]
    exact ⟨_, rfl⟩

end

/-- Java forms have no dynamic type where types have none. -/
theorem hasDynamic_toJavaList {types forms : List TypeUse} {position : JavaPosition}
    (static : ∀ type ∈ types, type.hasDynamic = false)
    (written : toJavaList position types = .ok forms) :
    ∀ form ∈ forms, form.hasDynamic = false := by
  have kept : KeptInJava fun node => !node.isDynamic :=
    ⟨fun _ => rfl, rfl, fun _ => rfl, fun _ => rfl, fun _ => rfl, fun _ => rfl, fun _ _ => rfl⟩
  simp only [hasDynamic, Bool.not_eq_false'] at static ⊢
  exact everywhere_toJavaList kept types static written

/-- Whether this is an array with one type argument that has the dynamic type in it. -/
def isDynamicArray : TypeUse → Bool
  | classRef head [element] => head.identity.isClass "kotlin" "Array" && element.hasDynamic
  | _ => false

/-- A list has as many forms as types. -/
theorem length_toJavaList {types forms : List TypeUse} {position : JavaPosition}
    (written : toJavaList position types = .ok forms) : forms.length = types.length := by
  induction types generalizing forms with
  | nil =>
    cases written
    rfl
  | cons first rest ih =>
    rw [toJavaList] at written
    obtain ⟨form, -, written⟩ := bind_eq_ok.mp written
    obtain ⟨others, more, written⟩ := bind_eq_ok.mp written
    cases written
    exact congrArg Nat.succ (ih more)

/-- A class has a Java form, unless it is an array with the dynamic type in its type argument. -/
theorem exists_classToJava (position : JavaPosition) {head : ClassHead}
    {arguments rewritten : List TypeUse}
    (static : (classRef head arguments).isDynamicArray = false)
    (written : toJavaList position.boxed arguments = .ok rewritten) :
    ∃ form, classToJava position head arguments rewritten = .ok form := by
  cases array : head.identity.isClass "kotlin" "Array" with
  | false => exact exists_classToJava_of_not_isArray position arguments rewritten array
  | true =>
    rw [classToJava_of_isArray array]
    unfold arrayToJava
    split
    · rename_i form
      obtain ⟨element, rfl⟩ := List.length_eq_one_iff.mp (length_toJavaList written).symm
      rw [isDynamicArray, array, Bool.true_and] at static
      have static : form.hasDynamic = false :=
        hasDynamic_toJavaList (List.forall_mem_singleton.mpr static) written form
          (List.mem_singleton_self form)
      obtain ⟨name, named⟩ := exists_javaElementName position.qualified form static
      rw [named]
      exact ⟨_, rfl⟩
    · exact ⟨_, rfl⟩

mutual

/-- **A type has a Java form** if there is no array in it that has the dynamic type in its type
argument. -/
theorem exists_toJava : ∀ (type : TypeUse) (position : JavaPosition),
    type.everywhere (!·.isDynamicArray) = true → ∃ form, type.toJava position = .ok form
  | classRef head arguments, position, static => by
    obtain ⟨here, given⟩ := everywhere_classRef_iff.mp static
    obtain ⟨rewritten, listed⟩ := exists_toJavaList arguments position.boxed given
    rw [toJava, listed]
    exact exists_classToJava position (Bool.not_eq_true' _ ▸ here) listed
  | nullable inner, position, static => by
    obtain ⟨form, written⟩ := exists_toJava inner position.boxed (everywhere_inside rfl static)
    rw [toJava, written]
    split
    · exact ⟨_, rfl⟩
    · cases form <;> exact ⟨_, rfl⟩
  | projected _ inner, position, static | nonNull inner, position, static => by
    obtain ⟨form, written⟩ := exists_toJava inner position.boxed (everywhere_inside rfl static)
    rw [toJava, written]
    exact ⟨_, rfl⟩
  | aliased _ inner, position, static => by
    obtain ⟨form, written⟩ := exists_toJava inner position (everywhere_inside rfl static)
    rw [toJava, written]
    exact ⟨_, rfl⟩
  | parameter _, _, _ | primitive _, _, _ | javaObject _, _, _ | void, _, _ | star, _, _
  | dynamic, _, _ | unresolved _, _, _ => ⟨_, rfl⟩

theorem exists_toJavaList : ∀ (types : List TypeUse) (position : JavaPosition),
    (∀ type ∈ types, type.everywhere (!·.isDynamicArray) = true) →
      ∃ forms, toJavaList position types = .ok forms
  | [], _, _ => ⟨[], rfl⟩
  | first :: rest, position, static => by
    obtain ⟨form, written⟩ := exists_toJava first position (static first (List.mem_cons_self ..))
    obtain ⟨forms, listed⟩ := exists_toJavaList rest position
      fun type mem => static type (List.mem_cons_of_mem _ mem)
    rw [toJavaList, written, listed]
    exact ⟨_, rfl⟩

end

/-- No array has the dynamic type in its type argument if no type argument has it. -/
theorem everywhere_not_isDynamicArray (type : TypeUse) :
    (∀ a ∈ type.writtenArguments, a.hasDynamic = false) →
      type.everywhere (!·.isDynamicArray) = true := by
  induction type using induct_inside with
  | step type ofArgument below =>
    intro static
    refine (everywhere_iff type).mpr ⟨?_, fun a mem => ?_, fun inner inside => ?_⟩
    · rw [Bool.not_eq_true']
      unfold isDynamicArray
      split
      · rename_i element
        rw [static element (List.mem_singleton_self element), Bool.and_false]
      · rfl
    · exact ofArgument a mem ((hasDynamic_eq_false_iff a).mp (static a mem)).2
    · refine below inner inside ?_
      cases type <;> cases inside <;> exact static

/-! ## Names and parts -/

/-- Whether there is a name of its own below all nullability: dynamic types, projections and
aliases have none. -/
def isNamed : TypeUse → Bool
  | nullable inner => inner.isNamed
  | nonNull inner => inner.isNamed
  | dynamic | projected .. | aliased .. => false
  | _ => true

/-- A link is found for the types with a name. -/
theorem isOk_typeLink (context : Context) : ∀ (type : TypeUse) (suffix : String),
    (context.typeLink suffix type).isOk = type.isNamed
  | nullable inner, _ => isOk_typeLink context inner "?"
  | nonNull inner, _ => isOk_typeLink context inner ""
  | classRef .., _ | parameter _, _ | primitive _, _ | javaObject _, _ | void, _ | star, _
  | unresolved _, _ | dynamic, _ | projected .., _ | aliased .., _ => rfl

/-- A type with the dynamic type below all wrappers has no name of its own. -/
theorem isNamed_of_endsInDynamic : ∀ type : TypeUse, type.endsInDynamic = true →
    type.isNamed = false
  | nullable inner, ends => isNamed_of_endsInDynamic inner ends
  | nonNull inner, ends => isNamed_of_endsInDynamic inner ends
  | dynamic, _ | projected .., _ | aliased .., _ => rfl

/-- Types that can be taken apart are references to a class with type arguments. -/
theorem exists_lambdaParts_iff (type : TypeUse) : (∃ parts, type.lambdaParts = .ok parts) ↔
    ∃ head arguments, type.withoutNonNull = classRef head arguments ∧ arguments ≠ [] := by
  unfold lambdaParts
  cases type.withoutNonNull with
  | classRef head arguments =>
    dsimp only
    cases last : arguments.getLast? with
    | none =>
      obtain rfl := List.getLast?_eq_none_iff.mp last
      simp [throw, throwThe, MonadExceptOf.throw]
    | some returnType =>
      have nonempty : arguments ≠ [] := by
        rintro rfl
        cases last
      refine iff_of_true ?_ ⟨head, arguments, rfl, nonempty⟩
      cases head.form with
      | generic => exact ⟨_, rfl⟩
      | functional isExtension isSuspend =>
        cases isExtension <;> cases arguments.dropLast <;> exact ⟨_, rfl⟩
  | parameter | primitive | javaObject | void | star | dynamic | unresolved | nullable | nonNull
  | projected | aliased => simp [throw, throwThe, MonadExceptOf.throw]

end TypeUse

/-! ## Types that are not shown -/

/-- A written form ends in the dynamic type if the type does, in either language. -/
theorem Context.endsInDynamic_writtenForm {context : Context} {request : TypeRequest}
    {form : TypeUse} (ends : request.type.endsInDynamic = true)
    (written : context.writtenForm request = .ok form) : form.endsInDynamic = true := by
  unfold Context.writtenForm at written
  split at written
  · cases written
    exact TypeUse.endsInDynamic_toKotlin _ ends
  · exact TypeUse.endsInDynamic_toJava _ written ends

/-- A form that ends in the dynamic type has no name, and cannot be taken apart. -/
theorem shownForm_ne_ok_of_endsInDynamic {context : Context} {request : TypeRequest}
    {arguments : List ShownType} {form : TypeUse} (ends : form.endsInDynamic = true)
    (written : context.writtenForm request = .ok form) (leaf : form.isWrapper = false)
    (shown : ShownType) : shownForm context request arguments form ≠ .ok shown := by
  intro found
  have unnamed := form.isOk_typeLink context ""
  rw [form.isNamed_of_endsInDynamic ends] at unnamed
  cases ShownForm.of_shownForm written leaf found with
  | plain _ named | mapped _ named =>
    rw [named] at unnamed
    cases unnamed
  | lambda _ _ inside =>
    obtain ⟨head, arguments, core, -⟩ :=
      (TypeUse.exists_lambdaParts_iff form).mp ⟨_, inside.split⟩
    have below := form.endsInDynamic_withoutNonNull ends
    rw [core] at below
    cases below

/-- **A type with the dynamic type somewhere is not shown**, in either language. -/
theorem typeOf_ne_ok_of_hasDynamic (context : Context) (request : TypeRequest)
    (dynamic : request.type.hasDynamic = true) (shown : ShownType) :
    typeOf context request ≠ .ok shown := by
  induction size : request.type.nodes using Nat.strongRecOn generalizing request shown with
  | ind size ih =>
    subst size
    intro found
    rw [typeOf_eq] at found
    obtain ⟨arguments, argumentsFound, found⟩ := bind_eq_ok.mp found
    obtain ⟨form, written, found⟩ := bind_eq_ok.mp found
    have le := context.nodes_writtenForm_le written
    -- the arguments have been shown, so it is not in one of them
    have static : ∀ a ∈ request.type.writtenArguments, a.hasDynamic = false := by
      intro a mem
      by_contra has
      obtain ⟨shownArgument, -, argumentFound⟩ := (mem_of_mapM'_eq_ok argumentsFound).1 a mem
      exact ih _ (TypeUse.nodes_lt_of_mem_writtenArguments mem) (request.forArgument a)
        (Bool.not_eq_false _ ▸ has) _ rfl argumentFound
    have ends : request.type.endsInDynamic = true := by
      by_contra elsewhere
      rw [request.type.hasDynamic_eq_false_iff.mpr ⟨Bool.not_eq_true _ ▸ elsewhere, static⟩]
        at dynamic
      cases dynamic
    have ends := context.endsInDynamic_writtenForm ends written
    by_cases leaf : form.isWrapper = false
    · rw [shownBelow_of_not_isWrapper leaf] at found
      exact shownForm_ne_ok_of_endsInDynamic ends written leaf shown found
    · have dynamic := TypeUse.hasDynamic_of_endsInDynamic ends
      cases form with
      | nullable inner => exact ih _ le (request.forNullable inner) dynamic _ rfl found
      | projected variance inner => exact ih _ le (request.forProjected inner) dynamic _ rfl found
      | aliased _ inner =>
        have lt := Nat.lt_of_lt_of_le (TypeUse.nodes_lt_of_inside? rfl) le
        exact ih _ lt (request.forAliased inner) dynamic _ rfl found
      | classRef | parameter | primitive | javaObject | void | star | dynamic | unresolved
      | nonNull => exact absurd rfl leaf

/-! ## Arrays -/

/-- Written forms are found once the arguments are known to be without the dynamic type. -/
theorem Context.exists_writtenForm {context : Context} {request : TypeRequest}
    (static : ∀ a ∈ request.type.writtenArguments, a.hasDynamic = false) :
    ∃ form, context.writtenForm request = .ok form := by
  unfold writtenForm
  split
  · exact ⟨_, rfl⟩
  · exact TypeUse.exists_toJava _ _ (TypeUse.everywhere_not_isDynamicArray _ static)

/-- A type without a name is no failure to name an array. -/
theorem failsOnly_typeLink (context : Context) : ∀ (type : TypeUse) (suffix : String),
    FailsOnly (· ≠ .dynamicArrayElement) (context.typeLink suffix type)
  | .nullable inner, _ => failsOnly_typeLink context inner "?"
  | .nonNull inner, _ => failsOnly_typeLink context inner ""
  | .dynamic, _ | .projected .., _ | .aliased .., _ => by
    rintro e ⟨⟩
    exact nofun
  | .classRef .., _ | .parameter _, _ | .primitive _, _ | .javaObject _, _ | .void, _ | .star, _
  | .unresolved _, _ => .ok _

/-- A type of which it cannot be told whether it is a function type is no failure to name an
array. -/
theorem failsOnly_isFunctionType (type : TypeUse) :
    FailsOnly (· ≠ .dynamicArrayElement) type.isFunctionType := by
  unfold TypeUse.isFunctionType TypeUse.isSuspending
  refine .bind ?_ fun isSuspending _ => ?_
  · split
    · rintro e ⟨⟩
      exact nofun
    · split <;> exact .ok _
    · exact .ok _
  · split
    · exact .ok _
    · split <;> exact .ok _

/-- A function type without parts is no failure to name an array. -/
theorem failsOnly_lambdaParts (type : TypeUse) :
    FailsOnly (· ≠ .dynamicArrayElement) type.lambdaParts := by
  unfold TypeUse.lambdaParts
  split
  · split
    · rintro e ⟨⟩
      exact nofun
    · exact .ok _
    · exact .ok _
  · rintro e ⟨⟩
    exact nofun

/-- None of the steps fails to name an array: once the arguments have been shown there is a form. -/
theorem Context.stepsFail_dynamicArrayElement (context : Context) :
    context.StepsFail (· ≠ .dynamicArrayElement) fun _ => True where
  annotations := by
    rintro _ ⟨a, -, -, rfl⟩
    exact nofun
  argument _ _ _ _ := trivial
  inside _ _ _ _ := trivial
  writes request arguments _ shown := by
    have static : ∀ a ∈ request.type.writtenArguments, a.hasDynamic = false := by
      intro a mem
      obtain ⟨shownArgument, -, found⟩ := (mem_of_mapM'_eq_ok shown).1 a mem
      by_contra dynamic
      exact typeOf_ne_ok_of_hasDynamic context (request.forArgument a)
        (Bool.not_eq_false _ ▸ dynamic) shownArgument found
    obtain ⟨form, written⟩ := context.exists_writtenForm static
    rw [written]
    exact .ok form
  written _ _ _ _ := trivial
  typeLink form _ _ := failsOnly_typeLink context form ""
  isFunctionType _ form _ _ := failsOnly_isFunctionType form
  lambdaParts _ form _ _ := failsOnly_lambdaParts form

end Diglot
