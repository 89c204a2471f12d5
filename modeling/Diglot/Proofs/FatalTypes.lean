import Diglot.Proofs.DynamicTypes
import Diglot.Proofs.JavaWrappers

/-!
# Which types are fatal

Types that cannot be shown are those with the dynamic type in them, function types without type
arguments, and `T & Any` around something that has no name. All others are well-shaped, and both
languages keep them so when they rewrite them, but for one kind of array in Kotlin.

* `TypeUse.isWellShaped` — no type in it is one of these.
* `everywhere_toKotlin` — types that keep their parts do so again when they are converted again.
* `Context.stepsFail_java`, `Context.stepsFail_kotlin` — only annotations are to blame.
* `fatal_types` — which types can be shown.
* `suspendingArray_fatal` — the array that loses its parts.
-/

namespace Diglot

/-! ## Function classes -/

/-- Whether the class is marked as a suspending function type. -/
def ClassForm.isSuspending : ClassForm → Bool
  | generic => false
  | functional _ isSuspend => isSuspend

/-- Whether a class is a function type by its name, suspending or not. -/
def Identity.isFunctionClass (identity : Identity) : Bool :=
  (identity.package = "kotlin.coroutines" &&
    Text.startsWith identity.className "SuspendFunction") ||
    (identity.package = "kotlin" && Text.startsWith identity.className "Function")

/-- A class that is a function type by its name is under its Kotlin name. -/
theorem Identity.toKotlin_of_isFunctionClass {identity : Identity}
    (function : identity.isFunctionClass = true) : identity.toKotlin = identity := by
  simp only [isFunctionClass, Bool.or_eq_true, Bool.and_eq_true, decide_eq_true_eq] at function
  refine toKotlin_of_package ?_
  rcases function with named | named <;> rw [named.1] <;> decide

namespace TypeUse

/-! ## Names -/

/-- What has a name has one in Java. -/
theorem isNamed_toJava : ∀ (type : TypeUse) {position : JavaPosition} {form : TypeUse},
    type.isNamed = true → type.toJava position = .ok form → form.isNamed = true
  | classRef head arguments, position, form, _, written => by
    rw [toJava] at written
    obtain ⟨rewritten, -, written⟩ := bind_eq_ok.mp written
    cases ClassToJava.of_classToJava written <;> rfl
  | nullable inner, position, form, named, written => by
    rw [toJava] at written
    split at written
    · cases written
      rfl
    · obtain ⟨inside, insideWritten, written⟩ := bind_eq_ok.mp written
      have below := isNamed_toJava inner named insideWritten
      split at written
      · cases written
        rfl
      · cases written
        exact below
  | nonNull inner, position, form, named, written => by
    rw [toJava] at written
    obtain ⟨inside, insideWritten, written⟩ := bind_eq_ok.mp written
    cases written
    have below := isNamed_toJava inner named insideWritten
    exact below
  | parameter _, _, _, named, written | primitive _, _, _, named, written
  | javaObject _, _, _, named, written | void, _, _, named, written | star, _, _, named, written
  | unresolved _, _, _, named, written => by
    cases written
    exact named

/-! ## Function types -/

/-- Kotlin takes a class for a function type if it is marked as suspending, or is one by its
name. -/
theorem isFunctionType_classRef (head : ClassHead) (arguments : List TypeUse) :
    (classRef head arguments).isFunctionType =
      .ok (head.form.isSuspending || head.identity.isFunctionClass) := by
  obtain ⟨identity, shownName, annotations, form⟩ := head
  have named : (if (identity.package = "kotlin.coroutines" &&
        Text.startsWith identity.className "SuspendFunction") = true then .ok true
      else .ok (identity.package = "kotlin" && Text.startsWith identity.className "Function")) =
      (.ok (false || identity.isFunctionClass) : Except RenderError Bool) := by
    rw [Identity.isFunctionClass]
    split <;> simp_all
  cases form with
  | generic => exact named
  | functional isExtension isSuspend =>
    cases isSuspend with
    | true => rfl
    | false => exact named

/-- Whether a type is a function type can be told of all but the dynamic type. -/
theorem exists_isFunctionType {type : TypeUse} (static : type.withoutNonNull.isDynamic = false) :
    ∃ isFunction, type.isFunctionType = .ok isFunction := by
  unfold isFunctionType isSuspending
  cases core : type.withoutNonNull with
  | dynamic =>
    rw [core] at static
    cases static
  | classRef head arguments => exact ⟨_, isFunctionType_classRef head arguments⟩
  | parameter | primitive | javaObject | void | star | unresolved | nullable | nonNull
  | projected | aliased => exact ⟨false, rfl⟩

/-- A class that is taken for a function type is so under its Kotlin name. -/
theorem isFunctionHead_of_isFunctionType {head : ClassHead} {arguments : List TypeUse}
    (function : (classRef head arguments).isFunctionType = .ok true) :
    isFunctionHead head = true := by
  rw [isFunctionType_classRef] at function
  rw [isFunctionHead, renamedToKotlin, isFunctionType_classRef]
  have function := Except.ok.inj function
  simp only [Bool.or_eq_true] at function ⊢
  rcases function with suspending | named
  · exact .inl suspending
  · rw [Identity.toKotlin_of_isFunctionClass named]
    exact .inr named

/-- Under its Kotlin name a class is taken for a function type exactly if it is so under its own. -/
theorem isFunctionHead_toKotlin (head : ClassHead) :
    isFunctionHead { head with identity := head.identity.toKotlin } = isFunctionHead head := by
  simp only [isFunctionHead, renamedToKotlin, Identity.toKotlin_toKotlin]

/-- Function types are references to classes that Kotlin takes for function types. -/
theorem exists_classRef_of_isFunctionType {type : TypeUse}
    (function : type.isFunctionType = .ok true) :
    ∃ head arguments, type.withoutNonNull = classRef head arguments ∧
      isFunctionHead head = true := by
  unfold isFunctionType isSuspending at function
  cases core : type.withoutNonNull with
  | classRef head arguments =>
    rw [core] at function
    have named : (classRef head arguments).isFunctionType = .ok true := function
    exact ⟨head, arguments, rfl, isFunctionHead_of_isFunctionType named⟩
  | parameter | primitive | javaObject | void | star | dynamic | unresolved | nullable | nonNull
  | projected | aliased =>
    rw [core] at function
    cases function

/-! ## Well-shaped types -/

/-- Whether this is neither the dynamic type nor `T & Any` without a name. -/
def isNameable : TypeUse → Bool
  | dynamic => false
  | nonNull inner => inner.isNamed
  | _ => true

/-- Whether this has type arguments if Kotlin takes it for a function type. -/
def hasParts : TypeUse → Bool
  | classRef head arguments => !isFunctionHead head || !arguments.isEmpty
  | _ => true

/-- **Well-shaped types**: there is no dynamic type in them, and no function type without type
arguments; and `T & Any` is never without a name. -/
def isWellShaped (type : TypeUse) : Bool :=
  type.everywhere fun node => node.isNameable && node.hasParts

/-- Whether this is marked as a suspending function type and is an array of a Java primitive,
variance aside. Kotlin has a class without type arguments for it. -/
def losesParts : TypeUse → Bool
  | classRef head arguments =>
    head.form.isSuspending && (primitiveArray? head (toKotlinList arguments)).isSome
  | _ => false

/-- Whether this keeps its parts in Kotlin, and can be named. -/
def isConvertible (type : TypeUse) : Bool :=
  (type.isNameable && type.hasParts) && !type.losesParts

/-- What is a Java primitive after two conversions is one after the first. -/
theorem toKotlin_eq_primitive {name : String} : ∀ type : TypeUse,
    type.toKotlin.toKotlin = primitive name → type.toKotlin = primitive name
  | projected _ inner, twice => toKotlin_eq_primitive inner twice
  | classRef head arguments, twice => by
    rw [toKotlin] at twice
    split at twice
    · rw [arrayToKotlin, toKotlin] at twice
      split at twice <;> cases twice
    · rw [renamedToKotlin, toKotlin] at twice
      split at twice <;> cases twice
  | nullable _, twice | nonNull _, twice | aliased .., twice | parameter _, twice
  | primitive _, twice | javaObject _, twice | void, twice | star, twice | dynamic, twice
  | unresolved _, twice => twice

/-- What loses its parts in the second conversion loses them in the first. -/
theorem losesParts_of_renamedToKotlin {head : ClassHead} {arguments : List TypeUse}
    (loses : (renamedToKotlin head (toKotlinList arguments)).losesParts = true) :
    (classRef head arguments).losesParts = true := by
  simp only [renamedToKotlin, losesParts, Bool.and_eq_true] at loses ⊢
  obtain ⟨suspending, array⟩ := loses
  refine ⟨suspending, ?_⟩
  obtain ⟨element, found⟩ := Option.isSome_iff_exists.mp array
  have found := primitiveArray?_of_toKotlin found
  obtain ⟨-, name, twice, -⟩ := primitiveArray?_eq_some found
  have once : toKotlinList arguments = toKotlinList (toKotlinList arguments) := by
    rw [twice, toKotlinList_eq_map]
    rw [toKotlinList_eq_map, toKotlinList_eq_map, List.map_map] at twice
    obtain ⟨a, rfl, eq⟩ := List.map_eq_singleton_iff.mp twice
    rw [List.map_singleton, toKotlin_eq_primitive a eq]
  rw [once, found]
  rfl

/-- The Kotlin class of arrays of a primitive is not taken for a function type. -/
theorem isConvertible_arrayToKotlin {head : ClassHead} (plain : head.form.isSuspending = false)
    (element : Primitive) : (arrayToKotlin head element).isConvertible = true := by
  have noName : Text.startsWith element.arrayName "Function" = false := by
    cases element <;> decide +kernel
  have noFunction :
      isFunctionHead { head with identity := .ofClass "kotlin" element.arrayName } = false := by
    rw [isFunctionHead, renamedToKotlin, isFunctionType_classRef, Identity.toKotlin_ofClass_kotlin,
      plain]
    simp [Identity.isFunctionClass, Identity.ofClass, Identity.className, noName]
  simp [arrayToKotlin, isConvertible, isNameable, hasParts, losesParts, noFunction, plain]

/-- A class that keeps its parts keeps them under its Kotlin name. -/
theorem isConvertible_renamedToKotlin {head : ClassHead} {arguments : List TypeUse}
    (convertible : (classRef head arguments).isConvertible = true) :
    (renamedToKotlin head (toKotlinList arguments)).isConvertible = true := by
  simp only [isConvertible, Bool.and_eq_true, Bool.not_eq_true'] at convertible ⊢
  obtain ⟨⟨-, parts⟩, keeps⟩ := convertible
  refine ⟨⟨rfl, ?_⟩, ?_⟩
  · rw [renamedToKotlin, hasParts, isFunctionHead_toKotlin, toKotlinList_eq_map, List.isEmpty_map]
    exact parts
  · cases loses : (renamedToKotlin head (toKotlinList arguments)).losesParts with
    | false => rfl
    | true =>
      rw [losesParts_of_renamedToKotlin loses] at keeps
      cases keeps

mutual

/-- **Types that keep their parts** keep them when they are converted again. -/
theorem everywhere_toKotlin : ∀ type : TypeUse, type.everywhere isConvertible = true →
    type.toKotlin.everywhere isConvertible = true
  | classRef head arguments, all => by
    obtain ⟨here, given⟩ := everywhere_classRef_iff.mp all
    rw [toKotlin]
    split
    · rename_i element array
      obtain ⟨-, name, rfl, -⟩ := primitiveArray?_eq_some array
      have plain : head.form.isSuspending = false := by
        simp only [isConvertible, losesParts, toKotlinList, toKotlin, array, Option.isSome_some,
          Bool.and_true, Bool.and_eq_true, Bool.not_eq_true'] at here
        exact here.2
      exact everywhere_classRef_iff.mpr
        ⟨isConvertible_arrayToKotlin plain element, fun a mem => absurd mem (List.not_mem_nil)⟩
    · exact everywhere_classRef_iff.mpr
        ⟨isConvertible_renamedToKotlin here, everywhere_toKotlinList arguments given⟩
  | projected _ inner, all => everywhere_toKotlin inner (everywhere_inside rfl all)
  | nullable _, all | nonNull _, all | aliased .., all | parameter _, all | primitive _, all
  | javaObject _, all | void, all | star, all | dynamic, all | unresolved _, all => all

theorem everywhere_toKotlinList : ∀ types : List TypeUse,
    (∀ type ∈ types, type.everywhere isConvertible = true) →
      ∀ form ∈ toKotlinList types, form.everywhere isConvertible = true
  | [], _, form, mem => absurd mem (List.not_mem_nil)
  | first :: rest, all, form, mem => by
    rcases List.mem_cons.mp mem with rfl | mem
    · exact everywhere_toKotlin first (all first (List.mem_cons_self ..))
    · exact everywhere_toKotlinList rest (fun type mem => all type (List.mem_cons_of_mem _ mem))
        form mem

end

/-! ## Steps -/

/-- What can be named and is no wrapper has a name. -/
theorem isNamed_of_isNameable {form : TypeUse} (nameable : form.isNameable = true)
    (leaf : form.isWrapper = false) : form.isNamed = true := by
  cases form with
  | nonNull | dynamic => exact nameable
  | nullable | projected | aliased => cases leaf
  | classRef | parameter | primitive | javaObject | void | star | unresolved => rfl

/-- What can be converted and is no wrapper has a name. -/
theorem isNamed_of_isConvertible {form : TypeUse} (convertible : form.isConvertible = true)
    (leaf : form.isWrapper = false) : form.isNamed = true := by
  simp only [isConvertible, Bool.and_eq_true] at convertible
  exact isNamed_of_isNameable convertible.1.1 leaf

/-- Where all types can be named there is no dynamic type. -/
theorem hasDynamic_of_isNameable {type : TypeUse} (all : type.everywhere isNameable = true) :
    type.hasDynamic = false := by
  rw [hasDynamic, Bool.not_eq_false']
  refine everywhere_imp (fun node nameable _ => ?_) type all all
  cases node <;> first | rfl | cases nameable

/-- What has a name is not dynamic. -/
theorem isDynamic_withoutNonNull : ∀ type : TypeUse, type.isNamed = true →
    type.withoutNonNull.isDynamic = false
  | nonNull inner, named => isDynamic_withoutNonNull inner named
  | classRef .., _ | parameter _, _ | primitive _, _ | javaObject _, _ | void, _ | star, _
  | unresolved _, _ | nullable _, _ => rfl

end TypeUse

/-- A link is found for what has a name. -/
theorem failsOnly_of_isNamed {P : RenderError → Prop} (context : Context) {form : TypeUse}
    (named : form.isNamed = true) : FailsOnly P (context.typeLink "" form) := by
  obtain ⟨link, found⟩ := exists_of_isOk (context.typeLink "" form)
    ((TypeUse.isOk_typeLink context form "").trans named)
  rw [found]
  exact .ok link

open TypeUse in
/-- **In Java** nothing else fails as long as types have names. -/
theorem Context.stepsFail_java {context : Context} (java : context.dialect = .java) :
    context.StepsFail context.Refuses fun type => type.everywhere isNameable = true where
  annotations e refused := refused
  argument type all := everywhere_of_mem_writtenArguments type all
  inside type inner inside all := everywhere_inside inside all
  writes request arguments all _ := by
    have static : ∀ a ∈ request.type.writtenArguments, a.hasDynamic = false := fun a mem =>
      hasDynamic_of_isNameable (everywhere_of_mem_writtenArguments request.type all a mem)
    obtain ⟨form, written⟩ := context.exists_writtenForm static
    rw [written]
    exact .ok form
  written request form all written := by
    have kept : KeptInJava isNameable :=
      ⟨fun _ => rfl, rfl, fun _ => rfl, fun _ => rfl, fun _ => rfl, fun _ => rfl,
        fun written named => isNamed_toJava _ named written⟩
    rw [Context.writtenForm_java java] at written
    exact everywhere_toJava kept _ all written
  typeLink form all leaf :=
    failsOnly_of_isNamed context (isNamed_of_isNameable (everywhere_self all) leaf)
  isFunctionType kotlin := by
    rw [java] at kotlin
    cases kotlin
  lambdaParts kotlin := by
    rw [java] at kotlin
    cases kotlin

open TypeUse in
/-- **In Kotlin** nothing else fails as long as function types have parts as well. -/
theorem Context.stepsFail_kotlin {context : Context} (kotlin : context.dialect = .kotlin) :
    context.StepsFail context.Refuses fun type => type.everywhere isConvertible = true where
  annotations e refused := refused
  argument type all := everywhere_of_mem_writtenArguments type all
  inside type inner inside all := everywhere_inside inside all
  writes request arguments _ _ := by
    rw [Context.writtenForm_kotlin kotlin]
    exact .ok _
  written request form all written := by
    rw [Context.writtenForm_kotlin kotlin] at written
    cases written
    exact everywhere_toKotlin _ all
  typeLink form all leaf :=
    failsOnly_of_isNamed context (isNamed_of_isConvertible (everywhere_self all) leaf)
  isFunctionType _ form all leaf := by
    have named := isNamed_of_isConvertible (everywhere_self all) leaf
    obtain ⟨isFunction, found⟩ := exists_isFunctionType (isDynamic_withoutNonNull form named)
    rw [found]
    exact .ok isFunction
  lambdaParts _ form all function := by
    obtain ⟨head, arguments, core, isHead⟩ := exists_classRef_of_isFunctionType function
    have here := everywhere_self (everywhere_withoutNonNull form all)
    have nonempty : arguments ≠ [] := by
      rintro rfl
      simp [core, isConvertible, hasParts, isHead] at here
    obtain ⟨parts, found⟩ := (exists_lambdaParts_iff form).mpr ⟨head, arguments, core, nonempty⟩
    rw [found]
    exact .ok parts

/-! ## Main result -/

/-- What fails only for a refused annotation has a result, or there is such an annotation. -/
theorem FailsOnly.exists_or {context : Context} {α : Type} {outcome : Except RenderError α}
    (only : FailsOnly context.Refuses outcome) :
    (∃ a, outcome = .ok a) ∨ ∃ a : Annotation, a.isNullability = true ∧
      context.config.isValidNullability a.fullName = false ∧
        outcome = .error (.invalidNullability a.fullName) := by
  cases found : outcome with
  | ok a => exact .inl ⟨a, rfl⟩
  | error e =>
    obtain ⟨a, isNullability, invalid, rfl⟩ := only e found
    exact .inr ⟨a, isNullability, invalid, rfl⟩

/-- **Which types are fatal.** A well-shaped type is shown, unless there is a nullability annotation
that the configuration does not accept. In Kotlin it must not have a suspending function type in it
that is an array of a Java primitive, variance aside. A type with the dynamic type somewhere in it
is not shown. No type fails to name an array. -/
theorem fatal_types (context : Context) (request : TypeRequest) :
    (request.type.isWellShaped = true →
      (context.dialect = .kotlin → request.type.everywhere (!·.losesParts) = true) →
        (∃ shown, typeOf context request = .ok shown) ∨
          ∃ a : Annotation, a.isNullability = true ∧
            context.config.isValidNullability a.fullName = false ∧
              typeOf context request = .error (.invalidNullability a.fullName)) ∧
      (request.type.hasDynamic = true → ∃ e, typeOf context request = .error e) ∧
        typeOf context request ≠ .error .dynamicArrayElement := by
  refine ⟨fun shaped keeps => FailsOnly.exists_or ?_, fun dynamic => ?_, fun fails => ?_⟩
  · cases dialect : context.dialect with
    | java =>
      refine typeOf_failsOnly (Context.stepsFail_java dialect) request ?_
      refine TypeUse.everywhere_imp (fun node here _ => ?_) request.type shaped shaped
      rw [Bool.and_eq_true] at here
      exact here.1
    | kotlin =>
      refine typeOf_failsOnly (Context.stepsFail_kotlin dialect) request ?_
      refine TypeUse.everywhere_imp (fun node here keeps => ?_) request.type shaped (keeps dialect)
      rw [TypeUse.isConvertible, here, keeps, Bool.and_self]
  · cases found : typeOf context request with
    | ok shown => exact absurd found (typeOf_ne_ok_of_hasDynamic context request dynamic shown)
    | error e => exact ⟨e, rfl⟩
  · exact typeOf_failsOnly context.stepsFail_dynamicArrayElement request trivial _ fails rfl

/-- A suspending function that takes an array with variance and returns `T & Any`, and a list of
dynamic values. -/
theorem fatal_types_transform :
    let context := Context.reference .kotlin {}
    let transform : TypeRequest :=
      { type := .nullable <|
          .classRef ⟨.ofClass "kotlin" "Function1", none, ∅, .functional false true⟩
            [.classRef ⟨.ofClass "kotlin" "Array", none, ∅, .generic⟩
              [.projected .covariant (.primitive "int")],
              .nonNull (.parameter ⟨.ofClass "com.example" "Clock", "T", none, ∅⟩)]
        fromJava := false, sourceSet := ⟨.jvm, "jvmMain"⟩ }
    let values : TypeRequest :=
      { type := .classRef ⟨.ofClass "kotlin.collections" "List", none, ∅, .generic⟩ [.dynamic]
        fromJava := false, sourceSet := ⟨.js, "jsMain"⟩ }
    (transform.type.isWellShaped = true ∧ transform.type.everywhere (!·.losesParts) = true ∧
      ((∃ shown, typeOf context transform = .ok shown) ∨
        ∃ a : Annotation, a.isNullability = true ∧
          context.config.isValidNullability a.fullName = false ∧
            typeOf context transform = .error (.invalidNullability a.fullName))) ∧
      values.type.hasDynamic = true ∧ ∃ e, typeOf context values = .error e := by
  intro context transform values
  have shaped : transform.type.isWellShaped = true := by decide +kernel
  have keeps : transform.type.everywhere (!·.losesParts) = true := by decide +kernel
  exact ⟨⟨shaped, keeps, (fatal_types context transform).1 shaped fun _ => keeps⟩,
    rfl, (fatal_types context values).2.1 rfl⟩

/-- An array of Java integers that is marked as a suspending function type. -/
def suspendingArray : TypeRequest where
  type := .classRef ⟨.ofClass "kotlin" "Array", none, ∅, .functional false true⟩ [.primitive "int"]
  fromJava := false
  sourceSet := ⟨.jvm, "jvmMain"⟩

/-- **Well-shaped types can lose their parts** in Kotlin, where the array of integers is a class
without type arguments. -/
theorem suspendingArray_fatal :
    suspendingArray.type.isWellShaped = true ∧
      typeOf (.reference .kotlin {}) suspendingArray = .error (.unsupported .lambda .classRef) ∧
        ¬((∃ shown, typeOf (.reference .kotlin {}) suspendingArray = .ok shown) ∨
          ∃ name, typeOf (.reference .kotlin {}) suspendingArray =
            .error (.invalidNullability name)) := by
  have failed : (match typeOf (.reference .kotlin {}) suspendingArray with
    | .error e => decide (e = .unsupported .lambda .classRef)
    | .ok _ => false) = true := by decide +kernel
  have fails : typeOf (.reference .kotlin {}) suspendingArray =
      .error (.unsupported .lambda .classRef) := by
    cases found : typeOf (.reference .kotlin {}) suspendingArray with
    | ok shown =>
      rw [found] at failed
      cases failed
    | error e =>
      rw [found] at failed
      rw [of_decide_eq_true failed]
  refine ⟨by decide +kernel, fails, ?_⟩
  rintro (⟨shown, found⟩ | ⟨name, found⟩) <;> rw [fails] at found <;> cases found

end Diglot
