import Diglot.Proofs.Conversion
import Diglot.Proofs.PlatformTypes

/-!
# Names that Kotlin shows

Kotlin looks a class up under the name that it is linked with (`Context.IsNameOf`), and this is
a name that the conversion to Kotlin leaves unchanged, wherever in a type the class stands
(`isNameOf_typeLink`). The conversion does not reach below `T & Any`, and no step goes on with
what is inside: classes that stand right there (`TypeUse.guardedClasses`) are named as they are
written.
-/

namespace Diglot

/-! ## Classes below `T & Any` -/

namespace TypeUse

/-- The class that gives the type its name, looked up through nullability and `T & Any`. -/
def namingClass? : TypeUse → Option Identity
  | classRef head _ => some head.identity
  | nullable inner => inner.namingClass?
  | nonNull inner => inner.namingClass?
  | _ => none

mutual

/-- The classes that give a `T & Any` its name, anywhere in the type. -/
def guardedClasses : TypeUse → List Identity
  | classRef _ arguments => guardedClassesList arguments
  | nullable inner => inner.guardedClasses
  | nonNull inner => inner.namingClass?.toList ++ inner.guardedClasses
  | projected _ inner => inner.guardedClasses
  | aliased _ inner => inner.guardedClasses
  | _ => []

/-- The classes that give a `T & Any` its name, anywhere in the types of a list. -/
def guardedClassesList : List TypeUse → List Identity
  | [] => []
  | first :: rest => first.guardedClasses ++ guardedClassesList rest

end

theorem guardedClasses_subset_list {type : TypeUse} {types : List TypeUse} (mem : type ∈ types) :
    type.guardedClasses ⊆ guardedClassesList types := by
  induction types with
  | nil => cases mem
  | cons first rest ih =>
    rw [guardedClassesList]
    rcases List.mem_cons.mp mem with rfl | mem
    · exact List.subset_append_left _ _
    · exact List.Subset.trans (ih mem) (List.subset_append_right _ _)

/-- The classes that are guarded in a type argument are guarded in the type. -/
theorem guardedClasses_subset {argument : TypeUse} : ∀ type : TypeUse,
    argument ∈ type.writtenArguments → argument.guardedClasses ⊆ type.guardedClasses
  | classRef .., mem => guardedClasses_subset_list mem
  | nullable inner, mem => guardedClasses_subset inner mem
  | nonNull inner, mem =>
    List.Subset.trans (guardedClasses_subset inner mem) (List.subset_append_right _ _)
  | projected _ inner, mem => guardedClasses_subset inner mem
  | aliased _ inner, mem => guardedClasses_subset inner mem

mutual

/-- The conversion to Kotlin does not reach guarded classes. -/
theorem guardedClasses_toKotlin : ∀ type : TypeUse,
    type.toKotlin.guardedClasses = type.guardedClasses
  | classRef head arguments => by
    rw [toKotlin]
    split
    · rename_i element array
      obtain ⟨-, name, rfl, -⟩ := primitiveArray?_eq_some array
      rfl
    · rw [renamedToKotlin, guardedClasses, guardedClasses, guardedClassesList_toKotlinList]
  | projected _ inner => guardedClasses_toKotlin inner
  | nullable _ | nonNull _ | aliased .. | parameter _ | primitive _ | javaObject _ | void | star
  | dynamic | unresolved _ => rfl

theorem guardedClassesList_toKotlinList : ∀ types : List TypeUse,
    guardedClassesList (toKotlinList types) = guardedClassesList types
  | [] => rfl
  | first :: rest => by
    rw [toKotlinList, guardedClassesList, guardedClassesList, guardedClasses_toKotlin,
      guardedClassesList_toKotlinList]

end

theorem writtenArguments_withoutNonNull : ∀ type : TypeUse,
    type.withoutNonNull.writtenArguments = type.writtenArguments
  | nonNull inner => writtenArguments_withoutNonNull inner
  | classRef .. | parameter _ | primitive _ | javaObject _ | void | star | dynamic
  | unresolved _ | nullable _ | projected .. | aliased .. => rfl

/-- The parts of a function type are its type arguments. -/
theorem mem_writtenArguments_of_lambdaParts {type : TypeUse} {parts : LambdaParts}
    (split : type.lambdaParts = .ok parts) :
    (∀ receiver ∈ parts.receiver, receiver ∈ type.writtenArguments) ∧
      (∀ parameter ∈ parts.parameters, parameter ∈ type.writtenArguments) ∧
        parts.returnType ∈ type.writtenArguments := by
  unfold lambdaParts at split
  rw [← type.writtenArguments_withoutNonNull]
  split at split
  · rename_i head arguments core
    rw [core, writtenArguments]
    split at split
    · cases split
    · rename_i returnType isSuspend receiver parameters last form rest
      cases split
      have sub : ∀ argument ∈ receiver :: parameters, argument ∈ arguments :=
        fun argument mem => (List.dropLast_sublist _).subset (rest ▸ mem)
      refine ⟨fun r mem => ?_, fun p mem => sub p (List.mem_cons_of_mem _ mem),
        List.mem_of_getLast? last⟩
      cases mem
      exact sub _ (List.mem_cons_self ..)
    · rename_i last _
      cases split
      refine ⟨fun r mem => ?_, fun p mem => (List.dropLast_sublist _).subset mem,
        List.mem_of_getLast? last⟩
      cases mem
  · cases split

end TypeUse

/-! ## Names -/

namespace Identity

/-- Classes of package `kotlin` stay. -/
theorem toKotlin_of_package_kotlin {identity : Identity} (package : identity.package = "kotlin") :
    identity.toKotlin = identity :=
  toKotlin_of_package (package ▸ List.mem_cons_self ..)

theorem toKotlin_ofClass_kotlin (name : String) :
    (ofClass "kotlin" name).toKotlin = ofClass "kotlin" name :=
  toKotlin_of_package_kotlin rfl

/-- The mutable counterpart of a collection is a class of Kotlin. -/
theorem toKotlin_of_mutableCounterpart? {identity other : Identity}
    (mutable : identity.mutableCounterpart? = some other) : other.toKotlin = other := by
  unfold mutableCounterpart? at mutable
  split at mutable
  · split at mutable
    · cases mutable
    · obtain ⟨c, -, rfl⟩ := Option.map_eq_some_iff.mp mutable
      exact toKotlin_of_package (List.mem_cons_of_mem _ (List.mem_cons_self ..))
  · cases mutable

end Identity

/-- Whether a link is made of a bare name, or is the link of one of the given identities. -/
def Context.IsNameOf (context : Context) (among : Identity → Prop) (link : Link) : Prop :=
  (∃ name, link = .unlinked name) ∨ ∃ identity, among identity ∧ link = context.link identity

/-- Whether the name of a displayed type, and of its mutable counterpart, is that of one of the
given identities. A function type has no name. -/
def ShownType.NamedAmong (context : Context) (among : Identity → Prop) : ShownType → Prop
  | plain _ link _ => context.IsNameOf among link
  | mapped _ link mutable _ => context.IsNameOf among link ∧
      ∃ identity, among identity ∧ mutable = ⟨"Mutable", (context.link identity).url⟩
  | lambda .. => True

section

variable {context : Context} {among others : Identity → Prop}

theorem Context.IsNameOf.mono {link : Link} (h : context.IsNameOf among link)
    (sub : ∀ identity, among identity → others identity) : context.IsNameOf others link := by
  rcases h with name | ⟨identity, mem, eq⟩
  · exact Or.inl name
  · exact Or.inr ⟨identity, sub identity mem, eq⟩

theorem ShownType.NamedAmong.mono {shown : ShownType} (h : shown.NamedAmong context among)
    (sub : ∀ identity, among identity → others identity) : shown.NamedAmong context others := by
  cases shown with
  | plain face link arguments => exact Context.IsNameOf.mono h sub
  | mapped face link mutable arguments =>
    obtain ⟨name, identity, mem, eq⟩ := h
    exact ⟨name.mono sub, identity, sub identity mem, eq⟩
  | lambda => trivial

/-- **A type has the name of its class**, or else one that is Kotlin's own. -/
theorem Context.isNameOf_typeLink (kotlin : context.dialect = .kotlin) :
    ∀ (type : TypeUse) {suffix : String} {link : Link}, context.typeLink suffix type = .ok link →
      context.IsNameOf
        (fun identity => identity.toKotlin = identity ∨ type.namingClass? = some identity) link
  | .classRef head _, _, _, named => by
    cases named
    exact Or.inr ⟨_, Or.inr rfl, rfl⟩
  | .nullable inner, _, _, named | .nonNull inner, _, _, named =>
    isNameOf_typeLink kotlin inner named
  | .parameter _, _, _, named | .unresolved _, _, _, named => by
    cases named
    exact Or.inl ⟨_, rfl⟩
  | .star, _, _, named => by
    cases named
    exact Or.inl ⟨_, rfl⟩
  | .void, _, _, named | .javaObject _, _, _, named | .primitive _, _, _, named => by
    simp only [typeLink, kotlin] at named
    cases named
    exact Or.inr ⟨_, Or.inl (Identity.toKotlin_ofClass_kotlin _), rfl⟩

/-- The class that names a Kotlin form is one of Kotlin, unless it is guarded. -/
theorem TypeUse.namingClass?_toKotlin {identity : Identity} : ∀ type : TypeUse,
    type.toKotlin.isWrapper = false → type.toKotlin.namingClass? = some identity →
      identity.toKotlin = identity ∨ identity ∈ type.guardedClasses
  | classRef head arguments, _, named => by
    rw [toKotlin] at named
    split at named
    · cases named
      exact Or.inl (Identity.toKotlin_ofClass_kotlin _)
    · cases named
      exact Or.inl (Identity.toKotlin_toKotlin _)
  | projected _ inner, leaf, named => namingClass?_toKotlin inner leaf named
  | nonNull inner, _, named => by
    have guard : inner.namingClass? = some identity := named
    refine Or.inr (List.mem_append_left _ ?_)
    rw [guard]
    exact List.mem_singleton.mpr rfl
  | nullable _, leaf, _ | aliased .., leaf, _ => by cases leaf

/-- **The name that is shown of a form** is one of Kotlin, or that of a guarded class. -/
theorem Face.Shows.isNameOf (kotlin : context.dialect = .kotlin) {request : TypeRequest}
    {form : TypeUse} {face : Face} {link : Link} (shows : face.Shows context request form)
    (named : context.typeLink "" form = .ok link) :
    context.IsNameOf
      (fun identity => identity.toKotlin = identity ∨ identity ∈ request.type.guardedClasses)
      link := by
  have leaf := shows.leaf
  have written := shows.written
  rw [Context.writtenForm_kotlin kotlin] at written
  cases written
  refine (Context.isNameOf_typeLink kotlin _ named).mono fun identity own => ?_
  rcases own with own | named
  · exact Or.inl own
  · exact request.type.namingClass?_toKotlin leaf named

/-- **Every name in a displayed type** is one that the conversion leaves unchanged, or that of a
guarded class. -/
theorem namedAmong_of_typeOf (kotlin : context.dialect = .kotlin) {request : TypeRequest}
    {shown : ShownType} (found : typeOf context request = .ok shown) {part : ShownType}
    (within : part.Within shown) :
    part.NamedAmong context
      fun identity => identity.toKotlin = identity ∨ identity ∈ request.type.guardedClasses := by
  -- what is guarded in a part is guarded in the whole
  have widen : ∀ {part : ShownType} {type whole : TypeUse},
      type.guardedClasses ⊆ whole.guardedClasses →
      part.NamedAmong context (fun identity =>
        identity.toKotlin = identity ∨ identity ∈ type.guardedClasses) →
      part.NamedAmong context (fun identity =>
        identity.toKotlin = identity ∨ identity ∈ whole.guardedClasses) :=
    fun sub named => named.mono fun _ own => own.imp_right fun mem => sub mem
  have form : ∀ {request : TypeRequest} {form : TypeUse},
      context.writtenForm request = .ok form →
        form.guardedClasses = request.type.guardedClasses := by
    intro request form written
    rw [Context.writtenForm_kotlin kotlin] at written
    cases written
    exact request.type.guardedClasses_toKotlin
  refine typeOf_induct_parts (motive := fun request shown => part.Within shown →
      part.NamedAmong context fun identity =>
        identity.toKotlin = identity ∨ identity ∈ request.type.guardedClasses)
    ?_ ?_ ?_ ?_ ?_ ?_ found within
  · intro request inner shown written below within
    exact widen (form written ▸ List.Subset.refl _) (below within)
  · intro request variance inner shown written below within
    exact widen (form written ▸ List.Subset.refl _) (below within)
  · intro request named inner shown written below within
    exact widen (form written ▸ List.Subset.refl _) (below within)
  · intro request form' face link arguments shows named each within
    cases within with
    | here => exact shows.isNameOf kotlin named
    | argument mem inside =>
      obtain ⟨type, memType, argument⟩ := each _ (mem_of_mem_argumentsBeside mem)
      exact widen (TypeUse.guardedClasses_subset _ memType) (argument inside)
  · intro request form' face link mutable arguments shows named collection each within
    cases within with
    | here =>
      refine ⟨shows.isNameOf kotlin named, ?_⟩
      unfold Context.mutableLink? at collection
      split at collection
      · split at collection
        · obtain ⟨other, counterpart, rfl⟩ := Option.map_eq_some_iff.mp collection
          exact ⟨other, Or.inl (Identity.toKotlin_of_mutableCounterpart? counterpart), rfl⟩
        · cases collection
      · cases collection
    | argument mem inside =>
      obtain ⟨type, memType, argument⟩ := each _ (mem_of_mem_argumentsBeside mem)
      exact widen (TypeUse.guardedClasses_subset _ memType) (argument inside)
  · intro request form' face parts isSuspend receiver parameters returnType shows ofParts receives
      takes returns within
    obtain ⟨receiverOf, parameterOf, returnOf⟩ :=
      TypeUse.mem_writtenArguments_of_lambdaParts ofParts.split
    have sub : ∀ {type}, type ∈ form'.writtenArguments →
        type.guardedClasses ⊆ request.type.guardedClasses := fun mem =>
      form shows.written ▸ TypeUse.guardedClasses_subset _ mem
    cases within with
    | here => trivial
    | argument mem inside => cases mem
    | receiver inside =>
      obtain ⟨type, memType, named⟩ := receives _ rfl
      exact widen (sub (receiverOf type memType)) (named inside)
    | parameter mem inside =>
      obtain ⟨type, memType, named⟩ := takes _ mem
      exact widen (sub (parameterOf type memType)) (named inside)
    | returned inside => exact widen (sub returnOf) (returns inside)

/-! ## Names below `T & Any` -/

/-- A type that is named by a class has the link of the class, at whatever place. -/
theorem Context.typeLink_of_namingClass? {identity : Identity} : ∀ (type : TypeUse)
    (suffix : String), type.namingClass? = some identity →
      context.typeLink suffix type = .ok (context.link identity)
  | .classRef head _, _, named => by
    cases named
    rfl
  | .nullable inner, _, named => typeLink_of_namingClass? inner "?" named
  | .nonNull inner, _, named => typeLink_of_namingClass? inner "" named

/-- **A class below `T & Any` keeps its name**: the conversion stops there, and the link is made
for what is written. -/
theorem link_of_nonNull (kotlin : context.dialect = .kotlin) {request : TypeRequest}
    {inner : TypeUse} {identity : Identity} {shown : ShownType}
    (type : request.type = .nonNull inner) (named : inner.namingClass? = some identity)
    (noFunction : request.type.isFunctionType = .ok false)
    (found : typeOf context request = .ok shown) : shown.link = context.link identity := by
  have form : request.type.toKotlin = .nonNull inner := by rw [type]; rfl
  rw [typeOf_kotlin kotlin, form] at found
  obtain ⟨arguments, -, found⟩ := bind_eq_ok.mp found
  rw [shownBelow_of_not_isWrapper rfl] at found
  rw [type] at noFunction
  unfold shownForm renderFormBy at found
  obtain ⟨annotations, -, found⟩ := bind_eq_ok.mp found
  have link : context.typeLink "" (.nonNull inner) = .ok (context.link identity) :=
    Context.typeLink_of_namingClass? (.nonNull inner) "" named
  simp only [kotlin, attempt_eq, noFunction, link] at found
  cases found
  rfl

end

/-- **Which names Kotlin shows of types.**

* Every name in a displayed type, at whatever depth, is bare, or it is that of an identity that
  the conversion to Kotlin leaves unchanged, or of a class that stands right below `T & Any`.
* The last case does occur: such a class, unless it is a function type, is shown under the name
  that is written, and be it the Java name of a class of Kotlin. -/
theorem kotlin_names {context : Context} (kotlin : context.dialect = .kotlin) :
    (∀ (request : TypeRequest) (shown : ShownType), typeOf context request = .ok shown →
      ∀ part : ShownType, part.Within shown →
        part.NamedAmong context fun identity =>
          identity.toKotlin = identity ∨ identity ∈ request.type.guardedClasses) ∧
    ∀ (request : TypeRequest) (inner : TypeUse) (identity : Identity) (shown : ShownType),
      request.type = .nonNull inner → inner.namingClass? = some identity →
      request.type.isFunctionType = .ok false → typeOf context request = .ok shown →
        shown.link = context.link identity :=
  ⟨fun _ _ found _ within => namedAmong_of_typeOf kotlin found within,
    fun _ _ _ _ type named noFunction found => link_of_nonNull kotlin type named noFunction found⟩

/-- A Java string below `T & Any`. -/
def guardedString : TypeRequest where
  type := .nonNull <| .classRef { identity := .ofClass "java.lang" "String" } []
  fromJava := true
  sourceSet := ⟨.jvm, "jvmMain"⟩

/-- `guardedString` is shown under its Java name, though the class has a name in Kotlin. -/
theorem kotlin_names_guardedString :
    (Context.reference .kotlin {}).dialect = .kotlin ∧
      guardedString.type.isFunctionType = .ok false ∧
      ∃ shown, typeOf (.reference .kotlin {}) guardedString = .ok shown ∧
        (∀ part : ShownType, part.Within shown →
          part.NamedAmong (.reference .kotlin {}) fun identity =>
            identity.toKotlin = identity ∨ identity ∈ guardedString.type.guardedClasses) ∧
        shown.link = (Context.reference .kotlin {}).link (.ofClass "java.lang" "String") ∧
        (Identity.ofClass "java.lang" "String").toKotlin = .ofClass "kotlin" "String" := by
  have kotlin : (Context.reference .kotlin {}).dialect = .kotlin := rfl
  have noFunction : guardedString.type.isFunctionType = .ok false := by decide +kernel
  obtain ⟨names, guarded⟩ := kotlin_names kotlin
  obtain ⟨shown, found⟩ := exists_of_isOk
    (typeOf (.reference .kotlin {}) guardedString) (by decide +kernel)
  exact ⟨kotlin, noFunction, shown, found, names guardedString shown found,
    guarded guardedString _ _ shown rfl rfl noFunction found, by decide +kernel⟩

end Diglot
