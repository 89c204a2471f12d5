import Diglot.Proofs.FinalForms

/-!
# Spelling in Java

In a Java form every class is under the name that Java has for it, and none is a class of arrays.
Below the top there is no primitive either, unless the type came with one: type arguments and
what is inside of wrappers are rewritten for a position in which primitives are boxed, and a
position only passes through aliases.

* `exists_isFinal_of_occursIn` — what occurs in a final type is final.
* `everywhere_isBoxed_toJava` — where primitives must be boxed, none is left but arrays.
* `java_spelling` — both, for the Java form in any position.
-/

namespace Diglot

namespace Identity

/-- Whether this is a Kotlin class of arrays, of a primitive or of anything else. -/
def isArray (identity : Identity) : Bool :=
  identity.isClass "kotlin" "Array" ||
    (identity.package = "kotlin" && (Primitive.ofArrayName? identity.className).isSome)

/-- Classes that Java writes as classes are no arrays. -/
theorem isArray_of_staysClass {identity : Identity} {isReturn : Bool}
    (stays : identity.staysClass isReturn = true) : identity.isArray = false := by
  simp only [staysClass, Bool.or_eq_true, Bool.not_eq_true', Bool.and_eq_true] at stays
  rcases stays with plain | ⟨-, unit⟩
  · by_cases package : identity.package = "kotlin"
    · simp only [isSpecialInJava, package, decide_true, Bool.true_and,
        Bool.or_eq_false_iff] at plain
      simp [isArray, isClass, package, plain]
    · simp [isArray, isClass, package]
  · have noPrimitiveArray : Primitive.ofArrayName? "Unit" = none := by decide
    simp only [isClass, Bool.and_eq_true, decide_eq_true_eq] at unit
    simp [isArray, isClass, unit, noPrimitiveArray]

end Identity

namespace TypeUse

/-! ## Names of classes -/

theorem isFinalList_iff {types : List TypeUse} :
    isFinalList types = true ↔ ∀ type ∈ types, type.isFinal false = true := by
  induction types with
  | nil => simp [isFinalList]
  | cons first rest ih => simp [isFinalList, ih]

/-- **What occurs in a final type is final** in its position. -/
theorem exists_isFinal_of_occursIn {part type : TypeUse} {isReturn : Bool}
    (occurs : part.OccursIn type) (final : type.isFinal isReturn = true) :
    ∃ returned, part.isFinal returned = true := by
  induction occurs generalizing isReturn with
  | self => exact ⟨isReturn, final⟩
  | argument mem _ ih =>
    simp only [isFinal, Bool.and_eq_true] at final
    exact ih (isFinalList_iff.mp final.2 _ mem)
  | @inside outer inner inside _ ih =>
    cases outer with
    | nullable =>
      cases inside
      simp only [isFinal, Bool.and_eq_true] at final
      exact ih final.2
    | nonNull | projected | aliased =>
      cases inside
      exact ih final
    | classRef | parameter | primitive | javaObject | void | star | dynamic | unresolved =>
      cases inside

/-- A class in a final type has its Java name, and is no array. -/
theorem spelled_of_isFinal {head : ClassHead} {arguments : List TypeUse} {isReturn : Bool}
    (final : (classRef head arguments).isFinal isReturn = true) :
    head.identity.toJava = head.identity ∧ head.identity.isArray = false := by
  simp only [isFinal, Bool.and_eq_true, decide_eq_true_eq] at final
  exact ⟨final.1.2, Identity.isArray_of_staysClass final.1.1⟩

/-! ## Boxed positions -/

/-- Whether this is anything but a Java primitive; arrays of primitives are objects. -/
def isBoxed : TypeUse → Bool
  | primitive name => Text.endsWith name "[]"
  | _ => true

/-- A part of a type stands where Java has no primitives: in a type argument, or below a wrapper
that is not an alias. -/
inductive NestedIn (part : TypeUse) : TypeUse → Prop where
  /-- in a type argument -/
  | argument {head : ClassHead} {arguments : List TypeUse} {a : TypeUse} (mem : a ∈ arguments)
    (occurs : part.OccursIn a) : NestedIn part (classRef head arguments)
  /-- in what may be null -/
  | nullable {inner : TypeUse} (occurs : part.OccursIn inner) : NestedIn part (nullable inner)
  /-- in `T & Any` -/
  | nonNull {inner : TypeUse} (occurs : part.OccursIn inner) : NestedIn part (nonNull inner)
  /-- under variance -/
  | projected {variance : Variance} {inner : TypeUse} (occurs : part.OccursIn inner) :
    NestedIn part (projected variance inner)
  /-- an alias around the whole does not count -/
  | aliased {named inner : TypeUse} (nested : NestedIn part inner) :
    NestedIn part (aliased named inner)

/-- What is nested in a type occurs in it. -/
theorem NestedIn.occursIn {part type : TypeUse} (nested : part.NestedIn type) :
    part.OccursIn type := by
  induction nested with
  | argument mem occurs => exact .argument mem occurs
  | nullable occurs | nonNull occurs | projected occurs => exact .inside rfl occurs
  | aliased _ ih => exact .inside rfl ih

/-- Arrays are named with brackets. -/
theorem isBoxed_array (name : String) : (primitive (name ++ "[]")).isBoxed = true := by
  simp [isBoxed, Text.endsWith]

/-- That no primitive of Kotlin has type arguments can be tested everywhere in a type. -/
theorem everywhere_appliesNoPrimitive_iff {type : TypeUse} :
    type.everywhere appliesNoPrimitive = true ↔
      ∀ head arguments, (classRef head arguments).OccursIn type →
        head.identity.isPrimitive = true → arguments = [] := by
  rw [everywhere_iff_occursIn]
  constructor
  · intro all head arguments occurs isPrimitive
    have here := all _ occurs
    rw [appliesNoPrimitive, isPrimitive] at here
    exact List.isEmpty_iff.mp here
  · intro proper part occurs
    cases part with
    | classRef head arguments =>
      cases isPrimitive : head.identity.isPrimitive with
      | false => rw [appliesNoPrimitive, isPrimitive, Bool.not_false, Bool.true_or]
      | true =>
        obtain rfl := proper head arguments occurs isPrimitive
        exact Bool.or_true _
    | parameter | primitive | javaObject | void | star | dynamic | unresolved | nullable
    | nonNull | projected | aliased => rfl

variable {position : JavaPosition}

/-- **A class is boxed** where it must be: it is a class, or an array. -/
theorem everywhere_isBoxed_classToJava {head : ClassHead} {arguments rewritten : List TypeUse}
    {form : TypeUse} (proper : (classRef head arguments).appliesNoPrimitive = true)
    (written : classToJava position.boxed head arguments rewritten = .ok form)
    (rest : ∀ a ∈ rewritten, a.everywhere isBoxed = true) : form.everywhere isBoxed = true := by
  -- a primitive is written as its box
  have box : ∀ {p}, head.identity.package = "kotlin" →
      Primitive.ofKotlinName? head.identity.className = some p →
        form = classRef { head with identity := .ofClass "java.lang" p.boxName } [] := by
    intro p package named
    have isPrimitive : head.identity.isPrimitive = true := by
      simp [Identity.isPrimitive, package, named]
    rw [appliesNoPrimitive, isPrimitive] at proper
    obtain rfl := List.isEmpty_iff.mp proper
    simp only [classToJava, package, named] at written
    exact (Except.ok.inj written).symm
  cases ClassToJava.of_classToJava written with
  | void returned => cases returned
  | boxed package named | unboxed package named =>
    rw [box package named]
    rfl
  | primitiveArray | array => exact isBoxed_array _
  | renamed => exact everywhere_classRef_iff.mpr ⟨rfl, rest⟩

mutual

/-- **Where primitives must be boxed** there are only arrays left, if the type has no other
primitives in it. -/
theorem everywhere_isBoxed_toJava : ∀ (type : TypeUse) {position : JavaPosition} {form : TypeUse},
    type.everywhere appliesNoPrimitive = true → type.everywhere isBoxed = true →
      type.toJava position.boxed = .ok form → form.everywhere isBoxed = true
  | classRef head arguments, position, form, proper, boxed, written => by
    obtain ⟨here, given⟩ := everywhere_classRef_iff.mp proper
    rw [toJava] at written
    obtain ⟨rewritten, rest, written⟩ := bind_eq_ok.mp written
    exact everywhere_isBoxed_classToJava here written (everywhere_isBoxed_toJavaList arguments given
      (everywhere_classRef_iff.mp boxed).2 rest)
  | nullable inner, position, form, proper, boxed, written => by
    rw [toJava] at written
    split at written
    · cases written
      rfl
    · obtain ⟨inside, insideWritten, written⟩ := bind_eq_ok.mp written
      have below := everywhere_isBoxed_toJava inner (everywhere_inside rfl proper)
        (everywhere_inside rfl boxed) insideWritten
      split at written <;> cases written
      · rfl
      · exact below
  | projected _ inner, position, form, proper, boxed, written
  | nonNull inner, position, form, proper, boxed, written
  | aliased _ inner, position, form, proper, boxed, written => by
    rw [toJava] at written
    obtain ⟨inside, insideWritten, written⟩ := bind_eq_ok.mp written
    cases written
    have below := everywhere_isBoxed_toJava inner (everywhere_inside rfl proper)
      (everywhere_inside rfl boxed) insideWritten
    exact below
  | parameter _, _, _, _, boxed, written | primitive _, _, _, _, boxed, written
  | javaObject _, _, _, _, boxed, written | void, _, _, _, boxed, written
  | star, _, _, _, boxed, written | dynamic, _, _, _, boxed, written
  | unresolved _, _, _, _, boxed, written => by
    cases written
    exact boxed

/-- Where primitives must be boxed there are only arrays left in the forms of type arguments. -/
theorem everywhere_isBoxed_toJavaList :
    ∀ (types : List TypeUse) {position : JavaPosition} {forms : List TypeUse},
      (∀ type ∈ types, type.everywhere appliesNoPrimitive = true) →
        (∀ type ∈ types, type.everywhere isBoxed = true) →
          toJavaList position.boxed types = .ok forms →
            ∀ form ∈ forms, form.everywhere isBoxed = true
  | [], _, _, _, _, written => by
    cases written
    exact fun form mem => absurd mem List.not_mem_nil
  | first :: rest, position, forms, proper, boxed, written => by
    rw [toJavaList] at written
    obtain ⟨form, one, written⟩ := bind_eq_ok.mp written
    obtain ⟨others, more, written⟩ := bind_eq_ok.mp written
    cases written
    have here : form.everywhere isBoxed = true :=
      everywhere_isBoxed_toJava first (proper first (List.mem_cons_self ..))
        (boxed first (List.mem_cons_self ..)) one
    have there := everywhere_isBoxed_toJavaList rest
      (fun type mem => proper type (List.mem_cons_of_mem _ mem))
      (fun type mem => boxed type (List.mem_cons_of_mem _ mem)) more
    intro type mem
    rcases List.mem_cons.mp mem with rfl | mem
    · exact here
    · exact there type mem

end

/-- **Nothing that is nested in a Java form is a primitive**, unless the type has primitives. -/
theorem isBoxed_of_nestedIn {part : TypeUse} : ∀ (type : TypeUse) {position : JavaPosition}
    {form : TypeUse}, type.everywhere appliesNoPrimitive = true → type.everywhere isBoxed = true →
      type.toJava position = .ok form → part.NestedIn form → part.isBoxed = true
  | classRef head arguments, position, form, proper, boxed, written, nested => by
    obtain ⟨here, given⟩ := everywhere_classRef_iff.mp proper
    rw [toJava] at written
    obtain ⟨rewritten, rest, written⟩ := bind_eq_ok.mp written
    have below := everywhere_isBoxed_toJavaList arguments given
      (everywhere_classRef_iff.mp boxed).2 rest
    cases ClassToJava.of_classToJava written with
    | void | unboxed | primitiveArray | array => cases nested
    | boxed =>
      obtain ⟨mem, occurs⟩ := nested
      exact (everywhere_iff_occursIn _).mp ((everywhere_classRef_iff.mp boxed).2 _ mem) part occurs
    | renamed =>
      obtain ⟨mem, occurs⟩ := nested
      exact (everywhere_iff_occursIn _).mp (below _ mem) part occurs
  -- what is inside of these wrappers is in a boxed position already
  | nullable _, _, _, proper, boxed, written, nested
  | projected .., _, _, proper, boxed, written, nested
  | nonNull _, _, _, proper, boxed, written, nested => by
    rw [toJava] at written
    have below := everywhere_isBoxed_toJava _ proper boxed (by rw [toJava]; exact written)
    exact (everywhere_iff_occursIn _).mp below part nested.occursIn
  | aliased named inner, position, form, proper, boxed, written, nested => by
    rw [toJava] at written
    obtain ⟨inside, insideWritten, written⟩ := bind_eq_ok.mp written
    cases written
    cases nested with
    | aliased nested =>
      exact isBoxed_of_nestedIn inner (everywhere_inside rfl proper) (everywhere_inside rfl boxed)
        insideWritten nested
  | parameter _, _, _, _, _, written, nested | primitive _, _, _, _, _, written, nested
  | javaObject _, _, _, _, _, written, nested | void, _, _, _, _, written, nested
  | star, _, _, _, _, written, nested | dynamic, _, _, _, _, written, nested
  | unresolved _, _, _, _, _, written, nested => by
    cases written
    cases nested

end TypeUse

/-- **Spelling in Java.** In a Java form every class has its Java name and none is a class of
arrays, however deep it stands. Where Java has no primitives there are only arrays of them, if the
type has no other ones; so it is if the type has none at all. -/
theorem java_spelling (type : TypeUse)
    (proper : ∀ head arguments, (TypeUse.classRef head arguments).OccursIn type →
      head.identity.isPrimitive = true → arguments = [])
    (position : JavaPosition) (form : TypeUse) (written : type.toJava position = .ok form) :
    (∀ head arguments, (TypeUse.classRef head arguments).OccursIn form →
      head.identity.toJava = head.identity ∧ head.identity.isArray = false) ∧
    ((∀ name, (TypeUse.primitive name).OccursIn type → Text.endsWith name "[]" = true) →
      ∀ name, (TypeUse.primitive name).NestedIn form → Text.endsWith name "[]" = true) := by
  have applies := TypeUse.everywhere_appliesNoPrimitive_iff.mpr proper
  refine ⟨fun head arguments occurs => ?_, fun arrays name nested => ?_⟩
  · obtain ⟨returned, final⟩ :=
      TypeUse.exists_isFinal_of_occursIn occurs (TypeUse.isFinal_toJava type applies written)
    exact TypeUse.spelled_of_isFinal final
  · have boxed : type.everywhere TypeUse.isBoxed = true := by
      refine (TypeUse.everywhere_iff_occursIn type).mpr fun part occurs => ?_
      cases part with
      | primitive name => exact arrays name occurs
      | classRef | parameter | javaObject | void | star | dynamic | unresolved | nullable
      | nonNull | projected | aliased => rfl
    exact TypeUse.isBoxed_of_nestedIn type applies boxed written nested

/-- Scores by name: for each an array of integers that may be null, and the best of them. -/
def scores : TypeUse :=
  .aliased (.classRef { identity := .ofClass "com.example" "Scores" } []) <|
    .classRef { identity := .ofClass "kotlin.collections" "MutableMap" }
      [.classRef { identity := .ofClass "kotlin" "String" } [],
        .classRef { identity := .ofClass "kotlin" "Pair" }
          [.projected .covariant <| .classRef { identity := .ofClass "kotlin" "Array" }
            [.nullable <| .classRef { identity := .ofClass "kotlin" "Int" } []],
            .aliased (.classRef { identity := .ofClass "com.example" "Best" } []) <|
              .classRef { identity := .ofClass "kotlin" "Int" } []]]

/-- What Java writes for `scores`. -/
def scoresInJava : TypeUse :=
  .aliased (.classRef { identity := .ofClass "com.example" "Scores" } []) <|
    .classRef { identity := .ofClass "java.util" "Map" }
      [.classRef { identity := .ofClass "java.lang" "String" } [],
        .classRef { identity := .ofClass "kotlin" "Pair" }
          [.projected .covariant <| .primitive "Integer[]",
            .aliased (.classRef { identity := .ofClass "com.example" "Best" } []) <|
              .classRef { identity := .ofClass "java.lang" "Integer" } []]]

/-- The classes in `scoresInJava` have their Java names, and the only primitive in it is an
array. -/
theorem java_spelling_scores :
    (∀ head arguments, (TypeUse.classRef head arguments).OccursIn scores →
      head.identity.isPrimitive = true → arguments = []) ∧
    scores.toJava {} = .ok scoresInJava ∧
    (∀ head arguments, (TypeUse.classRef head arguments).OccursIn scoresInJava →
      head.identity.toJava = head.identity ∧ head.identity.isArray = false) ∧
    (∀ name, ¬ (TypeUse.primitive name).OccursIn scores) ∧
    (TypeUse.primitive "Integer[]").NestedIn scoresInJava ∧
    ∀ name, (TypeUse.primitive name).NestedIn scoresInJava → Text.endsWith name "[]" = true := by
  have applies : scores.everywhere TypeUse.appliesNoPrimitive = true := by decide +kernel
  have none : scores.everywhere (fun node => node.shape ≠ .primitive) = true := by decide +kernel
  have written : scores.toJava {} = .ok scoresInJava := by decide +kernel
  have noPrimitive : ∀ name, ¬ (TypeUse.primitive name).OccursIn scores := by
    intro name occurs
    have here := (TypeUse.everywhere_iff_occursIn scores).mp none _ occurs
    simp [TypeUse.shape] at here
  have nested : (TypeUse.primitive "Integer[]").NestedIn scoresInJava :=
    .aliased (.argument (.tail _ (.head _)) (.argument (.head _) (.inside rfl .self)))
  have proper := TypeUse.everywhere_appliesNoPrimitive_iff.mp applies
  obtain ⟨spelled, boxed⟩ := java_spelling scores proper {} scoresInJava written
  exact ⟨proper, written, spelled, noPrimitive, nested,
    boxed fun name occurs => absurd occurs (noPrimitive name)⟩

end Diglot
