import Diglot.TypeUse.ToJava

/-!
# What Java has for a class

* `Identity.packages_mapped` — Kotlin and Java names are told apart by their packages.
* `Identity.isSpecialInJava` — the Kotlin classes for which Java has more than a class.
* `Identity.toJava_toJava` — Java names are not renamed again.
* `Identity.staysClass` — where Java writes a class as a class.
* `ClassToJava` — the things that Java has for a class.
-/

namespace Diglot

/-! ## Names -/

namespace Identity

/-- The packages of Kotlin that classes of both languages and function types are in. -/
def kotlinPackages : List String := ["kotlin", collectionsPackage, "kotlin.coroutines"]

/-- Mapped classes have their Kotlin names in these packages, and their Java names in others. -/
theorem packages_mapped : ∀ m ∈ mappedBothWays ++ mappedToJavaOnly,
    m.kotlin.1 ∈ kotlinPackages ∧ m.java.1 ∉ kotlinPackages := by
  decide

/-- A class has the Java name of some mapped class, or it keeps its name. -/
theorem toJava_eq_or (identity : Identity) :
    identity.toJava = identity ∨
      ∃ m ∈ mappedBothWays ++ mappedToJavaOnly, identity.toJava = identity.renamed m.java := by
  unfold toJava
  split
  · exact Or.inl rfl
  · split
    · rename_i m found
      exact Or.inr ⟨m, List.mem_of_find?_eq_some found, rfl⟩
    · exact Or.inl rfl

/-- What is no Kotlin name of a mapped class stays. -/
theorem toJava_eq_self {identity : Identity} {name : String}
    (named : identity.classNames = some name)
    (unmapped : (mappedBothWays ++ mappedToJavaOnly).find?
      (fun m => m.kotlin = (identity.package, name)) = none) :
    identity.toJava = identity := by
  simp only [toJava, named, unmapped]

/-- What is in no package of Kotlin stays. -/
theorem toJava_of_package {identity : Identity} (other : identity.package ∉ kotlinPackages) :
    identity.toJava = identity := by
  cases named : identity.classNames with
  | none => simp only [toJava, named]
  | some name =>
    refine toJava_eq_self named (List.find?_eq_none.mpr fun m mem kotlin => ?_)
    have listed := (packages_mapped m mem).1
    rw [of_decide_eq_true kotlin] at listed
    exact other listed

/-- Java names are not renamed again. -/
theorem toJava_toJava (identity : Identity) : identity.toJava.toJava = identity.toJava := by
  rcases identity.toJava_eq_or with same | ⟨m, mem, renamed⟩
  · rw [same, same]
  · rw [renamed]
    exact toJava_of_package (packages_mapped m mem).2

/-- `Unit` has no other name in Java. -/
theorem toJava_of_isUnit {identity : Identity} (unit : identity.isClass "kotlin" "Unit" = true) :
    identity.toJava = identity := by
  have unmapped : (mappedBothWays ++ mappedToJavaOnly).find?
      (fun m => m.kotlin = ("kotlin", "Unit")) = none := by
    decide
  simp only [isClass, Bool.and_eq_true, decide_eq_true_eq] at unit
  obtain ⟨package, name⟩ := unit
  cases named : identity.classNames with
  | none => simp only [toJava, named]
  | some name' =>
    rw [className, named, Option.getD_some] at name
    subst name
    exact toJava_eq_self named (package ▸ unmapped)

/-- The boxes of primitives are classes of Java. -/
theorem toJava_box (p : Primitive) :
    (ofClass "java.lang" p.boxName).toJava = ofClass "java.lang" p.boxName :=
  toJava_of_package (by decide : "java.lang" ∉ kotlinPackages)

/-- Whether this is the Kotlin class of a primitive. -/
def isPrimitive (identity : Identity) : Bool :=
  identity.package = "kotlin" && (Primitive.ofKotlinName? identity.className).isSome

/-- A primitive has a name. -/
theorem exists_primitive {identity : Identity} (isPrimitive : identity.isPrimitive = true) :
    identity.package = "kotlin" ∧ ∃ p, Primitive.ofKotlinName? identity.className = some p := by
  rw [Identity.isPrimitive, Bool.and_eq_true, decide_eq_true_eq] at isPrimitive
  exact ⟨isPrimitive.1, Option.isSome_iff_exists.mp isPrimitive.2⟩

/-- Whether this is a Kotlin class for which Java has a primitive, `void` or an array. -/
def isSpecialInJava (identity : Identity) : Bool :=
  identity.package = "kotlin" &&
    ((Primitive.ofKotlinName? identity.className).isSome || identity.className = "Unit" ||
      identity.className = "Array" || (Primitive.ofArrayName? identity.className).isSome)

/-- A primitive is special, and no array. -/
theorem isSpecialInJava_of_primitive {identity : Identity} {p : Primitive}
    (package : identity.package = "kotlin")
    (named : Primitive.ofKotlinName? identity.className = some p) :
    identity.isSpecialInJava = true ∧ identity.isClass "kotlin" "Array" = false := by
  have noPrimitive : Primitive.ofKotlinName? "Array" = none := by decide
  refine ⟨by simp [isSpecialInJava, package, named], ?_⟩
  cases array : identity.isClass "kotlin" "Array" with
  | false => rfl
  | true =>
    simp only [isClass, Bool.and_eq_true, decide_eq_true_eq] at array
    rw [array.2, noPrimitive] at named
    cases named

/-- An array of a primitive is special, and is not the class `Array`. -/
theorem isSpecialInJava_of_primitiveArray {identity : Identity} {p : Primitive}
    (package : identity.package = "kotlin")
    (named : Primitive.ofArrayName? identity.className = some p) :
    identity.isSpecialInJava = true ∧ identity.isClass "kotlin" "Array" = false := by
  have noArray : Primitive.ofArrayName? "Array" = none := by decide
  refine ⟨by simp [isSpecialInJava, package, named], ?_⟩
  cases array : identity.isClass "kotlin" "Array" with
  | false => rfl
  | true =>
    simp only [isClass, Bool.and_eq_true, decide_eq_true_eq] at array
    rw [array.2, noArray] at named
    cases named

/-- `Unit` is special, and no array. -/
theorem isSpecialInJava_of_isUnit {identity : Identity}
    (unit : identity.isClass "kotlin" "Unit" = true) :
    identity.isSpecialInJava = true ∧ identity.isClass "kotlin" "Array" = false := by
  simp only [isClass, Bool.and_eq_true, decide_eq_true_eq] at unit
  simp [isSpecialInJava, isClass, unit]

/-- A class that has a Java name has it in a package of Java. -/
theorem toJava_eq_or_package_ne (identity : Identity) :
    identity.toJava = identity ∨ identity.toJava.package ≠ "kotlin" := by
  rcases identity.toJava_eq_or with same | ⟨m, mem, renamed⟩
  · exact Or.inl same
  · refine Or.inr (renamed ▸ fun kotlin => (packages_mapped m mem).2 ?_)
    exact List.mem_cons.mpr (Or.inl kotlin)

/-- `Nothing` has a Java name. -/
theorem package_toJava_of_nothing {identity : Identity} (package : identity.package = "kotlin")
    (nothing : identity.className = "Nothing") : identity.toJava.package ≠ "kotlin" := by
  have listed : (((mappedBothWays ++ mappedToJavaOnly).find?
      fun m => m.kotlin = ("kotlin", "Nothing")).map MappedClass.java) =
      some ("java.lang", "Void") := by
    decide
  obtain ⟨m, found, java⟩ := Option.map_eq_some_iff.mp listed
  cases named : identity.classNames with
  | none =>
    rw [className, named] at nothing
    exact absurd nothing (by decide)
  | some name =>
    rw [className, named] at nothing
    cases nothing
    simp only [toJava, named, package, found, renamed, java]
    decide

/-- A class that Java writes as a class stays one. -/
theorem isSpecialInJava_toJava {identity : Identity} (plain : identity.isSpecialInJava = false) :
    identity.toJava.isSpecialInJava = false := by
  rcases identity.toJava_eq_or_package_ne with same | moved
  · rw [same, plain]
  · simp [isSpecialInJava, moved]

/-- Whether Java writes a class as a class, whether or not it is returned. -/
def staysClass (identity : Identity) (isReturn : Bool) : Bool :=
  !identity.isSpecialInJava || (!isReturn && identity.isClass "kotlin" "Unit")

/-- The Java name of a class that Java writes as a class is one that Java writes so. -/
theorem staysClass_toJava {identity : Identity} {isReturn : Bool}
    (stays : identity.staysClass isReturn = true) : identity.toJava.staysClass isReturn = true := by
  simp only [staysClass, Bool.or_eq_true, Bool.not_eq_true', Bool.and_eq_true] at stays
  rcases stays with plain | ⟨notReturned, unit⟩
  · rw [staysClass, isSpecialInJava_toJava plain]
    rfl
  · rw [toJava_of_isUnit unit, staysClass, notReturned, unit, Bool.not_false, Bool.and_self,
      Bool.or_true]

/-- What stays a class where it is returned stays one everywhere. -/
theorem staysClass_of_weaker {identity : Identity} {isReturn isReturn' : Bool}
    (stays : identity.staysClass isReturn = true) (weaker : isReturn' = true → isReturn = true) :
    identity.staysClass isReturn' = true := by
  cases returned : isReturn' with
  | true => rwa [weaker returned] at stays
  | false => cases isReturn <;> simp_all [staysClass]

end Identity

/-! ## Classes -/

namespace TypeUse

/-- **The things that Java has for a class** in a position. -/
inductive ClassToJava (position : JavaPosition) (head : ClassHead)
    (arguments rewritten : List TypeUse) : TypeUse → Prop where
  /-- `Unit` that is returned -/
  | void (returned : position.isReturn = true)
    (unit : head.identity.isClass "kotlin" "Unit" = true) :
    ClassToJava position head arguments rewritten void
  /-- a primitive where there can be none -/
  | boxed {p : Primitive} (package : head.identity.package = "kotlin")
    (named : Primitive.ofKotlinName? head.identity.className = some p) :
    ClassToJava position head arguments rewritten
      (classRef { head with identity := .ofClass "java.lang" p.boxName } arguments)
  /-- a primitive -/
  | unboxed {p : Primitive} (package : head.identity.package = "kotlin")
    (named : Primitive.ofKotlinName? head.identity.className = some p) :
    ClassToJava position head arguments rewritten (primitive p.javaName)
  /-- an array of a primitive -/
  | primitiveArray {p : Primitive} (package : head.identity.package = "kotlin")
    (named : Primitive.ofArrayName? head.identity.className = some p) :
    ClassToJava position head arguments rewritten (primitive (p.javaName ++ "[]"))
  /-- any other array -/
  | array {name : String} (array : head.identity.isClass "kotlin" "Array" = true) :
    ClassToJava position head arguments rewritten (primitive (name ++ "[]"))
  /-- a class -/
  | renamed (stays : head.identity.staysClass position.isReturn = true) :
    ClassToJava position head arguments rewritten (renamedToJava head rewritten)

/-- The Java form of an array is a name with brackets. -/
theorem arrayToJava_eq_primitive {qualified : Bool} {elements : List TypeUse} {form : TypeUse}
    (written : arrayToJava qualified elements = .ok form) :
    ∃ name, form = primitive (name ++ "[]") := by
  unfold arrayToJava at written
  split at written
  · obtain ⟨name, -, written⟩ := bind_eq_ok.mp written
    cases written
    exact ⟨name, rfl⟩
  · cases written
    exact ⟨"java.lang.Object", rfl⟩

variable {position : JavaPosition}

/-- A class that Java writes as a class is renamed. -/
theorem classToJava_of_not_isSpecialInJava {head : ClassHead}
    {arguments rewritten : List TypeUse} (plain : head.identity.isSpecialInJava = false) :
    classToJava position head arguments rewritten = .ok (renamedToJava head rewritten) := by
  unfold classToJava
  split
  · rename_i package
    simp only [Identity.isSpecialInJava, package, decide_true, Bool.true_and,
      Bool.or_eq_false_iff, Option.isSome_eq_false_iff, Option.isNone_iff_eq_none,
      decide_eq_false_iff_not] at plain
    obtain ⟨⟨⟨noPrimitive, noUnit⟩, noArray⟩, noPrimitiveArray⟩ := plain
    simp only [noPrimitive, noUnit, noArray, noPrimitiveArray, decide_false, Bool.and_false]
    rfl
  · rfl

/-- **A class is written in one of the ways** that `ClassToJava` lists. -/
theorem ClassToJava.of_classToJava {head : ClassHead} {arguments rewritten : List TypeUse}
    {form : TypeUse} (written : classToJava position head arguments rewritten = .ok form) :
    ClassToJava position head arguments rewritten form := by
  unfold classToJava at written
  split at written
  · rename_i package
    split at written
    · rename_i returned
      cases written
      simp only [Bool.and_eq_true, decide_eq_true_eq] at returned
      exact .void returned.1 (by simp [Identity.isClass, package, returned.2])
    · rename_i notReturned
      split at written
      · rename_i named
        split at written <;> cases written
        · exact .boxed package named
        · exact .unboxed package named
      · rename_i named
        cases written
        exact .primitiveArray package named
      · rename_i noPrimitive noArray
        split at written
        · rename_i array
          obtain ⟨name, rfl⟩ := arrayToJava_eq_primitive written
          exact .array (by simp [Identity.isClass, package, array])
        · rename_i noArrayClass
          cases written
          refine .renamed ?_
          by_cases unit : head.identity.className = "Unit" <;>
            simp_all [Identity.staysClass, Identity.isSpecialInJava, Identity.isClass]
  · rename_i package
    cases written
    refine .renamed ?_
    simp [Identity.staysClass, Identity.isSpecialInJava, package]

/-- An array is written by the name of its element. -/
theorem classToJava_of_isArray {head : ClassHead} {arguments rewritten : List TypeUse}
    (array : head.identity.isClass "kotlin" "Array" = true) :
    classToJava position head arguments rewritten =
      arrayToJava position.qualified rewritten := by
  simp only [Identity.isClass, Bool.and_eq_true, decide_eq_true_eq] at array
  have noPrimitive : Primitive.ofKotlinName? "Array" = none := by decide
  have noPrimitiveArray : Primitive.ofArrayName? "Array" = none := by decide
  have noUnit : "Array" ≠ "Unit" := by decide
  simp only [classToJava, array, noPrimitive, noPrimitiveArray, noUnit, decide_false,
    Bool.and_false]
  rfl

/-- A class other than `Array` is written, whatever its arguments are. -/
theorem exists_classToJava_of_not_isArray (position : JavaPosition) {head : ClassHead}
    (arguments rewritten : List TypeUse)
    (other : head.identity.isClass "kotlin" "Array" = false) :
    ∃ form, classToJava position head arguments rewritten = .ok form := by
  unfold classToJava
  split
  · rename_i package
    have noArray : head.identity.className ≠ "Array" := by
      intro named
      simp [Identity.isClass, package, named] at other
    split
    · exact ⟨_, rfl⟩
    · split
      · split <;> exact ⟨_, rfl⟩
      · exact ⟨_, rfl⟩
      · exact ⟨_, rfl⟩
  · exact ⟨_, rfl⟩

/-- Where Java writes a class as a class, it is renamed. -/
theorem classToJava_of_staysClass {head : ClassHead} {arguments rewritten : List TypeUse}
    (stays : head.identity.staysClass position.isReturn = true) :
    classToJava position head arguments rewritten = .ok (renamedToJava head rewritten) := by
  simp only [Identity.staysClass, Bool.or_eq_true, Bool.not_eq_true', Bool.and_eq_true] at stays
  rcases stays with plain | ⟨notReturned, unit⟩
  · exact classToJava_of_not_isSpecialInJava plain
  · simp only [Identity.isClass, Bool.and_eq_true, decide_eq_true_eq] at unit
    have noPrimitive : Primitive.ofKotlinName? "Unit" = none := by decide
    have noArray : Primitive.ofArrayName? "Unit" = none := by decide
    simp only [classToJava, unit, notReturned, noPrimitive, noArray]
    rfl

end TypeUse

end Diglot
