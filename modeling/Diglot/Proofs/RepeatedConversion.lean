import Diglot.Proofs.KotlinNames
import Diglot.Proofs.RoundTrip

/-!
# Types that are converted to Kotlin twice

Kotlin converts the type of a parameter beforehand, and then again on the spot. The conversion
looks for an array of a Java primitive before it drops the variance in the type arguments, so it
takes `Array<out int>` for an array of some class and leaves `Array<int>`, which the next
conversion turns into `IntArray`.

* `toKotlin_toKotlin_eq` — two conversions come to what one comes to without variance.
* `toKotlin_withoutVariance_iff` — variance makes a difference to types with such an array only.
* `converted_repeatedly` — with which types one conversion is done, and what becomes of the others.
-/

namespace Diglot

namespace TypeUse

/-! ## Variance -/

mutual

/-- The type without variance, wherever the conversion to Kotlin drops it. -/
def withoutVariance : TypeUse → TypeUse
  | classRef head arguments => classRef head (withoutVarianceList arguments)
  | projected _ inner => inner.withoutVariance
  | other => other

/-- The types of a list without variance. -/
def withoutVarianceList : List TypeUse → List TypeUse
  | [] => []
  | first :: rest => first.withoutVariance :: withoutVarianceList rest

end

/-- Whether a class with these arguments is an array of a Java primitive only once variance is
dropped. -/
def hidesPrimitive (head : ClassHead) (arguments : List TypeUse) : Bool :=
  (primitiveArray? head arguments).isNone &&
    (primitiveArray? head (withoutVarianceList arguments)).isSome

mutual

/-- **Types with which one conversion is done**: no array that the conversion reaches hides its
Java primitive under variance. -/
def isConvertedAtOnce : TypeUse → Bool
  | classRef head arguments =>
    !hidesPrimitive head arguments && isConvertedAtOnceList arguments
  | projected _ inner => inner.isConvertedAtOnce
  | _ => true

/-- Whether one conversion is enough for every type of a list. -/
def isConvertedAtOnceList : List TypeUse → Bool
  | [] => true
  | first :: rest => first.isConvertedAtOnce && isConvertedAtOnceList rest

end

/-! ## Arrays of Java primitives -/

/-- What is converted to a Java primitive is one under variance. -/
theorem toKotlin_eq_primitive_iff : ∀ (type : TypeUse) (name : String),
    type.toKotlin = primitive name ↔ type.withoutVariance = primitive name
  | classRef head arguments, name => by
    rw [toKotlin, withoutVariance]
    split <;> simp [arrayToKotlin, renamedToKotlin]
  | projected _ inner, name => toKotlin_eq_primitive_iff inner name
  | nullable _, _ | nonNull _, _ | aliased .., _ | parameter _, _ | primitive _, _
  | javaObject _, _ | void, _ | star, _ | dynamic, _ | unresolved _, _ => Iff.rfl

/-- What is converted to a list of one Java primitive is one under variance. -/
theorem toKotlinList_eq_singleton_iff {name : String} : ∀ types : List TypeUse,
    toKotlinList types = [primitive name] ↔ withoutVarianceList types = [primitive name]
  | [] => Iff.rfl
  | [type] => by
    simpa only [toKotlinList, withoutVarianceList, List.singleton_inj] using
      toKotlin_eq_primitive_iff type name
  | _ :: _ :: _ => by simp [toKotlinList, withoutVarianceList]

/-- **Once its arguments are converted**, a class is an array of a Java primitive if it is one
without variance. -/
theorem primitiveArray?_toKotlinList (head : ClassHead) (arguments : List TypeUse) :
    primitiveArray? head (toKotlinList arguments) =
      primitiveArray? head (withoutVarianceList arguments) := by
  ext element
  constructor <;> intro found <;> obtain ⟨-, name, only, -⟩ := primitiveArray?_eq_some found
  · rwa [(toKotlinList_eq_singleton_iff arguments).mp only, ← only]
  · rwa [(toKotlinList_eq_singleton_iff arguments).mpr only, ← only]

/-- Under its Kotlin name a class is an array of the same Java primitive. -/
theorem primitiveArray?_renamed (head : ClassHead) (arguments : List TypeUse) :
    primitiveArray? { head with identity := head.identity.toKotlin } arguments =
      primitiveArray? head arguments := by
  ext element
  constructor
  · exact primitiveArray?_of_toKotlin
  · intro found
    obtain ⟨array, -⟩ := primitiveArray?_eq_some found
    rw [Identity.isClass, Bool.and_eq_true, decide_eq_true_eq] at array
    rwa [Identity.toKotlin_of_package_kotlin array.1]

/-- The class of arrays of a primitive stays as it is. -/
theorem toKotlin_arrayToKotlin (head : ClassHead) (element : Primitive) :
    (arrayToKotlin head element).toKotlin = arrayToKotlin head element := by
  rw [arrayToKotlin, toKotlin]
  simp only [primitiveArray?, renamedToKotlin, Identity.toKotlin_ofClass_kotlin, toKotlinList]

/-- What is an array of a Java primitive as it is written has no variance. -/
theorem withoutVarianceList_of_primitiveArray {head : ClassHead} {arguments : List TypeUse}
    {element : Primitive} (found : primitiveArray? head arguments = some element) :
    withoutVarianceList arguments = arguments := by
  obtain ⟨-, name, rfl, -⟩ := primitiveArray?_eq_some found
  rfl

/-! ## Two conversions -/

mutual

/-- **Two conversions** come to what one comes to once variance is dropped. -/
theorem toKotlin_toKotlin_eq : ∀ type : TypeUse,
    type.toKotlin.toKotlin = type.withoutVariance.toKotlin
  | classRef head arguments => by
    rw [withoutVariance]
    cases written : primitiveArray? head arguments with
    | some element =>
      rw [withoutVarianceList_of_primitiveArray written]
      simp only [toKotlin, written, toKotlin_arrayToKotlin]
    | none =>
      have arguments' := toKotlinList_toKotlinList_eq arguments
      simp only [toKotlin, written]
      rw [renamedToKotlin, toKotlin, primitiveArray?_renamed, primitiveArray?_toKotlinList,
        arguments']
      -- the name of the array is replaced, or it is final
      cases primitiveArray? head (withoutVarianceList arguments) with
      | some element => rfl
      | none => simp only [renamedToKotlin, Identity.toKotlin_toKotlin]
  | projected _ inner => toKotlin_toKotlin_eq inner
  | nullable _ | nonNull _ | aliased .. | parameter _ | primitive _ | javaObject _ | void | star
  | dynamic | unresolved _ => rfl

/-- Two conversions of a list come to what one comes to once variance is dropped. -/
theorem toKotlinList_toKotlinList_eq : ∀ types : List TypeUse,
    toKotlinList (toKotlinList types) = toKotlinList (withoutVarianceList types)
  | [] => rfl
  | first :: rest => by
    simp only [toKotlinList, withoutVarianceList, toKotlin_toKotlin_eq first,
      toKotlinList_toKotlinList_eq rest]

end

mutual

/-- A conversion leaves no variance. -/
theorem withoutVariance_toKotlin : ∀ type : TypeUse,
    type.toKotlin.withoutVariance = type.toKotlin
  | classRef head arguments => by
    rw [toKotlin]
    split
    · rfl
    · rw [renamedToKotlin, withoutVariance, withoutVarianceList_toKotlinList arguments]
  | projected _ inner => withoutVariance_toKotlin inner
  | nullable _ | nonNull _ | aliased .. | parameter _ | primitive _ | javaObject _ | void | star
  | dynamic | unresolved _ => rfl

theorem withoutVarianceList_toKotlinList : ∀ types : List TypeUse,
    withoutVarianceList (toKotlinList types) = toKotlinList types
  | [] => rfl
  | first :: rest => by
    rw [toKotlinList, withoutVarianceList, withoutVariance_toKotlin first,
      withoutVarianceList_toKotlinList rest]

end

/-- **A third conversion** changes nothing. -/
theorem toKotlin_toKotlin_toKotlin (type : TypeUse) :
    type.toKotlin.toKotlin.toKotlin = type.toKotlin.toKotlin := by
  rw [toKotlin_toKotlin_eq type.toKotlin, withoutVariance_toKotlin]

/-! ## One conversion -/

/-- **A hidden primitive** comes to light in the first conversion; in the second one the array
becomes the class of arrays of this primitive. -/
theorem exists_toKotlin_of_hidesPrimitive {head : ClassHead} {arguments : List TypeUse}
    (hides : hidesPrimitive head arguments = true) :
    ∃ name element, Primitive.ofJavaName? name = some element ∧
      (classRef head arguments).toKotlin = renamedToKotlin head [primitive name] ∧
      (classRef head arguments).toKotlin.toKotlin = arrayToKotlin head element := by
  simp only [hidesPrimitive, Bool.and_eq_true, Option.isNone_iff_eq_none,
    Option.isSome_iff_exists] at hides
  obtain ⟨written, element, hidden⟩ := hides
  obtain ⟨-, name, converted, java⟩ :=
    primitiveArray?_eq_some ((primitiveArray?_toKotlinList head arguments).trans hidden)
  refine ⟨name, element, java, ?_, ?_⟩
  · rw [toKotlin, written, converted]
  · rw [toKotlin_toKotlin_eq, withoutVariance, toKotlin, hidden]

mutual

/-- **Variance makes no difference to the conversion** of types with no hidden primitive, and to
no others. -/
theorem toKotlin_withoutVariance_iff : ∀ type : TypeUse,
    type.withoutVariance.toKotlin = type.toKotlin ↔ type.isConvertedAtOnce = true
  | classRef head arguments => by
    rw [isConvertedAtOnce]
    cases hides : hidesPrimitive head arguments with
    | true =>
      obtain ⟨name, element, -, once, twice⟩ := exists_toKotlin_of_hidesPrimitive hides
      rw [← toKotlin_toKotlin_eq, twice, once]
      simp [arrayToKotlin, renamedToKotlin]
    | false =>
      have arguments' := toKotlinList_withoutVarianceList_iff arguments
      rw [Bool.not_false, Bool.true_and, ← arguments', withoutVariance, toKotlin, toKotlin]
      cases written : primitiveArray? head arguments with
      | some element =>
        simp only [withoutVarianceList_of_primitiveArray written, written]
      | none =>
        have none : primitiveArray? head (withoutVarianceList arguments) = none := by
          simpa [hidesPrimitive, written] using hides
        rw [none]
        simp [renamedToKotlin]
  | projected _ inner => toKotlin_withoutVariance_iff inner
  | nullable _ | nonNull _ | aliased .. | parameter _ | primitive _ | javaObject _ | void | star
  | dynamic | unresolved _ => ⟨fun _ => rfl, fun _ => rfl⟩

/-- Variance makes no difference to the conversion of lists of types with no hidden primitive, and
to no others. -/
theorem toKotlinList_withoutVarianceList_iff : ∀ types : List TypeUse,
    toKotlinList (withoutVarianceList types) = toKotlinList types ↔
      isConvertedAtOnceList types = true
  | [] => ⟨fun _ => rfl, fun _ => rfl⟩
  | first :: rest => by
    rw [withoutVarianceList, toKotlinList, toKotlinList, List.cons.injEq, isConvertedAtOnceList,
      Bool.and_eq_true, toKotlin_withoutVariance_iff first,
      toKotlinList_withoutVarianceList_iff rest]

end

end TypeUse

/-! ## Repeated conversion -/

/-- **What a second conversion changes.**

* It changes nothing exactly if no array that is reached hides its Java primitive under variance.
* In any case two conversions come to what one comes to without variance, and a third one changes
  nothing.
* An array that hides its primitive becomes an array of this primitive, and then the class of such
  arrays.
* Over whatever memo, one conversion and then another come to these forms. -/
theorem converted_repeatedly (type : TypeUse) :
    (type.toKotlin.toKotlin = type.toKotlin ↔ type.isConvertedAtOnce = true) ∧
    type.toKotlin.toKotlin = type.withoutVariance.toKotlin ∧
    type.toKotlin.toKotlin.toKotlin = type.toKotlin.toKotlin ∧
    (∀ head arguments, type = .classRef head arguments →
      TypeUse.hidesPrimitive head arguments = true →
        ∃ name element, Primitive.ofJavaName? name = some element ∧
          type.toKotlin = TypeUse.renamedToKotlin head [.primitive name] ∧
          type.toKotlin.toKotlin = TypeUse.arrayToKotlin head element) ∧
    ∀ memo : Memo, memo.Exact →
      ∃ memo' : Memo, (Program.convert type).run memo = (.ok type.converted, memo') ∧
        ((Program.convert type.toKotlin).run memo').1 = .ok type.toKotlin.converted := by
  refine ⟨?_, type.toKotlin_toKotlin_eq, type.toKotlin_toKotlin_toKotlin, ?_, ?_⟩
  · rw [type.toKotlin_toKotlin_eq, type.toKotlin_withoutVariance_iff]
  · rintro head arguments rfl hides
    exact TypeUse.exists_toKotlin_of_hidesPrimitive hides
  · intro memo exact
    exact ⟨_, Prod.ext (convert_run type exact) rfl,
      convert_run type.toKotlin (exact_convert_run type exact)⟩

/-- The Kotlin class of arrays. -/
def arrayHead : ClassHead := ⟨.ofClass "kotlin" "Array", none, ∅, .generic⟩

/-- An array of `out int`. -/
def outInts : TypeUse := .classRef arrayHead [.projected .covariant (.primitive "int")]

/-- `Array<out int>` is converted to `Array<int>`, and this to `IntArray`. -/
theorem converted_repeatedly_outInts :
    TypeUse.hidesPrimitive arrayHead [.projected .covariant (.primitive "int")] = true ∧
      outInts.toKotlin = .classRef arrayHead [.primitive "int"] ∧
      outInts.toKotlin.toKotlin = TypeUse.arrayToKotlin arrayHead .int ∧
      outInts.toKotlin.toKotlin ≠ outInts.toKotlin ∧
      outInts.toKotlin.toKotlin.toKotlin = outInts.toKotlin.toKotlin ∧
      Memo.empty.Exact ∧
      ∃ memo : Memo, (Program.convert outInts).run .empty = (.ok outInts.converted, memo) ∧
        ((Program.convert outInts.toKotlin).run memo).1 = .ok outInts.toKotlin.converted := by
  obtain ⟨changed, -, thrice, hidden, recalled⟩ := converted_repeatedly outInts
  have hides : TypeUse.hidesPrimitive arrayHead
      [.projected .covariant (.primitive "int")] = true := by decide
  obtain ⟨name, element, java, once, twice⟩ := hidden _ _ rfl hides
  have written : outInts.toKotlin = .classRef arrayHead [.primitive "int"] := by decide
  cases written.symm.trans once
  cases (show Primitive.ofJavaName? "int" = some .int by decide).symm.trans java
  refine ⟨hides, written, twice, ?_, thrice, .empty, recalled .empty .empty⟩
  rw [Ne, changed]
  decide

end Diglot
