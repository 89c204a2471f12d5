import Diglot.Proofs.Conversion
import Diglot.Proofs.Everywhere

/-!
# From Kotlin to Java and back

Where there can be no primitive and nothing is returned, Java writes a class as a class. If the
class is under its Kotlin name, and Java has a class of its own for it, then the conversion to
Kotlin undoes what Java does, at every node of a tree of such classes. The two work differently:
Java leaves the arguments of a boxed primitive as they are, and the conversion goes through them
all the same.

* `Identity.leadsBack` — the classes that have a Java name which leads back to them.
* `Identity.toKotlin_toJava` — it does.
* `TypeUse.toKotlin_eq_self` — trees of them are under their Kotlin names.
* `round_trip` — their Java forms are converted back to them.
-/

namespace Diglot

/-! ## Names -/

namespace Identity

/-- Whether Java has no class of its own for a Kotlin class: arrays are no classes there, and
neither `Nothing` nor a mutable collection is told from some other class. -/
def isLostInJava (identity : Identity) : Bool :=
  (identity.package = "kotlin" &&
    (identity.className = "Array" || identity.className = "Nothing" ||
      (Primitive.ofArrayName? identity.className).isSome)) ||
    (identity.package = collectionsPackage &&
      mappedCollections.any fun c => c.mutableName = identity.className)

/-- Whether a class is under its Kotlin name and has a Java name of its own. The box of a primitive
is written without a member. -/
def leadsBack (identity : Identity) : Bool :=
  identity.toKotlin = identity && !identity.isLostInJava &&
    (!identity.isPrimitive || identity.callable.isNone)

/-- What is the Java name of a mapped class has its Kotlin name. -/
theorem toKotlin_eq_renamed {identity : Identity} {name : String} {m : MappedClass}
    (named : identity.classNames = some name)
    (mapped : mappedBothWays.find? (fun m => m.java = (identity.package, name)) = some m) :
    identity.toKotlin = identity.renamed m.kotlin := by
  simp only [toKotlin, named, mapped]

/-- **The Java name of a class that leads back is converted to the class.** -/
theorem toKotlin_toJava {identity : Identity} (leads : identity.leadsBack = true) :
    identity.toJava.toKotlin = identity := by
  have back : ∀ m ∈ mappedBothWays, (mappedBothWays.find? fun other =>
      other.java = m.java).map MappedClass.kotlin = some m.kotlin := by
    decide +kernel
  have oneWay : ∀ m ∈ mappedToJavaOnly,
      (ofClass m.kotlin.1 m.kotlin.2).isLostInJava = true := by
    decide
  simp only [leadsBack, Bool.and_eq_true, Bool.not_eq_true', decide_eq_true_eq] at leads
  obtain ⟨⟨same, kept⟩, -⟩ := leads
  cases named : identity.classNames with
  | none => simpa only [toJava, named] using same
  | some name =>
    cases found : (mappedBothWays ++ mappedToJavaOnly).find?
        fun m => m.kotlin = (identity.package, name) with
    | none => rwa [toJava_eq_self named found]
    | some m =>
      have kotlin : m.kotlin = (identity.package, name) := by simpa using List.find?_some found
      have renamed : identity.toJava = identity.renamed m.java := by
        simp only [toJava, named, found]
      rcases List.mem_append.mp (List.mem_of_find?_eq_some found) with mem | mem
      · obtain ⟨other, listed, eq⟩ := Option.map_eq_some_iff.mp (back m mem)
        have returned : (identity.renamed m.java).toKotlin =
            (identity.renamed m.java).renamed other.kotlin := toKotlin_eq_renamed rfl listed
        rw [renamed, returned, eq, kotlin]
        obtain ⟨package, classNames, callable⟩ := identity
        cases named
        rfl
      · have lost := oneWay m mem
        have alike : (ofClass identity.package name).isLostInJava = identity.isLostInJava := by
          obtain ⟨package, classNames, callable⟩ := identity
          cases named
          rfl
        rw [kotlin, alike, kept] at lost
        cases lost

/-- A primitive that leads back is a class of which only the name is known. -/
theorem eq_ofClass_of_leadsBack {identity : Identity} (leads : identity.leadsBack = true)
    (package : identity.package = "kotlin") {p : Primitive}
    (named : Primitive.ofKotlinName? identity.className = some p) :
    identity = ofClass "kotlin" p.kotlinName := by
  have noMember : identity.callable = none := by
    simp_all [leadsBack, isPrimitive]
  have name : p.kotlinName = identity.className := by
    simpa using List.find?_some named
  have unnamed : Primitive.ofKotlinName? "" = none := by decide
  obtain ⟨_, classNames, _⟩ := identity
  cases classNames with
  | none => cases unnamed.symm.trans named
  | some className =>
    cases package
    cases noMember
    exact congrArg (ofClass "kotlin") name.symm

/-- Classes that lead back stay classes where they are not returned, unless they are primitives. -/
theorem staysClass_of_leadsBack {identity : Identity} (leads : identity.leadsBack = true)
    (noPrimitive : identity.isPrimitive = false) : identity.staysClass false = true := by
  by_cases package : identity.package = "kotlin"
  · by_cases unit : identity.className = "Unit" <;>
      simp_all [leadsBack, isLostInJava, isPrimitive, staysClass, isSpecialInJava, isClass]
  · simp [staysClass, isSpecialInJava, package]

/-- The box of a primitive is converted to the Kotlin class of the primitive. -/
theorem toKotlin_box (p : Primitive) :
    (ofClass "java.lang" p.boxName).toKotlin = ofClass "kotlin" p.kotlinName := by
  cases p <;> decide +kernel

end Identity

/-! ## Trees -/

namespace TypeUse

/-- Whether this is a class that leads back from Java, or stands for itself in both languages. -/
def leadsBack : TypeUse → Bool
  | classRef head _ => head.identity.leadsBack
  | parameter _ | star | javaObject _ | unresolved _ => true
  | primitive _ | void | dynamic | nullable _ | nonNull _ | projected .. | aliased .. => false

/-- Only arrays are converted to something else than a class with its arguments. -/
theorem toKotlin_of_not_array {head : ClassHead} {arguments : List TypeUse}
    (noArray : head.identity.isClass "kotlin" "Array" = false) :
    (classRef head arguments).toKotlin = renamedToKotlin head (toKotlinList arguments) := by
  rw [toKotlin]
  cases found : primitiveArray? head arguments with
  | none => rfl
  | some element =>
    obtain ⟨array, -⟩ := primitiveArray?_eq_some found
    rw [noArray] at array
    cases array

/-- A class that leads back is no array. -/
theorem isClass_array_of_leadsBack {identity : Identity} (leads : identity.leadsBack = true) :
    identity.isClass "kotlin" "Array" = false := by
  cases array : identity.isClass "kotlin" "Array" with
  | false => rfl
  | true => simp_all [Identity.leadsBack, Identity.isLostInJava, Identity.isClass]

mutual

/-- **Trees of classes that lead back are under their Kotlin names.** -/
theorem toKotlin_eq_self : ∀ type : TypeUse, type.everywhere leadsBack = true →
    type.toKotlin = type
  | classRef head arguments, all => by
    obtain ⟨leads, given⟩ := everywhere_classRef_iff.mp all
    have same : head.identity.toKotlin = head.identity := by
      simp only [leadsBack, Identity.leadsBack, Bool.and_eq_true, decide_eq_true_eq] at leads
      exact leads.1.1
    rw [toKotlin_of_not_array (isClass_array_of_leadsBack leads), renamedToKotlin, same,
      toKotlinList_eq_self arguments given]
  | parameter _, _ | star, _ | javaObject _, _ | unresolved _, _ => rfl
  | primitive _, all | void, all | dynamic, all => nomatch all
  | nullable _, all | nonNull _, all | projected .., all | aliased .., all =>
    nomatch everywhere_self all

theorem toKotlinList_eq_self : ∀ types : List TypeUse,
    (∀ type ∈ types, type.everywhere leadsBack = true) → toKotlinList types = types
  | [], _ => rfl
  | first :: rest, all => by
    rw [toKotlinList, toKotlin_eq_self first (all first (List.mem_cons_self ..)),
      toKotlinList_eq_self rest fun type mem => all type (List.mem_cons_of_mem _ mem)]

end

/-- **What Java has for a class that leads back is converted back**, whether the arguments are
rewritten as those of a class are or left as those of a primitive are. -/
theorem exists_classToJava_toKotlin (position : JavaPosition) {head : ClassHead}
    {arguments rewritten : List TypeUse} (leads : head.identity.leadsBack = true)
    (own : toKotlinList arguments = arguments) (converted : toKotlinList rewritten = arguments) :
    ∃ form, classToJava position.boxed head arguments rewritten = .ok form ∧
      form.toKotlin = classRef head arguments := by
  have noArray := isClass_array_of_leadsBack leads
  by_cases isPrimitive : head.identity.isPrimitive = true
  · obtain ⟨package, p, named⟩ := Identity.exists_primitive isPrimitive
    have same := Identity.eq_ofClass_of_leadsBack leads package named
    refine ⟨classRef { head with identity := .ofClass "java.lang" p.boxName } arguments, ?_, ?_⟩
    · simp only [classToJava, package, named]
      rfl
    · rw [toKotlin_of_not_array rfl, renamedToKotlin, own]
      simp only [Identity.toKotlin_box, ← same]
  · have stays : head.identity.staysClass position.boxed.isReturn = true :=
      Identity.staysClass_of_leadsBack leads (Bool.not_eq_true _ ▸ isPrimitive)
    refine ⟨_, classToJava_of_staysClass stays, ?_⟩
    have noArray' : head.identity.toJava.isClass "kotlin" "Array" = false := by
      rcases head.identity.toJava_eq_or_package_ne with same | moved
      · rwa [same]
      · simp [Identity.isClass, moved]
    rw [renamedToJava, toKotlin_of_not_array noArray', renamedToKotlin, converted]
    simp only [Identity.toKotlin_toJava leads]

mutual

/-- **Trees of classes that lead back** have a Java form, and are what it is converted to. -/
theorem exists_toJava_toKotlin (position : JavaPosition) : ∀ type : TypeUse,
    type.everywhere leadsBack = true →
      ∃ form, type.toJava position.boxed = .ok form ∧ form.toKotlin = type
  | classRef head arguments, all => by
    obtain ⟨leads, given⟩ := everywhere_classRef_iff.mp all
    obtain ⟨rewritten, written, converted⟩ :=
      exists_toJavaList_toKotlinList position arguments given
    obtain ⟨form, found, back⟩ := exists_classToJava_toKotlin position leads
      (toKotlinList_eq_self arguments given) converted
    refine ⟨form, ?_, back⟩
    rw [toJava]
    exact bind_eq_ok.mpr ⟨rewritten, written, found⟩
  | parameter _, _ | star, _ | javaObject _, _ | unresolved _, _ => ⟨_, rfl, rfl⟩
  | primitive _, all | void, all | dynamic, all => nomatch all
  | nullable _, all | nonNull _, all | projected .., all | aliased .., all =>
    nomatch everywhere_self all

theorem exists_toJavaList_toKotlinList (position : JavaPosition) : ∀ types : List TypeUse,
    (∀ type ∈ types, type.everywhere leadsBack = true) →
      ∃ forms, toJavaList position.boxed types = .ok forms ∧ toKotlinList forms = types
  | [], _ => ⟨[], rfl, rfl⟩
  | first :: rest, all => by
    obtain ⟨form, written, back⟩ := exists_toJava_toKotlin position first
      (all first (List.mem_cons_self ..))
    obtain ⟨forms, others, backs⟩ := exists_toJavaList_toKotlinList position rest
      fun type mem => all type (List.mem_cons_of_mem _ mem)
    refine ⟨form :: forms, ?_, ?_⟩
    · rw [toJavaList, written, others]
      rfl
    · rw [toKotlinList, back, backs]

end

end TypeUse

/-- A conversion over an exact memo comes to the Kotlin form. -/
theorem convert_run (type : TypeUse) {memo : Memo} (exact : memo.Exact) :
    ((Program.convert type).run memo).1 = .ok type.converted := by
  have follows := (Account.follows .kotlin).toKotlin rfl type
  exact (Program.run_sound _ exact (follows {key | key ∈ memo.keys})).1

/-- A conversion over an exact memo leaves it exact. -/
theorem exact_convert_run (type : TypeUse) {memo : Memo} (exact : memo.Exact) :
    ((Program.convert type).run memo).2.Exact := by
  have follows := (Account.follows .kotlin).toKotlin rfl type
  exact (Program.run_sound _ exact (follows {key | key ∈ memo.keys})).2

/-- **Round trips.** Where there can be no primitive and nothing is returned, a tree of classes
that lead back has a Java form, and this is converted to the tree again, over whatever memo. No
other such tree has the same Java form. -/
theorem round_trip (qualified : Bool) (type : TypeUse)
    (leads : type.everywhere TypeUse.leadsBack = true) :
    (∃ form, type.toJava ⟨false, true, qualified⟩ = .ok form ∧ form.toKotlin = type ∧
      ∀ memo : Memo, memo.Exact →
        ((Program.convert form).run memo).1.map Subtype.val = .ok type) ∧
      ∀ other : TypeUse, other.everywhere TypeUse.leadsBack = true →
        other.toJava ⟨false, true, qualified⟩ = type.toJava ⟨false, true, qualified⟩ →
          other = type := by
  obtain ⟨form, written, back⟩ :=
    TypeUse.exists_toJava_toKotlin ⟨false, true, qualified⟩ type leads
  refine ⟨⟨form, written, back, fun memo exact => ?_⟩, fun other leads' same => ?_⟩
  · rw [convert_run form exact]
    exact congrArg Except.ok back
  · obtain ⟨form', written', back'⟩ :=
      TypeUse.exists_toJava_toKotlin ⟨false, true, qualified⟩ other leads'
    have forms : form' = form := Except.ok.inj (written'.symm.trans (same.trans written))
    rw [← back, ← back', forms]

/-- Suspending functions of an integer, by text. -/
def handlers : TypeUse :=
  .classRef ⟨.ofClass "kotlin.collections" "Map", none, ∅, .generic⟩
    [.classRef ⟨.ofClass "kotlin" "String", none, ∅, .generic⟩ [],
      .classRef ⟨.ofClass "kotlin" "Function1", none, ∅, .functional false true⟩
        [.classRef ⟨.ofClass "kotlin" "Int", none, ∅, .generic⟩ [],
          .classRef ⟨.ofClass "kotlin" "Unit", none, ∅, .generic⟩ []]]

/-- `handlers` are written in another way in Java, and come back. -/
theorem round_trip_handlers :
    handlers.everywhere TypeUse.leadsBack = true ∧
      ∃ form, handlers.toJava ⟨false, true, true⟩ = .ok form ∧ form ≠ handlers ∧
        form.toKotlin = handlers ∧
          ((Program.convert form).run .empty).1.map Subtype.val = .ok handlers := by
  have leads : handlers.everywhere TypeUse.leadsBack = true := by decide +kernel
  have moved : handlers.toJava ⟨false, true, true⟩ ≠ .ok handlers := by decide +kernel
  obtain ⟨⟨form, written, back, recalled⟩, -⟩ := round_trip true handlers leads
  refine ⟨leads, form, written, ?_, back, recalled .empty .empty⟩
  rintro rfl
  exact moved written

end Diglot
