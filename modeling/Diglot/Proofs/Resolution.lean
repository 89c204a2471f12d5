import Diglot.Proofs.Core

/-!
# Both languages resolve the same nullability

What a reader should assume about null is settled by the core of a type, by the nullable
wrappers around it and by what the surroundings impose: `TypeRequest.resolved`. Kotlin always
comes to it (`nullability_kotlin`). Java comes to it (`nullability_java`) unless the core is a
class for which Java has more than a class: a primitive, `void` or an array.
-/

namespace Diglot

namespace Nullability

/-- What is merged already makes no difference. -/
theorem or_or_self (n : Nullability) (other : Option Nullability) :
    n.or (some (n.or other)) = n.or other := by
  cases other with
  | none => cases n <;> rfl
  | some other => cases n <;> cases other <;> rfl

/-- What cannot be null is not decided otherwise by its surroundings. -/
theorem unimportant_or (other : Option Nullability) : unimportant.or other = unimportant := by
  cases other with
  | none => rfl
  | some other => cases other <;> rfl

end Nullability

namespace TypeRequest

/-- The nullability that the core of the requested type, its wrappers and its surroundings
come to. -/
def resolved (request : TypeRequest) : Nullability :=
  (request.type.core.nullability .kotlin (some request.fromJava) request.carried).or
    (if request.type.isNullable then some (Nullability.kotlinNullable.or request.imposed)
    else request.imposed)

variable (request : TypeRequest)

/-- The resolved nullability depends on the wrappers and on the nullability of the core only. -/
theorem resolved_congr {form : TypeUse} (wrapped : form.isNullable = request.type.isNullable)
    (core : form.core.nullability .kotlin (some request.fromJava) request.carried =
      request.type.core.nullability .kotlin (some request.fromJava) request.carried) :
    { request with type := form }.resolved = request.resolved := by
  simp only [resolved, wrapped, core]

/-- A nullable wrapper imposes what it says. -/
theorem resolved_forNullable (inner : TypeUse) :
    (request.forNullable inner).resolved =
      { request with type := .nullable inner }.resolved := by
  by_cases nested : inner.isNullable = true <;>
    simp [resolved, forNullable, TypeUse.core, TypeUse.isNullable, nested, Nullability.or_or_self]

theorem resolved_forProjected (variance : Variance) (inner : TypeUse) :
    (request.forProjected inner).resolved =
      { request with type := .projected variance inner }.resolved := rfl

theorem resolved_forAliased (named inner : TypeUse) :
    (request.forAliased inner).resolved =
      { request with type := .aliased named inner }.resolved := rfl

/-- What is no wrapper is its own core. -/
theorem resolved_of_not_isWrapper {form : TypeUse} (leaf : form.isWrapper = false) :
    { request with type := form }.resolved = request.nullability .kotlin form := by
  simp only [resolved, TypeUse.core_of_not_isWrapper leaf,
    TypeUse.isNullable_of_not_isWrapper leaf, nullability]
  rfl

/-- Where the core is `void`, nullability does not matter. -/
theorem resolved_of_core_eq_void (void : request.type.core = .void) :
    request.resolved = .unimportant := by
  have own : TypeUse.nullability .kotlin (some request.fromJava) request.carried .void =
      .unimportant := rfl
  rw [resolved, void, own, Nullability.unimportant_or]

/-- The form `void` has no nullability, whatever is requested. -/
theorem nullability_void (dialect : Dialect) : request.nullability dialect .void = .unimportant :=
  Nullability.unimportant_or _

end TypeRequest

/-- **Types show the resolved nullability** if forms resolve as the types do that they are
written for, and the language sees at their core what Kotlin sees. `Plain` says for which cores
this is so. -/
theorem nullability_eq_resolved {context : Context} (Plain : TypeUse → Prop)
    (rewritten : ∀ {request : TypeRequest} {form : TypeUse},
      context.writtenForm request = .ok form → Plain request.type.core →
        Plain form.core ∧ { request with type := form }.resolved = request.resolved ∧
          ∀ fromJava carried, form.core.nullability context.dialect fromJava carried =
            form.core.nullability .kotlin fromJava carried)
    {request : TypeRequest} {shown : ShownType} (plain : Plain request.type.core)
    (found : typeOf context request = .ok shown) : shown.nullability = request.resolved := by
  have face : ∀ {request : TypeRequest} {form : TypeUse} {face : Face},
      face.Shows context request form → Plain request.type.core →
        face.nullability = request.resolved := by
    intro request form face shows plain
    obtain ⟨-, resolved, same⟩ := rewritten shows.written plain
    rw [TypeUse.core_of_not_isWrapper shows.leaf] at same
    rw [shows.nullability, TypeRequest.nullability, same, ← resolved,
      request.resolved_of_not_isWrapper shows.leaf]
    rfl
  refine typeOf_induct (motive := fun request shown =>
      Plain request.type.core → shown.nullability = request.resolved)
    ?_ ?_ ?_ ?_ ?_ ?_ found plain
  · intro request inner shown written below plain
    obtain ⟨plain', resolved, -⟩ := rewritten written plain
    rw [below plain', request.resolved_forNullable, resolved]
  · intro request variance inner shown written below plain
    obtain ⟨plain', resolved, -⟩ := rewritten written plain
    rw [below plain', request.resolved_forProjected variance, resolved]
  · intro request named inner shown written below plain
    obtain ⟨plain', resolved, -⟩ := rewritten written plain
    rw [below plain', request.resolved_forAliased named, resolved]
  · intro request form face' link arguments shows _ plain
    exact face shows plain
  · intro request form face' link mutable arguments shows _ _ plain
    exact face shows plain
  · intro request form face' parts isSuspend receiver parameters returnType shows _ _ _ _ plain
    exact face shows plain

/-! ## Kotlin -/

/-- The form that Kotlin writes resolves as the type does. -/
theorem TypeRequest.resolved_toKotlin (request : TypeRequest) :
    { request with type := request.type.toKotlin }.resolved = request.resolved :=
  request.resolved_congr request.type.isNullable_toKotlin
    (request.type.nullability_core_toKotlin _ _)

/-- **Kotlin comes to the resolved nullability.** -/
theorem nullability_kotlin {context : Context} (kotlin : context.dialect = .kotlin)
    {request : TypeRequest} {shown : ShownType} (found : typeOf context request = .ok shown) :
    shown.nullability = request.resolved := by
  refine nullability_eq_resolved (fun _ => True) ?_ trivial found
  intro request form written _
  rw [Context.writtenForm_kotlin kotlin] at written
  cases written
  exact ⟨trivial, request.resolved_toKotlin, fun _ _ => by rw [kotlin]⟩

/-! ## Java -/

/-- Whether this is a reference to a class for which Java has a primitive, `void` or an array. -/
def TypeUse.isSpecialInJava : TypeUse → Bool
  | classRef head _ => head.identity.isSpecialInJava
  | _ => false

namespace TypeUse

/-- A class for which Java has no primitive, `void` or array can be null under its Java name. -/
theorem canBeNull_renamedToJava {head : ClassHead} {arguments : List TypeUse}
    (plain : head.identity.isSpecialInJava = false) :
    (renamedToJava head arguments).canBeNull .java = true := by
  by_cases package : head.identity.toJava.package = "kotlin"
  · -- then the identity is as it was, and it is not `Nothing`
    rcases head.identity.toJava_eq_or_package_ne with same | moved
    · rw [same] at package
      have noNothing : head.identity.className ≠ "Nothing" := fun nothing =>
        head.identity.package_toJava_of_nothing package nothing (same.symm ▸ package)
      simp only [Identity.isSpecialInJava, package, decide_true, Bool.true_and,
        Bool.or_eq_false_iff, decide_eq_false_iff_not] at plain
      obtain ⟨⟨⟨noPrimitive, noUnit⟩, -⟩, -⟩ := plain
      simp [renamedToJava, canBeNull, same, noPrimitive, noUnit, noNothing]
    · exact absurd package moved
  · simp [renamedToJava, canBeNull, package]

/-- A class that can be null has the nullability that its annotations state. -/
theorem nullability_classRef {dialect : Dialect} {head : ClassHead} {arguments : List TypeUse}
    (mayBeNull : (classRef head arguments).canBeNull dialect = true) (fromJava : Option Bool)
    (carried : List Annotation) :
    (classRef head arguments).nullability dialect fromJava carried =
      (Nullability.ofAnnotations? (carried ++ head.annotations.leading)).getD
        (.sourceDefault fromJava) := by
  rw [nullability, if_pos mayBeNull]
  rfl

/-- **A core that Java writes in the same way** has the same nullability there: its Java form
has it in both languages, and is again such a core. -/
theorem toJava_of_not_isSpecialInJava {type form : TypeUse} {position : JavaPosition}
    (leaf : type.isWrapper = false) (plain : type.isSpecialInJava = false)
    (written : type.toJava position = .ok form) :
    form.isSpecialInJava = false ∧ ∀ fromJava carried,
      form.nullability .kotlin fromJava carried = type.nullability .kotlin fromJava carried ∧
        form.nullability .java fromJava carried = type.nullability .kotlin fromJava carried := by
  cases type with
  | classRef head arguments =>
    rw [toJava] at written
    obtain ⟨rewritten, -, written⟩ := bind_eq_ok.mp written
    rw [classToJava_of_not_isSpecialInJava plain] at written
    cases written
    have mayBeNull : (renamedToJava head rewritten).canBeNull .java = true :=
      canBeNull_renamedToJava plain
    have inKotlin : ∀ head arguments, (classRef head arguments).canBeNull .kotlin = true := by
      simp [canBeNull]
    refine ⟨Identity.isSpecialInJava_toJava plain, fun fromJava carried => ?_⟩
    rw [renamedToJava] at mayBeNull ⊢
    rw [nullability_classRef mayBeNull, nullability_classRef (inKotlin _ _),
      nullability_classRef (inKotlin _ _)]
    exact ⟨rfl, rfl⟩
  | nonNull inner =>
    rw [toJava] at written
    obtain ⟨inside, -, written⟩ := bind_eq_ok.mp written
    cases written
    exact ⟨rfl, fun fromJava carried => ⟨rfl, rfl⟩⟩
  | nullable | projected | aliased => cases leaf
  | parameter | primitive | javaObject | void | star | dynamic | unresolved =>
    cases written
    exact ⟨rfl, fun fromJava carried => ⟨rfl, rfl⟩⟩

end TypeUse

/-- **The form that Java writes resolves as the type does**, and at its core Java and Kotlin see
the same. -/
theorem TypeRequest.resolved_toJava {request : TypeRequest} {position : JavaPosition}
    {form : TypeUse} (plain : request.type.core.isSpecialInJava = false)
    (written : request.type.toJava position = .ok form) :
    form.core.isSpecialInJava = false ∧ { request with type := form }.resolved = request.resolved ∧
      ∀ fromJava carried, form.core.nullability .java fromJava carried =
        form.core.nullability .kotlin fromJava carried := by
  rcases request.type.core_toJava written with ⟨gone, void | unit⟩ | ⟨wrapped, position', core⟩
  · rw [gone]
    refine ⟨rfl, ?_, fun fromJava carried => rfl⟩
    rw [request.resolved_of_core_eq_void void, TypeRequest.resolved_of_core_eq_void _ gone]
  · -- `Unit` is special
    have special : request.type.core.isSpecialInJava = true := by
      cases eq : request.type.core <;> rw [eq] at unit <;> simp_all [TypeUse.isUnit,
        TypeUse.isSpecialInJava, Identity.isSpecialInJava, Identity.isClass]
    rw [plain] at special
    cases special
  · obtain ⟨plain', same⟩ :=
      TypeUse.toJava_of_not_isSpecialInJava request.type.isWrapper_core plain core
    refine ⟨plain', request.resolved_congr wrapped (same _ _).1, fun fromJava carried => ?_⟩
    rw [(same fromJava carried).1, (same fromJava carried).2]

/-- **Java comes to the resolved nullability**, unless the core is a class for which it has a
primitive, `void` or an array. -/
theorem nullability_java {context : Context} (java : context.dialect = .java)
    {request : TypeRequest} {shown : ShownType} (plain : request.type.core.isSpecialInJava = false)
    (found : typeOf context request = .ok shown) : shown.nullability = request.resolved := by
  refine nullability_eq_resolved (fun core => core.isSpecialInJava = false) ?_ plain found
  intro request form written plain
  rw [Context.writtenForm, java] at written
  rw [java]
  exact TypeRequest.resolved_toJava plain written

/-! ## Both -/

/-- **Both languages resolve the same nullability**: whenever they show the same request, with
whatever links, and its core is not a class for which Java has a primitive, `void` or an
array. -/
theorem nullability_agrees (config : Config) (javaLink kotlinLink : Identity → Link)
    (request : TypeRequest) (inJava inKotlin : ShownType)
    (plain : request.type.core.isSpecialInJava = false)
    (java : typeOf ⟨.java, config, javaLink⟩ request = .ok inJava)
    (kotlin : typeOf ⟨.kotlin, config, kotlinLink⟩ request = .ok inKotlin) :
    inJava.nullability = inKotlin.nullability := by
  rw [nullability_java rfl plain java, nullability_kotlin rfl kotlin]

/-- A list of Java sources under variance and an alias, annotated as nullable. -/
def annotatedList : TypeRequest where
  type := .projected .covariant <| .aliased (.unresolved "Names") <|
    .classRef
      { identity := .ofClass "kotlin.collections" "MutableList",
        annotations := .insert ∅ "jvmMain" [.ofClass "androidx.annotation" "Nullable"] }
      [.classRef { identity := .ofClass "kotlin" "String" } []]
  fromJava := true
  sourceSet := ⟨.jvm, "jvmMain"⟩
  imposed := some .unannotated

/-- Java and Kotlin show `annotatedList` with one nullability. -/
theorem nullability_agrees_annotatedList :
    annotatedList.type.core.isSpecialInJava = false ∧
      ∃ inJava inKotlin,
        typeOf ⟨.java, {}, Link.reference "reference" .java⟩ annotatedList = .ok inJava ∧
          typeOf ⟨.kotlin, {}, Link.reference "reference" .kotlin⟩ annotatedList = .ok inKotlin ∧
            inJava.nullability = inKotlin.nullability := by
  have plain : annotatedList.type.core.isSpecialInJava = false := by decide
  obtain ⟨inJava, java⟩ := exists_of_isOk
    (typeOf ⟨.java, {}, Link.reference "reference" .java⟩ annotatedList) (by decide +kernel)
  obtain ⟨inKotlin, kotlin⟩ := exists_of_isOk
    (typeOf ⟨.kotlin, {}, Link.reference "reference" .kotlin⟩ annotatedList) (by decide +kernel)
  exact ⟨plain, inJava, inKotlin, java, kotlin,
    nullability_agrees {} _ _ annotatedList inJava inKotlin plain java kotlin⟩

end Diglot
