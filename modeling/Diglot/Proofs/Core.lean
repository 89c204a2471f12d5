import Diglot.Proofs.JavaClasses
import Diglot.Proofs.Showing

/-!
# The core of a type

Wrappers for nullability, variance and aliases stand around the core of a type
(`TypeUse.core`), and some wrapper may make it nullable (`TypeUse.isNullable`). Both languages
rewrite a type before they look below its wrappers, and each in its own way. Of the core
they leave what counts:

* `nullability_core_toKotlin` — in Kotlin the core has the nullability that it had;
* `core_toJava` — in Java the wrappers stay around the Java form of the core, or they go
  together with a core that is `void`;
* `annotationsAt_core_writtenForm` — neither form of the core has an annotation of its own.
-/

namespace Diglot

namespace TypeUse

/-- The type below all wrappers for nullability, variance and aliases. -/
def core : TypeUse → TypeUse
  | nullable inner => inner.core
  | projected _ inner => inner.core
  | aliased _ inner => inner.core
  | other => other

/-- Whether one of the wrappers around the core makes the type nullable. -/
def isNullable : TypeUse → Bool
  | nullable _ => true
  | projected _ inner => inner.isNullable
  | aliased _ inner => inner.isNullable
  | _ => false

theorem core_of_not_isWrapper {type : TypeUse} (leaf : type.isWrapper = false) :
    type.core = type := by
  cases type <;> first | rfl | cases leaf

theorem isNullable_of_not_isWrapper {type : TypeUse} (leaf : type.isWrapper = false) :
    type.isNullable = false := by
  cases type <;> first | rfl | cases leaf

/-- The core is no wrapper. -/
theorem isWrapper_core : ∀ type : TypeUse, type.core.isWrapper = false
  | nullable inner => isWrapper_core inner
  | projected _ inner => isWrapper_core inner
  | aliased _ inner => isWrapper_core inner
  | classRef .. | parameter _ | primitive _ | javaObject _ | void | star | dynamic
  | unresolved _ | nonNull _ => rfl

/-! ## In Kotlin -/

/-- A form that is no wrapper has the nullability of its type: it keeps the annotations. -/
theorem nullability_toKotlin {type : TypeUse} (leaf : type.isWrapper = false)
    (fromJava : Option Bool) (carried : List Annotation) :
    type.toKotlin.nullability .kotlin fromJava carried =
      type.nullability .kotlin fromJava carried := by
  cases type with
  | classRef head arguments =>
    rw [toKotlin]
    split <;> simp [arrayToKotlin, renamedToKotlin, nullability, canBeNull, statedNullability,
      leadingAnnotations]
  | nullable | projected | aliased => cases leaf
  | parameter | primitive | javaObject | void | star | dynamic | unresolved | nonNull => rfl

/-- In Kotlin wrappers stay as they are, or the core is converted. -/
theorem core_toKotlin : ∀ type : TypeUse,
    type.toKotlin.core = type.core ∨ type.toKotlin.core = type.core.toKotlin
  | projected _ inner => core_toKotlin inner
  | classRef head arguments => by
    refine Or.inr (core_of_not_isWrapper ?_)
    rw [toKotlin]
    split <;> rfl
  | nullable _ | aliased .. | parameter _ | primitive _ | javaObject _ | void | star | dynamic
  | unresolved _ | nonNull _ => Or.inl rfl

/-- **Kotlin leaves the core its nullability.** -/
theorem nullability_core_toKotlin (type : TypeUse) (fromJava : Option Bool)
    (carried : List Annotation) :
    type.toKotlin.core.nullability .kotlin fromJava carried =
      type.core.nullability .kotlin fromJava carried := by
  rcases type.core_toKotlin with same | converted
  · rw [same]
  · rw [converted, nullability_toKotlin type.isWrapper_core]

/-- The Kotlin form has the annotations that the core of the type has. -/
theorem annotationsAt_core_toKotlin (type : TypeUse) (sourceSet : String) :
    type.toKotlin.core.annotationsAt sourceSet = type.core.annotationsAt sourceSet := by
  rcases type.core_toKotlin with same | converted
  · rw [same]
  · rw [converted]
    have leaf := type.isWrapper_core
    cases core : type.core with
    | classRef head arguments =>
      rw [toKotlin]
      split <;> rfl
    | nullable | projected | aliased =>
      rw [core] at leaf
      cases leaf
    | parameter | primitive | javaObject | void | star | dynamic | unresolved | nonNull => rfl

/-- Kotlin leaves nullable what is nullable. -/
theorem isNullable_toKotlin : ∀ type : TypeUse, type.toKotlin.isNullable = type.isNullable
  | projected _ inner => isNullable_toKotlin inner
  | classRef head arguments => by
    rw [toKotlin]
    split <;> rfl
  | nullable _ | aliased .. | parameter _ | primitive _ | javaObject _ | void | star | dynamic
  | unresolved _ | nonNull _ => rfl

/-! ## In Java -/

/-- What Java has for a class: `void` for `Unit`, a primitive or an array, or else a class
with the same annotations. -/
theorem classToJava_cases {position : JavaPosition} {head : ClassHead}
    {arguments rewritten : List TypeUse} {form : TypeUse}
    (written : classToJava position head arguments rewritten = .ok form) :
    (form = void ∧ head.identity.isClass "kotlin" "Unit" = true) ∨
      (∃ name, form = primitive name) ∨
        ∃ identity arguments', form = classRef { head with identity } arguments' := by
  cases ClassToJava.of_classToJava written with
  | void _ unit => exact Or.inl ⟨rfl, unit⟩
  | boxed | renamed => exact Or.inr (Or.inr ⟨_, _, rfl⟩)
  | unboxed | primitiveArray | array => exact Or.inr (Or.inl ⟨_, rfl⟩)

/-- What is no wrapper does not become one, and only `Unit` becomes `void`. -/
theorem toJava_of_not_isWrapper {type form : TypeUse} {position : JavaPosition}
    (leaf : type.isWrapper = false) (written : type.toJava position = .ok form) :
    form.isWrapper = false ∧ (form = void → type = void ∨ type.isUnit = true) := by
  cases type with
  | classRef head arguments =>
    rw [toJava] at written
    obtain ⟨rewritten, -, written⟩ := bind_eq_ok.mp written
    rcases classToJava_cases written with ⟨rfl, unit⟩ | ⟨name, rfl⟩ | ⟨identity, arguments', rfl⟩
    · exact ⟨rfl, fun _ => Or.inr unit⟩
    · exact ⟨rfl, by rintro ⟨⟩⟩
    · exact ⟨rfl, by rintro ⟨⟩⟩
  | nonNull inner =>
    rw [toJava] at written
    obtain ⟨inside, -, written⟩ := bind_eq_ok.mp written
    cases written
    exact ⟨rfl, by rintro ⟨⟩⟩
  | nullable | projected | aliased => cases leaf
  | parameter | primitive | javaObject | void | star | dynamic | unresolved =>
    cases written
    exact ⟨rfl, Or.inl⟩

/-- **Java keeps the wrappers** around the Java form of the core, or they go together with a
core that is `void`. -/
theorem core_toJava : ∀ (type : TypeUse) {position : JavaPosition} {form : TypeUse},
    type.toJava position = .ok form →
      (form.core = void ∧ (type.core = void ∨ type.core.isUnit = true)) ∨
        (form.isNullable = type.isNullable ∧
          ∃ position', type.core.toJava position' = .ok form.core)
  | nullable inner, position, form, written => by
    rw [toJava] at written
    split at written
    · rename_i unit
      cases written
      cases inner <;> first | exact Or.inl ⟨rfl, Or.inr unit⟩ | cases unit
    · obtain ⟨inside, insideWritten, written⟩ := bind_eq_ok.mp written
      have below := core_toJava inner insideWritten
      split at written
      · cases written
        refine Or.inl ⟨rfl, ?_⟩
        rcases below with ⟨-, core⟩ | ⟨-, position', core⟩
        · exact core
        · exact (toJava_of_not_isWrapper inner.isWrapper_core core).2 rfl
      · cases written
        rcases below with gone | ⟨-, kept⟩
        · exact Or.inl gone
        · exact Or.inr ⟨rfl, kept⟩
  | projected variance inner, position, form, written => by
    rw [toJava] at written
    obtain ⟨inside, insideWritten, written⟩ := bind_eq_ok.mp written
    cases written
    have below := core_toJava inner insideWritten
    exact below
  | aliased named inner, position, form, written => by
    rw [toJava] at written
    obtain ⟨inside, insideWritten, written⟩ := bind_eq_ok.mp written
    cases written
    have below := core_toJava inner insideWritten
    exact below
  | classRef head arguments, position, form, written => by
    have leaf := (toJava_of_not_isWrapper rfl written).1
    refine Or.inr ⟨isNullable_of_not_isWrapper leaf, position, ?_⟩
    rw [core_of_not_isWrapper leaf]
    exact written
  | nonNull inner, position, form, written => by
    have leaf := (toJava_of_not_isWrapper rfl written).1
    refine Or.inr ⟨isNullable_of_not_isWrapper leaf, position, ?_⟩
    rw [core_of_not_isWrapper leaf]
    exact written
  | parameter _, position, _, written | primitive _, position, _, written
  | javaObject _, position, _, written | void, position, _, written | star, position, _, written
  | dynamic, position, _, written | unresolved _, position, _, written => by
    cases written
    exact Or.inr ⟨rfl, position, rfl⟩

/-- Java forms of what is no wrapper have its annotations, or none. -/
theorem annotationsAt_toJava : ∀ (type : TypeUse) {position : JavaPosition} {form : TypeUse},
    type.toJava position = .ok form → ∀ sourceSet,
      (form.annotationsAt sourceSet).Sublist (type.annotationsAt sourceSet)
  | classRef head arguments, position, form, written, sourceSet => by
    rw [toJava] at written
    obtain ⟨rewritten, -, written⟩ := bind_eq_ok.mp written
    rcases classToJava_cases written with ⟨rfl, -⟩ | ⟨name, rfl⟩ | ⟨identity, arguments', rfl⟩
    · exact List.nil_sublist _
    · exact List.nil_sublist _
    · exact List.Sublist.refl _
  | nullable inner, position, form, written, sourceSet => by
    rw [toJava] at written
    split at written
    · cases written
      exact List.nil_sublist _
    · obtain ⟨inside, insideWritten, written⟩ := bind_eq_ok.mp written
      have below := annotationsAt_toJava inner insideWritten sourceSet
      split at written <;> cases written
      · exact List.nil_sublist _
      · exact below
  | nonNull inner, position, form, written, sourceSet => by
    rw [toJava] at written
    obtain ⟨inside, insideWritten, written⟩ := bind_eq_ok.mp written
    cases written
    exact (annotationsAt_toJava inner insideWritten sourceSet).filter _
  | aliased named inner, position, form, written, sourceSet => by
    rw [toJava] at written
    obtain ⟨inside, insideWritten, written⟩ := bind_eq_ok.mp written
    cases written
    have below := annotationsAt_toJava inner insideWritten sourceSet
    exact below
  | projected variance inner, position, form, written, sourceSet => by
    rw [toJava] at written
    obtain ⟨inside, -, written⟩ := bind_eq_ok.mp written
    cases written
    exact List.nil_sublist _
  | parameter _, _, _, written, _ | primitive _, _, _, written, _ | javaObject _, _, _, written, _
  | void, _, _, written, _ | star, _, _, written, _ | dynamic, _, _, written, _
  | unresolved _, _, _, written, _ => by
    cases written
    exact List.Sublist.refl _

/-- **Java adds no annotation** to the core. -/
theorem annotationsAt_core_toJava {type form : TypeUse} {position : JavaPosition}
    (written : type.toJava position = .ok form) (sourceSet : String) :
    (form.core.annotationsAt sourceSet).Sublist (type.core.annotationsAt sourceSet) := by
  rcases core_toJava type written with ⟨gone, -⟩ | ⟨-, position', core⟩
  · rw [gone]
    exact List.nil_sublist _
  · exact annotationsAt_toJava _ core sourceSet

/-- A type has the annotations of its core, unless variance keeps them from it. -/
theorem annotationsAt_sublist_core (sourceSet : String) : ∀ type : TypeUse,
    (type.annotationsAt sourceSet).Sublist (type.core.annotationsAt sourceSet)
  | nullable inner => annotationsAt_sublist_core sourceSet inner
  | aliased _ inner => annotationsAt_sublist_core sourceSet inner
  | projected _ _ => List.nil_sublist _
  | classRef .. | parameter _ | primitive _ | javaObject _ | void | star | dynamic
  | unresolved _ | nonNull _ => List.Sublist.refl _

end TypeUse

/-- Every written form has at its core only annotations that the type has there. -/
theorem Context.annotationsAt_core_writtenForm {context : Context} {request : TypeRequest}
    {form : TypeUse} (written : context.writtenForm request = .ok form) (sourceSet : String) :
    form.core.annotationsAt sourceSet ⊆ request.type.core.annotationsAt sourceSet := by
  unfold writtenForm at written
  split at written
  · cases written
    exact (request.type.annotationsAt_core_toKotlin sourceSet).symm ▸ List.Subset.refl _
  · exact (TypeUse.annotationsAt_core_toJava written sourceSet).subset

end Diglot
