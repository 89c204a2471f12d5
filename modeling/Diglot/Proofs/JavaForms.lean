import Diglot.Proofs.Resolution
import Diglot.TypeUse.Equality

/-!
# Types that are rewritten for Java more than once

Below a wrapper the renderer goes on with the form that Java writes, and rewrites it again.

* `TypeUse.isSettled` — types that stay as they are, but for type arguments and names of classes.
* `isSettled_of_toJava` — a form with a class, a type parameter or `java.lang.Object` at its core
  is settled, and has there the annotations that the type has.
* `toJava_of_isSettled` — a settled type keeps its wrappers and what stands at its core.
-/

namespace Diglot

namespace TypeUse

variable {position : JavaPosition}

/-- **What may be null is rewritten inside**, and `void` stays `void`. `Unit` is treated in its
own way. -/
theorem toJava_nullable {inner : TypeUse} (noUnit : inner.isUnit = false) :
    (nullable inner).toJava position = (inner.toJava position.boxed).map fun form =>
      if form = void then void else nullable form := by
  rw [toJava, noUnit]
  cases inner.toJava position.boxed with
  | error e => rfl
  | ok form => cases form <;> rfl

/-- Nullability does not show in the name that a form has as an element of an array. -/
theorem javaElementName_nullable (form : TypeUse) (qualified : Bool) :
    (if form = void then void else nullable form).javaElementName qualified =
      form.javaElementName qualified := by
  split
  · rename_i gone
    rw [gone]
  · rfl

/-! ## Settled types -/

/-- Whether a type can carry annotations of its own. -/
def isAnnotatable : TypeUse → Bool
  | classRef .. | parameter _ | javaObject _ => true
  | _ => false

/-- **Types that stay as they are**: what stands below all wrappers remains a class, a type
parameter or `java.lang.Object`. -/
def isSettled (isReturn : Bool) : TypeUse → Bool
  | classRef head _ => head.identity.staysClass isReturn
  | parameter _ | javaObject _ => true
  | nullable inner => !inner.isUnit && inner.isSettled false
  | projected _ inner => inner.isSettled false
  | aliased _ inner => inner.isSettled isReturn
  | _ => false

/-- Only `Unit` is written as `Unit`. -/
theorem isUnit_of_toJava {type form : TypeUse} (written : type.toJava position = .ok form)
    (unit : form.isUnit = true) : type.isUnit = true := by
  cases type with
  | classRef head arguments =>
    rw [toJava] at written
    obtain ⟨rewritten, -, written⟩ := bind_eq_ok.mp written
    cases ClassToJava.of_classToJava written with
    | void | unboxed | primitiveArray | array => cases unit
    | boxed => simp [isUnit, Identity.isClass, Identity.ofClass] at unit
    | renamed stays =>
      rcases head.identity.toJava_eq_or_package_ne with same | moved
      · rwa [renamedToJava, same] at unit
      · simp [renamedToJava, isUnit, Identity.isClass, moved] at unit
  | nullable inner =>
    rw [toJava] at written
    split at written
    · cases written
      cases unit
    · obtain ⟨inside, -, written⟩ := bind_eq_ok.mp written
      split at written <;> cases written <;> cases unit
  | projected | aliased | nonNull =>
    rw [toJava] at written
    obtain ⟨inside, -, written⟩ := bind_eq_ok.mp written
    cases written
    cases unit
  | parameter | primitive | javaObject | void | star | dynamic | unresolved =>
    cases written
    cases unit

/-- **Forms are settled**, if something that can be annotated stands at their core, and it has
the annotations that stand at the core of the type. -/
theorem isSettled_of_toJava (sourceSet : String) :
    ∀ (type : TypeUse) {position : JavaPosition} {form : TypeUse},
      type.toJava position = .ok form → form.core.isAnnotatable = true →
        form.isSettled position.isReturn = true ∧
          form.core.annotationsAt sourceSet = type.core.annotationsAt sourceSet
  | classRef head arguments, position, form, written, annotatable => by
    rw [toJava] at written
    obtain ⟨rewritten, -, written⟩ := bind_eq_ok.mp written
    cases ClassToJava.of_classToJava written with
    | void | unboxed | primitiveArray | array => cases annotatable
    | boxed => exact ⟨rfl, rfl⟩
    | renamed stays => exact ⟨Identity.staysClass_toJava stays, rfl⟩
  | nullable inner, position, form, written, annotatable => by
    rw [toJava] at written
    split at written
    · cases written
      cases annotatable
    · rename_i noUnit
      obtain ⟨inside, insideWritten, written⟩ := bind_eq_ok.mp written
      split at written <;> cases written
      · cases annotatable
      · obtain ⟨settled, same⟩ := isSettled_of_toJava sourceSet inner insideWritten annotatable
        have noUnit' : inside.isUnit = false := by
          cases unit : inside.isUnit with
          | false => rfl
          | true => exact absurd (isUnit_of_toJava insideWritten unit) noUnit
        refine ⟨?_, same⟩
        rw [isSettled, noUnit']
        exact settled
  | projected variance inner, position, form, written, annotatable => by
    rw [toJava] at written
    obtain ⟨inside, insideWritten, written⟩ := bind_eq_ok.mp written
    cases written
    have below := isSettled_of_toJava sourceSet inner insideWritten annotatable
    exact below
  | aliased named inner, position, form, written, annotatable => by
    rw [toJava] at written
    obtain ⟨inside, insideWritten, written⟩ := bind_eq_ok.mp written
    cases written
    have below := isSettled_of_toJava sourceSet inner insideWritten annotatable
    exact below
  | nonNull inner, position, form, written, annotatable => by
    rw [toJava] at written
    obtain ⟨inside, -, written⟩ := bind_eq_ok.mp written
    cases written
    cases annotatable
  | parameter _, _, _, written, _ | javaObject _, _, _, written, _ => by
    cases written
    exact ⟨rfl, rfl⟩
  | primitive _, _, _, written, annotatable | void, _, _, written, annotatable
  | star, _, _, written, annotatable | dynamic, _, _, written, annotatable
  | unresolved _, _, _, written, annotatable => by
    cases written
    cases annotatable

/-- **Settled types keep their wrappers**, and something that can be annotated at their core. -/
theorem toJava_of_isSettled : ∀ (type : TypeUse) {isReturn : Bool} {position : JavaPosition}
    {form : TypeUse}, type.isSettled isReturn = true →
      (position.isReturn = true → isReturn = true) → type.toJava position = .ok form →
        form.core.isAnnotatable = true ∧ form.isWrapper = type.isWrapper
  | classRef head arguments, isReturn, position, form, settled, weaker, written => by
    have stays : head.identity.staysClass position.isReturn = true :=
      Identity.staysClass_of_weaker settled weaker
    rw [toJava] at written
    obtain ⟨rewritten, -, written⟩ := bind_eq_ok.mp written
    rw [classToJava_of_staysClass stays] at written
    cases written
    exact ⟨rfl, rfl⟩
  | nullable inner, isReturn, position, form, settled, weaker, written => by
    simp only [isSettled, Bool.and_eq_true, Bool.not_eq_true'] at settled
    rw [toJava, settled.1] at written
    obtain ⟨inside, insideWritten, written⟩ := bind_eq_ok.mp written
    have notReturned : position.boxed.isReturn = true → false = true := id
    have below := toJava_of_isSettled inner settled.2 notReturned insideWritten
    split at written <;> cases written
    · cases below.1
    · exact ⟨below.1, rfl⟩
  | projected variance inner, isReturn, position, form, settled, weaker, written => by
    rw [toJava] at written
    obtain ⟨inside, insideWritten, written⟩ := bind_eq_ok.mp written
    cases written
    have notReturned : position.boxed.isReturn = true → false = true := id
    have below := toJava_of_isSettled inner settled notReturned insideWritten
    exact ⟨below.1, rfl⟩
  | aliased named inner, isReturn, position, form, settled, weaker, written => by
    rw [toJava] at written
    obtain ⟨inside, insideWritten, written⟩ := bind_eq_ok.mp written
    cases written
    have below := toJava_of_isSettled inner settled weaker insideWritten
    exact ⟨below.1, rfl⟩
  | parameter _, _, _, _, _, _, written | javaObject _, _, _, _, _, _, written => by
    cases written
    exact ⟨rfl, rfl⟩

end TypeUse

end Diglot
