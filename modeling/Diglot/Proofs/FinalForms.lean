import Diglot.Proofs.Everywhere
import Diglot.Proofs.JavaForms

/-!
# Final Java forms

Below a wrapper the renderer rewrites for Java what is rewritten already, and in another
position: nothing is returned there, and nothing can be a primitive. That changes nothing.

* `TypeUse.isFinal` — types in which there is nothing left to rewrite.
* `isFinal_toJava` — Java forms are final.
* `toJava_of_isFinal` — final types are their own Java forms.
* `rewritten_twice` — so a second rewrite does nothing, and the renderer never changes a form
  below its wrappers.

A primitive of Kotlin with type arguments is the exception: its box keeps them as they are
written, and the second rewrite goes through them.
-/

namespace Diglot

namespace TypeUse

/-- Whether this is anything but a Kotlin primitive with type arguments. -/
def appliesNoPrimitive : TypeUse → Bool
  | classRef head arguments => !head.identity.isPrimitive || arguments.isEmpty
  | _ => true

mutual

/-- **Types in which there is nothing left to rewrite**: their classes stay classes and have
their Java names. What may be null is not `void`. -/
def isFinal (isReturn : Bool) : TypeUse → Bool
  | classRef head arguments =>
    head.identity.staysClass isReturn && head.identity.toJava = head.identity &&
      isFinalList arguments
  | nullable inner => !inner.isUnit && inner.shape ≠ .void && inner.isFinal false
  | projected _ inner => inner.isFinal false
  | nonNull inner => inner.isFinal false
  | aliased _ inner => inner.isFinal isReturn
  | _ => true

/-- Whether every type of a list is final where nothing is returned. -/
def isFinalList : List TypeUse → Bool
  | [] => true
  | first :: rest => first.isFinal false && isFinalList rest

end

/-! ## Java forms are final -/

/-- The box of a primitive is final. -/
theorem isFinal_box (isReturn : Bool) (head : ClassHead) (p : Primitive) :
    (classRef { head with identity := .ofClass "java.lang" p.boxName } []).isFinal isReturn =
      true := by
  have stays : (Identity.ofClass "java.lang" p.boxName).staysClass isReturn = true := rfl
  simp [isFinal, isFinalList, stays, Identity.toJava_box]

/-- **What Java has for a class is final**, if the rewritten arguments are. -/
theorem isFinal_classToJava {position : JavaPosition} {head : ClassHead}
    {arguments rewritten : List TypeUse} {form : TypeUse}
    (proper : (classRef head arguments).appliesNoPrimitive = true)
    (written : classToJava position head arguments rewritten = .ok form)
    (rest : isFinalList rewritten = true) : form.isFinal position.isReturn = true := by
  cases ClassToJava.of_classToJava written with
  | void | unboxed | primitiveArray | array => rfl
  | boxed package named =>
    have isPrimitive : head.identity.isPrimitive = true := by
      simp [Identity.isPrimitive, package, named]
    rw [appliesNoPrimitive, isPrimitive] at proper
    obtain rfl := List.isEmpty_iff.mp proper
    exact isFinal_box position.isReturn head _
  | renamed stays =>
    simp [renamedToJava, isFinal, Identity.staysClass_toJava stays, Identity.toJava_toJava, rest]

mutual

/-- **Java forms are final** in the position for which they are made. -/
theorem isFinal_toJava : ∀ (type : TypeUse) {position : JavaPosition} {form : TypeUse},
    type.everywhere appliesNoPrimitive = true → type.toJava position = .ok form →
      form.isFinal position.isReturn = true
  | classRef head arguments, position, form, proper, written => by
    obtain ⟨here, given⟩ := everywhere_classRef_iff.mp proper
    rw [toJava] at written
    obtain ⟨rewritten, rest, written⟩ := bind_eq_ok.mp written
    exact isFinal_classToJava here written (isFinalList_toJavaList arguments given rest)
  | nullable inner, position, form, proper, written => by
    rw [toJava] at written
    split at written
    · cases written
      rfl
    · rename_i noUnit
      obtain ⟨inside, insideWritten, written⟩ := bind_eq_ok.mp written
      split at written <;> cases written
      · rfl
      · rename_i noVoid
        have below : inside.isFinal false = true :=
          isFinal_toJava inner (everywhere_inside rfl proper) insideWritten
        have noUnit' : inside.isUnit = false := by
          cases unit : inside.isUnit with
          | false => rfl
          | true => exact absurd (isUnit_of_toJava insideWritten unit) noUnit
        have noVoid' : inside.shape ≠ .void := by
          cases inside <;> first | exact absurd rfl noVoid | exact TypeShape.noConfusion
        simp [isFinal, below, noUnit', noVoid']
  | projected variance inner, position, form, proper, written => by
    rw [toJava] at written
    obtain ⟨inside, insideWritten, written⟩ := bind_eq_ok.mp written
    cases written
    have below := isFinal_toJava inner (everywhere_inside rfl proper) insideWritten
    exact below
  | nonNull inner, position, form, proper, written => by
    rw [toJava] at written
    obtain ⟨inside, insideWritten, written⟩ := bind_eq_ok.mp written
    cases written
    have below := isFinal_toJava inner (everywhere_inside rfl proper) insideWritten
    exact below
  | aliased named inner, position, form, proper, written => by
    rw [toJava] at written
    obtain ⟨inside, insideWritten, written⟩ := bind_eq_ok.mp written
    cases written
    have below := isFinal_toJava inner (everywhere_inside rfl proper) insideWritten
    exact below
  | parameter _, _, _, _, written | primitive _, _, _, _, written
  | javaObject _, _, _, _, written | void, _, _, _, written | star, _, _, _, written
  | dynamic, _, _, _, written | unresolved _, _, _, _, written => by
    cases written
    rfl

/-- The Java forms of type arguments are final. -/
theorem isFinalList_toJavaList :
    ∀ (types : List TypeUse) {position : JavaPosition} {forms : List TypeUse},
      (∀ type ∈ types, type.everywhere appliesNoPrimitive = true) →
        toJavaList position.boxed types = .ok forms → isFinalList forms = true
  | [], _, _, _, written => by
    cases written
    rfl
  | first :: rest, position, forms, proper, written => by
    rw [toJavaList] at written
    obtain ⟨form, one, written⟩ := bind_eq_ok.mp written
    obtain ⟨others, more, written⟩ := bind_eq_ok.mp written
    cases written
    have here : form.isFinal false = true :=
      isFinal_toJava first (proper first (List.mem_cons_self ..)) one
    have there := isFinalList_toJavaList rest
      (fun type mem => proper type (List.mem_cons_of_mem _ mem)) more
    rw [isFinalList, here, there]
    rfl

end

/-! ## Final types are their own Java forms -/

/-- **A class of which the arguments are rewritten** is written so, if it is final. -/
theorem classToJava_of_isFinal {position : JavaPosition} {isReturn : Bool} {head : ClassHead}
    {arguments : List TypeUse} (final : (classRef head arguments).isFinal isReturn = true)
    (weaker : position.isReturn = true → isReturn = true) :
    classToJava position head arguments arguments = .ok (classRef head arguments) := by
  simp only [isFinal, Bool.and_eq_true, decide_eq_true_eq] at final
  obtain ⟨⟨stays, named⟩, -⟩ := final
  rw [classToJava_of_staysClass (Identity.staysClass_of_weaker stays weaker), renamedToJava, named]

mutual

/-- **Final types are their own Java forms**, in every position where no more is returned. -/
theorem toJava_of_isFinal : ∀ (type : TypeUse) {isReturn : Bool} {position : JavaPosition},
    type.isFinal isReturn = true → (position.isReturn = true → isReturn = true) →
      type.toJava position = .ok type
  | classRef head arguments, isReturn, position, final, weaker => by
    have given := final
    simp only [isFinal, Bool.and_eq_true] at given
    rw [toJava, toJavaList_of_isFinalList arguments given.2]
    exact classToJava_of_isFinal final weaker
  | nullable inner, isReturn, position, final, weaker => by
    simp only [isFinal, Bool.and_eq_true, Bool.not_eq_true', decide_eq_true_eq] at final
    obtain ⟨⟨noUnit, noVoid⟩, below⟩ := final
    have same : inner.toJava position.boxed = .ok inner := toJava_of_isFinal inner below id
    rw [toJava, noUnit, same]
    cases inner <;> first | rfl | exact absurd rfl noVoid
  | projected variance inner, isReturn, position, final, weaker => by
    have same : inner.toJava position.boxed = .ok inner := toJava_of_isFinal inner final id
    rw [toJava, same]
    rfl
  | nonNull inner, isReturn, position, final, weaker => by
    have same : inner.toJava position.boxed = .ok inner := toJava_of_isFinal inner final id
    rw [toJava, same]
    rfl
  | aliased named inner, isReturn, position, final, weaker => by
    have same : inner.toJava position = .ok inner := toJava_of_isFinal inner final weaker
    rw [toJava, same]
    rfl
  | parameter _, _, _, _, _ | primitive _, _, _, _, _ | javaObject _, _, _, _, _
  | void, _, _, _, _ | star, _, _, _, _ | dynamic, _, _, _, _ | unresolved _, _, _, _, _ => rfl

/-- Final type arguments are their own Java forms. -/
theorem toJavaList_of_isFinalList : ∀ (types : List TypeUse) {position : JavaPosition},
    isFinalList types = true → toJavaList position.boxed types = .ok types
  | [], _, _ => rfl
  | first :: rest, position, final => by
    simp only [isFinalList, Bool.and_eq_true] at final
    have same : first.toJava position.boxed = .ok first := toJava_of_isFinal first final.1 id
    rw [toJavaList, same, toJavaList_of_isFinalList rest final.2]
    rfl

end

/-- **Forms are not rewritten any further**: not in the same position, and not in one where
more types are classes. -/
theorem toJava_toJava (type : TypeUse) {position position' : JavaPosition} {form : TypeUse}
    (proper : type.everywhere appliesNoPrimitive = true)
    (weaker : position'.isReturn = true → position.isReturn = true)
    (written : type.toJava position = .ok form) : form.toJava position' = .ok form :=
  toJava_of_isFinal form (isFinal_toJava type proper written) weaker

end TypeUse

/-! ## Below the wrappers of a form -/

/-- The position in a Java signature that is requested. -/
def Context.position (context : Context) (request : TypeRequest) : JavaPosition :=
  ⟨request.isReturn, request.mustBox, context.config.qualifiedArrays⟩

/-- What the renderer goes on with below a wrapper. -/
def TypeRequest.below? (request : TypeRequest) : TypeUse → Option TypeRequest
  | .nullable inner => some (request.forNullable inner)
  | .projected _ inner => some (request.forProjected inner)
  | .aliased _ inner => some (request.forAliased inner)
  | _ => none

section

variable {context : Context} {request inside : TypeRequest} {form : TypeUse}

theorem Context.writtenForm_java (java : context.dialect = .java) (request : TypeRequest) :
    context.writtenForm request = request.type.toJava (context.position request) := by
  rw [writtenForm, java]
  rfl

/-- What is inside a final form is final. -/
theorem isFinal_of_below? (final : form.isFinal request.isReturn = true)
    (below : request.below? form = some inside) :
    inside.type.isFinal inside.isReturn = true := by
  cases form with
  | nullable inner =>
    cases below
    simp only [TypeUse.isFinal, Bool.and_eq_true] at final
    exact final.2
  | projected | aliased =>
    cases below
    exact final
  | classRef | parameter | primitive | javaObject | void | star | dynamic | unresolved
  | nonNull => cases below

/-- The request that the renderer goes on with once it has written the form of another one. -/
def Context.GoesOn (context : Context) (request inside : TypeRequest) : Prop :=
  ∃ form, context.writtenForm request = .ok form ∧ request.below? form = some inside

/-- **A final type is not rewritten** where Java requests it. -/
theorem Context.writtenForm_of_isFinal (java : context.dialect = .java)
    (final : request.type.isFinal request.isReturn = true) :
    context.writtenForm request = .ok request.type := by
  rw [writtenForm_java java]
  exact TypeUse.toJava_of_isFinal request.type final id

/-- One step below a form the type is final. -/
theorem isFinal_of_goesOn (java : context.dialect = .java)
    (proper : request.type.everywhere TypeUse.appliesNoPrimitive = true)
    (on : context.GoesOn request inside) : inside.type.isFinal inside.isReturn = true := by
  obtain ⟨form, written, below⟩ := on
  rw [Context.writtenForm_java java] at written
  exact isFinal_of_below? (TypeUse.isFinal_toJava request.type proper written) below

/-- **Any number of steps below a form the type is final.** -/
theorem isFinal_of_transGen_goesOn (java : context.dialect = .java)
    (proper : request.type.everywhere TypeUse.appliesNoPrimitive = true)
    (on : Relation.TransGen context.GoesOn request inside) :
    inside.type.isFinal inside.isReturn = true := by
  induction on with
  | single on => exact isFinal_of_goesOn java proper on
  | tail _ on final =>
    obtain ⟨form, written, below⟩ := on
    rw [Context.writtenForm_of_isFinal java final] at written
    cases written
    exact isFinal_of_below? final below

end

/-- **A second rewrite changes nothing**, in whatever position: no more may be returned there, but
other types may have to be boxed, and arrays may be named in another way. So Java writes what the
renderer goes on with below the wrappers of a form, however many there are, as it is. -/
theorem rewritten_twice (type : TypeUse)
    (proper : type.everywhere TypeUse.appliesNoPrimitive = true) :
    (∀ (first second : JavaPosition) (form : TypeUse),
        (second.isReturn = true → first.isReturn = true) → type.toJava first = .ok form →
          form.toJava second = .ok form) ∧
      ∀ (context : Context) (request inside : TypeRequest), context.dialect = .java →
        request.type = type → Relation.TransGen context.GoesOn request inside →
          context.writtenForm inside = .ok inside.type := by
  refine ⟨fun first second form weaker written => ?_, ?_⟩
  · exact TypeUse.toJava_toJava type proper weaker written
  · rintro context request inside java rfl on
    exact Context.writtenForm_of_isFinal java (isFinal_of_transGen_goesOn java proper on)

/-- Any list of arrays of `String`, which may be null. -/
def namesByRow : TypeRequest where
  type := .nullable <| .projected .covariant <|
    .classRef { identity := .ofClass "kotlin.collections" "List" }
      [.classRef { identity := .ofClass "kotlin" "Array" }
        [.classRef { identity := .ofClass "kotlin" "String" } []]]
  fromJava := false
  sourceSet := ⟨.jvm, "jvmMain"⟩
  isReturn := true

/-- What Java writes for `namesByRow` where it is returned. -/
def namesByRowInJava : TypeUse :=
  .classRef { identity := .ofClass "java.util" "List" } [.primitive "String[]"]

/-- The Java form of `namesByRow` is the same where arrays are named with their packages, and it is
no longer rewritten two wrappers further down. -/
theorem rewritten_twice_namesByRow :
    let java := Context.reference .java {}
    let form := TypeUse.nullable (.projected .covariant namesByRowInJava)
    let inside := { namesByRow with
      type := namesByRowInJava, isReturn := false, imposed := some .kotlinNullable }
    namesByRow.type.everywhere TypeUse.appliesNoPrimitive = true ∧
      namesByRow.type.toJava ⟨true, false, false⟩ = .ok form ∧ form ≠ namesByRow.type ∧
      form.toJava ⟨false, true, true⟩ = .ok form ∧
      Relation.TransGen java.GoesOn namesByRow inside ∧
      java.writtenForm inside = .ok namesByRowInJava := by
  intro java form inside
  have proper : namesByRow.type.everywhere TypeUse.appliesNoPrimitive = true := by decide +kernel
  have written : namesByRow.type.toJava ⟨true, false, false⟩ = .ok form := by decide +kernel
  let first := namesByRow.forNullable (.projected .covariant namesByRowInJava)
  have on : java.GoesOn namesByRow first := ⟨form, written, rfl⟩
  have further : java.GoesOn first inside :=
    ⟨.projected .covariant namesByRowInJava, by decide +kernel, rfl⟩
  have steps : Relation.TransGen java.GoesOn namesByRow inside := .tail (.single on) further
  obtain ⟨again, below⟩ := rewritten_twice namesByRow.type proper
  have same : form.toJava ⟨false, true, true⟩ = .ok form := again _ _ form nofun written
  have final : java.writtenForm inside = .ok namesByRowInJava :=
    below java namesByRow inside rfl rfl steps
  exact ⟨proper, written, by decide +kernel, same, steps, final⟩

-- the box of a primitive has an argument that is not rewritten before the second time
example :
    let applied := TypeUse.classRef { identity := .ofClass "kotlin" "Int" }
      [.classRef { identity := .ofClass "kotlin" "IntArray" } []]
    let position : JavaPosition := { mustBox := true }
    (applied.toJava position).bind (fun form => form.toJava position) ≠
      applied.toJava position := by
  decide +kernel

end Diglot
