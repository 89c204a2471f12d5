import Diglot.Proofs.Conversion
import Diglot.Proofs.JavaForms

/-!
# Annotations below wrappers

A type that stands below wrappers for nullability, variance and aliases is displayed with its
annotations, unless they are lost on the way. The renderer reads them from the request, and goes
on below a wrapper with the form that the language writes.

* `Context.Displays` — up to nullability, what is displayed are the ordinary annotations of a
  list.
* In Kotlin variance falls away in the conversion and does not re-expose what stands under it, so
  annotations reach the display unless variance is the innermost wrapper
  (`TypeUse.reexposes`).
* In Java the form of a type that stands below a wrapper is rewritten a second time. It stays
  as it is (`TypeUse.isSettled`), so annotations reach the display unless Java has a primitive,
  an array or `void` for the type.
-/

namespace Diglot

open Annotation

/-! ## Displayed annotations -/

namespace Context

/-- Whether an annotation is displayed on every type: it is of interest to a reader, and does not
state nullability. -/
def isOrdinary (context : Context) (a : Annotation) : Bool :=
  !context.isNoise a && !a.isNullability

/-- The ordinary annotations of a list, as they are displayed. -/
def ordinary (context : Context) (annotations : List Annotation) : List ShownAnnotation :=
  ((distinct (annotations.map publicForm)).filter
    context.isOrdinary).map context.shownAnnotation

/-- Whether a displayed annotation is one that states nullability. -/
def StatesNullability (context : Context) (shown : ShownAnnotation) : Prop :=
  ∃ a : Annotation, a.isNullability = true ∧ shown = context.shownAnnotation a

/-- **What is displayed are the ordinary annotations** of a list, in order, and annotations that
state nullability. -/
structure Displays (context : Context) (annotations : List Annotation)
    (shown : List ShownAnnotation) : Prop where
  /-- no ordinary annotation is missing -/
  ordinary : (context.ordinary annotations).Sublist shown
  /-- nothing is added but nullability -/
  only : ∀ x ∈ shown, x ∈ context.ordinary annotations ∨ context.StatesNullability x

variable {context : Context} {annotations : List Annotation} {shown : List ShownAnnotation}

theorem isShown_of_isOrdinary {a : Annotation} (ordinary : context.isOrdinary a = true)
    (n : Nullability) : context.isShown n a = true := by
  simp only [isOrdinary, Bool.and_eq_true, Bool.not_eq_true'] at ordinary
  simp [isShown, ordinary]

theorem isOrdinary_of_isShown {a : Annotation} {n : Nullability}
    (isShown : context.isShown n a = true) (other : a.isNullability = false) :
    context.isOrdinary a = true := by
  simp_all [Context.isShown, isOrdinary]

/-- **Whatever the nullability**, the ordinary annotations are displayed. -/
theorem displays_of_shownAnnotations {n : Nullability}
    (found : context.shownAnnotations annotations n = .ok shown) :
    context.Displays annotations shown := by
  obtain ⟨injected, only, -, rfl⟩ := exists_injected_of_shownAnnotations found
  -- what is injected stands behind the others
  obtain ⟨seen, kept⟩ := exists_distinctFrom_append (annotations.map publicForm) injected []
  constructor
  · refine List.Sublist.map _ ?_
    rw [distinct, distinct, kept]
    have before : ∀ list : List Annotation,
        (list.filter context.isOrdinary).Sublist (list.filter (context.isShown n)) := by
      intro list
      exact List.monotone_filter_right list fun a ordinary => isShown_of_isOrdinary ordinary n
    exact (before _).trans ((List.sublist_append_left _ _).filter _)
  · intro x mem
    obtain ⟨a, memA, rfl⟩ := List.mem_map.mp mem
    obtain ⟨memA, isShown⟩ := List.mem_filter.mp memA
    cases nullability : a.isNullability with
    | true => exact Or.inr ⟨a, nullability, rfl⟩
    | false =>
      rw [distinct, kept] at memA
      rcases List.mem_append.mp memA with own | added
      · have ordinary := isOrdinary_of_isShown isShown nullability
        exact Or.inl (List.mem_map_of_mem (List.mem_filter.mpr ⟨own, ordinary⟩))
      · have mem := (distinctFrom_sublist seen _).subset added
        rw [only a mem] at nullability
        cases nullability

/-- The ordinary annotations are displayed, whatever nullability decides. -/
theorem displays_of_exists
    (found : ∃ n, context.shownAnnotations annotations n = .ok shown) :
    context.Displays annotations shown := by
  obtain ⟨n, found⟩ := found
  exact displays_of_shownAnnotations found

end Context

/-- A form is displayed with the annotations of the request. -/
theorem Face.Shows.displays {context : Context} {request : TypeRequest} {form : TypeUse}
    {face : Face} (shows : face.Shows context request form) :
    context.Displays request.annotations face.annotations := by
  obtain ⟨decisive, found, -⟩ := shows.annotations
  exact Context.displays_of_shownAnnotations found

/-- The annotations of a request whose type would have the given ones. -/
def TypeRequest.annotationsWith (request : TypeRequest) (own : List Annotation) :
    List Annotation :=
  (request.carried ++ own).filter fun a => !request.shownElsewhere.contains a

/-- **Annotations pass wrappers**: `own` are those that a request finds, as long as it `Fits`, if
what is inside a wrapper fits and finds the same, and a form is annotated with them. -/
theorem annotated_of_typeOf {context : Context} (Fits : TypeRequest → Prop)
    (own : TypeRequest → List Annotation)
    (nullable : ∀ {request inner}, context.writtenForm request = .ok (.nullable inner) →
      Fits request →
        Fits (request.forNullable inner) ∧ own (request.forNullable inner) = own request)
    (projected : ∀ {request variance inner},
      context.writtenForm request = .ok (.projected variance inner) → Fits request →
        Fits (request.forProjected inner) ∧ own (request.forProjected inner) = own request)
    (aliased : ∀ {request named inner},
      context.writtenForm request = .ok (.aliased named inner) → Fits request →
        Fits (request.forAliased inner) ∧ own (request.forAliased inner) = own request)
    (leaf : ∀ {request form}, context.writtenForm request = .ok form →
      form.isWrapper = false → Fits request →
        request.type.annotationsAt request.sourceSet.name = own request)
    {request : TypeRequest} {shown : ShownType} (fits : Fits request)
    (found : typeOf context request = .ok shown) :
    ∃ decisive, context.shownAnnotations (request.annotationsWith (own request)) decisive =
      .ok shown.annotations := by
  have face : ∀ {request : TypeRequest} {form : TypeUse} {face : Face},
      face.Shows context request form → Fits request →
        ∃ decisive, context.shownAnnotations (request.annotationsWith (own request)) decisive =
          .ok face.annotations := by
    intro request form face shows fits
    obtain ⟨decisive, annotated, -⟩ := shows.annotations
    rw [← leaf shows.written shows.leaf fits]
    exact ⟨decisive, annotated⟩
  refine typeOf_induct (motive := fun request shown => Fits request →
      ∃ decisive, context.shownAnnotations (request.annotationsWith (own request)) decisive =
        .ok shown.annotations)
    ?_ ?_ ?_ ?_ ?_ ?_ found fits
  · intro request inner shown written inside fits
    obtain ⟨fits', same⟩ := nullable written fits
    exact same ▸ inside fits'
  · intro request variance inner shown written inside fits
    obtain ⟨fits', same⟩ := projected written fits
    exact same ▸ inside fits'
  · intro request named inner shown written inside fits
    obtain ⟨fits', same⟩ := aliased written fits
    exact same ▸ inside fits'
  · exact fun shows _ fits => face shows fits
  · exact fun shows _ _ fits => face shows fits
  · exact fun shows _ _ _ _ fits => face shows fits

/-- **A type that has no annotations at its core** is displayed with those that are handed to
it. -/
theorem displays_of_bare {context : Context} {request : TypeRequest} {shown : ShownType}
    (bare : request.type.core.annotationsAt request.sourceSet.name = [])
    (found : typeOf context request = .ok shown) :
    context.Displays (request.annotationsWith []) shown.annotations := by
  have below : ∀ {request : TypeRequest} {form : TypeUse},
      context.writtenForm request = .ok form →
      request.type.core.annotationsAt request.sourceSet.name = [] →
        form.core.annotationsAt request.sourceSet.name = [] := by
    intro request form written bare
    have kept := context.annotationsAt_core_writtenForm written request.sourceSet.name
    rw [bare] at kept
    exact List.subset_nil.mp kept
  refine Context.displays_of_exists (annotated_of_typeOf
    (fun request => request.type.core.annotationsAt request.sourceSet.name = []) (fun _ => [])
    ?_ ?_ ?_ ?_ bare found)
  · intro request inner written bare
    have bare' := below written bare
    exact ⟨bare', rfl⟩
  · intro request variance inner written bare
    have bare' := below written bare
    exact ⟨bare', rfl⟩
  · intro request named inner written bare
    have bare' := below written bare
    exact ⟨bare', rfl⟩
  · intro request form written leaf bare
    have own := request.type.annotationsAt_sublist_core request.sourceSet.name
    rw [bare] at own
    exact List.sublist_nil.mp own

/-! ## In Kotlin -/

namespace TypeUse

/-- Whether Kotlin finds the annotations of the core: it does unless variance is the innermost
wrapper. -/
def reexposes : TypeUse → Bool
  | nullable inner => inner.reexposes
  | aliased _ inner => inner.reexposes
  | projected _ inner => inner.isWrapper && inner.reexposes
  | _ => true

/-- The annotations of the core that Kotlin finds. -/
def reexposedAt (sourceSet : String) (type : TypeUse) : List Annotation :=
  if type.reexposes then type.core.annotationsAt sourceSet else []

/-- **In the conversion variance falls away** around other wrappers, which stay. -/
theorem toKotlin_of_isWrapper : ∀ type : TypeUse, type.toKotlin.isWrapper = true →
    type.toKotlin.core = type.core ∧ type.toKotlin.reexposes = type.reexposes ∧
      ∀ variance inner, type.toKotlin ≠ projected variance inner
  | nullable _, _ | aliased .., _ => ⟨rfl, rfl, nofun⟩
  | projected _ inner, wrapper => by
    obtain ⟨core, reexposes, other⟩ := toKotlin_of_isWrapper inner wrapper
    refine ⟨core, ?_, other⟩
    have isWrapper : inner.isWrapper = true := by
      cases inner with
      | nullable | projected | aliased => rfl
      | classRef head arguments =>
        rw [toKotlin, toKotlin] at wrapper
        split at wrapper <;> cases wrapper
      | nonNull | parameter | primitive | javaObject | void | star | dynamic | unresolved =>
        cases wrapper
    rw [TypeUse.reexposes, isWrapper, Bool.true_and]
    exact reexposes
  | classRef head arguments, wrapper => by
    rw [toKotlin] at wrapper
    split at wrapper <;> cases wrapper

/-- A type that is no wrapper once it is converted has the annotations that Kotlin finds below its
wrappers. -/
theorem annotationsAt_eq_reexposedAt (sourceSet : String) : ∀ type : TypeUse,
    type.toKotlin.isWrapper = false →
      type.reexposes = !type.isWrapper ∧
        type.annotationsAt sourceSet = type.reexposedAt sourceSet
  | projected variance inner, leaf => by
    obtain ⟨reexposes, -⟩ := annotationsAt_eq_reexposedAt sourceSet inner leaf
    have none : (projected variance inner).reexposes = false := by
      rw [TypeUse.reexposes, reexposes, Bool.and_not_self]
    refine ⟨none, ?_⟩
    rw [reexposedAt, none]
    rfl
  | nullable _, leaf | aliased .., leaf => by cases leaf
  | classRef .., _ | parameter _, _ | primitive _, _ | javaObject _, _ | void, _ | star, _
  | dynamic, _ | unresolved _, _ | nonNull _, _ => ⟨rfl, rfl⟩

end TypeUse

/-- **Kotlin displays the annotations that are handed to a type, and those that it finds at its
core.** -/
theorem annotated_of_kotlin {context : Context} (kotlin : context.dialect = .kotlin)
    {request : TypeRequest} {shown : ShownType} (found : typeOf context request = .ok shown) :
    ∃ decisive, context.shownAnnotations
        (request.annotationsWith (request.type.reexposedAt request.sourceSet.name)) decisive =
      .ok shown.annotations := by
  have converted : ∀ {request : TypeRequest} {form : TypeUse},
      context.writtenForm request = .ok form → request.type.toKotlin = form := by
    intro request form written
    rw [Context.writtenForm_kotlin kotlin] at written
    exact Except.ok.inj written
  have below : ∀ {request : TypeRequest} {form : TypeUse},
      context.writtenForm request = .ok form → form.isWrapper = true →
        form.reexposedAt request.sourceSet.name =
            request.type.reexposedAt request.sourceSet.name ∧
          ∀ variance inner, form ≠ .projected variance inner := by
    intro request form written wrapper
    obtain rfl := converted written
    obtain ⟨core, reexposes, other⟩ := request.type.toKotlin_of_isWrapper wrapper
    refine ⟨?_, other⟩
    rw [TypeUse.reexposedAt, TypeUse.reexposedAt, core, reexposes]
  refine annotated_of_typeOf (fun _ => True)
    (fun request => request.type.reexposedAt request.sourceSet.name) ?_ ?_ ?_ ?_ trivial found
  · intro request inner written _
    obtain ⟨same, -⟩ := below written rfl
    exact ⟨trivial, same⟩
  · intro request variance inner written _
    obtain ⟨-, other⟩ := below written rfl
    exact absurd rfl (other variance inner)
  · intro request named inner written _
    obtain ⟨same, -⟩ := below written rfl
    exact ⟨trivial, same⟩
  · intro request form written leaf _
    obtain rfl := converted written
    exact (request.type.annotationsAt_eq_reexposedAt request.sourceSet.name leaf).2

/-! ## In Java -/

/-- **Settled types are displayed with the annotations at their core**, however many wrappers
stand around it. -/
theorem displays_of_isSettled {context : Context} (java : context.dialect = .java)
    {request : TypeRequest} {shown : ShownType}
    (settled : request.type.isSettled request.isReturn = true)
    (found : typeOf context request = .ok shown) :
    context.Displays
      (request.annotationsWith (request.type.core.annotationsAt request.sourceSet.name))
      shown.annotations := by
  have below : ∀ {request : TypeRequest} {form : TypeUse},
      context.writtenForm request = .ok form →
      request.type.isSettled request.isReturn = true →
        form.isSettled request.isReturn = true ∧ form.isWrapper = request.type.isWrapper ∧
          form.core.annotationsAt request.sourceSet.name =
            request.type.core.annotationsAt request.sourceSet.name := by
    intro request form written settled
    rw [Context.writtenForm, java] at written
    obtain ⟨annotatable, wrapper⟩ := request.type.toJava_of_isSettled settled id written
    obtain ⟨settled', same⟩ :=
      request.type.isSettled_of_toJava request.sourceSet.name written annotatable
    exact ⟨settled', wrapper, same⟩
  refine Context.displays_of_exists (annotated_of_typeOf
    (fun request => request.type.isSettled request.isReturn = true)
    (fun request => request.type.core.annotationsAt request.sourceSet.name)
    ?_ ?_ ?_ ?_ settled found)
  · intro request inner written settled
    obtain ⟨settled', -, same⟩ := below written settled
    exact ⟨(Bool.and_eq_true_iff.mp settled').2, same⟩
  · intro request variance inner written settled
    obtain ⟨settled', -, same⟩ := below written settled
    exact ⟨settled', same⟩
  · intro request named inner written settled
    obtain ⟨settled', -, same⟩ := below written settled
    exact ⟨settled', same⟩
  · intro request form written leaf settled
    obtain ⟨-, wrapper, -⟩ := below written settled
    rw [TypeUse.core_of_not_isWrapper (wrapper ▸ leaf)]

namespace TypeUse

/-- A form that is no wrapper is that of a type whose annotations are those of its core. -/
theorem annotationsAt_of_toJava (sourceSet : String) :
    ∀ (type : TypeUse) {position : JavaPosition} {form : TypeUse},
      type.toJava position = .ok form → form.isWrapper = false →
        type.annotationsAt sourceSet = type.core.annotationsAt sourceSet
  | nullable inner, position, form, written, leaf => by
    rw [toJava] at written
    split at written
    · rename_i unit
      cases inner <;> first | rfl | cases unit
    · obtain ⟨inside, insideWritten, written⟩ := bind_eq_ok.mp written
      split at written <;> cases written
      · have below := annotationsAt_of_toJava sourceSet inner insideWritten rfl
        exact below
      · cases leaf
  | projected variance inner, position, form, written, leaf => by
    rw [toJava] at written
    obtain ⟨inside, -, written⟩ := bind_eq_ok.mp written
    cases written
    cases leaf
  | aliased named inner, position, form, written, leaf => by
    rw [toJava] at written
    obtain ⟨inside, -, written⟩ := bind_eq_ok.mp written
    cases written
    cases leaf
  | classRef .., _, _, _, _ | parameter _, _, _, _, _ | primitive _, _, _, _, _
  | javaObject _, _, _, _, _ | void, _, _, _, _ | star, _, _, _, _ | dynamic, _, _, _, _
  | unresolved _, _, _, _, _ | nonNull _, _, _, _, _ => rfl

variable {type form : TypeUse} {position : JavaPosition}

/-- What Java has in place of something that can be annotated can be annotated, or it is
special. -/
theorem isAnnotatable_core_toJava (annotatable : type.core.isAnnotatable = true)
    (plain : type.core.isSpecialInJava = false) (written : type.toJava position = .ok form) :
    form.core.isAnnotatable = true := by
  rcases core_toJava type written with ⟨-, void | unit⟩ | ⟨-, position', core⟩
  · rw [void] at annotatable
    cases annotatable
  · cases eq : type.core <;> rw [eq] at unit plain <;>
      simp_all [isUnit, isSpecialInJava, Identity.isSpecialInJava, Identity.isClass]
  · cases eq : type.core <;> rw [eq] at annotatable plain core
    case classRef head arguments =>
      rw [toJava] at core
      obtain ⟨rewritten, -, core⟩ := bind_eq_ok.mp core
      rw [classToJava_of_not_isSpecialInJava plain] at core
      rw [← Except.ok.inj core]
      rfl
    case parameter | javaObject =>
      rw [← Except.ok.inj core]
      rfl
    all_goals cases annotatable

/-- Where Java has nothing that can be annotated in place of something that can, the form has no
annotations at its core. -/
theorem annotationsAt_core_of_not_isAnnotatable (annotatable : type.core.isAnnotatable = true)
    (written : type.toJava position = .ok form) (lost : form.core.isAnnotatable = false)
    (sourceSet : String) : form.core.annotationsAt sourceSet = [] := by
  rcases core_toJava type written with ⟨void, -⟩ | ⟨-, position', core⟩
  · rw [void]
    rfl
  · cases eq : type.core <;> rw [eq] at annotatable core
    case classRef head arguments =>
      rw [toJava] at core
      obtain ⟨rewritten, -, core⟩ := bind_eq_ok.mp core
      generalize form.core = inJava at core lost
      cases ClassToJava.of_classToJava core with
      | void | unboxed | primitiveArray | array => rfl
      | boxed | renamed => cases lost
    case parameter | javaObject =>
      rw [← Except.ok.inj core] at lost
      cases lost
    all_goals cases annotatable

end TypeUse

/-- **What is inside a wrapper** is requested in the same surroundings, for the same core. -/
theorem exists_inner_of_shownBelow {context : Context} {request : TypeRequest}
    {arguments : List ShownType} {form : TypeUse} {shown : ShownType}
    (wrapper : form.isWrapper = true)
    (found : shownBelow context request arguments form = .ok shown) :
    ∃ inner : TypeRequest, typeOf context inner = .ok shown ∧
      inner.sourceSet = request.sourceSet ∧ inner.annotationsWith = request.annotationsWith ∧
        inner.type.core = form.core ∧
          (form.isSettled request.isReturn = true →
            inner.type.isSettled inner.isReturn = true) := by
  cases form with
  | nullable inner =>
    exact ⟨request.forNullable inner, found, rfl, rfl, rfl,
      fun settled => (Bool.and_eq_true_iff.mp settled).2⟩
  | projected variance inner => exact ⟨request.forProjected inner, found, rfl, rfl, rfl, id⟩
  | aliased named inner => exact ⟨request.forAliased inner, found, rfl, rfl, rfl, id⟩
  | classRef | parameter | primitive | javaObject | void | star | dynamic | unresolved
  | nonNull => cases wrapper

/-- **Java displays the annotations at the core** of a form, or those of the type if the form is
no wrapper. -/
theorem displays_of_java {context : Context} (java : context.dialect = .java)
    {request : TypeRequest} {form : TypeUse} {shown : ShownType}
    (annotatable : request.type.core.isAnnotatable = true)
    (written : context.writtenForm request = .ok form)
    (found : typeOf context request = .ok shown) :
    context.Displays
      (request.annotationsWith
        (if !form.isWrapper || form.core.isAnnotatable then
          request.type.core.annotationsAt request.sourceSet.name else []))
      shown.annotations := by
  rw [typeOf_eq, written] at found
  obtain ⟨arguments, -, found⟩ := bind_eq_ok.mp found
  have toJava := written
  rw [Context.writtenForm, java] at toJava
  cases wrapper : form.isWrapper with
  | false =>
    have own := TypeUse.annotationsAt_of_toJava request.sourceSet.name _ toJava wrapper
    have found : shownForm context request arguments form = .ok shown := by
      rwa [← shownBelow_of_not_isWrapper wrapper]
    rw [Bool.not_false, Bool.true_or, if_pos rfl, ← own]
    cases ShownForm.of_shownForm written wrapper found with
    | plain shows | mapped shows | lambda shows => exact shows.displays
  | true =>
    obtain ⟨inner, found, sourceSet, same, core, settled⟩ :=
      exists_inner_of_shownBelow wrapper found
    rw [Bool.not_true, Bool.false_or, ← same]
    cases lost : form.core.isAnnotatable with
    | true =>
      obtain ⟨formSettled, own⟩ :=
        TypeUse.isSettled_of_toJava request.sourceSet.name _ toJava lost
      rw [if_pos rfl, ← own, ← core, ← sourceSet]
      exact displays_of_isSettled java (settled formSettled) found
    | false =>
      refine displays_of_bare ?_ found
      rw [core]
      exact TypeUse.annotationsAt_core_of_not_isAnnotatable annotatable toJava lost _

/-! ## Both -/

/-- **Whether the annotations at the core of the requested type reach the display.** In Kotlin
they do unless variance is the innermost wrapper; in Java they do unless wrappers are left around
a primitive, an array or `void`. -/
def Context.keepsAnnotations (context : Context) (request : TypeRequest) : Bool :=
  match context.dialect with
  | .kotlin => request.type.reexposes
  | .java =>
    match context.writtenForm request with
    | .ok form => !form.isWrapper || form.core.isAnnotatable
    | .error _ => false

section

variable {context : Context} {request : TypeRequest} {shown : ShownType}

theorem Context.keepsAnnotations_kotlin (kotlin : context.dialect = .kotlin) :
    context.keepsAnnotations request = request.type.reexposes := by
  rw [keepsAnnotations, kotlin]

theorem Context.keepsAnnotations_java (java : context.dialect = .java) {form : TypeUse}
    (written : context.writtenForm request = .ok form) :
    context.keepsAnnotations request = (!form.isWrapper || form.core.isAnnotatable) := by
  rw [keepsAnnotations, java, written]

/-- What cannot be written is not shown. -/
theorem exists_writtenForm (found : typeOf context request = .ok shown) :
    ∃ form, context.writtenForm request = .ok form := by
  rw [typeOf_eq] at found
  obtain ⟨arguments, -, found⟩ := bind_eq_ok.mp found
  obtain ⟨form, written, -⟩ := bind_eq_ok.mp found
  exact ⟨form, written⟩

/-- **A type is displayed with the annotations at its core**, where they are kept, and with those
that are handed to it. -/
theorem displays_of_isAnnotatable (annotatable : request.type.core.isAnnotatable = true)
    (found : typeOf context request = .ok shown) :
    context.Displays
      (request.annotationsWith
        (if context.keepsAnnotations request then
          request.type.core.annotationsAt request.sourceSet.name else []))
      shown.annotations := by
  cases dialect : context.dialect with
  | kotlin =>
    rw [Context.keepsAnnotations_kotlin dialect]
    exact Context.displays_of_exists (annotated_of_kotlin dialect found)
  | java =>
    obtain ⟨form, written⟩ := exists_writtenForm found
    rw [Context.keepsAnnotations_java dialect written]
    exact displays_of_java dialect annotatable written found

/-- What Java writes as it is keeps its annotations. -/
theorem keepsAnnotations_of_not_isSpecialInJava (java : context.dialect = .java)
    (annotatable : request.type.core.isAnnotatable = true)
    (plain : request.type.core.isSpecialInJava = false)
    (found : typeOf context request = .ok shown) : context.keepsAnnotations request = true := by
  obtain ⟨form, written⟩ := exists_writtenForm found
  rw [Context.keepsAnnotations_java java written]
  rw [Context.writtenForm, java] at written
  rw [TypeUse.isAnnotatable_core_toJava annotatable plain written, Bool.or_true]

/-- What is no wrapper keeps its annotations. -/
theorem keepsAnnotations_of_not_isWrapper (leaf : request.type.isWrapper = false)
    (found : typeOf context request = .ok shown) : context.keepsAnnotations request = true := by
  cases dialect : context.dialect with
  | kotlin =>
    rw [Context.keepsAnnotations_kotlin dialect]
    generalize request.type = type at leaf
    cases type <;> first | rfl | cases leaf
  | java =>
    obtain ⟨form, written⟩ := exists_writtenForm found
    rw [Context.keepsAnnotations_java dialect written]
    rw [Context.writtenForm, dialect] at written
    rw [(TypeUse.toJava_of_not_isWrapper leaf written).1]
    rfl

end

/-- **Which annotations survive wrappers.** A class, a type parameter or `java.lang.Object` is
displayed alone and below wrappers for nullability, variance and aliases, in the same
surroundings.

* Where annotations are kept, all that it displays alone are displayed below the wrappers, except
  perhaps for those that state nullability.
* Where they are not, below the wrappers only those are displayed that are handed to the type.
* In Kotlin they are kept unless variance is the innermost wrapper; in Java they are kept unless
  the class is one for which Java has a primitive, `void` or an array. -/
theorem annotations_below_wrappers (context : Context) (request : TypeRequest)
    (inside around : ShownType) (annotatable : request.type.core.isAnnotatable = true)
    (alone : typeOf context { request with type := request.type.core } = .ok inside)
    (wrapped : typeOf context request = .ok around) :
    (context.keepsAnnotations request = true →
      ∀ x ∈ inside.annotations, ¬ context.StatesNullability x → x ∈ around.annotations) ∧
    (context.keepsAnnotations request = false →
      ∀ x ∈ around.annotations, ¬ context.StatesNullability x →
        x ∈ context.ordinary (request.annotationsWith [])) ∧
    (context.dialect = .kotlin → context.keepsAnnotations request = request.type.reexposes) ∧
    (context.dialect = .java → request.type.core.isSpecialInJava = false →
      context.keepsAnnotations request = true) := by
  have leaf := request.type.isWrapper_core
  have sameCore := TypeUse.core_of_not_isWrapper leaf
  have keptAlone : context.keepsAnnotations { request with type := request.type.core } = true :=
    keepsAnnotations_of_not_isWrapper leaf alone
  have displayedAlone : context.Displays
      (request.annotationsWith (request.type.core.annotationsAt request.sourceSet.name))
      inside.annotations := by
    have annotatable' : request.type.core.core.isAnnotatable = true := sameCore.symm ▸ annotatable
    have displayed := displays_of_isAnnotatable annotatable' alone
    rw [keptAlone, if_pos rfl, sameCore] at displayed
    exact displayed
  have displayed := displays_of_isAnnotatable annotatable wrapped
  refine ⟨fun keeps x mem other => ?_, fun loses x mem other => ?_,
    Context.keepsAnnotations_kotlin,
    fun java plain => keepsAnnotations_of_not_isSpecialInJava java annotatable plain wrapped⟩
  · rw [keeps, if_pos rfl] at displayed
    exact displayed.ordinary.subset ((displayedAlone.only x mem).resolve_right other)
  · rw [loses, if_neg (by decide)] at displayed
    exact (displayed.only x mem).resolve_right other

/-- A color that may be null, under an alias. -/
def nullableColor : TypeRequest :=
  { outColor with type := .nullable (.aliased (.unresolved "Color") outColor.type.core) }

/-- Kotlin keeps the annotation of `nullableColor` and loses that of `outColor`. -/
theorem annotations_below_wrappers_color :
    let context := Context.reference .kotlin {}
    outColor.type.core.isAnnotatable = true ∧
      ∃ inside around without,
        typeOf context { outColor with type := outColor.type.core } = .ok inside ∧
        typeOf context nullableColor = .ok around ∧ typeOf context outColor = .ok without ∧
        (∀ x ∈ inside.annotations, ¬ context.StatesNullability x → x ∈ around.annotations) ∧
        ∀ x ∈ without.annotations, ¬ context.StatesNullability x →
          x ∈ context.ordinary (outColor.annotationsWith []) := by
  intro context
  have annotatable : outColor.type.core.isAnnotatable = true := rfl
  obtain ⟨inside, alone⟩ := exists_of_isOk
    (typeOf context { outColor with type := outColor.type.core }) (by decide +kernel)
  obtain ⟨around, kept⟩ := exists_of_isOk (typeOf context nullableColor) (by decide +kernel)
  obtain ⟨without, lost⟩ := exists_of_isOk (typeOf context outColor) (by decide +kernel)
  obtain ⟨survive, -⟩ :=
    annotations_below_wrappers context nullableColor inside around annotatable alone kept
  obtain ⟨-, vanish, -⟩ :=
    annotations_below_wrappers context outColor inside without annotatable alone lost
  exact ⟨annotatable, inside, around, without, alone, kept, lost, survive rfl, vanish rfl⟩

end Diglot
