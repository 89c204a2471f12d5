import Diglot.Proofs.JavaFailures
import Diglot.Proofs.KotlinAliases

/-!
# Imposed nullability

The surroundings of a type can impose nullability on it: the wrapper that makes it nullable, the
declaration that it belongs to, or the function type that returns it. It is handed from wrapper to
wrapper, where it is merged with what they say, and it is merged with what is stated at the form
that is shown in the end.

* `Nullability.or_left_comm` — the order in which nullabilities are merged does not matter.
* `Context.SameButNullability` — displayed annotations that differ in nullability annotations at
  most. `alike_shownAnnotations`: a nullability decides on no others.
* `ShownType.SameButFace` — two displayed types that differ in nullability and in what shows it.
  `alike_of_forms`: it is enough to compare forms.
* `ShownType.Imposed` — such types, of which the second has the nullability merged.
* `alike_imposing` — whatever else is imposed already.
-/

namespace Diglot

open Annotation

/-- What comes after one and the same outcome is alike if it is after every result. -/
theorem Alike.bind_same {α β : Type} {S : β → β → Prop} (outcome : Except RenderError α)
    {f g : α → Except RenderError β} (next : ∀ a, outcome = .ok a → Alike S (f a) (g a)) :
    Alike S (outcome >>= f) (outcome >>= g) := by
  cases outcome with
  | error e => exact .fails e
  | ok a => exact next a rfl

/-- What is alike in one way is alike in every way that follows. -/
theorem Alike.imp {α : Type} {R S : α → α → Prop} {first second : Except RenderError α}
    (alike : Alike R first second) (follows : ∀ a b, R a b → S a b) : Alike S first second := by
  cases alike with
  | fails e => exact .fails e
  | succeeds related => exact .succeeds (follows _ _ related)

/-! ## Merging -/

namespace Nullability

/-- No two nullabilities have the same place in the order of precedence. -/
theorem rank_injective : Function.Injective rank := by
  intro a b same
  rw [← idxOf_byPrecedence, ← idxOf_byPrecedence] at same
  exact (List.idxOf_inj (mem_byPrecedence a)).mp same

/-- The first in the order of precedence is kept. -/
theorem rank_or (a b : Nullability) : (a.or (some b)).rank = min a.rank b.rank := by
  rw [or]
  split <;> omega

/-- Nullabilities are merged in any order. -/
theorem or_left_comm (a b : Nullability) (other : Option Nullability) :
    a.or (some (b.or other)) = b.or (some (a.or other)) := by
  refine rank_injective ?_
  cases other with
  | none => rw [rank_or, rank_or, Nat.min_comm, or, or]
  | some c =>
    simp only [rank_or]
    omega

/-- What is merged later is merged with all that was merged before. -/
theorem or_or (a b : Nullability) (other : Option Nullability) :
    a.or (some (b.or other)) = (a.or other).or (some b) := by
  refine rank_injective ?_
  cases other with
  | none => rfl
  | some c =>
    simp only [rank_or]
    omega

end Nullability

/-! ## Annotations -/

namespace Context

/-- Displayed annotations that are the same but for nullability annotations. -/
def SameButNullability (context : Context) (shown shown' : List ShownAnnotation) : Prop :=
  ∃ sources sources' : List Annotation, shown = sources.map context.shownAnnotation ∧
    shown' = sources'.map context.shownAnnotation ∧
      (sources'.filter fun a => !a.isNullability) = sources.filter fun a => !a.isNullability

variable {context : Context}

/-- Whether other annotations are displayed does not depend on the nullability, nor on what is
injected. -/
theorem filter_isShown_distinct (decisive : Nullability) (forms : List Annotation)
    {injected : List Annotation} (only : ∀ a ∈ injected, a = .publicNonNull) :
    (((distinct (forms ++ injected)).filter (context.isShown decisive)).filter
        fun a => !a.isNullability) =
      (distinct forms).filter fun a => !context.isNoise a && !a.isNullability := by
  obtain ⟨seen, eq⟩ := exists_distinctFrom_append forms injected []
  have nothing : (distinctFrom seen injected).filter
      (fun a => !context.isNoise a && !a.isNullability) = [] := by
    rw [List.filter_eq_nil_iff]
    intro a mem
    rw [only a ((distinctFrom_sublist seen injected).subset mem)]
    simp [show publicNonNull.isNullability = true by decide]
  have others : ∀ a : Annotation, (!a.isNullability && context.isShown decisive a) =
      (!context.isNoise a && !a.isNullability) := by
    intro a
    rw [isShown]
    cases a.isNullability <;> simp
  rw [distinct, eq, List.filter_filter, List.filter_append]
  simp only [others]
  rw [nothing, List.append_nil]
  rfl

/-- **A nullability decides on nullability annotations only**, and not on failures. -/
theorem alike_shownAnnotations (annotations : List Annotation) (decisive decisive' : Nullability) :
    Alike context.SameButNullability (context.shownAnnotations annotations decisive)
      (context.shownAnnotations annotations decisive') := by
  have injects : ∀ n : Nullability, ∀ a ∈ (if context.dialect = .java &&
      !(annotations.map publicForm).any isNullability then
        n.javaAnnotation?.toList else []), a = .publicNonNull := by
    intro n a mem
    split at mem
    · exact Nullability.eq_of_mem_javaAnnotation? mem
    · cases mem
  unfold shownAnnotations
  dsimp only
  split
  · exact .fails _
  · refine .succeeds ⟨_, _, rfl, rfl, ?_⟩
    rw [filter_isShown_distinct _ _ (injects _), filter_isShown_distinct _ _ (injects _)]

end Context

/-! ## Types -/

/-- The type with another face. -/
def ShownType.withFace (face : Face) : ShownType → ShownType
  | plain _ link arguments => plain face link arguments
  | mapped _ link mutable arguments => mapped face link mutable arguments
  | lambda _ isSuspend receiver parameters returnType =>
    lambda face isSuspend receiver parameters returnType

/-- The type with its own face. -/
theorem ShownType.withFace_face (shown : ShownType) : shown.withFace shown.face = shown := by
  cases shown with
  | plain | mapped | lambda => rfl

/-- **Two types of which only the faces differ**, and these only in nullability and in what shows
it. -/
structure ShownType.SameButFace (context : Context) (shown shown' : ShownType) : Prop where
  /-- nothing but the face changes -/
  eq_withFace : shown' = shown.withFace shown'.face
  /-- the language stays -/
  dialect : shown'.face.dialect = shown.face.dialect
  /-- the annotations stay, but for nullability annotations -/
  annotations : context.SameButNullability shown.annotations shown'.annotations
  /-- in Kotlin, or with the same nullability, all of them stay -/
  annotations_eq : context.dialect = .kotlin ∨ shown'.nullability = shown.nullability →
    shown'.annotations = shown.annotations

/-- With the same nullability nothing differs. -/
theorem ShownType.SameButFace.eq {context : Context} {shown shown' : ShownType}
    (same : shown.SameButFace context shown')
    (nullability : shown'.nullability = shown.nullability) : shown' = shown := by
  have face : shown'.face = shown.face :=
    calc
      shown'.face = ⟨shown'.nullability, shown'.face.dialect, shown'.annotations⟩ := rfl
      _ = ⟨shown.nullability, shown.face.dialect, shown.annotations⟩ := by
        rw [nullability, same.dialect, same.annotations_eq (.inr nullability)]
  rw [same.eq_withFace, face, shown.withFace_face]

/-- **What imposed nullability changes**: it is merged into the nullability, and what Java shows
of that changes with it. -/
structure ShownType.Imposed (context : Context) (n : Nullability) (shown shown' : ShownType) :
    Prop where
  /-- nothing but the face changes -/
  eq_withFace : shown' = shown.withFace shown'.face
  /-- the nullability is merged -/
  nullability : shown'.nullability = shown.nullability.or (some n)
  /-- the language stays -/
  dialect : shown'.face.dialect = shown.face.dialect
  /-- the annotations stay, but for nullability annotations -/
  annotations : context.SameButNullability shown.annotations shown'.annotations
  /-- in Kotlin all of them stay -/
  annotations_kotlin : context.dialect = .kotlin → shown'.annotations = shown.annotations

/-- The request with nullability imposed beside what is imposed already. -/
def TypeRequest.imposing (n : Nullability) (request : TypeRequest) : TypeRequest :=
  { request with imposed := some (n.or request.imposed) }

namespace TypeRequest

/-- What is imposed on a request is merged with what the form states. -/
theorem nullability_imposing (n : Nullability) (request : TypeRequest) (dialect : Dialect)
    (form : TypeUse) :
    (request.imposing n).nullability dialect form =
      (request.nullability dialect form).or (some n) :=
  Nullability.or_or _ _ _

end TypeRequest

section

variable {context : Context}

/-- In Kotlin a nullability decides on no annotations at all, and no more does one that is the
same. -/
theorem alike_annotations (annotations : List Annotation) (decisive decisive' : Nullability) :
    Alike (fun shown shown' => context.SameButNullability shown shown' ∧
        (context.dialect = .kotlin ∨ decisive' = decisive → shown' = shown))
      (context.shownAnnotations annotations decisive)
      (context.shownAnnotations annotations decisive') := by
  have alike := context.alike_shownAnnotations annotations decisive decisive'
  have same : context.dialect = .kotlin ∨ decisive' = decisive →
      context.shownAnnotations annotations decisive' =
        context.shownAnnotations annotations decisive := by
    rintro (kotlin | rfl)
    · rw [context.shownAnnotations_kotlin kotlin, context.shownAnnotations_kotlin kotlin]
    · rfl
  generalize context.shownAnnotations annotations decisive = first at alike same
  generalize context.shownAnnotations annotations decisive' = second at alike same
  cases alike with
  | fails e => exact .fails e
  | succeeds related => exact .succeeds ⟨related, fun h => Except.ok.inj (same h)⟩

/-- What two types show that differ in what is imposed: the nullabilities `n` and `n'`, and
everything else alike. -/
structure ShownType.Differing (context : Context) (n n' : Nullability) (shown shown' : ShownType) :
    Prop extends ShownType.SameButFace context shown shown' where
  /-- the nullability of the first -/
  nullability : shown.nullability = n
  /-- the nullability of the second -/
  nullability' : shown'.nullability = n'

/-- A function type keeps its parts. -/
theorem alike_lambdaOf_imposed (request : TypeRequest) (imposed : Option Nullability)
    (form : TypeUse) (parts : LambdaParts) :
    Alike (ShownType.Differing context (request.nullability context.dialect form)
        ({ request with imposed }.nullability context.dialect form))
      (lambdaOf context request form parts)
      (lambdaOf context { request with imposed } form parts) := by
  unfold lambdaOf
  refine .bind_same _ fun receiver _ => ?_
  refine .bind_same _ fun parameters _ => ?_
  refine .bind_same _ fun returnType _ => ?_
  refine .bind_same _ fun isSuspend _ => ?_
  refine (alike_annotations request.annotations _ _).bind fun _ _ same => ?_
  have kept := fun h => same.2 (Or.imp_right (congrArg fun n => Nullability.or _ (some n)) h)
  exact .succeeds ⟨⟨rfl, rfl, same.1, kept⟩, rfl, rfl⟩

/-- A form keeps its kind, its links and its arguments. -/
theorem alike_shownForm_imposed (request : TypeRequest) (imposed : Option Nullability)
    (arguments : List ShownType) (form : TypeUse) :
    Alike (ShownType.Differing context (request.nullability context.dialect form)
        ({ request with imposed }.nullability context.dialect form))
      (shownForm context request arguments form)
      (shownForm context { request with imposed } arguments form) := by
  unfold shownForm renderFormBy
  simp only [attempt_eq, renderLambdaBy_eq]
  refine (alike_annotations request.annotations _ _).bind fun _ _ same => ?_
  have kept := fun h => same.2 (Or.imp_right (congrArg (annotatedNullability form)) h)
  split
  · refine .bind_same _ fun link _ => ?_
    exact .succeeds ⟨⟨rfl, rfl, same.1, kept⟩, rfl, rfl⟩
  · refine .bind_same _ fun isFunction _ => ?_
    split
    · refine .bind_same _ fun parts _ => ?_
      exact alike_lambdaOf_imposed request imposed form parts
    · refine .bind_same _ fun link _ => ?_
      split
      · exact .succeeds ⟨⟨rfl, rfl, same.1, kept⟩, rfl, rfl⟩
      · exact .succeeds ⟨⟨rfl, rfl, same.1, kept⟩, rfl, rfl⟩

/-- **Types are alike if forms are** on which nullabilities are imposed that are in some relation,
if it passes nullable wrappers. -/
theorem alike_of_forms {R : ShownType → ShownType → Prop}
    {P : Option Nullability → Option Nullability → Prop}
    (nullable : ∀ a b, P a b →
      P (some (Nullability.kotlinNullable.or a)) (some (Nullability.kotlinNullable.or b)))
    (forms : ∀ (request : TypeRequest) imposed, P request.imposed imposed → ∀ arguments form,
      Alike R (shownForm context request arguments form)
        (shownForm context { request with imposed } arguments form))
    (request : TypeRequest) (imposed : Option Nullability) (related : P request.imposed imposed) :
    Alike R (typeOf context request) (typeOf context { request with imposed }) := by
  induction size : request.type.nodes using Nat.strongRecOn generalizing request imposed with
  | ind size ih =>
    subst size
    rw [typeOf_eq, typeOf_eq]
    have arguments : shownArguments context { request with imposed } =
      shownArguments context request := rfl
    have written : context.writtenForm { request with imposed } = context.writtenForm request := rfl
    rw [arguments, written]
    refine .bind_same _ fun arguments _ => ?_
    cases found : context.writtenForm request with
    | error e => exact .fails e
    | ok form =>
      change Alike _ (shownBelow context request arguments form)
        (shownBelow context { request with imposed } arguments form)
      cases form with
      | nullable inner =>
        exact ih _ (context.nodes_inside_lt found rfl) (request.forNullable inner) _
          (nullable _ _ related) rfl
      | projected variance inner =>
        exact ih _ (context.nodes_inside_lt found rfl) (request.forProjected inner) _ related rfl
      | aliased named inner =>
        exact ih _ (context.nodes_inside_lt found rfl) (request.forAliased inner) _ related rfl
      | classRef | parameter | primitive | javaObject | void | star | dynamic | unresolved
      | nonNull =>
        exact forms request imposed related arguments _

/-- **Imposed nullability is merged once**, and changes nothing else. -/
theorem alike_imposing (n : Nullability) (request : TypeRequest) :
    Alike (ShownType.Imposed context n) (typeOf context request)
      (typeOf context (request.imposing n)) := by
  refine alike_of_forms (P := fun a b => b = some (n.or a)) ?_ ?_ request _ rfl
  · rintro a _ rfl
    rw [Nullability.or_left_comm]
  · rintro request _ rfl arguments form
    refine (alike_shownForm_imposed request _ arguments form).imp fun shown shown' same => ?_
    have merged := request.nullability_imposing n context.dialect form
    exact ⟨same.eq_withFace, by rw [same.nullability', same.nullability]; exact merged,
      same.dialect, same.annotations, fun kotlin => same.annotations_eq (.inl kotlin)⟩

/-- **Whatever is imposed instead** is seen at the face only, and not at all if it comes to the same
nullability. -/
theorem alike_imposed (request : TypeRequest) (imposed : Option Nullability) :
    Alike (ShownType.SameButFace context) (typeOf context request)
      (typeOf context { request with imposed }) :=
  alike_of_forms (P := fun _ _ => True) (fun _ _ _ => trivial)
    (fun request imposed _ arguments form =>
      (alike_shownForm_imposed request imposed arguments form).imp
        fun _ _ same => same.toSameButFace)
    request imposed trivial

end

/-- Types come to what they come to without a memo. -/
theorem renderType_run (context : Context) (request : TypeRequest) {memo : Memo}
    (exact : memo.Exact) :
    ((renderType context request : Program ShownType).run memo).1 = typeOf context request := by
  have outcomes := (Account.outcomes context.dialect).renderType request
  have follows := (Account.follows context.dialect).renderType request
  exact (Program.run_eq follows outcomes exact).1

/-- **Imposed nullability is merged exactly once and touches nothing else.** A type on which
nullability is imposed fails as it does where nothing is imposed. If it is shown, its nullability
is merged with what is imposed, and nothing else changes but nullability annotations. A memo has
no part in it. -/
theorem imposed_once (context : Context) (request : TypeRequest) (n : Nullability) :
    Alike (ShownType.Imposed context n) (typeOf context { request with imposed := none })
        (typeOf context { request with imposed := some n }) ∧
      ∀ memo memo' : Memo, memo.Exact → memo'.Exact →
        Alike (ShownType.Imposed context n)
          ((renderType context { request with imposed := none } : Program _).run memo).1
          ((renderType context { request with imposed := some n } : Program _).run memo').1 := by
  have alike : Alike (ShownType.Imposed context n)
      (typeOf context { request with imposed := none })
      (typeOf context { request with imposed := some n }) :=
    alike_imposing n { request with imposed := none }
  refine ⟨alike, fun memo memo' exact exact' => ?_⟩
  rw [renderType_run context _ exact, renderType_run context _ exact']
  exact alike

/-- The request for a string of Java sources, with an annotation. -/
def annotatedString : TypeRequest where
  type := .classRef
    { identity := .ofClass "java.lang" "String",
      annotations := .insert ∅ "jvmMain" [.ofClass "androidx.annotation" "StringRes"] } []
  fromJava := true
  sourceSet := ⟨.jvm, "jvmMain"⟩

/-- Imposed on `annotatedString`, non-null is shown behind its annotation. -/
theorem imposed_once_annotatedString :
    let context := Context.reference .java {}
    let plain := typeOf context { annotatedString with imposed := none }
    let imposed := typeOf context { annotatedString with imposed := some .annotatedNonNull }
    ShownType.text <$> plain = .ok "@StringRes String" ∧
      ShownType.text <$> imposed = .ok "@StringRes @NonNull String" ∧
      (∃ shown shown', plain = .ok shown ∧ imposed = .ok shown' ∧
        shown.Imposed context .annotatedNonNull shown' ∧
          shown'.nullability = Nullability.unannotated.or (some .annotatedNonNull)) ∧
      Memo.empty.Exact ∧ Alike (ShownType.Imposed context .annotatedNonNull)
        ((renderType context { annotatedString with imposed := none } : Program _).run .empty).1
        ((renderType context { annotatedString with imposed := some .annotatedNonNull } :
          Program _).run .empty).1 := by
  intro context plain imposed
  obtain ⟨alike, remembered⟩ := imposed_once context annotatedString .annotatedNonNull
  refine ⟨by decide +kernel, by decide +kernel, ?_, .empty, remembered _ _ .empty .empty⟩
  have unannotated : ShownType.nullability <$> plain = .ok .unannotated := by decide +kernel
  obtain ⟨shown, found, stated⟩ := map_eq_ok.mp unannotated
  rw [show typeOf context { annotatedString with imposed := none } = .ok shown from found] at alike
  generalize found' : typeOf context { annotatedString with imposed := some .annotatedNonNull } =
    outcome at alike
  cases alike with
  | succeeds merged => exact ⟨shown, _, found, found', merged, stated ▸ merged.nullability⟩

end Diglot
