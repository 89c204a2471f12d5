import Diglot.Proofs.ImposedNullability

/-!
# What a parameter reads of other source sets

A parameter is shown in one source set, and its annotations and default values are kept for all of
them. Two parameters are compared that differ in other source sets only.

* `Parameter.AgreeAt` — such parameters.
* `parameterOf_kotlin_of_agreeAt` — Kotlin shows them the same.
* `alike_parameterOf_java` — Java does not: it imposes on the type what the annotations of the
  first source set state, whichever source set is shown.
* `other_source_sets` — exactly how far what is shown depends on other source sets.
-/

namespace Diglot

open Annotation

namespace Nullability

/-- What is stated by two lists is nullable if one of them says so. -/
theorem ofAnnotations?_append (annotations more : List Annotation) :
    ofAnnotations? (annotations ++ more) =
      if ofAnnotations? annotations = some annotatedNullable then some annotatedNullable
      else if ofAnnotations? more = some annotatedNullable then some annotatedNullable
      else (ofAnnotations? annotations).or (ofAnnotations? more) := by
  unfold ofAnnotations?
  rw [List.any_append, List.any_append]
  cases annotations.any marksNullable <;> cases more.any marksNullable <;>
    cases annotations.any marksNonNull <;> cases more.any marksNonNull <;> rfl

end Nullability

namespace Parameter

/-- **Parameters that differ in other source sets only.** -/
structure AgreeAt (sourceSet : SourceSet) (p q : Parameter) : Prop where
  /-- they have the same name, if any -/
  name : q.name = p.name
  /-- the same type -/
  type : q.type = p.type
  /-- the same modifiers -/
  modifiers : q.modifiers = p.modifiers
  /-- the same annotations in the source set -/
  annotations : q.annotations.get? sourceSet.name = p.annotations.get? sourceSet.name
  /-- and the same default value there -/
  default : q.default.get? sourceSet.name = p.default.get? sourceSet.name

/-- The request for the type of a parameter, with nothing imposed on it. -/
def plainRequest (parameter : Parameter) (fromJava : Bool) (sourceSet : SourceSet) : TypeRequest :=
  { type := parameter.type, fromJava, sourceSet,
    carried := onType (parameter.annotations.at sourceSet.name) }

/-- What Java imposes on the type of a parameter. -/
def impliedInJava (parameter : Parameter) (fromJava : Bool) : Nullability :=
  parameter.type.nullability .java (some fromJava) parameter.annotations.leading

variable {p q : Parameter} {s : SourceSet}

theorem AgreeAt.annotationsAt (agree : p.AgreeAt s q) :
    q.annotations.at s.name = p.annotations.at s.name := by
  rw [SourcedAnnotations.at, agree.annotations]
  rfl

theorem AgreeAt.plainRequest {fromJava : Bool} (agree : p.AgreeAt s q) :
    q.plainRequest fromJava s = p.plainRequest fromJava s := by
  rw [Parameter.plainRequest, agree.type, agree.annotationsAt]
  rfl

/-- The annotations of the first source set count for what they state. -/
theorem impliedInJava_congr {fromJava : Bool} (type : q.type = p.type)
    (leading : Nullability.ofAnnotations? q.annotations.leading =
      Nullability.ofAnnotations? p.annotations.leading) :
    q.impliedInJava fromJava = p.impliedInJava fromJava := by
  have stated : ∀ type : TypeUse,
      type.statedNullability (some fromJava) q.annotations.leading =
        type.statedNullability (some fromJava) p.annotations.leading := by
    intro type
    rw [TypeUse.statedNullability, TypeUse.statedNullability,
      Nullability.ofAnnotations?_append, leading, ← Nullability.ofAnnotations?_append]
  rw [impliedInJava, impliedInJava, type]
  cases p.type with
  | classRef | parameter | primitive | javaObject | unresolved =>
    rw [TypeUse.nullability, TypeUse.nullability, stated]
  | void | star | dynamic | nullable | nonNull | projected | aliased => rfl

end Parameter

section

variable {context : Context} {p q : Parameter} {s : SourceSet} (inSummary fromJava : Bool)

/-- Parameters come to what they come to without a memo. -/
theorem renderParameter_run (context : Context) (p : Parameter) (s : SourceSet) {memo : Memo}
    (exact : memo.Exact) :
    ((renderParameter context p inSummary fromJava s : Program ShownParameter).run memo).1 =
      parameterOf context p inSummary fromJava s := by
  have outcomes := (Account.outcomes context.dialect).renderParameter p inSummary fromJava s
  have follows := (Account.follows context.dialect).renderParameter p inSummary fromJava s
  exact (Program.run_eq follows outcomes exact).1

/-- **Kotlin reads the source set that it shows.** -/
theorem parameterOf_kotlin_of_agreeAt (kotlin : context.dialect = .kotlin)
    (agree : p.AgreeAt s q) :
    parameterOf context q inSummary fromJava s = parameterOf context p inSummary fromJava s := by
  have annotations := agree.annotationsAt
  obtain ⟨name, type, modifiers, -, default⟩ := agree
  unfold parameterOf renderParameter
  simp only [kotlin, name, modifiers, annotations, Parameter.shownDefault, default]
  rw [type]

/-- The steps in which Java shows a parameter. -/
theorem parameterOf_java (java : context.dialect = .java) :
    parameterOf context p inSummary fromJava s =
      (Modifier.displayed (context.parameterModifiers fromJava) p.modifiers).bind fun modifiers =>
        (typeOf context
          ((p.plainRequest fromJava s).imposing (p.impliedInJava fromJava))).bind fun type =>
        (context.shownAnnotations (onDeclaration (p.annotations.at s.name))
          .unimportant).bind fun annotations =>
        .ok ⟨p.name.getD receiverName, type, none, modifiers, annotations, .java⟩ := by
  unfold parameterOf renderParameter
  simp only [java, attempt_eq]
  rfl

/-- **What Java shows of two parameters** of which the types differ in what is imposed on them. -/
structure ShownParameter.SameButImposed (context : Context) (plain : ShownType)
    (n n' : Nullability) (shown shown' : ShownParameter) : Prop where
  /-- nothing but the type differs -/
  eq_withType : shown' = { shown with type := shown'.type }
  /-- the first nullability is imposed on the type of the first -/
  type : plain.Imposed context n shown.type
  /-- and the second on that of the second -/
  type' : plain.Imposed context n' shown'.type
  /-- nothing differs at all exactly if they are merged to the same -/
  eq_iff : shown' = shown ↔ plain.nullability.or (some n') = plain.nullability.or (some n)

/-- Two nullabilities that are imposed on one type. -/
theorem alike_typeOf_imposing (request : TypeRequest) (n n' : Nullability) :
    Alike (fun shown shown' => ∃ plain, typeOf context request = .ok plain ∧
        plain.Imposed context n shown ∧ plain.Imposed context n' shown' ∧
          shown.SameButFace context shown')
      (typeOf context (request.imposing n)) (typeOf context (request.imposing n')) := by
  have first : Alike (ShownType.Imposed context n) (typeOf context request) _ :=
    alike_imposing n request
  have second : Alike (ShownType.Imposed context n') (typeOf context request) _ :=
    alike_imposing n' request
  have both : Alike (ShownType.SameButFace context) (typeOf context (request.imposing n))
      (typeOf context (request.imposing n')) := alike_imposed _ _
  generalize typeOf context request = plain at first second ⊢
  generalize typeOf context (request.imposing n) = imposed at first both ⊢
  generalize typeOf context (request.imposing n') = imposed' at second both ⊢
  cases first with
  | fails e =>
    cases both
    exact .fails e
  | succeeds merged =>
    cases second with
    | succeeds merged' =>
      cases both with
      | succeeds same => exact .succeeds ⟨_, rfl, merged, merged', same⟩

/-- **Java imposes what the first source set states**, and reads nothing else of other source
sets. -/
theorem alike_parameterOf_java (java : context.dialect = .java) (agree : p.AgreeAt s q) :
    Alike (fun shown shown' => ∃ plain, typeOf context (p.plainRequest fromJava s) = .ok plain ∧
        shown.SameButImposed context plain (p.impliedInJava fromJava) (q.impliedInJava fromJava)
          shown')
      (parameterOf context p inSummary fromJava s)
      (parameterOf context q inSummary fromJava s) := by
  rw [parameterOf_java inSummary fromJava java, parameterOf_java inSummary fromJava java,
    agree.plainRequest, agree.name, agree.modifiers, agree.annotationsAt]
  refine .bind_same _ fun modifiers _ => ?_
  refine (alike_typeOf_imposing _ _ _).bind fun shown shown' => ?_
  rintro ⟨plain, found, merged, merged', same⟩
  refine .bind_same _ fun annotations _ => ?_
  refine .succeeds ⟨plain, found, rfl, merged, merged', ?_⟩
  rw [← merged.nullability, ← merged'.nullability]
  constructor
  · exact congrArg fun parameter : ShownParameter => parameter.type.nullability
  · intro nullability
    rw [same.eq nullability]

/-- **Java reads the source set that it shows** as well, if the first source sets state the
same. -/
theorem parameterOf_java_of_leading (java : context.dialect = .java) (agree : p.AgreeAt s q)
    (leading : Nullability.ofAnnotations? q.annotations.leading =
      Nullability.ofAnnotations? p.annotations.leading) :
    parameterOf context q inSummary fromJava s = parameterOf context p inSummary fromJava s := by
  rw [parameterOf_java inSummary fromJava java, parameterOf_java inSummary fromJava java,
    agree.plainRequest, agree.name, agree.modifiers, agree.annotationsAt,
    Parameter.impliedInJava_congr agree.type leading]

/-- **What a parameter reads of other source sets.** Two parameters differ only in annotations and
default values of other source sets than the one that is shown. Kotlin shows them the same. Java
imposes on their types what the annotations of their first source sets state: both fail in the same
way, or they are shown with one and the same type on which the two nullabilities are imposed, and
are the same exactly if these are merged to the same with that of the type; so they are the same if
their first source sets state the same. Whatever is remembered makes no difference. -/
theorem other_source_sets (context : Context) (agree : p.AgreeAt s q) :
    (context.dialect = .kotlin →
      parameterOf context q inSummary fromJava s = parameterOf context p inSummary fromJava s) ∧
    (context.dialect = .java →
      Alike (fun shown shown' => ∃ plain, typeOf context (p.plainRequest fromJava s) = .ok plain ∧
          shown.SameButImposed context plain (p.impliedInJava fromJava)
            (q.impliedInJava fromJava) shown')
        (parameterOf context p inSummary fromJava s)
        (parameterOf context q inSummary fromJava s)) ∧
    (Nullability.ofAnnotations? q.annotations.leading =
        Nullability.ofAnnotations? p.annotations.leading →
      parameterOf context q inSummary fromJava s = parameterOf context p inSummary fromJava s) ∧
    ∀ memo : Memo, memo.Exact → ∀ r ∈ [p, q],
      ((renderParameter context r inSummary fromJava s : Program _).run memo).1 =
        parameterOf context r inSummary fromJava s := by
  refine ⟨fun kotlin => parameterOf_kotlin_of_agreeAt inSummary fromJava kotlin agree,
    fun java => alike_parameterOf_java inSummary fromJava java agree, fun leading => ?_,
    fun memo exact r _ => renderParameter_run inSummary fromJava context r s exact⟩
  cases dialect : context.dialect with
  | kotlin => exact parameterOf_kotlin_of_agreeAt inSummary fromJava dialect agree
  | java => exact parameterOf_java_of_leading inSummary fromJava dialect agree leading

end

/-- A parameter of which nothing is said. -/
def labelParameter : Parameter where
  name := some "label"
  type := .classRef { identity := .ofClass "kotlin" "String" } []

/-- `labelParameter` with an annotation in another source set. -/
def labelOnAndroid : Parameter :=
  { labelParameter with
    annotations := .insert ∅ "androidMain" [.ofClass "androidx.annotation" "Nullable"] }

/-- In `jvmMain` Kotlin shows `labelOnAndroid` as `labelParameter`, and Java shows it as
nullable. -/
theorem other_source_sets_labelOnAndroid :
    let s : SourceSet := ⟨.jvm, "jvmMain"⟩
    let kotlin := Context.reference .kotlin {}
    let java := Context.reference .java {}
    labelParameter.AgreeAt s labelOnAndroid ∧
      parameterOf kotlin labelOnAndroid false false s =
        parameterOf kotlin labelParameter false false s ∧
      ∃ shown shown', parameterOf java labelParameter false false s = .ok shown ∧
        parameterOf java labelOnAndroid false false s = .ok shown' ∧
        shown.text = "@NonNull String label" ∧ shown'.text = "String label" ∧
        shown' = { shown with type := shown'.type } ∧
        shown'.type.nullability = .annotatedNullable := by
  intro s kotlin java
  have agree : labelParameter.AgreeAt s labelOnAndroid := ⟨rfl, rfl, rfl, rfl, rfl⟩
  obtain ⟨same, -⟩ := other_source_sets false false kotlin agree
  obtain ⟨-, alike, -⟩ := other_source_sets false false java agree
  have text : ShownParameter.text <$> parameterOf java labelParameter false false s =
      .ok "@NonNull String label" := by decide +kernel
  have text' : ShownParameter.text <$> parameterOf java labelOnAndroid false false s =
      .ok "String label" := by decide +kernel
  have unstated : ShownType.nullability <$> typeOf java (labelParameter.plainRequest false s) =
      .ok .kotlinDefault := by decide +kernel
  obtain ⟨shown, found, text⟩ := map_eq_ok.mp text
  obtain ⟨shown', found', text'⟩ := map_eq_ok.mp text'
  have alike := alike rfl
  rw [found, found'] at alike
  cases alike with
  | succeeds related =>
    obtain ⟨plain, plainFound, differ⟩ := related
    rw [plainFound] at unstated
    have unstated : plain.nullability = .kotlinDefault := Except.ok.inj unstated
    refine ⟨agree, same rfl, shown, shown', found, found', text, text', differ.eq_withType, ?_⟩
    rw [differ.type'.nullability, unstated]
    rfl

end Diglot
