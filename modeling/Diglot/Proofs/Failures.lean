import Diglot.Proofs.KotlinAliases

/-!
# How showing a type can fail

A type is shown in steps, and fails as the first of them that does: after the type arguments come
the written form, the annotations, the parts of a function type, and the name. If the steps fail
only in certain ways for all types with some property, which arguments and written forms have as
well, then showing such a type fails only in these ways.

* `FailsOnly` — what may be said of a failure, for two steps and for lists.
* `Context.StepsFail` — how each step may fail.
* `typeOf_failsOnly` — how showing a type fails.
-/

namespace Diglot

/-- Whatever failure there is, is of a certain kind. -/
def FailsOnly {α : Type} (P : RenderError → Prop) (outcome : Except RenderError α) : Prop :=
  ∀ e, outcome = .error e → P e

namespace FailsOnly

variable {P : RenderError → Prop} {α β : Type}

/-- A result is no failure. -/
theorem ok (a : α) : FailsOnly P (.ok a) := by
  rintro e ⟨⟩

/-- In two steps, either may fail. -/
theorem bind {first : Except RenderError α} {next : α → Except RenderError β}
    (here : FailsOnly P first) (there : ∀ a, first = .ok a → FailsOnly P (next a)) :
    FailsOnly P (first >>= next) := by
  intro e fails
  cases found : first with
  | error failure =>
    rw [found] at fails
    cases fails
    exact here _ found
  | ok a =>
    rw [found] at fails
    exact there a found e fails

/-- What fails in a list is one of its members. -/
theorem mapM' {list : List α} {f : α → Except RenderError β}
    (each : ∀ a ∈ list, FailsOnly P (f a)) : FailsOnly P (list.mapM' f) := by
  intro e fails
  obtain ⟨a, mem, fails⟩ := exists_of_mapM'_eq_error fails
  exact each a mem e fails

/-- What fails in a value that may be absent is the value. -/
theorem mapM {option : Option α} {f : α → Except RenderError β}
    (each : ∀ a ∈ option, FailsOnly P (f a)) : FailsOnly P (option.mapM f) := by
  cases option with
  | none => exact ok none
  | some a =>
    rw [Option.mapM_some, map_eq_pure_bind]
    exact .bind (each a rfl) fun b _ => ok (some b)

end FailsOnly

/-- A nullability annotation that the configuration does not accept is to blame. -/
def Context.Refuses (context : Context) (e : RenderError) : Prop :=
  ∃ a : Annotation, a.isNullability = true ∧
    context.config.isValidNullability a.fullName = false ∧ e = .invalidNullability a.fullName

/-- Annotations fail only if one of them is not accepted. -/
theorem failsOnly_shownAnnotations {context : Context} {P : RenderError → Prop}
    (refused : ∀ e, context.Refuses e → P e) (annotations : List Annotation)
    (nullability : Nullability) :
    FailsOnly P (context.shownAnnotations annotations nullability) := by
  intro e fails
  simp only [Context.shownAnnotations] at fails
  split at fails
  · rename_i a found
    cases fails
    have blamed := List.find?_some found
    simp only [Bool.and_eq_true, Bool.not_eq_true'] at blamed
    exact refused _ ⟨a, blamed.1, blamed.2, rfl⟩
  · cases fails

/-- **How the steps can fail** in which types are shown that have a certain property. -/
structure Context.StepsFail (context : Context) (P : RenderError → Prop) (Q : TypeUse → Prop) :
    Prop where
  /-- annotations may be refused -/
  annotations : ∀ e, context.Refuses e → P e
  /-- arguments have the property -/
  argument : ∀ type, Q type → ∀ a ∈ type.writtenArguments, Q a
  /-- so has what is inside a wrapper -/
  inside : ∀ type inner, type.inside? = some inner → Q type → Q inner
  /-- types are written after their arguments have been shown -/
  writes : ∀ request arguments, Q request.type →
    Diglot.shownArguments context request = .ok arguments →
      FailsOnly P (context.writtenForm request)
  /-- the written form has the property -/
  written : ∀ request form, Q request.type → context.writtenForm request = .ok form → Q form
  /-- a name and a link are found for what is not a wrapper -/
  typeLink : ∀ form, Q form → form.isWrapper = false → FailsOnly P (context.typeLink "" form)
  /-- Kotlin asks whether the type is a function type -/
  isFunctionType : context.dialect = .kotlin → ∀ form, Q form → form.isWrapper = false →
    FailsOnly P form.isFunctionType
  /-- and takes it apart if it is -/
  lambdaParts : context.dialect = .kotlin → ∀ form, Q form → form.isFunctionType = .ok true →
    FailsOnly P form.lambdaParts

section

variable {context : Context} {P : RenderError → Prop} {Q : TypeUse → Prop}

/-- Parts of a function type fail as types do. -/
theorem failsOnly_lambdaOf (steps : context.StepsFail P Q) {request : TypeRequest}
    {form : TypeUse} (isFunction : form.isFunctionType = .ok true) {parts : LambdaParts}
    (split : form.lambdaParts = .ok parts)
    (types : ∀ inner : TypeRequest, inner.type.nodes < form.nodes →
      inner.type ∈ form.writtenArguments → FailsOnly P (typeOf context inner)) :
    FailsOnly P (lambdaOf context request form parts) := by
  obtain ⟨memReceiver, memParameter, memReturn⟩ := TypeUse.mem_writtenArguments_of_lambdaParts split
  obtain ⟨smallReceiver, smallParameter, smallReturn⟩ := TypeUse.nodes_lambdaParts_lt split
  have annotations := failsOnly_shownAnnotations steps.annotations
  refine .bind (.mapM fun type mem => types _ (smallReceiver type mem) (memReceiver type mem))
    fun receiver _ => ?_
  refine .bind (.mapM' fun type mem => ?_) fun parameters _ => ?_
  · refine .bind (types _ (smallParameter type mem) (memParameter type mem)) fun shown _ => ?_
    rw [attempt_eq]
    exact .bind (annotations _ _) fun annotations _ => .ok _
  refine .bind (types _ smallReturn memReturn) fun returnType _ => ?_
  refine .bind ?_ fun isSuspend _ => .bind (annotations _ _) fun annotations _ => .ok _
  -- the question has been answered before
  intro e fails
  rw [TypeUse.isFunctionType, fails] at isFunction
  cases isFunction

/-- What is not a wrapper fails as its parts do, or for lack of a name. -/
theorem failsOnly_shownForm (steps : context.StepsFail P Q) {request : TypeRequest}
    {arguments : List ShownType} {form : TypeUse} (formed : Q form) (leaf : form.isWrapper = false)
    (types : ∀ inner : TypeRequest, inner.type.nodes < form.nodes →
      inner.type ∈ form.writtenArguments → FailsOnly P (typeOf context inner)) :
    FailsOnly P (shownForm context request arguments form) := by
  have annotations := failsOnly_shownAnnotations steps.annotations
  have link := steps.typeLink form formed leaf
  unfold shownForm renderFormBy
  simp only [attempt_eq, renderLambdaBy_eq]
  refine .bind (annotations _ _) fun annotations _ => ?_
  split
  · exact .bind link fun link _ => .ok _
  · rename_i kotlin
    refine .bind (steps.isFunctionType kotlin form formed leaf) fun isFunction function => ?_
    split
    · rename_i isTrue
      rw [isTrue] at function
      exact .bind (steps.lambdaParts kotlin form formed function) fun parts split =>
        failsOnly_lambdaOf steps function split types
    · refine .bind link fun link _ => ?_
      split <;> exact .ok _

/-- **Showing a type fails as one of its steps does.** -/
theorem typeOf_failsOnly (steps : context.StepsFail P Q) (request : TypeRequest)
    (type : Q request.type) : FailsOnly P (typeOf context request) := by
  induction size : request.type.nodes using Nat.strongRecOn generalizing request with
  | ind size ih =>
    subst size
    rw [typeOf_eq]
    refine .bind (.mapM' fun argument mem => ?_) fun arguments shown => ?_
    · exact ih _ (TypeUse.nodes_lt_of_mem_writtenArguments mem) (request.forArgument argument)
        (steps.argument _ type argument mem) rfl
    refine .bind (steps.writes request arguments type shown) fun form written => ?_
    have le := context.nodes_writtenForm_le written
    have formed := steps.written request form type written
    by_cases leaf : form.isWrapper = false
    · rw [shownBelow_of_not_isWrapper leaf]
      exact failsOnly_shownForm steps formed leaf fun inner lt mem =>
        ih _ (Nat.lt_of_lt_of_le lt le) inner (steps.argument _ formed _ mem) rfl
    · cases form with
      | nullable inner =>
        exact ih _ le (request.forNullable inner) (steps.inside _ _ rfl formed) rfl
      | projected variance inner =>
        exact ih _ le (request.forProjected inner) (steps.inside _ _ rfl formed) rfl
      | aliased _ inner =>
        have lt := Nat.lt_of_lt_of_le (TypeUse.nodes_lt_of_inside? rfl) le
        exact ih _ lt (request.forAliased inner) (steps.inside _ _ rfl formed) rfl
      | classRef | parameter | primitive | javaObject | void | star | dynamic | unresolved
      | nonNull => exact absurd rfl leaf

end
end Diglot
