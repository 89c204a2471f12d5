import Diglot.Proofs.JavaClasses

/-!
# What holds everywhere in a type

`TypeUse.everywhere` runs a test on a type and on all types in it. What it says of a type is what it
says of the type itself, of its type arguments, and of what is inside a wrapper.

* `everywhere_iff`, `everywhere_imp` — laws of the traversal.
* `everywhere_iff_occursIn` — it finds the types that occur in a type (`TypeUse.OccursIn`).
* `everywhere_toJava` — a test that Java forms pass holds everywhere in a Java form.
-/

namespace Diglot.TypeUse

mutual

/-- Whether a test succeeds on the type and on all types in it, at every depth. What is written
for an alias does not count, only what the alias stands for. -/
def everywhere (p : TypeUse → Bool) : TypeUse → Bool
  | classRef head arguments => p (classRef head arguments) && everywhereList p arguments
  | nullable inner => p (nullable inner) && inner.everywhere p
  | nonNull inner => p (nonNull inner) && inner.everywhere p
  | projected variance inner => p (projected variance inner) && inner.everywhere p
  | aliased named inner => p (aliased named inner) && inner.everywhere p
  | other => p other

/-- Whether the test succeeds everywhere in the types of a list. -/
def everywhereList (p : TypeUse → Bool) : List TypeUse → Bool
  | [] => true
  | first :: rest => first.everywhere p && everywhereList p rest

end

variable {p q r : TypeUse → Bool}

theorem everywhereList_iff {types : List TypeUse} :
    everywhereList p types = true ↔ ∀ type ∈ types, type.everywhere p = true := by
  induction types with
  | nil => simp [everywhereList]
  | cons first rest ih => simp [everywhereList, ih]

theorem everywhere_classRef_iff {head : ClassHead} {arguments : List TypeUse} :
    (classRef head arguments).everywhere p = true ↔
      p (classRef head arguments) = true ∧ ∀ a ∈ arguments, a.everywhere p = true := by
  rw [everywhere, Bool.and_eq_true, everywhereList_iff]

/-- What holds everywhere holds of the type itself. -/
theorem everywhere_self {type : TypeUse} (all : type.everywhere p = true) : p type = true := by
  cases type <;> simp_all [everywhere]

/-- What holds everywhere in a wrapper holds everywhere inside of it. -/
theorem everywhere_inside {type inner : TypeUse} (inside : type.inside? = some inner)
    (all : type.everywhere p = true) : inner.everywhere p = true := by
  cases type <;> cases inside <;> simp_all [everywhere]

/-- What holds everywhere in a type holds everywhere in its type arguments. -/
theorem everywhere_of_mem_writtenArguments (type : TypeUse) (all : type.everywhere p = true) :
    ∀ a ∈ type.writtenArguments, a.everywhere p = true := by
  refine of_mem_writtenArguments (P := fun type => type.everywhere p = true) ?_ ?_ type all
  · intro type inner inside
    exact everywhere_inside inside
  · intro head arguments all
    exact (everywhere_classRef_iff.mp all).2

/-- **A test succeeds everywhere in a type** exactly if it does on the type, in its type arguments
and inside of a wrapper. -/
theorem everywhere_iff (type : TypeUse) : type.everywhere p = true ↔
    p type = true ∧ (∀ a ∈ type.writtenArguments, a.everywhere p = true) ∧
      ∀ inner, type.inside? = some inner → inner.everywhere p = true := by
  constructor
  · intro all
    exact ⟨everywhere_self all, everywhere_of_mem_writtenArguments type all,
      fun inner inside => everywhere_inside inside all⟩
  · rintro ⟨here, arguments, inside⟩
    cases type with
    | classRef head list => exact everywhere_classRef_iff.mpr ⟨here, arguments⟩
    | nullable inner | nonNull inner | projected _ inner | aliased _ inner =>
      rw [everywhere, here, inside inner rfl]
      rfl
    | parameter | primitive | javaObject | void | star | dynamic | unresolved => exact here

/-- What follows from two tests holds everywhere where both succeed everywhere. -/
theorem everywhere_imp (follows : ∀ node, p node = true → q node = true → r node = true)
    (type : TypeUse) : type.everywhere p = true → type.everywhere q = true →
      type.everywhere r = true := by
  induction type using induct_inside with
  | step type arguments inside =>
    rw [everywhere_iff (p := p), everywhere_iff (p := q), everywhere_iff (p := r)]
    rintro ⟨p, pArguments, pInside⟩ ⟨q, qArguments, qInside⟩
    refine ⟨follows type p q, fun a mem => ?_, fun inner eq => ?_⟩
    · exact arguments a mem (pArguments a mem) (qArguments a mem)
    · exact inside inner eq (pInside inner eq) (qInside inner eq)

/-- What holds everywhere holds below `T & Any`. -/
theorem everywhere_withoutNonNull : ∀ type : TypeUse,
    type.everywhere p = true → type.withoutNonNull.everywhere p = true
  | nonNull inner, all => everywhere_withoutNonNull inner (everywhere_inside rfl all)
  | classRef .., all | parameter _, all | primitive _, all | javaObject _, all | void, all
  | star, all | dynamic, all | unresolved _, all | nullable _, all | projected .., all
  | aliased .., all => all

/-! ## Occurrences -/

/-- A type occurs in another one: it is the type itself, or occurs in a type argument or inside of
a wrapper. What is written for an alias does not count. -/
inductive OccursIn (part : TypeUse) : TypeUse → Prop where
  /-- the whole type -/
  | self : OccursIn part part
  /-- in a type argument -/
  | argument {head : ClassHead} {arguments : List TypeUse} {a : TypeUse} (mem : a ∈ arguments)
    (occurs : OccursIn part a) : OccursIn part (classRef head arguments)
  /-- inside of a wrapper -/
  | inside {outer inner : TypeUse} (inside : outer.inside? = some inner)
    (occurs : OccursIn part inner) : OccursIn part outer

/-- **What holds everywhere** holds of everything that occurs. -/
theorem everywhere_iff_occursIn (type : TypeUse) :
    type.everywhere p = true ↔ ∀ part : TypeUse, part.OccursIn type → p part = true := by
  constructor
  · intro all part occurs
    induction occurs with
    | self => exact everywhere_self all
    | argument mem _ ih => exact ih ((everywhere_classRef_iff.mp all).2 _ mem)
    | inside inside _ ih => exact ih (everywhere_inside inside all)
  · intro all
    induction type using induct_inside with
    | step type ofArgument below =>
      refine (everywhere_iff type).mpr ⟨all type .self, fun a mem => ?_, fun inner inside => ?_⟩
      · refine ofArgument a mem ?_
        refine of_mem_writtenArguments
          (P := fun type => ∀ part : TypeUse, part.OccursIn type → p part = true) ?_ ?_ type all
          a mem
        · intro type inner inside all part occurs
          exact all part (.inside inside occurs)
        · intro head arguments all a mem part occurs
          exact all part (.argument mem occurs)
      · exact below inner inside fun part occurs => all part (.inside inside occurs)

/-- What does not hold everywhere does not hold of something that occurs. -/
theorem everywhere_eq_false_iff (type : TypeUse) :
    type.everywhere p = false ↔ ∃ part : TypeUse, part.OccursIn type ∧ p part = false := by
  rw [← Bool.not_eq_true, everywhere_iff_occursIn]
  simp only [Classical.not_forall, Bool.not_eq_true, exists_prop]

/-! ## In the Java form -/

/-- Tests that Java forms pass where the types that they are made from do. -/
structure KeptInJava (p : TypeUse → Bool) : Prop where
  /-- a primitive or an array -/
  primitive : ∀ name, p (primitive name) = true
  /-- `Unit` that is returned, or that may be null -/
  void : p void = true
  /-- another class with other arguments -/
  classRef : ∀ {head head' arguments arguments'}, p (classRef head arguments) = true →
    p (classRef head' arguments') = true
  /-- below a wrapper there is the Java form -/
  nullable : ∀ {inner inner'}, p (nullable inner) = true → p (nullable inner') = true
  /-- so it is below variance -/
  projected : ∀ {variance inner inner'}, p (projected variance inner) = true →
    p (projected variance inner') = true
  /-- and below an alias -/
  aliased : ∀ {named inner inner'}, p (aliased named inner) = true →
    p (aliased named inner') = true
  /-- and below `T & Any` -/
  nonNull : ∀ {inner form position}, inner.toJava position = .ok form →
    p (nonNull inner) = true → p (nonNull form) = true

/-- What Java has for a class passes the test. -/
theorem everywhere_classToJava (kept : KeptInJava p) {position : JavaPosition} {head : ClassHead}
    {arguments rewritten : List TypeUse} {form : TypeUse}
    (written : classToJava position head arguments rewritten = .ok form)
    (all : (classRef head arguments).everywhere p = true)
    (rest : ∀ a ∈ rewritten, a.everywhere p = true) : form.everywhere p = true := by
  obtain ⟨here, given⟩ := everywhere_classRef_iff.mp all
  cases ClassToJava.of_classToJava written with
  | void => exact kept.void
  | boxed => exact everywhere_classRef_iff.mpr ⟨kept.classRef here, given⟩
  | unboxed | primitiveArray | array => exact kept.primitive _
  | renamed => exact everywhere_classRef_iff.mpr ⟨kept.classRef here, rest⟩

mutual

/-- **What is kept in Java** holds everywhere in a Java form. -/
theorem everywhere_toJava (kept : KeptInJava p) :
    ∀ (type : TypeUse) {position : JavaPosition} {form : TypeUse},
      type.everywhere p = true → type.toJava position = .ok form → form.everywhere p = true
  | classRef head arguments, position, form, all, written => by
    rw [toJava] at written
    obtain ⟨rewritten, rest, written⟩ := bind_eq_ok.mp written
    have given := (everywhere_classRef_iff.mp all).2
    exact everywhere_classToJava kept written all
      (everywhere_toJavaList kept arguments given rest)
  | nullable inner, position, form, all, written => by
    rw [toJava] at written
    split at written
    · cases written
      exact kept.void
    · obtain ⟨inside, rest, written⟩ := bind_eq_ok.mp written
      have below := everywhere_toJava kept inner (everywhere_inside rfl all) rest
      split at written
      · cases written
        exact kept.void
      · cases written
        rw [everywhere, kept.nullable (everywhere_self all), below]
        rfl
  | projected variance inner, position, form, all, written => by
    rw [toJava] at written
    obtain ⟨inside, rest, written⟩ := bind_eq_ok.mp written
    cases written
    have below := everywhere_toJava kept inner (everywhere_inside rfl all) rest
    rw [everywhere, kept.projected (everywhere_self all), below]
    rfl
  | nonNull inner, position, form, all, written => by
    rw [toJava] at written
    obtain ⟨inside, rest, written⟩ := bind_eq_ok.mp written
    cases written
    have below := everywhere_toJava kept inner (everywhere_inside rfl all) rest
    rw [everywhere, kept.nonNull rest (everywhere_self all), below]
    rfl
  | aliased named inner, position, form, all, written => by
    rw [toJava] at written
    obtain ⟨inside, rest, written⟩ := bind_eq_ok.mp written
    cases written
    have below := everywhere_toJava kept inner (everywhere_inside rfl all) rest
    rw [everywhere, kept.aliased (everywhere_self all), below]
    rfl
  | parameter _, _, _, all, written | primitive _, _, _, all, written
  | javaObject _, _, _, all, written | void, _, _, all, written | star, _, _, all, written
  | dynamic, _, _, all, written | unresolved _, _, _, all, written => by
    cases written
    exact all

theorem everywhere_toJavaList (kept : KeptInJava p) :
    ∀ (types : List TypeUse) {position : JavaPosition} {forms : List TypeUse},
      (∀ type ∈ types, type.everywhere p = true) → toJavaList position types = .ok forms →
        ∀ form ∈ forms, form.everywhere p = true
  | [], _, forms, _, written => by
    cases written
    exact fun form mem => absurd mem (List.not_mem_nil)
  | first :: rest, position, forms, all, written => by
    rw [toJavaList] at written
    obtain ⟨form, firstWritten, written⟩ := bind_eq_ok.mp written
    obtain ⟨others, restWritten, written⟩ := bind_eq_ok.mp written
    cases written
    have here := everywhere_toJava kept first (all first (List.mem_cons_self ..)) firstWritten
    have there := everywhere_toJavaList kept rest
      (fun type mem => all type (List.mem_cons_of_mem _ mem)) restWritten
    intro type mem
    rcases List.mem_cons.mp mem with rfl | mem
    · exact here
    · exact there type mem

end

end Diglot.TypeUse
