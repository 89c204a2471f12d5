import Diglot.Modifier.Display
import Diglot.Outcome
import Mathlib.Data.List.Basic
import Mathlib.Data.List.Induction

/-!
# Which modifiers are displayed, and in which order

Modifiers are displayed after a number of rules have added some and removed others, each of them
looking at what the rules before it have left. This module says what comes of all of them.

* `ModifierContext.Shows` — the modifiers of a display, in terms of those that were reported.
* `Modifier.Precedes` — the order in which modifiers stand.
* `Modifier.mem_displayed` and `Modifier.pairwise_displayed` — a display has these modifiers and
  stands in this order. No other list does (`Modifier.eq_of_pairwise`).
* `Modifier.display_determined` — displays are determined by that, and when there is none.
* `Modifier.default_beside_iff` — where Java marks a member of an interface that is no default
  method.
-/

namespace Diglot

namespace Modifier

variable {m n : Modifier} {modifiers reported : List Modifier}

/-! ## Single rules -/

section

variable {condition : Bool} {k l : Modifier}

@[simp] theorem mem_add : m ∈ add n modifiers ↔ m = n ∨ m ∈ modifiers := by
  unfold add
  split
  · rename_i known
    exact ⟨.inr, fun h => h.elim (fun same => same ▸ List.contains_iff_mem.mp known) id⟩
  · rw [List.mem_append, List.mem_singleton, or_comm]

@[simp] theorem mem_remove : m ∈ remove n modifiers ↔ m ≠ n ∧ m ∈ modifiers := by
  rw [remove, List.mem_filter, decide_eq_true_iff, and_comm]

@[simp] theorem mem_changeIf_add :
    m ∈ changeIf condition (add n) modifiers ↔ (condition = true ∧ m = n) ∨ m ∈ modifiers := by
  cases condition <;> simp [changeIf]

@[simp] theorem mem_changeIf_remove :
    m ∈ changeIf condition (remove n) modifiers ↔
      ¬ (condition = true ∧ m = n) ∧ m ∈ modifiers := by
  cases condition <;> simp [changeIf]

@[simp] theorem mem_changeIf_add_add :
    m ∈ changeIf condition (fun ms => add n (add k ms)) modifiers ↔
      (condition = true ∧ (m = n ∨ m = k)) ∨ m ∈ modifiers := by
  cases condition <;> simp [changeIf, or_assoc]

@[simp] theorem mem_changeIf_remove_remove :
    m ∈ changeIf condition (fun ms => remove n (remove k ms)) modifiers ↔
      ¬ (condition = true ∧ (m = n ∨ m = k)) ∧ m ∈ modifiers := by
  cases condition <;> simp [changeIf, and_assoc]

@[simp] theorem mem_changeIf_exchange :
    m ∈ changeIf condition (fun ms => add n (remove k (remove l ms))) modifiers ↔
      (condition = true ∧ m = n) ∨ ¬ (condition = true ∧ (m = k ∨ m = l)) ∧ m ∈ modifiers := by
  cases condition <;> simp [changeIf, and_assoc]

end

/-- What is reported last is added last. -/
theorem distinct_concat : distinct (modifiers ++ [m]) = add m (distinct modifiers) := by
  rw [distinct, List.foldl_append]
  rfl

@[simp] theorem mem_distinct : m ∈ distinct reported ↔ m ∈ reported := by
  induction reported using List.reverseRecOn with
  | nil => rfl
  | append_singleton before last ih =>
    rw [distinct_concat, mem_add, ih, List.mem_append, List.mem_singleton, or_comm]

@[simp] theorem mem_ordered : m ∈ ordered modifiers ↔ m ∈ modifiers := by
  rw [ordered, List.mem_append, List.mem_filter, List.mem_filter]
  by_cases listed : m ∈ displayOrder
  · simp [listed]
  · simp [listed]

end Modifier

/-! ## Which modifiers are displayed -/

namespace ModifierContext

open Modifier

/-- **The modifiers that Java keeps and adds.** Constants are static and final, members of
companions and packages are static, and members of interfaces are default methods unless they are
abstract. -/
def InJava (context : ModifierContext) (reported : List Modifier) : Modifier → Prop
  | .static =>
    static ∈ reported ∨ const ∈ reported ∨ context.injectStatic ∨ context.inCompanion ∨
      context.inPackage
  | .final =>
    (final ∈ reported ∨ const ∈ reported) ∧
      ¬ (context.isConstructor ∨ context.element = .constructor)
  | .publicAccess => publicAccess ∈ reported ∧ ¬ context.inInterface
  | .defaultMethod => defaultMethod ∈ reported ∨ (context.inInterface ∧ abstractMember ∉ reported)
  | m => m ∈ reported ∧ m ∉ kotlinOnly

/-- Whether the element is a static final field of Java, which Kotlin displays as a constant. -/
def IsConstantField (context : ModifierContext) (reported : List Modifier) : Prop :=
  static ∈ reported ∧ final ∈ reported ∧ context.isProperty ∧ context.fromJava

/-- **The modifiers that Kotlin keeps and adds.** -/
def InKotlin (context : ModifierContext) (reported : List Modifier) : Modifier → Prop
  | .const => const ∈ reported ∨ context.IsConstantField reported
  | .javaStatic =>
    javaStatic ∈ reported ∨
      (static ∈ reported ∧ context.fromJava ∧ ¬ context.IsConstantField reported)
  | .final => final ∈ reported ∧ override ∈ reported ∧ ¬ context.IsConstantField reported
  | .abstractMember => abstractMember ∈ reported ∧ ¬ context.inInterface
  | .publicAccess | .static | .override => False
  | m => m ∈ reported

/-- **The modifiers of a display.** Summaries leave out visibility. -/
def Shows (context : ModifierContext) (reported : List Modifier) (m : Modifier) : Prop :=
  ¬ (context.inSummary ∧ (m = protectedAccess ∨ m = publicAccess)) ∧
    match context.dialect with
    | .java => context.InJava reported m
    | .kotlin => context.InKotlin reported m

variable {context : ModifierContext} {reported reported' : List Modifier}

theorem shows_of_java (java : context.dialect = .java) {m : Modifier} :
    context.Shows reported m ↔ ¬ (context.inSummary ∧ (m = protectedAccess ∨ m = publicAccess)) ∧
      context.InJava reported m := by
  rw [Shows, java]

theorem shows_of_kotlin (kotlin : context.dialect = .kotlin) {m : Modifier} :
    context.Shows reported m ↔ ¬ (context.inSummary ∧ (m = protectedAccess ∨ m = publicAccess)) ∧
      context.InKotlin reported m := by
  rw [Shows, kotlin]

/-- How often modifiers are reported, and in which order, does not matter to what a display
shows. -/
theorem shows_congr (same : ∀ m, m ∈ reported ↔ m ∈ reported') (m : Modifier) :
    context.Shows reported m ↔ context.Shows reported' m := by
  cases dialect : context.dialect with
  | java =>
    rw [shows_of_java dialect, shows_of_java dialect]
    unfold InJava
    split <;> simp only [same]
  | kotlin =>
    rw [shows_of_kotlin dialect, shows_of_kotlin dialect]
    unfold InKotlin IsConstantField
    split <;> simp only [same]

end ModifierContext

namespace Modifier

variable {context : ModifierContext} {m : Modifier} {modifiers reported form shown : List Modifier}

/-- The Java form has the modifiers that Java keeps and adds. -/
theorem mem_javaForm (found : javaForm context modifiers = .ok form) :
    m ∈ form ↔ context.InJava modifiers m := by
  unfold javaForm at found
  dsimp only at found
  split at found
  · cases found
  · cases found
    rw [List.mem_filter]
    simp only [mem_changeIf_add, mem_changeIf_remove, mem_changeIf_add_add, List.contains_eq_mem,
      Bool.not_eq_true', decide_eq_false_iff_not, decide_eq_true_eq, Bool.and_eq_true,
      Bool.or_eq_true]
    unfold ModifierContext.InJava
    have notKotlin : static ∉ kotlinOnly ∧ final ∉ kotlinOnly ∧ publicAccess ∉ kotlinOnly ∧
        defaultMethod ∉ kotlinOnly := by decide
    -- the modifiers that have rules of their own, and all others
    split <;> grind

/-- Java refuses constants that are no properties, and nothing else. -/
theorem javaForm_eq_error_iff {e : RenderError} : javaForm context modifiers = .error e ↔
    const ∈ modifiers ∧ context.element ≠ .property ∧
      e = .constOutsideProperty context.element := by
  have refuses : (modifiers.contains const && !context.isProperty) = true ↔
      const ∈ modifiers ∧ context.element ≠ .property := by
    simp [ModifierContext.isProperty]
  unfold javaForm
  dsimp only
  split
  · rename_i refused
    rw [← and_assoc, and_iff_right (refuses.mp refused)]
    exact ⟨fun h => (Except.error.inj h).symm, fun h => h ▸ rfl⟩
  · rename_i accepted
    exact iff_of_false nofun fun h => accepted (refuses.mpr ⟨h.1, h.2.1⟩)

/-- The Kotlin form has the modifiers that Kotlin keeps and adds. -/
theorem mem_kotlinForm : m ∈ kotlinForm context modifiers ↔ context.InKotlin modifiers m := by
  have field : context.IsConstantField modifiers ↔
      (modifiers.contains static && modifiers.contains final && context.isProperty &&
        context.fromJava) = true := by
    simp [ModifierContext.IsConstantField, and_assoc]
  unfold kotlinForm ModifierContext.InKotlin
  dsimp only
  rw [field]
  generalize (modifiers.contains static && modifiers.contains final && context.isProperty &&
    context.fromJava) = isField
  simp only [mem_changeIf_add, mem_changeIf_remove, mem_changeIf_exchange, mem_remove,
    List.contains_eq_mem, Bool.not_eq_true', decide_eq_false_iff_not, decide_eq_true_eq,
    Bool.and_eq_true]
  split <;> grind

/-- The steps of a display. -/
theorem displayed_eq_ok (found : displayed context reported = .ok shown) :
    ∃ form, shown = ordered (changeIf context.inSummary
        (fun ms => remove protectedAccess (remove publicAccess ms)) form) ∧
      match context.dialect with
      | .java => javaForm context (distinct reported) = .ok form
      | .kotlin => form = kotlinForm context (distinct reported) := by
  unfold displayed at found
  cases dialect : context.dialect with
  | java =>
    rw [dialect] at found
    obtain ⟨form, formed, rest⟩ := bind_eq_ok.mp found
    exact ⟨form, (Except.ok.inj rest).symm, formed⟩
  | kotlin =>
    rw [dialect] at found
    exact ⟨_, (Except.ok.inj found).symm, rfl⟩

/-- Displays fail only in Java, where a constant is no property. -/
theorem displayed_eq_error_iff {e : RenderError} : displayed context reported = .error e ↔
    context.dialect = .java ∧ const ∈ reported ∧ context.element ≠ .property ∧
      e = .constOutsideProperty context.element := by
  unfold displayed
  cases dialect : context.dialect with
  | java =>
    have known : const ∈ reported ↔ const ∈ distinct reported := mem_distinct.symm
    rw [known, and_iff_right rfl, ← javaForm_eq_error_iff]
    cases javaForm context (distinct reported) with
    | error e' => exact Iff.rfl
    | ok form => exact iff_of_false nofun nofun
  | kotlin => exact iff_of_false nofun fun h => nomatch h.1

/-- **A display has the modifiers that it shows**, and no others. -/
theorem mem_displayed (found : displayed context reported = .ok shown) :
    m ∈ shown ↔ context.Shows reported m := by
  obtain ⟨form, rfl, formed⟩ := displayed_eq_ok found
  rw [mem_ordered, mem_changeIf_remove_remove,
    ← ModifierContext.shows_congr fun m => mem_distinct (m := m)]
  cases dialect : context.dialect with
  | java =>
    rw [dialect] at formed
    rw [mem_javaForm formed, ModifierContext.shows_of_java dialect]
  | kotlin =>
    rw [dialect] at formed
    rw [formed, mem_kotlinForm, ModifierContext.shows_of_kotlin dialect]

/-! ## In which order they stand -/

/-- The modifiers that are not listed in the order of display, as they stand. -/
def unlisted (modifiers : List Modifier) : List Modifier :=
  modifiers.filter fun m => !displayOrder.contains m

theorem mem_unlisted : m ∈ unlisted modifiers ↔ m ∈ modifiers ∧ m ∉ displayOrder := by
  simp [unlisted]

theorem orderIndex?_of_not_mem (unlisted : m ∉ displayOrder) : m.orderIndex? = none :=
  List.findIdx?_eq_none_iff.mpr fun _ mem =>
    decide_eq_false fun same => unlisted (same ▸ mem)

theorem orderIndex?_of_mem : ∀ m ∈ displayOrder, m.orderIndex? = some (displayOrder.idxOf m) := by
  decide

/-- **The order in which modifiers stand.** Modifiers that are not listed in the order of display
come before all others. Of two of them, that comes first which is reported first; one that is not
reported at all comes last, since its index is the length of the list. -/
def Precedes (reported : List Modifier) (a b : Modifier) : Prop :=
  match a.orderIndex?, b.orderIndex? with
  | none, none => reported.idxOf a < reported.idxOf b
  | none, some _ => True
  | some _, none => False
  | some i, some j => i < j

theorem Precedes.asymm {a b : Modifier} (before : Precedes reported a b) :
    ¬ Precedes reported b a := by
  unfold Precedes at *
  grind

theorem nodup_of_pairwise (order : shown.Pairwise (Precedes reported)) : shown.Nodup := by
  refine order.imp fun before same => ?_
  subst same
  exact before.asymm before

/-- **A list in the order of `Precedes`** is determined by its modifiers. -/
theorem eq_of_pairwise {shown' : List Modifier} (order : shown.Pairwise (Precedes reported))
    (order' : shown'.Pairwise (Precedes reported)) (same : ∀ m, m ∈ shown ↔ m ∈ shown') :
    shown = shown' := by
  refine List.Perm.eq_of_pairwise ?_ order order' ?_
  · exact fun a b _ _ before after => absurd after before.asymm
  · exact (List.perm_ext_iff_of_nodup (nodup_of_pairwise order) (nodup_of_pairwise order')).mpr same

/-- The order of display is that of its indices. -/
theorem pairwise_displayOrder :
    displayOrder.Pairwise fun a b => displayOrder.idxOf a < displayOrder.idxOf b := by
  decide

/-- Modifiers are put in order if those that are not listed are in order. -/
theorem pairwise_ordered
    (order : (unlisted modifiers).Pairwise fun a b => reported.idxOf a < reported.idxOf b) :
    (ordered modifiers).Pairwise (Precedes reported) := by
  refine List.pairwise_append.mpr ⟨order.imp_of_mem fun memA memB lt => ?_, ?_, ?_⟩
  · have none := orderIndex?_of_not_mem (mem_unlisted.mp memA).2
    have none' := orderIndex?_of_not_mem (mem_unlisted.mp memB).2
    simpa only [Precedes, none, none'] using lt
  · refine (pairwise_displayOrder.sublist List.filter_sublist).imp_of_mem fun memA memB lt => ?_
    have some := orderIndex?_of_mem _ (List.mem_of_mem_filter memA)
    have some' := orderIndex?_of_mem _ (List.mem_of_mem_filter memB)
    simpa only [Precedes, some, some'] using lt
  · intro a memA b memB
    have none := orderIndex?_of_not_mem (mem_unlisted.mp memA).2
    have some := orderIndex?_of_mem _ (List.mem_of_mem_filter memB)
    simp only [Precedes, none, some]

/-! ### Single rules -/

section

variable {condition : Bool} {R : Modifier → Modifier → Prop}

/-- What is added stands last. -/
theorem pairwise_add (order : modifiers.Pairwise R)
    (last : m ∉ modifiers → ∀ a ∈ modifiers, R a m) : (add m modifiers).Pairwise R := by
  unfold add
  split
  · exact order
  · rename_i fresh
    rw [List.contains_iff_mem] at fresh
    refine List.pairwise_append.mpr ⟨order, List.pairwise_singleton .., fun a mem b only => ?_⟩
    exact List.mem_singleton.mp only ▸ last fresh a mem

/-- Modifiers without repetitions stand as they are first reported. -/
theorem pairwise_distinct (reported : List Modifier) :
    (distinct reported).Pairwise fun a b => reported.idxOf a < reported.idxOf b := by
  induction reported using List.reverseRecOn with
  | nil => exact .nil
  | append_singleton before last ih =>
    have known : ∀ a ∈ distinct before, (before ++ [last]).idxOf a = before.idxOf a :=
      fun a mem => List.idxOf_append_of_mem (mem_distinct.mp mem)
    rw [distinct_concat]
    refine pairwise_add (ih.imp_of_mem fun memA memB lt => ?_) fun fresh a mem => ?_
    · rw [known _ memA, known _ memB]
      exact lt
    · have lt := List.idxOf_lt_length_of_mem (mem_distinct.mp mem)
      rw [known a mem, List.idxOf_append_of_notMem (mem_distinct.not.mp fresh)]
      exact Nat.lt_of_lt_of_le lt (Nat.le_add_right ..)

theorem unlisted_add (listed : m ∈ displayOrder) :
    unlisted (add m modifiers) = unlisted modifiers := by
  unfold add
  split
  · rfl
  · simp [unlisted, listed]

theorem unlisted_remove (listed : m ∈ displayOrder) :
    unlisted (remove m modifiers) = unlisted modifiers := by
  rw [unlisted, remove, List.filter_filter]
  refine List.filter_congr fun a _ => ?_
  by_cases same : a = m
  · simp [same, listed]
  · simp [same]

theorem unlisted_changeIf {change : List Modifier → List Modifier}
    (keeps : unlisted (change modifiers) = unlisted modifiers) :
    unlisted (changeIf condition change modifiers) = unlisted modifiers := by
  cases condition
  · rfl
  · exact keeps

theorem unlisted_changeIf_add (listed : m ∈ displayOrder) :
    unlisted (changeIf condition (add m) modifiers) = unlisted modifiers :=
  unlisted_changeIf (unlisted_add listed)

theorem unlisted_changeIf_remove (listed : m ∈ displayOrder) :
    unlisted (changeIf condition (remove m) modifiers) = unlisted modifiers :=
  unlisted_changeIf (unlisted_remove listed)

/-- An unlisted modifier is added to the unlisted ones. -/
theorem pairwise_unlisted_changeIf_add (new : m ∉ displayOrder)
    (order : (unlisted modifiers).Pairwise R)
    (last : m ∉ unlisted modifiers → ∀ a ∈ unlisted modifiers, R a m) :
    (unlisted (changeIf condition (add m) modifiers)).Pairwise R := by
  cases condition with
  | false => exact order
  | true =>
    have added : unlisted (add m modifiers) = add m (unlisted modifiers) := by
      unfold add
      by_cases known : m ∈ modifiers
      · simp [known, mem_unlisted, new]
      · simp [known, unlisted, new]
    exact added ▸ pairwise_add order last

end

/-! ### All rules -/

/-- No rule of Kotlin is about unlisted modifiers. -/
theorem unlisted_kotlinForm : unlisted (kotlinForm context modifiers) = unlisted modifiers := by
  unfold kotlinForm
  dsimp only
  rw [unlisted_remove (by decide), unlisted_changeIf_add (by decide), unlisted_remove (by decide),
    unlisted_changeIf_remove (by decide), unlisted_changeIf_remove (by decide),
    unlisted_remove (by decide), unlisted_changeIf]
  rw [unlisted_add (by decide), unlisted_remove (by decide), unlisted_remove (by decide)]

/-- In Java, default methods are marked last of the modifiers that are not listed. -/
theorem pairwise_unlisted_javaForm {R : Modifier → Modifier → Prop}
    (found : javaForm context modifiers = .ok form) (order : (unlisted modifiers).Pairwise R)
    (last : defaultMethod ∉ modifiers → ∀ a ∈ unlisted modifiers, R a defaultMethod) :
    (unlisted form).Pairwise R := by
  unfold javaForm at found
  dsimp only at found
  split at found
  · cases found
  · cases found
    -- what only Kotlin has is left out at the end
    refine List.Pairwise.sublist (List.filter_sublist.filter _) ?_
    change (unlisted _).Pairwise R
    rw [unlisted_changeIf_remove (by decide)]
    refine pairwise_unlisted_changeIf_add (by decide) ?_ ?_
    all_goals
      rw [unlisted_changeIf_add (by decide), unlisted_changeIf_remove (by decide),
        unlisted_changeIf_add (by decide),
        unlisted_changeIf (by rw [unlisted_add (by decide), unlisted_add (by decide)])]
    · exact order
    · exact fun fresh => last fun mem => fresh (mem_unlisted.mpr ⟨mem, by decide⟩)

/-- **A display stands in the order of `Precedes`.** -/
theorem pairwise_displayed (found : displayed context reported = .ok shown) :
    shown.Pairwise (Precedes reported) := by
  obtain ⟨form, rfl, formed⟩ := displayed_eq_ok found
  have first : (unlisted (distinct reported)).Pairwise fun a b =>
      reported.idxOf a < reported.idxOf b :=
    (pairwise_distinct reported).filter _
  refine pairwise_ordered ?_
  rw [unlisted_changeIf (by rw [unlisted_remove (by decide), unlisted_remove (by decide)])]
  cases dialect : context.dialect with
  | java =>
    rw [dialect] at formed
    refine pairwise_unlisted_javaForm formed first fun fresh a mem => ?_
    rw [List.idxOf_eq_length (mem_distinct.not.mp fresh)]
    exact List.idxOf_lt_length_of_mem (mem_distinct.mp (mem_unlisted.mp mem).1)
  | kotlin =>
    rw [dialect] at formed
    rw [formed, unlisted_kotlinForm]
    exact first

/-- **A display of modifiers is determined** by what is reported. There is none exactly if Java
would have to display a constant that is no property. Otherwise it has the modifiers that it shows,
each of them once: unlisted ones before all others, as they are first reported, with a mark that is
added at their end, and then the listed ones as they are listed. -/
theorem display_determined (context : ModifierContext) (reported : List Modifier) :
    (∀ e, displayed context reported = .error e ↔
      context.dialect = .java ∧ const ∈ reported ∧ context.element ≠ .property ∧
        e = .constOutsideProperty context.element) ∧
    ∀ shown, displayed context reported = .ok shown ↔
      ¬ (context.dialect = .java ∧ const ∈ reported ∧ context.element ≠ .property) ∧
        shown.Nodup ∧ shown.Pairwise (Precedes reported) ∧
          ∀ m, m ∈ shown ↔ context.Shows reported m := by
  refine ⟨fun e => displayed_eq_error_iff, fun shown => ⟨fun found => ⟨?_, ?_, ?_, ?_⟩, ?_⟩⟩
  · rintro ⟨java, mem, element⟩
    have fails := displayed_eq_error_iff.mpr ⟨java, mem, element, rfl⟩
    rw [fails] at found
    cases found
  · exact nodup_of_pairwise (pairwise_displayed found)
  · exact pairwise_displayed found
  · exact fun m => mem_displayed found
  · rintro ⟨accepted, -, order, members⟩
    cases found : displayed context reported with
    | error e =>
      obtain ⟨java, mem, element, -⟩ := displayed_eq_error_iff.mp found
      exact absurd ⟨java, mem, element⟩ accepted
    | ok shown' =>
      refine congrArg Except.ok (eq_of_pairwise (pairwise_displayed found) order fun m => ?_)
      rw [mem_displayed found, members]

example : displayed { dialect := .java, element := .function, container := some .interface }
    [.publicAccess, .synchronized, .final, .suspend] =
      .ok [.synchronized, .defaultMethod, .final] := by
  decide

/-! ## Default methods -/

/-- **Where the mark of default methods contradicts other modifiers.** If it is not reported, Java
displays it together with `static` exactly on members of interfaces that are not abstract and are
static by one of the rules, and together with `private` exactly on those that are private. It never
stands beside `abstract`. -/
theorem default_beside_iff (java : context.dialect = .java) (unreported : defaultMethod ∉ reported)
    (found : displayed context reported = .ok shown) :
    ¬ (defaultMethod ∈ shown ∧ abstractMember ∈ shown) ∧
    (defaultMethod ∈ shown ∧ static ∈ shown ↔
      context.inInterface ∧ abstractMember ∉ reported ∧
        (static ∈ reported ∨ const ∈ reported ∨ context.injectStatic ∨ context.ofCompanion)) ∧
    (defaultMethod ∈ shown ∧ privateAccess ∈ shown ↔
      context.inInterface ∧ abstractMember ∉ reported ∧ privateAccess ∈ reported) := by
  have marked : defaultMethod ∈ shown ↔ context.inInterface ∧ abstractMember ∉ reported := by
    rw [mem_displayed found, ModifierContext.shows_of_java java]
    simp [ModifierContext.InJava, unreported]
  have isAbstract : abstractMember ∈ shown ↔ abstractMember ∈ reported := by
    rw [mem_displayed found, ModifierContext.shows_of_java java]
    simp [ModifierContext.InJava, kotlinOnly]
  have isStatic : static ∈ shown ↔ static ∈ reported ∨ const ∈ reported ∨ context.injectStatic ∨
      context.inCompanion ∨ context.inPackage := by
    rw [mem_displayed found, ModifierContext.shows_of_java java]
    simp [ModifierContext.InJava]
  have isPrivate : privateAccess ∈ shown ↔ privateAccess ∈ reported := by
    rw [mem_displayed found, ModifierContext.shows_of_java java]
    simp [ModifierContext.InJava, kotlinOnly]
  rw [marked, isAbstract, isStatic, isPrivate, and_assoc, and_assoc, and_assoc]
  refine ⟨fun h => h.2.1 h.2.2, and_congr_right fun member => and_congr_right fun _ => ?_, Iff.rfl⟩
  -- no interface is a companion or a package
  have container : context.container = some .interface := by
    simpa [ModifierContext.inInterface] using member
  simp [ModifierContext.inCompanion, ModifierContext.inPackage, container]

/-- A static method of an interface is displayed as a default method, and so is a private one. -/
theorem default_beside_staticMethod :
    let context : ModifierContext :=
      { dialect := .java, element := .function, container := some .interface, fromJava := true }
    ∃ shown shown', displayed context [.publicAccess, .static] = .ok shown ∧
      displayed context [.privateAccess] = .ok shown' ∧
      (defaultMethod ∈ shown ∧ static ∈ shown) ∧ (defaultMethod ∈ shown' ∧ privateAccess ∈ shown') ∧
      textList shown = "default static" ∧ textList shown' = "default private" := by
  intro context
  have found : displayed context [.publicAccess, .static] = .ok [.defaultMethod, .static] := by
    decide
  have found' : displayed context [.privateAccess] = .ok [.defaultMethod, .privateAccess] := by
    decide
  obtain ⟨-, beside, -⟩ := default_beside_iff rfl (by decide) found
  obtain ⟨-, -, beside'⟩ := default_beside_iff rfl (by decide) found'
  refine ⟨_, _, found, found', beside.mpr ?_, beside'.mpr ?_, ?_, ?_⟩
  · decide
  · decide
  · decide
  · decide

end Modifier

end Diglot
