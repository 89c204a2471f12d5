import Diglot.Proofs.Agreement
import Mathlib.Data.Set.Insert

/-!
# The discipline of programs over a memo

A program that converts does not know the memo it will meet: each look-up may hit or miss,
and between a miss and the entry that answers it other programs may enter anything. All that
can be said beforehand is said by `Program.Follows`:

* an **outcome** that the program comes to, whatever is remembered already;
* the type uses that are **known** to be remembered at this point, because the program has
  entered them or has met them;
* the **stack** of type uses that it is in the middle of converting: a miss puts one on top,
  and the only form that the program ever enters is that of the topmost;
* the type uses that are **wanted**: they are remembered when the program ends.

`Account` is rendering without a memo, which notes what it converts. Every rendering
follows its account (`Account.follows`).
-/

namespace Diglot

/-! ## What a conversion passes through -/

namespace TypeUse

mutual

/-- The type uses that are converted on the way to the Kotlin form of a type use: it, and
unless it is an array of a primitive, what is converted for its parts. -/
def conversions : TypeUse → List TypeUse
  | classRef head arguments =>
    classRef head arguments ::
      match primitiveArray? head arguments with
      | some _ => []
      | none => conversionsList arguments
  | projected variance inner => projected variance inner :: inner.conversions
  | other => [other]

/-- The type uses that are converted for a list of them. -/
def conversionsList : List TypeUse → List TypeUse
  | [] => []
  | first :: rest => first.conversions ++ conversionsList rest

end

/-- Whatever is converted passes through itself. -/
theorem mem_conversions_self (type : TypeUse) : type ∈ type.conversions := by
  cases type <;> simp [conversions]

/-- The Kotlin form of a type use, with its size. -/
def converted (type : TypeUse) : Converted type := ⟨type.toKotlin, type.nodes_toKotlin_le⟩

end TypeUse

/-! ## The discipline -/

namespace Program

variable {α β : Type}

/-- The program comes to `outcome` over any memo that remembers the `known` type uses; it is
in the middle of converting those on the stack; and in the end the `wanted` ones are
remembered. -/
inductive Follows (outcome : Except RenderError α) (wanted : Set TypeUse) :
    Set TypeUse → List TypeUse → Program α → Prop where
  /-- in the end nothing is being converted -/
  | finished {known : Set TypeUse} (covered : wanted ⊆ known) :
    Follows outcome wanted known [] (.finished outcome)
  /-- a miss leaves the program in the middle of the conversion; a hit makes known
  everything that was entered on the way to the form -/
  | lookup {known : Set TypeUse} {stack : List TypeUse} {key : TypeUse}
    {next : Option (Converted key) → Program α}
    (miss : Follows outcome wanted known (key :: stack) (next none))
    (hit : Follows outcome wanted (known ∪ {type | type ∈ key.conversions}) stack
      (next (some key.converted))) :
    Follows outcome wanted known stack (.lookup key next)
  /-- the form of the topmost type use is entered after those of its parts -/
  | enter {known : Set TypeUse} {stack : List TypeUse} {key : TypeUse}
    {next : Converted key → Program α} (needed : key ∈ wanted)
    (parts : ∀ type ∈ key.conversions, type = key ∨ type ∈ known)
    (rest : Follows outcome wanted (insert key known) stack (next key.converted)) :
    Follows outcome wanted known (key :: stack) (.enter key key.converted next)

namespace Follows

/-- What others enter in the meantime does no harm. -/
theorem mono {outcome : Except RenderError α} {wanted known known' : Set TypeUse}
    {stack : List TypeUse} {program : Program α}
    (h : Follows outcome wanted known stack program) (sub : known ⊆ known') :
    Follows outcome wanted known' stack program := by
  induction h generalizing known' with
  | finished covered => exact .finished (covered.trans sub)
  | lookup miss hit ihMiss ihHit =>
    exact .lookup (ihMiss sub) (ihHit (Set.union_subset_union_left _ sub))
  | enter needed parts rest ih =>
    refine .enter needed (fun type mem => ?_) (ih (Set.insert_subset_insert sub))
    exact (parts type mem).imp_right fun h => sub h

/-- What is known may be wanted as well. -/
theorem widen {outcome : Except RenderError α} {wanted wanted' known : Set TypeUse}
    {stack : List TypeUse} {program : Program α}
    (h : Follows outcome wanted known stack program) (sub : wanted ⊆ wanted')
    (cover : wanted' ⊆ known ∪ wanted) : Follows outcome wanted' known stack program := by
  induction h with
  | finished covered =>
    exact .finished (cover.trans (Set.union_subset subset_rfl covered))
  | lookup miss hit ihMiss ihHit =>
    refine .lookup (ihMiss cover) (ihHit (cover.trans ?_))
    exact Set.union_subset_union_left _ Set.subset_union_left
  | enter needed parts rest ih =>
    refine .enter (sub needed) parts (ih (cover.trans ?_))
    exact Set.union_subset_union_left _ (Set.subset_insert _ _)

/-- **Sequence**: after a program that succeeds another one follows, over a memo that
remembers what the first one wanted; both may run in the middle of further conversions. -/
theorem bind {first : Except RenderError α} {outcome : Except RenderError β}
    {wanted₁ wanted known : Set TypeUse} {stack base : List TypeUse} {program : Program α}
    {next : α → Program β} (h : Follows first wanted₁ known stack program)
    (sub : wanted₁ ⊆ wanted)
    (ok : ∀ value, first = .ok value → ∀ known', known ⊆ known' → wanted₁ ⊆ known' →
      Follows outcome wanted known' base (next value))
    (error : ∀ e, first = .error e → base = [] ∧ outcome = .error e ∧ wanted ⊆ wanted₁) :
    Follows outcome wanted known (stack ++ base) (program.bind next) := by
  -- along the first program; what comes after it meets whatever is known by then
  induction h with
  | finished covered =>
    cases first with
    | ok value => exact ok value rfl _ subset_rfl covered
    | error e =>
      obtain ⟨rfl, rfl, back⟩ := error e rfl
      exact .finished (back.trans covered)
  | lookup miss hit ihMiss ihHit =>
    refine .lookup (ihMiss ok) (ihHit fun value eq known' le => ?_)
    exact ok value eq known' (Set.subset_union_left.trans le)
  | enter needed parts rest ih =>
    refine .enter (sub needed) parts (ih fun value eq known' le => ?_)
    exact ok value eq known' ((Set.subset_insert _ _).trans le)

/-- What runs in the middle of further conversions leaves them to those who come after. -/
theorem andThen {first : Except RenderError α} {outcome : Except RenderError β}
    {wanted₁ wanted known : Set TypeUse} {base : List TypeUse} {program : Program α}
    {next : α → Program β} (h : Follows first wanted₁ known [] program)
    (sub : wanted₁ ⊆ wanted)
    (ok : ∀ value, first = .ok value → ∀ known', known ⊆ known' → wanted₁ ⊆ known' →
      Follows outcome wanted known' base (next value))
    (error : ∀ e, first = .error e → base = [] ∧ outcome = .error e ∧ wanted ⊆ wanted₁) :
    Follows outcome wanted known base (program.bind next) :=
  h.bind sub ok error

end Follows

/-! ### Conversions follow the discipline -/

/-- A program ends with the Kotlin form of a type use. -/
theorem finished_ok {known wanted : Set TypeUse} {type : TypeUse} {form : Converted type}
    (eq : form.val = type.toKotlin) (covered : wanted ⊆ known) :
    Follows (.ok type.converted) wanted known [] (pure form) := by
  obtain rfl : form = type.converted := Subtype.ext eq
  exact .finished covered

/-- If the form is made from those of the parts, it is recalled or made. -/
theorem follows_recalled {known wanted : Set TypeUse} {type : TypeUse}
    {make : Program (Converted type)} (h : Follows (.ok type.converted) wanted known [] make)
    (sub : wanted ⊆ {part | part ∈ type.conversions})
    (parts : ∀ part ∈ type.conversions, part = type ∨ part ∈ wanted) :
    Follows (.ok type.converted) {part | part ∈ type.conversions} known []
      (recalled type make) := by
  -- a hit is the end of it; after a miss the form is made and then entered
  refine .lookup ?_ (.finished Set.subset_union_right)
  refine h.andThen sub ?_ ?_
  · rintro form ⟨⟩ known' - covered
    have entered : ∀ part ∈ type.conversions, part = type ∨ part ∈ known' :=
      fun part mem => (parts part mem).imp_right fun h => covered h
    exact .enter type.mem_conversions_self entered (.finished entered)
  · rintro e ⟨⟩

mutual

/-- **A conversion comes to the Kotlin form**, whatever is remembered when it looks. -/
theorem follows_convert : ∀ (type : TypeUse) (known : Set TypeUse),
    Follows (.ok type.converted) {part | part ∈ type.conversions} known [] (convert type)
  | .classRef head arguments, known => by
    rw [convert]
    cases isArray : TypeUse.primitiveArray? head arguments with
    | some element =>
      -- the arguments of an array of a primitive are not converted
      have form : TypeUse.toKotlin (.classRef head arguments) =
          TypeUse.arrayToKotlin head element := by
        simp [TypeUse.toKotlin, isArray]
      refine follows_recalled (finished_ok form.symm (Set.empty_subset _)) (Set.empty_subset _) ?_
      intro part mem
      exact .inl (by simpa [TypeUse.conversions, isArray] using mem)
    | none =>
      have form : TypeUse.toKotlin (.classRef head arguments) =
          TypeUse.renamedToKotlin head (TypeUse.toKotlinList arguments) := by
        simp [TypeUse.toKotlin, isArray]
      have all : TypeUse.conversions (.classRef head arguments) =
          .classRef head arguments :: TypeUse.conversionsList arguments := by
        simp [TypeUse.conversions, isArray]
      refine follows_recalled ((follows_convertList arguments known).andThen subset_rfl ?_ ?_) ?_ ?_
      · rintro forms ⟨⟩ known' - covered
        exact finished_ok form.symm covered
      · rintro e ⟨⟩
      · rw [all]
        exact fun part mem => List.mem_cons_of_mem _ mem
      · rw [all]
        exact fun part mem => List.mem_cons.mp mem
  | .projected variance inner, known => by
    rw [convert]
    refine follows_recalled ((follows_convert inner known).andThen subset_rfl ?_ ?_) ?_ ?_
    · rintro form ⟨⟩ known' - covered
      exact finished_ok (by rw [TypeUse.toKotlin]; rfl) covered
    · rintro e ⟨⟩
    · exact fun part mem => List.mem_cons_of_mem _ mem
    · exact fun part mem => List.mem_cons.mp mem
  | .parameter _, known | .primitive _, known | .javaObject _, known | .void, known
  | .star, known | .dynamic, known | .unresolved _, known | .nullable _, known
  | .nonNull _, known | .aliased .., known => by
    rw [convert]
    · refine follows_recalled (finished_ok ?_ (Set.empty_subset _)) (Set.empty_subset _) ?_
      · simp [TypeUse.toKotlin]
      · intro part mem
        exact .inl (by simpa [TypeUse.conversions] using mem)
    all_goals simp

/-- The conversion of a list comes to the Kotlin forms of its members. -/
theorem follows_convertList : ∀ (types : List TypeUse) (known : Set TypeUse),
    Follows (.ok ⟨TypeUse.toKotlinList types, TypeUse.nodesList_toKotlinList_le types⟩)
      {part | part ∈ TypeUse.conversionsList types} known [] (convertList types)
  | [], known => by
    rw [convertList]
    exact .finished fun part mem => by simp [TypeUse.conversionsList] at mem
  | first :: rest, known => by
    have all : TypeUse.conversionsList (first :: rest) =
        first.conversions ++ TypeUse.conversionsList rest := by
      rw [TypeUse.conversionsList]
    rw [convertList]
    refine (follows_convert first known).andThen ?_ ?_ ?_
    · rw [all]
      exact fun part mem => List.mem_append_left _ mem
    · rintro form ⟨⟩ known₁ - covered₁
      refine (follows_convertList rest known₁).andThen ?_ ?_ ?_
      · rw [all]
        exact fun part mem => List.mem_append_right _ mem
      · rintro forms ⟨⟩ known₂ le covered₂
        refine .finished fun part mem => ?_
        rw [all] at mem
        exact (List.mem_append.mp mem).elim (fun h => le (covered₁ h)) fun h => covered₂ h
      · rintro e ⟨⟩
    · rintro e ⟨⟩

end

end Program

/-! ## Rendering without a memo -/

/-- What a rendering comes to if it converts on the spot, with the type uses that it
converts. -/
structure Account (α : Type) where
  /-- how it ends -/
  outcome : Except RenderError α
  /-- what it converts, in order -/
  converted : List TypeUse

namespace Account

instance : Monad Account where
  pure value := ⟨.ok value, []⟩
  bind account next :=
    match account.outcome with
    | .ok value => ⟨(next value).outcome, account.converted ++ (next value).converted⟩
    | .error e => ⟨.error e, account.converted⟩

instance : Converting Account where
  fail e := ⟨.error e, []⟩
  toKotlin type := ⟨.ok type.converted, [type]⟩

/-- The type uses that are remembered after a rendering: what it converts, and what is
converted on the way. -/
def wanted {α : Type} (account : Account α) : Set TypeUse :=
  {part | ∃ type ∈ account.converted, part ∈ type.conversions}

/-- Accounts tell the outcome of converting on the spot. -/
def outcomes (dialect : Dialect) : Agreement dialect Account (Except RenderError) where
  Rel account outcome := account.outcome = outcome
  pure _ := rfl
  map f x y h := by
    subst h
    cases hx : x.outcome <;> simp [Functor.map, Except.map, hx]
  bind {_ _ x y f g} h hs := by
    subst h
    cases hx : x.outcome <;> simp [Bind.bind, Except.bind, hx, hs]
  fail _ := rfl
  toKotlin _ _ := rfl

/-- Java renderings convert nothing. -/
def nothingConverted {dialect : Dialect} (java : dialect = .java) :
    Agreement dialect Account Account where
  Rel account _ := account.converted = []
  pure _ := rfl
  map f x y h := by
    cases hx : x.outcome <;> simp [Functor.map, hx, h]
  bind {_ _ x y f g} h hs := by
    cases hx : x.outcome <;> simp [Bind.bind, hx, h, hs]
  fail _ := rfl
  toKotlin kotlin := by
    rw [java] at kotlin
    cases kotlin

/-- Programs in sequence follow their accounts in sequence. -/
theorem sequence {α β : Type} {program : Program α} {account : Account α}
    {next : α → Program β} {others : α → Account β}
    (h : ∀ known, program.Follows account.outcome account.wanted known [])
    (hs : ∀ value known, (next value).Follows (others value).outcome (others value).wanted known [])
    (known : Set TypeUse) :
    (program >>= next).Follows (account >>= others).outcome (account >>= others).wanted
      known [] := by
  cases ends : account.outcome with
  | ok value =>
    -- what the first one wanted is remembered, so the second one may want it too
    have all : (account >>= others).wanted = account.wanted ∪ (others value).wanted := by
      ext part
      simp [wanted, Bind.bind, ends, or_and_right, exists_or]
    have outcome : (account >>= others).outcome = (others value).outcome := by
      simp [Bind.bind, ends]
    rw [all, outcome]
    refine (h known).andThen Set.subset_union_left (fun value' eq known' _ covered => ?_) ?_
    · obtain rfl : value = value' := by simpa [ends] using eq
      exact (hs value known').widen Set.subset_union_right
        (Set.union_subset_union_left _ covered)
    · intro e eq
      rw [ends] at eq
      cases eq
  | error e =>
    -- nothing comes after a failure, but what was converted before it stays
    have all : (account >>= others).wanted = account.wanted := by
      simp [wanted, Bind.bind, ends]
    have outcome : (account >>= others).outcome = .error e := by
      simp [Bind.bind, ends]
    rw [all, outcome]
    refine (h known).andThen subset_rfl (fun value eq => ?_) fun e' eq => ?_
    · rw [ends] at eq
      cases eq
    · obtain rfl : e = e' := by simpa [ends] using eq
      exact ⟨rfl, rfl, subset_rfl⟩

/-- **Programs follow their accounts**: a rendering over a memo comes to what it comes to
without one, and remembers what it converts. -/
def follows (dialect : Dialect) : Agreement dialect Program Account where
  Rel program account :=
    ∀ known, program.Follows account.outcome account.wanted known []
  pure value known := .finished fun part mem => by simp [wanted, Pure.pure] at mem
  map f x y h := sequence h fun value known => .finished fun part mem => by
    simp [wanted] at mem
  bind h hs := sequence h hs
  fail e known := .finished fun part mem => by simp [wanted, Converting.fail] at mem
  toKotlin _ type known := by
    have eq : wanted (Converting.toKotlin type) = {part | part ∈ type.conversions} := by
      simp [wanted, Converting.toKotlin]
    rw [eq]
    exact Program.follows_convert type known

end Account

end Diglot
