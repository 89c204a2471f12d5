import Diglot.Proofs.ArrowTexts
import Diglot.Proofs.Showing

/-!
# What the text of a function type tells

Kotlin writes a function type in parentheses only if it can be null. As a parameter it ends at a
comma or a parenthesis, and as what is returned it ends with the whole. As a receiver it ends
nowhere: the dot behind it is read as that of what it returns.

* `Nesting`, `ShownType.nesting?` — function types over names, part by part.
* `Nesting.chain` — what a reader makes of the text. `text_eq`: the text is that of the chain.
* `Nesting.isGrouped` — parentheses are around every receiver that is a function type.
  `chain_injective`: then the chain tells all of the nesting.
* `Nesting.chain_regroup` — otherwise another nesting has the same chain.
* `function_texts` — what follows for texts.
-/

namespace Diglot

/-! ## Nestings -/

/-- **Function types over names**, with what is displayed of them. -/
inductive Nesting where
  /-- a type without arguments -/
  | name (leaf : Leaf)
  /-- a function type -/
  | function (isSuspend isNullable : Bool) (receiver : Option Nesting) (parameters : List Nesting)
      (returnType : Nesting)

/-- The name of a type with what shows its nullability, if the name is a word. -/
def Leaf.of? (name mark : String) : Option Leaf :=
  if word : isWord name = true ∧ mark ∈ ["", "?", "!"] then some ⟨name, mark, word.1, word.2⟩
  else none

/-- Whether a Kotlin type can be null, if it is one with `?` or a plain one. -/
def Nullability.isNullableKotlin? : Nullability → Option Bool
  | kotlinDefault => some false
  | kotlinNullable => some true
  | _ => none

mutual

/-- The nesting of a displayed type: of a name without arguments, or a function type over such
names, without annotations, and with parameters of which only the type is displayed. -/
def ShownType.nesting? : ShownType → Option Nesting
  | .plain face link arguments =>
    if face.annotations.isEmpty && arguments.isEmpty then
      (Leaf.of? link.name face.suffix).map .name
    else none
  | .mapped .. => none
  | .lambda face isSuspend receiver parameters returnType =>
    if face.annotations.isEmpty then do
      let isNullable ← face.nullability.isNullableKotlin?
      let receiver ← ShownType.receiverNesting? receiver
      let parameters ← ShownParameter.nestings? parameters
      let returnType ← returnType.nesting?
      some (.function isSuspend isNullable receiver parameters returnType)
    else none

/-- The nesting of a receiver, if there is one. -/
def ShownType.receiverNesting? : Option ShownType → Option (Option Nesting)
  | none => some none
  | some receiver => receiver.nesting?.map some

/-- The nestings of parameters. -/
def ShownParameter.nestings? : List ShownParameter → Option (List Nesting)
  | [] => some []
  | first :: rest => do
    let nesting ← first.nesting?
    let others ← ShownParameter.nestings? rest
    some (nesting :: others)

/-- The nesting of a parameter of which only the type is displayed. -/
def ShownParameter.nesting? : ShownParameter → Option Nesting
  | ⟨name, type, default, modifiers, annotations, _⟩ =>
    if name = "" && default.isNone && modifiers.isEmpty && annotations.isEmpty then type.nesting?
    else none

end

/-! ## Chains of nestings -/

namespace Chain

/-- The chain that goes on from its end as from a receiver. -/
def receiving : Chain → List Chain → Chain → Chain
  | last atom, parameters, rest => arrow 0 (some atom) parameters rest
  | arrow suspends receiver own next, parameters, rest =>
    arrow suspends receiver own (next.receiving parameters rest)

/-- An arrow behind its receiver, if it has one. -/
def ofParts (receiver : Option Chain) (parameters : List Chain) (rest : Chain) : Chain :=
  match receiver with
  | none => arrow 0 none parameters rest
  | some receiver => receiver.receiving parameters rest

/-- The chain with another modifier in front, if there is to be one. -/
def suspended : Bool → Chain → Chain
  | true, arrow suspends receiver parameters rest => arrow (suspends + 1) receiver parameters rest
  | _, chain => chain

end Chain

mutual

/-- **What a reader makes of a nesting.** -/
def Nesting.chain : Nesting → Chain
  | .name leaf => .last (.name leaf)
  | .function isSuspend isNullable receiver parameters returnType =>
    let arrow := (Chain.ofParts (Nesting.receiverChain receiver) (Nesting.chains parameters)
      returnType.chain).suspended isSuspend
    if isNullable then .last (.nullable arrow) else arrow

/-- The chain of a receiver, if there is one. -/
def Nesting.receiverChain : Option Nesting → Option Chain
  | none => none
  | some receiver => some receiver.chain

/-- The chains of parameters. -/
def Nesting.chains : List Nesting → List Chain
  | [] => []
  | first :: rest => first.chain :: Nesting.chains rest

end

namespace Chain

variable (parameters others : List Chain) (rest last : Chain)

/-- A chain that goes on is written in front of what it goes on with. -/
theorem spell_receiving (text : List Char) (chain : Chain) :
    (chain.receiving parameters rest).spell text =
      chain.spell ('.' :: '(' :: spellParameters parameters (spellArrow (rest.spell text))) := by
  cases chain with
  | last atom =>
    rw [receiving, spell, spell]
    rfl
  | arrow suspends receiver own next => rw [receiving, spell, spell, spell_receiving text next]

/-- An arrow is written behind its receiver, if it has one. -/
theorem spell_ofParts (receiver : Option Chain) (text : List Char) :
    (ofParts receiver parameters rest).spell text =
      let behind := '(' :: spellParameters parameters (spellArrow (rest.spell text))
      receiver.elim behind fun receiver => receiver.spell ('.' :: behind) := by
  cases receiver with
  | none =>
    rw [ofParts, spell]
    rfl
  | some receiver => exact spell_receiving parameters rest text receiver

/-- A chain that is made of parts has an arrow. -/
theorem exists_ofParts_eq (receiver : Option Chain) :
    ∃ suspends atom own next, ofParts receiver parameters rest = arrow suspends atom own next := by
  cases receiver with
  | none => exact ⟨_, _, _, _, rfl⟩
  | some receiver =>
    cases receiver with
    | last atom => exact ⟨_, _, _, _, rfl⟩
    | arrow suspends atom own next => exact ⟨_, _, _, _, rfl⟩

/-- A modifier is written in front of the arrow and of its receiver. -/
theorem spell_suspended_ofParts (isSuspend : Bool) (receiver : Option Chain) (text : List Char) :
    ((ofParts receiver parameters rest).suspended isSuspend).spell text =
      (if isSuspend then "suspend ".toList else []) ++
        (ofParts receiver parameters rest).spell text := by
  obtain ⟨suspends, atom, own, next, arrow⟩ := exists_ofParts_eq parameters rest receiver
  rw [arrow]
  cases isSuspend with
  | false => rfl
  | true =>
    rw [suspended, spell, spell, if_pos rfl]
    rfl

/-! ### Regrouping -/

/-- What a chain goes on with can go on first. -/
theorem receiving_receiving (chain : Chain) :
    (chain.receiving parameters rest).receiving others last =
      chain.receiving parameters (rest.receiving others last) := by
  cases chain with
  | last atom => rfl
  | arrow suspends receiver own next => simp only [receiving, receiving_receiving next]

/-- A chain that is made of parts goes on where the rest of it goes on. -/
theorem receiving_ofParts (isSuspend : Bool) (receiver : Option Chain) :
    ((ofParts receiver parameters rest).suspended isSuspend).receiving others last =
      (ofParts receiver parameters (rest.receiving others last)).suspended isSuspend := by
  have inside : (ofParts receiver parameters rest).receiving others last =
      ofParts receiver parameters (rest.receiving others last) := by
    cases receiver with
    | none => rfl
    | some receiver => exact receiving_receiving parameters others rest last receiver
  rw [← inside]
  obtain ⟨suspends, atom, own, next, arrow⟩ := exists_ofParts_eq parameters rest receiver
  rw [arrow]
  cases isSuspend <;> rfl

end Chain

namespace Nesting

/-- Whether the nesting is a function type without parentheses around it. -/
def isBareFunction : Nesting → Bool
  | function _ false .. => true
  | _ => false

end Nesting

mutual

/-- **Whether there are parentheses around every function type that is a receiver.** -/
def Nesting.isGrouped : Nesting → Bool
  | .name _ => true
  | .function _ _ receiver parameters returnType =>
    Nesting.receiverIsGrouped receiver && Nesting.areGrouped parameters && returnType.isGrouped

/-- Whether there are parentheses around a receiver that is a function type, and around every one in
it. -/
def Nesting.receiverIsGrouped : Option Nesting → Bool
  | none => true
  | some receiver => !receiver.isBareFunction && receiver.isGrouped

/-- Whether there are parentheses around every function type that is a receiver in the nestings of a
list. -/
def Nesting.areGrouped : List Nesting → Bool
  | [] => true
  | first :: rest => first.isGrouped && Nesting.areGrouped rest

end

namespace Nesting

/-- **Other nestings with the same chain**: what a receiver without parentheses returns can be the
receiver as well, unless both function types suspend. -/
theorem chain_regroup {isSuspend isSuspend' : Bool} (once : (isSuspend && isSuspend') = false)
    (isNullable : Bool) (receiver : Option Nesting) (parameters others : List Nesting)
    (between returnType : Nesting) :
    (function isSuspend isNullable (some (function isSuspend' false receiver parameters between))
        others returnType).chain =
      (function (isSuspend || isSuspend') isNullable receiver parameters
        (function false false (some between) others returnType)).chain := by
  have inner : (function isSuspend' false receiver parameters between).chain =
      (Chain.ofParts (receiverChain receiver) (chains parameters) between.chain).suspended
        isSuspend' := by
    rw [chain]
    rfl
  have outer : (function false false (some between) others returnType).chain =
      between.chain.receiving (chains others) returnType.chain := by
    rw [chain, receiverChain]
    rfl
  rw [chain, chain, receiverChain, inner, outer, Chain.ofParts, Chain.receiving_ofParts]
  cases isSuspend with
  | false => rfl
  | true =>
    obtain rfl : isSuspend' = false := once
    rfl

/-- What is no function type, or is one in parentheses, is read as an atom. -/
theorem exists_chain_eq_last {nesting : Nesting} (closed : nesting.isBareFunction = false) :
    ∃ atom, nesting.chain = .last atom := by
  cases nesting with
  | name leaf => exact ⟨.name leaf, by rw [chain]⟩
  | function isSuspend isNullable receiver parameters returnType =>
    cases isNullable with
    | false => cases closed
    | true =>
      rw [chain]
      exact ⟨_, rfl⟩

/-- **A function type with a grouped receiver** is read as one arrow. -/
theorem exists_chain_function {receiver : Option Nesting}
    (grouped : receiverIsGrouped receiver = true) :
    ∃ atom : Option Atom, receiverChain receiver = atom.map .last ∧
      ∀ isSuspend isNullable parameters returnType,
        (function isSuspend isNullable receiver parameters returnType).chain =
          let arrow := .arrow isSuspend.toNat atom (chains parameters) returnType.chain
          if isNullable then .last (.nullable arrow) else arrow := by
  obtain ⟨atom, chain_eq⟩ : ∃ atom : Option Atom, receiverChain receiver = atom.map .last := by
    cases receiver with
    | none => exact ⟨none, rfl⟩
    | some receiver =>
      simp only [receiverIsGrouped, Bool.and_eq_true, Bool.not_eq_true'] at grouped
      obtain ⟨atom, last⟩ := exists_chain_eq_last grouped.1
      exact ⟨some atom, by rw [receiverChain, last]; rfl⟩
  refine ⟨atom, chain_eq, fun isSuspend isNullable parameters returnType => ?_⟩
  rw [chain, chain_eq]
  cases atom <;> cases isSuspend <;> rfl

/-- A name is not read as a function type. -/
theorem chain_name_ne_function {leaf : Leaf} {isSuspend isNullable : Bool}
    {receiver : Option Nesting} {parameters : List Nesting} {returnType : Nesting}
    (grouped : (function isSuspend isNullable receiver parameters returnType).isGrouped = true) :
    (name leaf).chain ≠ (function isSuspend isNullable receiver parameters returnType).chain := by
  simp only [isGrouped, Bool.and_eq_true] at grouped
  obtain ⟨atom, -, read⟩ := exists_chain_function grouped.1.1
  rw [read, chain]
  cases isNullable <;> nofun

mutual

/-- **Of grouped nestings the chain tells everything.** -/
theorem chain_injective : ∀ m n : Nesting, m.isGrouped = true → n.isGrouped = true →
    m.chain = n.chain → m = n
  | .name leaf, .name other, _, _, same => by
    rw [chain, chain] at same
    cases same
    rfl
  | .name leaf, .function .., _, grouped, same => absurd same (chain_name_ne_function grouped)
  | .function .., .name leaf, grouped, _, same => absurd same.symm (chain_name_ne_function grouped)
  | .function isSuspend isNullable receiver parameters returnType,
    .function isSuspend' isNullable' receiver' parameters' returnType', grouped, grouped',
    same => by
    simp only [isGrouped, Bool.and_eq_true] at grouped grouped'
    obtain ⟨atom, receiverRead, read⟩ := exists_chain_function grouped.1.1
    obtain ⟨atom', receiverRead', read'⟩ := exists_chain_function grouped'.1.1
    rw [read, read'] at same
    have arrows : isNullable = isNullable' ∧ isSuspend.toNat = isSuspend'.toNat ∧ atom = atom' ∧
        chains parameters = chains parameters' ∧ returnType.chain = returnType'.chain := by
      cases isNullable <;> cases isNullable' <;> simp_all
    obtain ⟨rfl, suspends, rfl, parametersRead, returnTypeRead⟩ := arrows
    obtain rfl : isSuspend = isSuspend' := by
      cases isSuspend <;> cases isSuspend' <;> first | rfl | cases suspends
    obtain rfl := receiverChain_injective receiver receiver' grouped.1.1 grouped'.1.1
      (receiverRead.trans receiverRead'.symm)
    obtain rfl := chains_injective parameters parameters' grouped.1.2 grouped'.1.2 parametersRead
    obtain rfl := chain_injective returnType returnType' grouped.2 grouped'.2 returnTypeRead
    rfl

theorem receiverChain_injective : ∀ m n : Option Nesting, receiverIsGrouped m = true →
    receiverIsGrouped n = true → receiverChain m = receiverChain n → m = n
  | none, none, _, _, _ => rfl
  | none, some _, _, _, same | some _, none, _, _, same => by
    rw [receiverChain, receiverChain] at same
    cases same
  | some m, some n, grouped, grouped', same => by
    rw [receiverIsGrouped, Bool.and_eq_true] at grouped grouped'
    rw [receiverChain, receiverChain] at same
    rw [chain_injective m n grouped.2 grouped'.2 (Option.some.inj same)]

theorem chains_injective : ∀ m n : List Nesting, areGrouped m = true → areGrouped n = true →
    chains m = chains n → m = n
  | [], [], _, _, _ => rfl
  | [], _ :: _, _, _, same | _ :: _, [], _, _, same => by
    rw [chains, chains] at same
    cases same
  | first :: rest, other :: others, grouped, grouped', same => by
    rw [areGrouped, Bool.and_eq_true] at grouped grouped'
    rw [chains, chains, List.cons.injEq] at same
    rw [chain_injective first other grouped.1 grouped'.1 same.1,
      chains_injective rest others grouped.2 grouped'.2 same.2]

end

end Nesting

/-! ## Texts -/

theorem Leaf.eq_of_of? {name mark : String} {leaf : Leaf} (found : Leaf.of? name mark = some leaf) :
    leaf.name = name ∧ leaf.mark = mark := by
  unfold of? at found
  split at found
  · cases found
    exact ⟨rfl, rfl⟩
  · cases found

/-- The suffix of a Kotlin type that can be null. -/
theorem Nullability.kotlinSuffix_of_isNullableKotlin? {n : Nullability} {isNullable : Bool}
    (found : n.isNullableKotlin? = some isNullable) :
    n.kotlinSuffix = if isNullable then "?" else "" := by
  cases n <;> cases found <;> rfl

/-- A function type without annotations is written as its chain is. -/
theorem toList_lambdaText {face : Face} (bare : face.annotations = []) {isNullable : Bool}
    (nullable : face.nullability.isNullableKotlin? = some isNullable) (isSuspend : Bool)
    (receiver : String) (parameters : List String) (returnType : String) (text : List Char) :
    (lambdaText face isSuspend receiver parameters returnType).toList ++ text =
      let arrow := fun behind => (if isSuspend then "suspend ".toList else []) ++
        (receiver.toList ++ '(' :: ((Text.joined ", " parameters).toList ++
          spellArrow (returnType.toList ++ behind)))
      if isNullable then '(' :: arrow (')' :: '?' :: text) else arrow text := by
  unfold lambdaText
  rw [bare, Nullability.kotlinSuffix_of_isNullableKotlin? nullable]
  cases isNullable <;> cases isSuspend <;>
    simp [spellArrow, ShownAnnotation.lead]

/-- A joined text goes on behind a separator if there is more. -/
theorem toList_joined (first second : String) (rest : List String) (text : List Char) :
    (Text.joined ", " (first :: second :: rest)).toList ++ text =
      first.toList ++ (',' :: ' ' :: ((Text.joined ", " (second :: rest)).toList ++ text)) := by
  rw [Text.joined]
  · simp
  · nofun

/-- Of a parameter in a nesting only the type is written. -/
theorem textWith_of_isEmpty (parameter : ShownParameter) (type : String)
    (name : parameter.name = "") (default : parameter.default = none)
    (modifiers : parameter.modifiers = []) (annotations : parameter.annotations = []) :
    parameter.textWith type = type := by
  unfold ShownParameter.textWith
  rw [name, default, modifiers, annotations]
  cases parameter.dialect <;> simp [Modifier.lead, ShownAnnotation.lead]

mutual

/-- **The text of a type is that of its chain.** -/
theorem toList_text : ∀ (type : ShownType) {nesting : Nesting}, type.nesting? = some nesting →
    ∀ text, type.text.toList ++ text = nesting.chain.spell text
  | .plain face link arguments, nesting, found, text => by
    rw [ShownType.nesting?] at found
    split at found
    · rename_i bare
      simp only [Bool.and_eq_true, List.isEmpty_iff] at bare
      obtain ⟨leaf, known, rfl⟩ := Option.map_eq_some_iff.mp found
      obtain ⟨name, mark⟩ := Leaf.eq_of_of? known
      rw [ShownType.text, bare.1, bare.2, Nesting.chain, Chain.spell, Atom.spell, Leaf.chars, name,
        mark]
      simp [ShownType.texts, bracketed, ShownAnnotation.lead]
    · cases found
  | .mapped .., nesting, found, text => by
    rw [ShownType.nesting?] at found
    cases found
  | .lambda face isSuspend receiver parameters returnType, nesting, found, text => by
    rw [ShownType.nesting?] at found
    split at found
    · rename_i bare
      simp only [Option.bind_eq_bind, Option.bind_eq_some_iff] at found
      obtain ⟨isNullable, nullable, receiverNesting, receivers, parameterNestings, parametersKnown,
        returned, returnedKnown, found⟩ := found
      cases found
      rw [ShownType.text, toList_lambdaText (List.isEmpty_iff.mp bare) nullable]
      have arrow : ∀ behind, (if isSuspend then "suspend ".toList else []) ++
          ((ShownType.receiverText receiver).toList ++
            '(' :: ((Text.joined ", " (ShownParameter.texts parameters)).toList ++
              spellArrow (returnType.text.toList ++ behind))) =
          ((Chain.ofParts (Nesting.receiverChain receiverNesting)
            (Nesting.chains parameterNestings) returned.chain).suspended isSuspend).spell
              behind := by
        intro behind
        rw [toList_text returnType returnedKnown, toList_texts parameters parametersKnown,
          toList_receiverText receiver receivers, Chain.spell_suspended_ofParts,
          Chain.spell_ofParts]
      simp only [arrow]
      rw [Nesting.chain]
      cases isNullable with
      | false => rfl
      | true =>
        simp only [if_true]
        rw [Chain.spell, Atom.spell]
    · cases found

/-- A receiver is written with its dot. -/
theorem toList_receiverText : ∀ (receiver : Option ShownType) {nesting : Option Nesting},
    ShownType.receiverNesting? receiver = some nesting →
      ∀ text, (ShownType.receiverText receiver).toList ++ text =
        (Nesting.receiverChain nesting).elim text fun receiver => receiver.spell ('.' :: text)
  | none, nesting, found, text => by
    rw [ShownType.receiverNesting?] at found
    cases found
    rfl
  | some receiver, nesting, found, text => by
    rw [ShownType.receiverNesting?] at found
    obtain ⟨inner, known, rfl⟩ := Option.map_eq_some_iff.mp found
    rw [ShownType.receiverText, Nesting.receiverChain, Option.elim, ← toList_text receiver known]
    simp

/-- Parameters are written with commas between them. -/
theorem toList_texts : ∀ (parameters : List ShownParameter) {nestings : List Nesting},
    ShownParameter.nestings? parameters = some nestings →
      ∀ text, (Text.joined ", " (ShownParameter.texts parameters)).toList ++ text =
        spellParameters (Nesting.chains nestings) text
  | [], nestings, found, text => by
    rw [ShownParameter.nestings?] at found
    cases found
    rfl
  | first :: rest, nestings, found, text => by
    rw [ShownParameter.nestings?] at found
    simp only [Option.bind_eq_bind, Option.bind_eq_some_iff] at found
    obtain ⟨nesting, known, others, more, found⟩ := found
    cases found
    rw [ShownParameter.texts, Nesting.chains, spellParameters, toList_moreTexts rest more,
      toList_parameterText first known]

/-- Each further parameter is written behind a comma. -/
theorem toList_moreTexts : ∀ (parameters : List ShownParameter) {nestings : List Nesting},
    ShownParameter.nestings? parameters = some nestings → ∀ (first : String) (text : List Char),
      (Text.joined ", " (first :: ShownParameter.texts parameters)).toList ++ text =
        first.toList ++ spellMore (Nesting.chains nestings) text
  | [], nestings, found, first, text => by
    rw [ShownParameter.nestings?] at found
    cases found
    rfl
  | second :: rest, nestings, found, first, text => by
    rw [ShownParameter.nestings?] at found
    simp only [Option.bind_eq_bind, Option.bind_eq_some_iff] at found
    obtain ⟨nesting, known, others, more, found⟩ := found
    cases found
    rw [ShownParameter.texts, toList_joined, toList_moreTexts rest more, Nesting.chains, spellMore,
      toList_parameterText second known]

/-- A parameter is written as its type is. -/
theorem toList_parameterText : ∀ (parameter : ShownParameter) {nesting : Nesting},
    parameter.nesting? = some nesting →
      ∀ text, parameter.text.toList ++ text = nesting.chain.spell text
  | ⟨name, type, default, modifiers, annotations, dialect⟩, nesting, found, text => by
    rw [ShownParameter.nesting?] at found
    split at found
    · rename_i plain
      simp only [Bool.and_eq_true, decide_eq_true_eq, Option.isNone_iff_eq_none,
        List.isEmpty_iff] at plain
      obtain ⟨⟨⟨noName, noDefault⟩, noModifiers⟩, noAnnotations⟩ := plain
      rw [ShownParameter.text, textWith_of_isEmpty _ _ noName noDefault noModifiers noAnnotations]
      exact toList_text type found text
    · cases found

end

/-! ## Every nesting is displayed -/

/-- A nullability that shows as the mark does. -/
def Leaf.nullability (leaf : Leaf) : Nullability :=
  if leaf.mark = "" then .kotlinDefault
  else if leaf.mark = "?" then .kotlinNullable
  else .unannotated

theorem Leaf.kotlinSuffix_nullability (leaf : Leaf) :
    leaf.nullability.kotlinSuffix = leaf.mark := by
  unfold nullability
  rcases leaf.mark_cases with mark | mark | mark <;> rw [mark] <;> rfl

mutual

/-- A displayed type with the nesting. -/
def Nesting.shown : Nesting → ShownType
  | .name leaf => .plain ⟨leaf.nullability, .kotlin, []⟩ (.unlinked leaf.name) []
  | .function isSuspend isNullable receiver parameters returnType =>
    .lambda ⟨if isNullable then .kotlinNullable else .kotlinDefault, .kotlin, []⟩ isSuspend
      (Nesting.shownReceiver receiver) (Nesting.shownParameters parameters) returnType.shown

/-- A displayed receiver with the nesting. -/
def Nesting.shownReceiver : Option Nesting → Option ShownType
  | none => none
  | some receiver => some receiver.shown

/-- Displayed parameters with the nestings. -/
def Nesting.shownParameters : List Nesting → List ShownParameter
  | [] => []
  | first :: rest => ⟨"", first.shown, none, [], [], .kotlin⟩ :: Nesting.shownParameters rest

end

mutual

/-- **Every nesting is that of a displayed type.** -/
theorem nesting?_shown : ∀ nesting : Nesting, nesting.shown.nesting? = some nesting
  | .name leaf => by
    have suffix : Face.suffix ⟨leaf.nullability, .kotlin, []⟩ = leaf.mark :=
      leaf.kotlinSuffix_nullability
    have known : Leaf.of? leaf.name leaf.mark = some leaf :=
      dif_pos ⟨leaf.isWord_name, leaf.mark_mem⟩
    rw [Nesting.shown, ShownType.nesting?, suffix]
    simp only [Link.unlinked, known]
    rfl
  | .function isSuspend isNullable receiver parameters returnType => by
    have nullable : (if isNullable then Nullability.kotlinNullable
        else .kotlinDefault).isNullableKotlin? = some isNullable := by
      cases isNullable <;> rfl
    rw [Nesting.shown, ShownType.nesting?, receiverNesting?_shown receiver,
      nestings?_shown parameters, nesting?_shown returnType, nullable]
    rfl

theorem receiverNesting?_shown : ∀ receiver : Option Nesting,
    ShownType.receiverNesting? (Nesting.shownReceiver receiver) = some receiver
  | none => rfl
  | some receiver => by
    rw [Nesting.shownReceiver, ShownType.receiverNesting?, nesting?_shown receiver]
    rfl

theorem nestings?_shown : ∀ parameters : List Nesting,
    ShownParameter.nestings? (Nesting.shownParameters parameters) = some parameters
  | [] => rfl
  | first :: rest => by
    rw [Nesting.shownParameters, ShownParameter.nestings?, ShownParameter.nesting?,
      nesting?_shown first, nestings?_shown rest]
    rfl

end

/-- **What the texts of function types tell.** Two function types over names, without annotations
and with parameters of which only the types are displayed, have the same text exactly if they are
read as the same chain. If parentheses are around every function type that is a receiver they have
it only if they are made up in the same way: of the same names, with the same modifiers and
nullabilities. A function type that has none around such a receiver has the text of another one,
in which the receiver is what its own receiver returns, unless both suspend. -/
theorem function_texts {a b : ShownType} {m n : Nesting} (nestingA : a.nesting? = some m)
    (nestingB : b.nesting? = some n) :
    (a.text = b.text ↔ m.chain = n.chain) ∧
    (m.isGrouped = true → n.isGrouped = true → (a.text = b.text ↔ m = n)) ∧
    ∀ isSuspend isSuspend' isNullable receiver parameters others between returnType,
      m = .function isSuspend isNullable
        (some (.function isSuspend' false receiver parameters between)) others returnType →
      (isSuspend && isSuspend') = false →
      ∃ other : ShownType, other.text = a.text ∧ ∃ regrouped, other.nesting? = some regrouped ∧
        regrouped = .function (isSuspend || isSuspend') isNullable receiver parameters
          (.function false false (some between) others returnType) ∧
        regrouped ≠ m := by
  have textsOf : ∀ {c d : ShownType} {k l : Nesting}, c.nesting? = some k → d.nesting? = some l →
      (c.text = d.text ↔ k.chain = l.chain) := by
    intro c d k l nestingC nestingD
    have textC := toList_text c nestingC []
    have textD := toList_text d nestingD []
    rw [List.append_nil] at textC textD
    rw [← String.toList_inj, textC, textD]
    exact ⟨Chain.spell_injective, fun same => by rw [same]⟩
  have texts := textsOf nestingA nestingB
  refine ⟨texts, fun grouped grouped' => ?_, ?_⟩
  · exact texts.trans ⟨Nesting.chain_injective m n grouped grouped', congrArg _⟩
  · intro isSuspend isSuspend' isNullable receiver parameters others between returnType form once
    subst form
    have regrouped := Nesting.chain_regroup once isNullable receiver parameters others between
      returnType
    refine ⟨_, (textsOf (nesting?_shown _) nestingA).mpr regrouped.symm, _, nesting?_shown _, rfl,
      fun same => ?_⟩
    -- what the one returns would be a part of itself
    have returned := (Nesting.function.inj same).2.2.2.2
    have size := congrArg sizeOf returned
    simp only [Nesting.function.sizeOf_spec] at size
    omega

/-- The request for a function type with or without a receiver. -/
def functionRequest (isExtension : Bool) (className : String) (arguments : List TypeUse) :
    TypeRequest where
  type := .classRef
    { identity := .ofClass "kotlin" className, form := .functional isExtension false } arguments
  fromJava := false
  sourceSet := ⟨.jvm, "jvmMain"⟩

/-- A class of the program that is documented. -/
def exampleClass (name : String) : TypeUse :=
  .classRef { identity := .ofClass "com.example" name } []

/-- A function type with a function as receiver, and one that returns a function type. -/
theorem function_texts_supplier :
    let context := Context.reference .kotlin {}
    let onSupplier := typeOf context <| functionRequest true "Function1"
      [(functionRequest false "Function0" [exampleClass "A"]).type, exampleClass "B"]
    let supplied := typeOf context <| functionRequest false "Function0"
      [(functionRequest true "Function1" [exampleClass "A", exampleClass "B"]).type]
    ∃ a b m n, onSupplier = .ok a ∧ supplied = .ok b ∧ a.nesting? = some m ∧ b.nesting? = some n ∧
      a.text = "() -> A.() -> B" ∧ a.text = b.text ∧ m.chain = n.chain ∧
        m.isGrouped = false ∧ n.isGrouped = true ∧ m ≠ n := by
  intro context onSupplier supplied
  obtain ⟨a, shownA, textA⟩ := map_eq_ok.mp
    (show ShownType.text <$> onSupplier = .ok "() -> A.() -> B" by decide +kernel)
  obtain ⟨b, shownB, textB⟩ := map_eq_ok.mp
    (show ShownType.text <$> supplied = .ok "() -> A.() -> B" by decide +kernel)
  have groupedA : (fun shown => (ShownType.nesting? shown).map Nesting.isGrouped) <$> onSupplier =
      .ok (some false) := by
    decide +kernel
  have groupedB : (fun shown => (ShownType.nesting? shown).map Nesting.isGrouped) <$> supplied =
      .ok (some true) := by
    decide +kernel
  rw [shownA] at groupedA
  rw [shownB] at groupedB
  obtain ⟨m, nestingA, ungrouped⟩ := Option.map_eq_some_iff.mp (Except.ok.inj groupedA)
  obtain ⟨n, nestingB, grouped⟩ := Option.map_eq_some_iff.mp (Except.ok.inj groupedB)
  have same : a.text = b.text := textA.trans textB.symm
  refine ⟨a, b, m, n, shownA, shownB, nestingA, nestingB, textA, same,
    (function_texts nestingA nestingB).1.mp same, ungrouped, grouped, ?_⟩
  rintro rfl
  exact Bool.false_ne_true (ungrouped.symm.trans grouped)

end Diglot
