import Mathlib.Data.List.Basic

/-!
# How the text of an arrow is read

The text of a Kotlin function type is a chain of arrows: whatever stands between two of them is
what the one leads to, and may be the receiver of the other. A chain is what a reader makes of the
text.

* `Leaf` — names as they are written for types without arguments.
* `Chain`, `Atom` — chains of arrows, and what can stand between two of them.
* `Chain.IsRead`, `Atom.IsRead` — nothing else can be read from what is written for it. A name ends
  where punctuation begins; behind parentheses the next character tells whether they enclose an
  atom or parameters.
* `Chain.spell_injective` — a text is that of one chain.
-/

namespace Diglot

/-! ## Names -/

/-- Characters with a meaning in function types. -/
def punctuation : List Char := [' ', ',', '.', '(', ')']

/-- Characters that show nullability behind a name. -/
def nullabilityMarks : List Char := ['?', '!']

/-- Whether a name is a word that means nothing else in function types. -/
def isWord (name : String) : Bool :=
  name ≠ "" && name ≠ "suspend" &&
    name.toList.all fun c => !punctuation.contains c && !nullabilityMarks.contains c

theorem isWord_iff {name : String} :
    isWord name = true ↔ name ≠ "" ∧ name ≠ "suspend" ∧
      ∀ c ∈ name.toList, c ∉ punctuation ∧ c ∉ nullabilityMarks := by
  simp [isWord, and_assoc]

/-- A name as it is written for a type without arguments, and what is behind it for its
nullability. -/
@[ext]
structure Leaf where
  /-- the name -/
  name : String
  /-- what shows the nullability -/
  mark : String
  /-- the name is a word -/
  isWord_name : isWord name = true
  /-- the nullability is shown by one character, or not at all -/
  mark_mem : mark ∈ ["", "?", "!"]

/-- The text is over, or goes on with one of the characters. -/
def StopsAt (stops : List Char) (text : List Char) : Prop :=
  ∀ c ∈ text.head?, c ∈ stops

theorem StopsAt.nil (stops : List Char) : StopsAt stops [] := nofun

theorem StopsAt.cons {stops : List Char} {c : Char} (mem : c ∈ stops) (rest : List Char) :
    StopsAt stops (c :: rest) := by
  rintro _ ⟨⟩
  exact mem

theorem StopsAt.mono {stops more : List Char} {text : List Char} (h : StopsAt stops text)
    (sub : stops ⊆ more) : StopsAt more text :=
  fun c mem => sub (h c mem)

/-- **What is read up to a stop** is determined by the text. -/
theorem eq_of_append_eq {stops : List Char} {a b x y : List Char} (inA : ∀ c ∈ a, c ∉ stops)
    (inB : ∀ c ∈ b, c ∉ stops) (endA : StopsAt stops x) (endB : StopsAt stops y)
    (same : a ++ x = b ++ y) : a = b ∧ x = y := by
  induction a generalizing b with
  | nil =>
    cases b with
    | nil => exact ⟨rfl, same⟩
    | cons c rest =>
      rw [List.nil_append] at same
      exact absurd (endA c (same ▸ rfl)) (inB c (List.mem_cons_self ..))
  | cons c rest ih =>
    cases b with
    | nil =>
      rw [List.nil_append] at same
      exact absurd (endB c (same ▸ rfl)) (inA c (List.mem_cons_self ..))
    | cons d others =>
      rw [List.cons_append, List.cons_append, List.cons.injEq] at same
      obtain ⟨rfl, same⟩ := same
      obtain ⟨rfl, tails⟩ := ih (fun e mem => inA e (List.mem_cons_of_mem _ mem))
        (fun e mem => inB e (List.mem_cons_of_mem _ mem)) same
      exact ⟨rfl, tails⟩

/-- Texts in which none of the characters is found. -/
theorem not_mem_of_all {stops text : List Char}
    (apart : (text.all fun c => !stops.contains c) = true) : ∀ c ∈ text, c ∉ stops := by
  simpa using apart

namespace Leaf

variable (leaf : Leaf)

/-- What is written for the name. -/
def chars : List Char :=
  leaf.name.toList ++ leaf.mark.toList

/-- The characters of the name have no meaning of their own. -/
theorem name_apart : ∀ c ∈ leaf.name.toList, c ∉ punctuation ∧ c ∉ nullabilityMarks :=
  (isWord_iff.mp leaf.isWord_name).2.2

/-- One character shows the nullability, or nothing does. -/
theorem mark_cases : leaf.mark = "" ∨ leaf.mark = "?" ∨ leaf.mark = "!" := by
  simpa using leaf.mark_mem

/-- A mark of nullability is nothing that can be in a name. -/
theorem stopsAt_mark : StopsAt nullabilityMarks leaf.mark.toList := by
  rcases leaf.mark_cases with none | nullable | platform
  · rw [none]
    exact StopsAt.nil _
  · rw [nullable]
    exact StopsAt.cons (by decide) []
  · rw [platform]
    exact StopsAt.cons (by decide) []

theorem mark_apart : ∀ c ∈ leaf.mark.toList, c ∉ punctuation := by
  refine not_mem_of_all ?_
  rcases leaf.mark_cases with none | nullable | platform
  · rw [none]
    decide
  · rw [nullable]
    decide
  · rw [platform]
    decide

/-- No punctuation is in what is written. -/
theorem chars_apart : ∀ c ∈ leaf.chars, c ∉ punctuation := by
  intro c mem
  rcases List.mem_append.mp mem with name | mark
  · exact (leaf.name_apart c name).1
  · exact leaf.mark_apart c mark

/-- What is written begins with a character of the name. -/
theorem exists_chars_eq : ∃ c rest, leaf.chars = c :: rest ∧ c ∉ punctuation := by
  have nonempty : leaf.name.toList ≠ [] := by
    simpa using (isWord_iff.mp leaf.isWord_name).1
  obtain ⟨c, rest, name⟩ := List.exists_cons_of_ne_nil nonempty
  have chars : leaf.chars = c :: (rest ++ leaf.mark.toList) := by
    rw [Leaf.chars, name, List.cons_append]
  exact ⟨c, _, chars, leaf.chars_apart c (chars ▸ List.mem_cons_self ..)⟩

/-- No name begins with a parenthesis. -/
theorem chars_append_ne (x y : List Char) : leaf.chars ++ x ≠ '(' :: y := by
  intro same
  obtain ⟨c, rest, chars, word⟩ := leaf.exists_chars_eq
  rw [chars] at same
  obtain rfl := (List.cons.inj same).1
  exact absurd (by decide) word

/-- The name and the mark are read from what is written. -/
theorem chars_injective {leaf other : Leaf} (same : leaf.chars = other.chars) : leaf = other := by
  obtain ⟨names, marks⟩ := eq_of_append_eq (fun c mem => (leaf.name_apart c mem).2)
    (fun c mem => (other.name_apart c mem).2) leaf.stopsAt_mark other.stopsAt_mark same
  exact Leaf.ext (String.toList_inj.mp names) (String.toList_inj.mp marks)

/-- No name is read as the modifier of suspending functions. -/
theorem chars_ne_suspend : leaf.chars ≠ "suspend".toList := by
  intro same
  obtain ⟨names, -⟩ := eq_of_append_eq (fun c mem => (leaf.name_apart c mem).2)
    (not_mem_of_all (by decide)) leaf.stopsAt_mark (StopsAt.nil _)
    (same.trans (List.append_nil _).symm)
  exact (isWord_iff.mp leaf.isWord_name).2.1 (String.toList_inj.mp names)

end Leaf

/-! ## Chains -/

mutual

/-- **A chain of arrows**: what leads where, arrow after arrow. -/
inductive Chain where
  /-- the end, to which the arrows lead -/
  | last (atom : Atom)
  /-- an arrow behind modifiers, from a receiver and parameters to the rest -/
  | arrow (suspends : Nat) (receiver : Option Atom) (parameters : List Chain) (rest : Chain)

/-- What can stand between two arrows. -/
inductive Atom where
  /-- a name -/
  | name (leaf : Leaf)
  /-- a chain that can be null, in parentheses -/
  | nullable (inner : Chain)

end

/-- Modifiers of suspending functions, in front of a text. -/
def spellSuspends : Nat → List Char → List Char
  | 0, text => text
  | suspends + 1, text => "suspend ".toList ++ spellSuspends suspends text

/-- What is written between parameters and what an arrow leads to. -/
def spellArrow (text : List Char) : List Char :=
  ')' :: ' ' :: '-' :: '>' :: ' ' :: text

mutual

/-- A chain in front of a text. -/
def Chain.spell : Chain → List Char → List Char
  | .last atom, text => atom.spell text
  | .arrow suspends receiver parameters rest, text =>
    spellSuspends suspends (spellReceiver receiver
      ('(' :: spellParameters parameters (spellArrow (rest.spell text))))

/-- An atom in front of a text. -/
def Atom.spell : Atom → List Char → List Char
  | .name leaf, text => leaf.chars ++ text
  | .nullable inner, text => '(' :: inner.spell (')' :: '?' :: text)

/-- A receiver with its dot in front of a text. -/
def spellReceiver : Option Atom → List Char → List Char
  | none, text => text
  | some atom, text => atom.spell ('.' :: text)

/-- Parameters in front of a text. -/
def spellParameters : List Chain → List Char → List Char
  | [], text => text
  | first :: rest, text => first.spell (spellMore rest text)

/-- Further parameters, each behind a comma, in front of a text. -/
def spellMore : List Chain → List Char → List Char
  | [], text => text
  | first :: rest, text => ',' :: ' ' :: first.spell (spellMore rest text)

end

/-- The modifiers in front of the first arrow. -/
def Chain.suspends : Chain → Nat
  | last _ => 0
  | arrow suspends .. => suspends

/-- A chain without its modifiers in front of a text. -/
def Chain.spellBody : Chain → List Char → List Char
  | last atom, text => atom.spell text
  | arrow _ receiver parameters rest, text =>
    spellReceiver receiver ('(' :: spellParameters parameters (spellArrow (rest.spell text)))

theorem Chain.spell_eq (chain : Chain) (text : List Char) :
    chain.spell text = spellSuspends chain.suspends (chain.spellBody text) := by
  cases chain <;> rw [spell] <;> rfl

/-! ## What is read -/

/-- Characters behind a chain. -/
def chainStops : List Char := [',', ')']

/-- Characters behind an atom. -/
def atomStops : List Char := [',', ')', '.']

/-- **No other chain is read** where this one is written. -/
def Chain.IsRead (chain : Chain) : Prop :=
  ∀ (other : Chain) (x y : List Char), StopsAt chainStops x → StopsAt chainStops y →
    chain.spell x = other.spell y → chain = other ∧ x = y

/-- **No other atom is read** where this one is written, and no parameters are. -/
structure Atom.IsRead (atom : Atom) : Prop where
  /-- no other atom -/
  eq : ∀ (other : Atom) (x y : List Char), StopsAt atomStops x → StopsAt atomStops y →
    atom.spell x = other.spell y → atom = other ∧ x = y
  /-- no parameters -/
  ne_parameters : ∀ (parameters : List Chain) (x y : List Char),
    atom.spell x ≠ '(' :: spellParameters parameters (spellArrow y)

/-- What is written for an atom begins with a name, or with a parenthesis. -/
theorem Atom.exists_spell_eq (atom : Atom) (text : List Char) :
    ∃ c rest, atom.spell text = c :: rest ∧ c ≠ ')' := by
  cases atom with
  | name leaf =>
    obtain ⟨c, rest, chars, word⟩ := leaf.exists_chars_eq
    refine ⟨c, rest ++ text, by rw [spell, chars, List.cons_append], ?_⟩
    rintro rfl
    exact word (by decide)
  | nullable inner => exact ⟨'(', _, by rw [spell], by decide⟩

/-- What is written for a chain begins with a modifier, a name or a parenthesis that is opened. -/
theorem Chain.exists_spell_eq (chain : Chain) (text : List Char) :
    ∃ c rest, chain.spell text = c :: rest ∧ c ≠ ')' := by
  cases chain with
  | last atom => rw [spell]; exact atom.exists_spell_eq text
  | arrow suspends receiver parameters rest =>
    rw [spell]
    cases suspends with
    | succ suspends => exact ⟨'s', _, rfl, by decide⟩
    | zero =>
      cases receiver with
      | some atom => rw [spellReceiver]; exact atom.exists_spell_eq _
      | none => rw [spellReceiver]; exact ⟨'(', _, rfl, by decide⟩

/-- No chain is read at the end of parameters. -/
theorem Chain.spell_ne_close (chain : Chain) (text rest : List Char) :
    chain.spell text ≠ ')' :: rest := by
  intro same
  obtain ⟨c, others, chars, apart⟩ := chain.exists_spell_eq text
  rw [chars] at same
  exact apart (List.cons.inj same).1

/-! ### Modifiers -/

/-- No atom is read as a modifier. -/
theorem Atom.spell_ne_suspend (atom : Atom) {x : List Char} (stops : StopsAt atomStops x)
    (y : List Char) : atom.spell x ≠ "suspend ".toList ++ y := by
  intro same
  cases atom with
  | name leaf =>
    rw [spell] at same
    have behind : StopsAt punctuation (' ' :: y) := StopsAt.cons (by decide) y
    have same : leaf.chars ++ x = "suspend".toList ++ ' ' :: y := same
    obtain ⟨word, -⟩ := eq_of_append_eq leaf.chars_apart (not_mem_of_all (by decide))
      (stops.mono (by decide)) behind same
    exact leaf.chars_ne_suspend word
  | nullable inner =>
    rw [spell] at same
    cases same

/-- No chain without modifiers is read as one with a modifier. -/
theorem Chain.spellBody_ne_suspend (chain : Chain) {x : List Char} (stops : StopsAt chainStops x)
    (y : List Char) : chain.spellBody x ≠ "suspend ".toList ++ y := by
  cases chain with
  | last atom => exact atom.spell_ne_suspend (stops.mono (by decide)) y
  | arrow suspends receiver parameters rest =>
    rw [spellBody]
    cases receiver with
    | some atom =>
      rw [spellReceiver]
      exact atom.spell_ne_suspend (StopsAt.cons (by decide) _) y
    | none =>
      rw [spellReceiver]
      intro same
      cases same

/-- Modifiers are counted where nothing behind them is one. -/
theorem eq_of_spellSuspends_eq {m n : Nat} {x y : List Char}
    (endX : ∀ text, x ≠ "suspend ".toList ++ text) (endY : ∀ text, y ≠ "suspend ".toList ++ text)
    (same : spellSuspends m x = spellSuspends n y) : m = n ∧ x = y := by
  induction m generalizing n with
  | zero =>
    cases n with
    | zero => exact ⟨rfl, same⟩
    | succ n => exact absurd same (endX _)
  | succ m ih =>
    cases n with
    | zero => exact absurd same.symm (endY _)
    | succ n =>
      obtain ⟨rfl, tails⟩ := ih (List.append_cancel_left same)
      exact ⟨rfl, tails⟩

/-! ### Parameters -/

/-- Behind a parameter there is another one, or the end of all. -/
theorem stopsAt_spellMore (parameters : List Chain) {text : List Char}
    (stops : StopsAt chainStops text) : StopsAt chainStops (spellMore parameters text) := by
  cases parameters with
  | nil => exact stops
  | cons first rest => exact StopsAt.cons (by decide) _

theorem stopsAt_spellArrow (text : List Char) : StopsAt chainStops (spellArrow text) :=
  StopsAt.cons (by decide) _

/-- Further parameters are read one by one. -/
theorem eq_of_spellMore_eq {parameters others : List Chain} {x y : List Char}
    (read : ∀ chain ∈ parameters, chain.IsRead)
    (same : spellMore parameters (spellArrow x) = spellMore others (spellArrow y)) :
    parameters = others ∧ x = y := by
  induction parameters generalizing others with
  | nil =>
    cases others with
    | nil => exact ⟨rfl, by simpa [spellMore, spellArrow] using same⟩
    | cons => exact absurd (List.cons.inj same).1 (by decide)
  | cons first rest ih =>
    cases others with
    | nil => exact absurd (List.cons.inj same).1 (by decide)
    | cons other more =>
      have same : first.spell (spellMore rest (spellArrow x)) =
          other.spell (spellMore more (spellArrow y)) := by
        simpa [spellMore] using same
      obtain ⟨rfl, tails⟩ := read first (List.mem_cons_self ..) other _ _
        (stopsAt_spellMore rest (stopsAt_spellArrow x))
        (stopsAt_spellMore more (stopsAt_spellArrow y)) same
      obtain ⟨rfl, rfl⟩ := ih (fun chain mem => read chain (List.mem_cons_of_mem _ mem)) tails
      exact ⟨rfl, rfl⟩

/-- **Parameters are read up to their parenthesis.** -/
theorem eq_of_spellParameters_eq {parameters others : List Chain} {x y : List Char}
    (read : ∀ chain ∈ parameters, chain.IsRead)
    (same : spellParameters parameters (spellArrow x) = spellParameters others (spellArrow y)) :
    parameters = others ∧ x = y := by
  cases parameters with
  | nil =>
    cases others with
    | nil => exact ⟨rfl, by simpa [spellParameters, spellArrow] using same⟩
    | cons other more => exact absurd same.symm (other.spell_ne_close _ _)
  | cons first rest =>
    cases others with
    | nil => exact absurd same (first.spell_ne_close _ _)
    | cons other more =>
      obtain ⟨rfl, tails⟩ := read first (List.mem_cons_self ..) other _ _
        (stopsAt_spellMore rest (stopsAt_spellArrow x))
        (stopsAt_spellMore more (stopsAt_spellArrow y)) same
      obtain ⟨rfl, rfl⟩ :=
        eq_of_spellMore_eq (fun chain mem => read chain (List.mem_cons_of_mem _ mem)) tails
      exact ⟨rfl, rfl⟩

/-- Behind a parameter there is no question mark in the place of an arrow. -/
theorem spellMore_ne_nullable (parameters : List Chain) (x y : List Char) :
    spellMore parameters (spellArrow x) ≠ ')' :: '?' :: y := by
  intro same
  cases parameters with
  | nil => exact absurd (List.cons.inj (List.cons.inj same).2).1 (by decide)
  | cons => exact absurd (List.cons.inj same).1 (by decide)

/-- **Parameters are not read as an atom**: no question mark is behind them. -/
theorem spellParameters_ne_atom {parameters : List Chain}
    (read : ∀ chain ∈ parameters, chain.IsRead) (atom : Atom) (x y : List Char) :
    '(' :: spellParameters parameters (spellArrow x) ≠ atom.spell y := by
  intro same
  cases atom with
  | name leaf =>
    rw [Atom.spell] at same
    exact leaf.chars_append_ne _ _ same.symm
  | nullable inner =>
    rw [Atom.spell] at same
    have same := (List.cons.inj same).2
    cases parameters with
    | nil => exact inner.spell_ne_close _ _ same.symm
    | cons first rest =>
      obtain ⟨-, tails⟩ := read first (List.mem_cons_self ..) inner _ _
        (stopsAt_spellMore rest (stopsAt_spellArrow x)) (StopsAt.cons (by decide) _) same
      exact spellMore_ne_nullable rest x y tails

/-! ### One case for each constructor -/

namespace Atom.IsRead

/-- A name ends where punctuation begins. -/
theorem name (leaf : Leaf) : (Atom.name leaf).IsRead where
  eq other x y endX endY same := by
    cases other with
    | name other =>
      obtain ⟨chars, tails⟩ := eq_of_append_eq leaf.chars_apart other.chars_apart
        (endX.mono (by decide)) (endY.mono (by decide)) same
      exact ⟨congrArg Atom.name (Leaf.chars_injective chars), tails⟩
    | nullable inner =>
      rw [spell, spell] at same
      exact absurd same (leaf.chars_append_ne _ _)
  ne_parameters parameters x y same := by
    rw [spell] at same
    exact leaf.chars_append_ne _ _ same

/-- What is in parentheses is read as the chain inside, up to the question mark. -/
theorem nullable {inner : Chain} (read : inner.IsRead) : (Atom.nullable inner).IsRead where
  eq other x y endX endY same := by
    cases other with
    | name leaf =>
      rw [spell, spell] at same
      exact absurd same.symm (leaf.chars_append_ne _ _)
    | nullable other =>
      rw [spell, spell] at same
      obtain ⟨rfl, tails⟩ := read other _ _ (StopsAt.cons (by decide) _)
        (StopsAt.cons (by decide) _) (List.cons.inj same).2
      exact ⟨rfl, by simpa using tails⟩
  ne_parameters parameters x y same := by
    rw [spell] at same
    have same := (List.cons.inj same).2
    cases parameters with
    | nil => exact inner.spell_ne_close _ _ same
    | cons first rest =>
      obtain ⟨-, tails⟩ := read first _ _ (StopsAt.cons (by decide) _)
        (stopsAt_spellMore rest (stopsAt_spellArrow y)) same
      exact spellMore_ne_nullable rest y x tails.symm

end Atom.IsRead

namespace Chain.IsRead

/-- Chains are read if they are without modifiers. -/
theorem of_spellBody {chain : Chain} (read : ∀ (other : Chain) (x y : List Char),
    StopsAt chainStops x → StopsAt chainStops y → chain.suspends = other.suspends →
      chain.spellBody x = other.spellBody y → chain = other ∧ x = y) : chain.IsRead := by
  intro other x y endX endY same
  rw [chain.spell_eq, other.spell_eq] at same
  obtain ⟨suspends, bodies⟩ := eq_of_spellSuspends_eq (chain.spellBody_ne_suspend endX)
    (other.spellBody_ne_suspend endY) same
  exact read other x y endX endY suspends bodies

/-- An end is read as its atom: behind it there is no dot. -/
theorem last {atom : Atom} (read : atom.IsRead) : (Chain.last atom).IsRead := by
  refine of_spellBody fun other x y endX endY _ same => ?_
  cases other with
  | last other =>
    obtain ⟨rfl, tails⟩ := read.eq other x y (endX.mono (by decide)) (endY.mono (by decide)) same
    exact ⟨rfl, tails⟩
  | arrow suspends receiver parameters rest =>
    cases receiver with
    | some other =>
      obtain ⟨-, rfl⟩ := read.eq other _ _ (endX.mono (by decide)) (StopsAt.cons (by decide) _) same
      exact absurd (endX '.' rfl) (by decide)
    | none => exact absurd same (read.ne_parameters parameters _ _)

/-- An arrow is read part by part. -/
theorem arrow {suspends : Nat} {receiver : Option Atom} {parameters : List Chain} {rest : Chain}
    (readReceiver : ∀ atom ∈ receiver, atom.IsRead)
    (readParameters : ∀ chain ∈ parameters, chain.IsRead) (readRest : rest.IsRead) :
    (Chain.arrow suspends receiver parameters rest).IsRead := by
  refine of_spellBody fun other x y endX endY count same => ?_
  have behind : ∀ {others : List Chain} {rest' : Chain},
      spellParameters parameters (spellArrow (rest.spell x)) =
        spellParameters others (spellArrow (rest'.spell y)) →
      parameters = others ∧ rest = rest' ∧ x = y := by
    intro others rest' same
    obtain ⟨rfl, rests⟩ := eq_of_spellParameters_eq readParameters same
    exact ⟨rfl, readRest rest' x y endX endY rests⟩
  cases other with
  | last other =>
    cases receiver with
    | some atom =>
      have read := readReceiver atom rfl
      obtain ⟨-, rfl⟩ := read.eq other _ _ (StopsAt.cons (by decide) _) (endY.mono (by decide)) same
      exact absurd (endY '.' rfl) (by decide)
    | none => exact absurd same (spellParameters_ne_atom readParameters other _ _)
  | arrow suspends' receiver' parameters' rest' =>
    obtain rfl : suspends = suspends' := count
    cases receiver with
    | some atom =>
      have read := readReceiver atom rfl
      cases receiver' with
      | some other =>
        obtain ⟨rfl, tails⟩ := read.eq other _ _ (StopsAt.cons (by decide) _)
          (StopsAt.cons (by decide) _) same
        obtain ⟨rfl, rfl, rfl⟩ := behind (List.cons.inj (List.cons.inj tails).2).2
        exact ⟨rfl, rfl⟩
      | none => exact absurd same (read.ne_parameters parameters' _ _)
    | none =>
      cases receiver' with
      | some other => exact absurd same (spellParameters_ne_atom readParameters other _ _)
      | none =>
        obtain ⟨rfl, rfl, rfl⟩ := behind (List.cons.inj same).2
        exact ⟨rfl, rfl⟩

end Chain.IsRead

mutual

/-- **No other chain is read where one is written.** -/
theorem Chain.isRead : ∀ chain : Chain, chain.IsRead
  | .last atom => .last atom.isRead
  | .arrow _ receiver parameters rest =>
    .arrow (isRead_receiver receiver) (isRead_list parameters) rest.isRead

theorem Atom.isRead : ∀ atom : Atom, atom.IsRead
  | .name leaf => .name leaf
  | .nullable inner => .nullable inner.isRead

theorem isRead_receiver : ∀ receiver : Option Atom, ∀ atom ∈ receiver, atom.IsRead
  | none => nofun
  | some atom => by
    rintro _ ⟨⟩
    exact atom.isRead

theorem isRead_list : ∀ chains : List Chain, ∀ chain ∈ chains, chain.IsRead
  | [] => nofun
  | first :: rest => List.forall_mem_cons.mpr ⟨first.isRead, isRead_list rest⟩

end

/-- **A text is that of one chain.** -/
theorem Chain.spell_injective {chain other : Chain} (same : chain.spell [] = other.spell []) :
    chain = other :=
  (chain.isRead other [] [] (StopsAt.nil _) (StopsAt.nil _) same).1

end Diglot
