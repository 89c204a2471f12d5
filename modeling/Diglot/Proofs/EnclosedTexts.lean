import Diglot.Proofs.ArrowTexts

/-!
# Texts that commas divide

What a text between two commas is can be seen from outside if its own commas stand inside of
brackets or quotes, and these are closed where it ends.

* `Reading` — how many brackets are open, and which quote, at some place of a text.
* `Enclosed` — texts in which no comma stands outside and nothing is left open. What is put together
  from such texts is enclosed, with commas between them if it stands inside of brackets.
* `eq_of_enclosed` — an enclosed text ends where a comma follows, and nowhere else.
-/

namespace Diglot

/-! ## Reading -/

/-- What a character means to a reader who looks for commas. -/
inductive Mark where
  /-- it begins or ends a quotation -/
  | quote
  /-- it opens a bracket -/
  | opens
  /-- it closes a bracket, whichever is open -/
  | closes
  /-- it divides texts -/
  | comma
  /-- nothing -/
  | other
deriving DecidableEq

/-- The meaning of a character outside of quotations. -/
def Mark.of : Char → Mark
  | '"' | '\x27' => quote
  | '(' | '\x7b' => opens
  | ')' | '\x7d' => closes
  | ',' => comma
  | _ => other

/-- How far a text has been read. -/
structure Reading where
  /-- the number of brackets that are open -/
  depth : Nat
  /-- the quote that is open, if one is -/
  quote : Option Char
deriving DecidableEq

namespace Reading

/-- Read a character. Outside of all brackets there must be no comma, and nothing to close. -/
def step : Reading → Char → Option Reading
  | ⟨depth, some quote⟩, c => some ⟨depth, if c = quote then none else some quote⟩
  | ⟨depth, none⟩, c =>
    match Mark.of c, depth with
    | .quote, depth => some ⟨depth, some c⟩
    | .opens, depth => some ⟨depth + 1, none⟩
    | .closes, depth + 1 => some ⟨depth, none⟩
    | .comma, depth + 1 => some ⟨depth + 1, none⟩
    | .other, depth => some ⟨depth, none⟩
    | _, 0 => none

/-- Read a text. -/
def read (r : Reading) (text : List Char) : Option Reading :=
  text.foldlM step r

theorem read_cons (r : Reading) (c : Char) (rest : List Char) :
    r.read (c :: rest) = (r.step c).bind fun r' => r'.read rest :=
  List.foldlM_cons

theorem read_append (r : Reading) (a b : List Char) :
    r.read (a ++ b) = (r.read a).bind fun r' => r'.read b :=
  List.foldlM_append

/-- A reading with `more` brackets around it. -/
def deeper (more : Nat) (r : Reading) : Reading :=
  { r with depth := more + r.depth }

/-- Brackets around do not matter to what can be read without them. -/
theorem step_deeper (more : Nat) {r r' : Reading} {c : Char} (read : r.step c = some r') :
    (r.deeper more).step c = some (r'.deeper more) := by
  obtain ⟨depth, quote⟩ := r
  cases quote with
  | some quote =>
    cases read
    rfl
  | none =>
    simp only [step, deeper] at read ⊢
    cases mark : Mark.of c with
    | quote | opens | other =>
      rw [mark] at read
      cases read
      rfl
    | closes | comma =>
      rw [mark] at read
      cases depth with
      | zero => cases read
      | succ depth =>
        cases read
        rfl

/-- Brackets around do not matter to whole texts that can be read without them. -/
theorem read_deeper (more : Nat) {text : List Char} {r r' : Reading}
    (read : r.read text = some r') : (r.deeper more).read text = some (r'.deeper more) := by
  induction text generalizing r with
  | nil =>
    cases read
    rfl
  | cons c rest ih =>
    rw [read_cons] at read ⊢
    obtain ⟨next, step, read⟩ := Option.bind_eq_some_iff.mp read
    rw [step_deeper more step]
    exact ih read

end Reading

/-! ## Enclosed texts -/

/-- **Texts that are enclosed**: read inside of `depth` brackets, they have no comma outside of all
brackets, and where they end as many are open as before. -/
def Enclosed (depth : Nat) (text : List Char) : Prop :=
  Reading.read ⟨depth, none⟩ text = some ⟨depth, none⟩

instance (depth : Nat) (text : List Char) : Decidable (Enclosed depth text) :=
  inferInstanceAs (Decidable (_ = _))

namespace Enclosed

variable {depth : Nat} {a b : List Char}

theorem nil (depth : Nat) : Enclosed depth [] :=
  rfl

/-- What is enclosed stays so inside of more brackets. -/
theorem deeper (more : Nat) (enclosed : Enclosed depth a) : Enclosed (more + depth) a :=
  Reading.read_deeper more enclosed

theorem append (first : Enclosed depth a) (second : Enclosed depth b) :
    Enclosed depth (a ++ b) := by
  rw [Enclosed, Reading.read_append, first]
  exact second

/-- A character without a meaning. -/
theorem cons {c : Char} (other : Mark.of c = .other) (rest : Enclosed depth a) :
    Enclosed depth (c :: a) := by
  have itself : Reading.step ⟨depth, none⟩ c = some ⟨depth, none⟩ := by
    simp only [Reading.step, other]
  rw [Enclosed, Reading.read_cons, itself]
  exact rest

/-- A comma inside of a bracket. -/
theorem comma (rest : Enclosed (depth + 1) a) : Enclosed (depth + 1) (',' :: a) :=
  rest

/-- A text in brackets. -/
theorem bracket {opened closed : Char} (opens : Mark.of opened = .opens)
    (closes : Mark.of closed = .closes) (inside : Enclosed (depth + 1) a) :
    Enclosed depth (opened :: (a ++ [closed])) := by
  have first : Reading.step ⟨depth, none⟩ opened = some ⟨depth + 1, none⟩ := by
    simp only [Reading.step, opens]
  have last : Reading.step ⟨depth + 1, none⟩ closed = some ⟨depth, none⟩ := by
    simp only [Reading.step, closes]
  rw [Enclosed, Reading.read_cons, first, Option.bind_some, Reading.read_append, inside,
    Option.bind_some, Reading.read_cons, last]
  rfl

/-- Behind an enclosed text, no comma can be read as a part of it. -/
theorem not_comma (enclosed : Enclosed 0 a) (rest : List Char) :
    ¬ Enclosed 0 (a ++ ',' :: rest) := by
  rw [Enclosed, Reading.read_append, enclosed]
  nofun

/-- An enclosed text does not go on where a comma follows. -/
theorem eq_nil_of_append {x y z : List Char} (enclosed : Enclosed 0 a)
    (longer : Enclosed 0 (a ++ z)) (stops : StopsAt [','] x) (same : x = z ++ y) : z = [] := by
  cases z with
  | nil => rfl
  | cons c rest =>
    have comma : c = ',' := List.mem_singleton.mp (stops c (same ▸ rfl))
    exact absurd (comma ▸ longer) (enclosed.not_comma rest)

end Enclosed

/-- **Up to a comma**, an enclosed text is determined by what is written. -/
theorem eq_of_enclosed {a b x y : List Char} (enclosedA : Enclosed 0 a) (enclosedB : Enclosed 0 b)
    (endA : StopsAt [','] x) (endB : StopsAt [','] y) (same : a ++ x = b ++ y) :
    a = b ∧ x = y := by
  rcases List.append_eq_append_iff.mp same with ⟨z, rfl, rest⟩ | ⟨z, rfl, rest⟩
  · obtain rfl := enclosedA.eq_nil_of_append enclosedB endA rest
    exact ⟨(List.append_nil a).symm, rest⟩
  · obtain rfl := enclosedB.eq_nil_of_append enclosedA endB rest
    exact ⟨List.append_nil b, rest.symm⟩

end Diglot
