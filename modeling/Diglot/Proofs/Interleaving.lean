import Diglot.Proofs.Grouping
import Diglot.Proofs.Session

/-!
# What interleaving cannot disturb

`Session.Sound` is the invariant of sessions. It says of the memo that every entry is right,
that no type use has two, and that what was converted on the way to a form is remembered with
it; and of every thread that it follows its account from where it stands. Every step keeps
it (`Session.Step.sound`), whichever thread does the step and whatever the others have done
since it last looked.
-/

namespace Diglot

/-! ## The memo -/

namespace Memo

/-- Every entry is right, and so is what is missing: whoever finds a form finds everything that
was converted for it as well. -/
structure Exact (memo : Memo) : Prop where
  /-- the form of an entry is the Kotlin form -/
  right : ∀ entry ∈ memo.entries, entry.form = entry.key.converted
  /-- a type use has one entry at most -/
  distinct : memo.keys.Nodup
  /-- what is converted on the way is remembered -/
  closed : ∀ key ∈ memo.keys, ∀ part ∈ key.conversions, part ∈ memo.keys

theorem Exact.empty : Memo.empty.Exact where
  right _ mem := absurd mem List.not_mem_nil
  distinct := List.nodup_nil
  closed _ mem := absurd mem List.not_mem_nil

/-- What is found is an entry. -/
theorem mem_of_find? {memo : Memo} {key : TypeUse} {form : Converted key}
    (found : memo.find? key = some form) : ⟨key, form⟩ ∈ memo.entries := by
  obtain ⟨entries⟩ := memo
  rw [find?] at found
  induction entries with
  | nil => cases found
  | cons entry rest ih =>
    rw [findIn] at found
    split at found
    · rename_i same
      subst same
      cases found
      exact List.mem_cons_self ..
    · exact List.mem_cons_of_mem _ (ih found)

/-- Nothing is found only where there is no entry. -/
theorem find?_eq_none_iff {memo : Memo} {key : TypeUse} :
    memo.find? key = none ↔ key ∉ memo.keys := by
  obtain ⟨entries⟩ := memo
  rw [find?, keys]
  induction entries with
  | nil => simp [findIn]
  | cons entry rest ih =>
    rw [findIn]
    split
    · rename_i same
      simp [same]
    · rename_i other
      have other' : ¬ key = entry.key := fun e => other e.symm
      simpa [other'] using ih

theorem mem_keys_of_find? {memo : Memo} {key : TypeUse} {form : Converted key}
    (found : memo.find? key = some form) : key ∈ memo.keys :=
  List.mem_map_of_mem (mem_of_find? found)

/-- **A hit is right.** -/
theorem Exact.of_find? {memo : Memo} (exact : memo.Exact) {key : TypeUse} {form : Converted key}
    (found : memo.find? key = some form) : form = key.converted :=
  exact.right _ (mem_of_find? found)

/-- A form that is entered for the first time is the latest entry. -/
theorem enter_of_find?_none {memo : Memo} {key : TypeUse} {form : Converted key}
    (absent : memo.find? key = none) :
    memo.enter key form = (form, ⟨⟨key, form⟩ :: memo.entries⟩) := by
  rw [enter, absent]

/-- Whoever comes second changes nothing. -/
theorem enter_of_find?_some {memo : Memo} {key : TypeUse} {form known : Converted key}
    (found : memo.find? key = some known) : memo.enter key form = (known, memo) := by
  rw [enter, found]

/-- A thread does something to an exact memo that leaves it exact, gives right answers, and
enters only what it wants. -/
structure Advance (wanted : Set TypeUse) (memo : Memo) (answers : List MemoEntry)
    (memo' : Memo) : Prop where
  /-- the memo is exact -/
  exact : memo'.Exact
  /-- what is remembered was remembered, or it is answered now -/
  keys : ∀ key, key ∈ memo'.keys ↔ key ∈ memo.keys ∨ key ∈ answers.map MemoEntry.key
  /-- the answers are right -/
  right : ∀ answer ∈ answers, answer.form = answer.key.converted
  /-- what is new is wanted -/
  fresh : ∀ key ∈ memo'.keys, key ∈ memo.keys ∨ key ∈ wanted

namespace Advance

/-- A thread that does nothing leaves the memo as it is. -/
theorem refl {wanted : Set TypeUse} {memo : Memo} (exact : memo.Exact) :
    Advance wanted memo [] memo where
  exact := exact
  keys _ := (or_iff_left List.not_mem_nil).symm
  right _ mem := absurd mem List.not_mem_nil
  fresh _ mem := .inl mem

/-- A thread forgets nothing. -/
theorem grows {wanted : Set TypeUse} {memo memo' : Memo} {answers : List MemoEntry}
    (h : Advance wanted memo answers memo') : {key | key ∈ memo.keys} ⊆ {key | key ∈ memo'.keys} :=
  fun key mem => (h.keys key).mpr (.inl mem)

/-- What a thread does for some type uses it may do for more. -/
theorem widen {wanted wanted' : Set TypeUse} {memo memo' : Memo} {answers : List MemoEntry}
    (h : Advance wanted memo answers memo') (sub : wanted ⊆ wanted') :
    Advance wanted' memo answers memo' where
  exact := h.exact
  keys := h.keys
  right := h.right
  fresh key mem := (h.fresh key mem).imp_right fun mem => sub mem

end Advance

/-- **A hit** leaves the memo as it is. -/
theorem Exact.hit {memo : Memo} (exact : memo.Exact) {wanted : Set TypeUse} {key : TypeUse}
    {form : Converted key} (found : memo.find? key = some form) :
    Advance wanted memo [⟨key, form⟩] memo where
  exact := exact
  keys other := by
    refine ⟨.inl, fun h => h.elim id fun mem => ?_⟩
    obtain rfl : other = key := List.mem_singleton.mp mem
    exact mem_keys_of_find? found
  right answer mem := by
    obtain rfl : answer = ⟨key, form⟩ := List.mem_singleton.mp mem
    exact exact.of_find? found
  fresh _ mem := .inl mem

/-- Whoever enters the right form goes on with it, even if another thread was faster. -/
theorem Exact.kept {memo : Memo} (exact : memo.Exact) (key : TypeUse) :
    (memo.enter key key.converted).1 = key.converted := by
  cases found : memo.find? key with
  | some known => rw [enter_of_find?_some found, exact.of_find? found]
  | none => rw [enter_of_find?_none found]

/-- **An entry** of the right form, after those of its parts, leaves the memo exact. -/
theorem Exact.enter {memo : Memo} (exact : memo.Exact) {wanted : Set TypeUse} {key : TypeUse}
    (needed : key ∈ wanted) (parts : ∀ part ∈ key.conversions, part = key ∨ part ∈ memo.keys) :
    Advance wanted memo [⟨key, key.converted⟩] (memo.enter key key.converted).2 := by
  cases found : memo.find? key with
  | some known =>
    obtain rfl : known = key.converted := exact.of_find? found
    rw [enter_of_find?_some found]
    exact exact.hit found
  | none =>
    rw [enter_of_find?_none found]
    have keys : (⟨⟨key, key.converted⟩ :: memo.entries⟩ : Memo).keys = key :: memo.keys := rfl
    refine ⟨⟨?_, ?_, ?_⟩, ?_, ?_, ?_⟩
    · intro entry mem
      rcases List.mem_cons.mp mem with rfl | mem
      · rfl
      · exact exact.right entry mem
    · rw [keys]
      exact List.nodup_cons.mpr ⟨find?_eq_none_iff.mp found, exact.distinct⟩
    · rw [keys]
      intro other mem part memPart
      rw [List.mem_cons]
      rcases List.mem_cons.mp mem with rfl | mem
      · exact parts part memPart
      · exact .inr (exact.closed other mem part memPart)
    · intro other
      rw [keys, List.mem_cons, List.map_singleton, List.mem_singleton]
      exact or_comm
    · intro answer mem
      obtain rfl : answer = ⟨key, key.converted⟩ := List.mem_singleton.mp mem
      rfl
    · intro other mem
      rcases List.mem_cons.mp mem with rfl | mem
      · exact .inr needed
      · exact .inl mem

end Memo

/-! ## Threads -/

namespace Thread

variable {α : Type}

/-- The thread follows an account from where it stands. -/
def Sound (memo : Memo) (account : Account α) (thread : Thread α) : Prop :=
  thread.rest.Follows account.outcome account.wanted {key | key ∈ memo.keys} thread.stack

/-- A thread is sound whatever others do. -/
theorem Sound.mono {memo memo' : Memo} {account : Account α} {thread : Thread α}
    (h : thread.Sound memo account)
    (grows : {key | key ∈ memo.keys} ⊆ {key | key ∈ memo'.keys}) : thread.Sound memo' account :=
  Program.Follows.mono h grows

/-- **One step of a thread** keeps the memo exact and the thread sound. -/
theorem Step.sound {memo memo' : Memo} {thread thread' : Thread α} {answers : List MemoEntry}
    {account : Account α} (step : Step memo thread answers memo' thread') (exact : memo.Exact)
    (h : thread.Sound memo account) :
    memo.Advance account.wanted answers memo' ∧ thread'.Sound memo' account := by
  rw [Sound] at h
  cases step with
  | hit found =>
    cases h with
    | lookup miss hit =>
      -- what is found is right, and everything that was converted for it is there
      refine ⟨exact.hit found, ?_⟩
      rw [exact.of_find? found]
      refine hit.mono (Set.union_subset subset_rfl ?_)
      exact exact.closed _ (Memo.mem_keys_of_find? found)
  | miss absent =>
    cases h with
    | lookup miss hit => exact ⟨.refl exact, miss⟩
  | enter =>
    cases h with
    | enter needed parts rest =>
      have advance := exact.enter needed parts
      -- the thread goes on with the same form if another one has entered it before
      rw [exact.kept]
      refine ⟨advance, rest.mono ?_⟩
      rintro key (rfl | mem)
      · exact (advance.keys key).mpr (.inr (List.mem_singleton.mpr rfl))
      · exact advance.grows mem

/-- When a thread has ended, it has come to the outcome of its account, it is in the middle
of nothing, and what it wanted is remembered. -/
theorem Sound.ended {memo : Memo} {account : Account α} {stack : List TypeUse}
    {outcome : Except RenderError α}
    (h : (⟨stack, .finished outcome⟩ : Thread α).Sound memo account) :
    stack = [] ∧ outcome = account.outcome ∧ account.wanted ⊆ {key | key ∈ memo.keys} := by
  rw [Sound] at h
  cases h with
  | finished covered => exact ⟨rfl, rfl, covered⟩

end Thread

/-! ## Declarations -/

namespace Rendering

/-- Every source set is waiting, worked at or entered; the threads are sound; and the
variants are made up by what was entered. -/
structure Sound (context : Context) (memo : Memo) (r : Rendering) : Prop where
  /-- no source set is lost -/
  all : (r.waiting ++ r.begun).Perm r.declaration.sourceSets
  /-- the threads are after the signatures of their source sets -/
  threads : ∀ work ∈ r.working, work.2.Sound memo (r.account context work.1)
  /-- what was entered is right, and what was wanted for it is remembered -/
  entered : ∀ pair ∈ r.entered, (r.account context pair.1).outcome = .ok pair.2 ∧
    (r.account context pair.1).wanted ⊆ {key | key ∈ memo.keys}
  /-- the variants are those of the pairs that were entered -/
  groups : Variant.Groups r.entered r.variants

theorem Sound.mono {context : Context} {memo memo' : Memo} {r : Rendering}
    (h : r.Sound context memo) (grows : {key | key ∈ memo.keys} ⊆ {key | key ∈ memo'.keys}) :
    r.Sound context memo' where
  all := h.all
  threads work mem := (h.threads work mem).mono grows
  entered pair mem := ⟨(h.entered pair mem).1, (h.entered pair mem).2.trans grows⟩
  groups := h.groups

theorem Sound.start (context : Context) (memo : Memo) (declaration : Declaration)
    (inSummary : Bool) : (Rendering.start declaration inSummary).Sound context memo where
  all := by
    rw [Rendering.start, begun]
    simp
  threads _ mem := absurd mem List.not_mem_nil
  entered _ mem := absurd mem List.not_mem_nil
  groups := .empty

/-- What is taken up stays taken up, and the declaration stays the same. -/
theorem Step.keeps {context : Context} {memo memo' : Memo} {r r' : Rendering}
    {answers : List MemoEntry} (step : Step context memo r answers memo' r') :
    r'.declaration = r.declaration ∧ r'.inSummary = r.inSummary ∧ ∀ s ∈ r.begun, s ∈ r'.begun := by
  cases step with
  | takeUp mem => exact ⟨rfl, rfl, fun s mem => List.mem_cons_of_mem _ mem⟩
  | work mem step =>
    refine ⟨rfl, rfl, fun s memS => ?_⟩
    exact (((mem.map Prod.fst).append_right _).mem_iff.mp memS)
  | enter mem listed =>
    refine ⟨rfl, rfl, fun s memS => ?_⟩
    have perm := (mem.map Prod.fst).append_right (r.entered.map Prod.fst)
    exact (perm.trans List.perm_middle.symm).mem_iff.mp memS

/-- What a source set wants once it is taken up, the declaration wants. -/
theorem wanted_subset {context : Context} {r : Rendering} {s : SourceSet} (mem : s ∈ r.begun) :
    (r.account context s).wanted ⊆ (Call.rendering r).wanted context := by
  rintro part ⟨type, memType, memPart⟩
  exact ⟨type, List.mem_flatMap.mpr ⟨s, mem, memType⟩, memPart⟩

/-- **One step of a rendering** keeps the memo exact and the rendering sound. -/
theorem Step.sound {context : Context} {memo memo' : Memo} {r r' : Rendering}
    {answers : List MemoEntry} (step : Step context memo r answers memo' r')
    (exact : memo.Exact) (h : r.Sound context memo) :
    memo.Advance ((Call.rendering r').wanted context) answers memo' ∧ r'.Sound context memo' := by
  cases step with
  | takeUp mem =>
    refine ⟨.refl exact, (List.perm_middle.trans (mem.symm.append_right _)).trans h.all, ?_,
      h.entered, h.groups⟩
    intro work memWork
    rcases List.mem_cons.mp memWork with rfl | memWork
    · exact (Account.follows context.dialect).renderSignature _ _ _ _
    · exact h.threads work memWork
  | @work _ _ s thread thread' working _ mem step =>
    have sound := h.threads (s, thread) (mem.mem_iff.mpr (List.mem_cons_self ..))
    obtain ⟨advance, sound'⟩ := step.sound exact sound
    have begun : s ∈ ({ r with working := (s, thread') :: working } : Rendering).begun :=
      List.mem_cons_self ..
    refine ⟨advance.widen (wanted_subset begun), ?_, ?_, (h.mono advance.grows).entered, h.groups⟩
    · refine List.Perm.trans ?_ h.all
      exact (((mem.map Prod.fst).symm.append_right _).append_left _)
    · intro work memWork
      rcases List.mem_cons.mp memWork with rfl | memWork
      · exact sound'
      · exact (h.threads work (mem.mem_iff.mpr (List.mem_cons_of_mem _ memWork))).mono advance.grows
  | @enter _ s signature stack working variants mem listed =>
    -- the thread has ended, and what it wanted stays remembered from here on
    have sound := h.threads (s, ⟨stack, .finished (.ok signature)⟩)
      (mem.mem_iff.mpr (List.mem_cons_self ..))
    obtain ⟨-, outcome, covered⟩ := sound.ended
    refine ⟨.refl exact, ?_, ?_, ?_, (h.groups.enter s signature).perm listed⟩
    · refine List.Perm.trans (List.Perm.append_left _ ?_) h.all
      exact List.perm_middle.trans ((mem.map Prod.fst).symm.append_right _)
    · exact fun work memWork => h.threads work (mem.mem_iff.mpr (List.mem_cons_of_mem _ memWork))
    · intro pair memPair
      rcases List.mem_cons.mp memPair with rfl | memPair
      · exact ⟨outcome.symm, covered⟩
      · exact h.entered pair memPair

/-- When the threads of a declaration have ended, they are in the middle of nothing, and all
that was wanted for its source sets is remembered. -/
theorem Sound.atRest {context : Context} {memo : Memo} {r : Rendering}
    (h : r.Sound context memo) (rest : r.AtRest) :
    (Call.rendering r).stack = [] ∧
      (Call.rendering r).wanted context ⊆ {key | key ∈ memo.keys} := by
  have ended : ∀ work ∈ r.working, work.2.stack = [] ∧
      (r.account context work.1).wanted ⊆ {key | key ∈ memo.keys} := by
    rintro ⟨s, stack, program⟩ mem
    have sound := h.threads _ mem
    obtain ⟨outcome, eq⟩ := rest _ mem
    cases eq
    obtain ⟨empty, -, covered⟩ := sound.ended
    exact ⟨empty, covered⟩
  constructor
  · exact List.flatMap_eq_nil_iff.mpr fun work mem => (ended work mem).1
  · rintro part ⟨type, memType, memPart⟩
    obtain ⟨s, begun, memType⟩ := List.mem_flatMap.mp memType
    rcases List.mem_append.mp begun with mem | mem
    · obtain ⟨work, memWork, rfl⟩ := List.mem_map.mp mem
      exact (ended work memWork).2 ⟨type, memType, memPart⟩
    · obtain ⟨pair, memPair, rfl⟩ := List.mem_map.mp mem
      exact (h.entered pair memPair).2 ⟨type, memType, memPart⟩

end Rendering

/-! ## Calls -/

namespace Call

/-- The call is sound, and it does what it was asked to do. -/
inductive Sound (context : Context) (memo : Memo) : Request → Call → Prop where
  | conversion {type : TypeUse} {thread : Thread (Converted type)}
    (sound : thread.Sound memo (Converting.toKotlin type)) :
    Sound context memo (.conversion type) (.conversion type thread)
  | rendering {r : Rendering} (sound : r.Sound context memo) :
    Sound context memo (.rendering r.declaration r.inSummary) (.rendering r)

theorem Sound.mono {context : Context} {memo memo' : Memo} {request : Request} {call : Call}
    (h : Sound context memo request call)
    (grows : {key | key ∈ memo.keys} ⊆ {key | key ∈ memo'.keys}) :
    Sound context memo' request call := by
  cases h with
  | conversion sound => exact .conversion (sound.mono grows)
  | rendering sound => exact .rendering (sound.mono grows)

theorem Sound.start (context : Context) (memo : Memo) (request : Request) :
    Sound context memo request (start request) := by
  cases request with
  | conversion type =>
    exact .conversion ((Account.follows .kotlin).toKotlin rfl type _)
  | rendering declaration inSummary =>
    exact .rendering (.start context memo declaration inSummary)

/-- **One step of a call** keeps the memo exact and the call sound. -/
theorem Step.sound {context : Context} {memo memo' : Memo} {request : Request}
    {call call' : Call} {answers : List MemoEntry}
    (step : Step context memo call answers memo' call') (exact : memo.Exact)
    (h : Sound context memo request call) :
    memo.Advance (call'.wanted context) answers memo' ∧ Sound context memo' request call' ∧
      call.wanted context ⊆ call'.wanted context := by
  cases step with
  | conversion step =>
    cases h with
    | conversion sound =>
      obtain ⟨advance, sound'⟩ := step.sound exact sound
      exact ⟨advance, .conversion sound', subset_rfl⟩
  | rendering step =>
    cases h with
    | rendering sound =>
      obtain ⟨advance, sound'⟩ := step.sound exact sound
      obtain ⟨declaration, inSummary, begun⟩ := step.keeps
      refine ⟨advance, ?_, ?_⟩
      · rw [← declaration, ← inSummary]
        exact .rendering sound'
      · rintro part ⟨type, memType, memPart⟩
        obtain ⟨s, mem, memType⟩ := List.mem_flatMap.mp memType
        refine Rendering.wanted_subset (begun s mem) ⟨type, ?_, memPart⟩
        rw [Rendering.account, declaration, inSummary]
        exact memType

/-- When its threads have ended, a call is in the middle of nothing, and all that was wanted
for it is remembered. -/
theorem Sound.atRest {context : Context} {memo : Memo} {request : Request} {call : Call}
    (h : Sound context memo request call) (rest : call.AtRest) :
    call.stack = [] ∧ call.wanted context ⊆ {key | key ∈ memo.keys} := by
  cases h with
  | @conversion type thread sound =>
    obtain ⟨stack, program⟩ := thread
    obtain ⟨outcome, eq⟩ := rest
    cases eq
    obtain ⟨empty, -, covered⟩ := sound.ended
    exact ⟨empty, covered⟩
  | rendering sound => exact sound.atRest rest

/-- All type uses that are wanted for some of the calls. -/
def allWanted (context : Context) (calls : List Call) : Set TypeUse :=
  {key | ∃ call ∈ calls, key ∈ call.wanted context}

/-- **One step of one of several calls** keeps the memo exact and all calls sound. -/
theorem SomeStep.sound {context : Context} {memo memo' : Memo} {requests : List Request}
    {calls calls' : List Call} {answers : List MemoEntry}
    (step : SomeStep context memo calls answers memo' calls') (exact : memo.Exact)
    (h : List.Forall₂ (Sound context memo) requests calls) :
    memo.Advance (allWanted context calls') answers memo' ∧
      List.Forall₂ (Sound context memo') requests calls' ∧
        allWanted context calls ⊆ allWanted context calls' := by
  induction step generalizing requests with
  | here step =>
    cases h with
    | cons first others =>
      obtain ⟨advance, sound, grows⟩ := step.sound exact first
      -- the other calls do nothing, and what has been entered does them no harm
      refine ⟨advance.widen ?_, .cons sound (others.imp fun _ _ h => h.mono advance.grows), ?_⟩
      · exact fun key mem => ⟨_, List.mem_cons_self .., mem⟩
      · rintro key ⟨call, mem, memKey⟩
        rcases List.mem_cons.mp mem with rfl | mem
        · exact ⟨_, List.mem_cons_self .., grows memKey⟩
        · exact ⟨call, List.mem_cons_of_mem _ mem, memKey⟩
  | later step ih =>
    cases h with
    | cons first others =>
      obtain ⟨advance, sound, grows⟩ := ih others
      refine ⟨advance.widen ?_, .cons (first.mono advance.grows) sound, ?_⟩
      · rintro key ⟨call, mem, memKey⟩
        exact ⟨call, List.mem_cons_of_mem _ mem, memKey⟩
      · rintro key ⟨call, mem, memKey⟩
        rcases List.mem_cons.mp mem with rfl | mem
        · exact ⟨_, List.mem_cons_self .., memKey⟩
        · obtain ⟨call', mem', memKey'⟩ := grows ⟨call, mem, memKey⟩
          exact ⟨call', List.mem_cons_of_mem _ mem', memKey'⟩

end Call

/-! ## Sessions -/

namespace Session

/-- The invariant of sessions. -/
structure Sound (context : Context) (requests : List Request) (session : Session) : Prop where
  /-- the memo is exact -/
  memo : session.memo.Exact
  /-- all answers were right -/
  right : ∀ answer ∈ session.answers, answer.form = answer.key.converted
  /-- what is remembered is what was answered -/
  keys : ∀ key, key ∈ session.memo.keys ↔ key ∈ session.answers.map MemoEntry.key
  /-- nothing is remembered that is not wanted for some call -/
  wanted : {key | key ∈ session.memo.keys} ⊆ Call.allWanted context session.calls
  /-- the calls are sound -/
  calls : List.Forall₂ (Call.Sound context session.memo) requests session.calls

theorem Sound.start (context : Context) (requests : List Request) :
    (Session.start requests).Sound context requests where
  memo := .empty
  right _ mem := absurd mem List.not_mem_nil
  keys _ := Iff.rfl
  wanted _ mem := absurd mem List.not_mem_nil
  calls := List.forall₂_map_right_iff.mpr
    (List.forall₂_same.mpr fun request _ => .start context _ request)

/-- **Every step of a session is sound.** -/
theorem Step.sound {context : Context} {requests : List Request} {session session' : Session}
    (step : Step context session session') (h : session.Sound context requests) :
    session'.Sound context requests := by
  obtain ⟨answers, step, eq⟩ := step
  obtain ⟨advance, sound, grows⟩ := step.sound h.memo h.calls
  refine ⟨advance.exact, ?_, fun key => ?_, fun key mem => ?_, sound⟩
  · rw [eq]
    intro answer mem
    exact (List.mem_append.mp mem).elim (advance.right answer) (h.right answer)
  · rw [eq, advance.keys, h.keys, List.map_append, List.mem_append]
    exact or_comm
  · exact (advance.fresh key mem).elim (fun mem => grows (h.wanted mem)) id

/-- **Every session is sound**, whatever its steps were. -/
theorem Reaches.sound {context : Context} {requests : List Request} {session : Session}
    (reached : Reaches context (start requests) session) : session.Sound context requests := by
  induction reached with
  | refl => exact .start context requests
  | tail _ step ih => exact step.sound ih

end Session

end Diglot
