import Diglot.Proofs.Interleaving
import Mathlib.Algebra.GroupWithZero.Nat

/-!
# Sessions come to an end

A session that can do no more step is over: every conversion has its form, and every rendering
returns something (`Session.over_of_stuck`). And every session comes to that point: each
step leaves fewer to be done (`Session.Step.left_lt`). What is left of a program is
counted over both answers to a look-up, as nothing is known about which one it will be; but a
form that is found is the right one, which makes the count finite.
-/

namespace Diglot

/-! ## Threads -/

/-- The most steps of a program over exact memos. -/
def Program.longest {α : Type} : Program α → Nat
  | finished _ => 0
  | lookup key next => 1 + max (next none).longest (next (some key.converted)).longest
  | enter key _ next => 1 + (next key.converted).longest

namespace Thread

variable {α : Type}

/-- The form that a sound thread is about to enter is the right one. -/
theorem Sound.enters {memo : Memo} {account : Account α} {stack : List TypeUse} {key : TypeUse}
    {form : Converted key} {next : Converted key → Program α}
    (h : (⟨stack, .enter key form next⟩ : Thread α).Sound memo account) :
    form = key.converted := by
  rw [Sound] at h
  cases h with
  | enter needed parts rest => rfl

/-- **A step of a thread** leaves less to be done. -/
theorem Step.longest_lt {memo memo' : Memo} {thread thread' : Thread α}
    {answers : List MemoEntry} {account : Account α} (exact : memo.Exact)
    (h : thread.Sound memo account) (step : Step memo thread answers memo' thread') :
    thread'.rest.longest < thread.rest.longest := by
  cases step with
  | hit found =>
    rw [exact.of_find? found, Program.longest, Nat.add_comm]
    exact Nat.lt_succ_of_le (Nat.le_max_right _ _)
  | miss absent =>
    rw [Program.longest, Nat.add_comm]
    exact Nat.lt_succ_of_le (Nat.le_max_left _ _)
  | enter =>
    obtain rfl := h.enters
    rw [Program.longest, exact.kept, Nat.add_comm]
    exact Nat.lt_succ_self _

/-- **A thread is never stuck** before it has ended. -/
theorem ended_or_step (memo : Memo) (thread : Thread α) :
    thread.Ended ∨ ∃ answers memo' thread', Step memo thread answers memo' thread' := by
  obtain ⟨stack, program⟩ := thread
  cases program with
  | finished outcome => exact .inl ⟨outcome, rfl⟩
  | enter key form next => exact .inr ⟨_, _, _, .enter⟩
  | lookup key next =>
    cases found : memo.find? key with
    | none => exact .inr ⟨_, _, _, .miss found⟩
    | some form => exact .inr ⟨_, _, _, .hit found⟩

end Thread

/-! ## Declarations -/

namespace Rendering

/-- What is left to be done for a declaration: to take up what is waiting, to work, and to
enter. -/
def left (context : Context) (r : Rendering) : Nat :=
  (r.waiting.map fun s =>
      (renderSignature context r.declaration s r.inSummary : Program Signature).longest + 2).sum +
    (r.working.map fun work => work.2.rest.longest + 1).sum

/-- **A step of a rendering** leaves less to be done. -/
theorem Step.left_lt {context : Context} {memo memo' : Memo} {r r' : Rendering}
    {answers : List MemoEntry} (exact : memo.Exact) (h : r.Sound context memo)
    (step : Step context memo r answers memo' r') : r'.left context < r.left context := by
  cases step with
  | takeUp mem =>
    have waiting := (mem.map fun s =>
      (renderSignature context r.declaration s r.inSummary : Program Signature).longest + 2).sum_nat
    simp only [left, waiting, List.map_cons, List.sum_cons, Thread.start]
    omega
  | @work _ _ s thread thread' working _ mem step =>
    have sound : thread.Sound memo (r.account context s) :=
      h.threads (s, thread) (mem.mem_iff.mpr (List.mem_cons_self ..))
    have less := step.longest_lt exact sound
    have all := (mem.map fun work : SourceSet × Thread Signature =>
      work.2.rest.longest + 1).sum_nat
    simp only [left, all, List.map_cons, List.sum_cons]
    omega
  | enter mem listed =>
    have all := (mem.map fun work : SourceSet × Thread Signature =>
      work.2.rest.longest + 1).sum_nat
    simp only [left, all, List.map_cons, List.sum_cons]
    omega

/-- **A rendering is never stuck** before it returns something. -/
theorem returns_or_step (context : Context) (memo : Memo) (r : Rendering) :
    (r.AtRest ∧ ∃ result, r.Returns result) ∨
      ∃ answers memo' r', Step context memo r answers memo' r' := by
  cases waiting : r.waiting with
  | cons s rest =>
    have perm : r.waiting.Perm (s :: rest) := by rw [waiting]
    exact .inr ⟨_, _, _, .takeUp perm⟩
  | nil =>
    by_cases able : ∃ answers memo' r', Step context memo r answers memo' r'
    · exact .inr able
    refine .inl ?_
    -- no thread can step, and none is ready to enter its signature
    have failed : ∀ work ∈ r.working, ∃ e, work.2.rest = .finished (.error e) := by
      rintro ⟨s, stack, program⟩ mem
      obtain ⟨before, after, eq⟩ := List.append_of_mem mem
      have perm : r.working.Perm ((s, ⟨stack, program⟩) :: (before ++ after)) := by
        rw [eq]
        exact List.perm_middle
      rcases Thread.ended_or_step memo ⟨stack, program⟩ with ⟨outcome, eq⟩ | ⟨_, _, _, step⟩
      · cases eq
        cases outcome with
        | error e => exact ⟨e, rfl⟩
        | ok signature => exact absurd ⟨_, _, _, .enter perm (.refl _)⟩ able
      · exact absurd ⟨_, _, _, .work perm step⟩ able
    have rest : r.AtRest := fun work mem =>
      let ⟨e, eq⟩ := failed work mem
      ⟨.error e, eq⟩
    refine ⟨rest, ?_⟩
    cases working : r.working with
    | nil => exact ⟨_, _, .complete waiting working, rfl⟩
    | cons work others =>
      have mem : work ∈ r.working := working ▸ List.mem_cons_self ..
      obtain ⟨e, eq⟩ := failed work mem
      obtain ⟨s, stack, program⟩ := work
      cases eq
      exact ⟨_, _, .failed rest mem, rfl⟩

end Rendering

/-! ## Calls -/

namespace Call

/-- The call has returned what it returns, or is about to. -/
def Over : Call → Prop
  | .conversion _ thread => thread.Ended
  | .rendering r => r.AtRest ∧ ∃ result, r.Returns result

/-- Whatever is over is at rest. -/
theorem Over.atRest {call : Call} (h : call.Over) : call.AtRest := by
  cases call with
  | conversion type thread => exact h
  | rendering r => exact h.1

/-- What is left to be done for a call. -/
def left (context : Context) : Call → Nat
  | .conversion _ thread => thread.rest.longest
  | .rendering r => r.left context

/-- **A call is never stuck** before it is over. -/
theorem over_or_step (context : Context) (memo : Memo) (call : Call) :
    call.Over ∨ ∃ answers memo' call', Step context memo call answers memo' call' := by
  cases call with
  | conversion type thread =>
    refine (thread.ended_or_step memo).imp_right ?_
    rintro ⟨answers, memo', thread', step⟩
    exact ⟨_, _, _, .conversion step⟩
  | rendering r =>
    refine (r.returns_or_step context memo).imp_right ?_
    rintro ⟨answers, memo', r', step⟩
    exact ⟨_, _, _, .rendering step⟩

/-- **A step of a call** leaves less to be done. -/
theorem Step.left_lt {context : Context} {memo memo' : Memo} {request : Request}
    {call call' : Call} {answers : List MemoEntry} (exact : memo.Exact)
    (h : Sound context memo request call) (step : Step context memo call answers memo' call') :
    call'.left context < call.left context := by
  cases step with
  | conversion step =>
    cases h with
    | conversion sound => exact step.longest_lt exact sound
  | rendering step =>
    cases h with
    | rendering sound => exact step.left_lt exact sound

/-- **A step of one of several calls** leaves less to be done for all of them. -/
theorem SomeStep.left_lt {context : Context} {memo memo' : Memo} {requests : List Request}
    {calls calls' : List Call} {answers : List MemoEntry} (exact : memo.Exact)
    (h : List.Forall₂ (Sound context memo) requests calls)
    (step : SomeStep context memo calls answers memo' calls') :
    (calls'.map (left context)).sum < (calls.map (left context)).sum := by
  induction step generalizing requests with
  | here step =>
    cases h with
    | cons first others => exact Nat.add_lt_add_right (step.left_lt exact first) _
  | later step ih =>
    cases h with
    | cons first others => exact Nat.add_lt_add_left (ih others) _

/-- Any call may do the next step. -/
theorem SomeStep.of_mem {context : Context} {memo memo' : Memo} {call call' : Call}
    {answers : List MemoEntry} {calls : List Call} (mem : call ∈ calls)
    (step : Step context memo call answers memo' call') :
    ∃ calls', SomeStep context memo calls answers memo' calls' := by
  induction calls with
  | nil => cases mem
  | cons first rest ih =>
    rcases List.mem_cons.mp mem with rfl | mem
    · exact ⟨_, .here step⟩
    · obtain ⟨rest', step'⟩ := ih mem
      exact ⟨_, .later step'⟩

end Call

/-! ## Sessions -/

namespace Session

/-- What is left to be done in a session. -/
def left (context : Context) (session : Session) : Nat :=
  (session.calls.map (Call.left context)).sum

/-- **Every step leaves less to be done.** -/
theorem Step.left_lt {context : Context} {requests : List Request} {session session' : Session}
    (h : session.Sound context requests) (step : Step context session session') :
    session'.left context < session.left context := by
  obtain ⟨answers, step, -⟩ := step
  exact step.left_lt h.memo h.calls

/-- **No session goes on for ever.** -/
theorem Sound.ends {context : Context} {requests : List Request} {session : Session}
    (h : session.Sound context requests) :
    Acc (fun next session => Step context session next) session := by
  induction size : session.left context using Nat.strongRecOn generalizing session with
  | ind size ih =>
    subst size
    exact .intro _ fun next step => ih _ (step.left_lt h) (step.sound h) rfl

/-- Every session comes to a point where there are no more steps. -/
theorem Sound.exists_stuck {context : Context} {requests : List Request} {session : Session}
    (h : session.Sound context requests) :
    ∃ last : Session, Reaches context session last ∧ last.Stuck context := by
  induction h.ends with
  | intro session _ ih =>
    by_cases able : ∃ next, Step context session next
    · obtain ⟨next, step⟩ := able
      obtain ⟨last, reached, stuck⟩ := ih next step (step.sound h)
      exact ⟨last, .head step reached, stuck⟩
    · exact ⟨session, .refl, fun next step => able ⟨next, step⟩⟩

/-- **A session that can do no more step is over.** -/
theorem over_of_stuck {context : Context} {session : Session}
    (stuck : session.Stuck context) : ∀ call ∈ session.calls, call.Over := by
  intro call mem
  rcases call.over_or_step context session.memo with finished | ⟨answers, memo', call', step⟩
  · exact finished
  · obtain ⟨calls', step'⟩ := Call.SomeStep.of_mem mem step
    exact absurd ⟨answers, step', rfl⟩ (stuck ⟨memo', answers ++ session.answers, calls'⟩)

/-- If all calls of a session render and are over, a module of these calls returns
something. -/
theorem exists_returns {session : Session} (finished : ∀ call ∈ session.calls, call.Over)
    (renders : ∀ call ∈ session.calls, ∃ r, call = .rendering r) :
    ∃ outcome, session.Returns outcome := by
  by_cases fails : ∃ r e, .rendering r ∈ session.calls ∧ r.Returns (.error e)
  · obtain ⟨r, e, mem, fails⟩ := fails
    exact ⟨_, .failed (fun call mem => (finished call mem).atRest) mem fails⟩
  · have each : ∀ call ∈ session.calls, ∃ result, ∃ r, call = .rendering r ∧
        r.Returns (.ok result) := by
      intro call mem
      obtain ⟨r, rfl⟩ := renders call mem
      obtain ⟨-, result, returns⟩ := finished _ mem
      cases result with
      | ok result => exact ⟨result, r, rfl, returns⟩
      | error e => exact absurd ⟨r, e, mem, returns⟩ fails
    have all : ∀ calls : List Call, (∀ call ∈ calls, call ∈ session.calls) →
        ∃ results, List.Forall₂
          (fun call result => ∃ r, call = .rendering r ∧ r.Returns (.ok result))
          calls results := by
      intro calls
      induction calls with
      | nil => exact fun _ => ⟨[], .nil⟩
      | cons first rest ih =>
        intro sub
        obtain ⟨result, first⟩ := each first (sub first (List.mem_cons_self ..))
        obtain ⟨results, others⟩ := ih fun call mem => sub call (List.mem_cons_of_mem _ mem)
        exact ⟨result :: results, .cons first others⟩
    obtain ⟨results, each⟩ := all session.calls fun _ mem => mem
    exact ⟨_, .complete each⟩

end Session

end Diglot
