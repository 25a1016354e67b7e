import ContractMate.EffectProgram

/-!
# Traces of programs

The calls that a program makes in a complete run, with the answers that it got,
whatever the environment is.
-/

namespace Prog

variable {Call : Type} {Ret : Call → Type} {Err Value Other : Type}

/-- A call and its answer. -/
structure Answered (Call : Type) (Ret : Call → Type) (Err : Type) where
  request : Call
  reply : Except Err (Ret request)

/-- Some answers take a program to a result. -/
inductive Takes : Prog Call Ret Err Value → List (Answered Call Ret Err) →
    Except Err Value → Prop
  | done (result : Except Err Value) : Takes (.done result) [] result
  | call (request : Call) (next : Except Err (Ret request) → Prog Call Ret Err Value)
      (reply : Except Err (Ret request)) {log : List (Answered Call Ret Err)}
      {result : Except Err Value} (rest : Takes (next reply) log result) :
      Takes (.call request next) (⟨request, reply⟩ :: log) result

section Rules

variable {program : Prog Call Ret Err Value} {log : List (Answered Call Ret Err)}

@[simp]
theorem takes_done {result other : Except Err Value} :
    (done result : Prog Call Ret Err Value).Takes log other ↔ log = [] ∧ other = result := by
  constructor
  · intro takes
    cases takes
    exact ⟨rfl, rfl⟩
  · rintro ⟨rfl, rfl⟩
    exact .done _

theorem takes_call {request : Call}
    {next : Except Err (Ret request) → Prog Call Ret Err Value} {result : Except Err Value} :
    (call request next).Takes log result ↔
      ∃ reply rest, log = ⟨request, reply⟩ :: rest ∧ (next reply).Takes rest result := by
  constructor
  · intro takes
    cases takes with
    | call _ _ reply rest => exact ⟨reply, _, rfl, rest⟩
  · rintro ⟨reply, rest, rfl, takes⟩
    exact .call request next reply takes

@[simp]
theorem takes_perform {request : Call} {result : Except Err (Ret request)} :
    (perform request : Prog Call Ret Err (Ret request)).Takes log result ↔
      log = [⟨request, result⟩] := by
  rw [perform, takes_call]
  simp

/-- The rule of sequencing: a trace of one program, then a trace of what follows its
result. -/
theorem takes_handle {next : Except Err Value → Prog Call Ret Err Other}
    {result : Except Err Other} :
    (program.handle next).Takes log result ↔
      ∃ first middle second, log = first ++ second ∧ program.Takes first middle ∧
        (next middle).Takes second result := by
  induction program generalizing log with
  | done middle =>
      simp only [handle, takes_done]
      constructor
      · intro takes
        exact ⟨[], middle, log, rfl, ⟨rfl, rfl⟩, takes⟩
      · rintro ⟨first, other, second, rfl, ⟨rfl, rfl⟩, takes⟩
        exact takes
  | call request answer induction =>
      simp only [handle, takes_call, induction]
      constructor
      · rintro ⟨reply, _, rfl, first, middle, second, rfl, takes, then_⟩
        exact ⟨⟨request, reply⟩ :: first, middle, second, rfl, ⟨reply, first, rfl, takes⟩,
          then_⟩
      · rintro ⟨_, middle, second, rfl, ⟨reply, first, rfl, takes⟩, then_⟩
        exact ⟨reply, first ++ second, rfl, first, middle, second, rfl, takes, then_⟩

theorem takes_bind {next : Value → Prog Call Ret Err Other} {result : Except Err Other} :
    (program >>= next).Takes log result ↔
      (∃ error, result = .error error ∧ program.Takes log (.error error)) ∨
        ∃ first value second, log = first ++ second ∧ program.Takes first (.ok value) ∧
          (next value).Takes second result := by
  change (program.handle _).Takes log result ↔ _
  rw [takes_handle]
  constructor
  · rintro ⟨first, middle, second, rfl, takes, then_⟩
    cases middle with
    | error error =>
        obtain ⟨rfl, rfl⟩ := takes_done.mp then_
        rw [List.append_nil]
        exact .inl ⟨error, rfl, takes⟩
    | ok value => exact .inr ⟨first, value, second, rfl, takes, then_⟩
  · rintro (⟨error, rfl, takes⟩ | ⟨first, value, second, rfl, takes, then_⟩)
    · exact ⟨log, .error error, [], (List.append_nil log).symm, takes, .done _⟩
    · exact ⟨first, .ok value, second, rfl, takes, then_⟩

/-- A trace of a program, then one of its finalizer, whose exception replaces the result. -/
theorem takes_tryFinally {finalizer : Prog Call Ret Err Unit} {result : Except Err Value} :
    (program.tryFinally finalizer).Takes log result ↔
      ∃ first middle second ending, log = first ++ second ∧ program.Takes first middle ∧
        finalizer.Takes second ending ∧ result = ending.bind fun _ => middle := by
  rw [tryFinally, takes_handle]
  constructor
  · rintro ⟨first, middle, rest, rfl, takes, finished⟩
    obtain ⟨second, ending, last, rfl, finishes, ends⟩ := takes_handle.mp finished
    refine ⟨first, middle, second, ending, ?_, takes, finishes, ?_⟩
    · cases ending <;> rw [(takes_done.mp ends).1, List.append_nil]
    · cases ending <;> exact (takes_done.mp ends).2
  · rintro ⟨first, middle, second, ending, rfl, takes, finishes, rfl⟩
    refine ⟨first, middle, second, rfl, takes, takes_handle.mpr ?_⟩
    refine ⟨second, ending, [], (List.append_nil second).symm, finishes, ?_⟩
    cases ending <;> exact .done _

/-- The answers decide how far a program comes and where it ends. -/
theorem Takes.deterministic {first second rest : List (Answered Call Ret Err)}
    {result other : Except Err Value} (takes : program.Takes first result)
    (takes' : program.Takes second other) (shared : second <+: first ++ rest) :
    first = second ∧ result = other := by
  induction takes generalizing second with
  | done result =>
      obtain ⟨rfl, rfl⟩ := takes_done.mp takes'
      exact ⟨rfl, rfl⟩
  | call request next reply further induction =>
      obtain ⟨reply', log, rfl, further'⟩ := takes_call.mp takes'
      rw [List.cons_append, List.cons_prefix_cons] at shared
      obtain ⟨same, shared⟩ := shared
      cases same
      obtain ⟨rfl, rfl⟩ := induction further' shared
      exact ⟨rfl, rfl⟩

/-- A trace stays within the footprint of its program. -/
theorem Takes.allowed {allowed : Call → Prop} {result : Except Err Value}
    (takes : program.Takes log result) (calls : program.Calls allowed) :
    ∀ answered ∈ log, allowed answered.request := by
  induction takes with
  | done result =>
      intro answered member
      cases member
  | call request next reply rest induction =>
      intro answered member
      rcases List.mem_cons.mp member with rfl | later
      · exact calls.1
      · exact induction (calls.2 reply) answered later

end Rules

end Prog
