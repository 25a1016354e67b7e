import Mathlib

/-!
# Programs over fallible calls

A program asks its environment to answer calls and continues with each answer,
which is a value or an exception.  Exceptions of the program itself travel the
same way, so handlers and finalizers are functions on results.  A monitor follows
a program through phases: it says which calls a phase permits and where an answer
leads.  A program conforms to a monitor when no answer can bring it to a call that
its phase does not permit.
-/

/-- A finite program whose calls `request` are answered by
`Except Err (Ret request)`. -/
inductive Prog (Call : Type) (Ret : Call → Type) (Err : Type) (Value : Type) :
    Type where
  | done (result : Except Err Value)
  | call (request : Call)
      (next : Except Err (Ret request) → Prog Call Ret Err Value)

namespace Prog

variable {Call : Type} {Ret : Call → Type} {Err Value Other : Type}

/-- Continue with the result of a program, whether value or exception. -/
def handle (program : Prog Call Ret Err Value)
    (next : Except Err Value → Prog Call Ret Err Other) :
    Prog Call Ret Err Other :=
  match program with
  | done result => next result
  | call request answer => call request fun reply => (answer reply).handle next

/-- Continue with the value of a program; an exception ends it. -/
def andThen (program : Prog Call Ret Err Value)
    (next : Value → Prog Call Ret Err Other) : Prog Call Ret Err Other :=
  program.handle fun
    | .ok value => next value
    | .error error => done (.error error)

instance : Monad (Prog Call Ret Err) where
  pure value := done (.ok value)
  bind := andThen

/-- Raise an exception. -/
def raise (error : Err) : Prog Call Ret Err Value :=
  done (.error error)

/-- One call. -/
def perform (request : Call) : Prog Call Ret Err (Ret request) :=
  call request done

/-- `if condition: …` -/
def onlyIf (condition : Bool) (program : Prog Call Ret Err Unit) :
    Prog Call Ret Err Unit :=
  if condition then program else done (.ok ())

/-- `try … except`: `recover` sees the exception. -/
def tryExcept (program : Prog Call Ret Err Value)
    (recover : Err → Prog Call Ret Err Value) : Prog Call Ret Err Value :=
  program.handle fun
    | .ok value => done (.ok value)
    | .error error => recover error

/-- `try … finally`: the finalizer runs on every result, and its own exception
replaces the result. -/
def tryFinally (program : Prog Call Ret Err Value)
    (finalizer : Prog Call Ret Err Unit) : Prog Call Ret Err Value :=
  program.handle fun result => finalizer.handle fun
    | .ok _ => done result
    | .error error => done (.error error)

/-- The same program over other calls: `embed` names each of its calls there, and
`back` reads the answer. -/
def translate {Call' : Type} {Ret' : Call' → Type} (embed : Call → Call')
    (back : (request : Call) → Except Err (Ret' (embed request)) →
      Except Err (Ret request)) :
    Prog Call Ret Err Value → Prog Call' Ret' Err Value
  | done result => done result
  | call request next =>
      call (embed request) fun reply =>
        translate embed back (next (back request reply))

theorem handle_handle {Last : Type} (program : Prog Call Ret Err Value)
    (first : Except Err Value → Prog Call Ret Err Other)
    (second : Except Err Other → Prog Call Ret Err Last) :
    (program.handle first).handle second =
      program.handle fun result => (first result).handle second := by
  induction program with
  | done result => rfl
  | call request answer induction =>
      exact congrArg (call request) (funext induction)

/-! ## Sequential runs -/

/-- How an environment may answer: a choice, where it applies, gives the answer
and the new state. -/
abbrev Respond (Call : Type) (Ret : Call → Type) (Err State Choice : Type) :=
  Choice → State → (request : Call) →
    Option (Except Err (Ret request) × State)

section Run

variable {State Choice : Type} (respond : Respond Call Ret Err State Choice)

/-- Follow a program for as many calls as there are choices. -/
def advance : Prog Call Ret Err Value → State → List Choice →
    Option (Prog Call Ret Err Value × State)
  | program, state, [] => some (program, state)
  | done _, _, _ :: _ => none
  | call request next, state, choice :: choices =>
      match respond choice state request with
      | none => none
      | some (reply, after) => advance (next reply) after choices

/-- A complete run: the result and the final state. -/
def finish (program : Prog Call Ret Err Value) (state : State)
    (choices : List Choice) : Option (Except Err Value × State) :=
  match program.advance respond state choices with
  | some (done result, after) => some (result, after)
  | _ => none

/-- Keep a log of the answers beside the state. -/
def recording : Respond Call Ret Err
    (State × List ((request : Call) × Except Err (Ret request))) Choice :=
  fun choice state request =>
    (respond choice state.1 request).map fun answer =>
      (answer.1, answer.2, state.2 ++ [⟨request, answer.1⟩])

end Run

/-! ## Footprints -/

/-- Every call the program can come to satisfies `allowed`. -/
def Calls (allowed : Call → Prop) : Prog Call Ret Err Value → Prop
  | done _ => True
  | call request next =>
      allowed request ∧ ∀ reply, Calls allowed (next reply)

section Calls

variable {allowed : Call → Prop} {program : Prog Call Ret Err Value}

@[simp]
theorem calls_done {result : Except Err Value} :
    (done result : Prog Call Ret Err Value).Calls allowed :=
  trivial

@[simp]
theorem calls_pure {value : Value} :
    (pure value : Prog Call Ret Err Value).Calls allowed :=
  trivial

@[simp]
theorem calls_raise {error : Err} :
    (raise error : Prog Call Ret Err Value).Calls allowed :=
  trivial

theorem calls_perform {request : Call} (permitted : allowed request) :
    (perform request : Prog Call Ret Err (Ret request)).Calls allowed :=
  ⟨permitted, fun _ => trivial⟩

theorem Calls.handle {next : Except Err Value → Prog Call Ret Err Other}
    (first : program.Calls allowed) (then_ : ∀ result, (next result).Calls allowed) :
    (program.handle next).Calls allowed := by
  induction program with
  | done result => exact then_ result
  | call request answer induction =>
      exact ⟨first.1, fun reply => induction reply (first.2 reply)⟩

theorem Calls.bind {next : Value → Prog Call Ret Err Other}
    (first : program.Calls allowed) (then_ : ∀ value, (next value).Calls allowed) :
    (program >>= next).Calls allowed := by
  refine first.handle ?_
  intro result
  cases result with
  | ok value => exact then_ value
  | error error => exact calls_done

theorem Calls.perform {request : Call} {next : Ret request → Prog Call Ret Err Value}
    (permitted : allowed request) (then_ : ∀ value, (next value).Calls allowed) :
    (perform request >>= next).Calls allowed :=
  (calls_perform permitted).bind then_

theorem Calls.onlyIf {condition : Bool} {program : Prog Call Ret Err Unit}
    (calls : condition = true → program.Calls allowed) :
    (onlyIf condition program).Calls allowed := by
  unfold Prog.onlyIf
  split
  · exact calls ‹_›
  · exact calls_done

theorem Calls.tryExcept
    {recover : Err → Prog Call Ret Err Value} (first : program.Calls allowed)
    (recovers : ∀ error, (recover error).Calls allowed) :
    (program.tryExcept recover).Calls allowed := by
  refine first.handle ?_
  intro result
  cases result with
  | ok value => exact calls_done
  | error error => exact recovers error

theorem Calls.tryFinally
    {finalizer : Prog Call Ret Err Unit} (first : program.Calls allowed)
    (finally_ : finalizer.Calls allowed) :
    (program.tryFinally finalizer).Calls allowed := by
  refine first.handle ?_
  intro result
  refine finally_.handle ?_
  intro final
  cases final <;> exact calls_done

theorem Calls.translate {Call' : Type} {Ret' : Call' → Type}
    {allowed' : Call' → Prop} {embed : Call → Call'}
    {back : (request : Call) → Except Err (Ret' (embed request)) →
      Except Err (Ret request)}
    (calls : program.Calls allowed)
    (embeds : ∀ request, allowed request → allowed' (embed request)) :
    (program.translate embed back).Calls allowed' := by
  induction program with
  | done result => trivial
  | call request next induction =>
      exact ⟨embeds request calls.1, fun reply => induction _ (calls.2 _)⟩

/-- Whatever a program calls, it calls something. -/
theorem calls_true : program.Calls fun _ => True := by
  induction program with
  | done result => trivial
  | call request next induction => exact ⟨trivial, induction⟩

theorem Calls.mono {weaker : Call → Prop} (calls : program.Calls allowed)
    (weaken : ∀ request, allowed request → weaker request) :
    program.Calls weaker := by
  induction program with
  | done result => trivial
  | call request answer induction =>
      exact ⟨weaken request calls.1, fun reply => induction reply (calls.2 reply)⟩

end Calls

/-! ## Results -/

/-- Every result the program can come to satisfies `post`. -/
def Ends (post : Except Err Value → Prop) : Prog Call Ret Err Value → Prop
  | done result => post result
  | call _ next => ∀ reply, Ends post (next reply)

section Ends

variable {post : Except Err Value → Prop} {program : Prog Call Ret Err Value}

/-- Whatever a program comes to, it comes to something. -/
theorem ends_true : program.Ends fun _ => True := by
  induction program with
  | done result => trivial
  | call request next induction => exact induction

theorem Ends.mono {weaker : Except Err Value → Prop}
    (ends : program.Ends post)
    (weaken : ∀ result, post result → weaker result) : program.Ends weaker := by
  induction program with
  | done result => exact weaken result ends
  | call request next induction => exact fun reply => induction reply (ends reply)

theorem Ends.handle {middle : Except Err Value → Prop}
    {post : Except Err Other → Prop} {next : Except Err Value → Prog Call Ret Err Other}
    (first : program.Ends middle)
    (then_ : ∀ result, middle result → (next result).Ends post) :
    (program.handle next).Ends post := by
  induction program with
  | done result => exact then_ result first
  | call request answer induction =>
      exact fun reply => induction reply (first reply)

theorem Ends.bind {middle : Except Err Value → Prop}
    {post : Except Err Other → Prop}
    {next : Value → Prog Call Ret Err Other} (first : program.Ends middle)
    (then_ : ∀ value, middle (.ok value) → (next value).Ends post)
    (raised : ∀ error, middle (.error error) → post (.error error)) :
    (program >>= next).Ends post := by
  apply first.handle
  intro result reached
  cases result with
  | ok value => exact then_ value reached
  | error error => exact raised error reached

/-- Every value the program can return satisfies `property`. -/
def Returns (property : Value → Prop) (program : Prog Call Ret Err Value) : Prop :=
  program.Ends fun result => ∀ value, result = .ok value → property value

variable {property : Value → Prop}

@[simp]
theorem returns_done_error {error : Err} :
    (done (.error error) : Prog Call Ret Err Value).Returns property :=
  fun _ raised => nomatch raised

@[simp]
theorem returns_raise {error : Err} :
    (raise error : Prog Call Ret Err Value).Returns property :=
  returns_done_error

@[simp]
theorem returns_pure {value : Value} :
    (pure value : Prog Call Ret Err Value).Returns property ↔ property value := by
  constructor
  · intro returns
    exact returns value rfl
  · rintro holds returned same
    cases same
    exact holds

theorem returns_true : program.Returns fun _ => True :=
  ends_true.mono fun _ _ _ _ => trivial

/-- What follows a program decides what both return. -/
theorem returns_handle {next : Except Err Value → Prog Call Ret Err Other}
    {property : Other → Prop} (then_ : ∀ result, (next result).Returns property) :
    (program.handle next).Returns property :=
  ends_true.handle fun result _ => then_ result

theorem Returns.bind {next : Value → Prog Call Ret Err Other} {property' : Other → Prop}
    (first : program.Returns property)
    (then_ : ∀ value, property value → (next value).Returns property') :
    (program >>= next).Returns property' :=
  Ends.bind first (fun value reached => then_ value (reached value rfl))
    fun _ _ _ raised => nomatch raised

end Ends

end Prog

/-- A monitor of programs. -/
structure Monitor (Call : Type) (Ret : Call → Type) (Err : Type) where
  Phase : Type
  permitted : Phase → Call → Prop
  answers : Phase → (request : Call) → Except Err (Ret request) → Phase → Prop

namespace Monitor

variable {Call : Type} {Ret : Call → Type} {Err Value Other : Type}
  (monitor : Monitor Call Ret Err)

/-- The monitor in which an answer decides the next phase. -/
def deterministic {Phase : Type} (permitted : Phase → Call → Prop)
    (next : Phase → (request : Call) → Except Err (Ret request) → Phase) :
    Monitor Call Ret Err where
  Phase := Phase
  permitted := permitted
  answers := fun phase request reply after => after = next phase request reply

/-- No answer leads the program to a call its phase does not permit, and every
result it reaches satisfies `post`. -/
def Conforms : Prog Call Ret Err Value →
    (Except Err Value → monitor.Phase → Prop) → monitor.Phase → Prop
  | .done result, post, phase => post result phase
  | .call request next, post, phase =>
      monitor.permitted phase request ∧
        ∀ reply after, monitor.answers phase request reply after →
          Conforms (next reply) post after

variable {monitor} {post : Except Err Value → monitor.Phase → Prop}
  {phase : monitor.Phase} {program : Prog Call Ret Err Value}

theorem conforms_call {request : Call}
    {next : Except Err (Ret request) → Prog Call Ret Err Value} :
    monitor.Conforms (.call request next) post phase ↔
      monitor.permitted phase request ∧
        ∀ reply after, monitor.answers phase request reply after →
          monitor.Conforms (next reply) post after :=
  Iff.rfl

@[simp]
theorem conforms_pure {value : Value} :
    monitor.Conforms (pure value : Prog Call Ret Err Value) post phase ↔
      post (.ok value) phase :=
  Iff.rfl

@[simp]
theorem conforms_raise {error : Err} :
    monitor.Conforms (.raise error : Prog Call Ret Err Value) post phase ↔
      post (.error error) phase :=
  Iff.rfl

theorem conforms_perform_handle {request : Call}
    {next : Except Err (Ret request) → Prog Call Ret Err Value} :
    monitor.Conforms ((Prog.perform request).handle next) post phase ↔
      monitor.permitted phase request ∧
        ∀ reply after, monitor.answers phase request reply after →
          monitor.Conforms (next reply) post after :=
  Iff.rfl

/-- The rule of sequencing: conform up to the first result, then on from it. -/
theorem conforms_handle {next : Except Err Value → Prog Call Ret Err Other}
    {post : Except Err Other → monitor.Phase → Prop} :
    monitor.Conforms (program.handle next) post phase ↔
      monitor.Conforms program
        (fun result after => monitor.Conforms (next result) post after)
        phase := by
  induction program generalizing phase with
  | done result => rfl
  | call request answer induction =>
      simp only [Prog.handle, conforms_call]
      exact and_congr_right fun _ =>
        forall_congr' fun reply => forall_congr' fun after =>
          imp_congr_right fun _ => induction reply

theorem conforms_bind {next : Value → Prog Call Ret Err Other}
    {post : Except Err Other → monitor.Phase → Prop} :
    monitor.Conforms (program >>= next) post phase ↔
      monitor.Conforms program
        (fun result after => match result with
          | .ok value => monitor.Conforms (next value) post after
          | .error error => post (.error error) after)
        phase := by
  change monitor.Conforms (program.handle _) post phase ↔ _
  rw [conforms_handle]
  have same : (fun (result : Except Err Value) (after : monitor.Phase) =>
      monitor.Conforms (match result with
        | .ok value => next value
        | .error error => .done (.error error)) post after) =
      fun result after => match result with
        | .ok value => monitor.Conforms (next value) post after
        | .error error => post (.error error) after := by
    funext result after
    cases result <;> rfl
  rw [same]

theorem conforms_tryExcept {recover : Err → Prog Call Ret Err Value} :
    monitor.Conforms (program.tryExcept recover) post phase ↔
      monitor.Conforms program
        (fun result after => match result with
          | .ok value => post (.ok value) after
          | .error error => monitor.Conforms (recover error) post after)
        phase := by
  unfold Prog.tryExcept
  rw [conforms_handle]
  have same : (fun (result : Except Err Value) (after : monitor.Phase) =>
      monitor.Conforms (match result with
        | .ok value => .done (.ok value)
        | .error error => recover error) post after) =
      fun result after => match result with
        | .ok value => post (.ok value) after
        | .error error => monitor.Conforms (recover error) post after := by
    funext result after
    cases result <;> rfl
  rw [same]

theorem conforms_tryFinally {finalizer : Prog Call Ret Err Unit} :
    monitor.Conforms (program.tryFinally finalizer) post phase ↔
      monitor.Conforms program
        (fun result after => monitor.Conforms finalizer
          (fun final last => match final with
            | .ok _ => post result last
            | .error error => post (.error error) last) after)
        phase := by
  unfold Prog.tryFinally
  rw [conforms_handle]
  have same (result : Except Err Value) (after : monitor.Phase) :
      monitor.Conforms (finalizer.handle fun
          | .ok _ => (.done result : Prog Call Ret Err Value)
          | .error error => .done (.error error)) post after ↔
        monitor.Conforms finalizer
          (fun final last => match final with
            | .ok _ => post result last
            | .error error => post (.error error) last) after := by
    rw [conforms_handle]
    have same : (fun (final : Except Err Unit) (last : monitor.Phase) =>
        monitor.Conforms (match final with
          | .ok _ => (.done result : Prog Call Ret Err Value)
          | .error error => .done (.error error)) post last) =
        fun final last => match final with
          | .ok _ => post result last
          | .error error => post (.error error) last := by
      funext final last
      cases final <;> rfl
    rw [same]
  simp only [same]

/-- The rule of consequence. -/
theorem Conforms.mono {weaker : Except Err Value → monitor.Phase → Prop}
    (conforms : monitor.Conforms program post phase)
    (weaken : ∀ result after, post result after → weaker result after) :
    monitor.Conforms program weaker phase := by
  induction program generalizing phase with
  | done result => exact weaken result phase conforms
  | call request answer induction =>
      exact ⟨conforms.1, fun reply after answered =>
        induction reply (conforms.2 reply after answered)⟩

/-- A program over other calls conforms to a monitor of theirs whose permissions and
answers follow from those of its own monitor, phase by related phase. -/
theorem Conforms.translate {Call' : Type} {Ret' : Call' → Type}
    {monitor' : Monitor Call' Ret' Err} {embed : Call → Call'}
    {back : (request : Call) → Except Err (Ret' (embed request)) →
      Except Err (Ret request)}
    {phase' : monitor'.Phase} {related : monitor.Phase → monitor'.Phase → Prop}
    (conforms : monitor.Conforms program post phase)
    (initially : related phase phase')
    (permits : ∀ phase phase' request, related phase phase' →
      monitor.permitted phase request → monitor'.permitted phase' (embed request))
    (follows : ∀ phase phase' request reply after', related phase phase' →
      monitor.permitted phase request →
      monitor'.answers phase' (embed request) reply after' →
      ∃ after, monitor.answers phase request (back request reply) after ∧
        related after after') :
    monitor'.Conforms (program.translate embed back)
      (fun result after' => ∃ after, related after after' ∧ post result after)
      phase' := by
  induction program generalizing phase phase' with
  | done result => exact ⟨phase, initially, conforms⟩
  | call request next induction =>
      refine ⟨permits _ _ _ initially conforms.1, ?_⟩
      intro reply after' answered
      obtain ⟨after, answers, later⟩ :=
        follows _ _ _ _ _ initially conforms.1 answered
      exact induction _ (conforms.2 _ _ answers) later

section Rules

variable {middle : Except Err Value → monitor.Phase → Prop}

theorem Conforms.handle {next : Except Err Value → Prog Call Ret Err Other}
    {post : Except Err Other → monitor.Phase → Prop}
    (first : monitor.Conforms program middle phase)
    (then_ : ∀ result after, middle result after →
      monitor.Conforms (next result) post after) :
    monitor.Conforms (program.handle next) post phase :=
  conforms_handle.mpr (first.mono then_)

theorem Conforms.bind {next : Value → Prog Call Ret Err Other}
    {post : Except Err Other → monitor.Phase → Prop}
    (first : monitor.Conforms program middle phase)
    (then_ : ∀ value after, middle (.ok value) after →
      monitor.Conforms (next value) post after)
    (raised : ∀ error after, middle (.error error) after →
      post (.error error) after) :
    monitor.Conforms (program >>= next) post phase := by
  refine first.handle ?_
  intro result after reached
  cases result with
  | ok value => exact then_ value after reached
  | error error => exact raised error after reached

/-- A single call, followed by what it answers. -/
theorem Conforms.perform {request : Call}
    {next : Ret request → Prog Call Ret Err Value}
    (permitted : monitor.permitted phase request)
    (then_ : ∀ value after, monitor.answers phase request (.ok value) after →
      monitor.Conforms (next value) post after)
    (raised : ∀ error after, monitor.answers phase request (.error error) after →
      post (.error error) after) :
    monitor.Conforms (Prog.perform request >>= next) post phase := by
  refine ⟨permitted, ?_⟩
  intro reply after answered
  cases reply with
  | ok value => exact then_ value after answered
  | error error => exact raised error after answered

theorem Conforms.tryExcept {recover : Err → Prog Call Ret Err Value}
    (first : monitor.Conforms program middle phase)
    (through : ∀ value after, middle (.ok value) after →
      post (.ok value) after)
    (recovers : ∀ error after, middle (.error error) after →
      monitor.Conforms (recover error) post after) :
    monitor.Conforms (program.tryExcept recover) post phase := by
  refine first.handle ?_
  intro result after reached
  cases result with
  | ok value => exact through value after reached
  | error error => exact recovers error after reached

theorem Conforms.tryFinally {finalizer : Prog Call Ret Err Unit}
    (first : monitor.Conforms program middle phase)
    (finally_ : ∀ result after, middle result after →
      monitor.Conforms finalizer
        (fun final last => match final with
          | .ok _ => post result last
          | .error error => post (.error error) last) after) :
    monitor.Conforms (program.tryFinally finalizer) post phase :=
  conforms_tryFinally.mpr (first.mono finally_)

theorem Conforms.onlyIf {condition : Bool} {program : Prog Call Ret Err Unit}
    {post : Except Err Unit → monitor.Phase → Prop}
    (taken : condition = true → monitor.Conforms program post phase)
    (skipped : condition = false → post (.ok ()) phase) :
    monitor.Conforms (.onlyIf condition program) post phase := by
  unfold Prog.onlyIf
  split
  · exact taken ‹_›
  · exact skipped (Bool.eq_false_iff.mpr ‹_›)

end Rules

/-- Every program conforms to a monitor that permits every call. -/
theorem conforms_of_permitted (permits : ∀ phase request, monitor.permitted phase request) :
    monitor.Conforms program (fun _ _ => True) phase := by
  induction program generalizing phase with
  | done result => trivial
  | call request answer induction =>
      exact ⟨permits phase request, fun reply _ _ => induction reply⟩

/-- A program whose calls keep to a region of phases conforms there. -/
theorem conforms_of_calls {allowed : Call → Prop} {region : monitor.Phase → Prop}
    (calls : program.Calls allowed)
    (stays : ∀ phase request, region phase → allowed request →
      monitor.permitted phase request ∧ ∀ reply after,
        monitor.answers phase request reply after → region after)
    (inside : region phase) :
    monitor.Conforms program (fun _ after => region after) phase := by
  induction program generalizing phase with
  | done result => exact inside
  | call request answer induction =>
      have step := stays phase request inside calls.1
      exact ⟨step.1, fun reply after answered =>
        induction reply (calls.2 reply) (step.2 reply after answered)⟩

/-- The same, with what holds of the results. -/
theorem conforms_of_calls_ends {allowed : Call → Prop}
    {region : monitor.Phase → Prop} {ended : Except Err Value → Prop}
    (calls : program.Calls allowed)
    (stays : ∀ phase request, region phase → allowed request →
      monitor.permitted phase request ∧ ∀ reply after,
        monitor.answers phase request reply after → region after)
    (ends : program.Ends ended) (inside : region phase) :
    monitor.Conforms program (fun result after => region after ∧ ended result)
      phase := by
  induction program generalizing phase with
  | done result => exact ⟨inside, ends⟩
  | call request answer induction =>
      have step := stays phase request inside calls.1
      exact ⟨step.1, fun reply after answered =>
        induction reply (calls.2 reply) (ends reply) (step.2 reply after answered)⟩

section Runs

variable {State Choice : Type} {respond : Prog.Respond Call Ret Err State Choice}

/-- If every permitted answer keeps an invariant of phase and state, a conforming
program keeps it for as long as it runs, and still conforms where it stands. -/
theorem Conforms.advance {holds : monitor.Phase → State → Prop}
    (preserves : ∀ phase state request choice reply after,
      holds phase state → monitor.permitted phase request →
      respond choice state request = some (reply, after) →
      ∃ next, monitor.answers phase request reply next ∧ holds next after)
    (choices : List Choice) {program rest : Prog Call Ret Err Value}
    {state after : State} (conforms : monitor.Conforms program post phase)
    (initially : holds phase state)
    (run : program.advance respond state choices = some (rest, after)) :
    ∃ last, holds last after ∧ monitor.Conforms rest post last := by
  induction choices generalizing program state phase with
  | nil =>
      simp only [Prog.advance, Option.some.injEq, Prod.mk.injEq] at run
      obtain ⟨rfl, rfl⟩ := run
      exact ⟨phase, initially, conforms⟩
  | cons choice choices induction =>
      cases program with
      | done result => simp [Prog.advance] at run
      | call request answer =>
          simp only [Prog.advance] at run
          split at run
          · cases run
          · rename_i reply middle answered
            obtain ⟨next, follows, kept⟩ := preserves phase state request choice
              reply middle initially conforms.1 answered
            exact induction (conforms.2 reply next follows) kept run

/-- The same for complete runs: the result satisfies the postcondition. -/
theorem Conforms.finish {holds : monitor.Phase → State → Prop}
    (preserves : ∀ phase state request choice reply after,
      holds phase state → monitor.permitted phase request →
      respond choice state request = some (reply, after) →
      ∃ next, monitor.answers phase request reply next ∧ holds next after)
    (choices : List Choice) {program : Prog Call Ret Err Value}
    {result : Except Err Value} {state after : State}
    (conforms : monitor.Conforms program post phase)
    (initially : holds phase state)
    (run : program.finish respond state choices = some (result, after)) :
    ∃ last, holds last after ∧ post result last := by
  unfold Prog.finish at run
  split at run
  · rename_i reached final advanced
    cases run
    exact Conforms.advance preserves choices conforms initially advanced
  · cases run

/-- The monitor whose phases are the states themselves: conformance is then a
proof rule for what holds at every call, `invariant`, and at the end. -/
def ofRespond (respond : Prog.Respond Call Ret Err State Choice)
    (invariant : State → Prop) : Monitor Call Ret Err where
  Phase := State
  permitted := fun state _ => invariant state
  answers := fun state request reply after =>
    ∃ choice, respond choice state request = some (reply, after)

/-- Wherever a run of a conforming program stands, the invariant holds. -/
theorem Conforms.keeps {invariant : State → Prop} (choices : List Choice)
    {program rest : Prog Call Ret Err Value} {state after : State}
    (conforms : (ofRespond respond invariant).Conforms program
      (fun _ last => invariant last) state)
    (run : program.advance respond state choices = some (rest, after)) :
    invariant after := by
  have follows (phase state : State) (request : Call) (choice : Choice)
      (reply : Except Err (Ret request)) (after : State)
      (same : phase = state) (_ : invariant phase)
      (answered : respond choice state request = some (reply, after)) :
      ∃ next, (∃ choice, respond choice phase request = some (reply, next)) ∧
        next = after :=
    ⟨after, ⟨choice, same ▸ answered⟩, rfl⟩
  obtain ⟨last, rfl, stands⟩ :=
    Conforms.advance follows choices conforms rfl run
  cases rest with
  | done result => exact stands
  | call request answer => exact stands.1

end Runs

end Monitor
