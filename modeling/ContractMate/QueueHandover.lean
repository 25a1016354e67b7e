import ContractMate.QueueCounts
import ContractMate.QueuePhases

/-!
# The hand-over of jobs

A delivery stores a copy of its job before it acknowledges the message it came in.
Messages that are held by deliveries which have stored a copy are not needed any
more; all the others, with the acknowledgements that settle a job, are at least as
many as its publications.
-/

namespace ContractMate

/-! ## What a run does -/

section Statement

variable (family : JobFamily)

/-- The messages that the broker keeps. -/
def QueueWorld.messages (world : QueueWorld) : List Json :=
  world.requested ++ world.retry ++ world.dead ++ world.unacked.rows.map Prod.snd

/-- The job that a publisher hands over. -/
def QueueAnswer.published? (answer : QueueAnswer family) : Option family.Job :=
  match answer with
  | ⟨_, .publish _ job, .basicPublish _ _, choice, _, _, _⟩ =>
      if choice.acts then some job else none
  | _ => none

/-- The message that a worker's own `ack` settles. -/
def QueueAnswer.settled? (answer : QueueAnswer family) : Option Json :=
  match answer with
  | ⟨delivery, _, .basicAck .ack, choice, _, before, _⟩ =>
      if choice.acts then (before.unacked.find? delivery).map Prod.snd else none
  | _ => none

def QueueStep.published? (step : QueueStep family) : Option family.Job :=
  ((queuePool family).answer? step).bind (QueueAnswer.published? family)

def QueueStep.settled? (step : QueueStep family) : Option Json :=
  ((queuePool family).answer? step).bind (QueueAnswer.settled? family)

def Published (steps : List (QueueStep family)) (job : family.Job) : Prop :=
  ∃ step ∈ steps, step.published? family = some job

/-- How often a job was handed over. -/
def publications (steps : List (QueueStep family)) (job : family.Job) : Nat :=
  steps.countP fun step =>
    (step.published? family).any fun other =>
      family.identity other = family.identity job

/-- How often a worker's own `ack` settled a job. -/
def settlements (steps : List (QueueStep family)) (job : family.Job) : Nat :=
  steps.countP fun step => (step.settled? family).any (family.carries job)

/-- No job is lost, and no copy differs but in its attempt. -/
structure HandedOver (steps : List (QueueStep family)) (world : QueueWorld) :
    Prop where
  kept : ∀ job, Published family steps job →
    (∃ message ∈ world.messages, family.carries job message = true) ∨
      ∃ step ∈ steps, (step.settled? family).any (family.carries job) = true
  counted : ∀ job, publications family steps job ≤
    world.messages.countP (family.carries job) + settlements family steps job
  copied : ∀ message ∈ world.messages, ∃ job, Published family steps job ∧
    family.Copies job message
  bounded : ∀ message ∈ world.messages, ∀ found,
    family.fromMessage message = .ok found →
    (∀ job, Published family steps job →
      family.identity job = family.identity found → family.attempt job = 1) →
    family.attempt found ≤ family.maxAttempts

end Statement

/-! ## The invariant -/

section Invariant

variable (family : JobFamily)

/-- The phase of a delivery after some steps. -/
def phaseOf (steps : List (QueueStep family)) (delivery : Nat) :
    Option (QueuePhase family) :=
  (queuePool family).tracked QueuePhase.start QueuePhase.next delivery steps

variable {family}

def QueuePhase.covers : Option (QueuePhase family) → Bool
  | some (.handling _ _ republished) => republished
  | _ => false

def QueuePhase.confirmed : QueuePhase family → Bool
  | publishing _ confirmed => confirmed
  | handling _ confirmed _ => confirmed

variable (family)

/-- Deliveries know what they hold, publications are confirmed, every message is a
copy of a published job, and none is lost. -/
structure HandingOver (steps : List (QueueStep family)) (world : QueueWorld) :
    Prop where
  tied : ∀ delivery entry, world.unacked.find? delivery = some entry →
    ∃ held confirmed republished, phaseOf family steps delivery =
        some (.handling held confirmed republished) ∧
      ∀ message, held = some message → message = entry.2
  confirming : ∀ delivery phase, phaseOf family steps delivery = some phase →
    phase.confirmed = true → world.confirming delivery = true
  holding : ∀ delivery phase message, phaseOf family steps delivery = some phase →
    phase.Holds message →
    ∃ job, Published family steps job ∧ family.Copies job message
  copied : ∀ message ∈ world.messages,
    ∃ job, Published family steps job ∧ family.Copies job message
  counted : ∀ job, publications family steps job ≤
    world.queued.countP (family.carries job) +
      spare (fun delivery => QueuePhase.covers (phaseOf family steps delivery))
        (family.carries job) world.unacked +
      settlements family steps job

variable {family} {steps : List (QueueStep family)} {world after : QueueWorld}
  {step : QueueStep family}

theorem Published.append {job : family.Job} (published : Published family steps job) :
    Published family (steps ++ [step]) job := by
  obtain ⟨earlier, member, same⟩ := published
  exact ⟨earlier, List.mem_append_left _ member, same⟩

theorem publications_append (job : family.Job) :
    publications family (steps ++ [step]) job = publications family steps job +
      if (step.published? family).any fun other =>
        family.identity other = family.identity job then 1 else 0 := by
  simp [publications, List.countP_append, List.countP_singleton]

theorem settlements_append (job : family.Job) :
    settlements family (steps ++ [step]) job = settlements family steps job +
      if (step.settled? family).any (family.carries job) then 1 else 0 := by
  simp [settlements, List.countP_append, List.countP_singleton]

theorem QueueWorld.mem_messages {message : Json} :
    message ∈ world.messages ↔ message ∈ world.queued ∨
      ∃ delivery, world.unacked.find? delivery = some (delivery, message) := by
  rw [QueueWorld.messages, List.mem_append]
  apply or_congr Iff.rfl
  rw [List.mem_map]
  constructor
  · rintro ⟨⟨delivery, held⟩, member, rfl⟩
    exact ⟨delivery, RowTable.find?_of_mem member⟩
  · rintro ⟨delivery, found⟩
    exact ⟨_, RowTable.mem_of_find? found, rfl⟩

theorem QueueWorld.messages_drop {delivery : Nat} :
    ∀ message ∈ (world.drop delivery).messages, message ∈ world.messages := by
  intro message member
  rw [QueueWorld.mem_messages] at member ⊢
  apply member.imp_right
  rintro ⟨other, found⟩
  rw [QueueWorld.drop, RowTable.find?_deleteWhere, Option.filter_eq_some_iff]
    at found
  exact ⟨other, found.1⟩

theorem QueueWorld.messages_requeue {delivery : Nat} :
    ∀ message ∈ (world.requeue delivery).messages, message ∈ world.messages := by
  intro message member
  unfold QueueWorld.requeue at member
  split at member
  · exact member
  · rename_i entry found
    obtain rfl : entry.1 = delivery := RowTable.key_of_find? found
    rw [QueueWorld.mem_messages] at member
    rcases member with queued | ⟨other, held⟩
    · have cases_ : message ∈ world.queued ∨ message = entry.2 := by
        simp only [QueueWorld.queued, QueueWorld.drop, List.mem_append,
          List.mem_singleton] at queued ⊢
        tauto
      rcases cases_ with queued | rfl
      · exact QueueWorld.mem_messages.mpr (.inl queued)
      · exact QueueWorld.mem_messages.mpr (.inr ⟨entry.1, found⟩)
    · have dropped : message ∈ (world.drop entry.1).messages :=
        QueueWorld.mem_messages.mpr (.inr ⟨other, held⟩)
      exact QueueWorld.messages_drop message dropped

/-- A requeued message counts whether or not it was covered. -/
theorem QueueWorld.count_requeue (world : QueueWorld) (meets : Json → Bool)
    {delivery : Nat} {covered covered' : Nat → Bool} (agree : ∀ other, other ≠ delivery →
      covered' other = covered other)
    (same : covered' delivery = covered delivery) :
    world.queued.countP meets + spare covered meets world.unacked ≤
      (world.requeue delivery).queued.countP meets +
        spare covered' meets (world.requeue delivery).unacked := by
  have everywhere : covered' = covered := by
    funext other
    by_cases own : other = delivery
    · rw [own, same]
    · exact agree other own
  subst everywhere
  unfold QueueWorld.requeue
  split
  · exact le_rfl
  · rename_i entry found
    have dropped := spare_le_of_drop covered' covered' meets world.unacked delivery
      fun _ _ => rfl
    rw [found, Option.any_some] at dropped
    simp only [QueueWorld.queued, QueueWorld.drop, List.countP_append,
      List.countP_singleton]
    split_ifs at dropped ⊢ <;> simp_all <;> omega

/-- The phases belong to the tasks. -/
def QueuePhase.Serves : QueueTask family → QueuePhase family → Prop
  | .publish _ job, .publishing sent _ => sent = job
  | .publish .., .handling .. => False
  | .consume .., .handling .. => True
  | .receive .., .handling .. => True
  | .consume .., .publishing .. => False
  | .receive .., .publishing .. => False

theorem QueuePhase.Serves.next {task : QueueTask family}
    {phase : QueuePhase family} {request : QueueCall}
    {reply : Except Exn request.Ret} (serves : phase.Serves task) :
    (phase.next request reply).Serves task := by
  have unchanged (same : phase.next request reply = phase) :
      (phase.next request reply).Serves task := by
    rwa [same]
  unfold QueuePhase.next at unchanged ⊢
  split <;> first | exact serves | (cases task <;> exact serves)

/-- The covers after a step of one delivery. -/
def coversOf (family : JobFamily) (steps : List (QueueStep family))
    (delivery : Nat) : Bool :=
  QueuePhase.covers (phaseOf family steps delivery)

section Call

variable {delivery : Nat} {phase phase' : QueuePhase family}

/-- What a call of one delivery has to keep. -/
theorem HandingOver.advance (before : HandingOver family steps world)
    (own : phaseOf family steps delivery = some phase)
    (own' : phaseOf family (steps ++ [step]) delivery = some phase')
    (others : ∀ other, other ≠ delivery →
      phaseOf family (steps ++ [step]) other = phaseOf family steps other)
    (tied : ∀ entry, after.unacked.find? delivery = some entry →
      ∃ held confirmed republished,
        phase' = .handling held confirmed republished ∧
        ∀ message, held = some message → message = entry.2)
    (untouched : ∀ other, other ≠ delivery →
      after.unacked.find? other = world.unacked.find? other ∧
        after.confirming other = world.confirming other)
    (confirming : phase'.confirmed = true → after.confirming delivery = true)
    (holding : ∀ message, phase'.Holds message →
      phase.Holds message ∨ message ∈ world.messages)
    (copied : ∀ message ∈ after.messages, message ∈ world.messages ∨
      ∃ job, Published family (steps ++ [step]) job ∧ family.Copies job message)
    (counted : ∀ job,
      world.queued.countP (family.carries job) +
          spare (coversOf family steps) (family.carries job) world.unacked +
          (if (step.published? family).any fun other =>
            family.identity other = family.identity job then 1 else 0) ≤
        after.queued.countP (family.carries job) +
          spare (coversOf family (steps ++ [step])) (family.carries job)
            after.unacked +
          if (step.settled? family).any (family.carries job) then 1 else 0) :
    HandingOver family (steps ++ [step]) after := by
  constructor
  · intro other entry found
    by_cases same : other = delivery
    · subst same
      obtain ⟨held, confirmed, republished, reached, ties⟩ := tied entry found
      exact ⟨held, confirmed, republished, own'.trans (congrArg some reached), ties⟩
    · rw [others other same]
      exact before.tied other entry ((untouched other same).1 ▸ found)
  · intro other reached found confirmed
    by_cases same : other = delivery
    · subst same
      obtain rfl : phase' = reached := Option.some.inj (own'.symm.trans found)
      exact confirming confirmed
    · rw [others other same] at found
      rw [(untouched other same).2]
      exact before.confirming other reached found confirmed
  · intro other reached message found holds
    by_cases same : other = delivery
    · subst same
      obtain rfl : phase' = reached := Option.some.inj (own'.symm.trans found)
      rcases holding message holds with held | member
      · obtain ⟨job, published, copies⟩ :=
          before.holding other phase message own held
        exact ⟨job, published.append, copies⟩
      · obtain ⟨job, published, copies⟩ := before.copied message member
        exact ⟨job, published.append, copies⟩
    · rw [others other same] at found
      obtain ⟨job, published, copies⟩ :=
        before.holding other reached message found holds
      exact ⟨job, published.append, copies⟩
  · intro message member
    rcases copied message member with member | new
    · obtain ⟨job, published, copies⟩ := before.copied message member
      exact ⟨job, published.append, copies⟩
    · exact new
  · intro job
    have kept := before.counted job
    have moved := counted job
    rw [publications_append, settlements_append]
    change _ ≤ _ + spare (coversOf family steps) _ _ + _ at kept
    change _ ≤ _ + spare (coversOf family (steps ++ [step])) _ _ + _
    omega

/-- A call that leaves the messages and says nothing of them. -/
theorem HandingOver.advance_of_same (before : HandingOver family steps world)
    (own : phaseOf family steps delivery = some phase)
    (own' : phaseOf family (steps ++ [step]) delivery = some phase')
    (others : ∀ other, other ≠ delivery →
      phaseOf family (steps ++ [step]) other = phaseOf family steps other)
    (silent : step.published? family = none)
    (queues : after.queued = world.queued) (unacked : after.unacked = world.unacked)
    (untouched : ∀ other, other ≠ delivery →
      after.confirming other = world.confirming other)
    (confirming : phase'.confirmed = true → after.confirming delivery = true)
    (kind : ∀ held confirmed republished,
      phase = .handling held confirmed republished →
        ∃ confirmed', phase' = .handling held confirmed' republished)
    (sending : ∀ job confirmed, phase = .publishing job confirmed →
      ∃ confirmed', phase' = .publishing job confirmed') :
    HandingOver family (steps ++ [step]) after := by
  have covers : coversOf family (steps ++ [step]) = coversOf family steps := by
    funext other
    by_cases same : other = delivery
    · subst same
      rw [coversOf, coversOf, own, own']
      cases phase with
      | publishing job confirmed =>
          obtain ⟨_, rfl⟩ := sending job confirmed rfl
          rfl
      | handling held confirmed republished =>
          obtain ⟨_, rfl⟩ := kind held confirmed republished rfl
          rfl
    · rw [coversOf, coversOf, others other same]
  have messages : after.messages = world.messages := by
    change after.queued ++ _ = world.queued ++ _
    rw [queues, unacked]
  apply before.advance own own' others
  · intro entry found
    rw [unacked] at found
    obtain ⟨held, confirmed, republished, reached, ties⟩ :=
      before.tied delivery entry found
    obtain rfl : phase = _ := Option.some.inj (own.symm.trans reached)
    obtain ⟨confirmed', rfl⟩ := kind held confirmed republished rfl
    exact ⟨held, confirmed', republished, rfl, ties⟩
  · intro other different
    rw [unacked]
    exact ⟨rfl, untouched other different⟩
  · exact confirming
  · rintro message ⟨confirmed', republished, rfl⟩
    cases phase with
    | publishing job confirmed =>
        obtain ⟨_, same⟩ := sending job confirmed rfl
        cases same
    | handling held confirmed republished =>
        obtain ⟨_, same⟩ := kind held confirmed republished rfl
        cases same
        exact .inl ⟨_, _, rfl⟩
  · intro message member
    rw [messages] at member
    exact .inl member
  · intro job
    rw [queues, unacked, covers, silent]
    simp

section Answered

variable {task : QueueTask family} {choice : QueueChoice}

variable {request : QueueCall} {reply : Except Exn request.Ret} {route : QueueRoute}
  {message : Json}

/-- The phases after an answered call. -/
theorem phases_of_answer (answered : (queuePool family).answer? step =
      some ⟨delivery, task, request, choice, reply, world, after⟩)
    (own : phaseOf family steps delivery = some phase) :
    phaseOf family (steps ++ [step]) delivery =
        some (phase.next request reply) ∧
      ∀ other, other ≠ delivery →
        phaseOf family (steps ++ [step]) other = phaseOf family steps other := by
  refine ⟨PoolSystem.tracked_of_answer answered own, ?_⟩
  intro other different
  obtain ⟨called, _⟩ := PoolSystem.answer?_eq_some_iff.mp answered
  apply PoolSystem.tracked_of_other
  · rintro started starts
    rw [called] at starts
    cases starts
  · rintro chosen calls
    rw [called] at calls
    cases calls
    exact different rfl

theorem published?_of_answer (answered : (queuePool family).answer? step =
      some ⟨delivery, task, request, choice, reply, world, after⟩)
    (silent : ∀ route message, request ≠ .basicPublish route message) :
    step.published? family = none := by
  rw [QueueStep.published?, answered]
  cases task <;> cases request <;> first | rfl | exact absurd rfl (silent _ _)

/-- A call whose answer moves neither messages nor phases. -/
theorem HandingOver.call_idle (before : HandingOver family steps world)
    (answered : (queuePool family).answer? step =
      some ⟨delivery, task, request, choice, reply, world, after⟩)
    (own : phaseOf family steps delivery = some phase)
    (silent : ∀ route message, request ≠ .basicPublish route message)
    (same : after = world) (stays : phase.next request reply = phase) :
    HandingOver family (steps ++ [step]) after := by
  subst same
  obtain ⟨own', others⟩ := phases_of_answer answered own
  rw [stays] at own'
  apply before.advance_of_same own own' others
    (published?_of_answer answered silent) rfl rfl
  · exact fun _ _ => rfl
  · exact before.confirming delivery phase own
  · exact fun _ _ _ same => ⟨_, same⟩
  · exact fun _ _ same => ⟨_, same⟩

theorem respond_of_answer (answered : (queuePool family).answer? step =
      some ⟨delivery, task, request, choice, reply, world, after⟩) :
    QueueWorld.respond delivery choice world request = some (reply, after) := by
  obtain ⟨_, _, same, responded⟩ := PoolSystem.answer?_eq_some_iff.mp answered
  rw [show world = step.before.world from same]
  exact responded

theorem QueueWorld.respond_confirmsEnabled {reply : Except Exn Bool}
    (responded : QueueWorld.respond delivery choice world .confirmsEnabled =
      some (reply, after)) :
    after = world ∧ reply = .ok (world.confirming delivery) := by
  cases choice <;> cases responded
  exact ⟨rfl, rfl⟩

theorem QueueWorld.respond_confirmDelivery {reply : Except Exn Unit}
    (responded : QueueWorld.respond delivery choice world .confirmDelivery =
      some (reply, after)) :
    (reply = .ok () ∧ after = world.confirm delivery true) ∨
      (reply.isOk = false ∧ after = world) := by
  cases choice <;> cases responded
  · exact .inl ⟨rfl, rfl⟩
  · exact .inr ⟨rfl, rfl⟩

theorem HandingOver.call_confirmsEnabled (before : HandingOver family steps world)
    {reply : Except Exn Bool}
    (answered : (queuePool family).answer? step =
      some ⟨delivery, task, .confirmsEnabled, choice, reply, world, after⟩)
    (own : phaseOf family steps delivery = some phase) :
    HandingOver family (steps ++ [step]) after := by
  obtain ⟨own', others⟩ := phases_of_answer answered own
  have silent := published?_of_answer answered fun _ _ => nofun
  have confirming := before.confirming delivery phase own
  obtain ⟨rfl, rfl⟩ :=
    QueueWorld.respond_confirmsEnabled (respond_of_answer answered)
  apply before.advance_of_same own own' others silent rfl rfl
  · exact fun _ _ => rfl
  · intro confirmed
    cases phase with
    | publishing job on => exact confirming confirmed
    | handling held on republished =>
        rcases (Bool.or_eq_true _ _).mp confirmed with on | enabled
        · exact confirming on
        · exact enabled
  · rintro held on republished rfl
    exact ⟨_, rfl⟩
  · rintro job on rfl
    exact ⟨_, rfl⟩

theorem HandingOver.call_confirmDelivery (before : HandingOver family steps world)
    {reply : Except Exn Unit}
    (answered : (queuePool family).answer? step =
      some ⟨delivery, task, .confirmDelivery, choice, reply, world, after⟩)
    (own : phaseOf family steps delivery = some phase) :
    HandingOver family (steps ++ [step]) after := by
  obtain ⟨own', others⟩ := phases_of_answer answered own
  have silent := published?_of_answer answered fun _ _ => nofun
  rcases QueueWorld.respond_confirmDelivery (respond_of_answer answered) with
    ⟨rfl, rfl⟩ | ⟨raised, same⟩
  · have queues : (world.confirm delivery true).queued = world.queued := rfl
    have unacked : (world.confirm delivery true).unacked = world.unacked := rfl
    apply before.advance_of_same own own' others silent queues unacked
    · intro other different
      simp [QueueWorld.confirm, different]
    · intro _
      simp [QueueWorld.confirm]
    · rintro held on republished rfl
      exact ⟨_, rfl⟩
    · rintro job on rfl
      exact ⟨_, rfl⟩
  · apply before.call_idle answered own (fun _ _ => nofun) same
    cases reply with
    | ok _ => cases raised
    | error error => cases phase <;> rfl

/-- A call that may give the message back to its queue. -/
theorem HandingOver.call_requeue (before : HandingOver family steps world)
    (answered : (queuePool family).answer? step =
      some ⟨delivery, task, request, choice, reply, world, after⟩)
    (own : phaseOf family steps delivery = some phase)
    (silent : ∀ route message, request ≠ .basicPublish route message)
    (stays : phase.next request reply = phase)
    (effect : after = world ∨ after = world.requeue delivery) :
    HandingOver family (steps ++ [step]) after := by
  rcases effect with same | rfl
  · exact before.call_idle answered own silent same stays
  · obtain ⟨own', others⟩ := phases_of_answer answered own
    rw [stays] at own'
    have kept (other : Nat) :
        (∀ entry, (world.requeue delivery).unacked.find? other = some entry →
          world.unacked.find? other = some entry) ∧
        (other ≠ delivery → (world.requeue delivery).unacked.find? other =
          world.unacked.find? other ∧
          (world.requeue delivery).confirming other = world.confirming other) := by
      unfold QueueWorld.requeue
      split
      · exact ⟨fun _ found => found, fun _ => ⟨rfl, rfl⟩⟩
      · simp only [QueueWorld.drop, RowTable.find?_deleteWhere]
        constructor
        · intro entry found
          exact (Option.filter_eq_some_iff.mp found).1
        · intro different
          refine ⟨?_, trivial⟩
          cases found : world.unacked.find? other with
          | none => rfl
          | some entry =>
              have key : entry.1 = other := RowTable.key_of_find? found
              simp [Option.filter, key, different]
    have confirms : (world.requeue delivery).confirming = world.confirming := by
      unfold QueueWorld.requeue
      split <;> rfl
    apply before.advance own own' others
    · intro entry found
      obtain ⟨held, confirmed, republished, reached, ties⟩ :=
        before.tied delivery entry ((kept delivery).1 entry found)
      exact ⟨held, confirmed, republished,
        Option.some.inj (own.symm.trans reached), ties⟩
    · exact fun other different => (kept other).2 different
    · rw [confirms]
      exact before.confirming delivery phase own
    · exact fun message held => .inl held
    · exact fun message member => .inl (QueueWorld.messages_requeue message member)
    · intro job
      rw [published?_of_answer answered silent]
      have agree (other : Nat) (different : other ≠ delivery) :
          coversOf family (steps ++ [step]) other = coversOf family steps other := by
        rw [coversOf, coversOf, others other different]
      have counted := world.count_requeue (family.carries job) agree (by rw [coversOf, coversOf, own, own'])
      simp only [Option.any_none, Bool.false_eq_true, if_false, Nat.add_zero]
      omega

/-- How a call comes out of which the client learns only whether its frame went
out. -/
theorem respondUnconfirmed_cases {effect : QueueWorld} {reply : Except Exn Unit}
    (responded : respondUnconfirmed world effect choice = some (reply, after)) :
    after = if choice.acts then effect else world := by
  cases choice <;> cases responded <;> rfl

/-- A publication that is not stored raises, on a channel that confirms. -/
theorem QueueWorld.respond_basicPublish
    {reply : Except Exn Unit} (confirming : world.confirming delivery = true)
    (responded : QueueWorld.respond delivery choice world
      (.basicPublish route message) = some (reply, after)) :
    (choice.acts = true ∧ after = world.store route message) ∨
      (choice.acts = false ∧ reply.isOk = false ∧ after = world) := by
  cases choice with
  | done =>
      cases responded
      exact .inl ⟨rfl, rfl⟩
  | refused error =>
      cases responded
      exact .inr ⟨rfl, rfl, rfl⟩
  | doneRaising error =>
      cases responded
      exact .inl ⟨rfl, rfl⟩
  | lost =>
      have unstored : (if world.confirming delivery then none
          else some ((.ok () : Except Exn Unit), world)) = some (reply, after) :=
        responded
      rw [if_pos confirming] at unstored
      cases unstored
  | handed index failure =>
      have impossible : (none : Option (Except Exn Unit × QueueWorld)) =
          some (reply, after) :=
        responded
      cases impossible

/-- Every answer to a publication leaves the delivery's kind, and covers it only if
it returned. -/
theorem next_basicPublish (phase : QueuePhase family) (route : QueueRoute)
    (message : Json) (reply : Except Exn Unit) :
    (phase.next (.basicPublish route message) reply).confirmed = phase.confirmed ∧
      (∀ held, (phase.next (.basicPublish route message) reply).Holds held →
        phase.Holds held) ∧
      (reply.isOk = false → phase.next (.basicPublish route message) reply = phase) ∧
      ∀ held confirmed republished,
        phase = .handling held confirmed republished →
          ∃ covered, phase.next (.basicPublish route message) reply =
            .handling held confirmed covered := by
  cases reply with
  | error error =>
      have same : phase.next (.basicPublish route message)
          (.error error : Except Exn Unit) = phase := by
        cases phase <;> rfl
      exact ⟨by rw [same], fun held holds => same ▸ holds, fun _ => same,
        fun held confirmed republished stands => ⟨republished, same.trans stands⟩⟩
  | ok value =>
      refine ⟨by cases phase <;> rfl, ?_, nofun, ?_⟩
      · rintro found ⟨confirmed, republished, reached⟩
        cases phase with
        | publishing job on => cases reached
        | handling held on stored =>
            cases reached
            exact ⟨_, _, rfl⟩
      · rintro held confirmed republished rfl
        exact ⟨true, rfl⟩

/-- What a publication puts into a queue is a copy of a published job, and it carries
what the publisher hands over or the delivery holds. -/
theorem HandingOver.sends (before : HandingOver family steps world)
    {reply : Except Exn Unit}
    (answered : (queuePool family).answer? step =
      some ⟨delivery, task, .basicPublish route message, choice, reply, world,
        after⟩)
    (own : phaseOf family steps delivery = some phase)
    (serves : phase.Serves task)
    (permitted : phase.permits (.basicPublish route message))
    (acts : choice.acts = true) :
    (∃ job, Published family (steps ++ [step]) job ∧ family.Copies job message) ∧
      ∀ job, (if (step.published? family).any fun other =>
              family.identity other = family.identity job then 1 else 0) +
            (if (world.unacked.find? delivery).any
              (fun entry => family.carries job entry.2) then 1 else 0) ≤
          if family.carries job message then 1 else 0 := by
  cases phase with
  | publishing sent confirmed =>
      obtain ⟨_, rfl⟩ := permitted
      cases task with
      | consume confirms closes handler => exact serves.elim
      | receive confirms closes handler => exact serves.elim
      | publish route' job =>
          obtain rfl : sent = job := serves
          have published : step.published? family = some sent := by
            rw [QueueStep.published?, answered]
            simp [QueueAnswer.published?, acts]
          have empty : world.unacked.find? delivery = none := by
            rw [Option.eq_none_iff_forall_ne_some]
            intro entry found
            obtain ⟨held, on, stored, reached, _⟩ :=
              before.tied delivery entry found
            cases own.symm.trans reached
          refine ⟨⟨sent, ⟨step, by simp, published⟩, .inl rfl⟩, ?_⟩
          intro other
          simp only [published, empty, Option.any_some, Option.any_none,
            JobFamily.carries, family.reads, JobFamily.identity_read]
          simp
  | handling held confirmed republished =>
      obtain ⟨_, source, found, attempt, rfl, read, rfl, later, bounded⟩ := permitted
      obtain ⟨job, published, copies⟩ :=
        before.holding delivery _ source own ⟨_, _, rfl⟩
      obtain ⟨arrived, reads, least, most⟩ := copies.reads
      obtain rfl : found = _ := Except.ok.inj (read.symm.trans reads)
      rw [family.attempt_withAttempt] at later bounded
      refine ⟨⟨job, published.append, .inr ⟨attempt, ?_, le_trans least later, ?_⟩⟩,
        ?_⟩
      · rw [family.withAttempt_withAttempt]
      · rcases bounded with rfl | bounded
        · exact most
        · exact .inr bounded
      · intro other
        have silent : step.published? family = none := by
          rw [QueueStep.published?, answered]
          cases task with
          | publish route' job => exact serves.elim
          | consume confirms closes handler => rfl
          | receive confirms closes handler => rfl
        have reading : family.read (family.withAttempt (family.read job) arrived) =
            family.withAttempt (family.read job) arrived := by
          rw [family.read_withAttempt, family.read_read]
        rw [silent, JobFamily.carries_republished read reading]
        cases found : world.unacked.find? delivery with
        | none => simp
        | some entry =>
            obtain ⟨held, on, stored, reached, ties⟩ :=
              before.tied delivery entry found
            cases own.symm.trans reached
            rw [Option.any_some, ← ties source rfl]
            simp

theorem HandingOver.call_basicPublish (before : HandingOver family steps world)
    {reply : Except Exn Unit}
    (answered : (queuePool family).answer? step =
      some ⟨delivery, task, .basicPublish route message, choice, reply, world,
        after⟩)
    (own : phaseOf family steps delivery = some phase)
    (serves : phase.Serves task)
    (permitted : phase.permits (.basicPublish route message)) :
    HandingOver family (steps ++ [step]) after := by
  obtain ⟨own', others⟩ := phases_of_answer answered own
  obtain ⟨confirms, holds, raised, kind⟩ :=
    next_basicPublish phase route message reply
  have confirmed : phase.confirmed = true := by
    cases phase <;> exact permitted.1
  have confirming := before.confirming delivery phase own confirmed
  have settled : step.settled? family = none := by
    rw [QueueStep.settled?, answered]
    rfl
  rcases QueueWorld.respond_basicPublish confirming (respond_of_answer answered) with
    ⟨acts, rfl⟩ | ⟨idle, failed, rfl⟩
  · obtain ⟨sent, counted⟩ := before.sends answered own serves permitted acts
    have unacked : (world.store route message).unacked = world.unacked := by
      cases route <;> rfl
    have channels : (world.store route message).confirming = world.confirming := by
      cases route <;> rfl
    apply before.advance own own' others
    · intro entry found
      rw [unacked] at found
      obtain ⟨held, on, stored, reached, ties⟩ := before.tied delivery entry found
      obtain ⟨covered, moved⟩ :=
        kind held on stored (Option.some.inj (own.symm.trans reached))
      exact ⟨held, on, covered, moved, ties⟩
    · intro other _
      rw [unacked, channels]
      exact ⟨rfl, rfl⟩
    · intro _
      rw [channels]
      exact confirming
    · exact fun held reached => .inl (holds held reached)
    · intro other member
      rw [QueueWorld.mem_messages, unacked] at member
      rcases member with queued | held
      · have cases_ : other ∈ world.queued ∨ other = message := by
          cases route <;>
            simp only [QueueWorld.queued, QueueWorld.store, List.mem_append,
              List.mem_singleton] at queued ⊢ <;>
            tauto
        rcases cases_ with queued | rfl
        · exact .inl (QueueWorld.mem_messages.mpr (.inl queued))
        · exact .inr sent
      · exact .inl (QueueWorld.mem_messages.mpr (.inr held))
    · intro job
      have bound := counted job
      have kept := spare_le_of_covered (coversOf family steps)
        (coversOf family (steps ++ [step])) (family.carries job) world.unacked
        delivery
        fun other different => by rw [coversOf, coversOf, others other different]
      rw [unacked, settled, QueueWorld.countP_store]
      simp only [Option.any_none, Bool.false_eq_true, if_false, Nat.add_zero]
      omega
  · have stays := raised failed
    rw [stays] at own'
    have silent : step.published? family = none := by
      rw [QueueStep.published?, answered]
      cases task <;> simp [QueueAnswer.published?, idle]
    apply before.advance_of_same own own' others silent rfl rfl
    · exact fun _ _ => rfl
    · exact fun _ => confirming
    · exact fun _ _ _ same => ⟨_, same⟩
    · exact fun _ _ same => ⟨_, same⟩

/-- The broker hands out a message, or the delivery comes to nothing. -/
theorem QueueWorld.respond_basicGet {reply : Except Exn (Option Json)}
    (responded : QueueWorld.respond delivery choice world .basicGet =
      some (reply, after)) :
    (∃ index message, world.hand delivery index = some (message, after) ∧
        (reply = .ok (some message) ∨ reply.isOk = false)) ∨
      ((reply = .ok none ∨ reply.isOk = false) ∧ after = world) := by
  cases choice with
  | done => cases responded
  | refused error =>
      cases responded
      exact .inr ⟨.inr rfl, rfl⟩
  | doneRaising error => cases responded
  | lost =>
      cases responded
      exact .inr ⟨.inl rfl, rfl⟩
  | handed index failure =>
      obtain ⟨⟨message, left⟩, handed, same⟩ := Option.map_eq_some_iff.mp responded
      refine .inl ⟨index, message, ?_⟩
      cases failure with
      | none =>
          cases same
          exact ⟨handed, .inl rfl⟩
      | some error =>
          cases same
          exact ⟨handed, .inr rfl⟩

theorem HandingOver.call_basicGet (before : HandingOver family steps world)
    {reply : Except Exn (Option Json)}
    (answered : (queuePool family).answer? step =
      some ⟨delivery, task, .basicGet, choice, reply, world, after⟩)
    (own : phaseOf family steps delivery = some phase)
    (permitted : phase.permits .basicGet) :
    HandingOver family (steps ++ [step]) after := by
  obtain ⟨own', others⟩ := phases_of_answer answered own
  cases phase with
  | publishing job confirmed => exact permitted.elim
  | handling held confirmed republished =>
      obtain ⟨rfl, rfl⟩ := permitted
      rcases QueueWorld.respond_basicGet (respond_of_answer answered) with
        ⟨index, message, handed, outcome⟩ | ⟨outcome, same⟩
      · obtain ⟨waiting, unacked, inserted, rfl⟩ := QueueWorld.hand_eq_some handed
        have reached : ∃ held, QueuePhase.next
            (@QueuePhase.handling family none confirmed false) .basicGet reply =
              .handling held confirmed false ∧
            ∀ found, held = some found → found = message := by
          rcases outcome with rfl | raised
          · exact ⟨some message, rfl, by simp⟩
          · cases reply with
            | ok _ => cases raised
            | error error => exact ⟨none, rfl, by simp⟩
        obtain ⟨held, moved, ties⟩ := reached
        rw [moved] at own'
        have member : message ∈ world.messages := by
          apply QueueWorld.mem_messages.mpr
          left
          simp [QueueWorld.queued, List.mem_of_getElem? waiting]
        apply before.advance own own' others
        · intro entry found
          rw [RowTable.find?_insert? inserted, if_pos rfl] at found
          cases found
          exact ⟨held, confirmed, false, rfl, ties⟩
        · intro other different
          rw [RowTable.find?_insert? inserted, if_neg (Ne.symm different)]
          exact ⟨rfl, rfl⟩
        · exact fun on => before.confirming delivery _ own on
        · rintro found ⟨on, stored, same⟩
          cases same
          rw [ties found rfl]
          exact .inr member
        · intro other inside
          left
          rw [QueueWorld.mem_messages] at inside ⊢
          rcases inside with queued | ⟨holder, found⟩
          · left
            simp only [QueueWorld.queued, List.mem_append] at queued ⊢
            rcases queued with (requested | retried) | dead
            · exact .inl (.inl (List.mem_of_mem_eraseIdx requested))
            · exact .inl (.inr retried)
            · exact .inr dead
          · rw [RowTable.find?_insert? inserted] at found
            split_ifs at found with same
            · cases found
              exact QueueWorld.mem_messages.mp member
            · exact .inr ⟨holder, found⟩
        · intro job
          have handedOut := countP_eraseIdx (family.carries job) waiting
          have counted := spare_insert (coversOf family steps)
            (coversOf family (steps ++ [step])) (family.carries job)
            (fun other different => by
              rw [coversOf, coversOf, others other different])
            (by rw [coversOf, own']; rfl) inserted
          rw [published?_of_answer answered (by simp)]
          simp only [QueueWorld.queued, List.countP_append, Option.any_none,
            Bool.false_eq_true, if_false, Nat.add_zero]
          omega
      · apply before.call_idle answered own (by simp) same
        rcases outcome with rfl | raised
        · rfl
        · cases reply with
          | ok _ => cases raised
          | error error => rfl

theorem HandingOver.call_basicAck (before : HandingOver family steps world)
    {method : DeliveryMethod} {reply : Except Exn Unit}
    (answered : (queuePool family).answer? step =
      some ⟨delivery, task, .basicAck method, choice, reply, world, after⟩)
    (own : phaseOf family steps delivery = some phase)
    (permitted : phase.permits (.basicAck method)) :
    HandingOver family (steps ++ [step]) after := by
  have stays : phase.next (.basicAck method) reply = phase := by
    cases phase <;> cases reply <;> rfl
  have effect := respondUnconfirmed_cases (respond_of_answer answered)
  cases acts : choice.acts with
  | false =>
      rw [acts, if_neg (by simp)] at effect
      exact before.call_idle answered own (fun _ _ => nofun) effect stays
  | true =>
      rw [acts, if_pos rfl] at effect
      subst effect
      obtain ⟨own', others⟩ := phases_of_answer answered own
      rw [stays] at own'
      have agree (other : Nat) (different : other ≠ delivery) :
          coversOf family (steps ++ [step]) other = coversOf family steps other := by
        rw [coversOf, coversOf, others other different]
      apply before.advance own own' others
      · intro entry found
        rw [QueueWorld.drop, RowTable.find?_deleteWhere, Option.filter_eq_some_iff]
          at found
        have key : entry.1 = delivery := RowTable.key_of_find? found.1
        simp [key] at found
      · intro other different
        refine ⟨?_, rfl⟩
        rw [QueueWorld.drop, RowTable.find?_deleteWhere]
        cases found : world.unacked.find? other with
        | none => rfl
        | some entry =>
            have key : entry.1 = other := RowTable.key_of_find? found
            simp [Option.filter, key, different]
      · exact before.confirming delivery phase own
      · exact fun message held => .inl held
      · exact fun message member => .inl (QueueWorld.messages_drop message member)
      · intro job
        have dropped := spare_le_of_drop _ _ (family.carries job) world.unacked
          delivery agree
        have settles : (if (world.unacked.find? delivery).any (fun entry =>
              family.carries job entry.2 && !coversOf family steps entry.1)
              then 1 else 0) ≤
            if (step.settled? family).any (family.carries job) then 1 else 0 := by
          cases found : world.unacked.find? delivery with
          | none => simp
          | some entry =>
              have key : entry.1 = delivery := RowTable.key_of_find? found
              cases phase with
              | publishing sent confirmed => exact permitted.elim
              | handling held confirmed republished =>
                  rcases permitted.2 with rfl | covered
                  · have settled : step.settled? family = some entry.2 := by
                      rw [QueueStep.settled?, answered]
                      simp [QueueAnswer.settled?, acts, found]
                    rw [settled, Option.any_some, Option.any_some]
                    split_ifs with meets carried <;> simp_all
                  · have covers : coversOf family steps entry.1 = true := by
                      rw [key, coversOf, own, covered]
                      rfl
                    simp [covers]
        rw [published?_of_answer answered fun _ _ => nofun]
        change _ ≤ world.queued.countP _ +
          spare _ _ (world.unacked.deleteWhere fun entry => entry.1 = delivery) + _
        simp only [Option.any_none, Bool.false_eq_true, if_false, Nat.add_zero]
        omega

/-- Every answered call keeps the invariant. -/
theorem HandingOver.call (before : HandingOver family steps world)
    (answered : (queuePool family).answer? step =
      some ⟨delivery, task, request, choice, reply, world, after⟩)
    (own : phaseOf family steps delivery = some phase)
    (serves : phase.Serves task) (permitted : phase.permits request) :
    HandingOver family (steps ++ [step]) after := by
  have idle {effect : QueueWorld} {reply : Except Exn Unit}
      (responded : respondIdle world choice = some (reply, effect)) :
      effect = world := by
    cases choice <;> cases responded <;> rfl
  have requeued {effect : QueueWorld} {reply : Except Exn Unit}
      (responded : respondUnconfirmed world (world.requeue delivery) choice =
        some (reply, effect)) :
      effect = world ∨ effect = world.requeue delivery := by
    rw [respondUnconfirmed_cases responded]
    split
    · exact .inr rfl
    · exact .inl rfl
  have responded := respond_of_answer answered
  cases request with
  | openConnection | openChannel =>
      exact before.call_idle answered own (fun _ _ => nofun) (idle responded)
        (by cases phase <;> cases reply <;> rfl)
  | confirmsEnabled => exact before.call_confirmsEnabled answered own
  | confirmDelivery => exact before.call_confirmDelivery answered own
  | basicPublish route message =>
      exact before.call_basicPublish answered own serves permitted
  | basicGet => exact before.call_basicGet answered own permitted
  | basicAck method => exact before.call_basicAck answered own permitted
  | basicNack | closeConnection =>
      exact before.call_requeue answered own (fun _ _ => nofun)
        (by cases phase <;> cases reply <;> rfl) (requeued responded)

end Answered

/-- A step without an answer neither hands over nor settles. -/
theorem silent_of_unanswered (unanswered : (queuePool family).answer? step = none) :
    step.published? family = none ∧ step.settled? family = none := by
  rw [QueueStep.published?, QueueStep.settled?, unanswered]
  exact ⟨rfl, rfl⟩

/-- A step outside the deliveries moves messages between queues. -/
theorem HandingOver.outside (before : HandingOver family steps world)
    (unanswered : (queuePool family).answer? step = none)
    (phases : ∀ other, phaseOf family (steps ++ [step]) other =
      phaseOf family steps other)
    (unacked : ∀ other entry, after.unacked.find? other = some entry →
      world.unacked.find? other = some entry)
    (confirming : after.confirming = world.confirming)
    (messages : ∀ message ∈ after.messages, message ∈ world.messages)
    (counted : ∀ job, world.queued.countP (family.carries job) +
        spare (coversOf family steps) (family.carries job) world.unacked ≤
      after.queued.countP (family.carries job) +
        spare (coversOf family steps) (family.carries job) after.unacked) :
    HandingOver family (steps ++ [step]) after := by
  obtain ⟨unpublished, unsettled⟩ := silent_of_unanswered unanswered
  constructor
  · intro other entry found
    rw [phases]
    exact before.tied other entry (unacked other entry found)
  · intro other phase found confirmed
    rw [phases] at found
    rw [confirming]
    exact before.confirming other phase found confirmed
  · intro other phase message found holds
    rw [phases] at found
    obtain ⟨job, published, copies⟩ :=
      before.holding other phase message found holds
    exact ⟨job, published.append, copies⟩
  · intro message member
    obtain ⟨job, published, copies⟩ := before.copied message (messages message member)
    exact ⟨job, published.append, copies⟩
  · intro job
    have kept := before.counted job
    have moved := counted job
    rw [publications_append, settlements_append, unpublished, unsettled]
    simp only [phases, Option.any_none, Bool.false_eq_true, if_false, Nat.add_zero]
    change _ ≤ _ + spare (coversOf family steps) _ _ + _ at kept
    change _ ≤ _ + spare (coversOf family steps) _ _ + _
    omega

/-- A publication or delivery starts on a channel of its own. -/
theorem HandingOver.start (before : HandingOver family steps world)
    {task : QueueTask family} (starts : step.event = .start delivery task)
    (idle : world.unacked.find? delivery = none) :
    HandingOver family (steps ++ [step]) (world.confirm delivery task.confirms) := by
  have own' : phaseOf family (steps ++ [step]) delivery =
      some (QueuePhase.start task) := by
    rw [phaseOf, PoolSystem.tracked_concat]
    simp [PoolSystem.track, starts]
  have others (other : Nat) (different : other ≠ delivery) :
      phaseOf family (steps ++ [step]) other = phaseOf family steps other := by
    apply PoolSystem.tracked_of_other
    · intro started event
      rw [starts] at event
      cases event
      exact different rfl
    · intro choice event
      rw [starts] at event
      cases event
  have unanswered : (queuePool family).answer? step = none := by
    unfold PoolSystem.answer?
    rw [starts]
  obtain ⟨unpublished, unsettled⟩ := silent_of_unanswered unanswered
  constructor
  · intro other entry found
    by_cases same : other = delivery
    · subst same
      cases idle.symm.trans found
    · rw [others other same]
      exact before.tied other entry found
  · intro other phase found confirmed
    by_cases same : other = delivery
    · subst same
      rw [own'] at found
      cases found
      cases task <;> cases confirmed
    · rw [others other same] at found
      simp only [QueueWorld.confirm, Function.update_of_ne same]
      exact before.confirming other phase found confirmed
  · intro other phase message found holds
    by_cases same : other = delivery
    · subst same
      rw [own'] at found
      cases found
      obtain ⟨_, _, holds⟩ := holds
      cases task <;> cases holds
    · rw [others other same] at found
      obtain ⟨job, published, copies⟩ :=
        before.holding other phase message found holds
      exact ⟨job, published.append, copies⟩
  · intro message member
    obtain ⟨job, published, copies⟩ := before.copied message member
    exact ⟨job, published.append, copies⟩
  · intro job
    have kept := before.counted job
    have same := spare_le_of_covered (coversOf family steps)
      (coversOf family (steps ++ [step])) (family.carries job) world.unacked
      delivery
      fun other different => by rw [coversOf, coversOf, others other different]
    rw [idle, Option.any_none, if_neg (by simp)] at same
    rw [publications_append, settlements_append, unpublished, unsettled]
    simp only [Option.any_none, Bool.false_eq_true, if_false, Nat.add_zero]
    change _ ≤ _ + spare (coversOf family steps) _ _ + _ at kept
    change _ ≤ world.queued.countP _ +
      spare (coversOf family (steps ++ [step])) _ world.unacked + _
    omega

end Call

/-- A message that has waited long enough counts in its new queue. -/
theorem QueueWorld.expire_eq_some {index : Nat}
    (expired : world.expire index = some after) :
    after.unacked = world.unacked ∧ after.confirming = world.confirming ∧
      (∀ message ∈ after.queued, message ∈ world.queued) ∧
      ∀ meets : Json → Bool,
        after.queued.countP meets = world.queued.countP meets := by
  obtain ⟨message, waiting, rfl⟩ := Option.map_eq_some_iff.mp expired
  refine ⟨rfl, rfl, ?_, ?_⟩
  · intro other member
    simp only [QueueWorld.queued, List.mem_append, List.mem_singleton] at member ⊢
    rcases member with ((requested | rfl) | retried) | dead
    · exact .inl (.inl requested)
    · exact .inl (.inr (List.mem_of_getElem? waiting))
    · exact .inl (.inr (List.mem_of_mem_eraseIdx retried))
    · exact .inr dead
  · intro meets
    have moved := countP_eraseIdx meets waiting
    simp only [QueueWorld.queued, List.countP_append, List.countP_singleton]
    omega

/-- A run keeps the invariant from an empty broker on. -/
theorem handingOver_of_run {final : QueueState family}
    (run : (queuePool family).Run {} steps final) :
    HandingOver family steps final.world := by
  induction run with
  | nil =>
      refine ⟨?_, ?_, ?_, by simp [QueueWorld.messages, RowTable.empty],
        fun _ => by simp [publications]⟩
      · intro delivery entry found
        cases found
      · intro delivery phase own
        cases own
      · intro delivery phase message own
        cases own
  | @step steps state run last starts permitted induction =>
      have phases (thread : Nat)
          {running : PoolThread (QueueTask family) QueueCall QueueCall.Ret Exn Unit}
          (stands : last.before.threads thread = some running) :
          ∃ phase, phaseOf family steps thread = some phase ∧
            phase.Serves running.task ∧
            (handoverMonitor family).Conforms running.rest (fun _ _ => True)
              phase := by
        rw [starts] at stands
        exact PoolSystem.phases_of_run
          (fun task rest phase => QueuePhase.Serves task phase ∧
            (handoverMonitor family).Conforms rest (fun _ _ => True) phase)
          (fun task => ⟨by cases task <;> trivial, conforms_body task⟩)
          (fun _ _ _ _ reply kept => ⟨kept.1.next, kept.2.2 reply _ rfl⟩)
          run stands
      rw [← starts] at induction
      clear starts
      have moves := PoolSystem.moves_of_allowed permitted
      generalize (queuePool family).after last = reached at moves
      obtain ⟨event, before⟩ := last
      simp only at induction moves phases
      cases moves with
      | @start thread task world idle launched =>
          simp only [queuePool] at launched
          split_ifs at launched with free
          cases launched
          exact induction.start rfl (Option.isNone_iff_eq_none.mp free)
      | @call thread choice task request next reply world stands answered =>
          obtain ⟨phase, own, serves, conforms⟩ := phases thread stands
          have answer := PoolSystem.answer?_of_call (queuePool family) stands answered
          exact induction.call answer own serves conforms.1
      | stop stands =>
          refine induction.outside rfl ?_ (fun _ _ found => found) rfl
            (fun _ member => member) fun _ => le_rfl
          intro other
          exact PoolSystem.tracked_of_other (by simp) (by simp)
      | @outside event world happens =>
          have unmoved (other : Nat) :
              phaseOf family (steps ++ [⟨.outside event, before⟩]) other =
                phaseOf family steps other :=
            PoolSystem.tracked_of_other (by simp) (by simp)
          cases event with
          | disconnect delivery =>
              cases happens
              refine induction.outside rfl unmoved ?_ ?_
                QueueWorld.messages_requeue fun job =>
                  QueueWorld.count_requeue _ _ (fun _ _ => rfl) rfl
              · intro other entry found
                unfold QueueWorld.requeue at found
                split at found
                · exact found
                · simp only [QueueWorld.drop, RowTable.find?_deleteWhere] at found
                  exact (Option.filter_eq_some_iff.mp found).1
              · unfold QueueWorld.requeue
                split <;> rfl
          | expire index =>
              obtain ⟨unacked, confirming, queued, counts⟩ :=
                QueueWorld.expire_eq_some happens
              refine induction.outside rfl unmoved ?_ confirming ?_ ?_
              · intro other entry found
                rwa [unacked] at found
              · intro message member
                rw [QueueWorld.mem_messages, unacked] at member
                exact QueueWorld.mem_messages.mpr
                  (member.imp_left (queued message))
              · intro job
                rw [counts, unacked]

/-- No job is lost on its way through the queues, every copy is what arrives of a
published job but for its attempt, and attempts stay within bounds. -/
theorem handedOver_of_run (family : JobFamily) {steps : List (QueueStep family)}
    {final : QueueState family}
    (run : (queuePool family).Run {} steps final) :
    HandedOver family steps final.world := by
  have invariant := handingOver_of_run run
  have counted (job : family.Job) : publications family steps job ≤
      final.world.messages.countP (family.carries job) +
        settlements family steps job := by
    have kept := invariant.counted job
    have fewer : spare (fun delivery =>
          QueuePhase.covers (phaseOf family steps delivery))
        (family.carries job) final.world.unacked ≤
        (final.world.unacked.rows.map Prod.snd).countP (family.carries job) := by
      rw [List.countP_map]
      apply List.countP_mono_left
      intro entry _ meets
      exact (Bool.and_eq_true _ _ ▸ meets).1
    change _ ≤ (final.world.queued ++ _).countP _ + _
    rw [List.countP_append]
    omega
  refine ⟨?_, counted, invariant.copied, ?_⟩
  · rintro job ⟨step, member, published⟩
    have positive : 0 < publications family steps job := by
      apply List.countP_pos_iff.mpr
      exact ⟨step, member, by simp [published]⟩
    by_cases settled : 0 < settlements family steps job
    · exact .inr (List.countP_pos_iff.mp settled)
    · left
      have copies := counted job
      apply List.countP_pos_iff.mp
      omega
  · intro message member found read originals
    obtain ⟨job, published, copies⟩ := invariant.copied message member
    obtain ⟨attempt, reads, _, bounded⟩ := copies.reads
    obtain rfl : found = _ := Except.ok.inj (read.symm.trans reads)
    have first := originals job published (by
      rw [JobFamily.identity_withAttempt, JobFamily.identity_read])
    have least := family.maxAttempts_pos
    rw [family.attempt_withAttempt]
    omega

end Invariant

/-! ## Reviews and index jobs -/

section Families

variable (strOf : Json → String) (intOfText : String → Option Int)

/-- Both kinds of jobs are handed over. -/
theorem queued_jobs_handed_over (topology : QueueTopology)
    (topology' : KnowledgeQueueTopology) :
    (∀ (steps : List (QueueStep (reviewJobs strOf intOfText topology)))
        (final : QueueState (reviewJobs strOf intOfText topology)),
      (queuePool (reviewJobs strOf intOfText topology)).Run {} steps final →
        HandedOver (reviewJobs strOf intOfText topology) steps final.world) ∧
    ∀ (steps : List (QueueStep (indexJobs strOf intOfText topology')))
        (final : QueueState (indexJobs strOf intOfText topology')),
      (queuePool (indexJobs strOf intOfText topology')).Run {} steps final →
        HandedOver (indexJobs strOf intOfText topology') steps final.world :=
  ⟨fun _ _ run => handedOver_of_run _ run, fun _ _ run => handedOver_of_run _ run⟩

end Families

/-! ## A retried review -/

def sampleQueue : JobFamily :=
  reviewJobs (fun _ => "") (fun _ => none) {}

/-- A job for an email without a subject. -/
def unnamedJob : QueuedReviewJob where
  jobId := "J1"
  contractId := "K1"
  contractVersionId := "V1"
  workspaceId := "W1"
  emailThreadId := "email-1"
  requestedBy := "user@mail.test"
  originalSubject := some ""

/-- The job is published, and its delivery retries it. -/
def retryEvents : List (PoolEvent (QueueTask sampleQueue) QueueChoice QueueEvent) :=
  [.start 0 (.publish .requested unnamedJob),
    .call 0 .done,
    .call 0 .done,
    .call 0 .done,
    .call 0 .done,
    .call 0 .done,
    .start 1 (.consume true false fun _ => .call DeliveryMethod.retry .done),
    .call 1 (.handed 0 none),
    .call 1 .done,
    .call 1 .done,
    .call 1 .done]

def retriedJob : Option (List (QueueStep sampleQueue) × QueueState sampleQueue) :=
  (queuePool sampleQueue).extend [] { world := {} } retryEvents

theorem retriedJob_isSome : retriedJob.isSome := by
  decide

def retriedJobSteps : List (QueueStep sampleQueue) :=
  (retriedJob.get retriedJob_isSome).1

def retriedJobState : QueueState sampleQueue :=
  (retriedJob.get retriedJob_isSome).2

theorem retriedJobSteps_run :
    (queuePool sampleQueue).Run {} retriedJobSteps retriedJobState :=
  PoolSystem.run_of_extend .nil (Option.some_get retriedJob_isSome).symm

theorem queued_jobs_handed_over_sample :
    retriedJobState.world.retry.length = 1 ∧
      HandedOver sampleQueue retriedJobSteps retriedJobState.world :=
  ⟨by decide,
    (queued_jobs_handed_over (fun _ => "") (fun _ => none) {} {}).1
      retriedJobSteps retriedJobState retriedJobSteps_run⟩

/-- Only the sample job is published. -/
theorem retriedJobSteps_published :
    (retriedJobSteps.all fun step =>
      (step.published? sampleQueue).all fun job : QueuedReviewJob =>
        job = unnamedJob) = true := by
  decide

/-- The copy of a job with an empty subject has none. -/
theorem copy_differs_beyond_attempt :
    ¬ ∀ (strOf : Json → String) (intOfText : String → Option Int)
        (topology : QueueTopology)
        (steps : List (QueueStep (reviewJobs strOf intOfText topology)))
        (final : QueueState (reviewJobs strOf intOfText topology)),
      (queuePool (reviewJobs strOf intOfText topology)).Run {} steps final →
        ∀ message ∈ final.world.messages, ∃ job : QueuedReviewJob,
          Published (reviewJobs strOf intOfText topology) steps job ∧
          ∃ attempt, message = { job with attempt }.toMessage := by
  intro copied
  have unnamed : (retriedJobState.world.messages.any fun message =>
      (message.field? "original_subject").isNone) = true := by
    decide
  obtain ⟨message, member, missing⟩ := List.any_eq_true.mp unnamed
  obtain ⟨job, ⟨step, inside, published⟩, attempt, rfl⟩ :=
    copied (fun _ => "") (fun _ => none) {} retriedJobSteps retriedJobState
      retriedJobSteps_run message member
  have only := List.all_eq_true.mp retriedJobSteps_published step inside
  have found : step.published? sampleQueue = some job := published
  rw [found, Option.all_some, decide_eq_true_eq] at only
  subst only
  cases missing

end ContractMate
