import ContractMate.DeliverySpending

/-!
# Bounded processing

The failed deliveries of a body and its retry copies stay within its allowance and its
interruptions as long as no message is requeued with its attempt uncounted and no copy
comes to stand beside its original.
-/

namespace ContractMate

/-! ## The condition -/

/-- A delivery that was put off as busy does not fail after all. -/
def Flight.steady (flight : Flight) : Bool :=
  !(flight.fails && flight.channel.settledBy == some .retryContention)

/-- No copy of the message is stored that it still waits beside. -/
def Flight.alone (flight : Flight) : Bool :=
  !(flight.channel.held && flight.channel.copied.isSome)

def Lineage.tolerates {queue : ConsumedQueue} (state : Lineage) :
    LineageEvent queue → Bool
  | .deliver .. => true
  | .call place choice =>
      (state.flights[place]?).all fun flight =>
        match flight.rest with
        | .call request _ => flight.channel.tolerates choice request
        | .done _ => true
  | .finish place => (state.flights[place]?).all Flight.steady
  | .interrupt place => (state.flights[place]?).all Flight.alone

def LineageStep.Tolerated {queue : ConsumedQueue} (step : LineageStep queue) : Prop :=
  step.before.tolerates step.event = true

/-! ## The bound -/

/-- The failed deliveries stay within `RABBITMQ_MAX_ATTEMPTS` and the interrupted
ones.  Once they reach that bound, or nothing of the body is left on the queues, it is
in the dead-letter queue or acknowledged. -/
structure Lineage.Bounded (queue : ConsumedQueue) (state : Lineage) : Prop where
  failures_le :
    (state.failures : Int) ≤ queue.family.maxAttempts + state.interruptions
  settled :
    (state.failures : Int) = queue.family.maxAttempts + state.interruptions ∨
        (state.waiting = [] ∧ state.flights = []) →
      state.dead ≠ [] ∨ 0 < state.acknowledged

/-! ## What a call can do -/

/-- What a tolerated call of a delivery can do: nothing that counts, store a retry
copy or a dead letter, or settle the message. -/
inductive CallEffect (queue : ConsumedQueue) (limit : Nat) (state : Lineage)
    (channel : DeliveryChannel) : DeliveryChannel → Lineage → Prop
  | quiet {after : DeliveryChannel} (held : after.held = channel.held)
      (settled : after.settledBy = channel.settledBy)
      (copied : after.copied = channel.copied)
      (buried : after.buried = channel.buried) :
      CallEffect queue limit state channel after state
  | copies {message : Json}
      (permitted : queue.permits limit channel (.basicPublish .retry message)) :
      CallEffect queue limit state channel (channel.publish .retry message)
        (state.store .retry message)
  | buries {message : Json} :
      CallEffect queue limit state channel (channel.publish .dead message)
        (state.store .dead message)
  | settles {method : DeliveryMethod} (held : channel.held = true)
      (permitted : queue.permits limit channel (.basicAck method)) :
      CallEffect queue limit state channel ((channel.ask method).release method)
        (if method = .ack then { state with acknowledged := state.acknowledged + 1 }
        else state)

section Calls

variable {queue : ConsumedQueue} {limit : Nat} {state : Lineage} {body : MessageBody}
  {channel after : DeliveryChannel} {choice : QueueChoice}

theorem callEffect_publish {route : QueueRoute} {message : Json}
    {reply : Except Exn Unit}
    (permitted : queue.permits limit channel (.basicPublish route message))
    (tolerated : channel.tolerates choice (.basicPublish route message) = true)
    (responds : channel.respond choice (.basicPublish route message) =
      some (reply, after)) :
    CallEffect queue limit state channel after
      (if choice.acts then state.act body channel (.basicPublish route message)
      else state) := by
  cases choice with
  | done =>
      cases responds
      cases route with
      | requested => exact permitted.elim
      | retry => exact .copies permitted
      | dead => exact .buries
  | refused error =>
      cases responds
      exact .quiet rfl rfl rfl rfl
  | doneRaising error =>
      cases responds
      cases route with
      | requested => exact permitted.elim
      | retry => cases tolerated
      | dead => exact .buries
  | lost =>
      have confirming : channel.confirming = true := by
        cases route with
        | requested => exact permitted.elim
        | retry => exact permitted.1
        | dead => exact permitted
      have lost : channel.respond .lost (.basicPublish route message) = none :=
        if_pos confirming
      rw [lost] at responds
      cases responds
  | handed index failure => cases responds

theorem callEffect_ack {method : DeliveryMethod} {reply : Except Exn Unit}
    (permitted : queue.permits limit channel (.basicAck method))
    (responds : channel.respond choice (.basicAck method) = some (reply, after)) :
    CallEffect queue limit state channel after
      (if choice.acts then state.act body channel (.basicAck method) else state) := by
  rcases respondFrame_cases responds with ⟨rfl, still⟩ | ⟨rfl, acts⟩
  · rw [still]
    exact .quiet rfl rfl rfl rfl
  · rw [acts]
    cases held : channel.held with
    | true =>
        have settled : CallEffect queue limit state channel _ _ := .settles held permitted
        cases method <;> simpa [Lineage.act, held] using settled
    | false =>
        have unmoved : state.act body channel (.basicAck method) = state := by
          cases method <;> simp [Lineage.act, held]
        have same : (channel.ask method).release method = channel.ask method := by
          simp [DeliveryChannel.release, DeliveryChannel.ask, held]
        rw [if_pos rfl, unmoved, same]
        exact .quiet rfl rfl rfl rfl

/-- An exception requeues nothing that is held. -/
theorem callEffect_requeue {reply : Except Exn Unit}
    (tolerated : (!(channel.held && choice.acts)) = true)
    (responds : DeliveryChannel.respondFrame channel.fail channel.fail.requeue choice =
      some (reply, after)) :
    CallEffect queue limit state channel after
      (if choice.acts then
        if channel.held then { state with waiting := state.waiting ++ [body] } else state
      else state) := by
  rcases respondFrame_cases responds with ⟨rfl, still⟩ | ⟨rfl, acts⟩
  · rw [still]
    exact .quiet rfl rfl rfl rfl
  · have free : channel.held = false := by simpa [acts] using tolerated
    rw [acts, free]
    exact .quiet free.symm rfl rfl rfl

theorem callEffect (state : Lineage) (body : MessageBody) {request : QueueCall}
    {reply : Except Exn request.Ret}
    (permitted : queue.permits limit channel request)
    (tolerated : channel.tolerates choice request = true)
    (responds : channel.respond choice request = some (reply, after)) :
    CallEffect queue limit state channel after
      (if choice.acts then state.act body channel request else state) := by
  cases request with
  | basicPublish route message => exact callEffect_publish permitted tolerated responds
  | basicAck method => exact callEffect_ack permitted responds
  | basicNack => exact callEffect_requeue tolerated responds
  | closeConnection => exact callEffect_requeue tolerated responds
  | confirmsEnabled =>
      cases choice <;> cases responds
      exact .quiet rfl rfl rfl rfl
  | confirmDelivery =>
      cases choice <;> cases responds
      · exact .quiet rfl rfl rfl rfl
      · exact .quiet rfl rfl rfl rfl
  | openConnection => cases responds
  | openChannel => cases responds
  | basicGet => cases responds

end Calls

/-! ## Accounts -/

namespace Flight

variable (queue : ConsumedQueue) (flight : Flight)

/-- What a delivery may still spend; a copy has taken its part along. -/
def left : Nat :=
  queue.allowance flight.body -
    match flight.channel.copied with
    | none => 0
    | some message => queue.allowance (.ok message)

/-- The delivery stands for its body. -/
def Bears : Prop :=
  flight.channel.held = true ∧ flight.channel.copied = none

/-- A delivery of a body that counts keeps to what the body allows.  Its copy allows
less, unless the delivery was put off as busy. -/
structure Accounted : Prop where
  counts : queue.counts flight.body = true
  conforms : (queue.spending (queue.allowance flight.body)).Conforms flight.rest
    (fun _ _ => True) flight.channel
  copies : ∀ message, flight.channel.copied = some message →
    queue.allowance (.ok message) ≤ queue.allowance flight.body ∧
      (flight.channel.held = true ∨
        flight.channel.settledBy = some .retryContention ∨
        queue.allowance (.ok message) < queue.allowance flight.body)

variable {queue flight}

theorem left_of_fresh (fresh : flight.channel.copied = none) :
    flight.left queue = queue.allowance flight.body := by
  simp [left, fresh]

theorem left_congr {other : Flight} (body : other.body = flight.body)
    (copied : other.channel.copied = flight.channel.copied) :
    other.left queue = flight.left queue := by
  rw [left, left, body, copied]

/-- A failed delivery has something left to spend on its failure. -/
theorem Accounted.fails_le (accounted : flight.Accounted queue)
    (closed : flight.closed = true) (steady : flight.steady = true) :
    flight.fails.toNat ≤ flight.left queue := by
  have positive := queue.allowance_pos flight.body
  have small : flight.fails.toNat ≤ 1 := Bool.toNat_le _
  have free : flight.channel.held = false := by
    unfold Flight.closed at closed
    split at closed
    · simpa using closed
    · cases closed
  cases copied : flight.channel.copied with
  | none =>
      rw [left_of_fresh copied]
      omega
  | some message =>
      obtain ⟨within, held | contended | less⟩ := accounted.copies message copied
      · rw [free] at held
        cases held
      · have succeeds : flight.fails = false := by
          simpa [Flight.steady, contended] using steady
        simp [succeeds]
      · simp only [left, copied]
        omega

/-- A call keeps the account of its delivery. -/
theorem Accounted.call {body : MessageBody} {request : QueueCall}
    {next : Except Exn request.Ret → QueueProg Unit} {channel after : DeliveryChannel}
    {choice : QueueChoice} {reply : Except Exn request.Ret}
    (accounted : Accounted queue ⟨body, .call request next, channel⟩)
    (tolerated : channel.tolerates choice request = true)
    (responds : channel.respond choice request = some (reply, after)) :
    Accounted queue ⟨body, next reply, after⟩ := by
  refine ⟨accounted.counts, ?_, ?_⟩
  · exact accounted.conforms.2 reply after ⟨choice, tolerated, responds⟩
  · intro message copied
    have before := accounted.copies message
    obtain ⟨reached, effect⟩ : ∃ reached,
        CallEffect queue (queue.allowance body) { waiting := [] } channel after reached :=
      ⟨_, callEffect _ body accounted.conforms.1 tolerated responds⟩
    cases effect with
    | quiet held settled same buried =>
        rw [same] at copied
        rw [held, settled]
        exact before copied
    | copies permitted =>
        obtain ⟨_, _, _, within, less⟩ := permitted
        cases copied
        exact ⟨within, less.imp_right .inr⟩
    | buries => exact before copied
    | @settles method held permitted =>
        rw [DeliveryChannel.copied_release] at copied
        have known : channel.copied = some message := copied
        refine ⟨(before known).1, .inr ?_⟩
        cases method with
        | ack =>
            rw [permitted held] at known
            cases known
        | deadLetter =>
            rw [(permitted held).1] at known
            cases known
        | retry =>
            obtain ⟨copy, stored, less⟩ := permitted held
            rw [known] at stored
            cases stored
            exact .inr less
        | retryContention =>
            left
            simp [DeliveryChannel.release, DeliveryChannel.ask, held]

end Flight

section Places

variable {α : Type} {entries : List α} {entry : α} {place : Nat}

theorem perm_cons_eraseIdx (found : entries[place]? = some entry) :
    (entry :: entries.eraseIdx place).Perm entries := by
  obtain ⟨inside, rfl⟩ := List.getElem?_eq_some_iff.mp found
  exact List.getElem_cons_eraseIdx_perm inside

theorem sum_eq_add_eraseIdx (measure : α → Nat) (found : entries[place]? = some entry) :
    (entries.map measure).sum =
      measure entry + ((entries.eraseIdx place).map measure).sum := by
  have same := ((perm_cons_eraseIdx found).map measure).sum_eq
  rw [List.map_cons, List.sum_cons] at same
  exact same.symm

theorem mem_iff_mem_eraseIdx {other : α} (found : entries[place]? = some entry) :
    other ∈ entries ↔ other = entry ∨ other ∈ entries.eraseIdx place := by
  rw [← (perm_cons_eraseIdx found).mem_iff, List.mem_cons]

end Places

/-- Every waiting body counts, every delivery keeps its account, and what all of them
have left, with the failures so far, is within the bound.  Some body waits, or some
delivery stands for one, until the job is settled. -/
structure Lineage.Accounted (queue : ConsumedQueue) (state : Lineage) : Prop where
  waiting : ∀ body ∈ state.waiting, queue.counts body = true
  flights : ∀ flight ∈ state.flights, flight.Accounted queue
  balance :
    state.failures + (state.waiting.map queue.allowance).sum +
        (state.flights.map (Flight.left queue)).sum ≤
      queue.family.maxAttempts.toNat + state.interruptions
  buried : ∀ flight ∈ state.flights, flight.channel.buried = true → state.dead ≠ []
  alive : state.waiting ≠ [] ∨ (∃ flight ∈ state.flights, flight.Bears) ∨
    state.dead ≠ [] ∨ 0 < state.acknowledged

namespace Lineage.Accounted

variable {queue : ConsumedQueue} {state : Lineage} {place : Nat}

theorem initial {body : MessageBody} (counts : queue.counts body = true) :
    Lineage.Accounted queue { waiting := [body] } := by
  refine ⟨by simpa using counts, by simp, ?_, by simp, .inl (by simp)⟩
  obtain ⟨job, _, counted, same⟩ := ConsumedQueue.counts_iff.mp counts
  have least := queue.family.maxAttempts_pos
  simp only [List.map_cons, List.map_nil, List.sum_cons, List.sum_nil, same,
    JobFamily.allowance]
  omega

theorem bounded (accounted : state.Accounted queue) : state.Bounded queue := by
  have balance := accounted.balance
  have least := queue.family.maxAttempts_pos
  refine ⟨by omega, ?_⟩
  intro ended
  rcases accounted.alive with waits | ⟨flight, member, bears⟩ | settled
  · exfalso
    rcases ended with spent | ⟨nothing, _⟩
    · obtain ⟨body, rest, same⟩ := List.exists_cons_of_ne_nil waits
      have positive := queue.allowance_pos body
      rw [same, List.map_cons, List.sum_cons] at balance
      omega
    · exact waits nothing
  · exfalso
    rcases ended with spent | ⟨_, nothing⟩
    · have positive := queue.allowance_pos flight.body
      rw [← Flight.left_of_fresh bears.2] at positive
      obtain ⟨place, found⟩ := List.mem_iff_getElem?.mp member
      have part := sum_eq_add_eraseIdx (Flight.left queue) found
      omega
    · rw [nothing] at member
      cases member
  · exact settled

/-- A delivery takes over what its body allows. -/
theorem deliver (accounted : state.Accounted queue) (disciplined : queue.Disciplined)
    {body : MessageBody} (found : state.waiting[place]? = some body)
    (consumer : Consumer) (course : queue.Course) (closing : Option Exn) :
    Lineage.Accounted queue { state with
      waiting := state.waiting.eraseIdx place
      flights := ⟨body, queue.deliver (queue.handler course closing) body consumer, {}⟩ ::
        state.flights } := by
  have counts := accounted.waiting body (List.mem_of_getElem? found)
  have taken := sum_eq_add_eraseIdx queue.allowance found
  have balance := accounted.balance
  constructor
  · intro other member
    exact accounted.waiting other ((mem_iff_mem_eraseIdx found).mpr (.inr member))
  · intro flight member
    rcases List.mem_cons.mp member with rfl | earlier
    · exact ⟨counts, spends_deliver disciplined course closing consumer counts, nofun⟩
    · exact accounted.flights flight earlier
  · simp only [List.map_cons, List.sum_cons]
    rw [Flight.left_of_fresh rfl]
    simp only
    omega
  · intro flight member buried
    rcases List.mem_cons.mp member with rfl | earlier
    · cases buried
    · exact accounted.buried flight earlier buried
  · exact .inr (.inl ⟨_, List.mem_cons_self, rfl, rfl⟩)

/-- What replaces a delivery has stored no dead letter that was not there. -/
theorem buried_replace (accounted : state.Accounted queue) {flight after : Flight}
    (found : state.flights[place]? = some flight)
    (same : after.channel.buried = flight.channel.buried) :
    ∀ other ∈ after :: state.flights.eraseIdx place,
      other.channel.buried = true → state.dead ≠ [] := by
  intro other member stored
  rcases List.mem_cons.mp member with rfl | rest
  · exact accounted.buried flight (List.mem_of_getElem? found) (same ▸ stored)
  · exact accounted.buried other ((mem_iff_mem_eraseIdx found).mpr (.inr rest)) stored

/-- A call of a delivery moves what is left, and counts what it settles. -/
theorem call (accounted : state.Accounted queue) {body : MessageBody}
    {request : QueueCall} {next : Except Exn request.Ret → QueueProg Unit}
    {channel after : DeliveryChannel} {choice : QueueChoice}
    {reply : Except Exn request.Ret}
    (found : state.flights[place]? = some ⟨body, .call request next, channel⟩)
    (tolerated : channel.tolerates choice request = true)
    (responds : channel.respond choice request = some (reply, after)) :
    Lineage.Accounted queue
      { (if choice.acts then state.act body channel request else state) with
        flights := ⟨body, next reply, after⟩ :: state.flights.eraseIdx place } := by
  have keeps := accounted.flights _ (List.mem_of_getElem? found)
  have kept := keeps.call tolerated responds
  have effect : CallEffect queue (queue.allowance body) state channel after _ :=
    callEffect state body keeps.conforms.1 tolerated responds
  have parts := sum_eq_add_eraseIdx (Flight.left queue) found
  have balance := accounted.balance
  have places (flight : Flight) :
      flight ∈ state.flights ↔ _ := mem_iff_mem_eraseIdx found
  have inside (other : Flight) (rest : other ∈ state.flights.eraseIdx place) :
      other ∈ state.flights := (places other).mpr (.inr rest)
  have flights (other : Flight)
      (member : other ∈ ⟨body, next reply, after⟩ :: state.flights.eraseIdx place) :
      other.Accounted queue := by
    rcases List.mem_cons.mp member with rfl | rest
    · exact kept
    · exact accounted.flights other (inside other rest)
  generalize (if choice.acts then state.act body channel request else state) = reached
    at effect
  cases effect with
  | quiet held settled copied buried =>
      have same : Flight.left queue ⟨body, next reply, after⟩ =
          Flight.left queue ⟨body, .call request next, channel⟩ :=
        Flight.left_congr rfl copied
      refine ⟨accounted.waiting, flights, ?_, accounted.buried_replace found buried, ?_⟩
      · simp only [List.map_cons, List.sum_cons]
        omega
      · rcases accounted.alive with waits | ⟨other, among, bears⟩ | done
        · exact .inl waits
        · rcases (places other).mp among with rfl | rest
          · exact .inr (.inl ⟨_, List.mem_cons_self, held.trans bears.1,
              copied.trans bears.2⟩)
          · exact .inr (.inl ⟨other, List.mem_cons_of_mem _ rest, bears⟩)
        · exact .inr (.inr done)
  | @copies message permitted =>
      obtain ⟨_, fresh, counts, within, _⟩ := permitted
      have whole : Flight.left queue ⟨body, .call request next, channel⟩ =
          queue.allowance body := Flight.left_of_fresh fresh
      have part : Flight.left queue
            ⟨body, next reply, channel.publish .retry message⟩ =
          queue.allowance body - queue.allowance (.ok message) := rfl
      refine ⟨?_, flights, ?_, accounted.buried_replace found rfl,
        .inl (by simp [Lineage.store])⟩
      · intro other waits
        rcases List.mem_append.mp waits with earlier | last
        · exact accounted.waiting other earlier
        · rw [List.mem_singleton.mp last]
          exact counts
      · simp only [Lineage.store, List.map_append, List.sum_append, List.map_cons,
          List.map_nil, List.sum_cons, List.sum_nil]
        omega
  | @buries message =>
      have same : Flight.left queue ⟨body, next reply, channel.publish .dead message⟩ =
          Flight.left queue ⟨body, .call request next, channel⟩ :=
        Flight.left_congr rfl rfl
      have dead : state.dead ++ [.ok message] ≠ [] := by simp
      refine ⟨accounted.waiting, flights, ?_, fun _ _ _ => dead, .inr (.inr (.inl dead))⟩
      simp only [Lineage.store, List.map_cons, List.sum_cons]
      omega
  | @settles method held permitted =>
      have same : Flight.left queue
            ⟨body, next reply, (channel.ask method).release method⟩ =
          Flight.left queue ⟨body, .call request next, channel⟩ :=
        Flight.left_congr rfl (DeliveryChannel.copied_release _ method)
      have buried : ((channel.ask method).release method).buried = channel.buried :=
        DeliveryChannel.buried_release _ method
      have stored : ∀ other ∈ (⟨body, next reply, (channel.ask method).release method⟩ :
            Flight) :: state.flights.eraseIdx place,
          other.channel.buried = true → state.dead ≠ [] :=
        accounted.buried_replace found buried
      have spent : state.failures + (state.waiting.map queue.allowance).sum +
          ((⟨body, next reply, (channel.ask method).release method⟩ ::
            state.flights.eraseIdx place).map (Flight.left queue)).sum ≤
          queue.family.maxAttempts.toNat + state.interruptions := by
        simp only [List.map_cons, List.sum_cons]
        omega
      split
      · exact ⟨accounted.waiting, flights, spent, stored,
          .inr (.inr (.inr (Nat.succ_pos _)))⟩
      · rename_i unsettled
        refine ⟨accounted.waiting, flights, spent, stored, ?_⟩
        rcases accounted.alive with waits | ⟨other, among, bears⟩ | done
        · exact .inl waits
        · rcases (places other).mp among with rfl | rest
          · -- The delivery stood for its body, so it can only have buried it.
            have fresh : channel.copied = none := bears.2
            right
            right
            left
            cases method with
            | ack => exact absurd rfl unsettled
            | deadLetter =>
                exact accounted.buried _ (List.mem_of_getElem? found) (permitted held).2
            | retry =>
                obtain ⟨copy, known, _⟩ := permitted held
                rw [fresh] at known
                cases known
            | retryContention =>
                have known : channel.copied.isSome = true := permitted held
                rw [fresh] at known
                cases known
          · exact .inr (.inl ⟨other, List.mem_cons_of_mem _ rest, bears⟩)
        · exact .inr (.inr done)

/-- A delivery that is over has spent what it failed by. -/
theorem finish (accounted : state.Accounted queue) {flight : Flight}
    (found : state.flights[place]? = some flight) (closed : flight.closed = true)
    (steady : flight.steady = true) :
    Lineage.Accounted queue { state with
      flights := state.flights.eraseIdx place
      failures := state.failures + flight.fails.toNat } := by
  have member := List.mem_of_getElem? found
  have spent := (accounted.flights flight member).fails_le closed steady
  have parts := sum_eq_add_eraseIdx (Flight.left queue) found
  have balance := accounted.balance
  have inside (other : Flight) (rest : other ∈ state.flights.eraseIdx place) :
      other ∈ state.flights := (mem_iff_mem_eraseIdx found).mpr (.inr rest)
  constructor
  · exact accounted.waiting
  · intro other rest
    exact accounted.flights other (inside other rest)
  · simp only
    omega
  · intro other rest
    exact accounted.buried other (inside other rest)
  · rcases accounted.alive with waits | ⟨other, among, bears⟩ | settled
    · exact .inl waits
    · rcases (mem_iff_mem_eraseIdx found).mp among with rfl | rest
      · exfalso
        unfold Flight.closed at closed
        split at closed
        · simp [bears.1] at closed
        · cases closed
      · exact .inr (.inl ⟨other, rest, bears⟩)
    · exact .inr (.inr settled)

/-- An interrupted delivery gives its body back. -/
theorem interrupt (accounted : state.Accounted queue) {flight : Flight}
    (found : state.flights[place]? = some flight) (alone : flight.alone = true) :
    Lineage.Accounted queue { state with
      waiting :=
        if flight.channel.held then state.waiting ++ [flight.body] else state.waiting
      flights := state.flights.eraseIdx place
      failures := state.failures + flight.fails.toNat
      interruptions := state.interruptions + 1 } := by
  have member := List.mem_of_getElem? found
  have keeps := accounted.flights flight member
  have small : flight.fails.toNat ≤ 1 := Bool.toNat_le _
  have parts := sum_eq_add_eraseIdx (Flight.left queue) found
  have balance := accounted.balance
  have inside (other : Flight) (rest : other ∈ state.flights.eraseIdx place) :
      other ∈ state.flights := (mem_iff_mem_eraseIdx found).mpr (.inr rest)
  have flights (other : Flight) (rest : other ∈ state.flights.eraseIdx place) :=
    accounted.flights other (inside other rest)
  have buried (other : Flight) (rest : other ∈ state.flights.eraseIdx place) :=
    accounted.buried other (inside other rest)
  cases held : flight.channel.held with
  | true =>
      have fresh : flight.channel.copied = none := by
        simpa [Flight.alone, held] using alone
      have whole : flight.left queue = queue.allowance flight.body :=
        Flight.left_of_fresh fresh
      refine ⟨?_, flights, ?_, buried, .inl (by simp)⟩
      · intro body waits
        rcases List.mem_append.mp waits with earlier | last
        · exact accounted.waiting body earlier
        · rw [List.mem_singleton.mp last]
          exact keeps.counts
      · simp only [if_true, List.map_append, List.sum_append, List.map_cons, List.map_nil,
          List.sum_cons, List.sum_nil]
        omega
  | false =>
      refine ⟨accounted.waiting, flights, ?_, buried, ?_⟩
      · simp only [Bool.false_eq_true, if_false]
        omega
      · rcases accounted.alive with waits | ⟨other, among, bears⟩ | settled
        · exact .inl waits
        · rcases (mem_iff_mem_eraseIdx found).mp among with rfl | rest
          · rw [bears.1] at held
            cases held
          · exact .inr (.inl ⟨other, rest, bears⟩)
        · exact .inr (.inr settled)

theorem next (accounted : state.Accounted queue) (disciplined : queue.Disciplined)
    {event : LineageEvent queue} {reached : Lineage}
    (tolerated : state.tolerates event = true)
    (next : Lineage.next? queue state event = some reached) :
    reached.Accounted queue := by
  cases event with
  | deliver place consumer course closing =>
      obtain ⟨body, found, rfl⟩ := Option.map_eq_some_iff.mp next
      exact accounted.deliver disciplined found consumer course closing
  | call place choice =>
      simp only [Lineage.next?] at next
      split at next
      · rename_i body request rest channel found
        obtain ⟨⟨reply, after⟩, responds, rfl⟩ := Option.map_eq_some_iff.mp next
        simp only [Lineage.tolerates, found, Option.all_some] at tolerated
        exact accounted.call found tolerated responds
      · cases next
  | finish place =>
      simp only [Lineage.next?] at next
      split at next
      · rename_i flight found
        split at next
        · rename_i closed
          cases next
          simp only [Lineage.tolerates, found, Option.all_some] at tolerated
          exact accounted.finish found closed tolerated
        · cases next
      · cases next
  | interrupt place =>
      simp only [Lineage.next?] at next
      split at next
      · rename_i flight found
        split at next
        · cases next
        · cases next
          simp only [Lineage.tolerates, found, Option.all_some] at tolerated
          exact accounted.interrupt found tolerated
      · cases next

end Lineage.Accounted

/-- A run whose steps are all tolerated keeps the accounts of its body. -/
theorem accounted_of_run {queue : ConsumedQueue} (disciplined : queue.Disciplined)
    {body : MessageBody} (counts : queue.counts body = true)
    {steps : List (LineageStep queue)} {final : Lineage}
    (run : LineageRun queue body steps final)
    (tolerated : ∀ step ∈ steps, LineageStep.Tolerated step) :
    final.Accounted queue := by
  apply (run.invariant (Lineage.Accounted queue) (.initial counts) ?_).1
  intro step member allowed accounted
  obtain ⟨reached, next⟩ := Option.isSome_iff_exists.mp allowed
  rw [EventStep.after, next]
  exact accounted.next disciplined (tolerated step member) next

/-! ## Bodies that are rejected -/

section Rejected

variable (queue : ConsumedQueue) {body : MessageBody} {error : Exn}

/-- A rejected body goes straight to the exception branch of `_callback`. -/
theorem ConsumedQueue.deliver_rejected (handler : DeliveryHandler queue.family)
    (rejected : queue.readBody body = .error error) :
    queue.deliver handler body .callback =
      (callQueue .basicNack).tryExcept fun _ => pure () := by
  have raised : queue.acceptBody body = .raise error := by
    cases body with
    | error other =>
        cases rejected
        rfl
    | ok message =>
        change queue.family.fromMessage message = .error error at rejected
        change openDelivery false message = _
        rw [openDelivery, rejected]
  simp only [deliver, raised]
  rfl

/-- One more failed delivery leaves a rejected body where it was. -/
theorem rejected_again (course : queue.Course)
    (rejected : queue.readBody body = .error error) {steps : List (LineageStep queue)}
    {failures : Nat}
    (run : LineageRun queue body steps { waiting := [body], failures := failures }) :
    ∃ steps', LineageRun queue body steps'
      { waiting := [body], failures := failures + 1 } := by
  have handed : Lineage.next? queue { waiting := [body], failures := failures }
        (.deliver 0 .callback course none) =
      some { waiting := []
             flights := [⟨body, (callQueue .basicNack).tryExcept fun _ => pure (), {}⟩]
             failures := failures } := by
    rw [← queue.deliver_rejected (queue.handler course none) rejected]
    rfl
  have executed : ∃ steps', EventStep.execute (Lineage.next? queue) steps
        { waiting := [body], failures := failures }
        [.deliver 0 .callback course none, .call 0 .done, .finish 0] =
      some (steps', { waiting := [body], failures := failures + 1 }) := by
    simp only [EventStep.execute, handed]
    exact ⟨_, rfl⟩
  obtain ⟨steps', executed⟩ := executed
  exact ⟨steps', EventStep.run_of_execute run executed⟩

/-- A rejected body fails any number of times, and nothing is ever said of it. -/
theorem rejected_forever (course : queue.Course)
    (rejected : queue.readBody body = .error error) (failures : Nat) :
    ∃ steps, LineageRun queue body steps { waiting := [body], failures := failures } := by
  induction failures with
  | zero => exact ⟨[], .nil⟩
  | succ failures induction =>
      obtain ⟨steps, run⟩ := induction
      exact rejected_again queue course rejected run

end Rejected

/-! ## Reviews and index jobs -/

section Claims

variable (strOf : Json → String) (intOfText : String → Option Int)

/-- Processing is bounded on both queues. -/
theorem bounded_processing (topology : QueueTopology)
    (topology' : KnowledgeQueueTopology) :
    (∀ (body : MessageBody) (steps : List (LineageStep (reviewQueue strOf intOfText topology)))
        (final : Lineage),
      (reviewQueue strOf intOfText topology).counts body = true →
        LineageRun (reviewQueue strOf intOfText topology) body steps final →
        (∀ step ∈ steps, LineageStep.Tolerated step) →
          final.Bounded (reviewQueue strOf intOfText topology)) ∧
    ∀ (body : MessageBody)
        (steps : List (LineageStep (knowledgeQueue strOf intOfText topology')))
        (final : Lineage),
      (knowledgeQueue strOf intOfText topology').counts body = true →
        LineageRun (knowledgeQueue strOf intOfText topology') body steps final →
        (∀ step ∈ steps, LineageStep.Tolerated step) →
          final.Bounded (knowledgeQueue strOf intOfText topology') := by
  constructor
  · intro body steps final counts run tolerated
    have disciplined := reviewQueue_disciplined strOf intOfText topology
    exact (accounted_of_run disciplined counts run tolerated).bounded
  · intro body steps final counts run tolerated
    have disciplined := knowledgeQueue_disciplined strOf intOfText topology'
    exact (accounted_of_run disciplined counts run tolerated).bounded

end Claims

/-! ## A review that fails -/

def sampleReviewQueue : ConsumedQueue :=
  reviewQueue (fun _ => "") (fun _ => none) {}

/-- The callback takes the waiting body, and the worker fails. -/
def failedDelivery : List (LineageEvent sampleReviewQueue) :=
  [.deliver 0 .callback (.failed .noted) none, .call 0 .done, .call 0 .done,
    .call 0 .done, .finish 0]

def sampleBody : MessageBody :=
  .ok { jobId := "J1", contractId := "K1", contractVersionId := "V1",
        workspaceId := "W1", emailThreadId := "email-1",
        requestedBy := "user@mail.test" : QueuedReviewJob }.toMessage

/-- The connection is lost before the first failure is noted, then the review fails
until it is dead. -/
def exhaustedReview : Option (List (LineageStep sampleReviewQueue) × Lineage) :=
  EventStep.execute (Lineage.next? sampleReviewQueue) [] { waiting := [sampleBody] }
    ([.deliver 0 .callback (.failed .noted) none, .interrupt 0] ++
      failedDelivery ++ failedDelivery ++ failedDelivery)

theorem exhaustedReview_isSome : exhaustedReview.isSome := by
  decide

def exhaustedReviewSteps : List (LineageStep sampleReviewQueue) :=
  (exhaustedReview.get exhaustedReview_isSome).1

def exhaustedReviewFinal : Lineage :=
  (exhaustedReview.get exhaustedReview_isSome).2

theorem exhaustedReview_run :
    LineageRun sampleReviewQueue sampleBody exhaustedReviewSteps exhaustedReviewFinal :=
  EventStep.run_of_execute .nil (Option.some_get exhaustedReview_isSome).symm

theorem exhaustedReview_tolerated :
    ∀ step ∈ exhaustedReviewSteps, LineageStep.Tolerated step := by
  have every : (exhaustedReviewSteps.all fun step =>
      step.before.tolerates step.event) = true := by
    decide
  exact List.all_eq_true.mp every

theorem bounded_processing_sample :
    exhaustedReviewFinal.failures = 3 ∧ exhaustedReviewFinal.dead.length = 1 ∧
      exhaustedReviewFinal.Bounded sampleReviewQueue :=
  ⟨by decide, by decide,
    (bounded_processing (fun _ => "") (fun _ => none) {} {}).1 sampleBody
      exhaustedReviewSteps exhaustedReviewFinal (by decide)
      exhaustedReview_run exhaustedReview_tolerated⟩

/-- What `json.loads` raises for a body that is no JSON. -/
def noJson : Exn :=
  .valueError "Expecting value: line 1 column 1 (char 0)"

/-- A body that is no JSON is requeued without end. -/
theorem undecodable_body_unbounded :
    ¬ ∀ (strOf : Json → String) (intOfText : String → Option Int)
        (topology : QueueTopology) (body : MessageBody)
        (steps : List (LineageStep (reviewQueue strOf intOfText topology)))
        (final : Lineage),
      LineageRun (reviewQueue strOf intOfText topology) body steps final →
        final.Bounded (reviewQueue strOf intOfText topology) := by
  intro bounded
  have rejected : sampleReviewQueue.readBody (.error noJson) = .error noJson := rfl
  obtain ⟨steps, run⟩ := rejected_forever sampleReviewQueue .reviewed rejected 4
  have within := (bounded (fun _ => "") (fun _ => none) {} _ steps _ run).failures_le
  have attempts : sampleReviewQueue.family.maxAttempts = 3 := rfl
  change (4 : Int) ≤ sampleReviewQueue.family.maxAttempts + 0 at within
  omega

/-- A connection that is lost between the copy and the acknowledgement of its original
leaves both on the queues. -/
example :
    ((EventStep.execute (Lineage.next? sampleReviewQueue) [] { waiting := [sampleBody] }
      ([.deliver 0 .callback (.failed .noted) none, .call 0 .done, .call 0 .done,
          .interrupt 0] ++
        failedDelivery ++ failedDelivery ++ failedDelivery ++ failedDelivery ++
          failedDelivery)).map fun run => (run.2.failures, run.2.interruptions)) =
      some (5, 1) := by
  decide

end ContractMate
