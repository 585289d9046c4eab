import ObservationFeed.Server.Sweep

/-!
# What a server asks of its surroundings

A host can be made to put down every question that it is asked, with the
answer that it gave.  A program that asks a host questions does the same with a
host that puts them down; `Notes` says so, and says what the program puts down.

A record in which the same question always has the same answer is the record of
a world that stood still.
-/

namespace ObservationFeed.Server

/-- A question put to the surroundings, and its answer. -/
inductive Exchange where
  | tick (answer : Tick)
  | client (client : ClientId) (answer : Option ClientView)
  | loaded (location : Location) (answer : Bool)
  | container (location : Location) (answer : Bool)
  | observed (location : Location) (force : Bool) (answer : Except ObserveError Snapshot)
  | sent (clients : List ClientId) (response : Response) (answer : Except TransportError Unit)

namespace Exchange

/-- The location that is observed or whose observation is sent, absent for a look-up. -/
def served? : Exchange → Option Location
  | observed location _ _ => some location
  | sent _ response _ => some response.location
  | _ => none

end Exchange

/-- The observations of a location and the messages about it, in order. -/
def callsAt (location : Location) (record : List Exchange) : List Exchange :=
  record.filter fun x => x.served? = some location

/-- Puts down a question and its answer. -/
def noting {σ α : Type} (note : α → Exchange) (ask : StateM σ α) : StateM (σ × List Exchange) α :=
  fun (state, record) =>
    let (answer, state) := ask state
    (answer, state, record ++ [note answer])

/-- A host that puts down what it is asked. -/
def Host.noted {σ : Type} (host : Host σ) : Host (σ × List Exchange) where
  currentTick := noting .tick host.currentTick
  client c := noting (.client c) (host.client c)
  isLoaded l := noting (.loaded l) (host.isLoaded l)
  hasContainer l := noting (.container l) (host.hasContainer l)
  observe l force := noting (.observed l force) (host.observe l force)
  send clients response := noting (.sent clients response) (host.send clients response)

/-- Whether the host gives this answer to this question in some state. -/
def Exchange.GivenBy {σ : Type} (host : Host σ) : Exchange → Prop
  | .tick answer => ∃ state, (host.currentTick state).1 = answer
  | .client c answer => ∃ state, (host.client c state).1 = answer
  | .loaded l answer => ∃ state, (host.isLoaded l state).1 = answer
  | .container l answer => ∃ state, (host.hasContainer l state).1 = answer
  | .observed l force answer => ∃ state, (host.observe l force state).1 = answer
  | .sent clients response answer => ∃ state, (host.send clients response state).1 = answer

/-! ## Programs that put down what they ask -/

variable {σ α β : Type} {host : Host σ}

/-- The second program does what the first does, and puts down answers of the host that stand in a
relation to the program's own answer. -/
def Notes (host : Host σ) (program : StateM σ α) (noted : StateM (σ × List Exchange) α)
    (relation : α → List Exchange → Prop) : Prop :=
  ∀ state record, ∃ fresh,
    noted (state, record) = ((program state).1, (program state).2, record ++ fresh) ∧
      (∀ x ∈ fresh, x.GivenBy host) ∧ relation (program state).1 fresh

theorem notes_noting (note : α → Exchange) (ask : StateM σ α)
    (given : ∀ state, (note (ask state).1).GivenBy host) :
    Notes host ask (noting note ask) fun answer fresh => fresh = [note answer] :=
  fun state _ => ⟨_, rfl, by simpa using given state, rfl⟩

theorem notes_currentTick :
    Notes host host.currentTick host.noted.currentTick fun a fresh => fresh = [.tick a] :=
  notes_noting _ _ fun state => ⟨state, rfl⟩

theorem notes_client (c : ClientId) :
    Notes host (host.client c) (host.noted.client c) fun a fresh => fresh = [.client c a] :=
  notes_noting _ _ fun state => ⟨state, rfl⟩

theorem notes_isLoaded (l : Location) :
    Notes host (host.isLoaded l) (host.noted.isLoaded l) fun a fresh => fresh = [.loaded l a] :=
  notes_noting _ _ fun state => ⟨state, rfl⟩

theorem notes_hasContainer (l : Location) :
    Notes host (host.hasContainer l) (host.noted.hasContainer l) fun a fresh =>
      fresh = [.container l a] :=
  notes_noting _ _ fun state => ⟨state, rfl⟩

theorem notes_observe (l : Location) (force : Bool) :
    Notes host (host.observe l force) (host.noted.observe l force) fun a fresh =>
      fresh = [.observed l force a] :=
  notes_noting _ _ fun state => ⟨state, rfl⟩

theorem notes_send (clients : List ClientId) (response : Response) :
    Notes host (host.send clients response) (host.noted.send clients response) fun a fresh =>
      fresh = [.sent clients response a] :=
  notes_noting _ _ fun state => ⟨state, rfl⟩

theorem notes_pure (a : α) :
    Notes host (pure a) (pure a) fun answer fresh => answer = a ∧ fresh = [] := by
  intro state record
  refine ⟨[], ?_, by simp, rfl, rfl⟩
  rw [List.append_nil]
  rfl

theorem Notes.imp {program : StateM σ α} {noted : StateM (σ × List Exchange) α}
    {relation weaker : α → List Exchange → Prop} (notes : Notes host program noted relation)
    (implies : ∀ answer fresh, relation answer fresh → weaker answer fresh) :
    Notes host program noted weaker := by
  intro state record
  obtain ⟨fresh, run, given, related⟩ := notes state record
  exact ⟨fresh, run, given, implies _ _ related⟩

/-- What is put down is the same whatever is to be said of it. -/
theorem Notes.and {program : StateM σ α} {noted : StateM (σ × List Exchange) α}
    {relation other : α → List Exchange → Prop} (notes : Notes host program noted relation)
    (too : Notes host program noted other) :
    Notes host program noted fun answer fresh => relation answer fresh ∧ other answer fresh := by
  intro state record
  obtain ⟨fresh, run, given, related⟩ := notes state record
  obtain ⟨again, run', -, related'⟩ := too state record
  obtain rfl : fresh = again :=
    List.append_cancel_left (congrArg (fun a => a.2.2) (run.symm.trans run'))
  exact ⟨fresh, run, given, related, related'⟩

/-- One program after another puts down what the first does and then what the second does. -/
theorem Notes.bind {first : StateM σ α} {firstNoted : StateM (σ × List Exchange) α}
    {next : α → StateM σ β} {nextNoted : α → StateM (σ × List Exchange) β}
    {one : α → List Exchange → Prop} {two : β → List Exchange → Prop}
    (notes : Notes host first firstNoted one)
    (continues : ∀ a, Notes host (next a) (nextNoted a) fun b fresh =>
      ∀ before, one a before → two b (before ++ fresh)) :
    Notes host (first >>= next) (firstNoted >>= nextNoted) two := by
  intro state record
  obtain ⟨before, run, given, related⟩ := notes state record
  obtain ⟨after, rest, givenToo, finished⟩ :=
    continues (first state).1 (first state).2 (record ++ before)
  refine ⟨before ++ after, ?_, List.forall_mem_append.mpr ⟨given, givenToo⟩,
    finished before related⟩
  -- The second program goes on with the record of the first.
  have unfolded : (firstNoted >>= nextNoted) (state, record) =
      nextNoted (firstNoted (state, record)).1 (firstNoted (state, record)).2 := rfl
  rw [unfolded, run, rest, List.append_assoc]
  rfl

/-- The last step of a program, which asks nothing more. -/
theorem Notes.map {program : StateM σ α} {noted : StateM (σ × List Exchange) α} {f : α → β}
    {one : α → List Exchange → Prop} {two : β → List Exchange → Prop}
    (notes : Notes host program noted one) (later : ∀ a fresh, one a fresh → two (f a) fresh) :
    Notes host (program >>= fun a => pure (f a)) (noted >>= fun a => pure (f a)) two := by
  refine notes.bind fun a => (notes_pure (f a)).imp ?_
  rintro _ _ ⟨rfl, rfl⟩ before holds
  rw [List.append_nil]
  exact later a before holds

/-! ## Worlds that stand still -/

/-- The answers of a world to each look-up. -/
structure Answers where
  client : ClientId → Option ClientView
  isLoaded : Location → Bool
  hasContainer : Location → Bool

/-- Whether an exchange, if it is a look-up, has the answer that is given. -/
def Exchange.Agrees (answers : Answers) : Exchange → Prop
  | .client c answer => answer = answers.client c
  | .loaded l answer => answer = answers.isLoaded l
  | .container l answer => answer = answers.hasContainer l
  | _ => True

/-- Every look-up has the answer that is given. -/
def Still (answers : Answers) (record : List Exchange) : Prop := ∀ x ∈ record, x.Agrees answers

/-- What a host puts down whose look-ups never change. -/
theorem still_of_givenBy {answers : Answers} {record : List Exchange}
    (client : ∀ c state, (host.client c state).1 = answers.client c)
    (isLoaded : ∀ l state, (host.isLoaded l state).1 = answers.isLoaded l)
    (hasContainer : ∀ l state, (host.hasContainer l state).1 = answers.hasContainer l)
    (given : ∀ x ∈ record, x.GivenBy host) : Still answers record := by
  intro x member
  have answered := given x member
  cases x with
  | client c answer => obtain ⟨state, rfl⟩ := answered; exact client c state
  | loaded l answer => obtain ⟨state, rfl⟩ := answered; exact isLoaded l state
  | container l answer => obtain ⟨state, rfl⟩ := answered; exact hasContainer l state
  | tick _ | observed _ _ _ | sent _ _ _ => trivial

theorem still_append {answers : Answers} {a b : List Exchange} :
    Still answers (a ++ b) ↔ Still answers a ∧ Still answers b :=
  List.forall_mem_append

theorem still_cons {answers : Answers} {x : Exchange} {rest : List Exchange} :
    Still answers (x :: rest) ↔ x.Agrees answers ∧ Still answers rest :=
  List.forall_mem_cons

/-! ## What a record is about -/

/-- Only some locations are observed or served. -/
def Serves (here : Location → Prop) (record : List Exchange) : Prop :=
  ∀ x ∈ record, ∀ l, x.served? = some l → here l

theorem Serves.append {here : Location → Prop} {a b : List Exchange} (first : Serves here a)
    (second : Serves here b) : Serves here (a ++ b) :=
  List.forall_mem_append.mpr ⟨first, second⟩

theorem Serves.imp {here there : Location → Prop} {record : List Exchange}
    (serves : Serves here record) (implies : ∀ l, here l → there l) : Serves there record :=
  fun x member l found => implies l (serves x member l found)

theorem callsAt_append (l : Location) (a b : List Exchange) :
    callsAt l (a ++ b) = callsAt l a ++ callsAt l b :=
  List.filter_append ..

theorem Serves.callsAt {here : Location → Prop} {record : List Exchange}
    (serves : Serves here record) {l : Location} (elsewhere : ¬ here l) : callsAt l record = [] :=
  List.filter_eq_nil_iff.mpr fun x member =>
    by simpa using fun found => elsewhere (serves x member l found)

/-- Nothing but look-ups. -/
def Quiet (record : List Exchange) : Prop := ∀ x ∈ record, x.served? = none

theorem Quiet.append {a b : List Exchange} (first : Quiet a) (second : Quiet b) : Quiet (a ++ b) :=
  List.forall_mem_append.mpr ⟨first, second⟩

theorem Quiet.serves {record : List Exchange} (quiet : Quiet record) (here : Location → Prop) :
    Serves here record := by
  intro x member l found
  rw [quiet x member] at found
  cases found

theorem Quiet.callsAt {record : List Exchange} (quiet : Quiet record) (l : Location) :
    callsAt l record = [] :=
  (quiet.serves fun _ => False).callsAt id

end ObservationFeed.Server
