import ObservationFeed.Proofs.Server.Turns

/-!
# Who is sent an observation

What a server puts down of a run shows for every message why it was sent: the
message stands behind the passed check of each client that it goes to, and each
of these had a registration that goes back to a request of its own.

Nothing is assumed of the world.  Its answers may differ from one look-up to
the next, so a check is known to have passed only by its own look-ups.
-/

namespace ObservationFeed.Server

open KeyedList

variable {σ : Type} {host : Host σ}

/-! ## Checks -/

/-- The record of a check with every check on that the client passes. -/
def Vouches (limits : Limits) (c : ClientId) (l : Location) (record : List Exchange) : Prop :=
  ∃ view, record = [.client c (some view), .loaded l true, .container l true] ∧
    view.partition = l.partition ∧ limits.withinRange view.position l.block = true

/-- The client has passed a check with every check on. -/
def Passed (limits : Limits) (c : ClientId) (l : Location) (record : List Exchange) : Prop :=
  ∃ check, check <:+: record ∧ Vouches limits c l check

theorem Passed.append {limits : Limits} {c : ClientId} {l : Location} {record : List Exchange}
    (passed : Passed limits c l record) (before after : List Exchange) :
    Passed limits c l (before ++ record ++ after) := by
  obtain ⟨check, part, vouches⟩ := passed
  exact ⟨check, part.trans (List.infix_append ..), vouches⟩

theorem notes_checkPlace_all (l : Location) :
    Notes host (Limits.checkPlace host.toWorld l .all) (Limits.checkPlace host.noted.toWorld l .all)
      fun refusal fresh => refusal.isNone = true ↔ fresh = [.loaded l true, .container l true] := by
  refine (notes_isLoaded l).bind fun loaded => ?_
  cases loaded with
  | false =>
    refine (notes_pure _).imp ?_
    rintro _ _ ⟨rfl, rfl⟩ _ rfl
    simp
  | true =>
    refine (notes_hasContainer l).map ?_
    rintro held _ rfl _ rfl
    cases held <;> simp

/-- A client passes if and only if the look-ups of the check vouch for it. -/
theorem notes_canInteract_all (limits : Limits) (c : ClientId) (l : Location) :
    Notes host (limits.canInteract host.toWorld c l .all)
      (limits.canInteract host.noted.toWorld c l .all)
      fun ok fresh => ok = true ↔ Vouches limits c l fresh := by
  have checks : Notes host (limits.check host.toWorld c l .all)
      (limits.check host.noted.toWorld c l .all)
      fun refusal fresh => refusal.isNone = true ↔ Vouches limits c l fresh := by
    refine (notes_client c).bind fun view => ?_
    cases view with
    | none =>
      refine (notes_pure _).imp ?_
      rintro _ _ ⟨rfl, rfl⟩ _ rfl
      simp [Vouches]
    | some view =>
      by_cases here : view.partition = l.partition
      · have passed : (Checks.all.partition && view.partition != l.partition) = false := by
          simp [here]
        simp only [passed, Bool.false_eq_true, if_false]
        cases far : limits.offset? view.position l.block with
        | some rejection =>
          refine (notes_pure _).imp ?_
          rintro _ _ ⟨rfl, rfl⟩ _ rfl
          simp [Vouches]
        | none =>
          refine (notes_checkPlace_all l).imp ?_
          rintro refusal fresh places _ rfl
          rw [places]
          constructor
          · rintro rfl
            exact ⟨view, rfl, here, by simp [Limits.withinRange, far]⟩
          · rintro ⟨_, same, -⟩
            cases same
            rfl
      · have refused : (Checks.all.partition && view.partition != l.partition) = true := by
          simpa [Checks.all] using here
        simp only [refused, if_true]
        refine (notes_pure _).imp ?_
        rintro _ _ ⟨rfl, rfl⟩ _ rfl
        simp [Vouches]
  exact checks.map fun _ _ vouched => vouched

/-! ## Messages -/

/-- Every message goes to clients of a kind, to none of them twice, and stands behind the passed
check of each. -/
def Justified (limits : Limits) (kind : ClientId → Location → Prop) (record : List Exchange) :
    Prop :=
  ∀ before clients response answer after,
    record = before ++ .sent clients response answer :: after →
      clients.Nodup ∧ ∀ c ∈ clients, kind c response.location ∧
        Passed limits c response.location before

/-- Every message is about this location and goes to exactly these clients. -/
def SendsTo (due : List ClientId) (l : Location) (record : List Exchange) : Prop :=
  ∀ clients response answer, .sent clients response answer ∈ record →
    clients = due ∧ response.location = l

variable {limits : Limits} {kind : ClientId → Location → Prop} {a b : List Exchange}

theorem Justified.append (first : Justified limits kind a) (second : Justified limits kind b) :
    Justified limits kind (a ++ b) := by
  intro before clients response answer after split
  have later (front : List Exchange) (here : b = front ++ .sent clients response answer :: after) :
      clients.Nodup ∧ ∀ c ∈ clients, kind c response.location ∧
        Passed limits c response.location (a ++ front) := by
    obtain ⟨nodup, each⟩ := second front clients response answer after here
    refine ⟨nodup, fun c member => ⟨(each c member).1, ?_⟩⟩
    have passed := (each c member).2.append a []
    rwa [List.append_nil] at passed
  rcases List.append_eq_append_iff.mp split with ⟨front, rfl, here⟩ | ⟨back, rfl, here⟩
  · exact later front here
  · cases back with
    | nil => simpa only [List.append_nil] using later [] here.symm
    | cons x back =>
      cases here
      exact first before clients response answer back rfl

theorem Justified.imp {other : ClientId → Location → Prop} (justified : Justified limits kind a)
    (implies : ∀ c l, kind c l → other c l) : Justified limits other a := by
  intro before clients response answer after split
  obtain ⟨nodup, each⟩ := justified before clients response answer after split
  exact ⟨nodup, fun c member => ⟨implies _ _ (each c member).1, (each c member).2⟩⟩

/-- Nothing is sent. -/
theorem justified_of_silent (silent : ∀ x ∈ a, ∀ clients response answer,
    x ≠ .sent clients response answer) : Justified limits kind a := by
  intro before clients response answer after split
  exact absurd rfl (silent _ (split ▸ List.mem_append_right _ List.mem_cons_self) _ _ _)

theorem LookUps.silent (lookUps : LookUps a) :
    ∀ x ∈ a, ∀ clients response answer, x ≠ .sent clients response answer := by
  rintro _ member clients response answer rfl
  cases lookUps _ member

/-- The checks of some clients, and then messages to these clients. -/
theorem justified_of_checks {due : List ClientId} {l : Location} (nodup : due.Nodup)
    (lookUps : LookUps a) (passed : ∀ c ∈ due, kind c l ∧ Passed limits c l a)
    (sends : SendsTo due l b) : Justified limits kind (a ++ b) := by
  intro before clients response answer after split
  rcases List.append_eq_append_iff.mp split with ⟨front, rfl, here⟩ | ⟨back, rfl, here⟩
  · obtain ⟨rfl, rfl⟩ := sends clients response answer (by rw [here]; simp)
    refine ⟨nodup, fun c member => ⟨(passed c member).1, ?_⟩⟩
    have checked := (passed c member).2.append [] front
    rwa [List.nil_append] at checked
  · cases back with
    | nil =>
      have first : .sent clients response answer :: after = b := here
      obtain ⟨rfl, rfl⟩ := sends clients response answer (first ▸ List.mem_cons_self)
      rw [List.append_nil] at passed
      exact ⟨nodup, passed⟩
    | cons x back =>
      cases here
      exact absurd rfl (lookUps.silent _ (by simp) clients response answer)

/-! ## Sweeps -/

namespace Sweep

variable (limits) (now : Tick)

theorem notes_checkClients_passed (l : Location) (clients : Clients) :
    Notes host (checkClients host limits now l clients)
      (checkClients host.noted limits now l clients) fun checked fresh => LookUps fresh ∧
        checked.due.Sublist (keys clients) ∧ ∀ c ∈ checked.due, Passed limits c l fresh := by
  induction clients with
  | nil =>
    refine (notes_pure _).imp ?_
    rintro _ _ ⟨rfl, rfl⟩
    simp [LookUps]
  | cons entry rest ih =>
    obtain ⟨c, r⟩ := entry
    -- What the check of the first client puts down stands before the checks of the others.
    refine Notes.bind ((looks_canInteract limits c l .all).and (notes_canInteract_all limits c l))
      fun ok => ?_
    cases ok with
    | false =>
      refine ih.map ?_
      rintro checked after ⟨looks, part, passed⟩ before ⟨lookUps, -⟩
      refine ⟨lookUps.append looks, part.cons _, fun other member => ?_⟩
      have checked := (passed other member).append before []
      rwa [List.append_nil] at checked
    | true =>
      simp only [if_true]
      simp only [← apply_ite (pure : Checked → StateM _ Checked)]
      refine ih.map ?_
      rintro checked after ⟨looks, part, passed⟩ before ⟨lookUps, vouches⟩
      have others : ∀ other ∈ checked.due, Passed limits other l (before ++ after) := by
        intro other member
        have checked := (passed other member).append before []
        rwa [List.append_nil] at checked
      have here : Passed limits c l (before ++ after) :=
        ⟨before, (List.prefix_append ..).isInfix, vouches.mp trivial⟩
      refine ⟨lookUps.append looks, ?_⟩
      -- Whether it expires makes no difference to whether it is due.
      rw [apply_ite Checked.due, ite_self]
      simp only
      split
      · exact ⟨part.cons_cons c, List.forall_mem_cons.mpr ⟨here, others⟩⟩
      · exact ⟨part.cons _, others⟩

variable {now} in
theorem Broadcasts.sendsTo {l : Location} {due : List ClientId} {fresh : List Exchange}
    (broadcasts : Broadcasts now l due fresh) : SendsTo due l fresh := by
  cases broadcasts <;> simp +contextual [SendsTo]

theorem looks_isInteractable (l : Location) :
    Looks host (Limits.isInteractable host.toWorld l)
      (Limits.isInteractable host.noted.toWorld l) :=
  (looks_isLoaded l).bind fun _ => looks_ite (looks_hasContainer l) (looks_pure false)

/-- What is asked for a location: look-ups, and after them at most a broadcast to clients there that
have passed their checks. -/
inductive Sweeps (l : Location) (clients : Clients) : List Exchange → Prop where
  | looks {looks : List Exchange} : LookUps looks → Sweeps l clients looks
  | broadcasts {looks asked : List Exchange} {due : List ClientId} : LookUps looks →
      due.Sublist (keys clients) → (∀ c ∈ due, Passed limits c l looks) →
      Broadcasts now l due asked → Sweeps l clients (looks ++ asked)

theorem notes_sweepLocation_sweeps (l : Location) (clients : Clients) :
    Notes host (sweepLocation host limits now l clients)
      (sweepLocation host.noted limits now l clients) fun _ fresh =>
        Sweeps limits now l clients fresh := by
  cases clients with
  | nil =>
    refine (notes_pure _).imp ?_
    rintro _ _ ⟨-, rfl⟩
    exact .looks (by simp [LookUps])
  | cons entry rest =>
    refine Notes.bind (looks_isInteractable l) fun ok => ?_
    cases ok with
    | false =>
      refine (notes_pure _).imp ?_
      rintro _ _ ⟨-, rfl⟩ before lookUps
      rw [List.append_nil]
      exact .looks lookUps
    | true =>
      refine (notes_checkClients_passed limits now l (entry :: rest)).bind fun checked => ?_
      by_cases nobody : checked.due.isEmpty = true
      · simp only [nobody, if_true]
        refine (notes_pure _).bind fun outcome => (notes_pure _).imp ?_
        rintro _ _ ⟨-, rfl⟩ _ ⟨-, rfl⟩ looks ⟨looked, -⟩ before lookUps
        rw [List.append_nil, List.append_nil]
        exact .looks (lookUps.append looked)
      · simp only [nobody]
        refine (notes_broadcast now l checked.due).map ?_
        rintro _ asked broadcasts looks ⟨looked, part, passed⟩ before lookUps
        rw [← List.append_assoc]
        refine .broadcasts (lookUps.append looked) part (fun c member => ?_) broadcasts
        have checked := (passed c member).append before []
        rwa [List.append_nil] at checked

variable {limits now} in
theorem Sweeps.justified {l : Location} {clients : Clients} {fresh : List Exchange}
    (sweeps : Sweeps limits now l clients fresh) (distinct : Distinct clients) :
    Justified limits (fun c there => there = l ∧ c ∈ keys clients) fresh := by
  cases sweeps with
  | looks lookUps => exact justified_of_silent lookUps.silent
  | broadcasts lookUps part passed broadcasts =>
    refine justified_of_checks (part.nodup distinct) lookUps ?_ broadcasts.sendsTo
    exact fun c member => ⟨⟨rfl, part.subset member⟩, passed c member⟩

variable (host) in
/-- What holds of nothing and of two records one after the other holds of a sweep if it holds of
each location. -/
theorem notes_sweepFiled {property : List Exchange → Prop} (nothing : property [])
    (append : ∀ {a b}, property a → property b → property (a ++ b))
    {filed : List (Location × Clients)}
    (each : ∀ e ∈ filed, ∀ fresh, Sweeps limits now e.1 e.2 fresh → property fresh) :
    Notes host (sweepFiled host limits now filed) (sweepFiled host.noted limits now filed)
      fun _ fresh => property fresh := by
  induction filed with
  | nil =>
    refine (notes_pure _).imp ?_
    rintro _ _ ⟨-, rfl⟩
    exact nothing
  | cons entry rest ih =>
    obtain ⟨here, others⟩ := List.forall_mem_cons.mp each
    refine (notes_sweepLocation_sweeps limits now entry.1 entry.2).bind fun swept => ?_
    refine (ih others).map ?_
    rintro _ after later before sweeps
    exact append (here before sweeps) later

variable (host) in
theorem notes_sweepFiled_justified {filed : List (Location × Clients)}
    (clients : ∀ e ∈ filed, Distinct e.2) :
    Notes host (sweepFiled host limits now filed) (sweepFiled host.noted limits now filed)
      fun _ fresh => Justified limits
        (fun c l => ∃ clients, (l, clients) ∈ filed ∧ c ∈ keys clients) fresh := by
  refine notes_sweepFiled host limits now (justified_of_silent (by simp)) .append ?_
  intro e member fresh sweeps
  refine (sweeps.justified (clients e member)).imp ?_
  rintro c there ⟨rfl, filed⟩
  exact ⟨e.2, member, filed⟩

/-- Every message of a sweep goes to clients that pass a check before it and have a registration. -/
theorem notes_run_justified {t : Table} (proper : t.Proper) :
    Notes host (run host limits now t) (run host.noted limits now t) fun _ fresh =>
      Justified limits (fun c l => (t.find? c l).isSome) fresh := by
  intro s record
  obtain ⟨fresh, ran, given, -⟩ :=
    notes_run host limits now ⟨fun _ => none, fun _ => false, fun _ => false⟩ proper s record
  obtain ⟨filed, swept, -, justified⟩ :=
    notes_sweepFiled_justified host limits now proper.clients_filed s record
  -- The sweep of a table asks what the sweep of its list of locations asks.
  obtain ⟨-, -, states⟩ := run_filed host.noted limits now t (s, record)
  rw [ran, swept] at states
  obtain rfl : fresh = filed := List.append_cancel_left (Prod.mk.inj states).2
  refine ⟨fresh, ran, given, justified.imp ?_⟩
  rintro c l ⟨clients, there, member⟩
  obtain ⟨⟨_, x⟩, therein, rfl⟩ := List.mem_map.mp member
  exact Option.isSome_iff_exists.mpr ⟨x, proper.find?_eq_some.mpr ⟨clients, there, therein⟩⟩

end Sweep

/-! ## Turns -/

variable (host) in
theorem Registrar.notes_perform {r : Registrar} (proper : r.table.Proper) (op : Operation σ) :
    Notes host (r.perform host op) (r.perform host.noted op.noted) fun _ fresh =>
      Justified r.limits (fun c l => (r.table.find? c l).isSome) fresh := by
  have ticks (now : Tick) : Notes host (r.tick host now) (r.tick host.noted now) fun _ fresh =>
      Justified r.limits (fun c l => (r.table.find? c l).isSome) fresh := by
    unfold tick
    split
    · exact (Sweep.notes_run_justified r.limits now proper).map fun _ _ justified => justified
    · refine (notes_pure _).imp ?_
      rintro _ _ ⟨-, rfl⟩
      exact justified_of_silent (by simp)
  cases own : op.own? with
  | some mine =>
    obtain ⟨kind, asks⟩ := Turn.isSome_kind_of_own (Option.isSome_iff_exists.mpr ⟨mine, own⟩)
    refine (r.notes_perform_own own asks).imp ?_
    rintro _ _ (⟨now, -, looks⟩ | ⟨ok, -, looks⟩)
    · exact Justified.append (justified_of_silent looks.silent) (justified_of_silent (by simp))
    · exact justified_of_silent looks.silent
  | none =>
    cases op with
    | stop | single | start | keepalive | handle => cases own
    | setTickInterval | clearCooldown | clear =>
      refine (notes_pure _).imp ?_
      rintro _ _ ⟨-, rfl⟩
      exact justified_of_silent (by simp)
    | elsewhere change =>
      intro s record
      refine ⟨[], ?_, by simp, justified_of_silent (by simp)⟩
      rw [List.append_nil]
      rfl
    | tick now => exact (ticks now).map fun _ _ justified => justified
    | tickWorld =>
      have ticked : Notes host (r.tickWorld host) (r.tickWorld host.noted) fun _ fresh =>
          Justified r.limits (fun c l => (r.table.find? c l).isSome) fresh := by
        refine notes_currentTick.bind fun now => (ticks now).imp ?_
        rintro _ _ justified _ rfl
        exact Justified.append (justified_of_silent (by simp)) justified
      exact ticked.map fun _ _ justified => justified

namespace Turn

variable (host) {t : Turn σ}

theorem justified_asked (proper : t.registrar.table.Proper) :
    Justified t.registrar.limits (fun c l => (t.held c l).isSome) (t.asked host) :=
  perform_noted host (Registrar.notes_perform host proper t.operation)

end Turn

/-! ## Runs -/

variable (host)

/-- Some turns back a request of the client for the location was accepted, and since then there was
a registration and neither a stop nor a refused request. -/
def GoesBack (c : ClientId) (l : Location) (past : List (Turn σ)) : Prop :=
  ∃ earlier grant since, past = earlier ++ grant :: since ∧ grant.Grants host c l ∧
    ∀ t ∈ since, (t.held c l).isSome ∧ ¬ t.Denies host c l

variable {host}

theorem GoesBack.turn {c : ClientId} {l : Location} {past : List (Turn σ)} {t : Turn σ}
    (goesBack : GoesBack host c l past) (held : (t.held c l).isSome) (allowed : ¬ t.Denies host c l) :
    GoesBack host c l (past ++ [t]) := by
  obtain ⟨earlier, grant, since, rfl, grants, each⟩ := goesBack
  refine ⟨earlier, grant, since ++ [t], by simp, grants, ?_⟩
  intro u member
  rcases List.mem_append.mp member with member | member
  · exact each u member
  · cases List.mem_singleton.mp member
    exact ⟨held, allowed⟩

/-- Every registration goes back to an accepted request. -/
structure Earned (host : Host σ) (past : List (Turn σ)) (r : Registrar) : Prop where
  tidy : r.table.Tidy
  goesBack : ∀ c l, (r.table.find? c l).isSome → GoesBack host c l past

theorem Earned.turn {past : List (Turn σ)} {t : Turn σ} (earned : Earned host past t.registrar) :
    Earned host (past ++ [t]) (t.after host) where
  tidy := Turn.tidy_after host earned.tidy
  goesBack c l left := by
    have fate := t.fate host earned.tidy c l
    have some : (t.left host c l).isSome := left
    generalize t.left host c l = after at fate some
    cases fate with
    | same elsewhere => exact (earned.goesBack c l some).turn some fun denies => elsewhere denies.own
    | cleared | denied => cases some
    | granted now grants => exact ⟨past, t, [], rfl, grants, by simp⟩
    | swept swept =>
      have held : (t.held c l).isSome := by
        cases before : t.held c l with
        | none => rw [before] at some; cases some
        | some x => rfl
      refine (earned.goesBack c l held).turn held fun denies => ?_
      -- A turn that sweeps is no client's.
      have idle := Turn.sweep?_eq_none_of_own host (Option.isSome_iff_exists.mpr ⟨_, denies.own⟩)
      cases idle.symm.trans swept

/-- Whatever is asked of a server and however its world answers, every message goes to clients none
of which is listed twice.  Each of them passed a check with every check on in the same turn, had a
registration right before it, and asked for it after it last stopped or was refused. -/
theorem sent_only_to_entitled (host : Host σ) (config : ServerConfig)
    (operations : List (Operation σ)) (s : σ) {past later : List (Turn σ)} {turn : Turn σ}
    (split : (Registrar.ofConfig config).course host operations s = past ++ turn :: later)
    {before after : List Exchange} {clients : List ClientId} {response : Response}
    {answer : Except TransportError Unit}
    (sent : turn.asked host = before ++ .sent clients response answer :: after) :
    clients.Nodup ∧ ∀ c ∈ clients, Passed turn.registrar.limits c response.location before ∧
      (turn.held c response.location).isSome ∧ GoesBack host c response.location past := by
  have earned : Earned host past turn.registrar :=
    Registrar.course_invariant (fun _ _ => Earned.turn) ⟨Table.tidy_empty, fun _ _ found => by cases found⟩
      split
  obtain ⟨nodup, each⟩ :=
    Turn.justified_asked host earned.tidy.toProper before clients response answer after sent
  refine ⟨nodup, fun c member => ?_⟩
  obtain ⟨held, passed⟩ := each c member
  exact ⟨passed, held, earned.goesBack c response.location held⟩

/-- A client that asks for one observation, stops, asks again, and is sent one by the next sweep. -/
theorem sent_only_to_entitled_of_asked_again :
    let host : Host Unit := {
      currentTick := pure (.ofNat 5)
      client := fun _ => pure (some ⟨"overworld", ⟨⟨0⟩, ⟨0⟩, ⟨0⟩⟩⟩)
      isLoaded := fun _ => pure true
      hasContainer := fun _ => pure true
      observe := fun _ _ => pure (.ok .empty)
      send := fun _ _ => pure (.ok ()) }
    let c : ClientId := ⟨1⟩
    let l : Location := ⟨"overworld", ⟨1, 2, 3⟩⟩
    let r := Registrar.ofConfig {}
    let turns := r.course host [.single c l, .stop c l, .single c l, .tick (.ofNat 6)] ()
    ∃ past turn before response answer after, turns = past ++ [turn] ∧
      turn.asked host = before ++ .sent [c] response answer :: after ∧ response.location = l ∧
      Passed turn.registrar.limits c l before ∧ GoesBack host c l past := by
  intro host c l r turns
  let turn : Turn Unit := ⟨(r.performAll host [.single c l, .stop c l, .single c l] ()).1.2, (),
    .tick (.ofNat 6)⟩
  let isMessage : Exchange → Bool
    | .sent clients response _ => clients = [c] ∧ response.location = l
    | _ => false
  have split : turns = turns.take 3 ++ [turn] := by rfl
  have told : (turn.asked host).any isMessage = true := by decide +kernel +zetaReduce
  obtain ⟨x, member, message⟩ := List.any_eq_true.mp told
  obtain ⟨before, after, sent⟩ := List.append_of_mem member
  cases x with
  | sent clients response answer =>
    obtain ⟨rfl, here⟩ := of_decide_eq_true message
    obtain ⟨-, each⟩ := sent_only_to_entitled host {} _ () split sent
    obtain ⟨passed, -, goesBack⟩ := each c List.mem_cons_self
    rw [here] at passed goesBack
    exact ⟨_, turn, before, response, answer, after, split, sent, here, passed, goesBack⟩
  | tick | client | loaded | container | observed => cases message

end ObservationFeed.Server
