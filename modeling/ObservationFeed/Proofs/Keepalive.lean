import Mathlib.Data.List.Induction
import ObservationFeed.Proofs.Agreement
import ObservationFeed.Proofs.Client.IdleClose
import ObservationFeed.Proofs.Server.Lease

/-!
# Keepalives outrun expiry

A client and a server with the same settings, where every request is handled at
the tick at which it is sent, and the world goes by the client's clock.  The
client sends a keepalive two thirds of the way to the expiry, rounded down, so
the next one is always sent at a tick at which the registration has not expired.

`Covered` is what a run keeps.  The lease that the server holds, once it has
gone through the messages on their way, lasts up to the tick of the next
keepalive.
-/

namespace ObservationFeed

open Client Server KeyedList

/-! ## The clocks -/

/-- An event that is on time comes no later than the next keepalive. -/
theorem Client.Event.OnTime.le_due {c : Client} {e : Event} (onTime : e.OnTime c) {l : Location}
    {due : Nat} (next : (c.place l).due? = some due) (now : c.now ≤ due) : e.time c ≤ due := by
  obtain ⟨⟨n, s⟩, live, (keepalive : s.keepalive = some due)⟩ := Option.bind_eq_some_iff.mp next
  obtain ⟨time, subscription, first⟩ : ∃ time, s.nextWake? = some time ∧ time ≤ due :=
    min?_le (List.mem_append_left _ (by simp [keepalive]))
  obtain ⟨w, wakes, second⟩ :=
    nextWake?_le (h := ⟨l, n⟩) (Place.live?_eq_some.mp live).2 subscription
  have soon := Nat.le_trans second first
  cases e with
  | wake time =>
    cases onTime.symm.trans wakes
    exact Nat.max_le.mpr ⟨now, soon⟩
  | elapse time => exact Nat.max_le.mpr ⟨now, Nat.le_trans (Nat.le_of_lt (onTime w wakes)) soon⟩
  | _ => exact now

/-- The tick that the world is at, by the clock of a client that the world is ahead of. -/
def Config.worldTick (config : Config) (ahead now : Nat) : Tick :=
  .ofNat ((ahead + now) / config.client.tickDurationMs.toNat)

namespace Config

variable (config : Config) (ahead : Nat)

theorem worldTick_mono {now later : Nat} (le : now ≤ later) :
    (config.worldTick ahead now).count ≤ (config.worldTick ahead later).count := by
  have quotients : (ahead + now) / config.client.tickDurationMs.toNat ≤
      (ahead + later) / config.client.tickDurationMs.toNat :=
    Nat.div_le_div_right (Nat.add_le_add_left le ahead)
  rw [worldTick, worldTick, Tick.count_ofNat, Tick.count_ofNat]
  omega

/-- The period of the keepalive is no longer than the ticks that a registration lasts. -/
theorem keepaliveMs_le :
    config.keepaliveMs ≤
      config.server.maxAgeTicks.toNat * config.client.tickDurationMs.toNat := by
  -- Stopping at the largest number only makes a product smaller.
  have ticks : min (config.server.maxAgeTicks.toNat * 2) maxUInt64 / 3 ≤
      config.server.maxAgeTicks.toNat := by omega
  exact Nat.le_trans (Nat.min_le_left ..) (Nat.mul_le_mul_right _ ticks)

/-- The keepalive after one that is handled comes before the registration expires. -/
theorem worldTick_add_keepaliveMs_le (now : Nat) :
    (config.worldTick ahead (now + config.keepaliveMs)).count ≤
      ((config.worldTick ahead now).add config.server.maxAgeTicks.toNat).count := by
  have period := config.keepaliveMs_le
  generalize config.server.maxAgeTicks.toNat = age at period ⊢
  simp only [worldTick, Tick.count_add, Tick.count_ofNat]
  generalize config.client.tickDurationMs.toNat = tick at period ⊢
  have quotients : (ahead + (now + config.keepaliveMs)) / tick ≤ (ahead + now) / tick + age := by
    rcases Nat.eq_zero_or_pos tick with rfl | positive
    · simp
    · calc (ahead + (now + config.keepaliveMs)) / tick
          ≤ (ahead + now + age * tick) / tick := Nat.div_le_div_right (by omega)
        _ = (ahead + now) / tick + age := Nat.add_mul_div_right _ _ positive
  omega

/-- If there is a next keepalive there is a mark, and the keepalive is still to come and comes at a
tick that is not past the mark. -/
def Outruns (now : Nat) : Option Nat → Option Nat → Prop :=
  Option.Rel fun due mark => now ≤ due ∧ (config.worldTick ahead due).count ≤ mark

variable {config ahead} {now : Nat} {due mark : Option Nat}

theorem Outruns.later (outruns : config.Outruns ahead now due mark) {time : Nat}
    (inTime : ∀ d, due = some d → now ≤ d → time ≤ d) : config.Outruns ahead time due mark := by
  cases outruns with
  | none => exact .none
  | some holds => exact .some ⟨inTime _ rfl holds.1, holds.2⟩

theorem Outruns.count_le (outruns : config.Outruns ahead now due mark) {m : Nat}
    (same : mark = some m) : (config.worldTick ahead now).count ≤ m := by
  cases outruns with
  | none => cases same
  | some holds =>
    cases same
    exact Nat.le_trans (config.worldTick_mono ahead holds.1) holds.2

/-- Messages that are handled at the tick at which they are sent set both times anew or neither. -/
theorem Outruns.lasting (outruns : config.Outruns ahead now due mark)
    (kinds : List RequestKind) :
    config.Outruns ahead now (lasting (now + config.keepaliveMs) due kinds)
      (lasting ((config.worldTick ahead now).add config.server.maxAgeTicks.toNat).count mark
        kinds) :=
  rel_lasting outruns
    ⟨Nat.le_add_right .., config.worldTick_add_keepaliveMs_le ahead now⟩ kinds

end Config

namespace Correspondence

variable {σ : Type}

/-! ## Runs -/

/-- The turn of the server that begins now. -/
def turn (op : Operation σ) (s : Correspondence σ) : Turn σ := ⟨s.server, s.surroundings, op⟩

/-- The server does something that no message on the way asks for. -/
def serve (host : Host σ) (op : Operation σ) (s : Correspondence σ) : Correspondence σ :=
  let ((_, server), surroundings) := s.server.perform host op s.surroundings
  { s with server, surroundings }

theorem server_serve (host : Host σ) (op : Operation σ) (s : Correspondence σ) :
    (s.serve host op).server = (s.turn op).after host := rfl

theorem server_deliver (host : Host σ) (id : ClientId) (message : Request) (rest : List Request)
    (s : Correspondence σ) :
    (s.deliver host.toWorld id message rest).server =
      (s.turn (.handle id message)).after host := rfl

/-- The runs of a client and a server with the same settings, with the messages about a location
that the server has handled.  The client's tasks run when they are due, and no request is on its
way while the world goes from one tick to another.  The location and the client pass every check,
and the registration is left to the messages: nobody else asks the server for a change to it, and
the server is not cleared. -/
inductive InStep (net : Network) (host : Host σ) (config : Config) (ahead : Nat) (id : ClientId)
    (l : Location) : List RequestKind → Correspondence σ → Prop where
  | start (surroundings : σ) :
      InStep net host config ahead id l [] (ofConfig config config.server surroundings)
  | act {handled : List RequestKind} {s : Correspondence σ} (e : Event) :
      InStep net host config ahead id l handled s → e.OnTime s.client →
      s.onTheWay = [] ∨
        config.worldTick ahead (e.time s.client) = config.worldTick ahead s.client.now →
      InStep net host config ahead id l handled (s.act net e)
  | deliver {handled : List RequestKind} {s : Correspondence σ} {message : Request}
      {rest : List Request} :
      InStep net host config ahead id l handled s → s.onTheWay = message :: rest →
      (s.turn (.handle id message)).Passes host (config.worldTick ahead s.client.now) id l →
      InStep net host config ahead id l (handled ++ kindsAt l [message])
        (s.deliver host.toWorld id message rest)
  | serve {handled : List RequestKind} {s : Correspondence σ} (op : Operation σ) :
      InStep net host config ahead id l handled s → op.own? ≠ some (id, l) → op ≠ .clear →
      (s.turn op).Passes host (config.worldTick ahead s.client.now) id l →
      InStep net host config ahead id l handled (s.serve host op)

/-! ## The invariant -/

/-- What holds of every state of a run. -/
structure Covered (config : Config) (ahead : Nat) (id : ClientId) (l : Location)
    (handled : List RequestKind) (s : Correspondence σ) : Prop where
  distinct : Distinct s.client.places
  fit : ∃ born, (s.client.place l).Fit born s.client.now
  period : s.client.period = config.keepaliveMs
  tidy : s.server.table.Tidy
  maxAge : s.server.maxAge = config.server.maxAgeTicks.toNat
  stands : (s.server.table.lease? id l).isSome = standing false handled
  inTime : ∀ mark, s.server.table.lease? id l = some mark →
    (config.worldTick ahead s.client.now).count ≤ mark
  covers : config.Outruns ahead s.client.now (s.client.place l).due?
    (lasting ((config.worldTick ahead s.client.now).add s.server.maxAge).count
      (s.server.table.lease? id l) (kindsAt l s.onTheWay))

variable {net : Network} {host : Host σ} {config : Config} {ahead : Nat} {id : ClientId}
  {l : Location} {handled : List RequestKind} {s : Correspondence σ}

theorem covered_ofConfig (surroundings : σ) :
    (ofConfig config config.server surroundings).Covered config ahead id l [] where
  distinct := distinct_nil
  fit := ⟨fun _ => false, Place.fit_empty _ _⟩
  period := rfl
  tidy := Table.tidy_empty
  maxAge := rfl
  stands := rfl
  inTime := nofun
  covers := .none

theorem Covered.act (covered : s.Covered config ahead id l handled)
    (works : ∀ l kind, net l kind = none) {e : Event} (onTime : e.OnTime s.client)
    (steady : s.onTheWay = [] ∨
      config.worldTick ahead (e.time s.client) = config.worldTick ahead s.client.now) :
    (s.act net e).Covered config ahead id l handled := by
  obtain ⟨born, fit⟩ := covered.fit
  obtain ⟨born', fit', next⟩ := fit.step works e
  rw [← step_at covered.distinct net e l] at fit' next
  have timing := (step_framed net s.client e).timing
  have now : (s.client.step net e).1.now = e.time s.client := congrArg Timing.now timing
  have period : (s.client.step net e).1.period = s.client.period := congrArg Timing.period timing
  -- The clock moves before anything is sent, and not past the next keepalive.
  have moved : config.Outruns ahead (e.time s.client) (s.client.place l).due?
      (lasting ((config.worldTick ahead (e.time s.client)).add s.server.maxAge).count
        (s.server.table.lease? id l) (kindsAt l s.onTheWay)) := by
    have outruns := covered.covers.later fun due waits => onTime.le_due waits
    rcases steady with nothing | still
    · rw [nothing] at outruns ⊢
      exact outruns
    · rwa [still]
  refine ⟨(step_framed net s.client e).distinct covered.distinct, ⟨born', ?_⟩,
    period.trans covered.period, covered.tidy, covered.maxAge, covered.stands, ?_, ?_⟩
  · rw [Correspondence.act, now]
    exact fit'
  · intro mark lease
    simp only [Correspondence.act, now] at lease ⊢
    rcases steady with nothing | still
    · -- With nothing on its way, the lease is what lasts up to the next keepalive.
      rw [nothing] at moved
      exact moved.count_le lease
    · rw [still]
      exact covered.inTime mark lease
  · -- What is sent goes behind what is on its way.
    simp only [Correspondence.act, now, kindsAt_append, kindsAt_sent, lasting_append]
    rw [next, covered.period, covered.maxAge]
    rw [covered.maxAge] at moved
    exact moved.lasting _

theorem Covered.deliver (covered : s.Covered config ahead id l handled) {message : Request}
    {rest : List Request} (first : s.onTheWay = message :: rest)
    (passes : (s.turn (.handle id message)).Passes host (config.worldTick ahead s.client.now)
      id l) :
    (s.deliver host.toWorld id message rest).Covered config ahead id l
      (handled ++ kindsAt l [message]) := by
  have tidy : (s.turn (.handle id message)).registrar.table.Tidy := covered.tidy
  have maxAge := (s.turn (.handle id message)).maxAge_after host
  -- The message is the first that the lease goes through.
  have lease : ((s.turn (.handle id message)).after host).table.lease? id l =
      lasting ((config.worldTick ahead s.client.now).add s.server.maxAge).count
        (s.server.table.lease? id l) (kindsAt l [message]) := by
    rw [kindsAt_cons]
    by_cases here : message.location = l
    · rw [if_pos here]
      subst here
      exact passes.lease_own rfl rfl
    · rw [if_neg here]
      refine passes.lease_other tidy ?_ nofun covered.inTime
      rintro ⟨⟩
      exact here rfl
  have kinds : kindsAt l s.onTheWay = kindsAt l [message] ++ kindsAt l rest := by
    rw [first, ← kindsAt_append]
    rfl
  refine ⟨covered.distinct, covered.fit, covered.period, Turn.tidy_after host tidy,
    maxAge.trans covered.maxAge, ?_, ?_, ?_⟩
  · rw [server_deliver, lease, isSome_lasting, standing_append, covered.stands]
  · rw [server_deliver, lease]
    refine forall_lasting covered.inTime ?_ _
    exact Nat.le_min.mpr ⟨Nat.le_add_right .., (config.worldTick ahead s.client.now).count_le⟩
  · have covers := covered.covers
    rw [kinds, lasting_append, ← lease] at covers
    rw [server_deliver, maxAge]
    exact covers

theorem Covered.serve (covered : s.Covered config ahead id l handled) {op : Operation σ}
    (own : op.own? ≠ some (id, l)) (uncleared : op ≠ .clear)
    (passes : (s.turn op).Passes host (config.worldTick ahead s.client.now) id l) :
    (s.serve host op).Covered config ahead id l handled := by
  have tidy : (s.turn op).registrar.table.Tidy := covered.tidy
  have maxAge := (s.turn op).maxAge_after host
  have lease := passes.lease_other tidy own uncleared covered.inTime
  refine ⟨covered.distinct, covered.fit, covered.period, Turn.tidy_after host tidy,
    maxAge.trans covered.maxAge, ?_, ?_, ?_⟩
  · rw [server_serve, lease]
    exact covered.stands
  · rw [server_serve, lease]
    exact covered.inTime
  · rw [server_serve, lease, maxAge]
    exact covered.covers

theorem InStep.covered (run : InStep net host config ahead id l handled s)
    (works : ∀ l kind, net l kind = none) : s.Covered config ahead id l handled := by
  induction run with
  | start surroundings => exact covered_ofConfig surroundings
  | act e _ onTime steady ih => exact ih.act works onTime steady
  | deliver _ first passes ih => exact ih.deliver first passes
  | serve op _ own uncleared passes ih => exact ih.serve own uncleared passes

/-! ## Keepalives in time -/

/-- A start or a keepalive was handled, and no stop since then. -/
def Asked (handled : List RequestKind) : Prop :=
  ∃ before kind after, handled = before ++ kind :: after ∧ kind.interval?.isSome ∧ .stop ∉ after

/-- The last message asks, or it leaves alone what was asked before. -/
theorem asked_concat {earlier : List RequestKind} {last : RequestKind} :
    Asked (earlier ++ [last]) ↔ last.interval?.isSome ∨ Asked earlier ∧ last ≠ .stop := by
  constructor
  · rintro ⟨before, kind, after, split, asks, unstopped⟩
    rcases List.eq_nil_or_concat after with rfl | ⟨between, other, rfl⟩
    · obtain ⟨-, same⟩ := List.append_inj' split rfl
      cases same
      exact .inl asks
    · rw [List.concat_eq_append] at split unstopped
      rw [← List.cons_append, ← List.append_assoc] at split
      obtain ⟨rfl, same⟩ := List.append_inj' split rfl
      cases same
      rw [List.mem_append, not_or, List.mem_singleton] at unstopped
      exact .inr ⟨⟨before, kind, between, rfl, asks, unstopped.1⟩, Ne.symm unstopped.2⟩
  · rintro (asks | ⟨⟨before, kind, after, rfl, asks, unstopped⟩, other⟩)
    · exact ⟨earlier, last, [], rfl, asks, List.not_mem_nil⟩
    · refine ⟨before, kind, after ++ [last], by simp, asks, ?_⟩
      rw [List.mem_append, not_or, List.mem_singleton]
      exact ⟨unstopped, Ne.symm other⟩

theorem asked_iff {handled : List RequestKind} :
    Asked handled ↔ standing false handled = true := by
  induction handled using List.reverseRecOn with
  | nil => exact ⟨fun ⟨_, _, _, split, _⟩ => by simp at split, nofun⟩
  | append_singleton earlier last ih =>
    rw [asked_concat, standing_append, ih]
    cases last with
    | start | keepalive => exact ⟨fun _ => rfl, fun _ => .inl rfl⟩
    | stop => exact ⟨fun asked => asked.elim nofun fun earlier => absurd rfl earlier.2, nofun⟩
    | single => exact ⟨fun asked => asked.elim nofun And.left, fun stands => .inr ⟨stands, nofun⟩⟩

/-- A subscription that is open has asked for a registration once its start has been handled, and
from then on until its stop is handled the server holds a recurring registration that has not
expired, and no sweep takes it away.  This is so for all settings, whichever products stop at the
largest number, and also where the period is zero. -/
theorem keepalives_outrun_expiry (works : ∀ l kind, net l kind = none)
    (run : InStep net host config ahead id l handled s) :
    let now := config.worldTick ahead s.client.now
    (∀ n subscription, s.client.subscription? ⟨l, n⟩ = some subscription →
      subscription.isClosed = false → (∀ message ∈ s.onTheWay, message.location ≠ l) →
      Asked handled) ∧
    (Asked handled → ∃ x, s.server.table.find? id l = some x ∧
      (∃ every, x.interval = .every every) ∧ x.isExpired now = false ∧
      ∀ op, (s.turn op).Passes host now id l → ((s.turn op).sweep? host).isSome →
        (s.turn op).left host id l = some (x.poll now).2) := by
  intro now
  have covered := run.covered works
  refine ⟨fun n subscription found isOpen delivered => ?_, fun asked => ?_⟩
  · obtain ⟨born, fit⟩ := covered.fit
    have pending := (fit.sound.entry n).mpr ⟨subscription, found, isOpen⟩
    have live := Place.live?_eq_some.mpr ⟨pending, found⟩
    obtain ⟨due, renewing⟩ : ∃ due, subscription.keepalive = some due := by
      rcases fit.sound.each n subscription found with isOpen | spent
      · exact Option.isSome_iff_exists.mp isOpen.renewing
      · cases isOpen.symm.trans spent.isClosed
    -- Its next keepalive is due at some time, so with nothing on its way the server has a lease.
    have covers := covered.covers
    rw [Place.due?_of_live live, renewing, kindsAt_eq_nil delivered] at covers
    rw [asked_iff, ← covered.stands]
    generalize lease : s.server.table.lease? id l = mark at covers
    cases covers
    rfl
  · have leased := covered.stands.trans (asked_iff.mp asked)
    obtain ⟨mark, lease⟩ := Option.isSome_iff_exists.mp leased
    obtain ⟨x, held, recurring, expiry⟩ := Table.lease?_eq_some lease
    have inTime : now.count ≤ x.expiry.count := expiry ▸ covered.inTime mark lease
    exact ⟨x, held, recurring, decide_eq_false (Nat.not_lt.mpr inTime),
      fun op passes swept => passes.left_of_sweep covered.tidy swept held inTime⟩

/-- A registration that lasts two ticks is renewed after one, and a sweep then spares it.  The world
moves on by a tick whenever it is looked at. -/
theorem keepalives_outrun_expiry_of_renewed :
    let net : Network := fun _ _ => none
    let host : Host Nat := {
      currentTick := modifyGet fun count => (.ofNat count, count + 1)
      client := fun _ => pure (some ⟨"overworld", ⟨⟨0⟩, ⟨0⟩, ⟨0⟩⟩⟩)
      isLoaded := fun _ => pure true
      hasContainer := fun _ => pure true
      observe := fun _ _ => pure (.ok .empty)
      send := fun _ _ => pure (.ok ()) }
    let config : Config := { server.maxAgeTicks := 2 }
    let l : Location := ⟨"overworld", ⟨1, 2, 3⟩⟩
    let start : Request := .untimed l (.start (.clamp 20))
    let keepalive : Request := .untimed l (.keepalive (.clamp 20))
    let subscribed := (ofConfig config config.server 0).act net (.subscribe l (.clamp 20))
    let started := subscribed.deliver host.toWorld ⟨1⟩ start []
    let renewed := (started.act net (.wake 50)).deliver host.toWorld ⟨1⟩ keepalive []
    (renewed.server.table.find? ⟨1⟩ l).map (fun x => x.expiry.count) = some 3 ∧
      ((renewed.turn (.tick (.ofNat 1))).left host ⟨1⟩ l).isSome := by
  intro net host config l start keepalive subscribed started renewed
  have asks : InStep net host config 0 ⟨1⟩ l [] subscribed :=
    .act (.subscribe l (.clamp 20)) (.start 0) trivial (.inl rfl)
  have sent : subscribed.onTheWay = [start] := by decide +kernel +zetaReduce
  have begun : InStep net host config 0 ⟨1⟩ l ([] ++ kindsAt l [start]) started :=
    .deliver asks sent
      (Turn.passes_of_own rfl (by decide +kernel +zetaReduce) (by decide +kernel +zetaReduce))
  have due : started.client.nextWake? = some 50 := by decide +kernel +zetaReduce
  have wakes := InStep.act (.wake 50) begun due (.inl rfl)
  have resent : (started.act net (.wake 50)).onTheWay = [keepalive] := by
    decide +kernel +zetaReduce
  have run : InStep net host config 0 ⟨1⟩ l
      (([] ++ kindsAt l [start]) ++ kindsAt l [keepalive]) renewed :=
    .deliver wakes resent
      (Turn.passes_of_own rfl (by decide +kernel +zetaReduce) (by decide +kernel +zetaReduce))
  have passes : (renewed.turn (.tick (.ofNat 1))).Passes host
      (config.worldTick 0 renewed.client.now) ⟨1⟩ l :=
    Turn.passes_of_sweep (by decide +kernel +zetaReduce) (by decide +kernel +zetaReduce)
  obtain ⟨-, keeps⟩ := keepalives_outrun_expiry (fun _ _ => rfl) run
  obtain ⟨x, -, -, -, spares⟩ := keeps (asked_iff.mpr rfl)
  refine ⟨by decide +kernel +zetaReduce, ?_⟩
  rw [spares _ passes (by decide +kernel +zetaReduce)]
  rfl

end Correspondence

end ObservationFeed
