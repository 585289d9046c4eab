import ObservationFeed.Proofs.Server.Exchange

/-!
# Who may observe a location

What the look-ups of a check say together.  A client passes every check at a
location exactly if it is in the location's partition and near enough, and the
location is loaded and holds a container.
-/

namespace ObservationFeed.Server

/-- Whether a client passes every check at a location. -/
def Limits.admits (limits : Limits) (answers : Answers) (c : ClientId) (l : Location) : Bool :=
  (match answers.client c with
    | none => false
    | some view => view.partition == l.partition && limits.withinRange view.position l.block) &&
  (answers.isLoaded l && answers.hasContainer l)

variable {σ : Type} {host : Host σ}

theorem notes_isInteractable (l : Location) :
    Notes host (Limits.isInteractable host.toWorld l) (Limits.isInteractable host.noted.toWorld l)
      fun ok fresh => Quiet fresh ∧ ∀ answers, Still answers fresh →
        ok = (answers.isLoaded l && answers.hasContainer l) := by
  refine (notes_isLoaded l).bind fun loaded => ?_
  cases loaded with
  | false =>
    refine (notes_pure _).imp ?_
    rintro _ _ ⟨rfl, rfl⟩ _ rfl
    refine ⟨by simp [Quiet, Exchange.served?], fun answers still => ?_⟩
    have unloaded : false = answers.isLoaded l := (still_cons.mp still).1
    rw [← unloaded, Bool.false_and]
  | true =>
    -- Only a location that is loaded is asked for its container.
    refine (notes_hasContainer l).imp ?_
    rintro held _ rfl _ rfl
    refine ⟨by simp [Quiet, Exchange.served?], fun answers still => ?_⟩
    have loaded : true = answers.isLoaded l := (still_cons.mp still).1
    have container : held = answers.hasContainer l := (still_cons.mp (still_cons.mp still).2).1
    rw [← loaded, Bool.true_and, container]

theorem notes_checkPlace (l : Location) :
    Notes host (Limits.checkPlace host.toWorld l .all) (Limits.checkPlace host.noted.toWorld l .all)
      fun refusal fresh => Quiet fresh ∧ ∀ answers, Still answers fresh →
        refusal.isNone = (answers.isLoaded l && answers.hasContainer l) := by
  refine (notes_isLoaded l).bind fun loaded => ?_
  cases loaded with
  | false =>
    refine (notes_pure _).imp ?_
    rintro _ _ ⟨rfl, rfl⟩ _ rfl
    refine ⟨by simp [Quiet, Exchange.served?], fun answers still => ?_⟩
    have unloaded : false = answers.isLoaded l := (still_cons.mp still).1
    simp [← unloaded]
  | true =>
    refine (notes_hasContainer l).bind fun held => ?_
    refine (notes_pure _).imp ?_
    rintro _ _ ⟨rfl, rfl⟩ _ rfl _ rfl
    refine ⟨by simp [Quiet, Exchange.served?], fun answers still => ?_⟩
    have loaded : true = answers.isLoaded l := (still_cons.mp still).1
    have container : held = answers.hasContainer l := (still_cons.mp (still_cons.mp still).2).1
    rw [← loaded, ← container, Bool.true_and]
    cases held <;> rfl

/-- No check fails exactly if the client is admitted. -/
theorem notes_check (limits : Limits) (c : ClientId) (l : Location) :
    Notes host (limits.check host.toWorld c l .all) (limits.check host.noted.toWorld c l .all)
      fun refusal fresh => Quiet fresh ∧ ∀ answers, Still answers fresh →
        refusal.isNone = limits.admits answers c l := by
  refine (notes_client c).bind fun view => ?_
  cases view with
  | none =>
    refine (notes_pure _).imp ?_
    rintro _ _ ⟨rfl, rfl⟩ _ rfl
    refine ⟨by simp [Quiet, Exchange.served?], fun answers still => ?_⟩
    have gone : none = answers.client c := (still_cons.mp still).1
    simp [Limits.admits, ← gone]
  | some view =>
    have quiet : Quiet [.client c (some view)] := by simp [Quiet, Exchange.served?]
    -- The checks come in this order: the partition, the distance, the place.
    by_cases here : view.partition = l.partition
    · have passed : (Checks.all.partition && view.partition != l.partition) = false := by
        simp [here]
      simp only [passed, Bool.false_eq_true, if_false]
      cases far : limits.offset? view.position l.block with
      | some rejection =>
        refine (notes_pure _).imp ?_
        rintro _ _ ⟨rfl, rfl⟩ _ rfl
        refine ⟨quiet, fun answers still => ?_⟩
        have present : some view = answers.client c := (still_cons.mp still).1
        simp [Limits.admits, ← present, Limits.withinRange, far]
      | none =>
        refine (notes_checkPlace l).imp ?_
        rintro refusal fresh ⟨lookUps, passes⟩ _ rfl
        refine ⟨quiet.append lookUps, fun answers still => ?_⟩
        have present : some view = answers.client c := (still_cons.mp still).1
        rw [passes answers (still_cons.mp still).2]
        simp [Limits.admits, ← present, Limits.withinRange, far, here]
    · have refused : (Checks.all.partition && view.partition != l.partition) = true := by
        simpa [Checks.all] using here
      simp only [refused, if_true]
      refine (notes_pure _).imp ?_
      rintro _ _ ⟨rfl, rfl⟩ _ rfl
      refine ⟨quiet, fun answers still => ?_⟩
      have present : some view = answers.client c := (still_cons.mp still).1
      simp [Limits.admits, ← present, here]

theorem notes_canInteract (limits : Limits) (c : ClientId) (l : Location) :
    Notes host (limits.canInteract host.toWorld c l .all)
      (limits.canInteract host.noted.toWorld c l .all)
      fun ok fresh => Quiet fresh ∧ ∀ answers, Still answers fresh →
        ok = limits.admits answers c l := by
  refine (notes_check limits c l).bind fun refusal => ?_
  refine (notes_pure _).imp ?_
  rintro _ _ ⟨rfl, rfl⟩ before noted
  rw [List.append_nil]
  exact noted

end ObservationFeed.Server
