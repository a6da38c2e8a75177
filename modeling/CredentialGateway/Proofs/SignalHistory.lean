import CredentialGateway.Proofs.Watch

/-!
# What a receiver finds

Whatever has happened to the stop signal, a receiver finds what its own history leaves for it.  The
history is that since it subscribed, or since it last found nothing: with no signal in it there is
nothing to find, with one there is that signal, and with several there is first the number of those
that are lost.  When these are taken, the receiver waits for the next signal, or finds the channel
closed if none can come any more.

    a receiver is k signals behind: what each step makes of k                   (Behind.step)
    the k-th look finds the k-th of what the signals have left              (Behind.finds_after)
    as many are counted as have subscribed and are still there           (perm_living_after)
-/

namespace CredentialGateway

namespace StopSignal

/-! ## Histories -/

/-- The signal after the steps. -/
def after (s : StopSignal) (steps : List Step) : StopSignal :=
  steps.foldl (fun s x => (s.step x).2) s

/-- What a receiver finds that looks after the steps. -/
def finds (steps : List Step) (name : Text) : Option Reception :=
  ((({} : StopSignal).after steps).receive name).1

/-- The steps as long as there is a coordinator. -/
def guided (steps : List Step) : List Step := steps.takeWhile (· ≠ .dropCoordinator)

/-- How many signals are given during the steps.  Without a coordinator there are none. -/
def triggers (steps : List Step) : Nat := (guided steps).count .trigger

/-- A receiver stays during the steps: it is not dropped, and no other takes its name. -/
def stays (name : Text) (since : List Step) : Bool :=
  .drop name ∉ since && .subscribe name ∉ guided since

/-- The receivers that subscribe during the steps and are there at the end. -/
def living : List Step → List Text
  | [] => []
  | .dropCoordinator :: _ => []
  | .subscribe name :: since => if stays name since then name :: living since else living since
  | _ :: since => living since

/-- What so many signals leave for a receiver that takes none until they are given. -/
def offers : Nat → List Reception
  | 0 => []
  | 1 => [.signal]
  | n + 2 => [.lagged (n + 1), .signal]

/-- After the steps nothing is left for the receiver: it has just subscribed, or has just looked
and found nothing. -/
def IsCurrent (name : Text) (steps : List Step) : Prop :=
  (∃ before, steps = before ++ [.subscribe name] ∧ .dropCoordinator ∉ before) ∨
  ∃ before, steps = before ++ [.receive name] ∧ finds before name = some .pending

section Histories

variable {steps since more : List Step} {name : Text} {x : Step}

theorem after_append (s : StopSignal) (a b : List Step) :
    s.after (a ++ b) = (s.after a).after b := List.foldl_append

theorem after_concat (s : StopSignal) (steps : List Step) (x : Step) :
    s.after (steps ++ [x]) = ((s.after steps).step x).2 := by
  rw [after_append]
  rfl

theorem guided_append_of_notMem {a : List Step} (h : .dropCoordinator ∉ a) (b : List Step) :
    guided (a ++ b) = a ++ guided b := by
  refine List.takeWhile_append_of_pos fun x hx => ?_
  simp only [ne_eq, decide_not, Bool.not_eq_true', decide_eq_false_iff_not]
  rintro rfl
  exact h hx

/-- Nothing counts any more when the coordinator has gone. -/
theorem guided_append_of_mem {a : List Step} (h : .dropCoordinator ∈ a) (b : List Step) :
    guided (a ++ b) = guided a := by
  induction a with
  | nil => cases h
  | cons x a ih =>
    by_cases hx : x = .dropCoordinator
    · simp [guided, hx]
    · have ha : .dropCoordinator ∈ a := by simpa [Ne.symm hx] using h
      simpa [guided, hx] using ih ha

theorem guided_of_notMem (h : .dropCoordinator ∉ steps) : guided steps = steps := by
  simpa [guided] using guided_append_of_notMem h []

theorem triggers_concat (steps : List Step) (x : Step) : triggers (steps ++ [x]) =
    triggers steps + if x = .trigger ∧ .dropCoordinator ∉ steps then 1 else 0 := by
  unfold triggers
  by_cases h : Step.dropCoordinator ∈ steps
  · rw [guided_append_of_mem h, if_neg (by simp [h]), Nat.add_zero]
  · rw [guided_append_of_notMem h, guided_of_notMem h, List.count_append]
    cases x <;> simp [guided, h]

theorem triggers_le_append (a b : List Step) : triggers a ≤ triggers (a ++ b) := by
  unfold triggers
  by_cases h : Step.dropCoordinator ∈ a
  · rw [guided_append_of_mem h]
  · rw [guided_append_of_notMem h, guided_of_notMem h, List.count_append]
    exact Nat.le_add_right _ _

theorem stays_append_of_notMem {a : List Step} (h : .dropCoordinator ∉ a) (name : Text)
    (b : List Step) : stays name (a ++ b) = (stays name a && stays name b) := by
  unfold stays
  rw [guided_append_of_notMem h, guided_of_notMem h, Bool.eq_iff_iff]
  simp only [List.mem_append, Bool.and_eq_true, decide_eq_true_eq]
  tauto

theorem stays_append_of_mem {a : List Step} (h : .dropCoordinator ∈ a) (name : Text)
    (b : List Step) : stays name (a ++ b) = (stays name a && decide (.drop name ∉ b)) := by
  unfold stays
  rw [guided_append_of_mem h, Bool.eq_iff_iff]
  simp only [List.mem_append, Bool.and_eq_true, decide_eq_true_eq]
  tauto

theorem stays_singleton (name : Text) (x : Step) :
    stays name [x] = true ↔ x ≠ .drop name ∧ x ≠ .subscribe name := by
  cases x <;> simp [stays, guided, @eq_comm _ name]

theorem stays_concat (name : Text) (since : List Step) (x : Step) :
    stays name (since ++ [x]) = true ↔ stays name since = true ∧ x ≠ .drop name ∧
      (.dropCoordinator ∉ since → x ≠ .subscribe name) := by
  by_cases h : Step.dropCoordinator ∈ since
  · simp [stays_append_of_mem h, h, @eq_comm _ x]
  · simp [stays_append_of_notMem h, stays_singleton, h]

/-- Some receivers go at a step, and one may come. -/
theorem living_concat_of_notMem (h : .dropCoordinator ∉ steps) (x : Step) :
    living (steps ++ [x]) = (living steps).filter (stays · [x]) ++ living [x] := by
  induction steps with
  | nil => simp [living]
  | cons y steps ih =>
    rw [List.mem_cons, not_or] at h
    have ih := ih h.2
    cases y with
    | dropCoordinator => exact absurd rfl h.1
    | subscribe name =>
      simp only [List.cons_append, living, stays_append_of_notMem h.2, ih, Bool.and_eq_true]
      by_cases hs : stays name steps = true <;> by_cases hx : stays name [x] = true <;>
        simp [hs, hx]
    | trigger | drop | receive => exact ih

/-- Without the coordinator receivers only go. -/
theorem living_concat_of_mem (h : .dropCoordinator ∈ steps) (x : Step) :
    living (steps ++ [x]) = (living steps).filter (fun name => x ≠ .drop name) := by
  induction steps with
  | nil => cases h
  | cons y steps ih =>
    cases y with
    | dropCoordinator => rfl
    | subscribe name =>
      have h : .dropCoordinator ∈ steps := by simpa using h
      simp only [List.cons_append, living, stays_append_of_mem h, ih h, Bool.and_eq_true]
      by_cases hs : stays name steps = true <;> by_cases hx : x = .drop name <;>
        simp [hs, hx, @eq_comm _ (Step.drop name)]
    | trigger | drop | receive => exact ih (by simpa using h)

end Histories

/-! ## The coordinator and the receivers -/

section Receivers

variable {s : StopSignal} {steps since more : List Step} {name : Text} {x : Step} {k : Nat}

theorem receive_of_seen {seen : Nat} (h : s.seen? name = some seen) :
    s.receive name = (some (s.look seen).1, s.note name (s.look seen).2) := by
  unfold receive
  rw [h]

theorem receive_of_not_seen (h : s.seen? name = none) : s.receive name = (none, s) := by
  unfold receive
  rw [h]

theorem coordinated_step (s : StopSignal) (x : Step) :
    (s.step x).2.coordinated = true ↔ s.coordinated = true ∧ x ≠ .dropCoordinator := by
  cases x with
  | receive name =>
    cases h : s.seen? name with
    | none => simp [step, receive_of_not_seen h]
    | some seen => simp [step, receive_of_seen h, note, drop]
  | drop name => simp [step, drop]
  | subscribe | trigger | dropCoordinator =>
    by_cases hs : s.coordinated = true <;>
      simp [step, coordinate, subscribe, note, drop, trigger, close, hs]

theorem coordinated_after (s : StopSignal) (steps : List Step) :
    (s.after steps).coordinated = true ↔ s.coordinated = true ∧ .dropCoordinator ∉ steps := by
  induction steps using List.reverseRecOn with
  | nil => simp [after]
  | append_singleton steps x ih =>
    rw [after_concat, coordinated_step, ih, List.mem_append, List.mem_singleton]
    tauto

/-- A signal counts while there is a coordinator, and nothing else does. -/
theorem sent_step (s : StopSignal) (x : Step) : (s.step x).2.sent =
    s.sent + if x = .trigger ∧ s.coordinated = true then 1 else 0 := by
  cases x with
  | receive name =>
    cases h : s.seen? name with
    | none => simp [step, receive_of_not_seen h]
    | some seen => simp [step, receive_of_seen h, note, drop]
  | drop name => simp [step, drop]
  | subscribe | trigger | dropCoordinator =>
    by_cases hs : s.coordinated = true <;>
      simp [step, coordinate, subscribe, note, drop, trigger, close, hs]

/-! ## Who is there -/

theorem seen?_drop_of_ne (s : StopSignal) {other : Text} (h : name ≠ other) :
    (s.drop other).seen? name = s.seen? name := by
  unfold seen? drop
  induction s.receivers with
  | nil => rfl
  | cons r receivers ih =>
    obtain ⟨third, seen⟩ := r
    by_cases hr : third = other
    · have hne : (name == third) = false := by simpa [hr] using h
      rw [List.filter_cons_of_neg (by simp [hr]), List.lookup_cons, hne]
      exact ih
    · rw [List.filter_cons_of_pos (by simp [hr]), List.lookup_cons, List.lookup_cons]
      split
      · rfl
      · exact ih

theorem seen?_note_self (s : StopSignal) (name : Text) (seen : Nat) :
    (s.note name seen).seen? name = some seen := by
  simp [seen?, note]

/-- What one receiver notes is nothing to another. -/
theorem seen?_note_of_ne (s : StopSignal) {other : Text} (h : name ≠ other) (seen : Nat) :
    (s.note other seen).seen? name = s.seen? name := by
  have hne : (name == other) = false := by simpa using h
  rw [← s.seen?_drop_of_ne h]
  simp only [seen?, note, List.lookup_cons, hne]

/-- What the others do, and what the coordinator does, leaves a receiver as it is. -/
theorem seen?_step (hdrop : x ≠ .drop name) (hreceive : x ≠ .receive name)
    (hsubscribe : s.coordinated = true → x ≠ .subscribe name) :
    (s.step x).2.seen? name = s.seen? name := by
  cases x with
  | trigger => exact s.seen?_coordinate s.trigger rfl name
  | dropCoordinator => exact s.seen?_coordinate s.close rfl name
  | drop other => exact s.seen?_drop_of_ne (by simpa [eq_comm] using hdrop)
  | subscribe other =>
    by_cases hs : s.coordinated = true
    · have hne : name ≠ other := by simpa [eq_comm] using hsubscribe hs
      simpa [step, coordinate, hs, subscribe] using s.seen?_note_of_ne hne s.sent
    · simp [step, coordinate, hs]
  | receive other =>
    have hne : name ≠ other := by simpa [eq_comm] using hreceive
    cases h : s.seen? other with
    | none => simp [step, receive_of_not_seen h]
    | some seen => simpa [step, receive_of_seen h] using s.seen?_note_of_ne hne _

/-- Nobody has seen more signals than were given. -/
theorem le_sent_step (h : ∀ r ∈ s.receivers, r.2 ≤ s.sent) (x : Step) :
    ∀ r ∈ (s.step x).2.receivers, r.2 ≤ (s.step x).2.sent := by
  -- a note leaves the others as they are
  have hnote {name : Text} {seen : Nat} (hseen : seen ≤ s.sent) :
      ∀ r ∈ (s.note name seen).receivers, r.2 ≤ (s.note name seen).sent := by
    intro r hr
    rcases List.mem_cons.1 hr with rfl | hr
    · exact hseen
    · exact h r (List.mem_of_mem_filter hr)
  cases x with
  | drop name => exact fun r hr => h r (List.mem_of_mem_filter hr)
  | subscribe name =>
    by_cases hs : s.coordinated = true
    · simpa [step, coordinate, hs, subscribe] using hnote (Nat.le_refl _)
    · simpa [step, coordinate, hs] using h
  | trigger =>
    by_cases hs : s.coordinated = true
    · simpa [step, coordinate, hs, trigger] using
        fun name seen hr => Nat.le_succ_of_le (h (name, seen) hr)
    · simpa [step, coordinate, hs] using h
  | dropCoordinator =>
    by_cases hs : s.coordinated = true
    · simpa [step, coordinate, hs, close] using h
    · simpa [step, coordinate, hs] using h
  | receive name =>
    cases hseen : s.seen? name with
    | none => simpa [step, receive_of_not_seen hseen] using h
    | some seen =>
      have hle : seen ≤ s.sent := by
        obtain ⟨before, after, hreceivers, -⟩ := List.lookup_eq_some_iff.1 hseen
        exact h (name, seen) (by simp [hreceivers])
      have hlook : (s.look seen).2 ≤ s.sent := by
        unfold look
        split_ifs <;> simp [hle]
      simpa [step, receive_of_seen hseen] using hnote hlook

theorem le_sent_of_seen? {seen : Nat} (h : (({} : StopSignal).after steps).seen? name = some seen) :
    seen ≤ (({} : StopSignal).after steps).sent := by
  have hle : ∀ r ∈ (({} : StopSignal).after steps).receivers,
      r.2 ≤ (({} : StopSignal).after steps).sent := by
    clear h
    induction steps using List.reverseRecOn with
    | nil => simp [after]
    | append_singleton steps x ih =>
      rw [after_concat]
      exact le_sent_step ih x
  obtain ⟨before, after, hreceivers, -⟩ := List.lookup_eq_some_iff.1 h
  exact hle (name, seen) (by simp [hreceivers])

/-! ## How far a receiver is behind -/

/-- So many signals have been given that the receiver has not seen. -/
def Behind (s : StopSignal) (name : Text) (k : Nat) : Prop :=
  ∃ seen, s.seen? name = some seen ∧ s.sent = seen + k

/-- The first of what is left is found, and the rest is left. -/
theorem Behind.receive (h : s.Behind name k) :
    (s.receive name).1 =
      some ((offers k).head?.getD (if s.coordinated then .pending else .closed)) ∧
    ∃ j, (s.receive name).2.Behind name j ∧ offers j = (offers k).tail := by
  obtain ⟨seen, hseen, hsent⟩ := h
  rw [receive_of_seen hseen]
  match k with
  | 0 =>
    have hlook : s.look seen = (if s.coordinated then .pending else .closed, seen) := by
      rw [look, if_pos (by omega)]
    rw [hlook]
    exact ⟨rfl, 0, ⟨seen, seen?_note_self .., hsent⟩, rfl⟩
  | 1 =>
    have hlook : s.look seen = (.signal, s.sent) := by
      rw [look, if_neg (by omega), if_pos (by omega)]
    rw [hlook]
    exact ⟨rfl, 0, ⟨s.sent, seen?_note_self .., rfl⟩, rfl⟩
  | n + 2 =>
    have hlook : s.look seen = (.lagged (n + 1), s.sent - 1) := by
      rw [look, if_neg (by omega), if_neg (by omega), show s.sent - seen - 1 = n + 1 by omega]
    rw [hlook]
    refine ⟨rfl, 1, ⟨s.sent - 1, seen?_note_self .., ?_⟩, rfl⟩
    change s.sent = s.sent - 1 + 1
    omega

/-- A receiver that takes nothing falls behind with each signal. -/
theorem Behind.step (h : s.Behind name k) (hdrop : x ≠ .drop name) (hreceive : x ≠ .receive name)
    (hsubscribe : s.coordinated = true → x ≠ .subscribe name) :
    (s.step x).2.Behind name (k + if x = .trigger ∧ s.coordinated = true then 1 else 0) := by
  obtain ⟨seen, hseen, hsent⟩ := h
  refine ⟨seen, (seen?_step hdrop hreceive hsubscribe).trans hseen, ?_⟩
  rw [sent_step, hsent, Nat.add_assoc]

/-- Signals add up for a receiver that takes none. -/
theorem Behind.after_since (h : s.Behind name k) (hs : s.coordinated = true)
    (hstays : stays name since = true) (hnone : .receive name ∉ since) :
    (s.after since).Behind name (k + triggers since) := by
  induction since using List.reverseRecOn with
  | nil => exact h
  | append_singleton since x ih =>
    obtain ⟨hstays, hdrop, hsubscribe⟩ := (stays_concat name since x).1 hstays
    rw [List.mem_append, List.mem_singleton, not_or] at hnone
    have hx := (ih hstays hnone.1).step (x := x) hdrop (Ne.symm hnone.2) fun hc =>
      hsubscribe ((coordinated_after s since).1 hc).2
    rw [after_concat, triggers_concat, ← Nat.add_assoc]
    simpa [coordinated_after, hs] using hx

/-- Without further signals each look takes the next of what is left. -/
theorem Behind.after_more (h : s.Behind name k) (hs : s.coordinated = true)
    (hstays : stays name (since ++ more) = true) (hnone : .receive name ∉ since)
    (hquiet : triggers (since ++ more) = triggers since) :
    ∃ j, (s.after (since ++ more)).Behind name j ∧
      offers j = (offers (k + triggers since)).drop (more.count (.receive name)) := by
  induction more using List.reverseRecOn with
  | nil =>
    rw [List.append_nil] at hstays ⊢
    exact ⟨_, h.after_since hs hstays hnone, rfl⟩
  | append_singleton more x ih =>
    rw [← List.append_assoc] at hstays hquiet ⊢
    obtain ⟨hstays, hdrop, hsubscribe⟩ := (stays_concat name _ x).1 hstays
    have hle := triggers_le_append since more
    rw [triggers_concat] at hquiet
    obtain ⟨j, hj, hoffers⟩ := ih hstays (by omega)
    rw [after_concat, List.count_append]
    by_cases hx : x = .receive name
    · obtain ⟨-, i, hi, htail⟩ := hj.receive
      subst hx
      exact ⟨i, hi, by simp [htail, hoffers]⟩
    · -- no signal, and so the receiver is as far behind as before
      have hno : ¬ (x = .trigger ∧ (s.after (since ++ more)).coordinated = true) := by
        rintro ⟨htrigger, hc⟩
        rw [if_pos ⟨htrigger, ((coordinated_after s _).1 hc).2⟩] at hquiet
        omega
      have hstep := hj.step hdrop hx fun hc => hsubscribe ((coordinated_after s _).1 hc).2
      rw [if_neg hno, Nat.add_zero] at hstep
      exact ⟨j, hstep, by simp [hoffers, hx]⟩

theorem Behind.finds_after (h : s.Behind name k) (hs : s.coordinated = true)
    (hstays : stays name (since ++ more) = true) (hnone : .receive name ∉ since)
    (hquiet : triggers (since ++ more) = triggers since) :
    ((s.after (since ++ more)).receive name).1 =
      some ((offers (k + triggers since))[more.count (.receive name)]?.getD
        (if .dropCoordinator ∈ since ++ more then .closed else .pending)) := by
  obtain ⟨j, hj, hoffers⟩ := h.after_more hs hstays hnone hquiet
  rw [hj.receive.1, hoffers, List.head?_drop]
  by_cases hgone : Step.dropCoordinator ∈ since ++ more
  · have hc : (s.after (since ++ more)).coordinated = false := by
      simpa [hgone] using mt (coordinated_after s (since ++ more)).1
    rw [hc, if_pos hgone]
    rfl
  · have hc : (s.after (since ++ more)).coordinated = true :=
      (coordinated_after s _).2 ⟨hs, hgone⟩
    rw [hc, if_neg hgone]
    rfl

/-- A receiver that has nothing left has seen all signals, and more may come. -/
theorem behind_of_isCurrent (h : IsCurrent name steps) :
    (({} : StopSignal).after steps).Behind name 0 ∧
      (({} : StopSignal).after steps).coordinated = true := by
  rcases h with ⟨before, rfl, hbefore⟩ | ⟨before, rfl, hfinds⟩
  · have hc : (({} : StopSignal).after before).coordinated = true :=
      (coordinated_after _ before).2 ⟨rfl, hbefore⟩
    rw [after_concat]
    simp only [step, coordinate, hc, if_true]
    exact ⟨⟨_, seen?_note_self .., rfl⟩, hc⟩
  · unfold finds at hfinds
    rw [after_concat]
    cases hseen : (({} : StopSignal).after before).seen? name with
    | none =>
      rw [receive_of_not_seen hseen] at hfinds
      cases hfinds
    | some seen =>
      have hle := le_sent_of_seen? hseen
      rw [receive_of_seen hseen, Option.some_inj, look] at hfinds
      split_ifs at hfinds with hsent hc
      have hlook : (({} : StopSignal).after before).look seen = (.pending, seen) := by
        rw [look, if_pos hsent, if_pos hc]
      simp only [step, receive_of_seen hseen, hlook]
      exact ⟨⟨seen, seen?_note_self .., Nat.le_antisymm hsent hle⟩, hc⟩

/-! ## Who is counted -/

theorem guided_cons_of_ne (h : x ≠ .dropCoordinator) (steps : List Step) :
    guided (x :: steps) = x :: guided steps := List.takeWhile_cons_of_pos (by simpa using h)

theorem subscribe_mem_of_mem_living (h : name ∈ living steps) : .subscribe name ∈ guided steps := by
  induction steps with
  | nil => cases h
  | cons x steps ih =>
    cases x with
    | dropCoordinator => cases h
    | subscribe other =>
      rw [guided_cons_of_ne (by simp)]
      by_cases hn : name = other
      · simp [hn]
      · refine List.mem_cons_of_mem _ (ih ?_)
        unfold living at h
        split at h
        · exact (List.mem_cons.1 h).resolve_left hn
        · exact h
    | trigger | drop | receive =>
      rw [guided_cons_of_ne (by simp)]
      exact List.mem_cons_of_mem _ (ih h)

/-- No two receivers that are there have one name. -/
theorem nodup_living (steps : List Step) : (living steps).Nodup := by
  induction steps with
  | nil => exact .nil
  | cons x steps ih =>
    cases x with
    | dropCoordinator => exact .nil
    | subscribe name =>
      unfold living
      split
      · rename_i hstays
        refine List.nodup_cons.2 ⟨fun hmem => ?_, ih⟩
        simp [stays, subscribe_mem_of_mem_living hmem] at hstays
      · exact ih
    | trigger | drop | receive => exact ih

def names (s : StopSignal) : List Text := s.receivers.map (·.1)

theorem names_drop (s : StopSignal) (name : Text) :
    (s.drop name).names = s.names.filter (· ≠ name) := by
  simp only [names, drop, List.filter_map]
  rfl

theorem names_note (s : StopSignal) (name : Text) (seen : Nat) :
    (s.note name seen).names = name :: s.names.filter (· ≠ name) := by
  rw [← names_drop]
  rfl

/-- A receiver goes at a step if it is dropped or replaced, and one comes if it subscribes. -/
theorem names_step (h : s.names.Nodup) (x : Step) : (s.step x).2.names.Perm
    (s.names.filter (fun m => x ≠ .drop m ∧ (s.coordinated = true → x ≠ .subscribe m)) ++
      if s.coordinated then living [x] else []) := by
  cases x with
  | trigger | dropCoordinator =>
    by_cases hs : s.coordinated = true <;>
      simp [step, coordinate, hs, names, StopSignal.trigger, close, living]
  | drop name => simp [step, names_drop, living, @eq_comm _ name]
  | subscribe name =>
    by_cases hs : s.coordinated = true
    · simp only [step, coordinate, hs, if_true, subscribe, names_note]
      simpa [living, stays, guided, @eq_comm _ name] using
        (List.perm_append_singleton name _).symm
    · simp [step, coordinate, hs]
  | receive name =>
    cases hseen : s.seen? name with
    | none => simp [step, receive_of_not_seen hseen, living]
    | some seen =>
      have hmem : name ∈ s.names := by
        obtain ⟨before, after, hreceivers, -⟩ := List.lookup_eq_some_iff.1 hseen
        simp [names, hreceivers]
      have hperm := (List.perm_cons_erase hmem).symm
      rw [h.erase_eq_filter] at hperm
      simpa [step, receive_of_seen hseen, names_note, living, bne, beq_eq_decide] using hperm

/-- As many receivers are there as have subscribed and stayed, each under its name. -/
theorem perm_living_after (steps : List Step) :
    (({} : StopSignal).after steps).names.Perm (living steps) := by
  induction steps using List.reverseRecOn with
  | nil => exact .refl _
  | append_singleton steps x ih =>
    have hstep := names_step (ih.nodup_iff.2 (nodup_living steps)) x
    rw [after_concat]
    refine hstep.trans ?_
    by_cases h : Step.dropCoordinator ∈ steps
    · have hc : (({} : StopSignal).after steps).coordinated = false := by
        simpa [h] using mt (coordinated_after {} steps).1
      rw [living_concat_of_mem h]
      simpa [hc] using ih.filter _
    · have hc : (({} : StopSignal).after steps).coordinated = true :=
        (coordinated_after _ steps).2 ⟨rfl, h⟩
      rw [living_concat_of_notMem h, hc, if_pos rfl]
      refine List.Perm.append ?_ (.refl _)
      refine (ih.filter _).trans (.of_eq (List.filter_congr fun m _ => ?_))
      rw [Bool.eq_iff_iff, stays_singleton]
      simp

end Receivers

end StopSignal

/-! ## The server's receiver -/

namespace Server

/-- What a step of the server is to the signal. -/
def Step.toSignal? : Step → Option StopSignal.Step
  | .trigger => some .trigger
  | .abandon => some .dropCoordinator
  | .look | .connect .. | .call .. | .finish => none

/-- As long as a server serves, its receiver has been left alone. -/
theorem signal_of_run? {g : Gateway} {credential : Credential} {socket : Text} {harbour : Harbour}
    {steps : List Step} {s : Server} (h : (start g credential socket harbour).run? steps = some s)
    (hserving : s.phase = .serving) :
    s.signal = ({} : StopSignal).after (.subscribe holder :: steps.filterMap Step.toSignal?) := by
  refine run?_invariant (P := fun steps s => s.phase = .serving → s.signal =
    ({} : StopSignal).after (.subscribe holder :: steps.filterMap Step.toSignal?))
    (fun _ => rfl) ?_ h hserving
  intro done s x s' hs hx hserving
  rw [List.filterMap_append, ← List.cons_append, StopSignal.after_append]
  cases hx with
  | trigger | abandon => rw [← hs hserving]; rfl
  | connect | call => exact hs hserving
  | look | finish => cases hserving

/-- A server stops when its receiver finds something. -/
theorem isSome_look_iff (s : Server) : (s.step? .look).isSome = true ↔
    ∃ found, (s.signal.receive holder).1 = some found ∧ found ≠ .pending := by
  rw [Option.isSome_iff_exists]
  simp only [step?_eq_some_iff]
  constructor
  · rintro ⟨t, ht⟩
    cases ht with
    | look hfound hstop => exact ⟨_, hfound, hstop⟩
  · rintro ⟨found, hfound, hstop⟩
    exact ⟨_, .look hfound hstop⟩

end Server

namespace StopSignal

/-- No signal is lost on a receiver, whatever has happened to it, to the signal and to others, and
a server stops when its receiver has one, or can get none any more. -/
structure LosesNoSignal : Prop where
  /-- What the looks find, one after the other, until the next signal is given.  For the first of
  them there is nothing in `more`. -/
  found : ∀ name steps since more, IsCurrent name steps → stays name (since ++ more) = true →
    .receive name ∉ since → triggers (since ++ more) = triggers since →
    finds (steps ++ since ++ more) name =
      some ((offers (triggers since))[more.count (.receive name)]?.getD
        (if .dropCoordinator ∈ since ++ more then .closed else .pending))
  ready : ∀ name steps since, IsCurrent name steps → stays name since = true →
    .receive name ∉ since → ((∃ r, finds (steps ++ since) name = some r ∧ r ≠ .pending) ↔
      0 < triggers since ∨ .dropCoordinator ∈ since)
  counted : ∀ steps, (({} : StopSignal).after steps).receiverCount = (living steps).length
  stops : ∀ (s : Server) steps since, s.signal = ({} : StopSignal).after (steps ++ since) →
    IsCurrent Server.holder steps → stays Server.holder since = true →
    .receive Server.holder ∉ since →
    ((s.step? .look).isSome = true ↔ 0 < triggers since ∨ .dropCoordinator ∈ since)
  /-- Nothing else makes a server stop. -/
  serves : ∀ (s s' : Server) x, s.step? x = some s' → s.phase = .serving →
    (s'.phase ≠ .serving ↔ x = .look)
  /-- What `stops` says of a signal holds of that of a server in service. -/
  watched : ∀ g credential socket harbour steps s,
    (Server.start g credential socket harbour).run? steps = some s → s.phase = .serving →
    s.signal = ({} : StopSignal).after
      (.subscribe Server.holder :: steps.filterMap Server.Step.toSignal?)

/-- The first look of a receiver finds something when there is something to find. -/
theorem exists_finds_iff {name : Text} {steps since : List Step} (h : IsCurrent name steps)
    (hstays : stays name since = true) (hnone : .receive name ∉ since) :
    (∃ r, finds (steps ++ since) name = some r ∧ r ≠ .pending) ↔
      0 < triggers since ∨ .dropCoordinator ∈ since := by
  obtain ⟨hbehind, hcoordinated⟩ := behind_of_isCurrent h
  have hquiet : triggers (since ++ []) = triggers since := by rw [List.append_nil]
  have hfinds := hbehind.finds_after hcoordinated (by simpa using hstays) hnone hquiet
  rw [List.append_nil, Nat.zero_add, ← after_append] at hfinds
  rw [finds, hfinds]
  match triggers since with
  | 0 => by_cases hgone : Step.dropCoordinator ∈ since <;> simp [offers, hgone]
  | 1 | n + 2 => simp [offers]

theorem losesNoSignal : LosesNoSignal where
  found name steps since more h hstays hnone hquiet := by
    obtain ⟨hbehind, hcoordinated⟩ := behind_of_isCurrent h
    have hfinds := hbehind.finds_after hcoordinated hstays hnone hquiet
    rwa [Nat.zero_add, ← after_append, ← List.append_assoc] at hfinds
  ready name steps since h hstays hnone := exists_finds_iff h hstays hnone
  counted steps := by
    rw [← (perm_living_after steps).length_eq, names, List.length_map, receiverCount]
  stops s steps since hsignal h hstays hnone := by
    rw [Server.isSome_look_iff, hsignal]
    exact exists_finds_iff h hstays hnone
  serves s s' x hx hserving := by
    cases Server.step?_eq_some_iff.1 hx with
    | trigger | abandon | connect | call => simp [hserving, Server.put]
    | look => simp [Server.stopListening]
    | finish hdraining => cases hserving.symm.trans hdraining
  watched g credential socket harbour steps s := Server.signal_of_run?

/-- Two signals are given while nobody looks: one is reported lost, the other is found, and then the
receiver waits. -/
example : [[], [.receive "a"], [.receive "a", .receive "a"]].map (fun looks =>
      finds ([.trigger, .subscribe "a", .trigger, .trigger] ++ looks) "a") =
    [some (.lagged 1), some .signal, some .pending] := by decide

end StopSignal

end CredentialGateway
