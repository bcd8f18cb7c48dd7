import Gamebook.Proofs.Play.History

/-!
# Running choices in a session

A session asks the engine for every attempt and records what the engine gives. Running choices
takes what a replay from the same state takes: all of them when the replay succeeds, and
otherwise those before the choice that the replay refuses, for the same reason. A fault of
numbers stops both.
-/

namespace Gamebook.Session

variable {session next last : Session}

/-- An attempt asks the engine and is recorded with what the engine gives. -/
theorem choose_ok_iff (session next : Session) (choiceId : String) (outcome : Outcome) :
    session.choose choiceId = .ok (outcome, next) ↔
      session.project.select session.state choiceId = .ok outcome ∧
        next = session.record choiceId outcome := by
  rw [choose, Except.map_ok_iff]
  constructor
  · rintro ⟨given, selected, same⟩
    obtain ⟨rfl, rfl⟩ := Prod.mk.inj same
    exact ⟨selected, rfl⟩
  · rintro ⟨selected, rfl⟩
    exact ⟨outcome, selected, rfl⟩

/-- A fault of an attempt is one of the engine. -/
theorem choose_error_iff (session : Session) (choiceId : String) (fault : NumberFault) :
    session.choose choiceId = .error fault ↔
      session.project.select session.state choiceId = .error fault := by
  rw [choose, Except.map_error_iff]

/-! ## Running and replaying -/

/-- Running choices takes all of them. -/
def RunsThrough (session : Session) (choiceIds : List String) (last : Session) : Prop :=
  ∃ attempts, session.run choiceIds = (.ok attempts, last) ∧
    attempts.map (·.choiceId) = choiceIds ∧
    ∀ attempt ∈ attempts, attempt.outcome.isAccepted = true

/-- Running choices takes the first of them and stops at the next, which is refused. -/
def StopsAt (session : Session) (choiceIds taken : List String) (choiceId : String)
    (refusal : Refusal) (last : Session) : Prop :=
  taken ++ [choiceId] <+: choiceIds ∧
    ∃ attempts, session.run choiceIds =
        (.ok (attempts ++ [⟨choiceId, .rejected choiceId refusal last.state⟩]), last) ∧
      attempts.map (·.choiceId) = taken ∧
      ∀ attempt ∈ attempts, attempt.outcome.isAccepted = true

section

variable {choiceId : String} {choice : Choice} {state : PlayerState}

/-- A choice that is taken is recorded, and the others are run after it. -/
theorem run_accepted
    (selected : session.project.select session.state choiceId = .ok (.accepted choice state))
    (rest : List String) :
    session.run (choiceId :: rest) =
      (((session.record choiceId (.accepted choice state)).run rest).1.map
          (⟨choiceId, .accepted choice state⟩ :: ·),
        ((session.record choiceId (.accepted choice state)).run rest).2) := by
  have chosen := (choose_ok_iff session _ choiceId _).mpr ⟨selected, rfl⟩
  simp [run, chosen, Outcome.isAccepted]

theorem RunsThrough.cons
    (selected : session.project.select session.state choiceId = .ok (.accepted choice state))
    {rest : List String}
    (through : (session.record choiceId (.accepted choice state)).RunsThrough rest last) :
    session.RunsThrough (choiceId :: rest) last := by
  obtain ⟨attempts, ran, ids, accepted⟩ := through
  refine ⟨⟨choiceId, .accepted choice state⟩ :: attempts, ?_, by simp [ids],
    List.forall_mem_cons.mpr ⟨rfl, accepted⟩⟩
  rw [run_accepted selected, ran]
  rfl

theorem StopsAt.cons
    (selected : session.project.select session.state choiceId = .ok (.accepted choice state))
    {rest taken : List String} {stop : String} {refusal : Refusal}
    (stops : (session.record choiceId (.accepted choice state)).StopsAt rest taken stop refusal
      last) :
    session.StopsAt (choiceId :: rest) (choiceId :: taken) stop refusal last := by
  obtain ⟨⟨behind, front⟩, attempts, ran, ids, accepted⟩ := stops
  refine ⟨⟨behind, by simp [← front]⟩, ⟨choiceId, .accepted choice state⟩ :: attempts, ?_,
    by simp [ids], List.forall_mem_cons.mpr ⟨rfl, accepted⟩⟩
  rw [run_accepted selected, ran]
  rfl

/-- A choice that is refused stops the run. -/
theorem stopsAt_rejected {id : String} {refusal : Refusal} {left : PlayerState}
    (selected : session.project.select session.state choiceId = .ok (.rejected id refusal left))
    (rest : List String) :
    session.StopsAt (choiceId :: rest) [] id refusal
      (session.record choiceId (.rejected id refusal left)) := by
  obtain ⟨_, _, same, _⟩ | ⟨_, same, _⟩ := Project.select_cases selected
  · nomatch same
  · obtain ⟨rfl, rfl, rfl⟩ := Outcome.rejected.inj same
    have chosen := (choose_ok_iff session _ id _).mpr ⟨selected, rfl⟩
    refine ⟨⟨rest, rfl⟩, [], ?_, rfl, nofun⟩
    simp [run, chosen, Outcome.isAccepted, record, Outcome.state]

end

/-- Everything that running choices can come to, and what replaying them from the same state
comes to: both take all, both stop at one choice for one reason, or both meet one fault. -/
theorem run_cases (session : Session) (choiceIds : List String) :
    (∃ last, session.RunsThrough choiceIds last ∧
      session.project.replayFrom session.state choiceIds = .ok last.state) ∨
    (∃ taken choiceId refusal last, session.StopsAt choiceIds taken choiceId refusal last ∧
      session.project.replayFrom session.state taken = .ok last.state ∧
      session.project.replayFrom session.state choiceIds = .error (.rejected choiceId refusal)) ∨
    ∃ fault, (session.run choiceIds).1 = .error fault ∧
      session.project.replayFrom session.state choiceIds = .error (.number fault) := by
  induction choiceIds generalizing session with
  | nil => exact .inl ⟨session, ⟨[], rfl, rfl, nofun⟩, rfl⟩
  | cons choiceId rest inductionHypothesis =>
    cases selected : session.project.select session.state choiceId with
    | error fault =>
      have chosen := (choose_error_iff session choiceId fault).mpr selected
      exact .inr (.inr ⟨fault, by simp [run, chosen], by simp [Project.replayFrom, selected]⟩)
    | ok outcome =>
      cases outcome with
      | rejected id refusal left =>
        obtain rfl := Project.select_rejected_state selected
        exact .inr (.inl ⟨[], id, refusal, _, stopsAt_rejected selected rest, rfl,
          by simp [Project.replayFrom, selected]⟩)
      | accepted choice next =>
        have replays (others : List String) :
            session.project.replayFrom session.state (choiceId :: others) =
              session.project.replayFrom next others := by
          simp [Project.replayFrom, selected]
        rcases inductionHypothesis (session.record choiceId (.accepted choice next)) with
          ⟨last, through, replayed⟩ | ⟨taken, stop, refusal, last, stops, replayed, refused⟩ |
          ⟨fault, ran, broken⟩
        · exact .inl ⟨last, through.cons selected, (replays rest).trans replayed⟩
        · exact .inr (.inl ⟨_, stop, refusal, last, stops.cons selected,
            (replays taken).trans replayed, (replays rest).trans refused⟩)
        · refine .inr (.inr ⟨fault, ?_, (replays rest).trans broken⟩)
          rw [run_accepted selected, ran]
          rfl

/-- Running choices in a session agrees with a replay of them: it takes all of them exactly when
the replay succeeds, with the same state, and it stops exactly where the replay is refused, for
the same reason and in the state that replaying the taken ones gives. -/
structure FollowsReplay (session : Session) (choiceIds : List String)
    (replay : List String → Except PlayFault PlayerState) : Prop where
  through : ∀ state, replay choiceIds = .ok state ↔
    ∃ last, session.RunsThrough choiceIds last ∧ last.state = state
  stops : ∀ choiceId refusal, replay choiceIds = .error (.rejected choiceId refusal) ↔
    ∃ taken last, session.StopsAt choiceIds taken choiceId refusal last
  stopped : ∀ taken choiceId refusal last,
    session.StopsAt choiceIds taken choiceId refusal last → replay taken = .ok last.state
  breaks : ∀ fault, replay choiceIds = .error (.number fault) ↔
    (session.run choiceIds).1 = .error fault

/-- A run of choices takes all of them or stops, and stops at one place only. -/
theorem StopsAt.unique {choiceIds taken others : List String} {choiceId id : String}
    {refusal reason : Refusal} {left : Session}
    (stops : session.StopsAt choiceIds taken choiceId refusal last)
    (other : session.StopsAt choiceIds others id reason left) :
    others = taken ∧ id = choiceId ∧ reason = refusal ∧ left = last := by
  obtain ⟨_, attempts, ran, rfl, _⟩ := stops
  obtain ⟨_, found, ranToo, rfl, _⟩ := other
  obtain ⟨same, rfl⟩ := Prod.mk.inj (ranToo.symm.trans ran)
  obtain ⟨rfl, only⟩ := List.append_singleton_inj.mp (Except.ok.inj same)
  obtain ⟨rfl, outcome⟩ := Attempt.mk.inj only
  exact ⟨rfl, rfl, (Outcome.rejected.inj outcome).2.1, rfl⟩

theorem RunsThrough.unique {choiceIds : List String} {left : Session}
    (through : session.RunsThrough choiceIds last) (other : session.RunsThrough choiceIds left) :
    left = last := by
  obtain ⟨_, ran, _⟩ := through
  obtain ⟨_, ranToo, _⟩ := other
  exact (Prod.mk.inj (ranToo.symm.trans ran)).2

theorem RunsThrough.not_stopsAt {choiceIds taken : List String} {choiceId : String}
    {refusal : Refusal} {left : Session} (through : session.RunsThrough choiceIds last) :
    ¬ session.StopsAt choiceIds taken choiceId refusal left := by
  rintro ⟨_, found, stopped, _⟩
  obtain ⟨attempts, ran, _, accepted⟩ := through
  obtain ⟨same, _⟩ := Prod.mk.inj (stopped.symm.trans ran)
  have last := accepted _ (Except.ok.inj same ▸ List.mem_append_right found List.mem_cons_self)
  simp [Outcome.isAccepted] at last

section FollowsReplay

variable {choiceIds : List String} {replay : List String → Except PlayFault PlayerState}

theorem RunsThrough.followsReplay (through : session.RunsThrough choiceIds last)
    (replayed : replay choiceIds = .ok last.state) : session.FollowsReplay choiceIds replay where
  through := by
    intro state
    rw [replayed]
    constructor
    · intro same
      exact ⟨last, through, Except.ok.inj same⟩
    · rintro ⟨left, other, rfl⟩
      rw [through.unique other]
  stops := by
    intro choiceId refusal
    rw [replayed]
    constructor
    · nofun
    · rintro ⟨_, _, stops⟩
      exact absurd stops through.not_stopsAt
  stopped := fun _ _ _ _ stops => absurd stops through.not_stopsAt
  breaks := by
    obtain ⟨_, ran, _⟩ := through
    simp [replayed, ran]

theorem StopsAt.followsReplay {taken : List String} {choiceId : String} {refusal : Refusal}
    (stops : session.StopsAt choiceIds taken choiceId refusal last)
    (replayed : replay taken = .ok last.state)
    (refused : replay choiceIds = .error (.rejected choiceId refusal)) :
    session.FollowsReplay choiceIds replay where
  through := by
    intro state
    rw [refused]
    constructor
    · nofun
    · rintro ⟨_, through, _⟩
      exact absurd stops through.not_stopsAt
  stops := by
    intro id reason
    rw [refused]
    constructor
    · intro same
      obtain ⟨rfl, rfl⟩ := PlayFault.rejected.inj (Except.error.inj same)
      exact ⟨taken, last, stops⟩
    · rintro ⟨_, _, other⟩
      obtain ⟨_, rfl, rfl, _⟩ := stops.unique other
      rfl
  stopped := by
    intro _ _ _ _ other
    obtain ⟨rfl, _, _, rfl⟩ := stops.unique other
    exact replayed
  breaks := by
    obtain ⟨_, _, ran, _⟩ := stops
    simp [refused, ran]

theorem followsReplay_of_fault {fault : NumberFault}
    (ran : (session.run choiceIds).1 = .error fault)
    (broken : replay choiceIds = .error (.number fault)) :
    session.FollowsReplay choiceIds replay where
  through := by
    intro state
    rw [broken]
    refine iff_of_false nofun ?_
    rintro ⟨_, ⟨_, through, _⟩, _⟩
    simp [through] at ran
  stops := by
    intro choiceId refusal
    rw [broken]
    refine iff_of_false nofun ?_
    rintro ⟨_, _, _, _, stops, _⟩
    simp [stops] at ran
  stopped := by
    rintro _ _ _ _ ⟨_, _, stops, _⟩
    simp [stops] at ran
  breaks := by simp [broken, ran]

/-- Running choices agrees with replaying them from the state of the session. -/
theorem run_followsReplay (session : Session) (choiceIds : List String) :
    session.FollowsReplay choiceIds (session.project.replayFrom session.state) := by
  rcases run_cases session choiceIds with
    ⟨last, through, replayed⟩ | ⟨taken, choiceId, refusal, last, stops, replayed, refused⟩ |
    ⟨fault, ran, broken⟩
  · exact through.followsReplay replayed
  · exact stops.followsReplay replayed refused
  · exact followsReplay_of_fault ran broken

end FollowsReplay

/-- Running choices none of which is taken leaves the state as it was. -/
theorem run_keeps {choiceIds : List String} {attempts : List Attempt}
    (ran : session.run choiceIds = (.ok attempts, next))
    (nothing : ∀ attempt ∈ attempts, attempt.outcome.isAccepted = false) :
    next.state = session.state := by
  have none {taken : List Attempt} (subset : taken ⊆ attempts)
      (accepted : ∀ attempt ∈ taken, attempt.outcome.isAccepted = true) : taken = [] := by
    refine List.eq_nil_iff_forall_not_mem.mpr fun attempt member => ?_
    simpa [accepted attempt member] using nothing attempt (subset member)
  rcases run_cases session choiceIds with
    ⟨last, ⟨found, through, ids, accepted⟩, replayed⟩ |
    ⟨_, choiceId, refusal, last, ⟨_, found, stops, rfl, accepted⟩, replayed, _⟩ | ⟨fault, broken, _⟩
  · obtain ⟨same, rfl⟩ := Prod.mk.inj (through.symm.trans ran)
    obtain rfl := Except.ok.inj same
    obtain rfl := none (List.Subset.refl _) accepted
    obtain rfl : [] = choiceIds := ids
    exact (Except.ok.inj replayed).symm
  · obtain ⟨same, rfl⟩ := Prod.mk.inj (stops.symm.trans ran)
    obtain rfl := Except.ok.inj same
    obtain rfl := none (List.subset_append_left _ _) accepted
    exact (Except.ok.inj replayed).symm
  · rw [ran] at broken
    nomatch broken

end Gamebook.Session
