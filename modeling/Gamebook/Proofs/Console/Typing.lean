import Gamebook.Proofs.Console
import Gamebook.Proofs.Play.Magnitude

/-!
# What may be typed on a console

A line means something by its word alone: to leave, to start again, a number, or nothing. A
playthrough of a valid story is what the lines mean, one after the other, up to the first that
leaves or the end of the story. Numbers in the story are not in the way as long as they stay small:
what the store holds at first and what the consequences can add while the lines last stay below the
numbers that cannot be written. One thing breaks a playthrough off: a line that is read, looks like
a number and cannot be read as one, in that a raised or circled digit stands in it or there are too
many digits. The session is then the one that the lines before it made. What is shown is left open.
-/

namespace Gamebook.Console

/-! ## Lines -/

/-- The word of a line: blanks around it and the case of its letters do not matter. -/
def word (line : String) : String := Text.lower (Text.trim line)

/-- The number that a line spells when its word is a row of decimal digits, of whatever script. -/
def spelled? (line : String) : Option Nat :=
  if word line ≠ "" && (word line).toList.all Text.isDigit then
    some (Numeral.spelled (word line).toList)
  else none

/-- What a line asks for. -/
def meaning (line : String) : Request :=
  if leavingWords.contains (word line) then .leave
  else if word line = "restart" then .restart
  else
    match spelled? line with
    | some number => .choice number
    | none => .unclear

/-- The word of a line looks like a number. -/
structure LooksNumeric (line : String) : Prop where
  filled : word line ≠ ""
  digits : ∀ c ∈ (word line).toList, Text.looksLikeDigit c = true

/-- A row of decimal digits can be read as a number. -/
structure Readable (line : String) : Prop where
  digits : ∀ c ∈ (word line).toList, Text.isDigit c = true
  few : (word line).toList.length ≤ digitLimit

/-- A line looks like a number and cannot be read as one. -/
structure Garbled (line : String) : Prop where
  looks : LooksNumeric line
  unread : ¬Readable line

variable {line : String}

theorem spelled?_eq_some_iff (line : String) (number : Nat) :
    spelled? line = some number ↔ word line ≠ "" ∧
      (∀ c ∈ (word line).toList, Text.isDigit c = true) ∧
      Numeral.spelled (word line).toList = number := by
  simp [spelled?, and_assoc]

/-- Decimal digits look like digits. -/
theorem looksNumeric_of_spelled {number : Nat} (spells : spelled? line = some number) :
    LooksNumeric line := by
  obtain ⟨filled, digits, _⟩ := (spelled?_eq_some_iff line number).mp spells
  exact ⟨filled, fun c member => Text.looksLikeDigit_of_isDigit (digits c member)⟩

/-- What looks like a number is no word that is spoken. -/
theorem LooksNumeric.not_spoken (looks : LooksNumeric line) :
    leavingWords.contains (word line) = false ∧ word line ≠ "restart" := by
  have spoken : ∀ text ∈ leavingWords ++ ["restart"],
      text.toList.all Text.looksLikeDigit = false := by decide
  have other : word line ∉ leavingWords ++ ["restart"] := fun listed =>
    Bool.false_ne_true ((spoken _ listed).symm.trans (List.all_eq_true.mpr looks.digits))
  simpa using other

/-- Everything that a line can be: it is garbled and gives a fault, or it is understood. -/
theorem readAnswer_cases (line : String) :
    (Garbled line ∧ ∃ fault, readAnswer line = .error fault) ∨
      (¬Garbled line ∧ readAnswer line = .ok (meaning line)) := by
  have asked : readAnswer line = if leavingWords.contains (word line) then .ok .leave
      else if word line = "restart" then .ok .restart
      else if (word line).isEmpty || !(word line).toList.all Text.looksLikeDigit then .ok .unclear
      else (Numeral.read (word line)).map .choice := rfl
  by_cases looks : LooksNumeric line
  · obtain ⟨stays, goesOn⟩ := looks.not_spoken
    have read_iff := Numeral.read_row_iff (by simpa using looks.filled) looks.digits
    simp only [asked, meaning, stays, goesOn, Bool.false_eq_true, if_false,
      String.isEmpty_eq_false_iff.mpr looks.filled, List.all_eq_true.mpr looks.digits,
      Bool.not_true, Bool.or_self]
    by_cases readable : Readable line
    · refine .inr ⟨fun garbled => garbled.unread readable, ?_⟩
      rw [(read_iff _).mpr ⟨readable.digits, readable.few, rfl⟩,
        (spelled?_eq_some_iff line _).mpr ⟨looks.filled, readable.digits, rfl⟩]
      rfl
    · refine .inl ⟨⟨looks, readable⟩, ?_⟩
      cases result : Numeral.read (word line) with
      | error fault => exact ⟨fault, rfl⟩
      | ok number =>
        obtain ⟨digits, few, _⟩ := (read_iff number).mp result
        exact absurd ⟨digits, few⟩ readable
  · refine .inr ⟨fun garbled => looks garbled.looks, ?_⟩
    have noRow : ((word line).isEmpty || !(word line).toList.all Text.looksLikeDigit) = true := by
      by_contra row
      simp only [Bool.not_eq_true, Bool.or_eq_false_iff, Bool.not_eq_false',
        String.isEmpty_eq_false_iff, List.all_eq_true] at row
      exact looks ⟨row.1, row.2⟩
    have unspelled : spelled? line = none := by
      cases spells : spelled? line with
      | none => rfl
      | some number => exact absurd (looksNumeric_of_spelled spells) looks
    simp only [asked, meaning, noRow, unspelled, if_true]
    split
    · rfl
    · split <;> rfl

/-- A number that was understood can be written again. -/
theorem isWritable_of_meaning (clear : ¬Garbled line) {number : Int}
    (asked : meaning line = .choice number) : Numeral.isWritable number = true := by
  unfold meaning at asked
  split at asked
  · nomatch asked
  · split at asked
    · nomatch asked
    · split at asked
      next size spells =>
        obtain rfl := Request.choice.inj asked
        have readable : Readable line := by
          by_contra unread
          exact clear ⟨looksNumeric_of_spelled spells, unread⟩
        obtain ⟨_, _, rfl⟩ := (spelled?_eq_some_iff line size).mp spells
        exact Numeral.isWritable_spelled readable.few
      next => nomatch asked

/-! ## What lines do to a session -/

/-- The session after a line. -/
def obey (session : Session) (line : String) : Except Fault Session :=
  match meaning line with
  | .leave | .unclear => .ok session
  | .restart => session.restart.mapError .noStart
  | .choice number => ((session.chooseNumber number).map (·.2)).mapError .number

/-- The session after some lines: they are obeyed up to the first that leaves or the end of the
story. -/
def obeyAll (session : Session) : List String → Except Fault Session
  | [] => .ok session
  | line :: rest =>
    if session.isEnded || meaning line = .leave then .ok session
    else
      match obey session line with
      | .error fault => .error fault
      | .ok next => obeyAll next rest

/-- Of some lines a garbled one is read, in a session that the lines before it lead to. -/
inductive TripsOver : Session → List String → Session → Prop
  | here {session : Session} {line : String} (goesOn : session.isEnded = false)
      (garbled : Garbled line) (rest : List String) : TripsOver session (line :: rest) session
  | later {session next last : Session} {line : String} {rest : List String}
      (goesOn : session.isEnded = false) (stays : meaning line ≠ .leave)
      (obeyed : obey session line = .ok next) (trips : TripsOver next rest last) :
      TripsOver session (line :: rest) last

/-- Counts that can be written are listed. -/
theorem inventoryLines_ok {items : List (String × Int)}
    (writable : ∀ item ∈ items, Numeral.isWritable item.2 = true) :
    ∃ lines, inventoryLines items = .ok lines := by
  unfold inventoryLines
  split
  · exact ⟨_, rfl⟩
  · have shown : ∀ item ∈ items, ∃ text,
        ((Numeral.write item.2).map fun digits => item.1 ++ " x" ++ digits) = .ok text ∧ True := by
      intro item member
      exact ⟨_, by rw [Numeral.write, if_pos (writable item member)]; rfl, trivial⟩
    obtain ⟨texts, all, _⟩ := exists_mapM_ok shown
    exact ⟨_, by rw [all]; rfl⟩

section Small

variable {session : Session} {weight bound : Nat}
  (weighs : session.project.WeighsAtMost weight)

include weighs

/-- A scene is shown as long as the numbers in the store can be written. -/
theorem sceneLines_ok (within : session.state.store.Within bound)
    (small : bound < Numeral.unwritable) : (sceneLines session).2 = .ok () := by
  obtain ⟨entries, displayed⟩ := Project.display_ok weighs within small
  obtain ⟨items, listed, sizes⟩ := PlayerState.inventory_within within
  obtain ⟨lines, written⟩ := inventoryLines_ok fun item member =>
    (Numeral.isWritable_iff item.2).mpr ((sizes item member).trans_lt small)
  unfold sceneLines
  split
  · rfl
  · split
    · rfl
    · simp only [Session.choices, displayed, listed, Except.bind, written]

/-- A number that can be written is answered, and what the store holds grows by no more than the
weight of a choice. -/
theorem chooseNumber_within (within : session.state.store.Within bound)
    (small : bound < Numeral.unwritable) {number : Int}
    (writable : Numeral.isWritable number = true) :
    ∃ outcome next, session.chooseNumber number = .ok (outcome, next) ∧
      next.state.store.Within (bound + weight) := by
  unfold Session.chooseNumber
  split
  next choice _ =>
    obtain ⟨outcome, selected, size⟩ := Project.select_within weighs within small choice.id
    exact ⟨outcome, _, (Session.choose_ok_iff _ _ _ _).mpr ⟨selected, rfl⟩, size⟩
  next =>
    rw [Numeral.write, if_pos writable]
    exact ⟨_, session, rfl, within.mono (Nat.le_add_right _ _)⟩

/-- A line that is understood and does not leave is obeyed, and the console goes on with the session
that this gives. -/
theorem exists_obeyed (starts : session.project.startScene?.isSome = true)
    (within : session.state.store.Within bound) (small : bound + weight < Numeral.unwritable)
    (clear : ¬Garbled line) (stays : meaning line ≠ .leave) :
    ∃ next, obey session line = .ok next ∧ Leads session line next ∧
      next.state.store.Within (bound + weight) := by
  rcases readAnswer_cases line with ⟨garbled, _⟩ | ⟨_, answered⟩
  · exact absurd garbled clear
  unfold obey
  cases asked : meaning line with
  | leave => exact absurd asked stays
  | unclear =>
    exact ⟨session, rfl, .unclear (asked ▸ answered), within.mono (Nat.le_add_right _ _)⟩
  | restart =>
    obtain ⟨start, begun⟩ := (Project.startScene?_isSome_iff session.project).mp starts
    have restarted := (Session.restart_ok_iff session _).mpr ⟨start, begun, rfl⟩
    obtain ⟨scene, _, rfl⟩ := (Project.reset_ok_iff session.project start).mp begun
    have nothing (size : Nat) : Store.Within ⟨[], []⟩ size := fun _ member => nomatch member
    refine ⟨_, by rw [restarted]; rfl, .again (asked ▸ answered) restarted ?_, nothing _⟩
    exact sceneLines_ok weighs (nothing (bound + weight)) small
  | choice number =>
    obtain ⟨outcome, next, chosen, size⟩ := chooseNumber_within weighs within
      (Nat.lt_of_le_of_lt (Nat.le_add_right _ _) small) (isWritable_of_meaning clear asked)
    refine ⟨next, by simp only [chosen]; rfl, ?_, size⟩
    cases outcome with
    | rejected choiceId refusal left => exact .refused (asked ▸ answered) chosen
    | accepted choice state =>
      refine .taken (asked ▸ answered) chosen ?_
      exact sceneLines_ok (chooseNumber_project chosen ▸ weighs) size small

end Small

/-! ## A whole playthrough -/

/-- What a playthrough is worth beside the lines that were typed: it breaks off exactly where a
garbled line is read, and is otherwise what the lines mean. -/
inductive Obeys (session : Session) (lines : List String) (result : Except Fault Unit × Console) :
    Prop
  | breaksOff {last : Session} {fault : NumberFault} (trips : TripsOver session lines last)
      (broken : result.1 = .error (.number fault)) (kept : result.2.session = last)
  | survives (clear : ∀ last, ¬TripsOver session lines last) (ended : result.1 = .ok ())
      (obeyed : obeyAll session lines = .ok result.2.session)

/-- While the lines last, the store has room: each of them takes up one weight of it. -/
theorem play_obeys {console : Console} {weight bound : Nat} (lines : List String)
    (starts : console.session.project.startScene?.isSome = true)
    (weighs : console.session.project.WeighsAtMost weight)
    (within : console.session.state.store.Within bound)
    (room : bound + lines.length * weight < Numeral.unwritable) :
    Obeys console.session lines (console.play lines) := by
  induction lines generalizing console bound with
  | nil =>
    refine .survives (fun last trips => by cases trips) rfl ?_
    simp only [obeyAll, play]
    split <;> rfl
  | cons line rest inductionHypothesis =>
    rw [List.length_cons, Nat.succ_mul] at room
    cases goesOn : console.session.isEnded with
    | true =>
      refine .survives ?_ ?_ ?_
      · rintro last (⟨active, _⟩ | ⟨active, _⟩) <;> cases goesOn.symm.trans active
      · simp only [play, goesOn, if_true]
      · simp only [obeyAll, play, goesOn, Bool.true_or, if_true]
    | false =>
      rcases readAnswer_cases line with ⟨garbled, fault, unread⟩ | ⟨clear, answered⟩
      · rw [play_of_unread goesOn unread rest]
        exact .breaksOff (.here goesOn garbled rest) rfl rfl
      by_cases stays : meaning line = .leave
      · rw [play_of_leave goesOn (stays ▸ answered) rest]
        refine .survives ?_ rfl ?_
        · rintro last (⟨_, garbled, _⟩ | ⟨_, goesOnToo, _⟩)
          · exact clear garbled
          · exact goesOnToo stays
        · simp only [obeyAll, stays, decide_true, Bool.or_true, if_true]
          rfl
      · obtain ⟨next, obeyed, leads, size⟩ :=
          exists_obeyed weighs starts within (by omega) clear stays
        obtain ⟨later, rfl, same⟩ := play_of_leads goesOn leads rest
        rw [same]
        cases inductionHypothesis (leads.project ▸ starts) (leads.project ▸ weighs) size
          (by omega) with
        | breaksOff trips broken kept =>
          exact .breaksOff (.later goesOn stays obeyed trips) broken kept
        | survives clearLater ended obeyedLater =>
          refine .survives ?_ ended ?_
          · rintro last (⟨_, garbled, _⟩ | ⟨_, _, obeyedToo, trips⟩)
            · exact clear garbled
            · obtain rfl := Except.ok.inj (obeyed.symm.trans obeyedToo)
              exact clearLater last trips
          · simpa only [obeyAll, goesOn, stays, decide_false, Bool.or_self, Bool.false_eq_true,
              if_false, obeyed] using obeyedLater

/-- A playthrough of a valid story with small whole numbers is what the lines mean, unless a garbled
line is read: there, and only there, it breaks off. -/
theorem run_obeys (session : Session)
    (valid : (Validation.report session.project).isValid = true) {weight bound : Nat}
    (weighs : session.project.WeighsAtMost weight) (within : session.state.store.Within bound)
    (lines : List String) (room : bound + lines.length * weight < Numeral.unwritable) :
    Obeys session lines (run session lines) := by
  have structured := (Validation.isValid_iff session.project).mp valid
  have starts : session.project.startScene?.isSome = true :=
    Option.isSome_iff_exists.mpr (Project.startScene?_of_structured structured)
  have shown := sceneLines_ok weighs within
    (Nat.lt_of_le_of_lt (Nat.le_add_right bound (lines.length * weight)) room)
  obtain ⟨console, rfl, opened⟩ := opening_eq session
  have played : run console.session lines = console.play lines := by
    rw [run, opened, shown]
    rfl
  rw [played]
  exact play_obeys lines starts weighs within room

/-! ## With the lamp -/

/-- A session at the start of the story of the lamp. -/
def lampSession : Session := { id := "night", project := lampStory, state := { sceneId := "hall" } }

theorem lampStory_weighs : lampStory.WeighsAtMost 4 where
  conditions := by
    have one : Numeral.isWritable 1 = true := Numeral.isWritable_of_lt (by decide)
    simp [lampStory, Scalar.Quotable, one]
  whole := by simp [lampStory, Scalar.Within, Scalar.size, Scalar.asNumber]
  consequences := by decide

/-- The lamp is taken, the story begun again, the lamp taken by a wide digit, and the player climbs
down and leaves; the garbled line behind is not read. -/
theorem run_obeys_lamp :
    let lines := ["1", "look", " Restart ", "１", "2", "QUIT", "²"]
    (Validation.report lampSession.project).isValid = true ∧
      lampSession.project.WeighsAtMost 4 ∧ lampSession.state.store.Within 0 ∧
      0 + lines.length * 4 < Numeral.unwritable ∧
      Obeys lampSession lines (run lampSession lines) ∧
      (obeyAll lampSession lines).map (·.state.history) = .ok ["take", "down"] := by
  intro lines
  have valid : (Validation.report lampSession.project).isValid = true :=
    (Validation.isValid_iff lampStory).mpr Validation.lampStory_structured
  have within : lampSession.state.store.Within 0 := fun _ member => nomatch member
  have room : 0 + lines.length * 4 < Numeral.unwritable :=
    (Numeral.isWritable_iff 28).mp (Numeral.isWritable_of_lt (by decide))
  exact ⟨valid, lampStory_weighs, within, room,
    run_obeys lampSession valid lampStory_weighs within lines room, by decide +kernel⟩

/-- A raised digit breaks a playthrough of a valid story with small whole numbers off. -/
theorem raised_digit_breaks_off :
    (Validation.report lampSession.project).isValid = true ∧
      lampSession.project.WeighsAtMost 4 ∧ lampSession.state.store.Within 0 ∧
      ∃ fault, (run lampSession ["²"]).1 = .error fault := by
  have within : lampSession.state.store.Within 0 := fun _ member => nomatch member
  have room : 0 < Numeral.unwritable :=
    (Numeral.isWritable_iff 0).mp (Numeral.isWritable_of_lt (by decide))
  have unread : readAnswer "²" = .error (.notNumeral "²") := by decide +kernel
  refine ⟨(Validation.isValid_iff lampStory).mpr Validation.lampStory_structured, lampStory_weighs,
    within, _, BreaksOff.run_eq (.answer ?_ (.stops rfl (.answer unread) []))⟩
  exact sceneLines_ok lampStory_weighs within room

end Gamebook.Console
