import Gamebook.Proofs.Provider.Failure

/-!
# What a registration changes

A registration adds a rule for one registrant after the other, up to the first that is no class of
failures; there it is refused, and the rules that were added stay. Rules that were there before go
on deciding what they decided. Every other class gets the new category when it counts as one of the
classes that were added, and is left to the standard category when it does not. So a refused
registration is without effect exactly when no class was added that mattered: each of them was
decided by an earlier rule, or the new category is the standard one.
-/

namespace Gamebook.Classifier

/-- What comes of some registrants: the classes that get a rule, and whether they are refused. -/
inductive Registers : List Registrant → List FailureClass → Except RegistrationFault Unit → Prop
  | nothing : Registers [] [] (.error .nothing)
  | all {classes : List FailureClass} (some : classes ≠ []) :
    Registers (classes.map .failure) classes (.ok ())
  | before (classes : List FailureClass) (name : String) (later : List Registrant) :
    Registers (classes.map .failure ++ .other name :: later) classes (.error (.notFailure name))

/-- Some rule of a classifier has a class that the given one counts as. -/
def Covers (classifier : Classifier) (cls : FailureClass) : Prop :=
  ∃ rule ∈ classifier.rules, cls.CountsAs rule.1

/-- The category of a class once rules for some classes stand behind those of a classifier. -/
inductive Gives (classifier : Classifier) (category : FailureCategory)
    (classes : List FailureClass) (cls : FailureClass) : FailureCategory → Prop
  | kept (covered : classifier.Covers cls) :
    Gives classifier category classes cls (classifier.classify cls)
  | added (fresh : ¬classifier.Covers cls) {above : FailureClass} (among : above ∈ classes)
    (counts : cls.CountsAs above) : Gives classifier category classes cls category
  | standard (fresh : ¬classifier.Covers cls) (none : ∀ above ∈ classes, ¬cls.CountsAs above) :
    Gives classifier category classes cls classifier.standard

variable (classifier : Classifier) (category : FailureCategory)

/-- A classifier with further rules that give one category to some classes. -/
def extended (classes : List FailureClass) : Classifier :=
  { classifier with rules := classifier.rules ++ classes.map fun cls => (cls, category) }

/-! ## Rules that are added -/

theorem registerEach_failures (classes : List FailureClass) (rest : List Registrant) :
    classifier.registerEach category (classes.map .failure ++ rest) =
      (classifier.extended category classes).registerEach category rest := by
  induction classes generalizing classifier with
  | nil => simp [extended]
  | cons cls classes inductionHypothesis =>
    rw [List.map_cons, List.cons_append, registerEach, inductionHypothesis]
    simp [extended]

/-- Registrants begin with classes, and nothing follows them or something that is no class. -/
theorem exists_classes (registrants : List Registrant) :
    ∃ classes : List FailureClass, registrants = classes.map .failure ∨
      ∃ name later, registrants = classes.map .failure ++ .other name :: later := by
  induction registrants with
  | nil => exact ⟨[], .inl rfl⟩
  | cons first others inductionHypothesis =>
    cases first with
    | other name => exact ⟨[], .inr ⟨name, others, rfl⟩⟩
    | failure cls =>
      obtain ⟨classes, rfl | ⟨name, later, rfl⟩⟩ := inductionHypothesis
      · exact ⟨cls :: classes, .inl rfl⟩
      · exact ⟨cls :: classes, .inr ⟨name, later, rfl⟩⟩

/-- A registration adds rules for the classes at the front, whether it is refused or not. -/
theorem register_registers (registrants : List Registrant) :
    ∃ classes, Registers registrants classes (classifier.register category registrants).2 ∧
      (classifier.register category registrants).1 = classifier.extended category classes := by
  obtain ⟨classes, rfl | ⟨name, later, rfl⟩⟩ := exists_classes registrants
  · cases classes with
    | nil => exact ⟨[], .nothing, by simp [register, extended]⟩
    | cons cls classes =>
      have added := registerEach_failures classifier category (cls :: classes) []
      rw [List.append_nil, registerEach] at added
      have made : classifier.register category ((cls :: classes).map .failure) = _ := added
      rw [made]
      exact ⟨_, .all (List.cons_ne_nil _ _), rfl⟩
  · have made : classifier.register category (classes.map .failure ++ .other name :: later) =
        (classifier.extended category classes, .error (.notFailure name)) := by
      rw [register, if_neg (by simp), registerEach_failures, registerEach]
    rw [made]
    exact ⟨classes, .before classes name later, rfl⟩

/-! ## What the added rules decide -/

variable {classifier category} {classes : List FailureClass} {cls : FailureClass}

theorem classify_of_not_covers (fresh : ¬classifier.Covers cls) :
    classifier.classify cls = classifier.standard :=
  (Decides.standard fun rule member counts => fresh ⟨rule, member, counts⟩).eq_classify

/-- What an earlier rule decides stays decided. -/
theorem classify_extended_of_covers (covered : classifier.Covers cls) :
    (classifier.extended category classes).classify cls = classifier.classify cls := by
  obtain ⟨rule, member, counts⟩ := covered
  have decides := classifier.decides_classify cls
  generalize classifier.classify cls = decided at decides
  cases decides with
  | @rule before after above _ among covers first =>
    have still : (classifier.extended category classes).rules =
        before ++ (above, decided) :: (after ++ classes.map fun cls => (cls, category)) := by
      rw [extended, among, List.append_assoc, List.cons_append]
    exact (Decides.rule still covers first).eq_classify
  | standard none => exact absurd counts (none rule member)

/-- Earlier rules go first, then the added ones, and the standard category is left. -/
theorem gives_extended :
    classifier.Gives category classes cls
      ((classifier.extended category classes).classify cls) := by
  by_cases covered : classifier.Covers cls
  · rw [classify_extended_of_covers covered]
    exact .kept covered
  have decides := (classifier.extended category classes).decides_classify cls
  generalize (classifier.extended category classes).classify cls = decided at decides
  cases decides with
  | @rule before after above _ among covers first =>
    have member : (above, decided) ∈ (classifier.extended category classes).rules :=
      among ▸ List.mem_append_right _ List.mem_cons_self
    rcases List.mem_append.mp member with old | new
    · exact absurd ⟨_, old, covers⟩ covered
    · obtain ⟨_, isClass, same⟩ := List.mem_map.mp new
      obtain ⟨rfl, rfl⟩ := Prod.mk.inj same
      exact .added covered isClass covers
  | standard none =>
    refine .standard covered fun above isClass => none (above, category) ?_
    exact List.mem_append_right _ (List.mem_map_of_mem isClass)

/-- Added rules are without effect exactly when they give the standard category or each of their
classes was decided before. -/
theorem classify_extended_iff :
    (∀ cls, (classifier.extended category classes).classify cls = classifier.classify cls) ↔
      category = classifier.standard ∨ ∀ above ∈ classes, classifier.Covers above := by
  constructor
  · intro unchanged
    by_cases same : category = classifier.standard
    · exact .inl same
    refine .inr fun above isClass => ?_
    -- an added class that was not decided before is one whose category changes
    refine Classical.byContradiction fun fresh => ?_
    have gives : classifier.Gives category classes above (classifier.classify above) :=
      unchanged above ▸ gives_extended
    rw [classify_of_not_covers fresh] at gives
    generalize known : classifier.standard = decided at gives
    cases gives with
    | kept covered => exact fresh covered
    | added => exact same known.symm
    | standard _ none => exact none above isClass .refl
  · intro harmless cls
    have gives : classifier.Gives category classes cls _ := gives_extended
    generalize (classifier.extended category classes).classify cls = decided at gives ⊢
    cases gives with
    | kept => rfl
    | standard fresh => exact (classify_of_not_covers fresh).symm
    | @added fresh above isClass counts =>
      rcases harmless with rfl | covered
      · exact (classify_of_not_covers fresh).symm
      · obtain ⟨rule, member, leads⟩ := covered above isClass
        exact absurd ⟨rule, member, counts.trans leads⟩ fresh

/-- A registration gives rules to the classes at the front of the registrants and is refused when
something else stands there or nothing does. Refused or not, it leaves what earlier rules decide,
gives the new category to every other class that counts as an added one, and leaves the rest to
the standard category. It changes nothing exactly when the new category is the standard one or
each added class was decided before. -/
theorem registration_exact (classifier : Classifier) (category : FailureCategory)
    (registrants : List Registrant) :
    ∃ classes, Registers registrants classes (classifier.register category registrants).2 ∧
      (∀ cls, classifier.Gives category classes cls
        ((classifier.register category registrants).1.classify cls)) ∧
      ((∀ cls, (classifier.register category registrants).1.classify cls =
          classifier.classify cls) ↔
        category = classifier.standard ∨ ∀ above ∈ classes, classifier.Covers above) := by
  obtain ⟨classes, registers, made⟩ := register_registers classifier category registrants
  rw [made]
  exact ⟨classes, registers, fun _ => gives_extended, classify_extended_iff⟩

/-- A registration that is refused for its second registrant has changed what the first means. -/
theorem refused_registration_counts :
    (({} : Classifier).register .transient [.failure .badValue, .other "int"]).2 =
        .error (.notFailure "int") ∧
      (({} : Classifier).register .transient [.failure .badValue, .other "int"]).1.classify
          .badValue ≠ ({} : Classifier).classify .badValue :=
  ⟨rfl, by decide⟩

end Gamebook.Classifier
