import Gamebook.Proofs.Generation.AllOrNothing
import Gamebook.Proofs.Json.Text
import Mathlib.Algebra.Group.Nat.Defs

/-!
# New ids do not run out

A scene is given new ids until no scene of the project has its id, as often as there are given
texts and scenes and once more. That is enough: behind the given texts the source counts, the
numbers it gives out have different texts as long as twelve hexadecimal digits last, and a project
has one id less than are tried. So a generated scene is never refused for its id, and generation
fails with the provider or, for characters and items, with an id in use.
-/

namespace Gamebook

/-! ## Counted texts -/

theorem digitChar_injective {m n : Nat} (left : m < 16) (right : n < 16)
    (same : Nat.digitChar m = Nat.digitChar n) : m = n := by
  have read := Json.hexValue?_digitChar left
  rw [same, Json.hexValue?_digitChar right] at read
  exact (Option.some.inj read).symm

namespace Text

/-- The last digits of two numbers are the same when the numbers are, but for higher digits. -/
theorem mod_eq_of_hexDigits {width m n : Nat} (same : hexDigits width m = hexDigits width n) :
    m % 16 ^ width = n % 16 ^ width := by
  induction width generalizing m n with
  | zero => rw [Nat.pow_zero, Nat.mod_one, Nat.mod_one]
  | succ width inductionHypothesis =>
    unfold hexDigits at same
    obtain ⟨front, last⟩ := List.append_inj' same rfl
    have high := inductionHypothesis front
    have low := digitChar_injective (Nat.mod_lt m (by decide)) (Nat.mod_lt n (by decide))
      (List.singleton_inj.mp last)
    rw [Nat.pow_succ', Nat.mod_mul, Nat.mod_mul, high, low]

theorem length_hexDigits (width n : Nat) : (hexDigits width n).length = width := by
  induction width generalizing n with
  | zero => rfl
  | succ width inductionHypothesis =>
    unfold hexDigits
    rw [List.length_append, inductionHypothesis, List.length_singleton]

end Text

namespace IdSource

/-- The text of a number that the source has counted. -/
def counted (n : Nat) : String := String.ofList (Text.hexDigits 12 n)

/-- The id that a text gives a scene whose id is in use. -/
def renamed (hex : String) : String := "scene_" ++ String.ofList (hex.toList.take 12)

/-- Behind the given texts a source gives out consecutive numbers. -/
theorem Draws.texts {source final : IdSource} {hexes : List String}
    (draws : source.Draws hexes final) :
    hexes = source.given.take hexes.length ++
      (List.range' source.counter (hexes.length - source.given.length)).map counted := by
  induction draws with
  | done source => simp
  | @next source hexes final later inductionHypothesis =>
    obtain ⟨given, counter⟩ := source
    cases given with
    | nil =>
      simp only [IdSource.next, List.take_nil, List.nil_append, List.length_nil, Nat.sub_zero]
        at inductionHypothesis ⊢
      rw [List.length_cons, List.range'_succ, List.map_cons]
      exact congrArg (counted counter :: ·) inductionHypothesis
    | cons hex rest =>
      simp only [IdSource.next] at inductionHypothesis ⊢
      rw [List.length_cons, List.length_cons, List.take_succ_cons, Nat.add_sub_add_right,
        List.cons_append]
      exact congrArg (hex :: ·) inductionHypothesis

theorem renamed_counted_injective {m n : Nat} (same : renamed (counted m) = renamed (counted n)) :
    m % 16 ^ 12 = n % 16 ^ 12 := by
  have digits (n : Nat) :
      (renamed (counted n)).toList = "scene_".toList ++ Text.hexDigits 12 n := by
    have all : (Text.hexDigits 12 n).take 12 = Text.hexDigits 12 n :=
      List.take_of_length_le (Text.length_hexDigits 12 n).le
    simp only [renamed, counted, String.toList_append, String.toList_ofList, all]
  have texts := congrArg String.toList same
  rw [digits, digits] at texts
  exact Text.mod_eq_of_hexDigits (List.append_cancel_left texts)

/-- Counted numbers give scenes different ids as long as the digits last. -/
theorem nodup_counted (start : Nat) {count : Nat} (few : count ≤ 16 ^ 12) :
    ((List.range' start count).map fun n => renamed (counted n)).Nodup := by
  refine List.Nodup.map_on (fun m left n right same => ?_) List.nodup_range'
  have residues := renamed_counted_injective same
  rw [List.mem_range'_1] at left right
  omega

end IdSource

namespace Generation

variable {project : Project}

/-- A scene with an id that no scene has keeps it. -/
theorem freshScene_of_fresh {scene : Scene} (fresh : (project.scene? scene.id).isSome = false)
    (ids : IdSource) (tries : Nat) : freshScene project scene ids tries = (scene, ids) := by
  cases tries with
  | zero => rfl
  | succ tries => rw [freshScene, fresh, if_neg Bool.false_ne_true]

/-- When even the last id that is tried is in use, so many texts were drawn for ids in use. -/
theorem freshScene_known {scene : Scene} {ids : IdSource} {tries : Nat}
    (known : (project.scene? (freshScene project scene ids tries).1.id).isSome = true) :
    ∃ hexes final, ids.Draws hexes final ∧ hexes.length = tries ∧
      ∀ hex ∈ hexes, IdSource.renamed hex ∈ project.sceneIds := by
  induction tries generalizing scene ids with
  | zero => exact ⟨[], ids, .done ids, rfl, List.forall_mem_nil _⟩
  | succ tries inductionHypothesis =>
    cases used : (project.scene? scene.id).isSome with
    | false =>
      rw [freshScene_of_fresh used] at known
      rw [used] at known
      nomatch known
    | true =>
      rw [freshScene, used, if_pos rfl] at known
      change (project.scene? (freshScene project { scene with id := IdSource.renamed ids.next.1 }
        ids.next.2 tries).1.id).isSome = true at known
      obtain ⟨hexes, final, draws, count, all⟩ := inductionHypothesis known
      refine ⟨ids.next.1 :: hexes, final, .next ids draws, congrArg (· + 1) count, ?_⟩
      refine List.forall_mem_cons.mpr ⟨?_, all⟩
      refine (project.scene?_isSome_iff _).mp ?_
      by_contra fresh
      have free : (project.scene? (IdSource.renamed ids.next.1)).isSome = false :=
        Bool.eq_false_iff.mpr fresh
      rw [freshScene_of_fresh free] at known
      exact fresh known

/-- A scene that is about to be added has an id that no scene has, unless there are more scenes
than twelve hexadecimal digits can tell apart. -/
theorem freshScene_fresh (few : project.scenes.length < 16 ^ 12) (scene : Scene)
    (ids : IdSource) :
    (project.scene? (freshScene project scene ids
      (ids.given.length + project.scenes.length + 1)).1.id).isSome = false := by
  by_contra known
  obtain ⟨hexes, final, draws, count, all⟩ :=
    freshScene_known (eq_true_of_ne_false known)
  have behind : hexes.length - ids.given.length = project.scenes.length + 1 := by omega
  have texts := draws.texts
  rw [behind] at texts
  have distinct := IdSource.nodup_counted ids.counter (Nat.succ_le_of_lt few)
  have within : ((List.range' ids.counter (project.scenes.length + 1)).map fun n =>
      IdSource.renamed (IdSource.counted n)) ⊆ project.sceneIds := by
    intro id among
    obtain ⟨n, counted, rfl⟩ := List.mem_map.mp among
    refine all _ ?_
    rw [texts]
    exact List.mem_append_right _ (List.mem_map_of_mem counted)
  have tooMany := (List.subperm_of_subset distinct within).length_le
  rw [List.length_map, List.length_range', Project.sceneIds, List.length_map] at tooMany
  omega

/-! ## Why nothing is generated -/

variable {σ : Type} {generator : Generator} {provider : Provider σ} {kind : ContentKind}
  {description : String} {desk : Desk σ}

/-- Why generation fails: the attempts of the provider have failed, or a character or an item has
the generated id already. -/
inductive Fails (generator : Generator) (provider : Provider σ) (desk : Desk σ)
    (description : String) : ContentKind → GenerationFault → Prop
  | provider {kind : ContentKind} {failure : Failure}
    (failed : (complete generator provider (contentPrompt kind description) desk.state).result =
      .error failure) : Fails generator provider desk description kind (.failure failure)
  | character {id : String} (used : id ∈ desk.project.characters.map (·.id)) :
    Fails generator provider desk description .character (.edit (.duplicate .character id))
  | item {id : String} (used : id ∈ desk.project.items.map (·.id)) :
    Fails generator provider desk description .item (.edit (.duplicate .item id))

theorem generate_error {ids : IdSource} {fault : GenerationFault}
    (failed : (generate generator provider kind description ids desk.state).result = .error fault) :
    Fails generator provider desk description kind fault := by
  unfold generate at failed
  dsimp only at failed
  split at failed
  next failure made =>
    obtain rfl := Except.error.inj failed
    exact .provider made
  next => nomatch failed

theorem addContent_error (few : desk.project.scenes.length < 16 ^ 12) {now : Moment}
    {content : Content} {ids : IdSource} {refusal : EditError}
    (refused : (addContent desk.project now content ids).1 = .error refusal) :
    Fails generator provider desk description content.entity.kind (.edit refusal) := by
  unfold addContent at refused
  cases entity : content.entity with
  | scene scene =>
    have fresh := freshScene_fresh few scene ids
    rw [entity] at refused
    simp only [Project.addScene, fresh, Bool.false_eq_true, if_false, Except.map] at refused
    cases refused
  | character character =>
    rw [entity] at refused
    by_cases used : desk.project.characters.any (·.id == character.id) = true
    · simp only [Project.addCharacter, used, if_true, Except.map] at refused
      obtain rfl := Except.error.inj refused
      exact .character ((any_id_iff _ _).mp used)
    · simp only [Project.addCharacter, used, Except.map] at refused
      cases refused
  | item item =>
    rw [entity] at refused
    by_cases used : desk.project.items.any (·.id == item.id) = true
    · simp only [Project.addItem, used, if_true, Except.map] at refused
      obtain rfl := Except.error.inj refused
      exact .item ((any_id_iff _ _).mp used)
    · simp only [Project.addItem, used, Except.map] at refused
      cases refused

/-- Generation fails with the provider, or with an id in use, which is never that of a scene. -/
theorem generateAt_error (few : desk.project.scenes.length < 16 ^ 12) {now : Moment}
    {fault : GenerationFault} {after : Desk σ}
    (failed : (generateAt generator provider now kind description).run desk = .error fault after) :
    Fails generator provider desk description kind fault := by
  rw [run_generateAt] at failed
  unfold generateInto at failed
  dsimp only at failed
  cases asked : (generate generator provider kind description desk.ids desk.state).result with
  | error cause =>
    simp only [asked] at failed
    obtain ⟨rfl, -⟩ := EStateM.Result.error.inj failed
    exact generate_error asked
  | ok content =>
    simp only [asked] at failed
    cases added : (addContent desk.project now content
        (generate generator provider kind description desk.ids desk.state).ids).1 with
    | ok pair =>
      rw [added] at failed
      nomatch failed
    | error refusal =>
      rw [added] at failed
      obtain ⟨rfl, -⟩ := EStateM.Result.error.inj failed
      rw [← generate_kind asked]
      exact addContent_error few added

end Generation

end Gamebook
