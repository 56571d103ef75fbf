import Mathlib.Data.List.Induction
import PhasedInstall.Install.Component

/-!
# What the variables of an environment override

A variable is for a key if its name is the prefix of a subsystem and then a spelling of the key.
`LastFor` and `Unset` say what an environment has for a key without the table that is made of it,
and `get?_ofVariables` says that the table has just that. So the overrides of a subsystem are
decided by the variables with its prefix (`ofVariables_congr`).

The key of a name is the name in its normal spelling, behind the mark of its name space
(`key_eq`). The empty name is the one that is spelled with nothing.
-/

set_option autoImplicit false

namespace PhasedInstall.ImageOverrides

/-- A name in lower case, with underscores for dashes. -/
def normal (name : String) : String := underscored (Text.lowercase name)

/-- The name of a variable is a prefix and then a spelling of a key. -/
def Spells (leader wanted name : String) : Prop :=
  ∃ spelling, name = leader ++ spelling ∧ normal spelling = wanted

/-- No variable is for the key. -/
def Unset (leader wanted : String) (environment : Environment) : Prop :=
  ∀ entry ∈ environment, ¬ Spells leader wanted entry.1

/-- The last variable for the key has this image. -/
def LastFor (leader wanted : String) (environment : Environment) (image : String) : Prop :=
  ∃ before name after, environment = before ++ (name, image) :: after ∧
    Spells leader wanted name ∧ Unset leader wanted after

variable {leader wanted name image : String} {environment environment' : Environment}

/-! ## Keys -/

theorem underscored_append (s t : String) :
    underscored (s ++ t) = underscored s ++ underscored t := by
  rw [underscored, String.toList_append, List.map_append, String.ofList_append]
  rfl

theorem key_eq (mark name : String) : key mark name = underscored mark ++ normal name :=
  underscored_append mark _

theorem key_empty (name : String) : key "" name = normal name := by
  rw [key_eq]
  exact String.empty_append

theorem lowerChars_ne_nil (before : List Char) (c : Char) (rest : List Char) :
    Text.lowerChars before (c :: rest) ≠ [] := by
  rw [Text.lowerChars]
  split
  · simp
  · split
    · simp
    · simp

/-- Only the empty name goes by the empty key. -/
theorem normal_eq_empty : normal name = "" ↔ name = "" := by
  constructor
  · intro same
    have letters : Text.lowerChars [] name.toList = [] := by
      have texts := congrArg String.toList same
      simpa [normal, underscored, Text.lowercase] using texts
    cases spelled : name.toList with
    | nil => exact String.toList_inj.1 spelled
    | cons c rest =>
      -- Lowering a character leaves at least one.
      rw [spelled] at letters
      exact absurd letters (lowerChars_ne_nil [] c rest)
  · rintro rfl
    rfl

/-- The name that is the prefix and nothing more spells the empty key. -/
theorem spells_empty : Spells leader "" name ↔ name = leader := by
  constructor
  · rintro ⟨spelling, rfl, blank⟩
    rw [normal_eq_empty.1 blank]
    exact String.append_empty
  · rintro rfl
    exact ⟨"", String.append_empty.symm, rfl⟩

/-! ## The table of a subsystem -/

theorem remainder?_eq_some {front cs rest : List Char} :
    remainder? front cs = some rest ↔ cs = front ++ rest := by
  induction front generalizing cs with
  | nil => simp [remainder?]
  | cons x xs ih =>
    cases cs with
    | nil => simp [remainder?]
    | cons c cs =>
      rw [remainder?]
      split
      · rename_i same
        subst same
        simp [ih]
      · rename_i other
        simp [Ne.symm other]

theorem ofVariables_append_singleton (leader name image : String) (environment : Environment) :
    ofVariables leader (environment ++ [(name, image)]) =
      match remainder? leader.toList name.toList with
      | some rest => Table.put (key "" (String.ofList rest)) image (ofVariables leader environment)
      | none => ofVariables leader environment := by
  rw [ofVariables, List.foldl_append]
  rfl

/-- A variable for a key has the last word on it. -/
theorem get?_ofVariables_of_spells (spells : Spells leader wanted name) (image : String)
    (environment : Environment) :
    Table.get? wanted (ofVariables leader (environment ++ [(name, image)])) = some image := by
  obtain ⟨spelling, rfl, rfl⟩ := spells
  rw [ofVariables_append_singleton, remainder?_eq_some.2 String.toList_append]
  dsimp only
  rw [String.ofList_toList, key_empty]
  exact Table.get?_put_self _ _ _

/-- A variable for another key, or of another subsystem, has nothing to say about it. -/
theorem get?_ofVariables_of_not_spells (other : ¬ Spells leader wanted name) (image : String)
    (environment : Environment) :
    Table.get? wanted (ofVariables leader (environment ++ [(name, image)])) =
      Table.get? wanted (ofVariables leader environment) := by
  rw [ofVariables_append_singleton]
  cases named : remainder? leader.toList name.toList with
  | none => rfl
  | some rest =>
    refine Table.get?_put_of_ne (fun same => other ⟨String.ofList rest, ?_, ?_⟩) _ _
    · rw [← String.toList_inj, String.toList_append, String.toList_ofList]
      exact remainder?_eq_some.1 named
    · rw [← key_empty, same]

theorem unset_append_singleton :
    Unset leader wanted (environment ++ [(name, image)]) ↔
      Unset leader wanted environment ∧ ¬ Spells leader wanted name := by
  simp [Unset, or_imp, forall_and]

/-- The last variable is the one that is looked at, or it comes after that. -/
theorem append_singleton_eq {before after : Environment} {entry own : String × String}
    (same : environment ++ [entry] = before ++ own :: after) :
    environment = before ∧ entry = own ∧ after = [] ∨
      ∃ front, environment = before ++ own :: front ∧ after = front ++ [entry] := by
  rcases List.eq_nil_or_concat after with rfl | ⟨front, last, rfl⟩
  · obtain ⟨rfl, here⟩ := List.append_inj' same rfl
    exact Or.inl ⟨rfl, List.singleton_inj.1 here, rfl⟩
  · rw [List.concat_eq_append, ← List.cons_append, ← List.append_assoc] at same
    obtain ⟨rfl, here⟩ := List.append_inj' same rfl
    exact Or.inr ⟨front, rfl, by rw [List.concat_eq_append, here]⟩

theorem lastFor_of_spells (spells : Spells leader wanted name) {found : String} :
    LastFor leader wanted (environment ++ [(name, image)]) found ↔ image = found := by
  constructor
  · rintro ⟨before, other, after, same, -, unset⟩
    rcases append_singleton_eq same with ⟨-, entry, -⟩ | ⟨front, -, rfl⟩
    · cases entry
      rfl
    · exact absurd spells (unset (name, image) (by simp))
  · rintro rfl
    exact ⟨environment, name, [], rfl, spells, List.forall_mem_nil _⟩

theorem lastFor_of_not_spells (other : ¬ Spells leader wanted name) {found : String} :
    LastFor leader wanted (environment ++ [(name, image)]) found ↔
      LastFor leader wanted environment found := by
  constructor
  · rintro ⟨before, own, after, same, spells, unset⟩
    rcases append_singleton_eq same with ⟨-, entry, -⟩ | ⟨front, rfl, rfl⟩
    · cases entry
      exact absurd spells other
    · exact ⟨before, own, front, rfl, spells, (unset_append_singleton.1 unset).1⟩
  · rintro ⟨before, own, after, rfl, spells, unset⟩
    refine ⟨before, own, after ++ [(name, image)], by simp, spells, ?_⟩
    exact unset_append_singleton.2 ⟨unset, other⟩

/-- **The table of a subsystem** has for every key the image of the last variable for it. -/
theorem get?_ofVariables (leader wanted : String) (environment : Environment) :
    (∀ image, Table.get? wanted (ofVariables leader environment) = some image ↔
      LastFor leader wanted environment image) ∧
    (Table.get? wanted (ofVariables leader environment) = none ↔
      Unset leader wanted environment) := by
  -- A later variable has the last word, so the induction takes variables off the end.
  induction environment using List.reverseRecOn with
  | nil => simp [ofVariables, LastFor, Unset]
  | append_singleton before entry ih =>
    obtain ⟨name, image⟩ := entry
    by_cases spells : Spells leader wanted name
    · rw [get?_ofVariables_of_spells spells, unset_append_singleton]
      exact ⟨fun found => by rw [lastFor_of_spells spells, Option.some.injEq],
        iff_of_false nofun fun unset => unset.2 spells⟩
    · rw [get?_ofVariables_of_not_spells spells, unset_append_singleton]
      exact ⟨fun found => by rw [lastFor_of_not_spells spells, ih.1],
        by rw [ih.2, and_iff_left spells]⟩

/-- The empty name has an image exactly if a variable's name is the prefix and nothing more. -/
theorem get?_empty_ofVariables (leader : String) (environment : Environment) :
    (Table.get? (key "" "") (ofVariables leader environment)).isSome ↔
      ∃ image, (leader, image) ∈ environment := by
  have table := (get?_ofVariables leader "" environment).2
  constructor
  · intro found
    by_contra none
    have unset : Unset leader "" environment := fun entry mem spells =>
      none ⟨entry.2, spells_empty.1 spells ▸ mem⟩
    rw [show key "" "" = "" from rfl, table.2 unset] at found
    cases found
  · rintro ⟨image, mem⟩
    rw [Option.isSome_iff_ne_none]
    exact fun missing => table.1 missing _ mem (spells_empty.2 rfl)

/-! ## Environments that agree -/

/-- A variable belongs to the subsystem with a prefix. -/
def Begins (leader : String) (entry : String × String) : Bool :=
  leader.toList.isPrefixOf entry.1.toList

/-- Two environments have the same variables of a subsystem, in the same order. -/
def AgreeOn (leader : String) (environment environment' : Environment) : Prop :=
  environment.filter (Begins leader) = environment'.filter (Begins leader)

theorem ofVariables_filter (leader : String) (environment : Environment) :
    ofVariables leader (environment.filter (Begins leader)) = ofVariables leader environment := by
  rw [ofVariables, List.foldl_filter, ofVariables]
  congr 1
  funext images ⟨name, image⟩
  split
  · rfl
  · rename_i foreign
    dsimp only
    cases named : remainder? leader.toList name.toList with
    | none => rfl
    | some rest =>
      refine absurd (List.isPrefixOf_iff_prefix.2 ⟨rest, ?_⟩) foreign
      exact (remainder?_eq_some.1 named).symm

/-- **Only the variables of a subsystem count for it.** -/
theorem ofVariables_congr (agree : AgreeOn leader environment environment') :
    ofVariables leader environment = ofVariables leader environment' := by
  rw [← ofVariables_filter, agree, ofVariables_filter]

end PhasedInstall.ImageOverrides

namespace PhasedInstall.Phase

/-- The changes of a phase depend on the variables of its subsystem only. -/
theorem transformers_congr {phase : Phase} {environment environment' : Environment}
    (agree : ImageOverrides.AgreeOn phase.imageLeader environment environment') :
    phase.transformers environment = phase.transformers environment' := by
  unfold transformers
  rw [ImageOverrides.ofVariables_congr agree]

end PhasedInstall.Phase
