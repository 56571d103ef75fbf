import PhasedInstall.Manifest.Source
import PhasedInstall.Proofs.Cluster.Work
import PhasedInstall.Proofs.Manifest.Heading

/-!
# What manifests can hold

No object in a loaded manifest has a key twice, and every document has a kind. Mappings are read
entry by entry into a table, and writing a key that is present replaces its value, so the reader of
nodes can only build such values (`Yaml.Node.yields_value`); what has no kind is not accepted as a
document; and everything after that carries documents along. So what is loaded from a source is
`Declared`, and a bundle keeps that with its groups.

The reader is a program with a budget that may also get stuck. `Yields` is about the values that it
comes to, whatever the budget is.
-/

set_option autoImplicit false

namespace PhasedInstall

namespace Yaml

namespace Scalar

theorem float?_keysDistinct {text : String} {v : Json} (read : float? text = some v) :
    v.keysDistinct := by
  unfold float? at read
  dsimp only at read
  split at read
  · cases read
  · split at read
    · cases read
      rfl
    · obtain ⟨x, -, rfl⟩ := Option.map_eq_some_iff.1 read
      rfl

theorem plain?_keysDistinct {text : String} {v : Json} (read : plain? text = some v) :
    v.keysDistinct := by
  unfold plain? at read
  split at read
  · cases read
    rfl
  · split at read
    · cases read
      rfl
    · split at read
      · cases read
        rfl
      · cases read
      · split at read
        · cases read
          rfl
        · cases number : float? text with
          | none =>
            rw [number] at read
            cases read
            rfl
          | some w =>
            rw [number] at read
            cases read
            exact float?_keysDistinct number

theorem value?_keysDistinct {tag : Option String} {text : String} {isPlain : Bool} {v : Json}
    (read : value? tag text isPlain = some v) : v.keysDistinct := by
  unfold value? at read
  split at read
  · split at read
    · exact plain?_keysDistinct read
    · cases read
      rfl
  · split at read
    · cases read
    · split at read
      · obtain ⟨b, -, rfl⟩ := Option.map_eq_some_iff.1 read
        rfl
      · split at read
        · split at read
          · cases read
            rfl
          · cases read
        · split at read
          · exact float?_keysDistinct read
          · split at read
            · split at read
              · cases read
                rfl
              · cases read
            · cases read
              rfl

end Scalar

namespace Node

variable {α β : Type} {P : α → Prop} {Q : β → Prop}

/-- Every value that the reader comes to satisfies `P`. -/
def Yields (P : α → Prop) (x : Follow α) : Prop := ∀ n a n', x.run n = some (a, n') → P a

theorem yields_pure {a : α} (h : P a) : Yields P (pure a : Follow α) := by
  intro n b n' run
  cases run
  exact h

theorem yields_stuck : Yields P (stuck : Follow α) := by
  intro n a n' run
  cases run

theorem yields_any (x : Follow α) : Yields (fun _ => True) x := fun _ _ _ _ => trivial

theorem Yields.bind {x : Follow α} {f : α → Follow β} (hx : Yields P x)
    (hf : ∀ a, P a → Yields Q (f a)) : Yields Q (x >>= f) := by
  intro n b n' run
  rw [StateT.run_bind] at run
  obtain ⟨⟨a, n₁⟩, first, second⟩ := Option.bind_eq_some_iff.1 run
  exact hf a (hx n a n₁ first) n₁ b n' second

theorem yields_lift {x : Option α} (h : ∀ a, x = some a → P a) :
    Yields P (StateT.lift x : Follow α) := by
  intro n a n' run
  obtain ⟨b, found, same⟩ := Option.bind_eq_some_iff.1 run
  cases same
  exact h a found

theorem Yields.map {x : Follow α} {f : α → β} (hx : Yields P x) (hf : ∀ a, P a → Q (f a)) :
    Yields Q (f <$> x) := by
  rw [map_eq_pure_bind]
  exact hx.bind fun a ha => yields_pure (hf a ha)

theorem Yields.mapM {f : α → Follow β} {items : List α} (h : ∀ item, Yields Q (f item)) :
    Yields (fun vs => ∀ v ∈ vs, Q v) (items.mapM f) := by
  induction items with
  | nil => exact yields_pure fun _ mem => by cases mem
  | cons item rest ih =>
    rw [List.mapM_cons]
    exact (h item).bind fun v hv => ih.bind fun vs hvs =>
      yields_pure (List.forall_mem_cons.2 ⟨hv, hvs⟩)

theorem Yields.foldlM {f : β → α → Follow β} {items : List α} {acc : β} (start : Q acc)
    (step : ∀ acc item, Q acc → Yields Q (f acc item)) : Yields Q (items.foldlM f acc) := by
  induction items generalizing acc with
  | nil => exact yields_pure start
  | cons item rest ih =>
    rw [List.foldlM_cons]
    exact (step acc item start).bind fun _ next => ih next

/-- Members that may stand in an object without repeated keys. -/
def Distinct (members : Members) : Prop :=
  (Table.keys members).Nodup ∧ ∀ entry ∈ members, entry.2.keysDistinct

theorem Distinct.put {members : Members} (h : Distinct members) {key : String} {v : Json}
    (hv : v.keysDistinct) : Distinct (Table.put key v members) := by
  refine ⟨Table.nodup_keys_put h.1 key v, fun entry mem => ?_⟩
  rcases Table.mem_put mem with rfl | old
  · exact hv
  · exact h.2 entry old

/-- **A node is never read as a value in which a key occurs twice.** -/
theorem yields_value (anchored : List (Nat × Node)) (levels : Nat) (node : Node) :
    Yields (fun v => v.keysDistinct = true) (node.value anchored levels) := by
  induction levels generalizing node with
  | zero =>
    unfold value
    refine (yields_any _).bind fun resolved _ => ?_
    cases resolved with
    | scalar tag text plain => exact yields_lift fun v => Scalar.value?_keysDistinct
    | reference number => exact yields_stuck
    | sequence tag items => exact yields_stuck
    | mapping tag entries => exact yields_stuck
  | succ levels ih =>
    unfold value
    refine (yields_any _).bind fun resolved _ => ?_
    cases resolved with
    | scalar tag text plain => exact yields_lift fun v => Scalar.value?_keysDistinct
    | reference number => exact yields_stuck
    | sequence tag items =>
      dsimp only
      split
      · exact yields_stuck
      · exact (Yields.mapM ih).map fun vs hvs => Json.keysDistinct_arr_iff.2 hvs
    | mapping tag entries =>
      dsimp only
      split
      · exact yields_stuck
      · refine Yields.bind (P := Distinct) ?_ fun members distinct => ?_
        · refine Yields.foldlM ⟨List.nodup_nil, fun _ mem => by cases mem⟩ ?_
          rintro members ⟨key, node⟩ distinct
          exact (yields_any _).bind fun name _ => (ih node).bind fun v hv =>
            yields_pure (distinct.put hv)
        · exact yields_pure (Json.keysDistinct_obj_iff.2 distinct)

end Node

theorem Document.value?_keysDistinct {d : Document} {v : Json} (read : d.value? = some v) :
    v.keysDistinct := by
  obtain ⟨⟨w, left⟩, run, rfl⟩ := Option.map_eq_some_iff.1 read
  exact Node.yields_value _ _ _ _ _ _ run

theorem mem_values {text : String} {v : Json} (mem : v ∈ (values text).1) : v.keysDistinct := by
  have collected (readings : List Reading) :
      ∀ v ∈ (values.collect readings).1, v.keysDistinct := by
    induction readings with
    | nil =>
      intro v mem
      cases mem
    | cons reading rest ih =>
      cases reading with
      | broken =>
        intro v mem
        cases mem
      | document d =>
        rw [values.collect]
        cases read : d.value? with
        | none =>
          intro v mem
          cases mem
        | some w => exact List.forall_mem_cons.2 ⟨Document.value?_keysDistinct read, ih⟩
  exact collected _ v mem

end Yaml

/-- No document has a key twice. -/
def Manifest.Distinct (m : Manifest) : Prop := ∀ d ∈ m.documents, d.value.keysDistinct = true

namespace Manifest

theorem Declared.distinct {m : Manifest} (h : m.Declared) : m.Distinct :=
  fun d mem => (h d mem).distinct

theorem declared_append {m m' : Manifest} (h : m.Declared) (h' : m'.Declared) :
    (m ++ m').Declared := by
  intro d mem
  rcases List.mem_append.1 mem with mem | mem
  · exact h d mem
  · exact h' d mem

theorem declared_documentsOf {values : List Json} {ds : List Document}
    (read : documentsOf values = .ok ds) (h : ∀ v ∈ values, v.keysDistinct) :
    (Manifest.mk ds).Declared := by
  induction values generalizing ds with
  | nil =>
    cases read
    exact fun d mem => by cases mem
  | cons v rest ih =>
    obtain ⟨first, others⟩ := List.forall_mem_cons.1 h
    cases v with
    | null => exact ih read others
    | _ =>
      obtain ⟨d, accepted, read⟩ := bind_eq_ok read
      obtain ⟨ds', readRest, read⟩ := bind_eq_ok read
      cases read
      have kind := Document.kind_of_ofJson accepted
      obtain ⟨rfl, -⟩ := Document.ofJson_eq_ok accepted
      exact List.forall_mem_cons.2 ⟨⟨kind, first⟩, ih readRest others⟩

theorem declared_parse {w : Wording} {text : String} {m : Manifest} (read : parse w text = .ok m) :
    m.Declared := by
  obtain ⟨ds, documents, read⟩ := bind_eq_ok read
  split at read
  · cases read
    exact declared_documentsOf documents fun _ => Yaml.mem_values
  · cases read

end Manifest

namespace Source

theorem declared_parseAt {w : Wording} {place text : String} {m : Manifest}
    (read : parseAt w place text = .ok m) : m.Declared := by
  unfold parseAt at read
  split at read
  · rename_i parsed
    cases read
    exact Manifest.declared_parse parsed
  · cases read

theorem declared_empty : Manifest.empty.Declared := fun _ mem => by cases mem

theorem declared_loadFiles {w : Wording} {files : List (Path × ByteArray)} {m : Manifest}
    (read : loadFiles w files = .ok m) : m.Declared := by
  induction files generalizing m with
  | nil =>
    cases read
    exact declared_empty
  | cons file rest ih =>
    obtain ⟨path, bytes⟩ := file
    unfold loadFiles at read
    cases decoded : FileTree.textOf bytes with
    | error cause =>
      rw [decoded] at read
      cases read
    | ok _ =>
      rw [decoded] at read
      obtain ⟨text, -, read⟩ := bind_eq_ok read
      obtain ⟨m₁, parsed, read⟩ := bind_eq_ok read
      obtain ⟨m₂, loaded, read⟩ := bind_eq_ok read
      cases read
      exact Manifest.declared_append (declared_parseAt parsed) (ih loaded)

theorem declared_loadLocations {around : Surroundings} {locations : List String}
    {m : Manifest} (read : loadLocations around locations = .ok m) : m.Declared := by
  induction locations generalizing m with
  | nil =>
    cases read
    exact declared_empty
  | cons location rest ih =>
    obtain ⟨text, -, read⟩ := bind_eq_ok read
    obtain ⟨m₁, parsed, read⟩ := bind_eq_ok read
    obtain ⟨m₂, loaded, read⟩ := bind_eq_ok read
    cases read
    exact Manifest.declared_append (declared_parseAt parsed) (ih loaded)

theorem declared_load {around : Surroundings} {source : Source} {m : Manifest}
    (read : source.load around = .ok m) : m.Declared := by
  cases source with
  | filesAt path recursive =>
    obtain ⟨files, -, read⟩ := bind_eq_ok read
    exact declared_loadFiles read
  | listed locations => exact declared_loadLocations read

end Source

end PhasedInstall
