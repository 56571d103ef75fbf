import Mathlib.Data.List.Forall2
import PhasedInstall.Install.Encoding
import PhasedInstall.Proofs.Json.Texts

/-!
# What is stored reads back

The stored status is the only memory of an operator that starts anew, so what it reads has to be
what was written. Writing knows one form of a record, while reading takes several. The forms that
are read are given here as relations between values and records, apart from the functions that read
them: a record may be an object with any further fields, or an array; an optional field may be
absent or null; a code may be a text or an object. `Lossless` says that exactly these forms are
read, and that nothing gets lost on the way through the one that is written, as a value and as a
text.
-/

set_option autoImplicit false

namespace PhasedInstall

namespace Json

variable {α : Type} {Form : Json → α → Prop} {read? : Json → Option α} {write : α → Json}

/-- A text. -/
inductive TextForm : Json → String → Prop
  | text (s : String) : TextForm (.str s) s

/-- An array of items of one form. -/
inductive ListForm (Form : Json → α → Prop) : Json → List α → Prop
  | items {items : List Json} {as : List α} : List.Forall₂ Form items as →
    ListForm Form (.arr items) as

/-- What may stand in an optional field. Absent and null are the same. -/
inductive OptionForm (Form : Json → α → Prop) : Option Json → Option α → Prop
  | absent : OptionForm Form none none
  | null : OptionForm Form (some .null) none
  | given {v : Json} {a : α} : v.isNull = false → Form v a → OptionForm Form (some v) (some a)

/-- A reader takes exactly the values of a form. -/
def Accepts (read? : Json → Option α) (Form : Json → α → Prop) : Prop :=
  ∀ v a, read? v = some a ↔ Form v a

/-- Records are stored without loss. -/
structure Lossless (Form : Json → α → Prop) (read? : Json → Option α) (write : α → Json) :
    Prop where
  /-- The values of the form are read, and no others. -/
  accepts : Accepts read? Form
  /-- What was written is read again. -/
  restores : ∀ a, read? (write a) = some a
  /-- Whatever form a record was read from, writing it in the one form keeps it. -/
  settles : ∀ v a, read? v = some a → read? (write a) = some a
  /-- The same is true of the text that is sent and received. -/
  endures : ∀ a, (parse? (compact (write a))).bind read? = some a

theorem lossless_of_restores {room : Nat} (accepts : Accepts read? Form)
    (restores : ∀ a, read? (write a) = some a) (plain : ∀ a, (write a).Plain room)
    (shallow : room ≤ Reading.depthLimit) : Lossless Form read? write where
  accepts := accepts
  restores := restores
  settles _ a _ := restores a
  endures a := by
    rw [parse?_compact ((plain a).mono shallow)]
    exact restores a

/-! ## Fields -/

theorem accepts_str : Accepts str? TextForm := by
  intro v s
  constructor
  · intro read
    cases v with
    | str t =>
      cases read
      exact .text s
    | _ => cases read
  · rintro ⟨⟩
    rfl

theorem mapM_eq_some_iff {items : List Json} {as : List α} :
    items.mapM read? = some as ↔ List.Forall₂ (fun v a => read? v = some a) items as := by
  induction items generalizing as with
  | nil => simp [eq_comm]
  | cons item rest ih =>
    rw [List.mapM_cons]
    simp only [bind, Option.bind_eq_some_iff, ih, List.forall₂_cons_left_iff]
    constructor
    · rintro ⟨a, here, others, there, same⟩
      cases same
      exact ⟨a, others, here, there, rfl⟩
    · rintro ⟨a, others, here, there, rfl⟩
      exact ⟨a, here, others, there, rfl⟩

theorem Accepts.list (accepts : Accepts read? Form) : Accepts (list? read?) (ListForm Form) := by
  intro v as
  constructor
  · intro read
    cases v with
    | arr items => exact .items ((mapM_eq_some_iff.1 read).imp fun v a => (accepts v a).1)
    | _ => cases read
  · rintro ⟨related⟩
    exact mapM_eq_some_iff.2 (related.imp fun v a => (accepts v a).2)

theorem Accepts.nullable (accepts : Accepts read? Form) {v : Json} {a : Option α} :
    nullable? read? v = some a ↔ OptionForm Form (some v) a := by
  constructor
  · intro read
    cases v with
    | null =>
      cases read
      exact .null
    | _ =>
      obtain ⟨b, given, rfl⟩ := Option.map_eq_some_iff.1 read
      exact .given rfl ((accepts _ b).1 given)
  · intro form
    cases form with
    | null => rfl
    | @given _ b given form =>
      have read := (accepts v b).2 form
      cases v with
      | null => cases given
      | _ => exact Option.map_eq_some_iff.2 ⟨b, read, rfl⟩

theorem Accepts.optional (accepts : Accepts read? Form) {key : String} {members : Members}
    {a : Option α} :
    Members.optional? read? key members = some a ↔ OptionForm Form (Table.get? key members) a := by
  unfold Members.optional?
  cases Table.get? key members with
  | none =>
    constructor
    · rintro ⟨⟩
      exact .absent
    · rintro ⟨⟩
      rfl
  | some v =>
    have nullable := accepts.nullable (v := v) (a := a)
    cases v <;> exact nullable

theorem Accepts.required (accepts : Accepts read? Form) {key : String} {members : Members}
    {a : α} :
    Members.required? read? key members = some a ↔
      ∃ v, Table.get? key members = some v ∧ Form v a := by
  unfold Members.required?
  rw [Option.bind_eq_some_iff]
  exact exists_congr fun v => and_congr_right fun _ => accepts v a

theorem optionForm_ofOption (written : ∀ a, (write a).isNull = false ∧ Form (write a) a)
    (a : Option α) : OptionForm Form (some (ofOption write a)) a := by
  cases a with
  | none => exact .null
  | some a => exact .given (written a).1 (written a).2

theorem optionForm_text (s : Option String) : OptionForm TextForm (some (ofOption .str s)) s :=
  optionForm_ofOption (fun s => ⟨rfl, .text s⟩) s

theorem plain_ofOption {room : Nat} (plain : ∀ a, (write a).Plain room) (a : Option α) :
    (ofOption write a).Plain room := by
  cases a with
  | none => exact .null room
  | some a => exact plain a

end Json

open Json

/-! ## Codes -/

namespace StatusCode

/-- A code as a text, or as an object with that text as its only key. -/
inductive Form : Json → StatusCode → Prop
  | text (c : StatusCode) : Form (.str c.wire) c
  | object (c : StatusCode) : Form (.obj [(c.wire, .null)]) c

/-- The names that are stored are those that texts are compared with. -/
theorem tag_eq_wire (c : StatusCode) : c.tag = c.wire := by
  cases c with
  | empty => rfl
  | failed phase => cases phase <;> rfl
  | passed phase => cases phase <;> rfl
  | invalidResource => rfl

theorem ofTag?_tag (c : StatusCode) : ofTag? c.tag = some c := by
  cases c with
  | empty => rfl
  | failed phase => cases phase <;> rfl
  | passed phase => cases phase <;> rfl
  | invalidResource => rfl

theorem ofTag?_eq_some_iff {s : String} {c : StatusCode} : ofTag? s = some c ↔ c.tag = s := by
  constructor
  · intro read
    unfold ofTag? at read
    split at read <;> cases read <;> rfl
  · rintro rfl
    exact ofTag?_tag c

theorem ofWire?_eq_some_iff {s : String} {c : StatusCode} : ofWire? s = some c ↔ c.wire = s := by
  constructor
  · intro read
    unfold ofWire? at read
    have same := List.find?_some read
    exact of_decide_eq_true same
  · rintro rfl
    exact ofWire?_wire c

theorem accepts : Accepts ofJson? Form := by
  intro v c
  constructor
  · intro read
    unfold ofJson? at read
    split at read
    · rw [ofTag?_eq_some_iff, tag_eq_wire] at read
      subst read
      exact .text c
    · rw [ofTag?_eq_some_iff, tag_eq_wire] at read
      subst read
      exact .object c
    · cases read
  · intro form
    cases form with
    | text => exact ofTag?_eq_some_iff.2 (tag_eq_wire c)
    | object => exact ofTag?_eq_some_iff.2 (tag_eq_wire c)

theorem restores (c : StatusCode) : ofJson? c.toJson = some c := ofTag?_tag c

end StatusCode

/-! ## Records -/

namespace Condition

/-- The fields of a condition hold what it says. -/
structure Given (code details version pipeline triggers : Option Json) (c : Condition) : Prop where
  code : ∃ v, code = some v ∧ StatusCode.Form v c.code
  details : OptionForm TextForm details c.details
  version : ∃ v, version = some v ∧ TextForm v c.version
  pipelineVersion : OptionForm TextForm pipeline c.pipelineVersion
  triggersVersion : OptionForm TextForm triggers c.triggersVersion

/-- A condition as an object, which may have other fields too, or as an array. -/
inductive Form : Json → Condition → Prop
  | object {m : Members} {c : Condition} :
    Given (Table.get? "code" m) (Table.get? "details" m) (Table.get? "version" m)
      (Table.get? "pipelineVersion" m) (Table.get? "triggersVersion" m) c → Form (.obj m) c
  | array {code details version pipeline triggers : Json} {c : Condition} :
    Given (some code) (some details) (some version) (some pipeline) (some triggers) c →
    Form (.arr [code, details, version, pipeline, triggers]) c

theorem ofJson?_obj_iff {m : Members} {c : Condition} : ofJson? (.obj m) = some c ↔
    Given (Table.get? "code" m) (Table.get? "details" m) (Table.get? "version" m)
      (Table.get? "pipelineVersion" m) (Table.get? "triggersVersion" m) c := by
  simp only [ofJson?, bind, Option.bind_eq_some_iff, StatusCode.accepts.required,
    accepts_str.optional, accepts_str.required]
  constructor
  · rintro ⟨_, code, _, details, _, version, _, pipeline, _, triggers, same⟩
    cases same
    exact ⟨code, details, version, pipeline, triggers⟩
  · rintro ⟨code, details, version, pipeline, triggers⟩
    exact ⟨_, code, _, details, _, version, _, pipeline, _, triggers, rfl⟩

theorem ofJson?_arr_iff {code details version pipeline triggers : Json} {c : Condition} :
    ofJson? (.arr [code, details, version, pipeline, triggers]) = some c ↔
      Given (some code) (some details) (some version) (some pipeline) (some triggers) c := by
  simp only [ofJson?, bind, Option.bind_eq_some_iff, StatusCode.accepts code _,
    accepts_str.nullable, accepts_str version _]
  constructor
  · rintro ⟨_, code, _, details, _, version, _, pipeline, _, triggers, same⟩
    cases same
    exact ⟨⟨_, rfl, code⟩, details, ⟨_, rfl, version⟩, pipeline, triggers⟩
  · rintro ⟨⟨_, ⟨⟩, code⟩, details, ⟨_, ⟨⟩, version⟩, pipeline, triggers⟩
    exact ⟨_, code, _, details, _, version, _, pipeline, _, triggers, rfl⟩

theorem accepts : Accepts ofJson? Form := by
  intro v c
  constructor
  · intro read
    unfold ofJson? at read
    split at read
    · exact .object (ofJson?_obj_iff.1 read)
    · exact .array (ofJson?_arr_iff.1 read)
    · cases read
  · intro form
    cases form with
    | object given => exact ofJson?_obj_iff.2 given
    | array given => exact ofJson?_arr_iff.2 given

theorem restores (c : Condition) : ofJson? c.toJson = some c := by
  have code : StatusCode.Form c.code.toJson c.code := (StatusCode.accepts _ _).1 c.code.restores
  exact ofJson?_obj_iff.2 ⟨⟨_, rfl, code⟩, optionForm_text c.details, ⟨_, rfl, .text _⟩,
    optionForm_text c.pipelineVersion, optionForm_text c.triggersVersion⟩

theorem plain (c : Condition) : c.toJson.Plain 1 := by
  refine .obj (by simp [Table.keys]) ?_
  simp only [List.forall_mem_cons]
  exact ⟨.str 0 _, plain_ofOption (.str 0) c.details, .str 0 _,
    plain_ofOption (.str 0) c.pipelineVersion, plain_ofOption (.str 0) c.triggersVersion,
    List.forall_mem_nil _⟩

end Condition

namespace Status

/-- A history. One that is left out is empty, but it can not be null. -/
inductive HistoryForm : Option Json → List Condition → Prop
  | absent : HistoryForm none []
  | given {v : Json} {cs : List Condition} : ListForm Condition.Form v cs → HistoryForm (some v) cs

/-- The fields of a status hold what it says. -/
structure Given (uuid conditions : Option Json) (s : Status) : Prop where
  operatorUuid : OptionForm TextForm uuid s.operatorUuid
  conditions : HistoryForm conditions s.conditions

/-- A status as an object, which may have other fields too, or as an array. -/
inductive Form : Json → Status → Prop
  | object {m : Members} {s : Status} :
    Given (Table.get? "operatorUUID" m) (Table.get? "conditions" m) s → Form (.obj m) s
  | array {uuid conditions : Json} {s : Status} :
    Given (some uuid) (some conditions) s → Form (.arr [uuid, conditions]) s
  | shortArray {uuid : Json} {s : Status} : Given (some uuid) none s → Form (.arr [uuid]) s

theorem given_none_iff {uuid : Option Json} {s : Status} :
    Given uuid none s ↔ ∃ u, OptionForm TextForm uuid u ∧ ⟨u, []⟩ = s := by
  constructor
  · rintro ⟨operatorUuid, conditions⟩
    obtain ⟨u, cs⟩ := s
    cases conditions
    exact ⟨u, operatorUuid, rfl⟩
  · rintro ⟨u, operatorUuid, rfl⟩
    exact ⟨operatorUuid, .absent⟩

theorem given_some_iff {uuid : Option Json} {v : Json} {s : Status} :
    Given uuid (some v) s ↔
      ∃ u, OptionForm TextForm uuid u ∧ ∃ cs, conditions? v = some cs ∧ ⟨u, cs⟩ = s := by
  have accepted : Accepts conditions? (ListForm Condition.Form) := Condition.accepts.list
  constructor
  · rintro ⟨operatorUuid, ⟨⟩ | ⟨conditions⟩⟩
    exact ⟨_, operatorUuid, _, (accepted v _).2 conditions, rfl⟩
  · rintro ⟨u, operatorUuid, cs, conditions, rfl⟩
    exact ⟨operatorUuid, .given ((accepted v cs).1 conditions)⟩

theorem ofJson?_obj_iff {m : Members} {s : Status} : ofJson? (.obj m) = some s ↔
    Given (Table.get? "operatorUUID" m) (Table.get? "conditions" m) s := by
  rw [ofJson?]
  cases Table.get? "conditions" m with
  | none => simp [given_none_iff, Option.bind_eq_some_iff, accepts_str.optional]
  | some v => simp [given_some_iff, Option.bind_eq_some_iff, accepts_str.optional]

theorem ofJson?_short_iff {uuid : Json} {s : Status} :
    ofJson? (.arr [uuid]) = some s ↔ Given (some uuid) none s := by
  simp [ofJson?, given_none_iff, Option.bind_eq_some_iff, accepts_str.nullable]

theorem ofJson?_arr_iff {uuid conditions : Json} {s : Status} :
    ofJson? (.arr [uuid, conditions]) = some s ↔ Given (some uuid) (some conditions) s := by
  simp [ofJson?, given_some_iff, Option.bind_eq_some_iff, accepts_str.nullable]

theorem accepts : Accepts ofJson? Form := by
  intro v s
  constructor
  · intro read
    unfold ofJson? at read
    split at read
    · exact .object (ofJson?_obj_iff.1 read)
    · exact .shortArray (ofJson?_short_iff.1 read)
    · exact .array (ofJson?_arr_iff.1 read)
    · cases read
  · intro form
    cases form with
    | object given => exact ofJson?_obj_iff.2 given
    | array given => exact ofJson?_arr_iff.2 given
    | shortArray given => exact ofJson?_short_iff.2 given

theorem restores (s : Status) : ofJson? s.toJson = some s := by
  have history :
      ListForm Condition.Form (.arr (s.conditions.map Condition.toJson)) s.conditions := by
    refine .items (List.forall₂_map_left_iff.2 (List.forall₂_same.2 fun c _ => ?_))
    exact (Condition.accepts _ _).1 c.restores
  exact ofJson?_obj_iff.2 ⟨optionForm_text s.operatorUuid, .given history⟩

theorem plain (s : Status) : s.toJson.Plain 3 := by
  refine .obj (by simp [Table.keys]) ?_
  simp only [List.forall_mem_cons]
  refine ⟨plain_ofOption (.str 2) s.operatorUuid, .arr ?_, List.forall_mem_nil _⟩
  intro item mem
  obtain ⟨c, -, rfl⟩ := List.mem_map.1 mem
  exact c.plain

end Status

namespace ConfigSpec

/-- The fields of a specification hold what it says. -/
structure Given (ns exclusions : Option Json) (s : ConfigSpec) : Prop where
  targetNamespace : ∃ v, ns = some v ∧ TextForm v s.targetNamespace
  namespaceExclusions : OptionForm (ListForm TextForm) exclusions s.namespaceExclusions

/-- A specification as an object, which may have other fields too, or as an array. -/
inductive Form : Json → ConfigSpec → Prop
  | object {m : Members} {s : ConfigSpec} :
    Given (Table.get? "targetNamespace" m) (Table.get? "namespaceExclusions" m) s → Form (.obj m) s
  | array {ns exclusions : Json} {s : ConfigSpec} :
    Given (some ns) (some exclusions) s → Form (.arr [ns, exclusions]) s

theorem ofJson?_obj_iff {m : Members} {s : ConfigSpec} : ofJson? (.obj m) = some s ↔
    Given (Table.get? "targetNamespace" m) (Table.get? "namespaceExclusions" m) s := by
  simp only [ofJson?, bind, Option.bind_eq_some_iff, accepts_str.required,
    accepts_str.list.optional]
  constructor
  · rintro ⟨_, ns, _, exclusions, same⟩
    cases same
    exact ⟨ns, exclusions⟩
  · rintro ⟨ns, exclusions⟩
    exact ⟨_, ns, _, exclusions, rfl⟩

theorem ofJson?_arr_iff {ns exclusions : Json} {s : ConfigSpec} :
    ofJson? (.arr [ns, exclusions]) = some s ↔ Given (some ns) (some exclusions) s := by
  simp only [ofJson?, bind, Option.bind_eq_some_iff, accepts_str ns _, accepts_str.list.nullable]
  constructor
  · rintro ⟨_, ns, _, exclusions, same⟩
    cases same
    exact ⟨⟨_, rfl, ns⟩, exclusions⟩
  · rintro ⟨⟨_, ⟨⟩, ns⟩, exclusions⟩
    exact ⟨_, ns, _, exclusions, rfl⟩

theorem accepts : Accepts ofJson? Form := by
  intro v s
  constructor
  · intro read
    unfold ofJson? at read
    split at read
    · exact .object (ofJson?_obj_iff.1 read)
    · exact .array (ofJson?_arr_iff.1 read)
    · cases read
  · intro form
    cases form with
    | object given => exact ofJson?_obj_iff.2 given
    | array given => exact ofJson?_arr_iff.2 given

theorem restores (s : ConfigSpec) : ofJson? s.toJson = some s := by
  have texts (ts : List String) : ListForm TextForm (Metadata.textsJson ts) ts :=
    .items (List.forall₂_map_left_iff.2 (List.forall₂_same.2 fun t _ => .text t))
  exact ofJson?_obj_iff.2 ⟨⟨_, rfl, .text _⟩,
    optionForm_ofOption (fun ts => ⟨rfl, texts ts⟩) s.namespaceExclusions⟩

theorem plain (s : ConfigSpec) : s.toJson.Plain 2 := by
  have texts (ts : List String) : (Metadata.textsJson ts).Plain 1 := by
    refine .arr fun item mem => ?_
    obtain ⟨t, -, rfl⟩ := List.mem_map.1 mem
    exact .str 0 t
  refine .obj (by simp [Table.keys]) ?_
  simp only [List.forall_mem_cons]
  exact ⟨.str 1 _, plain_ofOption texts s.namespaceExclusions, List.forall_mem_nil _⟩

end ConfigSpec

/-- **The stored form keeps what is stored.** The specification, the conditions and the status come
back as they were written, from every form in which they are read; and a code has one name, whether
it is compared with a text, read or written. -/
theorem stored_form_is_lossless :
    Lossless ConfigSpec.Form ConfigSpec.ofJson? ConfigSpec.toJson ∧
    Lossless Condition.Form Condition.ofJson? Condition.toJson ∧
    Lossless Status.Form Status.ofJson? Status.toJson ∧
    ∀ s c, (StatusCode.ofWire? s = some c ↔ StatusCode.ofJson? (.str s) = some c) ∧
      (StatusCode.ofJson? (.str s) = some c ↔ StatusCode.toJson c = .str s) := by
  refine ⟨lossless_of_restores ConfigSpec.accepts ConfigSpec.restores ConfigSpec.plain (by decide),
    lossless_of_restores Condition.accepts Condition.restores Condition.plain (by decide),
    lossless_of_restores Status.accepts Status.restores Status.plain (by decide), ?_⟩
  intro s c
  have read : StatusCode.ofJson? (.str s) = some c ↔ c.tag = s := StatusCode.ofTag?_eq_some_iff
  constructor
  · rw [read, StatusCode.ofWire?_eq_some_iff, StatusCode.tag_eq_wire]
  · rw [read, StatusCode.toJson, Json.str.injEq]

/-- Arrays, a code that is an object, fields that are missing and one that nobody knows. -/
example : Status.ofJson? (.arr [.null, .arr [
      .arr [.str "installed", .null, .str "v0.11.0", .str "v0.11.0", .null],
      .obj [("version", .str "v0.11.0"), ("code", .obj [("applied-addons", .null)]),
        ("since", .bool true)]]]) =
    some ⟨none, [{ code := .installed, version := "v0.11.0", pipelineVersion := some "v0.11.0" },
      { code := .passed .applyAddons, version := "v0.11.0" }]⟩ := rfl

end PhasedInstall
