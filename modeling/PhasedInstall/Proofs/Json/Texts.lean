import Mathlib.Tactic.SplitIfs
import PhasedInstall.Json.Reader
import PhasedInstall.Json.Writer
import PhasedInstall.Proofs.Json.Distinct

/-!
# The text of a value reads back

A value is written lexeme by lexeme (`compact_eq`), the lexemes of a written value are cut apart
again at the same places (`all?_texts`), and a reader that takes them rebuilds the value
(`read_lexemes`). Values with numbers are left out, since a number ends only where something else
begins. So is what a reader refuses: a container with more room inside than it is given, and an
object with a key that occurs twice. `Plain` is the rest.
-/

set_option autoImplicit false

namespace PhasedInstall.Json

/-- A value without numbers whose containers are nested at most `room` deep, and in which no object
has a key twice. -/
inductive Plain : (room : Nat) → Json → Prop
  | null (room : Nat) : Plain room .null
  | bool (room : Nat) (b : Bool) : Plain room (.bool b)
  | str (room : Nat) (s : String) : Plain room (.str s)
  | arr {room : Nat} {items : List Json} :
    (∀ item ∈ items, Plain room item) → Plain (room + 1) (.arr items)
  | obj {room : Nat} {members : Members} : (Table.keys members).Nodup →
    (∀ entry ∈ members, Plain room entry.2) → Plain (room + 1) (.obj members)

theorem Plain.mono {room more : Nat} {v : Json} (plain : v.Plain room) (le : room ≤ more) :
    v.Plain more := by
  induction plain generalizing more with
  | null => exact .null more
  | bool room b => exact .bool more b
  | str room s => exact .str more s
  | arr _ ih =>
    obtain ⟨inside, rfl⟩ := Nat.exists_eq_add_one.2 (Nat.lt_of_lt_of_le (Nat.succ_pos _) le)
    exact .arr fun item mem => ih item mem (Nat.le_of_succ_le_succ le)
  | obj distinct _ ih =>
    obtain ⟨inside, rfl⟩ := Nat.exists_eq_add_one.2 (Nat.lt_of_lt_of_le (Nat.succ_pos _) le)
    exact .obj distinct fun entry mem => ih entry mem (Nat.le_of_succ_le_succ le)

namespace Lexeme

/-! ## Strings -/

theorem hexValue?_hexDigit {n : Nat} (small : n < 16) : hexValue? (hexDigit n) = some n := by
  have each : ∀ n < 16, hexValue? (hexDigit n) = some n := by decide
  exact each n small

theorem string?_shortEscape {e c : Char} (escape : shortEscape? e = some c) (tail : List Char) :
    string? ('\\' :: e :: tail) = (string? tail).map fun (cs, rest) => (c :: cs, rest) := by
  have other : e ≠ 'u' := by
    rintro rfl
    cases escape
  rw [string?]
  · rw [escape]
  · intro a b c d rest same
    exact absurd same other

theorem string?_control {c : Char} (control : c.toNat < 0x20) (tail : List Char) :
    string? ('\\' :: 'u' :: '0' :: '0' :: hexDigit (c.toNat / 16) :: hexDigit (c.toNat % 16) ::
      tail) = (string? tail).map fun (cs, rest) => (c :: cs, rest) := by
  have code : hex4? '0' '0' (hexDigit (c.toNat / 16)) (hexDigit (c.toNat % 16)) = some c.toNat := by
    have high : hexValue? (hexDigit (c.toNat / 16)) = some (c.toNat / 16) :=
      hexValue?_hexDigit (by omega)
    have low : hexValue? (hexDigit (c.toNat % 16)) = some (c.toNat % 16) :=
      hexValue?_hexDigit (by omega)
    have zero : hexValue? '0' = some 0 := rfl
    unfold hex4?
    simp only [zero, high, low, bind, Option.bind, pure, Option.some.injEq]
    omega
  have notHigh : isHighSurrogate c.toNat = false := by
    unfold isHighSurrogate
    simp only [Bool.and_eq_false_iff, decide_eq_false_iff_not]
    omega
  have notLow : isLowSurrogate c.toNat = false := by
    unfold isLowSurrogate
    simp only [Bool.and_eq_false_iff, decide_eq_false_iff_not]
    omega
  rw [string?, code]
  simp only [notHigh, notLow, Bool.false_eq_true, if_false, Char.ofNat_toNat]

theorem string?_printed {c : Char} (quote : c ≠ '"') (backslash : c ≠ '\\')
    (printed : ¬ c.toNat < 0x20) (tail : List Char) :
    string? (c :: tail) = (string? tail).map fun (cs, rest) => (c :: cs, rest) := by
  rw [string?]
  · simp [backslash, printed]
  all_goals simp_all

/-- The three ways to write a character: with a letter, with its code, or as it is. -/
theorem escapeChar_cases (c : Char) :
    (∃ e, escapeChar c = ['\\', e] ∧ shortEscape? e = some c) ∨
      c.toNat < 0x20 ∧ escapeChar c =
        ['\\', 'u', '0', '0', hexDigit (c.toNat / 16), hexDigit (c.toNat % 16)] ∨
      c ≠ '"' ∧ c ≠ '\\' ∧ ¬ c.toNat < 0x20 ∧ escapeChar c = [c] := by
  unfold escapeChar
  split_ifs with quote backslash newline ret tab bell feed control
  · exact Or.inl ⟨_, rfl, by rw [quote]; rfl⟩
  · exact Or.inl ⟨_, rfl, by rw [backslash]; rfl⟩
  · exact Or.inl ⟨_, rfl, by rw [newline]; rfl⟩
  · exact Or.inl ⟨_, rfl, by rw [ret]; rfl⟩
  · exact Or.inl ⟨_, rfl, by rw [tab]; rfl⟩
  · exact Or.inl ⟨_, rfl, by rw [bell]; rfl⟩
  · exact Or.inl ⟨_, rfl, by rw [feed]; rfl⟩
  · exact Or.inr (Or.inl ⟨control, rfl⟩)
  · exact Or.inr (Or.inr ⟨quote, backslash, control, rfl⟩)

/-- A character reads back, however it is written. -/
theorem string?_escapeChar (c : Char) (tail : List Char) :
    string? (escapeChar c ++ tail) = (string? tail).map fun (cs, rest) => (c :: cs, rest) := by
  rcases escapeChar_cases c with ⟨e, written, escape⟩ | ⟨control, written⟩ |
    ⟨quote, backslash, printed, written⟩
  · rw [written]
    exact string?_shortEscape escape tail
  · rw [written]
    exact string?_control control tail
  · rw [written]
    exact string?_printed quote backslash printed tail

/-- A string ends at its closing quote, whatever its characters are. -/
theorem string?_escaped (cs tail : List Char) :
    string? (cs.flatMap escapeChar ++ '"' :: tail) = some (cs, tail) := by
  induction cs with
  | nil => rw [List.flatMap_nil, List.nil_append, string?]
  | cons c rest ih =>
    rw [List.flatMap_cons, List.append_assoc, string?_escapeChar, ih]
    rfl

/-! ## Lexemes -/

/-- The text of a lexeme. A number has none here. -/
def text : Lexeme → List Char
  | openArray => ['[']
  | closeArray => [']']
  | openObject => ['\x7b']
  | closeObject => ['\x7d']
  | comma => [',']
  | colon => [':']
  | scalar .null => ['n', 'u', 'l', 'l']
  | scalar (.bool true) => ['t', 'r', 'u', 'e']
  | scalar (.bool false) => ['f', 'a', 'l', 's', 'e']
  | scalar (.str s) => '"' :: s.toList.flatMap escapeChar ++ ['"']
  | scalar _ => []

/-- Lexemes that end by themselves. -/
def Closed : Lexeme → Prop
  | scalar .null | scalar (.bool _) | scalar (.str _) => True
  | scalar _ => False
  | _ => True

variable {lexeme : Lexeme} {lexemes : List Lexeme}

theorem next?_text (closed : lexeme.Closed) (rest : List Char) :
    next? (lexeme.text ++ rest) = some (lexeme, rest) := by
  cases lexeme with
  | scalar value =>
    cases value with
    | null => rfl
    | bool b => cases b <;> rfl
    | str s =>
      have read : string? (s.toList.flatMap escapeChar ++ ['"'] ++ rest) =
          some (s.toList, rest) := by
        rw [List.append_assoc]
        exact string?_escaped s.toList rest
      show (string? (s.toList.flatMap escapeChar ++ ['"'] ++ rest)).map _ = _
      rw [read, Option.map_some]
      dsimp only
      rw [String.ofList_toList]
    | num n => cases closed
    | arr items => cases closed
    | obj members => cases closed
  | _ => rfl

theorem exists_text_eq (closed : lexeme.Closed) :
    ∃ c rest, lexeme.text = c :: rest ∧ isBlank c = false := by
  cases lexeme with
  | scalar value =>
    cases value with
    | null => exact ⟨_, _, rfl, rfl⟩
    | bool b => cases b <;> exact ⟨_, _, rfl, rfl⟩
    | str s => exact ⟨_, _, rfl, rfl⟩
    | num n => cases closed
    | arr items => cases closed
    | obj members => cases closed
  | _ => exact ⟨_, _, rfl, rfl⟩

/-- Lexemes that end by themselves are cut apart again. -/
theorem all?_texts (closed : ∀ lexeme ∈ lexemes, lexeme.Closed) {bound : Nat}
    (enough : (lexemes.flatMap text).length ≤ bound) :
    all? bound (lexemes.flatMap text) = some lexemes := by
  induction lexemes generalizing bound with
  | nil => cases bound <;> rfl
  | cons lexeme rest ih =>
    obtain ⟨here, others⟩ := List.forall_mem_cons.1 closed
    obtain ⟨c, more, first, visible⟩ := exists_text_eq here
    have cut := next?_text here (rest.flatMap text)
    rw [List.flatMap_cons] at enough ⊢
    rw [first] at cut enough ⊢
    cases bound with
    | zero => simp at enough
    | succ bound =>
      have later : (rest.flatMap text).length ≤ bound := by
        simp only [List.cons_append, List.length_cons, List.length_append] at enough
        omega
      rw [List.cons_append] at cut ⊢
      rw [all?, List.dropWhile_cons_of_neg (by simp [visible])]
      simp [cut, ih others later]

end Lexeme

mutual

/-- The lexemes of a value, in order. -/
def lexemes : Json → List Lexeme
  | .arr items => .openArray :: List.intercalate [.comma] (itemLexemes items) ++ [.closeArray]
  | .obj members =>
    .openObject :: List.intercalate [.comma] (memberLexemes members) ++ [.closeObject]
  | v => [.scalar v]

def itemLexemes : List Json → List (List Lexeme)
  | [] => []
  | item :: rest => lexemes item :: itemLexemes rest

def memberLexemes : List (String × Json) → List (List Lexeme)
  | [] => []
  | (key, value) :: rest =>
    (.scalar (.str key) :: .colon :: lexemes value) :: memberLexemes rest

end

theorem itemLexemes_eq (items : List Json) : itemLexemes items = items.map lexemes := by
  induction items with
  | nil => rfl
  | cons item rest ih => rw [itemLexemes, ih, List.map_cons]

/-- The lexemes of one member. -/
def memberOf (entry : String × Json) : List Lexeme :=
  .scalar (.str entry.1) :: .colon :: lexemes entry.2

theorem memberLexemes_eq (members : Members) : memberLexemes members = members.map memberOf := by
  induction members with
  | nil => rfl
  | cons entry rest ih => rw [memberLexemes, ih, List.map_cons, memberOf]

theorem compactItems_eq (items : List Json) : compactItems items = items.map compact := by
  induction items with
  | nil => rfl
  | cons item rest ih => rw [compactItems, ih, List.map_cons]

theorem compactMembers_eq (members : Members) : compactMembers members =
    members.map fun entry => quote entry.1 ++ ":" ++ compact entry.2 := by
  induction members with
  | nil => rfl
  | cons entry rest ih => rw [compactMembers, ih, List.map_cons]

section
variable {α β : Type}

theorem flatMap_intercalate (f : α → List β) (separator : List α) (parts : List (List α)) :
    (List.intercalate separator parts).flatMap f =
      List.intercalate (separator.flatMap f) (parts.map fun part => part.flatMap f) := by
  induction parts with
  | nil => rfl
  | cons part rest ih =>
    cases rest with
    | nil => simp
    | cons next rest =>
      rw [List.intercalate_cons_cons, List.flatMap_append, List.flatMap_append, ih]
      simp

theorem mem_intercalate {separator : List α} {parts : List (List α)} {a : α}
    (mem : a ∈ List.intercalate separator parts) :
    a ∈ separator ∨ ∃ part ∈ parts, a ∈ part := by
  induction parts with
  | nil => simp at mem
  | cons part rest ih =>
    cases rest with
    | nil =>
      rw [List.intercalate_singleton] at mem
      exact Or.inr ⟨part, by simp, mem⟩
    | cons next rest =>
      rw [List.intercalate_cons_cons, List.mem_append, List.mem_append] at mem
      rcases mem with (here | between) | there
      · exact Or.inr ⟨part, by simp, here⟩
      · exact Or.inl between
      · rcases ih there with between | ⟨other, among, inside⟩
        · exact Or.inl between
        · exact Or.inr ⟨other, List.mem_cons_of_mem _ among, inside⟩

end

variable {room : Nat} {v : Json} {items : List Json} {members : Members} {stack : List Frame}

theorem closed_of_parts {opening closing : Lexeme} {parts : List (List Lexeme)}
    (opens : opening.Closed) (closes : closing.Closed)
    (inside : ∀ part ∈ parts, ∀ lexeme ∈ part, lexeme.Closed) :
    ∀ lexeme ∈ opening :: List.intercalate [.comma] parts ++ [closing], lexeme.Closed := by
  intro lexeme mem
  rw [List.mem_append, List.mem_cons, List.mem_singleton] at mem
  rcases mem with (rfl | mem) | rfl
  · exact opens
  · rcases mem_intercalate mem with between | ⟨part, among, here⟩
    · cases List.mem_singleton.1 between
      trivial
    · exact inside part among lexeme here
  · exact closes

theorem lexemes_closed (plain : v.Plain room) : ∀ lexeme ∈ v.lexemes, lexeme.Closed := by
  induction plain with
  | null | bool | str =>
    intro lexeme mem
    cases List.mem_singleton.1 mem
    trivial
  | arr _ ih =>
    rw [lexemes, itemLexemes_eq]
    refine closed_of_parts trivial trivial ?_
    intro part among
    obtain ⟨item, mem, rfl⟩ := List.mem_map.1 among
    exact ih item mem
  | obj _ _ ih =>
    rw [lexemes, memberLexemes_eq]
    refine closed_of_parts trivial trivial ?_
    intro part among lexeme here
    obtain ⟨entry, mem, rfl⟩ := List.mem_map.1 among
    simp only [memberOf, List.mem_cons] at here
    rcases here with rfl | rfl | here
    · trivial
    · trivial
    · exact ih entry mem lexeme here

theorem toList_quote (s : String) : (quote s).toList = (Lexeme.scalar (.str s)).text := by
  simp [quote, Lexeme.text]

/-- A value is written lexeme by lexeme. -/
theorem compact_eq (plain : v.Plain room) :
    (compact v).toList = v.lexemes.flatMap Lexeme.text := by
  induction plain with
  | null => simp [compact, lexemes, Lexeme.text]
  | bool room b => cases b <;> simp [compact, lexemes, Lexeme.text]
  | str room s => simp [compact, lexemes, toList_quote]
  | @arr room items _ ih =>
    have parts : (items.map compact).map String.toList =
        (items.map lexemes).map fun part => part.flatMap Lexeme.text := by
      rw [List.map_map, List.map_map]
      exact List.map_congr_left ih
    rw [compact, compactItems_eq, lexemes, itemLexemes_eq]
    simp only [String.toList_append, String.toList_intercalate, parts, List.flatMap_append,
      List.flatMap_cons, List.flatMap_nil, flatMap_intercalate, Lexeme.text, List.append_nil]
    simp
  | @obj room members _ _ ih =>
    have parts : (members.map fun entry => quote entry.1 ++ ":" ++ compact entry.2).map
          String.toList =
        (members.map memberOf).map fun part => part.flatMap Lexeme.text := by
      rw [List.map_map, List.map_map]
      refine List.map_congr_left fun entry mem => ?_
      have value := ih entry mem
      simp [memberOf, toList_quote, value, Lexeme.text]
    rw [compact, compactMembers_eq, lexemes, memberLexemes_eq]
    simp only [String.toList_append, String.toList_intercalate, parts, List.flatMap_append,
      List.flatMap_cons, List.flatMap_nil, flatMap_intercalate, Lexeme.text, List.append_nil]
    simp

/-! ## Reading -/

namespace Reading

/-- Some lexemes take a reader from one point to another. -/
def Reads (ls : List Lexeme) (before after : Reading) : Prop :=
  ls.foldlM step before = some after

variable {ls ls' : List Lexeme} {lexeme : Lexeme} {before between after : Reading}

theorem Reads.append (first : Reads ls before between) (second : Reads ls' between after) :
    Reads (ls ++ ls') before after := by
  unfold Reads at first second ⊢
  rw [List.foldlM_append, first]
  exact second

theorem Reads.cons (first : step before lexeme = some between) (second : Reads ls between after) :
    Reads (lexeme :: ls) before after := by
  unfold Reads at second ⊢
  rw [List.foldlM_cons, first]
  exact second

theorem Reads.nil (reading : Reading) : Reads [] reading reading := rfl

theorem Reads.single (taken : step before lexeme = some after) : Reads [lexeme] before after :=
  .cons taken (.nil after)

/-- A value is taken as a whole. -/
def Taken (stack : List Frame) (v : Json) : Prop :=
  Reads v.lexemes ⟨stack, .value⟩ (complete v stack)

/-- The items of an array are put in front of those that came before, the last one foremost. -/
theorem reads_items (reversed : List Json) {item : Json} {rest : List Json}
    (each : ∀ v ∈ item :: rest, ∀ reversed, Taken (.array reversed :: stack) v) :
    Reads (List.intercalate [.comma] ((item :: rest).map lexemes))
      ⟨.array reversed :: stack, .value⟩
      ⟨.array ((item :: rest).reverse ++ reversed) :: stack, .commaOrClose⟩ := by
  induction rest generalizing item reversed with
  | nil =>
    rw [List.map_singleton, List.intercalate_singleton]
    exact each item (by simp) reversed
  | cons next rest ih =>
    obtain ⟨here, others⟩ := List.forall_mem_cons.1 each
    have later := ih (item :: reversed) others
    rw [List.map_cons, List.map_cons, List.intercalate_cons_cons, List.append_assoc,
      List.reverse_cons, List.append_assoc]
    exact (here reversed).append (.cons rfl later)

/-- A reader that may close an array takes the first lexeme of an item like any other. -/
theorem Reads.items_orClose {item : Json} {rest : List Json}
    (items : Reads (List.intercalate [.comma] ((item :: rest).map lexemes)) ⟨stack, .value⟩ after) :
    Reads (List.intercalate [.comma] ((item :: rest).map lexemes))
      ⟨stack, .valueOrClose⟩ after := by
  have first (ls : List Lexeme) (value : Reads (item.lexemes ++ ls) ⟨stack, .value⟩ after) :
      Reads (item.lexemes ++ ls) ⟨stack, .valueOrClose⟩ after := by
    cases item <;> exact value
  cases rest with
  | nil =>
    rw [List.map_singleton, List.intercalate_singleton] at items ⊢
    have alone := first []
    rw [List.append_nil] at alone
    exact alone items
  | cons next rest =>
    rw [List.map_cons, List.map_cons, List.intercalate_cons_cons, List.append_assoc] at items ⊢
    exact first _ items

/-- A reader that may close an object takes a key like any other. -/
theorem Reads.members_orClose {entry : String × Json} {rest : Members}
    (members : Reads (List.intercalate [.comma] ((entry :: rest).map memberOf))
      ⟨stack, .key⟩ after) :
    Reads (List.intercalate [.comma] ((entry :: rest).map memberOf))
      ⟨stack, .keyOrClose⟩ after := by
  cases rest <;> exact members

theorem reads_member (key : String) {done : Members} {name : String} {value : Json}
    (taken : Taken (.object done name :: stack) value) (fresh : name ∉ Table.keys done) :
    Reads (memberOf (name, value)) ⟨.object done key :: stack, .key⟩
      ⟨.object (done ++ [(name, value)]) name :: stack, .commaOrClose⟩ := by
  have placed : complete value (.object done name :: stack) =
      ⟨.object (done ++ [(name, value)]) name :: stack, .commaOrClose⟩ := by
    rw [complete, Table.put_of_not_mem_keys fresh]
  rw [← placed]
  exact .cons rfl (.cons rfl taken)

theorem fresh {done rest : Members} {entry : String × Json}
    (distinct : (Table.keys (done ++ entry :: rest)).Nodup) : entry.1 ∉ Table.keys done := by
  simp only [Table.keys, List.map_append, List.map_cons, List.nodup_append] at distinct
  intro mem
  exact distinct.2.2 _ mem _ List.mem_cons_self rfl

/-- The members of an object are put behind those that came before. The reader keeps the key that
came last, whichever that is. -/
theorem reads_members {done : Members} (key : String) {entry : String × Json} {rest : Members}
    (each : ∀ e ∈ entry :: rest, ∀ done key, Taken (.object done key :: stack) e.2)
    (distinct : (Table.keys (done ++ entry :: rest)).Nodup) :
    ∃ last, Reads (List.intercalate [.comma] ((entry :: rest).map memberOf))
      ⟨.object done key :: stack, .key⟩
      ⟨.object (done ++ entry :: rest) last :: stack, .commaOrClose⟩ := by
  induction rest generalizing entry done key with
  | nil =>
    rw [List.map_singleton, List.intercalate_singleton]
    exact ⟨entry.1, reads_member key (each entry List.mem_cons_self done entry.1) (fresh distinct)⟩
  | cons next rest ih =>
    obtain ⟨here, others⟩ := List.forall_mem_cons.1 each
    have first := reads_member key (here done entry.1) (fresh distinct)
    rw [List.append_cons] at distinct
    obtain ⟨last, later⟩ := ih entry.1 others distinct
    rw [← List.append_cons] at later
    refine ⟨last, ?_⟩
    rw [List.map_cons, List.map_cons, List.intercalate_cons_cons, List.append_assoc]
    exact first.append (.cons rfl later)

theorem enter_eq {frame : Frame} {awaiting : Awaiting} (shallow : stack.length < depthLimit) :
    enter frame stack awaiting = some ⟨frame :: stack, awaiting⟩ := by
  unfold enter
  rw [if_pos shallow]

/-- The lexemes of a value are taken as that value. -/
theorem taken (plain : v.Plain room) (enough : stack.length + room ≤ depthLimit) :
    Taken stack v := by
  induction plain generalizing stack with
  | null | bool | str => exact .single rfl
  | @arr room items _ ih =>
    have opened : step ⟨stack, .value⟩ .openArray = some ⟨.array [] :: stack, .valueOrClose⟩ := by
      refine enter_eq ?_
      dsimp only
      omega
    unfold Taken
    rw [lexemes, itemLexemes_eq, List.cons_append]
    refine Reads.cons opened ?_
    cases items with
    | nil => exact .single rfl
    | cons item rest =>
      have each : ∀ v ∈ item :: rest, ∀ reversed, Taken (.array reversed :: stack) v :=
        fun v mem reversed => ih v mem (by simp only [List.length_cons]; omega)
      refine (reads_items [] each).items_orClose.append (.single ?_)
      simp [step, close]
  | @obj room members distinct _ ih =>
    have opened : step ⟨stack, .value⟩ .openObject =
        some ⟨.object [] "" :: stack, .keyOrClose⟩ := by
      refine enter_eq ?_
      dsimp only
      omega
    unfold Taken
    rw [lexemes, memberLexemes_eq, List.cons_append]
    refine Reads.cons opened ?_
    cases members with
    | nil => exact .single rfl
    | cons entry rest =>
      have each : ∀ e ∈ entry :: rest, ∀ done key, Taken (.object done key :: stack) e.2 :=
        fun e mem done key => ih e mem (by simp only [List.length_cons]; omega)
      have whole : (Table.keys ([] ++ entry :: rest)).Nodup := distinct
      obtain ⟨last, inside⟩ := reads_members "" each whole
      exact inside.members_orClose.append (.single rfl)

end Reading

/-- **The text of a value reads back as that value.** -/
theorem parse?_compact (plain : v.Plain Reading.depthLimit) : parse? (compact v) = some v := by
  have cut : Lexeme.all? (compact v).toList.length (compact v).toList = some v.lexemes := by
    rw [compact_eq plain]
    exact Lexeme.all?_texts (lexemes_closed plain) (Nat.le_refl _)
  have read : v.lexemes.foldlM Reading.step ⟨[], .value⟩ = some (Reading.complete v []) :=
    Reading.taken plain (Nat.le_of_eq (Nat.zero_add _))
  unfold parse?
  simp only [cut, read, bind, Option.bind]
  rfl

end PhasedInstall.Json
