import PhasedInstall.Json.Pointer

/-!
# The text of a pointer

A pointer is usually met as a text. `Pointer.text` writes one: every token after a `/`, with `~` and
`/` inside a token written as `~0` and `~1`. What is written in this way is read as the pointer that
was meant (`parse?_text`), so there is a text for every path of keys, whatever the keys are.
-/

set_option autoImplicit false

namespace PhasedInstall

namespace Text

variable {separator : Char} {cs : List Char}

theorem pieces_of_not_mem (h : separator ∉ cs) : pieces separator cs = [cs] := by
  induction cs with
  | nil => rfl
  | cons c rest ih =>
    rw [List.mem_cons, not_or] at h
    rw [pieces, ih h.2]
    exact if_neg (Ne.symm h.1)

/-- The first separator ends the first piece. -/
theorem pieces_append (h : separator ∉ cs) (rest : List Char) :
    pieces separator (cs ++ separator :: rest) = cs :: pieces separator rest := by
  obtain ⟨piece, others, split⟩ := List.exists_cons_of_ne_nil (pieces_ne_nil separator rest)
  induction cs with
  | nil => simp [pieces, split]
  | cons c cs ih =>
    rw [List.mem_cons, not_or] at h
    rw [List.cons_append, pieces, ih h.2]
    exact if_neg (Ne.symm h.1)

end Text

namespace Pointer

/-- A character as it stands inside a token. -/
def escapeChar : Char → List Char
  | '~' => ['~', '0']
  | '/' => ['~', '1']
  | c => [c]

def escape (token : String) : List Char := token.toList.flatMap escapeChar

/-- The text form of a pointer. -/
def text (path : Pointer) : String := String.ofList (path.flatMap fun token => '/' :: escape token)

theorem escapeChar_cases (c : Char) :
    c = '~' ∨ c = '/' ∨ c ≠ '~' ∧ c ≠ '/' ∧ escapeChar c = [c] := by
  by_cases tilde : c = '~'
  · exact Or.inl tilde
  · by_cases slash : c = '/'
    · exact Or.inr (Or.inl slash)
    · exact Or.inr (Or.inr ⟨tilde, slash, by simp [escapeChar]⟩)

theorem slash_not_mem_escape (token : String) : '/' ∉ escape token := by
  intro mem
  obtain ⟨c, -, inside⟩ := List.mem_flatMap.1 mem
  rcases escapeChar_cases c with rfl | rfl | ⟨-, slash, same⟩
  · simp [escapeChar] at inside
  · simp [escapeChar] at inside
  · rw [same] at inside
    exact slash (List.mem_singleton.1 inside).symm

theorem unescapeSlash_cons {c : Char} (h : c ≠ '~') (rest : List Char) :
    unescapeSlash (c :: rest) = c :: unescapeSlash rest := by
  rw [unescapeSlash]
  simp [h]

theorem unescapeTilde_cons {c : Char} (h : c ≠ '~') (rest : List Char) :
    unescapeTilde (c :: rest) = c :: unescapeTilde rest := by
  rw [unescapeTilde]
  simp [h]

/-- The two replacements, in their order, undo the escapes: the first one leaves the escaped tildes
alone, as no digit of theirs is taken for the other one. -/
theorem unescape_escape (cs : List Char) :
    unescapeTilde (unescapeSlash (cs.flatMap escapeChar)) = cs := by
  induction cs with
  | nil => rfl
  | cons c cs ih =>
    rw [List.flatMap_cons]
    rcases escapeChar_cases c with rfl | rfl | ⟨tilde, -, same⟩
    · simp [escapeChar, unescapeSlash, unescapeTilde, ih]
    · simp [escapeChar, unescapeSlash, unescapeTilde_cons, ih]
    · rw [same, List.singleton_append, unescapeSlash_cons tilde, unescapeTilde_cons tilde, ih]

theorem pieces_text (token : String) (rest : Pointer) :
    Text.pieces '/' (escape token ++ rest.flatMap fun token => '/' :: escape token) =
      escape token :: rest.map escape := by
  induction rest generalizing token with
  | nil =>
    rw [List.flatMap_nil, List.append_nil, Text.pieces_of_not_mem (slash_not_mem_escape token)]
    rfl
  | cons next rest ih =>
    rw [List.flatMap_cons, List.cons_append, Text.pieces_append (slash_not_mem_escape token), ih]
    rfl

/-- **The text of a pointer is read as that pointer.** -/
@[simp] theorem parse?_text (path : Pointer) : parse? (text path) = some path := by
  have read (token : String) :
      String.ofList (unescapeTilde (unescapeSlash (escape token))) = token := by
    rw [escape, unescape_escape, String.ofList_toList]
  cases path with
  | nil => rfl
  | cons token rest =>
    have own : (text (token :: rest)).toList =
        '/' :: (escape token ++ rest.flatMap fun token => '/' :: escape token) := by
      rw [text, String.toList_ofList, List.flatMap_cons, List.cons_append]
    rw [parse?, own]
    simp [pieces_text, Function.comp_def, read]

example : text ["a/b", "m~n", ""] = "/a~1b/m~0n/" := by decide

end Pointer

end PhasedInstall
