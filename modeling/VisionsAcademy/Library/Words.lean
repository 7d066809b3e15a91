import Mathlib.Data.List.Infix

/-! Where a word occurs in a text put together from parts: when the word holds none of the
separating characters, it occurs within one of the parts. -/
namespace Words

variable {Character : Type*}

theorem infix_separated (word left right : List Character) (separator : Character)
    (clear : separator ∉ word) :
    word <:+: left ++ separator::right ↔ word <:+: left ∨ word <:+: right := by
  constructor
  · intro occurs
    rcases List.infix_append_iff.mp occurs with inside | behind | ⟨first,second,split,ends,starts⟩
    · exact Or.inl inside
    · rcases List.infix_cons_iff.mp behind with starts | inside
      · rcases List.prefix_cons_iff.mp starts with rfl | ⟨rest,rfl,_⟩
        · exact Or.inl List.nil_infix
        · simp at clear
      · exact Or.inr inside
    · rcases List.prefix_cons_iff.mp starts with rfl | ⟨rest,rfl,_⟩
      · rw [split,List.append_nil]
        exact Or.inl ends.isInfix
      · simp [split] at clear
  · rintro (inside | inside)
    · exact List.infix_append_of_infix_left inside
    · exact List.infix_append_of_infix_right (List.infix_cons inside)

theorem infix_after (word separator right : List Character) (proper : word ≠ [])
    (clear : ∀ character ∈ separator, character ∉ word) :
    word <:+: separator ++ right ↔ word <:+: right := by
  induction separator with
  | nil => rfl
  | cons character rest ih =>
    have here := infix_separated word [] (rest ++ right) character (clear character (by simp))
    have later := ih fun other member => clear other (List.mem_cons_of_mem _ member)
    rw [List.cons_append,← List.nil_append (character::(rest ++ right)),here,later,List.infix_nil]
    simp [proper]

theorem infix_enclosed (word first middle last : List Character) (proper : word ≠ [])
    (before : ∀ character ∈ first, character ∉ word)
    (after : ∀ character ∈ last, character ∉ word) :
    word <:+: first ++ middle ++ last ↔ word <:+: middle := by
  have closing : word <:+: middle ++ last ↔ word <:+: middle := by
    rw [← List.reverse_infix,List.reverse_append,infix_after,List.reverse_infix]
    · simpa using proper
    · simpa using after
  rw [List.append_assoc,infix_after word first _ proper before,closing]

theorem infix_parted (word left separator right : List Character) (proper : word ≠ [])
    (parted : separator ≠ []) (clear : ∀ character ∈ separator, character ∉ word) :
    word <:+: left ++ separator ++ right ↔ word <:+: left ∨ word <:+: right := by
  obtain ⟨character,rest,rfl⟩ := List.exists_cons_of_ne_nil parted
  have joined : left ++ character::rest ++ right = left ++ character::(rest ++ right) := by simp
  rw [joined,infix_separated word left _ character (clear character (by simp)),
    infix_after word rest right proper fun other member =>
      clear other (List.mem_cons_of_mem _ member)]

theorem infix_intercalate (word separator : List Character) (parts : List (List Character))
    (proper : word ≠ []) (parted : separator ≠ [])
    (clear : ∀ character ∈ separator, character ∉ word) :
    word <:+: separator.intercalate parts ↔ ∃ part ∈ parts, word <:+: part := by
  induction parts with
  | nil => simp [proper]
  | cons part rest ih =>
    cases rest with
    | nil => simp
    | cons next later =>
      rw [List.intercalate_cons_cons,infix_parted word part separator _ proper parted clear,ih]
      simp

end Words
