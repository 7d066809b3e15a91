import Mathlib.Data.List.Basic
import Mathlib.Order.Basic

/-! The names of fields in writes to a document. The string keys of an update are paths, split
at their dots; each segment of a path and each key of a map has to pass the check of the
client, else the call throws. -/
namespace DocumentStore

abbrev Path := List String

/-- Names that begin and end with two underscores are the store's own; `__` and `___` are
among them. -/
def validatePathSegment (segment : List Char) : Bool :=
  !segment.isEmpty && !(['_','_'].isPrefixOf segment && ['_','_'].isSuffixOf segment)

def splitDots : List Char → List (List Char)
  | [] => [[]]
  | character::rest =>
    if character = '.' then []::splitDots rest
    else match splitDots rest with
      | [] => [[character]]
      | segment::segments => (character::segment)::segments

def reservedCharacters : List Char := ['~','*','/','[',']']

def fieldPath (text : String) : Option Path :=
  let segments := splitDots text.toList
  if text.toList.any reservedCharacters.contains || !segments.all validatePathSegment then none
  else some (segments.map String.ofList)

theorem splitDots_plain (text : List Char) (plain : '.' ∉ text) : splitDots text = [text] := by
  induction text with
  | nil => rfl
  | cons character rest ih =>
    simp only [List.mem_cons,not_or] at plain
    simp [splitDots,Ne.symm plain.1,ih plain.2]

theorem splitDots_ne_nil (text : List Char) : splitDots text ≠ [] := by
  cases text with
  | nil => simp [splitDots]
  | cons character rest =>
    simp only [splitDots]
    split
    · simp
    · split <;> simp

theorem splitDots_single (text segment : List Char) (single : splitDots text = [segment]) :
    segment = text := by
  induction text generalizing segment with
  | nil => simpa [splitDots] using single.symm
  | cons character rest ih =>
    simp only [splitDots] at single
    split at single
    · simp [splitDots_ne_nil] at single
    · split at single
      next empty => exact absurd empty (splitDots_ne_nil rest)
      next first later found =>
        simp only [List.cons.injEq] at single
        obtain ⟨rfl,rfl⟩ := single
        rw [ih first found]

theorem splitDots_dot (before after : List Char) (plain : '.' ∉ before) :
    splitDots (before ++ '.'::after) = before::splitDots after := by
  induction before with
  | nil => simp [splitDots]
  | cons character rest ih =>
    simp only [List.mem_cons,not_or] at plain
    simp [splitDots,Ne.symm plain.1,ih plain.2]

theorem splitDots_segments (text segment : List Char) (member : segment ∈ splitDots text) :
    '.' ∉ segment := by
  induction text generalizing segment with
  | nil =>
    simp only [splitDots,List.mem_singleton] at member
    simp [member]
  | cons character rest ih =>
    simp only [splitDots] at member
    split at member
    · rcases List.mem_cons.mp member with rfl | later
      · simp
      · exact ih segment later
    next plain =>
      split at member
      next empty => exact absurd empty (splitDots_ne_nil rest)
      next first later found =>
        rw [found] at ih
        rcases List.mem_cons.mp member with rfl | other
        · have inner := ih first List.mem_cons_self
          simp [Ne.symm plain,inner]
        · exact ih segment (List.mem_cons_of_mem _ other)

def Plain (name : String) : Prop :=
  validatePathSegment name.toList = true ∧
    ∀ character ∈ name.toList, character ≠ '.' ∧ character ∉ reservedCharacters

-- Named, so that no enumeration of all characters is chosen instead.
instance (name : String) : Decidable (Plain name) :=
  @instDecidableAnd _ _ inferInstance (List.decidableBAll _ _)

theorem plain_allowed (name : String) (plain : Plain name) :
    name.toList.any reservedCharacters.contains = false := by
  simpa using fun character member => (plain.2 character member).2

theorem fieldPath_plain (name : String) (plain : Plain name) : fieldPath name = some [name] := by
  have split : splitDots name.toList = [name.toList] :=
    splitDots_plain _ fun member => (plain.2 _ member).1 rfl
  simp [fieldPath,split,plain.1,plain_allowed name plain]

theorem fieldPath_cases (name : String) (path : Path) (parsed : fieldPath name = some path) :
    path = [name] ∨ ∃ first second rest, path = first::second::rest := by
  simp only [fieldPath] at parsed
  split at parsed
  · contradiction
  · obtain rfl := Option.some.inj parsed
    cases split : splitDots name.toList with
    | nil => exact absurd split (splitDots_ne_nil _)
    | cons first later =>
      cases later with
      | nil => exact Or.inl (by simp [splitDots_single _ _ split])
      | cons second rest => exact Or.inr ⟨_,_,_,rfl⟩

theorem fieldPath_head (name : String) (path : Path) (parsed : fieldPath name = some path) :
    path.head? = some name ↔ Plain name := by
  constructor
  · intro first
    simp only [fieldPath] at parsed
    split at parsed
    · contradiction
    next allowed =>
      simp only [Bool.not_eq_true,Bool.or_eq_false_iff,Bool.not_eq_false'] at allowed
      obtain rfl := Option.some.inj parsed
      cases split : splitDots name.toList with
      | nil => exact absurd split (splitDots_ne_nil _)
      | cons segment later =>
        have undotted := splitDots_segments name.toList segment (by simp [split])
        have same : segment = name.toList := by
          rw [split,List.map_cons,List.head?_cons,Option.some.injEq] at first
          rw [← first,String.toList_ofList]
        subst same
        refine ⟨List.all_eq_true.mp allowed.2 _ (by simp [split]),?_⟩
        intro character member
        refine ⟨fun dot => undotted (dot ▸ member),fun reserved => ?_⟩
        have clear := List.any_eq_false.mp allowed.1 character member
        simp [reserved] at clear
  · intro plain
    rw [fieldPath_plain name plain] at parsed
    cases parsed
    rfl

theorem fieldPath_ne_nil (name : String) (path : Path) (parsed : fieldPath name = some path) :
    path ≠ [] := by
  rcases fieldPath_cases name path parsed with rfl | ⟨first,second,rest,rfl⟩ <;> simp

theorem fieldPath_dot (head tail : String) (plain : Plain head) :
    fieldPath (head ++ "." ++ tail) = (fieldPath tail).map (head::·) := by
  have text : (head ++ "." ++ tail).toList = head.toList ++ '.'::tail.toList := by
    simp [String.toList_append]
  have split := splitDots_dot head.toList tail.toList fun member => (plain.2 _ member).1 rfl
  have dot : reservedCharacters.contains '.' = false := by decide
  simp only [fieldPath,text,split,List.any_append,List.any_cons,plain_allowed head plain,dot,plain.1,
    List.all_cons,Bool.false_or,Bool.true_and]
  split <;> simp

end DocumentStore
