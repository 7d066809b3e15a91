import VisionsAcademy.Library.Regex

/-! The email validator of the Login and Registration forms: a pattern written as Dart
string literals, read as a regular expression and searched anywhere in the text. -/
namespace VisionsAcademy.EmailValidator
open RegularExpressions

/-- The escapes of a Dart string literal; those with a hexadecimal number are not read. -/
def unescape : List Char → Option (List Char)
  | [] => some []
  | ['\\'] => none
  | '\\'::character::rest =>
    match character with
    | 'n' => (unescape rest).map ('\n'::·)
    | 'r' => (unescape rest).map ('\r'::·)
    | 't' => (unescape rest).map ('\t'::·)
    | 'b' | 'f' | 'v' | 'x' | 'u' => none
    | other => (unescape rest).map (other::·)
  | character::rest => (unescape rest).map (character::·)

/-- The literals of `p` as they stand between their quotes. -/
def literals : List String :=
  ["[a-zA-Z0-9\\+\\.\\_\\%\\-\\+]\x7b1,256\x7d","\\\\@",
    "[a-zA-Z0-9][a-zA-Z0-9\\\\-]\x7b0,64\x7d","(","\\\\.",
    "[a-zA-Z0-9][a-zA-Z0-9\\\\-]\x7b0,25\x7d",")+"]

def p : Option String :=
  (literals.mapM fun literal => unescape literal.toList).map fun parts => String.ofList parts.flatten

def alphanumeric : List (Char × Char) := [('a','z'),('A','Z'),('0','9')]

/-- The hyphen between % and + makes a range of them. -/
def localClass : List (Char × Char) :=
  alphanumeric ++ [('+','+'),('.','.'),('_','_'),('%','+')]

def labelClass : List (Char × Char) := alphanumeric ++ [('-','-')]

def emailRegExp : Pattern :=
  .append (.repeated 1 (some 256) (.chars localClass)) (.append (.chars [('@','@')])
    (.append (.chars alphanumeric) (.append (.repeated 0 (some 64) (.chars labelClass))
      (.repeated 1 none (.append (.chars [('.','.')]) (.append (.chars alphanumeric)
        (.repeated 0 (some 25) (.chars labelClass))))))))

theorem regExp_p : p.bind regExp = some emailRegExp := by
  decide

def validator (emailValue : String) : Option String :=
  if emailValue.isEmpty then some "This field is mandatory"
  else if hasMatch emailRegExp emailValue.toList then none
  else some "This is not a valid email"

/-! What the validator is for, and what its pattern looks for. -/

def LabelCharacter (character : Char) : Prop := character.isAlphanum = true ∨ character = '-'

def Label (most : Nat) (label : List Char) : Prop :=
  ∃ first rest, label = first::rest ∧ first.isAlphanum = true ∧ rest.length ≤ most ∧
    ∀ character ∈ rest, LabelCharacter character

def LocalPart (name : List Char) : Prop :=
  1 ≤ name.length ∧ name.length ≤ 256 ∧
    ∀ character ∈ name, character.isAlphanum = true ∨ character ∈ ['+','.','_','%','-']

def labels (others : List (List Char)) : List Char := (others.map ('.'::·)).flatten

/-- local@label(.label)+ -/
def Address (text : List Char) : Prop :=
  ∃ name first others, text = name ++ '@'::(first ++ labels others) ∧ LocalPart name ∧
    Label 64 first ∧ others ≠ [] ∧ ∀ label ∈ others, Label 25 label

def Accepted (character : Char) : Prop :=
  character.isAlphanum = true ∨
    character ∈ ['+','.','_','%','&','\'','(',')','*']

/-- The shortest stretch with a match: one accepted character, @, and the least of two labels. -/
def Core (text : List Char) : Prop :=
  ∃ before character first middle last after,
    text = before ++ character :: '@'::first::(middle ++ '.'::last::after) ∧
    Accepted character ∧ first.isAlphanum = true ∧ middle.length ≤ 64 ∧
    (∀ inner ∈ middle, LabelCharacter inner) ∧ last.isAlphanum = true

theorem inClass_iff (ranges : List (Char × Char)) (character : Char) :
    inClass ranges character = true ↔
      ∃ range ∈ ranges, range.1.toNat ≤ character.toNat ∧ character.toNat ≤ range.2.toNat := by
  simp [inClass,Char.le_def,UInt32.le_iff_toNat_le]

theorem inClass_append (first second : List (Char × Char)) (character : Char) :
    inClass (first ++ second) character = true ↔
      inClass first character = true ∨ inClass second character = true := by
  simp [inClass]

theorem isAlphanum_iff (character : Char) : character.isAlphanum = true ↔
    (97 ≤ character.toNat ∧ character.toNat ≤ 122) ∨ (65 ≤ character.toNat ∧ character.toNat ≤ 90) ∨
      (48 ≤ character.toNat ∧ character.toNat ≤ 57) := by
  change (decide (character.val ≥ 'A'.val ∧ character.val ≤ 'Z'.val) ||
    (decide (character.val ≥ 'a'.val) && decide (character.val ≤ 'z'.val)) ||
    (decide (character.val ≥ '0'.val) && decide (character.val ≤ '9'.val))) = true ↔ _
  simp [UInt32.le_iff_toNat_le]
  omega

theorem alphanumeric_iff (character : Char) :
    inClass alphanumeric character = true ↔ character.isAlphanum = true := by
  rw [inClass_iff,isAlphanum_iff]
  simp [alphanumeric]

theorem single_iff (only character : Char) :
    inClass [(only,only)] character = true ↔ character = only := by
  rw [inClass_iff,← Char.toNat_inj]
  simp
  omega

theorem labelClass_iff (character : Char) :
    inClass labelClass character = true ↔ LabelCharacter character := by
  rw [labelClass,inClass_append,alphanumeric_iff,single_iff,LabelCharacter]

theorem localClass_iff (character : Char) :
    inClass localClass character = true ↔ Accepted character := by
  rw [localClass,inClass_append,alphanumeric_iff,Accepted]
  apply or_congr Iff.rfl
  rw [inClass_iff]
  simp [← Char.toNat_inj]
  omega

/-! The pattern with its upper bounds open: 256 for the local part, 25 for a further label, and
none for how many of these there are. -/

def emailPattern (localPart furtherLabel repeats : Option Nat) : Pattern :=
  .append (.repeated 1 localPart (.chars localClass)) (.append (.chars [('@','@')])
    (.append (.chars alphanumeric) (.append (.repeated 0 (some 64) (.chars labelClass))
      (.repeated 1 repeats (.append (.chars [('.','.')]) (.append (.chars alphanumeric)
        (.repeated 0 furtherLabel (.chars labelClass))))))))

theorem label_starts (most : Option Nat) (text : List Char)
    (matched : Matches (.append (.chars alphanumeric) (.repeated 0 most (.chars labelClass))) text) :
    ∃ first rest, text = first::rest ∧ first.isAlphanum = true := by
  obtain ⟨_,rest,rfl,⟨first,rfl,starts⟩,_⟩ := matched
  exact ⟨first,rest,rfl,(alphanumeric_iff first).mp starts⟩

theorem label_single (most : Option Nat) (first : Char) (starts : first.isAlphanum = true) :
    Matches (.append (.chars alphanumeric) (.repeated 0 most (.chars labelClass))) [first] := by
  refine ⟨[first],[],rfl,⟨first,rfl,(alphanumeric_iff first).mpr starts⟩,?_⟩
  rw [matches_class]
  exact ⟨Nat.zero_le _,fun bound _ => Nat.zero_le bound,by simp⟩

theorem core_of_match (localPart furtherLabel repeats : Option Nat) (inside before after : List Char)
    (matched : Matches (emailPattern localPart furtherLabel repeats) inside) :
    Core (before ++ inside ++ after) := by
  obtain ⟨name,_,rfl,named,_,_,rfl,⟨at_,rfl,isAt⟩,_,_,rfl,⟨first,rfl,starts⟩,middle,_,rfl,
    inner,parts,rfl,some_,_,all⟩ := matched
  rw [matches_class] at named inner
  rw [single_iff] at isAt
  subst isAt
  have nonempty : name ≠ [] := List.length_pos_iff.mp named.1
  obtain ⟨front,character,rfl⟩ := List.eq_nil_or_concat name |>.resolve_left nonempty
  obtain ⟨part,others,rfl⟩ := List.exists_cons_of_ne_nil (List.length_pos_iff.mp some_)
  obtain ⟨_,label,rfl,⟨dot,rfl,isDot⟩,labelled⟩ := all part List.mem_cons_self
  rw [single_iff] at isDot
  subst isDot
  obtain ⟨last,rest,rfl,ends⟩ := label_starts furtherLabel label labelled
  refine ⟨before ++ front,character,first,middle,last,rest ++ others.flatten ++ after,by simp,
    ?_,(alphanumeric_iff first).mp starts,inner.2.1 64 rfl,?_,ends⟩
  · exact (localClass_iff character).mp (named.2.2 character (by simp))
  · exact fun other member => (labelClass_iff other).mp (inner.2.2 other member)

/-- One character before the @ and one label after the first are enough for a match. -/
theorem match_of_core (localPart furtherLabel repeats : Option Nat) (text : List Char)
    (core : Core text) : ∃ before inside after, text = before ++ inside ++ after ∧
      Matches (emailPattern (localPart.map (· + 1)) furtherLabel (repeats.map (· + 1))) inside := by
  obtain ⟨before,character,first,middle,last,after,rfl,accepted,starts,short,inner,ends⟩ := core
  have positive (most : Option Nat) : ∀ bound ∈ most.map (· + 1), 1 ≤ bound := by
    intro bound member
    obtain ⟨_,_,rfl⟩ := Option.map_eq_some_iff.mp member
    exact Nat.le_add_left _ _
  refine ⟨before,[character] ++ (['@'] ++ ([first] ++ (middle ++ [['.',last]].flatten))),after,
    by simp,?_⟩
  refine ⟨_,_,rfl,?_,_,_,rfl,⟨'@',rfl,by decide⟩,_,_,rfl,
    ⟨first,rfl,(alphanumeric_iff first).mpr starts⟩,_,_,rfl,?_,_,rfl,by simp,positive repeats,?_⟩
  · rw [matches_class]
    exact ⟨by simp,positive localPart,by simpa using (localClass_iff character).mpr accepted⟩
  · rw [matches_class]
    refine ⟨Nat.zero_le _,?_,fun other member => (labelClass_iff other).mpr (inner other member)⟩
    rintro bound ⟨⟩
    exact short
  · intro part member
    obtain rfl := List.mem_singleton.mp member
    exact ⟨['.'],[last],rfl,⟨'.',rfl,by decide⟩,label_single furtherLabel last ends⟩

theorem hasMatch_bounds (localPart furtherLabel repeats : Option Nat) (text : List Char) :
    hasMatch (emailPattern (localPart.map (· + 1)) furtherLabel (repeats.map (· + 1))) text = true ↔
      Core text := by
  rw [hasMatch_iff]
  constructor
  · rintro ⟨before,inside,after,rfl,matched⟩
    exact core_of_match _ _ _ inside before after matched
  · exact match_of_core localPart furtherLabel repeats text

theorem hasMatch_core (text : List Char) : hasMatch emailRegExp text = true ↔ Core text :=
  hasMatch_bounds (some 255) (some 25) none text

/-- The pattern that the literals denote finds exactly these stretches, in every text, and so
does the pattern with any other bounds in the place of 256, 25 and the number of labels. -/
theorem pattern_core (emailValue : String) : ∃ pattern, p.bind regExp = some pattern ∧
    pattern = emailPattern (some 256) (some 25) none ∧
    (hasMatch pattern emailValue.toList = true ↔ Core emailValue.toList) ∧
    ∀ localPart furtherLabel repeats : Option Nat,
      hasMatch (emailPattern (localPart.map (· + 1)) furtherLabel (repeats.map (· + 1)))
        emailValue.toList = hasMatch pattern emailValue.toList := by
  have found := hasMatch_core emailValue.toList
  refine ⟨emailRegExp,regExp_p,rfl,found,?_⟩
  intro localPart furtherLabel repeats
  have others := hasMatch_bounds localPart furtherLabel repeats emailValue.toList
  exact Bool.eq_iff_iff.mpr (others.trans found.symm)

theorem validator_core (emailValue : String) :
    validator emailValue = none ↔ Core emailValue.toList := by
  by_cases empty : emailValue = ""
  · subst empty
    refine iff_of_false (by decide) ?_
    rintro ⟨before,character,first,middle,last,after,same,_⟩
    simp at same
  · have kept : emailValue.isEmpty = false := by simpa using empty
    simp [validator,kept,← hasMatch_core]

/-! An address has one @, so the stretch that the pattern finds lies around it. -/

theorem label_clear (most : Nat) (label : List Char) (labelled : Label most label) : '@' ∉ label := by
  obtain ⟨first,rest,rfl,starts,_,inner⟩ := labelled
  intro member
  rcases List.mem_cons.mp member with rfl | later
  · contradiction
  · rcases inner '@' later with alphanumeric | hyphen <;> contradiction

theorem labels_clear (others : List (List Char)) (labelled : ∀ label ∈ others, Label 25 label) :
    '@' ∉ labels others := by
  intro member
  obtain ⟨part,listed,inside⟩ := List.mem_flatten.mp member
  obtain ⟨label,among,rfl⟩ := List.mem_map.mp listed
  rcases List.mem_cons.mp inside with dot | later
  · contradiction
  · exact label_clear 25 label (labelled label among) later

theorem localPart_clear (name : List Char) (accepted : LocalPart name) : '@' ∉ name := by
  intro member
  rcases accepted.2.2 '@' member with alphanumeric | listed
  · contradiction
  · simp at listed

theorem split_unique (name domain before after : List Char) (clear : '@' ∉ name)
    (single : '@' ∉ domain) (same : name ++ '@'::domain = before ++ '@'::after) :
    name = before ∧ domain = after := by
  rcases List.append_eq_append_iff.mp same with ⟨between,rfl,rest⟩ | ⟨between,rfl,rest⟩
  · cases between with
    | nil => simpa using rest
    | cons head tail =>
      obtain ⟨rfl,rfl⟩ := List.cons.inj rest
      simp at single
  · cases between with
    | nil => simpa [eq_comm] using rest
    | cons head tail =>
      obtain ⟨rfl,rfl⟩ := List.cons.inj rest
      simp at clear

def HyphenBeforeAt (text : List Char) : Prop := ∃ before after, text = before ++ '-' :: '@'::after

theorem address_core (text : List Char) (address : Address text) :
    Core text ↔ ¬ HyphenBeforeAt text := by
  obtain ⟨name,label,others,rfl,named,labelled,some_,all⟩ := address
  have clear := localPart_clear name named
  have single : '@' ∉ label ++ labels others := by
    simp [label_clear 64 label labelled,labels_clear others all]
  constructor
  · rintro ⟨before,character,first,middle,last,after,same,accepted,_⟩ ⟨front,back,other⟩
    have here : name ++ '@'::(label ++ labels others) =
        (before ++ [character]) ++ '@'::first::(middle ++ '.'::last::after) := by simpa using same
    have there : name ++ '@'::(label ++ labels others) = (front ++ ['-']) ++ '@'::back := by
      simpa using other
    have ends := (split_unique _ _ _ _ clear single here).1.symm.trans
      (split_unique _ _ _ _ clear single there).1
    obtain ⟨_,hyphen⟩ := List.append_inj' ends rfl
    obtain rfl := List.head_eq_of_cons_eq hyphen
    simp [Accepted] at accepted
  · intro plain
    have nonempty : name ≠ [] := List.length_pos_iff.mp named.1
    obtain ⟨front,character,rfl⟩ := (List.eq_nil_or_concat name).resolve_left nonempty
    obtain ⟨next,rest,rfl⟩ := List.exists_cons_of_ne_nil some_
    obtain ⟨first,middle,rfl,starts,short,inner⟩ := labelled
    obtain ⟨last,tail,rfl,ends,_⟩ := all next List.mem_cons_self
    refine ⟨front,character,first,middle,last,tail ++ labels rest,by simp [labels],?_,starts,short,
      inner,ends⟩
    have different : character ≠ '-' := by
      rintro rfl
      exact plain ⟨front,first::(middle ++ labels ((last::tail)::rest)),by simp⟩
    rcases named.2.2 character (by simp) with alphanumeric | listed
    · exact Or.inl alphanumeric
    · simp only [List.mem_cons,List.not_mem_nil,or_false,different] at listed
      rcases listed with rfl | rfl | rfl | rfl <;> exact Or.inr (by decide)

theorem validator_iff (emailValue : String) :
    (validator emailValue = none ↔ Address emailValue.toList) ↔
      (Address emailValue.toList ∧ ¬ HyphenBeforeAt emailValue.toList) ∨
      (¬ Address emailValue.toList ∧ ¬ Core emailValue.toList) := by
  rw [validator_core]
  by_cases address : Address emailValue.toList
  · simp [address,address_core emailValue.toList address]
  · simp [address]

theorem validator_wrong :
    validator "x a@b.c y" = none ∧ ¬ Address "x a@b.c y".toList ∧
    validator "a-@b.c" ≠ none ∧ Address "a-@b.c".toList := by
  have address : Address "a-@b.c".toList := by
    refine ⟨['a','-'],['b'],[['c']],rfl,?_,⟨'b',[],rfl,rfl,by simp,by simp⟩,by simp,?_⟩
    · exact ⟨by simp,by simp,by simp⟩
    · simp [Label]
  refine ⟨?_,?_,?_,address⟩
  · rw [validator_core]
    exact ⟨"x ".toList,'a','b',[],'c'," y".toList,rfl,Or.inl rfl,rfl,by simp,by simp,rfl⟩
  · rintro ⟨name,label,others,same,named,labelled,_,all⟩
    have clear : '@' ∉ label ++ labels others := by
      simp [label_clear 64 label labelled,labels_clear others all]
    have split : name ++ '@'::(label ++ labels others) = "x a".toList ++ '@'::"b.c y".toList :=
      same.symm
    obtain ⟨rfl,_⟩ := split_unique _ _ _ _ (localPart_clear name named) clear split
    have blank := named.2.2 ' ' (by simp)
    simp at blank
  · rw [ne_eq,validator_core,address_core _ address,not_not]
    exact ⟨['a'],"b.c".toList,rfl⟩

end VisionsAcademy.EmailValidator
