import Mathlib.Data.List.Infix

/-! Regular expressions over characters: classes, concatenation and counted repetition,
with the language of a pattern, a matcher that lists what may remain of a text, and a
reader of the usual notation. -/
namespace RegularExpressions

def inClass (ranges : List (Char × Char)) (character : Char) : Bool :=
  ranges.any fun range => decide (range.1 ≤ character) && decide (character ≤ range.2)

inductive Pattern
  | empty
  | chars (ranges : List (Char × Char))
  | append (first second : Pattern)
  | repeated (least : Nat) (most : Option Nat) (inner : Pattern)
  deriving DecidableEq

def Matches : Pattern → List Char → Prop
  | .empty,text => text = []
  | .chars ranges,text => ∃ character, text = [character] ∧ inClass ranges character = true
  | .append first second,text => ∃ front back, text = front ++ back ∧
      Matches first front ∧ Matches second back
  | .repeated least most inner,text => ∃ parts : List (List Char), text = parts.flatten ∧
      least ≤ parts.length ∧ (∀ bound ∈ most, parts.length ≤ bound) ∧
      ∀ part ∈ parts, Matches inner part

def power (step : List Char → List (List Char)) : Nat → List Char → List (List Char)
  | 0,text => [text]
  | count + 1,text => (step text).flatMap (power step count)

/-- What may remain of a text after a match at its front. -/
def rests : Pattern → List Char → List (List Char)
  | .empty,text => [text]
  | .chars _,[] => []
  | .chars ranges,character::rest => if inClass ranges character then [rest] else []
  | .append first second,text => (rests first text).flatMap (rests second)
  | .repeated least most inner,text =>
    -- Rounds that consume nothing are needed at most to reach the lower bound.
    (List.range' least (most.getD (least + text.length) + 1 - least)).flatMap
      fun count => power (rests inner) count text

def hasMatch (pattern : Pattern) (text : List Char) : Bool :=
  text.tails.any fun suffix => !(rests pattern suffix).isEmpty

theorem mem_power (step : List Char → List (List Char)) (holds : List Char → Prop)
    (spec : ∀ text rest, rest ∈ step text ↔ ∃ front, text = front ++ rest ∧ holds front)
    (count : Nat) (text rest : List Char) :
    rest ∈ power step count text ↔ ∃ parts : List (List Char), parts.length = count ∧
      text = parts.flatten ++ rest ∧ ∀ part ∈ parts, holds part := by
  induction count generalizing text with
  | zero =>
    simp only [power,List.mem_singleton,List.length_eq_zero_iff]
    constructor
    · intro same
      exact ⟨[],rfl,same.symm,by simp⟩
    · rintro ⟨_,rfl,same,_⟩
      exact same.symm
  | succ count ih =>
    simp only [power,List.mem_flatMap,spec,ih]
    constructor
    · rintro ⟨_,⟨front,rfl,held⟩,parts,length,rfl,all⟩
      refine ⟨front::parts,by simp [length],by simp,?_⟩
      simpa using ⟨held,all⟩
    · rintro ⟨parts,length,rfl,all⟩
      obtain ⟨front,later,rfl⟩ := List.exists_cons_of_length_eq_add_one length
      refine ⟨later.flatten ++ rest,⟨front,by simp,all front (by simp)⟩,later,by simpa using length,
        rfl,?_⟩
      exact fun part member => all part (List.mem_cons_of_mem _ member)

/-- Rounds that match nothing can be left out, down to the lower bound. -/
theorem shorten (least : Nat) (parts : List (List Char)) (enough : least ≤ parts.length) :
    ∃ shorter : List (List Char), shorter.flatten = parts.flatten ∧
      (∀ part ∈ shorter, part ∈ parts) ∧ least ≤ shorter.length ∧
      shorter.length ≤ least + parts.flatten.length ∧ shorter.length ≤ parts.length := by
  induction parts generalizing least with
  | nil => exact ⟨[],rfl,by simp,by simpa using enough,by simp,by simp⟩
  | cons part rest ih =>
    by_cases spare : part = [] ∧ least ≤ rest.length
    · obtain ⟨rfl,remaining⟩ := spare
      obtain ⟨shorter,flat,among,above,below,fewer⟩ := ih least remaining
      refine ⟨shorter,by simp [flat],?_,above,by simpa using below,?_⟩
      · exact fun other member => List.mem_cons_of_mem _ (among other member)
      · simp only [List.length_cons]
        omega
    · have tail : least - 1 ≤ rest.length := by
        simp only [List.length_cons] at enough
        omega
      obtain ⟨shorter,flat,among,above,below,fewer⟩ := ih (least - 1) tail
      have room : least - 1 + 1 ≤ least + part.length := by
        rcases Nat.eq_zero_or_pos least with zero | positive
        · subst zero
          have nonempty : part ≠ [] := fun empty => spare ⟨empty,Nat.zero_le _⟩
          have length := List.length_pos_iff.mpr nonempty
          omega
        · omega
      refine ⟨part::shorter,by simp [flat],?_,?_,?_,?_⟩
      · intro other member
        rcases List.mem_cons.mp member with rfl | later
        · exact List.mem_cons_self
        · exact List.mem_cons_of_mem _ (among other later)
      · simp only [List.length_cons]
        omega
      · simp only [List.length_cons,List.flatten_cons,List.length_append]
        omega
      · simp only [List.length_cons]
        omega

theorem mem_rests (pattern : Pattern) (text rest : List Char) :
    rest ∈ rests pattern text ↔ ∃ front, text = front ++ rest ∧ Matches pattern front := by
  induction pattern generalizing text rest with
  | empty =>
    simp only [rests,List.mem_singleton,Matches]
    constructor
    · rintro rfl
      exact ⟨[],rfl,rfl⟩
    · rintro ⟨_,rfl,rfl⟩
      rfl
  | chars ranges =>
    cases text with
    | nil => simp [rests,Matches]
    | cons character later =>
      by_cases member : inClass ranges character = true
      · simp only [rests,member,if_true,List.mem_singleton,Matches]
        constructor
        · rintro rfl
          exact ⟨[character],rfl,character,rfl,member⟩
        · rintro ⟨_,split,other,rfl,_⟩
          exact (List.cons.inj split).2.symm
      · rw [rests,if_neg member]
        refine iff_of_false (by simp) ?_
        rintro ⟨_,split,other,rfl,accepted⟩
        obtain ⟨rfl,_⟩ := List.cons.inj split
        exact member accepted
  | append first second leftHand rightHand =>
    simp only [rests,List.mem_flatMap,leftHand,rightHand,Matches]
    constructor
    · rintro ⟨_,⟨front,rfl,one⟩,back,rfl,two⟩
      exact ⟨front ++ back,by simp,front,back,rfl,one,two⟩
    · rintro ⟨_,rfl,front,back,rfl,one,two⟩
      exact ⟨back ++ rest,⟨front,by simp,one⟩,back,rfl,two⟩
  | repeated least most inner ih =>
    simp only [rests,List.mem_flatMap,mem_power _ _ ih,List.mem_range'_1,Matches]
    constructor
    · rintro ⟨count,⟨above,below⟩,parts,rfl,rfl,all⟩
      refine ⟨parts.flatten,rfl,parts,rfl,above,?_,all⟩
      intro bound limited
      rw [Option.mem_def] at limited
      simp only [limited,Option.getD_some] at below
      omega
    · rintro ⟨_,rfl,parts,rfl,above,limited,all⟩
      obtain ⟨shorter,flat,among,enough,short,fewer⟩ := shorten least parts above
      refine ⟨shorter.length,⟨enough,?_⟩,shorter,rfl,by rw [flat],
        fun part member => all part (among part member)⟩
      cases most with
      | none =>
        simp only [Option.getD_none,List.length_append]
        omega
      | some bound =>
        have within := limited bound rfl
        simp only [Option.getD_some]
        omega

theorem hasMatch_iff (pattern : Pattern) (text : List Char) :
    hasMatch pattern text = true ↔
      ∃ before inside after, text = before ++ inside ++ after ∧ Matches pattern inside := by
  simp only [hasMatch,List.any_eq_true,List.mem_tails,Bool.not_eq_true',List.isEmpty_eq_false_iff]
  constructor
  · rintro ⟨suffix,⟨before,rfl⟩,some_⟩
    obtain ⟨after,found⟩ := List.exists_mem_of_ne_nil _ some_
    obtain ⟨inside,rfl,matched⟩ := (mem_rests pattern suffix after).mp found
    exact ⟨before,inside,after,by simp,matched⟩
  · rintro ⟨before,inside,after,rfl,matched⟩
    refine ⟨inside ++ after,⟨before,by simp⟩,?_⟩
    exact List.ne_nil_of_mem ((mem_rests pattern _ after).mpr ⟨inside,rfl,matched⟩)

theorem flatten_singletons (word : List Char) : (word.map ([·])).flatten = word := by
  rw [← List.flatMap_def,List.flatMap_singleton']

theorem matches_class (least : Nat) (most : Option Nat) (ranges : List (Char × Char))
    (text : List Char) :
    Matches (.repeated least most (.chars ranges)) text ↔ least ≤ text.length ∧
      (∀ bound ∈ most, text.length ≤ bound) ∧
      ∀ character ∈ text, inClass ranges character = true := by
  constructor
  · rintro ⟨parts,rfl,above,limited,all⟩
    have characters : ∃ word : List Char, parts = word.map ([·]) ∧
        ∀ character ∈ word, inClass ranges character = true := by
      clear above limited
      induction parts with
      | nil => exact ⟨[],rfl,by simp⟩
      | cons part rest ih =>
        obtain ⟨character,rfl,accepted⟩ := all part List.mem_cons_self
        obtain ⟨word,rfl,among⟩ := ih fun other member => all other (List.mem_cons_of_mem _ member)
        exact ⟨character::word,rfl,by simpa using ⟨accepted,among⟩⟩
    obtain ⟨word,rfl,among⟩ := characters
    rw [List.length_map] at above limited
    rw [flatten_singletons]
    exact ⟨above,limited,among⟩
  · rintro ⟨above,limited,all⟩
    refine ⟨text.map ([·]),(flatten_singletons text).symm,by simpa using above,
      by simpa using limited,?_⟩
    intro part member
    obtain ⟨character,listed,rfl⟩ := List.mem_map.mp member
    exact ⟨character,rfl,all character listed⟩

/-! The notation. An escaped letter or digit, an anchor, an alternative and a negated class are
not read. -/

inductive Token
  | plain (character : Char)
  | escaped (character : Char)
  deriving DecidableEq

def tokens : List Char → Option (List Token)
  | [] => some []
  | ['\\'] => none
  | '\\'::character::rest => (tokens rest).map (.escaped character::·)
  | character::rest => (tokens rest).map (.plain character::·)

def classAtom : Token → Option Char
  | .plain character => some character
  | .escaped character => if character.isAlphanum then none else some character

def syntaxCharacters : List Char := "^$.*+?()[]\x7b\x7d|".toList

def atomCharacter : Token → Option Char
  | .plain character => if syntaxCharacters.contains character then none else some character
  | token => classAtom token

def classRanges : List Token → Option (List (Char × Char) × List Token)
  | [] => none
  | .plain ']'::rest => some ([],rest)
  | first::.plain '-'::.plain ']'::rest => do
    let character ← classAtom first
    return ([(character,character),('-','-')],rest)
  -- An unescaped hyphen between two characters makes a range of them.
  | first::.plain '-'::last::rest => do
    let lower ← classAtom first
    let upper ← classAtom last
    let (ranges,after) ← classRanges rest
    if lower ≤ upper then return ((lower,upper)::ranges,after) else none
  | first::rest => do
    let character ← classAtom first
    let (ranges,after) ← classRanges rest
    return ((character,character)::ranges,after)

def digit : Token → Option Nat
  | .plain character => if character.isDigit then some (character.toNat - '0'.toNat) else none
  | .escaped _ => none

def decimal (source : List Token) : Option (Nat × List Token) :=
  let digits := source.takeWhile fun token => (digit token).isSome
  if digits.isEmpty then none
  else some ((digits.filterMap digit).foldl (fun value next => 10 * value + next) 0,
    source.drop digits.length)

def quantified (atom : Pattern) : List Token → Option (Pattern × List Token)
  | .plain '*'::rest => some (.repeated 0 none atom,rest)
  | .plain '+'::rest => some (.repeated 1 none atom,rest)
  | .plain '?'::rest => some (.repeated 0 (some 1) atom,rest)
  | .plain '\x7b'::rest => do
    match ← decimal rest with
    | (least,.plain '\x7d'::after) => return (.repeated least (some least) atom,after)
    | (least,.plain ','::.plain '\x7d'::after) => return (.repeated least none atom,after)
    | (least,.plain ','::more) =>
      match ← decimal more with
      | (most,.plain '\x7d'::after) => return (.repeated least (some most) atom,after)
      | _ => none
    | _ => none
  | rest => some (atom,rest)

def sequence : List Pattern → Pattern
  | [] => .empty
  | [pattern] => pattern
  | pattern::rest => .append pattern (sequence rest)

/-- Reads the terms of a group; `outer` holds what stood before each open parenthesis. -/
def terms : Nat → List Pattern → List (List Pattern) → List Token → Option Pattern
  | 0,_,_,_ => none
  | _ + 1,current,outer,[] => if outer.isEmpty then some (sequence current) else none
  | fuel + 1,current,outer,.plain '('::rest => terms fuel [] (current::outer) rest
  | fuel + 1,current,enclosing::outer,.plain ')'::rest => do
    let (group,after) ← quantified (sequence current) rest
    terms fuel (enclosing ++ [group]) outer after
  | _ + 1,_,_,.plain '['::.plain '^'::_ => none
  | fuel + 1,current,outer,.plain '['::rest => do
    let (ranges,closed) ← classRanges rest
    let (atom,after) ← quantified (.chars ranges) closed
    terms fuel (current ++ [atom]) outer after
  | fuel + 1,current,outer,token::rest => do
    let character ← atomCharacter token
    let (atom,after) ← quantified (.chars [(character,character)]) rest
    terms fuel (current ++ [atom]) outer after

def regExp (source : String) : Option Pattern := do
  let tokens ← tokens source.toList
  terms (tokens.length + 1) [] [] tokens

end RegularExpressions
