import Mathlib.Data.List.Perm.Basic
import Mathlib.Data.List.Nodup

/-! Finite maps as association lists, read with `List.lookup`: the first entry of
a key is the one that counts. `assign` replaces that entry in place or adds a new
one at the end, so a key keeps its position when its value changes. -/
namespace Entries

variable {Key Value : Type*} [DecidableEq Key]

def assign (key : Key) (value : Value) : List (Key × Value) → List (Key × Value)
  | [] => [(key,value)]
  | (other,previous)::rest =>
    if key = other then (key,value)::rest else (other,previous)::assign key value rest

def assignAll (writes entries : List (Key × Value)) : List (Key × Value) :=
  writes.foldl (fun entries write => assign write.1 write.2 entries) entries

theorem assignAll_append (first second entries : List (Key × Value)) :
    assignAll (first ++ second) entries = assignAll second (assignAll first entries) :=
  List.foldl_append

theorem lookup_cons_other (key other : Key) (value : Value) (rest : List (Key × Value))
    (different : key ≠ other) : ((other,value)::rest).lookup key = rest.lookup key := by
  rw [List.lookup_cons,beq_eq_false_iff_ne.mpr different]

theorem lookup_mem (key : Key) (value : Value) (entries : List (Key × Value))
    (present : entries.lookup key = some value) : (key,value) ∈ entries := by
  obtain ⟨before,after,rfl,_⟩ := List.lookup_eq_some_iff.mp present
  simp

@[simp] theorem lookup_assign_self (key : Key) (value : Value) (entries : List (Key × Value)) :
    (assign key value entries).lookup key = some value := by
  induction entries with
  | nil => simp [assign]
  | cons entry rest ih =>
    rcases entry with ⟨other,previous⟩
    by_cases equal : key = other
    · simp [assign,equal]
    · rw [assign,if_neg equal,lookup_cons_other _ _ _ _ equal,ih]

theorem lookup_assign_other (key other : Key) (value : Value) (entries : List (Key × Value))
    (different : other ≠ key) : (assign key value entries).lookup other = entries.lookup other := by
  induction entries with
  | nil => exact lookup_cons_other _ _ _ _ different
  | cons entry rest ih =>
    rcases entry with ⟨head,previous⟩
    by_cases equal : key = head
    · subst head
      rw [assign,if_pos rfl,lookup_cons_other _ _ _ _ different,lookup_cons_other _ _ _ _ different]
    · rw [assign,if_neg equal,List.lookup_cons,List.lookup_cons,ih]

theorem assign_present (key : Key) (value : Value) (entries : List (Key × Value))
    (present : entries.lookup key = some value) : assign key value entries = entries := by
  induction entries with
  | nil => simp at present
  | cons entry rest ih =>
    rcases entry with ⟨other,previous⟩
    by_cases equal : key = other
    · subst other
      have same : previous = value := by simpa [List.lookup_cons] using present
      simp [assign,same]
    · rw [lookup_cons_other _ _ _ _ equal] at present
      rw [assign,if_neg equal,ih present]

@[simp] theorem assign_assign (key : Key) (first second : Value) (entries : List (Key × Value)) :
    assign key second (assign key first entries) = assign key second entries := by
  induction entries with
  | nil => simp [assign]
  | cons entry rest ih =>
    rcases entry with ⟨other,previous⟩
    by_cases equal : key = other
    · simp [assign,equal]
    · simp [assign,equal,ih]

theorem lookup_mapValues {Other : Type*} (convert : Value → Other) (key : Key)
    (entries : List (Key × Value)) :
    (entries.map fun entry => (entry.1,convert entry.2)).lookup key =
      (entries.lookup key).map convert := by
  induction entries with
  | nil => rfl
  | cons entry rest ih =>
    rcases entry with ⟨other,value⟩
    by_cases equal : key = other
    · simp [equal]
    · rw [List.map_cons,lookup_cons_other _ _ _ _ equal,lookup_cons_other _ _ _ _ equal,ih]

theorem assign_fresh (key : Key) (value : Value) (entries : List (Key × Value))
    (fresh : key ∉ entries.map Prod.fst) : assign key value entries = entries ++ [(key,value)] := by
  induction entries with
  | nil => rfl
  | cons entry rest ih =>
    rcases entry with ⟨other,previous⟩
    simp only [List.map_cons,List.mem_cons,not_or] at fresh
    simp [assign,fresh.1,ih fresh.2]

theorem mem_assign_self (key : Key) (value : Value) (entries : List (Key × Value)) :
    (key,value) ∈ assign key value entries := by
  induction entries with
  | nil => simp [assign]
  | cons entry rest ih =>
    rcases entry with ⟨other,previous⟩
    by_cases equal : key = other
    · simp [assign,equal]
    · rw [assign,if_neg equal]
      exact List.mem_cons_of_mem _ ih

theorem mem_assign (key : Key) (value : Value) (entries : List (Key × Value)) (entry : Key × Value)
    (member : entry ∈ assign key value entries) : entry = (key,value) ∨ entry ∈ entries := by
  induction entries with
  | nil => exact Or.inl (List.mem_singleton.mp member)
  | cons head rest ih =>
    rcases head with ⟨other,previous⟩
    by_cases equal : key = other
    · rw [assign,if_pos equal] at member
      rcases List.mem_cons.mp member with same | tail
      · exact Or.inl same
      · exact Or.inr (List.mem_cons_of_mem _ tail)
    · rw [assign,if_neg equal] at member
      rcases List.mem_cons.mp member with same | tail
      · exact Or.inr (same ▸ List.mem_cons_self)
      · exact (ih tail).imp_right (List.mem_cons_of_mem _)

theorem length_assign_used (key : Key) (value : Value) (entries : List (Key × Value))
    (used : key ∈ entries.map Prod.fst) : (assign key value entries).length = entries.length := by
  induction entries with
  | nil => simp at used
  | cons entry rest ih =>
    rcases entry with ⟨other,previous⟩
    by_cases equal : key = other
    · simp [assign,equal]
    · have tail : key ∈ rest.map Prod.fst := by
        simpa only [List.map_cons,List.mem_cons,equal,false_or] using used
      simp [assign,equal,ih tail]

theorem length_assign_le (key : Key) (value : Value) (entries : List (Key × Value)) :
    (assign key value entries).length ≤ entries.length + 1 := by
  by_cases used : key ∈ entries.map Prod.fst
  · rw [length_assign_used key value entries used]
    omega
  · simp [assign_fresh key value entries used]

theorem length_assignAll_le (writes entries : List (Key × Value)) :
    (assignAll writes entries).length ≤ entries.length + writes.length := by
  induction writes generalizing entries with
  | nil => simp [assignAll]
  | cons write rest ih =>
    have head := length_assign_le write.1 write.2 entries
    have tail := ih (assign write.1 write.2 entries)
    simp only [assignAll,List.foldl_cons,List.length_cons] at tail ⊢
    omega

theorem assignAll_fresh (writes entries : List (Key × Value))
    (distinct : ((entries ++ writes).map Prod.fst).Nodup) :
    assignAll writes entries = entries ++ writes := by
  induction writes generalizing entries with
  | nil => simp [assignAll]
  | cons write rest ih =>
    have fresh : write.1 ∉ entries.map Prod.fst := by
      intro used
      simp only [List.map_append,List.map_cons,List.nodup_append] at distinct
      exact distinct.2.2 _ used _ (by simp) rfl
    have shifted : ((entries ++ [(write.1,write.2)] ++ rest).map Prod.fst).Nodup := by
      simpa using distinct
    simp only [assignAll,List.foldl_cons,assign_fresh _ _ _ fresh]
    simpa [assignAll] using ih _ shifted

theorem length_assignAll (writes entries : List (Key × Value))
    (distinct : (entries.map Prod.fst).Nodup) :
    (assignAll writes entries).length = entries.length + writes.length ↔
      ((entries ++ writes).map Prod.fst).Nodup := by
  constructor
  · intro kept
    induction writes generalizing entries with
    | nil => simpa using distinct
    | cons write rest ih =>
      have bound := length_assignAll_le rest (assign write.1 write.2 entries)
      simp only [assignAll,List.foldl_cons,List.length_cons] at kept bound
      have fresh : write.1 ∉ entries.map Prod.fst := by
        intro used
        have same := length_assign_used write.1 write.2 entries used
        omega
      rw [assign_fresh _ _ _ fresh] at kept
      have grown : ((entries ++ [(write.1,write.2)]).map Prod.fst).Nodup := by
        simpa [List.nodup_append,distinct] using fun key value member equal =>
          fresh (List.mem_map.mpr ⟨(key,value),member,equal⟩)
      have tail := ih (entries ++ [(write.1,write.2)]) grown (by
        simp only [assignAll,List.length_append,List.length_singleton]
        omega)
      simpa using tail
  · intro nodup
    rw [assignAll_fresh writes entries nodup,List.length_append]

theorem mem_modify {Entry : Type*} (entries : List Entry) (index : Nat) (change : Entry → Entry)
    (entry : Entry) (member : entry ∈ entries.modify index change) :
    ∃ before ∈ entries, entry = before ∨ entry = change before := by
  obtain ⟨other,found⟩ := List.mem_iff_getElem?.mp member
  rw [List.getElem?_modify] at found
  obtain ⟨before,here,changed⟩ := Option.map_eq_some_iff.mp found
  refine ⟨before,List.mem_of_getElem? here,?_⟩
  split at changed
  · exact Or.inr changed.symm
  · exact Or.inl changed.symm

end Entries
