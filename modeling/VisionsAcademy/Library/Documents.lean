import VisionsAcademy.Library.Entries
import VisionsAcademy.Library.FieldPaths

/-! Documents of a Firestore-like store: trees of named fields, read and written
through field paths. `set` replaces a document, `setMerge` writes the leaves of
its data one by one, and `update` writes at dotted paths. An `update` without a document
and a write with a name that is not valid throw. A map with a repeated key stands for the
map of its first entries. -/
namespace DocumentStore

def doubleCharacters : List Char := "0123456789.+-eNaInfity".toList

/-- What a program sees of a double: the text that it prints and the integer that it equals,
if any. -/
structure Double where
  printed : String
  integer : Option Int
  numeric : ∀ character ∈ printed.toList, character ∈ doubleCharacters

inductive Value
  | null
  | boolean (truth : Bool)
  | number (value : Int)
  | double (value : Double)
  | string (text : String)
  | timestamp (seconds : Int) (nanoseconds : Nat)
  | dateTime (microseconds : Int)
  | array (elements : List Value)
  | map (entries : List (String × Value))

abbrev Fields := List (String × Value)

abbrev Snapshot := Option Fields

abbrev Collection := String → Snapshot

/-- The fields a write finds at a value: anything but a map is overwritten by one. -/
def Value.fields : Value → Fields
  | .map entries => entries
  | _ => []

@[simp] theorem Value.fields_map (entries : Fields) : (Value.map entries).fields = entries := rfl

def Value.get : Path → Value → Option Value
  | [],value => some value
  | key::rest,value => (value.fields.lookup key).bind (Value.get rest)

def Value.assign : Path → Value → Value → Value
  | [],new,_ => new
  | key::rest,new,old =>
    .map (Entries.assign key (Value.assign rest new ((old.fields.lookup key).getD .null)) old.fields)

theorem Value.get_append (first second : Path) (value : Value) :
    value.get (first ++ second) = (value.get first).bind (Value.get second) := by
  induction first generalizing value with
  | nil => rfl
  | cons key rest ih =>
    simp only [List.cons_append,Value.get]
    cases value.fields.lookup key with
    | none => rfl
    | some inner => exact ih inner

@[simp] theorem Value.get_assign (path : Path) (new old : Value) :
    (Value.assign path new old).get path = some new := by
  induction path generalizing old with
  | nil => rfl
  | cons key rest ih => simp [Value.assign,Value.get,ih]

def Apart (first second : Path) : Prop := ¬ first <+: second ∧ ¬ second <+: first

instance (first second : Path) : Decidable (Apart first second) :=
  inferInstanceAs (Decidable (_ ∧ _))

theorem apart_symm (first second : Path) (apart : Apart first second) : Apart second first :=
  ⟨apart.2,apart.1⟩

theorem apart_cons (key : String) (first second : Path) :
    Apart (key::first) (key::second) ↔ Apart first second := by
  simp [Apart,List.cons_prefix_cons]

theorem apart_heads (left right : String) (first second : Path) (different : left ≠ right) :
    Apart (left::first) (right::second) := by
  simp [Apart,List.cons_prefix_cons,different,Ne.symm different]

theorem Value.get_assign_apart (path other : Path) (new old : Value) (apart : Apart path other) :
    (Value.assign path new old).get other = old.get other := by
  induction path generalizing old other with
  | nil => exact absurd (List.nil_prefix) apart.1
  | cons key rest ih =>
    cases other with
    | nil => exact absurd (List.nil_prefix) apart.2
    | cons head tail =>
      simp only [Value.assign,Value.get,Value.fields_map]
      by_cases equal : head = key
      · subst head
        have inner := (apart_cons key rest tail).mp apart
        rw [Entries.lookup_assign_self,Option.bind_some,ih tail _ inner]
        cases old.fields.lookup key with
        | some value => rfl
        | none =>
          cases tail with
          | nil => exact absurd (List.nil_prefix) inner.2
          | cons => rfl
      · rw [Entries.lookup_assign_other _ _ _ _ equal]

theorem Value.get_assign_above (path below : Path) (new old : Value) (proper : below ≠ []) :
    ∃ entries, (Value.assign (path ++ below) new old).get path = some (.map entries) := by
  induction path generalizing old with
  | nil =>
    obtain ⟨key,rest,rfl⟩ := List.exists_cons_of_ne_nil proper
    exact ⟨_,rfl⟩
  | cons key rest ih =>
    obtain ⟨entries,found⟩ := ih ((old.fields.lookup key).getD .null)
    exact ⟨entries,by simpa [Value.assign,Value.get] using found⟩

theorem Value.assign_present (path : Path) (value old : Value) (present : old.get path = some value) :
    Value.assign path value old = old := by
  induction path generalizing old with
  | nil => exact (Option.some.inj present).symm
  | cons key rest ih =>
    obtain ⟨inner,found,remaining⟩ := Option.bind_eq_some_iff.mp present
    simp only [Value.assign,found,Option.getD_some,ih inner remaining]
    rw [Entries.assign_present key inner old.fields found]
    cases old with
    | map => rfl
    | _ => simp [Value.fields] at found

theorem Value.assign_append (first second : Path) (new old : Value) :
    Value.assign (first ++ second) new old =
      Value.assign first (Value.assign second new ((old.get first).getD .null)) old := by
  induction first generalizing old with
  | nil => rfl
  | cons key rest ih =>
    simp only [List.cons_append,Value.assign,Value.get,ih]
    cases old.fields.lookup key with
    | some inner => rfl
    | none =>
      have nothing : (Value.get rest .null).getD .null = .null := by
        cases rest <;> rfl
      simp [nothing]

theorem Value.assign_assign (path : Path) (first second old : Value) :
    Value.assign path second (Value.assign path first old) = Value.assign path second old := by
  induction path generalizing old with
  | nil => rfl
  | cons key rest ih => simp [Value.assign,ih]

def valueAt (path : Path) (fields : Fields) : Option Value := (Value.map fields).get path

def assignAt (path : Path) (new : Value) (fields : Fields) : Fields :=
  (Value.assign path new (.map fields)).fields

theorem valueAt_append (first second : Path) (fields : Fields) :
    valueAt (first ++ second) fields = (valueAt first fields).bind (Value.get second) :=
  Value.get_append first second _

theorem map_assignAt (key : String) (rest : Path) (new : Value) (fields : Fields) :
    Value.map (assignAt (key::rest) new fields) = Value.assign (key::rest) new (.map fields) := rfl

@[simp] theorem valueAt_assignAt (key : String) (rest : Path) (new : Value) (fields : Fields) :
    valueAt (key::rest) (assignAt (key::rest) new fields) = some new := by
  rw [valueAt,map_assignAt,Value.get_assign]

theorem valueAt_assignAt_apart (path other : Path) (new : Value) (fields : Fields)
    (apart : Apart path other) : valueAt other (assignAt path new fields) = valueAt other fields := by
  cases path with
  | nil => exact absurd (List.nil_prefix) apart.1
  | cons key rest => rw [valueAt,map_assignAt,Value.get_assign_apart _ _ _ _ apart,valueAt]

theorem assignAt_assignAt (key : String) (rest below : Path) (first second : Value)
    (fields : Fields) :
    assignAt (key::rest ++ below) second (assignAt (key::rest) first fields) =
      assignAt (key::rest) (Value.assign below second first) fields := by
  have joined : Value.assign (key::rest ++ below) second (Value.assign (key::rest) first
      (.map fields)) = Value.assign (key::rest) (Value.assign below second first) (.map fields) := by
    rw [Value.assign_append,Value.get_assign,Option.getD_some,Value.assign_assign]
  rw [assignAt,map_assignAt,joined,assignAt]

-- What a merge writes: the leaves of its data, an empty map being one of them.
mutual
def leaves : Value → List (Path × Value)
  | .map [] => [([],.map [])]
  | .map (entry::rest) => fieldLeaves (entry::rest)
  | value => [([],value)]
def fieldLeaves : Fields → List (Path × Value)
  | [] => []
  | (key,value)::rest => (leaves value).map (fun leaf => (key::leaf.1,leaf.2)) ++ fieldLeaves rest
end

def assignMany (writes : List (Path × Value)) (fields : Fields) : Fields :=
  writes.foldl (fun fields write => assignAt write.1 write.2 fields) fields

@[simp] theorem assignMany_nil (fields : Fields) : assignMany [] fields = fields := rfl

@[simp] theorem assignMany_cons (write : Path × Value) (rest : List (Path × Value)) (fields : Fields) :
    assignMany (write::rest) fields = assignMany rest (assignAt write.1 write.2 fields) := rfl

theorem assignMany_append (first second : List (Path × Value)) (fields : Fields) :
    assignMany (first ++ second) fields = assignMany second (assignMany first fields) :=
  List.foldl_append

theorem valueAt_assignMany_apart (writes : List (Path × Value)) (other : Path) (fields : Fields)
    (apart : ∀ write ∈ writes, Apart write.1 other) :
    valueAt other (assignMany writes fields) = valueAt other fields := by
  induction writes generalizing fields with
  | nil => rfl
  | cons write rest ih =>
    rw [assignMany_cons,ih _ (fun later member => apart later (List.mem_cons_of_mem _ member)),
      valueAt_assignAt_apart _ _ _ _ (apart write (by simp))]

theorem valueAt_assignMany (writes : List (Path × Value)) (fields : Fields)
    (apart : writes.Pairwise fun first second => Apart first.1 second.1)
    (write : Path × Value) (member : write ∈ writes) (proper : write.1 ≠ []) :
    valueAt write.1 (assignMany writes fields) = some write.2 := by
  induction writes generalizing fields with
  | nil => contradiction
  | cons head rest ih =>
    obtain ⟨here,later⟩ := List.pairwise_cons.mp apart
    rw [assignMany_cons]
    rcases List.mem_cons.mp member with rfl | tail
    · rw [valueAt_assignMany_apart _ _ _ fun other found => apart_symm _ _ (here other found)]
      obtain ⟨key,below,path⟩ := List.exists_cons_of_ne_nil proper
      rw [path,valueAt_assignAt]
    · exact ih _ later tail

theorem assignMany_present (writes : List (Path × Value)) (fields : Fields)
    (present : ∀ write ∈ writes, valueAt write.1 fields = some write.2) :
    assignMany writes fields = fields := by
  induction writes with
  | nil => rfl
  | cons head rest ih =>
    have stored : assignAt head.1 head.2 fields = fields := by
      rw [assignAt,Value.assign_present _ _ _ (present head List.mem_cons_self),Value.fields_map]
    rw [assignMany_cons,stored]
    exact ih fun write member => present write (List.mem_cons_of_mem _ member)

-- The names in the data of a write, at every depth.
mutual
def validate : Value → Bool
  | .array elements => validateAll elements
  | .map entries => validateFields entries
  | _ => true
def validateAll : List Value → Bool
  | [] => true
  | value::rest => validate value && validateAll rest
def validateFields : Fields → Bool
  | [] => true
  | (key,value)::rest => validatePathSegment key.toList && validate value && validateFields rest
end

/-- The data of a `set` has its names written out in the source, all of them valid. -/
def set (data : Fields) (_ : Snapshot) : Snapshot := some data

def merge (data : Fields) (snapshot : Snapshot) : Fields :=
  assignMany (fieldLeaves data) (snapshot.getD [])

def setMerge (data : Fields) (snapshot : Snapshot) : Option Fields :=
  if validateFields data then some (merge data snapshot) else none

def update (data : List (String × Value)) : Snapshot → Option Fields
  | none => none
  | some fields => do
    let writes ← data.mapM fun entry =>
      if validate entry.2 then (fieldPath entry.1).map fun path => (path,entry.2) else none
    return assignMany writes fields

/-! Collections with the documents that `doc(null)` has put under new ids. No later call finds
these again. -/

structure Documents where
  doc : Collection
  added : List Fields

def Documents.get (documents : Documents) (id : Option String) : Snapshot := id.bind documents.doc

def Documents.put (documents : Documents) (id : Option String) (document : Snapshot) : Documents :=
  match id with
  | some id => {documents with doc := Function.update documents.doc id document}
  | none => {documents with added := documents.added ++ document.toList}

def Documents.Held (documents : Documents) (id : Option String) (fields : Fields) : Prop :=
  match id with
  | some id => documents.doc id = some fields
  | none => fields ∈ documents.added

@[simp] theorem Documents.put_get (documents : Documents) (id : Option String) :
    documents.put id (documents.get id) = documents := by
  cases id with
  | none => simp [Documents.put,Documents.get]
  | some id => simp [Documents.put,Documents.get]

theorem Documents.put_eq (documents : Documents) (id : Option String) (document : Snapshot) :
    documents.put id document = documents ↔ document = documents.get id := by
  constructor
  · intro same
    cases id with
    | none => simpa [Documents.put,Documents.get] using congrArg (·.added.length) same
    | some id => simpa [Documents.put,Documents.get] using congrArg (·.doc id) same
  · rintro rfl
    exact documents.put_get id

@[simp] theorem Documents.put_self (documents : Documents) (id : String) (document : Snapshot) :
    (documents.put (some id) document).doc id = document :=
  Function.update_self ..

theorem Documents.put_doc (documents : Documents) (id : Option String) (document : Snapshot)
    (other : String) (different : id ≠ some other) :
    (documents.put id document).doc other = documents.doc other := by
  cases id with
  | none => rfl
  | some id => exact Function.update_of_ne (fun same => different (congrArg some same.symm)) _ _

theorem Documents.held_put (documents : Documents) (id other : Option String) (document : Snapshot)
    (fields : Fields) (held : (documents.put id document).Held other fields) :
    documents.Held other fields ∨ other = id ∧ document = some fields := by
  cases id with
  | none =>
    cases other with
    | none =>
      rcases List.mem_append.mp held with earlier | last
      · exact Or.inl earlier
      · exact Or.inr ⟨rfl,Option.mem_toList.mp last⟩
    | some other => exact Or.inl held
  | some id =>
    cases other with
    | none => exact Or.inl held
    | some other =>
      by_cases same : other = id
      · subst same
        right
        simpa [Documents.Held,Documents.put] using held
      · left
        rwa [Documents.Held,Documents.put_doc _ _ _ _ (by simpa using Ne.symm same)] at held

theorem Documents.put_held (documents : Documents) (id : Option String) (fields : Fields) :
    (documents.put id (some fields)).Held id fields := by
  cases id with
  | none => exact List.mem_append_right _ (List.mem_singleton.mpr rfl)
  | some id => exact Function.update_self _ _ _

theorem Documents.held_get (documents : Documents) (id : Option String) (fields : Fields)
    (present : documents.get id = some fields) : documents.Held id fields := by
  cases id with
  | none => contradiction
  | some id => exact present

def Documents.Tells (documents : Documents) (id : Option String) (name : String) (value : Value) :
    Prop :=
  ∃ fields, documents.Held id fields ∧ valueAt [name] fields = some value

theorem Documents.tells_get (documents : Documents) (id : Option String) (name : String)
    (value : Value) (present : (documents.get id).bind (valueAt [name]) = some value) :
    documents.Tells id name value := by
  obtain ⟨fields,found,field⟩ := Option.bind_eq_some_iff.mp present
  exact ⟨fields,documents.held_get id fields found,field⟩

theorem Documents.tells_put (documents : Documents) (id other : Option String) (document : Snapshot)
    (name : String) (value : Value) (tells : (documents.put id document).Tells other name value) :
    documents.Tells other name value ∨ other = id ∧ document.bind (valueAt [name]) = some value := by
  obtain ⟨fields,held,field⟩ := tells
  rcases documents.held_put id other document fields held with before | ⟨same,rfl⟩
  · exact Or.inl ⟨fields,before,field⟩
  · exact Or.inr ⟨same,field⟩

theorem Documents.put_tells (documents : Documents) (id : Option String) (document : Snapshot)
    (name : String) (value : Value) (written : document.bind (valueAt [name]) = some value) :
    (documents.put id document).Tells id name value := by
  obtain ⟨fields,rfl,field⟩ := Option.bind_eq_some_iff.mp written
  exact ⟨fields,documents.put_held id fields,field⟩

end DocumentStore
